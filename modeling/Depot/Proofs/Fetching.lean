import Depot.Engine
import Depot.Proofs.Storing

/-! What a resolution answers. The repositories are tried one after the other (`Resolution.Course`).
One that refuses or lacks the artifact changes nothing, but one whose file cannot be stored may leave
directories, or the beginning of a copy, and the next one is tried among these files. So each
repository is judged by the files as they are when its turn comes (`Resolution.ComesTo`), and the
answer is the first delivery, else the first of the failures that were met (`Resolution.Answer`). Of
the files at the beginning at most the artifact's own is another one when a turn comes
(`ComesTo.disturbed`). -/

namespace Depot

namespace Resolution

variable {chain : LocalChain} {files : FileSystem} {a : Artifact} {r : RemoteRepository}

/-- Why a repository is not asked. -/
inductive Refuses (r : RemoteRepository) : ResolutionError → Prop where
  | blocked (h : r.blocked = true) : Refuses r (.blocked r.id)
  | unreachable (h : r.blocked = false) (hroot : directory? r.url = none) :
    Refuses r (.transportUnavailable r.id r.url)

/-- The repository can be asked, and this is where the artifact lies in it. -/
structure LiesAt (a : Artifact) (r : RemoteRepository) (source : Path) : Prop where
  unblocked : r.blocked = false
  reached : ∃ root, directory? r.url = some root ∧ source = root.join a.relativePath

/-- The repository can be asked, and does not have the artifact. -/
def Lacks (files : FileSystem) (a : Artifact) (r : RemoteRepository) : Prop :=
  ∃ source, LiesAt a r source ∧ files.isFile source = false

/-- The repository has the artifact, and copying it into the head of the chain succeeds; what that
leaves. -/
def Delivers (chain : LocalChain) (files : FileSystem) (a : Artifact) (r : RemoteRepository)
    (stored : Path) (left : FileSystem) : Prop :=
  ∃ source, LiesAt a r source ∧ files.isFile source = true ∧
    chain.add files a source = (.ok stored, left)

/-- Trying the repository fails, which is more than lacking the artifact; what that leaves. -/
inductive Fails (chain : LocalChain) (files : FileSystem) (a : Artifact) (r : RemoteRepository) :
    ResolutionError → FileSystem → Prop where
  | refused {failure : ResolutionError} (h : Refuses r failure) :
    Fails chain files a r failure files
  | unstored {source : Path} {cause : LocalRepositoryError} {left : FileSystem}
    (h : LiesAt a r source) (hfile : files.isFile source = true)
    (hadd : chain.add files a source = (.error cause, left)) :
    Fails chain files a r (.storage cause) left

/-- The turn of a repository comes, among these files: those before it lack the artifact, or fail and
leave other files. -/
inductive ComesTo (chain : LocalChain) (a : Artifact) : FileSystem → List RemoteRepository →
    RemoteRepository → FileSystem → Prop where
  | first (files : FileSystem) (r : RemoteRepository) (rest : List RemoteRepository) :
    ComesTo chain a files (r :: rest) r files
  | lacked {files turn : FileSystem} {b r : RemoteRepository} {rest : List RemoteRepository}
    (h : Lacks files a b) (hlater : ComesTo chain a files rest r turn) :
    ComesTo chain a files (b :: rest) r turn
  | failed {files left turn : FileSystem} {b r : RemoteRepository} {rest : List RemoteRepository}
    {failure : ResolutionError} (h : Fails chain files a b failure left)
    (hlater : ComesTo chain a left rest r turn) : ComesTo chain a files (b :: rest) r turn

/-- None of the repositories delivers when its turn comes: the failures that are met, in order, and
the files that are left. -/
inductive Passed (chain : LocalChain) (a : Artifact) : FileSystem → List RemoteRepository →
    List ResolutionError → FileSystem → Prop where
  | nil (files : FileSystem) : Passed chain a files [] [] files
  | lacked {files last : FileSystem} {r : RemoteRepository} {rest : List RemoteRepository}
    {failures : List ResolutionError} (h : Lacks files a r)
    (hlater : Passed chain a files rest failures last) :
    Passed chain a files (r :: rest) failures last
  | failed {files left last : FileSystem} {r : RemoteRepository} {rest : List RemoteRepository}
    {failure : ResolutionError} {failures : List ResolutionError}
    (h : Fails chain files a r failure left) (hlater : Passed chain a left rest failures last) :
    Passed chain a files (r :: rest) (failure :: failures) last

theorem refuses_or_liesAt (a : Artifact) (r : RemoteRepository) :
    (∃ failure, Refuses r failure) ∨ ∃ source, LiesAt a r source := by
  cases hblocked : r.blocked with
  | true => exact .inl ⟨_, .blocked hblocked⟩
  | false =>
    cases hroot : directory? r.url with
    | none => exact .inl ⟨_, .unreachable hblocked hroot⟩
    | some root => exact .inr ⟨_, hblocked, root, hroot, rfl⟩

theorem LiesAt.unique {source source' : Path} (h : LiesAt a r source) (h' : LiesAt a r source') :
    source = source' := by
  obtain ⟨root, hroot, hsource⟩ := h.reached
  obtain ⟨root', hroot', hsource'⟩ := h'.reached
  rw [hsource, hsource', Option.some.inj (hroot.symm.trans hroot')]

theorem LiesAt.not_refuses {source : Path} {failure : ResolutionError} (h : LiesAt a r source) :
    ¬ Refuses r failure := by
  obtain ⟨root, hroot, -⟩ := h.reached
  rintro (⟨hblocked⟩ | ⟨-, hnone⟩)
  · rw [h.unblocked] at hblocked
    cases hblocked
  · rw [hroot] at hnone
    cases hnone

theorem Lacks.not_fails {failure : ResolutionError} {left : FileSystem} (h : Lacks files a r) :
    ¬ Fails chain files a r failure left := by
  obtain ⟨source, hlies, hmissing⟩ := h
  intro hfails
  cases hfails with
  | refused h' => exact hlies.not_refuses h'
  | unstored h' hfile =>
    rw [h'.unique hlies, hmissing] at hfile
    cases hfile

theorem Delivers.not_fails {stored : Path} {failure : ResolutionError} {left left' : FileSystem}
    (h : Delivers chain files a r stored left) : ¬ Fails chain files a r failure left' := by
  obtain ⟨source, hlies, -, hadd⟩ := h
  intro hfails
  cases hfails with
  | refused h' => exact hlies.not_refuses h'
  | unstored h' _ hadd' =>
    rw [h'.unique hlies, hadd] at hadd'
    exact nomatch (Prod.mk.inj hadd').1

theorem Delivers.not_lacks {stored : Path} {left : FileSystem}
    (h : Delivers chain files a r stored left) : ¬ Lacks files a r := by
  obtain ⟨source, hlies, hfile, -⟩ := h
  rintro ⟨source', hlies', hmissing⟩
  rw [hlies'.unique hlies, hfile] at hmissing
  cases hmissing

theorem Refuses.not_unstored {failure : ResolutionError} {cause : LocalRepositoryError}
    {left : FileSystem} (h : Refuses r failure) : ¬ Fails chain files a r (.storage cause) left := by
  intro hfails
  cases hfails with
  | refused h' => cases h'
  | unstored h' => exact h'.not_refuses h

/-! What is disturbed by trying. -/

theorem Fails.disturbed {failure : ResolutionError} {left : FileSystem}
    (h : Fails chain files a r failure left) : files.Disturbed (chain.head.pathOf a) left := by
  cases h with
  | refused => exact .refl files _
  | unstored _ _ hadd => exact LocalRepository.disturbed_of_add hadd

theorem Delivers.disturbed {stored : Path} {left : FileSystem}
    (h : Delivers chain files a r stored left) : files.Disturbed (chain.head.pathOf a) left := by
  obtain ⟨_, -, -, hadd⟩ := h
  exact LocalRepository.disturbed_of_add hadd

theorem ComesTo.disturbed {rs : List RemoteRepository} {turn : FileSystem}
    (h : ComesTo chain a files rs r turn) : files.Disturbed (chain.head.pathOf a) turn := by
  induction h with
  | first files => exact .refl files _
  | lacked _ _ ih => exact ih
  | failed h _ ih => exact h.disturbed.trans ih

theorem Passed.disturbed {rs : List RemoteRepository} {failures : List ResolutionError}
    {last : FileSystem} (h : Passed chain a files rs failures last) :
    files.Disturbed (chain.head.pathOf a) last := by
  induction h with
  | nil files => exact .refl files _
  | lacked _ _ ih => exact ih
  | failed h _ ih => exact h.disturbed.trans ih

/-! Whose turn comes after a repository. -/

section Turns

variable {P : RemoteRepository → FileSystem → Prop} {rest : List RemoteRepository}

/-- The turn of the first one comes, and that of a later one when the first lacks the artifact or
fails. -/
theorem exists_comesTo_cons :
    (∃ r' turn, ComesTo chain a files (r :: rest) r' turn ∧ P r' turn) ↔
      P r files ∨ (Lacks files a r ∧ ∃ r' turn, ComesTo chain a files rest r' turn ∧ P r' turn) ∨
        ∃ failure left, Fails chain files a r failure left ∧
          ∃ r' turn, ComesTo chain a left rest r' turn ∧ P r' turn := by
  constructor
  · rintro ⟨r', turn, hturn, hP⟩
    cases hturn with
    | first => exact .inl hP
    | lacked h hlater => exact .inr (.inl ⟨h, r', turn, hlater, hP⟩)
    | failed h hlater => exact .inr (.inr ⟨_, _, h, r', turn, hlater, hP⟩)
  · rintro (hP | ⟨h, r', turn, hlater, hP⟩ | ⟨failure, left, h, r', turn, hlater, hP⟩)
    · exact ⟨r, files, .first files r rest, hP⟩
    · exact ⟨r', turn, .lacked h hlater, hP⟩
    · exact ⟨r', turn, .failed h hlater, hP⟩

theorem exists_comesTo_of_lacks (h : Lacks files a r) :
    (∃ r' turn, ComesTo chain a files (r :: rest) r' turn ∧ P r' turn) ↔
      P r files ∨ ∃ r' turn, ComesTo chain a files rest r' turn ∧ P r' turn := by
  rw [exists_comesTo_cons, and_iff_right h]
  exact or_congr_right (or_iff_left fun ⟨_, _, hfails, _⟩ => h.not_fails hfails)

theorem exists_comesTo_of_refuses {failure : ResolutionError} (h : Refuses r failure) :
    (∃ r' turn, ComesTo chain a files (r :: rest) r' turn ∧ P r' turn) ↔
      P r files ∨ ∃ r' turn, ComesTo chain a files rest r' turn ∧ P r' turn := by
  have hrefused : Fails chain files a r failure files := .refused h
  rw [exists_comesTo_cons]
  apply or_congr_right
  rw [or_iff_right fun ⟨hlacks, _⟩ => hlacks.not_fails hrefused]
  constructor
  · rintro ⟨failure', left, hfails, hlater⟩
    cases hfails with
    | refused => exact hlater
    | unstored hlies => exact absurd h hlies.not_refuses
  · exact fun hlater => ⟨failure, files, hrefused, hlater⟩

theorem exists_comesTo_of_delivers {stored : Path} {left : FileSystem}
    (h : Delivers chain files a r stored left) :
    (∃ r' turn, ComesTo chain a files (r :: rest) r' turn ∧ P r' turn) ↔ P r files := by
  rw [exists_comesTo_cons]
  apply or_iff_left
  rintro (⟨hlacks, -⟩ | ⟨failure, left', hfails, -⟩)
  · exact h.not_lacks hlacks
  · exact h.not_fails hfails

end Turns

/-! What trying one repository comes to. -/

/-- The events of a transfer from the repository. -/
def initiated (a : Artifact) (r : RemoteRepository) : Event :=
  .transfer (.initiated r.id a.layoutPath)

def missed (a : Artifact) (r : RemoteRepository) : Event :=
  .transfer (.failed r.id a.layoutPath "not found")

def succeeded (a : Artifact) (r : RemoteRepository) (bytes : Nat) : Event :=
  .transfer (.succeeded r.id a.layoutPath bytes)

theorem fetch_of_refuses {failure : ResolutionError} (h : Refuses r failure) :
    fetch chain files a r = ⟨files, [], .error failure⟩ := by
  unfold fetch
  cases h with
  | blocked h => rw [if_pos h]
  | unreachable h hroot =>
    rw [h, hroot]
    rfl

/-- From a place that can be looked into a transfer is begun, and a file that is there is added to the
chain. -/
theorem fetch_of_liesAt {source : Path} (h : LiesAt a r source) : fetch chain files a r =
    if files.isFile source then
      match chain.add files a source with
      | (.error cause, left) => ⟨left, [initiated a r], .error (.storage cause)⟩
      | (.ok stored, left) =>
        ⟨left, [initiated a r, succeeded a r (left.size stored)], .ok (some stored)⟩
    else ⟨files, [initiated a r, missed a r], .ok none⟩ := by
  obtain ⟨root, hroot, hsource⟩ := h.reached
  rw [hsource]
  unfold fetch
  rw [h.unblocked, hroot]
  simp only [Bool.false_eq_true, if_false]
  cases files.isFile (root.join a.relativePath) with
  | false =>
    simp only [Bool.false_eq_true, if_false]
    rfl
  | true =>
    simp only [if_true]
    rcases chain.add files a (root.join a.relativePath) with ⟨cause | stored, left⟩ <;> rfl

theorem fetch_of_missing {source : Path} (h : LiesAt a r source)
    (hfile : files.isFile source = false) :
    fetch chain files a r = ⟨files, [initiated a r, missed a r], .ok none⟩ := by
  rw [fetch_of_liesAt h, hfile]
  rfl

theorem fetch_of_unstored {source : Path} {cause : LocalRepositoryError} {left : FileSystem}
    (h : LiesAt a r source) (hfile : files.isFile source = true)
    (hadd : chain.add files a source = (.error cause, left)) :
    fetch chain files a r = ⟨left, [initiated a r], .error (.storage cause)⟩ := by
  rw [fetch_of_liesAt h, if_pos hfile, hadd]

theorem fetch_of_stored {source stored : Path} {left : FileSystem} (h : LiesAt a r source)
    (hfile : files.isFile source = true) (hadd : chain.add files a source = (.ok stored, left)) :
    fetch chain files a r =
      ⟨left, [initiated a r, succeeded a r (left.size stored)], .ok (some stored)⟩ := by
  rw [fetch_of_liesAt h, if_pos hfile, hadd]

/-! What trying them one after the other comes to. -/

/-- The result of the later repositories when it is a delivery, else the failure of this one. -/
def orFailure (failure : ResolutionError)
    (later : Except ResolutionError (Option (RemoteRepository × Path))) :
    Except ResolutionError (Option (RemoteRepository × Path)) :=
  match later with
  | .ok (some delivered) => .ok (some delivered)
  | _ => .error failure

/-- The ways that trying the repositories in order can go, and what it leaves, tells and results in.
-/
inductive Course (chain : LocalChain) (a : Artifact) : FileSystem → List RemoteRepository →
    Outcome (Option (RemoteRepository × Path)) → Prop where
  | nil (files : FileSystem) : Course chain a files [] ⟨files, [], .ok none⟩
  | refused {files : FileSystem} {r : RemoteRepository} {rest : List RemoteRepository}
    {failure : ResolutionError} {later : Outcome (Option (RemoteRepository × Path))}
    (h : Refuses r failure) (hlater : Course chain a files rest later) :
    Course chain a files (r :: rest) ⟨later.files, later.events, orFailure failure later.result⟩
  | missed {files : FileSystem} {r : RemoteRepository} {rest : List RemoteRepository} {source : Path}
    {later : Outcome (Option (RemoteRepository × Path))}
    (h : LiesAt a r source) (hfile : files.isFile source = false)
    (hlater : Course chain a files rest later) :
    Course chain a files (r :: rest)
      ⟨later.files, initiated a r :: missed a r :: later.events, later.result⟩
  | unstored {files left : FileSystem} {r : RemoteRepository} {rest : List RemoteRepository}
    {source : Path} {cause : LocalRepositoryError}
    {later : Outcome (Option (RemoteRepository × Path))}
    (h : LiesAt a r source) (hfile : files.isFile source = true)
    (hadd : chain.add files a source = (.error cause, left))
    (hlater : Course chain a left rest later) :
    Course chain a files (r :: rest)
      ⟨later.files, initiated a r :: later.events, orFailure (.storage cause) later.result⟩
  | delivered {files left : FileSystem} {r : RemoteRepository} {rest : List RemoteRepository}
    {source stored : Path}
    (h : LiesAt a r source) (hfile : files.isFile source = true)
    (hadd : chain.add files a source = (.ok stored, left)) :
    Course chain a files (r :: rest)
      ⟨left, [initiated a r, succeeded a r (left.size stored)], .ok (some (r, stored))⟩

theorem fetchFirst_course (chain : LocalChain) (a : Artifact) (files : FileSystem)
    (rs : List RemoteRepository) : Course chain a files rs (fetchFirst chain a files rs) := by
  induction rs generalizing files with
  | nil => exact .nil files
  | cons r rest ih =>
    unfold fetchFirst
    rcases refuses_or_liesAt a r with ⟨failure, h⟩ | ⟨source, h⟩
    · rw [fetch_of_refuses h]
      exact .refused h (ih files)
    · cases hfile : files.isFile source with
      | false =>
        rw [fetch_of_missing h hfile]
        exact .missed h hfile (ih files)
      | true =>
        rcases hadd : chain.add files a source with ⟨cause | stored, left⟩
        · rw [fetch_of_unstored h hfile hadd]
          exact .unstored h hfile hadd (ih left)
        · rw [fetch_of_stored h hfile hadd]
          exact .delivered h hfile hadd

/-- The delivery that trying the repositories comes to, if it comes to one. -/
def delivered? (result : Except ResolutionError (Option (RemoteRepository × Path))) :
    Option (RemoteRepository × Path) :=
  match result with
  | .ok delivered => delivered
  | .error _ => none

theorem delivered?_orFailure (failure : ResolutionError)
    (later : Except ResolutionError (Option (RemoteRepository × Path))) :
    delivered? (orFailure failure later) = delivered? later := by
  rcases later with cause | _ | delivered <;> rfl

/-- What is delivered is delivered when its turn comes. -/
theorem Course.of_delivered {rs : List RemoteRepository} {stored : Path}
    {outcome : Outcome (Option (RemoteRepository × Path))} (h : Course chain a files rs outcome)
    (hdelivered : delivered? outcome.result = some (r, stored)) :
    ∃ turn, ComesTo chain a files rs r turn ∧ Delivers chain turn a r stored outcome.files := by
  induction h with
  | nil => cases hdelivered
  | refused h _ ih =>
    rw [delivered?_orFailure] at hdelivered
    obtain ⟨turn, hturn, hdelivers⟩ := ih hdelivered
    exact ⟨turn, .failed (.refused h) hturn, hdelivers⟩
  | missed h hfile _ ih =>
    obtain ⟨turn, hturn, hdelivers⟩ := ih hdelivered
    exact ⟨turn, .lacked ⟨_, h, hfile⟩ hturn, hdelivers⟩
  | unstored h hfile hadd _ ih =>
    rw [delivered?_orFailure] at hdelivered
    obtain ⟨turn, hturn, hdelivers⟩ := ih hdelivered
    exact ⟨turn, .failed (.unstored h hfile hadd) hturn, hdelivers⟩
  | delivered h hfile hadd =>
    obtain ⟨rfl, rfl⟩ := Prod.mk.inj (Option.some.inj hdelivered)
    exact ⟨_, .first _ _ _, _, h, hfile, hadd⟩

/-- Without a delivery all repositories have been tried in vain. -/
theorem Course.passed {rs : List RemoteRepository}
    {outcome : Outcome (Option (RemoteRepository × Path))} (h : Course chain a files rs outcome)
    (hnone : delivered? outcome.result = none) :
    ∃ failures, Passed chain a files rs failures outcome.files := by
  induction h with
  | nil files => exact ⟨[], .nil files⟩
  | refused h _ ih =>
    obtain ⟨failures, hpassed⟩ := ih ((delivered?_orFailure _ _).symm.trans hnone)
    exact ⟨_, .failed (.refused h) hpassed⟩
  | missed h hfile _ ih =>
    obtain ⟨failures, hpassed⟩ := ih hnone
    exact ⟨failures, .lacked ⟨_, h, hfile⟩ hpassed⟩
  | unstored h hfile hadd _ ih =>
    obtain ⟨failures, hpassed⟩ := ih ((delivered?_orFailure _ _).symm.trans hnone)
    exact ⟨_, .failed (.unstored h hfile hadd) hpassed⟩
  | delivered => cases hnone

/-! What is answered after a repository that delivers, lacks the artifact or fails. -/

theorem result_of_delivers {stored : Path} {left : FileSystem}
    (h : Delivers chain files a r stored left) (rest : List RemoteRepository) :
    (fetchFirst chain a files (r :: rest)).result = .ok (some (r, stored)) := by
  obtain ⟨source, hlies, hfile, hadd⟩ := h
  rw [fetchFirst, fetch_of_stored hlies hfile hadd]

theorem result_of_lacks (h : Lacks files a r) (rest : List RemoteRepository) :
    (fetchFirst chain a files (r :: rest)).result = (fetchFirst chain a files rest).result := by
  obtain ⟨source, hlies, hmissing⟩ := h
  rw [fetchFirst, fetch_of_missing hlies hmissing]

theorem result_of_fails {failure : ResolutionError} {left : FileSystem}
    (h : Fails chain files a r failure left) (rest : List RemoteRepository) :
    (fetchFirst chain a files (r :: rest)).result =
      orFailure failure (fetchFirst chain a left rest).result := by
  cases h with
  | refused h =>
    rw [fetchFirst, fetch_of_refuses h]
    rfl
  | unstored h hfile hadd =>
    rw [fetchFirst, fetch_of_unstored h hfile hadd]
    rfl

/-- The first repository that delivers when its turn comes is answered. -/
theorem ComesTo.result {rs : List RemoteRepository} {turn left : FileSystem} {stored : Path}
    (h : ComesTo chain a files rs r turn) (hdelivers : Delivers chain turn a r stored left) :
    (fetchFirst chain a files rs).result = .ok (some (r, stored)) := by
  induction h with
  | first files r rest => exact result_of_delivers hdelivers rest
  | lacked h _ ih => rw [result_of_lacks h, ih hdelivers]
  | failed h _ ih =>
    rw [result_of_fails h, ih hdelivers]
    rfl

/-- The first of the failures, if there is one. -/
def firstFailure : List ResolutionError → Except ResolutionError (Option (RemoteRepository × Path))
  | [] => .ok none
  | failure :: _ => .error failure

theorem Passed.result {rs : List RemoteRepository} {failures : List ResolutionError}
    {last : FileSystem} (h : Passed chain a files rs failures last) :
    (fetchFirst chain a files rs).result = firstFailure failures := by
  induction h with
  | nil => rfl
  | lacked h _ ih => rw [result_of_lacks h, ih]
  | @failed _ _ _ _ _ _ failures h _ ih =>
    rw [result_of_fails h, ih]
    cases failures <;> rfl

/-! The three ways that a resolution goes: the chain has the artifact, an offline session refuses to
ask anybody, or the repositories are tried. -/

theorem resolve_of_find? {s : Session} {kept : LocalArtifact}
    (h : s.localChain.find? files a = some kept) (rs : List RemoteRepository) :
    resolve s files a rs =
      ⟨files, [.repository (.resolving a), .repository (.resolved a localId (some kept.file))],
        .ok ⟨a, kept.file, localId⟩⟩ := by
  unfold resolve
  rw [h]

theorem resolve_of_refused {s : Session} {rs : List RemoteRepository} {first : RemoteRepository}
    {rest : List RemoteRepository} (hnone : s.localChain.find? files a = none)
    (hoffline : s.offline = true) (hasked : candidates a rs = first :: rest) :
    resolve s files a rs =
      ⟨files, [.repository (.resolving a)], .error (.offline a.coordinates first.id)⟩ := by
  unfold resolve
  rw [hnone, hoffline, hasked]

/-- The outcome of a resolution for which the repositories were tried. -/
def conclude (a : Artifact) (asked : List RemoteRepository)
    (fetched : Outcome (Option (RemoteRepository × Path))) : Outcome ResolvedArtifact :=
  let told (repository : String) (file : Option Path) : List Event :=
    .repository (.resolving a) :: fetched.events ++ [.repository (.resolved a repository file)]
  match fetched.result with
  | .ok (some (r, stored)) =>
    ⟨fetched.files, told r.id (some stored), .ok ⟨a, stored, r.id⟩⟩
  | .ok none =>
    ⟨fetched.files, told "" none,
      .error (.notFound a.coordinates (localId :: asked.map (·.id)))⟩
  | .error failure => ⟨fetched.files, told "" none, .error failure⟩

theorem resolve_of_free {s : Session} {rs : List RemoteRepository}
    (hnone : s.localChain.find? files a = none) (hfree : s.offline = true → candidates a rs = []) :
    resolve s files a rs = conclude a (candidates a rs)
      (fetchFirst s.localChain a files (candidates a rs)) := by
  unfold resolve
  rw [hnone]
  cases hoffline : s.offline with
  | false => rfl
  | true =>
    rw [hfree hoffline]
    rfl

/-- The same three ways, told from what a resolution comes to. -/
inductive Way (s : Session) (files : FileSystem) (a : Artifact) (rs : List RemoteRepository) :
    Outcome ResolvedArtifact → Prop where
  | kept {kept : LocalArtifact} (h : s.localChain.find? files a = some kept) :
    Way s files a rs
      ⟨files, [.repository (.resolving a), .repository (.resolved a localId (some kept.file))],
        .ok ⟨a, kept.file, localId⟩⟩
  | refused {first : RemoteRepository} {rest : List RemoteRepository}
    (hnone : s.localChain.find? files a = none) (hoffline : s.offline = true)
    (hasked : candidates a rs = first :: rest) :
    Way s files a rs
      ⟨files, [.repository (.resolving a)], .error (.offline a.coordinates first.id)⟩
  | tried {fetched : Outcome (Option (RemoteRepository × Path))}
    (hnone : s.localChain.find? files a = none) (hfree : s.offline = true → candidates a rs = [])
    (h : Course s.localChain a files (candidates a rs) fetched) :
    Way s files a rs (conclude a (candidates a rs) fetched)

theorem resolve_way (s : Session) (files : FileSystem) (a : Artifact)
    (rs : List RemoteRepository) : Way s files a rs (resolve s files a rs) := by
  cases hfind : s.localChain.find? files a with
  | some kept =>
    rw [resolve_of_find? hfind]
    exact .kept hfind
  | none =>
    by_cases hfree : s.offline = true → candidates a rs = []
    · rw [resolve_of_free hfind hfree]
      exact .tried hfind hfree (fetchFirst_course _ _ _ _)
    · obtain ⟨hoffline, hsome⟩ := Classical.not_imp.mp hfree
      obtain ⟨first, rest, hasked⟩ := List.exists_cons_of_ne_nil hsome
      rw [resolve_of_refused hfind hoffline hasked]
      exact .refused hfind hoffline hasked

/-- What a repository delivered, as opposed to what was in the chain. -/
def downloaded? (s : Session) (files : FileSystem) (a : Artifact)
    (outcome : Outcome ResolvedArtifact) : Option ResolvedArtifact :=
  match s.localChain.find? files a with
  | some _ => none
  | none => outcome.result.toOption

theorem downloaded?_of_find? {s : Session} {kept : LocalArtifact}
    (h : s.localChain.find? files a = some kept) (outcome : Outcome ResolvedArtifact) :
    downloaded? s files a outcome = none := by
  unfold downloaded?
  rw [h]

theorem downloaded?_of_none {s : Session} (h : s.localChain.find? files a = none)
    (outcome : Outcome ResolvedArtifact) :
    downloaded? s files a outcome = outcome.result.toOption := by
  unfold downloaded?
  rw [h]

theorem downloaded?_of_error {s : Session} {outcome : Outcome ResolvedArtifact}
    {failure : ResolutionError} (h : outcome.result = .error failure) :
    downloaded? s files a outcome = none := by
  cases hfind : s.localChain.find? files a with
  | some kept => exact downloaded?_of_find? hfind outcome
  | none =>
    rw [downloaded?_of_none hfind, h]
    rfl

theorem files_conclude (a : Artifact) (asked : List RemoteRepository)
    (fetched : Outcome (Option (RemoteRepository × Path))) :
    (conclude a asked fetched).files = fetched.files := by
  unfold conclude
  rcases fetched.result with failure | _ | ⟨r, stored⟩ <;> rfl

theorem toOption_conclude (a : Artifact) (asked : List RemoteRepository)
    (fetched : Outcome (Option (RemoteRepository × Path))) :
    (conclude a asked fetched).result.toOption =
      (delivered? fetched.result).map fun (r, stored) => ⟨a, stored, r.id⟩ := by
  unfold conclude
  rcases fetched.result with failure | _ | ⟨r, stored⟩ <;> rfl

/-- What was downloaded has been delivered by a repository when its turn came. -/
theorem Way.of_downloaded {s : Session} {rs : List RemoteRepository}
    {outcome : Outcome ResolvedArtifact} {found : ResolvedArtifact} (h : Way s files a rs outcome)
    (hfound : downloaded? s files a outcome = some found) :
    ∃ r turn, ComesTo s.localChain a files (candidates a rs) r turn ∧
      Delivers s.localChain turn a r found.file outcome.files ∧ found = ⟨a, found.file, r.id⟩ := by
  cases h with
  | kept h =>
    rw [downloaded?_of_find? h] at hfound
    cases hfound
  | refused hnone =>
    rw [downloaded?_of_none hnone] at hfound
    cases hfound
  | tried hnone _ hcourse =>
    rw [downloaded?_of_none hnone, toOption_conclude] at hfound
    obtain ⟨⟨r, stored⟩, hdelivered, rfl⟩ := Option.map_eq_some_iff.mp hfound
    obtain ⟨turn, hturn, hdelivers⟩ := hcourse.of_delivered hdelivered
    rw [files_conclude]
    exact ⟨r, turn, hturn, hdelivers, rfl⟩

/-- Where nothing was downloaded nobody was asked, or all repositories have been tried in vain. -/
theorem Way.passed {s : Session} {rs : List RemoteRepository} {outcome : Outcome ResolvedArtifact}
    (h : Way s files a rs outcome) (hnone : downloaded? s files a outcome = none) :
    outcome.files = files ∨
      ∃ failures, Passed s.localChain a files (candidates a rs) failures outcome.files := by
  cases h with
  | kept => exact .inl rfl
  | refused => exact .inl rfl
  | tried hfind _ hcourse =>
    rw [downloaded?_of_none hfind, toOption_conclude] at hnone
    rw [files_conclude]
    exact .inr (hcourse.passed (Option.map_eq_none_iff.mp hnone))

/-- No file is disturbed but the one to which the artifact's path in the head of the chain leads. -/
theorem Way.disturbed {s : Session} {rs : List RemoteRepository}
    {outcome : Outcome ResolvedArtifact} (h : Way s files a rs outcome) :
    files.Disturbed (s.localChain.head.pathOf a) outcome.files := by
  cases hdownloaded : downloaded? s files a outcome with
  | none =>
    rcases h.passed hdownloaded with hfiles | ⟨failures, hpassed⟩
    · rw [hfiles]
      exact .refl files _
    · exact hpassed.disturbed
  | some found =>
    obtain ⟨r, turn, hturn, hdelivers, -⟩ := h.of_downloaded hdownloaded
    exact hturn.disturbed.trans hdelivers.disturbed

/-- What a resolution by a session answers, given the files as they are when it begins and the
repositories that may be asked. -/
inductive Answer (s : Session) (files : FileSystem) (a : Artifact) (asked : List RemoteRepository) :
    Except ResolutionError ResolvedArtifact → Prop where
  | found {kept : LocalArtifact} (h : s.localChain.find? files a = some kept) :
    Answer s files a asked (.ok ⟨a, kept.file, localId⟩)
  | offline {first : RemoteRepository} {rest : List RemoteRepository}
    (hnone : s.localChain.find? files a = none) (hoffline : s.offline = true)
    (hasked : asked = first :: rest) :
    Answer s files a asked (.error (.offline a.coordinates first.id))
  | delivered {r : RemoteRepository} {turn left : FileSystem} {stored : Path}
    (hnone : s.localChain.find? files a = none) (hfree : s.offline = true → asked = [])
    (hturn : ComesTo s.localChain a files asked r turn)
    (h : Delivers s.localChain turn a r stored left) :
    Answer s files a asked (.ok ⟨a, stored, r.id⟩)
  | failed {failure : ResolutionError} {failures : List ResolutionError} {last : FileSystem}
    (hnone : s.localChain.find? files a = none) (hfree : s.offline = true → asked = [])
    (h : Passed s.localChain a files asked (failure :: failures) last) :
    Answer s files a asked (.error failure)
  | missing {last : FileSystem}
    (hnone : s.localChain.find? files a = none) (hfree : s.offline = true → asked = [])
    (h : Passed s.localChain a files asked [] last) :
    Answer s files a asked (.error (.notFound a.coordinates (localId :: asked.map (·.id))))

/-- A resolution answers what the rules say. -/
theorem Answer.eq_result {s : Session} {rs : List RemoteRepository}
    {answer : Except ResolutionError ResolvedArtifact}
    (h : Answer s files a (candidates a rs) answer) : (resolve s files a rs).result = answer := by
  cases h with
  | found h => rw [resolve_of_find? h]
  | offline hnone hoffline hasked => rw [resolve_of_refused hnone hoffline hasked]
  | delivered hnone hfree hturn h => rw [resolve_of_free hnone hfree, conclude, hturn.result h]
  | failed hnone hfree h =>
    rw [resolve_of_free hnone hfree, conclude, h.result]
    rfl
  | missing hnone hfree h =>
    rw [resolve_of_free hnone hfree, conclude, h.result]
    rfl

/-- The rules leave no case out. -/
theorem exists_answer (s : Session) (files : FileSystem) (a : Artifact)
    (asked : List RemoteRepository) : ∃ answer, Answer s files a asked answer := by
  cases hfind : s.localChain.find? files a with
  | some kept => exact ⟨_, .found hfind⟩
  | none =>
    by_cases hfree : s.offline = true → asked = []
    · have hcourse := fetchFirst_course s.localChain a files asked
      cases hdelivered : delivered? (fetchFirst s.localChain a files asked).result with
      | some delivered =>
        obtain ⟨turn, hturn, hdelivers⟩ := hcourse.of_delivered hdelivered
        exact ⟨_, .delivered hfind hfree hturn hdelivers⟩
      | none =>
        obtain ⟨failures, hpassed⟩ := hcourse.passed hdelivered
        cases failures with
        | nil => exact ⟨_, .missing hfind hfree hpassed⟩
        | cons failure failures => exact ⟨_, .failed hfind hfree hpassed⟩
    · obtain ⟨hoffline, hsome⟩ := Classical.not_imp.mp hfree
      obtain ⟨first, rest, hasked⟩ := List.exists_cons_of_ne_nil hsome
      exact ⟨_, .offline hfind hoffline hasked⟩

end Resolution

namespace Engine

theorem way_of_up {e : Engine} (hup : e.isDown = false) (s : Session) (files : FileSystem)
    (a : Artifact) (rs : List RemoteRepository) :
    Resolution.Way s files a rs (e.resolve s files a rs) := by
  rw [resolve_of_up hup]
  exact Resolution.resolve_way s files a rs

/-- An engine that is up answers with what the local chain finds; else, offline, with a refusal that
names the first of the repositories whose policy for the kind of artifact is enabled; else with what
the first of these that delivers when its turn comes has had stored; else with the first failure that
was met among them; else with all of them, in none of which the artifact was found. Whatever was a
file at the beginning is one when a turn comes, and at most the artifact's own in the head of the
chain has another content. -/
theorem resolve_result_iff {e : Engine} (hup : e.isDown = false) (s : Session) (files : FileSystem)
    (a : Artifact) (rs : List RemoteRepository) :
    (∀ answer, (e.resolve s files a rs).result = answer ↔
      Resolution.Answer s files a (Resolution.candidates a rs) answer) ∧
    ∀ r turn, Resolution.ComesTo s.localChain a files (Resolution.candidates a rs) r turn →
      files.Disturbed (s.localChain.head.pathOf a) turn := by
  refine ⟨?_, fun r turn h => h.disturbed⟩
  intro answer
  rw [resolve_of_up hup]
  constructor
  · rintro rfl
    obtain ⟨answer, h⟩ := Resolution.exists_answer s files a (Resolution.candidates a rs)
    rwa [h.eq_result]
  · exact Resolution.Answer.eq_result

/-- The artifact whose jar the stocked repository has. -/
def stockedJar : Artifact := { group := "g", name := "a", version := "1" }

/-- A directory that has the artifact's jar, and other nodes besides. -/
def shelf (more : List (Location × Node)) : FileSystem where
  workingDirectory := []
  nodes := [(["far", "g", "a", "1", "a-1.jar"], .file ⟨#[74, 65, 82]⟩),
    (["far", "g", "a", "1"], .directory), (["far", "g", "a"], .directory),
    (["far", "g"], .directory), (["far"], .directory)] ++ more

/-- The directory as a repository. -/
def far : RemoteRepository := { id := "far", url := "file:/far" }

/-- A session whose local repository is at the path. -/
def sessionAt (path : String) (offline : Bool) : Session :=
  { offline, localChain := { head := ⟨⟨path⟩, false⟩ } }

/-- Neither a repository that is blocked, nor one that is no directory, nor one that lacks the
artifact, nor one whose copy is refused or breaks off is in the way of one that delivers, and one
without artifacts of the kind is not asked. -/
theorem resolve_result_iff_last :
    let files := { shelf [] with
      mishaps := [none, none, none, none, some (.refused .permissionDenied),
        some (.brokenOff 1 .noSpaceLeft)] }
    let rs := [{ id := "shut", url := "file:/far", blocked := true }, RemoteRepository.central,
      { id := "near", url := "file:/near" },
      { id := "off", url := "file:/far", releases := { enabled := false } },
      { id := "locked", url := "file:/far" }, { id := "full", url := "file:/far" }, far]
    ({} : Engine).isDown = false ∧
      Resolution.Answer (sessionAt "/m2" false) files stockedJar
        (Resolution.candidates stockedJar rs)
        (.ok ⟨stockedJar, ⟨"/m2/g/a/1/a-1.jar"⟩, "far"⟩) := by
  intro files rs
  have hresult := Succeeding.toOption_eq_some.mp
    (show (({} : Engine).resolve (sessionAt "/m2" false) files stockedJar rs).result.toOption =
      some ⟨stockedJar, ⟨"/m2/g/a/1/a-1.jar"⟩, "far"⟩ by decide +kernel)
  exact ⟨rfl, ((resolve_result_iff rfl (sessionAt "/m2" false) files stockedJar rs).1 _).mp hresult⟩

end Engine

end Depot
