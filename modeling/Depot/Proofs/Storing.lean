import Depot.LocalRepository.Chain
import Depot.Proofs.Disturbance

/-! Storing a file. A path at which a file can be written names an entry of a directory that is there,
and the entry is no directory (`FileSystem.WritesAt`), so the path leads to the file that is put there
(`WritesAt.locate_put`). A copy takes over the source as far as it comes and disturbs nothing else
(`FileSystem.Copied`): all of it, the beginning when it breaks off, or nothing when it is refused
(`FileSystem.copies`). Adding to a local repository makes directories and then copies
(`LocalRepository.adds`), and what has been added to a chain is found in it first. -/

namespace Depot

namespace FileSystem

variable {fs left made : FileSystem} {l t origin place : Location} {p source target : Path}

/-- A step to an entry that is there. -/
theorem step_of_entry {name : String} (hdirectory : fs.node? l = some .directory)
    (hplain : isRelativeName name = false) (hshort : name.utf8ByteSize ≤ nameLimit)
    (hthere : (fs.node? (l ++ [name])).isSome = true) : fs.step l name = .ok (l ++ [name]) := by
  obtain ⟨hdot, hdots⟩ : name ≠ "." ∧ name ≠ ".." := by
    simpa [isRelativeName, not_or] using hplain
  simp only [step, hdirectory, if_neg hdot, if_neg hdots, if_neg (Nat.not_lt.mpr hshort),
    if_pos hthere]

/-- The path names an entry of a directory that is there, and the entry can become a file. -/
structure WritesAt (fs : FileSystem) (p : Path) (above : Location) (name : String) : Prop where
  reaches : ∃ before, names p = .ok (before ++ [name]) ∧ fs.walk (fs.origin p) before = .ok above
  directory : fs.node? above = some .directory
  plain : isRelativeName name = false
  short : name.utf8ByteSize ≤ nameLimit
  unslashed : p.endsInSlash = false
  free : fs.hasDirectory (above ++ [name]) = false

/-- The entry that a path names: the last name, in the directory that the names before it lead to. -/
theorem entry_eq_some {above : Location} {name : String}
    (h : fs.entry p = .ok (some (above, name))) :
    (∃ before, names p = .ok (before ++ [name]) ∧ fs.walk (fs.origin p) before = .ok above) ∧
      fs.node? above = some .directory := by
  obtain ⟨ns, hnames, hentry⟩ := Succeeding.bind_eq_ok.mp h
  cases hlast : ns.getLast? with
  | none =>
    rw [hlast] at hentry
    cases hentry
  | some last =>
    obtain ⟨before, rfl⟩ := List.getLast?_eq_some_iff.mp hlast
    rw [hlast, List.dropLast_concat] at hentry
    obtain ⟨found, hwalk, hentry⟩ := Succeeding.bind_eq_ok.mp hentry
    split_ifs at hentry with hdirectory
    obtain ⟨rfl, rfl⟩ := Prod.mk.inj (Option.some.inj (Except.ok.inj hentry))
    exact ⟨⟨before, hnames, hwalk⟩, hasDirectory_iff.mp (by simpa using hdirectory)⟩

theorem writesAt_of_filePlace (h : fs.filePlace p = .ok t) :
    ∃ above name, fs.WritesAt p above name ∧ t = above ++ [name] := by
  obtain ⟨found, hfound, h⟩ := Succeeding.bind_eq_ok.mp h
  rcases found with _ | ⟨above, name⟩
  · cases h
  · obtain ⟨hreaches, hdirectory⟩ := entry_eq_some hfound
    simp only at h
    split_ifs at h with hodd hlong hfree
    obtain ⟨hplain, hunslashed⟩ : isRelativeName name = false ∧ p.endsInSlash = false := by
      simpa using hodd
    exact ⟨above, name, ⟨hreaches, hdirectory, hplain, Nat.le_of_not_lt hlong, hunslashed,
      by simpa using hfree⟩, (Except.ok.inj h).symm⟩

/-- Once a file has been put there, another one can be put in its place. -/
theorem WritesAt.put {name : String} (h : fs.WritesAt p l name) (content : ByteArray) :
    (fs.put (l ++ [name]) (.file content)).WritesAt p l name where
  reaches := by
    obtain ⟨before, hnames, hwalk⟩ := h.reaches
    exact ⟨before, hnames, (passable_put h.free _).walk hwalk⟩
  directory := (passable_put h.free _).directory _ h.directory
  plain := h.plain
  short := h.short
  unslashed := h.unslashed
  free := by
    rw [hasDirectory, node?_put _ _ _ (ne_root_of_free h.free), if_pos rfl]

/-- The path leads to where the file is put. -/
theorem WritesAt.locate_put {name : String} (h : fs.WritesAt p l name) (content : ByteArray) :
    (fs.put (l ++ [name]) (.file content)).locate p = .ok (l ++ [name]) := by
  have hput : (fs.put (l ++ [name]) (.file content)).node? (l ++ [name]) =
      some (.file content) := by
    rw [node?_put _ _ _ (ne_root_of_free h.free), if_pos rfl]
  obtain ⟨⟨before, hnames, hwalk⟩, hdirectory, hplain, hshort, hunslashed, -⟩ := h.put content
  have hstep := step_of_entry hdirectory hplain hshort (by rw [hput]; rfl)
  have hall : (fs.put (l ++ [name]) (.file content)).walk
      ((fs.put (l ++ [name]) (.file content)).origin p) (before ++ [name]) = .ok (l ++ [name]) := by
    rw [walk, List.foldlM_append]
    exact Succeeding.bind_eq_ok.mpr ⟨l, hwalk, by simpa using hstep⟩
  refine Succeeding.bind_eq_ok.mpr ⟨_, hnames, Succeeding.bind_eq_ok.mpr ⟨_, hall, ?_⟩⟩
  rw [hunslashed]
  rfl

/-! ### Copying -/

/-- The file to which the one path leads is taken over, as far as is taken of it, by the file to
which the other path leads in the end, and nothing else is disturbed. That file is emptied before, so
a file that is copied to itself is taken over as an empty one. -/
structure Copied (fs : FileSystem) (source target : Path) (taken : ByteArray → ByteArray)
    (left : FileSystem) : Prop extends Disturbed fs target left where
  takes : ∃ origin content place, fs.locate source = .ok origin ∧
    fs.content? origin = some content ∧ left.locate target = .ok place ∧
    left.content? place = some (taken (if origin = place then .empty else content))

theorem copyPlaces_eq_ok (h : fs.copyPlaces source target = .ok (origin, place)) :
    fs.locate source = .ok origin ∧ (∃ content, fs.content? origin = some content) ∧
      fs.filePlace target = .ok place := by
  obtain ⟨found, hfound, h⟩ := Succeeding.bind_eq_ok.mp h
  cases hcontent : fs.content? found with
  | none =>
    rw [hcontent] at h
    cases h
  | some content =>
    rw [hcontent] at h
    obtain ⟨free, hfree, h⟩ := Succeeding.bind_eq_ok.mp h
    obtain ⟨rfl, rfl⟩ := Prod.mk.inj (Except.ok.inj h)
    exact ⟨hfound, ⟨content, hcontent⟩, hfree⟩

/-- What is put over a file has its content there, and all other files have theirs. -/
theorem content?_put (hfree : fs.hasDirectory t = false) (content : ByteArray) (l : Location) :
    (fs.put t (.file content)).content? l = if l = t then some content else fs.content? l := by
  rw [content?, node?_put _ _ _ (ne_root_of_free hfree)]
  by_cases hl : l = t
  · rw [if_pos hl, if_pos hl]
  · rw [if_neg hl, if_neg hl, content?]

/-- Opening the target empties it before the source is read. -/
theorem copied_of_copyPlaces (h : fs.copyPlaces source target = .ok (origin, place))
    (taken : ByteArray → ByteArray) :
    fs.Copied source target taken (fs.refill origin place taken).later := by
  obtain ⟨horigin, ⟨content, hcontent⟩, hplace⟩ := copyPlaces_eq_ok h
  obtain ⟨above, name, hwrites, rfl⟩ := writesAt_of_filePlace hplace
  have hread : (fs.put (above ++ [name]) (.file .empty)).content? origin =
      some (if origin = above ++ [name] then .empty else content) := by
    rw [content?_put hwrites.free, hcontent]
    split <;> rfl
  have hrefill : fs.refill origin (above ++ [name]) taken =
      (fs.put (above ++ [name]) (.file .empty)).put (above ++ [name])
        (.file (taken (if origin = above ++ [name] then .empty else content))) := by
    rw [refill, hread, Option.getD_some]
  have hrest (l : Location) : (fs.refill origin (above ++ [name]) taken).content? l =
      if l = above ++ [name] then
        some (taken (if origin = above ++ [name] then .empty else content))
      else fs.content? l := by
    rw [hrefill, content?_put (hwrites.put .empty).free, content?_put hwrites.free]
    split <;> rfl
  have hlocate : (fs.refill origin (above ++ [name]) taken).locate target =
      .ok (above ++ [name]) := by
    rw [hrefill]
    exact (hwrites.put .empty).locate_put _
  refine { workingDirectory := rfl, passable := ?_, file := ?_, content := ?_, takes := ?_ }
  · rw [hrefill]
    have hemptied := passable_put hwrites.free (.file .empty)
    exact (hemptied.trans (passable_put (hwrites.put .empty).free _)).trans (passable_later _)
  · intro l hfile
    rw [content?_later, hrest]
    split
    · rfl
    · exact hfile
  · intro l hother
    rw [content?_later, hrest, if_neg]
    rintro rfl
    exact hother hlocate
  · exact ⟨origin, content, above ++ [name], horigin, hcontent, hlocate,
      (hrest _).trans (if_pos rfl)⟩

/-- The ways in which copying can go, and what it leaves. -/
inductive Copies (fs : FileSystem) (source target : Path) :
    Except FileError Unit × FileSystem → Prop where
  | refused {cause : FileError} {left : FileSystem} (h : fs.Grown left) :
    Copies fs source target (.error cause, left)
  | brokenOff {cause : FileError} {left : FileSystem} (count : Nat)
    (h : fs.Copied source target (firstBytes count) left) :
    Copies fs source target (.error cause, left)
  | whole {left : FileSystem} (h : fs.Copied source target id left) :
    Copies fs source target (.ok (), left)

theorem copies (fs : FileSystem) (source target : Path) :
    Copies fs source target (fs.copy source target) := by
  unfold copy
  cases hplaces : fs.copyPlaces source target with
  | error cause => exact .refused (.refl fs)
  | ok places =>
    obtain ⟨origin, place⟩ := places
    have hcopied := copied_of_copyPlaces hplaces
    rcases fs.mishap? with _ | ⟨cause⟩ | ⟨count, cause⟩
    · exact .whole (hcopied id)
    · exact .refused (.later fs)
    · exact .brokenOff count (hcopied (firstBytes count))

/-- What has been copied, or begun to be, is a file at the target. -/
theorem Copied.isFile_target {taken : ByteArray → ByteArray}
    (h : fs.Copied source target taken left) : left.isFile target = true := by
  obtain ⟨origin, content, place, -, -, hplace, hcontent⟩ := h.takes
  exact isFile_iff.mpr ⟨place, _, hplace, hcontent⟩

/-- A file that was there before directories were made is taken over as it was. -/
theorem Grown.copied {taken : ByteArray → ByteArray} (h : fs.Grown made)
    (hfile : fs.isFile source = true) (hcopied : made.Copied source target taken left) :
    fs.Copied source target taken left where
  toDisturbed := (h.disturbed target).trans hcopied.toDisturbed
  takes := by
    obtain ⟨origin, content, place, horigin, hcontent, hplace, hleft⟩ := hcopied.takes
    obtain ⟨l, -, hlocate, -⟩ := isFile_iff.mp hfile
    obtain rfl := Except.ok.inj (((h.disturbed target).locate hlocate).symm.trans horigin)
    rw [h.content] at hcontent
    exact ⟨l, content, place, hlocate, hcontent, hplace, hleft⟩

/-! ### Making directories -/

theorem freePlace_eq_ok (h : fs.freePlace p = .ok t) : t ≠ [] ∧ fs.node? t = none := by
  obtain ⟨entry, -, h⟩ := Succeeding.bind_eq_ok.mp h
  rcases entry with _ | ⟨found, name⟩
  · cases h
  · simp only at h
    split_ifs at h with hodd hlong hthere
    obtain rfl := Except.ok.inj h
    exact ⟨by simp, by simpa using hthere⟩

theorem makeDirectory_grown (fs : FileSystem) (p : Path) : fs.Grown (fs.makeDirectory p).2 := by
  unfold makeDirectory
  cases hplace : fs.freePlace p with
  | error cause => exact .refl fs
  | ok t =>
    obtain ⟨hroot, hnone⟩ := freePlace_eq_ok hplace
    cases fs.mishap? with
    | some mishap => exact .later fs
    | none =>
      have hfree : fs.hasDirectory t = false := by rw [hasDirectory, hnone]
      refine ⟨rfl, (passable_put hfree .directory).trans (passable_later _), ?_⟩
      intro l
      change (fs.put t .directory).content? l = fs.content? l
      rw [content?, content?, node?_put _ _ _ hroot]
      by_cases hl : l = t
      · rw [if_pos hl, hl, hnone]
      · rw [if_neg hl]

theorem settle_snd (p : Path) (tried : Except FileError Unit × FileSystem) :
    (settle p tried).2 = tried.2 := by
  rcases tried with ⟨cause | done, left⟩ <;> rfl

theorem makeUpwards_grown (fs : FileSystem) (ps : List Path) : fs.Grown (fs.makeUpwards ps).2 := by
  induction ps generalizing fs with
  | nil => exact .refl fs
  | cons p ps ih =>
    have hfirst := fs.makeDirectory_grown p
    unfold makeUpwards
    split
    · rename_i missed hmissing
      rw [hmissing] at hfirst
      have habove := ih missed
      split
      · rename_i done above hmade
        rw [hmade] at habove
        rw [settle_snd]
        exact (hfirst.trans habove).trans (above.makeDirectory_grown p)
      · exact hfirst.trans habove
    · rw [settle_snd]
      exact hfirst

end FileSystem

namespace LocalRepository

variable {r : LocalRepository} {files left : FileSystem} {a : Artifact} {source stored : Path}

theorem find?_eq_some_iff {found : LocalArtifact} : r.find? files a = some found ↔
    files.isFile (r.pathOf a) = true ∧ found = ⟨r.pathOf a, r.baseDirectory⟩ := by
  unfold find?
  split
  · rename_i hfile
    simp [hfile, eq_comm]
  · rename_i hfile
    simp [hfile]

theorem find?_eq_none_iff : r.find? files a = none ↔ ¬files.isFile (r.pathOf a) = true := by
  rw [Option.eq_none_iff_forall_ne_some]
  simp only [ne_eq, find?_eq_some_iff, not_and]
  exact ⟨fun h hfile => h _ hfile rfl, fun h _ hfile => absurd hfile h⟩

/-- The ways in which adding can go, and what it leaves: directories are made, as far as they can be,
and then the source is copied to where the artifact is kept. -/
inductive Adds (r : LocalRepository) (files : FileSystem) (a : Artifact) (source : Path) :
    Except LocalRepositoryError Path × FileSystem → Prop where
  | refused {cause : LocalRepositoryError} {left : FileSystem} (h : files.Grown left) :
    Adds r files a source (.error cause, left)
  | brokenOff {cause : LocalRepositoryError} {made left : FileSystem} (count : Nat)
    (hmade : files.Grown made)
    (h : made.Copied source (r.pathOf a) (FileSystem.firstBytes count) left) :
    Adds r files a source (.error cause, left)
  | stored {stored : Path} {made left : FileSystem} (hstored : stored = r.pathOf a)
    (hmade : files.Grown made) (h : made.Copied source (r.pathOf a) id left) :
    Adds r files a source (.ok stored, left)

theorem adds (r : LocalRepository) (files : FileSystem) (a : Artifact) (source : Path) :
    Adds r files a source (r.add files a source) := by
  unfold add
  extract_lets target parent
  have hgrown := files.makeUpwards_grown parent.withAncestors
  change files.Grown (files.makeDirectories parent).2 at hgrown
  rcases hmade : files.makeDirectories parent with ⟨cause | done, made⟩
  · rw [hmade] at hgrown
    exact .refused hgrown
  · rw [hmade] at hgrown
    have hcopies := made.copies source target
    rcases hcopy : made.copy source target with ⟨cause | done, left⟩
    · rw [hcopy] at hcopies
      simp only [hcopy]
      cases hcopies with
      | refused h => exact .refused (hgrown.trans h)
      | brokenOff count h => exact .brokenOff count hgrown h
    · rw [hcopy] at hcopies
      simp only [hcopy]
      cases hcopies with
      | whole h => exact .stored rfl hgrown h

/-- Whatever comes of adding, no file is disturbed but the one to which the artifact's path leads. -/
theorem disturbed_of_add {result : Except LocalRepositoryError Path}
    (h : r.add files a source = (result, left)) : files.Disturbed (r.pathOf a) left := by
  have hadds := r.adds files a source
  rw [h] at hadds
  cases hadds with
  | refused h => exact h.disturbed _
  | brokenOff _ hmade h => exact (hmade.disturbed _).trans h.toDisturbed
  | stored _ hmade h => exact (hmade.disturbed _).trans h.toDisturbed

theorem copied_of_add_ok (h : r.add files a source = (.ok stored, left)) : stored = r.pathOf a ∧
    ∃ made, files.Grown made ∧ made.Copied source (r.pathOf a) id left := by
  have hadds := r.adds files a source
  rw [h] at hadds
  cases hadds with
  | stored hstored hmade h => exact ⟨hstored, _, hmade, h⟩

/-- A failure leaves directories behind, or the beginning of a copy. -/
theorem grown_or_copied_of_add_error {cause : LocalRepositoryError}
    (h : r.add files a source = (.error cause, left)) : files.Grown left ∨
    ∃ made count, files.Grown made ∧
      made.Copied source (r.pathOf a) (FileSystem.firstBytes count) left := by
  have hadds := r.adds files a source
  rw [h] at hadds
  cases hadds with
  | refused h => exact .inl h
  | brokenOff count hmade h => exact .inr ⟨_, count, hmade, h⟩

end LocalRepository

/-- The head of a chain is asked first, so what is added to the chain is what is found. -/
theorem LocalChain.find?_of_add {c : LocalChain} {files left : FileSystem} {a : Artifact}
    {source stored : Path} (h : c.add files a source = (.ok stored, left)) :
    c.find? left a = some ⟨stored, c.baseDirectory⟩ := by
  obtain ⟨hstored, made, -, hcopied⟩ := LocalRepository.copied_of_add_ok h
  have hhead : c.head.find? left a = some ⟨stored, c.baseDirectory⟩ := by
    rw [hstored]
    exact LocalRepository.find?_eq_some_iff.mpr ⟨hcopied.isFile_target, rfl⟩
  rw [find?, List.findSome?_cons, hhead]

end Depot
