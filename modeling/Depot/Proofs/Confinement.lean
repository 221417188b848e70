import Depot.Proofs.Adding
import Depot.Proofs.Resolving

/-! Whether artifacts stay inside their repository. They do in every repository exactly when their path
goes down more often than up, and never up before it went down (`GoesDown`); then the file that is
found and the file that is written are below the directory of the repository
(`LocalRepository.StaysInside`). Coordinates name other artifacts as well, for slashes and two dots
are kept in every part of them but the group. -/

namespace Depot

/-- The steps go down more often than up, and up only after as many steps down. -/
structure GoesDown (steps : List String) : Prop where
  inside : ∀ before, before <+: steps →
    before.count ".." ≤ before.countP (!FileSystem.isRelativeName ·)
  further : steps.count ".." < steps.countP (!FileSystem.isRelativeName ·)

namespace Resolved

variable {steps : List String}

theorem up_step (d : Resolved) (name : String) : (d.step name).up = d.up ∨
    (d.step name).names = [] ∧ (d.step name).up = d.up + 1 := by
  unfold step
  split_ifs with hdot hdots hnames
  · exact .inl rfl
  · exact .inl rfl
  · exact .inl rfl
  · exact .inr ⟨not_not.mp hnames, rfl⟩
  · exact .inl rfl

/-- A name down is still there or was taken back by a step up, and what else goes up counts. -/
theorem length_add_count (steps : List String) :
    (steps.foldl step { rooted := false }).names.length + steps.count ".." =
      (steps.foldl step { rooted := false }).up +
        steps.countP (!FileSystem.isRelativeName ·) := by
  induction steps using List.reverseRecOn with
  | nil => rfl
  | append_singleton steps name ih =>
    have hrooted := rooted_foldl { rooted := false } steps
    rw [List.foldl_append, List.foldl_cons, List.foldl_nil, List.count_append, List.countP_append,
      List.count_singleton, List.countP_singleton]
    generalize steps.foldl step { rooted := false } = d at ih hrooted ⊢
    obtain rfl | rfl | hdown := name_cases name
    · exact ih
    -- A step up takes the last name back, or there is none and the level counts.
    · by_cases hnames : d.names = []
      · rw [hnames, List.length_nil] at ih
        rw [step_out hnames, hrooted, hnames]
        change 0 + (steps.count ".." + 1) = d.up + 1 + (_ + 0)
        omega
      · have hlength : 0 < d.names.length := List.length_pos_iff.mpr hnames
        rw [step_back hnames, List.length_dropLast]
        change d.names.length - 1 + (steps.count ".." + 1) = d.up + (_ + 0)
        omega
    · have hname : name ≠ ".." := by
        rintro rfl
        cases hdown
      rw [step_down hdown, hdown, List.length_append, List.length_singleton, if_neg (by simpa)]
      change _ = d.up + (_ + 1)
      omega

/-- No step goes further up than the steps before it went down. -/
theorem up_eq_zero_iff : (steps.foldl step { rooted := false }).up = 0 ↔
    ∀ before, before <+: steps →
      before.count ".." ≤ before.countP (!FileSystem.isRelativeName ·) := by
  induction steps using List.reverseRecOn with
  | nil => simp
  | append_singleton steps name ih =>
    have hbalance := length_add_count (steps ++ [name])
    have hup := up_step (steps.foldl step { rooted := false }) name
    rw [List.foldl_append, List.foldl_cons, List.foldl_nil] at hbalance ⊢
    simp only [List.prefix_concat_iff, forall_eq_or_imp, ← ih]
    constructor
    · intro hzero
      omega
    · rintro ⟨hwhole, hzero⟩
      rcases hup with hup | ⟨hnames, hup⟩
      · rw [hup, hzero]
      · rw [hnames, hup, List.length_nil] at hbalance
        omega

theorem goesDown_iff : GoesDown steps ↔
    (steps.foldl step { rooted := false }).up = 0 ∧
      (steps.foldl step { rooted := false }).names ≠ [] := by
  have hbalance := length_add_count steps
  rw [← List.length_pos_iff]
  constructor
  · rintro ⟨hinside, hfurther⟩
    have hzero := up_eq_zero_iff.mpr hinside
    exact ⟨hzero, by omega⟩
  · rintro ⟨hzero, hnames⟩
    exact ⟨up_eq_zero_iff.mp hzero, by omega⟩

instance : Decidable (GoesDown steps) :=
  decidable_of_iff _ goesDown_iff.symm

end Resolved

theorem goesDown_of_no_up {steps : List String} (hup : ".." ∉ steps)
    (hdown : ∃ name ∈ steps, FileSystem.isRelativeName name = false) : GoesDown steps where
  inside before hbefore := by
    rw [List.count_eq_zero.mpr fun hmem => hup (hbefore.subset hmem)]
    exact Nat.zero_le _
  further := by
    obtain ⟨name, hname, hplain⟩ := hdown
    rw [List.count_eq_zero.mpr hup]
    exact List.countP_pos_iff.mpr ⟨name, hname, by rw [hplain]; rfl⟩

namespace Artifact

theorem isAbsolute_relativePath (a : Artifact) : a.relativePath.isAbsolute = false :=
  (Path.steps_ofNames_pieces a.layoutPath).1

theorem resolved_relativePath (a : Artifact) :
    a.relativePath.resolved = a.relativePath.steps.foldl Resolved.step { rooted := false } := by
  rw [Path.resolved, a.isAbsolute_relativePath]

theorem steps_relativePath (a : Artifact) : a.relativePath.steps =
    Path.steps ⟨a.groupPath⟩ ++ Path.steps ⟨a.name⟩ ++ Path.steps ⟨a.version⟩ ++
      Path.steps ⟨a.fileName⟩ := by
  refine (Path.steps_ofNames_pieces a.layoutPath).2.trans ?_
  rw [layoutPath, Path.steps_append_slash, Path.steps_append_slash, Path.steps_append_slash]

/-- No part but the group has a slash, and the artifact and the version are not two dots. -/
structure Plain (a : Artifact) : Prop where
  unslashed : ∀ part ∈ [a.name, a.version, a.classifier, a.extension], '/' ∉ part.toList
  name : a.name ≠ ".."
  version : a.version ≠ ".."

/-- The dots of a group are slashes in its path. -/
theorem isRelativeName_of_mem_group {a : Artifact} {name : String}
    (h : name ∈ Path.steps ⟨a.groupPath⟩) : FileSystem.isRelativeName name = false := by
  obtain ⟨part, hpart, rfl⟩ := List.mem_map.mp h
  apply Bool.eq_false_iff.mpr
  intro hrelative
  have hdot : '.' ∈ part := by
    have hname : String.ofList part = "." ∨ String.ofList part = ".." := by
      simpa [FileSystem.isRelativeName] using hrelative
    rw [← String.toList_ofList (l := part)]
    rcases hname with hname | hname <;> rw [hname] <;> decide
  have hgroup : '.' ∈ a.groupPath.toList :=
    (Text.mem_of_mem_splitOn (List.mem_filter.mp hpart).1 hdot).1
  rw [groupPath, String.toList_map] at hgroup
  obtain ⟨c, -, hc⟩ := List.mem_map.mp hgroup
  split_ifs at hc with hpoint
  · cases hc
  · exact hpoint hc

/-- A file name has a dash. -/
theorem isRelativeName_fileName (a : Artifact) :
    FileSystem.isRelativeName a.fileName = false := by
  have hdash : '-' ∈ a.fileName.toList := by
    simp [fileName]
  apply Bool.eq_false_iff.mpr
  intro hrelative
  have hname : a.fileName = "." ∨ a.fileName = ".." := by
    simpa [FileSystem.isRelativeName] using hrelative
  rcases hname with hname | hname <;> rw [hname] at hdash <;> revert hdash <;> decide

theorem slash_not_mem_fileName {a : Artifact}
    (h : ∀ part ∈ [a.name, a.version, a.classifier, a.extension], '/' ∉ part.toList) :
    '/' ∉ a.fileName.toList := by
  simp only [List.forall_mem_cons] at h
  obtain ⟨hname, hversion, hclassifier, hextension, -⟩ := h
  rw [fileName, fileSuffix]
  split <;> simp [*]

theorem Plain.goesDown {a : Artifact} (h : a.Plain) : GoesDown a.relativePath.steps := by
  rw [steps_relativePath]
  apply goesDown_of_no_up
  · simp only [List.mem_append, not_or]
    refine ⟨⟨⟨?_, ?_⟩, ?_⟩, ?_⟩
    · intro hmem
      cases isRelativeName_of_mem_group hmem
    · rw [Path.steps_of_unslashed (h.unslashed _ (by simp))]
      simp [h.name.symm]
    · rw [Path.steps_of_unslashed (h.unslashed _ (by simp))]
      simp [h.version.symm]
    · rw [Path.steps_of_unslashed (slash_not_mem_fileName h.unslashed)]
      intro hmem
      have hname := isRelativeName_fileName a
      rw [← List.mem_singleton.mp (List.mem_filter.mp hmem).1] at hname
      cases hname
  · refine ⟨a.fileName, List.mem_append_right _ ?_, isRelativeName_fileName a⟩
    rw [Path.steps_of_unslashed (slash_not_mem_fileName h.unslashed)]
    simp [fileName]

end Artifact

namespace LocalRepository

variable {r : LocalRepository} {a : Artifact} {files : FileSystem} {source : Path}

theorem resolved_pathOf (r : LocalRepository) (a : Artifact) :
    (r.pathOf a).resolved = r.baseDirectory.resolved.follow a.relativePath.resolved :=
  Path.resolved_join a.isAbsolute_relativePath

theorem below_of_goesDown (h : GoesDown a.relativePath.steps) (r : LocalRepository) :
    (r.pathOf a).resolved.Below r.baseDirectory.resolved := by
  obtain ⟨hup, hnames⟩ := Resolved.goesDown_iff.mp h
  rw [← a.resolved_relativePath] at hup hnames
  rw [resolved_pathOf, Resolved.below_follow_iff]
  refine ⟨.inr ?_, ?_, ?_⟩
  · rw [hup]
    exact Nat.zero_le _
  · rw [hup, Nat.sub_zero, List.drop_length]
    exact List.nil_prefix
  · rw [hup, Nat.zero_min]
    exact List.length_pos_iff.mpr hnames

/-- The working directory is a base that no path can leave and come back to. -/
theorem goesDown_of_below (h : (pathOf ⟨⟨"."⟩, false⟩ a).resolved.Below (Path.mk ".").resolved) :
    GoesDown a.relativePath.steps := by
  have hdot : (Path.mk ".").resolved = { rooted := false } := by decide +kernel
  rw [resolved_pathOf, hdot] at h
  obtain ⟨hwithin, -, hfurther⟩ := Resolved.below_follow_iff.mp h
  have hup : a.relativePath.resolved.up = 0 := by
    rcases hwithin with hrooted | hup
    · cases hrooted
    · exact Nat.le_zero.mp hup
  rw [Resolved.goesDown_iff, ← a.resolved_relativePath]
  refine ⟨hup, ?_⟩
  rw [hup, Nat.zero_min] at hfurther
  exact List.length_pos_iff.mp hfurther

theorem under_of_goesDown (h : GoesDown a.relativePath.steps) (r : LocalRepository)
    (files : FileSystem) : files.Under r.baseDirectory (files.placeOf (r.pathOf a)) := by
  obtain ⟨hup, hnames⟩ := Resolved.goesDown_iff.mp h
  rw [← a.resolved_relativePath] at hup hnames
  exact ⟨_, hnames, FileSystem.placeOf_join a.isAbsolute_relativePath hup⟩

theorem under_of_isFile (h : GoesDown a.relativePath.steps)
    (hfile : files.isFile (r.pathOf a) = true) :
    ∃ l, files.locate (r.pathOf a) = .ok l ∧ files.Under r.baseDirectory l := by
  obtain ⟨l, -, hlocate, -⟩ := FileSystem.isFile_iff.mp hfile
  have hunder := under_of_goesDown h r files
  rw [FileSystem.placeOf_of_locate hlocate] at hunder
  exact ⟨l, hlocate, hunder⟩

theorem under_of_add {l : Location} (h : GoesDown a.relativePath.steps)
    (hchanged : (r.add files a source).2.content? l ≠ files.content? l) :
    files.Under r.baseDirectory l := by
  rcases hadd : r.add files a source with ⟨result, left⟩
  rw [hadd] at hchanged
  have hdisturbed := disturbed_of_add hadd
  have hplace : left.locate (r.pathOf a) = .ok l := by
    by_contra hother
    exact hchanged (hdisturbed.content l hother)
  rw [← FileSystem.placeOf_of_locate hplace, FileSystem.placeOf_congr hdisturbed.workingDirectory]
  exact under_of_goesDown h r files

/-- Looking for the artifact and adding it stays below the directory of the repository. -/
structure StaysInside (r : LocalRepository) (files : FileSystem) (a : Artifact) : Prop where
  finds : ∀ found, r.find? files a = some found →
    ∃ l, files.locate found.file = .ok l ∧ files.Under r.baseDirectory l
  adds : ∀ source l, (r.add files a source).2.content? l ≠ files.content? l →
    files.Under r.baseDirectory l

theorem staysInside_of_goesDown (h : GoesDown a.relativePath.steps) (r : LocalRepository)
    (files : FileSystem) : r.StaysInside files a where
  finds found hfound := by
    obtain ⟨hfile, hfound⟩ := find?_eq_some_iff.mp hfound
    have hkept : found.file = r.pathOf a := by rw [hfound]
    rw [hkept]
    exact under_of_isFile h hfile
  adds _ _ := under_of_add h

/-- The path of an artifact lies strictly below the directory of a repository exactly when it comes back
into it by the names by which it leaves it. It does so for every repository exactly when it goes down,
as that of plain parts does, and then a repository is looked into and written to below its directory
alone. -/
theorem below_iff_goesDown (a : Artifact) :
    (∀ r : LocalRepository, (r.pathOf a).resolved.Below r.baseDirectory.resolved ↔
      a.relativePath.resolved.ComesBack r.baseDirectory.resolved) ∧
    ((∀ r : LocalRepository, r.baseDirectory.text ≠ "" →
        (r.pathOf a).resolved.Below r.baseDirectory.resolved) ↔ GoesDown a.relativePath.steps) ∧
    (GoesDown a.relativePath.steps → ∀ (r : LocalRepository) (files : FileSystem),
      r.StaysInside files a) ∧
    (a.Plain → GoesDown a.relativePath.steps) := by
  refine ⟨?_, ⟨?_, ?_⟩, staysInside_of_goesDown, Artifact.Plain.goesDown⟩
  · intro r
    rw [resolved_pathOf, Resolved.below_follow_iff]
  · intro hbelow
    exact goesDown_of_below (hbelow ⟨⟨"."⟩, false⟩ (by decide))
  · intro hdown r _
    exact below_of_goesDown hdown r

example : GoesDown (Artifact.relativePath { group := "g.h", name := "..", version := "1" }).steps := by
  decide +kernel

/-- Coordinates by which an artifact is kept beside its repository. -/
theorem escapes_some :
    let a : Artifact := { group := "g", name := "..", version := ".." }
    let files : FileSystem := { workingDirectory := [], nodes := [(["new"], .file ⟨#[74, 65, 82]⟩)] }
    let r : LocalRepository := ⟨⟨"/m2"⟩, false⟩
    Artifact.parse "g:..:.." = .ok a ∧ ¬(r.pathOf a).resolved.Below r.baseDirectory.resolved ∧
      (r.add files a ⟨"/new"⟩).1 = .ok (r.pathOf a) ∧
      (r.add files a ⟨"/new"⟩).2.content? ["..-...jar"] = some ⟨#[74, 65, 82]⟩ := by
  refine ⟨?_, by decide +kernel, ?_, by decide +kernel⟩
  · apply Succeeding.toOption_eq_some.mp
    decide +kernel
  · apply Succeeding.toOption_eq_some.mp
    decide +kernel

end LocalRepository

end Depot
