import Depot.Proofs.Confinement
import Depot.Proofs.Coordinates

/-! Where artifacts lie, and that no two lie in one place. Without slashes in its parts an artifact has
a layout path whose pieces are its directories, the levels of the group, the artifact and the version,
and the file name (`Artifact.pieces_layoutPath`), so these can be read off the path although a file
name alone does not tell where the artifact ends and the version begins. What is left of the file name
tells the classifier from the extension unless a classifier has a dot
(`Artifact.layoutPath_unambiguous`). -/

namespace Depot.Artifact

variable {a b : Artifact}

/-- The names of the directories above the file: one for each level of the group, and one each for the
artifact and the version. -/
def directories (a : Artifact) : List String :=
  Text.pieces '.' a.group ++ [a.name, a.version]

/-- The levels of a group are the pieces of its path. -/
theorem pieces_groupPath (h : '/' ∉ a.group.toList) :
    Text.pieces '/' a.groupPath = Text.pieces '.' a.group := by
  rw [Text.pieces, Text.pieces, groupPath, String.toList_map]
  congr 1
  generalize a.group.toList = cs at h
  induction cs with
  | nil => rfl
  | cons c cs ih =>
    obtain ⟨hc, hcs⟩ := List.ne_and_not_mem_of_not_mem_cons h
    rw [List.map_cons, List.splitOn_cons_eq_if_modifyHead, List.splitOn_cons_eq_if_modifyHead,
      ih hcs]
    by_cases hdot : c = '.'
    · simp [hdot]
    · simp [hdot, hc.symm]

theorem pieces_layoutPath (h : a.Without '/') :
    Text.pieces '/' a.layoutPath = a.directories ++ [a.fileName] := by
  obtain ⟨hgroup, hname, hversion, hclassifier, hextension⟩ := without_iff.mp h
  have hfile : '/' ∉ a.fileName.toList :=
    slash_not_mem_fileName (by simp [hname, hversion, hclassifier, hextension])
  have hmark : "/".toList = ['/'] := rfl
  rw [layoutPath, Text.pieces_append hmark, Text.pieces_append hmark, Text.pieces_append hmark,
    pieces_groupPath hgroup, Text.pieces_eq_singleton hname, Text.pieces_eq_singleton hversion,
    Text.pieces_eq_singleton hfile, directories]
  simp

/-- A layout path tells all but where the rest of the file name is divided. -/
theorem layoutPath_eq_iff (ha : a.Without '/') (hb : b.Without '/') :
    a.layoutPath = b.layoutPath ↔
      a.group = b.group ∧ a.name = b.name ∧ a.version = b.version ∧
        a.fileSuffix = b.fileSuffix := by
  constructor
  · intro h
    have hpieces := congrArg (Text.pieces '/') h
    rw [pieces_layoutPath ha, pieces_layoutPath hb, directories, directories] at hpieces
    -- The last three pieces are those after the group, which may have any number of levels.
    obtain ⟨hdirectories, hfile⟩ := List.append_inj' hpieces rfl
    obtain ⟨hgroup, hlast⟩ := List.append_inj' hdirectories rfl
    simp only [List.cons.injEq, and_true] at hlast hfile
    obtain ⟨hname, hversion⟩ := hlast
    rw [fileName, fileName, hname, hversion] at hfile
    exact ⟨Text.pieces_injective hgroup, hname, hversion, (String.append_right_inj _).mp hfile⟩
  · rintro ⟨hgroup, hname, hversion, hsuffix⟩
    rw [layoutPath, layoutPath, groupPath, groupPath, fileName, fileName, hgroup, hname, hversion,
      hsuffix]

/-- A classifier without dots ends where the first dot stands. -/
theorem cutAt?_fileSuffix (h : '.' ∉ a.classifier.toList) :
    Text.cutAt? ['.'] a.fileSuffix.toList =
      some ((if a.classifier = "" then "" else "-" ++ a.classifier).toList,
        a.extension.toList) := by
  have hfront : '.' ∉ (if a.classifier = "" then "" else "-" ++ a.classifier).toList := by
    split <;> simp [h]
  rw [fileSuffix, String.toList_append, String.toList_append, List.append_assoc]
  exact Text.cutAt?_append_cons hfront _

theorem eq_of_fileSuffix_eq (ha : '.' ∉ a.classifier.toList) (hb : '.' ∉ b.classifier.toList)
    (h : a.fileSuffix = b.fileSuffix) :
    a.classifier = b.classifier ∧ a.extension = b.extension := by
  have hcut := cutAt?_fileSuffix ha
  rw [h, cutAt?_fileSuffix hb] at hcut
  simp only [Option.some.injEq, Prod.mk.injEq, String.toList_inj] at hcut
  obtain ⟨hfront, hextension⟩ := hcut
  refine ⟨?_, hextension.symm⟩
  split_ifs at hfront with hb' ha' ha'
  · rw [ha', hb']
  · simp at hfront
  · simp at hfront
  · exact ((String.append_right_inj _).mp hfront).symm

theorem fileName_ne_empty (a : Artifact) : a.fileName ≠ "" := by
  intro h
  simp [fileName] at h

/-- A path in a repository goes down the pieces of the layout path, for none of them is empty. -/
theorem steps_pathOf (h : a.Without '/') (hnamed : "" ∉ a.directories) (r : LocalRepository) :
    (r.pathOf a).steps = r.baseDirectory.steps ++ Text.pieces '/' a.layoutPath := by
  have hrelative : a.relativePath.steps = Path.steps ⟨a.layoutPath⟩ :=
    (Path.steps_ofNames_pieces a.layoutPath).2
  rw [LocalRepository.pathOf, Path.steps_join a.isAbsolute_relativePath, hrelative,
    ← Path.filter_pieces a.layoutPath, List.append_cancel_left_eq, List.filter_eq_self]
  intro name hname
  rw [pieces_layoutPath h, List.mem_append, List.mem_singleton] at hname
  rw [bne_iff_ne]
  rintro rfl
  exact hname.elim hnamed fun hfile => a.fileName_ne_empty hfile.symm

/-- The layout paths of artifacts without slashes in their parts are the same exactly when the
artifacts agree in group, artifact, version and what the file name has after these; if no classifier
has a dot, the artifacts are then the same. A local repository keeps them at the same path only when
their layout paths are the same, unless there are directories without a name. -/
theorem layoutPath_unambiguous (a b : Artifact) (ha : a.Without '/') (hb : b.Without '/') :
    (a.layoutPath = b.layoutPath ↔ a.group = b.group ∧ a.name = b.name ∧
      a.version = b.version ∧ a.fileSuffix = b.fileSuffix) ∧
    ('.' ∉ a.classifier.toList → '.' ∉ b.classifier.toList →
      a.layoutPath = b.layoutPath → a = b) ∧
    ∀ r : LocalRepository, "" ∉ a.directories → "" ∉ b.directories →
      (r.pathOf a = r.pathOf b ↔ a.layoutPath = b.layoutPath) := by
  refine ⟨layoutPath_eq_iff ha hb, fun hca hcb h => ?_, fun r hna hnb => ⟨?_, fun h => ?_⟩⟩
  · obtain ⟨hgroup, hname, hversion, hsuffix⟩ := (layoutPath_eq_iff ha hb).mp h
    obtain ⟨hclassifier, hextension⟩ := eq_of_fileSuffix_eq hca hcb hsuffix
    cases a
    cases b
    rw [Artifact.mk.injEq]
    exact ⟨hgroup, hname, hversion, hclassifier, hextension⟩
  · intro h
    have hsteps := congrArg Path.steps h
    rw [steps_pathOf ha hna, steps_pathOf hb hnb, List.append_cancel_left_eq] at hsteps
    exact Text.pieces_injective hsteps
  · rw [LocalRepository.pathOf, LocalRepository.pathOf, relativePath, relativePath, h]

/-- Two artifacts whose file names are the same are kept apart by their directories. -/
theorem layoutPath_unambiguous_dashed :
    let a : Artifact := { group := "org.a", name := "b-1", version := "2" }
    let b : Artifact := { group := "org.a", name := "b", version := "1-2" }
    let r : LocalRepository := { baseDirectory := ⟨"local"⟩ }
    (a.Without '/' ∧ '.' ∉ a.classifier.toList ∧ "" ∉ a.directories) ∧
      (b.Without '/' ∧ '.' ∉ b.classifier.toList ∧ "" ∉ b.directories) ∧
      a.fileName = b.fileName ∧ a.layoutPath ≠ b.layoutPath ∧ r.pathOf a ≠ r.pathOf b := by
  intro a b r
  have ha : a.Without '/' ∧ '.' ∉ a.classifier.toList ∧ "" ∉ a.directories := by decide +kernel
  have hb : b.Without '/' ∧ '.' ∉ b.classifier.toList ∧ "" ∉ b.directories := by decide +kernel
  obtain ⟨-, hsame, hkept⟩ := layoutPath_unambiguous a b ha.1 hb.1
  have hlayout : a.layoutPath ≠ b.layoutPath := fun h =>
    absurd (hsame ha.2.1 hb.2.1 h) (by decide)
  exact ⟨ha, hb, rfl, hlayout, fun h => hlayout ((hkept r ha.2.2 hb.2.2).mp h)⟩

/-- With a dot in a classifier two artifacts can have one layout path. -/
example :
    layoutPath { group := "g", name := "a", version := "1", classifier := "x.y", extension := "z" } =
      layoutPath
        { group := "g", name := "a", version := "1", classifier := "x", extension := "y.z" } := by
  decide +kernel

end Depot.Artifact
