import Depot.Proofs.Storing

/-! What adding to a local repository does to the files. A failed attempt leaves directories behind, or
the beginning of a copy that broke off; a successful one takes the source over to the artifact's path,
where it is found from then on; and nothing else changes (`FileSystem.Copied`). The copy is what the
source was, with one exception: a file that is added from its own place is emptied
(`LocalChain.read_of_add_iff`). So adding is faithful but for two cases: the source is the artifact's
own file, and a copy breaks off over another content (`LocalChain.addsFaithfully_iff`). -/

namespace Depot

namespace FileSystem

variable {fs left : FileSystem} {source target : Path}

theorem read_eq_ok_iff {p : Path} {content : ByteArray} :
    fs.read p = .ok content ↔ ∃ l, fs.locate p = .ok l ∧ fs.content? l = some content := by
  unfold read
  simp only [Succeeding.bind_eq_ok, content?_eq_some]
  apply exists_congr
  intro l
  apply and_congr_right
  intro _
  split <;> simp_all

/-- A whole copy reads as the source did, unless the target leads to the source itself, which then is
empty. -/
theorem Copied.read_eq_iff (h : fs.Copied source target id left) :
    left.read target = fs.read source ↔
      (left.locate target = fs.locate source → fs.read source = .ok .empty) := by
  obtain ⟨origin, content, place, horigin, hcontent, hplace, hleft⟩ := h.takes
  have hbefore : fs.read source = .ok content := read_eq_ok_iff.mpr ⟨origin, horigin, hcontent⟩
  have hafter : left.read target = .ok (if origin = place then .empty else content) :=
    read_eq_ok_iff.mpr ⟨place, hplace, hleft⟩
  rw [hafter, hbefore, hplace, horigin, Except.ok.injEq, Except.ok.injEq, Except.ok.injEq]
  split
  · rename_i hsame
    simp [hsame, eq_comm]
  · rename_i hother
    simp [Ne.symm hother]

end FileSystem

namespace LocalChain

/-- The bytes of the source stand at the path that is answered, under which the artifact is found in
the head, and no other file has changed; after a failure no file has. -/
def AddsFaithfully (c : LocalChain) (files : FileSystem) (a : Artifact) (source : Path) : Prop :=
  match c.add files a source with
  | (.ok stored, left) =>
    (∃ content, files.read source = .ok content ∧ left.read stored = .ok content) ∧
      (∀ l, left.locate stored ≠ .ok l → left.content? l = files.content? l) ∧
      c.find? left a = some ⟨stored, c.baseDirectory⟩
  | (.error _, left) => ∀ l, left.content? l = files.content? l

variable {c : LocalChain} {files left : FileSystem} {a : Artifact} {source stored : Path}

/-- What was added reads as the source did exactly when the source was a file already and is not the
file that was written, or had nothing to lose. -/
theorem read_of_add_iff (h : c.add files a source = (.ok stored, left)) :
    (∃ content, files.read source = .ok content ∧ left.read stored = .ok content) ↔
      ∃ content, files.read source = .ok content ∧
        (left.locate stored = files.locate source → content = .empty) := by
  apply exists_congr
  intro content
  apply and_congr_right
  intro hread
  obtain ⟨origin, hlocate, hcontent⟩ := FileSystem.read_eq_ok_iff.mp hread
  have hfile : files.isFile source = true :=
    FileSystem.isFile_iff.mpr ⟨origin, content, hlocate, hcontent⟩
  obtain ⟨hstored, made, hgrown, hcopied⟩ := LocalRepository.copied_of_add_ok h
  have hread_iff := (hgrown.copied hfile hcopied).read_eq_iff
  rwa [← hstored, hread, Except.ok.injEq] at hread_iff

theorem not_addsFaithfully (hstored : (c.add files a source).1 = .ok stored)
    (hread : files.read source ≠ (c.add files a source).2.read stored) :
    ¬c.AddsFaithfully files a source := by
  unfold AddsFaithfully
  rcases hadd : c.add files a source with ⟨result, left⟩
  rw [hadd] at hstored hread
  obtain rfl : result = .ok stored := hstored
  rintro ⟨⟨content, hbefore, hafter⟩, -⟩
  exact hread (hbefore.trans hafter.symm)

/-- Adding fails and leaves directories or the beginning of the copy, or it takes the source over to
where the artifact is found from then on; of the files it changes the artifact's alone. It is faithful
exactly when the source of a success was a file before directories were made, and another one than
the file that is written, or empty; and when after a failure the artifact's file is as it was. -/
theorem addsFaithfully_iff (c : LocalChain) (files : FileSystem) (a : Artifact) (source : Path) :
    files.Disturbed (c.head.pathOf a) (c.add files a source).2 ∧
    (∀ cause left, c.add files a source = (.error cause, left) →
      files.Grown left ∨ ∃ made count, files.Grown made ∧
        made.Copied source (c.head.pathOf a) (FileSystem.firstBytes count) left) ∧
    (∀ stored left, c.add files a source = (.ok stored, left) →
      stored = c.head.pathOf a ∧ c.find? left a = some ⟨stored, c.baseDirectory⟩ ∧
        ∃ made, files.Grown made ∧ made.Copied source stored id left) ∧
    (c.AddsFaithfully files a source ↔
      (∀ stored left, c.add files a source = (.ok stored, left) →
        ∃ content, files.read source = .ok content ∧
          (left.locate stored = files.locate source → content = .empty)) ∧
      ∀ cause left, c.add files a source = (.error cause, left) →
        ∀ place, left.locate (c.head.pathOf a) = .ok place →
          left.content? place = files.content? place) := by
  refine ⟨?_, ?_, ?_, ?_⟩
  · rcases hadd : c.add files a source with ⟨result, left⟩
    exact LocalRepository.disturbed_of_add hadd
  · intro cause left h
    exact LocalRepository.grown_or_copied_of_add_error h
  · intro stored left h
    obtain ⟨hstored, hcopied⟩ := LocalRepository.copied_of_add_ok h
    exact ⟨hstored, find?_of_add h, hstored ▸ hcopied⟩
  · unfold AddsFaithfully
    rcases hadd : c.add files a source with ⟨cause | stored, left⟩
    · have hunchanged := (LocalRepository.disturbed_of_add hadd).unchanged_iff
      constructor
      · intro hall
        refine ⟨nofun, ?_⟩
        intro cause left h
        obtain ⟨-, rfl⟩ := Prod.mk.inj h
        exact hunchanged.mp hall
      · rintro ⟨-, hplace⟩
        exact hunchanged.mpr (hplace cause left rfl)
    · constructor
      · rintro ⟨hread, -⟩
        refine ⟨?_, nofun⟩
        intro stored left h
        obtain ⟨hstored, rfl⟩ := Prod.mk.inj h
        obtain rfl := Except.ok.inj hstored
        exact (read_of_add_iff hadd).mp hread
      · rintro ⟨h, -⟩
        obtain ⟨hstored, -⟩ := LocalRepository.copied_of_add_ok hadd
        refine ⟨(read_of_add_iff hadd).mpr (h stored left rfl), ?_, find?_of_add hadd⟩
        rw [hstored]
        exact (LocalRepository.disturbed_of_add hadd).content

/-- A repository at a directory that has one file, from which a copy is begun on a disk that takes one
byte more. -/
example :
    let files : FileSystem :=
      { workingDirectory := []
        nodes := [(["new"], .file ⟨#[74, 65, 82]⟩)]
        mishaps := [none, none, none, none, some (.brokenOff 1 .noSpaceLeft)] }
    let c : LocalChain := { head := ⟨⟨"/m2"⟩, false⟩ }
    let a : Artifact := { group := "g", name := "a", version := "1" }
    (c.add files a ⟨"/new"⟩).1.toOption = none ∧
      (c.add files a ⟨"/new"⟩).2.content? ["m2", "g", "a", "1", "a-1.jar"] = some ⟨#[74]⟩ := by
  decide +kernel

/-- The artifact is added from the place where it is kept, and its bytes are lost. -/
theorem empties_own_artifact :
    let own : Path := ⟨"/m2/g/a/1/a-1.jar"⟩
    let a : Artifact := { group := "g", name := "a", version := "1" }
    let files : FileSystem :=
      { workingDirectory := []
        nodes := [(["m2", "g", "a", "1", "a-1.jar"], .file ⟨#[74, 65, 82]⟩),
          (["m2", "g", "a", "1"], .directory), (["m2", "g", "a"], .directory),
          (["m2", "g"], .directory), (["m2"], .directory)] }
    let c : LocalChain := { head := ⟨⟨"/m2"⟩, false⟩ }
    Plan.build { primary := ⟨"/m2"⟩ } [] = .ok c ∧ files.read own = .ok ⟨#[74, 65, 82]⟩ ∧
      (c.add files a own).1 = .ok own ∧ (c.add files a own).2.read own = .ok .empty ∧
      ¬c.AddsFaithfully files a own := by
  intro own a files c
  have hbefore : files.read own = .ok ⟨#[74, 65, 82]⟩ := by
    apply Succeeding.toOption_eq_some.mp
    decide +kernel
  have hstored : (c.add files a own).1 = .ok own := by
    apply Succeeding.toOption_eq_some.mp
    decide +kernel
  have hafter : (c.add files a own).2.read own = .ok .empty := by
    apply Succeeding.toOption_eq_some.mp
    decide +kernel
  exact ⟨rfl, hbefore, hstored, hafter, not_addsFaithfully hstored (by rw [hbefore, hafter]; nofun)⟩

end LocalChain

end Depot
