import Depot.FileSystem
import Depot.Proofs.Succeeding
import Mathlib.Tactic.SplitIfs

/-! What is left alone when files are written. Walks go through directories only, so they go the same
way as long as directories are still directories and what was there is still there
(`Passable.walk`). Making directories adds directories and nothing else (`Grown`). Whatever is tried
besides at a path disturbs at most the file to which the path leads in the end (`Disturbed`), and so
does one attempt after the other (`Disturbed.trans`), however each of them ends. -/

namespace Depot

namespace FileSystem

variable {fs left last : FileSystem} {l t : Location} {p : Path}

theorem hasDirectory_iff : fs.hasDirectory l = true ↔ fs.node? l = some .directory := by
  unfold hasDirectory
  split <;> simp_all

theorem ne_root_of_free (hfree : fs.hasDirectory t = false) : t ≠ [] := by
  rintro rfl
  cases hfree

theorem content?_eq_some {content : ByteArray} :
    fs.content? l = some content ↔ fs.node? l = some (.file content) := by
  unfold content?
  split <;> simp_all

theorem isFile_iff : fs.isFile p = true ↔
    ∃ l content, fs.locate p = .ok l ∧ fs.content? l = some content := by
  simp only [content?_eq_some]
  unfold isFile at?
  cases fs.locate p with
  | error cause => simp
  | ok l =>
    simp only [Except.ok.injEq, exists_and_left, exists_eq_left']
    split <;> simp_all

/-- A mishap that is past has no part in what is where. -/
@[simp] theorem content?_later (fs : FileSystem) (l : Location) :
    fs.later.content? l = fs.content? l := rfl

/-- Directories are still directories, and what was there is still there: one can walk as before. -/
structure Passable (fs left : FileSystem) : Prop where
  directory : ∀ l, fs.node? l = some .directory → left.node? l = some .directory
  present : ∀ l, (fs.node? l).isSome = true → (left.node? l).isSome = true

theorem Passable.refl (fs : FileSystem) : fs.Passable fs where
  directory _ h := h
  present _ h := h

theorem Passable.trans (h : fs.Passable left) (hlast : left.Passable last) : fs.Passable last where
  directory l hnode := hlast.directory l (h.directory l hnode)
  present l hnode := hlast.present l (h.present l hnode)

theorem passable_later (fs : FileSystem) : fs.Passable fs.later where
  directory _ h := h
  present _ h := h

/-- What is put where no directory is leaves the directories as they are. -/
theorem passable_put (hfree : fs.hasDirectory t = false) (node : Node) :
    fs.Passable (fs.put t node) := by
  refine ⟨?_, ?_⟩
  · intro l h
    rw [node?_put _ _ _ (ne_root_of_free hfree), if_neg, h]
    rintro rfl
    rw [hasDirectory_iff.mpr h] at hfree
    cases hfree
  · intro l h
    rw [node?_put _ _ _ (ne_root_of_free hfree)]
    split
    · rfl
    · exact h

theorem Passable.step (hpassable : fs.Passable left) {name : String} {next : Location}
    (h : fs.step l name = .ok next) : left.step l name = .ok next := by
  unfold FileSystem.step at h ⊢
  split at h
  · rename_i hdirectory
    simp only [hpassable.directory l hdirectory]
    split_ifs at h ⊢
    · exact h
    · exact h
    · exact h
    · rename_i hafter hbefore
      exact absurd (hpassable.present _ hbefore) hafter
  · cases h

/-- A walk that succeeded goes the same way. -/
theorem Passable.walk (hpassable : fs.Passable left) {ns : List String}
    (h : fs.walk l ns = .ok t) : left.walk l ns = .ok t := by
  induction ns generalizing l with
  | nil => exact h
  | cons name rest ih =>
    rw [FileSystem.walk, List.foldlM_cons] at h ⊢
    obtain ⟨next, hnext, hrest⟩ := Succeeding.bind_eq_ok.mp h
    exact Succeeding.bind_eq_ok.mpr ⟨next, hpassable.step hnext, ih hrest⟩

theorem Passable.hasDirectory (hpassable : fs.Passable left) (h : fs.hasDirectory l = true) :
    left.hasDirectory l = true :=
  hasDirectory_iff.mpr (hpassable.directory l (hasDirectory_iff.mp h))

/-- A path leads where it led. -/
theorem Passable.locate (hpassable : fs.Passable left)
    (hworking : left.workingDirectory = fs.workingDirectory) (h : fs.locate p = .ok l) :
    left.locate p = .ok l := by
  obtain ⟨ns, hnames, hrest⟩ := Succeeding.bind_eq_ok.mp h
  obtain ⟨found, hwalk, hrest⟩ := Succeeding.bind_eq_ok.mp hrest
  split_ifs at hrest with hslash
  obtain rfl := Except.ok.inj hrest
  refine Succeeding.bind_eq_ok.mpr ⟨ns, hnames, Succeeding.bind_eq_ok.mpr ⟨found, ?_, ?_⟩⟩
  · rw [origin, hworking]
    exact hpassable.walk hwalk
  · rw [if_neg]
    intro hafter
    apply hslash
    simp only [Bool.and_eq_true, Bool.not_eq_true'] at hafter ⊢
    refine ⟨hafter.1, Bool.eq_false_iff.mpr ?_⟩
    intro hbefore
    rw [hpassable.hasDirectory hbefore] at hafter
    cases hafter.2

/-- Only directories are added: one can walk as before, and the files are the same. -/
structure Grown (fs left : FileSystem) : Prop where
  workingDirectory : left.workingDirectory = fs.workingDirectory
  passable : fs.Passable left
  content : ∀ l, left.content? l = fs.content? l

/-- Directories may be new, and the file to which the path leads in the end. One can walk as before,
no file is gone, and all others are the same. -/
structure Disturbed (fs : FileSystem) (p : Path) (left : FileSystem) : Prop where
  workingDirectory : left.workingDirectory = fs.workingDirectory
  passable : fs.Passable left
  file : ∀ l, (fs.content? l).isSome = true → (left.content? l).isSome = true
  content : ∀ l, left.locate p ≠ .ok l → left.content? l = fs.content? l

namespace Grown

theorem refl (fs : FileSystem) : fs.Grown fs where
  workingDirectory := rfl
  passable := .refl fs
  content _ := rfl

theorem trans (h : fs.Grown left) (hlast : left.Grown last) : fs.Grown last where
  workingDirectory := hlast.workingDirectory.trans h.workingDirectory
  passable := h.passable.trans hlast.passable
  content l := (hlast.content l).trans (h.content l)

theorem later (fs : FileSystem) : fs.Grown fs.later where
  workingDirectory := rfl
  passable := passable_later fs
  content _ := rfl

theorem disturbed (h : fs.Grown left) (p : Path) : fs.Disturbed p left where
  workingDirectory := h.workingDirectory
  passable := h.passable
  file l hfile := by rwa [h.content l]
  content l _ := h.content l

end Grown

namespace Disturbed

theorem refl (fs : FileSystem) (p : Path) : fs.Disturbed p fs :=
  (Grown.refl fs).disturbed p

theorem locate {q : Path} (h : fs.Disturbed p left) (hlocate : fs.locate q = .ok l) :
    left.locate q = .ok l :=
  h.passable.locate h.workingDirectory hlocate

theorem trans (h : fs.Disturbed p left) (hlast : left.Disturbed p last) : fs.Disturbed p last where
  workingDirectory := hlast.workingDirectory.trans h.workingDirectory
  passable := h.passable.trans hlast.passable
  file l hfile := hlast.file l (h.file l hfile)
  content l hother := by
    -- Where the path led in between it still leads in the end.
    rw [hlast.content l hother]
    exact h.content l fun hplace => hother (hlast.locate hplace)

/-- No file differs when the one does not to which the path leads. -/
theorem unchanged_iff (h : fs.Disturbed p left) : (∀ l, left.content? l = fs.content? l) ↔
    ∀ place, left.locate p = .ok place → left.content? place = fs.content? place := by
  constructor
  · exact fun hall place _ => hall place
  · intro hplace l
    by_cases hl : left.locate p = .ok l
    · exact hplace l hl
    · exact h.content l hl

end Disturbed

end FileSystem

end Depot
