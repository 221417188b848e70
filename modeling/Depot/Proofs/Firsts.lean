import Mathlib.Data.List.Nodup

/-! The first element of a list that has a property, as a search for it finds it. Where keys are not
repeated, it is the only one of its key. -/

namespace Depot

variable {α : Type} {P : α → Prop} {xs : List α} {a : α}

/-- The element has the property, and none that stands before it has. -/
def IsFirst (P : α → Prop) (xs : List α) (a : α) : Prop :=
  ∃ before after, xs = before ++ a :: after ∧ P a ∧ ∀ other ∈ before, ¬P other

section Search

variable {p : α → Bool} (h : ∀ a, p a = true ↔ P a)

include h

theorem find?_eq_some_iff_isFirst : xs.find? p = some a ↔ IsFirst P xs a := by
  have hfails (other : α) : (!p other) = true ↔ ¬P other := by
    rw [← h, Bool.not_eq_true', Bool.eq_false_iff]
  simp only [List.find?_eq_some_iff_append, h, hfails, IsFirst]
  constructor
  · rintro ⟨ha, before, after, hxs, hbefore⟩
    exact ⟨before, after, hxs, ha, hbefore⟩
  · rintro ⟨before, after, hxs, ha, hbefore⟩
    exact ⟨ha, before, after, hxs, hbefore⟩

theorem find?_eq_none_iff_forall_not : xs.find? p = none ↔ ∀ a ∈ xs, ¬P a := by
  simp only [List.find?_eq_none, h]

end Search

theorem exists_isFirst (h : ∃ a ∈ xs, P a) : ∃ a, IsFirst P xs a := by
  classical
  obtain ⟨a, ha⟩ := Option.isSome_iff_exists.mp
    (List.find?_isSome.mpr (by simpa using h : ∃ a ∈ xs, decide (P a) = true))
  exact ⟨a, (find?_eq_some_iff_isFirst fun _ => decide_eq_true_iff).mp ha⟩

/-- Where keys are distinct an element is found by its own. -/
theorem find?_of_nodup_map {κ : Type} [BEq κ] [LawfulBEq κ] {key : α → κ}
    (hkeys : (xs.map key).Nodup) (h : a ∈ xs) : xs.find? (key · == key a) = some a := by
  cases hfound : xs.find? (key · == key a) with
  | none => exact absurd (beq_self_eq_true (key a)) (List.find?_eq_none.mp hfound a h)
  | some found =>
    have hkey : key found = key a := by simpa using List.find?_some hfound
    rw [List.inj_on_of_nodup_map hkeys (List.mem_of_find?_eq_some hfound) h hkey]

end Depot
