/-! Values by key in a list of pairs. Of several pairs with one key the first counts. Storing a value
takes the pairs of its key out and puts the new one in front, so that a key that is stored has one
pair. -/

namespace Depot.Keyed

variable {α β : Type} [BEq α] [LawfulBEq α] [DecidableEq α]

/-- The pairs with the value under the key, in place of what the key had. -/
def store (entries : List (α × β)) (key : α) (value : β) : List (α × β) :=
  (key, value) :: entries.filter (·.1 != key)

theorem lookup_cons (key : α) (value : β) (entries : List (α × β)) (asked : α) :
    ((key, value) :: entries).lookup asked =
      if asked = key then some value else entries.lookup asked := by
  by_cases h : asked = key
  · simp [h]
  · have hf : (asked == key) = false := beq_false_of_ne h
    simp [List.lookup_cons, hf, h]

/-- Taking the pairs of one key out changes nothing for the others. -/
theorem lookup_filter_ne (entries : List (α × β)) {key asked : α} (h : asked ≠ key) :
    (entries.filter (·.1 != key)).lookup asked = entries.lookup asked := by
  induction entries with
  | nil => rfl
  | cons e rest ih =>
    obtain ⟨k, v⟩ := e
    by_cases hk : k = key
    · subst hk
      simp [lookup_cons, h, ih]
    · simp [lookup_cons, hk, ih]

theorem lookup_store (entries : List (α × β)) (key : α) (value : β) (asked : α) :
    (store entries key value).lookup asked =
      if asked = key then some value else entries.lookup asked := by
  rw [store, lookup_cons]
  split
  · rfl
  · rename_i h
    exact lookup_filter_ne entries h

end Depot.Keyed
