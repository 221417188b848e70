import Depot.Text.Case
import Depot.Text.Decimal
import Mathlib.Data.List.DropRight

/-! Trimmed texts. Trimming what is trimmed changes nothing, a text is blank when nothing is left of
it, and a separator that does not occur in a trimmed text leaves it in one piece
(`Text.map_trim_pieces_eq_singleton`). -/

namespace Depot.Text

theorem isDigit_of_isSpace {c : Char} (h : isSpace c = true) : isDigit c = false := by
  have hzero : ('0' ≤ c) ↔ 48 ≤ c.toNat := Iff.rfl
  have hnine : (c ≤ '9') ↔ c.toNat ≤ 57 := Iff.rfl
  simp only [isSpace, Bool.or_eq_true, Bool.and_eq_true, decide_eq_true_eq, beq_iff_eq] at h
  simp only [isDigit, Bool.and_eq_false_iff, decide_eq_false_iff_not, hzero, hnine]
  omega

/-- What has been trimmed does not begin with white space. -/
theorem isSpace_of_head?_trimChars {cs : List Char} :
    ∀ c ∈ (trimChars cs).head?, isSpace c = false := by
  have hstart : trimChars cs <+: cs.dropWhile isSpace := List.rdropWhile_prefix isSpace _
  intro c hc
  obtain ⟨rest, htrim⟩ := List.head?_eq_some_iff.mp hc
  rw [htrim] at hstart
  obtain ⟨more, hmore⟩ := hstart
  have hfirst := List.head?_dropWhile_not isSpace cs
  rw [← hmore] at hfirst
  exact hfirst

/-- What has been trimmed does not end in white space. -/
theorem isSpace_of_getLast?_trimChars {cs : List Char} :
    ∀ c ∈ (trimChars cs).getLast?, isSpace c = false := by
  intro c hc
  obtain ⟨hfilled, rfl⟩ := List.mem_getLast?_eq_getLast hc
  exact Bool.eq_false_iff.mpr (List.rdropWhile_last_not isSpace (cs.dropWhile isSpace) hfilled)

theorem trimChars_eq_self {cs : List Char} (hstart : ∀ c ∈ cs.head?, isSpace c = false)
    (hend : ∀ c ∈ cs.getLast?, isSpace c = false) : trimChars cs = cs := by
  have hleft : cs.dropWhile isSpace = cs := by
    cases cs with
    | nil => rfl
    | cons c rest => exact List.dropWhile_cons_of_neg (Bool.eq_false_iff.mp (hstart c rfl))
  have hright : cs.rdropWhile isSpace = cs := by
    rw [List.rdropWhile_eq_self_iff]
    exact fun hfilled => Bool.eq_false_iff.mp (hend _ (List.getLast?_eq_some_getLast hfilled))
  rw [trimChars, hleft]
  exact hright

theorem trimChars_trimChars (cs : List Char) : trimChars (trimChars cs) = trimChars cs :=
  trimChars_eq_self isSpace_of_head?_trimChars isSpace_of_getLast?_trimChars

/-- A text is trimmed when it neither begins with white space nor ends in it. -/
theorem trim_eq_self_iff {s : String} : trim s = s ↔
    (∀ c ∈ s.toList.head?, isSpace c = false) ∧ ∀ c ∈ s.toList.getLast?, isSpace c = false := by
  constructor
  · intro h
    have hchars : trimChars s.toList = s.toList := by
      rw [← String.toList_ofList (l := trimChars s.toList)]
      exact congrArg String.toList h
    rw [← hchars]
    exact ⟨isSpace_of_head?_trimChars, isSpace_of_getLast?_trimChars⟩
  · rintro ⟨hstart, hend⟩
    rw [trim, trimChars_eq_self hstart hend, String.ofList_toList]

@[simp] theorem trim_trim (s : String) : trim (trim s) = trim s := by
  rw [trim, trim, String.toList_ofList, trimChars_trimChars]

/-! ### What is left of a text -/

theorem filled?_eq (s : String) : filled? s = if trim s = "" then none else some (trim s) := by
  rw [filled?]
  exact if_congr trim_eq_empty_iff.symm rfl rfl

theorem filled?_eq_some_iff {s filled : String} :
    filled? s = some filled ↔ trim s ≠ "" ∧ filled = trim s := by
  rw [filled?_eq]
  split
  · rename_i hempty
    simp [hempty]
  · rename_i hfilled
    rw [Option.some.injEq, and_iff_right hfilled, eq_comm]

theorem ne_empty_of_filled? {s filled : String} (h : filled? s = some filled) : filled ≠ "" := by
  obtain ⟨hfilled, rfl⟩ := filled?_eq_some_iff.mp h
  exact hfilled

theorem filled?_of_filled? {s filled : String} (h : filled? s = some filled) :
    filled? filled = some filled := by
  obtain ⟨hfilled, rfl⟩ := filled?_eq_some_iff.mp h
  rw [filled?_eq_some_iff, trim_trim]
  exact ⟨hfilled, rfl⟩

theorem filterMap_filled?_filterMap (entries : List String) :
    (entries.filterMap filled?).filterMap filled? = entries.filterMap filled? := by
  rw [List.filterMap_filterMap]
  congr 1
  funext entry
  cases h : filled? entry with
  | none => rfl
  | some filled => exact filled?_of_filled? h

/-! ### Texts that are not taken apart -/

/-- A trimmed text is the only piece of itself exactly when it has no separator: what is trimmed piece
by piece is `s` alone only where `s` is all that trimming the text leaves. -/
theorem map_trim_pieces_eq_singleton {separator : Char} {s t : String}
    (hs : separator ∉ s.toList) :
    (pieces separator (trim t)).map trim = [s] ↔ trim t = s := by
  constructor
  · intro h
    have hpieces : ∃ piece, (trim t).toList.splitOn separator = [piece] ∧
        trim (String.ofList piece) = s := by
      simpa [pieces, List.map_eq_singleton_iff] using h
    obtain ⟨piece, hpiece, hs⟩ := hpieces
    -- A single piece is all of the text.
    have hall : [separator].intercalate [piece] = (trim t).toList := by
      rw [← hpiece, List.intercalate_splitOn]
    rw [List.intercalate_singleton] at hall
    rw [← hs, hall, String.ofList_toList, trim_trim]
  · rintro rfl
    rw [pieces, List.splitOn_eq_singleton hs, List.map_singleton, List.map_singleton,
      String.ofList_toList, trim_trim]

/-! ### Marked texts -/

theorem dropPrefix?_eq_some_iff {mark cs rest : List Char} :
    dropPrefix? mark cs = some rest ↔ cs = mark ++ rest := by
  rw [dropPrefix?, Option.ite_none_right_eq_some, List.isPrefixOf_iff_prefix, Option.some.injEq]
  constructor
  · rintro ⟨⟨more, rfl⟩, rfl⟩
    rw [List.drop_left]
  · rintro rfl
    exact ⟨List.prefix_append mark rest, List.drop_left⟩

/-- A text begins with an exclamation mark exactly when it is one followed by a text. -/
theorem negated?_eq_some_iff {s rest : String} : negated? s = some rest ↔ s = "!" ++ rest := by
  have hmark : ("!" : String).toList = ['!'] := rfl
  rw [negated?, Option.map_eq_some_iff]
  constructor
  · rintro ⟨cs, hcs, rfl⟩
    rw [← String.toList_inj, dropPrefix?_eq_some_iff.mp hcs, String.toList_append, hmark,
      String.toList_ofList]
  · rintro rfl
    have hcs : dropPrefix? ['!'] ("!" ++ rest).toList = some rest.toList := by
      rw [dropPrefix?_eq_some_iff, String.toList_append, hmark]
    exact ⟨rest.toList, hcs, String.ofList_toList⟩

@[simp] theorem negated?_marked (s : String) : negated? ("!" ++ s) = some s :=
  negated?_eq_some_iff.mpr rfl

theorem negated?_eq_none_iff {s : String} : negated? s = none ↔ s.toList.head? ≠ some '!' := by
  rw [negated?, Option.map_eq_none_iff, dropPrefix?, ite_eq_right_iff]
  cases s.toList with
  | nil => simp
  | cons c rest => simp [@eq_comm _ '!' c]

/-- A trimmed text is trimmed with an exclamation mark in front, too. -/
theorem trim_marked {s : String} (h : trim s = s) : trim ("!" ++ s) = "!" ++ s := by
  obtain ⟨-, hend⟩ := trim_eq_self_iff.mp h
  have hchars : ("!" ++ s).toList = '!' :: s.toList := by simp
  rw [trim_eq_self_iff, hchars]
  constructor
  · rintro c ⟨⟩
    rfl
  · intro c hc
    rw [List.getLast?_cons] at hc
    cases hlast : s.toList.getLast? with
    | none =>
      rw [hlast] at hc
      obtain rfl := Option.some.inj hc
      rfl
    | some last =>
      rw [hlast] at hc
      exact hend c (hlast.trans hc)

end Depot.Text
