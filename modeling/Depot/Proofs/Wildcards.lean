import Depot.Text.Wildcard
import Mathlib.Data.List.Forall2
import Mathlib.Data.List.Infix
import Mathlib.Data.List.TakeDrop

/-! Texts that are instances of a host pattern. A text is spelled by items one after the other, each
standing for a run of its characters (`Spelled`). The rows of the matcher say which tails of the
pattern spell the text that was read (`Wildcard.Row`); each character in front of it gives the next
row, so in the end the matcher accepts exactly the instances of the pattern (`Wildcard.accepts_iff`).
-/

namespace Depot.Text

/-! ### Items that spell a text -/

section Spelled

variable {α β : Type} {Takes : α → List Char → Prop} {item : α} {items : List α} {text : List Char}

/-- The text is made of runs of characters, one for each item and in their order. -/
def Spelled (Takes : α → List Char → Prop) (items : List α) (text : List Char) : Prop :=
  ∃ runs, List.Forall₂ Takes items runs ∧ runs.flatten = text

@[simp] theorem spelled_nil : Spelled Takes [] text ↔ text = [] := by
  constructor
  · rintro ⟨runs, hruns, rfl⟩
    obtain rfl := List.forall₂_nil_left_iff.mp hruns
    rfl
  · rintro rfl
    exact ⟨[], .nil, rfl⟩

theorem spelled_cons : Spelled Takes (item :: items) text ↔
    ∃ run rest, text = run ++ rest ∧ Takes item run ∧ Spelled Takes items rest := by
  constructor
  · rintro ⟨runs, hruns, rfl⟩
    obtain ⟨run, more, hrun, hmore, rfl⟩ := List.forall₂_cons_left_iff.mp hruns
    exact ⟨run, more.flatten, List.flatten_cons, hrun, more, hmore, rfl⟩
  · rintro ⟨run, -, rfl, hrun, runs, hruns, rfl⟩
    exact ⟨run :: runs, .cons hrun hruns, List.flatten_cons⟩

theorem spelled_map {f : β → α} {items : List β} :
    Spelled Takes (items.map f) text ↔ Spelled (Takes ∘ f) items text := by
  simp only [Spelled, List.forall₂_map_left_iff, Function.comp_def]

/-- Items spell the same texts as long as they stand for the same runs of the text. -/
theorem spelled_congr {Takes' : α → List Char → Prop}
    (h : ∀ item run, run <:+: text → (Takes item run ↔ Takes' item run)) :
    Spelled Takes items text ↔ Spelled Takes' items text := by
  induction items generalizing text with
  | nil => rw [spelled_nil, spelled_nil]
  | cons item items ih =>
    rw [spelled_cons, spelled_cons]
    refine exists_congr fun run => exists_congr fun rest => and_congr_right ?_
    rintro rfl
    refine and_congr (h item run (List.prefix_append run rest).isInfix) (ih fun item run hrun => ?_)
    exact h item run (hrun.trans (List.suffix_append _ rest).isInfix)

/-- The items may be read off in another alphabet when every run is. -/
theorem spelled_map_text {Takes' : β → List Char → Prop} {f : α → β} {g : Char → Char}
    (h : ∀ item run, Takes' (f item) (run.map g) ↔ Takes item run) :
    Spelled Takes' (items.map f) (text.map g) ↔ Spelled Takes items text := by
  induction items generalizing text with
  | nil => rw [List.map_nil, spelled_nil, spelled_nil, List.map_eq_nil_iff]
  | cons item items ih =>
    rw [List.map_cons, spelled_cons, spelled_cons]
    constructor
    · rintro ⟨run, rest, htext, hrun, hrest⟩
      obtain ⟨run, rest, rfl, rfl, rfl⟩ := List.map_eq_append_iff.mp htext
      exact ⟨run, rest, rfl, (h item run).mp hrun, ih.mp hrest⟩
    · rintro ⟨run, rest, rfl, hrun, hrest⟩
      exact ⟨run.map g, rest.map g, List.map_append, (h item run).mpr hrun, ih.mpr hrest⟩

end Spelled

namespace Wildcard

/-! ### Rows -/

/-- A star stands for a run without a line feed, and every other character for itself. -/
def TakesExactly (x : Char) (run : List Char) : Prop :=
  if x = '*' then '\n' ∉ run else run = [x]

variable {pattern text : List Char} {row : List Bool} {c x : Char}

theorem spelled_star_nil :
    Spelled TakesExactly ('*' :: pattern) [] ↔ Spelled TakesExactly pattern [] := by
  simp [spelled_cons, TakesExactly]

/-- A run without a line feed at the start of a text is empty, or takes the first character and goes
on. -/
theorem exists_run_cons_iff {P : List Char → Prop} :
    (∃ run rest, c :: text = run ++ rest ∧ '\n' ∉ run ∧ P rest) ↔
      P (c :: text) ∨ c ≠ '\n' ∧ ∃ run rest, text = run ++ rest ∧ '\n' ∉ run ∧ P rest := by
  constructor
  · rintro ⟨run, rest, htext, hrun, hrest⟩
    rcases List.cons_eq_append_iff.mp htext with ⟨rfl, rfl⟩ | ⟨run, rfl, rfl⟩
    · exact .inl hrest
    · rw [List.mem_cons, not_or] at hrun
      exact .inr ⟨Ne.symm hrun.1, run, rest, rfl, hrun.2, hrest⟩
  · rintro (hrest | ⟨hc, run, rest, rfl, hrun, hrest⟩)
    · exact ⟨[], c :: text, rfl, List.not_mem_nil, hrest⟩
    · exact ⟨c :: run, rest, rfl, List.not_mem_cons_of_ne_of_not_mem (Ne.symm hc) hrun, hrest⟩

theorem spelled_star_cons : Spelled TakesExactly ('*' :: pattern) (c :: text) ↔
    Spelled TakesExactly pattern (c :: text) ∨
      c ≠ '\n' ∧ Spelled TakesExactly ('*' :: pattern) text := by
  simp only [spelled_cons, TakesExactly, if_true]
  exact exists_run_cons_iff

theorem not_spelled_letter_nil (hx : x ≠ '*') : ¬Spelled TakesExactly (x :: pattern) [] := by
  simp [spelled_cons, TakesExactly, hx]

theorem spelled_letter_cons (hx : x ≠ '*') : Spelled TakesExactly (x :: pattern) (c :: text) ↔
    x = c ∧ Spelled TakesExactly pattern text := by
  simp only [spelled_cons, TakesExactly, if_neg hx]
  constructor
  · rintro ⟨_, rest, htext, rfl, hrest⟩
    obtain ⟨rfl, rfl⟩ := List.cons.inj htext
    exact ⟨rfl, hrest⟩
  · rintro ⟨rfl, hrest⟩
    exact ⟨[x], text, rfl, rfl, hrest⟩

/-- The row says of each tail of the pattern, the whole first, whether it spells the text. -/
def Row (pattern text : List Char) (row : List Bool) : Prop :=
  List.Forall₂ (fun tail here => here = true ↔ Spelled TakesExactly tail text) pattern.tails row

theorem Row.headD_iff (h : Row pattern text row) :
    row.headD false = true ↔ Spelled TakesExactly pattern text := by
  cases pattern with
  | nil =>
    obtain ⟨here, _, hhere, -, rfl⟩ := List.forall₂_cons_left_iff.mp h
    exact hhere
  | cons x pattern =>
    rw [Row, List.tails_cons] at h
    obtain ⟨here, _, hhere, -, rfl⟩ := List.forall₂_cons_left_iff.mp h
    exact hhere

theorem Row.tail (h : Row (x :: pattern) text row) : Row pattern text row.tail := by
  rw [Row, List.tails_cons] at h
  obtain ⟨_, _, -, hrest, rfl⟩ := List.forall₂_cons_left_iff.mp h
  exact hrest

theorem row_emptyRow (pattern : List Char) : Row pattern [] (emptyRow pattern) := by
  induction pattern with
  | nil => exact .cons (by simp) .nil
  | cons x pattern ih =>
    rw [Row, List.tails_cons, emptyRow]
    refine .cons ?_ ih
    by_cases hx : x = '*'
    · subst hx
      rw [spelled_star_nil, ← ih.headD_iff]
      simp
    · simp [hx, not_spelled_letter_nil hx]

/-- The row of a text gives the row of the text with one more character in front. -/
theorem Row.nextRow (h : Row pattern text row) (c : Char) :
    Row pattern (c :: text) (Wildcard.nextRow c pattern row) := by
  induction pattern generalizing row with
  | nil => exact .cons (by simp) .nil
  | cons x pattern ih =>
    have hshorter := ih h.tail
    rw [Row, List.tails_cons, Wildcard.nextRow]
    refine .cons ?_ hshorter
    by_cases hx : x = '*'
    · subst hx
      rw [spelled_star_cons, ← hshorter.headD_iff, ← h.headD_iff]
      simp
    · rw [spelled_letter_cons hx, ← h.tail.headD_iff]
      simp [hx]

/-- The matcher accepts what the pattern spells, case taken as written. -/
theorem matchesExactly_iff :
    matchesExactly pattern text = true ↔ Spelled TakesExactly pattern text := by
  have hrow : Row pattern text (text.foldr (Wildcard.nextRow · pattern) (emptyRow pattern)) := by
    induction text with
    | nil => exact row_emptyRow pattern
    | cons c text ih => exact ih.nextRow c
  exact hrow.headD_iff

/-! ### Case -/

/-- A star stands for any run without a line feed, and every other character for itself in any
case. -/
def Takes (x : Char) (run : List Char) : Prop :=
  if x = '*' then '\n' ∉ run else ∃ c, run = [c] ∧ foldChar c = foldChar x

/-- All characters that have another case, and these cases, come after the signs and the digits. -/
theorem foldRanges_above : ∀ r ∈ foldRanges, 64 < r.first ∧ 64 < r.image := by
  decide +kernel

/-- The character of a number is that of zero where the number has none. -/
theorem toNat_ofNat (n : Nat) : (Char.ofNat n).toNat = n ∨ (Char.ofNat n).toNat = 0 := by
  by_cases h : n.isValidChar
  · rw [Char.ofNat, dif_pos h]
    exact .inl rfl
  · rw [Char.ofNat, dif_neg h]
    exact .inr rfl

/-- No sign is another case of anything. -/
theorem foldChar_eq_iff {sign : Char} (hlow : sign.toNat ≤ 64) (hpos : 0 < sign.toNat) :
    foldChar c = sign ↔ c = sign := by
  unfold foldChar
  split
  · rename_i r hr
    obtain ⟨hfirst, himage⟩ := foldRanges_above r (List.mem_of_find?_eq_some hr)
    have hholds : r.first ≤ c.toNat := by
      have := List.find?_some hr
      simp only [FoldRange.holds, Bool.and_eq_true, decide_eq_true_eq] at this
      exact this.1.1
    constructor
    · intro heq
      have hnat := congrArg Char.toNat heq
      rcases toNat_ofNat (r.apply c.toNat) with himg | hnone
      · rw [himg, FoldRange.apply] at hnat
        omega
      · omega
    · rintro rfl
      omega
  · exact Iff.rfl

theorem foldChar_eq_star_iff : foldChar c = '*' ↔ c = '*' :=
  foldChar_eq_iff (by decide) (by decide)

theorem foldChar_eq_lineFeed_iff : foldChar c = '\n' ↔ c = '\n' :=
  foldChar_eq_iff (by decide) (by decide)

theorem takesExactly_fold_iff (x : Char) (run : List Char) :
    TakesExactly (foldChar x) (run.map foldChar) ↔ Takes x run := by
  unfold TakesExactly Takes
  by_cases hx : x = '*'
  · rw [if_pos hx, if_pos (foldChar_eq_star_iff.mpr hx)]
    simp [foldChar_eq_lineFeed_iff]
  · rw [if_neg hx, if_neg (mt foldChar_eq_star_iff.mp hx)]
    simp [List.map_eq_singleton_iff]

/-- The matcher accepts exactly what the pattern spells in any case. -/
theorem accepts_iff_spelled {pattern text : String} :
    accepts pattern text = true ↔ Spelled Takes pattern.toList text.toList := by
  rw [accepts, matchesExactly_iff]
  exact spelled_map_text takesExactly_fold_iff

/-- A star may be replaced by any run of characters, and every other character only by itself or
another case of itself. -/
def Replaces (x : Char) (run : List Char) : Prop :=
  x = '*' ∨ ∃ c, run = [c] ∧ foldChar c = foldChar x

/-- The text is what becomes of the pattern when some text is put in the place of every star, case
aside. -/
def Instance (pattern text : String) : Prop :=
  Spelled Replaces pattern.toList text.toList

/-- Of texts without a line feed the matcher accepts exactly the instances of the pattern. -/
theorem accepts_iff {pattern text : String} (h : '\n' ∉ text.toList) :
    accepts pattern text = true ↔ Instance pattern text := by
  rw [accepts_iff_spelled]
  refine spelled_congr fun x run hrun => ?_
  have hplain : '\n' ∉ run := fun hmem => h (hrun.subset hmem)
  unfold Takes Replaces
  by_cases hx : x = '*'
  · simp [hx, hplain]
  · simp [hx]

end Wildcard

end Depot.Text
