import Depot.Proofs.Trimming
import Depot.Repository.Policy
import Mathlib.Data.Nat.Digits.Defs

/-! Update policies written and read. A numeral stands for the sum of its digits at their places
(`Text.Numeral`), with any number of zeros in front, and one is written for every number
(`Text.numeral_toDigits`). A policy is read from the texts that spell it and from no others
(`UpdatePolicy.parse_eq_ok_iff`); the text that is written for a policy is one of them, so every policy
comes back from its text. -/

namespace Depot

namespace Text

/-! ### Numerals -/

/-- One or more ASCII digits, the most significant first, and the number for which they stand. -/
structure Numeral (digits : List Char) (n : Nat) : Prop where
  filled : digits ≠ []
  ascii : ∀ c ∈ digits, '0' ≤ c ∧ c ≤ '9'
  value : Nat.ofDigits 10 (digits.reverse.map digitValue) = n

variable {limit n : Nat} {c : Char} {cs : List Char}

theorem isDigit_iff : isDigit c = true ↔ '0' ≤ c ∧ c ≤ '9' := by
  simp [isDigit]

theorem not_isDigit_plus : isDigit '+' = false := rfl

/-- Reading from the first digit on gives the sum of the digits at their places. -/
theorem decimalValue_eq_ofDigits (cs : List Char) :
    decimalValue cs = Nat.ofDigits 10 (cs.reverse.map digitValue) := by
  induction cs using List.reverseRecOn with
  | nil => rfl
  | append_singleton cs c ih =>
    have hstep : decimalValue (cs ++ [c]) = 10 * decimalValue cs + digitValue c := by
      simp [decimalValue]
    rw [hstep, ih, List.reverse_append, List.reverse_singleton, List.singleton_append, List.map_cons,
      Nat.ofDigits_cons, Nat.add_comm]

theorem decimalBelow?_eq_some_iff :
    decimalBelow? limit cs = some n ↔ Numeral cs n ∧ n < limit := by
  rw [decimalBelow?, Option.ite_none_right_eq_some, Option.some.injEq, decimalValue_eq_ofDigits,
    List.all_eq_true]
  simp only [isDigit_iff]
  constructor
  · rintro ⟨⟨hfilled, hascii, hsmall⟩, rfl⟩
    exact ⟨⟨hfilled, hascii, rfl⟩, hsmall⟩
  · rintro ⟨⟨hfilled, hascii, rfl⟩, hsmall⟩
    exact ⟨⟨hfilled, hascii, hsmall⟩, rfl⟩

/-- A numeral does not begin with a plus sign, so one that does is taken off what is read. -/
theorem signedDecimalBelow?_eq_some_iff : signedDecimalBelow? limit cs = some n ↔
    ∃ digits, (cs = digits ∨ cs = '+' :: digits) ∧ Numeral digits n ∧ n < limit := by
  rw [signedDecimalBelow?.eq_def]
  split
  · rename_i rest
    rw [decimalBelow?_eq_some_iff]
    constructor
    · exact fun h => ⟨rest, .inr rfl, h⟩
    · rintro ⟨digits, rfl | hdigits, hnumeral, hsmall⟩
      · have hplus := isDigit_iff.mpr (hnumeral.ascii '+' List.mem_cons_self)
        rw [not_isDigit_plus] at hplus
        cases hplus
      · obtain rfl := (List.cons.inj hdigits).2
        exact ⟨hnumeral, hsmall⟩
  · rename_i hunsigned
    rw [decimalBelow?_eq_some_iff]
    constructor
    · exact fun h => ⟨cs, .inl rfl, h⟩
    · rintro ⟨digits, rfl | rfl, h⟩
      · exact h
      · exact absurd rfl (hunsigned digits)

theorem numeral_toDigits (n : Nat) : Numeral (Nat.toDigits 10 n) n where
  filled := Nat.toDigits_ne_nil
  ascii := fun c hc => by
    have hdigit := Nat.isDigit_of_mem_toDigits (by decide) (by decide) hc
    simpa [Char.isDigit, Char.le_def] using hdigit
  value := by
    rw [← decimalValue_eq_ofDigits]
    exact Nat.ofDigitChars_ten_toDigits

end Text

namespace UpdatePolicy

variable {s : String} {p : UpdatePolicy} {m : UInt32}

/-! ### Texts of policies -/

/-- The text is the word of the policy, or `interval:` and a numeral for its minutes, perhaps with a
plus sign. -/
inductive SpelledBy : UpdatePolicy → String → Prop where
  | always : SpelledBy always "always"
  | daily : SpelledBy daily "daily"
  | never : SpelledBy never "never"
  | interval {minutes : UInt32} {sign digits : String} (hsign : sign = "" ∨ sign = "+")
      (hdigits : Text.Numeral digits.toList minutes.toNat) :
      SpelledBy (interval minutes) ("interval:" ++ sign ++ digits)

theorem minutes?_eq_some_iff {cs : List Char} : minutes? cs = some m ↔
    ∃ digits, (cs = digits ∨ cs = '+' :: digits) ∧ Text.Numeral digits m.toNat := by
  rw [minutes?, Option.map_eq_some_iff]
  constructor
  · rintro ⟨n, hn, rfl⟩
    obtain ⟨digits, hcs, hnumeral, hsmall⟩ := Text.signedDecimalBelow?_eq_some_iff.mp hn
    rw [← UInt32.toNat_ofNat_of_lt hsmall] at hnumeral
    exact ⟨digits, hcs, hnumeral⟩
  · rintro ⟨digits, hcs, hnumeral⟩
    exact ⟨m.toNat, Text.signedDecimalBelow?_eq_some_iff.mpr ⟨digits, hcs, hnumeral, m.toNat_lt⟩,
      UInt32.ofNat_toNat⟩

/-- What follows the mark of an interval spells its minutes. -/
theorem spelledBy_interval_iff : (interval m).SpelledBy s ↔
    ∃ cs, s.toList = "interval:".toList ++ cs ∧ minutes? cs = some m := by
  simp only [minutes?_eq_some_iff]
  constructor
  · intro h
    cases h with
    | @interval _ sign digits hsign hdigits =>
      refine ⟨sign.toList ++ digits.toList, by simp, digits.toList, ?_, hdigits⟩
      rcases hsign with rfl | rfl
      · exact .inl rfl
      · exact .inr rfl
  · rintro ⟨cs, hs, digits, hcs, hdigits⟩
    rw [← String.toList_ofList (l := digits)] at hdigits
    rcases hcs with rfl | rfl
    · have htext : s = "interval:" ++ "" ++ String.ofList cs := by
        rw [← String.toList_inj, hs]
        simp
      exact htext ▸ .interval (.inl rfl) hdigits
    · have htext : s = "interval:" ++ "+" ++ String.ofList digits := by
        rw [← String.toList_inj, hs]
        simp
      exact htext ▸ .interval (.inr rfl) hdigits

theorem ofText?_eq_some_iff : ofText? s = some p ↔ p.SpelledBy s := by
  rw [ofText?]
  constructor
  · intro h
    split_ifs at h with halways hdaily hnever
    · obtain rfl := Option.some.inj h
      exact halways ▸ .always
    · obtain rfl := Option.some.inj h
      exact hdaily ▸ .daily
    · obtain rfl := Option.some.inj h
      exact hnever ▸ .never
    · obtain ⟨m, hm, rfl⟩ := Option.map_eq_some_iff.mp h
      obtain ⟨cs, hcs, hminutes⟩ := Option.bind_eq_some_iff.mp hm
      exact spelledBy_interval_iff.mpr ⟨cs, Text.dropPrefix?_eq_some_iff.mp hcs, hminutes⟩
  · intro h
    cases p with
    | always =>
      cases h
      rfl
    | daily =>
      cases h
      rfl
    | never =>
      cases h
      rfl
    | interval m =>
      obtain ⟨cs, hs, hminutes⟩ := spelledBy_interval_iff.mp h
      -- No word begins as an interval does.
      have hword : ∀ word : String, word.toList.head? ≠ some 'i' → s ≠ word := by
        rintro word hhead rfl
        exact hhead (by rw [hs]; rfl)
      rw [if_neg (hword "always" (by decide)), if_neg (hword "daily" (by decide)),
        if_neg (hword "never" (by decide)), Text.dropPrefix?_eq_some_iff.mpr hs, Option.bind_some,
        hminutes, Option.map_some]

/-- A text that spells a policy has no white space at its ends. -/
theorem SpelledBy.trim_eq (h : p.SpelledBy s) : Text.trim s = s := by
  cases h with
  | always => decide
  | daily => decide
  | never => decide
  | @interval m sign digits hsign hdigits =>
    rw [Text.trim_eq_self_iff]
    constructor
    · intro c hc
      obtain rfl : c = 'i' := by simpa [eq_comm] using hc
      rfl
    · intro c hc
      rw [String.toList_append, List.getLast?_append_of_ne_nil _ hdigits.filled] at hc
      have hdigit := Text.isDigit_iff.mpr (hdigits.ascii c (List.mem_of_mem_getLast? hc))
      refine Bool.eq_false_iff.mpr fun hspace => ?_
      rw [Text.isDigit_of_isSpace hspace] at hdigit
      cases hdigit

theorem spelledBy_text (p : UpdatePolicy) : p.SpelledBy p.text := by
  cases p with
  | always => exact .always
  | daily => exact .daily
  | never => exact .never
  | interval m =>
    have hdigits : Text.Numeral (toString m.toNat).toList m.toNat := by
      rw [Nat.toString_eq_repr, Nat.toList_repr]
      exact Text.numeral_toDigits m.toNat
    exact .interval (.inl rfl) hdigits

/-! ### Reading -/

theorem parse_eq_ok_iff : parse s = .ok p ↔ p.SpelledBy (Text.trim s) := by
  rw [← ofText?_eq_some_iff, parse]
  cases ofText? (Text.trim s) <;> simp

/-- A text that spells no policy is refused as it was given. -/
theorem parse_eq_error_iff {e : InvalidPolicy} :
    parse s = .error e ↔ e = ⟨s⟩ ∧ ∀ p : UpdatePolicy, ¬p.SpelledBy (Text.trim s) := by
  simp only [← ofText?_eq_some_iff, parse]
  cases ofText? (Text.trim s) <;> simp [eq_comm]

theorem parse_text (p : UpdatePolicy) : parse p.text = .ok p := by
  rw [parse_eq_ok_iff, (spelledBy_text p).trim_eq]
  exact spelledBy_text p

theorem exists_spelledBy_iff : (∃ p : UpdatePolicy, p.SpelledBy s) ↔
    s = "always" ∨ s = "daily" ∨ s = "never" ∨
      ∃ sign digits n, s = "interval:" ++ sign ++ digits ∧ (sign = "" ∨ sign = "+") ∧
        Text.Numeral digits.toList n ∧ n < 2 ^ 32 := by
  constructor
  · rintro ⟨p, h⟩
    cases h with
    | always => exact .inl rfl
    | daily => exact .inr (.inl rfl)
    | never => exact .inr (.inr (.inl rfl))
    | @interval m sign digits hsign hdigits =>
      exact .inr (.inr (.inr ⟨sign, digits, m.toNat, rfl, hsign, hdigits, m.toNat_lt⟩))
  · rintro (rfl | rfl | rfl | ⟨sign, digits, n, rfl, hsign, hdigits, hsmall⟩)
    · exact ⟨always, .always⟩
    · exact ⟨daily, .daily⟩
    · exact ⟨never, .never⟩
    · rw [← UInt32.toNat_ofNat_of_lt hsmall] at hdigits
      exact ⟨interval (UInt32.ofNat n), .interval hsign hdigits⟩

/-- Every policy comes back from its text. A text is read when without the white space around it it is
a word or an interval, with a plus sign or not and zeros in front or not, of less than 2 to the 32nd
minutes; what is read is the policy that it spells, which comes back from its own text, and any other
text is refused. -/
theorem text_read_back :
    (∀ p : UpdatePolicy, parse p.text = .ok p) ∧
    (∀ s, (∃ p, parse s = .ok p) ↔
      Text.trim s = "always" ∨ Text.trim s = "daily" ∨ Text.trim s = "never" ∨
        ∃ sign digits n, Text.trim s = "interval:" ++ sign ++ digits ∧
          (sign = "" ∨ sign = "+") ∧ Text.Numeral digits.toList n ∧ n < 2 ^ 32) ∧
    (∀ s p, parse s = .ok p ↔ p.SpelledBy (Text.trim s)) ∧
    (∀ s p, parse s = .ok p → parse p.text = .ok p) ∧
    ∀ s e, parse s = .error e ↔ e = ⟨s⟩ ∧ ∀ p : UpdatePolicy, ¬p.SpelledBy (Text.trim s) := by
  refine ⟨parse_text, fun s => ?_, fun s p => parse_eq_ok_iff, fun s p _ => parse_text p,
    fun s e => parse_eq_error_iff⟩
  simp only [parse_eq_ok_iff]
  exact exists_spelledBy_iff

/-- Signs, zeros and white space are not kept, and one minute too many is refused. -/
theorem text_read_back_padded :
    parse " interval:+0045\n" = .ok (interval 45) ∧ (interval 45).text = "interval:45" ∧
      parse (interval 45).text = .ok (interval 45) ∧
      parse "interval:4294967296" = .error ⟨"interval:4294967296"⟩ := by
  obtain ⟨-, -, hread, hback, -⟩ := text_read_back
  have hpadded : parse " interval:+0045\n" = .ok (interval 45) := by
    have htrim : Text.trim " interval:+0045\n" = "interval:" ++ "+" ++ "0045" := by decide +kernel
    have hascii : "0045".toList.all Text.isDigit = true := by decide
    have hdigits : Text.Numeral "0045".toList (45 : UInt32).toNat :=
      ⟨by decide, fun c hc => Text.isDigit_iff.mp (List.all_eq_true.mp hascii c hc), by decide⟩
    exact (hread _ _).mpr (htrim ▸ .interval (.inr rfl) hdigits)
  exact ⟨hpadded, by decide, hback _ _ hpadded, by decide +kernel⟩

end UpdatePolicy

end Depot
