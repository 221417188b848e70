/-! White space, and what a text is without it. A character is white space when it has the
White_Space property, so the test covers the control characters from tab to carriage return, the
no-break spaces and the spaces of other scripts, but no zero-width character. Trimming removes white
space at both ends and nothing between; a text is blank when nothing is left of it. -/

namespace Depot.Text

/-- The characters with the White_Space property. -/
def isSpace (c : Char) : Bool :=
  let n := c.toNat
  (0x09 ≤ n && n ≤ 0x0D) || n == 0x20 || n == 0x85 || n == 0xA0 || n == 0x1680 ||
    (0x2000 ≤ n && n ≤ 0x200A) || n == 0x2028 || n == 0x2029 || n == 0x202F || n == 0x205F ||
    n == 0x3000

/-- The characters without the white space at both ends. -/
def trimChars (cs : List Char) : List Char :=
  ((cs.dropWhile isSpace).reverse.dropWhile isSpace).reverse

/-- The text without the white space at both ends. -/
def trim (s : String) : String :=
  String.ofList (trimChars s.toList)

/-- Nothing but white space, or nothing at all. -/
def isBlank (s : String) : Bool :=
  s.toList.all isSpace

theorem trimChars_eq_nil_iff {cs : List Char} : trimChars cs = [] ↔ ∀ c ∈ cs, isSpace c = true := by
  have dropped (l : List Char) : l.dropWhile isSpace = [] ↔ ∀ c ∈ l, isSpace c = true := by
    induction l with
    | nil => simp
    | cons c l ih => by_cases h : isSpace c = true <;> simp [h, ih]
  have head_kept (l : List Char) (c : Char) (hc : c ∈ l) (hs : isSpace c = false) :
      c ∈ l.dropWhile isSpace := by
    induction l with
    | nil => simp at hc
    | cons d l ih =>
      by_cases h : isSpace d = true
      · have : c ≠ d := fun e => by simp [e, h] at hs
        simpa [List.dropWhile_cons, h] using ih (by simpa [this] using hc)
      · simpa [List.dropWhile_cons, h] using hc
  constructor
  · intro h c hc
    cases hs : isSpace c with
    | true => rfl
    | false =>
      have h₁ := head_kept cs c hc hs
      have h₂ := head_kept (cs.dropWhile isSpace).reverse c (by simpa using h₁) hs
      simp only [trimChars, List.reverse_eq_nil_iff] at h
      simp [h] at h₂
  · intro h
    simp [trimChars, (dropped cs).2 h]

theorem trim_eq_empty_iff {s : String} : trim s = "" ↔ isBlank s = true := by
  have : trim s = "" ↔ trimChars s.toList = [] := by
    constructor
    · intro h
      have := congrArg String.toList h
      simpa [trim] using this
    · intro h
      simp [trim, h]
  simp [this, trimChars_eq_nil_iff, isBlank]

/-- What is left of a text that is not blank; none of a blank one. -/
def filled? (s : String) : Option String :=
  if isBlank s then none else some (trim s)

end Depot.Text
