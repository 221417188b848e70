import Depot.Proofs.Wildcards

/-! Host patterns as regular expressions. An engine quotes the characters of a pattern that mean
something in an expression, each quoted star then becomes the expression for any run, and the whole is
anchored at both ends. A quoted backslash never joins the star behind it, so what is read back is the
pattern again, character by character (`read?_starred_quoted`), and a matcher that an engine makes of
it accepts what the pattern itself accepts (`Compiler.Lawful.compile?_expression`). -/

namespace Depot.Text.Expression

variable {pattern rest text : List Char} {c : Char}

/-! ### Quoting -/

/-- The characters that can mean something other than themselves. -/
def metaCharacters : List Char :=
  ['\\', '.', '+', '*', '?', '(', ')', '|', '[', ']', '{', '}', '^', '$', '#', '&', '-', '~']

def quoteChar (c : Char) : List Char :=
  if c ∈ metaCharacters then ['\\', c] else [c]

/-- The expression for the text itself. -/
def quoted (text : List Char) : List Char :=
  text.flatMap quoteChar

/-- The expression with a dot and a star in place of each backslash and star, found from the left. -/
def starred : List Char → List Char
  | '\\' :: '*' :: rest => '.' :: '*' :: starred rest
  | c :: rest => c :: starred rest
  | [] => []

theorem starred_quoted_star (rest : List Char) :
    starred ('\\' :: '*' :: rest) = '.' :: '*' :: starred rest := by
  rw [starred]

theorem starred_cons (h : c ≠ '\\' ∨ rest.head? ≠ some '*') :
    starred (c :: rest) = c :: starred rest := by
  rw [starred]
  rintro more rfl rfl
  simp at h

/-- A star in what is quoted always follows its backslash. -/
theorem head?_quoted_ne_star (text : List Char) : (quoted text).head? ≠ some '*' := by
  cases text with
  | nil => simp [quoted]
  | cons c text =>
    rw [quoted, List.flatMap_cons, quoteChar]
    split
    · simp
    · rename_i hplain
      rw [List.singleton_append, List.head?_cons, Ne, Option.some.injEq]
      rintro rfl
      exact hplain (by decide)

/-! ### Reading -/

/-- What stands in an expression: a character for itself in any case, or a star after a dot. -/
inductive Item where
  | letter (c : Char)
  | run
deriving DecidableEq, Repr

/-- A letter takes itself in any case, and a run takes any characters but line feeds. -/
def Item.Takes : Item → List Char → Prop
  | .letter c, taken => ∃ d, taken = [d] ∧ foldChar d = foldChar c
  | .run, taken => '\n' ∉ taken

/-- The items of an expression in which no character has a meaning but the backslash in front of
another one, and the dot in front of a star. -/
def read? : List Char → Option (List Item)
  | [] => some []
  | '.' :: '*' :: rest => (read? rest).map (.run :: ·)
  | '\\' :: c :: rest => if c ∈ metaCharacters then (read? rest).map (.letter c :: ·) else none
  | c :: rest => if c ∈ metaCharacters then none else (read? rest).map (.letter c :: ·)

theorem read?_escaped (h : c ∈ metaCharacters) :
    read? ('\\' :: c :: rest) = (read? rest).map (.letter c :: ·) := by
  rw [read?, if_pos h]

theorem read?_plain (h : c ∉ metaCharacters) :
    read? (c :: rest) = (read? rest).map (.letter c :: ·) := by
  rw [read?, if_neg h]
  · rintro more rfl
    exact absurd (by decide) h
  · rintro d more rfl
    exact absurd (by decide) h

/-- The item that a character of a pattern becomes. -/
def itemOf (c : Char) : Item :=
  if c = '*' then .run else .letter c

/-- The expression of a pattern has an item for each of its characters. -/
theorem read?_starred_quoted (pattern : List Char) :
    read? (starred (quoted pattern)) = some (pattern.map itemOf) := by
  induction pattern with
  | nil => rfl
  | cons c pattern ih =>
    have hquoted : quoted (c :: pattern) = quoteChar c ++ quoted pattern := List.flatMap_cons
    have hhead := head?_quoted_ne_star pattern
    rw [hquoted, quoteChar, List.map_cons, itemOf]
    by_cases hstar : c = '*'
    · subst hstar
      rw [if_pos (by decide), List.cons_append, List.singleton_append, starred_quoted_star, read?, ih]
      rfl
    by_cases hmeta : c ∈ metaCharacters
    · -- The backslash in front does not reach the star of the pattern that may follow `c`.
      have hnext : starred (c :: quoted pattern) = c :: starred (quoted pattern) :=
        starred_cons (.inr hhead)
      rw [if_pos hmeta, List.cons_append, List.singleton_append,
        starred_cons (.inr (by simpa using hstar)), hnext, read?_escaped hmeta, ih, if_neg hstar]
      rfl
    · rw [if_neg hmeta, List.singleton_append, starred_cons (.inr hhead), read?_plain hmeta, ih,
        if_neg hstar]
      rfl

theorem takes_itemOf (c : Char) (taken : List Char) :
    (itemOf c).Takes taken ↔ Wildcard.Takes c taken := by
  unfold itemOf Wildcard.Takes
  split <;> rfl

/-! ### Engines -/

/-- What is used of an engine for regular expressions: it quotes texts, and it makes matchers that do
not regard case of the expressions that are not too large for it. -/
structure Compiler where
  quote : String → String
  compile? : String → Option (String → Bool)

namespace Compiler

/-- The expression for a pattern. -/
def expression (x : Compiler) (pattern : String) : String :=
  "^" ++ String.ofList (starred (x.quote pattern).toList) ++ "$"

/-- Quoting puts a backslash before every character that can have a meaning, and an anchored
expression that can be read accepts the texts that its items spell. -/
structure Lawful (x : Compiler) : Prop where
  toList_quote : ∀ s, (x.quote s).toList = quoted s.toList
  accepts_iff : ∀ {body : List Char} {items : List Item} {accepts : String → Bool},
    read? body = some items → x.compile? ("^" ++ String.ofList body ++ "$") = some accepts →
      ∀ host, accepts host = true ↔ Spelled Item.Takes items host.toList

variable {x : Compiler}

/-- The matcher that is made of a pattern accepts what the pattern accepts. -/
theorem Lawful.compile?_expression (h : x.Lawful) {pattern : String}
    (hsize : (x.compile? (x.expression pattern)).isSome) :
    x.compile? (x.expression pattern) = some (Wildcard.accepts pattern) := by
  obtain ⟨accepts, haccepts⟩ := Option.isSome_iff_exists.mp hsize
  have hread : read? (starred (x.quote pattern).toList) = some (pattern.toList.map itemOf) := by
    rw [h.toList_quote, read?_starred_quoted]
  rw [haccepts, Option.some.injEq]
  funext host
  rw [Bool.eq_iff_iff, h.accepts_iff hread haccepts host, spelled_map, Wildcard.accepts_iff_spelled]
  exact spelled_congr fun c taken _ => takes_itemOf c taken

end Compiler

/-! ### A small engine -/

/-- What can be left of a text when a run without a line feed is taken from its start. -/
def afterRuns : List Char → List (List Char)
  | [] => [[]]
  | c :: text => (c :: text) :: if c = '\n' then [] else afterRuns text

theorem exists_mem_afterRuns_iff {P : List Char → Prop} : (∃ left ∈ afterRuns text, P left) ↔
    ∃ run rest, text = run ++ rest ∧ '\n' ∉ run ∧ P rest := by
  induction text with
  | nil => simp [afterRuns]
  | cons c text ih =>
    rw [Wildcard.exists_run_cons_iff, ← ih, afterRuns]
    by_cases hc : c = '\n' <;> simp [hc]

/-- Whether the items spell the text, every run tried. -/
def spells : List Item → List Char → Bool
  | [], text => text.isEmpty
  | .letter _ :: _, [] => false
  | .letter c :: items, d :: text => foldChar d == foldChar c && spells items text
  | .run :: items, text => (afterRuns text).any (spells items)

theorem spells_iff {items : List Item} :
    spells items text = true ↔ Spelled Item.Takes items text := by
  induction items generalizing text with
  | nil => rw [spells, List.isEmpty_iff, spelled_nil]
  | cons item items ih =>
    rw [spelled_cons]
    cases item with
    | letter c => cases text <;> simp [spells, Item.Takes, ih]
    | run =>
      simp only [spells, List.any_eq_true, ih, Item.Takes]
      exact exists_mem_afterRuns_iff

/-- What stands between the anchors. -/
def body? : List Char → Option (List Char)
  | '^' :: rest => if rest.getLast? = some '$' then some rest.dropLast else none
  | _ => none

/-- An engine that holds every expression it can read, and tries every run. -/
def Compiler.plain : Compiler where
  quote s := String.ofList (quoted s.toList)
  compile? s := ((body? s.toList).bind read?).map fun items host => spells items host.toList

namespace Compiler

theorem plain_compile? {body : List Char} {items : List Item} (h : read? body = some items) :
    plain.compile? ("^" ++ String.ofList body ++ "$") =
      some fun host => spells items host.toList := by
  have htext : ("^" ++ String.ofList body ++ "$").toList = '^' :: (body ++ ['$']) := by simp
  simp [plain, htext, body?, h]

theorem plain_lawful : plain.Lawful where
  toList_quote s := String.toList_ofList
  accepts_iff := by
    intro body items accepts hread haccepts host
    rw [plain_compile? hread, Option.some.injEq] at haccepts
    rw [← haccepts]
    exact spells_iff

theorem plain_compile?_expression_isSome (pattern : String) :
    (plain.compile? (plain.expression pattern)).isSome := by
  rw [expression, plain_lawful.toList_quote, plain_compile? (read?_starred_quoted pattern.toList)]
  rfl

end Compiler

end Depot.Text.Expression
