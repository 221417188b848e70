import Depot.Text.Blank

/-! Texts taken apart at separators. A text with `n` separators has `n + 1` pieces, empty ones
included. A list is the trimmed pieces between commas that are not blank; `cutAt?` splits at the
first place where a mark begins, and the texts around the mark are all that is left of it. -/

namespace Depot.Text

/-- The pieces of a text between the separators. -/
def pieces (separator : Char) (s : String) : List String :=
  (s.toList.splitOn separator).map String.ofList

/-- The pieces between the characters that `p` accepts. -/
def piecesBy (p : Char → Bool) (s : String) : List String :=
  (s.toList.splitOnP p).map String.ofList

/-- The trimmed pieces that are not blank. -/
def filledPieces (p : Char → Bool) (s : String) : List String :=
  (piecesBy p s).filterMap filled?

/-- The texts before and after the first place where the mark begins. -/
def cutAt? (mark : List Char) : List Char → Option (List Char × List Char)
  | [] => if mark.isEmpty then some ([], []) else none
  | c :: cs =>
    if mark.isPrefixOf (c :: cs) then some ([], (c :: cs).drop mark.length)
    else (cutAt? mark cs).map fun (before, after) => (c :: before, after)

theorem eq_append_of_cutAt? {mark cs before after : List Char}
    (h : cutAt? mark cs = some (before, after)) : cs = before ++ mark ++ after := by
  induction cs generalizing before with
  | nil =>
    cases mark with
    | nil => simp [cutAt?] at h; simp [h]
    | cons m ms => simp [cutAt?] at h
  | cons c cs ih =>
    unfold cutAt? at h
    split at h
    · rename_i hp
      obtain ⟨rest, hrest⟩ := List.isPrefixOf_iff_prefix.1 hp
      simp only [Option.some.injEq, Prod.mk.injEq] at h
      obtain ⟨rfl, rfl⟩ := h
      rw [← hrest]
      simp
    · cases hc : cutAt? mark cs with
      | none => simp [hc] at h
      | some found =>
        simp only [hc, Option.map_some, Option.some.injEq, Prod.mk.injEq] at h
        obtain ⟨rfl, rfl⟩ := h
        simp [@ih found.1 hc]

/-- What follows the mark, when the text begins with it. -/
def dropPrefix? (mark : List Char) (cs : List Char) : Option (List Char) :=
  if mark.isPrefixOf cs then some (cs.drop mark.length) else none

/-- The text after an exclamation mark at its start. -/
def negated? (s : String) : Option String :=
  (dropPrefix? ['!'] s.toList).map String.ofList

/-- What follows the last separator; all of the text when there is none. -/
def afterLast (separator : Char) (cs : List Char) : List Char :=
  (cs.reverse.takeWhile (· != separator)).reverse

/-- What precedes the first separator; all of the text when there is none. -/
def beforeFirst (separator : Char) (cs : List Char) : List Char :=
  cs.takeWhile (· != separator)

end Depot.Text
