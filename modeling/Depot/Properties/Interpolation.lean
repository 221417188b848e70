import Depot.Properties.Basic

/-! References in texts. A reference is a dollar sign, an opening brace, a name without a closing
brace and a closing brace; it is replaced by the value of the name, or stays as it is when the map
has none. The text is read once from left to right, so that what a value brings in is never looked
at again, and an opening that is never closed is plain text. -/

namespace Depot.Properties

/-- The two characters that open a reference. -/
def opening : List Char := ['$', '\x7b']

/-- What stands for a reference to the name. -/
def referenceValue (p : Properties) (name : List Char) : List Char :=
  match p.get? (String.ofList name) with
  | some value => value.toList
  | none => opening ++ name ++ ['\x7d']

private theorem after_shorter {mark cs before after : List Char}
    (h : Text.cutAt? mark cs = some (before, after)) : after.length + mark.length ≤ cs.length := by
  have := congrArg List.length (Text.eq_append_of_cutAt? h)
  simp at this
  omega

/-- The characters with every reference replaced. -/
def interpolateChars (p : Properties) (cs : List Char) : List Char :=
  match _opened : Text.cutAt? opening cs with
  | none => cs
  | some (before, rest) =>
    match _closed : Text.cutAt? ['\x7d'] rest with
    | none => cs
    | some (name, after) => before ++ p.referenceValue name ++ p.interpolateChars after
termination_by cs.length
decreasing_by
  have h₁ := after_shorter _opened
  have h₂ := after_shorter _closed
  simp [opening] at h₁ h₂
  omega

/-- The text with every reference replaced. -/
def interpolate (p : Properties) (text : String) : String :=
  String.ofList (p.interpolateChars text.toList)

end Depot.Properties
