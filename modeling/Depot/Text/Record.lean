import Depot.Text.Quoted

/-! The shapes in which diagnostics show composite values: a record as its name and its fields
between braces, with two dots in last place when fields are left out, a list between brackets, a map
between braces, and an optional value as `None` or `Some` of it. Everything stands on one line. -/

namespace Depot.Text

def joined (parts : List String) : String :=
  String.intercalate ", " parts

def fieldTexts (fields : List (String × String)) : List String :=
  fields.map fun (name, value) => name ++ ": " ++ value

/-- A record with all its fields. -/
def record (name : String) (fields : List (String × String)) : String :=
  name ++ " \x7b " ++ joined (fieldTexts fields) ++ " \x7d"

/-- A record of which some fields are left out. -/
def openRecord (name : String) (fields : List (String × String)) : String :=
  name ++ " \x7b " ++ joined (fieldTexts fields ++ [".."]) ++ " \x7d"

/-- A value under the name of its case. -/
def wrapped (name value : String) : String :=
  name ++ "(" ++ value ++ ")"

def listed (values : List String) : String :=
  "[" ++ joined values ++ "]"

def mapped (entries : List (String × String)) : String :=
  "\x7b" ++ joined (fieldTexts entries) ++ "\x7d"

def optional : Option String → String
  | none => "None"
  | some value => wrapped "Some" value

def truth (b : Bool) : String :=
  if b then "true" else "false"

end Depot.Text
