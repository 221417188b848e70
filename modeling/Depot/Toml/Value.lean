/-! Values of a configuration document in TOML 1.0: texts, integers, floating-point numbers, truth
values, dates and times, arrays, and tables as lists of keys with their values in the order in which
they were defined. Numbers with a fraction are kept as they are written and dates and times in their
normal form, because nothing is computed with either. -/

namespace Depot.Toml

inductive Value where
  | text (content : String)
  | integer (n : Int)
  | float (literal : String)
  | boolean (b : Bool)
  | moment (normalForm : String)
  | array (items : List Value)
  | table (entries : List (String × Value))

namespace Value

instance : Inhabited Value := ⟨table []⟩

mutual

/-- The value with each text in it, at any depth, replaced. Keys and shape stay as they are. -/
def mapTexts (f : String → String) : Value → Value
  | text content => text (f content)
  | integer n => integer n
  | float literal => float literal
  | boolean b => boolean b
  | moment normalForm => moment normalForm
  | array items => array (mapItems f items)
  | table entries => table (mapEntries f entries)

def mapItems (f : String → String) : List Value → List Value
  | [] => []
  | v :: rest => v.mapTexts f :: mapItems f rest

def mapEntries (f : String → String) : List (String × Value) → List (String × Value)
  | [] => []
  | e :: rest => mapEntry f e :: mapEntries f rest

def mapEntry (f : String → String) : String × Value → String × Value
  | (key, v) => (key, v.mapTexts f)

end

mutual

/-- The value with each date or time in it, at any depth, replaced. -/
def mapMoments (f : String → Value) : Value → Value
  | text content => text content
  | integer n => integer n
  | float literal => float literal
  | boolean b => boolean b
  | moment normalForm => f normalForm
  | array items => array (mapMomentItems f items)
  | table entries => table (mapMomentEntries f entries)

def mapMomentItems (f : String → Value) : List Value → List Value
  | [] => []
  | v :: rest => v.mapMoments f :: mapMomentItems f rest

def mapMomentEntries (f : String → Value) : List (String × Value) → List (String × Value)
  | [] => []
  | e :: rest => mapMomentEntry f e :: mapMomentEntries f rest

def mapMomentEntry (f : String → Value) : String × Value → String × Value
  | (key, v) => (key, v.mapMoments f)

end

end Value

end Depot.Toml
