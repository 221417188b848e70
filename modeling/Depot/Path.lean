import Depot.Text.Pieces
import Depot.Text.Quoted

/-! Paths as they are written. A path is kept character by character, because answers show it as it
was put together; only a comparison looks at its components, for which repeated and final slashes
and inner dots do not count. Joining puts one slash between the parts unless there is one, and an
absolute path joined to anything is that path. -/

namespace Depot

structure Path where
  text : String
deriving DecidableEq, Repr

namespace Path

instance : Inhabited Path := ⟨⟨""⟩⟩

def isAbsolute (p : Path) : Bool :=
  p.text.toList.head? == some '/'

def endsInSlash (p : Path) : Bool :=
  p.text.toList.getLast? == some '/'

/-- The second path seen from the first one. -/
def join (base path : Path) : Path :=
  if path.isAbsolute then path
  else if base.text == "" || base.endsInSlash then ⟨base.text ++ path.text⟩
  else ⟨base.text ++ "/" ++ path.text⟩

def child (base : Path) (name : String) : Path :=
  base.join ⟨name⟩

/-- The path that goes down the names one after another. -/
def ofNames (names : List String) : Path :=
  names.foldl child ⟨""⟩

/-- What a path consists of, for comparison. -/
inductive Component where
  | root
  | current
  | parent
  | name (text : String)
deriving DecidableEq, Repr

def inner : String → Option Component
  | "" => none
  | "." => none
  | ".." => some .parent
  | text => some (.name text)

/-- The components of a path; a dot counts in first place only. -/
def components (p : Path) : List Component :=
  let parts := Text.pieces '/' p.text
  let start : List Component :=
    if p.isAbsolute then [.root] else if parts.head? == some "." then [.current] else []
  start ++ parts.filterMap inner

/-- Equal component by component. -/
def sameAs (p q : Path) : Bool :=
  p.components == q.components

def isFiller (part : List Char) : Bool :=
  part == [] || part == ['.']

def dropFillers (parts : List (List Char)) : List (List Char) :=
  (parts.reverse.dropWhile isFiller).reverse

/-- What precedes the names of a path: a slash, a dot, or nothing. -/
def start (p : Path) : List Char :=
  match p.text.toList with
  | '/' :: _ => ['/']
  | ['.'] => ['.']
  | '.' :: '/' :: _ => ['.']
  | _ => []

/-- The path without its last component; none for the root and for the empty path. -/
def parent? (p : Path) : Option Path :=
  let parts := (p.text.toList.drop p.start.length).splitOn '/'
  match (dropFillers parts).reverse with
  | [] => if p.start == ['.'] then some ⟨""⟩ else none
  | _ :: above =>
    some ⟨String.ofList (p.start ++ ['/'].intercalate (dropFillers above.reverse))⟩

def upwards : Nat → Path → List Path
  | 0, _ => []
  | n + 1, p =>
    match p.parent? with
    | none => []
    | some above => p :: upwards n above

/-- The path and those above it, nearest first, down to where nothing has to be made: the root and
the empty path are left out. -/
def withAncestors (p : Path) : List Path :=
  upwards (p.text.length + 1) p

/-- The path as diagnostics show it: quoted as its text is. -/
def render (p : Path) : String :=
  Text.quoted p.text

end Path

end Depot
