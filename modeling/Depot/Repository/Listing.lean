import Depot.Repository.Basic

/-! Lists of repositories without repeated identifiers. Collapsing a list keeps the first repository
of each identifier in its place; a later one of the same identifier adds only the repositories for
which it stands in, those that are not yet listed. Composing brings discovered and explicit
repositories together: the explicit ones take their place, or are put after or before them. -/

namespace Depot

namespace RemoteRepository

/-- The list with the repository at its end, unless its identifier is listed. -/
def listNew (rs : List RemoteRepository) (r : RemoteRepository) : List RemoteRepository :=
  if rs.any (·.id == r.id) then rs else rs ++ [r]

/-- The repository standing in for those too, as far as their identifiers are new to it. -/
def standInFor (r : RemoteRepository) (rs : List RemoteRepository) : RemoteRepository :=
  { r with mirrored := rs.foldl listNew r.mirrored }

end RemoteRepository

namespace Listing

open RemoteRepository

/-- The list with one more repository: at its end, or folded into the one that has its identifier.
-/
def absorb : List RemoteRepository → RemoteRepository → List RemoteRepository
  | [], r => [r]
  | s :: rest, r =>
    if s.id = r.id then s.standInFor r.mirrored :: rest else s :: absorb rest r

/-- Only a new identifier makes the list longer. -/
theorem map_id_absorb (rs : List RemoteRepository) (r : RemoteRepository) :
    (absorb rs r).map (·.id) =
      if r.id ∈ rs.map (·.id) then rs.map (·.id) else rs.map (·.id) ++ [r.id] := by
  induction rs with
  | nil => simp [absorb]
  | cons s rest ih =>
    by_cases h : s.id = r.id
    · simp [absorb, h, standInFor]
    · by_cases hr : r.id ∈ rest.map (·.id) <;> simp_all [absorb, Ne.symm h]

/-- The first repository of each identifier, standing in for all that its namesakes stand in for. -/
def collapse (rs : List RemoteRepository) : List RemoteRepository :=
  rs.foldl absorb []

/-- The list with the repository in place of the one that has its identifier, or at its end. -/
def supersede : List RemoteRepository → RemoteRepository → List RemoteRepository
  | [], r => [r]
  | s :: rest, r => if s.id = r.id then r :: rest else s :: supersede rest r

theorem map_id_supersede (rs : List RemoteRepository) (r : RemoteRepository) :
    (supersede rs r).map (·.id) =
      if r.id ∈ rs.map (·.id) then rs.map (·.id) else rs.map (·.id) ++ [r.id] := by
  induction rs with
  | nil => simp [supersede]
  | cons s rest ih =>
    by_cases h : s.id = r.id
    · simp [supersede, h]
    · by_cases hr : r.id ∈ rest.map (·.id) <;> simp_all [supersede, Ne.symm h]

/-- The last repository of each identifier in the place of the first one. -/
def latest (rs : List RemoteRepository) : List RemoteRepository :=
  rs.foldl supersede []

/-- How explicit repositories join the discovered ones. -/
inductive Mode where
  | replace
  | append
  | prepend
deriving DecidableEq, Repr

namespace Mode

instance : Inhabited Mode := ⟨append⟩

def text : Mode → String
  | replace => "replace"
  | append => "append"
  | prepend => "prepend"

def ofText? : String → Option Mode
  | "replace" => some replace
  | "append" => some append
  | "prepend" => some prepend
  | _ => none

def render : Mode → String
  | replace => "Replace"
  | append => "Append"
  | prepend => "Prepend"

end Mode

/-- The discovered and the explicit repositories as one list. -/
def compose (discovered explicit : List RemoteRepository) : Mode → List RemoteRepository
  | .replace => if explicit.isEmpty then collapse discovered else latest explicit
  | .append => collapse (discovered ++ explicit)
  | .prepend => collapse (explicit ++ discovered)

end Listing

end Depot
