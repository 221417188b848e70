import Depot.Path

/-! Artifacts and their coordinates. Coordinates name a group, an artifact and a version, and
between them optionally an extension and a classifier, with colons between; no part may be blank.
The written form always gives the extension. In a repository an artifact has a path of its own: the
group with its dots as slashes, then the artifact, the version and a file name made of all the rest.
-/

namespace Depot

structure Artifact where
  group : String
  name : String
  version : String
  classifier : String := ""
  extension : String := "jar"
deriving DecidableEq, Repr

/-- Coordinates that name no artifact. -/
structure InvalidCoordinates where
  coordinates : String
deriving DecidableEq, Repr

def InvalidCoordinates.message (e : InvalidCoordinates) : String :=
  "Invalid artifact coordinates: " ++ e.coordinates

namespace Artifact

/-- The artifact of the pieces of its coordinates. -/
def ofPieces? (pieces : List String) : Option Artifact :=
  if pieces.any Text.isBlank then none
  else match pieces with
    | [group, name, version] => some { group, name, version }
    | [group, name, extension, version] => some { group, name, version, extension }
    | [group, name, extension, classifier, version] =>
      some { group, name, version, classifier, extension }
    | _ => none

/-- The artifact that the coordinates name. -/
def parse (coordinates : String) : Except InvalidCoordinates Artifact :=
  match ofPieces? (Text.pieces ':' coordinates) with
  | some artifact => .ok artifact
  | none => .error ⟨coordinates⟩

/-- The coordinates in full: the extension always, the classifier when there is one. -/
def coordinates (a : Artifact) : String :=
  let classifier := if a.classifier = "" then "" else ":" ++ a.classifier
  a.group ++ ":" ++ a.name ++ ":" ++ a.extension ++ classifier ++ ":" ++ a.version

/-- Whether the version is one that may still change. -/
def isSnapshot (a : Artifact) : Bool :=
  "SNAPSHOT".toList.isSuffixOf a.version.toList

/-- What the file name has after artifact and version. -/
def fileSuffix (a : Artifact) : String :=
  (if a.classifier = "" then "" else "-" ++ a.classifier) ++ "." ++ a.extension

def fileName (a : Artifact) : String :=
  a.name ++ "-" ++ a.version ++ a.fileSuffix

/-- The directory of a group, one level per dot. -/
def groupPath (a : Artifact) : String :=
  a.group.map fun c => if c = '.' then '/' else c

/-- The path in a repository, with slashes between its parts. -/
def layoutPath (a : Artifact) : String :=
  a.groupPath ++ "/" ++ a.name ++ "/" ++ a.version ++ "/" ++ a.fileName

/-- The path in a repository as a path of the file system. -/
def relativePath (a : Artifact) : Path :=
  Path.ofNames (Text.pieces '/' a.layoutPath)

/-- The parts by which artifacts are ordered, the weightiest first. -/
def sortKey (a : Artifact) : List String :=
  [a.group, a.name, a.version, a.classifier, a.extension]

/-- The order by group, artifact, version, classifier and extension. -/
def le (a b : Artifact) : Bool :=
  !decide (b.sortKey < a.sortKey)

def sorted (artifacts : List Artifact) : List Artifact :=
  artifacts.mergeSort le

/-- How many artifacts equal the one before them. -/
def repeats : List Artifact → Nat
  | a :: b :: rest => (if a = b then 1 else 0) + repeats (b :: rest)
  | _ => 0

end Artifact

end Depot
