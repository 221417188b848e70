import Depot.Artifact
import Depot.FileSystem

/-! A local repository: a directory in which artifacts are kept at their layout paths. An artifact
is found when its path is a file, and added by copying a file there after making the directories
above it. Asked whether it is available, a repository answers whether its directory exists, unless
it is one that reports itself away; that answer stops nobody from looking into it. -/

namespace Depot

/-- Why a local repository cannot be used. -/
inductive LocalRepositoryError where
  | emptyPath
  | file (path : Path) (cause : FileError)
deriving DecidableEq, Repr

def LocalRepositoryError.message : LocalRepositoryError → String
  | emptyPath => "Invalid local repository at : path is empty"
  | file path cause => "I/O error at " ++ path.text ++ ": " ++ cause.message

structure LocalRepository where
  baseDirectory : Path
  /-- Whether it reports itself away even when its directory exists. -/
  away : Bool := false
deriving DecidableEq, Repr

/-- An artifact in a local repository: the file and the base directory. -/
structure LocalArtifact where
  file : Path
  repository : Path
deriving DecidableEq, Repr

namespace LocalRepository

/-- The local repository at a path, which must not be empty. -/
def atPath (away : Bool) (path : Path) : Except LocalRepositoryError LocalRepository :=
  if path.text = "" then .error .emptyPath else .ok ⟨path, away⟩

def isAvailable (r : LocalRepository) (files : FileSystem) : Bool :=
  !r.away && files.isDirectory r.baseDirectory

/-- Where an artifact is kept. -/
def pathOf (r : LocalRepository) (a : Artifact) : Path :=
  r.baseDirectory.join a.relativePath

def find? (r : LocalRepository) (files : FileSystem) (a : Artifact) : Option LocalArtifact :=
  if files.isFile (r.pathOf a) then some ⟨r.pathOf a, r.baseDirectory⟩ else none

/-- The source file kept as the artifact, and where. What a failure leaves behind stays: directories,
and the beginning of a copy. -/
def add (r : LocalRepository) (files : FileSystem) (a : Artifact) (source : Path) :
    Except LocalRepositoryError Path × FileSystem :=
  let target := r.pathOf a
  let parent := target.parent?.getD ⟨""⟩
  match files.makeDirectories parent with
  | (.error cause, made) => (.error (.file parent cause), made)
  | (.ok (), made) =>
    match made.copy source target with
    | (.error cause, left) => (.error (.file target cause), left)
    | (.ok (), left) => (.ok target, left)

end LocalRepository

end Depot
