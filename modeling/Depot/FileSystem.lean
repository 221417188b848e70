import Depot.Keyed
import Depot.Path

/-! A file system as a value: the nodes by location, a location being the names that lead to it from
the root. A path is walked name by name from the working directory, or from the root when it is
absolute; each step needs a directory to start from, a dot stays and two dots go up, and a final
slash asks for a directory. There are no links, so every location is a node of its own. Reading,
making directories and copying then fail as an operating system would, and an operation answers the
file system that it leaves behind.

What the nodes allow may go wrong for other reasons: a permission is missing, a file cannot be read, a
device is full. Such mishaps are part of the state. The directories and the copies that are about to
be made meet with them one after the other, and with none once the list has ended; so the lists
together are all ways in which the operations of a run can fail. -/

namespace Depot

/-- What an operating system answers when it refuses. -/
inductive FileError where
  | notFound
  | notADirectory
  | isADirectory
  | alreadyExists
  | permissionDenied
  | noSpaceLeft
  | nameTooLong
  | embeddedNul
  | notRegular
  | notUtf8
  | other (text : String) (number : Nat)
deriving DecidableEq, Repr

def FileError.message : FileError → String
  | .notFound => "No such file or directory (os error 2)"
  | .notADirectory => "Not a directory (os error 20)"
  | .isADirectory => "Is a directory (os error 21)"
  | .alreadyExists => "File exists (os error 17)"
  | .permissionDenied => "Permission denied (os error 13)"
  | .noSpaceLeft => "No space left on device (os error 28)"
  | .nameTooLong => "File name too long (os error 36)"
  | .embeddedNul => "file name contained an unexpected NUL byte"
  | .notRegular => "the source path is neither a regular file nor a symlink to a regular file"
  | .notUtf8 => "stream did not contain valid UTF-8"
  | .other text number => text ++ " (os error " ++ toString number ++ ")"

/-- A file with its content, or a directory. -/
inductive Node where
  | file (content : ByteArray)
  | directory

/-- The names that lead from the root to a node. -/
abbrev Location := List String

/-- How it fails to make what the nodes allow. -/
inductive Mishap where
  /-- Nothing is begun. -/
  | refused (cause : FileError)
  /-- A file is begun, and ends after so many bytes. -/
  | brokenOff (bytes : Nat) (cause : FileError)
deriving DecidableEq, Repr

def Mishap.cause : Mishap → FileError
  | refused cause => cause
  | brokenOff _ cause => cause

structure FileSystem where
  workingDirectory : Location
  nodes : List (Location × Node)
  /-- What befalls the directories and the copies that are made from now on, one after the other. -/
  mishaps : List (Option Mishap) := []

namespace FileSystem

/-- The node at a location; the root is always a directory. -/
def node? (fs : FileSystem) (l : Location) : Option Node :=
  if l = [] then some .directory else fs.nodes.lookup l

/-- The bytes of the file at a location. -/
def content? (fs : FileSystem) (l : Location) : Option ByteArray :=
  match fs.node? l with
  | some (.file content) => some content
  | _ => none

def hasDirectory (fs : FileSystem) (l : Location) : Bool :=
  match fs.node? l with
  | some .directory => true
  | _ => false

/-- The file system with the node at the location. -/
def put (fs : FileSystem) (l : Location) (node : Node) : FileSystem :=
  { fs with nodes := Keyed.store fs.nodes l node }

@[simp] theorem node?_root (fs : FileSystem) : fs.node? [] = some .directory := rfl

/-- What is put at a location is there, and nothing else changes. -/
theorem node?_put (fs : FileSystem) {l : Location} (node : Node) (asked : Location) (h : l ≠ []) :
    (fs.put l node).node? asked = if asked = l then some node else fs.node? asked := by
  by_cases root : asked = []
  · simp [root, Ne.symm h]
  · simp [node?, put, root, Keyed.lookup_store]

/-- What befalls the next directory or copy. -/
def mishap? (fs : FileSystem) : Option Mishap :=
  fs.mishaps.head?.join

/-- The file system once that is past. -/
def later (fs : FileSystem) : FileSystem :=
  { fs with mishaps := fs.mishaps.tail }

/-- Nothing but the working directory and the directories above it. -/
def bare (workingDirectory : Location) : FileSystem :=
  { workingDirectory
    nodes := (List.range workingDirectory.length).map fun n =>
      (workingDirectory.take (n + 1), .directory) }

/-- The longest name and the longest path, in bytes. -/
def nameLimit : Nat := 255
def pathLimit : Nat := 4095

/-- The names of a path in the order in which it is walked. -/
def names (p : Path) : Except FileError (List String) :=
  if p.text.toList.contains '\x00' then .error .embeddedNul
  else if p.text = "" then .error .notFound
  else if p.text.utf8ByteSize > pathLimit then .error .nameTooLong
  else .ok ((Text.pieces '/' p.text).filter (· != ""))

def origin (fs : FileSystem) (p : Path) : Location :=
  if p.isAbsolute then [] else fs.workingDirectory

/-- One name further from a location. -/
def step (fs : FileSystem) (l : Location) (name : String) : Except FileError Location :=
  match fs.node? l with
  | some .directory =>
    if name = "." then .ok l
    else if name = ".." then .ok l.dropLast
    else if name.utf8ByteSize > nameLimit then .error .nameTooLong
    else if (fs.node? (l ++ [name])).isSome then .ok (l ++ [name])
    else .error .notFound
  | _ => .error .notADirectory

def walk (fs : FileSystem) (l : Location) (ns : List String) : Except FileError Location :=
  ns.foldlM fs.step l

/-- The location of the node that a path leads to. -/
def locate (fs : FileSystem) (p : Path) : Except FileError Location := do
  let l ← fs.walk (fs.origin p) (← names p)
  if p.endsInSlash && !fs.hasDirectory l then .error .notADirectory else .ok l

def at? (fs : FileSystem) (p : Path) : Option Node :=
  match fs.locate p with
  | .ok l => fs.node? l
  | .error _ => none

def exists? (fs : FileSystem) (p : Path) : Bool :=
  (fs.at? p).isSome

def isFile (fs : FileSystem) (p : Path) : Bool :=
  match fs.at? p with
  | some (.file _) => true
  | _ => false

def isDirectory (fs : FileSystem) (p : Path) : Bool :=
  match fs.at? p with
  | some .directory => true
  | _ => false

/-- The bytes of the file that a path leads to. -/
def read (fs : FileSystem) (p : Path) : Except FileError ByteArray := do
  match fs.node? (← fs.locate p) with
  | some (.file content) => .ok content
  | _ => .error .isADirectory

/-- The text of the file that a path leads to. -/
def readText (fs : FileSystem) (p : Path) : Except FileError String := do
  match String.fromUTF8? (← fs.read p) with
  | some text => .ok text
  | none => .error .notUtf8

/-- The number of bytes of the file that a path leads to; zero when there is none. -/
def size (fs : FileSystem) (p : Path) : Nat :=
  match fs.read p with
  | .ok content => content.size
  | .error _ => 0

/-- The directory in which the last name of a path stands, and that name; none for the root. -/
def entry (fs : FileSystem) (p : Path) : Except FileError (Option (Location × String)) := do
  let ns ← names p
  match ns.getLast? with
  | none => .ok none
  | some last =>
    let l ← fs.walk (fs.origin p) ns.dropLast
    if !fs.hasDirectory l then .error .notADirectory
    else .ok (some (l, last))

def isRelativeName (name : String) : Bool :=
  name == "." || name == ".."

/-- Where a directory can be made: in a directory, under a name that is not taken. -/
def freePlace (fs : FileSystem) (p : Path) : Except FileError Location := do
  match ← fs.entry p with
  | none => .error .alreadyExists
  | some (l, name) =>
    if isRelativeName name then .error .alreadyExists
    else if name.utf8ByteSize > nameLimit then .error .nameTooLong
    else if (fs.node? (l ++ [name])).isSome then .error .alreadyExists
    else .ok (l ++ [name])

/-- A directory in a directory that exists already. -/
def makeDirectory (fs : FileSystem) (p : Path) : Except FileError Unit × FileSystem :=
  match fs.freePlace p with
  | .error cause => (.error cause, fs)
  | .ok l =>
    match fs.mishap? with
    | some mishap => (.error mishap.cause, fs.later)
    | none => (.ok (), (fs.put l .directory).later)

/-- What came of making a directory; a failure does not count when the directory is there. -/
def settle (p : Path) : Except FileError Unit × FileSystem → Except FileError Unit × FileSystem
  | (.ok (), made) => (.ok (), made)
  | (.error cause, left) => (if left.isDirectory p then .ok () else .error cause, left)

def makeUpwards (fs : FileSystem) : List Path → Except FileError Unit × FileSystem
  | [] => (.ok (), fs)
  | p :: above =>
    match fs.makeDirectory p with
    | (.error .notFound, left) =>
      match left.makeUpwards above with
      | (.ok (), made) => settle p (made.makeDirectory p)
      | failed => failed
    | tried => settle p tried

/-- A directory together with those above it that are missing. Those made before a failure stay. -/
def makeDirectories (fs : FileSystem) (p : Path) : Except FileError Unit × FileSystem :=
  fs.makeUpwards p.withAncestors

/-- Where a file can be written, new or in place of an old one. -/
def filePlace (fs : FileSystem) (p : Path) : Except FileError Location := do
  match ← fs.entry p with
  | none => .error .isADirectory
  | some (l, name) =>
    if isRelativeName name || p.endsInSlash then .error .isADirectory
    else if name.utf8ByteSize > nameLimit then .error .nameTooLong
    else if fs.hasDirectory (l ++ [name]) then .error .isADirectory
    else .ok (l ++ [name])

/-- A file with the content. -/
def write (fs : FileSystem) (p : Path) (content : ByteArray) : Except FileError FileSystem := do
  .ok (fs.put (← fs.filePlace p) (.file content))

/-- Where a copy is read, which has to be a file, and where it is written. -/
def copyPlaces (fs : FileSystem) (source target : Path) :
    Except FileError (Location × Location) := do
  let origin ← fs.locate source
  match fs.content? origin with
  | some _ => .ok (origin, ← fs.filePlace target)
  | none => .error .notRegular

/-- The file at the place emptied, and then filled with what is taken of the content at the origin. -/
def refill (fs : FileSystem) (origin place : Location) (taken : ByteArray → ByteArray) :
    FileSystem :=
  let emptied := fs.put place (.file .empty)
  emptied.put place (.file (taken ((emptied.content? origin).getD .empty)))

/-- The first bytes of a content. -/
def firstBytes (count : Nat) (content : ByteArray) : ByteArray :=
  content.extract 0 count

/-- The content of the source file in the target file. The target is emptied first, so a file copied
to itself is left empty; and what is there of a copy that breaks off stays. -/
def copy (fs : FileSystem) (source target : Path) : Except FileError Unit × FileSystem :=
  match fs.copyPlaces source target with
  | .error cause => (.error cause, fs)
  | .ok (origin, place) =>
    match fs.mishap? with
    | some (.refused cause) => (.error cause, fs.later)
    | some (.brokenOff count cause) =>
      (.error cause, (fs.refill origin place (firstBytes count)).later)
    | none => (.ok (), (fs.refill origin place id).later)

/-- The files below a location by the path that leads to them from there, in rising order. -/
def filesBelow (fs : FileSystem) (top : Location) : List (String × ByteArray) :=
  let found := fs.nodes.filterMap fun (l, node) =>
    match node with
    | .file content =>
      if top.isPrefixOf l && l != top then
        some (String.intercalate "/" (l.drop top.length), content)
      else none
    | .directory => none
  found.mergeSort fun a b => a.1 ≤ b.1

end FileSystem

end Depot
