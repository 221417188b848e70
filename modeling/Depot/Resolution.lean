import Depot.Session

/-! Resolving an artifact. The local chain is asked first. Else the repositories whose policy for
the kind of artifact is enabled are the candidates; offline, having candidates is an error. Online
they are tried in order until one holds the artifact, which is then copied into the head of the
chain. A repository that merely lacks the artifact is no failure; one that is blocked, is not a
directory, or whose file cannot be stored is, and the first failure is reported when no candidate
delivers. -/

namespace Depot

/-- Why an artifact was not resolved. -/
inductive ResolutionError where
  | notFound (artifact : String) (repositories : List String)
  | offline (artifact repository : String)
  | transportUnavailable (repository url : String)
  | blocked (repository : String)
  | shutDown
  | storage (cause : LocalRepositoryError)
deriving DecidableEq, Repr

def ResolutionError.message : ResolutionError → String
  | notFound artifact repositories =>
    "Could not find artifact " ++ artifact ++ " in " ++ String.intercalate ", " repositories
  | offline artifact repository =>
    "Cannot access " ++ repository ++ " in offline mode and artifact " ++ artifact ++
      " has not been downloaded from it before"
  | transportUnavailable repository url =>
    "No transport available for " ++ repository ++ " (" ++ url ++ ")"
  | blocked repository => "Repository " ++ repository ++ " is blocked"
  | shutDown => "Repository engine has been shut down"
  | storage cause => "Failed to store artifact: " ++ cause.message

/-- A resolved artifact: the file, and the identifier of the repository that it came from. -/
structure ResolvedArtifact where
  artifact : Artifact
  file : Path
  repository : String
deriving DecidableEq, Repr

namespace Resolution

/-- The identifier under which the local chain appears among repositories. -/
def localId : String := "local"

/-- The directory of a repository whose address is one; a drive letter may stand after a slash. -/
def directory? (url : String) : Option Path :=
  let rest := (Text.dropPrefix? "file://".toList url.toList).or
    (Text.dropPrefix? "file:".toList url.toList)
  rest.map fun
    | '/' :: drive :: ':' :: path =>
      if drive.isAlpha then ⟨String.ofList (drive :: ':' :: path)⟩
      else ⟨String.ofList ('/' :: drive :: ':' :: path)⟩
    | path => ⟨String.ofList path⟩

/-- What came of something that was tried: the file system and the events that it left, and the
result. -/
structure Outcome (α : Type) where
  files : FileSystem
  events : List Event
  result : Except ResolutionError α

/-- The artifact fetched from one repository into the chain; none when the repository lacks it. -/
def fetch (chain : LocalChain) (files : FileSystem) (a : Artifact) (r : RemoteRepository) :
    Outcome (Option Path) :=
  if r.blocked then ⟨files, [], .error (.blocked r.id)⟩
  else match directory? r.url with
    | none => ⟨files, [], .error (.transportUnavailable r.id r.url)⟩
    | some root =>
      let source := root.join a.relativePath
      let initiated := Event.transfer (.initiated r.id a.layoutPath)
      if files.isFile source then
        match chain.add files a source with
        | (.error cause, left) => ⟨left, [initiated], .error (.storage cause)⟩
        | (.ok stored, left) =>
          ⟨left, [initiated, .transfer (.succeeded r.id a.layoutPath (left.size stored))],
            .ok (some stored)⟩
      else ⟨files, [initiated, .transfer (.failed r.id a.layoutPath "not found")], .ok none⟩

/-- The first of the repositories that delivers the artifact, and the file; none when all lack it.
-/
def fetchFirst (chain : LocalChain) (a : Artifact) :
    FileSystem → List RemoteRepository → Outcome (Option (RemoteRepository × Path))
  | files, [] => ⟨files, [], .ok none⟩
  | files, r :: rest =>
    let tried := fetch chain files a r
    match tried.result with
    | .ok (some stored) => ⟨tried.files, tried.events, .ok (some (r, stored))⟩
    | .ok none =>
      let later := fetchFirst chain a tried.files rest
      { later with events := tried.events ++ later.events }
    | .error failure =>
      let later := fetchFirst chain a tried.files rest
      let result := match later.result with
        | .ok (some delivered) => .ok (some delivered)
        | _ => .error failure
      ⟨later.files, tried.events ++ later.events, result⟩

/-- The repositories that may be asked for the artifact. -/
def candidates (a : Artifact) (rs : List RemoteRepository) : List RemoteRepository :=
  rs.filter fun r => (r.policy a.isSnapshot).enabled

/-- The events and the result of resolving an artifact. -/
def resolve (s : Session) (files : FileSystem) (a : Artifact) (rs : List RemoteRepository) :
    Outcome ResolvedArtifact :=
  let resolving := Event.repository (.resolving a)
  let resolved (repository : String) (file : Option Path) : Event :=
    .repository (.resolved a repository file)
  match s.localChain.find? files a with
  | some found =>
    ⟨files, [resolving, resolved localId (some found.file)], .ok ⟨a, found.file, localId⟩⟩
  | none =>
    let asked := candidates a rs
    match s.offline, asked with
    | true, first :: _ => ⟨files, [resolving], .error (.offline a.coordinates first.id)⟩
    | _, _ =>
      let fetched := fetchFirst s.localChain a files asked
      let told (last : Event) : List Event := resolving :: fetched.events ++ [last]
      match fetched.result with
      | .ok (some (r, stored)) =>
        ⟨fetched.files, told (resolved r.id (some stored)), .ok ⟨a, stored, r.id⟩⟩
      | .ok none =>
        ⟨fetched.files, told (resolved "" none),
          .error (.notFound a.coordinates (localId :: asked.map (·.id)))⟩
      | .error failure => ⟨fetched.files, told (resolved "" none), .error failure⟩

end Resolution

end Depot
