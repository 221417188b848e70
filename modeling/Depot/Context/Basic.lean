import Depot.Provider.Basic

/-! Contexts: an engine, a session and a list of repositories, ready to resolve artifacts. A
provider assembles a context from the settings, the active profiles and the overrides; another
context can be derived from it by further overrides, with the same engine. The context for which an
engine was booted owns it. A context is over when it has been released or its engine is down. -/

namespace Depot

/-- Which local chain a session uses: the host's, by the number of its engine, or the one that the
context of this number opened. -/
inductive Mount where
  | hosted (engine : Nat)
  | opened (context : Nat)
deriving DecidableEq, Repr

structure Context where
  provider : Provider
  overrides : Overrides
  session : Session
  mount : Mount
  /-- The number of the engine. -/
  engine : Nat
  repositories : List RemoteRepository
  activeProfiles : List String
  ownsEngine : Bool
  released : Bool := false

namespace Context

def localRepository (c : Context) : Path :=
  c.session.localChain.baseDirectory

/-- The context of a host before any overrides. -/
def hosted (host : Host) (provider : Provider) (engine : Nat) (session : Session)
    (repositories : List RemoteRepository) : Context :=
  { provider, session, engine, repositories
    overrides := .default host
    mount := .hosted engine
    activeProfiles := []
    ownsEngine := false }

/-- The repositories that are discovered: those of the active profiles, else the central one. -/
def discovered (resolved : ResolvedSettings) : List RemoteRepository :=
  if resolved.profileRepositories.isEmpty then [.central] else resolved.profileRepositories

/-- The overrides' user properties, and those of the active profiles where the overrides say
nothing. -/
def userProperties (o : Overrides) (resolved : ResolvedSettings) : Properties :=
  o.userProperties.underlay resolved.profileProperties

/-- The local repository of the overrides, else of the settings, else the usual one. -/
def localRepositoryPath? (host : Host) (o : Overrides) (resolved : ResolvedSettings)
    (p : Properties) : Option Path :=
  (o.localRepository.or resolved.settings.localRepositoryPath?).or
    (SettingsLocations.defaultLocalRepository? host p)

/-- The session of the overrides and the settings over a local chain. -/
def sessionOver (o : Overrides) (resolved : ResolvedSettings) (chain : LocalChain) : Session :=
  { offline := o.offline || resolved.settings.isOffline
    localChain := chain
    checksum := o.checksum
    update := o.snapshotUpdates.map SnapshotUpdates.policy
    systemProperties := o.systemProperties
    userProperties := userProperties o resolved
    configProperties := resolved.profileProperties
    selectors := resolved.tables.selectors
    transferListener := o.transferListener
    repositoryListener := o.repositoryListener }

/-- The context number `number`, assembled around the engine, which it owns. -/
def assemble (host : Host) (files : FileSystem) (provider : Provider) (engineNumber : Nat)
    (engine : Engine) (number : Nat) (o : Overrides) : Except ContextError Context := do
  let resolved ← (provider.resolver.resolve host files o).mapError .settings
  let effective := o.systemProperties.overlay (userProperties o resolved)
  let some path := localRepositoryPath? host o resolved effective
    | .error .localRepositoryUnknown
  let chain ← (engine.openChain (.ofProperties path effective)).mapError .localRepository
  let session := sessionOver o resolved chain
  let composed := Listing.compose (discovered resolved) o.repositories o.mode
  return {
    provider, session
    overrides := o
    mount := .opened number
    engine := engineNumber
    repositories := session.selectors.aggregate composed
    activeProfiles := resolved.activeProfileIds
    ownsEngine := true }

/-- Released, or with an engine that is down. -/
def isOver (c : Context) (engine : Engine) : Bool :=
  c.released || engine.isDown

/-- The session with everything of the overrides laid over it but the local repository. -/
def sessionUnder (s : Session) (o : Overrides) : Session :=
  { s with
    offline := s.offline || o.offline
    userProperties := s.userProperties.overlay o.userProperties
    checksum := o.checksum.or s.checksum
    update := (o.snapshotUpdates.map SnapshotUpdates.policy).or s.update
    transferListener := (o.transferListener.map (Listener.after s.transferListener)).or
      s.transferListener
    repositoryListener := (o.repositoryListener.map (Listener.after s.repositoryListener)).or
      s.repositoryListener }

/-- The local chain to which the overrides switch, if they name another local repository. -/
def switchedChain (c : Context) (engine : Engine) (o : Overrides) (s : Session) :
    Except ContextError (Option LocalChain) :=
  match o.localRepository with
  | some path =>
    if path.sameAs c.localRepository then .ok none
    else
      let p := s.systemProperties.overlay s.userProperties
      ((engine.openChain (.ofProperties path p)).map some).mapError .localRepository
  | none => .ok none

/-- The context number `number`, derived by the overrides. -/
def customize (c : Context) (engine : Engine) (number : Nat) (o : Overrides) :
    Except ContextError Context := do
  if c.isOver engine then .error (.released c.provider.name)
  else
    let under := sessionUnder c.session o
    let switched ← c.switchedChain engine o under
    let session := { under with localChain := switched.getD under.localChain }
    let added := session.selectors.aggregate o.repositories
    return { c with
      session
      overrides := o
      mount := if switched.isSome then .opened number else c.mount
      repositories := Listing.compose c.repositories added o.mode
      ownsEngine := false
      released := false }

/-- The context as diagnostics show it. -/
def render (c : Context) : String :=
  Text.openRecord "Context" [
    ("runtime", Text.quoted c.provider.name),
    ("session", c.session.render),
    ("repositories", Text.listed (c.repositories.map RemoteRepository.render)),
    ("active_profiles", Text.listed (c.activeProfiles.map Text.quoted)),
    ("owns_engine", Text.truth c.ownsEngine),
    ("released", Text.truth c.released)]

end Context

/-- A repository in a summary: what it stands in for by identifier. -/
structure RepositorySummary where
  id : String
  url : String
  mirrored : List String
deriving DecidableEq, Repr

/-- What a context comes to, for a report. -/
structure ContextSummary where
  provider : String
  managed : Bool
  ownsEngine : Bool
  offline : Bool
  localRepository : Path
  repositories : List RepositorySummary
  activeProfiles : List String
deriving DecidableEq, Repr

def Context.summary (c : Context) : ContextSummary :=
  { provider := c.provider.name
    managed := c.provider.isManaged
    ownsEngine := c.ownsEngine
    offline := c.session.offline
    localRepository := c.localRepository
    repositories := c.repositories.map fun r => ⟨r.id, r.url, r.mirrored.map (·.id)⟩
    activeProfiles := c.activeProfiles }

end Depot
