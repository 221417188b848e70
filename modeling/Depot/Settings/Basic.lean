import Depot.Path
import Depot.Properties.Basic
import Depot.Repository.Basic

/-! Settings: what a user, or an installation, says of the world of repositories. They name the
directory of the local repository, the credentials for servers, the mirrors and the proxies, and the
profiles, which bring properties and repositories into play when they are active. A profile's
activation states the conditions under which it becomes active by itself. -/

namespace Depot

/-- The credentials for the repository of the same identifier. -/
structure Server where
  id : String
  username : Option String := none
  password : Option String := none
  privateKey : Option String := none
  passphrase : Option String := none
deriving DecidableEq, Repr

/-- The credentials of a server, unless it has none. -/
def Server.authentication? (s : Server) : Option Authentication :=
  Authentication.given?
    { username := s.username
      password := s.password
      privateKey := s.privateKey
      passphrase := s.passphrase }

/-- A mirror as it is declared. -/
structure MirrorSettings where
  id : String
  name : Option String := none
  url : String
  mirrorOf : String
  layout : Option String := none
  mirrorOfLayouts : Option String := none
  blocked : Bool := false
deriving DecidableEq, Repr

/-- A proxy as it is declared. -/
structure ProxySettings where
  id : String := "default"
  active : Bool := true
  protocol : String := "http"
  host : String
  port : UInt16 := 8080
  username : Option String := none
  password : Option String := none
  nonProxyHosts : Option String := none
deriving DecidableEq, Repr

namespace ProxySettings

def proxy (p : ProxySettings) : Proxy :=
  { protocol := Text.lower p.protocol
    host := p.host
    port := p.port
    authentication :=
      Authentication.given? { username := p.username, password := p.password } }

def hasCredentials (p : ProxySettings) : Bool :=
  p.username.isSome || p.password.isSome

end ProxySettings

/-- The operating systems on which a profile becomes active. -/
structure OsCondition where
  name : Option String := none
  family : Option String := none
  arch : Option String := none
  version : Option String := none
deriving DecidableEq, Repr

/-- The property for which a profile becomes active. -/
structure PropertyCondition where
  name : String
  value : Option String := none
deriving DecidableEq, Repr

/-- The files for which a profile becomes active. -/
structure FileCondition where
  existing : Option String := none
  missing : Option String := none
deriving DecidableEq, Repr

/-- When a profile becomes active by itself. -/
structure Activation where
  /-- Whether the profile is active when no other is. -/
  activeByDefault : Bool := false
  jdk : Option String := none
  os : Option OsCondition := none
  property : Option PropertyCondition := none
  file : Option FileCondition := none
deriving DecidableEq, Repr

def Activation.hasConditions (a : Activation) : Bool :=
  a.jdk.isSome || a.os.isSome || a.property.isSome || a.file.isSome

/-- A policy as it is declared. -/
structure PolicySettings where
  enabled : Bool := true
  update : Option UpdatePolicy := none
  checksum : Option ChecksumPolicy := none
deriving DecidableEq, Repr

def PolicySettings.policy (p : PolicySettings) : RepositoryPolicy :=
  { enabled := p.enabled
    update := p.update.getD .daily
    checksum := p.checksum.getD .warn }

/-- A repository as a profile declares it. -/
structure RepositorySettings where
  id : String
  name : Option String := none
  url : String
  layout : String := "default"
  releases : Option PolicySettings := none
  snapshots : Option PolicySettings := none
deriving DecidableEq, Repr

def RepositorySettings.repository (r : RepositorySettings) : RemoteRepository :=
  { id := r.id
    url := r.url
    layout := r.layout
    releases := (r.releases.map PolicySettings.policy).getD {}
    snapshots := (r.snapshots.map PolicySettings.policy).getD {} }

structure Profile where
  id : String
  activation : Option Activation := none
  properties : Properties := .empty
  repositories : List RepositorySettings := []
deriving DecidableEq, Repr

namespace Profile

def isActiveByDefault (p : Profile) : Bool :=
  (p.activation.map Activation.activeByDefault).getD false

def remoteRepositories (p : Profile) : List RemoteRepository :=
  p.repositories.map RepositorySettings.repository

end Profile

/-- One settings document, or several of them merged. -/
structure Settings where
  localRepository : Option String := none
  /-- Whether to work offline; none when nothing is said. -/
  offline : Option Bool := none
  activeProfiles : List String := []
  servers : List Server := []
  mirrors : List MirrorSettings := []
  proxies : List ProxySettings := []
  profiles : List Profile := []
deriving DecidableEq, Repr

namespace Settings

instance : Inhabited Settings := ⟨{}⟩

def isOffline (s : Settings) : Bool :=
  s.offline.getD false

/-- The directory of the local repository, unless it is blank. -/
def localRepositoryPath? (s : Settings) : Option Path :=
  (s.localRepository.bind Text.filled?).map Path.mk

/-- The first server of the identifier. -/
def server? (s : Settings) (id : String) : Option Server :=
  s.servers.find? (·.id == id)

/-- The first profile of the identifier. -/
def profile? (s : Settings) (id : String) : Option Profile :=
  s.profiles.find? (·.id == id)

end Settings

end Depot
