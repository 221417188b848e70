import Depot.Listener
import Depot.Properties.Host
import Depot.Repository.Listing

/-! What a caller wants to be different. Overrides are drafted change by change and then built.
Building fills what was left open, the system properties from the host and the local repository from
the properties, and it does so only then, so the order in which different things are changed never
matters. Overrides can be taken back to a draft in order to derive others from them. -/

namespace Depot

structure Overrides where
  offline : Bool
  localRepository : Option Path
  repositories : List RemoteRepository
  mode : Listing.Mode
  checksum : Option ChecksumPolicy
  snapshotUpdates : Option SnapshotUpdates
  /-- Whether the settings files are read. -/
  discoverSettings : Bool
  globalSettings : Option Path
  userSettings : Option Path
  settingsSecurity : Option Path
  activeProfiles : List String
  inactiveProfiles : List String
  systemProperties : Properties
  userProperties : Properties
  transferListener : Option Listener
  repositoryListener : Option Listener

namespace Overrides

/-- The user's properties laid over the system's. -/
def effectiveProperties (o : Overrides) : Properties :=
  o.systemProperties.overlay o.userProperties

/-- Overrides that are still being changed. -/
structure Draft where
  offline : Bool := false
  localRepository : Option Path := none
  repositories : List RemoteRepository := []
  mode : Listing.Mode := .append
  checksum : Option ChecksumPolicy := none
  snapshotUpdates : Option SnapshotUpdates := none
  discoverSettings : Bool := false
  globalSettings : Option Path := none
  userSettings : Option Path := none
  settingsSecurity : Option Path := none
  activeProfiles : List String := []
  inactiveProfiles : List String := []
  /-- The system properties; none for the host's. -/
  systemProperties : Option Properties := none
  userProperties : Properties := .empty
  transferListener : Option Listener := none
  repositoryListener : Option Listener := none

/-- One thing changed. -/
inductive Change where
  | offline (b : Bool)
  | localRepository (path : Option Path)
  | repositories (rs : List RemoteRepository)
  | mode (m : Listing.Mode)
  | checksum (policy : Option ChecksumPolicy)
  | snapshotUpdates (policy : Option SnapshotUpdates)
  | discoverSettings (b : Bool)
  | globalSettings (path : Option Path)
  | userSettings (path : Option Path)
  | settingsSecurity (path : Option Path)
  | activeProfiles (ids : List String)
  | inactiveProfiles (ids : List String)
  | systemProperties (p : Properties)
  | userProperties (p : Properties)
  | transferListener (l : Option Listener)
  | repositoryListener (l : Option Listener)

namespace Draft

instance : Inhabited Draft := ⟨{}⟩

def change (d : Draft) : Change → Draft
  | .offline b => { d with offline := b }
  | .localRepository path => { d with localRepository := path }
  | .repositories rs => { d with repositories := rs }
  | .mode m => { d with mode := m }
  | .checksum policy => { d with checksum := policy }
  | .snapshotUpdates policy => { d with snapshotUpdates := policy }
  | .discoverSettings b => { d with discoverSettings := b }
  | .globalSettings path => { d with globalSettings := path }
  | .userSettings path => { d with userSettings := path }
  | .settingsSecurity path => { d with settingsSecurity := path }
  | .activeProfiles ids => { d with activeProfiles := ids }
  | .inactiveProfiles ids => { d with inactiveProfiles := ids }
  | .systemProperties p => { d with systemProperties := some p }
  | .userProperties p => { d with userProperties := p }
  | .transferListener l => { d with transferListener := l }
  | .repositoryListener l => { d with repositoryListener := l }

def changeAll (d : Draft) (changes : List Change) : Draft :=
  changes.foldl change d

/-- The overrides, with what was left open taken from the host and from the properties. -/
def build (host : Host) (d : Draft) : Overrides :=
  let system := d.systemProperties.getD host.properties
  let named := (system.overlay d.userProperties).filled? Properties.Name.localRepository
  { offline := d.offline
    localRepository := d.localRepository.or (named.map Path.mk)
    repositories := d.repositories
    mode := d.mode
    checksum := d.checksum
    snapshotUpdates := d.snapshotUpdates
    discoverSettings := d.discoverSettings
    globalSettings := d.globalSettings
    userSettings := d.userSettings
    settingsSecurity := d.settingsSecurity
    activeProfiles := d.activeProfiles
    inactiveProfiles := d.inactiveProfiles
    systemProperties := system
    userProperties := d.userProperties
    transferListener := d.transferListener
    repositoryListener := d.repositoryListener }

end Draft

/-- The overrides of a draft to which nothing was changed. -/
def default (host : Host) : Overrides :=
  Draft.build host {}

/-- The draft that says what the overrides say. -/
def toDraft (o : Overrides) : Draft :=
  { offline := o.offline
    localRepository := o.localRepository
    repositories := o.repositories
    mode := o.mode
    checksum := o.checksum
    snapshotUpdates := o.snapshotUpdates
    discoverSettings := o.discoverSettings
    globalSettings := o.globalSettings
    userSettings := o.userSettings
    settingsSecurity := o.settingsSecurity
    activeProfiles := o.activeProfiles
    inactiveProfiles := o.inactiveProfiles
    systemProperties := some o.systemProperties
    userProperties := o.userProperties
    transferListener := o.transferListener
    repositoryListener := o.repositoryListener }

def samePaths (p q : Option Path) : Bool :=
  p.map Path.components == q.map Path.components

/-- Equal in every field, paths by their components. -/
def sameAs (o o' : Overrides) : Bool :=
  o.offline == o'.offline && samePaths o.localRepository o'.localRepository &&
    o.repositories == o'.repositories && o.mode == o'.mode && o.checksum == o'.checksum &&
    o.snapshotUpdates == o'.snapshotUpdates && o.discoverSettings == o'.discoverSettings &&
    samePaths o.globalSettings o'.globalSettings && samePaths o.userSettings o'.userSettings &&
    samePaths o.settingsSecurity o'.settingsSecurity && o.activeProfiles == o'.activeProfiles &&
    o.inactiveProfiles == o'.inactiveProfiles && o.systemProperties == o'.systemProperties &&
    o.userProperties == o'.userProperties && o.transferListener == o'.transferListener &&
    o.repositoryListener == o'.repositoryListener

/-- The overrides as diagnostics show them. -/
def render (o : Overrides) : String :=
  let path (p : Option Path) : String := Text.optional (p.map Path.render)
  let ids (names : List String) : String := Text.listed (names.map Text.quoted)
  Text.openRecord "Overrides" [
    ("offline", Text.truth o.offline),
    ("local_repository", path o.localRepository),
    ("repositories", Text.listed (o.repositories.map RemoteRepository.render)),
    ("add_repositories_op", o.mode.render),
    ("checksum_policy", Text.optional (o.checksum.map ChecksumPolicy.render)),
    ("snapshot_update_policy", Text.optional (o.snapshotUpdates.map SnapshotUpdates.render)),
    ("with_user_settings", Text.truth o.discoverSettings),
    ("global_settings", path o.globalSettings),
    ("user_settings", path o.userSettings),
    ("settings_security", path o.settingsSecurity),
    ("active_profile_ids", ids o.activeProfiles),
    ("inactive_profile_ids", ids o.inactiveProfiles),
    ("user_properties", o.userProperties.render),
    ("transfer_listener", Text.truth o.transferListener.isSome),
    ("repository_listener", Text.truth o.repositoryListener.isSome)]

end Overrides

end Depot
