import Depot.Settings.ActiveProfiles
import Depot.Settings.Extraction
import Depot.Settings.Locations
import Depot.Settings.Merging
import Depot.Settings.Reading

/-! Settings as they apply under some overrides: what a builder makes of the files that the overrides
locate, the profiles that are active, and the selector tables. The usual builder lays the user's
file over the installation's; a file that is missing is passed over, and one that is not valid is an
error. Unless the overrides ask for discovered settings nothing is read and everything is empty. Of
the active profiles' properties and repositories the first declaration of a name counts. -/

namespace Depot

structure ResolvedSettings where
  settings : Settings := {}
  locations : SettingsLocations := {}
  activeProfiles : List Profile := []
  tables : SelectorTables := {}

namespace ResolvedSettings

instance : Inhabited ResolvedSettings := ⟨{}⟩

def activeProfileIds (r : ResolvedSettings) : List String :=
  r.activeProfiles.map (·.id)

/-- The properties of the active profiles, those of earlier ones first. -/
def profileProperties (r : ResolvedSettings) : Properties :=
  r.activeProfiles.foldl (fun p profile => p.underlay profile.properties) .empty

/-- The repositories of the active profiles, the first of each identifier. -/
def profileRepositories (r : ResolvedSettings) : List RemoteRepository :=
  (r.activeProfiles.flatMap Profile.remoteRepositories).foldl RemoteRepository.listNew []

end ResolvedSettings

/-- What settings are built from: the files that were located, and the properties that their texts
may refer to. -/
structure SettingsRequest where
  global : Option Path
  user : Option Path
  properties : Properties

/-- What builds settings from a request. -/
abbrev SettingsBuilder := FileSystem → SettingsRequest → Except SettingsError Settings

namespace SettingsResolver

/-- The layers at the paths, each laid over those before it. -/
def mergeLayers (files : FileSystem) (p : Properties) :
    List Path → Except SettingsError Settings :=
  List.foldlM (fun settings path => do
    match ← Settings.loadLayer files p path with
    | some layer => return settings.merge layer
    | none => return settings) {}

/-- The user's file laid over the installation's. -/
def layered : SettingsBuilder := fun files request =>
  mergeLayers files request.properties (request.global.toList ++ request.user.toList)

end SettingsResolver

/-- How settings are resolved: how they are built, how secrets are decrypted, and how profiles
become active by themselves, if at all. -/
structure SettingsResolver where
  builder : SettingsBuilder := SettingsResolver.layered
  decrypter : Decrypter := Secret.plain
  profileSelector : Option ProfileSelector := some Activation.byConditions

namespace SettingsResolver

instance : Inhabited SettingsResolver := ⟨{}⟩

/-- The settings that apply under the overrides. -/
def resolve (resolver : SettingsResolver) (host : Host) (files : FileSystem) (o : Overrides) :
    Except SettingsError ResolvedSettings :=
  if o.discoverSettings then do
    let locations := SettingsLocations.ofOverrides host o
    let p := o.effectiveProperties
    let settings ← resolver.builder files ⟨locations.global, locations.user, p⟩
    return {
      settings, locations
      activeProfiles := settings.activeUnder o (resolver.profileSelector.map (· files p))
      tables := SelectorTables.extract resolver.decrypter files locations.security settings }
  else .ok {}

/-- The resolver as diagnostics show it. -/
def render (resolver : SettingsResolver) : String :=
  Text.openRecord "SettingsResolver" [
    ("profile_selector", Text.truth resolver.profileSelector.isSome)]

end SettingsResolver

end Depot
