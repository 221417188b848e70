import Depot.Overrides

/-! Where settings and the local repository are when nobody says otherwise. The user's files are in
a directory of the home directory, the installation's in its configuration directory; overrides may
name each file instead. -/

namespace Depot

/-- The settings files, as far as they are known. -/
structure SettingsLocations where
  global : Option Path := none
  user : Option Path := none
  security : Option Path := none
deriving DecidableEq, Repr

namespace SettingsLocations

instance : Inhabited SettingsLocations := ⟨{}⟩

/-- The user's directory. -/
def userDirectory? (host : Host) (p : Properties) : Option Path :=
  (host.userHome? p).map fun home => (Path.mk home).child ".m2"

def defaultUser? (host : Host) (p : Properties) : Option Path :=
  (userDirectory? host p).map (·.child "settings.toml")

/-- The file in the configuration directory that the properties name, else in that of the
installation that they or the environment name. -/
def defaultGlobal? (p : Properties) : Option Path :=
  match p.filled? Properties.Name.configuration with
  | some directory => some ((Path.mk directory).child "settings.toml")
  | none =>
    let home := (p.filled? Properties.Name.installation).or
      (p.filled? (Properties.Name.ofEnvironment "MAVEN_HOME"))
    home.map fun h => ((Path.mk h).child "conf").child "settings.toml"

def defaultSecurity? (host : Host) (p : Properties) : Option Path :=
  (userDirectory? host p).map (·.child "settings-security.toml")

/-- The local repository in the user's directory. -/
def defaultLocalRepository? (host : Host) (p : Properties) : Option Path :=
  (userDirectory? host p).map (·.child "repository")

/-- The files that the overrides name, and the usual ones in place of the others. -/
def ofOverrides (host : Host) (o : Overrides) : SettingsLocations :=
  let p := o.effectiveProperties
  { global := o.globalSettings.or (defaultGlobal? p)
    user := o.userSettings.or (defaultUser? host p)
    security := o.settingsSecurity.or (defaultSecurity? host p) }

end SettingsLocations

end Depot
