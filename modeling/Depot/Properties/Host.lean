import Depot.Properties.Basic

/-! What the host contributes. Its environment variables appear as properties under a name of their
own kind, and a few system properties describe the operating system and the user. A user's home
directory is the one that the properties name, else the host's. -/

namespace Depot

/-- The surroundings of a program: environment variables and the facts that are not among them. -/
structure Host where
  environment : Properties
  /-- The home directory of the user account, for an environment that names none. -/
  accountHome : Option String
  workingDirectory : Option String
  osName : String
  osFamily : String
  architecture : String
deriving Repr

namespace Host

/-- The home directory: the environment's unless it is empty, else the account's. -/
def home? (host : Host) : Option String :=
  match host.environment.get? "HOME" with
  | some home => if home = "" then host.accountHome else some home
  | none => host.accountHome

def environmentProperties (host : Host) : Properties :=
  Properties.ofList (host.environment.entries.map fun (name, value) =>
    (Properties.Name.ofEnvironment name, value))

def userName? (host : Host) : Option String :=
  (host.environment.get? "USER").or (host.environment.get? "USERNAME")

/-- What is known of the operating system and the user; a fact that is not known has no property. -/
def systemProperties (host : Host) : Properties :=
  let known : List (String × Option String) := [
    (Properties.Name.osName, some host.osName),
    (Properties.Name.osFamily, some host.osFamily),
    (Properties.Name.osArchitecture, some host.architecture),
    ("file.separator", some "/"),
    ("path.separator", some ":"),
    ("line.separator", some "\n"),
    (Properties.Name.userHome, host.home?),
    (Properties.Name.userDirectory, host.workingDirectory),
    (Properties.Name.userName, host.userName?),
    (Properties.Name.installation, host.environment.get? "MAVEN_HOME")]
  Properties.ofList (known.filterMap fun (name, value) => value.map (name, ·))

/-- The system properties laid over those of the environment. -/
def properties (host : Host) : Properties :=
  host.environmentProperties.overlay host.systemProperties

/-- The home directory that the properties name, else the host's. -/
def userHome? (host : Host) (p : Properties) : Option String :=
  (p.filled? Properties.Name.userHome).or host.home?

end Host

end Depot
