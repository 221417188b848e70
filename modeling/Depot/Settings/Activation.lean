import Depot.FileSystem
import Depot.Properties.Interpolation
import Depot.Settings.Basic
import Depot.Settings.VersionRange

/-! Profiles that become active by themselves. A profile does when its activation states conditions
and all of them hold: the version of Java begins with a text or lies in a range, the operating
system is named, a property has a value, files exist or are missing. An exclamation mark in front of
a value negates it. -/

namespace Depot

/-- Whether a profile becomes active by itself, given the files and the properties. -/
abbrev ProfileSelector := FileSystem → Properties → Profile → Bool

namespace Activation

/-- Whether what is expected matches, or does not when it has an exclamation mark in front. -/
def negatable (expected : String) (accepts : String → Bool) : Bool :=
  let expected := Text.trim expected
  match Text.negated? expected with
  | some negated => !accepts negated
  | none => accepts expected

def startsWith (s start : String) : Bool :=
  start.toList.isPrefixOf s.toList

/-- The version of Java, which has to be known, begins with the text or lies in the range. -/
def jdkHolds (p : Properties) (spec : String) : Bool :=
  match p.get? Properties.Name.javaVersion with
  | none => false
  | some version =>
    let spec := Text.trim spec
    match Text.negated? spec with
    | some negated => !startsWith version (Text.trim negated)
    | none =>
      if VersionRange.opens spec then
        match VersionRange.parse? spec with
        | some range => range.holds version
        | none => false
      else startsWith version spec

/-- Whether an operating system of this name and family belongs to the expected family. -/
def familyHolds (name family expected : String) : Bool :=
  match Text.lower expected with
  | "windows" =>
    Text.eqIgnoringCase family "windows" || Text.contains "windows" (Text.lower name)
  | "mac" => Text.contains "mac" (Text.lower name)
  | "unix" => Text.eqIgnoringCase family "unix"
  | other => Text.eqIgnoringCase family other

def osHolds (p : Properties) (c : OsCondition) : Bool :=
  let known (name : String) : String := (p.get? name).getD ""
  let name := known Properties.Name.osName
  let family := known Properties.Name.osFamily
  c.name.all (negatable · (Text.eqIgnoringCase · name)) &&
    c.family.all (negatable · (familyHolds name family)) &&
    c.arch.all (negatable · (Text.eqIgnoringCase · (known Properties.Name.osArchitecture))) &&
    c.version.all (negatable · (startsWith (known Properties.Name.osVersion)))

/-- A property is not blank, or has the value; a name with an exclamation mark in front asks for one
that is blank or missing. -/
def propertyHolds (p : Properties) (c : PropertyCondition) : Bool :=
  let name := Text.trim c.name
  match Text.negated? name with
  | some absent => (p.filled? absent).isNone
  | none =>
    match c.value with
    | none => (p.filled? name).isSome
    | some expected => negatable expected fun value => p.get? name == some value

def fileHolds (files : FileSystem) (p : Properties) (c : FileCondition) : Bool :=
  let present (path : String) : Bool := files.exists? ⟨p.interpolate path⟩
  c.existing.all present && c.missing.all (!present ·)

/-- Every condition that is stated holds. -/
def holds (files : FileSystem) (p : Properties) (a : Activation) : Bool :=
  a.jdk.all (jdkHolds p) && a.os.all (osHolds p) && a.property.all (propertyHolds p) &&
    a.file.all (fileHolds files p)

/-- The profiles whose activation states conditions that all hold. -/
def byConditions : ProfileSelector := fun files p profile =>
  match profile.activation with
  | some a => a.hasConditions && a.holds files p
  | none => false

end Activation

end Depot
