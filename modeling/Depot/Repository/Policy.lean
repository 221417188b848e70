import Depot.Text.Decimal
import Depot.Text.Pieces
import Depot.Text.Record

/-! What a repository is used for, and how carefully. A policy says whether releases or snapshots
may be taken from a repository at all, how often its index is looked at again, and what a wrong
checksum means. Update policies have a written form, `always`, `daily`, `never` or `interval:` with
a number of minutes that fits 32 bits, which is read back with blanks around it and a plus sign
before the number allowed. -/

namespace Depot

/-- What to do with a file whose checksum is wrong. -/
inductive ChecksumPolicy where
  | fail
  | warn
  | ignore
deriving DecidableEq, Repr

namespace ChecksumPolicy

instance : Inhabited ChecksumPolicy := ⟨warn⟩

def text : ChecksumPolicy → String
  | fail => "fail"
  | warn => "warn"
  | ignore => "ignore"

def ofText? : String → Option ChecksumPolicy
  | "fail" => some fail
  | "warn" => some warn
  | "ignore" => some ignore
  | _ => none

def render : ChecksumPolicy → String
  | fail => "Fail"
  | warn => "Warn"
  | ignore => "Ignore"

end ChecksumPolicy

/-- A text that spells no update policy. -/
structure InvalidPolicy where
  value : String
deriving DecidableEq, Repr

def InvalidPolicy.message (e : InvalidPolicy) : String :=
  "Invalid repository policy: " ++ e.value

/-- How often what is known of a repository is looked at again. -/
inductive UpdatePolicy where
  | always
  | daily
  | never
  | interval (minutes : UInt32)
deriving DecidableEq, Repr

namespace UpdatePolicy

instance : Inhabited UpdatePolicy := ⟨daily⟩

def text : UpdatePolicy → String
  | always => "always"
  | daily => "daily"
  | never => "never"
  | interval minutes => "interval:" ++ toString minutes.toNat

/-- The minutes of an interval: below 2 to the 32nd. -/
def minutes? (cs : List Char) : Option UInt32 :=
  (Text.signedDecimalBelow? UInt32.size cs).map UInt32.ofNat

/-- The policy that a trimmed text spells. -/
def ofText? (s : String) : Option UpdatePolicy :=
  if s = "always" then some always
  else if s = "daily" then some daily
  else if s = "never" then some never
  else ((Text.dropPrefix? "interval:".toList s.toList).bind minutes?).map interval

/-- The policy that a text spells, blanks around it aside. -/
def parse (s : String) : Except InvalidPolicy UpdatePolicy :=
  match ofText? (Text.trim s) with
  | some policy => .ok policy
  | none => .error ⟨s⟩

def render : UpdatePolicy → String
  | always => "Always"
  | daily => "Daily"
  | never => "Never"
  | interval minutes => Text.wrapped "Interval" (toString minutes.toNat)

end UpdatePolicy

/-- Whether a session looks for new snapshots whatever the repositories say. -/
inductive SnapshotUpdates where
  | always
  | never
deriving DecidableEq, Repr

namespace SnapshotUpdates

def policy : SnapshotUpdates → UpdatePolicy
  | always => .always
  | never => .never

def text : SnapshotUpdates → String
  | always => "always"
  | never => "never"

def ofText? : String → Option SnapshotUpdates
  | "always" => some always
  | "never" => some never
  | _ => none

def render : SnapshotUpdates → String
  | always => "Always"
  | never => "Never"

end SnapshotUpdates

/-- How a repository is used for releases, or for snapshots. -/
structure RepositoryPolicy where
  enabled : Bool := true
  update : UpdatePolicy := .daily
  checksum : ChecksumPolicy := .warn
deriving DecidableEq, Repr

namespace RepositoryPolicy

instance : Inhabited RepositoryPolicy := ⟨{}⟩

def disabled : RepositoryPolicy := { enabled := false }

def render (p : RepositoryPolicy) : String :=
  Text.record "RepositoryPolicy" [
    ("enabled", Text.truth p.enabled),
    ("update_policy", p.update.render),
    ("checksum_policy", p.checksum.render)]

end RepositoryPolicy

end Depot
