import Depot.Repository.Basic

/-! Mirrors. A mirror stands in for the repositories that its pattern names: an identifier, one with
an exclamation mark before it for an exception, a star for all, or a star for those that are not
local, of any protocol or of plain HTTP only. A second pattern names layouts in the same way. Of
several mirrors the first that stands in for a repository is used, with the policies of the
repository. -/

namespace Depot

/-- A mirror and the repositories for which it stands in. -/
structure MirrorRule where
  id : String
  url : String
  layout : String := "default"
  blocked : Bool := false
  /-- The repositories by pattern. -/
  mirrorOf : String
  /-- The layouts by pattern; blank for any. -/
  mirrorOfLayouts : String := ""
deriving DecidableEq, Repr

namespace MirrorRule

/-- What the parts of a pattern say of a name: the first part that is the name, or excludes it,
decides, and else whether some part covers it. -/
def decides (name : String) (covers : String → Bool) : List String → Bool
  | [] => false
  | part :: rest =>
    match Text.negated? part with
    | some excluded => if excluded = name then false else decides name covers rest
    | none =>
      if part = name then true
      else if covers part then spares rest
      else decides name covers rest
where
  /-- Whether the parts do not exclude a name that is covered already. -/
  spares : List String → Bool
    | [] => true
    | part :: rest =>
      match Text.negated? part with
      | some excluded => if excluded = name then false else spares rest
      | none => if part = name then true else spares rest

def partsOf (pattern : String) : List String :=
  (Text.pieces ',' pattern).map Text.trim

/-- Whether a part with a star covers the repository. -/
def coversRepository (r : RemoteRepository) (part : String) : Bool :=
  part == "*" || (part == "external:*" && !r.isLocal) ||
    (part == "external:http:*" && !r.isLocal && r.protocol == "http")

def matchesRepository (pattern : String) (r : RemoteRepository) : Bool :=
  match Text.filled? pattern with
  | none => false
  | some pattern => pattern == r.id || decides r.id (coversRepository r) (partsOf pattern)

def matchesLayout (pattern layout : String) : Bool :=
  match Text.filled? pattern with
  | none => true
  | some pattern => pattern == layout || decides layout (· == "*") (partsOf pattern)

/-- Whether the mirror stands in for the repository. -/
def standsInFor (m : MirrorRule) (r : RemoteRepository) : Bool :=
  matchesRepository m.mirrorOf r && matchesLayout m.mirrorOfLayouts r.layout

/-- The mirror as a repository with the policies of the one for which it stands in. -/
def repository (m : MirrorRule) (r : RemoteRepository) : RemoteRepository :=
  { id := m.id
    layout := m.layout
    url := m.url
    releases := r.releases
    snapshots := r.snapshots
    mirrored := [r]
    blocked := m.blocked }

/-- What the first mirror that stands in for the repository makes of it. -/
def select? (mirrors : List MirrorRule) (r : RemoteRepository) : Option RemoteRepository :=
  (mirrors.find? (·.standsInFor r)).map (·.repository r)

end MirrorRule

end Depot
