import Depot.LocalRepository.Directory
import Depot.Properties.Basic

/-! A chain of local repositories: a head that is read and written, and a tail that is only read. An
artifact is looked for in the head and then along the tail; the tail's repositories that are not
available are passed over when the chain takes availability into account. A plan names the
directories of a chain and can be taken from the properties; blank entries of its tail do not count.
-/

namespace Depot

structure LocalChain where
  head : LocalRepository
  tail : List LocalRepository := []
  ignoreTailAvailability : Bool := true
deriving DecidableEq, Repr

namespace LocalChain

def baseDirectory (c : LocalChain) : Path :=
  c.head.baseDirectory

def isAvailable (c : LocalChain) (files : FileSystem) : Bool :=
  c.head.isAvailable files

/-- The repositories of the tail that are looked into. -/
def consulted (c : LocalChain) (files : FileSystem) : List LocalRepository :=
  if c.ignoreTailAvailability then c.tail else c.tail.filter (·.isAvailable files)

/-- The artifact in the first repository of the chain that has it. -/
def find? (c : LocalChain) (files : FileSystem) (a : Artifact) : Option LocalArtifact :=
  (c.head :: c.consulted files).findSome? (·.find? files a)

def add (c : LocalChain) (files : FileSystem) (a : Artifact) (source : Path) :
    Except LocalRepositoryError Path × FileSystem :=
  c.head.add files a source

/-- The directories of a chain. -/
structure Plan where
  primary : Path
  tail : List Path := []
  ignoreTailAvailability : Bool := true
deriving Repr

namespace Plan

/-- The plan with the tail that the entries name, blank ones aside. -/
def withTail (p : Plan) (entries : List String) : Plan :=
  { p with tail := (entries.filterMap Text.filled?).map Path.mk }

/-- The plan whose tail the properties describe. -/
def ofProperties (primary : Path) (p : Properties) : Plan :=
  { (Plan.mk primary [] true).withTail
      (Properties.items (p.get? Properties.Name.localRepositoryTail)) with
    ignoreTailAvailability :=
      Properties.switch (p.get? Properties.Name.ignoreTailAvailability) true }

/-- The chain of the planned repositories, those at the given paths reporting themselves away. -/
def build (p : Plan) (away : List Path) : Except LocalRepositoryError LocalChain := do
  let repository (path : Path) : Except LocalRepositoryError LocalRepository :=
    LocalRepository.atPath (away.contains path) path
  let head ← repository p.primary
  let tail ← p.tail.mapM repository
  .ok { head, tail, ignoreTailAvailability := p.ignoreTailAvailability }

def sameAs (p q : Plan) : Bool :=
  p.primary.sameAs q.primary && p.tail.map Path.components == q.tail.map Path.components &&
    p.ignoreTailAvailability == q.ignoreTailAvailability

/-- The plan as diagnostics show it. -/
def render (p : Plan) : String :=
  Text.record "LocalRepositoryChain" [
    ("primary", p.primary.render),
    ("tail", Text.listed (p.tail.map Path.render)),
    ("ignore_tail_availability", Text.truth p.ignoreTailAvailability)]

end Plan

end LocalChain

end Depot
