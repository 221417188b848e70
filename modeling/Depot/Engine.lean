import Depot.Resolution

/-! Repository engines. An engine opens local repositories, works out which repositories are
contacted and resolves artifacts, until it is shut down; after that it resolves nothing and tells
nobody. It counts how often it has been told to shut down. -/

namespace Depot

structure Engine where
  /-- The base directories whose local repositories report themselves away. -/
  away : List Path := []
  shutdowns : Nat := 0
deriving Repr

namespace Engine

def isDown (e : Engine) : Bool :=
  e.shutdowns != 0

def shutDown (e : Engine) : Engine :=
  { e with shutdowns := e.shutdowns + 1 }

/-- The local repository at a path. -/
def localRepository (e : Engine) (path : Path) : Except LocalRepositoryError LocalRepository :=
  LocalRepository.atPath (e.away.contains path) path

def openChain (e : Engine) (plan : LocalChain.Plan) : Except LocalRepositoryError LocalChain :=
  plan.build e.away

/-- The artifact resolved, or refused because the engine is down. -/
def resolve (e : Engine) (s : Session) (files : FileSystem) (a : Artifact)
    (rs : List RemoteRepository) : Resolution.Outcome ResolvedArtifact :=
  if e.isDown then ⟨files, [], .error .shutDown⟩ else Resolution.resolve s files a rs

theorem resolve_of_down {e : Engine} (hdown : e.isDown = true) (s : Session) (files : FileSystem)
    (a : Artifact) (rs : List RemoteRepository) :
    e.resolve s files a rs = ⟨files, [], .error .shutDown⟩ := by
  unfold resolve
  rw [hdown]
  exact if_pos rfl

theorem resolve_of_up {e : Engine} (hup : e.isDown = false) (s : Session) (files : FileSystem)
    (a : Artifact) (rs : List RemoteRepository) :
    e.resolve s files a rs = Resolution.resolve s files a rs := by
  unfold resolve
  rw [hup]
  exact if_neg Bool.false_ne_true

end Engine

end Depot
