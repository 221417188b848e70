import Depot.Listener
import Depot.LocalRepository.Chain
import Depot.Selection.Aggregation

/-! A session: everything that a resolution goes by apart from the artifact and the repositories. A
property is looked up among the user's first, then in the configuration, then among the system's. -/

namespace Depot

structure Session where
  offline : Bool := false
  localChain : LocalChain
  checksum : Option ChecksumPolicy := none
  update : Option UpdatePolicy := none
  systemProperties : Properties := .empty
  userProperties : Properties := .empty
  configProperties : Properties := .empty
  selectors : Selectors := {}
  transferListener : Option Listener := none
  repositoryListener : Option Listener := none

namespace Session

def property? (s : Session) (name : String) : Option String :=
  ((s.userProperties.get? name).or (s.configProperties.get? name)).or
    (s.systemProperties.get? name)

/-- What arrives where when an event of the session is sent. -/
def deliver (s : Session) (event : Event) : List Delivery :=
  match event with
  | .repository _ => Listener.deliver s.repositoryListener event
  | .transfer _ => Listener.deliver s.transferListener event

/-- The session as diagnostics show it. -/
def render (s : Session) : String :=
  Text.openRecord "Session" [
    ("offline", Text.truth s.offline),
    ("local_repository", s.localChain.baseDirectory.render),
    ("checksum_policy", Text.optional (s.checksum.map ChecksumPolicy.render)),
    ("update_policy", Text.optional (s.update.map UpdatePolicy.render)),
    ("user_properties", s.userProperties.render),
    ("transfer_listener", Text.truth s.transferListener.isSome),
    ("repository_listener", Text.truth s.repositoryListener.isSome)]

end Session

end Depot
