import Depot.Artifact

/-! What is told about a resolution, and to whom. Repository events say that an artifact is being
resolved and has been, transfer events follow one file from one repository. A listener that is added
to another is told after it, so a chain of any shape comes down to the recorders in it from left to
right. -/

namespace Depot

/-- What happens to an artifact that is asked for. -/
inductive RepositoryEvent where
  | resolving (artifact : Artifact)
  | resolved (artifact : Artifact) (repository : String) (file : Option Path)
deriving DecidableEq, Repr

/-- What happens to a file that is fetched. -/
inductive TransferEvent where
  | initiated (repository resource : String)
  | succeeded (repository resource : String) (bytes : Nat)
  | failed (repository resource message : String)
deriving DecidableEq, Repr

inductive Event where
  | repository (event : RepositoryEvent)
  | transfer (event : TransferEvent)
deriving DecidableEq, Repr

/-- An event as it reached the recorder of this name. -/
structure Delivery where
  recorder : String
  event : Event
deriving DecidableEq, Repr

/-- Who is told: nobody, one recorder, or all that the first and then all that the second tells. -/
inductive Listener where
  | silent
  | recorder (name : String)
  | both (first second : Listener)
deriving DecidableEq, Repr

namespace Listener

/-- The recorders that are told, in order. -/
def recorders : Listener → List String
  | silent => []
  | recorder name => [name]
  | both first second => first.recorders ++ second.recorders

/-- The listener told after the one that is there already. -/
def after (existing : Option Listener) (added : Listener) : Listener :=
  match existing with
  | some first => both first added
  | none => added

def group (listeners : List Listener) : Listener :=
  listeners.foldr both silent

/-- What arrives where when the event is sent. -/
def deliver (l : Option Listener) (event : Event) : List Delivery :=
  match l with
  | some l => l.recorders.map (⟨·, event⟩)
  | none => []

end Listener

end Depot
