import Depot.Context.Basic

/-! A world in which contexts come and go: the host, the file system, every engine that was ever
booted and every context that was ever made, by number, and what the listeners have been told.
Engines are booted for contexts that will own them; if such a context cannot be assembled its engine
is shut down at once. Closing a context releases it, and shuts its engine down when the context owns
it; closing it again does nothing, and a context that is dropped is closed. -/

namespace Depot

structure World where
  host : Host
  files : FileSystem
  engines : List Engine := []
  contexts : List Context := []
  deliveries : List Delivery := []

namespace World

/-- The engine of a number; one that does not exist counts as one that was never started. -/
def engine (w : World) (number : Nat) : Engine :=
  w.engines.getD number {}

def context? (w : World) (number : Nat) : Option Context :=
  w.contexts[number]?

def shutDownEngine (w : World) (number : Nat) : World :=
  { w with engines := w.engines.modify number Engine.shutDown }

def addEngine (w : World) (e : Engine) : World :=
  { w with engines := w.engines ++ [e] }

def addContext (w : World) (c : Context) : World :=
  { w with contexts := w.contexts ++ [c] }

/-- The context that a result holds, added under the next number, or the error. -/
def settle (w : World) : Except ContextError Context → Except ContextError Nat × World
  | .ok c => (.ok w.contexts.length, w.addContext c)
  | .error e => (.error e, w)

/-- A new context around the engine that was booted for it, if one was. An engine whose context
cannot be assembled is shut down. -/
def createAround (w : World) (p : Provider) (o : Overrides) :
    Except ContextError Engine → Except ContextError Nat × World
  | .error e => (.error e, w)
  | .ok e =>
    let number := w.engines.length
    let booted := w.addEngine e
    match Context.assemble w.host w.files p number e w.contexts.length o with
    | .ok c => booted.settle (.ok c)
    | .error failure => (.error failure, booted.shutDownEngine number)

/-- A new context of a provider: its number, or why there is none. -/
def create (w : World) (p : Provider) (o : Overrides) : Except ContextError Nat × World :=
  match p.engines with
  | .host engine session repositories =>
    let hosted := Context.hosted w.host p engine session repositories
    w.settle (hosted.customize (w.engine engine) w.contexts.length o)
  | .container factories => w.createAround p o (factories.lookup.map (·.2))
  | .static factory => w.createAround p o factory

/-- A context derived from the one of a number; none when there is no such context. -/
def customize (w : World) (number : Nat) (o : Overrides) :
    Option (Except ContextError Nat × World) :=
  (w.context? number).map fun c =>
    w.settle (c.customize (w.engine c.engine) w.contexts.length o)

/-- An artifact resolved in a context, with the files and the deliveries that this leaves. -/
def resolveIn (w : World) (c : Context) (a : Artifact) :
    Except ContextError ResolvedArtifact × World :=
  let e := w.engine c.engine
  if c.isOver e then (.error (.released c.provider.name), w)
  else
    let outcome := e.resolve c.session w.files a c.repositories
    (outcome.result.mapError .resolution,
      { w with
        files := outcome.files
        deliveries := w.deliveries ++ outcome.events.flatMap c.session.deliver })

def resolve (w : World) (number : Nat) (a : Artifact) :
    Option (Except ContextError ResolvedArtifact × World) :=
  (w.context? number).map (w.resolveIn · a)

/-- The world in which the context of a number is released. -/
def release (w : World) (number : Nat) : World :=
  { w with contexts := w.contexts.modify number ({ · with released := true }) }

def close (w : World) (number : Nat) : World :=
  match w.context? number with
  | none => w
  | some c =>
    if c.released then w
    else
      let released := w.release number
      if c.ownsEngine then released.shutDownEngine c.engine else released

/-- What is done with contexts. -/
inductive Action where
  | create (provider : Provider) (o : Overrides)
  | customize (context : Nat) (o : Overrides)
  | resolve (context : Nat) (a : Artifact)
  | close (context : Nat)
  | drop (context : Nat)

/-- The world after an action; what is done with a context that does not exist changes nothing. -/
def act (w : World) : Action → World
  | .create provider o => (w.create provider o).2
  | .customize context o => ((w.customize context o).map (·.2)).getD w
  | .resolve context a => ((w.resolve context a).map (·.2)).getD w
  | .close context => w.close context
  | .drop context => w.close context

def run (w : World) (actions : List Action) : World :=
  actions.foldl act w

end World

end Depot
