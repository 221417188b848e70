import Depot.Context.Error
import Depot.Engine
import Depot.Settings.Resolved

/-! Providers of contexts, one for each surrounding. A provider boots an engine of its own for each
context, from the first of several factories that works or from a single one; or it lends the engine
of its host, together with a session and repositories. A provider that boots its engines is
managed. -/

namespace Depot

/-- What a factory answers whenever it is called: a new engine, or an error. -/
abbrev EngineFactory := Except ContextError Engine

/-- Factories by name, in the order in which they are tried. -/
structure Factories where
  factories : List (String × EngineFactory) := []

namespace Factories

instance : Inhabited Factories := ⟨{}⟩

def names (f : Factories) : List String :=
  f.factories.map (·.1)

/-- The engine of the first factory that works, with the factory's name. -/
def lookup (f : Factories) : Except ContextError (String × Engine) :=
  match f.factories.findSome? fun (name, factory) => factory.toOption.map (name, ·) with
  | some found => .ok found
  | none => .error (.noEngine f.names)

/-- The factories that a lookup calls: those that fail, up to the first that works. -/
def called (f : Factories) : List String :=
  go f.factories
where
  go : List (String × EngineFactory) → List String
    | [] => []
    | (name, .ok _) :: _ => [name]
    | (name, .error _) :: rest => name :: go rest

/-- The factories as diagnostics show them. -/
def render (f : Factories) : String :=
  Text.record "ComponentContainer" [("factories", Text.listed (f.names.map Text.quoted))]

end Factories

/-- How a provider comes by an engine. -/
inductive EngineSource where
  /-- The engine of this number, which is the host's, with the host's session and repositories. -/
  | host (engine : Nat) (session : Session) (repositories : List RemoteRepository)
  | container (factories : Factories)
  | static (factory : EngineFactory)

namespace EngineSource

def isManaged : EngineSource → Bool
  | host .. => false
  | container _ | static _ => true

/-- The source as diagnostics show it. -/
def render : EngineSource → String
  | host .. => "host"
  | container factories => Text.wrapped "Container" factories.render
  | static _ => "static"

end EngineSource

structure Provider where
  name : String
  /-- The lower, the sooner it is chosen. -/
  priority : Int := 0
  engines : EngineSource
  resolver : SettingsResolver := {}

namespace Provider

def isManaged (p : Provider) : Bool :=
  p.engines.isManaged

/-- The provider as diagnostics of a registry show it. -/
def render (p : Provider) : String :=
  Text.record "Runtime" [
    ("name", Text.quoted p.name),
    ("priority", toString p.priority),
    ("managed", Text.truth p.isManaged)]

/-- The provider with all that it is made of, as diagnostics show it. -/
def renderWhole (p : Provider) : String :=
  Text.record "StandardRuntime" [
    ("name", Text.quoted p.name),
    ("priority", toString p.priority),
    ("strategy", p.engines.render),
    ("settings_resolver", p.resolver.render)]

end Provider

end Depot
