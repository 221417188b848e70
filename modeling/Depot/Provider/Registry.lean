import Depot.Provider.Basic

/-! The registry of providers. Providers are listed by priority, those of equal priority in the
order of their registration, and each name once: a later provider of the same name is ignored.
Sources can offer more. They are consulted, all of them once and in order, when a provider is asked
for and none is listed, unless they have been consulted already since the last source was added or
the registry was reset. A reset forgets the providers and keeps the sources. -/

namespace Depot

/-- A source of providers. -/
structure ProviderSource where
  label : String
  /-- What it offers, by the number of calls of sources before. -/
  offers : Nat → List Provider

structure Registry where
  providers : List Provider := []
  /-- The names that are taken. -/
  taken : List String := []
  sources : List ProviderSource := []
  /-- Whether the sources have been consulted and there is nothing new to ask them. -/
  discovered : Bool := false
  /-- How often the sources have been consulted. -/
  consultations : Nat := 0
  /-- The sources that have been called, one for each call and in order. -/
  calls : List ProviderSource := []

namespace Registry

instance : Inhabited Registry := ⟨{}⟩

def names (r : Registry) : List String :=
  r.providers.map (·.name)

def size (r : Registry) : Nat :=
  r.providers.length

/-- The list with the provider before the first one of greater priority. -/
def insertByPriority (provider : Provider) : List Provider → List Provider
  | [] => [provider]
  | other :: rest =>
    if other.priority > provider.priority then provider :: other :: rest
    else other :: insertByPriority provider rest

theorem insertByPriority_perm (provider : Provider) (providers : List Provider) :
    (insertByPriority provider providers).Perm (provider :: providers) := by
  induction providers with
  | nil => exact .refl _
  | cons other rest ih =>
    unfold insertByPriority
    split
    · exact .refl _
    · exact (ih.cons other).trans (.swap provider other rest)

theorem names_insertByPriority (provider : Provider) (providers : List Provider) :
    ((insertByPriority provider providers).map (·.name)).Perm
      (provider.name :: providers.map (·.name)) :=
  (insertByPriority_perm provider providers).map (·.name)

theorem mem_insertByPriority {p q : Provider} {providers : List Provider} :
    p ∈ insertByPriority q providers ↔ p = q ∨ p ∈ providers := by
  rw [(insertByPriority_perm q providers).mem_iff, List.mem_cons]

/-- The registry with the provider, and whether its name is new. -/
def register (r : Registry) (provider : Provider) : Bool × Registry :=
  if r.taken.contains provider.name then (false, r)
  else (true, { r with
    taken := provider.name :: r.taken
    providers := insertByPriority provider r.providers })

theorem register_fst (r : Registry) (provider : Provider) :
    (r.register provider).1 = !r.taken.contains provider.name := by
  unfold register
  cases r.taken.contains provider.name <;> rfl

def registerAll (r : Registry) (providers : List Provider) : Registry :=
  providers.foldl (fun r provider => (r.register provider).2) r

def addSource (r : Registry) (source : ProviderSource) : Registry :=
  { r with sources := r.sources ++ [source], discovered := false }

/-- The registry after the source has been called, with what it offers. -/
def call (r : Registry) (source : ProviderSource) : Registry :=
  { r.registerAll (source.offers r.calls.length) with calls := r.calls ++ [source] }

/-- Whether asking for a provider consults the sources. -/
def mustDiscover (r : Registry) : Bool :=
  r.providers.isEmpty && !r.discovered

/-- The registry after its sources have been consulted. -/
def discover (r : Registry) : Registry :=
  r.sources.foldl call { r with discovered := true, consultations := r.consultations + 1 }

/-- The registry after a provider has been asked for. -/
def asked (r : Registry) : Registry :=
  if r.mustDiscover then r.discover else r

/-- The provider to use, and the registry after it has been asked for. -/
def select (r : Registry) : Except ContextError Provider × Registry :=
  match r.asked.providers with
  | provider :: _ => (.ok provider, r.asked)
  | [] => (.error .noProvider, r.asked)

theorem select_snd (r : Registry) : r.select.2 = r.asked := by
  unfold select
  split <;> rfl

/-- The sources that asking for a provider calls, in order. -/
def consulted (r : Registry) : List String :=
  (r.asked.calls.drop r.calls.length).map (·.label)

def reset (r : Registry) : Registry :=
  { r with providers := [], taken := [], discovered := false }

/-- What is done with a registry. -/
inductive Action where
  | register (provider : Provider)
  | addSource (source : ProviderSource)
  | select
  | reset

def act (r : Registry) : Action → Registry
  | .register provider => (r.register provider).2
  | .addSource source => r.addSource source
  | .select => r.select.2
  | .reset => r.reset

def run (r : Registry) (actions : List Action) : Registry :=
  actions.foldl act r

/-- The registry as diagnostics show it. -/
def render (r : Registry) : String :=
  Text.openRecord "Runtimes" [("runtimes", Text.listed (r.names.map Text.quoted))]

end Registry

end Depot
