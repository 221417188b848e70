import Depot.Context.World
import Depot.Proofs.Succeeding

/-! How a context comes about. Assembling one first finds its ground, the settings that apply and
the local chain; only that can fail, and the repositories and the mode of the overrides have no part
in it. Deriving one is refused exactly when the context is over, and fails otherwise only where the
other local repository cannot be opened; what is derived shares the engine and does not own it. -/

namespace Depot.Context

/-- What a context is assembled on: the settings that apply and the local chain. -/
def ground (host : Host) (files : FileSystem) (p : Provider) (engine : Engine) (o : Overrides) :
    Except ContextError (ResolvedSettings × LocalChain) := do
  let resolved ← (p.resolver.resolve host files o).mapError .settings
  let effective := o.systemProperties.overlay (userProperties o resolved)
  let some path := localRepositoryPath? host o resolved effective
    | .error .localRepositoryUnknown
  let chain ← (engine.openChain (.ofProperties path effective)).mapError .localRepository
  return (resolved, chain)

/-- The context that stands on its ground. -/
def onGround (p : Provider) (engineNumber number : Nat) (o : Overrides)
    (resolved : ResolvedSettings) (chain : LocalChain) : Context :=
  { provider := p
    session := sessionOver o resolved chain
    overrides := o
    mount := .opened number
    engine := engineNumber
    repositories := (sessionOver o resolved chain).selectors.aggregate
      (Listing.compose (discovered resolved) o.repositories o.mode)
    activeProfiles := resolved.activeProfileIds
    ownsEngine := true }

theorem assemble_eq (host : Host) (files : FileSystem) (p : Provider) (engineNumber : Nat)
    (engine : Engine) (number : Nat) (o : Overrides) :
    assemble host files p engineNumber engine number o =
      (ground host files p engine o).map fun (resolved, chain) =>
        onGround p engineNumber number o resolved chain := by
  unfold assemble ground
  cases (p.resolver.resolve host files o).mapError ContextError.settings with
  | error cause => rfl
  | ok resolved =>
    simp only [bind, Except.bind]
    cases localRepositoryPath? host o resolved
        (o.systemProperties.overlay (userProperties o resolved)) with
    | none => rfl
    | some path =>
      simp only
      cases (engine.openChain (.ofProperties path
          (o.systemProperties.overlay (userProperties o resolved)))).mapError
          ContextError.localRepository <;> rfl

/-- The repositories of the overrides and how they join the others do not bear on the ground. -/
theorem ground_repositories (host : Host) (files : FileSystem) (p : Provider) (engine : Engine)
    (o : Overrides) (repositories : List RemoteRepository) (mode : Listing.Mode) :
    ground host files p engine { o with repositories, mode } = ground host files p engine o :=
  rfl

/-- The ground is found when settings apply, a local repository is named, and its chain opens. -/
theorem ground_eq_ok_iff {host : Host} {files : FileSystem} {p : Provider} {engine : Engine}
    {o : Overrides} {resolved : ResolvedSettings} {chain : LocalChain} :
    ground host files p engine o = .ok (resolved, chain) ↔
      p.resolver.resolve host files o = .ok resolved ∧
        ∃ path, localRepositoryPath? host o resolved
            (o.systemProperties.overlay (userProperties o resolved)) = some path ∧
          engine.openChain (.ofProperties path
            (o.systemProperties.overlay (userProperties o resolved))) = .ok chain := by
  simp only [ground, Succeeding.bind_eq_ok, Succeeding.mapError_eq_ok]
  constructor
  · rintro ⟨found, hfound, h⟩
    split at h
    · rename_i path hpath
      obtain ⟨opened, hopened, h⟩ := Succeeding.bind_eq_ok.mp h
      cases h
      exact ⟨hfound, path, hpath, Succeeding.mapError_eq_ok.mp hopened⟩
    · cases h
  · rintro ⟨hresolved, path, hpath, hopened⟩
    refine ⟨resolved, hresolved, ?_⟩
    simp only [hpath]
    exact Succeeding.bind_eq_ok.mpr ⟨chain, Succeeding.mapError_eq_ok.mpr hopened, rfl⟩

/-- Settings that hold up the ground are those that apply. -/
theorem resolve_of_ground {host : Host} {files : FileSystem} {p : Provider} {engine : Engine}
    {o : Overrides} {resolved : ResolvedSettings} {chain : LocalChain}
    (h : ground host files p engine o = .ok (resolved, chain)) :
    p.resolver.resolve host files o = .ok resolved :=
  (ground_eq_ok_iff.mp h).1

/-! ### Deriving -/

theorem customize_of_over {c : Context} {engine : Engine} (h : c.isOver engine = true)
    (number : Nat) (o : Overrides) :
    c.customize engine number o = .error (.released c.provider.name) := by
  rw [customize, if_pos h]

/-- The context that is derived over the same engine once the local chain is chosen. -/
def derived (c : Context) (number : Nat) (o : Overrides) (switched : Option LocalChain) :
    Context :=
  { c with
    session := { sessionUnder c.session o with
      localChain := switched.getD (sessionUnder c.session o).localChain }
    overrides := o
    mount := if switched.isSome then .opened number else c.mount
    repositories := Listing.compose c.repositories
      (c.session.selectors.aggregate o.repositories) o.mode
    ownsEngine := false
    released := false }

theorem customize_of_open {c : Context} {engine : Engine} (h : c.isOver engine = false)
    (number : Nat) (o : Overrides) :
    c.customize engine number o =
      (c.switchedChain engine o (sessionUnder c.session o)).map (c.derived number o) := by
  rw [customize, if_neg (by simp [h])]
  dsimp only
  cases c.switchedChain engine o (sessionUnder c.session o) <;> rfl

theorem customize_eq_ok_iff {c d : Context} {engine : Engine} {number : Nat} {o : Overrides} :
    c.customize engine number o = .ok d ↔ c.isOver engine = false ∧
      ∃ switched, c.switchedChain engine o (sessionUnder c.session o) = .ok switched ∧
        c.derived number o switched = d := by
  cases hover : c.isOver engine with
  | true =>
    rw [customize_of_over hover]
    simp
  | false =>
    rw [customize_of_open hover, Succeeding.map_eq_ok]
    simp

/-- The chain is switched when the overrides name another local repository than the context has, and
then it is the one that is opened there. -/
theorem switchedChain_eq_ok_iff {c : Context} {engine : Engine} {o : Overrides} {s : Session}
    {switched : Option LocalChain} : c.switchedChain engine o s = .ok switched ↔
      (switched = none ∧
        ∀ path, o.localRepository = some path → path.sameAs c.localRepository = true) ∨
      ∃ path chain, switched = some chain ∧ o.localRepository = some path ∧
        path.sameAs c.localRepository = false ∧
        engine.openChain (.ofProperties path (s.systemProperties.overlay s.userProperties)) =
          .ok chain := by
  unfold switchedChain
  constructor
  · intro h
    split at h
    · rename_i path hpath
      split at h
      · rename_i hsame
        obtain rfl := Except.ok.inj h
        refine .inl ⟨rfl, fun other hother => ?_⟩
        obtain rfl := Option.some.inj (hpath.symm.trans hother)
        exact hsame
      · rename_i hother
        obtain ⟨chain, hchain, rfl⟩ :=
          Succeeding.map_eq_ok.mp (Succeeding.mapError_eq_ok.mp h)
        exact .inr ⟨path, chain, rfl, hpath, eq_false_of_ne_true hother, hchain⟩
    · rename_i hnone
      obtain rfl := Except.ok.inj h
      refine .inl ⟨rfl, fun path hpath => ?_⟩
      rw [hnone] at hpath
      cases hpath
  · rintro (⟨rfl, hkept⟩ | ⟨path, chain, rfl, hpath, hother, hchain⟩)
    · cases hpath : o.localRepository with
      | none => rfl
      | some path => simp only [hkept path hpath, if_true]
    · simp only [hpath, hother, hchain]
      rfl

/-- Switching fails only where the other local repository cannot be opened. -/
theorem switchedChain_ne_released (c : Context) (engine : Engine) (o : Overrides) (s : Session)
    (name : String) : c.switchedChain engine o s ≠ .error (.released name) := by
  have hopened (opened : Except LocalRepositoryError (Option LocalChain)) :
      opened.mapError ContextError.localRepository ≠ .error (.released name) := by
    cases opened <;> (intro h; cases h)
  unfold switchedChain
  split
  · split
    · simp
    · exact hopened _
  · simp

/-- A context refuses to be customized exactly when it is over. -/
theorem customize_released_iff (c : Context) (engine : Engine) (number : Nat) (o : Overrides) :
    (∃ name, c.customize engine number o = .error (.released name)) ↔
      c.isOver engine = true := by
  cases hover : c.isOver engine with
  | true => exact ⟨fun _ => rfl, fun _ => ⟨c.provider.name, customize_of_over hover number o⟩⟩
  | false =>
    refine ⟨fun ⟨name, h⟩ => ?_, nofun⟩
    rw [customize_of_open hover] at h
    cases hs : c.switchedChain engine o (sessionUnder c.session o) with
    | error cause =>
      rw [hs] at h
      cases h
      exact absurd hs (switchedChain_ne_released c engine o _ name)
    | ok switched =>
      rw [hs] at h
      cases h

/-- What is derived shares the engine, does not own it and is not released. -/
theorem of_customize {c d : Context} {engine : Engine} {number : Nat} {o : Overrides}
    (h : c.customize engine number o = .ok d) :
    d.engine = c.engine ∧ d.ownsEngine = false ∧ d.released = false := by
  obtain ⟨-, switched, -, rfl⟩ := customize_eq_ok_iff.mp h
  exact ⟨rfl, rfl, rfl⟩

/-- Overrides that name no other local repository keep the chain. -/
theorem switchedChain_of_kept {c : Context} {o : Overrides}
    (h : ∀ path, o.localRepository = some path → path.sameAs c.localRepository = true)
    (engine : Engine) (s : Session) : c.switchedChain engine o s = .ok none :=
  switchedChain_eq_ok_iff.mpr (.inl ⟨rfl, h⟩)

end Depot.Context
