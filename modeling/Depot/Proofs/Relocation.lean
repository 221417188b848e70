import Depot.Proofs.Layering
import Depot.Proofs.Opening

/-! Where the local repository of a context is. A context is created at the path that its overrides
name, whatever the settings say, and what descends from it is at the path that was named last. A
derivation opens another chain only for another path, compared component by component
(`Context.chain_of_customize`), and never one at the empty path, which no context can be moved to:
it has no components, and the path of every context has some (`World.Placed.run`). -/

namespace Depot

namespace Path

theorem sameAs_iff {p q : Path} : p.sameAs q = true ↔ p.components = q.components := by
  simp [sameAs]

theorem of_inner_eq_none {part : String} (h : inner part = none) : part = "" ∨ part = "." := by
  unfold inner at h
  split at h <;> simp_all

/-- Only the empty path has no components. -/
theorem components_ne_nil {p : Path} (h : p.text ≠ "") : p.components ≠ [] := by
  intro hnil
  obtain ⟨hstart, hinner⟩ := List.append_eq_nil_iff.mp hnil
  have habsolute : p.isAbsolute = false := by
    by_contra habsolute
    rw [if_pos (by simpa using habsolute)] at hstart
    cases hstart
  have hdot : (Text.pieces '/' p.text).head? ≠ some "." := by
    intro hdot
    rw [habsolute, if_neg Bool.false_ne_true, if_pos (by simpa using hdot)] at hstart
    cases hstart
  cases hchars : p.text.toList with
  | nil => exact h (by simpa using hchars)
  | cons c rest =>
    have hslash : c ≠ '/' := by
      rintro rfl
      simp [isAbsolute, hchars] at habsolute
    -- The first part begins with a character that is no slash.
    obtain ⟨first, parts, hparts⟩ : ∃ first parts,
        Text.pieces '/' p.text = String.ofList (c :: first) :: parts := by
      rw [Text.pieces, hchars, List.splitOn_eq_splitOnP, List.splitOnP_cons_eq_if_modifyHead,
        if_neg (by simpa using hslash)]
      cases hrest : List.splitOnP (· == '/') rest with
      | nil => exact absurd hrest (List.splitOnP_ne_nil _ _)
      | cons first parts => exact ⟨first, parts.map String.ofList, rfl⟩
    rw [hparts] at hdot hinner
    have hnone : inner (String.ofList (c :: first)) = none :=
      List.filterMap_eq_nil_iff.mp hinner _ List.mem_cons_self
    rcases of_inner_eq_none hnone with hempty | hcurrent
    · simpa using congrArg String.toList hempty
    · exact hdot (congrArg some hcurrent)

end Path

/-- The user's properties laid over the system's. -/
def Session.effectiveProperties (s : Session) : Properties :=
  s.systemProperties.overlay s.userProperties

namespace Context

/-- A derivation keeps the chain when its overrides name no other path than the parent has, and else
opens the one that the child's own properties describe. -/
theorem chain_of_customize {c d : Context} {engine : Engine} {number : Nat} {o : Overrides}
    (h : c.customize engine number o = .ok d) :
    (d.session.localChain = c.session.localChain ∧
      ∀ path, o.localRepository = some path → path.sameAs c.localRepository = true) ∨
    ∃ path, o.localRepository = some path ∧ path.sameAs c.localRepository = false ∧
      engine.openChain (.ofProperties path d.session.effectiveProperties) =
        .ok d.session.localChain := by
  obtain ⟨-, switched, hswitched, rfl⟩ := customize_eq_ok_iff.mp h
  rcases switchedChain_eq_ok_iff.mp hswitched with
    ⟨rfl, hkept⟩ | ⟨path, chain, rfl, hpath, hother, hopened⟩
  · exact .inl ⟨rfl, hkept⟩
  · exact .inr ⟨path, hpath, hother, hopened⟩

theorem localRepository_of_openChain {c : Context} {engine : Engine} {path : Path} {p : Properties}
    (h : engine.openChain (.ofProperties path p) = .ok c.session.localChain) :
    path.text ≠ "" ∧ c.localRepository = path := by
  obtain ⟨hfilled, hchain⟩ := Engine.openChain_ofProperties.mp h
  refine ⟨hfilled, ?_⟩
  rw [localRepository, hchain]
  rfl

/-- The path at which a context is that descends from this one by the overrides. -/
def localRepositoryUnder (c : Context) (os : List Overrides) : Path :=
  (Overrides.last? (·.localRepository) os).getD c.localRepository

theorem localRepositoryUnder_concat (c : Context) (os : List Overrides) (o : Overrides) :
    c.localRepositoryUnder (os ++ [o]) = o.localRepository.getD (c.localRepositoryUnder os) := by
  rw [localRepositoryUnder, Overrides.last?_concat]
  cases o.localRepository <;> rfl

/-- What is derived is at the path that its overrides name, else where its parent is. -/
theorem components_of_customize {c d : Context} {engine : Engine} {number : Nat} {o : Overrides}
    (h : c.customize engine number o = .ok d) :
    d.localRepository.components = (o.localRepository.getD c.localRepository).components := by
  rcases chain_of_customize h with ⟨hchain, hkept⟩ | ⟨path, hpath, -, hopened⟩
  · have hsame : d.localRepository = c.localRepository := by
      rw [localRepository, hchain]
      rfl
    rw [hsame]
    cases hpath : o.localRepository with
    | none => rfl
    | some path => exact (Path.sameAs_iff.mp (hkept path hpath)).symm
  · rw [(localRepository_of_openChain hopened).2, hpath]
    rfl

theorem text_ne_empty_of_customize {c d : Context} (hplaced : c.localRepository.text ≠ "")
    {engine : Engine} {number : Nat} {o : Overrides} (h : c.customize engine number o = .ok d) :
    d.localRepository.text ≠ "" := by
  rcases chain_of_customize h with ⟨hchain, -⟩ | ⟨path, -, -, hopened⟩
  · rw [localRepository, hchain]
    exact hplaced
  · obtain ⟨hfilled, hpath⟩ := localRepository_of_openChain hopened
    rwa [hpath]

/-- No context is moved to the empty path. -/
theorem customize_of_empty {c : Context} (hplaced : c.localRepository.text ≠ "") {o : Overrides}
    (hempty : o.localRepository = some ⟨""⟩) (engine : Engine) (number : Nat) :
    ∃ cause, c.customize engine number o = .error cause := by
  cases h : c.customize engine number o with
  | error cause => exact ⟨cause, rfl⟩
  | ok d =>
    have hcomponents : d.localRepository.components = [] := by
      rw [components_of_customize h, hempty]
      rfl
    exact absurd hcomponents (Path.components_ne_nil (text_ne_empty_of_customize hplaced h))

/-- A context stands at the path of its ground, which is that of the overrides if they name one. -/
theorem localRepository_of_ground {host : Host} {files : FileSystem} {p : Provider}
    {engine : Engine} {o : Overrides} {resolved : ResolvedSettings} {chain : LocalChain}
    (h : ground host files p engine o = .ok (resolved, chain)) (engineNumber number : Nat) :
    (onGround p engineNumber number o resolved chain).localRepository.text ≠ "" ∧
      ∀ path, o.localRepository = some path →
        (onGround p engineNumber number o resolved chain).localRepository = path := by
  obtain ⟨-, found, hfound, hopened⟩ := ground_eq_ok_iff.mp h
  obtain ⟨hfilled, hat⟩ := localRepository_of_openChain
    (c := onGround p engineNumber number o resolved chain) hopened
  rw [hat]
  refine ⟨hfilled, fun path hpath => ?_⟩
  rw [localRepositoryPath?, hpath] at hfound
  exact (Option.some.inj hfound).symm

end Context

/-- The session that a host lends has its local repository somewhere. -/
def Provider.LendsPlaced (p : Provider) : Prop :=
  ∀ engine session repositories, p.engines = .host engine session repositories →
    session.localChain.baseDirectory.text ≠ ""

/-- So it has when the session's chain was opened by an engine, whatever engine that was. -/
theorem Provider.lendsPlaced_of_opened {p : Provider}
    (h : ∀ engine session repositories, p.engines = .host engine session repositories →
      ∃ (e : Engine) (plan : LocalChain.Plan), e.openChain plan = .ok session.localChain) :
    p.LendsPlaced := by
  intro engine session repositories hlends
  obtain ⟨e, plan, hopened⟩ := h engine session repositories hlends
  obtain ⟨hfilled, -, hchain⟩ := LocalChain.Plan.build_eq_ok_iff.mp hopened
  rw [hchain]
  exact hfilled

namespace World

def Action.LendsPlaced : Action → Prop
  | create p _ => p.LendsPlaced
  | _ => True

/-- Every context has its local repository somewhere. -/
def Placed (w : World) : Prop :=
  ∀ number c, w.context? number = some c → c.localRepository.text ≠ ""

theorem Origin.placed {w : World} (hplaced : w.Placed) {a : Action} (hlent : a.LendsPlaced)
    {c : Context} (h : w.Origin a c) : c.localRepository.text ≠ "" := by
  cases h with
  | assembled boots assembles =>
    obtain ⟨resolved, chain, hground, rfl⟩ := Context.onGround_of_assemble assembles
    exact (Context.localRepository_of_ground hground _ _).1
  | lent lends customizes =>
    exact Context.text_ne_empty_of_customize (hlent _ _ _ lends) customizes
  | derived found customizes =>
    exact Context.text_ne_empty_of_customize (hplaced _ _ found) customizes

theorem Placed.act {w : World} (h : w.Placed) {a : Action} (hlent : a.LendsPlaced) :
    (w.act a).Placed := by
  intro number c hc
  obtain ⟨-, hnumber⟩ | ⟨b, hold, rfl⟩ := (act_step w a).context?_cases hc
  · obtain ⟨made, hmade, horigin⟩ := origin_of_made hnumber
    obtain rfl := Option.some.inj (hc.symm.trans hmade)
    exact horigin.placed h hlent
  · exact h number b hold

theorem Placed.run {w : World} (h : w.Placed) {actions : List Action}
    (hlent : ∀ a ∈ actions, a.LendsPlaced) : (w.run actions).Placed := by
  induction actions generalizing w with
  | nil => exact h
  | cons a rest ih =>
    obtain ⟨ha, hrest⟩ := List.forall_mem_cons.mp hlent
    exact ih (h.act ha) hrest

/-- A managed context is created at a path that the overrides name exactly when the path is not
empty, an engine is booted and settings apply. -/
theorem create_at_iff {w : World} {p : Provider} (hmanaged : p.isManaged = true) {o : Overrides}
    {path : Path} (hpath : o.localRepository = some path) :
    (∃ number, (w.create p o).1 = .ok number) ↔ path.text ≠ "" ∧ p.boots?.isSome = true ∧
      ∃ resolved, p.resolver.resolve w.host w.files o = .ok resolved := by
  constructor
  · rintro ⟨number, hcreate⟩
    obtain ⟨e, resolved, chain, hboots, hground, -⟩ := created_ground hmanaged hcreate
    obtain ⟨hfilled, hat⟩ := Context.localRepository_of_ground hground 0 0
    rw [hat path hpath] at hfilled
    exact ⟨hfilled, by rw [hboots]; rfl, resolved, Context.resolve_of_ground hground⟩
  · rintro ⟨hfilled, hboots, resolved, hresolved⟩
    obtain ⟨e, hboots⟩ := Option.isSome_iff_exists.mp hboots
    have hground := Context.ground_eq_ok_iff.mpr ⟨hresolved, path,
      by rw [Context.localRepositoryPath?, hpath]; rfl,
      (Engine.openChain_ofProperties (e := e)).mpr ⟨hfilled, rfl⟩⟩
    exact ⟨w.contexts.length, by rw [create_onGround hboots hground]⟩

/-- What holds of the local repositories of all contexts. -/
structure LocalRepositoriesKept (w : World) : Prop where
  /-- A managed context is at the path that its overrides name, whatever the settings say; with a
  path that is not empty only a missing engine or faulty settings keep it from being created. -/
  created : ∀ p o path, p.isManaged = true → o.localRepository = some path → path.text ≠ "" →
    ((∃ number, (w.create p o).1 = .ok number) ↔ p.boots?.isSome = true ∧
      ∃ resolved, p.resolver.resolve w.host w.files o = .ok resolved) ∧
    ∀ number, (w.create p o).1 = .ok number →
      ∃ c, (w.create p o).2.context? number = some c ∧ c.localRepository = path
  /-- What descends from a context is at the path that was named last, else where that one is. -/
  descended : ∀ root r, w.context? root = some r → ∀ actions os number,
    w.Descends root actions os number → ∃ c, (w.run actions).context? number = some c ∧
      c.localRepository.sameAs (r.localRepositoryUnder os) = true
  /-- No context is created at the empty path, neither a managed one nor one of a host that has its
  own local repository somewhere. -/
  nowhere : ∀ p o, p.LendsPlaced → o.localRepository = some ⟨""⟩ →
    ∃ cause, (w.create p o).1 = .error cause
  /-- Nor is one derived at the empty path, in any run in which hosts have their local repositories
  somewhere. -/
  unmoved : w.Placed → ∀ actions, (∀ a ∈ actions, a.LendsPlaced) → ∀ number c o,
    (w.run actions).context? number = some c → o.localRepository = some ⟨""⟩ →
    ∃ cause, (w.run actions).customize number o = some (.error cause, w.run actions)

theorem create_of_empty (w : World) {p : Provider} (hlent : p.LendsPlaced) {o : Overrides}
    (hempty : o.localRepository = some ⟨""⟩) : ∃ cause, (w.create p o).1 = .error cause := by
  cases hp : p.engines with
  | host engine session repositories =>
    obtain ⟨cause, hcustomize⟩ := Context.customize_of_empty
      (c := Context.hosted w.host p engine session repositories) (hlent _ _ _ hp) hempty
      (w.engine engine) w.contexts.length
    refine ⟨cause, ?_⟩
    simp only [create, hp, hcustomize]
    rfl
  | _ =>
    have hmanaged : p.isManaged = true := by rw [Provider.isManaged, hp]; rfl
    cases hcreate : (w.create p o).1 with
    | error cause => exact ⟨cause, rfl⟩
    | ok number =>
      obtain ⟨hfilled, -⟩ := (create_at_iff hmanaged hempty).mp ⟨number, hcreate⟩
      exact absurd rfl hfilled

/-- A local repository that is named is where the context is, and stays so until another one is
named. An empty path is refused; of the hosts that lend a session of their own this asks that their
local repositories are somewhere (`Provider.LendsPlaced`), as those are that the engine opens. -/
theorem explicit_localRepository_kept (w : World) : w.LocalRepositoriesKept where
  created p o path hmanaged hpath hfilled := by
    refine ⟨(create_at_iff hmanaged hpath).trans (and_iff_right hfilled), fun number hcreate => ?_⟩
    obtain ⟨e, resolved, chain, -, hground, hmade⟩ := created_ground hmanaged hcreate
    rw [hmade] at hcreate ⊢
    obtain rfl : w.contexts.length = number := Except.ok.inj hcreate
    exact ⟨_, context?_addContext _ _, (Context.localRepository_of_ground hground _ _).2 path hpath⟩
  descended root r hr actions os number hdescends := by
    obtain ⟨c, hc, -, hat⟩ := hdescends.context_of_customize hr
      (P := fun os c => c.localRepository.components = (r.localRepositoryUnder os).components)
      rfl (fun os c released h => h) fun os c before child o d h hd => by
        rw [Context.components_of_customize hd, Context.localRepositoryUnder_concat]
        cases o.localRepository with
        | none => exact h
        | some path => rfl
    exact ⟨c, hc, Path.sameAs_iff.mpr hat⟩
  nowhere p o hlent hempty := w.create_of_empty hlent hempty
  unmoved hplaced actions hlent number c o hc hempty := by
    obtain ⟨cause, hcustomize⟩ := Context.customize_of_empty ((hplaced.run hlent) number c hc) hempty
      ((w.run actions).engine c.engine) (w.run actions).contexts.length
    refine ⟨cause, ?_⟩
    rw [customize, hc, Option.map_some, hcustomize]
    rfl

/-- Another path, overrides that name none, and the same path in other words. -/
def moves : List Action :=
  [.customize 0 (small.overridesAt "/other"),
    .customize 1 { small.overridesAt "/other" with localRepository := none },
    .customize 2 (small.overridesAt "//other/.")]

/-- The context is where the last of them but one puts it, and cannot be moved to nowhere. -/
theorem explicit_localRepository_kept_moved :
    let w := (small.create smallProvider (small.overridesAt "/m2")).2
    (∃ c, w.context? 0 = some c ∧ c.localRepository = ⟨"/m2"⟩) ∧
      (∃ c, (w.run moves).context? 3 = some c ∧ c.localRepository.sameAs ⟨"/other"⟩ = true) ∧
      ∃ cause, (w.run moves).customize 3 (small.overridesAt "") =
        some (.error cause, w.run moves) := by
  intro w
  have hcreated := ((explicit_localRepository_kept small).created smallProvider
    (small.overridesAt "/m2") ⟨"/m2"⟩ rfl rfl (by decide)).2 0 rfl
  obtain ⟨r, hr, hat⟩ := hcreated
  have hfirst : w.Descends 0 [.customize 0 (small.overridesAt "/other")]
      [small.overridesAt "/other"] 1 := Descends.root.customize rfl
  have hthen := hfirst.customize (show (World.run _ _).made?
    (.customize 1 { small.overridesAt "/other" with localRepository := none }) = some 2 from rfl)
  have hlast := hthen.customize (show (World.run _ _).made?
    (.customize 2 (small.overridesAt "//other/.")) = some 3 by decide)
  obtain ⟨c, hc, hsame⟩ := (explicit_localRepository_kept w).descended 0 r hr moves _ 3 hlast
  refine ⟨⟨r, hr, hat⟩, ⟨c, hc, ?_⟩, ?_⟩
  · have hwords : Path.components ⟨"//other/."⟩ = Path.components ⟨"/other"⟩ := by decide
    rw [Context.localRepositoryUnder_concat] at hsame
    exact Path.sameAs_iff.mpr ((Path.sameAs_iff.mp hsame).trans hwords)
  · have hplaced : w.Placed := by
      apply Placed.act (a := .create smallProvider (small.overridesAt "/m2"))
      · exact fun number c hnone => nomatch hnone
      · exact fun engine session repositories hlends => nomatch hlends
    exact (explicit_localRepository_kept w).unmoved hplaced moves
      (by simp [moves, Action.LendsPlaced]) 3 c (small.overridesAt "") hc rfl

end World

end Depot
