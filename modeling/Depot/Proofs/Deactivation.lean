import Depot.Proofs.Derivation
import Depot.Proofs.Signals

/-! Deactivated profiles. A profile that the overrides deactivate is passed over wherever profiles
become active, so it could as well be missing from the settings: the same profiles are active, and
nothing else that a context is made of looks at the profiles. Two providers whose settings differ in
such profiles only therefore answer alike, and the contexts that they make differ in nothing but the
provider (`World.deactivated_traceless`). -/

namespace Depot

namespace Settings

/-- The settings with the profiles of these identifiers deleted. -/
def withoutProfiles (s : Settings) (ids : List String) : Settings :=
  { s with profiles := s.profiles.filter (·.id ∉ ids) }

variable (s : Settings) (inactive : List String)

theorem foldl_activate_filter (profiles active : List Profile) :
    (profiles.filter (·.id ∉ inactive)).foldl (activate inactive) active =
      profiles.foldl (activate inactive) active := by
  rw [List.foldl_filter]
  congr 1
  funext active p
  by_cases h : p.id ∈ inactive <;> simp [activate, h]

theorem profile?_withoutProfiles (id : String) :
    (s.withoutProfiles inactive).profile? id =
      if id ∈ inactive then none else s.profile? id :=
  find?_filter_notMem id

theorem named_withoutProfiles (ids : List String) :
    (s.withoutProfiles inactive).named ids = (s.named ids).filter (·.id ∉ inactive) := by
  rw [named, named, List.filter_filterMap]
  congr 1
  funext id
  rw [profile?_withoutProfiles]
  cases hfound : s.profile? id with
  | none => simp
  | some p =>
    have hid : p.id = id := by simpa using List.find?_some hfound
    by_cases hinactive : id ∈ inactive <;> simp [Option.filter, hid, hinactive]

/-- The active profiles are found without the deactivated ones. -/
theorem activeAmong_withoutProfiles (requested : List String)
    (accepts : Option (Profile → Bool)) :
    (s.withoutProfiles inactive).activeAmong requested inactive accepts =
      s.activeAmong requested inactive accepts := by
  have hfilter (accepts : Profile → Bool) :
      (s.withoutProfiles inactive).profiles.filter accepts =
        (s.profiles.filter accepts).filter (·.id ∉ inactive) :=
    List.filter_comm ..
  have hactive : (s.withoutProfiles inactive).activeProfiles = s.activeProfiles := rfl
  cases accepts with
  | none =>
    simp only [activeAmong, named_withoutProfiles, hactive, hfilter, List.foldl_append,
      foldl_activate_filter]
  | some accepts =>
    simp only [activeAmong, named_withoutProfiles, hactive, hfilter, List.foldl_append,
      foldl_activate_filter]

end Settings

/-- The resolved settings with the declarations of these profiles deleted. -/
def ResolvedSettings.withoutProfiles (r : ResolvedSettings) (ids : List String) :
    ResolvedSettings :=
  { r with settings := r.settings.withoutProfiles ids }

/-- The resolver from whose settings the profiles of these identifiers are deleted as soon as the
settings are built. -/
def SettingsResolver.withoutProfiles (resolver : SettingsResolver) (ids : List String) :
    SettingsResolver :=
  { resolver with builder := fun files request =>
      (resolver.builder files request).map (·.withoutProfiles ids) }

/-- The provider that works with this resolver. -/
def Provider.withoutProfiles (p : Provider) (ids : List String) : Provider :=
  { p with resolver := p.resolver.withoutProfiles ids }

/-- Deleting deactivated profiles from the settings changes their declarations only. -/
theorem SettingsResolver.resolve_withoutProfiles (resolver : SettingsResolver) (host : Host)
    (files : FileSystem) (o : Overrides) :
    (resolver.withoutProfiles o.inactiveProfiles).resolve host files o =
      (resolver.resolve host files o).map (·.withoutProfiles o.inactiveProfiles) := by
  unfold resolve
  cases o.discoverSettings with
  | false => rfl
  | true =>
    have hactive (s : Settings) (accepts : Option (Profile → Bool)) :
        (s.withoutProfiles o.inactiveProfiles).activeUnder o accepts = s.activeUnder o accepts :=
      s.activeAmong_withoutProfiles o.inactiveProfiles o.activeProfiles accepts
    let request : SettingsRequest := ⟨(SettingsLocations.ofOverrides host o).global,
      (SettingsLocations.ofOverrides host o).user, o.effectiveProperties⟩
    have hbuilt : (resolver.withoutProfiles o.inactiveProfiles).builder files request =
        (resolver.builder files request).map (·.withoutProfiles o.inactiveProfiles) := rfl
    simp only [if_true]
    rw [hbuilt]
    cases resolver.builder files request with
    | error cause => rfl
    | ok s =>
      simp only [Except.map, bind, Except.bind, hactive]
      rfl

namespace Context

/-- The context as it would be if this provider had made it. -/
def ofProvider (c : Context) (p : Provider) : Context :=
  { c with provider := p }

section

variable (host : Host) (files : FileSystem) (p : Provider) (engine : Engine) (o : Overrides)

theorem ground_withoutProfiles :
    ground host files (p.withoutProfiles o.inactiveProfiles) engine o =
      (ground host files p engine o).map fun (resolved, chain) =>
        (resolved.withoutProfiles o.inactiveProfiles, chain) := by
  have hresolve : (p.withoutProfiles o.inactiveProfiles).resolver.resolve host files o =
      (p.resolver.resolve host files o).map (·.withoutProfiles o.inactiveProfiles) :=
    p.resolver.resolve_withoutProfiles host files o
  unfold ground
  rw [hresolve]
  cases p.resolver.resolve host files o with
  | error cause => rfl
  | ok resolved =>
    -- Neither the properties nor the local repository are taken from the declarations.
    have huser : userProperties o (resolved.withoutProfiles o.inactiveProfiles) =
        userProperties o resolved := rfl
    have hpath (q : Properties) :
        localRepositoryPath? host o (resolved.withoutProfiles o.inactiveProfiles) q =
          localRepositoryPath? host o resolved q := rfl
    simp only [Except.map, Succeeding.mapError_ok, bind, Except.bind, huser, hpath]
    cases localRepositoryPath? host o resolved
        (o.systemProperties.overlay (userProperties o resolved)) with
    | none => rfl
    | some path =>
      simp only
      cases engine.openChain (.ofProperties path
        (o.systemProperties.overlay (userProperties o resolved))) <;> rfl

theorem assemble_withoutProfiles (engineNumber number : Nat) :
    assemble host files (p.withoutProfiles o.inactiveProfiles) engineNumber engine number o =
      (assemble host files p engineNumber engine number o).map
        (·.ofProvider (p.withoutProfiles o.inactiveProfiles)) := by
  rw [assemble_eq, assemble_eq, ground_withoutProfiles]
  cases ground host files p engine o <;> rfl

end

/-- Deriving from a context looks at nothing of its provider but the name. -/
theorem customize_ofProvider {c : Context} {p : Provider} (hname : p.name = c.provider.name)
    (engine : Engine) (number : Nat) (o : Overrides) :
    (c.ofProvider p).customize engine number o =
      (c.customize engine number o).map (·.ofProvider p) := by
  cases hover : c.isOver engine with
  | true =>
    have hover' : (c.ofProvider p).isOver engine = true := hover
    have hname' : (c.ofProvider p).provider.name = c.provider.name := hname
    rw [customize_of_over hover, customize_of_over hover', hname']
    rfl
  | false =>
    have hover' : (c.ofProvider p).isOver engine = false := hover
    have hswitched : (c.ofProvider p).switchedChain engine o (sessionUnder c.session o) =
        c.switchedChain engine o (sessionUnder c.session o) := rfl
    rw [customize_of_open hover, customize_of_open hover']
    change Except.map _ ((c.ofProvider p).switchedChain engine o (sessionUnder c.session o)) = _
    rw [hswitched]
    cases c.switchedChain engine o (sessionUnder c.session o) <;> rfl

end Context

namespace World

/-- Two creations answer the same, and what they make differs in the provider only, which is this
one in the second. -/
def SameButProvider (p : Provider) (made other : Except ContextError Nat × World) : Prop :=
  other.1 = made.1 ∧ ∀ number, made.1 = .ok number → ∃ c,
    made.2.context? number = some c ∧ other.2.context? number = some { c with provider := p }

theorem settle_ofProvider (w : World) (p : Provider) (result : Except ContextError Context) :
    SameButProvider p (w.settle result) (w.settle (result.map (·.ofProvider p))) := by
  cases result with
  | error cause => exact ⟨rfl, nofun⟩
  | ok c =>
    refine ⟨rfl, fun number hnumber => ?_⟩
    obtain rfl : w.contexts.length = number := Except.ok.inj hnumber
    exact ⟨c, context?_addContext w c, context?_addContext w (c.ofProvider p)⟩

theorem createAround_withoutProfiles (w : World) (p : Provider) (o : Overrides)
    (booted : Except ContextError Engine) :
    SameButProvider (p.withoutProfiles o.inactiveProfiles) (w.createAround p o booted)
      (w.createAround (p.withoutProfiles o.inactiveProfiles) o booted) := by
  cases booted with
  | error cause => exact ⟨rfl, nofun⟩
  | ok e =>
    have hassemble := Context.assemble_withoutProfiles w.host w.files p e o w.engines.length
      w.contexts.length
    cases hmade : Context.assemble w.host w.files p w.engines.length e w.contexts.length o with
    | error cause =>
      rw [hmade] at hassemble
      rw [createAround_of_failure hmade, createAround_of_failure hassemble]
      exact ⟨rfl, nofun⟩
    | ok c =>
      rw [hmade] at hassemble
      rw [createAround_of_assembled hmade, createAround_of_assembled hassemble]
      exact settle_ofProvider (w.addEngine e) _ (.ok c)

/-- Without the profiles that the overrides deactivate a provider answers the same, and makes the
same context. -/
theorem deactivated_traceless (w : World) (p : Provider) (o : Overrides) :
    SameButProvider (p.withoutProfiles o.inactiveProfiles) (w.create p o)
      (w.create (p.withoutProfiles o.inactiveProfiles) o) := by
  have hengines : (p.withoutProfiles o.inactiveProfiles).engines = p.engines := rfl
  unfold create
  rw [hengines]
  cases p.engines with
  | host engine session repositories =>
    have hname : (p.withoutProfiles o.inactiveProfiles).name = p.name := rfl
    have hcustomize := Context.customize_ofProvider
      (c := Context.hosted w.host p engine session repositories) hname (w.engine engine)
      w.contexts.length o
    have hsettle := w.settle_ofProvider (p.withoutProfiles o.inactiveProfiles)
      ((Context.hosted w.host p engine session repositories).customize (w.engine engine)
        w.contexts.length o)
    rwa [← hcustomize] at hsettle
  | container factories => exact w.createAround_withoutProfiles p o _
  | static factory => exact w.createAround_withoutProfiles p o factory

end World

end Depot
