import Depot.Proofs.Building

/-! What an action does to the engines and the contexts of a world. Every action does one of five
things (`act_step`): nothing, boot an engine together with its owner, boot an engine and shut it
down because its context cannot be assembled, add a context to an engine that is there, or release a
context for the first time; which of these a creation does is said by `create_cases`. All later
reasoning goes by what this leaves of an old context (`Step.context?_old`), what a new one is like
(`Step.context?_made`), when an old engine is shut down (`Step.engine_kept`, `Step.engine_shut`) and
how a new one starts (`Step.engine_booted`). -/

namespace Depot

/-- The engine that is booted when the provider creates a context; none when the engine is the
host's or no factory works. -/
def Provider.boots? (p : Provider) : Option Engine :=
  match p.engines with
  | .host .. => none
  | .container factories => (factories.lookup.map (·.2)).toOption
  | .static factory => factory.toOption

/-- Engines come from the factories as new ones, never shut down before. -/
def Provider.HandsOutNew (p : Provider) : Prop :=
  ∀ e, p.boots? = some e → e.shutdowns = 0

namespace World

namespace Action

def boots? : Action → Option Engine
  | create p _ => p.boots?
  | _ => none

/-- The action closes or drops the context of this number. -/
def releases : Action → Nat → Bool
  | close n, number | drop n, number => n == number
  | _, _ => false

def HandsOutNew : Action → Prop
  | create p _ => p.HandsOutNew
  | _ => True

end Action

/-- The number of the context that the action makes; none when it makes none. -/
def made? (w : World) : Action → Option Nat
  | .create p o => (w.create p o).1.toOption
  | .customize number o => (w.customize number o).bind (·.1.toOption)
  | _ => none

theorem shutDownEngine_addEngine (w : World) (e : Engine) :
    (w.addEngine e).shutDownEngine w.engines.length = w.addEngine e.shutDown := by
  simp [shutDownEngine, addEngine, List.modify_eq_take_drop, List.modifyHead]

theorem create_of_boots {p : Provider} {e : Engine} (h : p.boots? = some e) (w : World)
    (o : Overrides) : w.create p o = w.createAround p o (.ok e) := by
  unfold Provider.boots? at h
  unfold create
  cases hp : p.engines with
  | host => simp [hp] at h
  | container factories =>
    rw [hp] at h
    cases hf : factories.lookup.map (·.2) with
    | error cause => simp [hf, Except.toOption] at h
    | ok found => simp_all [Except.toOption]
  | static factory =>
    rw [hp] at h
    cases factory with
    | error cause => simp [Except.toOption] at h
    | ok found => simp_all [Except.toOption]

/-- Without an engine there is no context, and nothing happens. -/
theorem create_of_no_engine {p : Provider} (hmanaged : p.isManaged = true)
    (h : p.boots? = none) (w : World) :
    ∃ cause, ∀ o, w.create p o = (.error cause, w) := by
  unfold Provider.boots? at h
  unfold create
  cases hp : p.engines with
  | host => simp [Provider.isManaged, hp, EngineSource.isManaged] at hmanaged
  | container factories =>
    rw [hp] at h
    cases hf : factories.lookup.map (·.2) with
    | error cause => exact ⟨cause, fun o => by simp only [hf, createAround]⟩
    | ok found => simp [hf, Except.toOption] at h
  | static factory =>
    rw [hp] at h
    cases factory with
    | error cause => exact ⟨cause, fun _ => rfl⟩
    | ok found => simp [Except.toOption] at h

section Around

variable {w : World} {p : Provider} {o : Overrides} {e : Engine}

theorem createAround_of_assembled {c : Context}
    (h : Context.assemble w.host w.files p w.engines.length e w.contexts.length o = .ok c) :
    w.createAround p o (.ok e) = (.ok w.contexts.length, (w.addEngine e).addContext c) := by
  simp only [createAround, h]
  rfl

theorem createAround_of_failure {cause : ContextError}
    (h : Context.assemble w.host w.files p w.engines.length e w.contexts.length o =
      .error cause) :
    w.createAround p o (.ok e) = (.error cause, w.addEngine e.shutDown) := by
  simp only [createAround, h, shutDownEngine_addEngine]

end Around

/-- What creating a context comes to: one customized on the engine of a host, nothing without an engine,
an engine that is shut down where no context can be assembled around it, or a context that is. -/
theorem create_cases (w : World) (p : Provider) (o : Overrides) :
    (∃ engine session repositories, p.engines = .host engine session repositories ∧
      p.boots? = none ∧ w.create p o = w.settle
        ((Context.hosted w.host p engine session repositories).customize (w.engine engine)
          w.contexts.length o)) ∨
    (p.boots? = none ∧ ∃ cause, w.create p o = (.error cause, w)) ∨
    ∃ e, p.boots? = some e ∧
      ((∃ cause, w.create p o = (.error cause, w.addEngine e.shutDown)) ∨
        ∃ c, Context.assemble w.host w.files p w.engines.length e w.contexts.length o = .ok c ∧
          w.create p o = (.ok w.contexts.length, (w.addEngine e).addContext c)) := by
  cases hp : p.engines with
  | host engine session repositories =>
    have hboots : p.boots? = none := by rw [Provider.boots?, hp]
    exact .inl ⟨engine, session, repositories, rfl, hboots, by rw [create, hp]⟩
  | _ =>
    have hmanaged : p.isManaged = true := by rw [Provider.isManaged, hp]; rfl
    refine .inr ?_
    cases hboots : p.boots? with
    | none =>
      obtain ⟨cause, hcreate⟩ := create_of_no_engine hmanaged hboots w
      exact .inl ⟨rfl, cause, hcreate o⟩
    | some e =>
      refine .inr ⟨e, rfl, ?_⟩
      rw [create_of_boots hboots]
      cases hc : Context.assemble w.host w.files p w.engines.length e w.contexts.length o with
      | error cause => exact .inl ⟨cause, createAround_of_failure hc⟩
      | ok c => exact .inr ⟨c, rfl, createAround_of_assembled hc⟩

/-- What is assembled around an engine owns it and is not released. -/
theorem of_assemble {host : Host} {files : FileSystem} {p : Provider} {n : Nat} {e : Engine}
    {number : Nat} {o : Overrides} {c : Context}
    (h : Context.assemble host files p n e number o = .ok c) :
    c.engine = n ∧ c.ownsEngine = true ∧ c.released = false := by
  rw [Context.assemble_eq] at h
  obtain ⟨found, -, rfl⟩ := Succeeding.map_eq_ok.mp h
  exact ⟨rfl, rfl, rfl⟩

/-- The five things that an action can come to. -/
inductive Step (w : World) (a : Action) (w' : World) : Prop where
  | stay (engines : w'.engines = w.engines) (contexts : w'.contexts = w.contexts)
      (spares : ∀ number c, a.releases number = true → w.context? number = some c →
        c.released = true)
      (boots : a.boots? = none) (makes : w.made? a = none)
  | own (e : Engine) (c : Context) (engines : w'.engines = w.engines ++ [e])
      (contexts : w'.contexts = w.contexts ++ [c]) (spares : ∀ number, a.releases number = false)
      (boots : a.boots? = some e) (makes : w.made? a = some w.contexts.length)
      (engine : c.engine = w.engines.length) (owns : c.ownsEngine = true)
      (released : c.released = false)
  | fail (e : Engine) (engines : w'.engines = w.engines ++ [e.shutDown])
      (contexts : w'.contexts = w.contexts) (spares : ∀ number, a.releases number = false)
      (boots : a.boots? = some e) (makes : w.made? a = none)
  | join (c : Context) (engines : w'.engines = w.engines)
      (contexts : w'.contexts = w.contexts ++ [c]) (spares : ∀ number, a.releases number = false)
      (boots : a.boots? = none) (makes : w.made? a = some w.contexts.length)
      (owns : c.ownsEngine = false) (released : c.released = false)
  | release (number : Nat) (c : Context)
      (engines : w'.engines =
        if c.ownsEngine then w.engines.modify c.engine Engine.shutDown else w.engines)
      (contexts : w'.contexts = w.contexts.modify number ({ · with released := true }))
      (releases : ∀ other, a.releases other = (number == other))
      (found : w.context? number = some c) (released : c.released = false)
      (boots : a.boots? = none) (makes : w.made? a = none)

theorem settle_step {w : World} {a : Action} {result : Except ContextError Context}
    (hspares : ∀ number, a.releases number = false) (hboots : a.boots? = none)
    (hmakes : w.made? a = (w.settle result).1.toOption)
    (hresult : ∀ c, result = .ok c → c.ownsEngine = false ∧ c.released = false) :
    Step w a (w.settle result).2 := by
  cases result with
  | error cause =>
    exact .stay rfl rfl (fun number c h => by rw [hspares] at h; cases h) hboots hmakes
  | ok c =>
    obtain ⟨howns, hreleased⟩ := hresult c rfl
    exact .join c rfl rfl hspares hboots hmakes howns hreleased

theorem create_step (w : World) (p : Provider) (o : Overrides) :
    Step w (.create p o) (w.create p o).2 := by
  have hmakes : w.made? (.create p o) = (w.create p o).1.toOption := rfl
  obtain ⟨engine, session, repositories, -, hboots, hcreate⟩ | ⟨hboots, cause, hcreate⟩ |
    ⟨e, hboots, ⟨cause, hcreate⟩ | ⟨c, hc, hcreate⟩⟩ := create_cases w p o
  all_goals rw [hcreate] at hmakes ⊢
  · exact settle_step (fun _ => rfl) hboots hmakes fun c h => (Context.of_customize h).2
  · exact .stay rfl rfl (fun number c h => nomatch h) hboots hmakes
  · exact .fail e rfl rfl (fun _ => rfl) hboots hmakes
  · obtain ⟨hengine, howns, hreleased⟩ := of_assemble hc
    exact .own e c rfl rfl (fun _ => rfl) hboots hmakes hengine howns hreleased

theorem resolveIn_frame (w : World) (c : Context) (a : Artifact) :
    (w.resolveIn c a).2.engines = w.engines ∧ (w.resolveIn c a).2.contexts = w.contexts := by
  cases h : c.isOver (w.engine c.engine) with
  | true => simp only [resolveIn, h, if_true, and_self]
  | false => simp only [resolveIn, h, Bool.false_eq_true, if_false, and_self]

theorem close_step (w : World) (number : Nat) {a : Action}
    (hreleases : ∀ other, a.releases other = (number == other)) (hboots : a.boots? = none)
    (hmakes : w.made? a = none) : Step w a (w.close number) := by
  have hspares (h : ∀ c, w.context? number = some c → c.released = true) :
      ∀ other c, a.releases other = true → w.context? other = some c → c.released = true := by
    intro other c hother hc
    rw [hreleases, beq_iff_eq] at hother
    exact h c (hother ▸ hc)
  cases hc : w.context? number with
  | none =>
    have hclose : w.close number = w := by simp only [close, hc]
    rw [hclose]
    exact .stay rfl rfl (hspares fun c h => by rw [hc] at h; cases h) hboots hmakes
  | some c =>
    cases hreleased : c.released with
    | true =>
      have hclose : w.close number = w := by simp only [close, hc, hreleased, if_true]
      rw [hclose]
      exact .stay rfl rfl (hspares fun d h => by rw [hc] at h; cases h; exact hreleased)
        hboots hmakes
    | false =>
      refine .release number c ?_ ?_ hreleases hc hreleased hboots hmakes
      · simp only [close, hc, hreleased]
        cases c.ownsEngine <;> rfl
      · simp only [close, hc, hreleased]
        cases c.ownsEngine <;> rfl

/-- Every action comes to one of the five things. -/
theorem act_step (w : World) (a : Action) : Step w a (w.act a) := by
  cases a with
  | create p o => exact create_step w p o
  | customize number o =>
    have hmakes : w.made? (.customize number o) =
        (w.customize number o).bind (·.1.toOption) := rfl
    cases hc : w.context? number with
    | none =>
      have hcustomize : w.customize number o = none := by rw [customize, hc]; rfl
      rw [hcustomize] at hmakes
      rw [act, hcustomize]
      exact .stay rfl rfl (fun _ _ h => nomatch h) rfl hmakes
    | some c =>
      have hcustomize : w.customize number o =
          some (w.settle (c.customize (w.engine c.engine) w.contexts.length o)) := by
        rw [customize, hc]
        rfl
      rw [hcustomize] at hmakes
      rw [act, hcustomize]
      exact settle_step (fun _ => rfl) rfl hmakes fun d h => (Context.of_customize h).2
  | resolve number artifact =>
    cases hc : w.context? number with
    | none =>
      have hact : w.act (.resolve number artifact) = w := by rw [act, resolve, hc]; rfl
      rw [hact]
      exact .stay rfl rfl (fun _ _ h => nomatch h) rfl rfl
    | some c =>
      have hact : w.act (.resolve number artifact) = (w.resolveIn c artifact).2 := by
        rw [act, resolve, hc]
        rfl
      obtain ⟨hengines, hcontexts⟩ := resolveIn_frame w c artifact
      rw [hact]
      exact .stay hengines hcontexts (fun _ _ h => nomatch h) rfl rfl
  | close number => exact close_step w number (fun _ => rfl) rfl rfl
  | drop number => exact close_step w number (fun _ => rfl) rfl rfl

/-! ### What a step leaves -/

namespace Step

variable {w w' : World} {a : Action}

/-- An old context changes only by being released. -/
theorem context?_old (h : Step w a w') {number : Nat} {c : Context}
    (hc : w.context? number = some c) :
    w'.context? number = some { c with released := c.released || a.releases number } := by
  have hkept (ds : List Context) (hds : w'.contexts = w.contexts ++ ds)
      (hspares : ∀ number, a.releases number = false) :
      w'.context? number = some { c with released := c.released || a.releases number } := by
    have hlt : number < w.contexts.length := (List.getElem?_eq_some_iff.mp hc).1
    rw [context?, hds, List.getElem?_append_left hlt, hspares, Bool.or_false]
    exact hc
  cases h with
  | stay _ contexts spares =>
    have hreleased : (c.released || a.releases number) = c.released := by
      cases hr : a.releases number with
      | true => rw [spares number c hr hc, Bool.or_true]
      | false => rw [Bool.or_false]
    rw [hreleased, context?, contexts]
    exact hc
  | own e d _ contexts spares => exact hkept [d] contexts spares
  | fail e _ contexts spares => exact hkept [] (by rw [contexts, List.append_nil]) spares
  | join d _ contexts spares => exact hkept [d] contexts spares
  | release other d _ contexts releases found released =>
    rw [context?, contexts, List.getElem?_modify, show w.contexts[number]? = some c from hc]
    by_cases heq : other = number
    · subst heq
      simp [releases]
    · rw [releases, beq_eq_false_iff_ne.mpr heq, Bool.or_false]
      simp [heq]

/-- A context that was not there is the one that the action makes. -/
theorem made?_of_new (h : Step w a w') {number : Nat} {d : Context}
    (hd : w'.context? number = some d) (hnone : w.context? number = none) :
    w.made? a = some number := by
  have hnew (c : Context) (hcs : w'.contexts = w.contexts ++ [c]) :
      number = w.contexts.length := by
    have hle : w.contexts.length ≤ number := List.getElem?_eq_none_iff.mp hnone
    have hlt : number < w'.contexts.length := (List.getElem?_eq_some_iff.mp hd).1
    rw [hcs, List.length_append, List.length_singleton] at hlt
    omega
  have hsame (hcs : w'.contexts = w.contexts) : w.made? a = some number := by
    rw [context?, hcs] at hd
    exact absurd (hd.symm.trans hnone) nofun
  cases h with
  | stay _ contexts => exact hsame contexts
  | own e c _ contexts _ _ makes => rw [makes, hnew c contexts]
  | fail e _ contexts => exact hsame contexts
  | join c _ contexts _ _ makes => rw [makes, hnew c contexts]
  | release other c _ contexts =>
    rw [context?, contexts, List.getElem?_modify, show w.contexts[number]? = none from hnone] at hd
    cases hd

/-- A context after a step is the one that the action makes, or was there before and has at most been
released. -/
theorem context?_cases (h : Step w a w') {number : Nat} {d : Context}
    (hd : w'.context? number = some d) :
    w.context? number = none ∧ w.made? a = some number ∨ ∃ c, w.context? number = some c ∧
      d = { c with released := c.released || a.releases number } := by
  cases hc : w.context? number with
  | none => exact .inl ⟨rfl, h.made?_of_new hd hc⟩
  | some c => exact .inr ⟨c, rfl, Option.some.inj (hd.symm.trans (h.context?_old hc))⟩

/-- The context that the action makes was not there and is not released; it owns the engine that is
booted for it, or none when none is booted. -/
theorem context?_made (h : Step w a w') {number : Nat} (hmade : w.made? a = some number) :
    w.context? number = none ∧ ∃ d, w'.context? number = some d ∧ d.released = false ∧
      d.ownsEngine = a.boots?.isSome ∧ (d.ownsEngine = true → d.engine = w.engines.length) := by
  have hadded (c : Context) (hcs : w'.contexts = w.contexts ++ [c]) :
      w.context? w.contexts.length = none ∧ w'.context? w.contexts.length = some c := by
    rw [context?, context?, hcs]
    exact ⟨List.getElem?_eq_none (Nat.le_refl _), List.getElem?_concat_length⟩
  cases h with
  | stay _ _ _ _ makes =>
    rw [makes] at hmade
    cases hmade
  | own e c _ contexts _ boots makes engine owns released =>
    obtain rfl := Option.some.inj (makes.symm.trans hmade)
    obtain ⟨hnone, hsome⟩ := hadded c contexts
    exact ⟨hnone, c, hsome, released, by rw [owns, boots]; rfl, fun _ => engine⟩
  | fail e _ _ _ _ makes =>
    rw [makes] at hmade
    cases hmade
  | join c _ contexts _ boots makes owns released =>
    obtain rfl := Option.some.inj (makes.symm.trans hmade)
    obtain ⟨hnone, hsome⟩ := hadded c contexts
    exact ⟨hnone, c, hsome, released, by rw [owns, boots]; rfl, fun h => by simp [owns] at h⟩
  | release other c _ _ _ _ _ _ makes =>
    rw [makes] at hmade
    cases hmade

theorem context?_new (h : Step w a w') {number : Nat} {d : Context}
    (hd : w'.context? number = some d) (hnone : w.context? number = none) :
    d.released = false ∧ d.ownsEngine = a.boots?.isSome ∧
      (d.ownsEngine = true → d.engine = w.engines.length) := by
  obtain ⟨-, d', hd', hmade⟩ := h.context?_made (h.made?_of_new hd hnone)
  obtain rfl := Option.some.inj (hd.symm.trans hd')
  exact hmade

/-- An old engine is kept unless the context that owns it is released for the first time. -/
theorem engine_kept (h : Step w a w') {n : Nat} {e : Engine} (he : w.engines[n]? = some e)
    (hkept : ∀ number c, w.context? number = some c → c.ownsEngine = true → c.engine = n →
      a.releases number = true → c.released = true) : w'.engines[n]? = some e := by
  have hlt : n < w.engines.length := (List.getElem?_eq_some_iff.mp he).1
  cases h with
  | stay engines => rw [engines, he]
  | own e' c engines => rw [engines, List.getElem?_append_left hlt, he]
  | fail e' engines => rw [engines, List.getElem?_append_left hlt, he]
  | join c engines => rw [engines, he]
  | release number c engines _ releases found released =>
    cases howns : c.ownsEngine with
    | false => rw [engines, howns, if_neg (by simp), he]
    | true =>
      have hne : c.engine ≠ n := fun heq => by
        have hreleased := hkept number c found howns heq (by simp [releases])
        rw [released] at hreleased
        cases hreleased
      rw [engines, howns, if_pos rfl, List.getElem?_modify_ne _ _ hne, he]

/-- The first release of the context that owns an engine shuts it down, once. -/
theorem engine_shut (h : Step w a w') {n number : Nat} {e : Engine} {c : Context}
    (he : w.engines[n]? = some e) (hc : w.context? number = some c) (howns : c.ownsEngine = true)
    (hengine : c.engine = n) (hfirst : c.released = false) (hreleases : a.releases number = true) :
    w'.engines[n]? = some e.shutDown := by
  cases h with
  | stay _ _ spares =>
    rw [spares number c hreleases hc] at hfirst
    cases hfirst
  | own _ _ _ _ spares =>
    rw [spares] at hreleases
    cases hreleases
  | fail _ _ _ spares =>
    rw [spares] at hreleases
    cases hreleases
  | join _ _ _ spares =>
    rw [spares] at hreleases
    cases hreleases
  | release other d engines _ releases found =>
    rw [releases, beq_iff_eq] at hreleases
    subst hreleases
    obtain rfl := Option.some.inj (found.symm.trans hc)
    rw [engines, howns, if_pos rfl, hengine, List.getElem?_modify_eq, he]
    rfl

/-- The engine that is booted comes last. It is shut down at once when it gets no context. -/
theorem engine_booted (h : Step w a w') {e : Engine} (hboots : a.boots? = some e) :
    w'.engines[w.engines.length]? = some (if (w.made? a).isSome then e else e.shutDown) := by
  cases h with
  | stay _ _ _ boots =>
    rw [boots] at hboots
    cases hboots
  | own e' c engines _ _ boots makes =>
    obtain rfl := Option.some.inj (boots.symm.trans hboots)
    rw [engines, makes, List.getElem?_concat_length]
    rfl
  | fail e' engines _ _ boots makes =>
    obtain rfl := Option.some.inj (boots.symm.trans hboots)
    rw [engines, makes, List.getElem?_concat_length]
    rfl
  | join c _ _ _ boots =>
    rw [boots] at hboots
    cases hboots
  | release other c _ _ _ _ _ boots =>
    rw [boots] at hboots
    cases hboots

/-- An old engine keeps the directories that report themselves away, also when it is shut down. -/
theorem engine_away (h : Step w a w') {n : Nat} {e : Engine}
    (he : w.engines[n]? = some e) : ∃ e', w'.engines[n]? = some e' ∧ e'.away = e.away := by
  have hlt : n < w.engines.length := (List.getElem?_eq_some_iff.mp he).1
  cases h with
  | stay engines => exact ⟨e, by rw [engines, he], rfl⟩
  | own e' c engines => exact ⟨e, by rw [engines, List.getElem?_append_left hlt, he], rfl⟩
  | fail e' engines => exact ⟨e, by rw [engines, List.getElem?_append_left hlt, he], rfl⟩
  | join c engines => exact ⟨e, by rw [engines, he], rfl⟩
  | release number c engines =>
    rw [engines]
    split
    · rw [List.getElem?_modify, he]
      by_cases hn : c.engine = n
      · exact ⟨e.shutDown, by simp [hn], rfl⟩
      · exact ⟨e, by simp [hn], rfl⟩
    · exact ⟨e, he, rfl⟩

/-- The list of engines grows by the one that is booted, if one is. -/
theorem length_engines (h : Step w a w') :
    w'.engines.length = w.engines.length + a.boots?.toList.length := by
  cases h with
  | stay engines _ _ boots => rw [engines, boots]; rfl
  | own e c engines _ _ boots => rw [engines, boots, List.length_append]; rfl
  | fail e engines _ _ boots => rw [engines, boots, List.length_append]; rfl
  | join c engines _ _ boots => rw [engines, boots]; rfl
  | release number c engines _ _ _ _ boots =>
    rw [engines, boots]
    split
    · rw [List.length_modify]; rfl
    · rfl

end Step

/-! ### A small world -/

/-- A machine on which nothing is set, with an engine that is its own. -/
def small : World :=
  { host :=
      { environment := .empty, accountHome := none, workingDirectory := none, osName := "linux"
        osFamily := "unix", architecture := "x86_64" }
    files := .bare []
    engines := [{}] }

/-- The overrides that only name a local repository. -/
def overridesAt (w : World) (path : String) : Overrides :=
  Overrides.Draft.build w.host { localRepository := some ⟨path⟩ }

/-- A provider with engines of its own. -/
def smallProvider : Provider :=
  { name := "own", engines := .static (.ok {}) }

end World

end Depot
