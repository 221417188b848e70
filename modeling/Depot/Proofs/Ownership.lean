import Depot.Proofs.Steps
import Mathlib.Data.List.Induction

/-! Ownership of engines over whole runs. An engine that a provider boots is owned by the one
context that it was booted for, and has been shut down exactly when that context has been closed or
dropped (`Owned.run`); when the context could not be assembled it has no owner and stays as the
failure left it, and so does an engine of the host (`Unowned.run`). Both are carried step by step
(`holds_run`), and start with what `Step` says of the action that boots the engine. The promise for
all runs is `OwnershipKept`. -/

namespace Depot.World

/-! ### Runs -/

theorem run_append (w : World) (first second : List Action) :
    w.run (first ++ second) = (w.run first).run second :=
  List.foldl_append

theorem run_concat (w : World) (actions : List Action) (a : Action) :
    w.run (actions ++ [a]) = (w.run actions).act a :=
  run_append w actions [a]

/-- What no step undoes holds after the whole run. -/
theorem holds_run {P : World → Prop}
    (hstep : ∀ {w w' : World} {a : Action}, P w → Step w a w' → P w') {w : World} (h : P w)
    (actions : List Action) : P (w.run actions) := by
  induction actions generalizing w with
  | nil => exact h
  | cons a actions ih => exact ih (hstep h (act_step w a))

/-- A context that is there stays, with its engine and its part in it. -/
theorem context?_run {w : World} {number : Nat} {c : Context} (hc : w.context? number = some c)
    (actions : List Action) : ∃ d, (w.run actions).context? number = some d ∧
      d.engine = c.engine ∧ d.ownsEngine = c.ownsEngine := by
  apply holds_run (P := fun w => ∃ d, w.context? number = some d ∧ d.engine = c.engine ∧
    d.ownsEngine = c.ownsEngine) ?_ ⟨c, hc, rfl, rfl⟩
  rintro w w' a ⟨d, hd, hengine, howns⟩ hstep
  exact ⟨_, hstep.context?_old hd, hengine, howns⟩

theorem engine_away_run {w : World} {n : Nat} {e : Engine} (he : w.engines[n]? = some e)
    (actions : List Action) : ((w.run actions).engine n).away = e.away := by
  have hrun : ∃ e', (w.run actions).engines[n]? = some e' ∧ e'.away = e.away := by
    apply holds_run (P := fun w => ∃ e', w.engines[n]? = some e' ∧ e'.away = e.away) ?_ ⟨e, he, rfl⟩
    rintro w w' a ⟨d, hd, haway⟩ hstep
    obtain ⟨d', hd', haway'⟩ := hstep.engine_away hd
    exact ⟨d', hd', haway'.trans haway⟩
  obtain ⟨e', he', haway⟩ := hrun
  rw [engine, List.getD_eq_getElem?_getD, he']
  exact haway

/-! ### What a run has closed, and what it has derived -/

/-- The context of this number is closed or dropped in the run, at a time when it is there. -/
def ReleasedIn (w : World) (actions : List Action) (number : Nat) : Prop :=
  ∃ before a after, actions = before ++ a :: after ∧
    ((w.run before).context? number).isSome = true ∧ a.releases number = true

theorem releasedIn_concat (w : World) (actions : List Action) (a : Action) (number : Nat) :
    w.ReleasedIn (actions ++ [a]) number ↔ w.ReleasedIn actions number ∨
      (((w.run actions).context? number).isSome = true ∧ a.releases number = true) := by
  constructor
  · rintro ⟨before, b, after, heq, hthere, hreleases⟩
    cases after using List.reverseRecOn with
    | nil =>
      obtain ⟨rfl, hlast⟩ := List.append_inj' heq rfl
      obtain rfl := List.head_eq_of_cons_eq hlast
      exact .inr ⟨hthere, hreleases⟩
    | append_singleton after last =>
      rw [← List.cons_append, ← List.append_assoc] at heq
      exact .inl ⟨before, b, after, (List.append_inj' heq rfl).1, hthere, hreleases⟩
  · rintro (⟨before, b, after, rfl, hthere, hreleases⟩ | ⟨hthere, hreleases⟩)
    · exact ⟨before, b, after ++ [a], by simp, hthere, hreleases⟩
    · exact ⟨actions, a, [], rfl, hthere, hreleases⟩

theorem ReleasedIn.isSome {w : World} {actions : List Action} {number : Nat}
    (h : w.ReleasedIn actions number) : ((w.run actions).context? number).isSome = true := by
  obtain ⟨before, a, after, rfl, hthere, -⟩ := h
  obtain ⟨c, hc⟩ := Option.isSome_iff_exists.mp hthere
  obtain ⟨d, hd, -⟩ := context?_run hc (a :: after)
  rw [run_append, hd]
  rfl

/-- A context counts as released exactly when the run has closed or dropped it. -/
theorem released_iff {w : World} (hfresh : w.contexts = []) (actions : List Action) {number : Nat}
    {c : Context} (hc : (w.run actions).context? number = some c) :
    c.released = true ↔ w.ReleasedIn actions number := by
  induction actions using List.reverseRecOn generalizing c with
  | nil =>
    rw [run, List.foldl_nil, context?, hfresh] at hc
    cases hc
  | append_singleton actions a ih =>
    rw [run_concat] at hc
    rw [releasedIn_concat]
    obtain ⟨hnone, -⟩ | ⟨b, hb, rfl⟩ := (act_step _ a).context?_cases hc
    · obtain ⟨hreleased, -⟩ := (act_step _ a).context?_new hc hnone
      have hnot : ¬ w.ReleasedIn actions number := fun h => by
        have := h.isSome
        rw [hnone] at this
        cases this
      simp [hreleased, hnot, hnone]
    · simp [ih hb, hb]

/-- The action is one that puts a context on an engine that is there. -/
def Action.joins : Action → Bool
  | create p _ => !p.isManaged
  | customize .. => true
  | _ => false

theorem Action.boots?_of_joins {a : Action} (h : a.joins = true) : a.boots? = none := by
  cases a with
  | create p o =>
    cases hp : p.engines with
    | host => rw [boots?, Provider.boots?, hp]
    | _ => simp [joins, Provider.isManaged, EngineSource.isManaged, hp] at h
  | _ => rfl

/-- The context of this number is derived from another, or made for a host, in the run. -/
def JoinedIn (w : World) (actions : List Action) (number : Nat) : Prop :=
  ∃ before a after, actions = before ++ a :: after ∧ a.joins = true ∧
    (w.run before).made? a = some number

/-- What is derived or made for a host owns no engine. -/
theorem not_owns_of_joinedIn {w : World} {actions : List Action} {number : Nat}
    (h : w.JoinedIn actions number) :
    ∃ c, (w.run actions).context? number = some c ∧ c.ownsEngine = false := by
  obtain ⟨before, a, after, rfl, hjoins, hmade⟩ := h
  obtain ⟨-, c, hc, -, howns, -⟩ := (act_step (w.run before) a).context?_made hmade
  obtain ⟨d, hd, -, hd'⟩ := context?_run hc after
  refine ⟨d, ?_, ?_⟩
  · rw [run_append]
    exact hd
  · rw [hd', howns, Action.boots?_of_joins hjoins]
    rfl

/-! ### Owners and engines -/

/-- Engines that are owned have been booted. -/
def OwnersBooted (w : World) : Prop :=
  ∀ number c, w.context? number = some c → c.ownsEngine = true → c.engine < w.engines.length

theorem OwnersBooted.step {w w' : World} {a : Action} (h : w.OwnersBooted)
    (hstep : Step w a w') : w'.OwnersBooted := by
  intro number d hd howns
  have hlength := hstep.length_engines
  obtain ⟨hnone, -⟩ | ⟨c, hc, rfl⟩ := hstep.context?_cases hd
  · obtain ⟨-, hboots, hengine⟩ := hstep.context?_new hd hnone
    obtain ⟨e, he⟩ := Option.isSome_iff_exists.mp (hboots.symm.trans howns)
    rw [hengine howns, hlength, he]
    exact Nat.lt_succ_self _
  · have := h number c hc howns
    dsimp only
    omega

theorem OwnersBooted.run {w : World} (h : w.OwnersBooted) (actions : List Action) :
    (w.run actions).OwnersBooted :=
  holds_run OwnersBooted.step h actions

/-- The engine is owned by this context and by no other, and has been shut down once if the context
has been released and never before. -/
structure Owned (w : World) (n number : Nat) (released : Bool) : Prop where
  engine : ∃ e, w.engines[n]? = some e ∧ e.shutdowns = released.toNat
  owner : ∃ c, w.context? number = some c ∧ c.engine = n ∧ c.ownsEngine = true ∧
    c.released = released
  only : ∀ other c, w.context? other = some c → c.ownsEngine = true → c.engine = n →
    other = number

/-- The engine is as given, and no context owns it. -/
structure Unowned (w : World) (n : Nat) (e : Engine) : Prop where
  engine : w.engines[n]? = some e
  none : ∀ number c, w.context? number = some c → c.ownsEngine = true → c.engine ≠ n

section Steps

variable {w w' : World} {a : Action} {n : Nat}

/-- Who owns an engine that was booted before owned it before. -/
theorem owner_old (hstep : Step w a w') (hlt : n < w.engines.length) {number : Nat} {d : Context}
    (hd : w'.context? number = some d) (howns : d.ownsEngine = true) (hengine : d.engine = n) :
    ∃ c, w.context? number = some c ∧ c.ownsEngine = true ∧ c.engine = n := by
  obtain ⟨hnone, -⟩ | ⟨c, hc, rfl⟩ := hstep.context?_cases hd
  · obtain ⟨-, -, hnew⟩ := hstep.context?_new hd hnone
    have := hnew howns
    omega
  · exact ⟨c, hc, howns, hengine⟩

theorem Owned.step {number : Nat} {released : Bool} (h : w.Owned n number released)
    (hstep : Step w a w') : w'.Owned n number (released || a.releases number) := by
  obtain ⟨e, he, hcount⟩ := h.engine
  obtain ⟨c, hc, hengine, howns, hreleased⟩ := h.owner
  have hlt : n < w.engines.length := (List.getElem?_eq_some_iff.mp he).1
  refine ⟨?_, ⟨_, hstep.context?_old hc, hengine, howns, by rw [hreleased]⟩, ?_⟩
  · by_cases hfirst : c.released = false ∧ a.releases number = true
    · refine ⟨e.shutDown, hstep.engine_shut he hc howns hengine hfirst.1 hfirst.2, ?_⟩
      obtain rfl := hreleased.symm.trans hfirst.1
      rw [Engine.shutDown, hcount, hfirst.2]
      rfl
    · refine ⟨e, hstep.engine_kept he fun other d hd howns' hengine' hreleases => ?_, ?_⟩
      · obtain rfl := h.only other d hd howns' hengine'
        obtain rfl := Option.some.inj (hd.symm.trans hc)
        simpa [hreleases] using hfirst
      · cases hr : a.releases number with
        | false => rw [hcount, Bool.or_false]
        | true =>
          have : c.released = true := by simpa [hr] using hfirst
          rw [hcount, ← hreleased, this]
          rfl
  · intro other d hd howns' hengine'
    obtain ⟨b, hb, hbowns, hbengine⟩ := owner_old hstep hlt hd howns' hengine'
    exact h.only other b hb hbowns hbengine

theorem Unowned.step {e : Engine} (h : w.Unowned n e) (hstep : Step w a w') :
    w'.Unowned n e := by
  have hlt : n < w.engines.length := (List.getElem?_eq_some_iff.mp h.engine).1
  refine ⟨hstep.engine_kept h.engine fun number c hc howns hengine =>
    absurd hengine (h.none number c hc howns), fun number d hd howns hengine => ?_⟩
  obtain ⟨c, hc, hcowns, hcengine⟩ := owner_old hstep hlt hd howns hengine
  exact h.none number c hc hcowns hcengine

/-- An engine that is booted for a context is owned by it. -/
theorem owned_of_boots (hbooted : w.OwnersBooted) (hstep : Step w a w') {e : Engine}
    (hboots : a.boots? = some e) (hnew : e.shutdowns = 0) {number : Nat}
    (hmade : w.made? a = some number) : w'.Owned w.engines.length number false := by
  obtain ⟨hnone, d, hd, hreleased, howns, hengine⟩ := hstep.context?_made hmade
  have howns : d.ownsEngine = true := by rw [howns, hboots]; rfl
  refine ⟨⟨e, ?_, hnew⟩, ⟨d, hd, hengine howns, howns, hreleased⟩, ?_⟩
  · rw [hstep.engine_booted hboots, hmade]
    rfl
  · intro other b hb hbowns hbengine
    obtain ⟨-, hother⟩ | ⟨c, hc, rfl⟩ := hstep.context?_cases hb
    · exact Option.some.inj (hother.symm.trans hmade)
    · exact absurd hbengine (Nat.ne_of_lt (hbooted other c hc hbowns))

/-- An engine whose context could not be assembled has no owner. -/
theorem unowned_of_boots (hbooted : w.OwnersBooted) (hstep : Step w a w') {e : Engine}
    (hboots : a.boots? = some e) (hmade : w.made? a = none) :
    w'.Unowned w.engines.length e.shutDown := by
  refine ⟨?_, fun number d hd howns hengine => ?_⟩
  · rw [hstep.engine_booted hboots, hmade]
    rfl
  · obtain ⟨-, hnumber⟩ | ⟨c, hc, rfl⟩ := hstep.context?_cases hd
    · rw [hmade] at hnumber
      cases hnumber
    · exact absurd hengine (Nat.ne_of_lt (hbooted number c hc howns))

end Steps

theorem Owned.run {w : World} {n number : Nat} {released : Bool} (h : w.Owned n number released)
    (actions : List Action) :
    (w.run actions).Owned n number (released || actions.any (·.releases number)) := by
  induction actions generalizing w released with
  | nil => rwa [List.any_nil, Bool.or_false]
  | cons a actions ih =>
    rw [List.any_cons, ← Bool.or_assoc]
    exact ih (h.step (act_step w a))

theorem Unowned.run {w : World} {n : Nat} {e : Engine} (h : w.Unowned n e)
    (actions : List Action) : (w.run actions).Unowned n e :=
  holds_run Unowned.step h actions

/-! ### Closing what owns nothing -/

theorem engines_close {w : World} {number : Nat} {c : Context} (hc : w.context? number = some c)
    (howns : c.ownsEngine = false) : (w.close number).engines = w.engines := by
  cases hreleased : c.released <;> simp [close, hc, hreleased, howns, release]

/-- Contexts that own no engine can be closed and dropped in any number and order. -/
theorem engines_run_close {w : World} {closing : List Action}
    (h : ∀ a ∈ closing, ∃ number c, (a = .close number ∨ a = .drop number) ∧
      w.context? number = some c ∧ c.ownsEngine = false) :
    (w.run closing).engines = w.engines := by
  induction closing using List.reverseRecOn with
  | nil => rfl
  | append_singleton closing a ih =>
    obtain ⟨number, c, ha, hc, howns⟩ := h a (by simp)
    obtain ⟨d, hd, -, hd'⟩ := context?_run hc closing
    have hact : (w.run closing).act a = (w.run closing).close number := by
      rcases ha with rfl | rfl <;> rfl
    rw [run_concat, hact, engines_close hd (hd'.trans howns)]
    exact ih fun b hb => h b (List.mem_append_left [a] hb)

/-! ### Refusing -/

/-- The answer is that the context is released. -/
def Refused {α : Type} (answer : Option (Except ContextError α × World)) : Prop :=
  ∃ name w, answer = some (.error (.released name), w)

theorem refused_customize_iff {w : World} {number : Nat} {c : Context}
    (hc : w.context? number = some c) (o : Overrides) :
    Refused (w.customize number o) ↔ c.isOver (w.engine c.engine) = true := by
  rw [← Context.customize_released_iff c (w.engine c.engine) w.contexts.length o, customize, hc,
    Option.map_some]
  constructor
  · rintro ⟨name, w', h⟩
    cases hcustomize : c.customize (w.engine c.engine) w.contexts.length o with
    | ok d =>
      rw [hcustomize] at h
      cases h
    | error cause =>
      rw [hcustomize] at h
      cases h
      exact ⟨name, rfl⟩
  · rintro ⟨name, h⟩
    rw [h]
    exact ⟨name, w, rfl⟩

theorem refused_resolve_iff {w : World} {number : Nat} {c : Context}
    (hc : w.context? number = some c) (artifact : Artifact) :
    Refused (w.resolve number artifact) ↔ c.isOver (w.engine c.engine) = true := by
  rw [resolve, hc, Option.map_some]
  cases hover : c.isOver (w.engine c.engine) with
  | true =>
    refine ⟨fun _ => rfl, fun _ => ⟨c.provider.name, w, ?_⟩⟩
    simp only [resolveIn, hover, if_true]
  | false =>
    refine iff_of_false ?_ Bool.false_ne_true
    rintro ⟨name, w', h⟩
    simp only [resolveIn, hover, Bool.false_eq_true, if_false, Option.some.injEq,
      Prod.mk.injEq] at h
    cases hresult : ((w.engine c.engine).resolve c.session w.files artifact
        c.repositories).result with
    | ok found =>
      rw [hresult] at h
      cases h.1
    | error cause =>
      rw [hresult] at h
      cases h.1

/-! ### The promise for all runs -/

/-- What is promised of a run that starts without contexts, whatever engines the host has. -/
structure OwnershipKept (w : World) (actions : List Action) : Prop where
  /-- Every engine is either the host's or booted by a creation. -/
  booted : ∀ n e, (w.run actions).engines[n]? = some e → w.engines.length ≤ n →
    ∃ before p o after, actions = before ++ .create p o :: after ∧
      p.boots?.isSome = true ∧ (w.run before).engines.length = n
  /-- An engine that gets its context is owned by it alone, and is shut down once, when that context
  is closed or dropped for the first time. -/
  owned : ∀ before p o after number, actions = before ++ .create p o :: after →
    p.boots?.isSome = true → ((w.run before).create p o).1 = .ok number →
    (w.run actions).Owned (w.run before).engines.length number
      (after.any (·.releases number))
  /-- An engine whose context cannot be assembled is shut down once, and owned by nobody. -/
  failed : ∀ before p o after cause e, actions = before ++ .create p o :: after →
    p.boots? = some e → ((w.run before).create p o).1 = .error cause →
    (w.run actions).Unowned (w.run before).engines.length e.shutDown ∧ e.shutDown.shutdowns = 1
  /-- The engines of the host are left alone. -/
  spared : ∀ n e, w.engines[n]? = some e → (w.run actions).Unowned n e
  /-- What is derived or made for a host can be closed without harm to any engine. -/
  harmless : ∀ closing : List Action,
    (∀ a ∈ closing, ∃ number, (a = .close number ∨ a = .drop number) ∧
      w.JoinedIn actions number) →
    (w.run (actions ++ closing)).engines = (w.run actions).engines
  /-- A context refuses to be customized exactly when it was closed or its engine is down. -/
  customizing : ∀ number c, (w.run actions).context? number = some c → ∀ o,
    Refused ((w.run actions).customize number o) ↔
      w.ReleasedIn actions number ∨ ((w.run actions).engine c.engine).isDown = true
  /-- So it does with resolving. -/
  resolving : ∀ number c, (w.run actions).context? number = some c → ∀ artifact,
    Refused ((w.run actions).resolve number artifact) ↔
      w.ReleasedIn actions number ∨ ((w.run actions).engine c.engine).isDown = true

theorem ownersBooted_of_fresh {w : World} (hfresh : w.contexts = []) : w.OwnersBooted := by
  intro number c hc
  rw [context?, hfresh] at hc
  cases hc

/-- Engines beyond those at the start are booted in the run. -/
theorem exists_boot (w : World) (actions : List Action) {n : Nat} (hle : w.engines.length ≤ n)
    (hlt : n < (w.run actions).engines.length) :
    ∃ before p o after, actions = before ++ .create p o :: after ∧ p.boots?.isSome = true ∧
      (w.run before).engines.length = n := by
  induction actions using List.reverseRecOn with
  | nil => exact absurd hlt (Nat.not_lt.mpr hle)
  | append_singleton actions a ih =>
    by_cases hold : n < (w.run actions).engines.length
    · obtain ⟨before, p, o, after, rfl, hboots, hn⟩ := ih hold
      exact ⟨before, p, o, after ++ [a], by simp, hboots, hn⟩
    · rw [run_concat, (act_step _ a).length_engines] at hlt
      cases a with
      | create p o =>
        cases hboots : p.boots? with
        | none =>
          rw [Action.boots?, hboots] at hlt
          exact absurd hlt hold
        | some e =>
          rw [Action.boots?, hboots] at hlt
          refine ⟨actions, p, o, [], rfl, by rw [hboots]; rfl, ?_⟩
          simp only [Option.toList_some, List.length_singleton] at hlt
          omega
      | _ => exact absurd hlt hold

section Creating

variable {w : World} (hfresh : w.contexts = []) {before : List Action} {p : Provider}
  {o : Overrides} {e : Engine} (hboots : p.boots? = some e) (after : List Action)

include hfresh hboots

theorem owned_after_create (hnew : e.shutdowns = 0) {number : Nat}
    (hmade : ((w.run before).create p o).1 = .ok number) :
    (w.run (before ++ .create p o :: after)).Owned (w.run before).engines.length number
      (after.any (·.releases number)) := by
  have hmakes : (w.run before).made? (.create p o) = some number := by
    rw [made?, hmade]
    rfl
  have howned := owned_of_boots ((ownersBooted_of_fresh hfresh).run before)
    (act_step _ (.create p o)) hboots hnew hmakes
  have hrun := howned.run after
  rw [Bool.false_or] at hrun
  rw [run_append]
  exact hrun

theorem unowned_after_create {cause : ContextError}
    (hfailed : ((w.run before).create p o).1 = .error cause) :
    (w.run (before ++ .create p o :: after)).Unowned (w.run before).engines.length e.shutDown := by
  have hmakes : (w.run before).made? (.create p o) = none := by
    rw [made?, hfailed]
    rfl
  have hunowned := unowned_of_boots ((ownersBooted_of_fresh hfresh).run before)
    (act_step _ (.create p o)) hboots hmakes
  rw [run_append]
  exact hunowned.run after

end Creating

/-- Over every run each engine has the one owner that it was booted for and is shut down with it,
and a context refuses its services exactly when it was closed or its engine is down. -/
theorem ownership_kept (w : World) (hfresh : w.contexts = []) (actions : List Action)
    (hnew : ∀ a ∈ actions, a.HandsOutNew) : w.OwnershipKept actions := by
  have hover : ∀ number c, (w.run actions).context? number = some c →
      (c.isOver ((w.run actions).engine c.engine) = true ↔
        w.ReleasedIn actions number ∨ ((w.run actions).engine c.engine).isDown = true) := by
    intro number c hc
    rw [Context.isOver, Bool.or_eq_true, released_iff hfresh actions hc]
  constructor
  case booted =>
    intro n e he hle
    exact exists_boot w actions hle (List.getElem?_eq_some_iff.mp he).1
  case owned =>
    rintro before p o after number rfl hboots hmade
    obtain ⟨e, hboots⟩ := Option.isSome_iff_exists.mp hboots
    have hzero : e.shutdowns = 0 := hnew (.create p o) (by simp) e hboots
    exact owned_after_create hfresh hboots after hzero hmade
  case failed =>
    rintro before p o after cause e rfl hboots hfailed
    have hzero : e.shutdowns = 0 := hnew (.create p o) (by simp) e hboots
    refine ⟨unowned_after_create hfresh hboots after hfailed, ?_⟩
    rw [Engine.shutDown, hzero]
  case spared =>
    intro n e he
    refine Unowned.run ⟨he, fun number c hc => ?_⟩ actions
    rw [context?, hfresh] at hc
    cases hc
  case harmless =>
    intro closing hclosing
    rw [run_append]
    apply engines_run_close
    intro a ha
    obtain ⟨number, hnumber, hjoined⟩ := hclosing a ha
    obtain ⟨c, hc, howns⟩ := not_owns_of_joinedIn hjoined
    exact ⟨number, c, hnumber, hc, howns⟩
  case customizing =>
    intro number c hc o
    rw [refused_customize_iff hc, hover number c hc]
  case resolving =>
    intro number c hc artifact
    rw [refused_resolve_iff hc, hover number c hc]

/-- A session with two attempts to make an owner, a derived context and one of the host. -/
def twoOwners : List Action :=
  let lent : Session := { localChain := { head := ⟨⟨"/m2"⟩, false⟩ } }
  [.create smallProvider (small.overridesAt "/m2"), .create smallProvider (small.overridesAt ""),
    .customize 0 (small.overridesAt "/m2"),
    .create { name := "host", engines := .host 0 lent [] } (small.overridesAt "/m2"),
    .drop 1, .close 2, .close 0, .close 0, .drop 0]

/-- The engine of the host is spared, the one that got its context is shut down with it, and the
other one at once. -/
theorem ownership_kept_twoOwners : small.OwnershipKept twoOwners ∧
    (small.run twoOwners).engines.map (·.shutdowns) = [0, 1, 1] := by
  refine ⟨ownership_kept small rfl twoOwners ?_, by decide⟩
  simp [twoOwners, smallProvider, Action.HandsOutNew, Provider.HandsOutNew, Provider.boots?,
    Except.toOption]

end Depot.World
