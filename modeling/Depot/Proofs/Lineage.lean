import Depot.Proofs.Derivation
import Depot.Proofs.Ownership

/-! Where contexts come from. A context is assembled around the engine that is booted for it, put on
the engine of a host, or derived from another one (`Origin`); afterwards it changes only by being
released. So a property of contexts that does not look at the release holds throughout a run when it
holds of whatever is made (`origin_of_context`), and along a line of descent when it holds at its
start and each derivation hands it on (`Descends.context`). -/

namespace Depot

namespace Context

theorem derived_of_customize {c d : Context} {engine : Engine} {number : Nat} {o : Overrides}
    (h : c.customize engine number o = .ok d) : ∃ switched, d = c.derived number o switched := by
  obtain ⟨-, switched, -, hd⟩ := customize_eq_ok_iff.mp h
  exact ⟨switched, hd.symm⟩

theorem onGround_of_assemble {host : Host} {files : FileSystem} {p : Provider} {engineNumber : Nat}
    {engine : Engine} {number : Nat} {o : Overrides} {c : Context}
    (h : assemble host files p engineNumber engine number o = .ok c) :
    ∃ resolved chain, ground host files p engine o = .ok (resolved, chain) ∧
      c = onGround p engineNumber number o resolved chain := by
  rw [assemble_eq] at h
  obtain ⟨⟨resolved, chain⟩, hground, rfl⟩ := Succeeding.map_eq_ok.mp h
  exact ⟨resolved, chain, hground, rfl⟩

end Context

namespace World

/-- How an action comes by the context that it makes. -/
inductive Origin (w : World) : Action → Context → Prop where
  | assembled {p : Provider} {o : Overrides} {e : Engine} {c : Context}
      (boots : p.boots? = some e)
      (assembles : Context.assemble w.host w.files p w.engines.length e w.contexts.length o =
        .ok c) : Origin w (.create p o) c
  | lent {p : Provider} {o : Overrides} {engine : Nat} {session : Session}
      {repositories : List RemoteRepository} {c : Context}
      (lends : p.engines = .host engine session repositories)
      (customizes : (Context.hosted w.host p engine session repositories).customize
        (w.engine engine) w.contexts.length o = .ok c) : Origin w (.create p o) c
  | derived {number : Nat} {o : Overrides} {parent c : Context}
      (found : w.context? number = some parent)
      (customizes : parent.customize (w.engine parent.engine) w.contexts.length o = .ok c) :
      Origin w (.customize number o) c

theorem of_settle {w : World} {result : Except ContextError Context} {number : Nat}
    (h : (w.settle result).1.toOption = some number) :
    ∃ c, result = .ok c ∧ (w.settle result).2.context? number = some c := by
  cases result with
  | error cause => cases h
  | ok c =>
    obtain rfl : w.contexts.length = number := Option.some.inj h
    exact ⟨c, rfl, context?_addContext w c⟩

theorem origin_of_made {w : World} {a : Action} {number : Nat} (h : w.made? a = some number) :
    ∃ c, (w.act a).context? number = some c ∧ w.Origin a c := by
  cases a with
  | create p o =>
    have hmade : (w.create p o).1.toOption = some number := h
    rw [act]
    obtain ⟨engine, session, repositories, hp, -, hcreate⟩ | ⟨-, cause, hcreate⟩ |
      ⟨e, hboots, ⟨cause, hcreate⟩ | ⟨c, hc, hcreate⟩⟩ := create_cases w p o
    all_goals rw [hcreate] at hmade ⊢
    · obtain ⟨c, hc, hcontext⟩ := of_settle hmade
      exact ⟨c, hcontext, .lent hp hc⟩
    · cases hmade
    · cases hmade
    · obtain rfl : w.contexts.length = number := Option.some.inj hmade
      exact ⟨c, context?_addContext (w.addEngine e) c, .assembled hboots hc⟩
  | customize parentNumber o =>
    have hmade : (w.customize parentNumber o).bind (·.1.toOption) = some number := h
    cases hparent : w.context? parentNumber with
    | none =>
      rw [customize, hparent] at hmade
      cases hmade
    | some parent =>
      have hcustomize : w.customize parentNumber o = some (w.settle
          (parent.customize (w.engine parent.engine) w.contexts.length o)) := by
        rw [customize, hparent]
        rfl
      rw [hcustomize] at hmade
      obtain ⟨c, hc, hcontext⟩ := of_settle hmade
      rw [act, hcustomize]
      exact ⟨c, hcontext, .derived hparent hc⟩
  | resolve | close | drop => cases h

theorem derived_of_made {w : World} {number child : Nat} {o : Overrides}
    (h : w.made? (.customize number o) = some child) :
    ∃ parent switched, w.context? number = some parent ∧
      (w.act (.customize number o)).context? child =
        some (parent.derived w.contexts.length o switched) := by
  obtain ⟨c, hc, horigin⟩ := origin_of_made h
  cases horigin with
  | derived found customizes =>
    obtain ⟨switched, rfl⟩ := Context.derived_of_customize customizes
    exact ⟨_, switched, found, hc⟩

/-- Every context of a run that starts without contexts has an origin in it, and differs from what
was made there at most by its release. -/
theorem origin_of_context {w : World} (hfresh : w.contexts = []) {actions : List Action}
    {number : Nat} {c : Context} (hc : (w.run actions).context? number = some c) :
    ∃ before a made, (w.run before).Origin a made ∧ c = { made with released := c.released } := by
  induction actions using List.reverseRecOn generalizing c with
  | nil =>
    rw [run, List.foldl_nil, context?, hfresh] at hc
    cases hc
  | append_singleton actions a ih =>
    rw [run_concat] at hc
    obtain ⟨-, hnumber⟩ | ⟨b, hold, rfl⟩ := (act_step _ a).context?_cases hc
    · obtain ⟨made, hmade, horigin⟩ := origin_of_made hnumber
      obtain rfl := Option.some.inj (hc.symm.trans hmade)
      exact ⟨actions, a, c, horigin, rfl⟩
    · obtain ⟨before, first, made, horigin, hb⟩ := ih hold
      exact ⟨before, first, made, horigin, by rw [hb]⟩

/-- A managed context is created around the engine that is booted for it, on the ground that is found
for that engine. -/
theorem created_ground {w : World} {p : Provider} (hmanaged : p.isManaged = true) {o : Overrides}
    {number : Nat} (hcreate : (w.create p o).1 = .ok number) :
    ∃ e resolved chain, p.boots? = some e ∧
      Context.ground w.host w.files p e o = .ok (resolved, chain) ∧
      w.create p o = (.ok w.contexts.length, (w.addEngine e).addContext
        (Context.onGround p w.engines.length w.contexts.length o resolved chain)) := by
  cases hboots : p.boots? with
  | none =>
    obtain ⟨cause, hnone⟩ := create_of_no_engine hmanaged hboots w
    rw [hnone] at hcreate
    cases hcreate
  | some e =>
    cases hground : Context.ground w.host w.files p e o with
    | error cause =>
      rw [create_of_no_ground hboots hground] at hcreate
      cases hcreate
    | ok found => exact ⟨e, found.1, found.2, rfl, hground, create_onGround hboots hground⟩

/-- A managed context that has been created stands on the settings that apply. -/
theorem created_onGround {w : World} {p : Provider} (hmanaged : p.isManaged = true) {o : Overrides}
    {number : Nat} (hcreate : (w.create p o).1 = .ok number) :
    ∃ resolved chain, p.resolver.resolve w.host w.files o = .ok resolved ∧
      (w.create p o).2.context? number =
        some (Context.onGround p w.engines.length w.contexts.length o resolved chain) := by
  obtain ⟨e, resolved, chain, -, hground, hmade⟩ := created_ground hmanaged hcreate
  rw [hmade] at hcreate ⊢
  obtain rfl : w.contexts.length = number := Except.ok.inj hcreate
  exact ⟨resolved, chain, Context.resolve_of_ground hground, context?_addContext _ _⟩

/-! ### Descent -/

/-- The context of this number comes from that of the root by these overrides, each customizing what
came of those before, in a run in which anything else may happen in between. -/
inductive Descends (w : World) (root : Nat) : List Action → List Overrides → Nat → Prop where
  | root : Descends w root [] [] root
  | wait {actions : List Action} {os : List Overrides} {number : Nat}
      (descends : Descends w root actions os number) (a : Action) :
      Descends w root (actions ++ [a]) os number
  | customize {actions : List Action} {os : List Overrides} {number child : Nat} {o : Overrides}
      (descends : Descends w root actions os number)
      (makes : (w.run actions).made? (.customize number o) = some child) :
      Descends w root (actions ++ [.customize number o]) (os ++ [o]) child

/-- What holds of the root, whether it is released or not, and is handed on whenever a context is
customized holds along a line of descent. The engine is the root's at some time of the run. -/
theorem Descends.context_of_customize {w : World} {root : Nat} {actions : List Action}
    {os : List Overrides} {number : Nat} (h : w.Descends root actions os number) {r : Context}
    (hr : w.context? root = some r) {P : List Overrides → Context → Prop} (hroot : P [] r)
    (hrelease : ∀ os c released, P os c → P os { c with released })
    (hcustomize : ∀ os c before child o d, P os c →
      c.customize ((w.run before).engine r.engine) child o = .ok d → P (os ++ [o]) d) :
    ∃ c, (w.run actions).context? number = some c ∧ c.engine = r.engine ∧ P os c := by
  induction h with
  | root => exact ⟨r, hr, rfl, hroot⟩
  | wait _ a ih =>
    obtain ⟨c, hc, hengine, hP⟩ := ih
    rw [run_concat]
    exact ⟨_, (act_step _ a).context?_old hc, hengine, hrelease _ c _ hP⟩
  | customize _ makes ih =>
    obtain ⟨c, hc, hengine, hP⟩ := ih
    obtain ⟨d, hd, horigin⟩ := origin_of_made makes
    cases horigin with
    | derived found customizes =>
      obtain rfl := Option.some.inj (found.symm.trans hc)
      rw [run_concat]
      refine ⟨d, hd, (Context.of_customize customizes).1.trans hengine, ?_⟩
      rw [hengine] at customizes
      exact hcustomize _ _ _ _ _ d hP customizes

/-- It holds already if each derivation hands it on, whatever the local chain is switched to. -/
theorem Descends.context {w : World} {root : Nat} {actions : List Action} {os : List Overrides}
    {number : Nat} (h : w.Descends root actions os number) {r : Context}
    (hr : w.context? root = some r) {P : List Overrides → Context → Prop} (hroot : P [] r)
    (hrelease : ∀ os c released, P os c → P os { c with released })
    (hderive : ∀ os c o child switched, P os c → P (os ++ [o]) (c.derived child o switched)) :
    ∃ c, (w.run actions).context? number = some c ∧ P os c := by
  obtain ⟨c, hc, -, hP⟩ := h.context_of_customize hr hroot hrelease
    fun os c before child o d hP hd => by
      obtain ⟨switched, rfl⟩ := Context.derived_of_customize hd
      exact hderive os c o child switched hP
  exact ⟨c, hc, hP⟩

end World

end Depot
