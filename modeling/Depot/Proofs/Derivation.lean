import Depot.Proofs.Aggregation
import Depot.Proofs.Steps

/-! Two ways of adding repositories. They can be named when a context is created, or the context can
be created without them and customized. The first way composes what is discovered with what is added
and then aggregates; the second aggregates both and then composes. As long as namesakes are equal
the two contexts have the same repositories (`Context.repositories_derived_onGround`). -/

namespace Depot

namespace Context

open Listing

/-- The repositories of a context that stands on its ground without any of its own. -/
theorem repositories_onGround {p : Provider} {engineNumber number : Nat} {o : Overrides}
    (hnone : o.repositories = []) (resolved : ResolvedSettings) (chain : LocalChain)
    (hsame : Consistent (discovered resolved)) :
    (onGround p engineNumber number o resolved chain).repositories =
      resolved.tables.selectors.aggregate (discovered resolved) := by
  rw [onGround, hnone, compose_nil]
  exact Selectors.aggregate_collapse _ hsame

/-- On the same ground, what is derived with more repositories has those of the context that has
them from the start. -/
theorem repositories_derived_onGround {p : Provider} {engineNumber number : Nat} {o : Overrides}
    (hnone : o.repositories = []) {resolved : ResolvedSettings} (chain : LocalChain)
    {added : List RemoteRepository} (hsame : Consistent (discovered resolved ++ added))
    (mode : Mode) {d : Overrides} (hadded : d.repositories = added) (hmode : d.mode = mode)
    (child : Nat) (switched : Option LocalChain) :
    ((onGround p engineNumber number o resolved chain).derived child d switched).repositories =
      (onGround p engineNumber number { o with repositories := added, mode } resolved
        chain).repositories := by
  have hdiscovered : Consistent (discovered resolved) :=
    hsame.mono fun r hr => List.mem_append_left added hr
  calc ((onGround p engineNumber number o resolved chain).derived child d switched).repositories
      = compose (onGround p engineNumber number o resolved chain).repositories
          (resolved.tables.selectors.aggregate added) mode := by
        rw [derived, hadded, hmode]
        rfl
    _ = compose (resolved.tables.selectors.aggregate (discovered resolved))
          (resolved.tables.selectors.aggregate added) mode := by
        rw [repositories_onGround hnone resolved chain hdiscovered]
    _ = resolved.tables.selectors.aggregate (compose (discovered resolved) added mode) :=
        (Selectors.aggregate_compose _ mode hsame).symm
    _ = (onGround p engineNumber number { o with repositories := added, mode } resolved
          chain).repositories := rfl

end Context

namespace World

open Context Listing

/-- What a creation comes to when its engine is booted and the ground is found. -/
theorem create_onGround {w : World} {p : Provider} {e : Engine} {o : Overrides}
    {resolved : ResolvedSettings} {chain : LocalChain} (hboots : p.boots? = some e)
    (hground : ground w.host w.files p e o = .ok (resolved, chain)) :
    w.create p o = (.ok w.contexts.length, (w.addEngine e).addContext
      (onGround p w.engines.length w.contexts.length o resolved chain)) := by
  rw [create_of_boots hboots]
  apply createAround_of_assembled
  rw [assemble_eq, hground]
  rfl

theorem create_of_no_ground {w : World} {p : Provider} {e : Engine} {o : Overrides}
    {cause : ContextError} (hboots : p.boots? = some e)
    (hground : ground w.host w.files p e o = .error cause) :
    w.create p o = (.error cause, w.addEngine e.shutDown) := by
  rw [create_of_boots hboots]
  apply createAround_of_failure
  rw [assemble_eq, hground]
  rfl

theorem context?_addContext (w : World) (c : Context) :
    (w.addContext c).context? w.contexts.length = some c :=
  List.getElem?_concat_length

/-- A context that is open and keeps its local repository can always be customized. -/
theorem customize_of_kept {w : World} {number : Nat} {c : Context}
    (hc : w.context? number = some c) (hopen : c.isOver (w.engine c.engine) = false)
    {d : Overrides}
    (hkept : ∀ path, d.localRepository = some path → path.sameAs c.localRepository = true) :
    w.customize number d = some (.ok w.contexts.length,
      w.addContext (c.derived w.contexts.length d none)) := by
  rw [customize, hc, Option.map_some, customize_of_open hopen, switchedChain_of_kept hkept]
  rfl

/-- It makes no difference to the repositories whether some are added to a managed context when it
is created or by customizing it afterwards, if namesakes among those that are discovered or added
are equal. -/
theorem repositories_customize_eq_create (w : World) (p : Provider) (hmanaged : p.isManaged = true)
    (o : Overrides) (hnone : o.repositories = []) (added : List RemoteRepository) (mode : Mode)
    (hsame : ∀ resolved, p.resolver.resolve w.host w.files o = .ok resolved →
      Consistent (discovered resolved ++ added)) :
    (w.create p { o with repositories := added, mode }).1 = (w.create p o).1 ∧
      ∀ number, (w.create p o).1 = .ok number → ∃ whole plain,
        (w.create p { o with repositories := added, mode }).2.context? number = some whole ∧
        (w.create p o).2.context? number = some plain ∧
        ∀ d : Overrides, d.repositories = added → d.mode = mode →
          (∀ path, d.localRepository = some path → path.sameAs plain.localRepository = true) →
          ((w.create p o).2.engine plain.engine).isDown = false →
          ∃ child w' made, (w.create p o).2.customize number d = some (.ok child, w') ∧
            w'.context? child = some made ∧ made.repositories = whole.repositories := by
  cases hboots : p.boots? with
  | none =>
    obtain ⟨cause, hcreate⟩ := create_of_no_engine hmanaged hboots w
    rw [hcreate, hcreate]
    exact ⟨rfl, fun number h => nomatch h⟩
  | some e =>
    cases hground : ground w.host w.files p e o with
    | error cause =>
      rw [create_of_no_ground hboots hground, create_of_no_ground hboots
        ((ground_repositories w.host w.files p e o added mode).trans hground)]
      exact ⟨rfl, fun number h => nomatch h⟩
    | ok found =>
      obtain ⟨resolved, chain⟩ := found
      rw [create_onGround hboots hground, create_onGround hboots
        ((ground_repositories w.host w.files p e o added mode).trans hground)]
      refine ⟨rfl, fun number hnumber => ?_⟩
      obtain rfl : w.contexts.length = number := Except.ok.inj hnumber
      refine ⟨_, _, context?_addContext _ _, context?_addContext _ _, ?_⟩
      intro d hadded hmode hkept hup
      refine ⟨_, _, _, customize_of_kept (context?_addContext _ _) ?_ hkept,
        context?_addContext _ _, ?_⟩
      · rw [isOver, hup]
        rfl
      · exact repositories_derived_onGround hnone chain (hsame resolved (resolve_of_ground hground))
          mode hadded hmode _ none

/-- The central repository is discovered, so it keeps one place when it is added again. -/
theorem repositories_customize_eq_create_small :
    ∃ child w' made, (small.create smallProvider (small.overridesAt "/m2")).2.customize 0
        { small.overridesAt "/m2" with
          repositories := [{ id := "near", url := "https://near/" }, .central]
          mode := .prepend } = some (.ok child, w') ∧
      w'.context? child = some made ∧
      made.repositories = [{ id := "near", url := "https://near/" }, .central] := by
  have hsame : ∀ resolved, smallProvider.resolver.resolve small.host small.files
      (small.overridesAt "/m2") = .ok resolved →
      Consistent (discovered resolved ++ [{ id := "near", url := "https://near/" }, .central]) := by
    intro resolved h
    obtain rfl : {} = resolved := Except.ok.inj h
    unfold Consistent
    decide
  obtain ⟨-, h⟩ := repositories_customize_eq_create small smallProvider rfl
    (small.overridesAt "/m2") rfl [{ id := "near", url := "https://near/" }, .central] .prepend
    hsame
  obtain ⟨whole, plain, hwhole, hplain, hcustomize⟩ := h 0 rfl
  cases hwhole
  cases hplain
  exact hcustomize _ rfl rfl (fun path hpath => by cases hpath; decide) rfl

end World

end Depot
