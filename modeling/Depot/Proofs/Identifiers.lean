import Depot.Proofs.Composing
import Depot.Proofs.Lineage

/-! The identifiers of a context's repositories. Composing keeps each identifier where it comes
first, so every context that was ever made has each identifier once (`World.Origin.nodup_ids`), also
where the list that a host hands over repeats some, and where one mirror takes the place of several
repositories. With no repetitions in the parent's list or in the added one, deriving puts the one
after the other and leaves out what comes again (`Context.Joined`). -/

namespace Depot

namespace Context

/-- The identifiers of the repositories that are contacted. -/
def ids (c : Context) : List String :=
  c.repositories.map (·.id)

/-- The identifiers of the repositories that are contacted for those of the overrides. -/
def addedIds (c : Context) (o : Overrides) : List String :=
  (c.session.selectors.aggregate o.repositories).map (·.id)

/-- How the child's identifiers come from the parent's and those that the overrides add. -/
structure Joined (parent : Context) (o : Overrides) (child : Context) : Prop where
  append : o.mode = .append →
    child.ids = parent.ids ++ (parent.addedIds o).filter (· ∉ parent.ids)
  prepend : o.mode = .prepend →
    child.ids = parent.addedIds o ++ parent.ids.filter (· ∉ parent.addedIds o)
  replace : o.mode = .replace → o.repositories ≠ [] → child.ids = parent.addedIds o
  keep : o.mode = .replace → o.repositories = [] → child.ids = parent.ids

theorem ids_derived (c : Context) (number : Nat) (o : Overrides) (switched : Option LocalChain) :
    (c.derived number o switched).ids = ((Listing.inTurn c.repositories
      (c.session.selectors.aggregate o.repositories) o.mode).map (·.id)).eraseDups :=
  Listing.map_id_compose _ _ _

theorem nodup_ids_derived (c : Context) (number : Nat) (o : Overrides)
    (switched : Option LocalChain) : (c.derived number o switched).ids.Nodup :=
  Listing.nodup_ids_compose _ _ _

theorem joined_derived {c : Context} (h : c.ids.Nodup) (number : Nat) (o : Overrides)
    (switched : Option LocalChain) : c.Joined o (c.derived number o switched) := by
  have hadded : (c.addedIds o).Nodup := Selectors.nodup_ids_aggregate _ o.repositories
  have hids := c.ids_derived number o switched
  constructor
  · intro hmode
    rw [hids, hmode, Listing.inTurn, List.map_append]
    exact Listing.eraseDups_append_of_nodup h hadded
  · intro hmode
    rw [hids, hmode, Listing.inTurn, List.map_append]
    exact Listing.eraseDups_append_of_nodup hadded h
  · intro hmode hsome
    have hfilled : ¬(c.session.selectors.aggregate o.repositories).isEmpty = true := by
      rwa [Selectors.isEmpty_aggregate, List.isEmpty_iff]
    rw [hids, hmode, Listing.inTurn, if_neg hfilled]
    exact Listing.eraseDups_of_nodup hadded
  · intro hmode hnone
    have hempty : (c.session.selectors.aggregate o.repositories).isEmpty = true := by
      rwa [Selectors.isEmpty_aggregate, List.isEmpty_iff]
    rw [hids, hmode, Listing.inTurn, if_pos hempty]
    exact Listing.eraseDups_of_nodup h

end Context

namespace World

theorem Origin.nodup_ids {w : World} {a : Action} {c : Context} (h : w.Origin a c) :
    c.ids.Nodup := by
  cases h with
  | assembled boots assembles =>
    obtain ⟨resolved, chain, -, rfl⟩ := Context.onGround_of_assemble assembles
    exact Selectors.nodup_ids_aggregate _ _
  | lent lends customizes =>
    obtain ⟨switched, rfl⟩ := Context.derived_of_customize customizes
    exact Context.nodup_ids_derived _ _ _ switched
  | derived found customizes =>
    obtain ⟨switched, rfl⟩ := Context.derived_of_customize customizes
    exact Context.nodup_ids_derived _ _ _ switched

/-- Every context of a run has each identifier once, and whenever one is customized the identifiers
of the overrides join those that it has. -/
theorem identifiers_kept (w : World) (hfresh : w.contexts = []) (actions : List Action) :
    (∀ number c, (w.run actions).context? number = some c → c.ids.Nodup) ∧
    ∀ number o child w', (w.run actions).customize number o = some (.ok child, w') →
      ∃ parent made, (w.run actions).context? number = some parent ∧
        w'.context? child = some made ∧ parent.Joined o made := by
  have honce : ∀ number c, (w.run actions).context? number = some c → c.ids.Nodup := by
    intro number c hc
    obtain ⟨before, a, made, horigin, hmade⟩ := origin_of_context hfresh hc
    rw [hmade]
    exact horigin.nodup_ids
  refine ⟨honce, ?_⟩
  intro number o child w' hcustomize
  have hmade : (w.run actions).made? (.customize number o) = some child := by
    rw [made?, hcustomize]
    rfl
  have hact : (w.run actions).act (.customize number o) = w' := by
    rw [act, hcustomize]
    rfl
  obtain ⟨parent, switched, hparent, hcontext⟩ := derived_of_made hmade
  rw [hact] at hcontext
  have hjoined := Context.joined_derived (honce number parent hparent)
    (w.run actions).contexts.length o switched
  exact ⟨parent, _, hparent, hcontext, hjoined⟩

/-- A host that repeats an identifier in its list, and has one mirror for two others. -/
def repeating : Provider :=
  let lent : Session :=
    { localChain := { head := ⟨⟨"/m2"⟩, false⟩ }
      selectors := { mirrors := [{ id := "m", url := "https://m/", mirrorOf := "c,d" }] } }
  { name := "host"
    engines := .host 0 lent
      [{ id := "a", url := "https://a/" }, { id := "b", url := "https://b/" },
        { id := "a", url := "https://again/" }] }

/-- Overrides that add one repository that the host has and the two that are mirrored. -/
def joining : Overrides :=
  { small.overridesAt "/m2" with
    repositories := [{ id := "d", url := "https://d/" }, { id := "b", url := "https://b/" },
      { id := "c", url := "https://c/" }]
    mode := .append }

/-- The repetition goes when the context is created, and what is added comes to one identifier. -/
theorem identifiers_kept_repeating :
    ∃ child w' made, (small.run [.create repeating (small.overridesAt "/m2")]).customize 0 joining =
      some (.ok child, w') ∧ w'.context? child = some made ∧ made.ids = ["a", "b", "m"] := by
  obtain ⟨-, hjoined⟩ :=
    identifiers_kept small rfl [.create repeating (small.overridesAt "/m2")]
  obtain ⟨parent, made, hparent, hmade, h⟩ := hjoined 0 joining 1 _ rfl
  obtain rfl := Option.some.inj hparent
  refine ⟨1, _, made, rfl, hmade, ?_⟩
  rw [h.append rfl]
  decide

end World

end Depot
