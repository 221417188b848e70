import Depot.Proofs.Collapsing
import Depot.Selection.Aggregation

/-! The algebra of aggregation. Proxies and credentials go by the address and the identifier alone,
so equipping commutes with collapsing; with that, aggregating is collapsing the candidates, two
lists can be aggregated apart or together (`aggregate_append`), and composing commutes with
aggregating as long as namesakes are equal (`aggregate_compose`). Under an identifier the aggregated
list has what the candidates of that identifier come to (`find?_aggregate`). -/

namespace Depot.Selectors

open Listing RemoteRepository

variable (s : Selectors)

@[simp] theorem equip_id (r : RemoteRepository) : (s.equip r).id = r.id := rfl

@[simp] theorem equip_mirrored (r : RemoteRepository) : (s.equip r).mirrored = r.mirrored := rfl

theorem equip_sameSource (r : RemoteRepository) : (s.equip r).SameSource r :=
  ⟨rfl, ⟨rfl, rfl, rfl⟩, rfl, rfl⟩

/-- What a repository stands in for does not bear on how it is reached. -/
theorem equip_standInFor (r : RemoteRepository) (rs : List RemoteRepository) :
    s.equip (r.standInFor rs) = (s.equip r).standInFor rs := rfl

theorem map_equip_absorb (rs : List RemoteRepository) (r : RemoteRepository) :
    (absorb rs r).map s.equip = absorb (rs.map s.equip) (s.equip r) := by
  induction rs with
  | nil => rfl
  | cons t rest ih =>
    by_cases h : t.id = r.id
    · simp only [absorb, List.map_cons, equip_id, equip_mirrored, h, if_true, equip_standInFor]
    · simp only [absorb, List.map_cons, equip_id, h, if_false, ih]

theorem map_equip_collapse (rs : List RemoteRepository) :
    (collapse rs).map s.equip = collapse (rs.map s.equip) := by
  induction rs using List.reverseRecOn with
  | nil => rfl
  | append_singleton rs r ih =>
    rw [collapse_concat, map_equip_absorb, ih, List.map_append, List.map_cons, List.map_nil,
      collapse_concat]

theorem aggregate_eq_collapse (rs : List RemoteRepository) :
    s.aggregate rs = collapse (rs.map fun r => s.equip (s.candidate r)) := by
  rw [aggregate, map_equip_collapse, List.map_map]
  rfl

theorem nodup_ids_aggregate (rs : List RemoteRepository) :
    ((s.aggregate rs).map (·.id)).Nodup := by
  rw [aggregate_eq_collapse]
  exact nodup_ids_collapse _

theorem isEmpty_aggregate (rs : List RemoteRepository) :
    (s.aggregate rs).isEmpty = rs.isEmpty := by
  rw [Bool.eq_iff_iff, List.isEmpty_iff, List.isEmpty_iff, aggregate_eq_collapse, collapse_eq_nil,
    List.map_eq_nil_iff]

/-- Under an identifier stands what the candidates of that identifier come to, equipped. -/
theorem find?_aggregate (rs : List RemoteRepository) (id : String) :
    (s.aggregate rs).find? (·.id == id) =
      (gather ((rs.filter fun r => (s.candidate r).id == id).map s.candidate)).map s.equip := by
  have hid : ((·.id == id) ∘ s.equip : RemoteRepository → Bool) = (·.id == id) := rfl
  rw [aggregate, List.find?_map, hid, find?_collapse, List.filter_map]
  rfl

/-- Two lists are aggregated apart as they are together. -/
theorem aggregate_append (rs ss : List RemoteRepository) :
    collapse (s.aggregate rs ++ s.aggregate ss) = s.aggregate (rs ++ ss) := by
  rw [aggregate_eq_collapse, aggregate_eq_collapse, aggregate_eq_collapse, collapse_append,
    List.map_append]

theorem aggregate_concat (rs : List RemoteRepository) (r : RemoteRepository) :
    s.aggregate (rs ++ [r]) = absorb (s.aggregate rs) (s.equip (s.candidate r)) := by
  rw [aggregate_eq_collapse, aggregate_eq_collapse, List.map_append, List.map_cons, List.map_nil,
    collapse_concat]

/-- A repository that comes again adds nothing. -/
theorem aggregate_concat_of_mem {rs : List RemoteRepository} {r : RemoteRepository}
    (h : r ∈ rs) : s.aggregate (rs ++ [r]) = s.aggregate rs := by
  rw [aggregate_concat, aggregate_eq_collapse]
  exact absorb_collapse_of_mem (List.mem_map_of_mem h)

/-- Leaving out repetitions first changes nothing. -/
theorem aggregate_collapse {rs : List RemoteRepository} (h : Consistent rs) :
    s.aggregate (collapse rs) = s.aggregate rs := by
  induction rs using List.reverseRecOn with
  | nil => rfl
  | append_singleton rs r ih =>
    have hrs : Consistent rs := h.mono fun t ht => List.mem_append_left [r] ht
    by_cases hr : r.id ∈ (collapse rs).map (·.id)
    · have heq : ∀ t ∈ rs, t.id = r.id → t = r := fun t ht hid =>
        h t (List.mem_append_left [r] ht) r (by simp) hid
      obtain ⟨t, ht, hid⟩ := List.mem_map.mp ((mem_ids_collapse rs r.id).mp hr)
      obtain rfl := heq t ht hid
      have habsorb : absorb (collapse rs) t = collapse rs :=
        absorb_of_mem ((mem_collapse_of_consistent hrs t).mpr ht)
          fun u hu => heq u ((mem_collapse_of_consistent hrs u).mp hu)
      rw [collapse_concat, habsorb, ih hrs, aggregate_concat_of_mem s ht]
    · rw [collapse_concat, absorb_of_new hr, aggregate_concat, aggregate_concat, ih hrs]

/-- Composing raw lists and aggregating the result is aggregating both lists and composing the
results. -/
theorem aggregate_compose (mode : Mode) {discovered explicit : List RemoteRepository}
    (h : Consistent (discovered ++ explicit)) :
    s.aggregate (compose discovered explicit mode) =
      compose (s.aggregate discovered) (s.aggregate explicit) mode := by
  cases mode with
  | replace =>
    rw [compose, compose, isEmpty_aggregate]
    split
    · rw [aggregate_collapse s (h.mono fun r hr => List.mem_append_left _ hr),
        collapse_of_nodup (nodup_ids_aggregate s discovered)]
    · have hexplicit : Consistent explicit := h.mono fun r hr => List.mem_append_right _ hr
      rw [latest_eq_collapse hexplicit, aggregate_collapse s hexplicit,
        latest_of_nodup (nodup_ids_aggregate s explicit)]
  | append => rw [compose, compose, aggregate_collapse s h, aggregate_append]
  | prepend =>
    have hswap : Consistent (explicit ++ discovered) :=
      h.mono fun r hr => List.mem_append.mpr (List.mem_append.mp hr).symm
    rw [compose, compose, aggregate_collapse s hswap, aggregate_append]

end Depot.Selectors
