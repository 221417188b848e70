import Depot.Proofs.Precedence

/-! The laws of merging. What a layer states wins over the layers below it and what it does not state
is left to them, whichever of the layers below have been merged before; so it does not matter in which
groups layers are merged, as long as their order stays. Lists of declarations keep what the upper layer
repeats, so merging settings into themselves changes nothing but the active profiles, each of which is
kept once (`merge_algebra`). -/

namespace Depot.Settings

/-! ### Lists -/

theorem union_assoc (top upper lower : List String) :
    union top (union upper lower) = union (union top upper) lower := by
  calc union top (union upper lower)
      = (top ++ (upper ++ lower)).eraseDups := by
        rw [union_eq_eraseDups, union_eq_eraseDups, Listing.eraseDups_append_eraseDups]
    _ = (top ++ upper ++ lower).eraseDups := by rw [List.append_assoc]
    _ = union (union top upper) lower := by
        rw [union_eq_eraseDups, union_eq_eraseDups, Listing.eraseDups_eraseDups_append]

theorem union_self (values : List String) : union values values = values.eraseDups := by
  have hnone : values.removeAll values = [] := by simp [List.removeAll]
  rw [union_eq_eraseDups, List.eraseDups_append, hnone, List.eraseDups_nil, List.append_nil]

section Keyed

variable {α : Type} {id : α → String}

theorem mem_ids_mergeById {upper lower : List α} {name : String} :
    name ∈ (mergeById id upper lower).map id ↔ name ∈ upper.map id ∨ name ∈ lower.map id := by
  rw [← isSome_find?_iff, find?_mergeById, Option.isSome_or, Bool.or_eq_true, isSome_find?_iff,
    isSome_find?_iff]

theorem mergeById_concat (upper lower : List α) (item : α) :
    mergeById id upper (lower ++ [item]) = addById id (mergeById id upper lower) item :=
  List.foldl_concat ..

theorem mergeById_assoc (top upper lower : List α) :
    mergeById id top (mergeById id upper lower) = mergeById id (mergeById id top upper) lower := by
  induction lower generalizing upper with
  | nil => rfl
  | cons item rest ih =>
    by_cases hknown : id item ∈ upper.map id
    · rw [mergeById_cons_of_known hknown, ih,
        mergeById_cons_of_known (mem_ids_mergeById.mpr (.inr hknown))]
    · -- The item comes to the end of the upper list, so on top of that it is the last to be added.
      calc mergeById id top (mergeById id upper (item :: rest))
          = mergeById id (mergeById id top (upper ++ [item])) rest := by
            rw [mergeById_cons_of_new hknown, ih]
        _ = mergeById id (addById id (mergeById id top upper) item) rest := by
            rw [mergeById_concat]
        _ = mergeById id (mergeById id top upper) (item :: rest) := rfl

theorem mergeById_self (items : List α) : mergeById id items items = items := by
  have hnone : items.filter (id · ∉ items.map id) = [] := by
    rw [List.filter_eq_nil_iff]
    intro item hitem
    simpa using ⟨item, hitem, rfl⟩
  rw [mergeById_eq_append, hnone, List.eraseDupsBy_nil, List.append_nil]

end Keyed

/-! ### Settings -/

theorem statedRepository?_merge (lower upper : Settings) :
    (lower.merge upper).statedRepository? =
      upper.statedRepository?.or lower.statedRepository? := by
  rw [statedRepository?, localRepository_merge]
  cases hstated : upper.statedRepository? with
  | none => rfl
  | some text =>
    obtain ⟨-, hfilled⟩ := Option.filter_eq_some_iff.mp hstated
    exact Option.filter_eq_some_iff.mpr ⟨rfl, hfilled⟩

theorem merge_assoc (a b c : Settings) : (a.merge b).merge c = a.merge (b.merge c) := by
  have hlocal : ((a.merge b).merge c).localRepository = (a.merge (b.merge c)).localRepository := by
    rw [localRepository_merge, localRepository_merge, localRepository_merge,
      statedRepository?_merge, Option.or_assoc]
  exact (Settings.mk.injEq ..).mpr ⟨hlocal, Option.or_assoc.symm, union_assoc _ _ _,
    mergeById_assoc _ _ _, mergeById_assoc _ _ _, mergeById_assoc _ _ _, mergeById_assoc _ _ _⟩

theorem localRepository_merge_self (s : Settings) :
    (s.merge s).localRepository = s.localRepository := by
  rw [localRepository_merge]
  cases hstated : s.statedRepository? with
  | none => rfl
  | some text => exact (Option.filter_eq_some_iff.mp hstated).1.symm

theorem merge_self (s : Settings) :
    s.merge s = { s with activeProfiles := s.activeProfiles.eraseDups } := by
  exact (Settings.mk.injEq ..).mpr ⟨localRepository_merge_self s, Option.or_self, union_self _,
    mergeById_self _, mergeById_self _, mergeById_self _, mergeById_self _⟩

/-- Merging is associative, and settings that are merged into themselves stay as they are unless an
active profile is repeated. -/
theorem merge_algebra :
    (∀ a b c : Settings, (a.merge b).merge c = a.merge (b.merge c)) ∧
      ∀ s : Settings, s.merge s = s ↔ s.activeProfiles.Nodup := by
  refine ⟨merge_assoc, fun s => ?_⟩
  rw [merge_self]
  constructor
  · intro h
    rw [← congrArg activeProfiles h]
    exact Listing.nodup_eraseDups _
  · intro honce
    rw [Listing.eraseDups_of_nodup honce]

end Depot.Settings
