import Depot.Proofs.Firsts
import Depot.Repository.Listing
import Mathlib.Data.List.Induction

/-! The algebra of collapsing. What is listed under an identifier after collapsing is the first
repository of that identifier, standing in for what its namesakes stand in for (`find?_collapse`).
Collapsing two lists apart and then together is collapsing them at once (`collapse_append`), and a
repository that was absorbed once changes nothing when it comes again (`absorb_collapse_of_mem`).
Keeping the latest of each identifier is collapsing when namesakes are equal. -/

namespace Depot

namespace RemoteRepository

theorem listNew_of_listed {rs : List RemoteRepository} {r : RemoteRepository}
    (h : r.id ∈ rs.map (·.id)) : listNew rs r = rs := by
  obtain ⟨s, hs, hid⟩ := List.mem_map.mp h
  have : rs.any (·.id == r.id) = true := List.any_eq_true.mpr ⟨s, hs, beq_iff_eq.mpr hid⟩
  rw [listNew, if_pos this]

theorem listNew_of_new {rs : List RemoteRepository} {r : RemoteRepository}
    (h : r.id ∉ rs.map (·.id)) : listNew rs r = rs ++ [r] := by
  rw [listNew, if_neg]
  intro hany
  obtain ⟨s, hs, hid⟩ := List.any_eq_true.mp hany
  exact h (List.mem_map.mpr ⟨s, hs, beq_iff_eq.mp hid⟩)

theorem mem_ids_listNew (rs : List RemoteRepository) (r : RemoteRepository) (id : String) :
    id ∈ (listNew rs r).map (·.id) ↔ id ∈ rs.map (·.id) ∨ id = r.id := by
  by_cases h : r.id ∈ rs.map (·.id)
  · rw [listNew_of_listed h]
    exact ⟨.inl, fun hid => hid.elim (fun h' => h') (fun h' => h' ▸ h)⟩
  · rw [listNew_of_new h, List.map_append, List.mem_append]
    simp

theorem mem_ids_foldl_listNew (ss rs : List RemoteRepository) (id : String) :
    id ∈ (ss.foldl listNew rs).map (·.id) ↔ id ∈ rs.map (·.id) ∨ id ∈ ss.map (·.id) := by
  induction ss generalizing rs with
  | nil => simp
  | cons s ss ih =>
    rw [List.foldl_cons, ih, mem_ids_listNew, List.map_cons, List.mem_cons, or_assoc]

theorem foldl_listNew_of_listed {ss rs : List RemoteRepository}
    (h : ∀ s ∈ ss, s.id ∈ rs.map (·.id)) : ss.foldl listNew rs = rs := by
  induction ss with
  | nil => rfl
  | cons s ss ih =>
    rw [List.foldl_cons, listNew_of_listed (h s List.mem_cons_self)]
    exact ih fun t ht => h t (List.mem_cons_of_mem s ht)

/-- What is listed in the end was listed, or is the first of its identifier to come. -/
theorem mem_foldl_listNew {ss rs : List RemoteRepository} {x : RemoteRepository} :
    x ∈ ss.foldl listNew rs ↔
      x ∈ rs ∨ (x.id ∉ rs.map (·.id) ∧ ss.find? (·.id == x.id) = some x) := by
  induction ss generalizing rs with
  | nil => simp
  | cons s ss ih =>
    rw [List.foldl_cons, ih]
    by_cases hid : s.id = x.id
    · rw [List.find?_cons_of_pos (by simpa using hid), mem_ids_listNew, ← hid]
      by_cases hs : s.id ∈ rs.map (·.id)
      · rw [listNew_of_listed hs]
        simp [hs]
      · rw [listNew_of_new hs, List.mem_append, List.mem_singleton]
        simp [hs, eq_comm]
    · rw [List.find?_cons_of_neg (by simpa using hid), mem_ids_listNew]
      have hx : x ∈ listNew rs s ↔ x ∈ rs := by
        unfold listNew
        split
        · rfl
        · rw [List.mem_append, List.mem_singleton]
          exact ⟨fun h => h.resolve_right fun heq => hid (heq ▸ rfl), .inl⟩
      rw [hx, or_iff_left (Ne.symm hid)]

theorem foldl_listNew_listNew (rs ss : List RemoteRepository) (t : RemoteRepository) :
    (listNew ss t).foldl listNew rs = listNew (ss.foldl listNew rs) t := by
  by_cases h : t.id ∈ ss.map (·.id)
  · have hfold : t.id ∈ (ss.foldl listNew rs).map (·.id) :=
      (mem_ids_foldl_listNew ss rs t.id).mpr (.inr h)
    rw [listNew_of_listed h, listNew_of_listed hfold]
  · rw [listNew_of_new h, List.foldl_append, List.foldl_cons, List.foldl_nil]

/-- Listing what is new is associative. -/
theorem foldl_listNew_foldl (rs ss ts : List RemoteRepository) :
    (ts.foldl listNew ss).foldl listNew rs = ts.foldl listNew (ss.foldl listNew rs) := by
  induction ts generalizing ss with
  | nil => rfl
  | cons t ts ih => rw [List.foldl_cons, List.foldl_cons, ih, foldl_listNew_listNew]

/-! ### What is new -/

/-- The repositories whose identifiers are not known yet, in order; one that is taken is known to
those after it. -/
def newTo : List String → List RemoteRepository → List RemoteRepository
  | _, [] => []
  | known, r :: rest =>
    if r.id ∈ known then newTo known rest else r :: newTo (known ++ [r.id]) rest

theorem foldl_listNew_eq_append (rs ss : List RemoteRepository) :
    ss.foldl listNew rs = rs ++ newTo (rs.map (·.id)) ss := by
  induction ss generalizing rs with
  | nil => rw [List.foldl_nil, newTo, List.append_nil]
  | cons s ss ih =>
    rw [List.foldl_cons, newTo, ih]
    split
    · rename_i hlisted
      rw [listNew_of_listed hlisted]
    · rename_i hnew
      rw [listNew_of_new hnew, List.map_append, List.map_singleton, List.append_assoc,
        List.singleton_append]

theorem mem_newTo {known : List String} {rs : List RemoteRepository} {m : RemoteRepository} :
    m ∈ newTo known rs ↔ m.id ∉ known ∧ rs.find? (·.id == m.id) = some m := by
  induction rs generalizing known with
  | nil => simp [newTo]
  | cons r rest ih =>
    rw [newTo]
    by_cases hid : r.id = m.id
    · rw [List.find?_cons_of_pos (by simpa using hid)]
      split
      · rename_i hknown
        have hlisted : m.id ∈ known := hid ▸ hknown
        simp [ih, hlisted]
      · rename_i hnew
        have hunlisted : m.id ∉ known := hid ▸ hnew
        simp [ih, hid, hunlisted, eq_comm]
    · rw [List.find?_cons_of_neg (by simpa using hid)]
      have hne : m ≠ r := fun h => hid (h ▸ rfl)
      split
      · exact ih
      · simp [ih, hne, Ne.symm hid]

/-- Of the identifiers that are not known each is taken, where it comes first. -/
theorem map_id_newTo (known : List String) (rs : List RemoteRepository) :
    (newTo known rs).map (·.id) = ((rs.map (·.id)).filter (· ∉ known)).eraseDups := by
  induction rs generalizing known with
  | nil => rfl
  | cons r rest ih =>
    rw [newTo, List.map_cons]
    split
    · rename_i hknown
      rw [ih, List.filter_cons_of_neg (by simpa using hknown)]
    · rename_i hnew
      rw [List.map_cons, ih, List.filter_cons_of_pos (by simpa using hnew), List.eraseDups_cons,
        List.filter_filter]
      congr 2
      apply List.filter_congr
      intro id _
      by_cases hid : id = r.id <;> simp [hid]

/-- Lists of entries that are told apart by their identifiers are equal when these are. -/
theorem eq_of_map_id_eq {es fs : List RemoteRepository} (hids : es.map (·.id) = fs.map (·.id))
    (h : ∀ e ∈ es, ∀ f ∈ fs, e.id = f.id → e = f) : es = fs := by
  induction es generalizing fs with
  | nil => exact (List.map_eq_nil_iff.mp hids.symm).symm
  | cons e es ih =>
    cases fs with
    | nil => cases hids
    | cons f fs =>
      rw [List.map_cons, List.map_cons, List.cons.injEq] at hids
      obtain rfl := h e List.mem_cons_self f List.mem_cons_self hids.1
      rw [ih hids.2 fun g hg k hk =>
        h g (List.mem_cons_of_mem _ hg) k (List.mem_cons_of_mem _ hk)]

/-! ### The same repository -/

/-- At the same place, and both blocked or both not. -/
structure SamePlace (r t : RemoteRepository) : Prop where
  url : r.url = t.url
  layout : r.layout = t.layout
  blocked : r.blocked = t.blocked

/-- The same repository, however it is reached and whatever it stands in for. -/
structure SameSource (r t : RemoteRepository) : Prop where
  id : r.id = t.id
  place : r.SamePlace t
  releases : r.releases = t.releases
  snapshots : r.snapshots = t.snapshots

instance (r t : RemoteRepository) : Decidable (r.SamePlace t) :=
  decidable_of_iff (r.url = t.url ∧ r.layout = t.layout ∧ r.blocked = t.blocked)
    ⟨fun ⟨url, layout, blocked⟩ => ⟨url, layout, blocked⟩,
      fun ⟨url, layout, blocked⟩ => ⟨url, layout, blocked⟩⟩

instance (r t : RemoteRepository) : Decidable (r.SameSource t) :=
  decidable_of_iff
    (r.id = t.id ∧ r.SamePlace t ∧ r.releases = t.releases ∧ r.snapshots = t.snapshots)
    ⟨fun ⟨id, place, releases, snapshots⟩ => ⟨id, place, releases, snapshots⟩,
      fun ⟨id, place, releases, snapshots⟩ => ⟨id, place, releases, snapshots⟩⟩

theorem SamePlace.symm {r t : RemoteRepository} (h : r.SamePlace t) : t.SamePlace r :=
  ⟨h.url.symm, h.layout.symm, h.blocked.symm⟩

theorem SamePlace.trans {r t u : RemoteRepository} (h : r.SamePlace t) (h' : t.SamePlace u) :
    r.SamePlace u :=
  ⟨h.url.trans h'.url, h.layout.trans h'.layout, h.blocked.trans h'.blocked⟩

theorem SameSource.refl (r : RemoteRepository) : r.SameSource r :=
  ⟨rfl, ⟨rfl, rfl, rfl⟩, rfl, rfl⟩

theorem SameSource.symm {r t : RemoteRepository} (h : r.SameSource t) : t.SameSource r :=
  ⟨h.id.symm, h.place.symm, h.releases.symm, h.snapshots.symm⟩

theorem SameSource.trans {r t u : RemoteRepository} (h : r.SameSource t) (h' : t.SameSource u) :
    r.SameSource u :=
  ⟨h.id.trans h'.id, h.place.trans h'.place, h.releases.trans h'.releases,
    h.snapshots.trans h'.snapshots⟩

theorem SameSource.policy {r t : RemoteRepository} (h : r.SameSource t) (snapshot : Bool) :
    r.policy snapshot = t.policy snapshot := by
  rw [RemoteRepository.policy, RemoteRepository.policy, h.releases, h.snapshots]

/-! ### Standing in for more -/

section StandInFor

variable (r : RemoteRepository) (rs : List RemoteRepository)

@[simp] theorem standInFor_id : (r.standInFor rs).id = r.id := rfl
@[simp] theorem standInFor_mirrored :
    (r.standInFor rs).mirrored = rs.foldl listNew r.mirrored := rfl

theorem standInFor_sameSource : (r.standInFor rs).SameSource r :=
  ⟨rfl, ⟨rfl, rfl, rfl⟩, rfl, rfl⟩

end StandInFor

theorem standInFor_append (r : RemoteRepository) (rs ss : List RemoteRepository) :
    r.standInFor (rs ++ ss) = (r.standInFor rs).standInFor ss := by
  simp only [standInFor, List.foldl_append]

theorem standInFor_standInFor (r s : RemoteRepository) (rs : List RemoteRepository) :
    r.standInFor (s.standInFor rs).mirrored = (r.standInFor s.mirrored).standInFor rs := by
  simp only [standInFor, foldl_listNew_foldl]

theorem standInFor_of_listed {r : RemoteRepository} {rs : List RemoteRepository}
    (h : ∀ s ∈ rs, s.id ∈ r.mirrored.map (·.id)) : r.standInFor rs = r := by
  have hmirrored := foldl_listNew_of_listed h
  cases r
  rw [standInFor, hmirrored]

theorem standInFor_nil (r : RemoteRepository) : r.standInFor [] = r :=
  standInFor_of_listed fun _ hs => nomatch hs

theorem standInFor_self (r : RemoteRepository) : r.standInFor r.mirrored = r :=
  standInFor_of_listed fun _ hs => List.mem_map_of_mem hs

end RemoteRepository

namespace Listing

open RemoteRepository

/-! ### Absorbing -/

theorem absorb_of_new {rs : List RemoteRepository} {r : RemoteRepository}
    (h : r.id ∉ rs.map (·.id)) : absorb rs r = rs ++ [r] := by
  induction rs with
  | nil => rfl
  | cons s rest ih =>
    rw [List.map_cons, List.mem_cons, not_or] at h
    rw [absorb, if_neg (Ne.symm h.1), ih h.2, List.cons_append]

theorem nodup_ids_absorb {rs : List RemoteRepository} (h : (rs.map (·.id)).Nodup)
    (r : RemoteRepository) : ((absorb rs r).map (·.id)).Nodup := by
  rw [map_id_absorb]
  split
  · exact h
  · rename_i hnew
    exact List.nodup_append.mpr ⟨h, List.nodup_singleton r.id, by grind⟩

/-- What is absorbed with more to stand in for is absorbed in two steps. -/
theorem absorb_standInFor {s r : RemoteRepository} (h : s.id = r.id)
    (rs : List RemoteRepository) :
    absorb rs (s.standInFor r.mirrored) = absorb (absorb rs s) r := by
  induction rs with
  | nil => simp only [absorb, h, if_true]
  | cons t rest ih =>
    by_cases ht : t.id = r.id
    · simp only [absorb, standInFor_id, h, ht, if_true, standInFor_standInFor]
    · simp only [absorb, standInFor_id, h, ht, if_false, ← ih]

/-- A repository whose identifier is listed and one of another identifier can come in either
order. -/
theorem absorb_absorb_comm {rs : List RemoteRepository} {r t : RemoteRepository}
    (hne : t.id ≠ r.id) (hlisted : r.id ∈ rs.map (·.id)) :
    absorb (absorb rs r) t = absorb (absorb rs t) r := by
  induction rs with
  | nil => simp at hlisted
  | cons s rest ih =>
    by_cases hr : s.id = r.id
    · have ht : s.id ≠ t.id := fun h => hne (h.symm.trans hr)
      simp only [absorb, standInFor_id, hr, hne.symm, if_true, if_false]
    · have hrest : r.id ∈ rest.map (·.id) :=
        (List.mem_cons.mp hlisted).resolve_left (Ne.symm hr)
      by_cases ht : s.id = t.id
      · simp only [absorb, standInFor_id, ht, hne, if_true, if_false]
      · simp only [absorb, hr, ht, if_false, ih hrest]

theorem foldl_absorb_comm {ss rs : List RemoteRepository} {r : RemoteRepository}
    (hnew : r.id ∉ ss.map (·.id)) (hlisted : r.id ∈ rs.map (·.id)) :
    ss.foldl absorb (absorb rs r) = absorb (ss.foldl absorb rs) r := by
  induction ss generalizing rs with
  | nil => rfl
  | cons s ss ih =>
    rw [List.map_cons, List.mem_cons, not_or] at hnew
    have hlisted' : r.id ∈ (absorb rs s).map (·.id) := by
      rw [map_id_absorb]
      split
      · exact hlisted
      · exact List.mem_append_left _ hlisted
    rw [List.foldl_cons, List.foldl_cons, absorb_absorb_comm (Ne.symm hnew.1) hlisted,
      ih hnew.2 hlisted']

theorem foldl_absorb_absorb {ss : List RemoteRepository} (h : (ss.map (·.id)).Nodup)
    (rs : List RemoteRepository) (r : RemoteRepository) :
    (absorb ss r).foldl absorb rs = absorb (ss.foldl absorb rs) r := by
  induction ss generalizing rs with
  | nil => rfl
  | cons s rest ih =>
    rw [List.map_cons, List.nodup_cons] at h
    by_cases hid : s.id = r.id
    · have hlisted : r.id ∈ (absorb rs s).map (·.id) := by
        rw [map_id_absorb, ← hid]
        split
        · assumption
        · exact List.mem_append_right _ (List.mem_singleton.mpr rfl)
      rw [absorb, if_pos hid, List.foldl_cons, absorb_standInFor hid,
        foldl_absorb_comm (hid ▸ h.1) hlisted, List.foldl_cons]
    · rw [absorb, if_neg hid, List.foldl_cons, ih h.2, List.foldl_cons]

/-! ### Collapsing -/

theorem collapse_concat (rs : List RemoteRepository) (r : RemoteRepository) :
    collapse (rs ++ [r]) = absorb (collapse rs) r := by
  rw [collapse, List.foldl_append, List.foldl_cons, List.foldl_nil, collapse]

theorem nodup_ids_collapse (rs : List RemoteRepository) : ((collapse rs).map (·.id)).Nodup := by
  induction rs using List.reverseRecOn with
  | nil => exact List.nodup_nil
  | append_singleton rs r ih =>
    rw [collapse_concat]
    exact nodup_ids_absorb ih r

theorem mem_ids_collapse (rs : List RemoteRepository) (id : String) :
    id ∈ (collapse rs).map (·.id) ↔ id ∈ rs.map (·.id) := by
  induction rs using List.reverseRecOn with
  | nil => rfl
  | append_singleton rs r ih =>
    rw [collapse_concat, map_id_absorb, List.map_append, List.mem_append, ← ih]
    split
    · rename_i hlisted
      exact ⟨.inl, fun h => h.elim (fun h' => h')
        fun h' => List.mem_singleton.mp h' ▸ hlisted⟩
    · exact List.mem_append

theorem collapse_eq_nil {rs : List RemoteRepository} : collapse rs = [] ↔ rs = [] := by
  constructor
  · intro h
    have hids : ∀ id, id ∉ rs.map (·.id) := by
      intro id hid
      rw [← mem_ids_collapse, h] at hid
      exact List.not_mem_nil hid
    exact List.map_eq_nil_iff.mp (List.eq_nil_iff_forall_not_mem.mpr hids)
  · rintro rfl
    rfl

theorem foldl_absorb_collapse (ss rs : List RemoteRepository) :
    (collapse ss).foldl absorb rs = ss.foldl absorb rs := by
  induction ss using List.reverseRecOn with
  | nil => rfl
  | append_singleton ss s ih =>
    rw [collapse_concat, foldl_absorb_absorb (nodup_ids_collapse ss), ih, List.foldl_append,
      List.foldl_cons, List.foldl_nil]

/-- Distinct identifiers leave nothing to collapse. -/
theorem collapse_of_nodup {rs : List RemoteRepository} (h : (rs.map (·.id)).Nodup) :
    collapse rs = rs := by
  induction rs using List.reverseRecOn with
  | nil => rfl
  | append_singleton rs r ih =>
    rw [List.map_append, List.nodup_append] at h
    have hnew : r.id ∉ rs.map (·.id) := fun hr => h.2.2 r.id hr r.id (by simp) rfl
    rw [collapse_concat, ih h.1, absorb_of_new hnew]

/-- Collapsing the first list before does not change what the two come to. -/
theorem collapse_collapse_append (rs ss : List RemoteRepository) :
    collapse (collapse rs ++ ss) = collapse (rs ++ ss) := by
  calc collapse (collapse rs ++ ss)
      = ss.foldl absorb (collapse (collapse rs)) := List.foldl_append
    _ = ss.foldl absorb (collapse rs) := by rw [collapse_of_nodup (nodup_ids_collapse rs)]
    _ = collapse (rs ++ ss) := List.foldl_append.symm

/-- Nor does collapsing the second one. -/
theorem collapse_append_collapse (rs ss : List RemoteRepository) :
    collapse (rs ++ collapse ss) = collapse (rs ++ ss) := by
  calc collapse (rs ++ collapse ss)
      = (collapse ss).foldl absorb (collapse rs) := List.foldl_append
    _ = ss.foldl absorb (collapse rs) := foldl_absorb_collapse ss (collapse rs)
    _ = collapse (rs ++ ss) := List.foldl_append.symm

/-- Two lists collapsed apart and then together are collapsed at once. -/
theorem collapse_append (rs ss : List RemoteRepository) :
    collapse (collapse rs ++ collapse ss) = collapse (rs ++ ss) := by
  rw [collapse_collapse_append, collapse_append_collapse]

/-! ### What is listed under an identifier -/

/-- The first of the repositories standing in for what all of them stand in for. -/
def gather : List RemoteRepository → Option RemoteRepository
  | [] => none
  | r :: rest => some (r.standInFor (rest.flatMap (·.mirrored)))

theorem gather_eq_none {rs : List RemoteRepository} : gather rs = none ↔ rs = [] := by
  cases rs <;> simp [gather]

theorem gather_concat (rs : List RemoteRepository) (r : RemoteRepository) :
    gather (rs ++ [r]) = some (((gather rs).map (·.standInFor r.mirrored)).getD r) := by
  cases rs with
  | nil => exact congrArg some (standInFor_nil r)
  | cons s rest =>
    simp only [List.cons_append, gather, List.flatMap_append, List.flatMap_cons, List.flatMap_nil,
      List.append_nil, standInFor_append, Option.map_some, Option.getD_some]

/-- All that the repositories stand in for is listed by its identifier. -/
theorem mem_ids_of_gather {rs : List RemoteRepository} {e : RemoteRepository}
    (he : gather rs = some e) {r m : RemoteRepository} (hr : r ∈ rs) (hm : m ∈ r.mirrored) :
    m.id ∈ e.mirrored.map (·.id) := by
  cases rs with
  | nil => cases hr
  | cons s rest =>
    obtain rfl := Option.some.inj he
    rw [standInFor_mirrored, mem_ids_foldl_listNew]
    rcases List.mem_cons.mp hr with rfl | hr
    · exact .inl (List.mem_map_of_mem hm)
    · exact .inr (List.mem_map_of_mem (List.mem_flatMap.mpr ⟨r, hr, hm⟩))

/-- Listed is what the first stands in for, and otherwise what comes first of its identifier. -/
theorem mem_mirrored_gather {r e : RemoteRepository} {rest : List RemoteRepository}
    (he : gather (r :: rest) = some e) (m : RemoteRepository) :
    m ∈ e.mirrored ↔ m ∈ r.mirrored ∨
      ((r :: rest).flatMap (·.mirrored)).find? (·.id == m.id) = some m := by
  obtain rfl := Option.some.inj he
  rw [standInFor_mirrored, mem_foldl_listNew, List.flatMap_cons, List.find?_append]
  cases hfirst : r.mirrored.find? (·.id == m.id) with
  | none =>
    have hnew : m.id ∉ r.mirrored.map (·.id) := by
      intro hm
      obtain ⟨t, ht, hid⟩ := List.mem_map.mp hm
      exact absurd (beq_iff_eq.mpr hid) (List.find?_eq_none.mp hfirst t ht)
    rw [Option.none_or, and_iff_right hnew]
  | some t =>
    have ht : t ∈ r.mirrored := List.mem_of_find?_eq_some hfirst
    have hlisted : m.id ∈ r.mirrored.map (·.id) :=
      List.mem_map.mpr ⟨t, ht, by simpa using List.find?_some hfirst⟩
    rw [Option.some_or]
    constructor
    · rintro (hm | ⟨hnew, -⟩)
      · exact .inl hm
      · exact absurd hlisted hnew
    · rintro (hm | heq)
      · exact .inl hm
      · exact .inl (Option.some.inj heq ▸ ht)

theorem find?_absorb (rs : List RemoteRepository) (r : RemoteRepository) (id : String) :
    (absorb rs r).find? (·.id == id) =
      if r.id = id then some (((rs.find? (·.id == id)).map (·.standInFor r.mirrored)).getD r)
      else rs.find? (·.id == id) := by
  induction rs with
  | nil => by_cases h : r.id = id <;> simp [absorb, h]
  | cons s rest ih =>
    by_cases hs : s.id = r.id
    · by_cases h : r.id = id
      · simp [absorb, hs, h]
      · simp [absorb, hs, h]
    · by_cases h : s.id = id
      · have hr : r.id ≠ id := fun h' => hs (h.trans h'.symm)
        rw [absorb, if_neg hs, if_neg hr, List.find?_cons_of_pos (by simpa using h),
          List.find?_cons_of_pos (by simpa using h)]
      · rw [absorb, if_neg hs, List.find?_cons_of_neg (by simpa using h), ih,
          List.find?_cons_of_neg (by simpa using h)]

/-- Under an identifier stands the first repository that has it, for all that its namesakes stand
in for. -/
theorem find?_collapse (rs : List RemoteRepository) (id : String) :
    (collapse rs).find? (·.id == id) = gather (rs.filter (·.id == id)) := by
  induction rs using List.reverseRecOn with
  | nil => rfl
  | append_singleton rs r ih =>
    rw [collapse_concat, find?_absorb, List.filter_append]
    by_cases h : r.id = id
    · rw [if_pos h, ih, List.filter_cons_of_pos (by simpa using h), List.filter_nil, gather_concat]
    · rw [if_neg h, ih, List.filter_cons_of_neg (by simpa using h), List.filter_nil,
        List.append_nil]

/-- A collapsed list has one repository of each identifier. -/
theorem find?_of_mem_collapse {rs : List RemoteRepository} {e : RemoteRepository}
    (h : e ∈ collapse rs) : (collapse rs).find? (·.id == e.id) = some e :=
  find?_of_nodup_map (nodup_ids_collapse rs) h

/-- A repository whose identifier and mirrored identifiers are all listed is absorbed without a
trace. -/
theorem absorb_of_covered {rs : List RemoteRepository} {r e : RemoteRepository}
    (he : rs.find? (·.id == r.id) = some e)
    (hcovered : ∀ m ∈ r.mirrored, m.id ∈ e.mirrored.map (·.id)) : absorb rs r = rs := by
  induction rs with
  | nil => cases he
  | cons s rest ih =>
    by_cases hid : s.id = r.id
    · rw [List.find?_cons_of_pos (by simpa using hid)] at he
      cases he
      rw [absorb, if_pos hid, standInFor_of_listed hcovered]
    · rw [List.find?_cons_of_neg (by simpa using hid)] at he
      rw [absorb, if_neg hid, ih he]

theorem absorb_of_mem {rs : List RemoteRepository} {r : RemoteRepository} (h : r ∈ rs)
    (heq : ∀ s ∈ rs, s.id = r.id → s = r) : absorb rs r = rs := by
  cases he : rs.find? (·.id == r.id) with
  | none => exact absurd (beq_self_eq_true r.id) (List.find?_eq_none.mp he r h)
  | some e =>
    obtain rfl := heq e (List.mem_of_find?_eq_some he) (by simpa using List.find?_some he)
    exact absorb_of_covered he fun m hm => List.mem_map_of_mem hm

/-- What was collapsed is absorbed without a trace when it comes again. -/
theorem absorb_collapse_of_mem {rs : List RemoteRepository} {r : RemoteRepository}
    (h : r ∈ rs) : absorb (collapse rs) r = collapse rs := by
  have hr : r ∈ rs.filter (·.id == r.id) := List.mem_filter.mpr ⟨h, beq_self_eq_true r.id⟩
  cases he : gather (rs.filter (·.id == r.id)) with
  | none => exact absurd hr (by rw [gather_eq_none.mp he]; exact List.not_mem_nil)
  | some e =>
    exact absorb_of_covered ((find?_collapse rs r.id).trans he) fun m hm =>
      mem_ids_of_gather he hr hm

/-- Nor do several that were collapsed leave one. -/
theorem collapse_append_of_forall_mem {rs ss : List RemoteRepository} (h : ∀ s ∈ ss, s ∈ rs) :
    collapse (rs ++ ss) = collapse rs := by
  induction ss using List.reverseRecOn with
  | nil => rw [List.append_nil]
  | append_singleton ss s ih =>
    have hs : s ∈ rs ++ ss := List.mem_append_left ss (h s (by simp))
    rw [← List.append_assoc, collapse_concat, absorb_collapse_of_mem hs,
      ih fun t ht => h t (List.mem_append_left [s] ht)]

/-! ### Namesakes that are equal -/

/-- Repositories of one identifier are equal throughout the list. -/
def Consistent (rs : List RemoteRepository) : Prop :=
  ∀ r ∈ rs, ∀ s ∈ rs, r.id = s.id → r = s

theorem Consistent.mono {rs ss : List RemoteRepository} (h : Consistent ss)
    (hsub : ∀ r ∈ rs, r ∈ ss) : Consistent rs :=
  fun r hr s hs hid => h r (hsub r hr) s (hsub s hs) hid

theorem supersede_eq_absorb {rs : List RemoteRepository} {r : RemoteRepository}
    (heq : ∀ s ∈ rs, s.id = r.id → s = r) : supersede rs r = absorb rs r := by
  induction rs with
  | nil => rfl
  | cons s rest ih =>
    by_cases hid : s.id = r.id
    · rw [supersede, absorb, if_pos hid, if_pos hid, heq s List.mem_cons_self hid,
        standInFor_self]
    · rw [supersede, absorb, if_neg hid, if_neg hid,
        ih fun t ht => heq t (List.mem_cons_of_mem s ht)]

/-- Collapsing a list whose namesakes are equal only leaves repetitions out. -/
theorem mem_collapse_of_consistent {rs : List RemoteRepository} (h : Consistent rs)
    (r : RemoteRepository) : r ∈ collapse rs ↔ r ∈ rs := by
  induction rs using List.reverseRecOn generalizing r with
  | nil => rfl
  | append_singleton rs s ih =>
    have hrs : Consistent rs := h.mono fun t ht => List.mem_append_left [s] ht
    rw [collapse_concat, List.mem_append, List.mem_singleton]
    by_cases hs : s.id ∈ (collapse rs).map (·.id)
    · have heq : ∀ t ∈ rs, t.id = s.id → t = s := fun t ht hid =>
        h t (List.mem_append_left [s] ht) s (by simp) hid
      obtain ⟨t, ht, hid⟩ := List.mem_map.mp ((mem_ids_collapse rs s.id).mp hs)
      obtain rfl := heq t ht hid
      rw [absorb_of_mem ((ih hrs t).mpr ht) fun u hu => heq u ((ih hrs u).mp hu), ih hrs]
      exact ⟨.inl, fun h' => h'.elim (fun h' => h') (fun h' => h' ▸ ht)⟩
    · rw [absorb_of_new hs, List.mem_append, List.mem_singleton, ih hrs]

theorem latest_concat (rs : List RemoteRepository) (r : RemoteRepository) :
    latest (rs ++ [r]) = supersede (latest rs) r := by
  rw [latest, List.foldl_append, List.foldl_cons, List.foldl_nil, latest]

/-- With equal namesakes it does not matter whether the first or the latest is kept. -/
theorem latest_eq_collapse {rs : List RemoteRepository} (h : Consistent rs) :
    latest rs = collapse rs := by
  induction rs using List.reverseRecOn with
  | nil => rfl
  | append_singleton rs s ih =>
    have hrs : Consistent rs := h.mono fun t ht => List.mem_append_left [s] ht
    have heq : ∀ t ∈ collapse rs, t.id = s.id → t = s := fun t ht hid =>
      h t (List.mem_append_left [s] ((mem_collapse_of_consistent hrs t).mp ht)) s (by simp) hid
    rw [latest_concat, collapse_concat, ih hrs, supersede_eq_absorb heq]

theorem consistent_of_nodup {rs : List RemoteRepository} (h : (rs.map (·.id)).Nodup) :
    Consistent rs :=
  fun _ hr _ hs hid => List.inj_on_of_nodup_map h hr hs hid

theorem latest_of_nodup {rs : List RemoteRepository} (h : (rs.map (·.id)).Nodup) :
    latest rs = rs := by
  rw [latest_eq_collapse (consistent_of_nodup h), collapse_of_nodup h]

/-- With nothing explicit all modes keep what is discovered. -/
theorem compose_nil (discovered : List RemoteRepository) (mode : Mode) :
    compose discovered [] mode = collapse discovered := by
  cases mode with
  | replace => rfl
  | append => rw [compose, List.append_nil]
  | prepend => rw [compose, List.nil_append]

end Listing

end Depot
