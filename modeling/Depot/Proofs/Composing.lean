import Depot.Proofs.Collapsing

/-! What comes out of composing. Whatever the mode, two lists are gone through in turn (`inTurn`):
each identifier is kept where it comes first (`map_id_compose`), and each repository that is kept is
one of those that went in, up to what it stands in for (`source_of_mem_compose`). -/

namespace Depot.Listing

open RemoteRepository

/-! ### Identifiers -/

theorem eraseDups_concat (ids : List String) (id : String) :
    (ids ++ [id]).eraseDups = if id ∈ ids then ids.eraseDups else ids.eraseDups ++ [id] := by
  rw [List.eraseDups_append]
  split
  · rename_i hlisted
    have hnone : [id].removeAll ids = [] := by simp [List.removeAll, hlisted]
    rw [hnone, List.eraseDups_nil, List.append_nil]
  · rename_i hnew
    have hone : [id].removeAll ids = [id] := by simp [List.removeAll, hnew]
    rw [hone]
    rfl

theorem eraseDups_of_nodup {ids : List String} (h : ids.Nodup) : ids.eraseDups = ids := by
  induction ids using List.reverseRecOn with
  | nil => rfl
  | append_singleton ids id ih =>
    obtain ⟨hids, -, hapart⟩ := List.nodup_append.mp h
    have hnew : id ∉ ids := fun hid => hapart id hid id (List.mem_singleton.mpr rfl) rfl
    rw [eraseDups_concat, if_neg hnew, ih hids]

theorem nodup_eraseDups (ids : List String) : ids.eraseDups.Nodup := by
  induction ids using List.reverseRecOn with
  | nil => exact List.nodup_nil
  | append_singleton ids id ih =>
    rw [eraseDups_concat]
    split
    · exact ih
    · rename_i hnew
      simpa using ih.concat (mt List.mem_eraseDups.mp hnew)

/-- Leaving out repetitions of the second list first changes nothing. -/
theorem eraseDups_append_eraseDups (ids more : List String) :
    (ids ++ more.eraseDups).eraseDups = (ids ++ more).eraseDups := by
  induction more using List.reverseRecOn with
  | nil => rfl
  | append_singleton more id ih =>
    rw [eraseDups_concat, ← List.append_assoc, eraseDups_concat]
    split
    · rename_i hlisted
      rw [if_pos (List.mem_append_right ids hlisted), ih]
    · rename_i hnew
      rw [← List.append_assoc, eraseDups_concat, ih]
      simp only [List.mem_append, List.mem_eraseDups]

/-- Leaving out repetitions of the first list first changes nothing either. -/
theorem eraseDups_eraseDups_append (ids more : List String) :
    (ids.eraseDups ++ more).eraseDups = (ids ++ more).eraseDups := by
  have hnew : more.removeAll ids.eraseDups = more.removeAll ids := by
    simp only [List.removeAll, List.elem_eq_mem, List.mem_eraseDups]
  rw [List.eraseDups_append, List.eraseDups_append, hnew, eraseDups_of_nodup (nodup_eraseDups ids)]

/-- Of two lists without repetitions the second keeps what is new to the first. -/
theorem eraseDups_append_of_nodup {ids more : List String} (h : ids.Nodup) (hmore : more.Nodup) :
    (ids ++ more).eraseDups = ids ++ more.filter (· ∉ ids) := by
  have hnew : more.removeAll ids = more.filter (· ∉ ids) := by
    apply List.filter_congr
    intro id _
    simp
  rw [List.eraseDups_append, eraseDups_of_nodup h, hnew, eraseDups_of_nodup (hmore.filter _)]

/-- Adding repositories one after the other, each only when its identifier is new, keeps every
identifier where it comes first. -/
theorem map_id_foldl {add : List RemoteRepository → RemoteRepository → List RemoteRepository}
    (hadd : ∀ rs r, (add rs r).map (·.id) =
      if r.id ∈ rs.map (·.id) then rs.map (·.id) else rs.map (·.id) ++ [r.id])
    (rs : List RemoteRepository) : (rs.foldl add []).map (·.id) = (rs.map (·.id)).eraseDups := by
  induction rs using List.reverseRecOn with
  | nil => rfl
  | append_singleton rs r ih =>
    rw [List.foldl_concat, hadd, ih, List.map_append, List.map_singleton, eraseDups_concat]
    simp only [List.mem_eraseDups]

theorem map_id_collapse (rs : List RemoteRepository) :
    (collapse rs).map (·.id) = (rs.map (·.id)).eraseDups :=
  map_id_foldl map_id_absorb rs

theorem map_id_latest (rs : List RemoteRepository) :
    (latest rs).map (·.id) = (rs.map (·.id)).eraseDups :=
  map_id_foldl map_id_supersede rs

/-- The repositories that are composed, in the order in which they come. -/
def inTurn (discovered explicit : List RemoteRepository) : Mode → List RemoteRepository
  | .replace => if explicit.isEmpty then discovered else explicit
  | .append => discovered ++ explicit
  | .prepend => explicit ++ discovered

/-- Whatever the mode, each identifier is kept where it comes first. -/
theorem map_id_compose (discovered explicit : List RemoteRepository) (mode : Mode) :
    (compose discovered explicit mode).map (·.id) =
      ((inTurn discovered explicit mode).map (·.id)).eraseDups := by
  cases mode with
  | replace =>
    rw [compose, inTurn]
    split
    · exact map_id_collapse discovered
    · exact map_id_latest explicit
  | append => exact map_id_collapse (discovered ++ explicit)
  | prepend => exact map_id_collapse (explicit ++ discovered)

theorem nodup_ids_compose (discovered explicit : List RemoteRepository) (mode : Mode) :
    ((compose discovered explicit mode).map (·.id)).Nodup := by
  rw [map_id_compose]
  exact nodup_eraseDups _

/-! ### Repositories -/

/-- What is listed after collapsing is the first of its identifier, whatever it stands in for. -/
theorem first_of_mem_collapse {rs : List RemoteRepository} {e : RemoteRepository}
    (h : e ∈ collapse rs) : ∃ r, rs.find? (·.id == e.id) = some r ∧ e.SameSource r := by
  have hgather : gather (rs.filter (·.id == e.id)) = some e := by
    rw [← find?_collapse]
    exact find?_of_mem_collapse h
  rw [← List.head?_filter]
  cases hl : rs.filter (·.id == e.id) with
  | nil =>
    rw [hl] at hgather
    cases hgather
  | cons r rest =>
    rw [hl] at hgather
    obtain rfl := Option.some.inj hgather
    exact ⟨r, rfl, standInFor_sameSource r _⟩

theorem mem_supersede {rs : List RemoteRepository} {e r : RemoteRepository}
    (h : e ∈ supersede rs r) : e ∈ rs ∨ e = r := by
  induction rs with
  | nil => exact .inr (List.mem_singleton.mp h)
  | cons s rest ih =>
    rw [supersede] at h
    split at h
    · rcases List.mem_cons.mp h with h | h
      · exact .inr h
      · exact .inl (List.mem_cons_of_mem s h)
    · rcases List.mem_cons.mp h with rfl | h
      · exact .inl List.mem_cons_self
      · exact (ih h).imp_left (List.mem_cons_of_mem s)

theorem mem_of_mem_latest {rs : List RemoteRepository} {e : RemoteRepository}
    (h : e ∈ latest rs) : e ∈ rs := by
  induction rs using List.reverseRecOn with
  | nil => exact h
  | append_singleton rs r ih =>
    rw [latest_concat] at h
    rcases mem_supersede h with h | rfl
    · exact List.mem_append_left _ (ih h)
    · exact List.mem_append_right _ (List.mem_singleton.mpr rfl)

theorem collapse_cons (r : RemoteRepository) (rs : List RemoteRepository) :
    ∃ f rest, collapse (r :: rs) = f :: rest ∧ f.SameSource r := by
  induction rs using List.reverseRecOn with
  | nil => exact ⟨r, [], rfl, .refl r⟩
  | append_singleton rs t ih =>
    obtain ⟨f, rest, hcollapse, hf⟩ := ih
    rw [← List.cons_append, collapse_concat, hcollapse, absorb]
    split
    · exact ⟨_, _, rfl, (standInFor_sameSource f _).trans hf⟩
    · exact ⟨f, _, rfl, hf⟩

theorem source_of_mem_compose {discovered explicit : List RemoteRepository} {mode : Mode}
    {e : RemoteRepository} (h : e ∈ compose discovered explicit mode) :
    ∃ r ∈ inTurn discovered explicit mode, e.SameSource r := by
  have hcollapse (rs : List RemoteRepository) (he : e ∈ collapse rs) :
      ∃ r ∈ rs, e.SameSource r := by
    obtain ⟨r, hr, hsame⟩ := first_of_mem_collapse he
    exact ⟨r, List.mem_of_find?_eq_some hr, hsame⟩
  cases mode with
  | replace =>
    rw [compose] at h
    rw [inTurn]
    split at h
    · rename_i hempty
      rw [if_pos hempty]
      exact hcollapse discovered h
    · rename_i hfilled
      rw [if_neg hfilled]
      exact ⟨e, mem_of_mem_latest h, .refl e⟩
  | append => exact hcollapse _ h
  | prepend => exact hcollapse _ h

theorem mem_of_mem_inTurn {discovered explicit : List RemoteRepository} {mode : Mode}
    {r : RemoteRepository} (h : r ∈ inTurn discovered explicit mode) :
    r ∈ discovered ++ explicit := by
  cases mode with
  | replace =>
    rw [inTurn] at h
    split at h
    · exact List.mem_append_left _ h
    · exact List.mem_append_right _ h
  | append => exact h
  | prepend => exact List.mem_append.mpr (List.mem_append.mp h).symm

end Depot.Listing
