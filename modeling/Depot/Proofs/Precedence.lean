import Depot.Proofs.Composing
import Depot.Settings.Resolved
import Mathlib.Data.List.ReduceOption

/-! Which layer of settings counts. Laying one layer over the others puts what it says before what
they say, for every list and every value by its own rule; so after any number of layers each thing
is what the last layer says that says anything of it (`foldl_merge`). What is read from files is
merged in this way, a file that is missing being no layer (`mergeLayers_eq`). -/

namespace Depot

namespace Settings

/-! ### Two layers -/

section Keyed

variable {α : Type} {id : α → String}

theorem find?_addById (items : List α) (item : α) (name : String) :
    (addById id items item).find? (id · == name) =
      (items.find? (id · == name)).or ([item].find? (id · == name)) := by
  unfold addById
  split
  · rename_i hknown
    obtain ⟨known, hmem, hid⟩ := List.any_eq_true.mp hknown
    -- An item of the name is there already when the new one has it.
    cases hfound : items.find? (id · == name) with
    | some found => rfl
    | none =>
      have hother := List.find?_eq_none.mp hfound known hmem
      rw [beq_iff_eq.mp hid] at hother
      rw [Option.none_or, List.find?_singleton, if_neg hother]
  · rw [List.find?_append]

/-- The upper list counts first, whatever it repeats. -/
theorem find?_mergeById (upper lower : List α) (name : String) :
    (mergeById id upper lower).find? (id · == name) =
      (upper.find? (id · == name)).or (lower.find? (id · == name)) := by
  induction lower generalizing upper with
  | nil => simp [mergeById]
  | cons item rest ih =>
    calc (mergeById id upper (item :: rest)).find? (id · == name)
        = (mergeById id (addById id upper item) rest).find? (id · == name) := rfl
      _ = ((upper.find? (id · == name)).or ([item].find? (id · == name))).or
            (rest.find? (id · == name)) := by rw [ih, find?_addById]
      _ = (upper.find? (id · == name)).or ((item :: rest).find? (id · == name)) := by
          rw [Option.or_assoc, ← List.find?_append, List.singleton_append]

theorem mergeById_cons_of_known {upper lower : List α} {item : α} (h : id item ∈ upper.map id) :
    mergeById id upper (item :: lower) = mergeById id upper lower := by
  have hknown : upper.any (id · == id item) = true := by simpa using h
  rw [mergeById, List.foldl_cons, addById, if_pos hknown, mergeById]

theorem mergeById_cons_of_new {upper lower : List α} {item : α} (h : id item ∉ upper.map id) :
    mergeById id upper (item :: lower) = mergeById id (upper ++ [item]) lower := by
  have hnew : ¬upper.any (id · == id item) = true := by simpa using h
  rw [mergeById, List.foldl_cons, addById, if_neg hnew, mergeById]

/-- The upper list is followed by the first item of each identifier that is new to it. -/
theorem mergeById_eq_append (upper lower : List α) :
    mergeById id upper lower =
      upper ++ (lower.filter (id · ∉ upper.map id)).eraseDupsBy (id · == id ·) := by
  induction lower generalizing upper with
  | nil => exact (List.append_nil upper).symm
  | cons item rest ih =>
    by_cases hknown : id item ∈ upper.map id
    · rw [mergeById_cons_of_known hknown, ih, List.filter_cons_of_neg (by simpa using hknown)]
    · have hlater (other : α) : (id other ∉ (upper ++ [item]).map id) ↔
          id other ≠ id item ∧ id other ∉ upper.map id := by
        simp [not_or, and_comm]
      rw [mergeById_cons_of_new hknown, ih, List.filter_cons_of_pos (by simpa using hknown),
        List.eraseDupsBy_cons, List.filter_filter, List.append_assoc, List.singleton_append]
      simp only [hlater, Bool.decide_and, beq_eq_false_iff_ne]

theorem nodup_ids_mergeById {upper : List α} (h : (upper.map id).Nodup) (lower : List α) :
    ((mergeById id upper lower).map id).Nodup := by
  induction lower generalizing upper with
  | nil => exact h
  | cons item rest ih =>
    by_cases hknown : id item ∈ upper.map id
    · rw [mergeById_cons_of_known hknown]
      exact ih h
    · rw [mergeById_cons_of_new hknown]
      apply ih
      rw [List.map_append, List.map_singleton]
      simpa using h.concat hknown

end Keyed

theorem union_eq_eraseDups (first second : List String) :
    union first second = (first ++ second).eraseDups := by
  rw [union]
  induction first ++ second using List.reverseRecOn with
  | nil => rfl
  | append_singleton values value ih =>
    rw [List.foldl_concat, ih, addNew, Listing.eraseDups_concat]
    simp only [List.contains_iff_mem, List.mem_eraseDups]

/-- The local repository that the settings name, unless that is blank. -/
def statedRepository? (s : Settings) : Option String :=
  s.localRepository.filter fun text => !Text.isBlank text

theorem localRepository_merge (lower upper : Settings) :
    (lower.merge upper).localRepository = upper.statedRepository?.or lower.localRepository := by
  cases htext : upper.localRepository with
  | none => simp [merge, statedRepository?, htext]
  | some text =>
    cases hblank : Text.isBlank text <;>
      simp [merge, statedRepository?, htext, hblank, Text.filled?, Option.filter]

/-! ### Any number of layers -/

section Layers

variable (layers : List Settings)

/-- Where the upper layer goes before the lower one, the last layer that states anything counts. -/
theorem foldl_merge {β : Type} (value : Settings → Option β) {stated : Settings → Option β}
    (hempty : value {} = none)
    (hmerge : ∀ lower upper, value (lower.merge upper) = (stated upper).or (value lower)) :
    value (layers.foldl merge {}) = layers.reverse.findSome? stated := by
  induction layers using List.reverseRecOn with
  | nil => exact hempty
  | append_singleton layers upper ih =>
    rw [List.foldl_concat, hmerge, ih, List.reverse_concat, List.findSome?_cons]
    cases stated upper <;> rfl

theorem activeProfiles_foldl_merge : (layers.foldl merge {}).activeProfiles =
    (layers.reverse.flatMap (·.activeProfiles)).eraseDups := by
  induction layers using List.reverseRecOn with
  | nil => rfl
  | append_singleton layers upper ih =>
    rw [List.foldl_concat, List.reverse_concat, List.flatMap_cons,
      ← Listing.eraseDups_append_eraseDups, ← ih]
    exact union_eq_eraseDups _ _

/-- Declarations of one kind by identifier: the first of the last layer that has any counts, and no
identifier is lost. -/
structure Declared {α : Type} (id : α → String) (field : Settings → List α) (s : Settings) :
    Prop where
  first : ∀ name, (field s).find? (id · == name) =
    layers.reverse.findSome? fun layer => (field layer).find? (id · == name)
  kept : ∀ name, name ∈ (field s).map id ↔ ∃ layer ∈ layers, name ∈ (field layer).map id

theorem isSome_find?_iff {α : Type} {id : α → String} {items : List α} {name : String} :
    (items.find? (id · == name)).isSome = true ↔ name ∈ items.map id := by
  simp [List.find?_isSome]

theorem declared_foldl_merge {α : Type} {id : α → String} {field : Settings → List α}
    (hempty : field {} = [])
    (hmerge : ∀ lower upper, field (lower.merge upper) = mergeById id (field upper) (field lower)) :
    Declared layers id field (layers.foldl merge {}) := by
  have hfirst (name : String) : (field (layers.foldl merge {})).find? (id · == name) =
      layers.reverse.findSome? fun layer => (field layer).find? (id · == name) := by
    apply foldl_merge layers fun s => (field s).find? (id · == name)
    · rw [hempty]
      rfl
    · intro lower upper
      rw [hmerge, find?_mergeById]
  refine ⟨hfirst, ?_⟩
  intro name
  rw [← isSome_find?_iff, hfirst, List.findSome?_isSome_iff]
  simp only [List.mem_reverse, isSome_find?_iff]

/-- The settings are the layers laid over each other, the later ones over the earlier ones. -/
structure Overlaid (s : Settings) : Prop where
  servers : Declared layers Server.id servers s
  mirrors : Declared layers MirrorSettings.id mirrors s
  proxies : Declared layers ProxySettings.id proxies s
  profiles : Declared layers Profile.id profiles s
  server : ∀ id, s.server? id = layers.reverse.findSome? (·.server? id)
  profile : ∀ id, s.profile? id = layers.reverse.findSome? (·.profile? id)
  activeProfiles : s.activeProfiles = (layers.reverse.flatMap (·.activeProfiles)).eraseDups
  once : s.activeProfiles.Nodup
  localRepository : s.localRepository = layers.reverse.findSome? statedRepository?
  offline : s.offline = layers.reverse.findSome? (·.offline)

/-- Layers that are merged one after the other, the first into empty settings, lie over each other.
-/
theorem merged_overlaid : Overlaid layers (layers.foldl merge {}) := by
  have hservers : Declared layers Server.id servers (layers.foldl merge {}) :=
    declared_foldl_merge layers rfl fun _ _ => rfl
  have hprofiles : Declared layers Profile.id profiles (layers.foldl merge {}) :=
    declared_foldl_merge layers rfl fun _ _ => rfl
  exact
    { servers := hservers
      mirrors := declared_foldl_merge layers rfl fun _ _ => rfl
      proxies := declared_foldl_merge layers rfl fun _ _ => rfl
      profiles := hprofiles
      server := hservers.first
      profile := hprofiles.first
      activeProfiles := activeProfiles_foldl_merge layers
      once := by
        rw [activeProfiles_foldl_merge]
        exact Listing.nodup_eraseDups _
      localRepository := foldl_merge layers (·.localRepository) rfl localRepository_merge
      offline := foldl_merge layers (·.offline) rfl fun _ _ => rfl }

end Layers

end Settings

/-- The files at the paths are read one after the other and what they hold is merged; the first that
cannot be read is reported. -/
theorem SettingsResolver.mergeLayers_eq (files : FileSystem) (p : Properties) (paths : List Path) :
    mergeLayers files p paths = (paths.mapM (Settings.loadLayer files p)).map fun layers =>
      layers.reduceOption.foldl Settings.merge {} := by
  rw [mergeLayers]
  generalize ({} : Settings) = start
  induction paths generalizing start with
  | nil => rfl
  | cons path rest ih =>
    rw [List.foldlM_cons, List.mapM_cons]
    cases Settings.loadLayer files p path with
    | error cause => rfl
    | ok layer =>
      cases layer with
      | none =>
        refine (ih start).trans ?_
        cases rest.mapM (Settings.loadLayer files p) <;> rfl
      | some layer =>
        refine (ih (start.merge layer)).trans ?_
        cases rest.mapM (Settings.loadLayer files p) <;> rfl

end Depot
