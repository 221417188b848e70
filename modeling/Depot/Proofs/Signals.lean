import Depot.Proofs.Precedence

/-! What makes profiles active. There is a signal for a profile when the overrides ask for it, when
the settings name it, or when the selector accepts it. The active profiles are those that there is a
signal for, in the order of the signals, without the deactivated ones and with the first of each
identifier only; where that leaves none they are the profiles that are active by default, restricted
in the same way (`active_by_signals`). -/

namespace Depot.Settings

/-! ### The first profile of each identifier -/

section FirstOfEach

variable {inactive : List String} {profiles : List Profile} {p : Profile}

/-- The profiles without those of the inactive identifiers, and of the others the first of each
identifier. -/
def firstOfEach (inactive : List String) (profiles : List Profile) : List Profile :=
  (profiles.filter (·.id ∉ inactive)).eraseDupsBy (·.id == ·.id)

theorem firstOfEach_eq_mergeById : firstOfEach inactive profiles =
    mergeById Profile.id [] (profiles.filter (·.id ∉ inactive)) := by
  rw [mergeById_eq_append, List.nil_append]
  simp [firstOfEach]

/-- A profile becomes active like a declaration that is added to others, unless it is inactive. -/
theorem activate_eq (active : List Profile) : activate inactive active p =
    if p.id ∉ inactive then addById Profile.id active p else active := by
  by_cases h : p.id ∈ inactive <;> simp [activate, addById, h]

theorem foldl_activate (inactive : List String) (profiles : List Profile) :
    profiles.foldl (activate inactive) [] = firstOfEach inactive profiles := by
  rw [firstOfEach_eq_mergeById, mergeById, List.foldl_filter]
  congr 1
  funext active p
  simp only [activate_eq, decide_eq_true_eq]

theorem nodup_ids_firstOfEach : ((firstOfEach inactive profiles).map (·.id)).Nodup := by
  rw [firstOfEach_eq_mergeById]
  have hnone : (([] : List Profile).map (·.id)).Nodup := List.nodup_nil
  exact nodup_ids_mergeById hnone _

/-- Among the profiles that are not inactive one is found by its identifier as among all. -/
theorem find?_filter_notMem (id : String) :
    (profiles.filter (·.id ∉ inactive)).find? (·.id == id) =
      if id ∈ inactive then none else profiles.find? (·.id == id) := by
  rw [List.find?_filter]
  split
  · rename_i hinactive
    apply List.find?_eq_none.mpr
    intro p _ hp
    obtain ⟨hactive, rfl⟩ : p.id ∉ inactive ∧ p.id = id := by simpa using hp
    exact hactive hinactive
  · rename_i hactive
    congr 1
    funext p
    by_cases hid : p.id = id <;> simp [hid, hactive]

theorem mem_firstOfEach : p ∈ firstOfEach inactive profiles ↔
    p.id ∉ inactive ∧ IsFirst (·.id = p.id) profiles p := by
  have hfind : (firstOfEach inactive profiles).find? (·.id == p.id) =
      if p.id ∈ inactive then none else profiles.find? (·.id == p.id) := by
    rw [firstOfEach_eq_mergeById, find?_mergeById, List.find?_nil, Option.none_or,
      find?_filter_notMem]
  have hfirst : profiles.find? (·.id == p.id) = some p ↔ IsFirst (·.id = p.id) profiles p :=
    find?_eq_some_iff_isFirst fun _ => beq_iff_eq
  rw [← hfirst]
  constructor
  · intro hp
    rw [find?_of_nodup_map nodup_ids_firstOfEach hp] at hfind
    split at hfind
    · cases hfind
    · exact ⟨‹_›, hfind.symm⟩
  · rintro ⟨hactive, hp⟩
    rw [if_neg hactive, hp] at hfind
    exact List.mem_of_find?_eq_some hfind

theorem mem_of_mem_firstOfEach (h : p ∈ firstOfEach inactive profiles) : p ∈ profiles := by
  obtain ⟨-, before, after, rfl, -⟩ := mem_firstOfEach.mp h
  exact List.mem_append_right _ List.mem_cons_self

/-- Nothing is left only of profiles that are all inactive. -/
theorem firstOfEach_eq_nil (h : firstOfEach inactive profiles = []) :
    ∀ p ∈ profiles, p.id ∈ inactive := by
  intro p hp
  by_contra hactive
  obtain ⟨first, hfirst⟩ := exists_isFirst (P := (·.id = p.id)) ⟨p, hp, rfl⟩
  obtain ⟨_, _, _, hid, _⟩ := id hfirst
  have hkept : first ∈ firstOfEach inactive profiles :=
    mem_firstOfEach.mpr ⟨hid ▸ hactive, hid ▸ hfirst⟩
  rw [h] at hkept
  cases hkept

end FirstOfEach

/-! ### Signals -/

section Signals

variable (s : Settings) (o : Overrides) (accepts : Option (Profile → Bool))

/-- The profiles that there is a signal for, in the order of the signals: the first declaration of
each identifier that the overrides ask for, then of each that the settings name, then the
declarations that are accepted. -/
def signalled : List Profile :=
  (o.activeProfiles ++ s.activeProfiles).filterMap (fun id => s.profiles.find? (·.id == id)) ++
    s.profiles.filter fun p => accepts.any (· p)

/-- The profiles are active by the signals, or by default when those leave none. -/
structure ActiveBySignals (active : List Profile) : Prop where
  signals : firstOfEach o.inactiveProfiles (s.signalled o accepts) ≠ [] →
    active = firstOfEach o.inactiveProfiles (s.signalled o accepts)
  defaults : firstOfEach o.inactiveProfiles (s.signalled o accepts) = [] →
    active = firstOfEach o.inactiveProfiles (s.profiles.filter Profile.isActiveByDefault)
  once : (active.map (·.id)).Nodup
  kept : ∀ p ∈ active, p.id ∉ o.inactiveProfiles
  declared : ∀ p ∈ active, p ∈ s.profiles
  /-- A profile without a signal is active only where none has one, and each by default. -/
  fallback : ∀ p ∈ active, p ∉ s.signalled o accepts →
    ∀ other ∈ active, other ∉ s.signalled o accepts ∧ other.isActiveByDefault = true

theorem activeUnder_eq : s.activeUnder o accepts =
    if firstOfEach o.inactiveProfiles (s.signalled o accepts) = [] then
      firstOfEach o.inactiveProfiles (s.profiles.filter Profile.isActiveByDefault)
    else firstOfEach o.inactiveProfiles (s.signalled o accepts) := by
  have hlist : s.signalled o accepts = s.named o.activeProfiles ++ s.named s.activeProfiles ++
      s.profiles.filter (fun p => accepts.any (· p)) := by
    rw [signalled, List.filterMap_append]
    rfl
  cases accepts with
  | none =>
    simp only [hlist, activeUnder, activeAmong, foldl_activate, List.isEmpty_iff, Option.any_none,
      List.filter_false]
  | some accepts =>
    simp only [hlist, activeUnder, activeAmong, foldl_activate, List.isEmpty_iff, Option.any_some]

theorem mem_of_mem_signalled {p : Profile} (h : p ∈ s.signalled o accepts) : p ∈ s.profiles := by
  rcases List.mem_append.mp h with hnamed | haccepted
  · obtain ⟨id, -, hfound⟩ := List.mem_filterMap.mp hnamed
    exact List.mem_of_find?_eq_some hfound
  · exact (List.mem_filter.mp haccepted).1

/-- Whatever selector there is, profiles become active by the signals, and by default when the
signals leave none. -/
theorem active_by_signals (selector : Option ProfileSelector) (files : FileSystem)
    (p : Properties) : s.ActiveBySignals o (selector.map (· files p))
      (s.activeUnder o (selector.map (· files p))) := by
  generalize selector.map (· files p) = accepts
  have hactive := s.activeUnder_eq o accepts
  by_cases hnone : firstOfEach o.inactiveProfiles (s.signalled o accepts) = []
  · rw [if_pos hnone] at hactive
    rw [hactive]
    have hdefault {p : Profile}
        (h : p ∈ firstOfEach o.inactiveProfiles (s.profiles.filter Profile.isActiveByDefault)) :
        p ∈ s.profiles ∧ p.isActiveByDefault = true :=
      List.mem_filter.mp (mem_of_mem_firstOfEach h)
    exact
      { signals := fun hsome => absurd hnone hsome
        defaults := fun _ => rfl
        once := nodup_ids_firstOfEach
        kept := fun _ hp => (mem_firstOfEach.mp hp).1
        declared := fun _ hp => (hdefault hp).1
        fallback := fun _ _ _ other hother => ⟨fun hsignal =>
          (mem_firstOfEach.mp hother).1 (firstOfEach_eq_nil hnone other hsignal),
          (hdefault hother).2⟩ }
  · rw [if_neg hnone] at hactive
    rw [hactive]
    exact
      { signals := fun _ => rfl
        defaults := fun h => absurd h hnone
        once := nodup_ids_firstOfEach
        kept := fun _ hp => (mem_firstOfEach.mp hp).1
        declared := fun _ hp => s.mem_of_mem_signalled o accepts (mem_of_mem_firstOfEach hp)
        fallback := fun _ hp hunsignalled => absurd (mem_of_mem_firstOfEach hp) hunsignalled }

end Signals

end Depot.Settings
