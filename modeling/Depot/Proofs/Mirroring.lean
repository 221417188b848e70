import Depot.Proofs.Aggregation

/-! What stands behind an entry of an aggregated list. The repositories whose candidates have one
identifier come to one entry (`Entry`). The first of them leads: the entry has the place and the
policies of its candidate, whatever the others are like, and all of them add what they stand in for.
So an entry is at the place of the mirror that a listed repository goes through, and lets through
what that repository lets through, only as far as the leader agrees (`Entry.policy`,
`reaches_iff`). -/

namespace Depot

namespace Selectors

open Listing RemoteRepository

variable (s : Selectors)

/-- A repository is its own candidate unless a mirror is selected for it. -/
theorem candidate_cases (r : RemoteRepository) :
    (s.mirrors.find? (·.standsInFor r) = none ∧ s.candidate r = r) ∨
      ∃ m, s.mirrors.find? (·.standsInFor r) = some m ∧ s.candidate r = m.repository r := by
  cases h : s.mirrors.find? (·.standsInFor r) with
  | none => exact .inl ⟨rfl, by rw [candidate, MirrorRule.select?, h]; rfl⟩
  | some m => exact .inr ⟨m, rfl, by rw [candidate, MirrorRule.select?, h]; rfl⟩

/-- The candidate has the policies of the repository, also when it is a mirror. -/
theorem candidate_policy (r : RemoteRepository) (snapshot : Bool) :
    (s.candidate r).policy snapshot = r.policy snapshot := by
  rcases s.candidate_cases r with ⟨-, h⟩ | ⟨m, -, h⟩
  · rw [h]
  · rw [h]
    rfl

/-- The first repository whose candidate has the identifier. -/
def leader? (rs : List RemoteRepository) (id : String) : Option RemoteRepository :=
  rs.find? fun r => (s.candidate r).id == id

/-- What is mirrored by the repositories whose candidates have the identifier, in order. -/
def brought (rs : List RemoteRepository) (id : String) : List RemoteRepository :=
  (rs.filter fun r => (s.candidate r).id == id).flatMap fun r => (s.candidate r).mirrored

/-- The entry of an identifier and its leader. The entry is the leader's candidate, and lists what
that candidate mirrors and else what is brought first of its identifier. -/
structure Entry (rs : List RemoteRepository) (f e : RemoteRepository) : Prop where
  leads : s.leader? rs e.id = some f
  source : e.SameSource (s.candidate f)
  lists : ∀ q, q ∈ e.mirrored ↔ q ∈ (s.candidate f).mirrored ∨
    (s.brought rs e.id).find? (·.id == q.id) = some q

variable {s} {rs : List RemoteRepository} {e f r : RemoteRepository} {id : String}

theorem leader_spec (h : s.leader? rs id = some f) : f ∈ rs ∧ (s.candidate f).id = id :=
  ⟨List.mem_of_find?_eq_some h, by simpa using List.find?_some h⟩

theorem mem_brought {q : RemoteRepository} : q ∈ s.brought rs id ↔
    ∃ g ∈ rs, (s.candidate g).id = id ∧ q ∈ (s.candidate g).mirrored := by
  simp [brought, and_assoc]

theorem entry_of_find? (h : (s.aggregate rs).find? (·.id == id) = some e) :
    ∃ f, s.Entry rs f e := by
  obtain rfl : e.id = id := by simpa using List.find?_some h
  rw [find?_aggregate] at h
  obtain ⟨g, hg, rfl⟩ := Option.map_eq_some_iff.mp h
  cases hl : rs.filter fun r => (s.candidate r).id == (s.equip g).id with
  | nil =>
    rw [hl] at hg
    cases hg
  | cons f rest =>
    rw [hl, List.map_cons] at hg
    refine ⟨f, ?_, ?_, fun q => ?_⟩
    · rw [leader?, ← List.head?_filter, hl]
      rfl
    · obtain rfl := Option.some.inj hg
      exact (s.equip_sameSource _).trans (standInFor_sameSource _ _)
    · rw [equip_mirrored, mem_mirrored_gather hg, ← List.map_cons, List.flatMap_map, brought, hl]

theorem entry_of_mem (he : e ∈ s.aggregate rs) : ∃ f, s.Entry rs f e := by
  apply entry_of_find?
  rw [aggregate_eq_collapse] at he ⊢
  exact find?_of_mem_collapse he

/-- Every leader has its entry. -/
theorem entry_of_leader (h : s.leader? rs id = some f) :
    ∃ e ∈ s.aggregate rs, e.id = id ∧ s.Entry rs f e := by
  cases he : (s.aggregate rs).find? (·.id == id) with
  | none =>
    obtain ⟨hf, hid⟩ := leader_spec h
    have hfilter : f ∈ rs.filter fun r => (s.candidate r).id == id :=
      List.mem_filter.mpr ⟨hf, beq_iff_eq.mpr hid⟩
    rw [find?_aggregate, Option.map_eq_none_iff, gather_eq_none, List.map_eq_nil_iff] at he
    rw [he] at hfilter
    cases hfilter
  | some e =>
    obtain ⟨f', hentry⟩ := entry_of_find? he
    have hid : e.id = id := by simpa using List.find?_some he
    have hleads := hentry.leads
    rw [hid] at hleads
    obtain rfl := Option.some.inj (hleads.symm.trans h)
    exact ⟨e, List.mem_of_find?_eq_some he, hid, hentry⟩

/-- An entry lets through what its leader lets through. -/
theorem Entry.policy (h : s.Entry rs f e) (snapshot : Bool) :
    e.policy snapshot = f.policy snapshot :=
  (h.source.policy snapshot).trans (s.candidate_policy f snapshot)

/-- All that an entry lists was brought to it. -/
theorem Entry.mem_brought (h : s.Entry rs f e) {q : RemoteRepository} (hq : q ∈ e.mirrored) :
    q ∈ s.brought rs e.id := by
  rcases (h.lists q).mp hq with hq | hq
  · obtain ⟨hf, hid⟩ := leader_spec h.leads
    exact Selectors.mem_brought.mpr ⟨f, hf, hid, hq⟩
  · exact List.mem_of_find?_eq_some hq

/-- One mirror at an address of its own. -/
def oneMirror (id mirrorOf : String) (blocked : Bool) : Selectors :=
  { mirrors := [{ id, url := "https://mirror/", mirrorOf, blocked }] }

def remote (id : String) : RemoteRepository :=
  { id, url := "https://" ++ id ++ "/" }

/-! ### At which place -/

/-- What an entry lists is mirrored by a mirror of the entry's identifier, but the entry is at the
place of its leader's candidate, which is the mirror's place or not. -/
theorem mirrored_by_leader (hplain : ∀ t ∈ rs, t.mirrored = []) (he : e ∈ s.aggregate rs)
    (hr : r ∈ e.mirrored) : r ∈ rs ∧ ∃ m f, s.mirrors.find? (·.standsInFor r) = some m ∧
      e.id = m.id ∧ s.leader? rs m.id = some f ∧ e.SamePlace (s.candidate f) ∧
      (e.SamePlace (m.repository r) ↔ (s.candidate f).SamePlace (m.repository r)) := by
  obtain ⟨f, hentry⟩ := entry_of_mem he
  have hleads := hentry.leads
  have hplace := hentry.source.place
  obtain ⟨g, hg, hgid, hgr⟩ := mem_brought.mp (hentry.mem_brought hr)
  rcases s.candidate_cases g with ⟨-, hdirect⟩ | ⟨m, hm, hmirror⟩
  · rw [hdirect, hplain g hg] at hgr
    cases hgr
  · rw [hmirror] at hgid hgr
    obtain rfl : r = g := List.mem_singleton.mp hgr
    rw [← hgid] at hleads
    exact ⟨hg, m, f, hm, hgid.symm, hleads, hplace, hplace.symm.trans, hplace.trans⟩

/-- With no other candidate of its identifier the blocked mirror is where its repositories are. -/
theorem mirrored_by_leader_blocked :
    ∃ e ∈ (oneMirror "m" "*" true).aggregate [remote "b", remote "c"], remote "c" ∈ e.mirrored ∧
      ∃ m, (oneMirror "m" "*" true).mirrors.find? (·.standsInFor (remote "c")) = some m ∧
        e.SamePlace (m.repository (remote "c")) := by
  obtain ⟨e, he, hc⟩ : ∃ e ∈ (oneMirror "m" "*" true).aggregate [remote "b", remote "c"],
      remote "c" ∈ e.mirrored := by
    decide
  have hselected : (oneMirror "m" "*" true).mirrors.find? (·.standsInFor (remote "c")) =
      some { id := "m", url := "https://mirror/", mirrorOf := "*", blocked := true } := by
    decide
  have hleader : (oneMirror "m" "*" true).leader? [remote "b", remote "c"] "m" =
      some (remote "b") := by
    decide
  obtain ⟨-, m, f, hm, -, hf, -, hplace⟩ := mirrored_by_leader (by decide) he hc
  obtain rfl := Option.some.inj (hm.symm.trans hselected)
  obtain rfl := Option.some.inj (hf.symm.trans hleader)
  exact ⟨e, he, hc, _, hm, hplace.mpr (by decide)⟩

/-- The repository is listed by an entry that is at another place than the repository's mirror. -/
def Misplaces (s : Selectors) (rs : List RemoteRepository) (r : RemoteRepository) : Prop :=
  (∀ t ∈ rs, t.mirrored = []) ∧ r ∈ rs ∧
    ∃ e ∈ s.aggregate rs, r ∈ e.mirrored ∧ ¬ e.SamePlace (s.candidate r)

instance (s : Selectors) (rs : List RemoteRepository) (r : RemoteRepository) :
    Decidable (s.Misplaces rs r) :=
  inferInstanceAs (Decidable (_ ∧ _ ∧ ∃ e ∈ _, _ ∧ _))

/-- A blocked mirror is bypassed when an open one, or a repository, has its identifier and comes
first. -/
theorem misplaces_some :
    Misplaces { mirrors := [{ id := "m", url := "https://one/", mirrorOf := "a" },
        { id := "m", url := "https://two/", mirrorOf := "b", blocked := true }] }
      [remote "a", remote "b"] (remote "b") ∧
    (oneMirror "m" "b" true).Misplaces [remote "m", remote "b"] (remote "b") := by
  decide

/-! ### What is let through -/

/-- There is an entry for the repository that lets releases, or snapshots, through. -/
def Reaches (s : Selectors) (rs : List RemoteRepository) (r : RemoteRepository)
    (snapshot : Bool) : Prop :=
  ∃ e ∈ s.aggregate rs, (e.SameSource r ∨ r ∈ e.mirrored) ∧ (e.policy snapshot).enabled = true

instance (s : Selectors) (rs : List RemoteRepository) (r : RemoteRepository) (snapshot : Bool) :
    Decidable (s.Reaches rs r snapshot) :=
  inferInstanceAs (Decidable (∃ e ∈ _, _ ∧ _))

/-- A repository is reached exactly through leaders with the kind enabled, whose candidate it is or
whose entry lists it. -/
theorem reaches_iff {snapshot : Bool} : s.Reaches rs r snapshot ↔
    ∃ f, s.leader? rs (s.candidate f).id = some f ∧ (f.policy snapshot).enabled = true ∧
      ((s.candidate f).SameSource r ∨ r ∈ (s.candidate f).mirrored ∨
        (s.brought rs (s.candidate f).id).find? (·.id == r.id) = some r) := by
  have hserves {f e : RemoteRepository} (h : s.Entry rs f e) :
      (e.SameSource r ∨ r ∈ e.mirrored) ↔ ((s.candidate f).SameSource r ∨
        r ∈ (s.candidate f).mirrored ∨
        (s.brought rs (s.candidate f).id).find? (·.id == r.id) = some r) := by
    rw [h.lists, h.source.id]
    exact or_congr_left ⟨h.source.symm.trans, h.source.trans⟩
  constructor
  · rintro ⟨e, he, h, henabled⟩
    obtain ⟨f, hentry⟩ := entry_of_mem he
    have hleads := hentry.leads
    rw [hentry.source.id] at hleads
    rw [hentry.policy] at henabled
    exact ⟨f, hleads, henabled, (hserves hentry).mp h⟩
  · rintro ⟨f, hf, henabled, h⟩
    obtain ⟨e, he, -, hentry⟩ := entry_of_leader hf
    rw [← hentry.policy] at henabled
    exact ⟨e, he, (hserves hentry).mpr h, henabled⟩

/-- A mirrored repository is the first that is brought of its identifier, when identifiers are
distinct and no other is listed from the start by a repository of the same entry. -/
theorem find?_brought (hids : (rs.map (·.id)).Nodup) (hr : r ∈ rs)
    (hmirrored : (s.mirrors.find? (·.standsInFor r)).isSome = true)
    (hlisted : ∀ t ∈ rs, (s.candidate t).id = (s.candidate r).id →
      ∀ q ∈ t.mirrored, q.id = r.id → q = r) :
    (s.brought rs (s.candidate r).id).find? (·.id == r.id) = some r := by
  have hbrought : r ∈ s.brought rs (s.candidate r).id := by
    refine mem_brought.mpr ⟨r, hr, rfl, ?_⟩
    rcases s.candidate_cases r with ⟨hnone, -⟩ | ⟨m, -, hmirror⟩
    · rw [hnone] at hmirrored
      cases hmirrored
    · rw [hmirror]
      exact List.mem_singleton.mpr rfl
  cases hq : (s.brought rs (s.candidate r).id).find? (·.id == r.id) with
  | none => exact absurd (beq_self_eq_true r.id) (List.find?_eq_none.mp hq r hbrought)
  | some q =>
    have hid : q.id = r.id := by simpa using List.find?_some hq
    obtain ⟨t, ht, htid, htq⟩ := mem_brought.mp (List.mem_of_find?_eq_some hq)
    -- What comes first is an input that is mirrored, or listed by one that is not.
    rcases s.candidate_cases t with ⟨-, hdirect⟩ | ⟨m, -, hmirror⟩
    · have hsame := hlisted t ht htid
      rw [hdirect] at htq
      rw [hsame q htq hid]
    · rw [hmirror] at htq
      obtain rfl : q = t := List.mem_singleton.mp htq
      rw [List.inj_on_of_nodup_map hids ht hr hid]

/-- Among repositories of distinct identifiers, access to one of them is kept by a leader of its entry
with the kind enabled, when that is the repository itself or the repository is mirrored and first of
its identifier; and of whatever repositories, access is given in no other way than by leaders with the
kind enabled. -/
theorem access_by_leader (s : Selectors) (rs : List RemoteRepository) (r : RemoteRepository)
    (snapshot : Bool) :
    ((rs.map (·.id)).Nodup → r ∈ rs → ∀ f, s.leader? rs (s.candidate r).id = some f →
      (f.policy snapshot).enabled = true →
      (f = r ∨ ((s.mirrors.find? (·.standsInFor r)).isSome = true ∧
        ∀ t ∈ rs, (s.candidate t).id = (s.candidate r).id →
          ∀ q ∈ t.mirrored, q.id = r.id → q = r)) →
      s.Reaches rs r snapshot) ∧
    (s.Reaches rs r snapshot ↔ ∃ f, s.leader? rs (s.candidate f).id = some f ∧
      (f.policy snapshot).enabled = true ∧
      ((s.candidate f).SameSource r ∨ r ∈ (s.candidate f).mirrored ∨
        (s.brought rs (s.candidate f).id).find? (·.id == r.id) = some r)) := by
  refine ⟨?_, reaches_iff⟩
  intro hids hr f hf henabled hserves
  obtain ⟨-, hid⟩ := leader_spec hf
  rw [← hid] at hf
  refine reaches_iff.mpr ⟨f, hf, henabled, ?_⟩
  rcases hserves with rfl | ⟨hmirrored, hlisted⟩
  · rcases s.candidate_cases f with ⟨-, hdirect⟩ | ⟨m, -, hmirror⟩
    · rw [hdirect]
      exact .inl (.refl f)
    · rw [hmirror]
      exact .inr (.inl (List.mem_singleton.mpr rfl))
  · rw [hid]
    exact .inr (.inr (find?_brought hids hr hmirrored hlisted))

/-- With the leader's policies enabled the mirror of all gives access to both. -/
theorem access_by_leader_all :
    (oneMirror "all" "*" false).Reaches [remote "a", { remote "b" with snapshots := .disabled }]
      { remote "b" with snapshots := .disabled } false :=
  (access_by_leader _ _ _ false).1 (by decide) (by decide) (remote "a") (by decide) (by decide)
    (.inr ⟨by decide, by decide⟩)

/-- The repository has the kind enabled, and still no entry lets it through. -/
def Loses (s : Selectors) (rs : List RemoteRepository) (r : RemoteRepository)
    (snapshot : Bool) : Prop :=
  (rs.map (·.id)).Nodup ∧ r ∈ rs ∧ (r.policy snapshot).enabled = true ∧ ¬ s.Reaches rs r snapshot

instance (s : Selectors) (rs : List RemoteRepository) (r : RemoteRepository) (snapshot : Bool) :
    Decidable (s.Loses rs r snapshot) :=
  inferInstanceAs (Decidable (_ ∧ _ ∧ _ ∧ _))

/-- A repository is lost when its mirror's entry is led by one that has the kind disabled, when
others give way to a mirror of its identifier before it comes, and when the entry lists another
repository under its identifier. -/
theorem loses_some :
    (oneMirror "all" "*" false).Loses [{ remote "a" with releases := .disabled }, remote "b"]
      (remote "b") false ∧
    (oneMirror "a" "*,!a" false).Loses [remote "b", remote "a"] (remote "a") false ∧
    (oneMirror "m" "b" false).Loses
      [{ remote "m" with mirrored := [{ id := "b", url := "https://other/" }] }, remote "b"]
      (remote "b") false := by
  decide

end Selectors

end Depot
