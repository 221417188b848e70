import Depot.Proofs.Composing
import Depot.Proofs.Lineage
import Depot.Proofs.Mirroring
import Depot.Proofs.MirrorPatterns

/-! The central repository as the default. It is discovered whenever no active profile has a
repository, also when the overrides name some. So the entries of a created context stand for what
the profiles and the overrides name (`Selectors.StandsFor`), except that the central repository
comes along when no profile has one, the mode keeps what is discovered and nothing that is named
comes before it (`Selectors.CentralLeads`). `World.created_entries` says exactly when nothing comes
along. -/

namespace Depot

/-- Mirrors go by the identifier, the address and the layout of a repository. -/
theorem MirrorRule.standsInFor_of_sameSource (m : MirrorRule) {r t : RemoteRepository}
    (h : r.SameSource t) : m.standsInFor r = m.standsInFor t := by
  have hprotocol : r.protocol = t.protocol := by
    rw [RemoteRepository.protocol, RemoteRepository.protocol, h.place.url]
  have hhost : r.host = t.host := by
    rw [RemoteRepository.host, RemoteRepository.host, h.place.url]
  have hlocal : r.isLocal = t.isLocal := by
    rw [RemoteRepository.isLocal, RemoteRepository.isLocal, hprotocol, hhost]
  exact m.standsInFor_congr h.id h.place.layout hprotocol hlocal

namespace Selectors

open Listing RemoteRepository

variable {s : Selectors} {rs explicit : List RemoteRepository} {e f r t : RemoteRepository}

theorem find?_mirrors_congr (h : r.SameSource t) :
    s.mirrors.find? (·.standsInFor r) = s.mirrors.find? (·.standsInFor t) := by
  simp only [MirrorRule.standsInFor_of_sameSource _ h]

theorem candidate_sameSource (h : r.SameSource t) :
    (s.candidate r).SameSource (s.candidate t) := by
  rw [candidate, candidate, MirrorRule.select?, MirrorRule.select?, find?_mirrors_congr h]
  cases s.mirrors.find? (·.standsInFor t) with
  | none => exact h
  | some m => exact ⟨rfl, ⟨rfl, rfl, rfl⟩, h.releases, h.snapshots⟩

/-- The entry is one of the repositories, or the mirror that is selected for one of them. -/
def StandsFor (s : Selectors) (rs : List RemoteRepository) (e : RemoteRepository) : Prop :=
  ∃ r ∈ rs, e.SameSource r ∨
    ∃ m ∈ s.mirrors.find? (·.standsInFor r), e.id = m.id ∧ e.SamePlace (m.repository r)

instance (s : Selectors) (rs : List RemoteRepository) (e : RemoteRepository) :
    Decidable (s.StandsFor rs e) :=
  inferInstanceAs (Decidable (∃ r ∈ rs, e.SameSource r ∨
    ∃ m ∈ s.mirrors.find? (·.standsInFor r), e.id = m.id ∧ e.SamePlace (m.repository r)))

theorem StandsFor.of_sameSource (h : s.StandsFor rs f) (hsame : e.SameSource f) :
    s.StandsFor rs e := by
  obtain ⟨r, hr, hdirect | ⟨m, hm, hid, hplace⟩⟩ := h
  · exact ⟨r, hr, .inl (hsame.trans hdirect)⟩
  · exact ⟨r, hr, .inr ⟨m, hm, hsame.id.trans hid, hsame.place.trans hplace⟩⟩

theorem standsFor_candidate (hr : r ∈ rs) (hsame : f.SameSource r) :
    s.StandsFor rs (s.candidate f) := by
  rcases s.candidate_cases f with ⟨-, hdirect⟩ | ⟨m, hm, hmirror⟩
  · rw [hdirect]
    exact ⟨r, hr, .inl hsame⟩
  · rw [hmirror]
    exact ⟨r, hr, .inr ⟨m, (find?_mirrors_congr hsame).symm.trans hm, rfl, rfl, rfl, rfl⟩⟩

theorem standsFor_of_mem {discovered : List RemoteRepository} {mode : Mode}
    (h : e ∈ s.aggregate (compose discovered explicit mode)) :
    s.StandsFor (discovered ++ explicit) e := by
  obtain ⟨f, hentry⟩ := entry_of_mem h
  obtain ⟨hf, -⟩ := leader_spec hentry.leads
  obtain ⟨r, hr, hsame⟩ := source_of_mem_compose hf
  have hstands : s.StandsFor (discovered ++ explicit) (s.candidate f) :=
    standsFor_candidate (mem_of_mem_inTurn hr) hsame
  exact hstands.of_sameSource hentry.source

/-- The central repository, when it is what is discovered, leads its entry: the mode keeps it, and
nothing that is named comes before it with its identifier or that of its candidate. -/
def CentralLeads (s : Selectors) (explicit : List RemoteRepository) : Mode → Prop
  | .replace => explicit = []
  | .append => True
  | .prepend => ∀ r ∈ collapse explicit,
      r.id ≠ central.id ∧ (s.candidate r).id ≠ (s.candidate .central).id

theorem compose_central_prepend
    (hnew : RemoteRepository.central.id ∉ (collapse explicit).map (·.id)) :
    compose [.central] explicit .prepend = collapse explicit ++ [.central] := by
  rw [compose, collapse_concat, absorb_of_new hnew]

/-- When the repository that leads the central one's entry has its identifier, and no named one has
it, no named one has the identifier of its candidate either. -/
theorem centralLeads_of_leader
    (hnew : RemoteRepository.central.id ∉ (collapse explicit).map (·.id))
    (hleads : s.leader? (collapse explicit ++ [.central]) (s.candidate .central).id = some f)
    (hid : f.id = RemoteRepository.central.id) : s.CentralLeads explicit .prepend := by
  have hbefore : (collapse explicit).find?
      (fun r => (s.candidate r).id == (s.candidate .central).id) = none := by
    cases hfirst : (collapse explicit).find?
        (fun r => (s.candidate r).id == (s.candidate .central).id) with
    | none => rfl
    | some g =>
      rw [leader?, List.find?_append, hfirst, Option.some_or] at hleads
      obtain rfl := Option.some.inj hleads
      exact absurd (List.mem_map.mpr ⟨g, List.mem_of_find?_eq_some hfirst, hid⟩) hnew
  intro r hr
  constructor
  · intro hrid
    exact hnew (List.mem_map.mpr ⟨r, hr, hrid⟩)
  · intro hrid
    exact List.find?_eq_none.mp hbefore r hr (beq_iff_eq.mpr hrid)

theorem leader?_of_centralLeads {mode : Mode} (h : s.CentralLeads explicit mode) :
    ∃ f, s.leader? (compose [.central] explicit mode) (s.candidate .central).id = some f ∧
      f.SameSource .central := by
  cases mode with
  | replace =>
    obtain rfl : explicit = [] := h
    have hleads : s.leader? [.central] (s.candidate .central).id = some .central :=
      List.find?_cons_of_pos (beq_self_eq_true _)
    exact ⟨.central, hleads, .refl _⟩
  | append =>
    obtain ⟨f, rest, hcollapse, hf⟩ := collapse_cons .central explicit
    have hcompose : compose [.central] explicit .append = f :: rest := hcollapse
    refine ⟨f, ?_, hf⟩
    rw [hcompose, leader?, List.find?_cons_of_pos]
    exact beq_iff_eq.mpr (candidate_sameSource hf).id
  | prepend =>
    have hnew : RemoteRepository.central.id ∉ (collapse explicit).map (·.id) := by
      intro hlisted
      obtain ⟨r, hr, hid⟩ := List.mem_map.mp hlisted
      exact (h r hr).1 hid
    have hnone : (collapse explicit).find?
        (fun r => (s.candidate r).id == (s.candidate .central).id) = none := by
      apply List.find?_eq_none.mpr
      intro r hr hid
      exact (h r hr).2 (beq_iff_eq.mp hid)
    refine ⟨.central, ?_, .refl _⟩
    rw [compose_central_prepend hnew, leader?, List.find?_append, hnone, Option.none_or]
    exact List.find?_cons_of_pos (beq_self_eq_true _)

/-- With the central repository discovered, an entry that stands for nothing that is named is where
the central repository leads. -/
theorem standsFor_or_centralLeads {mode : Mode}
    (h : e ∈ s.aggregate (compose [.central] explicit mode)) :
    s.StandsFor explicit e ∨
      (s.CentralLeads explicit mode ∧ e.SameSource (s.candidate .central)) := by
  obtain ⟨f, hentry⟩ := entry_of_mem h
  obtain ⟨hf, hid⟩ := leader_spec hentry.leads
  have hnamed {r : RemoteRepository} (hr : r ∈ explicit) (hsame : f.SameSource r) :
      s.StandsFor explicit e :=
    (standsFor_candidate hr hsame).of_sameSource hentry.source
  have hcentral (hsame : f.SameSource .central) : e.SameSource (s.candidate .central) :=
    hentry.source.trans (candidate_sameSource hsame)
  cases mode with
  | replace =>
    rw [compose] at hf
    split at hf
    · rename_i hempty
      obtain rfl : f = .central := List.mem_singleton.mp hf
      exact .inr ⟨List.isEmpty_iff.mp hempty, hcentral (.refl _)⟩
    · exact .inl (hnamed (mem_of_mem_latest hf) (.refl f))
  | append =>
    obtain ⟨r, hr, hsame⟩ := source_of_mem_compose hf
    rcases List.mem_append.mp hr with hr | hr
    · obtain rfl : r = .central := List.mem_singleton.mp hr
      exact .inr ⟨trivial, hcentral hsame⟩
    · exact .inl (hnamed hr hsame)
  | prepend =>
    obtain ⟨r, hr, hsame⟩ := first_of_mem_collapse hf
    rw [List.find?_append] at hr
    cases hfirst : explicit.find? (·.id == f.id) with
    | some named =>
      rw [hfirst, Option.some_or] at hr
      obtain rfl := Option.some.inj hr
      exact .inl (hnamed (List.mem_of_find?_eq_some hfirst) hsame)
    | none =>
      rw [hfirst, Option.none_or] at hr
      obtain rfl : r = .central := List.mem_singleton.mp (List.mem_of_find?_eq_some hr)
      refine .inr ⟨?_, hcentral hsame⟩
      -- The leader has the central repository's identifier, and no named one has it.
      have hnew : RemoteRepository.central.id ∉ (collapse explicit).map (·.id) := by
        intro hlisted
        obtain ⟨q, hq, hqid⟩ := List.mem_map.mp ((mem_ids_collapse explicit _).mp hlisted)
        rw [← hsame.id] at hqid
        exact List.find?_eq_none.mp hfirst q hq (beq_iff_eq.mpr hqid)
      have hleads := hentry.leads
      rw [compose_central_prepend hnew, (hcentral hsame).id] at hleads
      exact centralLeads_of_leader hnew hleads hsame.id

/-- All entries stand for what the profiles and the overrides name exactly when a profile has a
repository, the central one does not lead, or its candidate is itself what is named. -/
theorem standsFor_all_iff {profiles : List RemoteRepository} {mode : Mode} :
    (∀ e ∈ s.aggregate
        (compose (if profiles.isEmpty then [.central] else profiles) explicit mode),
      s.StandsFor (profiles ++ explicit) e) ↔
    profiles ≠ [] ∨ ¬ s.CentralLeads explicit mode ∨
      s.StandsFor explicit (s.candidate .central) := by
  cases profiles with
  | cons first rest =>
    refine ⟨fun _ => .inl (List.cons_ne_nil first rest), ?_⟩
    intro _ e he
    exact standsFor_of_mem he
  | nil =>
    rw [List.isEmpty_nil, if_pos rfl, List.nil_append]
    constructor
    · intro hall
      refine .inr (or_iff_not_imp_left.mpr ?_)
      intro hleads
      obtain ⟨f, hf, hsame⟩ := leader?_of_centralLeads (not_not.mp hleads)
      obtain ⟨e, he, -, hentry⟩ := entry_of_leader hf
      have hcentral := hentry.source.trans (candidate_sameSource hsame)
      exact (hall e he).of_sameSource hcentral.symm
    · intro hnamed e he
      rcases standsFor_or_centralLeads he with hstands | ⟨hleads, hcentral⟩
      · exact hstands
      · rcases hnamed with hsome | hnot | hstands
        · exact absurd rfl hsome
        · exact absurd hleads hnot
        · exact hstands.of_sameSource hcentral

end Selectors

namespace World

/-- The entries of a managed context that is created stand for what is discovered, the central
repository when no active profile has any, or for what the overrides name. They stand for what the
profiles and the overrides name unless the central repository leads an entry of its own. -/
theorem created_entries (w : World) (p : Provider) (hmanaged : p.isManaged = true) (o : Overrides)
    {number : Nat} (hcreate : (w.create p o).1 = .ok number) :
    ∃ c resolved, (w.create p o).2.context? number = some c ∧
      p.resolver.resolve w.host w.files o = .ok resolved ∧
      (∀ e ∈ c.repositories,
        c.session.selectors.StandsFor (Context.discovered resolved ++ o.repositories) e) ∧
      ((∀ e ∈ c.repositories,
          c.session.selectors.StandsFor (resolved.profileRepositories ++ o.repositories) e) ↔
        resolved.profileRepositories ≠ [] ∨
          ¬ c.session.selectors.CentralLeads o.repositories o.mode ∨
          c.session.selectors.StandsFor o.repositories
            (c.session.selectors.candidate .central)) := by
  obtain ⟨resolved, chain, hresolved, hc⟩ := created_onGround hmanaged hcreate
  refine ⟨_, resolved, hc, hresolved, ?_, ?_⟩
  · intro e he
    exact Selectors.standsFor_of_mem he
  · exact Selectors.standsFor_all_iff

/-- Overrides that name one repository. -/
def naming (mode : Listing.Mode) : Overrides :=
  { small.overridesAt "/m2" with repositories := [{ id := "a", url := "https://a/" }], mode }

/-- In the mode that replaces what is discovered the named repository is alone. -/
theorem created_entries_replacing :
    ∃ c, (small.create smallProvider (naming .replace)).2.context? 0 = some c ∧
      ∀ e ∈ c.repositories, c.session.selectors.StandsFor [{ id := "a", url := "https://a/" }] e := by
  have hcreate : (small.create smallProvider (naming .replace)).1 = .ok 0 := rfl
  obtain ⟨c, resolved, hc, hresolved, -, hiff⟩ :=
    created_entries small smallProvider rfl (naming .replace) hcreate
  obtain rfl : {} = resolved := Except.ok.inj hresolved
  refine ⟨c, hc, hiff.mpr (.inr (.inl ?_))⟩
  intro hleads
  cases hleads

/-- A context is created with repositories of the overrides, and has an entry that stands neither
for one of them nor for one of the profiles. -/
def BringsUnnamed (w : World) (p : Provider) (o : Overrides) : Prop :=
  o.repositories ≠ [] ∧ ∃ number c resolved, (w.create p o).1 = .ok number ∧
    (w.create p o).2.context? number = some c ∧
    p.resolver.resolve w.host w.files o = .ok resolved ∧
    ∃ e ∈ c.repositories,
      ¬ c.session.selectors.StandsFor (resolved.profileRepositories ++ o.repositories) e

/-- Without settings the central repository comes along before or after what is named. -/
theorem bringsUnnamed_small : small.BringsUnnamed smallProvider (naming .append) ∧
    small.BringsUnnamed smallProvider (naming .prepend) := by
  constructor
  · exact ⟨by decide, 0, _, {}, rfl, rfl, rfl, .central, by decide, by decide⟩
  · exact ⟨by decide, 0, _, {}, rfl, rfl, rfl, .central, by decide, by decide⟩

end World

end Depot
