import Depot.Proofs.Composing
import Depot.Proofs.Mirroring

/-! Aggregation by its definition. Each repository gives way to its candidate, and the candidates of
one identifier come to one entry in the place of the first of them. The entry is that first candidate;
it lists besides what the later ones bring that is new to it, and what it has not yet of proxy and
credentials it gets by its address and its identifier (`EntryOf`). No other list is made by these rules
(`Aggregates.unique`), and every repository is represented in it (`represented`). -/

namespace Depot

namespace Selectors

open Listing RemoteRepository

variable (s : Selectors)

/-- The proxy that is selected for an address. -/
def proxyAt? (url : String) : Option Proxy :=
  ProxyRule.select? s.proxies { id := "", url }

/-- Nothing but the address counts for the proxy. -/
theorem select?_eq_proxyAt? (r : RemoteRepository) :
    ProxyRule.select? s.proxies r = s.proxyAt? r.url := rfl

/-- What the candidates of the entry's identifier come to: the first of them, listing also what the
later ones list that is new to it, with the proxy of its address and the credentials of its identifier
unless it has some. -/
def EntryOf (candidates : List RemoteRepository) (e : RemoteRepository) : Prop :=
  ∃ first later, candidates.filter (·.id == e.id) = first :: later ∧
    e = { first with
      mirrored := first.mirrored ++
        newTo (first.mirrored.map (·.id)) (later.flatMap (·.mirrored))
      proxy := first.proxy.or (s.proxyAt? first.url)
      authentication := first.authentication.or (s.credentials.get? first.id) }

/-- One entry for each identifier of the candidates, in the order in which these come first. -/
structure Aggregates (rs es : List RemoteRepository) : Prop where
  ids : es.map (·.id) = ((rs.map s.candidate).map (·.id)).eraseDups
  entries : ∀ e ∈ es, s.EntryOf (rs.map s.candidate) e

/-- The repository is represented: listed under its mirror's identifier, or else under its own. -/
def Represented (es : List RemoteRepository) (r : RemoteRepository) : Prop :=
  match s.mirrors.find? (·.standsInFor r) with
  | some m => ∃ e ∈ es, e.id = m.id ∧ r.id ∈ e.mirrored.map (·.id)
  | none => ∃ e ∈ es, e.id = r.id

variable {s} {rs : List RemoteRepository} {e : RemoteRepository}

theorem entryOf_of_mem (he : e ∈ s.aggregate rs) : s.EntryOf (rs.map s.candidate) e := by
  obtain ⟨g, hg, rfl⟩ := List.mem_map.mp he
  have hgather := find?_of_mem_collapse hg
  rw [find?_collapse] at hgather
  unfold EntryOf
  rw [equip_id]
  cases hsame : (rs.map s.candidate).filter (·.id == g.id) with
  | nil =>
    rw [hsame] at hgather
    cases hgather
  | cons first later =>
    rw [hsame] at hgather
    obtain rfl := Option.some.inj hgather
    refine ⟨first, later, rfl, ?_⟩
    rw [equip_standInFor, standInFor, equip_mirrored, foldl_listNew_eq_append, equip,
      select?_eq_proxyAt?, Credentials.select?]

theorem aggregates_aggregate (s : Selectors) (rs : List RemoteRepository) :
    s.Aggregates rs (s.aggregate rs) where
  ids := by
    rw [aggregate, List.map_map]
    exact map_id_collapse _
  entries := fun _ => entryOf_of_mem

/-- The candidates leave no choice for the entry of an identifier. -/
theorem EntryOf.unique {candidates : List RemoteRepository} {f : RemoteRepository}
    (he : s.EntryOf candidates e) (hf : s.EntryOf candidates f) (hid : e.id = f.id) : e = f := by
  obtain ⟨first, later, hcandidates, he⟩ := he
  obtain ⟨first', later', hcandidates', hf⟩ := hf
  rw [hid, hcandidates'] at hcandidates
  obtain ⟨rfl, rfl⟩ := List.cons.inj hcandidates
  rw [he, hf]

theorem Aggregates.unique {es fs : List RemoteRepository} (h : s.Aggregates rs es)
    (h' : s.Aggregates rs fs) : es = fs :=
  eq_of_map_id_eq (h.ids.trans h'.ids.symm) fun e he f hf =>
    (h.entries e he).unique (h'.entries f hf)

/-- Every repository is represented. It is brought to the entry of its candidate, so that entry lists
one of its identifier if the candidate is a mirror. -/
theorem represented {r : RemoteRepository} (hr : r ∈ rs) : s.Represented (s.aggregate rs) r := by
  obtain ⟨f, hf⟩ : ∃ f, s.leader? rs (s.candidate r).id = some f := by
    rw [← Option.isSome_iff_exists, leader?, List.find?_isSome]
    exact ⟨r, hr, beq_self_eq_true _⟩
  obtain ⟨e, he, hid, hentry⟩ := entry_of_leader hf
  unfold Represented
  rcases s.candidate_cases r with ⟨hnone, hdirect⟩ | ⟨m, hm, hmirror⟩
  · rw [hnone]
    exact ⟨e, he, hid.trans (congrArg RemoteRepository.id hdirect)⟩
  · rw [hm]
    refine ⟨e, he, hid.trans (congrArg RemoteRepository.id hmirror), ?_⟩
    have hbrought : r ∈ s.brought rs e.id := by
      refine mem_brought.mpr ⟨r, hr, hid.symm, ?_⟩
      rw [hmirror]
      exact List.mem_singleton.mpr rfl
    obtain ⟨q, hq⟩ : ∃ q, (s.brought rs e.id).find? (·.id == r.id) = some q := by
      rw [← Option.isSome_iff_exists, List.find?_isSome]
      exact ⟨r, hbrought, beq_self_eq_true _⟩
    have hqid : q.id = r.id := by simpa using List.find?_some hq
    rw [← hqid] at hq ⊢
    exact List.mem_map_of_mem ((hentry.lists q).mpr (.inr hq))

/-- The aggregated list is the one list of the entries, and nothing of the input is lost in it. -/
theorem aggregate_eq_iff (s : Selectors) (rs : List RemoteRepository) :
    (∀ es, s.aggregate rs = es ↔ s.Aggregates rs es) ∧
      ∀ r ∈ rs, s.Represented (s.aggregate rs) r := by
  refine ⟨fun es => ⟨?_, (aggregates_aggregate s rs).unique⟩, fun r hr => represented hr⟩
  rintro rfl
  exact aggregates_aggregate s rs

/-- A repository with the identifier of a mirror comes first, and the mirror's repository is listed
under it. -/
theorem aggregate_eq_iff_namesake :
    let s := oneMirror "m" "b" true
    let rs := [remote "m", remote "b", remote "c"]
    s.Aggregates rs [{ remote "m" with mirrored := [remote "b"] }, remote "c"] ∧
      s.Represented (s.aggregate rs) (remote "b") := by
  intro s rs
  have haggregate : s.aggregate rs = [{ remote "m" with mirrored := [remote "b"] }, remote "c"] := by
    decide
  exact ⟨((aggregate_eq_iff s rs).1 _).mp haggregate, (aggregate_eq_iff s rs).2 _ (by decide)⟩

end Selectors

end Depot
