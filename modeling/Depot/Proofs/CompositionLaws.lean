import Depot.Proofs.Composing

/-! The laws of composing. A composed list is determined by what goes in: each identifier stands where
it comes first, with the latest repository that has it when explicit ones replace the discovered, and
else with the first one, which stands in besides for what its namesakes bring (`compose_eq_iff`). So
appending is associative, prepending is appending the other way round, what is appended and what is
prepended do not meet, and composing with the same list again changes nothing (`compose_algebra`). -/

namespace Depot.Listing

open RemoteRepository

/-! ### Composing several times -/

theorem compose_append_assoc (a b c : List RemoteRepository) :
    compose (compose a b .append) c .append = compose a (compose b c .append) .append := by
  calc compose (compose a b .append) c .append
      = collapse (a ++ b ++ c) := collapse_collapse_append (a ++ b) c
    _ = collapse (a ++ (b ++ c)) := by rw [List.append_assoc]
    _ = compose a (compose b c .append) .append := (collapse_append_collapse a (b ++ c)).symm

theorem compose_append_prepend_comm (a b c : List RemoteRepository) :
    compose (compose a b .append) c .prepend = compose (compose a c .prepend) b .append := by
  calc compose (compose a b .append) c .prepend
      = collapse (c ++ (a ++ b)) := collapse_append_collapse c (a ++ b)
    _ = collapse (c ++ a ++ b) := by rw [List.append_assoc]
    _ = compose (compose a c .prepend) b .append := (collapse_collapse_append (c ++ a) b).symm

theorem collapse_append_self (rs : List RemoteRepository) : collapse (rs ++ rs) = collapse rs :=
  collapse_append_of_forall_mem fun _ hr => hr

theorem compose_idem (a b : List RemoteRepository) (mode : Mode) :
    compose (compose a b mode) b mode = compose a b mode := by
  cases mode with
  | replace =>
    cases b with
    | nil => exact collapse_of_nodup (nodup_ids_collapse a)
    | cons r b => rfl
  | append =>
    calc compose (compose a b .append) b .append
        = collapse (a ++ b ++ b) := collapse_collapse_append (a ++ b) b
      _ = collapse (a ++ b) :=
          collapse_append_of_forall_mem fun _ hr => List.mem_append_right a hr
  | prepend =>
    calc compose (compose a b .prepend) b .prepend
        = collapse (b ++ (b ++ a)) := collapse_append_collapse b (b ++ a)
      _ = collapse (collapse (b ++ b) ++ a) := by
          rw [collapse_collapse_append, List.append_assoc]
      _ = collapse (b ++ a) := by rw [collapse_append_self, collapse_collapse_append]

/-- Appending is associative, prepending is appending to the explicit list, what is appended and what
is prepended can come in either order, and whatever the mode a list that was composed with changes
nothing when it comes again. -/
theorem compose_algebra (a b c : List RemoteRepository) :
    compose (compose a b .append) c .append = compose a (compose b c .append) .append ∧
      compose a b .prepend = compose b a .append ∧
      compose (compose a b .append) c .prepend = compose (compose a c .prepend) b .append ∧
      ∀ mode, compose (compose a b mode) b mode = compose a b mode :=
  ⟨compose_append_assoc a b c, rfl, compose_append_prepend_comm a b c, compose_idem a b⟩

/-! ### The entry of an identifier -/

/-- What is added of the repositories that are brought: those whose identifiers are not known, each
identifier once, where it comes first and with the repository that has it first. -/
structure AddsNew (known : List String) (brought added : List RemoteRepository) : Prop where
  ids : added.map (·.id) = ((brought.map (·.id)).filter (· ∉ known)).eraseDups
  first : ∀ m ∈ added, brought.find? (·.id == m.id) = some m

theorem addsNew_newTo (known : List String) (brought : List RemoteRepository) :
    AddsNew known brought (newTo known brought) :=
  ⟨map_id_newTo known brought, fun _ hm => (mem_newTo.mp hm).2⟩

theorem AddsNew.unique {known : List String} {brought added added' : List RemoteRepository}
    (h : AddsNew known brought added) (h' : AddsNew known brought added') : added = added' := by
  refine eq_of_map_id_eq (h.ids.trans h'.ids.symm) fun m hm m' hm' hid => ?_
  have hfirst := h.first m hm
  rw [hid, h'.first m' hm'] at hfirst
  exact (Option.some.inj hfirst).symm

/-- The entry is the latest repository that has its identifier. -/
def IsLatest (rs : List RemoteRepository) (e : RemoteRepository) : Prop :=
  (rs.filter (·.id == e.id)).getLast? = some e

/-- The entry is the first repository that has its identifier, and lists after what that one stands in
for also what the later ones do, as far as it is new. -/
def Gathers (rs : List RemoteRepository) (e : RemoteRepository) : Prop :=
  ∃ first later added, rs.filter (·.id == e.id) = first :: later ∧
    AddsNew (first.mirrored.map (·.id)) (later.flatMap (·.mirrored)) added ∧
    e = { first with mirrored := first.mirrored ++ added }

theorem find?_supersede (rs : List RemoteRepository) (r : RemoteRepository) (id : String) :
    (supersede rs r).find? (·.id == id) =
      if r.id = id then some r else rs.find? (·.id == id) := by
  induction rs with
  | nil => by_cases h : r.id = id <;> simp [supersede, h]
  | cons s rest ih =>
    by_cases hs : s.id = r.id
    · by_cases h : r.id = id <;> simp [supersede, hs, h]
    · by_cases h : s.id = id
      · have hr : r.id ≠ id := fun h' => hs (h.trans h'.symm)
        rw [supersede, if_neg hs, if_neg hr, List.find?_cons_of_pos (by simpa using h),
          List.find?_cons_of_pos (by simpa using h)]
      · simp [supersede, hs, h, ih]

theorem find?_latest (rs : List RemoteRepository) (id : String) :
    (latest rs).find? (·.id == id) = (rs.filter (·.id == id)).getLast? := by
  induction rs using List.reverseRecOn with
  | nil => rfl
  | append_singleton rs r ih =>
    rw [latest_concat, find?_supersede, List.filter_append, ih]
    by_cases h : r.id = id <;> simp [h]

theorem isLatest_of_mem {rs : List RemoteRepository} {e : RemoteRepository}
    (h : e ∈ latest rs) : IsLatest rs e := by
  have hids : ((latest rs).map (·.id)).Nodup := by
    rw [map_id_latest]
    exact nodup_eraseDups _
  rw [IsLatest, ← find?_latest]
  exact find?_of_nodup_map hids h

theorem gathers_of_mem {rs : List RemoteRepository} {e : RemoteRepository}
    (h : e ∈ collapse rs) : Gathers rs e := by
  have hgather := find?_of_mem_collapse h
  rw [find?_collapse] at hgather
  cases hsame : rs.filter (·.id == e.id) with
  | nil =>
    rw [hsame] at hgather
    cases hgather
  | cons first later =>
    rw [hsame, gather, standInFor, foldl_listNew_eq_append] at hgather
    exact ⟨first, later, _, hsame, addsNew_newTo _ _, (Option.some.inj hgather).symm⟩

theorem IsLatest.unique {rs : List RemoteRepository} {e f : RemoteRepository}
    (he : IsLatest rs e) (hf : IsLatest rs f) (hid : e.id = f.id) : e = f := by
  rw [IsLatest, hid, hf] at he
  exact (Option.some.inj he).symm

theorem Gathers.unique {rs : List RemoteRepository} {e f : RemoteRepository}
    (he : Gathers rs e) (hf : Gathers rs f) (hid : e.id = f.id) : e = f := by
  obtain ⟨first, later, added, hsame, hadded, he⟩ := he
  obtain ⟨first', later', added', hsame', hadded', hf⟩ := hf
  rw [hid, hsame'] at hsame
  obtain ⟨rfl, rfl⟩ := List.cons.inj hsame
  rw [he, hf, hadded.unique hadded']

/-! ### The list of the entries -/

/-- The entries have distinct identifiers, those of the repositories in turn, in the order in which
these come first. Where explicit repositories take the place of the discovered ones each entry is the
latest of its identifier, and in all other cases it gathers what has its identifier. -/
structure Composes (discovered explicit : List RemoteRepository) (mode : Mode)
    (es : List RemoteRepository) : Prop where
  distinct : (es.map (·.id)).Nodup
  ids : es.map (·.id) = ((inTurn discovered explicit mode).map (·.id)).eraseDups
  latest : mode = .replace → explicit ≠ [] → ∀ e ∈ es, IsLatest explicit e
  gathers : mode ≠ .replace ∨ explicit = [] →
    ∀ e ∈ es, Gathers (inTurn discovered explicit mode) e

theorem composes_compose (discovered explicit : List RemoteRepository) (mode : Mode) :
    Composes discovered explicit mode (compose discovered explicit mode) where
  distinct := nodup_ids_compose discovered explicit mode
  ids := map_id_compose discovered explicit mode
  latest := by
    rintro rfl hfilled e he
    rw [compose, if_neg (by simpa using hfilled)] at he
    exact isLatest_of_mem he
  gathers := by
    intro hkept e he
    cases mode with
    | replace =>
      obtain rfl := hkept.resolve_left fun h => h rfl
      exact gathers_of_mem he
    | append => exact gathers_of_mem he
    | prepend => exact gathers_of_mem he

theorem Composes.unique {discovered explicit es fs : List RemoteRepository} {mode : Mode}
    (he : Composes discovered explicit mode es) (hf : Composes discovered explicit mode fs) :
    es = fs := by
  refine eq_of_map_id_eq (he.ids.trans hf.ids.symm) fun e hes f hfs hid => ?_
  by_cases hreplaced : mode = .replace ∧ explicit ≠ []
  · obtain ⟨hmode, hfilled⟩ := hreplaced
    exact (he.latest hmode hfilled e hes).unique (hf.latest hmode hfilled f hfs) hid
  · have hkept : mode ≠ .replace ∨ explicit = [] := by
      rwa [not_and_or, not_not] at hreplaced
    exact (he.gathers hkept e hes).unique (hf.gathers hkept f hfs) hid

/-- The composed list is the one list that the repositories in turn come to. -/
theorem compose_eq_iff (discovered explicit es : List RemoteRepository) (mode : Mode) :
    compose discovered explicit mode = es ↔ Composes discovered explicit mode es := by
  constructor
  · rintro rfl
    exact composes_compose discovered explicit mode
  · exact (composes_compose discovered explicit mode).unique

end Depot.Listing
