import Depot.Provider.Registry
import Mathlib.Data.List.Nodup

/-! The order of a registry. Whatever has been done to it, its providers follow what has been
registered since the latest reset (`Ranked`): each name once and for its first provider, by
priority, and at one priority in the order of registration. What is registered by hand and what
sources bring when they are consulted comes to the list in the same way, one provider after the
other (`Follows.register`), so this holds along every history (`Follows.run`). -/

namespace Depot

namespace Registry

/-! ### The list -/

theorem pairwise_insertByPriority {R : Provider → Provider → Prop} {p : Provider}
    {ps : List Provider} (hsorted : ps.Pairwise (·.priority ≤ ·.priority)) (h : ps.Pairwise R)
    (hbefore : ∀ q ∈ ps, q.priority ≤ p.priority → R q p)
    (hafter : ∀ q ∈ ps, p.priority < q.priority → R p q) :
    (insertByPriority p ps).Pairwise R := by
  induction ps with
  | nil => exact List.pairwise_singleton R p
  | cons q rest ih =>
    obtain ⟨hle, hrest⟩ := List.pairwise_cons.mp hsorted
    obtain ⟨hq, hpairs⟩ := List.pairwise_cons.mp h
    unfold insertByPriority
    split
    · rename_i hlt
      refine List.pairwise_cons.mpr ⟨?_, h⟩
      intro t ht
      apply hafter t ht
      -- What stands behind the first greater priority is no smaller.
      rcases List.mem_cons.mp ht with rfl | ht
      · exact hlt
      · have := hle t ht
        omega
    · rename_i hge
      refine List.pairwise_cons.mpr ⟨?_, ih hrest hpairs ?_ ?_⟩
      · intro t ht
        rcases mem_insertByPriority.mp ht with rfl | ht
        · exact hbefore q List.mem_cons_self (by omega)
        · exact hq t ht
      · intro t ht
        exact hbefore t (List.mem_cons_of_mem q ht)
      · intro t ht
        exact hafter t (List.mem_cons_of_mem q ht)

/-- Where a name comes first among what has been registered. -/
def place (given : List Provider) (name : String) : Nat :=
  (given.map (·.name)).idxOf name

/-- The list follows what has been registered, in the order in which that came. -/
structure Ranked (given providers : List Provider) : Prop where
  once : (providers.map (·.name)).Nodup
  listed : ∀ name, name ∈ providers.map (·.name) ↔ name ∈ given.map (·.name)
  first : ∀ p ∈ providers, given.find? (·.name == p.name) = some p
  sorted : providers.Pairwise (·.priority ≤ ·.priority)
  stable : providers.Pairwise fun p q =>
    p.priority = q.priority → place given p.name < place given q.name

theorem place_append {given : List Provider} {name : String}
    (h : name ∈ given.map (·.name)) (more : List Provider) :
    place (given ++ more) name = place given name := by
  rw [place, place, List.map_append, List.idxOf_append, if_pos h]

theorem place_lt {given : List Provider} {name : String} (h : name ∈ given.map (·.name)) :
    place given name < given.length := by
  have := List.idxOf_lt_length_of_mem h
  rwa [List.length_map] at this

theorem le_place_concat {given : List Provider} {p : Provider}
    (h : p.name ∉ given.map (·.name)) : given.length ≤ place (given ++ [p]) p.name := by
  rw [place, List.map_append, List.idxOf_append, if_neg h, List.length_map]
  omega

namespace Ranked

variable {given providers : List Provider} {p : Provider}

theorem nil : Ranked [] [] where
  once := List.nodup_nil
  listed := by simp
  first := by simp
  sorted := List.Pairwise.nil
  stable := List.Pairwise.nil

theorem mem_given (h : Ranked given providers) {q : Provider} (hq : q ∈ providers) :
    q.name ∈ given.map (·.name) :=
  (h.listed q.name).mp (List.mem_map_of_mem hq)

theorem first_append (h : Ranked given providers) {q : Provider} (hq : q ∈ providers)
    (more : List Provider) : (given ++ more).find? (·.name == q.name) = some q := by
  rw [List.find?_append, h.first q hq, Option.some_or]

/-- What is registered later does not move the places. -/
theorem stable_append (h : Ranked given providers) (more : List Provider) :
    providers.Pairwise fun p q => p.priority = q.priority →
      place (given ++ more) p.name < place (given ++ more) q.name := by
  refine h.stable.imp_of_mem ?_
  intro p q hp hq hlt heq
  rw [place_append (h.mem_given hp), place_append (h.mem_given hq)]
  exact hlt heq

/-- A provider of a name that is taken changes nothing. -/
theorem ignore (h : Ranked given providers) (hp : p.name ∈ providers.map (·.name)) :
    Ranked (given ++ [p]) providers where
  once := h.once
  listed := by
    intro name
    rw [h.listed, List.map_append, List.map_singleton, List.mem_append, List.mem_singleton]
    constructor
    · exact .inl
    · rintro (hname | rfl)
      · exact hname
      · exact (h.listed p.name).mp hp
  first := fun q hq => h.first_append hq [p]
  sorted := h.sorted
  stable := h.stable_append [p]

/-- A provider of a new name is inserted. -/
theorem insert (h : Ranked given providers) (hp : p.name ∉ providers.map (·.name)) :
    Ranked (given ++ [p]) (insertByPriority p providers) := by
  have hnew : p.name ∉ given.map (·.name) := fun hname => hp ((h.listed p.name).mpr hname)
  have hnames := names_insertByPriority p providers
  refine { once := ?once, listed := ?listed, first := ?first, sorted := ?sorted, stable := ?stable }
  case once =>
    rw [hnames.nodup_iff, List.nodup_cons]
    exact ⟨hp, h.once⟩
  case listed =>
    intro name
    rw [hnames.mem_iff, List.mem_cons, h.listed, List.map_append, List.map_singleton,
      List.mem_append, List.mem_singleton, or_comm]
  case first =>
    intro q hq
    rcases mem_insertByPriority.mp hq with rfl | hq
    · have hnone : given.find? (·.name == q.name) = none := by
        apply List.find?_eq_none.mpr
        intro t ht heq
        exact hnew (List.mem_map.mpr ⟨t, ht, beq_iff_eq.mp heq⟩)
      rw [List.find?_append, hnone, Option.none_or]
      exact List.find?_cons_of_pos (beq_self_eq_true _)
    · exact h.first_append hq [p]
  case sorted =>
    apply pairwise_insertByPriority h.sorted h.sorted
    · intro q _ hle
      exact hle
    · intro q _ hlt
      omega
  case stable =>
    apply pairwise_insertByPriority h.sorted (h.stable_append [p])
    · intro q hq _ _
      rw [place_append (h.mem_given hq)]
      exact Nat.lt_of_lt_of_le (place_lt (h.mem_given hq)) (le_place_concat hnew)
    · intro q _ hlt heq
      omega

end Ranked

/-! ### The registry -/

/-- What the sources offer when they are called one after the other, this many calls being before. -/
def offers (before : Nat) (sources : List ProviderSource) : List Provider :=
  (sources.zipIdx before).flatMap fun (source, number) => source.offers number

/-- What the sources that the action calls bring, in order. -/
def brought (r : Registry) (a : Action) : List Provider :=
  offers r.calls.length ((r.act a).calls.drop r.calls.length)

/-- What has been registered since the latest reset once the action is done. -/
def noted (r : Registry) (given : List Provider) : Action → List Provider
  | .register p => given ++ [p]
  | .addSource _ => given
  | .select => given ++ r.brought .select
  | .reset => []

/-- What has been registered since the latest reset, by hand or by discovery, once the actions are
done; providers that were ignored for their names are there as well. -/
def registrations (r : Registry) (given : List Provider) : List Action → List Provider
  | [] => given
  | a :: rest => registrations (r.act a) (r.noted given a) rest

/-- The registry lists what has been registered, and the names of the list are those taken. -/
structure Follows (given : List Provider) (r : Registry) : Prop where
  ranked : Ranked given r.providers
  taken : ∀ name, name ∈ r.taken ↔ name ∈ r.names

theorem Follows.register {given : List Provider} {r : Registry} (h : Follows given r)
    (p : Provider) : Follows (given ++ [p]) (r.register p).2 := by
  unfold Registry.register
  split
  · rename_i hknown
    have hp : p.name ∈ r.names := (h.taken p.name).mp (List.contains_iff_mem.mp hknown)
    exact ⟨h.ranked.ignore hp, h.taken⟩
  · rename_i hnew
    have hp : p.name ∉ r.names := by
      intro hname
      exact hnew (List.contains_iff_mem.mpr ((h.taken p.name).mpr hname))
    refine ⟨h.ranked.insert hp, ?_⟩
    intro name
    rw [names, (names_insertByPriority p r.providers).mem_iff, List.mem_cons, List.mem_cons,
      h.taken, names]

theorem Follows.registerAll {given : List Provider} {r : Registry} (h : Follows given r)
    (ps : List Provider) : Follows (given ++ ps) (r.registerAll ps) := by
  induction ps generalizing given r with
  | nil => rwa [List.append_nil]
  | cons p rest ih =>
    rw [List.append_cons]
    exact ih (h.register p)

theorem Follows.call {given : List Provider} {r : Registry} (h : Follows given r)
    (source : ProviderSource) :
    Follows (given ++ source.offers r.calls.length) (r.call source) :=
  have hall := h.registerAll (source.offers r.calls.length)
  ⟨hall.ranked, hall.taken⟩

/-- Registering touches the list and the names that are taken, and nothing else. -/
theorem registerAll_frame (r : Registry) (ps : List Provider) :
    ∃ providers taken, r.registerAll ps = { r with providers, taken } := by
  induction ps generalizing r with
  | nil => exact ⟨_, _, rfl⟩
  | cons p rest ih =>
    obtain ⟨providers, taken, h⟩ := ih (r.register p).2
    rw [Registry.registerAll, List.foldl_cons]
    refine ⟨providers, taken, h.trans ?_⟩
    unfold Registry.register
    split <;> rfl

/-- Sources that are called one after the other are called once each, in that order. -/
theorem foldl_call_frame (r : Registry) (sources : List ProviderSource) :
    ∃ providers taken, sources.foldl call r =
      { r with providers, taken, calls := r.calls ++ sources } := by
  induction sources generalizing r with
  | nil => exact ⟨r.providers, r.taken, by rw [List.append_nil]; rfl⟩
  | cons source rest ih =>
    obtain ⟨providers, taken, h⟩ := ih (r.call source)
    obtain ⟨_, _, hall⟩ := r.registerAll_frame (source.offers r.calls.length)
    refine ⟨providers, taken, h.trans ?_⟩
    simp [call, hall]

theorem discover_frame (r : Registry) :
    ∃ providers taken, r.discover =
      { r with
        providers, taken
        discovered := true
        consultations := r.consultations + 1
        calls := r.calls ++ r.sources } :=
  foldl_call_frame _ r.sources

theorem Follows.foldl_call {given : List Provider} {r : Registry} (h : Follows given r)
    (sources : List ProviderSource) :
    Follows (given ++ offers r.calls.length sources) (sources.foldl Registry.call r) := by
  induction sources generalizing given r with
  | nil => simpa [offers] using h
  | cons source rest ih =>
    have hcalls : (r.call source).calls.length = r.calls.length + 1 := by simp [Registry.call]
    have hrest := ih (h.call source)
    rw [hcalls, List.append_assoc] at hrest
    rw [offers, List.zipIdx_cons, List.flatMap_cons]
    exact hrest

/-- A provider that is listed is used without asking any source. -/
theorem select_of_listed {r : Registry} {first : Provider} {rest : List Provider}
    (h : r.providers = first :: rest) : r.select = (.ok first, r) := by
  simp [select, asked, mustDiscover, h]

theorem Follows.select {given : List Provider} {r : Registry} (h : Follows given r) :
    Follows (given ++ r.brought .select) r.select.2 := by
  rw [brought, act, select_snd, asked]
  split
  · have hstart : Follows given
        { r with discovered := true, consultations := r.consultations + 1 } := ⟨h.ranked, h.taken⟩
    obtain ⟨_, _, hdiscover⟩ := r.discover_frame
    have hcalls : r.discover.calls = r.calls ++ r.sources := by rw [hdiscover]
    rw [hcalls, List.drop_left]
    exact hstart.foldl_call r.sources
  · simpa [offers] using h

theorem Follows.act {given : List Provider} {r : Registry} (h : Follows given r) (a : Action) :
    Follows (r.noted given a) (r.act a) := by
  cases a with
  | register p => exact h.register p
  | addSource source => exact ⟨h.ranked, h.taken⟩
  | select => exact h.select
  | reset => exact ⟨.nil, by simp [Registry.act, reset, names]⟩

theorem Follows.run {given : List Provider} {r : Registry} (h : Follows given r)
    (actions : List Action) : Follows (r.registrations given actions) (r.run actions) := by
  induction actions generalizing given r with
  | nil => exact h
  | cons a rest ih => exact ih (h.act a)

theorem follows_empty : Follows [] {} :=
  ⟨.nil, by simp [names]⟩

/-- After every history the providers are listed as they rank, exactly the names of the list are
refused, and the first provider is used and leaves everything as it is. -/
theorem order_kept (history : List Action) (p : Provider) :
    Ranked (registrations {} [] history) (run {} history).providers ∧
      (((run {} history).register p).1 = true ↔ p.name ∉ (run {} history).names) ∧
      ∀ first rest, (run {} history).providers = first :: rest →
        (run {} history).select = (.ok first, run {} history) := by
  have h := follows_empty.run history
  refine ⟨h.ranked, ?_, fun first rest => select_of_listed⟩
  rw [register_fst, Bool.not_eq_true', ← Bool.not_eq_true, List.contains_iff_mem, h.taken]

def named (name : String) (priority : Int) : Provider :=
  { name, priority, engines := .static (.error .noProvider) }

/-- A source that always offers the same. -/
def offering (label : String) (offered : List Provider) : ProviderSource :=
  ⟨label, fun _ => offered⟩

/-- A history that forgets two providers and discovers three others, one of which is then offered
again. -/
def discovering : List Action :=
  [.register (named "low" 10), .register (named "high" 1),
    .addSource (offering "s" [named "b" 2, named "a" 1, named "c" 1]), .select, .reset, .select,
    .register (named "a" 0), .register (named "d" 1)]

/-- The first registration of a name counts, also against a smaller priority. -/
theorem order_kept_discovering : ∃ first rest, (run {} discovering).providers = first :: rest ∧
    first.priority = 1 ∧ (run {} discovering).select = (.ok first, run {} discovering) ∧
    (run {} discovering).names = ["a", "c", "d", "b"] := by
  obtain ⟨-, -, hselect⟩ := order_kept discovering (named "a" 0)
  exact ⟨_, _, rfl, rfl, hselect _ _ rfl, rfl⟩

end Registry

end Depot
