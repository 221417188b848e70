import Depot.Keyed
import Depot.Text.Case
import Depot.Text.Record

/-! Property maps: names with one value each, kept in rising order of the names, so that two maps
with the same contents are the same map and show their entries in one order. Merging lays one map
over another. The readings of a value, trimmed, as a list or as a switch, are here too, with the
names of the properties that the library itself asks for. -/

namespace Depot

/-- A map from property names to values, in rising order of the names. -/
structure Properties where
  entries : List (String × String)
  sorted : entries.Pairwise fun e f => e.1 < f.1
deriving DecidableEq, Repr

namespace Properties

def empty : Properties := ⟨[], .nil⟩

instance : Inhabited Properties := ⟨empty⟩
instance : EmptyCollection Properties := ⟨empty⟩

def get? (p : Properties) (name : String) : Option String :=
  p.entries.lookup name

def contains (p : Properties) (name : String) : Bool :=
  (p.get? name).isSome

def insertEntry (name value : String) : List (String × String) → List (String × String)
  | [] => [(name, value)]
  | (n, v) :: rest =>
    if name < n then (name, value) :: (n, v) :: rest
    else if name = n then (name, value) :: rest
    else (n, v) :: insertEntry name value rest

private theorem mem_insertEntry {name value : String} {entries : List (String × String)}
    {e : String × String} (h : e ∈ insertEntry name value entries) :
    e = (name, value) ∨ e ∈ entries := by
  induction entries with
  | nil => simpa [insertEntry] using h
  | cons f rest ih =>
    obtain ⟨n, v⟩ := f
    unfold insertEntry at h
    split at h
    · simpa using h
    · split at h
      · rcases List.mem_cons.1 h with h | h
        · exact .inl h
        · exact .inr (List.mem_cons_of_mem _ h)
      · rcases List.mem_cons.1 h with h | h
        · exact .inr (h ▸ List.mem_cons_self)
        · exact (ih h).imp id (List.mem_cons_of_mem _)

private theorem sorted_insertEntry (name value : String) {entries : List (String × String)}
    (h : entries.Pairwise fun e f => e.1 < f.1) :
    (insertEntry name value entries).Pairwise fun e f => e.1 < f.1 := by
  induction entries with
  | nil => simp [insertEntry]
  | cons e rest ih =>
    obtain ⟨n, v⟩ := e
    obtain ⟨above, tail⟩ := List.pairwise_cons.1 h
    unfold insertEntry
    split
    · rename_i before
      refine List.pairwise_cons.2 ⟨fun f hf => ?_, h⟩
      rcases List.mem_cons.1 hf with rfl | hf
      · exact before
      · exact String.lt_trans before (above f hf)
    · split
      · rename_i same
        subst same
        exact List.pairwise_cons.2 ⟨above, tail⟩
      · rename_i notBefore differs
        have after : n < name := by
          rcases String.le_total name n with hle | hle
          · exact absurd (String.le_antisymm hle (String.not_lt.1 notBefore)) differs
          · exact Decidable.byContradiction fun hn =>
              differs (String.le_antisymm (String.not_lt.1 hn) hle)
        refine List.pairwise_cons.2 ⟨fun f hf => ?_, ih tail⟩
        rcases mem_insertEntry hf with rfl | hf
        · exact after
        · exact above f hf

/-- The map in which the name has the value, whatever it had before. -/
def insert (p : Properties) (name value : String) : Properties :=
  ⟨insertEntry name value p.entries, sorted_insertEntry name value p.sorted⟩

/-- The map in which the name has the value unless it has one already. -/
def insertNew (p : Properties) (name value : String) : Properties :=
  if p.contains name then p else p.insert name value

/-- The map of the entries, the last one of a name counting. -/
def ofList (entries : List (String × String)) : Properties :=
  entries.foldl (fun p (name, value) => p.insert name value) empty

/-- The upper map laid over the lower one: its values win, and names of either are kept. -/
def overlay (lower upper : Properties) : Properties :=
  upper.entries.foldr (fun (name, value) p => p.insert name value) lower

/-- The lower map laid under the upper one: only names that the upper one lacks are taken over. -/
def underlay (upper lower : Properties) : Properties :=
  lower.entries.foldl (fun p (name, value) => p.insertNew name value) upper

/-- The trimmed value of a name, unless it is blank. -/
def filled? (p : Properties) (name : String) : Option String :=
  (p.get? name).bind Text.filled?

/-- The map as diagnostics show it. -/
def render (p : Properties) : String :=
  Text.mapped (p.entries.map fun (name, value) => (Text.quoted name, Text.quoted value))

private theorem lookup_insertEntry (name value asked : String) (entries : List (String × String)) :
    (insertEntry name value entries).lookup asked =
      if asked = name then some value else entries.lookup asked := by
  induction entries with
  | nil => exact Keyed.lookup_cons name value [] asked
  | cons e rest ih =>
    obtain ⟨n, v⟩ := e
    unfold insertEntry
    split
    · exact Keyed.lookup_cons name value ((n, v) :: rest) asked
    · split
      · rename_i h
        subst h
        by_cases ha : asked = name <;> simp [Keyed.lookup_cons, ha]
      · rename_i h
        by_cases ha : asked = name
        · subst ha
          simp [Keyed.lookup_cons, ih, h]
        · simp [Keyed.lookup_cons, ha, ih]

@[simp] theorem get?_insert (p : Properties) (name value asked : String) :
    (p.insert name value).get? asked = if asked = name then some value else p.get? asked :=
  lookup_insertEntry ..

@[simp] theorem get?_empty (name : String) : empty.get? name = none := rfl

theorem get?_insertNew (p : Properties) (name value asked : String) :
    (p.insertNew name value).get? asked =
      if asked = name then some ((p.get? name).getD value) else p.get? asked := by
  unfold insertNew contains
  cases h : p.get? name with
  | none => simp
  | some v =>
    by_cases ha : asked = name
    · subst ha; simp [h]
    · simp [ha]

private theorem lookup_eq_none_of_lt {name : String} {entries : List (String × String)}
    (h : ∀ e ∈ entries, name < e.1) : entries.lookup name = none := by
  rw [List.lookup_eq_none_iff]
  intro e he
  simpa using fun same => String.lt_irrefl _ (same ▸ h e he)

private theorem eq_of_lookup {entries others : List (String × String)}
    (h : entries.Pairwise fun e f => e.1 < f.1) (h' : others.Pairwise fun e f => e.1 < f.1)
    (same : ∀ name, entries.lookup name = others.lookup name) : entries = others := by
  induction entries generalizing others with
  | nil =>
    cases others with
    | nil => rfl
    | cons e rest => obtain ⟨n, v⟩ := e; simpa using same n
  | cons e rest ih =>
    obtain ⟨n, v⟩ := e
    obtain ⟨above, tail⟩ := List.pairwise_cons.1 h
    cases others with
    | nil => simpa using same n
    | cons f rest' =>
      obtain ⟨k, w⟩ := f
      obtain ⟨above', tail'⟩ := List.pairwise_cons.1 h'
      have notBefore : ¬ n < k := fun before => by
        have := same n
        have absent : ((k, w) :: rest').lookup n = none := lookup_eq_none_of_lt fun e he => by
          rcases List.mem_cons.1 he with rfl | he
          · exact before
          · exact String.lt_trans before (above' e he)
        simp [absent] at this
      have notAfter : ¬ k < n := fun before => by
        have := same k
        have absent : ((n, v) :: rest).lookup k = none := lookup_eq_none_of_lt fun e he => by
          rcases List.mem_cons.1 he with rfl | he
          · exact before
          · exact String.lt_trans before (above e he)
        simp [absent] at this
      have hk : n = k := String.le_antisymm (String.not_lt.1 notAfter) (String.not_lt.1 notBefore)
      subst hk
      have hv : v = w := by simpa using same n
      subst hv
      congr 1
      refine ih tail tail' fun name => ?_
      by_cases hn : name = n
      · subst hn
        rw [lookup_eq_none_of_lt above, lookup_eq_none_of_lt above']
      · simpa [Keyed.lookup_cons, hn] using same name

/-- A map is determined by its answers. -/
theorem eq_of_get? {p q : Properties} (h : ∀ name, p.get? name = q.get? name) : p = q := by
  obtain ⟨entries, sorted⟩ := p
  obtain ⟨others, sorted'⟩ := q
  obtain rfl := eq_of_lookup sorted sorted' h
  rfl

private theorem get?_foldr_insert (lower : Properties) (entries : List (String × String))
    (name : String) :
    (entries.foldr (fun (n, v) p => p.insert n v) lower).get? name =
      (entries.lookup name).or (lower.get? name) := by
  induction entries with
  | nil => simp
  | cons e rest ih =>
    obtain ⟨n, v⟩ := e
    by_cases h : name = n <;> simp [Keyed.lookup_cons, h, ih]

private theorem get?_foldl_insertNew (upper : Properties) (entries : List (String × String))
    (name : String) :
    (entries.foldl (fun p (n, v) => p.insertNew n v) upper).get? name =
      (upper.get? name).or (entries.lookup name) := by
  induction entries generalizing upper with
  | nil => simp
  | cons e rest ih =>
    obtain ⟨n, v⟩ := e
    by_cases h : name = n
    · subst h
      rw [List.foldl_cons, ih, get?_insertNew]
      cases upper.get? name <;> simp
    · simp [Keyed.lookup_cons, get?_insertNew, h, ih]

/-- The upper map answers first. -/
theorem get?_overlay (lower upper : Properties) (name : String) :
    (lower.overlay upper).get? name = (upper.get? name).or (lower.get? name) :=
  get?_foldr_insert lower upper.entries name

/-- The upper map answers first here too: what lies under it fills gaps only. -/
theorem get?_underlay (upper lower : Properties) (name : String) :
    (upper.underlay lower).get? name = (upper.get? name).or (lower.get? name) :=
  get?_foldl_insertNew upper lower.entries name

/-- The trimmed items of a comma-separated list that are not blank; none of an absent one. -/
def items (value : Option String) : List String :=
  Text.filledPieces (· == ',') (value.getD "")

/-- The switch that a value spells in any case, and the default for every other value. -/
def switch (value : Option String) (fallback : Bool) : Bool :=
  match value.map fun v => Text.lower (Text.trim v) with
  | some "true" => true
  | some "false" => false
  | _ => fallback

namespace Name

def localRepository := "maven.repo.local"
def localRepositoryTail := "maven.repo.local.tail"
def ignoreTailAvailability := "maven.repo.local.tail.ignoreAvailability"
def userHome := "user.home"
def userName := "user.name"
def userDirectory := "user.dir"
def installation := "maven.home"
def configuration := "maven.conf"
def javaVersion := "java.version"
def osName := "os.name"
def osFamily := "os.family"
def osArchitecture := "os.arch"
def osVersion := "os.version"

/-- The name under which a variable of the environment appears among the properties. -/
def ofEnvironment (name : String) : String := "env." ++ name

end Name

end Properties

end Depot
