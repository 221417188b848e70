import Depot.Proofs.Firsts
import Depot.Proofs.Trimming
import Depot.Selection.Mirror
import Mathlib.Data.List.Perm.Basic

/-! Which repositories a mirror's patterns name. The first part of a pattern that is the name, or
excludes it, decides; where no part does either, one that covers the name is enough (`Names`). So a
pattern that does not both name and exclude a name says the same of it in whatever order its parts
stand (`names_iff_mem`), and a repository is served by the first mirror both of whose patterns name
it (`select?_first`). -/

namespace Depot.MirrorRule

variable {name part : String} {Stars : String → Prop} {parts : List String}

/-! ### The parts of a pattern -/

/-- The part tells of the name: it is the name, or excludes it. -/
def Tells (name part : String) : Prop :=
  part = name ∨ part = "!" ++ name

instance (name part : String) : Decidable (Tells name part) :=
  inferInstanceAs (Decidable (_ ∨ _))

/-- The first part that tells of the name. -/
def firstTelling (name : String) (parts : List String) : Option String :=
  parts.find? (Tells name ·)

/-- The first part that tells of the name is the name, or no part tells of it and some part is one of
the stars that cover it. -/
def Names (name : String) (Stars : String → Prop) (parts : List String) : Prop :=
  firstTelling name parts = some name ∨
    firstTelling name parts = none ∧ ∃ part ∈ parts, Stars part

/-- A name that is no exclusion. -/
def Unmarked (name : String) : Prop :=
  name.toList.head? ≠ some '!'

instance (name : String) : Decidable (Unmarked name) :=
  inferInstanceAs (Decidable (_ ≠ _))

theorem Unmarked.ne_append (h : Unmarked name) (rest : String) : name ≠ "!" ++ rest := by
  rintro rfl
  exact h (by rw [String.toList_append]; rfl)

theorem exclusion_ne (h : Unmarked name) (rest : String) : "!" ++ rest ≠ name :=
  (h.ne_append rest).symm

theorem firstTelling_cons (name part : String) (parts : List String) :
    firstTelling name (part :: parts) =
      if Tells name part then some part else firstTelling name parts := by
  simp only [firstTelling, List.find?_cons]
  split <;> simp_all

theorem firstTelling_eq_none_iff :
    firstTelling name parts = none ↔ name ∉ parts ∧ "!" ++ name ∉ parts := by
  simp only [firstTelling, List.find?_eq_none, Tells]
  grind

/-- What tells of a name is one of two parts. -/
theorem firstTelling_cases (name : String) (parts : List String) :
    firstTelling name parts = none ∨ name ∈ parts ∧ firstTelling name parts = some name ∨
      "!" ++ name ∈ parts ∧ firstTelling name parts = some ("!" ++ name) := by
  cases h : firstTelling name parts with
  | none => exact .inl rfl
  | some part =>
    have hmem : part ∈ parts := List.mem_of_find?_eq_some h
    have htells : Tells name part := by simpa using List.find?_some h
    rcases htells with rfl | rfl
    · exact .inr (.inl ⟨hmem, rfl⟩)
    · exact .inr (.inr ⟨hmem, rfl⟩)

/-- A part is the name, or excludes it, or excludes another name, or excludes nothing. -/
theorem part_cases (h : Unmarked name) (part : String) :
    part = name ∧ Text.negated? part = none ∨
      part = "!" ++ name ∧ Text.negated? part = some name ∨
        ¬Tells name part ∧ ((∃ other, part = "!" ++ other ∧ other ≠ name) ∨
          part ≠ name ∧ Text.negated? part = none) := by
  cases hmark : Text.negated? part with
  | none =>
    have hbare : part ≠ "!" ++ name := fun heq => by
      rw [Text.negated?_eq_some_iff.mpr heq] at hmark
      cases hmark
    by_cases hname : part = name
    · exact .inl ⟨hname, rfl⟩
    · exact .inr (.inr ⟨not_or.mpr ⟨hname, hbare⟩, .inr ⟨hname, rfl⟩⟩)
  | some excluded =>
    obtain rfl := Text.negated?_eq_some_iff.mp hmark
    by_cases hname : excluded = name
    · subst hname
      exact .inr (.inl ⟨rfl, rfl⟩)
    · have hsilent : ¬Tells name ("!" ++ excluded) :=
        not_or.mpr ⟨exclusion_ne h excluded, fun heq => hname (by simpa using heq)⟩
      exact .inr (.inr ⟨hsilent, .inl ⟨excluded, rfl, hname⟩⟩)

theorem spares_iff (h : Unmarked name) :
    decides.spares name parts = true ↔ firstTelling name parts ≠ some ("!" ++ name) := by
  induction parts with
  | nil => simp [decides.spares, firstTelling]
  | cons part rest ih =>
    rw [decides.spares, firstTelling_cons]
    rcases part_cases h part with ⟨rfl, hbare⟩ | ⟨rfl, hmark⟩ |
      ⟨hsilent, ⟨other, rfl, hother⟩ | ⟨hname, hbare⟩⟩
    · simp [hbare, Tells, h.ne_append]
    · simp [hmark, Tells]
    · rw [if_neg hsilent, ← ih, Text.negated?_marked]
      simp [hother]
    · rw [if_neg hsilent, ← ih, hbare]
      simp [hname]

theorem decides_iff (h : Unmarked name) {covers : String → Bool}
    (hcovers : ∀ rest, covers ("!" ++ rest) = false) :
    decides name covers parts = true ↔ Names name (covers · = true) parts := by
  induction parts with
  | nil => simp [decides, Names, firstTelling]
  | cons part rest ih =>
    rw [decides, Names, firstTelling_cons]
    rcases part_cases h part with ⟨rfl, hbare⟩ | ⟨rfl, hmark⟩ |
      ⟨hsilent, ⟨other, rfl, hother⟩ | ⟨hname, hbare⟩⟩
    · simp [hbare, Tells]
    · simp [hmark, Tells, exclusion_ne h name]
    · rw [if_neg hsilent, Text.negated?_marked]
      simp [hother, ih, Names, hcovers]
    · rw [if_neg hsilent, hbare]
      by_cases hcovered : covers part = true
      · -- Covered already, so that only an exclusion counts against the name.
        have hspares : decides.spares name rest = true ↔ _ := spares_iff h
        rcases firstTelling_cases name rest with hrest | ⟨-, hrest⟩ | ⟨-, hrest⟩
        · simp [hname, hcovered, hspares, hrest]
        · simp [hname, hcovered, hspares, hrest, h.ne_append]
        · simp [hname, hcovered, hspares, hrest, exclusion_ne h name]
      · simp [hname, hcovered, ih, Names]

/-! ### The order of the parts -/

/-- Where the parts do not both name and exclude the name, it counts only which parts there are. -/
theorem names_iff_mem (h : ¬(name ∈ parts ∧ "!" ++ name ∈ parts)) :
    Names name Stars parts ↔
      name ∈ parts ∨ "!" ++ name ∉ parts ∧ ∃ part ∈ parts, Stars part := by
  rcases firstTelling_cases name parts with hnone | ⟨hmem, hfirst⟩ | ⟨hmem, hfirst⟩
  · obtain ⟨hname, hexcluded⟩ := firstTelling_eq_none_iff.mp hnone
    simp [Names, hnone, hname, hexcluded]
  · simp [Names, hfirst, hmem]
  · have hname : name ∉ parts := fun hname => h ⟨hname, hmem⟩
    have hne : "!" ++ name ≠ name := fun heq => hname (heq ▸ hmem)
    simp [Names, hfirst, hmem, hname, hne]

theorem Names.perm {parts' : List String} (hperm : parts.Perm parts')
    (h : ¬(name ∈ parts ∧ "!" ++ name ∈ parts)) :
    Names name Stars parts ↔ Names name Stars parts' := by
  have h' : ¬(name ∈ parts' ∧ "!" ++ name ∈ parts') := by
    rwa [← hperm.mem_iff, ← hperm.mem_iff]
  simp only [names_iff_mem h, names_iff_mem h', hperm.mem_iff]

/-! ### Patterns -/

/-- The trimmed pattern is the name, or its parts name it. -/
def Fits (name : String) (Stars : String → Prop) (pattern : String) : Prop :=
  Text.trim pattern = name ∨ Names name Stars (partsOf (Text.trim pattern))

/-- The part is a star that covers the repository: one for all, one for those that are not local, or
one for those of them that are reached by plain HTTP. -/
def Covers (r : RemoteRepository) (part : String) : Prop :=
  part = "*" ∨ part = "external:*" ∧ r.isLocal = false ∨
    part = "external:http:*" ∧ r.isLocal = false ∧ r.protocol = "http"

/-- The mirror stands in for repositories of the identifier, as the first pattern has it, and of the
layout, as the second one has it unless it is blank. -/
structure Serves (m : MirrorRule) (r : RemoteRepository) : Prop where
  filled : Text.trim m.mirrorOf ≠ ""
  repository : Fits r.id (Covers r) m.mirrorOf
  layout : Text.trim m.mirrorOfLayouts = "" ∨ Fits r.layout (· = "*") m.mirrorOfLayouts

theorem coversRepository_iff {r : RemoteRepository} :
    coversRepository r part = true ↔ Covers r part := by
  simp [coversRepository, Covers, and_assoc, or_assoc]

/-- No star begins with an exclamation mark. -/
theorem coversRepository_exclusion (r : RemoteRepository) (rest : String) :
    coversRepository r ("!" ++ rest) = false := by
  have hstar : "!" ++ rest ≠ "*" := exclusion_ne (by decide) rest
  have hexternal : "!" ++ rest ≠ "external:*" := exclusion_ne (by decide) rest
  have hplain : "!" ++ rest ≠ "external:http:*" := exclusion_ne (by decide) rest
  simp [coversRepository, hstar, hexternal, hplain]

theorem matchesRepository_iff {r : RemoteRepository} (h : Unmarked r.id) {pattern : String} :
    matchesRepository pattern r = true ↔
      Text.trim pattern ≠ "" ∧ Fits r.id (Covers r) pattern := by
  have hdecides : decides r.id (coversRepository r) (partsOf (Text.trim pattern)) = true ↔ _ :=
    decides_iff h (coversRepository_exclusion r)
  rw [matchesRepository, Text.filled?_eq]
  by_cases hblank : Text.trim pattern = ""
  · simp [hblank]
  · rw [if_neg hblank]
    simp [hdecides, coversRepository_iff, Fits, hblank]

theorem matchesLayout_iff {layout : String} (h : Unmarked layout) {pattern : String} :
    matchesLayout pattern layout = true ↔
      Text.trim pattern = "" ∨ Fits layout (· = "*") pattern := by
  have hexclusion (rest : String) : ("!" ++ rest == "*") = false :=
    beq_eq_false_iff_ne.mpr (exclusion_ne (by decide) rest)
  have hdecides : decides layout (· == "*") (partsOf (Text.trim pattern)) = true ↔ _ :=
    decides_iff h hexclusion
  rw [matchesLayout, Text.filled?_eq]
  by_cases hblank : Text.trim pattern = ""
  · simp [hblank]
  · rw [if_neg hblank]
    simp [hdecides, Fits, hblank]

theorem standsInFor_iff {m : MirrorRule} {r : RemoteRepository} (hid : Unmarked r.id)
    (hlayout : Unmarked r.layout) : m.standsInFor r = true ↔ m.Serves r := by
  rw [standsInFor, Bool.and_eq_true, matchesRepository_iff hid, matchesLayout_iff hlayout]
  exact ⟨fun ⟨⟨hfilled, hrepository⟩, hserved⟩ => ⟨hfilled, hrepository, hserved⟩,
    fun ⟨hfilled, hrepository, hserved⟩ => ⟨⟨hfilled, hrepository⟩, hserved⟩⟩

/-- For a name without commas the pattern is its parts and no more. -/
theorem partsOf_eq_singleton_iff (h : ',' ∉ name.toList) {pattern : String} :
    partsOf (Text.trim pattern) = [name] ↔ Text.trim pattern = name :=
  Text.map_trim_pieces_eq_singleton h

/-- The pattern has the parts of another in some order. -/
def Reorders (pattern pattern' : String) : Prop :=
  (partsOf (Text.trim pattern)).Perm (partsOf (Text.trim pattern'))

instance (pattern pattern' : String) : Decidable (Reorders pattern pattern') :=
  inferInstanceAs (Decidable (List.Perm _ _))

theorem Reorders.trim_eq_iff {pattern pattern' : String} (h : Reorders pattern pattern')
    (hname : ',' ∉ name.toList) : Text.trim pattern = name ↔ Text.trim pattern' = name := by
  rw [← partsOf_eq_singleton_iff hname, ← partsOf_eq_singleton_iff hname,
    ← List.perm_singleton, ← List.perm_singleton]
  exact ⟨h.symm.trans, h.trans⟩

theorem Reorders.fits_iff {pattern pattern' : String} (h : Reorders pattern pattern')
    (hname : ',' ∉ name.toList)
    (hboth : ¬(name ∈ partsOf (Text.trim pattern) ∧ "!" ++ name ∈ partsOf (Text.trim pattern))) :
    Fits name Stars pattern ↔ Fits name Stars pattern' :=
  or_congr (h.trim_eq_iff hname) (Names.perm h hboth)

/-- Of the address a mirror takes nothing into account but the protocol and whether it is local. -/
theorem standsInFor_congr (m : MirrorRule) {r t : RemoteRepository} (hid : r.id = t.id)
    (hlayout : r.layout = t.layout) (hprotocol : r.protocol = t.protocol)
    (hlocal : r.isLocal = t.isLocal) : m.standsInFor r = m.standsInFor t := by
  have hcovers : coversRepository r = coversRepository t := by
    funext part
    rw [coversRepository, coversRepository, hprotocol, hlocal]
  rw [standsInFor, standsInFor, matchesRepository, matchesRepository, hid, hlayout, hcovers]

/-! ### The mirror that is selected -/

section Selection

variable {mirrors : List MirrorRule} {r : RemoteRepository}

theorem matchesRepository_eq_of_reorders (hid : Unmarked r.id) (hname : ',' ∉ r.id.toList)
    {pattern pattern' : String} (h : Reorders pattern pattern')
    (hboth : ¬(r.id ∈ partsOf (Text.trim pattern) ∧ "!" ++ r.id ∈ partsOf (Text.trim pattern))) :
    matchesRepository pattern r = matchesRepository pattern' r := by
  rw [Bool.eq_iff_iff, matchesRepository_iff hid, matchesRepository_iff hid]
  exact and_congr (not_congr (h.trim_eq_iff (by decide))) (h.fits_iff hname hboth)

theorem matchesLayout_eq_of_reorders {layout : String} (hlayout : Unmarked layout)
    (hname : ',' ∉ layout.toList) {pattern pattern' : String} (h : Reorders pattern pattern')
    (hboth : ¬(layout ∈ partsOf (Text.trim pattern) ∧
      "!" ++ layout ∈ partsOf (Text.trim pattern))) :
    matchesLayout pattern layout = matchesLayout pattern' layout := by
  rw [Bool.eq_iff_iff, matchesLayout_iff hlayout, matchesLayout_iff hlayout]
  exact or_congr (h.trim_eq_iff (by decide)) (h.fits_iff hname hboth)

/-- A repository whose identifier and layout are no exclusions gets what the first mirror that serves
it makes of it: a repository at the mirror's place, with the policies of the one for which alone it
stands in. It gets none only where no mirror serves it. Names without commas may have the parts of a
pattern in any order that does not both name and exclude them. -/
theorem select?_first (mirrors : List MirrorRule) (r : RemoteRepository) (hid : Unmarked r.id)
    (hlayout : Unmarked r.layout) :
    (∀ found, select? mirrors r = some found ↔ ∃ m, IsFirst (·.Serves r) mirrors m ∧
      found = { id := m.id, layout := m.layout, url := m.url, blocked := m.blocked
                releases := r.releases, snapshots := r.snapshots, mirrored := [r] }) ∧
    (select? mirrors r = none ↔ ∀ m ∈ mirrors, ¬m.Serves r) ∧
    ∀ pattern pattern', Reorders pattern pattern' →
      (',' ∉ r.id.toList →
        ¬(r.id ∈ partsOf (Text.trim pattern) ∧ "!" ++ r.id ∈ partsOf (Text.trim pattern)) →
        matchesRepository pattern r = matchesRepository pattern' r) ∧
      (',' ∉ r.layout.toList →
        ¬(r.layout ∈ partsOf (Text.trim pattern) ∧
          "!" ++ r.layout ∈ partsOf (Text.trim pattern)) →
        matchesLayout pattern r.layout = matchesLayout pattern' r.layout) := by
  refine ⟨fun found => ?_, ?_, fun pattern pattern' h => ⟨?_, ?_⟩⟩
  · rw [select?, Option.map_eq_some_iff]
    simp only [find?_eq_some_iff_isFirst fun _ => standsInFor_iff hid hlayout, repository, eq_comm]
  · rw [select?, Option.map_eq_none_iff, find?_eq_none_iff_forall_not fun _ =>
      standsInFor_iff hid hlayout]
  · exact fun hname => matchesRepository_eq_of_reorders hid hname h
  · exact fun hname => matchesLayout_eq_of_reorders hlayout hname h

/-- The mirror of all but the repository is passed over, and the star for plain HTTP serves it, before
the other part as after it. -/
theorem select?_first_plain :
    let r : RemoteRepository := { id := "central", url := "http://repo/" }
    let others : MirrorRule := { id := "m", url := "https://one/", mirrorOf := "*,!central" }
    let plain : MirrorRule := { id := "n", url := "https://two/", mirrorOf := " a, external:http:*" }
    select? [others, plain] r = some (plain.repository r) ∧
      matchesRepository " a, external:http:*" r = matchesRepository "external:http:*,a" r := by
  intro r others plain
  obtain ⟨hselected, -, horder⟩ := select?_first [others, plain] r (by decide) (by decide)
  have hpassed : ∀ other ∈ [others], ¬other.Serves r := by
    intro other hother hserves
    obtain rfl := List.mem_singleton.mp hother
    rcases hserves.repository with hname | hname | ⟨hsilent, -⟩
    · exact absurd hname (by decide +kernel)
    · exact absurd hname (by decide +kernel)
    · exact absurd hsilent (by decide +kernel)
  have hcovers : Covers r "external:http:*" :=
    .inr (.inr ⟨rfl, by decide +kernel, by decide +kernel⟩)
  have hserves : plain.Serves r :=
    ⟨by decide, .inr (.inr ⟨by decide +kernel, _, by decide +kernel, hcovers⟩), .inl (by decide)⟩
  exact ⟨(hselected _).mpr ⟨plain, ⟨[others], [], rfl, hserves, hpassed⟩, rfl⟩,
    (horder _ _ (by decide +kernel)).1 (by decide) (by decide +kernel)⟩

end Selection

end Depot.MirrorRule
