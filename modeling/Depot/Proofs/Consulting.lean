import Depot.Proofs.Opening
import Depot.Proofs.Storing

/-! Looking an artifact up in a chain. The chain of a plan goes through directories in order
(`Plan.lookedInto`): the primary one, then those that the entries of the tail name, without the ones
that report themselves unavailable when that counts. It answers with the first of them that holds the
artifact, and with nothing only when none does (`Plan.LooksUp`), whether the tail was listed or taken
from the properties. -/

namespace Depot

namespace LocalChain.Plan

/-- The paths that the entries name; a blank entry names none. -/
def named (entries : List String) : List Path :=
  (entries.filter fun entry => !Text.isBlank entry).map fun entry => ⟨Text.trim entry⟩

/-- The entries of the tail among the properties. -/
def tailEntries (p : Properties) : List String :=
  Text.pieces ',' ((p.get? Properties.Name.localRepositoryTail).getD "")

/-- Whether availability is ignored: unless the properties spell that it is not, in any case. -/
def ignoredBy (p : Properties) : Bool :=
  (p.get? Properties.Name.ignoreTailAvailability).map (fun v => Text.lower (Text.trim v)) !=
    some "false"

theorem map_filterMap_filled? (entries : List String) :
    (entries.filterMap Text.filled?).map Path.mk = named entries := by
  unfold named
  induction entries with
  | nil => rfl
  | cons entry entries ih =>
    by_cases hblank : Text.isBlank entry = true
    · have hnone : Text.filled? entry = none := if_pos hblank
      rw [List.filterMap_cons_none hnone, List.filter_cons_of_neg (by simp [hblank]), ih]
    · have hsome : Text.filled? entry = some (Text.trim entry) := if_neg hblank
      rw [List.filterMap_cons_some hsome, List.filter_cons_of_pos (by simp [hblank]),
        List.map_cons, List.map_cons, ih]

theorem tail_ofProperties (primary : Path) (p : Properties) :
    (ofProperties primary p).tail = named (tailEntries p) := by
  rw [← map_filterMap_filled?]
  exact congrArg _ (Text.filterMap_filled?_filterMap _)

theorem ignore_ofProperties (primary : Path) (p : Properties) :
    (ofProperties primary p).ignoreTailAvailability = ignoredBy p := by
  unfold ofProperties ignoredBy Properties.switch
  simp only
  split
  · rename_i h
    rw [h]
    rfl
  · rename_i h
    rw [h]
    rfl
  · rename_i h
    simpa using h

/-- The directories that are looked into, in order: of those of the tail, when availability counts,
only the ones whose repositories report themselves available. -/
def lookedInto (primary : Path) (tail : List Path) (ignored : Bool) (away : List Path)
    (files : FileSystem) : List Path :=
  primary :: tail.filter fun path =>
    ignored || LocalRepository.isAvailable ⟨path, away.contains path⟩ files

/-- The artifact is in the directory: its layout path leads to a file there. -/
def Holds (files : FileSystem) (a : Artifact) (directory : Path) : Prop :=
  files.isFile (directory.join a.relativePath) = true

/-- The plan opens a chain unless its primary path is empty. The chain answers with the artifact in the
first of the directories that holds it, and with nothing only when none does. -/
structure LooksUp (p : Plan) (primary : Path) (tail : List Path) (ignored : Bool) : Prop where
  opens : ∀ away, (∃ c, p.build away = .ok c) ↔ primary.text ≠ ""
  finds : ∀ away c, p.build away = .ok c → ∀ files a found, c.find? files a = some found ↔
    ∃ before directory after,
      lookedInto primary tail ignored away files = before ++ directory :: after ∧
        (∀ other ∈ before, ¬Holds files a other) ∧ Holds files a directory ∧
        found = ⟨directory.join a.relativePath, directory⟩
  misses : ∀ away c, p.build away = .ok c → ∀ files a, c.find? files a = none ↔
    ∀ directory ∈ lookedInto primary tail ignored away files, ¬Holds files a directory

variable {p : Plan} {away : List Path} {files : FileSystem} {a : Artifact}

/-- The repositories that are consulted are those of the directories that are looked into. -/
theorem find?_chain : (p.chain away).find? files a =
    (lookedInto p.primary p.tail p.ignoreTailAvailability away files).findSome? fun path =>
      LocalRepository.find? ⟨path, away.contains path⟩ files a := by
  have hconsulted : (p.chain away).head :: (p.chain away).consulted files =
      (lookedInto p.primary p.tail p.ignoreTailAvailability away files).map fun path =>
        ⟨path, away.contains path⟩ := by
    unfold consulted lookedInto chain
    cases p.ignoreTailAvailability with
    | true => simp
    | false => simp [List.filter_map, Function.comp_def]
  rw [find?, hconsulted, List.findSome?_map, Function.comp_def]

theorem filled_named (entries : List String) : ∀ path ∈ named entries, path.text ≠ "" := by
  intro path hpath
  obtain ⟨entry, hentry, rfl⟩ := List.mem_map.mp hpath
  have hblank : Text.isBlank entry = false := by simpa using (List.mem_filter.mp hentry).2
  rw [ne_eq, Text.trim_eq_empty_iff, hblank]
  exact Bool.false_ne_true

/-- However a plan came by its tail, its chain looks artifacts up along what the entries name. -/
theorem looksUp {entries : List String} (htail : p.tail = named entries) :
    p.LooksUp p.primary (named entries) p.ignoreTailAvailability where
  opens := by
    intro away
    simp only [build_eq_ok_iff, htail]
    exact ⟨fun ⟨_, hprimary, _⟩ => hprimary,
      fun hprimary => ⟨_, hprimary, filled_named entries, rfl⟩⟩
  finds := by
    intro away c hbuild files a found
    obtain ⟨-, -, rfl⟩ := build_eq_ok_iff.mp hbuild
    rw [find?_chain, htail, List.findSome?_eq_some_iff]
    simp only [LocalRepository.find?_eq_some_iff, LocalRepository.find?_eq_none_iff]
    constructor
    · rintro ⟨before, directory, after, hdirectories, ⟨hholds, hfound⟩, hbefore⟩
      exact ⟨before, directory, after, hdirectories, hbefore, hholds, hfound⟩
    · rintro ⟨before, directory, after, hdirectories, hbefore, hholds, hfound⟩
      exact ⟨before, directory, after, hdirectories, ⟨hholds, hfound⟩, hbefore⟩
  misses := by
    intro away c hbuild files a
    obtain ⟨-, -, rfl⟩ := build_eq_ok_iff.mp hbuild
    rw [find?_chain, htail, List.findSome?_eq_none_iff]
    simp only [LocalRepository.find?_eq_none_iff]
    rfl

/-- Artifacts are looked up in the primary directory and then along the tail, with a tail that is
listed as with one that the properties describe. -/
theorem lookup_order (primary : Path) (entries : List String) (ignored : Bool) (p : Properties) :
    LooksUp { withTail { primary } entries with ignoreTailAvailability := ignored }
        primary (named entries) ignored ∧
      (ofProperties primary p).LooksUp primary (named (tailEntries p)) (ignoredBy p) := by
  refine ⟨looksUp (map_filterMap_filled? entries), ?_⟩
  rw [← ignore_ofProperties primary]
  exact looksUp (tail_ofProperties primary p)

end LocalChain.Plan

end Depot
