import Depot.Artifact
import Depot.Proofs.Cutting
import Mathlib.Tactic.MkIffOfInductiveProp

/-! Coordinates read and written. Written in full they are read back to the same artifact, and a text
is read only as the artifact that it names in full, or as the jar that it names without the extension
(`Artifact.parse_eq_ok_iff`). What can be written so that it is read back is what coordinates can name:
artifacts with no colon in any part and with no blank part but a missing classifier
(`Artifact.Spellable`). -/

namespace Depot.Artifact

variable {a : Artifact} {pieces : List String} {s : String}

/-- No part of the artifact has the character. -/
def Without (c : Char) (a : Artifact) : Prop :=
  ∀ part ∈ a.sortKey, c ∉ part.toList

instance (c : Char) (a : Artifact) : Decidable (a.Without c) :=
  inferInstanceAs (Decidable (∀ part ∈ a.sortKey, c ∉ part.toList))

theorem without_iff {c : Char} : a.Without c ↔ c ∉ a.group.toList ∧ c ∉ a.name.toList ∧
    c ∉ a.version.toList ∧ c ∉ a.classifier.toList ∧ c ∉ a.extension.toList := by
  simp [Without, sortKey]

/-! ### Written forms -/

/-- The parts that coordinates in full have between their colons. -/
def fullParts (a : Artifact) : List String :=
  [a.group, a.name, a.extension] ++ (if a.classifier = "" then [] else [a.classifier]) ++
    [a.version]

/-- The parts of coordinates that leave the extension out. -/
def briefParts (a : Artifact) : List String :=
  [a.group, a.name, a.version]

/-- The coordinates without the extension. -/
def briefCoordinates (a : Artifact) : String :=
  a.group ++ ":" ++ a.name ++ ":" ++ a.version

theorem pieces_coordinates (h : a.Without ':') :
    Text.pieces ':' a.coordinates = a.fullParts := by
  obtain ⟨hgroup, hname, hversion, hclassifier, hextension⟩ := without_iff.mp h
  have hmark : ":".toList = [':'] := rfl
  have hfront : Text.pieces ':' (a.group ++ ":" ++ a.name ++ ":" ++ a.extension) =
      [a.group, a.name, a.extension] := by
    rw [Text.pieces_append hmark, Text.pieces_append hmark, Text.pieces_eq_singleton hgroup,
      Text.pieces_eq_singleton hname, Text.pieces_eq_singleton hextension]
    rfl
  rw [coordinates, fullParts]
  split
  · rw [String.append_empty, Text.pieces_append hmark, hfront, Text.pieces_eq_singleton hversion]
    rfl
  · rw [← String.append_assoc, Text.pieces_append hmark, Text.pieces_append hmark, hfront,
      Text.pieces_eq_singleton hclassifier, Text.pieces_eq_singleton hversion]

theorem pieces_briefCoordinates (h : a.Without ':') :
    Text.pieces ':' a.briefCoordinates = a.briefParts := by
  obtain ⟨hgroup, hname, hversion, -, -⟩ := without_iff.mp h
  have hmark : ":".toList = [':'] := rfl
  rw [briefCoordinates, Text.pieces_append hmark, Text.pieces_append hmark,
    Text.pieces_eq_singleton hgroup, Text.pieces_eq_singleton hname,
    Text.pieces_eq_singleton hversion]
  rfl

/-! ### Artifacts made of pieces -/

theorem filled_of_ofPieces? (h : ofPieces? pieces = some a) :
    ∀ piece ∈ pieces, Text.isBlank piece = false := by
  unfold ofPieces? at h
  split at h
  · cases h
  · rename_i hfilled
    simpa using hfilled

/-- Pieces make the artifact of which they are the parts in full, or the jar of which they are the
parts without the extension. -/
theorem parts_of_ofPieces? (h : ofPieces? pieces = some a) :
    pieces = a.fullParts ∨
      a.extension = "jar" ∧ a.classifier = "" ∧ pieces = a.briefParts := by
  have hfilled := filled_of_ofPieces? h
  unfold ofPieces? at h
  rw [if_neg (by simpa using hfilled)] at h
  split at h
  · obtain rfl := Option.some.inj h
    exact .inr ⟨rfl, rfl, rfl⟩
  · obtain rfl := Option.some.inj h
    exact .inl rfl
  · rename_i group name extension classifier version
    obtain rfl := Option.some.inj h
    have hclassifier : classifier ≠ "" := by
      rintro rfl
      cases hfilled "" (by simp)
    rw [fullParts, if_neg hclassifier]
    exact .inl rfl
  · cases h

theorem ofPieces?_fullParts (h : ∀ part ∈ a.fullParts, Text.isBlank part = false) :
    ofPieces? a.fullParts = some a := by
  have hfilled : ¬a.fullParts.any Text.isBlank = true := by simpa using h
  obtain ⟨group, name, version, classifier, extension⟩ := a
  unfold ofPieces?
  rw [if_neg hfilled, fullParts]
  by_cases hclassifier : classifier = ""
  · rw [if_pos hclassifier, hclassifier]
    rfl
  · rw [if_neg hclassifier]
    rfl

theorem ofPieces?_briefParts (h : ∀ part ∈ a.briefParts, Text.isBlank part = false)
    (hextension : a.extension = "jar") (hclassifier : a.classifier = "") :
    ofPieces? a.briefParts = some a := by
  have hfilled : ¬a.briefParts.any Text.isBlank = true := by simpa using h
  obtain ⟨group, name, version, classifier, extension⟩ := a
  cases hextension
  cases hclassifier
  unfold ofPieces?
  rw [if_neg hfilled, briefParts]

/-- Three, four or five pieces make an artifact unless one is blank, and others make none. -/
theorem exists_ofPieces?_iff : (∃ a, ofPieces? pieces = some a) ↔
    (3 ≤ pieces.length ∧ pieces.length ≤ 5) ∧
      ∀ piece ∈ pieces, Text.isBlank piece = false := by
  constructor
  · rintro ⟨a, h⟩
    refine ⟨?_, filled_of_ofPieces? h⟩
    obtain rfl | ⟨-, -, rfl⟩ := parts_of_ofPieces? h
    · unfold fullParts
      split <;> simp
    · simp [briefParts]
  · rintro ⟨hlength, hfilled⟩
    unfold ofPieces?
    rw [if_neg (by simpa using hfilled)]
    match pieces, hlength with
    | [group, name, version], _ => exact ⟨_, rfl⟩
    | [group, name, extension, version], _ => exact ⟨_, rfl⟩
    | [group, name, extension, classifier, version], _ => exact ⟨_, rfl⟩

/-! ### Artifacts that can be named -/

/-- No part has a colon, and none is blank, but the classifier may be missing. -/
@[mk_iff]
structure Spellable (a : Artifact) : Prop where
  uncut : a.Without ':'
  group : Text.isBlank a.group = false
  name : Text.isBlank a.name = false
  version : Text.isBlank a.version = false
  extension : Text.isBlank a.extension = false
  classifier : a.classifier = "" ∨ Text.isBlank a.classifier = false

theorem spellable_iff_fullParts : a.Spellable ↔
    ∀ part ∈ a.fullParts, ':' ∉ part.toList ∧ Text.isBlank part = false := by
  rw [spellable_iff, without_iff, fullParts]
  by_cases hclassifier : a.classifier = ""
  · simp [hclassifier]
    tauto
  · simp [hclassifier]
    tauto

instance (a : Artifact) : Decidable a.Spellable :=
  decidable_of_iff _ spellable_iff_fullParts.symm

/-- The text names the artifact in full, or, when it is a jar without a classifier, it leaves the
extension out. -/
def NamedBy (a : Artifact) (s : String) : Prop :=
  s = a.coordinates ∨ a.extension = "jar" ∧ a.classifier = "" ∧ s = a.briefCoordinates

theorem parse_eq_ok_iff_ofPieces? :
    parse s = .ok a ↔ ofPieces? (Text.pieces ':' s) = some a := by
  rw [parse]
  cases ofPieces? (Text.pieces ':' s) <;> simp

/-- The parts of an artifact that is read are pieces of its coordinates, or those of a jar. -/
theorem spellable_of_parse (h : parse s = .ok a) : a.Spellable := by
  rw [parse_eq_ok_iff_ofPieces?] at h
  have hpieces : ∀ piece ∈ Text.pieces ':' s,
      ':' ∉ piece.toList ∧ Text.isBlank piece = false :=
    fun piece hpiece => ⟨Text.not_mem_of_mem_pieces hpiece, filled_of_ofPieces? h piece hpiece⟩
  rw [spellable_iff_fullParts]
  intro part hpart
  obtain hfull | ⟨hextension, hclassifier, hbrief⟩ := parts_of_ofPieces? h
  · exact hpieces part (hfull ▸ hpart)
  · have hcases : part ∈ a.briefParts ∨ part = "jar" := by
      rw [fullParts, if_pos hclassifier, hextension] at hpart
      simp only [briefParts, List.append_nil, List.cons_append, List.nil_append,
        List.mem_cons] at hpart ⊢
      tauto
    obtain hpart | rfl := hcases
    · exact hpieces part (hbrief ▸ hpart)
    · decide

/-- A text is read as an artifact that can be named when it names that artifact. -/
theorem parse_eq_ok_iff : parse s = .ok a ↔ a.Spellable ∧ a.NamedBy s := by
  constructor
  · intro h
    have hspellable := spellable_of_parse h
    refine ⟨hspellable, ?_⟩
    obtain hfull | ⟨hextension, hclassifier, hbrief⟩ :=
      parts_of_ofPieces? (parse_eq_ok_iff_ofPieces?.mp h)
    · rw [← pieces_coordinates hspellable.uncut] at hfull
      exact .inl (Text.pieces_injective hfull)
    · rw [← pieces_briefCoordinates hspellable.uncut] at hbrief
      exact .inr ⟨hextension, hclassifier, Text.pieces_injective hbrief⟩
  · rintro ⟨hspellable, hnamed⟩
    rw [parse_eq_ok_iff_ofPieces?]
    obtain rfl | ⟨hextension, hclassifier, rfl⟩ := hnamed
    · rw [pieces_coordinates hspellable.uncut]
      exact ofPieces?_fullParts fun part hpart => (spellable_iff_fullParts.mp hspellable part hpart).2
    · rw [pieces_briefCoordinates hspellable.uncut]
      refine ofPieces?_briefParts ?_ hextension hclassifier
      simp [briefParts, hspellable.group, hspellable.name, hspellable.version]

/-- Coordinates are read when they have three to five pieces and none is blank; they are then read as
the one artifact that can be named and that they name. Every artifact that can be named, so every one
that was read, comes back from its coordinates in full, and no other one has them. -/
theorem coordinates_read_back :
    (∀ s, (∃ a, parse s = .ok a) ↔
      (3 ≤ (Text.pieces ':' s).length ∧ (Text.pieces ':' s).length ≤ 5) ∧
        ∀ piece ∈ Text.pieces ':' s, Text.isBlank piece = false) ∧
    (∀ s a, parse s = .ok a ↔ a.Spellable ∧ a.NamedBy s) ∧
    (∀ s a, parse s = .ok a → parse a.coordinates = .ok a) ∧
    (∀ a : Artifact, a.Spellable → parse a.coordinates = .ok a) ∧
    ∀ a b : Artifact, a.Spellable → b.Spellable → a.coordinates = b.coordinates → a = b := by
  have hback (a : Artifact) (h : a.Spellable) : parse a.coordinates = .ok a :=
    parse_eq_ok_iff.mpr ⟨h, .inl rfl⟩
  refine ⟨fun s => ?_, fun s a => parse_eq_ok_iff, fun s a h => hback a (spellable_of_parse h),
    hback, fun a b ha hb hsame => ?_⟩
  · simp only [parse_eq_ok_iff_ofPieces?]
    exact exists_ofPieces?_iff
  · have hread := hback a ha
    rw [hsame, hback b hb] at hread
    exact (Except.ok.inj hread).symm

/-- The extension that was left out is written, and a classifier with a blank at its end is kept. -/
theorem coordinates_read_back_jar :
    let jar : Artifact := { group := "org.example", name := "lib", version := "1.0" }
    let sources : Artifact := { jar with classifier := "sources " }
    parse "org.example:lib:1.0" = .ok jar ∧ jar.coordinates = "org.example:lib:jar:1.0" ∧
      parse jar.coordinates = .ok jar ∧ sources.Spellable ∧
      parse sources.coordinates = .ok sources := by
  intro jar sources
  obtain ⟨-, hread, hagain, hback, -⟩ := coordinates_read_back
  have hjar : parse "org.example:lib:1.0" = .ok jar :=
    (hread _ jar).mpr ⟨by decide, .inr ⟨rfl, rfl, rfl⟩⟩
  have hsources : sources.Spellable := by decide
  exact ⟨hjar, rfl, hagain _ _ hjar, hsources, hback sources hsources⟩

end Depot.Artifact
