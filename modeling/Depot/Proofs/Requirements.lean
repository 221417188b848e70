import Depot.Settings.Activation

/-! What an activation asks for. Its conditions are taken apart into the requirements that they state,
and a profile becomes active by itself when it states requirements that all hold. It does so too when
it states none, if only it has a table for the operating system, or for files, in which nothing stands
(`Activation.byConditions_iff`). -/

namespace Depot

/-- One thing that a profile can ask for to become active. -/
inductive Requirement where
  | jdk (spec : String)
  | osName (expected : String)
  | osFamily (expected : String)
  | osArchitecture (expected : String)
  | osVersion (expected : String)
  | property (c : PropertyCondition)
  | fileExists (path : String)
  | fileMissing (path : String)
deriving DecidableEq, Repr

namespace Requirement

/-- Whether what is asked for is so. What the properties do not say of the operating system is taken
as empty, and references in a path are replaced. -/
def holds (files : FileSystem) (p : Properties) : Requirement → Bool
  | jdk spec => Activation.jdkHolds p spec
  | osName expected =>
    Activation.negatable expected (Text.eqIgnoringCase · (said Properties.Name.osName))
  | osFamily expected => Activation.negatable expected
      (Activation.familyHolds (said Properties.Name.osName) (said Properties.Name.osFamily))
  | osArchitecture expected =>
    Activation.negatable expected (Text.eqIgnoringCase · (said Properties.Name.osArchitecture))
  | osVersion expected =>
    Activation.negatable expected (Activation.startsWith (said Properties.Name.osVersion))
  | property c => Activation.propertyHolds p c
  | fileExists path => files.exists? ⟨p.interpolate path⟩
  | fileMissing path => !files.exists? ⟨p.interpolate path⟩
where
  said (name : String) : String := (p.get? name).getD ""

end Requirement

/-! ### Taking conditions apart -/

def OsCondition.requirements (c : OsCondition) : List Requirement :=
  c.name.toList.map .osName ++ c.family.toList.map .osFamily ++
    c.arch.toList.map .osArchitecture ++ c.version.toList.map .osVersion

theorem OsCondition.requirements_eq_nil_iff {c : OsCondition} : c.requirements = [] ↔ c = {} := by
  obtain ⟨name, family, arch, version⟩ := c
  simp [requirements]

def FileCondition.requirements (c : FileCondition) : List Requirement :=
  c.existing.toList.map .fileExists ++ c.missing.toList.map .fileMissing

theorem FileCondition.requirements_eq_nil_iff {c : FileCondition} :
    c.requirements = [] ↔ c = {} := by
  obtain ⟨existing, missing⟩ := c
  simp [requirements]

namespace Activation

/-- All that the activation asks for. -/
def requirements (a : Activation) : List Requirement :=
  a.jdk.toList.map .jdk ++ a.os.toList.flatMap OsCondition.requirements ++
    a.property.toList.map .property ++ a.file.toList.flatMap FileCondition.requirements

variable {files : FileSystem} {p : Properties}

private theorem all_toList {α : Type} (o : Option α) (f : α → Bool) : o.toList.all f = o.all f := by
  cases o <;> simp

theorem osHolds_eq (files : FileSystem) (p : Properties) :
    osHolds p = fun c => c.requirements.all (Requirement.holds files p) := by
  funext c
  simp only [osHolds, OsCondition.requirements, List.all_append, List.all_map, all_toList,
    Function.comp_def, Requirement.holds, Requirement.holds.said]

theorem fileHolds_eq (files : FileSystem) (p : Properties) :
    fileHolds files p = fun c => c.requirements.all (Requirement.holds files p) := by
  funext c
  simp only [fileHolds, FileCondition.requirements, List.all_append, List.all_map, all_toList,
    Function.comp_def, Requirement.holds]

/-- The conditions of an activation hold when all of its requirements do. -/
theorem holds_eq (a : Activation) :
    a.holds files p = a.requirements.all (Requirement.holds files p) := by
  simp only [holds, osHolds_eq files p, fileHolds_eq files p, requirements, List.all_append,
    List.all_map, List.all_flatMap, all_toList, Function.comp_def, Requirement.holds]

/-- Nothing is asked for by an activation whose tables, as far as it has them, are empty. -/
theorem requirements_eq_nil_iff {a : Activation} : a.requirements = [] ↔
    a.jdk = none ∧ (∀ c, a.os = some c → c = {}) ∧ a.property = none ∧
      ∀ c, a.file = some c → c = {} := by
  simp only [requirements, List.append_eq_nil_iff, List.map_eq_nil_iff, List.flatMap_eq_nil_iff,
    Option.toList_eq_nil_iff, Option.mem_toList, OsCondition.requirements_eq_nil_iff,
    FileCondition.requirements_eq_nil_iff, and_assoc]

/-- An activation has conditions when it asks for something, or has a table in which nothing stands. -/
theorem hasConditions_iff (a : Activation) :
    a.hasConditions = true ↔ a.requirements ≠ [] ∨ a.os = some {} ∨ a.file = some {} := by
  constructor
  · intro h
    by_cases hnone : a.requirements = []
    · obtain ⟨hjdk, hos, hproperty, hfile⟩ := requirements_eq_nil_iff.mp hnone
      have htable : a.os.isSome = true ∨ a.file.isSome = true := by
        simpa [hasConditions, hjdk, hproperty] using h
      simp only [Option.isSome_iff_exists] at htable
      rcases htable with ⟨c, hc⟩ | ⟨c, hc⟩
      · exact .inr (.inl (hos c hc ▸ hc))
      · exact .inr (.inr (hfile c hc ▸ hc))
    · exact .inl hnone
  · rintro (hsome | hos | hfile)
    · cases hconditions : a.hasConditions with
      | true => rfl
      | false =>
        have hnone : ((a.jdk = none ∧ a.os = none) ∧ a.property = none) ∧ a.file = none := by
          simpa [hasConditions] using hconditions
        exact absurd (by simp [requirements, hnone]) hsome
    · simp [hasConditions, hos]
    · simp [hasConditions, hfile]

/-- The activation of the profile asks for something, and all that it asks for is so. -/
def Fulfilled (files : FileSystem) (p : Properties) (profile : Profile) : Prop :=
  ∃ a, profile.activation = some a ∧ a.requirements ≠ [] ∧
    ∀ r ∈ a.requirements, r.holds files p = true

/-- The activation of the profile asks for nothing, but has a table for the operating system or for
files. -/
def Hollow (profile : Profile) : Prop :=
  ∃ a, profile.activation = some a ∧ a.requirements = [] ∧ (a.os = some {} ∨ a.file = some {})

theorem Hollow.not_fulfilled {profile : Profile} (h : Hollow profile) :
    ¬Fulfilled files p profile := by
  obtain ⟨a, ha, hnone, -⟩ := h
  rintro ⟨b, hb, hsome, -⟩
  obtain rfl : a = b := Option.some.inj (ha.symm.trans hb)
  exact hsome hnone

/-- A profile becomes active by itself exactly when what it asks for is so, or when it asks for nothing
in a table that is there for it. -/
theorem byConditions_iff (files : FileSystem) (p : Properties) (profile : Profile) :
    (byConditions files p profile = true ↔ Fulfilled files p profile ∨ Hollow profile) ∧
      ((byConditions files p profile = true ↔ Fulfilled files p profile) ↔ ¬Hollow profile) := by
  have hactive : byConditions files p profile = true ↔
      Fulfilled files p profile ∨ Hollow profile := by
    cases hactivation : profile.activation with
    | none => simp [byConditions, Fulfilled, Hollow, hactivation]
    | some a =>
      have hread : byConditions files p profile = true ↔
          (a.requirements ≠ [] ∨ a.os = some {} ∨ a.file = some {}) ∧
            ∀ r ∈ a.requirements, r.holds files p = true := by
        rw [byConditions, hactivation, Bool.and_eq_true, hasConditions_iff, holds_eq, List.all_eq_true]
      rw [hread, Fulfilled, Hollow]
      by_cases hnone : a.requirements = []
      · simp [hactivation, hnone]
      · simp [hactivation, hnone]
  refine ⟨hactive, fun h hhollow => hhollow.not_fulfilled (h.mp (hactive.mpr (.inr hhollow))), ?_⟩
  intro h
  rw [hactive, or_iff_left h]

/-- A profile that asks for nothing and is active. -/
theorem hollow_active :
    let profile : Profile := { id := "p", activation := some { os := some {} } }
    byConditions (.bare []) .empty profile = true ∧ ¬Fulfilled (.bare []) .empty profile :=
  have hhollow : Hollow { id := "p", activation := some { os := some {} } } :=
    ⟨_, rfl, rfl, .inl rfl⟩
  ⟨rfl, hhollow.not_fulfilled⟩

end Activation

end Depot
