import Depot.Proofs.Requirements
import Depot.Proofs.Trimming

/-! What an exclamation mark in front of a value does. It negates what is asked of the operating
system, the name of a property, the value of one whose name has no mark, and a beginning of the version
of Java. A range of versions is not negated by it, but taken for such a beginning
(`Requirement.negates_iff`). -/

namespace Depot

/-- The values of requirements that can have an exclamation mark in front. -/
inductive ValueKind where
  | jdk
  | osName
  | osFamily
  | osArchitecture
  | osVersion
  | propertyName
  | propertyValue (name : String)
deriving DecidableEq, Repr

/-- What is asked for by a value. -/
def ValueKind.asking (value : String) : ValueKind → Requirement
  | jdk => .jdk value
  | osName => .osName value
  | osFamily => .osFamily value
  | osArchitecture => .osArchitecture value
  | osVersion => .osVersion value
  | propertyName => .property { name := value }
  | propertyValue name => .property { name, value := some value }

namespace Requirement

variable {files : FileSystem} {p : Properties}

/-! ### Requirements on their own -/

/-- The activation that asks for this and nothing else. -/
def alone : Requirement → Activation
  | jdk spec => { jdk := some spec }
  | osName expected => { os := some { name := some expected } }
  | osFamily expected => { os := some { family := some expected } }
  | osArchitecture expected => { os := some { arch := some expected } }
  | osVersion expected => { os := some { version := some expected } }
  | property c => { property := some c }
  | fileExists path => { file := some { existing := some path } }
  | fileMissing path => { file := some { missing := some path } }

theorem requirements_alone (r : Requirement) : r.alone.requirements = [r] := by
  cases r <;> rfl

/-- Whether a profile becomes active that asks for this and nothing else. -/
def activates (files : FileSystem) (p : Properties) (r : Requirement) : Bool :=
  Activation.byConditions files p { id := "p", activation := some r.alone }

theorem activates_eq (r : Requirement) : r.activates files p = r.holds files p := by
  have hconditions : r.alone.hasConditions = true := by
    rw [Activation.hasConditions_iff, requirements_alone]
    simp
  simp [activates, Activation.byConditions, hconditions, Activation.holds_eq, requirements_alone]

end Requirement

/-! ### Values with a mark -/

namespace Activation

variable {files : FileSystem} {p : Properties} {w version : String}

theorem negatable_marked (htrim : Text.trim w = w) (hmark : w.toList.head? ≠ some '!')
    (accepts : String → Bool) : negatable ("!" ++ w) accepts = !negatable w accepts := by
  rw [negatable, negatable, Text.trim_marked htrim, Text.negated?_marked, htrim,
    Text.negated?_eq_none_iff.mpr hmark]

/-- With a mark, the version of Java is only looked at for its beginning. -/
theorem jdkHolds_marked (hjava : p.get? Properties.Name.javaVersion = some version)
    (htrim : Text.trim w = w) : jdkHolds p ("!" ++ w) = !startsWith version w := by
  simp only [jdkHolds, hjava, Text.trim_marked htrim, Text.negated?_marked, htrim]

theorem jdkHolds_unmarked (hjava : p.get? Properties.Name.javaVersion = some version)
    (htrim : Text.trim w = w) (hmark : w.toList.head? ≠ some '!') :
    jdkHolds p w = if VersionRange.opens w then (VersionRange.parse? w).any (·.holds version)
      else startsWith version w := by
  simp only [jdkHolds, hjava, htrim, Text.negated?_eq_none_iff.mpr hmark]
  cases VersionRange.parse? w <;> rfl

/-- A property asked for by name is there, and one whose name has a mark is not. -/
theorem propertyHolds_marked (htrim : Text.trim w = w) (hmark : w.toList.head? ≠ some '!') :
    propertyHolds p { name := "!" ++ w } = !propertyHolds p { name := w } := by
  simp only [propertyHolds, Text.trim_marked htrim, Text.negated?_marked, htrim,
    Text.negated?_eq_none_iff.mpr hmark, Option.not_isSome]

theorem propertyHolds_value {name : String} (hname : Text.negated? (Text.trim name) = none)
    (value : String) : propertyHolds p { name, value := some value } =
      negatable value fun v => p.get? (Text.trim name) == some v := by
  simp only [propertyHolds, hname]

/-- The value is not looked at when the name has a mark. -/
theorem propertyHolds_absent {name absent : String}
    (hname : Text.negated? (Text.trim name) = some absent) (value : Option String) :
    propertyHolds p { name, value } = (p.filled? absent).isNone := by
  simp only [propertyHolds, hname]

end Activation

namespace Requirement

variable {files : FileSystem} {p : Properties} {k : ValueKind} {w version : String}

/-- With a mark in front of the value a profile becomes active exactly when it does not without. -/
def Negates (files : FileSystem) (p : Properties) (k : ValueKind) (w : String) : Prop :=
  (k.asking ("!" ++ w)).activates files p = !(k.asking w).activates files p

/-- A mark negates a value, unless that is a range that does not hold just when the version of Java
begins with its text, or the value of a property whose name has a mark. -/
theorem negates_iff (hjava : p.get? Properties.Name.javaVersion = some version)
    (htrim : Text.trim w = w) (hmark : w.toList.head? ≠ some '!') : Negates files p k w ↔
      (k = .jdk → VersionRange.opens w = true →
        (VersionRange.parse? w).any (·.holds version) = Activation.startsWith version w) ∧
      ∀ name, k = .propertyValue name → Text.negated? (Text.trim name) = none := by
  simp only [Negates, activates_eq]
  cases k with
  | jdk =>
    simp only [ValueKind.asking, holds, Activation.jdkHolds_marked hjava htrim,
      Activation.jdkHolds_unmarked hjava htrim hmark]
    cases VersionRange.opens w <;> simp [eq_comm]
  | osName | osFamily | osArchitecture | osVersion =>
    simp [ValueKind.asking, holds, Activation.negatable_marked htrim hmark]
  | propertyName => simp [ValueKind.asking, holds, Activation.propertyHolds_marked htrim hmark]
  | propertyValue name =>
    simp only [ValueKind.asking, holds]
    cases hname : Text.negated? (Text.trim name) with
    | none =>
      simp [Activation.propertyHolds_value hname, Activation.negatable_marked htrim hmark, hname]
    | some absent =>
      -- The value is not looked at, so that both forms hold or neither does.
      simp only [Activation.propertyHolds_absent hname, Bool.eq_not_self, false_iff]
      simp [hname]

/-- A beginning of the version of Java is negated. -/
theorem negates_iff_beginning :
    let p := Properties.empty.insert Properties.Name.javaVersion "17.0.2"
    p.get? Properties.Name.javaVersion = some "17.0.2" ∧ Text.trim "1.8" = "1.8" ∧
      "1.8".toList.head? ≠ some '!' ∧ Negates (.bare []) p .jdk "1.8" :=
  ⟨rfl, by decide, by decide,
    (negates_iff rfl (by decide) (by decide)).mpr ⟨fun _ => by decide, fun _ => nofun⟩⟩

/-- A range holds with a mark as it does without. -/
theorem range_unnegated :
    let p := Properties.empty.insert Properties.Name.javaVersion "11.0.2"
    (ValueKind.jdk.asking "[11,17)").activates (.bare []) p = true ∧
      ¬Negates (.bare []) p .jdk "[11,17)" := by
  unfold Negates
  decide +kernel

end Requirement

end Depot
