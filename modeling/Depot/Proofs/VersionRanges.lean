import Depot.Proofs.Cutting
import Depot.Proofs.VersionOrder
import Depot.Settings.Activation

/-! Ranges of versions and the order of versions. A range that is spelled out is read back with its
ends trimmed (`VersionRange.parse?_spelled`), and it holds for the versions between its ends
(`VersionRange.holds_iff`). So a condition on the version of Java that is a range accepts the versions
between two places of the order, and what is neither before a version nor after it is that version
(`Activation.ranges_ordered`). -/

namespace Depot

namespace Version

/-- The first version comes before the second, or is at its place when that is included. -/
def Precedes (included : Bool) (v w : String) : Prop :=
  if included then rank v ≤ rank w else rank v < rank w

theorem precedes_true {v w : String} : Precedes true v w ↔ rank v ≤ rank w := Iff.rfl

theorem precedes_false {v w : String} : Precedes false v w ↔ rank v < rank w := by
  simp [Precedes]

theorem Precedes.trans_le {included : Bool} {u v w : String} (h : Precedes included u v)
    (hle : rank v ≤ rank w) : Precedes included u w := by
  cases included with
  | true => exact precedes_true.mpr (le_trans (precedes_true.mp h) hle)
  | false => exact precedes_false.mpr (lt_of_lt_of_le (precedes_false.mp h) hle)

theorem Precedes.le_trans {included : Bool} {u v w : String} (h : Precedes included v w)
    (hle : rank u ≤ rank v) : Precedes included u w := by
  cases included with
  | true => exact precedes_true.mpr (hle.trans (precedes_true.mp h))
  | false => exact precedes_false.mpr (lt_of_le_of_lt hle (precedes_false.mp h))

@[simp] theorem precedes_trim_left {included : Bool} {v w : String} :
    Precedes included (Text.trim v) w ↔ Precedes included v w := by
  rw [Precedes, rank_trim, Precedes]

@[simp] theorem precedes_trim_right {included : Bool} {v w : String} :
    Precedes included v (Text.trim w) ↔ Precedes included v w := by
  rw [Precedes, rank_trim, Precedes]

end Version

namespace VersionRange

open Version (Precedes rank)

theorem passes_gt_iff {included : Bool} {v w : String} :
    passes (Version.compare v w) .gt included = true ↔ Precedes included w v := by
  have h := Version.compare_compares v w
  cases included with
  | true =>
    refine Iff.trans ?_ (h.ne_lt.trans Version.precedes_true.symm)
    cases Version.compare v w <;> decide
  | false =>
    refine Iff.trans ?_ (h.eq_gt.trans Version.precedes_false.symm)
    cases Version.compare v w <;> decide

theorem passes_lt_iff {included : Bool} {v w : String} :
    passes (Version.compare v w) .lt included = true ↔ Precedes included v w := by
  have h := Version.compare_compares v w
  cases included with
  | true =>
    refine Iff.trans ?_ (h.ne_gt.trans Version.precedes_true.symm)
    cases Version.compare v w <;> decide
  | false =>
    refine Iff.trans ?_ (h.eq_lt.trans Version.precedes_false.symm)
    cases Version.compare v w <;> decide

/-- A range holds between its ends. -/
theorem holds_iff {r : VersionRange} {version : String} : r.holds version = true ↔
    (r.lower ≠ "" → Precedes r.lowerIncluded r.lower version) ∧
      (r.upper ≠ "" → Precedes r.upperIncluded version r.upper) := by
  simp only [holds, Bool.and_eq_true, Bool.or_eq_true, beq_iff_eq, passes_gt_iff, passes_lt_iff,
    ne_eq, or_iff_not_imp_left]

/-! ### Ranges that are spelled out -/

/-- What stands between the brackets and parentheses of a range. -/
def enclosed (lowerIncluded : Bool) (inner : String) (upperIncluded : Bool) : String :=
  (if lowerIncluded then "[" else "(") ++ inner ++ if upperIncluded then "]" else ")"

/-- The text of a range: an end that belongs to it has a bracket, one that does not a parenthesis. -/
def spelled (r : VersionRange) : String :=
  enclosed r.lowerIncluded (r.lower ++ "," ++ r.upper) r.upperIncluded

theorem toList_enclosed (lowerIncluded upperIncluded : Bool) (inner : String) :
    (enclosed lowerIncluded inner upperIncluded).toList =
      (if lowerIncluded then '[' else '(') ::
        (inner.toList ++ [if upperIncluded then ']' else ')']) := by
  cases lowerIncluded <;> cases upperIncluded <;> simp [enclosed]

/-- A text between brackets and parentheses is read as the range between its trimmed ends, which are
cut at the first comma, if there is one. -/
theorem parse?_enclosed (lowerIncluded upperIncluded : Bool) (inner : String) :
    parse? (enclosed lowerIncluded inner upperIncluded) =
      let (lower, upper) := (Text.cutAt? [','] inner.toList).getD (inner.toList, inner.toList)
      some ⟨Text.trim (String.ofList lower), lowerIncluded, Text.trim (String.ofList upper),
        upperIncluded⟩ := by
  rw [parse?, toList_enclosed]
  cases lowerIncluded <;> cases upperIncluded <;> simp

theorem parse?_spelled {r : VersionRange} (h : ',' ∉ r.lower.toList) :
    parse? r.spelled = some { r with lower := Text.trim r.lower, upper := Text.trim r.upper } := by
  have hinner : (r.lower ++ "," ++ r.upper).toList = r.lower.toList ++ ',' :: r.upper.toList := by
    simp
  rw [spelled, parse?_enclosed, hinner, Text.cutAt?_append_cons h]
  simp

/-- A range without a comma is the version itself. -/
theorem parse?_enclosed_of_single {version : String} (h : ',' ∉ version.toList)
    (lowerIncluded upperIncluded : Bool) :
    parse? (enclosed lowerIncluded version upperIncluded) =
      some ⟨Text.trim version, lowerIncluded, Text.trim version, upperIncluded⟩ := by
  rw [parse?_enclosed, Text.cutAt?_eq_none h]
  simp

/-- Without a bracket or parenthesis at its end a text is no range. -/
theorem parse?_eq_none {s : String} (hbracket : s.toList.getLast? ≠ some ']')
    (hparenthesis : s.toList.getLast? ≠ some ')') : parse? s = none := by
  cases hlast : s.toList.tail.getLast? with
  | none => simp [parse?, hlast]
  | some closing =>
    have hend : s.toList.getLast? = some closing := by
      rw [List.getLast?_tail] at hlast
      split at hlast
      · cases hlast
      · exact hlast
    have hopen : closing ≠ ']' := fun h => hbracket (h ▸ hend)
    have hround : closing ≠ ')' := fun h => hparenthesis (h ▸ hend)
    simp [parse?, hlast, hopen, hround]

theorem opens_enclosed (lowerIncluded upperIncluded : Bool) (inner : String) :
    opens (enclosed lowerIncluded inner upperIncluded) = true := by
  rw [opens, toList_enclosed]
  cases lowerIncluded <;> simp

theorem trim_enclosed (lowerIncluded upperIncluded : Bool) (inner : String) :
    Text.trim (enclosed lowerIncluded inner upperIncluded) =
      enclosed lowerIncluded inner upperIncluded := by
  rw [Text.trim_eq_self_iff, toList_enclosed, ← List.cons_append]
  constructor
  · intro c hc
    cases lowerIncluded <;> cases hc <;> decide
  · intro c hc
    rw [List.getLast?_concat] at hc
    cases upperIncluded <;> cases hc <;> decide

/-- What begins like a range is not negated. -/
theorem negated?_of_opens {s : String} (h : opens s = true) : Text.negated? s = none := by
  rw [Text.negated?_eq_none_iff]
  intro hmark
  simp [opens, hmark] at h

end VersionRange

/-! ### Conditions on the version of Java -/

namespace Activation

open Version (Precedes rank)
open VersionRange (enclosed)

variable {p : Properties} {spec u v w x : String}

/-- Whether the condition holds where Java has this version, whatever else the properties say. -/
def acceptsJava (p : Properties) (spec version : String) : Bool :=
  jdkHolds (p.insert Properties.Name.javaVersion version) spec

theorem acceptsJava_iff (h : VersionRange.opens (Text.trim spec) = true) :
    acceptsJava p spec v = true ↔
      ∃ r, VersionRange.parse? (Text.trim spec) = some r ∧ r.holds v = true := by
  have hbare := VersionRange.negated?_of_opens h
  simp only [acceptsJava, jdkHolds, Properties.get?_insert, if_true, hbare, h]
  cases VersionRange.parse? (Text.trim spec) <;> simp

/-- A range is read as the condition as it stands. -/
theorem acceptsJava_enclosed {lowerIncluded upperIncluded : Bool} {inner : String}
    {r : VersionRange} (h : VersionRange.parse? (enclosed lowerIncluded inner upperIncluded) = some r) :
    acceptsJava p (enclosed lowerIncluded inner upperIncluded) v = true ↔ r.holds v = true := by
  have hopens := VersionRange.opens_enclosed lowerIncluded upperIncluded inner
  rw [acceptsJava_iff (by rwa [VersionRange.trim_enclosed]), VersionRange.trim_enclosed, h]
  simp

/-- A range accepts the versions between its ends; a blank end is open. -/
theorem acceptsJava_spelled {r : VersionRange} (h : ',' ∉ r.lower.toList) :
    acceptsJava p r.spelled v = true ↔
      (Text.isBlank r.lower = false → Precedes r.lowerIncluded r.lower v) ∧
        (Text.isBlank r.upper = false → Precedes r.upperIncluded v r.upper) := by
  have hread := acceptsJava_enclosed (p := p) (v := v) (VersionRange.parse?_spelled h)
  rw [VersionRange.spelled, hread, VersionRange.holds_iff]
  simp [Text.trim_eq_empty_iff]

theorem acceptsJava_single (h : ',' ∉ x.toList) (hfilled : Text.isBlank x = false) :
    acceptsJava p (enclosed true x true) v = true ↔ rank v = rank x := by
  have hends : Text.trim x ≠ "" := by simp [Text.trim_eq_empty_iff, hfilled]
  rw [acceptsJava_enclosed (VersionRange.parse?_enclosed_of_single h true true),
    VersionRange.holds_iff, forall_prop_of_true hends, forall_prop_of_true hends, and_comm]
  simp only [Version.precedes_trim_left, Version.precedes_trim_right, Version.precedes_true]
  exact le_antisymm_iff.symm

/-- What lies between accepted versions is accepted. -/
theorem acceptsJava_convex (h : VersionRange.opens (Text.trim spec) = true)
    (hu : acceptsJava p spec u = true) (hw : acceptsJava p spec w = true)
    (huv : rank u ≤ rank v) (hvw : rank v ≤ rank w) : acceptsJava p spec v = true := by
  obtain ⟨r, hparse, hlower⟩ := (acceptsJava_iff h).mp hu
  obtain ⟨r', hparse', hupper⟩ := (acceptsJava_iff h).mp hw
  obtain rfl : r = r' := Option.some.inj (hparse.symm.trans hparse')
  obtain ⟨hlower, -⟩ := VersionRange.holds_iff.mp hlower
  obtain ⟨-, hupper⟩ := VersionRange.holds_iff.mp hupper
  exact (acceptsJava_iff h).mpr ⟨r, hparse, VersionRange.holds_iff.mpr
    ⟨fun hend => (hlower hend).trans_le huv, fun hend => (hupper hend).le_trans hvw⟩⟩

theorem acceptsJava_below (hfilled : Text.isBlank x = false) :
    acceptsJava p ("(," ++ x ++ ")") v = true ↔ rank v < rank x := by
  let r : VersionRange := ⟨"", false, x, false⟩
  have htext : "(," ++ x ++ ")" = r.spelled := by
    rw [← String.toList_inj]
    simp [r, VersionRange.spelled, VersionRange.enclosed]
  rw [htext, acceptsJava_spelled (by simp [r]), ← Version.precedes_false]
  simp [r, hfilled, show Text.isBlank "" = true from rfl]

theorem acceptsJava_above (h : ',' ∉ x.toList) (hfilled : Text.isBlank x = false) :
    acceptsJava p ("(" ++ x ++ ",)") v = true ↔ rank x < rank v := by
  let r : VersionRange := ⟨x, false, "", false⟩
  have htext : "(" ++ x ++ ",)" = r.spelled := by
    rw [← String.toList_inj]
    simp [r, VersionRange.spelled, VersionRange.enclosed]
  rw [htext, acceptsJava_spelled h, ← Version.precedes_false]
  simp [r, hfilled, show Text.isBlank "" = true from rfl]

/-- The conditions on the version of Java that are ranges, by the order of versions. -/
structure RangesOrdered (p : Properties) : Prop where
  numbers : ∀ v ns, Version.numbers v = ns ↔ Version.Reads v.toList ns
  compared : ∀ v w, (Version.compare v w).Compares (rank v) (rank w)
  reflexive : ∀ v, rank v ≤ rank v
  transitive : ∀ u v w, rank u ≤ rank v → rank v ≤ rank w → rank u ≤ rank w
  total : ∀ v w, rank v ≤ rank w ∨ rank w ≤ rank v
  /-- A range holds between its ends, at an end that has a bracket too, and on without a limit where
  an end is blank. -/
  between : ∀ (r : VersionRange) v, ',' ∉ r.lower.toList →
    (acceptsJava p r.spelled v = true ↔
      (Text.isBlank r.lower = false → Precedes r.lowerIncluded r.lower v) ∧
        (Text.isBlank r.upper = false → Precedes r.upperIncluded v r.upper))
  single : ∀ x v, ',' ∉ x.toList → Text.isBlank x = false →
    (acceptsJava p ("[" ++ x ++ "]") v = true ↔ rank v = rank x)
  unclosed : ∀ spec v, VersionRange.opens (Text.trim spec) = true →
    (Text.trim spec).toList.getLast? ≠ some ']' → (Text.trim spec).toList.getLast? ≠ some ')' →
      acceptsJava p spec v = false
  convex : ∀ spec u v w, VersionRange.opens (Text.trim spec) = true →
    acceptsJava p spec u = true → acceptsJava p spec w = true →
      rank u ≤ rank v → rank v ≤ rank w → acceptsJava p spec v = true
  trichotomous : ∀ x v, ',' ∉ x.toList → Text.isBlank x = false →
    ["(," ++ x ++ ")", "[" ++ x ++ "]", "(" ++ x ++ ",)"].countP (acceptsJava p · v) = 1

/-- A condition that is a range holds by the order of versions, in which each version is before
another, at its place or after it. -/
theorem ranges_ordered (p : Properties) : RangesOrdered p where
  numbers _ _ := Version.numbers_eq_iff
  compared := Version.compare_compares
  reflexive _ := le_rfl
  transitive _ _ _ := le_trans
  total v w := le_total (rank v) (rank w)
  between _ _ := acceptsJava_spelled
  single _ _ := acceptsJava_single
  unclosed spec v h hbracket hparenthesis := by
    rw [Bool.eq_false_iff, Ne, acceptsJava_iff h,
      VersionRange.parse?_eq_none hbracket hparenthesis]
    simp
  convex _ _ _ _ := acceptsJava_convex
  trichotomous x v h hfilled := by
    have hbelow := acceptsJava_below (p := p) (v := v) hfilled
    have hat : acceptsJava p ("[" ++ x ++ "]") v = true ↔ rank v = rank x :=
      acceptsJava_single h hfilled
    have habove := acceptsJava_above (p := p) (v := v) h hfilled
    simp only [List.countP_cons, List.countP_nil]
    rcases lt_trichotomy (rank v) (rank x) with hlt | heq | hgt
    · rw [if_pos (hbelow.mpr hlt), if_neg (mt hat.mp hlt.ne), if_neg (mt habove.mp hlt.asymm)]
    · rw [if_neg (mt hbelow.mp heq.not_lt), if_pos (hat.mpr heq), if_neg (mt habove.mp heq.not_gt)]
    · rw [if_neg (mt hbelow.mp hgt.asymm), if_neg (mt hat.mp hgt.ne'), if_pos (habove.mpr hgt)]

/-- Zeros at the end of a version do not count, and text between its numbers does not either. -/
example : acceptsJava .empty " [11.0 , 17)" "11-ea" = true := by decide +kernel

end Activation

end Depot
