import Depot.Properties.Interpolation
import Depot.Proofs.Cutting

/-! Texts as templates. A text can be taken apart into references and the literal text in front of
each of them in exactly one way in which no literal text has an opening, no name a closing brace,
and what follows the last reference no opening that is closed later (`Template.Proper`). Replacing
references fills in this template and no more: what a value brings in is not part of it
(`interpolate_template`). -/

namespace Depot.Properties

/-- A reference as it is written. -/
def reference (name : String) : String :=
  "$\x7b" ++ name ++ "\x7d"

/-- A text taken apart: either literal text up to the first reference, the name there and a template
of what follows, or text in which nothing is referred to. -/
inductive Template where
  | plain (text : String)
  | slot (literal name : String) (more : Template)
deriving DecidableEq, Repr

namespace Template

/-- The text of which this is the template. -/
def text : Template → String
  | plain text => text
  | slot literal name more => literal ++ reference name ++ more.text

/-- The text with a value in each slot, or the reference where the map has none. -/
def filled (p : Properties) : Template → String
  | plain text => text
  | slot literal name more => literal ++ (p.get? name).getD (reference name) ++ more.filled p

/-- No opening of a reference is closed in the text. -/
def Unclosed (text : String) : Prop :=
  ∀ before after, text = before ++ "$\x7b" ++ after → '\x7d' ∉ after.toList

/-- The slots are the references: literal text has no opening, a name has no closing brace, and
nothing is referred to in what follows them. -/
def Proper : Template → Prop
  | plain text => Unclosed text
  | slot literal name more =>
    ¬opening <:+: literal.toList ∧ '\x7d' ∉ name.toList ∧ more.Proper

variable {literal name text : String} {more t u : Template}

theorem toList_slot (literal name : String) (more : Template) :
    (slot literal name more).text.toList =
      literal.toList ++ opening ++ (name.toList ++ '\x7d' :: more.text.toList) := by
  simp [Template.text, reference, opening]

/-- A text is cut at the first slot of a proper template. -/
theorem cutAt?_slot (h : (slot literal name more).Proper) :
    Text.cutAt? opening (slot literal name more).text.toList =
      some (literal.toList, name.toList ++ '\x7d' :: more.text.toList) := by
  rw [toList_slot, List.append_assoc]
  exact Text.cutAt?_append_pair (by decide) h.1 _

/-- A text with a slot refers to something. -/
theorem not_unclosed_slot (literal name : String) (more : Template) :
    ¬Unclosed (slot literal name more).text := by
  intro h
  refine h literal (name ++ "\x7d" ++ more.text) ?_ (by simp)
  simp only [Template.text, reference, String.append_assoc]

/-- A text has one proper template at most. -/
theorem Proper.unique (ht : t.Proper) (hu : u.Proper) (h : t.text = u.text) : t = u := by
  induction t generalizing u with
  | plain text =>
    cases u with
    | plain text' => exact congrArg plain h
    | slot literal name more => exact absurd (h ▸ ht) (not_unclosed_slot literal name more)
  | slot literal name more ih =>
    cases u with
    | plain text => exact absurd (h ▸ hu) (not_unclosed_slot literal name more)
    | slot literal' name' more' =>
      have hcut := cutAt?_slot ht
      rw [h, cutAt?_slot hu, Option.some_inj, Prod.mk.injEq] at hcut
      obtain ⟨hliteral, hrest⟩ := hcut
      -- Neither name has the closing brace that follows it, so they end at the same place.
      have hname := Text.cutAt?_append_cons ht.2.1 more.text.toList
      rw [← hrest, Text.cutAt?_append_cons hu.2.1, Option.some_inj, Prod.mk.injEq] at hname
      obtain ⟨hname, hmore⟩ := hname
      rw [String.toList_inj.mp hliteral, String.toList_inj.mp hname,
        ih ht.2.2 hu.2.2 (String.toList_inj.mp hmore.symm)]

/-- Nothing is referred to in a text whose first opening is not closed. -/
theorem unclosed_of_cutAt? {before rest : List Char}
    (hopened : Text.cutAt? opening text.toList = some (before, rest)) (hclosed : '\x7d' ∉ rest) :
    Unclosed text := by
  intro front back htext hmem
  have hlist : text.toList = front.toList ++ opening ++ back.toList := by
    simp [htext, opening]
  exact hclosed ((Text.suffix_of_cutAt? hopened hlist).subset hmem)

/-- Every text has a proper template: the one that is found by reading it from left to right. -/
theorem exists_proper (text : String) : ∃ t : Template, t.Proper ∧ t.text = text := by
  induction hcs : text.toList using interpolateChars.induct generalizing text with
  | case1 cs hopened =>
    refine ⟨plain text, fun front back htext _ => ?_, rfl⟩
    refine (Text.cutAt?_eq_none_iff (by decide)).mp hopened ⟨front.toList, back.toList, ?_⟩
    simp [← hcs, htext, opening]
  | case2 cs before rest hopened hclosed =>
    rw [Text.cutAt?_eq_none_iff (by decide), List.singleton_infix_iff] at hclosed
    exact ⟨plain text, unclosed_of_cutAt? (hcs ▸ hopened) hclosed, rfl⟩
  | case3 cs before rest hopened name after hclosed ih =>
    obtain ⟨more, hmore, hafter⟩ := ih (String.ofList after) String.toList_ofList
    have hname := Text.not_infix_of_cutAt? (by decide) hclosed
    rw [List.singleton_infix_iff] at hname
    refine ⟨slot (String.ofList before) (String.ofList name) more, ⟨?_, ?_, hmore⟩, ?_⟩
    · rw [String.toList_ofList]
      exact Text.not_infix_of_cutAt? (by decide) hopened
    · rwa [String.toList_ofList]
    · apply String.toList_inj.mp
      rw [toList_slot, hafter, hcs, Text.eq_append_of_cutAt? hopened,
        Text.eq_append_of_cutAt? hclosed]
      simp

end Template

open Template

variable {text : String}

theorem interpolate_of_unclosed (p : Properties) (h : Unclosed text) :
    p.interpolate text = text := by
  rw [interpolate, interpolateChars]
  split
  · exact String.ofList_toList
  · rename_i before rest hopened
    have hrest : '\x7d' ∉ rest := by
      refine String.toList_ofList (l := rest) ▸ h (String.ofList before) (String.ofList rest) ?_
      apply String.toList_inj.mp
      rw [Text.eq_append_of_cutAt? hopened]
      simp [opening]
    rw [Text.cutAt?_eq_none hrest]
    exact String.ofList_toList

theorem ofList_referenceValue (p : Properties) (name : String) :
    String.ofList (p.referenceValue name.toList) = (p.get? name).getD (reference name) := by
  rw [referenceValue, String.ofList_toList]
  cases p.get? name with
  | some value => exact String.ofList_toList
  | none =>
    apply String.toList_inj.mp
    simp [reference, opening]

/-- The value of the first reference stands in its place, and only what follows it is read on. -/
theorem interpolate_slot (p : Properties) {literal name : String} {more : Template}
    (h : (slot literal name more).Proper) :
    p.interpolate (slot literal name more).text =
      literal ++ (p.get? name).getD (reference name) ++ p.interpolate more.text := by
  rw [interpolate, interpolateChars, cutAt?_slot h]
  dsimp only
  rw [Text.cutAt?_append_cons h.2.1]
  dsimp only
  rw [String.ofList_append, String.ofList_append, String.ofList_toList, ofList_referenceValue]
  rfl

theorem interpolate_text (p : Properties) {t : Template} (h : t.Proper) :
    p.interpolate t.text = t.filled p := by
  induction t with
  | plain text => exact interpolate_of_unclosed p h
  | slot literal name more ih => rw [interpolate_slot p h, ih h.2.2, Template.filled]

/-- A text has one proper template, and this is what is filled, whatever the values in the map
are. -/
theorem interpolate_template (text : String) :
    (∃! t : Template, t.Proper ∧ t.text = text) ∧
      ∀ t : Template, t.Proper → t.text = text →
        ∀ p : Properties, p.interpolate text = t.filled p := by
  obtain ⟨t, ht, htext⟩ := exists_proper text
  refine ⟨⟨t, ⟨ht, htext⟩, fun u hu => hu.1.unique ht (hu.2.trans htext.symm)⟩, ?_⟩
  rintro u hu rfl p
  exact interpolate_text p hu

/-- Values that refer to each other stand where they were brought in, and of two dollar signs only
the second one opens a reference. -/
theorem interpolate_template_selfReferring :
    let t := slot "$" "a" (slot "" "b" (slot "/" "" (plain "-$\x7bb")))
    let p := ofList [("a", "$\x7bb\x7d"), ("b", "$\x7ba\x7d")]
    t.Proper ∧ t.text = "$$\x7ba\x7d$\x7bb\x7d/$\x7b\x7d-$\x7bb" ∧
      p.interpolate "$$\x7ba\x7d$\x7bb\x7d/$\x7b\x7d-$\x7bb" =
        "$$\x7bb\x7d$\x7ba\x7d/$\x7b\x7d-$\x7bb" := by
  intro t p
  have hopened : Text.cutAt? opening "-$\x7bb".toList = some (['-'], ['b']) := by decide
  have htail : Unclosed "-$\x7bb" := unclosed_of_cutAt? hopened (by decide)
  have ht : t.Proper :=
    ⟨by decide, by decide, by decide, by decide, by decide, by decide, htail⟩
  have htext : t.text = "$$\x7ba\x7d$\x7bb\x7d/$\x7b\x7d-$\x7bb" := by decide
  refine ⟨ht, htext, ?_⟩
  rw [(interpolate_template _).2 t ht htext p]
  decide +kernel

end Depot.Properties
