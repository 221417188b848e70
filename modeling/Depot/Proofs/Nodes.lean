import Depot.Keyed
import Depot.Toml.Value
import Mathlib.Data.List.Forall2

/-! What is where in a value. A value is its node, which is all of it but what is inside, and the
values directly in it; the nodes at all places make it up (`eq_of_node?`). Replacing texts keeps
every node but those of the texts (`node?_mapTexts`), so two values that come from one by replacing
texts are alike: they differ in texts only. -/

namespace Depot.Toml.Value

/-- What a value is apart from the values in it: of an array there is the length, of a table the
keys in their order. -/
inductive Node where
  | text (content : String)
  | integer (n : Int)
  | float (literal : String)
  | boolean (b : Bool)
  | moment (normalForm : String)
  | array (length : Nat)
  | table (keys : List String)
deriving DecidableEq, Repr

/-- The node with the content replaced if it is a text. -/
def Node.mapText (f : String → String) : Node → Node
  | text content => text (f content)
  | other => other

def node : Value → Node
  | text content => .text content
  | integer n => .integer n
  | float literal => .float literal
  | boolean b => .boolean b
  | moment normalForm => .moment normalForm
  | array items => .array items.length
  | table entries => .table (entries.map Prod.fst)

/-- The values directly in a value. -/
def parts : Value → List Value
  | array items => items
  | table entries => entries.map Prod.snd
  | _ => []

/-- The node at a place, to which one position leads for each step inwards. -/
def node? (v : Value) : List Nat → Option Node
  | [] => some v.node
  | i :: place => v.parts[i]?.bind fun part => part.node? place

variable {v w : Value}

theorem eq_of_node_eq (hnode : v.node = w.node) (hparts : v.parts = w.parts) : v = w := by
  cases v with
  | array items =>
    cases w with
    | array items' => exact congrArg array hparts
    | _ => cases hnode
  | table entries =>
    cases w with
    | table entries' =>
      have hentries := List.zip_of_prod (Node.table.inj hnode) hparts
      exact congrArg table (hentries.trans (List.zip_of_prod rfl rfl).symm)
    | _ => cases hnode
  | _ =>
    cases w <;> cases hnode
    rfl

theorem sizeOf_lt_of_mem_parts {part : Value} (h : part ∈ v.parts) : sizeOf part < sizeOf v := by
  cases v with
  | array items =>
    have hitem : sizeOf part < sizeOf items := List.sizeOf_lt_of_mem h
    rw [array.sizeOf_spec]
    omega
  | table entries =>
    obtain ⟨⟨key, _⟩, hentry, rfl⟩ := List.mem_map.mp h
    have hless := List.sizeOf_lt_of_mem hentry
    rw [Prod.mk.sizeOf_spec] at hless
    rw [table.sizeOf_spec]
    dsimp only
    omega
  | _ => cases h

/-- What holds of a value when it holds of all that is directly in it holds of every value. -/
theorem induction_parts {motive : Value → Prop}
    (step : ∀ v, (∀ part ∈ v.parts, motive part) → motive v) (v : Value) : motive v :=
  step v fun part _ => induction_parts step part
termination_by sizeOf v
decreasing_by exact sizeOf_lt_of_mem_parts ‹_›

/-- Of two values whose nodes look the same at all places, so do the values directly in them. -/
theorem forall₂_parts {α : Type} {look : Node → α}
    (h : ∀ place, (v.node? place).map look = (w.node? place).map look) :
    List.Forall₂ (fun a b => ∀ place, (a.node? place).map look = (b.node? place).map look)
      v.parts w.parts := by
  have hinside : ∀ (i : Nat) (place : List Nat),
      (v.parts[i]?.bind fun part => part.node? place).map look =
        (w.parts[i]?.bind fun part => part.node? place).map look := fun i place => h (i :: place)
  generalize v.parts = parts at hinside ⊢
  generalize w.parts = parts' at hinside ⊢
  induction parts generalizing parts' with
  | nil =>
    cases parts' with
    | nil => exact .nil
    | cons b parts' => cases hinside 0 []
  | cons a parts ih =>
    cases parts' with
    | nil => cases hinside 0 []
    | cons b parts' => exact .cons (hinside 0) (ih parts' fun i => hinside (i + 1))

/-- A value is made up of the nodes at all places. -/
theorem eq_of_node? (h : ∀ place, v.node? place = w.node? place) : v = w := by
  induction v using induction_parts generalizing w with
  | step v ih =>
    have hparts := forall₂_parts fun place => congrArg (Option.map (id : Node → Node)) (h place)
    obtain ⟨hlength, hget⟩ := List.forall₂_iff_get.mp hparts
    refine eq_of_node_eq (Option.some.inj (h [])) (List.ext_get hlength fun i hv hw => ?_)
    exact ih _ (List.get_mem _ _) (by simpa using hget i hv hw)

/-! ### Texts and moments replaced -/

/-- What turns the node of a value, and goes on with what is directly in it, turns the node at every
place. -/
theorem node?_turned {r : Value → Value} {g : Node → Node}
    (hnode : ∀ v, (r v).node = g v.node) (hparts : ∀ v, (r v).parts = v.parts.map r) (v : Value)
    (place : List Nat) : (r v).node? place = (v.node? place).map g := by
  induction place generalizing v with
  | nil => exact congrArg some (hnode v)
  | cons i place ih =>
    rw [node?, node?, hparts, List.getElem?_map]
    cases v.parts[i]? with
    | none => rfl
    | some part => exact ih part

theorem mapItems_eq_map (f : String → String) (items : List Value) :
    mapItems f items = items.map (mapTexts f) := by
  induction items with
  | nil => rfl
  | cons v rest ih => rw [mapItems, ih, List.map_cons]

theorem mapEntries_eq_map (f : String → String) (entries : List (String × Value)) :
    mapEntries f entries = entries.map fun e => (e.1, e.2.mapTexts f) := by
  induction entries with
  | nil => rfl
  | cons e rest ih => rw [mapEntries, mapEntry, ih, List.map_cons]

/-- Replacing texts changes the nodes of the texts, and nothing else at any place. -/
theorem node?_mapTexts (f : String → String) (v : Value) (place : List Nat) :
    (v.mapTexts f).node? place = (v.node? place).map (Node.mapText f) := by
  refine node?_turned (fun v => ?_) (fun v => ?_) v place
  · cases v with
    | array items => simp [mapTexts, node, Node.mapText, mapItems_eq_map]
    | table entries => simp [mapTexts, node, Node.mapText, mapEntries_eq_map]
    | _ => rfl
  · cases v with
    | array items => exact mapItems_eq_map f items
    | table entries => simp [mapTexts, parts, mapEntries_eq_map]
    | _ => rfl

theorem mapMomentItems_eq_map (f : String → Value) (items : List Value) :
    mapMomentItems f items = items.map (mapMoments f) := by
  induction items with
  | nil => rfl
  | cons v rest ih => rw [mapMomentItems, ih, List.map_cons]

theorem mapMomentEntries_eq_map (f : String → Value) (entries : List (String × Value)) :
    mapMomentEntries f entries = entries.map fun e => (e.1, e.2.mapMoments f) := by
  induction entries with
  | nil => rfl
  | cons e rest ih => rw [mapMomentEntries, mapMomentEntry, ih, List.map_cons]

/-- The node of a moment as that of a text. -/
def Node.spell : Node → Node
  | moment normalForm => text normalForm
  | other => other

theorem node?_mapMoments_text (v : Value) (place : List Nat) :
    (v.mapMoments text).node? place = (v.node? place).map Node.spell := by
  refine node?_turned (fun v => ?_) (fun v => ?_) v place
  · cases v with
    | array items => simp [mapMoments, node, Node.spell, mapMomentItems_eq_map]
    | table entries => simp [mapMoments, node, Node.spell, mapMomentEntries_eq_map]
    | _ => rfl
  · cases v with
    | array items => exact mapMomentItems_eq_map text items
    | table entries => simp [mapMoments, parts, mapMomentEntries_eq_map]
    | _ => rfl

/-! ### Likeness -/

/-- The node without the content of a text. -/
def Node.blank : Node → Node :=
  Node.mapText fun _ => ""

/-- Two values that differ in the contents of texts only. -/
def Alike (v w : Value) : Prop :=
  ∀ place, (v.node? place).map Node.blank = (w.node? place).map Node.blank

theorem Alike.node (h : v.Alike w) : v.node.blank = w.node.blank :=
  Option.some.inj (h [])

theorem Alike.parts (h : v.Alike w) : List.Forall₂ Alike v.parts w.parts :=
  forall₂_parts h

/-- Whatever replaces the texts of one value, the values are alike, also when each moment is a text
afterwards. -/
theorem alike_mapMoments_mapTexts (f g : String → String) (v : Value) :
    ((v.mapTexts f).mapMoments text).Alike ((v.mapTexts g).mapMoments text) := by
  intro place
  simp only [node?_mapMoments_text, node?_mapTexts, Option.map_map]
  refine congrArg (Option.map · _) (funext fun node => ?_)
  cases node <;> rfl

/-- At a position of two arrays that are alike there are values that are, or none. -/
theorem Alike.rel_getElem? {items items' : List Value} (h : (array items).Alike (array items'))
    (i : Nat) : Option.Rel Alike items[i]? items'[i]? := by
  have hparts : List.Forall₂ Alike items items' := h.parts
  clear h
  induction hparts generalizing i with
  | nil => exact .none
  | cons hpart _ ih =>
    cases i with
    | zero => exact .some hpart
    | succ i => exact ih i

/-- Under a key of two tables that are alike there are values that are, or none. -/
theorem Alike.rel_lookup {entries entries' : List (String × Value)}
    (h : (table entries).Alike (table entries')) (name : String) :
    Option.Rel Alike (entries.lookup name) (entries'.lookup name) := by
  have hkeys : entries.map Prod.fst = entries'.map Prod.fst := Node.table.inj h.node
  have hparts : List.Forall₂ Alike (entries.map Prod.snd) (entries'.map Prod.snd) := h.parts
  clear h
  induction entries generalizing entries' with
  | nil =>
    rw [List.map_eq_nil_iff.mp hkeys.symm]
    exact .none
  | cons e entries ih =>
    obtain ⟨key, part⟩ := e
    cases entries' with
    | nil => cases hkeys
    | cons e' entries' =>
      obtain ⟨key', part'⟩ := e'
      obtain ⟨hkey : key = key', hkeys⟩ := List.cons.inj hkeys
      obtain ⟨hpart, hparts⟩ := List.forall₂_cons.mp hparts
      rw [Keyed.lookup_cons, Keyed.lookup_cons, hkey]
      split_ifs
      · exact .some hpart
      · exact ih hkeys hparts

end Depot.Toml.Value
