import Depot.FileSystem
import Depot.Proofs.Cutting
import Depot.Proofs.Succeeding
import Mathlib.Data.List.Induction
import Mathlib.Tactic.SplitIfs

/-! Resolving paths as they are written. Names are taken one by one (`Resolved.step`): a dot stays, two
dots take the last name back, or go one level up when there is none. A path that is joined to a base
goes so many levels up from where the base leads and then down its own names (`Path.resolved_join`),
and it ends strictly below the base when it comes back the way it went up and goes on
(`Resolved.below_follow_iff`). Where the file system finds a path, it finds it where the path resolves
to (`FileSystem.placeOf_of_locate`). -/

namespace Depot

namespace Path

/-- The names between the slashes, empty ones left out. -/
def stepsOf (cs : List Char) : List (List Char) :=
  (cs.splitOn '/').filter (· != [])

theorem stepsOf_nil : stepsOf [] = [] := rfl

theorem stepsOf_append (cs cs' : List Char) :
    stepsOf (cs ++ '/' :: cs') = stepsOf cs ++ stepsOf cs' := by
  rw [stepsOf, List.splitOn_append_cons_self, List.filter_append]
  rfl

theorem slash_not_mem_of_mem_splitOn {cs part : List Char} (h : part ∈ cs.splitOn '/') :
    '/' ∉ part :=
  fun hslash => (Text.mem_of_mem_splitOn h hslash).2 rfl

/-- The names between the slashes of a path, empty ones left out. -/
def steps (p : Path) : List String :=
  (stepsOf p.text.toList).map String.ofList

theorem filter_pieces (text : String) :
    (Text.pieces '/' text).filter (· != "") = steps ⟨text⟩ := by
  rw [Text.pieces, steps, stepsOf, List.filter_map]
  congr 1
  apply List.filter_congr
  intro part _
  rw [Bool.eq_iff_iff]
  simp

theorem steps_append_slash (before after : String) :
    steps ⟨before ++ "/" ++ after⟩ = steps ⟨before⟩ ++ steps ⟨after⟩ := by
  simp only [steps, String.toList_append]
  rw [← List.map_append, ← stepsOf_append, List.append_assoc]
  rfl

theorem steps_of_unslashed {name : String} (h : '/' ∉ name.toList) :
    steps ⟨name⟩ = [name].filter (· != "") := by
  rw [← filter_pieces, Text.pieces_eq_singleton h]

variable {base path : Path}

theorem steps_join (h : path.isAbsolute = false) :
    (base.join path).steps = base.steps ++ path.steps := by
  unfold join
  rw [h, if_neg Bool.false_ne_true]
  split
  · rename_i hjoined
    by_cases hempty : base.text = ""
    · simp only [steps, hempty, String.empty_append]
      rfl
    · have hslash : base.text.toList.getLast? = some '/' := by
        simpa [hempty, endsInSlash] using hjoined
      obtain ⟨before, hbefore⟩ := List.getLast?_eq_some_iff.mp hslash
      simp only [steps, String.toList_append]
      rw [hbefore, List.append_assoc, List.singleton_append, stepsOf_append, stepsOf_append,
        stepsOf_nil, List.append_nil, List.map_append]
  · exact steps_append_slash base.text path.text

theorem isAbsolute_join (h : path.isAbsolute = false) :
    (base.join path).isAbsolute = base.isAbsolute := by
  unfold join
  rw [h, if_neg Bool.false_ne_true]
  unfold isAbsolute at h ⊢
  cases htext : base.text.toList with
  | nil =>
    have hempty : base.text = "" := by simpa using htext
    simpa [hempty] using h
  | cons c cs => split <;> simp [htext]

/-- A path that goes down names without slashes is relative, and its steps are the names. -/
theorem steps_ofNames {names : List String} (h : ∀ name ∈ names, '/' ∉ name.toList) :
    (ofNames names).isAbsolute = false ∧ (ofNames names).steps = names.filter (· != "") := by
  induction names using List.reverseRecOn with
  | nil => exact ⟨rfl, rfl⟩
  | append_singleton names name ih =>
    obtain ⟨hrelative, hsteps⟩ := ih fun other hother => h other (List.mem_append_left _ hother)
    have hslash : '/' ∉ name.toList := h name (List.mem_append_right _ List.mem_cons_self)
    have hname : (Path.mk name).isAbsolute = false := by
      apply Bool.eq_false_iff.mpr
      intro habsolute
      exact hslash (List.mem_of_head? (by simpa [isAbsolute] using habsolute))
    have hconcat : ofNames (names ++ [name]) = (ofNames names).join ⟨name⟩ := by
      rw [ofNames, List.foldl_append]
      rfl
    rw [hconcat, isAbsolute_join hname, steps_join hname, hsteps, steps_of_unslashed hslash,
      List.filter_append]
    exact ⟨hrelative, rfl⟩

/-- The path that goes down the pieces of a text has the names of the text, and is relative even if
the text is not. -/
theorem steps_ofNames_pieces (text : String) : (ofNames (Text.pieces '/' text)).isAbsolute = false ∧
    (ofNames (Text.pieces '/' text)).steps = steps ⟨text⟩ := by
  rw [← filter_pieces text]
  apply steps_ofNames
  intro name hname
  obtain ⟨part, hpart, rfl⟩ := List.mem_map.mp hname
  rw [String.toList_ofList]
  exact slash_not_mem_of_mem_splitOn hpart

end Path

/-- Where a path leads when its dots are resolved: so many levels up from where it starts, and from
there down the names. Nothing is above the root. -/
structure Resolved where
  rooted : Bool
  up : Nat := 0
  names : List String := []
deriving DecidableEq, Repr

namespace Resolved

def step (d : Resolved) (name : String) : Resolved :=
  if name = "." then d
  else if name = ".." then
    if d.names ≠ [] then { d with names := d.names.dropLast }
    else if d.rooted then d
    else { d with up := d.up + 1 }
  else { d with names := d.names ++ [name] }

/-- So many levels further up. -/
def climb (d : Resolved) (levels : Nat) : Resolved :=
  { d with
    up := if d.rooted then d.up else d.up + (levels - d.names.length)
    names := d.names.take (d.names.length - levels) }

/-- Where a relative path leads from there. -/
def follow (d relative : Resolved) : Resolved :=
  { d.climb relative.up with names := (d.climb relative.up).names ++ relative.names }

/-- Strictly below the base. -/
structure Below (d base : Resolved) : Prop where
  rooted : d.rooted = base.rooted
  up : d.up = base.up
  begins : base.names <+: d.names
  further : base.names.length < d.names.length

instance (d base : Resolved) : Decidable (d.Below base) :=
  decidable_of_iff (d.rooted = base.rooted ∧ d.up = base.up ∧ base.names <+: d.names ∧
      base.names.length < d.names.length)
    ⟨fun ⟨rooted, up, begins, further⟩ => ⟨rooted, up, begins, further⟩,
      fun ⟨rooted, up, begins, further⟩ => ⟨rooted, up, begins, further⟩⟩

variable {d relative : Resolved} {name : String}

theorem name_cases (name : String) :
    name = "." ∨ name = ".." ∨ FileSystem.isRelativeName name = false := by
  by_cases hdot : name = "."
  · exact .inl hdot
  · by_cases hdots : name = ".."
    · exact .inr (.inl hdots)
    · exact .inr (.inr (by simp [FileSystem.isRelativeName, hdot, hdots]))

theorem rooted_step : (d.step name).rooted = d.rooted := by
  unfold step
  split_ifs <;> rfl

theorem rooted_foldl (d : Resolved) (steps : List String) :
    (steps.foldl step d).rooted = d.rooted := by
  induction steps generalizing d with
  | nil => rfl
  | cons name steps ih => rw [List.foldl_cons, ih, rooted_step]

theorem step_dot (d : Resolved) : d.step "." = d := rfl

theorem step_back (h : d.names ≠ []) : d.step ".." = { d with names := d.names.dropLast } :=
  if_pos h

theorem step_out (h : d.names = []) :
    d.step ".." = { d with up := if d.rooted then d.up else d.up + 1 } := by
  refine (if_neg (not_not.mpr h)).trans ?_
  split <;> rfl

theorem step_down (h : FileSystem.isRelativeName name = false) :
    d.step name = { d with names := d.names ++ [name] } := by
  obtain ⟨hdot, hdots⟩ : name ≠ "." ∧ name ≠ ".." := by simpa [FileSystem.isRelativeName] using h
  rw [step, if_neg hdot, if_neg hdots]

theorem climb_of_le {levels : Nat} (h : levels ≤ d.names.length) :
    d.climb levels = { d with names := d.names.take (d.names.length - levels) } := by
  rw [climb, Nat.sub_eq_zero_of_le h, Nat.add_zero, ite_self]

theorem climb_of_ge {levels : Nat} (h : d.names.length ≤ levels) : d.climb levels =
    { d with
      up := if d.rooted then d.up else d.up + (levels - d.names.length)
      names := [] } := by
  rw [climb, Nat.sub_eq_zero_of_le h, List.take_zero]

theorem follow_of_inside (h : relative.up = 0) :
    d.follow relative = { d with names := d.names ++ relative.names } := by
  rw [follow, h, climb_of_le (Nat.zero_le _), Nat.sub_zero, List.take_length]

theorem step_climb (d : Resolved) (levels : Nat) :
    (d.climb levels).step ".." = d.climb (levels + 1) := by
  -- While there are names, one more is taken back; after that the levels count.
  rcases Nat.lt_or_ge levels d.names.length with hinside | houtside
  · have hlength : (d.names.take (d.names.length - levels)).length = d.names.length - levels :=
      List.length_take_of_le (Nat.sub_le _ _)
    have hnames : d.names.take (d.names.length - levels) ≠ [] := by
      rw [← List.length_pos_iff, hlength]
      omega
    rw [climb_of_le (Nat.le_of_lt hinside), climb_of_le hinside, step_back hnames,
      List.dropLast_eq_take, hlength, List.take_take, Nat.sub_sub]
    rw [Nat.min_eq_left (by omega)]
  · rw [climb_of_ge houtside, climb_of_ge (Nat.le_succ_of_le houtside), step_out rfl]
    split
    · rfl
    · rw [Nat.add_assoc, ← Nat.sub_add_comm houtside]

theorem step_follow (h : relative.rooted = false) (name : String) :
    (d.follow relative).step name = d.follow (relative.step name) := by
  obtain rfl | rfl | hdown := name_cases name
  · rw [step_dot, step_dot]
  · by_cases hnames : relative.names = []
    · rw [step_out hnames, h, follow, follow, hnames, List.append_nil, List.append_nil]
      exact step_climb d relative.up
    · rw [step_back hnames, follow, step_back (List.append_ne_nil_of_right_ne_nil _ hnames),
        List.dropLast_append_of_ne_nil hnames]
      rfl
  · rw [step_down hdown, step_down hdown, follow, follow, List.append_assoc]

/-- A relative path is followed as if its names were taken one by one from there. -/
theorem foldl_step (d : Resolved) (steps : List String) :
    steps.foldl step d = d.follow (steps.foldl step { rooted := false }) := by
  -- From the end: the last name is a step from where the others lead, in both folds.
  induction steps using List.reverseRecOn with
  | nil =>
    rw [List.foldl_nil, List.foldl_nil, follow_of_inside rfl, List.append_nil]
  | append_singleton steps name ih =>
    rw [List.foldl_append, List.foldl_append, ih]
    exact step_follow (rooted_foldl _ _) name

/-- A relative path comes back into the base by the names by which it left it, and goes on. It does
not go up further than the names of the base, or the base is at the root. -/
structure ComesBack (relative base : Resolved) : Prop where
  within : base.rooted = true ∨ relative.up ≤ base.names.length
  back : base.names.drop (base.names.length - relative.up) <+: relative.names
  further : min relative.up base.names.length < relative.names.length

theorem below_follow_iff : (d.follow relative).Below d ↔ relative.ComesBack d := by
  have hup : (d.follow relative).up = d.up ↔
      d.rooted = true ∨ relative.up ≤ d.names.length := by
    rw [follow, climb]
    split
    · rename_i hrooted
      exact iff_of_true rfl (.inl hrooted)
    · rename_i hfree
      rw [Nat.add_eq_left, Nat.sub_eq_zero_iff_le]
      simp [hfree]
  have hbegins : d.names <+: (d.follow relative).names ↔
      d.names.drop (d.names.length - relative.up) <+: relative.names := by
    refine Iff.trans ?_
      (List.prefix_append_right_inj (d.names.take (d.names.length - relative.up)))
    rw [List.take_append_drop]
    rfl
  have hfurther : d.names.length < (d.follow relative).names.length ↔
      min relative.up d.names.length < relative.names.length := by
    rw [follow, climb, List.length_append, List.length_take]
    omega
  constructor
  · intro h
    exact ⟨hup.mp h.up, hbegins.mp h.begins, hfurther.mp h.further⟩
  · intro h
    exact ⟨rfl, hup.mpr h.within, hbegins.mpr h.back, hfurther.mpr h.further⟩

end Resolved

namespace Path

/-- The path with its dots resolved. -/
def resolved (p : Path) : Resolved :=
  p.steps.foldl Resolved.step { rooted := p.isAbsolute }

theorem resolved_join {base path : Path} (h : path.isAbsolute = false) :
    (base.join path).resolved = base.resolved.follow path.resolved := by
  unfold resolved
  rw [steps_join h, isAbsolute_join h, List.foldl_append, Resolved.foldl_step, h]

end Path

namespace FileSystem

variable {fs : FileSystem} {l t : Location} {p base path : Path} {ns : List String}

theorem names_eq_ok_iff : names p = .ok ns ↔
    '\x00' ∉ p.text.toList ∧ p.text ≠ "" ∧ p.text.utf8ByteSize ≤ pathLimit ∧
      ns = p.steps := by
  unfold names
  rw [Path.filter_pieces]
  split_ifs with hnul hempty hlong
  · simp_all
  · simp_all
  · constructor
    · exact nofun
    · rintro ⟨-, -, hshort, -⟩
      exact absurd hshort (Nat.not_le.mpr hlong)
  · constructor
    · intro h
      exact ⟨by simpa using hnul, hempty, Nat.le_of_not_lt hlong, (Except.ok.inj h).symm⟩
    · rintro ⟨-, -, -, rfl⟩
      rfl

theorem locate_eq_ok (h : fs.locate p = .ok l) :
    ∃ ns, names p = .ok ns ∧ fs.walk (fs.origin p) ns = .ok l := by
  obtain ⟨ns, hnames, h⟩ := Succeeding.bind_eq_ok.mp h
  obtain ⟨found, hwalk, h⟩ := Succeeding.bind_eq_ok.mp h
  split_ifs at h
  obtain rfl := Except.ok.inj h
  exact ⟨ns, hnames, hwalk⟩

/-- Where a path leads if all that it names is there. -/
def placeOf (fs : FileSystem) (p : Path) : Location :=
  (p.steps.foldl Resolved.step { rooted := true, names := fs.origin p }).names

/-- The location is strictly below the place of the path. -/
def Under (fs : FileSystem) (base : Path) (l : Location) : Prop :=
  ∃ rest, rest ≠ [] ∧ l = fs.placeOf base ++ rest

theorem placeOf_congr {left : FileSystem} (h : left.workingDirectory = fs.workingDirectory)
    (p : Path) : left.placeOf p = fs.placeOf p := by
  rw [placeOf, placeOf, origin, origin, h]

theorem resolved_of_step {name : String} (h : fs.step l name = .ok t) :
    Resolved.step { rooted := true, names := l } name = { rooted := true, names := t } := by
  unfold step at h
  split at h
  · split_ifs at h with hdot hdots hlong hthere
    · obtain rfl := Except.ok.inj h
      rw [hdot, Resolved.step_dot]
    · obtain rfl := Except.ok.inj h
      rw [hdots]
      by_cases hroot : l = []
      · rw [Resolved.step_out hroot, hroot]
        rfl
      · rw [Resolved.step_back hroot]
    · obtain rfl := Except.ok.inj h
      exact Resolved.step_down (by simp [isRelativeName, hdot, hdots])
  · cases h

theorem resolved_of_walk {ns : List String} (h : fs.walk l ns = .ok t) :
    ns.foldl Resolved.step { rooted := true, names := l } = { rooted := true, names := t } := by
  induction ns generalizing l with
  | nil =>
    obtain rfl := Except.ok.inj h
    rfl
  | cons name ns ih =>
    rw [walk, List.foldlM_cons] at h
    obtain ⟨next, hstep, hrest⟩ := Succeeding.bind_eq_ok.mp h
    rw [List.foldl_cons, resolved_of_step hstep, ih hrest]

theorem placeOf_of_locate (h : fs.locate p = .ok l) : fs.placeOf p = l := by
  obtain ⟨ns, hnames, hwalk⟩ := locate_eq_ok h
  obtain ⟨-, -, -, rfl⟩ := names_eq_ok_iff.mp hnames
  rw [placeOf, resolved_of_walk hwalk]

/-- A path that does not go up leads on from its base. -/
theorem placeOf_join (h : path.isAbsolute = false) (hup : path.resolved.up = 0) :
    fs.placeOf (base.join path) = fs.placeOf base ++ path.resolved.names := by
  unfold placeOf origin
  unfold Path.resolved at hup ⊢
  rw [h] at hup ⊢
  rw [Path.steps_join h, Path.isAbsolute_join h, List.foldl_append, Resolved.foldl_step,
    Resolved.follow_of_inside hup]

end FileSystem

end Depot
