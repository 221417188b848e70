import Depot.Overrides
import Mathlib.Data.List.Basic

/-! What becomes of a draft. Of several changes of one thing the last counts and changes of different
things pass each other, so what is built depends on no other order; and what is built is built again
when it is taken back to a draft as it is (`built_settled`). A draft that is taken back has the local
repository for its own that building took from the properties, so a change of the properties comes too
late for it: this is all by which deriving differs from changing first (`derived_keeps_filled`). -/

namespace Depot.Overrides

/-! ### Orders of changes -/

/-- Changes of one and the same thing, there being one constructor for each. -/
def Change.Alike (c c' : Change) : Prop :=
  c.ctorIdx = c'.ctorIdx

instance (c c' : Change) : Decidable (c.Alike c') :=
  inferInstanceAs (Decidable (_ = _))

namespace Draft

/-- Of two changes of one thing the second counts. -/
theorem change_of_alike (d : Draft) {c c' : Change} (h : c.Alike c') :
    (d.change c).change c' = d.change c' := by
  -- Each constructor writes a field of its own, so only one and the same constructor is alike.
  cases c <;> cases c' <;> first | rfl | cases h

/-- Changes of different things can be made in either order. -/
theorem change_comm (d : Draft) {c c' : Change} (h : ¬c.Alike c') :
    (d.change c).change c' = (d.change c').change c := by
  cases c <;> cases c' <;> first | rfl | exact absurd rfl h

theorem changeAll_append (d : Draft) (changes more : List Change) :
    d.changeAll (changes ++ more) = (d.changeAll changes).changeAll more :=
  List.foldl_append ..

/-- A change passes all changes of other things. -/
theorem changeAll_change (d : Draft) {c : Change} {changes : List Change}
    (h : ∀ c' ∈ changes, ¬c.Alike c') :
    (d.change c).changeAll changes = (d.changeAll changes).change c := by
  induction changes generalizing d with
  | nil => rfl
  | cons c' rest ih =>
    obtain ⟨hc', hrest⟩ := List.forall_mem_cons.mp h
    calc (d.change c).changeAll (c' :: rest)
        = ((d.change c').change c).changeAll rest := congrArg (changeAll · rest) (d.change_comm hc')
      _ = (d.changeAll (c' :: rest)).change c := ih (d.change c') hrest

/-- A change does not show when one of the same thing follows. -/
theorem changeAll_superseded (d : Draft) {c : Change} {after : List Change}
    (h : ∃ c' ∈ after, c.Alike c') : (d.change c).changeAll after = d.changeAll after := by
  induction after generalizing d with
  | nil => simp at h
  | cons c' rest ih =>
    by_cases hc' : c.Alike c'
    · exact congrArg (changeAll · rest) (d.change_of_alike hc')
    · have hrest : ∃ c' ∈ rest, c.Alike c' := by simpa [hc'] using h
      calc (d.change c).changeAll (c' :: rest)
          = ((d.change c').change c).changeAll rest :=
            congrArg (changeAll · rest) (d.change_comm hc')
        _ = d.changeAll (c' :: rest) := ih (d.change c') hrest

end Draft

/-- The same changes of each thing in the same order, whatever stands between them. -/
def Reorders (changes others : List Change) : Prop :=
  ∀ c : Change, changes.filter (c.Alike ·) = others.filter (c.Alike ·)

theorem Reorders.eq_nil {others : List Change} (h : Reorders [] others) : others = [] := by
  rw [List.eq_nil_iff_forall_not_mem]
  intro c hc
  have hfound : c ∈ others.filter (c.Alike ·) := List.mem_filter.mpr ⟨hc, by simp [Change.Alike]⟩
  rw [← h c] at hfound
  cases hfound

/-- The first change stands somewhere in the other order, with nothing of its kind before it. -/
theorem Reorders.of_cons {c : Change} {rest others : List Change} (h : Reorders (c :: rest) others) :
    ∃ before after, others = before ++ c :: after ∧ (∀ c' ∈ before, ¬c.Alike c') ∧
      Reorders rest (before ++ after) := by
  have hc := h c
  rw [List.filter_cons_of_pos (by simp [Change.Alike]), eq_comm, List.filter_eq_cons_iff] at hc
  obtain ⟨before, after, rfl, hbefore, -, -⟩ := hc
  replace hbefore : ∀ other ∈ before, ¬c.Alike other := by simpa using hbefore
  refine ⟨before, after, rfl, hbefore, fun c' => ?_⟩
  have hc' := h c'
  rw [List.filter_append] at hc' ⊢
  by_cases halike : c'.Alike c
  · -- The changes of this thing are those of `c`, of which the first is taken out on both sides.
    have hnone : before.filter (c'.Alike ·) = [] := by
      rw [List.filter_eq_nil_iff]
      intro other hother
      simpa using fun hsame : c'.Alike other => hbefore other hother (halike.symm.trans hsame)
    rw [List.filter_cons_of_pos (by simpa using halike), hnone,
      List.filter_cons_of_pos (by simpa using halike)] at hc'
    rw [hnone]
    exact (List.cons.inj hc').2
  · rwa [List.filter_cons_of_neg (by simpa using halike),
      List.filter_cons_of_neg (by simpa using halike)] at hc'

theorem Draft.changeAll_reordered (d : Draft) {changes others : List Change}
    (h : Reorders changes others) : d.changeAll changes = d.changeAll others := by
  induction changes generalizing d others with
  | nil => rw [h.eq_nil]
  | cons c rest ih =>
    obtain ⟨before, after, rfl, hbefore, hrest⟩ := h.of_cons
    calc d.changeAll (c :: rest)
        = (d.change c).changeAll (before ++ after) := ih (d.change c) hrest
      _ = ((d.change c).changeAll before).changeAll after := Draft.changeAll_append ..
      _ = ((d.changeAll before).change c).changeAll after := by rw [d.changeAll_change hbefore]
      _ = d.changeAll (before ++ c :: after) := (d.changeAll_append before (c :: after)).symm

/-! ### Building again -/

section Building

variable (host : Host) (d : Draft)

/-- The local repository that the properties of a draft name. -/
def named? : Option Path :=
  (((d.systemProperties.getD host.properties).overlay d.userProperties).filled?
    Properties.Name.localRepository).map Path.mk

theorem localRepository_build :
    (d.build host).localRepository = d.localRepository.or (named? host d) :=
  rfl

theorem toDraft_build : (d.build host).toDraft.build host = d.build host := by
  have hlocal : (d.build host).localRepository.or (named? host d) =
      (d.build host).localRepository := by
    rw [localRepository_build, Option.or_assoc, Option.or_self]
  calc (d.build host).toDraft.build host
      = { d.build host with
          localRepository := (d.build host).localRepository.or (named? host d) } := rfl
    _ = d.build host := by rw [hlocal]

/-- What is built comes out again when it is taken back to a draft. The order of changes of different
things does not matter for it, and neither does a change that a later one of the same thing follows. -/
theorem built_settled :
    (∀ changes, ((d.changeAll changes).build host).toDraft.build host =
      (d.changeAll changes).build host) ∧
    (∀ changes others, Reorders changes others →
      (d.changeAll changes).build host = (d.changeAll others).build host) ∧
    ∀ before c after, (∃ c' ∈ after, c.Alike c') →
      (d.changeAll (before ++ c :: after)).build host =
        (d.changeAll (before ++ after)).build host := by
  refine ⟨fun changes => toDraft_build host _, ?_, ?_⟩
  · intro changes others hreorders
    rw [d.changeAll_reordered hreorders]
  · intro before c after hlater
    rw [d.changeAll_append, d.changeAll_append]
    exact congrArg (Draft.build host) ((d.changeAll before).changeAll_superseded hlater)

end Building

/-- A host on which nothing is set. -/
def bareHost : Host :=
  { environment := .empty, accountHome := none, workingDirectory := none, osName := "linux"
    osFamily := "unix", architecture := "x86_64" }

/-- Properties that name a local repository. -/
def naming (path : String) : Properties :=
  Properties.empty.insert Properties.Name.localRepository path

/-- Going offline and online again is the same with other changes between, and going offline first
makes no difference. -/
theorem built_settled_switched :
    Reorders [.offline true, .userProperties (naming "a"), .offline false]
        [.offline true, .offline false, .userProperties (naming "a")] ∧
      (Draft.changeAll {} [.offline true, .userProperties (naming "a"), .offline false]).build
          bareHost =
        (Draft.changeAll {} [.offline true, .offline false, .userProperties (naming "a")]).build
          bareHost ∧
      (∃ c ∈ [.userProperties (naming "a"), .offline false], (Change.offline true).Alike c) ∧
      (Draft.changeAll {} [.offline true, .userProperties (naming "a"), .offline false]).build
          bareHost =
        (Draft.changeAll {} [.userProperties (naming "a"), .offline false]).build bareHost := by
  have hreorders : Reorders [.offline true, .userProperties (naming "a"), .offline false]
      [.offline true, .offline false, .userProperties (naming "a")] := by
    intro c
    cases c <;> rfl
  have hlater : ∃ c ∈ [.userProperties (naming "a"), .offline false],
      (Change.offline true).Alike c :=
    ⟨.offline false, by simp, rfl⟩
  exact ⟨hreorders, (built_settled bareHost {}).2.1 _ _ hreorders, hlater,
    (built_settled bareHost {}).2.2 [] _ _ hlater⟩

/-! ### Deriving -/

section Deriving

variable (host : Host) (d : Draft) (c : Change)

/-- The overrides that one more change makes of those of the draft. -/
def derived : Overrides :=
  ((d.build host).toDraft.change c).build host

/-- Whether a change is one of properties. -/
def Change.aboutProperties : Change → Bool
  | .systemProperties _ => true
  | .userProperties _ => true
  | _ => false

theorem localRepository_change (h : c.aboutProperties = true) :
    (d.change c).localRepository = d.localRepository := by
  cases c <;> first | rfl | cases h

/-- Deriving finds the local repository that was built before the one that is named now. -/
theorem derived_of_properties (h : c.aboutProperties = true) :
    derived host d c =
      { (d.change c).build host with
        localRepository :=
          (d.build host).localRepository.or ((d.change c).build host).localRepository } := by
  have hlocal : (d.build host).localRepository.or ((d.change c).build host).localRepository =
      (d.build host).localRepository.or (named? host (d.change c)) := by
    rw [localRepository_build, localRepository_build, localRepository_change d c h]
    cases d.localRepository <;> rfl
  rw [hlocal]
  cases c <;> first | rfl | cases h

/-- In all other cases nothing stands in the way of the change. -/
theorem derived_of_others (h : c.aboutProperties = false) :
    derived host d c = (d.change c).build host := by
  have hbuilt := toDraft_build host (d.change c)
  cases c with
  | systemProperties p => cases h
  | userProperties p => cases h
  | localRepository path => rfl
  | _ => exact hbuilt

theorem sameAs_elsewhere (o : Overrides) (path : Option Path) :
    ({ o with localRepository := path } : Overrides).sameAs o = samePaths path o.localRepository := by
  simp [sameAs, samePaths]

/-- Deriving by one more change makes of every draft what changing first makes, except that a change of
properties leaves the local repository that was built, if any. So the two agree unless the change is one
of properties, the draft has no local repository of its own, and its properties name one that they do
not name afterwards. -/
theorem derived_keeps_filled :
    derived host d c =
        { (d.change c).build host with
          localRepository :=
            if c.aboutProperties then
              (d.build host).localRepository.or ((d.change c).build host).localRepository
            else ((d.change c).build host).localRepository } ∧
      ((derived host d c).sameAs ((d.change c).build host) = true ↔
        c.aboutProperties = false ∨ d.localRepository.isSome = true ∨ named? host d = none ∨
          samePaths (named? host d) (named? host (d.change c)) = true) := by
  cases hproperties : c.aboutProperties with
  | false =>
    rw [derived_of_others host d c hproperties]
    exact ⟨rfl, by simp [sameAs, samePaths]⟩
  | true =>
    rw [derived_of_properties host d c hproperties]
    refine ⟨rfl, ?_⟩
    rw [sameAs_elsewhere, localRepository_build, localRepository_build,
      localRepository_change d c hproperties]
    cases d.localRepository with
    | some path => simp [samePaths]
    | none => cases named? host d <;> simp [samePaths]

end Deriving

/-- Properties that name another local repository, or none any more, come too late for the one that was
built, whether it was the user's or the system's properties that named it. -/
theorem derived_misses_renamed :
    (derived bareHost
        (Draft.changeAll {} [.systemProperties .empty, .userProperties (naming "a")])
        (.userProperties (naming "b"))).sameAs
      ((Draft.changeAll {} [.systemProperties .empty, .userProperties (naming "a"),
        .userProperties (naming "b")]).build bareHost) = false ∧
    (derived bareHost (Draft.changeAll {} [.systemProperties (naming "a")])
        (.systemProperties .empty)).sameAs
      ((Draft.changeAll {} [.systemProperties (naming "a"), .systemProperties .empty]).build
        bareHost) = false := by
  decide

end Depot.Overrides
