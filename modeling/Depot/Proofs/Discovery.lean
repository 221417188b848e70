import Depot.Proofs.Ranking
import Mathlib.Data.List.Induction

/-! When sources are asked. An action consults the sources or leaves them alone (`act_step`), and
the registry remembers just enough to tell which: whether they have been consulted since the latest
reset or new source (`discovered_iff`). So asking for a provider consults them exactly when none is
listed and nothing new can have come up since they were last consulted, and then calls each of them
once, in the order in which they were added (`Disciplined`). -/

namespace Depot.Registry

namespace Action

/-- After the action there may be something new to ask the sources. -/
def renews : Action → Bool
  | addSource _ | reset => true
  | register _ | select => false

def source? : Action → Option ProviderSource
  | addSource source => some source
  | _ => none

end Action

/-- The action consults the sources, be there any or none. -/
def Consults (r : Registry) (a : Action) : Prop :=
  r.consultations < (r.act a).consultations

/-- The sources have been consulted since the latest reset or new source. -/
def Consulted (history : List Action) : Prop :=
  ∃ before a after, history = before ++ a :: after ∧ (run {} before).Consults a ∧
    ∀ b ∈ after, b.renews = false

/-- The two things that an action can come to for the sources. -/
inductive Step (r : Registry) (a : Action) (r' : Registry) : Prop where
  | consult (asks : a = .select) (unlisted : r.providers = []) (due : r.discovered = false)
      (consultations : r'.consultations = r.consultations + 1)
      (calls : r'.calls = r.calls ++ r.sources) (sources : r'.sources = r.sources)
      (discovered : r'.discovered = true)
  | spare (settled : a = .select → r.providers = [] → r.discovered = true)
      (consultations : r'.consultations = r.consultations) (calls : r'.calls = r.calls)
      (sources : r'.sources = r.sources ++ a.source?.toList)
      (discovered : r'.discovered = (r.discovered && !a.renews))

theorem act_step (r : Registry) (a : Action) : Step r a (r.act a) := by
  cases a with
  | register p =>
    have hframe : ∃ providers taken, (r.register p).2 = { r with providers, taken } :=
      r.registerAll_frame [p]
    obtain ⟨_, _, h⟩ := hframe
    rw [act, h]
    exact .spare (by simp) rfl rfl (List.append_nil _).symm (Bool.and_true _).symm
  | addSource source => exact .spare (by simp) rfl rfl rfl (Bool.and_false _).symm
  | select =>
    rw [act, select_snd, asked]
    split
    · rename_i hmust
      simp only [mustDiscover, Bool.and_eq_true, List.isEmpty_iff, Bool.not_eq_true'] at hmust
      obtain ⟨_, _, h⟩ := r.discover_frame
      rw [h]
      exact .consult rfl hmust.1 hmust.2 rfl rfl rfl rfl
    · rename_i hmust
      refine .spare ?_ rfl rfl (List.append_nil _).symm (Bool.and_true _).symm
      intro _ hnone
      simpa [mustDiscover, hnone] using hmust
  | reset => exact .spare (by simp) rfl rfl (List.append_nil _).symm (Bool.and_false _).symm

theorem consults_iff (r : Registry) (a : Action) :
    r.Consults a ↔ a = .select ∧ r.providers = [] ∧ r.discovered = false := by
  rw [Consults]
  cases r.act_step a with
  | consult asks unlisted due consultations =>
    rw [consultations]
    exact ⟨fun _ => ⟨asks, unlisted, due⟩, fun _ => Nat.lt_succ_self _⟩
  | spare settled consultations =>
    rw [consultations]
    constructor
    · intro h
      exact absurd h (Nat.lt_irrefl _)
    · rintro ⟨hasks, hnone, hdue⟩
      rw [settled hasks hnone] at hdue
      cases hdue

/-- What is remembered about the sources after an action. -/
theorem discovered_act (r : Registry) (a : Action) :
    (r.act a).discovered = true ↔ r.Consults a ∨ (r.discovered = true ∧ a.renews = false) := by
  rw [consults_iff]
  cases r.act_step a with
  | consult asks unlisted due _ _ _ discovered =>
    exact ⟨fun _ => .inl ⟨asks, unlisted, due⟩, fun _ => discovered⟩
  | spare settled _ _ _ discovered =>
    rw [discovered, Bool.and_eq_true, Bool.not_eq_true', or_iff_right]
    rintro ⟨hasks, hnone, hdue⟩
    rw [settled hasks hnone] at hdue
    cases hdue

theorem run_concat (r : Registry) (history : List Action) (a : Action) :
    r.run (history ++ [a]) = (r.run history).act a := by
  rw [run, List.foldl_concat, run]

theorem consulted_concat (history : List Action) (a : Action) :
    Consulted (history ++ [a]) ↔
      (run {} history).Consults a ∨ (Consulted history ∧ a.renews = false) := by
  constructor
  · rintro ⟨before, b, after, hsplit, hconsults, hafter⟩
    -- The consultation is the last action, or it was there before.
    rcases List.eq_nil_or_concat after with rfl | ⟨after, last, rfl⟩
    · obtain ⟨rfl, hb⟩ := List.append_inj' hsplit rfl
      obtain rfl := List.singleton_inj.mp hb
      exact .inl hconsults
    · rw [List.concat_eq_append, ← List.cons_append, ← List.append_assoc] at hsplit
      obtain ⟨rfl, hlast⟩ := List.append_inj' hsplit rfl
      obtain rfl := List.singleton_inj.mp hlast
      simp only [List.concat_eq_append, List.mem_append, List.mem_singleton] at hafter
      exact .inr ⟨⟨before, b, after, rfl, hconsults, fun c hc => hafter c (.inl hc)⟩,
        hafter a (.inr rfl)⟩
  · rintro (hconsults | ⟨⟨before, b, after, rfl, hconsults, hafter⟩, ha⟩)
    · exact ⟨history, a, [], rfl, hconsults, by simp⟩
    · refine ⟨before, b, after ++ [a], by simp, hconsults, ?_⟩
      intro c hc
      rcases List.mem_append.mp hc with hc | hc
      · exact hafter c hc
      · rw [List.mem_singleton.mp hc, ha]

theorem not_consulted_nil : ¬ Consulted [] := by
  rintro ⟨before, a, after, hsplit, -⟩
  simp at hsplit

theorem discovered_iff (history : List Action) :
    (run {} history).discovered = true ↔ Consulted history := by
  induction history using List.reverseRecOn with
  | nil => exact iff_of_false Bool.false_ne_true not_consulted_nil
  | append_singleton history a ih =>
    rw [run_concat, discovered_act, consulted_concat, ih]

/-- Sources stay, whatever is done, in the order in which they were added. -/
theorem sources_run (history : List Action) :
    (run {} history).sources = history.filterMap Action.source? := by
  induction history using List.reverseRecOn with
  | nil => rfl
  | append_singleton history a ih =>
    rw [run_concat, List.filterMap_append, ← ih]
    cases (run {} history).act_step a with
    | consult asks _ _ _ _ sources =>
      rw [sources, asks]
      exact (List.append_nil _).symm
    | spare _ _ _ sources =>
      rw [sources]
      cases a <;> rfl

/-! ### Asking -/

theorem calls_act_of_consults {r : Registry} {a : Action} (h : r.Consults a) :
    (r.act a).calls = r.calls ++ r.sources := by
  cases r.act_step a with
  | consult _ _ _ _ calls => exact calls
  | spare _ consultations =>
    rw [Consults, consultations] at h
    exact absurd h (Nat.lt_irrefl _)

theorem calls_act_of_not_consults {r : Registry} {a : Action} (h : ¬ r.Consults a) :
    (r.act a).calls = r.calls := by
  cases r.act_step a with
  | consult asks unlisted due => exact absurd ((r.consults_iff a).mpr ⟨asks, unlisted, due⟩) h
  | spare _ _ calls => exact calls

/-- Asking fails exactly when no provider is listed in the end. -/
theorem select_fst (r : Registry) : r.select.1 =
    match (r.act .select).providers.head? with
    | some provider => .ok provider
    | none => .error .noProvider := by
  rw [act, select_snd]
  unfold select
  cases r.asked.providers <;> rfl

theorem select_error_iff (r : Registry) (cause : ContextError) : r.select.1 = .error cause ↔
    (r.act .select).providers = [] ∧ cause = .noProvider := by
  rw [select_fst]
  cases (r.act .select).providers with
  | nil => simp [eq_comm]
  | cons first rest => simp

/-- How the registry that has this history treats its sources. -/
structure Disciplined (history : List Action) (r : Registry) : Prop where
  consults : ∀ a, r.Consults a ↔ a = .select ∧ r.providers = [] ∧ ¬ Consulted history
  calls : ∀ a, r.Consults a → (r.act a).calls = r.calls ++ r.sources
  silent : ∀ a, ¬ r.Consults a → (r.act a).calls = r.calls
  sources : r.sources = history.filterMap Action.source?
  fails : ∀ cause, r.select.1 = .error cause ↔
    (r.act .select).providers = [] ∧ cause = .noProvider
  barren : ∀ cause, r.select.1 = .error cause → (r.act .select).providers = r.providers

/-- Every history leaves a registry that consults its sources when, and only when, it has to. -/
theorem discovery_kept (history : List Action) : Disciplined history (run {} history) where
  consults := by
    intro a
    rw [consults_iff, ← discovered_iff, Bool.not_eq_true]
  calls := fun a => calls_act_of_consults
  silent := fun a => calls_act_of_not_consults
  sources := sources_run history
  fails := select_error_iff (run {} history)
  barren := by
    intro cause hfails
    rw [((select_error_iff _ cause).mp hfails).1]
    cases hlisted : (run {} history).providers with
    | nil => rfl
    | cons first rest =>
      rw [select_of_listed hlisted] at hfails
      cases hfails

/-- A history in which the sources have nothing, and a source comes late. -/
def late : List Action :=
  [.select, .addSource (offering "empty" []), .select, .select,
    .addSource (offering "late" [named "a" 1])]

/-- The late source is called, and the other one again. -/
theorem discovery_kept_late : (run {} late).Consults .select ∧
    ((run {} late).act .select).calls.map (·.label) = ["empty", "empty", "late"] ∧
    ((run {} late).act .select).names = ["a"] := by
  have hconsults : (run {} late).Consults .select := by
    unfold Consults
    decide
  rw [(discovery_kept late).calls _ hconsults]
  exact ⟨hconsults, rfl, rfl⟩

end Depot.Registry
