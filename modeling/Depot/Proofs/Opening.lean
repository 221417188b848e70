import Depot.Engine
import Depot.Proofs.Succeeding
import Depot.Proofs.Trimming
import Mathlib.Data.List.Basic

/-! Opening a local chain. A chain is opened for a plan exactly when none of the planned paths is
empty, and then it is the planned one (`Plan.build_eq_ok_iff`), so that the plan can be read off it
again. A tail that comes from properties has no empty path, and only the path of the head can be in
the way (`Engine.openChain_ofProperties`). -/

namespace Depot

theorem LocalRepository.atPath_eq_ok_iff {away : Bool} {path : Path} {r : LocalRepository} :
    atPath away path = .ok r ↔ path.text ≠ "" ∧ r = ⟨path, away⟩ := by
  unfold atPath
  split
  · rename_i hempty
    simp [hempty]
  · rename_i hfilled
    constructor
    · intro h
      exact ⟨hfilled, (Except.ok.inj h).symm⟩
    · rintro ⟨-, rfl⟩
      rfl

namespace LocalChain.Plan

/-- The chain of the planned repositories. -/
def chain (p : Plan) (away : List Path) : LocalChain :=
  { head := ⟨p.primary, away.contains p.primary⟩
    tail := p.tail.map fun path => ⟨path, away.contains path⟩
    ignoreTailAvailability := p.ignoreTailAvailability }

theorem build_eq_ok_iff {p : Plan} {away : List Path} {c : LocalChain} :
    p.build away = .ok c ↔
      p.primary.text ≠ "" ∧ (∀ path ∈ p.tail, path.text ≠ "") ∧ c = p.chain away := by
  have htail (tail : List LocalRepository) :
      p.tail.mapM (fun path => LocalRepository.atPath (away.contains path) path) = .ok tail ↔
        (∀ path ∈ p.tail, path.text ≠ "") ∧
          tail = p.tail.map fun path => ⟨path, away.contains path⟩ := by
    apply Succeeding.mapM_eq_ok
    intro path r
    exact LocalRepository.atPath_eq_ok_iff
  simp only [build, Succeeding.bind_eq_ok, htail, LocalRepository.atPath_eq_ok_iff]
  constructor
  · rintro ⟨head, ⟨hprimary, rfl⟩, tail, ⟨hfilled, rfl⟩, h⟩
    exact ⟨hprimary, hfilled, (Except.ok.inj h).symm⟩
  · rintro ⟨hprimary, hfilled, rfl⟩
    exact ⟨_, ⟨hprimary, rfl⟩, _, ⟨hfilled, rfl⟩, rfl⟩

/-- A chain shows what was planned. -/
theorem chain_injective {p q : Plan} {away : List Path} (h : p.chain away = q.chain away) :
    p = q := by
  obtain ⟨primary, tail, ignored⟩ := p
  obtain ⟨primary', tail', ignored'⟩ := q
  simp only [chain, LocalChain.mk.injEq, LocalRepository.mk.injEq] at h
  obtain ⟨⟨rfl, -⟩, htail, rfl⟩ := h
  have hinjective : Function.Injective fun path : Path =>
      (⟨path, away.contains path⟩ : LocalRepository) := by
    intro path path' hsame
    exact congrArg LocalRepository.baseDirectory hsame
  obtain rfl := List.map_injective_iff.mpr hinjective htail
  rfl

theorem filled_ofProperties (path : Path) (p : Properties) :
    ∀ entry ∈ (ofProperties path p).tail, entry.text ≠ "" := by
  intro entry hentry
  obtain ⟨text, htext, rfl⟩ := List.mem_map.mp hentry
  obtain ⟨item, -, hitem⟩ := List.mem_filterMap.mp htext
  exact Text.ne_empty_of_filled? hitem

end LocalChain.Plan

theorem Engine.openChain_ofProperties {e : Engine} {path : Path} {p : Properties}
    {c : LocalChain} : e.openChain (.ofProperties path p) = .ok c ↔
      path.text ≠ "" ∧ c = (LocalChain.Plan.ofProperties path p).chain e.away := by
  have hprimary : (LocalChain.Plan.ofProperties path p).primary = path := rfl
  rw [openChain, LocalChain.Plan.build_eq_ok_iff, hprimary]
  constructor
  · rintro ⟨hpath, -, hc⟩
    exact ⟨hpath, hc⟩
  · rintro ⟨hpath, hc⟩
    exact ⟨hpath, LocalChain.Plan.filled_ofProperties path p, hc⟩

end Depot
