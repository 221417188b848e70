import Depot.Proofs.Adding
import Depot.Proofs.Fetching

/-! What a resolution writes. Of the files it changes at most the one to which the artifact's path in
the head of the chain leads (`FileSystem.Disturbed`). When something is downloaded that file is as its
source, unless the path leads to the source itself, by way of the directories that were made: then
the source is emptied. When nothing is downloaded the file is as it was, or it is what the last copy
that broke off has left (`Resolution.BreaksOff`). -/

namespace Depot

namespace Resolution

variable {chain : LocalChain} {files last : FileSystem} {a : Artifact} {rs : List RemoteRepository}

/-- The repository has the artifact, but copying it into the head of the chain breaks off; what that
leaves. -/
def BreaksOff (chain : LocalChain) (files : FileSystem) (a : Artifact) (r : RemoteRepository)
    (left : FileSystem) : Prop :=
  ∃ source cause count, LiesAt a r source ∧ chain.add files a source = (.error cause, left) ∧
    files.Copied source (chain.head.pathOf a) (FileSystem.firstBytes count) left

/-- Repositories that are tried in vain leave the files as they were or, if copies broke off, as the
last of these did. -/
theorem Passed.contents {failures : List ResolutionError}
    (h : Passed chain a files rs failures last) :
    (∀ l, last.content? l = files.content? l) ∨
      ∃ r turn left, ComesTo chain a files rs r turn ∧ BreaksOff chain turn a r left ∧
        ∀ l, last.content? l = left.content? l := by
  induction h with
  | nil => exact .inl fun _ => rfl
  | lacked h _ ih =>
    rcases ih with hsame | ⟨r, turn, left, hturn, hbreaks, hlast⟩
    · exact .inl hsame
    · exact .inr ⟨r, turn, left, .lacked h hturn, hbreaks, hlast⟩
  | @failed files left last r rest failure failures h _ ih =>
    rcases ih with hsame | ⟨r', turn, later, hturn, hbreaks, hlast⟩
    · cases h with
      | refused => exact .inl hsame
      | unstored hlies hfile hadd =>
        rcases LocalRepository.grown_or_copied_of_add_error hadd with
          hgrown | ⟨made, count, hgrown, hcopied⟩
        · exact .inl fun l => (hsame l).trans (hgrown.content l)
        · exact .inr ⟨r, files, left, .first files r rest,
            ⟨_, _, count, hlies, hadd, hgrown.copied hfile hcopied⟩, hsame⟩
    · exact .inr ⟨r', turn, later, .failed h hturn, hbreaks, hlast⟩

/-- Nobody is asked offline, nor when the chain has the artifact. -/
theorem Way.files_eq {s : Session} {outcome : Outcome ResolvedArtifact}
    (h : Way s files a rs outcome)
    (hunasked : s.localChain.find? files a ≠ none ∨ s.offline = true) : outcome.files = files := by
  cases h with
  | kept => rfl
  | refused => rfl
  | tried hnone hfree hcourse =>
    rw [hfree (hunasked.resolve_left fun hsome => hsome hnone)] at hcourse ⊢
    cases hcourse
    rfl

end Resolution

namespace Engine

open Resolution

/-- No file changes but the one to which the artifact's path in the head of the chain leads, and none
at all of an engine that is down, offline, or when the chain has the artifact. When something is
downloaded that file is a whole copy from the repository that is answered, whose bytes it holds
unless it is the source itself. When nothing is downloaded the files are as they were, or as a copy
has left them that broke off. -/
theorem contents_of_resolve (e : Engine) (s : Session) (files : FileSystem) (a : Artifact)
    (rs : List RemoteRepository) :
    let outcome := e.resolve s files a rs
    let kept := s.localChain.head.pathOf a
    let asked := candidates a rs
    files.Disturbed kept outcome.files ∧
    (e.isDown = true ∨ s.localChain.find? files a ≠ none ∨ s.offline = true →
      outcome.files = files) ∧
    (∀ found, downloaded? s files a outcome = some found →
      ∃ r turn source, ComesTo s.localChain a files asked r turn ∧ files.Disturbed kept turn ∧
        found = ⟨a, kept, r.id⟩ ∧ LiesAt a r source ∧ turn.Copied source kept id outcome.files ∧
        (outcome.files.read kept = turn.read source ↔
          (outcome.files.locate kept = turn.locate source → turn.read source = .ok .empty))) ∧
    (downloaded? s files a outcome = none →
      (∀ l, outcome.files.content? l = files.content? l) ∨
      ∃ r turn left, ComesTo s.localChain a files asked r turn ∧
        BreaksOff s.localChain turn a r left ∧
        ∀ l, outcome.files.content? l = left.content? l) := by
  intro outcome kept asked
  cases hdown : e.isDown with
  | true =>
    have houtcome : outcome = ⟨files, [], .error .shutDown⟩ := resolve_of_down hdown s files a rs
    rw [downloaded?_of_error (congrArg Outcome.result houtcome), houtcome]
    exact ⟨.refl files kept, fun _ => rfl, nofun, fun _ => .inl fun _ => rfl⟩
  | false =>
    have hway : Way s files a rs outcome := way_of_up hdown s files a rs
    refine ⟨hway.disturbed, ?_, ?_, ?_⟩
    · intro hunasked
      exact hway.files_eq (hunasked.resolve_left nofun)
    · intro found hfound
      obtain ⟨r, turn, hturn, ⟨source, hlies, hfile, hadd⟩, hanswer⟩ := hway.of_downloaded hfound
      obtain ⟨hstored, made, hgrown, hmade⟩ := LocalRepository.copied_of_add_ok hadd
      have hcopied := hgrown.copied hfile hmade
      rw [hstored] at hanswer
      exact ⟨r, turn, source, hturn, hturn.disturbed, hanswer, hlies, hcopied, hcopied.read_eq_iff⟩
    · intro hnone
      rcases hway.passed hnone with hfiles | ⟨failures, hpassed⟩
      · rw [hfiles]
        exact .inl fun _ => rfl
      · exact hpassed.contents

/-- The path of the local repository leads nowhere until a directory is made, and then to the
repository that has the jar. The jar is copied to itself, and its bytes are lost. -/
theorem empties_own_file :
    let s := sessionAt "/x/../far" false
    let outcome := ({} : Engine).resolve s (shelf []) stockedJar [far]
    downloaded? s (shelf []) stockedJar outcome =
        some ⟨stockedJar, ⟨"/x/../far/g/a/1/a-1.jar"⟩, "far"⟩ ∧
      LiesAt stockedJar far ⟨"/far/g/a/1/a-1.jar"⟩ ∧
      (shelf []).read ⟨"/far/g/a/1/a-1.jar"⟩ = .ok ⟨#[74, 65, 82]⟩ ∧
      outcome.files.read ⟨"/x/../far/g/a/1/a-1.jar"⟩ = .ok .empty := by
  refine ⟨by decide +kernel, ⟨rfl, ⟨"/far"⟩, by decide +kernel, by decide +kernel⟩,
    Succeeding.toOption_eq_some.mp ?_, Succeeding.toOption_eq_some.mp ?_⟩
  · decide +kernel
  · decide +kernel

end Engine

end Depot
