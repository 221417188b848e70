import Depot.Proofs.Fetching
import Depot.Proofs.Seclusion

/-! What is told of a resolution. Trying a repository tells of a transfer that is initiated and, right
after it, of how the transfer ended, unless the file cannot be stored: then the transfer is left open
(`Resolution.Course.zero_mem_endings_iff`). Around the transfers the listener of the session hears
that the artifact is being resolved and what has become of it; only the refusal to work offline says
nothing of the end (`Engine.notices_of_resolve`). -/

namespace Depot

namespace TransferEvent

/-- The repository and the resource of the transfer. -/
def subject : TransferEvent → String × String
  | initiated repository resource => (repository, resource)
  | succeeded repository resource _ => (repository, resource)
  | failed repository resource _ => (repository, resource)

def isInitiated : TransferEvent → Bool
  | initiated .. => true
  | _ => false

def isSucceeded : TransferEvent → Bool
  | succeeded .. => true
  | _ => false

/-- How often each transfer that is initiated ends, by an event on the same resource of the same
repository and before the next transfer is initiated. -/
def endings : List TransferEvent → List Nat
  | [] => []
  | event :: later =>
    if event.isInitiated then
      (later.takeWhile (!·.isInitiated)).countP (·.subject == event.subject) :: endings later
    else endings later

theorem endings_of_ended (first last : TransferEvent) {later : List TransferEvent}
    (hfirst : first.isInitiated = true) (hlast : last.isInitiated = false)
    (hsame : last.subject = first.subject) (hlater : later.takeWhile (!·.isInitiated) = []) :
    endings (first :: last :: later) = 1 :: endings later := by
  simp [endings, hfirst, hlast, hsame, hlater]

theorem endings_of_open (first : TransferEvent) {later : List TransferEvent}
    (hfirst : first.isInitiated = true) (hlater : later.takeWhile (!·.isInitiated) = []) :
    endings (first :: later) = 0 :: endings later := by
  simp [endings, hfirst, hlater]

end TransferEvent

namespace Event

def transfer? : Event → Option TransferEvent
  | repository _ => none
  | transfer event => some event

def repository? : Event → Option RepositoryEvent
  | repository event => some event
  | transfer _ => none

end Event

namespace Session

/-- Delivering keeps the events apart. -/
theorem filter_deliver (s : Session) (p : Event → Bool) (events : List Event) :
    (events.flatMap s.deliver).filter (fun d => p d.event) =
      (events.filter p).flatMap s.deliver := by
  induction events with
  | nil => rfl
  | cons event events ih =>
    rw [List.flatMap_cons, List.filter_append, ih]
    cases hp : p event with
    | true =>
      have hall : (s.deliver event).filter (fun d => p d.event) = s.deliver event := by
        rw [List.filter_eq_self]
        intro d hd
        rw [event_of_mem_deliver hd, hp]
      rw [hall, List.filter_cons_of_pos hp, List.flatMap_cons]
    | false =>
      have hnone : (s.deliver event).filter (fun d => p d.event) = [] := by
        rw [List.filter_eq_nil_iff]
        intro d hd
        rw [event_of_mem_deliver hd, hp]
        exact Bool.false_ne_true
      rw [hnone, List.filter_cons_of_neg (by rw [hp]; exact Bool.false_ne_true), List.nil_append]

/-- The transfer listener is told of the transfers, one after the other. -/
theorem transfers_deliver (s : Session) (events : List Event) :
    (events.flatMap s.deliver).filter (·.event.isTransfer) =
      (events.filterMap Event.transfer?).flatMap fun event =>
        Listener.deliver s.transferListener (.transfer event) := by
  rw [filter_deliver s Event.isTransfer]
  induction events with
  | nil => rfl
  | cons event events ih =>
    cases event with
    | repository event => exact ih
    | transfer event => exact congrArg (s.deliver (.transfer event) ++ ·) ih

/-- The repository listener is told of the rest. -/
theorem notices_deliver (s : Session) (events : List Event) :
    (events.flatMap s.deliver).filter (!·.event.isTransfer) =
      (events.filterMap Event.repository?).flatMap fun event =>
        Listener.deliver s.repositoryListener (.repository event) := by
  rw [filter_deliver s (!·.isTransfer)]
  induction events with
  | nil => rfl
  | cons event events ih =>
    cases event with
    | repository event => exact congrArg (s.deliver (.repository event) ++ ·) ih
    | transfer event => exact ih

end Session

namespace Resolution

variable {chain : LocalChain} {s : Session} {files : FileSystem} {a : Artifact}
  {rs : List RemoteRepository}

/-- What is told of transfers. -/
def transfers (events : List Event) : List TransferEvent :=
  events.filterMap Event.transfer?

/-- What is told of the artifact. -/
def notices (events : List Event) : List RepositoryEvent :=
  events.filterMap Event.repository?

theorem endings_missed {r : RemoteRepository} {later : List Event}
    (h : (transfers later).takeWhile (!·.isInitiated) = []) :
    TransferEvent.endings (transfers (initiated a r :: missed a r :: later)) =
      1 :: TransferEvent.endings (transfers later) :=
  TransferEvent.endings_of_ended (.initiated _ _) (.failed _ _ _) rfl rfl rfl h

theorem endings_open {r : RemoteRepository} {later : List Event}
    (h : (transfers later).takeWhile (!·.isInitiated) = []) :
    TransferEvent.endings (transfers (initiated a r :: later)) =
      0 :: TransferEvent.endings (transfers later) :=
  TransferEvent.endings_of_open (.initiated _ _) rfl h

theorem endings_succeeded (a : Artifact) (r : RemoteRepository) (bytes : Nat) :
    TransferEvent.endings (transfers [initiated a r, succeeded a r bytes]) = [1] :=
  TransferEvent.endings_of_ended (.initiated _ _) (.succeeded _ _ _) rfl rfl rfl rfl

namespace Course

variable {outcome : Outcome (Option (RemoteRepository × Path))}

/-- The first thing told is that a transfer is initiated, so what is told of a transfer before ends
there. -/
theorem takeWhile_transfers (h : Course chain a files rs outcome) :
    (transfers outcome.events).takeWhile (!·.isInitiated) = [] := by
  induction h with
  | nil => rfl
  | refused _ _ ih => exact ih
  | missed => rfl
  | unstored => rfl
  | delivered => rfl

/-- No transfer ends twice. -/
theorem endings_le_one (h : Course chain a files rs outcome) :
    ∀ n ∈ TransferEvent.endings (transfers outcome.events), n ≤ 1 := by
  induction h with
  | nil => exact nofun
  | refused _ _ ih => exact ih
  | missed _ _ hlater ih =>
    rw [endings_missed hlater.takeWhile_transfers]
    exact List.forall_mem_cons.mpr ⟨Nat.le_refl 1, ih⟩
  | unstored _ _ _ hlater ih =>
    rw [endings_open hlater.takeWhile_transfers]
    exact List.forall_mem_cons.mpr ⟨Nat.zero_le 1, ih⟩
  | delivered =>
    rw [endings_succeeded]
    exact List.forall_mem_cons.mpr ⟨Nat.le_refl 1, nofun⟩

/-- A transfer is left open where the file of a repository cannot be stored when its turn comes, and
only there. -/
theorem zero_mem_endings_iff (h : Course chain a files rs outcome) :
    0 ∈ TransferEvent.endings (transfers outcome.events) ↔
      ∃ r turn, ComesTo chain a files rs r turn ∧
        ∃ cause left, Fails chain turn a r (.storage cause) left := by
  induction h with
  | nil => exact iff_of_false nofun fun ⟨_, _, hturn, _⟩ => nomatch hturn
  | refused h _ ih =>
    rw [exists_comesTo_of_refuses h, or_iff_right fun ⟨_, _, hfails⟩ => h.not_unstored hfails]
    exact ih
  | missed h hfile hlater ih =>
    have hlacks : Lacks _ a _ := ⟨_, h, hfile⟩
    rw [endings_missed hlater.takeWhile_transfers, List.mem_cons, or_iff_right Nat.zero_ne_one,
      exists_comesTo_of_lacks hlacks, or_iff_right fun ⟨_, _, hfails⟩ => hlacks.not_fails hfails]
    exact ih
  | unstored h hfile hadd hlater =>
    rw [endings_open hlater.takeWhile_transfers]
    exact iff_of_true List.mem_cons_self ⟨_, _, .first _ _ _, _, _, .unstored h hfile hadd⟩
  | delivered h hfile hadd =>
    have hdelivers : Delivers chain _ a _ _ _ := ⟨_, h, hfile, hadd⟩
    rw [endings_succeeded, exists_comesTo_of_delivers hdelivers]
    exact iff_of_false (by decide) fun ⟨_, _, hfails⟩ => hdelivers.not_fails hfails

/-- The one transfer that succeeds is that from the repository that delivers. -/
theorem filter_isSucceeded (h : Course chain a files rs outcome) :
    (transfers outcome.events).filter (·.isSucceeded) =
      (delivered? outcome.result).toList.map fun (r, stored) =>
        .succeeded r.id a.layoutPath (outcome.files.size stored) := by
  induction h with
  | nil => rfl
  | refused _ _ ih =>
    rw [delivered?_orFailure]
    exact ih
  | missed _ _ _ ih => exact ih
  | unstored _ _ _ _ ih =>
    rw [delivered?_orFailure]
    exact ih
  | delivered => rfl

/-- Trying repositories tells of transfers only. -/
theorem notices_eq_nil (h : Course chain a files rs outcome) : notices outcome.events = [] := by
  induction h with
  | nil => rfl
  | refused _ _ ih => exact ih
  | missed _ _ _ ih => exact ih
  | unstored _ _ _ _ ih => exact ih
  | delivered => rfl

/-- What keeps the repositories from delivering is not that the session is offline. -/
theorem ne_offline (h : Course chain a files rs outcome) (artifact repository : String) :
    outcome.result ≠ .error (.offline artifact repository) := by
  have horFailure {failure : ResolutionError}
      {later : Except ResolutionError (Option (RemoteRepository × Path))}
      (h : failure ≠ .offline artifact repository) :
      orFailure failure later ≠ .error (.offline artifact repository) := by
    rcases later with cause | _ | delivered
    · exact fun hsame => h (Except.error.inj hsame)
    · exact fun hsame => h (Except.error.inj hsame)
    · exact nofun
  induction h with
  | nil => exact nofun
  | refused h =>
    apply horFailure
    rintro rfl
    cases h
  | missed _ _ _ ih => exact ih
  | unstored => exact horFailure nofun
  | delivered => exact nofun

end Course

/-- What is told of the artifact in the end; nothing, when it is refused offline. -/
def completion (a : Artifact) : Except ResolutionError ResolvedArtifact → List RepositoryEvent
  | .ok found => [.resolved a found.repository (some found.file)]
  | .error (.offline ..) => []
  | .error _ => [.resolved a "" none]

/-- Before the repositories are tried the artifact is told of, and after that its completion. -/
theorem Course.events_conclude {fetched : Outcome (Option (RemoteRepository × Path))}
    (h : Course chain a files rs fetched) :
    ∃ repository file,
      (conclude a rs fetched).events = .repository (.resolving a) :: fetched.events ++
        [.repository (.resolved a repository file)] ∧
      completion a (conclude a rs fetched).result = [.resolved a repository file] := by
  have hoffline := h.ne_offline
  unfold conclude
  rcases hresult : fetched.result with failure | _ | ⟨r, stored⟩
  · refine ⟨"", none, rfl, ?_⟩
    cases failure with
    | offline artifact repository => exact absurd hresult (hoffline artifact repository)
    | _ => rfl
  · exact ⟨"", none, rfl, rfl⟩
  · exact ⟨r.id, some stored, rfl, rfl⟩

theorem Course.transfers_conclude {fetched : Outcome (Option (RemoteRepository × Path))}
    (h : Course chain a files rs fetched) :
    transfers (conclude a rs fetched).events = transfers fetched.events := by
  obtain ⟨repository, file, hevents, -⟩ := h.events_conclude
  unfold transfers
  rw [hevents, List.cons_append, List.filterMap_cons_none rfl, List.filterMap_append]
  exact List.append_nil _

namespace Way

variable {outcome : Outcome ResolvedArtifact}

/-- The artifact is told of before and after, but for a refusal, which has no after. -/
theorem notices_eq (h : Way s files a rs outcome) :
    notices outcome.events = .resolving a :: completion a outcome.result := by
  cases h with
  | kept => rfl
  | refused => rfl
  | @tried fetched _ _ hcourse =>
    obtain ⟨repository, file, hevents, hcompletion⟩ := hcourse.events_conclude
    have hafter : notices (fetched.events ++ [.repository (.resolved a repository file)]) =
        [.resolved a repository file] := by
      have hnone := hcourse.notices_eq_nil
      unfold notices at hnone ⊢
      rw [List.filterMap_append, hnone]
      rfl
    rw [hevents, hcompletion]
    exact congrArg (RepositoryEvent.resolving a :: ·) hafter

/-- The one way that has no after. -/
theorem completion_eq_nil_iff (h : Way s files a rs outcome) :
    completion a outcome.result = [] ↔
      s.localChain.find? files a = none ∧ s.offline = true ∧ candidates a rs ≠ [] := by
  cases h with
  | kept h =>
    refine iff_of_false nofun ?_
    rintro ⟨hnone, -⟩
    rw [h] at hnone
    cases hnone
  | refused hnone hoffline hasked =>
    refine iff_of_true rfl ⟨hnone, hoffline, ?_⟩
    rw [hasked]
    exact List.cons_ne_nil _ _
  | tried _ hfree hcourse =>
    obtain ⟨repository, file, -, hcompletion⟩ := hcourse.events_conclude
    rw [hcompletion]
    exact iff_of_false nofun fun ⟨_, hoffline, hsome⟩ => hsome (hfree hoffline)

theorem zero_mem_endings_iff (h : Way s files a rs outcome) :
    0 ∈ TransferEvent.endings (transfers outcome.events) ↔
      s.localChain.find? files a = none ∧ s.offline = false ∧
        ∃ r turn, ComesTo s.localChain a files (candidates a rs) r turn ∧
          ∃ cause left, Fails s.localChain turn a r (.storage cause) left := by
  cases h with
  | kept h =>
    refine iff_of_false nofun ?_
    rintro ⟨hnone, -⟩
    rw [h] at hnone
    cases hnone
  | refused _ hoffline =>
    refine iff_of_false nofun ?_
    rintro ⟨-, honline, -⟩
    rw [hoffline] at honline
    cases honline
  | tried hnone hfree hcourse =>
    rw [hcourse.transfers_conclude, hcourse.zero_mem_endings_iff]
    constructor
    · rintro ⟨r, turn, hturn, hfails⟩
      refine ⟨hnone, Bool.eq_false_iff.mpr ?_, r, turn, hturn, hfails⟩
      intro hoffline
      rw [hfree hoffline] at hturn
      cases hturn
    · exact fun ⟨_, _, hfails⟩ => hfails

theorem endings_le_one (h : Way s files a rs outcome) :
    ∀ n ∈ TransferEvent.endings (transfers outcome.events), n ≤ 1 := by
  cases h with
  | kept => exact nofun
  | refused => exact nofun
  | tried _ _ hcourse =>
    rw [hcourse.transfers_conclude]
    exact hcourse.endings_le_one

theorem filter_isSucceeded (h : Way s files a rs outcome) :
    (transfers outcome.events).filter (·.isSucceeded) =
      (downloaded? s files a outcome).toList.map fun found =>
        .succeeded found.repository a.layoutPath (outcome.files.size found.file) := by
  cases h with
  | kept h =>
    rw [downloaded?_of_find? h]
    rfl
  | refused hnone =>
    rw [downloaded?_of_none hnone]
    rfl
  | tried hnone _ hcourse =>
    rw [hcourse.transfers_conclude, hcourse.filter_isSucceeded, downloaded?_of_none hnone,
      toOption_conclude, files_conclude, Option.toList_map, List.map_map]
    rfl

end Way

end Resolution

namespace Engine

open Resolution

/-- No transfer that a resolution tells of ends twice, and each ends before the next begins, unless
the file that was to be transferred cannot be stored when the turn of its repository comes. That a
transfer succeeded is told just where something was downloaded, of the repository that it came
from. -/
theorem transfers_of_resolve (e : Engine) (s : Session) (files : FileSystem) (a : Artifact)
    (rs : List RemoteRepository) :
    let outcome := e.resolve s files a rs
    let told := transfers outcome.events
    (outcome.events.flatMap s.deliver).filter (·.event.isTransfer) =
        told.flatMap (fun event => Listener.deliver s.transferListener (.transfer event)) ∧
      (∀ n ∈ TransferEvent.endings told, n ≤ 1) ∧
      (0 ∈ TransferEvent.endings told ↔
        e.isDown = false ∧ s.localChain.find? files a = none ∧ s.offline = false ∧
          ∃ r turn, ComesTo s.localChain a files (candidates a rs) r turn ∧
            ∃ cause left, Fails s.localChain turn a r (.storage cause) left) ∧
      told.filter (·.isSucceeded) =
        (downloaded? s files a outcome).toList.map fun found =>
          .succeeded found.repository a.layoutPath (outcome.files.size found.file) := by
  intro outcome told
  refine ⟨s.transfers_deliver outcome.events, ?_⟩
  cases hdown : e.isDown with
  | true =>
    have houtcome : outcome = ⟨files, [], .error .shutDown⟩ := resolve_of_down hdown s files a rs
    have htold : told = [] := by
      rw [show told = transfers outcome.events from rfl, houtcome]
      rfl
    rw [htold, downloaded?_of_error (congrArg Outcome.result houtcome)]
    exact ⟨nofun, iff_of_false nofun (fun h => nomatch h.1), rfl⟩
  | false =>
    have hway : Way s files a rs outcome := way_of_up hdown s files a rs
    refine ⟨hway.endings_le_one, ?_, hway.filter_isSucceeded⟩
    rw [hway.zero_mem_endings_iff]
    simp only [true_and]

/-- The jar is there, but a file is where the session wants its local repository. The transfer that
is told of has no end. -/
theorem leaves_transfer_open :
    let s := { sessionAt "/m2" false with transferListener := some (.recorder "listener") }
    let outcome := ({} : Engine).resolve s (shelf [(["m2"], .file .empty)]) stockedJar [far]
    (outcome.events.flatMap s.deliver).filter (·.event.isTransfer) =
        [⟨"listener", .transfer (.initiated "far" "g/a/1/a-1.jar")⟩] ∧
      ¬ ∀ n ∈ TransferEvent.endings (transfers outcome.events), n = 1 := by
  decide +kernel

/-- The repository listener hears that the artifact is being resolved and, unless the resolution is
refused because the session is offline, what has become of it: the file and the repository that are
answered, or no file. It hears nothing of an engine that is down. -/
theorem notices_of_resolve (e : Engine) (s : Session) (files : FileSystem) (a : Artifact)
    (rs : List RemoteRepository) :
    let outcome := e.resolve s files a rs
    let told := notices outcome.events
    (outcome.events.flatMap s.deliver).filter (!·.event.isTransfer) =
        told.flatMap (fun event => Listener.deliver s.repositoryListener (.repository event)) ∧
      told = (if e.isDown then [] else .resolving a :: completion a outcome.result) ∧
      (told = [.resolving a] ↔ e.isDown = false ∧ s.localChain.find? files a = none ∧
        s.offline = true ∧ candidates a rs ≠ []) := by
  intro outcome told
  refine ⟨s.notices_deliver outcome.events, ?_⟩
  cases hdown : e.isDown with
  | true =>
    have houtcome : outcome = ⟨files, [], .error .shutDown⟩ := resolve_of_down hdown s files a rs
    have htold : told = [] := by
      rw [show told = notices outcome.events from rfl, houtcome]
      rfl
    rw [htold]
    exact ⟨rfl, iff_of_false nofun (fun h => nomatch h.1)⟩
  | false =>
    have hway : Way s files a rs outcome := way_of_up hdown s files a rs
    refine ⟨hway.notices_eq, ?_⟩
    rw [show told = notices outcome.events from rfl, hway.notices_eq,
      ← hway.completion_eq_nil_iff]
    simp

/-- A repository has the jar, but the session is offline. What the listener hears has no end. -/
theorem offline_unnoticed :
    let s := { sessionAt "/m2" true with repositoryListener := some (.recorder "listener") }
    let outcome := ({} : Engine).resolve s (shelf []) stockedJar [far]
    ({} : Engine).isDown = false ∧
      ¬ ∃ repository file, outcome.events.flatMap s.deliver =
        [⟨"listener", .repository (.resolving stockedJar)⟩,
          ⟨"listener", .repository (.resolved stockedJar repository file)⟩] := by
  intro s outcome
  have htold : outcome.events.flatMap s.deliver =
      [⟨"listener", .repository (.resolving stockedJar)⟩] := by decide +kernel
  refine ⟨rfl, ?_⟩
  rintro ⟨repository, file, h⟩
  rw [htold] at h
  cases h

end Engine

end Depot
