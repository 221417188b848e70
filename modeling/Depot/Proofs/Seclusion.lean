import Depot.Proofs.Lineage

/-! Working offline. An offline session resolves from its local chain alone: no file is changed, no
transfer is told of, and of the file system only what the chain finds counts (`resolve_offline`).
What is derived from an offline session is offline too, so all this goes for every sequence of
resolutions in the contexts that descend from an offline one (`World.offline_kept`). -/

namespace Depot

def Event.isTransfer : Event → Bool
  | .repository _ => false
  | .transfer _ => true

theorem Session.event_of_mem_deliver {s : Session} {event : Event} {d : Delivery}
    (h : d ∈ s.deliver event) : d.event = event := by
  have hlistener (l : Option Listener) (hl : d ∈ Listener.deliver l event) : d.event = event := by
    cases l with
    | none => cases hl
    | some l =>
      obtain ⟨name, -, rfl⟩ := List.mem_map.mp hl
      rfl
  cases event with
  | repository event => exact hlistener _ h
  | transfer event => exact hlistener _ h

namespace Resolution

/-- What is told and answered when no repository is contacted, given what the local chain finds and
the repositories that would be asked. -/
def alone (a : Artifact) (asked : List RemoteRepository) :
    Option LocalArtifact → List Event × Except ResolutionError ResolvedArtifact
  | some found =>
    ([.repository (.resolving a), .repository (.resolved a localId (some found.file))],
      .ok ⟨a, found.file, localId⟩)
  | none =>
    match asked with
    | first :: _ => ([.repository (.resolving a)], .error (.offline a.coordinates first.id))
    | [] =>
      ([.repository (.resolving a), .repository (.resolved a "" none)],
        .error (.notFound a.coordinates [localId]))

theorem isTransfer_of_mem_alone {a : Artifact} {asked : List RemoteRepository}
    {found : Option LocalArtifact} {event : Event} (h : event ∈ (alone a asked found).1) :
    event.isTransfer = false := by
  cases found with
  | some found =>
    simp only [alone, List.mem_cons, List.not_mem_nil, or_false] at h
    rcases h with rfl | rfl <;> rfl
  | none =>
    cases asked with
    | cons first rest =>
      obtain rfl := List.mem_singleton.mp h
      rfl
    | nil =>
      simp only [alone, List.mem_cons, List.not_mem_nil, or_false] at h
      rcases h with rfl | rfl <;> rfl

/-- Offline no repository is contacted and the files stay as they are. -/
theorem resolve_offline {s : Session} (h : s.offline = true) (files : FileSystem) (a : Artifact)
    (rs : List RemoteRepository) :
    resolve s files a rs =
      ⟨files, (alone a (candidates a rs) (s.localChain.find? files a)).1,
        (alone a (candidates a rs) (s.localChain.find? files a)).2⟩ := by
  unfold resolve
  cases s.localChain.find? files a with
  | some found => rfl
  | none =>
    rw [h]
    cases candidates a rs with
    | cons first rest => rfl
    | nil => rfl

end Resolution

namespace World

/-- The context of this number is there and works offline. -/
def OfflineAt (w : World) (number : Nat) : Prop :=
  ∃ c, w.context? number = some c ∧ c.session.offline = true

theorem Descends.offlineAt {w : World} {root : Nat} {actions : List Action} {os : List Overrides}
    {number : Nat} (h : w.Descends root actions os number) (hroot : w.OfflineAt root) :
    (w.run actions).OfflineAt number := by
  obtain ⟨r, hr, hoffline⟩ := hroot
  have hderive (c : Context) (o : Overrides) (child : Nat) (switched : Option LocalChain)
      (hc : c.session.offline = true) : (c.derived child o switched).session.offline = true := by
    have hunder : (c.derived child o switched).session.offline =
        (c.session.offline || o.offline) := rfl
    rw [hunder, hc, Bool.true_or]
  apply h.context hr hoffline
  · intro os c released hc
    exact hc
  · intro os c o child switched hc
    exact hderive c o child switched hc

/-- Artifacts resolved one after the other, each in the context of its number: the answers, and the
world that this leaves. -/
def resolveAll (w : World) :
    List (Nat × Artifact) → List (Option (Except ContextError ResolvedArtifact)) × World
  | [] => ([], w)
  | (number, a) :: calls =>
    let later := (w.act (.resolve number a)).resolveAll calls
    ((w.resolve number a).map (·.1) :: later.1, later.2)

/-- The world after a sequence of resolutions is that after a run of them. -/
theorem resolveAll_run (w : World) (calls : List (Nat × Artifact)) :
    (w.resolveAll calls).2 = w.run (calls.map fun (number, a) => .resolve number a) := by
  induction calls generalizing w with
  | nil => rfl
  | cons call calls ih => exact ih (w.act (.resolve call.1 call.2))

/-- The local chain of the context finds the same artifact among other files. -/
def FindsSame (w : World) (files : FileSystem) (call : Nat × Artifact) : Prop :=
  ∀ c, w.context? call.1 = some c →
    c.session.localChain.find? files call.2 = c.session.localChain.find? w.files call.2

/-- One resolution in an offline context: it adds repository events to what was told and changes
nothing else, and it goes the same way among all files in which the local chain finds the same. -/
theorem resolve_offlineAt {w : World} {number : Nat} (h : w.OfflineAt number) (a : Artifact) :
    ∃ answer told, (∀ d ∈ told, d.event.isTransfer = false) ∧
      ∀ files, w.FindsSame files (number, a) →
        { w with files }.resolve number a =
          some (answer, { w with files, deliveries := w.deliveries ++ told }) := by
  obtain ⟨c, hc, hoffline⟩ := h
  have hresolve (files : FileSystem) : { w with files }.resolve number a =
      some ({ w with files }.resolveIn c a) := by
    have hc' : { w with files }.context? number = some c := hc
    rw [resolve, hc', Option.map_some]
  cases hover : c.isOver (w.engine c.engine) with
  | true =>
    refine ⟨.error (.released c.provider.name), [], by simp, ?_⟩
    intro files _
    have hover' : c.isOver ({ w with files }.engine c.engine) = true := hover
    rw [hresolve, resolveIn]
    simp only [hover', if_true, List.append_nil]
  | false =>
    have hup : (w.engine c.engine).isDown = false := (Bool.or_eq_false_iff.mp hover).2
    let outcome := Resolution.alone a (Resolution.candidates a c.repositories)
      (c.session.localChain.find? w.files a)
    refine ⟨outcome.2.mapError .resolution, outcome.1.flatMap c.session.deliver, ?_, ?_⟩
    · intro d hd
      obtain ⟨event, hevent, hd⟩ := List.mem_flatMap.mp hd
      rw [Session.event_of_mem_deliver hd]
      exact Resolution.isTransfer_of_mem_alone hevent
    · intro files hsame
      have hover' : c.isOver ({ w with files }.engine c.engine) = false := hover
      have hup' : ({ w with files }.engine c.engine).isDown = false := hup
      have houtcome : ({ w with files }.engine c.engine).resolve c.session files a c.repositories =
          ⟨files, outcome.1, outcome.2⟩ := by
        rw [Engine.resolve_of_up hup', Resolution.resolve_offline hoffline, hsame c hc]
      rw [hresolve, resolveIn]
      simp only [hover', Bool.false_eq_true, if_false, houtcome]

/-- So does a sequence of resolutions in offline contexts. -/
theorem resolveAll_offlineAt {w : World} {calls : List (Nat × Artifact)}
    (h : ∀ call ∈ calls, w.OfflineAt call.1) :
    ∃ answers told, (∀ d ∈ told, d.event.isTransfer = false) ∧
      ∀ files, (∀ call ∈ calls, w.FindsSame files call) →
        { w with files }.resolveAll calls =
          (answers, { w with files, deliveries := w.deliveries ++ told }) := by
  induction calls generalizing w with
  | nil =>
    refine ⟨[], [], nofun, ?_⟩
    intro files _
    rw [List.append_nil]
    rfl
  | cons call calls ih =>
    obtain ⟨number, a⟩ := call
    obtain ⟨answer, first, hfirst, hresolve⟩ :=
      resolve_offlineAt (h (number, a) List.mem_cons_self) a
    -- The contexts and the files of the next world are those of this one.
    have hcalls : ∀ call ∈ calls,
        { w with deliveries := w.deliveries ++ first }.OfflineAt call.1 := fun call hcall =>
      h call (List.mem_cons_of_mem _ hcall)
    obtain ⟨answers, told, htold, hlater⟩ := ih hcalls
    refine ⟨some answer :: answers, first ++ told, ?_, ?_⟩
    · intro d hd
      exact (List.mem_append.mp hd).elim (hfirst d) (htold d)
    · intro files hsame
      have hanswer := hresolve files (hsame (number, a) List.mem_cons_self)
      have hact : { w with files }.act (.resolve number a) =
          { w with files, deliveries := w.deliveries ++ first } := by
        rw [act, hanswer]
        rfl
      have hrest := hlater files fun call hcall => hsame call (List.mem_cons_of_mem _ hcall)
      rw [resolveAll, hact, hanswer, ← List.append_assoc]
      exact congrArg (fun later : List (Option (Except ContextError ResolvedArtifact)) × World =>
        (some answer :: later.1, later.2)) hrest

/-- Whatever is derived from an offline context is offline. However often artifacts are resolved in
such contexts, no file changes, no transfer is told of, and what lies at the repositories has no
part in the answers: they are the same among all files in which the local chains find the same. -/
theorem offline_kept (w : World) {root : Nat} (hroot : w.OfflineAt root) (actions : List Action) :
    (∀ os number, w.Descends root actions os number → (w.run actions).OfflineAt number) ∧
    ∀ calls : List (Nat × Artifact),
      (∀ call ∈ calls, ∃ os, w.Descends root actions os call.1) →
      ∃ answers told, (∀ d ∈ told, d.event.isTransfer = false) ∧
        (w.run actions).resolveAll calls =
          (answers, { w.run actions with deliveries := (w.run actions).deliveries ++ told }) ∧
        ∀ files, (∀ call ∈ calls, (w.run actions).FindsSame files call) →
          { w.run actions with files }.resolveAll calls =
            (answers, { w.run actions with
              files, deliveries := (w.run actions).deliveries ++ told }) := by
  have hoffline : ∀ os number, w.Descends root actions os number →
      (w.run actions).OfflineAt number := by
    intro os number hdescends
    exact hdescends.offlineAt hroot
  refine ⟨hoffline, ?_⟩
  intro calls hcalls
  have hat : ∀ call ∈ calls, (w.run actions).OfflineAt call.1 := by
    intro call hcall
    obtain ⟨os, hdescends⟩ := hcalls call hcall
    exact hoffline os call.1 hdescends
  obtain ⟨answers, told, htold, hresolve⟩ := resolveAll_offlineAt hat
  exact ⟨answers, told, htold, hresolve (w.run actions).files fun _ _ _ _ => rfl, hresolve⟩

/-- The small world with an artifact in a directory that can serve as a repository. -/
def stocked : World :=
  { small with
    files :=
      { workingDirectory := []
        nodes := [(["far", "g", "a", "1", "a-1.jar"], .file .empty),
          (["far", "g", "a", "1"], .directory), (["far", "g", "a"], .directory),
          (["far", "g"], .directory), (["far"], .directory)] } }

/-- The overrides that only add that repository. -/
def reaching : Overrides :=
  { small.overridesAt "/m2" with
    repositories := [{ id := "far", url := "file:/far" }]
    transferListener := some (.recorder "listener") }

/-- Nobody hears of a transfer from a repository that has the artifact, and it is not copied. -/
theorem offline_kept_stocked :
    let w := (stocked.create smallProvider { small.overridesAt "/m2" with offline := true }).2
    (w.run [.customize 0 reaching]).OfflineAt 1 ∧
      ∃ told, (∀ d ∈ told, d.event.isTransfer = false) ∧
        ((w.run [.customize 0 reaching]).resolveAll [(1, ⟨"g", "a", "1", "", "jar"⟩)]).2 =
          { w.run [.customize 0 reaching] with
            deliveries := (w.run [.customize 0 reaching]).deliveries ++ told } := by
  intro w
  have hroot : w.OfflineAt 0 := ⟨_, rfl, rfl⟩
  have hdescends : w.Descends 0 [.customize 0 reaching] [reaching] 1 := Descends.root.customize rfl
  obtain ⟨hoffline, hresolve⟩ := offline_kept w hroot [.customize 0 reaching]
  obtain ⟨answers, told, htold, hanswers, -⟩ :=
    hresolve [(1, ⟨"g", "a", "1", "", "jar"⟩)] fun call hcall => by
      obtain rfl := List.mem_singleton.mp hcall
      exact ⟨_, hdescends⟩
  exact ⟨hoffline _ 1 hdescends, told, htold, by rw [hanswers]⟩

end World

end Depot
