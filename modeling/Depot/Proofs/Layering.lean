import Depot.Proofs.Lineage

/-! Layers of overrides. The session of a context that descends from another is that one's session
with the overrides laid over it one after the other (`Context.Layered`): it is offline once a layer
is, the last layer that sets a policy or a user property decides it, listeners are told in the order
of the layers, and the rest is the root's. A property of the root is looked for among what its
overrides say, then in the active profiles, then among the system's. -/

namespace Depot

namespace Overrides

/-- What the last of the overrides that say anything of it say of something. -/
def last? {α : Type} (field : Overrides → Option α) (os : List Overrides) : Option α :=
  (os.filterMap field).getLast?

theorem last?_concat {α : Type} (field : Overrides → Option α) (os : List Overrides)
    (o : Overrides) : last? field (os ++ [o]) = (field o).or (last? field os) := by
  rw [last?, List.filterMap_append, List.getLast?_append]
  cases h : field o <;> simp [h, last?]

/-- What arrives at the listeners of the overrides when the event is sent to them. -/
def deliver (o : Overrides) (event : Event) : List Delivery :=
  match event with
  | .repository _ => Listener.deliver o.repositoryListener event
  | .transfer _ => Listener.deliver o.transferListener event

end Overrides

/-- Who listened already is told first, then who is added. -/
theorem Listener.deliver_after (existing added : Option Listener) (event : Event) :
    deliver ((added.map (after existing)).or existing) event =
      deliver existing event ++ deliver added event := by
  cases added with
  | none => simp [deliver]
  | some added =>
    cases existing with
    | none => rfl
    | some first => simp [deliver, after, recorders]

namespace ResolvedSettings

/-- The first of the active profiles that declares a property gives its value. -/
theorem get?_profileProperties (r : ResolvedSettings) (name : String) :
    r.profileProperties.get? name = r.activeProfiles.findSome? (·.properties.get? name) := by
  have hfold (profiles : List Profile) (p : Properties) :
      (profiles.foldl (fun p profile => p.underlay profile.properties) p).get? name =
        (p.get? name).or (profiles.findSome? (·.properties.get? name)) := by
    induction profiles generalizing p with
    | nil => simp
    | cons profile rest ih =>
      rw [List.foldl_cons, ih, Properties.get?_underlay, Option.or_assoc, List.findSome?_cons]
      cases profile.properties.get? name <;> rfl
  rw [profileProperties, hfold, Properties.get?_empty, Option.none_or]

end ResolvedSettings

namespace Context

theorem property?_sessionUnder (s : Session) (o : Overrides) (name : String) :
    (sessionUnder s o).property? name =
      (o.userProperties.get? name).or (s.property? name) := by
  have huser : (sessionUnder s o).userProperties.get? name =
      (o.userProperties.get? name).or (s.userProperties.get? name) :=
    Properties.get?_overlay s.userProperties o.userProperties name
  calc (sessionUnder s o).property? name
      = (((sessionUnder s o).userProperties.get? name).or (s.configProperties.get? name)).or
          (s.systemProperties.get? name) := rfl
    _ = (o.userProperties.get? name).or (s.property? name) := by
        rw [huser, Option.or_assoc, Option.or_assoc, Session.property?, Option.or_assoc]

theorem deliver_sessionUnder (s : Session) (o : Overrides) (event : Event) :
    (sessionUnder s o).deliver event = s.deliver event ++ o.deliver event := by
  cases event with
  | repository event => exact Listener.deliver_after s.repositoryListener o.repositoryListener _
  | transfer event => exact Listener.deliver_after s.transferListener o.transferListener _

/-- A property of an assembled context is what the overrides' user properties say, else what the
first active profile that declares it says, else what the overrides' system properties say. -/
theorem property?_sessionOver (o : Overrides) (resolved : ResolvedSettings) (chain : LocalChain)
    (name : String) : (sessionOver o resolved chain).property? name =
      ((o.userProperties.get? name).or
        (resolved.activeProfiles.findSome? (·.properties.get? name))).or
        (o.systemProperties.get? name) := by
  have huser : (sessionOver o resolved chain).userProperties.get? name =
      (o.userProperties.get? name).or (resolved.profileProperties.get? name) :=
    Properties.get?_underlay o.userProperties resolved.profileProperties name
  -- The profiles' properties count twice, as the user's and as the configuration's.
  have htwice (first second third : Option String) :
      (first.or second).or (second.or third) = (first.or second).or third := by
    cases first <;> cases second <;> rfl
  calc (sessionOver o resolved chain).property? name
      = (((sessionOver o resolved chain).userProperties.get? name).or
          (resolved.profileProperties.get? name)).or (o.systemProperties.get? name) := rfl
    _ = ((o.userProperties.get? name).or (resolved.profileProperties.get? name)).or
          (o.systemProperties.get? name) := by rw [huser, Option.or_assoc, htwice]
    _ = ((o.userProperties.get? name).or
          (resolved.activeProfiles.findSome? (·.properties.get? name))).or
          (o.systemProperties.get? name) := by rw [ResolvedSettings.get?_profileProperties]

/-- The second context has what the first one has with the layers of overrides laid over it. -/
structure Layered (r : Context) (os : List Overrides) (c : Context) : Prop where
  offline : c.session.offline = true ↔ r.session.offline = true ∨ ∃ o ∈ os, o.offline = true
  checksum : c.session.checksum = (Overrides.last? (·.checksum) os).or r.session.checksum
  update : c.session.update =
    (Overrides.last? (·.snapshotUpdates.map SnapshotUpdates.policy) os).or r.session.update
  property : ∀ name, c.session.property? name =
    (Overrides.last? (·.userProperties.get? name) os).or (r.session.property? name)
  selectors : c.session.selectors = r.session.selectors
  systemProperties : c.session.systemProperties = r.session.systemProperties
  configProperties : c.session.configProperties = r.session.configProperties
  activeProfiles : c.activeProfiles = r.activeProfiles
  /-- What is sent arrives at the root's listeners and then layer by layer, once for each. -/
  events : ∀ event, c.session.deliver event =
    r.session.deliver event ++ os.flatMap (·.deliver event)

theorem Layered.refl (r : Context) : r.Layered [] r where
  offline := by simp
  checksum := rfl
  update := rfl
  property _ := rfl
  selectors := rfl
  systemProperties := rfl
  configProperties := rfl
  activeProfiles := rfl
  events _ := by simp

theorem Layered.release {r c : Context} {os : List Overrides} (h : r.Layered os c)
    (released : Bool) : r.Layered os { c with released } :=
  ⟨h.offline, h.checksum, h.update, h.property, h.selectors, h.systemProperties,
    h.configProperties, h.activeProfiles, h.events⟩

theorem Layered.derive {r c : Context} {os : List Overrides} (h : r.Layered os c) (o : Overrides)
    (child : Nat) (switched : Option LocalChain) :
    r.Layered (os ++ [o]) (c.derived child o switched) where
  offline := by
    have hunder : (c.derived child o switched).session.offline =
        (c.session.offline || o.offline) := rfl
    rw [hunder, Bool.or_eq_true, h.offline, or_assoc]
    simp [or_and_right, exists_or]
  checksum := by
    rw [Overrides.last?_concat, Option.or_assoc, ← h.checksum]
    rfl
  update := by
    rw [Overrides.last?_concat, Option.or_assoc, ← h.update]
    rfl
  property name := by
    rw [Overrides.last?_concat, Option.or_assoc, ← h.property name]
    exact property?_sessionUnder c.session o name
  selectors := h.selectors
  systemProperties := h.systemProperties
  configProperties := h.configProperties
  activeProfiles := h.activeProfiles
  events event := by
    rw [List.flatMap_append, List.flatMap_singleton, ← List.append_assoc, ← h.events event]
    exact deliver_sessionUnder c.session o event

end Context

namespace World

theorem Descends.layered {w : World} {root : Nat} {actions : List Action} {os : List Overrides}
    {number : Nat} (h : w.Descends root actions os number) {r : Context}
    (hr : w.context? root = some r) :
    ∃ c, (w.run actions).context? number = some c ∧ r.Layered os c := by
  apply h.context hr (Context.Layered.refl r)
  · intro os c released hlayered
    exact hlayered.release released
  · intro os c o child switched hlayered
    exact hlayered.derive o child switched

/-- Whatever is derived from a managed context, in any number of steps and whatever else happens,
has the layers of overrides laid over the context that was created. -/
theorem created_layered (w : World) (p : Provider) (hmanaged : p.isManaged = true) (o : Overrides)
    {root : Nat} (hcreate : (w.create p o).1 = .ok root) :
    ∃ r resolved, (w.create p o).2.context? root = some r ∧
      p.resolver.resolve w.host w.files o = .ok resolved ∧
      r.activeProfiles = resolved.activeProfileIds ∧
      (∀ name, r.session.property? name = ((o.userProperties.get? name).or
        (resolved.activeProfiles.findSome? (·.properties.get? name))).or
        (o.systemProperties.get? name)) ∧
      ∀ actions os number, (w.create p o).2.Descends root actions os number →
        ∃ c, ((w.create p o).2.run actions).context? number = some c ∧ r.Layered os c := by
  obtain ⟨resolved, chain, hresolved, hr⟩ := created_onGround hmanaged hcreate
  refine ⟨_, resolved, hr, hresolved, rfl, ?_, ?_⟩
  · intro name
    exact Context.property?_sessionOver o resolved chain name
  · intro actions os number hdescends
    exact hdescends.layered hr

/-- Overrides that set one property and add one listener. -/
def layer (value listener : String) : Overrides :=
  { small.overridesAt "/m2" with
    userProperties := .ofList [("key", value)]
    repositoryListener := some (.recorder listener) }

/-- Two layers and one in between that says nothing, with another context coming and going. -/
def layers : List Action :=
  [.customize 0 (layer "first" "b"), .customize 1 (small.overridesAt "/m2"),
    .create smallProvider (layer "other" "x"), .drop 3, .customize 2 (layer "second" "c")]

/-- The last layer gives the property, and all layers hear of an event, the root first. -/
theorem created_layered_twice :
    ∃ c, ((small.create smallProvider (layer "root" "a")).2.run layers).context? 4 = some c ∧
      c.session.property? "key" = some "second" ∧
      ∀ event, c.session.deliver (.repository event) =
        [⟨"a", .repository event⟩, ⟨"b", .repository event⟩, ⟨"c", .repository event⟩] := by
  have hcreate : (small.create smallProvider (layer "root" "a")).1 = .ok 0 := rfl
  obtain ⟨r, resolved, hr, -, -, -, hlayered⟩ :=
    created_layered small smallProvider rfl (layer "root" "a") hcreate
  have hdescends : (small.create smallProvider (layer "root" "a")).2.Descends 0 layers
      [layer "first" "b", small.overridesAt "/m2", layer "second" "c"] 4 := by
    have hfirst := Descends.root.customize
      (show ((small.create smallProvider (layer "root" "a")).2.run []).made?
        (.customize 0 (layer "first" "b")) = some 1 from rfl)
    have hthen := hfirst.customize
      (show (World.run _ _).made? (.customize 1 (small.overridesAt "/m2")) = some 2 from rfl)
    have hwaited := (hthen.wait (.create smallProvider (layer "other" "x"))).wait (.drop 3)
    exact hwaited.customize
      (show (World.run _ _).made? (.customize 2 (layer "second" "c")) = some 4 from rfl)
  obtain ⟨c, hc, h⟩ := hlayered layers _ 4 hdescends
  refine ⟨c, hc, ?_, ?_⟩
  · have hlast : Overrides.last? (·.userProperties.get? "key")
        [layer "first" "b", small.overridesAt "/m2", layer "second" "c"] = some "second" := by
      decide
    rw [h.property, hlast, Option.some_or]
  · intro event
    obtain rfl := Option.some.inj hr
    exact h.events (.repository event)

end World

end Depot
