import Depot.Proofs.Relocation
import Depot.Proofs.Seclusion

/-! Which properties the local chain of a context goes by. Every derivation lays its user properties
over the parent's, but it opens a chain only when it names another local repository. So the chain of
a context is the one that its line of descent opened last, with the properties of that time, and a
tail that is set later has to wait for the next opening (`ChainedSince.derive`). Which derivation
opened it can be read off the overrides alone. -/

namespace Depot

theorem Properties.overlay_assoc (p q r : Properties) :
    (p.overlay q).overlay r = p.overlay (q.overlay r) := by
  apply eq_of_get?
  intro name
  simp only [get?_overlay, Option.or_assoc]

theorem Engine.openChain_of_away {e e' : Engine} (h : e'.away = e.away) (plan : LocalChain.Plan) :
    e'.openChain plan = e.openChain plan := by
  rw [openChain, openChain, h]

/-- The other chain answers as this one does, whatever it is asked and whatever files there are. -/
structure LocalChain.BehavesAs (c d : LocalChain) : Prop where
  baseDirectory : c.baseDirectory = d.baseDirectory
  isAvailable : ∀ files, c.isAvailable files = d.isAvailable files
  find? : ∀ files a, c.find? files a = d.find? files a
  add : ∀ files a source, c.add files a source = d.add files a source

namespace Context

/-- The local chain behaves as the one that the context's own properties describe. -/
def FollowsProperties (c : Context) (e : Engine) : Prop :=
  ∃ chain, e.openChain (.ofProperties c.localRepository c.session.effectiveProperties) = .ok chain ∧
    c.session.localChain.BehavesAs chain

theorem effectiveProperties_of_customize {c d : Context} {engine : Engine} {number : Nat}
    {o : Overrides} (h : c.customize engine number o = .ok d) :
    d.session.effectiveProperties = c.session.effectiveProperties.overlay o.userProperties := by
  obtain ⟨switched, rfl⟩ := derived_of_customize h
  exact (Properties.overlay_assoc _ _ _).symm

/-- The properties of a context that descends from this one by the overrides. -/
def propertiesUnder (c : Context) (os : List Overrides) : Properties :=
  os.foldl (fun p o => p.overlay o.userProperties) c.session.effectiveProperties

theorem propertiesUnder_concat (c : Context) (os : List Overrides) (o : Overrides) :
    c.propertiesUnder (os ++ [o]) = (c.propertiesUnder os).overlay o.userProperties := by
  rw [propertiesUnder, List.foldl_append]
  rfl

/-- Overrides that only name the same path again move nothing. -/
theorem components_localRepositoryUnder {r : Context} {before after : List Overrides}
    (h : ∀ o ∈ after, ∀ path, o.localRepository = some path →
      path.sameAs (r.localRepositoryUnder before) = true) :
    (r.localRepositoryUnder (before ++ after)).components =
      (r.localRepositoryUnder before).components := by
  induction after using List.reverseRecOn with
  | nil => rw [List.append_nil]
  | append_singleton after o ih =>
    obtain ⟨hafter, ho⟩ := List.forall_mem_append.mp h
    rw [← List.append_assoc, localRepositoryUnder_concat]
    cases hpath : o.localRepository with
    | none => exact ih hafter
    | some path => exact Path.sameAs_iff.mp (ho o List.mem_cons_self path hpath)

/-- The context comes from the root by overrides of which the last of the first part had its local
chain opened, and the others left it alone. -/
structure ChainedSince (r : Context) (e : Engine) (before after : List Overrides) (c : Context) :
    Prop where
  located : c.localRepository = r.localRepositoryUnder before
  /-- Who opened the chain, unless it is the root's, named another path than the parent had. -/
  switched : ∀ first o, before = first ++ [o] →
    ∃ path, o.localRepository = some path ∧ path.sameAs (r.localRepositoryUnder first) = false
  kept : ∀ o ∈ after, ∀ path, o.localRepository = some path →
    path.sameAs c.localRepository = true
  /-- It was opened with the properties of that time. -/
  opened : e.openChain (.ofProperties c.localRepository (r.propertiesUnder before)) =
    .ok c.session.localChain
  properties : c.session.effectiveProperties = r.propertiesUnder (before ++ after)

namespace ChainedSince

variable {r c : Context} {e : Engine} {before after : List Overrides}

theorem release (h : r.ChainedSince e before after c) (released : Bool) :
    r.ChainedSince e before after { c with released } :=
  ⟨h.located, h.switched, h.kept, h.opened, h.properties⟩

theorem of_away (h : r.ChainedSince e before after c) {e' : Engine} (haway : e'.away = e.away) :
    r.ChainedSince e' before after c :=
  { h with opened := (Engine.openChain_of_away haway _).trans h.opened }

/-- A derivation leaves the chain alone or has another one opened, with the properties that there
are then. -/
theorem derive (h : r.ChainedSince e before after c) {d : Context} {engine : Engine}
    (haway : engine.away = e.away) {number : Nat} {o : Overrides}
    (hd : c.customize engine number o = .ok d) :
    r.ChainedSince e before (after ++ [o]) d ∨
      r.ChainedSince e (before ++ after ++ [o]) [] d := by
  have hproperties : d.session.effectiveProperties =
      r.propertiesUnder (before ++ after ++ [o]) := by
    rw [effectiveProperties_of_customize hd, h.properties, propertiesUnder_concat]
  rcases chain_of_customize hd with ⟨hchain, hsame⟩ | ⟨path, hpath, hother, hopened⟩
  · have hlocal : d.localRepository = c.localRepository := by
      rw [localRepository, hchain]
      rfl
    refine .inl ⟨hlocal.trans h.located, h.switched, ?_, ?_, ?_⟩
    · rw [hlocal]
      exact List.forall_mem_append.mpr ⟨h.kept, List.forall_mem_singleton.mpr hsame⟩
    · rw [hlocal, hchain]
      exact h.opened
    · rw [← List.append_assoc]
      exact hproperties
  · obtain ⟨-, hlocal⟩ := localRepository_of_openChain hopened
    have hkept := h.kept
    rw [h.located] at hkept
    refine .inr ⟨?_, ?_, fun _ hnone => absurd hnone List.not_mem_nil, ?_, ?_⟩
    · rw [hlocal, localRepositoryUnder_concat, hpath]
      rfl
    · intro first last heq
      obtain ⟨rfl, hlast⟩ := List.append_inj' heq rfl
      obtain rfl := List.head_eq_of_cons_eq hlast
      refine ⟨path, hpath, ?_⟩
      rw [Path.sameAs, components_localRepositoryUnder hkept, ← h.located]
      exact hother
    · rw [hlocal, ← hproperties, ← Engine.openChain_of_away haway]
      exact hopened
    · rw [List.append_nil]
      exact hproperties

/-- The chain follows the context's own properties exactly when these describe the same directories
in the same way. -/
theorem openChain_effectiveProperties_iff (h : r.ChainedSince e before after c) :
    e.openChain (.ofProperties c.localRepository c.session.effectiveProperties) =
        .ok c.session.localChain ↔
      LocalChain.Plan.ofProperties c.localRepository (r.propertiesUnder (before ++ after)) =
        LocalChain.Plan.ofProperties c.localRepository (r.propertiesUnder before) := by
  obtain ⟨hfilled, hchain⟩ := Engine.openChain_ofProperties.mp h.opened
  rw [h.properties, Engine.openChain_ofProperties, hchain]
  constructor
  · rintro ⟨-, hsame⟩
    exact (LocalChain.Plan.chain_injective hsame).symm
  · intro hplan
    exact ⟨hfilled, by rw [hplan]⟩

end ChainedSince

end Context

namespace World

/-- The chain of a created context is opened with the properties of the context. -/
theorem created_chained {w : World} {p : Provider} (hmanaged : p.isManaged = true) {o : Overrides}
    {root : Nat} (hcreate : (w.create p o).1 = .ok root) :
    ∃ r e, (w.create p o).2.context? root = some r ∧
      (w.create p o).2.engines[r.engine]? = some e ∧ r.ChainedSince e [] [] r := by
  obtain ⟨e, resolved, chain, -, hground, hmade⟩ := created_ground hmanaged hcreate
  rw [hmade] at hcreate ⊢
  obtain rfl : w.contexts.length = root := Except.ok.inj hcreate
  obtain ⟨-, path, -, hopened⟩ := Context.ground_eq_ok_iff.mp hground
  have hlocal := (Context.localRepository_of_openChain
    (c := Context.onGround p w.engines.length w.contexts.length o resolved chain) hopened).2
  refine ⟨_, e, context?_addContext _ _, List.getElem?_concat_length,
    ⟨rfl, by simp, by simp, ?_, rfl⟩⟩
  rw [hlocal]
  exact hopened

/-- Along every line of descent from a managed context the local chain is the one that was opened
last, with the properties that the line had come to then: when the context was created, or else by
the latest derivation that named another local repository than its parent had. -/
theorem localChain_since_switch (w : World) (p : Provider) (hmanaged : p.isManaged = true)
    (o : Overrides) {root : Nat} (hcreate : (w.create p o).1 = .ok root) :
    ∃ r, (w.create p o).2.context? root = some r ∧
      ∀ actions os number, (w.create p o).2.Descends root actions os number →
        ∃ c e before after, ((w.create p o).2.run actions).context? number = some c ∧
          ((w.create p o).2.run actions).engine c.engine = e ∧
          os = before ++ after ∧ r.ChainedSince e before after c ∧
          (e.openChain (.ofProperties c.localRepository c.session.effectiveProperties) =
              .ok c.session.localChain ↔
            LocalChain.Plan.ofProperties c.localRepository (r.propertiesUnder os) =
              LocalChain.Plan.ofProperties c.localRepository (r.propertiesUnder before)) := by
  obtain ⟨r, e, hr, he, hroot⟩ := created_chained hmanaged hcreate
  refine ⟨r, hr, fun actions os number hdescends => ?_⟩
  obtain ⟨c, hc, hengine, before, after, rfl, hchained⟩ := hdescends.context_of_customize hr
    (P := fun os c => ∃ before after, os = before ++ after ∧ r.ChainedSince e before after c)
    ⟨[], [], rfl, hroot⟩
    (fun os c released ⟨before, after, heq, h⟩ => ⟨before, after, heq, h.release released⟩)
    fun os c first child o d ⟨before, after, heq, h⟩ hd => by
      subst heq
      rcases h.derive (engine_away_run he first) hd with hkept | hswitched
      · exact ⟨before, after ++ [o], List.append_assoc _ _ _, hkept⟩
      · exact ⟨before ++ after ++ [o], [], (List.append_nil _).symm, hswitched⟩
  have hsince := hchained.of_away (engine_away_run he actions)
  rw [← hengine] at hsince
  exact ⟨c, _, before, after, hc, rfl, rfl, hsince, hsince.openChain_effectiveProperties_iff⟩

/-- Overrides that only set the tail. -/
def tailAt (path : String) : Overrides :=
  { small.overridesAt "" with
    localRepository := none
    userProperties := .ofList [(Properties.Name.localRepositoryTail, path)] }

/-- A tail before the switch is looked into, one after it is not. -/
theorem localChain_since_switch_tails :
    ∃ c, ((small.create smallProvider (small.overridesAt "/m2")).2.run
        [.customize 0 (tailAt "/first"), .customize 1 (small.overridesAt "/other"),
          .customize 2 (tailAt "/second")]).context? 3 = some c ∧
      c.session.localChain = ⟨⟨⟨"/other"⟩, false⟩, [⟨⟨"/first"⟩, false⟩], true⟩ := by
  have hcreate : (small.create smallProvider (small.overridesAt "/m2")).1 = .ok 0 := rfl
  obtain ⟨r, hr, hchained⟩ :=
    localChain_since_switch small smallProvider rfl (small.overridesAt "/m2") hcreate
  have hdescends : (small.create smallProvider (small.overridesAt "/m2")).2.Descends 0
      [.customize 0 (tailAt "/first"), .customize 1 (small.overridesAt "/other"),
        .customize 2 (tailAt "/second")]
      [tailAt "/first", small.overridesAt "/other", tailAt "/second"] 3 := by
    have hfirst := Descends.root.customize (show ((small.create smallProvider
      (small.overridesAt "/m2")).2.run []).made? (.customize 0 (tailAt "/first")) = some 1 from rfl)
    have hthen := hfirst.customize (show (World.run _ _).made?
      (.customize 1 (small.overridesAt "/other")) = some 2 from rfl)
    exact hthen.customize (show (World.run _ _).made?
      (.customize 2 (tailAt "/second")) = some 3 from rfl)
  obtain ⟨c, e, before, after, hc, he, hsplit, hsince, -⟩ := hchained _ _ _ hdescends
  obtain rfl : ({} : Engine) = e := by
    rw [← he, ← Option.some.inj hc]
    rfl
  obtain rfl := Option.some.inj hr
  have hopened := hsince.opened
  rw [hsince.located] at hopened
  refine ⟨c, hc, ?_⟩
  -- The switch is not among those that leave the chain alone, and what follows it is.
  rcases before with _ | ⟨first, _ | ⟨second, _ | ⟨third, rest⟩⟩⟩ <;>
    simp only [List.cons_append, List.nil_append, List.cons.injEq] at hsplit
  case nil =>
    subst hsplit
    have hkept := hsince.kept _ (List.mem_cons_of_mem _ List.mem_cons_self) ⟨"/other"⟩ rfl
    rw [hsince.located] at hkept
    exact absurd hkept (by decide)
  case cons.nil =>
    obtain ⟨rfl, rfl⟩ := hsplit
    have hkept := hsince.kept _ List.mem_cons_self ⟨"/other"⟩ rfl
    rw [hsince.located] at hkept
    exact absurd hkept (by decide)
  case cons.cons.nil =>
    obtain ⟨rfl, rfl, -⟩ := hsplit
    exact (Except.ok.inj hopened).symm
  case cons.cons.cons =>
    obtain ⟨rfl, rfl, rfl, hnil⟩ := hsplit
    obtain ⟨rfl, -⟩ := List.append_eq_nil_iff.mp hnil.symm
    obtain ⟨path, hpath, -⟩ := hsince.switched [_, _] _ rfl
    cases hpath

/-- The tail that a derivation sets without moving the context is not looked into. -/
theorem localChain_unmoved_by_tail :
    let w := (small.create smallProvider (small.overridesAt "/m2")).2.run
      [.customize 0 (tailAt "/far")]
    ∃ c, w.context? 1 = some c ∧
      c.session.effectiveProperties.get? Properties.Name.localRepositoryTail = some "/far" ∧
      ¬ c.FollowsProperties (w.engine c.engine) := by
  refine ⟨_, rfl, by decide, ?_⟩
  rintro ⟨chain, hopened, hbehaves⟩
  obtain ⟨-, rfl⟩ := Engine.openChain_ofProperties.mp hopened
  have hfind := hbehaves.find? stocked.files { group := "g", name := "a", version := "1" }
  revert hfind
  decide +kernel

end World

end Depot
