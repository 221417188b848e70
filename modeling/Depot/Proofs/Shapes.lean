import Depot.Proofs.Nodes
import Depot.Proofs.Succeeding
import Depot.Settings.Reading

/-! What references cannot bring into settings. The shape of settings is what they are without their
texts: how much is declared, which options are there, every switch and every port. Readers find the
same shape in values that are alike (`Keeps`), so the settings of a file have one shape, whatever
the references in it stand for (`interpolation_keeps_shape`). -/

namespace Depot

/-! ### Shapes -/

/-- What is shown of a text. -/
def blank (_ : String) : String := ""

/-- The map with the same names and no values. -/
def Properties.shape (p : Properties) : Properties :=
  ⟨p.entries.map fun e => (e.1, ""), List.pairwise_map.mpr p.sorted⟩

theorem Properties.map_insertEntry (name value : String) (entries : List (String × String)) :
    (insertEntry name value entries).map (fun e => (e.1, "")) =
      insertEntry name "" (entries.map fun e => (e.1, "")) := by
  induction entries with
  | nil => rfl
  | cons e entries ih =>
    rw [insertEntry, List.map_cons, insertEntry]
    split_ifs
    · rfl
    · rfl
    · rw [List.map_cons, ih]

theorem Properties.shape_insert (p : Properties) (name value : String) :
    (p.insert name value).shape = p.shape.insert name "" := by
  rw [shape, insert, Properties.mk.injEq]
  exact map_insertEntry name value p.entries

/-- The names in a map are those of the entries it is made of, whatever values they have. -/
theorem Properties.shape_ofList (entries : List (String × String)) :
    (ofList entries).shape =
      (entries.map Prod.fst).foldl (fun p name => p.insert name "") empty := by
  rw [List.foldl_map]
  exact (List.foldl_hom shape fun p e => (shape_insert p e.1 e.2).symm).symm

def Server.shape (s : Server) : Server :=
  { id := ""
    username := s.username.map blank
    password := s.password.map blank
    privateKey := s.privateKey.map blank
    passphrase := s.passphrase.map blank }

def MirrorSettings.shape (m : MirrorSettings) : MirrorSettings :=
  { id := ""
    name := m.name.map blank
    url := ""
    mirrorOf := ""
    layout := m.layout.map blank
    mirrorOfLayouts := m.mirrorOfLayouts.map blank
    blocked := m.blocked }

def ProxySettings.shape (p : ProxySettings) : ProxySettings :=
  { id := ""
    active := p.active
    protocol := ""
    host := ""
    port := p.port
    username := p.username.map blank
    password := p.password.map blank
    nonProxyHosts := p.nonProxyHosts.map blank }

def OsCondition.shape (c : OsCondition) : OsCondition :=
  { name := c.name.map blank
    family := c.family.map blank
    arch := c.arch.map blank
    version := c.version.map blank }

def PropertyCondition.shape (c : PropertyCondition) : PropertyCondition :=
  { name := ""
    value := c.value.map blank }

def FileCondition.shape (c : FileCondition) : FileCondition :=
  { existing := c.existing.map blank
    missing := c.missing.map blank }

def Activation.shape (a : Activation) : Activation :=
  { activeByDefault := a.activeByDefault
    jdk := a.jdk.map blank
    os := a.os.map OsCondition.shape
    property := a.property.map PropertyCondition.shape
    file := a.file.map FileCondition.shape }

/-- Of updates and checks there is only whether they are declared, for they are named by texts. -/
def PolicySettings.shape (p : PolicySettings) : PolicySettings :=
  { enabled := p.enabled
    update := p.update.map fun _ => .daily
    checksum := p.checksum.map fun _ => .warn }

def RepositorySettings.shape (r : RepositorySettings) : RepositorySettings :=
  { id := ""
    name := r.name.map blank
    url := ""
    layout := ""
    releases := r.releases.map PolicySettings.shape
    snapshots := r.snapshots.map PolicySettings.shape }

def Profile.shape (p : Profile) : Profile :=
  { id := ""
    activation := p.activation.map Activation.shape
    properties := p.properties.shape
    repositories := p.repositories.map RepositorySettings.shape }

def Settings.shape (s : Settings) : Settings :=
  { localRepository := s.localRepository.map blank
    offline := s.offline
    activeProfiles := s.activeProfiles.map blank
    servers := s.servers.map Server.shape
    mirrors := s.mirrors.map MirrorSettings.shape
    proxies := s.proxies.map ProxySettings.shape
    profiles := s.profiles.map Profile.shape }

/-! ### Two readings -/

section Agree

variable {α β γ : Type}

/-- The results are related, if there are two. -/
def Agree (R : α → α → Prop) (x y : Option α) : Prop :=
  ∀ a ∈ x, ∀ b ∈ y, R a b

/-- The shapes are the same. -/
def SameUnder (shape : α → γ) (a b : α) : Prop :=
  shape a = shape b

variable {R : α → α → Prop} {S : β → β → Prop} {shape : α → γ} {x y : Option α} {a b : α}

theorem Agree.none_left : Agree R none y :=
  fun _ ha => nomatch ha

theorem Agree.none_right : Agree R x none :=
  fun _ _ _ hb => nomatch hb

theorem Agree.pure (h : R a b) : Agree R (pure a) (pure b) := by
  rintro a' ha b' hb
  cases ha
  cases hb
  exact h

theorem Agree.bind {f g : α → Option β} (h : Agree R x y)
    (hf : ∀ a b, R a b → Agree S (f a) (g b)) : Agree S (x >>= f) (y >>= g) := by
  intro a' ha b' hb
  obtain ⟨a, hx, ha⟩ := Option.bind_eq_some_iff.mp ha
  obtain ⟨b, hy, hb⟩ := Option.bind_eq_some_iff.mp hb
  exact hf a b (h a hx b hy) a' ha b' hb

theorem Agree.of_rel (h : Option.Rel R x y) : Agree R x y := by
  cases h with
  | none => exact .none_left
  | some h => exact .pure h

theorem Agree.map_some (h : Agree (SameUnder shape) x y) :
    Agree (SameUnder (Option.map shape)) (x.map some) (y.map some) := by
  rintro _ ha _ hb
  obtain ⟨a, hx, rfl⟩ := Option.map_eq_some_iff.mp ha
  obtain ⟨b, hy, rfl⟩ := Option.map_eq_some_iff.mp hb
  exact congrArg some (h a hx b hy)

/-- What is read from values that are alike has the same shape. -/
def Keeps (read : Toml.Value → Option α) (shape : α → γ) : Prop :=
  ∀ v w, v.Alike w → Agree (SameUnder shape) (read v) (read w)

/-- Every reader keeps a shape in which nothing is shown. -/
theorem keeps_const (read : Toml.Value → Option α) (c : γ) : Keeps read fun _ => c :=
  fun _ _ _ _ _ _ _ => rfl

end Agree

/-! ### Fields -/

namespace FieldSource

/-- The fields at a position and under a name are alike, or there is none. -/
def Alike (s s' : FieldSource) : Prop :=
  ∀ index name, Option.Rel Toml.Value.Alike (s.get? index name) (s'.get? index name)

theorem agree_ofValue? {v w : Toml.Value} (h : v.Alike w) (surplus : Surplus) (count : Nat) :
    Agree Alike (ofValue? surplus count v) (ofValue? surplus count w) := by
  intro s hs s' hs' index name
  cases v with
  | table entries =>
    cases w with
    | table entries' =>
      cases hs
      cases hs'
      exact h.rel_lookup name
    | _ => cases h.node
  | array items =>
    cases w with
    | array items' =>
      rw [ofValue?] at hs hs'
      split at hs
      · cases hs
      split at hs'
      · cases hs'
      cases hs
      cases hs'
      exact h.rel_getElem? index
    | _ => cases h.node
  | _ => cases hs

variable {α γ : Type} {s s' : FieldSource} {read : Toml.Value → Option α} {shape : α → γ}

theorem Alike.required (hs : s.Alike s') (h : Keeps read shape) {index : Nat} {name : String} :
    Agree (SameUnder shape) (s.required read index name) (s'.required read index name) := by
  rw [FieldSource.required, FieldSource.required]
  exact (Agree.of_rel (hs index name)).bind h

theorem Alike.withDefault (hs : s.Alike s') (h : Keeps read shape) {index : Nat} {name : String}
    {fallback : α} :
    Agree (SameUnder shape) (s.withDefault read index name fallback)
      (s'.withDefault read index name fallback) := by
  rw [FieldSource.withDefault, FieldSource.withDefault]
  have hfields := hs index name
  generalize s.get? index name = field, s'.get? index name = field' at hfields ⊢
  cases hfields with
  | none => exact .pure rfl
  | some hfield => exact h _ _ hfield

theorem Alike.optional (hs : s.Alike s') (h : Keeps read shape) {index : Nat} {name : String} :
    Agree (SameUnder (Option.map shape)) (s.optional read index name)
      (s'.optional read index name) :=
  hs.withDefault fun v w hvw => (h v w hvw).map_some

end FieldSource

/-! ### Readers -/

namespace Decoding

theorem keeps_text : Keeps text blank :=
  keeps_const text ""

theorem keeps_updatePolicy : Keeps updatePolicy fun _ => UpdatePolicy.daily :=
  keeps_const updatePolicy UpdatePolicy.daily

theorem keeps_checksumPolicy : Keeps checksumPolicy fun _ => ChecksumPolicy.warn :=
  keeps_const checksumPolicy ChecksumPolicy.warn

theorem keeps_boolean : Keeps boolean id := by
  intro v w h a ha b hb
  cases v <;> cases ha
  cases w <;> cases hb
  exact Toml.Value.Node.boolean.inj h.node

theorem keeps_port : Keeps port id := by
  intro v w h a ha b hb
  cases v with
  | integer n =>
    cases w with
    | integer m =>
      cases h.node
      exact Option.some.inj (ha.symm.trans hb)
    | _ => cases hb
  | _ => cases ha

variable {α γ : Type} {read : Toml.Value → Option α} {shape : α → γ}

theorem agree_mapM (h : Keeps read shape) {vs ws : List Toml.Value}
    (hvs : List.Forall₂ Toml.Value.Alike vs ws) :
    Agree (SameUnder (List.map shape)) (vs.mapM read) (ws.mapM read) := by
  induction hvs with
  | nil => exact .pure rfl
  | cons hv _ ih =>
    rw [List.mapM_cons, List.mapM_cons]
    refine (h _ _ hv).bind fun a b hab => ih.bind fun as bs hrest => .pure ?_
    exact congrArg₂ List.cons hab hrest

theorem keeps_list (h : Keeps read shape) : Keeps (list read) (List.map shape) := by
  intro v w hvw
  cases v with
  | array items =>
    cases w with
    | array items' => exact agree_mapM h hvw.parts
    | _ => exact .none_right
  | _ => exact .none_left

/-- The properties that are read have the names of the entries. -/
theorem map_fst_of_mapM_text {entries : List (String × Toml.Value)}
    {pairs : List (String × String)}
    (h : entries.mapM (fun (name, v) => (text v).map (name, ·)) = some pairs) :
    pairs.map Prod.fst = entries.map Prod.fst := by
  induction entries generalizing pairs with
  | nil =>
    cases h
    rfl
  | cons e entries ih =>
    rw [List.mapM_cons] at h
    obtain ⟨pair, hpair, h⟩ := Option.bind_eq_some_iff.mp h
    obtain ⟨rest, hrest, h⟩ := Option.bind_eq_some_iff.mp h
    obtain ⟨value, -, rfl⟩ := Option.map_eq_some_iff.mp hpair
    cases h
    rw [List.map_cons, List.map_cons, ih hrest]

theorem keeps_properties : Keeps properties Properties.shape := by
  intro v w h
  cases v with
  | table entries =>
    cases w with
    | table entries' =>
      have hkeys : entries.map Prod.fst = entries'.map Prod.fst :=
        Toml.Value.Node.table.inj h.node
      refine Agree.bind (R := SameUnder (List.map Prod.fst)) (fun pairs hpairs pairs' hpairs' => ?_)
        fun pairs pairs' hpairs => .pure ?_
      · rw [SameUnder, map_fst_of_mapM_text hpairs, map_fst_of_mapM_text hpairs', hkeys]
      · rw [SameUnder] at hpairs ⊢
        rw [Properties.shape_ofList, Properties.shape_ofList, hpairs]
    | _ => exact .none_right
  | _ => exact .none_left

end Decoding

open Decoding

theorem Server.keeps_ofValue? (surplus : Surplus) : Keeps (ofValue? surplus) shape := by
  intro v w h
  refine (FieldSource.agree_ofValue? h surplus 5).bind fun s s' hs => ?_
  refine (hs.required keeps_text).bind fun _ _ hid => ?_
  refine (hs.optional keeps_text).bind fun _ _ husername => ?_
  refine (hs.optional keeps_text).bind fun _ _ hpassword => ?_
  refine (hs.optional keeps_text).bind fun _ _ hprivateKey => ?_
  refine (hs.optional keeps_text).bind fun _ _ hpassphrase => .pure ?_
  simp_all only [SameUnder, shape]

theorem MirrorSettings.keeps_ofValue? (surplus : Surplus) : Keeps (ofValue? surplus) shape := by
  intro v w h
  refine (FieldSource.agree_ofValue? h surplus 7).bind fun s s' hs => ?_
  refine (hs.required keeps_text).bind fun _ _ hid => ?_
  refine (hs.optional keeps_text).bind fun _ _ hname => ?_
  refine (hs.required keeps_text).bind fun _ _ hurl => ?_
  refine (hs.required keeps_text).bind fun _ _ hmirrorOf => ?_
  refine (hs.optional keeps_text).bind fun _ _ hlayout => ?_
  refine (hs.optional keeps_text).bind fun _ _ hmirrorOfLayouts => ?_
  refine (hs.withDefault keeps_boolean).bind fun _ _ hblocked => .pure ?_
  simp_all only [SameUnder, shape, id_eq]

theorem ProxySettings.keeps_ofValue? (surplus : Surplus) : Keeps (ofValue? surplus) shape := by
  intro v w h
  refine (FieldSource.agree_ofValue? h surplus 8).bind fun s s' hs => ?_
  refine (hs.withDefault keeps_text).bind fun _ _ hid => ?_
  refine (hs.withDefault keeps_boolean).bind fun _ _ hactive => ?_
  refine (hs.withDefault keeps_text).bind fun _ _ hprotocol => ?_
  refine (hs.required keeps_text).bind fun _ _ hhost => ?_
  refine (hs.withDefault keeps_port).bind fun _ _ hport => ?_
  refine (hs.optional keeps_text).bind fun _ _ husername => ?_
  refine (hs.optional keeps_text).bind fun _ _ hpassword => ?_
  refine (hs.optional keeps_text).bind fun _ _ hnonProxyHosts => .pure ?_
  simp_all only [SameUnder, shape, id_eq]

theorem OsCondition.keeps_ofValue? (surplus : Surplus) : Keeps (ofValue? surplus) shape := by
  intro v w h
  refine (FieldSource.agree_ofValue? h surplus 4).bind fun s s' hs => ?_
  refine (hs.optional keeps_text).bind fun _ _ hname => ?_
  refine (hs.optional keeps_text).bind fun _ _ hfamily => ?_
  refine (hs.optional keeps_text).bind fun _ _ harch => ?_
  refine (hs.optional keeps_text).bind fun _ _ hversion => .pure ?_
  simp_all only [SameUnder, shape]

theorem PropertyCondition.keeps_ofValue? (surplus : Surplus) : Keeps (ofValue? surplus) shape := by
  intro v w h
  refine (FieldSource.agree_ofValue? h surplus 2).bind fun s s' hs => ?_
  refine (hs.required keeps_text).bind fun _ _ hname => ?_
  refine (hs.optional keeps_text).bind fun _ _ hvalue => .pure ?_
  simp_all only [SameUnder, shape]

theorem FileCondition.keeps_ofValue? (surplus : Surplus) : Keeps (ofValue? surplus) shape := by
  intro v w h
  refine (FieldSource.agree_ofValue? h surplus 2).bind fun s s' hs => ?_
  refine (hs.optional keeps_text).bind fun _ _ hexisting => ?_
  refine (hs.optional keeps_text).bind fun _ _ hmissing => .pure ?_
  simp_all only [SameUnder, shape]

theorem Activation.keeps_ofValue? (surplus : Surplus) : Keeps (ofValue? surplus) shape := by
  intro v w h
  refine (FieldSource.agree_ofValue? h surplus 5).bind fun s s' hs => ?_
  refine (hs.withDefault keeps_boolean).bind fun _ _ hactiveByDefault => ?_
  refine (hs.optional keeps_text).bind fun _ _ hjdk => ?_
  refine (hs.optional (OsCondition.keeps_ofValue? surplus)).bind fun _ _ hos => ?_
  refine (hs.optional (PropertyCondition.keeps_ofValue? surplus)).bind fun _ _ hproperty => ?_
  refine (hs.optional (FileCondition.keeps_ofValue? surplus)).bind fun _ _ hfile => .pure ?_
  simp_all only [SameUnder, shape, id_eq]

theorem PolicySettings.keeps_ofValue? (surplus : Surplus) : Keeps (ofValue? surplus) shape := by
  intro v w h
  refine (FieldSource.agree_ofValue? h surplus 3).bind fun s s' hs => ?_
  refine (hs.withDefault keeps_boolean).bind fun _ _ henabled => ?_
  refine (hs.optional keeps_updatePolicy).bind fun _ _ hupdate => ?_
  refine (hs.optional keeps_checksumPolicy).bind fun _ _ hchecksum => .pure ?_
  simp_all only [SameUnder, shape, id_eq]

theorem RepositorySettings.keeps_ofValue? (surplus : Surplus) : Keeps (ofValue? surplus) shape := by
  intro v w h
  refine (FieldSource.agree_ofValue? h surplus 6).bind fun s s' hs => ?_
  refine (hs.required keeps_text).bind fun _ _ hid => ?_
  refine (hs.optional keeps_text).bind fun _ _ hname => ?_
  refine (hs.required keeps_text).bind fun _ _ hurl => ?_
  refine (hs.withDefault keeps_text).bind fun _ _ hlayout => ?_
  refine (hs.optional (PolicySettings.keeps_ofValue? surplus)).bind fun _ _ hreleases => ?_
  refine (hs.optional (PolicySettings.keeps_ofValue? surplus)).bind fun _ _ hsnapshots => .pure ?_
  simp_all only [SameUnder, shape]

theorem Profile.keeps_ofValue? (surplus : Surplus) : Keeps (ofValue? surplus) shape := by
  intro v w h
  refine (FieldSource.agree_ofValue? h surplus 4).bind fun s s' hs => ?_
  refine (hs.required keeps_text).bind fun _ _ hid => ?_
  refine (hs.optional (Activation.keeps_ofValue? surplus)).bind fun _ _ hactivation => ?_
  refine (hs.withDefault keeps_properties).bind fun _ _ hproperties => ?_
  refine (hs.withDefault (keeps_list (RepositorySettings.keeps_ofValue? surplus))).bind
    fun _ _ hrepositories => .pure ?_
  simp_all only [SameUnder, shape]

theorem Settings.keeps_ofValue? (surplus : Surplus) : Keeps (ofValue? surplus) shape := by
  intro v w h
  refine (FieldSource.agree_ofValue? h surplus 7).bind fun s s' hs => ?_
  refine (hs.optional keeps_text).bind fun _ _ hlocalRepository => ?_
  refine (hs.optional keeps_boolean).bind fun _ _ hoffline => ?_
  refine (hs.withDefault (keeps_list keeps_text)).bind fun _ _ hactiveProfiles => ?_
  refine (hs.withDefault (keeps_list (Server.keeps_ofValue? surplus))).bind fun _ _ hservers => ?_
  refine (hs.withDefault (keeps_list (MirrorSettings.keeps_ofValue? surplus))).bind
    fun _ _ hmirrors => ?_
  refine (hs.withDefault (keeps_list (ProxySettings.keeps_ofValue? surplus))).bind
    fun _ _ hproxies => ?_
  refine (hs.withDefault (keeps_list (Profile.keeps_ofValue? surplus))).bind
    fun _ _ hprofiles => .pure ?_
  simp_all only [SameUnder, shape, Option.map_id_fun, id_eq]

/-! ### Settings files -/

namespace Settings

/-- Equally many declarations of each kind, with the same switches and ports. -/
structure SameFrame (a b : Settings) : Prop where
  offline : a.offline = b.offline
  activeProfiles : a.activeProfiles.length = b.activeProfiles.length
  servers : a.servers.length = b.servers.length
  mirrors : a.mirrors.length = b.mirrors.length
  blocked : a.mirrors.map (·.blocked) = b.mirrors.map (·.blocked)
  proxies : a.proxies.length = b.proxies.length
  active : a.proxies.map (·.active) = b.proxies.map (·.active)
  port : a.proxies.map (·.port) = b.proxies.map (·.port)
  profiles : a.profiles.length = b.profiles.length
  activeByDefault :
    (a.profiles.map fun p => p.activation.map (·.activeByDefault)) =
      b.profiles.map fun p => p.activation.map (·.activeByDefault)
  repositories :
    a.profiles.map (·.repositories.length) = b.profiles.map (·.repositories.length)
  releases :
    (a.profiles.map fun p => p.repositories.map fun r => r.releases.map (·.enabled)) =
      b.profiles.map fun p => p.repositories.map fun r => r.releases.map (·.enabled)
  snapshots :
    (a.profiles.map fun p => p.repositories.map fun r => r.snapshots.map (·.enabled)) =
      b.profiles.map fun p => p.repositories.map fun r => r.snapshots.map (·.enabled)

variable {a b : Settings}

/-- What the shape of settings shows is the same in settings of the same shape. -/
theorem eq_of_shape_eq {γ : Type} (look : Settings → γ)
    (hlook : ∀ s : Settings, look s.shape = look s) (h : a.shape = b.shape) :
    look a = look b := by
  rw [← hlook a, h, hlook b]

theorem sameFrame_of_shape_eq (h : a.shape = b.shape) : a.SameFrame b where
  offline := eq_of_shape_eq (·.offline) (fun _ => rfl) h
  activeProfiles := eq_of_shape_eq (·.activeProfiles.length) (fun _ => List.length_map ..) h
  servers := eq_of_shape_eq (·.servers.length) (fun _ => List.length_map ..) h
  mirrors := eq_of_shape_eq (·.mirrors.length) (fun _ => List.length_map ..) h
  blocked := eq_of_shape_eq (·.mirrors.map (·.blocked)) (fun _ => List.map_map ..) h
  proxies := eq_of_shape_eq (·.proxies.length) (fun _ => List.length_map ..) h
  active := eq_of_shape_eq (·.proxies.map (·.active)) (fun _ => List.map_map ..) h
  port := eq_of_shape_eq (·.proxies.map (·.port)) (fun _ => List.map_map ..) h
  profiles := eq_of_shape_eq (·.profiles.length) (fun _ => List.length_map ..) h
  activeByDefault := by
    refine eq_of_shape_eq (fun s => s.profiles.map fun p => p.activation.map (·.activeByDefault))
      (fun s => ?_) h
    simp [shape, Profile.shape, Activation.shape, Function.comp_def]
  repositories := by
    refine eq_of_shape_eq (fun s => s.profiles.map (·.repositories.length)) (fun s => ?_) h
    simp [shape, Profile.shape, Function.comp_def]
  releases := by
    refine eq_of_shape_eq (fun s => s.profiles.map fun p =>
      p.repositories.map fun r => r.releases.map (·.enabled)) (fun s => ?_) h
    simp [shape, Profile.shape, RepositorySettings.shape, PolicySettings.shape,
      Function.comp_def]
  snapshots := by
    refine eq_of_shape_eq (fun s => s.profiles.map fun p =>
      p.repositories.map fun r => r.snapshots.map (·.enabled)) (fun s => ?_) h
    simp [shape, Profile.shape, RepositorySettings.shape, PolicySettings.shape,
      Function.comp_def]

/-- One document has one shape, whatever the references in it stand for. -/
theorem agree_ofDocument? (p q : Properties) (document : Toml.Value) :
    Agree (SameUnder shape) (ofDocument? p document) (ofDocument? q document) := by
  rw [ofDocument?, ofDocument?]
  cases document.recoverMoments? with
  | none => exact .none_left
  | some recovered =>
    exact Settings.keeps_ofValue? .refused _ _
      (recovered.alike_mapMoments_mapTexts p.interpolate q.interpolate)

theorem loadLayerBy_eq_ok_some {document? : String → Option Toml.Value} {files : FileSystem}
    {p : Properties} {path : Path} :
    loadLayerBy document? files p path = .ok (some a) ↔
      files.isFile path ∧ ∃ content document, files.readText path = .ok content ∧
        document? content = some document ∧ ofDocument? p document = some a := by
  rw [loadLayerBy]
  split
  · rename_i hfile
    cases files.readText path with
    | error cause => simp
    | ok content =>
      simp only [Except.ok.injEq, exists_and_left, exists_eq_left', and_iff_right hfile]
      rw [← Option.bind_eq_some_iff]
      cases (document? content).bind (ofDocument? p) with
      | none => simp
      | some settings => simp
  · rename_i hfile
    simp [hfile]

/-- Replacing references in a document keeps its keys, the lengths of its arrays, its nesting and
everything that is no text, and in the place of each text there is what its references make of it.
The settings of a file have the same shape under any two maps under which they can be read, in
whatever way its text is read as a document. -/
theorem interpolation_keeps_shape :
    (∀ (p : Properties) (document result : Toml.Value),
      document.mapTexts p.interpolate = result ↔
        ∀ place, result.node? place = (document.node? place).map (.mapText p.interpolate)) ∧
    ∀ (document? : String → Option Toml.Value) (files : FileSystem) (path : Path)
      (p q : Properties) (a b : Settings),
      loadLayerBy document? files p path = .ok (some a) →
      loadLayerBy document? files q path = .ok (some b) →
        a.shape = b.shape ∧ a.SameFrame b := by
  constructor
  · intro p document result
    constructor
    · rintro rfl place
      exact document.node?_mapTexts p.interpolate place
    · intro h
      exact Toml.Value.eq_of_node? fun place =>
        (document.node?_mapTexts p.interpolate place).trans (h place).symm
  · intro document? files path p q a b ha hb
    obtain ⟨-, content, document, hread, hparse, ha⟩ := loadLayerBy_eq_ok_some.mp ha
    obtain ⟨-, content', document', hread', hparse', hb⟩ := loadLayerBy_eq_ok_some.mp hb
    cases hread.symm.trans hread'
    cases hparse.symm.trans hparse'
    have hshape : a.shape = b.shape := agree_ofDocument? p q document a ha b hb
    exact ⟨hshape, sameFrame_of_shape_eq hshape⟩

/-- A value that is written like settings ends no text and begins no server. -/
theorem interpolation_keeps_shape_hostile :
    let content := "offline = false\nlocal-repository = \"$\x7bodd\x7d/cache\"\n" ++
      "[[servers]]\nid = \"$\x7bodd\x7d\"\n"
    let files : FileSystem :=
      { workingDirectory := [], nodes := [(["settings"], .file content.toUTF8)] }
    let odd := "x\"\noffline = true\n[[servers]]\nid = \"$\x7bodd\x7d\"\n#"
    let a : Settings :=
      { localRepository := some (odd ++ "/cache")
        offline := some false
        servers := [{ id := odd }] }
    let b : Settings :=
      { localRepository := some "$\x7bodd\x7d/cache"
        offline := some false
        servers := [{ id := "$\x7bodd\x7d" }] }
    loadLayer files (.ofList [("odd", odd)]) ⟨"/settings"⟩ = .ok (some a) ∧
      loadLayer files ∅ ⟨"/settings"⟩ = .ok (some b) ∧ a.shape = b.shape ∧ a.SameFrame b := by
  intro content files odd a b
  have ha : loadLayer files (.ofList [("odd", odd)]) ⟨"/settings"⟩ = .ok (some a) :=
    Succeeding.toOption_eq_some.mp (by decide +kernel)
  have hb : loadLayer files ∅ ⟨"/settings"⟩ = .ok (some b) :=
    Succeeding.toOption_eq_some.mp (by decide +kernel)
  exact ⟨ha, hb, interpolation_keeps_shape.2 Toml.Document.parse files _ _ _ a b ha hb⟩

end Settings

end Depot
