import Depot.Proofs.Credentials

/-! What a secret that cannot be decrypted does to the tables. An entry unlocks when each of its secrets
can be decrypted; the others are passed over, so the tables are filled from the entries that unlock as
if nothing else were declared (`extract_eq`), and the identifiers of the others are noted, those of
proxies before those of servers (`locked_spared`). -/

namespace Depot.SelectorTables

/-! ### Entries that unlock -/

section Unlocking

variable (decrypt : String → String → Except DecryptionError String)

/-- Whether each of the secrets under the identifier can be decrypted. -/
def unlocks (id : String) (secrets : List String) : Bool :=
  secrets.all fun secret => (decrypt id secret).isOk

def unlocksProxy (p : ProxySettings) : Bool :=
  unlocks decrypt p.id (p.username.toList ++ p.password.toList)

/-- A server's name of the user is no secret. -/
def unlocksServer (server : Server) : Bool :=
  unlocks decrypt server.id (server.password.toList ++ server.passphrase.toList)

theorem isOk_decryptField (id : String) (secret : Option String) :
    (decryptField (decrypt id) secret).isOk = unlocks decrypt id secret.toList := by
  cases secret with
  | none => rfl
  | some value =>
    rw [decryptField, unlocks, Option.toList_some, List.all_cons, List.all_nil, Bool.and_true]
    cases decrypt id value <;> rfl

theorem unlocks_append (id : String) (secrets more : List String) :
    unlocks decrypt id (secrets ++ more) = (unlocks decrypt id secrets && unlocks decrypt id more) :=
  List.all_append

/-- Two secrets of one entry are decrypted exactly when both of them can be. -/
theorem isOk_decryptFields {β : Type} (id : String) (first second : Option String)
    (entry : Option String → Option String → β) :
    (do
      let first ← decryptField (decrypt id) first
      let second ← decryptField (decrypt id) second
      return entry first second : Except DecryptionError β).isOk =
      unlocks decrypt id (first.toList ++ second.toList) := by
  rw [unlocks_append, ← isOk_decryptField, ← isOk_decryptField]
  cases decryptField (decrypt id) first with
  | error cause => rfl
  | ok plain => cases decryptField (decrypt id) second <;> rfl

theorem isOk_decryptServer (server : Server) :
    (decryptServer decrypt server).isOk = unlocksServer decrypt server :=
  isOk_decryptFields decrypt server.id server.password server.passphrase
    fun password passphrase => ({ server with password, passphrase } : Server)

theorem isOk_decryptProxy (p : ProxySettings) :
    (decryptProxy decrypt p).isOk = unlocksProxy decrypt p := by
  rw [decryptProxy]
  split
  · exact isOk_decryptFields decrypt p.id p.username p.password
      fun username password => ({ p with username, password } : ProxySettings)
  · rename_i hnone
    obtain ⟨husername, hpassword⟩ : p.username = none ∧ p.password = none := by
      simpa [ProxySettings.hasCredentials] using hnone
    rw [unlocksProxy, husername, hpassword]
    rfl

/-! ### Filling the tables -/

/-- The tables with the rule of a proxy at the end, if it unlocks. -/
def enterProxy (table : Selectors) (p : ProxySettings) : Selectors :=
  (addProxy decrypt { selectors := table } p).selectors

/-- The tables with the credentials of a server, if it unlocks and has any. -/
def enterServer (table : Selectors) (server : Server) : Selectors :=
  (addServer decrypt { selectors := table } server).selectors

theorem addProxy_eq (t : SelectorTables) (p : ProxySettings) :
    addProxy decrypt t p =
      if unlocksProxy decrypt p then { t with selectors := enterProxy decrypt t.selectors p }
      else { t with dropped := t.dropped ++ [p.id] } := by
  rw [← isOk_decryptProxy, enterProxy, addProxy, addProxy]
  cases decryptProxy decrypt p <;> rfl

theorem addServer_eq (t : SelectorTables) (server : Server) :
    addServer decrypt t server =
      if unlocksServer decrypt server then
        { t with selectors := enterServer decrypt t.selectors server }
      else { t with dropped := t.dropped ++ [server.id] } := by
  rw [← isOk_decryptServer, enterServer, addServer, addServer]
  cases decryptServer decrypt server with
  | error cause => rfl
  | ok plain =>
    dsimp only
    cases plain.authentication? <;> rfl

/-- The rule of a proxy with its credentials decrypted. -/
def proxyRule? (p : ProxySettings) : Option ProxyRule :=
  (decryptProxy decrypt p).toOption.map fun plain =>
    ProxyRule.ofHosts plain.proxy plain.nonProxyHosts

/-- A proxy that unlocks adds its rule to those that are there, and nothing else. -/
theorem enterProxy_of_unlocks (table : Selectors) {p : ProxySettings}
    (h : unlocksProxy decrypt p = true) :
    ∃ rule, proxyRule? decrypt p = some rule ∧
      enterProxy decrypt table p = { table with proxies := table.proxies ++ [rule] } := by
  rw [← isOk_decryptProxy] at h
  rw [proxyRule?, enterProxy, addProxy]
  cases hplain : decryptProxy decrypt p with
  | error cause =>
    rw [hplain] at h
    cases h
  | ok plain => exact ⟨_, rfl, rfl⟩

theorem foldl_enterProxy (table : Selectors) {proxies : List ProxySettings}
    (h : ∀ p ∈ proxies, unlocksProxy decrypt p = true) :
    ∃ rules, proxies.Forall₂ (fun p rule => proxyRule? decrypt p = some rule) rules ∧
      proxies.foldl (enterProxy decrypt) table =
        { table with proxies := table.proxies ++ rules } := by
  induction proxies generalizing table with
  | nil => exact ⟨[], .nil, by rw [List.append_nil]; rfl⟩
  | cons p rest ih =>
    obtain ⟨hp, hrest⟩ := List.forall_mem_cons.mp h
    obtain ⟨rule, hrule, henter⟩ := enterProxy_of_unlocks decrypt table hp
    obtain ⟨rules, hrules, hfold⟩ := ih (enterProxy decrypt table p) hrest
    refine ⟨rule :: rules, .cons hrule hrules, ?_⟩
    rw [List.foldl_cons, hfold, henter, List.append_assoc, List.singleton_append]

/-- Servers change nothing but the credentials. -/
theorem foldl_enterServer (table : Selectors) (servers : List Server) :
    ∃ credentials, servers.foldl (enterServer decrypt) table = { table with credentials } := by
  induction servers using List.reverseRecOn with
  | nil => exact ⟨table.credentials, rfl⟩
  | append_singleton servers server ih =>
    obtain ⟨credentials, hfold⟩ := ih
    rw [List.foldl_concat, hfold, enterServer, addServer]
    cases decryptServer decrypt server with
    | error cause => exact ⟨_, rfl⟩
    | ok plain =>
      cases hgiven : plain.authentication? with
      | none => exact ⟨credentials, by simp only [hgiven]⟩
      | some authentication =>
        exact ⟨credentials.add plain.id authentication, by simp only [hgiven]⟩

end Unlocking

/-- Entries that are put into the tables one after the other, or else noted, come to the tables of
those that are put in and the identifiers of those that are not. -/
theorem foldl_fill {α : Type} {add : SelectorTables → α → SelectorTables}
    {enter : Selectors → α → Selectors} {fits : α → Bool} {id : α → String}
    (hadd : ∀ t entry, add t entry =
      if fits entry then { t with selectors := enter t.selectors entry }
      else { t with dropped := t.dropped ++ [id entry] })
    (t : SelectorTables) (entries : List α) :
    entries.foldl add t =
      { selectors := (entries.filter fits).foldl enter t.selectors
        dropped := t.dropped ++ (entries.filter (!fits ·)).map id } := by
  induction entries generalizing t with
  | nil => simp
  | cons entry rest ih =>
    rw [List.foldl_cons, ih, hadd]
    cases hfits : fits entry <;> simp [hfits]

/-! ### The entries that are left -/

section Sparing

variable (decrypter : Decrypter) (files : FileSystem) (security : Option Path)

/-- What becomes of the secret of an identifier. -/
def opened (id value : String) : Except DecryptionError String :=
  decrypter files id value security

/-- The proxies that are in use. -/
def activeProxies (s : Settings) : List ProxySettings :=
  s.proxies.filter (·.active)

/-- The settings without the active proxies and the servers that do not unlock. -/
def unlocked (s : Settings) : Settings :=
  { s with
    proxies := s.proxies.filter fun p => !p.active || unlocksProxy (opened decrypter files security) p
    servers := s.servers.filter (unlocksServer (opened decrypter files security)) }

/-- The identifiers of what is taken from the settings. -/
def lockedIds (s : Settings) : List String :=
  ((activeProxies s).filter (!unlocksProxy (opened decrypter files security) ·)).map (·.id) ++
    (s.servers.filter (!unlocksServer (opened decrypter files security) ·)).map (·.id)

theorem extract_eq (s : Settings) :
    extract decrypter files security s =
      { selectors :=
          (s.servers.filter (unlocksServer (opened decrypter files security))).foldl
            (enterServer (opened decrypter files security))
            (((activeProxies s).filter (unlocksProxy (opened decrypter files security))).foldl
              (enterProxy (opened decrypter files security))
              { mirrors := s.mirrors.map MirrorSettings.rule })
        dropped := lockedIds decrypter files security s } := by
  rw [extract]
  exact (foldl_fill (addServer_eq _) _ _).trans (by rw [foldl_fill (addProxy_eq _)]; rfl)

theorem activeProxies_unlocked (s : Settings) :
    activeProxies (unlocked decrypter files security s) =
      (activeProxies s).filter (unlocksProxy (opened decrypter files security)) := by
  rw [activeProxies, unlocked, activeProxies, List.filter_filter, List.filter_filter]
  apply List.filter_congr
  intro p _
  cases p.active <;> simp

theorem lockedIds_unlocked (s : Settings) :
    lockedIds decrypter files security (unlocked decrypter files security s) = [] := by
  rw [lockedIds, activeProxies_unlocked, unlocked]
  simp [List.filter_filter]

/-- What does not unlock takes nothing else with it: the tables are those of the settings without it,
with every mirror and with every active proxy that unlocks, in order and decrypted, and with the
credentials of the last server left that grants any. Only the identifiers of what is taken away are
noted. -/
structure Spares (s : Settings) : Prop where
  tables : (extract decrypter files security s).selectors =
    (extract decrypter files security (unlocked decrypter files security s)).selectors
  untroubled : (extract decrypter files security (unlocked decrypter files security s)).dropped = []
  noted : (extract decrypter files security s).dropped = lockedIds decrypter files security s
  mirrors : (extract decrypter files security s).selectors.mirrors =
    s.mirrors.map MirrorSettings.rule
  proxies : (activeProxies (unlocked decrypter files security s)).Forall₂
    (fun p rule => proxyRule? (opened decrypter files security) p = some rule)
    (extract decrypter files security s).selectors.proxies
  credentials : ∀ r, answered decrypter files security s r =
    ((unlocked decrypter files security s).declarations r.id).reverse.findSome?
      (granted decrypter files security)

/-- A secret that cannot be decrypted costs the entry that it belongs to, and no other. -/
theorem locked_spared (s : Settings) : Spares decrypter files security s := by
  have htables : (extract decrypter files security s).selectors =
      (extract decrypter files security (unlocked decrypter files security s)).selectors := by
    rw [extract_eq, extract_eq, activeProxies_unlocked, unlocked]
    simp only [List.filter_filter, Bool.and_self]
  have hproxies : ∀ p ∈ activeProxies (unlocked decrypter files security s),
      unlocksProxy (opened decrypter files security) p = true := by
    rw [activeProxies_unlocked]
    exact fun p hp => (List.mem_filter.mp hp).2
  obtain ⟨rules, hrules, hfold⟩ := foldl_enterProxy (opened decrypter files security)
    { mirrors := s.mirrors.map MirrorSettings.rule } hproxies
  have hselectors : ∃ credentials, (extract decrypter files security s).selectors =
      { mirrors := s.mirrors.map MirrorSettings.rule, proxies := rules, credentials } := by
    rw [extract_eq, ← activeProxies_unlocked, hfold]
    exact foldl_enterServer _ _ _
  obtain ⟨credentials, hselectors⟩ := hselectors
  exact
    { tables := htables
      untroubled := by rw [extract_eq, lockedIds_unlocked]
      noted := by rw [extract_eq]
      mirrors := by rw [hselectors]
      proxies := by rwa [hselectors]
      credentials := fun r => by
        rw [answered, htables]
        exact answered_eq decrypter files security _ r }

end Sparing

example : (extract Secret.plain (.bare []) none
    { proxies := [{ id := "p", host := "h", password := some "\x7bsecret\x7d" },
        { id := "q", host := "h", active := false, password := some "\x7bsecret\x7d" }]
      servers := [{ id := "a", password := some "\x7bsecret\x7d" },
        { id := "a", password := some "plain" }] }).dropped = ["p", "a"] := by
  decide

end Depot.SelectorTables
