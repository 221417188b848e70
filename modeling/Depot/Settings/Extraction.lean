import Depot.Selection.Aggregation
import Depot.Settings.Basic
import Depot.Settings.Secret

/-! The selector tables of settings. Every mirror enters, every active proxy and every server with
credentials; a proxy or a server with a secret that cannot be decrypted is dropped by itself, and
its identifier noted. -/

namespace Depot

def MirrorSettings.rule (m : MirrorSettings) : MirrorRule :=
  { id := m.id
    url := m.url
    layout := m.layout.getD "default"
    blocked := m.blocked
    mirrorOf := m.mirrorOf
    mirrorOfLayouts := m.mirrorOfLayouts.getD "" }

/-- The tables of some settings, and the identifiers of the declarations that were dropped. -/
structure SelectorTables where
  selectors : Selectors := {}
  dropped : List String := []
deriving DecidableEq, Repr

namespace SelectorTables

instance : Inhabited SelectorTables := ⟨{}⟩

/-- What becomes of an optional secret. -/
def decryptField (decrypt : String → Except DecryptionError String) :
    Option String → Except DecryptionError (Option String)
  | none => .ok none
  | some value => (decrypt value).map some

/-- The proxy with its credentials decrypted. -/
def decryptProxy (decrypt : String → String → Except DecryptionError String) (p : ProxySettings) :
    Except DecryptionError ProxySettings :=
  if p.hasCredentials then do
    let username ← decryptField (decrypt p.id) p.username
    let password ← decryptField (decrypt p.id) p.password
    return { p with username, password }
  else .ok p

/-- The server with its secrets decrypted; names of users and of key files are none. -/
def decryptServer (decrypt : String → String → Except DecryptionError String) (s : Server) :
    Except DecryptionError Server := do
  let password ← decryptField (decrypt s.id) s.password
  let passphrase ← decryptField (decrypt s.id) s.passphrase
  return { s with password, passphrase }

def addProxy (decrypt : String → String → Except DecryptionError String) (t : SelectorTables)
    (p : ProxySettings) : SelectorTables :=
  match decryptProxy decrypt p with
  | .ok p =>
    { t with selectors.proxies :=
        t.selectors.proxies ++ [ProxyRule.ofHosts p.proxy p.nonProxyHosts] }
  | .error _ => { t with dropped := t.dropped ++ [p.id] }

def addServer (decrypt : String → String → Except DecryptionError String) (t : SelectorTables)
    (s : Server) : SelectorTables :=
  match decryptServer decrypt s with
  | .ok s =>
    match s.authentication? with
    | some authentication =>
      { t with selectors.credentials := t.selectors.credentials.add s.id authentication }
    | none => t
  | .error _ => { t with dropped := t.dropped ++ [s.id] }

/-- The tables of the settings. -/
def extract (decrypter : Decrypter) (files : FileSystem) (security : Option Path) (s : Settings) :
    SelectorTables :=
  let decrypt (id value : String) : Except DecryptionError String :=
    decrypter files id value security
  let mirrors : SelectorTables :=
    { selectors := { mirrors := s.mirrors.map MirrorSettings.rule } }
  let proxies := (s.proxies.filter (·.active)).foldl (addProxy decrypt) mirrors
  s.servers.foldl (addServer decrypt) proxies

end SelectorTables

end Depot
