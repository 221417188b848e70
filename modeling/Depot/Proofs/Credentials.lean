import Depot.Settings.Extraction
import Depot.Settings.Merging
import Mathlib.Data.List.Basic
import Mathlib.Data.List.Induction

/-! Whose credentials a repository gets. The table of the settings is filled server by server, so
for an identifier it has what the last declaration grants that grants anything, while the settings
themselves answer with the first declaration. The two agree exactly when no later declaration has
other credentials to grant in the end (`credentials_by_last`), in particular for an identifier that
is declared once. -/

namespace Depot

/-- The servers that the settings declare under the identifier, in order. -/
def Settings.declarations (s : Settings) (id : String) : List Server :=
  s.servers.filter (·.id == id)

theorem Settings.server?_eq_head? (s : Settings) (id : String) :
    s.server? id = (s.declarations id).head? :=
  (List.head?_filter ..).symm

namespace SelectorTables

/-! ### Filling the table -/

section Filling

variable (decrypt : String → String → Except DecryptionError String)

/-- The credentials of a server with its secrets decrypted; none when it has none or a secret cannot
be decrypted. -/
def grant? (server : Server) : Option Authentication :=
  (decryptServer decrypt server).toOption.bind Server.authentication?

theorem decryptServer_id {server decrypted : Server}
    (h : decryptServer decrypt server = .ok decrypted) : decrypted.id = server.id := by
  rw [decryptServer] at h
  cases hpassword : decryptField (decrypt server.id) server.password with
  | error cause =>
    rw [hpassword] at h
    cases h
  | ok password =>
    cases hpassphrase : decryptField (decrypt server.id) server.passphrase with
    | error cause =>
      rw [hpassword, hpassphrase] at h
      cases h
    | ok passphrase =>
      rw [hpassword, hpassphrase] at h
      cases h
      rfl

theorem get?_addServer (t : SelectorTables) (server : Server) (id : String) :
    (addServer decrypt t server).selectors.credentials.get? id =
      if id = server.id then (grant? decrypt server).or (t.selectors.credentials.get? id)
      else t.selectors.credentials.get? id := by
  rw [addServer, grant?]
  cases hserver : decryptServer decrypt server with
  | error cause => simp [Except.toOption]
  | ok decrypted =>
    cases hgiven : decrypted.authentication? with
    | none => simp [Except.toOption, hgiven]
    | some authentication =>
      simp [Except.toOption, hgiven, decryptServer_id decrypt hserver]

/-- The last declaration that grants anything counts. -/
theorem get?_foldl_addServer (t : SelectorTables) (servers : List Server) (id : String) :
    (servers.foldl (addServer decrypt) t).selectors.credentials.get? id =
      ((servers.filter (·.id == id)).reverse.findSome? (grant? decrypt)).or
        (t.selectors.credentials.get? id) := by
  induction servers using List.reverseRecOn with
  | nil => rfl
  | append_singleton servers server ih =>
    rw [List.foldl_concat, get?_addServer, List.filter_append]
    split
    · rename_i hid
      rw [ih, ← Option.or_assoc, List.filter_cons_of_pos (by simp [hid]), List.filter_nil,
        List.reverse_concat, List.findSome?_cons]
      cases grant? decrypt server <;> rfl
    · rename_i hid
      rw [ih, List.filter_cons_of_neg (by simp [Ne.symm hid]), List.filter_nil, List.append_nil]

theorem credentials_foldl_addProxy (t : SelectorTables) (proxies : List ProxySettings) :
    (proxies.foldl (addProxy decrypt) t).selectors.credentials = t.selectors.credentials := by
  induction proxies generalizing t with
  | nil => rfl
  | cons p rest ih =>
    rw [List.foldl_cons, ih, addProxy]
    split <;> rfl

end Filling

/-! ### The two views -/

section Views

variable (decrypter : Decrypter) (files : FileSystem) (security : Option Path)

/-- The credentials that a declaration grants. -/
def granted (server : Server) : Option Authentication :=
  grant? (fun id value => decrypter files id value security) server

/-- The credentials that the table of the settings has for the repository. -/
def answered (s : Settings) (r : RemoteRepository) : Option Authentication :=
  (extract decrypter files security s).selectors.credentials.select? r

/-- The table and the settings have the same credentials for the repository. -/
def Agree (s : Settings) (r : RemoteRepository) : Prop :=
  answered decrypter files security s r =
    (s.server? r.id).bind (granted decrypter files security)

instance (s : Settings) (r : RemoteRepository) : Decidable (Agree decrypter files security s r) :=
  inferInstanceAs (Decidable (_ = _))

theorem answered_eq (s : Settings) (r : RemoteRepository) :
    answered decrypter files security s r =
      (s.declarations r.id).reverse.findSome? (granted decrypter files security) := by
  rw [answered, Credentials.select?, extract, get?_foldl_addServer, credentials_foldl_addProxy]
  exact Option.or_none

/-- A repository gets the credentials of the last declaration of its identifier that grants any.
They are those of the first one as long as no later declaration ends up with others. -/
theorem credentials_by_last (s : Settings) (r : RemoteRepository) :
    answered decrypter files security s r =
        (s.declarations r.id).reverse.findSome? (granted decrypter files security) ∧
      (Agree decrypter files security s r ↔
        ∀ a, (s.declarations r.id).tail.reverse.findSome? (granted decrypter files security) =
          some a → (s.server? r.id).bind (granted decrypter files security) = some a) ∧
      ((s.declarations r.id).length ≤ 1 → Agree decrypter files security s r) := by
  refine ⟨answered_eq decrypter files security s r, ?_, ?_⟩
  · rw [Agree, answered_eq, s.server?_eq_head?]
    cases s.declarations r.id with
    | nil => simp
    | cons first rest =>
      rw [List.reverse_cons, List.findSome?_append, List.head?_cons, List.tail_cons,
        Option.bind_some, List.findSome?_singleton]
      cases rest.reverse.findSome? (granted decrypter files security) with
      | none => simp
      | some a => simp [eq_comm]
  · intro honce
    rw [Agree, answered_eq, s.server?_eq_head?]
    cases hdeclared : s.declarations r.id with
    | nil => rfl
    | cons first rest =>
      rw [hdeclared] at honce
      obtain rfl : rest = [] := by simpa using honce
      simp

end Views

def user (id username : String) : Server :=
  { id, username := some username, password := some "plain" }

/-- A server with a secret that is encrypted. -/
def locked (id : String) : Server :=
  { id, password := some "\x7bsecret\x7d" }

def settingsOf (servers : List Server) : Settings :=
  { servers }

def repositoryOf (id : String) : RemoteRepository :=
  { id, url := "https://" ++ id ++ "/" }

def noFiles : FileSystem :=
  .bare []

/-- With one declaration of each identifier the views agree, also where a secret is encrypted. -/
theorem credentials_by_last_once :
    Agree Secret.plain noFiles none (settingsOf [user "a" "one", locked "b"]) (repositoryOf "a") ∧
    Agree Secret.plain noFiles none (settingsOf [user "a" "one", locked "b"]) (repositoryOf "b") :=
  ⟨(credentials_by_last Secret.plain noFiles none _ (repositoryOf "a")).2.2 (by decide),
    (credentials_by_last Secret.plain noFiles none _ (repositoryOf "b")).2.2 (by decide)⟩

/-- The views part when a later declaration grants other credentials, also when the first one has
none or cannot be decrypted. Under other settings, even empty ones, only the first declaration is
left, and the views agree again. -/
theorem views_part_some :
    (¬ Agree Secret.plain noFiles none (settingsOf [user "a" "one", user "a" "two"])
        (repositoryOf "a") ∧
      ¬ Agree Secret.plain noFiles none (settingsOf [locked "a", user "a" "two"])
        (repositoryOf "a") ∧
      ¬ Agree Secret.plain noFiles none (settingsOf [{ id := "a" }, user "a" "two"])
        (repositoryOf "a")) ∧
    Agree Secret.plain noFiles none ((settingsOf [user "a" "one", user "a" "two"]).merge {})
      (repositoryOf "a") := by
  decide

end SelectorTables

end Depot
