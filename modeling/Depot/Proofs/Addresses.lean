import Depot.Proofs.Cutting
import Depot.Proofs.MirrorPatterns
import Depot.Selection.Proxy

/-! Addresses and their hosts. An address has a scheme, a host, and perhaps a user, a port and a path;
the texts that have these parts are those whose first colon is followed by two slashes
(`Address.exists_text_eq_iff`). Each part is without the separators at which it ends, so none can be taken
for another: protocol and host of a repository are the scheme and the host of its address. Whether the
repository is local, and with it which mirrors stand in for it and which proxies serve it, hangs on
these two alone (`RemoteRepository.local_by_scheme_and_host`). -/

namespace Depot

/-- The parts of an address, each without the separators at which a reader ends it. The user may have
at signs and colons and the port colons, and the path may have anything. -/
structure Address where
  scheme : String
  user : Option String := none
  host : String
  port : Option String := none
  /-- What follows the slash after host and port. -/
  path : Option String := none
  scheme_uncut : ':' ∉ scheme.toList := by decide +kernel
  user_uncut : ∀ u ∈ user, '/' ∉ u.toList := by decide +kernel
  host_uncut : '/' ∉ host.toList ∧ '@' ∉ host.toList ∧ ':' ∉ host.toList := by decide +kernel
  port_uncut : ∀ p ∈ port, '/' ∉ p.toList ∧ '@' ∉ p.toList := by decide +kernel

namespace Address

/-! ### Parts that may be missing -/

/-- The part with the mark in front of it; nothing without the part. -/
def led (mark : Char) (part : Option String) : String :=
  part.elim "" fun s => String.singleton mark ++ s

/-- The part with the mark after it; nothing without the part. -/
def closed (mark : Char) (part : Option String) : String :=
  part.elim "" fun s => s ++ String.singleton mark

variable {mark c : Char} {part : Option String}

theorem head?_led : ∀ d ∈ (led mark part).toList.head?, d = mark := by
  cases part <;> simp [led]

theorem getLast?_closed : ∀ d ∈ (closed mark part).toList.getLast?, d = mark := by
  cases part <;> simp [closed]

theorem not_mem_led : c ∉ (led mark part).toList ↔ ∀ s ∈ part, c ≠ mark ∧ c ∉ s.toList := by
  cases part <;> simp [led]

theorem not_mem_closed : c ∉ (closed mark part).toList ↔ ∀ s ∈ part, c ∉ s.toList ∧ c ≠ mark := by
  cases part <;> simp [closed]

/-- Every text is one without the mark, and perhaps a part after the first mark. -/
theorem exists_eq_append_led (mark : Char) (s : String) :
    ∃ front part, s = front ++ led mark part ∧ mark ∉ front.toList := by
  by_cases h : mark ∈ s.toList
  · obtain ⟨front, rest, hs, hfront⟩ := List.eq_append_cons_of_mem h
    refine ⟨String.ofList front, some (String.ofList rest), ?_, by simpa using hfront⟩
    rw [← String.toList_inj, hs]
    simp [led]
  · exact ⟨s, none, String.append_empty.symm, h⟩

/-- Every text is one without the mark, and perhaps a part before the last mark. -/
theorem exists_eq_closed_append (mark : Char) (s : String) :
    ∃ part back, s = closed mark part ++ back ∧ mark ∉ back.toList := by
  by_cases h : mark ∈ s.toList
  · obtain ⟨back, rest, hs, hback⟩ := List.eq_append_cons_of_mem (List.mem_reverse.mpr h)
    refine ⟨some (String.ofList rest.reverse), String.ofList back.reverse, ?_, by simpa using hback⟩
    rw [← String.toList_inj, ← List.reverse_reverse s.toList, hs]
    simp [closed]
  · exact ⟨none, s, String.empty_append.symm, h⟩

/-! ### Addresses as texts -/

/-- What stands between the two slashes and the path. -/
def authority (a : Address) : String :=
  closed '@' a.user ++ (a.host ++ led ':' a.port)

def text (a : Address) : String :=
  a.scheme ++ "://" ++ (a.authority ++ led '/' a.path)

theorem slash_not_mem_authority (a : Address) : '/' ∉ a.authority.toList := by
  have huser : '/' ∉ (closed '@' a.user).toList :=
    not_mem_closed.mpr fun u hu => ⟨a.user_uncut u hu, by decide⟩
  have hport : '/' ∉ (led ':' a.port).toList :=
    not_mem_led.mpr fun p hp => ⟨by decide, (a.port_uncut p hp).1⟩
  simp only [authority, String.toList_append, List.mem_append, not_or]
  exact ⟨huser, a.host_uncut.1, hport⟩

theorem sign_not_mem_hostPort (a : Address) : '@' ∉ (a.host ++ led ':' a.port).toList := by
  have hport : '@' ∉ (led ':' a.port).toList :=
    not_mem_led.mpr fun p hp => ⟨by decide, (a.port_uncut p hp).2⟩
  rw [String.toList_append, List.mem_append, not_or]
  exact ⟨a.host_uncut.2.1, hport⟩

/-- What follows the scheme and its mark has the parts of an authority and a path, whatever it is. -/
theorem exists_text_eq_append {scheme : String} (h : ':' ∉ scheme.toList) (rest : String) :
    ∃ a : Address, scheme ++ "://" ++ rest = a.text := by
  obtain ⟨front, path, rfl, hfront⟩ := exists_eq_append_led '/' rest
  obtain ⟨user, back, rfl, hback⟩ := exists_eq_closed_append '@' front
  obtain ⟨host, port, rfl, hhost⟩ := exists_eq_append_led ':' back
  simp only [String.toList_append, List.mem_append, not_or] at hfront hback
  obtain ⟨huser, hhostSlash, hportSlash⟩ := hfront
  obtain ⟨hhostSign, hportSign⟩ := hback
  exact ⟨{
    scheme, user, host, port, path
    scheme_uncut := h
    user_uncut := fun u hu => (not_mem_closed.mp huser u hu).1
    host_uncut := ⟨hhostSlash, hhostSign, hhost⟩
    port_uncut := fun p hp =>
      ⟨(not_mem_led.mp hportSlash p hp).2, (not_mem_led.mp hportSign p hp).2⟩ }, rfl⟩

/-- Addresses are the texts whose first colon is followed by two slashes. -/
theorem exists_text_eq_iff {url : String} : (∃ a : Address, url = a.text) ↔
    ∃ scheme rest : String, ':' ∉ scheme.toList ∧ url = scheme ++ "://" ++ rest := by
  constructor
  · rintro ⟨a, rfl⟩
    exact ⟨a.scheme, _, a.scheme_uncut, rfl⟩
  · rintro ⟨scheme, rest, hscheme, rfl⟩
    exact exists_text_eq_append hscheme rest

/-- A scheme for files, or a host that is this machine. -/
def Local (a : Address) : Prop :=
  Text.lower a.scheme = "file" ∨ a.host = "localhost" ∨ a.host = "127.0.0.1"

instance (a : Address) : Decidable a.Local :=
  inferInstanceAs (Decidable (_ ∨ _ ∨ _))

/-- The same scheme, case aside, and the same host. -/
def SameHost (a b : Address) : Prop :=
  Text.lower a.scheme = Text.lower b.scheme ∧ a.host = b.host

end Address

namespace RemoteRepository

variable {r : RemoteRepository} {a : Address}

/-! ### Repositories at an address -/

theorem protocol_of_url (h : r.url = a.text) : r.protocol = Text.lower a.scheme := by
  have hurl : r.url.toList =
      a.scheme.toList ++ ':' :: (['/', '/'] ++ (a.authority ++ Address.led '/' a.path).toList) := by
    rw [h, Address.text, String.toList_append, String.toList_append, List.append_assoc]
    rfl
  rw [protocol, hurl, Text.cutAt?_append_cons a.scheme_uncut]
  simp only [String.ofList_toList]

theorem host_of_url (h : r.url = a.text) : r.host = a.host := by
  have hurl : r.url.toList = a.scheme.toList ++ [':', '/', '/'] ++
      (a.authority.toList ++ (Address.led '/' a.path).toList) := by
    rw [h, Address.text, String.toList_append, String.toList_append, String.toList_append]
    rfl
  have hauthority : Text.beforeFirst '/' (a.authority.toList ++ (Address.led '/' a.path).toList) =
      a.authority.toList :=
    Text.beforeFirst_append a.slash_not_mem_authority Address.head?_led
  have hhostPort : Text.afterLast '@' a.authority.toList =
      (a.host ++ Address.led ':' a.port).toList := by
    rw [Address.authority, String.toList_append]
    exact Text.afterLast_append a.sign_not_mem_hostPort Address.getLast?_closed
  have hhost : Text.beforeFirst ':' (a.host ++ Address.led ':' a.port).toList = a.host.toList := by
    rw [String.toList_append]
    exact Text.beforeFirst_append a.host_uncut.2.2 Address.head?_led
  rw [host, hurl, Text.cutAt?_append_mark a.scheme_uncut]
  simp only [hauthority, hhostPort, hhost, String.ofList_toList]

theorem isLocal_iff_of_url (h : r.url = a.text) : r.isLocal = true ↔ a.Local := by
  simp only [isLocal, protocol_of_url h, host_of_url h, Bool.or_eq_true, beq_iff_eq, or_assoc,
    Address.Local]

/-- The repository at another address. -/
def movedTo (r : RemoteRepository) (a : Address) : RemoteRepository :=
  { r with url := a.text }

/-- The address of a repository has the parts of an `Address` where its first colon is followed by two
slashes. Protocol and host are then its scheme and its host, and they alone say whether the repository
is local and which stars for those that are not cover it; so at another address with the same scheme and
host it is local as before, and the same mirrors stand in for it and the same proxies serve it. -/
theorem local_by_scheme_and_host (r : RemoteRepository) :
    ((∃ a : Address, r.url = a.text) ↔
      ∃ scheme rest : String, ':' ∉ scheme.toList ∧ r.url = scheme ++ "://" ++ rest) ∧
    ∀ a : Address, r.url = a.text →
      r.protocol = Text.lower a.scheme ∧ r.host = a.host ∧ (r.isLocal = true ↔ a.Local) ∧
      (∀ part, MirrorRule.coversRepository r part = true ↔ part = "*" ∨
        ¬a.Local ∧ (part = "external:*" ∨
          part = "external:http:*" ∧ Text.lower a.scheme = "http")) ∧
      ∀ b : Address, b.SameHost a → (r.movedTo b).isLocal = r.isLocal ∧
        (∀ m : MirrorRule, m.standsInFor (r.movedTo b) = m.standsInFor r) ∧
        ∀ p : ProxyRule, p.serves (r.movedTo b) = p.serves r := by
  refine ⟨Address.exists_text_eq_iff, fun a h => ?_⟩
  have hprotocol := protocol_of_url h
  have hhost := host_of_url h
  have hlocal := isLocal_iff_of_url h
  refine ⟨hprotocol, hhost, hlocal, fun part => ?_, fun b hb => ?_⟩
  · rw [MirrorRule.coversRepository_iff, MirrorRule.Covers, ← hlocal, hprotocol,
      Bool.not_eq_true]
    tauto
  · have hsameProtocol : (r.movedTo b).protocol = r.protocol := by
      rw [hprotocol, protocol_of_url rfl, hb.1]
    have hsameHost : (r.movedTo b).host = r.host := by
      rw [hhost, host_of_url rfl, hb.2]
    have hsameLocal : (r.movedTo b).isLocal = r.isLocal := by
      rw [isLocal, isLocal, hsameProtocol, hsameHost]
    refine ⟨hsameLocal, fun m => m.standsInFor_congr rfl rfl hsameProtocol hsameLocal, fun p => ?_⟩
    rw [ProxyRule.serves, ProxyRule.serves, hsameProtocol, hsameHost]

/-- A user, a port and a path that look like this machine and like files make no repository local, nor
does leaving them out. -/
theorem local_by_scheme_and_host_disguised :
    let a : Address := {
      scheme := "HTTP", user := some "file:@localhost", host := "repo.example.com"
      port := some "80:127.0.0.1", path := some "x@localhost://file" }
    let bare : Address := { scheme := "http", host := "repo.example.com" }
    let r : RemoteRepository := { id := "a", url := a.text }
    r.url = "HTTP://file:@localhost@repo.example.com:80:127.0.0.1/x@localhost://file" ∧
      r.protocol = "http" ∧ r.host = "repo.example.com" ∧ r.isLocal = false ∧
      (r.movedTo bare).isLocal = false := by
  intro a bare r
  obtain ⟨hprotocol, hhost, hlocal, -, hmoved⟩ := (local_by_scheme_and_host r).2 a rfl
  have hupper : Text.lower "HTTP" = "http" := by decide +kernel
  have hlower : Text.lower "http" = "http" := by decide +kernel
  have hexternal : r.isLocal = false := Bool.eq_false_iff.mpr (mt hlocal.mp (by decide +kernel))
  have hsame : bare.SameHost a := ⟨hlower.trans hupper.symm, rfl⟩
  exact ⟨by decide +kernel, hprotocol.trans hupper, hhost, hexternal,
    (hmoved bare hsame).1.trans hexternal⟩

end RemoteRepository

end Depot
