import Depot.Repository.Access
import Depot.Repository.Policy
import Depot.Text.Case

/-! Remote repositories. A repository has an identifier that is unique within a list, an address, a
layout, one policy for releases and one for snapshots, and perhaps a proxy and credentials; one that
stands in for others lists them. The protocol of an address is what precedes its first colon, its
host what is left between the two slashes and the next one when user, password and port are taken
away. A repository is local when it is a directory or lives on this machine. -/

namespace Depot

structure RemoteRepository where
  id : String
  layout : String := "default"
  url : String
  releases : RepositoryPolicy := {}
  snapshots : RepositoryPolicy := {}
  proxy : Option Proxy := none
  authentication : Option Authentication := none
  /-- The repositories for which this one stands in. -/
  mirrored : List RemoteRepository := []
  /-- Whether nothing may be taken from it. -/
  blocked : Bool := false

namespace RemoteRepository

instance : Inhabited RemoteRepository := ⟨{ id := "", url := "" }⟩

mutual

/-- Equal in every part, the repositories for which they stand in included. -/
def equal : RemoteRepository → RemoteRepository → Bool
  | ⟨id, layout, url, releases, snapshots, proxy, authentication, mirrored, blocked⟩,
    ⟨id', layout', url', releases', snapshots', proxy', authentication', mirrored', blocked'⟩ =>
    id == id' && layout == layout' && url == url' && releases == releases' &&
      snapshots == snapshots' && proxy == proxy' && authentication == authentication' &&
      equalLists mirrored mirrored' && blocked == blocked'

def equalLists : List RemoteRepository → List RemoteRepository → Bool
  | [], [] => true
  | r :: rs, s :: ss => equal r s && equalLists rs ss
  | _, _ => false

end

instance : BEq RemoteRepository := ⟨equal⟩

mutual

theorem equal_iff (r s : RemoteRepository) : equal r s = true ↔ r = s := by
  obtain ⟨id, layout, url, releases, snapshots, proxy, authentication, mirrored, blocked⟩ := r
  obtain ⟨id', layout', url', releases', snapshots', proxy', authentication', mirrored',
    blocked'⟩ := s
  have := equalLists_iff mirrored mirrored'
  simp only [equal, Bool.and_eq_true, beq_iff_eq, this, mk.injEq]
  constructor
  · rintro ⟨⟨⟨⟨⟨⟨⟨⟨h₁, h₂⟩, h₃⟩, h₄⟩, h₅⟩, h₆⟩, h₇⟩, h₈⟩, h₉⟩
    exact ⟨h₁, h₂, h₃, h₄, h₅, h₆, h₇, h₈, h₉⟩
  · rintro ⟨h₁, h₂, h₃, h₄, h₅, h₆, h₇, h₈, h₉⟩
    exact ⟨⟨⟨⟨⟨⟨⟨⟨h₁, h₂⟩, h₃⟩, h₄⟩, h₅⟩, h₆⟩, h₇⟩, h₈⟩, h₉⟩

theorem equalLists_iff (rs ss : List RemoteRepository) : equalLists rs ss = true ↔ rs = ss := by
  cases rs with
  | nil => cases ss <;> simp [equalLists]
  | cons r rs =>
    cases ss with
    | nil => simp [equalLists]
    | cons s ss => simp [equalLists, equal_iff r s, equalLists_iff rs ss]

end

instance : LawfulBEq RemoteRepository where
  eq_of_beq h := (equal_iff _ _).mp h
  rfl := (equal_iff _ _).mpr rfl

instance : DecidableEq RemoteRepository := fun r s =>
  decidable_of_iff (equal r s = true) (equal_iff r s)

/-- The central repository, for releases only. -/
def central : RemoteRepository :=
  { id := "central", url := "https://repo.maven.apache.org/maven2/", snapshots := .disabled }

/-- The scheme of the address in lower case; empty for an address without one. -/
def protocol (r : RemoteRepository) : String :=
  match Text.cutAt? [':'] r.url.toList with
  | some (scheme, _) => Text.lower (String.ofList scheme)
  | none => ""

/-- The host of the address; empty for an address without two slashes after the scheme. -/
def host (r : RemoteRepository) : String :=
  match Text.cutAt? [':', '/', '/'] r.url.toList with
  | some (_, rest) =>
    let authority := Text.beforeFirst '/' rest
    String.ofList (Text.beforeFirst ':' (Text.afterLast '@' authority))
  | none => ""

/-- The policy for snapshots, or the one for releases. -/
def policy (r : RemoteRepository) (snapshot : Bool) : RepositoryPolicy :=
  if snapshot then r.snapshots else r.releases

/-- A directory, or a repository on this machine. -/
def isLocal (r : RemoteRepository) : Bool :=
  r.protocol == "file" || r.host == "localhost" || r.host == "127.0.0.1"

mutual

/-- The repository as diagnostics show it. -/
def render : RemoteRepository → String
  | ⟨id, layout, url, releases, snapshots, proxy, authentication, mirrored, blocked⟩ =>
    Text.record "RemoteRepository" [
      ("id", Text.quoted id),
      ("layout", Text.quoted layout),
      ("url", Text.quoted url),
      ("releases", releases.render),
      ("snapshots", snapshots.render),
      ("proxy", Text.optional (proxy.map Proxy.render)),
      ("authentication", Text.optional (authentication.map Authentication.render)),
      ("mirrored", Text.listed (renderAll mirrored)),
      ("blocked", Text.truth blocked)]

def renderAll : List RemoteRepository → List String
  | [] => []
  | r :: rs => r.render :: renderAll rs

end

end RemoteRepository

end Depot
