import Depot.Settings.Basic
import Depot.Toml.Value

/-! Settings read from the value of a TOML document. A record is written as a table, in which keys
that mean nothing are passed over, or as an array of its fields in the order of their declaration,
in which the last ones may be missing. A field that is missing has its default or is an error; one
that is there must have its type, without conversion. Reading either allows further elements in such
an array or refuses them; everything else is the same in both ways. -/

namespace Depot

/-- Whether an array that stands for a record may have more elements than the record has fields. -/
inductive Surplus where
  | allowed
  | refused
deriving DecidableEq, Repr

/-- The fields of a record by name, or by position. -/
inductive FieldSource where
  | named (entries : List (String × Toml.Value))
  | positional (items : List Toml.Value)

namespace FieldSource

/-- The fields of the value of a record with so many fields. -/
def ofValue? (surplus : Surplus) (count : Nat) : Toml.Value → Option FieldSource
  | .table entries => some (.named entries)
  | .array items =>
    if surplus = .refused ∧ items.length > count then none else some (.positional items)
  | _ => none

def get? (s : FieldSource) (index : Nat) (name : String) : Option Toml.Value :=
  match s with
  | named entries => entries.lookup name
  | positional items => items[index]?

variable {α : Type}

/-- A field that has to be there. -/
def required (s : FieldSource) (read : Toml.Value → Option α) (index : Nat) (name : String) :
    Option α :=
  (s.get? index name).bind read

/-- A field with a default. -/
def withDefault (s : FieldSource) (read : Toml.Value → Option α) (index : Nat) (name : String)
    (fallback : α) : Option α :=
  match s.get? index name with
  | some v => read v
  | none => some fallback

/-- A field that may be missing. -/
def optional (s : FieldSource) (read : Toml.Value → Option α) (index : Nat) (name : String) :
    Option (Option α) :=
  s.withDefault (fun v => (read v).map some) index name none

end FieldSource

namespace Decoding

def text : Toml.Value → Option String
  | .text content => some content
  | _ => none

def boolean : Toml.Value → Option Bool
  | .boolean b => some b
  | _ => none

/-- A number below 2 to the 16th. -/
def port : Toml.Value → Option UInt16
  | .integer n => if 0 ≤ n ∧ n.toNat < UInt16.size then some (UInt16.ofNat n.toNat) else none
  | _ => none

def list {α : Type} (read : Toml.Value → Option α) : Toml.Value → Option (List α)
  | .array items => items.mapM read
  | _ => none

def properties : Toml.Value → Option Properties
  | .table entries => do
    let pairs ← entries.mapM fun (name, v) => (text v).map (name, ·)
    return Properties.ofList pairs
  | _ => none

def updatePolicy (v : Toml.Value) : Option UpdatePolicy :=
  (text v).bind fun s => (UpdatePolicy.parse s).toOption

/-- A checksum policy by name, or as a table of one entry with the name and nothing under it. -/
def checksumPolicy : Toml.Value → Option ChecksumPolicy
  | .text name => ChecksumPolicy.ofText? name
  | .table [(name, .table [])] => ChecksumPolicy.ofText? name
  | .table [(name, .array [])] => ChecksumPolicy.ofText? name
  | _ => none

end Decoding

open Decoding

def Server.ofValue? (surplus : Surplus) (v : Toml.Value) : Option Server := do
  let s ← FieldSource.ofValue? surplus 5 v
  return {
    id := ← s.required text 0 "id"
    username := ← s.optional text 1 "username"
    password := ← s.optional text 2 "password"
    privateKey := ← s.optional text 3 "private-key"
    passphrase := ← s.optional text 4 "passphrase" }

def MirrorSettings.ofValue? (surplus : Surplus) (v : Toml.Value) : Option MirrorSettings := do
  let s ← FieldSource.ofValue? surplus 7 v
  return {
    id := ← s.required text 0 "id"
    name := ← s.optional text 1 "name"
    url := ← s.required text 2 "url"
    mirrorOf := ← s.required text 3 "mirror-of"
    layout := ← s.optional text 4 "layout"
    mirrorOfLayouts := ← s.optional text 5 "mirror-of-layouts"
    blocked := ← s.withDefault boolean 6 "blocked" false }

def ProxySettings.ofValue? (surplus : Surplus) (v : Toml.Value) : Option ProxySettings := do
  let s ← FieldSource.ofValue? surplus 8 v
  return {
    id := ← s.withDefault text 0 "id" "default"
    active := ← s.withDefault boolean 1 "active" true
    protocol := ← s.withDefault text 2 "protocol" "http"
    host := ← s.required text 3 "host"
    port := ← s.withDefault Decoding.port 4 "port" 8080
    username := ← s.optional text 5 "username"
    password := ← s.optional text 6 "password"
    nonProxyHosts := ← s.optional text 7 "non-proxy-hosts" }

def OsCondition.ofValue? (surplus : Surplus) (v : Toml.Value) : Option OsCondition := do
  let s ← FieldSource.ofValue? surplus 4 v
  return {
    name := ← s.optional text 0 "name"
    family := ← s.optional text 1 "family"
    arch := ← s.optional text 2 "arch"
    version := ← s.optional text 3 "version" }

def PropertyCondition.ofValue? (surplus : Surplus) (v : Toml.Value) :
    Option PropertyCondition := do
  let s ← FieldSource.ofValue? surplus 2 v
  return {
    name := ← s.required text 0 "name"
    value := ← s.optional text 1 "value" }

def FileCondition.ofValue? (surplus : Surplus) (v : Toml.Value) : Option FileCondition := do
  let s ← FieldSource.ofValue? surplus 2 v
  return {
    existing := ← s.optional text 0 "exists"
    missing := ← s.optional text 1 "missing" }

def Activation.ofValue? (surplus : Surplus) (v : Toml.Value) : Option Activation := do
  let s ← FieldSource.ofValue? surplus 5 v
  return {
    activeByDefault := ← s.withDefault boolean 0 "active-by-default" false
    jdk := ← s.optional text 1 "jdk"
    os := ← s.optional (OsCondition.ofValue? surplus) 2 "os"
    property := ← s.optional (PropertyCondition.ofValue? surplus) 3 "property"
    file := ← s.optional (FileCondition.ofValue? surplus) 4 "file" }

def PolicySettings.ofValue? (surplus : Surplus) (v : Toml.Value) : Option PolicySettings := do
  let s ← FieldSource.ofValue? surplus 3 v
  return {
    enabled := ← s.withDefault boolean 0 "enabled" true
    update := ← s.optional updatePolicy 1 "update-policy"
    checksum := ← s.optional checksumPolicy 2 "checksum-policy" }

def RepositorySettings.ofValue? (surplus : Surplus) (v : Toml.Value) :
    Option RepositorySettings := do
  let s ← FieldSource.ofValue? surplus 6 v
  return {
    id := ← s.required text 0 "id"
    name := ← s.optional text 1 "name"
    url := ← s.required text 2 "url"
    layout := ← s.withDefault text 3 "layout" "default"
    releases := ← s.optional (PolicySettings.ofValue? surplus) 4 "releases"
    snapshots := ← s.optional (PolicySettings.ofValue? surplus) 5 "snapshots" }

def Profile.ofValue? (surplus : Surplus) (v : Toml.Value) : Option Profile := do
  let s ← FieldSource.ofValue? surplus 4 v
  return {
    id := ← s.required text 0 "id"
    activation := ← s.optional (Activation.ofValue? surplus) 1 "activation"
    properties := ← s.withDefault Decoding.properties 2 "properties" .empty
    repositories :=
      ← s.withDefault (list (RepositorySettings.ofValue? surplus)) 3 "repositories" [] }

def Settings.ofValue? (surplus : Surplus) (v : Toml.Value) : Option Settings := do
  let s ← FieldSource.ofValue? surplus 7 v
  return {
    localRepository := ← s.optional text 0 "local-repository"
    offline := ← s.optional boolean 1 "offline"
    activeProfiles := ← s.withDefault (list text) 2 "active-profiles" []
    servers := ← s.withDefault (list (Server.ofValue? surplus)) 3 "servers" []
    mirrors := ← s.withDefault (list (MirrorSettings.ofValue? surplus)) 4 "mirrors" []
    proxies := ← s.withDefault (list (ProxySettings.ofValue? surplus)) 5 "proxies" []
    profiles := ← s.withDefault (list (Profile.ofValue? surplus)) 6 "profiles" [] }

end Depot
