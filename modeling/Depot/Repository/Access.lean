import Depot.Text.Record

/-! How a repository is reached: the credentials that it asks for and the proxy on the way. Secrets
are never shown; diagnostics say only whether there is one. -/

namespace Depot

/-- Credentials: a user with a password, a key with its passphrase, or both. -/
structure Authentication where
  username : Option String := none
  password : Option String := none
  privateKey : Option String := none
  passphrase : Option String := none
deriving DecidableEq, Repr

namespace Authentication

def basic (username password : String) : Authentication :=
  { username := some username, password := some password }

def isEmpty (a : Authentication) : Bool :=
  a.username.isNone && a.password.isNone && a.privateKey.isNone && a.passphrase.isNone

/-- The credentials, unless nothing is given. -/
def given? (a : Authentication) : Option Authentication :=
  if a.isEmpty then none else some a

/-- The credentials with stars for the secrets. -/
def render (a : Authentication) : String :=
  let shown (value : Option String) : String := Text.optional (value.map Text.quoted)
  let hidden (value : Option String) : String := shown (value.map fun _ => "***")
  Text.record "Authentication" [
    ("username", shown a.username),
    ("password", hidden a.password),
    ("private_key", shown a.privateKey),
    ("passphrase", hidden a.passphrase)]

end Authentication

/-- A proxy on the way to repositories of one protocol. -/
structure Proxy where
  protocol : String
  host : String
  port : UInt16
  authentication : Option Authentication := none
deriving DecidableEq, Repr

def Proxy.render (p : Proxy) : String :=
  Text.record "Proxy" [
    ("protocol", Text.quoted p.protocol),
    ("host", Text.quoted p.host),
    ("port", toString p.port.toNat),
    ("authentication", Text.optional (p.authentication.map Authentication.render))]

end Depot
