import Depot.FileSystem

/-! Secrets in settings. A secret between braces is encrypted; a backslash before the first brace
says that the brace is meant. Nothing here can decrypt: plain secrets are themselves, and an
encrypted one is refused with the reason, which depends on whether there is a file with a master
password. -/

namespace Depot

/-- Why a secret of a declaration cannot be used. -/
structure DecryptionError where
  id : String
  reason : String
deriving DecidableEq, Repr

def DecryptionError.message (e : DecryptionError) : String :=
  "Failed to decrypt " ++ e.id ++ ": " ++ e.reason

/-- What becomes of the secret of a declaration, given its identifier and the file with the master
password. -/
abbrev Decrypter := FileSystem → String → String → Option Path → Except DecryptionError String

namespace Secret

/-- Whether a text, blanks around it aside, stands between braces. -/
def isEncrypted (value : String) : Bool :=
  let cs := Text.trimChars value.toList
  2 ≤ cs.length && cs.head? == some '\x7b' && cs.getLast? == some '\x7d'

/-- Why an encrypted secret is refused. -/
def refusal (files : FileSystem) : Option Path → String
  | some path =>
    if files.isFile path then "no cipher available for master password in " ++ path.text
    else "settings security file " ++ path.text ++ " not found"
  | none => "no settings security file configured"

/-- Plain secrets are themselves, without the backslash that protects a brace; encrypted ones are
refused. -/
def plain : Decrypter := fun files id value security =>
  match Text.dropPrefix? ['\x5c', '\x7b'] value.toList with
  | some protectedText => .ok (String.ofList ('\x7b' :: protectedText))
  | none =>
    if isEncrypted value then .error ⟨id, refusal files security⟩ else .ok value

end Secret

end Depot
