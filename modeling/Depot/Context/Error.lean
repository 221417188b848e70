import Depot.Resolution
import Depot.Settings.Reading
import Depot.Settings.Secret

/-! Why a context cannot be had or used. The errors of settings, of local repositories and of
resolutions appear as they are; each error is of one of four kinds, by which a caller can tell a
mistake in the configuration from a missing provider, a failed resolution, or the use of a context
that is over. -/

namespace Depot

inductive ContextError where
  | noProvider
  | noEngine (tried : List String)
  | released (provider : String)
  | localRepositoryUnknown
  | decryption (cause : DecryptionError)
  | settings (cause : SettingsError)
  | localRepository (cause : LocalRepositoryError)
  | resolution (cause : ResolutionError)
deriving DecidableEq, Repr

def SettingsError.message : SettingsError → String
  | file path cause => "I/O error at " ++ path.text ++ ": " ++ cause.message
  | malformed path => "Failed to parse settings at " ++ path.text

namespace ContextError

inductive Kind where
  | configuration
  | providerAvailability
  | resolution
  | lifecycle
deriving DecidableEq, Repr

def kind : ContextError → Kind
  | noProvider => .providerAvailability
  | released _ => .lifecycle
  | resolution _ => .resolution
  | noEngine _ | localRepositoryUnknown | decryption _ | settings _ | localRepository _ =>
    .configuration

def message : ContextError → String
  | noProvider => "No runtime provider available"
  | noEngine tried =>
    "No repository engine could be booted (tried: " ++ String.intercalate ", " tried ++ ")"
  | released provider => "Context of runtime " ++ provider ++ " has been released"
  | localRepositoryUnknown =>
    "Cannot determine the local repository location: no override, settings entry or user home"
  | decryption cause => cause.message
  | settings cause => cause.message
  | localRepository cause => cause.message
  | resolution cause => cause.message

end ContextError

end Depot
