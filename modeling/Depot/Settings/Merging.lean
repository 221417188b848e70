import Depot.Settings.Basic

/-! Settings laid over settings. What the upper settings state wins: a local repository that is not
blank, the offline flag when there is one. Identifiers of active profiles are united, those of the
upper settings first. Declarations are kept by identifier: all of the upper settings, then those of
the lower ones whose identifiers are not there yet. -/

namespace Depot.Settings

/-- The list with the value at its end, unless it is there. -/
def addNew (values : List String) (value : String) : List String :=
  if values.contains value then values else values ++ [value]

/-- The values of both lists, each once, those of the first list first. -/
def union (first second : List String) : List String :=
  (first ++ second).foldl addNew []

/-- The list with the item at its end, unless its identifier is there. -/
def addById {α : Type} (id : α → String) (items : List α) (item : α) : List α :=
  if items.any (id · == id item) then items else items ++ [item]

/-- All of the upper list, then the first item of each identifier that only the lower list has. -/
def mergeById {α : Type} (id : α → String) (upper lower : List α) : List α :=
  lower.foldl (addById id) upper

/-- The lower settings with the upper ones laid over them. -/
def merge (lower upper : Settings) : Settings :=
  { localRepository :=
      if (upper.localRepository.bind Text.filled?).isSome then upper.localRepository
      else lower.localRepository
    offline := upper.offline.or lower.offline
    activeProfiles := union upper.activeProfiles lower.activeProfiles
    servers := mergeById Server.id upper.servers lower.servers
    mirrors := mergeById MirrorSettings.id upper.mirrors lower.mirrors
    proxies := mergeById ProxySettings.id upper.proxies lower.proxies
    profiles := mergeById Profile.id upper.profiles lower.profiles }

end Depot.Settings
