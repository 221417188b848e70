import Depot.Overrides
import Depot.Settings.Activation

/-! The profiles that are active: those that are asked for, then those that the settings activate,
then those that become active by themselves, each identifier once and none that is deactivated. Only
when that leaves nothing are the profiles active that are so by default. -/

namespace Depot.Settings

/-- The active profiles with one more, unless it is deactivated or active already. -/
def activate (inactive : List String) (active : List Profile) (p : Profile) : List Profile :=
  if inactive.contains p.id || active.any (·.id == p.id) then active else active ++ [p]

/-- The profiles that the identifiers name, as far as they are declared. -/
def named (s : Settings) (ids : List String) : List Profile :=
  ids.filterMap s.profile?

/-- The active profiles in the order in which they become active. -/
def activeAmong (s : Settings) (requested inactive : List String)
    (accepts : Option (Profile → Bool)) : List Profile :=
  let accepted := match accepts with
    | some accepts => s.profiles.filter accepts
    | none => []
  let signalled := s.named requested ++ s.named s.activeProfiles ++ accepted
  let active := signalled.foldl (activate inactive) []
  if active.isEmpty then
    (s.profiles.filter Profile.isActiveByDefault).foldl (activate inactive) []
  else active

/-- The profiles that are active under the overrides. -/
def activeUnder (s : Settings) (o : Overrides) (accepts : Option (Profile → Bool)) : List Profile :=
  s.activeAmong o.activeProfiles o.inactiveProfiles accepts

end Depot.Settings
