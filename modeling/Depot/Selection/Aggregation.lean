import Depot.Repository.Listing
import Depot.Selection.Credentials
import Depot.Selection.Mirror
import Depot.Selection.Proxy

/-! The repositories that are really contacted. Each repository gives way to the mirror that stands
in for it, the list is collapsed so that one mirror appears once, and what is left gets the proxy
and the credentials of its own address and identifier unless it has some already. -/

namespace Depot

/-- The tables that are asked when a repository is contacted. -/
structure Selectors where
  mirrors : List MirrorRule := []
  proxies : List ProxyRule := []
  credentials : Credentials := {}
deriving DecidableEq, Repr

namespace Selectors

instance : Inhabited Selectors := ⟨{}⟩

/-- The mirror selected for the repository, or the repository itself. -/
def candidate (s : Selectors) (r : RemoteRepository) : RemoteRepository :=
  (MirrorRule.select? s.mirrors r).getD r

/-- The repository with the proxy and the credentials that it lacks. -/
def equip (s : Selectors) (r : RemoteRepository) : RemoteRepository :=
  { r with
    proxy := r.proxy.or (ProxyRule.select? s.proxies r)
    authentication := r.authentication.or (s.credentials.select? r) }

/-- The repositories that are contacted for those of the list. -/
def aggregate (s : Selectors) (rs : List RemoteRepository) : List RemoteRepository :=
  (Listing.collapse (rs.map s.candidate)).map s.equip

end Selectors

end Depot
