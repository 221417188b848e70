import Depot.Repository.Basic
import Depot.Text.Wildcard

/-! Proxies. A proxy serves the repositories of its protocol, except those on a host that one of its
patterns matches; the patterns stand between bars or commas. Of several proxies the first is used.
-/

namespace Depot

/-- A proxy and the hosts that are reached without it. -/
structure ProxyRule where
  proxy : Proxy
  directHosts : List String
deriving DecidableEq, Repr

namespace ProxyRule

/-- The patterns of a list of hosts. -/
def patterns (hosts : Option String) : List String :=
  Text.filledPieces (fun c => c == '|' || c == ',') (hosts.getD "")

def ofHosts (proxy : Proxy) (hosts : Option String) : ProxyRule :=
  { proxy, directHosts := patterns hosts }

def serves (p : ProxyRule) (r : RemoteRepository) : Bool :=
  Text.eqIgnoringCase p.proxy.protocol r.protocol &&
    !p.directHosts.any (Text.Wildcard.accepts · r.host)

/-- The first proxy that serves the repository. -/
def select? (proxies : List ProxyRule) (r : RemoteRepository) : Option Proxy :=
  (proxies.find? (·.serves r)).map (·.proxy)

end ProxyRule

end Depot
