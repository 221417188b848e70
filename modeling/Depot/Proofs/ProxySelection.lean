import Depot.Proofs.Cutting
import Depot.Proofs.Expressions
import Depot.Proofs.Firsts
import Depot.Proofs.Trimming
import Depot.Selection.Proxy

/-! Which proxy is used. A proxy serves the repositories whose address begins with its protocol, in
any case of A to Z, unless their host is an instance of one of its patterns (`ProxyRule.Serves`). With
the matchers that an engine for regular expressions makes of the patterns, as with the patterns
themselves, the first proxy that serves a repository is selected (`ProxyRule.select?_prepare`). -/

namespace Depot

namespace Text

theorem toLower_toLower (c : Char) : c.toLower.toLower = c.toLower := by
  unfold Char.toLower
  by_cases hupper : c.val ≥ 'A'.val ∧ c.val ≤ 'Z'.val
  · have hbeyond : ¬c.val + ('a'.val - 'A'.val) ≤ 'Z'.val := by
      have hfirst : 65 ≤ c.val.toNat := hupper.1
      have hlast : c.val.toNat ≤ 90 := hupper.2
      have hshift : ('a'.val - 'A'.val).toNat = 32 := rfl
      have hz : 'Z'.val.toNat = 90 := rfl
      rw [UInt32.le_iff_toNat_le, UInt32.toNat_add, hshift, hz]
      omega
    rw [dif_pos hupper, dif_neg fun h => hbeyond h.2]
  · rw [dif_neg hupper, dif_neg hupper]

@[simp] theorem lower_lower (s : String) : lower (lower s) = lower s := by
  rw [lower, lower, String.map_map]
  congr 1
  funext c
  exact toLower_toLower c

end Text

namespace RemoteRepository

/-- The address up to its first colon; empty for an address without one. -/
def scheme (r : RemoteRepository) : String :=
  if ':' ∈ r.url.toList then String.ofList (Text.beforeFirst ':' r.url.toList) else ""

theorem protocol_eq_lower_scheme (r : RemoteRepository) : r.protocol = Text.lower r.scheme := by
  have hcut := Text.map_fst_cutAt?_singleton ':' r.url.toList
  by_cases hcolon : ':' ∈ r.url.toList
  · rw [if_pos hcolon] at hcut
    obtain ⟨⟨before, after⟩, hfound, rfl⟩ := Option.map_eq_some_iff.mp hcut
    rw [protocol, hfound, scheme, if_pos hcolon]
  · rw [if_neg hcolon] at hcut
    rw [protocol, Option.map_eq_none_iff.mp hcut, scheme, if_neg hcolon]
    simp [Text.lower]

end RemoteRepository

namespace ProxyRule

open Text.Expression (Compiler)

variable {proxy : Proxy} {hosts : Option String} {r : RemoteRepository}

/-! ### Proxies and their patterns -/

/-- The proxy is for the scheme of the address, and the host is no instance of a trimmed piece of its
hosts that is not blank. -/
structure Serves (proxy : Proxy) (hosts : Option String) (r : RemoteRepository) : Prop where
  scheme : Text.lower proxy.protocol = Text.lower r.scheme
  host : ∀ piece ∈ Text.piecesBy (fun c => c == '|' || c == ',') (hosts.getD ""),
    Text.trim piece ≠ "" → ¬Text.Wildcard.Instance (Text.trim piece) r.host

theorem mem_patterns {pattern : String} : pattern ∈ patterns hosts ↔
    ∃ piece ∈ Text.piecesBy (fun c => c == '|' || c == ',') (hosts.getD ""),
      Text.trim piece ≠ "" ∧ pattern = Text.trim piece := by
  simp only [patterns, Text.filledPieces, List.mem_filterMap, Text.filled?_eq_some_iff]

theorem eqIgnoringCase_protocol_iff :
    Text.eqIgnoringCase proxy.protocol r.protocol = true ↔
      Text.lower proxy.protocol = Text.lower r.scheme := by
  rw [Text.eqIgnoringCase, beq_iff_eq, r.protocol_eq_lower_scheme, Text.lower_lower]

theorem serves_ofHosts_iff (h : '\n' ∉ r.host.toList) :
    (ofHosts proxy hosts).serves r = true ↔ Serves proxy hosts r := by
  have hdirect : (patterns hosts).any (Text.Wildcard.accepts · r.host) = true ↔
      ∃ piece ∈ Text.piecesBy (fun c => c == '|' || c == ',') (hosts.getD ""),
        Text.trim piece ≠ "" ∧ Text.Wildcard.Instance (Text.trim piece) r.host := by
    simp only [List.any_eq_true, mem_patterns, Text.Wildcard.accepts_iff h]
    constructor
    · rintro ⟨_, ⟨piece, hpiece, hfilled, rfl⟩, hinstance⟩
      exact ⟨piece, hpiece, hfilled, hinstance⟩
    · rintro ⟨piece, hpiece, hfilled, hinstance⟩
      exact ⟨_, ⟨piece, hpiece, hfilled, rfl⟩, hinstance⟩
  rw [serves, ofHosts, Bool.and_eq_true, eqIgnoringCase_protocol_iff, Bool.not_eq_true',
    Bool.eq_false_iff, Ne, hdirect]
  constructor
  · rintro ⟨hscheme, hhost⟩
    exact ⟨hscheme, fun piece hpiece hfilled hinstance =>
      hhost ⟨piece, hpiece, hfilled, hinstance⟩⟩
  · rintro ⟨hscheme, hhost⟩
    exact ⟨hscheme, fun ⟨piece, hpiece, hfilled, hinstance⟩ =>
      hhost piece hpiece hfilled hinstance⟩

/-! ### Proxies and their matchers -/

/-- A proxy and the matchers of the hosts that are reached without it. -/
structure Prepared where
  proxy : Proxy
  direct : List (String → Bool)

/-- The proxy with the matchers that the engine makes of its patterns; those that are too large for it
are left out. -/
def prepare (x : Compiler) (proxy : Proxy) (hosts : Option String) : Prepared :=
  { proxy, direct := (patterns hosts).filterMap fun pattern => x.compile? (x.expression pattern) }

/-- The first of the proxies for the protocol none of whose matchers accepts the host. -/
def Prepared.select? (prepared : List Prepared) (r : RemoteRepository) : Option Proxy :=
  let sameProtocol := prepared.filter fun p => Text.eqIgnoringCase p.proxy.protocol r.protocol
  (sameProtocol.find? fun p => !p.direct.any (· r.host)).map (·.proxy)

/-- The proxy with its patterns for matchers. -/
def matching (p : ProxyRule) : Prepared :=
  { proxy := p.proxy, direct := p.directHosts.map Text.Wildcard.accepts }

theorem select?_map_matching (proxies : List ProxyRule) (r : RemoteRepository) :
    Prepared.select? (proxies.map matching) r = select? proxies r := by
  have hserves : ∀ p : ProxyRule, decide (Text.eqIgnoringCase p.matching.proxy.protocol r.protocol ∧
      (!p.matching.direct.any (· r.host)) = true) = p.serves r := by
    intro p
    rw [Bool.eq_iff_iff]
    simp [matching, serves]
  rw [Prepared.select?, select?, List.find?_filter, List.find?_map, Option.map_map]
  simp only [Function.comp_def, hserves]
  rfl

theorem prepare_eq_matching {x : Compiler} (hx : x.Lawful)
    (hsize : ∀ pattern ∈ patterns hosts, (x.compile? (x.expression pattern)).isSome) :
    prepare x proxy hosts = (ofHosts proxy hosts).matching := by
  have hdirect : (patterns hosts).filterMap (fun pattern => x.compile? (x.expression pattern)) =
      (patterns hosts).map Text.Wildcard.accepts := by
    rw [← List.filterMap_eq_map]
    exact List.filterMap_congr fun pattern hpattern => hx.compile?_expression (hsize pattern hpattern)
  rw [prepare, hdirect]
  rfl

/-- With an engine that can hold the expressions of all patterns, the proxies select for a repository
what they select by the patterns themselves: the first that serves it, and none only where none of
them does. -/
theorem select?_prepare {x : Compiler} (hx : x.Lawful) (added : List (Proxy × Option String))
    (hsize : ∀ a ∈ added, ∀ pattern ∈ patterns a.2, (x.compile? (x.expression pattern)).isSome)
    (r : RemoteRepository) (hline : '\n' ∉ r.host.toList) :
    Prepared.select? (added.map fun a => prepare x a.1 a.2) r =
      select? (added.map fun a => ofHosts a.1 a.2) r ∧
    (∀ proxy, select? (added.map fun a => ofHosts a.1 a.2) r = some proxy ↔
      ∃ hosts, IsFirst (fun a => Serves a.1 a.2 r) added (proxy, hosts)) ∧
    (select? (added.map fun a => ofHosts a.1 a.2) r = none ↔ ∀ a ∈ added, ¬Serves a.1 a.2 r) := by
  have hserves : ∀ a : Proxy × Option String,
      (ofHosts a.1 a.2).serves r = true ↔ Serves a.1 a.2 r := fun a => serves_ofHosts_iff hline
  have hselect : select? (added.map fun a => ofHosts a.1 a.2) r =
      (added.find? fun a => (ofHosts a.1 a.2).serves r).map Prod.fst := by
    rw [select?, List.find?_map, Option.map_map]
    rfl
  refine ⟨?_, fun proxy => ?_, ?_⟩
  · have hprepared : (added.map fun a => prepare x a.1 a.2) =
        (added.map fun a => ofHosts a.1 a.2).map matching := by
      rw [List.map_map]
      exact List.map_congr_left fun a ha => prepare_eq_matching hx (hsize a ha)
    rw [hprepared, select?_map_matching]
  · rw [hselect, Option.map_eq_some_iff]
    simp only [find?_eq_some_iff_isFirst hserves, Prod.exists, exists_and_right, exists_eq_right]
  · rw [hselect, Option.map_eq_none_iff, find?_eq_none_iff_forall_not hserves]

/-- A proxy in capitals is passed over for a host under one of its stars, and the next one, with no
hosts of its own, is used. -/
theorem select?_prepare_passing :
    let r : RemoteRepository := { id := "central", url := "https://repo.example.com:8443/maven/" }
    let office : Proxy := { protocol := "HTTPS", host := "office", port := 3128 }
    let outside : Proxy := { protocol := "https", host := "outside", port := 8080 }
    let added := [(office, some "localhost| *.Example.com"), (outside, none)]
    Prepared.select? (added.map fun a => prepare Compiler.plain a.1 a.2) r = some outside := by
  intro r office outside added
  have hline : '\n' ∉ r.host.toList := by decide +kernel
  obtain ⟨hselect, hfirst, -⟩ := select?_prepare Compiler.plain_lawful added
    (fun _ _ pattern _ => Compiler.plain_compile?_expression_isSome pattern) r hline
  have hinstance : Text.Wildcard.Instance "*.Example.com" r.host :=
    (Text.Wildcard.accepts_iff hline).mp (by decide +kernel)
  have hpassed : ∀ other ∈ [(office, some "localhost| *.Example.com")],
      ¬Serves other.1 other.2 r := by
    intro other hother hserves
    rw [List.mem_singleton.mp hother] at hserves
    exact hserves.host " *.Example.com" (by decide +kernel) (by decide +kernel) hinstance
  have hscheme : r.scheme = "https" := by decide +kernel
  have hserves : Serves outside none r :=
    { scheme := by rw [hscheme]
      host := fun piece hpiece hfilled => by
        obtain rfl : piece = "" := by simpa [Text.piecesBy] using hpiece
        exact absurd rfl hfilled }
  have hisFirst : IsFirst (fun a => Serves a.1 a.2 r) added (outside, none) :=
    ⟨[(office, some "localhost| *.Example.com")], [], rfl, hserves, hpassed⟩
  exact hselect.trans ((hfirst outside).mpr ⟨none, hisFirst⟩)

end ProxyRule

end Depot
