import Depot.Text.Utf8
import Depot.Context.World
import Depot.Provider.Registry
import Depot.Proofs.Aggregation
import Depot.Proofs.Building
import Depot.Proofs.Steps
import Depot.Proofs.Ownership
import Depot.Proofs.Derivation
import Depot.Proofs.Mirroring
import Depot.Proofs.Lineage
import Depot.Proofs.Composing
import Depot.Proofs.Layering
import Depot.Proofs.Seclusion
import Depot.Proofs.Identifiers
import Depot.Proofs.DefaultRepository
import Depot.Proofs.Ranking
import Depot.Proofs.Discovery
import Depot.Proofs.Precedence
import Depot.Proofs.MergingLaws
import Depot.Proofs.Credentials
import Depot.Proofs.Deactivation
import Depot.Proofs.ChainProperties
import Depot.Proofs.Permanence
import Depot.Proofs.Announcing
import Depot.Proofs.Footprint
import Depot.Proofs.Consulting
import Depot.Proofs.Representing
import Depot.Proofs.Confinement
import Depot.Proofs.CompositionLaws
import Depot.Proofs.MirrorPatterns
import Depot.Proofs.ProxySelection
import Depot.Proofs.Signals
import Depot.Proofs.VersionOrder
import Depot.Proofs.VersionRanges
import Depot.Proofs.Negation
import Depot.Proofs.Dropping
import Depot.Proofs.Drafting
import Depot.Proofs.LayoutPaths
import Depot.Proofs.References
import Depot.Proofs.Shapes
import Depot.Proofs.Addresses
import Depot.Proofs.UpdatePolicies
