import RedisLink.Session
import RedisLink.Proofs.ClassPaths
import RedisLink.Proofs.Freezing
import RedisLink.Proofs.Immutability
import RedisLink.Proofs.Lifecycle.Agreement
import RedisLink.Proofs.Lifecycle.Closing
import RedisLink.Proofs.Lifecycle.Conservation
import RedisLink.Proofs.Lifecycle.Edits
import RedisLink.Proofs.Lifecycle.Effect
import RedisLink.Proofs.Lifecycle.Lifetime
import RedisLink.Proofs.Lifecycle.Moves
import RedisLink.Proofs.Lifecycle.Residue
import RedisLink.Proofs.Lifecycle.Retry
import RedisLink.Proofs.Lifecycle.Sharing
import RedisLink.Proofs.Lifecycle.Snapshot
import RedisLink.Proofs.Milliseconds
import RedisLink.Proofs.Nodes.Lists
import RedisLink.Proofs.Nodes.Occurrences
import RedisLink.Proofs.Nodes.RoundTrip
import RedisLink.Proofs.Nodes.Text
import RedisLink.Proofs.Opening
import RedisLink.Proofs.PortVariable
import RedisLink.Proofs.Ports
import RedisLink.Proofs.Secrecy.Sessions
import RedisLink.Proofs.Selection
import RedisLink.Proofs.TimeoutChecks
import RedisLink.Proofs.Topologies.Renewal
import RedisLink.Proofs.Topologies.Settings
import RedisLink.Proofs.Topologies.Views
import RedisLink.Proofs.Translation
import RedisLink.Proofs.UriText
import RedisLink.Proofs.UrlSchemes
import RedisLink.Proofs.Lifecycle.Limits
import RedisLink.Proofs.Builders
import RedisLink.Proofs.Lifecycle.Reports
import RedisLink.Proofs.Lifecycle.Untraced
import RedisLink.Proofs.Nodes.Grammar
