import ClusterWatch.Text.Blank
import ClusterWatch.Text.Decimal
import ClusterWatch.Text.Lowercase
import ClusterWatch.Text.Segments
import ClusterWatch.Text.WordEnd
import ClusterWatch.Dict
import ClusterWatch.FirstMatch
import ClusterWatch.Timestamp
import ClusterWatch.Json.Basic
import ClusterWatch.Json.Printer
import ClusterWatch.Json.Reader
import ClusterWatch.Toml.Basic
import ClusterWatch.Toml.Moment
import ClusterWatch.Toml.Numeral
import ClusterWatch.Toml.Quoted
import ClusterWatch.Toml.Tree
import ClusterWatch.Toml.Reader
import ClusterWatch.Lifecycle
import ClusterWatch.Health
import ClusterWatch.Storage.Sha1
import ClusterWatch.Storage.Name
import ClusterWatch.Memory.Size
import ClusterWatch.Memory.Sysctl
import ClusterWatch.Network.Address
import ClusterWatch.Spec.Basic
import ClusterWatch.Spec.Reader
import ClusterWatch.Spec.Sysctls
import ClusterWatch.Status.Basic
import ClusterWatch.Status.Json
import ClusterWatch.Platform.Basic
import ClusterWatch.Network.Ipam
import ClusterWatch.Network.Identity
import ClusterWatch.Platform.Fixture
import ClusterWatch.Diagnostic.Command
import ClusterWatch.Diagnostic.Output
import ClusterWatch.Disks.Groups
import ClusterWatch.Journal
import ClusterWatch.Channel
import ClusterWatch.Network.Allocation
import ClusterWatch.Diagnostic.Console
import ClusterWatch.Disks.Report
import ClusterWatch.Pass.Disks
import ClusterWatch.Pass.Node
import ClusterWatch.Pass.Reconcile
import ClusterWatch.CommandLine.Arguments
import ClusterWatch.CommandLine.Environment
import ClusterWatch.CommandLine.Run
import ClusterWatch.Main
import ClusterWatch.Proofs.Pointwise
import ClusterWatch.Proofs.Checks
import ClusterWatch.Proofs.Dict
import ClusterWatch.Proofs.Text.Cutting
import ClusterWatch.Proofs.Text.Trimming
import ClusterWatch.Proofs.Text.Decimal
import ClusterWatch.Proofs.Text.Padding
import ClusterWatch.Proofs.Text.Casing
import ClusterWatch.Proofs.Timestamp.Rendering
import ClusterWatch.Proofs.Json.Records
import ClusterWatch.Proofs.Json.Tokens
import ClusterWatch.Proofs.Json.Grammar
import ClusterWatch.Proofs.Json.Printing
import ClusterWatch.Proofs.Lifecycle.Aggregate
import ClusterWatch.Proofs.Lifecycle.Precedence
import ClusterWatch.Proofs.Lifecycle.Texts
import ClusterWatch.Proofs.Storage.Names
import ClusterWatch.Proofs.Storage.Sanitizing
import ClusterWatch.Proofs.Spec.NodeNames
import ClusterWatch.Proofs.Spec.NodeIdentities
import ClusterWatch.Proofs.Memory.Sizing
import ClusterWatch.Proofs.Memory.Acceptance
import ClusterWatch.Proofs.Memory.Overrides
import ClusterWatch.Proofs.Memory.SegmentLimit
import ClusterWatch.Proofs.Memory.Spelling
import ClusterWatch.Proofs.Network.Addresses
import ClusterWatch.Proofs.Network.Allocation
import ClusterWatch.Proofs.Network.Annotation
import ClusterWatch.Proofs.Diagnostic.Devices
import ClusterWatch.Proofs.Diagnostic.Items
import ClusterWatch.Proofs.Diagnostic.Keys
import ClusterWatch.Proofs.Diagnostic.Listings
import ClusterWatch.Proofs.Diagnostic.Questions
import ClusterWatch.Proofs.Disks.DeviceLists
import ClusterWatch.Proofs.Disks.DeviceLines
import ClusterWatch.Proofs.Disks.Merging
import ClusterWatch.Proofs.Disks.Discovery
import ClusterWatch.Proofs.Disks.Following
import ClusterWatch.Proofs.Disks.Matching
import ClusterWatch.Proofs.Disks.Additions
import ClusterWatch.Proofs.Disks.Mismatch
import ClusterWatch.Proofs.Disks.Relisting
import ClusterWatch.Proofs.Disks.Remerging
import ClusterWatch.Proofs.Disks.Reports
import ClusterWatch.Proofs.Pass.Entries
import ClusterWatch.Proofs.Pass.Groups
import ClusterWatch.Proofs.Pass.GroupNames
import ClusterWatch.Proofs.Pass.Independence
import ClusterWatch.Proofs.Pass.Provenance
import ClusterWatch.Proofs.Pass.Questions
import ClusterWatch.Proofs.Pass.Run
import ClusterWatch.Proofs.Pass.Outage
import ClusterWatch.Proofs.Pass.RecordedSizes
import ClusterWatch.Proofs.Pass.Stages
import ClusterWatch.Proofs.Pass.Lifecycle
import ClusterWatch.Proofs.Pass.Membership
import ClusterWatch.Proofs.Pass.Observations
import ClusterWatch.Proofs.Pass.Repeating
import ClusterWatch.Proofs.Pass.Containment
import ClusterWatch.Proofs.Pass.Resting
import ClusterWatch.Proofs.Pass.Settling
import ClusterWatch.Proofs.Pass.Freshness
import ClusterWatch.Proofs.Pass.Recovery
import ClusterWatch.Proofs.Pass.Source
import ClusterWatch.Proofs.Pass.Steps
import ClusterWatch.Proofs.Pass.Asking
import ClusterWatch.Proofs.Pass.Unread
import ClusterWatch.Proofs.Pass.SizeMismatch
import ClusterWatch.Proofs.Status.RoundTrip
