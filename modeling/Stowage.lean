import Stowage.Main
import Stowage.Proofs.Setting
import Stowage.Proofs.Table
import Stowage.Proofs.MergePatch
import Stowage.Proofs.Agreement
import Stowage.Proofs.Changes
import Stowage.Proofs.Sorted
import Stowage.Proofs.Compatible
import Stowage.Proofs.StatusPatch
import Stowage.Proofs.Slot
import Stowage.Proofs.Pass.Entries
import Stowage.Proofs.Pass.Course
import Stowage.Proofs.Pass.Retry
import Stowage.Proofs.Pass.Origin
import Stowage.Proofs.Layer
import Stowage.Proofs.Pass.Settled
import Stowage.Proofs.Pass.Events
import Stowage.Proofs.Pass.Once
import Stowage.Proofs.Pass.Failed
import Stowage.Proofs.Thread
import Stowage.Proofs.Pass.Interleaved
import Stowage.Proofs.Pass.Generation
import Stowage.Proofs.Pass.Edited
import Stowage.Proofs.Transfer.Course
import Stowage.Proofs.Transfer.Staged
import Stowage.Proofs.Destination
import Stowage.Proofs.Pass.Paced
import Stowage.Proofs.Pass.Frame
import Stowage.Proofs.Pass.Owned
import Stowage.Proofs.Pass.Counted
import Stowage.Proofs.Transfer.Shared
import Stowage.Proofs.Kinds
import Stowage.Proofs.Cluster.Server
import Stowage.Proofs.Cluster.Held
import Stowage.Proofs.Cluster.Coupled
import Stowage.Proofs.Filing
import Stowage.Proofs.Resolved
import Stowage.Proofs.Announced
import Stowage.Proofs.Decorated
import Stowage.Proofs.Nested
import Stowage.Proofs.Requestable
import Stowage.Proofs.Transfer.Content
import Stowage.Proofs.Span.Exact
import Stowage.Proofs.Transfer.Reported
import Stowage.Proofs.Gzip.Joined
