import CloudLifecycle.Lifecycle.Vm
import CloudLifecycle.Lifecycle.Disk
import CloudLifecycle.Lifecycle.Snapshot
import CloudLifecycle.Lifecycle.Self
import CloudLifecycle.Director.Response
import CloudLifecycle.QingCloud.Backend
import CloudLifecycle.HwCloud.Backend
import CloudLifecycle.Registry.Client
import CloudLifecycle.Config.Search
import CloudLifecycle.CommandLine.Run
import CloudLifecycle.Rehearsal.Stage
import CloudLifecycle.Rehearsal.Session
import CloudLifecycle.Main
import CloudLifecycle.Proofs.Store.Frame
import CloudLifecycle.Proofs.Store.Devices
import CloudLifecycle.Proofs.Vm.Boot
import CloudLifecycle.Proofs.HwCloud.Failures
import CloudLifecycle.Proofs.Backend.AtMostOnce
import CloudLifecycle.Proofs.Backend.Confirmation
import CloudLifecycle.Proofs.Disks.Reattachment
import CloudLifecycle.Proofs.Runs.Deadline
import CloudLifecycle.Proofs.Backend.Budgets
import CloudLifecycle.Proofs.Backend.Absence
import CloudLifecycle.Proofs.Backend.Existence
import CloudLifecycle.Proofs.Network.Reconciliation
import CloudLifecycle.Proofs.Vm.Launch
import CloudLifecycle.Proofs.Vm.Identity
import CloudLifecycle.Proofs.Settings.Properties
import CloudLifecycle.Proofs.Registry.Refinement
import CloudLifecycle.Proofs.Text.ByteOrder
import CloudLifecycle.Proofs.Text.Percent
import CloudLifecycle.Proofs.Url.Canonical
import CloudLifecycle.Proofs.Self.Memo
import CloudLifecycle.Proofs.Url.Marks
import CloudLifecycle.Proofs.Url.Verified
import CloudLifecycle.Proofs.Runs.Keys
import CloudLifecycle.Proofs.Store.Independence
import CloudLifecycle.Proofs.Store.Deletion
import CloudLifecycle.Proofs.Backend.Convergence
import CloudLifecycle.Proofs.Backend.Removal
import CloudLifecycle.Proofs.Network.Holders
import CloudLifecycle.Proofs.Network.Groups
import CloudLifecycle.Proofs.Network.Bindings
import CloudLifecycle.Proofs.Config.Required
import CloudLifecycle.Proofs.Backend.Elapsed
import CloudLifecycle.Proofs.Disks.Interruption
import CloudLifecycle.Proofs.Disks.Sizing
import CloudLifecycle.Proofs.Config.Layout
import CloudLifecycle.Proofs.Digest.Hmac
import CloudLifecycle.Proofs.Director.Answers
import CloudLifecycle.Proofs.Backend.Rounds
import CloudLifecycle.Proofs.Backend.Backoff
import CloudLifecycle.Proofs.Registry.Separation
import CloudLifecycle.Proofs.Url.Lists
import CloudLifecycle.Proofs.Disks.Exhaustion
