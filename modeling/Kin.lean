import Kin.Adapters.Screening
import Kin.AgentRegistry.PeerCards
import Kin.AgentRegistry.PublishedCards
import Kin.Artifacts.FailedWrite
import Kin.Artifacts.HunkPlacement
import Kin.Artifacts.Metadata
import Kin.Artifacts.UnifiedDiff
import Kin.Artifacts.UntouchedText
import Kin.Artifacts.WriteAuthority
import Kin.Audit.Export
import Kin.Audit.Transcript
import Kin.ContextPantry
import Kin.Depth.Reservations
import Kin.Gateway.AgentCard
import Kin.Gateway.CallerAuthority
import Kin.Gateway.CanonicalText
import Kin.Gateway.CardCache
import Kin.Gateway.CardFetch
import Kin.Gateway.PrivateReferences
import Kin.Gateway.RequestIdentity
import Kin.Gateway.RestAllowlist
import Kin.Gateway.Transparency
import Kin.Identity.Auth
import Kin.Inbox.Acknowledged
import Kin.Lib.Autocommit
import Kin.Lib.Binary64
import Kin.Lib.Bookings
import Kin.Lib.CertifiedLog
import Kin.Lib.Fences
import Kin.Lib.Keyed
import Kin.Lib.ListDiff
import Kin.Lib.OrderBy
import Kin.Lib.PrefixCode
import Kin.Lib.Regex
import Kin.Lib.ReviewHistory
import Kin.Lib.Rewrite
import Kin.Lib.Substitute
import Kin.Lib.Substring
import Kin.Lib.Tally
import Kin.Node.ApprovalDecision
import Kin.Node.ArtifactAccounting
import Kin.Node.Budget
import Kin.Node.Consent
import Kin.Node.Lifecycle
import Kin.Node.MandatoryBudgets
import Kin.Node.NothingLost
import Kin.Node.OrderCheck
import Kin.Node.OwnAgent
import Kin.Node.OwnerHold
import Kin.Node.QueuedTurns
import Kin.Node.Recipient
import Kin.Node.SequenceReuse
import Kin.Node.TagInAcceptance
import Kin.Node.TurnLimit
import Kin.Pair.Delivery
import Kin.Pair.Handoff
import Kin.Policy.DecideOnce
import Kin.Policy.Expiry
import Kin.Policy.FreshAuthority
import Kin.Policy.PendingApprovals
import Kin.Policy.SingleUse
import Kin.Py.IsoRead
import Kin.Relay.Contract
import Kin.Session.ApprovalGate
import Kin.Session.OutcomeEvidence
import Kin.Session.PrivateNotes
import Kin.Storage.FailedMigration
import Kin.Storage.LegacyRefusal
import Kin.Storage.LegacyUpgrade
import Kin.Storage.Scripts
import Kin.Tasks.Admission
import Kin.Tasks.Closed
import Kin.Tasks.Membership
import Kin.Tasks.RoundLimit
import Kin.Transport.ReducerTotality
import Kin.Transport.Refinement
import Kin.Transport.RetryOrder
import Kin.Transport.TerminalNotice
import Kin.Tui.DispatchWizard
import Kin.Tui.NotesLane
import Kin.Tui.NamedSecret
import Kin.Tui.Polling
import Kin.Tui.Workspace
