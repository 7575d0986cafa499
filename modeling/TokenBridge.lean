import TokenBridge.Identity
import TokenBridge.Session
import TokenBridge.Proofs.Client.Binding
import TokenBridge.Proofs.Sending.Approval
import TokenBridge.Proofs.Sending.Total
import TokenBridge.Proofs.Sending.Token
import TokenBridge.Proofs.Client.Rebuild
import TokenBridge.Proofs.Resolving.Canonical
import TokenBridge.Proofs.Layout
import TokenBridge.Proofs.Ledger.Move
import TokenBridge.Proofs.Ledger.Journal
import TokenBridge.Proofs.Ledger.Numbering
import TokenBridge.Proofs.Ledger.Acceptance
import TokenBridge.Proofs.Client.Current
import TokenBridge.Proofs.Directory.Registration
import TokenBridge.Proofs.Session.Building
import TokenBridge.Proofs.Sending.Precondition
import TokenBridge.Proofs.Ledger.Account
import TokenBridge.Proofs.Ledger.Reconcile
import TokenBridge.Proofs.Resolving.Representations
import TokenBridge.Proofs.Session.Statuses
import TokenBridge.Proofs.Sending.Announcing
import TokenBridge.Proofs.Session.Announced
import TokenBridge.Proofs.Sending.Delivery
import TokenBridge.Proofs.Session.References
import TokenBridge.Proofs.Session.Log
import TokenBridge.Proofs.Client.Local
import TokenBridge.Proofs.Sending.Alike
import TokenBridge.Proofs.Sending.Commuting
import TokenBridge.Proofs.Ledger.Refusal
import TokenBridge.Proofs.Resolving.FanOut
import TokenBridge.Proofs.Document.Config
import TokenBridge.Proofs.Sending.Resolved
import TokenBridge.Proofs.Resolving.Dispatched
import TokenBridge.Proofs.Transfer.WellFormed
import TokenBridge.Proofs.Config.WellFormed
import TokenBridge.Proofs.Identity.Bytes
import TokenBridge.Proofs.Ledger.Reverting
import TokenBridge.Proofs.Sending.Native
