import Xyena.Agents.Failover
import Xyena.Agents.Stranded
import Xyena.Agents.Stream
import Xyena.Audit.Chain
import Xyena.Bank.Books
import Xyena.Bank.DailyLimit
import Xyena.Bank.Overlap
import Xyena.Bank.ParameterDrift
import Xyena.Bank.Payees
import Xyena.Bank.Reversals
import Xyena.Businesses.Standing
import Xyena.Conversations.Pages
import Xyena.Deliveries.Alerts
import Xyena.Deliveries.Claims
import Xyena.Demo.CleanExtract
import Xyena.Demo.Evidence
import Xyena.Demo.Snapshot
import Xyena.Demo.SourceMatch
import Xyena.Erp.Convergence
import Xyena.Erp.LaterReceipts
import Xyena.Financing.Agreement
import Xyena.Financing.Amounts
import Xyena.Funder.Applications
import Xyena.Funder.Capacity
import Xyena.Funder.Eligibility
import Xyena.Funder.Retries
import Xyena.Gateway.ScopeAgreement
import Xyena.Gst.SessionScope
import Xyena.Gst.Verification
import Xyena.Guardian.Refusal
import Xyena.Guardian.ResumeJobs
import Xyena.Guardian.SingleUse
import Xyena.Ledger.Compensated
import Xyena.Ledger.Isolation
import Xyena.Ledger.SinglePosting
import Xyena.Memory.Context
import Xyena.Memory.Forgetting
import Xyena.Memory.Sessions
import Xyena.Tools.AccessAgreement
import Xyena.Tools.CanonicalForms
import Xyena.Tools.Gate
import Xyena.Tools.Idempotency
import Xyena.Tools.ResultContent
import Xyena.Tools.ResumedRequests
import Xyena.Vault.Deletion
import Xyena.Worker.DeliveryOrder
import Xyena.Worker.Leases
