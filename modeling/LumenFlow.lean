import LumenFlow.Client.Events
import LumenFlow.Client.Pagination
import LumenFlow.Frontend.ReceiptCache
import LumenFlow.Recovery.Convergence
import LumenFlow.Recovery.Stopping
import LumenFlow.Recovery.Transient
import LumenFlow.Relay.AtLeastOnce
import LumenFlow.Relay.AtMostOnce
import LumenFlow.Relay.Order
import LumenFlow.Router.Rollout
import LumenFlow.Safety.ActiveCount
import LumenFlow.Safety.Allowances
import LumenFlow.Safety.AuditLog
import LumenFlow.Safety.BatchGroups
import LumenFlow.Safety.Batching
import LumenFlow.Safety.Bookkeeping
import LumenFlow.Safety.Capacity
import LumenFlow.Safety.Charges
import LumenFlow.Safety.Cleanup
import LumenFlow.Safety.Collection
import LumenFlow.Safety.Consent
import LumenFlow.Safety.Custody
import LumenFlow.Safety.Disputes
import LumenFlow.Safety.Enforcement
import LumenFlow.Safety.FailureWindow
import LumenFlow.Safety.Fees
import LumenFlow.Safety.Freeze
import LumenFlow.Safety.Indexes
import LumenFlow.Safety.Isolation
import LumenFlow.Safety.Listing
import LumenFlow.Safety.Lockout
import LumenFlow.Safety.Migration
import LumenFlow.Safety.Naming
import LumenFlow.Safety.Nonces
import LumenFlow.Safety.Ordering
import LumenFlow.Safety.Orders
import LumenFlow.Safety.Origins
import LumenFlow.Safety.Outstanding
import LumenFlow.Safety.Overdraft
import LumenFlow.Safety.Paging
import LumenFlow.Safety.Pause
import LumenFlow.Safety.Periods
import LumenFlow.Safety.PauseLog
import LumenFlow.Safety.Payouts
import LumenFlow.Safety.Privileges
import LumenFlow.Safety.Profiles
import LumenFlow.Safety.RateLimit
import LumenFlow.Safety.Received
import LumenFlow.Safety.Recipients
import LumenFlow.Safety.Records
import LumenFlow.Safety.RefundChecks
import LumenFlow.Safety.RefundIndex
import LumenFlow.Safety.RefundRetention
import LumenFlow.Safety.Registration
import LumenFlow.Safety.Requests
import LumenFlow.Safety.Settings
import LumenFlow.Safety.Settlements
import LumenFlow.Safety.Statistics
import LumenFlow.Safety.Surplus
import LumenFlow.Safety.Thresholds
import LumenFlow.Safety.Timelock
import LumenFlow.Safety.Totals
import LumenFlow.Safety.Versions
import LumenFlow.Security.AbuseDetection
import LumenFlow.Security.Lockout
import LumenFlow.Security.Quorum
import LumenFlow.Security.ReadingBack
import LumenFlow.Security.Redaction
import LumenFlow.Security.Sessions
import LumenFlow.Signing.Batches
import LumenFlow.Signing.Binding
import LumenFlow.Signing.Expiry
import LumenFlow.Signing.Keys
import LumenFlow.Signing.Messages
import LumenFlow.Signing.Sdk
import LumenFlow.Webhook.Cursor
import LumenFlow.Webhook.Delivery
