import PerPay.Lib.Tx
import PerPay.Lib.Refusals
import PerPay.Lib.Table
import PerPay.Lib.Runs
import PerPay.Lib.Json
import PerPay.Lib.Calendar
import PerPay.Lib.Digits
import PerPay.Lib.Tiling
import PerPay.Lib.Repetition
import PerPay.Orders.Model
import PerPay.Orders.Statements
import PerPay.Orders.Aggregates
import PerPay.Orders.Store
import PerPay.Orders.Effects
import PerPay.Orders.Invariants
import PerPay.Orders.Slots
import PerPay.Orders.Evolution
import PerPay.Orders.Events
import PerPay.Orders.PublicCheckout
import PerPay.Orders.Allocation
import PerPay.Orders.Creation
import PerPay.Orders.Expiry
import PerPay.Orders.Idempotency
import PerPay.Orders.History
import PerPay.Orders.Tokens
import PerPay.Ledger.Texts
import PerPay.Ledger.Model
import PerPay.Ledger.Statements
import PerPay.Ledger.Ingestion
import PerPay.Ledger.Store
import PerPay.Ledger.Effects
import PerPay.Ledger.Operations
import PerPay.Ledger.Deduplication
import PerPay.Ledger.Entries
import PerPay.Ledger.Segments
import PerPay.Ledger.Variants
import PerPay.Ledger.Confirmation
import PerPay.Finance.Model
import PerPay.Finance.Statements
import PerPay.Finance.Settlement
import PerPay.Finance.Store
import PerPay.Finance.Effects
import PerPay.Finance.Moves
import PerPay.Finance.Books
import PerPay.Finance.Sourcing
import PerPay.Finance.Recorded
import PerPay.Finance.Decisions
import PerPay.Finance.Replay
import PerPay.Finance.Acceptance
import PerPay.Finance.Occurrences
import PerPay.Scheduling.Verification
import PerPay.Scheduling.Sweeps
import PerPay.Scanning.Silence
import PerPay.Audit.Chain
import PerPay.Identity.Clocks
import PerPay.Identity.Nonces
import PerPay.Identity.PasswordBudget
import PerPay.Sites.Binding
import PerPay.Database.SingleWriter
import PerPay.Runtime.Following
import PerPay.Backup.Alone
import PerPay.Security.Requests
import PerPay.Http.DuplicateKeys
import PerPay.Epay.Callback
import PerPay.Runtime.CheckoutProgress
import PerPay.Runtime.SwitchHistory
import PerPay.Checkout.Polling
import PerPay.Ledger.Agreement
import PerPay.Audit.Connections
import PerPay.Lib.Base64Url
import PerPay.Lib.Merge
import PerPay.Audit.Pages
import PerPay.Audit.Cursors
import PerPay.Audit.Paging
import PerPay.Lib.Groups
import PerPay.Audit.Recorder
import PerPay.Audit.Conserved
import PerPay.Http.PublicCheckoutRateLimit
import PerPay.Ledger.SegmentTree
import PerPay.Notifications.DnsGate
import PerPay.Alipay.Lookups
