/-
  **The financial tables** — the rows, enumerations, fingerprints and inputs of the reconciliation
  store (`reconciliation/model.ts`, `reconciliation/store.ts`).

  Reconciliation joins the two worlds below it: it reads and writes orders (`Orders`) and ledger
  entries (`Ledger`), and keeps tables of its own.  `FinanceDb` is the three together.  Columns that
  nothing modelled reads are left out: the refund status, which no code writes, the request texts and
  the text fingerprints kept for audit, and the match event log of the list queries.

  Keys that the source builds by concatenation (`admin:<id>`, `order:<id>`, …) are constructors: the
  texts differ in their prefix, and agree only when the identifiers do.
-/
import PerPay.Ledger.Store
import PerPay.Orders.Store

namespace PerPay.Finance

open Orders Ledger

/-! ## Constants and enumerations -/

def reconciliationRuleVersion : Nat := 3
def maxReconciliationBatchSize : Nat := 256
def maxLatePaymentAttributionMilliseconds : Nat := 24 * 60 * 60 * 1_000
def sandboxProviderEndpoint : String := "https://openapi-sandbox.dl.alipaydev.com"

inductive CandidateStatus
  | ELIGIBLE | SELECTED | SUPERSEDED
  deriving DecidableEq, Repr

inductive PaymentMatchStatus
  | SETTLED | REVERSED
  deriving DecidableEq, Repr

inductive FinancialOperationType
  | AUTO_SETTLEMENT | SUPERSEDE_CANDIDATE | MANUAL_SETTLEMENT | REVERSE_SETTLEMENT | RECORD_REFUND
  deriving DecidableEq, Repr

def FinancialOperationType.name : FinancialOperationType → String
  | .AUTO_SETTLEMENT => "AUTO_SETTLEMENT"
  | .SUPERSEDE_CANDIDATE => "SUPERSEDE_CANDIDATE"
  | .MANUAL_SETTLEMENT => "MANUAL_SETTLEMENT"
  | .REVERSE_SETTLEMENT => "REVERSE_SETTLEMENT"
  | .RECORD_REFUND => "RECORD_REFUND"

inductive ActorType
  | SYSTEM | ADMIN
  deriving DecidableEq, Repr

def ActorType.name : ActorType → String
  | .SYSTEM => "SYSTEM"
  | .ADMIN => "ADMIN"

inductive FinancialExceptionType
  | UNMATCHED_CREDIT | UNMATCHED_DEBIT | AMBIGUOUS_MATCH | CHECKOUT_ENDED_PAYMENT | DUPLICATE_PAYMENT
  | AMOUNT_MISMATCH | UNLINKED_REFUND | RECONCILIATION_CONFLICT
  deriving DecidableEq, Repr

def FinancialExceptionType.name : FinancialExceptionType → String
  | .UNMATCHED_CREDIT => "UNMATCHED_CREDIT"
  | .UNMATCHED_DEBIT => "UNMATCHED_DEBIT"
  | .AMBIGUOUS_MATCH => "AMBIGUOUS_MATCH"
  | .CHECKOUT_ENDED_PAYMENT => "CHECKOUT_ENDED_PAYMENT"
  | .DUPLICATE_PAYMENT => "DUPLICATE_PAYMENT"
  | .AMOUNT_MISMATCH => "AMOUNT_MISMATCH"
  | .UNLINKED_REFUND => "UNLINKED_REFUND"
  | .RECONCILIATION_CONFLICT => "RECONCILIATION_CONFLICT"

inductive ExceptionStatus
  | OPEN | RESOLVED
  deriving DecidableEq, Repr

inductive TransactionType
  | SETTLEMENT | REVERSAL
  deriving DecidableEq, Repr

inductive TransactionStatus
  | DRAFT | POSTED
  deriving DecidableEq, Repr

inductive AccountCode
  | PROVIDER_CASH | ORDER_SETTLEMENT
  deriving DecidableEq, Repr

inductive PostingSide
  | DEBIT | CREDIT
  deriving DecidableEq, Repr

inductive PaymentEventType
  | PAYMENT_CONFIRMED | PAYMENT_DISPUTED
  deriving DecidableEq, Repr

def PaymentEventType.toOrderEventType : PaymentEventType → OrderEventType
  | .PAYMENT_CONFIRMED => .PAYMENT_CONFIRMED
  | .PAYMENT_DISPUTED => .PAYMENT_DISPUTED

/-! ## Rows -/

/-- `CandidateFingerprintInput`, which is also the evidence a candidate keeps. -/
structure CandidateEvidence where
  providerAccountKey : String
  ledgerEntryId : String
  ledgerSemanticFingerprint : String
  occurredAt : Nat
  occurredAtPrecisionMilliseconds : Nat
  amountCents : Nat
  orderId : Uuid
  collectionProfileId : Uuid
  slotId : Uuid
  slotGeneration : Nat
  slotOccupiedFrom : Nat
  slotReleasedAt : Option Nat
  deriving DecidableEq, Repr

/-- A row of `match_candidates`. -/
structure MatchCandidate where
  candidateId : Uuid
  ledgerEntryId : String
  orderId : Uuid
  slotId : Uuid
  evidence : CandidateEvidence
  candidateFingerprint : String
  status : CandidateStatus
  decidedByOperationId : Option Uuid
  createdAt : Nat
  updatedAt : Nat
  decidedAt : Option Nat
  deriving DecidableEq, Repr

/-- The evidence of a match; its constructor is the `evidence_type`. -/
inductive MatchEvidence
  | amountInferred (evidence : CandidateEvidence)
  | manual (financialOperationId : Uuid) (actorId : String) (reason : Option String)
  deriving DecidableEq, Repr

/-- A row of `payment_matches`. -/
structure PaymentMatch where
  paymentMatchId : Uuid
  ledgerEntryId : String
  orderId : Uuid
  candidateId : Option Uuid
  evidence : MatchEvidence
  status : PaymentMatchStatus
  createdByOperationId : Uuid
  resolvedByOperationId : Option Uuid
  createdAt : Nat
  updatedAt : Nat
  resolvedAt : Option Nat
  deriving DecidableEq, Repr

/-- An `operation_key`: `admin:<id>`, `auto-settlement:<candidate fingerprint>`, `supersede:<id>`. -/
inductive OperationKey
  | admin (financialOperationId : Uuid)
  | autoSettlement (candidateFingerprint : String)
  | supersede (candidateId : Uuid)
  deriving DecidableEq, Repr

/-- A row of `financial_operations`. -/
structure FinancialOperation where
  financialOperationId : Uuid
  operationKey : OperationKey
  requestFingerprint : String
  operationType : FinancialOperationType
  actorType : ActorType
  actorId : Option String
  orderId : Option Uuid
  ledgerEntryId : Option String
  reversesOperationId : Option Uuid
  reason : Option String
  createdAt : Nat
  deriving DecidableEq, Repr

/-- A `context_key`. -/
inductive ContextKey
  | initial
  | uuid (id : Uuid)
  | rule
  | order (orderId : Uuid)
  | settledOrders (count : Nat)
  | reclassified (occurrence : Nat) (exceptionId : Uuid)
  deriving DecidableEq, Repr

/-- The `details_json` of a financial exception. -/
inductive ExceptionDetails
  | candidateCount (count : Nat)
  | duplicatePayment (overlapCount : Nat)
  | checkoutEnded (checkoutStatus : CheckoutStatus) (endedAt : Nat)
  | amountMismatch (expectedAmountCents actualAmountCents : Nat)
  | noExactAmount
  | settlementReversed (paymentMatchId : Uuid)
  deriving DecidableEq, Repr

/-- The `resolution_json` of a financial exception. -/
structure ExceptionResolution where
  resolution : String
  paymentMatchId : Uuid
  deriving DecidableEq, Repr

/-- A row of `financial_exceptions`. -/
structure FinancialException where
  exceptionId : Uuid
  providerAccountKey : String
  exceptionType : FinancialExceptionType
  ledgerEntryId : Option String
  orderId : Option Uuid
  candidateId : Option Uuid
  contextKey : ContextKey
  details : ExceptionDetails
  exceptionFingerprint : String
  status : ExceptionStatus
  resolutionOperationId : Option Uuid
  resolution : Option ExceptionResolution
  createdAt : Nat
  resolvedAt : Option Nat
  deriving DecidableEq, Repr

/-- A row of `ledger_transactions`. -/
structure LedgerTransaction where
  ledgerTransactionId : Uuid
  financialOperationId : Uuid
  orderId : Uuid
  ledgerEntryId : String
  transactionType : TransactionType
  status : TransactionStatus
  createdAt : Nat
  postedAt : Option Nat
  deriving DecidableEq, Repr

/-- A row of `ledger_postings`. -/
structure LedgerPosting where
  postingId : Uuid
  ledgerTransactionId : Uuid
  accountCode : AccountCode
  side : PostingSide
  amountCents : Nat
  orderId : Uuid
  ledgerEntryId : String
  createdAt : Nat
  deriving DecidableEq, Repr

/-- The `event_details` of an outbox payload. -/
structure OutboxEventDetails where
  paymentMatchId : Uuid
  candidateId : Option Uuid
  evidenceType : Option String
  deriving DecidableEq, Repr

/-- The `payload_json` of an outbox event. -/
structure OutboxPayload where
  eventId : Uuid
  eventType : PaymentEventType
  financialOperationId : Uuid
  orderId : Uuid
  merchantOrderNo : String
  productName : String
  note : Option String
  requestedAmountCents : Nat
  payableAmountCents : Nat
  receivedAmountCents : Nat
  paymentStatus : PaymentStatus
  paymentBasis : PaymentBasis
  eventDetails : OutboxEventDetails
  orderVersion : Nat
  occurredAt : Nat
  deriving DecidableEq, Repr

/-- A row of `outbox_events`; the aggregate is always a payment order. -/
structure OutboxEvent where
  outboxEventId : Uuid
  financialOperationId : Uuid
  aggregateId : Uuid
  aggregateVersion : Nat
  eventType : PaymentEventType
  payload : OutboxPayload
  createdAt : Nat
  deriving DecidableEq, Repr

/-- The tables of reconciliation, with the orders and the ledger it works on.  As in the ledger,
    `randomUUID` is an outside source: `entropy` holds the identifiers it will return next. -/
structure FinanceDb where
  orders : OrderDb
  ledger : LedgerDb
  candidates : List MatchCandidate
  paymentMatches : List PaymentMatch
  operations : List FinancialOperation
  exceptions : List FinancialException
  transactions : List LedgerTransaction
  postings : List LedgerPosting
  outbox : List OutboxEvent
  entropy : Nat → Uuid
  drawn : Nat

/-- Nothing was ever ordered, ingested or reconciled. -/
structure FinanceDb.Empty (db : FinanceDb) : Prop where
  orders : db.orders.Empty
  ledger : db.ledger.Empty
  candidates : db.candidates = []
  paymentMatches : db.paymentMatches = []
  operations : db.operations = []
  exceptions : db.exceptions = []
  transactions : db.transactions = []
  postings : db.postings = []
  outbox : db.outbox = []

/-! ## Fingerprints -/

/-- What Node computes for reconciliation: what it computes for orders and for the ledger. -/
structure FinancePlatform where
  orders : Platform
  ledger : LedgerPlatform

section
variable (pf : FinancePlatform)

/-- `sha256Json` of a flat object. -/
def sha256Json (members : List (String × Json.Scalar)) : String :=
  pf.orders.sha256 (String.ofList (Json.objectText (members.map fun m => (m.1.toList, m.2))))

def textScalar (s : String) : Json.Scalar := .text s.toList

def uuidScalar (id : Uuid) : Json.Scalar := .text (pf.orders.uuidText id).toList

def optionScalar {α : Type} (f : α → Json.Scalar) : Option α → Json.Scalar
  | none => .null
  | some a => f a

/-- `candidateEvidence` as it is hashed. -/
def candidateFingerprint (input : CandidateEvidence) : String :=
  sha256Json pf
    [("schema", textScalar "perpay:match-candidate:v3"),
     ("rule_version", .num reconciliationRuleVersion),
     ("provider_account_key", textScalar input.providerAccountKey),
     ("ledger_entry_id", textScalar input.ledgerEntryId),
     ("ledger_semantic_fingerprint", textScalar input.ledgerSemanticFingerprint),
     ("occurred_at", .num input.occurredAt),
     ("occurred_at_precision_milliseconds", .num input.occurredAtPrecisionMilliseconds),
     ("occurred_at_interval_end_exclusive", .num (input.occurredAt + input.occurredAtPrecisionMilliseconds)),
     ("amount_cents", .num input.amountCents),
     ("order_id", uuidScalar pf input.orderId),
     ("collection_profile_id", uuidScalar pf input.collectionProfileId),
     ("slot_id", uuidScalar pf input.slotId),
     ("slot_generation", .num input.slotGeneration),
     ("slot_occupied_from", .num input.slotOccupiedFrom),
     ("slot_released_at", optionScalar .num input.slotReleasedAt),
     ("evidence_type", textScalar "AMOUNT_INFERRED")]

structure FinancialOperationFingerprintInput where
  operationType : FinancialOperationType
  actorType : ActorType
  actorId : Option String
  orderId : Option Uuid
  ledgerEntryId : Option String
  candidateId : Option Uuid
  paymentMatchId : Option Uuid
  reversesOperationId : Option Uuid
  reason : Option String
  deriving DecidableEq, Repr

/-- `financialOperationEvidence` as it is hashed. -/
def financialOperationFingerprint (input : FinancialOperationFingerprintInput) : String :=
  sha256Json pf
    [("schema", textScalar "perpay:financial-operation:v1"),
     ("operation_type", textScalar input.operationType.name),
     ("actor_type", textScalar input.actorType.name),
     ("actor_id", optionScalar textScalar input.actorId),
     ("order_id", optionScalar (uuidScalar pf) input.orderId),
     ("ledger_entry_id", optionScalar textScalar input.ledgerEntryId),
     ("candidate_id", optionScalar (uuidScalar pf) input.candidateId),
     ("payment_match_id", optionScalar (uuidScalar pf) input.paymentMatchId),
     ("reverses_operation_id", optionScalar (uuidScalar pf) input.reversesOperationId),
     ("reason", optionScalar textScalar input.reason)]

def ContextKey.text : ContextKey → String
  | .initial => "initial"
  | .uuid id => pf.orders.uuidText id
  | .rule => "rule:3"
  | .order orderId => "order:" ++ pf.orders.uuidText orderId
  | .settledOrders count => "settled-orders:3:" ++ String.ofList (Json.natText count)
  | .reclassified occurrence exceptionId =>
    "reclassified:" ++ String.ofList (Json.natText occurrence) ++ ":" ++ pf.orders.uuidText exceptionId

/-- What `ensureException` is asked to record. -/
structure ExceptionInput where
  providerAccountKey : String
  exceptionType : FinancialExceptionType
  ledgerEntryId : Option String
  orderId : Option Uuid
  candidateId : Option Uuid
  contextKey : ContextKey
  details : ExceptionDetails
  deriving DecidableEq, Repr

def financialExceptionFingerprint (input : ExceptionInput) : String :=
  sha256Json pf
    [("schema", textScalar "perpay:financial-exception:v1"),
     ("rule_version", .num reconciliationRuleVersion),
     ("provider_account_key", textScalar input.providerAccountKey),
     ("exception_type", textScalar input.exceptionType.name),
     ("ledger_entry_id", optionScalar textScalar input.ledgerEntryId),
     ("order_id", optionScalar (uuidScalar pf) input.orderId),
     ("candidate_id", optionScalar (uuidScalar pf) input.candidateId),
     ("context_key", textScalar (ContextKey.text pf input.contextKey))]

end

/-! ## Inputs and results -/

/-- `ManualSettlementInput`, its reason in the normal form that `validateManualSettlementInput` returns:
    a blank note is no note. -/
structure ManualSettlementInput where
  expectedClientId : Option String
  financialOperationId : Uuid
  orderId : Uuid
  ledgerEntryId : String
  actorId : String
  reason : Option String
  now : Int
  deriving DecidableEq, Repr

/-- `FinancialDecisionInput`. -/
structure FinancialDecisionInput where
  expectedClientId : Option String
  financialOperationId : Uuid
  paymentMatchId : Uuid
  actorId : String
  reason : String
  now : Int
  deriving DecidableEq, Repr

structure FinancialDecisionResult where
  operation : FinancialOperation
  paymentMatch : PaymentMatch
  orderId : Uuid
  ledgerEntryId : String
  orderVersion : Nat
  replayed : Bool
  deriving DecidableEq, Repr

inductive ReconcileEntryResult
  | ignored (ledgerEntryId : String)
  | allocated (ledgerEntryId : String) (paymentMatchId : Uuid)
  | unmatched (ledgerEntryId : String) (exceptionId : Uuid)
  | ambiguous (ledgerEntryId : String) (candidateIds : List Uuid) (exceptionId : Uuid)
  | auto_settled (ledgerEntryId : String) (candidateId paymentMatchId orderId : Uuid)
  deriving DecidableEq, Repr

end PerPay.Finance
