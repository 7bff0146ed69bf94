/-
  **The statements of a financial decision** — exceptions, payment matches, the accounting
  transaction, the outbox event and the answer of `reconciliation/store.ts`, with the constraints and
  triggers each of them has to pass.

  An automatic and a manual settlement write the same rows in the same order, once their operation is
  recorded; `recordSettlement` is that common part.
-/
import PerPay.Finance.Statements

namespace PerPay.Finance

open Txn Table Orders Ledger

variable (pf : FinancePlatform)

/-! ## What an unmatched credit is reported as -/

structure UnmatchedCreditClassification where
  exceptionType : FinancialExceptionType
  orderId : Option Uuid
  contextKey : ContextKey
  details : ExceptionDetails
  deriving DecidableEq, Repr

/-- `ORDER BY created_at DESC, payment_match_id DESC`. -/
def PaymentMatch.after (a b : PaymentMatch) : Bool :=
  b.createdAt < a.createdAt || (a.createdAt = b.createdAt && b.paymentMatchId ≤ a.paymentMatchId)

def latestMatchContext (db : FinanceDb) (ledgerEntryId : String) : ContextKey :=
  match ((db.paymentMatches.filter fun m => m.ledgerEntryId = ledgerEntryId).mergeSort PaymentMatch.after).head? with
  | some latest => .uuid latest.paymentMatchId
  | none => .initial

def duplicatePaymentClassification (overlap : SettledOrderOverlap) : UnmatchedCreditClassification where
  exceptionType := .DUPLICATE_PAYMENT
  orderId := overlap.orderId
  contextKey := match overlap.orderId with
    | none => .settledOrders overlap.count
    | some orderId => .order orderId
  details := .duplicatePayment overlap.count

/-- `min(expires_at, coalesce(released_at, expires_at))`. -/
def CandidateFact.endedAt (fact : CandidateFact) : Nat :=
  min fact.order.expiresAt (fact.slot.releasedAt.getD fact.order.expiresAt)

/-- `ORDER BY ended_at DESC, order_id`. -/
def CandidateFact.endedAfter (a b : CandidateFact) : Bool :=
  b.endedAt < a.endedAt || (a.endedAt = b.endedAt && a.order.orderId ≤ b.order.orderId)

/-- The orders of the exact amount whose attribution ended at most a day before the entry occurred. -/
def endedCheckouts (db : OrderDb) (entry : LedgerEntry) : List CandidateFact :=
  ((joinedSlots db).filter fun fact =>
    OrderDb.linkedTo db fact.order.collectionProfileId entry.providerAccountKey &&
    fact.order.payableAmountCents = entry.facts.amountCents &&
    fact.endedAt ≤ entry.facts.occurredAt &&
    entry.facts.occurredAt - fact.endedAt ≤ maxLatePaymentAttributionMilliseconds).mergeSort
      CandidateFact.endedAfter

/-- The unpaid orders of another amount whose attribution window the entry overlaps. -/
def possibleMismatches (db : OrderDb) (entry : LedgerEntry) : List CandidateFact :=
  ((joinedSlots db).filter fun fact =>
    OrderDb.linkedTo db fact.order.collectionProfileId entry.providerAccountKey &&
    fact.order.payableAmountCents ≠ entry.facts.amountCents && fact.order.paymentStatus = .UNPAID &&
    fact.covers entry.facts).mergeSort CandidateFact.before

def endedStatus (order : PaymentOrder) : CheckoutStatus :=
  if order.checkoutStatus = .OPEN then .EXPIRED else order.checkoutStatus

def classifyUnmatchedCredit (db : FinanceDb) (entry : LedgerEntry) (overlap : SettledOrderOverlap) :
    UnmatchedCreditClassification :=
  if 0 < overlap.count then duplicatePaymentClassification overlap
  else match (endedCheckouts db.orders entry).take 2, (possibleMismatches db.orders entry).take 2 with
    | [ended], _ =>
      { exceptionType := .CHECKOUT_ENDED_PAYMENT, orderId := some ended.order.orderId,
        contextKey := .order ended.order.orderId,
        details := .checkoutEnded (endedStatus ended.order) ended.endedAt }
    | _, [mismatch] =>
      { exceptionType := .AMOUNT_MISMATCH, orderId := some mismatch.order.orderId,
        contextKey := .order mismatch.order.orderId,
        details := .amountMismatch mismatch.order.payableAmountCents entry.facts.amountCents }
    | _, _ =>
      { exceptionType := .UNMATCHED_CREDIT, orderId := none,
        contextKey := latestMatchContext db entry.ledgerEntryId, details := .noExactAmount }

/-! ## Financial exceptions -/

/-- `financial_exceptions_valid_insert` and the foreign keys. -/
def FinanceDb.supportsException (db : FinanceDb) (e : FinancialException) : Bool :=
  (match e.ledgerEntryId with
   | none => true
   | some entryId => db.ledger.entries.any fun entry =>
      entry.ledgerEntryId = entryId && entry.providerAccountKey = e.providerAccountKey) &&
  (match e.candidateId with
   | none => true
   | some candidateId => db.candidates.any fun c =>
      c.candidateId = candidateId && some c.ledgerEntryId = e.ledgerEntryId && some c.orderId = e.orderId) &&
  (match e.orderId with
   | none => true
   | some orderId => db.orders.orders.any fun o => o.orderId = orderId)

def insertException (exception : FinancialException) : FinanceTx Unit := do
  let db ← readWith id
  require (db.supportsException exception) (.sqlite "financial exception references inconsistent facts")
  require (db.exceptions.all fun e => e.exceptionId ≠ exception.exceptionId &&
      e.exceptionFingerprint ≠ exception.exceptionFingerprint)
    (.sqlite "UNIQUE constraint failed: financial_exceptions")
  update fun db => { db with exceptions := db.exceptions ++ [exception] }

/-- `ORDER BY created_at DESC, exception_id DESC`. -/
def FinancialException.after (a b : FinancialException) : Bool :=
  b.createdAt < a.createdAt || (a.createdAt = b.createdAt && b.exceptionId ≤ a.exceptionId)

def readExceptionClassificationHistory (db : FinanceDb) (input : ExceptionInput) : List FinancialException :=
  (db.exceptions.filter fun e => e.providerAccountKey = input.providerAccountKey &&
    e.exceptionType = input.exceptionType && e.ledgerEntryId = input.ledgerEntryId &&
    e.orderId = input.orderId && e.candidateId = input.candidateId).mergeSort FinancialException.after

def newException (input : ExceptionInput) (exceptionId : Uuid) (now : Nat) : FinancialException where
  exceptionId := exceptionId
  providerAccountKey := input.providerAccountKey
  exceptionType := input.exceptionType
  ledgerEntryId := input.ledgerEntryId
  orderId := input.orderId
  candidateId := input.candidateId
  contextKey := input.contextKey
  details := input.details
  exceptionFingerprint := financialExceptionFingerprint pf input
  status := .OPEN
  resolutionOperationId := none
  resolution := none
  createdAt := now
  resolvedAt := none

/-- The rounds of `ensureException`: an open exception of the same fingerprint is the answer, a
    resolved one makes room for the next occurrence under a context key of its own. -/
def ensureExceptionRound (input : ExceptionInput) (now : Nat) : Nat → ExceptionInput →
    FinanceTx FinancialException
  | 0, _ => fail (.error "financial exception classification history is exhausted")
  | attempts + 1, candidateInput => do
    let existing ← readWith fun db => db.exceptions.find? fun e =>
      e.exceptionFingerprint = financialExceptionFingerprint pf candidateInput
    match existing with
    | none => do
      let exceptionId ← randomUUID
      insertException (newException pf candidateInput exceptionId now)
      pure (newException pf candidateInput exceptionId now)
    | some existing =>
      if existing.status = .OPEN then pure existing
      else do
        let history ← readWith (readExceptionClassificationHistory · input)
        let latest := history.head?.getD existing
        ensureExceptionRound input now attempts
          { input with contextKey := .reclassified (history.length + 1) latest.exceptionId }

def ensureException (input : ExceptionInput) (now : Nat) : FinanceTx FinancialException :=
  ensureExceptionRound pf input now 64 input

/-- The exception after its resolution. -/
def FinancialException.resolve (e : FinancialException) (operationId : Uuid) (resolution : ExceptionResolution)
    (now : Nat) : FinancialException :=
  { e with status := .RESOLVED, resolutionOperationId := some operationId, resolution := some resolution,
           resolvedAt := some now }

def FinancialOperationType.settles (type : FinancialOperationType) : Bool :=
  type = .AUTO_SETTLEMENT || type = .MANUAL_SETTLEMENT

/-- `financial_exceptions_resolution_once`, for a row the update is about to resolve. -/
def FinanceDb.mayResolve (db : FinanceDb) (e : FinancialException) (operationId : Uuid)
    (resolution : ExceptionResolution) (now : Nat) : Bool :=
  e.status = .OPEN && e.createdAt ≤ now &&
  db.operations.any fun operation =>
    operation.financialOperationId = operationId && operation.ledgerEntryId = e.ledgerEntryId &&
    (e.orderId.isNone || operation.orderId = e.orderId ||
      (operation.operationType.settles && resolution.resolution = "superseded_by_settlement" &&
        db.paymentMatches.any fun m => m.paymentMatchId = resolution.paymentMatchId &&
          some m.ledgerEntryId = operation.ledgerEntryId && some m.orderId = operation.orderId &&
          m.createdByOperationId = operation.financialOperationId)) &&
    operation.createdAt = now && operation.operationType.settles

def resolveExceptions (p : FinancialException → Bool) (operationId : Uuid) (resolution : ExceptionResolution)
    (now : Nat) : FinanceTx Unit := do
  let db ← readWith id
  require ((db.exceptions.filter p).all fun e => db.mayResolve e operationId resolution now)
    (.sqlite "financial exception resolution is invalid")
  update fun db => { db with
    exceptions := updateWhere p (fun e => e.resolve operationId resolution now) db.exceptions }

def resolveEntryExceptions (ledgerEntryId : String) (operation : FinancialOperation) (resolution : String)
    (paymentMatchId : Uuid) (now : Nat) : FinanceTx Unit := do
  resolveExceptions (fun e => e.ledgerEntryId = some ledgerEntryId && e.status = .OPEN &&
      (e.orderId.isNone || e.orderId = operation.orderId))
    operation.financialOperationId ⟨resolution, paymentMatchId⟩ now
  if operation.operationType.settles then
    resolveExceptions (fun e => e.ledgerEntryId = some ledgerEntryId && e.status = .OPEN &&
        e.orderId.isSome && operation.orderId.isSome && e.orderId ≠ operation.orderId)
      operation.financialOperationId ⟨"superseded_by_settlement", paymentMatchId⟩ now
  else pure ()

/-! ## Payment matches -/

def readPaymentMatch (db : FinanceDb) (paymentMatchId : Uuid) : Option PaymentMatch :=
  db.paymentMatches.find? fun m => m.paymentMatchId = paymentMatchId

def readPaymentMatchByCreationOperation (db : FinanceDb) (operationId : Uuid) : Option PaymentMatch :=
  db.paymentMatches.find? fun m => m.createdByOperationId = operationId

def readActiveMatchForEntry (db : FinanceDb) (ledgerEntryId : String) : Option PaymentMatch :=
  db.paymentMatches.find? fun m => m.ledgerEntryId = ledgerEntryId && m.status = .SETTLED

def readActiveMatchForOrder (db : FinanceDb) (orderId : Uuid) : Option PaymentMatch :=
  db.paymentMatches.find? fun m => m.orderId = orderId && m.status = .SETTLED

/-- The settled orders that the trigger of an automatic match looks for; it goes by the account key
    the profile was created with. -/
def settledByOriginalKey (db : OrderDb) (entry : LedgerEntry) (orderId : Uuid) : List CandidateFact :=
  (joinedSlots db).filter fun fact =>
    fact.order.collectionProfileId = fact.slot.collectionProfileId &&
    fact.order.payableAmountCents = fact.slot.payableAmountCents && fact.order.orderId ≠ orderId &&
    (db.profile fact.slot.collectionProfileId).any (fun p => p.providerAccountKey = entry.providerAccountKey) &&
    fact.slot.payableAmountCents = entry.facts.amountCents && fact.covers entry.facts &&
    (fact.order.paymentStatus = .CONFIRMED || fact.order.paymentStatus = .DISPUTED)

/-- The `AUTO_SETTLEMENT` branch of `payment_matches_valid_insert`. -/
def FinanceDb.supportsAutoMatch (db : FinanceDb) (m : PaymentMatch) (entry : LedgerEntry)
    (order : PaymentOrder) : Bool :=
  (entry.state = .UNALLOCATED || entry.state = .CANDIDATE) && entry.facts.direction = .CREDIT &&
  order.paymentStatus = .UNPAID && order.paymentBasis = .NONE && order.receivedAmountCents.isNone &&
  !db.hasOpenLedgerConflict m.ledgerEntryId &&
  (db.candidates.filter fun c => c.ledgerEntryId = m.ledgerEntryId &&
    (c.status = .ELIGIBLE || c.status = .SELECTED)).length = 1 &&
  entry.facts.amountCents = order.payableAmountCents &&
  (settledByOriginalKey db.orders entry order.orderId).isEmpty &&
  db.candidates.any fun c => some c.candidateId = m.candidateId && c.ledgerEntryId = m.ledgerEntryId &&
    c.orderId = m.orderId && c.status = .SELECTED && c.decidedByOperationId = some m.createdByOperationId &&
    m.evidence = .amountInferred c.evidence

/-- The `MANUAL_SETTLEMENT` branch. -/
def supportsManualMatch (m : PaymentMatch) (entry : LedgerEntry) : Bool :=
  (entry.state = .UNALLOCATED || entry.state = .CANDIDATE || entry.state = .CONFLICT) &&
  (match m.evidence with | .manual _ _ _ => true | .amountInferred _ => false) && m.candidateId.isNone

/-- `payment_matches_valid_insert`; the foreign keys follow from it. -/
def FinanceDb.supportsMatch (db : FinanceDb) (m : PaymentMatch) : Bool :=
  db.operations.any fun operation =>
    db.ledger.entries.any fun entry =>
      db.orders.orders.any fun order =>
        entry.ledgerEntryId = m.ledgerEntryId && order.orderId = m.orderId &&
        operation.financialOperationId = m.createdByOperationId &&
        m.resolvedByOperationId = some m.createdByOperationId && m.resolvedAt = some m.createdAt &&
        operation.orderId = some m.orderId && operation.ledgerEntryId = some m.ledgerEntryId &&
        m.status = .SETTLED &&
        ((operation.operationType = .AUTO_SETTLEMENT && db.supportsAutoMatch m entry order) ||
          (operation.operationType = .MANUAL_SETTLEMENT && supportsManualMatch m entry))

/-- The unique keys of `payment_matches`, its partial ones included. -/
def FinanceDb.matchIsNew (db : FinanceDb) (m : PaymentMatch) : Bool :=
  db.paymentMatches.all fun other =>
    other.paymentMatchId ≠ m.paymentMatchId && (m.candidateId.isNone || other.candidateId ≠ m.candidateId) &&
    other.createdByOperationId ≠ m.createdByOperationId &&
    (m.resolvedByOperationId.isNone || other.resolvedByOperationId ≠ m.resolvedByOperationId) &&
    !(other.status = .SETTLED && m.status = .SETTLED &&
      (other.ledgerEntryId = m.ledgerEntryId || other.orderId = m.orderId))

def insertPaymentMatch (m : PaymentMatch) : FinanceTx Unit := do
  let db ← readWith id
  require (db.supportsMatch m) (.sqlite "payment match is not supported by its operation and facts")
  require (db.matchIsNew m) (.sqlite "UNIQUE constraint failed: payment_matches")
  update fun db => { db with paymentMatches := db.paymentMatches ++ [m] }

/-- The match after its reversal. -/
def PaymentMatch.reverse (m : PaymentMatch) (operationId : Uuid) (now : Nat) : PaymentMatch :=
  { m with status := .REVERSED, resolvedByOperationId := some operationId, updatedAt := now,
           resolvedAt := some now }

def reversePaymentMatch (paymentMatchId : Uuid) (operation : FinancialOperation) (now : Nat) :
    FinanceTx Unit := do
  let db ← readWith id
  let row ← orFail (.error "payment match reversal changed 0 rows")
    (db.paymentMatches.find? fun m => m.paymentMatchId = paymentMatchId && m.status = .SETTLED)
  require (db.operations.any fun o => o.financialOperationId = operation.financialOperationId &&
      o.orderId = some row.orderId && o.ledgerEntryId = some row.ledgerEntryId &&
      o.operationType = .REVERSE_SETTLEMENT)
    (.sqlite "payment match resolution operation is invalid")
  require (row.updatedAt ≤ now ∧ row.createdAt ≤ now) (.sqlite "payment match updated_at cannot move backwards")
  require (db.paymentMatches.all fun m => m.resolvedByOperationId ≠ some operation.financialOperationId)
    (.sqlite "UNIQUE constraint failed: payment_matches.resolved_by_operation_id")
  update fun db => { db with
    paymentMatches := updateWhere (fun m => m.paymentMatchId = paymentMatchId && m.status = .SETTLED)
      (fun m => m.reverse operation.financialOperationId now) db.paymentMatches }

/-! ## The accounting transaction -/

/-- What `postAccountingTransaction` is given. -/
structure AccountingInput where
  operation : FinancialOperation
  orderId : Uuid
  ledgerEntryId : String
  transactionType : TransactionType
  amountCents : Nat
  debitAccount : AccountCode
  creditAccount : AccountCode
  now : Nat
  deriving DecidableEq, Repr

def AccountingInput.draft (input : AccountingInput) (transactionId : Uuid) : LedgerTransaction where
  ledgerTransactionId := transactionId
  financialOperationId := input.operation.financialOperationId
  orderId := input.orderId
  ledgerEntryId := input.ledgerEntryId
  transactionType := input.transactionType
  status := .DRAFT
  createdAt := input.now
  postedAt := none

def AccountingInput.posting (input : AccountingInput) (transactionId postingId : Uuid) (side : PostingSide) :
    LedgerPosting where
  postingId := postingId
  ledgerTransactionId := transactionId
  accountCode := match side with | .DEBIT => input.debitAccount | .CREDIT => input.creditAccount
  side := side
  amountCents := input.amountCents
  orderId := input.orderId
  ledgerEntryId := input.ledgerEntryId
  createdAt := input.now

/-- `ledger_transactions_draft_insert`: the operation is one of the kind the transaction records. -/
def TransactionType.recordedBy : TransactionType → FinancialOperationType → Bool
  | .SETTLEMENT, type => type.settles
  | .REVERSAL, type => type = .REVERSE_SETTLEMENT

def insertTransaction (row : LedgerTransaction) : FinanceTx Unit := do
  let db ← readWith id
  require (row.status = .DRAFT ∧ row.postedAt = none ∧ db.operations.any fun o =>
      o.financialOperationId = row.financialOperationId && o.orderId = some row.orderId &&
      o.ledgerEntryId = some row.ledgerEntryId && row.transactionType.recordedBy o.operationType)
    (.sqlite "ledger transaction must begin as a valid draft")
  require (db.transactions.all fun t => t.ledgerTransactionId ≠ row.ledgerTransactionId &&
      t.financialOperationId ≠ row.financialOperationId)
    (.sqlite "UNIQUE constraint failed: ledger_transactions")
  update fun db => { db with transactions := db.transactions ++ [row] }

def insertPosting (row : LedgerPosting) : FinanceTx Unit := do
  let db ← readWith id
  require (1 ≤ row.amountCents ∧ row.amountCents ≤ 999999999999) (.sqlite "CHECK constraint failed: ledger_postings")
  require (db.transactions.any fun t => t.ledgerTransactionId = row.ledgerTransactionId && t.status = .DRAFT &&
      t.orderId = row.orderId && t.ledgerEntryId = row.ledgerEntryId)
    (.sqlite "postings can only be appended to their draft transaction")
  require (db.postings.all fun p => p.postingId ≠ row.postingId &&
      !(p.ledgerTransactionId = row.ledgerTransactionId && p.accountCode = row.accountCode && p.side = row.side))
    (.sqlite "UNIQUE constraint failed: ledger_postings")
  update fun db => { db with postings := db.postings ++ [row] }

def FinanceDb.postingsOf (db : FinanceDb) (transactionId : Uuid) : List LedgerPosting :=
  db.postings.filter fun p => p.ledgerTransactionId = transactionId

/-- The amounts posted on one side. -/
def sideTotal (side : PostingSide) (postings : List LedgerPosting) : Nat :=
  ((postings.filter fun p => p.side = side).map (·.amountCents)).sum

/-- `ledger_transactions_post_balanced`: two postings, equal sides, and the amount of the entry on the
    accounts of the transaction type. -/
def FinanceDb.balanced (db : FinanceDb) (t : LedgerTransaction) : Bool :=
  let postings := db.postingsOf t.ledgerTransactionId
  let has (account : AccountCode) (side : PostingSide) (amountCents : Nat) : Bool :=
    postings.any fun p => p.accountCode = account && p.side = side && p.amountCents = amountCents
  sideTotal .DEBIT postings = sideTotal .CREDIT postings && postings.length = 2 &&
  db.ledger.entries.any fun entry => entry.ledgerEntryId = t.ledgerEntryId &&
    entry.facts.direction = .CREDIT &&
    match t.transactionType with
    | .SETTLEMENT => has .PROVIDER_CASH .DEBIT entry.facts.amountCents &&
        has .ORDER_SETTLEMENT .CREDIT entry.facts.amountCents
    | .REVERSAL => has .ORDER_SETTLEMENT .DEBIT entry.facts.amountCents &&
        has .PROVIDER_CASH .CREDIT entry.facts.amountCents

def postTransaction (transactionId : Uuid) (now : Nat) : FinanceTx Unit := do
  let db ← readWith id
  let row ← orFail (.error "ledger transaction post changed 0 rows")
    (db.transactions.find? fun t => t.ledgerTransactionId = transactionId && t.status = .DRAFT)
  require (row.createdAt ≤ now ∧ db.balanced row) (.sqlite "ledger transaction must be balanced before posting")
  update fun db => { db with
    transactions := updateWhere (fun t => t.ledgerTransactionId = transactionId && t.status = .DRAFT)
      (fun t => { t with status := .POSTED, postedAt := some now }) db.transactions }

def postAccountingTransaction (input : AccountingInput) : FinanceTx Unit := do
  let transactionId ← randomUUID
  insertTransaction (input.draft transactionId)
  let debitId ← randomUUID
  insertPosting (input.posting transactionId debitId .DEBIT)
  let creditId ← randomUUID
  insertPosting (input.posting transactionId creditId .CREDIT)
  postTransaction transactionId input.now

/-! ## The outbox event -/

/-- What the payload of an outbox event takes from the order. -/
def outboxPayload (eventId : Uuid) (operation : FinancialOperation) (order : PaymentOrder)
    (receivedAmountCents : Nat) (eventType : PaymentEventType) (eventDetails : OutboxEventDetails)
    (now : Nat) : OutboxPayload where
  eventId := eventId
  eventType := eventType
  financialOperationId := operation.financialOperationId
  orderId := order.orderId
  merchantOrderNo := order.merchantOrderNo
  productName := order.productName
  note := order.note
  requestedAmountCents := order.requestedAmountCents
  payableAmountCents := order.payableAmountCents
  receivedAmountCents := receivedAmountCents
  paymentStatus := order.paymentStatus
  paymentBasis := order.paymentBasis
  eventDetails := eventDetails
  orderVersion := order.version
  occurredAt := now

/-- `outbox_events_valid_insert`. -/
def FinanceDb.supportsOutboxEvent (db : FinanceDb) (event : OutboxEvent) : Bool :=
  db.orders.orders.any fun order =>
    order.orderId = event.aggregateId && order.version = event.aggregateVersion &&
    order.updatedAt = event.createdAt &&
    db.operations.any fun operation =>
      operation.financialOperationId = event.financialOperationId &&
      operation.orderId = some event.aggregateId &&
      match event.eventType with
      | .PAYMENT_CONFIRMED => order.paymentStatus = .CONFIRMED && operation.operationType.settles
      | .PAYMENT_DISPUTED => order.paymentStatus = .DISPUTED && operation.operationType = .REVERSE_SETTLEMENT

/-- `order` is the row the decision read, with the columns the decision changed. -/
def insertOutboxEvent (operation : FinancialOperation) (order : PaymentOrder) (eventType : PaymentEventType)
    (eventDetails : OutboxEventDetails) (now : Nat) : FinanceTx Unit := do
  let outboxEventId ← randomUUID
  let receivedAmountCents ← orFail (.error "received amount is missing") order.receivedAmountCents
  let event : OutboxEvent :=
    { outboxEventId, financialOperationId := operation.financialOperationId, aggregateId := order.orderId,
      aggregateVersion := order.version, eventType,
      payload := outboxPayload outboxEventId operation order receivedAmountCents eventType eventDetails now,
      createdAt := now }
  let db ← readWith id
  require (db.supportsOutboxEvent event) (.sqlite "outbox event must match the committed order operation")
  require (db.outbox.all fun e => e.outboxEventId ≠ event.outboxEventId &&
      e.financialOperationId ≠ event.financialOperationId &&
      !(e.aggregateId = event.aggregateId && e.aggregateVersion = event.aggregateVersion &&
        e.eventType = event.eventType))
    (.sqlite "UNIQUE constraint failed: outbox_events")
  update fun db => { db with outbox := db.outbox ++ [event] }

/-! ## What both settlements write -/

/-- A settlement whose operation is recorded: what it settles, and on which evidence. -/
structure SettlementFacts where
  operation : FinancialOperation
  entry : LedgerEntry
  order : PaymentOrder
  paymentMatchId : Uuid
  candidateId : Option Uuid
  evidence : MatchEvidence
  basis : PaymentBasis
  resolution : String
  now : Nat
  deriving DecidableEq, Repr

def MatchEvidence.typeName : MatchEvidence → String
  | .amountInferred _ => "AMOUNT_INFERRED"
  | .manual _ _ _ => "MANUAL"

def SettlementFacts.accounting (s : SettlementFacts) : AccountingInput where
  operation := s.operation
  orderId := s.order.orderId
  ledgerEntryId := s.entry.ledgerEntryId
  transactionType := .SETTLEMENT
  amountCents := s.entry.facts.amountCents
  debitAccount := .PROVIDER_CASH
  creditAccount := .ORDER_SETTLEMENT
  now := s.now

def SettlementFacts.paymentMatch (s : SettlementFacts) : PaymentMatch where
  paymentMatchId := s.paymentMatchId
  ledgerEntryId := s.entry.ledgerEntryId
  orderId := s.order.orderId
  candidateId := s.candidateId
  evidence := s.evidence
  status := .SETTLED
  createdByOperationId := s.operation.financialOperationId
  resolvedByOperationId := some s.operation.financialOperationId
  createdAt := s.now
  updatedAt := s.now
  resolvedAt := some s.now

/-- The order row as the settlement leaves it, which is also what the outbox event is built from. -/
def SettlementFacts.settled (s : SettlementFacts) : PaymentOrder :=
  paid s.order .CONFIRMED s.basis (some s.entry.facts.amountCents) s.now

def SettlementFacts.event (s : SettlementFacts) : OrderEvent :=
  ⟨s.order.orderId, s.order.version + 1, .PAYMENT_CONFIRMED, s.now,
    .payment s.operation.financialOperationId s.paymentMatchId s.candidateId (some s.evidence.typeName)⟩

/-- From the accounting transaction to the resolved exceptions. -/
def recordSettlement (s : SettlementFacts) : FinanceTx Unit := do
  postAccountingTransaction s.accounting
  insertPaymentMatch s.paymentMatch
  onLedger (setLedgerState s.entry .ALLOCATED s.now)
  let _ ← onOrders (updateOrderPayment s.order .CONFIRMED s.basis (some s.entry.facts.amountCents) s.now)
  onOrders (insertOrderEvent s.event)
  insertOutboxEvent s.operation s.settled .PAYMENT_CONFIRMED
    ⟨s.paymentMatchId, s.candidateId, some s.evidence.typeName⟩ s.now
  resolveEntryExceptions s.entry.ledgerEntryId s.operation s.resolution s.paymentMatchId s.now

/-! ## The answer of a decision -/

def decisionEventType : FinancialOperationType → FinanceTx OrderEventType
  | .MANUAL_SETTLEMENT => pure .PAYMENT_CONFIRMED
  | .REVERSE_SETTLEMENT => pure .PAYMENT_DISPUTED
  | _ => fail (.reconciliationError "match_state_conflict" "financial operation has no decision event")

/-- `json_extract(details_json, '$.financial_operation_id')`. -/
def eventOperationId (event : OrderEvent) : Option Uuid :=
  match event.details with
  | .payment operationId _ _ _ => some operationId
  | _ => none

def decisionEvents (db : FinanceDb) (operationId orderId : Uuid) (type : OrderEventType) : List OrderEvent :=
  db.orders.events.filter fun e =>
    e.orderId = orderId && e.type = type && eventOperationId e = some operationId

/-- The only row of a query. -/
def theOnly {α : Type} (fault : Fault) : List α → FinanceTx α
  | [a] => pure a
  | _ => fail fault

def decisionOrderVersion (operation : FinancialOperation) (orderId : Uuid) : FinanceTx Nat := do
  let type ← decisionEventType operation.operationType
  let rows ← readWith (decisionEvents · operation.financialOperationId orderId type)
  let event ← theOnly (.reconciliationError "match_state_conflict" "financial operation result is incomplete") rows
  require (event.occurredAt = operation.createdAt)
    (.reconciliationError "match_state_conflict" "financial operation event time is inconsistent")
  pure event.sequence

def replayedPaymentMatch (m : PaymentMatch) (operation : FinancialOperation) : PaymentMatch :=
  { m with
    status := if operation.operationType = .REVERSE_SETTLEMENT then .REVERSED else .SETTLED
    resolvedByOperationId := some operation.financialOperationId
    updatedAt := operation.createdAt
    resolvedAt := some operation.createdAt }

def decisionResult (operation : FinancialOperation) (paymentMatchId : Uuid) (replayed : Bool) :
    FinanceTx FinancialDecisionResult := do
  let found ← readWith (readPaymentMatch · paymentMatchId)
  let m ← orFail (.reconciliationError "match_not_found" "payment match does not exist") found
  let orderVersion ← decisionOrderVersion operation m.orderId
  pure { operation, paymentMatch := if replayed then replayedPaymentMatch m operation else m,
         orderId := m.orderId, ledgerEntryId := m.ledgerEntryId, orderVersion, replayed }

/-- A used operation id is a replay of the same request, or an error. -/
def readDecisionReplay (operationId : Uuid) (input : FinancialOperationFingerprintInput) :
    FinanceTx (Option FinancialOperation) := do
  let existing ← readWith (readOperation · operationId)
  match existing with
  | none => pure none
  | some existing => do
    require (existing.operationKey = .admin operationId ∧
        existing.requestFingerprint = financialOperationFingerprint pf input ∧
        existing.operationType = input.operationType)
      (.reconciliationError "operation_conflict" "financial operation ID was reused with different input")
    pure (some existing)

/-! ## The scope of an administrator of one site -/

/-- `clientId` is JavaScript-truthy. -/
def scopedTo (clientId : Option String) : Option String := clientId.filter (· ≠ "")

def inSite (db : OrderDb) (clientId : String) (orderId : Uuid) : Bool :=
  db.orders.any fun o => o.orderId = orderId && o.apiClientId = clientId &&
    db.configuration.sites.any fun s => s.clientId = o.apiClientId && !s.deleted

def assertSiteOrder (clientId : Option String) (orderId : Uuid) : FinanceTx Unit := do
  let db ← readWith id
  require (∀ client ∈ scopedTo clientId, inSite db.orders client orderId)
    (.adminOperationError 404 "order_not_found")

/-- The orders that matches, candidates and exceptions of the entry name. -/
def FinanceDb.evidenceOrders (db : FinanceDb) (ledgerEntryId : String) : List Uuid :=
  (db.paymentMatches.filter fun m => m.ledgerEntryId = ledgerEntryId).map (·.orderId) ++
  (db.candidates.filter fun c => c.ledgerEntryId = ledgerEntryId).map (·.orderId) ++
  (db.exceptions.filter fun e => e.ledgerEntryId = some ledgerEntryId).filterMap (·.orderId)

def assertSiteLedger (clientId : Option String) (ledgerEntryId : String) : FinanceTx Unit := do
  let db ← readWith id
  require (∀ client ∈ scopedTo clientId, db.hasOpenLedgerConflict ledgerEntryId = false ∧
      ∀ orderId ∈ db.evidenceOrders ledgerEntryId, ∀ o ∈ db.orders.orders,
        o.orderId = orderId → o.apiClientId = client)
    (.adminOperationError 409 "site_scope_conflict")

end PerPay.Finance
