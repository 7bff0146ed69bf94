/-
  **The reconciliation store** — the deciding operations of `reconciliation/store.ts`, and the
  system they form with the order store and the ledger below them.

  Every decision is one transaction.  `reconcileOrder` is not: it reads the entries that may concern
  the order, and reconciles each in a transaction of its own.
-/
import PerPay.Finance.Settlement
import PerPay.Orders.Slots

namespace PerPay.Finance

open Txn Table Orders Ledger

variable (pf : FinancePlatform)

/-! ## Reconciling an entry -/

/-- The entry was read from a sandbox application. -/
def FinanceDb.isSandbox (db : FinanceDb) (entry : LedgerEntry) : Bool :=
  db.ledger.configuration.bindings.any fun b =>
    b.providerAccountKey = entry.providerAccountKey && b.endpoint = sandboxProviderEndpoint

/-- The candidates that are current: one for each order the entry can be attributed to, unless the
    candidate was decided before; `none` is an order without a candidate. -/
def currentCandidates (db : FinanceDb) (entry : LedgerEntry) : List (Option MatchCandidate) :=
  ((readCandidateFacts db.orders entry).map fun fact =>
    readCandidateByTuple db entry.ledgerEntryId fact.order.orderId fact.slot.slotId).filter fun c =>
      match c with
      | none => true
      | some candidate => candidate.status = .ELIGIBLE

/-- The operation key of the candidate is in use: its settlement is the answer, or the state is
    inconsistent. -/
def repeatAutoSettlement (entry : LedgerEntry) (candidate : MatchCandidate) (existing : FinancialOperation) :
    FinanceTx ReconcileEntryResult := do
  require (existing.operationType = .AUTO_SETTLEMENT ∧ existing.orderId = some candidate.orderId ∧
      existing.ledgerEntryId = some entry.ledgerEntryId)
    (.reconciliationError "operation_conflict" "automatic settlement operation key is already used")
  let found ← readWith (readPaymentMatchByCreationOperation · existing.financialOperationId)
  let m ← orFail (.reconciliationError "match_state_conflict" "automatic settlement operation result is incomplete")
    found
  require (m.status = .SETTLED ∧ m.candidateId = some candidate.candidateId)
    (.reconciliationError "match_state_conflict" "automatic settlement operation result is incomplete")
  pure (.auto_settled entry.ledgerEntryId candidate.candidateId m.paymentMatchId candidate.orderId)

def autoOperation (entry : LedgerEntry) (candidate : MatchCandidate) (paymentMatchId operationId : Uuid)
    (now : Nat) : OperationInsert where
  financialOperationId := operationId
  operationKey := .autoSettlement candidate.candidateFingerprint
  fingerprintInput :=
    { operationType := .AUTO_SETTLEMENT, actorType := .SYSTEM, actorId := none,
      orderId := some candidate.orderId, ledgerEntryId := some entry.ledgerEntryId,
      candidateId := some candidate.candidateId, paymentMatchId := some paymentMatchId,
      reversesOperationId := none, reason := none }
  orderId := some candidate.orderId
  ledgerEntryId := some entry.ledgerEntryId
  reversesOperationId := none
  reason := none
  now := now

def autoSettlement (entry : LedgerEntry) (candidate : MatchCandidate) (order : PaymentOrder)
    (operation : FinancialOperation) (paymentMatchId : Uuid) (now : Nat) : SettlementFacts where
  operation := operation
  entry := entry
  order := order
  paymentMatchId := paymentMatchId
  candidateId := some candidate.candidateId
  evidence := .amountInferred candidate.evidence
  basis := .INFERRED
  resolution := "auto_settled"
  now := now

def settleCandidate (entry : LedgerEntry) (candidate : MatchCandidate) (order : PaymentOrder) (now : Nat) :
    FinanceTx ReconcileEntryResult := do
  let paymentMatchId ← randomUUID
  let operationId ← randomUUID
  let operation ← insertFinancialOperation pf (autoOperation entry candidate paymentMatchId operationId now)
  decideCandidate candidate.candidateId .SELECTED operation now "automatic candidate selection"
  recordSettlement (autoSettlement entry candidate order operation paymentMatchId now)
  pure (.auto_settled entry.ledgerEntryId candidate.candidateId paymentMatchId candidate.orderId)

def autoSettleCandidate (entry : LedgerEntry) (candidate : MatchCandidate) (now : Nat) :
    FinanceTx ReconcileEntryResult := do
  let conflicted ← readWith (·.hasOpenLedgerConflict entry.ledgerEntryId)
  require (conflicted = false)
    (.reconciliationError "match_state_conflict" "ledger entry has unresolved provider evidence conflicts")
  let current ← readWith (currentCandidates · entry)
  require (current.length = 1 ∧ current.head?.join.map (·.candidateId) = some candidate.candidateId)
    (.reconciliationError "candidate_set_changed" "candidate set is no longer unique")
  let order ← onOrders (requireOrderDecision candidate.orderId)
  let db ← readWith id
  require (order.paymentStatus = .UNPAID ∧ order.paymentBasis = .NONE ∧ order.receivedAmountCents = none ∧
      readActiveMatchForEntry db entry.ledgerEntryId = none ∧ readActiveMatchForOrder db order.orderId = none)
    (.reconciliationError "match_state_conflict" "automatic settlement facts have changed")
  match readOperationByKey db (.autoSettlement candidate.candidateFingerprint) with
  | some existing => repeatAutoSettlement entry candidate existing
  | none => settleCandidate pf entry candidate order now

/-- The entry stays, or goes back to being, unallocated, and the exception says why. -/
def reportUnmatched (entry : LedgerEntry) (now : Nat)
    (classify : FinanceDb → UnmatchedCreditClassification) : FinanceTx ReconcileEntryResult := do
  onLedger (setLedgerState entry .UNALLOCATED now)
  let classification ← readWith classify
  let exception ← ensureException pf
    { providerAccountKey := entry.providerAccountKey, exceptionType := classification.exceptionType,
      ledgerEntryId := some entry.ledgerEntryId, orderId := classification.orderId, candidateId := none,
      contextKey := classification.contextKey, details := classification.details } now
  pure (.unmatched entry.ledgerEntryId exception.exceptionId)

def reportAmbiguous (entry : LedgerEntry) (now : Nat) (candidates : List MatchCandidate) :
    FinanceTx ReconcileEntryResult := do
  onLedger (setLedgerState entry .CANDIDATE now)
  let exception ← ensureException pf
    { providerAccountKey := entry.providerAccountKey, exceptionType := .AMBIGUOUS_MATCH,
      ledgerEntryId := some entry.ledgerEntryId, orderId := none, candidateId := none, contextKey := .rule,
      details := .candidateCount candidates.length } now
  pure (.ambiguous entry.ledgerEntryId (candidates.map (·.candidateId)) exception.exceptionId)

def decideEntry (entry : LedgerEntry) (now : Nat) (overlap : SettledOrderOverlap) :
    List MatchCandidate → FinanceTx ReconcileEntryResult
  | [] => reportUnmatched pf entry now (classifyUnmatchedCredit · entry overlap)
  | [candidate] =>
    if 0 < overlap.count then reportUnmatched pf entry now fun _ => duplicatePaymentClassification overlap
    else autoSettleCandidate pf entry candidate now
  | candidates => reportAmbiguous pf entry now candidates

def reconcileCredit (entry : LedgerEntry) (now : Nat) : FinanceTx ReconcileEntryResult := do
  let db ← readWith id
  let ensured ← collect (ensureCandidate pf entry now) (readCandidateFacts db.orders entry)
  let candidates := ensured.filter fun c => c.status = .ELIGIBLE
  supersedeStaleEligibleCandidates pf entry (candidates.map (·.candidateId)) now
  decideEntry pf entry now (readSettledOrderOverlap db.orders entry) candidates

/-- Entries that an operator or the ledger has taken out of automatic matching, and outgoing funds. -/
def FinanceDb.setAside (db : FinanceDb) (entry : LedgerEntry) : Bool :=
  entry.state = .CONFLICT || entry.state = .ISOLATED || entry.state = .IGNORED ||
  db.hasOpenLedgerConflict entry.ledgerEntryId || entry.facts.direction = .DEBIT

def reconcileFound (entry : LedgerEntry) (now : Nat) : FinanceTx ReconcileEntryResult := do
  let db ← readWith id
  if db.setAside entry then pure (.ignored entry.ledgerEntryId)
  else match readActiveMatchForEntry db entry.ledgerEntryId with
    | some active => pure (.allocated entry.ledgerEntryId active.paymentMatchId)
    | none => do
      require (entry.state ≠ .ALLOCATED)
        (.reconciliationError "match_state_conflict" "allocated ledger entry has no active match")
      reconcileCredit pf entry now

/-- Historical identity belongs to the immutable source binding: a sandbox entry is ignored before
    the clock is read. -/
def reconcileEntry (ledgerEntryId : String) (now : Int) : FinanceTx ReconcileEntryResult := do
  let db ← readWith id
  if (db.entry ledgerEntryId).any db.isSandbox then pure (.ignored ledgerEntryId)
  else do
    let now ← onOrders (financialNow now)
    match db.entry ledgerEntryId with
    | none => pure (.ignored ledgerEntryId)
    | some entry => reconcileFound pf entry now

/-! ## Reconciling an order -/

/-- `ORDER BY occurred_at, ledger_entry_id`. -/
def entryBefore (a b : LedgerEntry) : Bool :=
  a.facts.occurredAt < b.facts.occurredAt ||
    (a.facts.occurredAt = b.facts.occurredAt && a.ledgerEntryId ≤ b.ledgerEntryId)

/-- The pending credits that overlap the attribution window of the order. -/
def entriesForOrder (db : FinanceDb) (orderId : Uuid) : List LedgerEntry :=
  ((joinedSlots db.orders).filter fun fact => fact.order.orderId = orderId).flatMap (fun fact =>
    db.ledger.entries.filter fun entry =>
      OrderDb.linkedTo db.orders fact.order.collectionProfileId entry.providerAccountKey &&
      entry.facts.direction = .CREDIT && entry.facts.amountCents = fact.order.payableAmountCents &&
      fact.covers entry.facts && (entry.state = .UNALLOCATED || entry.state = .CANDIDATE) &&
      !db.isSandbox entry && !db.hasOpenLedgerConflict entry.ledgerEntryId) |>.mergeSort entryBefore

/-- Each entry in a transaction of its own; the first that fails ends the call. -/
def reconcileEach (now : Int) : List String → FinanceDb → FinanceDb
  | [], db => db
  | ledgerEntryId :: rest, db =>
    match reconcileEntry pf ledgerEntryId now db with
    | .ok (_, db') => reconcileEach now rest db'
    | .error _ => db

def reconcileOrder (orderId : Uuid) (limit : Nat) (now : Int) (db : FinanceDb) : FinanceDb :=
  if 1 ≤ limit ∧ limit ≤ maxReconciliationBatchSize then
    reconcileEach pf now (((entriesForOrder db orderId).map (·.ledgerEntryId)).take limit) db
  else db

/-! ## Decisions of an administrator -/

def manualOperation (input : ManualSettlementInput) (paymentMatchId : Uuid) :
    FinancialOperationFingerprintInput where
  operationType := .MANUAL_SETTLEMENT
  actorType := .ADMIN
  actorId := some input.actorId
  orderId := some input.orderId
  ledgerEntryId := some input.ledgerEntryId
  candidateId := none
  paymentMatchId := some paymentMatchId
  reversesOperationId := none
  reason := input.reason

/-- The match that a repeated manual settlement made, or the identifier of the one to make. -/
def settlementMatchId (db : FinanceDb) (operationId : Uuid) : FinanceTx Uuid :=
  match (readOperation db operationId).filter (·.operationType = .MANUAL_SETTLEMENT) with
  | some operation =>
    match readPaymentMatchByCreationOperation db operation.financialOperationId with
    | some m => pure m.paymentMatchId
    | none => randomUUID
  | none => randomUUID

/-- The facts a manual settlement needs. -/
def FinanceDb.manuallySettles (db : FinanceDb) (entry : LedgerEntry) (order : PaymentOrder) : Bool :=
  entry.facts.direction = .CREDIT &&
  (entry.state = .UNALLOCATED || entry.state = .CANDIDATE || entry.state = .CONFLICT) &&
  order.paymentStatus = .UNPAID && order.paymentBasis = .NONE &&
  (readActiveMatchForEntry db entry.ledgerEntryId).isNone &&
  orderUsesProviderAccount db.orders order.orderId entry.providerAccountKey

def manualSettlement (input : ManualSettlementInput) (entry : LedgerEntry) (order : PaymentOrder)
    (operation : FinancialOperation) (paymentMatchId : Uuid) (now : Nat) : SettlementFacts where
  operation := operation
  entry := entry
  order := order
  paymentMatchId := paymentMatchId
  candidateId := none
  evidence := .manual operation.financialOperationId input.actorId input.reason
  basis := .MANUAL
  resolution := "manually_settled"
  now := now

/-- The writes of a manual settlement whose facts are eligible. -/
def recordManualSettlement (input : ManualSettlementInput) (entry : LedgerEntry) (order : PaymentOrder)
    (paymentMatchId : Uuid) (now : Nat) : FinanceTx FinancialDecisionResult := do
  supersedeStaleEligibleCandidates pf entry [] now
  let operation ← insertFinancialOperation pf
    { financialOperationId := input.financialOperationId, operationKey := .admin input.financialOperationId,
      fingerprintInput := manualOperation input paymentMatchId, orderId := some order.orderId,
      ledgerEntryId := some entry.ledgerEntryId, reversesOperationId := none, reason := input.reason, now }
  recordSettlement (manualSettlement input entry order operation paymentMatchId now)
  decisionResult operation paymentMatchId false

def settleNewly (input : ManualSettlementInput) (paymentMatchId : Uuid) (now : Nat) :
    FinanceTx FinancialDecisionResult := do
  assertSiteLedger input.expectedClientId input.ledgerEntryId
  let entry ← requireLedgerEntry input.ledgerEntryId
  let order ← onOrders (requireOrderDecision input.orderId)
  let db ← readWith id
  require (db.manuallySettles entry order)
    (.reconciliationError "match_state_conflict" "manual settlement facts are not eligible")
  recordManualSettlement pf input entry order paymentMatchId now

/-- The result of an earlier call with the same operation id, or the decision itself. -/
def replayOr (paymentMatchId : Uuid) (decide : FinanceTx FinancialDecisionResult) :
    Option FinancialOperation → FinanceTx FinancialDecisionResult
  | some operation => decisionResult operation paymentMatchId true
  | none => decide

def settleManually (input : ManualSettlementInput) : FinanceTx FinancialDecisionResult := do
  assertSiteOrder input.expectedClientId input.orderId
  let now ← onOrders (financialNow input.now)
  let db ← readWith id
  let paymentMatchId ← settlementMatchId db input.financialOperationId
  let replay ← readDecisionReplay pf input.financialOperationId (manualOperation input paymentMatchId)
  replayOr paymentMatchId (settleNewly pf input paymentMatchId now) replay

def reversalOperation (input : FinancialDecisionInput) (m : PaymentMatch) (reversesOperationId : Option Uuid) :
    FinancialOperationFingerprintInput where
  operationType := .REVERSE_SETTLEMENT
  actorType := .ADMIN
  actorId := some input.actorId
  orderId := some m.orderId
  ledgerEntryId := some m.ledgerEntryId
  candidateId := m.candidateId
  paymentMatchId := some m.paymentMatchId
  reversesOperationId := reversesOperationId
  reason := some input.reason

/-- The operation a repeated reversal reversed, or the one to reverse. -/
def reversedOperationId (db : FinanceDb) (operationId : Uuid) (m : PaymentMatch) : Option Uuid :=
  match (readOperation db operationId).filter (·.operationType = .REVERSE_SETTLEMENT) with
  | some operation => operation.reversesOperationId
  | none => m.resolvedByOperationId

def reversalAccounting (m : PaymentMatch) (operation : FinancialOperation) (receivedAmountCents now : Nat) :
    AccountingInput where
  operation := operation
  orderId := m.orderId
  ledgerEntryId := m.ledgerEntryId
  transactionType := .REVERSAL
  amountCents := receivedAmountCents
  debitAccount := .ORDER_SETTLEMENT
  creditAccount := .PROVIDER_CASH
  now := now

/-- The order row as the reversal leaves it. -/
def disputed (order : PaymentOrder) (now : Nat) : PaymentOrder :=
  paid order .DISPUTED order.paymentBasis order.receivedAmountCents now

/-- The writes of a reversal whose facts are eligible. -/
def recordReversal (input : FinancialDecisionInput) (m : PaymentMatch) (entry : LedgerEntry)
    (order : PaymentOrder) (now : Nat) : FinanceTx FinancialDecisionResult := do
  let operation ← insertFinancialOperation pf
    { financialOperationId := input.financialOperationId, operationKey := .admin input.financialOperationId,
      fingerprintInput := reversalOperation input m m.resolvedByOperationId, orderId := some m.orderId,
      ledgerEntryId := some m.ledgerEntryId, reversesOperationId := m.resolvedByOperationId,
      reason := some input.reason, now }
  let receivedAmountCents ← orFail (.error "received amount is missing") order.receivedAmountCents
  postAccountingTransaction (reversalAccounting m operation receivedAmountCents now)
  reversePaymentMatch m.paymentMatchId operation now
  onLedger (setLedgerState entry .CONFLICT now)
  let _ ← onOrders (updateOrderPayment order .DISPUTED order.paymentBasis (some receivedAmountCents) now)
  onOrders (insertOrderEvent ⟨order.orderId, order.version + 1, .PAYMENT_DISPUTED, now,
    .payment operation.financialOperationId m.paymentMatchId none none⟩)
  insertOutboxEvent operation (disputed order now) .PAYMENT_DISPUTED ⟨m.paymentMatchId, none, none⟩ now
  let _ ← ensureException pf
    { providerAccountKey := entry.providerAccountKey, exceptionType := .RECONCILIATION_CONFLICT,
      ledgerEntryId := some entry.ledgerEntryId, orderId := some order.orderId, candidateId := m.candidateId,
      contextKey := .uuid operation.financialOperationId, details := .settlementReversed m.paymentMatchId } now
  decisionResult operation m.paymentMatchId false

def reverseNewly (input : FinancialDecisionInput) (m : PaymentMatch) (now : Nat) :
    FinanceTx FinancialDecisionResult := do
  require (m.status = .SETTLED ∧ m.resolvedByOperationId ≠ none)
    (.reconciliationError "match_state_conflict" "only a settled match can be reversed")
  let entry ← requireLedgerEntry m.ledgerEntryId
  assertSiteLedger input.expectedClientId m.ledgerEntryId
  let order ← onOrders (requireOrderDecision m.orderId)
  require (entry.state = .ALLOCATED ∧ order.paymentStatus = .CONFIRMED)
    (.reconciliationError "match_state_conflict" "settlement facts have changed")
  recordReversal pf input m entry order now

def reverseSettlement (input : FinancialDecisionInput) : FinanceTx FinancialDecisionResult := do
  let now ← onOrders (financialNow input.now)
  let found ← readWith (readPaymentMatch · input.paymentMatchId)
  let m ← orFail (.reconciliationError "match_not_found" "payment match does not exist") found
  assertSiteOrder input.expectedClientId m.orderId
  let db ← readWith id
  let replay ← readDecisionReplay pf input.financialOperationId
    (reversalOperation input m (reversedOperationId db input.financialOperationId m))
  replayOr m.paymentMatchId (reverseNewly pf input m now) replay

/-! ## The system -/

/-- A call into the ledger store; the state of an entry is not its to write. -/
def IngestOp : Type := { op : LedgerOp // ∀ id state now, op ≠ .setEntryState id state now }

/-- One call into the stores. -/
inductive FinanceOp
  | order (op : OrderOp)
  | ledger (op : IngestOp)
  | reconcileEntry (ledgerEntryId : String) (now : Int)
  | reconcileOrder (orderId : Uuid) (limit : Nat) (now : Int)
  | settleManually (input : ManualSettlementInput)
  | reverseSettlement (input : FinancialDecisionInput)

/-- What a call leaves behind, committed or rolled back. -/
def FinanceOp.run : FinanceOp → FinanceDb → FinanceDb
  | .order op => committed (onOrders (op.run pf.orders))
  | .ledger op => committed (onLedger (op.val.run pf.ledger))
  | .reconcileEntry ledgerEntryId now => committed (Finance.reconcileEntry pf ledgerEntryId now)
  | .reconcileOrder orderId limit now => Finance.reconcileOrder pf orderId limit now
  | .settleManually input => committed (Finance.settleManually pf input)
  | .reverseSettlement input => committed (Finance.reverseSettlement pf input)

/-- The identifiers that `randomUUID` will return next, to reconciliation and to the ledger. -/
structure Entropy where
  uuids : Nat → Uuid
  texts : Nat → String

/-- The stores, with the identifiers the next call will draw. -/
def FinanceDb.supplied (db : FinanceDb) (entropy : Entropy) : FinanceDb :=
  { db with ledger := db.ledger.supplied entropy.texts, entropy := entropy.uuids, drawn := 0 }

/-- The three stores as one system: any call, with any identifiers. -/
def financeStore : Runs.System FinanceDb (FinanceOp × Entropy) where
  init := FinanceDb.Empty
  step db l db' := db' = l.1.run pf (db.supplied l.2)

theorem reachable_call {pf : FinancePlatform} {db : FinanceDb} (h : Runs.Reachable (financeStore pf) db)
    (op : FinanceOp) (entropy : Entropy) : Runs.Reachable (financeStore pf) (op.run pf (db.supplied entropy)) :=
  h.elim fun _ hr => ⟨_, hr.next (l := (op, entropy)) rfl⟩

/-! ## A sample settlement

An order of one yuan is paid five seconds after ten, and settled; the settlement is reversed, and the
payment is settled to another order. -/

/-- A platform whose hashes are their inputs. -/
def sampleFinance : FinancePlatform where
  orders := { Orders.samplePlatform with uuidText := fun id => String.ofList (Json.natText id) }
  ledger := Ledger.samplePlatform

/-- A store with one collection profile, and nothing else. -/
def sampleBlank : FinanceDb where
  orders := { sampleStore with
    configuration := ⟨[{ sampleProfile with linkedProviderAccountKey := some "primary" }], some 7, [], [], []⟩ }
  ledger := Ledger.sampleEmpty
  candidates := []
  paymentMatches := []
  operations := []
  exceptions := []
  transactions := []
  postings := []
  outbox := []
  entropy := fun _ => 0
  drawn := 0

/-- The identifiers of the call number `k`. -/
def sampleEntropy (k : Nat) : Entropy := ⟨fun n => 1000 * k + n, sampleUuids k⟩

/-- The store after the call number `k`. -/
def sampleCall (k : Nat) (op : FinanceOp) (db : FinanceDb) : FinanceDb :=
  op.run sampleFinance (db.supplied (sampleEntropy k))

def sampleIngest (op : LedgerOp) (h : ∀ id state now, op ≠ .setEntryState id state now) : FinanceOp := .ledger ⟨op, h⟩

def sampleOrder (key : String) (orderId : Uuid) (now : Nat) : FinanceOp :=
  .order (.createOrder { sampleInput key none with amountOffsetMaximumCents := 2 }
    ⟨orderId, orderId + 1, orderId + 2, orderId + 3, "m"⟩ none (reading now))

def samplePaid : RecordSegmentPageInput :=
  samplePage "101" "body" 1 false
    [⟨some "\x7b\x7d", some "e1", some "2026-07-20 10:00:05", some "1.01", some "in", none, none, none, none⟩]

theorem recordSegmentPage_ne (page : RecordSegmentPageInput) :
    ∀ id state now, LedgerOp.recordSegmentPage page ≠ .setEntryState id state now := by
  intro id state now h
  cases h

theorem startIngestRun_ne (start : StartIngestRunInput) :
    ∀ id state now, LedgerOp.startIngestRun start ≠ .setEntryState id state now := by
  intro id state now h
  cases h

theorem configure_ne (configuration : ProviderConfiguration) :
    ∀ id state now, LedgerOp.configure configuration ≠ .setEntryState id state now := by
  intro id state now h
  cases h

/-- The order is open, and the ledger has read a page. -/
def sampleIngested (page : RecordSegmentPageInput) : FinanceDb :=
  sampleCall 3 (sampleIngest (.recordSegmentPage page) (recordSegmentPage_ne page))
    (sampleCall 1 (sampleIngest (.startIngestRun sampleStart) (startIngestRun_ne sampleStart))
      (sampleCall 2 (sampleIngest (.configure sampleConfiguration) (configure_ne sampleConfiguration))
        (sampleCall 0 (sampleOrder "a" 11 1784512740000) sampleBlank)))

/-- The ledger shows the payment of the order. -/
def sampleArrived : FinanceDb := sampleIngested samplePaid

def sampleSettled : FinanceDb := sampleCall 4 (.reconcileEntry "302" 1784512820000) sampleArrived

def sampleReversal : FinancialDecisionInput := ⟨none, 77, 4001, "admin", "wrong", 1784512830000⟩

def sampleReversed : FinanceDb := sampleCall 5 (.reverseSettlement sampleReversal) sampleSettled

def sampleManual : ManualSettlementInput := ⟨none, 78, 71, "302", "admin", some "right", 1784512840000⟩

def sampleResettled : FinanceDb :=
  sampleCall 7 (.settleManually sampleManual) (sampleCall 6 (sampleOrder "b" 71 1784512835000) sampleReversed)

theorem sampleCall_reachable {db : FinanceDb} (h : Runs.Reachable (financeStore sampleFinance) db) (k : Nat)
    (op : FinanceOp) : Runs.Reachable (financeStore sampleFinance) (sampleCall k op db) :=
  reachable_call h op _

theorem sampleCall_path {start db : FinanceDb} {ls : List (FinanceOp × Entropy)}
    (h : Runs.Path (financeStore sampleFinance) start ls db) (k : Nat) (op : FinanceOp) :
    Runs.Path (financeStore sampleFinance) start (ls ++ [(op, sampleEntropy k)]) (sampleCall k op db) :=
  h.next rfl

theorem sampleIngested_reachable (page : RecordSegmentPageInput) :
    Runs.Reachable (financeStore sampleFinance) (sampleIngested page) := by
  have h0 : Runs.Reachable (financeStore sampleFinance) sampleBlank :=
    ⟨[], .start ⟨⟨rfl, rfl, rfl, rfl, rfl, rfl⟩, ⟨rfl, rfl, rfl, rfl, rfl, rfl, rfl, rfl, rfl, rfl, rfl, rfl⟩,
      rfl, rfl, rfl, rfl, rfl, rfl, rfl⟩⟩
  exact sampleCall_reachable (sampleCall_reachable (sampleCall_reachable (sampleCall_reachable h0 _ _) _ _) _ _) _ _

theorem sampleArrived_reachable : Runs.Reachable (financeStore sampleFinance) sampleArrived :=
  sampleIngested_reachable samplePaid

theorem sampleSettled_reachable : Runs.Reachable (financeStore sampleFinance) sampleSettled :=
  sampleCall_reachable sampleArrived_reachable _ _

theorem sampleReversed_reachable : Runs.Reachable (financeStore sampleFinance) sampleReversed :=
  sampleCall_reachable sampleSettled_reachable _ _

theorem sampleResettled_reachable : Runs.Reachable (financeStore sampleFinance) sampleResettled :=
  sampleCall_reachable (sampleCall_reachable sampleReversed_reachable _ _) _ _

end PerPay.Finance
