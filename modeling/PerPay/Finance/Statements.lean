/-
  **The statements of the reconciliation store** — the private functions of `reconciliation/store.ts`
  that write, and the reads they are guarded by.

  As in the order store, the constraints and triggers of the schema stand inside the statement that
  would violate them.  A statement on the order tables or on the ledger is written over those tables
  alone, and runs here through `onOrders` or `onLedger`.
-/
import PerPay.Finance.Model

namespace PerPay.Finance

open Txn Table Orders Ledger

/-- A transaction over the financial tables. -/
abbrev FinanceTx (α : Type) : Type := Tx FinanceDb Fault α

def FinanceDb.setOrders (orders : OrderDb) (db : FinanceDb) : FinanceDb := { db with orders := orders }

def FinanceDb.setLedger (ledger : LedgerDb) (db : FinanceDb) : FinanceDb := { db with ledger := ledger }

/-- Run a transaction of the order tables. -/
def onOrders {α : Type} (x : OrderTx α) : FinanceTx α := zoom FinanceDb.orders FinanceDb.setOrders x

/-- Run a transaction of the ledger. -/
def onLedger {α : Type} (x : LedgerTx α) : FinanceTx α := zoom FinanceDb.ledger FinanceDb.setLedger x

def randomUUID : FinanceTx Uuid := do
  let uuid ← readWith fun db => db.entropy db.drawn
  update fun db => { db with drawn := db.drawn + 1 }
  pure uuid

variable (pf : FinancePlatform)

/-! ## Statements on the order tables -/

/-- The persisted order clock is the financial clock; `physical` is the reading of the system clock. -/
def financialNow (physical : Int) : OrderTx Nat := do
  require (0 ≤ physical ∧ physical ≤ maxSafeInteger)
    (.rangeError "financial clock must be a non-negative safe integer")
  let previous ← readWith (·.clock)
  let previous ← toSafeInteger previous "financial clock"
  require ((previous : Int) - physical ≤ maxOrderClockAheadMilliseconds)
    (.reconciliationError "financial_clock_unavailable" "financial clock is too far ahead")
  update fun db => { db with clock := max previous physical.toNat }
  let now ← readWith (·.clock)
  toSafeInteger now "financial clock"

def requireOrderDecision (orderId : Uuid) : OrderTx PaymentOrder := do
  let row ← readWith fun db => db.orders.find? fun o => o.orderId = orderId
  orFail (.reconciliationError "candidate_not_found" "payment order does not exist") row

/-- `payment_orders_payment_state_transition`; the refund status never changes. -/
def paymentTransition (old new : PaymentOrder) : Bool :=
  (old.paymentStatus = .UNPAID && old.paymentBasis = .NONE && old.receivedAmountCents.isNone &&
    new.paymentStatus = .CONFIRMED && (new.paymentBasis = .INFERRED || new.paymentBasis = .MANUAL) &&
    new.receivedAmountCents.isSome) ||
  (old.paymentStatus = .CONFIRMED && new.paymentStatus = .DISPUTED &&
    new.paymentBasis = old.paymentBasis && new.receivedAmountCents = old.receivedAmountCents)

/-- The order row after a payment decision. -/
def paid (order : PaymentOrder) (status : PaymentStatus) (basis : PaymentBasis) (received : Option Nat)
    (now : Nat) : PaymentOrder :=
  { order with paymentStatus := status, paymentBasis := basis, receivedAmountCents := received,
               updatedAt := now, version := order.version + 1 }

def updateOrderPayment (order : PaymentOrder) (status : PaymentStatus) (basis : PaymentBasis)
    (received : Option Nat) (now : Nat) : OrderTx Nat := do
  let version ← toSafeInteger order.version "order version"
  let db ← readWith id
  let row ← orFail (.error "payment order state update changed 0 rows")
    (db.orders.find? fun o => o.orderId = order.orderId && o.version = order.version &&
      o.paymentStatus = order.paymentStatus)
  require (row.updatedAt ≤ now) (.sqlite "order updated_at cannot move backwards")
  require (paymentTransition row (paid row status basis received now))
    (.sqlite "payment state transition is invalid")
  require ((paid row status basis received now).rowChecks) (.sqlite "CHECK constraint failed: payment_orders")
  update fun db => { db with orders := putOrder (paid row status basis received now) db.orders }
  pure (version + 1)

/-- `orderUsesProviderAccount`: the profile of the order is linked to the account. -/
def OrderDb.linkedTo (db : OrderDb) (profileId : Uuid) (providerAccountKey : String) : Bool :=
  (db.profile profileId).any fun p => p.linkedProviderAccountKey = some providerAccountKey

def orderUsesProviderAccount (db : OrderDb) (orderId : Uuid) (providerAccountKey : String) : Bool :=
  (db.orders.find? fun o => o.orderId = orderId).any fun o =>
    OrderDb.linkedTo db o.collectionProfileId providerAccountKey

/-! ## Statements on the ledger -/

/-- `ledger_entries_state_transition`. -/
def entryTransition : LedgerEntryState → LedgerEntryState → Bool
  | .UNALLOCATED, .CANDIDATE => true
  | .UNALLOCATED, .ALLOCATED => true
  | .UNALLOCATED, .CONFLICT => true
  | .UNALLOCATED, .IGNORED => true
  | .CANDIDATE, .UNALLOCATED => true
  | .CANDIDATE, .ALLOCATED => true
  | .CANDIDATE, .CONFLICT => true
  | .CANDIDATE, .IGNORED => true
  | .ALLOCATED, .UNALLOCATED => true
  | .ALLOCATED, .CONFLICT => true
  | .ALLOCATED, .IGNORED => true
  | .CONFLICT, .ALLOCATED => true
  | .CONFLICT, .IGNORED => true
  | _, _ => false

def setLedgerState (entry : LedgerEntry) (state : LedgerEntryState) (now : Nat) : LedgerTx Unit :=
  if entry.state = state then pure ()
  else do
    let db ← readWith id
    require (db.entries.any fun e => e.ledgerEntryId = entry.ledgerEntryId && e.state = entry.state)
      (.error "ledger entry state update changed 0 rows")
    require (entryTransition entry.state state) (.sqlite "ledger entry state transition is invalid")
    setEntryState entry.ledgerEntryId state now

def FinanceDb.entry (db : FinanceDb) (ledgerEntryId : String) : Option LedgerEntry :=
  db.ledger.entries.find? fun e => e.ledgerEntryId = ledgerEntryId

def requireLedgerEntry (ledgerEntryId : String) : FinanceTx LedgerEntry := do
  let entry ← readWith (·.entry ledgerEntryId)
  orFail (.reconciliationError "match_state_conflict" "ledger entry does not exist") entry

/-- `hasOpenLedgerConflict`. -/
def FinanceDb.hasOpenLedgerConflict (db : FinanceDb) (ledgerEntryId : String) : Bool :=
  db.ledger.conflicts.any fun c => c.existingLedgerEntryId = some ledgerEntryId && c.status = .OPEN

/-! ## Which orders an entry can be attributed to -/

/-- An order with its slot, as the candidate queries join them. -/
structure CandidateFact where
  order : PaymentOrder
  slot : AmountSlot
  deriving DecidableEq, Repr

/-- The occurrence interval of the entry overlaps the attribution window of the order. -/
def CandidateFact.covers (fact : CandidateFact) (facts : SemanticFacts) : Bool :=
  fact.order.eligibleFrom < facts.occurredAt + facts.occurredAtPrecisionMilliseconds &&
  fact.slot.occupiedFrom < facts.occurredAt + facts.occurredAtPrecisionMilliseconds &&
  facts.occurredAt < fact.order.expiresAt &&
  (match fact.slot.releasedAt with | none => true | some released => facts.occurredAt < released)

/-- `payment_orders JOIN amount_slots`. -/
def joinedSlots (db : OrderDb) : List CandidateFact :=
  db.orders.flatMap fun order =>
    (db.slots.filter fun slot => slot.orderId = order.orderId).map fun slot => ⟨order, slot⟩

/-- `ORDER BY eligible_from, order_id`. -/
def CandidateFact.before (a b : CandidateFact) : Bool :=
  a.order.eligibleFrom < b.order.eligibleFrom ||
    (a.order.eligibleFrom = b.order.eligibleFrom && a.order.orderId ≤ b.order.orderId)

def readCandidateFacts (db : OrderDb) (entry : LedgerEntry) : List CandidateFact :=
  ((joinedSlots db).filter fun fact =>
    OrderDb.linkedTo db fact.order.collectionProfileId entry.providerAccountKey &&
    fact.order.payableAmountCents = entry.facts.amountCents && fact.covers entry.facts &&
    fact.order.paymentStatus = .UNPAID).mergeSort CandidateFact.before

/-- How many settled orders overlap the entry (two stands for more), and which, when it is one. -/
structure SettledOrderOverlap where
  count : Nat
  orderId : Option Uuid
  deriving DecidableEq, Repr

def settledOrderFacts (db : OrderDb) (entry : LedgerEntry) : List CandidateFact :=
  (joinedSlots db).filter fun fact =>
    fact.order.collectionProfileId = fact.slot.collectionProfileId &&
    fact.order.payableAmountCents = fact.slot.payableAmountCents &&
    OrderDb.linkedTo db fact.slot.collectionProfileId entry.providerAccountKey &&
    fact.slot.payableAmountCents = entry.facts.amountCents && fact.covers entry.facts &&
    (fact.order.paymentStatus = .CONFIRMED || fact.order.paymentStatus = .DISPUTED)

def readSettledOrderOverlap (db : OrderDb) (entry : LedgerEntry) : SettledOrderOverlap :=
  match (settledOrderFacts db entry).take 2 with
  | [] => ⟨0, none⟩
  | [fact] => ⟨1, some fact.order.orderId⟩
  | facts => ⟨facts.length, none⟩

/-! ## Match candidates -/

def readCandidateByTuple (db : FinanceDb) (ledgerEntryId : String) (orderId slotId : Uuid) :
    Option MatchCandidate :=
  db.candidates.find? fun c => c.ledgerEntryId = ledgerEntryId && c.orderId = orderId && c.slotId = slotId

def candidateEvidence (entry : LedgerEntry) (fact : CandidateFact) : CandidateEvidence where
  providerAccountKey := entry.providerAccountKey
  ledgerEntryId := entry.ledgerEntryId
  ledgerSemanticFingerprint := entry.semanticFingerprint
  occurredAt := entry.facts.occurredAt
  occurredAtPrecisionMilliseconds := entry.facts.occurredAtPrecisionMilliseconds
  amountCents := entry.facts.amountCents
  orderId := fact.order.orderId
  collectionProfileId := fact.order.collectionProfileId
  slotId := fact.slot.slotId
  slotGeneration := fact.slot.generation
  slotOccupiedFrom := fact.slot.occupiedFrom
  slotReleasedAt := fact.slot.releasedAt

/-- `match_candidates_valid_insert`. -/
def FinanceDb.supportsCandidate (db : FinanceDb) (c : MatchCandidate) : Bool :=
  db.ledger.entries.any fun entry => entry.ledgerEntryId = c.ledgerEntryId &&
    entry.facts.direction = .CREDIT && (entry.state = .UNALLOCATED || entry.state = .CANDIDATE) &&
    (joinedSlots db.orders).any fun fact =>
      fact.order.orderId = c.orderId && fact.slot.slotId = c.slotId &&
      OrderDb.linkedTo db.orders fact.order.collectionProfileId entry.providerAccountKey &&
      entry.facts.amountCents = fact.order.payableAmountCents && fact.covers entry.facts &&
      fact.order.paymentStatus = .UNPAID &&
      fact.slot.collectionProfileId = fact.order.collectionProfileId &&
      fact.slot.payableAmountCents = fact.order.payableAmountCents

def insertCandidate (candidate : MatchCandidate) : FinanceTx Unit := do
  let db ← readWith id
  require (db.supportsCandidate candidate) (.sqlite "match candidate is not supported by current facts")
  require (db.candidates.all fun c => c.candidateId ≠ candidate.candidateId &&
      c.candidateFingerprint ≠ candidate.candidateFingerprint &&
      !(c.ledgerEntryId = candidate.ledgerEntryId && c.orderId = candidate.orderId &&
        c.slotId = candidate.slotId))
    (.sqlite "UNIQUE constraint failed: match_candidates")
  update fun db => { db with candidates := db.candidates ++ [candidate] }

def ensureCandidate (entry : LedgerEntry) (now : Nat) (fact : CandidateFact) : FinanceTx MatchCandidate := do
  let existing ← readWith fun db =>
    readCandidateByTuple db entry.ledgerEntryId fact.order.orderId fact.slot.slotId
  match existing with
  | some candidate => pure candidate
  | none => do
    let candidateId ← randomUUID
    let candidate : MatchCandidate :=
      { candidateId, ledgerEntryId := entry.ledgerEntryId, orderId := fact.order.orderId,
        slotId := fact.slot.slotId, evidence := candidateEvidence entry fact,
        candidateFingerprint := candidateFingerprint pf (candidateEvidence entry fact),
        status := .ELIGIBLE, decidedByOperationId := none, createdAt := now, updatedAt := now,
        decidedAt := none }
    insertCandidate candidate
    pure candidate

/-! ## Financial operations -/

/-- What `insertFinancialOperation` is given. -/
structure OperationInsert where
  financialOperationId : Uuid
  operationKey : OperationKey
  fingerprintInput : FinancialOperationFingerprintInput
  orderId : Option Uuid
  ledgerEntryId : Option String
  reversesOperationId : Option Uuid
  reason : Option String
  now : Nat
  deriving DecidableEq, Repr

def OperationInsert.row (input : OperationInsert) : FinancialOperation where
  financialOperationId := input.financialOperationId
  operationKey := input.operationKey
  requestFingerprint := financialOperationFingerprint pf input.fingerprintInput
  operationType := input.fingerprintInput.operationType
  actorType := input.fingerprintInput.actorType
  actorId := input.fingerprintInput.actorId
  orderId := input.orderId
  ledgerEntryId := input.ledgerEntryId
  reversesOperationId := input.reversesOperationId
  reason := input.reason
  createdAt := input.now

/-- The `CHECK`s of `financial_operations`. -/
def FinancialOperation.rowChecks (o : FinancialOperation) : Bool :=
  (o.actorType = .SYSTEM) == o.actorId.isNone &&
  (o.operationType = .REVERSE_SETTLEMENT) == o.reversesOperationId.isSome &&
  (o.operationType = .RECORD_REFUND || (o.orderId.isSome && o.ledgerEntryId.isSome))

/-- `financial_operations_valid_insert` and `financial_operations_reason_required`. -/
def FinanceDb.acceptsOperation (db : FinanceDb) (o : FinancialOperation) : Bool :=
  (match o.operationType with
   | .AUTO_SETTLEMENT => o.actorType = .SYSTEM
   | .SUPERSEDE_CANDIDATE => o.actorType = .SYSTEM
   | _ => o.actorType = .ADMIN) &&
  (match o.reversesOperationId with
   | none => true
   | some reversed => db.operations.any fun original =>
      original.financialOperationId = reversed &&
      (original.operationType = .AUTO_SETTLEMENT || original.operationType = .MANUAL_SETTLEMENT) &&
      original.orderId = o.orderId && original.ledgerEntryId = o.ledgerEntryId) &&
  (o.actorType = .SYSTEM || o.operationType = .MANUAL_SETTLEMENT || o.reason.isSome)

def insertFinancialOperation (input : OperationInsert) : FinanceTx FinancialOperation := do
  let db ← readWith id
  let row := input.row pf
  require (db.acceptsOperation row) (.sqlite "financial operation actor or reversal is invalid")
  require row.rowChecks (.sqlite "CHECK constraint failed: financial_operations")
  require ((∀ orderId ∈ row.orderId, db.orders.orders.any fun o => o.orderId = orderId) ∧
      (∀ entryId ∈ row.ledgerEntryId, db.ledger.entries.any fun e => e.ledgerEntryId = entryId))
    (.sqlite "FOREIGN KEY constraint failed")
  require (db.operations.all fun o => o.financialOperationId ≠ row.financialOperationId &&
      o.operationKey ≠ row.operationKey &&
      (row.reversesOperationId.isNone || o.reversesOperationId ≠ row.reversesOperationId))
    (.sqlite "UNIQUE constraint failed: financial_operations")
  update fun db => { db with operations := db.operations ++ [row] }
  pure row

def readOperation (db : FinanceDb) (id : Uuid) : Option FinancialOperation :=
  db.operations.find? fun o => o.financialOperationId = id

def readOperationByKey (db : FinanceDb) (key : OperationKey) : Option FinancialOperation :=
  db.operations.find? fun o => o.operationKey = key

/-- The candidate after its decision. -/
def MatchCandidate.decide (candidate : MatchCandidate) (status : CandidateStatus) (operationId : Uuid)
    (now : Nat) : MatchCandidate :=
  { candidate with status, decidedByOperationId := some operationId, updatedAt := now, decidedAt := some now }

/-- `UPDATE match_candidates SET status, decided_by_operation_id, updated_at, decided_at WHERE
    candidate_id = ? AND status = 'ELIGIBLE'`, with its triggers. -/
def decideCandidate (candidateId : Uuid) (status : CandidateStatus) (operation : FinancialOperation)
    (now : Nat) (action : String) : FinanceTx Unit := do
  let db ← readWith id
  let row ← orFail (.error (action ++ " changed 0 rows"))
    (db.candidates.find? fun c => c.candidateId = candidateId && c.status = .ELIGIBLE)
  require (status = .SELECTED ∨ status = .SUPERSEDED) (.sqlite "match candidate transition is invalid")
  require (db.operations.any fun o => o.financialOperationId = operation.financialOperationId &&
      o.orderId = some row.orderId && o.ledgerEntryId = some row.ledgerEntryId &&
      (if status = .SELECTED then o.operationType = .AUTO_SETTLEMENT
       else o.operationType = .SUPERSEDE_CANDIDATE))
    (.sqlite "match candidate decision operation is invalid")
  require (row.updatedAt ≤ now ∧ row.createdAt ≤ now)
    (.sqlite "match candidate updated_at cannot move backwards")
  require (db.candidates.all fun c => c.decidedByOperationId ≠ some operation.financialOperationId)
    (.sqlite "UNIQUE constraint failed: match_candidates.decided_by_operation_id")
  update fun db => { db with
    candidates := updateWhere (fun c => c.candidateId = candidateId && c.status = .ELIGIBLE)
      (fun c => c.decide status operation.financialOperationId now) db.candidates }

def supersedeCandidate (now : Nat) (candidate : MatchCandidate) : FinanceTx Unit := do
  let operationId ← randomUUID
  let operation ← insertFinancialOperation pf
    { financialOperationId := operationId, operationKey := .supersede candidate.candidateId,
      fingerprintInput :=
        { operationType := .SUPERSEDE_CANDIDATE, actorType := .SYSTEM, actorId := none,
          orderId := some candidate.orderId, ledgerEntryId := some candidate.ledgerEntryId,
          candidateId := some candidate.candidateId, paymentMatchId := none, reversesOperationId := none,
          reason := none },
      orderId := some candidate.orderId, ledgerEntryId := some candidate.ledgerEntryId,
      reversesOperationId := none, reason := none, now }
  decideCandidate candidate.candidateId .SUPERSEDED operation now "candidate supersede"

def supersedeStaleEligibleCandidates (entry : LedgerEntry) (activeCandidateIds : List Uuid) (now : Nat) :
    FinanceTx Unit := do
  let stale ← readWith fun db => db.candidates.filter fun c =>
    c.ledgerEntryId = entry.ledgerEntryId && c.status = .ELIGIBLE && c.candidateId ∉ activeCandidateIds
  forEach (supersedeCandidate pf now) stale

end PerPay.Finance
