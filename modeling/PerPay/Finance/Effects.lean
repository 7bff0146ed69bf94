/-
  **What the financial statements can do** — the checks a statement passed, and the tables after it.

  The two decisions are built from the same statements: `Settles` and `Reverses` say everything a
  recorded settlement or reversal checked and wrote, in terms of the tables before it.  The later
  modules read these and never the definitions.
-/
import PerPay.Finance.Store
import PerPay.Orders.Effects
import PerPay.Orders.Invariants

namespace PerPay.Finance

open Txn Table Orders Ledger

variable {pf : FinancePlatform} {db db' : FinanceDb}

/-! ## Statements of the other stores, and identifiers -/

theorem onOrders_ok {α : Type} {x : OrderTx α} {a : α} :
    onOrders x db = .ok (a, db') ↔ ∃ o, x db.orders = .ok (a, o) ∧ db' = { db with orders := o } :=
  zoom_ok

theorem onLedger_ok {α : Type} {x : LedgerTx α} {a : α} :
    onLedger x db = .ok (a, db') ↔ ∃ l, x db.ledger = .ok (a, l) ∧ db' = { db with ledger := l } :=
  zoom_ok

/-- The store after `n` more identifiers were drawn. -/
def FinanceDb.drew (db : FinanceDb) (n : Nat) : FinanceDb := { db with drawn := db.drawn + n }

theorem randomUUID_bind_ok {α : Type} {k : Uuid → FinanceTx α} {r : α × FinanceDb} :
    (randomUUID >>= k) db = .ok r ↔ k (db.entropy db.drawn) (db.drew 1) = .ok r := Iff.rfl

theorem randomUUID_ok {uuid : Uuid} :
    randomUUID db = .ok (uuid, db') ↔ uuid = db.entropy db.drawn ∧ db' = db.drew 1 := by
  show (Except.ok (_, _) : Except Fault (Uuid × FinanceDb)) = _ ↔ _
  simp only [Except.ok.injEq, Prod.mk.injEq]
  exact ⟨fun h => ⟨h.1.symm, h.2.symm⟩, fun h => ⟨h.1.symm, h.2.symm⟩⟩

/-! ## Order rows -/

theorem financialNow_ok {db db' : OrderDb} {physical : Int} {now : Nat}
    (hx : financialNow physical db = .ok (now, db')) :
    db.clock ≤ now ∧ physical ≤ now ∧ now ≤ maxSafeInteger ∧ db' = { db with clock := now } := by
  unfold financialNow at hx
  simp only [require_bind_ok, readWith_bind_ok] at hx
  obtain ⟨-, hx⟩ := hx
  obtain ⟨previous, m, hprevious, hx⟩ := bind_ok.mp hx
  obtain ⟨rfl, -, rfl⟩ := toSafeInteger_ok hprevious
  simp only [require_bind_ok, update_bind_ok, readWith_bind_ok] at hx
  obtain ⟨rfl, hsafe, rfl⟩ := toSafeInteger_ok hx.2
  refine ⟨le_max_left _ _, ?_, hsafe, rfl⟩
  show physical ≤ ((max db.clock physical.toNat : Nat) : Int)
  omega

theorem requireOrderDecision_ok {db db' : OrderDb} {orderId : Uuid} {order : PaymentOrder}
    (hx : requireOrderDecision orderId db = .ok (order, db')) :
    order ∈ db.orders ∧ order.orderId = orderId ∧ db = db' := by
  unfold requireOrderDecision at hx
  simp only [readWith_bind_ok, orFail_ok] at hx
  obtain ⟨hf, rfl⟩ := hx
  exact ⟨List.mem_of_find?_eq_some hf, by simpa using List.find?_some hf, rfl⟩

/-- The row an update by key and version finds is the row it was given. -/
theorem find?_order {orders : List PaymentOrder} (hu : UniqueOn (·.orderId) orders) {order : PaymentOrder}
    (hmem : order ∈ orders) :
    (orders.find? fun o => o.orderId = order.orderId && o.version = order.version &&
      o.paymentStatus = order.paymentStatus) = some order := by
  rcases hf : orders.find? _ with _ | row
  · have := List.find?_eq_none.mp hf order hmem
    simp at this
  · have hrow := List.find?_some hf
    simp only [Bool.and_eq_true, decide_eq_true_eq] at hrow
    rw [hu.eq (List.mem_of_find?_eq_some hf) hmem hrow.1.1]

theorem updateOrderPayment_ok {db db' : OrderDb} {order : PaymentOrder} {status : PaymentStatus}
    {basis : PaymentBasis} {received : Option Nat} {now version : Nat}
    (hu : UniqueOn (·.orderId) db.orders) (hmem : order ∈ db.orders) :
    updateOrderPayment order status basis received now db = .ok (version, db') ↔
      order.version ≤ maxSafeInteger ∧ order.updatedAt ≤ now ∧
      paymentTransition order (paid order status basis received now) ∧
      (paid order status basis received now).rowChecks ∧ version = order.version + 1 ∧
      db' = { db with orders := putOrder (paid order status basis received now) db.orders } := by
  unfold updateOrderPayment
  rw [toSafeInteger]
  constructor
  · intro hx
    obtain ⟨v, m, hv, hx⟩ := bind_ok.mp hx
    obtain ⟨hsafe, hv⟩ := require_bind_ok.mp hv
    obtain ⟨rfl, rfl⟩ := pure_ok.mp hv
    simp only [readWith_bind_ok, orFail_bind_ok, require_bind_ok, update_bind_ok, pure_ok, id,
      find?_order hu hmem, Option.some.injEq] at hx
    obtain ⟨row, rfl, hupdated, htransition, hrow, rfl, rfl⟩ := hx
    exact ⟨by simpa [isSafeInteger] using hsafe, hupdated, htransition, hrow, rfl, rfl⟩
  · rintro ⟨hsafe, hupdated, htransition, hrow, rfl, rfl⟩
    refine bind_ok.mpr ⟨order.version, db, require_bind_ok.mpr ⟨?_, pure_ok.mpr ⟨rfl, rfl⟩⟩, ?_⟩
    · simpa [isSafeInteger] using hsafe
    · simp only [readWith_bind_ok, orFail_bind_ok, require_bind_ok, update_bind_ok, pure_ok, id,
        find?_order hu hmem, Option.some.injEq]
      exact ⟨order, rfl, hupdated, htransition, hrow, trivial, rfl⟩

/-- The payment state a settlement may leave from and lead to. -/
theorem paymentTransition_confirmed {order : PaymentOrder} {basis : PaymentBasis} {amount now : Nat}
    (h : paymentTransition order (paid order .CONFIRMED basis (some amount) now)) :
    order.paymentStatus = .UNPAID ∧ order.paymentBasis = .NONE ∧ order.receivedAmountCents = none := by
  simp only [paymentTransition, paid, Bool.or_eq_true, Bool.and_eq_true, decide_eq_true_eq,
    Option.isNone_iff_eq_none] at h
  rcases h with ⟨⟨⟨⟨⟨h1, h2⟩, h3⟩, -⟩, -⟩, -⟩ | ⟨⟨⟨-, h⟩, -⟩, -⟩
  · exact ⟨h1, h2, h3⟩
  · exact absurd h (by simp)

/-! ## Ledger entries -/

theorem requireLedgerEntry_ok {ledgerEntryId : String} {entry : LedgerEntry}
    (hx : requireLedgerEntry ledgerEntryId db = .ok (entry, db')) :
    entry ∈ db.ledger.entries ∧ entry.ledgerEntryId = ledgerEntryId ∧ db = db' := by
  unfold requireLedgerEntry at hx
  simp only [readWith_bind_ok, orFail_ok] at hx
  obtain ⟨hf, rfl⟩ := hx
  exact ⟨List.mem_of_find?_eq_some hf, by simpa using List.find?_some hf, rfl⟩

/-- The ledger after the state of an entry was set. -/
def withState (entry : LedgerEntry) (state : LedgerEntryState) (now : Nat) (l : LedgerDb) : LedgerDb :=
  if entry.state = state then l
  else { l with entries := updateWhere (fun e => e.ledgerEntryId = entry.ledgerEntryId)
                  (fun e => { e with state, updatedAt := now }) l.entries }

theorem setLedgerState_ok {l l' : LedgerDb} {entry : LedgerEntry} {state : LedgerEntryState} {now : Nat} {u : Unit}
    (hu : UniqueOn (·.ledgerEntryId) l.entries) (hmem : entry ∈ l.entries) :
    setLedgerState entry state now l = .ok (u, l') ↔
      (entry.state = state ∨ (entryTransition entry.state state ∧ entry.updatedAt ≤ now)) ∧
      l' = withState entry state now l := by
  unfold setLedgerState withState
  by_cases hs : entry.state = state
  · rw [if_pos hs, if_pos hs, pure_ok]
    exact ⟨fun h => ⟨.inl hs, h.2.symm⟩, fun h => ⟨rfl, h.2.symm⟩⟩
  · have hany : (l.entries.any fun e => e.ledgerEntryId = entry.ledgerEntryId && e.state = entry.state) = true :=
      List.any_eq_true.mpr ⟨entry, hmem, by simp⟩
    simp only [if_neg hs, readWith_bind_ok, require_bind_ok, id, hany, true_and, setEntryState, update_ok, hs,
      false_or]
    constructor
    · rintro ⟨htransition, hupdated, rfl⟩
      exact ⟨⟨htransition, hupdated entry hmem rfl⟩, rfl⟩
    · rintro ⟨⟨htransition, hupdated⟩, rfl⟩
      exact ⟨htransition, fun e he hid => hu.eq he hmem hid ▸ hupdated, rfl⟩

/-! ## The accounting transaction -/

theorem insertTransaction_ok {row : LedgerTransaction} (u : Unit) (db' : FinanceDb) :
    insertTransaction row db = .ok (u, db') ↔
      ((row.status = .DRAFT ∧ row.postedAt = none ∧ db.operations.any fun o =>
          o.financialOperationId = row.financialOperationId && o.orderId = some row.orderId &&
          o.ledgerEntryId = some row.ledgerEntryId && row.transactionType.recordedBy o.operationType) ∧
        (∀ t ∈ db.transactions, t.ledgerTransactionId ≠ row.ledgerTransactionId ∧
          t.financialOperationId ≠ row.financialOperationId)) ∧
      db' = { db with transactions := db.transactions ++ [row] } := by
  unfold insertTransaction
  simp only [readWith_bind_ok, require_bind_ok, update_eq, id, List.all_eq_true, Bool.and_eq_true,
    decide_eq_true_eq, and_assoc]

theorem insertPosting_ok {row : LedgerPosting} (u : Unit) (db' : FinanceDb) :
    insertPosting row db = .ok (u, db') ↔
      ((1 ≤ row.amountCents ∧ row.amountCents ≤ 999999999999) ∧
        (db.transactions.any fun t => t.ledgerTransactionId = row.ledgerTransactionId && t.status = .DRAFT &&
          t.orderId = row.orderId && t.ledgerEntryId = row.ledgerEntryId) ∧
        (db.postings.all fun p => p.postingId ≠ row.postingId &&
          !(p.ledgerTransactionId = row.ledgerTransactionId && p.accountCode = row.accountCode &&
            p.side = row.side))) ∧
      db' = { db with postings := db.postings ++ [row] } := by
  unfold insertPosting
  simp only [readWith_bind_ok, require_bind_ok, update_eq, id, and_assoc]

/-- The transaction an operation is recorded in, once it is posted. -/
def AccountingInput.transaction (input : AccountingInput) (db : FinanceDb) : LedgerTransaction :=
  { input.draft (db.entropy db.drawn) with status := .POSTED, postedAt := some input.now }

def AccountingInput.debit (input : AccountingInput) (db : FinanceDb) : LedgerPosting :=
  input.posting (db.entropy db.drawn) (db.entropy (db.drawn + 1)) .DEBIT

def AccountingInput.credit (input : AccountingInput) (db : FinanceDb) : LedgerPosting :=
  input.posting (db.entropy db.drawn) (db.entropy (db.drawn + 2)) .CREDIT

/-- The tables with the posted transaction. -/
def AccountingInput.posted (input : AccountingInput) (db : FinanceDb) : FinanceDb :=
  { db with transactions := db.transactions ++ [input.transaction db],
            postings := db.postings ++ [input.debit db] ++ [input.credit db], drawn := db.drawn + 3 }

/-- What the schema checks before a transaction is posted. -/
structure Posts (input : AccountingInput) (db : FinanceDb) : Prop where
  recorded : db.operations.any fun o =>
    o.financialOperationId = input.operation.financialOperationId && o.orderId = some input.orderId &&
    o.ledgerEntryId = some input.ledgerEntryId && input.transactionType.recordedBy o.operationType
  newTransaction : ∀ t ∈ db.transactions, t.ledgerTransactionId ≠ db.entropy db.drawn ∧
    t.financialOperationId ≠ input.operation.financialOperationId
  amount : 1 ≤ input.amountCents ∧ input.amountCents ≤ 999999999999
  newDebit : db.postings.all fun p => p.postingId ≠ (input.debit db).postingId &&
    !(p.ledgerTransactionId = (input.debit db).ledgerTransactionId &&
      p.accountCode = (input.debit db).accountCode && p.side = (input.debit db).side)
  newCredit : (db.postings ++ [input.debit db]).all fun p => p.postingId ≠ (input.credit db).postingId &&
    !(p.ledgerTransactionId = (input.credit db).ledgerTransactionId &&
      p.accountCode = (input.credit db).accountCode && p.side = (input.credit db).side)
  balanced : (input.posted db).balanced (input.draft (db.entropy db.drawn))

/-- The draft is the one transaction of its identifier. -/
theorem find?_draft {input : AccountingInput} {transactions : List LedgerTransaction} {transactionId : Uuid}
    (hnew : ∀ t ∈ transactions, t.ledgerTransactionId ≠ transactionId) :
    ((transactions ++ [input.draft transactionId]).find? fun t =>
      t.ledgerTransactionId = transactionId && t.status = .DRAFT) = some (input.draft transactionId) := by
  rw [List.find?_append, List.find?_eq_none.mpr fun t ht => by simp [hnew t ht]]
  simp [AccountingInput.draft]

theorem postAccountingTransaction_ok {input : AccountingInput} (u : Unit) (db' : FinanceDb) :
    postAccountingTransaction input db = .ok (u, db') ↔ Posts input db ∧ db' = input.posted db := by
  have hpost : ∀ {p : List LedgerPosting} {d : Nat} {db' : FinanceDb},
      (∀ t ∈ db.transactions, t.ledgerTransactionId ≠ db.entropy db.drawn) →
      (postTransaction (db.entropy db.drawn) input.now
        { db with transactions := db.transactions ++ [input.draft (db.entropy db.drawn)], postings := p,
                  drawn := d } = .ok (u, db') ↔
        ({ db with postings := p } : FinanceDb).balanced (input.draft (db.entropy db.drawn)) ∧
        db' = { db with transactions := db.transactions ++ [input.transaction db], postings := p, drawn := d }) := by
    intro p d db' hnew
    have hkept : updateWhere (fun t => t.ledgerTransactionId = db.entropy db.drawn && t.status = .DRAFT)
        (fun t => { t with status := .POSTED, postedAt := some input.now })
        (db.transactions ++ [input.draft (db.entropy db.drawn)]) = db.transactions ++ [input.transaction db] := by
      show List.map _ (_ ++ _) = _
      rw [List.map_append]
      congr 1
      · exact updateWhere_eq_self fun t ht => by simp [hnew t ht]
      · simp [AccountingInput.draft, AccountingInput.transaction]
    simp only [postTransaction, readWith_bind_ok, orFail_bind_ok, require_bind_ok, update_ok, id,
      find?_draft hnew, Option.some.injEq, hkept]
    constructor
    · rintro ⟨row, rfl, ⟨-, hbalanced⟩, rfl⟩
      exact ⟨hbalanced, rfl⟩
    · rintro ⟨hbalanced, rfl⟩
      exact ⟨_, rfl, ⟨le_refl _, hbalanced⟩, rfl⟩
  have hdraft : (db.transactions ++ [input.draft (db.entropy db.drawn)]).any (fun t =>
      t.ledgerTransactionId = db.entropy db.drawn && t.status = .DRAFT && t.orderId = input.orderId &&
      t.ledgerEntryId = input.ledgerEntryId) = true :=
    List.any_eq_true.mpr ⟨_, List.mem_append_right _ (List.mem_singleton.mpr rfl), by simp [AccountingInput.draft]⟩
  unfold postAccountingTransaction
  simp only [randomUUID_bind_ok, statement_bind_ok insertTransaction_ok, statement_bind_ok insertPosting_ok,
    FinanceDb.drew]
  constructor
  · rintro ⟨⟨⟨-, -, hrecorded⟩, hnew⟩, ⟨hamount, -, hdebit⟩, ⟨-, -, hcredit⟩, hx⟩
    obtain ⟨hbalanced, rfl⟩ := (hpost fun t ht => (hnew t ht).1).mp hx
    exact ⟨⟨hrecorded, hnew, hamount, hdebit, hcredit, hbalanced⟩, rfl⟩
  · rintro ⟨⟨hrecorded, hnew, hamount, hdebit, hcredit, hbalanced⟩, rfl⟩
    refine ⟨⟨⟨rfl, rfl, hrecorded⟩, hnew⟩, ⟨hamount, hdraft, hdebit⟩, ⟨hamount, hdraft, hcredit⟩, ?_⟩
    exact (hpost fun t ht => (hnew t ht).1).mpr ⟨hbalanced, rfl⟩

/-! ## Payment matches -/

theorem insertPaymentMatch_ok {m : PaymentMatch} (u : Unit) (db' : FinanceDb) :
    insertPaymentMatch m db = .ok (u, db') ↔
      (db.supportsMatch m ∧ db.matchIsNew m) ∧ db' = { db with paymentMatches := db.paymentMatches ++ [m] } := by
  unfold insertPaymentMatch
  simp only [readWith_bind_ok, require_bind_ok, update_eq, id, and_assoc]

/-- The matches after the reversal of one of them. -/
def withReversed (m : PaymentMatch) (operationId : Uuid) (now : Nat) (rows : List PaymentMatch) :
    List PaymentMatch :=
  updateWhere (fun x => x.paymentMatchId = m.paymentMatchId && x.status = .SETTLED)
    (fun x => x.reverse operationId now) rows

/-- What the schema checks before a match is reversed. -/
structure MayReverse (m : PaymentMatch) (operation : FinancialOperation) (now : Nat) (db : FinanceDb) : Prop where
  recorded : db.operations.any fun o => o.financialOperationId = operation.financialOperationId &&
    o.orderId = some m.orderId && o.ledgerEntryId = some m.ledgerEntryId && o.operationType = .REVERSE_SETTLEMENT
  times : m.updatedAt ≤ now ∧ m.createdAt ≤ now
  newResolver : db.paymentMatches.all fun x => x.resolvedByOperationId ≠ some operation.financialOperationId

theorem reversePaymentMatch_bind_ok {α : Type} {m : PaymentMatch} {operation : FinancialOperation} {now : Nat}
    {k : Unit → FinanceTx α} {r : α × FinanceDb} (hu : UniqueOn (·.paymentMatchId) db.paymentMatches)
    (hmem : m ∈ db.paymentMatches) (hsettled : m.status = .SETTLED) :
    (reversePaymentMatch m.paymentMatchId operation now >>= k) db = .ok r ↔
      MayReverse m operation now db ∧
      k () { db with paymentMatches := withReversed m operation.financialOperationId now db.paymentMatches } =
        .ok r := by
  have hfind : (db.paymentMatches.find? fun x => x.paymentMatchId = m.paymentMatchId && x.status = .SETTLED) =
      some m := by
    rcases hf : db.paymentMatches.find? _ with _ | row
    · have := List.find?_eq_none.mp hf m hmem
      simp [hsettled] at this
    · have hrow := List.find?_some hf
      simp only [Bool.and_eq_true, decide_eq_true_eq] at hrow
      rw [hu.eq (List.mem_of_find?_eq_some hf) hmem hrow.1]
  refine statement_bind_ok fun u db' => ?_
  unfold reversePaymentMatch withReversed
  simp only [readWith_bind_ok, orFail_bind_ok, require_bind_ok, update_eq, id, hfind, Option.some.injEq]
  constructor
  · rintro ⟨row, rfl, hoperation, htimes, hnew, rfl⟩
    exact ⟨⟨hoperation, htimes, hnew⟩, rfl⟩
  · rintro ⟨⟨hoperation, htimes, hnew⟩, rfl⟩
    exact ⟨m, rfl, hoperation, htimes, hnew, rfl⟩

/-! ## The outbox event -/

/-- The outbox event of a decision. -/
def newOutboxEvent (outboxEventId : Uuid) (operation : FinancialOperation) (order : PaymentOrder)
    (receivedAmountCents : Nat) (eventType : PaymentEventType) (eventDetails : OutboxEventDetails)
    (now : Nat) : OutboxEvent where
  outboxEventId := outboxEventId
  financialOperationId := operation.financialOperationId
  aggregateId := order.orderId
  aggregateVersion := order.version
  eventType := eventType
  payload := outboxPayload outboxEventId operation order receivedAmountCents eventType eventDetails now
  createdAt := now

/-- The unique keys of `outbox_events`. -/
def FinanceDb.outboxEventIsNew (db : FinanceDb) (event : OutboxEvent) : Prop :=
  ∀ e ∈ db.outbox, e.outboxEventId ≠ event.outboxEventId ∧
    e.financialOperationId ≠ event.financialOperationId ∧
    ¬ (e.aggregateId = event.aggregateId ∧ e.aggregateVersion = event.aggregateVersion ∧
      e.eventType = event.eventType)

theorem insertOutboxEvent_ok {operation : FinancialOperation} {order : PaymentOrder} {amount : Nat}
    {eventType : PaymentEventType} {eventDetails : OutboxEventDetails} {now : Nat}
    (hamount : order.receivedAmountCents = some amount) (u : Unit) (db' : FinanceDb) :
    insertOutboxEvent operation order eventType eventDetails now db = .ok (u, db') ↔
      (db.supportsOutboxEvent
          (newOutboxEvent (db.entropy db.drawn) operation order amount eventType eventDetails now) ∧
        db.outboxEventIsNew
          (newOutboxEvent (db.entropy db.drawn) operation order amount eventType eventDetails now)) ∧
      db' = { db with drawn := db.drawn + 1, outbox := db.outbox ++
        [newOutboxEvent (db.entropy db.drawn) operation order amount eventType eventDetails now] } := by
  unfold insertOutboxEvent
  simp only [randomUUID_bind_ok, readWith_bind_ok, orFail_bind_ok, require_bind_ok, update_eq, id, hamount,
    Option.some.injEq, List.all_eq_true, Bool.and_eq_true, Bool.not_eq_true', decide_eq_true_eq,
    Bool.and_eq_false_imp, decide_eq_false_iff_not, FinanceDb.drew]
  constructor
  · rintro ⟨_, rfl, hsupported, hnew, rfl⟩
    exact ⟨⟨hsupported, fun e he => ⟨(hnew e he).1.1, (hnew e he).1.2, fun h => (hnew e he).2 ⟨h.1, h.2.1⟩ h.2.2⟩⟩,
      rfl⟩
  · rintro ⟨⟨hsupported, hnew⟩, rfl⟩
    exact ⟨amount, rfl, hsupported, fun e he => ⟨⟨(hnew e he).1, (hnew e he).2.1⟩,
      fun h h' => (hnew e he).2.2 ⟨h.1, h.2, h'⟩⟩, rfl⟩

/-! ## Exceptions -/

theorem resolveExceptions_ok {p : FinancialException → Bool} {operationId : Uuid}
    {resolution : ExceptionResolution} {now : Nat} (u : Unit) (db' : FinanceDb) :
    resolveExceptions p operationId resolution now db = .ok (u, db') ↔
      ((db.exceptions.filter p).all fun e => db.mayResolve e operationId resolution now) ∧
      db' = { db with exceptions := updateWhere p (fun e => e.resolve operationId resolution now) db.exceptions } := by
  unfold resolveExceptions
  simp only [readWith_bind_ok, require_bind_ok, update_eq, id]

/-- A row of the exceptions after statements at the time `now`: one that was there, one recorded now,
    or one of these resolved now. -/
inductive ExceptionFrom (rows : List FinancialException) (now : Nat) : FinancialException → Prop
  | kept {e : FinancialException} (h : e ∈ rows) : ExceptionFrom rows now e
  | recorded {e : FinancialException} (hcreated : e.createdAt = now) (hresolved : e.resolvedAt = none) :
      ExceptionFrom rows now e
  | resolved {e : FinancialException} (h : ExceptionFrom rows now e) (operationId : Uuid)
      (resolution : ExceptionResolution) : ExceptionFrom rows now (e.resolve operationId resolution now)

theorem ExceptionFrom.update {rows rows' : List FinancialException} {now : Nat} (h : ∀ e ∈ rows', ExceptionFrom rows now e)
    (p : FinancialException → Bool) (operationId : Uuid) (resolution : ExceptionResolution) :
    ∀ e ∈ updateWhere p (fun e => e.resolve operationId resolution now) rows', ExceptionFrom rows now e := by
  intro e he
  rcases mem_updateWhere.mp he with ⟨e0, h0, -, rfl⟩ | ⟨h0, -⟩
  · exact .resolved (h e0 h0) operationId resolution
  · exact h e h0

theorem resolveEntryExceptions_ok {ledgerEntryId : String} {operation : FinancialOperation} {resolution : String}
    {paymentMatchId : Uuid} {now : Nat} {u : Unit}
    (hx : resolveEntryExceptions ledgerEntryId operation resolution paymentMatchId now db = .ok (u, db')) :
    ∃ exceptions, (∀ e ∈ exceptions, ExceptionFrom db.exceptions now e) ∧
      db' = { db with exceptions := exceptions } := by
  unfold resolveEntryExceptions at hx
  rw [statement_bind_ok resolveExceptions_ok] at hx
  obtain ⟨-, hx⟩ := hx
  have hfirst := ExceptionFrom.update (fun e he => show ExceptionFrom db.exceptions now e from .kept he)
    (fun e => e.ledgerEntryId = some ledgerEntryId && e.status = .OPEN &&
      (e.orderId.isNone || e.orderId = operation.orderId)) operation.financialOperationId ⟨resolution, paymentMatchId⟩
  by_cases hs : operation.operationType.settles
  · rw [if_pos hs] at hx
    obtain ⟨-, rfl⟩ := (resolveExceptions_ok _ _).mp hx
    exact ⟨_, .update hfirst _ _ _, rfl⟩
  · rw [if_neg hs] at hx
    obtain ⟨-, rfl⟩ := pure_ok.mp hx
    exact ⟨_, hfirst, rfl⟩

theorem insertException_ok {exception : FinancialException} {u : Unit}
    (hx : insertException exception db = .ok (u, db')) :
    db.supportsException exception ∧ db' = { db with exceptions := db.exceptions ++ [exception] } := by
  unfold insertException at hx
  simp only [readWith_bind_ok, require_bind_ok, update_eq, id] at hx
  exact ⟨hx.1, hx.2.2⟩

theorem ensureExceptionRound_ok {input : ExceptionInput} {now : Nat} {e : FinancialException} :
    ∀ {attempts : Nat} {candidateInput : ExceptionInput} {db db' : FinanceDb},
      ensureExceptionRound pf input now attempts candidateInput db = .ok (e, db') →
      ∃ exceptions drawn, (∀ e ∈ exceptions, ExceptionFrom db.exceptions now e) ∧
        db' = { db with exceptions := exceptions, drawn := drawn }
  | 0, _, _, _, hx => (fail_ok.mp hx).elim
  | attempts + 1, candidateInput, db, db', hx => by
    unfold ensureExceptionRound at hx
    rw [readWith_bind_ok] at hx
    cases hf : db.exceptions.find? fun e =>
        e.exceptionFingerprint = financialExceptionFingerprint pf candidateInput with
    | none =>
      simp only [hf, randomUUID_bind_ok] at hx
      obtain ⟨_, m, hinsert, hx⟩ := bind_ok.mp hx
      obtain ⟨-, rfl⟩ := insertException_ok hinsert
      obtain ⟨-, rfl⟩ := pure_ok.mp hx
      refine ⟨_, _, fun e he => ?_, rfl⟩
      rcases List.mem_append.mp he with he | he
      · exact .kept he
      · rw [List.mem_singleton.mp he]
        exact .recorded rfl rfl
    | some existing =>
      simp only [hf] at hx
      by_cases hs : existing.status = .OPEN
      · rw [if_pos hs] at hx
        obtain ⟨-, rfl⟩ := pure_ok.mp hx
        exact ⟨_, _, fun _ he => .kept he, rfl⟩
      · rw [if_neg hs, readWith_bind_ok] at hx
        exact ensureExceptionRound_ok hx

theorem ensureException_ok {input : ExceptionInput} {now : Nat} {e : FinancialException}
    (hx : ensureException pf input now db = .ok (e, db')) :
    ∃ exceptions drawn, (∀ e ∈ exceptions, ExceptionFrom db.exceptions now e) ∧
      db' = { db with exceptions := exceptions, drawn := drawn } :=
  ensureExceptionRound_ok hx

/-! ## A recorded settlement -/

/-- The order tables after a payment decision. -/
def withPayment (order : PaymentOrder) (event : OrderEvent) (o : OrderDb) : OrderDb :=
  { o with orders := putOrder order o.orders, events := o.events ++ [event] }

/-- A statement on the order tables, known by its guard and by what it writes. -/
theorem onOrders_statement {x : OrderTx Unit} {o : OrderDb} {G : Prop}
    (h : ∀ u o', x db.orders = .ok (u, o') ↔ G ∧ o' = o) (u : Unit) (db' : FinanceDb) :
    onOrders x db = .ok (u, db') ↔ G ∧ db' = { db with orders := o } := by
  rw [onOrders_ok]
  constructor
  · rintro ⟨o', hx, rfl⟩
    obtain ⟨hG, rfl⟩ := (h u o').mp hx
    exact ⟨hG, rfl⟩
  · rintro ⟨hG, rfl⟩
    exact ⟨o, (h u o).mpr ⟨hG, rfl⟩, rfl⟩

/-- What `setLedgerState` checks. -/
def MayBecome (entry : LedgerEntry) (state : LedgerEntryState) (now : Nat) : Prop :=
  entry.state = state ∨ (entryTransition entry.state state ∧ entry.updatedAt ≤ now)

theorem setLedgerState_bind_ok {α : Type} {entry : LedgerEntry} {state : LedgerEntryState} {now : Nat}
    {k : Unit → FinanceTx α} {r : α × FinanceDb} (hu : UniqueOn (·.ledgerEntryId) db.ledger.entries)
    (hmem : entry ∈ db.ledger.entries) :
    (onLedger (setLedgerState entry state now) >>= k) db = .ok r ↔
      MayBecome entry state now ∧ k () { db with ledger := withState entry state now db.ledger } = .ok r := by
  refine statement_bind_ok fun u db' => ?_
  rw [onLedger_ok]
  constructor
  · rintro ⟨l', hx, rfl⟩
    obtain ⟨h, rfl⟩ := (setLedgerState_ok hu hmem).mp hx
    exact ⟨h, rfl⟩
  · rintro ⟨h, rfl⟩
    exact ⟨_, (setLedgerState_ok hu hmem).mpr ⟨h, rfl⟩, rfl⟩

/-- What the event of a payment decision has to be: of the row as it stands, and new. -/
structure EventFits (event : OrderEvent) (o : OrderDb) : Prop where
  describes : o.orders.any event.describes
  isNew : o.events.all fun e => !(e.orderId = event.orderId && e.sequence = event.sequence)

theorem insertOrderEvent_statement {event : OrderEvent} {o : OrderDb} (u : Unit) (o' : OrderDb) :
    insertOrderEvent event o = .ok (u, o') ↔
      EventFits event o ∧ o' = { o with events := o.events ++ [event] } := by
  unfold insertOrderEvent
  simp only [readWith_bind_ok, require_bind_ok, update_eq, id]
  exact ⟨fun h => ⟨⟨h.1, h.2.1⟩, h.2.2⟩, fun h => ⟨h.1.describes, h.1.isNew, h.2⟩⟩

/-- What `updateOrderPayment` checks. -/
structure MayPay (order : PaymentOrder) (status : PaymentStatus) (basis : PaymentBasis) (received : Option Nat)
    (now : Nat) : Prop where
  version : order.version ≤ maxSafeInteger
  updated : order.updatedAt ≤ now
  transition : paymentTransition order (paid order status basis received now)
  rowChecks : (paid order status basis received now).rowChecks

theorem updateOrderPayment_bind_ok {α : Type} {order : PaymentOrder} {status : PaymentStatus}
    {basis : PaymentBasis} {received : Option Nat} {now : Nat} (hu : UniqueOn (·.orderId) db.orders.orders)
    (hmem : order ∈ db.orders.orders) {k : Nat → FinanceTx α} {r : α × FinanceDb} :
    (onOrders (updateOrderPayment order status basis received now) >>= k) db = .ok r ↔
      MayPay order status basis received now ∧
      k (order.version + 1) { db with orders := { db.orders with
        orders := putOrder (paid order status basis received now) db.orders.orders } } = .ok r := by
  obtain ⟨b, db'⟩ := r
  rw [bind_ok]
  constructor
  · rintro ⟨version, m, hx, hk⟩
    obtain ⟨o, hpay, rfl⟩ := onOrders_ok.mp hx
    obtain ⟨h1, h2, h3, h4, rfl, rfl⟩ := (updateOrderPayment_ok hu hmem).mp hpay
    exact ⟨⟨h1, h2, h3, h4⟩, hk⟩
  · rintro ⟨h, hk⟩
    refine ⟨_, _, onOrders_ok.mpr ⟨_, (updateOrderPayment_ok hu hmem).mpr ?_, rfl⟩, hk⟩
    exact ⟨h.version, h.updated, h.transition, h.rowChecks, rfl, rfl⟩

def SettlementFacts.outboxEvent (s : SettlementFacts) (db : FinanceDb) : OutboxEvent :=
  newOutboxEvent (db.entropy (db.drawn + 3)) s.operation s.settled s.entry.facts.amountCents .PAYMENT_CONFIRMED
    ⟨s.paymentMatchId, s.candidateId, some s.evidence.typeName⟩ s.now

/-- The tables with the settlement; the exceptions are resolved last. -/
def SettlementFacts.recorded (s : SettlementFacts) (db : FinanceDb) : FinanceDb :=
  { db with
    orders := withPayment s.settled s.event db.orders
    ledger := withState s.entry .ALLOCATED s.now db.ledger
    paymentMatches := db.paymentMatches ++ [s.paymentMatch]
    transactions := db.transactions ++ [s.accounting.transaction db]
    postings := db.postings ++ [s.accounting.debit db] ++ [s.accounting.credit db]
    outbox := db.outbox ++ [s.outboxEvent db]
    drawn := db.drawn + 4 }

/-- What the schema checks before a settlement is recorded. -/
structure Settles (s : SettlementFacts) (db : FinanceDb) : Prop where
  posts : Posts s.accounting db
  supported : db.supportsMatch s.paymentMatch
  isNew : db.matchIsNew s.paymentMatch
  allocates : MayBecome s.entry .ALLOCATED s.now
  pays : MayPay s.order .CONFIRMED s.basis (some s.entry.facts.amountCents) s.now
  event : EventFits s.event { db.orders with orders := putOrder s.settled db.orders.orders }
  outboxSupported : (s.recorded db).supportsOutboxEvent (s.outboxEvent db)
  outboxNew : db.outboxEventIsNew (s.outboxEvent db)

theorem recordSettlement_ok {s : SettlementFacts} {u : Unit} (hu : UniqueOn (·.orderId) db.orders.orders)
    (horder : s.order ∈ db.orders.orders) (hue : UniqueOn (·.ledgerEntryId) db.ledger.entries)
    (hentry : s.entry ∈ db.ledger.entries) :
    recordSettlement s db = .ok (u, db') ↔ Settles s db ∧
      resolveEntryExceptions s.entry.ledgerEntryId s.operation s.resolution s.paymentMatchId s.now
        (s.recorded db) = .ok (u, db') := by
  unfold recordSettlement
  have hamount : s.settled.receivedAmountCents = some s.entry.facts.amountCents := rfl
  rw [statement_bind_ok postAccountingTransaction_ok, statement_bind_ok insertPaymentMatch_ok,
    setLedgerState_bind_ok, updateOrderPayment_bind_ok,
    statement_bind_ok (onOrders_statement insertOrderEvent_statement),
    statement_bind_ok (insertOutboxEvent_ok hamount)]
  · constructor
    · rintro ⟨hposts, ⟨hsupported, hnew⟩, hstate, hpays, hevent, ⟨hout, houtNew⟩, hx⟩
      exact ⟨⟨hposts, hsupported, hnew, hstate, hpays, hevent, hout, houtNew⟩, hx⟩
    · rintro ⟨⟨hposts, hsupported, hnew, hstate, hpays, hevent, hout, houtNew⟩, hx⟩
      exact ⟨hposts, ⟨hsupported, hnew⟩, hstate, hpays, hevent, ⟨hout, houtNew⟩, hx⟩
  · exact hu
  · exact horder
  · exact hue
  · exact hentry

/-! ## Financial operations -/

/-- What the schema checks before an operation is recorded. -/
structure OperationFits (row : FinancialOperation) (db : FinanceDb) : Prop where
  accepted : db.acceptsOperation row
  rowChecks : row.rowChecks
  references : (∀ orderId ∈ row.orderId, db.orders.orders.any fun o => o.orderId = orderId) ∧
    (∀ entryId ∈ row.ledgerEntryId, db.ledger.entries.any fun e => e.ledgerEntryId = entryId)
  isNew : db.operations.all fun o => o.financialOperationId ≠ row.financialOperationId &&
    o.operationKey ≠ row.operationKey &&
    (row.reversesOperationId.isNone || o.reversesOperationId ≠ row.reversesOperationId)

/-- The tables with one more operation. -/
def FinanceDb.withOperation (db : FinanceDb) (row : FinancialOperation) : FinanceDb :=
  { db with operations := db.operations ++ [row] }

theorem insertFinancialOperation_bind_ok {α : Type} {input : OperationInsert}
    {k : FinancialOperation → FinanceTx α} {r : α × FinanceDb} :
    (insertFinancialOperation pf input >>= k) db = .ok r ↔
      OperationFits (input.row pf) db ∧ k (input.row pf) (db.withOperation (input.row pf)) = .ok r := by
  obtain ⟨b, db'⟩ := r
  rw [bind_ok]
  unfold insertFinancialOperation
  constructor
  · rintro ⟨row, m, hx, hk⟩
    simp only [readWith_bind_ok, require_bind_ok, update_bind_ok, pure_ok, id] at hx
    obtain ⟨h1, h2, h3, h4, rfl, rfl⟩ := hx
    exact ⟨⟨h1, h2, h3, h4⟩, hk⟩
  · rintro ⟨h, hk⟩
    refine ⟨_, _, ?_, hk⟩
    simp only [readWith_bind_ok, require_bind_ok, update_bind_ok, pure_ok, id]
    exact ⟨h.accepted, h.rowChecks, h.references, h.isNew, trivial, rfl⟩

/-! ## The answer of a decision -/

theorem theOnly_ok {α : Type} {fault : Fault} {rows : List α} {a : α} :
    theOnly fault rows db = .ok (a, db') ↔ rows = [a] ∧ db' = db := by
  match rows with
  | [] => simp [theOnly, fail]
  | [b] =>
    rw [theOnly, pure_ok]
    simp [eq_comm]
  | _ :: _ :: _ => simp [theOnly, fail]

/-- The type of event that goes with a decision. -/
def decidedBy : FinancialOperationType → Option OrderEventType
  | .MANUAL_SETTLEMENT => some .PAYMENT_CONFIRMED
  | .REVERSE_SETTLEMENT => some .PAYMENT_DISPUTED
  | _ => none

theorem decisionEventType_ok {operationType : FinancialOperationType} {type : OrderEventType} :
    decisionEventType operationType db = .ok (type, db') ↔ decidedBy operationType = some type ∧ db' = db := by
  cases operationType with
  | MANUAL_SETTLEMENT =>
    rw [decisionEventType, pure_ok]
    simp [decidedBy, eq_comm]
  | REVERSE_SETTLEMENT =>
    rw [decisionEventType, pure_ok]
    simp [decidedBy, eq_comm]
  | AUTO_SETTLEMENT => simp [decisionEventType, decidedBy, fail]
  | SUPERSEDE_CANDIDATE => simp [decisionEventType, decidedBy, fail]
  | RECORD_REFUND => simp [decisionEventType, decidedBy, fail]

/-- What a decision answers: its match, and the version of the order that its one event names. -/
structure Answers (operation : FinancialOperation) (paymentMatchId : Uuid) (replayed : Bool)
    (result : FinancialDecisionResult) (db : FinanceDb) : Prop where
  found : ∃ m type event, readPaymentMatch db paymentMatchId = some m ∧
    decidedBy operation.operationType = some type ∧
    decisionEvents db operation.financialOperationId m.orderId type = [event] ∧
    event.occurredAt = operation.createdAt ∧
    result = { operation, paymentMatch := if replayed then replayedPaymentMatch m operation else m,
               orderId := m.orderId, ledgerEntryId := m.ledgerEntryId, orderVersion := event.sequence,
               replayed }

theorem decisionResult_ok {operation : FinancialOperation} {paymentMatchId : Uuid} {replayed : Bool}
    {result : FinancialDecisionResult} :
    decisionResult operation paymentMatchId replayed db = .ok (result, db') ↔
      Answers operation paymentMatchId replayed result db ∧ db' = db := by
  unfold decisionResult decisionOrderVersion
  simp only [readWith_bind_ok, orFail_bind_ok]
  constructor
  · rintro ⟨m, hm, hx⟩
    obtain ⟨version, m1, hversion, hresult⟩ := bind_ok.mp hx
    obtain ⟨type, m2, htype, hrows⟩ := bind_ok.mp hversion
    obtain ⟨hdecided, rfl⟩ := decisionEventType_ok.mp htype
    rw [readWith_bind_ok] at hrows
    obtain ⟨event, m3, honly, htime⟩ := bind_ok.mp hrows
    obtain ⟨hevent, rfl⟩ := theOnly_ok.mp honly
    obtain ⟨hoccurred, hsequence⟩ := require_bind_ok.mp htime
    obtain ⟨rfl, rfl⟩ := pure_ok.mp hsequence
    obtain ⟨rfl, rfl⟩ := pure_ok.mp hresult
    exact ⟨⟨m, type, event, hm, hdecided, hevent, hoccurred, rfl⟩, rfl⟩
  · rintro ⟨⟨m, type, event, hm, htype, hevent, htime, rfl⟩, rfl⟩
    refine ⟨m, hm, bind_ok.mpr ⟨event.sequence, db', ?_, rfl⟩⟩
    refine bind_ok.mpr ⟨type, db', decisionEventType_ok.mpr ⟨htype, rfl⟩, ?_⟩
    rw [readWith_bind_ok]
    refine bind_ok.mpr ⟨event, db', theOnly_ok.mpr ⟨hevent, rfl⟩, ?_⟩
    exact require_bind_ok.mpr ⟨htime, rfl⟩

/-! ## A recorded reversal -/

/-- A reversal whose operation is recorded. -/
structure ReversalFacts where
  operation : FinancialOperation
  paymentMatch : PaymentMatch
  entry : LedgerEntry
  order : PaymentOrder
  amount : Nat
  now : Nat
  deriving DecidableEq, Repr

def ReversalFacts.accounting (r : ReversalFacts) : AccountingInput :=
  reversalAccounting r.paymentMatch r.operation r.amount r.now

/-- The order row as the reversal leaves it. -/
def ReversalFacts.disputed (r : ReversalFacts) : PaymentOrder :=
  paid r.order .DISPUTED r.order.paymentBasis (some r.amount) r.now

def ReversalFacts.event (r : ReversalFacts) : OrderEvent :=
  ⟨r.order.orderId, r.order.version + 1, .PAYMENT_DISPUTED, r.now,
    .payment r.operation.financialOperationId r.paymentMatch.paymentMatchId none none⟩

def ReversalFacts.outboxEvent (r : ReversalFacts) (db : FinanceDb) : OutboxEvent :=
  newOutboxEvent (db.entropy (db.drawn + 3)) r.operation r.disputed r.amount .PAYMENT_DISPUTED
    ⟨r.paymentMatch.paymentMatchId, none, none⟩ r.now

/-- The tables with the reversal; the exception is recorded last. -/
def ReversalFacts.recorded (r : ReversalFacts) (db : FinanceDb) : FinanceDb :=
  { db with
    orders := withPayment r.disputed r.event db.orders
    ledger := withState r.entry .CONFLICT r.now db.ledger
    paymentMatches := withReversed r.paymentMatch r.operation.financialOperationId r.now db.paymentMatches
    transactions := db.transactions ++ [r.accounting.transaction db]
    postings := db.postings ++ [r.accounting.debit db] ++ [r.accounting.credit db]
    outbox := db.outbox ++ [r.outboxEvent db]
    drawn := db.drawn + 4 }

/-- What the schema checks before a reversal is recorded. -/
structure Reverses (r : ReversalFacts) (db : FinanceDb) : Prop where
  received : r.order.receivedAmountCents = some r.amount
  posts : Posts r.accounting db
  mayReverse : MayReverse r.paymentMatch r.operation r.now db
  conflicts : MayBecome r.entry .CONFLICT r.now
  pays : MayPay r.order .DISPUTED r.order.paymentBasis (some r.amount) r.now
  event : EventFits r.event { db.orders with orders := putOrder r.disputed db.orders.orders }
  outboxSupported : (r.recorded db).supportsOutboxEvent (r.outboxEvent db)
  outboxNew : db.outboxEventIsNew (r.outboxEvent db)

/-- The operation of a reversal, as it is recorded. -/
def reversalRow (pf : FinancePlatform) (input : FinancialDecisionInput) (m : PaymentMatch) (now : Nat) :
    FinancialOperation :=
  OperationInsert.row pf
    { financialOperationId := input.financialOperationId, operationKey := .admin input.financialOperationId,
      fingerprintInput := reversalOperation input m m.resolvedByOperationId, orderId := some m.orderId,
      ledgerEntryId := some m.ledgerEntryId, reversesOperationId := m.resolvedByOperationId,
      reason := some input.reason, now }

theorem recordReversal_ok {input : FinancialDecisionInput} {m : PaymentMatch} {entry : LedgerEntry}
    {order : PaymentOrder} {now : Nat} {result : FinancialDecisionResult}
    (hu : UniqueOn (·.orderId) db.orders.orders) (horder : order ∈ db.orders.orders)
    (hue : UniqueOn (·.ledgerEntryId) db.ledger.entries) (hentry : entry ∈ db.ledger.entries)
    (hum : UniqueOn (·.paymentMatchId) db.paymentMatches) (hm : m ∈ db.paymentMatches)
    (hsettled : m.status = .SETTLED) (hx : recordReversal pf input m entry order now db = .ok (result, db')) :
    ∃ amount exceptions drawn, OperationFits (reversalRow pf input m now) db ∧
      (∀ e ∈ exceptions, ExceptionFrom db.exceptions now e) ∧
      Reverses ⟨reversalRow pf input m now, m, entry, order, amount, now⟩
        (db.withOperation (reversalRow pf input m now)) ∧
      db' = { ReversalFacts.recorded ⟨reversalRow pf input m now, m, entry, order, amount, now⟩
                (db.withOperation (reversalRow pf input m now)) with exceptions := exceptions, drawn := drawn } ∧
      Answers (reversalRow pf input m now) m.paymentMatchId false result db' := by
  unfold recordReversal at hx
  rw [insertFinancialOperation_bind_ok] at hx
  obtain ⟨hfits, hx⟩ := hx
  unfold reversalRow
  generalize OperationInsert.row pf _ = operation at hfits hx ⊢
  obtain ⟨amount, hamount, hx⟩ := orFail_bind_ok.mp hx
  have hrow : disputed order now = paid order .DISPUTED order.paymentBasis (some amount) now := by
    rw [← hamount]; rfl
  have hreceived : (paid order .DISPUTED order.paymentBasis (some amount) now).receivedAmountCents = some amount :=
    rfl
  rw [hrow, statement_bind_ok postAccountingTransaction_ok, reversePaymentMatch_bind_ok,
    setLedgerState_bind_ok, updateOrderPayment_bind_ok,
    statement_bind_ok (onOrders_statement insertOrderEvent_statement),
    statement_bind_ok (insertOutboxEvent_ok hreceived)] at hx
  · obtain ⟨hposts, hmay, hstate, hpays, hevent, ⟨hout, houtNew⟩, hx⟩ := hx
    obtain ⟨e, m', he, hx⟩ := bind_ok.mp hx
    obtain ⟨exceptions, drawn, hfrom, rfl⟩ := ensureException_ok he
    obtain ⟨hanswers, rfl⟩ := decisionResult_ok.mp hx
    exact ⟨amount, exceptions, drawn, hfits, hfrom, ⟨hamount, hposts, ⟨hmay.recorded, hmay.times, hmay.newResolver⟩,
      hstate, hpays, hevent, hout, houtNew⟩, rfl, hanswers⟩
  · exact hu
  · exact horder
  · exact hue
  · exact hentry
  · exact hum
  · exact hm
  · exact hsettled

end PerPay.Finance
