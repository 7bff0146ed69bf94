/-
  **When a manual settlement commits** — the checks of the call against the checks of the schema.

  A settlement whose facts are eligible runs through some forty row checks, keys and triggers.  All of
  them follow from what holds in every reachable state (`Consistent`) and from fresh identifiers, but
  for two: the amount an order can have received is smaller than the amount an entry can have, and the
  entry was stamped by the clock of the ledger, which may be ahead of the financial clock.
-/
import PerPay.Finance.Recorded
import PerPay.Finance.Replay
import PerPay.Finance.Sourcing

namespace PerPay.Finance

open Txn Table Orders Ledger

variable {pf : FinancePlatform} {db db' : FinanceDb}

/-! ## What a decision can rely on -/

/-- The invariants of the tables. -/
structure Consistent (pf : FinancePlatform) (db : FinanceDb) : Prop where
  keys : Keys db
  books : FinanceInv db
  traced : Traced db
  sourced : OutboxInv pf db
  stamped : Stamped db.orders.clock db
  recorded : Recorded db

theorem Consistent.reachable (hr : Runs.Reachable (financeStore pf) db) : Consistent pf db :=
  ⟨.reachable hr, .reachable hr, .reachable hr, .reachable hr, .reachable hr, .reachable hr⟩

theorem Consistent.move (h : Consistent pf db) (hm : Move pf db db') : Consistent pf db' :=
  ⟨h.keys.move hm, h.books.move h.keys hm, h.traced.move hm, h.sourced.move hm, h.stamped.move hm,
    h.recorded.move h.keys hm⟩

theorem Consistent.moves (h : Consistent pf db) (hm : Moves pf db db') : Consistent pf db' :=
  hm.invariant (fun h hs => h.move hs) h

/-- The identifiers still to be drawn: no two alike, none in a table, and none the one of the call. -/
structure Fresh (operationId : Uuid) (db : FinanceDb) : Prop where
  distinct : ∀ i j, db.entropy i = db.entropy j → i = j
  request : ∀ n ≥ db.drawn, db.entropy n ≠ operationId
  operations : ∀ n ≥ db.drawn, ∀ o ∈ db.operations, o.financialOperationId ≠ db.entropy n
  paymentMatches : ∀ n ≥ db.drawn, ∀ m ∈ db.paymentMatches, m.paymentMatchId ≠ db.entropy n
  transactions : ∀ n ≥ db.drawn, ∀ t ∈ db.transactions, t.ledgerTransactionId ≠ db.entropy n
  postings : ∀ n ≥ db.drawn, ∀ p ∈ db.postings, p.postingId ≠ db.entropy n
  outbox : ∀ n ≥ db.drawn, ∀ x ∈ db.outbox, x.outboxEventId ≠ db.entropy n

/-- The tables are consistent, and nothing has used the identifiers of the call. -/
structure Ready (pf : FinancePlatform) (operationId : Uuid) (db : FinanceDb) : Prop extends
    Consistent pf db, Fresh operationId db where
  unused : ∀ o ∈ db.operations, o.financialOperationId ≠ operationId

theorem Fresh.drew {operationId : Uuid} (h : Fresh operationId db) (n : Nat) : Fresh operationId (db.drew n) where
  distinct := h.distinct
  request k hk := h.request k (Nat.le_of_add_right_le hk)
  operations k hk := h.operations k (Nat.le_of_add_right_le hk)
  paymentMatches k hk := h.paymentMatches k (Nat.le_of_add_right_le hk)
  transactions k hk := h.transactions k (Nat.le_of_add_right_le hk)
  postings k hk := h.postings k (Nat.le_of_add_right_le hk)
  outbox k hk := h.outbox k (Nat.le_of_add_right_le hk)

/-! ## Superseding the candidates of the entry -/

/-- The operation that supersedes a candidate. -/
def supersedingRow (pf : FinancePlatform) (operationId : Uuid) (c : MatchCandidate) (now : Nat) : FinancialOperation :=
  OperationInsert.row pf
    { financialOperationId := operationId, operationKey := .supersede c.candidateId,
      fingerprintInput :=
        { operationType := .SUPERSEDE_CANDIDATE, actorType := .SYSTEM, actorId := none,
          orderId := some c.orderId, ledgerEntryId := some c.ledgerEntryId,
          candidateId := some c.candidateId, paymentMatchId := none, reversesOperationId := none,
          reason := none },
      orderId := some c.orderId, ledgerEntryId := some c.ledgerEntryId,
      reversesOperationId := none, reason := none, now }

theorem supersedingRow_fits (h : Recorded db) {c : MatchCandidate} (hmem : c ∈ db.candidates)
    (heligible : c.status = .ELIGIBLE) {operationId : Uuid} (hnew : ∀ o ∈ db.operations, o.financialOperationId ≠ operationId)
    (now : Nat) : OperationFits (supersedingRow pf operationId c now) db := by
  obtain ⟨⟨o, ho, horder⟩, e, he, hentry⟩ := h.candidates c hmem
  refine ⟨rfl, rfl, ⟨fun orderId hid => ?_, fun entryId hid => ?_⟩, List.all_eq_true.mpr fun x hx => ?_⟩
  · exact List.any_eq_true.mpr ⟨o, ho, decide_eq_true (horder.trans (Option.some.inj hid))⟩
  · exact List.any_eq_true.mpr ⟨e, he, decide_eq_true (hentry.trans (Option.some.inj hid))⟩
  · -- an operation of the same key would have decided the candidate
    have hkey : x.operationKey ≠ .supersede c.candidateId := by
      intro hkey
      have hkeyed := h.keys x hx
      unfold FinanceDb.Keyed at hkeyed
      rw [hkey] at hkeyed
      obtain ⟨c', hc', hid, hnot⟩ := hkeyed
      obtain rfl := h.candidateIds.eq hc' hmem hid
      exact hnot heligible
    simp only [Bool.and_eq_true, decide_eq_true_eq]
    exact ⟨⟨hnew x hx, hkey⟩, rfl⟩

/-- The one eligible candidate of its identifier. -/
theorem find?_eligible (h : UniqueOn (·.candidateId) db.candidates) {c : MatchCandidate} (hmem : c ∈ db.candidates)
    (heligible : c.status = .ELIGIBLE) :
    (db.candidates.find? fun x => x.candidateId = c.candidateId && x.status = .ELIGIBLE) = some c := by
  cases hf : db.candidates.find? fun x => x.candidateId = c.candidateId && x.status = .ELIGIBLE with
  | none =>
    have hnone := List.find?_eq_none.mp hf c hmem
    simp [heligible] at hnone
  | some x =>
    have hx := List.find?_some hf
    simp only [Bool.and_eq_true, decide_eq_true_eq] at hx
    rw [h.eq (List.mem_of_find?_eq_some hf) hmem hx.1]

theorem decideCandidate_superseded {c : MatchCandidate} {operation : FinancialOperation} {action : String}
    (hfound : (db.candidates.find? fun x => x.candidateId = c.candidateId && x.status = .ELIGIBLE) = some c)
    (hrow : operation ∈ db.operations) (horder : operation.orderId = some c.orderId)
    (hentry : operation.ledgerEntryId = some c.ledgerEntryId) (htype : operation.operationType = .SUPERSEDE_CANDIDATE)
    (htimes : c.updatedAt ≤ operation.createdAt ∧ c.createdAt ≤ operation.createdAt)
    (hnew : ∀ x ∈ db.candidates, x.decidedByOperationId ≠ some operation.financialOperationId) :
    decideCandidate c.candidateId .SUPERSEDED operation operation.createdAt action db =
      .ok ((), db.withDecided c.candidateId .SUPERSEDED operation) := by
  unfold decideCandidate
  rw [readWith_bind, id, hfound, bind_of_ok (orFail_ok.mpr ⟨rfl, rfl⟩), require_bind_met (.inr rfl), require_bind_met,
    require_bind_met htimes, require_bind_met]
  · rfl
  · exact List.all_eq_true.mpr fun x hx => decide_eq_true (hnew x hx)
  · refine List.any_eq_true.mpr ⟨operation, hrow, ?_⟩
    simp [horder, hentry, htype]

theorem supersedeCandidate_succeeds {operationId : Uuid} (h : Ready pf operationId db) {c : MatchCandidate}
    (hmem : c ∈ db.candidates) (heligible : c.status = .ELIGIBLE) :
    ∃ db', supersedeCandidate pf db.orders.clock c db = .ok ((), db') ∧ Ready pf operationId db' ∧
      Beside pf db db' ∧ db'.paymentMatches = db.paymentMatches ∧
      ∀ x ∈ db.candidates, x.candidateId ≠ c.candidateId → x ∈ db'.candidates := by
  have hnew : ∀ o ∈ db.operations, o.financialOperationId ≠ db.entropy db.drawn := h.operations db.drawn le_rfl
  have hfits : OperationFits (supersedingRow pf (db.entropy db.drawn) c db.orders.clock) (db.drew 1) :=
    { supersedingRow_fits h.recorded hmem heligible hnew db.orders.clock with }
  generalize hrow : supersedingRow pf (db.entropy db.drawn) c db.orders.clock = row at hfits
  have hid : row.financialOperationId = db.entropy db.drawn := by rw [← hrow]; rfl
  have hclock : row.createdAt = db.orders.clock := by rw [← hrow]; rfl
  have hdecided : ∀ x ∈ db.candidates, x.decidedByOperationId ≠ some row.financialOperationId := by
    intro x hx he
    obtain ⟨o, ho, hoid⟩ := h.recorded.decided x hx _ he
    exact hnew o ho (hoid.trans hid)
  have htimes := h.stamped.candidates c hmem
  have hstep : Move pf (db.drew 1) (((db.drew 1).withOperation row).withDecided c.candidateId .SUPERSEDED row) :=
    .superseded c row hmem hfits hclock (by rw [← hrow]; rfl)
  have hbeside : Beside pf db (((db.drew 1).withOperation row).withDecided c.candidateId .SUPERSEDED row) :=
    (Beside.drew db 1).trans ⟨.single hstep, rfl, rfl⟩
  refine ⟨_, ?_, ⟨h.toConsistent.moves hbeside.moves, { h.toFresh.drew 1 with operations := ?_ }, ?_⟩, hbeside, rfl,
    fun x hx hne => ?_⟩
  · unfold supersedeCandidate
    rw [randomUUID_bind_ok, insertFinancialOperation_bind_ok]
    rw [← hclock] at htimes ⊢
    subst hrow
    exact ⟨hfits, decideCandidate_superseded (find?_eligible h.recorded.candidateIds hmem heligible)
      (mem_withOperation _ _) rfl rfl rfl ⟨htimes.2.1, htimes.1⟩ hdecided⟩
  · intro n hn
    refine forall_mem_append_singleton (fun o ho => h.operations n (Nat.le_of_add_right_le hn) o ho) ?_
    rw [hid]
    intro he
    have hn' : db.drawn + 1 ≤ n := hn
    have := h.distinct _ _ he
    omega
  · exact forall_mem_append_singleton h.unused (hid ▸ h.request db.drawn le_rfl)
  · exact mem_updateWhere.mpr (.inr ⟨hx, by simp [hne]⟩)

/-- The candidates are superseded one after the other; the others stay as they are. -/
theorem forEach_supersedeCandidate_succeeds {operationId : Uuid} :
    ∀ {stale : List MatchCandidate} {db : FinanceDb}, Ready pf operationId db →
      (∀ c ∈ stale, c ∈ db.candidates ∧ c.status = .ELIGIBLE) → stale.Pairwise (fun a b => a.candidateId ≠ b.candidateId) →
      ∃ db', forEach (supersedeCandidate pf db.orders.clock) stale db = .ok ((), db') ∧ Ready pf operationId db' ∧
        Beside pf db db' ∧ db'.paymentMatches = db.paymentMatches
  | [], db, h, _, _ => ⟨db, rfl, h, .refl db, rfl⟩
  | c :: stale, db, h, hmem, hdistinct => by
    obtain ⟨hfirst, hrest⟩ := List.pairwise_cons.mp hdistinct
    obtain ⟨hc, heligible⟩ := hmem c (List.mem_cons_self ..)
    obtain ⟨d, hx, hready, hbeside, hmatches, hkept⟩ := supersedeCandidate_succeeds h hc heligible
    have hmem' : ∀ x ∈ stale, x ∈ d.candidates ∧ x.status = .ELIGIBLE := by
      intro x hxs
      obtain ⟨hxmem, hxe⟩ := hmem x (List.mem_cons_of_mem _ hxs)
      exact ⟨hkept x hxmem (hfirst x hxs).symm, hxe⟩
    obtain ⟨d', hxs, hready', hbeside', hmatches'⟩ := forEach_supersedeCandidate_succeeds hready hmem' hrest
    rw [hbeside.orders] at hxs
    exact ⟨d', (bind_of_ok hx).trans hxs, hready', hbeside.trans hbeside', hmatches'.trans hmatches⟩

theorem supersedeStaleEligibleCandidates_succeeds {operationId : Uuid} (h : Ready pf operationId db)
    (entry : LedgerEntry) (activeCandidateIds : List Uuid) :
    ∃ db', supersedeStaleEligibleCandidates pf entry activeCandidateIds db.orders.clock db = .ok ((), db') ∧
      Ready pf operationId db' ∧ Beside pf db db' ∧ db'.paymentMatches = db.paymentMatches := by
  refine forEach_supersedeCandidate_succeeds h (fun c hc => ?_) ?_
  · obtain ⟨hmem, hkey⟩ := List.mem_filter.mp hc
    simp only [Bool.and_eq_true, decide_eq_true_eq] at hkey
    exact ⟨hmem, hkey.1.2⟩
  · exact (List.pairwise_map.mp h.recorded.candidateIds).filter _

/-! ## The rows of the settlement -/

/-- The operation of a manual settlement. -/
def manualRow (pf : FinancePlatform) (input : ManualSettlementInput) (paymentMatchId : Uuid) (entry : LedgerEntry)
    (order : PaymentOrder) (now : Nat) : FinancialOperation :=
  OperationInsert.row pf
    { financialOperationId := input.financialOperationId, operationKey := .admin input.financialOperationId,
      fingerprintInput := manualOperation input paymentMatchId, orderId := some order.orderId,
      ledgerEntryId := some entry.ledgerEntryId, reversesOperationId := none, reason := input.reason, now }

section settlement
variable {input : ManualSettlementInput} {entry : LedgerEntry} {order : PaymentOrder} {paymentMatchId : Uuid}

theorem manualRow_fits (h : Ready pf input.financialOperationId db) (horder : order ∈ db.orders.orders)
    (hentry : entry ∈ db.ledger.entries) (now : Nat) :
    OperationFits (manualRow pf input paymentMatchId entry order now) db := by
  refine ⟨rfl, rfl, ⟨fun orderId hid => ?_, fun entryId hid => ?_⟩, List.all_eq_true.mpr fun o ho => ?_⟩
  · exact List.any_eq_true.mpr ⟨order, horder, decide_eq_true (Option.some.inj hid)⟩
  · exact List.any_eq_true.mpr ⟨entry, hentry, decide_eq_true (Option.some.inj hid)⟩
  · have hkey : o.operationKey ≠ .admin input.financialOperationId := by
      intro hkey
      have hkeyed := h.recorded.keys o ho
      unfold FinanceDb.Keyed at hkeyed
      rw [hkey] at hkeyed
      exact h.unused o ho hkeyed
    simp only [Bool.and_eq_true, decide_eq_true_eq]
    exact ⟨⟨h.unused o ho, hkey⟩, rfl⟩

/-- The facts of an eligible settlement. -/
structure Eligible (entry : LedgerEntry) (order : PaymentOrder) (db : FinanceDb) : Prop where
  orderMem : order ∈ db.orders.orders
  entryMem : entry ∈ db.ledger.entries
  credit : entry.facts.direction = .CREDIT
  state : entry.state = .UNALLOCATED ∨ entry.state = .CANDIDATE ∨ entry.state = .CONFLICT
  unpaid : order.paymentStatus = .UNPAID ∧ order.paymentBasis = .NONE

/-- The two conditions that the schema adds to the eligibility of the facts. -/
structure Acceptable (entry : LedgerEntry) (now : Nat) : Prop where
  amount : entry.facts.amountCents ≤ 9_999_999_999
  stamped : entry.updatedAt ≤ now

theorem Eligible.notAllocated (h : Eligible entry order db) : entry.state ≠ .ALLOCATED := by
  rcases h.state with hs | hs | hs <;> · rw [hs]; nofun

theorem Eligible.received (h : Eligible entry order db) (hr : Recorded db) : order.receivedAmountCents = none := by
  have hrow := (hr.orders order h.orderMem).1
  unfold PaymentOrder.rowChecks at hrow
  simp only [Bool.and_eq_true, h.unpaid.1, h.unpaid.2] at hrow
  cases hreceived : order.receivedAmountCents with
  | none => rfl
  | some amount => simp [hreceived] at hrow

/-- An unpaid row takes a payment of an amount in range. -/
theorem paid_rowChecks {amount now : Nat} (h : order.rowChecks) (hupdated : order.updatedAt ≤ now)
    (hamount : 0 < amount ∧ amount ≤ 9_999_999_999) : (paid order .CONFIRMED .MANUAL (some amount) now).rowChecks := by
  unfold PaymentOrder.rowChecks paid at *
  simp only [Bool.and_eq_true, decide_eq_true_eq] at h ⊢
  obtain ⟨⟨⟨⟨⟨⟨hcooldown, -⟩, heligible⟩, hexpires⟩, hcreated⟩, hend⟩, -⟩ := h
  exact ⟨⟨⟨⟨⟨⟨hcooldown, hamount⟩, heligible⟩, hexpires⟩, hcreated.trans hupdated⟩, hend⟩, trivial⟩

variable {row : FinancialOperation} {now : Nat}

/-- The operation of the settlement, as the triggers look it up. -/
structure Manual (row : FinancialOperation) (operationId : Uuid) (entry : LedgerEntry) (order : PaymentOrder) : Prop where
  id : row.financialOperationId = operationId
  orderId : row.orderId = some order.orderId
  ledgerEntryId : row.ledgerEntryId = some entry.ledgerEntryId
  type : row.operationType = .MANUAL_SETTLEMENT

theorem postingsOf_posted {a : AccountingInput} (h : ∀ p ∈ db.postings, p.ledgerTransactionId ≠ db.entropy db.drawn) :
    (a.posted db).postingsOf (db.entropy db.drawn) = [a.debit db, a.credit db] := by
  have hnone : db.postings.filter (fun p => p.ledgerTransactionId = db.entropy db.drawn) = [] :=
    List.filter_eq_nil_iff.mpr fun p hp => by simp [h p hp]
  show List.filter _ (db.postings ++ [a.debit db] ++ [a.credit db]) = _
  rw [filter_append_in (r := a.credit db) (decide_eq_true rfl), filter_append_in (r := a.debit db) (decide_eq_true rfl), hnone]
  rfl

theorem manual_posts (h : Ready pf input.financialOperationId db) (he : Eligible entry order db)
    (hrow : Manual row input.financialOperationId entry order) :
    Posts (manualSettlement input entry order row paymentMatchId now).accounting (db.withOperation row) := by
  have hposting : ∀ p ∈ db.postings, p.ledgerTransactionId ≠ db.entropy db.drawn := by
    intro p hp hid
    obtain ⟨t, ht, htid⟩ := h.books.postingTransaction p hp
    exact h.transactions db.drawn le_rfl t ht (htid.trans hid)
  constructor
  · refine List.any_eq_true.mpr ⟨row, mem_withOperation row db, ?_⟩
    simp [SettlementFacts.accounting, manualSettlement, hrow.orderId, hrow.ledgerEntryId, hrow.type,
      TransactionType.recordedBy, FinancialOperationType.settles]
  · intro t ht
    refine ⟨h.transactions db.drawn le_rfl t ht, fun hid => ?_⟩
    obtain ⟨o, ho, hoid⟩ := h.recorded.transactions t ht
    exact h.unused o ho (hoid.trans (hid.trans hrow.id))
  · exact h.recorded.entries entry he.entryMem
  · refine List.all_eq_true.mpr fun p hp => ?_
    simp only [Bool.and_eq_true, decide_eq_true_eq, Bool.not_eq_true', Bool.and_eq_false_imp]
    exact ⟨h.postings (db.drawn + 1) (Nat.le_add_right ..) p hp, fun hid => absurd hid.1 (hposting p hp)⟩
  · refine List.all_eq_true.mpr (forall_mem_append_singleton (fun p hp => ?_) ?_)
    · simp only [Bool.and_eq_true, decide_eq_true_eq, Bool.not_eq_true', Bool.and_eq_false_imp]
      exact ⟨h.postings (db.drawn + 2) (Nat.le_add_right ..) p hp, fun hid => absurd hid.1 (hposting p hp)⟩
    · simp only [Bool.and_eq_true, decide_eq_true_eq, Bool.not_eq_true', Bool.and_eq_false_imp]
      refine ⟨fun hid => ?_, fun hkey => by cases hkey.2⟩
      have := h.distinct (db.drawn + 1) (db.drawn + 2) hid
      omega
  · have hpostings : ((manualSettlement input entry order row paymentMatchId now).accounting.posted
          (db.withOperation row)).postingsOf (db.entropy db.drawn) =
        [(manualSettlement input entry order row paymentMatchId now).accounting.debit (db.withOperation row),
          (manualSettlement input entry order row paymentMatchId now).accounting.credit (db.withOperation row)] :=
      postingsOf_posted hposting
    have hsides : ∀ side : PostingSide, sideTotal side [(manualSettlement input entry order row paymentMatchId now).accounting.debit
          (db.withOperation row), (manualSettlement input entry order row paymentMatchId now).accounting.credit
          (db.withOperation row)] = entry.facts.amountCents := fun side => by cases side <;> rfl
    unfold FinanceDb.balanced
    rw [show (AccountingInput.draft _ ((db.withOperation row).entropy (db.withOperation row).drawn)).ledgerTransactionId =
      db.entropy db.drawn from rfl]
    simp only [Bool.and_eq_true, decide_eq_true_eq]
    have hentry : entry ∈ (db.withOperation row).ledger.entries := he.entryMem
    refine ⟨⟨?_, ?_⟩, List.any_eq_true.mpr ⟨entry, hentry, ?_⟩⟩
    · exact (congrArg _ hpostings).trans ((hsides _).trans ((hsides _).symm.trans (congrArg _ hpostings.symm)))
    · exact (congrArg _ hpostings).trans rfl
    · have hdebit : (AccountingInput.debit (manualSettlement input entry order row paymentMatchId now).accounting
          (db.withOperation row)).accountCode = .PROVIDER_CASH := rfl
      have hcredit : (AccountingInput.credit (manualSettlement input entry order row paymentMatchId now).accounting
          (db.withOperation row)).accountCode = .ORDER_SETTLEMENT := rfl
      show (_ && (_ && _)) = true
      rw [hpostings]
      simp only [Bool.and_eq_true, decide_eq_true_eq, List.any_cons, List.any_nil, hdebit, hcredit, Bool.or_eq_true]
      exact ⟨⟨rfl, he.credit⟩, .inl ⟨⟨trivial, rfl⟩, rfl⟩, .inr (.inl ⟨⟨trivial, rfl⟩, rfl⟩)⟩

theorem manual_supported (he : Eligible entry order db) (hrow : Manual row input.financialOperationId entry order) :
    (db.withOperation row).supportsMatch (manualSettlement input entry order row paymentMatchId now).paymentMatch := by
  refine List.any_eq_true.mpr ⟨row, mem_withOperation row db, List.any_eq_true.mpr ⟨entry, he.entryMem,
    List.any_eq_true.mpr ⟨order, he.orderMem, ?_⟩⟩⟩
  have hmanual : supportsManualMatch (manualSettlement input entry order row paymentMatchId now).paymentMatch entry = true := by
    unfold supportsManualMatch
    simp only [Bool.and_eq_true, Bool.or_eq_true, decide_eq_true_eq, or_assoc]
    exact ⟨⟨he.state, rfl⟩, rfl⟩
  simp only [Bool.and_eq_true, Bool.or_eq_true, decide_eq_true_eq]
  exact ⟨⟨⟨⟨⟨⟨⟨⟨rfl, rfl⟩, rfl⟩, rfl⟩, rfl⟩, hrow.orderId⟩, hrow.ledgerEntryId⟩, rfl⟩, .inr ⟨hrow.type, hmanual⟩⟩

theorem manual_isNew (h : Ready pf input.financialOperationId db) (he : Eligible entry order db)
    (hrow : Manual row input.financialOperationId entry order)
    (hmatchId : ∀ m ∈ db.paymentMatches, m.paymentMatchId ≠ paymentMatchId) :
    (db.withOperation row).matchIsNew (manualSettlement input entry order row paymentMatchId now).paymentMatch := by
  have hother : ∀ {id : Uuid}, db.HasOperation id → id ≠ row.financialOperationId := by
    rintro id ⟨o, ho, hoid⟩ hid
    exact h.unused o ho (hoid.trans (hid.trans hrow.id))
  refine List.all_eq_true.mpr fun m hm => ?_
  have hsettled : m.status = .SETTLED → ¬ (m.ledgerEntryId = entry.ledgerEntryId ∨ m.orderId = order.orderId) := by
    rintro hs (hentry | horder)
    · exact he.notAllocated ((h.books.allocated entry he.entryMem).mpr ⟨m, hm, hentry, hs⟩)
    · -- an unpaid order has no match
      cases h.books.books order he.orderMem with
      | unpaid _ hnone =>
        have hmem : m ∈ db.matchesOf order.orderId := List.mem_filter.mpr ⟨hm, decide_eq_true horder⟩
        rw [hnone] at hmem
        cases hmem
      | confirmed x e hstatus => rw [he.unpaid.1] at hstatus; cases hstatus
      | disputed x hstatus => rw [he.unpaid.1] at hstatus; cases hstatus
  obtain ⟨hcreated, hresolved⟩ := h.recorded.paymentMatches m hm
  simp only [Bool.and_eq_true, decide_eq_true_eq, Bool.or_eq_true, Bool.not_eq_true', Bool.and_eq_false_imp,
    Bool.or_eq_false_iff, decide_eq_false_iff_not]
  refine ⟨⟨⟨⟨hmatchId m hm, .inl rfl⟩, hother hcreated⟩, .inr fun hid => ?_⟩, fun hs => ?_⟩
  · exact hother (hresolved _ hid) rfl
  · exact not_or.mp (hsettled hs.1)

theorem manual_pays (h : Consistent pf db) (he : Eligible entry order db) (hnow : db.orders.clock ≤ now)
    (hacceptable : Acceptable entry now) :
    MayPay order .CONFIRMED .MANUAL (some entry.facts.amountCents) now := by
  obtain ⟨hrow, hversion⟩ := h.recorded.orders order he.orderMem
  have hupdated : order.updatedAt ≤ now := (h.stamped.orders.orders order he.orderMem).2.2.1.trans hnow
  refine ⟨?_, hupdated, ?_, paid_rowChecks hrow hupdated ⟨(h.recorded.entries entry he.entryMem).1, hacceptable.amount⟩⟩
  · have := stageOf_le order
    rw [hversion]
    unfold maxSafeInteger
    omega
  · simp [paymentTransition, paid, he.unpaid, he.received h.recorded]

theorem manual_event (h : Consistent pf db) (he : Eligible entry order db) :
    EventFits (manualSettlement input entry order row paymentMatchId now).event
      { db.orders with
        orders := putOrder (manualSettlement input entry order row paymentMatchId now).settled db.orders.orders } := by
  constructor
  · refine List.any_eq_true.mpr ⟨_, mem_putOrder_self he.orderMem rfl, ?_⟩
    simp [OrderEvent.describes, SettlementFacts.settled, SettlementFacts.event, manualSettlement, paid]
  · refine List.all_eq_true.mpr fun e hmem => ?_
    simp only [Bool.not_eq_true', Bool.and_eq_false_imp, decide_eq_true_eq, decide_eq_false_iff_not]
    intro hid hsequence
    -- the events of the order are numbered up to its version
    have hof : e ∈ db.orders.eventsOf order.orderId := List.mem_filter.mpr ⟨hmem, decide_eq_true hid⟩
    have hrange := List.mem_map_of_mem (f := (·.sequence)) hof
    rw [(h.sourced.events.versioned order he.orderMem).sequences, List.mem_range'_1, hsequence] at hrange
    have : order.version + 1 < 1 + order.version := hrange.2
    omega

theorem manual_outboxSupported (he : Eligible entry order db)
    (hrow : Manual row input.financialOperationId entry order) :
    ((manualSettlement input entry order row paymentMatchId now).recorded (db.withOperation row)).supportsOutboxEvent
      ((manualSettlement input entry order row paymentMatchId now).outboxEvent (db.withOperation row)) := by
  refine List.any_eq_true.mpr ⟨(manualSettlement input entry order row paymentMatchId now).settled,
    mem_putOrder_self he.orderMem rfl, ?_⟩
  have hoperation : ((db.withOperation row).operations.any fun o => o.financialOperationId = row.financialOperationId &&
      o.orderId = some order.orderId && ((manualSettlement input entry order row paymentMatchId now).settled.paymentStatus =
        .CONFIRMED && o.operationType.settles)) = true := by
    refine List.any_eq_true.mpr ⟨row, mem_withOperation row db, ?_⟩
    simp [hrow.orderId, hrow.type, FinancialOperationType.settles, SettlementFacts.settled, paid]
  simp only [Bool.and_eq_true, decide_eq_true_eq]
  exact ⟨⟨⟨rfl, rfl⟩, rfl⟩, hoperation⟩

theorem manual_outboxNew (h : Ready pf input.financialOperationId db) (he : Eligible entry order db)
    (hrow : Manual row input.financialOperationId entry order) :
    (db.withOperation row).outboxEventIsNew
      ((manualSettlement input entry order row paymentMatchId now).outboxEvent (db.withOperation row)) := by
  intro x hx
  refine ⟨h.outbox (db.drawn + 3) (Nat.le_add_right ..) x hx, fun hid => ?_, fun ⟨hid, hversion, _⟩ => ?_⟩
  · obtain ⟨o, ho, hoid⟩ := h.recorded.outbox x hx
    exact h.unused o ho (hoid.trans (hid.trans hrow.id))
  · have hle := h.sourced.version_le he.orderMem hx hid
    have hnext : x.aggregateVersion = order.version + 1 := hversion
    omega

/-- **The two conditions are what the schema adds.** -/
theorem manual_settles (h : Ready pf input.financialOperationId db) (he : Eligible entry order db)
    (hrow : Manual row input.financialOperationId entry order) (hnow : db.orders.clock ≤ now)
    (hmatchId : ∀ m ∈ db.paymentMatches, m.paymentMatchId ≠ paymentMatchId) :
    Settles (manualSettlement input entry order row paymentMatchId now) (db.withOperation row) ↔ Acceptable entry now := by
  constructor
  · intro hs
    have hrowChecks := hs.pays.rowChecks
    constructor
    · unfold PaymentOrder.rowChecks at hrowChecks
      simp only [Bool.and_eq_true, decide_eq_true_eq] at hrowChecks
      have hreceived : (1 ≤ entry.facts.amountCents && entry.facts.amountCents ≤ 9999999999 : Bool) = true :=
        hrowChecks.1.1.1.1.1.2
      simp only [Bool.and_eq_true, decide_eq_true_eq] at hreceived
      exact hreceived.2
    · rcases hs.allocates with hstate | hmay
      · exact absurd hstate he.notAllocated
      · exact hmay.2
  · intro hacceptable
    have hevent : EventFits (manualSettlement input entry order row paymentMatchId now).event { db.orders with
        orders := putOrder (manualSettlement input entry order row paymentMatchId now).settled db.orders.orders } :=
      manual_event h.toConsistent he
    refine ⟨manual_posts h he hrow, manual_supported he hrow, manual_isNew h he hrow hmatchId,
      .inr ⟨?_, hacceptable.stamped⟩, manual_pays h.toConsistent he hnow hacceptable, hevent,
      manual_outboxSupported he hrow, manual_outboxNew h he hrow⟩
    show entryTransition entry.state .ALLOCATED = true
    rcases he.state with hs | hs | hs <;> · rw [hs]; rfl

/-! ## After the settlement -/

/-- The first rows resolved are the open ones of the entry and of no other order. -/
theorem mayResolve_own {d : FinanceDb} {e : FinancialException} {resolution : ExceptionResolution}
    (hrow : Manual row input.financialOperationId entry order) (hmem : row ∈ d.operations) (hnow : row.createdAt = now)
    (hopen : e.status = .OPEN) (hcreated : e.createdAt ≤ now) (hentry : e.ledgerEntryId = some entry.ledgerEntryId)
    (horder : e.orderId.isNone ∨ e.orderId = row.orderId) : d.mayResolve e row.financialOperationId resolution now := by
  unfold FinanceDb.mayResolve
  simp only [Bool.and_eq_true, decide_eq_true_eq, List.any_eq_true, Bool.or_eq_true]
  refine ⟨⟨hopen, hcreated⟩, row, hmem, ⟨⟨⟨rfl, hrow.ledgerEntryId.trans hentry.symm⟩, .inl ?_⟩, hnow⟩, ?_⟩
  · exact horder.imp id Eq.symm
  · rw [hrow.type]; rfl

/-- The others are superseded by the new match. -/
theorem mayResolve_other {d : FinanceDb} {e : FinancialException} {m : PaymentMatch}
    (hrow : Manual row input.financialOperationId entry order) (hmem : row ∈ d.operations) (hnow : row.createdAt = now)
    (hm : m ∈ d.paymentMatches) (hmatch : m.ledgerEntryId = entry.ledgerEntryId ∧ m.orderId = order.orderId ∧
      m.createdByOperationId = row.financialOperationId)
    (hopen : e.status = .OPEN) (hcreated : e.createdAt ≤ now) (hentry : e.ledgerEntryId = some entry.ledgerEntryId) :
    d.mayResolve e row.financialOperationId ⟨"superseded_by_settlement", m.paymentMatchId⟩ now := by
  have hsettles : row.operationType.settles = true := by rw [hrow.type]; rfl
  unfold FinanceDb.mayResolve
  simp only [Bool.and_eq_true, decide_eq_true_eq, List.any_eq_true, Bool.or_eq_true]
  refine ⟨⟨hopen, hcreated⟩, row, hmem, ⟨⟨⟨rfl, hrow.ledgerEntryId.trans hentry.symm⟩, .inr ⟨⟨hsettles, trivial⟩, m, hm,
    ⟨⟨⟨rfl, ?_⟩, ?_⟩, hmatch.2.2⟩⟩⟩, hnow⟩, hsettles⟩
  · rw [hmatch.1, hrow.ledgerEntryId]
  · rw [hmatch.2.1, hrow.orderId]

theorem resolveEntryExceptions_succeeds {d : FinanceDb} {m : PaymentMatch} {resolution : String}
    (hrow : Manual row input.financialOperationId entry order) (hmem : row ∈ d.operations) (hnow : row.createdAt = now)
    (hm : m ∈ d.paymentMatches) (hmatch : m.ledgerEntryId = entry.ledgerEntryId ∧ m.orderId = order.orderId ∧
      m.createdByOperationId = row.financialOperationId)
    (hcreated : ∀ e ∈ d.exceptions, e.createdAt ≤ now) :
    ∃ d', resolveEntryExceptions entry.ledgerEntryId row resolution m.paymentMatchId now d = .ok ((), d') := by
  have hsettles : row.operationType.settles = true := by rw [hrow.type]; rfl
  have hfirst : (d.exceptions.filter fun e => e.ledgerEntryId = some entry.ledgerEntryId && e.status = .OPEN &&
      (e.orderId.isNone || e.orderId = row.orderId)).all
        fun e => d.mayResolve e row.financialOperationId ⟨resolution, m.paymentMatchId⟩ now := by
    refine List.all_eq_true.mpr fun e he => ?_
    obtain ⟨hmem', hkey⟩ := List.mem_filter.mp he
    simp only [Bool.and_eq_true, Bool.or_eq_true, decide_eq_true_eq] at hkey
    exact mayResolve_own hrow hmem hnow hkey.1.2 (hcreated e hmem') hkey.1.1 hkey.2
  unfold resolveEntryExceptions
  rw [if_pos hsettles, bind_of_ok ((resolveExceptions_ok () _).mpr ⟨hfirst, rfl⟩)]
  refine ⟨_, (resolveExceptions_ok () _).mpr ⟨List.all_eq_true.mpr fun e he => ?_, rfl⟩⟩
  obtain ⟨hmem', hkey⟩ := List.mem_filter.mp he
  simp only [Bool.and_eq_true, decide_eq_true_eq] at hkey
  have hcreated' : ∀ e ∈ updateWhere (fun e => e.ledgerEntryId = some entry.ledgerEntryId && e.status = .OPEN &&
      (e.orderId.isNone || e.orderId = row.orderId))
      (fun e => e.resolve row.financialOperationId ⟨resolution, m.paymentMatchId⟩ now) d.exceptions, e.createdAt ≤ now :=
    forall_mem_updateWhere hcreated fun _ h => h
  exact mayResolve_other hrow hmem hnow hm hmatch hkey.1.1.1.2 (hcreated' e hmem') hkey.1.1.1.1

theorem decisionEvents_recorded (h : Ready pf input.financialOperationId db)
    (hrow : Manual row input.financialOperationId entry order) :
    decisionEvents ((manualSettlement input entry order row paymentMatchId now).recorded (db.withOperation row))
      row.financialOperationId order.orderId .PAYMENT_CONFIRMED =
        [(manualSettlement input entry order row paymentMatchId now).event] := by
  have hnone : db.orders.events.filter (fun e => e.orderId = order.orderId && e.type = .PAYMENT_CONFIRMED &&
      eventOperationId e = some row.financialOperationId) = [] := by
    refine List.filter_eq_nil_iff.mpr fun e he hkey => ?_
    simp only [Bool.and_eq_true, decide_eq_true_eq] at hkey
    obtain ⟨t, ht, htid⟩ := h.traced.posted e he _ hkey.2
    obtain ⟨o, ho, hoid⟩ := h.recorded.transactions t ht
    exact h.unused o ho (hoid.trans (htid.trans hrow.id))
  show List.filter _ (db.orders.events ++ [(manualSettlement input entry order row paymentMatchId now).event]) = _
  rw [filter_append_in, hnone]
  · rfl
  · simp [SettlementFacts.event, manualSettlement, eventOperationId]

/-- **The writes of an eligible settlement commit exactly under the two conditions.** -/
theorem recordManualSettlement_commits (h : Ready pf input.financialOperationId db) (he : Eligible entry order db)
    (hmatchId : ∀ m ∈ db.paymentMatches, m.paymentMatchId ≠ paymentMatchId) :
    (∃ result db', recordManualSettlement pf input entry order paymentMatchId db.orders.clock db = .ok (result, db')) ↔
      Acceptable entry db.orders.clock := by
  obtain ⟨d, hstale, hready, hbeside, hmatches⟩ := supersedeStaleEligibleCandidates_succeeds h entry []
  have heligible : Eligible entry order d :=
    { he with orderMem := hbeside.orders ▸ he.orderMem, entryMem := hbeside.ledger ▸ he.entryMem }
  have hfits : OperationFits (manualRow pf input paymentMatchId entry order db.orders.clock) d :=
    manualRow_fits hready heligible.orderMem heligible.entryMem _
  have hopened : ∀ {r : FinancialDecisionResult × FinanceDb},
      recordManualSettlement pf input entry order paymentMatchId db.orders.clock db = .ok r ↔
        (recordSettlement (manualSettlement input entry order (manualRow pf input paymentMatchId entry order db.orders.clock)
            paymentMatchId db.orders.clock) >>= fun _ =>
          decisionResult (manualRow pf input paymentMatchId entry order db.orders.clock) paymentMatchId false)
          (d.withOperation (manualRow pf input paymentMatchId entry order db.orders.clock)) = .ok r := by
    intro r
    unfold recordManualSettlement
    rw [bind_of_ok hstale, insertFinancialOperation_bind_ok]
    exact ⟨fun hx => hx.2, fun hx => ⟨hfits, hx⟩⟩
  have hrow : Manual (manualRow pf input paymentMatchId entry order db.orders.clock) input.financialOperationId entry order :=
    ⟨rfl, rfl, rfl, rfl⟩
  have hclock : (manualRow pf input paymentMatchId entry order db.orders.clock).createdAt = db.orders.clock := rfl
  generalize manualRow pf input paymentMatchId entry order db.orders.clock = row at hfits hopened hrow hclock
  have hkeys : Keys (d.withOperation row) := ⟨hready.keys.orders, hready.keys.entries, hready.keys.paymentMatches⟩
  have hsettles : Settles (manualSettlement input entry order row paymentMatchId db.orders.clock) (d.withOperation row) ↔
      Acceptable entry db.orders.clock :=
    manual_settles hready heligible hrow (hbeside.orders ▸ le_rfl) (hmatches.symm ▸ hmatchId)
  have hrecord : ∀ {d' : FinanceDb}, recordSettlement (manualSettlement input entry order row paymentMatchId db.orders.clock)
      (d.withOperation row) = .ok ((), d') ↔
        Settles (manualSettlement input entry order row paymentMatchId db.orders.clock) (d.withOperation row) ∧
          resolveEntryExceptions entry.ledgerEntryId row "manually_settled" paymentMatchId db.orders.clock
            ((manualSettlement input entry order row paymentMatchId db.orders.clock).recorded (d.withOperation row)) =
              .ok ((), d') :=
    recordSettlement_ok hkeys.orders.orderIds heligible.orderMem hkeys.entries heligible.entryMem
  constructor
  · rintro ⟨result, db', hx⟩
    obtain ⟨_, m, hsettle, -⟩ := bind_ok.mp (hopened.mp hx)
    exact hsettles.mp (hrecord.mp hsettle).1
  · intro hacceptable
    have hs := hsettles.mpr hacceptable
    have hcreated : ∀ e ∈ d.exceptions, e.createdAt ≤ db.orders.clock := fun e he => by
      rw [← hbeside.orders]
      exact (hready.stamped.exceptions e he).1
    have hresolves : ∃ d', resolveEntryExceptions entry.ledgerEntryId row "manually_settled" paymentMatchId db.orders.clock
        ((manualSettlement input entry order row paymentMatchId db.orders.clock).recorded (d.withOperation row)) =
          .ok ((), d') :=
      resolveEntryExceptions_succeeds (m := (manualSettlement input entry order row paymentMatchId db.orders.clock).paymentMatch)
        hrow (mem_withOperation row d) hclock (List.mem_append_right _ (List.mem_singleton.mpr rfl)) ⟨rfl, rfl, rfl⟩ hcreated
    obtain ⟨d', hresolve⟩ := hresolves
    have hsettle := hrecord.mpr ⟨hs, hresolve⟩
    obtain ⟨exceptions, -, rfl⟩ := resolveEntryExceptions_ok hresolve
    refine ⟨_, _, hopened.mpr ((bind_of_ok hsettle).trans (decisionResult_ok.mpr ⟨⟨_, _, _, hs.found.1, ?_,
      decisionEvents_recorded hready hrow, hclock.symm, rfl⟩, rfl⟩))⟩
    rw [hrow.type]
    rfl

/-! ## The call -/

/-- The checks of `settleManually` itself, for an operation identifier that is new. -/
structure Passes (input : ManualSettlementInput) (entry : LedgerEntry) (order : PaymentOrder) (db : FinanceDb) : Prop where
  safe : db.orders.clock ≤ maxSafeInteger
  admitted : (Decision.settle input).Admitted db
  unused : readOperation db input.financialOperationId = none
  siteLedger : ∀ client ∈ scopedTo input.expectedClientId, db.hasOpenLedgerConflict input.ledgerEntryId = false ∧
    ∀ orderId ∈ db.evidenceOrders input.ledgerEntryId, ∀ o ∈ db.orders.orders, o.orderId = orderId → o.apiClientId = client
  entryFound : db.entry input.ledgerEntryId = some entry
  orderFound : (db.orders.orders.find? fun o => o.orderId = input.orderId) = some order
  eligible : db.manuallySettles entry order

theorem Passes.facts (h : Passes input entry order db) : Eligible entry order db := by
  have heligible := h.eligible
  unfold FinanceDb.manuallySettles at heligible
  simp only [Bool.and_eq_true, Bool.or_eq_true, decide_eq_true_eq, or_assoc] at heligible
  obtain ⟨⟨⟨⟨⟨hcredit, hstate⟩, hunpaid⟩, hbasis⟩, -⟩, -⟩ := heligible
  exact ⟨List.mem_of_find?_eq_some h.orderFound, List.mem_of_find?_eq_some h.entryFound, hcredit, hstate, hunpaid, hbasis⟩

/-- What is left of a call that passes its own checks. -/
theorem Passes.settleManually_eq (h : Passes input entry order db) :
    settleManually pf input db =
      recordManualSettlement pf input entry order (db.entropy db.drawn) (max db.orders.clock input.now.toNat)
        ((db.clocked input.now).drew 1) := by
  obtain ⟨hclock, orderId, horder, hsite⟩ := h.admitted
  obtain rfl : input.orderId = orderId := Option.some.inj horder
  have hnone : readOperation (db.clocked input.now) input.financialOperationId = none := h.unused
  have hmatch : settlementMatchId (db.clocked input.now) input.financialOperationId (db.clocked input.now) =
      .ok (db.entropy db.drawn, (db.clocked input.now).drew 1) := by
    unfold settlementMatchId
    rw [hnone]
    rfl
  have hreplay : readDecisionReplay pf input.financialOperationId (manualOperation input (db.entropy db.drawn))
      ((db.clocked input.now).drew 1) = .ok (none, (db.clocked input.now).drew 1) := by
    unfold readDecisionReplay
    rw [readWith_bind, show readOperation ((db.clocked input.now).drew 1) input.financialOperationId = none from hnone]
    rfl
  have hledger : assertSiteLedger input.expectedClientId input.ledgerEntryId ((db.clocked input.now).drew 1) =
      .ok ((), (db.clocked input.now).drew 1) := by
    unfold assertSiteLedger
    rw [readWith_bind]
    exact require_ok.mpr ⟨h.siteLedger, rfl⟩
  have hentry : requireLedgerEntry input.ledgerEntryId ((db.clocked input.now).drew 1) =
      .ok (entry, (db.clocked input.now).drew 1) := by
    unfold requireLedgerEntry
    rw [readWith_bind]
    exact orFail_ok.mpr ⟨h.entryFound, rfl⟩
  have hfound : onOrders (requireOrderDecision input.orderId) ((db.clocked input.now).drew 1) =
      .ok (order, (db.clocked input.now).drew 1) := by
    refine zoom_of_ok (t := (db.clocked input.now).orders) ?_
    unfold requireOrderDecision
    rw [readWith_bind]
    exact orFail_ok.mpr ⟨h.orderFound, rfl⟩
  rw [settleManually_admitted h.safe hclock hsite, bind_of_ok hmatch, bind_of_ok hreplay]
  show settleNewly pf input (db.entropy db.drawn) _ _ = _
  unfold settleNewly
  rw [bind_of_ok hledger, bind_of_ok hentry, bind_of_ok hfound, readWith_bind]
  exact require_bind_met h.eligible

theorem clocked_moves (hsafe : db.orders.clock ≤ maxSafeInteger) {physical : Int} (h : ClockAccepts physical db.orders.clock) :
    Moves pf db (db.clocked physical) := by
  have hle : max db.orders.clock physical.toNat ≤ maxSafeInteger := by
    have := h.1.2
    omega
  exact .single (.order (.clock _ (le_max_left _ _) hle))

end settlement

/-- The sample store before the reversed payment is settled to the second order. -/
def sampleOffered : FinanceDb := sampleCall 6 (sampleOrder "b" 71 1784512835000) sampleReversed

/-- A payment of a hundred million yuan. -/
def sampleFortune : RecordSegmentPageInput :=
  samplePage "101" "body" 1 false
    [⟨some "\x7b\x7d", some "e1", some "2026-07-20 10:00:05", some "100000000.00", some "in", none, none, none, none⟩]

/-- A settlement of the first order, with its reading of the clock. -/
def sampleClaim (now : Int) : ManualSettlementInput := ⟨none, 90, 11, "302", "admin", none, now⟩

/-- What the checks of an unscoped call come down to, with a property of the entry. -/
theorem passes_of_facts {input : ManualSettlementInput} {p : LedgerEntry → Bool} (hscope : input.expectedClientId = none)
    (h : db.orders.clock ≤ maxSafeInteger ∧ ClockAccepts input.now db.orders.clock ∧
      readOperation db input.financialOperationId = none ∧ (db.entry input.ledgerEntryId).any fun entry => p entry &&
        (db.orders.orders.find? fun o => o.orderId = input.orderId).any fun order => db.manuallySettles entry order) :
    ∃ entry order, Passes input entry order db ∧ p entry := by
  obtain ⟨hsafe, hclock, hunused, hfacts⟩ := h
  simp only [Option.any_eq_true, Bool.and_eq_true] at hfacts
  obtain ⟨entry, hentry, hp, order, horder, heligible⟩ := hfacts
  refine ⟨entry, order, ⟨hsafe, ⟨hclock, input.orderId, rfl, ?_⟩, hunused, ?_, hentry, horder, heligible⟩, hp⟩
  · intro client hclient
    rw [show (Decision.settle input).expectedClientId = none from hscope] at hclient
    cases hclient
  · intro client hclient
    rw [hscope] at hclient
    cases hclient

end PerPay.Finance
