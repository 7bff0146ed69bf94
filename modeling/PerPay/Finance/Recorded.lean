/-
  **What the rows refer to** — the facts a decision relies on without asking for them.

  The schema checks every row a decision writes.  Most of the checks are about rows that other calls
  have written: that an amount is in range, that a key is still free, that a candidate was not decided
  under another operation.  `Recorded` collects what these calls leave behind; every move keeps it.
-/
import PerPay.Finance.Books

namespace PerPay.Finance

open Txn Table Orders Ledger

variable {pf : FinancePlatform} {db db' : FinanceDb}

/-! ## The rows -/

/-- How often the payment of an order has been decided. -/
def decisions : PaymentStatus → Nat
  | .UNPAID => 0
  | .CONFIRMED => 1
  | .DISPUTED => 2

/-- The version of an order: its creation, its end, and the decisions on its payment. -/
def stageOf (o : PaymentOrder) : Nat :=
  1 + (if o.checkoutStatus = .OPEN then 0 else 1) + decisions o.paymentStatus

theorem stageOf_le (o : PaymentOrder) : stageOf o ≤ 4 := by
  have h : decisions o.paymentStatus ≤ 2 := by cases o.paymentStatus <;> decide
  unfold stageOf
  split <;> omega

def FinanceDb.HasOperation (db : FinanceDb) (id : Uuid) : Prop :=
  ∃ o ∈ db.operations, o.financialOperationId = id

/-- The key of an operation says what it was about. -/
def FinanceDb.Keyed (db : FinanceDb) (o : FinancialOperation) : Prop :=
  match o.operationKey with
  | .admin id => o.financialOperationId = id
  | .autoSettlement _ => True
  | .supersede id => ∃ c ∈ db.candidates, c.candidateId = id ∧ c.status ≠ .ELIGIBLE

structure References (db : FinanceDb) : Prop where
  orders : ∀ o ∈ db.orders.orders, o.rowChecks ∧ o.version = stageOf o
  entries : ∀ e ∈ db.ledger.entries, 0 < e.facts.amountCents ∧ e.facts.amountCents ≤ 999_999_999_999
  candidateIds : UniqueOn (·.candidateId) db.candidates
  candidates : ∀ c ∈ db.candidates, (∃ o ∈ db.orders.orders, o.orderId = c.orderId) ∧
    ∃ e ∈ db.ledger.entries, e.ledgerEntryId = c.ledgerEntryId
  decided : ∀ c ∈ db.candidates, ∀ id ∈ c.decidedByOperationId, db.HasOperation id
  paymentMatches : ∀ m ∈ db.paymentMatches, db.HasOperation m.createdByOperationId ∧
    ∀ id ∈ m.resolvedByOperationId, db.HasOperation id
  transactions : ∀ t ∈ db.transactions, db.HasOperation t.financialOperationId
  outbox : ∀ x ∈ db.outbox, db.HasOperation x.financialOperationId

structure Recorded (db : FinanceDb) : Prop extends References db where
  keys : ∀ o ∈ db.operations, db.Keyed o

theorem Recorded.empty (h : FinanceDb.Empty db) : Recorded db where
  orders := by rw [h.orders.orders]; simp
  entries := by rw [h.ledger.entries]; simp
  candidateIds := by rw [h.candidates]; exact uniqueOn_nil _
  candidates := by rw [h.candidates]; simp
  decided := by rw [h.candidates]; simp
  keys := by rw [h.operations]; simp
  paymentMatches := by rw [h.paymentMatches]; simp
  transactions := by rw [h.transactions]; simp
  outbox := by rw [h.outbox]; simp

/-! ## Orders -/

/-- A decided payment is the next stage. -/
theorem stageOf_paid {order : PaymentOrder} {status : PaymentStatus} {basis : PaymentBasis} {received : Option Nat}
    {now : Nat} (h : order.version = stageOf order) (hfrom : (order.paymentStatus = .UNPAID ∧ status = .CONFIRMED) ∨
      (order.paymentStatus = .CONFIRMED ∧ status = .DISPUTED)) :
    (paid order status basis received now).version = stageOf (paid order status basis received now) := by
  show order.version + 1 = _
  rw [h]
  unfold stageOf paid
  rcases hfrom with ⟨hold, rfl⟩ | ⟨hold, rfl⟩
  · rw [hold]
    rfl
  · rw [hold]
    rfl

/-- One row replaced by a later one of itself. -/
theorem orders_putOrder {order : PaymentOrder} {orders : List PaymentOrder}
    (h : ∀ o ∈ orders, o.rowChecks ∧ o.version = stageOf o) (horder : order.rowChecks ∧ order.version = stageOf order) :
    ∀ o ∈ putOrder order orders, o.rowChecks ∧ o.version = stageOf o := by
  intro o ho
  rcases mem_putOrder ho with rfl | ⟨ho, -⟩
  · exact horder
  · exact h o ho

/-- Orders that are valid rows, and all still there. -/
theorem Recorded.reordered (h : Recorded db) {o : OrderDb} (hrows : ∀ x ∈ o.orders, x.rowChecks ∧ x.version = stageOf x)
    (hkept : ∀ x ∈ db.orders.orders, ∃ x' ∈ o.orders, x'.orderId = x.orderId) : Recorded { db with orders := o } :=
  { h with
    orders := hrows
    candidates := by
      intro c hc
      obtain ⟨⟨x, hx, hid⟩, hentry⟩ := h.candidates c hc
      obtain ⟨x', hx', hid'⟩ := hkept x hx
      exact ⟨⟨x', hx', hid'.trans hid⟩, hentry⟩ }

theorem Recorded.orderStep (h : Recorded db) {o : OrderDb} (hs : OrderStep pf.orders db.orders o) :
    Recorded { db with orders := o } := by
  cases hs with
  | clock now hle hsafe => exact h.reordered h.orders fun x hx => ⟨x, hx, rfl⟩
  | configured configuration hext => exact h.reordered h.orders fun x hx => ⟨x, hx, rfl⟩
  | ends order status hends =>
    rw [hends.result]
    refine h.reordered (orders_putOrder h.orders ⟨hends.rowChecks, ?_⟩) fun x hx => mem_putOrder_kept _ hx
    have hversion := (h.orders order hends.mem).2
    show order.version + 1 = _
    rw [hversion]
    unfold stageOf
    rw [if_pos hends.isOpen, if_neg (show (order.ended status db.orders.clock).checkoutStatus ≠ .OPEN from hends.terminal)]
    show 1 + 0 + _ + 1 = 1 + 1 + decisions order.paymentStatus
    omega
  | inserted input rnd profile amount generation cooldown key hrows =>
    refine h.reordered (fun x hx => ?_) fun x hx => ⟨x, by rw [hrows.orders]; exact List.mem_append_left _ hx, rfl⟩
    rw [hrows.orders] at hx
    rcases List.mem_append.mp hx with hx | hx
    · exact h.orders x hx
    · rw [List.mem_singleton.mp hx]
      exact ⟨hrows.rowChecks, rfl⟩

/-! ## Entries, candidates and operations -/

theorem Recorded.reledgered (h : Recorded db) {l : LedgerDb} (hkept : EntriesKept db.ledger l)
    (hamounts : ∀ e ∈ l.entries, 0 < e.facts.amountCents ∧ e.facts.amountCents ≤ 999_999_999_999) :
    Recorded { db with ledger := l } :=
  { h with
    entries := hamounts
    candidates := by
      intro c hc
      obtain ⟨horder, e, he, hid⟩ := h.candidates c hc
      obtain ⟨e', he', hid', -⟩ := hkept e he
      exact ⟨horder, e', he', hid'.trans hid⟩ }

theorem Recorded.withState (h : Recorded db) (hkeys : Keys db) {entry : LedgerEntry} (hmem : entry ∈ db.ledger.entries)
    (state : LedgerEntryState) (now : Nat) :
    Recorded { db with ledger := Finance.withState entry state now db.ledger } := by
  refine h.reledgered (.withState entry state now) fun e he => ?_
  rcases mem_withState hkeys.entries hmem he with ⟨hold, -⟩ | ⟨-, hfacts, -⟩
  · exact h.entries e hold
  · rw [hfacts]
    exact h.entries entry hmem

theorem FinanceDb.HasOperation.withOperation {id : Uuid} (h : db.HasOperation id) (row : FinancialOperation) :
    (db.withOperation row).HasOperation id :=
  h.elim fun o ho => ⟨o, List.mem_append_left _ ho.1, ho.2⟩

theorem References.withOperation (h : References db) (row : FinancialOperation) : References (db.withOperation row) :=
  { h with
    decided := fun c hc id hid => (h.decided c hc id hid).withOperation row
    paymentMatches := fun m hm => ⟨(h.paymentMatches m hm).1.withOperation row,
      fun id hid => ((h.paymentMatches m hm).2 id hid).withOperation row⟩
    transactions := fun t ht => (h.transactions t ht).withOperation row
    outbox := fun x hx => (h.outbox x hx).withOperation row }

/-- An operation whose key says what it is about. -/
theorem Recorded.withOperation (h : Recorded db) {row : FinancialOperation} (hkey : db.Keyed row) :
    Recorded (db.withOperation row) :=
  { h.toReferences.withOperation row with keys := forall_mem_append_singleton h.keys hkey }

/-- A row of the candidates after a decision. -/
theorem mem_withDecided {candidateId : Uuid} {status : CandidateStatus} {operation : FinancialOperation}
    {c' : MatchCandidate} (h : c' ∈ (db.withDecided candidateId status operation).candidates) :
    (∃ c ∈ db.candidates, c.candidateId = candidateId ∧
        c' = c.decide status operation.financialOperationId operation.createdAt) ∨
      (c' ∈ db.candidates ∧ ¬ (c'.candidateId = candidateId ∧ c'.status = .ELIGIBLE)) := by
  rcases mem_updateWhere.mp h with ⟨c, hc, hkey, rfl⟩ | ⟨hc, hkey⟩
  · simp only [Bool.and_eq_true, decide_eq_true_eq] at hkey
    exact .inl ⟨c, hc, hkey.1, rfl⟩
  · exact .inr ⟨hc, by simpa using hkey⟩

/-- A candidate that is not eligible stays so. -/
theorem decided_withDecided {candidateId id : Uuid} {status : CandidateStatus} {operation : FinancialOperation}
    (h : ∃ c ∈ db.candidates, c.candidateId = id ∧ c.status ≠ .ELIGIBLE) :
    ∃ c ∈ (db.withDecided candidateId status operation).candidates, c.candidateId = id ∧ c.status ≠ .ELIGIBLE := by
  obtain ⟨c, hc, hid, hnot⟩ := h
  exact ⟨c, mem_updateWhere.mpr (.inr ⟨hc, by simp [hnot]⟩), hid, hnot⟩

/-- The candidate that was decided is not eligible any more. -/
theorem exists_withDecided {c : MatchCandidate} (hmem : c ∈ db.candidates) {status : CandidateStatus}
    {operation : FinancialOperation} (hstatus : status ≠ .ELIGIBLE) :
    ∃ c' ∈ (db.withDecided c.candidateId status operation).candidates,
      c'.candidateId = c.candidateId ∧ c'.status ≠ .ELIGIBLE := by
  by_cases heligible : c.status = .ELIGIBLE
  · exact ⟨_, mem_updateWhere.mpr (.inl ⟨c, hmem, by simp [heligible], rfl⟩), rfl, hstatus⟩
  · exact ⟨c, mem_updateWhere.mpr (.inr ⟨hmem, by simp [heligible]⟩), rfl, heligible⟩

theorem References.withDecided (h : References db) {candidateId : Uuid} {status : CandidateStatus}
    {operation : FinancialOperation} (hoperation : operation ∈ db.operations) :
    References (db.withDecided candidateId status operation) :=
  { h with
    candidateIds := h.candidateIds.updateWhere fun _ _ => rfl
    candidates := by
      intro c' hc'
      rcases mem_withDecided hc' with ⟨c, hc, -, rfl⟩ | ⟨hc, -⟩
      · exact h.candidates c hc
      · exact h.candidates c' hc
    decided := by
      intro c' hc' id hid
      rcases mem_withDecided hc' with ⟨c, hc, -, rfl⟩ | ⟨hc, -⟩
      · exact ⟨operation, hoperation, Option.some.inj hid⟩
      · exact h.decided c' hc id hid }

theorem FinanceDb.Keyed.withDecided {o : FinancialOperation} (h : db.Keyed o) (candidateId : Uuid)
    (status : CandidateStatus) (operation : FinancialOperation) :
    (db.withDecided candidateId status operation).Keyed o := by
  unfold FinanceDb.Keyed at h ⊢
  cases hk : o.operationKey with
  | admin id => rwa [hk] at h
  | autoSettlement fingerprint => trivial
  | supersede id =>
    rw [hk] at h
    exact decided_withDecided h

theorem Recorded.selected (h : Recorded db) {candidateId : Uuid} {row : FinancialOperation} (hrow : row ∈ db.operations) :
    Recorded (db.withDecided candidateId .SELECTED row) :=
  { h.toReferences.withDecided hrow with keys := fun o ho => (h.keys o ho).withDecided candidateId .SELECTED row }

theorem Recorded.superseded (h : Recorded db) {c : MatchCandidate} {row : FinancialOperation} (hmem : c ∈ db.candidates)
    (hkey : row.operationKey = .supersede c.candidateId) :
    Recorded ((db.withOperation row).withDecided c.candidateId .SUPERSEDED row) :=
  { (h.toReferences.withOperation row).withDecided (mem_withOperation row db) with
    keys := by
      refine forall_mem_append_singleton (fun o ho => (h.keys o ho).withDecided c.candidateId .SUPERSEDED row) ?_
      unfold FinanceDb.Keyed
      rw [hkey]
      exact exists_withDecided hmem nofun }

/-! ## Decisions -/

theorem Recorded.settles (h : Recorded db) (hkeys : Keys db) {s : SettlementFacts} (hs : SettlementMove s db) :
    Recorded (s.recorded db) := by
  obtain ⟨hunpaid, -, -⟩ := paymentTransition_confirmed hs.pays.transition
  have hoperation : db.HasOperation s.operation.financialOperationId := ⟨s.operation, hs.operationMem, rfl⟩
  have hrow : s.settled.rowChecks ∧ s.settled.version = stageOf s.settled :=
    ⟨hs.pays.rowChecks, stageOf_paid (h.orders s.order hs.orderMem).2 (.inl ⟨hunpaid, rfl⟩)⟩
  have hreordered := h.reordered (o := withPayment s.settled s.event db.orders)
    (orders_putOrder h.orders hrow) fun x hx => mem_putOrder_kept _ hx
  have hstate := hreordered.withState ⟨keyInv_withPayment hkeys.orders hs.orderMem, hkeys.entries, hkeys.paymentMatches⟩
    hs.entryMem .ALLOCATED s.now
  exact { hstate with
    paymentMatches := forall_mem_append_singleton h.paymentMatches ⟨hoperation, fun id hid => Option.some.inj hid ▸ hoperation⟩
    transactions := forall_mem_append_singleton h.transactions hoperation
    outbox := forall_mem_append_singleton h.outbox hoperation }

theorem Recorded.reverses (h : Recorded db) (hkeys : Keys db) {r : ReversalFacts} (hr : ReversalMove r db) :
    Recorded (r.recorded db) := by
  have hconfirmed := paymentTransition_disputed hr.pays.transition
  have hoperation : db.HasOperation r.operation.financialOperationId := ⟨r.operation, hr.operationMem, rfl⟩
  have hrow : r.disputed.rowChecks ∧ r.disputed.version = stageOf r.disputed :=
    ⟨hr.pays.rowChecks, stageOf_paid (h.orders r.order hr.orderMem).2 (.inr ⟨hconfirmed, rfl⟩)⟩
  have hreordered := h.reordered (o := withPayment r.disputed r.event db.orders)
    (orders_putOrder h.orders hrow) fun x hx => mem_putOrder_kept _ hx
  have hstate := hreordered.withState ⟨keyInv_withPayment hkeys.orders hr.orderMem, hkeys.entries, hkeys.paymentMatches⟩
    hr.entryMem .CONFLICT r.now
  exact { hstate with
    paymentMatches := by
      intro m' hm'
      rcases mem_updateWhere.mp hm' with ⟨m, hm, -, rfl⟩ | ⟨hm, -⟩
      · exact ⟨(h.paymentMatches m hm).1, fun id hid => Option.some.inj hid ▸ hoperation⟩
      · exact h.paymentMatches m' hm
    transactions := forall_mem_append_singleton h.transactions hoperation
    outbox := forall_mem_append_singleton h.outbox hoperation }

/-- **Every move keeps what the rows refer to.** -/
theorem Recorded.move (hkeys : Keys db) (h : Recorded db) (hm : Move pf db db') : Recorded db' := by
  cases hm with
  | supplied entropy => exact { h with }
  | drew drawn => exact { h with }
  | order hs => exact h.orderStep hs
  | ledger op hx =>
    have hgrows := LedgerOp.run_grows op.property hx
    obtain ⟨added, hadded, hingested⟩ := hgrows.added
    refine h.reledgered (.grows hgrows) fun e he => ?_
    rw [hadded] at he
    rcases List.mem_append.mp he with he | he
    · exact h.entries e he
    · exact (hingested e he).amount
  | candidate c hc hnew heligible hundecided hcreated =>
    unfold FinanceDb.supportsCandidate at hc
    simp only [List.any_eq_true, Bool.and_eq_true, decide_eq_true_eq] at hc
    obtain ⟨e, he, ⟨⟨hentry, -⟩, -⟩, fact, hfact, ⟨⟨⟨⟨⟨⟨horder, -⟩, -⟩, -⟩, -⟩, -⟩, -⟩, -⟩ := hc
    obtain ⟨o, ho, hslot⟩ := List.mem_flatMap.mp hfact
    obtain ⟨slot, -, rfl⟩ := List.mem_map.mp hslot
    exact { h with
      candidateIds := h.candidateIds.append hnew
      candidates := forall_mem_append_singleton h.candidates ⟨⟨o, ho, horder⟩, e, he, hentry⟩
      decided := forall_mem_append_singleton h.decided (by rw [hundecided.1]; simp)
      keys := by
        intro o ho
        have hkey := h.keys o ho
        unfold FinanceDb.Keyed at hkey ⊢
        cases hk : o.operationKey with
        | admin id => rwa [hk] at hkey
        | autoSettlement fingerprint => trivial
        | supersede id =>
          rw [hk] at hkey
          exact hkey.elim fun c hc => ⟨c, List.mem_append_left _ hc.1, hc.2⟩ }
  | selected c row hmem hrow hclock => exact h.selected hrow
  | superseded c row hmem hfits hclock hkey => exact h.superseded hmem hkey
  | operation row hfits hclock hkey =>
    refine h.withOperation ?_
    unfold FinancialOperation.KeyedByCall at hkey
    unfold FinanceDb.Keyed
    cases hk : row.operationKey with
    | admin id => rwa [hk] at hkey
    | autoSettlement fingerprint => trivial
    | supersede id =>
      rw [hk] at hkey
      exact hkey.elim
  | exceptions rows hrows => exact { h with }
  | entryState entry state hmem hfrom hto hmay => exact h.withState hkeys hmem state _
  | settles s hs => exact h.settles hkeys hs
  | reverses r hr => exact h.reverses hkeys hr

theorem Recorded.reachable (hr : Runs.Reachable (financeStore pf) db) : Recorded db :=
  reachable_invariant (fun _ => .empty) (fun hkeys h hm => h.move hkeys hm) hr

end PerPay.Finance
