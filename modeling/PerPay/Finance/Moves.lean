/-
  **What the stores can do, once and for all** — every call is a sequence of `Move`s.

  A move changes the tables in one of twelve ways: the order store and the ledger take a step of their
  own, identifiers are drawn, a candidate is recorded, selected or superseded, an operation is recorded,
  exceptions change, an entry moves between unallocated and candidate, a settlement or a reversal is
  recorded.  A decision is
  ONE move, so an invariant never sees a half-recorded one.  What holds of empty tables and survives
  every move holds in every state the system can reach (`reachable_invariant`).
-/
import PerPay.Finance.Effects
import PerPay.Ledger.Entries
import PerPay.Orders.Evolution

namespace PerPay.Finance

open Txn Table Orders Ledger

variable {pf : FinancePlatform} {db db' : FinanceDb}

/-! ## Moves -/

/-- An entry that no settlement holds and no operator has taken out of matching. -/
def Pending (state : LedgerEntryState) : Prop := state = .UNALLOCATED ∨ state = .CANDIDATE

/-- A settlement, with what it was decided on. -/
structure SettlementMove (s : SettlementFacts) (db : FinanceDb) : Prop extends Settles s db where
  orderMem : s.order ∈ db.orders.orders
  entryMem : s.entry ∈ db.ledger.entries
  operationMem : s.operation ∈ db.operations
  createdAt : s.operation.createdAt = s.now
  clock : db.orders.clock = s.now

/-- A reversal, with what it was decided on. -/
structure ReversalMove (r : ReversalFacts) (db : FinanceDb) : Prop extends Reverses r db where
  orderMem : r.order ∈ db.orders.orders
  orderId : r.order.orderId = r.paymentMatch.orderId
  entryMem : r.entry ∈ db.ledger.entries
  entryId : r.entry.ledgerEntryId = r.paymentMatch.ledgerEntryId
  matchMem : r.paymentMatch ∈ db.paymentMatches
  settled : r.paymentMatch.status = .SETTLED
  allocated : r.entry.state = .ALLOCATED
  operationMem : r.operation ∈ db.operations
  createdAt : r.operation.createdAt = r.now
  clock : db.orders.clock = r.now

/-- The tables with the decision of a candidate. -/
def FinanceDb.withDecided (db : FinanceDb) (candidateId : Uuid) (status : CandidateStatus)
    (operation : FinancialOperation) : FinanceDb :=
  { db with candidates := updateWhere (fun c => c.candidateId = candidateId && c.status = .ELIGIBLE)
              (fun c => c.decide status operation.financialOperationId operation.createdAt) db.candidates }

/-- The key of an operation that supersedes no candidate; a call of an administrator is keyed by its
    identifier. -/
def FinancialOperation.KeyedByCall (row : FinancialOperation) : Prop :=
  match row.operationKey with
  | .admin id => row.financialOperationId = id
  | .autoSettlement _ => True
  | .supersede _ => False

/-- The elementary steps of the three stores. -/
inductive Move (pf : FinancePlatform) : FinanceDb → FinanceDb → Prop
  | supplied {db : FinanceDb} (entropy : Entropy) : Move pf db (db.supplied entropy)
  | drew {db : FinanceDb} (drawn : Nat) : Move pf db { db with drawn := drawn }
  | order {db : FinanceDb} {o : OrderDb} (h : OrderStep pf.orders db.orders o) : Move pf db { db with orders := o }
  | ledger {db : FinanceDb} {l : LedgerDb} (op : IngestOp) (h : op.val.run pf.ledger db.ledger = .ok ((), l)) :
      Move pf db { db with ledger := l }
  | candidate {db : FinanceDb} (c : MatchCandidate) (h : db.supportsCandidate c)
      (hnew : ∀ x ∈ db.candidates, x.candidateId ≠ c.candidateId) (heligible : c.status = .ELIGIBLE)
      (hundecided : c.decidedByOperationId = none ∧ c.decidedAt = none)
      (hcreated : c.createdAt = db.orders.clock ∧ c.updatedAt = db.orders.clock) :
      Move pf db { db with candidates := db.candidates ++ [c] }
  | selected {db : FinanceDb} (c : MatchCandidate) (row : FinancialOperation) (hmem : c ∈ db.candidates)
      (hrow : row ∈ db.operations) (hclock : row.createdAt = db.orders.clock) :
      Move pf db (db.withDecided c.candidateId .SELECTED row)
  | superseded {db : FinanceDb} (c : MatchCandidate) (row : FinancialOperation) (hmem : c ∈ db.candidates)
      (h : OperationFits row db) (hclock : row.createdAt = db.orders.clock)
      (hkey : row.operationKey = .supersede c.candidateId) :
      Move pf db ((db.withOperation row).withDecided c.candidateId .SUPERSEDED row)
  | operation {db : FinanceDb} (row : FinancialOperation) (h : OperationFits row db)
      (hclock : row.createdAt = db.orders.clock) (hkey : row.KeyedByCall) :
      Move pf db (db.withOperation row)
  | exceptions {db : FinanceDb} (exceptions : List FinancialException)
      (h : ∀ e ∈ exceptions, ExceptionFrom db.exceptions db.orders.clock e) :
      Move pf db { db with exceptions := exceptions }
  | entryState {db : FinanceDb} (entry : LedgerEntry) (state : LedgerEntryState)
      (hmem : entry ∈ db.ledger.entries) (hfrom : Pending entry.state) (hto : Pending state)
      (h : MayBecome entry state db.orders.clock) :
      Move pf db { db with ledger := withState entry state db.orders.clock db.ledger }
  | settles {db : FinanceDb} (s : SettlementFacts) (h : SettlementMove s db) : Move pf db (s.recorded db)
  | reverses {db : FinanceDb} (r : ReversalFacts) (h : ReversalMove r db) : Move pf db (r.recorded db)

abbrev Moves (pf : FinancePlatform) : FinanceDb → FinanceDb → Prop := Relation.ReflTransGen (Move pf)

/-- What every move keeps, a sequence of moves keeps. -/
theorem Moves.invariant {I : FinanceDb → Prop} (hstep : ∀ {db db'}, I db → Move pf db db' → I db')
    (h : Moves pf db db') (h0 : I db) : I db' := by
  induction h with
  | refl => exact h0
  | tail _ hm ih => exact hstep ih hm

/-! ## The keys the statements go by -/

/-- The rows that a decision updates are found by their identifiers. -/
structure Keys (db : FinanceDb) : Prop where
  orders : KeyInv db.orders
  entries : UniqueOn (·.ledgerEntryId) db.ledger.entries
  paymentMatches : UniqueOn (·.paymentMatchId) db.paymentMatches

theorem Keys.empty (h : FinanceDb.Empty db) : Keys db where
  orders := KeyInv.empty h.orders
  entries := by rw [h.ledger.entries]; exact uniqueOn_nil _
  paymentMatches := by rw [h.paymentMatches]; exact uniqueOn_nil _

/-- A row replaced by a later version of itself is still the same issued order. -/
theorem keyInv_withPayment {o : OrderDb} (h : KeyInv o) {order : PaymentOrder} (hmem : order ∈ o.orders)
    {status : PaymentStatus} {basis : PaymentBasis} {received : Option Nat} {now : Nat} {event : OrderEvent} :
    KeyInv (withPayment (paid order status basis received now) event o) := by
  refine h.rewrite (fun x hx => ?_) (f := fun x => if x.orderId = order.orderId then
    paid order status basis received now else x) rfl rfl rfl
  show PaymentOrder.issued (if x.orderId = order.orderId then _ else x) = x.issued
  by_cases hid : x.orderId = order.orderId
  · rw [if_pos hid, h.orderIds.eq hx hmem hid]
    rfl
  · rw [if_neg hid]

theorem withState_ids (entry : LedgerEntry) (state : LedgerEntryState) (now : Nat) {l : LedgerDb}
    (h : UniqueOn (·.ledgerEntryId) l.entries) : UniqueOn (·.ledgerEntryId) (withState entry state now l).entries := by
  unfold withState
  split
  · exact h
  · exact h.updateWhere fun _ _ => rfl

theorem Keys.move (h : Keys db) (hm : Move pf db db') : Keys db' := by
  cases hm with
  | supplied entropy => exact ⟨h.orders, h.entries, h.paymentMatches⟩
  | drew drawn => exact ⟨h.orders, h.entries, h.paymentMatches⟩
  | order hs => exact ⟨h.orders.step hs, h.entries, h.paymentMatches⟩
  | ledger op hx => exact ⟨h.orders, (LedgerOp.run_grows op.property hx).ids h.entries, h.paymentMatches⟩
  | candidate c hc => exact ⟨h.orders, h.entries, h.paymentMatches⟩
  | selected c row => exact ⟨h.orders, h.entries, h.paymentMatches⟩
  | superseded c row => exact ⟨h.orders, h.entries, h.paymentMatches⟩
  | operation row hrow => exact ⟨h.orders, h.entries, h.paymentMatches⟩
  | exceptions rows => exact ⟨h.orders, h.entries, h.paymentMatches⟩
  | entryState entry state => exact ⟨h.orders, withState_ids entry state _ h.entries, h.paymentMatches⟩
  | settles s hs =>
    refine ⟨keyInv_withPayment h.orders hs.orderMem, withState_ids _ _ _ h.entries, ?_⟩
    refine h.paymentMatches.append fun m hm => ?_
    have hnew := hs.isNew
    simp only [FinanceDb.matchIsNew, List.all_eq_true, Bool.and_eq_true, decide_eq_true_eq] at hnew
    exact (hnew m hm).1.1.1.1
  | reverses r hr =>
    exact ⟨keyInv_withPayment h.orders hr.orderMem, withState_ids _ _ _ h.entries,
      h.paymentMatches.updateWhere fun _ _ => rfl⟩

theorem Keys.moves (h : Keys db) (hm : Moves pf db db') : Keys db' :=
  hm.invariant (fun hk hs => hk.move hs) h

/-! ## Steps beside the decision -/

/-- Moves that leave the orders and the ledger alone. -/
structure Beside (pf : FinancePlatform) (db db' : FinanceDb) : Prop where
  moves : Moves pf db db'
  orders : db'.orders = db.orders
  ledger : db'.ledger = db.ledger

theorem Beside.refl (db : FinanceDb) : Beside pf db db := ⟨.refl, rfl, rfl⟩

theorem Beside.trans {m : FinanceDb} (h : Beside pf db m) (h' : Beside pf m db') : Beside pf db db' :=
  ⟨h.moves.trans h'.moves, h'.orders.trans h.orders, h'.ledger.trans h.ledger⟩

theorem Beside.drew (db : FinanceDb) (n : Nat) : Beside pf db (db.drew n) := ⟨.single (.drew _), rfl, rfl⟩

theorem Beside.exceptions {db : FinanceDb} {exceptions : List FinancialException}
    (h : ∀ e ∈ exceptions, ExceptionFrom db.exceptions db.orders.clock e) (drawn : Nat) :
    Beside pf db { db with exceptions := exceptions, drawn := drawn } :=
  ⟨.tail (.single (.exceptions exceptions h)) (.drew drawn), rfl, rfl⟩

theorem Beside.withOperation {row : FinancialOperation} (h : OperationFits row db)
    (hclock : row.createdAt = db.orders.clock) (hkey : row.KeyedByCall) :
    Beside pf db (db.withOperation row) :=
  ⟨.single (.operation row h hclock hkey), rfl, rfl⟩

theorem mem_withOperation (row : FinancialOperation) (db : FinanceDb) : row ∈ (db.withOperation row).operations :=
  List.mem_append_right _ (List.mem_singleton.mpr rfl)

theorem insertCandidate_ok {c : MatchCandidate} {u : Unit} (hx : insertCandidate c db = .ok (u, db')) :
    db.supportsCandidate c ∧ (∀ x ∈ db.candidates, x.candidateId ≠ c.candidateId) ∧
      db' = { db with candidates := db.candidates ++ [c] } := by
  unfold insertCandidate at hx
  simp only [readWith_bind_ok, require_bind_ok, update_eq, id, List.all_eq_true, Bool.and_eq_true,
    decide_eq_true_eq] at hx
  exact ⟨hx.1, fun x hm => (hx.2.1 x hm).1.1, hx.2.2⟩

theorem ensureCandidate_ok {entry : LedgerEntry} {fact : CandidateFact} {c : MatchCandidate}
    (hx : ensureCandidate pf entry db.orders.clock fact db = .ok (c, db')) : Beside pf db db' := by
  unfold ensureCandidate at hx
  rw [readWith_bind_ok] at hx
  cases hf : readCandidateByTuple db entry.ledgerEntryId fact.order.orderId fact.slot.slotId with
  | some candidate =>
    simp only [hf, pure_ok] at hx
    exact hx.2 ▸ .refl db
  | none =>
    simp only [hf, randomUUID_bind_ok] at hx
    obtain ⟨_, m, hinsert, hx⟩ := bind_ok.mp hx
    obtain ⟨hsupported, hnew, rfl⟩ := insertCandidate_ok hinsert
    obtain ⟨-, rfl⟩ := pure_ok.mp hx
    exact (Beside.drew db 1).trans ⟨.single (.candidate _ hsupported hnew rfl ⟨rfl, rfl⟩ ⟨rfl, rfl⟩), rfl, rfl⟩

theorem decideCandidate_ok {candidateId : Uuid} {status : CandidateStatus} {operation : FinancialOperation}
    {action : String} {now : Nat} {u : Unit} (hnow : operation.createdAt = now)
    (hx : decideCandidate candidateId status operation now action db = .ok (u, db')) :
    ∃ c ∈ db.candidates, c.candidateId = candidateId ∧ db' = db.withDecided c.candidateId status operation := by
  unfold decideCandidate at hx
  simp only [readWith_bind_ok, orFail_bind_ok, require_bind_ok, update_eq, id] at hx
  obtain ⟨row, hfind, -, -, -, -, rfl⟩ := hx
  have hrow := List.find?_some hfind
  simp only [Bool.and_eq_true, decide_eq_true_eq] at hrow
  refine ⟨row, List.mem_of_find?_eq_some hfind, hrow.1, ?_⟩
  rw [hrow.1, ← hnow]
  rfl

theorem supersedeCandidate_ok {candidate : MatchCandidate} {u : Unit}
    (hx : supersedeCandidate pf db.orders.clock candidate db = .ok (u, db')) : Beside pf db db' := by
  unfold supersedeCandidate at hx
  rw [randomUUID_bind_ok, insertFinancialOperation_bind_ok] at hx
  obtain ⟨hfits, hx⟩ := hx
  obtain ⟨c, hmem, hid, rfl⟩ := decideCandidate_ok rfl hx
  exact (Beside.drew db 1).trans ⟨.single (.superseded c _ hmem hfits rfl (hid ▸ rfl)), rfl, rfl⟩

/-- A loop at the time of the clock is beside the decision when each of its rounds is. -/
theorem forEach_beside {β : Type} {f : Nat → β → FinanceTx Unit} (hf : ∀ {b : β} {db db' : FinanceDb} {u : Unit},
      f db.orders.clock b db = .ok (u, db') → Beside pf db db') :
    ∀ {bs : List β} {db db' : FinanceDb} {u : Unit}, forEach (f db.orders.clock) bs db = .ok (u, db') →
      Beside pf db db'
  | [], db, db', u, hx => (pure_ok.mp hx).2 ▸ .refl db
  | b :: bs, db, db', u, hx => by
    obtain ⟨_, m, hb, hx⟩ := bind_ok.mp hx
    have hm : Beside pf db m := hf hb
    rw [← hm.orders] at hx
    exact hm.trans (forEach_beside hf hx)

theorem collect_beside {α β : Type} {f : Nat → β → FinanceTx α} (hf : ∀ {b : β} {db db' : FinanceDb} {a : α},
      f db.orders.clock b db = .ok (a, db') → Beside pf db db') :
    ∀ {bs : List β} {db db' : FinanceDb} {as : List α}, collect (f db.orders.clock) bs db = .ok (as, db') →
      Beside pf db db'
  | [], db, db', as, hx => (pure_ok.mp hx).2 ▸ .refl db
  | b :: bs, db, db', as, hx => by
    obtain ⟨a, m, hb, hx⟩ := bind_ok.mp hx
    obtain ⟨as', m', hrest, hx⟩ := bind_ok.mp hx
    obtain ⟨-, rfl⟩ := pure_ok.mp hx
    have hm : Beside pf db m := hf hb
    rw [← hm.orders] at hrest
    exact hm.trans (collect_beside hf hrest)

theorem supersedeStaleEligibleCandidates_ok {entry : LedgerEntry} {activeCandidateIds : List Uuid} {u : Unit}
    (hx : supersedeStaleEligibleCandidates pf entry activeCandidateIds db.orders.clock db = .ok (u, db')) :
    Beside pf db db' :=
  forEach_beside (f := supersedeCandidate pf) supersedeCandidate_ok hx

/-! ## Calls -/

/-- A settlement whose operation is recorded. -/
theorem recordSettlement_moves {s : SettlementFacts} {u : Unit} (h : Keys db) (horder : s.order ∈ db.orders.orders)
    (hentry : s.entry ∈ db.ledger.entries) (hoperation : s.operation ∈ db.operations)
    (hcreated : s.operation.createdAt = s.now) (hclock : db.orders.clock = s.now)
    (hx : recordSettlement s db = .ok (u, db')) : Moves pf db db' := by
  obtain ⟨hsettles, hresolve⟩ := (recordSettlement_ok h.orders.orderIds horder h.entries hentry).mp hx
  obtain ⟨exceptions, hfrom, rfl⟩ := resolveEntryExceptions_ok hresolve
  refine .tail (.single (.settles s ⟨hsettles, horder, hentry, hoperation, hcreated, hclock⟩)) (.exceptions exceptions ?_)
  rw [← hclock] at hfrom
  exact hfrom

variable (pf) in
theorem setLedgerState_moves {entry : LedgerEntry} {state : LedgerEntryState} {α : Type}
    {k : Unit → FinanceTx α} {r : α × FinanceDb} (h : Keys db) (hentry : entry ∈ db.ledger.entries)
    (hfrom : Pending entry.state) (hto : Pending state)
    (hx : (onLedger (setLedgerState entry state db.orders.clock) >>= k) db = .ok r) :
    ∃ m, Moves pf db m ∧ m.orders = db.orders ∧ k () m = .ok r := by
  obtain ⟨hmay, hk⟩ := (setLedgerState_bind_ok h.entries hentry).mp hx
  exact ⟨_, .single (.entryState entry state hentry hfrom hto hmay), rfl, hk⟩

theorem reportUnmatched_moves {entry : LedgerEntry} {classify : FinanceDb → UnmatchedCreditClassification}
    {r : ReconcileEntryResult} (h : Keys db) (hentry : entry ∈ db.ledger.entries) (hfrom : Pending entry.state)
    (hx : reportUnmatched pf entry db.orders.clock classify db = .ok (r, db')) : Moves pf db db' := by
  unfold reportUnmatched at hx
  obtain ⟨m, hm, horders, hx⟩ := setLedgerState_moves pf h hentry hfrom (.inl rfl) hx
  rw [readWith_bind_ok, ← horders] at hx
  obtain ⟨e, m', he, hx⟩ := bind_ok.mp hx
  obtain ⟨exceptions, drawn, hkept, rfl⟩ := ensureException_ok he
  obtain ⟨-, rfl⟩ := pure_ok.mp hx
  exact hm.trans (Beside.exceptions hkept drawn).moves

theorem reportAmbiguous_moves {entry : LedgerEntry} {candidates : List MatchCandidate}
    {r : ReconcileEntryResult} (h : Keys db) (hentry : entry ∈ db.ledger.entries) (hfrom : Pending entry.state)
    (hx : reportAmbiguous pf entry db.orders.clock candidates db = .ok (r, db')) : Moves pf db db' := by
  unfold reportAmbiguous at hx
  obtain ⟨m, hm, horders, hx⟩ := setLedgerState_moves pf h hentry hfrom (.inr rfl) hx
  rw [← horders] at hx
  obtain ⟨e, m', he, hx⟩ := bind_ok.mp hx
  obtain ⟨exceptions, drawn, hkept, rfl⟩ := ensureException_ok he
  obtain ⟨-, rfl⟩ := pure_ok.mp hx
  exact hm.trans (Beside.exceptions hkept drawn).moves

theorem settleCandidate_moves {entry : LedgerEntry} {candidate : MatchCandidate} {order : PaymentOrder}
    {r : ReconcileEntryResult} (h : Keys db) (horder : order ∈ db.orders.orders)
    (hentry : entry ∈ db.ledger.entries)
    (hx : settleCandidate pf entry candidate order db.orders.clock db = .ok (r, db')) : Moves pf db db' := by
  unfold settleCandidate at hx
  rw [randomUUID_bind_ok, randomUUID_bind_ok, insertFinancialOperation_bind_ok] at hx
  obtain ⟨hfits, hx⟩ := hx
  obtain ⟨_, m, hdecide, hx⟩ := bind_ok.mp hx
  obtain ⟨_, m', hsettle, hx⟩ := bind_ok.mp hx
  obtain ⟨-, rfl⟩ := pure_ok.mp hx
  obtain ⟨c, hmem, -, rfl⟩ := decideCandidate_ok rfl hdecide
  have hm : Beside pf db _ := (((Beside.drew db 1).trans (.drew _ 1)).trans (.withOperation hfits rfl trivial)).trans
    ⟨.single (.selected c _ hmem (mem_withOperation _ _) rfl), rfl, rfl⟩
  exact hm.moves.trans
    (recordSettlement_moves (h.moves hm.moves) horder hentry (mem_withOperation _ _) rfl rfl hsettle)

/-- The order a decision is about. -/
theorem requireOrderDecision_bind_ok {α : Type} {orderId : Uuid} {k : PaymentOrder → FinanceTx α}
    {r : α × FinanceDb} (hx : (onOrders (requireOrderDecision orderId) >>= k) db = .ok r) :
    ∃ order ∈ db.orders.orders, order.orderId = orderId ∧ k order db = .ok r := by
  obtain ⟨order, m, hread, hk⟩ := bind_ok.mp (show (_ >>= k) db = .ok (r.1, r.2) from hx)
  obtain ⟨o, hfound, rfl⟩ := onOrders_ok.mp hread
  obtain ⟨hmem, hid, rfl⟩ := requireOrderDecision_ok hfound
  exact ⟨order, hmem, hid, hk⟩

theorem repeatAutoSettlement_ok {entry : LedgerEntry} {candidate : MatchCandidate} {existing : FinancialOperation}
    {r : ReconcileEntryResult} (hx : repeatAutoSettlement entry candidate existing db = .ok (r, db')) : db' = db := by
  unfold repeatAutoSettlement at hx
  simp only [require_bind_ok, readWith_bind_ok, orFail_bind_ok, pure_ok] at hx
  obtain ⟨-, -, -, -, -, h⟩ := hx
  exact h.symm

theorem autoSettleCandidate_moves {entry : LedgerEntry} {candidate : MatchCandidate} {r : ReconcileEntryResult}
    (h : Keys db) (hentry : entry ∈ db.ledger.entries)
    (hx : autoSettleCandidate pf entry candidate db.orders.clock db = .ok (r, db')) : Moves pf db db' := by
  unfold autoSettleCandidate at hx
  simp only [readWith_bind_ok, require_bind_ok] at hx
  obtain ⟨-, -, hx⟩ := hx
  obtain ⟨order, horder, -, hx⟩ := requireOrderDecision_bind_ok hx
  simp only [readWith_bind_ok, require_bind_ok, id] at hx
  obtain ⟨-, hx⟩ := hx
  cases hkey : readOperationByKey db (.autoSettlement candidate.candidateFingerprint) with
  | some existing =>
    simp only [hkey] at hx
    rw [repeatAutoSettlement_ok hx]
  | none =>
    simp only [hkey] at hx
    exact settleCandidate_moves h horder hentry hx

theorem decideEntry_moves {entry : LedgerEntry} {overlap : SettledOrderOverlap} {candidates : List MatchCandidate}
    {r : ReconcileEntryResult} (h : Keys db) (hentry : entry ∈ db.ledger.entries) (hfrom : Pending entry.state)
    (hx : decideEntry pf entry db.orders.clock overlap candidates db = .ok (r, db')) : Moves pf db db' := by
  match candidates with
  | [] => exact reportUnmatched_moves h hentry hfrom hx
  | [candidate] =>
    simp only [decideEntry] at hx
    by_cases hover : 0 < overlap.count
    · rw [if_pos hover] at hx
      exact reportUnmatched_moves h hentry hfrom hx
    · rw [if_neg hover] at hx
      exact autoSettleCandidate_moves h hentry hx
  | a :: b :: rest => exact reportAmbiguous_moves h hentry hfrom hx

theorem reconcileCredit_moves {entry : LedgerEntry} {r : ReconcileEntryResult} (h : Keys db)
    (hentry : entry ∈ db.ledger.entries) (hfrom : Pending entry.state)
    (hx : reconcileCredit pf entry db.orders.clock db = .ok (r, db')) : Moves pf db db' := by
  unfold reconcileCredit at hx
  rw [readWith_bind_ok] at hx
  obtain ⟨ensured, m, hcollect, hx⟩ := bind_ok.mp hx
  have hm : Beside pf db m :=
    collect_beside (f := fun now fact => ensureCandidate pf entry now fact) ensureCandidate_ok hcollect
  obtain ⟨_, m', hstale, hx⟩ := bind_ok.mp hx
  rw [← hm.orders] at hstale hx
  have hm' : Beside pf m m' := supersedeStaleEligibleCandidates_ok hstale
  have hboth := hm.trans hm'
  rw [← hm'.orders] at hx
  exact hboth.moves.trans (decideEntry_moves (h.moves hboth.moves) (by rw [hboth.ledger]; exact hentry) hfrom hx)

theorem reconcileFound_moves {entry : LedgerEntry} {r : ReconcileEntryResult} (h : Keys db)
    (hentry : entry ∈ db.ledger.entries) (hx : reconcileFound pf entry db.orders.clock db = .ok (r, db')) :
    Moves pf db db' := by
  unfold reconcileFound at hx
  rw [readWith_bind_ok] at hx
  by_cases haside : db.setAside entry = true
  · rw [id, if_pos haside] at hx
    exact (pure_ok.mp hx).2 ▸ .refl
  · rw [id, if_neg haside] at hx
    cases hactive : readActiveMatchForEntry db entry.ledgerEntryId with
    | some active =>
      simp only [hactive, pure_ok] at hx
      exact hx.2 ▸ .refl
    | none =>
      simp only [hactive, require_bind_ok] at hx
      obtain ⟨hstate, hx⟩ := hx
      refine reconcileCredit_moves h hentry ?_ hx
      simp only [FinanceDb.setAside, Bool.or_eq_true, decide_eq_true_eq, not_or] at haside
      unfold Pending
      cases hs : entry.state <;> simp_all

variable (pf) in
/-- The clock reading of a decision. -/
theorem financialNow_moves {now : Int} {α : Type} {k : Nat → FinanceTx α} {r : α × FinanceDb}
    (hx : (onOrders (financialNow now) >>= k) db = .ok r) :
    ∃ m, Moves pf db m ∧ m.ledger = db.ledger ∧ m.orders.orders = db.orders.orders ∧
      m.paymentMatches = db.paymentMatches ∧ k m.orders.clock m = .ok r := by
  obtain ⟨n, m, hnow, hx⟩ := bind_ok.mp (show (_ >>= k) db = .ok (r.1, r.2) from hx)
  obtain ⟨o, hclock, rfl⟩ := onOrders_ok.mp hnow
  obtain ⟨hle, -, hsafe, rfl⟩ := financialNow_ok hclock
  exact ⟨_, .single (.order (.clock n hle hsafe)), rfl, rfl, rfl, hx⟩

theorem reconcileEntry_moves {ledgerEntryId : String} {now : Int} {r : ReconcileEntryResult} (h : Keys db)
    (hx : reconcileEntry pf ledgerEntryId now db = .ok (r, db')) : Moves pf db db' := by
  unfold reconcileEntry at hx
  rw [readWith_bind_ok] at hx
  by_cases hsandbox : (db.entry ledgerEntryId).any db.isSandbox = true
  · rw [id, if_pos hsandbox] at hx
    exact (pure_ok.mp hx).2 ▸ .refl
  · rw [id, if_neg hsandbox] at hx
    obtain ⟨m, hm, hledger, -, -, hx⟩ := financialNow_moves pf hx
    cases hentry : db.entry ledgerEntryId with
    | none =>
      simp only [hentry, pure_ok] at hx
      exact hx.2 ▸ hm
    | some entry =>
      simp only [hentry] at hx
      refine hm.trans (reconcileFound_moves (h.moves hm) ?_ hx)
      rw [hledger]
      exact List.mem_of_find?_eq_some hentry

theorem reconcileEach_moves {now : Int} :
    ∀ {ids : List String} {db : FinanceDb}, Keys db → Moves pf db (reconcileEach pf now ids db)
  | [], _, _ => .refl
  | id :: ids, db, h => by
    unfold reconcileEach
    cases hx : reconcileEntry pf id now db with
    | error e => exact .refl
    | ok p =>
      have hm := reconcileEntry_moves h hx
      exact hm.trans (reconcileEach_moves (h.moves hm))

theorem recordManualSettlement_moves {input : ManualSettlementInput} {entry : LedgerEntry} {order : PaymentOrder}
    {paymentMatchId : Uuid} {result : FinancialDecisionResult} (h : Keys db) (horder : order ∈ db.orders.orders)
    (hentry : entry ∈ db.ledger.entries)
    (hx : recordManualSettlement pf input entry order paymentMatchId db.orders.clock db = .ok (result, db')) :
    Moves pf db db' := by
  unfold recordManualSettlement at hx
  obtain ⟨_, m, hstale, hx⟩ := bind_ok.mp hx
  have hm : Beside pf db m := supersedeStaleEligibleCandidates_ok hstale
  rw [insertFinancialOperation_bind_ok] at hx
  obtain ⟨hfits, hx⟩ := hx
  obtain ⟨_, m', hsettle, hx⟩ := bind_ok.mp hx
  obtain ⟨-, rfl⟩ := decisionResult_ok.mp hx
  have hop : Beside pf db (m.withOperation _) := hm.trans (.withOperation hfits (by rw [hm.orders]; rfl) rfl)
  refine hop.moves.trans (recordSettlement_moves (h.moves hop.moves) ?_ ?_ ?_ rfl ?_ hsettle)
  · rw [hop.orders]; exact horder
  · rw [hop.ledger]; exact hentry
  · exact mem_withOperation _ _
  · rw [hop.orders]; rfl

theorem assertSiteLedger_ok {clientId : Option String} {ledgerEntryId : String} {u : Unit}
    (hx : assertSiteLedger clientId ledgerEntryId db = .ok (u, db')) : db = db' := by
  unfold assertSiteLedger at hx
  rw [readWith_bind_ok, require_ok] at hx
  exact hx.2

theorem assertSiteOrder_ok {clientId : Option String} {orderId : Uuid} {u : Unit}
    (hx : assertSiteOrder clientId orderId db = .ok (u, db')) :
    (∀ client ∈ scopedTo clientId, inSite db.orders client orderId) ∧ db = db' := by
  unfold assertSiteOrder at hx
  rwa [readWith_bind_ok, require_ok] at hx

theorem settleNewly_moves {input : ManualSettlementInput} {paymentMatchId : Uuid} {result : FinancialDecisionResult}
    (h : Keys db) (hx : settleNewly pf input paymentMatchId db.orders.clock db = .ok (result, db')) :
    Moves pf db db' := by
  unfold settleNewly at hx
  obtain ⟨_, m, hsite, hx⟩ := bind_ok.mp hx
  obtain rfl := assertSiteLedger_ok hsite
  obtain ⟨entry, m, hfound, hx⟩ := bind_ok.mp hx
  obtain ⟨hentry, -, rfl⟩ := requireLedgerEntry_ok hfound
  obtain ⟨order, horder, -, hx⟩ := requireOrderDecision_bind_ok hx
  rw [readWith_bind_ok, require_bind_ok] at hx
  exact recordManualSettlement_moves h horder hentry hx.2

/-- The identifier of the match may be drawn; nothing else happens. -/
theorem settlementMatchId_ok {from_ : FinanceDb} {operationId paymentMatchId : Uuid}
    (hx : settlementMatchId from_ operationId db = .ok (paymentMatchId, db')) :
    ∃ drawn, db' = { db with drawn := drawn } := by
  unfold settlementMatchId at hx
  cases hop : (readOperation from_ operationId).filter (·.operationType = .MANUAL_SETTLEMENT) with
  | none =>
    simp only [hop] at hx
    exact ⟨_, (randomUUID_ok.mp hx).2⟩
  | some operation =>
    simp only [hop] at hx
    cases hm : readPaymentMatchByCreationOperation from_ operation.financialOperationId with
    | none =>
      simp only [hm] at hx
      exact ⟨_, (randomUUID_ok.mp hx).2⟩
    | some m =>
      simp only [hm] at hx
      exact ⟨db.drawn, (pure_ok.mp hx).2.symm⟩

theorem readDecisionReplay_ok {operationId : Uuid} {input : FinancialOperationFingerprintInput}
    {replay : Option FinancialOperation} (hx : readDecisionReplay pf operationId input db = .ok (replay, db')) :
    replay = readOperation db operationId ∧ db = db' ∧ ∀ existing ∈ replay,
      existing.operationKey = .admin operationId ∧
      existing.requestFingerprint = financialOperationFingerprint pf input ∧
      existing.operationType = input.operationType := by
  unfold readDecisionReplay at hx
  rw [readWith_bind_ok] at hx
  cases hread : readOperation db operationId with
  | none =>
    simp only [hread, pure_ok] at hx
    obtain ⟨rfl, rfl⟩ := hx
    exact ⟨rfl, rfl, by simp⟩
  | some existing =>
    simp only [hread, require_bind_ok, pure_ok] at hx
    obtain ⟨hsame, rfl, rfl⟩ := hx
    exact ⟨rfl, rfl, fun e he => Option.some.inj he ▸ hsame⟩

theorem settleManually_moves {input : ManualSettlementInput} {result : FinancialDecisionResult} (h : Keys db)
    (hx : settleManually pf input db = .ok (result, db')) : Moves pf db db' := by
  unfold settleManually at hx
  obtain ⟨_, m, hsite, hx⟩ := bind_ok.mp hx
  obtain ⟨-, rfl⟩ := assertSiteOrder_ok hsite
  obtain ⟨m, hm, -, -, -, hx⟩ := financialNow_moves pf hx
  rw [readWith_bind_ok] at hx
  obtain ⟨paymentMatchId, m1, hid, hx⟩ := bind_ok.mp hx
  obtain ⟨drawn, rfl⟩ := settlementMatchId_ok hid
  obtain ⟨replay, m2, hreplay, hx⟩ := bind_ok.mp hx
  obtain ⟨-, rfl, -⟩ := readDecisionReplay_ok hreplay
  have hdrew : Moves pf db { m with drawn := drawn } := hm.tail (.drew drawn)
  cases replay with
  | some operation =>
    obtain ⟨-, rfl⟩ := decisionResult_ok.mp hx
    exact hdrew
  | none => exact hdrew.trans (settleNewly_moves (h.moves hdrew) hx)

theorem reverseNewly_moves {input : FinancialDecisionInput} {m : PaymentMatch} {result : FinancialDecisionResult}
    (h : Keys db) (hm : m ∈ db.paymentMatches)
    (hx : reverseNewly pf input m db.orders.clock db = .ok (result, db')) : Moves pf db db' := by
  unfold reverseNewly at hx
  rw [require_bind_ok] at hx
  obtain ⟨⟨hsettled, -⟩, hx⟩ := hx
  obtain ⟨entry, d, hfound, hx⟩ := bind_ok.mp hx
  obtain ⟨hentry, hentryId, rfl⟩ := requireLedgerEntry_ok hfound
  obtain ⟨_, d, hsite, hx⟩ := bind_ok.mp hx
  obtain rfl := assertSiteLedger_ok hsite
  obtain ⟨order, horder, horderId, hx⟩ := requireOrderDecision_bind_ok hx
  rw [require_bind_ok] at hx
  obtain ⟨⟨hallocated, -⟩, hx⟩ := hx
  obtain ⟨amount, exceptions, drawn, hfits, hfrom, hreverses, rfl, -⟩ :=
    recordReversal_ok h.orders.orderIds horder h.entries hentry h.paymentMatches hm hsettled hx
  refine .trans (.single (.operation _ hfits rfl rfl)) (.trans (.single (.reverses _ ⟨hreverses, horder, horderId,
    hentry, hentryId, hm, hsettled, hallocated, ?_, rfl, rfl⟩)) (Beside.exceptions ?_ drawn).moves)
  · exact mem_withOperation _ _
  · exact hfrom

theorem reverseSettlement_moves {input : FinancialDecisionInput} {result : FinancialDecisionResult} (h : Keys db)
    (hx : reverseSettlement pf input db = .ok (result, db')) : Moves pf db db' := by
  unfold reverseSettlement at hx
  obtain ⟨d, hd, -, -, -, hx⟩ := financialNow_moves pf hx
  rw [readWith_bind_ok, orFail_bind_ok] at hx
  obtain ⟨m, hm, hx⟩ := hx
  obtain ⟨_, d', hsite, hx⟩ := bind_ok.mp hx
  obtain ⟨-, rfl⟩ := assertSiteOrder_ok hsite
  rw [readWith_bind_ok] at hx
  obtain ⟨replay, d', hreplay, hx⟩ := bind_ok.mp hx
  obtain ⟨-, rfl, -⟩ := readDecisionReplay_ok hreplay
  cases replay with
  | some operation =>
    obtain ⟨-, rfl⟩ := decisionResult_ok.mp hx
    exact hd
  | none => exact hd.trans (reverseNewly_moves (h.moves hd) (List.mem_of_find?_eq_some hm) hx)

/-! ## The system -/

theorem order_moves {o : OrderDb} (h : Relation.ReflTransGen (OrderStep pf.orders) db.orders o) :
    Moves pf db { db with orders := o } := by
  induction h with
  | refl => exact .refl
  | tail _ hs ih => exact ih.tail (.order hs)

/-- A transaction that is made of moves, committed or rolled back. -/
theorem committed_moves {α : Type} {x : FinanceTx α} (hx : ∀ {a db'}, x db = .ok (a, db') → Moves pf db db') :
    Moves pf db (committed x db) := by
  rcases committed_cases x db with ⟨a, h⟩ | ⟨-, h⟩
  · exact hx h
  · rw [h]

/-- **Every call is a sequence of moves.** -/
theorem FinanceOp.run_moves (h : Keys db) (op : FinanceOp) : Moves pf db (op.run pf db) := by
  cases op with
  | order op =>
    refine committed_moves fun hx => ?_
    obtain ⟨o, hrun, rfl⟩ := onOrders_ok.mp hx
    exact order_moves (OrderOp.run_steps hrun)
  | ledger op =>
    refine committed_moves fun hx => ?_
    obtain ⟨l, hrun, rfl⟩ := onLedger_ok.mp hx
    exact .single (.ledger op hrun)
  | reconcileEntry ledgerEntryId now => exact committed_moves fun hx => reconcileEntry_moves h hx
  | reconcileOrder orderId limit now =>
    show Moves pf db (Finance.reconcileOrder pf orderId limit now db)
    unfold Finance.reconcileOrder
    split
    · exact reconcileEach_moves h
    · exact .refl
  | settleManually input => exact committed_moves fun hx => settleManually_moves h hx
  | reverseSettlement input => exact committed_moves fun hx => reverseSettlement_moves h hx

theorem financeStore_moves {l : FinanceOp × Entropy} (h : Keys db) (hs : (financeStore pf).step db l db') :
    Moves pf db db' := by
  rw [show db' = l.1.run pf (db.supplied l.2) from hs]
  have hm : Moves pf db (db.supplied l.2) := .single (.supplied l.2)
  exact hm.trans (FinanceOp.run_moves (h.moves hm) l.1)

theorem Keys.reachable (hr : Runs.Reachable (financeStore pf) db) : Keys db :=
  hr.invariant (fun _ => Keys.empty) fun _ _ _ h hs => h.moves (financeStore_moves h hs)

/-- **Invariant rule.** What holds of empty tables and survives every move, given the keys, holds in
    every state the system can reach. -/
theorem reachable_invariant {I : FinanceDb → Prop} (h0 : ∀ db, FinanceDb.Empty db → I db)
    (hstep : ∀ {db db'}, Keys db → I db → Move pf db db' → I db') (hr : Runs.Reachable (financeStore pf) db) :
    I db := by
  have hboth : Keys db ∧ I db := by
    refine hr.invariant (I := fun db => Keys db ∧ I db) (fun d h => ⟨Keys.empty h, h0 d h⟩) ?_
    intro d l d' h hs
    exact (financeStore_moves h.1 hs).invariant (I := fun db => Keys db ∧ I db)
      (fun h hm => ⟨h.1.move hm, hstep h.1 h.2 hm⟩) h
  exact hboth.2

end PerPay.Finance
