/-
  **The books agree** — matches, order states, entry states and postings say the same thing.

  Four paths write a match, the state of its order, the state of its entry and two postings, in
  separate statements of one transaction.  `Books db o` says what an order in each payment state looks
  like in the other tables: unpaid, it has no match and nothing posted; confirmed, exactly one match,
  settled, whose entry paid the amount received; disputed, that one match reversed, and the postings
  cancel.  Every move restores it, a settlement and a reversal by going from one case to the next.
-/
import PerPay.Finance.Moves
import PerPay.Orders.Events

namespace PerPay.Finance

open Txn Table Orders Ledger

variable {pf : FinancePlatform} {db db' : FinanceDb}

/-! ## What the books say -/

/-- The matches of an order. -/
def FinanceDb.matchesOf (db : FinanceDb) (orderId : Uuid) : List PaymentMatch :=
  db.paymentMatches.filter fun m => m.orderId = orderId

/-- What a posting adds to the settlement account of an order. -/
def LedgerPosting.settlementCredit (p : LedgerPosting) : Int :=
  match p.accountCode, p.side with
  | .ORDER_SETTLEMENT, .CREDIT => p.amountCents
  | .ORDER_SETTLEMENT, .DEBIT => -p.amountCents
  | .PROVIDER_CASH, _ => 0

/-- The net `ORDER_SETTLEMENT` credit of an order. -/
def FinanceDb.netSettlement (db : FinanceDb) (orderId : Uuid) : Int :=
  ((db.postings.filter fun p => p.orderId = orderId).map LedgerPosting.settlementCredit).sum

/-- What the other tables say about an order, by its payment state. -/
inductive Books (db : FinanceDb) (o : PaymentOrder) : Prop
  | unpaid (hstatus : o.paymentStatus = .UNPAID) (hmatches : db.matchesOf o.orderId = [])
      (hnet : db.netSettlement o.orderId = 0)
  | confirmed (m : PaymentMatch) (e : LedgerEntry) (hstatus : o.paymentStatus = .CONFIRMED)
      (hmatches : db.matchesOf o.orderId = [m]) (hsettled : m.status = .SETTLED)
      (hentry : e ∈ db.ledger.entries) (hid : e.ledgerEntryId = m.ledgerEntryId)
      (hreceived : o.receivedAmountCents = some e.facts.amountCents)
      (hnet : db.netSettlement o.orderId = e.facts.amountCents)
  | disputed (m : PaymentMatch) (hstatus : o.paymentStatus = .DISPUTED)
      (hmatches : db.matchesOf o.orderId = [m]) (hreversed : m.status = .REVERSED)
      (hnet : db.netSettlement o.orderId = 0)

structure FinanceInv (db : FinanceDb) : Prop where
  matchOrder : ∀ m ∈ db.paymentMatches, ∃ o ∈ db.orders.orders, o.orderId = m.orderId
  matchEntry : ∀ m ∈ db.paymentMatches, ∃ e ∈ db.ledger.entries, e.ledgerEntryId = m.ledgerEntryId
  postingOrder : ∀ p ∈ db.postings, ∃ o ∈ db.orders.orders, o.orderId = p.orderId
  postingTransaction : ∀ p ∈ db.postings, ∃ t ∈ db.transactions, t.ledgerTransactionId = p.ledgerTransactionId
  books : ∀ o ∈ db.orders.orders, Books db o
  allocated : ∀ e ∈ db.ledger.entries, e.state = .ALLOCATED ↔
    ∃ m ∈ db.paymentMatches, m.ledgerEntryId = e.ledgerEntryId ∧ m.status = .SETTLED
  oneSettled : ∀ m ∈ db.paymentMatches, ∀ m' ∈ db.paymentMatches, m.status = .SETTLED → m'.status = .SETTLED →
    m.ledgerEntryId = m'.ledgerEntryId → m = m'
  balanced : ∀ t ∈ db.transactions, sideTotal .DEBIT (db.postingsOf t.ledgerTransactionId) =
    sideTotal .CREDIT (db.postingsOf t.ledgerTransactionId)

theorem FinanceInv.empty (h : FinanceDb.Empty db) : FinanceInv db where
  matchOrder := by rw [h.paymentMatches]; simp
  matchEntry := by rw [h.paymentMatches]; simp
  postingOrder := by rw [h.postings]; simp
  postingTransaction := by rw [h.postings]; simp
  books := by rw [h.orders.orders]; simp
  allocated := by rw [h.ledger.entries]; simp
  oneSettled := by rw [h.paymentMatches]; simp
  balanced := by rw [h.transactions]; simp

/-! ## Moves that leave the books alone -/

/-- Every entry is still there, with its facts. -/
def EntriesKept (l l' : LedgerDb) : Prop :=
  ∀ e ∈ l.entries, ∃ e' ∈ l'.entries, e'.ledgerEntryId = e.ledgerEntryId ∧ e'.facts = e.facts

theorem EntriesKept.refl (l : LedgerDb) : EntriesKept l l := fun e he => ⟨e, he, rfl, rfl⟩

theorem EntriesKept.grows {l l' : LedgerDb} (h : Grows l l') : EntriesKept l l' := by
  intro e he
  obtain ⟨added, hadded, -⟩ := h.added
  exact ⟨e, by rw [hadded]; exact List.mem_append_left _ he, rfl, rfl⟩

/-- Either the state of the entry, or nothing. -/
theorem mem_withState {entry e : LedgerEntry} {state : LedgerEntryState} {now : Nat} {l : LedgerDb}
    (hu : UniqueOn (·.ledgerEntryId) l.entries) (hmem : entry ∈ l.entries)
    (he : e ∈ (withState entry state now l).entries) :
    (e ∈ l.entries ∧ e.ledgerEntryId ≠ entry.ledgerEntryId) ∨
      (e.ledgerEntryId = entry.ledgerEntryId ∧ e.facts = entry.facts ∧ e.state = state) := by
  unfold withState at he
  by_cases hs : entry.state = state
  · rw [if_pos hs] at he
    by_cases hid : e.ledgerEntryId = entry.ledgerEntryId
    · obtain rfl := hu.eq he hmem hid
      exact .inr ⟨rfl, rfl, hs⟩
    · exact .inl ⟨he, hid⟩
  · rw [if_neg hs] at he
    rcases mem_updateWhere.mp he with ⟨e0, h0, hid, rfl⟩ | ⟨h0, hid⟩
    · obtain rfl := hu.eq h0 hmem (by simpa using hid)
      exact .inr ⟨rfl, rfl, rfl⟩
    · exact .inl ⟨h0, by simpa using hid⟩

theorem EntriesKept.withState {l : LedgerDb} (entry : LedgerEntry) (state : LedgerEntryState) (now : Nat) :
    EntriesKept l (withState entry state now l) := by
  intro e he
  unfold Finance.withState
  by_cases hs : entry.state = state
  · rw [if_pos hs]
    exact ⟨e, he, rfl, rfl⟩
  · rw [if_neg hs]
    by_cases hid : e.ledgerEntryId = entry.ledgerEntryId
    · exact ⟨_, mem_updateWhere.mpr (.inl ⟨e, he, by simpa using hid, rfl⟩), rfl, rfl⟩
    · exact ⟨e, mem_updateWhere.mpr (.inr ⟨he, by simpa using hid⟩), rfl, rfl⟩

/-- The books of an order are about its payment columns and three tables. -/
theorem Books.framed {o o' : PaymentOrder} (h : Books db o) (hid : o'.orderId = o.orderId)
    (hstatus : o'.paymentStatus = o.paymentStatus) (hreceived : o'.receivedAmountCents = o.receivedAmountCents)
    (hmatches : db'.matchesOf o.orderId = db.matchesOf o.orderId)
    (hnet : db'.netSettlement o.orderId = db.netSettlement o.orderId)
    (hentries : EntriesKept db.ledger db'.ledger) : Books db' o' := by
  cases h with
  | unpaid h1 h2 h3 => exact .unpaid (hstatus.trans h1) (by rw [hid, hmatches, h2]) (by rw [hid, hnet, h3])
  | confirmed m e h1 h2 h3 h4 h5 h6 h7 =>
    obtain ⟨e', he', heid, hfacts⟩ := hentries e h4
    exact .confirmed m e' (hstatus.trans h1) (by rw [hid, hmatches, h2]) h3 he' (heid.trans h5)
      (by rw [hreceived, h6, hfacts]) (by rw [hid, hnet, h7, hfacts])
  | disputed m h1 h2 h3 h4 =>
    exact .disputed m (hstatus.trans h1) (by rw [hid, hmatches, h2]) h3 (by rw [hid, hnet, h4])

/-- Moves of the other tables. -/
theorem FinanceInv.framed (h : FinanceInv db) (ho : db'.orders.orders = db.orders.orders)
    (hl : db'.ledger.entries = db.ledger.entries) (hm : db'.paymentMatches = db.paymentMatches)
    (ht : db'.transactions = db.transactions) (hp : db'.postings = db.postings) : FinanceInv db' where
  matchOrder := by rw [hm, ho]; exact h.matchOrder
  matchEntry := by rw [hm, hl]; exact h.matchEntry
  postingOrder := by rw [hp, ho]; exact h.postingOrder
  postingTransaction := by rw [hp, ht]; exact h.postingTransaction
  books := by
    rw [ho]
    intro o hmem
    refine (h.books o hmem).framed rfl rfl rfl ?_ ?_ fun e he => ⟨e, by rw [hl]; exact he, rfl, rfl⟩
    · unfold FinanceDb.matchesOf; rw [hm]
    · unfold FinanceDb.netSettlement; rw [hp]
  allocated := by rw [hl, hm]; exact h.allocated
  oneSettled := by rw [hm]; exact h.oneSettled
  balanced := by
    unfold FinanceDb.postingsOf
    rw [ht, hp]
    exact h.balanced

/-- Orders whose identifiers and payment columns are kept, and new unpaid ones. -/
theorem FinanceInv.reordered (h : FinanceInv db) {o : OrderDb}
    (hkept : ∀ x ∈ db.orders.orders, ∃ x' ∈ o.orders, x'.orderId = x.orderId)
    (hfrom : ∀ x' ∈ o.orders, (∃ x ∈ db.orders.orders, x'.orderId = x.orderId ∧
        x'.paymentStatus = x.paymentStatus ∧ x'.receivedAmountCents = x.receivedAmountCents) ∨
      (x'.paymentStatus = .UNPAID ∧ ∀ x ∈ db.orders.orders, x.orderId ≠ x'.orderId)) :
    FinanceInv { db with orders := o } where
  matchOrder m hm := by
    obtain ⟨x, hx, hid⟩ := h.matchOrder m hm
    obtain ⟨x', hx', hid'⟩ := hkept x hx
    exact ⟨x', hx', hid'.trans hid⟩
  matchEntry := h.matchEntry
  postingOrder p hp := by
    obtain ⟨x, hx, hid⟩ := h.postingOrder p hp
    obtain ⟨x', hx', hid'⟩ := hkept x hx
    exact ⟨x', hx', hid'.trans hid⟩
  postingTransaction := h.postingTransaction
  books x' hx' := by
    rcases hfrom x' hx' with ⟨x, hx, hid, hstatus, hreceived⟩ | ⟨hstatus, hfresh⟩
    · exact (h.books x hx).framed hid hstatus hreceived rfl rfl (.refl _)
    · refine .unpaid hstatus ?_ ?_
      · refine List.filter_eq_nil_iff.mpr fun m hm hid => ?_
        obtain ⟨x, hx, hxid⟩ := h.matchOrder m hm
        exact hfresh x hx (hxid.trans (by simpa using hid))
      · have hnone : db.postings.filter (fun p => p.orderId = x'.orderId) = [] := by
          refine List.filter_eq_nil_iff.mpr fun p hp hid => ?_
          obtain ⟨x, hx, hxid⟩ := h.postingOrder p hp
          exact hfresh x hx (hxid.trans (by simpa using hid))
        show (List.map _ _).sum = 0
        rw [hnone]
        rfl
  allocated := h.allocated
  oneSettled := h.oneSettled
  balanced := h.balanced

theorem FinanceInv.orderStep (h : FinanceInv db) {o : OrderDb}
    (hs : OrderStep pf.orders db.orders o) : FinanceInv { db with orders := o } := by
  cases hs with
  | clock now hle hsafe => exact h.framed rfl rfl rfl rfl rfl
  | configured configuration hext => exact h.framed rfl rfl rfl rfl rfl
  | ends order status hends =>
    rw [hends.result]
    refine h.reordered (fun x hx => ?_) fun x' hx' => .inl ?_
    · refine ⟨_, List.mem_map_of_mem hx, ?_⟩
      split
      · exact Eq.symm ‹_›
      · rfl
    · rcases mem_putOrder hx' with rfl | ⟨hx, -⟩
      · exact ⟨order, hends.mem, rfl, rfl, rfl⟩
      · exact ⟨x', hx, rfl, rfl, rfl⟩
  | inserted input rnd profile amount generation cooldown key hrows =>
    refine h.reordered (fun x hx => ?_) fun x' hx' => ?_
    · exact ⟨x, by rw [hrows.orders]; exact List.mem_append_left _ hx, rfl⟩
    · rw [hrows.orders] at hx'
      rcases List.mem_append.mp hx' with hx' | hx'
      · exact .inl ⟨x', hx', rfl, rfl, rfl⟩
      · rw [List.mem_singleton.mp hx']
        exact .inr ⟨rfl, fun x hx => (hrows.fresh x hx).orderId⟩

/-- A change of the ledger that allocates and frees no entry. -/
theorem FinanceInv.reledgered (h : FinanceInv db) {l : LedgerDb} (hkept : EntriesKept db.ledger l)
    (hfrom : ∀ e' ∈ l.entries, (∃ e ∈ db.ledger.entries, e'.ledgerEntryId = e.ledgerEntryId ∧
        (e'.state = .ALLOCATED ↔ e.state = .ALLOCATED)) ∨
      (e'.state = .UNALLOCATED ∧ ∀ e ∈ db.ledger.entries, e.ledgerEntryId ≠ e'.ledgerEntryId)) :
    FinanceInv { db with ledger := l } where
  matchOrder := h.matchOrder
  matchEntry m hm := by
    obtain ⟨e, he, hid⟩ := h.matchEntry m hm
    obtain ⟨e', he', hid', -⟩ := hkept e he
    exact ⟨e', he', hid'.trans hid⟩
  postingOrder := h.postingOrder
  postingTransaction := h.postingTransaction
  books o ho := (h.books o ho).framed rfl rfl rfl rfl rfl hkept
  allocated e' he' := by
    rcases hfrom e' he' with ⟨e, he, hid, hstate⟩ | ⟨hstate, hfresh⟩
    · rw [hstate, h.allocated e he, hid]
    · rw [hstate]
      constructor
      · intro hs
        cases hs
      · rintro ⟨m, hm, hid, -⟩
        obtain ⟨e, he, heid⟩ := h.matchEntry m hm
        exact absurd (heid.trans hid) (hfresh e he)
  oneSettled := h.oneSettled
  balanced := h.balanced

/-! ## The postings of a decision -/

section accounting
variable {input : AccountingInput} (hposts : Posts input db)
  (htransactions : db'.transactions = db.transactions ++ [input.transaction db])
  (hpostings : db'.postings = db.postings ++ [input.debit db] ++ [input.credit db])
include hpostings

/-- What the two postings add to the settlement account of an order. -/
theorem netSettlement_posted (orderId : Uuid) :
    db'.netSettlement orderId = db.netSettlement orderId +
      if input.orderId = orderId then (input.debit db).settlementCredit + (input.credit db).settlementCredit
      else 0 := by
  unfold FinanceDb.netSettlement
  rw [hpostings, List.filter_append, List.filter_append, List.map_append, List.map_append, List.sum_append,
    List.sum_append]
  by_cases hid : input.orderId = orderId
  · have hdebit : [input.debit db].filter (fun p => p.orderId = orderId) = [input.debit db] :=
      filter_append_in (r := input.debit db) (decide_eq_true hid) []
    have hcredit : [input.credit db].filter (fun p => p.orderId = orderId) = [input.credit db] :=
      filter_append_in (r := input.credit db) (decide_eq_true hid) []
    rw [hdebit, hcredit, if_pos hid]
    simp [add_assoc]
  · have hdebit : [input.debit db].filter (fun p => p.orderId = orderId) = [] :=
      filter_append_out (r := input.debit db) (decide_eq_false hid) []
    have hcredit : [input.credit db].filter (fun p => p.orderId = orderId) = [] :=
      filter_append_out (r := input.credit db) (decide_eq_false hid) []
    rw [hdebit, hcredit, if_neg hid]
    simp

theorem postingOrder_posted (h : FinanceInv db) {o : List PaymentOrder}
    (hkept : ∀ x ∈ db.orders.orders, ∃ x' ∈ o, x'.orderId = x.orderId)
    (horder : ∃ x ∈ db.orders.orders, x.orderId = input.orderId) {p : LedgerPosting} (hp : p ∈ db'.postings) :
    ∃ x' ∈ o, x'.orderId = p.orderId := by
  have hfound : ∃ x ∈ db.orders.orders, x.orderId = p.orderId := by
    rw [hpostings] at hp
    rcases List.mem_append.mp hp with hp | hp
    · rcases List.mem_append.mp hp with hp | hp
      · exact h.postingOrder p hp
      · rw [List.mem_singleton.mp hp]; exact horder
    · rw [List.mem_singleton.mp hp]; exact horder
  obtain ⟨x, hx, hid⟩ := hfound
  obtain ⟨x', hx', hid'⟩ := hkept x hx
  exact ⟨x', hx', hid'.trans hid⟩

include htransactions

theorem postingTransaction_posted (h : FinanceInv db) {p : LedgerPosting} (hp : p ∈ db'.postings) :
    ∃ t ∈ db'.transactions, t.ledgerTransactionId = p.ledgerTransactionId := by
  have hnew : input.transaction db ∈ db'.transactions := by
    rw [htransactions]
    exact List.mem_append_right _ (List.mem_singleton.mpr rfl)
  rw [hpostings] at hp
  rcases List.mem_append.mp hp with hp | hp
  · rcases List.mem_append.mp hp with hp | hp
    · obtain ⟨t, ht, hid⟩ := h.postingTransaction p hp
      exact ⟨t, by rw [htransactions]; exact List.mem_append_left _ ht, hid⟩
    · rw [List.mem_singleton.mp hp]; exact ⟨_, hnew, rfl⟩
  · rw [List.mem_singleton.mp hp]; exact ⟨_, hnew, rfl⟩

include hposts

/-- The new transaction was checked when it was posted; no other one has new postings. -/
theorem balanced_posted (h : FinanceInv db) {t : LedgerTransaction} (ht : t ∈ db'.transactions) :
    sideTotal .DEBIT (db'.postingsOf t.ledgerTransactionId) =
      sideTotal .CREDIT (db'.postingsOf t.ledgerTransactionId) := by
  rw [htransactions] at ht
  rcases List.mem_append.mp ht with ht | ht
  · have hne : ¬ db.entropy db.drawn = t.ledgerTransactionId := fun he => (hposts.newTransaction t ht).1 he.symm
    have hsame : db'.postingsOf t.ledgerTransactionId = db.postingsOf t.ledgerTransactionId := by
      unfold FinanceDb.postingsOf
      rw [hpostings]
      exact (filter_append_out (r := input.credit db) (decide_eq_false hne) _).trans
        (filter_append_out (r := input.debit db) (decide_eq_false hne) _)
    rw [hsame]
    exact h.balanced t ht
  · rw [List.mem_singleton.mp ht]
    have hchecked := hposts.balanced
    simp only [FinanceDb.balanced, Bool.and_eq_true, decide_eq_true_eq] at hchecked
    have hsame : db'.postingsOf (db.entropy db.drawn) = (input.posted db).postingsOf (db.entropy db.drawn) := by
      unfold FinanceDb.postingsOf
      rw [hpostings]
      rfl
    show sideTotal .DEBIT (db'.postingsOf (db.entropy db.drawn)) =
      sideTotal .CREDIT (db'.postingsOf (db.entropy db.drawn))
    rw [hsame]
    exact hchecked.1.1

end accounting

/-! ## A settlement -/

/-- The entry of a new match is not allocated yet. -/
theorem SettlementMove.unallocated {s : SettlementFacts} (hs : SettlementMove s db) (hkeys : Keys db) :
    s.entry.state ≠ .ALLOCATED := by
  have hsupported := hs.supported
  simp only [FinanceDb.supportsMatch, List.any_eq_true, Bool.and_eq_true, decide_eq_true_eq] at hsupported
  obtain ⟨operation, -, entry, hentry, order, -, ⟨⟨⟨⟨⟨⟨⟨hid, -⟩, -⟩, -⟩, -⟩, -⟩, -⟩, -⟩, hbranch⟩ := hsupported
  obtain rfl := hkeys.entries.eq hentry hs.entryMem hid
  intro hallocated
  simp [FinanceDb.supportsAutoMatch, supportsManualMatch, hallocated] at hbranch

/-- No settled match names the entry or the order of a new one. -/
theorem SettlementMove.noSettled {s : SettlementFacts} (hs : SettlementMove s db) {m : PaymentMatch}
    (hm : m ∈ db.paymentMatches) (hsettled : m.status = .SETTLED) :
    m.ledgerEntryId ≠ s.entry.ledgerEntryId ∧ m.orderId ≠ s.order.orderId := by
  have hnew := hs.isNew
  simp only [FinanceDb.matchIsNew, List.all_eq_true, Bool.and_eq_true, Bool.not_eq_true'] at hnew
  have := (hnew m hm).2
  simp only [hsettled, SettlementFacts.paymentMatch, decide_true, Bool.true_and, Bool.or_eq_false_iff] at this
  exact ⟨of_decide_eq_false this.1, of_decide_eq_false this.2⟩

theorem SettlementMove.wasUnpaid {s : SettlementFacts} (hs : SettlementMove s db) :
    s.order.paymentStatus = .UNPAID := (paymentTransition_confirmed hs.pays.transition).1

theorem FinanceInv.settles (h : FinanceInv db) (hkeys : Keys db) {s : SettlementFacts}
    (hs : SettlementMove s db) : FinanceInv (s.recorded db) := by
  have hunpaid : db.matchesOf s.order.orderId = [] ∧ db.netSettlement s.order.orderId = 0 := by
    have hstatus := hs.wasUnpaid
    cases h.books s.order hs.orderMem with
    | unpaid _ h2 h3 => exact ⟨h2, h3⟩
    | confirmed _ _ h1 => rw [hstatus] at h1; cases h1
    | disputed _ h1 => rw [hstatus] at h1; cases h1
  obtain ⟨entry', hentry', hentryId, hfacts⟩ :=
    EntriesKept.withState s.entry .ALLOCATED s.now s.entry hs.entryMem
  refine ⟨?_, ?_, ?_, ?_, ?_, ?_, ?_, ?_⟩
  · intro m hm
    rcases List.mem_append.mp hm with hm | hm
    · obtain ⟨x, hx, hid⟩ := h.matchOrder m hm
      obtain ⟨x', hx', hid'⟩ := mem_putOrder_kept s.settled hx
      exact ⟨x', hx', hid'.trans hid⟩
    · rw [List.mem_singleton.mp hm]
      exact mem_putOrder_kept s.settled hs.orderMem
  · intro m hm
    rcases List.mem_append.mp hm with hm | hm
    · obtain ⟨e, he, hid⟩ := h.matchEntry m hm
      obtain ⟨e', he', hid', -⟩ := EntriesKept.withState s.entry .ALLOCATED s.now e he
      exact ⟨e', he', hid'.trans hid⟩
    · rw [List.mem_singleton.mp hm]
      exact ⟨entry', hentry', hentryId⟩
  · exact fun p hp => postingOrder_posted rfl h (fun x hx => mem_putOrder_kept _ hx) ⟨s.order, hs.orderMem, rfl⟩ hp
  · exact fun p hp => postingTransaction_posted rfl rfl h hp
  · intro o ho
    have hnet : ∀ orderId, (s.recorded db).netSettlement orderId = db.netSettlement orderId +
        if s.order.orderId = orderId then
          (s.accounting.debit db).settlementCredit + (s.accounting.credit db).settlementCredit
        else 0 := netSettlement_posted (show (s.recorded db).postings =
          db.postings ++ [s.accounting.debit db] ++ [s.accounting.credit db] from rfl)
    rcases mem_putOrder ho with rfl | ⟨ho, hne⟩
    · refine .confirmed s.paymentMatch entry' rfl ?_ rfl hentry' hentryId (by rw [hfacts]; rfl) ?_
      · show List.filter _ (_ ++ [s.paymentMatch]) = _
        rw [filter_append_in (by simp [SettlementFacts.paymentMatch, SettlementFacts.settled, paid])]
        exact congrArg (· ++ [s.paymentMatch]) hunpaid.1
      · rw [hnet, hfacts]
        show db.netSettlement s.order.orderId + (if s.order.orderId = s.order.orderId then _ else _) = _
        rw [if_pos rfl, hunpaid.2]
        simp [AccountingInput.debit, AccountingInput.credit, AccountingInput.posting, SettlementFacts.accounting,
          LedgerPosting.settlementCredit]
    · have hne' : ¬ s.order.orderId = o.orderId := fun he => hne he.symm
      refine (h.books o ho).framed rfl rfl rfl ?_ ?_ (EntriesKept.withState _ _ _)
      · show List.filter _ (_ ++ [s.paymentMatch]) = _
        exact filter_append_out (r := s.paymentMatch) (decide_eq_false hne') _
      · rw [hnet, if_neg hne', add_zero]
  · intro e he
    rcases mem_withState hkeys.entries hs.entryMem he with ⟨hold, hne⟩ | ⟨hid, -, hstate⟩
    · rw [h.allocated e hold]
      constructor
      · rintro ⟨m, hm, hm'⟩
        exact ⟨m, List.mem_append_left _ hm, hm'⟩
      · rintro ⟨m, hm, hid, hsettled⟩
        rcases List.mem_append.mp hm with hm | hm
        · exact ⟨m, hm, hid, hsettled⟩
        · rw [List.mem_singleton.mp hm] at hid
          exact absurd hid.symm hne
    · refine iff_of_true hstate ⟨s.paymentMatch, List.mem_append_right _ (List.mem_singleton.mpr rfl), hid.symm, rfl⟩
  · intro m hm m' hm' hsettled hsettled' hsame
    rcases List.mem_append.mp hm with hm | hm
    · rcases List.mem_append.mp hm' with hm' | hm'
      · exact h.oneSettled m hm m' hm' hsettled hsettled' hsame
      · rw [List.mem_singleton.mp hm'] at hsame
        exact absurd hsame (hs.noSettled hm hsettled).1
    · rcases List.mem_append.mp hm' with hm' | hm'
      · rw [List.mem_singleton.mp hm] at hsame
        exact absurd hsame.symm (hs.noSettled hm' hsettled').1
      · rw [List.mem_singleton.mp hm, List.mem_singleton.mp hm']
  · exact fun t ht => balanced_posted hs.posts rfl rfl h ht

/-! ## A reversal -/

/-- The payment state a reversal leaves from. -/
theorem paymentTransition_disputed {order : PaymentOrder} {basis : PaymentBasis} {received : Option Nat} {now : Nat}
    (h : paymentTransition order (paid order .DISPUTED basis received now)) : order.paymentStatus = .CONFIRMED := by
  simp only [paymentTransition, paid, Bool.or_eq_true, Bool.and_eq_true, decide_eq_true_eq] at h
  rcases h with ⟨⟨⟨-, h⟩, -⟩, -⟩ | ⟨⟨⟨h, -⟩, -⟩, -⟩
  · cases h
  · exact h

theorem FinanceInv.reverses (h : FinanceInv db) (hkeys : Keys db) {r : ReversalFacts}
    (hr : ReversalMove r db) : FinanceInv (r.recorded db) := by
  have hconfirmed : db.matchesOf r.order.orderId = [r.paymentMatch] ∧
      db.netSettlement r.order.orderId = r.amount := by
    have hstatus := paymentTransition_disputed hr.pays.transition
    cases h.books r.order hr.orderMem with
    | unpaid h1 => rw [hstatus] at h1; cases h1
    | disputed _ h1 => rw [hstatus] at h1; cases h1
    | confirmed m e _ hmatches _ _ _ hreceived hnet =>
      have hmem : r.paymentMatch ∈ db.matchesOf r.order.orderId :=
        List.mem_filter.mpr ⟨hr.matchMem, by simpa using hr.orderId.symm⟩
      rw [hmatches] at hmem
      rw [List.mem_singleton.mp hmem]
      refine ⟨hmatches, ?_⟩
      rw [hnet, Option.some.inj (hreceived.symm.trans hr.received)]
  -- a reversal rewrites one match, and keeps what it is about
  have hmatch : ∀ {m : PaymentMatch}, m ∈ (r.recorded db).paymentMatches →
      (m ∈ db.paymentMatches ∧ m ≠ r.paymentMatch) ∨
        m = r.paymentMatch.reverse r.operation.financialOperationId r.now := by
    intro m hm
    rcases mem_updateWhere.mp hm with ⟨m0, h0, hid, rfl⟩ | ⟨h0, hne⟩
    · simp only [Bool.and_eq_true, decide_eq_true_eq] at hid
      rw [hkeys.paymentMatches.eq h0 hr.matchMem hid.1]
      exact .inr rfl
    · refine .inl ⟨h0, ?_⟩
      rintro rfl
      simp [hr.settled] at hne
  have hfrom : ∀ {m : PaymentMatch}, m ∈ (r.recorded db).paymentMatches →
      ∃ m0 ∈ db.paymentMatches, m.orderId = m0.orderId ∧ m.ledgerEntryId = m0.ledgerEntryId := by
    intro m hm
    rcases hmatch hm with ⟨h0, -⟩ | rfl
    · exact ⟨m, h0, rfl, rfl⟩
    · exact ⟨r.paymentMatch, hr.matchMem, rfl, rfl⟩
  have hmatchesOf : ∀ orderId, (r.recorded db).matchesOf orderId =
      withReversed r.paymentMatch r.operation.financialOperationId r.now (db.matchesOf orderId) := by
    intro orderId
    exact filter_updateWhere (q := fun m => decide (m.orderId = orderId))
      (f := fun m => m.reverse r.operation.financialOperationId r.now) (fun _ _ => rfl) db.paymentMatches
  refine ⟨?_, ?_, ?_, ?_, ?_, ?_, ?_, ?_⟩
  · intro m hm
    obtain ⟨m0, h0, hid, -⟩ := hfrom hm
    obtain ⟨x, hx, hxid⟩ := h.matchOrder m0 h0
    obtain ⟨x', hx', hid'⟩ := mem_putOrder_kept r.disputed hx
    exact ⟨x', hx', hid'.trans (hxid.trans hid.symm)⟩
  · intro m hm
    obtain ⟨m0, h0, -, hid⟩ := hfrom hm
    obtain ⟨e, he, heid⟩ := h.matchEntry m0 h0
    obtain ⟨e', he', hid', -⟩ := EntriesKept.withState r.entry .CONFLICT r.now e he
    exact ⟨e', he', hid'.trans (heid.trans hid.symm)⟩
  · exact fun p hp => postingOrder_posted rfl h (fun x hx => mem_putOrder_kept _ hx) ⟨r.order, hr.orderMem, hr.orderId⟩ hp
  · exact fun p hp => postingTransaction_posted rfl rfl h hp
  · intro o ho
    have hnet : ∀ orderId, (r.recorded db).netSettlement orderId = db.netSettlement orderId +
        if r.paymentMatch.orderId = orderId then
          (r.accounting.debit db).settlementCredit + (r.accounting.credit db).settlementCredit
        else 0 := netSettlement_posted (show (r.recorded db).postings =
          db.postings ++ [r.accounting.debit db] ++ [r.accounting.credit db] from rfl)
    rcases mem_putOrder ho with rfl | ⟨ho, hne⟩
    · refine .disputed (r.paymentMatch.reverse r.operation.financialOperationId r.now) rfl ?_ rfl ?_
      · rw [hmatchesOf]
        show withReversed _ _ _ (db.matchesOf r.order.orderId) = _
        rw [hconfirmed.1]
        simp [withReversed, updateWhere, hr.settled]
      · rw [hnet]
        show db.netSettlement r.order.orderId + (if r.paymentMatch.orderId = r.order.orderId then _ else _) = _
        rw [if_pos hr.orderId.symm, hconfirmed.2]
        simp [AccountingInput.debit, AccountingInput.credit, AccountingInput.posting, ReversalFacts.accounting,
          reversalAccounting, LedgerPosting.settlementCredit]
    · have hne' : ¬ r.paymentMatch.orderId = o.orderId := fun he => hne (he.symm.trans hr.orderId.symm)
      refine (h.books o ho).framed rfl rfl rfl ?_ ?_ (EntriesKept.withState _ _ _)
      · rw [hmatchesOf]
        refine updateWhere_eq_self fun m hm => ?_
        obtain ⟨hm, hid⟩ := List.mem_filter.mp hm
        simp only [Bool.and_eq_false_imp, decide_eq_true_eq, decide_eq_false_iff_not]
        intro hmid
        rw [hkeys.paymentMatches.eq hm hr.matchMem hmid] at hid
        exact absurd (by simpa using hid) hne'
      · rw [hnet, if_neg hne', add_zero]
  · intro e he
    rcases mem_withState hkeys.entries hr.entryMem he with ⟨hold, hne⟩ | ⟨hid, -, hstate⟩
    · rw [h.allocated e hold]
      constructor
      · rintro ⟨m, hm, hmid, hsettled⟩
        refine ⟨m, mem_updateWhere.mpr (.inr ⟨hm, ?_⟩), hmid, hsettled⟩
        simp only [Bool.and_eq_false_imp, decide_eq_true_eq, decide_eq_false_iff_not]
        intro hm'
        rw [hkeys.paymentMatches.eq hm hr.matchMem hm', ← hr.entryId] at hmid
        exact absurd hmid.symm hne
      · rintro ⟨m, hm, hmid, hsettled⟩
        rcases hmatch hm with ⟨hm, -⟩ | rfl
        · exact ⟨m, hm, hmid, hsettled⟩
        · cases hsettled
    · rw [hstate]
      constructor
      · intro hs
        cases hs
      · rintro ⟨m, hm, hmid, hsettled⟩
        rcases hmatch hm with ⟨hm, hne⟩ | rfl
        · refine absurd (h.oneSettled m hm _ hr.matchMem hsettled hr.settled ?_) hne
          exact hmid.trans (hid.trans hr.entryId)
        · cases hsettled
  · intro m hm m' hm' hsettled hsettled' hsame
    rcases hmatch hm with ⟨hm, -⟩ | rfl
    · rcases hmatch hm' with ⟨hm', -⟩ | rfl
      · exact h.oneSettled m hm m' hm' hsettled hsettled' hsame
      · cases hsettled'
    · cases hsettled
  · exact fun t ht => balanced_posted hr.posts rfl rfl h ht

/-! ## Every move -/

theorem FinanceInv.move (hkeys : Keys db) (h : FinanceInv db) (hm : Move pf db db') : FinanceInv db' := by
  cases hm with
  | supplied entropy => exact h.framed rfl rfl rfl rfl rfl
  | drew drawn => exact h.framed rfl rfl rfl rfl rfl
  | order hs => exact h.orderStep hs
  | ledger op hx =>
    have hgrows := LedgerOp.run_grows op.property hx
    refine h.reledgered (.grows hgrows) fun e' he' => ?_
    obtain ⟨added, hadded, hstates⟩ := hgrows.added
    rw [hadded] at he'
    rcases List.mem_append.mp he' with he | he
    · exact .inl ⟨e', he, rfl, Iff.rfl⟩
    · refine .inr ⟨(hstates e' he).state, fun e hold hid => ?_⟩
      have hu := hgrows.ids hkeys.entries
      rw [hadded] at hu
      unfold UniqueOn at hu
      rw [List.map_append, List.nodup_append] at hu
      exact hu.2.2 _ (List.mem_map_of_mem hold) _ (List.mem_map_of_mem he) hid
  | candidate c hc => exact h.framed rfl rfl rfl rfl rfl
  | selected c row => exact h.framed rfl rfl rfl rfl rfl
  | superseded c row => exact h.framed rfl rfl rfl rfl rfl
  | operation row hrow => exact h.framed rfl rfl rfl rfl rfl
  | exceptions rows => exact h.framed rfl rfl rfl rfl rfl
  | entryState entry state hmem hfrom hto hmay =>
    refine h.reledgered (.withState _ _ _) fun e' he' => .inl ?_
    have hpending : ∀ {x : LedgerEntryState}, Pending x → x ≠ .ALLOCATED := by
      rintro x (rfl | rfl) <;> decide
    rcases mem_withState hkeys.entries hmem he' with ⟨hold, -⟩ | ⟨hid, -, hstate⟩
    · exact ⟨e', hold, rfl, Iff.rfl⟩
    · exact ⟨entry, hmem, hid, iff_of_false (hstate ▸ hpending hto) (hpending hfrom)⟩
  | settles s hs => exact h.settles hkeys hs
  | reverses r hr => exact h.reverses hkeys hr

theorem FinanceInv.reachable (hr : Runs.Reachable (financeStore pf) db) : FinanceInv db :=
  reachable_invariant (fun _ => FinanceInv.empty) FinanceInv.move hr

/-! ## The agreement -/

/-- The settled matches of an order, and of an entry. -/
def FinanceDb.settledOf (db : FinanceDb) (orderId : Uuid) : List PaymentMatch :=
  (db.matchesOf orderId).filter fun m => m.status = .SETTLED

def FinanceDb.settledOn (db : FinanceDb) (ledgerEntryId : String) : List PaymentMatch :=
  db.paymentMatches.filter fun m => m.ledgerEntryId = ledgerEntryId && m.status = .SETTLED

/-- What matches, orders, entries and postings say, each in its own words. -/
structure BooksAgree (db : FinanceDb) : Prop where
  onePerEntry : ∀ e ∈ db.ledger.entries, (db.settledOn e.ledgerEntryId).length ≤ 1
  onePerOrder : ∀ o ∈ db.orders.orders, (db.settledOf o.orderId).length ≤ 1
  confirmed : ∀ o ∈ db.orders.orders, o.paymentStatus = .CONFIRMED ↔ (db.settledOf o.orderId).length = 1
  received : ∀ o ∈ db.orders.orders, o.paymentStatus = .CONFIRMED → ∀ m ∈ db.settledOf o.orderId,
    ∃ e ∈ db.ledger.entries, e.ledgerEntryId = m.ledgerEntryId ∧ o.receivedAmountCents = some e.facts.amountCents
  disputed : ∀ o ∈ db.orders.orders, o.paymentStatus = .DISPUTED ↔
    (∃ m ∈ db.matchesOf o.orderId, m.status = .REVERSED) ∧ db.settledOf o.orderId = []
  allocated : ∀ e ∈ db.ledger.entries, e.facts.direction = .CREDIT →
    (e.state = .ALLOCATED ↔ ∃ m, m ∈ db.settledOn e.ledgerEntryId)
  balanced : ∀ t ∈ db.transactions, sideTotal .DEBIT (db.postingsOf t.ledgerTransactionId) =
    sideTotal .CREDIT (db.postingsOf t.ledgerTransactionId)
  posted : ∀ p ∈ db.postings, ∃ t ∈ db.transactions, t.ledgerTransactionId = p.ledgerTransactionId
  net : ∀ o ∈ db.orders.orders, db.netSettlement o.orderId =
    if o.paymentStatus = .CONFIRMED then (o.receivedAmountCents.getD 0 : Int) else 0

/-- **The books agree** in every state that order creation, closing, expiry, ingestion, reconciliation,
    settlement and reversal can reach, in any order. -/
theorem books_agree (hr : Runs.Reachable (financeStore pf) db) : BooksAgree db := by
  have h := FinanceInv.reachable hr
  have hkeys := Keys.reachable hr
  have hlone : ∀ {m : PaymentMatch}, [m].filter (fun m => m.status = .SETTLED) =
      if m.status = .SETTLED then [m] else [] := by
    intro m
    by_cases hs : m.status = .SETTLED <;> simp [hs]
  refine ⟨?_, ?_, ?_, ?_, ?_, ?_, h.balanced, h.postingTransaction, ?_⟩
  · intro e _
    refine hkeys.paymentMatches.length_filter_le_one fun m hm m' hm' hp hp' => ?_
    simp only [Bool.and_eq_true, decide_eq_true_eq] at hp hp'
    rw [h.oneSettled m hm m' hm' hp.2 hp'.2 (hp.1.trans hp'.1.symm)]
  · intro o ho
    unfold FinanceDb.settledOf
    cases h.books o ho with
    | unpaid _ hmatches => rw [hmatches]; simp
    | confirmed m e _ hmatches => rw [hmatches, hlone]; split <;> simp
    | disputed m _ hmatches => rw [hmatches, hlone]; split <;> simp
  · intro o ho
    unfold FinanceDb.settledOf
    cases h.books o ho with
    | unpaid hstatus hmatches => rw [hmatches, hstatus]; simp
    | confirmed m e hstatus hmatches hsettled => rw [hmatches, hlone, if_pos hsettled, hstatus]; simp
    | disputed m hstatus hmatches hreversed => rw [hmatches, hlone, hstatus, hreversed]; simp
  · intro o ho hstatus m hm
    unfold FinanceDb.settledOf at hm
    cases h.books o ho with
    | unpaid h1 => rw [hstatus] at h1; cases h1
    | disputed _ h1 => rw [hstatus] at h1; cases h1
    | confirmed m' e _ hmatches _ he hid hreceived =>
      rw [hmatches] at hm
      rw [List.mem_singleton.mp (List.mem_filter.mp hm).1]
      exact ⟨e, he, hid, hreceived⟩
  · intro o ho
    unfold FinanceDb.settledOf
    cases h.books o ho with
    | unpaid hstatus hmatches => rw [hmatches, hstatus]; simp
    | confirmed m e hstatus hmatches hsettled => rw [hmatches, hlone, if_pos hsettled, hstatus]; simp
    | disputed m hstatus hmatches hreversed => rw [hmatches, hlone, hstatus]; simp [hreversed]
  · intro e he _
    rw [h.allocated e he]
    unfold FinanceDb.settledOn
    simp only [List.mem_filter, Bool.and_eq_true, decide_eq_true_eq]
  · intro o ho
    cases h.books o ho with
    | unpaid hstatus _ hnet => rw [hnet, hstatus]; rfl
    | confirmed m e hstatus _ _ _ _ hreceived hnet => rw [hnet, hstatus, hreceived]; rfl
    | disputed m hstatus _ _ hnet => rw [hnet, hstatus]; rfl

/-- The settlement that was reversed, and the one of the same payment that followed. -/
theorem books_agree_resettled :
    sampleResettled.paymentMatches.map (·.status) = [.REVERSED, .SETTLED] ∧
    sampleResettled.orders.orders.map (·.paymentStatus) = [.DISPUTED, .CONFIRMED] ∧ BooksAgree sampleResettled := by
  have hrun : sampleResettled.paymentMatches.map (·.status) = [.REVERSED, .SETTLED] ∧
      sampleResettled.orders.orders.map (·.paymentStatus) = [.DISPUTED, .CONFIRMED] := by
    decide +kernel
  exact ⟨hrun.1, hrun.2, books_agree sampleResettled_reachable⟩

end PerPay.Finance
