/-
  **Events and outbox tell the same story** — what an order is, was announced when it became so.

  An order's events number its versions (`Orders/Events.lean`).  The payment decisions add to each of
  their events one outbox event, whose payload repeats the payment columns of the row that was just
  written.  So the outbox alone gives the payment columns of every version of an order; and since
  every time is read from the clock that the decisions share with the order store, no time is ahead of
  it.
-/
import PerPay.Finance.Moves
import PerPay.Orders.Events

namespace PerPay.Finance

open Txn Table Orders Ledger

variable {pf : FinancePlatform} {db db' : FinanceDb}

/-! ## What the outbox says -/

/-- The outbox events of a version of an order. -/
def FinanceDb.outboxAt (db : FinanceDb) (orderId : Uuid) (version : Nat) : List OutboxEvent :=
  db.outbox.filter fun x => x.aggregateId = orderId && x.aggregateVersion = version

/-- The payload states the payment columns of the row. -/
def OutboxPayload.states (p : OutboxPayload) (o : PaymentOrder) : Prop :=
  p.paymentStatus = o.paymentStatus ∧ p.paymentBasis = o.paymentBasis ∧
    some p.receivedAmountCents = o.receivedAmountCents

/-- The payment columns that the last of some outbox events leaves. -/
def paymentOf (events : List OutboxEvent) : PaymentStatus × PaymentBasis × Option Nat :=
  match events.getLast? with
  | none => (.UNPAID, .NONE, none)
  | some x => (x.payload.paymentStatus, x.payload.paymentBasis, some x.payload.receivedAmountCents)

/-- The payment columns of a version of an order, from the outbox alone. -/
def FinanceDb.paymentAt (db : FinanceDb) (orderId : Uuid) (version : Nat) :
    PaymentStatus × PaymentBasis × Option Nat :=
  paymentOf (db.outbox.filter fun x => x.aggregateId = orderId && x.aggregateVersion ≤ version)

/-- An event that the outbox announces. -/
def paymentType : OrderEventType → Option PaymentEventType
  | .PAYMENT_CONFIRMED => some .PAYMENT_CONFIRMED
  | .PAYMENT_DISPUTED => some .PAYMENT_DISPUTED
  | _ => none

/-- Exactly one outbox event announces the event, and its payload states the columns that the order had
    in the state `m` in which it was at the version of the event. -/
def Announced (pf : FinancePlatform) (db : FinanceDb) (e : OrderEvent) (type : PaymentEventType) : Prop :=
  ∃ x, db.outboxAt e.orderId e.sequence = [x] ∧ x.eventType = type ∧
    ∃ m o, Moves pf m db ∧ o ∈ m.orders.orders ∧ o.orderId = e.orderId ∧ o.version = e.sequence ∧
      x.payload.states o

structure OutboxInv (pf : FinancePlatform) (db : FinanceDb) : Prop where
  events : EventInv db.orders
  announced : ∀ e ∈ db.orders.events, ∀ type, paymentType e.type = some type → Announced pf db e type
  recorded : ∀ x ∈ db.outbox, ∃ e ∈ db.orders.events, e.orderId = x.aggregateId ∧ e.sequence = x.aggregateVersion
  latest : ∀ o ∈ db.orders.orders, paymentOf (db.outbox.filter fun x => x.aggregateId = o.orderId) =
    (o.paymentStatus, o.paymentBasis, o.receivedAmountCents)
  current : ∀ o ∈ db.orders.orders, ∀ x ∈ db.outboxAt o.orderId o.version, x.payload.states o

theorem OutboxInv.empty (h : FinanceDb.Empty db) : OutboxInv pf db where
  events := .empty h.orders
  announced := by rw [h.orders.events]; simp
  recorded := by rw [h.outbox]; simp
  latest := by rw [h.orders.orders]; simp
  current := by rw [h.orders.orders]; simp

/-- No outbox event is ahead of its order. -/
theorem OutboxInv.version_le (h : OutboxInv pf db) {o : PaymentOrder} (ho : o ∈ db.orders.orders) {x : OutboxEvent}
    (hx : x ∈ db.outbox) (hid : x.aggregateId = o.orderId) : x.aggregateVersion ≤ o.version := by
  obtain ⟨e, he, heid, hsequence⟩ := h.recorded x hx
  have hmem : e ∈ db.orders.eventsOf o.orderId := List.mem_filter.mpr ⟨he, decide_eq_true (heid.trans hid)⟩
  have hrange := List.mem_map_of_mem (f := (·.sequence)) hmem
  rw [(h.events.versioned o ho).sequences, List.mem_range'_1] at hrange
  omega

/-- The outbox has nothing to say about the next version of an order. -/
theorem OutboxInv.outboxAt_next (h : OutboxInv pf db) {o : PaymentOrder} (ho : o ∈ db.orders.orders) {version : Nat}
    (hnext : o.version < version) : db.outboxAt o.orderId version = [] := by
  refine List.filter_eq_nil_iff.mpr fun x hx hkey => ?_
  simp only [Bool.and_eq_true, decide_eq_true_eq] at hkey
  have hle := h.version_le ho hx hkey.1
  rw [hkey.2] at hle
  omega

/-- Nor about an order that does not exist. -/
theorem OutboxInv.outbox_fresh (h : OutboxInv pf db) {orderId : Uuid}
    (hfresh : ∀ o ∈ db.orders.orders, o.orderId ≠ orderId) : ∀ x ∈ db.outbox, x.aggregateId ≠ orderId := by
  intro x hx hid
  obtain ⟨e, he, heid, -⟩ := h.recorded x hx
  obtain ⟨o, ho, hoid⟩ := h.events.owned e he
  exact hfresh o ho (hoid.trans (heid.trans hid))

/-- A new outbox event leaves every other version as it was. -/
theorem outboxAt_append_other {x : OutboxEvent} (hout : db'.outbox = db.outbox ++ [x]) {orderId : Uuid} {version : Nat}
    (hne : ¬ (x.aggregateId = orderId ∧ x.aggregateVersion = version)) :
    db'.outboxAt orderId version = db.outboxAt orderId version := by
  unfold FinanceDb.outboxAt
  rw [hout]
  refine filter_append_out (r := x) ?_ _
  simp only [Bool.and_eq_false_imp, decide_eq_true_eq]
  exact fun hid => decide_eq_false fun hv => hne ⟨hid, hv⟩

theorem Announced.moved {e : OrderEvent} {type : PaymentEventType} (h : Announced pf db e type)
    (hm : Move pf db db') (hat : db'.outboxAt e.orderId e.sequence = db.outboxAt e.orderId e.sequence) :
    Announced pf db' e type := by
  obtain ⟨x, hx, htype, m, o, hmoves, ho⟩ := h
  exact ⟨x, hat.trans hx, htype, m, o, hmoves.tail hm, ho⟩

/-! ## Moves beside the payment decisions -/

theorem OutboxInv.framed (h : OutboxInv pf db) (hm : Move pf db db') (ho : db'.orders.orders = db.orders.orders)
    (he : db'.orders.events = db.orders.events) (hx : db'.outbox = db.outbox) : OutboxInv pf db' where
  events := h.events.framed ho he
  announced e hmem type htype := by
    rw [he] at hmem
    refine (h.announced e hmem type htype).moved hm ?_
    unfold FinanceDb.outboxAt
    rw [hx]
  recorded := by rw [hx, he]; exact h.recorded
  latest := by rw [ho, hx]; exact h.latest
  current := by
    unfold FinanceDb.outboxAt
    rw [ho, hx]
    exact h.current

/-- A checkout that ends adds a version that the outbox has nothing to say about. -/
theorem OutboxInv.ends (h : OutboxInv pf db) {o : OrderDb} {order : PaymentOrder} {status : CheckoutStatus}
    {now : Nat} (hends : CheckoutEnds order status now db.orders o)
    (hm : Move pf db { db with orders := o }) : OutboxInv pf { db with orders := o } where
  events := h.events.advanced hends.advances
  announced e he type htype := by
    rw [show ({ db with orders := o } : FinanceDb).orders.events = _ from hends.advances.events] at he
    rcases List.mem_append.mp he with he | he
    · exact (h.announced e he type htype).moved hm rfl
    · rw [List.mem_singleton.mp he] at htype
      unfold endEvent at htype
      split at htype <;> cases htype
  recorded x hx := by
    obtain ⟨e, he, hnames⟩ := h.recorded x hx
    exact ⟨e, hends.advances.events ▸ List.mem_append_left _ he, hnames⟩
  latest x hx := by
    rw [show ({ db with orders := o } : FinanceDb).orders.orders = _ from hends.advances.orders] at hx
    rcases mem_putOrder hx with rfl | ⟨hx, -⟩
    · exact h.latest order hends.mem
    · exact h.latest x hx
  current x hx := by
    rw [show ({ db with orders := o } : FinanceDb).orders.orders = _ from hends.advances.orders] at hx
    rcases mem_putOrder hx with rfl | ⟨hx, -⟩
    · have hnone := h.outboxAt_next hends.mem (Nat.lt_succ_self order.version)
      intro y hy
      have hy' : y ∈ db.outboxAt order.orderId (order.version + 1) := hy
      rw [hnone] at hy'
      cases hy'
    · exact h.current x hx

theorem OutboxInv.inserted (h : OutboxInv pf db) {o : OrderDb} {input : CreateStoredOrderInput} {rnd : CreateRandomness}
    {profile : CollectionProfile} {amount generation cooldown now : Nat} {key : CheckoutTokenKey}
    (hrows : OrderInserted pf.orders input rnd profile amount generation cooldown now key db.orders o)
    (hm : Move pf db { db with orders := o }) : OutboxInv pf { db with orders := o } where
  events := h.events.inserted hrows
  announced e he type htype := by
    rw [show ({ db with orders := o } : FinanceDb).orders.events = _ from hrows.events] at he
    rcases List.mem_append.mp he with he | he
    · exact (h.announced e he type htype).moved hm rfl
    · rw [List.mem_singleton.mp he] at htype
      cases htype
  recorded x hx := by
    obtain ⟨e, he, hnames⟩ := h.recorded x hx
    exact ⟨e, hrows.events ▸ List.mem_append_left _ he, hnames⟩
  latest x hx := by
    rw [show ({ db with orders := o } : FinanceDb).orders.orders = _ from hrows.orders] at hx
    rcases List.mem_append.mp hx with hx | hx
    · exact h.latest x hx
    · -- nothing was announced of an order that did not exist
      rw [List.mem_singleton.mp hx]
      have hfresh : ∀ x ∈ db.outbox, x.aggregateId ≠ rnd.orderId :=
        h.outbox_fresh fun y hy => (hrows.fresh y hy).orderId
      show paymentOf (db.outbox.filter fun x => x.aggregateId = rnd.orderId) = _
      rw [List.filter_eq_nil_iff.mpr fun x hx hid => hfresh x hx (of_decide_eq_true hid)]
      rfl
  current x hx y hy := by
    rw [show ({ db with orders := o } : FinanceDb).orders.orders = _ from hrows.orders] at hx
    rcases List.mem_append.mp hx with hx | hx
    · exact h.current x hx y hy
    · rw [List.mem_singleton.mp hx] at hy
      obtain ⟨hy, hkey⟩ := List.mem_filter.mp hy
      simp only [Bool.and_eq_true, decide_eq_true_eq] at hkey
      exact absurd hkey.1 (h.outbox_fresh (fun z hz => (hrows.fresh z hz).orderId) y hy)

/-! ## A payment decision -/

theorem OutboxInv.outboxAt_published (h : OutboxInv pf db) {order order' : PaymentOrder} {event : OrderEvent}
    {x : OutboxEvent} (ha : Advances order order' event db.orders db'.orders) (hout : db'.outbox = db.outbox ++ [x])
    (hid : x.aggregateId = order.orderId) (hversion : x.aggregateVersion = order'.version) :
    db'.outboxAt order.orderId order'.version = [x] := by
  have hnone := h.outboxAt_next ha.mem (show order.version < order'.version by rw [ha.version]; omega)
  unfold FinanceDb.outboxAt at hnone ⊢
  rw [hout, filter_append_in (r := x), hnone, List.nil_append]
  simp only [Bool.and_eq_true]
  exact ⟨decide_eq_true hid, decide_eq_true hversion⟩

/-- One version, one event and one outbox event, which agree. -/
theorem OutboxInv.published (h : OutboxInv pf db) {order order' : PaymentOrder} {event : OrderEvent} {x : OutboxEvent}
    (ha : Advances order order' event db.orders db'.orders) (hout : db'.outbox = db.outbox ++ [x])
    (hid : x.aggregateId = order.orderId) (hversion : x.aggregateVersion = order'.version)
    (htype : paymentType event.type = some x.eventType) (hstates : x.payload.states order') (hm : Move pf db db') :
    OutboxInv pf db' where
  events := h.events.advanced ha
  announced e he type htype' := by
    rw [ha.events] at he
    rcases List.mem_append.mp he with he | he
    · refine (h.announced e he type htype').moved hm (outboxAt_append_other hout ?_)
      rintro ⟨heid, hev⟩
      -- an older event has an older version
      have hmem : e ∈ db.orders.eventsOf order.orderId := List.mem_filter.mpr ⟨he, decide_eq_true (heid.symm.trans hid)⟩
      have hrange := List.mem_map_of_mem (f := (·.sequence)) hmem
      rw [(h.events.versioned order ha.mem).sequences, List.mem_range'_1, ← hev, hversion, ha.version] at hrange
      omega
    · obtain rfl := List.mem_singleton.mp he
      have hnew := h.outboxAt_published ha hout hid hversion
      rw [← ha.names, ← ha.sequence] at hnew
      refine ⟨x, hnew, Option.some.inj (htype.symm.trans htype'), db', order', .refl, ?_, ?_, ha.sequence.symm, hstates⟩
      · rw [ha.orders]
        exact List.mem_map.mpr ⟨order, ha.mem, if_pos ha.orderId.symm⟩
      · exact ha.orderId.trans ha.names.symm
  recorded y hy := by
    rw [hout] at hy
    rcases List.mem_append.mp hy with hy | hy
    · obtain ⟨e, he, hnames⟩ := h.recorded y hy
      exact ⟨e, ha.events ▸ List.mem_append_left _ he, hnames⟩
    · rw [List.mem_singleton.mp hy]
      exact ⟨event, ha.events ▸ List.mem_append_right _ (List.mem_singleton.mpr rfl), ha.names.trans hid.symm,
        ha.sequence.trans hversion.symm⟩
  latest o ho := by
    rw [ha.orders] at ho
    rw [hout]
    rcases mem_putOrder ho with rfl | ⟨ho, hne⟩
    · rw [filter_append_in (r := x) (decide_eq_true (hid.trans ha.orderId.symm))]
      unfold paymentOf
      rw [List.getLast?_concat]
      obtain ⟨h1, h2, h3⟩ := hstates
      show (x.payload.paymentStatus, x.payload.paymentBasis, some x.payload.receivedAmountCents) = _
      rw [h1, h2, h3]
    · have hother : ¬ x.aggregateId = o.orderId := fun he => hne (he.symm.trans (hid.trans ha.orderId.symm))
      rw [filter_append_out (r := x) (decide_eq_false hother)]
      exact h.latest o ho
  current o ho y hy := by
    rw [ha.orders] at ho
    rcases mem_putOrder ho with rfl | ⟨ho, hne⟩
    · rw [ha.orderId, h.outboxAt_published ha hout hid hversion] at hy
      exact List.mem_singleton.mp hy ▸ hstates
    · rw [outboxAt_append_other hout fun hkey => hne (hkey.1.symm.trans (hid.trans ha.orderId.symm))] at hy
      exact h.current o ho y hy

theorem SettlementMove.advances {s : SettlementFacts} (hs : SettlementMove s db) :
    Advances s.order s.settled s.event db.orders (s.recorded db).orders :=
  ⟨hs.orderMem, rfl, rfl, hs.pays.updated, rfl, rfl, rfl, rfl, rfl⟩

theorem ReversalMove.advances {r : ReversalFacts} (hr : ReversalMove r db) :
    Advances r.order r.disputed r.event db.orders (r.recorded db).orders :=
  ⟨hr.orderMem, rfl, rfl, hr.pays.updated, rfl, rfl, rfl, rfl, rfl⟩

theorem OutboxInv.move (h : OutboxInv pf db) (hm : Move pf db db') : OutboxInv pf db' := by
  cases hm with
  | supplied entropy => exact h.framed (.supplied entropy) rfl rfl rfl
  | drew drawn => exact h.framed (.drew drawn) rfl rfl rfl
  | order hs =>
    cases hs with
    | clock now hle hsafe => exact h.framed (.order (.clock now hle hsafe)) rfl rfl rfl
    | configured configuration hext => exact h.framed (.order (.configured configuration hext)) rfl rfl rfl
    | ends order status hends => exact h.ends hends (.order (.ends order status hends))
    | inserted input rnd profile amount generation cooldown key hrows =>
      exact h.inserted hrows (.order (.inserted input rnd profile amount generation cooldown key hrows))
  | ledger op hx => exact h.framed (.ledger op hx) rfl rfl rfl
  | candidate c hc hnew heligible hundecided hcreated =>
    exact h.framed (.candidate c hc hnew heligible hundecided hcreated) rfl rfl rfl
  | selected c row hmem hrow hclock => exact h.framed (.selected c row hmem hrow hclock) rfl rfl rfl
  | superseded c row hmem hfits hclock hkey =>
    exact h.framed (.superseded c row hmem hfits hclock hkey) rfl rfl rfl
  | operation row hfits hclock hkey => exact h.framed (.operation row hfits hclock hkey) rfl rfl rfl
  | exceptions rows hrows => exact h.framed (.exceptions rows hrows) rfl rfl rfl
  | entryState entry state hmem hfrom hto hmay =>
    exact h.framed (.entryState entry state hmem hfrom hto hmay) rfl rfl rfl
  | settles s hs => exact h.published hs.advances rfl rfl rfl rfl ⟨rfl, rfl, rfl⟩ (.settles s hs)
  | reverses r hr => exact h.published hr.advances rfl rfl rfl rfl ⟨rfl, rfl, rfl⟩ (.reverses r hr)

theorem OutboxInv.reachable (hr : Runs.Reachable (financeStore pf) db) : OutboxInv pf db :=
  reachable_invariant (fun _ => OutboxInv.empty) (fun _ h hm => h.move hm) hr

/-! ## Times and the clock -/

/-- Every time that ordering, reconciling and deciding write is at most `now`; an entry that none of
    them has touched keeps the time of its ingestion. -/
structure Stamped (now : Nat) (db : FinanceDb) : Prop where
  orders : OrdersStamped now db.orders
  entries : ∀ e ∈ db.ledger.entries, e.updatedAt = e.createdAt ∨ e.updatedAt ≤ now
  candidates : ∀ c ∈ db.candidates, c.createdAt ≤ now ∧ c.updatedAt ≤ now ∧ ∀ t ∈ c.decidedAt, t ≤ now
  paymentMatches : ∀ m ∈ db.paymentMatches, m.createdAt ≤ now ∧ m.updatedAt ≤ now ∧ ∀ t ∈ m.resolvedAt, t ≤ now
  operations : ∀ o ∈ db.operations, o.createdAt ≤ now
  exceptions : ∀ e ∈ db.exceptions, e.createdAt ≤ now ∧ ∀ t ∈ e.resolvedAt, t ≤ now
  transactions : ∀ t ∈ db.transactions, t.createdAt ≤ now ∧ ∀ at' ∈ t.postedAt, at' ≤ now
  postings : ∀ p ∈ db.postings, p.createdAt ≤ now
  outbox : ∀ x ∈ db.outbox, x.createdAt ≤ now ∧ x.payload.occurredAt ≤ now

theorem Stamped.empty {now : Nat} (h : FinanceDb.Empty db) : Stamped now db where
  orders := .empty h.orders
  entries := by rw [h.ledger.entries]; simp
  candidates := by rw [h.candidates]; simp
  paymentMatches := by rw [h.paymentMatches]; simp
  operations := by rw [h.operations]; simp
  exceptions := by rw [h.exceptions]; simp
  transactions := by rw [h.transactions]; simp
  postings := by rw [h.postings]; simp
  outbox := by rw [h.outbox]; simp

theorem Stamped.mono {now now' : Nat} (h : Stamped now db) (hle : now ≤ now') : Stamped now' db where
  orders := h.orders.mono hle
  entries e he := (h.entries e he).imp id fun hu => hu.trans hle
  candidates c hc := by
    obtain ⟨h1, h2, h3⟩ := h.candidates c hc
    exact ⟨h1.trans hle, h2.trans hle, fun t ht => (h3 t ht).trans hle⟩
  paymentMatches m hm := by
    obtain ⟨h1, h2, h3⟩ := h.paymentMatches m hm
    exact ⟨h1.trans hle, h2.trans hle, fun t ht => (h3 t ht).trans hle⟩
  operations o ho := (h.operations o ho).trans hle
  exceptions e he := ⟨(h.exceptions e he).1.trans hle, fun t ht => ((h.exceptions e he).2 t ht).trans hle⟩
  transactions t ht := ⟨(h.transactions t ht).1.trans hle, fun s hs => ((h.transactions t ht).2 s hs).trans hle⟩
  postings p hp := (h.postings p hp).trans hle
  outbox x hx := ⟨(h.outbox x hx).1.trans hle, (h.outbox x hx).2.trans hle⟩

theorem entries_withState {now : Nat} {l : LedgerDb} {entry : LedgerEntry} {state : LedgerEntryState}
    (h : ∀ e ∈ l.entries, e.updatedAt = e.createdAt ∨ e.updatedAt ≤ now) :
    ∀ e ∈ (withState entry state now l).entries, e.updatedAt = e.createdAt ∨ e.updatedAt ≤ now := by
  unfold withState
  split
  · exact h
  · exact forall_mem_updateWhere h fun _ _ => .inr (le_refl now)

theorem ordersStamped_withPayment {now : Nat} {o : OrderDb} (h : OrdersStamped now o) {order : PaymentOrder}
    (hmem : order ∈ o.orders) {status : PaymentStatus} {basis : PaymentBasis} {received : Option Nat}
    {event : OrderEvent} (hevent : event.occurredAt ≤ now) :
    OrdersStamped now (withPayment (paid order status basis received now) event o) where
  orders x hx := by
    rcases mem_putOrder hx with rfl | ⟨hx, -⟩
    · obtain ⟨h1, h2, -, h4⟩ := h.orders order hmem
      exact ⟨h1, h2, le_refl now, h4⟩
    · exact h.orders x hx
  events := forall_mem_append_singleton h.events hevent
  slots := h.slots
  webhookTargets := h.webhookTargets
  epayOrders := h.epayOrders

section decision
variable {input : AccountingInput} {now : Nat} (hnow : input.now = now)
include hnow

theorem transaction_stamped : (input.transaction db).createdAt ≤ now ∧ ∀ t ∈ (input.transaction db).postedAt, t ≤ now :=
  ⟨hnow.le, fun _ ht => Option.some.inj ht ▸ hnow.le⟩

theorem postings_stamped (h : ∀ p ∈ db.postings, p.createdAt ≤ now) :
    ∀ p ∈ db.postings ++ [input.debit db] ++ [input.credit db], p.createdAt ≤ now :=
  forall_mem_append_singleton (forall_mem_append_singleton h hnow.le) hnow.le

end decision

theorem Stamped.settles {s : SettlementFacts} (h : Stamped s.now db) (hs : SettlementMove s db) :
    Stamped s.now (s.recorded db) where
  orders := ordersStamped_withPayment h.orders hs.orderMem (le_refl s.now)
  entries := entries_withState h.entries
  candidates := h.candidates
  paymentMatches := forall_mem_append_singleton h.paymentMatches
    ⟨le_refl s.now, le_refl s.now, fun _ ht => Option.some.inj ht ▸ le_refl s.now⟩
  operations := h.operations
  exceptions := h.exceptions
  transactions := forall_mem_append_singleton h.transactions (transaction_stamped rfl)
  postings := postings_stamped rfl h.postings
  outbox := forall_mem_append_singleton h.outbox ⟨le_refl s.now, le_refl s.now⟩

theorem Stamped.reverses {r : ReversalFacts} (h : Stamped r.now db) (hr : ReversalMove r db) :
    Stamped r.now (r.recorded db) where
  orders := ordersStamped_withPayment h.orders hr.orderMem (le_refl r.now)
  entries := entries_withState h.entries
  candidates := h.candidates
  paymentMatches := forall_mem_updateWhere h.paymentMatches fun _ hm =>
    ⟨hm.1, le_refl r.now, fun _ ht => Option.some.inj ht ▸ le_refl r.now⟩
  operations := h.operations
  exceptions := h.exceptions
  transactions := forall_mem_append_singleton h.transactions (transaction_stamped rfl)
  postings := postings_stamped rfl h.postings
  outbox := forall_mem_append_singleton h.outbox ⟨le_refl r.now, le_refl r.now⟩

theorem Stamped.decided {now : Nat} (h : Stamped now db) {row : FinancialOperation} (hrow : row.createdAt ≤ now)
    (candidateId : Uuid) (status : CandidateStatus) : Stamped now (db.withDecided candidateId status row) :=
  { h with candidates := forall_mem_updateWhere h.candidates fun _ hc =>
      ⟨hc.1, hrow, fun _ ht => Option.some.inj ht ▸ hrow⟩ }

theorem Stamped.operation {now : Nat} (h : Stamped now db) {row : FinancialOperation} (hrow : row.createdAt ≤ now) :
    Stamped now (db.withOperation row) :=
  { h with operations := forall_mem_append_singleton h.operations hrow }

theorem ExceptionFrom.stamped {rows : List FinancialException} {now : Nat} {e : FinancialException}
    (he : ExceptionFrom rows now e) (h : ∀ e ∈ rows, e.createdAt ≤ now ∧ ∀ t ∈ e.resolvedAt, t ≤ now) :
    e.createdAt ≤ now ∧ ∀ t ∈ e.resolvedAt, t ≤ now := by
  induction he with
  | kept hmem => exact h _ hmem
  | recorded hcreated hresolved => exact ⟨hcreated.le, by rw [hresolved]; exact nofun⟩
  | resolved _ operationId resolution ih => exact ⟨ih.1, fun t ht => Option.some.inj ht ▸ le_refl now⟩

theorem Stamped.move (h : Stamped db.orders.clock db) (hm : Move pf db db') : Stamped db'.orders.clock db' := by
  cases hm with
  | supplied entropy => exact { h with }
  | drew drawn => exact { h with }
  | order hs => exact { h.mono hs.clock_le with orders := h.orders.step hs }
  | ledger op hx =>
    obtain ⟨added, hadded, hnew⟩ := (LedgerOp.run_grows op.property hx).added
    refine { h with entries := ?_ }
    show ∀ e ∈ LedgerDb.entries _, _
    rw [hadded]
    intro e he
    rcases List.mem_append.mp he with he | he
    · exact h.entries e he
    · exact .inl (hnew e he).times
  | candidate c hc hnew heligible hundecided hcreated =>
    refine { h with candidates := forall_mem_append_singleton h.candidates ⟨hcreated.1.le, hcreated.2.le, ?_⟩ }
    rw [hundecided.2]
    exact nofun
  | selected c row hmem hrow hclock => exact h.decided hclock.le c.candidateId .SELECTED
  | superseded c row hmem hfits hclock hkey =>
    exact (h.operation hclock.le).decided hclock.le c.candidateId .SUPERSEDED
  | operation row hfits hclock hkey => exact h.operation hclock.le
  | exceptions rows hrows => exact { h with exceptions := fun e he => (hrows e he).stamped h.exceptions }
  | entryState entry state hmem hfrom hto hmay => exact { h with entries := entries_withState h.entries }
  | settles s hs =>
    have hclock : (s.recorded db).orders.clock = s.now := hs.clock
    rw [hs.clock] at h
    rw [hclock]
    exact h.settles hs
  | reverses r hr =>
    have hclock : (r.recorded db).orders.clock = r.now := hr.clock
    rw [hr.clock] at h
    rw [hclock]
    exact h.reverses hr

theorem Stamped.reachable (hr : Runs.Reachable (financeStore pf) db) : Stamped db.orders.clock db :=
  reachable_invariant (I := fun db => Stamped db.orders.clock db) (fun _ => Stamped.empty) (fun _ h hm => h.move hm) hr

/-! ## What is said stays said -/

/-- Later tables: the clock has not moved back, no order has lost a version, and what the outbox has got
    since is about later versions. -/
structure Later (db db' : FinanceDb) : Prop where
  clock : db.orders.clock ≤ db'.orders.clock
  keyTimes : KeyTimes db'.orders.clock db.orders.tokenKeys db'.orders.tokenKeys
  versions : ∀ o ∈ db.orders.orders, ∃ o' ∈ db'.orders.orders, o'.orderId = o.orderId ∧ o.version ≤ o'.version
  outbox : ∃ added, db'.outbox = db.outbox ++ added ∧
    ∀ x ∈ added, ∀ o ∈ db.orders.orders, x.aggregateId = o.orderId → o.version < x.aggregateVersion

theorem Later.framed (hc : db.orders.clock ≤ db'.orders.clock) (hk : db'.orders.tokenKeys = db.orders.tokenKeys)
    (ho : db'.orders.orders = db.orders.orders) (hx : db'.outbox = db.outbox) : Later db db' where
  clock := hc
  keyTimes := by rw [hk]; exact fun k hk => ⟨.inr ⟨k, hk, rfl⟩, fun t ht => .inr ⟨k, hk, ht⟩⟩
  versions o hmem := ⟨o, ho ▸ hmem, rfl, le_refl _⟩
  outbox := ⟨[], by rw [hx, List.append_nil], by simp⟩

theorem Later.refl (db : FinanceDb) : Later db db := .framed (le_refl _) rfl rfl rfl

theorem Later.trans {m : FinanceDb} (h : Later db m) (h' : Later m db') : Later db db' where
  clock := h.clock.trans h'.clock
  keyTimes := h.keyTimes.trans h'.keyTimes h'.clock
  versions o ho := by
    obtain ⟨o', ho', hid, hle⟩ := h.versions o ho
    obtain ⟨o'', ho'', hid', hle'⟩ := h'.versions o' ho'
    exact ⟨o'', ho'', hid'.trans hid, hle.trans hle'⟩
  outbox := by
    obtain ⟨added, hadded, hlater⟩ := h.outbox
    obtain ⟨added', hadded', hlater'⟩ := h'.outbox
    refine ⟨added ++ added', by rw [hadded', hadded, List.append_assoc], fun x hx o ho hid => ?_⟩
    rcases List.mem_append.mp hx with hx | hx
    · exact hlater x hx o ho hid
    · obtain ⟨o', ho', hoid, hle⟩ := h.versions o ho
      exact hle.trans_lt (hlater' x hx o' ho' (hid.trans hoid.symm))

/-- The row of an order that advances is the one row of its identifier. -/
theorem Advances.versions {o o' : OrderDb} {order order' : PaymentOrder} {event : OrderEvent}
    (ha : Advances order order' event o o') (hids : UniqueOn (·.orderId) o.orders) :
    ∀ x ∈ o.orders, ∃ x' ∈ o'.orders, x'.orderId = x.orderId ∧ x.version ≤ x'.version := by
  intro x hx
  rw [ha.orders]
  refine ⟨_, List.mem_map_of_mem hx, ?_⟩
  by_cases hid : x.orderId = order'.orderId
  · obtain rfl := hids.eq hx ha.mem (hid.trans ha.orderId)
    rw [if_pos hid]
    exact ⟨hid.symm, by rw [ha.version]; omega⟩
  · rw [if_neg hid]
    exact ⟨rfl, le_refl _⟩

theorem Later.published {order order' : PaymentOrder} {event : OrderEvent} {x : OutboxEvent}
    (hids : UniqueOn (·.orderId) db.orders.orders) (ha : Advances order order' event db.orders db'.orders)
    (hc : db'.orders.clock = db.orders.clock) (hk : db'.orders.tokenKeys = db.orders.tokenKeys)
    (hout : db'.outbox = db.outbox ++ [x]) (hid : x.aggregateId = order.orderId)
    (hversion : x.aggregateVersion = order'.version) : Later db db' where
  clock := hc.ge
  keyTimes := by rw [hk]; exact fun k hk => ⟨.inr ⟨k, hk, rfl⟩, fun t ht => .inr ⟨k, hk, ht⟩⟩
  versions := Advances.versions ha hids
  outbox := by
    refine ⟨[x], hout, fun y hy o ho hoid => ?_⟩
    obtain rfl := List.mem_singleton.mp hy
    obtain rfl := hids.eq ho ha.mem (hoid.symm.trans hid)
    rw [hversion, ha.version]
    omega

theorem Later.move (hkeys : Keys db) (hm : Move pf db db') : Later db db' := by
  cases hm with
  | order hs =>
    refine ⟨hs.clock_le, hs.keyTimes, ?_, ⟨[], (List.append_nil _).symm, by simp⟩⟩
    cases hs with
    | clock now hle hsafe => exact fun o ho => ⟨o, ho, rfl, le_refl _⟩
    | configured configuration hext => exact fun o ho => ⟨o, ho, rfl, le_refl _⟩
    | ends order status hends => exact Advances.versions hends.advances hkeys.orders.orderIds
    | inserted input rnd profile amount generation cooldown key hrows =>
      exact fun o ho => ⟨o, hrows.orders ▸ List.mem_append_left _ ho, rfl, le_refl _⟩
  | settles s hs => exact .published hkeys.orders.orderIds hs.advances rfl rfl rfl rfl rfl
  | reverses r hr => exact .published hkeys.orders.orderIds hr.advances rfl rfl rfl rfl rfl
  | supplied entropy => exact .framed (le_refl _) rfl rfl rfl
  | drew drawn => exact .framed (le_refl _) rfl rfl rfl
  | ledger op hx => exact .framed (le_refl _) rfl rfl rfl
  | candidate c hc hnew heligible hundecided hcreated => exact .framed (le_refl _) rfl rfl rfl
  | selected c row hmem hrow hclock => exact .framed (le_refl _) rfl rfl rfl
  | superseded c row hmem hfits hclock hkey => exact .framed (le_refl _) rfl rfl rfl
  | operation row hfits hclock hkey => exact .framed (le_refl _) rfl rfl rfl
  | exceptions rows hrows => exact .framed (le_refl _) rfl rfl rfl
  | entryState entry state hmem hfrom hto hmay => exact .framed (le_refl _) rfl rfl rfl

theorem Later.path {ls : List (FinanceOp × Entropy)} (hr : Runs.Reachable (financeStore pf) db)
    (hp : Runs.Path (financeStore pf) db ls db') : Later db db' := by
  refine (hp.relates (I := Keys) Later.refl Later.trans (fun d l d' hd hs => ?_) (Keys.reachable hr)).2
  have hmoves := financeStore_moves hd hs
  refine ⟨hd.moves hmoves, ?_⟩
  have hboth : Keys d' ∧ Later d d' := hmoves.invariant (I := fun m => Keys m ∧ Later d m)
    (fun h hm => ⟨h.1.move hm, h.2.trans (.move h.1 hm)⟩) ⟨hd, .refl d⟩
  exact hboth.2

/-! ## The agreement -/

/-- What events, outbox, orders and the clock have to do with each other. -/
structure EventSourced (pf : FinancePlatform) (db : FinanceDb) : Prop where
  sequences : ∀ o ∈ db.orders.orders,
    (db.orders.eventsOf o.orderId).map (·.sequence) = List.range' 1 o.version
  times : ∀ o ∈ db.orders.orders, ((db.orders.eventsOf o.orderId).map (·.occurredAt)).Pairwise (· ≤ ·)
  owned : ∀ e ∈ db.orders.events, ∃ o ∈ db.orders.orders, o.orderId = e.orderId
  announced : ∀ e ∈ db.orders.events, ∀ type, paymentType e.type = some type → Announced pf db e type
  stamped : Stamped db.orders.clock db
  later : ∀ ls db', Runs.Path (financeStore pf) db ls db' →
    db.orders.clock ≤ db'.orders.clock ∧
    KeyTimes db'.orders.clock db.orders.tokenKeys db'.orders.tokenKeys ∧
    ∀ o ∈ db.orders.orders, (∀ x ∈ db'.outboxAt o.orderId o.version, x.payload.states o) ∧
      db'.paymentAt o.orderId o.version = (o.paymentStatus, o.paymentBasis, o.receivedAmountCents)

/-- **Event sourcing.**  In every reachable state the events of an order are numbered 1 to its version, in
    the order of their times; each payment event has one outbox event, which states the payment columns
    of the order at its version; no time is ahead of the clock; and on every path the clock does not move
    back, and the outbox keeps giving the payment columns of every version an order has had. -/
theorem events_sourced (hr : Runs.Reachable (financeStore pf) db) : EventSourced pf db := by
  have h := OutboxInv.reachable hr
  refine ⟨fun o ho => (h.events.versioned o ho).sequences, fun o ho => (h.events.versioned o ho).times,
    h.events.owned, h.announced, .reachable hr, fun ls db' hp => ?_⟩
  have hlater := Later.path hr hp
  refine ⟨hlater.clock, hlater.keyTimes, fun o ho => ?_⟩
  obtain ⟨added, hadded, hafter⟩ := hlater.outbox
  constructor
  · intro x hx
    obtain ⟨hx, hkey⟩ := List.mem_filter.mp hx
    simp only [Bool.and_eq_true, decide_eq_true_eq] at hkey
    rw [hadded] at hx
    rcases List.mem_append.mp hx with hx | hx
    · exact h.current o ho x (List.mem_filter.mpr ⟨hx, by simp [hkey]⟩)
    · exact absurd (hafter x hx o ho hkey.1) (by rw [hkey.2]; exact lt_irrefl _)
  · unfold FinanceDb.paymentAt
    rw [← h.latest o ho, hadded, List.filter_append]
    have hnone : added.filter (fun x => x.aggregateId = o.orderId && x.aggregateVersion ≤ o.version) = [] := by
      refine List.filter_eq_nil_iff.mpr fun x hx hkey => ?_
      simp only [Bool.and_eq_true, decide_eq_true_eq] at hkey
      exact absurd (hafter x hx o ho hkey.1) (not_lt.mpr hkey.2)
    rw [hnone, List.append_nil]
    congr 1
    refine List.filter_congr fun x hx => ?_
    by_cases hid : x.aggregateId = o.orderId
    · simp [hid, h.version_le ho hx hid]
    · simp [hid]

/-- The two payment events of the first order, and the one of the second. -/
theorem events_sourced_resettled :
    (sampleResettled.orders.eventsOf 11).map (·.sequence) = [1, 2, 3] ∧
    sampleResettled.outbox.map (fun x => (x.aggregateId, x.aggregateVersion)) = [(11, 2), (11, 3), (71, 2)] ∧
    EventSourced sampleFinance sampleResettled := by
  have hrun : (sampleResettled.orders.eventsOf 11).map (·.sequence) = [1, 2, 3] ∧
      sampleResettled.outbox.map (fun x => (x.aggregateId, x.aggregateVersion)) = [(11, 2), (11, 3), (71, 2)] := by
    decide +kernel
  exact ⟨hrun.1, hrun.2, events_sourced sampleResettled_reachable⟩

end PerPay.Finance
