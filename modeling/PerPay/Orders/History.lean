/-
  **The row of an order tells its events** — and its events tell its row.

  The order store writes a row and an event in two statements.  `EventInv` numbers the events; here is what they are: an open
  order has the event of its creation, and an order that has ended has one more, of the kind and at the time of its end.  A
  reader of the events needs no row to know how a checkout stands.

  1. **An order** (`PaymentOrder.history`): its events, as its row tells them.
  2. **One step** (`HistoryInv.step`): an order that ends was open, so its end is the second event.
  3. **A run** (`order_history`): events are only appended.
-/
import PerPay.Orders.Allocation

namespace PerPay.Orders

open Txn Table

variable {pf : Platform} {db db' : OrderDb}

/-! ## What a row tells -/

/-- The event of the end of a checkout. -/
def CheckoutStatus.event : CheckoutStatus → OrderEventType
  | .EXPIRED => .CHECKOUT_EXPIRED
  | _ => .CHECKOUT_CLOSED

/-- The kind, the number and the time of an event. -/
def OrderEvent.summary (e : OrderEvent) : OrderEventType × Nat × Nat := (e.type, e.sequence, e.occurredAt)

/-- The events of an order, read off its row. -/
def PaymentOrder.history (o : PaymentOrder) : List (OrderEventType × Nat × Nat) :=
  (.CREATED, 1, o.createdAt) :: o.closedAt.toList.map fun closed => (o.checkoutStatus.event, 2, closed)

def HistoryInv (db : OrderDb) : Prop :=
  ∀ o ∈ db.orders, (db.eventsOf o.orderId).map OrderEvent.summary = o.history

/-! ## One step -/

theorem endEvent_summary {order : PaymentOrder} {status : CheckoutStatus} {now : Nat} (hstatus : status ≠ .OPEN) :
    (endEvent order status now).summary = (status.event, order.version + 1, now) := by
  cases status with
  | OPEN => exact absurd rfl hstatus
  | EXPIRED => rfl
  | CLOSED => rfl

/-- An order with one event has its first version. -/
theorem EventInv.version_one (h : EventInv db) {o : PaymentOrder} (ho : o ∈ db.orders)
    (hone : (db.eventsOf o.orderId).length = 1) : o.version = 1 := by
  have hlength := congrArg List.length (h.versioned o ho).sequences
  rw [List.length_map, List.length_range', hone] at hlength
  exact hlength.symm

theorem HistoryInv.ends {order : PaymentOrder} {status : CheckoutStatus} {now : Nat} (h : HistoryInv db) (he : EventInv db)
    (hends : CheckoutEnds order status now db db') : HistoryInv db' := by
  have hadvances := hends.advances
  have hopen : (db.eventsOf order.orderId).map OrderEvent.summary = [(.CREATED, 1, order.createdAt)] := by
    rw [h order hends.mem]
    unfold PaymentOrder.history
    rw [hends.notClosed]
    rfl
  intro o ho
  rw [hadvances.orders] at ho
  rcases mem_putOrder ho with rfl | ⟨ho, hne⟩
  · have hversion := he.version_one hends.mem (by rw [← List.length_map, hopen]; rfl)
    show (db'.eventsOf order.orderId).map _ = _
    rw [hadvances.eventsOf_self, List.map_append, hopen, List.map_singleton, endEvent_summary hends.terminal, hversion]
    rfl
  · rw [hadvances.eventsOf_other hne]
    exact h o ho

theorem HistoryInv.inserted {input : CreateStoredOrderInput} {rnd : CreateRandomness} {profile : CollectionProfile}
    {amount generation cooldown now : Nat} {key : CheckoutTokenKey} (h : HistoryInv db) (he : EventInv db)
    (hrows : OrderInserted pf input rnd profile amount generation cooldown now key db db') : HistoryInv db' := by
  intro o ho
  rw [hrows.orders] at ho
  rcases List.mem_append.mp ho with ho | ho
  · rw [hrows.eventsOf_old ho]
    exact h o ho
  · rw [List.mem_singleton.mp ho]
    show (db'.eventsOf rnd.orderId).map _ = _
    rw [hrows.eventsOf_new he]
    rfl

theorem HistoryInv.step (h : HistoryInv db) (he : EventInv db) (hs : OrderStep pf db db') : HistoryInv db' := by
  cases hs with
  | clock now hle hsafe => exact h
  | ends order status hends => exact h.ends he hends
  | inserted input rnd profile amount generation cooldown key hrows => exact h.inserted he hrows
  | configured configuration hext => exact h

/-- Events are appended, and nothing else is done to them. -/
theorem OrderStep.events (hs : OrderStep pf db db') : db.events <+: db'.events := by
  cases hs with
  | clock now hle hsafe => exact List.prefix_rfl
  | ends order status hends => exact hends.advances.events ▸ List.prefix_append _ _
  | inserted input rnd profile amount generation cooldown key hrows => exact hrows.events ▸ List.prefix_append _ _
  | configured configuration hext => exact List.prefix_rfl

/-! ## Runs -/

theorem HistoryInv.steps (h : HistoryInv db) (he : EventInv db) (hs : Relation.ReflTransGen (OrderStep pf) db db') :
    HistoryInv db' ∧ EventInv db' := by
  induction hs with
  | refl => exact ⟨h, he⟩
  | tail _ hlast ih => exact ⟨ih.1.step ih.2 hlast, ih.2.step hlast⟩

theorem events_of_steps (hs : Relation.ReflTransGen (OrderStep pf) db db') : db.events <+: db'.events := by
  induction hs with
  | refl => exact List.prefix_rfl
  | tail _ hlast ih => exact ih.trans hlast.events

theorem HistoryInv.reachable (hr : Runs.Reachable (orderStore pf) db) : HistoryInv db ∧ EventInv db := by
  refine hr.invariant (I := fun db => HistoryInv db ∧ EventInv db) (fun db h => ⟨?_, .empty h⟩) ?_
  · intro o ho
    rw [h.orders] at ho
    exact absurd ho List.not_mem_nil
  · rintro db op db' ⟨h, he⟩ rfl
    exact h.steps he (committed_of_preserves ((OrderStep.kept pf db).run op) .refl)

/-- **The history of an order.**  Behind any run of calls from a reachable store the events of each order are those that
    its row tells: its creation, and its end if it has ended, with their numbers and times; and the events that there were
    are a beginning of the events that there are. -/
theorem order_history (pf : Platform) (hr : Runs.Reachable (orderStore pf) db) {ops : List OrderOp}
    (hp : Runs.Path (orderStore pf) db ops db') :
    (∀ o ∈ db'.orders, (db'.eventsOf o.orderId).map OrderEvent.summary = o.history) ∧
    (∀ e ∈ db'.events, ∃ o ∈ db'.orders, o.orderId = e.orderId) ∧
    db.events <+: db'.events := by
  obtain ⟨h, he⟩ := HistoryInv.reachable hr
  have hsteps := (OrderStep.kept pf db).path hp .refl
  obtain ⟨h', he'⟩ := h.steps he hsteps
  exact ⟨h', he'.owned, events_of_steps hsteps⟩

theorem path_runOps (pf : Platform) (db : OrderDb) (ops : List OrderOp) :
    Runs.Path (orderStore pf) db ops (runOps pf db ops) := by
  induction ops using List.reverseRecOn with
  | nil => exact .refl
  | append_singleton ops op ih =>
    unfold runOps
    rw [List.foldl_append]
    exact .next ih rfl

/-- An order is made; then it is closed, and its amount is handed out again. -/
def createdOnce : OrderDb := runOps samplePlatform sampleStore (reuseRun.take 1)
def reusedOnce : OrderDb := runOps samplePlatform createdOnce (reuseRun.drop 1)

theorem order_history_reuse :
    (∀ o ∈ reusedOnce.orders, (reusedOnce.eventsOf o.orderId).map OrderEvent.summary = o.history) ∧
    (∀ e ∈ reusedOnce.events, ∃ o ∈ reusedOnce.orders, o.orderId = e.orderId) ∧
    createdOnce.events <+: reusedOnce.events := by
  have hreach : Runs.Reachable (orderStore samplePlatform) createdOnce :=
    reachable_runOps samplePlatform ⟨rfl, rfl, rfl, rfl, rfl, rfl⟩ _
  exact order_history samplePlatform hreach (path_runOps samplePlatform createdOnce (reuseRun.drop 1))

example : (reusedOnce.eventsOf 11).map OrderEvent.summary = [(.CREATED, 1, 2000), (.CHECKOUT_CLOSED, 2, 3000)] := by
  decide +kernel

end PerPay.Orders
