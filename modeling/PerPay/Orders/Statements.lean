/-
  **The statements of the order store** — the private functions of `database/order-store.ts` that
  write: the order clock, order events, the end of a checkout and the amount slots.

  The constraints and triggers of the schema stand where SQLite runs them: inside the statement
  that would violate them.  A statement that violates one aborts, and its transaction is rolled
  back.
-/
import Mathlib.Data.List.MinMax
import PerPay.Lib.Tx
import PerPay.Orders.Model

namespace PerPay.Orders

open Txn

/-- A transaction over the order tables. -/
abbrev OrderTx (α : Type) : Type := Tx OrderDb Fault α

/-- `toSafeInteger`: a stored integer must be exactly representable. -/
def toSafeInteger {σ : Type} (value : Nat) (label : String) : Tx σ Fault Nat := do
  require (isSafeInteger value) (.error (label ++ " is outside the safe integer range"))
  pure value

/-- `assertPositiveSafeInteger`. -/
def assertPositiveSafeInteger {σ : Type} (value : Nat) (label : String) : Tx σ Fault Unit :=
  require (isSafeInteger value ∧ 0 < value) (.rangeError (label ++ " must be a positive safe integer"))

/-! ## The order clock -/

/-- One reading of the physical clock.  When the store reads the database's own clock it also knows
    which time its monotonic timer expects. -/
structure ClockReading where
  physicalNow : Int
  expectedPhysical : Option Int
  deriving DecidableEq, Repr

def readPhysicalTime {σ : Type} (r : ClockReading) : Tx σ Fault Nat := do
  require (0 ≤ r.physicalNow ∧ r.physicalNow ≤ maxSafeInteger)
    (.rangeError "order clock must return a non-negative safe integer")
  require (∀ expected ∈ r.expectedPhysical,
      (r.physicalNow - expected).natAbs ≤ maxOrderClockAheadMilliseconds) .orderClockError
  pure r.physicalNow.toNat

/-- The persisted clock never moves back; a system clock that fell too far behind it is refused. -/
def logicalNow (r : ClockReading) : OrderTx Nat := do
  let physicalNow ← readPhysicalTime r
  let last ← readWith (·.clock)
  require (last - physicalNow ≤ maxOrderClockAheadMilliseconds) .orderClockError
  update fun db => { db with clock := max db.clock physicalNow }
  let now ← readWith (·.clock)
  toSafeInteger now "logical order time"

/-! ## Order events -/

/-- What `order_events_valid_insert` asks of the order an event is about. -/
def OrderEvent.describes (e : OrderEvent) (o : PaymentOrder) : Bool :=
  o.orderId = e.orderId && o.version = e.sequence && o.updatedAt = e.occurredAt &&
  (match e.type with
   | .CREATED => o.version = 1 && o.checkoutStatus = .OPEN && o.paymentStatus = .UNPAID
   | .CHECKOUT_CLOSED => o.checkoutStatus = .CLOSED
   | .CHECKOUT_EXPIRED => o.checkoutStatus = .EXPIRED
   | .PAYMENT_CONFIRMED => o.paymentStatus = .CONFIRMED
   | .PAYMENT_DISPUTED => o.paymentStatus = .DISPUTED)

def insertOrderEvent (event : OrderEvent) : OrderTx Unit := do
  let db ← readWith id
  require (db.orders.any event.describes) (.sqlite "order event must match the current order version")
  require (db.events.all fun e => !(e.orderId = event.orderId && e.sequence = event.sequence))
    (.sqlite "UNIQUE constraint failed: order_events.order_id, order_events.sequence")
  update fun db => { db with events := db.events ++ [event] }

/-! ## The end of a checkout -/

/-- Replace the row of an order. -/
def putOrder (order : PaymentOrder) (orders : List PaymentOrder) : List PaymentOrder :=
  orders.map fun o => if o.orderId = order.orderId then order else o

/-- A slot that `payment_orders_release_amount_slot` releases when the order ends. -/
def AmountSlot.heldBy (orderId : Uuid) (slot : AmountSlot) : Bool :=
  slot.orderId = orderId && slot.releasedAt = none

def releaseSlot (orderId : Uuid) (closedAt : Nat) (reason : CheckoutStatus) (slot : AmountSlot) :
    AmountSlot :=
  if slot.heldBy orderId then
    { slot with releasedAt := some closedAt, releaseReason := some reason }
  else slot

/-- The order row after its checkout ended at `now`. -/
def PaymentOrder.ended (order : PaymentOrder) (status : CheckoutStatus) (now : Nat) : PaymentOrder :=
  { order with checkoutStatus := status, closedAt := some now, updatedAt := now,
               version := order.version + 1 }

/-- `UPDATE payment_orders SET checkout_status, closed_at, updated_at, version WHERE order_id = ? AND
    checkout_status = 'OPEN' AND …`, with the row checks and triggers of that statement: among them
    the release of the order's one amount slot.  `guard` is the rest of the `WHERE`. -/
def endCheckout (orderId : Uuid) (guard : PaymentOrder → Bool) (status : CheckoutStatus) (now : Nat)
    (action : String) : OrderTx Unit := do
  let db ← readWith id
  let order ← orFail (.error (action ++ " changed 0 rows"))
    (db.orders.find? fun o => o.orderId = orderId && o.checkoutStatus = .OPEN && guard o)
  require (order.updatedAt ≤ now) (.sqlite "order updated_at cannot move backwards")
  require (order.closedAt = none) (.sqlite "order end time can only be set once")
  require ((order.ended status now).rowChecks) (.sqlite "CHECK constraint failed: payment_orders")
  require ((db.slots.filter (AmountSlot.heldBy orderId)).length = 1)
    (.sqlite "terminal order must release exactly one amount slot")
  require (db.slots.all fun slot => !slot.heldBy orderId || slot.occupiedFrom ≤ now)
    (.sqlite "CHECK constraint failed: amount_slots")
  update fun db =>
    { db with orders := putOrder (order.ended status now) db.orders,
              slots := db.slots.map (releaseSlot orderId now status) }

/-- The open order with this id, if there is one. -/
def OrderDb.openOrder (db : OrderDb) (orderId : Uuid) : Option PaymentOrder :=
  db.orders.find? fun o => o.orderId = orderId && o.checkoutStatus = .OPEN

def expireOrder (orderId : Uuid) (now : Nat) : OrderTx Unit := do
  let row ← readWith (·.openOrder orderId)
  match row with
  | none => pure ()
  | some order =>
    if now < order.expiresAt then pure ()
    else do
      endCheckout orderId (fun o => o.expiresAt ≤ now) .EXPIRED now "checkout expiry"
      insertOrderEvent ⟨orderId, order.version + 1, .CHECKOUT_EXPIRED, now, .reason "ttl_elapsed"⟩

/-- `ORDER BY expires_at, order_id`. -/
def PaymentOrder.expiresBefore (a b : PaymentOrder) : Bool :=
  a.expiresAt < b.expiresAt || (a.expiresAt = b.expiresAt && a.orderId ≤ b.orderId)

/-- The ids that a bounded expiry sweep selects. -/
def OrderDb.dueOrders (db : OrderDb) (now limit : Nat) : List Uuid :=
  (((db.orders.filter fun o => o.checkoutStatus = .OPEN && o.expiresAt ≤ now).mergeSort
    PaymentOrder.expiresBefore).take limit).map (·.orderId)

def expireDueOrders (now limit : Nat) : OrderTx Unit := do
  let rows ← readWith (·.dueOrders now limit)
  forEach (expireOrder · now) rows

def expireOrderByIdIfDue (apiClientId : String) (orderId : Uuid) (now : Nat) : OrderTx Unit := do
  let row ← readWith (·.openOrder orderId)
  match row with
  | none => pure ()
  | some order =>
    if order.apiClientId = apiClientId ∧ order.expiresAt ≤ now then expireOrder orderId now
    else pure ()

/-! ## Amount slots -/

/-- The slots of one Alipay account and one payable amount: one line of reuse, generation after
    generation. -/
def OrderDb.line (db : OrderDb) (account : String) (amount : Nat) : List AmountSlot :=
  db.slots.filter fun s => s.alipayAccountId = account && s.payableAmountCents = amount

/-- The slot of the line with the largest generation. -/
def OrderDb.latestSlot (db : OrderDb) (account : String) (amount : Nat) : Option AmountSlot :=
  (db.line account amount).argmax (·.generation)

/-- The order a slot belongs to. -/
def OrderDb.orderOf (db : OrderDb) (slot : AmountSlot) : Option PaymentOrder :=
  db.orders.find? fun o => o.orderId = slot.orderId

/-- When an amount of a line is free, and with which generation; or the time it becomes free. -/
inductive Availability
  | free (generation : Nat)
  | busyUntil (availableAt : Nat)
  deriving DecidableEq, Repr

inductive AmountAllocation
  | allocated (payableAmountCents generation : Nat)
  | exhausted (retryAfterSeconds : Nat)
  deriving DecidableEq, Repr

def amountReuseAvailableAt (endedAt cooldownSeconds : Nat) : OrderTx Nat := do
  require (isSafeInteger (endedAt + cooldownSeconds * 1000))
    (.error "amount reuse time is outside the safe integer range")
  pure (endedAt + cooldownSeconds * 1000)

def minimumDefined (current : Option Nat) (candidate : Nat) : Nat :=
  match current with
  | none => candidate
  | some c => min c candidate

/-- The latest slot of a line decides when the amount may be handed out again. -/
def latestAvailability (account : String) (amount now : Nat) : OrderTx Availability := do
  let db ← readWith id
  match db.latestSlot account amount with
  | none => pure (.free 1)
  | some latest => do
    let releasedAt ← orFail (.error "active amount slot is detached from its open order") latest.releasedAt
    -- the source joins the order in; the foreign key makes the join succeed
    let order ← orFail (.sqlite "FOREIGN KEY constraint failed") (db.orderOf latest)
    require (order.checkoutStatus ≠ .OPEN ∧ order.closedAt ≠ none)
      (.error "released amount slot has no terminal order")
    let reusableAt ← amountReuseAvailableAt order.endedAt order.amountReuseCooldownSeconds
    if now < max releasedAt reusableAt then pure (.busyUntil (max releasedAt reusableAt))
    else do
      require (isSafeInteger (latest.generation + 1))
        (.error "amount slot generation is outside the safe integer range")
      pure (.free (latest.generation + 1))

/-- One offset of the allocation loop: an open order on the amount keeps it busy, unless it is due
    and is expired on the spot. -/
def amountAvailability (account : String) (amount now : Nat) : OrderTx Availability := do
  let row ← readWith fun db => db.orders.find? fun o =>
    o.alipayAccountId = account && o.payableAmountCents = amount && o.checkoutStatus = .OPEN
  match row with
  | none => latestAvailability account amount now
  | some order =>
    if order.expiresAt ≤ now then do
      expireOrder order.orderId now
      latestAvailability account amount now
    else do
      let availableAt ← amountReuseAvailableAt order.expiresAt order.amountReuseCooldownSeconds
      pure (.busyUntil availableAt)

/-- After the last offset: the soonest time one of the amounts becomes free. -/
def allocationExhausted (earliestAvailableAt : Option Nat) (now : Nat) : OrderTx AmountAllocation := do
  let earliest ← orFail (.error "exhausted amount slots have no future release time") earliestAvailableAt
  require (now < earliest) (.error "exhausted amount slots have no future release time")
  pure (.exhausted (max 1 ((earliest - now + 999) / 1000)))

/-- Ascending offsets select the smallest available amount, whether new or reused. -/
def allocateFrom (account : String) (requestedAmountCents now : Nat) :
    List Nat → Option Nat → OrderTx AmountAllocation
  | [], earliest => allocationExhausted earliest now
  | offset :: offsets, earliest =>
    if maxPayableAmountCents < requestedAmountCents + offset then allocationExhausted earliest now
    else do
      match ← amountAvailability account (requestedAmountCents + offset) now with
      | .free generation => pure (.allocated (requestedAmountCents + offset) generation)
      | .busyUntil availableAt =>
        allocateFrom account requestedAmountCents now offsets (some (minimumDefined earliest availableAt))

def allocateAmountSlot (account : String) (requestedAmountCents maximumOffsetCents now : Nat) :
    OrderTx AmountAllocation :=
  allocateFrom account requestedAmountCents now (List.range' 1 maximumOffsetCents) none

/-- The `CHECK`s of `amount_slots`. -/
def AmountSlot.rowChecks (s : AmountSlot) : Bool :=
  (2 ≤ s.payableAmountCents && s.payableAmountCents ≤ 9999999999) && 1 ≤ s.generation &&
  (match s.releasedAt with | none => true | some r => s.occupiedFrom ≤ r) &&
  (s.releasedAt.isNone == s.releaseReason.isNone)

/-- `amount_slots_valid_insert`: a new slot belongs to an open order with the same facts. -/
def AmountSlot.opensFor (s : AmountSlot) (o : PaymentOrder) : Bool :=
  o.orderId = s.orderId && o.collectionProfileId = s.collectionProfileId &&
  o.payableAmountCents = s.payableAmountCents && o.alipayAccountId = s.alipayAccountId &&
  o.eligibleFrom = s.occupiedFrom && o.checkoutStatus = .OPEN

/-- `amount_slots_no_overlap`: the previous slot of the line is released by the time this one starts. -/
def AmountSlot.releasedBy (previous : AmountSlot) (occupiedFrom : Nat) : Bool :=
  match previous.releasedAt with
  | none => false
  | some r => r ≤ occupiedFrom

/-- `amount_slots_cooldown_guard`: and the cooldown of its order is over. -/
def OrderDb.cooledDown (db : OrderDb) (previous : AmountSlot) (occupiedFrom : Nat) : Bool :=
  match db.orderOf previous with
  | none => true
  | some o => previous.releasedAt.isNone || o.reusableAt ≤ occupiedFrom

def insertAmountSlot (slot : AmountSlot) : OrderTx Unit := do
  let db ← readWith id
  require (slot.releasedAt = none ∧ slot.releaseReason = none ∧ db.orders.any slot.opensFor)
    (.sqlite "new amount slot must match an open order")
  require (slot.generation =
      ((db.latestSlot slot.alipayAccountId slot.payableAmountCents).map (·.generation + 1)).getD 1)
    (.sqlite "amount slot generation must advance exactly once")
  require (∀ previous ∈ db.latestSlot slot.alipayAccountId slot.payableAmountCents,
      previous.releasedBy slot.occupiedFrom) (.sqlite "amount slot intervals cannot overlap")
  require (∀ previous ∈ db.latestSlot slot.alipayAccountId slot.payableAmountCents,
      db.cooledDown previous slot.occupiedFrom) (.sqlite "amount slot is still cooling down")
  require slot.rowChecks (.sqlite "CHECK constraint failed: amount_slots")
  require (db.slots.all fun s => s.slotId ≠ slot.slotId && s.orderId ≠ slot.orderId)
    (.sqlite "UNIQUE constraint failed: amount_slots")
  update fun db => { db with slots := db.slots ++ [slot] }

end PerPay.Orders
