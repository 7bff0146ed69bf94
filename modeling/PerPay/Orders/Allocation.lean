/-
  **The smallest free amount** — what `allocateAmountSlot` and the profiles it is tried on give out.

  An order HOLDS its amount on its Alipay account until its cooldown is over: an open order until the
  cooldown after its expiry, whether a sweep has noticed the expiry or not, an ended one until the cooldown
  after its end.  An amount is available at a time when nothing holds it any more.  That says what the
  allocation is for, without slots, generations and sweeps:

  1. expiring a due order moves no hold (`Expires.holds`), so it does not matter who notices an expiry;
  2. the holds of one amount do not overlap (`AmountInv.apart`), so the latest slot, or the one open order,
     speaks for all of them (`AmountInv.latestAvailability`, `AmountInv.amountAvailability`);
  3. the loop over the offsets returns the smallest available amount, or the number of seconds after which
     the first one is available (`AmountInv.allocateFrom`), and so does the loop over the profiles;
  4. nothing but a creation moves a hold to a later time (`hold_le`), so the number stays right.

  Along the way none of the errors that the loops can raise is ever raised.
-/
import Mathlib.Order.Bounds.Basic
import PerPay.Orders.Slots
import PerPay.Orders.Events

namespace PerPay.Orders

open Txn Table

variable {pf : Platform} {db db' : OrderDb} {account : String} {amount : Nat}

/-! ## Holds -/

/-- The time until which an order holds its amount. -/
def PaymentOrder.heldUntil (o : PaymentOrder) : Nat :=
  if o.checkoutStatus = .OPEN then o.expiresAt + o.amountReuseCooldownSeconds * 1000 else o.reusableAt

structure Hold where
  account : String
  amount : Nat
  heldUntil : Nat
  deriving DecidableEq, Repr

def PaymentOrder.hold (o : PaymentOrder) : Hold := ⟨o.alipayAccountId, o.payableAmountCents, o.heldUntil⟩

def OrderDb.holds (db : OrderDb) : List Hold := db.orders.map PaymentOrder.hold

/-- Nothing holds the amount on the account at this time. -/
def Available (holds : List Hold) (account : String) (amount time : Nat) : Prop :=
  ∀ hold ∈ holds, hold.account = account → hold.amount = amount → hold.heldUntil ≤ time

instance (holds : List Hold) (account : String) (amount time : Nat) : Decidable (Available holds account amount time) :=
  inferInstanceAs (Decidable (∀ hold ∈ holds, _))

/-- The amounts a request may be given: above the requested one, within the offset and the limit. -/
def Payable (requestedAmountCents maximumOffsetCents amount : Nat) : Prop :=
  requestedAmountCents < amount ∧ amount ≤ requestedAmountCents + maximumOffsetCents ∧ amount ≤ maxPayableAmountCents

theorem Available.mono {holds : List Hold} {time time' : Nat} (h : Available holds account amount time)
    (hle : time ≤ time') : Available holds account amount time' :=
  fun hold hmem ha hm => (h hold hmem ha hm).trans hle

theorem available_iff {time : Nat} : Available db.holds account amount time ↔
    ∀ o ∈ db.orders, o.alipayAccountId = account → o.payableAmountCents = amount → o.heldUntil ≤ time := by
  unfold Available OrderDb.holds
  rw [List.forall_mem_map]
  rfl

/-- An order that has ended holds its amount until it is reusable. -/
theorem PaymentOrder.heldUntil_ended {o : PaymentOrder} (h : o.rowChecks) (hc : o.closedAt ≠ none) :
    o.heldUntil = o.reusableAt :=
  if_neg fun hopen => hc ((o.rowChecks_open h).mp hopen)

theorem PaymentOrder.heldUntil_open {o : PaymentOrder} (hopen : o.checkoutStatus = .OPEN) :
    o.heldUntil = o.expiresAt + o.amountReuseCooldownSeconds * 1000 := if_pos hopen

theorem PaymentOrder.endedAt_le {o : PaymentOrder} (h : o.rowChecks) (hc : o.closedAt ≠ none) :
    o.endedAt ≤ o.expiresAt := by
  obtain ⟨closed, hclosed⟩ := Option.ne_none_iff_exists'.mp hc
  have := (o.rowChecks_ended h hclosed).2
  omega

/-- **No order holds its amount longer than it said when it was issued.** -/
theorem hold_le {o o' : PaymentOrder} (hf : Frozen o o') (h : o.rowChecks) (h' : o'.rowChecks) :
    o'.heldUntil ≤ o.heldUntil := by
  have hcooldown := hf.cooldown
  have hexpiry := hf.expiry
  by_cases hc : o.closedAt = none
  · rw [o.heldUntil_open ((o.rowChecks_open h).mpr hc)]
    by_cases hc' : o'.closedAt = none
    · rw [o'.heldUntil_open ((o'.rowChecks_open h').mpr hc'), hcooldown, hexpiry]
    · have hended := o'.endedAt_le h' hc'
      rw [o'.heldUntil_ended h' hc']
      unfold PaymentOrder.reusableAt
      rw [hcooldown]
      omega
  · rw [o.heldUntil_ended h hc, o'.heldUntil_ended h' (by rw [(hf.ending hc).1]; exact hc)]
    exact (hf.reusableAt hc).le

/-! ## The invariant -/

/-- What the allocation relies on. -/
structure AmountInv (db : OrderDb) : Prop where
  slots : SlotInv db
  events : EventInv db
  stamped : OrdersStamped db.clock db
  deadlines : ∀ o ∈ db.orders, o.expiresAt + o.amountReuseCooldownSeconds * 1000 ≤ maxSafeInteger
  slotOf : ∀ o ∈ db.orders, (db.slots.filter fun s => s.orderId = o.orderId).length = 1

theorem AmountInv.empty (h : OrderDb.Empty db) : AmountInv db where
  slots := .empty h
  events := .empty h
  stamped := .empty h
  deadlines := by rw [h.orders]; simp
  slotOf := by rw [h.orders]; simp

theorem AmountInv.framed (h : AmountInv db) (ho : db'.orders = db.orders) (hs : db'.slots = db.slots)
    (he : db'.events = db.events) (hstamped : OrdersStamped db'.clock db') : AmountInv db' where
  slots := h.slots.frame ho hs
  events := h.events.framed ho he
  stamped := hstamped
  deadlines := by rw [ho]; exact h.deadlines
  slotOf := by rw [ho, hs]; exact h.slotOf

theorem AmountInv.clocked (h : AmountInv db) {now : Nat} (hle : db.clock ≤ now) :
    AmountInv { db with clock := now } := by
  have hlater := h.stamped.mono hle
  exact h.framed rfl rfl rfl ⟨hlater.orders, hlater.events, hlater.slots, hlater.webhookTargets, hlater.epayOrders⟩

/-- The slots of an order, counted after some slots were released. -/
theorem slotsOf_release (orderId other : Uuid) (now : Nat) (status : CheckoutStatus) (slots : List AmountSlot) :
    ((slots.map (releaseSlot orderId now status)).filter fun s => s.orderId = other).length =
      (slots.filter fun s => s.orderId = other).length := by
  rw [List.filter_map, List.length_map]
  refine congrArg List.length (List.filter_congr fun s _ => ?_)
  simp only [Function.comp, (releaseSlot_same orderId now status s).orderId]

theorem AmountInv.ends {order : PaymentOrder} {status : CheckoutStatus} (h : AmountInv db) (hslots : SlotInv db')
    (hends : CheckoutEnds order status db.clock db db') : AmountInv db' := by
  have hclock : db'.clock = db.clock := by rw [hends.result]
  have horders : db'.orders = putOrder (order.ended status db.clock) db.orders := by rw [hends.result]
  refine ⟨hslots, h.events.advanced hends.advances, hclock ▸ h.stamped.ends hends, ?_, ?_⟩
  · intro o ho
    rw [horders] at ho
    rcases mem_putOrder ho with rfl | ⟨ho, -⟩
    · exact h.deadlines order hends.mem
    · exact h.deadlines o ho
  · intro o ho
    rw [hends.result]
    show ((db.slots.map _).filter _).length = 1
    rw [slotsOf_release]
    rw [horders] at ho
    rcases mem_putOrder ho with rfl | ⟨ho, -⟩
    · exact h.slotOf order hends.mem
    · exact h.slotOf o ho

theorem AmountInv.inserted {input : CreateStoredOrderInput} {rnd : CreateRandomness} {profile : CollectionProfile}
    {generation cooldown : Nat} {key : CheckoutTokenKey} (h : AmountInv db) (hslots : SlotInv db')
    (hsafe : db.clock + input.ttlMilliseconds + cooldown * 1000 ≤ maxSafeInteger)
    (hrows : OrderInserted pf input rnd profile amount generation cooldown db.clock key db db') : AmountInv db' := by
  refine ⟨hslots, h.events.inserted hrows, hrows.clock ▸ h.stamped.inserted hrows, ?_, ?_⟩
  · intro o ho
    rw [hrows.orders] at ho
    rcases List.mem_append.mp ho with ho | ho
    · exact h.deadlines o ho
    · rw [List.mem_singleton.mp ho]
      exact hsafe
  · -- every slot belongs to an older order, so the new order has exactly the new slot
    have hnone : db.slots.filter (fun s => s.orderId = rnd.orderId) = [] := by
      refine List.filter_eq_nil_iff.mpr fun s hs hid => ?_
      obtain ⟨o, ho, hlink⟩ := h.slots.linked s hs
      exact (hrows.fresh o ho).orderId (hlink.orderId.trans (of_decide_eq_true hid))
    intro o ho
    rw [hrows.orders] at ho
    rw [hrows.slots]
    rcases List.mem_append.mp ho with ho | ho
    · have hne : rnd.orderId ≠ o.orderId := fun he => (hrows.fresh o ho).orderId he.symm
      rw [filter_append_out (q := fun s : AmountSlot => s.orderId = o.orderId) (decide_eq_false hne)]
      exact h.slotOf o ho
    · rw [List.mem_singleton.mp ho]
      show ((db.slots ++ [_]).filter fun s : AmountSlot => s.orderId = rnd.orderId).length = 1
      rw [filter_append_in (q := fun s : AmountSlot => s.orderId = rnd.orderId) (decide_eq_true rfl), hnone]
      rfl

theorem AmountInv.keptAt (pf : Platform) (now : Nat) : KeptAt pf (fun db => AmountInv db ∧ db.clock = now) now where
  expireOrder orderId db := by
    rintro ⟨h, rfl⟩ u db' hx
    have hslots := ((SlotInv.stable.kept pf).units db.clock).expireOrder orderId db h.slots u db' hx
    rcases expireOrder_ok hx with rfl | ⟨order, -, -, hends⟩
    · exact ⟨h, rfl⟩
    · exact ⟨h.ends hslots hends, by rw [hends.result]⟩
  closeCheckout client orderId order db := by
    rintro ⟨h, rfl⟩ u db' hx
    have hslots := ((SlotInv.stable.kept pf).units db.clock).closeCheckout client orderId order db h.slots u db' hx
    rcases closeCheckout_ok hx with rfl | ⟨order, status, -, hends⟩
    · exact ⟨h, rfl⟩
    · exact ⟨h.ends hslots hends, by rw [hends.result]⟩
  insertOrderRows input rnd profile amount generation cooldown hsafe db := by
    rintro ⟨h, rfl⟩ result db' hx
    have hslots := ((SlotInv.stable.kept pf).units db.clock).insertOrderRows input rnd profile amount generation cooldown
      hsafe db h.slots result db' hx
    obtain ⟨key, hrows, -⟩ := insertOrderRows_ok hx
    exact ⟨h.inserted hslots (of_decide_eq_true hsafe) hrows, hrows.clock⟩

theorem AmountInv.kept (pf : Platform) : Kept pf AmountInv (fun now db => AmountInv db ∧ db.clock = now) where
  logicalNow r db h now db' hx := by
    obtain ⟨hle, -, -, rfl⟩ := logicalNow_ok hx
    exact ⟨h.clocked hle, rfl⟩
  units := AmountInv.keptAt pf
  weaken _ _ h := h.1
  configure configuration db _ h :=
    h.framed rfl rfl rfl ⟨h.stamped.orders, h.stamped.events, h.stamped.slots, h.stamped.webhookTargets, h.stamped.epayOrders⟩

theorem AmountInv.reachable (hr : Runs.Reachable (orderStore pf) db) : AmountInv db :=
  (AmountInv.kept pf).reachable (fun _ => .empty) hr

/-! ## Orders on one amount -/

/-- `o` has ended and cooled down when `o'` is created. -/
def Before (o o' : PaymentOrder) : Prop := o.closedAt ≠ none ∧ o.reusableAt ≤ o'.createdAt

theorem AmountInv.slot (h : AmountInv db) {o : PaymentOrder} (ho : o ∈ db.orders) : ∃ s ∈ db.slots, Linked s o := by
  have hpos : 0 < (db.slots.filter fun s => s.orderId = o.orderId).length := by rw [h.slotOf o ho]; exact Nat.one_pos
  obtain ⟨s, hfound⟩ := List.exists_mem_of_length_pos hpos
  obtain ⟨hs, hid⟩ := List.mem_filter.mp hfound
  obtain ⟨o', ho', hlink⟩ := h.slots.linked s hs
  obtain rfl := h.slots.unique ho' ho (hlink.orderId.trans (of_decide_eq_true hid))
  exact ⟨s, hs, hlink⟩

theorem AmountInv.before (h : AmountInv db) {s s' : AmountSlot} {o o' : PaymentOrder} (ho : o ∈ db.orders)
    (ho' : o' ∈ db.orders) (hs : Linked s o) (hs' : Linked s' o') (hline : SameLine s s')
    (hprecedes : Precedes db.orders s s') : Before o o' := by
  obtain ⟨-, x, hx, hid, hclosed, hreuse⟩ := hprecedes hline
  obtain rfl := h.slots.unique hx ho (hid.trans hs.orderId.symm)
  refine ⟨hclosed, ?_⟩
  rw [← (o'.rowChecks_created (h.slots.rows o' ho')).1, hs'.start]
  exact hreuse

/-- **Two orders on one amount never hold it together.** -/
theorem AmountInv.apart (h : AmountInv db) {o o' : PaymentOrder} (ho : o ∈ db.orders) (ho' : o' ∈ db.orders)
    (haccount : o.alipayAccountId = o'.alipayAccountId) (hamount : o.payableAmountCents = o'.payableAmountCents)
    (hne : o ≠ o') : Before o o' ∨ Before o' o := by
  obtain ⟨s, hs, hlink⟩ := h.slot ho
  obtain ⟨s', hs', hlink'⟩ := h.slot ho'
  have hline : SameLine s s' :=
    ⟨by rw [← hlink.account, ← hlink'.account]; exact haccount, by rw [← hlink.amount, ← hlink'.amount]; exact hamount⟩
  have hslots : s ≠ s' := by
    rintro rfl
    exact hne (h.slots.unique ho ho' (hlink.orderId.trans hlink'.orderId.symm))
  rcases h.slots.precedes_or hs hs' hslots with hprecedes | hprecedes
  · exact .inl (h.before ho ho' hlink hlink' hline hprecedes)
  · exact .inr (h.before ho' ho hlink' hlink ⟨hline.1.symm, hline.2.symm⟩ hprecedes)

/-- An order on the amount that every other one comes before. -/
structure LastOn (db : OrderDb) (account : String) (amount : Nat) (o : PaymentOrder) : Prop where
  mem : o ∈ db.orders
  onAccount : o.alipayAccountId = account
  onAmount : o.payableAmountCents = amount
  last : ∀ o' ∈ db.orders, o'.alipayAccountId = account → o'.payableAmountCents = amount → o' ≠ o → Before o' o

/-- **The last order speaks for the amount.** -/
theorem LastOn.available_iff (h : AmountInv db) {o : PaymentOrder} (hlast : LastOn db account amount o) {time : Nat} :
    Available db.holds account amount time ↔ o.heldUntil ≤ time := by
  rw [Orders.available_iff]
  constructor
  · intro hall
    exact hall o hlast.mem hlast.onAccount hlast.onAmount
  · intro hle o' ho' ha hm
    by_cases heq : o' = o
    · rw [heq]; exact hle
    · obtain ⟨hclosed, hreuse⟩ := hlast.last o' ho' ha hm heq
      have hrow := h.slots.rows o hlast.mem
      have hcreated : o.createdAt ≤ o.heldUntil := by
        by_cases hc : o.closedAt = none
        · rw [o.heldUntil_open ((o.rowChecks_open hrow).mpr hc)]
          have := (o.rowChecks_created hrow).2.1
          omega
        · obtain ⟨closed, hclosed⟩ := Option.ne_none_iff_exists'.mp hc
          rw [o.heldUntil_ended hrow hc]
          exact (o.rowChecks_created_lt_reusable hrow hclosed).le
      rw [o'.heldUntil_ended (h.slots.rows o' ho') hclosed]
      omega

theorem AmountInv.lastOn_open (h : AmountInv db) {o : PaymentOrder} (ho : o ∈ db.orders)
    (hopen : o.checkoutStatus = .OPEN) : LastOn db o.alipayAccountId o.payableAmountCents o := by
  refine ⟨ho, rfl, rfl, fun o' ho' ha hm hne => ?_⟩
  rcases h.apart ho' ho ha hm hne with hbefore | hbefore
  · exact hbefore
  · exact absurd ((o.rowChecks_open (h.slots.rows o ho)).mp hopen) hbefore.1

theorem AmountInv.lastOn_latest (h : AmountInv db) {latest : AmountSlot} (hl : db.latestSlot account amount = some latest) :
    ∃ o, db.orderOf latest = some o ∧ Linked latest o ∧ LastOn db account amount o := by
  obtain ⟨hmem, hla, hlm⟩ := mem_line.mp (List.argmax_mem hl)
  obtain ⟨o, ho, hof, hlink⟩ := h.slots.orderOf hmem
  refine ⟨o, hof, hlink, ho, hlink.account.trans hla, hlink.amount.trans hlm, fun o' ho' ha hm hne => ?_⟩
  obtain ⟨s', hs', hlink'⟩ := h.slot ho'
  have hsa : s'.alipayAccountId = account := hlink'.account.symm.trans ha
  have hsm : s'.payableAmountCents = amount := hlink'.amount.symm.trans hm
  have hslots : s' ≠ latest := by
    rintro rfl
    exact hne (h.slots.unique ho' ho (hlink'.orderId.trans hlink.orderId.symm))
  refine h.before ho' ho hlink' hlink ⟨hsa.trans hla.symm, hsm.trans hlm.symm⟩ ?_
  exact h.slots.precedes_latest hs' (by rw [hsa, hsm]; exact hl) hslots

theorem AmountInv.available_of_none (h : AmountInv db) (hl : db.latestSlot account amount = none) (time : Nat) :
    Available db.holds account amount time := by
  rw [Orders.available_iff]
  intro o ho ha hm
  obtain ⟨s, hs, hlink⟩ := h.slot ho
  have hline : s ∈ db.line account amount := mem_line.mpr ⟨hs, hlink.account.symm.trans ha, hlink.amount.symm.trans hm⟩
  rw [latestSlot_eq_none.mp hl] at hline
  exact absurd hline List.not_mem_nil

/-! ## Generations stay small -/

/-- Times that keep a distance need room. -/
theorem length_of_spaced {gap high : Nat} : ∀ {times : List Nat} {low : Nat}, times.Pairwise (fun t t' => t + gap ≤ t') →
    (∀ t ∈ times, low ≤ t ∧ t ≤ high) → (times.length - 1) * gap ≤ high - low
  | [], _, _, _ => by simp
  | [t], _, _, _ => by simp
  | t :: t' :: times, low, hspaced, hwithin => by
    obtain ⟨hfirst, hrest⟩ := List.pairwise_cons.mp hspaced
    have ih := @length_of_spaced gap high (t' :: times) (low + gap) hrest fun x hx =>
      ⟨by have := hfirst x hx; have := (hwithin t List.mem_cons_self).1; omega, (hwithin x (List.mem_cons_of_mem t hx)).2⟩
    have hroom : low + gap ≤ high := by
      have := hfirst t' List.mem_cons_self
      have := hwithin t List.mem_cons_self
      have := hwithin t' (List.mem_cons_of_mem t List.mem_cons_self)
      omega
    have hlength : (t :: t' :: times).length - 1 = ((t' :: times).length - 1) + 1 := by simp
    rw [hlength, Nat.add_mul, Nat.one_mul]
    omega

/-- An amount is handed out at most once a minute, so its generations never leave the safe integers. -/
theorem AmountInv.generation_safe (h : AmountInv db) (hclock : db.clock ≤ maxSafeInteger) {latest : AmountSlot}
    (hl : db.latestSlot account amount = some latest) : latest.generation + 1 ≤ maxSafeInteger := by
  have hspaced : ((db.line account amount).map (·.occupiedFrom)).Pairwise fun t t' => t + 60000 ≤ t' := by
    rw [List.pairwise_map]
    refine (h.slots.spaced.sublist List.filter_sublist).imp_of_mem fun {s t} hs ht hst => ?_
    obtain ⟨hs, hsa, hsm⟩ := mem_line.mp hs
    obtain ⟨ht, hta, htm⟩ := mem_line.mp ht
    obtain ⟨o, ho, -, hlink, hc, hr, -⟩ := h.slots.spaced_of_precedes hs ⟨hsa.trans hta.symm, hsm.trans htm.symm⟩ hst
    obtain ⟨closed, hclosed⟩ := Option.ne_none_iff_exists'.mp hc
    have hrow := h.slots.rows o ho
    have hended := (o.rowChecks_ended hrow hclosed).1
    obtain ⟨hstart, -, hcooldown⟩ := o.rowChecks_created hrow
    rw [hlink.start] at hstart
    unfold PaymentOrder.reusableAt at hr
    omega
  have hwithin : ∀ t ∈ (db.line account amount).map (·.occupiedFrom), 0 ≤ t ∧ t ≤ db.clock := by
    intro t ht
    obtain ⟨s, hs, rfl⟩ := List.mem_map.mp ht
    exact ⟨Nat.zero_le _, (h.stamped.slots s (mem_line.mp hs).1).1⟩
  have hlength := length_of_spaced hspaced hwithin
  rw [List.length_map] at hlength
  rw [h.slots.latest_generation hl]
  unfold maxSafeInteger at *
  omega

/-! ## Expiring a due order -/

/-- Some due orders have expired: later tables with the same holds. -/
structure Expires (db db' : OrderDb) : Prop where
  inv : AmountInv db'
  clock : db'.clock = db.clock
  holds : db'.holds = db.holds
  configuration : db'.configuration = db.configuration

theorem Expires.refl (h : AmountInv db) : Expires db db := ⟨h, rfl, rfl, rfl⟩

theorem Expires.trans {db'' : OrderDb} (h : Expires db db') (h' : Expires db' db'') : Expires db db'' :=
  ⟨h'.inv, h'.clock.trans h.clock, h'.holds.trans h.holds, h'.configuration.trans h.configuration⟩

theorem PaymentOrder.rowChecks_expired {o : PaymentOrder} (h : o.rowChecks) {now : Nat}
    (hdue : o.expiresAt ≤ now) : (o.ended .EXPIRED now).rowChecks := by
  have hcreated := (o.rowChecks_created h).2.1
  unfold PaymentOrder.rowChecks PaymentOrder.ended at *
  simp only [Bool.and_eq_true, decide_eq_true_eq] at h ⊢
  obtain ⟨⟨⟨⟨⟨⟨⟨⟨⟨⟨hrequested, hpayable⟩, hmaximum⟩, hoffset⟩, hcooldown⟩, hreceived⟩, heligible⟩, hexpires⟩, -⟩, -⟩, hpayment⟩ := h
  exact ⟨⟨⟨⟨⟨⟨⟨⟨⟨⟨hrequested, hpayable⟩, hmaximum⟩, hoffset⟩, hcooldown⟩, hreceived⟩, heligible⟩, hexpires⟩, by omega⟩, hdue⟩, hpayment⟩

/-- The slot of an open order is the one that its end releases. -/
theorem AmountInv.heldSlots (h : AmountInv db) {order : PaymentOrder} (ho : order ∈ db.orders) (hc : order.closedAt = none) :
    (db.slots.filter (AmountSlot.heldBy order.orderId)).length = 1 := by
  have hsame : db.slots.filter (AmountSlot.heldBy order.orderId) = db.slots.filter fun s => s.orderId = order.orderId := by
    refine List.filter_congr fun s hs => ?_
    unfold AmountSlot.heldBy
    by_cases hid : s.orderId = order.orderId
    · obtain ⟨o, ho', hlink⟩ := h.slots.linked s hs
      obtain rfl := h.slots.unique ho' ho (hlink.orderId.trans hid)
      simp [hid, hlink.released, hc]
    · simp [hid]
  rw [hsame]
  exact h.slotOf order ho

/-- **A due order can always be expired.** -/
theorem AmountInv.expires (h : AmountInv db) {order : PaymentOrder} (ho : order ∈ db.orders)
    (hopen : order.checkoutStatus = .OPEN) (hdue : order.expiresAt ≤ db.clock) :
    ∃ db', expireOrder order.orderId db.clock db = .ok ((), db') ∧ CheckoutEnds order .EXPIRED db.clock db db' := by
  have hrow := h.slots.rows order ho
  have hclosed := (order.rowChecks_open hrow).mp hopen
  have hstamped := h.stamped.orders order ho
  have hexpired := order.rowChecks_expired hrow hdue
  have honly : ∀ x ∈ db.orders, x.orderId = order.orderId → x = order := fun x hx hid => h.slots.unique hx ho hid
  have hfound : db.openOrder order.orderId = some order := by
    refine find?_eq_of_only ho (by simp [hopen]) fun x hx hp => honly x hx ?_
    simp only [Bool.and_eq_true, decide_eq_true_eq] at hp
    exact hp.1
  have hfresh : ∀ e ∈ db.events, ¬ (e.orderId = order.orderId ∧ e.sequence = order.version + 1) := by
    rintro e he ⟨hid, hsequence⟩
    have hmem : e ∈ db.eventsOf order.orderId := List.mem_filter.mpr ⟨he, decide_eq_true hid⟩
    have hrange := List.mem_map_of_mem (f := (·.sequence)) hmem
    rw [(h.events.versioned order ho).sequences, List.mem_range'_1] at hrange
    omega
  have hends : endCheckout order.orderId (fun o => o.expiresAt ≤ db.clock) .EXPIRED db.clock "checkout expiry" db =
      .ok ((), { db with orders := putOrder (order.ended .EXPIRED db.clock) db.orders,
                         slots := db.slots.map (releaseSlot order.orderId db.clock .EXPIRED) }) := by
    unfold endCheckout
    simp only [readWith_bind_ok, orFail_bind_ok, require_bind_ok, update_ok, id]
    refine ⟨order, ?_, hstamped.2.2.1, hclosed, hexpired, h.heldSlots ho hclosed, ?_, rfl⟩
    · refine find?_eq_of_only ho (by simp [hopen, hdue]) fun x hx hp => honly x hx ?_
      simp only [Bool.and_eq_true, decide_eq_true_eq] at hp
      exact hp.1.1
    · refine List.all_eq_true.mpr fun s hs => ?_
      simp [(h.stamped.slots s hs).1]
  refine ⟨_, ?_, ⟨ho, hopen, hclosed, by decide, hstamped.2.2.1, hexpired, hfresh, rfl⟩⟩
  unfold expireOrder
  rw [readWith_bind, hfound]
  dsimp only
  rw [if_neg (Nat.not_lt.mpr hdue), bind_of_ok hends]
  unfold insertOrderEvent
  simp only [readWith_bind_ok, require_bind_ok, update_ok, id]
  refine ⟨List.any_eq_true.mpr ⟨_, mem_putOrder_self ho rfl, ?_⟩, List.all_eq_true.mpr fun e he => ?_, rfl⟩
  · simp [OrderEvent.describes, PaymentOrder.ended]
  · simpa [imp_iff_not_or] using hfresh e he

/-- An order that expired is the same hold. -/
theorem CheckoutEnds.expires {order : PaymentOrder} (h : AmountInv db) (hends : CheckoutEnds order .EXPIRED db.clock db db')
    (hinv : AmountInv db') : Expires db db' := by
  refine ⟨hinv, by rw [hends.result], ?_, by rw [hends.result]⟩
  rw [hends.result]
  show (putOrder _ db.orders).map _ = db.orders.map _
  unfold putOrder
  rw [List.map_map]
  refine List.map_congr_left fun o ho => ?_
  show PaymentOrder.hold (if o.orderId = order.orderId then order.ended .EXPIRED db.clock else o) = o.hold
  by_cases hid : o.orderId = order.orderId
  · obtain rfl := h.slots.unique ho hends.mem hid
    rw [if_pos rfl]
    unfold PaymentOrder.hold
    rw [o.heldUntil_open hends.isOpen]
    rfl
  · rw [if_neg hid]

theorem AmountInv.expireOrder (h : AmountInv db) (orderId : Uuid) :
    ∃ db', Orders.expireOrder orderId db.clock db = .ok ((), db') ∧ Expires db db' := by
  cases hf : db.openOrder orderId with
  | none =>
    refine ⟨db, ?_, .refl h⟩
    unfold Orders.expireOrder
    rw [readWith_bind, hf]
    rfl
  | some order =>
    have hp := List.find?_some hf
    simp only [Bool.and_eq_true, decide_eq_true_eq] at hp
    by_cases hdue : order.expiresAt ≤ db.clock
    · obtain ⟨db', hx, hends⟩ := h.expires (List.mem_of_find?_eq_some hf) hp.2 hdue
      rw [hp.1] at hx
      have hinv := ((AmountInv.keptAt samplePlatform db.clock).expireOrder orderId db ⟨h, rfl⟩ () db' hx).1
      exact ⟨db', hx, hends.expires h hinv⟩
    · refine ⟨db, ?_, .refl h⟩
      unfold Orders.expireOrder
      rw [readWith_bind, hf]
      dsimp only
      rw [if_pos (Nat.not_le.mp hdue)]
      rfl

theorem AmountInv.expireDueOrders (h : AmountInv db) (limit : Nat) :
    ∃ db', Orders.expireDueOrders db.clock limit db = .ok ((), db') ∧ Expires db db' := by
  have hloop : ∀ (ids : List Uuid) (m : OrderDb), Expires db m →
      ∃ db', forEach (Orders.expireOrder · db.clock) ids m = .ok ((), db') ∧ Expires db db' := by
    intro ids
    induction ids with
    | nil => exact fun m hm => ⟨m, rfl, hm⟩
    | cons id ids ih =>
      intro m hm
      obtain ⟨m', hx, hm'⟩ := hm.inv.expireOrder id
      rw [hm.clock] at hx
      obtain ⟨db', hrest, hexpires⟩ := ih m' (hm.trans hm')
      exact ⟨db', (bind_of_ok hx).trans hrest, hexpires⟩
  obtain ⟨db', hx, hexpires⟩ := hloop (db.dueOrders db.clock limit) db (.refl h)
  exact ⟨db', hx, hexpires⟩

/-! ## One amount -/

/-- What an availability says about an amount. -/
def Availability.Tells (db : OrderDb) (account : String) (amount : Nat) : Availability → Prop
  | .free _ => Available db.holds account amount db.clock
  | .busyUntil time => db.clock < time ∧ ∀ time', Available db.holds account amount time' ↔ time ≤ time'

/-- **The latest slot tells**, once no open order is on the amount. -/
theorem AmountInv.latestAvailability (h : AmountInv db) (hclock : db.clock ≤ maxSafeInteger)
    (hnone : ∀ o ∈ db.orders, o.alipayAccountId = account → o.payableAmountCents = amount → o.checkoutStatus ≠ .OPEN) :
    ∃ availability, Orders.latestAvailability account amount db.clock db = .ok (availability, db) ∧
      availability.Tells db account amount := by
  cases hl : db.latestSlot account amount with
  | none =>
    refine ⟨.free 1, ?_, h.available_of_none hl _⟩
    unfold Orders.latestAvailability
    rw [readWith_bind, id, hl]
    rfl
  | some latest =>
    obtain ⟨o, hof, hlink, hlast⟩ := h.lastOn_latest hl
    have hrow := h.slots.rows o hlast.mem
    have hclosed : o.closedAt ≠ none := fun hc => hnone o hlast.mem hlast.onAccount hlast.onAmount ((o.rowChecks_open hrow).mpr hc)
    obtain ⟨closed, hclosed'⟩ := Option.ne_none_iff_exists'.mp hclosed
    have hreleased : latest.releasedAt = some closed := hlink.released.trans hclosed'
    have hpast : closed ≤ db.clock := (h.stamped.orders o hlast.mem).2.2.2 closed hclosed'
    have hheld : o.heldUntil = o.endedAt + o.amountReuseCooldownSeconds * 1000 := o.heldUntil_ended hrow hclosed
    have hsafe : isSafeInteger (o.endedAt + o.amountReuseCooldownSeconds * 1000) = true := by
      have := h.deadlines o hlast.mem
      have := o.endedAt_le hrow hclosed
      unfold isSafeInteger
      exact decide_eq_true (by omega)
    have hreuse : amountReuseAvailableAt o.endedAt o.amountReuseCooldownSeconds db = .ok (o.heldUntil, db) := by
      unfold amountReuseAvailableAt
      rw [require_bind_met hsafe, hheld]
      rfl
    unfold Orders.latestAvailability
    rw [readWith_bind, id, hl]
    dsimp only
    rw [hreleased, hof, bind_of_ok (orFail_ok.mpr ⟨rfl, rfl⟩), bind_of_ok (orFail_ok.mpr ⟨rfl, rfl⟩),
      require_bind_met ⟨hnone o hlast.mem hlast.onAccount hlast.onAmount, hclosed⟩, bind_of_ok hreuse]
    by_cases hbusy : db.clock < max closed o.heldUntil
    · rw [if_pos hbusy]
      refine ⟨_, rfl, hbusy, fun time => ?_⟩
      rw [hlast.available_iff h]
      omega
    · have hgeneration : isSafeInteger (latest.generation + 1) = true := decide_eq_true (h.generation_safe hclock hl)
      rw [if_neg hbusy, require_bind_met hgeneration]
      refine ⟨_, rfl, ?_⟩
      show Available db.holds account amount db.clock
      rw [hlast.available_iff h]
      omega

/-- **One round of the loop tells**, and expires at most the one order that it finds due. -/
theorem AmountInv.amountAvailability (h : AmountInv db) (hclock : db.clock ≤ maxSafeInteger) (account : String)
    (amount : Nat) : ∃ availability db', Orders.amountAvailability account amount db.clock db = .ok (availability, db') ∧
      Expires db db' ∧ availability.Tells db' account amount := by
  unfold Orders.amountAvailability
  rw [readWith_bind]
  cases hf : db.orders.find? fun o =>
      o.alipayAccountId = account && o.payableAmountCents = amount && o.checkoutStatus = .OPEN with
  | none =>
    have hnone : ∀ o ∈ db.orders, o.alipayAccountId = account → o.payableAmountCents = amount → o.checkoutStatus ≠ .OPEN := by
      intro o ho ha hm hopen
      have := List.find?_eq_none.mp hf o ho
      simp [ha, hm, hopen] at this
    obtain ⟨availability, hx, htells⟩ := h.latestAvailability hclock hnone
    exact ⟨availability, db, hx, .refl h, htells⟩
  | some order =>
    have ho := List.mem_of_find?_eq_some hf
    have hp := List.find?_some hf
    simp only [Bool.and_eq_true, decide_eq_true_eq] at hp
    obtain ⟨⟨ha, hm⟩, hopen⟩ := hp
    have hlast := h.lastOn_open ho hopen
    rw [ha, hm] at hlast
    dsimp only
    by_cases hdue : order.expiresAt ≤ db.clock
    · rw [if_pos hdue]
      obtain ⟨m, hx, hends⟩ := h.expires ho hopen hdue
      have hinv := ((AmountInv.keptAt samplePlatform db.clock).expireOrder order.orderId db ⟨h, rfl⟩ () m hx).1
      have hexpires := hends.expires h hinv
      -- the one open order on the amount has expired
      have hnone : ∀ o ∈ m.orders, o.alipayAccountId = account → o.payableAmountCents = amount → o.checkoutStatus ≠ .OPEN := by
        intro o ho' ha' hm' hopen'
        rw [hends.advances.orders] at ho'
        rcases mem_putOrder ho' with rfl | ⟨ho', hne⟩
        · exact absurd hopen' (by simp [PaymentOrder.ended])
        · have hbefore := hlast.last o ho' ha' hm' fun heq => hne (by rw [heq]; rfl)
          exact hbefore.1 ((o.rowChecks_open (h.slots.rows o ho')).mp hopen')
      obtain ⟨availability, hlatest, htells⟩ := hinv.latestAvailability (hexpires.clock ▸ hclock) hnone
      rw [hexpires.clock] at hlatest
      exact ⟨availability, m, (bind_of_ok hx).trans hlatest, hexpires, htells⟩
    · rw [if_neg hdue]
      have hsafe : isSafeInteger (order.expiresAt + order.amountReuseCooldownSeconds * 1000) = true :=
        decide_eq_true (h.deadlines order ho)
      have hreuse : amountReuseAvailableAt order.expiresAt order.amountReuseCooldownSeconds db = .ok (order.heldUntil, db) := by
        unfold amountReuseAvailableAt
        rw [require_bind_met hsafe, order.heldUntil_open hopen]
        rfl
      rw [bind_of_ok hreuse]
      refine ⟨_, db, rfl, .refl h, ?_, fun time => hlast.available_iff h⟩
      rw [order.heldUntil_open hopen]
      omega

/-! ## The loop over the offsets -/

/-- Some of the amounts is available on the account at this time. -/
def Opening (holds : List Hold) (account : String) (amounts : Nat → Prop) (time : Nat) : Prop :=
  ∃ amount, amounts amount ∧ Available holds account amount time

/-- The whole seconds to wait, at least one. -/
theorem least_seconds {P : Nat → Prop} (hmono : ∀ {time time'}, P time → time ≤ time' → P time') {now earliest : Nat}
    (hlater : now < earliest) (hleast : IsLeast {time | P time} earliest) :
    IsLeast {seconds | 1 ≤ seconds ∧ P (now + seconds * 1000)} (max 1 ((earliest - now + 999) / 1000)) := by
  constructor
  · refine ⟨le_max_left _ _, hmono hleast.1 ?_⟩
    omega
  · rintro seconds ⟨hone, hopen⟩
    have := hleast.2 hopen
    omega

/-- What an allocation says about an account. -/
def AmountAllocation.Meets (holds : List Hold) (now : Nat) (account : String) (amounts : Nat → Prop) : AmountAllocation → Prop
  | .allocated amount _ => IsLeast {a | amounts a ∧ Available holds account a now} amount
  | .exhausted seconds => (∀ a, amounts a → ¬ Available holds account a now) ∧
      IsLeast {s | 1 ≤ s ∧ Opening holds account amounts (now + s * 1000)} seconds

/-- The loop has passed the offsets below `k`. -/
structure Tried (holds : List Hold) (now : Nat) (account : String) (requested k : Nat) (earliest : Option Nat) : Prop where
  within : requested + k ≤ maxPayableAmountCents + 1
  busy : ∀ a, requested < a → a < requested + k → ¬ Available holds account a now
  untried : earliest = none → k = 1
  earliest : ∀ e, earliest = some e → now < e ∧
    IsLeast {time | Opening holds account (fun a => requested < a ∧ a < requested + k) time} e

theorem Tried.exhausted {holds : List Hold} {now requested k : Nat} {earliest : Option Nat} {amounts : Nat → Prop}
    (h : Tried holds now account requested k earliest) (hsome : 1 < k)
    (hamounts : ∀ a, amounts a ↔ requested < a ∧ a < requested + k) :
    ∃ allocation, allocationExhausted earliest now db = .ok (allocation, db) ∧
      allocation.Meets holds now account amounts := by
  obtain rfl : amounts = fun a => requested < a ∧ a < requested + k := funext fun a => propext (hamounts a)
  cases earliest with
  | none =>
    have := h.untried rfl
    omega
  | some e =>
    obtain ⟨hlater, hleast⟩ := h.earliest e rfl
    refine ⟨.exhausted (max 1 ((e - now + 999) / 1000)), ?_, fun a ha => h.busy a ha.1 ha.2, ?_⟩
    · unfold allocationExhausted
      rw [bind_of_ok (orFail_ok.mpr ⟨rfl, rfl⟩), require_bind_met hlater]
      rfl
    · refine least_seconds (fun {time time'} hopen hle => ?_) hlater hleast
      obtain ⟨a, ha, havailable⟩ := hopen
      exact ⟨a, ha, havailable.mono hle⟩

theorem Tried.next {holds : List Hold} {now requested k time : Nat} {earliest : Option Nat}
    (h : Tried holds now account requested k earliest) (hwithin : requested + k ≤ maxPayableAmountCents)
    (hbusy : now < time) (htime : ∀ time', Available holds account (requested + k) time' ↔ time ≤ time') :
    Tried holds now account requested (k + 1) (some (minimumDefined earliest time)) where
  within := by omega
  busy a hlow hhigh := by
    by_cases heq : a = requested + k
    · rw [heq, htime]
      omega
    · exact h.busy a hlow (by omega)
  untried := nofun
  earliest e he := by
    obtain rfl := Option.some.inj he
    cases hearliest : earliest with
    | none =>
      have hone := h.untried hearliest
      refine ⟨hbusy, ⟨requested + k, by omega, (htime time).mpr le_rfl⟩, ?_⟩
      rintro time' ⟨a, ha, havailable⟩
      obtain rfl : a = requested + k := by omega
      exact (htime time').mp havailable
    | some e =>
      obtain ⟨hlater, ⟨a, ha, havailable⟩, hleast⟩ := h.earliest e hearliest
      refine ⟨lt_min hlater hbusy, ?_, ?_⟩
      · by_cases hle : e ≤ time
        · rw [show minimumDefined (some e) time = e from min_eq_left hle]
          exact ⟨a, ⟨ha.1, by omega⟩, havailable⟩
        · rw [show minimumDefined (some e) time = time from min_eq_right (by omega)]
          exact ⟨requested + k, by omega, (htime time).mpr le_rfl⟩
      · rintro time' ⟨a', ha', havailable'⟩
        by_cases heq : a' = requested + k
        · exact (min_le_right e time).trans ((htime time').mp (heq ▸ havailable'))
        · exact (min_le_left e time).trans (hleast ⟨a', ⟨ha'.1, by omega⟩, havailable'⟩)

/-- **The loop returns the smallest available amount**, or when the first one is available. -/
theorem AmountInv.allocateFrom {account : String} {requested maximum : Nat} (hrequested : requested < maxPayableAmountCents)
    (hmaximum : 1 ≤ maximum) : ∀ (n k : Nat) {db : OrderDb} {earliest : Option Nat}, AmountInv db → db.clock ≤ maxSafeInteger →
      1 ≤ k → k + n = maximum + 1 → Tried db.holds db.clock account requested k earliest →
      ∃ allocation db', Orders.allocateFrom account requested db.clock (List.range' k n) earliest db = .ok (allocation, db') ∧
        Expires db db' ∧ allocation.Meets db.holds db.clock account (Payable requested maximum)
  | 0, k, db, earliest, h, _, _, hend, htried => by
    obtain ⟨allocation, hx, hmeets⟩ : ∃ allocation, allocationExhausted earliest db.clock db = .ok (allocation, db) ∧
        allocation.Meets db.holds db.clock account (Payable requested maximum) := htried.exhausted (by omega) fun a => by
      have := htried.within
      unfold Payable
      omega
    exact ⟨allocation, db, hx, .refl h, hmeets⟩
  | n + 1, k, db, earliest, h, hclock, hk, hend, htried => by
    rw [List.range'_succ]
    unfold Orders.allocateFrom
    by_cases hover : maxPayableAmountCents < requested + k
    · rw [if_pos hover]
      have hwithin := htried.within
      obtain ⟨allocation, hx, hmeets⟩ : ∃ allocation, allocationExhausted earliest db.clock db = .ok (allocation, db) ∧
          allocation.Meets db.holds db.clock account (Payable requested maximum) := htried.exhausted (by omega) fun a => by
        unfold Payable
        omega
      exact ⟨allocation, db, hx, .refl h, hmeets⟩
    · rw [if_neg hover]
      obtain ⟨availability, m, hx, hexpires, htells⟩ := h.amountAvailability hclock account (requested + k)
      rw [bind_of_ok hx]
      cases availability with
      | free generation =>
        have havailable : Available m.holds account (requested + k) m.clock := htells
        rw [hexpires.holds, hexpires.clock] at havailable
        refine ⟨_, m, rfl, hexpires, ⟨⟨by omega, by omega, by omega⟩, havailable⟩, ?_⟩
        rintro a ⟨ha, hfree⟩
        by_contra hlt
        exact htried.busy a ha.1 (by omega) hfree
      | busyUntil time =>
        obtain ⟨hbusy, htime⟩ := htells
        rw [hexpires.clock] at hbusy
        rw [hexpires.holds] at htime
        have hnext := htried.next (by omega) hbusy htime
        rw [← hexpires.holds, ← hexpires.clock] at hnext
        obtain ⟨allocation, db', hrest, hexpires', hmeets⟩ := AmountInv.allocateFrom hrequested hmaximum n (k + 1) hexpires.inv
          (hexpires.clock ▸ hclock) (by omega) (by omega) hnext
        rw [hexpires.clock] at hrest
        rw [hexpires.holds, hexpires.clock] at hmeets
        exact ⟨allocation, db', hrest, hexpires.trans hexpires', hmeets⟩

theorem AmountInv.allocateAmountSlot (h : AmountInv db) (hclock : db.clock ≤ maxSafeInteger) (account : String)
    {requested maximum : Nat} (hrequested : requested < maxPayableAmountCents) (hmaximum : 1 ≤ maximum) :
    ∃ allocation db', Orders.allocateAmountSlot account requested maximum db.clock db = .ok (allocation, db') ∧
      Expires db db' ∧ allocation.Meets db.holds db.clock account (Payable requested maximum) := by
  refine AmountInv.allocateFrom hrequested hmaximum maximum 1 h hclock le_rfl (by omega) ?_
  exact ⟨by omega, fun a hlow hhigh => by omega, fun _ => rfl, nofun⟩

/-! ## The loop over the profiles -/

/-- What the selection of a profile says about the profiles. -/
def Selects (holds : List Hold) (now : Nat) (amounts : Nat → Prop) (profiles : List CollectionProfile) :
    Except Nat (CollectionProfile × Nat × Nat) → Prop
  | .ok (profile, amount, _) => ∃ before after, profiles = before ++ profile :: after ∧
      (∀ p ∈ before, ∀ a, amounts a → ¬ Available holds p.alipayAccountId a now) ∧
      IsLeast {a | amounts a ∧ Available holds profile.alipayAccountId a now} amount
  | .error seconds => (∀ p ∈ profiles, ∀ a, amounts a → ¬ Available holds p.alipayAccountId a now) ∧
      IsLeast {s | 1 ≤ s ∧ ∃ p ∈ profiles, Opening holds p.alipayAccountId amounts (now + s * 1000)} seconds

/-- The wait over one more profile. -/
theorem least_of_next {amounts : Nat → Prop} {holds : List Hold} {now seconds : Nat} {before : List CollectionProfile}
    {profile : CollectionProfile} {retryAfter : Option Nat} (hnone : retryAfter = none → before = [])
    (hleast : ∀ s, retryAfter = some s → IsLeast {s | 1 ≤ s ∧ ∃ p ∈ before,
      Opening holds p.alipayAccountId amounts (now + s * 1000)} s)
    (hseconds : IsLeast {s | 1 ≤ s ∧ Opening holds profile.alipayAccountId amounts (now + s * 1000)} seconds) :
    IsLeast {s | 1 ≤ s ∧ ∃ p ∈ before ++ [profile], Opening holds p.alipayAccountId amounts (now + s * 1000)}
      (minimumDefined retryAfter seconds) := by
  have hsplit : {s | 1 ≤ s ∧ ∃ p ∈ before ++ [profile], Opening holds p.alipayAccountId amounts (now + s * 1000)} =
      {s | 1 ≤ s ∧ ∃ p ∈ before, Opening holds p.alipayAccountId amounts (now + s * 1000)} ∪
        {s | 1 ≤ s ∧ Opening holds profile.alipayAccountId amounts (now + s * 1000)} := by
    ext s
    constructor
    · rintro ⟨hone, p, hp, hopen⟩
      rcases List.mem_append.mp hp with hp | hp
      · exact .inl ⟨hone, p, hp, hopen⟩
      · exact .inr ⟨hone, List.mem_singleton.mp hp ▸ hopen⟩
    · rintro (⟨hone, p, hp, hopen⟩ | ⟨hone, hopen⟩)
      · exact ⟨hone, p, List.mem_append_left _ hp, hopen⟩
      · exact ⟨hone, profile, by simp, hopen⟩
  rw [hsplit]
  cases hretry : retryAfter with
  | none =>
    obtain rfl := hnone hretry
    have hempty : {s | 1 ≤ s ∧ ∃ p ∈ ([] : List CollectionProfile),
        Opening holds p.alipayAccountId amounts (now + s * 1000)} = ∅ := by
      ext s
      simp
    rw [hempty, Set.empty_union]
    exact hseconds
  | some s => exact (hleast s hretry).union hseconds

/-- **The first profile with an available amount is selected**, or the shortest wait over all of them. -/
theorem AmountInv.selectFrom {requested maximum : Nat} (hrequested : requested < maxPayableAmountCents)
    (hmaximum : 1 ≤ maximum) : ∀ (profiles before : List CollectionProfile) {db : OrderDb} {retryAfter : Option Nat},
      AmountInv db → db.clock ≤ maxSafeInteger → before ++ profiles ≠ [] → (retryAfter = none → before = []) →
      (∀ p ∈ before, ∀ a, Payable requested maximum a → ¬ Available db.holds p.alipayAccountId a db.clock) →
      (∀ seconds, retryAfter = some seconds → IsLeast {s | 1 ≤ s ∧ ∃ p ∈ before,
        Opening db.holds p.alipayAccountId (Payable requested maximum) (db.clock + s * 1000)} seconds) →
      ∃ selected db', selectProfile requested maximum db.clock profiles retryAfter db = .ok (selected, db') ∧
        Expires db db' ∧ Selects db.holds db.clock (Payable requested maximum) (before ++ profiles) selected
  | [], before, db, retryAfter, h, _, hany, hnone, hbusy, hleast => by
    cases hretry : retryAfter with
    | none => exact absurd (by rw [hnone hretry]; rfl) hany
    | some seconds =>
      refine ⟨.error seconds, db, rfl, .refl h, ?_⟩
      rw [List.append_nil]
      exact ⟨hbusy, hleast seconds hretry⟩
  | profile :: profiles, before, db, retryAfter, h, hclock, hany, hnone, hbusy, hleast => by
    unfold selectProfile
    obtain ⟨allocation, m, hx, hexpires, hmeets⟩ :=
      h.allocateAmountSlot hclock profile.alipayAccountId hrequested hmaximum
    rw [bind_of_ok hx]
    cases allocation with
    | allocated amount generation =>
      exact ⟨_, m, rfl, hexpires, before, profiles, rfl, hbusy, hmeets⟩
    | exhausted seconds =>
      obtain ⟨hnever, hseconds⟩ := hmeets
      have hbusy' : ∀ p ∈ before ++ [profile], ∀ a, Payable requested maximum a →
          ¬ Available m.holds p.alipayAccountId a m.clock := by
        rw [hexpires.holds, hexpires.clock]
        intro p hp
        rcases List.mem_append.mp hp with hp | hp
        · exact hbusy p hp
        · exact List.mem_singleton.mp hp ▸ hnever
      have hleast' : ∀ s', some (minimumDefined retryAfter seconds) = some s' → IsLeast {s | 1 ≤ s ∧ ∃ p ∈ before ++ [profile],
          Opening m.holds p.alipayAccountId (Payable requested maximum) (m.clock + s * 1000)} s' := by
        rw [hexpires.holds, hexpires.clock]
        rintro s' hs'
        obtain rfl := Option.some.inj hs'
        exact least_of_next hnone hleast hseconds
      obtain ⟨selected, db', hrest, hexpires', hselects⟩ := AmountInv.selectFrom hrequested hmaximum profiles
        (before ++ [profile]) hexpires.inv (hexpires.clock ▸ hclock) (by simp)
        (show some (minimumDefined retryAfter seconds) = none → before ++ [profile] = [] from (nomatch ·)) hbusy' hleast'
      rw [hexpires.clock] at hrest
      rw [hexpires.holds, hexpires.clock, List.append_assoc, List.singleton_append] at hselects
      exact ⟨selected, db', hrest, hexpires.trans hexpires', hselects⟩

end PerPay.Orders
