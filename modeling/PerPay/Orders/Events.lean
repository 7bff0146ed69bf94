/-
  **Every version has its event** — the events of an order number its versions.

  The order store and the reconciliation store each write the row of an order and an event, in two
  statements.  `Advances` is what they have in common: one row moves on by one version, and one event
  says so.  From that the events of an order carry the numbers from 1 to its version, in the order of
  their times; and every time in the order tables is at most the persisted clock.
-/
import PerPay.Orders.Evolution

namespace PerPay.Orders

open Txn Table

variable {pf : Platform} {db db' : OrderDb}

/-! ## Versions and events -/

/-- The events of an order, as they were appended. -/
def OrderDb.eventsOf (db : OrderDb) (orderId : Uuid) : List OrderEvent :=
  db.events.filter fun e => e.orderId = orderId

/-- One event for each version, numbered by it, in the order of their times. -/
structure VersionedBy (o : PaymentOrder) (events : List OrderEvent) : Prop where
  sequences : events.map (·.sequence) = List.range' 1 o.version
  times : (events.map (·.occurredAt)).Pairwise (· ≤ ·)
  latest : ∀ e ∈ events, e.occurredAt ≤ o.updatedAt

structure EventInv (db : OrderDb) : Prop where
  versioned : ∀ o ∈ db.orders, VersionedBy o (db.eventsOf o.orderId)
  owned : ∀ e ∈ db.events, ∃ o ∈ db.orders, o.orderId = e.orderId

theorem EventInv.empty (h : OrderDb.Empty db) : EventInv db where
  versioned := by rw [h.orders]; simp
  owned := by rw [h.events]; simp

theorem EventInv.framed (h : EventInv db) (ho : db'.orders = db.orders) (he : db'.events = db.events) :
    EventInv db' where
  versioned := by
    unfold OrderDb.eventsOf
    rw [ho, he]
    exact h.versioned
  owned := by rw [ho, he]; exact h.owned

theorem VersionedBy.append {o o' : PaymentOrder} {events : List OrderEvent} {event : OrderEvent}
    (h : VersionedBy o events) (hversion : o'.version = o.version + 1) (hupdated : o.updatedAt ≤ o'.updatedAt)
    (hsequence : event.sequence = o'.version) (htime : event.occurredAt = o'.updatedAt) :
    VersionedBy o' (events ++ [event]) where
  sequences := by
    rw [List.map_append, h.sequences, hversion, List.range'_1_concat, List.map_singleton, hsequence, hversion,
      Nat.add_comm 1]
  times := by
    rw [List.map_append, List.map_singleton, List.pairwise_append]
    refine ⟨h.times, List.pairwise_singleton _ _, ?_⟩
    intro t ht t' ht'
    obtain ⟨e, he, rfl⟩ := List.mem_map.mp ht
    rw [List.mem_singleton.mp ht', htime]
    exact (h.latest e he).trans hupdated
  latest e he := by
    rcases List.mem_append.mp he with he | he
    · exact (h.latest e he).trans hupdated
    · rw [List.mem_singleton.mp he, htime]

/-- One order moves on by one version, and one event says so. -/
structure Advances (order order' : PaymentOrder) (event : OrderEvent) (db db' : OrderDb) : Prop where
  mem : order ∈ db.orders
  orderId : order'.orderId = order.orderId
  version : order'.version = order.version + 1
  updated : order.updatedAt ≤ order'.updatedAt
  names : event.orderId = order.orderId
  sequence : event.sequence = order'.version
  time : event.occurredAt = order'.updatedAt
  orders : db'.orders = putOrder order' db.orders
  events : db'.events = db.events ++ [event]

theorem mem_putOrder_kept (order : PaymentOrder) {x : PaymentOrder} {orders : List PaymentOrder} (hx : x ∈ orders) :
    ∃ x' ∈ putOrder order orders, x'.orderId = x.orderId := by
  refine ⟨_, List.mem_map_of_mem hx, ?_⟩
  by_cases hid : x.orderId = order.orderId
  · rw [if_pos hid, hid]
  · rw [if_neg hid]

theorem mem_putOrder_self {order order' : PaymentOrder} {orders : List PaymentOrder} (hmem : order ∈ orders)
    (hid : order'.orderId = order.orderId) : order' ∈ putOrder order' orders :=
  List.mem_map.mpr ⟨order, hmem, if_pos hid.symm⟩

section advance
variable {order order' : PaymentOrder} {event : OrderEvent} (ha : Advances order order' event db db')
include ha

theorem Advances.eventsOf_self : db'.eventsOf order.orderId = db.eventsOf order.orderId ++ [event] := by
  unfold OrderDb.eventsOf
  rw [ha.events]
  exact filter_append_in (r := event) (decide_eq_true ha.names) _

theorem Advances.eventsOf_other {orderId : Uuid} (hne : orderId ≠ order.orderId) :
    db'.eventsOf orderId = db.eventsOf orderId := by
  unfold OrderDb.eventsOf
  rw [ha.events]
  exact filter_append_out (r := event) (decide_eq_false fun he => hne (he.symm.trans ha.names)) _

theorem EventInv.advanced (h : EventInv db) : EventInv db' where
  versioned o ho := by
    rw [ha.orders] at ho
    rcases mem_putOrder ho with rfl | ⟨ho, hne⟩
    · rw [ha.orderId, ha.eventsOf_self]
      exact (h.versioned order ha.mem).append ha.version ha.updated ha.sequence ha.time
    · rw [ha.eventsOf_other (ha.orderId ▸ hne)]
      exact h.versioned o ho
  owned e he := by
    rw [ha.orders]
    have hfound : ∃ o ∈ db.orders, o.orderId = e.orderId := by
      rw [ha.events] at he
      rcases List.mem_append.mp he with he | he
      · exact h.owned e he
      · exact ⟨order, ha.mem, by rw [List.mem_singleton.mp he, ha.names]⟩
    obtain ⟨o, ho, hid⟩ := hfound
    obtain ⟨o', ho', hid'⟩ := mem_putOrder_kept order' ho
    exact ⟨o', ho', hid'.trans hid⟩

end advance

/-- A checkout that ends advances its order. -/
theorem CheckoutEnds.advances {order : PaymentOrder} {status : CheckoutStatus} {now : Nat}
    (h : CheckoutEnds order status now db db') :
    Advances order (order.ended status now) (endEvent order status now) db db' := by
  refine ⟨h.mem, rfl, rfl, h.updated, ?_, ?_, ?_, by rw [h.result], by rw [h.result]⟩ <;>
    (unfold endEvent; split <;> rfl)

section insertion
variable {input : CreateStoredOrderInput} {rnd : CreateRandomness} {profile : CollectionProfile}
  {amount generation cooldown now : Nat} {key : CheckoutTokenKey}
  (hrows : OrderInserted pf input rnd profile amount generation cooldown now key db db')
include hrows

theorem OrderInserted.eventsOf_old {o : PaymentOrder} (ho : o ∈ db.orders) :
    db'.eventsOf o.orderId = db.eventsOf o.orderId := by
  unfold OrderDb.eventsOf
  rw [hrows.events]
  have hne : ¬ rnd.orderId = o.orderId := fun he => (hrows.fresh o ho).orderId he.symm
  exact filter_append_out (r := createdEvent input rnd amount generation now) (decide_eq_false hne) _

theorem OrderInserted.eventsOf_new (h : EventInv db) :
    db'.eventsOf rnd.orderId = [createdEvent input rnd amount generation now] := by
  have hnone : db.events.filter (fun e => e.orderId = rnd.orderId) = [] := by
    refine List.filter_eq_nil_iff.mpr fun e he hid => ?_
    obtain ⟨x, hx, hxid⟩ := h.owned e he
    exact (hrows.fresh x hx).orderId (hxid.trans (of_decide_eq_true hid))
  unfold OrderDb.eventsOf
  rw [hrows.events, filter_append_in (r := createdEvent input rnd amount generation now) (decide_eq_true rfl), hnone]
  rfl

/-- A new order has its first version, and its first event. -/
theorem EventInv.inserted (h : EventInv db) : EventInv db' where
  versioned o ho := by
    rw [hrows.orders] at ho
    rcases List.mem_append.mp ho with ho | ho
    · rw [hrows.eventsOf_old ho]
      exact h.versioned o ho
    · rw [List.mem_singleton.mp ho]
      show VersionedBy _ (db'.eventsOf rnd.orderId)
      rw [hrows.eventsOf_new h]
      refine ⟨rfl, List.pairwise_singleton _ _, fun e he => ?_⟩
      rw [List.mem_singleton.mp he]
      exact le_refl now
  owned e he := by
    rw [hrows.orders]
    rw [hrows.events] at he
    rcases List.mem_append.mp he with he | he
    · obtain ⟨o, ho, hid⟩ := h.owned e he
      exact ⟨o, List.mem_append_left _ ho, hid⟩
    · exact ⟨_, List.mem_append_right _ (List.mem_singleton.mpr rfl), by rw [List.mem_singleton.mp he]; rfl⟩

end insertion

theorem EventInv.step (h : EventInv db) (hs : OrderStep pf db db') : EventInv db' := by
  cases hs with
  | clock now hle hsafe => exact h.framed rfl rfl
  | ends order status hends => exact h.advanced hends.advances
  | inserted input rnd profile amount generation cooldown key hrows => exact h.inserted hrows
  | configured configuration hext => exact h.framed rfl rfl

/-! ## Times and the clock -/

/-- Every time that the operations write in the order tables is at most `now`; an expiry is a deadline
    and not such a time. -/
structure OrdersStamped (now : Nat) (db : OrderDb) : Prop where
  orders : ∀ o ∈ db.orders, o.createdAt ≤ now ∧ o.eligibleFrom ≤ now ∧ o.updatedAt ≤ now ∧ ∀ t ∈ o.closedAt, t ≤ now
  events : ∀ e ∈ db.events, e.occurredAt ≤ now
  slots : ∀ s ∈ db.slots, s.occupiedFrom ≤ now ∧ ∀ t ∈ s.releasedAt, t ≤ now
  webhookTargets : ∀ t ∈ db.webhookTargets, t.createdAt ≤ now
  epayOrders : ∀ e ∈ db.epayOrders, e.createdAt ≤ now

theorem OrdersStamped.empty {now : Nat} (h : OrderDb.Empty db) : OrdersStamped now db where
  orders := by rw [h.orders]; simp
  events := by rw [h.events]; simp
  slots := by rw [h.slots]; simp
  webhookTargets := by rw [h.webhookTargets]; simp
  epayOrders := by rw [h.epayOrders]; simp

theorem OrdersStamped.mono {now now' : Nat} (h : OrdersStamped now db) (hle : now ≤ now') : OrdersStamped now' db where
  orders o ho := by
    obtain ⟨h1, h2, h3, h4⟩ := h.orders o ho
    exact ⟨h1.trans hle, h2.trans hle, h3.trans hle, fun t ht => (h4 t ht).trans hle⟩
  events e he := (h.events e he).trans hle
  slots s hs := ⟨(h.slots s hs).1.trans hle, fun t ht => ((h.slots s hs).2 t ht).trans hle⟩
  webhookTargets t ht := (h.webhookTargets t ht).trans hle
  epayOrders e he := (h.epayOrders e he).trans hle

theorem OrdersStamped.ends {order : PaymentOrder} {status : CheckoutStatus} {now : Nat} (h : OrdersStamped now db)
    (hends : CheckoutEnds order status now db db') : OrdersStamped now db' := by
  rw [hends.result]
  refine ⟨?_, ?_, ?_, h.webhookTargets, h.epayOrders⟩
  · intro o ho
    rcases mem_putOrder ho with rfl | ⟨ho, -⟩
    · obtain ⟨h1, h2, -, -⟩ := h.orders order hends.mem
      exact ⟨h1, h2, le_refl now, fun t ht => Option.some.inj ht ▸ le_refl now⟩
    · exact h.orders o ho
  · intro e he
    rcases List.mem_append.mp he with he | he
    · exact h.events e he
    · rw [List.mem_singleton.mp he]
      unfold endEvent
      split <;> exact le_refl now
  · intro s hs
    obtain ⟨s0, h0, rfl⟩ := List.mem_map.mp hs
    unfold releaseSlot
    split
    · exact ⟨(h.slots s0 h0).1, fun t ht => Option.some.inj ht ▸ le_refl now⟩
    · exact h.slots s0 h0

theorem OrdersStamped.inserted {input : CreateStoredOrderInput} {rnd : CreateRandomness} {profile : CollectionProfile}
    {amount generation cooldown now : Nat} {key : CheckoutTokenKey} (h : OrdersStamped now db)
    (hrows : OrderInserted pf input rnd profile amount generation cooldown now key db db') : OrdersStamped now db' where
  orders o ho := by
    rw [hrows.orders] at ho
    rcases List.mem_append.mp ho with ho | ho
    · exact h.orders o ho
    · rw [List.mem_singleton.mp ho]
      exact ⟨le_refl now, le_refl now, le_refl now, nofun⟩
  events e he := by
    rw [hrows.events] at he
    rcases List.mem_append.mp he with he | he
    · exact h.events e he
    · rw [List.mem_singleton.mp he]
      exact le_refl now
  slots s hs := by
    rw [hrows.slots] at hs
    rcases List.mem_append.mp hs with hs | hs
    · exact h.slots s hs
    · rw [List.mem_singleton.mp hs]
      exact ⟨le_refl now, nofun⟩
  webhookTargets t ht := by
    rw [hrows.webhookTargets] at ht
    rcases List.mem_append.mp ht with ht | ht
    · exact h.webhookTargets t ht
    · obtain ⟨prepared, -, rfl⟩ := Option.map_eq_some_iff.mp (Option.mem_toList.mp ht)
      exact le_refl now
  epayOrders e he := by
    rw [hrows.epayOrders] at he
    rcases List.mem_append.mp he with he | he
    · exact h.epayOrders e he
    · obtain ⟨epay, -, rfl⟩ := Option.map_eq_some_iff.mp (Option.mem_toList.mp he)
      exact le_refl now

theorem OrdersStamped.step (h : OrdersStamped db.clock db) (hs : OrderStep pf db db') :
    OrdersStamped db'.clock db' := by
  cases hs with
  | clock now hle hsafe =>
    have hlater := h.mono hle
    exact ⟨hlater.orders, hlater.events, hlater.slots, hlater.webhookTargets, hlater.epayOrders⟩
  | ends order status hends =>
    have hclock : db'.clock = db.clock := by rw [hends.result]
    rw [hclock]
    exact h.ends hends
  | inserted input rnd profile amount generation cooldown key hrows =>
    rw [hrows.clock]
    exact h.inserted hrows
  | configured configuration hext => exact ⟨h.orders, h.events, h.slots, h.webhookTargets, h.epayOrders⟩

theorem OrderStep.clock_le (hs : OrderStep pf db db') : db.clock ≤ db'.clock := by
  cases hs with
  | clock now hle hsafe => exact hle
  | ends order status hends => rw [hends.result]
  | inserted input rnd profile amount generation cooldown key hrows => exact hrows.clock.ge
  | configured configuration hext => exact le_refl _

/-- A key gets its times from the clock, or has the times of a key before. -/
theorem OrderStep.keyTimes (hs : OrderStep pf db db') : KeyTimes db'.clock db.tokenKeys db'.tokenKeys := by
  have hsame : ∀ now, KeyTimes now db.tokenKeys db.tokenKeys :=
    fun now k hk => ⟨.inr ⟨k, hk, rfl⟩, fun t ht => .inr ⟨k, hk, ht⟩⟩
  cases hs with
  | clock now hle hsafe => exact hsame _
  | ends order status hends => rw [hends.result]; exact hsame _
  | inserted input rnd profile amount generation cooldown key hrows =>
    rw [hrows.clock]
    exact hrows.keyTimes
  | configured configuration hext => exact hsame _

theorem KeyTimes.trans {now now' : Nat} {keys keys' keys'' : List CheckoutTokenKey} (h : KeyTimes now keys keys')
    (h' : KeyTimes now' keys' keys'') (hle : now ≤ now') : KeyTimes now' keys keys'' := by
  intro k'' hk''
  obtain ⟨hactivated, hretired⟩ := h' k'' hk''
  constructor
  · rcases hactivated with hle' | ⟨k', hk', hsame⟩
    · exact .inl hle'
    · rcases (h k' hk').1 with hle' | ⟨k, hk, hsame'⟩
      · exact .inl (hsame ▸ hle'.trans hle)
      · exact .inr ⟨k, hk, hsame'.trans hsame⟩
  · intro t ht
    rcases hretired t ht with hle' | ⟨k', hk', hsame⟩
    · exact .inl hle'
    · rcases (h k' hk').2 t hsame with hle' | hkept
      · exact .inl (hle'.trans hle)
      · exact .inr hkept

end PerPay.Orders
