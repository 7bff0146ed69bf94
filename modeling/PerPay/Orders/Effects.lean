/-
  **What the statements of the order store can do** — the tables after a successful statement, in
  terms of the tables before it.

  Every later proof about the order store reads these lemmas instead of the definitions: the guards
  that were passed, the rows that were read, the tables that changed.  What an update of an order row
  never touches is the row as it was ISSUED; `Frozen` says that two rows are the same issued order,
  and that an order that has ended ends only once.
-/
import PerPay.Lib.Table
import PerPay.Orders.Store

namespace PerPay.Orders

open Txn Table

variable {pf : Platform} {db db' : OrderDb}

/-! ## Rows that stay what they are -/

/-- An order as it was issued: its row without the columns that an update may change. -/
def PaymentOrder.issued (o : PaymentOrder) : PaymentOrder :=
  { o with checkoutStatus := .OPEN, paymentStatus := .UNPAID, paymentBasis := .NONE,
           receivedAmountCents := none, closedAt := none, updatedAt := o.createdAt, version := 1 }

/-- What an update of an order never touches; once the order has ended, its end is fixed too. -/
structure Frozen (o o' : PaymentOrder) : Prop where
  issued : o'.issued = o.issued
  ending : o.closedAt ≠ none → o'.closedAt = o.closedAt ∧ o'.checkoutStatus = o.checkoutStatus

namespace Frozen

variable {o o' o'' : PaymentOrder}

theorem refl (o : PaymentOrder) : Frozen o o := ⟨rfl, fun _ => ⟨rfl, rfl⟩⟩

theorem trans (h : Frozen o o') (h' : Frozen o' o'') : Frozen o o'' where
  issued := h'.issued.trans h.issued
  ending hc := by
    obtain ⟨h1, h2⟩ := h.ending hc
    obtain ⟨h3, h4⟩ := h'.ending (by rw [h1]; exact hc)
    exact ⟨h3.trans h1, h4.trans h2⟩

/-- A column of the issued order is the same in both rows. -/
theorem column (h : Frozen o o') {κ : Type} (f : PaymentOrder → κ) : f o'.issued = f o.issued :=
  congrArg f h.issued

theorem orderId (h : Frozen o o') : o'.orderId = o.orderId :=
  h.column PaymentOrder.orderId

theorem account (h : Frozen o o') : o'.alipayAccountId = o.alipayAccountId :=
  h.column PaymentOrder.alipayAccountId

theorem amount (h : Frozen o o') : o'.payableAmountCents = o.payableAmountCents :=
  h.column PaymentOrder.payableAmountCents

theorem profile (h : Frozen o o') : o'.collectionProfileId = o.collectionProfileId :=
  h.column PaymentOrder.collectionProfileId

theorem start (h : Frozen o o') : o'.eligibleFrom = o.eligibleFrom :=
  h.column PaymentOrder.eligibleFrom

theorem cooldown (h : Frozen o o') : o'.amountReuseCooldownSeconds = o.amountReuseCooldownSeconds :=
  h.column PaymentOrder.amountReuseCooldownSeconds

theorem expiry (h : Frozen o o') : o'.expiresAt = o.expiresAt :=
  h.column PaymentOrder.expiresAt

/-- Ending an open checkout. -/
theorem ended (hopen : o.closedAt = none) (status : CheckoutStatus) (now : Nat) :
    Frozen o (o.ended status now) :=
  ⟨rfl, fun hc => absurd hopen hc⟩

end Frozen

/-! ## The clock -/

theorem toSafeInteger_ok {σ : Type} {value n : Nat} {label : String} {s s' : σ}
    (hx : (toSafeInteger value label : Tx σ Fault Nat) s = .ok (n, s')) :
    n = value ∧ value ≤ maxSafeInteger ∧ s = s' := by
  unfold toSafeInteger at hx
  rw [require_bind_ok, pure_ok] at hx
  obtain ⟨hsafe, rfl, rfl⟩ := hx
  exact ⟨rfl, by simpa [isSafeInteger] using hsafe, rfl⟩

theorem readPhysicalTime_ok {σ : Type} {r : ClockReading} {physical : Nat} {s s' : σ}
    (hx : (readPhysicalTime r : Tx σ Fault Nat) s = .ok (physical, s')) :
    r.physicalNow = physical ∧ physical ≤ maxSafeInteger ∧ s = s' := by
  unfold readPhysicalTime at hx
  rw [require_bind_ok, require_bind_ok, pure_ok] at hx
  obtain ⟨⟨h0, h1⟩, -, rfl, rfl⟩ := hx
  exact ⟨by omega, by omega, rfl⟩

/-- Reading the clock moves it to the later of the persisted and the physical time, and returns it. -/
theorem logicalNow_ok {r : ClockReading} {now : Nat} (hx : logicalNow r db = .ok (now, db')) :
    db.clock ≤ now ∧ now ≤ maxSafeInteger ∧ r.physicalNow ≤ now ∧ db' = { db with clock := now } := by
  unfold logicalNow at hx
  rw [bind_ok] at hx
  obtain ⟨physical, m, hphysical, hx⟩ := hx
  obtain ⟨hr, -, rfl⟩ := readPhysicalTime_ok hphysical
  simp only [readWith_bind_ok, require_bind_ok, update_bind_ok] at hx
  obtain ⟨-, hx⟩ := hx
  obtain ⟨rfl, hsafe, rfl⟩ := toSafeInteger_ok hx
  exact ⟨le_max_left _ _, hsafe, by rw [hr]; exact_mod_cast le_max_right _ _, rfl⟩

/-! ## Reading aggregates -/

theorem mapWebhookTarget_ok {order : PaymentOrder} {target t : Option StoredWebhookTarget}
    (hx : mapWebhookTarget pf order target db = .ok (t, db')) : db = db' := by
  cases target with
  | none =>
    cases hc : order.webhookTargetRequestFingerprint with
    | none =>
      simp only [mapWebhookTarget, hc, pure_ok] at hx
      exact hx.2
    | some commitment =>
      simp only [mapWebhookTarget, hc, fail_ok] at hx
  | some stored =>
    cases hc : order.webhookTargetRequestFingerprint with
    | none => simp only [mapWebhookTarget, hc, fail_ok] at hx
    | some commitment =>
      simp only [mapWebhookTarget, hc, orFail_bind_ok, require_bind_ok, pure_ok] at hx
      obtain ⟨prepared, -, -, -, rfl⟩ := hx
      rfl

/-- An aggregate is the order found, joined with its checkout and its profile. -/
theorem readAggregate_some {find : PaymentOrder → Bool} {a : Aggregate}
    (hx : readAggregate pf find db = .ok (some a, db')) :
    db = db' ∧ db.orders.find? find = some a.order ∧
      db.checkouts.find? (fun c => c.orderId = a.order.orderId) = some a.checkout ∧
      db.profile a.order.collectionProfileId = some a.collectionProfile := by
  unfold readAggregate at hx
  rw [readWith_bind_ok] at hx
  cases hf : db.orders.find? find with
  | none =>
    simp only [id, hf] at hx
    exact absurd (pure_ok.mp hx).1 (by simp)
  | some order =>
    simp only [id, hf] at hx
    cases hc : db.checkouts.find? fun c => c.orderId = order.orderId with
    | none =>
      simp only [hc] at hx
      exact absurd (pure_ok.mp hx).1 (by simp)
    | some checkout =>
      cases hp : db.profile order.collectionProfileId with
      | none =>
        simp only [hc, show db.configuration.profiles.find? _ = none from hp] at hx
        exact absurd (pure_ok.mp hx).1 (by simp)
      | some profile =>
        simp only [hc, show db.configuration.profiles.find? _ = some profile from hp] at hx
        obtain ⟨-, hx⟩ := require_bind_ok.mp hx
        obtain ⟨-, hx⟩ := require_bind_ok.mp hx
        obtain ⟨target, m, ht, hx⟩ := bind_ok.mp hx
        obtain rfl := mapWebhookTarget_ok ht
        obtain ⟨ha, rfl⟩ := pure_ok.mp hx
        obtain rfl := Option.some.inj ha
        exact ⟨rfl, rfl, hc, hp⟩

/-- No aggregate: there is no such order, or a join finds nothing. -/
theorem readAggregate_none {find : PaymentOrder → Bool}
    (hx : readAggregate pf find db = .ok (none, db')) :
    db = db' ∧ ∀ order, db.orders.find? find = some order →
      db.checkouts.find? (fun c => c.orderId = order.orderId) = none ∨
        db.profile order.collectionProfileId = none := by
  unfold readAggregate at hx
  rw [readWith_bind_ok] at hx
  cases hf : db.orders.find? find with
  | none =>
    simp only [id, hf] at hx
    exact ⟨(pure_ok.mp hx).2, fun order ho => by cases ho⟩
  | some order =>
    simp only [id, hf] at hx
    cases hc : db.checkouts.find? fun c => c.orderId = order.orderId with
    | none =>
      simp only [hc] at hx
      refine ⟨(pure_ok.mp hx).2, fun o ho => ?_⟩
      obtain rfl := Option.some.inj ho
      exact .inl hc
    | some checkout =>
      cases hp : db.profile order.collectionProfileId with
      | none =>
        simp only [hc, show db.configuration.profiles.find? _ = none from hp] at hx
        refine ⟨(pure_ok.mp hx).2, fun o ho => ?_⟩
        obtain rfl := Option.some.inj ho
        exact .inr hp
      | some profile =>
        simp only [hc, show db.configuration.profiles.find? _ = some profile from hp] at hx
        obtain ⟨-, hx⟩ := require_bind_ok.mp hx
        obtain ⟨-, hx⟩ := require_bind_ok.mp hx
        obtain ⟨target, m, ht, hx⟩ := bind_ok.mp hx
        exact absurd (pure_ok.mp hx).1 (by simp)

theorem withCheckoutToken_ok {a : Aggregate} {stored : StoredOrderAggregate}
    (hx : withCheckoutToken pf a db = .ok (stored, db')) : stored.aggregate = a ∧ db = db' := by
  unfold withCheckoutToken at hx
  simp only [readWith_bind_ok, orFail_bind_ok, require_bind_ok, pure_ok] at hx
  obtain ⟨key, -, -, rfl, rfl⟩ := hx
  exact ⟨rfl, rfl⟩

theorem withOptionalToken_ok {a : Aggregate} {stored : Option StoredOrderAggregate}
    (hx : withOptionalToken pf (some a) db = .ok (stored, db')) :
    (∃ s, stored = some s ∧ s.aggregate = a) ∧ db = db' := by
  unfold withOptionalToken at hx
  obtain ⟨s, m, hs, hx⟩ := bind_ok.mp hx
  obtain ⟨ha, rfl⟩ := withCheckoutToken_ok hs
  obtain ⟨rfl, rfl⟩ := pure_ok.mp hx
  exact ⟨⟨s, rfl, ha⟩, rfl⟩

/-! ## Events and ends -/

theorem insertOrderEvent_ok {event : OrderEvent} {u : Unit}
    (hx : insertOrderEvent event db = .ok (u, db')) :
    (∃ o ∈ db.orders, event.describes o) ∧
      (∀ e ∈ db.events, ¬ (e.orderId = event.orderId ∧ e.sequence = event.sequence)) ∧
      db' = { db with events := db.events ++ [event] } := by
  unfold insertOrderEvent at hx
  simp only [readWith_bind_ok, require_bind_ok, update_ok, id, List.any_eq_true, List.all_eq_true,
    Bool.not_eq_true', Bool.and_eq_false_imp, decide_eq_true_eq, decide_eq_false_iff_not] at hx
  obtain ⟨hdescribes, hfresh, rfl⟩ := hx
  exact ⟨hdescribes, fun e he h => hfresh e he h.1 h.2, rfl⟩

/-- What the statement that ends a checkout does: one open order gets its end, and its slot the
    same end from the release trigger. -/
theorem endCheckout_ok {orderId : Uuid} {guard : PaymentOrder → Bool} {status : CheckoutStatus}
    {now : Nat} {action : String} {u : Unit} {db' : OrderDb}
    (hx : endCheckout orderId guard status now action db = .ok (u, db')) :
    ∃ order ∈ db.orders, order.orderId = orderId ∧ order.checkoutStatus = .OPEN ∧ guard order ∧
      order.closedAt = none ∧ order.updatedAt ≤ now ∧ (order.ended status now).rowChecks ∧
      db' = { db with orders := putOrder (order.ended status now) db.orders,
                      slots := db.slots.map (releaseSlot orderId now status) } := by
  unfold endCheckout at hx
  simp only [readWith_bind_ok, orFail_bind_ok, require_bind_ok, update_ok, id] at hx
  obtain ⟨order, hfind, hupdated, hopen, hrow, -, -, rfl⟩ := hx
  have hsome := List.find?_some hfind
  simp only [Bool.and_eq_true, decide_eq_true_eq] at hsome
  exact ⟨order, List.mem_of_find?_eq_some hfind, hsome.1.1, hsome.1.2, hsome.2, hopen,
    hupdated, hrow, rfl⟩

theorem mem_putOrder {order o : PaymentOrder} {orders : List PaymentOrder} (h : o ∈ putOrder order orders) :
    o = order ∨ (o ∈ orders ∧ o.orderId ≠ order.orderId) := by
  unfold putOrder at h
  obtain ⟨x, hx, he⟩ := List.mem_map.mp h
  by_cases hid : x.orderId = order.orderId
  · rw [if_pos hid] at he
    exact .inl he.symm
  · rw [if_neg hid] at he
    exact .inr ⟨he ▸ hx, he ▸ hid⟩

/-- The event that goes with the end of a checkout. -/
def endEvent (order : PaymentOrder) (status : CheckoutStatus) (now : Nat) : OrderEvent :=
  if status = .EXPIRED then ⟨order.orderId, order.version + 1, .CHECKOUT_EXPIRED, now, .reason "ttl_elapsed"⟩
  else ⟨order.orderId, order.version + 1, .CHECKOUT_CLOSED, now, .reason "api_request"⟩

/-- The checkout of `order` ends at `now`: its row, its slot and one event. -/
structure CheckoutEnds (order : PaymentOrder) (status : CheckoutStatus) (now : Nat) (db db' : OrderDb) :
    Prop where
  mem : order ∈ db.orders
  isOpen : order.checkoutStatus = .OPEN
  notClosed : order.closedAt = none
  terminal : status ≠ .OPEN
  updated : order.updatedAt ≤ now
  rowChecks : (order.ended status now).rowChecks
  freshEvent : ∀ e ∈ db.events, ¬ (e.orderId = order.orderId ∧ e.sequence = order.version + 1)
  result : db' = { db with orders := putOrder (order.ended status now) db.orders,
                           slots := db.slots.map (releaseSlot order.orderId now status),
                           events := db.events ++ [endEvent order status now] }

/-- The two statements that end a checkout, one after the other. -/
theorem endCheckout_event_ok {orderId : Uuid} {guard : PaymentOrder → Bool} {status : CheckoutStatus}
    {sequence now : Nat} {type : OrderEventType} {action reason : String} {u : Unit}
    (hstatus : status ≠ .OPEN)
    (htype : ∀ order : PaymentOrder, order.orderId = orderId → order.version + 1 = sequence →
      endEvent order status now = ⟨orderId, sequence, type, now, .reason reason⟩)
    (hx : (do
      endCheckout orderId guard status now action
      insertOrderEvent ⟨orderId, sequence, type, now, .reason reason⟩) db = .ok (u, db')) :
    ∃ order, order.orderId = orderId ∧ guard order ∧ CheckoutEnds order status now db db' := by
  obtain ⟨_, m, hend, hevent⟩ := bind_ok.mp hx
  obtain ⟨order, hmem, rfl, hopen, hguard, hclosed, hupdated, hrow, rfl⟩ := endCheckout_ok hend
  obtain ⟨⟨o, ho, hdescribes⟩, hfresh, rfl⟩ := insertOrderEvent_ok hevent
  -- the event describes a row of this order, and there is only the one that was just written
  simp only [OrderEvent.describes, Bool.and_eq_true, decide_eq_true_eq] at hdescribes
  obtain ⟨⟨⟨hid, hversion⟩, -⟩, -⟩ := hdescribes
  have hsequence : order.version + 1 = sequence := by
    rcases mem_putOrder ho with rfl | ⟨-, hne⟩
    · exact hversion
    · exact absurd hid hne
  have hev := htype order rfl hsequence
  exact ⟨order, rfl, hguard, hmem, hopen, hclosed, hstatus, hupdated, hrow, hsequence ▸ hfresh, by rw [hev]⟩

/-- An expiry ends the checkout when it is due, and does nothing otherwise. -/
theorem expireOrder_ok {orderId : Uuid} {now : Nat} {u : Unit}
    (hx : expireOrder orderId now db = .ok (u, db')) :
    db' = db ∨ ∃ order, order.orderId = orderId ∧ order.expiresAt ≤ now ∧
      CheckoutEnds order .EXPIRED now db db' := by
  unfold expireOrder at hx
  rw [readWith_bind_ok] at hx
  cases hf : db.openOrder orderId with
  | none =>
    simp only [hf, pure_ok] at hx
    exact .inl hx.2.symm
  | some found =>
    simp only [hf] at hx
    by_cases hdue : now < found.expiresAt
    · simp only [if_pos hdue, pure_ok] at hx
      exact .inl hx.2.symm
    · rw [if_neg hdue] at hx
      obtain ⟨order, hid, hguard, hends⟩ := endCheckout_event_ok (by decide)
        (fun o ho hv => by rw [endEvent, if_pos rfl, ho, hv]) hx
      exact .inr ⟨order, hid, by simpa using hguard, hends⟩

/-- A close ends the checkout; when it is already due it expires. -/
theorem closeCheckout_ok {client : String} {orderId : Uuid} {found : PaymentOrder} {now : Nat} {u : Unit}
    (hx : closeCheckout client orderId found now db = .ok (u, db')) :
    db' = db ∨ ∃ order status, order.orderId = orderId ∧ CheckoutEnds order status now db db' := by
  unfold closeCheckout at hx
  by_cases hdue : found.expiresAt ≤ now
  · rw [if_pos hdue] at hx
    rcases expireOrder_ok hx with h | ⟨order, hid, -, hends⟩
    · exact .inl h
    · exact .inr ⟨order, _, hid, hends⟩
  · rw [if_neg hdue] at hx
    obtain ⟨order, hid, -, hends⟩ := endCheckout_event_ok (by decide)
      (fun o ho hv => by rw [endEvent, if_neg (by decide), ho, hv]) hx
    exact .inr ⟨order, _, hid, hends⟩

/-! ## The rows of a new order -/

/-- What a new order shares with no older one. -/
structure Fresh (order o : PaymentOrder) : Prop where
  orderId : o.orderId ≠ order.orderId
  merchantOrderNo : ¬ (o.apiClientId = order.apiClientId ∧ o.merchantOrderNo = order.merchantOrderNo)
  idempotencyKey : ¬ (o.apiClientId = order.apiClientId ∧
    o.idempotencyKeyDigest = order.idempotencyKeyDigest)

theorem insertPaymentOrder_ok {order : PaymentOrder} {u : Unit} {db' : OrderDb}
    (hx : insertPaymentOrder order db = .ok (u, db')) :
    order.rowChecks ∧ (db.profile order.collectionProfileId).isSome ∧ (∀ o ∈ db.orders, Fresh order o) ∧
      db' = { db with orders := db.orders ++ [order] } := by
  unfold insertPaymentOrder at hx
  simp only [readWith_bind_ok, require_bind_ok, update_ok, id, List.all_eq_true,
    Bool.and_eq_true, Bool.not_eq_true', Bool.and_eq_false_imp, decide_eq_true_eq,
    decide_eq_false_iff_not] at hx
  obtain ⟨hrow, hprofile, hall, rfl⟩ := hx
  refine ⟨hrow, hprofile, fun o ho => ?_, rfl⟩
  obtain ⟨⟨⟨hid, hno⟩, hkey⟩, -⟩ := hall o ho
  exact ⟨hid, fun h => hno h.1 h.2, fun h => hkey h.1 h.2⟩

theorem insertAmountSlot_ok {slot : AmountSlot} {u : Unit} {db' : OrderDb}
    (hx : insertAmountSlot slot db = .ok (u, db')) :
    slot.releasedAt = none ∧ (∃ o ∈ db.orders, slot.opensFor o) ∧
      slot.generation =
        ((db.latestSlot slot.alipayAccountId slot.payableAmountCents).map (·.generation + 1)).getD 1 ∧
      (∀ previous ∈ db.latestSlot slot.alipayAccountId slot.payableAmountCents,
        previous.releasedBy slot.occupiedFrom ∧ db.cooledDown previous slot.occupiedFrom) ∧
      db' = { db with slots := db.slots ++ [slot] } := by
  unfold insertAmountSlot at hx
  simp only [readWith_bind_ok, require_bind_ok, update_ok, id, List.any_eq_true] at hx
  obtain ⟨⟨hnone, -, hopen⟩, hgen, hrel, hcool, -, -, rfl⟩ := hx
  exact ⟨hnone, hopen, hgen, fun p hp => ⟨hrel p hp, hcool p hp⟩, rfl⟩

/-- The times of the keys after a creation at the time `now`: those of the keys before, and `now`. -/
def KeyTimes (now : Nat) (keys keys' : List CheckoutTokenKey) : Prop :=
  ∀ k' ∈ keys', (k'.activatedAt ≤ now ∨ ∃ k ∈ keys, k.activatedAt = k'.activatedAt) ∧
    ∀ t ∈ k'.retiredAt, t ≤ now ∨ ∃ k ∈ keys, k.retiredAt = some t

/-- A key is current, or the current key is retired and the next one takes over. -/
theorem readOrRotateActiveCheckoutTokenKey_ok {now rotation : Nat} {material : String}
    {key : CheckoutTokenKey}
    (hx : readOrRotateActiveCheckoutTokenKey now rotation material db = .ok (key, db')) :
    key ∈ db'.tokenKeys ∧ (∀ k ∈ db.tokenKeys, ∃ k' ∈ db'.tokenKeys,
        k'.keyVersion = k.keyVersion ∧ k'.keyMaterial = k.keyMaterial) ∧
      (UniqueOn (·.keyVersion) db.tokenKeys → UniqueOn (·.keyVersion) db'.tokenKeys) ∧
      KeyTimes now db.tokenKeys db'.tokenKeys ∧ db' = { db with tokenKeys := db'.tokenKeys } := by
  unfold readOrRotateActiveCheckoutTokenKey at hx
  simp only [readWith_bind_ok, orFail_bind_ok] at hx
  obtain ⟨current, hf, hx⟩ := hx
  have hmem := List.mem_of_find?_eq_some hf
  by_cases hnow : now < current.activatedAt + rotation
  · rw [if_pos hnow, pure_ok] at hx
    obtain ⟨rfl, rfl⟩ := hx
    exact ⟨hmem, fun k hk => ⟨k, hk, rfl, rfl⟩, id,
      fun k hk => ⟨.inr ⟨k, hk, rfl⟩, fun t ht => .inr ⟨k, hk, ht⟩⟩, rfl⟩
  · rw [if_neg hnow] at hx
    simp only [require_bind_ok, update_bind_ok, pure_ok, List.all_eq_true, Bool.and_eq_true,
      decide_eq_true_eq] at hx
    obtain ⟨-, hlatest, rfl, rfl⟩ := hx
    refine ⟨List.mem_append_right _ (List.mem_singleton.mpr rfl), fun k hk => ?_, fun hu => ?_, fun k' hk' => ?_, rfl⟩
    · refine ⟨_, List.mem_append_left _ (List.mem_map_of_mem hk), ?_, ?_⟩
      · split <;> rfl
      · split <;> rfl
    · have hkept : ∀ k : CheckoutTokenKey,
          (if k.keyVersion = current.keyVersion then { k with retiredAt := some now } else k).keyVersion =
            k.keyVersion := fun k => by split <;> rfl
      refine UniqueOn.append ?_ ?_
      · show ((db.tokenKeys.map _).map _).Nodup
        rw [List.map_map]
        exact (List.map_congr_left fun k _ => hkept k).symm ▸ hu
      · intro k hk
        obtain ⟨x, hx, rfl⟩ := List.mem_map.mp hk
        have hle := (hlatest x hx).1.1
        show (if x.keyVersion = current.keyVersion then _ else x).keyVersion ≠ current.keyVersion + 1
        rw [hkept]
        omega
    · rcases List.mem_append.mp hk' with hk' | hk'
      · obtain ⟨k, hk, rfl⟩ := List.mem_map.mp hk'
        by_cases hv : k.keyVersion = current.keyVersion
        · rw [if_pos hv]
          exact ⟨.inr ⟨k, hk, rfl⟩, fun t ht => .inl (Option.some.inj ht ▸ le_refl now)⟩
        · rw [if_neg hv]
          exact ⟨.inr ⟨k, hk, rfl⟩, fun t ht => .inr ⟨k, hk, ht⟩⟩
      · rw [List.mem_singleton.mp hk']
        exact ⟨.inl (le_refl now), nofun⟩

theorem insertCheckoutSession_ok {session : CheckoutSession} {u : Unit}
    (hx : insertCheckoutSession session db = .ok (u, db')) :
    (∃ k ∈ db.tokenKeys, k.keyVersion = session.tokenKeyVersion) ∧
      (∀ c ∈ db.checkouts, c.orderId ≠ session.orderId ∧ c.tokenDigest ≠ session.tokenDigest) ∧
      db' = { db with checkouts := db.checkouts ++ [session] } := by
  unfold insertCheckoutSession at hx
  simp only [readWith_bind_ok, require_bind_ok, update_ok, id, List.all_eq_true, List.any_eq_true,
    Bool.and_eq_true, decide_eq_true_eq] at hx
  obtain ⟨-, ⟨-, hkey⟩, hfresh, rfl⟩ := hx
  exact ⟨hkey, fun c hc => ⟨(hfresh c hc).1.2, (hfresh c hc).2⟩, rfl⟩

/-- The EasyPay row of a new order, when it has one. -/
def newEpayOrder (input : CreateStoredOrderInput) (orderId : Uuid) (now : Nat) : Option EpayOrder :=
  input.epay.map fun epay =>
    ⟨orderId, epay.siteId, epay.protocol, epay.param, epay.requestFingerprint, epay.returnUrl, now⟩

theorem insertEpayOrder_ok {input : CreateStoredOrderInput} {orderId : Uuid} {now : Nat} {u : Unit}
    (hx : insertEpayOrder input orderId now db = .ok (u, db')) :
    db' = { db with epayOrders := db.epayOrders ++ (newEpayOrder input orderId now).toList } := by
  unfold newEpayOrder
  cases he : input.epay with
  | none =>
    simp only [insertEpayOrder, he, pure_ok] at hx
    simp [hx.2]
  | some epay =>
    simp only [insertEpayOrder, he, update_ok] at hx
    exact hx.symm

/-- The notification target of a new order, when it has one. -/
def newWebhookTarget (input : CreateStoredOrderInput) (targetId orderId : Uuid) (now : Nat) :
    Option StoredWebhookTarget :=
  input.webhookTarget.map fun prepared => ⟨targetId, orderId, input.apiClientId, prepared, now⟩

theorem insertWebhookTarget_ok {input : CreateStoredOrderInput} {targetId orderId : Uuid} {now : Nat}
    {u : Unit} (hx : insertWebhookTarget input targetId orderId now db = .ok (u, db')) :
    db' = { db with webhookTargets :=
      db.webhookTargets ++ (newWebhookTarget input targetId orderId now).toList } := by
  unfold newWebhookTarget
  cases he : input.webhookTarget with
  | none =>
    simp only [insertWebhookTarget, he, pure_ok] at hx
    simp [hx.2]
  | some prepared =>
    simp only [insertWebhookTarget, he, update_ok] at hx
    exact hx.symm

/-- The checkout session of a new order, under the key in force. -/
def newCheckout (pf : Platform) (input : CreateStoredOrderInput) (rnd : CreateRandomness)
    (key : CheckoutTokenKey) : CheckoutSession :=
  ⟨rnd.checkoutId, rnd.orderId, digestCheckoutToken pf (deriveCheckoutToken pf key.keyMaterial rnd.checkoutId),
    key.keyVersion, input.checkoutTerminalObservationMilliseconds⟩

/-- The first event of a new order. -/
def createdEvent (input : CreateStoredOrderInput) (rnd : CreateRandomness) (amount generation now : Nat) :
    OrderEvent :=
  ⟨rnd.orderId, 1, .CREATED, now, .created (amount - input.request.amountCents) generation⟩

/-- One new order: what was checked before its rows were written, and the tables with them. -/
structure OrderInserted (pf : Platform) (input : CreateStoredOrderInput) (rnd : CreateRandomness)
    (profile : CollectionProfile) (amount generation cooldown now : Nat) (key : CheckoutTokenKey)
    (db db' : OrderDb) : Prop where
  rowChecks : (newOrder pf input rnd profile amount cooldown now).rowChecks
  hasProfile : (db.profile profile.profileId).isSome
  fresh : ∀ o ∈ db.orders, Fresh (newOrder pf input rnd profile amount cooldown now) o
  freshCheckout : ∀ c ∈ db.checkouts, c.orderId ≠ rnd.orderId ∧
    c.tokenDigest ≠ (newCheckout pf input rnd key).tokenDigest
  freshEvent : ∀ e ∈ db.events, ¬ (e.orderId = rnd.orderId ∧ e.sequence = 1)
  keyMem : key ∈ db'.tokenKeys
  keysKept : ∀ k ∈ db.tokenKeys, ∃ k' ∈ db'.tokenKeys,
    k'.keyVersion = k.keyVersion ∧ k'.keyMaterial = k.keyMaterial
  keyVersions : UniqueOn (·.keyVersion) db.tokenKeys → UniqueOn (·.keyVersion) db'.tokenKeys
  keyTimes : KeyTimes now db.tokenKeys db'.tokenKeys
  clock : db'.clock = db.clock
  configuration : db'.configuration = db.configuration
  orders : db'.orders = db.orders ++ [newOrder pf input rnd profile amount cooldown now]
  checkouts : db'.checkouts = db.checkouts ++ [newCheckout pf input rnd key]
  slots : db'.slots = db.slots ++ [⟨rnd.slotId, rnd.orderId, profile.alipayAccountId, profile.profileId,
    amount, generation, now, none, none⟩]
  events : db'.events = db.events ++ [createdEvent input rnd amount generation now]
  epayOrders : db'.epayOrders = db.epayOrders ++ (newEpayOrder input rnd.orderId now).toList
  webhookTargets : db'.webhookTargets =
    db.webhookTargets ++ (newWebhookTarget input rnd.targetId rnd.orderId now).toList

theorem insertOrderRows_ok {input : CreateStoredOrderInput} {rnd : CreateRandomness}
    {profile : CollectionProfile} {amount generation cooldown now : Nat} {result : CreateStoredOrderResult}
    (hx : insertOrderRows pf input rnd profile amount generation cooldown now db = .ok (result, db')) :
    ∃ key, OrderInserted pf input rnd profile amount generation cooldown now key db db' ∧
      ∃ a, result = .created ⟨a, deriveCheckoutToken pf key.keyMaterial rnd.checkoutId⟩ ∧
        a.order = newOrder pf input rnd profile amount cooldown now ∧
        a.checkout = newCheckout pf input rnd key := by
  unfold insertOrderRows at hx
  obtain ⟨key, m1, hkey, hx⟩ := bind_ok.mp hx
  obtain ⟨hkeyMem, hkeysKept, hversions, hkeyTimes, hm1⟩ := readOrRotateActiveCheckoutTokenKey_ok hkey
  obtain ⟨_, m2, hclient, hx⟩ := bind_ok.mp hx
  obtain rfl := update_ok.mp hclient
  obtain ⟨_, m3, horder, hx⟩ := bind_ok.mp hx
  obtain ⟨hrow, hprofile, hfresh, rfl⟩ := insertPaymentOrder_ok horder
  obtain ⟨_, m4, hepay, hx⟩ := bind_ok.mp hx
  obtain rfl := insertEpayOrder_ok hepay
  obtain ⟨_, m5, htarget, hx⟩ := bind_ok.mp hx
  obtain rfl := insertWebhookTarget_ok htarget
  obtain ⟨_, m6, hcheckout, hx⟩ := bind_ok.mp hx
  obtain ⟨-, hfreshCheckout, rfl⟩ := insertCheckoutSession_ok hcheckout
  obtain ⟨_, m7, hslot, hx⟩ := bind_ok.mp hx
  obtain ⟨-, -, -, -, rfl⟩ := insertAmountSlot_ok hslot
  obtain ⟨_, m8, hevent, hx⟩ := bind_ok.mp hx
  obtain ⟨-, hfreshEvent, rfl⟩ := insertOrderEvent_ok hevent
  obtain ⟨inserted, m9, hread, hx⟩ := bind_ok.mp hx
  obtain ⟨a, rfl, hx⟩ := orFail_bind_ok.mp hx
  obtain ⟨rfl, horderRead, hcheckoutRead, -⟩ := readAggregate_some hread
  obtain ⟨hresult, rfl⟩ := pure_ok.mp hx
  have ho : m1.orders = db.orders := by rw [hm1]
  have hc : m1.checkouts = db.checkouts := by rw [hm1]
  have hs : m1.slots = db.slots := by rw [hm1]
  have he : m1.events = db.events := by rw [hm1]
  have hp : m1.epayOrders = db.epayOrders := by rw [hm1]
  have hw : m1.webhookTargets = db.webhookTargets := by rw [hm1]
  have hk : m1.clock = db.clock := by rw [hm1]
  have hg : m1.configuration = db.configuration := by rw [hm1]
  have haOrder : a.order = newOrder pf input rnd profile amount cooldown now := by
    have hfound := List.find?_some horderRead
    simp only [Bool.and_eq_true, decide_eq_true_eq] at hfound
    rcases List.mem_append.mp (List.mem_of_find?_eq_some horderRead) with hold | hnew
    · exact absurd hfound.2 (hfresh _ hold).orderId
    · exact List.mem_singleton.mp hnew
  have haCheckout : a.checkout = newCheckout pf input rnd key := by
    have hfound := List.find?_some hcheckoutRead
    simp only [decide_eq_true_eq, haOrder] at hfound
    rcases List.mem_append.mp (List.mem_of_find?_eq_some hcheckoutRead) with hold | hnew
    · exact absurd hfound (hfreshCheckout _ hold).1
    · exact List.mem_singleton.mp hnew
  refine ⟨key, ⟨hrow, ?_, ?_, ?_, ?_, hkeyMem, hkeysKept, hversions, hkeyTimes, hk, hg, ?_, ?_, ?_, ?_, ?_, ?_⟩,
    a, hresult.symm, haOrder, haCheckout⟩
  · show (db.configuration.profiles.find? _).isSome
    rw [← hg]
    exact hprofile
  · rw [← ho]; exact hfresh
  · rw [← hc]; exact hfreshCheckout
  · rw [← he]; exact hfreshEvent
  · exact congrArg (· ++ [newOrder pf input rnd profile amount cooldown now]) ho
  · exact congrArg (· ++ [newCheckout pf input rnd key]) hc
  · exact congrArg (· ++ [_]) hs
  · exact congrArg (· ++ [createdEvent input rnd amount generation now]) he
  · exact congrArg (· ++ (newEpayOrder input rnd.orderId now).toList) hp
  · exact congrArg (· ++ (newWebhookTarget input rnd.targetId rnd.orderId now).toList) hw

end PerPay.Orders
