/-
  **An idempotency key makes one order** (`createOrder` of `database/order-store.ts`).

  A client that sends a creation again, because it has seen no answer, sends the same key.  The call reads the order of the
  key before anything else is decided; that order may have ended in the meantime, and it may expire within the call itself.

  1. **What the call keeps** (`HasKey`): the order of the key is there, the rows can be joined, and there are no orders but
     those there were.
  2. **The read** (`HasKey.read`): it finds that order, for no other has the key.
  3. **The call** (`createOrder_hasKey`): it is answered by that order, or by a conflict with it.
-/
import PerPay.Orders.Creation

namespace PerPay.Orders

open Txn Table

variable {pf : Platform} {db db' : OrderDb} {input : CreateStoredOrderInput} {first : Uuid} {ids : List Uuid}

/-- The order of a key, among the orders there are. -/
structure HasKey (input : CreateStoredOrderInput) (first : Uuid) (ids : List Uuid) (db : OrderDb) : Prop where
  keys : KeyInv db
  order : ∃ o ∈ db.orders, o.orderId = first ∧ o.apiClientId = input.apiClientId ∧
    o.idempotencyKeyDigest = input.idempotencyKeyDigest
  orderIds : db.orders.map (·.orderId) = ids

/-- An answer that is about one order: the order itself, or the conflict with it. -/
def CreateStoredOrderResult.About (first : Uuid) : CreateStoredOrderResult → Prop
  | .existing stored => stored.aggregate.order.orderId = first
  | .idempotencyConflict orderId => orderId = first
  | _ => False

/-! ## What the call keeps -/

theorem HasKey.evolved (h : HasKey input first ids db) (hkeys : KeyInv db') (hevolves : Evolves db db')
    (hids : db'.orders.map (·.orderId) = db.orders.map (·.orderId)) : HasKey input first ids db' where
  keys := hkeys
  order := by
    obtain ⟨o, ho, hid, hclient, hdigest⟩ := h.order
    obtain ⟨o', ho', hfrozen⟩ := hevolves.orders o ho
    exact ⟨o', ho', hfrozen.orderId.trans hid, (hfrozen.column (·.apiClientId)).trans hclient,
      (hfrozen.column (·.idempotencyKeyDigest)).trans hdigest⟩
  orderIds := hids.trans h.orderIds

theorem CheckoutEnds.orderIds {order : PaymentOrder} {status : CheckoutStatus} {now : Nat}
    (h : CheckoutEnds order status now db db') : db'.orders.map (·.orderId) = db.orders.map (·.orderId) := by
  rw [h.result]
  show (putOrder _ db.orders).map _ = _
  unfold putOrder
  rw [List.map_map]
  refine List.map_congr_left fun o _ => ?_
  show (if o.orderId = order.orderId then order.ended status now else o).orderId = o.orderId
  by_cases hid : o.orderId = order.orderId
  · rw [if_pos hid]
    exact hid.symm
  · rw [if_neg hid]

theorem preserves_hasKey_expireOrder (orderId : Uuid) (now : Nat) :
    Preserves (HasKey input first ids) (expireOrder orderId now) := by
  intro db h u db' hx
  rcases expireOrder_ok hx with rfl | ⟨order, -, -, hends⟩
  · exact h
  · exact h.evolved (h.keys.ends hends) (hends.evolves h.keys.orderIds) hends.orderIds

theorem preserves_hasKey_logicalNow (r : ClockReading) : Preserves (HasKey input first ids) (logicalNow r) := by
  intro db h now db' hx
  obtain ⟨hle, -, -, rfl⟩ := logicalNow_ok hx
  have hkeys : KeyInv { db with clock := now } := h.keys.rewrite (f := id) (fun _ _ => rfl) (List.map_id _).symm rfl rfl
  exact h.evolved hkeys ⟨hle, fun o ho => ⟨o, ho, Frozen.refl o⟩, fun _ hc => hc⟩ rfl

/-! ## The read -/

/-- **The order of the key is found**, with its session and its profile. -/
theorem HasKey.read (h : HasKey input first ids db) {found : Option Aggregate}
    (hx : readAggregateByIdempotencyDigest pf input.apiClientId input.idempotencyKeyDigest db = .ok (found, db')) :
    db' = db ∧ ∃ a, found = some a ∧ a.order.orderId = first := by
  obtain ⟨o, ho, hid, hclient, hdigest⟩ := h.order
  have hfound : db.orders.find? (fun o => o.apiClientId = input.apiClientId &&
      o.idempotencyKeyDigest = input.idempotencyKeyDigest) = some o := by
    refine find?_eq_of_only ho (by simp [hclient, hdigest]) fun x hx hp => h.keys.idempotencyKeys.eq hx ho ?_
    simp only [Bool.and_eq_true, decide_eq_true_eq] at hp
    rw [hp.1, hp.2, hclient, hdigest]
  cases found with
  | none =>
    obtain ⟨-, hnone⟩ := readAggregate_none hx
    rcases hnone o hfound with hcheckout | hprofile
    · obtain ⟨c, hc, hco⟩ := h.keys.checkoutOf o ho
      exact absurd (decide_eq_true hco) (List.find?_eq_none.mp hcheckout c hc)
    · exact absurd (h.keys.profileOf o ho) (by simp [hprofile])
  | some a =>
    obtain ⟨rfl, ha, -⟩ := readAggregate_some hx
    obtain rfl := Option.some.inj (hfound.symm.trans ha)
    exact ⟨rfl, a, rfl, hid⟩

theorem triple_read : Triple (HasKey input first ids)
    (readAggregateByIdempotencyDigest pf input.apiClientId input.idempotencyKeyDigest)
    fun found db => HasKey input first ids db ∧ ∃ a, found = some a ∧ a.order.orderId = first := by
  intro db h found db' hx
  obtain ⟨rfl, hfound⟩ := h.read hx
  exact ⟨h, hfound⟩

/-! ## The call -/

theorem triple_replayOrder (now : Nat) (message : String) {found : Aggregate} (hid : found.order.orderId = first) :
    Triple (HasKey input first ids) (replayOrder pf input now
      (readAggregateByIdempotencyDigest pf input.apiClientId input.idempotencyKeyDigest) message found)
      fun result db => result.About first ∧ HasKey input first ids db := by
  refine triple_bind (Q := fun current db => current.order.orderId = first ∧ HasKey input first ids db) ?_
    fun current => ?_
  · refine triple_ite (fun _ => ?_) fun _ => triple_pure fun _ h => ⟨hid, h⟩
    refine triple_bind (preserves_hasKey_expireOrder _ _) fun _ => triple_bind triple_read fun again => ?_
    refine triple_orFail fun db a h hagain => ?_
    obtain ⟨h, a', ha', hid'⟩ := h
    obtain rfl := Option.some.inj (hagain.symm.trans ha')
    exact ⟨hid', h⟩
  · refine triple_bind (preserves_readWith _) fun db => triple_ite (fun _ => ?_) fun _ => triple_pure fun _ h => h
    intro m h result db' hx
    obtain ⟨stored, m', htoken, hx⟩ := bind_ok.mp hx
    obtain ⟨hstored, rfl⟩ := withCheckoutToken_ok htoken
    obtain ⟨rfl, rfl⟩ := pure_ok.mp hx
    have hsame : stored.aggregate.order.orderId = first := by
      rw [hstored]
      exact h.1
    exact ⟨hsame, h.2⟩

theorem createOrder_hasKey (rnd : CreateRandomness) (beforeCreate : Option Fault) (r : ClockReading) :
    Triple (HasKey input first ids) (createOrder pf input rnd beforeCreate r)
      fun result db => result.About first ∧ HasKey input first ids db := by
  refine triple_bind (preserves_validateWebhookTargetInput pf _) fun _ => ?_
  refine triple_bind (preserves_validateReturnUrlInput pf _) fun _ => ?_
  refine triple_bind (preserves_require _ _) fun _ => ?_
  refine triple_bind (preserves_assertPositiveSafeInteger _ _) fun _ => ?_
  refine triple_bind (preserves_assertPositiveSafeInteger _ _) fun _ => ?_
  refine triple_bind (preserves_hasKey_logicalNow r) fun now => ?_
  refine triple_bind (preserves_bind (preserves_readWith _) fun due => preserves_forEach
    (fun orderId => preserves_hasKey_expireOrder orderId now) due) fun _ => ?_
  refine triple_bind triple_read fun found => ?_
  rintro m ⟨h, a, rfl, hid⟩ result db' hx
  exact triple_replayOrder now _ hid m h result db' hx

/-- **An idempotency key makes one order.**  Whatever the calls behind an order of the store, a creation that is sent with
    its client and its key, and that does not fail, is answered by that order or by a conflict with it; and it creates
    none. -/
theorem idempotency_key_makes_one_order (pf : Platform) (hr : Runs.Reachable (orderStore pf) db) {o : PaymentOrder}
    (ho : o ∈ db.orders) {ops : List OrderOp} (hp : Runs.Path (orderStore pf) db ops db')
    (hclient : input.apiClientId = o.apiClientId) (hdigest : input.idempotencyKeyDigest = o.idempotencyKeyDigest)
    (rnd : CreateRandomness) (beforeCreate : Option Fault) (r : ClockReading) {result : CreateStoredOrderResult}
    {last : OrderDb} (hx : createOrder pf input rnd beforeCreate r db' = .ok (result, last)) :
    result.About o.orderId ∧ last.orders.map (·.orderId) = db'.orders.map (·.orderId) := by
  have hevolved := (EvolvedFrom.kept pf db).path hp ⟨.reachable hr, .refl db⟩
  obtain ⟨o', ho', hfrozen⟩ := hevolved.evolves.orders o ho
  have hthen : HasKey input o.orderId (db'.orders.map (·.orderId)) db' :=
    ⟨hevolved.keys, ⟨o', ho', hfrozen.orderId, (hfrozen.column (·.apiClientId)).trans hclient.symm,
      (hfrozen.column (·.idempotencyKeyDigest)).trans hdigest.symm⟩, rfl⟩
  obtain ⟨habout, hlast⟩ := createOrder_hasKey rnd beforeCreate r db' hthen result last hx
  exact ⟨habout, hlast.orderIds⟩

/-- The call that made the only order of the store, sent again a minute later. -/
theorem idempotency_key_makes_one_order_again :
    ∃ result last, second (siteInput "a") 260000 oneTaken = .ok (result, last) ∧ result.About 11 ∧
      last.orders.map (·.orderId) = oneTaken.orders.map (·.orderId) := by
  have hany : (oneTaken.orders.any fun o =>
      o.orderId = 11 && o.apiClientId = "default" && o.idempotencyKeyDigest = "a") = true := by decide +kernel
  have hanswered : (outcome (second (siteInput "a") 260000) oneTaken).toOption.isSome = true := by decide +kernel
  obtain ⟨o, ho, hkey⟩ := List.any_eq_true.mp hany
  simp only [Bool.and_eq_true, decide_eq_true_eq] at hkey
  obtain ⟨⟨hid, hclient⟩, hdigest⟩ := hkey
  unfold outcome at hanswered
  cases hx : second (siteInput "a") 260000 oneTaken with
  | error e =>
    rw [hx] at hanswered
    exact absurd hanswered Bool.false_ne_true
  | ok out =>
    have hsame := idempotency_key_makes_one_order samplePlatform oneTaken_reachable ho .refl
      (show (siteInput "a").apiClientId = o.apiClientId from hclient.symm) hdigest.symm ⟨21, 22, 23, 24, "m"⟩ none
      (reading 260000) hx
    rw [hid] at hsame
    exact ⟨out.1, out.2, rfl, hsame⟩

end PerPay.Orders
