/-
  **What no operation of the order store undoes** — keys stay unique, and the tables only evolve.

  Two relations between the tables and themselves carry the results about several operations in a row:
  `KeyInv`, the unique and foreign keys at the boundary of operations, and `Evolves`, which compares
  the tables before and after: the persisted clock has not moved back, every order is still the same
  issued order with the same end, and every checkout session is still there.
-/
import Mathlib.Logic.Relation
import PerPay.Orders.Invariants

namespace PerPay.Orders

open Txn Table

variable {pf : Platform} {db db' : OrderDb}

/-! ## The keys of the order tables -/

/-- Unique keys and foreign keys, at the boundary of operations. -/
structure KeyInv (db : OrderDb) : Prop where
  orderIds : UniqueOn (·.orderId) db.orders
  merchantOrders : UniqueOn (fun o => (o.apiClientId, o.merchantOrderNo)) db.orders
  idempotencyKeys : UniqueOn (fun o => (o.apiClientId, o.idempotencyKeyDigest)) db.orders
  checkoutOrders : UniqueOn (·.orderId) db.checkouts
  tokenDigests : UniqueOn (·.tokenDigest) db.checkouts
  profileOf : ∀ o ∈ db.orders, (db.profile o.collectionProfileId).isSome
  orderOf : ∀ c ∈ db.checkouts, ∃ o ∈ db.orders, o.orderId = c.orderId
  checkoutOf : ∀ o ∈ db.orders, ∃ c ∈ db.checkouts, c.orderId = o.orderId

theorem KeyInv.empty (h : OrderDb.Empty db) : KeyInv db where
  orderIds := by rw [h.orders]; exact uniqueOn_nil _
  merchantOrders := by rw [h.orders]; exact uniqueOn_nil _
  idempotencyKeys := by rw [h.orders]; exact uniqueOn_nil _
  checkoutOrders := by rw [h.checkouts]; exact uniqueOn_nil _
  tokenDigests := by rw [h.checkouts]; exact uniqueOn_nil _
  profileOf := by rw [h.orders]; simp
  orderOf := by rw [h.checkouts]; simp
  checkoutOf := by rw [h.orders]; simp

/-- Rewriting the rows of orders in place, each still the same issued order. -/
theorem KeyInv.rewrite (h : KeyInv db) {f : PaymentOrder → PaymentOrder}
    (hf : ∀ o ∈ db.orders, (f o).issued = o.issued) (ho : db'.orders = db.orders.map f)
    (hc : db'.checkouts = db.checkouts) (hg : db'.configuration = db.configuration) : KeyInv db' := by
  have hpoint : ∀ {κ : Type} (g : PaymentOrder → κ), (∀ o, g o.issued = g o) →
      ∀ o ∈ db.orders, g (f o) = g o := by
    intro κ g hg o hm
    rw [← hg, hf o hm, hg]
  have hcolumn : ∀ {κ : Type} (g : PaymentOrder → κ), (∀ o, g o.issued = g o) →
      db'.orders.map g = db.orders.map g := by
    intro κ g hg
    rw [ho, List.map_map]
    exact List.map_congr_left fun o hm => hpoint g hg o hm
  have hid : ∀ o ∈ db.orders, (f o).orderId = o.orderId := hpoint _ fun _ => rfl
  refine ⟨?_, ?_, ?_, ?_, ?_, ?_, ?_, ?_⟩
  · show (db'.orders.map _).Nodup
    rw [hcolumn (·.orderId) fun _ => rfl]
    exact h.orderIds
  · show (db'.orders.map _).Nodup
    rw [hcolumn _ fun _ => rfl]
    exact h.merchantOrders
  · show (db'.orders.map _).Nodup
    rw [hcolumn _ fun _ => rfl]
    exact h.idempotencyKeys
  · rw [hc]; exact h.checkoutOrders
  · rw [hc]; exact h.tokenDigests
  · rw [ho]
    intro o' hm'
    obtain ⟨o, hm, rfl⟩ := List.mem_map.mp hm'
    have hp : (f o).collectionProfileId = o.collectionProfileId :=
      hpoint (·.collectionProfileId) (fun _ => rfl) o hm
    show (db'.configuration.profiles.find? _).isSome
    rw [hg, hp]
    exact h.profileOf o hm
  · rw [hc, ho]
    intro c hm
    obtain ⟨o, hom, hoc⟩ := h.orderOf c hm
    exact ⟨f o, List.mem_map_of_mem hom, (hid o hom).trans hoc⟩
  · rw [hc, ho]
    intro o' hm'
    obtain ⟨o, hm, rfl⟩ := List.mem_map.mp hm'
    obtain ⟨c, hcm, hco⟩ := h.checkoutOf o hm
    exact ⟨c, hcm, hco.trans (hid o hm).symm⟩

/-- What `putOrder` does to the rows, one by one: the ended order is rewritten, no other row is. -/
theorem CheckoutEnds.frozen {order : PaymentOrder} {status : CheckoutStatus} {now : Nat}
    (h : CheckoutEnds order status now db db') (hids : UniqueOn (·.orderId) db.orders) {o : PaymentOrder}
    (ho : o ∈ db.orders) :
    Frozen o (if o.orderId = (order.ended status now).orderId then order.ended status now else o) := by
  by_cases hid : o.orderId = (order.ended status now).orderId
  · obtain rfl := hids.eq ho h.mem hid
    rw [if_pos hid]
    exact Frozen.ended h.notClosed status now
  · rw [if_neg hid]
    exact Frozen.refl o

theorem KeyInv.ends {order : PaymentOrder} {status : CheckoutStatus} {now : Nat} (h : KeyInv db)
    (hends : CheckoutEnds order status now db db') : KeyInv db' :=
  h.rewrite (fun _ ho => (hends.frozen h.orderIds ho).issued) (by rw [hends.result]; rfl)
    (by rw [hends.result]) (by rw [hends.result])

theorem KeyInv.inserted {input : CreateStoredOrderInput} {rnd : CreateRandomness}
    {profile : CollectionProfile} {amount generation cooldown now : Nat} {key : CheckoutTokenKey}
    (h : KeyInv db)
    (hrows : OrderInserted pf input rnd profile amount generation cooldown now key db db') : KeyInv db' := by
  have hprofile : ∀ id, db'.profile id = db.profile id := fun id => by
    show db'.configuration.profiles.find? _ = _
    rw [hrows.configuration]
    rfl
  refine ⟨?_, ?_, ?_, ?_, ?_, ?_, ?_, ?_⟩
  · rw [hrows.orders]
    exact h.orderIds.append fun o ho => (hrows.fresh o ho).orderId
  · rw [hrows.orders]
    exact h.merchantOrders.append fun o ho he =>
      (hrows.fresh o ho).merchantOrderNo (Prod.mk.injEq .. ▸ he)
  · rw [hrows.orders]
    exact h.idempotencyKeys.append fun o ho he =>
      (hrows.fresh o ho).idempotencyKey (Prod.mk.injEq .. ▸ he)
  · rw [hrows.checkouts]
    exact h.checkoutOrders.append fun c hc => (hrows.freshCheckout c hc).1
  · rw [hrows.checkouts]
    exact h.tokenDigests.append fun c hc => (hrows.freshCheckout c hc).2
  · rw [hrows.orders]
    intro o ho
    rw [hprofile]
    rcases List.mem_append.mp ho with ho | ho
    · exact h.profileOf o ho
    · rw [List.mem_singleton.mp ho]
      exact hrows.hasProfile
  · rw [hrows.checkouts, hrows.orders]
    intro c hc
    rcases List.mem_append.mp hc with hc | hc
    · obtain ⟨o, ho, hid⟩ := h.orderOf c hc
      exact ⟨o, List.mem_append_left _ ho, hid⟩
    · rw [List.mem_singleton.mp hc]
      exact ⟨_, List.mem_append_right _ (List.mem_singleton.mpr rfl), rfl⟩
  · rw [hrows.checkouts, hrows.orders]
    intro o ho
    rcases List.mem_append.mp ho with ho | ho
    · obtain ⟨c, hc, hid⟩ := h.checkoutOf o ho
      exact ⟨c, List.mem_append_left _ hc, hid⟩
    · rw [List.mem_singleton.mp ho]
      exact ⟨_, List.mem_append_right _ (List.mem_singleton.mpr rfl), rfl⟩

/-- A change of the configuration loses no profile. -/
theorem KeyInv.configured (h : KeyInv db) {configuration : Configuration}
    (hext : db.configuration.extendedBy configuration) :
    KeyInv { db with configuration := configuration } := by
  refine ⟨h.orderIds, h.merchantOrders, h.idempotencyKeys, h.checkoutOrders, h.tokenDigests, ?_,
    h.orderOf, h.checkoutOf⟩
  intro o ho
  obtain ⟨p, hp⟩ := Option.isSome_iff_exists.mp (h.profileOf o ho)
  have hid : p.profileId = o.collectionProfileId := by simpa using List.find?_some hp
  simp only [Configuration.extendedBy, Bool.and_eq_true, List.all_eq_true] at hext
  have hkept := hext.1 p (List.mem_of_find?_eq_some hp)
  rw [hid] at hkept
  show (configuration.profiles.find? _).isSome
  cases hf : configuration.profiles.find? fun p' => p'.profileId = o.collectionProfileId with
  | none => simp [hf] at hkept
  | some p' => rfl

/-! ## What no operation undoes -/

/-- Later tables: the clock has not moved back, every order is still the same one and has kept its
    end, and every checkout session is still there. -/
structure Evolves (db db' : OrderDb) : Prop where
  clock : db.clock ≤ db'.clock
  orders : ∀ o ∈ db.orders, ∃ o' ∈ db'.orders, Frozen o o'
  checkouts : ∀ c ∈ db.checkouts, c ∈ db'.checkouts

theorem Evolves.refl (db : OrderDb) : Evolves db db :=
  ⟨le_rfl, fun o ho => ⟨o, ho, Frozen.refl o⟩, fun _ hc => hc⟩

theorem Evolves.trans {db'' : OrderDb} (h : Evolves db db') (h' : Evolves db' db'') : Evolves db db'' where
  clock := h.clock.trans h'.clock
  orders o ho := by
    obtain ⟨o', ho', hf⟩ := h.orders o ho
    obtain ⟨o'', ho'', hf'⟩ := h'.orders o' ho'
    exact ⟨o'', ho'', hf.trans hf'⟩
  checkouts c hc := h'.checkouts c (h.checkouts c hc)

theorem CheckoutEnds.evolves {order : PaymentOrder} {status : CheckoutStatus} {now : Nat}
    (h : CheckoutEnds order status now db db') (hids : UniqueOn (·.orderId) db.orders) : Evolves db db' where
  clock := by rw [h.result]
  orders o ho := ⟨_, by rw [h.result]; exact List.mem_map_of_mem ho, h.frozen hids ho⟩
  checkouts c hc := by rw [h.result]; exact hc

theorem OrderInserted.evolves {input : CreateStoredOrderInput} {rnd : CreateRandomness}
    {profile : CollectionProfile} {amount generation cooldown now : Nat} {key : CheckoutTokenKey}
    (h : OrderInserted pf input rnd profile amount generation cooldown now key db db') : Evolves db db' where
  clock := h.clock.ge
  orders o ho := ⟨o, by rw [h.orders]; exact List.mem_append_left _ ho, Frozen.refl o⟩
  checkouts c hc := by rw [h.checkouts]; exact List.mem_append_left _ hc

/-- The keys hold, and the tables are later ones of `start`. -/
structure EvolvedFrom (start db : OrderDb) : Prop where
  keys : KeyInv db
  evolves : Evolves start db

/-- **Every operation of the order store is an evolution**; between two clock readings the persisted
    clock is the time of the operation. -/
theorem EvolvedFrom.kept (pf : Platform) (start : OrderDb) :
    Kept pf (EvolvedFrom start) (fun now db => EvolvedFrom start db ∧ db.clock = now) where
  logicalNow r db h now db' hx := by
    obtain ⟨hle, -, -, rfl⟩ := logicalNow_ok hx
    refine ⟨⟨h.keys.rewrite (f := id) (fun _ _ => rfl) (List.map_id _).symm rfl rfl, ?_⟩, rfl⟩
    exact h.evolves.trans ⟨hle, fun o ho => ⟨o, ho, Frozen.refl o⟩, fun _ hc => hc⟩
  units now := by
    refine KeptAt.of_steps ?_ ?_
    · rintro db db' order status ⟨h, hclock⟩ hends
      exact ⟨⟨h.keys.ends hends, h.evolves.trans (hends.evolves h.keys.orderIds)⟩,
        by rw [hends.result]; exact hclock⟩
    · rintro db db' input rnd profile amount generation cooldown key ⟨h, hclock⟩ hrows
      exact ⟨⟨h.keys.inserted hrows, h.evolves.trans hrows.evolves⟩, hrows.clock.trans hclock⟩
  weaken _ _ h := h.1
  configure configuration db hext h :=
    ⟨h.keys.configured hext, h.evolves.trans ⟨le_rfl, fun o ho => ⟨o, ho, Frozen.refl o⟩, fun _ hc => hc⟩⟩

/-! ## The four things that happen to the order tables -/

/-- The elementary steps of the order store: the clock advances, a checkout ends or an order is
    inserted at the time of the clock, the configuration changes. -/
inductive OrderStep (pf : Platform) : OrderDb → OrderDb → Prop
  | clock {db : OrderDb} (now : Nat) (h : db.clock ≤ now) (hsafe : now ≤ maxSafeInteger) :
      OrderStep pf db { db with clock := now }
  | ends {db db' : OrderDb} (order : PaymentOrder) (status : CheckoutStatus)
      (h : CheckoutEnds order status db.clock db db') : OrderStep pf db db'
  | inserted {db db' : OrderDb} (input : CreateStoredOrderInput) (rnd : CreateRandomness)
      (profile : CollectionProfile) (amount generation cooldown : Nat) (key : CheckoutTokenKey)
      (h : OrderInserted pf input rnd profile amount generation cooldown db.clock key db db') : OrderStep pf db db'
  | configured {db : OrderDb} (configuration : Configuration)
      (h : db.configuration.extendedBy configuration) : OrderStep pf db { db with configuration := configuration }

/-- **Every operation of the order store is made of these steps.** -/
theorem OrderStep.kept (pf : Platform) (start : OrderDb) :
    Kept pf (Relation.ReflTransGen (OrderStep pf) start)
      (fun now db => Relation.ReflTransGen (OrderStep pf) start db ∧ db.clock = now) where
  logicalNow r db h now db' hx := by
    obtain ⟨hle, hsafe, -, rfl⟩ := logicalNow_ok hx
    exact ⟨h.tail (.clock now hle hsafe), rfl⟩
  units now := by
    refine KeptAt.of_steps ?_ ?_
    · rintro db db' order status ⟨h, rfl⟩ hends
      exact ⟨h.tail (.ends order status hends), by rw [hends.result]⟩
    · rintro db db' input rnd profile amount generation cooldown key ⟨h, rfl⟩ hrows
      exact ⟨h.tail (.inserted input rnd profile amount generation cooldown key hrows), hrows.clock⟩
  weaken _ _ h := h.1
  configure configuration _ hext h := h.tail (.configured configuration hext)

theorem OrderOp.run_steps {op : OrderOp} {u : Unit} (hx : op.run pf db = .ok (u, db')) :
    Relation.ReflTransGen (OrderStep pf) db db' :=
  (OrderStep.kept pf db).run op db .refl u db' hx

theorem KeyInv.step (h : KeyInv db) (hs : OrderStep pf db db') : KeyInv db' := by
  cases hs with
  | clock now hle hsafe => exact h.rewrite (f := id) (fun _ _ => rfl) (List.map_id _).symm rfl rfl
  | ends order status hends => exact h.ends hends
  | inserted input rnd profile amount generation cooldown key hrows => exact h.inserted hrows
  | configured configuration hext => exact h.configured hext

theorem KeyInv.reachable (hr : Runs.Reachable (orderStore pf) db) : KeyInv db := by
  refine hr.invariant (fun _ => KeyInv.empty) ?_
  rintro db op db' h rfl
  exact (committed_of_preserves ((EvolvedFrom.kept pf db).run op) ⟨h, Evolves.refl db⟩).keys

end PerPay.Orders
