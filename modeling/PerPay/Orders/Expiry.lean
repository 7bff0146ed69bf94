/-
  **Sweeping due orders** (`expireDueOrders` of `database/order-store.ts`).

  A sweep selects the open orders whose time is over, the earliest first and at most `limit` of them, and expires
  one after the other in one transaction.  An order that could not be expired would take every call that sweeps first
  down with it; `AmountInv.expires` says that there is none.

  1. **One order** (`AmountInv.sweepOne`): it expires if it is due, and every other order is as it was.
  2. **The loop** (`AmountInv.sweepAll`): by induction on the ids, whatever the ids are, for an id that is not due does
     nothing.
  3. **What stays due** (`swept_due`): the part of the sorted due orders behind the first `limit`, so that the next sweep
     takes up where this one stopped.
-/
import Mathlib.Data.Prod.Lex
import PerPay.Orders.Creation

namespace PerPay.Orders

open Txn

variable {pf : Platform} {db m : OrderDb} {ids : List Uuid} {now : Nat}

/-! ## One order -/

/-- The orders that a sweep selects from. -/
def PaymentOrder.due (now : Nat) (o : PaymentOrder) : Bool := o.checkoutStatus = .OPEN && o.expiresAt ≤ now

theorem PaymentOrder.due_iff {o : PaymentOrder} : o.due now = true ↔ o.checkoutStatus = .OPEN ∧ o.expiresAt ≤ now := by
  simp [PaymentOrder.due]

/-- An order behind a sweep over these ids. -/
def PaymentOrder.swept (ids : List Uuid) (now : Nat) (o : PaymentOrder) : PaymentOrder :=
  if o.orderId ∈ ids ∧ o.due now = true then o.ended .EXPIRED now else o

theorem PaymentOrder.swept_of {o : PaymentOrder} (hmem : o.orderId ∈ ids) (hdue : o.due now = true) :
    o.swept ids now = o.ended .EXPIRED now := if_pos ⟨hmem, hdue⟩

theorem PaymentOrder.swept_of_not {o : PaymentOrder} (h : ¬(o.orderId ∈ ids ∧ o.due now = true)) :
    o.swept ids now = o := if_neg h

@[simp] theorem PaymentOrder.swept_orderId (o : PaymentOrder) : (o.swept ids now).orderId = o.orderId := by
  unfold PaymentOrder.swept
  split <;> rfl

/-- What is due behind a sweep was due before it, and not swept. -/
theorem PaymentOrder.due_swept (o : PaymentOrder) :
    (o.swept ids now).due now = (o.due now && decide (o.orderId ∉ ids)) := by
  by_cases h : o.orderId ∈ ids ∧ o.due now = true
  · rw [PaymentOrder.swept_of h.1 h.2]
    simp [PaymentOrder.due, PaymentOrder.ended, h.1]
  · rw [PaymentOrder.swept_of_not h]
    cases hdue : o.due now with
    | false => rfl
    | true => simpa using fun hmem => h ⟨hmem, hdue⟩

/-- The first id, and then the others. -/
theorem PaymentOrder.swept_cons (id : Uuid) (o : PaymentOrder) :
    (o.swept [id] now).swept ids now = o.swept (id :: ids) now := by
  by_cases h : o.orderId = id ∧ o.due now = true
  · rw [PaymentOrder.swept_of (List.mem_singleton.mpr h.1) h.2, PaymentOrder.swept_of (h.1 ▸ List.mem_cons_self) h.2]
    exact PaymentOrder.swept_of_not fun hn => nomatch (PaymentOrder.due_iff.mp hn.2).1
  · rw [PaymentOrder.swept_of_not fun hn => h ⟨List.mem_singleton.mp hn.1, hn.2⟩]
    unfold PaymentOrder.swept
    refine if_congr ?_ rfl rfl
    constructor
    · exact fun hn => ⟨List.mem_cons_of_mem _ hn.1, hn.2⟩
    · exact fun hn => ⟨(List.mem_cons.mp hn.1).resolve_left fun hid => h ⟨hid, hn.2⟩, hn.2⟩

theorem swept_eq_self {orders : List PaymentOrder} (h : ∀ o ∈ orders, ¬(o.orderId ∈ ids ∧ o.due now = true)) :
    orders.map (PaymentOrder.swept ids now) = orders :=
  (List.map_congr_left fun o ho => PaymentOrder.swept_of_not (h o ho)).trans (List.map_id _)

/-- **One order of a sweep.** -/
theorem AmountInv.sweepOne (h : AmountInv m) (id : Uuid) :
    ∃ m', Orders.expireOrder id m.clock m = .ok ((), m') ∧ Expires m m' ∧
      m'.orders = m.orders.map (PaymentOrder.swept [id] m.clock) := by
  obtain ⟨m', hx, hexpires⟩ := h.expireOrder id
  refine ⟨m', hx, hexpires, ?_⟩
  by_cases hsome : ∃ o ∈ m.orders, o.orderId = id ∧ o.due m.clock = true
  · obtain ⟨order, ho, rfl, hdue⟩ := hsome
    obtain ⟨hopen, hpast⟩ := PaymentOrder.due_iff.mp hdue
    obtain ⟨m'', hx', hends⟩ := h.expires ho hopen hpast
    obtain rfl : m' = m'' := (Prod.mk.inj (Except.ok.inj (hx.symm.trans hx'))).2
    rw [hends.result]
    refine List.map_congr_left fun o ho' => ?_
    show (if o.orderId = order.orderId then order.ended .EXPIRED m.clock else o) = _
    by_cases hid : o.orderId = order.orderId
    · obtain rfl := h.slots.unique ho' ho hid
      rw [if_pos rfl, PaymentOrder.swept_of (List.mem_singleton.mpr rfl) hdue]
    · rw [if_neg hid, PaymentOrder.swept_of_not fun hn => hid (List.mem_singleton.mp hn.1)]
  · have hkept : m' = m := by
      rcases expireOrder_ok hx with hsame | ⟨order, hid, hpast, hends⟩
      · exact hsame
      · exact absurd ⟨order, hends.mem, hid, PaymentOrder.due_iff.mpr ⟨hends.isOpen, hpast⟩⟩ hsome
    rw [hkept]
    exact (swept_eq_self fun o ho hn => hsome ⟨o, ho, List.mem_singleton.mp hn.1, hn.2⟩).symm

/-- **The loop of a sweep.** -/
theorem AmountInv.sweepAll (ids : List Uuid) : ∀ {m : OrderDb}, AmountInv m →
    ∃ m', forEach (Orders.expireOrder · m.clock) ids m = .ok ((), m') ∧ Expires m m' ∧
      m'.orders = m.orders.map (PaymentOrder.swept ids m.clock) := by
  induction ids with
  | nil => exact fun {m} h => ⟨m, rfl, .refl h, (swept_eq_self fun _ _ hn => absurd hn.1 List.not_mem_nil).symm⟩
  | cons id ids ih =>
    intro m h
    obtain ⟨m', hx, hexpires, horders⟩ := h.sweepOne id
    obtain ⟨m'', hrest, hexpires', horders'⟩ := ih hexpires.inv
    rw [hexpires.clock] at hrest horders'
    refine ⟨m'', (bind_of_ok hx).trans hrest, hexpires.trans hexpires', ?_⟩
    rw [horders', horders, List.map_map]
    exact List.map_congr_left fun o _ => o.swept_cons id

/-! ## What stays due -/

/-- The due orders, as a sweep selects them. -/
def OrderDb.dueSorted (db : OrderDb) (now : Nat) : List PaymentOrder :=
  (db.orders.filter (PaymentOrder.due now)).mergeSort PaymentOrder.expiresBefore

theorem dueOrders_eq (limit : Nat) : db.dueOrders now limit = ((db.dueSorted now).take limit).map (·.orderId) := rfl

/-- The order of the rows, as one order on pairs. -/
theorem expiresBefore_iff {a b : PaymentOrder} :
    a.expiresBefore b = true ↔ toLex (a.expiresAt, a.orderId) ≤ toLex (b.expiresAt, b.orderId) := by
  rw [Prod.Lex.toLex_le_toLex]
  simp [PaymentOrder.expiresBefore]

theorem expiresBefore_trans (a b c : PaymentOrder) (hab : a.expiresBefore b = true) (hbc : b.expiresBefore c = true) :
    a.expiresBefore c = true :=
  expiresBefore_iff.mpr ((expiresBefore_iff.mp hab).trans (expiresBefore_iff.mp hbc))

theorem expiresBefore_total (a b : PaymentOrder) : (a.expiresBefore b || b.expiresBefore a) = true := by
  rw [Bool.or_eq_true, expiresBefore_iff, expiresBefore_iff]
  exact le_total _ _

theorem expiresBefore_antisymm {a b : PaymentOrder} (hab : a.expiresBefore b = true) (hba : b.expiresBefore a = true) :
    a.orderId = b.orderId :=
  (Prod.mk.inj (toLex.injective (le_antisymm (expiresBefore_iff.mp hab) (expiresBefore_iff.mp hba)))).2

theorem dueSorted_pairwise : (db.dueSorted now).Pairwise fun a b => a.expiresBefore b = true :=
  List.pairwise_mergeSort expiresBefore_trans expiresBefore_total _

theorem dueSorted_perm : (db.dueSorted now).Perm (db.orders.filter (PaymentOrder.due now)) := List.mergeSort_perm _ _

theorem dueSorted_nodup (hids : (db.orders.map (·.orderId)).Nodup) : ((db.dueSorted now).map (·.orderId)).Nodup :=
  (dueSorted_perm.map _).nodup_iff.mpr (hids.sublist (List.filter_sublist.map _))

/-- A list that is kept apart by its ids, without the ids of its beginning. -/
theorem filter_not_mem_take {rows : List PaymentOrder} (hids : (rows.map (·.orderId)).Nodup) (n : Nat) :
    rows.filter (fun o => decide (o.orderId ∉ (rows.take n).map (·.orderId))) = rows.drop n := by
  have hsplit : ((rows.take n).map (·.orderId) ++ (rows.drop n).map (·.orderId)).Nodup := by
    rw [← List.map_append, List.take_append_drop]
    exact hids
  obtain ⟨-, -, hapart⟩ := List.nodup_append.mp hsplit
  have hfirst : (rows.take n).filter (fun o => decide (o.orderId ∉ (rows.take n).map (·.orderId))) = [] :=
    List.filter_eq_nil_iff.mpr fun o ho hn => of_decide_eq_true hn (List.mem_map_of_mem ho)
  have hlast : (rows.drop n).filter (fun o => decide (o.orderId ∉ (rows.take n).map (·.orderId))) = rows.drop n :=
    List.filter_eq_self.mpr fun o ho => decide_eq_true fun hn => hapart _ hn _ (List.mem_map_of_mem ho) rfl
  calc rows.filter (fun o => decide (o.orderId ∉ (rows.take n).map (·.orderId)))
      = (rows.take n ++ rows.drop n).filter (fun o => decide (o.orderId ∉ (rows.take n).map (·.orderId))) := by
        rw [List.take_append_drop]
    _ = rows.drop n := by rw [List.filter_append, hfirst, hlast, List.nil_append]

/-- **What stays due** is the part behind the orders that were selected. -/
theorem swept_due {db' : OrderDb} (hids : (db.orders.map (·.orderId)).Nodup) (limit : Nat)
    (horders : db'.orders = db.orders.map (PaymentOrder.swept (db.dueOrders now limit) now)) :
    db'.dueSorted now = (db.dueSorted now).drop limit := by
  have hrest : db'.orders.filter (PaymentOrder.due now) = (db.orders.filter (PaymentOrder.due now)).filter
      fun o => decide (o.orderId ∉ db.dueOrders now limit) := by
    rw [horders, List.filter_map, List.filter_filter]
    have hdue : ∀ o ∈ db.orders, (PaymentOrder.due now ∘ PaymentOrder.swept (db.dueOrders now limit) now) o =
        (decide (o.orderId ∉ db.dueOrders now limit) && o.due now) :=
      fun o _ => o.due_swept.trans (Bool.and_comm _ _)
    rw [List.filter_congr hdue]
    refine (List.map_congr_left fun o ho => ?_).trans (List.map_id _)
    obtain ⟨-, hp⟩ := List.mem_filter.mp ho
    exact PaymentOrder.swept_of_not fun hn => of_decide_eq_true (Bool.and_eq_true_iff.mp hp).1 hn.1
  have hperm : (db'.dueSorted now).Perm ((db.dueSorted now).drop limit) := by
    refine dueSorted_perm.trans ?_
    rw [hrest, ← filter_not_mem_take (dueSorted_nodup hids) limit]
    exact (dueSorted_perm.symm).filter _
  have hids' : (((db.dueSorted now).drop limit).map (·.orderId)).Nodup :=
    (dueSorted_nodup hids).sublist ((List.drop_sublist _ _).map _)
  refine hperm.eq_of_pairwise (fun a b ha hb hab hba => ?_) dueSorted_pairwise
    (dueSorted_pairwise.sublist (List.drop_sublist _ _))
  exact List.inj_on_of_nodup_map hids' (hperm.mem_iff.mp ha) hb (expiresBefore_antisymm hab hba)

/-! ## A sweep -/

/-- **A sweep** of any reachable store, at a reading that its clock accepts, succeeds.  It ends the selected orders, which
    are the earliest of the due ones, and no other order changes; the holds on amounts stay as they are, and what the next
    sweep at that time selects are the due orders behind those. -/
theorem sweep_expires_due (pf : Platform) (hr : Runs.Reachable (orderStore pf) db) {r : ClockReading} {now : Nat}
    (hclock : logicalNow r db = .ok (now, m)) (limit : Nat) :
    ∃ db', (OrderOp.expireDueOrders limit r).run pf db = .ok ((), db') ∧
      db'.orders = db.orders.map (PaymentOrder.swept (db.dueOrders now limit) now) ∧
      (∀ o ∈ db.orders, o.orderId ∈ db.dueOrders now limit → o.due now = true) ∧
      db'.holds = db.holds ∧
      ∀ n, db'.dueOrders now n = (db.dueOrders now (limit + n)).drop limit := by
  have hinv := AmountInv.reachable hr
  obtain ⟨hle, -, -, rfl⟩ := logicalNow_ok hclock
  obtain ⟨db', hx, hexpires, horders⟩ := (hinv.clocked hle).sweepAll (db.dueOrders now limit)
  have hids := hinv.slots.orderIds
  refine ⟨db', (bind_of_ok hclock).trans hx, horders, fun o ho hmem => ?_, hexpires.holds, fun n => ?_⟩
  · rw [dueOrders_eq] at hmem
    obtain ⟨o', ho', hid⟩ := List.mem_map.mp hmem
    obtain ⟨hmem', hdue⟩ := List.mem_filter.mp (dueSorted_perm.mem_iff.mp (List.mem_of_mem_take ho'))
    exact (hinv.slots.unique hmem' ho hid) ▸ hdue
  · rw [dueOrders_eq, dueOrders_eq, swept_due hids limit horders, ← List.map_drop, List.drop_take,
      Nat.add_sub_cancel_left]

theorem ok_of_outcome {α : Type} {x : OrderTx α} {a : α} (h : outcome x db = .ok a) : ∃ m, x db = .ok (a, m) := by
  unfold outcome at h
  cases hx : x db with
  | error e =>
    rw [hx] at h
    exact absurd h (by simp)
  | ok out =>
    rw [hx] at h
    exact ⟨out.2, by rw [← Except.ok.inj h]⟩

/-- The order that takes the only amount until 560 s is due at 500 s. -/
theorem sweep_expires_due_one :
    ∃ db', (OrderOp.expireDueOrders 1 (reading 500000)).run samplePlatform oneTaken = .ok ((), db') ∧
      db'.orders = oneTaken.orders.map (PaymentOrder.swept [11] 500000) ∧ ∀ n, db'.dueOrders 500000 n = [] := by
  obtain ⟨m, hclock⟩ :=
    ok_of_outcome (show outcome (logicalNow (reading 500000)) oneTaken = .ok 500000 by decide +kernel)
  have hsorted : (oneTaken.dueSorted 500000).map (·.orderId) = [11] := by decide +kernel
  have hdue : ∀ n, oneTaken.dueOrders 500000 (1 + n) = [11] := by
    intro n
    rw [dueOrders_eq, List.map_take, hsorted]
    exact List.take_of_length_le (Nat.le_add_right 1 n)
  obtain ⟨db', hx, horders, -, -, hrest⟩ := sweep_expires_due samplePlatform oneTaken_reachable hclock 1
  rw [hdue 0] at horders
  exact ⟨db', hx, horders, fun n => by rw [hrest, hdue]; rfl⟩

end PerPay.Orders
