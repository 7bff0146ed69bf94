/-
  **Amount slots never collide** — what keeps one payment attributable to one order.

  A payer is asked for an exact amount that no other open order of the same Alipay account asks for.
  An amount is handed out again only after the previous order ended AND its cooldown passed.  Three
  different paths end an order (a close, a sweep, a read that finds it due), a sweep may notice an
  expiry late, and each order carries its own cooldown; `SlotInv` is what all of them keep:

  1. a slot and its order agree on everything, and the slot is released exactly when the order ends;
  2. within one line (one account, one amount) each slot starts only when the order of every earlier
     slot has ended and cooled down, counted from the EXPIRY of an expired order, not from the sweep;
  3. the generations of a line are `1, …, n`.

  The crux is `SlotInv.insertAmountSlot`: the guards of the insert look at the LATEST generation
  only, and 2. carries the distance over to all earlier ones.
-/
import Mathlib.Order.CompletePartialOrder
import Mathlib.Order.Interval.Set.Disjoint
import PerPay.Orders.Invariants

namespace PerPay.Orders

open Txn

/-! ## The order rows -/

/-- What the row checks say about the end of an order: it comes after the creation, and the release
    time of the slot bounds the attribution window by exactly this end. -/
theorem PaymentOrder.rowChecks_ended {o : PaymentOrder} (h : o.rowChecks) {closed : Nat}
    (hc : o.closedAt = some closed) :
    o.createdAt ≤ o.endedAt ∧ min o.expiresAt closed = o.endedAt := by
  unfold rowChecks at h
  unfold endedAt
  rw [hc] at h ⊢
  cases hs : o.checkoutStatus <;> simp_all <;> omega

theorem PaymentOrder.rowChecks_open {o : PaymentOrder} (h : o.rowChecks) :
    o.checkoutStatus = .OPEN ↔ o.closedAt = none := by
  unfold rowChecks at h
  cases hs : o.checkoutStatus <;> cases hc : o.closedAt <;> simp_all

theorem PaymentOrder.rowChecks_created {o : PaymentOrder} (h : o.rowChecks) :
    o.eligibleFrom = o.createdAt ∧ o.createdAt < o.expiresAt ∧
      60 ≤ o.amountReuseCooldownSeconds := by
  unfold rowChecks at h
  simp only [Bool.and_eq_true, decide_eq_true_eq] at h
  omega

theorem PaymentOrder.rowChecks_created_lt_reusable {o : PaymentOrder} (h : o.rowChecks) {closed : Nat}
    (hc : o.closedAt = some closed) : o.createdAt < o.reusableAt := by
  have h1 := (o.rowChecks_ended h hc).1
  have h2 := (o.rowChecks_created h).2.2
  unfold reusableAt
  omega

/-! ## The invariant -/

/-- Two slots of one line. -/
def SameLine (s t : AmountSlot) : Prop :=
  s.alipayAccountId = t.alipayAccountId ∧ s.payableAmountCents = t.payableAmountCents

/-- A slot agrees with the order it belongs to; both end together. -/
structure Linked (s : AmountSlot) (o : PaymentOrder) : Prop where
  orderId : o.orderId = s.orderId
  account : o.alipayAccountId = s.alipayAccountId
  amount : o.payableAmountCents = s.payableAmountCents
  profile : o.collectionProfileId = s.collectionProfileId
  start : o.eligibleFrom = s.occupiedFrom
  released : s.releasedAt = o.closedAt

/-- `s` comes before `t` in their line: its order has ended and cooled down when `t` starts. -/
def Precedes (orders : List PaymentOrder) (s t : AmountSlot) : Prop :=
  SameLine s t → s.generation < t.generation ∧
    ∃ o ∈ orders, o.orderId = s.orderId ∧ o.closedAt ≠ none ∧ o.reusableAt ≤ t.occupiedFrom

/-- The invariant of the order tables. -/
structure SlotInv (db : OrderDb) : Prop where
  orderIds : (db.orders.map (·.orderId)).Nodup
  rows : ∀ o ∈ db.orders, o.rowChecks
  linked : ∀ s ∈ db.slots, ∃ o ∈ db.orders, Linked s o
  spaced : db.slots.Pairwise (Precedes db.orders)
  generations : ∀ account amount, (db.line account amount).map (·.generation) =
    List.range' 1 (db.line account amount).length

variable {db : OrderDb}

theorem SlotInv.unique (h : SlotInv db) {o o' : PaymentOrder} (ho : o ∈ db.orders)
    (ho' : o' ∈ db.orders) (he : o.orderId = o'.orderId) : o = o' :=
  List.inj_on_of_nodup_map h.orderIds ho ho' he

/-- An invariant about orders and slots does not see the other tables. -/
theorem SlotInv.frame (h : SlotInv db) {db' : OrderDb} (ho : db'.orders = db.orders)
    (hs : db'.slots = db.slots) : SlotInv db' where
  orderIds := ho ▸ h.orderIds
  rows := ho ▸ h.rows
  linked := by rw [ho, hs]; exact h.linked
  spaced := by rw [ho, hs]; exact h.spaced
  generations account amount := by
    unfold OrderDb.line
    rw [hs]
    exact h.generations account amount

theorem SlotInv.empty (h : OrderDb.Empty db) : SlotInv db where
  orderIds := by rw [h.orders]; exact List.nodup_nil
  rows := by rw [h.orders]; simp
  linked := by rw [h.slots]; simp
  spaced := by rw [h.slots]; exact List.Pairwise.nil
  generations account amount := by simp [OrderDb.line, h.slots]

/-! ## Rewriting rows in place -/

theorem Frozen.reusableAt {o o' : PaymentOrder} (h : Frozen o o') (hc : o.closedAt ≠ none) :
    o'.reusableAt = o.reusableAt := by
  obtain ⟨h1, h2⟩ := h.ending hc
  unfold PaymentOrder.reusableAt PaymentOrder.endedAt
  rw [h1, h2, h.cooldown, h.expiry]

/-- What an update of a slot never touches. -/
structure SameSlot (s s' : AmountSlot) : Prop where
  orderId : s'.orderId = s.orderId
  account : s'.alipayAccountId = s.alipayAccountId
  amount : s'.payableAmountCents = s.payableAmountCents
  profile : s'.collectionProfileId = s.collectionProfileId
  generation : s'.generation = s.generation
  start : s'.occupiedFrom = s.occupiedFrom

theorem Precedes.rewrite {orders : List PaymentOrder} {s s' t t' : AmountSlot}
    {f : PaymentOrder → PaymentOrder} (hf : ∀ o ∈ orders, Frozen o (f o)) (hs : SameSlot s s')
    (ht : SameSlot t t') (h : Precedes orders s t) : Precedes (orders.map f) s' t' := by
  rintro ⟨ha, hm⟩
  have hline : SameLine s t :=
    ⟨by rw [← hs.account, ← ht.account]; exact ha, by rw [← hs.amount, ← ht.amount]; exact hm⟩
  obtain ⟨hg, o, ho, hid, hc, hr⟩ := h hline
  refine ⟨by rw [hs.generation, ht.generation]; exact hg, f o, List.mem_map_of_mem ho, ?_, ?_, ?_⟩
  · rw [(hf o ho).orderId, hs.orderId]; exact hid
  · rw [((hf o ho).ending hc).1]; exact hc
  · rw [(hf o ho).reusableAt hc, ht.start]; exact hr

/-- The line of rewritten slots is the rewritten line. -/
theorem line_map {slots : List AmountSlot} {g : AmountSlot → AmountSlot}
    (hg : ∀ s ∈ slots, SameSlot s (g s)) (account : String) (amount : Nat) :
    (slots.map g).filter (fun s => s.alipayAccountId = account && s.payableAmountCents = amount) =
      (slots.filter fun s => s.alipayAccountId = account && s.payableAmountCents = amount).map g := by
  rw [List.filter_map]
  congr 1
  refine List.filter_congr fun s hs => ?_
  simp only [Function.comp, (hg s hs).account, (hg s hs).amount]

/-- **Rewriting keeps the invariant**: orders and slots may be updated in place, as long as the
    frozen columns stay and slot and order still end together. -/
theorem SlotInv.rewrite (h : SlotInv db) {f : PaymentOrder → PaymentOrder}
    {g : AmountSlot → AmountSlot} {db' : OrderDb} (ho : db'.orders = db.orders.map f)
    (hs : db'.slots = db.slots.map g) (hf : ∀ o ∈ db.orders, Frozen o (f o))
    (hr : ∀ o ∈ db.orders, (f o).rowChecks) (hg : ∀ s ∈ db.slots, SameSlot s (g s))
    (hl : ∀ s ∈ db.slots, ∀ o ∈ db.orders, Linked s o → (g s).releasedAt = (f o).closedAt) :
    SlotInv db' where
  orderIds := by
    rw [ho, List.map_map]
    have : db.orders.map ((·.orderId) ∘ f) = db.orders.map (·.orderId) :=
      List.map_congr_left fun o hm => (hf o hm).orderId
    rw [this]
    exact h.orderIds
  rows := by
    rw [ho]
    intro o' hm'
    obtain ⟨o, hm, rfl⟩ := List.mem_map.mp hm'
    exact hr o hm
  linked := by
    rw [ho, hs]
    intro s' hm'
    obtain ⟨s, hm, rfl⟩ := List.mem_map.mp hm'
    obtain ⟨o, hom, hlink⟩ := h.linked s hm
    have hF := hf o hom
    have hS := hg s hm
    exact ⟨f o, List.mem_map_of_mem hom,
      by rw [hF.orderId, hS.orderId]; exact hlink.orderId,
      by rw [hF.account, hS.account]; exact hlink.account,
      by rw [hF.amount, hS.amount]; exact hlink.amount,
      by rw [hF.profile, hS.profile]; exact hlink.profile,
      by rw [hF.start, hS.start]; exact hlink.start,
      hl s hm o hom hlink⟩
  spaced := by
    rw [ho, hs, List.pairwise_map]
    refine h.spaced.imp_of_mem fun hms hmt hst => ?_
    exact Precedes.rewrite hf (hg _ hms) (hg _ hmt) hst
  generations account amount := by
    unfold OrderDb.line
    rw [hs, line_map hg, List.map_map, List.length_map]
    have : (db.line account amount).map ((·.generation) ∘ g) =
        (db.line account amount).map (·.generation) :=
      List.map_congr_left fun s hm => (hg s (List.mem_of_mem_filter hm)).generation
    exact this.trans (h.generations account amount)

/-! ## Ending a checkout -/

theorem releaseSlot_same (orderId : Uuid) (closedAt : Nat) (reason : CheckoutStatus) (s : AmountSlot) :
    SameSlot s (releaseSlot orderId closedAt reason s) := by
  unfold releaseSlot
  split
  · exact ⟨rfl, rfl, rfl, rfl, rfl, rfl⟩
  · exact ⟨rfl, rfl, rfl, rfl, rfl, rfl⟩

/-- The three paths that end an order all go through this statement. -/
theorem SlotInv.endCheckout (orderId : Uuid) (guard : PaymentOrder → Bool) (status : CheckoutStatus)
    (now : Nat) (action : String) :
    Preserves SlotInv (endCheckout orderId guard status now action) := by
  intro db h u db' hx
  obtain ⟨order, hmem, hid, -, -, hopen, -, hrow, rfl⟩ := endCheckout_ok hx
  -- the row found is the only row with this id, so `putOrder` rewrites exactly it
  have hput : ∀ o ∈ db.orders, o.orderId = (order.ended status now).orderId → o = order :=
    fun o ho he => h.unique ho hmem he
  refine h.rewrite rfl rfl ?_ ?_ (fun s _ => releaseSlot_same _ _ _ s) ?_
  · intro o ho
    by_cases he : o.orderId = (order.ended status now).orderId
    · obtain rfl := hput o ho he
      rw [if_pos he]
      exact Frozen.ended hopen status now
    · rw [if_neg he]; exact Frozen.refl o
  · intro o ho
    by_cases he : o.orderId = (order.ended status now).orderId
    · rw [if_pos he]; exact hrow
    · rw [if_neg he]; exact h.rows o ho
  · intro s hs o ho hlink
    by_cases he : o.orderId = (order.ended status now).orderId
    · obtain rfl := hput o ho he
      have hheld : s.heldBy orderId := by
        simp [AmountSlot.heldBy, ← hlink.orderId, hid, hlink.released, hopen]
      rw [if_pos he]
      simp [releaseSlot, hheld, PaymentOrder.ended]
    · have hheld : ¬ s.heldBy orderId := by
        simp only [AmountSlot.heldBy, Bool.and_eq_true, decide_eq_true_eq, not_and]
        intro hso _
        exact he (by rw [hlink.orderId, hso]; exact hid.symm)
      rw [if_neg he]
      simp only [releaseSlot, hheld, Bool.false_eq_true, if_false]
      exact hlink.released

/-! ## New rows -/

/-- A new order is in no line yet: its slot is inserted by a later statement. -/
theorem SlotInv.insertPaymentOrder (order : PaymentOrder) :
    Preserves SlotInv (insertPaymentOrder order) := by
  intro db h u db' hx
  obtain ⟨hrow, -, hfresh, rfl⟩ := insertPaymentOrder_ok hx
  refine ⟨?_, ?_, ?_, ?_, h.generations⟩
  · rw [List.map_append, List.nodup_append]
    refine ⟨h.orderIds, List.nodup_singleton _, ?_⟩
    intro id hid id' hid'
    obtain ⟨o, ho, rfl⟩ := List.mem_map.mp hid
    obtain rfl := List.mem_singleton.mp hid'
    exact (hfresh o ho).orderId
  · intro o ho
    rcases List.mem_append.mp ho with ho | ho
    · exact h.rows o ho
    · rw [List.mem_singleton.mp ho]; exact hrow
  · intro s hs
    obtain ⟨o, ho, hlink⟩ := h.linked s hs
    exact ⟨o, List.mem_append_left _ ho, hlink⟩
  · refine h.spaced.imp fun hst hline => ?_
    obtain ⟨hg, o, ho, hrest⟩ := hst hline
    exact ⟨hg, o, List.mem_append_left _ ho, hrest⟩

theorem mem_line {account : String} {amount : Nat} {s : AmountSlot} :
    s ∈ db.line account amount ↔
      s ∈ db.slots ∧ s.alipayAccountId = account ∧ s.payableAmountCents = amount := by
  simp [OrderDb.line]

/-- In a line numbered `1, …, n` the slot with the largest generation is number `n`. -/
theorem SlotInv.latest_generation (h : SlotInv db) {account : String} {amount : Nat}
    {latest : AmountSlot} (hl : db.latestSlot account amount = some latest) :
    latest.generation = (db.line account amount).length := by
  have hmem : latest ∈ db.line account amount := List.argmax_mem hl
  have hrange : ∀ g, g ∈ (db.line account amount).map (·.generation) ↔
      1 ≤ g ∧ g < 1 + (db.line account amount).length := by
    intro g
    rw [h.generations account amount, List.mem_range'_1]
  have hpos : 0 < (db.line account amount).length := List.length_pos_of_mem hmem
  have hle := (hrange latest.generation).mp (List.mem_map_of_mem hmem)
  -- the last number is taken by some slot, and the latest slot is not below it
  obtain ⟨s, hs, hsn⟩ := List.mem_map.mp ((hrange (db.line account amount).length).mpr (by omega))
  have := List.le_of_mem_argmax hs hl
  omega

theorem latestSlot_eq_none {account : String} {amount : Nat} :
    db.latestSlot account amount = none ↔ db.line account amount = [] := by
  unfold OrderDb.latestSlot
  exact List.argmax_eq_none

/-- Two different slots of one line: one of them precedes the other. -/
theorem SlotInv.precedes_or (h : SlotInv db) {s t : AmountSlot} (hs : s ∈ db.slots)
    (ht : t ∈ db.slots) (hne : s ≠ t) : Precedes db.orders s t ∨ Precedes db.orders t s := by
  have hpair : db.slots.Pairwise fun a b =>
      a ≠ b → Precedes db.orders a b ∨ Precedes db.orders b a :=
    h.spaced.imp fun hab _ => Or.inl hab
  have hflip : db.slots.Pairwise (flip fun a b =>
      a ≠ b → Precedes db.orders a b ∨ Precedes db.orders b a) :=
    h.spaced.imp fun hab _ => Or.inr hab
  exact hpair.forall_of_forall_of_flip (fun _ _ hx => absurd rfl hx) hflip hs ht hne

/-- Every slot of a line but the latest comes before the latest. -/
theorem SlotInv.precedes_latest (h : SlotInv db) {s latest : AmountSlot} (hs : s ∈ db.slots)
    (hl : db.latestSlot s.alipayAccountId s.payableAmountCents = some latest) (hne : s ≠ latest) :
    Precedes db.orders s latest := by
  obtain ⟨hm, ha, hp⟩ := mem_line.mp (List.argmax_mem hl)
  rcases h.precedes_or hs hm hne with hst | hts
  · exact hst
  · have hgen := (hts ⟨ha, hp⟩).1
    have := List.le_of_mem_argmax (mem_line.mpr ⟨hs, rfl, rfl⟩) hl
    omega

/-- The order of a slot is the one the tables link it to. -/
theorem SlotInv.orderOf (h : SlotInv db) {s : AmountSlot} (hs : s ∈ db.slots) :
    ∃ o ∈ db.orders, db.orderOf s = some o ∧ Linked s o := by
  obtain ⟨o, ho, hlink⟩ := h.linked s hs
  have hsome : (db.orderOf s).isSome := by
    rw [OrderDb.orderOf, List.find?_isSome]
    exact ⟨o, ho, by simpa using hlink.orderId⟩
  obtain ⟨o', ho'⟩ := Option.isSome_iff_exists.mp hsome
  have hid : o'.orderId = s.orderId := by simpa using List.find?_some ho'
  have heq : o' = o := h.unique (List.mem_of_find?_eq_some ho') ho (hid.trans hlink.orderId.symm)
  exact ⟨o, ho, by rw [ho', heq], hlink⟩

/-- **The guards of the insert suffice.** They compare the new slot with the latest slot of its line
    only; every earlier slot precedes the latest one, which starts no later than its own order was
    reusable. -/
theorem SlotInv.precedes_new (h : SlotInv db) {slot : AmountSlot}
    (hgen : slot.generation =
      ((db.latestSlot slot.alipayAccountId slot.payableAmountCents).map (·.generation + 1)).getD 1)
    (hprev : ∀ previous ∈ db.latestSlot slot.alipayAccountId slot.payableAmountCents,
      previous.releasedBy slot.occupiedFrom ∧ db.cooledDown previous slot.occupiedFrom)
    {s : AmountSlot} (hs : s ∈ db.slots) : Precedes db.orders s slot := by
  intro hline
  -- the line of the new slot is not empty, so it has a latest slot
  obtain ⟨latest, hl⟩ : ∃ latest, db.latestSlot s.alipayAccountId s.payableAmountCents = some latest := by
    cases hl : db.latestSlot s.alipayAccountId s.payableAmountCents with
    | some latest => exact ⟨latest, rfl⟩
    | none =>
      have : s ∈ db.line s.alipayAccountId s.payableAmountCents := mem_line.mpr ⟨hs, rfl, rfl⟩
      rw [latestSlot_eq_none.mp hl] at this
      exact absurd this List.not_mem_nil
  rw [← hline.1, ← hline.2, hl] at hgen hprev
  obtain ⟨hrel, hcool⟩ := hprev latest rfl
  obtain ⟨hlm, hla, hlp⟩ := mem_line.mp (List.argmax_mem hl)
  obtain ⟨o, ho, hof, hlink⟩ := h.orderOf hlm
  -- the latest slot is released, so its order has ended, and the cooldown guard speaks
  have hclosed : ∃ closed, o.closedAt = some closed := by
    rw [← hlink.released]
    unfold AmountSlot.releasedBy at hrel
    cases hr : latest.releasedAt with
    | none => rw [hr] at hrel; exact absurd hrel (by simp)
    | some r => exact ⟨r, rfl⟩
  obtain ⟨closed, hclosed⟩ := hclosed
  have hreuse : o.reusableAt ≤ slot.occupiedFrom := by
    have hnone : latest.releasedAt.isNone = false := by rw [hlink.released, hclosed]; rfl
    simpa [OrderDb.cooledDown, hof, hnone] using hcool
  have hgen' : slot.generation = latest.generation + 1 := by simpa using hgen
  by_cases hne : s = latest
  · subst hne
    exact ⟨by omega, o, ho, hlink.orderId, by rw [hclosed]; simp, hreuse⟩
  · obtain ⟨hg, o', ho', hid', hc', hr'⟩ := h.precedes_latest hs hl hne ⟨hla.symm, hlp.symm⟩
    have hstart : latest.occupiedFrom < o.reusableAt := by
      rw [← hlink.start, (o.rowChecks_created (h.rows o ho)).1]
      exact o.rowChecks_created_lt_reusable (h.rows o ho) hclosed
    exact ⟨by omega, o', ho', hid', hc', by omega⟩

/-- A new slot extends its own line and no other. -/
theorem line_append (slot : AmountSlot) (account : String) (amount : Nat) :
    OrderDb.line { db with slots := db.slots ++ [slot] } account amount =
      db.line account amount ++
        if slot.alipayAccountId = account ∧ slot.payableAmountCents = amount then [slot] else [] := by
  unfold OrderDb.line
  rw [List.filter_append]
  congr 1
  by_cases hline : slot.alipayAccountId = account ∧ slot.payableAmountCents = amount
  · rw [if_pos hline]; simp [hline]
  · rw [if_neg hline]; simpa using hline

/-- The numbering goes on without a gap. -/
theorem SlotInv.next_generation (h : SlotInv db) {slot : AmountSlot}
    (hgen : slot.generation =
      ((db.latestSlot slot.alipayAccountId slot.payableAmountCents).map (·.generation + 1)).getD 1) :
    slot.generation = 1 + (db.line slot.alipayAccountId slot.payableAmountCents).length := by
  rw [hgen]
  cases hl : db.latestSlot slot.alipayAccountId slot.payableAmountCents with
  | none => rw [latestSlot_eq_none.mp hl]; rfl
  | some latest =>
    rw [← h.latest_generation hl]
    exact Nat.add_comm latest.generation 1

theorem SlotInv.insertAmountSlot (slot : AmountSlot) : Preserves SlotInv (insertAmountSlot slot) := by
  intro db h u db' hx
  obtain ⟨hnone, ⟨o, ho, hopens⟩, hgen, hprev, rfl⟩ := insertAmountSlot_ok hx
  simp only [AmountSlot.opensFor, Bool.and_eq_true, decide_eq_true_eq] at hopens
  obtain ⟨⟨⟨⟨⟨hid, hprofile⟩, hamount⟩, haccount⟩, hstart⟩, hopen⟩ := hopens
  refine ⟨h.orderIds, h.rows, ?_, ?_, ?_⟩
  · intro s hs
    rcases List.mem_append.mp hs with hs | hs
    · exact h.linked s hs
    · obtain rfl := List.mem_singleton.mp hs
      have hclosed : o.closedAt = none := (o.rowChecks_open (h.rows o ho)).mp hopen
      exact ⟨o, ho, hid, haccount, hamount, hprofile, hstart, hnone.trans hclosed.symm⟩
  · rw [List.pairwise_append]
    refine ⟨h.spaced, List.pairwise_singleton _ _, ?_⟩
    intro s hs t ht
    obtain rfl := List.mem_singleton.mp ht
    exact h.precedes_new hgen hprev hs
  · intro account amount
    rw [line_append]
    by_cases hline : slot.alipayAccountId = account ∧ slot.payableAmountCents = amount
    · obtain ⟨rfl, rfl⟩ := hline
      rw [if_pos ⟨rfl, rfl⟩, List.map_append, h.generations, List.length_append, List.length_singleton,
        List.range'_concat, List.map_singleton, h.next_generation hgen, Nat.one_mul]
    · rw [if_neg hline, List.append_nil]
      exact h.generations account amount

/-! ## Every state of the store -/

theorem SlotInv.stable : Stable SlotInv where
  logicalNow r := by
    refine preserves_bind (preserves_readPhysicalTime r) fun _ => ?_
    refine preserves_bind (preserves_readWith _) fun _ => ?_
    refine preserves_bind (preserves_require _ _) fun _ => ?_
    refine preserves_bind (preserves_update fun db h => h.frame rfl rfl) fun _ => ?_
    exact preserves_bind (preserves_readWith _) fun _ => preserves_toSafeInteger _ _
  insertOrderEvent event := by
    refine preserves_bind (preserves_readWith _) fun _ => ?_
    refine preserves_bind (preserves_require _ _) fun _ => ?_
    refine preserves_bind (preserves_require _ _) fun _ => ?_
    exact preserves_update fun db h => h.frame rfl rfl
  endCheckout := SlotInv.endCheckout
  readOrRotateActiveCheckoutTokenKey now rotation material := by
    refine preserves_bind (preserves_readWith _) fun _ => ?_
    refine preserves_bind (preserves_orFail _ _) fun _ => ?_
    refine preserves_ite (preserves_pure _) ?_
    refine preserves_bind (preserves_require _ _) fun _ => ?_
    refine preserves_bind (preserves_require _ _) fun _ => ?_
    exact preserves_bind (preserves_update fun db h => h.frame rfl rfl) fun _ => preserves_pure _
  ensureApiClientIdentity client := preserves_update fun db h => h.frame rfl rfl
  insertPaymentOrder := SlotInv.insertPaymentOrder
  insertEpayOrder input orderId now := by
    unfold insertEpayOrder
    split
    · exact preserves_pure _
    · exact preserves_update fun db h => h.frame rfl rfl
  insertWebhookTarget input targetId orderId now := by
    unfold insertWebhookTarget
    split
    · exact preserves_pure _
    · exact preserves_update fun db h => h.frame rfl rfl
  insertCheckoutSession session := by
    refine preserves_bind (preserves_readWith _) fun _ => ?_
    refine preserves_bind (preserves_require _ _) fun _ => ?_
    refine preserves_bind (preserves_require _ _) fun _ => ?_
    refine preserves_bind (preserves_require _ _) fun _ => ?_
    exact preserves_update fun db h => h.frame rfl rfl
  insertAmountSlot := SlotInv.insertAmountSlot
  configure configuration db _ h := h.frame rfl rfl

/-! ## The spacing of the amount slots -/

/-- The attribution interval of a slot: from the creation of its order to the earlier of the order's
    expiry and the slot's release. -/
def OrderDb.attribution (db : OrderDb) (s : AmountSlot) : Set Nat :=
  match db.orderOf s with
  | none => ∅
  | some o => Set.Ico s.occupiedFrom (min o.expiresAt (s.releasedAt.getD o.expiresAt))

/-- The order of `s` ended, and its cooldown is over at `time`: an expired order counts from its
    expiry, a closed one from its close. -/
def ReusedAfter (o : PaymentOrder) (time : Nat) : Prop :=
  (o.checkoutStatus = .EXPIRED ∧ o.expiresAt + o.amountReuseCooldownSeconds * 1000 ≤ time) ∨
  (o.checkoutStatus = .CLOSED ∧ ∃ closed, o.closedAt = some closed ∧
    closed + o.amountReuseCooldownSeconds * 1000 ≤ time)

theorem PaymentOrder.reusedAfter {o : PaymentOrder} (h : o.rowChecks) (hc : o.closedAt ≠ none)
    {time : Nat} (ht : o.reusableAt ≤ time) : ReusedAfter o time := by
  obtain ⟨closed, hclosed⟩ := Option.ne_none_iff_exists'.mp hc
  unfold PaymentOrder.reusableAt PaymentOrder.endedAt at ht
  cases hs : o.checkoutStatus with
  | OPEN => exact absurd ((o.rowChecks_open h).mp hs) hc
  | EXPIRED => exact Or.inl ⟨hs, by simpa [hs] using ht⟩
  | CLOSED => exact Or.inr ⟨hs, closed, hclosed, by simpa [hs, hclosed] using ht⟩

/-- What preceding means for the two orders: the earlier one ended and cooled down, and so its
    attribution interval is over. -/
theorem SlotInv.spaced_of_precedes (h : SlotInv db) {s t : AmountSlot} (hs : s ∈ db.slots)
    (hline : SameLine s t) (hst : Precedes db.orders s t) :
    ∃ o ∈ db.orders, db.orderOf s = some o ∧ Linked s o ∧ o.closedAt ≠ none ∧
      o.reusableAt ≤ t.occupiedFrom ∧ s.occupiedFrom < o.reusableAt := by
  obtain ⟨-, o', ho', hid', hc, hr⟩ := hst hline
  obtain ⟨o, ho, hof, hlink⟩ := h.orderOf hs
  obtain rfl := h.unique ho' ho (hid'.trans hlink.orderId.symm)
  obtain ⟨closed, hclosed⟩ := Option.ne_none_iff_exists'.mp hc
  refine ⟨o', ho, hof, hlink, hc, hr, ?_⟩
  rw [← hlink.start, (o'.rowChecks_created (h.rows o' ho)).1]
  exact o'.rowChecks_created_lt_reusable (h.rows o' ho) hclosed

theorem SlotInv.disjoint_of_precedes (h : SlotInv db) {s t : AmountSlot} (hs : s ∈ db.slots)
    (ht : t ∈ db.slots) (hline : SameLine s t) (hst : Precedes db.orders s t) :
    Disjoint (db.attribution s) (db.attribution t) := by
  obtain ⟨o, ho, hof, hlink, hc, hr, -⟩ := h.spaced_of_precedes hs hline hst
  obtain ⟨o', -, hof', -⟩ := h.orderOf ht
  obtain ⟨closed, hclosed⟩ := Option.ne_none_iff_exists'.mp hc
  -- the interval of `s` stops at the end of its order, before `t` starts
  have hend : min o.expiresAt (s.releasedAt.getD o.expiresAt) ≤ t.occupiedFrom := by
    rw [hlink.released, hclosed, Option.getD_some, (o.rowChecks_ended (h.rows o ho) hclosed).2]
    exact le_trans (Nat.le_add_right _ _) hr
  unfold OrderDb.attribution
  rw [hof, hof']
  refine Set.disjoint_left.mpr fun x hx hx' => ?_
  exact absurd (lt_of_lt_of_le hx.2 (hend.trans hx'.1)) (lt_irrefl x)

/-- What the slots of a store owe to its payers. -/
structure SlotsSpaced (db : OrderDb) : Prop where
  /-- two slots of one line are never attributed the same instant -/
  disjoint : ∀ s ∈ db.slots, ∀ t ∈ db.slots, s ≠ t → SameLine s t →
    Disjoint (db.attribution s) (db.attribution t)
  /-- the later of two slots waits for the end of the earlier order and for its cooldown -/
  cooledDown : ∀ s ∈ db.slots, ∀ t ∈ db.slots, s ≠ t → SameLine s t →
    s.occupiedFrom ≤ t.occupiedFrom → ∃ o, db.orderOf s = some o ∧ ReusedAfter o t.occupiedFrom
  generations : ∀ account amount, (db.line account amount).map (·.generation) =
    List.range' 1 (db.line account amount).length
  timeOrder : ∀ account amount,
    (db.line account amount).Pairwise fun s t => s.occupiedFrom < t.occupiedFrom
  unreleased : ∀ s ∈ db.slots, ∃ o, db.orderOf s = some o ∧
    (s.releasedAt = none ↔ o.checkoutStatus = .OPEN)

theorem SlotInv.slotsSpaced (h : SlotInv db) : SlotsSpaced db where
  disjoint s hs t ht hne hline := by
    rcases h.precedes_or hs ht hne with hst | hts
    · exact h.disjoint_of_precedes hs ht hline hst
    · exact (h.disjoint_of_precedes ht hs ⟨hline.1.symm, hline.2.symm⟩ hts).symm
  cooledDown s hs t ht hne hline hle := by
    rcases h.precedes_or hs ht hne with hst | hts
    · obtain ⟨o, ho, hof, -, hc, hr, -⟩ := h.spaced_of_precedes hs hline hst
      exact ⟨o, hof, o.reusedAfter (h.rows o ho) hc hr⟩
    · -- `t` precedes `s`, so it starts strictly earlier: the premise fails
      obtain ⟨o, -, -, -, -, hr, hlt⟩ :=
        h.spaced_of_precedes ht ⟨hline.1.symm, hline.2.symm⟩ hts
      omega
  generations := h.generations
  timeOrder account amount := by
    refine (h.spaced.sublist List.filter_sublist).imp_of_mem fun hs ht hst => ?_
    obtain ⟨hs, hsa, hsm⟩ := mem_line.mp hs
    obtain ⟨-, hta, htm⟩ := mem_line.mp ht
    obtain ⟨o, -, -, -, -, hr, hlt⟩ :=
      h.spaced_of_precedes hs ⟨hsa.trans hta.symm, hsm.trans htm.symm⟩ hst
    omega
  unreleased s hs := by
    obtain ⟨o, ho, hof, hlink⟩ := h.orderOf hs
    exact ⟨o, hof, by rw [hlink.released]; exact (o.rowChecks_open (h.rows o ho)).symm⟩

theorem SlotInv.reachable (pf : Platform) (hr : Runs.Reachable (orderStore pf) db) : SlotInv db :=
  (SlotInv.stable.kept pf).reachable (fun _ => SlotInv.empty) hr

/-- **Amount slots never collide.** In every state the order store can reach, whatever the physical
    clock did: two slots of one account and amount have disjoint attribution intervals, and the later
    one starts only after the order of the earlier one ended and cooled down; the generations of a
    line are `1, …, n` in time order; and a slot is unreleased exactly while its order is open. -/
theorem amount_slots_spaced (pf : Platform) (hr : Runs.Reachable (orderStore pf) db) :
    SlotsSpaced db :=
  (SlotInv.reachable pf hr).slotsSpaced

/-! ## A run: close, cool down, reuse -/

/-- A platform whose hashes are their inputs. -/
def samplePlatform : Platform where
  sha256 text := text
  hmacSha256 key message := key ++ message
  uuidText id := toString id
  canonicalUrl url := some url
  prepareWebhookTarget _ _ _ := none

def sampleProfile : CollectionProfile := ⟨7, "account", 1, "primary", some "key", "code", 0⟩

/-- An empty store with one collection profile. -/
def sampleStore : OrderDb where
  clock := 1000
  orders := []
  slots := []
  events := []
  checkouts := []
  webhookTargets := []
  epayOrders := []
  tokenKeys := [⟨1, "material", 0, none⟩]
  apiClients := []
  configuration := ⟨[sampleProfile], some 7, [], [], []⟩

/-- A request for one yuan, valid for five minutes, with one possible amount. -/
def sampleInput (key : String) (profiles : Option (List Uuid)) : CreateStoredOrderInput where
  epay := none
  apiClientId := "default"
  collectionProfileIds := profiles
  siteRevision := none
  request := ⟨key, key, 100, "product", none, none, none⟩
  idempotencyKeyDigest := key
  requestFingerprint := key
  ttlMilliseconds := 300000
  amountOffsetMaximumCents := 1
  amountReuseCooldownSeconds := some 60
  checkoutKeyRotationMilliseconds := 7776000000
  checkoutTerminalObservationMilliseconds := 86400000
  webhookTarget := none
  webhookTargetRejection := none
  returnUrl := none
  returnUrlRejection := none

def reading (physicalNow : Nat) : ClockReading := ⟨physicalNow, none⟩

/-- Create an order at 2 s, close it at 3 s, and ask for the same amount at 63 s. -/
def reuseRun : List OrderOp :=
  [.createOrder (sampleInput "a" none) ⟨11, 12, 13, 14, "m"⟩ none (reading 2000),
   .closeOrder "default" 11 (reading 3000),
   .createOrder (sampleInput "b" none) ⟨21, 22, 23, 24, "m"⟩ none (reading 63000)]

/-- The store after a list of calls. -/
def runOps (pf : Platform) (db : OrderDb) (ops : List OrderOp) : OrderDb :=
  ops.foldl (fun db op => committed (op.run pf) db) db

theorem reachable_runOps (pf : Platform) (h : OrderDb.Empty db) (ops : List OrderOp) :
    Runs.Reachable (orderStore pf) (runOps pf db ops) :=
  Runs.Reachable.foldl (fun _ _ => rfl) ops ⟨[], .start h⟩

/-- The amount comes back as generation 2, and the two slots are spaced. -/
theorem amount_slots_spaced_reuse :
    (runOps samplePlatform sampleStore reuseRun).slots.map (·.generation) = [1, 2] ∧
      SlotsSpaced (runOps samplePlatform sampleStore reuseRun) :=
  ⟨by decide +kernel,
   amount_slots_spaced samplePlatform (reachable_runOps samplePlatform ⟨rfl, rfl, rfl, rfl, rfl, rfl⟩ reuseRun)⟩

end PerPay.Orders
