/-
  **A dead checkout link stays dead** — a public lookup that found nothing for an ended order is the
  last word about that order.

  A public lookup first decides in a READ transaction, from the persisted clock and one reading of the
  physical clock, and only falls through to a WRITE when the observation window may be over or the
  checkout may be due.  The physical clock may be set back between two lookups, so an answer is final
  only if the persisted clock already says so:

  1. `publicCheckout_none`: every branch that answers "nothing" for an ended order leaves a persisted
     clock that is past the order's observation window;
  2. `publicCheckout_some`: every branch that answers with an ended order leaves a persisted clock
     that is not;
  3. `Evolves`: no operation moves the clock back, changes the end of an ended order, or touches a
     checkout session.
-/
import PerPay.Orders.Evolution
import PerPay.Orders.Slots

namespace PerPay.Orders

open Txn Table

variable {pf : Platform} {db db' : OrderDb}

/-! ## Reading by token -/

/-- An aggregate as the tables join it. -/
structure Joined (db : OrderDb) (a : Aggregate) : Prop where
  order : a.order ∈ db.orders
  checkout : a.checkout ∈ db.checkouts
  join : a.checkout.orderId = a.order.orderId

theorem readAggregate_joined {find : PaymentOrder → Bool} {a : Aggregate}
    (hx : readAggregate pf find db = .ok (some a, db')) : db = db' ∧ Joined db a := by
  obtain ⟨rfl, hf, hc, -⟩ := readAggregate_some hx
  exact ⟨rfl, List.mem_of_find?_eq_some hf, List.mem_of_find?_eq_some hc, by simpa using List.find?_some hc⟩

theorem readAggregateByTokenDigest_some {digest : String} {a : Aggregate}
    (hx : readAggregateByTokenDigest pf digest db = .ok (some a, db')) : db = db' ∧ Joined db a := by
  unfold readAggregateByTokenDigest at hx
  rw [readWith_bind_ok] at hx
  cases hf : db.checkouts.find? fun c => c.tokenDigest = digest with
  | none =>
    simp only [hf] at hx
    exact absurd (pure_ok.mp hx).1 (by simp)
  | some c =>
    simp only [hf] at hx
    exact readAggregate_joined hx

/-- Joins never come up empty: nothing is found only under a digest that no session carries. -/
theorem readAggregateByTokenDigest_none (h : KeyInv db) {digest : String}
    (hx : readAggregateByTokenDigest pf digest db = .ok (none, db')) :
    db = db' ∧ ∀ c ∈ db.checkouts, c.tokenDigest ≠ digest := by
  unfold readAggregateByTokenDigest at hx
  rw [readWith_bind_ok] at hx
  cases hf : db.checkouts.find? fun c => c.tokenDigest = digest with
  | none =>
    simp only [hf] at hx
    exact ⟨(pure_ok.mp hx).2, fun c hc hd => by simpa [hd] using List.find?_eq_none.mp hf c hc⟩
  | some c =>
    simp only [hf] at hx
    obtain ⟨-, hnone⟩ := readAggregate_none hx
    obtain ⟨o, ho, hid⟩ := h.orderOf c (List.mem_of_find?_eq_some hf)
    have hfound := h.orderIds.find?_eq ho
    simp only [hid] at hfound
    rcases hnone o hfound with hc | hp
    · have := List.find?_eq_none.mp hc c (List.mem_of_find?_eq_some hf)
      simp [hid] at this
    · exact absurd (h.profileOf o ho) (by simp [hp])

/-- Under a digest the tables name one session, and with it one order. -/
theorem KeyInv.readByToken (h : KeyInv db) {digest : String} {a : Aggregate}
    (hx : readAggregateByTokenDigest pf digest db = .ok (some a, db')) {c : CheckoutSession}
    (hc : c ∈ db.checkouts) (hd : c.tokenDigest = digest) {o : PaymentOrder} (ho : o ∈ db.orders)
    (hid : o.orderId = c.orderId) : a.order = o ∧ a.checkout = c := by
  have hfind := h.tokenDigests.find?_eq hc
  simp only [hd] at hfind
  unfold readAggregateByTokenDigest at hx
  simp only [readWith_bind_ok, hfind] at hx
  obtain ⟨-, horder, -, -⟩ := readAggregate_some hx
  obtain ⟨-, hjoined⟩ := readAggregate_joined hx
  have ha : a.order.orderId = c.orderId := by simpa using List.find?_some horder
  exact ⟨h.orderIds.eq hjoined.order ho (ha.trans hid.symm),
    h.checkoutOrders.eq hjoined.checkout hc (hjoined.join.trans ha)⟩

/-! ## One lookup -/

/-- The persisted clock is past the window in which the end of an order may be observed. -/
def Lapsed (clock : Nat) (o : PaymentOrder) (c : CheckoutSession) : Prop :=
  o.checkoutStatus ≠ .OPEN ∧ o.endedAt + c.terminalObservationMilliseconds ≤ clock

theorem isObservable_ok {a : Aggregate} {now : Nat} {observable : Bool}
    (hx : isObservable a now db = .ok (observable, db')) :
    db = db' ∧ (observable = false ↔ Lapsed now a.order a.checkout) := by
  unfold isObservable at hx
  by_cases hopen : a.order.checkoutStatus = .OPEN
  · rw [if_pos hopen, pure_ok] at hx
    obtain ⟨rfl, rfl⟩ := hx
    exact ⟨rfl, by simp [Lapsed, hopen]⟩
  · rw [if_neg hopen] at hx
    simp only [isTerminalCheckoutObservable, orFail_bind_ok, pure_ok] at hx
    obtain ⟨closed, hclosed, rfl, rfl⟩ := hx
    simp [Lapsed, PaymentOrder.endedAt, hopen, hclosed]

/-- What the read transaction decides: it answers "missing" for an order only when the persisted clock
    is past its window, and "current" only when it is not. -/
theorem publicLookup_ok (h : KeyInv db) {digest : String} {r : ClockReading} {lookup : PublicLookup}
    (hx : publicLookup pf digest r db = .ok (lookup, db')) :
    db = db' ∧
      (lookup = .missing → (∀ c ∈ db.checkouts, c.tokenDigest ≠ digest) ∨
        ∃ a, readAggregateByTokenDigest pf digest db = .ok (some a, db) ∧ Lapsed db.clock a.order a.checkout) ∧
      (∀ stored, lookup = .current stored → Joined db stored.aggregate ∧
        ¬ Lapsed db.clock stored.aggregate.order stored.aggregate.checkout) := by
  unfold publicLookup at hx
  obtain ⟨found, m, hfound, hx⟩ := bind_ok.mp hx
  cases found with
  | none =>
    obtain ⟨rfl, hnone⟩ := readAggregateByTokenDigest_none h hfound
    obtain ⟨rfl, rfl⟩ := pure_ok.mp hx
    exact ⟨rfl, fun _ => .inl hnone, fun _ hc => absurd hc (by simp)⟩
  | some a =>
    obtain ⟨rfl, hjoined⟩ := readAggregateByTokenDigest_some hfound
    simp only [readWith_bind_ok] at hx
    obtain ⟨observable, m, hobservable, hx⟩ := bind_ok.mp hx
    obtain ⟨rfl, hlapsed⟩ := isObservable_ok hobservable
    by_cases hfalse : observable = false
    · rw [if_pos hfalse, pure_ok] at hx
      obtain ⟨rfl, rfl⟩ := hx
      exact ⟨rfl, fun _ => .inr ⟨a, hfound, hlapsed.mp hfalse⟩, fun _ hc => absurd hc (by simp)⟩
    · rw [if_neg hfalse] at hx
      obtain ⟨physical, m, hphysical, hx⟩ := bind_ok.mp hx
      obtain ⟨-, -, rfl⟩ := readPhysicalTime_ok hphysical
      obtain ⟨-, hx⟩ := require_bind_ok.mp hx
      obtain ⟨observableNow, m, hnow, hx⟩ := bind_ok.mp hx
      obtain ⟨rfl, -⟩ := isObservable_ok hnow
      split at hx
      · obtain ⟨stored, m, hstored, hx⟩ := bind_ok.mp hx
        obtain ⟨rfl, rfl⟩ := withCheckoutToken_ok hstored
        obtain ⟨rfl, rfl⟩ := pure_ok.mp hx
        refine ⟨rfl, (fun hc => absurd hc (by simp)), fun s hs => ?_⟩
        obtain rfl := PublicLookup.current.inj hs
        exact ⟨hjoined, fun hl => hfalse (hlapsed.mpr hl)⟩
      · split at hx
        · obtain ⟨rfl, rfl⟩ := pure_ok.mp hx
          exact ⟨rfl, (fun hc => absurd hc (by simp)), fun _ hc => absurd hc (by simp)⟩
        · obtain ⟨rfl, rfl⟩ := pure_ok.mp hx
          exact ⟨rfl, (fun hc => absurd hc (by simp)), fun _ hc => absurd hc (by simp)⟩

/-- A due order is expired and read again: what comes back is what the tables hold now. -/
theorem expireIfDue_ok {reread : OrderTx (Option Aggregate)} {message : String} {now : Nat}
    {found a : Aggregate} (hread : ∀ s b s', reread s = .ok (b, s') → s = s')
    (hfound : reread db = .ok (some found, db))
    (hx : expireIfDue reread message now found db = .ok (a, db')) :
    reread db' = .ok (some a, db') ∧ (db' = db ∨
      ∃ order, order.expiresAt ≤ now ∧ CheckoutEnds order .EXPIRED now db db') := by
  unfold expireIfDue at hx
  split at hx
  · obtain ⟨_, m, hexpire, hx⟩ := bind_ok.mp hx
    obtain ⟨again, m', hagain, hx⟩ := bind_ok.mp hx
    obtain rfl := hread _ _ _ hagain
    obtain ⟨rfl, rfl⟩ := orFail_ok.mp hx
    refine ⟨hagain, ?_⟩
    rcases expireOrder_ok hexpire with h | ⟨order, -, hdue, hends⟩
    · exact .inl h
    · exact .inr ⟨order, hdue, hends⟩
  · obtain ⟨rfl, rfl⟩ := pure_ok.mp hx
    exact ⟨hfound, .inl rfl⟩

theorem readAggregateByTokenDigest_same {digest : String} {found : Option Aggregate}
    (hx : readAggregateByTokenDigest pf digest db = .ok (found, db')) : db = db' := by
  have hkeeps : Preserves (fun s => db = s) (readAggregateByTokenDigest pf digest) :=
    preserves_readAggregateByTokenDigest pf digest
  exact hkeeps db rfl found db' hx

/-- The write transaction of a public lookup: it answers with the order it read at the end, or with
    nothing, and either way the persisted clock decides. -/
theorem publicCheckout_write_ok (h : KeyInv db) {digest : String} {r' : ClockReading}
    {answer : Option StoredOrderAggregate}
    (hx : (do
      let now ← logicalNow r'
      match ← readAggregateByTokenDigest pf digest with
      | none => pure none
      | some found => do
        let a ← expireIfDue (readAggregateByTokenDigest pf digest)
          "expired checkout aggregate cannot be read" now found
        let observable ← isObservable a now
        if observable then withOptionalToken pf (some a) else pure none) db = .ok (answer, db')) :
    (answer = none → (∀ c ∈ db'.checkouts, c.tokenDigest ≠ digest) ∨
      ∃ a, readAggregateByTokenDigest pf digest db' = .ok (some a, db') ∧
        Lapsed db'.clock a.order a.checkout) ∧
    (∀ stored, answer = some stored → Joined db' stored.aggregate ∧
      ¬ Lapsed db'.clock stored.aggregate.order stored.aggregate.checkout) := by
  obtain ⟨now, m, hclock, hx⟩ := bind_ok.mp hx
  obtain ⟨-, -, -, rfl⟩ := logicalNow_ok hclock
  have hm : KeyInv { db with clock := now } :=
    h.rewrite (f := id) (fun _ _ => rfl) (List.map_id _).symm rfl rfl
  obtain ⟨found, m, hfound, hx⟩ := bind_ok.mp hx
  obtain rfl := readAggregateByTokenDigest_same hfound
  cases found with
  | none =>
    obtain ⟨-, hnone⟩ := readAggregateByTokenDigest_none hm hfound
    obtain ⟨rfl, rfl⟩ := pure_ok.mp hx
    exact ⟨fun _ => .inl hnone, fun _ hc => absurd hc (by simp)⟩
  | some found =>
    obtain ⟨a, m, ha, hx⟩ := bind_ok.mp hx
    obtain ⟨hread, hsteps⟩ := expireIfDue_ok (fun _ _ _ => readAggregateByTokenDigest_same) hfound ha
    have hnow : m.clock = now := by
      rcases hsteps with rfl | ⟨order, -, hends⟩
      · rfl
      · rw [hends.result]
    obtain ⟨observable, m', hobservable, hx⟩ := bind_ok.mp hx
    obtain ⟨rfl, hlapsed⟩ := isObservable_ok hobservable
    cases observable with
    | false =>
      obtain ⟨rfl, rfl⟩ := pure_ok.mp hx
      exact ⟨fun _ => .inr ⟨a, hread, hnow ▸ hlapsed.mp rfl⟩, fun _ hc => absurd hc (by simp)⟩
    | true =>
      obtain ⟨⟨stored, rfl, rfl⟩, rfl⟩ := withOptionalToken_ok hx
      refine ⟨(fun hc => absurd hc (by simp)), fun s hs => ?_⟩
      obtain rfl := Option.some.inj hs
      refine ⟨(readAggregateByTokenDigest_some hread).2, fun hl => ?_⟩
      rw [hnow, ← hlapsed] at hl
      cases hl

/-- **Nothing for an ended order** is answered only when the persisted clock has passed the order's
    observation window, on every branch. -/
theorem publicCheckout_none (h : KeyInv db) {digest : String} {r r' : ClockReading}
    (hx : publicCheckoutByTokenDigest pf digest r r' db = .ok (none, db')) :
    (∀ c ∈ db'.checkouts, c.tokenDigest ≠ digest) ∨
      ∃ a, readAggregateByTokenDigest pf digest db' = .ok (some a, db') ∧
        Lapsed db'.clock a.order a.checkout := by
  unfold publicCheckoutByTokenDigest at hx
  obtain ⟨lookup, m, hlookup, hx⟩ := bind_ok.mp hx
  obtain ⟨rfl, hmissing, -⟩ := publicLookup_ok h hlookup
  cases lookup with
  | missing =>
    obtain ⟨-, rfl⟩ := pure_ok.mp hx
    exact hmissing rfl
  | current stored => exact absurd (pure_ok.mp hx).1 (by simp)
  | terminal => exact (publicCheckout_write_ok h hx).1 rfl
  | expired => exact (publicCheckout_write_ok h hx).1 rfl

/-- **An order is answered** only when the persisted clock has not passed its observation window. -/
theorem publicCheckout_some (h : KeyInv db) {digest : String} {r r' : ClockReading}
    {stored : StoredOrderAggregate}
    (hx : publicCheckoutByTokenDigest pf digest r r' db = .ok (some stored, db')) :
    Joined db' stored.aggregate ∧
      ¬ Lapsed db'.clock stored.aggregate.order stored.aggregate.checkout := by
  unfold publicCheckoutByTokenDigest at hx
  obtain ⟨lookup, m, hlookup, hx⟩ := bind_ok.mp hx
  obtain ⟨rfl, -, hcurrent⟩ := publicLookup_ok h hlookup
  cases lookup with
  | missing => exact absurd (pure_ok.mp hx).1 (by simp)
  | current stored' =>
    obtain ⟨he, rfl⟩ := pure_ok.mp hx
    obtain rfl := Option.some.inj he
    exact hcurrent stored' rfl
  | terminal => exact (publicCheckout_write_ok h hx).2 stored rfl
  | expired => exact (publicCheckout_write_ok h hx).2 stored rfl

/-! ## Lookups over a run -/

/-- A lapsed order stays lapsed: its end and its session do not change, and the clock does not go
    back. -/
theorem Evolves.lapsed (h : Evolves db db') (hids : UniqueOn (·.orderId) db'.orders) {o o' : PaymentOrder}
    {c : CheckoutSession} (ho : o ∈ db.orders) (hended : o.closedAt ≠ none) (ho' : o' ∈ db'.orders)
    (hid : o'.orderId = o.orderId) (hl : Lapsed db.clock o c) : Lapsed db'.clock o' c := by
  obtain ⟨x, hx, hfrozen⟩ := h.orders o ho
  obtain rfl : x = o' := hids.eq hx ho' (hfrozen.orderId.trans hid.symm)
  obtain ⟨hclosed, hstatus⟩ := hfrozen.ending hended
  refine ⟨by rw [hstatus]; exact hl.1, ?_⟩
  have hend : x.endedAt = o.endedAt := by
    unfold PaymentOrder.endedAt
    rw [hclosed, hstatus, hfrozen.expiry]
  rw [hend]
  exact hl.2.trans h.clock

/-- The lookup itself, seen as one operation of the store. -/
theorem EvolvedFrom.publicCheckout {start : OrderDb} (h : EvolvedFrom start db) {digest : String}
    {r r' : ClockReading} {answer : Option StoredOrderAggregate}
    (hx : publicCheckoutByTokenDigest pf digest r r' db = .ok (answer, db')) : EvolvedFrom start db' :=
  preserves_publicCheckoutByTokenDigest (EvolvedFrom.kept pf start) digest r r' db h answer db' hx

/-- What is said about the links of a store that has reached `db`. -/
structure DeadLinksStayDead (pf : Platform) (db : OrderDb) : Prop where
  /-- a lookup answers "nothing" for an ended order; whatever happens next, no lookup answers with
      that order again -/
  neverAgain : ∀ {digest r r' db₁}, publicCheckoutByTokenDigest pf digest r r' db = .ok (none, db₁) →
    ∀ c ∈ db₁.checkouts, c.tokenDigest = digest →
    ∀ o ∈ db₁.orders, o.orderId = c.orderId → o.checkoutStatus ≠ .OPEN →
    ∀ {ops db₂}, Runs.Path (orderStore pf) db₁ ops db₂ →
    ∀ {digest' s s' stored db₃},
      publicCheckoutByTokenDigest pf digest' s s' db₂ = .ok (some stored, db₃) →
      stored.aggregate.order.orderId ≠ o.orderId
  /-- an order is committed as expired or closed; whatever happens next, no lookup shows it open -/
  neverReopened : ∀ o ∈ db.orders, o.checkoutStatus ≠ .OPEN →
    ∀ {ops db₁}, Runs.Path (orderStore pf) db ops db₁ →
    ∀ {digest s s' stored db₂},
      publicCheckoutByTokenDigest pf digest s s' db₁ = .ok (some stored, db₂) →
      stored.aggregate.order.orderId = o.orderId → stored.aggregate.order.checkoutStatus = o.checkoutStatus

/-- **A dead checkout link stays dead**, in every state the order store can reach, after every sequence
    of operations, for every token and whatever the physical clock reads. -/
theorem dead_links_stay_dead (pf : Platform) (hr : Runs.Reachable (orderStore pf) db) :
    DeadLinksStayDead pf db where
  neverAgain := by
    intro digest r r' db₁ hnone c hc hdigest o ho hid hended ops db₂ hpath digest' s s' stored db₃ hagain hsame
    have hslots : SlotInv db₁ :=
      preserves_publicCheckoutByTokenDigest (SlotInv.stable.kept pf) digest r r' db
        (SlotInv.reachable pf hr) none db₁ hnone
    have hkeys : KeyInv db₁ := (EvolvedFrom.publicCheckout ⟨KeyInv.reachable hr, Evolves.refl db⟩ hnone).keys
    have hclosed : o.closedAt ≠ none := fun hc => hended ((o.rowChecks_open (hslots.rows o ho)).mpr hc)
    -- the first lookup left a clock past the window of this very order
    have hlapsed : Lapsed db₁.clock o c := by
      rcases publicCheckout_none (KeyInv.reachable hr) hnone with hno | ⟨a, hread, hl⟩
      · exact absurd hdigest (hno c hc)
      · obtain ⟨horder, hcheckout⟩ := hkeys.readByToken hread hc hdigest ho hid
        rwa [horder, hcheckout] at hl
    -- the second one answers only with an order whose window is still open
    have hlater := Kept.path (EvolvedFrom.kept pf db₁) hpath ⟨hkeys, Evolves.refl db₁⟩
    have hafter := hlater.publicCheckout hagain
    obtain ⟨hjoined, hnot⟩ := publicCheckout_some hlater.keys hagain
    have hsession : stored.aggregate.checkout = c :=
      hafter.keys.checkoutOrders.eq hjoined.checkout (hafter.evolves.checkouts c hc)
        (hjoined.join.trans (hsame.trans hid))
    refine hnot ?_
    rw [hsession]
    exact hafter.evolves.lapsed hafter.keys.orderIds ho hclosed hjoined.order hsame hlapsed
  neverReopened := by
    intro o ho hended ops db₁ hpath digest s s' stored db₂ hagain hsame
    have hclosed : o.closedAt ≠ none :=
      fun hc => hended ((o.rowChecks_open ((SlotInv.reachable pf hr).rows o ho)).mpr hc)
    have hlater := Kept.path (EvolvedFrom.kept pf db) hpath ⟨KeyInv.reachable hr, Evolves.refl db⟩
    have hafter := hlater.publicCheckout hagain
    obtain ⟨hjoined, -⟩ := publicCheckout_some hlater.keys hagain
    obtain ⟨o', ho', hfrozen⟩ := hafter.evolves.orders o ho
    obtain rfl : o' = stored.aggregate.order :=
      hafter.keys.orderIds.eq ho' hjoined.order (hfrozen.orderId.trans hsame.symm)
    exact (hfrozen.ending hclosed).2

/-! ## A run: an order expires unseen, and its link is opened too late -/

/-- One order, created at 2 s for five minutes, with one day of observation. -/
def openLink : OrderDb :=
  runOps samplePlatform sampleStore [.createOrder (sampleInput "a" none) ⟨11, 12, 13, 14, "m"⟩ none (reading 2000)]

def openLinkDigest : String := digestCheckoutToken samplePlatform (deriveCheckoutToken samplePlatform "material" 12)

/-- The status a lookup shows, if it shows anything. -/
def shownStatus (db : OrderDb) (digest : String) (now : Nat) : Option CheckoutStatus :=
  match publicCheckoutByTokenDigest samplePlatform digest (reading now) (reading now) db with
  | .ok (some stored, _) => some stored.aggregate.order.checkoutStatus
  | _ => none

/-- The link shows its order until the day after the expiry; opened then for the first time it expires
    the order and shows nothing, and setting the clock back by five minutes does not revive it. -/
theorem dead_links_stay_dead_sample :
    shownStatus openLink openLinkDigest 86701999 = some .EXPIRED ∧
      shownStatus openLink openLinkDigest 86702000 = none ∧
      shownStatus (runOps samplePlatform openLink
        [.publicCheckoutByTokenDigest openLinkDigest (reading 86702000) (reading 86702000)])
        openLinkDigest 86402000 = none ∧
      DeadLinksStayDead samplePlatform openLink :=
  ⟨by decide +kernel, by decide +kernel, by decide +kernel,
   dead_links_stay_dead samplePlatform
    (reachable_runOps samplePlatform ⟨rfl, rfl, rfl, rfl, rfl, rfl⟩ _)⟩

end PerPay.Orders
