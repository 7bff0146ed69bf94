/-
  **From statements to operations** — an invariant that every writing STATEMENT of the order store
  keeps is kept by every operation, and so holds in every state the store can reach.

  The operations of `OrderStore` are long, but they write through eleven statements only.  `Stable I`
  lists them: it is the whole obligation for an invariant `I` that every single statement keeps.  An
  invariant that joins several tables, or that mentions the time of the operation, is restored only
  by the UNITS an operation runs: the expiry of an order, its close, and the rows of a new one.
  `Kept pf I At` is the obligation for those.  The lemmas below follow the operations from the inside
  out and never look at `I`.
-/
import PerPay.Orders.Effects

namespace PerPay.Orders

open Txn

/-- `Stable I` — every statement that writes the order tables keeps `I`. -/
structure Stable (I : OrderDb → Prop) : Prop where
  logicalNow : ∀ r, Preserves I (logicalNow r)
  insertOrderEvent : ∀ event, Preserves I (insertOrderEvent event)
  endCheckout : ∀ orderId guard status now action,
    Preserves I (endCheckout orderId guard status now action)
  readOrRotateActiveCheckoutTokenKey : ∀ now rotation material,
    Preserves I (readOrRotateActiveCheckoutTokenKey now rotation material)
  ensureApiClientIdentity : ∀ client, Preserves I (ensureApiClientIdentity client)
  insertPaymentOrder : ∀ order, Preserves I (insertPaymentOrder order)
  insertEpayOrder : ∀ input orderId now, Preserves I (insertEpayOrder input orderId now)
  insertWebhookTarget : ∀ input targetId orderId now,
    Preserves I (insertWebhookTarget input targetId orderId now)
  insertCheckoutSession : ∀ session, Preserves I (insertCheckoutSession session)
  insertAmountSlot : ∀ slot, Preserves I (insertAmountSlot slot)
  configure : ∀ configuration db, db.configuration.extendedBy configuration → I db →
    I { db with configuration := configuration }

/-! ## Reads change nothing -/

section reads
variable {I : OrderDb → Prop} (pf : Platform)

theorem preserves_toSafeInteger (value : Nat) (label : String) :
    Preserves I (toSafeInteger value label : OrderTx Nat) :=
  preserves_bind (preserves_require _ _) fun _ => preserves_pure _

theorem preserves_assertPositiveSafeInteger (value : Nat) (label : String) :
    Preserves I (assertPositiveSafeInteger value label : OrderTx Unit) :=
  preserves_require _ _

theorem preserves_readPhysicalTime (r : ClockReading) :
    Preserves I (readPhysicalTime r : OrderTx Nat) :=
  preserves_bind (preserves_require _ _) fun _ =>
    preserves_bind (preserves_require _ _) fun _ => preserves_pure _

theorem preserves_mapWebhookTarget (order : PaymentOrder) (target : Option StoredWebhookTarget) :
    Preserves I (mapWebhookTarget pf order target) := by
  unfold mapWebhookTarget
  split
  · exact preserves_pure _
  · exact preserves_fail _
  · exact preserves_fail _
  · refine preserves_bind (preserves_orFail _ _) fun _ => ?_
    exact preserves_bind (preserves_require _ _) fun _ => preserves_pure _

theorem preserves_readAggregate (find : PaymentOrder → Bool) :
    Preserves I (readAggregate pf find) := by
  refine preserves_bind (preserves_readWith _) fun db => ?_
  split
  · exact preserves_pure _
  · split
    · refine preserves_bind (preserves_require _ _) fun _ => ?_
      refine preserves_bind (preserves_require _ _) fun _ => ?_
      exact preserves_bind (preserves_mapWebhookTarget pf _ _) fun _ => preserves_pure _
    · exact preserves_pure _

theorem preserves_readAggregateByNamespaces (client key : String) :
    ∀ namespaces, Preserves I (readAggregateByNamespaces pf client key namespaces)
  | [] => preserves_pure _
  | _ :: rest => by
    refine preserves_bind (preserves_readAggregate pf _) fun found => ?_
    cases found with
    | some a => exact preserves_pure _
    | none => exact preserves_readAggregateByNamespaces client key rest

theorem preserves_readAggregateByLegacyIdempotencyKey (client key : String) :
    Preserves I (readAggregateByLegacyIdempotencyKey pf client key) :=
  preserves_bind (preserves_readWith _) fun _ => preserves_readAggregateByNamespaces pf client key _

theorem preserves_readAggregateByTokenDigest (digest : String) :
    Preserves I (readAggregateByTokenDigest pf digest) := by
  refine preserves_bind (preserves_readWith _) fun checkouts => ?_
  split
  · exact preserves_pure _
  · exact preserves_readAggregate pf _

theorem preserves_withCheckoutToken (a : Aggregate) : Preserves I (withCheckoutToken pf a) := by
  refine preserves_bind (preserves_readWith _) fun _ => ?_
  refine preserves_bind (preserves_orFail _ _) fun _ => ?_
  exact preserves_bind (preserves_require _ _) fun _ => preserves_pure _

theorem preserves_withOptionalToken (a : Option Aggregate) :
    Preserves I (withOptionalToken pf a) := by
  cases a with
  | none => exact preserves_pure _
  | some a => exact preserves_bind (preserves_withCheckoutToken pf a) fun _ => preserves_pure _

theorem preserves_isTerminalCheckoutObservable (a : Aggregate) (now : Nat) :
    Preserves I (isTerminalCheckoutObservable a now) :=
  preserves_bind (preserves_orFail _ _) fun _ => preserves_pure _

theorem preserves_validateWebhookTargetInput (input : CreateStoredOrderInput) :
    Preserves I (validateWebhookTargetInput pf input) := by
  refine preserves_bind (preserves_require _ _) fun _ => ?_
  split
  · exact preserves_pure _
  · exact preserves_fail _
  · exact preserves_require _ _
  · exact preserves_fail _
  · exact preserves_require _ _

theorem preserves_validateReturnUrlInput (input : CreateStoredOrderInput) :
    Preserves I (validateReturnUrlInput pf input) := by
  refine preserves_bind (preserves_require _ _) fun _ => ?_
  split
  · exact preserves_pure _
  · exact preserves_fail _
  · exact preserves_require _ _
  · exact preserves_fail _
  · exact preserves_bind (preserves_orFail _ _) fun _ => preserves_require _ _

theorem preserves_assertSiteCanCreate (client : String) (now : Nat) :
    Preserves I (assertSiteCanCreate client now) := by
  refine preserves_bind (preserves_readWith _) fun _ => ?_
  refine preserves_bind (preserves_orFail _ _) fun site => ?_
  refine preserves_bind (preserves_require _ _) fun _ => ?_
  split
  · exact preserves_pure _
  · exact preserves_require _ _

theorem preserves_assertSiteRevision (input : CreateStoredOrderInput) (now : Nat) :
    Preserves I (assertSiteRevision input now) := by
  unfold assertSiteRevision
  split
  · exact preserves_pure _
  · refine preserves_bind (preserves_readWith _) fun _ => ?_
    exact preserves_bind (preserves_require _ _) fun _ => preserves_assertSiteCanCreate _ _

theorem preserves_assertEpayConfiguration (input : CreateStoredOrderInput) :
    Preserves I (assertEpayConfiguration input) := by
  unfold assertEpayConfiguration
  split
  · exact preserves_pure _
  · exact preserves_bind (preserves_readWith _) fun _ => preserves_require _ _

theorem preserves_readProfiles (ids : Option (List Uuid)) : Preserves I (readProfiles ids) :=
  preserves_bind (preserves_readWith _) fun _ =>
    preserves_bind (preserves_require _ _) fun _ => preserves_pure _

theorem preserves_amountReuseAvailableAt (endedAt cooldown : Nat) :
    Preserves I (amountReuseAvailableAt endedAt cooldown) :=
  preserves_bind (preserves_require _ _) fun _ => preserves_pure _

theorem preserves_latestAvailability (account : String) (amount now : Nat) :
    Preserves I (latestAvailability account amount now) := by
  refine preserves_bind (preserves_readWith _) fun db => ?_
  split
  · exact preserves_pure _
  · refine preserves_bind (preserves_orFail _ _) fun _ => ?_
    refine preserves_bind (preserves_orFail _ _) fun _ => ?_
    refine preserves_bind (preserves_require _ _) fun _ => ?_
    refine preserves_bind (preserves_amountReuseAvailableAt _ _) fun _ => ?_
    refine preserves_ite (preserves_pure _) ?_
    exact preserves_bind (preserves_require _ _) fun _ => preserves_pure _

theorem preserves_allocationExhausted (earliest : Option Nat) (now : Nat) :
    Preserves I (allocationExhausted earliest now) :=
  preserves_bind (preserves_orFail _ _) fun _ =>
    preserves_bind (preserves_require _ _) fun _ => preserves_pure _

theorem preserves_isObservable (a : Aggregate) (now : Nat) : Preserves I (isObservable a now) :=
  preserves_ite (preserves_pure _) (preserves_isTerminalCheckoutObservable a now)

theorem preserves_publicLookup (digest : String) (r : ClockReading) :
    Preserves I (publicLookup pf digest r) := by
  refine preserves_bind (preserves_readAggregateByTokenDigest pf _) fun found => ?_
  cases found with
  | none => exact preserves_pure _
  | some a =>
    refine preserves_bind (preserves_readWith _) fun last => ?_
    refine preserves_bind (preserves_isObservable a last) fun observable => ?_
    refine preserves_ite (preserves_pure _) ?_
    refine preserves_bind (preserves_readPhysicalTime r) fun _ => ?_
    refine preserves_bind (preserves_require _ _) fun _ => ?_
    refine preserves_bind (preserves_isObservable a _) fun _ => ?_
    refine preserves_ite ?_ (preserves_ite (preserves_pure _) (preserves_pure _))
    exact preserves_bind (preserves_withCheckoutToken pf _) fun _ => preserves_pure _

end reads

/-! ## From the statements to the units -/

/-- What keeps `J` between two readings of the clock: the three groups of statements that an operation
    runs as a unit, at the time `now` that its clock reading returned.  A new order is inserted only when
    the end of its cooldown is a safe integer. -/
structure KeptAt (pf : Platform) (J : OrderDb → Prop) (now : Nat) : Prop where
  expireOrder : ∀ orderId, Preserves J (expireOrder orderId now)
  closeCheckout : ∀ client orderId order, Preserves J (closeCheckout client orderId order now)
  insertOrderRows : ∀ input rnd profile amount generation cooldown,
    isSafeInteger (now + input.ttlMilliseconds + cooldown * 1000) →
    Preserves J (insertOrderRows pf input rnd profile amount generation cooldown now)

/-- `Kept pf I At` — the whole obligation for an invariant `I` of the operations: reading the clock
    leads from `I` to `At now`, the units keep `At now`, and a change of the configuration keeps `I`. -/
structure Kept (pf : Platform) (I : OrderDb → Prop) (At : Nat → OrderDb → Prop) : Prop where
  logicalNow : ∀ r, Triple I (logicalNow r) At
  units : ∀ now, KeptAt pf (At now) now
  weaken : ∀ now db, At now db → I db
  configure : ∀ configuration db, db.configuration.extendedBy configuration → I db →
    I { db with configuration := configuration }

section units
variable {I : OrderDb → Prop} (pf : Platform) (h : Stable I)
include h

theorem preserves_expireOrder (orderId : Uuid) (now : Nat) : Preserves I (expireOrder orderId now) := by
  refine preserves_bind (preserves_readWith _) fun row => ?_
  cases row with
  | none => exact preserves_pure _
  | some order =>
    refine preserves_ite (preserves_pure _) ?_
    exact preserves_bind (h.endCheckout _ _ _ _ _) fun _ => h.insertOrderEvent _

theorem preserves_closeCheckout (client : String) (orderId : Uuid) (order : PaymentOrder) (now : Nat) :
    Preserves I (closeCheckout client orderId order now) :=
  preserves_ite (preserves_expireOrder h _ _)
    (preserves_bind (h.endCheckout _ _ _ _ _) fun _ => h.insertOrderEvent _)

theorem preserves_insertOrderRows (input : CreateStoredOrderInput) (rnd : CreateRandomness)
    (profile : CollectionProfile) (amount generation cooldown now : Nat) :
    Preserves I (insertOrderRows pf input rnd profile amount generation cooldown now) := by
  refine preserves_bind (h.readOrRotateActiveCheckoutTokenKey _ _ _) fun key => ?_
  refine preserves_bind (h.ensureApiClientIdentity _) fun _ => ?_
  refine preserves_bind (h.insertPaymentOrder _) fun _ => ?_
  refine preserves_bind (h.insertEpayOrder _ _ _) fun _ => ?_
  refine preserves_bind (h.insertWebhookTarget _ _ _ _) fun _ => ?_
  refine preserves_bind (h.insertCheckoutSession _) fun _ => ?_
  refine preserves_bind (h.insertAmountSlot _) fun _ => ?_
  refine preserves_bind (h.insertOrderEvent _) fun _ => ?_
  refine preserves_bind (preserves_readAggregate pf _) fun _ => ?_
  exact preserves_bind (preserves_orFail _ _) fun _ => preserves_pure _

/-- An invariant of the statements is one of the units, at every time. -/
theorem Stable.kept : Kept pf I (fun _ => I) where
  logicalNow := h.logicalNow
  units now :=
    { expireOrder := fun orderId => preserves_expireOrder h orderId now
      closeCheckout := fun client orderId order => preserves_closeCheckout h client orderId order now
      insertOrderRows := fun input rnd profile amount generation cooldown _ =>
        preserves_insertOrderRows pf h input rnd profile amount generation cooldown now }
  weaken _ _ hI := hI
  configure := h.configure

end units

/-- **Two ways to write.** Between two readings of the clock an order of the store ends, or a new one
    is inserted; what survives both is kept by every unit. -/
theorem KeptAt.of_steps {pf : Platform} {J : OrderDb → Prop} {now : Nat}
    (hends : ∀ {db db' : OrderDb} {order : PaymentOrder} {status : CheckoutStatus}, J db →
      CheckoutEnds order status now db db' → J db')
    (hinserted : ∀ {db db' : OrderDb} {input : CreateStoredOrderInput} {rnd : CreateRandomness}
      {profile : CollectionProfile} {amount generation cooldown : Nat} {key : CheckoutTokenKey}, J db →
      OrderInserted pf input rnd profile amount generation cooldown now key db db' → J db') :
    KeptAt pf J now where
  expireOrder orderId db hJ _ db' hx := by
    rcases expireOrder_ok hx with rfl | ⟨order, -, -, hends'⟩
    · exact hJ
    · exact hends hJ hends'
  closeCheckout client orderId order db hJ _ db' hx := by
    rcases closeCheckout_ok hx with rfl | ⟨order, status, -, hends'⟩
    · exact hJ
    · exact hends hJ hends'
  insertOrderRows input rnd profile amount generation cooldown _ db hJ result db' hx := by
    obtain ⟨key, hrows, -⟩ := insertOrderRows_ok hx
    exact hinserted hJ hrows

/-! ## From the units to the operations -/

section bodies
variable {J : OrderDb → Prop} {now : Nat} {pf : Platform} (h : KeptAt pf J now)
include h

theorem preserves_expireDueOrders (limit : Nat) : Preserves J (expireDueOrders now limit) :=
  preserves_bind (preserves_readWith _) fun rows => preserves_forEach h.expireOrder rows

theorem preserves_expireOrderByIdIfDue (client : String) (orderId : Uuid) :
    Preserves J (expireOrderByIdIfDue client orderId now) := by
  refine preserves_bind (preserves_readWith _) fun row => ?_
  cases row with
  | none => exact preserves_pure _
  | some order => exact preserves_ite (h.expireOrder orderId) (preserves_pure _)

theorem preserves_amountAvailability (account : String) (amount : Nat) :
    Preserves J (amountAvailability account amount now) := by
  refine preserves_bind (preserves_readWith _) fun row => ?_
  cases row with
  | none => exact preserves_latestAvailability _ _ _
  | some order =>
    refine preserves_ite ?_ ?_
    · exact preserves_bind (h.expireOrder _) fun _ => preserves_latestAvailability _ _ _
    · exact preserves_bind (preserves_amountReuseAvailableAt _ _) fun _ => preserves_pure _

theorem preserves_allocateFrom (account : String) (requested : Nat) :
    ∀ offsets earliest, Preserves J (allocateFrom account requested now offsets earliest)
  | [], earliest => preserves_allocationExhausted earliest now
  | offset :: offsets, earliest => by
    unfold allocateFrom
    refine preserves_ite (preserves_allocationExhausted _ _) ?_
    refine preserves_bind (preserves_amountAvailability h _ _) fun availability => ?_
    cases availability with
    | free generation => exact preserves_pure _
    | busyUntil availableAt => exact preserves_allocateFrom account requested offsets _

theorem preserves_selectProfile (requested maximumOffset : Nat) :
    ∀ profiles retryAfter, Preserves J (selectProfile requested maximumOffset now profiles retryAfter)
  | [], _ => preserves_pure _
  | profile :: profiles, retryAfter => by
    refine preserves_bind (preserves_allocateFrom h _ _ _ _) fun allocation => ?_
    cases allocation with
    | allocated amount generation => exact preserves_pure _
    | exhausted seconds => exact preserves_selectProfile requested maximumOffset profiles _

theorem preserves_expireIfDue {reread : OrderTx (Option Aggregate)} (hr : Preserves J reread)
    (message : String) (found : Aggregate) :
    Preserves J (expireIfDue reread message now found) := by
  refine preserves_ite ?_ (preserves_pure _)
  refine preserves_bind (h.expireOrder _) fun _ => ?_
  exact preserves_bind hr fun _ => preserves_orFail _ _

theorem preserves_replayOrder (input : CreateStoredOrderInput)
    {reread : OrderTx (Option Aggregate)} (hr : Preserves J reread) (message : String)
    (found : Aggregate) : Preserves J (replayOrder pf input now reread message found) := by
  refine preserves_bind (preserves_expireIfDue h hr _ _) fun current => ?_
  refine preserves_bind (preserves_readWith _) fun db => preserves_ite ?_ (preserves_pure _)
  exact preserves_bind (preserves_withCheckoutToken pf _) fun _ => preserves_pure _

theorem preserves_createFreshOrder (input : CreateStoredOrderInput) (rnd : CreateRandomness)
    (beforeCreate : Option Fault) (cooldown : Nat) :
    Preserves J (createFreshOrder pf input rnd beforeCreate cooldown now) := by
  refine preserves_bind (preserves_assertSiteRevision _ _) fun _ => ?_
  cases beforeCreate with
  | some fault => exact preserves_fail _
  | none =>
    refine preserves_bind (preserves_assertEpayConfiguration _) fun _ => ?_
    split
    · exact preserves_pure _
    · exact preserves_pure _
    · refine preserves_bind (preserves_readAggregate pf _) fun merchantOrder => ?_
      cases merchantOrder with
      | some a => exact preserves_pure _
      | none =>
        refine preserves_bind (preserves_readProfiles _) fun profiles => ?_
        refine preserves_bind (preserves_selectProfile h _ _ _ _) fun selected => ?_
        cases selected with
        | error seconds => exact preserves_pure _
        | ok allocation =>
          intro db hJ result db' hx
          obtain ⟨⟨-, -, hsafe⟩, hx⟩ := require_bind_ok.mp hx
          exact h.insertOrderRows _ _ _ _ _ _ hsafe db hJ result db' hx

end bodies

section operations
variable {I : OrderDb → Prop} {At : Nat → OrderDb → Prop} {pf : Platform} (h : Kept pf I At)
include h

/-- An operation reads the clock and goes on at the time it was given. -/
theorem Kept.after {α : Type} (r : ClockReading) {f : Nat → OrderTx α} (hf : ∀ now, Preserves (At now) (f now)) :
    Preserves I (Orders.logicalNow r >>= f) := by
  refine triple_bind (h.logicalNow r) fun now => ?_
  exact triple_conseq (hf now) (fun _ hm => hm) fun _ => h.weaken now

theorem preserves_createOrder (input : CreateStoredOrderInput) (rnd : CreateRandomness)
    (beforeCreate : Option Fault) (r : ClockReading) :
    Preserves I (createOrder pf input rnd beforeCreate r) := by
  refine preserves_bind (preserves_validateWebhookTargetInput pf _) fun _ => ?_
  refine preserves_bind (preserves_validateReturnUrlInput pf _) fun _ => ?_
  refine preserves_bind (preserves_require _ _) fun _ => ?_
  refine preserves_bind (preserves_assertPositiveSafeInteger _ _) fun _ => ?_
  refine preserves_bind (preserves_assertPositiveSafeInteger _ _) fun _ => ?_
  refine h.after r fun now => ?_
  refine preserves_bind (preserves_expireDueOrders (h.units now) _) fun _ => ?_
  refine preserves_bind (preserves_readAggregate pf _) fun idempotent => ?_
  cases idempotent with
  | some found => exact preserves_replayOrder (h.units now) _ (preserves_readAggregate pf _) _ found
  | none =>
    refine preserves_bind (preserves_readAggregateByLegacyIdempotencyKey pf _ _) fun migrated => ?_
    cases migrated with
    | some found =>
      exact preserves_replayOrder (h.units now) _
        (preserves_readAggregateByLegacyIdempotencyKey pf _ _) _ found
    | none => exact preserves_createFreshOrder (h.units now) _ _ _ _

theorem preserves_closeOrder (client : String) (orderId : Uuid) (r : ClockReading) :
    Preserves I (closeOrder pf client orderId r) := by
  refine h.after r fun now => ?_
  refine preserves_bind (preserves_readAggregate pf _) fun found => ?_
  cases found with
  | none => exact preserves_pure _
  | some found =>
    refine preserves_ite ?_ (preserves_withOptionalToken pf _)
    refine preserves_bind ((h.units now).closeCheckout _ _ _) fun _ => ?_
    refine preserves_bind (preserves_readAggregate pf _) fun _ => ?_
    exact preserves_bind (preserves_orFail _ _) fun _ => preserves_withOptionalToken pf _

theorem preserves_orderById (client : String) (orderId : Uuid) (r : ClockReading) :
    Preserves I (orderById pf client orderId r) := by
  refine h.after r fun now => ?_
  refine preserves_bind (preserves_expireOrderByIdIfDue (h.units now) _ _) fun _ => ?_
  exact preserves_bind (preserves_readAggregate pf _) fun _ => preserves_withOptionalToken pf _

theorem preserves_orderByMerchantOrderNumber (client no : String) (r : ClockReading) :
    Preserves I (orderByMerchantOrderNumber pf client no r) := by
  refine h.after r fun now => ?_
  refine preserves_bind (preserves_readAggregate pf _) fun found => ?_
  cases found with
  | none => exact preserves_pure _
  | some current =>
    refine preserves_bind (preserves_expireOrderByIdIfDue (h.units now) _ _) fun _ => ?_
    exact preserves_bind (preserves_readAggregate pf _) fun _ => preserves_withOptionalToken pf _

theorem preserves_adminOrderPage (select : OrderDb → Nat → List PaymentOrder) (r : ClockReading) :
    Preserves I (adminOrderPage select r) := by
  refine h.after r fun now => ?_
  refine preserves_bind (preserves_expireDueOrders (h.units now) _) fun _ => ?_
  refine preserves_bind (preserves_readWith _) fun rows => ?_
  refine preserves_bind (preserves_forEach (h.units now).expireOrder _) fun _ => ?_
  exact preserves_ite (preserves_pure _) (preserves_readWith _)

theorem preserves_adminOrderById (orderId : Uuid) (r : ClockReading) :
    Preserves I (adminOrderById pf orderId r) := by
  refine h.after r fun now => ?_
  refine preserves_bind (preserves_readAggregate pf _) fun found => ?_
  cases found with
  | none => exact preserves_pure _
  | some found =>
    refine preserves_bind (preserves_expireOrderByIdIfDue (h.units now) _ _) fun _ => ?_
    refine preserves_bind (preserves_readAggregate pf _) fun _ => ?_
    refine preserves_bind (preserves_orFail _ _) fun _ => ?_
    exact preserves_bind (preserves_readWith _) fun _ => preserves_pure _

theorem preserves_adminOrderByMerchantOrderNumber (client no : String) (r : ClockReading) :
    Preserves I (adminOrderByMerchantOrderNumber pf client no r) := by
  refine h.after r fun now => ?_
  refine preserves_bind (preserves_readAggregate pf _) fun found => ?_
  cases found with
  | none => exact preserves_pure _
  | some found =>
    refine preserves_bind (preserves_expireOrderByIdIfDue (h.units now) _ _) fun _ => ?_
    refine preserves_bind (preserves_readAggregate pf _) fun _ => ?_
    refine preserves_bind (preserves_orFail _ _) fun _ => ?_
    exact preserves_bind (preserves_readWith _) fun _ => preserves_pure _

theorem preserves_publicCheckoutByTokenDigest (digest : String) (r r' : ClockReading) :
    Preserves I (publicCheckoutByTokenDigest pf digest r r') := by
  refine preserves_bind (preserves_publicLookup pf digest r) fun lookup => ?_
  cases lookup
  case missing => exact preserves_pure _
  case current stored => exact preserves_pure _
  case terminal | expired =>
    refine h.after r' fun now => ?_
    refine preserves_bind (preserves_readAggregateByTokenDigest pf _) fun found => ?_
    cases found with
    | none => exact preserves_pure _
    | some found =>
      refine preserves_bind
        (preserves_expireIfDue (h.units now) (preserves_readAggregateByTokenDigest pf _) _ _) fun a => ?_
      refine preserves_bind (preserves_isObservable a _) fun _ => ?_
      exact preserves_ite (preserves_withOptionalToken pf _) (preserves_pure _)

theorem preserves_configure (configuration : Configuration) : Preserves I (configure configuration) := by
  intro db hI u db' hx
  unfold Orders.configure at hx
  simp only [readWith_bind_ok, require_bind_ok, update_ok, id] at hx
  obtain ⟨hext, rfl⟩ := hx
  exact h.configure configuration db hext hI

/-- **Every operation keeps it.** -/
theorem Kept.run (op : OrderOp) : Preserves I (op.run pf) := by
  cases op with
  | createOrder input rnd beforeCreate r =>
    exact preserves_ignoreResult (preserves_createOrder h input rnd beforeCreate r)
  | closeOrder client orderId r =>
    exact preserves_ignoreResult (preserves_closeOrder h client orderId r)
  | expireDueOrders limit r =>
    exact h.after r fun now => preserves_expireDueOrders (h.units now) limit
  | orderById client orderId r =>
    exact preserves_ignoreResult (preserves_orderById h client orderId r)
  | orderByMerchantOrderNumber client no r =>
    exact preserves_ignoreResult (preserves_orderByMerchantOrderNumber h client no r)
  | adminOrderPage select r =>
    exact preserves_ignoreResult (preserves_adminOrderPage h select r)
  | adminOrderById orderId r =>
    exact preserves_ignoreResult (preserves_adminOrderById h orderId r)
  | adminOrderByMerchantOrderNumber client no r =>
    exact preserves_ignoreResult (preserves_adminOrderByMerchantOrderNumber h client no r)
  | publicCheckoutByTokenDigest digest r r' =>
    exact preserves_ignoreResult (preserves_publicCheckoutByTokenDigest h digest r r')
  | configure configuration => exact preserves_configure h configuration

/-- **And so it holds in every state of the order store**, once it holds of an empty one. -/
theorem Kept.reachable (h0 : ∀ db, OrderDb.Empty db → I db) {db : OrderDb}
    (hr : Runs.Reachable (orderStore pf) db) : I db := by
  refine hr.invariant h0 ?_
  rintro db op db' hI rfl
  exact committed_of_preserves (h.run op) hI

/-- And along every path from a state in which it holds. -/
theorem Kept.path {db db' : OrderDb} {ops : List OrderOp} (hp : Runs.Path (orderStore pf) db ops db')
    (hI : I db) : I db' := by
  induction hp with
  | refl => exact hI
  | next _ hs ih =>
    subst hs
    exact committed_of_preserves (h.run _) ih

end operations

end PerPay.Orders
