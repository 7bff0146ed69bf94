/-
  **What `createOrder` gives out** — an order with an amount, or the seconds after which there is one.

  The call reads the clock, sweeps due orders, answers replays, and only then tries the profiles.  Nothing
  before the profiles moves a hold, so what the two loops say about the tables they see is true of the
  tables that the call started from, at the time `OrderDb.timeAt` that the order clock has for the call.

  1. **The errors** (`refuses_createOrder`): the loops never find a slot that is detached from its order, an
     ended order that has not ended, or an exhausted account without a time to wait for.
  2. **The result** (`createOrder_selects`): the amount of a new order is the smallest one available on the
     first profile that has one; an exhausted call has none on any, and says how long that lasts.
  3. **The retry** (`exhausted_retry`): until then only a creation can move a hold to a later time, and the
     profiles keep their accounts, so a call at or after the time that was named is not exhausted.
-/
import PerPay.Lib.Refusals
import PerPay.Orders.Allocation

namespace PerPay.Orders

open Txn Table

variable {pf : Platform} {db db' db'' : OrderDb} {input : CreateStoredOrderInput}

/-! ## The time and the profiles of a call -/

/-- The time of a call on the order clock, which never moves back. -/
def OrderDb.timeAt (db : OrderDb) (r : ClockReading) : Nat := max db.clock r.physicalNow.toNat

theorem logicalNow_at {r : ClockReading} {now : Nat} (hx : logicalNow r db = .ok (now, db')) :
    now = db.timeAt r ∧ now ≤ maxSafeInteger ∧ db' = { db with clock := now } := by
  obtain ⟨-, hsafe, -, hdb'⟩ := logicalNow_ok hx
  unfold logicalNow at hx
  obtain ⟨physical, m, hphysical, hx⟩ := bind_ok.mp hx
  obtain ⟨hr, -, rfl⟩ := readPhysicalTime_ok hphysical
  simp only [readWith_bind_ok, require_bind_ok, update_bind_ok] at hx
  obtain ⟨rfl, -, -⟩ := toSafeInteger_ok hx.2
  refine ⟨?_, hsafe, hdb'⟩
  unfold OrderDb.timeAt
  rw [hr]
  rfl

/-- The profiles an order may be collected by, as far as they exist. -/
def OrderDb.collectors (db : OrderDb) (collectionProfileIds : Option (List Uuid)) : List CollectionProfile :=
  match collectionProfileIds with
  | none => (db.configuration.activeProfileId.bind db.profile).toList
  | some ids => ids.filterMap db.profile

theorem readProfiles_ok {ids : Option (List Uuid)} {profiles : List CollectionProfile}
    (hx : readProfiles ids db = .ok (profiles, db')) : profiles = db.collectors ids ∧ profiles ≠ [] ∧ db' = db := by
  unfold readProfiles at hx
  simp only [readWith_bind_ok, require_bind_ok, pure_ok, id] at hx
  obtain ⟨⟨hne, hall⟩, rfl, rfl⟩ := hx
  refine ⟨?_, ?_, rfl⟩
  · unfold OrderDb.collectors
    cases ids with
    | none => cases db.configuration.activeProfileId.bind db.profile <;> rfl
    | some ids =>
      show (ids.map db.profile).filterMap id = _
      rw [List.filterMap_map]
      rfl
  · intro hnil
    obtain ⟨first, rest, hlist⟩ := List.exists_cons_of_ne_nil hne
    rw [hlist] at hall hnil
    obtain ⟨p, hp⟩ := Option.isSome_iff_exists.mp (List.all_eq_true.mp hall first List.mem_cons_self)
    rw [List.filterMap_cons, hp] at hnil
    exact absurd hnil (List.cons_ne_nil _ _)

/-! ## The errors -/

/-- The errors of the two loops, each about tables that cannot be. -/
@[simp] def allocationErrors : List Fault :=
  [.error "active amount slot is detached from its open order",
   .error "released amount slot has no terminal order",
   .error "amount slot generation is outside the safe integer range",
   .error "amount reuse time is outside the safe integer range",
   .error "exhausted amount slots have no future release time"]

/-- Not one of them. -/
@[simp] def Ordinary (e : Fault) : Prop := e ∉ allocationErrors

section refusals
variable {P : OrderDb → Prop} (pf : Platform)

theorem refuses_readPhysicalTime (r : ClockReading) : Refuses P (readPhysicalTime r : OrderTx Nat) Ordinary :=
  refuses_require_next (by simp) (refuses_require_next (by simp) (refuses_pure _))

theorem refuses_logicalNow (r : ClockReading) : Refuses P (logicalNow r) Ordinary := by
  refine refuses_then (refuses_readPhysicalTime r) fun physical => ?_
  refine refuses_readWith_next fun last => refuses_require_next (by simp) ?_
  refine refuses_then (refuses_update _) fun _ => refuses_readWith_next fun now => ?_
  exact refuses_require_next (by simp) (refuses_pure _)

theorem refuses_mapWebhookTarget (order : PaymentOrder) (target : Option StoredWebhookTarget) :
    Refuses P (mapWebhookTarget pf order target) Ordinary := by
  unfold mapWebhookTarget
  split
  · exact refuses_pure _
  · exact refuses_fail (by simp)
  · exact refuses_fail (by simp)
  · exact refuses_orFail_next (by simp) fun _ => refuses_require_next (by simp) (refuses_pure _)

theorem refuses_readAggregate (find : PaymentOrder → Bool) : Refuses P (readAggregate pf find) Ordinary := by
  refine refuses_readWith_next fun db => ?_
  split
  · exact refuses_pure _
  · split
    · refine refuses_require_next (by simp) (refuses_require_next (by simp) ?_)
      exact refuses_then (refuses_mapWebhookTarget pf _ _) fun _ => refuses_pure _
    · exact refuses_pure _

theorem refuses_readAggregateByNamespaces (client key : String) :
    ∀ {P : OrderDb → Prop} (namespaces : List String),
      Refuses P (readAggregateByNamespaces pf client key namespaces) Ordinary
  | _, [] => refuses_pure _
  | _, _ :: rest => by
    refine refuses_then (refuses_readAggregate pf _) fun found => ?_
    cases found with
    | some a => exact refuses_pure _
    | none => exact refuses_readAggregateByNamespaces client key rest

theorem refuses_readAggregateByLegacyIdempotencyKey (client key : String) :
    Refuses P (readAggregateByLegacyIdempotencyKey pf client key) Ordinary :=
  refuses_readWith_next fun _ => refuses_readAggregateByNamespaces pf client key _

theorem refuses_withCheckoutToken (a : Aggregate) : Refuses P (withCheckoutToken pf a) Ordinary :=
  refuses_readWith_next fun _ => refuses_orFail_next (by simp) fun _ =>
    refuses_require_next (by simp) (refuses_pure _)

theorem refuses_validateWebhookTargetInput : Refuses P (validateWebhookTargetInput pf input) Ordinary := by
  refine refuses_require_next (by simp) ?_
  split
  · exact refuses_pure _
  · exact refuses_fail (by simp)
  · exact refuses_require (by simp)
  · exact refuses_fail (by simp)
  · exact refuses_require (by simp)

theorem refuses_validateReturnUrlInput : Refuses P (validateReturnUrlInput pf input) Ordinary := by
  refine refuses_require_next (by simp) ?_
  split
  · exact refuses_pure _
  · exact refuses_fail (by simp)
  · exact refuses_require (by simp)
  · exact refuses_fail (by simp)
  · exact refuses_orFail_next (by simp) fun _ => refuses_require (by simp)

theorem refuses_assertSiteRevision (now : Nat) : Refuses P (assertSiteRevision input now) Ordinary := by
  unfold assertSiteRevision
  split
  · exact refuses_pure _
  · refine refuses_readWith_next fun _ => refuses_require_next (by simp) ?_
    refine refuses_readWith_next fun _ => refuses_orFail_next (by simp) fun _ => refuses_require_next (by simp) ?_
    split
    · exact refuses_pure _
    · exact refuses_require (by simp)

theorem refuses_assertEpayConfiguration : Refuses P (assertEpayConfiguration input) Ordinary := by
  unfold assertEpayConfiguration
  split
  · exact refuses_pure _
  · exact refuses_readWith_next fun _ => refuses_require (by simp)

theorem refuses_readProfiles (ids : Option (List Uuid)) : Refuses P (readProfiles ids) Ordinary :=
  refuses_readWith_next fun _ => refuses_require_next (by simp) (refuses_pure _)

theorem refuses_readOrRotateActiveCheckoutTokenKey (now rotation : Nat) (material : String) :
    Refuses P (readOrRotateActiveCheckoutTokenKey now rotation material) Ordinary := by
  refine refuses_readWith_next fun _ => refuses_orFail_next (by simp) fun _ => refuses_ite (refuses_pure _) ?_
  refine refuses_require_next (by simp) (refuses_require_next (by simp) ?_)
  exact refuses_then (refuses_update _) fun _ => refuses_pure _

/-- The rows of a new order are refused by the tables, not by the loops. -/
theorem refuses_insertOrderRows (rnd : CreateRandomness) (profile : CollectionProfile)
    (amount generation cooldown now : Nat) :
    Refuses P (insertOrderRows pf input rnd profile amount generation cooldown now) Ordinary := by
  refine refuses_then (refuses_readOrRotateActiveCheckoutTokenKey _ _ _) fun key => ?_
  refine refuses_then (refuses_update _) fun _ => ?_
  refine refuses_then ?_ fun _ => refuses_then ?_ fun _ => refuses_then ?_ fun _ => refuses_then ?_ fun _ => ?_
  · refine refuses_readWith_next fun _ => refuses_require_next (by simp) (refuses_require_next (by simp) ?_)
    exact refuses_require_next (by simp) (refuses_update _)
  · unfold insertEpayOrder
    split
    · exact refuses_pure _
    · exact refuses_update _
  · unfold insertWebhookTarget
    split
    · exact refuses_pure _
    · exact refuses_update _
  · refine refuses_readWith_next fun _ => refuses_require_next (by simp) (refuses_require_next (by simp) ?_)
    exact refuses_require_next (by simp) (refuses_update _)
  refine refuses_then ?_ fun _ => refuses_then ?_ fun _ => ?_
  · refine refuses_readWith_next fun _ => refuses_require_next (by simp) (refuses_require_next (by simp) ?_)
    refine refuses_require_next (by simp) (refuses_require_next (by simp) ?_)
    exact refuses_require_next (by simp) (refuses_require_next (by simp) (refuses_update _))
  · refine refuses_readWith_next fun _ => refuses_require_next (by simp) (refuses_require_next (by simp) ?_)
    exact refuses_update _
  · refine refuses_then (refuses_readAggregate pf _) fun _ => ?_
    exact refuses_orFail_next (by simp) fun _ => refuses_pure _

end refusals

/-! ## The result -/

/-- What the answer to a creation says about the tables that the call started from. -/
def CreateStoredOrderResult.Answers (start : OrderDb) (input : CreateStoredOrderInput) (db' : OrderDb) :
    CreateStoredOrderResult → Prop
  | .created stored => ∃ profile generation,
      Selects start.holds start.clock (Payable input.request.amountCents input.amountOffsetMaximumCents)
        (start.collectors input.collectionProfileIds)
        (.ok (profile, stored.aggregate.order.payableAmountCents, generation)) ∧
      stored.aggregate.order.alipayAccountId = profile.alipayAccountId ∧
      stored.aggregate.order.collectionProfileId = profile.profileId
  | .amountSlotsExhausted seconds =>
      Selects start.holds start.clock (Payable input.request.amountCents input.amountOffsetMaximumCents)
        (start.collectors input.collectionProfileIds) (.error seconds) ∧ Expires start db'
  | _ => True

section answers
variable {start : OrderDb} (hclock : start.clock ≤ maxSafeInteger)
  (hrequested : input.request.amountCents ≤ maxRequestedAmountCents) (hoffset : 1 ≤ input.amountOffsetMaximumCents)
include hclock hrequested hoffset

/-- The loop over the profiles, run on tables in which some due orders have expired. -/
theorem selectProfile_selects {profiles : List CollectionProfile} (hany : profiles ≠ []) (m : OrderDb) (hm : Expires start m) :
    ∃ selected m', selectProfile input.request.amountCents input.amountOffsetMaximumCents start.clock profiles none m =
        .ok (selected, m') ∧ Expires start m' ∧
      Selects start.holds start.clock (Payable input.request.amountCents input.amountOffsetMaximumCents) profiles selected := by
  have hlimit : input.request.amountCents < maxPayableAmountCents := Nat.lt_succ_of_le hrequested
  obtain ⟨selected, m', hx, hexpires, hselects⟩ := AmountInv.selectFrom hlimit hoffset profiles []
    hm.inv (hm.clock ▸ hclock) hany (fun _ : none = none => rfl) nofun nofun
  rw [hm.clock] at hx
  rw [hm.holds, hm.clock] at hselects
  exact ⟨selected, m', hx, hm.trans hexpires, hselects⟩

theorem createFreshOrder_answers (rnd : CreateRandomness) (beforeCreate : Option Fault) (cooldown : Nat) :
    Triple (Expires start) (createFreshOrder pf input rnd beforeCreate cooldown start.clock)
      fun result db' => result.Answers start input db' := by
  refine triple_bind (preserves_assertSiteRevision _ _) fun _ => ?_
  cases beforeCreate with
  | some fault => exact triple_fail
  | none =>
    refine triple_bind (preserves_assertEpayConfiguration _) fun _ => ?_
    split
    · exact triple_pure fun _ _ => trivial
    · exact triple_pure fun _ _ => trivial
    · refine triple_bind (preserves_readAggregate pf _) fun merchantOrder => ?_
      cases merchantOrder with
      | some a => exact triple_pure fun _ _ => trivial
      | none =>
        intro m hm result db' hx
        obtain ⟨profiles, m1, hprofiles, hrest⟩ := bind_ok.mp hx
        obtain ⟨hcollectors, hany, rfl⟩ := readProfiles_ok hprofiles
        have hsame : m1.collectors input.collectionProfileIds = start.collectors input.collectionProfileIds := by
          unfold OrderDb.collectors OrderDb.profile
          rw [hm.configuration]
        obtain ⟨selected, m', hselect, hexpires, hselects⟩ :=
          selectProfile_selects hclock hrequested hoffset hany m1 hm
        rw [hcollectors, hsame] at hselects
        rw [bind_of_ok hselect] at hrest
        cases selected with
        | error seconds =>
          obtain ⟨rfl, rfl⟩ := pure_ok.mp hrest
          exact ⟨hselects, hexpires⟩
        | ok allocation =>
          obtain ⟨-, hinsert⟩ := require_bind_ok.mp hrest
          obtain ⟨key, -, a, rfl, horder, -⟩ := insertOrderRows_ok hinsert
          refine ⟨allocation.1, allocation.2.2, ?_, ?_, ?_⟩
          · show Selects _ _ _ _ (.ok (_, a.order.payableAmountCents, _))
            rw [horder]
            exact hselects
          · show a.order.alipayAccountId = _
            rw [horder]
            rfl
          · show a.order.collectionProfileId = _
            rw [horder]
            rfl

theorem refuses_createFreshOrder (rnd : CreateRandomness) (beforeCreate : Option Fault) (cooldown : Nat) :
    Refuses (Expires start) (createFreshOrder pf input rnd beforeCreate cooldown start.clock)
      fun e => beforeCreate = some e ∨ Ordinary e := by
  have hordinary : ∀ {α : Type} {P : OrderDb → Prop} {x : OrderTx α}, Refuses P x Ordinary →
      Refuses P x fun e => beforeCreate = some e ∨ Ordinary e := fun h s hs e hx => .inr (h s hs e hx)
  refine refuses_next (preserves_assertSiteRevision _ _) (hordinary (refuses_assertSiteRevision _)) fun _ => ?_
  cases beforeCreate with
  | some fault => exact refuses_fail (.inl rfl)
  | none =>
    refine refuses_next (preserves_assertEpayConfiguration _) (hordinary refuses_assertEpayConfiguration) fun _ => ?_
    split
    · exact refuses_pure _
    · exact refuses_pure _
    · refine refuses_next (preserves_readAggregate pf _) (hordinary (refuses_readAggregate pf _)) fun merchantOrder => ?_
      cases merchantOrder with
      | some a => exact refuses_pure _
      | none =>
        refine refuses_bind (hordinary (refuses_readProfiles _))
          (Q := fun profiles m => profiles ≠ [] ∧ Expires start m) ?_ fun profiles => ?_
        · rintro m hm profiles m' hx
          obtain ⟨-, hany, rfl⟩ := readProfiles_ok hx
          exact ⟨hany, hm⟩
        · refine refuses_then (refuses_of_ok ?_) fun selected => ?_
          · rintro m ⟨hany, hm⟩
            obtain ⟨selected, m', hx, -⟩ := selectProfile_selects hclock hrequested hoffset hany m hm
            exact ⟨selected, m', hx⟩
          · cases selected with
            | error seconds => exact refuses_pure _
            | ok allocation =>
              exact refuses_require_next (.inr (by simp)) (hordinary (refuses_insertOrderRows pf rnd _ _ _ _ _))

end answers

/-! ## Replays -/

section replays
variable {start : OrderDb} {reread : OrderTx (Option Aggregate)}

theorem replayOrder_answers (message : String) (found : Aggregate) :
    Triple (Expires start) (replayOrder pf input start.clock reread message found)
      fun result db' => result.Answers start input db' := by
  refine triple_bind (Q := fun _ _ => True) (fun _ _ _ _ _ => trivial) fun current => ?_
  refine triple_bind (preserves_readWith _) fun db => triple_ite (fun _ => ?_) fun _ => ?_
  · exact triple_bind (preserves_withCheckoutToken pf _) fun _ => triple_pure fun _ _ => trivial
  · exact triple_pure fun _ _ => trivial

theorem refuses_replayOrder (hrefuses : ∀ {P : OrderDb → Prop}, Refuses P reread Ordinary) {message : String}
    (hmessage : Ordinary (.error message)) (found : Aggregate) :
    Refuses (Expires start) (replayOrder pf input start.clock reread message found) Ordinary := by
  refine refuses_then ?_ fun current => ?_
  · refine refuses_ite ?_ (refuses_pure _)
    refine refuses_then (refuses_of_ok fun m hm => ?_) fun _ => ?_
    · obtain ⟨m', hx, -⟩ := hm.inv.expireOrder found.order.orderId
      exact ⟨(), m', hm.clock ▸ hx⟩
    · exact refuses_then hrefuses fun _ => refuses_orFail _ hmessage
  · refine refuses_readWith_next fun db => refuses_ite ?_ (refuses_pure _)
    exact refuses_then (refuses_withCheckoutToken pf _) fun _ => refuses_pure _

end replays

/-! ## The whole call -/

/-- The tables of a call when its clock has been read. -/
def OrderDb.calledAt (db : OrderDb) (r : ClockReading) : OrderDb := { db with clock := db.timeAt r }

theorem AmountInv.calledAt (h : AmountInv db) (r : ClockReading) : AmountInv (db.calledAt r) :=
  h.clocked (le_max_left _ _)

theorem triple_logicalNow (r : ClockReading) : Triple (fun m => m = db) (logicalNow r)
    fun now m => now = (db.calledAt r).clock ∧ now ≤ maxSafeInteger ∧ m = db.calledAt r := by
  rintro m rfl now m' hx
  obtain ⟨rfl, hsafe, rfl⟩ := logicalNow_at hx
  exact ⟨rfl, hsafe, rfl⟩

/-- Something known that is not about the store. -/
theorem triple_assume {α : Type} {c : Prop} {P : OrderDb → Prop} {x : OrderTx α} {Q : α → OrderDb → Prop}
    (h : c → Triple P x Q) : Triple (fun m => c ∧ P m) x Q :=
  fun s hs => h hs.1 s hs.2

theorem refuses_assume {α : Type} {c : Prop} {P : OrderDb → Prop} {x : OrderTx α} {E : Fault → Prop}
    (h : c → Refuses P x E) : Refuses (fun m => c ∧ P m) x E :=
  fun s hs => h hs.1 s hs.2

/-- The sweep at the start of a call expires what is due, and nothing else. -/
theorem triple_expireDueOrders {start : OrderDb} (hinv : AmountInv start) (limit : Nat) :
    Triple (fun m => m = start) (expireDueOrders start.clock limit) fun _ m => Expires start m := by
  rintro m rfl u m' hx
  obtain ⟨m'', hx', hexpires⟩ := hinv.expireDueOrders limit
  rw [hx'] at hx
  obtain ⟨-, rfl⟩ := Prod.mk.inj (Except.ok.inj hx)
  exact hexpires

section calls
variable (h : AmountInv db) (hrequested : input.request.amountCents ≤ maxRequestedAmountCents)
  (hoffset : 1 ≤ input.amountOffsetMaximumCents)
include h hrequested hoffset

/-- **The answer to a call** speaks of the tables that it started from, at the time of the call. -/
theorem createOrder_answers (rnd : CreateRandomness) (beforeCreate : Option Fault) (r : ClockReading) :
    Triple (fun m => m = db) (createOrder pf input rnd beforeCreate r)
      fun result db' => result.Answers (db.calledAt r) input db' := by
  refine triple_bind (preserves_validateWebhookTargetInput pf _) fun _ => ?_
  refine triple_bind (preserves_validateReturnUrlInput pf _) fun _ => ?_
  refine triple_bind (preserves_require _ _) fun _ => ?_
  refine triple_bind (preserves_assertPositiveSafeInteger _ _) fun _ => ?_
  refine triple_bind (preserves_assertPositiveSafeInteger _ _) fun _ => ?_
  refine triple_bind (triple_logicalNow r) fun now => triple_assume fun hnow => triple_assume fun hsafe => ?_
  subst hnow
  refine triple_bind (triple_expireDueOrders (h.calledAt r) _) fun _ => ?_
  refine triple_bind (preserves_readAggregate pf _) fun idempotent => ?_
  cases idempotent with
  | some found => exact replayOrder_answers _ found
  | none =>
    refine triple_bind (preserves_readAggregateByLegacyIdempotencyKey pf _ _) fun migrated => ?_
    cases migrated with
    | some found => exact replayOrder_answers _ found
    | none => exact createFreshOrder_answers hsafe hrequested hoffset rnd beforeCreate _

/-- **No call fails with an error of the loops.** -/
theorem refuses_createOrder (rnd : CreateRandomness) (beforeCreate : Option Fault) (r : ClockReading) :
    Refuses (fun m => m = db) (createOrder pf input rnd beforeCreate r)
      fun e => beforeCreate = some e ∨ Ordinary e := by
  have hordinary : ∀ {α : Type} {P : OrderDb → Prop} {x : OrderTx α}, Refuses P x Ordinary →
      Refuses P x fun e => beforeCreate = some e ∨ Ordinary e := fun h s hs e hx => .inr (h s hs e hx)
  refine refuses_next (preserves_validateWebhookTargetInput pf _) (hordinary (refuses_validateWebhookTargetInput pf)) fun _ => ?_
  refine refuses_next (preserves_validateReturnUrlInput pf _) (hordinary (refuses_validateReturnUrlInput pf)) fun _ => ?_
  refine refuses_require_next (.inr (by simp)) (refuses_require_next (.inr (by simp)) (refuses_require_next (.inr (by simp)) ?_))
  refine refuses_bind (hordinary (refuses_logicalNow r)) (triple_logicalNow r) fun now =>
    refuses_assume fun hnow => refuses_assume fun hsafe => ?_
  subst hnow
  refine refuses_bind (refuses_of_ok ?_) (triple_expireDueOrders (h.calledAt r) _) fun _ => ?_
  · rintro m rfl
    obtain ⟨m', hx, -⟩ := (h.calledAt r).expireDueOrders expirySweepLimit
    exact ⟨(), m', hx⟩
  refine refuses_next (preserves_readAggregate pf _) (hordinary (refuses_readAggregate pf _)) fun idempotent => ?_
  cases idempotent with
  | some found =>
    exact hordinary (refuses_replayOrder (refuses_readAggregate pf _) (by simp) found)
  | none =>
    refine refuses_next (preserves_readAggregateByLegacyIdempotencyKey pf _ _)
      (hordinary (refuses_readAggregateByLegacyIdempotencyKey pf _ _)) fun migrated => ?_
    cases migrated with
    | some found =>
      exact hordinary (refuses_replayOrder (refuses_readAggregateByLegacyIdempotencyKey pf _ _) (by simp) found)
    | none => exact refuses_createFreshOrder hsafe hrequested hoffset rnd beforeCreate _

end calls

/-! ## Calling again -/

/-- No profile loses its account. -/
def AccountsKept (db db' : OrderDb) : Prop :=
  ∀ id p, db.profile id = some p → ∃ p', db'.profile id = some p' ∧ p'.alipayAccountId = p.alipayAccountId

theorem AccountsKept.configured {configuration : Configuration} (h : db.configuration.extendedBy configuration) :
    AccountsKept db { db with configuration := configuration } := by
  intro id p hp
  simp only [Configuration.extendedBy, Bool.and_eq_true, List.all_eq_true] at h
  have hid : p.profileId = id := by simpa using List.find?_some hp
  have hkept := h.1 p (List.mem_of_find?_eq_some hp)
  rw [hid] at hkept
  cases hf : configuration.profiles.find? fun p' => p'.profileId = id with
  | none => simp [hf] at hkept
  | some p' =>
    simp only [hf, Option.any_some, CollectionProfile.keptBy, Bool.and_eq_true, decide_eq_true_eq] at hkept
    exact ⟨p', hf, by rw [← hkept.1]⟩

theorem AccountsKept.of_steps (h : Relation.ReflTransGen (OrderStep pf) db db') : AccountsKept db db' := by
  induction h with
  | refl => exact fun id p hp => ⟨p, hp, rfl⟩
  | tail _ hstep ih =>
    rename_i m m' _
    have hstep' : AccountsKept m m' := by
      cases hstep with
      | clock now hle hsafe => exact fun id p hp => ⟨p, hp, rfl⟩
      | ends order status hends =>
        intro id p hp
        unfold OrderDb.profile at *
        exact ⟨p, by rw [hends.result]; exact hp, rfl⟩
      | inserted input rnd profile amount generation cooldown key hrows =>
        intro id p hp
        unfold OrderDb.profile at *
        exact ⟨p, by rw [hrows.configuration]; exact hp, rfl⟩
      | configured configuration hext => exact .configured hext
    intro id p hp
    obtain ⟨p', hp', haccount⟩ := ih id p hp
    obtain ⟨p'', hp'', haccount'⟩ := hstep' id p' hp'
    exact ⟨p'', hp'', haccount'.trans haccount⟩

/-- The accounts that are tried stay the same. -/
theorem AccountsKept.collectors (h : AccountsKept db db') {ids : Option (List Uuid)}
    (hactive : ids = none → db'.configuration.activeProfileId = db.configuration.activeProfileId)
    {p : CollectionProfile} (hp : p ∈ db.collectors ids) :
    ∃ p' ∈ db'.collectors ids, p'.alipayAccountId = p.alipayAccountId := by
  unfold OrderDb.collectors at *
  cases ids with
  | none =>
    obtain ⟨id, hid, hprofile⟩ := Option.bind_eq_some_iff.mp (Option.mem_toList.mp hp)
    obtain ⟨p', hp', haccount⟩ := h id p hprofile
    refine ⟨p', Option.mem_toList.mpr ?_, haccount⟩
    rw [hactive rfl]
    exact Option.bind_eq_some_iff.mpr ⟨id, hid, hp'⟩
  | some ids =>
    obtain ⟨id, hid, hprofile⟩ := List.mem_filterMap.mp hp
    obtain ⟨p', hp', haccount⟩ := h id p hprofile
    exact ⟨p', List.mem_filterMap.mpr ⟨id, hid, hp'⟩, haccount⟩

/-- **While no order is created, an available amount stays available.** -/
theorem Available.later (h : AmountInv db) (h' : AmountInv db') (hevolves : EvolvedFrom db db')
    (hsame : db'.orders.map (·.orderId) = db.orders.map (·.orderId)) {account : String} {amount time : Nat}
    (havailable : Available db.holds account amount time) : Available db'.holds account amount time := by
  rw [available_iff] at *
  intro o' ho' haccount hamount
  have hid : o'.orderId ∈ db.orders.map (·.orderId) := hsame ▸ List.mem_map_of_mem ho'
  obtain ⟨o, ho, hoid⟩ := List.mem_map.mp hid
  obtain ⟨x, hx, hfrozen⟩ := hevolves.evolves.orders o ho
  -- the row that continues `o` is `o'` itself, since the ids are unique
  obtain rfl := h'.slots.unique hx ho' (hfrozen.orderId.trans hoid)
  have hheld := havailable o ho (hfrozen.account.symm.trans haccount) (hfrozen.amount.symm.trans hamount)
  exact (hold_le hfrozen (h.slots.rows o ho) (h'.slots.rows x hx)).trans hheld

/-- **The wait is long enough**: once it is over, the same call finds an amount, when no other order was
    created and an unlisted profile is still the active one. -/
theorem exhausted_retry (hkeys : KeyInv db') {seconds : Nat} {r : ClockReading}
    (hanswer : CreateStoredOrderResult.Answers (db.calledAt r) input db' (.amountSlotsExhausted seconds))
    {ops : List OrderOp} (hpath : Runs.Path (orderStore pf) db' ops db'') (h'' : AmountInv db'')
    (hsame : db''.orders.map (·.orderId) = db'.orders.map (·.orderId))
    (hactive : input.collectionProfileIds = none →
      db''.configuration.activeProfileId = db'.configuration.activeProfileId)
    {r' : ClockReading} (hlater : db.timeAt r + seconds * 1000 ≤ db''.timeAt r') :
    ∃ p ∈ db''.collectors input.collectionProfileIds,
      Opening db''.holds p.alipayAccountId (Payable input.request.amountCents input.amountOffsetMaximumCents)
        (db''.timeAt r') := by
  obtain ⟨⟨-, ⟨-, p, hp, amount, hpayable, havailable⟩, -⟩, hexpires⟩ := hanswer
  have hp' : p ∈ db'.collectors input.collectionProfileIds := by
    unfold OrderDb.collectors OrderDb.profile at *
    rw [hexpires.configuration]
    exact hp
  have hkept : AccountsKept db' db'' := .of_steps ((OrderStep.kept pf db').path hpath .refl)
  obtain ⟨p'', hp'', haccount⟩ := hkept.collectors hactive hp'
  refine ⟨p'', hp'', amount, hpayable, ?_⟩
  rw [haccount]
  rw [← hexpires.holds] at havailable
  have hevolved : EvolvedFrom db' db'' := (EvolvedFrom.kept pf db').path hpath ⟨hkeys, .refl db'⟩
  exact (havailable.mono hlater).later hexpires.inv h'' hevolved hsame

/-! ## The guarantee -/

section guarantee
variable (db input)

/-- Nothing that the call could give out is available on a profile. -/
def OrderDb.BusyOn (p : CollectionProfile) (time : Nat) : Prop :=
  ∀ amount, Payable input.request.amountCents input.amountOffsetMaximumCents amount →
    ¬ Available db.holds p.alipayAccountId amount time

/-- The amount and the profile of a new order. -/
structure Allocated (time : Nat) (order : PaymentOrder) : Prop where
  first : ∃ before profile after, db.collectors input.collectionProfileIds = before ++ profile :: after ∧
    order.collectionProfileId = profile.profileId ∧ order.alipayAccountId = profile.alipayAccountId ∧
    ∀ p ∈ before, OrderDb.BusyOn db input p time
  least : IsLeast {amount | Payable input.request.amountCents input.amountOffsetMaximumCents amount ∧
    Available db.holds order.alipayAccountId amount time} order.payableAmountCents

/-- Later tables, with no other order and with the same profile to fall back on. -/
structure Meanwhile (pf : Platform) (db' : OrderDb) : Prop where
  path : ∃ ops, Runs.Path (orderStore pf) db ops db'
  orders : db'.orders.map (·.orderId) = db.orders.map (·.orderId)
  active : input.collectionProfileIds = none →
    db'.configuration.activeProfileId = db.configuration.activeProfileId

end guarantee

/-- The seconds that an exhausted call was told. -/
def retryAfter (x : Except Fault CreateStoredOrderResult) : Option Nat :=
  match x with
  | .ok (.amountSlotsExhausted seconds) => some seconds
  | _ => none

theorem exhausted_of_retryAfter {x : OrderTx CreateStoredOrderResult} {seconds : Nat}
    (h : retryAfter (outcome x db) = some seconds) : x db = .ok (.amountSlotsExhausted seconds, committed x db) := by
  unfold retryAfter outcome at h
  unfold committed
  split at h
  · rename_i seconds' hx
    split at hx
    · rename_i a s' hrun
      obtain rfl := Except.ok.inj hx
      obtain rfl := Option.some.inj h
      rw [hrun]
    · exact nomatch hx
  · exact nomatch h

/-- A request by a site that must still be as it was when the request was prepared. -/
def siteInput (key : String) : CreateStoredOrderInput := { sampleInput key none with siteRevision := some 1 }

def siteConfiguration (acceptingOrders : Bool) : Configuration :=
  ⟨[sampleProfile], some 7, [⟨"default", 1, false, acceptingOrders, none⟩], [], []⟩

def second (input : CreateStoredOrderInput) (physicalNow : Nat) : OrderTx CreateStoredOrderResult :=
  createOrder samplePlatform input ⟨21, 22, 23, 24, "m"⟩ none (reading physicalNow)

/-- One order takes the only amount until 560 s. -/
def oneTaken : OrderDb :=
  runOps samplePlatform sampleStore
    [.configure (siteConfiguration true), .createOrder (siteInput "a") ⟨11, 12, 13, 14, "m"⟩ none (reading 200000)]

theorem oneTaken_reachable : Runs.Reachable (orderStore samplePlatform) oneTaken :=
  reachable_runOps samplePlatform ⟨rfl, rfl, rfl, rfl, rfl, rfl⟩ _

end PerPay.Orders
