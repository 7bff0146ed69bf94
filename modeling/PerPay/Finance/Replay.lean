/-
  **A repeated call changes nothing** — what `settleManually` and `reverseSettlement` do with an
  operation identifier that has decided before.

  From `Decided` the second call is computed forwards: the site check and the clock let it in
  (`Decision.Admitted`), the identifiers that the first call drew are found again, and the fingerprint
  tells the same request from another one.
-/
import PerPay.Finance.Decisions

namespace PerPay.Finance

open Txn Table Orders Ledger

variable {pf : FinancePlatform} {db db' : FinanceDb}

/-! ## The clock and the site -/

/-- The readings that the financial clock accepts: safe integers at most five minutes behind it. -/
def ClockAccepts (physical : Int) (clock : Nat) : Prop :=
  (0 ≤ physical ∧ physical ≤ maxSafeInteger) ∧ (clock : Int) - physical ≤ maxOrderClockAheadMilliseconds

instance (physical : Int) (clock : Nat) : Decidable (ClockAccepts physical clock) :=
  inferInstanceAs (Decidable (_ ∧ _))

/-- The tables with the order clock moved to a reading. -/
def FinanceDb.clocked (db : FinanceDb) (physical : Int) : FinanceDb :=
  { db with orders := { db.orders with clock := max db.orders.clock physical.toNat } }

theorem toSafeInteger_of_safe {σ : Type} {s : σ} {value : Nat} {label : String} (h : value ≤ maxSafeInteger) :
    (toSafeInteger value label : Tx σ Fault Nat) s = .ok (value, s) :=
  require_bind_met (decide_eq_true h)

theorem financialNow_of_accepts {o : OrderDb} {physical : Int} (hsafe : o.clock ≤ maxSafeInteger)
    (h : ClockAccepts physical o.clock) :
    financialNow physical o = .ok (max o.clock physical.toNat, { o with clock := max o.clock physical.toNat }) := by
  have hle : max o.clock physical.toNat ≤ maxSafeInteger := by
    have := h.1.2
    omega
  unfold financialNow
  rw [require_bind_met h.1, readWith_bind, bind_of_ok (toSafeInteger_of_safe hsafe), require_bind_met h.2,
    update_bind, readWith_bind]
  exact toSafeInteger_of_safe hle

theorem financialNow_of_refuses {o : OrderDb} {physical : Int} (hsafe : o.clock ≤ maxSafeInteger)
    (h : ¬ ClockAccepts physical o.clock) : ∃ e, financialNow physical o = .error e := by
  unfold financialNow
  by_cases hreading : 0 ≤ physical ∧ physical ≤ maxSafeInteger
  · rw [require_bind_met hreading, readWith_bind, bind_of_ok (toSafeInteger_of_safe hsafe),
      require_bind_unmet fun hahead => h ⟨hreading, hahead⟩]
    exact ⟨_, rfl⟩
  · rw [require_bind_unmet hreading]
    exact ⟨_, rfl⟩

/-- The order that a call is about; a reversal names it by its match. -/
def Decision.orderId (db : FinanceDb) : Decision → Option Uuid
  | .settle input => some input.orderId
  | .reverse input => (readPaymentMatch db input.paymentMatchId).map (·.orderId)

/-- The clock accepts the reading, and the order is one that the caller may decide. -/
structure Decision.Admitted (d : Decision) (db : FinanceDb) : Prop where
  clock : ClockAccepts d.now db.orders.clock
  site : ∃ orderId ∈ d.orderId db, ∀ client ∈ scopedTo d.expectedClientId, inSite db.orders client orderId

theorem assertSiteOrder_met {clientId : Option String} {orderId : Uuid}
    (h : ∀ client ∈ scopedTo clientId, inSite db.orders client orderId) :
    assertSiteOrder clientId orderId db = .ok ((), db) := by
  unfold assertSiteOrder
  rw [readWith_bind]
  exact require_ok.mpr ⟨h, rfl⟩

theorem assertSiteOrder_unmet {clientId : Option String} {orderId : Uuid}
    (h : ¬ ∀ client ∈ scopedTo clientId, inSite db.orders client orderId) :
    assertSiteOrder clientId orderId db = .error (.adminOperationError 404 "order_not_found") := by
  unfold assertSiteOrder
  rw [readWith_bind]
  exact require_error h

theorem onOrders_financialNow {physical : Int} (hsafe : db.orders.clock ≤ maxSafeInteger)
    (h : ClockAccepts physical db.orders.clock) :
    onOrders (financialNow physical) db = .ok (max db.orders.clock physical.toNat, db.clocked physical) :=
  zoom_of_ok (financialNow_of_accepts hsafe h)

/-- A settlement that is admitted goes on to the identifier of its match. -/
theorem settleManually_admitted {input : ManualSettlementInput} (hsafe : db.orders.clock ≤ maxSafeInteger)
    (hclock : ClockAccepts input.now db.orders.clock)
    (hsite : ∀ client ∈ scopedTo input.expectedClientId, inSite db.orders client input.orderId) :
    settleManually pf input db =
      (settlementMatchId (db.clocked input.now) input.financialOperationId >>= fun paymentMatchId =>
        readDecisionReplay pf input.financialOperationId (manualOperation input paymentMatchId) >>=
          replayOr paymentMatchId (settleNewly pf input paymentMatchId (max db.orders.clock input.now.toNat)))
        (db.clocked input.now) := by
  unfold settleManually
  rw [bind_of_ok (assertSiteOrder_met hsite), bind_of_ok (onOrders_financialNow hsafe hclock), readWith_bind]
  rfl

theorem reverseSettlement_admitted {input : FinancialDecisionInput} {m : PaymentMatch}
    (hsafe : db.orders.clock ≤ maxSafeInteger) (hclock : ClockAccepts input.now db.orders.clock)
    (hm : readPaymentMatch db input.paymentMatchId = some m)
    (hsite : ∀ client ∈ scopedTo input.expectedClientId, inSite db.orders client m.orderId) :
    reverseSettlement pf input db =
      (readDecisionReplay pf input.financialOperationId
          (reversalOperation input m (reversedOperationId (db.clocked input.now) input.financialOperationId m)) >>=
        replayOr m.paymentMatchId (reverseNewly pf input m (max db.orders.clock input.now.toNat)))
        (db.clocked input.now) := by
  have hfound : readPaymentMatch (db.clocked input.now) input.paymentMatchId = some m := hm
  have hscope : assertSiteOrder input.expectedClientId m.orderId (db.clocked input.now) = .ok ((), db.clocked input.now) :=
    assertSiteOrder_met hsite
  unfold reverseSettlement
  rw [bind_of_ok (onOrders_financialNow hsafe hclock), readWith_bind, hfound, bind_of_ok (orFail_ok.mpr ⟨rfl, rfl⟩),
    bind_of_ok hscope, readWith_bind]
  rfl

theorem settleManually_refused {input : ManualSettlementInput} (hsafe : db.orders.clock ≤ maxSafeInteger)
    (h : ¬ (Decision.settle input).Admitted db) : ∃ e, settleManually pf input db = .error e := by
  unfold settleManually
  by_cases hin : ∀ client ∈ scopedTo input.expectedClientId, inSite db.orders client input.orderId
  · have hclock : ¬ ClockAccepts input.now db.orders.clock := fun hclock => h ⟨hclock, input.orderId, rfl, hin⟩
    obtain ⟨e, he⟩ := financialNow_of_refuses hsafe hclock
    have hrefused : onOrders (financialNow input.now) db = .error e := zoom_of_error he
    rw [bind_of_ok (assertSiteOrder_met hin), bind_of_error hrefused]
    exact ⟨e, rfl⟩
  · rw [bind_of_error (assertSiteOrder_unmet hin)]
    exact ⟨_, rfl⟩

theorem reverseSettlement_refused {input : FinancialDecisionInput} (hsafe : db.orders.clock ≤ maxSafeInteger)
    (h : ¬ (Decision.reverse input).Admitted db) : ∃ e, reverseSettlement pf input db = .error e := by
  unfold reverseSettlement
  by_cases hclock : ClockAccepts input.now db.orders.clock
  · rw [bind_of_ok (onOrders_financialNow hsafe hclock), readWith_bind]
    cases hm : readPaymentMatch db input.paymentMatchId with
    | none =>
      have hfound : readPaymentMatch (db.clocked input.now) input.paymentMatchId = none := hm
      rw [hfound]
      exact ⟨_, bind_of_error rfl⟩
    | some m =>
      have hfound : readPaymentMatch (db.clocked input.now) input.paymentMatchId = some m := hm
      have hout : ¬ ∀ client ∈ scopedTo input.expectedClientId, inSite (db.clocked input.now).orders client m.orderId :=
        fun hin => h ⟨hclock, m.orderId, Option.mem_map.mpr ⟨m, hm, rfl⟩, hin⟩
      rw [hfound, bind_of_ok (orFail_ok.mpr ⟨rfl, rfl⟩), bind_of_error (assertSiteOrder_unmet hout)]
      exact ⟨_, rfl⟩
  · obtain ⟨e, he⟩ := financialNow_of_refuses hsafe hclock
    have hrefused : onOrders (financialNow input.now) db = .error e := zoom_of_error he
    rw [bind_of_error hrefused]
    exact ⟨e, rfl⟩

/-- A call that is not admitted fails. -/
theorem Decision.refused {d : Decision} (hsafe : db.orders.clock ≤ maxSafeInteger) (h : ¬ d.Admitted db) :
    ∃ e, d.call pf db = .error e := by
  cases d with
  | settle input => exact settleManually_refused hsafe h
  | reverse input => exact reverseSettlement_refused hsafe h

/-! ## The same request, and another one -/

/-- The fingerprint input tells requests apart; a reversal is known by its match. -/
theorem DecisionRequest.eq_of_fingerprintInput {request request' : DecisionRequest} {m m' : PaymentMatch}
    {reverses reverses' : Option Uuid}
    (hnamed : ∀ paymentMatchId actorId reason, request = .reverse paymentMatchId actorId reason →
      m.paymentMatchId = paymentMatchId)
    (hnamed' : ∀ paymentMatchId actorId reason, request' = .reverse paymentMatchId actorId reason →
      m'.paymentMatchId = paymentMatchId)
    (h : request.fingerprintInput m reverses = request'.fingerprintInput m' reverses') : request = request' := by
  cases request with
  | settle orderId ledgerEntryId actorId reason =>
    cases request' with
    | settle orderId' ledgerEntryId' actorId' reason' =>
      simp only [fingerprintInput, FinancialOperationFingerprintInput.mk.injEq, Option.some.injEq, true_and] at h
      obtain ⟨rfl, rfl, rfl, -, rfl⟩ := h
      rfl
    | reverse paymentMatchId' actorId' reason' => cases congrArg (·.operationType) h
  | reverse paymentMatchId actorId reason =>
    cases request' with
    | settle orderId' ledgerEntryId' actorId' reason' => cases congrArg (·.operationType) h
    | reverse paymentMatchId' actorId' reason' =>
      simp only [fingerprintInput, FinancialOperationFingerprintInput.mk.injEq, Option.some.injEq, true_and] at h
      obtain ⟨rfl, -, -, -, hmatch, -, rfl⟩ := h
      rw [← hnamed _ _ _ rfl, ← hnamed' _ _ _ rfl, hmatch]

theorem readDecisionReplay_same {id : Uuid} {input : FinancialOperationFingerprintInput} {operation : FinancialOperation}
    (hop : readOperation db id = some operation) (hkey : operation.operationKey = .admin id)
    (hfingerprint : operation.requestFingerprint = financialOperationFingerprint pf input)
    (htype : operation.operationType = input.operationType) :
    readDecisionReplay pf id input db = .ok (some operation, db) := by
  unfold readDecisionReplay
  rw [readWith_bind]
  simp only [hop]
  rw [require_bind_met ⟨hkey, hfingerprint, htype⟩]
  rfl

theorem readDecisionReplay_other {id : Uuid} {input : FinancialOperationFingerprintInput} {operation : FinancialOperation}
    (hop : readOperation db id = some operation)
    (hother : operation.operationType = input.operationType →
      operation.requestFingerprint ≠ financialOperationFingerprint pf input) :
    readDecisionReplay pf id input db =
      .error (.reconciliationError "operation_conflict" "financial operation ID was reused with different input") := by
  unfold readDecisionReplay
  rw [readWith_bind]
  simp only [hop]
  exact require_bind_unmet fun h => hother h.2.2 h.2.1

section repeated
variable {id : Uuid} {request : DecisionRequest} {result : FinancialDecisionResult} {m : PaymentMatch}

theorem Decided.clocked (h : Decided pf id request result m db) (physical : Int) :
    Decided pf id request result m (db.clocked physical) :=
  h.framed ⟨[], (List.append_nil _).symm⟩ rfl (fun _ _ => rfl) rfl

theorem Decided.answered (h : Decided pf id request result m db) :
    decisionResult result.operation m.paymentMatchId true db = .ok (result.again, db) := by
  obtain ⟨type, event, hdecided, hevents, htime, hresult⟩ := h.answers
  refine decisionResult_ok.mpr ⟨⟨m, type, event, h.found, h.type ▸ hdecided, ?_, htime, hresult⟩, rfl⟩
  rw [h.operationId]
  exact hevents

theorem settlementMatchId_known {input : ManualSettlementInput} (physical : Int)
    (h : Decided pf input.financialOperationId request result m db) :
    ∃ paymentMatchId drawn, settlementMatchId (db.clocked physical) input.financialOperationId (db.clocked physical) =
        .ok (paymentMatchId, { db.clocked physical with drawn := drawn }) ∧
      (request.operationType = .MANUAL_SETTLEMENT → paymentMatchId = m.paymentMatchId ∧ drawn = db.drawn) := by
  have hc := h.clocked physical
  by_cases htype : request.operationType = .MANUAL_SETTLEMENT
  · have hm : readPaymentMatchByCreationOperation (db.clocked physical) result.operation.financialOperationId = some m := by
      rw [hc.operationId]
      exact hc.created htype
    exact ⟨m.paymentMatchId, db.drawn, (settlementMatchId_found hc.operation (h.type.trans htype) hm).mpr ⟨rfl, rfl⟩,
      fun _ => ⟨rfl, rfl⟩⟩
  · have hother : (readOperation (db.clocked physical) input.financialOperationId).filter
        (fun o => o.operationType = .MANUAL_SETTLEMENT) = none := by
      rw [hc.operation, Option.filter_some_neg]
      exact decide_eq_false (h.type ▸ htype)
    refine ⟨db.entropy db.drawn, db.drawn + 1, ?_, fun hmanual => absurd hmanual htype⟩
    unfold settlementMatchId
    rw [hother]
    rfl

theorem settleManually_again {input : ManualSettlementInput}
    (h : Decided pf input.financialOperationId (Decision.settle input).request result m db)
    (hsafe : db.orders.clock ≤ maxSafeInteger) (hadmitted : (Decision.settle input).Admitted db) :
    settleManually pf input db = .ok (result.again, db.clocked input.now) := by
  have hc := h.clocked input.now
  obtain ⟨hclock, orderId, horder, hsite⟩ := hadmitted
  obtain rfl : input.orderId = orderId := Option.some.inj horder
  obtain ⟨paymentMatchId, drawn, hmatch, hknown⟩ := settlementMatchId_known input.now h
  obtain ⟨rfl, rfl⟩ := hknown rfl
  have hreplay : readDecisionReplay pf input.financialOperationId (manualOperation input m.paymentMatchId)
      (db.clocked input.now) = .ok (some result.operation, db.clocked input.now) :=
    readDecisionReplay_same hc.operation h.key h.fingerprint h.type
  rw [settleManually_admitted hsafe hclock hsite, bind_of_ok hmatch]
  exact (bind_of_ok hreplay).trans hc.answered

theorem reverseSettlement_again {input : FinancialDecisionInput}
    (h : Decided pf input.financialOperationId (Decision.reverse input).request result m db)
    (hsafe : db.orders.clock ≤ maxSafeInteger) (hadmitted : (Decision.reverse input).Admitted db) :
    reverseSettlement pf input db = .ok (result.again, db.clocked input.now) := by
  have hc := h.clocked input.now
  have hmid : m.paymentMatchId = input.paymentMatchId := h.named _ _ _ rfl
  have hm : readPaymentMatch db input.paymentMatchId = some m := hmid ▸ h.found
  obtain ⟨hclock, orderId, horder, hsite⟩ := hadmitted
  obtain ⟨x, hx, rfl⟩ := Option.mem_map.mp horder
  obtain rfl : m = x := Option.some.inj (hm.symm.trans hx)
  have htype : result.operation.operationType = .REVERSE_SETTLEMENT := h.type
  have hreverses : reversedOperationId (db.clocked input.now) input.financialOperationId m =
      result.operation.reversesOperationId := by
    unfold reversedOperationId
    rw [hc.operation, Option.filter_some_pos]
    exact decide_eq_true htype
  have hreplay : readDecisionReplay pf input.financialOperationId
      (reversalOperation input m result.operation.reversesOperationId) (db.clocked input.now) =
        .ok (some result.operation, db.clocked input.now) :=
    readDecisionReplay_same hc.operation h.key h.fingerprint h.type
  rw [reverseSettlement_admitted hsafe hclock hm hsite, hreverses]
  exact (bind_of_ok hreplay).trans hc.answered

theorem Decision.again {d : Decision} (h : Decided pf d.operationId d.request result m db)
    (hsafe : db.orders.clock ≤ maxSafeInteger) (hadmitted : d.Admitted db) :
    d.call pf db = .ok (result.again, db.clocked d.now) := by
  cases d with
  | settle input => exact settleManually_again h hsafe hadmitted
  | reverse input => exact reverseSettlement_again h hsafe hadmitted

variable (hinjective : Function.Injective (financialOperationFingerprint pf))
include hinjective

theorem settleManually_conflict {input : ManualSettlementInput}
    (h : Decided pf input.financialOperationId request result m db) (hother : (Decision.settle input).request ≠ request)
    (hsafe : db.orders.clock ≤ maxSafeInteger) (hadmitted : (Decision.settle input).Admitted db) :
    settleManually pf input db =
      .error (.reconciliationError "operation_conflict" "financial operation ID was reused with different input") := by
  obtain ⟨hclock, orderId, horder, hsite⟩ := hadmitted
  obtain rfl : input.orderId = orderId := Option.some.inj horder
  obtain ⟨paymentMatchId, drawn, hmatch, hknown⟩ := settlementMatchId_known input.now h
  have hop : readOperation { db.clocked input.now with drawn := drawn } input.financialOperationId = some result.operation :=
    h.operation
  rw [settleManually_admitted hsafe hclock hsite, bind_of_ok hmatch]
  refine bind_of_error (readDecisionReplay_other hop fun htype hfingerprint => hother ?_)
  obtain ⟨rfl, -⟩ := hknown (h.type.symm.trans htype)
  have hinput : request.fingerprintInput m result.operation.reversesOperationId =
      (Decision.settle input).request.fingerprintInput m none := hinjective (h.fingerprint.symm.trans hfingerprint)
  refine (DecisionRequest.eq_of_fingerprintInput h.named (fun _ _ _ he => ?_) hinput).symm
  cases he

theorem reverseSettlement_conflict {input : FinancialDecisionInput}
    (h : Decided pf input.financialOperationId request result m db) (hother : (Decision.reverse input).request ≠ request)
    (hsafe : db.orders.clock ≤ maxSafeInteger) (hadmitted : (Decision.reverse input).Admitted db) :
    reverseSettlement pf input db =
      .error (.reconciliationError "operation_conflict" "financial operation ID was reused with different input") := by
  have hc := h.clocked input.now
  obtain ⟨hclock, orderId, horder, hsite⟩ := hadmitted
  obtain ⟨x, hx, rfl⟩ := Option.mem_map.mp horder
  have hxid : x.paymentMatchId = input.paymentMatchId := by simpa using List.find?_some hx
  rw [reverseSettlement_admitted hsafe hclock hx hsite]
  refine bind_of_error (readDecisionReplay_other hc.operation fun htype hfingerprint => hother ?_)
  have hinput : request.fingerprintInput m result.operation.reversesOperationId =
      (Decision.reverse input).request.fingerprintInput x
        (reversedOperationId (db.clocked input.now) input.financialOperationId x) :=
    hinjective (h.fingerprint.symm.trans hfingerprint)
  refine (DecisionRequest.eq_of_fingerprintInput h.named (fun _ _ _ he => ?_) hinput).symm
  cases he
  exact hxid

theorem Decision.conflict {d : Decision} (h : Decided pf d.operationId request result m db) (hother : d.request ≠ request)
    (hsafe : db.orders.clock ≤ maxSafeInteger) (hadmitted : d.Admitted db) :
    d.call pf db =
      .error (.reconciliationError "operation_conflict" "financial operation ID was reused with different input") := by
  cases d with
  | settle input => exact settleManually_conflict hinjective h hother hsafe hadmitted
  | reverse input => exact reverseSettlement_conflict hinjective h hother hsafe hadmitted

end repeated

/-! ## Every later call -/

/-- A call that succeeded was made at a safe clock. -/
theorem Decision.clock_safe {d : Decision} {result : FinancialDecisionResult}
    (hx : d.call pf db = .ok (result, db')) : db.orders.clock ≤ maxSafeInteger := by
  have hnow : ∀ {physical : Int} {now : Nat} {m : FinanceDb}, onOrders (financialNow physical) db = .ok (now, m) →
      db.orders.clock ≤ maxSafeInteger := by
    intro physical now m hx
    obtain ⟨o, hclock, -⟩ := onOrders_ok.mp hx
    obtain ⟨hle, -, hsafe, -⟩ := financialNow_ok hclock
    exact hle.trans hsafe
  cases d with
  | settle input =>
    replace hx : settleManually pf input db = .ok (result, db') := hx
    unfold settleManually at hx
    obtain ⟨_, m, hsite, hx⟩ := bind_ok.mp hx
    obtain ⟨-, rfl⟩ := assertSiteOrder_ok hsite
    obtain ⟨now, d, hclock, -⟩ := bind_ok.mp hx
    exact hnow hclock
  | reverse input =>
    replace hx : reverseSettlement pf input db = .ok (result, db') := hx
    unfold reverseSettlement at hx
    obtain ⟨now, d, hclock, -⟩ := bind_ok.mp hx
    exact hnow hclock

/-- No move takes the clock out of the safe integers. -/
theorem Move.clock_safe (hm : Move pf db db') (h : db.orders.clock ≤ maxSafeInteger) :
    db'.orders.clock ≤ maxSafeInteger := by
  cases hm with
  | order hs =>
    cases hs with
    | clock now hle hsafe => exact hsafe
    | ends order status hends => exact (congrArg OrderDb.clock hends.result).le.trans h
    | inserted input rnd profile amount generation cooldown key hrows => exact hrows.clock.le.trans h
    | configured configuration hext => exact h
  | _ => exact h

theorem Decision.moves {d : Decision} {result : FinancialDecisionResult} (hkeys : Keys db)
    (hx : d.call pf db = .ok (result, db')) : Moves pf db db' := by
  cases d with
  | settle input => exact settleManually_moves hkeys hx
  | reverse input => exact reverseSettlement_moves hkeys hx

theorem path_moves {ls : List (FinanceOp × Entropy)} (hkeys : Keys db) (hp : Runs.Path (financeStore pf) db ls db') :
    Moves pf db db' :=
  (hp.relates (I := Keys) (R := Moves pf) (fun _ => .refl) .trans
    (fun _ _ _ h hs => ⟨h.moves (financeStore_moves h hs), financeStore_moves h hs⟩) hkeys).2

/-- What a call does when its operation identifier has decided `request` before, with `result`. -/
structure Repeats (pf : FinancePlatform) (request : DecisionRequest) (result : FinancialDecisionResult) (d : Decision)
    (db : FinanceDb) : Prop where
  same : d.request = request → d.Admitted db → d.call pf db = .ok (result.again, db.clocked d.now)
  other : d.request ≠ request → d.Admitted db → d.call pf db =
    .error (.reconciliationError "operation_conflict" "financial operation ID was reused with different input")
  refused : ¬ d.Admitted db → ∃ e, d.call pf db = .error e
  unchanged : d.request ≠ request ∨ ¬ d.Admitted db → committed (d.call pf) db = db

/-- The sample, more than five minutes later. -/
def sampleLater : FinanceDb := sampleCall 8 (.reconcileEntry "302" 1784513500000) sampleResettled

end PerPay.Finance
