/-
  **A decision is made once** — repeating a call of an administrator returns what the first call did.

  `settleManually` and `reverseSettlement` recognise a repetition by the fingerprint of the operation,
  which covers identifiers the first call drew: the match it made, the operation it reversed.  A
  repetition has to find these again, after the match was reversed and the entry settled anew.
  `Decided` says what a successful call leaves in the tables for that, in columns that nothing changes
  later; every move keeps it (`Decided.moves`), and from it both calls can be computed.
-/
import PerPay.Finance.Moves

namespace PerPay.Finance

open Txn Table Orders Ledger

variable {pf : FinancePlatform} {db db' : FinanceDb}

/-! ## The decisions -/

inductive Decision
  | settle (input : ManualSettlementInput)
  | reverse (input : FinancialDecisionInput)

def Decision.call (pf : FinancePlatform) : Decision → FinanceTx FinancialDecisionResult
  | .settle input => settleManually pf input
  | .reverse input => reverseSettlement pf input

def Decision.operationId : Decision → Uuid
  | .settle input => input.financialOperationId
  | .reverse input => input.financialOperationId

/-- The reading of the physical clock. -/
def Decision.now : Decision → Int
  | .settle input => input.now
  | .reverse input => input.now

def Decision.expectedClientId : Decision → Option String
  | .settle input => input.expectedClientId
  | .reverse input => input.expectedClientId

/-- What a decision decides, and who asks for it. -/
inductive DecisionRequest
  | settle (orderId : Uuid) (ledgerEntryId actorId : String) (reason : Option String)
  | reverse (paymentMatchId : Uuid) (actorId reason : String)
  deriving DecidableEq, Repr

def Decision.request : Decision → DecisionRequest
  | .settle input => .settle input.orderId input.ledgerEntryId input.actorId input.reason
  | .reverse input => .reverse input.paymentMatchId input.actorId input.reason

def DecisionRequest.operationType : DecisionRequest → FinancialOperationType
  | .settle _ _ _ _ => .MANUAL_SETTLEMENT
  | .reverse _ _ _ => .REVERSE_SETTLEMENT

/-- The fingerprint input of a request, with the identifiers that only the tables know. -/
def DecisionRequest.fingerprintInput (m : PaymentMatch) (reverses : Option Uuid) :
    DecisionRequest → FinancialOperationFingerprintInput
  | .settle orderId ledgerEntryId actorId reason =>
    { operationType := .MANUAL_SETTLEMENT, actorType := .ADMIN, actorId := some actorId, orderId := some orderId,
      ledgerEntryId := some ledgerEntryId, candidateId := none, paymentMatchId := some m.paymentMatchId,
      reversesOperationId := none, reason }
  | .reverse _ actorId reason =>
    { operationType := .REVERSE_SETTLEMENT, actorType := .ADMIN, actorId := some actorId,
      orderId := some m.orderId, ledgerEntryId := some m.ledgerEntryId, candidateId := m.candidateId,
      paymentMatchId := some m.paymentMatchId, reversesOperationId := reverses, reason := some reason }

/-! ## Fingerprints -/

theorem optionScalar_injective {α : Type} {f : α → Json.Scalar} (hf : Function.Injective f) (hnull : ∀ a, f a ≠ .null) :
    Function.Injective (optionScalar f) := by
  intro a b h
  cases a with
  | none =>
    cases b with
    | none => rfl
    | some b => exact absurd h.symm (hnull b)
  | some a =>
    cases b with
    | none => exact absurd h (hnull a)
    | some b => exact congrArg some (hf h)

theorem textScalar_injective : Function.Injective textScalar := by
  intro s t h
  exact String.toList_injective (Json.Scalar.text.inj h)

theorem uuidScalar_injective (huuid : Function.Injective pf.orders.uuidText) : Function.Injective (uuidScalar pf) := by
  intro a b h
  exact huuid (String.toList_injective (Json.Scalar.text.inj h))

theorem sha256Json_injective (hsha : Function.Injective pf.orders.sha256) {members members' : List (String × Json.Scalar)}
    (h : sha256Json pf members = sha256Json pf members') : members = members' := by
  have htext := Json.objectText_injective (String.ofList_injective (hsha h))
  refine List.map_injective_iff.mpr ?_ htext
  rintro ⟨k, v⟩ ⟨k', v'⟩ he
  obtain ⟨hk, hv⟩ := Prod.mk.inj he
  rw [Prod.mk.injEq]
  exact ⟨String.toList_injective hk, hv⟩

theorem FinancialOperationType.name_injective : Function.Injective FinancialOperationType.name := by
  intro a b h
  cases a <;> cases b <;> first | rfl | exact absurd h (by decide)

theorem ActorType.name_injective : Function.Injective ActorType.name := by
  intro a b h
  cases a <;> cases b <;> first | rfl | exact absurd h (by decide)

/-- **The fingerprint of an operation determines its request.** -/
theorem financialOperationFingerprint_injective (hsha : Function.Injective pf.orders.sha256)
    (huuid : Function.Injective pf.orders.uuidText) : Function.Injective (financialOperationFingerprint pf) := by
  intro a b h
  have hmembers := sha256Json_injective hsha h
  simp only [List.cons.injEq, Prod.mk.injEq, true_and, and_true] at hmembers
  obtain ⟨htype, hactor, hactorId, horder, hentry, hcandidate, hmatch, hreverses, hreason⟩ := hmembers
  have htexts := optionScalar_injective textScalar_injective (fun _ => nofun)
  have huuids := optionScalar_injective (uuidScalar_injective huuid) (fun _ => nofun)
  obtain ⟨⟩ := a
  obtain ⟨⟩ := b
  rw [FinancialOperationFingerprintInput.mk.injEq]
  exact ⟨FinancialOperationType.name_injective (textScalar_injective htype),
    ActorType.name_injective (textScalar_injective hactor), htexts hactorId, huuids horder, htexts hentry,
    huuids hcandidate, huuids hmatch, huuids hreverses, htexts hreason⟩

/-! ## What a decision leaves behind -/

/-- A payment event has its accounting transaction, and a confirmation has its match. -/
structure Traced (db : FinanceDb) : Prop where
  posted : ∀ e ∈ db.orders.events, ∀ id ∈ eventOperationId e, ∃ t ∈ db.transactions, t.financialOperationId = id
  matched : ∀ e ∈ db.orders.events, ∀ id ∈ eventOperationId e, e.type = .PAYMENT_CONFIRMED →
    ∃ m ∈ db.paymentMatches, m.createdByOperationId = id

theorem Traced.empty (h : FinanceDb.Empty db) : Traced db where
  posted := by rw [h.orders.events]; simp
  matched := by rw [h.orders.events]; simp

theorem Traced.framed (h : Traced db) (he : ∀ e ∈ db'.orders.events, e ∈ db.orders.events ∨ eventOperationId e = none)
    (ht : db'.transactions = db.transactions) (hm : db'.paymentMatches = db.paymentMatches) : Traced db' where
  posted e hmem id hid := by
    rcases he e hmem with hold | hnone
    · rw [ht]; exact h.posted e hold id hid
    · rw [hnone] at hid; cases hid
  matched e hmem id hid htype := by
    rcases he e hmem with hold | hnone
    · rw [hm]; exact h.matched e hold id hid htype
    · rw [hnone] at hid; cases hid

/-- The events that the order store adds name no operation. -/
theorem OrderStep.quiet {o o' : OrderDb} (hs : OrderStep pf.orders o o') :
    ∃ added, o'.events = o.events ++ added ∧ ∀ e ∈ added, eventOperationId e = none := by
  cases hs with
  | clock now hle hsafe => exact ⟨[], (List.append_nil _).symm, by simp⟩
  | configured configuration hext => exact ⟨[], (List.append_nil _).symm, by simp⟩
  | ends order status hends =>
    refine ⟨[endEvent order status o.clock], by rw [hends.result], fun e he => ?_⟩
    rw [List.mem_singleton.mp he]
    unfold endEvent
    split <;> rfl
  | inserted input rnd profile amount generation cooldown key hrows =>
    exact ⟨_, hrows.events, fun e he => List.mem_singleton.mp he ▸ rfl⟩

theorem Traced.move (h : Traced db) (hm : Move pf db db') : Traced db' := by
  have hsame : ∀ e ∈ db.orders.events, e ∈ db.orders.events ∨ eventOperationId e = none := fun _ he => .inl he
  cases hm with
  | order hs =>
    obtain ⟨added, hadded, hquiet⟩ := OrderStep.quiet hs
    refine h.framed (fun e he => ?_) rfl rfl
    rw [show ({ db with orders := _ } : FinanceDb).orders.events = _ from hadded] at he
    exact (List.mem_append.mp he).imp id (hquiet e)
  | supplied entropy => exact h.framed hsame rfl rfl
  | drew drawn => exact h.framed hsame rfl rfl
  | ledger op hx => exact h.framed hsame rfl rfl
  | candidate c hc hnew heligible hundecided hcreated => exact h.framed hsame rfl rfl
  | selected c row hmem hrow hclock => exact h.framed hsame rfl rfl
  | superseded c row hmem hfits hclock hkey => exact h.framed hsame rfl rfl
  | operation row hfits hclock hkey => exact h.framed hsame rfl rfl
  | exceptions rows hrows => exact h.framed hsame rfl rfl
  | entryState entry state hmem hfrom hto hmay => exact h.framed hsame rfl rfl
  | settles s hs =>
    constructor
    · intro e he id hid
      rcases List.mem_append.mp he with he | he
      · obtain ⟨t, ht, htid⟩ := h.posted e he id hid
        exact ⟨t, List.mem_append_left _ ht, htid⟩
      · rw [List.mem_singleton.mp he] at hid
        exact ⟨s.accounting.transaction db, List.mem_append_right _ (List.mem_singleton.mpr rfl), Option.some.inj hid⟩
    · intro e he id hid htype
      rcases List.mem_append.mp he with he | he
      · obtain ⟨m, hm, hmid⟩ := h.matched e he id hid htype
        exact ⟨m, List.mem_append_left _ hm, hmid⟩
      · rw [List.mem_singleton.mp he] at hid
        exact ⟨s.paymentMatch, List.mem_append_right _ (List.mem_singleton.mpr rfl), Option.some.inj hid⟩
  | reverses r hr =>
    constructor
    · intro e he id hid
      rcases List.mem_append.mp he with he | he
      · obtain ⟨t, ht, htid⟩ := h.posted e he id hid
        exact ⟨t, List.mem_append_left _ ht, htid⟩
      · rw [List.mem_singleton.mp he] at hid
        exact ⟨r.accounting.transaction db, List.mem_append_right _ (List.mem_singleton.mpr rfl), Option.some.inj hid⟩
    · intro e he id hid htype
      rcases List.mem_append.mp he with he | he
      · obtain ⟨m, hm, hmid⟩ := h.matched e he id hid htype
        by_cases hreversed : m.paymentMatchId = r.paymentMatch.paymentMatchId ∧ m.status = .SETTLED
        · refine ⟨_, mem_updateWhere.mpr (.inl ⟨m, hm, ?_, rfl⟩), hmid⟩
          simp only [Bool.and_eq_true]
          exact ⟨decide_eq_true hreversed.1, decide_eq_true hreversed.2⟩
        · refine ⟨m, mem_updateWhere.mpr (.inr ⟨hm, ?_⟩), hmid⟩
          simp only [Bool.and_eq_false_imp, decide_eq_true_eq]
          exact fun h1 => decide_eq_false fun h2 => hreversed ⟨h1, h2⟩
      · rw [List.mem_singleton.mp he] at htype
        cases htype

theorem Traced.reachable (hr : Runs.Reachable (financeStore pf) db) : Traced db :=
  reachable_invariant (fun _ => Traced.empty) (fun _ h hm => h.move hm) hr

/-- The result without the flag that tells a repetition. -/
def FinancialDecisionResult.again (result : FinancialDecisionResult) : FinancialDecisionResult :=
  { result with replayed := true }

/-- What a successful decision leaves in the tables: its operation, its match and its one event, from
    which its result is read again. -/
structure Decided (pf : FinancePlatform) (id : Uuid) (request : DecisionRequest) (result : FinancialDecisionResult)
    (m : PaymentMatch) (db : FinanceDb) : Prop where
  operation : readOperation db id = some result.operation
  operationId : result.operation.financialOperationId = id
  key : result.operation.operationKey = .admin id
  type : result.operation.operationType = request.operationType
  fingerprint : result.operation.requestFingerprint = financialOperationFingerprint pf
    (request.fingerprintInput m result.operation.reversesOperationId)
  found : readPaymentMatch db m.paymentMatchId = some m
  created : request.operationType = .MANUAL_SETTLEMENT → readPaymentMatchByCreationOperation db id = some m
  named : ∀ paymentMatchId actorId reason, request = .reverse paymentMatchId actorId reason →
    m.paymentMatchId = paymentMatchId
  answers : ∃ type event, decidedBy request.operationType = some type ∧
    decisionEvents db id m.orderId type = [event] ∧ event.occurredAt = result.operation.createdAt ∧
    result.again = { operation := result.operation, paymentMatch := replayedPaymentMatch m result.operation,
                     orderId := m.orderId, ledgerEntryId := m.ledgerEntryId, orderVersion := event.sequence,
                     replayed := true }
  posted : ∃ t ∈ db.transactions, t.financialOperationId = id

section carried
variable {id : Uuid} {request : DecisionRequest} {result : FinancialDecisionResult} {m m' : PaymentMatch}

/-- The match may have been reversed since; nothing else of it changes. -/
theorem Decided.carried (h : Decided pf id request result m db)
    (hop : ∃ more, db'.operations = db.operations ++ more)
    (hsame : ∀ operation, replayedPaymentMatch m' operation = replayedPaymentMatch m operation)
    (hfound : readPaymentMatch db' m.paymentMatchId = some m')
    (hcreated : readPaymentMatchByCreationOperation db id = some m →
      readPaymentMatchByCreationOperation db' id = some m')
    (hev : ∀ orderId type, decisionEvents db' id orderId type = decisionEvents db id orderId type)
    (ht : ∀ t ∈ db.transactions, t ∈ db'.transactions) : Decided pf id request result m' db' := by
  have hcolumn : ∀ {κ : Type} (f : PaymentMatch → κ), (∀ x operation, f (replayedPaymentMatch x operation) = f x) →
      f m' = f m := by
    intro κ f hf
    rw [← hf m' result.operation, hsame, hf]
  have hid : m'.paymentMatchId = m.paymentMatchId := hcolumn (·.paymentMatchId) fun _ _ => rfl
  have horder : m'.orderId = m.orderId := hcolumn (·.orderId) fun _ _ => rfl
  have hentry : m'.ledgerEntryId = m.ledgerEntryId := hcolumn (·.ledgerEntryId) fun _ _ => rfl
  have hcandidate : m'.candidateId = m.candidateId := hcolumn (·.candidateId) fun _ _ => rfl
  obtain ⟨more, hmore⟩ := hop
  obtain ⟨t, htmem, htid⟩ := h.posted
  obtain ⟨type, event, hdecided, hevents, htime, hresult⟩ := h.answers
  refine ⟨?_, h.operationId, h.key, h.type, ?_, ?_, fun hmanual => hcreated (h.created hmanual), ?_, ?_, t, ht t htmem, htid⟩
  · unfold readOperation
    rw [hmore]
    exact find?_append_of_some h.operation more
  · rw [h.fingerprint]
    cases request with
    | settle orderId ledgerEntryId actorId reason => simp only [DecisionRequest.fingerprintInput, hid]
    | reverse paymentMatchId actorId reason =>
      simp only [DecisionRequest.fingerprintInput, hid, horder, hentry, hcandidate]
  · rw [hid]; exact hfound
  · intro paymentMatchId actorId reason hrequest
    rw [hid]
    exact h.named paymentMatchId actorId reason hrequest
  · refine ⟨type, event, hdecided, ?_, htime, ?_⟩
    · rw [hev, horder]; exact hevents
    · rw [hresult, hsame, horder, hentry]

/-- Moves of the other tables. -/
theorem Decided.framed (h : Decided pf id request result m db)
    (hop : ∃ more, db'.operations = db.operations ++ more) (hm : db'.paymentMatches = db.paymentMatches)
    (hev : ∀ orderId type, decisionEvents db' id orderId type = decisionEvents db id orderId type)
    (ht : db'.transactions = db.transactions) : Decided pf id request result m db' := by
  refine h.carried hop (fun _ => rfl) ?_ (fun hcreated => ?_) hev fun t hmem => ht ▸ hmem
  · unfold readPaymentMatch
    rw [hm]
    exact h.found
  · unfold readPaymentMatchByCreationOperation at *
    rwa [hm]

/-- The event of another decision. -/
theorem decisionEvents_other {event : OrderEvent} {rows : List OrderEvent} {orderId : Uuid} {type : OrderEventType}
    (hne : eventOperationId event ≠ some id) :
    (rows ++ [event]).filter (fun e => e.orderId = orderId && e.type = type && eventOperationId e = some id) =
      rows.filter fun e => e.orderId = orderId && e.type = type && eventOperationId e = some id := by
  refine filter_append_out (r := event) ?_ rows
  simp [hne]

/-- A match that is found by what a reversal keeps is found after it. -/
theorem find?_withReversed {x : PaymentMatch} {operationId : Uuid} {now : Nat} {q : PaymentMatch → Bool}
    (hq : ∀ y : PaymentMatch, q (y.reverse operationId now) = q y) {rows : List PaymentMatch}
    (hfound : rows.find? q = some m) :
    (withReversed x operationId now rows).find? q =
      some (if m.paymentMatchId = x.paymentMatchId && m.status = .SETTLED then m.reverse operationId now else m) := by
  unfold withReversed
  rw [find?_updateWhere fun y _ => hq y, hfound]
  rfl

theorem Decided.move (h : Decided pf id request result m db) (hm : Move pf db db') :
    ∃ m', Decided pf id request result m' db' := by
  have hnone : ∃ more, db.operations = db.operations ++ more := ⟨[], (List.append_nil _).symm⟩
  obtain ⟨t, htmem, htid⟩ := h.posted
  cases hm with
  | order hs =>
    obtain ⟨added, hadded, hquiet⟩ := OrderStep.quiet hs
    refine ⟨m, h.framed hnone rfl (fun orderId type => ?_) rfl⟩
    show List.filter _ (OrderDb.events _) = _
    rw [hadded, List.filter_append]
    have hnothing : added.filter (fun e => e.orderId = orderId && e.type = type && eventOperationId e = some id) = [] :=
      List.filter_eq_nil_iff.mpr fun e he => by simp [hquiet e he]
    rw [hnothing, List.append_nil]
    rfl
  | supplied entropy => exact ⟨m, h.framed hnone rfl (fun _ _ => rfl) rfl⟩
  | drew drawn => exact ⟨m, h.framed hnone rfl (fun _ _ => rfl) rfl⟩
  | ledger op hx => exact ⟨m, h.framed hnone rfl (fun _ _ => rfl) rfl⟩
  | candidate c hc hnew heligible hundecided hcreated => exact ⟨m, h.framed hnone rfl (fun _ _ => rfl) rfl⟩
  | selected c row hmem hrow hclock => exact ⟨m, h.framed hnone rfl (fun _ _ => rfl) rfl⟩
  | superseded c row hmem hfits hclock hkey => exact ⟨m, h.framed ⟨[row], rfl⟩ rfl (fun _ _ => rfl) rfl⟩
  | operation row hfits hclock hkey => exact ⟨m, h.framed ⟨[row], rfl⟩ rfl (fun _ _ => rfl) rfl⟩
  | exceptions rows hrows => exact ⟨m, h.framed hnone rfl (fun _ _ => rfl) rfl⟩
  | entryState entry state hmem hfrom hto hmay => exact ⟨m, h.framed hnone rfl (fun _ _ => rfl) rfl⟩
  | settles s hs =>
    -- an operation is posted once, so this one is another
    have hother : s.operation.financialOperationId ≠ id := fun he =>
      (hs.posts.newTransaction t htmem).2 (htid.trans he.symm)
    refine ⟨m, h.carried hnone (fun _ => rfl) (find?_append_of_some h.found _)
      (fun hcreated => find?_append_of_some hcreated _) (fun orderId type => ?_)
      fun t hmem => List.mem_append_left _ hmem⟩
    exact decisionEvents_other fun he => hother (Option.some.inj he)
  | reverses r hr =>
    have hother : r.operation.financialOperationId ≠ id := fun he =>
      (hr.posts.newTransaction t htmem).2 (htid.trans he.symm)
    refine ⟨if m.paymentMatchId = r.paymentMatch.paymentMatchId && m.status = .SETTLED then
        m.reverse r.operation.financialOperationId r.now else m, h.carried hnone (fun operation => ?_) ?_
      (fun hcreated => ?_) (fun orderId type => ?_) fun t hmem => List.mem_append_left _ hmem⟩
    · split <;> rfl
    · exact find?_withReversed (fun _ => rfl) h.found
    · exact find?_withReversed (fun _ => rfl) hcreated
    · exact decisionEvents_other fun he => hother (Option.some.inj he)

theorem Decided.moves (h : Decided pf id request result m db) (hm : Moves pf db db') :
    ∃ m', Decided pf id request result m' db' :=
  hm.invariant (I := fun db => ∃ m, Decided pf id request result m db) (fun ⟨_, h⟩ hs => h.move hs) ⟨m, h⟩

end carried

/-! ## A successful call has decided -/

theorem readOperation_id {id : Uuid} {operation : FinancialOperation} (h : readOperation db id = some operation) :
    operation.financialOperationId = id := by simpa using List.find?_some h

theorem mem_decisionEvents {operationId orderId : Uuid} {type : OrderEventType} {event : OrderEvent}
    (h : decisionEvents db operationId orderId type = [event]) :
    event ∈ db.orders.events ∧ event.type = type ∧ eventOperationId event = some operationId := by
  have hmem : event ∈ decisionEvents db operationId orderId type := by
    rw [h]
    exact List.mem_singleton.mpr rfl
  obtain ⟨hmem, hkey⟩ := List.mem_filter.mp hmem
  simp only [Bool.and_eq_true, decide_eq_true_eq] at hkey
  exact ⟨hmem, hkey.1.2, hkey.2⟩

/-- The result that was answered is the one that is in the tables. -/
theorem Decided.of_answers {id paymentMatchId : Uuid} {request : DecisionRequest} {operation : FinancialOperation}
    {replayed : Bool} {result : FinancialDecisionResult} {m : PaymentMatch} (htraced : Traced db)
    (hanswers : Answers operation paymentMatchId replayed result db) (hop : readOperation db id = some operation)
    (hkey : operation.operationKey = .admin id) (htype : operation.operationType = request.operationType)
    (hfingerprint : operation.requestFingerprint = financialOperationFingerprint pf
      (request.fingerprintInput m operation.reversesOperationId))
    (hfound : readPaymentMatch db paymentMatchId = some m)
    (hcreated : request.operationType = .MANUAL_SETTLEMENT → readPaymentMatchByCreationOperation db id = some m)
    (hnamed : ∀ paymentMatchId actorId reason, request = .reverse paymentMatchId actorId reason →
      m.paymentMatchId = paymentMatchId)
    (hfresh : replayed = false → replayedPaymentMatch m operation = m) : Decided pf id request result m db := by
  have hid := readOperation_id hop
  obtain ⟨m', type, event, hm', hdecided, hevents, htime, rfl⟩ := hanswers.found
  obtain rfl : m = m' := Option.some.inj (hfound.symm.trans hm')
  rw [hid] at hevents
  obtain ⟨hmem, -, hevent⟩ := mem_decisionEvents hevents
  have hmid : m.paymentMatchId = paymentMatchId := by simpa using List.find?_some hfound
  refine ⟨hop, hid, hkey, htype, hfingerprint, by rw [hmid]; exact hfound, hcreated, hnamed,
    ⟨type, event, htype ▸ hdecided, hevents, htime, ?_⟩, htraced.posted event hmem id hevent⟩
  cases replayed with
  | true => rfl
  | false => rw [hfresh rfl]; rfl

theorem OperationFits.readOperation {row : FinancialOperation} (h : OperationFits row db) :
    readOperation (db.withOperation row) row.financialOperationId = some row := by
  refine find?_append_new (fun o ho => ?_) (decide_eq_true rfl)
  have hnew := List.all_eq_true.mp h.isNew o ho
  simp only [Bool.and_eq_true, decide_eq_true_eq] at hnew
  exact decide_eq_false hnew.1.1

/-- The match of a settlement is found by its identifier and by its operation. -/
theorem Settles.found {s : SettlementFacts} (h : Settles s db) :
    readPaymentMatch (s.recorded db) s.paymentMatchId = some s.paymentMatch ∧
      readPaymentMatchByCreationOperation (s.recorded db) s.operation.financialOperationId = some s.paymentMatch := by
  have hnew := h.isNew
  simp only [FinanceDb.matchIsNew, List.all_eq_true, Bool.and_eq_true, decide_eq_true_eq] at hnew
  constructor
  · exact find?_append_new (fun m hm => decide_eq_false (hnew m hm).1.1.1.1) (decide_eq_true rfl)
  · exact find?_append_new (fun m hm => decide_eq_false (hnew m hm).1.1.2) (decide_eq_true rfl)

theorem recordManualSettlement_decided {input : ManualSettlementInput} {entry : LedgerEntry} {order : PaymentOrder}
    {paymentMatchId : Uuid} {now : Nat} {result : FinancialDecisionResult} (hkeys : Keys db)
    (horder : order ∈ db.orders.orders) (hentry : entry ∈ db.ledger.entries) (hnow : db.orders.clock = now)
    (htraced : Traced db')
    (hx : recordManualSettlement pf input entry order paymentMatchId now db = .ok (result, db')) :
    ∃ m, Decided pf input.financialOperationId (Decision.settle input).request result m db' := by
  subst hnow
  unfold recordManualSettlement at hx
  obtain ⟨_, d, hstale, hx⟩ := bind_ok.mp hx
  have hd : Beside pf db d := supersedeStaleEligibleCandidates_ok hstale
  rw [insertFinancialOperation_bind_ok] at hx
  generalize hrow : OperationInsert.row pf _ = row at hx
  obtain ⟨hfits, hx⟩ := hx
  have hid : row.financialOperationId = input.financialOperationId := by rw [← hrow]; rfl
  have hkey : row.operationKey = .admin input.financialOperationId := by rw [← hrow]; rfl
  have htype : row.operationType = .MANUAL_SETTLEMENT := by rw [← hrow]; rfl
  have hclock : row.createdAt = d.orders.clock := by rw [← hrow, hd.orders]; rfl
  obtain ⟨_, d', hsettle, hx⟩ := bind_ok.mp hx
  have hmade : (manualSettlement input entry order row paymentMatchId db.orders.clock).operation = row := rfl
  have hfingerprint : row.requestFingerprint = financialOperationFingerprint pf ((Decision.settle input).request.fingerprintInput
      (manualSettlement input entry order row paymentMatchId db.orders.clock).paymentMatch row.reversesOperationId) := by
    rw [← hrow]; rfl
  have horder' : order ∈ (d.withOperation row).orders.orders := by rw [← hd.orders] at horder; exact horder
  have hentry' : entry ∈ (d.withOperation row).ledger.entries := by rw [← hd.ledger] at hentry; exact hentry
  obtain ⟨hanswers, rfl⟩ := decisionResult_ok.mp hx
  have hrecord : Move pf d (d.withOperation row) := .operation row hfits hclock (by rw [← hrow]; rfl)
  have hkeys' : Keys (d.withOperation row) := (hkeys.moves hd.moves).move hrecord
  obtain ⟨hsettles, hresolve⟩ :=
    (recordSettlement_ok hkeys'.orders.orderIds horder' hkeys'.entries hentry').mp hsettle
  obtain ⟨exceptions, -, rfl⟩ := resolveEntryExceptions_ok hresolve
  obtain ⟨hfound, hcreated⟩ := hsettles.found
  have hop := hfits.readOperation
  rw [hmade] at hcreated
  rw [hid] at hop hcreated
  refine ⟨_, .of_answers htraced hanswers hop hkey htype hfingerprint hfound (fun _ => hcreated) nofun fun _ => ?_⟩
  unfold replayedPaymentMatch
  rw [htype, hclock, hd.orders]
  rfl

theorem settlementMatchId_found {start : FinanceDb} {operationId paymentMatchId : Uuid} {operation : FinancialOperation}
    {m : PaymentMatch} (hop : readOperation start operationId = some operation)
    (htype : operation.operationType = .MANUAL_SETTLEMENT)
    (hm : readPaymentMatchByCreationOperation start operation.financialOperationId = some m) :
    settlementMatchId start operationId db = .ok (paymentMatchId, db') ↔ paymentMatchId = m.paymentMatchId ∧ db' = db := by
  have hfilter : (some operation).filter (fun o => o.operationType = .MANUAL_SETTLEMENT) = some operation :=
    Option.filter_some_pos (decide_eq_true htype)
  unfold settlementMatchId
  simp only [hop, hfilter, hm, pure_ok]
  exact ⟨fun h => ⟨h.1.symm, h.2.symm⟩, fun h => ⟨h.1.symm, h.2.symm⟩⟩

theorem settleManually_decided {input : ManualSettlementInput} {result : FinancialDecisionResult} (hkeys : Keys db)
    (htraced : Traced db) (hx : settleManually pf input db = .ok (result, db')) :
    ∃ m, Decided pf input.financialOperationId (Decision.settle input).request result m db' := by
  have htraced' : Traced db' := (settleManually_moves hkeys hx).invariant (fun h hm => h.move hm) htraced
  unfold settleManually at hx
  obtain ⟨_, d, hsite, hx⟩ := bind_ok.mp hx
  obtain ⟨-, rfl⟩ := assertSiteOrder_ok hsite
  obtain ⟨d, hd, -, -, -, hx⟩ := financialNow_moves pf hx
  have hkeys' := hkeys.moves hd
  rw [readWith_bind_ok] at hx
  obtain ⟨paymentMatchId, d1, hmatchId, hx⟩ := bind_ok.mp hx
  obtain ⟨drawn, rfl⟩ := settlementMatchId_ok hmatchId
  obtain ⟨replay, d2, hreplay, hx⟩ := bind_ok.mp hx
  obtain ⟨hread, rfl, hsame⟩ := readDecisionReplay_ok hreplay
  cases replay with
  | none =>
    simp only [replayOr, settleNewly] at hx
    obtain ⟨_, d3, hledger, hx⟩ := bind_ok.mp hx
    obtain rfl := assertSiteLedger_ok hledger
    obtain ⟨entry, d4, hentryRead, hx⟩ := bind_ok.mp hx
    obtain ⟨hentry, -, rfl⟩ := requireLedgerEntry_ok hentryRead
    obtain ⟨order, horder, -, hx⟩ := requireOrderDecision_bind_ok hx
    rw [readWith_bind_ok, require_bind_ok] at hx
    have hdrew : Move pf d { d with drawn := drawn } := .drew drawn
    exact recordManualSettlement_decided (hkeys'.move hdrew) horder hentry rfl htraced' hx.2
  | some operation =>
    obtain ⟨hkey, hfingerprint, htype⟩ := hsame operation rfl
    obtain ⟨hanswers, rfl⟩ := decisionResult_ok.mp hx
    have hop : readOperation d input.financialOperationId = some operation := hread.symm
    -- the event of the operation has a match that the operation made, which is the one answered
    obtain ⟨m, type, event, hm, hdecided, hevents, -⟩ := hanswers.found
    obtain ⟨hmem, heventType, hevent⟩ := mem_decisionEvents hevents
    have hconfirmed : event.type = .PAYMENT_CONFIRMED := by
      rw [heventType]
      rw [htype] at hdecided
      exact (Option.some.inj hdecided).symm
    obtain ⟨m', hm', hcreatedBy⟩ := htraced'.matched event hmem _ hevent hconfirmed
    have hisMade : (readPaymentMatchByCreationOperation d operation.financialOperationId).isSome :=
      List.find?_isSome.mpr ⟨m', hm', decide_eq_true hcreatedBy⟩
    obtain ⟨made, hmade⟩ := Option.isSome_iff_exists.mp hisMade
    obtain ⟨rfl, -⟩ := (settlementMatchId_found hop htype hmade).mp hmatchId
    have hmadeMem : made ∈ d.paymentMatches := List.mem_of_find?_eq_some hmade
    have hmid : m.paymentMatchId = made.paymentMatchId := by simpa using List.find?_some hm
    obtain rfl : m = made := hkeys'.paymentMatches.eq (List.mem_of_find?_eq_some hm) hmadeMem hmid
    refine ⟨m, .of_answers htraced' hanswers hop hkey htype hfingerprint hm (fun _ => ?_)
      (fun _ _ _ hreverse => by cases hreverse) (fun hnew => by cases hnew)⟩
    rw [← readOperation_id hop]
    exact hmade

theorem reverseNewly_decided {input : FinancialDecisionInput} {m : PaymentMatch} {result : FinancialDecisionResult}
    (hkeys : Keys db) (hm : readPaymentMatch db input.paymentMatchId = some m) (htraced : Traced db')
    (hx : reverseNewly pf input m db.orders.clock db = .ok (result, db')) :
    ∃ m', Decided pf input.financialOperationId (Decision.reverse input).request result m' db' := by
  have hmem := List.mem_of_find?_eq_some hm
  have hmid : m.paymentMatchId = input.paymentMatchId := by simpa using List.find?_some hm
  unfold reverseNewly at hx
  rw [require_bind_ok] at hx
  obtain ⟨⟨hsettled, -⟩, hx⟩ := hx
  obtain ⟨entry, d, hfound, hx⟩ := bind_ok.mp hx
  obtain ⟨hentry, -, rfl⟩ := requireLedgerEntry_ok hfound
  obtain ⟨_, d, hsite, hx⟩ := bind_ok.mp hx
  obtain rfl := assertSiteLedger_ok hsite
  obtain ⟨order, horder, -, hx⟩ := requireOrderDecision_bind_ok hx
  rw [require_bind_ok] at hx
  obtain ⟨amount, exceptions, drawn, hfits, -, -, rfl, hanswers⟩ :=
    recordReversal_ok hkeys.orders.orderIds horder hkeys.entries hentry hkeys.paymentMatches hmem hsettled hx.2
  have hreversed : readPaymentMatch (ReversalFacts.recorded ⟨reversalRow pf input m db.orders.clock, m, entry, order,
        amount, db.orders.clock⟩ (db.withOperation (reversalRow pf input m db.orders.clock))) input.paymentMatchId =
      some (m.reverse input.financialOperationId db.orders.clock) := by
    refine (find?_withReversed (fun _ => rfl) hm).trans ?_
    rw [if_pos (by simp [hsettled])]
    rfl
  refine ⟨m.reverse input.financialOperationId db.orders.clock, .of_answers htraced hanswers hfits.readOperation
    rfl rfl rfl ?_ nofun ?_ fun _ => rfl⟩
  · rw [hmid]
    exact hreversed
  · intro _ _ _ h
    cases h
    exact hmid

theorem reverseSettlement_decided {input : FinancialDecisionInput} {result : FinancialDecisionResult} (hkeys : Keys db)
    (htraced : Traced db) (hx : reverseSettlement pf input db = .ok (result, db')) :
    ∃ m, Decided pf input.financialOperationId (Decision.reverse input).request result m db' := by
  have htraced' : Traced db' := (reverseSettlement_moves hkeys hx).invariant (fun h hm => h.move hm) htraced
  unfold reverseSettlement at hx
  obtain ⟨d, hd, -, -, -, hx⟩ := financialNow_moves pf hx
  rw [readWith_bind_ok, orFail_bind_ok] at hx
  obtain ⟨m, hm, hx⟩ := hx
  obtain ⟨_, d', hsite, hx⟩ := bind_ok.mp hx
  obtain ⟨-, rfl⟩ := assertSiteOrder_ok hsite
  rw [readWith_bind_ok] at hx
  obtain ⟨replay, d2, hreplay, hx⟩ := bind_ok.mp hx
  obtain ⟨hread, hd2, hsame⟩ := readDecisionReplay_ok hreplay
  subst hd2
  cases replay with
  | none => exact reverseNewly_decided (hkeys.moves hd) hm htraced' hx
  | some operation =>
    obtain ⟨hkey, hfingerprint, htype⟩ := hsame operation rfl
    obtain ⟨hanswers, rfl⟩ := decisionResult_ok.mp hx
    have hmid : m.paymentMatchId = input.paymentMatchId := by simpa using List.find?_some hm
    have hreverses : reversedOperationId db' input.financialOperationId m = operation.reversesOperationId := by
      have hfilter : (some operation).filter (fun o => o.operationType = .REVERSE_SETTLEMENT) = some operation :=
        Option.filter_some_pos (decide_eq_true htype)
      unfold reversedOperationId
      rw [← hread, hfilter]
    rw [id, hreverses] at hfingerprint
    exact ⟨m, .of_answers htraced' hanswers hread.symm hkey htype hfingerprint (hmid.symm ▸ hm) nofun
      (fun _ _ _ h => by cases h; exact hmid) nofun⟩

theorem Decision.decided {d : Decision} {result : FinancialDecisionResult} (hkeys : Keys db) (htraced : Traced db)
    (hx : d.call pf db = .ok (result, db')) : ∃ m, Decided pf d.operationId d.request result m db' := by
  cases d with
  | settle input => exact settleManually_decided hkeys htraced hx
  | reverse input => exact reverseSettlement_decided hkeys htraced hx

end PerPay.Finance
