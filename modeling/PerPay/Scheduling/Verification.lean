/-
  **What a verification of an order is worth** — `verifyOrder` and the runs it waits for.

  A caller of `verifyOrder` looks at the result of the run it awaited, and at the two maps that hold the
  orders still to be reconciled.  A run that fails for an order leaves a trace of it in the maps, as
  long as it schedules a retry; when the retries are spent it leaves none.  If that run is not the one
  the caller awaits, the caller takes the order for reconciled (`verified_unreconciled`).

  Where no run gives up an order under the eyes of an older verification, a verification tells the
  truth (`verifications_honest`).  The invariant says, of every open verification, what will keep it
  from succeeding until the order has been reconciled.
-/
import PerPay.Scheduling.Turns

namespace PerPay.Scheduling

open Finance Ledger Orders

variable {options : ReconciliationSchedulerOptions} {pf : FinancePlatform}

/-! ## The statement -/

/-- A `reconcileOrder` of the order began after the call of `verifyOrder`, and did not throw. -/
def Served (log : List Event) (id : Nat) (orderId : Uuid) : Prop :=
  ∃ since before, log = since ++ .verifyCalled id orderId :: before ∧ .orderReconciled orderId true ∈ since

/-- A verification succeeds only when it is served. -/
def Honest (log : List Event) : Prop :=
  ∀ later id orderId earlier, log = later ++ .verified id orderId :: earlier → Served earlier id orderId

/-- The orders that a run gives up: their reconciliation throws, and no retry is left. -/
def World.givenUp (options : ReconciliationSchedulerOptions) (pf : FinancePlatform) (answers : Uuid → OrderAnswer) :
    List (Sigma fun _ : Uuid => Nat) → World × RunCounts → List Uuid
  | [], _ => []
  | queued :: rest, s =>
    (if (callReconcileOrder pf queued.1 options.batchSize (answers queued.1) s.1.store).results = none ∧
        options.maximumOrderRetryAttempts < queued.2 + 1 then [queued.1] else []) ++
      givenUp options pf answers rest (World.runOrder options pf answers s queued)

/-- A run gives up an order only when every open verification of the order awaits this very run. -/
def Attended (options : ReconciliationSchedulerOptions) (pf : FinancePlatform) (w : World) : Input → Prop
  | .job outside => ∀ run reason jobs, w.jobs = .start run reason :: jobs → World.safeNow outside.clockAtStart ≠ none →
      ∀ orderId ∈ World.givenUp options pf outside.orders w.queuedOrders ({ w with jobs }, ⟨0, 0, 0, 0⟩),
        ∀ id, (∀ r, (r, .verification id orderId) ∈ w.waiting → r = run) ∧
          ∀ outcome, .resume (.verification id orderId) outcome ∉ w.jobs
  | _ => True

/-! ## Logs -/

theorem Served.append {log : List Event} {id : Nat} {orderId : Uuid} (h : Served log id orderId) (new : List Event) :
    Served (new ++ log) id orderId := by
  obtain ⟨since, before, rfl, hmem⟩ := h
  exact ⟨new ++ since, before, (List.append_assoc ..).symm, List.mem_append_right _ hmem⟩

theorem served_of_reconciled {log new : List Event} {id : Nat} {orderId : Uuid}
    (hcalled : .verifyCalled id orderId ∈ log) (h : .orderReconciled orderId true ∈ new) :
    Served (new ++ log) id orderId := by
  obtain ⟨since, before, rfl⟩ := List.append_of_mem hcalled
  exact ⟨new ++ since, before, (List.append_assoc ..).symm, List.mem_append_left _ h⟩

/-- None of the events is the success of a verification. -/
def Quiet (events : List Event) : Prop := ∀ id orderId, .verified id orderId ∉ events

theorem Quiet.nil : Quiet [] := fun _ _ => List.not_mem_nil

theorem Quiet.append {new new' : List Event} (h : Quiet new) (h' : Quiet new') : Quiet (new ++ new') :=
  fun id orderId hmem => (List.mem_append.mp hmem).elim (h id orderId) (h' id orderId)

theorem Quiet.single {event : Event} (h : ∀ id orderId, event ≠ .verified id orderId) : Quiet [event] :=
  fun id orderId hmem => h id orderId (List.mem_singleton.mp hmem).symm

theorem Honest.append {log new : List Event} (h : Honest log) (hq : Quiet new) : Honest (new ++ log) := by
  intro later id orderId earlier heq
  rcases List.append_eq_append_iff.mp heq with ⟨between, hlater, hlog⟩ | ⟨between, hnew, hverified⟩
  · exact h between id orderId earlier hlog
  · cases between with
    | nil => exact h [] id orderId earlier hverified.symm
    | cons event between =>
      obtain ⟨rfl, -⟩ := List.cons.inj hverified
      exact absurd (hnew ▸ List.mem_append_right _ List.mem_cons_self) (hq id orderId)

theorem Honest.verified {log : List Event} (h : Honest log) {id : Nat} {orderId : Uuid} (hserved : Served log id orderId) :
    Honest (.verified id orderId :: log) := by
  intro later id' orderId' earlier heq
  cases later with
  | nil =>
    obtain ⟨hevent, rfl⟩ := List.cons.inj heq
    obtain ⟨rfl, rfl⟩ := Event.verified.inj hevent
    exact hserved
  | cons event later => exact h later id' orderId' earlier (List.cons.inj heq).2

namespace World

/-! ## What a turn does to the orders -/

/-- The work of a turn: it reconciles, and schedules retries. -/
structure Works (s s' : World × RunCounts) : Prop where
  log : ∃ new, s'.1.log = new ++ s.1.log ∧ Quiet new
  scheduled : ∀ orderId ∈ s.1.scheduledOrderRetries, orderId ∈ s'.1.scheduledOrderRetries
  failures : s.2.failures ≤ s'.2.failures

theorem Works.refl (s : World × RunCounts) : Works s s := ⟨⟨[], rfl, .nil⟩, fun _ h => h, Nat.le_refl _⟩

theorem Works.trans {s m s' : World × RunCounts} (h : Works s m) (h' : Works m s') : Works s s' := by
  obtain ⟨new, heq, hq⟩ := h.log
  obtain ⟨new', heq', hq'⟩ := h'.log
  exact ⟨⟨new' ++ new, by rw [heq', heq, List.append_assoc], hq'.append hq⟩,
    fun orderId hs => h'.scheduled orderId (h.scheduled orderId hs), h.failures.trans h'.failures⟩

theorem Works.served {s s' : World × RunCounts} (h : Works s s') {id : Nat} {orderId : Uuid}
    (hserved : Served s.1.log id orderId) : Served s'.1.log id orderId := by
  obtain ⟨new, heq, -⟩ := h.log
  rw [heq]
  exact hserved.append new

theorem mem_scheduleOrderRetry {orderId orderId' : Uuid} {retryNumber : Nat} {w : World}
    (h : orderId' ∈ w.scheduledOrderRetries) : orderId' ∈ (w.scheduleOrderRetry options orderId retryNumber).scheduledOrderRetries := by
  unfold scheduleOrderRetry
  split
  · exact h
  · exact AList.mem_insert _ |>.mpr (.inr h)

theorem scheduleOrderRetry_log (orderId : Uuid) (retryNumber : Nat) (w : World) :
    (w.scheduleOrderRetry options orderId retryNumber).log = w.log := by
  unfold scheduleOrderRetry
  split
  · rfl
  · rfl

theorem orderDone_works (orderId : Uuid) (call : OrderCall) (s : World × RunCounts) :
    Works s (s.1.orderDone orderId call, s.2) := by
  refine ⟨⟨[.orderReconciled orderId call.results.isSome] ++ call.passed.reverse.map .entryReconciled, ?_, ?_⟩,
    fun _ h => h, Nat.le_refl _⟩
  · simp only [orderDone, List.cons_append, List.nil_append]
  · refine (Quiet.single (by intro _ _ h; cases h)).append fun id orderId' hmem => ?_
    obtain ⟨_, -, heq⟩ := List.mem_map.mp hmem
    cases heq

theorem recordOrder_works (queued : Sigma fun _ : Uuid => Nat) (call : OrderCall) (s : World × RunCounts) :
    Works s (recordOrder options queued call s) := by
  have hdone := orderDone_works queued.1 call s
  unfold recordOrder
  cases call.results with
  | some results => exact hdone.trans ⟨⟨[], rfl, .nil⟩, fun _ h => h, Nat.le_refl _⟩
  | none =>
    exact hdone.trans ⟨⟨[], scheduleOrderRetry_log _ _ _, .nil⟩, fun _ h => mem_scheduleOrderRetry h, Nat.le_succ _⟩

theorem foldl_runOrder_works (answers : Uuid → OrderAnswer) (orders : List (Sigma fun _ : Uuid => Nat)) :
    ∀ s : World × RunCounts, Works s (orders.foldl (runOrder options pf answers) s) := by
  induction orders with
  | nil => exact fun s => .refl s
  | cons queued rest ih => exact fun s => (recordOrder_works queued _ s).trans (ih _)

/-- What has become of an order that a run took from the queue: whoever asked for it is served, or the
    run has failed and the order will be retried, unless it is among those given up. -/
def Dealt (called : List Event) (s : World × RunCounts) (givenUp : List Uuid) (orderId : Uuid) : Prop :=
  (∀ id, .verifyCalled id orderId ∈ called → Served s.1.log id orderId) ∨
    (0 < s.2.failures ∧ (orderId ∈ s.1.scheduledOrderRetries ∨ orderId ∈ givenUp))

theorem recordOrder_dealt {queued : Sigma fun _ : Uuid => Nat} {call : OrderCall} {s : World × RunCounts}
    (hstopped : s.1.stopped = false) :
    Dealt s.1.log (recordOrder options queued call s)
      (if call.results = none ∧ options.maximumOrderRetryAttempts < queued.2 + 1 then [queued.1] else []) queued.1 := by
  unfold recordOrder
  cases hresults : call.results with
  | some results =>
    refine .inl fun id hcalled => ?_
    have hlog : (s.1.orderDone queued.1 call).log =
        (.orderReconciled queued.1 true :: call.passed.reverse.map .entryReconciled) ++ s.1.log := by
      simp only [orderDone, hresults, Option.isSome_some, List.cons_append]
    show Served (s.1.orderDone queued.1 call).log id queued.1
    rw [hlog]
    exact served_of_reconciled hcalled List.mem_cons_self
  | none =>
    refine .inr ⟨Nat.succ_pos _, ?_⟩
    by_cases hleft : options.maximumOrderRetryAttempts < queued.2 + 1
    · rw [if_pos ⟨rfl, hleft⟩]
      exact .inr (List.mem_singleton.mpr rfl)
    · left
      show queued.1 ∈ (scheduleOrderRetry options queued.1 (queued.2 + 1) _).scheduledOrderRetries
      unfold scheduleOrderRetry
      rw [if_neg]
      · exact AList.mem_insert _ |>.mpr (.inl rfl)
      · simp only [Bool.or_eq_true, decide_eq_true_eq, not_or, Bool.not_eq_true]
        exact ⟨hstopped, hleft⟩

theorem foldl_runOrder_dealt (answers : Uuid → OrderAnswer) (called : List Event)
    (orders : List (Sigma fun _ : Uuid => Nat)) : ∀ s : World × RunCounts, s.1.stopped = false →
      (∃ new, s.1.log = new ++ called) → ∀ queued ∈ orders,
        Dealt called (orders.foldl (runOrder options pf answers) s) (givenUp options pf answers orders s) queued.1 := by
  induction orders with
  | nil => exact fun _ _ _ _ hmem => absurd hmem List.not_mem_nil
  | cons first rest ih =>
    intro s hstopped hlog queued hmem
    obtain ⟨new, hnew⟩ := hlog
    have hworks : Works (runOrder options pf answers s first)
        (rest.foldl (runOrder options pf answers) (runOrder options pf answers s first)) := foldl_runOrder_works answers rest _
    rcases List.mem_cons.mp hmem with rfl | hmem
    · have hdealt : Dealt s.1.log (runOrder options pf answers s queued) _ queued.1 := recordOrder_dealt hstopped
      rcases hdealt with hserved | ⟨hfailed, htraced⟩
      · refine .inl fun id hcalled => hworks.served (hserved id ?_)
        rw [hnew]
        exact List.mem_append_right _ hcalled
      · exact .inr ⟨hfailed.trans_le hworks.failures, htraced.imp (hworks.scheduled _) (List.mem_append_left _)⟩
    · have hfirst : Works s (runOrder options pf answers s first) := recordOrder_works first _ s
      obtain ⟨new', hnew', -⟩ := hfirst.log
      have hrest := ih (runOrder options pf answers s first) ((recordOrder_loop first _ s).stopped.trans hstopped)
        ⟨new' ++ new, by rw [List.append_assoc, ← hnew]; exact hnew'⟩ queued hmem
      exact hrest.imp_right fun ⟨hfailed, htraced⟩ => ⟨hfailed, htraced.imp_right (List.mem_append_right _)⟩

/-- Every order in the queue is dealt with by the next run. -/
theorem runOrders_dealt {answers : Uuid → OrderAnswer} {w : World} (hstopped : w.stopped = false) {orderId : Uuid}
    (hmem : orderId ∈ w.pendingOrders) :
    Dealt w.log (w.runOrders options pf answers) (givenUp options pf answers w.queuedOrders (w, ⟨0, 0, 0, 0⟩)) orderId := by
  obtain ⟨n, hentry⟩ := List.exists_of_mem_keys (AList.mem_keys.mp hmem)
  refine foldl_runOrder_dealt answers w.log w.queuedOrders (w, _) hstopped ⟨[], rfl⟩ ⟨orderId, n⟩ ?_
  exact (List.perm_insertionSort _ _).mem_iff.mpr hentry

/-- The pages of a run touch neither the queue nor the retries of orders. -/
structure Sweeps (s s' : World × RunCounts) : Prop extends Works s s' where
  pending : s'.1.pendingOrders = s.1.pendingOrders

theorem Sweeps.trans {s m s' : World × RunCounts} (h : Sweeps s m) (h' : Sweeps m s') : Sweeps s s' :=
  ⟨h.toWorks.trans h'.toWorks, h'.pending.trans h.pending⟩

theorem runEntries_sweeps (answers : Nat → EntryAnswer) (ids : List String) :
    ∀ (k : Nat) (s : World × RunCounts), Sweeps s (runEntries pf answers ids k s) := by
  induction ids with
  | nil => exact fun _ s => ⟨.refl s, rfl⟩
  | cons ledgerEntryId rest ih =>
    intro k s
    have hentry (call : Option ReconcileEntryResult × FinanceDb) : Sweeps s (recordEntry ledgerEntryId call s) := by
      refine ⟨⟨⟨[.entryReconciled ledgerEntryId], rfl, .single (by intro _ _ h; cases h)⟩, fun _ h => h, ?_⟩, rfl⟩
      unfold recordEntry RunCounts.entryDone
      split
      · split
        · exact Nat.le_refl _
        · exact Nat.le_refl _
      · exact Nat.le_succ _
    exact (hentry _).trans (ih (k + 1) _)

theorem pageFailed_sweeps (s : World × RunCounts) : Sweeps s (s.1.pageFailed, s.2.failed) := by
  have hlog : s.1.pageFailed.log = [.pageFailed] ++ s.1.log ∧
      s.1.pageFailed.scheduledOrderRetries = s.1.scheduledOrderRetries ∧ s.1.pageFailed.pendingOrders = s.1.pendingOrders := by
    unfold pageFailed scheduleSweepRetry
    split
    · exact ⟨rfl, rfl, rfl⟩
    · exact ⟨rfl, rfl, rfl⟩
  refine ⟨⟨⟨_, hlog.1, .single (by intro _ _ h; cases h)⟩, fun orderId h => ?_, Nat.le_succ _⟩, hlog.2.2⟩
  show orderId ∈ s.1.pageFailed.scheduledOrderRetries
  rw [hlog.2.1]
  exact h

theorem closePage_sweeps (page : PendingLedgerPage) (s : World × RunCounts) : Sweeps s (closePage options page s).1 := by
  unfold closePage
  split
  · exact ⟨⟨⟨[], rfl, .nil⟩, fun _ h => h, Nat.le_refl _⟩, rfl⟩
  · split
    · exact ⟨⟨⟨[], rfl, .nil⟩, fun _ h => h, Nat.le_refl _⟩, rfl⟩
    · exact ⟨⟨⟨[], rfl, .nil⟩, fun _ h => h, Nat.le_refl _⟩, rfl⟩

theorem runPage_sweeps (outside : Outside) (s : World × RunCounts) : Sweeps s (runPage options pf outside s).1 := by
  unfold runPage
  split
  · exact ⟨.refl s, rfl⟩
  · split
    · exact pageFailed_sweeps s
    · exact (runEntries_sweeps outside.entries _ 0 s).trans (closePage_sweeps _ _)

/-! ## What keeps an open verification from succeeding -/

/-- The order is queued, or will be. -/
def Traced (w : World) (orderId : Uuid) : Prop := orderId ∈ w.pendingOrders ∨ orderId ∈ w.scheduledOrderRetries

/-- The outcome of the run is on its way to those who await it. -/
def Carries (w : World) (run : Nat) (outcome : RunOutcome) : Prop :=
  ∃ ticks, .settle run outcome ticks ∈ w.jobs ∨ .relay run outcome ticks ∈ w.jobs

/-- What the run in flight owes to a verification that awaits it. -/
def Phase.Owes (w : World) (orderId : Uuid) : Phase → Prop
  | .queued _ => orderId ∈ w.pendingOrders
  | .parked _ counts => 0 < counts.failures ∨ Traced w orderId
  | .ended => True

/-- Whoever awaits the run will find it failed, or a trace of the order. -/
structure Expects (w : World) (run : Nat) (orderId : Uuid) : Prop where
  inFlight : ∀ phase, w.inFlight = some ⟨run, phase⟩ → Phase.Owes w orderId phase
  carried : ∀ outcome, Carries w run outcome → Bad outcome ∨ Traced w orderId

/-- Every open verification was called, and is served or will not succeed. -/
structure Sound (w : World) : Prop where
  honest : Honest w.log
  waiting : ∀ run id orderId, (run, .verification id orderId) ∈ w.waiting →
    .verifyCalled id orderId ∈ w.log ∧ (w.stopped = false → Served w.log id orderId ∨ Expects w run orderId)
  resumed : ∀ outcome id orderId, .resume (.verification id orderId) outcome ∈ w.jobs →
    .verifyCalled id orderId ∈ w.log ∧
      (w.stopped = false → Served w.log id orderId ∨ Bad outcome ∨ Traced w orderId)

theorem Sound.fresh {w : World} (h : Fresh pf w) : Sound w where
  honest := by
    rw [h.log]
    intro later id orderId earlier heq
    exact absurd heq.symm (List.append_ne_nil_of_right_ne_nil _ (List.cons_ne_nil _ _))
  waiting := by rw [h.waiting]; exact nofun
  resumed := by rw [h.jobs]; exact nofun

/-- A step that takes nothing from an open verification. -/
structure Gentle (w w' : World) : Prop where
  log : ∃ new, w'.log = new ++ w.log ∧ Quiet new
  stopped : w'.stopped = false → w.stopped = false
  pending : w'.stopped = false → ∀ orderId ∈ w.pendingOrders, orderId ∈ w'.pendingOrders
  traced : w'.stopped = false → ∀ orderId, Traced w orderId → Traced w' orderId
  waiting : ∀ run id orderId, (run, .verification id orderId) ∈ w'.waiting → (run, .verification id orderId) ∈ w.waiting
  resumed : ∀ outcome id orderId, .resume (.verification id orderId) outcome ∈ w'.jobs →
    .resume (.verification id orderId) outcome ∈ w.jobs
  carried : ∀ run outcome, Carries w' run outcome → Carries w run outcome
  inFlight : ∀ r, w'.inFlight = some r → w.inFlight = some r ∨ w.nextRun ≤ r.run

theorem Gentle.refl (w : World) : Gentle w w :=
  ⟨⟨[], rfl, .nil⟩, id, fun _ _ h => h, fun _ _ h => h, fun _ _ _ h => h, fun _ _ _ h => h, fun _ _ h => h, fun _ h => .inl h⟩

theorem Sound.gentle {w w' : World} (h : Sound w) (ho : Orderly w) (hg : Gentle w w') : Sound w' := by
  obtain ⟨new, hlog, hquiet⟩ := hg.log
  have hcalled {id : Nat} {orderId : Uuid} (hc : .verifyCalled id orderId ∈ w.log) : .verifyCalled id orderId ∈ w'.log := by
    rw [hlog]
    exact List.mem_append_right _ hc
  have hserved {id : Nat} {orderId : Uuid} (hs : Served w.log id orderId) : Served w'.log id orderId := by
    rw [hlog]
    exact hs.append new
  constructor
  · rw [hlog]
    exact h.honest.append hquiet
  · intro run id orderId hmem
    obtain ⟨hc, hkept⟩ := h.waiting run id orderId (hg.waiting run id orderId hmem)
    refine ⟨hcalled hc, fun hstopped => ?_⟩
    rcases hkept (hg.stopped hstopped) with hs | hexpects
    · exact .inl (hserved hs)
    · refine .inr ⟨fun phase hf => ?_, fun outcome hcarried => ?_⟩
      · rcases hg.inFlight _ hf with hf | hnew
        · have howes := hexpects.inFlight phase hf
          cases phase with
          | queued reason => exact hg.pending hstopped orderId howes
          | parked reason counts => exact howes.imp_right (hg.traced hstopped orderId)
          | ended => trivial
        · exact absurd (ho.waiting _ (hg.waiting run id orderId hmem)) (Nat.not_lt.mpr hnew)
      · exact (hexpects.carried outcome (hg.carried run outcome hcarried)).imp_right (hg.traced hstopped orderId)
  · intro outcome id orderId hmem
    obtain ⟨hc, hkept⟩ := h.resumed outcome id orderId (hg.resumed outcome id orderId hmem)
    refine ⟨hcalled hc, fun hstopped => ?_⟩
    exact (hkept (hg.stopped hstopped)).imp hserved (Or.imp_right (hg.traced hstopped orderId))

/-! ## The gentle steps -/

/-- Nothing but the log, the sweep and the store changes. -/
theorem Gentle.beside {w w' : World} {new : List Event} (hlog : w'.log = new ++ w.log) (hquiet : Quiet new)
    (hloop : SameLoop w w') (hp : w'.pendingOrders = w.pendingOrders)
    (hs : w'.scheduledOrderRetries = w.scheduledOrderRetries) : Gentle w w' where
  log := ⟨new, hlog, hquiet⟩
  stopped := by rw [hloop.stopped]; exact id
  pending := by rw [hp]; exact fun _ _ h => h
  traced := by unfold Traced; rw [hp, hs]; exact fun _ _ h => h
  waiting := by rw [hloop.waiting]; exact fun _ _ _ h => h
  resumed := by rw [hloop.jobs]; exact fun _ _ _ h => h
  carried := by unfold Carries; rw [hloop.jobs]; exact fun _ _ h => h
  inFlight := by rw [hloop.inFlight]; exact fun _ h => .inl h

/-- Only the queue of jobs changes. -/
theorem Gentle.jobs {w w' : World} {jobs : List Job} (hw' : w' = { w with jobs })
    (hresumed : ∀ waiter outcome, .resume waiter outcome ∈ jobs → .resume waiter outcome ∈ w.jobs)
    (hcarried : ∀ run outcome, Carries w' run outcome → Carries w run outcome) : Gentle w w' := by
  subst hw'
  exact ⟨⟨[], rfl, .nil⟩, id, fun _ _ h => h, fun _ _ h => h, fun _ _ _ h => h, fun _ _ _ h => hresumed _ _ h, hcarried,
    fun _ h => .inl h⟩

theorem Gentle.taken {w : World} {job : Job} {jobs : List Job} (hjobs : w.jobs = job :: jobs) :
    Gentle w { w with jobs } := by
  have hmem {j : Job} (h : j ∈ jobs) : j ∈ w.jobs := hjobs ▸ List.mem_cons_of_mem _ h
  exact .jobs rfl (fun _ _ h => hmem h) fun run outcome ⟨ticks, h⟩ => ⟨ticks, h.imp hmem hmem⟩

theorem Gentle.ensureRun {w m : World} (h : Gentle w m) (hn : m.nextRun = w.nextRun) (reason : String) :
    Gentle w (m.ensureRun reason) := by
  cases hf : m.inFlight with
  | some r =>
    rw [ensureRun_of_some hf]
    exact h
  | none =>
    rw [ensureRun_of_none hf]
    have hjob {job : Job} (hmem : job ∈ m.jobs ++ [.start m.nextRun reason]) (hne : isTurn job = false ∨ ∃ r o t, job = .settle r o t) :
        job ∈ m.jobs := by
      rcases List.mem_append.mp hmem with hmem | hmem
      · exact hmem
      · obtain rfl := List.mem_singleton.mp hmem
        rcases hne with hne | ⟨_, _, _, heq⟩
        · cases hne
        · cases heq
    exact {
      log := h.log
      stopped := h.stopped
      pending := h.pending
      traced := h.traced
      waiting := h.waiting
      resumed := fun outcome id orderId hmem => h.resumed outcome id orderId (hjob hmem (.inl rfl))
      carried := fun run outcome ⟨ticks, hmem⟩ => h.carried run outcome
        ⟨ticks, hmem.imp (fun hmem => hjob hmem (.inr ⟨_, _, _, rfl⟩)) fun hmem => hjob hmem (.inl rfl)⟩
      inFlight := fun r hr => .inr (by
        obtain rfl := Option.some.inj hr
        exact hn.ge) }

theorem Gentle.trans {w m w' : World} (h : Gentle w m) (h' : Gentle m w') (hn : w.nextRun ≤ m.nextRun) : Gentle w w' := by
  obtain ⟨new, hlog, hquiet⟩ := h.log
  obtain ⟨new', hlog', hquiet'⟩ := h'.log
  exact {
    log := ⟨new' ++ new, by rw [hlog', hlog, List.append_assoc], hquiet'.append hquiet⟩
    stopped := fun hs => h.stopped (h'.stopped hs)
    pending := fun hs orderId hmem => h'.pending hs orderId (h.pending (h'.stopped hs) orderId hmem)
    traced := fun hs orderId ht => h'.traced hs orderId (h.traced (h'.stopped hs) orderId ht)
    waiting := fun run id orderId hmem => h.waiting run id orderId (h'.waiting run id orderId hmem)
    resumed := fun outcome id orderId hmem => h.resumed outcome id orderId (h'.resumed outcome id orderId hmem)
    carried := fun run outcome hc => h.carried run outcome (h'.carried run outcome hc)
    inFlight := fun r hr => (h'.inFlight r hr).elim (h.inFlight r) fun hle => .inr (hn.trans hle) }

theorem mem_enqueue (w : World) (orderId : Uuid) : orderId ∈ (w.enqueue orderId).pendingOrders := by
  show orderId ∈ (if orderId ∈ w.pendingOrders then w.pendingOrders else _)
  split
  · next h => exact h
  · exact AList.mem_insert _ |>.mpr (.inl rfl)

theorem enqueue_gentle (w : World) (orderId : Uuid) : Gentle w (w.enqueue orderId) := by
  have hpending {orderId' : Uuid} (h : orderId' ∈ w.pendingOrders) : orderId' ∈ (w.enqueue orderId).pendingOrders := by
    show orderId' ∈ (if orderId ∈ w.pendingOrders then w.pendingOrders else _)
    split
    · exact h
    · exact AList.mem_insert _ |>.mpr (.inr h)
  refine ⟨⟨[], rfl, .nil⟩, id, fun _ _ h => hpending h, fun _ orderId' ht => ?_, fun _ _ _ h => h, fun _ _ _ h => h,
    fun _ _ h => h, fun _ h => .inl h⟩
  rcases ht with ht | ht
  · exact .inl (hpending ht)
  · by_cases heq : orderId' = orderId
    · exact .inl (heq ▸ mem_enqueue w orderId)
    · exact .inr (AList.mem_erase.mpr ⟨heq, ht⟩)

theorem requeue_gentle (w : World) (orderId : Uuid) (retryNumber : Nat) : Gentle w (w.requeue orderId retryNumber) := by
  refine ⟨⟨[], rfl, .nil⟩, id, fun _ _ h => AList.mem_insert _ |>.mpr (.inr h), fun _ orderId' ht => ?_, fun _ _ _ h => h,
    fun _ _ _ h => h, fun _ _ h => h, fun _ h => .inl h⟩
  rcases ht with ht | ht
  · exact .inl (AList.mem_insert _ |>.mpr (.inr ht))
  · by_cases heq : orderId' = orderId
    · exact .inl (AList.mem_insert _ |>.mpr (.inl heq))
    · exact .inr (AList.mem_erase.mpr ⟨heq, ht⟩)

/-- A scheduler that is stopped owes nothing any more. -/
theorem close_gentle (w : World) : Gentle w w.close :=
  ⟨⟨[], rfl, .nil⟩, nofun, nofun, nofun, fun _ _ _ h => h, fun _ _ _ h => h, fun _ _ h => h, fun _ h => .inl h⟩

theorem stop_gentle (w : World) : Gentle w w.stop := by
  unfold stop
  split
  · exact .refl w
  · split
    · next hf =>
      obtain ⟨r, hr⟩ := Option.isSome_iff_exists.mp hf
      have hr' : w.close.inFlight = some r := hr
      rw [await_of_some hr']
      refine (close_gentle w).trans ⟨⟨[], rfl, .nil⟩, nofun, nofun, nofun, fun _ _ _ h => ?_, fun _ _ _ h => h,
        fun _ _ h => h, fun _ h => .inl h⟩ (Nat.le_refl _)
      rcases List.mem_append.mp h with h | h
      · exact h
      · cases List.mem_singleton.mp h
    · refine (close_gentle w).trans (.jobs rfl (fun waiter outcome h => ?_) fun run outcome ⟨ticks, h⟩ => ⟨ticks, ?_⟩)
        (Nat.le_refl _)
      · simpa using h
      · simpa [queue] using h

theorem queueOrder_gentle (w : World) (orderId : Uuid) : Gentle w (w.queueOrder orderId) :=
  (enqueue_gentle w orderId).ensureRun rfl _

theorem requestSweep_gentle (w : World) : Gentle w w.requestSweep :=
  .beside (List.singleton_append.symm) (.single (by intro _ _ h; cases h)) ⟨rfl, rfl, rfl, rfl, rfl⟩ rfl rfl

theorem callVerify_gentle (w : World) (orderId : Uuid) : Gentle w (w.callVerify orderId) :=
  .beside (List.singleton_append.symm) (.single (by intro _ _ h; cases h)) ⟨rfl, rfl, rfl, rfl, rfl⟩ rfl rfl

theorem refused_gentle (w : World) (id : Nat) (orderId : Uuid) : Gentle w (w.note (.refused id orderId)) :=
  .beside (List.singleton_append.symm) (.single (by intro _ _ h; cases h)) ⟨rfl, rfl, rfl, rfl, rfl⟩ rfl rfl

/-- The `finally` of a run hands its outcome on. -/
theorem settleRun_gentle {w : World} {run : Nat} {outcome : RunOutcome} {jobs : List Job}
    (hjobs : w.jobs = .settle run outcome 0 :: jobs) : Gentle w (({ w with jobs }).settleRun run outcome) := by
  obtain ⟨next, hnext, heq⟩ := settleRun_eq run outcome { w with jobs }
  rw [heq]
  have hmem {job : Job} (h : job ∈ jobs ++ next ++ [.relay run outcome 1]) (hne : job ≠ .coalesce) :
      job ∈ w.jobs ∨ job = .relay run outcome 1 := by
    rcases List.mem_append.mp h with h | h
    · rcases List.mem_append.mp h with h | h
      · exact .inl (hjobs ▸ List.mem_cons_of_mem _ h)
      · exact absurd (hnext job h) hne
    · exact .inr (List.mem_singleton.mp h)
  refine ⟨⟨[], rfl, .nil⟩, id, fun _ _ h => h, fun _ _ h => h, fun _ _ _ h => h, fun outcome' id orderId h => ?_,
    fun run' outcome' ⟨ticks, h⟩ => ?_, nofun⟩
  · rcases hmem h nofun with h | h
    · exact h
    · cases h
  · rcases h with h | h
    · rcases hmem h nofun with h | h
      · exact ⟨ticks, .inl h⟩
      · cases h
    · rcases hmem h nofun with h | h
      · exact ⟨ticks, .inr h⟩
      · obtain ⟨rfl, rfl, -⟩ := Job.relay.inj h
        exact ⟨0, .inl (hjobs ▸ List.mem_cons_self)⟩

/-- A job that carries an outcome waits for another turn of the queue. -/
theorem requeued_gentle {w : World} {job job' : Job} {jobs : List Job} (hjobs : w.jobs = job :: jobs)
    (hresume : ∀ waiter outcome, job' ≠ .resume waiter outcome)
    (hcarried : ∀ run outcome, (∃ ticks, job' = .settle run outcome ticks ∨ job' = .relay run outcome ticks) →
      ∃ ticks, job = .settle run outcome ticks ∨ job = .relay run outcome ticks) :
    Gentle w (({ w with jobs }).queue job') := by
  have hhead : job ∈ w.jobs := hjobs ▸ List.mem_cons_self
  have hmem {j : Job} (h : j ∈ jobs ++ [job']) : j ∈ w.jobs ∨ j = job' := by
    rcases List.mem_append.mp h with h | h
    · exact .inl (hjobs ▸ List.mem_cons_of_mem _ h)
    · exact .inr (List.mem_singleton.mp h)
  refine .jobs rfl (fun waiter outcome h => ?_) fun run outcome ⟨ticks, h⟩ => ?_
  · rcases hmem h with h | h
    · exact h
    · exact absurd h.symm (hresume waiter outcome)
  · have hcase : Carries w run outcome ∨ ∃ ticks, job' = .settle run outcome ticks ∨ job' = .relay run outcome ticks := by
      rcases h with h | h
      · exact (hmem h).imp (fun h => ⟨ticks, .inl h⟩) fun h => ⟨ticks, .inl h.symm⟩
      · exact (hmem h).imp (fun h => ⟨ticks, .inr h⟩) fun h => ⟨ticks, .inr h.symm⟩
    rcases hcase with hcase | hcase
    · exact hcase
    · obtain ⟨ticks, heq | heq⟩ := hcarried run outcome hcase
      · exact ⟨ticks, .inl (heq ▸ hhead)⟩
      · exact ⟨ticks, .inr (heq ▸ hhead)⟩

/-! ## The steps of a verification -/

theorem Sound.await {w : World} (h : Sound w) {id : Nat} {orderId : Uuid} (hcalled : .verifyCalled id orderId ∈ w.log)
    (hqueued : w.stopped = false → orderId ∈ w.pendingOrders) : Sound (w.await (.verification id orderId)) := by
  cases hf : w.inFlight with
  | none =>
    rw [await_of_none hf]
    exact h
  | some r =>
    rw [await_of_some hf]
    refine ⟨h.honest, fun run id' orderId' hmem => ?_, h.resumed⟩
    rcases List.mem_append.mp hmem with hmem | hmem
    · obtain ⟨hc, hkept⟩ := h.waiting run id' orderId' hmem
      exact ⟨hc, fun hstopped => (hkept hstopped).imp_right fun he => ⟨he.inFlight, he.carried⟩⟩
    · obtain ⟨rfl, heq⟩ := Prod.mk.inj (List.mem_singleton.mp hmem)
      obtain ⟨rfl, rfl⟩ := Waiter.verification.inj heq
      refine ⟨hcalled, fun hstopped => .inr ⟨fun phase _ => ?_, fun _ _ => .inr (.inl (hqueued hstopped))⟩⟩
      cases phase with
      | queued reason => exact hqueued hstopped
      | parked reason counts => exact .inr (.inl (hqueued hstopped))
      | ended => trivial

theorem ensureRun_log (w : World) (reason : String) : (w.ensureRun reason).log = w.log := by
  unfold ensureRun
  split
  · rfl
  · rfl

theorem ensureRun_pendingOrders (w : World) (reason : String) : (w.ensureRun reason).pendingOrders = w.pendingOrders := by
  unfold ensureRun
  split
  · rfl
  · rfl

theorem Sound.verifyOrder {w : World} (h : Sound w) (ho : Orderly w) (orderId : Uuid) : Sound (w.verifyOrder orderId) := by
  unfold World.verifyOrder
  split
  · exact h.gentle ho ((callVerify_gentle w orderId).trans (refused_gentle _ _ _) (Nat.le_refl _))
  · refine Sound.await (h.gentle ho ((callVerify_gentle w orderId).trans (queueOrder_gentle _ orderId) (Nat.le_refl _))) ?_
      fun _ => ?_
    · show _ ∈ (World.ensureRun _ ((w.callVerify orderId).enqueue orderId)).log
      rw [ensureRun_log]
      exact List.mem_cons_self
    · show _ ∈ (World.ensureRun _ ((w.callVerify orderId).enqueue orderId)).pendingOrders
      rw [ensureRun_pendingOrders]
      exact mem_enqueue _ orderId

theorem Sound.verified {w : World} (h : Sound w) {id : Nat} {orderId : Uuid} (hserved : Served w.log id orderId) :
    Sound (w.note (.verified id orderId)) where
  honest := h.honest.verified hserved
  waiting := fun run id' orderId' hmem =>
    (h.waiting run id' orderId' hmem).imp (List.mem_cons_of_mem _) fun hkept hstopped =>
      (hkept hstopped).imp (fun hs => hs.append [_]) fun he => ⟨he.inFlight, he.carried⟩
  resumed := fun outcome id' orderId' hmem =>
    (h.resumed outcome id' orderId' hmem).imp (List.mem_cons_of_mem _) fun hkept hstopped =>
      (hkept hstopped).imp_left fun hs => hs.append [_]

/-- A verification goes on: it is refused, waits for the next run, or has been served. -/
theorem Sound.resume {w : World} {id : Nat} {orderId : Uuid} {outcome : RunOutcome} (h : Sound w) (ho : Orderly w)
    (hcalled : .verifyCalled id orderId ∈ w.log)
    (hkept : w.stopped = false → Served w.log id orderId ∨ Bad outcome ∨ Traced w orderId) :
    Sound (w.resumeVerification id orderId outcome) := by
  cases outcome with
  | none => exact h.gentle ho (refused_gentle w id orderId)
  | some result =>
    show Sound (if _ then _ else if _ then _ else _)
    split
    · next hagain =>
      simp only [Bool.and_eq_true, decide_eq_true_eq] at hagain
      refine Sound.await (h.gentle ho ((Gentle.refl w).ensureRun rfl _)) ?_ fun _ => ?_
      · rw [ensureRun_log]
        exact hcalled
      · rw [ensureRun_pendingOrders]
        exact hagain.2
    · next hagain =>
      split
      · exact h.gentle ho (refused_gentle w id orderId)
      · next hdone =>
        simp only [Bool.or_eq_true, decide_eq_true_eq, not_or, Bool.not_eq_true] at hdone
        simp only [Bool.and_eq_true, Bool.not_eq_true', decide_eq_true_eq, not_and] at hagain
        obtain ⟨⟨hstopped, hfailed⟩, hscheduled⟩ := hdone
        have hserved : Served w.log id orderId := by
          rcases hkept hstopped with hserved | hbad | htraced
          · exact hserved
          · exact absurd (hbad result rfl) hfailed
          · exact (htraced.elim (hagain hstopped) hscheduled).elim
        exact h.verified hserved

/-- The promise of a run settles. -/
theorem Sound.resolveRun {w : World} {run : Nat} {outcome : RunOutcome} {jobs : List Job} (h : Sound w)
    (hjobs : w.jobs = .relay run outcome 0 :: jobs) : Sound (({ w with jobs }).resolveRun run outcome) := by
  have hrest {job : Job} (hmem : job ∈ jobs) : job ∈ w.jobs := hjobs ▸ List.mem_cons_of_mem _ hmem
  have hresumed {job : Job} (hmem : job ∈ jobs ++ (w.waiting.filter fun p => p.1 = run).map fun p => Job.resume p.2 outcome) :
      job ∈ w.jobs ∨ ∃ waiter, (run, waiter) ∈ w.waiting ∧ job = .resume waiter outcome := by
    rcases List.mem_append.mp hmem with hmem | hmem
    · exact .inl (hrest hmem)
    · obtain ⟨⟨r, waiter⟩, hin, rfl⟩ := List.mem_map.mp hmem
      obtain ⟨hwaits, hr⟩ := List.mem_filter.mp hin
      obtain rfl : r = run := of_decide_eq_true hr
      exact .inr ⟨waiter, hwaits, rfl⟩
  refine ⟨h.honest, fun run' id orderId hmem => ?_, fun outcome' id orderId hmem => ?_⟩
  · obtain ⟨hc, hkept⟩ := h.waiting run' id orderId (List.mem_of_mem_filter hmem)
    refine ⟨hc, fun hstopped => (hkept hstopped).imp_right fun he => ⟨he.inFlight, fun outcome' ⟨ticks, hcarried⟩ => ?_⟩⟩
    refine he.carried outcome' ⟨ticks, hcarried.imp (fun hj => ?_) fun hj => ?_⟩
    · rcases hresumed hj with hj | ⟨_, _, heq⟩
      · exact hj
      · cases heq
    · rcases hresumed hj with hj | ⟨_, _, heq⟩
      · exact hj
      · cases heq
  · rcases hresumed hmem with hmem | ⟨waiter, hwaits, heq⟩
    · exact h.resumed outcome' id orderId hmem
    · obtain ⟨rfl, rfl⟩ := Job.resume.inj heq
      obtain ⟨hc, hkept⟩ := h.waiting run id orderId hwaits
      refine ⟨hc, fun hstopped => (hkept hstopped).imp_right fun he => ?_⟩
      exact he.carried outcome' ⟨0, .inr (hjobs ▸ List.mem_cons_self)⟩

/-! ## The turns of a run -/

/-- What a turn of the run in flight must keep of the open verifications. -/
structure Keeps (w : World) (run : Nat) (s : World × RunCounts) : Prop where
  jobs : ∀ job ∈ s.1.jobs, job ∈ w.jobs
  noTurn : s.1.jobs.filter isTurn = []
  waiting : s.1.waiting = w.waiting
  stopped : s.1.stopped = w.stopped
  log : ∃ new, s.1.log = new ++ w.log ∧ Quiet new
  /-- Those who await this run are served, or the run has failed, or the order is traced. -/
  mine : w.stopped = false → ∀ id orderId, .verifyCalled id orderId ∈ w.log → Expects w run orderId →
    Served s.1.log id orderId ∨ 0 < s.2.failures ∨ Traced s.1 orderId
  /-- To the others the trace of the order stays, or they are served. -/
  others : w.stopped = false → ∀ id orderId, .verifyCalled id orderId ∈ w.log →
    ((∃ r, r ≠ run ∧ (r, .verification id orderId) ∈ w.waiting) ∨
      ∃ outcome, .resume (.verification id orderId) outcome ∈ w.jobs) →
    Traced w orderId → Served s.1.log id orderId ∨ Traced s.1 orderId

/-- Where the turn of a run ends. -/
theorem TurnEnd.spec {run : Nat} {reason : String} {outside : Outside} {s : World × RunCounts} {more : Bool} {w' : World}
    (h : TurnEnd run reason outside s more w') : w'.log = s.1.log ∧ w'.stopped = s.1.stopped ∧
      w'.pendingOrders = s.1.pendingOrders ∧ w'.scheduledOrderRetries = s.1.scheduledOrderRetries ∧
      w'.waiting = s.1.waiting ∧
      ((w'.inFlight = some ⟨run, .parked reason s.2⟩ ∧ w'.jobs = s.1.jobs) ∨
        ∃ outcome, (0 < s.2.failures → Bad outcome) ∧ w'.inFlight = some ⟨run, .ended⟩ ∧
          w'.jobs = s.1.jobs ++ [.settle run outcome outside.ticks]) := by
  cases h with
  | parked => exact ⟨rfl, rfl, rfl, rfl, rfl, .inl ⟨rfl, rfl⟩⟩
  | ended outcome hbad => exact ⟨rfl, rfl, rfl, rfl, rfl, .inr ⟨outcome, hbad, rfl, rfl⟩⟩

theorem Sound.turned {w w' : World} {r : Run} {s : World × RunCounts} {reason : String} {outside : Outside} {more : Bool}
    (h : Sound w) (ho : Orderly w) (hf : w.inFlight = some r) (hk : Keeps w r.run s)
    (hend : TurnEnd r.run reason outside s more w') : Sound w' := by
  obtain ⟨hlog, hstopped, hpending, hscheduled, hwaiting, hloop⟩ := hend.spec
  obtain ⟨new, hnew, hquiet⟩ := hk.log
  have htraced {orderId : Uuid} : Traced s.1 orderId → Traced w' orderId := by
    unfold Traced
    rw [hpending, hscheduled]
    exact id
  have hcalled {id : Nat} {orderId : Uuid} (hc : .verifyCalled id orderId ∈ w.log) : .verifyCalled id orderId ∈ w'.log := by
    rw [hlog, hnew]
    exact List.mem_append_right _ hc
  have hserved {id : Nat} {orderId : Uuid} (hs : Served w.log id orderId) : Served w'.log id orderId := by
    rw [hlog, hnew]
    exact hs.append new
  -- the only new job is the one of the run that took its turn
  have hjobs {job : Job} (hmem : job ∈ w'.jobs) : job ∈ s.1.jobs ∨
      ∃ outcome, job = .settle r.run outcome outside.ticks ∧ (0 < s.2.failures → Bad outcome) := by
    rcases hloop with ⟨-, hj⟩ | ⟨outcome, hbad, -, hj⟩
    · exact .inl (hj ▸ hmem)
    · rcases List.mem_append.mp (hj ▸ hmem) with hmem | hmem
      · exact .inl hmem
      · exact .inr ⟨outcome, List.mem_singleton.mp hmem, hbad⟩
  have hcarried {run : Nat} {outcome : RunOutcome} (hc : Carries w' run outcome) :
      (∃ ticks, .relay run outcome ticks ∈ w.jobs) ∨ (run = r.run ∧ (0 < s.2.failures → Bad outcome)) := by
    obtain ⟨ticks, hmem | hmem⟩ := hc
    · rcases hjobs hmem with hmem | ⟨outcome', heq, hbad⟩
      · exact absurd (List.mem_filter.mpr ⟨hmem, rfl⟩) (hk.noTurn ▸ List.not_mem_nil)
      · obtain ⟨rfl, rfl, -⟩ := Job.settle.inj heq
        exact .inr ⟨rfl, hbad⟩
    · rcases hjobs hmem with hmem | ⟨_, heq, -⟩
      · exact .inl ⟨ticks, hk.jobs _ hmem⟩
      · cases heq
  refine ⟨?_, fun run id orderId hmem => ?_, fun outcome id orderId hmem => ?_⟩
  · rw [hlog, hnew]
    exact h.honest.append hquiet
  · rw [hwaiting, hk.waiting] at hmem
    obtain ⟨hc, hkept⟩ := h.waiting run id orderId hmem
    refine ⟨hcalled hc, fun hrunning => ?_⟩
    rw [hstopped, hk.stopped] at hrunning
    rcases hkept hrunning with hs | he
    · exact .inl (hserved hs)
    · by_cases hrun : run = r.run
      · subst hrun
        rcases hk.mine hrunning id orderId hc he with hs | hkeeps
        · exact .inl (hlog ▸ hs)
        · refine .inr ⟨fun phase hphase => ?_, fun outcome hcarries => ?_⟩
          · rcases hloop with ⟨hf', -⟩ | ⟨_, -, hf', -⟩
            · obtain ⟨-, rfl⟩ := Run.mk.inj (Option.some.inj (hf'.symm.trans hphase))
              exact hkeeps.imp_right htraced
            · obtain ⟨-, rfl⟩ := Run.mk.inj (Option.some.inj (hf'.symm.trans hphase))
              trivial
          · rcases hcarried hcarries with ⟨ticks, hrelay⟩ | ⟨-, hbad⟩
            · exact absurd rfl ((ho.relays _ ⟨outcome, ticks, hrelay⟩).2 r hf)
            · exact hkeeps.imp hbad htraced
      · have hothers := hk.others hrunning id orderId hc (.inl ⟨run, hrun, hmem⟩)
        by_cases hs : Served s.1.log id orderId
        · exact .inl (hlog ▸ hs)
        · refine .inr ⟨fun phase hphase => ?_, fun outcome hcarries => ?_⟩
          · rcases hloop with ⟨hf', -⟩ | ⟨_, -, hf', -⟩
            · exact absurd (Run.mk.inj (Option.some.inj (hf'.symm.trans hphase))).1.symm hrun
            · exact absurd (Run.mk.inj (Option.some.inj (hf'.symm.trans hphase))).1.symm hrun
          · rcases hcarried hcarries with ⟨ticks, hrelay⟩ | ⟨heq, -⟩
            · exact (he.carried outcome ⟨ticks, .inr hrelay⟩).imp_right fun ht => htraced ((hothers ht).resolve_left hs)
            · exact absurd heq hrun
  · rcases hjobs hmem with hmem | ⟨_, heq, -⟩
    · obtain ⟨hc, hkept⟩ := h.resumed outcome id orderId (hk.jobs _ hmem)
      refine ⟨hcalled hc, fun hrunning => ?_⟩
      rw [hstopped, hk.stopped] at hrunning
      rcases hkept hrunning with hs | hbad | ht
      · exact .inl (hserved hs)
      · exact .inr (.inl hbad)
      · exact (hk.others hrunning id orderId hc (.inr ⟨outcome, hk.jobs _ hmem⟩) ht).imp (fun hs => hlog ▸ hs)
          fun ht => .inr (htraced ht)
    · cases heq

theorem Traced.sweeps {s s' : World × RunCounts} (h : Sweeps s s') {orderId : Uuid} (ht : Traced s.1 orderId) :
    Traced s'.1 orderId := by
  rcases ht with ht | ht
  · left
    rw [h.pending]
    exact ht
  · exact .inr (h.scheduled orderId ht)

/-- More pages take nothing away. -/
theorem Keeps.sweeps {w : World} {run : Nat} {s s' : World × RunCounts} (h : Keeps w run s) (hs : Sweeps s s')
    (hloop : SameLoop s.1 s'.1) : Keeps w run s' where
  jobs := by rw [hloop.jobs]; exact h.jobs
  noTurn := by rw [hloop.jobs]; exact h.noTurn
  waiting := hloop.waiting.trans h.waiting
  stopped := hloop.stopped.trans h.stopped
  log := by
    obtain ⟨new, hnew, hquiet⟩ := h.log
    obtain ⟨new', hnew', hquiet'⟩ := hs.log
    exact ⟨new' ++ new, by rw [hnew', hnew, List.append_assoc], hquiet'.append hquiet⟩
  mine := fun hstopped id orderId hc he => (h.mine hstopped id orderId hc he).imp hs.served
    (Or.imp (fun hf => hf.trans_le hs.failures) (Traced.sweeps hs))
  others := fun hstopped id orderId hc hopen ht => (h.others hstopped id orderId hc hopen ht).imp hs.served (Traced.sweeps hs)

/-- The orders of a run that begins: nobody but those who await it loses the trace of an order. -/
theorem keeps_runOrders {w : World} {run : Nat} {reason : String} {jobs : List Job} {outside : Outside} (ho : Orderly w)
    (hf : w.inFlight = some ⟨run, .queued reason⟩) (hjobs : w.jobs = .start run reason :: jobs)
    (hclock : safeNow outside.clockAtStart ≠ none) (hattended : Attended options pf w (.job outside)) :
    Keeps w run (({ w with jobs }).runOrders options pf outside.orders) := by
  have hloop : SameLoop { w with jobs } (({ w with jobs }).runOrders options pf outside.orders).1 := runOrders_loop _ _
  have hworks : Works ({ w with jobs }, ⟨0, 0, 0, 0⟩) (({ w with jobs }).runOrders options pf outside.orders) :=
    foldl_runOrder_works _ _ _
  have hnoTurn : jobs.filter isTurn = [] := by
    obtain ⟨r, -, hrest, -⟩ := ho.turn rfl hjobs
    exact hrest
  have hdealt (hstopped : w.stopped = false) {orderId : Uuid} (hmem : orderId ∈ w.pendingOrders) :
      Dealt w.log (({ w with jobs }).runOrders options pf outside.orders)
        (givenUp options pf outside.orders w.queuedOrders ({ w with jobs }, ⟨0, 0, 0, 0⟩)) orderId :=
    runOrders_dealt (w := { w with jobs }) hstopped hmem
  have hattended := hattended run reason jobs hjobs hclock
  exact {
    jobs := by rw [hloop.jobs]; exact fun job hmem => hjobs ▸ List.mem_cons_of_mem _ hmem
    noTurn := by rw [hloop.jobs]; exact hnoTurn
    waiting := hloop.waiting
    stopped := hloop.stopped
    log := hworks.log
    mine := fun hstopped id orderId hc he =>
      (hdealt hstopped (he.inFlight _ hf)).imp (fun hserved => hserved id hc) fun hfailed => .inl hfailed.1
    others := by
      intro hstopped id orderId hc hopen ht
      rcases ht with ht | ht
      · rcases hdealt hstopped ht with hserved | ⟨-, hscheduled | hgiven⟩
        · exact .inl (hserved id hc)
        · exact .inr (.inr hscheduled)
        · obtain ⟨hwaiting, hresumed⟩ := hattended orderId hgiven id
          rcases hopen with ⟨r, hne, hmem⟩ | ⟨outcome, hmem⟩
          · exact absurd (hwaiting r hmem) hne
          · exact absurd hmem (hresumed outcome)
      · exact .inr (.inr (hworks.scheduled orderId ht)) }

theorem Sound.startRun {w : World} {run : Nat} {reason : String} {jobs : List Job} {outside : Outside} (h : Sound w)
    (ho : Orderly w) (hf : w.inFlight = some ⟨run, .queued reason⟩) (hjobs : w.jobs = .start run reason :: jobs)
    (hattended : Attended options pf w (.job outside)) :
    Sound (({ w with jobs }).startRun options pf run reason outside) := by
  have hturn : FirstTurn options pf run reason outside { w with jobs } _ := startRun_turn run reason outside _
  revert hturn
  generalize ({ w with jobs }).startRun options pf run reason outside = w'
  intro hturn
  cases hturn with
  | clockFailed =>
    have hkeeps : Keeps w run ({ w with jobs }, ⟨0, 0, 0, 0⟩) := {
      jobs := fun job hmem => hjobs ▸ List.mem_cons_of_mem _ hmem
      noTurn := by
        obtain ⟨r, -, hrest, -⟩ := ho.turn rfl hjobs
        exact hrest
      waiting := rfl
      stopped := rfl
      log := ⟨[], rfl, .nil⟩
      mine := fun _ id orderId _ he => .inr (.inr (.inl (he.inFlight _ hf)))
      others := fun _ id orderId _ _ ht => .inr ht }
    have hend : TurnEnd run reason outside ({ w with jobs }, ⟨0, 0, 0, 0⟩) false (({ w with jobs }).endRun run none outside.ticks) :=
      .ended none fun _ => nofun
    exact h.turned ho hf hkeeps hend
  | ordersOnly hclock _ hend => exact h.turned ho hf (keeps_runOrders ho hf hjobs hclock hattended) hend
  | swept hclock _ hpage hend =>
    have hkeeps := keeps_runOrders ho hf hjobs hclock hattended
    revert hpage hkeeps
    generalize ({ w with jobs }).runOrders options pf outside.orders = s
    intro hpage hkeeps
    have hbegun : Keeps w run (s.1.takeRequest, s.2) :=
      hkeeps.sweeps ⟨⟨⟨[], rfl, .nil⟩, fun _ hs => hs, Nat.le_refl _⟩, rfl⟩ ⟨rfl, rfl, rfl, rfl, rfl⟩
    have hswept : Keeps w run (runPage options pf outside (s.1.takeRequest, s.2)).1 :=
      hbegun.sweeps (runPage_sweeps outside _) (runPage_loop outside _)
    rw [hpage] at hswept
    exact h.turned ho hf hswept hend

theorem Sound.nextTurn {w w' : World} {outside : Outside} (h : Sound w) (ho : Orderly w)
    (hs : w.nextTurn options pf outside = some w') : Sound w' := by
  obtain ⟨run, reason, counts, hf, rfl⟩ := nextTurn_eq hs
  have hkeeps : Keeps w run (w, counts) := {
    jobs := fun _ hmem => hmem
    noTurn := by
      have hj := ho.jobs
      rwa [hf] at hj
    waiting := rfl
    stopped := rfl
    log := ⟨[], rfl, .nil⟩
    mine := fun _ id orderId _ he => .inr (he.inFlight _ hf)
    others := fun _ id orderId _ _ ht => .inr ht }
  have hswept : Keeps w run (runPage options pf outside (w, counts)).1 :=
    hkeeps.sweeps (runPage_sweeps outside _) (runPage_loop outside _)
  exact h.turned ho hf hswept (closeTurn_end run reason outside _ _)

/-! ## Every step -/

theorem Sound.nextJob {w w' : World} {outside : Outside} (h : Sound w) (ho : Orderly w)
    (hattended : Attended options pf w (.job outside)) (hs : w.nextJob options pf outside = some w') : Sound w' := by
  obtain ⟨job, jobs, hjobs, rfl⟩ := nextJob_eq hs
  have htaken : Sound { w with jobs } := h.gentle ho (.taken hjobs)
  cases job with
  | start run reason =>
    obtain ⟨⟨number, phase⟩, hf, -, ⟨_, heq, hphase⟩ | ⟨_, _, heq, -⟩⟩ := ho.turn rfl hjobs
    · obtain ⟨rfl, rfl⟩ := Job.start.inj heq
      obtain rfl : phase = .queued reason := hphase
      exact h.startRun ho hf hjobs hattended
    · cases heq
  | settle run outcome ticks =>
    cases ticks with
    | zero => exact h.gentle ho (settleRun_gentle hjobs)
    | succ ticks =>
      refine h.gentle ho (requeued_gentle hjobs nofun fun run' outcome' ⟨ticks', heq⟩ => ?_)
      rcases heq with heq | heq
      · obtain ⟨rfl, rfl, -⟩ := Job.settle.inj heq
        exact ⟨_, .inl rfl⟩
      · cases heq
  | coalesce =>
    show Sound (if w.stopped then _ else _)
    split
    · exact htaken
    · exact h.gentle ho ((Gentle.taken hjobs).ensureRun rfl _)
  | relay run outcome ticks =>
    cases ticks with
    | zero => exact h.resolveRun hjobs
    | succ ticks =>
      refine h.gentle ho (requeued_gentle hjobs nofun fun run' outcome' ⟨ticks', heq⟩ => ?_)
      rcases heq with heq | heq
      · cases heq
      · obtain ⟨rfl, rfl, -⟩ := Job.relay.inj heq
        exact ⟨_, .inr rfl⟩
  | resume waiter outcome =>
    have hfinish : Gentle w ({ w with jobs }).finishStop :=
      (Gentle.taken hjobs).trans (.beside (List.nil_append _).symm .nil ⟨rfl, rfl, rfl, rfl, rfl⟩ rfl rfl) (Nat.le_refl _)
    cases waiter with
    | stop =>
      show Sound (if outcome.isSome then _ else _)
      split
      · exact h.gentle ho hfinish
      · exact htaken
    | verification id orderId =>
      obtain ⟨hc, hkept⟩ := h.resumed outcome id orderId (hjobs ▸ List.mem_cons_self)
      exact htaken.resume (ho.taken hjobs rfl) hc hkept
  | finishStop =>
    exact h.gentle ho
      ((Gentle.taken hjobs).trans (.beside (List.nil_append _).symm .nil ⟨rfl, rfl, rfl, rfl, rfl⟩ rfl rfl) (Nat.le_refl _))

theorem Sound.step {w w' : World} {input : Input} (h : Sound w) (ho : Orderly w) (hattended : Attended options pf w input)
    (hs : w.step options pf input = some w') : Sound w' := by
  cases input with
  | triggerSweep reason =>
    obtain rfl := Option.some.inj hs
    unfold World.triggerSweep
    split
    · exact h
    · exact h.gentle ho ((requestSweep_gentle w).ensureRun rfl _)
  | triggerOrder orderId =>
    obtain rfl := Option.some.inj hs
    unfold World.triggerOrder
    split
    · exact h
    · exact h.gentle ho (queueOrder_gentle w orderId)
  | verifyOrder orderId => exact Option.some.inj hs ▸ h.verifyOrder ho orderId
  | stop => exact Option.some.inj hs ▸ h.gentle ho (stop_gentle w)
  | store op entropy =>
    exact Option.some.inj hs ▸ h.gentle ho (.beside (List.nil_append _).symm .nil ⟨rfl, rfl, rfl, rfl, rfl⟩ rfl rfl)
  | orderRetryTimer orderId =>
    obtain ⟨n, -, rfl⟩ := Option.map_eq_some_iff.mp hs
    unfold World.retryOrder
    split
    · next hstopped =>
      refine h.gentle ho ⟨⟨[], rfl, .nil⟩, id, fun _ _ hp => hp, fun hrunning => ?_, fun _ _ _ hw => hw, fun _ _ _ hr => hr,
        fun _ _ hc => hc, fun _ hf => .inl hf⟩
      exact absurd (hrunning.symm.trans hstopped) nofun
    · exact h.gentle ho ((requeue_gentle w orderId n).ensureRun rfl _)
  | sweepRetryTimer =>
    simp only [World.step, Option.ite_none_right_eq_some] at hs
    have hcleared : Gentle w w.clearSweepRetry :=
      .beside (List.nil_append _).symm .nil ⟨rfl, rfl, rfl, rfl, rfl⟩ rfl rfl
    obtain rfl := Option.some.inj hs.2
    unfold World.retrySweep
    split
    · exact h.gentle ho hcleared
    · exact h.gentle ho (hcleared.ensureRun rfl _)
  | job outside => exact h.nextJob ho hattended hs
  | turn outside => exact h.nextTurn ho hs

end World

/-- **Verifications are honest**: as long as no run gives up an order that an older verification is
    open for, `verifyOrder` succeeds only when a `reconcileOrder` of the order began after the call and
    did not throw. -/
theorem verifications_honest {w : World}
    (h : Runs.Reachable ((reconciliationScheduler options pf).restrict (Attended options pf)) w) : Honest w.log := by
  have hinv := h.invariant (I := fun w => w.Orderly ∧ w.Sound) (fun s hs => ⟨.fresh hs, .fresh hs⟩)
    fun s input s' hi hstep => ⟨hi.1.step hstep.2, hi.2.step hi.1 hstep.1 hstep.2⟩
  exact hinv.2.honest

/-! ## Two samples -/

/-- A step that gives up no order. -/
def attendedStep (options : ReconciliationSchedulerOptions) (pf : FinancePlatform) (w : World) (input : Input) :
    Option World :=
  match input with
  | .job outside =>
    if World.givenUp options pf outside.orders w.queuedOrders ({ w with jobs := w.jobs.tail }, ⟨0, 0, 0, 0⟩) = [] then
      w.step options pf input
    else none
  | _ => w.step options pf input

theorem attendedStep_spec {w w' : World} {input : Input} (h : attendedStep options pf w input = some w') :
    Attended options pf w input ∧ w.step options pf input = some w' := by
  cases input with
  | job outside =>
    obtain ⟨hnone, hs⟩ := Option.ite_none_right_eq_some.mp h
    refine ⟨fun run reason jobs hjobs _ orderId hgiven => ?_, hs⟩
    rw [hjobs, List.tail_cons] at hnone
    exact absurd hgiven (hnone ▸ List.not_mem_nil)
  | _ => exact ⟨trivial, h⟩

/-- An order is verified while a sweep stands between two pages, and every call succeeds. -/
def sampleVerification (next : Outside) : List Input :=
  [.triggerSweep "manual", .job (sampleOutside 10 0), .verifyOrder 11, .turn (sampleOutside 30 1)] ++
    List.replicate 4 (.job (sampleOutside 0 0)) ++ .job next :: List.replicate 3 (.job (sampleOutside 0 0))

theorem verifications_honest_sample : ∃ w : World, Event.verified 0 11 ∈ w.log ∧ Honest w.log := by
  have hrun : ((Runs.follow (attendedStep (sampleOptions 2 (by decide)) sampleFinance)
      (sampleVerification (sampleOutside 50 2)) (sampleWorld sampleWaiting)).map fun w => w.log.take 2) =
      some [.verified 0 11, .orderReconciled 11 true] := by decide +kernel
  obtain ⟨w, hw, hlog⟩ := Option.map_eq_some_iff.mp hrun
  have hstart : Runs.Reachable ((reconciliationScheduler (sampleOptions 2 (by decide)) sampleFinance).restrict
      (Attended (sampleOptions 2 (by decide)) sampleFinance)) (sampleWorld sampleWaiting) :=
    ⟨[], .start (sampleWorld_fresh sampleWaiting_reachable)⟩
  have hreach := hstart.follow (f := attendedStep _ _) (fun s input s' hs => attendedStep_spec hs) hw
  exact ⟨w, List.mem_of_mem_take (hlog ▸ List.mem_cons_self), verifications_honest hreach⟩

/-- No retries are configured, and the run that follows the sweep fails for the order: the caller takes
    it for reconciled all the same. -/
theorem verified_unreconciled : ∃ w, Runs.Reachable (reconciliationScheduler (sampleOptions 2 (by decide)) sampleFinance) w ∧
    ¬ Honest w.log := by
  have hrun : ((Runs.follow (World.step (sampleOptions 2 (by decide)) sampleFinance)
      (sampleVerification (sampleFault 50 2)) (sampleWorld sampleWaiting)).map fun w => (w.log.head?, w.log.tail)) =
      some (some (.verified 0 11), [.orderReconciled 11 false, .entryReconciled "304", .verifyCalled 0 11, .entryReconciled "302",
        .sweepTriggered [⟨1784513280000, "302"⟩, ⟨1784513340000, "304"⟩] none]) := by decide +kernel
  obtain ⟨w, hw, hlog⟩ := Option.map_eq_some_iff.mp hrun
  have hstart : Runs.Reachable (reconciliationScheduler (sampleOptions 2 (by decide)) sampleFinance)
      (sampleWorld sampleWaiting) := ⟨[], .start (sampleWorld_fresh sampleWaiting_reachable)⟩
  refine ⟨w, hstart.follow (fun s input s' hs => hs) hw, fun hhonest => ?_⟩
  obtain ⟨hhead, htail⟩ := Prod.mk.inj hlog
  obtain ⟨since, before, heq, hmem⟩ := hhonest [] 0 11 w.log.tail (List.eq_cons_of_mem_head? hhead)
  have hserved : .orderReconciled 11 true ∈ w.log.tail := heq ▸ List.mem_append_left _ hmem
  rw [htail] at hserved
  revert hserved
  decide

end PerPay.Scheduling
