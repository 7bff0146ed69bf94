/-
  **One run at a time** — what a turn of a run leaves alone, and how a run and its jobs belong together.

  A turn of a run works on the store, the queues of orders, the sweep and the log; the event loop it
  finds as it left it, except for the way it ends: parked between two pages, or ended with a job for its
  `finally`.  So at every moment there is at most one run, and exactly the job that its phase asks for
  (`Orderly`).
-/
import PerPay.Scheduling.Reconciliation

namespace PerPay.Scheduling

open Finance Ledger Orders

variable {options : ReconciliationSchedulerOptions} {pf : FinancePlatform}

namespace World

/-! ## What a turn leaves alone -/

/-- The two worlds differ in the store, the queues, the sweep and the log only. -/
structure SameLoop (w w' : World) : Prop where
  inFlight : w'.inFlight = w.inFlight
  jobs : w'.jobs = w.jobs
  waiting : w'.waiting = w.waiting
  stopped : w'.stopped = w.stopped
  nextRun : w'.nextRun = w.nextRun

theorem SameLoop.refl (w : World) : SameLoop w w := ⟨rfl, rfl, rfl, rfl, rfl⟩

theorem SameLoop.trans {w m w' : World} (h : SameLoop w m) (h' : SameLoop m w') : SameLoop w w' where
  inFlight := h'.inFlight.trans h.inFlight
  jobs := h'.jobs.trans h.jobs
  waiting := h'.waiting.trans h.waiting
  stopped := h'.stopped.trans h.stopped
  nextRun := h'.nextRun.trans h.nextRun

theorem scheduleOrderRetry_loop (orderId : Uuid) (retryNumber : Nat) (w : World) :
    SameLoop w (w.scheduleOrderRetry options orderId retryNumber) := by
  unfold scheduleOrderRetry
  split
  · exact .refl w
  · exact ⟨rfl, rfl, rfl, rfl, rfl⟩

theorem scheduleSweepRetry_loop (w : World) : SameLoop w w.scheduleSweepRetry := by
  unfold scheduleSweepRetry
  split
  · exact .refl w
  · exact ⟨rfl, rfl, rfl, rfl, rfl⟩

theorem recordOrder_loop (queued : Sigma fun _ : Uuid => Nat) (call : OrderCall) (s : World × RunCounts) :
    SameLoop s.1 (recordOrder options queued call s).1 := by
  have hdone : SameLoop s.1 (s.1.orderDone queued.1 call) := ⟨rfl, rfl, rfl, rfl, rfl⟩
  unfold recordOrder
  cases call.results with
  | some results => exact hdone
  | none => exact hdone.trans (scheduleOrderRetry_loop _ _ _)

theorem foldl_runOrder_loop (answers : Uuid → OrderAnswer) (orders : List (Sigma fun _ : Uuid => Nat)) :
    ∀ s : World × RunCounts, SameLoop s.1 (orders.foldl (runOrder options pf answers) s).1 := by
  induction orders with
  | nil => exact fun s => .refl s.1
  | cons queued rest ih => exact fun s => (recordOrder_loop queued _ s).trans (ih _)

theorem runOrders_loop (answers : Uuid → OrderAnswer) (w : World) :
    SameLoop w (w.runOrders options pf answers).1 :=
  foldl_runOrder_loop answers _ (w, _)

theorem runEntries_loop (answers : Nat → EntryAnswer) (ids : List String) :
    ∀ (k : Nat) (s : World × RunCounts), SameLoop s.1 (runEntries pf answers ids k s).1 := by
  induction ids with
  | nil => exact fun _ s => .refl s.1
  | cons ledgerEntryId rest ih =>
    intro k s
    have hdone (call : Option ReconcileEntryResult × FinanceDb) : SameLoop s.1 (recordEntry ledgerEntryId call s).1 :=
      ⟨rfl, rfl, rfl, rfl, rfl⟩
    exact (hdone _).trans (ih (k + 1) _)

theorem pageFailed_loop (w : World) : SameLoop w w.pageFailed := by
  have hnoted : SameLoop w { w with sweepRequested := true, log := .pageFailed :: w.log } := ⟨rfl, rfl, rfl, rfl, rfl⟩
  exact hnoted.trans (scheduleSweepRetry_loop _)

theorem closePage_loop (page : PendingLedgerPage) (s : World × RunCounts) :
    SameLoop s.1 (closePage options page s).1.1 := by
  unfold closePage
  split
  · exact ⟨rfl, rfl, rfl, rfl, rfl⟩
  · split
    · exact ⟨rfl, rfl, rfl, rfl, rfl⟩
    · exact ⟨rfl, rfl, rfl, rfl, rfl⟩

theorem runPage_loop (outside : Outside) (s : World × RunCounts) :
    SameLoop s.1 (runPage options pf outside s).1.1 := by
  unfold runPage
  split
  · exact .refl s.1
  · split
    · exact pageFailed_loop s.1
    · exact (runEntries_loop outside.entries _ 0 s).trans (closePage_loop _ _)

/-! ## How a turn ends -/

/-- A run with this outcome has not succeeded. -/
def Bad (outcome : RunOutcome) : Prop := ∀ result, outcome = some result → 0 < result.counts.failures

theorem finishRun_eq (run : Nat) (reason : String) (outside : Outside) (s : World × RunCounts) :
    ∃ outcome, finishRun run reason outside s = s.1.endRun run outcome outside.ticks ∧
      (0 < s.2.failures → Bad outcome) := by
  unfold finishRun
  split
  · refine ⟨_, rfl, fun hf result hr => ?_⟩
    obtain rfl := Option.some.inj hr
    exact hf
  · next hwell =>
    simp only [Bool.or_eq_true, decide_eq_true_eq, not_or] at hwell
    exact ⟨_, rfl, fun hf => absurd hf hwell.1⟩

/-- A turn ends parked between two pages, or with the end of the run. -/
inductive TurnEnd (run : Nat) (reason : String) (outside : Outside) (s : World × RunCounts) : Bool → World → Prop
  | parked : TurnEnd run reason outside s true { s.1 with inFlight := some ⟨run, .parked reason s.2⟩ }
  | ended (outcome : RunOutcome) (hbad : 0 < s.2.failures → Bad outcome) :
      TurnEnd run reason outside s false (s.1.endRun run outcome outside.ticks)

theorem closeTurn_end (run : Nat) (reason : String) (outside : Outside) (s : World × RunCounts) (more : Bool) :
    TurnEnd run reason outside s more (closeTurn run reason outside (s, more)) := by
  cases more with
  | true => exact .parked
  | false =>
    obtain ⟨outcome, heq, hbad⟩ := finishRun_eq run reason outside s
    show TurnEnd run reason outside s false (finishRun run reason outside s)
    rw [heq]
    exact .ended outcome hbad

/-- The first turn of a run: the clock fails it, it has no sweep to do, or it reads its first page. -/
inductive FirstTurn (options : ReconciliationSchedulerOptions) (pf : FinancePlatform) (run : Nat) (reason : String)
    (outside : Outside) (w : World) : World → Prop
  | clockFailed (h : safeNow outside.clockAtStart = none) :
      FirstTurn options pf run reason outside w (w.endRun run none outside.ticks)
  | ordersOnly {w' : World} (hclock : safeNow outside.clockAtStart ≠ none)
      (h : ((w.runOrders options pf outside.orders).1.sweepRequested &&
        !(w.runOrders options pf outside.orders).1.sweepRetryTimer) = false)
      (hend : TurnEnd run reason outside (w.runOrders options pf outside.orders) false w') :
      FirstTurn options pf run reason outside w w'
  | swept {s : World × RunCounts} {more : Bool} {w' : World} (hclock : safeNow outside.clockAtStart ≠ none)
      (hsweep : (w.runOrders options pf outside.orders).1.sweepRequested = true ∧
        (w.runOrders options pf outside.orders).1.sweepRetryTimer = false)
      (h : runPage options pf outside ((w.runOrders options pf outside.orders).1.takeRequest,
        (w.runOrders options pf outside.orders).2) = (s, more))
      (hend : TurnEnd run reason outside s more w') :
      FirstTurn options pf run reason outside w w'

theorem startRun_turn (run : Nat) (reason : String) (outside : Outside) (w : World) :
    FirstTurn options pf run reason outside w (w.startRun options pf run reason outside) := by
  unfold startRun
  cases hclock : safeNow outside.clockAtStart with
  | none => exact .clockFailed hclock
  | some now =>
    have hsome : safeNow outside.clockAtStart ≠ none := by
      rw [hclock]
      exact nofun
    show FirstTurn options pf run reason outside w (beginSweep options pf run reason outside (w.runOrders options pf outside.orders))
    unfold beginSweep
    split
    · next hsweep =>
      simp only [Bool.and_eq_true, Bool.not_eq_true'] at hsweep
      exact .swept hsome hsweep rfl (closeTurn_end run reason outside _ _)
    · next hsweep =>
      exact .ordersOnly hsome (Bool.not_eq_true _ ▸ hsweep) (closeTurn_end run reason outside _ false)

/-- Whatever a first turn did, the loop is as it was but for the way the turn ended. -/
theorem FirstTurn.loop {run : Nat} {reason : String} {outside : Outside} {w w' : World}
    (h : FirstTurn options pf run reason outside w w') :
    ∃ m, SameLoop w m ∧ ((∃ counts, w' = { m with inFlight := some ⟨run, .parked reason counts⟩ }) ∨
      ∃ outcome, w' = m.endRun run outcome outside.ticks) := by
  cases h with
  | clockFailed => exact ⟨w, .refl w, .inr ⟨_, rfl⟩⟩
  | ordersOnly _ _ hend =>
    cases hend with
    | ended outcome => exact ⟨_, runOrders_loop _ w, .inr ⟨_, rfl⟩⟩
  | swept _ _ hpage hend =>
    have horders : SameLoop w (w.runOrders options pf outside.orders).1 := runOrders_loop _ w
    have hbegun : SameLoop w (w.runOrders options pf outside.orders).1.takeRequest :=
      horders.trans ⟨rfl, rfl, rfl, rfl, rfl⟩
    have hloop : SameLoop _ (runPage options pf outside ((w.runOrders options pf outside.orders).1.takeRequest,
        (w.runOrders options pf outside.orders).2)).1.1 := runPage_loop outside _
    rw [hpage] at hloop
    have hm := hbegun.trans hloop
    cases hend with
    | parked => exact ⟨_, hm, .inl ⟨_, rfl⟩⟩
    | ended outcome => exact ⟨_, hm, .inr ⟨_, rfl⟩⟩

theorem settleRun_eq (run : Nat) (outcome : RunOutcome) (w : World) : ∃ next, (∀ job ∈ next, job = .coalesce) ∧
    w.settleRun run outcome = { w with inFlight := none, jobs := w.jobs ++ next ++ [.relay run outcome 1] } := by
  unfold settleRun
  split
  · exact ⟨[.coalesce], fun _ h => List.mem_singleton.mp h, rfl⟩
  · exact ⟨[], nofun, by rw [List.append_nil]; rfl⟩

/-! ## A run and its job -/

/-- The jobs that carry a run forward. -/
def isTurn : Job → Bool
  | .start .. | .settle .. => true
  | _ => false

/-- The job a run waits for. -/
def Phase.Job (run : Nat) : Phase → List Job → Prop
  | .queued reason, jobs => jobs = [.start run reason]
  | .parked .., jobs => jobs = []
  | .ended, jobs => ∃ outcome ticks, jobs = [.settle run outcome ticks]

/-- The jobs in the queue are those of the run in flight. -/
def JobsOfRun : Option Run → List Job → Prop
  | none, jobs => jobs = []
  | some r, jobs => Phase.Job r.run r.phase jobs

/-- The outcome of the run is on its way. -/
def Relayed (jobs : List Job) (run : Nat) : Prop := ∃ outcome ticks, .relay run outcome ticks ∈ jobs

/-- There is one run at a time, and runs are numbered in the order in which they began. -/
structure Orderly (w : World) : Prop where
  jobs : JobsOfRun w.inFlight (w.jobs.filter isTurn)
  relays : ∀ run, Relayed w.jobs run → run < w.nextRun ∧ ∀ r ∈ w.inFlight, r.run ≠ run
  inFlight : ∀ r ∈ w.inFlight, r.run < w.nextRun
  waiting : ∀ p ∈ w.waiting, p.1 < w.nextRun

theorem Orderly.fresh {w : World} (h : Fresh pf w) : Orderly w where
  jobs := by rw [h.inFlight, h.jobs]; rfl
  relays := by rw [h.jobs]; exact fun _ ⟨_, _, hmem⟩ => absurd hmem List.not_mem_nil
  inFlight := by rw [h.inFlight]; exact nofun
  waiting := by rw [h.waiting]; exact nofun

/-- A change beside the loop. -/
theorem Orderly.of_same {w w' : World} (h : Orderly w) (hf : w'.inFlight = w.inFlight)
    (hj : w'.jobs.filter isTurn = w.jobs.filter isTurn) (hr : ∀ run, Relayed w'.jobs run → Relayed w.jobs run)
    (hw : ∀ p ∈ w'.waiting, p ∈ w.waiting) (hn : w'.nextRun = w.nextRun) : Orderly w' where
  jobs := by rw [hf, hj]; exact h.jobs
  relays := by rw [hf, hn]; exact fun run hrun => h.relays run (hr run hrun)
  inFlight := by rw [hf, hn]; exact h.inFlight
  waiting := by rw [hn]; exact fun p hp => h.waiting p (hw p hp)

theorem Relayed.append {jobs jobs' : List Job} {run : Nat} (h : Relayed (jobs ++ jobs') run)
    (hother : ∀ outcome ticks, .relay run outcome ticks ∉ jobs') : Relayed jobs run := by
  obtain ⟨outcome, ticks, hmem⟩ := h
  exact ⟨outcome, ticks, (List.mem_append.mp hmem).resolve_right (hother outcome ticks)⟩

theorem Relayed.tail {jobs jobs' : List Job} {job : Job} {run : Nat} (h : Relayed jobs run) (hjobs : jobs' = job :: jobs) :
    Relayed jobs' run := by
  obtain ⟨outcome, ticks, hmem⟩ := h
  exact ⟨outcome, ticks, hjobs ▸ List.mem_cons_of_mem _ hmem⟩

theorem ensureRun_of_some {w : World} {r : Run} (h : w.inFlight = some r) (reason : String) : w.ensureRun reason = w := by
  unfold ensureRun
  rw [h]

theorem ensureRun_of_none {w : World} (h : w.inFlight = none) (reason : String) :
    w.ensureRun reason = { w with inFlight := some ⟨w.nextRun, .queued reason⟩, nextRun := w.nextRun + 1,
                                  jobs := w.jobs ++ [.start w.nextRun reason] } := by
  unfold ensureRun
  rw [h]

theorem await_of_some {w : World} {r : Run} (h : w.inFlight = some r) (waiter : Waiter) :
    w.await waiter = { w with waiting := w.waiting ++ [(r.run, waiter)] } := by
  unfold await
  rw [h]

theorem await_of_none {w : World} (h : w.inFlight = none) (waiter : Waiter) : w.await waiter = w := by
  unfold await
  rw [h]

theorem Orderly.ensureRun {w : World} (h : Orderly w) (reason : String) : Orderly (w.ensureRun reason) := by
  cases hf : w.inFlight with
  | some r =>
    rw [ensureRun_of_some hf]
    exact h
  | none =>
    rw [ensureRun_of_none hf]
    have hnone : w.jobs.filter isTurn = [] := by
      have hj := h.jobs
      rwa [hf] at hj
    constructor
    · show (w.jobs ++ [Job.start w.nextRun reason]).filter isTurn = [.start w.nextRun reason]
      rw [List.filter_append, hnone]
      rfl
    · intro run hrun
      have hlt := (h.relays run (hrun.append fun _ _ hmem => by cases List.mem_singleton.mp hmem)).1
      refine ⟨Nat.lt_succ_of_lt hlt, ?_⟩
      rintro _ ⟨rfl⟩
      exact Nat.ne_of_gt hlt
    · intro r hr
      obtain rfl := Option.some.inj hr
      exact Nat.lt_succ_self _
    · exact fun p hp => Nat.lt_succ_of_lt (h.waiting p hp)

theorem Orderly.await {w : World} (h : Orderly w) (waiter : Waiter) : Orderly (w.await waiter) := by
  cases hf : w.inFlight with
  | none =>
    rw [await_of_none hf]
    exact h
  | some r =>
    rw [await_of_some hf]
    refine ⟨h.jobs, h.relays, h.inFlight, fun p hp => ?_⟩
    rcases List.mem_append.mp hp with hp | hp
    · exact h.waiting p hp
    · obtain rfl := List.mem_singleton.mp hp
      exact h.inFlight r hf

/-- A job that carries no run forward comes or goes. -/
theorem Orderly.queue {w : World} (h : Orderly w) {job : Job} (hjob : isTurn job = false)
    (hrelay : ∀ run outcome ticks, job = .relay run outcome ticks → Relayed w.jobs run) : Orderly (w.queue job) := by
  refine h.of_same rfl ?_ (fun run ⟨outcome, ticks, hmem⟩ => ?_) (fun _ hp => hp) rfl
  swap
  · rcases List.mem_append.mp hmem with hmem | hmem
    · exact ⟨outcome, ticks, hmem⟩
    · exact hrelay run outcome ticks (List.mem_singleton.mp hmem).symm
  show (w.jobs ++ [job]).filter isTurn = _
  rw [List.filter_append, List.filter_cons_of_neg (Bool.not_eq_true _ ▸ hjob), List.filter_nil, List.append_nil]

/-- A run whose job is being executed has no other. -/
theorem Orderly.turn {w : World} {jobs : List Job} (h : Orderly w) {job : Job} (hjob : isTurn job = true)
    (hjobs : w.jobs = job :: jobs) : ∃ r, w.inFlight = some r ∧ jobs.filter isTurn = [] ∧
      ((∃ reason, job = .start r.run reason ∧ r.phase = .queued reason) ∨
        ∃ outcome ticks, job = .settle r.run outcome ticks ∧ r.phase = .ended) := by
  have hturn := h.jobs
  rw [hjobs, List.filter_cons_of_pos hjob] at hturn
  cases hf : w.inFlight with
  | none =>
    rw [hf] at hturn
    exact absurd hturn (List.cons_ne_nil _ _)
  | some r =>
    obtain ⟨number, phase⟩ := r
    rw [hf] at hturn
    cases phase with
    | queued reason =>
      obtain ⟨rfl, hrest⟩ := List.cons.inj hturn
      exact ⟨_, rfl, hrest, .inl ⟨reason, rfl, rfl⟩⟩
    | parked reason counts => exact absurd hturn (List.cons_ne_nil _ _)
    | ended =>
      obtain ⟨outcome, ticks, heq⟩ := hturn
      obtain ⟨rfl, hrest⟩ := List.cons.inj heq
      exact ⟨_, rfl, hrest, .inr ⟨outcome, ticks, rfl, rfl⟩⟩

/-- The next job is taken from the queue, and carries no run forward. -/
theorem Orderly.taken {w : World} {job : Job} {jobs : List Job} (h : Orderly w) (hjobs : w.jobs = job :: jobs)
    (hjob : isTurn job = false) : Orderly { w with jobs } := by
  refine h.of_same rfl ?_ (fun _ hrun => hrun.tail hjobs) (fun _ hp => hp) rfl
  show jobs.filter isTurn = w.jobs.filter isTurn
  rw [hjobs, List.filter_cons_of_neg (Bool.not_eq_true _ ▸ hjob)]

/-- The run in flight takes a turn. -/
theorem Orderly.turned {w w' : World} {r : Run} {phase : Phase} (h : Orderly w) (hf : w.inFlight = some r)
    (hf' : w'.inFlight = some ⟨r.run, phase⟩) (hjobs : Phase.Job r.run phase (w'.jobs.filter isTurn))
    (hr : ∀ run, Relayed w'.jobs run → Relayed w.jobs run)
    (hw : w'.waiting = w.waiting) (hn : w'.nextRun = w.nextRun) : Orderly w' := by
  refine ⟨?_, fun run hrun => ?_, ?_, ?_⟩
  · rw [hf']
    exact hjobs
  · rw [hf', hn]
    refine ⟨(h.relays run (hr run hrun)).1, ?_⟩
    rintro _ ⟨rfl⟩
    exact (h.relays run (hr run hrun)).2 r hf
  · rw [hf', hn]
    rintro _ ⟨rfl⟩
    exact h.inFlight r hf
  · rw [hw, hn]
    exact h.waiting

/-! ## Every step keeps the order -/

theorem nextJob_eq {w w' : World} {outside : Outside} (hs : w.nextJob options pf outside = some w') :
    ∃ job jobs, w.jobs = job :: jobs ∧ w' = ({ w with jobs }).runJob options pf outside job := by
  unfold nextJob at hs
  split at hs
  · cases hs
  · next job jobs hjobs => exact ⟨job, jobs, hjobs, (Option.some.inj hs).symm⟩

theorem nextTurn_eq {w w' : World} {outside : Outside} (hs : w.nextTurn options pf outside = some w') :
    ∃ run reason counts, w.inFlight = some ⟨run, .parked reason counts⟩ ∧
      w' = closeTurn run reason outside (runPage options pf outside (w, counts)) := by
  unfold nextTurn at hs
  split at hs
  · next run reason counts hf => exact ⟨run, reason, counts, hf, (Option.some.inj hs).symm⟩
  · cases hs

theorem Orderly.requestSweep {w : World} (h : Orderly w) : Orderly w.requestSweep :=
  h.of_same rfl rfl (fun _ hr => hr) (fun _ hp => hp) rfl

theorem Orderly.triggerSweep {w : World} (h : Orderly w) (reason : String) : Orderly (w.triggerSweep reason) := by
  unfold World.triggerSweep
  split
  · exact h
  · exact h.requestSweep.ensureRun reason

theorem Orderly.queueOrder {w : World} (h : Orderly w) (orderId : Uuid) : Orderly (w.queueOrder orderId) := by
  have hqueued : Orderly (w.enqueue orderId) := h.of_same rfl rfl (fun _ hr => hr) (fun _ hp => hp) rfl
  exact hqueued.ensureRun _

theorem Orderly.triggerOrder {w : World} (h : Orderly w) (orderId : Uuid) : Orderly (w.triggerOrder orderId) := by
  unfold World.triggerOrder
  split
  · exact h
  · exact h.queueOrder orderId

theorem Orderly.verifyOrder {w : World} (h : Orderly w) (orderId : Uuid) : Orderly (w.verifyOrder orderId) := by
  have hcalled : Orderly (w.callVerify orderId) := h.of_same rfl rfl (fun _ hr => hr) (fun _ hp => hp) rfl
  unfold World.verifyOrder
  split
  · exact hcalled.of_same rfl rfl (fun _ hr => hr) (fun _ hp => hp) rfl
  · exact (hcalled.queueOrder orderId).await _

theorem Orderly.retryOrder {w : World} (h : Orderly w) (orderId : Uuid) (retryNumber : Nat) :
    Orderly (w.retryOrder orderId retryNumber) := by
  have hqueued : Orderly (w.requeue orderId retryNumber) := h.of_same rfl rfl (fun _ hr => hr) (fun _ hp => hp) rfl
  unfold World.retryOrder
  split
  · exact h.of_same rfl rfl (fun _ hr => hr) (fun _ hp => hp) rfl
  · exact hqueued.ensureRun _

theorem Orderly.retrySweep {w : World} (h : Orderly w) : Orderly w.retrySweep := by
  have hcleared : Orderly w.clearSweepRetry := h.of_same rfl rfl (fun _ hr => hr) (fun _ hp => hp) rfl
  unfold World.retrySweep
  split
  · exact hcleared
  · exact hcleared.ensureRun _

theorem Orderly.stop {w : World} (h : Orderly w) : Orderly w.stop := by
  have hclosed : Orderly w.close := h.of_same rfl rfl (fun _ hr => hr) (fun _ hp => hp) rfl
  unfold World.stop
  split
  · exact h
  · split
    · exact hclosed.await .stop
    · exact hclosed.queue rfl nofun

theorem Orderly.settleRun {w : World} (h : w.jobs.filter isTurn = []) (hw : ∀ p ∈ w.waiting, p.1 < w.nextRun)
    (hr : ∀ run, Relayed w.jobs run → run < w.nextRun) {run : Nat} (hrun : run < w.nextRun) (outcome : RunOutcome) :
    Orderly (w.settleRun run outcome) := by
  have hfree : Orderly w.free := ⟨h, fun run hrun => ⟨hr run hrun, nofun⟩, nofun, hw⟩
  have hnext : Orderly (if w.coalesces then w.free.queue .coalesce else w.free) := by
    split
    · exact hfree.queue rfl nofun
    · exact hfree
  have hkept : (if w.coalesces then w.free.queue .coalesce else w.free).inFlight = none ∧
      (if w.coalesces then w.free.queue .coalesce else w.free).nextRun = w.nextRun := by
    split
    · exact ⟨rfl, rfl⟩
    · exact ⟨rfl, rfl⟩
  unfold World.settleRun
  revert hnext hkept
  generalize (if w.coalesces then w.free.queue .coalesce else w.free) = m
  rintro hnext ⟨hf, hn⟩
  refine ⟨?_, fun run' ⟨outcome', ticks, hmem⟩ => ⟨?_, ?_⟩, hnext.inFlight, hnext.waiting⟩
  · show JobsOfRun m.inFlight ((m.jobs ++ [Job.relay run outcome 1]).filter isTurn)
    rw [List.filter_append]
    exact (List.append_nil _).symm ▸ hnext.jobs
  · rcases List.mem_append.mp hmem with hmem | hmem
    · exact (hnext.relays run' ⟨outcome', ticks, hmem⟩).1
    · obtain ⟨rfl, -, -⟩ := Job.relay.inj (List.mem_singleton.mp hmem)
      exact hn.symm ▸ hrun
  · show ∀ r ∈ m.inFlight, r.run ≠ run'
    rw [hf]
    exact nofun

theorem Orderly.resolveRun {w : World} (h : Orderly w) (run : Nat) (outcome : RunOutcome) :
    Orderly (w.resolveRun run outcome) := by
  refine h.of_same rfl ?_ (fun _ hrun => hrun.append fun _ _ hmem => ?_) (fun p hp => List.mem_of_mem_filter hp) rfl
  swap
  · obtain ⟨_, -, heq⟩ := List.mem_map.mp hmem
    cases heq
  show (w.jobs ++ List.map _ _).filter isTurn = w.jobs.filter isTurn
  rw [List.filter_append, List.filter_map]
  have hnone (l : List (Nat × Waiter)) : l.filter (isTurn ∘ fun p => Job.resume p.2 outcome) = [] :=
    List.filter_eq_nil_iff.mpr fun _ _ => nofun
  rw [hnone, List.map_nil, List.append_nil]

theorem Orderly.resumeWaiter {w : World} (h : Orderly w) (waiter : Waiter) (outcome : RunOutcome) :
    Orderly (w.resumeWaiter waiter outcome) := by
  have hnoted (event : Event) : Orderly (w.note event) := h.of_same rfl rfl (fun _ hr => hr) (fun _ hp => hp) rfl
  cases waiter with
  | stop =>
    show Orderly (if outcome.isSome then w.finishStop else w)
    split
    · exact h.of_same rfl rfl (fun _ hr => hr) (fun _ hp => hp) rfl
    · exact h
  | verification id orderId =>
    show Orderly (w.resumeVerification id orderId outcome)
    cases outcome with
    | none => exact hnoted _
    | some result =>
      show Orderly (if _ then _ else if _ then _ else _)
      split
      · exact (h.ensureRun _).await _
      · split
        · exact hnoted _
        · exact hnoted _

/-- The next job is done. -/
theorem Orderly.runJob {w : World} {job : Job} {jobs : List Job} (h : Orderly w) (hjobs : w.jobs = job :: jobs)
    (outside : Outside) : Orderly (({ w with jobs }).runJob options pf outside job) := by
  cases job with
  | start run reason =>
    obtain ⟨r, hf, hrest, ⟨_, heq, hphase⟩ | ⟨_, _, heq, _⟩⟩ := h.turn rfl hjobs
    · obtain ⟨rfl, -⟩ := Job.start.inj heq
      show Orderly (World.startRun options pf r.run reason outside { w with jobs })
      obtain ⟨m, hloop, ⟨counts, hm⟩ | ⟨outcome, hm⟩⟩ := FirstTurn.loop (startRun_turn r.run reason outside { w with jobs })
      · rw [hm]
        refine h.turned hf rfl ?_ (fun run hrun => ?_) hloop.waiting hloop.nextRun
        · show m.jobs.filter isTurn = []
          rw [hloop.jobs, hrest]
        · have hold : Relayed m.jobs run := hrun
          rw [hloop.jobs] at hold
          exact hold.tail hjobs
      · rw [hm]
        refine h.turned hf (rfl : _ = some (Run.mk _ .ended)) ⟨outcome, outside.ticks, ?_⟩ (fun run hrun => ?_) hloop.waiting hloop.nextRun
        · show (m.jobs ++ [Job.settle r.run outcome outside.ticks]).filter isTurn = _
          rw [List.filter_append, hloop.jobs, hrest]
          rfl
        · have hold : Relayed m.jobs run := hrun.append fun _ _ hmem => by cases List.mem_singleton.mp hmem
          rw [hloop.jobs] at hold
          exact hold.tail hjobs
    · exact absurd heq nofun
  | settle run outcome ticks =>
    obtain ⟨r, hf, hrest, ⟨_, heq, _⟩ | ⟨_, _, heq, hphase⟩⟩ := h.turn rfl hjobs
    · exact absurd heq nofun
    · obtain ⟨rfl, rfl, rfl⟩ := Job.settle.inj heq
      cases ticks with
      | zero =>
        exact Orderly.settleRun (w := { w with jobs }) hrest h.waiting (fun run hrun => (h.relays run (hrun.tail hjobs)).1)
          (h.inFlight r hf) _
      | succ ticks =>
        refine ⟨?_, fun run hrun => h.relays run (Relayed.tail (hrun.append fun _ _ hmem => ?_) hjobs), h.inFlight, h.waiting⟩
        · show JobsOfRun w.inFlight ((jobs ++ [Job.settle r.run outcome ticks]).filter isTurn)
          rw [hf, List.filter_append, hrest]
          show Phase.Job r.run r.phase _
          rw [hphase]
          exact ⟨_, _, rfl⟩
        · cases List.mem_singleton.mp hmem
  | coalesce =>
    have hw := h.taken hjobs rfl
    show Orderly (if w.stopped then _ else _)
    split
    · exact hw
    · exact hw.ensureRun _
  | relay run outcome ticks =>
    have hw := h.taken hjobs rfl
    cases ticks with
    | zero => exact hw.resolveRun run outcome
    | succ ticks =>
      have hhead : Relayed w.jobs run := ⟨outcome, ticks + 1, hjobs ▸ List.mem_cons_self⟩
      refine ⟨?_, fun run' ⟨outcome', ticks', hmem⟩ => ?_, hw.inFlight, hw.waiting⟩
      · show JobsOfRun w.inFlight ((jobs ++ [Job.relay run outcome ticks]).filter isTurn)
        rw [List.filter_append]
        exact (List.append_nil _).symm ▸ hw.jobs
      · rcases List.mem_append.mp hmem with hmem | hmem
        · exact hw.relays run' ⟨outcome', ticks', hmem⟩
        · obtain ⟨rfl, -, -⟩ := Job.relay.inj (List.mem_singleton.mp hmem)
          exact h.relays _ hhead
  | resume waiter outcome => exact (h.taken hjobs rfl).resumeWaiter waiter outcome
  | finishStop => exact (h.taken hjobs rfl).of_same rfl rfl (fun _ hr => hr) (fun _ hp => hp) rfl

/-- What a step does: a call, a timer, the next job, or the next page of the run that is parked. -/
theorem Orderly.step {w w' : World} {input : Input} (h : Orderly w) (hs : w.step options pf input = some w') :
    Orderly w' := by
  cases input with
  | triggerSweep reason => exact Option.some.inj hs ▸ h.triggerSweep reason
  | triggerOrder orderId => exact Option.some.inj hs ▸ h.triggerOrder orderId
  | verifyOrder orderId => exact Option.some.inj hs ▸ h.verifyOrder orderId
  | stop => exact Option.some.inj hs ▸ h.stop
  | store op entropy => exact Option.some.inj hs ▸ h.of_same rfl rfl (fun _ hr => hr) (fun _ hp => hp) rfl
  | orderRetryTimer orderId =>
    obtain ⟨n, -, rfl⟩ := Option.map_eq_some_iff.mp hs
    exact h.retryOrder orderId n
  | sweepRetryTimer =>
    simp only [World.step, Option.ite_none_right_eq_some] at hs
    exact Option.some.inj hs.2 ▸ h.retrySweep
  | job outside =>
    obtain ⟨job, jobs, hjobs, rfl⟩ := nextJob_eq hs
    exact h.runJob hjobs outside
  | turn outside =>
    obtain ⟨run, reason, counts, hf, rfl⟩ := nextTurn_eq hs
    have hjobs : w.jobs.filter isTurn = [] := by
      have hj := h.jobs
      rwa [hf] at hj
    have hloop : SameLoop w (runPage options pf outside (w, counts)).1.1 := runPage_loop outside (w, counts)
    revert hloop
    generalize runPage options pf outside (w, counts) = s
    obtain ⟨s, more⟩ := s
    intro hloop
    have hend := closeTurn_end run reason outside s more
    revert hend
    generalize closeTurn run reason outside (s, more) = w'
    intro hend
    cases hend with
    | parked =>
      refine h.turned hf rfl ?_ (fun run' hrun => hloop.jobs ▸ hrun) hloop.waiting hloop.nextRun
      show s.1.jobs.filter isTurn = []
      rw [hloop.jobs, hjobs]
    | ended outcome =>
      refine h.turned hf (rfl : _ = some (Run.mk _ .ended)) ⟨outcome, outside.ticks, ?_⟩ (fun run' hrun => ?_) hloop.waiting hloop.nextRun
      · show (s.1.jobs ++ [Job.settle run outcome outside.ticks]).filter isTurn = _
        rw [List.filter_append, hloop.jobs, hjobs]
        rfl
      · have hold : Relayed s.1.jobs run' := hrun.append fun _ _ hmem => by cases List.mem_singleton.mp hmem
        exact hloop.jobs ▸ hold

end World

end PerPay.Scheduling
