/-
  **The reconciliation scheduler** of `reconciliation/scheduler.ts` — what it does between two turns of
  the event loop, and what waits for it.

  The scheduler coalesces every trigger into one run at a time.  A run first reconciles the queued
  orders, then sweeps the pending ledger entries page by page, and gives way to other work between two
  pages.  Around a run stand the promises of JavaScript: a run begins in a job of its own, its `finally`
  is a job, the next run begins in a job that this one queues, and whoever awaits the run goes on two
  jobs later.  The queue of jobs is FIFO; calls, timers and the ledger come in between any two of them.

  The store is the one of reconciliation, and its calls are the real ones.  What the clock reads, what
  `randomUUID` draws and where the storage fails is part of the input of a step.  The log, newest first,
  records the calls for the statements about runs.
-/
import Mathlib.Data.List.AList
import Mathlib.Data.List.Sort
import Mathlib.Data.String.Basic
import PerPay.Finance.Store
import PerPay.Lib.Keyset
import PerPay.Lib.Runs

namespace PerPay.Scheduling

open Finance Ledger Orders

/-! ## The pages of pending entries -/

/-- Where a sweep stands; the key of an entry in the order of the sweep. -/
structure ReconciliationSweepCursor where
  occurredAt : Nat
  ledgerEntryId : String
  deriving DecidableEq, Repr

/-- `occurred_at > ? OR (occurred_at = ? AND ledger_entry_id > ?)` -/
def ReconciliationSweepCursor.lt (a b : ReconciliationSweepCursor) : Prop :=
  a.occurredAt < b.occurredAt ∨ (a.occurredAt = b.occurredAt ∧ a.ledgerEntryId < b.ledgerEntryId)

/-- `ORDER BY occurred_at, ledger_entry_id` -/
def ReconciliationSweepCursor.le (a b : ReconciliationSweepCursor) : Prop :=
  a.occurredAt < b.occurredAt ∨ (a.occurredAt = b.occurredAt ∧ a.ledgerEntryId ≤ b.ledgerEntryId)

instance : DecidableRel ReconciliationSweepCursor.lt := fun _ _ => inferInstanceAs (Decidable (_ ∨ _))

instance : DecidableRel ReconciliationSweepCursor.le := fun _ _ => inferInstanceAs (Decidable (_ ∨ _))

structure PendingLedgerPage where
  ledgerEntryIds : List String
  nextCursor : Option ReconciliationSweepCursor
  hasMore : Bool
  deriving DecidableEq, Repr

/-- The `WHERE` of `pendingLedgerPage`, less its cursor. -/
def awaitsReconciliation (db : FinanceDb) (entry : LedgerEntry) : Bool :=
  (entry.state = .UNALLOCATED || entry.state = .CANDIDATE) && entry.facts.direction = .CREDIT &&
  !db.isSandbox entry && !db.hasOpenLedgerConflict entry.ledgerEntryId

def sweepKey (entry : LedgerEntry) : ReconciliationSweepCursor := ⟨entry.facts.occurredAt, entry.ledgerEntryId⟩

/-- The entries that wait for reconciliation, in the order of the sweep. -/
def pendingEntries (db : FinanceDb) : List ReconciliationSweepCursor :=
  ((db.ledger.entries.filter (awaitsReconciliation db)).map sweepKey).insertionSort ReconciliationSweepCursor.le

def pendingLedgerPage (db : FinanceDb) (cursor : Option ReconciliationSweepCursor) (limit : Nat) : PendingLedgerPage :=
  let rows := (Keyset.after ReconciliationSweepCursor.lt id cursor (pendingEntries db)).take (limit + 1)
  let selected := rows.take limit
  ⟨selected.map (·.ledgerEntryId), selected.getLast?, limit < rows.length⟩

/-! ## Calls into the store -/

/-- What one call of `reconcileEntry` meets: a fault of the storage, or a clock and the identifiers it
    will draw. -/
inductive EntryAnswer
  | fault
  | reads (now : Int) (entropy : Entropy)

/-- What one call of `reconcileOrder` meets. -/
structure OrderAnswer where
  readFails : Bool
  entries : Nat → EntryAnswer

/-- What the world outside answers to one turn of a run; `ticks` are the jobs between the end of the
    run and its `finally`, of which the activity recorder adds some. -/
structure Outside where
  clockAtStart : Int
  orders : Uuid → OrderAnswer
  pageFails : Bool
  entries : Nat → EntryAnswer
  clockAtEnd : Int
  ticks : Nat

section
variable (pf : FinancePlatform)

/-- One call of `reconcileEntry`; `none` is a throw, which leaves the store as it was. -/
def callReconcileEntry (ledgerEntryId : String) (answer : EntryAnswer) (db : FinanceDb) :
    Option ReconcileEntryResult × FinanceDb :=
  match answer with
  | .fault => (none, db)
  | .reads now entropy =>
    match reconcileEntry pf ledgerEntryId now (db.supplied entropy) with
    | .ok (result, db') => (some result, db')
    | .error _ => (none, db)

/-- A call of `reconcileOrder`: the entries it passed to `reconcileEntry`, their results unless it
    threw, and the store it left. -/
structure OrderCall where
  passed : List String
  results : Option (List ReconcileEntryResult)
  store : FinanceDb

/-- `selected.map(…)`: the first entry whose reconciliation throws ends the call. -/
def callReconcileEach (answers : Nat → EntryAnswer) : List String → Nat → FinanceDb → OrderCall
  | [], _, db => ⟨[], some [], db⟩
  | ledgerEntryId :: rest, k, db =>
    match callReconcileEntry pf ledgerEntryId (answers k) db with
    | (none, db') => ⟨[ledgerEntryId], none, db'⟩
    | (some result, db') =>
      let call := callReconcileEach answers rest (k + 1) db'
      ⟨ledgerEntryId :: call.passed, call.results.map (result :: ·), call.store⟩

def callReconcileOrder (orderId : Uuid) (limit : Nat) (answer : OrderAnswer) (db : FinanceDb) : OrderCall :=
  if answer.readFails then ⟨[], none, db⟩
  else callReconcileEach pf answer.entries (((entriesForOrder db orderId).map (·.ledgerEntryId)).take limit) 0 db

end

/-! ## The scheduler and the loop it runs in -/

/-- The options the constructor accepts. -/
structure ReconciliationSchedulerOptions where
  batchSize : Nat
  maximumEntriesPerRun : Nat
  maximumOrderRetryAttempts : Nat
  batchSizeValid : 1 ≤ batchSize ∧ batchSize ≤ maxReconciliationBatchSize
  budgetValid : batchSize ≤ maximumEntriesPerRun ∧ maximumEntriesPerRun ≤ 100000
  retriesValid : maximumOrderRetryAttempts ≤ 10

/-- The counters of `#run`. -/
structure RunCounts where
  processedEntries : Nat
  processedOrders : Nat
  autoSettled : Nat
  failures : Nat
  deriving DecidableEq, Repr

structure ReconciliationRunResult where
  reason : String
  counts : RunCounts
  continuationPending : Bool
  deriving DecidableEq, Repr

/-- How a run promise settles: `none` is a rejection. -/
abbrev RunOutcome := Option ReconciliationRunResult

/-- Where the run in flight stands: its first job is queued, it waits at `yieldToEventLoop` between two
    pages, or it has ended and its `finally` is yet to come. -/
inductive Phase
  | queued (reason : String)
  | parked (reason : String) (counts : RunCounts)
  | ended
  deriving DecidableEq, Repr

structure Run where
  run : Nat
  phase : Phase
  deriving DecidableEq, Repr

/-- Who awaits the promise of a run. -/
inductive Waiter
  | verification (id : Nat) (orderId : Uuid)
  | stop
  deriving DecidableEq, Repr

inductive Job
  /-- `Promise.resolve().then(() => this.#run(reason))` -/
  | start (run : Nat) (reason : String)
  /-- The callback of `operation.finally`. -/
  | settle (run : Nat) (outcome : RunOutcome) (ticks : Nat)
  /-- `queueMicrotask(() => this.#ensureRun("coalesced"))` -/
  | coalesce
  /-- `finally` passes the outcome of the operation on. -/
  | relay (run : Nat) (outcome : RunOutcome) (ticks : Nat)
  /-- The code after an `await`. -/
  | resume (waiter : Waiter) (outcome : RunOutcome)
  /-- The code after the `await` of a `stop` that had nothing to await. -/
  | finishStop
  deriving DecidableEq, Repr

/-- What the statements about runs speak of. -/
inductive Event
  | sweepTriggered (pending : List ReconciliationSweepCursor) (cursor : Option ReconciliationSweepCursor)
  | entryReconciled (ledgerEntryId : String)
  | pageFailed
  | orderReconciled (orderId : Uuid) (succeeded : Bool)
  | verifyCalled (id : Nat) (orderId : Uuid)
  | verified (id : Nat) (orderId : Uuid)
  | refused (id : Nat) (orderId : Uuid)
  deriving DecidableEq, Repr

/-- A JavaScript `Map` from orders to retry numbers. -/
abbrev RetryMap := AList fun _ : Uuid => Nat

/-- The scheduler with its store, its timers, the queue of jobs and those who wait.  A timer that is
    cleared never fires, so a timer is the entry that it is kept in. -/
structure World where
  store : FinanceDb
  pendingOrders : RetryMap
  scheduledOrderRetries : RetryMap
  sweepRetryTimer : Bool
  sweepRequested : Bool
  cursor : Option ReconciliationSweepCursor
  stopped : Bool
  inFlight : Option Run
  jobs : List Job
  waiting : List (Nat × Waiter)
  nextRun : Nat
  nextVerification : Nat
  log : List Event

namespace World

def queue (job : Job) (w : World) : World := { w with jobs := w.jobs ++ [job] }

def note (event : Event) (w : World) : World := { w with log := event :: w.log }

def ensureRun (reason : String) (w : World) : World :=
  match w.inFlight with
  | some _ => w
  | none => { w with inFlight := some ⟨w.nextRun, .queued reason⟩, nextRun := w.nextRun + 1,
                     jobs := w.jobs ++ [.start w.nextRun reason] }

def scheduleSweepRetry (w : World) : World :=
  if w.stopped then w else { w with sweepRetryTimer := true }

def scheduleOrderRetry (options : ReconciliationSchedulerOptions) (orderId : Uuid) (retryNumber : Nat) (w : World) : World :=
  if w.stopped || options.maximumOrderRetryAttempts < retryNumber then w
  else { w with scheduledOrderRetries := w.scheduledOrderRetries.insert orderId retryNumber }

/-! ## A turn of a run -/

/-- `operation` settles; its `finally` comes `ticks` jobs later. -/
def endRun (run : Nat) (outcome : RunOutcome) (ticks : Nat) (w : World) : World :=
  { w with inFlight := some ⟨run, .ended⟩, jobs := w.jobs ++ [.settle run outcome ticks] }

/-- The order leaves the queue and has been reconciled. -/
def orderDone (orderId : Uuid) (call : OrderCall) (w : World) : World :=
  { w with
    pendingOrders := w.pendingOrders.erase orderId
    store := call.store
    log := .orderReconciled orderId call.results.isSome :: (call.passed.reverse.map .entryReconciled ++ w.log) }

/-- The entry has been passed to `reconcileEntry`. -/
def entryDone (ledgerEntryId : String) (store : FinanceDb) (w : World) : World :=
  { w with store, log := .entryReconciled ledgerEntryId :: w.log }

/-- The page of pending entries could not be read. -/
def pageFailed (w : World) : World :=
  ({ w with sweepRequested := true, log := .pageFailed :: w.log }).scheduleSweepRetry

end World

def isAutoSettled : ReconcileEntryResult → Bool
  | .auto_settled .. => true
  | _ => false

def RunCounts.orderSucceeded (results : List ReconcileEntryResult) (counts : RunCounts) : RunCounts :=
  { counts with processedOrders := counts.processedOrders + 1
                autoSettled := counts.autoSettled + (results.filter isAutoSettled).length }

def RunCounts.failed (counts : RunCounts) : RunCounts := { counts with failures := counts.failures + 1 }

def RunCounts.entryDone (result : Option ReconcileEntryResult) (counts : RunCounts) : RunCounts :=
  let counts := match result with
    | some result => if isAutoSettled result then { counts with autoSettled := counts.autoSettled + 1 } else counts
    | none => counts.failed
  { counts with processedEntries := counts.processedEntries + 1 }

namespace World

section
variable (options : ReconciliationSchedulerOptions) (pf : FinancePlatform)

/-- What a round of the loop over the queued orders makes of its call. -/
def recordOrder (queued : Sigma fun _ : Uuid => Nat) (call : OrderCall) (s : World × RunCounts) : World × RunCounts :=
  match call.results with
  | some results => (s.1.orderDone queued.1 call, s.2.orderSucceeded results)
  | none => ((s.1.orderDone queued.1 call).scheduleOrderRetry options queued.1 (queued.2 + 1), s.2.failed)

def runOrder (answers : Uuid → OrderAnswer) (s : World × RunCounts) (queued : Sigma fun _ : Uuid => Nat) :
    World × RunCounts :=
  recordOrder options queued (callReconcileOrder pf queued.1 options.batchSize (answers queued.1) s.1.store) s

/-- `[...this.#pendingOrders].sort(…)`: canonical identifiers sort as their numbers do. -/
def queuedOrders (w : World) : List (Sigma fun _ : Uuid => Nat) :=
  w.pendingOrders.entries.insertionSort fun a b => a.1 ≤ b.1

def runOrders (answers : Uuid → OrderAnswer) (w : World) : World × RunCounts :=
  w.queuedOrders.foldl (runOrder options pf answers) (w, ⟨0, 0, 0, 0⟩)

/-- What a round of the loop over the entries of a page makes of its call. -/
def recordEntry (ledgerEntryId : String) (call : Option ReconcileEntryResult × FinanceDb) (s : World × RunCounts) :
    World × RunCounts :=
  (s.1.entryDone ledgerEntryId call.2, s.2.entryDone call.1)

def runEntries (answers : Nat → EntryAnswer) : List String → Nat → World × RunCounts → World × RunCounts
  | [], _, s => s
  | ledgerEntryId :: rest, k, s =>
    runEntries answers rest (k + 1)
      (recordEntry ledgerEntryId (callReconcileEntry pf ledgerEntryId (answers k) s.1.store) s)

/-- Where the sweep stands after a page; the flag says that it goes on after `yieldToEventLoop`. -/
def closePage (page : PendingLedgerPage) (s : World × RunCounts) : (World × RunCounts) × Bool :=
  if page.hasMore = false then (({ s.1 with cursor := none }, s.2), false)
  else if options.maximumEntriesPerRun ≤ s.2.processedEntries then
    (({ s.1 with cursor := page.nextCursor, sweepRequested := true }, s.2), false)
  else (({ s.1 with cursor := page.nextCursor }, s.2), true)

def sweepPage (outside : Outside) (page : PendingLedgerPage) (s : World × RunCounts) : (World × RunCounts) × Bool :=
  closePage options page (runEntries pf outside.entries page.ledgerEntryIds 0 s)

/-- One round of the sweep. -/
def runPage (outside : Outside) (s : World × RunCounts) : (World × RunCounts) × Bool :=
  if options.maximumEntriesPerRun ≤ s.2.processedEntries then (s, false)
  else if outside.pageFails then ((s.1.pageFailed, s.2.failed), false)
  else
    sweepPage options pf outside (pendingLedgerPage s.1.store s.1.cursor
      (min options.batchSize (options.maximumEntriesPerRun - s.2.processedEntries))) s

/-- `safeNow`; what is not an integer is no clock reading either. -/
def safeNow (value : Int) : Option Nat :=
  if 0 ≤ value ∧ value ≤ maxSafeInteger then some value.toNat else none

def runResult (reason : String) (s : World × RunCounts) : ReconciliationRunResult where
  reason := reason
  counts := s.2
  continuationPending :=
    s.1.sweepRequested || !s.1.pendingOrders.entries.isEmpty || !s.1.scheduledOrderRetries.entries.isEmpty

/-- The end of `#run`, which reads the clock again when all is well. -/
def finishRun (run : Nat) (reason : String) (outside : Outside) (s : World × RunCounts) : World :=
  if 0 < s.2.failures || s.1.sweepRetryTimer then s.1.endRun run (some (runResult reason s)) outside.ticks
  else s.1.endRun run ((safeNow outside.clockAtEnd).map fun _ => runResult reason s) outside.ticks

/-- After a page the run goes on later, or ends. -/
def closeTurn (run : Nat) (reason : String) (outside : Outside) : (World × RunCounts) × Bool → World
  | (s, true) => { s.1 with inFlight := some ⟨run, .parked reason s.2⟩ }
  | (s, false) => finishRun run reason outside s

/-- The sweep that begins serves every request so far. -/
def takeRequest (w : World) : World := { w with sweepRequested := false }

/-- The rest of the first turn: the sweep begins, unless none is requested or its retry is scheduled. -/
def beginSweep (run : Nat) (reason : String) (outside : Outside) (s : World × RunCounts) : World :=
  if s.1.sweepRequested && !s.1.sweepRetryTimer then
    closeTurn run reason outside (runPage options pf outside (s.1.takeRequest, s.2))
  else finishRun run reason outside s

/-- The first turn of a run. -/
def startRun (run : Nat) (reason : String) (outside : Outside) (w : World) : World :=
  match safeNow outside.clockAtStart with
  | none => w.endRun run none outside.ticks
  | some _ => beginSweep options pf run reason outside (w.runOrders options pf outside.orders)

end

/-! ## Jobs -/

/-- The condition under which a settled run is followed by another. -/
def coalesces (w : World) : Bool :=
  !w.stopped && ((w.sweepRequested && !w.sweepRetryTimer) || !w.pendingOrders.entries.isEmpty)

def free (w : World) : World := { w with inFlight := none }

/-- The callback of `finally`. -/
def settleRun (run : Nat) (outcome : RunOutcome) (w : World) : World :=
  (if w.coalesces then w.free.queue .coalesce else w.free).queue (.relay run outcome 1)

/-- The promise of the run settles: those who await it go on, in the order in which they came. -/
def resolveRun (run : Nat) (outcome : RunOutcome) (w : World) : World :=
  { w with waiting := w.waiting.filter fun p => p.1 ≠ run
           jobs := w.jobs ++ (w.waiting.filter fun p => p.1 = run).map fun p => .resume p.2 outcome }

/-- The caller awaits the run in flight. -/
def await (waiter : Waiter) (w : World) : World :=
  match w.inFlight with
  | some run => { w with waiting := w.waiting ++ [(run.run, waiter)] }
  | none => w

/-- `verifyOrder` after its `await`: a round of its loop, and its end. -/
def resumeVerification (id : Nat) (orderId : Uuid) (outcome : RunOutcome) (w : World) : World :=
  match outcome with
  | none => w.note (.refused id orderId)
  | some result =>
    if !w.stopped && orderId ∈ w.pendingOrders then
      (w.ensureRun "checkout_check").await (.verification id orderId)
    else if w.stopped || 0 < result.counts.failures || orderId ∈ w.scheduledOrderRetries then
      w.note (.refused id orderId)
    else w.note (.verified id orderId)

/-- The last lines of `stop`. -/
def finishStop (w : World) : World := { w with sweepRequested := false, cursor := none }

def resumeWaiter (waiter : Waiter) (outcome : RunOutcome) (w : World) : World :=
  match waiter with
  | .verification id orderId => w.resumeVerification id orderId outcome
  | .stop => if outcome.isSome then w.finishStop else w

def runJob (options : ReconciliationSchedulerOptions) (pf : FinancePlatform) (outside : Outside) (w : World) :
    Job → World
  | .start run reason => w.startRun options pf run reason outside
  | .settle run outcome 0 => w.settleRun run outcome
  | .settle run outcome (ticks + 1) => w.queue (.settle run outcome ticks)
  | .coalesce => if w.stopped then w else w.ensureRun "coalesced"
  | .relay run outcome 0 => w.resolveRun run outcome
  | .relay run outcome (ticks + 1) => w.queue (.relay run outcome ticks)
  | .resume waiter outcome => w.resumeWaiter waiter outcome
  | .finishStop => w.finishStop

/-! ## Calls and timers -/

/-- `/^[A-Za-z0-9][A-Za-z0-9._:-]{0,127}$/` -/
def validReason (reason : String) : Bool :=
  match reason.toList with
  | [] => false
  | first :: rest => first.isAlphanum && rest.length ≤ 127 &&
      rest.all fun c => c.isAlphanum || c = '.' || c = '_' || c = ':' || c = '-'

def requestSweep (w : World) : World :=
  { w with sweepRequested := true, log := .sweepTriggered (pendingEntries w.store) w.cursor :: w.log }

def triggerSweep (reason : String) (w : World) : World :=
  if !validReason reason || w.stopped then w else w.requestSweep.ensureRun reason

/-- The order takes its scheduled retry along into the queue, unless it is in the queue already. -/
def enqueue (orderId : Uuid) (w : World) : World :=
  { w with
    pendingOrders := if orderId ∈ w.pendingOrders then w.pendingOrders
      else w.pendingOrders.insert orderId ((w.scheduledOrderRetries.lookup orderId).getD 0)
    scheduledOrderRetries := w.scheduledOrderRetries.erase orderId }

/-- `triggerOrder` of a scheduler that is not stopped. -/
def queueOrder (orderId : Uuid) (w : World) : World := (w.enqueue orderId).ensureRun "order_created"

def triggerOrder (orderId : Uuid) (w : World) : World :=
  if w.stopped then w else w.queueOrder orderId

def callVerify (orderId : Uuid) (w : World) : World :=
  { w with nextVerification := w.nextVerification + 1, log := .verifyCalled w.nextVerification orderId :: w.log }

/-- `verifyOrder` up to its first `await`. -/
def verifyOrder (orderId : Uuid) (w : World) : World :=
  if w.stopped then (w.callVerify orderId).note (.refused w.nextVerification orderId)
  else ((w.callVerify orderId).queueOrder orderId).await (.verification w.nextVerification orderId)

/-- The order goes from the scheduled retries into the queue. -/
def requeue (orderId : Uuid) (retryNumber : Nat) (w : World) : World :=
  { w with scheduledOrderRetries := w.scheduledOrderRetries.erase orderId
           pendingOrders := w.pendingOrders.insert orderId retryNumber }

/-- The timer of a scheduled retry fires. -/
def retryOrder (orderId : Uuid) (retryNumber : Nat) (w : World) : World :=
  if w.stopped then { w with scheduledOrderRetries := w.scheduledOrderRetries.erase orderId }
  else (w.requeue orderId retryNumber).ensureRun "order_retry"

def clearSweepRetry (w : World) : World := { w with sweepRetryTimer := false }

def retrySweep (w : World) : World :=
  if w.stopped then w.clearSweepRetry else w.clearSweepRetry.ensureRun "sweep_retry"

def close (w : World) : World :=
  { w with stopped := true, sweepRetryTimer := false, scheduledOrderRetries := ∅, pendingOrders := ∅,
           sweepRequested := false }

/-- `stop` up to its `await`; a second call changes nothing. -/
def stop (w : World) : World :=
  if w.stopped then w
  else if w.inFlight.isSome then w.close.await .stop else w.close.queue .finishStop

end World

/-! ## The system -/

/-- What can happen next. -/
inductive Input
  | triggerSweep (reason : String)
  | triggerOrder (orderId : Uuid)
  | verifyOrder (orderId : Uuid)
  | stop
  /-- A call into the stores beside the scheduler: the ledger inserts, an order is created. -/
  | store (op : FinanceOp) (entropy : Entropy)
  | orderRetryTimer (orderId : Uuid)
  | sweepRetryTimer
  /-- The next job of the queue. -/
  | job (outside : Outside)
  /-- `setImmediate` lets the run go on with its next page. -/
  | turn (outside : Outside)

def World.nextJob (options : ReconciliationSchedulerOptions) (pf : FinancePlatform) (outside : Outside) (w : World) :
    Option World :=
  match w.jobs with
  | [] => none
  | job :: jobs => some (({ w with jobs }).runJob options pf outside job)

def World.nextTurn (options : ReconciliationSchedulerOptions) (pf : FinancePlatform) (outside : Outside) (w : World) :
    Option World :=
  match w.inFlight with
  | some ⟨run, .parked reason counts⟩ =>
    some (World.closeTurn run reason outside (World.runPage options pf outside (w, counts)))
  | _ => none

/-- One step; `none` when there is no such timer, job or run. -/
def World.step (options : ReconciliationSchedulerOptions) (pf : FinancePlatform) (w : World) : Input → Option World
  | .triggerSweep reason => some (w.triggerSweep reason)
  | .triggerOrder orderId => some (w.triggerOrder orderId)
  | .verifyOrder orderId => some (w.verifyOrder orderId)
  | .stop => some w.stop
  | .store op entropy => some { w with store := op.run pf (w.store.supplied entropy) }
  | .orderRetryTimer orderId => (w.scheduledOrderRetries.lookup orderId).map fun n => w.retryOrder orderId n
  | .sweepRetryTimer => if w.sweepRetryTimer then some w.retrySweep else none
  | .job outside => w.nextJob options pf outside
  | .turn outside => w.nextTurn options pf outside

/-- A scheduler that was just made, over a store in any state it can reach. -/
structure World.Fresh (pf : FinancePlatform) (w : World) : Prop where
  store : Runs.Reachable (financeStore pf) w.store
  pendingOrders : w.pendingOrders = ∅
  scheduledOrderRetries : w.scheduledOrderRetries = ∅
  sweepRetryTimer : w.sweepRetryTimer = false
  sweepRequested : w.sweepRequested = false
  cursor : w.cursor = none
  stopped : w.stopped = false
  inFlight : w.inFlight = none
  jobs : w.jobs = []
  waiting : w.waiting = []
  log : w.log = []

def reconciliationScheduler (options : ReconciliationSchedulerOptions) (pf : FinancePlatform) :
    Runs.System World Input where
  init := World.Fresh pf
  step w input w' := w.step options pf input = some w'

/-! ## A sample scheduler

The ledger has read two payments; the scheduler reads pages of one entry. -/

def samplePayment (id occurredAt amount : String) : AccountLogDetail :=
  ⟨some "\x7b\x7d", some id, some occurredAt, some amount, some "in", none, none, none, none⟩

def sampleWaiting : FinanceDb :=
  sampleIngested (samplePage "101" "body" 2 false
    [samplePayment "e1" "2026-07-20 10:08:00" "1.01", samplePayment "e2" "2026-07-20 10:09:00" "1.02"])

def sampleOptions (maximumEntriesPerRun : Nat) (h : 1 ≤ maximumEntriesPerRun ∧ maximumEntriesPerRun ≤ 100000) :
    ReconciliationSchedulerOptions :=
  ⟨1, maximumEntriesPerRun, 0, by decide, h, by decide⟩

/-- A scheduler that was just made. -/
def sampleWorld (store : FinanceDb) : World := ⟨store, ∅, ∅, false, false, none, false, none, [], [], 0, 0, []⟩

/-- Every call succeeds; `draw` numbers the identifiers. -/
def sampleOutside (draw ticks : Nat) : Outside where
  clockAtStart := 0
  orders := fun _ => ⟨false, fun k => .reads 1784513400000 (sampleEntropy (draw + 10 + k))⟩
  pageFails := false
  entries := fun k => .reads 1784513400000 (sampleEntropy (draw + k))
  clockAtEnd := 0
  ticks := ticks

/-- No order can be read. -/
def sampleFault (draw ticks : Nat) : Outside := { sampleOutside draw ticks with orders := fun _ => ⟨true, fun _ => .fault⟩ }

theorem sampleWorld_fresh {store : FinanceDb} (h : Runs.Reachable (financeStore sampleFinance) store) :
    World.Fresh sampleFinance (sampleWorld store) :=
  ⟨h, rfl, rfl, rfl, rfl, rfl, rfl, rfl, rfl, rfl, rfl⟩

theorem sampleWaiting_reachable : Runs.Reachable (financeStore sampleFinance) sampleWaiting := sampleIngested_reachable _

end PerPay.Scheduling
