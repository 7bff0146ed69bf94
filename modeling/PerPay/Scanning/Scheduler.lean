/-
  **The scheduler of ledger scans** (`LedgerIngestScheduler`), method by method.

  A scheduler owns one timer and one promise of a scan in flight.  Its methods are scripts: they run to their end
  or throw, and what they wrote before they threw stays written.  Around them stands the event loop: the timers
  that are armed, the promises that are not settled, the durable gate — and what the scheduler asks for and cannot
  know (`Outside`): the readings of the clock, which reads and writes of the gate fail, what the interval policy
  answers, and whether an observer throws.  Each question takes the answer of the next tick.
-/
import Mathlib.Algebra.Order.Ring.Nat
import PerPay.Lib.Script
import PerPay.Orders.Model

namespace PerPay.Scanning

open Script

/-! ## Data -/

/-- A row of `ledger_scan_gate`. -/
structure LedgerScanGate where
  completedAt : Nat
  protectedUntil : Nat
  continuation : Bool
  deriving DecidableEq, Repr

inductive LedgerSchedulerState
  | idle | running | healthy | catching_up | degraded | stopped
  deriving DecidableEq, Repr

inductive LedgerScheduleKind
  | normal | continuation | retry | manual | storage
  deriving DecidableEq, Repr

structure PendingSchedule where
  gate : LedgerScanGate
  nextRunAt : Nat
  interval : Nat
  kind : LedgerScheduleKind
  deriving DecidableEq, Repr

inductive LedgerScanStatus
  | COMPLETED | PARTIAL | FAILED | SKIPPED
  deriving DecidableEq, Repr

/-- What the scheduler reads of a `LedgerScanResult`. -/
structure LedgerScanResult where
  status : LedgerScanStatus
  errorCode : Option String
  retryAfterSeconds : Option Nat
  retryable : Bool
  normalCompleted : Bool
  cooldownActive : Bool
  deriving DecidableEq, Repr

/-- `LedgerIngestSchedulerOptions`, with the checks of the constructor. -/
structure LedgerIngestSchedulerOptions where
  intervalMilliseconds : Nat
  minimumIntervalMilliseconds : Nat
  hasGate : Bool
  hasIntervalPolicy : Bool
  interval_valid : 1000 ≤ intervalMilliseconds ∧ intervalMilliseconds ≤ 3600000
  minimum_valid : minimumIntervalMilliseconds ≤ intervalMilliseconds

inductive Fault
  | error (message : String)
  | rangeError (message : String)
  /-- an error of the gate, of the interval policy, of an observer or of the scan -/
  | outside
  deriving DecidableEq, Repr

/-- What the surroundings answer at each tick. -/
structure Outside where
  clock : Nat → Int
  gateReadFails : Nat → Bool
  gateWriteFails : Nat → Bool
  /-- `getIntervalMilliseconds()`; `none` throws -/
  policy : Nat → Option Int
  observerThrows : Nat → Bool

abbrev PromiseId : Type := Nat

/-- A timer that is armed, with what its callback has captured. -/
structure Timer where
  id : Nat
  kind : LedgerScheduleKind
  interval : Nat
  delay : Nat
  deriving DecidableEq, Repr

/-- The scan behind `#current`.  It has settled when its result was handled, and stays `#current` until `finally`. -/
structure Scan where
  promise : PromiseId
  previousState : LedgerSchedulerState
  attemptStartedAt : Nat
  settled : Bool
  deriving DecidableEq, Repr

structure World where
  -- the fields of the scheduler
  lastGate : Option LedgerScanGate
  unpersistedSchedule : Option PendingSchedule
  beforeStorageFailure : Option (LedgerSchedulerState × Option String)
  pending : Option PromiseId
  resolvedIntervalMilliseconds : Nat
  timer : Option Nat
  nextRunAt : Option Nat
  scheduledIntervalMilliseconds : Option Nat
  scheduleKind : Option LedgerScheduleKind
  lastCompletedAt : Option Nat
  current : Option Scan
  started : Bool
  stopped : Bool
  state : LedgerSchedulerState
  lastAttemptAt : Option Nat
  lastSuccessAt : Option Nat
  lastErrorCode : Option String
  consecutiveFailures : Nat
  -- `stop` waits for the scan in flight
  stopping : Bool
  -- the event loop
  timers : List Timer
  unsettled : List PromiseId
  nextId : Nat
  ticks : Nat
  -- the row of the gate
  gate : Option LedgerScanGate
  -- what happened: storage failures, and the gates that finished scans asked for, oldest first
  storageFailures : Nat
  finished : List LedgerScanGate
  deriving DecidableEq, Repr

/-- A scheduler that was just made, over a gate. -/
def World.make (options : LedgerIngestSchedulerOptions) (gate : Option LedgerScanGate) : World where
  lastGate := none
  unpersistedSchedule := none
  beforeStorageFailure := none
  pending := none
  resolvedIntervalMilliseconds := options.intervalMilliseconds
  timer := none
  nextRunAt := none
  scheduledIntervalMilliseconds := none
  scheduleKind := none
  lastCompletedAt := none
  current := none
  started := false
  stopped := false
  state := .idle
  lastAttemptAt := none
  lastSuccessAt := none
  lastErrorCode := none
  consecutiveFailures := 0
  stopping := false
  timers := []
  unsettled := []
  nextId := 0
  ticks := 0
  gate := gate
  storageFailures := 0
  finished := []

/-- A method of the scheduler. -/
abbrev Method (α : Type) : Type := Script World Fault α

/-- What `trigger` returns: a promise that is rejected, or one that waits for a scan. -/
inductive Returned
  | rejected (fault : Fault)
  | promise (id : PromiseId)
  deriving DecidableEq, Repr

def maximumRetryDelayMilliseconds : Nat := 24 * 60 * 60 * 1000

def nonRetryableDelayMilliseconds : Nat := 15 * 60 * 1000

section
variable (options : LedgerIngestSchedulerOptions) (outside : Outside)

/-! ## Questions to the surroundings -/

def tick : Method Nat := do
  let k ← look (·.ticks)
  write fun w => { w with ticks := w.ticks + 1 }
  pure k

def safeNow (value : Int) : Method Nat :=
  if 0 ≤ value ∧ value ≤ maxSafeInteger then pure value.toNat
  else raise (.rangeError "ledger scheduler clock is invalid")

/-- `safeNow(this.#clock())` -/
def now : Method Nat := do
  let k ← tick
  safeNow (outside.clock k)

def gateRead : Method (Option LedgerScanGate) := do
  let k ← tick
  if outside.gateReadFails k then raise .outside else look (·.gate)

def gateWrite (gate : LedgerScanGate) : Method Unit := do
  let k ← tick
  if outside.gateWriteFails k then raise .outside else write fun w => { w with gate := some gate }

/-- A call of an observer, `onResult` or `onUnexpectedError`. -/
def observe : Method Unit := do
  let k ← tick
  if outside.observerThrows k then raise .outside else pure ()

def notifyUnexpected : Method Unit := attempt (observe outside) fun _ => pure ()

/-- `this.#getIntervalMilliseconds?.() ?? this.#resolvedIntervalMilliseconds` -/
def policyInterval : Method Int :=
  if options.hasIntervalPolicy then do
    let k ← tick
    match outside.policy k with
    | some interval => pure interval
    | none => raise .outside
  else look fun w => w.resolvedIntervalMilliseconds

def resolveInterval : Method Unit := do
  let interval ← policyInterval options outside
  if 1000 ≤ interval ∧ interval ≤ 3600000 then
    write fun w => { w with resolvedIntervalMilliseconds := interval.toNat }
  else raise (.rangeError "ledger scan interval is invalid")

def readIntervalMilliseconds : Method Nat := do
  attempt (resolveInterval options outside) fun _ => notifyUnexpected outside
  look (·.resolvedIntervalMilliseconds)

/-! ## The timer -/

def World.forgetTimer (w : World) : World :=
  { w with timer := none, nextRunAt := none, scheduledIntervalMilliseconds := none, scheduleKind := none }

def World.clearTimeout (id : Option Nat) (w : World) : World :=
  { w with timers := w.timers.filter fun t => some t.id ≠ id }

def clearTimer : Method Unit := write fun w => (w.clearTimeout w.timer).forgetTimer

def World.setTimeout (kind : LedgerScheduleKind) (interval delay : Nat) (w : World) : World :=
  { w with timers := w.timers ++ [⟨w.nextId, kind, interval, delay⟩], timer := some w.nextId, nextId := w.nextId + 1 }

def scheduleAt (nextRunAt interval : Nat) (kind : LedgerScheduleKind) : Method Unit := do
  clearTimer
  write fun w => { w with nextRunAt := some nextRunAt, scheduledIntervalMilliseconds := some interval, scheduleKind := some kind }
  let current ← now outside
  write (·.setTimeout kind interval (nextRunAt - current))

/-! ## Promises -/

def waitForNextScan : Method Returned := do
  let pending ← look (·.pending)
  match pending with
  | some id => pure (.promise id)
  | none => do
    let id ← look (·.nextId)
    write fun w => { w with pending := some id, unsettled := w.unsettled ++ [id], nextId := w.nextId + 1 }
    pure (.promise id)

/-- `#pending` is resolved or rejected. -/
def World.settlePending (w : World) : World :=
  { w with pending := none, unsettled := w.unsettled.filter fun id => some id ≠ w.pending }

def settlePending : Method Unit := write (·.settlePending)

/-! ## Storage -/

def World.storageDegraded (w : World) : World :=
  { w with beforeStorageFailure := w.beforeStorageFailure <|> some (w.state, w.lastErrorCode),
           state := .degraded, lastErrorCode := some "scan_schedule_unavailable",
           storageFailures := w.storageFailures + 1 }

def scheduleStorageRetry : Method Unit := do
  let current ← now outside
  let w ← look id
  if w.scheduleKind = some .storage ∧ w.nextRunAt.any (current < ·) then pure ()
  else scheduleAt outside (current + 5000) w.resolvedIntervalMilliseconds .storage

def storageFailed : Method Unit := do
  write (·.storageDegraded)
  settlePending
  notifyUnexpected outside
  let w ← look id
  if w.started = false ∨ w.stopped then pure ()
  else attempt (scheduleStorageRetry outside) fun _ => notifyUnexpected outside

def World.storageRecovered (w : World) : World :=
  match w.beforeStorageFailure with
  | none => w
  | some (state, errorCode) =>
    { w with state := if w.stopped then w.state else state, lastErrorCode := errorCode, beforeStorageFailure := none }

/-- The schedule, moved on by what the gate has saved. -/
def PendingSchedule.merge (pending : PendingSchedule) (saved : Option LedgerScanGate) : PendingSchedule :=
  let completedAt := max pending.gate.completedAt ((saved.map (·.completedAt)).getD 0)
  let protectedUntil := max pending.gate.protectedUntil ((saved.map (·.protectedUntil)).getD 0)
  let continuation := completedAt = pending.gate.completedAt && pending.gate.continuation
  { pending with
    gate := ⟨completedAt, protectedUntil, continuation⟩
    nextRunAt := max (max pending.nextRunAt protectedUntil)
      (if continuation then 0 else completedAt + options.minimumIntervalMilliseconds) }

/-- `this.#gate ? this.#gate.read() ?? this.#lastGate : null` -/
def savedGate : Method (Option LedgerScanGate) :=
  if options.hasGate then do
    let gate ← gateRead outside
    let lastGate ← look (·.lastGate)
    pure (gate <|> lastGate)
  else pure none

/-- `this.#gate?.write(pending.gate)` -/
def saveGate (gate : LedgerScanGate) : Method Unit := if options.hasGate then gateWrite outside gate else pure ()

def writeSchedule (schedule : PendingSchedule) : Method PendingSchedule := do
  write fun w => { w with unpersistedSchedule := some schedule }
  saveGate options outside schedule.gate
  write fun w => World.storageRecovered { w with lastGate := some schedule.gate, unpersistedSchedule := none }
  pure schedule

def persistSchedule (pending : PendingSchedule) : Method PendingSchedule := do
  let saved ← savedGate options outside
  writeSchedule options outside (pending.merge options saved)

def armSchedule (schedule : PendingSchedule) : Method Unit := do
  let w ← look id
  if w.started = false ∨ w.stopped then pure ()
  else scheduleAt outside schedule.nextRunAt schedule.interval schedule.kind

def recordSchedule (schedule : PendingSchedule) : Method Unit := do
  write fun w => { w with unpersistedSchedule := some schedule, finished := w.finished ++ [schedule.gate] }
  let persisted ← persistSchedule options outside schedule
  armSchedule outside persisted

/-! ## A scan starts -/

def World.completedAt (gate : Option LedgerScanGate) (w : World) : Option Nat := gate.map (·.completedAt) <|> w.lastCompletedAt

def World.protectedUntil (gate : Option LedgerScanGate) (w : World) : Nat :=
  max ((gate.map (·.protectedUntil)).getD 0) (if w.scheduleKind = some .retry then w.nextRunAt.getD 0 else 0)

def World.continuing (gate : Option LedgerScanGate) (w : World) : Bool :=
  (gate.map (·.continuation)).getD (w.scheduleKind = some .continuation)

def World.earliest (gate : Option LedgerScanGate) (w : World) : Nat :=
  max (w.protectedUntil gate)
    (if w.continuing gate then 0
     else ((w.completedAt gate).map (· + options.minimumIntervalMilliseconds)).getD 0)

def World.mustWait (gate : Option LedgerScanGate) (current : Nat) (reason : String) (w : World) : Bool :=
  0 < options.minimumIntervalMilliseconds &&
    (current < w.earliest options gate ||
      (reason ≠ "scheduled" && w.scheduleKind = some .continuation && w.timer.isSome))

/-- A continuation that is armed already is left alone. -/
def armWait (gate : Option LedgerScanGate) (current : Nat) (w : World) : Method Unit :=
  if w.scheduleKind ≠ some .continuation ∨ w.timer = none then do
    let interval ← readIntervalMilliseconds options outside
    scheduleAt outside (w.earliest options gate) interval (if current < w.protectedUntil gate then .retry else .manual)
  else pure ()

def waitUntilAllowed (gate : Option LedgerScanGate) (current : Nat) : Method Returned := do
  let w ← look id
  armWait options outside gate current w
  waitForNextScan

def World.begin (attemptStartedAt : Nat) (w : World) : World :=
  { w with lastAttemptAt := some attemptStartedAt, state := .running,
           current := some ⟨w.nextId, w.state, attemptStartedAt, false⟩,
           unsettled := w.unsettled ++ [w.nextId], nextId := w.nextId + 1 }

/-- A pending automatic timer would race a scan that was asked for. -/
def cancelTimer (reason : String) : Method Unit := if reason ≠ "scheduled" then clearTimer else pure ()

def startScan (reason : String) : Method Returned := do
  cancelTimer reason
  let attemptStartedAt ← now outside
  let id ← look (·.nextId)
  write (·.begin attemptStartedAt)
  pure (.promise id)

/-- `this.#gate?.read() ?? this.#lastGate` -/
def currentGate : Method (Option LedgerScanGate) :=
  if options.hasGate then savedGate options outside else look (·.lastGate)

def requestScan (reason : String) (current : Nat) : Method Returned := do
  let gate ← currentGate options outside
  write fun w => World.storageRecovered { w with lastGate := gate }
  let w ← look id
  if w.mustWait options gate current reason then waitUntilAllowed options outside gate current
  else startScan outside reason

def restoreSchedule (schedule : PendingSchedule) : Method Returned := do
  let restored ← persistSchedule options outside schedule
  armSchedule outside restored
  waitForNextScan

/-- `#trigger` -/
def triggerIdle (reason : String) : Method Returned := do
  let current ← now outside
  let w ← look id
  if w.scheduleKind = some .storage ∧ w.nextRunAt.any (current < ·) then
    pure (.rejected (.error "ledger schedule storage is awaiting retry"))
  else match w.unpersistedSchedule with
    | some schedule => restoreSchedule options outside schedule
    | none => requestScan options outside reason current

def trigger (reason : String) : Method Returned := do
  let w ← look id
  if w.started = false ∨ w.stopped then pure (.rejected (.error "ledger scheduler is not running"))
  else match w.current with
    | some scan => pure (.promise scan.promise)
    | none => attempt (triggerIdle options outside reason) fun fault => do
      storageFailed outside
      pure (.rejected fault)

def start : Method Unit := do
  let w ← look id
  if w.started then raise (.error "ledger scheduler is already started")
  else if w.stopped then raise (.error "ledger scheduler cannot be restarted after stop")
  else do
    write fun w => { w with started := true }
    let _ ← trigger options outside "startup"
    pure ()

/-! ## A scan ends -/

def World.succeed (scan : Scan) (w : World) : World :=
  { w with state := .healthy, lastSuccessAt := some scan.attemptStartedAt, lastErrorCode := none, consecutiveFailures := 0 }

/-- The health after a result. -/
def World.record (scan : Scan) (result : LedgerScanResult) (w : World) : World :=
  if result.status = .SKIPPED ∨ result.errorCode = some "scan_aborted" then { w with state := scan.previousState }
  else match result.status with
    | .COMPLETED => w.succeed scan
    | .PARTIAL =>
      { w with state := .catching_up, lastErrorCode := result.errorCode, consecutiveFailures := 0,
               lastSuccessAt := if result.normalCompleted then some scan.attemptStartedAt else w.lastSuccessAt }
    | _ => { w with state := .degraded, lastErrorCode := result.errorCode, consecutiveFailures := w.consecutiveFailures + 1 }

/-- The schedule after a scan that was cancelled: the cooldowns stay, and no failure is invented. -/
def abortedSchedule (result : LedgerScanResult) (completedAt interval : Nat) (previous : Option LedgerScanGate) : PendingSchedule :=
  let providerDeadline := match result.retryAfterSeconds with
    | some seconds => if 0 < seconds then completedAt + min maximumRetryDelayMilliseconds (seconds * 1000) else 0
    | none => 0
  let protectedUntil := max ((previous.map (·.protectedUntil)).getD 0) providerDeadline
  { gate := ⟨completedAt, protectedUntil, false⟩
    nextRunAt := max (completedAt + interval) protectedUntil
    interval := interval
    kind := if completedAt + interval < protectedUntil then .retry else .normal }

/-- The delay after a scan that failed (`some`) or threw (`none`). -/
def retryDelay (interval consecutiveFailures : Nat) : Option LedgerScanResult → Nat
  | some result =>
    if result.cooldownActive then
      min maximumRetryDelayMilliseconds (max 1000 (result.retryAfterSeconds.getD 1 * 1000))
    else if result.retryable = false then
      min maximumRetryDelayMilliseconds
        (max interval (result.retryAfterSeconds.getD (nonRetryableDelayMilliseconds / 1000) * 1000))
    else if result.errorCode = some "pagination_variant" then
      min maximumRetryDelayMilliseconds (max 1000 (result.retryAfterSeconds.getD 1 * 1000))
    else
      min maximumRetryDelayMilliseconds (max (max interval
        (min maximumRetryDelayMilliseconds (interval * 2 ^ (consecutiveFailures - 1)))) (result.retryAfterSeconds.getD 0 * 1000))
  | none => min maximumRetryDelayMilliseconds (max interval
      (min maximumRetryDelayMilliseconds (interval * 2 ^ (consecutiveFailures - 1))))

/-- The kind of the next schedule, and its delay. -/
def nextDelay (interval consecutiveFailures : Nat) (result : Option LedgerScanResult) : LedgerScheduleKind × Nat :=
  match result.map LedgerScanResult.status with
  | none => (.retry, retryDelay interval consecutiveFailures result)
  | some .FAILED => (.retry, retryDelay interval consecutiveFailures result)
  | some .PARTIAL => (.continuation, 0)
  | some _ => (.normal, interval)

def nextSchedule (result : Option LedgerScanResult) (completedAt interval : Nat) (w : World) : PendingSchedule :=
  let next := nextDelay interval w.consecutiveFailures result
  { gate := ⟨completedAt, if next.1 = .retry then completedAt + next.2 else 0, next.1 = .continuation⟩
    nextRunAt := completedAt + next.2
    interval := interval
    kind := next.1 }

/-- The schedule that a result asks for. -/
def World.scheduleAfter (result : Option LedgerScanResult) (completedAt interval : Nat) (w : World) : PendingSchedule :=
  match result with
  | some aborted =>
    if aborted.errorCode = some "scan_aborted" then abortedSchedule aborted completedAt interval w.lastGate
    else nextSchedule result completedAt interval w
  | none => nextSchedule none completedAt interval w

def scheduleNext (result : Option LedgerScanResult) : Method Unit := do
  let completedAt ← now outside
  write fun w => { w with lastCompletedAt := some completedAt }
  let interval ← readIntervalMilliseconds options outside
  let w ← look id
  recordSchedule options outside (w.scheduleAfter result completedAt interval)

/-- `try { this.#scheduleNext(result) } catch (error) { this.#storageFailed(error); throw error; }` -/
def scheduleOrFail (result : Option LedgerScanResult) : Method Unit :=
  attempt (scheduleNext options outside result) fun fault => do
    storageFailed outside
    raise fault

/-- The handler of the promise of a scan. -/
def scanSettled (scan : Scan) : Except Fault LedgerScanResult → Method Unit
  | .ok result => do
    write (·.record scan result)
    attempt (observe outside) fun _ => notifyUnexpected outside
    scheduleOrFail options outside (some result)
    settlePending
  | .error fault => do
    write fun w => { w with state := .degraded, lastErrorCode := some "scan_failed", consecutiveFailures := w.consecutiveFailures + 1 }
    notifyUnexpected outside
    scheduleOrFail options outside none
    settlePending
    raise fault

/-! ## The other entry points -/

def refreshSchedule : Method Unit := do
  let w ← look id
  match w.scheduledIntervalMilliseconds, w.nextRunAt with
  | some previousInterval, some nextRunAt =>
    if w.started = false ∨ w.stopped ∨ w.current.isSome ∨ w.scheduleKind ≠ some .normal then pure ()
    else do
      let interval ← readIntervalMilliseconds options outside
      if interval = previousInterval then pure ()
      else do
        let current ← now outside
        let w ← look id
        scheduleAt outside
          (if interval < previousInterval then min nextRunAt (current + interval)
           else max current (w.lastCompletedAt.getD current + interval)) interval .normal
  | _, _ => pure ()

/-- The callback of a timer that was armed with `kind` and `interval`. -/
def timerFired (timer : Timer) : Method Unit := do
  let w ← look id
  if w.timer ≠ some timer.id then pure ()
  else do
    write (·.forgetTimer)
    if timer.kind = .normal then do
      let currentInterval ← readIntervalMilliseconds options outside
      let current ← now outside
      let w ← look id
      let dueAt := w.lastCompletedAt.getD current + currentInterval
      if timer.interval < currentInterval ∧ current < dueAt then scheduleAt outside dueAt currentInterval .normal
      else do
        let _ ← trigger options outside "scheduled"
        pure ()
    else do
      let _ ← trigger options outside "scheduled"
      pure ()

def persistUnpersisted : Method Unit := do
  let w ← look id
  match w.unpersistedSchedule with
  | some schedule => do
    let _ ← persistSchedule options outside schedule
    pure ()
  | none => pure ()

/-- `stop`, up to where it waits for the scan in flight. -/
def stop : Method Unit := do
  let w ← look id
  if w.stopped then
    if w.current.isNone then persistUnpersisted options outside else pure ()
  else do
    write fun w => { w with stopped := true, stopping := true }
    settlePending
    clearTimer

/-- `stop`, when no scan is in flight any more. -/
def stopResumed : Method Unit := do
  write fun w => { w with state := .stopped, stopping := false }
  persistUnpersisted options outside

end

/-! ## Runs -/

inductive Event
  | start
  | trigger (reason : String)
  | refreshSchedule
  | timerFires (id : Nat)
  | scanSettles (result : Except Fault LedgerScanResult)
  /-- `finally` -/
  | scanEnds
  | stop
  | stopResumes
  /-- another scheduler is made over the same gate; the old one is gone -/
  | recreate

/-- The scan in flight has settled. -/
def World.markSettled (w : World) : World := { w with current := w.current.map fun scan => { scan with settled := true } }

/-- `#current` becomes `null`, and the promise of the scan settles. -/
def World.endScan (scan : Scan) (w : World) : World :=
  { w with current := none, unsettled := w.unsettled.filter fun id => id ≠ scan.promise }

/-- The event loop has taken the timer out. -/
def World.fire (id : Nat) (w : World) : World := { w with timers := w.timers.filter fun t => t.id ≠ id }

/-- A new scheduler over the gate of the old one. -/
def World.recreate (options : LedgerIngestSchedulerOptions) (w : World) : World :=
  { World.make options w.gate with
    nextId := w.nextId, ticks := w.ticks, storageFailures := w.storageFailures, finished := w.finished }

/-- One step of the event loop, when the event can happen. -/
def World.step (options : LedgerIngestSchedulerOptions) (w : World) (input : Event × Outside) : Option World :=
  match input.1 with
  | .start => some ((Scanning.start options input.2).after w)
  | .trigger reason => some ((Scanning.trigger options input.2 reason).after w)
  | .refreshSchedule => some ((Scanning.refreshSchedule options input.2).after w)
  | .timerFires id =>
    -- `finally` is a microtask: it comes before the next timer
    if w.current.any (·.settled) then none
    else match w.timers.find? (·.id = id) with
      | some timer => some ((timerFired options input.2 timer).after (w.fire id))
      | none => none
  | .scanSettles result =>
    match w.current with
    | some scan => if scan.settled then none else some ((scanSettled options input.2 scan result).after w).markSettled
    | none => none
  | .scanEnds =>
    match w.current with
    | some scan => if scan.settled then some (w.endScan scan) else none
    | none => none
  | .stop => some ((Scanning.stop options input.2).after w)
  | .stopResumes => if w.stopping ∧ w.current = none then some ((stopResumed options input.2).after w) else none
  | .recreate => some (w.recreate options)

end PerPay.Scanning
