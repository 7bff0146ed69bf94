/-
  **The scanner never falls silent.**

  Every method ends with a scan in flight or with the timer armed, as long as the scheduler is started and not
  stopped: `scheduleAt` is the only way to arm the timer, it clears the old one first, and it does not fail while
  the clock gives valid readings.  A storage error that strikes between the two is caught by `storageFailed`,
  which arms the timer itself.  The promises that are not settled are the one that waits for the next scan and
  that of the scan in flight.
-/
import PerPay.Scanning.Scheduler
import PerPay.Lib.Runs

namespace PerPay.Scanning

open Script

/-! ## What the invariant is about -/

/-- The promises, the scan, and what decides whether the scheduler runs. -/
structure Standing where
  unsettled : List PromiseId
  pending : Option PromiseId
  current : Option Scan
  started : Bool
  stopped : Bool
  storageFailures : Nat

/-- The timer and the standing. -/
structure Shape where
  timers : List Nat
  timer : Option Nat
  scheduled : Bool
  nextId : Nat
  standing : Standing

def World.shape (w : World) : Shape where
  timers := w.timers.map Timer.id
  timer := w.timer
  scheduled := w.scheduleKind.isSome
  nextId := w.nextId
  standing := ⟨w.unsettled, w.pending, w.current, w.started, w.stopped, w.storageFailures⟩

/-- The timers of the event loop are the timer of the scheduler, and the promises that are not settled are those
    it waits with. -/
structure Shape.Tidy (s : Shape) : Prop where
  timers : s.timers = s.timer.toList
  scheduled : s.scheduled = s.timer.isSome
  timerMade : ∀ id ∈ s.timer, id < s.nextId
  promisesMade : ∀ p ∈ s.standing.unsettled, p < s.nextId
  awaited : ∀ p ∈ s.standing.unsettled,
    some p = s.standing.pending ∨ ∃ scan, s.standing.current = some scan ∧ scan.promise = p

/-- A scheduler that stands as `standing` says, and whose identifiers below `nextId` are all made. -/
structure Shape.Stands (standing : Standing) (nextId : Nat) (s : Shape) : Prop extends s.Tidy where
  same : s.standing = standing
  later : nextId ≤ s.nextId

/-- All readings of the clock are valid. -/
def Outside.Valid (outside : Outside) : Prop := ∀ k, 0 ≤ outside.clock k ∧ outside.clock k ≤ maxSafeInteger

section
variable {options : LedgerIngestSchedulerOptions} {outside : Outside}

/-! ## Quiet methods -/

/-- A method that touches neither the timer nor the promises. -/
abbrev Quiet {α : Type} (x : Method α) : Prop := Leaves World.shape x

theorem tick_quiet : Quiet tick :=
  leaves_bind (leaves_look _) fun _ => leaves_bind (leaves_write fun _ => rfl) fun _ => leaves_pure _

theorem safeNow_quiet (value : Int) : Quiet (safeNow value) := leaves_ite (leaves_pure _) (leaves_raise _)

theorem now_quiet : Quiet (now outside) := leaves_bind tick_quiet fun _ => safeNow_quiet _

theorem gateRead_quiet : Quiet (gateRead outside) :=
  leaves_bind tick_quiet fun _ => leaves_ite (leaves_raise _) (leaves_look _)

theorem gateWrite_quiet (gate : LedgerScanGate) : Quiet (gateWrite outside gate) :=
  leaves_bind tick_quiet fun _ => leaves_ite (leaves_raise _) (leaves_write fun _ => rfl)

theorem observe_quiet : Quiet (observe outside) :=
  leaves_bind tick_quiet fun _ => leaves_ite (leaves_raise _) (leaves_pure _)

theorem notifyUnexpected_quiet : Quiet (notifyUnexpected outside) := leaves_attempt observe_quiet fun _ => leaves_pure _

theorem policyInterval_quiet : Quiet (policyInterval options outside) := by
  refine leaves_ite (leaves_bind tick_quiet fun k => ?_) (leaves_look _)
  cases outside.policy k with
  | none => exact leaves_raise _
  | some interval => exact leaves_pure _

theorem readIntervalMilliseconds_quiet : Quiet (readIntervalMilliseconds options outside) := by
  refine leaves_bind (leaves_attempt ?_ fun _ => notifyUnexpected_quiet) fun _ => leaves_look _
  exact leaves_bind policyInterval_quiet fun _ => leaves_ite (leaves_write fun _ => rfl) (leaves_raise _)

theorem storageRecovered_shape (w : World) : w.storageRecovered.shape = w.shape := by
  unfold World.storageRecovered
  split <;> rfl

theorem savedGate_quiet : Quiet (savedGate options outside) := by
  refine leaves_ite ?_ (leaves_pure _)
  exact leaves_bind gateRead_quiet fun _ => leaves_bind (leaves_look _) fun _ => leaves_pure _

theorem saveGate_quiet (gate : LedgerScanGate) : Quiet (saveGate options outside gate) :=
  leaves_ite (gateWrite_quiet gate) (leaves_pure _)

theorem writeSchedule_quiet (schedule : PendingSchedule) : Quiet (writeSchedule options outside schedule) :=
  leaves_bind (leaves_write fun _ => rfl) fun _ => leaves_bind (saveGate_quiet _) fun _ =>
    leaves_bind (leaves_write fun _ => storageRecovered_shape _) fun _ => leaves_pure _

theorem persistSchedule_quiet (pending : PendingSchedule) : Quiet (persistSchedule options outside pending) :=
  leaves_bind savedGate_quiet fun _ => writeSchedule_quiet _

theorem currentGate_quiet : Quiet (currentGate options outside) := leaves_ite savedGate_quiet (leaves_look _)

/-! ## Methods that return -/

theorem tick_returns : Returns tick :=
  returns_bind (returns_look _) fun _ => returns_bind (returns_write _) fun _ => returns_pure _

theorem now_returns (hvalid : outside.Valid) : Returns (now outside) := by
  refine returns_bind tick_returns fun k => ?_
  unfold safeNow
  rw [if_pos (hvalid k)]
  exact returns_pure _

theorem notifyUnexpected_returns : Returns (notifyUnexpected outside) := returns_attempt fun _ => returns_pure _

theorem readIntervalMilliseconds_returns : Returns (readIntervalMilliseconds options outside) :=
  returns_bind (returns_attempt fun _ => notifyUnexpected_returns) fun _ => returns_look _

/-- A quiet method that returns can stand anywhere. -/
theorem quiet_meets {α : Type} {x : Method α} (hx : Quiet x) (hreturns : Returns x) (p : Shape → Prop) {E : Fault → World → Prop} :
    Meets (fun w => p w.shape) x (fun _ w => p w.shape) E :=
  meets_conseq (hreturns.meets (hx.meets p)) (fun _ h => h) (fun _ _ h => h) fun _ _ h => h.elim

/-- A write that leaves the shape alone can stand anywhere. -/
theorem write_meets {f : World → World} (p : Shape → Prop) (hf : ∀ w, (f w).shape = w.shape) {E : Fault → World → Prop} :
    Meets (fun w => p w.shape) (write f) (fun _ w => p w.shape) E :=
  meets_write fun w h => (congrArg p (hf w)).mpr h

/-! ## The timer -/

variable {standing : Standing} {nextId : Nat} {E : Fault → World → Prop}

/-- The scheduler stands, and its timer is armed. -/
def Armed (standing : Standing) (nextId : Nat) (w : World) : Prop := w.shape.Stands standing nextId ∧ w.timer.isSome

/-- The scheduler stands, and its timer is armed if it runs. -/
def ArmedIfRunning (standing : Standing) (nextId : Nat) (w : World) : Prop :=
  w.shape.Stands standing nextId ∧ (standing.started = true → standing.stopped = false → w.timer.isSome)

theorem Armed.ifRunning {w : World} (h : Armed standing nextId w) : ArmedIfRunning standing nextId w := ⟨h.1, fun _ _ => h.2⟩

theorem halted_ifRunning {w : World} (h : w.shape.Stands standing nextId) (hhalted : w.started = false ∨ w.stopped = true) :
    ArmedIfRunning standing nextId w := by
  refine ⟨h, fun hstarted hstopped => ?_⟩
  have hsame : w.started = standing.started ∧ w.stopped = standing.stopped :=
    ⟨congrArg Standing.started h.same, congrArg Standing.stopped h.same⟩
  rw [hsame.1, hsame.2, hstarted, hstopped] at hhalted
  exact absurd hhalted (by decide)

/-- A look at the whole scheduler. -/
theorem look_meets {α : Type} {f : World → Method α} {Q : α → World → Prop} {P : World → Prop}
    (h : ∀ v, Meets (fun w => v = w ∧ P w) (f v) Q E) : Meets P (look id >>= f) Q E :=
  meets_bind (meets_look (Q := fun v w => v = w ∧ P w) fun _ hw => ⟨rfl, hw⟩) h

theorem clearTimer_meets : Meets (fun w => w.shape.Stands standing nextId) clearTimer
    (fun _ w => w.shape.Stands standing nextId ∧ w.timer = none) E := by
  refine meets_write fun w h => ⟨?_, rfl⟩
  have htimers : (w.timers.filter fun t => some t.id ≠ w.timer) = [] := by
    have hids : w.timers.map Timer.id = w.timer.toList := h.timers
    refine List.filter_eq_nil_iff.mpr fun t ht => ?_
    have hmem : t.id ∈ w.timer.toList := hids ▸ List.mem_map_of_mem ht
    rw [Option.mem_toList] at hmem
    simpa using hmem.symm
  refine ⟨⟨?_, rfl, nofun, h.promisesMade, h.awaited⟩, h.same, h.later⟩
  show (w.timers.filter fun t => some t.id ≠ w.timer).map Timer.id = []
  rw [htimers, List.map_nil]

/-- The fields of the timer are written, and it is not armed yet. -/
def Planned (standing : Standing) (nextId : Nat) (s : Shape) : Prop :=
  ({ s with scheduled := false } : Shape).Stands standing nextId ∧ s.timer = none ∧ s.scheduled = true

theorem setTimeout_armed {w : World} (h : Planned standing nextId w.shape) (kind : LedgerScheduleKind) (interval delay : Nat) :
    Armed standing nextId (w.setTimeout kind interval delay) := by
  obtain ⟨h, htimer, hkind⟩ := h
  have htimers : w.timers.map Timer.id = [] := by
    have hids : w.timers.map Timer.id = w.timer.toList := h.timers
    rw [hids, show w.timer = none from htimer]
    rfl
  refine ⟨⟨⟨?_, hkind, ?_, ?_, h.awaited⟩, h.same, Nat.le_succ_of_le h.later⟩, rfl⟩
  · show (w.timers ++ [Timer.mk w.nextId kind interval delay]).map Timer.id = [w.nextId]
    rw [List.map_append, htimers]
    rfl
  · intro id hid
    rw [← Option.some.inj hid]
    exact Nat.lt_succ_self _
  · exact fun p hp => Nat.lt_succ_of_lt (h.promisesMade p hp)

/-- `scheduleAt` clears the old timer and arms a new one. -/
theorem scheduleAt_meets (hvalid : outside.Valid) (nextRunAt interval : Nat) (kind : LedgerScheduleKind) :
    Meets (fun w => w.shape.Stands standing nextId) (scheduleAt outside nextRunAt interval kind)
      (fun _ => Armed standing nextId) E := by
  refine meets_bind clearTimer_meets fun _ => ?_
  refine meets_bind (meets_write (Q := fun _ w => Planned standing nextId w.shape) ?_) fun _ => ?_
  · rintro w ⟨h, hnone⟩
    refine ⟨⟨⟨h.timers, ?_, h.timerMade, h.promisesMade, h.awaited⟩, h.same, h.later⟩, hnone, rfl⟩
    show false = w.timer.isSome
    rw [hnone]
    rfl
  · refine meets_bind (quiet_meets now_quiet (now_returns hvalid) (Planned standing nextId)) fun current => ?_
    exact meets_write fun w h => setTimeout_armed h kind interval _

/-! ## Storage -/

/-- As `standing`, with the waiting promise settled. -/
def Standing.settled (standing : Standing) : Standing :=
  { standing with unsettled := standing.unsettled.filter fun p => some p ≠ standing.pending, pending := none }

/-- As `standing`, after a storage failure. -/
def Standing.failed (standing : Standing) : Standing :=
  Standing.settled { standing with storageFailures := standing.storageFailures + 1 }

theorem settlePending_tidy {w : World} (h : w.shape.Tidy) : w.settlePending.shape.Tidy := by
  refine ⟨h.timers, h.scheduled, h.timerMade, fun p hp => h.promisesMade p (List.mem_of_mem_filter hp), fun p hp => ?_⟩
  have hkept : p ∈ w.unsettled ∧ some p ≠ w.pending := by
    have hfilter := List.mem_filter.mp hp
    exact ⟨hfilter.1, of_decide_eq_true hfilter.2⟩
  exact .inr ((h.awaited p hkept.1).resolve_left hkept.2)

theorem scheduleStorageRetry_meets (hvalid : outside.Valid) :
    Meets (fun w => w.shape.Stands standing nextId) (scheduleStorageRetry outside) (fun _ => Armed standing nextId)
      (fun _ => Armed standing nextId) := by
  refine meets_bind (quiet_meets now_quiet (now_returns hvalid) (Shape.Stands standing nextId)) fun current => ?_
  refine look_meets fun v => ?_
  refine meets_ite (fun hstorage => meets_pure ?_) fun _ => ?_
  · -- a recovery attempt is armed already
    rintro w ⟨rfl, h⟩
    refine ⟨h, ?_⟩
    have hscheduled : v.scheduleKind.isSome = v.timer.isSome := h.scheduled
    rw [← hscheduled, hstorage.1]
    rfl
  · exact meets_conseq (scheduleAt_meets hvalid _ _ _) (fun w h => h.2) (fun _ _ h => h) fun _ _ h => h

theorem settlePending_meets : Meets (fun w => w.shape.Stands standing nextId) settlePending
    (fun _ w => w.shape.Stands standing.settled nextId) E := by
  refine meets_write fun w h => ⟨settlePending_tidy h.toTidy, ?_, h.later⟩
  rw [← h.same]
  rfl

/-- Whatever was going on, a storage failure leaves the timer of a scheduler that runs armed. -/
theorem storageFailed_meets (hvalid : outside.Valid) : Meets (fun w => w.shape.Stands standing nextId) (storageFailed outside)
    (fun _ => ArmedIfRunning standing.failed nextId) E := by
  refine meets_bind (meets_write (Q := fun _ w => w.shape.Stands { standing with storageFailures := standing.storageFailures + 1 } nextId)
    fun w h => ?_) fun _ => meets_bind settlePending_meets fun _ => ?_
  · refine ⟨⟨h.timers, h.scheduled, h.timerMade, h.promisesMade, h.awaited⟩, ?_, h.later⟩
    rw [← h.same]
    rfl
  refine meets_bind (quiet_meets notifyUnexpected_quiet notifyUnexpected_returns (Shape.Stands standing.failed nextId)) fun _ => ?_
  refine look_meets fun v => meets_ite (fun hhalted => meets_pure ?_) fun _ => ?_
  · rintro w ⟨rfl, h⟩
    exact halted_ifRunning h hhalted
  · refine @meets_attempt _ _ _ _ _ _ (fun _ => Armed standing.failed nextId) _ _ ?_ fun _ => ?_
    · exact meets_conseq (scheduleStorageRetry_meets hvalid) (fun w h => h.2) (fun _ w h => h.ifRunning) fun _ _ h => h
    · exact meets_conseq (quiet_meets (E := E) notifyUnexpected_quiet notifyUnexpected_returns
        fun s => s.Stands standing.failed nextId ∧ s.timer.isSome) (fun w h => h) (fun _ w h => Armed.ifRunning h) fun _ _ h => h

/-- An armed schedule, unless the scheduler does not run. -/
theorem armSchedule_meets (hvalid : outside.Valid) (schedule : PendingSchedule) :
    Meets (fun w => w.shape.Stands standing nextId) (armSchedule outside schedule) (fun _ => ArmedIfRunning standing nextId) E := by
  refine look_meets fun v => meets_ite (fun hhalted => meets_pure ?_) fun _ => ?_
  · rintro w ⟨rfl, h⟩
    exact halted_ifRunning h hhalted
  · exact meets_conseq (scheduleAt_meets hvalid _ _ _) (fun w h => h.2) (fun _ w h => h.ifRunning) fun _ _ h => h

/-! ## After a scan -/

theorem recordSchedule_meets (hvalid : outside.Valid) (schedule : PendingSchedule) :
    Meets (fun w => w.shape.Stands standing nextId) (recordSchedule options outside schedule)
      (fun _ => ArmedIfRunning standing nextId) (fun _ w => w.shape.Stands standing nextId) := by
  refine meets_bind (write_meets (Shape.Stands standing nextId) ?_) fun _ => ?_
  · exact fun _ => rfl
  exact meets_bind ((persistSchedule_quiet schedule).meets (Shape.Stands standing nextId)) fun _ => armSchedule_meets hvalid _

theorem scheduleNext_meets (hvalid : outside.Valid) (result : Option LedgerScanResult) :
    Meets (fun w => w.shape.Stands standing nextId) (scheduleNext options outside result)
      (fun _ => ArmedIfRunning standing nextId) (fun _ w => w.shape.Stands standing nextId) := by
  refine meets_bind (quiet_meets now_quiet (now_returns hvalid) (Shape.Stands standing nextId)) fun completedAt => ?_
  refine meets_bind (write_meets (Shape.Stands standing nextId) ?_) fun _ => ?_
  · exact fun _ => rfl
  refine meets_bind (quiet_meets readIntervalMilliseconds_quiet readIntervalMilliseconds_returns (Shape.Stands standing nextId))
    fun interval => look_meets fun v => ?_
  exact meets_conseq (recordSchedule_meets hvalid _) (fun w h => h.2) (fun _ _ h => h) fun _ _ h => h

theorem scheduleOrFail_meets (hvalid : outside.Valid) (result : Option LedgerScanResult) :
    Meets (fun w => w.shape.Stands standing nextId) (scheduleOrFail options outside result)
      (fun _ => ArmedIfRunning standing nextId) (fun _ => ArmedIfRunning standing.failed nextId) := by
  refine meets_attempt (scheduleNext_meets hvalid result) fun fault => ?_
  exact meets_bind (storageFailed_meets hvalid) fun _ => meets_raise fun w h => h

/-! ## Triggers -/

/-- What `#trigger` leaves behind of a scheduler that stood and ran: the timer, or a scan. -/
structure Answered (standing : Standing) (nextId : Nat) (w : World) : Prop where
  tidy : w.shape.Tidy
  later : nextId ≤ w.nextId
  started : w.started = standing.started
  stopped : w.stopped = standing.stopped
  storageFailures : w.storageFailures = standing.storageFailures
  fresh : ∀ p ∈ w.unsettled, p ∈ standing.unsettled ∨ nextId ≤ p
  alive : w.current = standing.current ∧ w.timer.isSome ∨
    ∃ scan, w.current = some scan ∧ scan.settled = false ∧ nextId ≤ scan.promise

theorem Answered.of_armed {w : World} (h : Armed standing nextId w) : Answered standing nextId w :=
  ⟨h.1.toTidy, h.1.later, congrArg Standing.started h.1.same, congrArg Standing.stopped h.1.same,
    congrArg Standing.storageFailures h.1.same, fun _ hp => .inl (congrArg Standing.unsettled h.1.same ▸ hp),
    .inl ⟨congrArg Standing.current h.1.same, h.2⟩⟩

/-- A promise that waits is the one that waited before, or a new one. -/
theorem waitForNextScan_meets : Meets (Armed standing nextId) waitForNextScan (fun _ => Answered standing nextId) E := by
  refine meets_bind (meets_look (Q := fun pending w => pending = w.pending ∧ Armed standing nextId w) fun w h => ⟨rfl, h⟩)
    fun pending => ?_
  cases pending with
  | some id => exact meets_pure fun w h => .of_armed h.2
  | none =>
    refine meets_bind (meets_look (Q := fun id w => id = w.nextId ∧ none = w.pending ∧ Armed standing nextId w)
      fun w h => ⟨rfl, h⟩) fun id => ?_
    refine meets_bind (meets_write (Q := fun _ => Answered standing nextId) ?_) fun _ => meets_pure fun w h => h
    rintro w ⟨rfl, hnone, h⟩
    have hold := Answered.of_armed h
    refine ⟨⟨h.1.timers, h.1.scheduled, fun id hid => Nat.lt_succ_of_lt (h.1.timerMade id hid), fun p hp => ?_, fun p hp => ?_⟩,
      Nat.le_succ_of_le h.1.later, hold.started, hold.stopped, hold.storageFailures, fun p hp => ?_, hold.alive⟩
    · rcases List.mem_append.mp hp with hp | hp
      · exact Nat.lt_succ_of_lt (h.1.promisesMade p hp)
      · rw [List.mem_singleton.mp hp]
        exact Nat.lt_succ_self _
    · rcases List.mem_append.mp hp with hp | hp
      · refine .inr ((h.1.awaited p hp).resolve_left fun hpending => ?_)
        exact nomatch hpending.trans hnone.symm
      · exact .inl (congrArg some (List.mem_singleton.mp hp))
    · rcases List.mem_append.mp hp with hp | hp
      · exact hold.fresh p hp
      · rw [List.mem_singleton.mp hp]
        exact .inr h.1.later

theorem startScan_meets (hvalid : outside.Valid) (hidle : standing.current = none) (reason : String) :
    Meets (fun w => w.shape.Stands standing nextId) (startScan outside reason) (fun _ => Answered standing nextId) E := by
  refine meets_bind (Q := fun _ w => w.shape.Stands standing nextId) ?_ fun _ => ?_
  · refine meets_ite (fun _ => ?_) fun _ => meets_pure fun w h => h
    exact meets_conseq (clearTimer_meets (E := E)) (fun w h => h) (fun _ w h => h.1) fun _ _ h => h
  refine meets_bind (quiet_meets now_quiet (now_returns hvalid) (Shape.Stands standing nextId)) fun attemptStartedAt => ?_
  refine meets_bind (meets_look (Q := fun _ w => w.shape.Stands standing nextId) fun w h => h) fun id => ?_
  refine meets_bind (meets_write (Q := fun _ => Answered standing nextId) fun w h => ?_) fun _ => meets_pure fun w h => h
  have hcurrent : w.current = none := (congrArg Standing.current h.same).trans hidle
  have hunsettled : w.unsettled = standing.unsettled := congrArg Standing.unsettled h.same
  refine ⟨⟨h.timers, h.scheduled, fun id hid => Nat.lt_succ_of_lt (h.timerMade id hid), fun p hp => ?_, fun p hp => ?_⟩,
    Nat.le_succ_of_le h.later, congrArg Standing.started h.same, congrArg Standing.stopped h.same,
    congrArg Standing.storageFailures h.same, fun p hp => ?_, .inr ⟨_, rfl, rfl, h.later⟩⟩
  · rcases List.mem_append.mp hp with hp | hp
    · exact Nat.lt_succ_of_lt (h.promisesMade p hp)
    · rw [List.mem_singleton.mp hp]
      exact Nat.lt_succ_self _
  · rcases List.mem_append.mp hp with hp | hp
    · refine .inl ((h.awaited p hp).resolve_right fun ⟨scan, hscan, _⟩ => ?_)
      exact nomatch hcurrent.symm.trans hscan
    · exact .inr ⟨_, rfl, (List.mem_singleton.mp hp).symm⟩
  · rcases List.mem_append.mp hp with hp | hp
    · exact .inl (hunsettled ▸ hp)
    · rw [List.mem_singleton.mp hp]
      exact .inr h.later

/-- `#trigger` leaves a timer or a scan, or throws before it has changed anything. -/
theorem triggerIdle_meets (hvalid : outside.Valid) (hidle : standing.current = none) (hstarted : standing.started = true)
    (hstopped : standing.stopped = false) (reason : String) :
    Meets (fun w => w.shape.Stands standing nextId) (triggerIdle options outside reason)
      (fun _ => Answered standing nextId) (fun _ w => w.shape.Stands standing nextId) := by
  refine meets_bind (quiet_meets now_quiet (now_returns hvalid) (Shape.Stands standing nextId)) fun current => look_meets fun v => ?_
  refine meets_ite (fun hstorage => meets_pure ?_) fun _ => ?_
  · rintro w ⟨rfl, h⟩
    refine .of_armed ⟨h, ?_⟩
    have hscheduled : v.scheduleKind.isSome = v.timer.isSome := h.scheduled
    rw [← hscheduled, hstorage.1]
    rfl
  cases v.unpersistedSchedule with
  | some schedule =>
    refine meets_bind (meets_conseq ((persistSchedule_quiet schedule).meets (Shape.Stands standing nextId)) (fun w h => h.2)
      (fun _ _ h => h) fun _ _ h => h) fun restored => ?_
    refine meets_bind (armSchedule_meets hvalid restored) fun _ => ?_
    exact meets_conseq waitForNextScan_meets (fun w h => ⟨h.1, h.2 hstarted hstopped⟩) (fun _ _ h => h) fun _ _ h => h
  | none =>
    refine meets_bind (meets_conseq (currentGate_quiet.meets (Shape.Stands standing nextId)) (fun w h => h.2)
      (fun _ _ h => h) fun _ _ h => h) fun gate => ?_
    refine meets_bind (write_meets (Shape.Stands standing nextId) ?_) fun _ => look_meets fun v => meets_ite (fun _ => ?_) fun _ => ?_
    · exact fun w => storageRecovered_shape _
    · refine look_meets fun v' => meets_bind (Q := fun _ => Armed standing nextId) ?_ fun _ => waitForNextScan_meets
      refine meets_ite (fun _ => ?_) fun hcontinuation => meets_pure ?_
      · refine meets_bind (meets_conseq (quiet_meets readIntervalMilliseconds_quiet readIntervalMilliseconds_returns
          (Shape.Stands standing nextId)) (fun w h => h.2.2) (fun _ _ h => h) fun _ _ h => h) fun interval => ?_
        exact scheduleAt_meets hvalid _ _ _
      · -- the continuation is armed already
        rintro w ⟨rfl, -, h⟩
        refine ⟨h, ?_⟩
        rw [not_or] at hcontinuation
        exact Option.isSome_iff_ne_none.mpr hcontinuation.2
    · exact meets_conseq (startScan_meets hvalid hidle reason) (fun w h => h.2) (fun _ _ h => h) fun _ _ h => h

/-! ## The invariant -/

/-- No promise waits behind a scan whose result was handled, nor in a scheduler that was stopped; and no scan was ever
    started by a scheduler that was not. -/
structure Standing.Calm (s : Standing) : Prop where
  handled : ∀ scan, s.current = some scan → scan.settled = true → s.pending = none
  halted : s.stopped = true → s.pending = none
  unstarted : s.started = false → s.current = none

/-- The scheduler is not silent. -/
structure World.Lively (w : World) : Prop where
  tidy : w.shape.Tidy
  calm : w.shape.standing.Calm
  alive : w.started = true → w.stopped = false → w.timer.isSome ∨ ∃ scan, w.current = some scan ∧ scan.settled = false

/-- The promises that are not settled are old ones that were not, and new ones, and so is that of the scan in flight;
    after a storage failure none waits. -/
structure Moved (standing : Standing) (nextId : Nat) (w : World) : Prop where
  later : nextId ≤ w.nextId
  fresh : ∀ p ∈ w.unsettled, p ∈ standing.unsettled ∨ nextId ≤ p
  scan : ∀ scan, w.current = some scan →
    (∃ old, standing.current = some old ∧ old.promise = scan.promise) ∨ nextId ≤ scan.promise
  failed : w.storageFailures ≠ standing.storageFailures → w.pending = none

theorem Moved.of_stands {w : World} (h : w.shape.Stands standing nextId) : Moved standing nextId w :=
  ⟨h.later, fun _ hp => .inl (congrArg Standing.unsettled h.same ▸ hp),
    fun scan hscan => .inl ⟨scan, (congrArg Standing.current h.same).symm.trans hscan, rfl⟩,
    fun hne => absurd (congrArg Standing.storageFailures h.same) hne⟩

theorem Moved.of_failed {w : World} (h : w.shape.Stands standing.failed nextId) : Moved standing nextId w := by
  refine ⟨h.later, fun p hp => .inl ?_, fun scan hscan => .inl ⟨scan, (congrArg Standing.current h.same).symm.trans hscan, rfl⟩,
    fun _ => congrArg Standing.pending h.same⟩
  have hunsettled : w.unsettled = standing.failed.unsettled := congrArg Standing.unsettled h.same
  exact List.mem_of_mem_filter (hunsettled ▸ hp)

theorem Standing.Calm.failed (h : standing.Calm) : standing.failed.Calm :=
  ⟨fun _ _ _ => rfl, fun _ => rfl, h.unstarted⟩

/-- A scheduler whose timer is armed if it runs is not silent. -/
theorem ArmedIfRunning.lively {w : World} (h : ArmedIfRunning standing nextId w) (hcalm : standing.Calm) : w.Lively := by
  refine ⟨h.1.toTidy, h.1.same ▸ hcalm, fun hstarted hstopped => .inl (h.2 ?_ ?_)⟩
  · exact (congrArg Standing.started h.1.same).symm.trans hstarted
  · exact (congrArg Standing.stopped h.1.same).symm.trans hstopped

theorem Answered.lively {w : World} (h : Answered standing nextId w) (hidle : standing.current = none)
    (hstarted : standing.started = true) (hstopped : standing.stopped = false) : w.Lively ∧ Moved standing nextId w := by
  have hcurrent : ∀ scan, w.current = some scan → scan.settled = false ∧ nextId ≤ scan.promise := by
    intro scan hscan
    rcases h.alive with ⟨hsame, -⟩ | ⟨scan', hscan', hnew⟩
    · exact nomatch (hsame.trans hidle).symm.trans hscan
    · rw [Option.some.inj (hscan.symm.trans hscan')]
      exact hnew
  refine ⟨⟨h.tidy, ⟨fun scan hscan hsettled => ?_, fun hs => ?_, fun hs => ?_⟩,
      fun _ _ => h.alive.imp (·.2) fun ⟨scan, hscan, hsettled, _⟩ => ⟨scan, hscan, hsettled⟩⟩, h.later, h.fresh,
    fun scan hscan => .inr (hcurrent scan hscan).2, fun hne => absurd h.storageFailures hne⟩
  · rw [(hcurrent scan hscan).1] at hsettled
    cases hsettled
  · have hstop : w.stopped = true := hs
    rw [h.stopped, hstopped] at hstop
    cases hstop
  · have hstart : w.started = false := hs
    rw [h.started, hstarted] at hstart
    cases hstart

/-- The precondition of `trigger`: behind a scan whose result was handled the timer is armed. -/
def Triggerable (standing : Standing) (nextId : Nat) (s : Shape) : Prop :=
  s.Stands standing nextId ∧ standing.Calm ∧
    ∀ scan, standing.current = some scan → scan.settled = true → standing.started = true → standing.stopped = false → s.timer.isSome

theorem trigger_meets (hvalid : outside.Valid) (reason : String) : Meets (fun w => Triggerable standing nextId w.shape)
    (trigger options outside reason) (fun _ w => w.Lively ∧ Moved standing nextId w) E := by
  refine look_meets fun v => meets_ite (fun hhalted => meets_pure ?_) fun hruns => ?_
  · rintro w ⟨rfl, h, hcalm, -⟩
    exact ⟨(halted_ifRunning h hhalted).lively hcalm, .of_stands h⟩
  rw [not_or, Bool.not_eq_false, Bool.not_eq_true] at hruns
  cases hcurrent : v.current with
  | some scan =>
    refine meets_pure ?_
    rintro w ⟨rfl, h, hcalm, harmed⟩
    refine ⟨⟨h.toTidy, h.same ▸ hcalm, fun hstarted hstopped => ?_⟩, .of_stands h⟩
    cases hsettled : scan.settled with
    | false => exact .inr ⟨scan, hcurrent, hsettled⟩
    | true =>
      exact .inl (harmed scan ((congrArg Standing.current h.same).symm.trans hcurrent) hsettled
        ((congrArg Standing.started h.same).symm.trans hstarted) ((congrArg Standing.stopped h.same).symm.trans hstopped))
  | none =>
    refine meets_assume fun w hw => ?_
    obtain ⟨rfl, hstands, hcalm, -⟩ := hw
    have hidle : standing.current = none := (congrArg Standing.current hstands.same).symm.trans hcurrent
    have hstarted : standing.started = true := (congrArg Standing.started hstands.same).symm.trans hruns.1
    have hstopped : standing.stopped = false := (congrArg Standing.stopped hstands.same).symm.trans hruns.2
    refine meets_attempt (meets_conseq (triggerIdle_meets hvalid hidle hstarted hstopped reason) (fun w h => h.2.1)
      (fun _ w h => h.lively hidle hstarted hstopped) fun _ _ h => h) fun fault => ?_
    refine meets_bind (storageFailed_meets hvalid) fun _ => meets_pure fun w h => ?_
    exact ⟨h.lively hcalm.failed, .of_failed h.1⟩

/-! ## The entry points -/

/-- What a method is called on: the invariant, and what the scheduler stands as. -/
def Called (standing : Standing) (nextId : Nat) (w : World) : Prop := w.Lively ∧ w.shape.Stands standing nextId

theorem World.Lively.called {w : World} (h : w.Lively) : Called w.shape.standing w.nextId w :=
  ⟨h, h.tidy, rfl, Nat.le_refl _⟩

theorem Called.triggerable {w : World} (h : Called standing nextId w) : Triggerable standing nextId w.shape := by
  refine ⟨h.2, h.2.same ▸ h.1.calm, fun scan hscan hsettled hstarted hstopped => ?_⟩
  have hcurrent : w.current = some scan := (congrArg Standing.current h.2.same).trans hscan
  refine (h.1.alive ((congrArg Standing.started h.2.same).trans hstarted)
    ((congrArg Standing.stopped h.2.same).trans hstopped)).resolve_right fun ⟨scan', hscan', hrunning⟩ => ?_
  rw [Option.some.inj (hcurrent.symm.trans hscan'), hrunning] at hsettled
  cases hsettled

/-- The postcondition of every method, however it ends. -/
def Kept (standing : Standing) (nextId : Nat) (w : World) : Prop := w.Lively ∧ Moved standing nextId w

theorem Called.kept {w : World} (h : Called standing nextId w) : Kept standing nextId w := ⟨h.1, .of_stands h.2⟩

theorem start_meets (hvalid : outside.Valid) : Meets (Called standing nextId) (start options outside)
    (fun _ => Kept standing nextId) (fun _ => Kept standing nextId) := by
  refine look_meets fun v => meets_ite (fun _ => meets_raise fun w h => h.2.kept) fun hunstarted => ?_
  refine meets_ite (fun _ => meets_raise fun w h => h.2.kept) fun _ => ?_
  refine meets_bind (meets_write (Q := fun _ w => Triggerable { standing with started := true } nextId w.shape) ?_) fun _ => ?_
  · rintro w ⟨rfl, h, hstands⟩
    have hidle : v.current = none := h.calm.unstarted (Bool.eq_false_iff.mpr hunstarted)
    have hcurrent : standing.current = none := (congrArg Standing.current hstands.same).symm.trans hidle
    refine ⟨⟨⟨hstands.timers, hstands.scheduled, hstands.timerMade, hstands.promisesMade, hstands.awaited⟩, ?_, hstands.later⟩,
      ⟨fun scan hscan => (nomatch hcurrent.symm.trans hscan), ?_, nofun⟩, fun scan hscan => (nomatch hcurrent.symm.trans hscan)⟩
    · rw [← hstands.same]
      rfl
    · rw [← hstands.same]
      exact h.calm.halted
  · refine meets_bind (trigger_meets hvalid "startup") fun _ => meets_pure fun w h => ?_
    exact ⟨h.1, h.2.later, h.2.fresh, h.2.scan, h.2.failed⟩

theorem refreshSchedule_meets (hvalid : outside.Valid) : Meets (Called standing nextId) (refreshSchedule options outside)
    (fun _ => Kept standing nextId) (fun _ => Kept standing nextId) := by
  refine look_meets fun v => ?_
  cases hinterval : v.scheduledIntervalMilliseconds with
  | none => exact meets_pure fun w h => h.2.kept
  | some previousInterval =>
    cases hrun : v.nextRunAt with
    | none => exact meets_pure fun w h => h.2.kept
    | some nextRunAt =>
      refine meets_ite (fun _ => meets_pure fun w h => h.2.kept) fun hnormal => meets_assume fun w hw => ?_
      obtain ⟨rfl, hlively, hstands⟩ := hw
      have hcalm : standing.Calm := hstands.same ▸ hlively.calm
      -- a wait is scheduled, so the timer is armed
      have htimer : v.timer.isSome := by
        have hscheduled : v.scheduleKind.isSome = v.timer.isSome := hstands.scheduled
        rw [← hscheduled]
        simp only [not_or, Decidable.not_not] at hnormal
        rw [hnormal.2.2.2]
        rfl
      have hkept : ∀ w, Armed standing nextId w → Kept standing nextId w := fun w h =>
        ⟨h.ifRunning.lively hcalm, .of_stands h.1⟩
      refine meets_bind (Q := fun _ => Armed standing nextId) ?_ fun interval => ?_
      · exact meets_conseq (quiet_meets (E := fun _ => Kept standing nextId) readIntervalMilliseconds_quiet readIntervalMilliseconds_returns
          fun s => s.Stands standing nextId ∧ s.timer.isSome) (fun w h => ⟨h.2.2, h.1 ▸ htimer⟩) (fun _ w h => h) fun _ _ h => h
      refine meets_ite (fun _ => meets_pure hkept) fun _ => ?_
      refine meets_bind (Q := fun _ => Armed standing nextId) ?_ fun current => look_meets fun v' => ?_
      · exact quiet_meets (E := fun _ => Kept standing nextId) now_quiet (now_returns hvalid)
          fun s => s.Stands standing nextId ∧ s.timer.isSome
      · exact meets_conseq (scheduleAt_meets hvalid _ _ _) (fun w h => h.2.1) (fun _ => hkept) fun _ _ h => h

/-- The callback of a timer, which the event loop has taken out. -/
theorem timerFired_meets (hvalid : outside.Valid) (timer : Timer) :
    Meets (fun w => (w.shape.standing = standing ∧ nextId ≤ w.nextId ∧ standing.Calm ∧ (∀ scan, standing.current = some scan → scan.settled = false)) ∧
        w.timer = some timer.id ∧ w.timers = [] ∧ ({ w.shape with timers := w.timer.toList } : Shape).Tidy)
      (timerFired options outside timer) (fun _ => Kept standing nextId) (fun _ => Kept standing nextId) := by
  refine look_meets fun v => meets_ite (fun hother => ?_) fun _ => ?_
  · refine meets_assume fun w hw => ?_
    obtain ⟨rfl, -, htimer, -⟩ := hw
    exact absurd htimer hother
  refine meets_assume fun w hw => ?_
  obtain ⟨rfl, ⟨-, -, hcalm, hrunning⟩, -⟩ := hw
  have htriggerable : ∀ s : Shape, s.Stands standing nextId → Triggerable standing nextId s := fun s h =>
    ⟨h, hcalm, fun scan hscan hsettled => absurd hsettled (by rw [hrunning scan hscan]; decide)⟩
  refine meets_bind (meets_write (Q := fun _ w => w.shape.Stands standing nextId) ?_) fun _ => ?_
  · rintro w ⟨rfl, ⟨hsame, hlater, -⟩, htimer, htimers, htidy⟩
    refine ⟨⟨?_, rfl, nofun, htidy.promisesMade, htidy.awaited⟩, hsame, hlater⟩
    show v.timers.map Timer.id = []
    rw [htimers]
    rfl
  have htrigger : Meets (fun w => w.shape.Stands standing nextId) (do let _ ← trigger options outside "scheduled"; pure ())
      (fun _ => Kept standing nextId) (fun _ => Kept standing nextId) :=
    meets_bind (meets_conseq (trigger_meets (E := fun _ => Kept standing nextId) hvalid "scheduled") (fun w h => htriggerable _ h)
      (fun _ _ h => h) fun _ _ h => h) fun _ => meets_pure fun w h => h
  refine meets_ite (fun _ => ?_) fun _ => htrigger
  refine meets_bind (quiet_meets readIntervalMilliseconds_quiet readIntervalMilliseconds_returns (Shape.Stands standing nextId))
    fun currentInterval => ?_
  refine meets_bind (quiet_meets now_quiet (now_returns hvalid) (Shape.Stands standing nextId)) fun current => look_meets fun v' => ?_
  refine meets_ite (fun _ => ?_) fun _ => ?_
  · exact meets_conseq (scheduleAt_meets hvalid _ _ _) (fun w h => h.2)
      (fun _ w h => ⟨h.ifRunning.lively hcalm, .of_stands h.1⟩) fun _ _ h => h
  · exact meets_conseq htrigger (fun w h => h.2) (fun _ _ h => h) fun _ _ h => h

/-- What the handler of a scan leaves behind: the timer armed, and no promise waiting. -/
def Handled (standing : Standing) (nextId : Nat) (w : World) : Prop :=
  ArmedIfRunning standing.settled nextId w ∨ ArmedIfRunning standing.failed nextId w

theorem scanSettled_meets (hvalid : outside.Valid) (scan : Scan) (result : Except Fault LedgerScanResult) :
    Meets (fun w => w.shape.Stands standing nextId) (scanSettled options outside scan result)
      (fun _ => Handled standing nextId) (fun _ => Handled standing nextId) := by
  have hsettle : Meets (ArmedIfRunning standing nextId) settlePending (fun _ => Handled standing nextId)
      (fun _ => Handled standing nextId) := by
    refine meets_write fun w h => .inl ⟨⟨settlePending_tidy h.1.toTidy, ?_, h.1.later⟩, h.2⟩
    rw [← h.1.same]
    rfl
  have hschedule : ∀ result, Meets (fun w => w.shape.Stands standing nextId) (scheduleOrFail options outside result)
      (fun _ => ArmedIfRunning standing nextId) (fun _ => Handled standing nextId) := fun result =>
    meets_conseq (scheduleOrFail_meets hvalid result) (fun _ h => h) (fun _ _ h => h) fun _ _ h => .inr h
  cases result with
  | ok result =>
    refine meets_bind (write_meets (Shape.Stands standing nextId) fun w => ?_) fun _ => ?_
    · unfold World.record World.succeed
      split
      · rfl
      · split <;> rfl
    refine meets_bind (Q := fun _ w => w.shape.Stands standing nextId) ?_ fun _ => ?_
    · exact quiet_meets (leaves_attempt observe_quiet fun _ => notifyUnexpected_quiet)
        (returns_attempt fun _ => notifyUnexpected_returns) (Shape.Stands standing nextId)
    · exact meets_bind (hschedule _) fun _ => hsettle
  | error fault =>
    refine meets_bind (write_meets (Shape.Stands standing nextId) ?_) fun _ => ?_
    · exact fun _ => rfl
    refine meets_bind (quiet_meets notifyUnexpected_quiet notifyUnexpected_returns (Shape.Stands standing nextId)) fun _ => ?_
    refine meets_bind (hschedule none) fun _ => meets_bind hsettle fun _ => ?_
    exact meets_raise fun w h => h

theorem persistUnpersisted_quiet : Quiet (persistUnpersisted options outside) := by
  refine leaves_bind (leaves_look _) fun v => ?_
  cases v.unpersistedSchedule with
  | none => exact leaves_pure _
  | some schedule => exact leaves_bind (persistSchedule_quiet schedule) fun _ => leaves_pure _

theorem stopResumed_quiet : Quiet (stopResumed options outside) := by
  refine leaves_bind (leaves_write ?_) fun _ => persistUnpersisted_quiet
  exact fun _ => rfl

theorem World.Lively.of_shape {w w' : World} (h : w.Lively) (hs : w'.shape = w.shape) : w'.Lively := by
  have hstarted : w'.started = w.started := congrArg (fun s => s.standing.started) hs
  have hstopped : w'.stopped = w.stopped := congrArg (fun s => s.standing.stopped) hs
  have hcurrent : w'.current = w.current := congrArg (fun s => s.standing.current) hs
  have htimer : w'.timer = w.timer := congrArg Shape.timer hs
  refine ⟨hs ▸ h.tidy, hs ▸ h.calm, ?_⟩
  rw [hstarted, hstopped, hcurrent, htimer]
  exact h.alive

/-- A quiet method keeps the invariant. -/
theorem quiet_called {α : Type} {x : Method α} (hx : Quiet x) :
    Meets (Called standing nextId) x (fun _ => Called standing nextId) (fun _ => Called standing nextId) := by
  intro w h
  have hs := hx w
  unfold Script.after at hs
  rcases hr : x w with ⟨r, t⟩
  rw [hr] at hs
  have hcalled : Called standing nextId t := by
    refine ⟨h.1.of_shape hs, ?_⟩
    rw [show t.shape = w.shape from hs]
    exact h.2
  cases r with
  | ok a => exact hcalled
  | error e => exact hcalled

theorem stop_meets : Meets (Called standing nextId) (stop options outside)
    (fun _ w => Kept standing nextId w ∧ w.stopped = true) (fun _ w => Kept standing nextId w ∧ w.stopped = true) := by
  refine look_meets fun v => meets_ite (fun hstopped => meets_assume fun w hw => ?_) fun _ => meets_assume fun w hw => ?_
  · obtain ⟨rfl, -, hstands⟩ := hw
    have hkept : ∀ w, Called standing nextId w → Kept standing nextId w ∧ w.stopped = true := fun w h =>
      ⟨h.kept, (congrArg Standing.stopped (h.2.same.trans hstands.same.symm)).trans hstopped⟩
    refine @meets_conseq _ _ _ _ (Called standing nextId) _ _ _ _ _ ?_ (fun w h => h.2) (fun _ => hkept) fun _ => hkept
    exact meets_ite (fun _ => quiet_called persistUnpersisted_quiet) fun _ => meets_pure fun w h => h
  obtain ⟨rfl, hlively, hstands⟩ := hw
  have hcalm : standing.Calm := hstands.same ▸ hlively.calm
  refine meets_bind (meets_write (Q := fun _ w => w.shape.Stands { standing with stopped := true } nextId) ?_) fun _ => ?_
  · rintro w ⟨rfl, -, h⟩
    refine ⟨⟨h.timers, h.scheduled, h.timerMade, h.promisesMade, h.awaited⟩, ?_, h.later⟩
    rw [← h.same]
    rfl
  refine meets_bind settlePending_meets fun _ => meets_conseq
    (clearTimer_meets (E := fun _ w => Kept standing nextId w ∧ w.stopped = true)) (fun w h => h) (fun _ w h => ?_) fun _ _ h => h
  have hcalm' : (Standing.settled { standing with stopped := true }).Calm := ⟨fun _ _ _ => rfl, fun _ => rfl, hcalm.unstarted⟩
  have hunsettled := congrArg Standing.unsettled h.1.same
  refine ⟨⟨ArmedIfRunning.lively ⟨h.1, fun _ hs => nomatch hs⟩ hcalm', h.1.later, fun p hp => .inl ?_, fun scan hscan => .inl ?_,
    fun _ => congrArg Standing.pending h.1.same⟩, congrArg Standing.stopped h.1.same⟩
  · rw [show w.unsettled = _ from hunsettled] at hp
    exact List.mem_of_mem_filter hp
  · exact ⟨scan, (congrArg Standing.current h.1.same).symm.trans hscan, rfl⟩

end

/-! ## Steps -/

/-- What one step of the event loop does. -/
structure Stepped (w : World) (event : Event) (w' : World) : Prop where
  lively : w'.Lively
  moved : Moved w.shape.standing w.nextId w'
  ended : event = .scanEnds → w'.unsettled = []
  stopped : event = .stop → w'.pending = none

section
variable {options : LedgerIngestSchedulerOptions} {outside : Outside} {w w' : World}

/-- The timer that fires is the timer of the scheduler, and no other is armed. -/
theorem fire_only (h : w.shape.Tidy) {id : Nat} {timer : Timer} (hfound : w.timers.find? (fun t : Timer => t.id = id) = some timer) :
    w.timer = some timer.id ∧ (w.fire id).timers = [] := by
  have hid : timer.id = id := of_decide_eq_true (List.find?_some (p := fun t : Timer => decide (t.id = id)) hfound)
  have hids : w.timers.map Timer.id = w.timer.toList := h.timers
  have hmem : timer.id ∈ w.timer.toList := hids ▸ List.mem_map_of_mem (List.mem_of_find?_eq_some hfound)
  have htimer : w.timer = some timer.id := Option.mem_toList.mp hmem
  refine ⟨htimer, List.filter_eq_nil_iff.mpr fun t ht => ?_⟩
  have hmem' : t.id ∈ w.timer.toList := hids ▸ List.mem_map_of_mem ht
  rw [htimer] at hmem'
  rw [List.mem_singleton.mp hmem', hid]
  simp

theorem timerFires_stepped (hvalid : outside.Valid) (h : w.Lively) {id : Nat} {timer : Timer}
    (hrunning : w.current.any (·.settled) = false) (hfound : w.timers.find? (fun t => t.id = id) = some timer) :
    Kept w.shape.standing w.nextId ((timerFired options outside timer).after (w.fire id)) := by
  obtain ⟨htimer, hnone⟩ := fire_only h.tidy hfound
  refine (timerFired_meets hvalid timer).after ⟨⟨rfl, Nat.le_refl _, h.calm, fun scan hscan => ?_⟩, htimer, hnone, ?_⟩
  · have hcurrent : w.current = some scan := hscan
    rw [hcurrent] at hrunning
    exact hrunning
  · exact ⟨rfl, h.tidy.scheduled, h.tidy.timerMade, h.tidy.promisesMade, h.tidy.awaited⟩

/-- The part of `Handled` that both cases share. -/
theorem Handled.stands {standing : Standing} {nextId : Nat} (h : Handled standing nextId w) (hcalm : standing.Calm) :
    ∃ standing', ArmedIfRunning standing' nextId w ∧ standing'.pending = none ∧ standing'.current = standing.current ∧ standing'.Calm ∧
      Moved standing nextId w := by
  rcases h with h | h
  · have hunsettled : w.unsettled = standing.settled.unsettled := congrArg Standing.unsettled h.1.same
    refine ⟨_, h, rfl, rfl, ⟨fun _ _ _ => rfl, fun _ => rfl, hcalm.unstarted⟩, h.1.later, fun p hp => .inl ?_, fun scan hscan => .inl ?_,
      fun _ => congrArg Standing.pending h.1.same⟩
    · rw [hunsettled] at hp
      exact List.mem_of_mem_filter hp
    · exact ⟨scan, (congrArg Standing.current h.1.same).symm.trans hscan, rfl⟩
  · exact ⟨_, h, rfl, rfl, hcalm.failed, .of_failed h.1⟩

theorem scanSettles_stepped (hvalid : outside.Valid) (h : w.Lively) {scan : Scan} (hscan : w.current = some scan)
    (result : Except Fault LedgerScanResult) :
    Kept w.shape.standing w.nextId ((scanSettled options outside scan result).after w).markSettled := by
  have hhandled : Handled w.shape.standing w.nextId ((scanSettled options outside scan result).after w) :=
    (scanSettled_meets hvalid scan result).after h.called.2
  obtain ⟨standing, ht, hpending, hcurrent, hcalm, hmoved⟩ := hhandled.stands h.calm
  generalize (scanSettled options outside scan result).after w = t at ht hmoved ⊢
  have hsame : t.current = some scan := (congrArg Standing.current ht.1.same).trans (hcurrent.trans hscan)
  have hnone : t.pending = none := (congrArg Standing.pending ht.1.same).trans hpending
  have hmarked : t.markSettled.current = some { scan with settled := true } := by
    unfold World.markSettled
    rw [hsame]
    rfl
  refine ⟨⟨⟨ht.1.timers, ht.1.scheduled, ht.1.timerMade, ht.1.promisesMade, fun p hp => ?_⟩,
    ⟨fun _ _ _ => hnone, fun _ => hnone, fun hs => ?_⟩, fun hstarted hstopped => .inl (ht.2 ?_ ?_)⟩,
    hmoved.later, hmoved.fresh, fun scan' hscan' => .inl ⟨scan, hscan, ?_⟩, hmoved.failed⟩
  · rcases ht.1.awaited p hp with hp | ⟨old, hold, hp⟩
    · exact .inl hp
    · refine .inr ⟨_, hmarked, ?_⟩
      rw [← hp, Option.some.inj (hold.symm.trans hsame)]
  · have hidle : w.current = none := hcurrent.symm.trans (hcalm.unstarted ((congrArg Standing.started ht.1.same).symm.trans hs))
    exact nomatch hidle.symm.trans hscan
  · exact (congrArg Standing.started ht.1.same).symm.trans hstarted
  · exact (congrArg Standing.stopped ht.1.same).symm.trans hstopped
  · rw [← Option.some.inj (hmarked.symm.trans hscan')]

theorem scanEnds_stepped (h : w.Lively) {scan : Scan} (hscan : w.current = some scan) (hsettled : scan.settled = true) :
    (w.endScan scan).unsettled = [] ∧ Kept w.shape.standing w.nextId (w.endScan scan) := by
  have hpending : w.pending = none := h.calm.handled scan hscan hsettled
  have hnone : (w.endScan scan).unsettled = [] := by
    refine List.filter_eq_nil_iff.mpr fun p hp => ?_
    rcases h.tidy.awaited p hp with hp | ⟨old, hold, hp⟩
    · exact nomatch hp.trans hpending
    · rw [← hp, Option.some.inj (hold.symm.trans hscan)]
      simp
  refine ⟨hnone, ⟨⟨h.tidy.timers, h.tidy.scheduled, h.tidy.timerMade, fun p hp => ?_, fun p hp => ?_⟩,
    ⟨nofun, h.calm.halted, fun _ => rfl⟩, fun hstarted hstopped => .inl ?_⟩, Nat.le_refl _, fun p hp => .inl ?_, nofun, fun _ => hpending⟩
  · exact h.tidy.promisesMade p (List.mem_of_mem_filter hp)
  · rw [show (w.endScan scan).shape.standing.unsettled = [] from hnone] at hp
    cases hp
  · refine (h.alive hstarted hstopped).resolve_right fun ⟨old, hold, hrunning⟩ => ?_
    rw [Option.some.inj (hold.symm.trans hscan), hsettled] at hrunning
    cases hrunning
  · exact List.mem_of_mem_filter hp

theorem recreate_kept (options : LedgerIngestSchedulerOptions) (w : World) :
    Kept w.shape.standing w.nextId (w.recreate options) :=
  ⟨⟨⟨rfl, rfl, nofun, nofun, nofun⟩, ⟨nofun, nofun, fun _ => rfl⟩, nofun⟩, Nat.le_refl _, nofun, nofun, fun _ => rfl⟩

/-- **One step keeps the invariant.** -/
theorem step_stepped (hvalid : outside.Valid) (h : w.Lively) {event : Event} (hstep : w.step options (event, outside) = some w') :
    Stepped w event w' := by
  have hkept : ∀ {event}, event ≠ .scanEnds → event ≠ .stop → Kept w.shape.standing w.nextId w' → Stepped w event w' :=
    fun hends hstop hk => ⟨hk.1, hk.2, fun he => absurd he hends, fun he => absurd he hstop⟩
  unfold World.step at hstep
  cases event with
  | start =>
    refine hkept nofun nofun ?_
    rw [← Option.some.inj hstep]
    exact (start_meets hvalid).after h.called
  | trigger reason =>
    refine hkept nofun nofun ?_
    rw [← Option.some.inj hstep]
    exact (trigger_meets hvalid reason).after h.called.triggerable
  | refreshSchedule =>
    refine hkept nofun nofun ?_
    rw [← Option.some.inj hstep]
    exact (refreshSchedule_meets hvalid).after h.called
  | timerFires id =>
    refine hkept nofun nofun ?_
    dsimp only at hstep
    split at hstep
    · cases hstep
    · next hrunning =>
      split at hstep
      · next timer hfound =>
        rw [← Option.some.inj hstep]
        exact timerFires_stepped hvalid h (Bool.eq_false_iff.mpr hrunning) hfound
      · cases hstep
  | scanSettles result =>
    refine hkept nofun nofun ?_
    dsimp only at hstep
    split at hstep
    · next scan hscan =>
      split at hstep
      · cases hstep
      · rw [← Option.some.inj hstep]
        exact scanSettles_stepped hvalid h hscan result
    · cases hstep
  | scanEnds =>
    dsimp only at hstep
    split at hstep
    · next scan hscan =>
      split at hstep
      · next hsettled =>
        obtain ⟨hnone, hk⟩ := scanEnds_stepped h hscan hsettled
        rw [← Option.some.inj hstep]
        exact ⟨hk.1, hk.2, fun _ => hnone, nofun⟩
      · cases hstep
    · cases hstep
  | stop =>
    have hk : Kept w.shape.standing w.nextId w' ∧ w'.stopped = true := by
      rw [← Option.some.inj hstep]
      exact stop_meets.after h.called
    exact ⟨hk.1.1, hk.1.2, nofun, fun _ => hk.1.1.calm.halted hk.2⟩
  | stopResumes =>
    refine hkept nofun nofun ?_
    dsimp only at hstep
    split at hstep
    · rw [← Option.some.inj hstep]
      exact ((quiet_called stopResumed_quiet).after h.called).kept
    · cases hstep
  | recreate =>
    refine hkept nofun nofun ?_
    rw [← Option.some.inj hstep]
    exact recreate_kept options w

end

/-! ## Runs -/

/-- Schedulers over any gate, and what can happen to them. -/
def ledgerScheduler (options : LedgerIngestSchedulerOptions) : Runs.System World (Event × Outside) where
  init w := ∃ gate, w = World.make options gate
  step w input w' := w.step options input = some w'

/-- The same, with valid readings of the clock only. -/
def clockedScheduler (options : LedgerIngestSchedulerOptions) : Runs.System World (Event × Outside) :=
  (ledgerScheduler options).restrict fun _ input => input.2.Valid

section
variable {options : LedgerIngestSchedulerOptions} {w w' : World}

theorem lively_reachable (h : Runs.Reachable (clockedScheduler options) w) : w.Lively := by
  refine Runs.Reachable.invariant (I := World.Lively) (fun w hw => ?_) (fun w input w' hlively hstep => ?_) h
  · obtain ⟨gate, rfl⟩ := hw
    exact (recreate_kept options (World.make options gate)).1
  · exact (step_stepped hstep.1 hlively hstep.2).lively

/-- The steps of a path, seen from its start. -/
structure Since (w : World) (ls : List (Event × Outside)) (w' : World) : Prop where
  lively : w'.Lively
  later : w.nextId ≤ w'.nextId
  scan : ∀ scan, w'.current = some scan → (∃ old, w.current = some old ∧ old.promise = scan.promise) ∨ w.nextId ≤ scan.promise
  ended : (∃ outside, (.scanEnds, outside) ∈ ls) → ∀ p < w.nextId, p ∉ w'.unsettled
  given : (w'.storageFailures ≠ w.storageFailures ∨ ∃ outside, (.stop, outside) ∈ ls) →
    ∀ p < w.nextId, (∀ scan, w.current = some scan → scan.promise ≠ p) → p ∉ w'.unsettled

theorem path_since (h : w.Lively) {ls : List (Event × Outside)} (hp : Runs.Path (clockedScheduler options) w ls w') : Since w ls w' := by
  induction hp with
  | refl => exact ⟨h, Nat.le_refl _, fun scan hscan => .inl ⟨scan, hscan, rfl⟩, nofun, fun hor => (hor.resolve_left (absurd rfl)).elim nofun⟩
  | @next ls m w' l hp hs ih =>
    obtain ⟨hvalid, hstep⟩ := hs
    have hstepped : Stepped m l.1 w' := step_stepped hvalid ih.lively hstep
    have hscan : ∀ scan, w'.current = some scan →
        (∃ old, w.current = some old ∧ old.promise = scan.promise) ∨ w.nextId ≤ scan.promise := by
      intro scan hscan
      rcases hstepped.moved.scan scan hscan with ⟨old, hold, he⟩ | hnew
      · exact he ▸ ih.scan old hold
      · exact .inr (Nat.le_trans ih.later hnew)
    -- what was settled before the last step still is
    have hkeeps : ∀ p < w.nextId, p ∉ m.unsettled → p ∉ w'.unsettled := by
      intro p hp hsettled hp'
      rcases hstepped.moved.fresh p hp' with hold | hnew
      · exact hsettled hold
      · exact absurd (Nat.lt_of_lt_of_le hp ih.later) (Nat.not_lt.mpr hnew)
    refine ⟨hstepped.lively, Nat.le_trans ih.later hstepped.moved.later, hscan, fun ⟨outside, hmem⟩ p hp => ?_, fun hor p hp hother => ?_⟩
    · rcases List.mem_append.mp hmem with hmem | hmem
      · exact hkeeps p hp (ih.ended ⟨outside, hmem⟩ p hp)
      · have hevent : Event.scanEnds = l.1 := congrArg Prod.fst (List.mem_singleton.mp hmem)
        rw [hstepped.ended hevent.symm]
        exact List.not_mem_nil
    · by_cases hbefore : m.storageFailures ≠ w.storageFailures ∨ ∃ outside, (Event.stop, outside) ∈ ls
      · exact hkeeps p hp (ih.given hbefore p hp hother)
      · -- the last step is the failure, or the stop
        have hpending : w'.pending = none := by
          rw [not_or, Decidable.not_not] at hbefore
          rcases hor with hfailed | ⟨outside, hmem⟩
          · exact hstepped.moved.failed fun he => hfailed (he.trans hbefore.1)
          · rcases List.mem_append.mp hmem with hmem | hmem
            · exact absurd ⟨outside, hmem⟩ hbefore.2
            · exact hstepped.stopped (congrArg Prod.fst (List.mem_singleton.mp hmem)).symm
        intro hp'
        rcases hstepped.lively.tidy.awaited p hp' with hwaits | ⟨scan, hcurrent, hpromise⟩
        · exact nomatch hwaits.trans hpending
        · rcases hscan scan hcurrent with ⟨old, hold, he⟩ | hnew
          · exact hother old hold (he.trans hpromise)
          · rw [hpromise] at hnew
            exact absurd hp (Nat.not_lt.mpr hnew)

end

/-- **The scanner never falls silent**: with valid readings of the clock, a scheduler that is started and not stopped has a scan in
    flight, or exactly one timer armed (and never more than one).  And no promise is forgotten: once a scan has ended, every
    promise made before it is settled, and so is, after a storage failure or a stop, every promise that waited for the next
    scan (the promise of a scan that was in flight then is settled by the end of that scan). -/
theorem scanner_never_silent (options : LedgerIngestSchedulerOptions) (w : World) (h : Runs.Reachable (clockedScheduler options) w) :
    ((w.started = true → w.stopped = false → w.current.isSome ∨ w.timers.length = 1) ∧ w.timers.length ≤ 1) ∧
    ∀ ls w', Runs.Path (clockedScheduler options) w ls w' → ∀ p ∈ w.unsettled,
      ((∃ outside, (.scanEnds, outside) ∈ ls) → p ∉ w'.unsettled) ∧
      ((w'.storageFailures ≠ w.storageFailures ∨ ∃ outside, (.stop, outside) ∈ ls) →
        (∀ scan, w.current = some scan → scan.promise ≠ p) → p ∉ w'.unsettled) := by
  have hlively := lively_reachable h
  have hids : w.timers.length = w.timer.toList.length := by
    rw [← List.length_map Timer.id]
    exact congrArg List.length hlively.tidy.timers
  refine ⟨⟨fun hstarted hstopped => ?_, ?_⟩, fun ls w' hp p hmem => ?_⟩
  · rcases hlively.alive hstarted hstopped with htimer | ⟨scan, hscan, -⟩
    · obtain ⟨id, hid⟩ := Option.isSome_iff_exists.mp htimer
      rw [hids, hid]
      exact .inr rfl
    · rw [hscan]
      exact .inl rfl
  · rw [hids]
    cases w.timer with
    | none => exact Nat.zero_le 1
    | some id => exact Nat.le_refl 1
  · have hsince := path_since hlively hp
    have hmade := hlively.tidy.promisesMade p hmem
    exact ⟨fun hended => hsince.ended hended p hmade, fun hor hother => hsince.given hor p hmade hother⟩

/-! ## A sample scheduler -/

def sampleOptions : LedgerIngestSchedulerOptions := ⟨60000, 1000, true, false, by decide, by decide⟩

/-- A clock that moves on by a millisecond at each reading, for a while, and nothing fails. -/
def sampleOutside : Outside := ⟨fun k => 10000 + (min k 1000 : Nat), fun _ => false, fun _ => false, fun _ => none, fun _ => false⟩

theorem sampleOutside_valid : sampleOutside.Valid := by
  intro k
  show (0 : Int) ≤ 10000 + (min k 1000 : Nat) ∧ (10000 + (min k 1000 : Nat) : Int) ≤ maxSafeInteger
  unfold maxSafeInteger
  omega

def sampleResult : LedgerScanResult := ⟨.COMPLETED, none, none, false, true, false⟩

/-- The scheduler after these events. -/
def sampleAfter (events : List Event) : Option World :=
  Runs.follow (fun w event => w.step sampleOptions (event, sampleOutside)) events (World.make sampleOptions none)

theorem sampleAfter_reachable {events : List Event} {w : World} (h : sampleAfter events = some w) :
    Runs.Reachable (clockedScheduler sampleOptions) w := by
  have hstart : Runs.Reachable (clockedScheduler sampleOptions) (World.make sampleOptions none) := ⟨[], .start ⟨none, rfl⟩⟩
  unfold sampleAfter at h
  revert h hstart
  generalize World.make sampleOptions none = v
  induction events generalizing v with
  | nil => exact fun h hv => Option.some.inj h ▸ hv
  | cons event events ih =>
    intro h hv
    obtain ⟨m, hm, hrest⟩ := Option.bind_eq_some_iff.mp h
    obtain ⟨ls, hls⟩ := hv
    exact ih m hrest ⟨_, hls.next ⟨sampleOutside_valid, hm⟩⟩

/-- A trigger that has to wait: its promise is not settled, and the timer is armed. -/
theorem scanner_never_silent_waiting : ∃ w, Runs.Reachable (clockedScheduler sampleOptions) w ∧ w.current = none ∧ w.unsettled = [3] ∧
    (w.current.isSome ∨ w.timers.length = 1) := by
  have hrun : (sampleAfter [.start, .scanSettles (.ok sampleResult), .scanEnds, .trigger "manual"]).any (fun w =>
      decide (w.current = none ∧ w.unsettled = [3] ∧ w.started = true ∧ w.stopped = false)) = true := by
    decide +kernel
  obtain ⟨w, hw, hfacts⟩ := (Option.any_eq_true _ _).mp hrun
  obtain ⟨hcurrent, hunsettled, hstarted, hstopped⟩ := of_decide_eq_true hfacts
  have hreachable := sampleAfter_reachable hw
  exact ⟨w, hreachable, hcurrent, hunsettled, (scanner_never_silent sampleOptions w hreachable).1.1 hstarted hstopped⟩

end PerPay.Scanning
