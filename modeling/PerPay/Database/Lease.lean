/-
  **The lease on the database file** (`database/database.ts`, `database/startup-lease-heartbeat.ts`,
  `database/maintenance.ts`, `database/maintenance-lock.ts`).

  Any number of processes open one file.  The row of `app_lease` says whose it is; SQLite lets one connection at
  a time write.  A maintenance command holds a lock file beside the database, and takes the row for a day.

  A write transaction that looks at nothing outside the database is one step.  `AppDatabase.write` looks at the
  lock file between `BEGIN IMMEDIATE` and `COMMIT`, so it is several steps, and its connection holds the write
  lock over them.  What a process reads from its clock comes with the step: any number, in any order.

  A restore that succeeds puts another file in the place of this one; what follows is about one file, so it ends
  with a maintenance command that gives its lease back.
-/
import PerPay.Lib.Runs

namespace PerPay.Database

/-! ## The row -/

/-- `randomUUID()` of an open database, or `maintenanceLeaseToken`, which no uuid begins like. -/
inductive LeaseToken
  | application (uuid : String)
  | maintenance (lockToken : String)
  deriving DecidableEq, Repr

/-- The row of `app_lease`. -/
structure LeaseRow where
  ownerToken : LeaseToken
  expiresAt : Int
  deriving DecidableEq, Repr

def leaseTtl : Int := 30000

def maintenanceLeaseTtl : Int := 24 * 60 * 60 * 1000

def maxSafeTime : Int := 9007199254740991

/-- `WHERE lease_key = ? AND owner_token = ?` selects the row. -/
def ownedBy (token : LeaseToken) (lease : Option LeaseRow) : Bool := lease.any fun row => row.ownerToken = token

/-- `UPDATE app_lease SET expires_at = ? WHERE lease_key = ? AND owner_token = ?` -/
def renewed (token : LeaseToken) (now : Int) (lease : Option LeaseRow) : Option LeaseRow :=
  lease.map fun row => if row.ownerToken = token then { row with expiresAt := now + leaseTtl } else row

/-- `DELETE FROM app_lease WHERE lease_key = ? AND owner_token = ?` -/
def deleted (token : LeaseToken) (lease : Option LeaseRow) : Option LeaseRow :=
  lease.filter fun row => row.ownerToken ≠ token

/-- What `assertAvailable` asks of the row. -/
def isAvailable (token : LeaseToken) (now : Int) (lease : Option LeaseRow) : Bool :=
  lease.any fun row => row.ownerToken = token && now < row.expiresAt

/-- `hasLiveLease` -/
def hasLiveLease (now : Int) (lease : Option LeaseRow) : Bool := lease.any fun row => now < row.expiresAt

/-- The row that `acquireLease` finds does not hinder it. -/
def isFreeFor (token : LeaseToken) (now : Int) (lease : Option LeaseRow) : Bool :=
  lease.all fun row => row.ownerToken = token || row.expiresAt ≤ now

/-! ## Processes -/

/-- How far `AppDatabase.write` is. -/
inductive WriteStage
  /-- before `BEGIN IMMEDIATE`: no lock file was seen; the row was the own one -/
  | preflightIdle | preflightAvailable
  /-- after it: nothing was looked at; no lock file was seen; the row was the own one -/
  | begun | idle | available
  deriving DecidableEq, Repr

/-- A process between `AppDatabase.open` and the end of its connection. -/
inductive Phase
  | absent
  /-- in `open`: connected; the lock file was looked for again -/
  | connecting | checked
  /-- in `open`: the lease is taken; the heartbeat is ready; the lock file was looked for a third time -/
  | acquired | beating | migrating
  /-- in `open`: all checks are done, and the heartbeat is to hand over -/
  | handingOver
  /-- in `open`: an error was caught, the lease is still to be released -/
  | failing
  | ready
  | writing (stage : WriteStage)
  | closed
  deriving DecidableEq, Repr

/-- The worker thread of `StartupLeaseHeartbeat`. -/
inductive Heartbeat
  | none | running | lost | stopped
  deriving DecidableEq, Repr

structure Process where
  phase : Phase
  heartbeat : Heartbeat
  /-- the message that the heartbeat is lost has arrived -/
  failure : Bool
  leaseLost : Bool
  deriving DecidableEq, Repr

def Process.fresh : Process := ⟨.absent, .none, false, false⟩

/-- How far a maintenance command is. -/
inductive MaintenancePhase
  | absent
  /-- it holds the lock file; it holds the lease; it has given the lease back; it could not -/
  | locked | claimed | released | retained
  | done
  deriving DecidableEq, Repr

inductive CommitKind
  | write | migration
  deriving DecidableEq, Repr

structure LeaseState where
  lease : Option LeaseRow
  /-- the token in the maintenance lock file -/
  lockFile : Option String
  /-- the process whose connection is in a write transaction -/
  writer : Option String
  processes : String → Process
  maintenances : String → MaintenancePhase
  /-- the transactions that `write` and `migrate` committed -/
  log : List (String × CommitKind)

def LeaseState.initial : LeaseState := ⟨none, none, none, fun _ => Process.fresh, fun _ => .absent, []⟩

def LeaseState.setProcess (s : LeaseState) (p : String) (process : Process) : LeaseState :=
  { s with processes := fun q => if q = p then process else s.processes q }

def LeaseState.setPhase (s : LeaseState) (p : String) (phase : Phase) : LeaseState :=
  s.setProcess p { s.processes p with phase := phase }

def LeaseState.setMaintenance (s : LeaseState) (m : String) (phase : MaintenancePhase) : LeaseState :=
  { s with maintenances := fun n => if n = m then phase else s.maintenances n }

/-- `ROLLBACK`, and back to where the call came from -/
def LeaseState.rollback (s : LeaseState) (p : String) : LeaseState := ({ s with writer := none }).setPhase p .ready

/-! ## Opening -/

/-- `assertDatabaseMaintenanceIdle` on the way through `open` -/
def startupIdle (s : LeaseState) (p : String) (next : Phase) : LeaseState :=
  s.setPhase p (if s.lockFile.isNone then next else .failing)

/-- `acquireLease`; a connection that writes too long makes it fail. -/
def acquireLease (s : LeaseState) (p : String) (now : Int) : LeaseState :=
  if s.writer.isNone && isFreeFor (.application p) now s.lease then
    ({ s with lease := some ⟨.application p, now + leaseTtl⟩ }).setPhase p .acquired
  else s.setPhase p .failing

/-- `renew` of the worker: a statement that is refused is tried again later, a row that is gone ends the worker. -/
def heartbeatRenew (s : LeaseState) (p : String) (now : Int) : LeaseState :=
  if s.writer.isNone then
    if ownedBy (.application p) s.lease then { s with lease := renewed (.application p) now s.lease }
    else s.setProcess p { s.processes p with heartbeat := .lost }
  else s

/-- `StartupLeaseHeartbeat.start`: ready when the first renewal succeeds -/
def startHeartbeat (s : LeaseState) (p : String) (now : Int) : LeaseState :=
  if s.writer.isNone && ownedBy (.application p) s.lease then
    ({ s with lease := renewed (.application p) now s.lease }).setProcess p
      { s.processes p with phase := .beating, heartbeat := .running }
  else s.setPhase p .failing

/-- One migration: its statements, `renewStartupLease` and `COMMIT`. -/
def runMigration (s : LeaseState) (p : String) (now : Int) (applied : Bool) : LeaseState :=
  if s.writer.isNone && applied && ownedBy (.application p) s.lease then
    { s with lease := renewed (.application p) now s.lease, log := s.log ++ [(p, CommitKind.migration)] }
  else s.setPhase p .failing

/-- `StartupLeaseHeartbeat.stop(true)`, after which the database is open -/
def handOver (s : LeaseState) (p : String) (now : Int) : LeaseState :=
  if s.writer.isNone && ((s.processes p).heartbeat = .running) && !(s.processes p).failure &&
      ownedBy (.application p) s.lease then
    ({ s with lease := renewed (.application p) now s.lease }).setProcess p
      { s.processes p with phase := .ready, heartbeat := .stopped }
  else s.setPhase p .failing

/-- `releaseLease`, and the connection is closed whether it succeeds or not. -/
def releaseAndClose (s : LeaseState) (p : String) : LeaseState :=
  (if s.writer.isNone then { s with lease := deleted (.application p) s.lease } else s).setPhase p .closed

/-! ## The open database -/

/-- The first half of `assertAvailable` -/
def assertIdle (s : LeaseState) (p : String) (next : WriteStage) : LeaseState :=
  if !(s.processes p).leaseLost && s.lockFile.isNone then s.setPhase p (.writing next)
  else if s.writer = some p then s.rollback p
  else s.setPhase p .ready

/-- The second half of `assertAvailable`; a reading that fails counts as a lost lease. -/
def assertLease (s : LeaseState) (p : String) (reading : Option Int) (next : WriteStage) : LeaseState :=
  if reading.any fun now => isAvailable (.application p) now s.lease then s.setPhase p (.writing next)
  else
    (if s.writer = some p then { s with writer := none } else s).setProcess p
      { s.processes p with phase := .ready, leaseLost := true }

def beginImmediate (s : LeaseState) (p : String) : LeaseState :=
  if s.writer.isNone then ({ s with writer := some p }).setPhase p (.writing .begun) else s.setPhase p .ready

/-- The operation, `renewLease` and `COMMIT`; any of them may fail. -/
def finishWrite (s : LeaseState) (p : String) (now : Int) (succeeds : Bool) : LeaseState :=
  if succeeds && ownedBy (.application p) s.lease then
    ({ s with
        lease := renewed (.application p) now s.lease
        log := s.log ++ [(p, CommitKind.write)]
        writer := none }).setPhase p .ready
  else s.rollback p

/-- `#renewLease`, which the timer calls -/
def timerRenew (s : LeaseState) (p : String) (now : Int) : LeaseState :=
  if (s.processes p).leaseLost then s
  else if s.writer.isNone && ownedBy (.application p) s.lease then
    { s with lease := renewed (.application p) now s.lease }
  else s.setProcess p { s.processes p with leaseLost := true }

/-! ## Maintenance -/

/-- `claimAndQuiesceApplicationDatabase`, up to the commit that takes the lease -/
def claimLease (s : LeaseState) (m : String) (now : Int) : LeaseState :=
  if s.writer.isNone && !hasLiveLease now s.lease && now + maintenanceLeaseTtl ≤ maxSafeTime then
    ({ s with lease := some ⟨.maintenance m, now + maintenanceLeaseTtl⟩ }).setMaintenance m .claimed
  else s

/-- `deleteMaintenanceLease` -/
def releaseMaintenanceLease (s : LeaseState) (m : String) : LeaseState :=
  if s.writer.isNone && ownedBy (.maintenance m) s.lease then
    ({ s with lease := deleted (.maintenance m) s.lease }).setMaintenance m .released
  else s.setMaintenance m .retained

/-! ## The system -/

inductive LeaseCall
  /-- `open`, up to the connection, of a process that has not called it -/
  | openDatabase (p : String)
  /-- the next statement of `open` -/
  | startup (p : String) (now : Int) (applied : Bool)
  /-- no migration is left and the checks of `open` are passed -/
  | startupChecked (p : String)
  /-- any other error in `open` -/
  | startupFails (p : String)
  /-- the worker's timer, and its message -/
  | heartbeat (p : String) (now : Int)
  | heartbeatLost (p : String)
  /-- a call of `write`, and its next statement -/
  | write (p : String) (now : Int) (reading : Option Int) (succeeds : Bool)
  | timer (p : String) (now : Int)
  | close (p : String)
  | crash (p : String)
  | lockMaintenance (m : String)
  | claim (m : String) (now : Int)
  | giveBack (m : String)
  | unlockMaintenance (m : String)
  deriving Repr

def startupStep (s : LeaseState) (p : String) (now : Int) (applied : Bool) : Option LeaseState :=
  match (s.processes p).phase with
  | .connecting => some (startupIdle s p .checked)
  | .checked => some (acquireLease s p now)
  | .acquired => some (startHeartbeat s p now)
  | .beating => some (startupIdle s p .migrating)
  | .migrating => some (runMigration s p now applied)
  | .handingOver => some (handOver s p now)
  | .failing => some (releaseAndClose s p)
  | _ => none

def writeStep (s : LeaseState) (p : String) (now : Int) (reading : Option Int) (succeeds : Bool) : Option LeaseState :=
  match (s.processes p).phase with
  | .ready => some (assertIdle s p .preflightIdle)
  | .writing .preflightIdle => some (assertLease s p reading .preflightAvailable)
  | .writing .preflightAvailable => some (beginImmediate s p)
  | .writing .begun => some (assertIdle s p .idle)
  | .writing .idle => some (assertLease s p reading .available)
  | .writing .available => some (finishWrite s p now succeeds)
  | _ => none

/-- The heartbeat runs from its start to the end of `open`. -/
def Phase.isStarting : Phase → Bool
  | .acquired | .beating | .migrating | .handingOver | .failing => true
  | _ => false

/-- The step of a call, when it can be made. -/
def leaseStep (s : LeaseState) : LeaseCall → Option LeaseState
  | .openDatabase p =>
    if (s.processes p).phase = .absent && s.lockFile.isNone then some (s.setPhase p .connecting) else none
  | .startup p now applied => startupStep s p now applied
  | .startupChecked p =>
    if (s.processes p).phase = .migrating && !(s.processes p).failure then some (s.setPhase p .handingOver) else none
  | .startupFails p =>
    if (s.processes p).phase.isStarting || (s.processes p).phase = .connecting || (s.processes p).phase = .checked then
      some (s.setPhase p .failing)
    else none
  | .heartbeat p now =>
    if (s.processes p).phase.isStarting && (s.processes p).heartbeat ≠ .lost then some (heartbeatRenew s p now) else none
  | .heartbeatLost p =>
    if (s.processes p).heartbeat = .lost then some (s.setProcess p { s.processes p with failure := true }) else none
  | .write p now reading succeeds => writeStep s p now reading succeeds
  | .timer p now => if (s.processes p).phase = .ready then some (timerRenew s p now) else none
  | .close p => if (s.processes p).phase = .ready then some (releaseAndClose s p) else none
  | .crash p => some (({ s with writer := if s.writer = some p then none else s.writer }).setPhase p .closed)
  | .lockMaintenance m =>
    if s.maintenances m = .absent && s.lockFile.isNone then
      some (({ s with lockFile := some m }).setMaintenance m .locked)
    else none
  | .claim m now => if s.maintenances m = .locked then some (claimLease s m now) else none
  | .giveBack m => if s.maintenances m = .claimed then some (releaseMaintenanceLease s m) else none
  | .unlockMaintenance m =>
    if s.maintenances m = .locked || s.maintenances m = .released then
      some (({ s with lockFile := none }).setMaintenance m .done)
    else none

def leaseSystem : Runs.System LeaseState LeaseCall where
  init s := s = LeaseState.initial
  step s call s' := leaseStep s call = some s'

end PerPay.Database
