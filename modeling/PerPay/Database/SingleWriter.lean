/-
  **Single writer.**

  A process takes the row once, in `open`.  Every transaction that `write` or a migration commits changes the
  row of its own token in that same transaction, so the token stood in the row; and a token that was replaced
  never comes back, because nobody writes another one's.  Clocks decide who may take the row, never who may commit.

  A maintenance command holds the lock file as long as it holds the row.  `write` looks for the file with the
  write lock in hand, and `open` looks for it after it took the row; so nobody commits beside a claim, also
  when a clock runs so far ahead that the row of the claim looks expired.
-/
import PerPay.Database.Lease

namespace PerPay.Database

/-! ## The row -/

@[simp] theorem ownedBy_none (token : LeaseToken) : ownedBy token none = false := rfl

@[simp] theorem ownedBy_some (token : LeaseToken) (row : LeaseRow) :
    ownedBy token (some row) = decide (row.ownerToken = token) := rfl

theorem ownedBy_iff {token : LeaseToken} {lease : Option LeaseRow} :
    ownedBy token lease = true ↔ ∃ expiresAt, lease = some ⟨token, expiresAt⟩ := by
  cases lease with
  | none => simp
  | some row =>
    rw [ownedBy_some, decide_eq_true_eq]
    constructor
    · rintro rfl
      exact ⟨row.expiresAt, rfl⟩
    · rintro ⟨expiresAt, h⟩
      rw [Option.some.inj h]

theorem ownedBy_inj {token token' : LeaseToken} {lease : Option LeaseRow} (h : ownedBy token lease = true)
    (h' : ownedBy token' lease = true) : token = token' := by
  obtain ⟨e, rfl⟩ := ownedBy_iff.mp h
  simpa using h'

/-- A renewal changes nothing but the end of the own lease. -/
theorem renewed_owned {token : LeaseToken} {lease : Option LeaseRow} (now : Int) (h : ownedBy token lease = true) :
    renewed token now lease = some ⟨token, now + leaseTtl⟩ := by
  obtain ⟨e, rfl⟩ := ownedBy_iff.mp h
  simp [renewed]

theorem ownedBy_renewed (token token' : LeaseToken) (now : Int) (lease : Option LeaseRow) :
    ownedBy token (renewed token' now lease) = ownedBy token lease := by
  cases lease with
  | none => rfl
  | some row =>
    by_cases h : row.ownerToken = token' <;> simp [renewed, h]

theorem ownedBy_deleted {token token' : LeaseToken} {lease : Option LeaseRow} (h : ownedBy token (deleted token' lease) = true) :
    ownedBy token lease = true := by
  obtain ⟨e, he⟩ := ownedBy_iff.mp h
  exact ownedBy_iff.mpr ⟨e, (Option.filter_eq_some_iff.mp he).1⟩

/-- Releasing a lease takes the own row only. -/
theorem deleted_other {token : LeaseToken} {lease : Option LeaseRow} (h : ownedBy token lease = false) :
    deleted token lease = lease := by
  cases lease with
  | none => rfl
  | some row =>
    rw [ownedBy_some, decide_eq_false_iff_not] at h
    simp [deleted, Option.filter, h]

theorem owner_of_deleted {token token' : LeaseToken} {lease : Option LeaseRow} (h : ownedBy token lease = true)
    (hchanged : deleted token' lease ≠ lease) : token = token' := by
  by_contra hne
  refine hchanged (deleted_other ?_)
  rw [Bool.eq_false_iff]
  exact fun hown => hne (ownedBy_inj h hown)

/-! ## Phases -/

/-- The phases before the lease was taken. -/
def Phase.isEarly : Phase → Bool
  | .absent | .connecting | .checked => true
  | _ => false

/-- The connection is in the transaction of `write`. -/
def Phase.inTransaction : Phase → Bool
  | .writing .begun | .writing .idle | .writing .available => true
  | _ => false

/-- In the transaction, and the lock file was looked for. -/
def Phase.isUnguarded : Phase → Bool
  | .writing .idle | .writing .available => true
  | _ => false

/-- Where a process can have the row beside a claim: it has not looked for the lock file since it took it. -/
def Phase.isHarmless : Phase → Bool
  | .acquired | .beating | .failing | .closed => true
  | _ => false

/-- A process that holds the lock file. -/
def MaintenancePhase.holdsLock : MaintenancePhase → Bool
  | .locked | .claimed | .released | .retained => true
  | _ => false

/-! ## What a step does -/

/-- What a step of a process does to the row. -/
inductive LeaseChange (p : String) (s s' : LeaseState) : Prop
  | kept (same : s'.lease = s.lease)
  | renewed (now : Int) (owned : ownedBy (.application p) s.lease = true)
      (row : s'.lease = some ⟨.application p, now + leaseTtl⟩)
  | acquired (now : Int) (early : (s.processes p).phase.isEarly = true) (phase : (s'.processes p).phase = .acquired)
      (free : isFreeFor (.application p) now s.lease = true) (row : s'.lease = some ⟨.application p, now + leaseTtl⟩)
  | released (row : s'.lease = deleted (.application p) s.lease)

/-- What a step of a process does to the log: it commits with its own token in the row, from where it may. -/
inductive LogChange (p : String) (s s' : LeaseState) : Prop
  | kept (same : s'.log = s.log)
  | committed (kind : CommitKind) (now : Int) (owned : ownedBy (.application p) s.lease = true)
      (phase : (s.processes p).phase = .writing .available ∨ (s.processes p).phase = .migrating)
      (log : s'.log = s.log ++ [(p, kind)]) (row : s'.lease = some ⟨.application p, now + leaseTtl⟩)

/-- What a step of a maintenance command does to the row. -/
inductive MaintenanceChange (m : String) (s s' : LeaseState) : Prop
  | kept (same : s'.lease = s.lease)
  | claimed (now : Int) (writer : s.writer = none) (expired : hasLiveLease now s.lease = false)
      (row : s'.lease = some ⟨.maintenance m, now + maintenanceLeaseTtl⟩)
  | released (row : s'.lease = deleted (.maintenance m) s.lease)

/-- **What a step of a process can do.** -/
structure ApplicationStep (p : String) (s s' : LeaseState) : Prop where
  others : ∀ q, q ≠ p → s'.processes q = s.processes q
  lockFile : s'.lockFile = s.lockFile
  maintenances : s'.maintenances = s.maintenances
  lease : LeaseChange p s s'
  log : LogChange p s s'
  early : (s'.processes p).phase.isEarly = true → (s.processes p).phase.isEarly = true
  transaction : (s'.processes p).phase.inTransaction = true →
    s'.writer = some p ∨ (s.processes p).phase.inTransaction = true ∧ s'.writer = s.writer
  writer : s'.writer = s.writer ∨ s.writer = none ∨ s.writer = some p
  unguarded : (s'.processes p).phase.isUnguarded = true → (s.processes p).phase.isUnguarded = true ∨ s.lockFile = none
  harmful : (s'.processes p).phase.isHarmless = false → (s.processes p).phase.isHarmless = false ∨ s.lockFile = none

/-- **What a step of a maintenance command can do.** -/
structure MaintenanceStep (m : String) (s s' : LeaseState) : Prop where
  processes : s'.processes = s.processes
  others : ∀ n, n ≠ m → s'.maintenances n = s.maintenances n
  writer : s'.writer = s.writer
  log : s'.log = s.log
  lease : MaintenanceChange m s s'
  claimed : s'.maintenances m = .claimed →
    s.maintenances m = .claimed ∨
      s.maintenances m = .locked ∧ s.writer = none ∧ ownedBy (.maintenance m) s'.lease = true
  lockFile : s'.lockFile = s.lockFile ∨ (s.lockFile = none ∧ s'.lockFile = some m) ∨
    ((s.maintenances m).holdsLock = true ∧ s'.lockFile = none)
  holds : (s'.maintenances m).holdsLock = true → s'.lockFile = some m ∨ (s.maintenances m).holdsLock = true ∧ s'.lockFile = s.lockFile

theorem setProcess_self (s : LeaseState) (p : String) (process : Process) :
    (s.setProcess p process).processes p = process := if_pos rfl

theorem setProcess_other (s : LeaseState) (p : String) (process : Process) {q : String} (h : q ≠ p) :
    (s.setProcess p process).processes q = s.processes q := if_neg h

/-- A step that changes nothing but where the process is. -/
theorem applicationStep_setProcess {s : LeaseState} {p : String} {process : Process}
    (early : process.phase.isEarly = true → (s.processes p).phase.isEarly = true)
    (transaction : process.phase.inTransaction = true → (s.processes p).phase.inTransaction = true)
    (unguarded : process.phase.isUnguarded = true → (s.processes p).phase.isUnguarded = true ∨ s.lockFile = none)
    (harmful : process.phase.isHarmless = false → (s.processes p).phase.isHarmless = false ∨ s.lockFile = none) :
    ApplicationStep p s (s.setProcess p process) where
  others q hq := setProcess_other s p process hq
  lockFile := rfl
  maintenances := rfl
  lease := .kept rfl
  log := .kept rfl
  early := by rwa [setProcess_self]
  transaction := by
    rw [setProcess_self]
    exact fun h => .inr ⟨transaction h, rfl⟩
  writer := .inl rfl
  unguarded := by rwa [setProcess_self]
  harmful := by rwa [setProcess_self]

theorem applicationStep_refl {s : LeaseState} {p : String} : ApplicationStep p s s where
  others _ _ := rfl
  lockFile := rfl
  maintenances := rfl
  lease := .kept rfl
  log := .kept rfl
  early := id
  transaction h := .inr ⟨h, rfl⟩
  writer := .inl rfl
  unguarded := .inl
  harmful := .inl

/-- A step to a phase that is neither early, in a transaction nor guarded. -/
theorem applicationStep_setPhase {s : LeaseState} {p : String} {phase : Phase} (early : phase.isEarly = false)
    (transaction : phase.inTransaction = false) (harmful : phase.isHarmless = true ∨ (s.processes p).phase.isHarmless = false) :
    ApplicationStep p s (s.setPhase p phase) := by
  refine applicationStep_setProcess ?_ ?_ ?_ ?_
  · exact fun h => absurd h (by simp [early])
  · exact fun h => absurd h (by simp [transaction])
  · intro h
    cases phase with
    | writing stage => cases stage <;> simp_all [Phase.isUnguarded, Phase.inTransaction]
    | _ => exact absurd h (by simp [Phase.isUnguarded])
  · intro h
    rcases harmful with hharmless | hbefore
    · exact absurd h (by simp [hharmless])
    · exact .inl hbefore

section startup

variable {s : LeaseState} {p : String}

theorem startupIdle_step {next : Phase} (hnext : next = .checked ∧ (s.processes p).phase = .connecting ∨
    next = .migrating ∧ (s.processes p).phase = .beating) : ApplicationStep p s (startupIdle s p next) := by
  unfold startupIdle
  cases hlock : s.lockFile with
  | some m => exact applicationStep_setPhase rfl rfl (.inl rfl)
  | none =>
    rcases hnext with ⟨rfl, hphase⟩ | ⟨rfl, hphase⟩
    · refine applicationStep_setProcess ?_ ?_ ?_ ?_
      · exact fun _ => hphase ▸ rfl
      · exact fun h => nomatch h
      · exact fun h => nomatch h
      · exact fun _ => .inr hlock
    · refine applicationStep_setProcess ?_ ?_ ?_ ?_
      · exact fun h => nomatch h
      · exact fun h => nomatch h
      · exact fun h => nomatch h
      · exact fun _ => .inr hlock

theorem acquireLease_step (now : Int) (hphase : (s.processes p).phase = .checked) :
    ApplicationStep p s (acquireLease s p now) := by
  unfold acquireLease
  split
  · rename_i h
    obtain ⟨hwriter, hfree⟩ := Bool.and_eq_true_iff.mp h
    have hself : ((LeaseState.setPhase { s with lease := some ⟨.application p, now + leaseTtl⟩ } p .acquired).processes p).phase =
        .acquired := congrArg Process.phase (setProcess_self _ _ _)
    exact {
      others := fun q hq => setProcess_other _ _ _ hq
      lockFile := rfl
      maintenances := rfl
      lease := .acquired now (hphase ▸ rfl) hself hfree rfl
      log := .kept rfl
      early := fun h => absurd h (by rw [hself]; decide)
      transaction := fun h => absurd h (by rw [hself]; decide)
      writer := .inl rfl
      unguarded := fun h => absurd h (by rw [hself]; decide)
      harmful := fun h => absurd h (by rw [hself]; decide) }
  · exact applicationStep_setPhase rfl rfl (.inl rfl)

/-- A renewal of the own row, from which the process goes on to a phase that asks no more than the last. -/
theorem applicationStep_renewed {now : Int} {process : Process} {writer : Option String} {log : List (String × CommitKind)}
    (hlog : log = s.log ∨ ∃ kind, ((s.processes p).phase = .writing .available ∨ (s.processes p).phase = .migrating) ∧
      log = s.log ++ [(p, kind)])
    (howned : ownedBy (.application p) s.lease = true) (hwriter : writer = s.writer ∨ s.writer = none ∨ s.writer = some p)
    (early : process.phase.isEarly = true → (s.processes p).phase.isEarly = true)
    (transaction : process.phase.inTransaction = false)
    (harmful : process.phase.isHarmless = false → (s.processes p).phase.isHarmless = false ∨ s.lockFile = none) :
    ApplicationStep p s (LeaseState.setProcess
      { s with lease := renewed (.application p) now s.lease, writer := writer, log := log } p process) where
  others q hq := setProcess_other _ _ _ hq
  lockFile := rfl
  maintenances := rfl
  lease := .renewed now howned (renewed_owned now howned)
  log := by
    rcases hlog with rfl | ⟨kind, hphase, rfl⟩
    · exact .kept rfl
    · exact .committed kind now howned hphase rfl (renewed_owned now howned)
  early := by rwa [setProcess_self]
  transaction := by
    rw [setProcess_self]
    exact fun h => absurd h (by simp [transaction])
  writer := hwriter
  unguarded := by
    rw [setProcess_self]
    intro h
    cases hp : process.phase with
    | writing stage => cases stage <;> simp_all [Phase.isUnguarded, Phase.inTransaction]
    | _ => exact absurd h (by simp [hp, Phase.isUnguarded])
  harmful := by rwa [setProcess_self]

/-- The same of a process that stays where it is. -/
theorem applicationStep_renewedInPlace {now : Int} {log : List (String × CommitKind)}
    (hlog : log = s.log ∨ ∃ kind, ((s.processes p).phase = .writing .available ∨ (s.processes p).phase = .migrating) ∧
      log = s.log ++ [(p, kind)])
    (howned : ownedBy (.application p) s.lease = true) :
    ApplicationStep p s { s with lease := renewed (.application p) now s.lease, log := log } where
  others _ _ := rfl
  lockFile := rfl
  maintenances := rfl
  lease := .renewed now howned (renewed_owned now howned)
  log := by
    rcases hlog with rfl | ⟨kind, hphase, rfl⟩
    · exact .kept rfl
    · exact .committed kind now howned hphase rfl (renewed_owned now howned)
  early := id
  transaction h := .inr ⟨h, rfl⟩
  writer := .inl rfl
  unguarded := .inl
  harmful := .inl

theorem startHeartbeat_step (now : Int) : ApplicationStep p s (startHeartbeat s p now) := by
  unfold startHeartbeat
  split
  · rename_i h
    obtain ⟨-, howned⟩ := Bool.and_eq_true_iff.mp h
    exact applicationStep_renewed (.inl rfl) howned (.inl rfl) nofun rfl nofun
  · exact applicationStep_setPhase rfl rfl (.inl rfl)

theorem heartbeatRenew_step (now : Int) : ApplicationStep p s (heartbeatRenew s p now) := by
  unfold heartbeatRenew
  split
  · split
    · exact applicationStep_renewedInPlace (.inl rfl) ‹_›
    · exact applicationStep_setProcess id id .inl .inl
  · exact applicationStep_refl

theorem runMigration_step (now : Int) (applied : Bool) (hphase : (s.processes p).phase = .migrating) :
    ApplicationStep p s (runMigration s p now applied) := by
  unfold runMigration
  split
  · rename_i h
    obtain ⟨-, howned⟩ := Bool.and_eq_true_iff.mp h
    exact applicationStep_renewedInPlace (.inr ⟨_, .inr hphase, rfl⟩) howned
  · exact applicationStep_setPhase rfl rfl (.inl rfl)

theorem handOver_step (now : Int) (hphase : (s.processes p).phase = .handingOver) :
    ApplicationStep p s (handOver s p now) := by
  unfold handOver
  split
  · rename_i h
    obtain ⟨-, howned⟩ := Bool.and_eq_true_iff.mp h
    exact applicationStep_renewed (.inl rfl) howned (.inl rfl) nofun rfl fun _ => .inl (hphase ▸ rfl)
  · exact applicationStep_setPhase rfl rfl (.inl rfl)

theorem releaseAndClose_step : ApplicationStep p s (releaseAndClose s p) := by
  unfold releaseAndClose
  split
  · have hself : ((LeaseState.setPhase { s with lease := deleted (.application p) s.lease } p .closed).processes p).phase =
        .closed := congrArg Process.phase (setProcess_self _ _ _)
    exact {
      others := fun q hq => setProcess_other _ _ _ hq
      lockFile := rfl
      maintenances := rfl
      lease := .released rfl
      log := .kept rfl
      early := fun h => absurd h (by rw [hself]; decide)
      transaction := fun h => absurd h (by rw [hself]; decide)
      writer := .inl rfl
      unguarded := fun h => absurd h (by rw [hself]; decide)
      harmful := fun h => absurd h (by rw [hself]; decide) }
  · exact applicationStep_setPhase rfl rfl (.inl rfl)

end startup

/-! ### `write` -/

section write

variable {s : LeaseState} {p : String}

/-- The end of a transaction that changes nothing. -/
theorem applicationStep_rollback {process : Process} (hwriter : s.writer = some p)
    (early : process.phase.isEarly = false) (transaction : process.phase.inTransaction = false)
    (unguarded : process.phase.isUnguarded = false) (hbefore : (s.processes p).phase.isHarmless = false) :
    ApplicationStep p s (LeaseState.setProcess { s with writer := none } p process) where
  others q hq := setProcess_other _ _ _ hq
  lockFile := rfl
  maintenances := rfl
  lease := .kept rfl
  log := .kept rfl
  early := by
    rw [setProcess_self]
    exact fun h => absurd h (by simp [early])
  transaction := by
    rw [setProcess_self]
    exact fun h => absurd h (by simp [transaction])
  writer := .inr (.inr hwriter)
  unguarded := by
    rw [setProcess_self]
    exact fun h => absurd h (by simp [unguarded])
  harmful := fun _ => .inl hbefore

theorem assertIdle_step {next : WriteStage} (hnext : next = .preflightIdle ∧ (s.processes p).phase = .ready ∨
    next = .idle ∧ (s.processes p).phase = .writing .begun) : ApplicationStep p s (assertIdle s p next) := by
  have hbefore : (s.processes p).phase.isHarmless = false := by
    rcases hnext with ⟨-, hphase⟩ | ⟨-, hphase⟩ <;> rw [hphase] <;> rfl
  unfold assertIdle
  split
  · rename_i h
    have hlock : s.lockFile = none := Option.isNone_iff_eq_none.mp (Bool.and_eq_true_iff.mp h).2
    rcases hnext with ⟨rfl, hphase⟩ | ⟨rfl, hphase⟩
    · exact applicationStep_setProcess nofun nofun nofun fun _ => .inr hlock
    · exact applicationStep_setProcess nofun (fun _ => hphase ▸ rfl) (fun _ => .inr hlock) fun _ => .inr hlock
  · split
    · rename_i hwriter
      exact applicationStep_rollback hwriter rfl rfl rfl hbefore
    · exact applicationStep_setPhase rfl rfl (.inr hbefore)

theorem assertLease_step {next : WriteStage} (reading : Option Int)
    (hnext : next = .preflightAvailable ∧ (s.processes p).phase = .writing .preflightIdle ∨
      next = .available ∧ (s.processes p).phase = .writing .idle) : ApplicationStep p s (assertLease s p reading next) := by
  have hbefore : (s.processes p).phase.isHarmless = false := by
    rcases hnext with ⟨-, hphase⟩ | ⟨-, hphase⟩ <;> rw [hphase] <;> rfl
  unfold assertLease
  split
  · rcases hnext with ⟨rfl, hphase⟩ | ⟨rfl, hphase⟩
    · exact applicationStep_setProcess nofun nofun nofun fun _ => .inl hbefore
    · exact applicationStep_setProcess nofun (fun _ => hphase ▸ rfl) (fun _ => .inl (hphase ▸ rfl)) fun _ => .inl hbefore
  · split
    · rename_i hwriter
      exact applicationStep_rollback hwriter rfl rfl rfl hbefore
    · exact applicationStep_setProcess nofun nofun nofun fun _ => .inl hbefore

theorem beginImmediate_step (hphase : (s.processes p).phase = .writing .preflightAvailable) :
    ApplicationStep p s (beginImmediate s p) := by
  have hbefore : (s.processes p).phase.isHarmless = false := hphase ▸ rfl
  unfold beginImmediate
  split
  · rename_i hwriter
    have hself : ((LeaseState.setPhase { s with writer := some p } p (.writing .begun)).processes p).phase =
        .writing .begun := congrArg Process.phase (setProcess_self _ _ _)
    exact {
      others := fun q hq => setProcess_other _ _ _ hq
      lockFile := rfl
      maintenances := rfl
      lease := .kept rfl
      log := .kept rfl
      early := fun h => absurd h (by rw [hself]; decide)
      transaction := fun _ => .inl rfl
      writer := .inr (.inl (Option.isNone_iff_eq_none.mp hwriter))
      unguarded := fun h => absurd h (by rw [hself]; decide)
      harmful := fun _ => .inl hbefore }
  · exact applicationStep_setPhase rfl rfl (.inr hbefore)

theorem finishWrite_step (now : Int) (succeeds : Bool) (hwriter : s.writer = some p)
    (hphase : (s.processes p).phase = .writing .available) : ApplicationStep p s (finishWrite s p now succeeds) := by
  have hbefore : (s.processes p).phase.isHarmless = false := hphase ▸ rfl
  unfold finishWrite
  split
  · rename_i h
    obtain ⟨-, howned⟩ := Bool.and_eq_true_iff.mp h
    exact applicationStep_renewed (.inr ⟨_, .inl hphase, rfl⟩) howned (.inr (.inr hwriter)) nofun rfl fun _ => .inl hbefore
  · exact applicationStep_rollback hwriter rfl rfl rfl hbefore

theorem timerRenew_step (now : Int) : ApplicationStep p s (timerRenew s p now) := by
  unfold timerRenew
  split
  · exact applicationStep_refl
  · split
    · rename_i h
      obtain ⟨-, howned⟩ := Bool.and_eq_true_iff.mp h
      exact applicationStep_renewedInPlace (.inl rfl) howned
    · exact applicationStep_setProcess id id .inl .inl

theorem crash_step (p : String) (s : LeaseState) :
    ApplicationStep p s (LeaseState.setPhase { s with writer := if s.writer = some p then none else s.writer } p .closed) := by
  have hself : ((LeaseState.setPhase { s with writer := if s.writer = some p then none else s.writer } p .closed).processes p).phase =
      .closed := congrArg Process.phase (setProcess_self _ _ _)
  exact {
    others := fun q hq => setProcess_other _ _ _ hq
    lockFile := rfl
    maintenances := rfl
    lease := .kept rfl
    log := .kept rfl
    early := fun h => absurd h (by rw [hself]; decide)
    transaction := fun h => absurd h (by rw [hself]; decide)
    writer := by
      by_cases hwriter : s.writer = some p
      · exact .inr (.inr hwriter)
      · exact .inl (if_neg hwriter)
    unguarded := fun h => absurd h (by rw [hself]; decide)
    harmful := fun h => absurd h (by rw [hself]; decide) }

end write

/-! ### Maintenance -/

section maintenance

variable {s : LeaseState} {m : String}

theorem setMaintenance_self (s : LeaseState) (m : String) (phase : MaintenancePhase) :
    (s.setMaintenance m phase).maintenances m = phase := if_pos rfl

theorem setMaintenance_other (s : LeaseState) (m : String) (phase : MaintenancePhase) {n : String} (h : n ≠ m) :
    (s.setMaintenance m phase).maintenances n = s.maintenances n := if_neg h

theorem lockMaintenance_step (hlock : s.lockFile = none) :
    MaintenanceStep m s (LeaseState.setMaintenance { s with lockFile := some m } m .locked) where
  processes := rfl
  others _ hn := setMaintenance_other _ _ _ hn
  writer := rfl
  log := rfl
  lease := .kept rfl
  claimed h := by
    rw [setMaintenance_self] at h
    exact absurd h nofun
  lockFile := .inr (.inl ⟨hlock, rfl⟩)
  holds _ := .inl rfl

theorem claimLease_step (now : Int) (hphase : s.maintenances m = .locked) : MaintenanceStep m s (claimLease s m now) := by
  unfold claimLease
  split
  · rename_i h
    simp only [Bool.and_eq_true, Option.isNone_iff_eq_none] at h
    have howned : ownedBy (.maintenance m) (some ⟨.maintenance m, now + maintenanceLeaseTtl⟩) = true := by simp
    exact {
      processes := rfl
      others := fun _ hn => setMaintenance_other _ _ _ hn
      writer := rfl
      log := rfl
      lease := .claimed now h.1.1 (by simpa using h.1.2) rfl
      claimed := fun _ => .inr ⟨hphase, h.1.1, howned⟩
      lockFile := .inl rfl
      holds := fun _ => .inr ⟨hphase ▸ rfl, rfl⟩ }
  · exact {
      processes := rfl
      others := fun _ _ => rfl
      writer := rfl
      log := rfl
      lease := .kept rfl
      claimed := .inl
      lockFile := .inl rfl
      holds := fun h => .inr ⟨h, rfl⟩ }

theorem releaseMaintenanceLease_step (hphase : s.maintenances m = .claimed) :
    MaintenanceStep m s (releaseMaintenanceLease s m) := by
  unfold releaseMaintenanceLease
  split
  · exact {
      processes := rfl
      others := fun _ hn => setMaintenance_other _ _ _ hn
      writer := rfl
      log := rfl
      lease := .released rfl
      claimed := fun _ => .inl hphase
      lockFile := .inl rfl
      holds := fun _ => .inr ⟨hphase ▸ rfl, rfl⟩ }
  · exact {
      processes := rfl
      others := fun _ hn => setMaintenance_other _ _ _ hn
      writer := rfl
      log := rfl
      lease := .kept rfl
      claimed := fun _ => .inl hphase
      lockFile := .inl rfl
      holds := fun _ => .inr ⟨hphase ▸ rfl, rfl⟩ }

theorem unlockMaintenance_step (hphase : s.maintenances m = .locked ∨ s.maintenances m = .released) :
    MaintenanceStep m s (LeaseState.setMaintenance { s with lockFile := none } m .done) where
  processes := rfl
  others _ hn := setMaintenance_other _ _ _ hn
  writer := rfl
  log := rfl
  lease := .kept rfl
  claimed h := by
    rw [setMaintenance_self] at h
    exact absurd h nofun
  lockFile := .inr (.inr ⟨by rcases hphase with h | h <;> rw [h] <;> rfl, rfl⟩)
  holds h := by
    rw [setMaintenance_self] at h
    exact absurd h nofun

end maintenance

/-! ### All steps -/

/-- Who makes a step. -/
inductive Actor
  | process (p : String)
  | maintenance (m : String)

def Actor.token : Actor → LeaseToken
  | .process p => .application p
  | .maintenance m => .maintenance m

def LeaseCall.actor : LeaseCall → Actor
  | .openDatabase p | .startup p _ _ | .startupChecked p | .startupFails p | .heartbeat p _ | .heartbeatLost p
  | .write p _ _ _ | .timer p _ | .close p | .crash p => .process p
  | .lockMaintenance m | .claim m _ | .giveBack m | .unlockMaintenance m => .maintenance m

/-- The connection that is in a transaction of `write` is the one with the write lock. -/
def WriterInv (s : LeaseState) : Prop := ∀ p, (s.processes p).phase.inTransaction = true → s.writer = some p

theorem startupStep_step {s s' : LeaseState} {p : String} {now : Int} {applied : Bool}
    (h : startupStep s p now applied = some s') : ApplicationStep p s s' := by
  unfold startupStep at h
  cases hphase : (s.processes p).phase <;> simp only [hphase, Option.some.injEq, reduceCtorEq] at h
  case connecting => exact h ▸ startupIdle_step (.inl ⟨rfl, hphase⟩)
  case checked => exact h ▸ acquireLease_step now hphase
  case acquired => exact h ▸ startHeartbeat_step now
  case beating => exact h ▸ startupIdle_step (.inr ⟨rfl, hphase⟩)
  case migrating => exact h ▸ runMigration_step now applied hphase
  case handingOver => exact h ▸ handOver_step now hphase
  case failing => exact h ▸ releaseAndClose_step

theorem writeStep_step {s s' : LeaseState} (hi : WriterInv s) {p : String} {now : Int} {reading : Option Int} {succeeds : Bool}
    (h : writeStep s p now reading succeeds = some s') : ApplicationStep p s s' := by
  unfold writeStep at h
  cases hphase : (s.processes p).phase <;> simp only [hphase, Option.some.injEq, reduceCtorEq] at h
  case ready => exact h ▸ assertIdle_step (.inl ⟨rfl, hphase⟩)
  case writing stage =>
    cases stage <;> simp only [Option.some.injEq] at h
    case preflightIdle => exact h ▸ assertLease_step reading (.inl ⟨rfl, hphase⟩)
    case preflightAvailable => exact h ▸ beginImmediate_step hphase
    case begun => exact h ▸ assertIdle_step (.inr ⟨rfl, hphase⟩)
    case idle => exact h ▸ assertLease_step reading (.inr ⟨rfl, hphase⟩)
    case available => exact h ▸ finishWrite_step now succeeds (hi p (hphase ▸ rfl)) hphase

/-- **Step lemma**: what each call can do. -/
theorem leaseStep_cases {s s' : LeaseState} (hi : WriterInv s) {call : LeaseCall} (h : leaseStep s call = some s') :
    match call.actor with
    | .process p => ApplicationStep p s s'
    | .maintenance m => MaintenanceStep m s s' := by
  cases call with
  | openDatabase p =>
    simp only [leaseStep, Option.ite_none_right_eq_some, Bool.and_eq_true, decide_eq_true_eq, Option.some.injEq] at h
    obtain ⟨⟨hphase, -⟩, rfl⟩ := h
    exact applicationStep_setProcess (fun _ => hphase ▸ rfl) nofun nofun fun _ => .inl (hphase ▸ rfl)
  | startup p now applied => exact startupStep_step h
  | startupChecked p =>
    simp only [leaseStep, Option.ite_none_right_eq_some, Bool.and_eq_true, decide_eq_true_eq, Option.some.injEq] at h
    obtain ⟨⟨hphase, -⟩, rfl⟩ := h
    exact applicationStep_setPhase rfl rfl (.inr (hphase ▸ rfl))
  | startupFails p =>
    simp only [leaseStep, Option.ite_none_right_eq_some, Option.some.injEq] at h
    obtain ⟨-, rfl⟩ := h
    exact applicationStep_setPhase rfl rfl (.inl rfl)
  | heartbeat p now =>
    simp only [leaseStep, Option.ite_none_right_eq_some, Option.some.injEq] at h
    exact h.2 ▸ heartbeatRenew_step now
  | heartbeatLost p =>
    simp only [leaseStep, Option.ite_none_right_eq_some, Option.some.injEq] at h
    exact h.2 ▸ applicationStep_setProcess id id .inl .inl
  | write p now reading succeeds => exact writeStep_step hi h
  | timer p now =>
    simp only [leaseStep, Option.ite_none_right_eq_some, Option.some.injEq] at h
    exact h.2 ▸ timerRenew_step now
  | close p =>
    simp only [leaseStep, Option.ite_none_right_eq_some, Option.some.injEq] at h
    exact h.2 ▸ releaseAndClose_step
  | crash p =>
    simp only [leaseStep, Option.some.injEq] at h
    exact h ▸ crash_step p s
  | lockMaintenance m =>
    simp only [leaseStep, Option.ite_none_right_eq_some, Bool.and_eq_true, Option.isNone_iff_eq_none, Option.some.injEq] at h
    obtain ⟨⟨-, hlock⟩, rfl⟩ := h
    exact lockMaintenance_step hlock
  | claim m now =>
    simp only [leaseStep, Option.ite_none_right_eq_some, Option.some.injEq] at h
    exact h.2 ▸ claimLease_step now h.1
  | giveBack m =>
    simp only [leaseStep, Option.ite_none_right_eq_some, Option.some.injEq] at h
    exact h.2 ▸ releaseMaintenanceLease_step h.1
  | unlockMaintenance m =>
    simp only [leaseStep, Option.ite_none_right_eq_some, Bool.or_eq_true, decide_eq_true_eq, Option.some.injEq] at h
    obtain ⟨hphase, rfl⟩ := h
    exact unlockMaintenance_step hphase

/-! ## The invariant -/

structure LeaseInv (s : LeaseState) : Prop where
  writer : WriterInv s
  early : ∀ p, (s.processes p).phase.isEarly = true → ownedBy (.application p) s.lease = false
  held : ∀ m, (s.maintenances m).holdsLock = true → s.lockFile = some m
  unguarded : ∀ m, s.maintenances m = .claimed → ∀ p, (s.processes p).phase.isUnguarded = false
  harmless : ∀ m, s.maintenances m = .claimed → ∀ p, ownedBy (.application p) s.lease = true →
    (s.processes p).phase.isHarmless = true

theorem leaseInv_initial : LeaseInv LeaseState.initial where
  writer _ h := nomatch h
  early _ _ := rfl
  held _ h := nomatch h
  unguarded _ h := nomatch h
  harmless _ h := nomatch h

/-- Whose row it is after a step of a process, if not the process's own. -/
theorem LeaseChange.owned_before {p : String} {s s' : LeaseState} (h : LeaseChange p s s') {token : LeaseToken}
    (hne : token ≠ .application p) (howned : ownedBy token s'.lease = true) : ownedBy token s.lease = true := by
  cases h with
  | kept same => rwa [same] at howned
  | renewed now owned row =>
    rw [row] at howned
    exact absurd (of_decide_eq_true howned).symm hne
  | acquired now early phase free row =>
    rw [row] at howned
    exact absurd (of_decide_eq_true howned).symm hne
  | released row =>
    rw [row] at howned
    exact ownedBy_deleted howned

/-- A process has the row after its step if it had it before, or if the step is the one in `open`. -/
theorem LeaseChange.own_before {p : String} {s s' : LeaseState} (h : LeaseChange p s s')
    (howned : ownedBy (.application p) s'.lease = true) :
    ownedBy (.application p) s.lease = true ∨ (s'.processes p).phase = .acquired ∧ (s.processes p).phase.isEarly = true := by
  cases h with
  | kept same =>
    rw [same] at howned
    exact .inl howned
  | renewed now owned row => exact .inl owned
  | acquired now early phase free row => exact .inr ⟨phase, early⟩
  | released row =>
    rw [row] at howned
    exact .inl (ownedBy_deleted howned)

theorem application_ne {p q : String} (h : q ≠ p) : LeaseToken.application q ≠ .application p :=
  fun he => h (LeaseToken.application.inj he)

theorem LeaseInv.application {s s' : LeaseState} {p : String} (hi : LeaseInv s) (h : ApplicationStep p s s') :
    LeaseInv s' where
  writer := by
    intro q hq
    by_cases hqp : q = p
    · subst hqp
      rcases h.transaction hq with hwriter | ⟨hbefore, hwriter⟩
      · exact hwriter
      · rw [hwriter]
        exact hi.writer q hbefore
    · rw [h.others q hqp] at hq
      have hold := hi.writer q hq
      rcases h.writer with hsame | hnone | hown
      · rw [hsame, hold]
      · exact absurd (hold.symm.trans hnone) nofun
      · exact absurd (Option.some.inj (hold.symm.trans hown)) hqp
  early := by
    intro q hq
    rw [Bool.eq_false_iff]
    intro howned
    by_cases hqp : q = p
    · subst hqp
      have hbefore := hi.early q (h.early hq)
      rcases h.lease.own_before howned with hold | ⟨hphase, -⟩
      · exact absurd hold (by simp [hbefore])
      · rw [hphase] at hq
        exact absurd hq nofun
    · rw [h.others q hqp] at hq
      exact absurd (h.lease.owned_before (application_ne hqp) howned) (by simp [hi.early q hq])
  held m hm := by
    rw [h.maintenances] at hm
    rw [h.lockFile]
    exact hi.held m hm
  unguarded m hm q := by
    rw [h.maintenances] at hm
    rw [Bool.eq_false_iff]
    intro hq
    by_cases hqp : q = p
    · subst hqp
      have hlock := hi.held m (by rw [hm]; rfl)
      rcases h.unguarded hq with hbefore | hnone
      · exact absurd hbefore (by simp [hi.unguarded m hm q])
      · exact absurd (hlock.symm.trans hnone) nofun
    · rw [h.others q hqp] at hq
      exact absurd hq (by simp [hi.unguarded m hm q])
  harmless m hm q howned := by
    rw [h.maintenances] at hm
    by_cases hqp : q = p
    · subst hqp
      rcases h.lease.own_before howned with hold | ⟨hphase, -⟩
      · -- it had the row before, where it was harmless, and the lock file kept it there
        rw [← Bool.not_eq_false]
        intro hharm
        have hlock := hi.held m (by rw [hm]; rfl)
        rcases h.harmful hharm with hbefore | hnone
        · exact absurd (hi.harmless m hm q hold) (by simp [hbefore])
        · exact absurd (hlock.symm.trans hnone) nofun
      · rw [hphase]
        rfl
    · rw [h.others q hqp]
      exact hi.harmless m hm q (h.lease.owned_before (application_ne hqp) howned)

/-- A maintenance command never gives the row to a process. -/
theorem MaintenanceStep.owned_before {m p : String} {s s' : LeaseState} (h : MaintenanceStep m s s')
    (howned : ownedBy (.application p) s'.lease = true) : ownedBy (.application p) s.lease = true := by
  cases h.lease with
  | kept same => rwa [same] at howned
  | claimed now writer expired row =>
    rw [row, ownedBy_some, decide_eq_true_eq] at howned
    exact absurd howned nofun
  | released row =>
    rw [row] at howned
    exact ownedBy_deleted howned

theorem LeaseInv.maintenance {s s' : LeaseState} {m : String} (hi : LeaseInv s) (h : MaintenanceStep m s s') :
    LeaseInv s' where
  writer p hp := by
    rw [h.processes] at hp
    rw [h.writer]
    exact hi.writer p hp
  early p hp := by
    rw [h.processes] at hp
    rw [Bool.eq_false_iff]
    exact fun howned => absurd (h.owned_before howned) (by simp [hi.early p hp])
  held n hn := by
    by_cases hnm : n = m
    · subst hnm
      rcases h.holds hn with hlock | ⟨hbefore, hsame⟩
      · exact hlock
      · rw [hsame]
        exact hi.held n hbefore
    · rw [h.others n hnm] at hn
      have hlock := hi.held n hn
      rcases h.lockFile with hsame | ⟨hnone, -⟩ | ⟨hholds, -⟩
      · rw [hsame, hlock]
      · exact absurd (hlock.symm.trans hnone) nofun
      · exact absurd (Option.some.inj (hlock.symm.trans (hi.held m hholds))) hnm
  unguarded n hn p := by
    rw [h.processes]
    by_cases hnm : n = m
    · subst hnm
      rcases h.claimed hn with hbefore | ⟨-, hwriter, -⟩
      · exact hi.unguarded n hbefore p
      · -- the claim had the write lock, so no connection was in a transaction
        rw [Bool.eq_false_iff]
        intro hp
        have htransaction : (s.processes p).phase.inTransaction = true := by
          cases hphase : (s.processes p).phase with
          | writing stage => cases stage <;> simp_all [Phase.isUnguarded, Phase.inTransaction]
          | _ => exact absurd hp (by simp [hphase, Phase.isUnguarded])
        exact absurd ((hi.writer p htransaction).symm.trans hwriter) nofun
    · rw [h.others n hnm] at hn
      exact hi.unguarded n hn p
  harmless n hn p howned := by
    rw [h.processes]
    by_cases hnm : n = m
    · subst hnm
      rcases h.claimed hn with hbefore | ⟨-, -, hclaimed⟩
      · exact hi.harmless n hbefore p (h.owned_before howned)
      · exact absurd (ownedBy_inj howned hclaimed) nofun
    · rw [h.others n hnm] at hn
      exact hi.harmless n hn p (h.owned_before howned)

/-- **Run lemma.** Every reachable state meets the invariant. -/
theorem LeaseInv.step {s s' : LeaseState} (hi : LeaseInv s) {call : LeaseCall} (h : leaseStep s call = some s') : LeaseInv s' := by
  have hstep := leaseStep_cases hi.writer h
  cases hactor : call.actor with
  | process p =>
    rw [hactor] at hstep
    exact hi.application hstep
  | maintenance m =>
    rw [hactor] at hstep
    exact hi.maintenance hstep

theorem leaseInv_reachable {s : LeaseState} (h : Runs.Reachable leaseSystem s) : LeaseInv s := by
  refine h.invariant (fun s h0 => ?_) fun s call s' hi hs => hi.step hs
  obtain rfl : s = LeaseState.initial := h0
  exact leaseInv_initial

/-! ## Over whole runs -/

/-- What process `p` committed. -/
def commitsOf (p : String) (log : List (String × CommitKind)) : List (String × CommitKind) := log.filter fun c => c.1 = p

/-- A process that had its turn and does not have the row is out. -/
structure Out (p : String) (s : LeaseState) : Prop where
  late : (s.processes p).phase.isEarly = false
  lost : ownedBy (.application p) s.lease = false

/-- **One step keeps a process out**, and it commits nothing. -/
theorem Out.step {p : String} {s s' : LeaseState} (hout : Out p s) (hi : LeaseInv s) {call : LeaseCall}
    (h : leaseStep s call = some s') : Out p s' ∧ commitsOf p s'.log = commitsOf p s.log := by
  have hstep := leaseStep_cases hi.writer h
  cases hactor : call.actor with
  | maintenance m =>
    rw [hactor] at hstep
    refine ⟨⟨?_, ?_⟩, by rw [hstep.log]⟩
    · rw [hstep.processes]
      exact hout.late
    · rw [Bool.eq_false_iff]
      exact fun howned => absurd (hstep.owned_before howned) (by simp [hout.lost])
  | process q =>
    rw [hactor] at hstep
    by_cases hpq : p = q
    · subst hpq
      refine ⟨⟨?_, ?_⟩, ?_⟩
      · rw [Bool.eq_false_iff]
        exact fun hearly => absurd (hstep.early hearly) (by simp [hout.late])
      · rw [Bool.eq_false_iff]
        intro howned
        rcases hstep.lease.own_before howned with hold | ⟨-, hearly⟩
        · exact absurd hold (by simp [hout.lost])
        · exact absurd hearly (by simp [hout.late])
      · cases hstep.log with
        | kept same => rw [same]
        | committed kind now owned phase log row => exact absurd owned (by simp [hout.lost])
    · refine ⟨⟨?_, ?_⟩, ?_⟩
      · rw [hstep.others p hpq]
        exact hout.late
      · rw [Bool.eq_false_iff]
        exact fun howned => absurd (hstep.lease.owned_before (application_ne hpq) howned) (by simp [hout.lost])
      · cases hstep.log with
        | kept same => rw [same]
        | committed kind now owned phase log row =>
          rw [log]
          unfold commitsOf
          rw [List.filter_append, List.filter_cons_of_neg (by simpa using fun he : q = p => hpq he.symm), List.filter_nil,
            List.append_nil]

theorem Out.path {p : String} {s s' : LeaseState} (hout : Out p s) (hi : LeaseInv s) {calls : List LeaseCall}
    (h : Runs.Path leaseSystem s calls s') : LeaseInv s' ∧ Out p s' ∧ commitsOf p s'.log = commitsOf p s.log := by
  induction h with
  | refl => exact ⟨hi, hout, rfl⟩
  | next _ hs ih =>
    obtain ⟨hi', hout', hcommits⟩ := ih
    obtain ⟨hout'', hcommits'⟩ := hout'.step hi' hs
    exact ⟨hi'.step hs, hout'', hcommits'.trans hcommits⟩

/-- What holds of the lease in one state. -/
structure SingleWriter (s : LeaseState) : Prop where
  /-- a step commits at most one transaction, and its token stands in the row before and after -/
  commits : ∀ call s', leaseStep s call = some s' → s'.log = s.log ∨
    ∃ p kind now, call.actor = .process p ∧ s'.log = s.log ++ [(p, kind)] ∧ ownedBy (.application p) s.lease = true ∧
      s'.lease = some ⟨.application p, now + leaseTtl⟩
  /-- whoever has taken it over, a former owner's row is left alone by it and it never commits again -/
  taken : ∀ p, (s.processes p).phase.isEarly = false → ownedBy (.application p) s.lease = false →
    (∀ call s', leaseStep s call = some s' → call.actor = .process p → s'.lease = s.lease) ∧
      ∀ calls s', Runs.Path leaseSystem s calls s' → ownedBy (.application p) s'.lease = false ∧
        commitsOf p s'.log = commitsOf p s.log
  /-- a row is changed by a step of its owner, or taken when it is expired by the clock of the one who takes it -/
  changes : ∀ call s' token, leaseStep s call = some s' → ownedBy token s.lease = true → s'.lease ≠ s.lease →
    call.actor.token = token ∨
      ∃ now expiresAt, hasLiveLease now s.lease = false ∧ s'.lease = some ⟨call.actor.token, expiresAt⟩
  /-- nothing is committed beside a claim -/
  excluded : ∀ m, s.maintenances m = .claimed → ∀ call s', leaseStep s call = some s' → s'.log = s.log

theorem LeaseInv.singleWriter {s : LeaseState} (hi : LeaseInv s) : SingleWriter s where
  commits call s' h := by
    have hstep := leaseStep_cases hi.writer h
    cases hactor : call.actor with
    | maintenance m =>
      rw [hactor] at hstep
      exact .inl hstep.log
    | process p =>
      rw [hactor] at hstep
      cases hstep.log with
      | kept same => exact .inl same
      | committed kind now owned phase log row => exact .inr ⟨p, kind, now, rfl, log, owned, row⟩
  taken p hlate hlost := by
    refine ⟨fun call s' h hactor => ?_, fun calls s' hp => ?_⟩
    · have hstep := leaseStep_cases hi.writer h
      rw [hactor] at hstep
      cases hstep.lease with
      | kept same => exact same
      | renewed now owned row => exact absurd owned (by simp [hlost])
      | acquired now early phase free row => exact absurd early (by simp [hlate])
      | released row => rw [row, deleted_other hlost]
    · obtain ⟨-, hout, hcommits⟩ := Out.path ⟨hlate, hlost⟩ hi hp
      exact ⟨hout.lost, hcommits⟩
  changes call s' token h howned hchanged := by
    have hstep := leaseStep_cases hi.writer h
    cases hactor : call.actor with
    | maintenance m =>
      rw [hactor] at hstep
      cases hstep.lease with
      | kept same => exact absurd same hchanged
      | claimed now writer expired row => exact .inr ⟨now, _, expired, row⟩
      | released row => exact .inl (owner_of_deleted howned (row ▸ hchanged)).symm
    | process p =>
      rw [hactor] at hstep
      cases hstep.lease with
      | kept same => exact absurd same hchanged
      | renewed now owned row => exact .inl (ownedBy_inj owned howned)
      | acquired now early phase free row =>
        -- a row that is not live for `acquireLease` is its own or expired, and this process had none
        refine .inr ⟨now, _, ?_, row⟩
        obtain ⟨e, he⟩ := ownedBy_iff.mp howned
        have hother := hi.early p early
        rw [he] at free hother ⊢
        simp only [isFreeFor, Option.all_some, Bool.or_eq_true, decide_eq_true_eq] at free
        simp only [ownedBy_some, decide_eq_false_iff_not] at hother
        simpa [hasLiveLease] using free.resolve_left hother
      | released row => exact .inl (owner_of_deleted howned (row ▸ hchanged)).symm
  excluded m hm call s' h := by
    have hstep := leaseStep_cases hi.writer h
    cases hactor : call.actor with
    | maintenance n =>
      rw [hactor] at hstep
      exact hstep.log
    | process p =>
      rw [hactor] at hstep
      cases hstep.log with
      | kept same => exact same
      | committed kind now owned phase log row =>
        rcases phase with hphase | hphase
        · exact absurd (hi.unguarded m hm p) (by rw [hphase]; decide)
        · exact absurd (hi.harmless m hm p owned) (by rw [hphase]; decide)

/-- **Single writer**, over whole runs. -/
theorem single_writer {s : LeaseState} (h : Runs.Reachable leaseSystem s) : SingleWriter s :=
  (leaseInv_reachable h).singleWriter

/-! Two processes and a claim: the first loses its lease to a clock that is ahead, and its write is rolled back; a
    maintenance command claims the file when the second has closed. -/

def sampleOpen (p : String) (now : Int) : List LeaseCall :=
  [.openDatabase p, .startup p now true, .startup p now true, .startup p now true, .startup p now true,
    .startup p now true, .startupChecked p, .startup p now true]

def sampleWrite (p : String) (now : Int) : List LeaseCall := List.replicate 6 (.write p now (some now) true)

def sampleCalls : List LeaseCall :=
  sampleOpen "first" 0 ++ sampleWrite "first" 1000 ++ [.write "first" 2000 none true] ++ sampleOpen "second" 900000 ++
    [.write "first" 3000 (some 3000) true] ++ sampleWrite "second" 0 ++
    [.close "second", .lockMaintenance "restore", .claim "restore" 0]

theorem single_writer_sample :
    ∃ s, Runs.Reachable leaseSystem s ∧ SingleWriter s ∧ s.maintenances "restore" = .claimed ∧
      s.log = [("first", .migration), ("first", .write), ("second", .migration), ("second", .write)] := by
  have hrun : ∃ s, Runs.follow leaseStep sampleCalls LeaseState.initial = some s ∧ s.maintenances "restore" = .claimed ∧
      s.log = [("first", .migration), ("first", .write), ("second", .migration), ("second", .write)] := by
    refine ⟨_, rfl, ?_, ?_⟩
    · decide +kernel
    · decide +kernel
  obtain ⟨s, hs, hclaimed, hlog⟩ := hrun
  have hreachable : Runs.Reachable leaseSystem s :=
    Runs.Reachable.follow (fun _ _ _ h => h) ⟨[], .start rfl⟩ hs
  exact ⟨s, hreachable, single_writer hreachable, hclaimed, hlog⟩

end PerPay.Database
