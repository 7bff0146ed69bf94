/-
  **The guard looks at the past.**

  An account transition parks the health of the worker that it stops, so the guard sees how the account's last scan
  ended.  The health of the reconciliation scheduler it takes from the last payment transition, if one has
  succeeded: nothing in multi-account mode drops what was parked then, and the scheduler that runs now is not asked
  (`switch_allowed_iff`).  So long as no payment transition has been made, the guard sees the scheduler that runs
  (`switch_allowed_without_pause`).
-/
import PerPay.Runtime.SwitchGuard

namespace PerPay.Runtime.Switching

variable {c : Controller}

/-! ## Workers come after the snapshot -/

theorem stopWorkers_nil {stopping : String → Stopping} {workers : List (String × AccountWorker)}
    {paused : String → Option RevisionedHealth} (h : workers = []) : (stopWorkers stopping workers paused).1 = [] := by
  rw [h]
  rfl

theorem keepWorkers_nil {keeps : String → AccountWorker → Bool} {stopping : String → Stopping}
    {workers : List (String × AccountWorker)} (h : workers = []) : (keepWorkers keeps stopping workers).1 = [] := by
  rw [h]
  rfl

/-- There are no workers before there is a snapshot. -/
def Started (c : Controller) : Prop := c.snapshot = none → c.accountWorkers = []

theorem Controller.pause_snapshot (pausing : Pausing) (c : Controller) : (c.pause pausing).snapshot = c.snapshot := by
  unfold pause
  split
  · rfl
  · split <;> rfl

theorem Controller.pause_accountWorkers (pausing : Pausing) (c : Controller) :
    (c.pause pausing).accountWorkers = (stopWorkers pausing.stopping c.accountWorkers c.pausedAccountHealth).1 := by
  unfold pause
  split
  · next h => rw [h]
  · next h =>
    rw [h]
    split <;> rfl

theorem Started.pause (h : Started c) (pausing : Pausing) : Started (c.pause pausing) := by
  intro hsnapshot
  rw [Controller.pause_snapshot] at hsnapshot
  rw [Controller.pause_accountWorkers]
  exact stopWorkers_nil (h hsnapshot)

theorem Controller.createMissing_snapshot (applying : Applying) (c : Controller) :
    (c.createMissing applying).snapshot = c.snapshot := by
  unfold createMissing
  split
  · rfl
  · split <;> rfl

theorem Started.applySnapshot (h : Started c) (paymentRevision : Nat) (applying : Applying) :
    Started (c.applySnapshot paymentRevision applying) := by
  unfold Controller.applySnapshot
  split
  · split
    · next hkept =>
      intro hsnapshot
      have hnil := @keepWorkers_nil (c.keeps paymentRevision) applying.stopping _ (h hsnapshot)
      rwa [hkept] at hnil
    · intro hsnapshot
      rw [Controller.createMissing_snapshot] at hsnapshot
      exact nomatch hsnapshot
  · exact h

theorem Started.beginAccountTransition (h : Started c) (id : String) (stopping : Stopping) :
    Started (c.beginAccountTransition id stopping).1 := by
  unfold Controller.beginAccountTransition
  split
  · exact h
  · split
    · intro hsnapshot
      show c.accountWorkers.filter _ = []
      rw [h hsnapshot]
      rfl
    · intro hsnapshot
      show c.accountWorkers.map _ = []
      rw [h hsnapshot]
      rfl

theorem Started.update (h : Started c) (id : String) (f : AccountWorker → AccountWorker) :
    Started { c with accountWorkers := updateWorker id f c.accountWorkers } := by
  intro hsnapshot
  show updateWorker id f c.accountWorkers = []
  rw [h hsnapshot]
  rfl

theorem Started.step (h : Started c) (action : Action) : Started (c.step action) := by
  cases action with
  | start paymentRevision applying =>
    show Started (if c.started || c.stopped then c else ({ c with started := true }).applySnapshot paymentRevision applying)
    split
    · exact h
    · have hstarted : Started { c with started := true } := h
      exact hstarted.applySnapshot paymentRevision applying
  | apply paymentRevision applying =>
    show Started (if c.stopped then c else c.applySnapshot paymentRevision applying)
    split
    · exact h
    · exact h.applySnapshot paymentRevision applying
  | beginPaymentTransition pausing =>
    show Started (if c.stopped then c else ({ c with transitioning := true }).pause pausing)
    split
    · exact h
    · have htransitioning : Started { c with transitioning := true } := h
      exact htransitioning.pause pausing
  | beginAccountTransition id stopping => exact h.beginAccountTransition id stopping
  | applyAccounts id applying =>
    have hended : Started (c.endTransition id) := h
    show Started (c.applyAccounts id applying)
    unfold Controller.applyAccounts
    split
    · exact hended
    · split
      · exact hended
      · exact hended.applySnapshot _ applying
  | stop => exact h
  | scanStarts id => exact h.update id _
  | scanEnds id scan => exact h.update id _
  | reconciliationStarts => exact h
  | reconciliationEnds succeededAt => exact h
  | writeAccounts accounts => exact h

theorem reachable_started (h : Runs.Reachable system c) : Started c := by
  refine h.invariant (I := Started) ?_ ?_
  · rintro _ rfl
    exact fun _ => rfl
  · rintro c action _ hstarted rfl
    exact hstarted.step action

/-! ## The guard after an account transition -/

/-- The success is recent, and not before the last order that ended unpaid. -/
structure Covers (facts : SwitchFacts) (now maximumAge : Nat) (lastSuccessAt : Option Nat) : Prop where
  fresh : isFresh lastSuccessAt now maximumAge = true
  late : ∀ ended, facts.latestEndedOrderAt = some ended → before lastSuccessAt ended = false

/-- What the guard asks of the reconciliation, once the scans of the account are in order. -/
def Reviewed (facts : SwitchFacts) (now maximumAge : Nat) (account : AccountSnapshot) (c : Controller) : Prop :=
  (account.providerAccountKey.all fun key => key = "") = true ∨
    (facts.ledgerEntries = 0 ∧ facts.latestEndedOrderAt = none) ∨
    ∀ parked, c.pausedReconciliationHealth = some parked → Covers facts now maximumAge parked.lastSuccessAt

theorem checkFinal_ok {facts : SwitchFacts} {now maximumAge : Nat} {account : AccountSnapshot}
    {ledger reconciliation : RevisionedHealth} (hage : account.maximumSuccessAge = some maximumAge)
    (hrevision : ledger.paymentRevision = some account.revision) (hledger : Covers facts now maximumAge ledger.lastSuccessAt) :
    checkFinal facts now account ledger reconciliation = .ok () ↔ Covers facts now maximumAge reconciliation.lastSuccessAt := by
  unfold checkFinal
  rw [hage, hrevision]
  simp only [Option.all_some, hledger.fresh, ne_eq, not_true_eq_false, decide_false, Bool.or_false, Bool.not_true,
    Bool.false_or, Bool.not_eq_true', Option.any_eq_true]
  constructor
  · intro h
    split at h
    · nomatch h
    case isFalse hfresh =>
      split at h
      · nomatch h
      case isFalse hlate =>
        refine ⟨by simpa using hfresh, fun ended hended => ?_⟩
        by_contra hbefore
        exact hlate ⟨ended, hended, by simp [hbefore]⟩
  · rintro ⟨hfresh, hlate⟩
    rw [if_neg (by simp [hfresh]), if_neg]
    rintro ⟨ended, hended, hbefore⟩
    rw [hledger.late ended hended, hlate ended hended] at hbefore
    exact Bool.false_ne_true hbefore

/-- What an account transition leaves, when the worker stops. -/
theorem beginAccountTransition_ok {id : String} {worker : AccountWorker} {stopping : Stopping}
    (hworker : lookup id c.accountWorkers = some worker) (hstops : worker.stops stopping = true) :
    c.beginAccountTransition id stopping =
      ({ c with
        accountTransitions := id :: c.accountTransitions
        pausedAccountHealth := park id (worker.idle stopping).health c.pausedAccountHealth
        accountWorkers := c.accountWorkers.filter fun e => e.1 ≠ id }, true) := by
  unfold Controller.beginAccountTransition
  rw [hworker]
  dsimp only
  rw [if_pos hstops]

theorem idle_inFlight (stopping : Stopping) (worker : AccountWorker) : (worker.idle stopping).inFlight = false := by
  unfold AccountWorker.idle
  split
  · rfl
  · next h => exact Bool.not_eq_true _ ▸ h

theorem idle_account (stopping : Stopping) (worker : AccountWorker) : (worker.idle stopping).account = worker.account := by
  unfold AccountWorker.idle
  split <;> rfl

theorem snapshot_of_worker (h : Started c) {id : String} {worker : AccountWorker}
    (hworker : lookup id c.accountWorkers = some worker) : c.snapshot.isNone = false := by
  cases hsnapshot : c.snapshot with
  | some paymentRevision => rfl
  | none =>
    rw [h hsnapshot] at hworker
    exact nomatch hworker

/-- **The guard after an account transition**, in every state that can be reached.  No order of the account is open and
    none of its ingest runs is going on; its worker, built for its revision, stops, and its last success covers what has to be
    covered, and so does the last success of the reconciliation scheduler.  The transition succeeds; and the guard lets the
    switch pass exactly when it has nothing to ask, or what a payment transition parked of a reconciliation scheduler
    covers that, too. -/
theorem switch_allowed_iff (h : Runs.Reachable system c) {id : String} {account : AccountSnapshot} {worker : AccountWorker}
    {stopping : Stopping} {reconciliation : ReconciliationScheduler} {facts : SwitchFacts} {now maximumAge : Nat}
    (_haccount : lookup id c.accounts = some account) (hage : account.maximumSuccessAge = some maximumAge)
    (hworker : lookup id c.accountWorkers = some worker) (hrevision : worker.account.revision = account.revision)
    (hstops : worker.stops stopping = true) (hopen : facts.openOrders = 0) (hscans : facts.runningScans = 0)
    (hscanned : Covers facts now maximumAge (worker.idle stopping).lastSuccessAt)
    (hreconciliation : c.reconciliationScheduler = some reconciliation)
    (hreconciled : Covers facts now maximumAge reconciliation.lastSuccessAt) :
    (c.beginAccountTransition id stopping).2 = true ∧
      ((c.beginAccountTransition id stopping).1.assertAccountProviderSwitchAllowed facts now id account = .ok () ↔
        Reviewed facts now maximumAge account c) := by
  rw [beginAccountTransition_ok hworker hstops]
  refine ⟨rfl, ?_⟩
  have hsnapshot := snapshot_of_worker (reachable_started h) hworker
  have hledger : ∀ (transitions : List String) (workers : List (String × AccountWorker)),
      Controller.guardLedgerHealth { c with
        accountTransitions := transitions
        pausedAccountHealth := park id (worker.idle stopping).health c.pausedAccountHealth
        accountWorkers := workers } id = (worker.idle stopping).health := by
    intro transitions workers
    unfold Controller.guardLedgerHealth park
    simp
  have hcurrent : (worker.idle stopping).health.paymentRevision = some account.revision := by
    unfold AccountWorker.health
    rw [idle_account, hrevision]
  have hidle : (worker.idle stopping).health.inFlight = false := idle_inFlight stopping worker
  unfold Controller.assertAccountProviderSwitchAllowed Reviewed
  rw [hledger, hopen, hscans, hidle]
  dsimp only
  rw [hsnapshot]
  simp only [Bool.false_eq_true, if_false, Nat.lt_irrefl, decide_false, Bool.or_false]
  by_cases hkey : (account.providerAccountKey.all fun key => key = "") = true
  · simp [hkey]
  rw [if_neg hkey, or_iff_right hkey]
  by_cases hunused : facts.ledgerEntries = 0 ∧ facts.latestEndedOrderAt = none
  · simp [hunused]
  have hused : ¬(decide (facts.ledgerEntries = 0) && facts.latestEndedOrderAt.isNone) = true := by
    rw [Bool.and_eq_true, decide_eq_true_iff, Option.isNone_iff_eq_none]
    exact hunused
  rw [if_neg hused, or_iff_right hunused, checkFinal_ok hage hcurrent hscanned]
  unfold Controller.guardReconciliationHealth Controller.reconciliationHealth
  dsimp only
  rw [hreconciliation]
  cases c.pausedReconciliationHealth with
  | none =>
    constructor
    · exact fun _ parked hparked => nomatch hparked
    · exact fun _ => hreconciled
  | some parked =>
    constructor
    · rintro hcovers _ hparked
      obtain rfl := Option.some.inj hparked
      exact hcovers
    · exact fun hall => hall parked rfl

/-! ## Without a payment transition -/

def Action.isPause : Action → Bool
  | .beginPaymentTransition _ => true
  | _ => false

theorem applySnapshot_parked (paymentRevision : Nat) (applying : Applying) (c : Controller) :
    (c.applySnapshot paymentRevision applying).pausedReconciliationHealth = c.pausedReconciliationHealth := by
  unfold Controller.applySnapshot
  split
  · split
    · rfl
    · unfold Controller.createMissing
      split
      · rfl
      · split <;> rfl
  · rfl

theorem step_parked {action : Action} (h : action.isPause = false) (c : Controller) :
    (c.step action).pausedReconciliationHealth = c.pausedReconciliationHealth := by
  cases action with
  | start paymentRevision applying =>
    show (if c.started || c.stopped then c else ({ c with started := true }).applySnapshot paymentRevision applying).pausedReconciliationHealth = _
    split
    · rfl
    · exact applySnapshot_parked paymentRevision applying _
  | apply paymentRevision applying =>
    show (if c.stopped then c else c.applySnapshot paymentRevision applying).pausedReconciliationHealth = _
    split
    · rfl
    · exact applySnapshot_parked paymentRevision applying c
  | beginPaymentTransition pausing => exact nomatch h
  | beginAccountTransition id stopping =>
    show (c.beginAccountTransition id stopping).1.pausedReconciliationHealth = _
    unfold Controller.beginAccountTransition
    split
    · rfl
    · split <;> rfl
  | applyAccounts id applying =>
    show (c.applyAccounts id applying).pausedReconciliationHealth = _
    unfold Controller.applyAccounts
    split
    · rfl
    · split
      · rfl
      · exact applySnapshot_parked _ applying _
  | stop => rfl
  | scanStarts id => rfl
  | scanEnds id scan => rfl
  | reconciliationStarts => rfl
  | reconciliationEnds succeededAt => rfl
  | writeAccounts accounts => rfl

/-- **So long as no payment transition has been made**, nothing is parked that could be out of date. -/
theorem reviewed_without_pause (h : Runs.Reachable (system.restrict fun _ action => action.isPause = false) c)
    (facts : SwitchFacts) (now maximumAge : Nat) (account : AccountSnapshot) : Reviewed facts now maximumAge account c := by
  have hnone : c.pausedReconciliationHealth = none := by
    refine h.invariant (I := fun c => c.pausedReconciliationHealth = none) ?_ ?_
    · rintro _ rfl
      rfl
    · rintro c action _ hnone ⟨hpause, rfl⟩
      rw [step_parked hpause, hnone]
  exact .inr (.inr fun parked hparked => nomatch hnone.symm.trans hparked)

/-! ## A switch that is refused

An account is configured; the policy is saved once before the first reconciliation; later its worker and the reconciliation
scheduler do what is asked of them. -/

def sampleAccount : AccountSnapshot := ⟨1, true, some "key", some 60000⟩

def sampleStopping : Stopping := ⟨⟨none, true⟩, true⟩

def sampleApplying : Applying := ⟨true, fun _ => sampleStopping, fun _ => true, true⟩

def samplePausing : Pausing := ⟨fun _ => sampleStopping, none, true⟩

def sampleFacts : SwitchFacts := ⟨1, 0, none, 0⟩

def collecting : List Action :=
  [.scanStarts "a", .scanEnds "a" ⟨some 1000, true⟩, .reconciliationStarts, .reconciliationEnds (some 1000)]

def collected (setup : List Action) : Controller := (setup ++ collecting).foldl Controller.step Controller.initial

/-- Settings and accounts, without a change and with one. -/
def sampleSetup : List Action := [.writeAccounts [("a", sampleAccount)], .start 1 sampleApplying]

def sampleChange : List Action := sampleSetup ++ [.beginPaymentTransition samplePausing, .apply 2 sampleApplying]

theorem collected_reachable (setup : List Action) : Runs.Reachable system (collected setup) :=
  Runs.Reachable.foldl (fun _ _ => rfl) _ ⟨[], .start rfl⟩

theorem switch_allowed_iff_sample :
    ((collected sampleSetup).beginAccountTransition "a" sampleStopping).2 = true ∧
      (((collected sampleSetup).beginAccountTransition "a" sampleStopping).1.assertAccountProviderSwitchAllowed sampleFacts 2000
        "a" sampleAccount = .ok () ↔ Reviewed sampleFacts 2000 60000 sampleAccount (collected sampleSetup)) :=
  have hcovers : Covers sampleFacts 2000 60000 (some 1000) := ⟨by decide +kernel, fun _ hended => nomatch hended⟩
  have hworker : lookup "a" (collected sampleSetup).accountWorkers = some ⟨sampleAccount, false, some 1000, false⟩ := rfl
  have hreconciliation : (collected sampleSetup).reconciliationScheduler = some ⟨1, false, some 1000⟩ := rfl
  switch_allowed_iff (collected_reachable sampleSetup) rfl rfl hworker rfl rfl rfl rfl hcovers hreconciliation hcovers

theorem switch_refused :
    ∃ c, Runs.Reachable system c ∧ lookup "a" c.accounts = some sampleAccount ∧
      (lookup "a" c.accountWorkers).map (·.lastSuccessAt) = some (some 1000) ∧
      c.reconciliationScheduler.map (·.lastSuccessAt) = some (some 1000) ∧
      (c.beginAccountTransition "a" sampleStopping).2 = true ∧
      (c.beginAccountTransition "a" sampleStopping).1.assertAccountProviderSwitchAllowed sampleFacts 2000 "a" sampleAccount =
        .error "切换前需要当前查账账户完成近期查账和自动确认收款" :=
  ⟨collected sampleChange, collected_reachable sampleChange, rfl, rfl, rfl, rfl, by decide +kernel⟩

end PerPay.Runtime.Switching
