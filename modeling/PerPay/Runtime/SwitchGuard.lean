/-
  **The guard before a provider switch** (`runtime/controller.ts`, in multi-account mode), with the health that it reads.

  A worker that is stopped leaves its health behind: an account transition parks the health of the account's worker,
  a payment transition that of every worker and of the reconciliation scheduler.  The guard prefers what is parked to
  what is there.  Operations run whole here: what ends while one waits ends before it, after it, or as part of the
  `stop()` that it waits for.
-/
import PerPay.Lib.Runs

namespace PerPay.Runtime.Switching

/-! ## Data -/

/-- What the guard and the workers read of an `AlipayAccountSnapshot`; `production` says that its environment and its
    provider are. -/
structure AccountSnapshot where
  revision : Nat
  production : Bool
  providerAccountKey : Option String
  maximumSuccessAge : Option Nat
  deriving DecidableEq, Repr

/-- `RevisionedLedgerHealth` and `RevisionedReconciliationHealth`, as far as the guard reads them. -/
structure RevisionedHealth where
  paymentRevision : Option Nat
  inFlight : Bool
  lastSuccessAt : Option Nat
  deriving DecidableEq, Repr

def disabledHealth : RevisionedHealth := ⟨none, false, none⟩

/-- An account worker with the state of its ledger scheduler; a schedule that could not be stored is `unpersisted`. -/
structure AccountWorker where
  account : AccountSnapshot
  inFlight : Bool
  lastSuccessAt : Option Nat
  unpersisted : Bool
  deriving DecidableEq, Repr

def AccountWorker.health (worker : AccountWorker) : RevisionedHealth :=
  ⟨some worker.account.revision, worker.inFlight, worker.lastSuccessAt⟩

/-- How a scan ends: with the time of its start when it counts as a success, and its next schedule stored or not. -/
structure ScanEnding where
  succeededFrom : Option Nat
  stored : Bool
  deriving DecidableEq, Repr

def AccountWorker.scanEnds (scan : ScanEnding) (worker : AccountWorker) : AccountWorker :=
  { worker with
    inFlight := false
    lastSuccessAt := scan.succeededFrom.or worker.lastSuccessAt
    unpersisted := !scan.stored }

/-- What `stop()` meets: the end of a scan in flight, and a write of the schedule that is still to be stored. -/
structure Stopping where
  scan : ScanEnding
  writes : Bool
  deriving DecidableEq, Repr

/-- The worker once the scan in flight has ended. -/
def AccountWorker.idle (stopping : Stopping) (worker : AccountWorker) : AccountWorker :=
  if worker.inFlight then worker.scanEnds stopping.scan else worker

/-- `scheduler.stop()` resolves unless a schedule is left that cannot be stored. -/
def AccountWorker.stops (stopping : Stopping) (worker : AccountWorker) : Bool :=
  !(worker.idle stopping).unpersisted || stopping.writes

structure ReconciliationScheduler where
  paymentRevision : Nat
  inFlight : Bool
  lastSuccessAt : Option Nat
  deriving DecidableEq, Repr

def ReconciliationScheduler.health (scheduler : ReconciliationScheduler) : RevisionedHealth :=
  ⟨some scheduler.paymentRevision, scheduler.inFlight, scheduler.lastSuccessAt⟩

/-- A run ends; without failures it is a success. -/
def ReconciliationScheduler.runEnds (succeededAt : Option Nat) (scheduler : ReconciliationScheduler) :
    ReconciliationScheduler :=
  { scheduler with inFlight := false, lastSuccessAt := succeededAt.or scheduler.lastSuccessAt }

structure Controller where
  accounts : List (String × AccountSnapshot)
  accountWorkers : List (String × AccountWorker)
  accountTransitions : List String
  pausedAccountHealth : String → Option RevisionedHealth
  reconciliationScheduler : Option ReconciliationScheduler
  pausedReconciliationHealth : Option RevisionedHealth
  /-- `paymentRevision` of `#snapshot` -/
  snapshot : Option Nat
  started : Bool
  stopped : Bool
  transitioning : Bool

def Controller.initial : Controller := ⟨[], [], [], fun _ => none, none, none, none, false, false, false⟩

def lookup {α : Type} (id : String) (entries : List (String × α)) : Option α :=
  (entries.find? fun e => e.1 = id).map Prod.snd

/-- `pausedAccountHealth.set` -/
def park (id : String) (health : RevisionedHealth) (paused : String → Option RevisionedHealth) :
    String → Option RevisionedHealth :=
  fun x => if x = id then some health else paused x

/-! ## Operations -/

/-- The loop of `#stopPaymentSchedulers` over the workers; the first that does not stop ends it. -/
def stopWorkers (stopping : String → Stopping) :
    List (String × AccountWorker) → (String → Option RevisionedHealth) →
      List (String × AccountWorker) × (String → Option RevisionedHealth) × Bool
  | [], paused => ([], paused, true)
  | (id, worker) :: rest, paused =>
    if worker.stops (stopping id) then stopWorkers stopping rest (park id (worker.idle (stopping id)).health paused)
    else ((id, worker.idle (stopping id)) :: rest, paused, false)

/-- What `#pause` meets. -/
structure Pausing where
  stopping : String → Stopping
  reconciliationRun : Option Nat
  reconciliationStops : Bool

def idleReconciliation (run : Option Nat) (scheduler : ReconciliationScheduler) : ReconciliationScheduler :=
  if scheduler.inFlight then scheduler.runEnds run else scheduler

/-- The operation of `beginPaymentTransition`; where something does not stop, what was parked of the reconciliation is
    dropped. -/
def Controller.pause (pausing : Pausing) (c : Controller) : Controller :=
  match stopWorkers pausing.stopping c.accountWorkers c.pausedAccountHealth with
  | (workers, paused, false) =>
    { c with accountWorkers := workers, pausedAccountHealth := paused, pausedReconciliationHealth := none }
  | (workers, paused, true) =>
    if pausing.reconciliationStops then
      { c with
        accountWorkers := workers
        pausedAccountHealth := paused
        reconciliationScheduler := none
        pausedReconciliationHealth :=
          some ((c.reconciliationScheduler.map fun s => (idleReconciliation pausing.reconciliationRun s).health).getD
            disabledHealth) }
    else
      { c with
        accountWorkers := workers
        pausedAccountHealth := paused
        reconciliationScheduler := c.reconciliationScheduler.map (idleReconciliation pausing.reconciliationRun)
        pausedReconciliationHealth := none }

/-- What `#applyMultiAccountSnapshot` meets: `orders.initialize()`, the workers it stops and creates, and the
    webhook worker. -/
structure Applying where
  initializes : Bool
  stopping : String → Stopping
  creates : String → Bool
  webhooks : Bool

/-- An account that has a worker. -/
def AccountSnapshot.collects (account : AccountSnapshot) : Bool :=
  account.production && account.providerAccountKey.any fun key => key ≠ ""

/-- The account of a worker, as it is now, and the worker fit together. -/
def Controller.keeps (c : Controller) (paymentRevision : Nat) (id : String) (worker : AccountWorker) : Bool :=
  ((lookup id c.accounts).any fun account => account.collects && account.revision = worker.account.revision) &&
    c.snapshot = some paymentRevision

/-- The first loop: workers that do not fit are stopped. -/
def keepWorkers (keeps : String → AccountWorker → Bool) (stopping : String → Stopping) :
    List (String × AccountWorker) → List (String × AccountWorker) × Bool
  | [] => ([], true)
  | (id, worker) :: rest =>
    if keeps id worker then ((id, worker) :: (keepWorkers keeps stopping rest).1, (keepWorkers keeps stopping rest).2)
    else if worker.stops (stopping id) then keepWorkers keeps stopping rest
    else ((id, worker.idle (stopping id)) :: rest, false)

/-- The second loop: what is missing is created. -/
def createWorkers (wanted : String → AccountSnapshot → Bool) (creates : String → Bool) :
    List (String × AccountSnapshot) → List (String × AccountWorker) → List (String × AccountWorker) × Bool
  | [], workers => (workers, true)
  | (id, account) :: rest, workers =>
    if wanted id account && (lookup id workers).isNone then
      if creates id then createWorkers wanted creates rest (workers ++ [(id, ⟨account, false, none, false⟩)])
      else (workers, false)
    else createWorkers wanted creates rest workers

/-- Between the loops: the reconciliation scheduler, and the snapshot. -/
def Controller.installReconciliation (paymentRevision : Nat) (c : Controller) : Controller :=
  { c with
    reconciliationScheduler :=
      if c.reconciliationScheduler.isNone && c.started && !c.stopped then some ⟨paymentRevision, false, none⟩
      else c.reconciliationScheduler
    snapshot := some paymentRevision }

def Controller.wants (c : Controller) (id : String) (account : AccountSnapshot) : Bool :=
  account.collects && !c.accountTransitions.contains id && !c.stopped

def Controller.createMissing (applying : Applying) (c : Controller) : Controller :=
  match createWorkers c.wants applying.creates c.accounts c.accountWorkers with
  | (workers, false) => { c with accountWorkers := workers }
  | (workers, true) =>
    if applying.webhooks then { c with accountWorkers := workers, transitioning := false }
    else { c with accountWorkers := workers }

/-- `#applyMultiAccountSnapshot` -/
def Controller.applySnapshot (paymentRevision : Nat) (applying : Applying) (c : Controller) : Controller :=
  if applying.initializes then
    match keepWorkers (c.keeps paymentRevision) applying.stopping c.accountWorkers with
    | (workers, false) => { c with accountWorkers := workers }
    | (workers, true) =>
      (({ c with accountWorkers := workers } : Controller).installReconciliation paymentRevision).createMissing applying
  else c

/-- `beginAccountTransition`: it resolves unless the worker of the account does not stop. -/
def Controller.beginAccountTransition (id : String) (stopping : Stopping) (c : Controller) : Controller × Bool :=
  match lookup id c.accountWorkers with
  | none => ({ c with accountTransitions := id :: c.accountTransitions }, true)
  | some worker =>
    if worker.stops stopping then
      ({ c with
        accountTransitions := id :: c.accountTransitions
        pausedAccountHealth := park id (worker.idle stopping).health c.pausedAccountHealth
        accountWorkers := c.accountWorkers.filter fun e => e.1 ≠ id }, true)
    else
      ({ c with
        accountTransitions := id :: c.accountTransitions
        accountWorkers := c.accountWorkers.map fun e => if e.1 = id then (id, worker.idle stopping) else e }, false)

/-- The transition of the account is over, and the health parked of it forgotten. -/
def Controller.endTransition (id : String) (c : Controller) : Controller :=
  { c with
    accountTransitions := c.accountTransitions.filter fun x => x ≠ id
    pausedAccountHealth := fun x => if x = id then none else c.pausedAccountHealth x }

/-- `applyAccounts` -/
def Controller.applyAccounts (id : String) (applying : Applying) (c : Controller) : Controller :=
  match c.snapshot with
  | none => c.endTransition id
  | some paymentRevision =>
    if c.transitioning || c.stopped then c.endTransition id
    else (c.endTransition id).applySnapshot paymentRevision applying

/-! ## The guard -/

/-- What the guard reads of the database, about one provider account. -/
structure SwitchFacts where
  ledgerEntries : Nat
  openOrders : Nat
  latestEndedOrderAt : Option Nat
  runningScans : Nat
  deriving DecidableEq, Repr

def isFresh (lastSuccessAt : Option Nat) (now maximumAge : Nat) : Bool :=
  lastSuccessAt.any fun at_ => at_ ≤ now && now - at_ ≤ maximumAge

/-- `lastSuccessAt === null || lastSuccessAt < latestEndedOrderAt` -/
def before (lastSuccessAt : Option Nat) (latestEndedOrderAt : Nat) : Bool :=
  lastSuccessAt.all fun at_ => at_ < latestEndedOrderAt

def Controller.reconciliationHealth (c : Controller) : RevisionedHealth :=
  (c.reconciliationScheduler.map (·.health)).getD disabledHealth

/-- What the guard takes for the health of the account's worker. -/
def Controller.guardLedgerHealth (c : Controller) (id : String) : RevisionedHealth :=
  ((c.pausedAccountHealth id).or ((lookup id c.accountWorkers).map (·.health))).getD disabledHealth

def Controller.guardReconciliationHealth (c : Controller) : RevisionedHealth :=
  c.pausedReconciliationHealth.getD c.reconciliationHealth

/-- The last checks, of the final collection and confirmation. -/
def checkFinal (facts : SwitchFacts) (now : Nat) (account : AccountSnapshot) (ledger reconciliation : RevisionedHealth) :
    Except String Unit :=
  if (account.maximumSuccessAge.all fun maximumAge =>
      !isFresh ledger.lastSuccessAt now maximumAge || !isFresh reconciliation.lastSuccessAt now maximumAge ||
        ledger.paymentRevision ≠ some account.revision) then
    .error "切换前需要当前查账账户完成近期查账和自动确认收款"
  else if (facts.latestEndedOrderAt.any fun ended =>
      before ledger.lastSuccessAt ended || before reconciliation.lastSuccessAt ended) then
    .error "最近结束的未支付订单尚未经过查账和自动确认收款复核"
  else .ok ()

/-- `assertAccountProviderSwitchAllowed` -/
def Controller.assertAccountProviderSwitchAllowed (facts : SwitchFacts) (now : Nat) (id : String)
    (account : AccountSnapshot) (c : Controller) : Except String Unit :=
  if c.snapshot.isNone then .error "收款服务尚未启动，请稍后重试。"
  else if account.providerAccountKey.all fun key => key = "" then .ok ()
  else if 0 < facts.openOrders then .error "当前查账账户仍有未支付订单"
  else if 0 < facts.runningScans || (c.guardLedgerHealth id).inFlight then .error "当前查账或自动确认收款任务尚未结束"
  else if facts.ledgerEntries = 0 && facts.latestEndedOrderAt.isNone then .ok ()
  else checkFinal facts now account (c.guardLedgerHealth id) c.guardReconciliationHealth

/-! ## The system -/

inductive Action
  | start (paymentRevision : Nat) (applying : Applying)
  | apply (paymentRevision : Nat) (applying : Applying)
  | beginPaymentTransition (pausing : Pausing)
  | beginAccountTransition (id : String) (stopping : Stopping)
  | applyAccounts (id : String) (applying : Applying)
  | stop
  | scanStarts (id : String)
  | scanEnds (id : String) (scan : ScanEnding)
  | reconciliationStarts
  | reconciliationEnds (succeededAt : Option Nat)
  | writeAccounts (accounts : List (String × AccountSnapshot))

def updateWorker (id : String) (f : AccountWorker → AccountWorker) (workers : List (String × AccountWorker)) :
    List (String × AccountWorker) :=
  workers.map fun e => if e.1 = id then (id, f e.2) else e

/-- One step; the calls that are refused once the controller is stopped leave it as it is. -/
def Controller.step (c : Controller) : Action → Controller
  | .start paymentRevision applying =>
    if c.started || c.stopped then c else ({ c with started := true }).applySnapshot paymentRevision applying
  | .apply paymentRevision applying => if c.stopped then c else c.applySnapshot paymentRevision applying
  | .beginPaymentTransition pausing => if c.stopped then c else ({ c with transitioning := true }).pause pausing
  | .beginAccountTransition id stopping => (c.beginAccountTransition id stopping).1
  | .applyAccounts id applying => c.applyAccounts id applying
  | .stop => { c with stopped := true }
  | .scanStarts id => { c with accountWorkers := updateWorker id (fun w => { w with inFlight := true }) c.accountWorkers }
  | .scanEnds id scan => { c with accountWorkers := updateWorker id (·.scanEnds scan) c.accountWorkers }
  | .reconciliationStarts =>
    { c with reconciliationScheduler := c.reconciliationScheduler.map fun s => { s with inFlight := true } }
  | .reconciliationEnds succeededAt =>
    { c with reconciliationScheduler := c.reconciliationScheduler.map (·.runEnds succeededAt) }
  | .writeAccounts accounts => { c with accounts }

def system : Runs.System Controller Action where
  init c := c = Controller.initial
  step c action c' := c' = c.step action

end PerPay.Runtime.Switching
