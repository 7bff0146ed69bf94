/-
  **The runtime controller** in multi-account mode (`runtime/controller.ts`, with the schedulers of
  `ledger/scheduler.ts` and `reconciliation/scheduler.ts` as far as starting and stopping goes).

  The calls put operations into a queue, and one operation runs at a time.  It waits where a scheduler is
  stopped and where the webhook worker is replaced; in the meantime other calls come in, accounts change, and
  the controller may be stopped.  What stopping takes and whether it succeeds is given with the step.

  Accounts change as `AlipayAccountService` changes them: what a worker is built from changes between
  `beginAccountTransition` and the operation of `applyAccounts`, or with an account that is new.  Timing settings,
  webhooks, health and manual scans are left out.
-/
import PerPay.Lib.Runs
import Mathlib.Data.List.AList

namespace PerPay.Runtime

/-! ## Accounts -/

inductive AlipayEnvironment
  | PRODUCTION | SANDBOX
  deriving DecidableEq, Repr

/-- What a provider client signs and checks with. -/
structure ProviderSettings where
  environment : AlipayEnvironment
  productionEndpoint : Bool
  appId : String
  privateKey : String
  publicKey : String
  deriving DecidableEq, Repr

/-- `isProductionProvider` -/
def isProductionProvider (provider : Option ProviderSettings) : Bool :=
  provider.any fun p => p.environment = .PRODUCTION && p.productionEndpoint

/-- `AlipayAccountSnapshot`; a row that was removed stays, and is no snapshot any more. -/
structure AlipayAccount where
  revision : Nat
  environment : AlipayEnvironment
  provider : Option ProviderSettings
  providerAccountKey : Option String
  removed : Bool
  deriving DecidableEq, Repr

/-- What the worker of an account is built from, when the account is to have one. -/
def AlipayAccount.target (a : AlipayAccount) : Option (ProviderSettings × String) :=
  if a.environment = .PRODUCTION && isProductionProvider a.provider && !a.removed then
    a.provider.bind fun provider => a.providerAccountKey.map fun key => (provider, key)
  else none

/-! ## Schedulers -/

structure LedgerScheduler where
  provider : ProviderSettings
  providerAccountKey : String
  started : Bool
  stopped : Bool
  deriving DecidableEq, Repr

/-- Started and not stopped -/
def LedgerScheduler.isLive (s : LedgerScheduler) : Bool := s.started && !s.stopped

structure ReconciliationScheduler where
  started : Bool
  stopped : Bool
  deriving DecidableEq, Repr

def ReconciliationScheduler.isLive (s : ReconciliationScheduler) : Bool := s.started && !s.stopped

def ReconciliationScheduler.stop (s : ReconciliationScheduler) : ReconciliationScheduler := { s with stopped := true }

structure AccountWorker where
  account : AlipayAccount
  scheduler : LedgerScheduler
  deriving DecidableEq, Repr

/-- `scheduler.stop()`, up to its wait; it may still fail after that. -/
def AccountWorker.stop (worker : AccountWorker) : AccountWorker :=
  { worker with scheduler := { worker.scheduler with stopped := true } }

abbrev Accounts := AList fun _ : String => AlipayAccount

abbrev Workers := AList fun _ : String => AccountWorker

/-! ## Operations -/

inductive Operation
  | apply (paymentRevision : Nat)
  | pause
  | stopAccount (accountId : String)
  | applyAccounts (accountId : String)
  deriving DecidableEq, Repr

/-- What `#applyMultiAccountSnapshot` holds over its waits. -/
structure Application where
  accounts : Accounts
  previous : Option Nat
  paymentRevision : Nat

/-- Where the running operation is. -/
inductive Stage
  /-- the loop that stops what cannot be kept, and its wait -/
  | keeping (application : Application) (rest : List String)
  | stoppingWorker (application : Application) (accountId : String) (rest : List String)
  /-- the loop that creates what is missing -/
  | creating (application : Application) (rest : List String)
  | webhooks (application : Application)
  /-- `#stopPaymentSchedulers` -/
  | pausing (rest : List String)
  | pausingWorker (accountId : String) (rest : List String)
  | pausingReconciliation (held : Option ReconciliationScheduler)
  /-- `beginAccountTransition` -/
  | stoppingAccount (accountId : String)

structure Controller where
  accounts : Accounts
  workers : Workers
  /-- ledger schedulers that are in no worker any more, with their accounts -/
  retired : List (String × LedgerScheduler)
  accountTransitions : List String
  reconciliationScheduler : Option ReconciliationScheduler
  retiredReconciliations : List ReconciliationScheduler
  /-- `paymentRevision` of `#snapshot` -/
  snapshot : Option Nat
  started : Bool
  stopped : Bool
  transitioning : Bool
  queue : List Operation
  running : Option Stage
  /-- the last operation was an apply or applyAccounts, and it succeeded -/
  applied : Bool

def Controller.initial : Controller := ⟨∅, ∅, [], [], none, [], none, false, false, false, [], none, false⟩

/-! ## What operations do to the workers -/

/-- The worker of an account, if there is one, begins to stop. -/
def Controller.markStopped (c : Controller) (accountId : String) : Controller :=
  match c.workers.lookup accountId with
  | none => c
  | some worker => { c with workers := c.workers.replace accountId worker.stop }

/-- `#accountWorkers.delete` -/
def Controller.deleteWorker (c : Controller) (accountId : String) : Controller :=
  match c.workers.lookup accountId with
  | none => c
  | some worker =>
    { c with workers := c.workers.erase accountId, retired := c.retired ++ [(accountId, worker.scheduler)] }

/-- The operation is over; the next may start. -/
def Controller.finish (c : Controller) (applied : Bool) : Controller := { c with running := none, applied := applied }

def Controller.continueWith (c : Controller) (stage : Stage) : Controller := { c with running := some stage }

/-- The account of a worker, as it was read, and the worker fit together. -/
def Application.keeps (application : Application) (accountId : String) (worker : AccountWorker) : Bool :=
  ((application.accounts.lookup accountId).any fun account =>
    account.target.isSome && account.revision = worker.account.revision) &&
  application.previous = some application.paymentRevision

/-- `#applyMultiAccountSnapshot`, up to the first loop; `orders.initialize()` may fail. -/
def Controller.beginApplication (c : Controller) (paymentRevision : Nat) (succeeds : Bool) : Controller :=
  if succeeds then c.continueWith (.keeping ⟨c.accounts, c.snapshot, paymentRevision⟩ c.workers.keys)
  else c.finish false

/-- One turn of the first loop -/
def Controller.keepWorker (c : Controller) (application : Application) (accountId : String) (rest : List String) : Controller :=
  match c.workers.lookup accountId with
  | none => c.continueWith (.keeping application rest)
  | some worker =>
    if application.keeps accountId worker then c.continueWith (.keeping application rest)
    else (c.markStopped accountId).continueWith (.stoppingWorker application accountId rest)

/-- Between the loops: the reconciliation scheduler, and the snapshot. -/
def Controller.installReconciliation (c : Controller) (application : Application) : Controller :=
  { c with
      reconciliationScheduler :=
        if c.reconciliationScheduler.isNone && c.started && !c.stopped then some ⟨true, false⟩ else c.reconciliationScheduler
      snapshot := some application.paymentRevision
      running := some (.creating application application.accounts.keys) }

/-- One turn of the second loop; `#createLedgerScheduler` may fail. -/
def Controller.createWorker (c : Controller) (application : Application) (accountId : String) (rest : List String)
    (succeeds : Bool) : Controller :=
  match (application.accounts.lookup accountId).bind fun account => account.target.map fun target => (account, target) with
  | none => c.continueWith (.creating application rest)
  | some (account, provider, key) =>
    if (c.workers.lookup accountId).isSome || c.accountTransitions.contains accountId || c.stopped then
      c.continueWith (.creating application rest)
    else if succeeds then
      ({ c with workers := c.workers.insert accountId ⟨account, provider, key, true, false⟩ }).continueWith
        (.creating application rest)
    else c.finish false

/-- One turn of the loop in `#stopPaymentSchedulers` -/
def Controller.pauseWorker (c : Controller) (accountId : String) (rest : List String) : Controller :=
  match c.workers.lookup accountId with
  | none => c.continueWith (.pausing rest)
  | some _ => (c.markStopped accountId).continueWith (.pausingWorker accountId rest)

/-- `#reconciliationScheduler = null`, and its `stop()` up to its wait -/
def Controller.pauseReconciliation (c : Controller) : Controller :=
  { c with
      reconciliationScheduler := none
      running := some (.pausingReconciliation (c.reconciliationScheduler.map (·.stop))) }

/-- A scheduler whose stop failed is kept. -/
def Controller.settleReconciliation (c : Controller) (held : Option ReconciliationScheduler) (succeeds : Bool) : Controller :=
  if succeeds then { c.finish false with retiredReconciliations := c.retiredReconciliations ++ held.toList }
  else { c.finish false with
           reconciliationScheduler := held
           retiredReconciliations := c.retiredReconciliations ++ c.reconciliationScheduler.toList }

/-- The operation of `beginAccountTransition` -/
def Controller.stopAccount (c : Controller) (accountId : String) : Controller :=
  match c.workers.lookup accountId with
  | none => c.finish false
  | some _ => (c.markStopped accountId).continueWith (.stoppingAccount accountId)

/-- `#accountTransitions.delete` -/
def Controller.endTransition (c : Controller) (accountId : String) : Controller :=
  { c with accountTransitions := c.accountTransitions.filter fun id => id ≠ accountId }

/-- The operation of `applyAccounts`, after that -/
def Controller.applyAgain (c : Controller) (succeeds : Bool) : Controller :=
  match c.snapshot with
  | none => c.finish true
  | some paymentRevision =>
    if c.transitioning || c.stopped then c.finish true else c.beginApplication paymentRevision succeeds

/-- The first part of an operation that is taken from the queue -/
def Controller.beginOperation (c : Controller) (succeeds : Bool) : Operation → Controller
  | .apply paymentRevision => c.beginApplication paymentRevision succeeds
  | .pause => c.continueWith (.pausing c.workers.keys)
  | .stopAccount accountId => c.stopAccount accountId
  | .applyAccounts accountId => (c.endTransition accountId).applyAgain succeeds

/-- The next part of the running operation, or the first of the next one. -/
def Controller.advance (c : Controller) (succeeds : Bool) : Option Controller :=
  match c.running with
  | none =>
    match c.queue with
    | [] => none
    | operation :: rest => some (({ c with queue := rest, applied := false }).beginOperation succeeds operation)
  | some (.keeping application (accountId :: rest)) => some (c.keepWorker application accountId rest)
  | some (.keeping application []) => some (c.installReconciliation application)
  | some (.stoppingWorker application accountId rest) =>
    some (if succeeds then (c.deleteWorker accountId).continueWith (.keeping application rest) else c.finish false)
  | some (.creating application (accountId :: rest)) => some (c.createWorker application accountId rest succeeds)
  | some (.creating application []) => some (c.continueWith (.webhooks application))
  | some (.webhooks _) => some (if succeeds then { c.finish true with transitioning := false } else c.finish false)
  | some (.pausing (accountId :: rest)) => some (c.pauseWorker accountId rest)
  | some (.pausing []) => some c.pauseReconciliation
  | some (.pausingWorker accountId rest) =>
    some (if succeeds then (c.deleteWorker accountId).continueWith (.pausing rest) else c.finish false)
  | some (.pausingReconciliation held) => some (c.settleReconciliation held succeeds)
  | some (.stoppingAccount accountId) =>
    some (if succeeds then (c.deleteWorker accountId).finish false else c.finish false)

/-! ## The system -/

inductive Call
  | start (paymentRevision : Nat)
  | apply (paymentRevision : Nat)
  | beginPaymentTransition
  | beginAccountTransition (accountId : String)
  | applyAccounts (accountId : String)
  | stop
  /-- the queue makes progress; what can fail there succeeds or not -/
  | advance (succeeds : Bool)
  /-- `stop()` goes on beside the queue: it stops a worker, deletes it, and stops the reconciliation scheduler -/
  | stopWorker (accountId : String)
  | deleteWorker (accountId : String)
  | stopReconciliation (succeeds : Bool)
  /-- a new account, for which `applyAccounts` is called at once -/
  | createAccount (accountId : String) (account : AlipayAccount)
  /-- an account is written -/
  | writeAccount (accountId : String) (account : AlipayAccount)

def Controller.enqueue (c : Controller) (operation : Operation) : Controller := { c with queue := c.queue ++ [operation] }

/-- What `AlipayAccountService` may write: the next revisions, and other keys only in a transition of the account. -/
def Controller.mayWrite (c : Controller) (accountId : String) (account : AlipayAccount) : Bool :=
  (c.accounts.lookup accountId).any fun current =>
    current.revision < account.revision && (c.accountTransitions.contains accountId || current.target = account.target)

def controllerStep (c : Controller) : Call → Option Controller
  | .start paymentRevision =>
    if c.started || c.stopped then none else some (({ c with started := true }).enqueue (.apply paymentRevision))
  | .apply paymentRevision => if c.stopped then none else some (c.enqueue (.apply paymentRevision))
  | .beginPaymentTransition => if c.stopped then none else some (({ c with transitioning := true }).enqueue .pause)
  | .beginAccountTransition accountId =>
    some (({ c with accountTransitions := accountId :: c.accountTransitions }).enqueue (.stopAccount accountId))
  | .applyAccounts accountId => some (c.enqueue (.applyAccounts accountId))
  | .stop => some { c with stopped := true }
  | .advance succeeds => c.advance succeeds
  | .stopWorker accountId => if c.stopped then some (c.markStopped accountId) else none
  | .deleteWorker accountId =>
    if c.stopped && ((c.workers.lookup accountId).any fun w => w.scheduler.stopped) then some (c.deleteWorker accountId) else none
  | .stopReconciliation succeeds =>
    if c.stopped then
      some { c with
        reconciliationScheduler := if succeeds then none else c.reconciliationScheduler.map (·.stop)
        retiredReconciliations := c.retiredReconciliations ++
          if succeeds then (c.reconciliationScheduler.map (·.stop)).toList else [] }
    else none
  | .createAccount accountId account =>
    if (c.accounts.lookup accountId).isNone then
      some (({ c with accounts := c.accounts.insert accountId account }).enqueue (.applyAccounts accountId))
    else none
  | .writeAccount accountId account =>
    if c.mayWrite accountId account then some { c with accounts := c.accounts.replace accountId account } else none

def controllerSystem : Runs.System Controller Call where
  init c := c = Controller.initial
  step c call c' := controllerStep c call = some c'

end PerPay.Runtime
