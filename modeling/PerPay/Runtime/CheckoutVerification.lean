/-
  **Checkout verifications** (`runtime/checkout-verification.ts`).

  A verification scans until a scan has covered the normal window, and then reconciles its order; it runs in
  the background, and callers ask for its progress.  The entries that were made are kept here by their number,
  which stands for their `id`; the map of the verifier holds the ones that can still be asked for.

  Every reading of the clock is given apart, with what the scheduler and `stillCurrent` answer.
-/
import PerPay.Lib.Runs
import PerPay.Ledger.Model
import PerPay.Scanning.Scheduler

namespace PerPay.Runtime

open Ledger Scanning

/-! ## Scans -/

/-- How a run of `LedgerIngestService` ends: nothing to scan, a failure, the budget of requests, or the window
    whose root segment was completed.  It looks at the cursors then: is the other lane incomplete, is the
    cursor of the normal window behind? -/
inductive ScanEnd
  | skipped
  | failed (errorCode : Option String) (retryAfterSeconds : Option Nat) (retryable cooldownActive : Bool)
  | budgetExhausted
  | rootCompleted (scanKind : IngestScanKind) (compensationIncomplete normalPending : Bool)
  deriving DecidableEq, Repr

def ScanEnd.compensationPending (scanKind : IngestScanKind) (compensationIncomplete : Bool) : Bool :=
  scanKind = .NORMAL && compensationIncomplete

def ScanEnd.result : ScanEnd → LedgerScanResult
  | .skipped => ⟨.SKIPPED, none, none, false, false, false⟩
  | .failed errorCode retryAfterSeconds retryable cooldownActive =>
    ⟨.FAILED, errorCode, retryAfterSeconds, retryable, false, cooldownActive⟩
  | .budgetExhausted => ⟨.PARTIAL, some "request_budget_exhausted", none, false, false, false⟩
  | .rootCompleted scanKind compensationIncomplete normalPending =>
    ⟨if compensationPending scanKind compensationIncomplete || normalPending then .PARTIAL else .COMPLETED,
      if normalPending then some "normal_continuation"
        else if compensationPending scanKind compensationIncomplete then some "compensation_continuation" else none,
      none, false, scanKind = .NORMAL && !normalPending, false⟩

/-- The scan ended with a normal window that is complete. -/
def ScanEnd.NormalComplete : ScanEnd → Prop
  | .rootCompleted _ _ normalPending => normalPending = false
  | _ => False

/-! ## Entries -/

inductive CheckoutVerificationState
  | WAITING | SCANNING | RECONCILING | COMPLETED | FAILED
  deriving DecidableEq, Repr

structure CheckoutVerification where
  state : CheckoutVerificationState
  requestedAt : Int
  retryAfterSeconds : Int
  deriving DecidableEq, Repr

/-- What `#run` waits for: a scan, `setImmediate` after it, or the reconciliation. -/
inductive RunStage
  | scanning (round : Nat)
  | yielding (round : Nat)
  | reconciling
  | ended
  deriving DecidableEq, Repr

structure VerificationEntry where
  orderId : String
  value : CheckoutVerification
  finishedAt : Option Int
  stage : RunStage
  deriving DecidableEq, Repr

/-- What happened, for the record. -/
inductive VerificationEvent
  | requested (id : Nat) (orderId : String)
  | checked (id : Nat) (current : Bool)
  | scanned (id : Nat) (scan : ScanEnd)
  | orderVerified (id : Nat) (orderId : String)
  deriving DecidableEq, Repr

structure CheckoutVerifier where
  made : List VerificationEntry
  /-- `#entries`, in the order of a `Map` -/
  entries : List (String × Nat)
  /-- newest first -/
  log : List VerificationEvent
  deriving DecidableEq, Repr

namespace CheckoutVerifier

def empty : CheckoutVerifier := ⟨[], [], []⟩

/-- `#entries.get` -/
def entryFor (verifier : CheckoutVerifier) (orderId : String) : Option VerificationEntry :=
  (verifier.entries.find? fun e => e.1 = orderId).bind fun e => verifier.made[e.2]?

/-- `#entries.delete` -/
def delete (verifier : CheckoutVerifier) (orderId : String) : CheckoutVerifier :=
  { verifier with entries := verifier.entries.filter fun e => e.1 ≠ orderId }

def setKey (orderId : String) (id : Nat) : List (String × Nat) → List (String × Nat)
  | [] => [(orderId, id)]
  | e :: es => if e.1 = orderId then (orderId, id) :: es else e :: setKey orderId id es

def modify (id : Nat) (f : VerificationEntry → VerificationEntry) (verifier : CheckoutVerifier) : CheckoutVerifier :=
  { verifier with made := verifier.made.modify id f }

def record (event : VerificationEvent) (verifier : CheckoutVerifier) : CheckoutVerifier :=
  { verifier with log := event :: verifier.log }

/-! ## `get` -/

/-- What a call of `get` reads: the clock up to three times, and the scheduler of the entry. -/
structure Shown where
  clock : Int
  inFlight : Bool
  nextRunAt : Option Int
  fallback : Int
  now : Int
  deriving DecidableEq, Repr

/-- `Math.ceil` of milliseconds in seconds -/
def ceilSeconds (milliseconds : Int) : Int := -(-milliseconds / 1000)

def expired (clock : Int) (entry : VerificationEntry) : Bool :=
  entry.finishedAt.any fun finishedAt => clock - finishedAt > 300000

def progress (shown : Shown) (value : CheckoutVerification) : CheckoutVerification :=
  if value.state = .WAITING then
    { value with
      state := if shown.inFlight then .SCANNING else .WAITING
      retryAfterSeconds := max 1 (ceilSeconds (shown.nextRunAt.getD shown.fallback - shown.now)) }
  else value

def get (orderId : String) (shown : Shown) (verifier : CheckoutVerifier) :
    Option CheckoutVerification × CheckoutVerifier :=
  match verifier.entryFor orderId with
  | none => (none, verifier)
  | some entry =>
    if expired shown.clock entry then (none, verifier.delete orderId)
    else (some (progress shown entry.value), verifier)

/-! ## `request` -/

/-- What a call of `request` reads besides: the clock for the throttle, for each finished entry, for the new
    entry, and for its end if it ends at once; and whether the runtime is still current. -/
structure Asked where
  throttle : Int
  sweep : String → Int
  requestedAt : Int
  stillCurrent : Bool
  finishedAt : Int
  shown : Shown

inductive Answer
  | capacityExceeded
  | verification (value : Option CheckoutVerification)
  deriving DecidableEq, Repr

def throttled (clock : Int) (entry : VerificationEntry) : Bool :=
  entry.finishedAt.isNone || clock - entry.value.requestedAt < 5000

/-- The loop that deletes expired entries. -/
def sweep (clock : String → Int) (verifier : CheckoutVerifier) : CheckoutVerifier :=
  { verifier with entries := verifier.entries.filter fun e => !(verifier.made[e.2]?).any (expired (clock e.1)) }

def finishedAt? (verifier : CheckoutVerifier) (id : Nat) : Option Int := (verifier.made[id]?).bind (·.finishedAt)

/-- One round of the search for the oldest entry that is finished. -/
def older (verifier : CheckoutVerifier) (oldest : Option (String × Int)) (e : String × Nat) : Option (String × Int) :=
  match verifier.finishedAt? e.2, oldest with
  | none, oldest => oldest
  | some finishedAt, none => some (e.1, finishedAt)
  | some finishedAt, some (orderId, oldestFinishedAt) =>
    if finishedAt < oldestFinishedAt then some (e.1, finishedAt) else some (orderId, oldestFinishedAt)

def oldestFinished (verifier : CheckoutVerifier) : Option (String × Int) := verifier.entries.foldl verifier.older none

/-- The expired entries are gone, and there is room for a new order. -/
def makeRoom (orderId : String) (clock : String → Int) (verifier : CheckoutVerifier) : Option CheckoutVerifier :=
  if (verifier.entryFor orderId).isNone && 256 ≤ (verifier.sweep clock).entries.length then
    (verifier.sweep clock).oldestFinished.map fun oldest => (verifier.sweep clock).delete oldest.1
  else some (verifier.sweep clock)

/-- The `catch` and the `finally` of `#run` -/
def fail (id : Nat) (clock : Int) (verifier : CheckoutVerifier) : CheckoutVerifier :=
  verifier.modify id fun entry =>
    { entry with value := { entry.value with state := .FAILED, retryAfterSeconds := 0 }, finishedAt := some clock, stage := .ended }

def setStage (id : Nat) (stage : RunStage) (verifier : CheckoutVerifier) : CheckoutVerifier :=
  verifier.modify id fun entry => { entry with stage }

/-- `if (!stillCurrent()) throw`, and what follows when it is. -/
def check (id : Nat) (current : Bool) (clock : Int) (next : CheckoutVerifier → CheckoutVerifier)
    (verifier : CheckoutVerifier) : CheckoutVerifier :=
  if current then next (verifier.record (.checked id true)) else fail id clock (verifier.record (.checked id false))

/-- The new entry and the start of its run, up to its first wait. -/
def create (orderId : String) (asked : Asked) (verifier : CheckoutVerifier) : CheckoutVerifier :=
  check verifier.made.length asked.stillCurrent asked.finishedAt (setStage verifier.made.length (.scanning 0))
    { made := verifier.made ++ [⟨orderId, ⟨.WAITING, asked.requestedAt, 1⟩, none, .scanning 0⟩]
      entries := setKey orderId verifier.made.length verifier.entries
      log := .requested verifier.made.length orderId :: verifier.log }

def answer (result : Option CheckoutVerification × CheckoutVerifier) : Answer × CheckoutVerifier :=
  (.verification result.1, result.2)

def request (orderId : String) (asked : Asked) (verifier : CheckoutVerifier) : Answer × CheckoutVerifier :=
  if (verifier.entryFor orderId).any (throttled asked.throttle) then answer (get orderId asked.shown verifier)
  else
    match verifier.makeRoom orderId asked.sweep with
    | none => (.capacityExceeded, verifier.sweep asked.sweep)
    | some verifier => answer (get orderId asked.shown (create orderId asked verifier))

/-! ## `#run` -/

/-- `result.status === "COMPLETED" || (result.status === "PARTIAL" && result.normalCompleted)` -/
def complete (result : LedgerScanResult) : Bool :=
  result.status = .COMPLETED || (result.status = .PARTIAL && result.normalCompleted)

def startReconciling (id : Nat) (verifier : CheckoutVerifier) : CheckoutVerifier :=
  verifier.modify id fun entry =>
    { entry with value := { entry.value with state := .RECONCILING }, stage := .reconciling }

def succeed (id : Nat) (clock : Int) (verifier : CheckoutVerifier) : CheckoutVerifier :=
  verifier.modify id fun entry =>
    { entry with value := { entry.value with state := .COMPLETED, retryAfterSeconds := 0 }, finishedAt := some clock, stage := .ended }

/-- What follows a scan while the runtime is current. -/
def afterScan (id round : Nat) (scan : ScanEnd) (clock : Int) (verifier : CheckoutVerifier) : CheckoutVerifier :=
  if complete scan.result then startReconciling id verifier
  else if scan.result.status = .PARTIAL then setStage id (.yielding round) verifier
  else fail id clock verifier

/-- `trigger("checkout_check")` settles. -/
def scanSettled (id round : Nat) (scan : Option ScanEnd) (current : Bool) (clock : Int) (verifier : CheckoutVerifier) :
    CheckoutVerifier :=
  match scan with
  | none => fail id clock verifier
  | some scan => check id current clock (afterScan id round scan clock) (verifier.record (.scanned id scan))

/-- The next round, if there is one. -/
def yielded (id round : Nat) (current : Bool) (clock : Int) (verifier : CheckoutVerifier) : CheckoutVerifier :=
  if round + 1 < 32 then check id current clock (setStage id (.scanning (round + 1))) verifier
  else fail id clock verifier

/-- `reconcile()`: `verifyOrder`, and `adminGet` after it. -/
inductive Reconciliation
  | verifyRejects
  | adminGetThrows
  | resolves
  deriving DecidableEq, Repr

def reconciled (id : Nat) (orderId : String) (reconciliation : Reconciliation) (current : Bool) (clock : Int)
    (verifier : CheckoutVerifier) : CheckoutVerifier :=
  match reconciliation with
  | .verifyRejects => fail id clock verifier
  | .adminGetThrows => fail id clock (verifier.record (.orderVerified id orderId))
  | .resolves => check id current clock (succeed id clock) (verifier.record (.orderVerified id orderId))

/-! ## Runs -/

inductive Action
  | get (orderId : String) (shown : Shown)
  | request (orderId : String) (asked : Asked)
  | scanSettled (id : Nat) (scan : Option ScanEnd) (current : Bool) (clock : Int)
  | yielded (id : Nat) (current : Bool) (clock : Int)
  | reconciled (id : Nat) (reconciliation : Reconciliation) (current : Bool) (clock : Int)

/-- A run goes on from what it waits for. -/
inductive Step (verifier : CheckoutVerifier) : Action → CheckoutVerifier → Prop
  | get (orderId : String) (shown : Shown) : Step verifier (.get orderId shown) (get orderId shown verifier).2
  | request (orderId : String) (asked : Asked) : Step verifier (.request orderId asked) (request orderId asked verifier).2
  | scanSettled {id round : Nat} {entry : VerificationEntry} (scan : Option ScanEnd) (current : Bool) (clock : Int)
      (hentry : verifier.made[id]? = some entry) (hstage : entry.stage = .scanning round) :
      Step verifier (.scanSettled id scan current clock) (scanSettled id round scan current clock verifier)
  | yielded {id round : Nat} {entry : VerificationEntry} (current : Bool) (clock : Int)
      (hentry : verifier.made[id]? = some entry) (hstage : entry.stage = .yielding round) :
      Step verifier (.yielded id current clock) (yielded id round current clock verifier)
  | reconciled {id : Nat} {entry : VerificationEntry} (reconciliation : Reconciliation) (current : Bool) (clock : Int)
      (hentry : verifier.made[id]? = some entry) (hstage : entry.stage = .reconciling) :
      Step verifier (.reconciled id reconciliation current clock)
        (reconciled id entry.orderId reconciliation current clock verifier)

def system : Runs.System CheckoutVerifier Action where
  init verifier := verifier = empty
  step := Step

end CheckoutVerifier

end PerPay.Runtime
