/-
  **The gate in front of the name resolution** (`notifications/transport.ts`, `DnsResolutionGate`).

  At most `maximum` resolutions run at once; a call of `run` beyond that waits, until a slot is free, its
  deadline has passed or its signal is aborted.  A slot belongs to the promise of the resolver, not to the
  caller: a caller that is rejected leaves its resolution running, and only the callback of the resolver's
  promise gives the slot back.

  1. **Code** — the gate with the closures of its waiters, and one label for everything that can happen
     next: a call, an event of a signal or a timer, a job of a promise, an answer of the resolver.  Jobs and
     events come in any order.
  2. **The invariant** (`Inv`) — the active count is the number of calls that hold a slot; the queue holds
     the waiting calls in the order they came, each unsettled; and while someone waits every slot is taken.
  3. **The crux** — a slot that is given back while someone waits goes to the head of the queue, whose
     waiter is unsettled, so the loop of `#release` ends at once (`Inv.release`).
-/
import Mathlib.Data.List.Basic
import Mathlib.Data.Rat.Floor
import PerPay.Lib.Runs
import PerPay.Lib.Places

namespace PerPay.Notifications

/-! ## Source -/

structure WebhookTransportError where
  code : String
  message : String
  retryable : Bool
  deriving DecidableEq, Repr

def cancelledError : WebhookTransportError := ⟨"transport_cancelled", "通知请求被取消", true⟩

def timeoutError : WebhookTransportError := ⟨"transport_timeout", "通知请求超时", true⟩

/-- A call of `resolve` or `reject`. -/
inductive Settlement
  | granted
  | rejected (error : WebhookTransportError)
  deriving DecidableEq, Repr

/-- The closure of an `#acquire` that waits, with the calls of its `resolve` and `reject`. -/
structure DnsWaiter where
  settled : Bool
  timer : Bool
  listening : Bool
  settlements : List Settlement
  deriving DecidableEq, Repr

/-- What `cleanup` and the call of `resolve` or `reject` leave of a closure. -/
def DnsWaiter.settle (settlement : Settlement) (waiter : DnsWaiter) : DnsWaiter :=
  ⟨true, false, false, waiter.settlements ++ [settlement]⟩

/-- Where a call of `run` is. -/
inductive Phase
  /-- it waits in `#acquire` -/
  | acquiring
  /-- `#acquire` was rejected -/
  | refused (error : WebhookTransportError)
  /-- `#acquire` was fulfilled; the rest of `run` is a job -/
  | granted
  /-- `operation()` is being called -/
  | calling
  /-- the promise of the resolver is pending -/
  | resolving
  /-- the promise of the resolver is settled; its callback is a job -/
  | settling
  /-- the slot was given back -/
  | released
  deriving DecidableEq, Repr

/-- `withDeadline` is around a resolution that has started. -/
def Phase.underDeadline : Phase → Bool
  | .resolving | .settling | .released => true
  | _ => false

/-- A call of `run`: its signal, its waiter when it had to wait, and the `withDeadline` around its
    resolution: whether that is settled, and whether it cancelled the resolution. -/
structure DnsRun where
  phase : Phase
  signal : Bool
  waiter : Option DnsWaiter
  finished : Bool
  cancelled : Bool
  deriving DecidableEq, Repr

/-- The gate and the calls of `run`, in the order they came; a waiter stands in the queue as the place of
    its call.  `underflow` is set when the error of `#release` is thrown. -/
structure DnsResolutionGate where
  maximum : Nat
  waiters : List Nat
  active : Nat
  runs : List DnsRun
  underflow : Bool
  deriving DecidableEq, Repr

namespace DnsResolutionGate

/-- The constructor; `maximum` is an integer. -/
def new (maximum : Int) : Except String DnsResolutionGate :=
  if 9_007_199_254_740_991 < maximum.natAbs ∨ maximum < 1 then .error "DNS concurrency limit is invalid"
  else .ok ⟨maximum.toNat, [], 0, [], false⟩

def setRun (id : Nat) (run : DnsRun) (gate : DnsResolutionGate) : DnsResolutionGate :=
  { gate with runs := gate.runs.set id run }

/-- `rejectOnce` of a waiting call. -/
def rejectOnce (id : Nat) (error : WebhookTransportError) (gate : DnsResolutionGate) : DnsResolutionGate :=
  match gate.runs[id]? with
  | none => gate
  | some run =>
    match run.waiter with
    | none => gate
    | some waiter =>
      if waiter.settled then gate
      else { gate with
        waiters := gate.waiters.erase id
        runs := gate.runs.set id
          { run with phase := .refused error, waiter := some (DnsWaiter.settle (.rejected error) waiter) } }

/-- `grant` of a waiting call. -/
def grant (id : Nat) (gate : DnsResolutionGate) : Bool × DnsResolutionGate :=
  match gate.runs[id]? with
  | none => (false, gate)
  | some run =>
    match run.waiter with
    | none => (false, gate)
    | some waiter =>
      if waiter.settled then (false, gate)
      else (true, { gate with
        active := gate.active + 1
        runs := gate.runs.set id { run with phase := .granted, waiter := some (DnsWaiter.settle .granted waiter) } })

/-- The loop of `#release`: waiters are shifted off the queue until one takes the slot. -/
def handOn : List Nat → DnsResolutionGate → DnsResolutionGate
  | [], gate => { gate with waiters := [] }
  | id :: rest, gate =>
    if (grant id { gate with waiters := rest }).1 then (grant id { gate with waiters := rest }).2
    else handOn rest (grant id { gate with waiters := rest }).2

def release (gate : DnsResolutionGate) : DnsResolutionGate :=
  if gate.active < 1 then { gate with underflow := true }
  else handOn gate.waiters { gate with active := gate.active - 1 }

/-- `run`, up to its first `await`.  The readings of the clock are what is left of the deadline at the check and
    when the timer is set. -/
def acquire (signal aborted : Bool) (remaining remaining' : ℚ) (gate : DnsResolutionGate) : DnsResolutionGate :=
  let come (phase : Phase) (waiter : Option DnsWaiter) : List DnsRun := gate.runs ++ [⟨phase, signal, waiter, false, false⟩]
  if signal && aborted then { gate with runs := come (.refused cancelledError) none }
  else if remaining < 1 then { gate with runs := come (.refused timeoutError) none }
  else if gate.active < gate.maximum then { gate with active := gate.active + 1, runs := come .granted none }
  else if ⌊remaining'⌋ < 1 then
    rejectOnce gate.runs.length timeoutError
      { gate with waiters := gate.waiters ++ [gate.runs.length], runs := come .acquiring (some ⟨false, false, false, []⟩) }
  else
    { gate with waiters := gate.waiters ++ [gate.runs.length], runs := come .acquiring (some ⟨false, true, signal, []⟩) }

/-- `stop` of the `withDeadline` around a resolution: `finish` runs its callback once. -/
def stop (id : Nat) (run : DnsRun) (gate : DnsResolutionGate) : DnsResolutionGate :=
  if run.finished then gate else gate.setRun id { run with finished := true, cancelled := true }

/-! ## Steps -/

inductive Event
  /-- `run` is called -/
  | run (signal aborted : Bool) (remaining remaining' : ℚ)
  /-- the signal of a call is aborted -/
  | abort (id : Nat)
  /-- the timer of a waiting call fires -/
  | waitTimeout (id : Nat)
  /-- the job after `await this.#acquire()` -/
  | resume (id : Nat)
  /-- `operation()` returns a resolution, with a reading of the clock for `withDeadline` -/
  | operationReturns (id : Nat) (aborted : Bool) (remaining : ℚ)
  /-- `operation()` throws -/
  | operationThrows (id : Nat)
  /-- the promise of the resolver is fulfilled or rejected -/
  | resolverSettles (id : Nat)
  /-- the callback of that promise -/
  | releaseJob (id : Nat)
  /-- the timer of `withDeadline` fires -/
  | deadline (id : Nat)
  /-- the callback of `withDeadline` on the outcome -/
  | callerJob (id : Nat)
  deriving DecidableEq, Repr

/-- What an event does to the call it is about; `none` when it cannot happen there. -/
def stepRun (gate : DnsResolutionGate) (id : Nat) (run : DnsRun) : Event → Option DnsResolutionGate
  | .run _ _ _ _ => none
  | .abort _ =>
    if !run.signal then none
    else if run.phase = .acquiring then
      if run.waiter.any (·.listening) then some (gate.rejectOnce id cancelledError) else none
    else if Phase.underDeadline run.phase then some (gate.stop id run)
    else some gate
  | .waitTimeout _ =>
    if run.waiter.any (·.timer) then some (gate.rejectOnce id timeoutError) else none
  | .resume _ =>
    if run.phase = .granted then some (gate.setRun id { run with phase := .calling }) else none
  | .operationReturns _ aborted remaining =>
    if run.phase = .calling then
      let stops := ⌊remaining⌋ < 1 || (run.signal && aborted)
      some (gate.setRun id { run with phase := .resolving, finished := stops, cancelled := stops })
    else none
  | .operationThrows _ =>
    if run.phase = .calling then some (gate.setRun id { run with phase := .released, finished := true }).release else none
  | .resolverSettles _ =>
    if run.phase = .resolving then some (gate.setRun id { run with phase := .settling }) else none
  | .releaseJob _ =>
    if run.phase = .settling then some (gate.setRun id { run with phase := .released }).release else none
  | .deadline _ =>
    if Phase.underDeadline run.phase && !run.finished then some (gate.stop id run) else none
  | .callerJob _ =>
    if run.phase = .released then some (gate.setRun id { run with finished := true }) else none

/-- The call an event is about. -/
def Event.id : Event → Option Nat
  | .run _ _ _ _ => none
  | .abort id | .waitTimeout id | .resume id | .operationReturns id _ _ | .operationThrows id | .resolverSettles id
  | .releaseJob id | .deadline id | .callerJob id => some id

def step (gate : DnsResolutionGate) (event : Event) : Option DnsResolutionGate :=
  match event with
  | .run signal aborted remaining remaining' => some (gate.acquire signal aborted remaining remaining')
  | event => do
    let id ← event.id
    let run ← gate.runs[id]?
    gate.stepRun id run event

/-- The gate as a system, from its constructor. -/
def system : Runs.System DnsResolutionGate Event where
  init gate := ∃ maximum, new maximum = .ok gate
  step gate event gate' := gate.step event = some gate'

/-! ## The invariant -/

/-- The call holds a slot. -/
def holdsSlot (run : DnsRun) : Bool :=
  match run.phase with
  | .granted | .calling | .resolving | .settling => true
  | _ => false

/-- A resolution is in progress: `operation()` has returned it and its promise is pending. -/
def inProgress (run : DnsRun) : Bool := run.phase = .resolving

/-- What a call's waiter looks like: unsettled while the call waits, and settled once as its phase says. -/
def WaiterOf (run : DnsRun) : Prop :=
  match run.phase with
  | .acquiring => run.waiter = some ⟨false, true, run.signal, []⟩
  | .refused error => run.waiter = none ∨ run.waiter = some ⟨true, false, false, [.rejected error]⟩
  | _ => run.waiter = none ∨ run.waiter = some ⟨true, false, false, [.granted]⟩

structure Inv (gate : DnsResolutionGate) : Prop where
  positive : 1 ≤ gate.maximum
  bounded : gate.active ≤ gate.maximum
  counted : gate.active = gate.runs.countP holdsSlot
  taken : gate.waiters ≠ [] → gate.active = gate.maximum
  ordered : gate.waiters.Pairwise (· < ·)
  queued : ∀ id, id ∈ gate.waiters ↔ ∃ run, gate.runs[id]? = some run ∧ run.phase = .acquiring
  waiter : ∀ (id : Nat) (run : DnsRun), gate.runs[id]? = some run → WaiterOf run
  sound : gate.underflow = false

theorem Inv.new {maximum : Int} {gate : DnsResolutionGate} (h : new maximum = .ok gate) : Inv gate := by
  unfold DnsResolutionGate.new at h
  split at h
  · exact nomatch h
  next hvalid =>
  obtain rfl := Except.ok.inj h
  exact {
    positive := by
      have := not_or.mp hvalid
      show 1 ≤ maximum.toNat
      omega
    bounded := Nat.zero_le _
    counted := rfl
    taken := fun h => absurd rfl h
    ordered := List.Pairwise.nil
    queued := by
      intro id
      constructor
      · exact fun h => nomatch h
      · exact fun ⟨_, h, _⟩ => nomatch h
    waiter := fun _ _ h => nomatch h
    sound := rfl }

variable {gate : DnsResolutionGate} {id : Nat} {run run' : DnsRun}

/-- **A call that goes on** without waiting, taking or giving back a slot. -/
theorem Inv.setRun (h : Inv gate) (hid : gate.runs[id]? = some run) (hwaits : run.phase ≠ .acquiring)
    (hwaits' : run'.phase ≠ .acquiring) (hholds : holdsSlot run' = holdsSlot run) (hwaiter : WaiterOf run') :
    Inv (gate.setRun id run') := by
  have hcount := Places.countP_set (y := run') holdsSlot hid
  rw [hholds] at hcount
  refine ⟨h.positive, h.bounded, ?_, h.taken, h.ordered, fun k => ?_, fun k other hk => ?_, h.sound⟩
  · show gate.active = (gate.runs.set id run').countP holdsSlot
    rw [h.counted]
    omega
  · show k ∈ gate.waiters ↔ ∃ other, (gate.runs.set id run')[k]? = some other ∧ other.phase = .acquiring
    rw [Places.getElem?_set hid, h.queued]
    by_cases hk : k = id
    · rw [if_pos hk, hk]
      constructor
      · rintro ⟨other, hother, hphase⟩
        obtain rfl := Option.some.inj (hid.symm.trans hother)
        exact absurd hphase hwaits
      · rintro ⟨other, hother, hphase⟩
        obtain rfl := Option.some.inj hother
        exact absurd hphase hwaits'
    · rw [if_neg hk]
  · change (gate.runs.set id run')[k]? = some other at hk
    rw [Places.getElem?_set hid] at hk
    split at hk
    · obtain rfl := Option.some.inj hk
      exact hwaiter
    · exact h.waiter k other hk

theorem Inv.nodup (h : Inv gate) : gate.waiters.Nodup := h.ordered.imp Nat.ne_of_lt

/-- A call that has come in is not in the queue yet. -/
theorem Inv.not_mem_length (h : Inv gate) : gate.runs.length ∉ gate.waiters := by
  intro hmem
  obtain ⟨run, hrun, -⟩ := (h.queued _).mp hmem
  obtain ⟨hlt, -⟩ := List.getElem?_eq_some_iff.mp hrun
  omega

/-! ### A waiter is rejected -/

theorem rejectOnce_waiting {waiter : DnsWaiter} (hid : gate.runs[id]? = some run) (hwaiter : run.waiter = some waiter)
    (hsettled : waiter.settled = false) (error : WebhookTransportError) :
    gate.rejectOnce id error = { gate with
      waiters := gate.waiters.erase id
      runs := gate.runs.set id { run with phase := .refused error, waiter := some (waiter.settle (.rejected error)) } } := by
  unfold rejectOnce
  simp only [hid, hwaiter, hsettled, Bool.false_eq_true, if_false]

/-- **Once settled, never rejected.** -/
theorem Inv.rejectOnce_settled (h : Inv gate) (hid : gate.runs[id]? = some run) (hphase : run.phase ≠ .acquiring)
    (error : WebhookTransportError) : gate.rejectOnce id error = gate := by
  have hwaiter := h.waiter id run hid
  unfold WaiterOf at hwaiter
  unfold rejectOnce
  rw [hid]
  dsimp only
  split at hwaiter
  · next hacquiring => exact absurd hacquiring hphase
  all_goals
    rcases hwaiter with hnone | hsome
    · rw [hnone]
    · rw [hsome]
      rfl

/-- A waiting call is rejected: it leaves the queue and its waiter is settled. -/
theorem Inv.rejectOnce (h : Inv gate) (hid : gate.runs[id]? = some run) (hphase : run.phase = .acquiring)
    (error : WebhookTransportError) :
    gate.rejectOnce id error = { gate with
      waiters := gate.waiters.erase id
      runs := gate.runs.set id
        { run with phase := .refused error, waiter := some ⟨true, false, false, [.rejected error]⟩ } } ∧
    Inv (gate.rejectOnce id error) := by
  have hwaiter := h.waiter id run hid
  unfold WaiterOf at hwaiter
  rw [hphase] at hwaiter
  have heq := rejectOnce_waiting hid hwaiter rfl error
  refine ⟨heq, ?_⟩
  rw [heq]
  have hcount := Places.countP_set
    (y := { run with phase := .refused error, waiter := some ⟨true, false, false, [.rejected error]⟩ }) holdsSlot hid
  have hnone : holdsSlot run = false := by
    unfold holdsSlot
    rw [hphase]
  rw [hnone] at hcount
  refine ⟨h.positive, h.bounded, ?_, fun hne => h.taken fun hnil => hne ?_, h.ordered.sublist List.erase_sublist,
    fun k => ?_, fun k other hk => ?_, h.sound⟩
  · rw [h.counted]
    exact hcount.symm
  · show gate.waiters.erase id = []
    rw [hnil]
    rfl
  · rw [h.nodup.mem_erase_iff, h.queued, Places.getElem?_set hid]
    by_cases hk : k = id
    · rw [if_pos hk]
      constructor
      · exact fun hmem => absurd hk hmem.1
      · rintro ⟨other, hother, hacquiring⟩
        obtain rfl := Option.some.inj hother
        exact nomatch hacquiring
    · rw [if_neg hk]
      exact ⟨fun hmem => hmem.2, fun hother => ⟨hk, hother⟩⟩
  · dsimp only at hk
    rw [Places.getElem?_set hid] at hk
    split at hk
    · obtain rfl := Option.some.inj hk
      exact .inr rfl
    · exact h.waiter k other hk

/-! ### A slot is given back -/

theorem grant_waiting {waiter : DnsWaiter} (hid : gate.runs[id]? = some run) (hwaiter : run.waiter = some waiter)
    (hsettled : waiter.settled = false) : gate.grant id = (true, { gate with
      active := gate.active + 1
      runs := gate.runs.set id { run with phase := .granted, waiter := some (waiter.settle .granted) } }) := by
  unfold grant
  simp only [hid, hwaiter, hsettled, Bool.false_eq_true, if_false]

/-- **The crux.**  The slot of a call goes to the head of the queue, or back to the gate when nobody waits. -/
theorem Inv.release (h : Inv gate) (hid : gate.runs[id]? = some run) (hholds : holdsSlot run = true)
    (hwaits : run'.phase ≠ .acquiring) (hreleased : holdsSlot run' = false) (hwaiter : WaiterOf run') :
    ((gate.waiters = [] ∧
        (gate.setRun id run').release = { gate.setRun id run' with active := gate.active - 1, waiters := [] }) ∨
      ∃ head rest waiting, gate.waiters = head :: rest ∧ gate.runs[head]? = some waiting ∧ waiting.phase = .acquiring ∧
        (gate.setRun id run').release = { gate with
          waiters := rest
          runs := (gate.runs.set id run').set head
            { waiting with phase := .granted, waiter := some ⟨true, false, false, [.granted]⟩ } }) ∧
    Inv (gate.setRun id run').release := by
  have hphase : run.phase ≠ .acquiring := by
    intro hacquiring
    unfold holdsSlot at hholds
    rw [hacquiring] at hholds
    exact nomatch hholds
  have hnotQueued : id ∉ gate.waiters := by
    intro hmem
    obtain ⟨other, hother, hacquiring⟩ := (h.queued id).mp hmem
    obtain rfl := Option.some.inj (hid.symm.trans hother)
    exact hphase hacquiring
  have hcount := Places.countP_set (y := run') holdsSlot hid
  rw [if_pos hholds, if_neg (by rw [hreleased]; exact Bool.false_ne_true), ← h.counted, Nat.add_zero] at hcount
  have hnever : ¬ gate.active < 1 := by omega
  have hwaiters : ∀ (k : Nat) (other : DnsRun), (gate.runs.set id run')[k]? = some other → WaiterOf other := by
    intro k other hk
    rw [Places.getElem?_set hid] at hk
    split at hk
    · obtain rfl := Option.some.inj hk
      exact hwaiter
    · exact h.waiter k other hk
  unfold DnsResolutionGate.release
  rw [show (gate.setRun id run').active = gate.active from rfl, if_neg hnever]
  cases hqueue : gate.waiters with
  | nil =>
    have heq : handOn (gate.setRun id run').waiters { gate.setRun id run' with active := gate.active - 1 } =
        { gate.setRun id run' with active := gate.active - 1, waiters := [] } := by
      rw [show (gate.setRun id run').waiters = [] from hqueue]
      rfl
    refine ⟨.inl ⟨rfl, heq⟩, ?_⟩
    rw [heq]
    refine ⟨h.positive, (Nat.sub_le _ _).trans h.bounded, ?_, fun hne => absurd rfl hne, List.Pairwise.nil, fun k => ?_,
      hwaiters, h.sound⟩
    · show gate.active - 1 = (gate.runs.set id run').countP holdsSlot
      omega
    · constructor
      · exact fun hmem => nomatch hmem
      · rintro ⟨other, hother, hacquiring⟩
        change (gate.runs.set id run')[k]? = some other at hother
        rw [Places.getElem?_set hid] at hother
        split at hother
        · obtain rfl := Option.some.inj hother
          exact absurd hacquiring hwaits
        · exact hqueue ▸ (h.queued k).mpr ⟨other, hother, hacquiring⟩
  | cons head rest =>
    -- the head of the queue is unsettled, so the loop ends with it
    obtain ⟨waiting, hhead, hacquiring⟩ := (h.queued head).mp (hqueue ▸ List.mem_cons_self)
    have hwaiting := h.waiter head waiting hhead
    unfold WaiterOf at hwaiting
    rw [hacquiring] at hwaiting
    have hne : head ≠ id := by
      rintro rfl
      exact hnotQueued (hqueue ▸ List.mem_cons_self)
    have hhead' : (gate.runs.set id run')[head]? = some waiting := by rw [Places.getElem?_set hid, if_neg hne, hhead]
    have heq : handOn (gate.setRun id run').waiters { gate.setRun id run' with active := gate.active - 1 } = { gate with
        waiters := rest
        runs := (gate.runs.set id run').set head
          { waiting with phase := .granted, waiter := some ⟨true, false, false, [.granted]⟩ } } := by
      have hgrant := @grant_waiting { gate.setRun id run' with active := gate.active - 1, waiters := rest } _ _ _
        hhead' hwaiting rfl
      have hback : gate.active - 1 + 1 = gate.active := Nat.sub_add_cancel (Nat.not_lt.mp hnever)
      rw [show (gate.setRun id run').waiters = head :: rest from hqueue, handOn, hgrant, if_pos rfl, hback]
      rfl
    refine ⟨.inr ⟨head, rest, waiting, rfl, hhead, hacquiring, heq⟩, ?_⟩
    rw [heq]
    have hordered := hqueue ▸ h.ordered
    have hnodup := hqueue ▸ h.nodup
    have hcount' := Places.countP_set
      (y := { waiting with phase := .granted, waiter := some ⟨true, false, false, [.granted]⟩ }) holdsSlot hhead'
    have hnone : holdsSlot waiting = false := by
      unfold holdsSlot
      rw [hacquiring]
    rw [if_neg (by rw [hnone]; exact Bool.false_ne_true), Nat.add_zero] at hcount'
    refine ⟨h.positive, h.bounded, ?_, fun _ => h.taken (hqueue ▸ List.cons_ne_nil _ _), (List.pairwise_cons.mp hordered).2,
      fun k => ?_, fun k other hk => ?_, h.sound⟩
    · change _ = (gate.runs.set id run').countP holdsSlot + 1 at hcount'
      show gate.active = ((gate.runs.set id run').set head _).countP holdsSlot
      exact (hcount'.trans hcount).symm
    · show k ∈ rest ↔ ∃ other, ((gate.runs.set id run').set head _)[k]? = some other ∧ other.phase = .acquiring
      rw [Places.getElem?_set hhead']
      by_cases hk : k = head
      · rw [if_pos hk, hk]
        constructor
        · exact fun hmem => absurd hmem (List.nodup_cons.mp hnodup).1
        · rintro ⟨other, hother, hgranted⟩
          obtain rfl := Option.some.inj hother
          exact nomatch hgranted
      · rw [if_neg hk]
        have hrest : k ∈ rest ↔ k ∈ gate.waiters := by
          rw [hqueue, List.mem_cons]
          exact ⟨.inr, fun hmem => hmem.resolve_left hk⟩
        rw [hrest]
        show k ∈ gate.waiters ↔ ∃ other, (gate.runs.set id run')[k]? = some other ∧ other.phase = .acquiring
        rw [Places.getElem?_set hid]
        by_cases hself : k = id
        · rw [if_pos hself, hself]
          constructor
          · exact fun hmem => absurd hmem hnotQueued
          · rintro ⟨other, hother, hwrong⟩
            obtain rfl := Option.some.inj hother
            exact absurd hwrong hwaits
        · rw [if_neg hself]
          exact h.queued k
    · change ((gate.runs.set id run').set head _)[k]? = some other at hk
      rw [Places.getElem?_set hhead'] at hk
      split at hk
      · obtain rfl := Option.some.inj hk
        exact .inr rfl
      · exact hwaiters k other hk

/-! ### A call comes in -/

/-- A call that does not have to wait. -/
theorem Inv.come (h : Inv gate) (hphase : run.phase ≠ .acquiring) (hwaiter : WaiterOf run) {active : Nat}
    (hactive : active = gate.active + if holdsSlot run then 1 else 0) (hbounded : active ≤ gate.maximum)
    (htaken : gate.waiters ≠ [] → active = gate.maximum) : Inv { gate with active, runs := gate.runs ++ [run] } := by
  refine ⟨h.positive, hbounded, ?_, htaken, h.ordered, fun k => ?_, fun k other hk => ?_, h.sound⟩
  · show active = (gate.runs ++ [run]).countP holdsSlot
    rw [List.countP_append, hactive, h.counted, List.countP_singleton]
  · show k ∈ gate.waiters ↔ ∃ other, (gate.runs ++ [run])[k]? = some other ∧ other.phase = .acquiring
    rw [Places.getElem?_concat]
    by_cases hk : k = gate.runs.length
    · rw [if_pos hk]
      constructor
      · exact fun hmem => absurd (hk ▸ hmem) h.not_mem_length
      · rintro ⟨other, hother, hacquiring⟩
        obtain rfl := Option.some.inj hother
        exact absurd hacquiring hphase
    · rw [if_neg hk]
      exact h.queued k
  · change (gate.runs ++ [run])[k]? = some other at hk
    rw [Places.getElem?_concat] at hk
    split at hk
    · obtain rfl := Option.some.inj hk
      exact hwaiter
    · exact h.waiter k other hk

/-- A call that has to wait goes to the end of the queue. -/
theorem Inv.wait (h : Inv gate) (hphase : run.phase = .acquiring) (hwaiter : WaiterOf run)
    (hfull : gate.active = gate.maximum) :
    Inv { gate with waiters := gate.waiters ++ [gate.runs.length], runs := gate.runs ++ [run] } := by
  have hnone : holdsSlot run = false := by
    unfold holdsSlot
    rw [hphase]
  refine ⟨h.positive, h.bounded, ?_, fun _ => hfull, ?_, fun k => ?_, fun k other hk => ?_, h.sound⟩
  · show gate.active = (gate.runs ++ [run]).countP holdsSlot
    rw [List.countP_append, List.countP_singleton, hnone, ← h.counted]
    rfl
  · -- its place is after the places of all the others
    refine List.pairwise_append.mpr ⟨h.ordered, List.pairwise_singleton _ _, fun k hk n hn => ?_⟩
    obtain ⟨other, hother, -⟩ := (h.queued k).mp hk
    obtain ⟨hlt, -⟩ := List.getElem?_eq_some_iff.mp hother
    rw [List.mem_singleton.mp hn]
    exact hlt
  · show k ∈ gate.waiters ++ [gate.runs.length] ↔
      ∃ other, (gate.runs ++ [run])[k]? = some other ∧ other.phase = .acquiring
    rw [Places.getElem?_concat, List.mem_append, List.mem_singleton]
    by_cases hk : k = gate.runs.length
    · rw [if_pos hk]
      exact ⟨fun _ => ⟨run, rfl, hphase⟩, fun _ => .inr hk⟩
    · rw [if_neg hk, ← h.queued]
      exact ⟨fun hmem => hmem.resolve_right hk, .inl⟩
  · change (gate.runs ++ [run])[k]? = some other at hk
    rw [Places.getElem?_concat] at hk
    split at hk
    · obtain rfl := Option.some.inj hk
      exact hwaiter
    · exact h.waiter k other hk

theorem Inv.acquire (h : Inv gate) (signal aborted : Bool) (remaining remaining' : ℚ) :
    Inv (gate.acquire signal aborted remaining remaining') := by
  unfold DnsResolutionGate.acquire
  dsimp only
  split
  · refine h.come ?_ ?_ rfl h.bounded h.taken
    · exact fun hwaits => nomatch hwaits
    · exact Or.inl rfl
  split
  · refine h.come ?_ ?_ rfl h.bounded h.taken
    · exact fun hwaits => nomatch hwaits
    · exact Or.inl rfl
  split
  · next hfree =>
    refine h.come ?_ ?_ rfl hfree fun hne => ?_
    · exact fun hwaits => nomatch hwaits
    · exact Or.inl rfl
    · have := h.taken hne
      omega
  next hfree =>
  have hfull : gate.active = gate.maximum := Nat.le_antisymm h.bounded (Nat.not_lt.mp hfree)
  split
  · -- the waiter is rejected before anything can settle it
    have hlast : (gate.runs ++ [DnsRun.mk .acquiring signal (some ⟨false, false, false, []⟩) false false])[gate.runs.length]? =
        some ⟨.acquiring, signal, some ⟨false, false, false, []⟩, false, false⟩ := by
      rw [Places.getElem?_concat, if_pos rfl]
    have heq := @rejectOnce_waiting { gate with
        waiters := gate.waiters ++ [gate.runs.length]
        runs := gate.runs ++ [DnsRun.mk .acquiring signal (some ⟨false, false, false, []⟩) false false] }
      _ _ _ hlast rfl rfl timeoutError
    have hqueue : (gate.waiters ++ [gate.runs.length]).erase gate.runs.length = gate.waiters := by
      rw [List.erase_append_right _ h.not_mem_length, List.erase_cons_head, List.append_nil]
    have hruns : ∀ run' : DnsRun, (gate.runs ++ [DnsRun.mk .acquiring signal (some ⟨false, false, false, []⟩) false false]).set
        gate.runs.length run' = gate.runs ++ [run'] := by
      intro run'
      rw [List.set_append_right _ _ (Nat.le_refl _), Nat.sub_self]
      rfl
    rw [heq]
    dsimp only
    rw [hqueue, hruns]
    refine h.come ?_ ?_ rfl h.bounded h.taken
    · exact fun hwaits => nomatch hwaits
    · exact Or.inr rfl
  · exact h.wait rfl rfl hfull

/-! ### Every event -/

/-- The calls of `resolve` and `reject` for the waiter of a call. -/
def settlementsOf (run : DnsRun) : List Settlement := (run.waiter.map (·.settlements)).getD []

/-- What a call becomes: no settlement is taken back, and a call that was refused is over. -/
structure Later (run run' : DnsRun) : Prop where
  settlements : settlementsOf run <+: settlementsOf run'
  refused : ∀ error, run.phase = .refused error → run' = run

theorem Later.refl (run : DnsRun) : Later run run := ⟨List.prefix_refl _, fun _ _ => rfl⟩

def Steps (gate gate' : DnsResolutionGate) : Prop :=
  ∀ (k : Nat) (run : DnsRun), gate.runs[k]? = some run → ∃ run', gate'.runs[k]? = some run' ∧ Later run run'

theorem Steps.refl (gate : DnsResolutionGate) : Steps gate gate := fun _ run hrun => ⟨run, hrun, .refl run⟩

theorem Steps.trans {gate' gate'' : DnsResolutionGate} (h : Steps gate gate') (h' : Steps gate' gate'') :
    Steps gate gate'' := by
  intro k run hrun
  obtain ⟨run', hrun', hlater⟩ := h k run hrun
  obtain ⟨run'', hrun'', hlater'⟩ := h' k run' hrun'
  refine ⟨run'', hrun'', hlater.settlements.trans hlater'.settlements, fun error hrefused => ?_⟩
  have hsame := hlater.refused error hrefused
  rw [hlater'.refused error (hsame ▸ hrefused), hsame]

theorem Steps.setRun (hid : gate.runs[id]? = some run) (hlater : Later run run') {gate' : DnsResolutionGate}
    (hruns : gate'.runs = gate.runs.set id run') : Steps gate gate' := by
  intro k other hk
  rw [hruns, Places.getElem?_set hid]
  by_cases he : k = id
  · rw [if_pos he]
    rw [he] at hk
    obtain rfl := Option.some.inj (hid.symm.trans hk)
    exact ⟨run', rfl, hlater⟩
  · rw [if_neg he]
    exact ⟨other, hk, .refl other⟩

theorem Steps.come {gate' : DnsResolutionGate} (hruns : gate'.runs = gate.runs ++ [run]) : Steps gate gate' := by
  intro k other hk
  obtain ⟨hlt, -⟩ := List.getElem?_eq_some_iff.mp hk
  rw [hruns, Places.getElem?_concat, if_neg (Nat.ne_of_lt hlt)]
  exact ⟨other, hk, .refl other⟩

/-- A call that holds its slot, or gave it back, keeps its waiter as its phase moves on. -/
theorem WaiterOf.moves {signal finished cancelled : Bool} {waiter : Option DnsWaiter} {phase : Phase}
    (h : WaiterOf ⟨phase, signal, waiter, finished, cancelled⟩)
    (hphase : phase ∈ [.granted, .calling, .resolving, .settling, .released]) (phase' : Phase)
    (hphase' : phase' ∈ [.granted, .calling, .resolving, .settling, .released]) (finished' cancelled' : Bool) :
    WaiterOf ⟨phase', signal, waiter, finished', cancelled'⟩ ∧
      Later ⟨phase, signal, waiter, finished, cancelled⟩ ⟨phase', signal, waiter, finished', cancelled'⟩ := by
  have hgranted : waiter = none ∨ waiter = some ⟨true, false, false, [.granted]⟩ := by
    cases phase with
    | acquiring => exact absurd hphase (by simp)
    | refused error => exact absurd hphase (by simp)
    | granted | calling | resolving | settling | released => exact h
  refine ⟨?_, List.prefix_refl _, fun error hrefused => ?_⟩
  · cases phase' with
    | acquiring => exact absurd hphase' (by simp)
    | refused error => exact absurd hphase' (by simp)
    | granted | calling | resolving | settling | released => exact hgranted
  · rw [show phase = .refused error from hrefused] at hphase
    exact absurd hphase (by simp)

theorem Inv.stop (h : Inv gate) (hid : gate.runs[id]? = some run) (hphase : run.phase.underDeadline = true) :
    Inv (gate.stop id run) ∧ Steps gate (gate.stop id run) := by
  obtain ⟨phase, signal, waiter, finished, cancelled⟩ := run
  have hunder : phase ∈ [.granted, .calling, .resolving, .settling, .released] := by
    cases phase with
    | resolving | settling | released => simp
    | acquiring | granted | calling => exact nomatch hphase
    | refused error => exact nomatch hphase
  have hne : phase ≠ .acquiring := by
    rintro rfl
    exact nomatch hphase
  unfold DnsResolutionGate.stop
  split
  · exact ⟨h, .refl gate⟩
  · obtain ⟨hwaiter, hlater⟩ := (h.waiter id _ hid).moves hunder phase hunder true true
    exact ⟨h.setRun hid hne hne rfl hwaiter, .setRun hid hlater rfl⟩

theorem Inv.rejects (h : Inv gate) (hid : gate.runs[id]? = some run) (error : WebhookTransportError) :
    Inv (gate.rejectOnce id error) ∧ Steps gate (gate.rejectOnce id error) := by
  by_cases hphase : run.phase = .acquiring
  · obtain ⟨heq, hinv⟩ := h.rejectOnce hid hphase error
    have hwaiter := h.waiter id run hid
    unfold WaiterOf at hwaiter
    rw [hphase] at hwaiter
    refine ⟨hinv, .setRun hid ⟨?_, fun error' hrefused => ?_⟩ (by rw [heq])⟩
    · unfold settlementsOf
      rw [hwaiter]
      exact List.nil_prefix
    · exact nomatch hphase.symm.trans hrefused
  · rw [h.rejectOnce_settled hid hphase error]
    exact ⟨h, .refl gate⟩

/-- A call gives its slot back. -/
theorem Inv.releases {signal finished cancelled : Bool} {waiter : Option DnsWaiter} {phase : Phase} (h : Inv gate)
    (hid : gate.runs[id]? = some ⟨phase, signal, waiter, finished, cancelled⟩) (hphase : phase = .calling ∨ phase = .settling)
    (finished' : Bool) :
    Inv (gate.setRun id ⟨.released, signal, waiter, finished', cancelled⟩).release ∧
    Steps gate (gate.setRun id ⟨.released, signal, waiter, finished', cancelled⟩).release ∧
    (gate.waiters = [] → (gate.setRun id ⟨.released, signal, waiter, finished', cancelled⟩).release.active + 1 = gate.active) ∧
    ∀ head rest, gate.waiters = head :: rest →
      (gate.setRun id ⟨.released, signal, waiter, finished', cancelled⟩).release.waiters = rest ∧
      (gate.setRun id ⟨.released, signal, waiter, finished', cancelled⟩).release.active = gate.active ∧
      ∃ run', (gate.setRun id ⟨.released, signal, waiter, finished', cancelled⟩).release.runs[head]? = some run' ∧
        run'.phase = .granted := by
  have hholds : holdsSlot ⟨phase, signal, waiter, finished, cancelled⟩ = true := by
    rcases hphase with rfl | rfl <;> rfl
  have hlist : phase ∈ [.granted, .calling, .resolving, .settling, .released] := by
    rcases hphase with rfl | rfl <;> simp
  obtain ⟨hwaiter, hlater⟩ := (h.waiter id _ hid).moves hlist .released (by simp) finished' cancelled
  have hne : (DnsRun.mk .released signal waiter finished' cancelled).phase ≠ .acquiring := fun hwaits => nomatch hwaits
  obtain ⟨hcases, hinv⟩ := h.release hid hholds hne rfl hwaiter
  have hset : Steps gate (gate.setRun id ⟨.released, signal, waiter, finished', cancelled⟩) := .setRun hid hlater rfl
  have hpositive : 1 ≤ gate.active := by
    rw [h.counted]
    exact List.countP_pos_iff.mpr ⟨_, List.mem_of_getElem? hid, hholds⟩
  refine ⟨hinv, ?_⟩
  rcases hcases with ⟨hempty, heq⟩ | ⟨head, rest, waiting, hqueue, hhead, hacquiring, heq⟩
  · rw [heq]
    refine ⟨hset, fun _ => Nat.sub_add_cancel hpositive, fun head rest hqueue => ?_⟩
    rw [hempty] at hqueue
    exact nomatch hqueue
  · rw [heq]
    have hwaiting := h.waiter head waiting hhead
    unfold WaiterOf at hwaiting
    rw [hacquiring] at hwaiting
    have hother : head ≠ id := by
      rintro rfl
      obtain rfl := Option.some.inj (hid.symm.trans hhead)
      rcases hphase with rfl | rfl <;> exact nomatch hacquiring
    have hhead' : (gate.setRun id ⟨.released, signal, waiter, finished', cancelled⟩).runs[head]? = some waiting := by
      show (gate.runs.set id _)[head]? = some waiting
      rw [Places.getElem?_set hid, if_neg hother, hhead]
    refine ⟨hset.trans (.setRun hhead' ⟨?_, fun error hrefused => ?_⟩ rfl), fun hempty => ?_, fun head' rest' hqueue' => ?_⟩
    · unfold settlementsOf
      rw [hwaiting]
      exact List.nil_prefix
    · exact nomatch hacquiring.symm.trans hrefused
    · rw [hempty] at hqueue
      exact nomatch hqueue
    · obtain ⟨rfl, rfl⟩ := List.cons.inj (hqueue.symm.trans hqueue')
      have hgranted := Places.getElem?_set
        (y := { waiting with phase := .granted, waiter := some ⟨true, false, false, [.granted]⟩ }) hhead' head
      rw [if_pos rfl] at hgranted
      exact ⟨rfl, rfl, _, hgranted, rfl⟩

theorem Steps.acquire (signal aborted : Bool) (remaining remaining' : ℚ) :
    Steps gate (gate.acquire signal aborted remaining remaining') := by
  unfold DnsResolutionGate.acquire
  dsimp only
  split
  · exact .come rfl
  split
  · exact .come rfl
  split
  · exact .come rfl
  split
  · intro k run hrun
    obtain ⟨hlt, -⟩ := List.getElem?_eq_some_iff.mp hrun
    unfold DnsResolutionGate.rejectOnce
    dsimp only
    rw [Places.getElem?_concat, if_pos rfl]
    dsimp only
    rw [if_neg Bool.false_ne_true, List.getElem?_set_ne (Nat.ne_of_gt hlt), Places.getElem?_concat, if_neg (Nat.ne_of_lt hlt)]
    exact ⟨run, hrun, .refl run⟩
  · exact .come rfl

/-- A call that goes on with its slot, or without it. -/
theorem Inv.moves {signal finished cancelled : Bool} {waiter : Option DnsWaiter} {phase : Phase} (h : Inv gate)
    (hid : gate.runs[id]? = some ⟨phase, signal, waiter, finished, cancelled⟩)
    (hphase : phase ∈ [.granted, .calling, .resolving, .settling, .released]) (phase' : Phase)
    (hphase' : phase' ∈ [.granted, .calling, .resolving, .settling, .released]) (finished' cancelled' : Bool)
    (hholds : holdsSlot ⟨phase', signal, waiter, finished', cancelled'⟩ =
      holdsSlot ⟨phase, signal, waiter, finished, cancelled⟩) :
    Inv (gate.setRun id ⟨phase', signal, waiter, finished', cancelled'⟩) ∧
      Steps gate (gate.setRun id ⟨phase', signal, waiter, finished', cancelled'⟩) := by
  have hne : ∀ {phase : Phase}, phase ∈ [Phase.granted, .calling, .resolving, .settling, .released] → phase ≠ .acquiring := by
    rintro phase hphase rfl
    exact absurd hphase (by simp)
  obtain ⟨hwaiter, hlater⟩ := (h.waiter id _ hid).moves hphase phase' hphase' finished' cancelled'
  exact ⟨h.setRun hid (hne hphase) (hne hphase') hholds hwaiter, .setRun hid hlater rfl⟩

/-- **Every event keeps the invariant.** -/
theorem Inv.step (h : Inv gate) {event : Event} {gate' : DnsResolutionGate} (hstep : gate.step event = some gate') :
    Inv gate' ∧ Steps gate gate' := by
  have hcall : ∀ {event : Event} {id : Nat}, (do
      let run ← gate.runs[id]?
      gate.stepRun id run event) = some gate' → Inv gate' ∧ Steps gate gate' := by
    intro event id hstep
    obtain ⟨⟨phase, signal, waiter, finished, cancelled⟩, hid, hstep⟩ := Option.bind_eq_some_iff.mp hstep
    cases event <;> dsimp only [stepRun] at hstep
    case run signal aborted remaining remaining' => exact nomatch hstep
    case abort id' =>
      split at hstep
      · exact nomatch hstep
      split at hstep
      · split at hstep
        · obtain rfl := Option.some.inj hstep
          exact h.rejects hid cancelledError
        · exact nomatch hstep
      split at hstep
      · next hunder =>
        obtain rfl := Option.some.inj hstep
        exact h.stop hid hunder
      · obtain rfl := Option.some.inj hstep
        exact ⟨h, .refl gate⟩
    case waitTimeout id' =>
      split at hstep
      · obtain rfl := Option.some.inj hstep
        exact h.rejects hid timeoutError
      · exact nomatch hstep
    case resume id' =>
      split at hstep
      · next hphase =>
        subst hphase
        obtain rfl := Option.some.inj hstep
        exact h.moves hid (by simp) .calling (by simp) finished cancelled rfl
      · exact nomatch hstep
    case operationReturns id' aborted remaining =>
      split at hstep
      · next hphase =>
        subst hphase
        obtain rfl := Option.some.inj hstep
        exact h.moves hid (by simp) .resolving (by simp) _ _ rfl
      · exact nomatch hstep
    case operationThrows id' =>
      split at hstep
      · next hphase =>
        obtain rfl := Option.some.inj hstep
        obtain ⟨hinv, hsteps, -⟩ := h.releases hid (.inl hphase) true
        exact ⟨hinv, hsteps⟩
      · exact nomatch hstep
    case resolverSettles id' =>
      split at hstep
      · next hphase =>
        subst hphase
        obtain rfl := Option.some.inj hstep
        exact h.moves hid (by simp) .settling (by simp) finished cancelled rfl
      · exact nomatch hstep
    case releaseJob id' =>
      split at hstep
      · next hphase =>
        obtain rfl := Option.some.inj hstep
        obtain ⟨hinv, hsteps, -⟩ := h.releases hid (.inr hphase) finished
        exact ⟨hinv, hsteps⟩
      · exact nomatch hstep
    case deadline id' =>
      split at hstep
      · next hunder =>
        obtain rfl := Option.some.inj hstep
        exact h.stop hid (Bool.and_eq_true_iff.mp hunder).1
      · exact nomatch hstep
    case callerJob id' =>
      split at hstep
      · next hphase =>
        subst hphase
        obtain rfl := Option.some.inj hstep
        exact h.moves hid (by simp) .released (by simp) true cancelled rfl
      · exact nomatch hstep
  cases event with
  | run signal aborted remaining remaining' =>
    obtain rfl := Option.some.inj hstep
    exact ⟨h.acquire signal aborted remaining remaining', .acquire signal aborted remaining remaining'⟩
  | abort id | waitTimeout id | resume id | operationReturns id aborted remaining | operationThrows id
  | resolverSettles id | releaseJob id | deadline id | callerJob id => exact hcall hstep

theorem Inv.reachable (h : Runs.Reachable system gate) : Inv gate :=
  h.invariant (fun _ ⟨_, hnew⟩ => .new hnew) fun _ _ _ hinv hstep => (hinv.step hstep).1

/-! ## The gate -/

/-- The call has its slot, and either its resolution has not been returned yet or the callback of its
    resolver's promise has not run yet. -/
def betweenJobs (run : DnsRun) : Bool :=
  match run.phase with
  | .granted | .calling | .settling => true
  | _ => false

theorem countP_holdsSlot (runs : List DnsRun) :
    runs.countP holdsSlot = runs.countP inProgress + runs.countP betweenJobs := by
  induction runs with
  | nil => rfl
  | cons run runs ih =>
    have hrun : (if holdsSlot run then 1 else 0) = (if inProgress run then 1 else 0) + if betweenJobs run then 1 else 0 := by
      unfold holdsSlot inProgress betweenJobs
      cases run.phase <;> rfl
    rw [List.countP_cons, List.countP_cons, List.countP_cons, ih, hrun]
    omega

/-- The calls that were settled, and those that wait. -/
theorem WaiterOf.settled {run : DnsRun} (h : WaiterOf run) :
    (run.phase = .acquiring → settlementsOf run = []) ∧
    (run.phase ≠ .acquiring → run.waiter.isSome → (settlementsOf run).length = 1) := by
  unfold WaiterOf at h
  unfold settlementsOf
  split at h
  · next hacquiring =>
    rw [h]
    exact ⟨fun _ => rfl, fun hne => absurd hacquiring hne⟩
  · next error hrefused =>
    have hne : run.phase ≠ .acquiring := fun hacquiring => nomatch hrefused.symm.trans hacquiring
    refine ⟨fun hacquiring => absurd hacquiring hne, fun _ hsome => ?_⟩
    rcases h with h | h
    · rw [h] at hsome
      exact nomatch hsome
    · rw [h]
      rfl
  · next hne _ =>
    refine ⟨fun hacquiring => absurd hacquiring hne, fun _ hsome => ?_⟩
    rcases h with h | h
    · rw [h] at hsome
      exact nomatch hsome
    · rw [h]
      rfl

/-- A waiter that is not settled can still run into its deadline. -/
theorem Inv.can_time_out (h : Inv gate) (hid : gate.runs[id]? = some run) (hphase : run.phase = .acquiring) :
    gate.step (.waitTimeout id) = some (gate.rejectOnce id timeoutError) := by
  have hwaiter := h.waiter id run hid
  unfold WaiterOf at hwaiter
  rw [hphase] at hwaiter
  refine Option.bind_eq_some_iff.mpr ⟨run, hid, ?_⟩
  dsimp only [stepRun]
  rw [hwaiter]
  rfl

/-- The step in which a call gives its slot back. -/
theorem Inv.gives_back (h : Inv gate) {gate' : DnsResolutionGate}
    (hstep : gate.step (.releaseJob id) = some gate' ∨ gate.step (.operationThrows id) = some gate') :
    (gate.waiters = [] → gate'.active + 1 = gate.active) ∧
    ∀ head rest, gate.waiters = head :: rest →
      gate'.waiters = rest ∧ gate'.active = gate.active ∧ ∃ run', gate'.runs[head]? = some run' ∧ run'.phase = .granted := by
  rcases hstep with hstep | hstep
  all_goals
    obtain ⟨⟨phase, signal, waiter, finished, cancelled⟩, hid, hstep⟩ := Option.bind_eq_some_iff.mp hstep
    dsimp only [stepRun] at hstep
    split at hstep
    case isFalse => exact nomatch hstep
  · next hphase =>
    obtain rfl := Option.some.inj hstep
    exact (h.releases hid (.inr hphase) finished).2.2
  · next hphase =>
    obtain rfl := Option.some.inj hstep
    exact (h.releases hid (.inl hphase) true).2.2

/-- **The gate.**  In every state the active count is the number of calls with a slot, and at most the
    maximum: the resolutions in progress, and the calls between two jobs; so the two are equal whenever no
    call is between jobs.  A call that waits stands in the queue with an unsettled waiter that can still time
    out, and every other waiter was settled once; what is settled stays so, and a call that was refused is
    over.  A slot that is given back goes to the oldest call that waits, and to the gate when none does.  The
    error of `#release` is never thrown; and when no call holds a slot none is counted, and nobody waits. -/
theorem dns_gate (h : Runs.Reachable system gate) :
    gate.active ≤ gate.maximum ∧
    gate.runs.countP inProgress + gate.runs.countP betweenJobs = gate.active ∧
    ((∀ run ∈ gate.runs, betweenJobs run = false) → gate.runs.countP inProgress = gate.active) ∧
    gate.underflow = false ∧
    (∀ (id : Nat) (run : DnsRun), gate.runs[id]? = some run →
      (run.phase = .acquiring → id ∈ gate.waiters ∧ settlementsOf run = [] ∧
        gate.step (.waitTimeout id) = some (gate.rejectOnce id timeoutError)) ∧
      (run.phase ≠ .acquiring → run.waiter.isSome → (settlementsOf run).length = 1)) ∧
    (∀ event gate', gate.step event = some gate' → ∀ (id : Nat) (run : DnsRun), gate.runs[id]? = some run →
      ∃ run', gate'.runs[id]? = some run' ∧ settlementsOf run <+: settlementsOf run' ∧
        ∀ error, run.phase = .refused error → holdsSlot run = false ∧ run' = run) ∧
    (∀ id gate', gate.step (.releaseJob id) = some gate' ∨ gate.step (.operationThrows id) = some gate' →
      (gate.waiters = [] → gate'.active + 1 = gate.active) ∧
      ∀ head rest, gate.waiters = head :: rest →
        (∀ (k : Nat) (run : DnsRun), gate.runs[k]? = some run → run.phase = .acquiring → head ≤ k) ∧
        gate'.waiters = rest ∧ gate'.active = gate.active ∧
        ∃ run', gate'.runs[head]? = some run' ∧ run'.phase = .granted) ∧
    ((∀ run ∈ gate.runs, holdsSlot run = false) → gate.active = 0 ∧ gate.waiters = []) := by
  have hinv := Inv.reachable h
  have hsum := (countP_holdsSlot gate.runs).symm.trans hinv.counted.symm
  refine ⟨hinv.bounded, hsum, fun hnone => ?_, hinv.sound, fun id run hid => ?_, fun event gate' hstep id run hid => ?_,
    fun id gate' hstep => ?_, fun hnone => ?_⟩
  · have hzero : gate.runs.countP betweenJobs = 0 :=
      List.countP_eq_zero.mpr fun run hrun => by rw [hnone run hrun]; exact Bool.false_ne_true
    omega
  · obtain ⟨hwaits, hsettled⟩ := (hinv.waiter id run hid).settled
    exact ⟨fun hphase => ⟨(hinv.queued id).mpr ⟨run, hid, hphase⟩, hwaits hphase, hinv.can_time_out hid hphase⟩, hsettled⟩
  · obtain ⟨run', hrun', hlater⟩ := (hinv.step hstep).2 id run hid
    refine ⟨run', hrun', hlater.settlements, fun error hrefused => ⟨?_, hlater.refused error hrefused⟩⟩
    unfold holdsSlot
    rw [hrefused]
  · obtain ⟨hback, hhanded⟩ := hinv.gives_back hstep
    refine ⟨hback, fun head rest hqueue => ⟨fun k run hk hphase => ?_, hhanded head rest hqueue⟩⟩
    have hordered := hqueue ▸ hinv.ordered
    have hmem := hqueue ▸ (hinv.queued k).mpr ⟨run, hk, hphase⟩
    rcases List.mem_cons.mp hmem with rfl | hmem
    · exact Nat.le_refl _
    · exact Nat.le_of_lt ((List.pairwise_cons.mp hordered).1 k hmem)
  · have hzero : gate.active = 0 := by
      rw [hinv.counted]
      exact List.countP_eq_zero.mpr fun run hrun => by rw [hnone run hrun]; exact Bool.false_ne_true
    refine ⟨hzero, ?_⟩
    by_contra hne
    have := hinv.taken hne
    have := hinv.positive
    omega

/-- The gate after some events, from a maximum of one. -/
def after (events : List Event) : Option DnsResolutionGate := Runs.follow step events ⟨1, [], 0, [], false⟩

theorem after.reachable {events : List Event} (h : after events = some gate) : Runs.Reachable system gate := by
  have hinit : Runs.Reachable system ⟨1, [], 0, [], false⟩ := ⟨[], .start ⟨1, rfl⟩⟩
  exact hinit.follow (fun _ _ _ hstep => hstep) h

/-- The promise of the resolver is settled and its callback is still a job: nothing is in progress, and the
    slot is counted. -/
theorem settled_before_released : ¬ ∀ gate, Runs.Reachable system gate → gate.runs.countP inProgress = gate.active := by
  intro hequal
  have hreached : after [.run false false 10 10, .resume 0, .operationReturns 0 false 10, .resolverSettles 0] =
      some ⟨1, [], 1, [⟨.settling, false, none, false, false⟩], false⟩ := by decide +kernel
  exact absurd (hequal _ (after.reachable hreached)) (by decide)

/-- Two calls and one slot: the second waits, and has the slot once the first gave it back. -/
theorem dns_gate_sample : ∃ gate, after [.run false false 10 10, .run true false 10 10, .resume 0, .operationReturns 0 false 10,
      .resolverSettles 0, .releaseJob 0] = some gate ∧
    gate.active ≤ gate.maximum ∧ gate.runs.countP inProgress + gate.runs.countP betweenJobs = gate.active ∧
    gate.runs.countP betweenJobs = 1 := by
  have hreached : after [.run false false 10 10, .run true false 10 10, .resume 0, .operationReturns 0 false 10,
      .resolverSettles 0, .releaseJob 0] =
      some ⟨1, [], 1, [⟨.released, false, none, false, false⟩, ⟨.granted, true, some ⟨true, false, false, [.granted]⟩, false, false⟩],
        false⟩ := by decide +kernel
  obtain ⟨hbounded, hsum, -⟩ := dns_gate (after.reachable hreached)
  exact ⟨_, hreached, hbounded, hsum, by decide⟩

end DnsResolutionGate

end PerPay.Notifications
