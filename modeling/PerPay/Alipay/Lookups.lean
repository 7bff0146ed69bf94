/-
  **Shared name lookups** (`infrastructure/alipay/node-transport.ts`, `resolvePublicAddresses`, `withDeadline`).

  Concurrent requests share one lookup of a name: the first starts it and puts it into a table, the others
  find it there, and each waits for its result under a deadline and a signal of its own.  A lookup is
  cancelled by the last caller that leaves before it is finished, and taken out of the table when it is
  finished or cancelled.

  1. **Code** — the table, the lookups and the callers; a label for a call, for every event of a signal or a
     timer, for the jobs of a lookup's promise, and for the `finally` of a caller.  Jobs and events come in
     any order.
  2. **The invariant** (`Inv`) — a lookup counts the callers that have not left it; the table holds exactly
     the lookups that are neither finished nor cancelled; and a cancelled lookup has no caller.
  3. **The crux** — leaving, cancelling and removing is one step, so nobody finds a lookup that was cancelled
     (`Inv.leave`).
-/
import Mathlib.Data.List.Basic
import Mathlib.Data.Rat.Floor
import Mathlib.Logic.Function.Basic
import PerPay.Lib.Runs
import PerPay.Lib.Places
import PerPay.Alipay.Exchange

namespace PerPay.Alipay

/-! ## Source -/

structure HostnameResolutionAddress where
  address : String
  family : Nat
  deriving DecidableEq, Repr

structure ResolvedAddress where
  address : String
  family : Nat
  deriving DecidableEq, Repr

/-- The callback on the records of a resolver: the public addresses among them, each once. -/
def publicAddresses (isPublicAddress : String → Nat → Bool) (records : List HostnameResolutionAddress) : List ResolvedAddress :=
  (records.foldl (fun (seen, addresses) record =>
    if !isPublicAddress record.address record.family then (seen, addresses)
    else
      let key := s!"{record.family}:{record.address}"
      if seen.contains key then (seen, addresses)
      else (key :: seen, addresses ++ [⟨record.address, record.family⟩])) (([] : List String), [])).2

/-- How far the promise of a lookup is. -/
inductive Progress
  /-- the resolver's promise is pending -/
  | resolving
  /-- the resolver's promise is settled; the callback on its records is a job -/
  | resolved (records : Except RuntimeError (List HostnameResolutionAddress))
  /-- the callback of `finally` is a job -/
  | filtered (result : Except RuntimeError (List ResolvedAddress))
  /-- the callback of `finally` has run; `result` is still pending -/
  | closing (result : Except RuntimeError (List ResolvedAddress))
  /-- `result` is settled -/
  | finished (result : Except RuntimeError (List ResolvedAddress))
  deriving DecidableEq

/-- An entry of the table, with its name; `cancelled` is set by a call of the resolution's `cancel`. -/
structure PendingAddressLookup where
  hostname : String
  waiters : Nat
  settled : Bool
  cancelled : Bool
  progress : Progress
  deriving DecidableEq

/-- What a caller's `withDeadline` is settled with. -/
inductive Ending
  | aborted
  | timedOut
  | answered (result : Except RuntimeError (List ResolvedAddress))
  deriving DecidableEq

/-- The outcome of a call. -/
def Ending.outcome : Ending → Except Failure (List ResolvedAddress)
  | .aborted => .error abortError
  | .timedOut => .error timeoutError
  | .answered (.error cause) => .error (.runtime cause)
  | .answered (.ok addresses) => .ok addresses

/-- Where a caller is: its `withDeadline` is pending; or settled, and its `finally` is a job; or over. -/
inductive Place
  | waiting
  | leaving (ending : Ending)
  | left (ending : Ending)
  deriving DecidableEq

/-- A call, with the place of its lookup; `attached` when `withDeadline` listens to the lookup's result. -/
structure Caller where
  hostname : String
  lookup : Nat
  place : Place
  timer : Bool
  listening : Bool
  attached : Bool
  deriving DecidableEq

/-- `withDeadline` around the result of a lookup; `remaining` is what is left of the deadline. -/
def withDeadline (hostname : String) (lookup : Nat) (signal aborted : Bool) (remaining : ℚ) : Caller :=
  if ⌊remaining⌋ < 1 then ⟨hostname, lookup, .leaving .timedOut, false, false, false⟩
  else if signal && aborted then ⟨hostname, lookup, .leaving .aborted, false, false, true⟩
  else ⟨hostname, lookup, .waiting, true, signal, true⟩

/-- `finish` of a caller's `withDeadline`. -/
def Caller.finish (ending : Ending) (caller : Caller) : Caller :=
  if caller.place = .waiting then { caller with place := .leaving ending, timer := false, listening := false } else caller

/-- The table of one resolver, every lookup and every caller. -/
structure Lookups where
  pending : String → Option Nat
  lookups : List PendingAddressLookup
  callers : List Caller

namespace Lookups

def new : Lookups := ⟨fun _ => none, [], []⟩

def setLookup (id : Nat) (lookup : PendingAddressLookup) (state : Lookups) : Lookups :=
  { state with lookups := state.lookups.set id lookup }

def setCaller (k : Nat) (caller : Caller) (state : Lookups) : Lookups :=
  { state with callers := state.callers.set k caller }

/-- `if (get(hostname) === pending) delete(hostname)`. -/
def remove (hostname : String) (id : Nat) (state : Lookups) : Lookups :=
  if state.pending hostname = some id then { state with pending := Function.update state.pending hostname none } else state

/-- The lookup that `resolvePublicAddresses` starts. -/
def start (hostname : String) (state : Lookups) : Lookups :=
  { state with
    pending := Function.update state.pending hostname (some state.lookups.length)
    lookups := state.lookups ++ [⟨hostname, 0, false, false, .resolving⟩] }

/-- `resolvePublicAddresses` from the count of the waiters up to its `await`. -/
def join (hostname : String) (id : Nat) (signal aborted : Bool) (remaining : ℚ) (state : Lookups) : Lookups :=
  { state with
    lookups := state.lookups.modify id fun lookup => { lookup with waiters := lookup.waiters + 1 }
    callers := state.callers ++ [withDeadline hostname id signal aborted remaining] }

/-- `resolvePublicAddresses`, with what the start of a resolution throws when it does: then the call is rejected
    and leaves nothing behind. -/
def call (hostname : String) (signal aborted : Bool) (remaining : ℚ) (throws : Option RuntimeError) (state : Lookups) :
    Lookups :=
  match state.pending hostname, throws with
  | some id, _ => state.join hostname id signal aborted remaining
  | none, some _ => state
  | none, none => (state.start hostname).join hostname state.lookups.length signal aborted remaining

/-- The `finally` of a caller. -/
def leave (k : Nat) (caller : Caller) (ending : Ending) (lookup : PendingAddressLookup) (state : Lookups) : Lookups :=
  let state := state.setCaller k { caller with place := .left ending }
  let lookup := { lookup with waiters := lookup.waiters - 1 }
  if lookup.waiters = 0 ∧ lookup.settled = false then
    (state.setLookup caller.lookup { lookup with cancelled := true }).remove caller.hostname caller.lookup
  else state.setLookup caller.lookup lookup

/-! ## Steps -/

inductive Event
  | call (hostname : String) (signal aborted : Bool) (remaining : ℚ) (throws : Option RuntimeError)
  /-- the signal of a caller is aborted -/
  | abort (k : Nat)
  /-- the timer of a caller fires -/
  | deadline (k : Nat)
  /-- the callback of a caller's `withDeadline` on the result of its lookup -/
  | deliver (k : Nat)
  /-- the `finally` of a caller -/
  | leave (k : Nat)
  /-- the resolver's promise is settled -/
  | resolve (id : Nat) (records : Except RuntimeError (List HostnameResolutionAddress))
  /-- the callback on the records -/
  | filter (id : Nat)
  /-- the callback of `finally` -/
  | close (id : Nat)
  /-- the promise of the result is settled -/
  | finish (id : Nat)

variable (isPublicAddress : String → Nat → Bool)

def stepCaller (state : Lookups) (k : Nat) (caller : Caller) : Event → Option Lookups
  | .abort _ => if caller.listening then some (state.setCaller k (caller.finish .aborted)) else none
  | .deadline _ => if caller.timer then some (state.setCaller k (caller.finish .timedOut)) else none
  | .deliver _ =>
    if caller.attached then do
      let lookup ← state.lookups[caller.lookup]?
      match lookup.progress with
      | .finished result => some (state.setCaller k (caller.finish (.answered result)))
      | _ => none
    else none
  | .leave _ =>
    match caller.place with
    | .leaving ending => state.lookups[caller.lookup]?.map fun lookup => state.leave k caller ending lookup
    | _ => none
  | _ => none

def stepLookup (state : Lookups) (id : Nat) (lookup : PendingAddressLookup) : Event → Option Lookups
  | .resolve _ records =>
    if lookup.progress = .resolving then some (state.setLookup id { lookup with progress := .resolved records }) else none
  | .filter _ =>
    match lookup.progress with
    | .resolved records =>
      some (state.setLookup id { lookup with progress := .filtered (records.map (publicAddresses isPublicAddress)) })
    | _ => none
  | .close _ =>
    match lookup.progress with
    | .filtered result =>
      some ((state.setLookup id { lookup with settled := true, progress := .closing result }).remove lookup.hostname id)
    | _ => none
  | .finish _ =>
    match lookup.progress with
    | .closing result => some (state.setLookup id { lookup with progress := .finished result })
    | _ => none
  | _ => none

/-- What an event does; `none` when it cannot happen. -/
def step (state : Lookups) (event : Event) : Option Lookups :=
  match event with
  | .call hostname signal aborted remaining throws => some (state.call hostname signal aborted remaining throws)
  | .abort k | .deadline k | .deliver k | .leave k => do
    let caller ← state.callers[k]?
    state.stepCaller k caller event
  | .resolve id _ | .filter id | .close id | .finish id => do
    let lookup ← state.lookups[id]?
    state.stepLookup isPublicAddress id lookup event

/-- The caller an event is about. -/
def Event.about : Event → Option Nat
  | .abort k | .deadline k | .deliver k | .leave k => some k
  | _ => none

def system : Runs.System Lookups Event where
  init state := state = new
  step state event state' := state.step isPublicAddress event = some state'

/-! ## The invariant -/

/-- The ending of a caller whose `withDeadline` is settled. -/
def ending : Place → Option Ending
  | .waiting => none
  | .leaving ending | .left ending => some ending

/-- The caller has not left the lookup. -/
def waitsFor (id : Nat) (caller : Caller) : Bool :=
  match caller.place with
  | .left _ => false
  | _ => caller.lookup = id

/-- The lookup is neither finished nor cancelled. -/
def Live (lookup : PendingAddressLookup) : Prop := lookup.settled = false ∧ lookup.cancelled = false

/-- The callback of `finally` has run. -/
def isClosed : Progress → Bool
  | .closing _ | .finished _ => true
  | _ => false

/-- The table holds the live lookups, each under its name. -/
structure Table (state : Lookups) : Prop where
  live : ∀ hostname id, state.pending hostname = some id →
    ∃ lookup, state.lookups[id]? = some lookup ∧ lookup.hostname = hostname ∧ Live lookup
  listed : ∀ (id : Nat) (lookup : PendingAddressLookup), state.lookups[id]? = some lookup → Live lookup →
    state.pending lookup.hostname = some id

structure Inv (state : Lookups) : Prop where
  table : Table state
  counted : ∀ (id : Nat) (lookup : PendingAddressLookup), state.lookups[id]? = some lookup →
    lookup.waiters = state.callers.countP (waitsFor id)
  known : ∀ caller ∈ state.callers,
    ∃ lookup, state.lookups[caller.lookup]? = some lookup ∧ lookup.hostname = caller.hostname
  orphaned : ∀ (id : Nat) (lookup : PendingAddressLookup), state.lookups[id]? = some lookup → lookup.cancelled = true →
    lookup.waiters = 0
  settled : ∀ (id : Nat) (lookup : PendingAddressLookup), state.lookups[id]? = some lookup →
    lookup.settled = isClosed lookup.progress
  answered : ∀ caller ∈ state.callers, ∀ result, ending caller.place = some (.answered result) →
    ∃ lookup, state.lookups[caller.lookup]? = some lookup ∧ lookup.progress = .finished result ∧ lookup.cancelled = false

theorem Inv.new : Inv new where
  table := ⟨fun _ _ => (nomatch ·), fun _ _ => (nomatch ·)⟩
  counted := fun _ _ h => nomatch h
  known := fun _ h => nomatch h
  orphaned := fun _ _ h => nomatch h
  settled := fun _ _ h => nomatch h
  answered := fun _ h => nomatch h

variable {state state' : Lookups} {k id : Nat} {caller caller' : Caller} {lookup lookup' : PendingAddressLookup}

/-! ### The table -/

theorem remove_pending (hostname name : String) : (state.remove hostname id).pending name =
    if name = hostname ∧ state.pending hostname = some id then none else state.pending name := by
  unfold remove
  by_cases hlisted : state.pending hostname = some id
  · rw [if_pos hlisted]
    show Function.update state.pending hostname none name = _
    by_cases hname : name = hostname
    · rw [if_pos ⟨hname, hlisted⟩, hname, Function.update_self]
    · rw [if_neg fun h => hname h.1, Function.update_of_ne hname]
  · rw [if_neg hlisted, if_neg fun h => hlisted h.2]

@[simp] theorem remove_lookups (hostname : String) : (state.remove hostname id).lookups = state.lookups := by
  unfold remove
  split <;> rfl

@[simp] theorem remove_callers (hostname : String) : (state.remove hostname id).callers = state.callers := by
  unfold remove
  split <;> rfl

/-- A lookup whose name and liveness stay. -/
theorem Table.set (h : Table state) (hid : state.lookups[id]? = some lookup) (hname : lookup'.hostname = lookup.hostname)
    (hlive : Live lookup' ↔ Live lookup) (hpending : state'.pending = state.pending)
    (hlookups : state'.lookups = state.lookups.set id lookup') : Table state' where
  live := by
    intro hostname id' hlisted
    rw [hpending] at hlisted
    obtain ⟨other, hother, hnamed, hlives⟩ := h.live hostname id' hlisted
    rw [hlookups, Places.getElem?_set hid]
    by_cases hself : id' = id
    · subst hself
      obtain rfl := Option.some.inj (hid.symm.trans hother)
      exact ⟨lookup', if_pos rfl, hname.trans hnamed, hlive.mpr hlives⟩
    · exact ⟨other, (if_neg hself).trans hother, hnamed, hlives⟩
  listed := by
    intro id' other hother hlives
    rw [hlookups, Places.getElem?_set hid] at hother
    rw [hpending]
    split at hother
    · next hself =>
      obtain rfl := Option.some.inj hother
      rw [hname, hself]
      exact h.listed id lookup hid (hlive.mp hlives)
    · exact h.listed id' other hother hlives

/-- A lookup that is finished or cancelled, and taken out: a newer one under its name stays. -/
theorem Table.retire (h : Table state) (hid : state.lookups[id]? = some lookup) (hdead : ¬ Live lookup')
    (hpending : state'.pending = state.pending) (hlookups : state'.lookups = state.lookups.set id lookup') :
    Table (state'.remove lookup.hostname id) where
  live := by
    intro hostname id' hlisted
    rw [remove_pending, hpending] at hlisted
    split at hlisted
    · exact nomatch hlisted
    next hkept =>
    obtain ⟨other, hother, hnamed, hlives⟩ := h.live hostname id' hlisted
    have hself : id' ≠ id := by
      rintro rfl
      obtain rfl := Option.some.inj (hid.symm.trans hother)
      exact hkept ⟨hnamed.symm, hnamed ▸ hlisted⟩
    refine ⟨other, ?_, hnamed, hlives⟩
    rw [remove_lookups, hlookups, Places.getElem?_set hid, if_neg hself, hother]
  listed := by
    intro id' other hother hlives
    rw [remove_lookups, hlookups, Places.getElem?_set hid] at hother
    split at hother
    · obtain rfl := Option.some.inj hother
      exact absurd hlives hdead
    next hself =>
    have hlisted := h.listed id' other hother hlives
    rw [remove_pending, hpending, if_neg, hlisted]
    rintro ⟨hsame, hold⟩
    exact hself (Option.some.inj ((hsame ▸ hlisted).symm.trans hold))

/-! ### One step -/

/-- What a lookup keeps, whatever happens to it. -/
structure Follows (lookup lookup' : PendingAddressLookup) : Prop where
  hostname : lookup'.hostname = lookup.hostname
  settled : lookup'.settled = isClosed lookup'.progress
  orphaned : lookup'.cancelled = true → lookup'.waiters = 0
  finished : ∀ result, lookup.progress = .finished result → lookup.cancelled = false →
    lookup'.progress = .finished result ∧ lookup'.cancelled = false

/-- The caller is one there was, with the lookup and the ending it had, or a new one. -/
def Known (state : Lookups) (caller' : Caller) : Prop :=
  (∃ caller ∈ state.callers, caller'.hostname = caller.hostname ∧ caller'.lookup = caller.lookup ∧
    ending caller'.place = ending caller.place) ∨
  (∃ lookup, state.lookups[caller'.lookup]? = some lookup ∧ lookup.hostname = caller'.hostname) ∧
    ∀ result, ending caller'.place = some (.answered result) →
      ∃ lookup, state.lookups[caller'.lookup]? = some lookup ∧ lookup.progress = .finished result ∧ lookup.cancelled = false

theorem Known.of_mem (h : caller ∈ state.callers) : Known state caller := .inl ⟨caller, h, rfl, rfl, rfl⟩

/-- **One lookup changes**, and with it the table, the callers and the counts. -/
theorem Inv.update (h : Inv state) (lookup' : PendingAddressLookup) (hid : state.lookups[id]? = some lookup)
    (hfollows : Follows lookup lookup') (htable : Table state') (hlookups : state'.lookups = state.lookups.set id lookup')
    (hcallers : ∀ caller' ∈ state'.callers, Known state caller')
    (hcounted : ∀ (id' : Nat) (other : PendingAddressLookup), state'.lookups[id']? = some other →
      other.waiters = state'.callers.countP (waitsFor id')) : Inv state' := by
  have hkept : ∀ (id' : Nat) (found : PendingAddressLookup), state.lookups[id']? = some found →
      ∃ found' : PendingAddressLookup, state'.lookups[id']? = some found' ∧ found'.hostname = found.hostname ∧
        ∀ result, found.progress = .finished result → found.cancelled = false →
          found'.progress = .finished result ∧ found'.cancelled = false := by
    intro id' found hfound
    rw [hlookups, Places.getElem?_set hid]
    by_cases hself : id' = id
    · subst hself
      obtain rfl := Option.some.inj (hid.symm.trans hfound)
      exact ⟨lookup', if_pos rfl, hfollows.hostname, hfollows.finished⟩
    · exact ⟨found, (if_neg hself).trans hfound, rfl, fun _ hfinished hcancelled => ⟨hfinished, hcancelled⟩⟩
  have hchanged : ∀ (id' : Nat) (other : PendingAddressLookup), state'.lookups[id']? = some other →
      other = lookup' ∨ state.lookups[id']? = some other := by
    intro id' other hother
    rw [hlookups, Places.getElem?_set hid] at hother
    split at hother
    · exact .inl (Option.some.inj hother).symm
    · exact .inr hother
  refine ⟨htable, hcounted, fun caller' hcaller' => ?_, fun id' other hother hcancelled => ?_, fun id' other hother => ?_,
    fun caller' hcaller' result hending => ?_⟩
  · rcases hcallers caller' hcaller' with ⟨caller, hcaller, hhost, hlookup, -⟩ | ⟨⟨found, hfound, hname⟩, -⟩
    · obtain ⟨found, hfound, hname⟩ := h.known caller hcaller
      obtain ⟨found', hfound', hsame, -⟩ := hkept _ found hfound
      rw [hlookup, hhost]
      exact ⟨found', hfound', hsame.trans hname⟩
    · obtain ⟨found', hfound', hsame, -⟩ := hkept _ found hfound
      exact ⟨found', hfound', hsame.trans hname⟩
  · rcases hchanged id' other hother with rfl | hother
    · exact hfollows.orphaned hcancelled
    · exact h.orphaned id' other hother hcancelled
  · rcases hchanged id' other hother with rfl | hother
    · exact hfollows.settled
    · exact h.settled id' other hother
  · have hanswered : ∃ found, state.lookups[caller'.lookup]? = some found ∧ found.progress = .finished result ∧
        found.cancelled = false := by
      rcases hcallers caller' hcaller' with ⟨caller, hcaller, -, hlookup, hsame⟩ | ⟨-, hanswered⟩
      · rw [hlookup]
        exact h.answered caller hcaller result (hsame.symm.trans hending)
      · exact hanswered result hending
    obtain ⟨found, hfound, hfinished, hcancelled⟩ := hanswered
    obtain ⟨found', hfound', -, hfollowed⟩ := hkept _ found hfound
    exact ⟨found', hfound', hfollowed result hfinished hcancelled⟩

/-- A caller that goes on without leaving. -/
theorem Inv.setCaller (h : Inv state) (hk : state.callers[k]? = some caller) (hhost : caller'.hostname = caller.hostname)
    (hlookup : caller'.lookup = caller.lookup) (hwaits : ∀ id, waitsFor id caller' = waitsFor id caller)
    (hanswered : ∀ result, ending caller'.place = some (.answered result) →
      ∃ lookup, state.lookups[caller.lookup]? = some lookup ∧ lookup.progress = .finished result ∧ lookup.cancelled = false) :
    Inv (state.setCaller k caller') where
  table := ⟨h.table.live, h.table.listed⟩
  counted := by
    intro id lookup hid
    show lookup.waiters = (state.callers.set k caller').countP (waitsFor id)
    rw [Places.countP_set_of_eq (waitsFor id) hk (hwaits id)]
    exact h.counted id lookup hid
  known := by
    intro other hother
    rcases List.mem_or_eq_of_mem_set hother with hother | rfl
    · exact h.known other hother
    · rw [hlookup, hhost]
      exact h.known caller (List.mem_of_getElem? hk)
  orphaned := h.orphaned
  settled := h.settled
  answered := by
    intro other hother result hending
    rcases List.mem_or_eq_of_mem_set hother with hother | rfl
    · exact h.answered other hother result hending
    · rw [hlookup]
      exact hanswered result hending

/-- The promise of a lookup goes on, and the table keeps up with it. -/
theorem Inv.proceed (h : Inv state) (lookup' : PendingAddressLookup) (hid : state.lookups[id]? = some lookup)
    (hfollows : Follows lookup lookup')
    (hwaiters : lookup'.waiters = lookup.waiters) (htable : Table state')
    (hlookups : state'.lookups = state.lookups.set id lookup') (hcallers : state'.callers = state.callers) : Inv state' := by
  refine h.update lookup' hid hfollows htable hlookups (fun caller' hcaller' => .of_mem (hcallers ▸ hcaller')) fun id' other hother => ?_
  rw [hlookups, Places.getElem?_set hid] at hother
  rw [hcallers]
  split at hother
  · next hself =>
    obtain rfl := Option.some.inj hother
    rw [hwaiters, hself]
    exact h.counted id lookup hid
  · exact h.counted id' other hother

/-! ### A caller leaves -/

/-- What `leave` makes of the lookup: without waiters before it is finished, it is cancelled. -/
def leaves (lookup : PendingAddressLookup) : PendingAddressLookup :=
  { lookup with
    waiters := lookup.waiters - 1
    cancelled := lookup.cancelled || decide (lookup.waiters - 1 = 0 ∧ lookup.settled = false) }

theorem leave_eq (ending : Ending) (hname : lookup.hostname = caller.hostname) : state.leave k caller ending lookup =
    if lookup.waiters - 1 = 0 ∧ lookup.settled = false then
      ((state.setCaller k { caller with place := .left ending }).setLookup caller.lookup (leaves lookup)).remove lookup.hostname
        caller.lookup
    else (state.setCaller k { caller with place := .left ending }).setLookup caller.lookup (leaves lookup) := by
  unfold leave leaves
  dsimp only
  split
  · next hlast => rw [decide_eq_true hlast, Bool.or_true, hname]
  · next hmore => rw [decide_eq_false hmore, Bool.or_false]

theorem leave_callers (ending : Ending) : (state.leave k caller ending lookup).callers =
    state.callers.set k { caller with place := .left ending } := by
  unfold leave
  dsimp only
  split
  · rw [remove_callers]
    rfl
  · rfl

theorem leave_lookups (ending : Ending) (hname : lookup.hostname = caller.hostname) :
    (state.leave k caller ending lookup).lookups = state.lookups.set caller.lookup (leaves lookup) := by
  rw [leave_eq ending hname]
  split
  · rw [remove_lookups]
    rfl
  · rfl

theorem Table.leave (h : Table state) (hid : state.lookups[caller.lookup]? = some lookup) (ending : Ending)
    (hname : lookup.hostname = caller.hostname) : Table (state.leave k caller ending lookup) := by
  rw [leave_eq ending hname]
  split
  · next hlast =>
    refine Table.retire h hid (fun hlive => ?_) rfl rfl
    have hcancelled : (lookup.cancelled || decide (lookup.waiters - 1 = 0 ∧ lookup.settled = false)) = false := hlive.2
    rw [decide_eq_true hlast, Bool.or_true] at hcancelled
    exact nomatch hcancelled
  · next hmore =>
    refine @Table.set state _ caller.lookup lookup (leaves lookup) h hid rfl ?_ rfl rfl
    show lookup.settled = false ∧ (lookup.cancelled || decide (lookup.waiters - 1 = 0 ∧ lookup.settled = false)) = false ↔ _
    rw [decide_eq_false hmore, Bool.or_false]
    rfl

theorem Inv.leaves_follows (h : Inv state) (hid : state.lookups[id]? = some lookup) : Follows lookup (leaves lookup) where
  hostname := rfl
  settled := h.settled id lookup hid
  orphaned := by
    intro hcancelled
    show lookup.waiters - 1 = 0
    rcases Bool.or_eq_true_iff.mp hcancelled with hold | hlast
    · rw [h.orphaned id lookup hid hold]
    · exact (of_decide_eq_true hlast).1
  finished := by
    intro result hfinished hcancelled
    have hsettled : lookup.settled = true := by
      rw [h.settled id lookup hid, hfinished]
      rfl
    refine ⟨hfinished, ?_⟩
    show (lookup.cancelled || decide (lookup.waiters - 1 = 0 ∧ lookup.settled = false)) = false
    rw [hcancelled, hsettled]
    exact decide_eq_false fun hlast => nomatch hlast.2

/-- **A caller leaves.**  The last one to leave an unfinished lookup cancels it and takes it out in the same
    step, so that nobody finds a lookup that was cancelled. -/
theorem Inv.leave (h : Inv state) (hk : state.callers[k]? = some caller) {ending : Ending} (hplace : caller.place = .leaving ending)
    (hid : state.lookups[caller.lookup]? = some lookup) : Inv (state.leave k caller ending lookup) := by
  have hmem := List.mem_of_getElem? hk
  obtain ⟨other, hother, hname⟩ := h.known caller hmem
  obtain rfl := Option.some.inj (hid.symm.trans hother)
  have hlookups : (state.leave k caller ending lookup).lookups = state.lookups.set caller.lookup (leaves lookup) :=
    leave_lookups ending hname
  have hcallers : (state.leave k caller ending lookup).callers =
      state.callers.set k { caller with place := .left ending } := leave_callers ending
  refine h.update (leaves lookup) hid (h.leaves_follows hid) (h.table.leave hid ending hname) hlookups (fun caller' hcaller' => ?_)
    fun id' other hother => ?_
  · rw [hcallers] at hcaller'
    rcases List.mem_or_eq_of_mem_set hcaller' with hold | rfl
    · exact .of_mem hold
    · refine .inl ⟨caller, hmem, rfl, rfl, ?_⟩
      rw [hplace]
      rfl
  · have hcount := Places.countP_set (y := { caller with place := .left ending }) (waitsFor id') hk
    rw [if_neg (show ¬ waitsFor id' { caller with place := .left ending } = true from Bool.false_ne_true)] at hcount
    have hwaits : waitsFor id' caller = decide (caller.lookup = id') := by
      unfold waitsFor
      rw [hplace]
    rw [hlookups, Places.getElem?_set hid] at hother
    rw [hcallers]
    split at hother
    · next hself =>
      obtain rfl := Option.some.inj hother
      rw [if_pos (hwaits.trans (decide_eq_true hself.symm)), hself, ← h.counted caller.lookup lookup hid] at hcount
      show lookup.waiters - 1 = _
      rw [hself]
      omega
    · next hself =>
      rw [hwaits, decide_eq_false fun heq => hself heq.symm, ← h.counted id' other hother] at hcount
      exact hcount.symm

/-! ### A call comes in -/

theorem Inv.start (h : Inv state) {hostname : String} (hnone : state.pending hostname = none) : Inv (state.start hostname) := by
  have hfound : ∀ (id : Nat) (lookup : PendingAddressLookup), (state.start hostname).lookups[id]? = some lookup →
      (id = state.lookups.length ∧ lookup = ⟨hostname, 0, false, false, .resolving⟩) ∨ state.lookups[id]? = some lookup := by
    intro id lookup hid
    change (state.lookups ++ [_])[id]? = some lookup at hid
    rw [Places.getElem?_concat] at hid
    split at hid
    · next hnew => exact .inl ⟨hnew, (Option.some.inj hid).symm⟩
    · exact .inr hid
  have hold : ∀ (id : Nat) (lookup : PendingAddressLookup), state.lookups[id]? = some lookup →
      id < state.lookups.length ∧ (state.start hostname).lookups[id]? = some lookup := by
    intro id lookup hid
    obtain ⟨hlt, -⟩ := List.getElem?_eq_some_iff.mp hid
    exact ⟨hlt, (List.getElem?_append_left hlt).trans hid⟩
  refine ⟨⟨fun name id hlisted => ?_, fun id lookup hid hlive => ?_⟩, fun id lookup hid => ?_, fun caller hcaller => ?_,
    fun id lookup hid hcancelled => ?_, fun id lookup hid => ?_, fun caller hcaller result hending => ?_⟩
  · change Function.update state.pending hostname (some state.lookups.length) name = some id at hlisted
    by_cases hname : name = hostname
    · rw [hname, Function.update_self] at hlisted
      obtain rfl := Option.some.inj hlisted
      refine ⟨⟨hostname, 0, false, false, .resolving⟩, ?_, hname.symm, rfl, rfl⟩
      exact (Places.getElem?_concat _).trans (if_pos rfl)
    · rw [Function.update_of_ne hname] at hlisted
      obtain ⟨lookup, hid, hnamed, hlive⟩ := h.table.live name id hlisted
      exact ⟨lookup, (hold id lookup hid).2, hnamed, hlive⟩
  · show Function.update state.pending hostname (some state.lookups.length) lookup.hostname = some id
    rcases hfound id lookup hid with ⟨rfl, rfl⟩ | hid
    · exact Function.update_self ..
    · have hlisted := h.table.listed id lookup hid hlive
      rw [Function.update_of_ne, hlisted]
      rintro hname
      rw [hname, hnone] at hlisted
      exact nomatch hlisted
  · rcases hfound id lookup hid with ⟨rfl, rfl⟩ | hid
    · refine (List.countP_eq_zero.mpr fun caller hcaller hwaits => ?_).symm
      obtain ⟨lookup, hid, -⟩ := h.known caller hcaller
      unfold waitsFor at hwaits
      split at hwaits
      · exact nomatch hwaits
      · exact Nat.ne_of_lt (hold _ lookup hid).1 (of_decide_eq_true hwaits)
    · exact h.counted id lookup hid
  · obtain ⟨lookup, hid, hname⟩ := h.known caller hcaller
    exact ⟨lookup, (hold _ lookup hid).2, hname⟩
  · rcases hfound id lookup hid with ⟨rfl, rfl⟩ | hid
    · exact nomatch hcancelled
    · exact h.orphaned id lookup hid hcancelled
  · rcases hfound id lookup hid with ⟨rfl, rfl⟩ | hid
    · rfl
    · exact h.settled id lookup hid
  · obtain ⟨lookup, hid, hanswered⟩ := h.answered caller hcaller result hending
    exact ⟨lookup, (hold _ lookup hid).2, hanswered⟩

/-- A new caller waits, or is about to leave without an answer. -/
theorem withDeadline_spec (hostname : String) (id : Nat) (signal aborted : Bool) (remaining : ℚ) :
    (withDeadline hostname id signal aborted remaining).hostname = hostname ∧
    (withDeadline hostname id signal aborted remaining).lookup = id ∧
    (∀ id', waitsFor id' (withDeadline hostname id signal aborted remaining) = decide (id = id')) ∧
    ∀ result, ending (withDeadline hostname id signal aborted remaining).place ≠ some (.answered result) := by
  unfold withDeadline
  split
  · exact ⟨rfl, rfl, fun _ => rfl, fun _ => nofun⟩
  split
  · exact ⟨rfl, rfl, fun _ => rfl, fun _ => nofun⟩
  · exact ⟨rfl, rfl, fun _ => rfl, fun _ => nofun⟩

theorem Inv.join (h : Inv state) {hostname : String} (hlisted : state.pending hostname = some id) (signal aborted : Bool)
    (remaining : ℚ) : Inv (state.join hostname id signal aborted remaining) := by
  obtain ⟨lookup, hid, hname, hlive⟩ := h.table.live hostname id hlisted
  obtain ⟨hhost, hlookup, hwaits, hunanswered⟩ := withDeadline_spec hostname id signal aborted remaining
  have hlookups : (state.join hostname id signal aborted remaining).lookups =
      state.lookups.set id { lookup with waiters := lookup.waiters + 1 } := Places.modify_eq_set _ hid
  refine h.update { lookup with waiters := lookup.waiters + 1 } hid ⟨rfl, h.settled id lookup hid, ?_, ?_⟩
    (Table.set h.table hid (by rfl) (by rfl) rfl hlookups) hlookups (fun caller' hcaller' => ?_) fun id' other hother => ?_
  · exact fun hcancelled => absurd (hlive.2.symm.trans hcancelled) Bool.false_ne_true
  · exact fun _ hfinished hcancelled => ⟨hfinished, hcancelled⟩
  · rcases List.mem_append.mp hcaller' with hold | hnew
    · exact .of_mem hold
    · obtain rfl := List.mem_singleton.mp hnew
      refine .inr ⟨⟨lookup, by rw [hlookup]; exact hid, by rw [hhost]; exact hname⟩, fun result hending => ?_⟩
      exact absurd hending (hunanswered result)
  · show other.waiters = (state.callers ++ [_]).countP (waitsFor id')
    rw [hlookups, Places.getElem?_set hid] at hother
    rw [List.countP_append, List.countP_singleton, hwaits]
    split at hother
    · next hself =>
      obtain rfl := Option.some.inj hother
      subst hself
      rw [if_pos (decide_eq_true rfl), ← h.counted id' lookup hid]
    · next hself =>
      rw [if_neg (fun heq => hself (of_decide_eq_true heq).symm), ← h.counted id' other hother, Nat.add_zero]

theorem Inv.call (h : Inv state) (hostname : String) (signal aborted : Bool) (remaining : ℚ) (throws : Option RuntimeError) :
    Inv (state.call hostname signal aborted remaining throws) := by
  unfold Lookups.call
  split
  · next hlisted => exact h.join hlisted signal aborted remaining
  · exact h
  · next hnone => exact (h.start hnone).join (Function.update_self ..) signal aborted remaining

/-! ### Every step -/

variable {isPublicAddress : String → Nat → Bool} {event : Event}

/-- A lookup that someone waits for was not cancelled. -/
theorem Inv.uncancelled (h : Inv state) (hk : state.callers[k]? = some caller) (hwaiting : caller.place = .waiting)
    (hid : state.lookups[caller.lookup]? = some lookup) : lookup.cancelled = false := by
  have hwaits : waitsFor caller.lookup caller = true := by
    unfold waitsFor
    rw [hwaiting]
    exact decide_eq_true rfl
  have hpositive : 0 < lookup.waiters := by
    rw [h.counted caller.lookup lookup hid]
    exact List.countP_pos_iff.mpr ⟨caller, List.mem_of_getElem? hk, hwaits⟩
  by_contra hcancelled
  have hzero := h.orphaned caller.lookup lookup hid (Bool.not_eq_false _ |>.mp hcancelled)
  omega

/-- A caller whose `withDeadline` is settled, if it was not. -/
theorem Inv.finish (h : Inv state) (hk : state.callers[k]? = some caller) (last : Ending)
    (hanswered : caller.place = .waiting → ∀ result, last = .answered result →
      ∃ lookup, state.lookups[caller.lookup]? = some lookup ∧ lookup.progress = .finished result ∧ lookup.cancelled = false) :
    Inv (state.setCaller k (caller.finish last)) := by
  unfold Caller.finish
  split
  · next hwaiting =>
    refine h.setCaller hk rfl rfl (fun id => ?_) fun result hending =>
      hanswered hwaiting result (Option.some.inj hending)
    unfold waitsFor
    rw [hwaiting]
  · exact h.setCaller hk rfl rfl (fun _ => rfl) (h.answered caller (List.mem_of_getElem? hk))

theorem Inv.stepCaller (h : Inv state) (hk : state.callers[k]? = some caller)
    (hstep : state.stepCaller k caller event = some state') : Inv state' := by
  cases event <;> dsimp only [Lookups.stepCaller] at hstep
  case abort k' =>
    obtain ⟨-, hstep⟩ := Option.ite_none_right_eq_some.mp hstep
    obtain rfl := Option.some.inj hstep
    exact h.finish hk .aborted fun _ _ hending => nomatch hending
  case deadline k' =>
    obtain ⟨-, hstep⟩ := Option.ite_none_right_eq_some.mp hstep
    obtain rfl := Option.some.inj hstep
    exact h.finish hk .timedOut fun _ _ hending => nomatch hending
  case deliver k' =>
    obtain ⟨-, hstep⟩ := Option.ite_none_right_eq_some.mp hstep
    obtain ⟨lookup, hid, hstep⟩ := Option.bind_eq_some_iff.mp hstep
    split at hstep
    · next result hfinished =>
      obtain rfl := Option.some.inj hstep
      refine h.finish hk (.answered result) fun hwaiting other hother => ?_
      obtain rfl := Ending.answered.inj hother
      exact ⟨lookup, hid, hfinished, h.uncancelled hk hwaiting hid⟩
    · exact nomatch hstep
  case leave k' =>
    split at hstep
    · next ending hplace =>
      obtain ⟨lookup, hid, rfl⟩ := Option.map_eq_some_iff.mp hstep
      exact h.leave hk hplace hid
    · exact nomatch hstep
  all_goals exact nomatch hstep

theorem Inv.stepLookup (h : Inv state) (hid : state.lookups[id]? = some lookup)
    (hstep : state.stepLookup isPublicAddress id lookup event = some state') : Inv state' := by
  have hsettled := h.settled id lookup hid
  have horphaned := h.orphaned id lookup hid
  cases event <;> dsimp only [Lookups.stepLookup] at hstep
  case resolve id' records =>
    obtain ⟨hprogress, hstep⟩ := Option.ite_none_right_eq_some.mp hstep
    obtain rfl := Option.some.inj hstep
    rw [hprogress] at hsettled
    refine h.proceed { lookup with progress := .resolved records } hid ⟨rfl, hsettled, horphaned, ?_⟩ rfl
      (Table.set h.table hid (by rfl) (by rfl) rfl rfl) rfl rfl
    exact fun result hfinished => nomatch hprogress.symm.trans hfinished
  case filter id' =>
    split at hstep
    · next records hprogress =>
      obtain rfl := Option.some.inj hstep
      rw [hprogress] at hsettled
      refine h.proceed { lookup with progress := .filtered (records.map (publicAddresses isPublicAddress)) } hid
        ⟨rfl, hsettled, horphaned, ?_⟩ rfl (Table.set h.table hid (by rfl) (by rfl) rfl rfl) rfl rfl
      exact fun result hfinished => nomatch hprogress.symm.trans hfinished
    · exact nomatch hstep
  case close id' =>
    split at hstep
    · next result hprogress =>
      obtain rfl := Option.some.inj hstep
      have hdead : ¬ Live { lookup with settled := true, progress := .closing result } := fun hlive => nomatch hlive.1
      refine h.proceed { lookup with settled := true, progress := .closing result } hid
        ⟨rfl, rfl, horphaned, ?_⟩ rfl (Table.retire h.table hid hdead rfl rfl) ?_ ?_
      · exact fun result hfinished => nomatch hprogress.symm.trans hfinished
      · exact remove_lookups _
      · exact remove_callers _
    · exact nomatch hstep
  case finish id' =>
    split at hstep
    · next result hprogress =>
      obtain rfl := Option.some.inj hstep
      rw [hprogress] at hsettled
      refine h.proceed { lookup with progress := .finished result } hid ⟨rfl, hsettled, horphaned, ?_⟩ rfl
        (Table.set h.table hid (by rfl) (by rfl) rfl rfl) rfl rfl
      exact fun result hfinished => nomatch hprogress.symm.trans hfinished
    · exact nomatch hstep
  all_goals exact nomatch hstep

theorem Inv.step (h : Inv state) (hstep : state.step isPublicAddress event = some state') : Inv state' := by
  cases event with
  | call hostname signal aborted remaining throws =>
    obtain rfl := Option.some.inj hstep
    exact h.call hostname signal aborted remaining throws
  | abort k | deadline k | deliver k | leave k =>
    obtain ⟨caller, hk, hstep⟩ := Option.bind_eq_some_iff.mp hstep
    exact h.stepCaller hk hstep
  | resolve id records | filter id | close id | finish id =>
    obtain ⟨lookup, hid, hstep⟩ := Option.bind_eq_some_iff.mp hstep
    exact h.stepLookup hid hstep

theorem Inv.reachable (h : Runs.Reachable (system isPublicAddress) state) : Inv state :=
  h.invariant (fun _ hnew => hnew ▸ .new) fun _ _ _ hinv hstep => hinv.step hstep

/-! ## Shared lookups -/

/-- A call leaves the callers there are. -/
theorem call_callers (hk : state.callers[k]? = some caller) (hostname : String) (signal aborted : Bool) (remaining : ℚ)
    (throws : Option RuntimeError) : (state.call hostname signal aborted remaining throws).callers[k]? = some caller := by
  obtain ⟨hlt, -⟩ := List.getElem?_eq_some_iff.mp hk
  unfold Lookups.call
  split
  · exact (List.getElem?_append_left hlt).trans hk
  · exact hk
  · exact (List.getElem?_append_left hlt).trans hk

theorem stepLookup_callers (hstep : state.stepLookup isPublicAddress id lookup event = some state') :
    state'.callers = state.callers := by
  cases event <;> dsimp only [Lookups.stepLookup] at hstep
  case resolve id' records =>
    obtain ⟨-, hstep⟩ := Option.ite_none_right_eq_some.mp hstep
    obtain rfl := Option.some.inj hstep
    rfl
  case filter id' =>
    split at hstep
    · obtain rfl := Option.some.inj hstep
      rfl
    · exact nomatch hstep
  case close id' =>
    split at hstep
    · obtain rfl := Option.some.inj hstep
      exact remove_callers _
    · exact nomatch hstep
  case finish id' =>
    split at hstep
    · obtain rfl := Option.some.inj hstep
      rfl
    · exact nomatch hstep
  all_goals exact nomatch hstep

/-- What an event does to the caller it is about: while it waits, only its own signal, its own timer and the
    result of its lookup make it leave. -/
def Ends (event : Event) (k : Nat) (caller' : Caller) : Prop :=
  event = .abort k ∧ caller'.place = .leaving .aborted ∨ event = .deadline k ∧ caller'.place = .leaving .timedOut ∨
  event = .deliver k ∧ ∃ result, caller'.place = .leaving (.answered result)

theorem finish_waiting (hwaiting : caller.place = .waiting) (last : Ending) : (caller.finish last).place = .leaving last := by
  unfold Caller.finish
  rw [if_pos hwaiting]

theorem stepCaller_callers (hevent : event.about = some k) (hstep : state.stepCaller k caller event = some state') :
    ∃ caller', state'.callers = state.callers.set k caller' ∧ (caller.place = .waiting → Ends event k caller') := by
  cases event <;> dsimp only [Lookups.stepCaller] at hstep
  case abort k' =>
    obtain rfl := Option.some.inj hevent
    obtain ⟨-, hstep⟩ := Option.ite_none_right_eq_some.mp hstep
    obtain rfl := Option.some.inj hstep
    exact ⟨_, rfl, fun hwaiting => .inl ⟨rfl, finish_waiting hwaiting _⟩⟩
  case deadline k' =>
    obtain rfl := Option.some.inj hevent
    obtain ⟨-, hstep⟩ := Option.ite_none_right_eq_some.mp hstep
    obtain rfl := Option.some.inj hstep
    exact ⟨_, rfl, fun hwaiting => .inr (.inl ⟨rfl, finish_waiting hwaiting _⟩)⟩
  case deliver k' =>
    obtain rfl := Option.some.inj hevent
    obtain ⟨-, hstep⟩ := Option.ite_none_right_eq_some.mp hstep
    obtain ⟨lookup, -, hstep⟩ := Option.bind_eq_some_iff.mp hstep
    split at hstep
    · next result _ =>
      obtain rfl := Option.some.inj hstep
      exact ⟨_, rfl, fun hwaiting => .inr (.inr ⟨rfl, result, finish_waiting hwaiting _⟩)⟩
    · exact nomatch hstep
  case leave k' =>
    split at hstep
    · next last hplace =>
      obtain ⟨lookup, -, rfl⟩ := Option.map_eq_some_iff.mp hstep
      exact ⟨_, leave_callers last, fun hwaiting => nomatch hplace.symm.trans hwaiting⟩
    · exact nomatch hstep
  all_goals exact nomatch hstep

/-- **No caller sees the others**: an event leaves every caller that it is not about as it is, and makes the
    one it is about leave for its own reason. -/
theorem step_callers (hstep : state.step isPublicAddress event = some state') (hk : state.callers[k]? = some caller) :
    (event.about ≠ some k → state'.callers[k]? = some caller) ∧
    ∀ caller', state'.callers[k]? = some caller' → caller.place = .waiting → caller' = caller ∨ Ends event k caller' := by
  have hsame : state'.callers[k]? = some caller → (event.about ≠ some k → state'.callers[k]? = some caller) ∧
      ∀ caller', state'.callers[k]? = some caller' → caller.place = .waiting → caller' = caller ∨ Ends event k caller' :=
    fun hkept => ⟨fun _ => hkept, fun _ hcaller' _ => .inl (Option.some.inj (hcaller'.symm.trans hkept))⟩
  have hown : ∀ {j : Nat}, event.about = some j → (do
      let caller ← state.callers[j]?
      state.stepCaller j caller event) = some state' → (event.about ≠ some k → state'.callers[k]? = some caller) ∧
      ∀ caller', state'.callers[k]? = some caller' → caller.place = .waiting → caller' = caller ∨ Ends event k caller' := by
    intro j hevent hstep
    obtain ⟨owner, hj, hstep⟩ := Option.bind_eq_some_iff.mp hstep
    obtain ⟨owner', hcallers, hends⟩ := stepCaller_callers hevent hstep
    by_cases hself : k = j
    · subst hself
      obtain rfl := Option.some.inj (hk.symm.trans hj)
      refine ⟨fun hother => absurd hevent hother, fun caller' hcaller' hwaiting => .inr ?_⟩
      rw [hcallers, Places.getElem?_set hk, if_pos rfl] at hcaller'
      obtain rfl := Option.some.inj hcaller'
      exact hends hwaiting
    · apply hsame
      rw [hcallers, Places.getElem?_set hj, if_neg hself, hk]
  cases event with
  | call hostname signal aborted remaining throws =>
    obtain rfl := Option.some.inj hstep
    exact hsame (call_callers hk hostname signal aborted remaining throws)
  | abort j | deadline j | deliver j | leave j => exact hown rfl hstep
  | resolve id records | filter id | close id | finish id =>
    obtain ⟨lookup, -, hstep⟩ := Option.bind_eq_some_iff.mp hstep
    exact hsame (stepLookup_callers hstep ▸ hk)

/-- An entry of the table is taken out when its lookup is finished, or by the caller that cancels it. -/
def TakenOut (state : Lookups) (event : Event) (state' : Lookups) (hostname : String) (id : Nat) : Prop :=
  state'.pending hostname = none ∧
  (event = .close id ∨ ∃ k caller, event = .leave k ∧ state.callers[k]? = some caller ∧ caller.lookup = id) ∧
  ∃ lookup', state'.lookups[id]? = some lookup' ∧ ¬ Live lookup'

theorem call_pending {hostname : String} (hlisted : state.pending hostname = some id) (name : String) (signal aborted : Bool)
    (remaining : ℚ) (throws : Option RuntimeError) :
    (state.call name signal aborted remaining throws).pending hostname = some id := by
  unfold Lookups.call
  split
  · exact hlisted
  · exact hlisted
  · next hnone =>
    have hother : hostname ≠ name := by
      rintro rfl
      exact nomatch hnone.symm.trans hlisted
    exact (Function.update_of_ne hother ..).trans hlisted

theorem Inv.leave_table (h : Inv state) (hk : state.callers[k]? = some caller) {hostname : String}
    (hlisted : state.pending hostname = some id) {last : Ending}
    (hfound : state.lookups[caller.lookup]? = some lookup) :
    (state.leave k caller last lookup).pending hostname = some id ∨
      TakenOut state (.leave k) (state.leave k caller last lookup) hostname id := by
  obtain ⟨other, hother, hname⟩ := h.known caller (List.mem_of_getElem? hk)
  obtain rfl := Option.some.inj (hfound.symm.trans hother)
  have hlookups : (state.leave k caller last lookup).lookups = state.lookups.set caller.lookup (leaves lookup) :=
    leave_lookups last hname
  rw [leave_eq last hname] at hlookups ⊢
  split at hlookups
  · next hlast =>
    rw [if_pos hlast]
    by_cases hout : hostname = lookup.hostname ∧ state.pending lookup.hostname = some caller.lookup
    · have hsame : id = caller.lookup := Option.some.inj ((hout.1 ▸ hlisted).symm.trans hout.2)
      refine .inr ⟨(remove_pending _ hostname).trans (if_pos hout), .inr ⟨k, caller, rfl, hk, hsame.symm⟩, leaves lookup, ?_, ?_⟩
      · rw [hlookups, hsame, Places.getElem?_set hfound, if_pos rfl]
      · intro hlive
        have hcancelled : (lookup.cancelled || decide (lookup.waiters - 1 = 0 ∧ lookup.settled = false)) = false := hlive.2
        rw [decide_eq_true hlast, Bool.or_true] at hcancelled
        exact nomatch hcancelled
    · exact .inl ((remove_pending _ hostname).trans ((if_neg hout).trans hlisted))
  · next hmore =>
    rw [if_neg hmore]
    exact .inl hlisted

theorem stepLookup_table {hostname : String} (hlisted : state.pending hostname = some id) {id' : Nat}
    (hid : state.lookups[id']? = some lookup) (hevent : ∀ j, event = .close j → j = id')
    (hstep : state.stepLookup isPublicAddress id' lookup event = some state') :
    state'.pending hostname = some id ∨ TakenOut state event state' hostname id := by
  cases event <;> dsimp only [Lookups.stepLookup] at hstep
  case resolve j records =>
    obtain ⟨-, hstep⟩ := Option.ite_none_right_eq_some.mp hstep
    obtain rfl := Option.some.inj hstep
    exact .inl hlisted
  case filter j =>
    split at hstep
    · obtain rfl := Option.some.inj hstep
      exact .inl hlisted
    · exact nomatch hstep
  case close j =>
    obtain rfl := hevent j rfl
    split at hstep
    · next result _ =>
      obtain rfl := Option.some.inj hstep
      by_cases hout : hostname = lookup.hostname ∧ state.pending lookup.hostname = some j
      · obtain rfl : id = j := Option.some.inj ((hout.1 ▸ hlisted).symm.trans hout.2)
        refine .inr ⟨(remove_pending _ hostname).trans (if_pos hout), .inl rfl,
          { lookup with settled := true, progress := .closing result }, ?_, fun hlive => nomatch hlive.1⟩
        rw [remove_lookups]
        exact (Places.getElem?_set hid id).trans (if_pos rfl)
      · exact .inl ((remove_pending _ hostname).trans ((if_neg hout).trans hlisted))
    · exact nomatch hstep
  case finish j =>
    split at hstep
    · obtain rfl := Option.some.inj hstep
      exact .inl hlisted
    · exact nomatch hstep
  all_goals exact nomatch hstep

/-- **A lookup takes only itself out of the table.** -/
theorem Inv.step_table (h : Inv state) (hstep : state.step isPublicAddress event = some state') {hostname : String}
    (hlisted : state.pending hostname = some id) :
    state'.pending hostname = some id ∨ TakenOut state event state' hostname id := by
  cases event with
  | call name signal aborted remaining throws =>
    obtain rfl := Option.some.inj hstep
    exact .inl (call_pending hlisted name signal aborted remaining throws)
  | abort j | deadline j =>
    obtain ⟨caller, hj, hstep⟩ := Option.bind_eq_some_iff.mp hstep
    obtain ⟨-, hstep⟩ := Option.ite_none_right_eq_some.mp hstep
    obtain rfl := Option.some.inj hstep
    exact .inl hlisted
  | deliver j =>
    obtain ⟨caller, hj, hstep⟩ := Option.bind_eq_some_iff.mp hstep
    obtain ⟨-, hstep⟩ := Option.ite_none_right_eq_some.mp hstep
    obtain ⟨lookup, -, hstep⟩ := Option.bind_eq_some_iff.mp hstep
    split at hstep
    · obtain rfl := Option.some.inj hstep
      exact .inl hlisted
    · exact nomatch hstep
  | leave j =>
    obtain ⟨caller, hj, hstep⟩ := Option.bind_eq_some_iff.mp hstep
    dsimp only [Lookups.stepCaller] at hstep
    split at hstep
    · obtain ⟨lookup, hfound, rfl⟩ := Option.map_eq_some_iff.mp hstep
      exact h.leave_table hj hlisted hfound
    · exact nomatch hstep
  | resolve j records | filter j | finish j =>
    obtain ⟨lookup, hj, hstep⟩ := Option.bind_eq_some_iff.mp hstep
    exact stepLookup_table hlisted hj (fun _ hevent => nomatch hevent) hstep
  | close j =>
    obtain ⟨lookup, hj, hstep⟩ := Option.bind_eq_some_iff.mp hstep
    exact stepLookup_table hlisted hj (fun _ hevent => (Event.close.inj hevent).symm) hstep

/-- What holds in a state of the lookups: a lookup counts the callers that have not left it, and when it is
    cancelled every caller has; an answer is the result of a lookup that was never cancelled; no event changes
    a caller it is not about, and one that waits leaves for a reason of its own; and what leaves the table is
    the lookup that was finished or cancelled. -/
structure Shared (isPublicAddress : String → Nat → Bool) (state : Lookups) : Prop where
  counted : ∀ (id : Nat) (lookup : PendingAddressLookup), state.lookups[id]? = some lookup →
    lookup.waiters = state.callers.countP (waitsFor id)
  cancelled : ∀ (id : Nat) (lookup : PendingAddressLookup), state.lookups[id]? = some lookup → lookup.cancelled = true →
    ∀ caller ∈ state.callers, caller.lookup = id → ∃ last, caller.place = .left last
  answered : ∀ caller ∈ state.callers, ∀ result, ending caller.place = some (.answered result) →
    ∃ lookup, state.lookups[caller.lookup]? = some lookup ∧ lookup.progress = .finished result ∧ lookup.cancelled = false
  callers : ∀ event state', state.step isPublicAddress event = some state' → ∀ (k : Nat) (caller : Caller),
    state.callers[k]? = some caller → (event.about ≠ some k → state'.callers[k]? = some caller) ∧
    ∀ caller', state'.callers[k]? = some caller' → caller.place = .waiting → caller' = caller ∨ Ends event k caller'
  table : ∀ event state', state.step isPublicAddress event = some state' → ∀ hostname id,
    state.pending hostname = some id → state'.pending hostname = some id ∨ TakenOut state event state' hostname id

theorem Inv.shared (h : Inv state) : Shared isPublicAddress state where
  counted := h.counted
  cancelled := by
    intro id lookup hid hcancelled caller hcaller hlookup
    have hzero := (h.counted id lookup hid).symm.trans (h.orphaned id lookup hid hcancelled)
    have hnone := List.countP_eq_zero.mp hzero caller hcaller
    unfold waitsFor at hnone
    split at hnone
    · next last hleft => exact ⟨last, hleft⟩
    · exact absurd (decide_eq_true hlookup) hnone
  answered := h.answered
  callers := fun _ _ hstep _ _ hk => step_callers hstep hk
  table := fun _ _ hstep _ _ hlisted => h.step_table hstep hlisted

end Lookups

/-! ## The transport -/

/-- **The transport.**  Every exchange is settled exactly once, with what was received, and leaves nothing
    behind (`Exchange.Exact`); and however many callers share the lookups, none of them fails another, and
    none takes a lookup away that is needed (`Lookups.Shared`). -/
theorem node_transport (isPublicAddress : String → Nat → Bool) :
    (∀ events exchange, Runs.Run Exchange.system events exchange → Exchange.Exact events exchange) ∧
    ∀ state, Runs.Reachable (Lookups.system isPublicAddress) state → Lookups.Shared isPublicAddress state :=
  ⟨fun _ _ hrun => Exchange.exact_of_run hrun, fun _ hreached => (Lookups.Inv.reachable hreached).shared⟩

/-- A response of three bytes in two chunks; and two callers that share a lookup, of which the first is
    aborted and leaves: the lookup goes on for the second. -/
theorem node_transport_sample : ∃ exchange state,
    Exchange.after [.start false false 10, .factoryReturns, .sent, .response ⟨some 200, .ok []⟩, .data [1, 2], .data [3], .ended] =
      some exchange ∧
    exchange.outcomes.length = exchange.settled.toNat ∧ exchange.outcomes = [.ok ⟨200, [], [1, 2, 3]⟩] ∧
    Runs.follow (Lookups.step fun _ _ => true)
      [.call "example.com" true false 10 none, .call "example.com" false false 10 none, .abort 0, .leave 0] Lookups.new = some state ∧
    ∀ (id : Nat) (lookup : PendingAddressLookup), state.lookups[id]? = some lookup →
      lookup.waiters = state.callers.countP (Lookups.waitsFor id) := by
  have hexchange : Exchange.after
      [.start false false 10, .factoryReturns, .sent, .response ⟨some 200, .ok []⟩, .data [1, 2], .data [3], .ended] =
      some ⟨.returned, true, 3, [[1, 2], [3]], false, false, true, some ⟨some 200, .ok []⟩, false, false, none,
        [.ok ⟨200, [], [1, 2, 3]⟩], true, 0, 0⟩ := rfl
  obtain ⟨state, hstate⟩ : ∃ state, Runs.follow (Lookups.step fun _ _ => true)
      [.call "example.com" true false 10 none, .call "example.com" false false 10 none, .abort 0, .leave 0] Lookups.new = some state :=
    ⟨_, rfl⟩
  have hreached : Runs.Reachable (Lookups.system fun _ _ => true) state :=
    Runs.Reachable.follow (fun _ _ _ hstep => hstep) ⟨[], .start rfl⟩ hstate
  obtain ⟨hexact, hshared⟩ := node_transport fun _ _ => true
  exact ⟨_, state, hexchange, (hexact _ _ (Exchange.after.run hexchange)).once, rfl, hstate, (hshared state hreached).counted⟩

end PerPay.Alipay
