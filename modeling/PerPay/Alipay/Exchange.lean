/-
  **One exchange with the provider** (`infrastructure/alipay/node-transport.ts`, `requestAddresses`).

  `requestAddresses` makes a promise, calls a factory for the request and leaves its closures to the events
  of the request, of the response, of a timer and of the caller's signal.  Every one of them may come before
  the request is assigned, from inside the factory; the one that settles the promise first wins.

  1. **Code** — the variables of the executor as a record, its closures as functions on it, and one label
     for every event, the throw and the return of the factory included.  What the outside sees is recorded:
     the calls of `resolve` and `reject`, and of `destroy` on the request and on the response.
  2. **Open and closed** — while the promise is pending the chunks are all the bytes received, the timer is
     set and nothing was destroyed (`Open`); afterwards the timer and the listener are gone, and the history
     has one event that settled the promise (`Closed`).
  3. **The crux** — a failure before the request is assigned leaves its error behind, and the line after the
     factory returns destroys the request with it (`Closed.step`).
-/
import Mathlib.Data.List.Basic
import Mathlib.Data.Rat.Floor
import PerPay.Lib.Runs

namespace PerPay.Alipay

/-! ## Source -/

/-- `MAX_PROVIDER_RESPONSE_BYTES`. -/
def maxProviderResponseBytes : Nat := 2 * 1024 * 1024

abbrev V3Headers := List (String × List String)

structure RawV3Response where
  status : Int
  headers : V3Headers
  body : List UInt8
  deriving DecidableEq, Repr

/-- An `Error` of the runtime. -/
structure RuntimeError where
  name : String
  message : String
  deriving DecidableEq, Repr

inductive AlipayErrorKind
  | timeout
  | cancelled
  | network
  | invalidResponse
  deriving DecidableEq, Repr

inductive AlipayErrorCode
  | transportTimeout
  | transportCancelled
  | transportNetwork
  | responseBodyTooLarge
  | responseInvalidShape
  deriving DecidableEq, Repr

structure AlipayProviderError where
  kind : AlipayErrorKind
  code : AlipayErrorCode
  message : String
  status : Option Int
  responseHeaders : Option V3Headers
  rawBody : Option (List UInt8)
  cause : Option RuntimeError
  deriving DecidableEq, Repr

/-- What the promise is rejected with. -/
inductive Failure
  | provider (error : AlipayProviderError)
  | runtime (error : RuntimeError)
  deriving DecidableEq, Repr

def abortError : Failure := .runtime ⟨"AbortError", "provider request was aborted"⟩

def timeoutError : Failure :=
  .provider ⟨.timeout, .transportTimeout, "provider request timed out", none, none, none, none⟩

/-- `Buffer.concat` with a total length: cut off there, or filled up with zeros. -/
def bufferConcat (chunks : List (List UInt8)) (totalLength : Nat) : List UInt8 :=
  (chunks.flatten ++ List.replicate (totalLength - chunks.flatten.length) 0).take totalLength

/-- A response, with what `normalizeV3Headers` makes of its headers. -/
structure IncomingMessage where
  statusCode : Option Int
  headers : Except RuntimeError V3Headers

/-- How far the executor of the promise is. -/
inductive Stage
  | created
  /-- the factory is being called -/
  | requesting
  /-- the request is being written -/
  | sending
  | returned
  deriving DecidableEq, Repr

/-- The variables of the executor; then the calls of `resolve` and `reject`, whether the response callback
    was called, and how often `destroy` was called on the request and on the response. -/
structure Exchange where
  stage : Stage
  settled : Bool
  responseBytes : Nat
  chunks : List (List UInt8)
  deadlineTimer : Bool
  listening : Bool
  requestHandle : Bool
  responseHandle : Option IncomingMessage
  requestDestroyed : Bool
  responseDestroyed : Bool
  pendingRequestDestroyError : Option Failure
  outcomes : List (Except Failure RawV3Response)
  answered : Bool
  requestDestroys : Nat
  responseDestroys : Nat

namespace Exchange

def new : Exchange :=
  ⟨.created, false, 0, [], false, false, false, none, false, false, none, [], false, 0, 0⟩

def responseStatus (exchange : Exchange) : Option Int := exchange.responseHandle.bind (·.statusCode)

def responseHeaders (exchange : Exchange) : Option V3Headers := exchange.responseHandle.bind (·.headers.toOption)

def cleanup (exchange : Exchange) : Exchange := { exchange with deadlineTimer := false, listening := false }

def settleError (error : Failure) (exchange : Exchange) : Bool × Exchange :=
  if exchange.settled then (false, exchange)
  else (true,
    { cleanup exchange with
      settled := true
      chunks := []
      responseBytes := 0
      outcomes := exchange.outcomes ++ [.error error] })

def settleResponse (response : RawV3Response) (exchange : Exchange) : Bool × Exchange :=
  if exchange.settled then (false, exchange)
  else (true, { cleanup exchange with settled := true, outcomes := exchange.outcomes ++ [.ok response] })

def destroyRequest (error : Failure) (exchange : Exchange) : Exchange :=
  if exchange.requestDestroyed then exchange
  else if !exchange.requestHandle then { exchange with pendingRequestDestroyError := some error }
  else { exchange with requestDestroyed := true, requestDestroys := exchange.requestDestroys + 1 }

def destroyResponse (exchange : Exchange) : Exchange :=
  if exchange.responseHandle.isNone || exchange.responseDestroyed then exchange
  else { exchange with responseDestroyed := true, responseDestroys := exchange.responseDestroys + 1 }

def failAndDestroy (error : Failure) (exchange : Exchange) : Exchange :=
  if !(settleError error exchange).1 then (settleError error exchange).2
  else destroyRequest error (destroyResponse (settleError error exchange).2)

def responseFailure (kind : AlipayErrorKind) (code : AlipayErrorCode) (message : String) (cause : Option RuntimeError)
    (exchange : Exchange) : Failure :=
  .provider {
    kind := kind
    code := code
    message := message
    status := exchange.responseStatus
    responseHeaders := exchange.responseHeaders
    rawBody := if exchange.responseHandle.isNone then none else some (bufferConcat exchange.chunks exchange.responseBytes)
    cause := cause }

def failResponse (kind : AlipayErrorKind) (code : AlipayErrorCode) (message : String) (cause : Option RuntimeError)
    (exchange : Exchange) : Exchange :=
  if exchange.settled then exchange
  else failAndDestroy (responseFailure kind code message cause exchange) exchange

def abortFromCaller (exchange : Exchange) : Exchange :=
  if exchange.responseHandle.isSome then
    failResponse .cancelled .transportCancelled "provider response was cancelled" none exchange
  else failAndDestroy abortError exchange

/-- The callback of the deadline's timer. -/
def onDeadline (exchange : Exchange) : Exchange :=
  if exchange.responseHandle.isSome then
    failResponse .timeout .transportTimeout "provider response timed out" none exchange
  else failAndDestroy timeoutError exchange

/-- The executor up to the call of the factory; `remaining` is what is left of the deadline. -/
def start (signal aborted : Bool) (remaining : ℚ) (exchange : Exchange) : Exchange :=
  if signal && aborted then { abortFromCaller exchange with stage := .returned }
  else if ⌊remaining⌋ < 1 then
    { (settleError timeoutError { exchange with listening := signal }).2 with stage := .returned }
  else { exchange with listening := signal, deadlineTimer := true, stage := .requesting }

/-- The callback of the factory. -/
def onResponse (response : IncomingMessage) (exchange : Exchange) : Exchange :=
  if exchange.settled then
    { exchange with answered := true, responseDestroys := exchange.responseDestroys + 1 }
  else { exchange with answered := true, responseHandle := some response }

def onResponseError (cause : RuntimeError) (exchange : Exchange) : Exchange :=
  failResponse .network .transportNetwork "provider response stream failed" (some cause) exchange

def onAborted (exchange : Exchange) : Exchange :=
  failResponse .network .transportNetwork "provider response was aborted" none exchange

def onData (bytes : List UInt8) (exchange : Exchange) : Exchange :=
  if exchange.settled then exchange
  else
    let remaining := maxProviderResponseBytes - exchange.responseBytes
    if remaining < bytes.length then
      failResponse .invalidResponse .responseBodyTooLarge "provider response body exceeds the configured limit" none
        (if 0 < remaining then
          { exchange with
            chunks := exchange.chunks ++ [bytes.take remaining]
            responseBytes := exchange.responseBytes + remaining }
        else exchange)
    else
      { exchange with
        responseBytes := exchange.responseBytes + bytes.length
        chunks := exchange.chunks ++ [bytes] }

def onEnd (response : IncomingMessage) (exchange : Exchange) : Exchange :=
  if exchange.settled then exchange
  else
    let body := bufferConcat exchange.chunks exchange.responseBytes
    match response.headers with
    | .error cause =>
      (settleError (.provider ⟨.invalidResponse, .responseInvalidShape, "provider response headers are invalid",
        some (response.statusCode.getD 0), none, some body, some cause⟩) exchange).2
    | .ok headers => (settleResponse ⟨response.statusCode.getD 0, headers, body⟩ exchange).2

def onRequestError (cause : RuntimeError) (exchange : Exchange) : Exchange :=
  if exchange.responseHandle.isSome then
    failResponse .network .transportNetwork "provider connection failed while receiving a response" (some cause) exchange
  else (settleError (.runtime cause) exchange).2

/-- The executor from the return of the factory on, up to the calls of `write` and `end`. -/
def onRequest (exchange : Exchange) : Exchange :=
  match exchange.pendingRequestDestroyError with
  | some error => { destroyRequest error { exchange with requestHandle := true } with stage := .returned }
  | none =>
    if exchange.settled then
      { exchange with
        requestHandle := true
        requestDestroyed := true
        requestDestroys := exchange.requestDestroys + 1
        stage := .returned }
    else { exchange with requestHandle := true, stage := .sending }

/-- The `catch` of the executor, on an `Error` or on something else. -/
def onThrow (error : Option RuntimeError) (exchange : Exchange) : Exchange :=
  { failAndDestroy (.runtime (error.getD ⟨"Error", "provider request failed"⟩)) exchange with stage := .returned }

/-! ## Steps -/

inductive Event
  | start (signal aborted : Bool) (remaining : ℚ)
  | response (response : IncomingMessage)
  | data (bytes : List UInt8)
  | ended
  | responseError (cause : RuntimeError)
  | aborted
  | requestError (cause : RuntimeError)
  | deadline
  | abort
  | factoryReturns
  | factoryThrows (error : Option RuntimeError)
  | sent
  | sendThrows (error : Option RuntimeError)

/-- What an event does; `none` when it cannot happen.  The callback of the factory is called once at most, the
    listeners of the response are there once it is handled, and those of the request once it is assigned. -/
def step (exchange : Exchange) : Event → Option Exchange
  | .start signal aborted remaining =>
    if exchange.stage = .created then some (exchange.start signal aborted remaining) else none
  | .response response =>
    if exchange.stage = .created ∨ exchange.answered then none else some (exchange.onResponse response)
  | .data bytes => if exchange.responseHandle.isSome then some (exchange.onData bytes) else none
  | .ended => exchange.responseHandle.map fun response => exchange.onEnd response
  | .responseError cause => if exchange.responseHandle.isSome then some (exchange.onResponseError cause) else none
  | .aborted => if exchange.responseHandle.isSome then some exchange.onAborted else none
  | .requestError cause => if exchange.requestHandle then some (exchange.onRequestError cause) else none
  | .deadline => if exchange.deadlineTimer then some exchange.onDeadline else none
  | .abort => if exchange.listening then some (abortFromCaller { exchange with listening := false }) else none
  | .factoryReturns => if exchange.stage = .requesting then some exchange.onRequest else none
  | .factoryThrows error => if exchange.stage = .requesting then some (exchange.onThrow error) else none
  | .sent => if exchange.stage = .sending then some { exchange with stage := .returned } else none
  | .sendThrows error => if exchange.stage = .sending then some (exchange.onThrow error) else none

/-- The exchange as a system, from a call of `requestAddresses`. -/
def system : Runs.System Exchange Event where
  init exchange := exchange = new
  step exchange event exchange' := exchange.step event = some exchange'

/-! ## Histories -/

/-- The bytes of the chunks among some events. -/
def received (events : List Event) : List UInt8 :=
  events.flatMap fun
    | .data bytes => bytes
    | _ => []

/-- The response began. -/
def Began (events : List Event) : Prop := ∃ response, Event.response response ∈ events

/-- The factory, or the request while it is sent, throws. -/
def Event.throws : Event → Bool
  | .factoryThrows _ | .sendThrows _ => true
  | _ => false

/-- What the promise is settled with by an event: a response only at the end, with all the bytes received;
    and once the response began, an error with the bytes received up to the limit, unless it was thrown. -/
def Settles (before : List Event) (event : Event) : Except Failure RawV3Response → Prop
  | .ok response =>
    (∃ headers message, event = .ended ∧ Event.response message ∈ before ∧ message.headers = .ok headers ∧
      response = ⟨message.statusCode.getD 0, headers, received before⟩) ∧
    (received before).length ≤ maxProviderResponseBytes
  | .error failure => Began before → event.throws = false →
    ∃ error, failure = .provider error ∧
      error.rawBody = some ((received (before ++ [event])).take maxProviderResponseBytes)

/-- A failure that leaves the request and the response as they are: one that the request signals before the
    response began, and the end of a response with invalid headers. -/
def Spares (before : List Event) (event : Event) : Prop :=
  (∃ cause, event = .requestError cause) ∧ ¬ Began before ∨
  event = .ended ∧ ∃ response cause, Event.response response ∈ before ∧ response.headers = .error cause

/-- The request and the response, if they exist, were destroyed. -/
def Destroyed (exchange : Exchange) : Prop :=
  (exchange.requestHandle → 1 ≤ exchange.requestDestroys) ∧ (exchange.answered → 1 ≤ exchange.responseDestroys)

variable {exchange : Exchange} {events : List Event} {event : Event} {error : Failure}

theorem received_append (events events' : List Event) : received (events ++ events') = received events ++ received events' := by
  unfold received
  rw [List.flatMap_append]

theorem received_data (bytes : List UInt8) : received (events ++ [.data bytes]) = received events ++ bytes := by
  rw [received_append]
  show received events ++ (bytes ++ []) = received events ++ bytes
  rw [List.append_nil]

theorem bufferConcat_flatten (chunks : List (List UInt8)) : bufferConcat chunks chunks.flatten.length = chunks.flatten := by
  unfold bufferConcat
  rw [Nat.sub_self, List.replicate_zero, List.append_nil, List.take_length]

/-! ## Open and closed -/

/-- The promise is pending, and nothing was destroyed. -/
structure Pending (exchange : Exchange) : Prop where
  unsettled : exchange.settled = false
  outcomes : exchange.outcomes = []
  answered : exchange.answered = exchange.responseHandle.isSome
  request : exchange.requestDestroyed = false
  response : exchange.responseDestroyed = false

/-- What holds while the promise is pending. -/
structure Open (events : List Event) (exchange : Exchange) : Prop extends Pending exchange where
  timer : exchange.stage ≠ .created → exchange.deadlineTimer = true
  nothing : exchange.pendingRequestDestroyError = none
  early : exchange.stage = .created → exchange.responseHandle = none ∧ exchange.requestHandle = false ∧
    exchange.listening = false ∧ exchange.deadlineTimer = false
  chunks : exchange.chunks.flatten = received events
  bytes : exchange.responseBytes = (received events).length
  bounded : (received events).length ≤ maxProviderResponseBytes
  began : ∀ response, exchange.responseHandle = some response ↔ Event.response response ∈ events

/-- What holds once the promise is settled. -/
structure Closed (events : List Event) (exchange : Exchange) : Prop where
  settled : exchange.settled = true
  timer : exchange.deadlineTimer = false
  listener : exchange.listening = false
  started : exchange.stage ≠ .created
  unassigned : exchange.requestHandle = false → exchange.requestDestroyed = false
  history : ∃ before event after outcome, events = before ++ event :: after ∧ exchange.outcomes = [outcome] ∧
    Settles before event outcome ∧ (∀ failure, outcome = .error failure → ¬ Spares before event → Destroyed exchange)

theorem settleError_eq (h : exchange.settled = false) : settleError error exchange = (true,
    { cleanup exchange with
      settled := true
      chunks := []
      responseBytes := 0
      outcomes := exchange.outcomes ++ [.error error] }) := by
  unfold settleError
  rw [if_neg (Bool.eq_false_iff.mp h)]

/-- What `failAndDestroy` does: what exists is destroyed at once, and a request that is not assigned yet has
    its error kept for it. -/
theorem Pending.failAndDestroy_eq (h : Pending exchange) : failAndDestroy error exchange =
    { cleanup exchange with
      settled := true
      chunks := []
      responseBytes := 0
      outcomes := [.error error]
      responseDestroyed := exchange.responseHandle.isSome
      responseDestroys := exchange.responseDestroys + exchange.responseHandle.isSome.toNat
      requestDestroyed := exchange.requestHandle
      requestDestroys := exchange.requestDestroys + exchange.requestHandle.toNat
      pendingRequestDestroyError := if exchange.requestHandle then exchange.pendingRequestDestroyError else some error } := by
  unfold failAndDestroy
  rw [settleError_eq h.unsettled, h.outcomes]
  unfold destroyResponse destroyRequest
  cases hresponse : exchange.responseHandle <;> cases hrequest : exchange.requestHandle <;>
    simp [cleanup, h.request, h.response, hresponse, hrequest]

/-- **A failure that destroys** closes the exchange. -/
theorem Pending.fails (h : Pending exchange) (hsettles : Settles events event (.error error)) {stage : Stage}
    (hstage : stage ≠ .created) : Closed (events ++ [event]) { failAndDestroy error exchange with stage := stage } := by
  rw [h.failAndDestroy_eq]
  refine ⟨rfl, rfl, rfl, hstage, fun hnone => hnone, events, event, [], .error error, rfl, rfl, hsettles,
    fun _ _ _ => ⟨fun hmade => ?_, fun hmade => ?_⟩⟩
  · change exchange.requestHandle = true at hmade
    show 1 ≤ exchange.requestDestroys + exchange.requestHandle.toNat
    rw [hmade]
    exact Nat.le_add_left 1 _
  · change exchange.answered = true at hmade
    show 1 ≤ exchange.responseDestroys + exchange.responseHandle.isSome.toNat
    rw [← h.answered, hmade]
    exact Nat.le_add_left 1 _

theorem Pending.fails' (h : Pending exchange) (hstage : exchange.stage ≠ .created)
    (hsettles : Settles events event (.error error)) : Closed (events ++ [event]) (failAndDestroy error exchange) := by
  have hclosed := h.fails hsettles hstage
  have hkept : (failAndDestroy error exchange).stage = exchange.stage := by rw [h.failAndDestroy_eq]; rfl
  rw [← hkept] at hclosed
  exact hclosed

/-- A failure that destroys nothing. -/
theorem Pending.settles (h : Pending exchange) (hsettles : Settles events event (.error error))
    (hspared : ¬ Spares events event → Destroyed exchange) {stage : Stage} (hstage : stage ≠ .created) :
    Closed (events ++ [event]) { (settleError error exchange).2 with stage := stage } := by
  rw [settleError_eq h.unsettled, h.outcomes]
  exact ⟨rfl, rfl, rfl, hstage, fun _ => h.request, events, event, [], .error error, rfl, rfl, hsettles,
    fun _ _ hnot => hspared hnot⟩

theorem Pending.settles' (h : Pending exchange) (hstage : exchange.stage ≠ .created)
    (hsettles : Settles events event (.error error)) (hspares : Spares events event) :
    Closed (events ++ [event]) (settleError error exchange).2 := by
  have hclosed := h.settles hsettles (fun hnot => absurd hspares hnot) hstage
  have hkept : (settleError error exchange).2.stage = exchange.stage := by rw [settleError_eq h.unsettled]; rfl
  rw [← hkept] at hclosed
  exact hclosed

/-- A failure of the response: the error has the bytes of the chunks. -/
theorem Pending.failsResponse {kind : AlipayErrorKind} {code : AlipayErrorCode} {message : String} {cause : Option RuntimeError}
    (h : Pending exchange) (hstage : exchange.stage ≠ .created) (hhandled : exchange.responseHandle.isSome)
    (hbytes : exchange.responseBytes = exchange.chunks.flatten.length)
    (hreceived : exchange.chunks.flatten = (received (events ++ [event])).take maxProviderResponseBytes) :
    Closed (events ++ [event]) (failResponse kind code message cause exchange) := by
  unfold failResponse
  rw [if_neg (Bool.eq_false_iff.mp h.unsettled)]
  refine h.fails' hstage fun _ _ => ⟨_, rfl, ?_⟩
  show (if exchange.responseHandle.isNone then none else some (bufferConcat exchange.chunks exchange.responseBytes)) = _
  rw [← hreceived, hbytes, bufferConcat_flatten, if_neg]
  rw [Option.isNone_iff_eq_none]
  exact Option.ne_none_iff_isSome.mpr hhandled

/-! ## An open exchange -/

theorem Open.began_iff (h : Open events exchange) : Began events ↔ exchange.responseHandle.isSome := by
  rw [Option.isSome_iff_exists]
  exact exists_congr fun response => (h.began response).symm

theorem Open.started (h : Open events exchange) (hhandled : exchange.responseHandle.isSome) : exchange.stage ≠ .created := by
  intro hcreated
  rw [(h.early hcreated).1] at hhandled
  exact nomatch hhandled

/-- A failure of the response that is signalled by an event without bytes. -/
theorem Open.failsResponse {kind : AlipayErrorKind} {code : AlipayErrorCode} {message : String} {cause : Option RuntimeError}
    (h : Open events exchange) (hhandled : exchange.responseHandle.isSome) (hevent : received [event] = []) :
    Closed (events ++ [event]) (failResponse kind code message cause exchange) := by
  refine h.toPending.failsResponse (h.started hhandled) hhandled ?_ ?_
  · rw [h.chunks]
    exact h.bytes
  · rw [received_append, hevent, List.append_nil, List.take_of_length_le h.bounded]
    exact h.chunks

/-- A failure before the response began. -/
theorem Open.failsEarly (h : Open events exchange) (hstage : exchange.stage ≠ .created)
    (hnone : ¬ exchange.responseHandle.isSome) : Closed (events ++ [event]) (failAndDestroy error exchange) :=
  h.toPending.fails' hstage fun hbegan => absurd (h.began_iff.mp hbegan) hnone

theorem Open.new : Open [] Exchange.new where
  unsettled := rfl
  outcomes := rfl
  answered := rfl
  request := rfl
  response := rfl
  timer := fun h => absurd rfl h
  nothing := rfl
  early := fun _ => ⟨rfl, rfl, rfl, rfl⟩
  chunks := rfl
  bytes := rfl
  bounded := Nat.zero_le _
  began := by
    intro response
    constructor
    · exact fun h => nomatch h
    · exact fun h => nomatch h

/-- An event that is neither the start of a response nor data leaves what was received. -/
theorem Open.goesOn {exchange' : Exchange} (h : Open events exchange) (hpending : Pending exchange')
    (htimer : exchange'.stage ≠ .created → exchange'.deadlineTimer = true) (hstage : exchange'.stage ≠ .created)
    (hnothing : exchange'.pendingRequestDestroyError = none) (hchunks : exchange'.chunks = exchange.chunks)
    (hbytes : exchange'.responseBytes = exchange.responseBytes) (hhandle : exchange'.responseHandle = exchange.responseHandle)
    (hevent : received [event] = []) (hother : ∀ response, event ≠ .response response) : Open (events ++ [event]) exchange' where
  toPending := hpending
  timer := htimer
  nothing := hnothing
  early := fun hcreated => absurd hcreated hstage
  chunks := by rw [hchunks, received_append, hevent, List.append_nil, h.chunks]
  bytes := by rw [hbytes, received_append, hevent, List.append_nil, h.bytes]
  bounded := by rw [received_append, hevent, List.append_nil]; exact h.bounded
  began := by
    intro response
    rw [hhandle, h.began, List.mem_append, List.mem_singleton]
    constructor
    · exact fun h => .inl h
    · rintro (h | h)
      · exact h
      · exact absurd h.symm (hother response)

theorem Open.onStart (h : Open events exchange) (hcreated : exchange.stage = .created) (signal aborted : Bool) (remaining : ℚ) :
    Open (events ++ [.start signal aborted remaining]) (exchange.start signal aborted remaining) ∨
    Closed (events ++ [.start signal aborted remaining]) (exchange.start signal aborted remaining) := by
  obtain ⟨hnone, hunassigned, -⟩ := h.early hcreated
  have hbegan : ¬ Began events := by
    rw [h.began_iff, hnone]
    exact Bool.false_ne_true
  unfold Exchange.start
  split
  · right
    unfold abortFromCaller
    rw [if_neg (by rw [hnone]; exact Bool.false_ne_true)]
    exact h.toPending.fails (fun h => absurd h hbegan) (by decide)
  split
  · right
    have hpending : Pending { exchange with listening := signal } :=
      ⟨h.unsettled, h.outcomes, h.answered, h.request, h.response⟩
    refine hpending.settles (fun h => absurd h hbegan) (fun _ => ⟨fun hmade => ?_, fun hmade => ?_⟩) (by decide)
    · exact absurd (hunassigned.symm.trans hmade) Bool.false_ne_true
    · change exchange.answered = true at hmade
      rw [h.answered, hnone] at hmade
      exact nomatch hmade
  · left
    exact h.goesOn ⟨h.unsettled, h.outcomes, h.answered, h.request, h.response⟩ (fun _ => rfl) (fun hstage => nomatch hstage) h.nothing
      rfl rfl rfl rfl
      (fun _ h => nomatch h)

theorem Open.onResponse (h : Open events exchange) (hstarted : exchange.stage ≠ .created) (hfirst : exchange.answered = false)
    (response : IncomingMessage) : Open (events ++ [.response response]) (exchange.onResponse response) := by
  have hnone : exchange.responseHandle = none := by
    rw [h.answered] at hfirst
    exact Option.isSome_eq_false_iff.mp hfirst |> Option.isNone_iff_eq_none.mp
  have hreceived : received (events ++ [.response response]) = received events := by
    rw [received_append]
    exact List.append_nil _
  unfold Exchange.onResponse
  rw [if_neg (Bool.eq_false_iff.mp h.unsettled)]
  exact {
    unsettled := h.unsettled
    outcomes := h.outcomes
    answered := rfl
    request := h.request
    response := h.response
    timer := h.timer
    nothing := h.nothing
    early := fun hcreated => absurd hcreated hstarted
    chunks := hreceived ▸ h.chunks
    bytes := hreceived ▸ h.bytes
    bounded := hreceived ▸ h.bounded
    began := by
      intro other
      rw [List.mem_append, List.mem_singleton, Option.some.injEq, Event.response.injEq]
      constructor
      · exact fun heq => .inr heq.symm
      · rintro (hmem | heq)
        · have := hnone.symm.trans ((h.began other).mpr hmem)
          exact nomatch this
        · exact heq.symm }

/-- **Data.**  Within the limit the chunk is kept; beyond it the response fails with the bytes up to the limit. -/
theorem Open.onData (h : Open events exchange) (hhandled : exchange.responseHandle.isSome) (bytes : List UInt8) :
    Open (events ++ [.data bytes]) (exchange.onData bytes) ∨ Closed (events ++ [.data bytes]) (exchange.onData bytes) := by
  have hstarted := h.started hhandled
  unfold Exchange.onData
  rw [if_neg (Bool.eq_false_iff.mp h.unsettled)]
  dsimp only
  have hbytes := h.bytes
  have hbounded := h.bounded
  have hcut : (received (events ++ [.data bytes])).take maxProviderResponseBytes =
      received events ++ bytes.take (maxProviderResponseBytes - exchange.responseBytes) := by
    rw [received_data, List.take_append, List.take_of_length_le h.bounded, hbytes]
  split
  · next hover =>
    right
    split
    · refine Pending.failsResponse ⟨h.unsettled, h.outcomes, h.answered, h.request, h.response⟩ hstarted hhandled ?_ ?_
      · show exchange.responseBytes + (maxProviderResponseBytes - exchange.responseBytes) =
          (exchange.chunks ++ [bytes.take (maxProviderResponseBytes - exchange.responseBytes)]).flatten.length
        rw [List.flatten_append, h.chunks, List.flatten_singleton, List.length_append, List.length_take, ← hbytes]
        omega
      · show (exchange.chunks ++ [bytes.take (maxProviderResponseBytes - exchange.responseBytes)]).flatten = _
        rw [hcut, List.flatten_append, h.chunks, List.flatten_singleton]
    · next hfull =>
      refine h.toPending.failsResponse hstarted hhandled ?_ ?_
      · rw [h.chunks]
        exact hbytes
      · rw [hcut, Nat.eq_zero_of_not_pos hfull, List.take_zero, List.append_nil, h.chunks]
  · next hfits =>
    left
    exact {
      unsettled := h.unsettled
      outcomes := h.outcomes
      answered := h.answered
      request := h.request
      response := h.response
      timer := h.timer
      nothing := h.nothing
      early := fun hcreated => absurd hcreated hstarted
      chunks := by
        show (exchange.chunks ++ [bytes]).flatten = _
        rw [List.flatten_append, h.chunks, List.flatten_singleton, received_data]
      bytes := by
        show exchange.responseBytes + bytes.length = _
        rw [hbytes, received_data, List.length_append]
      bounded := by
        rw [received_data, List.length_append]
        omega
      began := by
        intro response
        rw [h.began, List.mem_append, List.mem_singleton]
        constructor
        · exact fun h => .inl h
        · rintro (h | h)
          · exact h
          · exact nomatch h }

/-- **The end.**  The body is what was received. -/
theorem Open.onEnd (h : Open events exchange) {response : IncomingMessage} (hresponse : exchange.responseHandle = some response) :
    Closed (events ++ [.ended]) (exchange.onEnd response) := by
  have hhandled : exchange.responseHandle.isSome := by rw [hresponse]; rfl
  have hstarted := h.started hhandled
  have hmem := (h.began response).mp hresponse
  have hbody : bufferConcat exchange.chunks exchange.responseBytes = received events := by
    rw [h.bytes, ← h.chunks, bufferConcat_flatten]
  have hreceived : received (events ++ [.ended]) = received events := by
    rw [received_append]
    exact List.append_nil _
  unfold Exchange.onEnd
  rw [if_neg (Bool.eq_false_iff.mp h.unsettled), hbody]
  dsimp only
  cases hheaders : response.headers with
  | error cause =>
    refine h.toPending.settles' hstarted (fun _ _ => ⟨_, rfl, ?_⟩) (.inr ⟨rfl, response, cause, hmem, hheaders⟩)
    rw [hreceived, List.take_of_length_le h.bounded]
  | ok headers =>
    dsimp only
    unfold settleResponse
    rw [if_neg (Bool.eq_false_iff.mp h.unsettled), h.outcomes]
    exact ⟨rfl, rfl, rfl, hstarted, fun _ => h.request, events, .ended, [], _, rfl, rfl,
      ⟨⟨headers, response, rfl, hmem, hheaders, rfl⟩, h.bounded⟩, fun failure hfailure => nomatch hfailure⟩

/-- The return of the factory. -/
theorem Open.onRequest (h : Open events exchange) (hstage : exchange.stage = .requesting) :
    Open (events ++ [.factoryReturns]) exchange.onRequest := by
  have htimer : exchange.deadlineTimer = true := h.timer (by rw [hstage]; decide)
  unfold Exchange.onRequest
  rw [h.nothing]
  dsimp only
  rw [if_neg (Bool.eq_false_iff.mp h.unsettled)]
  exact h.goesOn ⟨h.unsettled, h.outcomes, h.answered, h.request, h.response⟩ (fun _ => htimer) (fun hcreated => nomatch hcreated)
    rfl rfl rfl rfl rfl (fun _ hevent => nomatch hevent)

theorem Open.onSent (h : Open events exchange) (hstage : exchange.stage = .sending) :
    Open (events ++ [.sent]) { exchange with stage := .returned } := by
  have htimer : exchange.deadlineTimer = true := h.timer (by rw [hstage]; decide)
  exact h.goesOn ⟨h.unsettled, h.outcomes, h.answered, h.request, h.response⟩ (fun _ => htimer) (fun hcreated => nomatch hcreated)
    h.nothing rfl rfl rfl rfl (fun _ hevent => nomatch hevent)

/-- An error of the request is a failure of the response once that began, and else is passed on as it is. -/
theorem Open.onRequestError (h : Open events exchange) (hstage : exchange.stage ≠ .created) (cause : RuntimeError) :
    Closed (events ++ [.requestError cause]) (exchange.onRequestError cause) := by
  unfold Exchange.onRequestError
  split
  · next hhandled => exact h.failsResponse hhandled rfl
  · next hnone =>
    have hbegan : ¬ Began events := fun hbegan => hnone (h.began_iff.mp hbegan)
    exact h.toPending.settles' hstage (fun h => absurd h hbegan) (.inl ⟨⟨cause, rfl⟩, hbegan⟩)

/-- The deadline and the caller's abort. -/
theorem Open.onDeadline (h : Open events exchange) (hstage : exchange.stage ≠ .created) :
    Closed (events ++ [.deadline]) exchange.onDeadline := by
  unfold Exchange.onDeadline
  split
  · next hhandled => exact h.failsResponse hhandled rfl
  · next hnone => exact h.failsEarly hstage hnone

theorem Open.onAbort (h : Open events exchange) (hstage : exchange.stage ≠ .created) :
    Closed (events ++ [.abort]) (abortFromCaller { exchange with listening := false }) := by
  have hopen : Open events { exchange with listening := false } :=
    { h with
      toPending := ⟨h.unsettled, h.outcomes, h.answered, h.request, h.response⟩
      early := fun hcreated => absurd hcreated hstage }
  unfold abortFromCaller
  split
  · next hhandled => exact hopen.failsResponse hhandled rfl
  · next hnone => exact hopen.failsEarly hstage hnone

/-- A throw is passed on, and what exists is destroyed. -/
theorem Open.onThrow (h : Open events exchange) {thrown : Option RuntimeError} (hevent : event.throws = true) :
    Closed (events ++ [event]) (exchange.onThrow thrown) :=
  h.toPending.fails (fun _ hnot => absurd (hevent.symm.trans hnot) (by decide)) (by decide)

/-- An event that was possible. -/
theorem of_enabled {p : Prop} [Decidable p] {next exchange' : Exchange}
    (h : (if p then some next else none) = some exchange') : p ∧ next = exchange' := by
  obtain ⟨henabled, h⟩ := Option.ite_none_right_eq_some.mp h
  exact ⟨henabled, Option.some.inj h⟩

/-- **One step of an open exchange**: it stays open, or the event settles its promise. -/
theorem Open.step (h : Open events exchange) {exchange' : Exchange} (hstep : exchange.step event = some exchange') :
    Open (events ++ [event]) exchange' ∨ Closed (events ++ [event]) exchange' := by
  cases event <;> dsimp only [Exchange.step] at hstep
  case ended =>
    obtain ⟨response, hresponse, rfl⟩ := Option.map_eq_some_iff.mp hstep
    exact .inr (h.onEnd hresponse)
  case response response =>
    obtain ⟨hfirst, hstep⟩ := Option.ite_none_left_eq_some.mp hstep
    obtain ⟨hstarted, hanswered⟩ := not_or.mp hfirst
    obtain rfl := Option.some.inj hstep
    exact .inl (h.onResponse hstarted (Bool.eq_false_iff.mpr hanswered) response)
  case start signal aborted remaining =>
    obtain ⟨henabled, rfl⟩ := of_enabled hstep
    exact h.onStart henabled signal aborted remaining
  case data bytes =>
    obtain ⟨henabled, rfl⟩ := of_enabled hstep
    exact h.onData henabled bytes
  case responseError cause =>
    obtain ⟨henabled, rfl⟩ := of_enabled hstep
    exact .inr (h.failsResponse henabled rfl)
  case aborted =>
    obtain ⟨henabled, rfl⟩ := of_enabled hstep
    exact .inr (h.failsResponse henabled rfl)
  case requestError cause =>
    obtain ⟨henabled, rfl⟩ := of_enabled hstep
    refine .inr (h.onRequestError (fun hcreated => ?_) cause)
    exact absurd (henabled.symm.trans (h.early hcreated).2.1) (by decide)
  case deadline =>
    obtain ⟨henabled, rfl⟩ := of_enabled hstep
    refine .inr (h.onDeadline fun hcreated => ?_)
    exact absurd (henabled.symm.trans (h.early hcreated).2.2.2) (by decide)
  case abort =>
    obtain ⟨henabled, rfl⟩ := of_enabled hstep
    refine .inr (h.onAbort fun hcreated => ?_)
    exact absurd (henabled.symm.trans (h.early hcreated).2.2.1) (by decide)
  case factoryReturns =>
    obtain ⟨henabled, rfl⟩ := of_enabled hstep
    exact .inl (h.onRequest henabled)
  case factoryThrows thrown =>
    obtain ⟨henabled, rfl⟩ := of_enabled hstep
    exact .inr (h.onThrow rfl)
  case sent =>
    obtain ⟨henabled, rfl⟩ := of_enabled hstep
    exact .inl (h.onSent henabled)
  case sendThrows thrown =>
    obtain ⟨henabled, rfl⟩ := of_enabled hstep
    exact .inr (h.onThrow rfl)

/-! ## A closed exchange -/

/-- What an event leaves of a closed exchange. -/
structure Rests (exchange exchange' : Exchange) : Prop where
  settled : exchange'.settled = true
  timer : exchange'.deadlineTimer = false
  listener : exchange'.listening = false
  started : exchange'.stage ≠ .created
  unassigned : exchange'.requestHandle = false → exchange'.requestDestroyed = false
  outcomes : exchange'.outcomes = exchange.outcomes
  destroyed : Destroyed exchange → Destroyed exchange'

theorem Closed.rests (h : Closed events exchange) : Rests exchange exchange :=
  ⟨h.settled, h.timer, h.listener, h.started, h.unassigned, rfl, fun hdestroyed => hdestroyed⟩

theorem settleError_of_settled (h : exchange.settled = true) : settleError error exchange = (false, exchange) := by
  unfold settleError
  rw [if_pos h]

theorem failAndDestroy_of_settled (h : exchange.settled = true) : failAndDestroy error exchange = exchange := by
  unfold failAndDestroy
  rw [settleError_of_settled h]
  rfl

theorem failResponse_of_settled {kind : AlipayErrorKind} {code : AlipayErrorCode} {message : String}
    {cause : Option RuntimeError} (h : exchange.settled = true) : failResponse kind code message cause exchange = exchange := by
  unfold failResponse
  rw [if_pos h]

/-- A response that comes late is destroyed at once. -/
theorem Closed.onResponse (h : Closed events exchange) (response : IncomingMessage) :
    Rests exchange (exchange.onResponse response) := by
  unfold Exchange.onResponse
  rw [if_pos h.settled]
  exact ⟨h.settled, h.timer, h.listener, h.started, h.unassigned, rfl,
    fun ⟨hrequest, _⟩ => ⟨hrequest, fun _ => Nat.le_add_left 1 _⟩⟩

/-- A request that comes late is destroyed at once, with the error that was kept for it or without one. -/
theorem Closed.onRequest (h : Closed events exchange) : Rests exchange exchange.onRequest := by
  unfold Exchange.onRequest
  split
  · next kept _ =>
    unfold destroyRequest
    split
    · next hdestroyed =>
      refine ⟨h.settled, h.timer, h.listener, (nomatch ·), (nomatch ·), rfl,
        fun ⟨hrequest, hresponse⟩ => ⟨fun _ => hrequest ?_, hresponse⟩⟩
      by_contra hnone
      exact absurd ((h.unassigned (Bool.eq_false_iff.mpr hnone)).symm.trans hdestroyed) (by decide)
    · exact ⟨h.settled, h.timer, h.listener, (nomatch ·), (nomatch ·), rfl,
        fun ⟨_, hresponse⟩ => ⟨fun _ => Nat.le_add_left 1 _, hresponse⟩⟩
  · rw [if_pos h.settled]
    exact ⟨h.settled, h.timer, h.listener, (nomatch ·), (nomatch ·), rfl,
      fun ⟨_, hresponse⟩ => ⟨fun _ => Nat.le_add_left 1 _, hresponse⟩⟩

theorem Closed.step (h : Closed events exchange) {exchange' : Exchange} (hstep : exchange.step event = some exchange') :
    Rests exchange exchange' := by
  cases event <;> dsimp only [Exchange.step] at hstep
  case ended =>
    obtain ⟨response, hresponse, rfl⟩ := Option.map_eq_some_iff.mp hstep
    unfold Exchange.onEnd
    rw [if_pos h.settled]
    exact h.rests
  case response response =>
    obtain ⟨-, hstep⟩ := Option.ite_none_left_eq_some.mp hstep
    obtain rfl := Option.some.inj hstep
    exact h.onResponse response
  case start signal aborted remaining =>
    obtain ⟨henabled, rfl⟩ := of_enabled hstep
    exact absurd henabled h.started
  case data bytes =>
    obtain ⟨henabled, rfl⟩ := of_enabled hstep
    unfold Exchange.onData
    rw [if_pos h.settled]
    exact h.rests
  case responseError cause =>
    obtain ⟨henabled, rfl⟩ := of_enabled hstep
    unfold Exchange.onResponseError
    rw [failResponse_of_settled h.settled]
    exact h.rests
  case aborted =>
    obtain ⟨henabled, rfl⟩ := of_enabled hstep
    unfold Exchange.onAborted
    rw [failResponse_of_settled h.settled]
    exact h.rests
  case requestError cause =>
    obtain ⟨henabled, rfl⟩ := of_enabled hstep
    unfold Exchange.onRequestError
    rw [failResponse_of_settled h.settled, settleError_of_settled h.settled, ite_self]
    exact h.rests
  case deadline =>
    obtain ⟨henabled, rfl⟩ := of_enabled hstep
    exact absurd (henabled.symm.trans h.timer) (by decide)
  case abort =>
    obtain ⟨henabled, rfl⟩ := of_enabled hstep
    exact absurd (henabled.symm.trans h.listener) (by decide)
  case factoryReturns =>
    obtain ⟨henabled, rfl⟩ := of_enabled hstep
    exact h.onRequest
  case factoryThrows thrown =>
    obtain ⟨henabled, rfl⟩ := of_enabled hstep
    unfold Exchange.onThrow
    rw [failAndDestroy_of_settled h.settled]
    exact { h.rests with started := fun hcreated => nomatch hcreated }
  case sent =>
    obtain ⟨henabled, rfl⟩ := of_enabled hstep
    exact { h.rests with started := fun hcreated => nomatch hcreated }
  case sendThrows thrown =>
    obtain ⟨henabled, rfl⟩ := of_enabled hstep
    unfold Exchange.onThrow
    rw [failAndDestroy_of_settled h.settled]
    exact { h.rests with started := fun hcreated => nomatch hcreated }

/-- A closed exchange stays closed, with the history it has. -/
theorem Closed.next (h : Closed events exchange) {exchange' : Exchange} (hstep : exchange.step event = some exchange') :
    Closed (events ++ [event]) exchange' := by
  have hrests := h.step hstep
  obtain ⟨before, cause, after, outcome, rfl, houtcome, hsettles, hdestroyed⟩ := h.history
  refine ⟨hrests.settled, hrests.timer, hrests.listener, hrests.started, hrests.unassigned,
    before, cause, after ++ [event], outcome, ?_, hrests.outcomes.trans houtcome, hsettles, fun failure hfailure hspares => ?_⟩
  · rw [List.append_assoc, List.cons_append]
  · exact hrests.destroyed (hdestroyed failure hfailure hspares)

/-- **Every run** leaves the exchange open or closed. -/
theorem open_or_closed (h : Runs.Run system events exchange) : Open events exchange ∨ Closed events exchange := by
  refine h.history (I := fun events exchange => Open events exchange ∨ Closed events exchange) ?_ ?_
  · rintro exchange rfl
    exact .inl .new
  · rintro events exchange event exchange' - (hopen | hclosed) hstep
    · exact hopen.step hstep
    · exact .inr (hclosed.next hstep)

/-! ## The exchange -/

/-- What holds of an exchange after some events: its promise is settled once or, while it is pending, the
    deadline's timer can still settle it; when it is settled the timer and the listener are gone, and one of
    the events settled it, as `Settles` says; and unless that was a failure which `Spares` the request and the
    response, these were destroyed if they exist. -/
structure Exact (events : List Event) (exchange : Exchange) : Prop where
  once : exchange.outcomes.length = exchange.settled.toNat
  pending : exchange.settled = false → exchange.stage ≠ .created →
    ∃ exchange', exchange.step .deadline = some exchange' ∧ exchange'.settled = true
  cleared : exchange.settled = true → exchange.deadlineTimer = false ∧ exchange.listening = false
  settled : exchange.settled = true → ∃ before event after outcome, events = before ++ event :: after ∧
    exchange.outcomes = [outcome] ∧ Settles before event outcome ∧
    (∀ failure, outcome = .error failure → ¬ Spares before event → Destroyed exchange)

theorem Open.exact (h : Open events exchange) : Exact events exchange where
  once := by
    rw [h.outcomes, h.unsettled]
    rfl
  pending := by
    intro _ hstage
    refine ⟨_, if_pos (h.timer hstage), ?_⟩
    exact (h.onDeadline hstage).settled
  cleared := fun hsettled => absurd (h.unsettled.symm.trans hsettled) (by decide)
  settled := fun hsettled => absurd (h.unsettled.symm.trans hsettled) (by decide)

theorem Closed.exact (h : Closed events exchange) : Exact events exchange where
  once := by
    obtain ⟨_, _, _, outcome, _, houtcome, _⟩ := h.history
    rw [houtcome, h.settled]
    rfl
  pending := fun hopen => absurd (h.settled.symm.trans hopen) (by decide)
  cleared := fun _ => ⟨h.timer, h.listener⟩
  settled := fun _ => h.history

/-- **One exchange.** -/
theorem exact_of_run (h : Runs.Run system events exchange) : Exact events exchange := by
  rcases open_or_closed h with hopen | hclosed
  · exact hopen.exact
  · exact hclosed.exact

/-- The exchange after some events, when they can happen in this order. -/
def after (events : List Event) : Option Exchange := Runs.follow step events new

theorem after.run {events : List Event} (h : after events = some exchange) : Runs.Run system events exchange := by
  have hinit : Runs.Run system [] new := .start rfl
  exact hinit.follow (fun _ _ _ hstep => hstep) h

/-- The factory calls back with a response and then throws: what it throws is passed on, without the bytes
    received. -/
theorem thrown_after_response : ¬ ∀ before event (exchange exchange' : Exchange), Runs.Run system before exchange →
    exchange.settled = false → Began before → exchange.step event = some exchange' → ∀ failure, exchange'.outcomes = [.error failure] →
    ∃ error, failure = .provider error ∧ error.rawBody = some ((received (before ++ [event])).take maxProviderResponseBytes) := by
  intro hclaim
  have hreached : after [.start false false 10, .response ⟨some 200, .ok []⟩] =
      some ⟨.requesting, false, 0, [], true, false, false, some ⟨some 200, .ok []⟩, false, false, none, [], true, 0, 0⟩ := rfl
  obtain ⟨error, herror, -⟩ := hclaim _ (.factoryThrows none) _ _ (after.run hreached) rfl
    ⟨_, List.mem_cons_of_mem _ List.mem_cons_self⟩ rfl _ rfl
  exact nomatch herror

end Exchange

end PerPay.Alipay
