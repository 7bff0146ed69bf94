/-
  **The controller of the checkout page** (`web/src/checkout/controller.ts`, `shared/checkout-view.ts`).

  The page asks for the state of its order again and again.  A request is sent by `refresh`; what becomes of it arrives in
  tasks of their own, first the response and then its body, and either may arrive after the request was aborted, after
  its own timeout, or after another request has taken its place.  The number that `generation` had when a request was sent
  stands for its `AbortController`.

  A callback reads the clocks once: `now` is `Date.now()`, `mono` is `performance.now()`.  `navigator.onLine` changes in a
  task before the one that delivers the event, so events wait in `pending`; `document.hidden` changes with its event.
-/
import Mathlib.Data.List.Basic
import PerPay.Lib.Runs
import PerPay.Orders.Model
import PerPay.Runtime.CheckoutVerification

namespace PerPay.Checkout

open Orders
open PerPay.Runtime (CheckoutVerificationState)

/-! ## What the page shows -/

inductive CheckoutViewState
  | UNPAID | CONFIRMED | DISPUTED | CLOSED | EXPIRED | NOT_FOUND | RATE_LIMITED | UNAVAILABLE
  deriving DecidableEq, Repr

structure CheckoutProgress where
  state : CheckoutVerificationState
  retryAfterSeconds : Nat
  deriving DecidableEq, Repr

/-- The fields of an order that the controller reads; `expiresAt` is what `Date.parse` makes of the text. -/
structure CheckoutViewOrder where
  verification : Option CheckoutProgress
  checkoutStatus : CheckoutStatus
  expiresAt : Option Rat
  paymentStatus : PaymentStatus
  deriving DecidableEq, Repr

structure InitialError where
  status : Nat
  retryAfterSeconds : Option Rat
  deriving DecidableEq, Repr

/-- What the page is served with.  The API address is empty or a path of the server, so it keeps the origin of the
    page. -/
structure CheckoutInitial where
  demoMode : Bool
  checkout : Option CheckoutViewOrder
  initialError : Option InitialError
  apiUrl : String
  sameOrigin : Bool
  qrUrl : String
  qrAvailable : Bool
  serverTime : Rat
  path : apiUrl ≠ "" → sameOrigin = true

def checkoutState (order : CheckoutViewOrder) : CheckoutViewState :=
  match order.paymentStatus with
  | .CONFIRMED => .CONFIRMED
  | .DISPUTED => .DISPUTED
  | .UNPAID =>
    match order.checkoutStatus with
    | .CLOSED => .CLOSED
    | .EXPIRED => .EXPIRED
    | .OPEN => .UNPAID

def initialCheckoutState (initial : CheckoutInitial) : CheckoutViewState :=
  match initial.initialError with
  | some error => if error.status = 404 then .NOT_FOUND else if error.status = 429 then .RATE_LIMITED else .UNAVAILABLE
  | none =>
    match initial.checkout with
    | some order => checkoutState order
    | none => .NOT_FOUND

structure CheckoutSnapshot where
  initialized : Bool
  order : Option CheckoutViewOrder
  visual : CheckoutViewState
  now : Rat
  busy : Bool
  unavailable : Bool
  suspended : Bool
  message : String
  feedback : String
  retryAt : Rat
  qrAvailable : Bool
  deriving DecidableEq, Repr

/-! ## Responses -/

/-- A `retry-after` header, as a number and as a date. -/
structure RetryAfter where
  seconds : Option Rat
  date : Option Rat
  deriving DecidableEq, Repr

structure Response where
  status : Nat
  retryAfter : Option RetryAfter
  date : Option Rat
  deriving DecidableEq, Repr

def Response.ok (response : Response) : Bool := 200 ≤ response.status && response.status ≤ 299

def RetryAfter.delay (value : RetryAfter) (fallback now : Rat) : Rat :=
  match value.seconds.filter (0 ≤ ·), value.date with
  | some seconds, _ => seconds * 1000
  | none, some date => date - now
  | none, none => fallback

def retryDelay (value : Option RetryAfter) (fallback now : Rat) : Rat :=
  match value with
  | none => fallback
  | some value => min 60000 (max 250 (value.delay fallback now))

/-- How a `fetch` settles. -/
inductive Fetched
  | rejected
  | resolved (response : Response)
  deriving DecidableEq, Repr

/-- How the body of a response settles: `none` is a payload that `parseCheckoutPayload` refuses. -/
inductive Body
  | rejected
  | resolved (payload : Option CheckoutViewOrder)
  deriving DecidableEq, Repr

/-! ## The controller -/

/-- What a request waits for: its response, or the body of one, which said when it was made. -/
inductive RequestStage
  | fetching
  | reading (date : Option Rat)
  deriving DecidableEq, Repr

/-- A request that has not settled. -/
structure Request where
  id : Nat
  manual : Bool
  checking : Bool
  start : Rat
  aborted : Bool
  timedOut : Bool
  stage : RequestStage
  deriving DecidableEq, Repr

/-- The variables of the closure, the page around it, and the requests that have not settled.  `timer` holds the delay of
    a refresh timer that is armed; `ticking` says that an interval runs under `tickTimer`. -/
structure CheckoutController where
  state : CheckoutSnapshot
  alive : Bool
  listening : Bool
  generation : Nat
  failures : Nat
  active : Option Nat
  manualDeadline : Rat
  manualTracking : Bool
  timer : Option Rat
  ticking : Bool
  anchor : Rat
  wallAnchor : Rat
  serverTime : Rat
  hidden : Bool
  onLine : Bool
  pending : List Bool
  requests : List Request
  deriving DecidableEq, Repr

/-- The readings of the clocks; `performance.now()` counts from the start of the page. -/
structure Clock where
  now : Rat
  mono : Rat
  mono_nonneg : 0 ≤ mono

def createCheckoutController (initial : CheckoutInitial) (hidden onLine : Bool) : CheckoutController where
  state :=
    { initialized := false
      order := initial.checkout
      visual := initialCheckoutState initial
      now := initial.serverTime
      busy := false
      unavailable := false
      suspended := false
      message := ""
      feedback := ""
      retryAt := 0
      qrAvailable := initial.qrAvailable }
  alive := false
  listening := false
  generation := 0
  failures := 0
  active := none
  manualDeadline := 0
  manualTracking := false
  timer := none
  ticking := false
  anchor := 0
  wallAnchor := 0
  serverTime := initial.serverTime
  hidden := hidden
  onLine := onLine
  pending := []
  requests := []

def interval : CheckoutViewState → Option Rat
  | .UNPAID => some 2500
  | .CONFIRMED | .DISPUTED | .EXPIRED | .CLOSED => some 30000
  | .UNAVAILABLE | .RATE_LIMITED => some 2500
  | .NOT_FOUND => none

namespace CheckoutController

variable (initial : CheckoutInitial) (clock : Clock) (c : CheckoutController)

def stopTimer : CheckoutController := { c with timer := none }

def schedule (delay : Option Rat) : CheckoutController :=
  match delay with
  | some delay =>
    if c.alive && c.state.visual != .NOT_FOUND && !c.hidden && c.onLine then
      { c with timer := some (max 250 (max delay (c.state.retryAt - clock.now))) }
    else { c with timer := none }
  | none => { c with timer := none }

def currentServerTime : Rat := c.serverTime + max 0 (max (clock.mono - c.anchor) (clock.now - c.wallAnchor))

/-- The manual check has taken too long. -/
def passDeadline : CheckoutController :=
  if c.state.busy && 0 < c.manualDeadline && c.manualDeadline ≤ clock.mono then
    { c with
      manualDeadline := 0
      state := { c.state with busy := false, feedback := "核实仍可能继续，页面会自动更新；请勿重复付款。" } }
  else c

def showTime : CheckoutController :=
  { c with
    state :=
      { c.state with
        now := c.currentServerTime clock
        suspended :=
          c.state.visual = .UNPAID && c.state.order.all fun order => order.expiresAt.any (· ≤ c.currentServerTime clock)
        unavailable := c.hidden || !c.onLine } }

def updateClock : CheckoutController := (c.passDeadline clock).showTime clock

/-- The request is not waited for any more. -/
def abandon (requests : List Request) (id : Option Nat) : List Request :=
  requests.map fun request => if some request.id = id then { request with aborted := true } else request

def abort : CheckoutController :=
  { c with
    generation := c.generation + 1
    requests := abandon c.requests c.active
    active := none
    manualDeadline := 0
    state := { c.state with busy := false }
    timer := none }

def detach : CheckoutController := { c with listening := false }

/-! ## Sending -/

def checks (manual : Bool) : Bool :=
  manual && !initial.demoMode && c.state.order.any fun order =>
    order.checkoutStatus = .OPEN && order.paymentStatus = .UNPAID && order.expiresAt.any (c.currentServerTime clock < ·)

def send (manual : Bool) : CheckoutController :=
  { c with
    timer := none
    generation := c.generation + 1
    active := some (c.generation + 1)
    requests :=
      ⟨c.generation + 1, manual, c.checks initial clock manual, clock.mono, false, false, .fetching⟩ :: c.requests
    manualTracking := if manual then c.checks initial clock manual else c.manualTracking
    manualDeadline := if manual then clock.mono + 30000 else c.manualDeadline
    state :=
      if manual then
        { c.state with busy := true, feedback := if c.checks initial clock manual then "正在提交付款核实请求…" else "" }
      else c.state }

/-- An explicit click may replace a background read. -/
def replaceRead (manual : Bool) : CheckoutController :=
  if manual && c.active.isSome && !c.state.busy then c.abort else c

/-- The rest of `refresh`, up to its `fetch`. -/
def request (manual : Bool) : CheckoutController :=
  if !c.alive || c.active.isSome || c.hidden || !c.onLine || initial.apiUrl = "" || c.state.visual = .NOT_FOUND then c
  else if clock.now < c.state.retryAt then c.schedule clock (some (c.state.retryAt - clock.now))
  else if !initial.sameOrigin then c
  else c.send initial clock manual

def refresh (manual : Bool) : CheckoutController := (c.replaceRead manual).request initial clock manual

/-! ## Settling -/

/-- `current()` of a request. -/
def current (request : Request) : Bool := c.alive && c.generation = request.id && !request.aborted

/-- The end of a manual check, with what it says. -/
def endCheck (feedback : String) : CheckoutController :=
  if c.state.busy || c.manualTracking then
    { c with manualTracking := false, manualDeadline := 0, state := { c.state with busy := false, feedback } }
  else c

/-- The `finally` of `refresh`. -/
def finish (request : Request) : CheckoutController :=
  if c.active = some request.id then
    if request.manual && !request.checking && c.state.order.all (·.verification.isNone) then
      { c with
        requests := c.requests.filter (·.id ≠ request.id), active := none, manualDeadline := 0
        state := { c.state with busy := false } }
    else { c with requests := c.requests.filter (·.id ≠ request.id), active := none }
  else { c with requests := c.requests.filter (·.id ≠ request.id) }

/-- `emit({ message })` -/
def say (message : String) : CheckoutController := { c with state := { c.state with message } }

/-- The `catch` of `refresh`. -/
def fail (request : Request) : CheckoutController :=
  if !c.alive || request.id ≠ c.generation || (request.aborted && !request.timedOut) then c
  else
    (((({ c with failures := c.failures + 1 }).endCheck "核实结果暂时无法获取，页面会继续自动更新。").say
      (if request.timedOut then "订单状态刷新超时，页面会自动重试。"
        else "订单状态暂时无法刷新，当前显示的是上次获取的结果。")).schedule clock
      (some (min 30000 (1000 * 2 ^ min (c.failures + 1) 5))))

/-- The order is not to be found: the page is done. -/
def notFound : CheckoutController :=
  ({ (abort
      { c with
        state :=
          { c.state with
            visual := .NOT_FOUND, order := none, message := "", feedback := "", qrAvailable := false, suspended := false }
        alive := false }) with
    ticking := false }).detach

def rateLimited (response : Response) : CheckoutController :=
  ({ c with
    state :=
      { c.state with
        retryAt := clock.now + retryDelay response.retryAfter 1000 clock.now
        message := "刷新过于频繁，页面会在稍后继续获取订单状态。"
        visual := if c.state.order.isNone then .RATE_LIMITED else c.state.visual } }).schedule clock
    (some (retryDelay response.retryAfter 1000 clock.now))

/-- A response that is neither of these, with the delay before the next request. -/
def backOff (response : Response) (delay : Rat) : CheckoutController :=
  ({ c with
    failures := c.failures + 1
    state :=
      { c.state with
        retryAt := if response.retryAfter.isNone then 0 else clock.now + delay
        visual := if response.status = 503 then .UNAVAILABLE else c.state.visual
        qrAvailable := if response.status = 503 then false else c.state.qrAvailable
        message := if response.status = 503 then "" else "订单状态暂时无法刷新，当前显示的是上次获取的结果。" } }).schedule
    clock (some delay)

/-- `!response.ok` -/
def refuse (response : Response) : CheckoutController :=
  if response.status = 404 then (c.endCheck "本次核实未完成，页面会继续自动更新。").notFound
  else if response.status = 429 then (c.endCheck "本次核实未完成，页面会继续自动更新。").rateLimited clock response
  else
    (c.endCheck "本次核实未完成，页面会继续自动更新。").backOff clock response
      (retryDelay response.retryAfter (min 30000 (1000 * 2 ^ min (c.failures + 1) 5)) clock.now)

/-- The response says when it was made. -/
def synchronize (start : Rat) (date : Option Rat) : CheckoutController :=
  match date with
  | some date =>
    { c with
      serverTime := date + 1000 + max 0 (clock.mono - start), anchor := clock.mono, wallAnchor := clock.now }
  | none => c

def showOrder (order : CheckoutViewOrder) : CheckoutController :=
  { c with
    failures := 0
    state :=
      { c.state with
        order := some order
        visual := checkoutState order
        message := ""
        retryAt := 0
        qrAvailable := initial.qrUrl ≠ ""
        feedback := if checkoutState order = .UNPAID then c.state.feedback else "" } }

def progressFeedback (progress : CheckoutProgress) : Option String :=
  match progress.state with
  | .WAITING => some ("等待核实，预计至少 " ++ toString progress.retryAfterSeconds ++ " 秒后开始。")
  | .SCANNING => some "正在查询支付宝付款记录…"
  | .RECONCILING => some "正在核对付款结果…"
  | .COMPLETED | .FAILED => none

def endFeedback : Option CheckoutProgress → String
  | some progress =>
    if progress.state = .COMPLETED then "目前还没有确认这笔付款，页面会继续更新。"
    else if progress.state = .FAILED then "本次核实未完成或查账暂有延迟，页面会继续自动更新。"
    else "核实进度暂不可用，页面会继续自动更新。"
  | none => "核实进度暂不可用，页面会继续自动更新。"

/-- What an order says about the manual check, if there is one. -/
def track (order : CheckoutViewOrder) : CheckoutController :=
  if checkoutState order ≠ .UNPAID then c.endCheck ""
  else
    match order.verification.bind progressFeedback with
    | some feedback => if c.state.busy then { c with state := { c.state with feedback } } else c
    | none => c.endCheck (endFeedback order.verification)

def receive (start : Rat) (date : Option Rat) (order : CheckoutViewOrder) : CheckoutController :=
  (((c.synchronize clock start date).showOrder initial order).track order).updateClock clock

/-- `schedule(interval())` -/
def scheduleInterval : CheckoutController := c.schedule clock (interval c.state.visual)

/-! ## Tasks -/

/-- The response of a request, or that there will be none. -/
def fetched (request : Request) : Fetched → CheckoutController
  | .rejected => (c.fail clock request).finish request
  | .resolved response =>
    if !c.current request then c.finish request
    else if !response.ok then (c.refuse clock response).finish request
    else
      { c with
        requests := c.requests.map fun r => if r.id = request.id then { r with stage := .reading response.date } else r }

/-- The body of the response of a request, or that it could not be read. -/
def read (request : Request) (date : Option Rat) : Body → CheckoutController
  | .rejected => (c.fail clock request).finish request
  | .resolved payload =>
    if !c.current request then c.finish request
    else
      match payload with
      | some order => ((c.receive initial clock request.start date order).scheduleInterval clock).finish request
      | none => (c.fail clock request).finish request

/-- Ten seconds after a request was sent, unless it has settled. -/
def timeout (id : Nat) : CheckoutController :=
  { c with
    requests := c.requests.map fun request =>
      if request.id = id then { request with timedOut := true, aborted := true } else request }

/-- `if (interval() !== null) void refresh()` -/
def refreshShown : CheckoutController :=
  if (interval c.state.visual).isSome then c.refresh initial clock false else c

def visibility : CheckoutController :=
  if !c.alive then c
  else if c.hidden then
    { c.abort with ticking := false, state := { c.abort.state with unavailable := true } }
  else ({ c.updateClock clock with ticking := true }).refreshShown initial clock

def offline : CheckoutController :=
  if !c.alive then c
  else
    { c.abort with
      state := { c.abort.state with unavailable := true, message := "网络已断开，恢复连接后会继续刷新订单状态。" } }

def online : CheckoutController :=
  if !c.alive then c
  else
    ({ c with
      failures := 0
      state := { c.state with unavailable := false, message := "网络已恢复，正在刷新订单状态。" } }).refreshShown initial clock

/-- `hide`, and what the cleanup of `start` does before it detaches. -/
def hide : CheckoutController :=
  { (abort { c with state := { c.state with initialized := false }, alive := false }) with ticking := false }

/-- The clock goes on from what is shown. -/
def resume : CheckoutController :=
  { c with serverTime := c.state.now, anchor := clock.mono, wallAnchor := clock.now }

def publish : CheckoutController := { c with state := { c.state with initialized := true } }

def «show» (persisted : Bool) : CheckoutController :=
  if persisted && c.state.visual != .NOT_FOUND then
    (((({ c with alive := true }).updateClock clock).resume clock).visibility initial clock).publish
  else c

def cooldown : Rat :=
  min 60 ((initial.initialError.bind (·.retryAfterSeconds)).getD 0) * 1000

/-- What `start` does before it listens. -/
def prepare (responseStart : Rat) : CheckoutController :=
  { c with
    alive := true
    serverTime := max c.serverTime (initial.serverTime + max 0 (clock.mono - responseStart))
    anchor := clock.mono
    wallAnchor := clock.now
    state := { c.state with retryAt := if cooldown initial = 0 then 0 else clock.now + cooldown initial } }

def firstDelay (visual : CheckoutViewState) : Option Rat :=
  if initial.initialError.isSome then some (max 2500 (cooldown initial))
  else if visual = .UNPAID then some 1500
  else interval visual

/-- `start`; `responseStart` is 0 without a navigation entry. -/
def start (responseStart : Rat) : CheckoutController :=
  if c.state.visual = .NOT_FOUND || initial.apiUrl = "" then c
  else
    (({ (c.prepare initial clock responseStart).updateClock clock with ticking := true, listening := true }).schedule clock
      (firstDelay initial c.state.visual)).publish

def cleanup : CheckoutController := c.hide.detach

end CheckoutController

/-! ## Runs -/

/-- A task that can run on the page. -/
inductive Task
  | start (responseStart : Rat)
  | cleanup
  | visibility (hidden : Bool)
  | network (onLine : Bool)
  | connectivity
  | pagehide
  | pageshow (persisted : Bool)
  | timerFires
  | tick
  | refresh (manual : Bool)
  | timeout (id : Nat)
  | fetched (id : Nat) (settled : Fetched)
  | read (id : Nat) (settled : Body)
  deriving DecidableEq, Repr

namespace CheckoutController

/-- The request that waits for its response under this number. -/
def fetching (c : CheckoutController) (id : Nat) : Option Request :=
  c.requests.find? fun request => request.id = id && request.stage = .fetching

/-- The request that waits for its body under this number, with the date of the response. -/
def reading (c : CheckoutController) (id : Nat) : Option (Request × Option Rat) :=
  c.requests.findSome? fun request =>
    match request.stage with
    | .reading date => if request.id = id then some (request, date) else none
    | .fetching => none

/-- Events reach the controller while it listens. -/
def heard (c : CheckoutController) (handler : CheckoutController → CheckoutController) : CheckoutController :=
  if c.listening then handler c else c

/-- One task.  A cleanup can be called before any `start` here, an interval can tick after it was cleared; neither adds to
    what a page can do. -/
def step (initial : CheckoutInitial) (c : CheckoutController) : Clock × Task → CheckoutController
  | (clock, .start responseStart) => c.start initial clock responseStart
  | (_, .cleanup) => c.cleanup
  | (clock, .visibility hidden) => ({ c with hidden }).heard fun c => c.visibility initial clock
  | (_, .network onLine) => if c.onLine = onLine then c else { c with onLine, pending := c.pending ++ [onLine] }
  | (clock, .connectivity) =>
    match c.pending with
    | [] => c
    | true :: pending => ({ c with pending }).heard fun c => c.online initial clock
    | false :: pending => ({ c with pending }).heard fun c => c.offline
  | (_, .pagehide) => c.heard hide
  | (clock, .pageshow persisted) => c.heard fun c => c.show initial clock persisted
  | (clock, .timerFires) => if c.timer.isSome then c.stopTimer.refresh initial clock false else c
  | (clock, .tick) => c.updateClock clock
  | (clock, .refresh manual) => c.refresh initial clock manual
  | (_, .timeout id) => c.timeout id
  | (clock, .fetched id settled) =>
    match c.fetching id with
    | some request => c.fetched clock request settled
    | none => c
  | (clock, .read id settled) =>
    match c.reading id with
    | some (request, date) => c.read initial clock request date settled
    | none => c

end CheckoutController

/-- The page, from its first script on. -/
def system (initial : CheckoutInitial) : Runs.System CheckoutController (Clock × Task) where
  init c := ∃ hidden onLine, c = createCheckoutController initial hidden onLine
  step c task c' := c' = c.step initial task

end PerPay.Checkout
