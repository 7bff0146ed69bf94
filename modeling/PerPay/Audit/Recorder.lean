/-
  **The activity recorder** (`ActivityRecorder` and `createActivityEvent` of `audit/activity.ts`).

  An activity becomes an event of bounded texts and a size that is known, or is dropped and counted.  Events wait in a buffer;
  a counter of one minute that is in the buffer takes a later event of its key.  Every few seconds the buffer is written in one
  transaction.  When that fails, the buffer stays; when it commits, the buffer is emptied, and old rows are deleted once an hour.

  `#aggregates` holds, under its key, an event of the buffer itself: it is read off the buffer.  A `JsNumber` is exact; `#now()`
  gives a safe natural number, for it falls back on `Date.now`.
-/
import PerPay.Audit.Trail
import PerPay.Lib.Bytes

namespace PerPay.Audit

open Txn Table
open Json (Value stringify)
open Ledger (utf16Length)

/-! ## Numbers and texts -/

/-- A number of JavaScript; `none` is `NaN` or an infinity. -/
abbrev JsNumber := Option Rat

def isSafeJs (value : Rat) : Bool := value.den = 1 && value.num.natAbs ≤ maxSafeInteger

def nonnegative (value : JsNumber) : Except String Nat :=
  match value with
  | some x => if isSafeJs x = true ∧ 0 ≤ x.num then .ok x.num.toNat else .error "invalid activity number"
  | none => .error "invalid activity number"

/-- `Number.isSafeInteger(count) && count > 0 ? count : 1`, of `count ?? 1` -/
def counted (count : Option JsNumber) : Nat :=
  match count with
  | some (some x) => if isSafeJs x = true ∧ 0 < x.num then x.num.toNat else 1
  | _ => 1

/-- `/[\u0000-\u001f\u007f]/` -/
def isActivityControl (c : Char) : Bool := c.toNat < 0x20 || c.toNat = 0x7F

def text (value : Option String) (maximum : Nat) : Except String (Option String) :=
  match value with
  | none => .ok none
  | some value =>
    if value.toList.any isActivityControl ∨ maximum < value.utf8ByteSize then .error "invalid activity text"
    else .ok (textOrNull value)

/-- `ACTION` -/
def isAction (action : String) : Bool :=
  match action.toList with
  | [] => false
  | c :: cs => c.isAlphanum && cs.length ≤ 127 && cs.all fun c => c.isAlphanum || c = '.' || c = '_' || c = ':' || c = '-'

/-! ## Details -/

def isLineTerminator (c : Char) : Bool := c = '\n' || c = '\r' || c = '\u2028' || c = '\u2029'

/-- Two words, at most one character between them, whatever the case of the letters. -/
def mentionsPair (first second text : String) : Bool :=
  (text.toList.map Char.toLower).tails.any fun rest =>
    first.toList.isPrefixOf rest &&
      (second.toList.isPrefixOf (rest.drop first.length) ||
        ((rest.drop first.length).head?.all fun c => !isLineTerminator c) &&
          second.toList.isPrefixOf (rest.drop (first.length + 1)))

/-- `PRIVATE_FIELD` -/
def privateField (key : String) : Bool :=
  mentions ["password", "passwd", "secret", "token", "authorization", "cookie", "signature", "payload", "credential"] key ||
  mentionsPair "private" "key" key || mentionsPair "raw" "body" key || mentionsPair "request" "body" key ||
  mentionsPair "response" "body" key

variable {ν : Type} (pf : AuditPlatform ν)

/-- `result[key] = value` -/
def setProperty (members : List (String × Value ν)) (key : String) (value : Value ν) : List (String × Value ν) :=
  if members.any (fun m => m.1 = key) then members.map fun m => if m.1 = key then (key, value) else m
  else members ++ [(key, value)]

mutual

/-- `clean` -/
def cleanValue (depth : Nat) : Unknown ν → Value ν
  | .null => if 5 < depth then .str "[omitted]" else .null
  | .bool b => if 5 < depth then .str "[omitted]" else .bool b
  | .num x => if 5 < depth then .str "[omitted]" else .num x
  | .str s =>
    if 5 < depth then .str "[omitted]"
    else .str (String.ofList (utf16Take 2048 (s.toList.map fun c => if isActivityControl c then ' ' else c)))
  | .arr items => if 5 < depth then .str "[omitted]" else .arr (cleanItems (depth + 1) 100 items)
  | .obj members => if 5 < depth then .str "[omitted]" else .obj (propertyOrder (cleanEntries (depth + 1) 100 members []))
  | .undefined | .nonFinite | .bigint _ | .function => if 5 < depth then .str "[omitted]" else .null

/-- `slice(0, n)`, cleaned -/
def cleanItems (depth : Nat) : Nat → List (Unknown ν) → List (Value ν)
  | _, [] => []
  | 0, _ :: _ => []
  | n + 1, item :: items => cleanValue depth item :: cleanItems depth n items

def cleanEntries (depth : Nat) : Nat → List (String × Unknown ν) → List (String × Value ν) → List (String × Value ν)
  | _, [], result => result
  | 0, _ :: _, result => result
  | n + 1, (key, child) :: entries, result =>
    if privateField key ∨ key ∈ ["__proto__", "constructor", "prototype"] then cleanEntries depth n entries result
    else cleanEntries depth n entries (setProperty result (String.ofList (utf16Take 128 key.toList)) (cleanValue depth child))

end

def sanitizeActivityDetails (details : List (String × Unknown ν)) : Value ν := cleanValue 0 (.obj details)

/-! ## Events -/

structure ActivityEventInput (ν : Type) where
  action : String
  outcome : Option AuditOutcome
  occurredAt : Option JsNumber
  sourceType : Option ActivitySourceType
  activityId : Option String
  requestId : Option (Option String)
  actorType : Option AuditActorType
  actorId : Option (Option String)
  subjectType : Option String
  subjectId : Option String
  siteId : Option (Option String)
  siteName : Option (Option String)
  sourceAddress : Option (Option String)
  userAgent : Option (Option String)
  httpMethod : Option String
  route : Option String
  httpStatus : Option JsNumber
  durationMs : Option JsNumber
  count : Option JsNumber
  aggregate : Bool
  details : List (String × Unknown ν)
  coreEventIds : Option (List String)
  externalEventId : Option String

/-- What `currentAuditContext()` gives beside the context of the audit events. -/
structure ActivityScope extends AuditScope where
  actorType : AuditActorType
  actorId : Option String
  coreEventIds : List String

/-- The two draws of `randomUUID`. -/
structure ActivityDraws where
  eventId : String
  activityId : String
  deriving DecidableEq, Repr

def maxDetailsBytes : Nat := 8 * 1024

def statusOf (value : Option JsNumber) : Except String (Option Nat) :=
  match value with
  | none => .ok none
  | some (some x) =>
    if x.den = 1 ∧ 100 ≤ x.num ∧ x.num ≤ 599 then .ok (some x.num.toNat) else .error "invalid activity HTTP status"
  | some none => .error "invalid activity HTTP status"

def orNumber (value : Option Nat) : Value ν :=
  match value with
  | none => .null
  | some n => .num (pf.ofNat n)

/-- `skip ? null : value` -/
def nullIf (skip : Bool) (value : Except String (Option String)) : Except String (Option String) :=
  if skip then .ok none else value

/-- The text of the key: the minute, and what an event says apart from its times, counts and details. -/
def aggregationText (event : ActivityEvent) : String :=
  String.ofList (stringify pf.numbers (.arr [.num (pf.ofNat (event.occurredAt / 60_000)), .str event.sourceType.name,
    .str event.actorType.name, nullable event.actorId, .str event.action, .str event.outcome.name, nullable event.subjectType,
    nullable event.subjectId, nullable event.siteId, nullable event.sourceAddress, nullable event.userAgent,
    nullable event.httpMethod, nullable event.route, orNumber pf event.httpStatus]))

def createActivityEvent (input : ActivityEventInput ν) (scope : Option ActivityScope) (draws : ActivityDraws) (now : Nat) :
    Except String ActivityEvent := do
  if isAction input.action = false then .error "invalid activity action"
  else do
    let occurredAt ← (input.occurredAt.map nonnegative).getD (.ok now)
    let actorType := (input.actorType.or (scope.map (·.actorType))).getD .SYSTEM
    let outcome := input.outcome.getD .SUCCESS
    let sourceType := input.sourceType.getD (if (scope.bind (·.requestId)).isSome then .HTTP else .INTERNAL)
    let sourceAddress := normalizeAuditAddress pf (choose input.sourceAddress (scope.bind (·.sourceAddress)))
    let userAgent := normalizeAuditUserAgent (choose input.userAgent (scope.bind (·.userAgent)))
    let actorId ← text (choose input.actorId (scope.bind (·.actorId))) 256
    let siteId ← text (choose input.siteId (scope.bind (·.siteId))) 256
    let siteName ← text (choose input.siteName (scope.bind (·.siteName))) 512
    let httpMethod ← text input.httpMethod 16
    let route ← text input.route 512
    let httpStatus ← statusOf input.httpStatus
    let coreEventIds := (((input.coreEventIds.or (scope.map (·.coreEventIds))).getD []).filter fun id => utf16Length id ≤ 128).take 256
    let aggregate := input.aggregate && outcome = .SUCCESS && coreEventIds.isEmpty
    let httpAggregate := aggregate && sourceType = .HTTP
    -- a group of requests stands for its route, not for the first order or website
    let subjectType ← nullIf httpAggregate (text input.subjectType 128)
    let subjectId ← nullIf httpAggregate (text input.subjectId 256)
    let detailsJson := String.ofList (stringify pf.numbers (sanitizeActivityDetails input.details))
    if maxDetailsBytes < detailsJson.utf8ByteSize then .error "activity details too large"
    else do
      let activityId ← nullIf aggregate (text (input.activityId.or (scope.map (·.activityId))) 128)
      let requestId ← nullIf aggregate (text (choose input.requestId (scope.bind (·.requestId))) 128)
      let durationMs ← (input.durationMs.map nonnegative).getD (.ok 0)
      let eventCount ← (input.count.map nonnegative).getD (.ok 1)
      let externalEventId ← text input.externalEventId 128
      let event : ActivityEvent :=
        { eventId := draws.eventId, activityId := activityId.getD draws.activityId, requestId, occurredAt,
          firstOccurredAt := occurredAt, lastOccurredAt := occurredAt, sourceType, actorType, actorId, action := input.action,
          outcome, subjectType, subjectId, siteId, siteName, sourceAddress, userAgent, httpMethod, route, httpStatus, durationMs,
          eventCount := max 1 eventCount, isAggregate := aggregate, detailsJson,
          coreEventIdsJson := String.ofList (stringify pf.numbers (.arr (coreEventIds.map .str))), externalEventId,
          aggregationKey := none }
      .ok { event with aggregationKey := if aggregate then some (pf.sha256 (aggregationText pf event)) else none }

/-- `JSON.stringify(event)` -/
def ActivityEvent.value (event : ActivityEvent) : Value ν :=
  .obj [("eventId", .str event.eventId), ("activityId", .str event.activityId), ("requestId", nullable event.requestId),
    ("occurredAt", .num (pf.ofNat event.occurredAt)), ("firstOccurredAt", .num (pf.ofNat event.firstOccurredAt)),
    ("lastOccurredAt", .num (pf.ofNat event.lastOccurredAt)), ("sourceType", .str event.sourceType.name),
    ("actorType", .str event.actorType.name), ("actorId", nullable event.actorId), ("action", .str event.action),
    ("outcome", .str event.outcome.name), ("subjectType", nullable event.subjectType), ("subjectId", nullable event.subjectId),
    ("siteId", nullable event.siteId), ("siteName", nullable event.siteName), ("sourceAddress", nullable event.sourceAddress),
    ("userAgent", nullable event.userAgent), ("httpMethod", nullable event.httpMethod), ("route", nullable event.route),
    ("httpStatus", orNumber pf event.httpStatus), ("durationMs", .num (pf.ofNat event.durationMs)),
    ("eventCount", .num (pf.ofNat event.eventCount)), ("isAggregate", .bool event.isAggregate),
    ("detailsJson", .str event.detailsJson), ("coreEventIdsJson", .str event.coreEventIdsJson),
    ("externalEventId", nullable event.externalEventId), ("aggregationKey", nullable event.aggregationKey)]

/-- `Buffer.byteLength(text, "utf8")` -/
def byteLength (cs : List Char) : Nat := (cs.map Char.utf8Size).sum

def ActivityEvent.bytes (event : ActivityEvent) : Nat := byteLength (stringify pf.numbers (event.value pf))

/-! ## The recorder -/

/-- The fields of `ActivityRecorder`, without its timer and the time of the last warning.  `#flushing` is set only within
    `flush`, which nothing interrupts. -/
structure Recorder where
  maximumEvents : Nat
  buffer : List ActivityEvent
  bufferBytes : Nat
  stopped : Bool
  droppedEvents : Nat
  writeFailures : Nat
  lastFlushAt : Option Nat
  lastErrorCode : Option String
  spoolLastImportAt : Option Nat
  spoolFailures : Nat
  spoolGapCount : Nat
  lastPrunedAt : Option Nat
  prunePending : Bool
  deriving DecidableEq, Repr

structure ActivityCaptureStatus where
  degraded : Bool
  bufferedEvents : Nat
  droppedEvents : Nat
  writeFailures : Nat
  lastFlushAt : Option Nat
  lastErrorCode : Option String
  spoolLastImportAt : Option Nat
  spoolFailures : Nat
  spoolGapCount : Nat
  deriving DecidableEq, Repr

/-- The tables the recorder writes: `activity_events`, and the row of `activity_capture_state`. -/
structure CaptureDb where
  table : ActivityTable
  captureState : Option (ActivityCaptureStatus × Nat)
  deriving DecidableEq, Repr

abbrev CaptureTx := Tx CaptureDb Fault

def maxEventBytes : Nat := 16 * 1024

def maxBufferBytes : Nat := 4 * 1024 * 1024

def hour : Nat := 3_600_000

namespace Recorder

/-- `#drop` -/
def drop (r : Recorder) (code : String) (count : Nat) : Recorder :=
  { r with droppedEvents := r.droppedEvents + count, lastErrorCode := some code }

/-- `#aggregates.get(event.aggregationKey)` -/
def aggregate (r : Recorder) (event : ActivityEvent) : Option ActivityEvent :=
  event.aggregationKey.bind fun key => r.buffer.find? fun e => e.aggregationKey = some key

end Recorder

/-- A later event of the same key. -/
def ActivityEvent.absorb (existing event : ActivityEvent) : ActivityEvent :=
  { existing with
    firstOccurredAt := min existing.firstOccurredAt event.firstOccurredAt
    lastOccurredAt := max existing.lastOccurredAt event.lastOccurredAt
    eventCount := min maxSafeInteger (existing.eventCount + event.eventCount)
    durationMs := min maxSafeInteger (existing.durationMs + event.durationMs) }

/-- A call of `record`: its input, the context it is made in, the clock and the draws. -/
structure RecordCall (ν : Type) where
  input : ActivityEventInput ν
  scope : Option ActivityScope
  now : Nat
  draws : ActivityDraws

namespace Recorder

def record (r : Recorder) (call : RecordCall ν) : Recorder :=
  if r.stopped = true then r.drop "activity_recorder_stopped" (counted call.input.count)
  else
    match createActivityEvent pf call.input call.scope call.draws call.now with
    | .error _ => r.drop "activity_event_invalid" (counted call.input.count)
    | .ok event =>
      match r.aggregate event with
      | some _ =>
        { r with buffer := updateWhere (fun e => e.aggregationKey = event.aggregationKey) (·.absorb event) r.buffer }
      | none =>
        if maxEventBytes < event.bytes pf ∨ r.maximumEvents ≤ r.buffer.length ∨ maxBufferBytes < r.bufferBytes + event.bytes pf then
          r.drop "activity_buffer_full" event.eventCount
        else { r with buffer := r.buffer ++ [event], bufferBytes := r.bufferBytes + event.bytes pf }

/-- Both codes that a committed flush takes back. -/
def clearedError (r : Recorder) : Option String :=
  if r.lastErrorCode = some "activity_write_failed" ∨ r.lastErrorCode = some "activity_state_unavailable" then none
  else r.lastErrorCode

def buffered (r : Recorder) : Nat := (r.buffer.map (·.eventCount)).sum

def status (r : Recorder) : ActivityCaptureStatus where
  degraded := r.lastErrorCode.isSome || 0 < r.droppedEvents || 0 < r.spoolGapCount
  bufferedEvents := r.buffered
  droppedEvents := r.droppedEvents
  writeFailures := r.writeFailures
  lastFlushAt := r.lastFlushAt
  lastErrorCode := r.lastErrorCode
  spoolLastImportAt := r.spoolLastImportAt
  spoolFailures := r.spoolFailures
  spoolGapCount := r.spoolGapCount

/-- The transaction of `flush`; `beforeCommit` is a failure of the store itself. -/
def persistBuffer (r : Recorder) (now : Nat) (beforeCommit : Option Fault) : CaptureTx Unit := do
  zoom CaptureDb.table (fun table db => { db with table }) (forEach (persistActivityEvent pf) r.buffer)
  update fun db => { db with
    captureState := some ({ r.status with bufferedEvents := 0, lastFlushAt := some now, lastErrorCode := r.clearedError }, now) }
  match beforeCommit with
  | some fault => fail fault
  | none => pure ()

/-- `prune`; `beforeCommit` is a failure of the store. -/
def prune (now : Nat) (beforeCommit : Option Fault) (r : Recorder) (db : CaptureDb) : Recorder × CaptureDb :=
  match beforeCommit with
  | some _ => ({ r with writeFailures := r.writeFailures + 1, lastErrorCode := some "activity_retention_failed" }, db)
  | none =>
    ({ r with
        lastPrunedAt := some now
        prunePending := (db.table.expired (now - activityRetentionMilliseconds)).length = 500
        lastErrorCode := if r.lastErrorCode = some "activity_retention_failed" then none else r.lastErrorCode },
      { db with table := db.table.prune now })

/-- When a flush also deletes. -/
def pruneDue (r : Recorder) (now : Nat) : Bool :=
  r.prunePending || r.lastPrunedAt.all fun last => (hour : Int) ≤ now - last

/-- A call of `flush`: its clock and the store's failures, and those of the deletion it may make. -/
structure FlushReading where
  now : Nat
  beforeCommit : Option Fault
  pruneAt : Nat
  pruneFailure : Option Fault

/-- The deletion of a flush that has committed. -/
def pruneIfDue (reading : FlushReading) (r : Recorder) (db : CaptureDb) : Recorder × CaptureDb :=
  if r.pruneDue reading.now = true then r.prune reading.pruneAt reading.pruneFailure db else (r, db)

def flush (reading : FlushReading) (r : Recorder) (db : CaptureDb) : Recorder × CaptureDb :=
  match r.persistBuffer pf reading.now reading.beforeCommit db with
  | .error _ => ({ r with writeFailures := r.writeFailures + 1, lastErrorCode := some "activity_write_failed" }, db)
  | .ok (_, db) =>
    pruneIfDue reading
      { r with buffer := [], bufferBytes := 0, lastFlushAt := some reading.now, lastErrorCode := r.clearedError } db

/-- `stop`: a last flush, and nothing is recorded any more. -/
def stop (reading : FlushReading) (r : Recorder) (db : CaptureDb) : Recorder × CaptureDb :=
  let next := r.flush pf reading db
  ({ next.1 with stopped := true }, next.2)

def noteSpoolImport (time : Nat) (r : Recorder) : Recorder :=
  { r with
    spoolLastImportAt := some time
    lastErrorCode := if r.lastErrorCode = some "activity_spool_unavailable" then none else r.lastErrorCode }

def noteSpoolAvailable (r : Recorder) : Recorder :=
  { r with lastErrorCode := if r.lastErrorCode.getD "" ∈
      ["activity_spool_unavailable", "activity_spool_invalid", "activity_spool_metadata_missing"] then none else r.lastErrorCode }

def noteSpoolFailure (code : String) (r : Recorder) : Recorder :=
  { r with spoolFailures := r.spoolFailures + 1, lastErrorCode := some code }

def noteSpoolGap (count : Nat) (r : Recorder) : Recorder :=
  { r with spoolGapCount := r.spoolGapCount + max 1 count, lastErrorCode := some "activity_spool_gap" }

/-- The constructor, on the row of an earlier process and the gaps of the import sources. -/
def create (maxBufferedEvents gaps : Nat) (db : CaptureDb) : Recorder where
  maximumEvents := max 1 (min 8192 maxBufferedEvents)
  buffer := []
  bufferBytes := 0
  stopped := false
  droppedEvents := (db.captureState.map (·.1.droppedEvents)).getD 0
  writeFailures := (db.captureState.map (·.1.writeFailures)).getD 0
  lastFlushAt := db.captureState.bind (·.1.lastFlushAt)
  lastErrorCode := db.captureState.bind (·.1.lastErrorCode)
  spoolLastImportAt := db.captureState.bind (·.1.spoolLastImportAt)
  spoolFailures := (db.captureState.map (·.1.spoolFailures)).getD 0
  spoolGapCount := max ((db.captureState.map (·.1.spoolGapCount)).getD 0) gaps
  lastPrunedAt := none
  prunePending := false

end Recorder

end PerPay.Audit
