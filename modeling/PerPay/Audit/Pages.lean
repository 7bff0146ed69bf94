/-
  **The audit list** (`queryAuditEvents` of `audit/query.ts`) — pages of both tables, newest first.

  A first page fixes a snapshot: the greatest number of each table.  Each table hands over at most a page of
  its rows up to that number, behind the position of the last row shown, and the pages are merged.  What the
  next call needs travels in a cursor: the snapshot, the position, and a fingerprint of the filters, as JSON
  in base64 for addresses.

  The rows of a page are given as they are read: `item` refuses those whose numbers JavaScript cannot hold,
  and writes times by `toISOString`, which loses nothing.  Filters are those that `validateFilters` returns.
-/
import Mathlib.Data.Prod.Lex
import PerPay.Audit.Connections
import PerPay.Lib.Base64Url
import PerPay.Lib.Bytes
import PerPay.Lib.IsoDate
import PerPay.Lib.Merge

namespace PerPay.Audit

open Json (Value natText stringify)
open Like

/-! ## Filters -/

/-- The start of a day in Beijing, in milliseconds. -/
def dayStart (value : String) : Option Int :=
  match IsoDate.isoTime (value.toList ++ "T00:00:00.000Z".toList) with
  | none => none
  | some utc =>
    -- ten characters, a year not before 1970, and the day that was written
    if value.toList.length = 10 ∧ 0 ≤ utc ∧ (IsoDate.toISOString utc).take 10 = value.toList then
      some (utc - 8 * 3_600_000)
    else none

/-- Inclusive Beijing dates become a half-open interval; none of them is no interval. -/
def createdDateRange : Option String → Option String → Option (Option (Int × Int))
  | none, none => some none
  | some createdFrom, some createdTo => do
    let start ← dayStart createdFrom
    let last ← dayStart createdTo
    if start < last + dayMilliseconds then some (some (start, last + dayMilliseconds)) else none
  | _, _ => none

structure AuditFilters where
  source : Option AuditSource
  category : Option AuditCategory
  action : Option String
  outcome : Option AuditOutcome
  actorType : Option AuditActorType
  siteId : Option String
  sourceAddress : Option String
  createdFrom : Option String
  createdTo : Option String
  q : Option String
  /-- `validateFilters` has read the dates. -/
  dates : (createdDateRange createdFrom createdTo).isSome = true
  deriving DecidableEq, Repr

def auditUnassociatedSite : String := "unassociated"

/-- The pattern of a search text, with its own pattern characters escaped. -/
def searchPattern (q : String) : String :=
  String.ofList ('%' :: (q.toList.flatMap fun c => if c = '\\' || c = '%' || c = '_' then ['\\', c] else [c]) ++ ['%'])

/-- The columns a search looks at. -/
def AuditRow.searched (row : AuditRow) : List (Option String) :=
  [some row.eventId, some row.action, row.actorId, row.subjectId, row.requestId, row.activityId, row.siteId, row.siteName,
    row.sourceAddress, row.route]

/-- The conditions of `selectRows` that both sources share. -/
def AuditFilters.admits (filters : AuditFilters) (row : AuditRow) : Bool :=
  filters.category.all (fun category => row.category = category) &&
  filters.action.all (fun action => row.action = action) &&
  filters.outcome.all (fun outcome => row.outcome = outcome.name) &&
  filters.actorType.all (fun actorType => row.actorType = actorType.name) &&
  filters.sourceAddress.all (fun address => row.sourceAddress = some address) &&
  filters.siteId.all (fun siteId => if siteId = auditUnassociatedSite then row.siteId = none else row.siteId = some siteId) &&
  ((createdDateRange filters.createdFrom filters.createdTo).bind id).all (fun range =>
    range.1 ≤ row.occurredAt && row.occurredAt < range.2) &&
  filters.q.all (fun q => q = "" || row.searched.any fun column =>
    column.any fun text => likeEscape '\\' (searchPattern q) text)

/-! ## Snapshots and positions -/

structure AuditSnapshot where
  coreSequence : Nat
  activitySequence : Nat
  capturedAt : Nat
  deriving DecidableEq, Repr

def AuditSnapshot.sequence (snapshot : AuditSnapshot) : AuditSource → Nat
  | .core => snapshot.coreSequence
  | .activity => snapshot.activitySequence

structure Position where
  occurredAt : Nat
  source : AuditSource
  sequence : Nat
  deriving DecidableEq, Repr

structure AuditCursor where
  snapshot : AuditSnapshot
  position : Position
  deriving DecidableEq, Repr

inductive AuditQueryError
  | unavailable
  | invalidCursor
  deriving DecidableEq, Repr

/-- `safeInteger` -/
def safeInteger (value : Int) : Except AuditQueryError Nat :=
  if 0 ≤ value ∧ value ≤ maxSafeInteger then .ok value.toNat else .error .unavailable

/-- The last time a `Date` can hold. -/
def maxDateMilliseconds : Nat := 8_640_000_000_000_000

/-- `iso`, as the time it writes. -/
def iso (value : Int) : Except AuditQueryError Nat := do
  let time ← safeInteger value
  if maxDateMilliseconds < time then .error .unavailable else .ok time

/-- `MAX(sequence)`, or 0 -/
def greatestSequence (rows : List AuditRow) : Int := ((rows.map (·.sequence)).max?).getD 0

def snapshot (trail : Trail) (now : Int) : Except AuditQueryError AuditSnapshot := do
  let core ← safeInteger (greatestSequence (coreProjection trail.audit))
  let activity ← safeInteger (greatestSequence (activityProjection trail.activity))
  let capturedAt ← safeInteger now
  .ok ⟨core, activity, capturedAt⟩

/-! ## Rows -/

/-- `ORDER BY occurred_at DESC, source DESC, sequence DESC`: the text 'core' is greater than 'activity'. -/
def AuditSource.place : AuditSource → Nat
  | .core => 0
  | .activity => 1

abbrev OrderKey := Lex (Int × Lex (Nat × Int))

def AuditRow.key (row : AuditRow) : OrderKey := toLex (-row.occurredAt, toLex (row.source.place, -row.sequence))

def Position.key (position : Position) : OrderKey :=
  toLex (-(position.occurredAt : Int), toLex (position.source.place, -(position.sequence : Int)))

/-- The condition on the position, in the source of the position and in the other one. -/
def AuditRow.behind (row : AuditRow) (position : Position) : Bool :=
  if row.source = position.source then
    row.occurredAt < position.occurredAt || (row.occurredAt = position.occurredAt && row.sequence < position.sequence)
  -- `source < position.source` of texts
  else if row.source = .activity then row.occurredAt ≤ position.occurredAt
  else row.occurredAt < position.occurredAt

/-- The cutoff of the activity; a cursor never extends it. -/
def retentionCutoff (snapshot : AuditSnapshot) (now : Int) : Int := max 0 (max now snapshot.capturedAt - 30 * dayMilliseconds)

/-- The rows of one source that a page is taken from. -/
def sourceRows (trail : Trail) (filters : AuditFilters) (snapshot : AuditSnapshot) (now : Int) (source : AuditSource) :
    List AuditRow :=
  match source with
  | .core => (coreProjection trail.audit).filter fun row => filters.admits row && row.sequence ≤ snapshot.coreSequence
  | .activity => (activityProjection trail.activity).filter fun row => filters.admits row &&
      row.sequence ≤ snapshot.activitySequence && retentionCutoff snapshot now ≤ row.occurredAt

def AuditFilters.sources (filters : AuditFilters) : List AuditSource :=
  match filters.source with
  | some source => [source]
  | none => [.core, .activity]

/-- `selectRows`: at most a page of each source, merged and cut to a page.  In one source the order of the keys is
    `ORDER BY occurred_at DESC, sequence DESC`. -/
def selectRows (trail : Trail) (filters : AuditFilters) (snapshot : AuditSnapshot) (position : Option Position) (limit : Nat)
    (now : Int) : List AuditRow :=
  (Merge.sorted AuditRow.key (filters.sources.flatMap fun source => (Merge.sorted AuditRow.key
    ((sourceRows trail filters snapshot now source).filter fun row => position.all row.behind)).take limit)).take limit

/-- `item`: a row whose numbers can be shown. -/
def item (row : AuditRow) : Except AuditQueryError AuditRow := do
  let _ ← safeInteger row.sequence
  let _ ← iso row.occurredAt
  let _ ← iso row.firstOccurredAt
  let _ ← iso row.lastOccurredAt
  let _ ← safeInteger row.eventCount
  let _ ← safeInteger (row.durationMs.getD 0 : Nat)
  let _ ← safeInteger (row.httpStatus.getD 0 : Nat)
  .ok row

/-! ## Cursors -/

variable {ν : Type} (pf : AuditPlatform ν)

def cursorPrefix : String := "perpay:audit:v1"

/-- `values[index] ?? null` -/
def orNull (text : Option String) : Value ν :=
  match text with
  | none => .null
  | some text => .str text

def queryFingerprint (filters : AuditFilters) (limit : Nat) : String :=
  pf.sha256 (String.ofList (stringify pf.numbers (.arr [.arr [orNull (filters.source.map (·.name)),
    orNull (filters.category.map (·.name)), orNull filters.action, orNull (filters.outcome.map (·.name)),
    orNull (filters.actorType.map (·.name)), orNull filters.siteId, orNull filters.sourceAddress, orNull filters.createdFrom,
    orNull filters.createdTo, orNull filters.q], .num (pf.ofNat limit)])))

def cursorValue (cursor : AuditCursor) (filters : AuditFilters) (limit : Nat) : Value ν :=
  .arr [.str cursorPrefix, .str (queryFingerprint pf filters limit), .num (pf.ofNat cursor.snapshot.coreSequence),
    .num (pf.ofNat cursor.snapshot.activitySequence), .num (pf.ofNat cursor.snapshot.capturedAt),
    .num (pf.ofNat cursor.position.occurredAt), .str cursor.position.source.name, .num (pf.ofNat cursor.position.sequence)]

def encodeCursor (cursor : AuditCursor) (filters : AuditFilters) (limit : Nat) : String :=
  String.ofList (Base64Url.encode (Bytes.utf8 (String.ofList (stringify pf.numbers (cursorValue pf cursor filters limit)))))

/-- `Number.isSafeInteger(value) && value >= 0`: the numbers that JavaScript writes as such an integer. -/
def naturalOf (value : Value ν) : Option Nat :=
  match value with
  | .num x =>
    let digits := pf.numbers.text x
    if digits.all Char.isDigit && Nat.ofDigitChars 10 digits 0 ≤ maxSafeInteger then some (Nat.ofDigitChars 10 digits 0) else none
  | _ => none

def sourceOf (value : Value ν) : Option AuditSource :=
  match value with
  | .str "core" => some .core
  | .str "activity" => some .activity
  | _ => none

/-- The array of a cursor. -/
def readCursor (filters : AuditFilters) (limit : Nat) (parts : Value ν) : Option AuditCursor :=
  match parts with
  | .arr [.str head, .str fingerprint, core, activity, captured, occurred, source, sequence] => do
    if head ≠ cursorPrefix ∨ fingerprint ≠ queryFingerprint pf filters limit then none
    else do
      let coreSequence ← naturalOf pf core
      let activitySequence ← naturalOf pf activity
      let capturedAt ← naturalOf pf captured
      let occurredAt ← naturalOf pf occurred
      let sequence ← naturalOf pf sequence
      let source ← sourceOf source
      let snapshot : AuditSnapshot := ⟨coreSequence, activitySequence, capturedAt⟩
      if maxDateMilliseconds < capturedAt ∨ maxDateMilliseconds < occurredAt ∨ sequence < 1 ∨ snapshot.sequence source < sequence
      then none else some ⟨snapshot, ⟨occurredAt, source, sequence⟩⟩
  | _ => none

/-- `new TextDecoder("utf-8", { fatal: true }).decode(bytes)` leaves out a byte order mark. -/
def decodeUtf8 (bytes : List UInt8) : Option String :=
  (Bytes.ofUtf8 bytes).map fun text =>
    match text.toList with
    | c :: cs => if c = '\uFEFF' then String.ofList cs else text
    | [] => text

def decodeCursor (value : String) (filters : AuditFilters) (limit : Nat) : Except AuditQueryError AuditCursor :=
  let bytes := Base64Url.decode value.toList
  if value.toList ≠ [] ∧ value.toList.length ≤ 2048 ∧ value.toList.all Base64Url.isUrlChar ∧ Base64Url.encode bytes = value.toList then
    match ((decodeUtf8 bytes).bind fun text => Json.parse pf.numbers text.toList).bind (readCursor pf filters limit) with
    | some cursor => .ok cursor
    | none => .error .invalidCursor
  else .error .invalidCursor

/-! ## Pages -/

structure AuditPageQuery where
  filters : AuditFilters
  limit : Nat
  cursor : Option AuditCursor
  deriving DecidableEq, Repr

structure AuditEventPage where
  data : List AuditRow
  snapshotAt : Nat
  nextCursor : Option String
  deriving DecidableEq, Repr

/-- The cursor behind a row. -/
def cursorAt (snapshot : AuditSnapshot) (last : AuditRow) : Except AuditQueryError AuditCursor := do
  let occurredAt ← safeInteger last.occurredAt
  let sequence ← safeInteger last.sequence
  .ok ⟨snapshot, ⟨occurredAt, last.source, sequence⟩⟩

/-- The snapshot of the cursor, or a new one. -/
def boundaryOf (trail : Trail) (cursor : Option AuditCursor) (now : Int) : Except AuditQueryError AuditSnapshot :=
  match cursor with
  | some cursor => .ok cursor.snapshot
  | none => snapshot trail now

/-- `next_cursor`: behind the last row of the page, when there are more. -/
def issueCursor (boundary : AuditSnapshot) (rows : List AuditRow) (filters : AuditFilters) (limit : Nat) :
    Except AuditQueryError (Option String) :=
  match (rows.take limit).getLast? with
  | none => .ok none
  | some last =>
    if limit < rows.length then do
      let cursor ← cursorAt boundary last
      .ok (some (encodeCursor pf cursor filters limit))
    else .ok none

def queryAuditEvents (trail : Trail) (query : AuditPageQuery) (now : Int) : Except AuditQueryError AuditEventPage := do
  let boundary ← boundaryOf trail query.cursor now
  let rows := selectRows trail query.filters boundary (query.cursor.map (·.position)) (query.limit + 1) now
  let data ← (rows.take query.limit).mapM item
  let snapshotAt ← iso boundary.capturedAt
  let nextCursor ← issueCursor pf boundary rows query.filters query.limit
  .ok ⟨data, snapshotAt, nextCursor⟩

end PerPay.Audit
