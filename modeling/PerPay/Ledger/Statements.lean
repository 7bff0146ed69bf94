/-
  **The statements of the ledger store** — the private functions of `ledger/store.ts` that read and
  write single tables: runs, segments, cursors, the schedule and the compensation state.

  As in the order store, the constraints and triggers of the schema stand inside the statement that
  would violate them.
-/
import PerPay.Lib.Table
import PerPay.Lib.Tx
import PerPay.Ledger.Model

namespace PerPay.Ledger

open Txn Table

/-- A transaction over the ledger tables. -/
abbrev LedgerTx (α : Type) : Type := Tx LedgerDb Fault α

def compensation10mIntervalMilliseconds : Nat := 60 * 1_000
def compensation1hIntervalMilliseconds : Nat := 60 * 60 * 1_000
def compensation1dIntervalMilliseconds : Nat := 24 * 60 * 60 * 1_000
def defaultRetryIntervalMilliseconds : Nat := 10 * 1_000
def paginationVariantRetryMaximumMilliseconds : Nat := 5 * 1_000
def nonRetryableCooldownMilliseconds : Nat := 15 * 60 * 1_000
def maximumRetryDelayMilliseconds : Nat := 24 * 60 * 60 * 1_000

/-- `assertChangedOnce`, when no row met the `WHERE`. -/
def changedNothing (label : String) : Fault := .error (label ++ " did not change exactly one row")

def safeNow {σ : Type} (value : Int) : Tx σ Fault Nat := do
  require (0 ≤ value ∧ value ≤ maxSafeInteger) (.rangeError "ledger clock is invalid")
  pure value.toNat

def randomUUID : LedgerTx String := do
  let uuid ← readWith fun db => db.entropy db.drawn
  update fun db => { db with drawn := db.drawn + 1 }
  pure uuid

/-! ## Runs -/

def requireRun (ingestRunId : String) : LedgerTx IngestRun := do
  let run ← readWith fun db => db.runs.find? (·.ingestRunId = ingestRunId)
  orFail (.error "ingest run does not exist") run

/-- `ORDER BY started_at, ingest_run_id` -/
def IngestRun.startedBefore (a b : IngestRun) : Bool :=
  a.startedAt < b.startedAt || (a.startedAt = b.startedAt && a.ingestRunId ≤ b.ingestRunId)

def LedgerDb.runningRun (db : LedgerDb) (providerAccountKey : String) (lane : IngestScanLane) :
    Option IngestRun :=
  ((db.runs.filter fun r =>
      r.providerAccountKey = providerAccountKey && r.status = .RUNNING && r.lane = lane).mergeSort
    IngestRun.startedBefore).head?

/-- The `CHECK`s of `ingest_runs`. -/
def IngestRun.rowChecks (run : IngestRun) : Bool :=
  (1 ≤ run.pageSize && run.pageSize ≤ 2000) &&
  (match run.completedAt with | none => true | some t => run.startedAt ≤ t) &&
  ((run.status = .RUNNING) = run.completedAt.isNone) &&
  ((run.status = .FAILED) = run.failureCode.isSome)

def insertRun (run : IngestRun) : LedgerTx Unit := do
  let db ← readWith id
  require run.rowChecks (.sqlite "CHECK constraint failed: ingest_runs")
  require (∀ r ∈ db.runs, r.ingestRunId ≠ run.ingestRunId) (.sqlite "UNIQUE constraint failed: ingest_runs")
  require (∀ r ∈ db.runs, ¬ (r.status = .RUNNING ∧ run.status = .RUNNING ∧
      r.providerAccountKey = run.providerAccountKey ∧ r.lane = run.lane))
    (.sqlite "UNIQUE constraint failed: index 'ingest_runs_one_running_lane'")
  update fun db => { db with runs := db.runs ++ [run] }

/-- `WHERE ingest_run_id = ? AND status = 'RUNNING'` -/
def IngestRun.runningAs (ingestRunId : String) (run : IngestRun) : Bool :=
  run.ingestRunId = ingestRunId && run.status = .RUNNING

def updateRunningRun (ingestRunId : String) (set : IngestRun → IngestRun) (label : String) :
    LedgerTx Unit := do
  let db ← readWith id
  let run ← orFail (changedNothing label) (db.runs.find? (IngestRun.runningAs ingestRunId))
  require (run.pagesReceived ≤ (set run).pagesReceived ∧ run.detailsReceived ≤ (set run).detailsReceived)
    (.sqlite "ingest run progress or terminal transition is invalid")
  require (set run).rowChecks (.sqlite "CHECK constraint failed: ingest_runs")
  update fun db => { db with runs := updateWhere (IngestRun.runningAs ingestRunId) set db.runs }

def updateRunProgress (ingestRunId : String) (detailCount : Nat) : LedgerTx Unit :=
  updateRunningRun ingestRunId
    (fun r => { r with pagesReceived := r.pagesReceived + 1, detailsReceived := r.detailsReceived + detailCount })
    "ingest run progress update"

/-! ## Segments -/

def requireSegment (ingestSegmentId : String) : LedgerTx IngestSegment := do
  let segment ← readWith fun db => db.segments.find? (·.ingestSegmentId = ingestSegmentId)
  orFail (.error "ingest segment does not exist") segment

def LedgerDb.rootSegment (db : LedgerDb) (ingestRunId : String) : Option IngestSegment :=
  db.segments.find? fun s => s.ingestRunId = ingestRunId && s.parentSegmentId = none

/-- The order in which a run takes its pending segments: forward in time for a normal scan, newest
    first for a compensation. -/
def IngestSegment.takenBefore (kind : IngestScanKind) (a b : IngestSegment) : Bool :=
  let earlier := if kind = .NORMAL then a.windowStart < b.windowStart else b.windowStart < a.windowStart
  earlier || (a.windowStart = b.windowStart && (a.windowEnd < b.windowEnd || (a.windowEnd = b.windowEnd &&
    (a.depth < b.depth || (a.depth = b.depth && a.ingestSegmentId ≤ b.ingestSegmentId)))))

def LedgerDb.nextPendingSegment (db : LedgerDb) (ingestRunId : String) : Option IngestSegment :=
  let kind := ((db.runs.find? (·.ingestRunId = ingestRunId)).map (·.scanKind)).getD .NORMAL
  ((db.segments.filter fun s => s.ingestRunId = ingestRunId && s.state = .PENDING).mergeSort
    (IngestSegment.takenBefore kind)).head?

/-- The `CHECK`s of `ingest_segments`. -/
def IngestSegment.rowChecks (s : IngestSegment) : Bool :=
  s.depth ≤ 63 && s.windowStart < s.windowEnd && (s.parentSegmentId.isNone = (s.depth = 0)) &&
  (match s.state with
   | .PENDING => s.splitAt.isNone && s.acceptedRawPageId.isNone && s.completedAt.isNone
   | .SPLIT => s.splitAt.isSome && s.acceptedRawPageId.isNone && s.completedAt.isSome
   | .COMPLETE => s.splitAt.isNone && s.acceptedRawPageId.isSome && s.completedAt.isSome) &&
  (match s.completedAt with | none => true | some t => s.createdAt ≤ t)

/-- `ingest_segments_valid_insert`: a root spans its run, a child lies in its split parent. -/
def LedgerDb.placesSegment (db : LedgerDb) (s : IngestSegment) : Bool :=
  db.runs.any fun run => run.ingestRunId = s.ingestRunId &&
    (match s.parentSegmentId with
     | none => s.windowStart = run.windowStart && s.windowEnd = run.windowEnd && s.depth = 0
     | some parentId => db.segments.any fun parent =>
         parent.ingestSegmentId = parentId && parent.ingestRunId = s.ingestRunId && parent.state = .SPLIT &&
         s.depth = parent.depth + 1 && parent.windowStart ≤ s.windowStart && s.windowEnd ≤ parent.windowEnd)

def insertSegment (segment : IngestSegment) : LedgerTx Unit := do
  let db ← readWith id
  require (db.placesSegment segment) (.sqlite "ingest segment must belong to its run and parent window")
  require segment.rowChecks (.sqlite "CHECK constraint failed: ingest_segments")
  require (∀ s ∈ db.segments, s.ingestSegmentId ≠ segment.ingestSegmentId)
    (.sqlite "UNIQUE constraint failed: ingest_segments.ingest_segment_id")
  require (∀ s ∈ db.segments, ¬ (s.ingestRunId = segment.ingestRunId ∧
      s.windowStart = segment.windowStart ∧ s.windowEnd = segment.windowEnd))
    (.sqlite "UNIQUE constraint failed: ingest_segments.ingest_run_id, window_start, window_end")
  require (∀ s ∈ db.segments, ¬ (s.ingestRunId = segment.ingestRunId ∧
      s.parentSegmentId = none ∧ segment.parentSegmentId = none))
    (.sqlite "UNIQUE constraint failed: index 'ingest_segments_one_root'")
  update fun db => { db with segments := db.segments ++ [segment] }

/-- `WHERE ingest_segment_id = ? AND state = 'PENDING'` -/
def IngestSegment.pendingAs (ingestSegmentId : String) (s : IngestSegment) : Bool :=
  s.ingestSegmentId = ingestSegmentId && s.state = .PENDING

def updatePendingSegment (ingestSegmentId : String) (set : IngestSegment → IngestSegment)
    (label : String) : LedgerTx Unit := do
  let db ← readWith id
  let segment ← orFail (changedNothing label) (db.segments.find? (IngestSegment.pendingAs ingestSegmentId))
  require (set segment).rowChecks (.sqlite "CHECK constraint failed: ingest_segments")
  update fun db => { db with segments := updateWhere (IngestSegment.pendingAs ingestSegmentId) set db.segments }

def insertChildSegment (parent : IngestSegment) (window : LedgerWindow) (now : Nat) :
    LedgerTx IngestSegment := do
  let ingestSegmentId ← randomUUID
  let child : IngestSegment :=
    { ingestSegmentId, ingestRunId := parent.ingestRunId, parentSegmentId := some parent.ingestSegmentId,
      windowStart := window.start, windowEnd := window.end_, depth := parent.depth + 1, state := .PENDING,
      splitAt := none, acceptedRawPageId := none, createdAt := now, completedAt := none }
  insertSegment child
  pure child

def LedgerDb.hasPendingSegments (db : LedgerDb) (ingestRunId : String) : Bool :=
  db.segments.any fun s => s.ingestRunId = ingestRunId && s.state = .PENDING

/-! ## Cursors -/

def LedgerDb.cursor (db : LedgerDb) (providerAccountKey : String) (lane : IngestScanLane) :
    Option LedgerCursor :=
  db.cursors.find? fun c => c.providerAccountKey = providerAccountKey && c.scanLane = lane

def requireCursor (providerAccountKey : String) (lane : IngestScanLane) : LedgerTx LedgerCursor := do
  let cursor ← readWith (·.cursor providerAccountKey lane)
  orFail (.error "ledger cursor does not exist") cursor

/-- The `CHECK`s of `ledger_cursors`. -/
def LedgerCursor.rowChecks (c : LedgerCursor) : Bool :=
  (1 ≤ c.pageSize && c.pageSize ≤ 2000) && ((c.scanLane = .NORMAL) = (c.scanKind = .NORMAL)) &&
  c.overlapMilliseconds ≤ 604800000 && 1 ≤ c.version &&
  (if c.complete then c.nextPageNo = none else c.nextPageNo = some 1)

def insertCursor (cursor : LedgerCursor) : LedgerTx Unit := do
  let db ← readWith id
  require cursor.rowChecks (.sqlite "CHECK constraint failed: ledger_cursors")
  require (∀ c ∈ db.cursors, ¬ (c.providerAccountKey = cursor.providerAccountKey ∧ c.scanLane = cursor.scanLane))
    (.sqlite "UNIQUE constraint failed: ledger_cursors.provider_account_key, scan_lane")
  update fun db => { db with cursors := db.cursors ++ [cursor] }

/-- `UPDATE ledger_cursors … WHERE provider_account_key = ? AND scan_lane = ? AND …`; `guard` is the
    rest of the `WHERE`, and every update advances the version by one. -/
def updateCursor (providerAccountKey : String) (lane : IngestScanLane) (guard : LedgerCursor → Bool)
    (set : LedgerCursor → LedgerCursor) (label : String) : LedgerTx Unit := do
  let db ← readWith id
  let cursor ← orFail (changedNothing label) (db.cursors.find? fun c =>
    c.providerAccountKey = providerAccountKey && c.scanLane = lane && guard c)
  require (cursor.updatedAt ≤ (set cursor).updatedAt) (.sqlite "ledger cursor updated_at cannot move backwards")
  require ((set cursor).version = cursor.version + 1) (.sqlite "ledger cursor version must advance exactly once")
  require (set cursor).rowChecks (.sqlite "CHECK constraint failed: ledger_cursors")
  update fun db => { db with cursors := updateWhere (fun c =>
    c.providerAccountKey = providerAccountKey && c.scanLane = lane && guard c) set db.cursors }

/-- Move the cursor of a run aside without changing its window: the version and the time advance. -/
def yieldCursor (cursor : LedgerCursor) (guard : LedgerCursor → Bool) (updatedAt : Nat) (label : String) :
    LedgerTx Unit :=
  updateCursor cursor.providerAccountKey cursor.scanLane (fun c => c.version = cursor.version && guard c)
    (fun c => { c with updatedAt, version := c.version + 1 }) label

/-- No write of a run is earlier than what the run already wrote. -/
def clampIngestWriteTime (run : IngestRun) (cursor : LedgerCursor) (requestedNow : Nat) : LedgerTx Nat := do
  let db ← readWith id
  let own := db.segments.filter (·.ingestRunId = run.ingestRunId)
  pure (max (max (max requestedNow run.startedAt) cursor.updatedAt)
    (max ((own.map (·.createdAt)).max?.getD 0) ((own.filterMap (·.completedAt)).max?.getD 0)))

/-! ## The schedule and the compensation state -/

def clearIngestScheduleState (providerAccountKey : String) : LedgerTx Unit :=
  update fun db => { db with schedules := db.schedules.filter (·.providerAccountKey ≠ providerAccountKey) }

def recordIngestScheduleFailure (providerAccountKey errorCode : String) (retryable : Bool)
    (intervalMilliseconds : Nat) (retryAfterSeconds : Option Nat) (requestedNow : Nat) : LedgerTx Unit := do
  let existing ← readWith fun db => db.schedules.find? (·.providerAccountKey = providerAccountKey)
  let now := max requestedNow ((existing.map (·.updatedAt)).getD 0)
  let consecutiveFailures := min maxSafeInteger ((existing.map (·.consecutiveFailures)).getD 0 + 1)
  let baseDelay := if retryable then intervalMilliseconds else nonRetryableCooldownMilliseconds
  let exponentialDelay :=
    if retryable then min maximumRetryDelayMilliseconds (baseDelay * 2 ^ min 30 (consecutiveFailures - 1))
    else baseDelay
  let retryAfterDelay := (retryAfterSeconds.map (· * 1_000)).getD 0
  let delay := min maximumRetryDelayMilliseconds (max (max baseDelay exponentialDelay) retryAfterDelay)
  let state : LedgerIngestScheduleState :=
    { providerAccountKey, consecutiveFailures, cooldownUntil := min maxSafeInteger (now + delay),
      lastErrorCode := errorCode, retryable, updatedAt := now }
  update fun db =>
    { db with schedules :=
        if existing.isSome then
          updateWhere (fun s => s.providerAccountKey = providerAccountKey) (fun _ => state) db.schedules
        else db.schedules ++ [state] }

def nextCompensationDueAt (now interval : Nat) : LedgerTx Nat := do
  require (now + interval ≤ maxSafeInteger)
    (.rangeError "ledger compensation due time exceeds the safe integer range")
  pure (now + interval)

/-- The next due time of one compensation: a sweep that proved its interval consumes it. -/
def dueAfter (consumed : Bool) (current now interval : Nat) : LedgerTx Nat :=
  if consumed then nextCompensationDueAt now interval else pure current

/-- A longer sweep contains the shorter ones, and proves them for their next intervals too; a normal
    scan consumes no compensation. -/
def compensationAfter (scanKind : IngestScanKind) (existing : LedgerCompensationState) (now : Nat) :
    LedgerTx LedgerCompensationState := do
  let next1dAt ← dueAfter (scanKind = .COMPENSATION_1D) existing.next1dAt now
    compensation1dIntervalMilliseconds
  let next1hAt ← dueAfter (scanKind = .COMPENSATION_1D || scanKind = .COMPENSATION_1H) existing.next1hAt now
    compensation1hIntervalMilliseconds
  let next10mAt ← dueAfter (scanKind ≠ .NORMAL) existing.next10mAt now compensation10mIntervalMilliseconds
  pure { existing with next10mAt, next1hAt, next1dAt, updatedAt := max existing.updatedAt now }

def initialCompensation (providerAccountKey : String) (now : Nat) : LedgerTx LedgerCompensationState := do
  let next10mAt ← nextCompensationDueAt now compensation10mIntervalMilliseconds
  let next1hAt ← nextCompensationDueAt now compensation1hIntervalMilliseconds
  let next1dAt ← nextCompensationDueAt now compensation1dIntervalMilliseconds
  pure { providerAccountKey, next10mAt, next1hAt, next1dAt, updatedAt := now }

def advanceCompensationState (providerAccountKey : String) (scanKind : IngestScanKind) (now : Nat) :
    LedgerTx Unit := do
  let existing ← readWith fun db => db.compensation.find? (·.providerAccountKey = providerAccountKey)
  match existing with
  | none => do
    let state ← initialCompensation providerAccountKey now
    update fun db => { db with compensation := db.compensation ++ [state] }
  | some existing => do
    let state ← compensationAfter scanKind existing now
    update fun db =>
      { db with compensation :=
          updateWhere (fun s => s.providerAccountKey = providerAccountKey) (fun _ => state) db.compensation }

/-! ## Errors -/

def insertIngestError (error : IngestError) : LedgerTx Unit := do
  let db ← readWith id
  require (∃ run ∈ db.runs, run.ingestRunId = error.ingestRunId ∧ run.providerAccountKey = error.providerAccountKey)
    (.sqlite "ingest error must share its run account")
  require (∀ e ∈ db.errors, e.ingestErrorId ≠ error.ingestErrorId)
    (.sqlite "UNIQUE constraint failed: ingest_errors.ingest_error_id")
  update fun db => { db with errors := db.errors ++ [error] }

/-! ## The end of a run -/

/-- The latest occurrence among the entries that the accepted leaves of a run brought or repeated. -/
def LedgerDb.latestOccurredAtForRun (db : LedgerDb) (ingestRunId : String) : Option Nat :=
  let pages := (db.observations.filter fun o => o.ingestRunId = ingestRunId &&
    o.observationKind = .ACCEPTED_LEAF && o.disposition = .PROCESSED).map (·.rawPageId)
  let events := (db.rawEvents.filter fun e => e.rawPageId ∈ pages).map (·.rawEventId)
  ((db.entries.filter fun e => e.rawEventId ∈ events).map (·.facts.occurredAt)).max?

def completeSegmentRun (run : IngestRun) (cursor : LedgerCursor) (now : Nat) : LedgerTx Unit := do
  require (cursor.complete = false ∧ cursor.nextPageNo = some 1)
    (.error "ledger cursor cannot complete this segment run")
  let latestOccurredAt ← readWith (·.latestOccurredAtForRun run.ingestRunId)
  let lastEvent := match latestOccurredAt with
    | none => cursor.lastEventOccurredAt
    | some latest => some (max (cursor.lastEventOccurredAt.getD 0) latest)
  updateCursor cursor.providerAccountKey cursor.scanLane
    (fun c => c.version = cursor.version && !c.complete)
    (fun c => { c with nextPageNo := none, complete := true, lastEventOccurredAt := lastEvent,
                       lastCompletedAt := some now, updatedAt := now, version := c.version + 1 })
    "ledger cursor root completion"
  updateRunningRun run.ingestRunId (fun r => { r with status := .COMPLETED, completedAt := some now })
    "ingest segment run completion"
  advanceCompensationState run.providerAccountKey run.scanKind now

end PerPay.Ledger
