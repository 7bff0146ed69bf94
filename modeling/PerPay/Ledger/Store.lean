/-
  **The ledger store** — the public methods of `LedgerStore` (`ledger/store.ts`), each one
  transaction, and the system whose steps they are.

  A scan of a window is a RUN.  The run owns a tree of SEGMENTS that starts with one root; a page of a
  segment is accepted when the provider has no further results, and a segment with more results than
  a page holds is split in the middle.  When no segment is pending the run and its CURSOR complete
  together.
-/
import PerPay.Lib.Runs
import PerPay.Ledger.Ingestion

namespace PerPay.Ledger

open Txn Table

variable (pf : LedgerPlatform)

/-! ## Starting a run -/

/-- `assertProviderIdentityBindingIntegrity` -/
def requireIntactBinding (binding : ProviderIdentityBinding) : LedgerTx Unit :=
  require (pf.identityFingerprint binding.providerAccountKey binding.endpoint binding.externalAccountId =
      some binding.identityFingerprint) (.error "provider identity binding fingerprint is invalid")

/-- The binding of the active account, checked when there is one. -/
def requireIntactActive (configuration : ProviderConfiguration) : LedgerTx Unit :=
  match configuration.activeProviderAccountKey with
  | none => pure ()
  | some key => do
    let binding ← orFail (.error "provider identity binding does not exist")
      (configuration.bindings.find? (·.providerAccountKey = key))
    requireIntactBinding pf binding

/-- Only a bound account that is active, or is an Alipay account of the installation, is scanned. -/
def requireScannableAccount (providerAccountKey : String) : LedgerTx Unit := do
  let configuration ← readWith (·.configuration)
  let binding ← orFail (.error "provider account must be bound before ledger ingestion")
    (configuration.bindings.find? (·.providerAccountKey = providerAccountKey))
  requireIntactBinding pf binding
  requireIntactActive pf configuration
  require (providerAccountKey ∈ configuration.alipayAccountKeys ∨
      configuration.activeProviderAccountKey = some providerAccountKey)
    (.error "provider account must be active before ledger ingestion")

/-- What `startIngestRun` works with, once its input is checked. -/
structure RunParameters where
  providerAccountKey : String
  window : LedgerWindow
  pageSize : Nat
  overlapMilliseconds : Nat
  scanKind : IngestScanKind
  requestedNow : Nat
  deriving DecidableEq, Repr

def RunParameters.lane (p : RunParameters) : IngestScanLane := scanLaneForKind p.scanKind

/-- The running run and its cursor are those of the same scan. -/
def RunParameters.resumes (p : RunParameters) (running : IngestRun) (cursor : Option LedgerCursor) : Bool :=
  running.windowStart = p.window.start && running.windowEnd = p.window.end_ &&
  running.pageSize = p.pageSize && running.scanKind = p.scanKind &&
  cursor.any fun c => c.windowStart = p.window.start && c.windowEnd = p.window.end_ &&
    c.pageSize = p.pageSize && c.scanKind = running.scanKind &&
    c.overlapMilliseconds = p.overlapMilliseconds && !c.complete

def resumeRun (p : RunParameters) (running : IngestRun) (cursor : Option LedgerCursor) : LedgerTx IngestRun := do
  require (p.resumes running cursor) (.error "provider account already has a different running ingest window")
  let root ← readWith (·.rootSegment running.ingestRunId)
  require root.isSome (.error "ingest run has no root segment")
  pure running

/-- The cursor of the lane takes up the window: it is created, resumed or moved on. -/
def openCursor (p : RunParameters) (cursor : Option LedgerCursor) (scanKind : IngestScanKind) (now : Nat) :
    LedgerTx Unit :=
  match cursor with
  | none => insertCursor
      { providerAccountKey := p.providerAccountKey, scanLane := p.lane, windowStart := p.window.start,
        windowEnd := p.window.end_, nextPageNo := some 1, pageSize := p.pageSize, scanKind,
        overlapMilliseconds := p.overlapMilliseconds, complete := false, lastEventOccurredAt := none,
        lastCompletedAt := none, updatedAt := now, version := 1 }
  | some c =>
    if c.complete then
      updateCursor p.providerAccountKey p.lane (fun _ => true)
        (fun c => { c with windowStart := p.window.start, windowEnd := p.window.end_, nextPageNo := some 1,
                           pageSize := p.pageSize, scanKind, overlapMilliseconds := p.overlapMilliseconds,
                           complete := false, updatedAt := now, version := c.version + 1 })
        "ledger cursor restart"
    else
      require (c.windowStart = p.window.start ∧ c.windowEnd = p.window.end_ ∧ c.pageSize = p.pageSize ∧
          c.overlapMilliseconds = p.overlapMilliseconds)
        (.error "an incomplete ledger window must be resumed with the same parameters")

/-- An incomplete window keeps the scan kind it was started with. -/
def effectiveScanKind (cursor : Option LedgerCursor) (scanKind : IngestScanKind) : IngestScanKind :=
  match cursor with
  | some c => if c.complete then scanKind else c.scanKind
  | none => scanKind

def startNewRun (p : RunParameters) (cursor : Option LedgerCursor) : LedgerTx IngestRun := do
  let now := max p.requestedNow (max ((cursor.map (·.updatedAt)).getD 0) ((cursor.bind (·.lastCompletedAt)).getD 0))
  let scanKind := effectiveScanKind cursor p.scanKind
  openCursor p cursor scanKind now
  let ingestRunId ← randomUUID
  let run : IngestRun :=
    { ingestRunId, providerAccountKey := p.providerAccountKey, windowStart := p.window.start,
      windowEnd := p.window.end_, pageSize := p.pageSize, scanKind, status := .RUNNING, startedAt := now,
      completedAt := none, pagesReceived := 0, detailsReceived := 0, failureCode := none }
  insertRun run
  let rootSegmentId ← randomUUID
  insertSegment
    { ingestSegmentId := rootSegmentId, ingestRunId, parentSegmentId := none,
      windowStart := p.window.start, windowEnd := p.window.end_, depth := 0, state := .PENDING,
      splitAt := none, acceptedRawPageId := none, createdAt := now, completedAt := none }
  pure run

def runParameters (input : StartIngestRunInput) : LedgerTx RunParameters := do
  valueOf (validateWindow input.window)
  valueOf (validatePageSize input.pageSize)
  let providerAccountKey ← valueOf (normalizeProviderAccountKey input.providerAccountKey)
  let overlapMilliseconds := input.overlapMilliseconds.getD ledgerCursorDefaultOverlapMilliseconds
  valueOf (validateOverlapMilliseconds overlapMilliseconds)
  let requestedNow ← safeNow input.now
  pure { providerAccountKey, window := input.window, pageSize := input.pageSize, overlapMilliseconds,
         scanKind := input.scanKind.getD .NORMAL, requestedNow }

/-- Resume the running run of the lane, or start a new one. -/
def openRun (p : RunParameters) (running : Option IngestRun) (cursor : Option LedgerCursor) : LedgerTx IngestRun :=
  match running with
  | some running => resumeRun p running cursor
  | none => startNewRun p cursor

def startIngestRun (input : StartIngestRunInput) : LedgerTx IngestRun := do
  let p ← runParameters input
  requireScannableAccount pf p.providerAccountKey
  let running ← readWith (·.runningRun p.providerAccountKey p.lane)
  let cursor ← readWith (·.cursor p.providerAccountKey p.lane)
  openRun p running cursor

/-! ## Recording a page -/

def prepareSegmentPage (input : RecordSegmentPageInput) : LedgerTx PreparedSegmentPage := do
  let now ← safeNow input.now
  require (input.evidence.body.utf8ByteSize ≤ ledgerMaxRawPageBytes)
    (.rangeError "provider raw page exceeds the persistence limit")
  valueOf (validatePageSize input.page.pageSize)
  require (input.page.pageNo = 1) (.rangeError "segment ingestion only accepts provider page one")
  require (isSafeInteger input.page.totalSize) (.rangeError "provider total size is invalid")
  require (input.page.details.length ≤ input.page.pageSize)
    (.rangeError "provider page contains too many details")
  require (input.page.hasMore = true →
      input.page.pageSize < input.page.totalSize ∧ input.page.details.length = input.page.pageSize)
    (.rangeError "oversized provider probe metadata is inconsistent")
  require (input.page.hasMore = false → input.page.totalSize = input.page.details.length)
    (.rangeError "accepted provider leaf must contain its complete result set")
  require (100 ≤ input.evidence.httpStatus ∧ input.evidence.httpStatus ≤ 599)
    (.rangeError "provider HTTP status is invalid")
  require input.evidence.signatureVerified (.error "unverified provider responses cannot enter ledger ingestion")
  require (∀ traceId ∈ input.evidence.traceId, 1 ≤ utf16Length traceId ∧ utf16Length traceId ≤ 256)
    (.rangeError "provider trace ID is invalid")
  pure ⟨now, input.evidence, pf.sha256 input.evidence.body⟩

def validateRetryIntervalMilliseconds (value : Nat) : LedgerTx Nat := do
  require (1_000 ≤ value ∧ value ≤ 3_600_000) (.rangeError "ledger retry interval is invalid")
  pure value

/-- A parsed occurrence must lie in the segment; what cannot be parsed is isolated later. -/
def validateDetailsWithinSegment (details : List AccountLogDetail) (segment : IngestSegment) :
    Except Fault Unit := do
  let segmentStart ← thrown (parseOccurredAt (some segment.windowStart))
  let segmentEnd ← thrown (parseOccurredAt (some segment.windowEnd))
  let outside := details.any fun detail =>
    detail.occurredAt.isSome &&
      (match parseOccurredAt detail.occurredAt with
       | .ok occurredAt => occurredAt < segmentStart || segmentEnd < occurredAt
       | .error _ => false)
  if outside then throw (.rangeError "provider event is outside the ingest segment")

def failPaginationVariant (run : IngestRun) (now retryIntervalMilliseconds : Nat) : LedgerTx Unit := do
  let ingestErrorId ← randomUUID
  insertIngestError
    { ingestErrorId, ingestRunId := run.ingestRunId, providerAccountKey := run.providerAccountKey,
      pageNo := some 1, errorKind := "pagination", errorCode := "pagination_variant", retryable := true,
      occurredAt := now }
  recordIngestScheduleFailure run.providerAccountKey "pagination_variant" true
    (min retryIntervalMilliseconds paginationVariantRetryMaximumMilliseconds) none now
  let cursor ← requireCursor run.providerAccountKey run.lane
  yieldCursor cursor (fun c => !c.complete) (max now cursor.updatedAt)
    "ledger cursor yield after pagination variant"

def failDensityExceeded (run : IngestRun) (now retryIntervalMilliseconds : Nat) : LedgerTx Unit := do
  let ingestErrorId ← randomUUID
  insertIngestError
    { ingestErrorId, ingestRunId := run.ingestRunId, providerAccountKey := run.providerAccountKey,
      pageNo := some 1, errorKind := "pagination", errorCode := "pagination_density_exceeded",
      retryable := false, occurredAt := now }
  recordIngestScheduleFailure run.providerAccountKey "pagination_density_exceeded" false
    retryIntervalMilliseconds none now
  updateRunningRun run.ingestRunId
    (fun r => { r with status := .FAILED, completedAt := some now,
                       failureCode := some "pagination_density_exceeded" })
    "pagination density run failure"

/-- The segment gives way to its two halves. -/
def splitSegment (run : IngestRun) (segment : IngestSegment) (split : WindowSplit)
    (retained : RetainedSegmentPage) (now : Nat) : LedgerTx RecordSegmentPageResult := do
  updatePendingSegment segment.ingestSegmentId
    (fun s => { s with state := .SPLIT, splitAt := some split.splitAt, completedAt := some now })
    "ingest segment split"
  clearIngestScheduleState run.providerAccountKey
  let left ← insertChildSegment segment split.left now
  let right ← insertChildSegment segment split.right now
  pure (.split retained.observation retained.page left right)

def recordProbe (run : IngestRun) (segment : IngestSegment) (retained : RetainedSegmentPage)
    (now retryIntervalMilliseconds : Nat) : LedgerTx RecordSegmentPageResult := do
  updateRunProgress run.ingestRunId 0
  let split ← valueOf (splitLedgerWindow ⟨segment.windowStart, segment.windowEnd⟩)
  match split with
  | none => do
    failDensityExceeded run now retryIntervalMilliseconds
    pure (.density_exceeded retained.observation retained.page)
  | some split => splitSegment run segment split retained now

/-- One event of a leaf: stored, then normalized. -/
def recordDetail (run : IngestRun) (rawPageId : String) (now : Nat) (detail : AccountLogDetail × Nat) :
    LedgerTx PageNormalizationResult := do
  let rawEvent ← insertRawEvent pf run.providerAccountKey rawPageId detail.2 detail.1 now
  normalizeAndInsert pf rawEvent now

/-- The events of a leaf are stored and normalized once, when it is first processed. -/
def recordDetails (run : IngestRun) (details : List AccountLogDetail) (retained : RetainedSegmentPage)
    (now : Nat) : LedgerTx (List PageNormalizationResult) :=
  if retained.shouldNormalize then collect (recordDetail pf run retained.page.rawPageId now) details.zipIdx
  else do
    let storedDetailCount ← readWith (·.rawEventCountForPage retained.page.rawPageId)
    require (storedDetailCount = details.length)
      (.error "duplicate accepted leaf does not contain its stored raw events")
    pure []

/-- When nothing is pending the run is complete. -/
def completeIfDone (run : IngestRun) (cursor : LedgerCursor) (rootCompleted : Bool) (now : Nat) : LedgerTx Unit :=
  if rootCompleted then completeSegmentRun run cursor now else pure ()

def acceptLeaf (run : IngestRun) (segment : IngestSegment) (cursor : LedgerCursor)
    (details : List AccountLogDetail) (retained : RetainedSegmentPage) (now : Nat) :
    LedgerTx RecordSegmentPageResult := do
  clearIngestScheduleState run.providerAccountKey
  let normalized ← recordDetails pf run details retained now
  updateRunProgress run.ingestRunId details.length
  updatePendingSegment segment.ingestSegmentId
    (fun s => { s with state := .COMPLETE, acceptedRawPageId := some retained.page.rawPageId,
                       completedAt := some now })
    "ingest segment completion"
  let pending ← readWith (·.hasPendingSegments run.ingestRunId)
  completeIfDone run cursor (!pending) now
  pure (.accepted retained.observation retained.page normalized (!pending))

/-- What becomes of the segment, once the response is retained. -/
def finishPage (run : IngestRun) (segment : IngestSegment) (cursor : LedgerCursor) (page : AccountLogPage)
    (retained : RetainedSegmentPage) (now retryIntervalMilliseconds : Nat) :
    LedgerTx RecordSegmentPageResult :=
  if retained.observation = .variant then do
    failPaginationVariant run now retryIntervalMilliseconds
    pure (.variant retained.page)
  else if page.hasMore then recordProbe run segment retained now retryIntervalMilliseconds
  else acceptLeaf pf run segment cursor page.details retained now

def recordSegmentPage (input : RecordSegmentPageInput) : LedgerTx RecordSegmentPageResult := do
  let requestedPage ← prepareSegmentPage pf input
  let retryIntervalMilliseconds ← validateRetryIntervalMilliseconds
    (input.retryIntervalMilliseconds.getD defaultRetryIntervalMilliseconds)
  let run ← requireRun input.ingestRunId
  require (run.status = .RUNNING) (.error "ingest run is already terminal")
  let segment ← requireSegment input.ingestSegmentId
  require (segment.ingestRunId = run.ingestRunId ∧ segment.state = .PENDING)
    (.error "ingest segment is not pending for this run")
  require (run.pageSize = input.page.pageSize) (.error "provider page size does not match the ingest run")
  let cursor ← requireCursor run.providerAccountKey run.lane
  require (cursor.complete = false ∧ cursor.windowStart = run.windowStart ∧
      cursor.windowEnd = run.windowEnd ∧ cursor.pageSize = run.pageSize)
    (.error "ingest run no longer owns the active ledger window")
  valueOf (validateDetailsWithinSegment input.page.details segment)
  let now ← clampIngestWriteTime run cursor requestedPage.now
  let retained ← retainSegmentPage pf run segment input.page { requestedPage with now }
    (if input.page.hasMore then .OVERSIZED_PROBE else .ACCEPTED_LEAF)
  finishPage pf run segment cursor input.page retained now retryIntervalMilliseconds

/-! ## Ending and yielding -/

/-- An incomplete cursor keeps its run open; a complete one ends it. -/
def endRun (run : IngestRun) (cursor : LedgerCursor) (status : CompletionStatus) (now : Nat) : LedgerTx Unit :=
  if status = .PARTIAL ∧ cursor.complete = false then pure ()
  else do
    require (¬ (status = .COMPLETED ∧ cursor.complete = false))
      (.error "an incomplete ledger cursor cannot complete its ingest run")
    updateRunningRun run.ingestRunId (fun r => { r with status := status.toRunStatus, completedAt := some now })
      "ingest run completion"
    if status = .COMPLETED then advanceCompensationState run.providerAccountKey run.scanKind now else pure ()

def completeRunning (run : IngestRun) (status : Option CompletionStatus) (requestedNow : Nat) : LedgerTx Unit := do
  let cursor ← requireCursor run.providerAccountKey run.lane
  let now ← clampIngestWriteTime run cursor requestedNow
  endRun run cursor (status.getD (if cursor.complete then .COMPLETED else .PARTIAL)) now

def completeIngestRun (input : CompleteIngestRunInput) : LedgerTx Unit := do
  let requestedNow ← safeNow input.now
  let run ← requireRun input.ingestRunId
  if run.status = .RUNNING then completeRunning run input.status requestedNow else pure ()

/-- The failure is also a delay for the next scan when the caller has a retry schedule. -/
def scheduleRetry (run : IngestRun) (input : IngestErrorInput) (now : Nat) : LedgerTx Unit :=
  match input.retrySchedule with
  | none => pure ()
  | some (intervalMilliseconds, retryAfterSeconds) =>
    recordIngestScheduleFailure run.providerAccountKey input.errorCode input.retryable intervalMilliseconds
      retryAfterSeconds now

/-- An incomplete window is rewound for the next run. -/
def rewindCursor (cursor : LedgerCursor) (now : Nat) : LedgerTx Unit :=
  if cursor.complete then pure ()
  else updateCursor cursor.providerAccountKey cursor.scanLane (fun c => c.version = cursor.version)
    (fun c => { c with nextPageNo := some 1, updatedAt := max now cursor.updatedAt, version := c.version + 1 })
    "ledger cursor rewind after ingest failure"

/-- The run is kept for a later retry, or fails. -/
def yieldOrFail (run : IngestRun) (cursor : LedgerCursor) (input : IngestErrorInput) (now : Nat) : LedgerTx Unit :=
  if input.preserveRun then
    yieldCursor cursor (fun _ => true) (max now cursor.updatedAt)
      "ledger cursor yield after retryable ingest error"
  else do
    updateRunningRun run.ingestRunId
      (fun r => { r with status := .FAILED, completedAt := some now, failureCode := some input.errorCode })
      "ingest run failure"
    rewindCursor cursor now

/-- `^[A-Za-z0-9][A-Za-z0-9._:-]*$`, up to a length. -/
def validErrorLabel (value : String) (maximum : Nat) : Bool :=
  match value.toList with
  | [] => false
  | c :: cs => c.isAlphanum && cs.length < maximum && cs.all fun d => d.isAlphanum || d ∈ ['.', '_', ':', '-']

def recordIngestError (input : IngestErrorInput) : LedgerTx Unit := do
  let requestedNow ← safeNow input.now
  require (validErrorLabel input.errorKind 64) (.rangeError "ingest error kind is invalid")
  require (validErrorLabel input.errorCode 128) (.rangeError "ingest error code is invalid")
  require (∀ schedule ∈ input.retrySchedule, 1_000 ≤ schedule.1 ∧ schedule.1 ≤ 3_600_000)
    (.rangeError "ledger retry interval is invalid")
  require (∀ schedule ∈ input.retrySchedule, ∀ seconds ∈ schedule.2, seconds ≤ 86_400)
    (.rangeError "ledger retry-after is invalid")
  require (∀ pageNo ∈ input.pageNo, 1 ≤ pageNo ∧ pageNo ≤ maxSafeInteger)
    (.rangeError "ingest error page number is invalid")
  let run ← requireRun input.ingestRunId
  require (run.status = .RUNNING) (.error "ingest run is already terminal")
  let cursor ← requireCursor run.providerAccountKey run.lane
  let now ← clampIngestWriteTime run cursor requestedNow
  let ingestErrorId ← randomUUID
  insertIngestError
    { ingestErrorId, ingestRunId := run.ingestRunId, providerAccountKey := run.providerAccountKey,
      pageNo := input.pageNo, errorKind := input.errorKind, errorCode := input.errorCode,
      retryable := input.retryable, occurredAt := now }
  scheduleRetry run input now
  yieldOrFail run cursor input now

def yieldRunning (run : IngestRun) (requestedNow : Nat) : LedgerTx Unit := do
  let cursor ← requireCursor run.providerAccountKey run.lane
  let now ← clampIngestWriteTime run cursor requestedNow
  yieldCursor cursor (fun _ => true) now "ledger cursor batch yield"

def markIngestBatchYield (ingestRunId : String) (now : Int) : LedgerTx Unit := do
  let requestedNow ← safeNow now
  let run ← requireRun ingestRunId
  if run.status = .RUNNING then yieldRunning run requestedNow else pure ()

/-! ## Resolving a conflict -/

/-- `assertAdministratorConflictAction` -/
def administratorMay (conflict : LedgerConflict) (action : LedgerConflictAction) : Bool :=
  match conflict.conflictType with
  | .DUPLICATE_EXTERNAL_ID => action = .KEEP_EXISTING
  | .RAW_PAGE_VARIANT => false
  | _ => action = .ACKNOWLEDGE_ISOLATED

def resolveOpenConflict (input : ResolveLedgerConflictInput) (request : ConflictOperationRequest)
    (requestedNow : Nat) : LedgerTx Unit := do
  let found ← readWith fun db => db.conflicts.find? (·.conflictId = input.conflictId)
  let conflict ← orFail (.ledgerError "ledger_conflict_not_found" "ledger conflict does not exist") found
  require (conflict.status = .OPEN)
    (.ledgerError "ledger_conflict_state_conflict" "ledger conflict is already terminal")
  require (administratorMay conflict input.action)
    (.ledgerError "ledger_conflict_action_not_allowed"
      "ledger conflict action is not allowed for this conflict type")
  insertConflictOperation
    { conflictOperationId := input.conflictOperationId, operationKey := "admin:" ++ input.conflictOperationId,
      request, createdAt := max requestedNow conflict.createdAt }
  let resolved ← requireConflict conflict.conflictId
  require (resolved.status ≠ .OPEN ∧ resolved.resolutionOperationId = some input.conflictOperationId)
    (.error "ledger conflict operation did not reach a terminal state")

/-- A repeated operation id is a replay of the same request, or an error. -/
def replayOrResolve (replay : Option ConflictOperation) (input : ResolveLedgerConflictInput)
    (request : ConflictOperationRequest) (requestedNow : Nat) : LedgerTx Unit :=
  match replay with
  | some operation =>
    require (operation.operationKey = "admin:" ++ input.conflictOperationId ∧ operation.request = request)
      (.ledgerError "ledger_conflict_operation_conflict"
        "ledger conflict operation ID was reused with different input")
  | none => resolveOpenConflict input request requestedNow

/-- The checks on the texts of the operator are left out. -/
def resolveConflict (input : ResolveLedgerConflictInput) : LedgerTx Unit := do
  require (input.action = .KEEP_EXISTING ∨ input.action = .ACKNOWLEDGE_ISOLATED)
    (.rangeError "ledger conflict action is invalid")
  let requestedNow ← safeNow input.now
  let replay ← readWith fun db => db.operations.find? (·.conflictOperationId = input.conflictOperationId)
  replayOrResolve replay input
    { conflictId := input.conflictId, action := input.action, actorType := .ADMIN,
      actorId := some input.actorId, reason := input.reason } requestedNow

/-! ## The system -/

/-- The one write to the ledger from outside its store: reconciliation moves the state of an entry.
    The facts of the entry are immutable, and its time does not go back. -/
def setEntryState (ledgerEntryId : String) (state : LedgerEntryState) (updatedAt : Nat) : LedgerTx Unit := do
  let db ← readWith id
  require (∀ e ∈ db.entries, e.ledgerEntryId = ledgerEntryId → e.updatedAt ≤ updatedAt)
    (.sqlite "ledger entry updated_at cannot move backwards")
  update fun db =>
    { db with entries := updateWhere (fun e => e.ledgerEntryId = ledgerEntryId)
                (fun e => { e with state, updatedAt }) db.entries }

/-- The writing operations on the ledger, with their inputs. -/
inductive LedgerOp
  | startIngestRun (input : StartIngestRunInput)
  | recordSegmentPage (input : RecordSegmentPageInput)
  | completeIngestRun (input : CompleteIngestRunInput)
  | recordIngestError (input : IngestErrorInput)
  | markIngestBatchYield (ingestRunId : String) (now : Int)
  | resolveConflict (input : ResolveLedgerConflictInput)
  | setEntryState (ledgerEntryId : String) (state : LedgerEntryState) (updatedAt : Nat)
  | configure (configuration : ProviderConfiguration)
  deriving DecidableEq, Repr

/-- An operation as one transaction; results are dropped. -/
def LedgerOp.run : LedgerOp → LedgerTx Unit
  | .startIngestRun input => ignoreResult (Ledger.startIngestRun pf input)
  | .recordSegmentPage input => ignoreResult (Ledger.recordSegmentPage pf input)
  | .completeIngestRun input => Ledger.completeIngestRun input
  | .recordIngestError input => Ledger.recordIngestError input
  | .markIngestBatchYield ingestRunId now => Ledger.markIngestBatchYield ingestRunId now
  | .resolveConflict input => Ledger.resolveConflict input
  | .setEntryState ledgerEntryId state updatedAt => Ledger.setEntryState ledgerEntryId state updatedAt
  | .configure configuration => update fun db => { db with configuration }

/-- The store, with the identifiers the next transaction will draw. -/
def LedgerDb.supplied (db : LedgerDb) (entropy : Nat → String) : LedgerDb := { db with entropy, drawn := 0 }

/-- The ledger store as a system: from an empty ledger, any operation with any identifiers, committed
    or rolled back. -/
def ledgerStore : Runs.System LedgerDb (LedgerOp × (Nat → String)) where
  init := LedgerDb.Empty
  step db l db' := db' = committed (l.1.run pf) (db.supplied l.2)

variable {pf}

/-- Whatever operation follows, the ledger it leaves is reachable. -/
theorem reachable_operation {db : LedgerDb} (h : Runs.Reachable (ledgerStore pf) db) (op : LedgerOp)
    (entropy : Nat → String) : Runs.Reachable (ledgerStore pf) (committed (op.run pf) (db.supplied entropy)) := by
  obtain ⟨ls, hr⟩ := h
  exact ⟨ls ++ [(op, entropy)], hr.next rfl⟩

/-! ## A sample scan -/

/-- A platform whose hash is its argument. -/
def samplePlatform : LedgerPlatform where
  sha256 := id
  identityFingerprint key endpoint externalAccountId := some (key ++ endpoint ++ externalAccountId)

/-- One account, bound to one identity. -/
def sampleConfiguration : ProviderConfiguration :=
  { bindings := [⟨"primary", "endpoint", "2088", "primaryendpoint2088"⟩], activeProviderAccountKey := some "primary",
    alipayAccountKeys := [] }

/-- The identifiers of the transaction number `k`. -/
def sampleUuids (k : Nat) : Nat → String := fun n => String.ofList (Json.natText (100 * k + n))

/-- A store with empty tables. -/
def sampleEmpty : LedgerDb :=
  { runs := [], segments := [], cursors := [], compensation := [], schedules := [], pages := [],
    observations := [], rawEvents := [], entries := [], conflicts := [], operations := [], errors := [],
    configuration := ⟨[], none, []⟩, entropy := fun _ => "", drawn := 0 }

/-- A store with nothing but its account. -/
def sampleConfigured : LedgerDb :=
  committed (LedgerOp.run samplePlatform (.configure sampleConfiguration)) (sampleEmpty.supplied (sampleUuids 0))

def sampleStart : StartIngestRunInput :=
  { window := ⟨"2026-07-20 10:00:00", "2026-07-20 10:10:00"⟩, providerAccountKey := some "primary", pageSize := 4,
    overlapMilliseconds := none, now := 1_000, scanKind := none }

/-- A ten-minute window whose run was started: the run is `100`, its root segment `101`. -/
def sampleOpened : LedgerDb :=
  committed (LedgerOp.run samplePlatform (.startIngestRun sampleStart)) (sampleConfigured.supplied (sampleUuids 1))

/-- A response for a segment of the sample run. -/
def samplePage (segmentId body : String) (totalSize : Nat) (hasMore : Bool) (details : List AccountLogDetail) :
    RecordSegmentPageInput :=
  { ingestRunId := "100", ingestSegmentId := segmentId,
    page := { pageNo := 1, pageSize := 4, totalSize, hasMore, details },
    evidence := ⟨200, body, none, true⟩, retryIntervalMilliseconds := none, now := 2_000 }

theorem sampleOpened_reachable : Runs.Reachable (ledgerStore samplePlatform) sampleOpened := by
  have h0 : Runs.Reachable (ledgerStore samplePlatform) sampleEmpty :=
    ⟨[], .start ⟨rfl, rfl, rfl, rfl, rfl, rfl, rfl, rfl, rfl, rfl, rfl, rfl⟩⟩
  exact reachable_operation (reachable_operation h0 _ _) _ _

end PerPay.Ledger
