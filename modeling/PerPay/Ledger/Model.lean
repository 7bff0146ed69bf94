/-
  **The ledger tables** — the rows, enumerations and inputs of the ledger store (`ledger/model.ts`
  and the tables of `database/migrations.ts` it stands on).

  One structure per table, as in the order store.  Here identifiers stay texts: they are hashed into
  conflict fingerprints.  Columns that only reporting reads are left out, among them the response
  headers, and so are the `CHECK`s on the length and alphabet of single texts.

  `randomUUID` is an outside source: the store carries the texts it will return next (`entropy`) and
  how many were drawn.  Nothing is assumed of them; a repeated identifier runs into the primary key
  of its table.
-/
import PerPay.Ledger.Texts

namespace PerPay.Ledger

/-! ## Enumerations -/

inductive LedgerEntryState
  | UNALLOCATED | CANDIDATE | ALLOCATED | CONFLICT | ISOLATED | IGNORED
  deriving DecidableEq, Repr

inductive IngestRunStatus
  | RUNNING | COMPLETED | PARTIAL | FAILED
  deriving DecidableEq, Repr

inductive IngestScanKind
  | NORMAL | COMPENSATION_10M | COMPENSATION_1H | COMPENSATION_1D
  deriving DecidableEq, Repr

inductive IngestScanLane
  | NORMAL | COMPENSATION
  deriving DecidableEq, Repr

def scanLaneForKind : IngestScanKind → IngestScanLane
  | .NORMAL => .NORMAL
  | _ => .COMPENSATION

inductive IngestSegmentState
  | PENDING | SPLIT | COMPLETE
  deriving DecidableEq, Repr

inductive SegmentObservationKind
  | OVERSIZED_PROBE | ACCEPTED_LEAF
  deriving DecidableEq, Repr

inductive PageObservationDisposition
  | PROCESSED | REJECTED_VARIANT
  deriving DecidableEq, Repr

inductive LedgerConflictStatus
  | OPEN | RESOLVED | IGNORED
  deriving DecidableEq, Repr

inductive LedgerConflictAction
  | CONFIRM_VARIANT | KEEP_EXISTING | ACKNOWLEDGE_ISOLATED
  deriving DecidableEq, Repr

inductive LedgerConflictActorType
  | SYSTEM | ADMIN
  deriving DecidableEq, Repr

/-! ## Rows -/

/-- A row of `ingest_runs`. -/
structure IngestRun where
  ingestRunId : String
  providerAccountKey : String
  windowStart : String
  windowEnd : String
  pageSize : Nat
  scanKind : IngestScanKind
  status : IngestRunStatus
  startedAt : Nat
  completedAt : Option Nat
  pagesReceived : Nat
  detailsReceived : Nat
  failureCode : Option String
  deriving DecidableEq, Repr

/-- The lane of a run, as the index `ingest_runs_one_running_lane` computes it. -/
def IngestRun.lane (run : IngestRun) : IngestScanLane := scanLaneForKind run.scanKind

/-- A row of `ingest_segments`. -/
structure IngestSegment where
  ingestSegmentId : String
  ingestRunId : String
  parentSegmentId : Option String
  windowStart : String
  windowEnd : String
  depth : Nat
  state : IngestSegmentState
  splitAt : Option String
  acceptedRawPageId : Option String
  createdAt : Nat
  completedAt : Option Nat
  deriving DecidableEq, Repr

/-- A row of `ledger_cursors`; `next_page_no` is `1` until the window is complete. -/
structure LedgerCursor where
  providerAccountKey : String
  scanLane : IngestScanLane
  windowStart : String
  windowEnd : String
  nextPageNo : Option Nat
  pageSize : Nat
  scanKind : IngestScanKind
  overlapMilliseconds : Nat
  complete : Bool
  lastEventOccurredAt : Option Nat
  lastCompletedAt : Option Nat
  updatedAt : Nat
  version : Nat
  deriving DecidableEq, Repr

/-- A row of `ledger_compensation_state`. -/
structure LedgerCompensationState where
  providerAccountKey : String
  next10mAt : Nat
  next1hAt : Nat
  next1dAt : Nat
  updatedAt : Nat
  deriving DecidableEq, Repr

/-- A row of `ledger_ingest_schedule_state`. -/
structure LedgerIngestScheduleState where
  providerAccountKey : String
  consecutiveFailures : Nat
  cooldownUntil : Nat
  lastErrorCode : String
  retryable : Bool
  updatedAt : Nat
  deriving DecidableEq, Repr

/-- A row of `provider_raw_pages`. -/
structure RawPage where
  rawPageId : String
  ingestRunId : String
  providerAccountKey : String
  windowStart : String
  windowEnd : String
  pageNo : Nat
  pageSize : Nat
  totalSize : Nat
  hasMore : Bool
  requestFingerprint : String
  responseFingerprint : String
  httpStatus : Nat
  signatureVerified : Bool
  rawBody : String
  traceId : Option String
  receivedAt : Nat
  deriving DecidableEq, Repr

/-- A row of `ingest_run_page_observations`. -/
structure PageObservation where
  ingestRunId : String
  ingestSegmentId : String
  rawPageId : String
  observationAttempt : Nat
  observationKind : SegmentObservationKind
  httpStatus : Nat
  traceId : Option String
  signatureVerified : Bool
  observedAt : Nat
  disposition : PageObservationDisposition
  observationSequence : Nat
  deriving DecidableEq, Repr

/-- A row of `provider_raw_events`. -/
structure RawEvent where
  rawEventId : String
  rawPageId : String
  providerAccountKey : String
  ordinal : Nat
  externalEventId : Option String
  occurredAtText : Option String
  amountText : Option String
  directionText : Option String
  alipayOrderNo : Option String
  merchantOrderNo : Option String
  transMemo : Option String
  otherAccount : Option String
  payloadFingerprint : String
  rawPayload : String
  observedAt : Nat
  deriving DecidableEq, Repr

/-- A row of `ledger_entries`. -/
structure LedgerEntry where
  ledgerEntryId : String
  providerAccountKey : String
  rawEventId : String
  semanticFingerprint : String
  facts : SemanticFacts
  state : LedgerEntryState
  createdAt : Nat
  updatedAt : Nat
  deriving DecidableEq, Repr

/-- The `details_json` of a conflict. -/
inductive ConflictDetails
  | reason (reason : String)
  | differs (reason : String) (existingPrecision incomingPrecision : Nat)
  | pageVariant (requestFingerprint ingestSegmentId : String) (previousObservationSequence : Nat)
      (existingRawPageId incomingRawPageId : String)
  deriving DecidableEq, Repr

/-- A row of `ledger_conflicts`; the resolution is the operation that made it. -/
structure LedgerConflict where
  conflictId : String
  providerAccountKey : String
  conflictType : LedgerConflictType
  rawPageId : Option String
  rawEventId : Option String
  existingLedgerEntryId : Option String
  externalEventId : Option String
  existingSemanticFingerprint : Option String
  incomingSemanticFingerprint : Option String
  details : ConflictDetails
  status : LedgerConflictStatus
  resolutionOperationId : Option String
  createdAt : Nat
  resolvedAt : Option Nat
  conflictFingerprint : String
  deriving DecidableEq, Repr

/-- `LedgerConflictOperationRequest`. -/
structure ConflictOperationRequest where
  conflictId : String
  action : LedgerConflictAction
  actorType : LedgerConflictActorType
  actorId : Option String
  reason : String
  deriving DecidableEq, Repr

/-- A row of `ledger_conflict_operations`.  Its request fingerprint is a hash of the request, and is
    compared only together with every part of it: it is left out. -/
structure ConflictOperation where
  conflictOperationId : String
  operationKey : String
  request : ConflictOperationRequest
  createdAt : Nat
  deriving DecidableEq, Repr

/-- A row of `ingest_errors`; the retained error response is left out. -/
structure IngestError where
  ingestErrorId : String
  ingestRunId : String
  providerAccountKey : String
  pageNo : Option Nat
  errorKind : String
  errorCode : String
  retryable : Bool
  occurredAt : Nat
  deriving DecidableEq, Repr

/-- A row of `provider_account_bindings`. -/
structure ProviderIdentityBinding where
  providerAccountKey : String
  endpoint : String
  externalAccountId : String
  identityFingerprint : String
  deriving DecidableEq, Repr

/-- What ingestion only reads of the account tables. -/
structure ProviderConfiguration where
  bindings : List ProviderIdentityBinding
  activeProviderAccountKey : Option String
  alipayAccountKeys : List String
  deriving DecidableEq, Repr

/-- The ledger tables. -/
structure LedgerDb where
  runs : List IngestRun
  segments : List IngestSegment
  cursors : List LedgerCursor
  compensation : List LedgerCompensationState
  schedules : List LedgerIngestScheduleState
  pages : List RawPage
  observations : List PageObservation
  rawEvents : List RawEvent
  entries : List LedgerEntry
  conflicts : List LedgerConflict
  operations : List ConflictOperation
  errors : List IngestError
  configuration : ProviderConfiguration
  entropy : Nat → String
  drawn : Nat

/-- An empty ledger: nothing was ever ingested. -/
structure LedgerDb.Empty (db : LedgerDb) : Prop where
  runs : db.runs = []
  segments : db.segments = []
  cursors : db.cursors = []
  compensation : db.compensation = []
  schedules : db.schedules = []
  pages : db.pages = []
  observations : db.observations = []
  rawEvents : db.rawEvents = []
  entries : db.entries = []
  conflicts : db.conflicts = []
  operations : db.operations = []
  errors : db.errors = []

/-! ## The platform and the inputs -/

/-- What Node computes for the ledger: SHA-256 of the UTF-8 bytes of a text, and the fingerprint of a
    provider identity (`none` when the identity is invalid), which is built on the `URL` class. -/
structure LedgerPlatform where
  sha256 : String → String
  identityFingerprint : (providerAccountKey endpoint externalAccountId : String) → Option String

/-- `AccountLogDetail`; `raw` is the JSON text of the provider's object, `none` when it has none. -/
structure AccountLogDetail where
  raw : Option String
  accountLogId : Option String
  occurredAt : Option String
  amount : Option String
  direction : Option String
  alipayOrderNo : Option String
  merchantOrderNo : Option String
  transMemo : Option String
  otherAccount : Option String
  deriving DecidableEq, Repr

/-- `AccountLogPage`, without its evidence. -/
structure AccountLogPage where
  pageNo : Nat
  pageSize : Nat
  totalSize : Nat
  hasMore : Bool
  details : List AccountLogDetail
  deriving DecidableEq, Repr

/-- `RawPageEvidence`. -/
structure RawPageEvidence where
  httpStatus : Nat
  body : String
  traceId : Option String
  signatureVerified : Bool
  deriving DecidableEq, Repr

structure StartIngestRunInput where
  window : LedgerWindow
  providerAccountKey : Option String
  pageSize : Nat
  overlapMilliseconds : Option Nat
  now : Int
  scanKind : Option IngestScanKind
  deriving DecidableEq, Repr

structure RecordSegmentPageInput where
  ingestRunId : String
  ingestSegmentId : String
  page : AccountLogPage
  evidence : RawPageEvidence
  retryIntervalMilliseconds : Option Nat
  now : Int
  deriving DecidableEq, Repr

structure IngestErrorInput where
  ingestRunId : String
  pageNo : Option Nat
  errorKind : String
  errorCode : String
  retryable : Bool
  preserveRun : Bool
  /-- `intervalMilliseconds` and `retryAfterSeconds` -/
  retrySchedule : Option (Nat × Option Nat)
  now : Int
  deriving DecidableEq, Repr

/-- How `completeIngestRun` may end a run. -/
inductive CompletionStatus
  | COMPLETED | PARTIAL
  deriving DecidableEq, Repr

def CompletionStatus.toRunStatus : CompletionStatus → IngestRunStatus
  | .COMPLETED => .COMPLETED
  | .PARTIAL => .PARTIAL

structure CompleteIngestRunInput where
  ingestRunId : String
  status : Option CompletionStatus
  now : Int
  deriving DecidableEq, Repr

structure ResolveLedgerConflictInput where
  conflictOperationId : String
  conflictId : String
  action : LedgerConflictAction
  actorId : String
  reason : String
  now : Int
  deriving DecidableEq, Repr

/-! ## Results -/

inductive PageNormalizationResult
  | created (entry : LedgerEntry) (rawEventId : String)
  | duplicate (entry : LedgerEntry) (rawEventId : String)
  | conflict (conflict : LedgerConflict) (rawEventId : String)
  | isolated (conflict : LedgerConflict) (rawEventId : String)
  deriving DecidableEq, Repr

/-- How a page response relates to the responses observed before it for the same request. -/
inductive PageObservationResult
  | inserted | duplicate | confirmed_variant | variant
  deriving DecidableEq, Repr

inductive RecordSegmentPageResult
  | split (observation : PageObservationResult) (page : RawPage) (left right : IngestSegment)
  | density_exceeded (observation : PageObservationResult) (page : RawPage)
  | variant (page : RawPage)
  | accepted (observation : PageObservationResult) (page : RawPage)
      (normalized : List PageNormalizationResult) (rootCompleted : Bool)
  deriving DecidableEq, Repr

end PerPay.Ledger
