/-
  **What a page leaves behind** — conflicts, raw pages and their observations, raw events and ledger
  entries (`ledger/store.ts`).

  The order of the file is the order in which a provider response becomes facts: the response is
  retained and compared with the responses before it (`retainSegmentPage`), its events are stored
  (`insertRawEvent`), and each of them is normalized into an entry, a duplicate or a conflict
  (`normalizeAndInsert`).
-/
import Mathlib.Data.List.MinMax
import PerPay.Ledger.Statements

namespace PerPay.Ledger

open Txn Table

variable (pf : LedgerPlatform)

/-! ## Conflicts -/

structure InsertConflictInput where
  providerAccountKey : String
  conflictType : LedgerConflictType
  rawPageId : Option String
  rawEventId : Option String
  existingLedgerEntryId : Option String
  externalEventId : Option String
  existingSemanticFingerprint : Option String
  incomingSemanticFingerprint : Option String
  details : ConflictDetails
  fingerprintParts : List Json.Scalar
  now : Nat
  deriving DecidableEq, Repr

/-- The row of a new conflict. -/
def InsertConflictInput.row (input : InsertConflictInput) (conflictId fingerprint : String) : LedgerConflict :=
  { conflictId, providerAccountKey := input.providerAccountKey, conflictType := input.conflictType,
    rawPageId := input.rawPageId, rawEventId := input.rawEventId,
    existingLedgerEntryId := input.existingLedgerEntryId, externalEventId := input.externalEventId,
    existingSemanticFingerprint := input.existingSemanticFingerprint,
    incomingSemanticFingerprint := input.incomingSemanticFingerprint, details := input.details,
    status := .OPEN, resolutionOperationId := none, createdAt := input.now, resolvedAt := none,
    conflictFingerprint := fingerprint }

/-- `ledger_conflicts_valid_insert`: what a conflict refers to belongs to its account. -/
def LedgerDb.sharesAccount (db : LedgerDb) (c : LedgerConflict) : Bool :=
  (match c.rawPageId with
   | none => true
   | some id => db.pages.any fun p => p.rawPageId = id && p.providerAccountKey = c.providerAccountKey) &&
  (match c.rawEventId with
   | none => true
   | some id => db.rawEvents.any fun e => e.rawEventId = id && e.providerAccountKey = c.providerAccountKey) &&
  (match c.existingLedgerEntryId with
   | none => true
   | some id => db.entries.any fun e => e.ledgerEntryId = id && e.providerAccountKey = c.providerAccountKey)

/-- The conflict an account already has under a fingerprint. -/
def LedgerDb.conflictWith (db : LedgerDb) (providerAccountKey fingerprint : String) : Option LedgerConflict :=
  db.conflicts.find? fun c => c.providerAccountKey = providerAccountKey && c.conflictFingerprint = fingerprint

/-- `INSERT INTO ledger_conflicts`. -/
def insertConflictRow (input : InsertConflictInput) (fingerprint : String) : LedgerTx LedgerConflict := do
  let conflictId ← randomUUID
  let conflict := input.row conflictId fingerprint
  let db ← readWith id
  require (db.sharesAccount conflict) (.sqlite "ledger conflict references a different provider account")
  require (∀ c ∈ db.conflicts, c.conflictId ≠ conflictId)
    (.sqlite "UNIQUE constraint failed: ledger_conflicts.conflict_id")
  update fun db => { db with conflicts := db.conflicts ++ [conflict] }
  pure conflict

def insertConflict (input : InsertConflictInput) : LedgerTx LedgerConflict := do
  let fingerprint := conflictFingerprint pf.sha256 input.fingerprintParts
  let existing ← readWith (·.conflictWith input.providerAccountKey fingerprint)
  match existing with
  | some conflict => pure conflict
  | none => insertConflictRow input fingerprint

/-! ## Conflict operations -/

/-- `ledger_conflict_operations_valid_insert`: each kind of conflict has its own resolution. -/
def LedgerConflict.resolvableBy (c : LedgerConflict) (request : ConflictOperationRequest) : Bool :=
  c.conflictId = request.conflictId && c.status = .OPEN &&
  (match c.conflictType with
   | .RAW_PAGE_VARIANT => request.action = .CONFIRM_VARIANT && request.actorType = .SYSTEM
   | .DUPLICATE_EXTERNAL_ID => request.action = .KEEP_EXISTING && request.actorType = .ADMIN
   | _ => request.action = .ACKNOWLEDGE_ISOLATED && request.actorType = .ADMIN)

/-- The `CHECK` of `ledger_conflict_operations` on its actor. -/
def ConflictOperationRequest.rowChecks (request : ConflictOperationRequest) : Bool :=
  match request.action with
  | .CONFIRM_VARIANT => request.actorType = .SYSTEM && request.actorId.isNone
  | _ => request.actorType = .ADMIN && request.actorId.isSome

/-- `ledger_conflict_operations_apply`: the operation resolves its conflict. -/
def LedgerConflict.resolved (operation : ConflictOperation) (c : LedgerConflict) : LedgerConflict :=
  { c with status := if operation.request.action = .ACKNOWLEDGE_ISOLATED then .IGNORED else .RESOLVED,
           resolutionOperationId := some operation.conflictOperationId,
           resolvedAt := some operation.createdAt }

/-- `WHERE conflict_id = ? AND status = 'OPEN'` -/
def LedgerConflict.openAs (conflictId : String) (c : LedgerConflict) : Bool :=
  c.conflictId = conflictId && c.status = .OPEN

def insertConflictOperation (operation : ConflictOperation) : LedgerTx Unit := do
  let db ← readWith id
  require (db.conflicts.any (·.resolvableBy operation.request)) (.sqlite "ledger conflict operation is invalid")
  require operation.request.rowChecks (.sqlite "CHECK constraint failed: ledger_conflict_operations")
  require (∀ o ∈ db.operations, o.conflictOperationId ≠ operation.conflictOperationId ∧
      o.operationKey ≠ operation.operationKey ∧ o.request.conflictId ≠ operation.request.conflictId)
    (.sqlite "UNIQUE constraint failed: ledger_conflict_operations")
  require (∀ c ∈ db.conflicts, c.openAs operation.request.conflictId = true → c.createdAt ≤ operation.createdAt)
    (.sqlite "ledger conflict resolution transition is invalid")
  update fun db =>
    { db with operations := db.operations ++ [operation],
              conflicts := updateWhere (LedgerConflict.openAs operation.request.conflictId)
                (LedgerConflict.resolved operation) db.conflicts }

def requireConflict (conflictId : String) : LedgerTx LedgerConflict := do
  let conflict ← readWith fun db => db.conflicts.find? (·.conflictId = conflictId)
  orFail (.error "ledger conflict cannot be read") conflict

/-! ## Observations of a page -/

structure LatestPageObservation where
  page : RawPage
  disposition : PageObservationDisposition
  sequence : Nat
  ingestSegmentId : String
  deriving DecidableEq, Repr

/-- The page an observation is of, when it answers this request. -/
def LedgerDb.pageFor (db : LedgerDb) (providerAccountKey requestHash rawPageId : String) : Option RawPage :=
  db.pages.find? fun p => p.rawPageId = rawPageId && p.providerAccountKey = providerAccountKey &&
    p.requestFingerprint = requestHash

/-- The observations of one request, each joined with its page. -/
def LedgerDb.observationsOf (db : LedgerDb) (providerAccountKey requestHash : String) :
    List LatestPageObservation :=
  db.observations.filterMap fun o =>
    (db.pageFor providerAccountKey requestHash o.rawPageId).map fun page =>
      ⟨page, o.disposition, o.observationSequence, o.ingestSegmentId⟩

def LedgerDb.latestPageObservation (db : LedgerDb) (providerAccountKey requestHash : String) :
    Option LatestPageObservation :=
  (db.observationsOf providerAccountKey requestHash).argmax (·.sequence)

def LedgerDb.rawPageByFingerprints (db : LedgerDb) (providerAccountKey requestHash responseHash : String) :
    Option RawPage :=
  db.pages.find? fun p => p.providerAccountKey = providerAccountKey &&
    p.requestFingerprint = requestHash && p.responseFingerprint = responseHash

def LedgerDb.rawEventCountForPage (db : LedgerDb) (rawPageId : String) : Nat :=
  (db.rawEvents.filter (·.rawPageId = rawPageId)).length

def hasProcessedPageObservation (rawPageId : String) : LedgerTx Bool := do
  let own ← readWith fun db => db.observations.filter (·.rawPageId = rawPageId)
  require (own ≠ []) (.error "stored provider page has no observation evidence")
  pure (own.any (·.disposition = .PROCESSED))

/-- What `prepareSegmentPage` and the write clock make of a response. -/
structure PreparedSegmentPage where
  now : Nat
  evidence : RawPageEvidence
  responseHash : String
  deriving DecidableEq, Repr

def nextPageObservationSequence : LedgerTx Nat := do
  let latest ← readWith fun db => ((db.observations.map (·.observationSequence)).max?).getD 0
  require (latest < maxSafeInteger) (.error "provider page observation sequence is exhausted")
  pure (latest + 1)

def nextPageObservationAttempt (ingestSegmentId rawPageId : String) : LedgerTx Nat := do
  let latest ← readWith fun db =>
    (((db.observations.filter fun o => o.ingestSegmentId = ingestSegmentId && o.rawPageId = rawPageId).map
      (·.observationAttempt)).max?).getD 0
  require (latest < maxSafeInteger) (.error "provider page observation attempt is exhausted")
  pure (latest + 1)

/-- `ingest_run_page_observations_valid_insert`. -/
def LedgerDb.placesObservation (db : LedgerDb) (o : PageObservation) : Bool :=
  db.runs.any fun run => run.ingestRunId = o.ingestRunId &&
    db.segments.any fun segment => segment.ingestSegmentId = o.ingestSegmentId &&
      segment.ingestRunId = run.ingestRunId &&
      db.pages.any fun page => page.rawPageId = o.rawPageId &&
        run.providerAccountKey = page.providerAccountKey && segment.windowStart = page.windowStart &&
        segment.windowEnd = page.windowEnd && run.pageSize = page.pageSize && page.pageNo = 1 &&
        o.httpStatus = page.httpStatus && o.signatureVerified && page.signatureVerified &&
        (page.hasMore = (o.observationKind = .OVERSIZED_PROBE))

/-- `ingest_run_page_observations_transition_valid_insert`: the same comparison with the latest
    response of the request that `retainSegmentPage` makes. -/
def LedgerDb.transitionAllowed (db : LedgerDb) (o : PageObservation) : Bool :=
  db.pages.all fun incoming => incoming.rawPageId ≠ o.rawPageId ||
    o.disposition =
      (match db.latestPageObservation incoming.providerAccountKey incoming.requestFingerprint with
       | none => .PROCESSED
       | some latest => if latest.page.responseFingerprint = incoming.responseFingerprint then .PROCESSED
           else .REJECTED_VARIANT)

/-- `ingest_run_page_observations_rejected_variant_valid_insert`. -/
def LedgerDb.rejectionHasConflict (db : LedgerDb) (o : PageObservation) : Bool :=
  o.disposition ≠ .REJECTED_VARIANT ||
  db.runs.any fun run => run.ingestRunId = o.ingestRunId && run.status = .RUNNING &&
    db.segments.any fun segment => segment.ingestSegmentId = o.ingestSegmentId &&
      segment.ingestRunId = run.ingestRunId && segment.state = .PENDING &&
      db.pages.any fun page => page.rawPageId = o.rawPageId &&
        db.conflicts.any fun c => c.rawPageId = some page.rawPageId &&
          c.providerAccountKey = run.providerAccountKey && c.conflictType = .RAW_PAGE_VARIANT &&
          c.incomingSemanticFingerprint = some page.responseFingerprint &&
          c.existingSemanticFingerprint ≠ some page.responseFingerprint

def insertPageObservation (run : IngestRun) (segment : IngestSegment) (rawPageId : String)
    (observationKind : SegmentObservationKind) (prepared : PreparedSegmentPage)
    (disposition : PageObservationDisposition) : LedgerTx Unit := do
  let observationSequence ← nextPageObservationSequence
  let observationAttempt ← nextPageObservationAttempt segment.ingestSegmentId rawPageId
  let observation : PageObservation :=
    { ingestRunId := run.ingestRunId, ingestSegmentId := segment.ingestSegmentId, rawPageId,
      observationAttempt, observationKind, httpStatus := prepared.evidence.httpStatus,
      traceId := prepared.evidence.traceId, signatureVerified := prepared.evidence.signatureVerified,
      observedAt := prepared.now, disposition, observationSequence }
  let db ← readWith id
  require (db.placesObservation observation) (.sqlite "ingest page observation must match its run and page")
  require (db.transitionAllowed observation) (.sqlite "ingest page observation transition is invalid")
  require (db.rejectionHasConflict observation) (.sqlite "rejected provider variant lacks matching conflict evidence")
  update fun db => { db with observations := db.observations ++ [observation] }

/-- The open conflicts that a repeated response confirms: made when this very page was rejected, in
    this segment, against the observation just before the rejection. -/
def LedgerDb.confirmedConflicts (db : LedgerDb) (latest : LatestPageObservation) (page : RawPage) :
    List LedgerConflict :=
  let previous := (((db.observationsOf page.providerAccountKey page.requestFingerprint).map (·.sequence)).filter
    (· < latest.sequence)).max?
  db.conflicts.filter fun c =>
    c.providerAccountKey = page.providerAccountKey && c.status = .OPEN && c.conflictType = .RAW_PAGE_VARIANT &&
    c.rawPageId = some page.rawPageId && c.incomingSemanticFingerprint = some page.responseFingerprint &&
    (match c.details with
     | .pageVariant requestFingerprint ingestSegmentId previousObservationSequence _ incomingRawPageId =>
       requestFingerprint = page.requestFingerprint && ingestSegmentId = latest.ingestSegmentId &&
       incomingRawPageId = page.rawPageId && some previousObservationSequence = previous
     | _ => false)

/-- The row of a table of one row. -/
def onlyRow {α : Type} : List α → Option α
  | [row] => some row
  | _ => none

def confirmPageVariantConflict (latest : LatestPageObservation) (retainedPage : RawPage) (now : Nat) :
    LedgerTx Unit := do
  require (latest.disposition = .REJECTED_VARIANT ∧ latest.page.rawPageId = retainedPage.rawPageId ∧
      latest.page.requestFingerprint = retainedPage.requestFingerprint ∧
      latest.page.responseFingerprint = retainedPage.responseFingerprint)
    (.error "confirmed page variant evidence is inconsistent")
  let rows ← readWith (·.confirmedConflicts latest retainedPage)
  let conflict ← orFail (.error "confirmed page variant does not identify exactly one open conflict")
    (onlyRow rows)
  let conflictOperationId ← randomUUID
  insertConflictOperation
    { conflictOperationId, operationKey := "system:confirm_variant:" ++ conflict.conflictId,
      request := { conflictId := conflict.conflictId, action := .CONFIRM_VARIANT, actorType := .SYSTEM,
                   actorId := none,
                   reason := "consecutive signed response confirmed the retained page variant" },
      createdAt := max now conflict.createdAt }
  let resolved ← requireConflict conflict.conflictId
  require (resolved.status = .RESOLVED ∧ resolved.resolutionOperationId = some conflictOperationId)
    (.error "confirmed page variant conflict was not resolved")

/-! ## Retaining a response -/

structure RetainedSegmentPage where
  observation : PageObservationResult
  page : RawPage
  shouldNormalize : Bool
  previousVariantRawPageId : Option String
  deriving DecidableEq, Repr

/-- `INSERT INTO provider_raw_pages`, for a response never seen for its request. -/
def insertRawPage (run : IngestRun) (segment : IngestSegment) (page : AccountLogPage)
    (prepared : PreparedSegmentPage) (requestHash : String) : LedgerTx RawPage := do
  let rawPageId ← randomUUID
  let row : RawPage :=
    { rawPageId, ingestRunId := run.ingestRunId, providerAccountKey := run.providerAccountKey,
      windowStart := segment.windowStart, windowEnd := segment.windowEnd, pageNo := 1,
      pageSize := page.pageSize, totalSize := page.totalSize, hasMore := page.hasMore,
      requestFingerprint := requestHash, responseFingerprint := prepared.responseHash,
      httpStatus := prepared.evidence.httpStatus, signatureVerified := true,
      rawBody := prepared.evidence.body, traceId := prepared.evidence.traceId, receivedAt := prepared.now }
  let db ← readWith id
  require (∃ r ∈ db.runs, r.ingestRunId = row.ingestRunId ∧ r.providerAccountKey = row.providerAccountKey ∧
      r.pageSize = row.pageSize) (.sqlite "provider raw page must match its originating run")
  require (∀ p ∈ db.pages, p.rawPageId ≠ rawPageId)
    (.sqlite "UNIQUE constraint failed: provider_raw_pages.raw_page_id")
  require (∀ p ∈ db.pages, ¬ (p.providerAccountKey = row.providerAccountKey ∧
      p.requestFingerprint = row.requestFingerprint ∧ p.responseFingerprint = row.responseFingerprint))
    (.sqlite "UNIQUE constraint failed: provider_raw_pages")
  update fun db => { db with pages := db.pages ++ [row] }
  pure row

/-- A response with the bytes of a stored page must also have its metadata. -/
def RawPage.sameMetadata (existing : RawPage) (segment : IngestSegment) (page : AccountLogPage)
    (prepared : PreparedSegmentPage) : Bool :=
  existing.windowStart = segment.windowStart && existing.windowEnd = segment.windowEnd &&
  existing.pageNo = 1 && existing.pageSize = page.pageSize && existing.totalSize = page.totalSize &&
  existing.hasMore = page.hasMore && existing.httpStatus = prepared.evidence.httpStatus &&
  existing.signatureVerified = prepared.evidence.signatureVerified

/-- The stored page with these bytes, or a new one. -/
def retainPage (run : IngestRun) (segment : IngestSegment) (page : AccountLogPage)
    (prepared : PreparedSegmentPage) (requestHash : String) (existingExact : Option RawPage) :
    LedgerTx RawPage :=
  match existingExact with
  | some existing => do
    require (existing.sameMetadata segment page prepared)
      (.error "duplicate provider segment metadata does not match stored evidence")
    pure existing
  | none => insertRawPage run segment page prepared requestHash

/-- The first response to a request is processed. -/
def retainFirst (run : IngestRun) (segment : IngestSegment) (prepared : PreparedSegmentPage)
    (kind : SegmentObservationKind) (existingExact : Option RawPage) (retainedPage : RawPage) :
    LedgerTx RetainedSegmentPage := do
  require (existingExact = none) (.error "stored provider page has no ordered observation evidence")
  insertPageObservation run segment retainedPage.rawPageId kind prepared .PROCESSED
  pure ⟨.inserted, retainedPage, kind = .ACCEPTED_LEAF, none⟩

/-- A response that differs from the one before it is rejected, with a conflict as evidence. -/
def retainVariant (run : IngestRun) (segment : IngestSegment) (prepared : PreparedSegmentPage)
    (kind : SegmentObservationKind) (requestHash : String) (latest : LatestPageObservation)
    (retainedPage : RawPage) : LedgerTx RetainedSegmentPage := do
  let _ ← insertConflict pf
    { providerAccountKey := run.providerAccountKey, conflictType := .RAW_PAGE_VARIANT,
      rawPageId := some retainedPage.rawPageId, rawEventId := none, existingLedgerEntryId := none,
      externalEventId := none, existingSemanticFingerprint := some latest.page.responseFingerprint,
      incomingSemanticFingerprint := some prepared.responseHash,
      details := .pageVariant requestHash segment.ingestSegmentId latest.sequence latest.page.rawPageId
        retainedPage.rawPageId,
      fingerprintParts := pageVariantConflictFingerprintParts
        ⟨requestHash, segment.ingestSegmentId, latest.sequence, latest.page.rawPageId,
          latest.page.responseFingerprint, retainedPage.rawPageId, prepared.responseHash⟩,
      now := prepared.now }
  insertPageObservation run segment retainedPage.rawPageId kind prepared .REJECTED_VARIANT
  pure ⟨.variant, retainedPage, false, some latest.page.rawPageId⟩

/-- How many raw events a repeated page must have: none when it was a probe or never processed, all
    of its details otherwise. -/
def storedDetailsConsistent (kind : SegmentObservationKind) (wasEverProcessed : Bool)
    (storedDetails details : Nat) : Bool :=
  match kind, wasEverProcessed with
  | .OVERSIZED_PROBE, _ => storedDetails = 0
  | .ACCEPTED_LEAF, true => storedDetails = details
  | .ACCEPTED_LEAF, false => storedDetails = 0

/-- A rejected response that is seen again confirms itself. -/
def confirmIfRejected (latest : LatestPageObservation) (retainedPage : RawPage) (now : Nat) : LedgerTx Unit :=
  if latest.disposition = .REJECTED_VARIANT then confirmPageVariantConflict latest retainedPage now
  else pure ()

/-- A response equal to the one before it is processed. -/
def retainRepeated (run : IngestRun) (segment : IngestSegment) (page : AccountLogPage)
    (prepared : PreparedSegmentPage) (kind : SegmentObservationKind) (latest : LatestPageObservation)
    (existingExact : Option RawPage) (retainedPage : RawPage) : LedgerTx RetainedSegmentPage := do
  require (existingExact ≠ none) (.error "ordered provider observation references missing exact evidence")
  let wasEverProcessed ← hasProcessedPageObservation retainedPage.rawPageId
  let storedDetails ← readWith (·.rawEventCountForPage retainedPage.rawPageId)
  require (storedDetailsConsistent kind wasEverProcessed storedDetails page.details.length)
    (.error "duplicate provider segment raw event count is inconsistent")
  insertPageObservation run segment retainedPage.rawPageId kind prepared .PROCESSED
  confirmIfRejected latest retainedPage prepared.now
  pure ⟨if latest.disposition = .REJECTED_VARIANT then .confirmed_variant else .duplicate, retainedPage,
    latest.disposition = .REJECTED_VARIANT && !wasEverProcessed && kind = .ACCEPTED_LEAF, none⟩

/-- The response against the latest one of its request. -/
def compareWithLatest (run : IngestRun) (segment : IngestSegment) (page : AccountLogPage)
    (prepared : PreparedSegmentPage) (kind : SegmentObservationKind) (requestHash : String)
    (latest : Option LatestPageObservation) (existingExact : Option RawPage) (retainedPage : RawPage) :
    LedgerTx RetainedSegmentPage :=
  match latest with
  | none => retainFirst run segment prepared kind existingExact retainedPage
  | some latest =>
    if latest.page.responseFingerprint ≠ prepared.responseHash then
      retainVariant pf run segment prepared kind requestHash latest retainedPage
    else retainRepeated run segment page prepared kind latest existingExact retainedPage

def retainSegmentPage (run : IngestRun) (segment : IngestSegment) (page : AccountLogPage)
    (prepared : PreparedSegmentPage) (kind : SegmentObservationKind) : LedgerTx RetainedSegmentPage := do
  let requestHash := requestFingerprint pf.sha256 run.providerAccountKey segment.windowStart
    segment.windowEnd 1 page.pageSize
  let latest ← readWith (·.latestPageObservation run.providerAccountKey requestHash)
  let existingExact ← readWith (·.rawPageByFingerprints run.providerAccountKey requestHash prepared.responseHash)
  let retainedPage ← retainPage run segment page prepared requestHash existingExact
  compareWithLatest pf run segment page prepared kind requestHash latest existingExact retainedPage

/-! ## Raw events -/

/-- The JSON text that stands for a payload outside the limits. -/
def invalidShapePayload (original : Option String) : String :=
  match original with
  | none => "\x7b\"_perpay_invalid_shape\":true\x7d"
  | some text => "\x7b\"_perpay_invalid_shape\":true,\"original_payload_sha256\":\"" ++ pf.sha256 text ++
      "\",\"original_payload_bytes\":" ++ String.ofList (Json.natText text.utf8ByteSize) ++ "\x7d"

/-- The payload that is stored, and whether it is the provider's own. -/
def storedPayload (raw : Option String) : String × Bool :=
  match raw with
  | none => (invalidShapePayload pf none, true)
  | some text =>
    if ledgerMaxRawEventBytes < text.utf8ByteSize then (invalidShapePayload pf (some text), true)
    else (text, false)

/-- The fields of a detail in their stored form, and whether one of them was refused. -/
def prepareRawEvent (detail : AccountLogDetail) (rawEventId rawPageId providerAccountKey : String)
    (ordinal now : Nat) : RawEvent × Bool :=
  let externalEventId := boundedString detail.accountLogId 256
  let occurredAtText := boundedString detail.occurredAt 128
  let amountText := boundedString detail.amount 128
  let directionText := boundedString detail.direction 64
  let alipayOrderNo := boundedString detail.alipayOrderNo 128
  let merchantOrderNo := boundedString detail.merchantOrderNo 128
  let transMemo := boundedString detail.transMemo 1024
  let otherAccount := boundedString detail.otherAccount 256
  let refused := invalidBoundedValue detail.accountLogId externalEventId ||
    invalidBoundedValue detail.occurredAt occurredAtText || invalidBoundedValue detail.amount amountText ||
    invalidBoundedValue detail.direction directionText || invalidBoundedValue detail.alipayOrderNo alipayOrderNo ||
    invalidBoundedValue detail.merchantOrderNo merchantOrderNo || invalidBoundedValue detail.transMemo transMemo ||
    invalidBoundedValue detail.otherAccount otherAccount
  let payload := storedPayload pf detail.raw
  ({ rawEventId, rawPageId, providerAccountKey, ordinal, externalEventId, occurredAtText, amountText,
     directionText, alipayOrderNo, merchantOrderNo, transMemo, otherAccount,
     payloadFingerprint := pf.sha256 payload.1, rawPayload := payload.1, observedAt := now },
   refused || payload.2)

/-- The stored event, and whether its shape is invalid. -/
def insertRawEvent (providerAccountKey rawPageId : String) (ordinal : Nat) (detail : AccountLogDetail)
    (now : Nat) : LedgerTx (RawEvent × Bool) := do
  let rawEventId ← randomUUID
  let prepared := prepareRawEvent pf detail rawEventId rawPageId providerAccountKey ordinal now
  let db ← readWith id
  require (∃ p ∈ db.pages, p.rawPageId = rawPageId ∧ p.providerAccountKey = providerAccountKey)
    (.sqlite "provider raw event must share its page account")
  require (∃ o ∈ db.observations, o.rawPageId = rawPageId ∧ o.observationKind = .ACCEPTED_LEAF ∧
      o.disposition = .PROCESSED) (.sqlite "provider raw events require a processed accepted leaf")
  require (∀ e ∈ db.rawEvents, e.rawEventId ≠ rawEventId)
    (.sqlite "UNIQUE constraint failed: provider_raw_events.raw_event_id")
  require (∀ e ∈ db.rawEvents, ¬ (e.rawPageId = rawPageId ∧ e.ordinal = ordinal))
    (.sqlite "UNIQUE constraint failed: provider_raw_events.raw_page_id, ordinal")
  update fun db => { db with rawEvents := db.rawEvents ++ [prepared.1] }
  pure prepared

/-! ## Normalization -/

/-- The facts of a raw event, or the first error its texts run into. -/
def normalizeFacts (rawEvent : RawEvent) (externalEventId : String) :
    Except NormalizationError SemanticFacts := do
  let occurrence ← parseOccurredAtWithPrecision rawEvent.occurredAtText
  let amountCents ← parseAmountCents rawEvent.amountText
  let direction ← parseDirection rawEvent.directionText
  return { externalEventId, occurredAt := occurrence.milliseconds,
           occurredAtPrecisionMilliseconds := occurrence.precisionMilliseconds, amountCents, direction,
           alipayOrderNo := rawEvent.alipayOrderNo, merchantOrderNo := rawEvent.merchantOrderNo,
           transMemo := rawEvent.transMemo, otherAccount := rawEvent.otherAccount }

def insertNormalizationConflict (rawEvent : RawEvent) (type : LedgerConflictType)
    (externalEventId : Option String) (reason : String) (now : Nat) : LedgerTx PageNormalizationResult := do
  let conflict ← insertConflict pf
    { providerAccountKey := rawEvent.providerAccountKey, conflictType := type,
      rawPageId := some rawEvent.rawPageId, rawEventId := some rawEvent.rawEventId,
      existingLedgerEntryId := none, externalEventId, existingSemanticFingerprint := none,
      incomingSemanticFingerprint := none, details := .reason reason,
      fingerprintParts := [.text type.name.toList, .text rawEvent.payloadFingerprint.toList,
        .text rawEvent.rawPageId.toList, .num rawEvent.ordinal],
      now }
  pure (.isolated conflict rawEvent.rawEventId)

def LedgerDb.entryByExternalId (db : LedgerDb) (providerAccountKey externalEventId : String) :
    Option LedgerEntry :=
  db.entries.find? fun e => e.providerAccountKey = providerAccountKey && e.facts.externalEventId = externalEventId

/-- The parts of the conflict between a stored entry and an event with its external id. -/
def differenceParts (existing : LedgerEntry) (facts : SemanticFacts) (semantics : String) : List Json.Scalar :=
  [.text "DUPLICATE_EXTERNAL_ID".toList, .text facts.externalEventId.toList,
    .text existing.semanticFingerprint.toList, .text semantics.toList,
    .num existing.facts.occurredAtPrecisionMilliseconds, .num facts.occurredAtPrecisionMilliseconds]

/-- The event repeats an entry, or differs from it. -/
def compareWithEntry (rawEvent : RawEvent) (existing : LedgerEntry) (facts : SemanticFacts)
    (semantics : String) (now : Nat) : LedgerTx PageNormalizationResult :=
  if existing.semanticFingerprint = semantics ∧
      existing.facts.occurredAtPrecisionMilliseconds = facts.occurredAtPrecisionMilliseconds then
    pure (.duplicate existing rawEvent.rawEventId)
  else do
    -- every fact agrees but the declared precision
    let precisionOnlyDifference : Bool :=
      { existing.facts with occurredAtPrecisionMilliseconds := facts.occurredAtPrecisionMilliseconds } = facts &&
      existing.facts.occurredAtPrecisionMilliseconds ≠ facts.occurredAtPrecisionMilliseconds
    let conflict ← insertConflict pf
      { providerAccountKey := rawEvent.providerAccountKey, conflictType := .DUPLICATE_EXTERNAL_ID,
        rawPageId := some rawEvent.rawPageId, rawEventId := some rawEvent.rawEventId,
        existingLedgerEntryId := some existing.ledgerEntryId,
        externalEventId := some facts.externalEventId,
        existingSemanticFingerprint := some existing.semanticFingerprint,
        incomingSemanticFingerprint := some semantics,
        details := .differs
          (if precisionOnlyDifference then "same external ID has a different declared timestamp precision"
           else "same external ID has a different normalized semantic fingerprint")
          existing.facts.occurredAtPrecisionMilliseconds facts.occurredAtPrecisionMilliseconds,
        fingerprintParts := differenceParts existing facts semantics,
        now }
    pure (.conflict conflict rawEvent.rawEventId)

def insertLedgerEntry (rawEvent : RawEvent) (facts : SemanticFacts) (semantics : String) (now : Nat) :
    LedgerTx PageNormalizationResult := do
  let ledgerEntryId ← randomUUID
  let entry : LedgerEntry :=
    { ledgerEntryId, providerAccountKey := rawEvent.providerAccountKey, rawEventId := rawEvent.rawEventId,
      semanticFingerprint := semantics, facts, state := .UNALLOCATED, createdAt := now, updatedAt := now }
  let db ← readWith id
  require (∃ raw ∈ db.rawEvents, raw.rawEventId = entry.rawEventId ∧
      raw.providerAccountKey = entry.providerAccountKey ∧ raw.externalEventId = some facts.externalEventId)
    (.sqlite "normalized ledger entry must match its raw event identity")
  require (∀ e ∈ db.entries, e.ledgerEntryId ≠ ledgerEntryId ∧ e.rawEventId ≠ entry.rawEventId)
    (.sqlite "UNIQUE constraint failed: ledger_entries")
  require (∀ e ∈ db.entries, ¬ (e.providerAccountKey = entry.providerAccountKey ∧
      e.facts.externalEventId = facts.externalEventId))
    (.sqlite "UNIQUE constraint failed: ledger_entries.provider_account_key, external_event_id")
  update fun db => { db with entries := db.entries ++ [entry] }
  pure (.created entry rawEvent.rawEventId)

/-- The facts against the entry the account already has under their external id. -/
def recordFacts (rawEvent : RawEvent) (facts : SemanticFacts) (now : Nat) : LedgerTx PageNormalizationResult := do
  let semantics := semanticFingerprint pf.sha256 facts
  let existing ← readWith (·.entryByExternalId rawEvent.providerAccountKey facts.externalEventId)
  match existing with
  | some existing => compareWithEntry pf rawEvent existing facts semantics now
  | none => insertLedgerEntry rawEvent facts semantics now

/-- The stored event and the verdict on its shape, as `insertRawEvent` returns them. -/
def normalizeAndInsert (prepared : RawEvent × Bool) (now : Nat) : LedgerTx PageNormalizationResult :=
  if prepared.2 then
    insertNormalizationConflict pf prepared.1 .INVALID_SHAPE none
      "provider event fields are outside the persistence contract" now
  else
    match prepared.1.externalEventId with
    | none => insertNormalizationConflict pf prepared.1 .MISSING_EXTERNAL_ID none
        "provider event has no account-scoped external ID" now
    | some externalEventId =>
      match normalizeFacts prepared.1 externalEventId with
      | .error e => insertNormalizationConflict pf prepared.1 e.code (some externalEventId) e.message now
      | .ok facts => recordFacts pf prepared.1 facts now

end PerPay.Ledger
