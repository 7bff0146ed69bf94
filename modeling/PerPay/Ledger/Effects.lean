/-
  **What each statement of the ledger can do** — the store after a successful statement, in terms of
  the store before it.

  Every later proof about the ledger reads these lemmas instead of the definitions.  A lemma states
  what the claims below use: the guards that were passed and the tables that changed.  The tables of
  errors, schedules and compensations only steer later scans, so their new contents stay behind an
  existential.
-/
import PerPay.Ledger.Store

namespace PerPay.Ledger

open Txn Table

variable {pf : LedgerPlatform} {db db' : LedgerDb}

/-! ## Reading -/

theorem safeNow_ok {value : Int} {now : Nat} (hx : (safeNow value : LedgerTx Nat) db = .ok (now, db')) :
    now = value.toNat ∧ 0 ≤ value ∧ value ≤ maxSafeInteger ∧ db = db' := by
  simp only [safeNow, require_bind_ok, pure_ok] at hx
  exact ⟨hx.2.1.symm, hx.1.1, hx.1.2, hx.2.2⟩

theorem randomUUID_ok {uuid : String} (hx : randomUUID db = .ok (uuid, db')) :
    uuid = db.entropy db.drawn ∧ db' = { db with drawn := db.drawn + 1 } := by
  simp only [randomUUID, readWith_bind_ok, update_bind_ok, pure_ok] at hx
  exact ⟨hx.1.symm, hx.2.symm⟩

theorem requireRun_ok {ingestRunId : String} {run : IngestRun} (hx : requireRun ingestRunId db = .ok (run, db')) :
    run ∈ db.runs ∧ run.ingestRunId = ingestRunId ∧ db = db' := by
  simp only [requireRun, readWith_bind_ok, orFail_ok] at hx
  obtain ⟨hf, rfl⟩ := hx
  exact ⟨List.mem_of_find?_eq_some hf, by simpa using List.find?_some hf, rfl⟩

theorem requireSegment_ok {ingestSegmentId : String} {segment : IngestSegment}
    (hx : requireSegment ingestSegmentId db = .ok (segment, db')) :
    segment ∈ db.segments ∧ segment.ingestSegmentId = ingestSegmentId ∧ db = db' := by
  simp only [requireSegment, readWith_bind_ok, orFail_ok] at hx
  obtain ⟨hf, rfl⟩ := hx
  exact ⟨List.mem_of_find?_eq_some hf, by simpa using List.find?_some hf, rfl⟩

theorem cursor_some {providerAccountKey : String} {lane : IngestScanLane} {cursor : LedgerCursor}
    (h : db.cursor providerAccountKey lane = some cursor) :
    cursor ∈ db.cursors ∧ cursor.providerAccountKey = providerAccountKey ∧ cursor.scanLane = lane := by
  have hp := List.find?_some h
  simp only [Bool.and_eq_true, decide_eq_true_eq] at hp
  exact ⟨List.mem_of_find?_eq_some h, hp.1, hp.2⟩

theorem requireCursor_ok {providerAccountKey : String} {lane : IngestScanLane} {cursor : LedgerCursor}
    (hx : requireCursor providerAccountKey lane db = .ok (cursor, db')) :
    db.cursor providerAccountKey lane = some cursor ∧ db = db' := by
  simp only [requireCursor, readWith_bind_ok, orFail_ok] at hx
  exact ⟨hx.1, hx.2⟩

theorem clampIngestWriteTime_ok {run : IngestRun} {cursor : LedgerCursor} {requestedNow now : Nat}
    (hx : clampIngestWriteTime run cursor requestedNow db = .ok (now, db')) :
    requestedNow ≤ now ∧ run.startedAt ≤ now ∧ cursor.updatedAt ≤ now ∧ db = db' := by
  simp only [clampIngestWriteTime, readWith_bind_ok, pure_ok, id] at hx
  obtain ⟨hn, rfl⟩ := hx
  refine ⟨?_, ?_, ?_, rfl⟩ <;> omega

/-! ## Runs -/

theorem insertRun_ok {run : IngestRun} {u : Unit} (hx : insertRun run db = .ok (u, db')) :
    run.rowChecks ∧ (∀ r ∈ db.runs, r.ingestRunId ≠ run.ingestRunId) ∧
      (∀ r ∈ db.runs, ¬ (r.status = .RUNNING ∧ run.status = .RUNNING ∧
        r.providerAccountKey = run.providerAccountKey ∧ r.lane = run.lane)) ∧
      db' = { db with runs := db.runs ++ [run] } := by
  simp only [insertRun, readWith_bind_ok, require_bind_ok, update_ok, id] at hx
  exact ⟨hx.1, hx.2.1, hx.2.2.1, hx.2.2.2.symm⟩

theorem updateRunningRun_ok {ingestRunId : String} {set : IngestRun → IngestRun} {label : String} {u : Unit}
    (hx : updateRunningRun ingestRunId set label db = .ok (u, db')) :
    ∃ run ∈ db.runs, run.runningAs ingestRunId ∧ (set run).rowChecks ∧
      db' = { db with runs := updateWhere (IngestRun.runningAs ingestRunId) set db.runs } := by
  simp only [updateRunningRun, readWith_bind_ok, orFail_bind_ok, require_bind_ok, update_ok, id] at hx
  obtain ⟨run, hf, -, hrow, he⟩ := hx
  exact ⟨run, List.mem_of_find?_eq_some hf, List.find?_some hf, hrow, he.symm⟩

/-! ## Segments -/

theorem insertSegment_ok {segment : IngestSegment} {u : Unit} (hx : insertSegment segment db = .ok (u, db')) :
    db.placesSegment segment ∧ segment.rowChecks ∧
      (∀ s ∈ db.segments, s.ingestSegmentId ≠ segment.ingestSegmentId) ∧
      (∀ s ∈ db.segments, ¬ (s.ingestRunId = segment.ingestRunId ∧
        s.parentSegmentId = none ∧ segment.parentSegmentId = none)) ∧
      db' = { db with segments := db.segments ++ [segment] } := by
  simp only [insertSegment, readWith_bind_ok, require_bind_ok, update_ok, id] at hx
  exact ⟨hx.1, hx.2.1, hx.2.2.1, hx.2.2.2.2.1, hx.2.2.2.2.2.symm⟩

theorem updatePendingSegment_ok {ingestSegmentId : String} {set : IngestSegment → IngestSegment}
    {label : String} {u : Unit} (hx : updatePendingSegment ingestSegmentId set label db = .ok (u, db')) :
    db' = { db with segments := updateWhere (IngestSegment.pendingAs ingestSegmentId) set db.segments } := by
  simp only [updatePendingSegment, readWith_bind_ok, orFail_bind_ok, require_bind_ok, update_ok, id] at hx
  obtain ⟨segment, -, -, he⟩ := hx
  exact he.symm

theorem insertChildSegment_ok {parent child : IngestSegment} {window : LedgerWindow} {now : Nat}
    (hx : insertChildSegment parent window now db = .ok (child, db')) :
    child.ingestRunId = parent.ingestRunId ∧ child.parentSegmentId = some parent.ingestSegmentId ∧
      child.windowStart = window.start ∧ child.windowEnd = window.end_ ∧ child.state = .PENDING ∧
      child.acceptedRawPageId = none ∧ child.windowStart < child.windowEnd ∧ child.depth = parent.depth + 1 ∧
      (∀ s ∈ db.segments, s.ingestSegmentId ≠ child.ingestSegmentId) ∧
      db' = { db with segments := db.segments ++ [child], drawn := db.drawn + 1 } := by
  simp only [insertChildSegment, bind_ok, pure_ok] at hx
  obtain ⟨uuid, m, hu, _, m', hi, rfl, rfl⟩ := hx
  obtain ⟨rfl, rfl⟩ := randomUUID_ok hu
  obtain ⟨-, hrow, hfresh, -, rfl⟩ := insertSegment_ok hi
  simp only [IngestSegment.rowChecks, Bool.and_eq_true, decide_eq_true_eq] at hrow
  exact ⟨rfl, rfl, rfl, rfl, rfl, rfl, hrow.1.1.1.2, rfl, hfresh, rfl⟩

/-! ## Cursors -/

theorem insertCursor_ok {cursor : LedgerCursor} {u : Unit} (hx : insertCursor cursor db = .ok (u, db')) :
    cursor.rowChecks ∧ (∀ c ∈ db.cursors, ¬ (c.providerAccountKey = cursor.providerAccountKey ∧
        c.scanLane = cursor.scanLane)) ∧
      db' = { db with cursors := db.cursors ++ [cursor] } := by
  simp only [insertCursor, readWith_bind_ok, require_bind_ok, update_ok, id] at hx
  exact ⟨hx.1, hx.2.1, hx.2.2.symm⟩

theorem updateCursor_ok {providerAccountKey : String} {lane : IngestScanLane} {guard : LedgerCursor → Bool}
    {set : LedgerCursor → LedgerCursor} {label : String} {u : Unit}
    (hx : updateCursor providerAccountKey lane guard set label db = .ok (u, db')) :
    ∃ cursor ∈ db.cursors, cursor.providerAccountKey = providerAccountKey ∧ cursor.scanLane = lane ∧
      guard cursor ∧ (set cursor).rowChecks ∧
      db' = { db with cursors := updateWhere (fun c =>
        c.providerAccountKey = providerAccountKey && c.scanLane = lane && guard c) set db.cursors } := by
  simp only [updateCursor, readWith_bind_ok, orFail_bind_ok, require_bind_ok, update_ok, id] at hx
  obtain ⟨cursor, hf, -, -, hrow, he⟩ := hx
  have hp := List.find?_some hf
  simp only [Bool.and_eq_true, decide_eq_true_eq] at hp
  exact ⟨cursor, List.mem_of_find?_eq_some hf, hp.1.1, hp.1.2, hp.2, hrow, he.symm⟩

/-- Which row of a cursor table a yield touches, and how. -/
def yields (cursor : LedgerCursor) (guard : LedgerCursor → Bool) (updatedAt : Nat)
    (cursors : List LedgerCursor) : List LedgerCursor :=
  updateWhere (fun c => c.providerAccountKey = cursor.providerAccountKey && c.scanLane = cursor.scanLane &&
      (c.version = cursor.version && guard c))
    (fun c => { c with updatedAt, version := c.version + 1 }) cursors

theorem yieldCursor_ok {cursor : LedgerCursor} {guard : LedgerCursor → Bool} {updatedAt : Nat} {label : String}
    {u : Unit} (hx : yieldCursor cursor guard updatedAt label db = .ok (u, db')) :
    db' = { db with cursors := yields cursor guard updatedAt db.cursors } := by
  obtain ⟨_, -, -, -, -, -, rfl⟩ := updateCursor_ok hx
  rfl

/-! ## Schedules, compensations, errors -/

theorem clearIngestScheduleState_ok {providerAccountKey : String} {u : Unit}
    (hx : clearIngestScheduleState providerAccountKey db = .ok (u, db')) :
    ∃ schedules, db' = { db with schedules } := by
  simp only [clearIngestScheduleState, update_ok] at hx
  exact ⟨_, hx.symm⟩

theorem recordIngestScheduleFailure_ok {providerAccountKey errorCode : String} {retryable : Bool}
    {intervalMilliseconds requestedNow : Nat} {retryAfterSeconds : Option Nat} {u : Unit}
    (hx : recordIngestScheduleFailure providerAccountKey errorCode retryable intervalMilliseconds
      retryAfterSeconds requestedNow db = .ok (u, db')) : ∃ schedules, db' = { db with schedules } := by
  simp only [recordIngestScheduleFailure, readWith_bind_ok, update_ok] at hx
  exact ⟨_, hx.symm⟩

theorem nextCompensationDueAt_ok {now interval due : Nat}
    (hx : nextCompensationDueAt now interval db = .ok (due, db')) : db = db' := by
  simp only [nextCompensationDueAt, require_bind_ok, pure_ok] at hx
  exact hx.2.2

theorem dueAfter_ok {consumed : Bool} {current now interval due : Nat}
    (hx : dueAfter consumed current now interval db = .ok (due, db')) : db = db' := by
  unfold dueAfter at hx
  split at hx
  · exact nextCompensationDueAt_ok hx
  · exact (pure_ok.mp hx).2

theorem initialCompensation_ok {providerAccountKey : String} {now : Nat} {state : LedgerCompensationState}
    (hx : initialCompensation providerAccountKey now db = .ok (state, db')) : db = db' := by
  simp only [initialCompensation, bind_ok, pure_ok] at hx
  obtain ⟨_, m1, h1, _, m2, h2, _, m3, h3, -, rfl⟩ := hx
  rw [nextCompensationDueAt_ok h1, nextCompensationDueAt_ok h2, nextCompensationDueAt_ok h3]

theorem compensationAfter_ok {scanKind : IngestScanKind} {existing state : LedgerCompensationState} {now : Nat}
    (hx : compensationAfter scanKind existing now db = .ok (state, db')) : db = db' := by
  simp only [compensationAfter, bind_ok, pure_ok] at hx
  obtain ⟨_, m1, h1, _, m2, h2, _, m3, h3, -, rfl⟩ := hx
  rw [dueAfter_ok h1, dueAfter_ok h2, dueAfter_ok h3]

theorem advanceCompensationState_ok {providerAccountKey : String} {scanKind : IngestScanKind} {now : Nat}
    {u : Unit} (hx : advanceCompensationState providerAccountKey scanKind now db = .ok (u, db')) :
    ∃ compensation, db' = { db with compensation } := by
  simp only [advanceCompensationState, readWith_bind_ok] at hx
  generalize db.compensation.find? (fun s => s.providerAccountKey = providerAccountKey) = existing at hx
  cases existing with
  | none =>
    obtain ⟨state, m, hs, hu⟩ := bind_ok.mp hx
    obtain rfl := initialCompensation_ok hs
    exact ⟨_, (update_ok.mp hu).symm⟩
  | some existing =>
    obtain ⟨state, m, hs, hu⟩ := bind_ok.mp hx
    obtain rfl := compensationAfter_ok hs
    exact ⟨_, (update_ok.mp hu).symm⟩

theorem insertIngestError_ok {error : IngestError} {u : Unit} (hx : insertIngestError error db = .ok (u, db')) :
    db' = { db with errors := db.errors ++ [error] } := by
  simp only [insertIngestError, readWith_bind_ok, require_bind_ok, update_ok, id] at hx
  exact hx.2.2.symm

/-! ## The end of a run -/

/-- The run row after its run completed. -/
def IngestRun.completedAs (now : Nat) (run : IngestRun) : IngestRun :=
  { run with status := .COMPLETED, completedAt := some now }

/-- The cursor row after its window completed. -/
def LedgerCursor.completedAs (lastEvent : Option Nat) (now : Nat) (c : LedgerCursor) : LedgerCursor :=
  { c with nextPageNo := none, complete := true, lastEventOccurredAt := lastEvent,
           lastCompletedAt := some now, updatedAt := now, version := c.version + 1 }

/-- The last event of a cursor after a run that brought `latest`. -/
def lastEventAfter (cursor : LedgerCursor) (latest : Option Nat) : Option Nat :=
  match latest with
  | none => cursor.lastEventOccurredAt
  | some latest => some (max (cursor.lastEventOccurredAt.getD 0) latest)

theorem completeSegmentRun_ok {run : IngestRun} {cursor : LedgerCursor} {now : Nat} {u : Unit}
    (hx : completeSegmentRun run cursor now db = .ok (u, db')) :
    (∃ r ∈ db.runs, r.runningAs run.ingestRunId) ∧
    ∃ compensation, db' = { db with
      compensation
      runs := updateWhere (IngestRun.runningAs run.ingestRunId) (IngestRun.completedAs now) db.runs
      cursors := updateWhere (fun c => c.providerAccountKey = cursor.providerAccountKey &&
          c.scanLane = cursor.scanLane && (c.version = cursor.version && !c.complete))
        (LedgerCursor.completedAs (lastEventAfter cursor (db.latestOccurredAtForRun run.ingestRunId)) now)
        db.cursors } := by
  simp only [completeSegmentRun, require_bind_ok, readWith_bind_ok] at hx
  obtain ⟨-, hx⟩ := hx
  obtain ⟨_, m1, h1, hx⟩ := bind_ok.mp hx
  obtain ⟨_, m2, h2, h3⟩ := bind_ok.mp hx
  obtain ⟨_, -, -, -, -, -, rfl⟩ := updateCursor_ok h1
  obtain ⟨r, hr, hrun, -, rfl⟩ := updateRunningRun_ok h2
  obtain ⟨compensation, rfl⟩ := advanceCompensationState_ok h3
  exact ⟨⟨r, hr, hrun⟩, compensation, rfl⟩

theorem completeIfDone_ok {run : IngestRun} {cursor : LedgerCursor} {rootCompleted : Bool} {now : Nat} {u : Unit}
    (hx : completeIfDone run cursor rootCompleted now db = .ok (u, db')) :
    (rootCompleted = false ∧ db = db') ∨
    (rootCompleted = true ∧ completeSegmentRun run cursor now db = .ok (u, db')) := by
  unfold completeIfDone at hx
  cases rootCompleted with
  | true => exact .inr ⟨rfl, hx⟩
  | false => exact .inl ⟨rfl, (pure_ok.mp hx).2⟩

/-! ## Conflicts -/

theorem insertConflictRow_ok {input : InsertConflictInput} {fingerprint : String} {c : LedgerConflict}
    (hx : insertConflictRow input fingerprint db = .ok (c, db')) :
    c = input.row (db.entropy db.drawn) fingerprint ∧ (∀ x ∈ db.conflicts, x.conflictId ≠ c.conflictId) ∧
      db' = { db with conflicts := db.conflicts ++ [c], drawn := db.drawn + 1 } := by
  simp only [insertConflictRow, bind_ok] at hx
  obtain ⟨uuid, m, hu, hrest⟩ := hx
  obtain ⟨rfl, rfl⟩ := randomUUID_ok hu
  simp only [readWith_ok, require_ok, update_ok, pure_ok, id] at hrest
  obtain ⟨_, _, ⟨rfl, rfl⟩, _, _, ⟨-, rfl⟩, _, _, ⟨hfresh, rfl⟩, _, _, rfl, rfl, rfl⟩ := hrest
  exact ⟨rfl, hfresh, rfl⟩

/-- A conflict is found under its fingerprint, or made. -/
theorem insertConflict_ok {input : InsertConflictInput} {c : LedgerConflict}
    (hx : insertConflict pf input db = .ok (c, db')) :
    (db.conflictWith input.providerAccountKey (conflictFingerprint pf.sha256 input.fingerprintParts) = some c ∧
      db = db') ∨
    (db.conflictWith input.providerAccountKey (conflictFingerprint pf.sha256 input.fingerprintParts) = none ∧
      c = input.row (db.entropy db.drawn) (conflictFingerprint pf.sha256 input.fingerprintParts) ∧
      (∀ x ∈ db.conflicts, x.conflictId ≠ c.conflictId) ∧
      db' = { db with conflicts := db.conflicts ++ [c], drawn := db.drawn + 1 }) := by
  simp only [insertConflict, readWith_bind_ok] at hx
  generalize hf : db.conflictWith input.providerAccountKey
    (conflictFingerprint pf.sha256 input.fingerprintParts) = found at hx ⊢
  cases found with
  | some found =>
    obtain ⟨rfl, rfl⟩ := pure_ok.mp hx
    exact .inl ⟨rfl, rfl⟩
  | none => exact .inr ⟨rfl, insertConflictRow_ok hx⟩

theorem insertConflictOperation_ok {operation : ConflictOperation} {u : Unit}
    (hx : insertConflictOperation operation db = .ok (u, db')) :
    (∃ c ∈ db.conflicts, c.resolvableBy operation.request) ∧
    (∀ o ∈ db.operations, o.request.conflictId ≠ operation.request.conflictId) ∧
    db' = { db with
      operations := db.operations ++ [operation]
      conflicts := updateWhere (LedgerConflict.openAs operation.request.conflictId)
        (LedgerConflict.resolved operation) db.conflicts } := by
  simp only [insertConflictOperation, readWith_bind_ok, require_bind_ok, update_ok, id, List.any_eq_true] at hx
  obtain ⟨hany, -, hfresh, -, rfl⟩ := hx
  exact ⟨hany, fun o ho => (hfresh o ho).2.2, rfl⟩

theorem requireConflict_ok {conflictId : String} {c : LedgerConflict}
    (hx : requireConflict conflictId db = .ok (c, db')) : db = db' := by
  simp only [requireConflict, readWith_bind_ok, orFail_ok] at hx
  exact hx.2

/-! ## Pages and their observations -/

/-- A new observation of a page, numbered after all others. -/
structure Observes (db : LedgerDb) (run : IngestRun) (segment : IngestSegment) (rawPageId : String)
    (kind : SegmentObservationKind) (disposition : PageObservationDisposition) (o : PageObservation) : Prop where
  ingestRunId : o.ingestRunId = run.ingestRunId
  ingestSegmentId : o.ingestSegmentId = segment.ingestSegmentId
  rawPageId : o.rawPageId = rawPageId
  kind : o.observationKind = kind
  disposition : o.disposition = disposition
  sequence : o.observationSequence = ((db.observations.map (·.observationSequence)).max?).getD 0 + 1
  placed : db.placesObservation o

theorem insertPageObservation_ok {run : IngestRun} {segment : IngestSegment} {rawPageId : String}
    {kind : SegmentObservationKind} {prepared : PreparedSegmentPage}
    {disposition : PageObservationDisposition} {u : Unit}
    (hx : insertPageObservation run segment rawPageId kind prepared disposition db = .ok (u, db')) :
    ∃ o, Observes db run segment rawPageId kind disposition o ∧
      db' = { db with observations := db.observations ++ [o] } := by
  simp only [insertPageObservation, nextPageObservationSequence, nextPageObservationAttempt] at hx
  obtain ⟨sequence, m1, h1, hx⟩ := bind_ok.mp hx
  simp only [readWith_bind_ok, require_bind_ok, pure_ok] at h1
  obtain ⟨-, rfl, rfl⟩ := h1
  obtain ⟨attempt, m2, h2, hx⟩ := bind_ok.mp hx
  simp only [readWith_bind_ok, require_bind_ok, pure_ok] at h2
  obtain ⟨-, rfl, rfl⟩ := h2
  simp only [readWith_bind_ok, require_bind_ok, update_ok, id] at hx
  obtain ⟨hplaced, -, -, he⟩ := hx
  exact ⟨_, ⟨rfl, rfl, rfl, rfl, rfl, rfl, hplaced⟩, he.symm⟩

/-- The page is stored with the account of the run and the window of the segment, and has further
    results just when it was observed as a probe. -/
def Answers (db : LedgerDb) (runId segmentId rawPageId : String) (kind : SegmentObservationKind) : Prop :=
  ∃ page ∈ db.pages, page.rawPageId = rawPageId ∧ (page.hasMore = true ↔ kind = .OVERSIZED_PROBE) ∧
    (∃ run ∈ db.runs, run.ingestRunId = runId ∧ run.providerAccountKey = page.providerAccountKey) ∧
    ∃ segment ∈ db.segments, segment.ingestSegmentId = segmentId ∧ segment.windowStart = page.windowStart ∧
      segment.windowEnd = page.windowEnd

theorem placesObservation_answers {o : PageObservation} (h : db.placesObservation o) :
    Answers db o.ingestRunId o.ingestSegmentId o.rawPageId o.observationKind := by
  simp only [LedgerDb.placesObservation, List.any_eq_true, Bool.and_eq_true, decide_eq_true_eq] at h
  obtain ⟨run, hr, hrun, segment, hs, ⟨hsegment, -⟩, page, hp, hpage⟩ := h
  obtain ⟨⟨⟨⟨⟨⟨⟨⟨⟨hid, haccount⟩, hstart⟩, hend⟩, -⟩, -⟩, -⟩, -⟩, -⟩, hmore⟩ := hpage
  exact ⟨page, hp, hid, by rw [hmore], ⟨run, hr, hrun, haccount⟩, segment, hs, hsegment, hstart, hend⟩

/-- The row of a response that is stored for the first time. -/
structure StoresPage (run : IngestRun) (segment : IngestSegment) (page : AccountLogPage)
    (prepared : PreparedSegmentPage) (requestHash : String) (row : RawPage) : Prop where
  account : row.providerAccountKey = run.providerAccountKey
  request : row.requestFingerprint = requestHash
  response : row.responseFingerprint = prepared.responseHash
  windowStart : row.windowStart = segment.windowStart
  windowEnd : row.windowEnd = segment.windowEnd
  hasMore : row.hasMore = page.hasMore
  totalSize : row.totalSize = page.totalSize
  body : row.rawBody = prepared.evidence.body

/-- What makes a page unique: the bytes of a response to a request of an account. -/
def RawPage.key (p : RawPage) : String × String × String :=
  (p.providerAccountKey, p.requestFingerprint, p.responseFingerprint)

theorem rawPageByFingerprints_some {providerAccountKey requestHash responseHash : String} {page : RawPage}
    (h : db.rawPageByFingerprints providerAccountKey requestHash responseHash = some page) :
    page ∈ db.pages ∧ page.providerAccountKey = providerAccountKey ∧ page.requestFingerprint = requestHash ∧
      page.responseFingerprint = responseHash := by
  have hp := List.find?_some h
  simp only [Bool.and_eq_true, decide_eq_true_eq] at hp
  exact ⟨List.mem_of_find?_eq_some h, hp.1.1, hp.1.2, hp.2⟩

theorem insertRawPage_ok {run : IngestRun} {segment : IngestSegment} {page : AccountLogPage}
    {prepared : PreparedSegmentPage} {requestHash : String} {row : RawPage}
    (hx : insertRawPage run segment page prepared requestHash db = .ok (row, db')) :
    StoresPage run segment page prepared requestHash row ∧ (∀ p ∈ db.pages, p.rawPageId ≠ row.rawPageId) ∧
      (∀ p ∈ db.pages, p.key ≠ row.key) ∧ db' = { db with pages := db.pages ++ [row], drawn := db.drawn + 1 } := by
  simp only [insertRawPage] at hx
  obtain ⟨uuid, m, hu, hx⟩ := bind_ok.mp hx
  obtain ⟨rfl, rfl⟩ := randomUUID_ok hu
  simp only [readWith_bind_ok, require_bind_ok, update_bind_ok, pure_ok, id] at hx
  obtain ⟨-, hfresh, hkey, rfl, rfl⟩ := hx
  refine ⟨⟨rfl, rfl, rfl, rfl, rfl, rfl, rfl, rfl⟩, hfresh, fun p hp he => hkey p hp ?_, rfl⟩
  simp only [RawPage.key, Prod.mk.injEq] at he
  exact he

/-- The page of a response is the stored one with its bytes, or a new row. -/
theorem retainPage_ok {run : IngestRun} {segment : IngestSegment} {page : AccountLogPage}
    {prepared : PreparedSegmentPage} {requestHash : String} {existingExact : Option RawPage} {row : RawPage}
    (hx : retainPage run segment page prepared requestHash existingExact db = .ok (row, db')) :
    (existingExact = some row ∧ row.hasMore = page.hasMore ∧ row.totalSize = page.totalSize ∧ db = db') ∨
    (existingExact = none ∧ StoresPage run segment page prepared requestHash row ∧
      (∀ p ∈ db.pages, p.rawPageId ≠ row.rawPageId) ∧ (∀ p ∈ db.pages, p.key ≠ row.key) ∧
      db' = { db with pages := db.pages ++ [row], drawn := db.drawn + 1 }) := by
  cases existingExact with
  | some existing =>
    simp only [retainPage, require_bind_ok, pure_ok] at hx
    obtain ⟨hsame, rfl, rfl⟩ := hx
    simp only [RawPage.sameMetadata, Bool.and_eq_true, decide_eq_true_eq] at hsame
    exact .inl ⟨rfl, hsame.1.1.2, hsame.1.1.1.2, rfl⟩
  | none => exact .inr ⟨rfl, insertRawPage_ok hx⟩

theorem hasProcessedPageObservation_ok {rawPageId : String} {b : Bool}
    (hx : hasProcessedPageObservation rawPageId db = .ok (b, db')) :
    (b = true ↔ ∃ o ∈ db.observations, o.rawPageId = rawPageId ∧ o.disposition = .PROCESSED) ∧ db = db' := by
  simp only [hasProcessedPageObservation, readWith_bind_ok, require_bind_ok, pure_ok] at hx
  obtain ⟨-, rfl, rfl⟩ := hx
  refine ⟨?_, rfl⟩
  simp only [List.any_eq_true, List.mem_filter, decide_eq_true_eq]
  constructor
  · rintro ⟨o, ⟨ho, hp⟩, hd⟩
    exact ⟨o, ho, hp, hd⟩
  · rintro ⟨o, ho, hp, hd⟩
    exact ⟨o, ⟨ho, hp⟩, hd⟩

/-- The operation that resolves a confirmed variant. -/
def confirmation (conflict : LedgerConflict) (conflictOperationId : String) (now : Nat) : ConflictOperation :=
  { conflictOperationId, operationKey := "system:confirm_variant:" ++ conflict.conflictId,
    request := { conflictId := conflict.conflictId, action := .CONFIRM_VARIANT, actorType := .SYSTEM,
                 actorId := none,
                 reason := "consecutive signed response confirmed the retained page variant" },
    createdAt := max now conflict.createdAt }

theorem onlyRow_eq_some {α : Type} {rows : List α} {row : α} (h : onlyRow rows = some row) : rows = [row] := by
  match rows, h with
  | [_], h => rw [Option.some.inj h]

theorem confirmPageVariantConflict_ok {latest : LatestPageObservation} {page : RawPage} {now : Nat} {u : Unit}
    (hx : confirmPageVariantConflict latest page now db = .ok (u, db')) :
    ∃ c, db.confirmedConflicts latest page = [c] ∧
      db' = { db with
        operations := db.operations ++ [confirmation c (db.entropy db.drawn) now]
        conflicts := updateWhere (LedgerConflict.openAs c.conflictId)
          (LedgerConflict.resolved (confirmation c (db.entropy db.drawn) now)) db.conflicts
        drawn := db.drawn + 1 } := by
  simp only [confirmPageVariantConflict, require_bind_ok, readWith_bind_ok, orFail_bind_ok] at hx
  obtain ⟨-, c, hc, hx⟩ := hx
  obtain ⟨uuid, m1, h1, hx⟩ := bind_ok.mp hx
  obtain ⟨rfl, rfl⟩ := randomUUID_ok h1
  obtain ⟨_, m2, h2, hx⟩ := bind_ok.mp hx
  obtain ⟨-, -, rfl⟩ := insertConflictOperation_ok h2
  obtain ⟨_, m3, h3, hx⟩ := bind_ok.mp hx
  obtain rfl := requireConflict_ok h3
  obtain ⟨-, rfl⟩ := require_ok.mp hx
  exact ⟨c, onlyRow_eq_some hc, rfl⟩

/-! ## Retaining a response -/

theorem retainFirst_ok {run : IngestRun} {segment : IngestSegment} {prepared : PreparedSegmentPage}
    {kind : SegmentObservationKind} {existingExact : Option RawPage} {page : RawPage}
    {retained : RetainedSegmentPage}
    (hx : retainFirst run segment prepared kind existingExact page db = .ok (retained, db')) :
    existingExact = none ∧ retained = ⟨.inserted, page, kind = .ACCEPTED_LEAF, none⟩ ∧
      ∃ o, Observes db run segment page.rawPageId kind .PROCESSED o ∧
        db' = { db with observations := db.observations ++ [o] } := by
  simp only [retainFirst, require_bind_ok] at hx
  obtain ⟨hnone, hx⟩ := hx
  obtain ⟨_, m, ho, hx⟩ := bind_ok.mp hx
  obtain ⟨rfl, rfl⟩ := pure_ok.mp hx
  exact ⟨hnone, rfl, insertPageObservation_ok ho⟩

/-- What a rejected response inserts besides its observation. -/
def variantInput (run : IngestRun) (segment : IngestSegment) (prepared : PreparedSegmentPage)
    (requestHash : String) (latest : LatestPageObservation) (page : RawPage) : InsertConflictInput :=
  { providerAccountKey := run.providerAccountKey, conflictType := .RAW_PAGE_VARIANT,
    rawPageId := some page.rawPageId, rawEventId := none, existingLedgerEntryId := none,
    externalEventId := none, existingSemanticFingerprint := some latest.page.responseFingerprint,
    incomingSemanticFingerprint := some prepared.responseHash,
    details := .pageVariant requestHash segment.ingestSegmentId latest.sequence latest.page.rawPageId
      page.rawPageId,
    fingerprintParts := pageVariantConflictFingerprintParts
      ⟨requestHash, segment.ingestSegmentId, latest.sequence, latest.page.rawPageId,
        latest.page.responseFingerprint, page.rawPageId, prepared.responseHash⟩,
    now := prepared.now }

theorem retainVariant_ok {run : IngestRun} {segment : IngestSegment} {prepared : PreparedSegmentPage}
    {kind : SegmentObservationKind} {requestHash : String} {latest : LatestPageObservation} {page : RawPage}
    {retained : RetainedSegmentPage}
    (hx : retainVariant pf run segment prepared kind requestHash latest page db = .ok (retained, db')) :
    retained = ⟨.variant, page, false, some latest.page.rawPageId⟩ ∧
      ∃ c m o, insertConflict pf (variantInput run segment prepared requestHash latest page) db = .ok (c, m) ∧
        Observes m run segment page.rawPageId kind .REJECTED_VARIANT o ∧
        db' = { m with observations := m.observations ++ [o] } := by
  simp only [retainVariant] at hx
  obtain ⟨c, m, hc, hx⟩ := bind_ok.mp hx
  obtain ⟨_, m', ho, hx⟩ := bind_ok.mp hx
  obtain ⟨rfl, rfl⟩ := pure_ok.mp hx
  obtain ⟨o, hobs, rfl⟩ := insertPageObservation_ok ho
  exact ⟨rfl, c, m, o, hc, hobs, rfl⟩

theorem retainRepeated_ok {run : IngestRun} {segment : IngestSegment} {page : AccountLogPage}
    {prepared : PreparedSegmentPage} {kind : SegmentObservationKind} {latest : LatestPageObservation}
    {existingExact : Option RawPage} {row : RawPage} {retained : RetainedSegmentPage}
    (hx : retainRepeated run segment page prepared kind latest existingExact row db = .ok (retained, db')) :
    existingExact ≠ none ∧
    ∃ wasEverProcessed,
      (wasEverProcessed = true ↔
        ∃ o ∈ db.observations, o.rawPageId = row.rawPageId ∧ o.disposition = .PROCESSED) ∧
      storedDetailsConsistent kind wasEverProcessed (db.rawEventCountForPage row.rawPageId) page.details.length ∧
      retained = ⟨if latest.disposition = .REJECTED_VARIANT then .confirmed_variant else .duplicate, row,
        latest.disposition = .REJECTED_VARIANT && !wasEverProcessed && kind = .ACCEPTED_LEAF, none⟩ ∧
      ∃ o u, Observes db run segment row.rawPageId kind .PROCESSED o ∧
        confirmIfRejected latest row prepared.now { db with observations := db.observations ++ [o] }
          = .ok (u, db') := by
  simp only [retainRepeated, require_bind_ok] at hx
  obtain ⟨hexact, hx⟩ := hx
  obtain ⟨wasEverProcessed, m1, h1, hrest⟩ := bind_ok.mp hx
  obtain ⟨hever, rfl⟩ := hasProcessedPageObservation_ok h1
  simp only [readWith_bind_ok, require_bind_ok] at hrest
  obtain ⟨hstored, hobserve⟩ := hrest
  obtain ⟨_, m2, h2, hconfirm⟩ := bind_ok.mp hobserve
  obtain ⟨o, hobs, rfl⟩ := insertPageObservation_ok h2
  obtain ⟨u, m3, h3, hdone⟩ := bind_ok.mp hconfirm
  obtain ⟨rfl, rfl⟩ := pure_ok.mp hdone
  exact ⟨hexact, wasEverProcessed, hever, hstored, rfl, o, u, hobs, h3⟩

theorem confirmIfRejected_ok {latest : LatestPageObservation} {page : RawPage} {now : Nat} {u : Unit}
    (hx : confirmIfRejected latest page now db = .ok (u, db')) :
    (latest.disposition ≠ .REJECTED_VARIANT ∧ db = db') ∨
    (latest.disposition = .REJECTED_VARIANT ∧ confirmPageVariantConflict latest page now db = .ok (u, db')) := by
  unfold confirmIfRejected at hx
  by_cases h : latest.disposition = .REJECTED_VARIANT
  · rw [if_pos h] at hx
    exact .inr ⟨h, hx⟩
  · rw [if_neg h] at hx
    exact .inl ⟨h, (pure_ok.mp hx).2⟩

theorem compareWithLatest_ok {run : IngestRun} {segment : IngestSegment} {page : AccountLogPage}
    {prepared : PreparedSegmentPage} {kind : SegmentObservationKind} {requestHash : String}
    {latest : Option LatestPageObservation} {existingExact : Option RawPage} {row : RawPage}
    {retained : RetainedSegmentPage}
    (hx : compareWithLatest pf run segment page prepared kind requestHash latest existingExact row db
      = .ok (retained, db')) :
    (latest = none ∧ retainFirst run segment prepared kind existingExact row db = .ok (retained, db')) ∨
    (∃ l, latest = some l ∧ l.page.responseFingerprint ≠ prepared.responseHash ∧
      retainVariant pf run segment prepared kind requestHash l row db = .ok (retained, db')) ∨
    (∃ l, latest = some l ∧ l.page.responseFingerprint = prepared.responseHash ∧
      retainRepeated run segment page prepared kind l existingExact row db = .ok (retained, db')) := by
  cases latest with
  | none => exact .inl ⟨rfl, hx⟩
  | some l =>
    simp only [compareWithLatest] at hx
    by_cases h : l.page.responseFingerprint = prepared.responseHash
    · rw [if_neg (by simpa using h)] at hx
      exact .inr (.inr ⟨l, rfl, h, hx⟩)
    · rw [if_pos h] at hx
      exact .inr (.inl ⟨l, rfl, h, hx⟩)

/-- A response is retained in two steps: its page, then the comparison with the latest observation. -/
theorem retainSegmentPage_ok {run : IngestRun} {segment : IngestSegment} {page : AccountLogPage}
    {prepared : PreparedSegmentPage} {kind : SegmentObservationKind} {retained : RetainedSegmentPage}
    (hx : retainSegmentPage pf run segment page prepared kind db = .ok (retained, db')) :
    ∃ requestHash latest existingExact row m,
      requestHash = requestFingerprint pf.sha256 run.providerAccountKey segment.windowStart
        segment.windowEnd 1 page.pageSize ∧
      latest = db.latestPageObservation run.providerAccountKey requestHash ∧
      existingExact = db.rawPageByFingerprints run.providerAccountKey requestHash prepared.responseHash ∧
      retainPage run segment page prepared requestHash existingExact db = .ok (row, m) ∧
      compareWithLatest pf run segment page prepared kind requestHash latest existingExact row m
        = .ok (retained, db') := by
  simp only [retainSegmentPage, readWith_bind_ok] at hx
  obtain ⟨row, m, hrow, hx⟩ := bind_ok.mp hx
  exact ⟨_, _, _, row, m, rfl, rfl, rfl, hrow, hx⟩

/-- The tables that retaining a response may change; stored pages stay. -/
def Retains (db db' : LedgerDb) : Prop :=
  ∃ pages observations conflicts operations drawn, db.pages ⊆ pages ∧
    db' = { db with pages, observations, conflicts, operations, drawn }

/-- The stored pages are not touched. -/
theorem Retains.of_observed {observations : List PageObservation} {conflicts : List LedgerConflict}
    {operations : List ConflictOperation} {drawn : Nat} :
    Retains db { db with observations, conflicts, operations, drawn } :=
  ⟨_, _, _, _, _, List.Subset.refl _, rfl⟩

theorem Retains.refl (db : LedgerDb) : Retains db db := .of_observed

theorem Retains.trans {m : LedgerDb} (h1 : Retains db m) (h2 : Retains m db') : Retains db db' := by
  obtain ⟨_, _, _, _, _, hp1, rfl⟩ := h1
  obtain ⟨_, _, _, _, _, hp2, rfl⟩ := h2
  exact ⟨_, _, _, _, _, List.Subset.trans hp1 hp2, rfl⟩

theorem insertConflict_retains {input : InsertConflictInput} {c : LedgerConflict}
    (hx : insertConflict pf input db = .ok (c, db')) : Retains db db' := by
  rcases insertConflict_ok hx with ⟨-, rfl⟩ | ⟨-, -, -, rfl⟩
  · exact .refl _
  · exact .of_observed

theorem confirmIfRejected_retains {latest : LatestPageObservation} {page : RawPage} {now : Nat} {u : Unit}
    (hx : confirmIfRejected latest page now db = .ok (u, db')) : Retains db db' := by
  rcases confirmIfRejected_ok hx with ⟨-, rfl⟩ | ⟨-, h⟩
  · exact .refl _
  · obtain ⟨c, -, rfl⟩ := confirmPageVariantConflict_ok h
    exact .of_observed

theorem retainPage_retains {run : IngestRun} {segment : IngestSegment} {page : AccountLogPage}
    {prepared : PreparedSegmentPage} {requestHash : String} {existingExact : Option RawPage} {row : RawPage}
    (hx : retainPage run segment page prepared requestHash existingExact db = .ok (row, db')) :
    Retains db db' := by
  rcases retainPage_ok hx with ⟨-, -, -, rfl⟩ | ⟨-, -, -, -, rfl⟩
  · exact .refl _
  · exact ⟨_, _, _, _, _, List.subset_append_left _ _, rfl⟩

theorem Observes.answers {run : IngestRun} {segment : IngestSegment} {rawPageId : String}
    {kind : SegmentObservationKind} {disposition : PageObservationDisposition} {o : PageObservation}
    (h : Observes db run segment rawPageId kind disposition o) :
    Answers db run.ingestRunId segment.ingestSegmentId rawPageId kind := by
  have := placesObservation_answers h.placed
  rwa [h.ingestRunId, h.ingestSegmentId, h.rawPageId, h.kind] at this

/-- What the callers of `retainSegmentPage` need: which tables changed, and that the retained page
    answers the segment, as a probe or as a leaf. -/
theorem retainSegmentPage_retains {run : IngestRun} {segment : IngestSegment} {page : AccountLogPage}
    {prepared : PreparedSegmentPage} {kind : SegmentObservationKind} {retained : RetainedSegmentPage}
    (hx : retainSegmentPage pf run segment page prepared kind db = .ok (retained, db')) :
    Retains db db' ∧ Answers db' run.ingestRunId segment.ingestSegmentId retained.page.rawPageId kind := by
  obtain ⟨requestHash, latest, existingExact, row, m, -, -, -, hrow, hx⟩ := retainSegmentPage_ok hx
  have hm := retainPage_retains hrow
  rcases compareWithLatest_ok hx with ⟨-, h⟩ | ⟨l, -, -, h⟩ | ⟨l, -, -, h⟩
  · obtain ⟨-, rfl, o, ho, rfl⟩ := retainFirst_ok h
    exact ⟨hm.trans .of_observed, ho.answers⟩
  · obtain ⟨rfl, c, m', o, hc, ho, rfl⟩ := retainVariant_ok h
    exact ⟨(hm.trans (insertConflict_retains hc)).trans .of_observed, ho.answers⟩
  · obtain ⟨-, _, -, -, rfl, o, u, ho, hconfirm⟩ := retainRepeated_ok h
    have hc := confirmIfRejected_retains hconfirm
    refine ⟨(hm.trans .of_observed).trans hc, ?_⟩
    rcases confirmIfRejected_ok hconfirm with ⟨-, rfl⟩ | ⟨-, h'⟩
    · exact ho.answers
    · obtain ⟨c, -, rfl⟩ := confirmPageVariantConflict_ok h'
      exact ho.answers

end PerPay.Ledger
