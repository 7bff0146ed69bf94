/-
  **What each operation of the ledger can do** — the public methods, taken apart once.

  `recordSegmentPage` is the long one: its guards (`PageGuards`), the retention of the response, and
  then one of four endings.  A rejected variant and an exceeded density leave every segment alone; a
  split replaces a segment by its halves; an accepted leaf completes it, and with the last one the
  run and its cursor.
-/
import PerPay.Ledger.Effects

namespace PerPay.Ledger

open Txn Table

variable {pf : LedgerPlatform} {db db' : LedgerDb}

/-! ## Starting a run -/

theorem runningRun_some {providerAccountKey : String} {lane : IngestScanLane} {run : IngestRun}
    (h : db.runningRun providerAccountKey lane = some run) :
    run ∈ db.runs ∧ run.providerAccountKey = providerAccountKey ∧ run.status = .RUNNING ∧ run.lane = lane := by
  have hmem := List.mem_of_mem_head? h
  rw [List.mem_mergeSort, List.mem_filter] at hmem
  simpa [and_assoc] using hmem

theorem runningRun_none {providerAccountKey : String} {lane : IngestScanLane}
    (h : db.runningRun providerAccountKey lane = none) {run : IngestRun} (hr : run ∈ db.runs)
    (hk : run.providerAccountKey = providerAccountKey) (hl : run.lane = lane) : run.status ≠ .RUNNING := by
  intro hs
  unfold LedgerDb.runningRun at h
  rw [List.head?_eq_none_iff] at h
  have hmem : run ∈ (db.runs.filter fun r => r.providerAccountKey = providerAccountKey &&
      r.status = .RUNNING && r.lane = lane).mergeSort IngestRun.startedBefore := by
    rw [List.mem_mergeSort, List.mem_filter]
    simp [hr, hk, hl, hs]
  rw [h] at hmem
  cases hmem

theorem requireScannableAccount_ok {providerAccountKey : String} {u : Unit}
    (hx : requireScannableAccount pf providerAccountKey db = .ok (u, db')) : db = db' := by
  simp only [requireScannableAccount, readWith_bind_ok, orFail_bind_ok] at hx
  obtain ⟨binding, -, hx⟩ := hx
  obtain ⟨_, m1, h1, hx⟩ := bind_ok.mp hx
  obtain ⟨-, rfl⟩ := require_ok.mp h1
  obtain ⟨_, m2, h2, hx⟩ := bind_ok.mp hx
  obtain ⟨-, rfl⟩ := require_ok.mp hx
  cases hactive : db.configuration.activeProviderAccountKey with
  | none =>
    simp only [requireIntactActive, hactive] at h2
    exact (pure_ok.mp h2).2
  | some key =>
    simp only [requireIntactActive, hactive, orFail_bind_ok, requireIntactBinding, require_ok] at h2
    obtain ⟨_, -, -, rfl⟩ := h2
    rfl

theorem runParameters_ok {input : StartIngestRunInput} {p : RunParameters}
    (hx : runParameters input db = .ok (p, db')) :
    validateWindow input.window = .ok () ∧ p.window = input.window ∧ p.pageSize = input.pageSize ∧
      p.overlapMilliseconds = input.overlapMilliseconds.getD ledgerCursorDefaultOverlapMilliseconds ∧
      p.scanKind = input.scanKind.getD .NORMAL ∧
      normalizeProviderAccountKey input.providerAccountKey = .ok p.providerAccountKey ∧
      p.requestedNow = input.now.toNat ∧ db = db' := by
  simp only [runParameters, valueOf_bind_ok] at hx
  obtain ⟨_, hw, _, -, key, hk, _, -, hx⟩ := hx
  obtain ⟨now, m, hn, hx⟩ := bind_ok.mp hx
  obtain ⟨rfl, -, -, rfl⟩ := safeNow_ok hn
  obtain ⟨rfl, rfl⟩ := pure_ok.mp hx
  exact ⟨hw, rfl, rfl, rfl, rfl, hk, rfl, rfl⟩

/-- The cursor row a new window makes or restarts. -/
def RunParameters.opened (p : RunParameters) (now : Nat) (c : LedgerCursor) : LedgerCursor :=
  { c with windowStart := p.window.start, windowEnd := p.window.end_, nextPageNo := some 1,
           pageSize := p.pageSize, scanKind := p.scanKind, overlapMilliseconds := p.overlapMilliseconds,
           complete := false, updatedAt := now, version := c.version + 1 }

/-- How the cursor table takes up a window: a new row, the same row, or the row restarted. -/
inductive Opens (p : RunParameters) (db : LedgerDb) (now : Nat) : List LedgerCursor → Prop
  | insert (c : LedgerCursor) (hnone : db.cursor p.providerAccountKey p.lane = none)
      (hkey : c.providerAccountKey = p.providerAccountKey) (hlane : c.scanLane = p.lane)
      (hstart : c.windowStart = p.window.start) (hend : c.windowEnd = p.window.end_)
      (hsize : c.pageSize = p.pageSize) (hkind : c.scanKind = p.scanKind)
      (hoverlap : c.overlapMilliseconds = p.overlapMilliseconds) (hopen : c.complete = false)
      (hevent : c.lastEventOccurredAt = none) :
      Opens p db now (db.cursors ++ [c])
  | resume (c : LedgerCursor) (hsome : db.cursor p.providerAccountKey p.lane = some c)
      (hopen : c.complete = false) (hstart : c.windowStart = p.window.start)
      (hend : c.windowEnd = p.window.end_) (hsize : c.pageSize = p.pageSize)
      (hoverlap : c.overlapMilliseconds = p.overlapMilliseconds) : Opens p db now db.cursors
  | restart (c : LedgerCursor) (hsome : db.cursor p.providerAccountKey p.lane = some c)
      (hdone : c.complete = true) :
      Opens p db now (updateWhere (fun c => c.providerAccountKey = p.providerAccountKey && c.scanLane = p.lane &&
        true) (p.opened now) db.cursors)

theorem openCursor_ok {p : RunParameters} {cursor : Option LedgerCursor} {now : Nat} {u : Unit}
    (hcursor : cursor = db.cursor p.providerAccountKey p.lane)
    (hx : openCursor p cursor (effectiveScanKind cursor p.scanKind) now db = .ok (u, db')) :
    ∃ cursors, Opens p db now cursors ∧ db' = { db with cursors } := by
  cases cursor with
  | none =>
    obtain ⟨-, -, rfl⟩ := insertCursor_ok hx
    exact ⟨_, .insert _ hcursor.symm rfl rfl rfl rfl rfl rfl rfl rfl rfl, rfl⟩
  | some c =>
    simp only [openCursor, effectiveScanKind] at hx
    by_cases hc : c.complete = true
    · simp only [hc, if_true] at hx
      obtain ⟨_, -, -, -, -, -, rfl⟩ := updateCursor_ok hx
      exact ⟨_, .restart c hcursor.symm hc, rfl⟩
    · have hopen : c.complete = false := by simpa using hc
      simp only [hopen] at hx
      obtain ⟨⟨h1, h2, h3, h4⟩, rfl⟩ := require_ok.mp hx
      exact ⟨_, .resume c hcursor.symm hopen h1 h2 h3 h4, rfl⟩

/-- A run and its root segment, as `startIngestRun` inserts them. -/
structure StartsRun (p : RunParameters) (scanKind : IngestScanKind) (now : Nat) (run : IngestRun)
    (root : IngestSegment) : Prop where
  account : run.providerAccountKey = p.providerAccountKey
  windowStart : run.windowStart = p.window.start
  windowEnd : run.windowEnd = p.window.end_
  pageSize : run.pageSize = p.pageSize
  scanKind : run.scanKind = scanKind
  status : run.status = .RUNNING
  startedAt : run.startedAt = now
  rootRun : root.ingestRunId = run.ingestRunId
  rootParent : root.parentSegmentId = none
  rootStart : root.windowStart = p.window.start
  rootEnd : root.windowEnd = p.window.end_
  rootState : root.state = .PENDING
  rootNonempty : root.windowStart < root.windowEnd
  rootDepth : root.depth = 0

/-- What starting a run does, when the lane has no running run. -/
structure NewRun (p : RunParameters) (db : LedgerDb) (run : IngestRun) (db' : LedgerDb) : Prop where
  intro ::
  effect : ∃ root cursors now,
    now = max p.requestedNow (max (((db.cursor p.providerAccountKey p.lane).map (·.updatedAt)).getD 0)
      (((db.cursor p.providerAccountKey p.lane).bind (·.lastCompletedAt)).getD 0)) ∧
    Opens p db now cursors ∧
    StartsRun p (effectiveScanKind (db.cursor p.providerAccountKey p.lane) p.scanKind) now run root ∧
    (∀ r ∈ db.runs, r.ingestRunId ≠ run.ingestRunId) ∧
    (∀ r ∈ db.runs, ¬ (r.status = .RUNNING ∧ r.providerAccountKey = run.providerAccountKey ∧ r.lane = run.lane)) ∧
    (∀ s ∈ db.segments, s.ingestSegmentId ≠ root.ingestSegmentId) ∧
    db' = { db with cursors, runs := db.runs ++ [run], segments := db.segments ++ [root], drawn := db.drawn + 2 }

theorem startNewRun_ok {p : RunParameters} {run : IngestRun}
    (hx : startNewRun p (db.cursor p.providerAccountKey p.lane) db = .ok (run, db')) : NewRun p db run db' := by
  simp only [startNewRun] at hx
  obtain ⟨_, m1, h1, hx⟩ := bind_ok.mp hx
  obtain ⟨cursors, hopens, rfl⟩ := openCursor_ok rfl h1
  obtain ⟨runId, m2, h2, hx⟩ := bind_ok.mp hx
  obtain ⟨rfl, rfl⟩ := randomUUID_ok h2
  obtain ⟨_, m3, h3, hx⟩ := bind_ok.mp hx
  obtain ⟨-, hfresh, hlane, rfl⟩ := insertRun_ok h3
  obtain ⟨rootId, m4, h4, hx⟩ := bind_ok.mp hx
  obtain ⟨rfl, rfl⟩ := randomUUID_ok h4
  obtain ⟨_, m5, h5, hx⟩ := bind_ok.mp hx
  obtain ⟨-, hrow, hseg, -, rfl⟩ := insertSegment_ok h5
  obtain ⟨rfl, rfl⟩ := pure_ok.mp hx
  simp only [IngestSegment.rowChecks, Bool.and_eq_true, decide_eq_true_eq] at hrow
  exact ⟨_, cursors, _, rfl, hopens, ⟨rfl, rfl, rfl, rfl, rfl, rfl, rfl, rfl, rfl, rfl, rfl, rfl, hrow.1.1.1.2, rfl⟩,
    hfresh, fun r hr h => hlane r hr ⟨h.1, rfl, h.2⟩, hseg, rfl⟩

/-- `startIngestRun` resumes the running run of the lane unchanged, or starts a new one. -/
theorem startIngestRun_ok {input : StartIngestRunInput} {run : IngestRun}
    (hx : startIngestRun pf input db = .ok (run, db')) :
    ∃ p m, runParameters input db = .ok (p, m) ∧
      ((db.runningRun p.providerAccountKey p.lane = some run ∧
          p.resumes run (db.cursor p.providerAccountKey p.lane) ∧ db = db') ∨
       (db.runningRun p.providerAccountKey p.lane = none ∧ NewRun p db run db')) := by
  simp only [startIngestRun] at hx
  obtain ⟨p, m, hp, hx⟩ := bind_ok.mp hx
  refine ⟨p, m, hp, ?_⟩
  obtain ⟨-, -, -, -, -, -, -, rfl⟩ := runParameters_ok hp
  obtain ⟨_, m2, h2, hx⟩ := bind_ok.mp hx
  obtain rfl := requireScannableAccount_ok h2
  simp only [readWith_bind_ok] at hx
  generalize db.runningRun p.providerAccountKey p.lane = running at hx
  cases running with
  | some running =>
    simp only [openRun, resumeRun, require_bind_ok, readWith_bind_ok, pure_ok] at hx
    obtain ⟨hresumes, -, rfl, rfl⟩ := hx
    exact .inl ⟨rfl, hresumes, rfl⟩
  | none => exact .inr ⟨rfl, startNewRun_ok hx⟩

/-! ## Events -/

theorem insertRawEvent_ok {providerAccountKey rawPageId : String} {ordinal now : Nat} {detail : AccountLogDetail}
    {prepared : RawEvent × Bool}
    (hx : insertRawEvent pf providerAccountKey rawPageId ordinal detail now db = .ok (prepared, db')) :
    prepared = prepareRawEvent pf detail (db.entropy db.drawn) rawPageId providerAccountKey ordinal now ∧
      (∀ e ∈ db.rawEvents, e.rawEventId ≠ prepared.1.rawEventId) ∧
      (∀ e ∈ db.rawEvents, ¬ (e.rawPageId = rawPageId ∧ e.ordinal = ordinal)) ∧
      db' = { db with rawEvents := db.rawEvents ++ [prepared.1], drawn := db.drawn + 1 } := by
  simp only [insertRawEvent] at hx
  obtain ⟨uuid, m, hu, hx⟩ := bind_ok.mp hx
  obtain ⟨rfl, rfl⟩ := randomUUID_ok hu
  simp only [readWith_bind_ok, require_bind_ok, update_bind_ok, pure_ok, id] at hx
  obtain ⟨-, -, hid, hordinal, rfl, rfl⟩ := hx
  exact ⟨rfl, hid, hordinal, rfl⟩

theorem insertNormalizationConflict_ok {rawEvent : RawEvent} {type : LedgerConflictType}
    {externalEventId : Option String} {reason : String} {now : Nat} {r : PageNormalizationResult}
    (hx : insertNormalizationConflict pf rawEvent type externalEventId reason now db = .ok (r, db')) :
    ∃ c, r = .isolated c rawEvent.rawEventId ∧ ∃ input : InsertConflictInput,
      input.providerAccountKey = rawEvent.providerAccountKey ∧ input.conflictType = type ∧
      (∃ parts, input.fingerprintParts = .text type.name.toList :: parts) ∧
      insertConflict pf input db = .ok (c, db') := by
  simp only [insertNormalizationConflict] at hx
  obtain ⟨c, m, hc, hx⟩ := bind_ok.mp hx
  obtain ⟨rfl, rfl⟩ := pure_ok.mp hx
  exact ⟨c, rfl, _, rfl, rfl, ⟨_, rfl⟩, hc⟩

/-- What the difference between an entry and an event inserts. -/
def differenceInput (rawEvent : RawEvent) (existing : LedgerEntry) (facts : SemanticFacts)
    (semantics : String) (details : ConflictDetails) (now : Nat) : InsertConflictInput :=
  { providerAccountKey := rawEvent.providerAccountKey, conflictType := .DUPLICATE_EXTERNAL_ID,
    rawPageId := some rawEvent.rawPageId, rawEventId := some rawEvent.rawEventId,
    existingLedgerEntryId := some existing.ledgerEntryId, externalEventId := some facts.externalEventId,
    existingSemanticFingerprint := some existing.semanticFingerprint,
    incomingSemanticFingerprint := some semantics, details,
    fingerprintParts := differenceParts existing facts semantics, now }

theorem compareWithEntry_ok {rawEvent : RawEvent} {existing : LedgerEntry} {facts : SemanticFacts}
    {semantics : String} {now : Nat} {r : PageNormalizationResult}
    (hx : compareWithEntry pf rawEvent existing facts semantics now db = .ok (r, db')) :
    (existing.semanticFingerprint = semantics ∧
      existing.facts.occurredAtPrecisionMilliseconds = facts.occurredAtPrecisionMilliseconds ∧
      r = .duplicate existing rawEvent.rawEventId ∧ db = db') ∨
    (¬ (existing.semanticFingerprint = semantics ∧
        existing.facts.occurredAtPrecisionMilliseconds = facts.occurredAtPrecisionMilliseconds) ∧
      ∃ c details, r = .conflict c rawEvent.rawEventId ∧
        insertConflict pf (differenceInput rawEvent existing facts semantics details now) db = .ok (c, db')) := by
  unfold compareWithEntry at hx
  split at hx
  case isTrue h =>
    obtain ⟨rfl, rfl⟩ := pure_ok.mp hx
    exact .inl ⟨h.1, h.2, rfl, rfl⟩
  case isFalse h =>
    obtain ⟨c, m, hc, hx⟩ := bind_ok.mp hx
    obtain ⟨rfl, rfl⟩ := pure_ok.mp hx
    exact .inr ⟨h, c, _, rfl, hc⟩

theorem insertLedgerEntry_ok {rawEvent : RawEvent} {facts : SemanticFacts} {semantics : String} {now : Nat}
    {r : PageNormalizationResult} (hx : insertLedgerEntry rawEvent facts semantics now db = .ok (r, db')) :
    ∃ e : LedgerEntry, r = .created e rawEvent.rawEventId ∧ e.facts = facts ∧ e.semanticFingerprint = semantics ∧
      e.providerAccountKey = rawEvent.providerAccountKey ∧ e.rawEventId = rawEvent.rawEventId ∧
      e.state = .UNALLOCATED ∧ e.updatedAt = e.createdAt ∧
      (∀ x ∈ db.entries, x.ledgerEntryId ≠ e.ledgerEntryId ∧ x.rawEventId ≠ e.rawEventId) ∧
      (∀ x ∈ db.entries, ¬ (x.providerAccountKey = e.providerAccountKey ∧
        x.facts.externalEventId = e.facts.externalEventId)) ∧
      db' = { db with entries := db.entries ++ [e], drawn := db.drawn + 1 } := by
  simp only [insertLedgerEntry] at hx
  obtain ⟨uuid, m, hu, hx⟩ := bind_ok.mp hx
  obtain ⟨rfl, rfl⟩ := randomUUID_ok hu
  simp only [readWith_bind_ok, require_bind_ok, update_bind_ok, pure_ok, id] at hx
  obtain ⟨-, hid, hkey, rfl, rfl⟩ := hx
  exact ⟨_, rfl, rfl, rfl, rfl, rfl, rfl, rfl, hid, hkey, rfl⟩

/-- The tables that recording the events of a page may change. -/
def Normalizes (db db' : LedgerDb) : Prop :=
  ∃ rawEvents entries conflicts drawn, db' = { db with rawEvents, entries, conflicts, drawn }

theorem Normalizes.refl (db : LedgerDb) : Normalizes db db := ⟨_, _, _, _, rfl⟩

theorem Normalizes.trans {m : LedgerDb} (h1 : Normalizes db m) (h2 : Normalizes m db') : Normalizes db db' := by
  obtain ⟨_, _, _, _, rfl⟩ := h1
  obtain ⟨_, _, _, _, rfl⟩ := h2
  exact ⟨_, _, _, _, rfl⟩

theorem insertConflict_normalizes {input : InsertConflictInput} {c : LedgerConflict}
    (hx : insertConflict pf input db = .ok (c, db')) : Normalizes db db' := by
  rcases insertConflict_ok hx with ⟨-, rfl⟩ | ⟨-, -, -, rfl⟩
  · exact .refl _
  · exact ⟨_, _, _, _, rfl⟩

/-- The normalized facts of a stored event, when its shape is valid, it names itself and its texts
    parse. -/
def eventFacts (prepared : RawEvent × Bool) : Option SemanticFacts :=
  if prepared.2 then none
  else prepared.1.externalEventId.bind fun externalEventId =>
    (normalizeFacts prepared.1 externalEventId).toOption

/-- The error of an event names the fact it checks. -/
theorem normalizeFacts_code {rawEvent : RawEvent} {externalEventId : String} {e : NormalizationError}
    (h : normalizeFacts rawEvent externalEventId = .error e) :
    e.code = .INVALID_TIMESTAMP ∨ e.code = .INVALID_AMOUNT ∨ e.code = .INVALID_DIRECTION := by
  simp only [normalizeFacts, except_bind_error] at h
  rcases h with ho | ⟨_, -, ha | ⟨_, -, hd | ⟨_, -, h⟩⟩⟩
  · exact .inl (parseOccurredAtWithPrecision_code ho)
  · exact .inr (.inl (parseAmountCents_code ha))
  · exact .inr (.inr (parseDirection_code hd))
  · cases h

/-- An event without facts is isolated; the facts of any other are recorded. -/
theorem normalizeAndInsert_ok {prepared : RawEvent × Bool} {now : Nat} {r : PageNormalizationResult}
    (hx : normalizeAndInsert pf prepared now db = .ok (r, db')) :
    (eventFacts prepared = none ∧ ∃ type externalEventId reason, type ≠ .DUPLICATE_EXTERNAL_ID ∧
      type ≠ .RAW_PAGE_VARIANT ∧
      insertNormalizationConflict pf prepared.1 type externalEventId reason now db = .ok (r, db')) ∨
    (∃ facts, eventFacts prepared = some facts ∧ recordFacts pf prepared.1 facts now db = .ok (r, db')) := by
  unfold normalizeAndInsert at hx
  unfold eventFacts
  by_cases hshape : prepared.2 = true
  · rw [if_pos hshape] at hx ⊢
    exact .inl ⟨rfl, _, _, _, by decide, by decide, hx⟩
  rw [if_neg hshape] at hx ⊢
  cases hid : prepared.1.externalEventId with
  | none =>
    simp only [hid] at hx
    exact .inl ⟨rfl, _, _, _, by decide, by decide, hx⟩
  | some externalEventId =>
    simp only [hid] at hx
    rw [Option.bind_some]
    cases hfacts : normalizeFacts prepared.1 externalEventId with
    | error e =>
      simp only [hfacts] at hx
      have hcode : e.code ≠ .DUPLICATE_EXTERNAL_ID ∧ e.code ≠ .RAW_PAGE_VARIANT := by
        rcases normalizeFacts_code hfacts with h | h | h <;> rw [h] <;> decide
      exact .inl ⟨rfl, e.code, _, e.message, hcode.1, hcode.2, hx⟩
    | ok facts =>
      simp only [hfacts] at hx
      exact .inr ⟨facts, rfl, hx⟩

theorem recordFacts_ok {rawEvent : RawEvent} {facts : SemanticFacts} {now : Nat} {r : PageNormalizationResult}
    (hx : recordFacts pf rawEvent facts now db = .ok (r, db')) :
    (∃ existing, db.entryByExternalId rawEvent.providerAccountKey facts.externalEventId = some existing ∧
      compareWithEntry pf rawEvent existing facts (semanticFingerprint pf.sha256 facts) now db = .ok (r, db')) ∨
    (db.entryByExternalId rawEvent.providerAccountKey facts.externalEventId = none ∧
      insertLedgerEntry rawEvent facts (semanticFingerprint pf.sha256 facts) now db = .ok (r, db')) := by
  simp only [recordFacts, readWith_bind_ok] at hx
  generalize db.entryByExternalId rawEvent.providerAccountKey facts.externalEventId = existing at hx ⊢
  cases existing with
  | some existing => exact .inl ⟨existing, rfl, hx⟩
  | none => exact .inr ⟨rfl, hx⟩

theorem normalizeAndInsert_normalizes {prepared : RawEvent × Bool} {now : Nat} {r : PageNormalizationResult}
    (hx : normalizeAndInsert pf prepared now db = .ok (r, db')) : Normalizes db db' := by
  rcases normalizeAndInsert_ok hx with ⟨-, _, _, _, -, -, h⟩ | ⟨facts, -, h⟩
  · obtain ⟨c, -, input, -, -, -, hc⟩ := insertNormalizationConflict_ok h
    exact insertConflict_normalizes hc
  · rcases recordFacts_ok h with ⟨existing, -, h'⟩ | ⟨-, h'⟩
    · rcases compareWithEntry_ok h' with ⟨-, -, -, rfl⟩ | ⟨-, c, details, -, hc⟩
      · exact .refl _
      · exact insertConflict_normalizes hc
    · obtain ⟨e, -, -, -, -, -, -, -, -, -, rfl⟩ := insertLedgerEntry_ok h'
      exact ⟨_, _, _, _, rfl⟩

theorem recordDetail_ok {run : IngestRun} {rawPageId : String} {now : Nat} {detail : AccountLogDetail × Nat}
    {r : PageNormalizationResult} (hx : recordDetail pf run rawPageId now detail db = .ok (r, db')) :
    ∃ prepared m, insertRawEvent pf run.providerAccountKey rawPageId detail.2 detail.1 now db = .ok (prepared, m) ∧
      normalizeAndInsert pf prepared now m = .ok (r, db') := by
  simp only [recordDetail] at hx
  obtain ⟨prepared, m, hp, hx⟩ := bind_ok.mp hx
  exact ⟨prepared, m, hp, hx⟩

theorem recordDetail_normalizes {run : IngestRun} {rawPageId : String} {now : Nat}
    {detail : AccountLogDetail × Nat} {r : PageNormalizationResult}
    (hx : recordDetail pf run rawPageId now detail db = .ok (r, db')) : Normalizes db db' := by
  obtain ⟨prepared, m, hp, hn⟩ := recordDetail_ok hx
  obtain ⟨-, -, -, rfl⟩ := insertRawEvent_ok hp
  exact Normalizes.trans ⟨_, _, _, _, rfl⟩ (normalizeAndInsert_normalizes hn)

/-- The details of a page are recorded one after another, or not at all. -/
theorem recordDetails_ok {run : IngestRun} {details : List AccountLogDetail} {retained : RetainedSegmentPage}
    {now : Nat} {rs : List PageNormalizationResult}
    (hx : recordDetails pf run details retained now db = .ok (rs, db')) :
    (retained.shouldNormalize = true ∧
      Collected (recordDetail pf run retained.page.rawPageId now) db details.zipIdx rs db') ∨
    (retained.shouldNormalize = false ∧ db.rawEventCountForPage retained.page.rawPageId = details.length ∧
      rs = [] ∧ db = db') := by
  unfold recordDetails at hx
  split at hx
  case isTrue h => exact .inl ⟨h, collect_ok hx⟩
  case isFalse h =>
    simp only [readWith_bind_ok, require_bind_ok, pure_ok] at hx
    exact .inr ⟨by simpa using h, hx.1, hx.2.1.symm, hx.2.2⟩

theorem recordDetails_normalizes {run : IngestRun} {details : List AccountLogDetail}
    {retained : RetainedSegmentPage} {now : Nat} {rs : List PageNormalizationResult}
    (hx : recordDetails pf run details retained now db = .ok (rs, db')) : Normalizes db db' := by
  rcases recordDetails_ok hx with ⟨-, h⟩ | ⟨-, -, -, rfl⟩
  · exact h.relates Normalizes.refl Normalizes.trans fun hstep => recordDetail_normalizes hstep
  · exact .refl _

/-! ## Recording a page -/

theorem prepareSegmentPage_ok {input : RecordSegmentPageInput} {prepared : PreparedSegmentPage}
    (hx : prepareSegmentPage pf input db = .ok (prepared, db')) :
    prepared.evidence = input.evidence ∧ prepared.responseHash = pf.sha256 input.evidence.body ∧
      (input.page.hasMore = false → input.page.totalSize = input.page.details.length) ∧ db = db' := by
  simp only [prepareSegmentPage] at hx
  obtain ⟨now, m, hn, hx⟩ := bind_ok.mp hx
  obtain ⟨-, -, -, rfl⟩ := safeNow_ok hn
  simp only [require_bind_ok, valueOf_bind_ok, pure_ok] at hx
  obtain ⟨-, _, -, -, -, -, -, htotal, -, -, -, rfl, rfl⟩ := hx
  exact ⟨rfl, rfl, htotal, rfl⟩

theorem validateRetryIntervalMilliseconds_ok {value interval : Nat}
    (hx : validateRetryIntervalMilliseconds value db = .ok (interval, db')) : db = db' := by
  simp only [validateRetryIntervalMilliseconds, require_bind_ok, pure_ok] at hx
  exact hx.2.2

/-- What `recordSegmentPage` checks before it writes: the run is running, the segment is pending in
    it, and its cursor is open on the run's window. -/
structure PageGuards (db : LedgerDb) (input : RecordSegmentPageInput) (run : IngestRun) (segment : IngestSegment)
    (cursor : LedgerCursor) : Prop where
  runMem : run ∈ db.runs
  runId : run.ingestRunId = input.ingestRunId
  running : run.status = .RUNNING
  segmentMem : segment ∈ db.segments
  segmentId : segment.ingestSegmentId = input.ingestSegmentId
  segmentRun : segment.ingestRunId = run.ingestRunId
  pending : segment.state = .PENDING
  pageSize : run.pageSize = input.page.pageSize
  cursorFound : db.cursor run.providerAccountKey run.lane = some cursor
  cursorOpen : cursor.complete = false
  windowStart : cursor.windowStart = run.windowStart
  windowEnd : cursor.windowEnd = run.windowEnd
  total : input.page.hasMore = false → input.page.totalSize = input.page.details.length

/-- The response as a probe or as a leaf. -/
def observationKind (page : AccountLogPage) : SegmentObservationKind :=
  if page.hasMore then .OVERSIZED_PROBE else .ACCEPTED_LEAF

/-- A recorded page passed its guards, was retained, and came to one of its endings. -/
theorem recordSegmentPage_ok {input : RecordSegmentPageInput} {result : RecordSegmentPageResult}
    (hx : recordSegmentPage pf input db = .ok (result, db')) :
    ∃ run segment cursor prepared retained m interval, PageGuards db input run segment cursor ∧
      prepared.evidence = input.evidence ∧ prepared.responseHash = pf.sha256 input.evidence.body ∧
      retainSegmentPage pf run segment input.page prepared (observationKind input.page) db = .ok (retained, m) ∧
      finishPage pf run segment cursor input.page retained prepared.now interval m = .ok (result, db') := by
  simp only [recordSegmentPage] at hx
  obtain ⟨prepared, m1, h1, hx1⟩ := bind_ok.mp hx
  obtain ⟨hev, hhash, htotal, rfl⟩ := prepareSegmentPage_ok h1
  obtain ⟨interval, m2, h2, hx2⟩ := bind_ok.mp hx1
  obtain rfl := validateRetryIntervalMilliseconds_ok h2
  obtain ⟨run, m3, h3, hx3⟩ := bind_ok.mp hx2
  obtain ⟨hrun, hrunId, rfl⟩ := requireRun_ok h3
  obtain ⟨hrunning, hx4⟩ := require_bind_ok.mp hx3
  obtain ⟨segment, m4, h4, hx5⟩ := bind_ok.mp hx4
  obtain ⟨hsegment, hsegmentId, rfl⟩ := requireSegment_ok h4
  simp only [require_bind_ok] at hx5
  obtain ⟨⟨hsegrun, hpending⟩, hsize, hx6⟩ := hx5
  obtain ⟨cursor, m5, h5, hx7⟩ := bind_ok.mp hx6
  obtain ⟨hcursor, rfl⟩ := requireCursor_ok h5
  simp only [require_bind_ok, valueOf_bind_ok] at hx7
  obtain ⟨⟨hopen, hstart, hend, -⟩, _, -, hx8⟩ := hx7
  obtain ⟨now, m6, h6, hx9⟩ := bind_ok.mp hx8
  obtain ⟨-, -, -, rfl⟩ := clampIngestWriteTime_ok h6
  obtain ⟨retained, m7, h7, hx10⟩ := bind_ok.mp hx9
  exact ⟨run, segment, cursor, { prepared with now }, retained, m7, interval,
    ⟨hrun, hrunId, hrunning, hsegment, hsegmentId, hsegrun, hpending, hsize, hcursor, hopen, hstart, hend,
      htotal⟩,
    hev, hhash, h7, hx10⟩

/-! ### The endings of a page -/

/-- The run row after one more page. -/
def IngestRun.progressed (details : Nat) (r : IngestRun) : IngestRun :=
  { r with pagesReceived := r.pagesReceived + 1, detailsReceived := r.detailsReceived + details }

/-- The run row after its run failed. -/
def IngestRun.failedAs (code : String) (now : Nat) (r : IngestRun) : IngestRun :=
  { r with status := .FAILED, completedAt := some now, failureCode := some code }

/-- The segment row after its segment was split. -/
def IngestSegment.splitAs (splitAt : String) (now : Nat) (s : IngestSegment) : IngestSegment :=
  { s with state := .SPLIT, splitAt := some splitAt, completedAt := some now }

/-- The segment row after its leaf was accepted. -/
def IngestSegment.acceptedAs (rawPageId : String) (now : Nat) (s : IngestSegment) : IngestSegment :=
  { s with state := .COMPLETE, acceptedRawPageId := some rawPageId, completedAt := some now }

theorem failPaginationVariant_ok {run : IngestRun} {now interval : Nat} {u : Unit}
    (hx : failPaginationVariant run now interval db = .ok (u, db')) :
    ∃ cursor schedules errors drawn, db.cursor run.providerAccountKey run.lane = some cursor ∧
      db' = { db with schedules, errors, drawn,
                      cursors := yields cursor (fun c => !c.complete) (max now cursor.updatedAt) db.cursors } := by
  simp only [failPaginationVariant] at hx
  obtain ⟨uuid, m1, h1, hx1⟩ := bind_ok.mp hx
  obtain ⟨rfl, rfl⟩ := randomUUID_ok h1
  obtain ⟨_, m2, h2, hx2⟩ := bind_ok.mp hx1
  obtain rfl := insertIngestError_ok h2
  obtain ⟨_, m3, h3, hx3⟩ := bind_ok.mp hx2
  obtain ⟨schedules, rfl⟩ := recordIngestScheduleFailure_ok h3
  obtain ⟨cursor, m4, h4, hx4⟩ := bind_ok.mp hx3
  obtain ⟨hcursor, rfl⟩ := requireCursor_ok h4
  obtain rfl := yieldCursor_ok hx4
  exact ⟨cursor, schedules, _, _, hcursor, rfl⟩

theorem failDensityExceeded_ok {run : IngestRun} {now interval : Nat} {u : Unit}
    (hx : failDensityExceeded run now interval db = .ok (u, db')) :
    ∃ schedules errors drawn,
      db' = { db with schedules, errors, drawn,
                      runs := updateWhere (IngestRun.runningAs run.ingestRunId)
                        (IngestRun.failedAs "pagination_density_exceeded" now) db.runs } := by
  simp only [failDensityExceeded] at hx
  obtain ⟨uuid, m1, h1, hx1⟩ := bind_ok.mp hx
  obtain ⟨rfl, rfl⟩ := randomUUID_ok h1
  obtain ⟨_, m2, h2, hx2⟩ := bind_ok.mp hx1
  obtain rfl := insertIngestError_ok h2
  obtain ⟨_, m3, h3, hx3⟩ := bind_ok.mp hx2
  obtain ⟨schedules, rfl⟩ := recordIngestScheduleFailure_ok h3
  obtain ⟨_, -, -, -, rfl⟩ := updateRunningRun_ok hx3
  exact ⟨schedules, _, _, rfl⟩

/-- The halves of a split segment: two pending children, new to the table, each of them a nonempty
    window. -/
structure Halves (rows : List IngestSegment) (segment left right : IngestSegment) (split : WindowSplit) : Prop where
  leftRun : left.ingestRunId = segment.ingestRunId
  leftParent : left.parentSegmentId = some segment.ingestSegmentId
  leftStart : left.windowStart = split.left.start
  leftEnd : left.windowEnd = split.left.end_
  leftState : left.state = .PENDING
  leftPage : left.acceptedRawPageId = none
  leftNonempty : left.windowStart < left.windowEnd
  leftDepth : left.depth = segment.depth + 1
  rightRun : right.ingestRunId = segment.ingestRunId
  rightParent : right.parentSegmentId = some segment.ingestSegmentId
  rightStart : right.windowStart = split.right.start
  rightEnd : right.windowEnd = split.right.end_
  rightState : right.state = .PENDING
  rightPage : right.acceptedRawPageId = none
  rightNonempty : right.windowStart < right.windowEnd
  rightDepth : right.depth = segment.depth + 1
  leftFresh : ∀ s ∈ rows, s.ingestSegmentId ≠ left.ingestSegmentId
  rightFresh : ∀ s ∈ rows, s.ingestSegmentId ≠ right.ingestSegmentId
  distinct : left.ingestSegmentId ≠ right.ingestSegmentId

theorem splitSegment_ok {run : IngestRun} {segment : IngestSegment} {split : WindowSplit}
    {retained : RetainedSegmentPage} {now : Nat} {result : RecordSegmentPageResult}
    (hx : splitSegment run segment split retained now db = .ok (result, db')) :
    ∃ left right schedules, result = .split retained.observation retained.page left right ∧
      Halves db.segments segment left right split ∧
      db' = { db with
        schedules
        drawn := db.drawn + 2
        segments := updateWhere (IngestSegment.pendingAs segment.ingestSegmentId)
          (IngestSegment.splitAs split.splitAt now) db.segments ++ [left] ++ [right] } := by
  simp only [splitSegment] at hx
  obtain ⟨_, m1, h1, hx1⟩ := bind_ok.mp hx
  obtain rfl := updatePendingSegment_ok h1
  obtain ⟨_, m2, h2, hx2⟩ := bind_ok.mp hx1
  obtain ⟨schedules, rfl⟩ := clearIngestScheduleState_ok h2
  obtain ⟨left, m3, h3, hx3⟩ := bind_ok.mp hx2
  obtain ⟨l1, l2, l3, l4, l5, l6, l7, ldepth, l8, rfl⟩ := insertChildSegment_ok h3
  obtain ⟨right, m4, h4, hx4⟩ := bind_ok.mp hx3
  obtain ⟨r1, r2, r3, r4, r5, r6, r7, rdepth, r8, rfl⟩ := insertChildSegment_ok h4
  obtain ⟨rfl, rfl⟩ := pure_ok.mp hx4
  -- the update of the parent keeps the identifiers, so a child is new to the old table as well
  have hids : ∀ s ∈ db.segments, ∃ s' ∈ updateWhere (IngestSegment.pendingAs segment.ingestSegmentId)
      (IngestSegment.splitAs split.splitAt now) db.segments, s'.ingestSegmentId = s.ingestSegmentId := by
    intro s hs
    by_cases hp : s.pendingAs segment.ingestSegmentId = true
    · exact ⟨_, mem_updateWhere.mpr (.inl ⟨s, hs, hp, rfl⟩), rfl⟩
    · exact ⟨s, mem_updateWhere.mpr (.inr ⟨hs, by simpa using hp⟩), rfl⟩
  refine ⟨left, right, schedules, rfl,
    ⟨l1, l2, l3, l4, l5, l6, l7, ldepth, r1, r2, r3, r4, r5, r6, r7, rdepth, ?_, ?_, ?_⟩, rfl⟩
  · intro s hs
    obtain ⟨s', hs', he⟩ := hids s hs
    exact he ▸ l8 s' hs'
  · intro s hs
    obtain ⟨s', hs', he⟩ := hids s hs
    exact he ▸ r8 s' (List.mem_append_left _ hs')
  · exact r8 left (List.mem_append_right _ (List.mem_singleton_self _))

theorem recordProbe_ok {run : IngestRun} {segment : IngestSegment} {retained : RetainedSegmentPage}
    {now interval : Nat} {result : RecordSegmentPageResult}
    (hx : recordProbe run segment retained now interval db = .ok (result, db')) :
    (splitLedgerWindow ⟨segment.windowStart, segment.windowEnd⟩ = .ok none ∧
      result = .density_exceeded retained.observation retained.page ∧
      ∃ schedules errors drawn,
        db' = { db with schedules, errors, drawn,
                        runs := updateWhere (IngestRun.runningAs run.ingestRunId)
                          (IngestRun.failedAs "pagination_density_exceeded" now)
                          (updateWhere (IngestRun.runningAs run.ingestRunId) (IngestRun.progressed 0) db.runs) }) ∨
    (∃ split, splitLedgerWindow ⟨segment.windowStart, segment.windowEnd⟩ = .ok (some split) ∧
      ∃ left right schedules, result = .split retained.observation retained.page left right ∧
        Halves db.segments segment left right split ∧
        db' = { db with
          schedules
          drawn := db.drawn + 2
          runs := updateWhere (IngestRun.runningAs run.ingestRunId) (IngestRun.progressed 0) db.runs
          segments := updateWhere (IngestSegment.pendingAs segment.ingestSegmentId)
            (IngestSegment.splitAs split.splitAt now) db.segments ++ [left] ++ [right] }) := by
  simp only [recordProbe] at hx
  obtain ⟨_, m1, h1, hx1⟩ := bind_ok.mp hx
  obtain ⟨_, -, -, -, rfl⟩ := updateRunningRun_ok h1
  simp only [valueOf_bind_ok] at hx1
  obtain ⟨split, hsplit, hx2⟩ := hx1
  cases split with
  | none =>
    obtain ⟨_, m2, h2, hx3⟩ := bind_ok.mp hx2
    obtain ⟨schedules, errors, drawn, rfl⟩ := failDensityExceeded_ok h2
    obtain ⟨rfl, rfl⟩ := pure_ok.mp hx3
    exact .inl ⟨hsplit, rfl, schedules, errors, drawn, rfl⟩
  | some split =>
    obtain ⟨left, right, schedules, rfl, hhalves, rfl⟩ := splitSegment_ok hx2
    exact .inr ⟨split, hsplit, left, right, schedules, rfl, hhalves, rfl⟩

/-- An accepted leaf: its details are recorded, its segment is complete, and so is its run when no
    segment is pending any more. -/
theorem acceptLeaf_ok {run : IngestRun} {segment : IngestSegment} {cursor : LedgerCursor}
    {details : List AccountLogDetail} {retained : RetainedSegmentPage} {now : Nat}
    {result : RecordSegmentPageResult}
    (hx : acceptLeaf pf run segment cursor details retained now db = .ok (result, db')) :
    ∃ schedules rs m, recordDetails pf run details retained now { db with schedules } = .ok (rs, m) ∧
      ∃ done u, result = .accepted retained.observation retained.page rs done ∧
        ∃ m', m' = { m with
            runs := updateWhere (IngestRun.runningAs run.ingestRunId) (IngestRun.progressed details.length) m.runs
            segments := updateWhere (IngestSegment.pendingAs segment.ingestSegmentId)
              (IngestSegment.acceptedAs retained.page.rawPageId now) m.segments } ∧
          done = !(m'.hasPendingSegments run.ingestRunId) ∧
          completeIfDone run cursor done now m' = .ok (u, db') := by
  simp only [acceptLeaf] at hx
  obtain ⟨_, m1, h1, hx1⟩ := bind_ok.mp hx
  obtain ⟨schedules, rfl⟩ := clearIngestScheduleState_ok h1
  obtain ⟨rs, m2, h2, hx2⟩ := bind_ok.mp hx1
  obtain ⟨_, m3, h3, hx3⟩ := bind_ok.mp hx2
  obtain ⟨_, -, -, -, rfl⟩ := updateRunningRun_ok h3
  obtain ⟨_, m4, h4, hx4⟩ := bind_ok.mp hx3
  obtain rfl := updatePendingSegment_ok h4
  simp only [readWith_bind_ok] at hx4
  obtain ⟨u, m5, h5, hx5⟩ := bind_ok.mp hx4
  obtain ⟨rfl, rfl⟩ := pure_ok.mp hx5
  exact ⟨schedules, rs, m2, h2, _, u, rfl, _, rfl, rfl, h5⟩

theorem finishPage_ok {run : IngestRun} {segment : IngestSegment} {cursor : LedgerCursor}
    {page : AccountLogPage} {retained : RetainedSegmentPage} {now interval : Nat}
    {result : RecordSegmentPageResult}
    (hx : finishPage pf run segment cursor page retained now interval db = .ok (result, db')) :
    (retained.observation = .variant ∧ result = .variant retained.page ∧
      ∃ u, failPaginationVariant run now interval db = .ok (u, db')) ∨
    (retained.observation ≠ .variant ∧ page.hasMore = true ∧
      recordProbe run segment retained now interval db = .ok (result, db')) ∨
    (retained.observation ≠ .variant ∧ page.hasMore = false ∧
      acceptLeaf pf run segment cursor page.details retained now db = .ok (result, db')) := by
  unfold finishPage at hx
  by_cases hv : retained.observation = .variant
  · rw [if_pos hv] at hx
    obtain ⟨u, m, h, hx1⟩ := bind_ok.mp hx
    obtain ⟨rfl, rfl⟩ := pure_ok.mp hx1
    exact .inl ⟨hv, rfl, u, h⟩
  rw [if_neg hv] at hx
  by_cases hm : page.hasMore = true
  · rw [if_pos hm] at hx
    exact .inr (.inl ⟨hv, hm, hx⟩)
  · rw [if_neg hm] at hx
    exact .inr (.inr ⟨hv, by simpa using hm, hx⟩)

/-! ## Ending and yielding -/

theorem endRun_ok {run : IngestRun} {cursor : LedgerCursor} {status : CompletionStatus} {now : Nat} {u : Unit}
    (hx : endRun run cursor status now db = .ok (u, db')) :
    db = db' ∨ (cursor.complete = true ∧ ∃ compensation, db' = { db with
      compensation
      runs := updateWhere (IngestRun.runningAs run.ingestRunId)
        (fun r => { r with status := status.toRunStatus, completedAt := some now }) db.runs }) := by
  unfold endRun at hx
  split at hx
  · exact .inl (pure_ok.mp hx).2
  rename_i hp
  simp only [require_bind_ok] at hx
  obtain ⟨hc, hx⟩ := hx
  have hdone : cursor.complete = true := by
    cases status <;> simp_all
  obtain ⟨_, m1, h1, hx1⟩ := bind_ok.mp hx
  obtain ⟨_, -, -, -, rfl⟩ := updateRunningRun_ok h1
  split at hx1
  · obtain ⟨compensation, rfl⟩ := advanceCompensationState_ok hx1
    exact .inr ⟨hdone, compensation, rfl⟩
  · obtain ⟨-, rfl⟩ := pure_ok.mp hx1
    exact .inr ⟨hdone, _, rfl⟩

/-- Ending a run by hand does nothing, or ends a running run whose cursor is complete. -/
theorem completeIngestRun_ok {input : CompleteIngestRunInput} {u : Unit}
    (hx : completeIngestRun input db = .ok (u, db')) :
    db = db' ∨ ∃ run cursor status now, run ∈ db.runs ∧ run.status = .RUNNING ∧
      db.cursor run.providerAccountKey run.lane = some cursor ∧ cursor.complete = true ∧
      ∃ compensation, db' = { db with
        compensation
        runs := updateWhere (IngestRun.runningAs run.ingestRunId)
          (fun r => { r with status := CompletionStatus.toRunStatus status, completedAt := some now }) db.runs } := by
  simp only [completeIngestRun] at hx
  obtain ⟨now, m1, h1, hx1⟩ := bind_ok.mp hx
  obtain ⟨-, -, -, rfl⟩ := safeNow_ok h1
  obtain ⟨run, m2, h2, hx2⟩ := bind_ok.mp hx1
  obtain ⟨hrun, -, rfl⟩ := requireRun_ok h2
  split at hx2
  case isFalse => exact .inl (pure_ok.mp hx2).2
  case isTrue hrunning =>
    simp only [completeRunning] at hx2
    obtain ⟨cursor, m3, h3, hx3⟩ := bind_ok.mp hx2
    obtain ⟨hcursor, rfl⟩ := requireCursor_ok h3
    obtain ⟨t, m4, h4, hx4⟩ := bind_ok.mp hx3
    obtain ⟨-, -, -, rfl⟩ := clampIngestWriteTime_ok h4
    rcases endRun_ok hx4 with h | ⟨hdone, compensation, rfl⟩
    · exact .inl h
    · exact .inr ⟨run, cursor, _, t, hrun, hrunning, hcursor, hdone, compensation, rfl⟩

/-- A failed run and its rewound cursor. -/
def Fails (db : LedgerDb) (run : IngestRun) (cursor : LedgerCursor) (code : String) (now : Nat) (db' : LedgerDb) : Prop :=
  ∃ schedules errors drawn, db' = { db with
    schedules, errors, drawn
    runs := updateWhere (IngestRun.runningAs run.ingestRunId) (IngestRun.failedAs code now) db.runs
    cursors := if cursor.complete then db.cursors else updateWhere (fun c =>
        c.providerAccountKey = cursor.providerAccountKey && c.scanLane = cursor.scanLane &&
          c.version = cursor.version)
      (fun c => { c with nextPageNo := some 1, updatedAt := max now cursor.updatedAt, version := c.version + 1 })
      db.cursors }

theorem scheduleRetry_ok {run : IngestRun} {input : IngestErrorInput} {now : Nat} {u : Unit}
    (hx : scheduleRetry run input now db = .ok (u, db')) : ∃ schedules, db' = { db with schedules } := by
  cases hs : input.retrySchedule with
  | none =>
    simp only [scheduleRetry, hs] at hx
    obtain ⟨-, rfl⟩ := pure_ok.mp hx
    exact ⟨_, rfl⟩
  | some schedule =>
    simp only [scheduleRetry, hs] at hx
    exact recordIngestScheduleFailure_ok hx

theorem yieldOrFail_ok {run : IngestRun} {cursor : LedgerCursor} {input : IngestErrorInput} {now : Nat} {u : Unit}
    (hx : yieldOrFail run cursor input now db = .ok (u, db')) :
    (input.preserveRun = true ∧
      db' = { db with cursors := yields cursor (fun _ => true) (max now cursor.updatedAt) db.cursors }) ∨
    (input.preserveRun = false ∧ Fails db run cursor input.errorCode now db') := by
  unfold yieldOrFail at hx
  split at hx
  case isTrue hp => exact .inl ⟨hp, yieldCursor_ok hx⟩
  case isFalse hp =>
    obtain ⟨_, m1, h1, hx1⟩ := bind_ok.mp hx
    obtain ⟨_, -, -, -, rfl⟩ := updateRunningRun_ok h1
    refine .inr ⟨by simpa using hp, ?_⟩
    unfold rewindCursor at hx1
    unfold Fails
    by_cases hc : cursor.complete = true
    · simp only [hc, if_true] at hx1 ⊢
      obtain ⟨-, rfl⟩ := pure_ok.mp hx1
      exact ⟨_, _, _, rfl⟩
    · rw [if_neg hc] at hx1
      simp only [if_neg hc]
      obtain ⟨_, -, -, -, -, -, rfl⟩ := updateCursor_ok hx1
      exact ⟨_, _, _, rfl⟩

/-- A recorded error keeps its run for later, or fails it; no segment changes. -/
theorem recordIngestError_ok {input : IngestErrorInput} {u : Unit}
    (hx : recordIngestError input db = .ok (u, db')) :
    ∃ run cursor now, run ∈ db.runs ∧ run.ingestRunId = input.ingestRunId ∧ run.status = .RUNNING ∧
      db.cursor run.providerAccountKey run.lane = some cursor ∧
      ((input.preserveRun = true ∧ ∃ schedules errors drawn, db' = { db with
          schedules, errors, drawn
          cursors := yields cursor (fun _ => true) (max now cursor.updatedAt) db.cursors }) ∨
       (input.preserveRun = false ∧ Fails db run cursor input.errorCode now db')) := by
  simp only [recordIngestError] at hx
  obtain ⟨requestedNow, m1, h1, hx1⟩ := bind_ok.mp hx
  obtain ⟨-, -, -, rfl⟩ := safeNow_ok h1
  simp only [require_bind_ok] at hx1
  obtain ⟨-, -, -, -, -, hx2⟩ := hx1
  obtain ⟨run, m2, h2, hx3⟩ := bind_ok.mp hx2
  obtain ⟨hrun, hid, rfl⟩ := requireRun_ok h2
  obtain ⟨hrunning, hx4⟩ := require_bind_ok.mp hx3
  obtain ⟨cursor, m3, h3, hx5⟩ := bind_ok.mp hx4
  obtain ⟨hcursor, rfl⟩ := requireCursor_ok h3
  obtain ⟨now, m4, h4, hx6⟩ := bind_ok.mp hx5
  obtain ⟨-, -, -, rfl⟩ := clampIngestWriteTime_ok h4
  obtain ⟨uuid, m5, h5, hx7⟩ := bind_ok.mp hx6
  obtain ⟨rfl, rfl⟩ := randomUUID_ok h5
  obtain ⟨_, m6, h6, hx8⟩ := bind_ok.mp hx7
  obtain rfl := insertIngestError_ok h6
  obtain ⟨_, m7, h7, hx9⟩ := bind_ok.mp hx8
  obtain ⟨schedules, rfl⟩ := scheduleRetry_ok h7
  refine ⟨run, cursor, now, hrun, hid, hrunning, hcursor, ?_⟩
  rcases yieldOrFail_ok hx9 with ⟨hp, rfl⟩ | ⟨hp, schedules', errors, drawn, rfl⟩
  · exact .inl ⟨hp, _, _, _, rfl⟩
  · exact .inr ⟨hp, _, _, _, rfl⟩

theorem markIngestBatchYield_ok {ingestRunId : String} {now : Int} {u : Unit}
    (hx : markIngestBatchYield ingestRunId now db = .ok (u, db')) :
    db = db' ∨ ∃ run cursor t, run ∈ db.runs ∧ run.status = .RUNNING ∧
      db.cursor run.providerAccountKey run.lane = some cursor ∧
      db' = { db with cursors := yields cursor (fun _ => true) t db.cursors } := by
  simp only [markIngestBatchYield] at hx
  obtain ⟨requestedNow, m1, h1, hx1⟩ := bind_ok.mp hx
  obtain ⟨-, -, -, rfl⟩ := safeNow_ok h1
  obtain ⟨run, m2, h2, hx2⟩ := bind_ok.mp hx1
  obtain ⟨hrun, -, rfl⟩ := requireRun_ok h2
  split at hx2
  case isFalse => exact .inl (pure_ok.mp hx2).2
  case isTrue hrunning =>
    simp only [yieldRunning] at hx2
    obtain ⟨cursor, m3, h3, hx3⟩ := bind_ok.mp hx2
    obtain ⟨hcursor, rfl⟩ := requireCursor_ok h3
    obtain ⟨t, m4, h4, hx4⟩ := bind_ok.mp hx3
    obtain ⟨-, -, -, rfl⟩ := clampIngestWriteTime_ok h4
    exact .inr ⟨run, cursor, t, hrun, hrunning, hcursor, yieldCursor_ok hx4⟩

/-! ## Resolving a conflict -/

/-- A resolution replays an old operation, or resolves one open conflict that is not a page variant. -/
theorem resolveConflict_ok {input : ResolveLedgerConflictInput} {u : Unit}
    (hx : resolveConflict input db = .ok (u, db')) :
    db = db' ∨ ∃ operation c, c ∈ db.conflicts ∧ c.conflictId = operation.request.conflictId ∧
      c.status = .OPEN ∧ c.conflictType ≠ .RAW_PAGE_VARIANT ∧
      operation.operationKey = "admin:" ++ operation.conflictOperationId ∧
      insertConflictOperation operation db = .ok (u, db') := by
  simp only [resolveConflict, require_bind_ok] at hx
  obtain ⟨-, hx1⟩ := hx
  obtain ⟨requestedNow, m1, h1, hx2⟩ := bind_ok.mp hx1
  obtain ⟨-, -, -, rfl⟩ := safeNow_ok h1
  simp only [readWith_bind_ok] at hx2
  generalize db.operations.find? (fun o => o.conflictOperationId = input.conflictOperationId) = replay at hx2
  cases replay with
  | some operation => exact .inl (require_ok.mp hx2).2
  | none =>
    simp only [replayOrResolve, resolveOpenConflict, readWith_bind_ok, orFail_bind_ok, require_bind_ok] at hx2
    obtain ⟨c, hf, hopen, hmay, hx3⟩ := hx2
    obtain ⟨_, m2, h2, hx4⟩ := bind_ok.mp hx3
    obtain ⟨_, m3, h3, hx5⟩ := bind_ok.mp hx4
    obtain rfl := requireConflict_ok h3
    obtain ⟨-, rfl⟩ := require_ok.mp hx5
    refine .inr ⟨_, c, List.mem_of_find?_eq_some hf, by simpa using List.find?_some hf, hopen, ?_, rfl, h2⟩
    intro hv
    simp [administratorMay, hv] at hmay

theorem setEntryState_ok {ledgerEntryId : String} {state : LedgerEntryState} {updatedAt : Nat} {u : Unit}
    (hx : setEntryState ledgerEntryId state updatedAt db = .ok (u, db')) :
    db' = { db with
      entries := updateWhere (fun e => e.ledgerEntryId = ledgerEntryId)
        (fun e => { e with state, updatedAt }) db.entries } := by
  simp only [setEntryState, readWith_bind_ok, require_bind_ok, update_ok, id] at hx
  exact hx.2.symm

end PerPay.Ledger
