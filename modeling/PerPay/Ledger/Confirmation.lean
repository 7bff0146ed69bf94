/-
  **The page-variant protocol over runs** — what every operation of the ledger does to the answers, the
  raw events and the conflicts of a request.

  `ProtocolInv` joins the invariants of `Variants`.  One operation adds answers: `recordSegmentPage`,
  and `RecordsAnswer` says what it does with the next one.  A processed answer brings the raw events
  of its page, once; a rejected answer brings one open conflict and leaves everything else alone.

  The other direction is `confirmPageVariantConflict_succeeds`: when an answer repeats a rejected one,
  the confirmation finds the conflict of that rejection and nothing else, and resolves it.
-/
import PerPay.Ledger.Variants

namespace PerPay.Ledger

open Txn Table Repetition

variable {pf : LedgerPlatform} {db db' : LedgerDb}

/-! ## Events of a page -/

/-- A conflict of another kind leaves the rejections as they are. -/
theorem RejectionInv.insertConflict (h : RejectionInv pf db) {input : InsertConflictInput} {c : LedgerConflict}
    (htype : input.conflictType ≠ .RAW_PAGE_VARIANT) (hinput : FactInv pf db → input.Describes pf)
    (hx : Ledger.insertConflict pf input db = .ok (c, db')) : RejectionInv pf db' := by
  have hfacts := (insertConflict_progress hinput hx h.facts).1
  rcases insertConflict_ok hx with ⟨-, rfl⟩ | ⟨-, hc, hfresh, rfl⟩
  · exact h
  · refine h.insert hfacts hfresh ?_ rfl rfl rfl rfl
    rw [hc]
    exact htype

theorem recordDetail_rejectionInv (h : RejectionInv pf db) {run : IngestRun} {rawPageId : String} {now : Nat}
    {detail : AccountLogDetail × Nat} {r : PageNormalizationResult}
    (hx : recordDetail pf run rawPageId now detail db = .ok (r, db')) : RejectionInv pf db' := by
  obtain ⟨prepared, m, hp, hn⟩ := recordDetail_ok hx
  obtain ⟨-, -, -, rfl⟩ := insertRawEvent_ok hp
  have hm : RejectionInv pf { db with rawEvents := db.rawEvents ++ [prepared.1], drawn := db.drawn + 1 } :=
    h.same rfl rfl rfl rfl rfl
  rcases normalizeAndInsert_ok hn with ⟨-, type, _, _, hdup, hvariant, hi⟩ | ⟨facts, -, hr⟩
  · obtain ⟨c, -, input, -, rfl, hparts, hc⟩ := insertNormalizationConflict_ok hi
    exact hm.insertConflict hvariant (fun _ => ⟨hparts, fun htype => absurd htype hdup⟩) hc
  · rcases recordFacts_ok hr with ⟨existing, hex, hcompare⟩ | ⟨-, hinsert⟩
    · rcases compareWithEntry_ok hcompare with ⟨-, -, -, rfl⟩ | ⟨-, c, details, -, hc⟩
      · exact hm
      · exact hm.insertConflict (fun htype => by cases htype) (fun hinv => differenceInput_describes hinv hex) hc
    · have hfacts := (insertLedgerEntry_progress hinsert hm.facts).1
      obtain ⟨e, -, -, -, -, -, -, -, -, -, rfl⟩ := insertLedgerEntry_ok hinsert
      exact hm.framed hfacts (hm.observations.framed rfl rfl) (fun _ _ => rfl) rfl rfl

theorem collected_rejectionInv {run : IngestRun} {rawPageId : String} {now : Nat}
    {details : List (AccountLogDetail × Nat)} {rs : List PageNormalizationResult}
    (hc : Collected (recordDetail pf run rawPageId now) db details rs db') (h : RejectionInv pf db) :
    RejectionInv pf db' := by
  induction hc with
  | nil s => exact h
  | cons hx _ ih => exact ih (recordDetail_rejectionInv h hx)

/-! ## A page is finished -/

structure ProtocolInv (pf : LedgerPlatform) (db : LedgerDb) : Prop where
  rejections : RejectionInv pf db
  events : EventInv db

theorem ProtocolInv.same (h : ProtocolInv pf db) (hp : db'.pages = db.pages)
    (hobs : db'.observations = db.observations) (hc : db'.conflicts = db.conflicts)
    (ho : db'.operations = db.operations) (he : db'.entries = db.entries) (hr : db'.rawEvents = db.rawEvents) :
    ProtocolInv pf db' :=
  ⟨h.rejections.same hp hobs hc ho he, h.events.framed hp hobs hr⟩

/-- What finishing a page leaves of a retained response: the answers stay, and an accepted leaf that is
    to be normalized brings one raw event for each detail. -/
structure Finishes (pf : LedgerPlatform) (page : AccountLogPage) (retained : RetainedSegmentPage) (db db' : LedgerDb) :
    Prop where
  inv : RejectionInv pf db'
  pages : db'.pages = db.pages
  observations : db'.observations = db.observations
  events : ∃ events : List RawEvent, db'.rawEvents = db.rawEvents ++ events ∧
    (∀ e ∈ events, e.rawPageId = retained.page.rawPageId) ∧
    events.map (·.ordinal) = if retained.observation ≠ .variant ∧ page.hasMore = false ∧ retained.shouldNormalize = true
      then List.range page.details.length else []

/-- The rejection leaves everything but the run's cursor and schedule alone. -/
structure LeavesPending (db db' : LedgerDb) : Prop where
  segments : db'.segments = db.segments
  runs : db'.runs = db.runs
  rawEvents : db'.rawEvents = db.rawEvents
  entries : db'.entries = db.entries

theorem recordDetails_finishes (h : RejectionInv pf db) {run : IngestRun} {details : List AccountLogDetail}
    {retained : RetainedSegmentPage} {now : Nat} {rs : List PageNormalizationResult}
    (hx : recordDetails pf run details retained now db = .ok (rs, db')) :
    RejectionInv pf db' ∧ ∃ events : List RawEvent, db'.rawEvents = db.rawEvents ++ events ∧
      (∀ e ∈ events, e.rawPageId = retained.page.rawPageId) ∧
      events.map (·.ordinal) = if retained.shouldNormalize = true then List.range details.length else [] := by
  rcases recordDetails_ok hx with ⟨hnormalize, hc⟩ | ⟨hnormalize, -, -, rfl⟩
  · obtain ⟨events, hids, hordinals, hevents⟩ := collected_events hc
    refine ⟨collected_rejectionInv hc h, events, hevents, hids, ?_⟩
    rw [hordinals, if_pos hnormalize, List.zipIdx_map_snd, List.range_eq_range']
  · exact ⟨h, [], by simp, by simp, by simp [hnormalize]⟩

theorem completeIfDone_pages {run : IngestRun} {cursor : LedgerCursor} {rootCompleted : Bool} {now : Nat} {u : Unit}
    (hx : completeIfDone run cursor rootCompleted now db = .ok (u, db')) :
    db'.pages = db.pages ∧ db'.observations = db.observations ∧ db'.operations = db.operations := by
  rcases completeIfDone_ok hx with ⟨-, rfl⟩ | ⟨-, h⟩
  · exact ⟨rfl, rfl, rfl⟩
  · obtain ⟨-, compensation, rfl⟩ := completeSegmentRun_ok h
    exact ⟨rfl, rfl, rfl⟩

theorem acceptLeaf_finishes (h : RejectionInv pf db) {run : IngestRun} {segment : IngestSegment}
    {cursor : LedgerCursor} {page : AccountLogPage} {retained : RetainedSegmentPage} {now : Nat}
    {result : RecordSegmentPageResult} (hvariant : retained.observation ≠ .variant) (hmore : page.hasMore = false)
    (hx : acceptLeaf pf run segment cursor page.details retained now db = .ok (result, db')) :
    Finishes pf page retained db db' := by
  obtain ⟨schedules, rs, m, hdetails, done, u, -, m', rfl, -, hdone⟩ := acceptLeaf_ok hx
  have hstart : RejectionInv pf { db with schedules } := h.same rfl rfl rfl rfl rfl
  obtain ⟨hinv, events, hevents, hids, hordinals⟩ := recordDetails_finishes hstart hdetails
  obtain ⟨_, _, _, _, rfl⟩ := recordDetails_normalizes hdetails
  obtain ⟨hpages, hobs, hops⟩ := completeIfDone_pages hdone
  obtain ⟨hentries, hconflicts⟩ := completeIfDone_progress hdone
  have hraw := completeIfDone_rawEvents hdone
  refine ⟨hinv.same hpages hobs hconflicts hops hentries, hpages, hobs, events, hraw.trans hevents, hids, ?_⟩
  rw [hordinals]
  simp [hvariant, hmore]

theorem finishPage_finishes (h : RejectionInv pf db) {run : IngestRun} {segment : IngestSegment}
    {cursor : LedgerCursor} {page : AccountLogPage} {retained : RetainedSegmentPage} {now interval : Nat}
    {result : RecordSegmentPageResult}
    (hx : finishPage pf run segment cursor page retained now interval db = .ok (result, db')) :
    Finishes pf page retained db db' := by
  rcases finishPage_ok hx with ⟨hv, -, u, hf⟩ | ⟨-, hm, hp⟩ | ⟨hv, hm, ha⟩
  · obtain ⟨_, _, _, _, -, rfl⟩ := failPaginationVariant_ok hf
    exact ⟨h.same rfl rfl rfl rfl rfl, rfl, rfl, [], by simp, by simp, by simp [hv]⟩
  · have hnone : [] = if retained.observation ≠ .variant ∧ page.hasMore = false ∧ retained.shouldNormalize = true
        then List.range page.details.length else [] := by simp [hm]
    rcases recordProbe_ok hp with ⟨-, -, _, _, _, rfl⟩ | ⟨_, -, _, _, _, -, -, rfl⟩ <;>
      exact ⟨h.same rfl rfl rfl rfl rfl, rfl, rfl, [], by simp, by simp, hnone⟩
  · exact acceptLeaf_finishes h hv hm ha

/-- The result of a page says whether its answer was rejected. -/
theorem finishPage_variant {run : IngestRun} {segment : IngestSegment} {cursor : LedgerCursor}
    {page : AccountLogPage} {retained : RetainedSegmentPage} {now interval : Nat} {result : RecordSegmentPageResult}
    (hv : retained.observation = .variant)
    (hx : finishPage pf run segment cursor page retained now interval db = .ok (result, db')) :
    result = .variant retained.page ∧ LeavesPending db db' ∧ db'.conflicts = db.conflicts := by
  rcases finishPage_ok hx with ⟨-, rfl, u, hf⟩ | ⟨hn, -⟩ | ⟨hn, -⟩
  · obtain ⟨_, _, _, _, -, rfl⟩ := failPaginationVariant_ok hf
    exact ⟨rfl, ⟨rfl, rfl, rfl, rfl⟩, rfl⟩
  · exact absurd hv hn
  · exact absurd hv hn

/-! ## A response is recorded -/

/-- What recording a response does with it as the next answer to its request.  It is processed just
    when it is the first answer or repeats the bytes of the one before it.  Processed, it brings the
    raw events of its page when this is the first time that the page is processed as a leaf.
    Rejected, it brings a new open conflict about the rejection, and its segment stays pending. -/
structure RecordsAnswer (pf : LedgerPlatform) (input : RecordSegmentPageInput) (db : LedgerDb)
    (result : RecordSegmentPageResult) (account request : String) (o : LatestPageObservation) (db' : LedgerDb) :
    Prop where
  body : o.page.rawBody = input.evidence.body
  answers : db'.observationsOf account request = db.observationsOf account request ++ [o]
  verdict : o.processed = counts ((db.observationsOf account request).map (·.page.rawBody)) input.evidence.body
  events : ∃ events : List RawEvent, db'.rawEvents = db.rawEvents ++ events ∧
    (∀ e ∈ events, e.rawPageId = o.page.rawPageId) ∧ events.map (·.ordinal) =
      if o.processed = true ∧ input.page.hasMore = false ∧ db.processedLeaf o.page.rawPageId = false
      then List.range input.page.details.length else []
  rejected : o.processed = false → result = .variant o.page ∧ LeavesPending db db' ∧ ∃ a c,
    (db.observationsOf account request).getLast? = some a ∧ db'.conflicts = db.conflicts ++ [c] ∧
      c.status = .OPEN ∧ DescribesRejection pf c account request a o

/-- A page without further results that was processed at all was processed as a leaf. -/
theorem ObservationInv.processedLeaf_iff (h : ObservationInv pf db) {p : RawPage} (hp : p ∈ db.pages)
    (hmore : p.hasMore = false) : db.processedLeaf p.rawPageId = true ↔ EverProcessed db p.rawPageId := by
  simp only [LedgerDb.processedLeaf, List.any_eq_true, Bool.and_eq_true, decide_eq_true_eq]
  constructor
  · rintro ⟨x, hx, ⟨hid, hdisposition⟩, -⟩
    exact ⟨x, hx, hid, hdisposition⟩
  · rintro ⟨x, hx, hid, hdisposition⟩
    refine ⟨x, hx, ⟨hid, hdisposition⟩, ?_⟩
    obtain ⟨q, hq, hqid, hkind⟩ := h.observed x hx
    rw [h.pageIds.eq hq hp (hqid.trans hid), hmore] at hkind
    cases hk : x.observationKind with
    | ACCEPTED_LEAF => rfl
    | OVERSIZED_PROBE => exact absurd (hkind.mpr hk) (by decide)

/-- A page that is not stored yet was never observed. -/
theorem ObservationInv.unobserved (h : ObservationInv pf db) {rawPageId : String}
    (hfresh : ∀ p ∈ db.pages, p.rawPageId ≠ rawPageId) : ∀ x ∈ db.observations, x.rawPageId ≠ rawPageId := by
  intro x hx hid
  obtain ⟨p, hp, hpid, -⟩ := h.observed x hx
  exact hfresh p hp (hpid.trans hid)

/-- The answers to a request, as digests or as bytes. -/
theorem ObservationInv.fingerprints (h : ObservationInv pf db) (account request : String) :
    (db.observationsOf account request).map (·.page.responseFingerprint) =
      ((db.observationsOf account request).map (·.page.rawBody)).map pf.sha256 := by
  rw [List.map_map]
  exact List.map_congr_left fun o ho => h.hashed _ (mem_observationsOf ho).1

theorem ObservationInv.bodies (hsha : Function.Injective pf.sha256) (h : ObservationInv pf db)
    (account request : String) : (db.observationsOf account request).map (·.processed) =
      verdicts ((db.observationsOf account request).map (·.page.rawBody)) := by
  rw [h.follows, h.fingerprints, verdicts_map hsha]

theorem LatestPageObservation.processed_eq_false {o : LatestPageObservation} :
    o.processed = false ↔ o.disposition = .REJECTED_VARIANT := by
  unfold LatestPageObservation.processed
  cases o.disposition <;> decide

/-- A leaf is normalized when it is processed for the first time. -/
theorem Retention.normalize_leaf {run : IngestRun} {page : AccountLogPage} {prepared : PreparedSegmentPage}
    {requestHash : String} {retained : RetainedSegmentPage} {o : LatestPageObservation} (h : ObservationInv pf db)
    (hr : Retention pf run page prepared requestHash (observationKind page) db retained o db')
    (hnew : o.page ∈ db.pages ∨ ∀ p ∈ db.pages, p.rawPageId ≠ o.page.rawPageId) (hmore : page.hasMore = false) :
    (retained.observation ≠ .variant ∧ retained.shouldNormalize = true) ↔
      (o.processed = true ∧ db.processedLeaf o.page.rawPageId = false) := by
  have hever : db.processedLeaf o.page.rawPageId = true ↔ EverProcessed db o.page.rawPageId := by
    rcases hnew with hold | hfresh
    · exact h.processedLeaf_iff hold (hr.pageOf.hasMore.trans hmore)
    · have hnone := h.unobserved hfresh
      simp only [LedgerDb.processedLeaf, EverProcessed, List.any_eq_true, Bool.and_eq_true, decide_eq_true_eq]
      constructor
      · rintro ⟨x, hx, ⟨hid, -⟩, -⟩
        exact absurd hid (hnone x hx)
      · rintro ⟨x, hx, hid, -⟩
        exact absurd hid (hnone x hx)
  have hprocessed : o.processed = true ↔ o.disposition = .PROCESSED := by
    simp [LatestPageObservation.processed]
  have hkind : observationKind page = .ACCEPTED_LEAF := by
    simp [observationKind, hmore]
  rw [ne_eq, hr.variant, hr.normalize, hkind, hprocessed, ← hever, Bool.not_eq_true]
  constructor
  · rintro ⟨-, -, hdisposition, hnever⟩
    exact ⟨hdisposition, hnever⟩
  · rintro ⟨hdisposition, hnever⟩
    exact ⟨by simp [hdisposition], rfl, hdisposition, hnever⟩

/-- The verdict on one more answer follows from the verdicts on all. -/
theorem ObservationInv.verdict (hsha : Function.Injective pf.sha256) (h : ObservationInv pf db)
    (h' : ObservationInv pf db') {account request : String} {o : LatestPageObservation}
    (hof : db'.observationsOf account request = db.observationsOf account request ++ [o]) :
    o.processed = counts ((db.observationsOf account request).map (·.page.rawBody)) o.page.rawBody := by
  have hall := h'.bodies hsha account request
  rw [hof, List.map_append, List.map_append, List.map_singleton, List.map_singleton, verdicts_append,
    h.bodies hsha account request] at hall
  exact (List.cons.inj (List.append_cancel_left hall)).1

theorem recordSegmentPage_protocol (hsha : Function.Injective pf.sha256) (h : ProtocolInv pf db)
    {input : RecordSegmentPageInput} {result : RecordSegmentPageResult}
    (hx : recordSegmentPage pf input db = .ok (result, db')) :
    ProtocolInv pf db' ∧ ∃ run segment cursor o, PageGuards db input run segment cursor ∧
      RecordsAnswer pf input db result run.providerAccountKey (requestFingerprint pf.sha256 run.providerAccountKey
        segment.windowStart segment.windowEnd 1 input.page.pageSize) o db' := by
  obtain ⟨run, segment, cursor, prepared, retained, m, interval, hguards, hevidence, hhash, hretain, hfinish⟩ :=
    recordSegmentPage_ok hx
  obtain ⟨o, hr, hnew⟩ := retainSegmentPage_retention hsha h.rejections (by rw [hhash, hevidence]) hretain
  obtain ⟨⟨_, _, _, _, _, hsub, hm⟩, -⟩ := retainSegmentPage_retains hretain
  have hraw : m.rawEvents = db.rawEvents := by rw [hm]
  have hentries : m.entries = db.entries := by rw [hm]
  have hpagesSub : db.pages ⊆ m.pages := by rw [hm]; exact hsub
  have hf := finishPage_finishes hr.inv hfinish
  obtain ⟨x, hxs, hxid, hxdisposition, hxkind⟩ := hr.appended
  -- the answer, and its verdict
  have hbody : o.page.rawBody = input.evidence.body := by
    have := (hr.inv.observations.hashed _ hr.stored).symm.trans hr.pageOf.response
    exact hsha (this.trans hhash)
  have hof : ∀ account request, db'.observationsOf account request = m.observationsOf account request := by
    intro account request
    simp only [LedgerDb.observationsOf, LedgerDb.pageFor, hf.pages, hf.observations]
  have hanswers := (hof _ _).trans hr.observed
  have hverdict := h.rejections.observations.verdict hsha hf.inv.observations hanswers
  -- the raw events, and when there are any
  obtain ⟨events, hevents, hids, hordinals⟩ := hf.events
  rw [hr.retainedPage] at hids
  rw [hraw] at hevents
  have hordinals' : events.map (·.ordinal) = if o.processed = true ∧ input.page.hasMore = false ∧
      db.processedLeaf o.page.rawPageId = false then List.range input.page.details.length else [] := by
    rw [hordinals]
    refine if_congr ?_ rfl rfl
    constructor
    · rintro ⟨hvariant, hmore, hnormalize⟩
      obtain ⟨hprocessed, hnever⟩ := (hr.normalize_leaf h.rejections.observations hnew hmore).mp ⟨hvariant, hnormalize⟩
      exact ⟨hprocessed, hmore, hnever⟩
    · rintro ⟨hprocessed, hmore, hnever⟩
      obtain ⟨hvariant, hnormalize⟩ := (hr.normalize_leaf h.rejections.observations hnew hmore).mpr ⟨hprocessed, hnever⟩
      exact ⟨hvariant, hmore, hnormalize⟩
  have hev : EventInv db' := by
    refine h.events.observe (hf.pages ▸ hr.inv.observations.pageIds) (hf.pages ▸ hr.stored) ?_
      (hf.pages ▸ hpagesSub) (hf.pages ▸ hr.pages) hxid (hf.observations.trans hxs) hids hevents ?_
    · exact hnew.imp_right fun hfresh => ⟨hfresh, h.rejections.observations.unobserved hfresh⟩
    · rw [hordinals', hxdisposition, hxkind]
      cases hmore : input.page.hasMore with
      | true => simp [observationKind, hmore]
      | false =>
        rw [hr.pageOf.totalSize, hguards.total hmore]
        simp [observationKind, hmore, LatestPageObservation.processed]
  refine ⟨⟨hf.inv, hev⟩, run, segment, cursor, o, hguards, hbody, hanswers, hbody ▸ hverdict,
    ⟨events, hevents, hids, hordinals'⟩, fun hrejected => ?_⟩
  rw [LatestPageObservation.processed_eq_false] at hrejected
  obtain ⟨hresult, hleaves, hconflicts⟩ := finishPage_variant (hr.variant.mpr hrejected) hfinish
  obtain ⟨a, c, hlast, hc, hopen, hd⟩ := hr.rejection hrejected
  refine ⟨hr.retainedPage ▸ hresult, ?_, a, c, hlast, hconflicts.trans hc, hopen, hd⟩
  rw [hm] at hleaves
  exact ⟨hleaves.segments, hleaves.runs, hleaves.rawEvents, hleaves.entries⟩

/-! ## The other operations -/

theorem resolveConflict_protocol (h : ProtocolInv pf db) {input : ResolveLedgerConflictInput} {u : Unit}
    (hx : resolveConflict input db = .ok (u, db')) : ProtocolInv pf db' := by
  rcases resolveConflict_ok hx with rfl | ⟨operation, c, hmem, hid, -, htype, hkey, hop⟩
  · exact h
  · obtain ⟨-, -, rfl⟩ := insertConflictOperation_ok hop
    refine ⟨h.rejections.resolve hmem hid (fun _ _ _ _ _ hd => htype hd.type) (fun id hsystem => ?_) rfl rfl rfl rfl rfl,
      h.events.framed rfl rfl rfl⟩
    exact absurd (hkey.symm.trans hsystem) (admin_ne_system _ _)

/-- Every operation keeps the invariant. -/
theorem LedgerOp.run_protocol (hsha : Function.Injective pf.sha256) {op : LedgerOp} (h : ProtocolInv pf db) {u : Unit}
    (hx : op.run pf db = .ok (u, db')) : ProtocolInv pf db' := by
  cases op with
  | startIngestRun input =>
    obtain ⟨run, m, hs, hp⟩ := bind_ok.mp hx
    obtain ⟨-, rfl⟩ := pure_ok.mp hp
    obtain ⟨p, _, -, ⟨-, -, rfl⟩ | ⟨-, ⟨_, _, _, -, -, -, -, -, -, rfl⟩⟩⟩ := startIngestRun_ok hs
    · exact h
    · exact h.same rfl rfl rfl rfl rfl rfl
  | recordSegmentPage input =>
    obtain ⟨result, m, hr, hp⟩ := bind_ok.mp hx
    obtain ⟨-, rfl⟩ := pure_ok.mp hp
    exact (recordSegmentPage_protocol hsha h hr).1
  | completeIngestRun input =>
    rcases completeIngestRun_ok hx with rfl | ⟨_, _, _, _, -, -, -, -, _, rfl⟩
    · exact h
    · exact h.same rfl rfl rfl rfl rfl rfl
  | recordIngestError input =>
    obtain ⟨_, _, _, -, -, -, -, ⟨-, _, _, _, rfl⟩ | ⟨-, _, _, _, rfl⟩⟩ := recordIngestError_ok hx <;>
      exact h.same rfl rfl rfl rfl rfl rfl
  | markIngestBatchYield ingestRunId now =>
    rcases markIngestBatchYield_ok hx with rfl | ⟨_, _, _, -, -, -, rfl⟩
    · exact h
    · exact h.same rfl rfl rfl rfl rfl rfl
  | resolveConflict input => exact resolveConflict_protocol h hx
  | setEntryState ledgerEntryId state updatedAt =>
    have hfacts := (setEntryState_progress hx h.rejections.facts).1
    obtain rfl := setEntryState_ok hx
    exact ⟨h.rejections.framed hfacts (h.rejections.observations.framed rfl rfl) (fun _ _ => rfl) rfl rfl,
      h.events.framed rfl rfl rfl⟩
  | configure configuration =>
    simp only [LedgerOp.run, update_ok] at hx
    subst hx
    exact h.same rfl rfl rfl rfl rfl rfl

theorem ProtocolInv.reachable (hsha : Function.Injective pf.sha256) (h : Runs.Reachable (ledgerStore pf) db) :
    ProtocolInv pf db := by
  refine h.invariant (fun _ h0 => ⟨.empty h0, .empty h0⟩) fun s l s' hI hs => ?_
  have hsupplied : ProtocolInv pf (s.supplied l.2) := hI.same rfl rfl rfl rfl rfl rfl
  rw [show s' = committed (l.1.run pf) (s.supplied l.2) from hs]
  rcases committed_cases (l.1.run pf) (s.supplied l.2) with ⟨u, hx⟩ | ⟨-, hx⟩
  · exact LedgerOp.run_protocol hsha hsupplied hx
  · rw [hx]
    exact hsupplied

/-! ## A confirmation succeeds -/

/-- A rejected answer has one before it. -/
theorem ObservationInv.latestRejected (h : ObservationInv pf db) {account request : String} {b : LatestPageObservation}
    (hlast : (db.observationsOf account request).getLast? = some b) (hrejected : b.disposition = .REJECTED_VARIANT) :
    ∃ a, LatestRejected db account request a b := by
  obtain ⟨xs, hxs⟩ := List.getLast?_eq_some_iff.mp hlast
  rcases List.eq_nil_or_concat xs with rfl | ⟨ys, a, rfl⟩
  · -- the first answer counts
    have hfirst := h.follows account request
    rw [hxs] at hfirst
    simp [verdicts, verdictsAfter, LatestPageObservation.processed, hrejected] at hfirst
  · refine ⟨a, ?_, hlast, hrejected⟩
    rw [hxs, List.concat_eq_append]
    exact adjacent_last ys a b

/-- The operation of a confirmation is new. -/
theorem RejectionInv.confirmation_new (h : RejectionInv pf db) {c : LedgerConflict} (hc : c ∈ db.conflicts)
    (hopen : c.status = .OPEN) {o : ConflictOperation} (ho : o ∈ db.operations) :
    o.operationKey ≠ "system:confirm_variant:" ++ c.conflictId ∧ o.request.conflictId ≠ c.conflictId := by
  have hid : o.request.conflictId ≠ c.conflictId := by
    intro he
    obtain ⟨x, hx, hxid, hs⟩ := h.applied o ho
    rw [h.conflictIds.eq hx hc (hxid.trans he)] at hs
    exact hs hopen
  exact ⟨fun hkey => hid (h.systemKeys o ho _ hkey), hid⟩

/-- The one open conflict of a confirmation, and its row once it is resolved. -/
theorem RejectionInv.confirmed_row (h : RejectionInv pf db) {c : LedgerConflict} (hc : c ∈ db.conflicts)
    (hopen : c.status = .OPEN) (operation : ConflictOperation) (hid : operation.request.conflictId = c.conflictId) :
    (updateWhere (LedgerConflict.openAs operation.request.conflictId) (LedgerConflict.resolved operation)
      db.conflicts).find? (·.conflictId = c.conflictId) = some (c.resolved operation) := by
  have hunique : UniqueOn LedgerConflict.conflictId (updateWhere
      (LedgerConflict.openAs operation.request.conflictId) (LedgerConflict.resolved operation) db.conflicts) :=
    h.conflictIds.updateWhere fun _ _ => rfl
  have hmem : c.resolved operation ∈ updateWhere (LedgerConflict.openAs operation.request.conflictId)
      (LedgerConflict.resolved operation) db.conflicts :=
    mem_updateWhere.mpr (.inl ⟨c, hc, by simp [LedgerConflict.openAs, hid, hopen], rfl⟩)
  exact hunique.find?_eq hmem

/-- A confirmation that finds one conflict, and draws a new identifier, resolves the conflict. -/
theorem confirmPageVariantConflict_succeeds (h : RejectionInv pf db) {latest : LatestPageObservation} {page : RawPage}
    {now : Nat} {c : LedgerConflict} (hrejected : latest.disposition = .REJECTED_VARIANT) (hpage : latest.page = page)
    (hone : db.confirmedConflicts latest page = [c])
    (hfresh : ∀ o ∈ db.operations, o.conflictOperationId ≠ db.entropy db.drawn) :
    confirmPageVariantConflict latest page now db = .ok ((), { db with
      operations := db.operations ++ [confirmation c (db.entropy db.drawn) now]
      conflicts := updateWhere (LedgerConflict.openAs c.conflictId)
        (LedgerConflict.resolved (confirmation c (db.entropy db.drawn) now)) db.conflicts
      drawn := db.drawn + 1 }) := by
  have hfound : c ∈ db.confirmedConflicts latest page := hone ▸ List.mem_singleton_self c
  obtain ⟨hmem, hq⟩ := List.mem_filter.mp hfound
  simp only [Bool.and_eq_true, decide_eq_true_eq] at hq
  obtain ⟨⟨⟨⟨⟨-, hopen⟩, htype⟩, -⟩, -⟩, -⟩ := hq
  have hresolvable : db.conflicts.any (·.resolvableBy (confirmation c (db.entropy db.drawn) now).request) = true :=
    List.any_eq_true.mpr ⟨c, hmem, by simp [LedgerConflict.resolvableBy, confirmation, hopen, htype]⟩
  have hunique : ∀ o ∈ db.operations, o.conflictOperationId ≠ db.entropy db.drawn ∧
      o.operationKey ≠ "system:confirm_variant:" ++ c.conflictId ∧ o.request.conflictId ≠ c.conflictId :=
    fun o ho => ⟨hfresh o ho, h.confirmation_new hmem hopen ho⟩
  have hmonotone : ∀ x ∈ db.conflicts, x.openAs c.conflictId = true → x.createdAt ≤ max now c.createdAt := by
    intro x hx hopenAs
    simp only [LedgerConflict.openAs, Bool.and_eq_true, decide_eq_true_eq] at hopenAs
    rw [h.conflictIds.eq hx hmem hopenAs.1]
    exact le_max_right _ _
  have hinsert : insertConflictOperation (confirmation c (db.entropy db.drawn) now)
      { db with drawn := db.drawn + 1 } = .ok ((), { db with
        operations := db.operations ++ [confirmation c (db.entropy db.drawn) now]
        conflicts := updateWhere (LedgerConflict.openAs c.conflictId)
          (LedgerConflict.resolved (confirmation c (db.entropy db.drawn) now)) db.conflicts
        drawn := db.drawn + 1 }) := by
    simp only [insertConflictOperation, readWith_bind_ok, require_bind_ok, update_ok, id]
    exact ⟨hresolvable, rfl, hunique, hmonotone, rfl⟩
  have hrow := h.confirmed_row hmem hopen (confirmation c (db.entropy db.drawn) now) rfl
  have hrequire : ∀ m : LedgerDb, m.conflicts = updateWhere (LedgerConflict.openAs c.conflictId)
      (LedgerConflict.resolved (confirmation c (db.entropy db.drawn) now)) db.conflicts →
      requireConflict c.conflictId m = .ok (c.resolved (confirmation c (db.entropy db.drawn) now), m) := by
    intro m hm
    simp only [requireConflict, readWith_bind_ok, orFail_ok]
    rw [hm]
    exact ⟨hrow, trivial⟩
  simp only [confirmPageVariantConflict, require_bind_ok, readWith_bind_ok, orFail_bind_ok]
  refine ⟨⟨hrejected, by rw [hpage], by rw [hpage], by rw [hpage]⟩, c, by rw [hone]; rfl, ?_⟩
  refine bind_ok.mpr ⟨db.entropy db.drawn, { db with drawn := db.drawn + 1 }, rfl, ?_⟩
  refine bind_ok.mpr ⟨(), _, hinsert, ?_⟩
  exact bind_ok.mpr ⟨_, _, hrequire _ rfl, require_ok.mpr ⟨⟨rfl, rfl⟩, rfl⟩⟩

/-- The point at which a confirmation is called: the latest answer to the request was rejected, the
    response has its bytes, and the response was stored and observed. -/
structure ReachesConfirmation (pf : LedgerPlatform) (db : LedgerDb) (run : IngestRun) (segment : IngestSegment)
    (page : AccountLogPage) (prepared : PreparedSegmentPage) (request : String) (kind : SegmentObservationKind)
    (latest : LatestPageObservation) (row : RawPage) (m : LedgerDb) : Prop where
  found : db.latestPageObservation run.providerAccountKey request = some latest
  rejected : latest.disposition = .REJECTED_VARIANT
  repeats : latest.page.responseFingerprint = prepared.responseHash
  retained : ∃ m1, retainPage run segment page prepared request
    (db.rawPageByFingerprints run.providerAccountKey request prepared.responseHash) db = .ok (row, m1) ∧
      insertPageObservation run segment row.rawPageId kind prepared .PROCESSED m1 = .ok ((), m)

/-- **A repeated rejection is confirmed.**  Exactly one conflict is found, the open one of that very
    rejection, and it is resolved. -/
theorem confirmation_succeeds (h : RejectionInv pf db) {run : IngestRun} {segment : IngestSegment}
    {page : AccountLogPage} {prepared : PreparedSegmentPage} {request : String} {kind : SegmentObservationKind}
    {latest : LatestPageObservation} {row : RawPage} {m : LedgerDb}
    (hr : ReachesConfirmation pf db run segment page prepared request kind latest row m)
    (hfresh : ∀ o ∈ m.operations, o.conflictOperationId ≠ m.entropy m.drawn) :
    ∃ a c m', Adjacent (db.observationsOf run.providerAccountKey request) a latest ∧
      m.confirmedConflicts latest row = [c] ∧ c.status = .OPEN ∧
      DescribesRejection pf c run.providerAccountKey request a latest ∧
      confirmPageVariantConflict latest row prepared.now m = .ok ((), m') ∧
      ∃ c' ∈ m'.conflicts, c'.conflictId = c.conflictId ∧ c'.status = .RESOLVED := by
  have hlast : (db.observationsOf run.providerAccountKey request).getLast? = some latest :=
    h.observations.latest _ _ ▸ hr.found
  obtain ⟨hlmem, hlaccount, hlrequest, -⟩ := mem_observationsOf (List.mem_of_getLast? hlast)
  obtain ⟨m1, hpage, hobserve⟩ := hr.retained
  -- the page is the one that was rejected
  obtain ⟨rfl, rfl⟩ : row = latest.page ∧ db = m1 := by
    rcases retainPage_ok hpage with ⟨hsome, -, -, rfl⟩ | ⟨hnone, -⟩
    · obtain ⟨hmem, haccount, hrequest, hresponse⟩ := rawPageByFingerprints_some hsome
      refine ⟨h.observations.pageKeys.eq hmem hlmem ?_, rfl⟩
      rw [RawPage.key, RawPage.key, haccount, hrequest, hresponse, hlaccount, hlrequest, hr.repeats]
    · have := List.find?_eq_none.mp hnone latest.page hlmem
      simp [hlaccount, hlrequest, hr.repeats] at this
  obtain ⟨o, ho, hmeq⟩ := insertPageObservation_ok hobserve
  obtain ⟨a, hl⟩ := h.observations.latestRejected hlast hr.rejected
  have hcounts : counts ((db.observationsOf latest.page.providerAccountKey latest.page.requestFingerprint).map
      (·.page.responseFingerprint)) latest.page.responseFingerprint = true := by
    rw [hlaccount, hlrequest, counts_map hlast]
    exact decide_eq_true rfl
  have hm : RejectionInv pf m := hmeq ▸ h.process hlmem ho hcounts
  have hconflicts : m.conflicts = db.conflicts := by rw [hmeq]
  have hof : m.observationsOf run.providerAccountKey request =
      db.observationsOf run.providerAccountKey request ++ [o.joined latest.page] := by
    rw [observationsOf_observe h.observations.pageIds hlmem ho.rawPageId (by rw [hmeq]) (by rw [hmeq]),
      if_pos ⟨hlaccount.symm, hlrequest.symm⟩]
  obtain ⟨c, hc, hone, hopen, hd⟩ := h.confirmed_only hl hconflicts hof (hm.observations.numberedOf _ _)
  refine ⟨a, c, _, hl.adjacent, hone, hopen, hd,
    confirmPageVariantConflict_succeeds hm hr.rejected rfl hone hfresh,
    c.resolved (confirmation c (m.entropy m.drawn) prepared.now), ?_, rfl, rfl⟩
  exact mem_updateWhere.mpr (.inl ⟨c, hconflicts ▸ hc, by simp [LedgerConflict.openAs, hopen], rfl⟩)

/-- **Page variants are confirmed by repetition.**  In every reachable ledger the answers to a request,
    across all runs and segments, were processed just when they were the first or repeated the one
    before; the raw events of a page are none before it is processed as a leaf, and one for each detail
    from then on; the next answer is treated the same way, and rejected with a new open conflict and a
    segment that stays pending; and the confirmation of a repeated rejection always succeeds. -/
theorem page_variants_confirmed (hsha : Function.Injective pf.sha256) (hdb : Runs.Reachable (ledgerStore pf) db) :
    (∀ account request, (db.observationsOf account request).map (·.processed) =
      verdicts ((db.observationsOf account request).map (·.page.rawBody))) ∧
    (∀ p ∈ db.pages, db.storedOrdinals p.rawPageId = db.dueOrdinals p) ∧
    (∀ input entropy result db', recordSegmentPage pf input (db.supplied entropy) = .ok (result, db') →
      ∃ run segment cursor o, PageGuards (db.supplied entropy) input run segment cursor ∧
        RecordsAnswer pf input (db.supplied entropy) result run.providerAccountKey
          (requestFingerprint pf.sha256 run.providerAccountKey segment.windowStart segment.windowEnd 1
            input.page.pageSize) o db') ∧
    (∀ entropy run segment page prepared request kind latest row m,
      ReachesConfirmation pf (db.supplied entropy) run segment page prepared request kind latest row m →
      (∀ o ∈ m.operations, o.conflictOperationId ≠ m.entropy m.drawn) →
      ∃ a c m', Adjacent (db.observationsOf run.providerAccountKey request) a latest ∧
        m.confirmedConflicts latest row = [c] ∧ c.status = .OPEN ∧
        DescribesRejection pf c run.providerAccountKey request a latest ∧
        confirmPageVariantConflict latest row prepared.now m = .ok ((), m') ∧
        ∃ c' ∈ m'.conflicts, c'.conflictId = c.conflictId ∧ c'.status = .RESOLVED) := by
  have h := ProtocolInv.reachable hsha hdb
  have hsupplied : ∀ entropy, ProtocolInv pf (db.supplied entropy) := fun _ => h.same rfl rfl rfl rfl rfl rfl
  refine ⟨h.rejections.observations.bodies hsha, h.events.whole, ?_, ?_⟩
  · intro input entropy result db' hx
    exact (recordSegmentPage_protocol hsha (hsupplied entropy) hx).2
  · intro entropy run segment page prepared request kind latest row m hr hfresh
    exact confirmation_succeeds (hsupplied entropy).rejections hr hfresh

/-! ### A sample of variants

The window of the sample is scanned a second time, and its response differs: it is rejected, and
confirmed when it comes again. -/

/-- The ledger when the sample window was opened again: the run is `300`, its root segment `301`. -/
def sampleReopened : LedgerDb :=
  committed (LedgerOp.run samplePlatform (.startIngestRun { sampleStart with now := 3_000 }))
    (sampleScanned.supplied (sampleUuids 3))

def sampleVariant : RecordSegmentPageInput :=
  { samplePage "301" "other" 0 false [] with ingestRunId := "300", now := 4_000 }

/-- The ledger when the response was rejected. -/
def sampleRejected : LedgerDb :=
  committed (LedgerOp.run samplePlatform (.recordSegmentPage sampleVariant)) (sampleReopened.supplied (sampleUuids 4))

/-- The ledger when it was confirmed. -/
def sampleConfirmed : LedgerDb :=
  committed (LedgerOp.run samplePlatform (.recordSegmentPage sampleVariant)) (sampleRejected.supplied (sampleUuids 5))

theorem sampleConfirmed_reachable : Runs.Reachable (ledgerStore samplePlatform) sampleConfirmed := by
  have h3 : Runs.Reachable (ledgerStore samplePlatform) sampleReopened :=
    reachable_operation sampleScanned_reachable _ _
  have h4 : Runs.Reachable (ledgerStore samplePlatform) sampleRejected := reachable_operation h3 _ _
  exact reachable_operation h4 _ _

/-- The statuses of the conflicts about page variants. -/
def LedgerDb.variantStatuses (db : LedgerDb) : List LedgerConflictStatus :=
  (db.conflicts.filter (·.conflictType = .RAW_PAGE_VARIANT)).map (·.status)

theorem page_variants_confirmed_sample :
    sampleRejected.variantStatuses = [.OPEN] ∧ sampleConfirmed.variantStatuses = [.RESOLVED] ∧
    sampleConfirmed.observations.map (·.disposition) = [.PROCESSED, .REJECTED_VARIANT, .PROCESSED] ∧
    ∀ account request, (sampleConfirmed.observationsOf account request).map (·.processed) =
      verdicts ((sampleConfirmed.observationsOf account request).map (·.page.rawBody)) := by
  have h := page_variants_confirmed Function.injective_id sampleConfirmed_reachable
  have hrun : sampleRejected.variantStatuses = [.OPEN] ∧ sampleConfirmed.variantStatuses = [.RESOLVED] ∧
      sampleConfirmed.observations.map (·.disposition) = [.PROCESSED, .REJECTED_VARIANT, .PROCESSED] := by
    decide +kernel
  exact ⟨hrun.1, hrun.2.1, hrun.2.2, h.1⟩

end PerPay.Ledger
