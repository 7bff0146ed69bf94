/-
  **What a recorded difference refers to.**

  A `DUPLICATE_EXTERNAL_ID` conflict names a raw event and a ledger entry.  The event is stored, its texts parse, and
  its facts are those of the entry in everything but the difference (`Explains`); both can be read again under
  their identifiers as long as the ledger lives (`LedgerDb.conflictDetail_explained`), since the facts of an entry never change.
-/
import PerPay.Ledger.Entries

namespace PerPay.Ledger

open Txn Table

variable {pf : LedgerPlatform} {db db' : LedgerDb}

/-- The event and the entry of a difference, and the facts of the event. -/
structure Explains (db : LedgerDb) (c : LedgerConflict) (raw : RawEvent) (entry : LedgerEntry) (facts : SemanticFacts) :
    Prop where
  raw_mem : raw ∈ db.rawEvents
  raw_id : c.rawEventId = some raw.rawEventId
  entry_mem : entry ∈ db.entries
  entry_id : c.existingLedgerEntryId = some entry.ledgerEntryId
  external : raw.externalEventId = some facts.externalEventId
  normalizes : normalizeFacts raw facts.externalEventId = .ok facts
  same : entry.facts.externalEventId = facts.externalEventId
  differs : entry.facts ≠ facts

structure Explained (db : LedgerDb) : Prop where
  eventIds : UniqueOn RawEvent.rawEventId db.rawEvents
  entryIds : UniqueOn LedgerEntry.ledgerEntryId db.entries
  parsed : ∀ e ∈ db.entries, ∃ raw : RawEvent, normalizeFacts raw e.facts.externalEventId = .ok e.facts
  explained : ∀ c ∈ db.conflicts, c.conflictType = .DUPLICATE_EXTERNAL_ID → ∃ raw entry facts, Explains db c raw entry facts

theorem Explained.empty (h : LedgerDb.Empty db) : Explained db where
  eventIds := by rw [h.rawEvents]; exact uniqueOn_nil _
  entryIds := by rw [h.entries]; exact uniqueOn_nil _
  parsed := by rw [h.entries]; simp
  explained := by rw [h.conflicts]; simp

/-- A step that keeps the two invariants. -/
def Explaining (pf : LedgerPlatform) (db db' : LedgerDb) : Prop :=
  FactInv pf db → Explained db → FactInv pf db' ∧ Explained db'

theorem Explaining.refl (db : LedgerDb) : Explaining pf db db := fun hfacts h => ⟨hfacts, h⟩

theorem Explaining.trans {m : LedgerDb} (h1 : Explaining pf db m) (h2 : Explaining pf m db') : Explaining pf db db' := by
  intro hfacts h
  obtain ⟨hfacts', h'⟩ := h1 hfacts h
  exact h2 hfacts' h'

theorem Explains.framed {c : LedgerConflict} {raw : RawEvent} {entry : LedgerEntry} {facts : SemanticFacts}
    (h : Explains db c raw entry facts) (hraw : raw ∈ db'.rawEvents) (hentry : entry ∈ db'.entries) :
    Explains db' c raw entry facts :=
  ⟨hraw, h.raw_id, hentry, h.entry_id, h.external, h.normalizes, h.same, h.differs⟩

theorem Explaining.of_same (hr : db'.rawEvents = db.rawEvents) (he : db'.entries = db.entries)
    (hc : db'.conflicts = db.conflicts) : Explaining pf db db' := by
  intro hfacts h
  refine ⟨hfacts.framed he hc, hr ▸ h.eventIds, he ▸ h.entryIds, he ▸ h.parsed, ?_⟩
  rw [hc]
  intro c hmem htype
  obtain ⟨raw, entry, facts, hexplains⟩ := h.explained c hmem htype
  exact ⟨raw, entry, facts, hexplains.framed (hr ▸ hexplains.raw_mem) (he ▸ hexplains.entry_mem)⟩

theorem Explaining.framed {m : LedgerDb} (h : Explaining pf m db') (hr : m.rawEvents = db.rawEvents)
    (he : m.entries = db.entries) (hc : m.conflicts = db.conflicts) : Explaining pf db db' :=
  (Explaining.of_same hr he hc).trans h

/-! ## Events -/

theorem insertRawEvent_explaining {providerAccountKey rawPageId : String} {ordinal now : Nat} {detail : AccountLogDetail}
    {prepared : RawEvent × Bool}
    (hx : insertRawEvent pf providerAccountKey rawPageId ordinal detail now db = .ok (prepared, db')) :
    Explaining pf db db' := by
  obtain ⟨-, hfresh, -, rfl⟩ := insertRawEvent_ok hx
  intro hfacts h
  refine ⟨hfacts.framed rfl rfl, h.eventIds.append hfresh, h.entryIds, h.parsed, ?_⟩
  intro c hmem htype
  obtain ⟨raw, entry, facts, hexplains⟩ := h.explained c hmem htype
  exact ⟨raw, entry, facts, hexplains.framed (List.mem_append_left _ hexplains.raw_mem) hexplains.entry_mem⟩

/-- A new conflict, once it is explained if it is a difference. -/
theorem insertConflict_explaining {input : InsertConflictInput} {c : LedgerConflict}
    (hprogress : Progress pf db db') (hx : insertConflict pf input db = .ok (c, db'))
    (hinput : FactInv pf db → input.conflictType = .DUPLICATE_EXTERNAL_ID → ∃ raw entry facts,
      ∀ id fingerprint, Explains db (input.row id fingerprint) raw entry facts) : Explaining pf db db' := by
  intro hfacts h
  refine ⟨(hprogress hfacts).1, ?_⟩
  rcases insertConflict_ok hx with ⟨-, rfl⟩ | ⟨-, rfl, -, rfl⟩
  · exact h
  · refine ⟨h.eventIds, h.entryIds, h.parsed, ?_⟩
    intro c hmem htype
    rcases List.mem_append.mp hmem with hmem | hmem
    · obtain ⟨raw, entry, facts, hexplains⟩ := h.explained c hmem htype
      exact ⟨raw, entry, facts, hexplains.framed hexplains.raw_mem hexplains.entry_mem⟩
    · obtain rfl := List.mem_singleton.mp hmem
      obtain ⟨raw, entry, facts, hexplains⟩ := hinput hfacts htype
      have hrow := hexplains (db.entropy db.drawn) (conflictFingerprint pf.sha256 input.fingerprintParts)
      exact ⟨raw, entry, facts, hrow.framed hrow.raw_mem hrow.entry_mem⟩

/-- What `eventFacts` says of the event. -/
theorem eventFacts_some {prepared : RawEvent × Bool} {facts : SemanticFacts} (h : eventFacts prepared = some facts) :
    prepared.1.externalEventId = some facts.externalEventId ∧
      normalizeFacts prepared.1 facts.externalEventId = .ok facts := by
  unfold eventFacts at h
  split at h
  · exact nomatch h
  · obtain ⟨externalEventId, hid, hfacts⟩ := Option.bind_eq_some_iff.mp h
    cases hnormal : normalizeFacts prepared.1 externalEventId with
    | error e => exact nomatch (congrArg Except.toOption hnormal).symm.trans hfacts
    | ok normal =>
      rw [hnormal] at hfacts
      obtain rfl : normal = facts := Option.some.inj hfacts
      have hexternal : normal.externalEventId = externalEventId := by
        obtain ⟨occurrence, -, hrest⟩ := except_bind_ok.mp hnormal
        obtain ⟨amount, -, hrest⟩ := except_bind_ok.mp hrest
        obtain ⟨direction, -, hrest⟩ := except_bind_ok.mp hrest
        obtain rfl := Except.ok.inj hrest
        rfl
      rw [hexternal]
      exact ⟨hid, hnormal⟩

theorem recordFacts_explaining {prepared : RawEvent × Bool} {facts : SemanticFacts} {now : Nat} {r : PageNormalizationResult}
    (hraw : prepared.1 ∈ db.rawEvents) (hfacts : eventFacts prepared = some facts)
    (hx : recordFacts pf prepared.1 facts now db = .ok (r, db')) : Explaining pf db db' := by
  obtain ⟨hexternal, hnormal⟩ := eventFacts_some hfacts
  have hprogress : Progress pf db db' := recordFacts_progress hx
  rcases recordFacts_ok hx with ⟨existing, hexisting, h⟩ | ⟨-, h⟩
  · obtain ⟨hmem, -, hsame⟩ := entryByExternalId_some hexisting
    rcases compareWithEntry_ok h with ⟨-, -, -, rfl⟩ | ⟨hdiffers, c, details, -, hc⟩
    · exact .refl _
    · refine insertConflict_explaining hprogress hc fun hinv _ => ⟨prepared.1, existing, facts, fun id fingerprint => ?_⟩
      refine ⟨hraw, rfl, hmem, rfl, hexternal, hnormal, hsame, ?_⟩
      intro heq
      exact hdiffers ⟨by rw [hinv.fingerprints existing hmem, heq], by rw [heq]⟩
  · obtain ⟨e, -, he, -, -, -, -, -, hnew, -, rfl⟩ := insertLedgerEntry_ok h
    intro hinv hexplained
    refine ⟨(hprogress hinv).1, hexplained.eventIds, hexplained.entryIds.append fun x hx => (hnew x hx).1, ?_, ?_⟩
    · intro x hmem
      rcases List.mem_append.mp hmem with hmem | hmem
      · exact hexplained.parsed x hmem
      · obtain rfl := List.mem_singleton.mp hmem
        exact ⟨prepared.1, he ▸ hnormal⟩
    · intro c hmem htype
      obtain ⟨raw, entry, facts, hexplains⟩ := hexplained.explained c hmem htype
      exact ⟨raw, entry, facts, hexplains.framed hexplains.raw_mem (List.mem_append_left _ hexplains.entry_mem)⟩

theorem recordDetail_explaining {run : IngestRun} {rawPageId : String} {now : Nat} {detail : AccountLogDetail × Nat}
    {r : PageNormalizationResult} (hx : recordDetail pf run rawPageId now detail db = .ok (r, db')) :
    Explaining pf db db' := by
  obtain ⟨prepared, m, hp, hn⟩ := recordDetail_ok hx
  refine (insertRawEvent_explaining hp).trans ?_
  obtain ⟨-, -, -, rfl⟩ := insertRawEvent_ok hp
  have hprogress := normalizeAndInsert_progress hn
  rcases normalizeAndInsert_ok hn with ⟨-, _, _, _, htype, -, h⟩ | ⟨facts, hfacts, h⟩
  · obtain ⟨c, -, input, -, hinput, -, hc⟩ := insertNormalizationConflict_ok h
    exact insertConflict_explaining hprogress hc fun _ hdifference => absurd (hinput.symm.trans hdifference) htype
  · exact recordFacts_explaining (List.mem_append_right _ List.mem_cons_self) hfacts h

/-! ## Operations -/

/-- Resolving a conflict does not touch what it refers to. -/
theorem Explaining.of_resolved {operation : ConflictOperation} (hr : db'.rawEvents = db.rawEvents)
    (he : db'.entries = db.entries)
    (hc : db'.conflicts = updateWhere (LedgerConflict.openAs operation.request.conflictId)
      (LedgerConflict.resolved operation) db.conflicts) : Explaining pf db db' := by
  intro hfacts h
  refine ⟨((Progress.of_resolved he hc) hfacts).1, hr ▸ h.eventIds, he ▸ h.entryIds, he ▸ h.parsed, ?_⟩
  rw [hc]
  intro c hmem htype
  rcases mem_updateWhere.mp hmem with ⟨c0, h0, -, rfl⟩ | ⟨h0, -⟩
  · obtain ⟨raw, entry, facts, hexplains⟩ := h.explained c0 h0 htype
    exact ⟨raw, entry, facts, hr ▸ hexplains.raw_mem, hexplains.raw_id, he ▸ hexplains.entry_mem, hexplains.entry_id,
      hexplains.external, hexplains.normalizes, hexplains.same, hexplains.differs⟩
  · obtain ⟨raw, entry, facts, hexplains⟩ := h.explained c h0 htype
    exact ⟨raw, entry, facts, hexplains.framed (hr ▸ hexplains.raw_mem) (he ▸ hexplains.entry_mem)⟩

theorem retainSegmentPage_explaining {run : IngestRun} {segment : IngestSegment} {page : AccountLogPage}
    {prepared : PreparedSegmentPage} {kind : SegmentObservationKind} {retained : RetainedSegmentPage}
    (hx : retainSegmentPage pf run segment page prepared kind db = .ok (retained, db')) : Explaining pf db db' := by
  obtain ⟨requestHash, latest, existingExact, row, m, -, -, -, hrow, hx⟩ := retainSegmentPage_ok hx
  have hm : Explaining pf db m := by
    rcases retainPage_ok hrow with ⟨-, -, -, rfl⟩ | ⟨-, -, -, -, rfl⟩
    · exact .refl _
    · exact .of_same rfl rfl rfl
  refine hm.trans ?_
  rcases compareWithLatest_ok hx with ⟨-, h⟩ | ⟨l, -, -, h⟩ | ⟨l, -, -, h⟩
  · obtain ⟨-, -, o, -, rfl⟩ := retainFirst_ok h
    exact .of_same rfl rfl rfl
  · obtain ⟨-, c, m', o, hc, -, rfl⟩ := retainVariant_ok h
    have hprogress : Progress pf m m' := by
      refine insertConflict_progress (fun _ => ⟨⟨_, rfl⟩, fun htype => ?_⟩) hc
      cases htype
    refine Explaining.trans (insertConflict_explaining hprogress hc fun _ htype => ?_) (.of_same rfl rfl rfl)
    cases htype
  · obtain ⟨-, _, -, -, -, o, u, -, hconfirm⟩ := retainRepeated_ok h
    rcases confirmIfRejected_ok hconfirm with ⟨-, rfl⟩ | ⟨-, h'⟩
    · exact .of_same rfl rfl rfl
    · obtain ⟨c, -, rfl⟩ := confirmPageVariantConflict_ok h'
      exact @Explaining.of_resolved _ _ _ (confirmation c _ _) rfl rfl rfl

theorem completeIfDone_rows {run : IngestRun} {cursor : LedgerCursor} {rootCompleted : Bool} {now : Nat} {u : Unit}
    (hx : completeIfDone run cursor rootCompleted now db = .ok (u, db')) : Explaining pf db db' := by
  rcases completeIfDone_ok hx with ⟨-, rfl⟩ | ⟨-, h⟩
  · exact .refl _
  · obtain ⟨-, compensation, rfl⟩ := completeSegmentRun_ok h
    exact .of_same rfl rfl rfl

theorem finishPage_explaining {run : IngestRun} {segment : IngestSegment} {cursor : LedgerCursor}
    {page : AccountLogPage} {retained : RetainedSegmentPage} {now interval : Nat} {result : RecordSegmentPageResult}
    (hx : finishPage pf run segment cursor page retained now interval db = .ok (result, db')) : Explaining pf db db' := by
  rcases finishPage_ok hx with ⟨-, -, u, h⟩ | ⟨-, -, h⟩ | ⟨-, -, h⟩
  · obtain ⟨_, _, _, _, -, rfl⟩ := failPaginationVariant_ok h
    exact .of_same rfl rfl rfl
  · rcases recordProbe_ok h with ⟨-, -, _, _, _, rfl⟩ | ⟨_, -, _, _, _, -, -, rfl⟩ <;>
      exact .of_same rfl rfl rfl
  · obtain ⟨schedules, rs, m, hdetails, done, u, -, m', rfl, -, hdone⟩ := acceptLeaf_ok h
    have hm : Explaining pf { db with schedules } m := by
      rcases recordDetails_ok hdetails with ⟨-, hc⟩ | ⟨-, -, -, rfl⟩
      · exact hc.relates Explaining.refl Explaining.trans fun hstep => recordDetail_explaining hstep
      · exact .refl _
    exact (hm.trans ((completeIfDone_rows hdone).framed rfl rfl rfl)).framed rfl rfl rfl

theorem setEntryState_explaining {ledgerEntryId : String} {state : LedgerEntryState} {updatedAt : Nat} {u : Unit}
    (hx : setEntryState ledgerEntryId state updatedAt db = .ok (u, db')) : Explaining pf db db' := by
  have hprogress : Progress pf db db' := setEntryState_progress hx
  obtain rfl := setEntryState_ok hx
  intro hfacts h
  refine ⟨(hprogress hfacts).1, h.eventIds, h.entryIds.updateWhere fun _ _ => rfl, ?_, ?_⟩
  · intro e hmem
    rcases mem_updateWhere.mp hmem with ⟨e0, h0, -, rfl⟩ | ⟨h0, -⟩
    · exact h.parsed e0 h0
    · exact h.parsed e h0
  · intro c hmem htype
    obtain ⟨raw, entry, facts, hexplains⟩ := h.explained c hmem htype
    by_cases hid : entry.ledgerEntryId = ledgerEntryId
    · refine ⟨raw, { entry with state, updatedAt }, facts, hexplains.raw_mem, hexplains.raw_id, ?_, hexplains.entry_id,
        hexplains.external, hexplains.normalizes, hexplains.same, hexplains.differs⟩
      exact mem_updateWhere.mpr (.inl ⟨entry, hexplains.entry_mem, decide_eq_true hid, rfl⟩)
    · refine ⟨raw, entry, facts, hexplains.framed hexplains.raw_mem ?_⟩
      exact mem_updateWhere.mpr (.inr ⟨hexplains.entry_mem, decide_eq_false hid⟩)

theorem LedgerOp.run_explaining {op : LedgerOp} {u : Unit} (hx : op.run pf db = .ok (u, db')) : Explaining pf db db' := by
  cases op with
  | startIngestRun input =>
    obtain ⟨run, m, h, hp⟩ := bind_ok.mp hx
    obtain ⟨-, rfl⟩ := pure_ok.mp hp
    obtain ⟨p, m, -, ⟨-, -, rfl⟩ | ⟨-, ⟨_, _, _, -, -, -, -, -, -, rfl⟩⟩⟩ := startIngestRun_ok h
    · exact .refl _
    · exact .of_same rfl rfl rfl
  | recordSegmentPage input =>
    obtain ⟨result, m, h, hp⟩ := bind_ok.mp hx
    obtain ⟨-, rfl⟩ := pure_ok.mp hp
    obtain ⟨run, segment, cursor, prepared, retained, m, interval, -, -, -, hretain, hfinish⟩ := recordSegmentPage_ok h
    exact (retainSegmentPage_explaining hretain).trans (finishPage_explaining hfinish)
  | completeIngestRun input =>
    rcases completeIngestRun_ok hx with rfl | ⟨_, _, _, _, -, -, -, -, _, rfl⟩
    · exact .refl _
    · exact .of_same rfl rfl rfl
  | recordIngestError input =>
    obtain ⟨_, _, _, -, -, -, -, ⟨-, _, _, _, rfl⟩ | ⟨-, _, _, _, rfl⟩⟩ := recordIngestError_ok hx <;>
      exact .of_same rfl rfl rfl
  | markIngestBatchYield ingestRunId now =>
    rcases markIngestBatchYield_ok hx with rfl | ⟨_, _, _, -, -, -, rfl⟩
    · exact .refl _
    · exact .of_same rfl rfl rfl
  | resolveConflict input =>
    rcases resolveConflict_ok hx with rfl | ⟨operation, c, -, -, -, -, -, h⟩
    · exact .refl _
    · obtain ⟨-, -, rfl⟩ := insertConflictOperation_ok h
      exact .of_resolved rfl rfl rfl
  | setEntryState ledgerEntryId state updatedAt => exact setEntryState_explaining hx
  | configure configuration =>
    simp only [LedgerOp.run, update_ok] at hx
    subst hx
    exact .of_same rfl rfl rfl

theorem ledgerStore_explaining {l : LedgerOp × (Nat → String)} (hs : (ledgerStore pf).step db l db') : Explaining pf db db' := by
  rw [show db' = committed (l.1.run pf) (db.supplied l.2) from hs]
  rcases committed_cases (l.1.run pf) (db.supplied l.2) with ⟨u, hx⟩ | ⟨-, hx⟩
  · exact (LedgerOp.run_explaining hx).framed rfl rfl rfl
  · rw [hx]
    exact .of_same rfl rfl rfl

theorem Explained.reachable (h : Runs.Reachable (ledgerStore pf) db) : Explained db := by
  refine (h.invariant (I := fun db => FactInv pf db ∧ Explained db) ?_ ?_).2
  · exact fun _ h0 => ⟨.empty h0, .empty h0⟩
  · exact fun _ _ _ hinv hs => ledgerStore_explaining hs hinv.1 hinv.2

/-! ## The detail of a conflict -/

structure LedgerConflictDetail where
  conflict : LedgerConflict
  incomingEvent : Option RawEvent
  existingLedgerEntry : Option LedgerEntry
  deriving DecidableEq, Repr

/-- `readConflictDetail`, as far as the event and the entry go. -/
def LedgerDb.conflictDetail (db : LedgerDb) (conflict : LedgerConflict) : LedgerConflictDetail where
  conflict := conflict
  incomingEvent := conflict.rawEventId.bind fun id => db.rawEvents.find? fun e => e.rawEventId = id
  existingLedgerEntry := conflict.existingLedgerEntryId.bind fun id => db.entries.find? fun e => e.ledgerEntryId = id

theorem LedgerDb.conflictDetail_explained {c : LedgerConflict} {raw : RawEvent} {entry : LedgerEntry} {facts : SemanticFacts}
    (h : Explained db) (hc : Explains db c raw entry facts) : db.conflictDetail c = ⟨c, some raw, some entry⟩ := by
  have hevent : (db.rawEvents.find? fun e => e.rawEventId = raw.rawEventId) = some raw := h.eventIds.find?_eq hc.raw_mem
  have hentry : (db.entries.find? fun e => e.ledgerEntryId = entry.ledgerEntryId) = some entry :=
    h.entryIds.find?_eq hc.entry_mem
  unfold conflictDetail
  rw [hc.raw_id, hc.entry_id, Option.bind_some, Option.bind_some, hevent, hentry]

end PerPay.Ledger
