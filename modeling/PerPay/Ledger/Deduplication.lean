/-
  **One entry for each event** — a provider event becomes at most one ledger entry, whose facts never
  change, and at most one open question about each way in which it was told differently.

  Windows overlap, and a compensation scans again what a normal scan has read; so an event arrives
  many times, in texts that differ in blanks, signs, fractions and offsets.  Its FACTS are the normal
  form of its texts.  `FactInv` is what every statement keeps:

  1. the account and the external id determine the entry;
  2. the semantic fingerprint of an entry is the fingerprint of its facts, so comparing fingerprints
     is comparing facts;
  3. the account and the fingerprint determine the conflict, the fingerprint begins with the type of
     the conflict, and that of a difference is made of the two facts that differ.

  `Extends` is what every statement keeps of the past: entries and conflicts stay, with everything but
  their state.
-/
import PerPay.Ledger.Operations

namespace PerPay.Ledger

open Txn Table

variable {pf : LedgerPlatform} {db db' : LedgerDb}

/-! ## What never changes -/

/-- An entry without its state. -/
def LedgerEntry.frozen (e : LedgerEntry) : LedgerEntry := { e with state := .UNALLOCATED, updatedAt := 0 }

/-- A conflict without its resolution. -/
def LedgerConflict.evidence (c : LedgerConflict) : LedgerConflict :=
  { c with status := .OPEN, resolutionOperationId := none, resolvedAt := none }

/-- The later ledger has all entries and conflicts of the earlier one, in the same order, and perhaps
    more behind them. -/
structure Extends (db db' : LedgerDb) : Prop where
  entries : db.entries.map LedgerEntry.frozen <+: db'.entries.map LedgerEntry.frozen
  conflicts : db.conflicts.map LedgerConflict.evidence <+: db'.conflicts.map LedgerConflict.evidence

theorem Extends.refl (db : LedgerDb) : Extends db db := ⟨List.prefix_rfl, List.prefix_rfl⟩

theorem Extends.of_eq (he : db'.entries.map LedgerEntry.frozen = db.entries.map LedgerEntry.frozen)
    (hc : db'.conflicts.map LedgerConflict.evidence = db.conflicts.map LedgerConflict.evidence) : Extends db db' :=
  ⟨he ▸ List.prefix_rfl, hc ▸ List.prefix_rfl⟩

theorem Extends.trans {m : LedgerDb} (h1 : Extends db m) (h2 : Extends m db') : Extends db db' :=
  ⟨h1.entries.trans h2.entries, h1.conflicts.trans h2.conflicts⟩

/-! ## The invariant -/

/-- The external event of an entry, within its account. -/
def LedgerEntry.key (e : LedgerEntry) : String × String := (e.providerAccountKey, e.facts.externalEventId)

def LedgerConflict.key (c : LedgerConflict) : String × String := (c.providerAccountKey, c.conflictFingerprint)

/-- The conflict records that an event came with the facts `G` when its entry had the facts `F`. -/
structure Records (pf : LedgerPlatform) (c : LedgerConflict) (F G : SemanticFacts) : Prop where
  externalEventId : c.externalEventId = some G.externalEventId
  existing : c.existingSemanticFingerprint = some (semanticFingerprint pf.sha256 F)
  incoming : c.incomingSemanticFingerprint = some (semanticFingerprint pf.sha256 G)
  fingerprint : c.conflictFingerprint = conflictFingerprint pf.sha256
    [.text "DUPLICATE_EXTERNAL_ID".toList, .text G.externalEventId.toList,
      .text (semanticFingerprint pf.sha256 F).toList, .text (semanticFingerprint pf.sha256 G).toList,
      .num F.occurredAtPrecisionMilliseconds, .num G.occurredAtPrecisionMilliseconds]

structure FactInv (pf : LedgerPlatform) (db : LedgerDb) : Prop where
  keys : UniqueOn LedgerEntry.key db.entries
  fingerprints : ∀ e ∈ db.entries, e.semanticFingerprint = semanticFingerprint pf.sha256 e.facts
  conflictKeys : UniqueOn LedgerConflict.key db.conflicts
  tagged : ∀ c ∈ db.conflicts, ∃ parts,
    c.conflictFingerprint = conflictFingerprint pf.sha256 (.text c.conflictType.name.toList :: parts)
  differences : ∀ c ∈ db.conflicts, c.conflictType = .DUPLICATE_EXTERNAL_ID → ∃ F G, Records pf c F G

theorem FactInv.empty (h : LedgerDb.Empty db) : FactInv pf db where
  keys := by rw [h.entries]; exact uniqueOn_nil _
  fingerprints := by rw [h.entries]; simp
  conflictKeys := by rw [h.conflicts]; exact uniqueOn_nil _
  tagged := by rw [h.conflicts]; simp
  differences := by rw [h.conflicts]; simp

/-- The invariant is about two tables only. -/
theorem FactInv.framed (h : FactInv pf db) (he : db'.entries = db.entries) (hc : db'.conflicts = db.conflicts) :
    FactInv pf db' :=
  ⟨he ▸ h.keys, he ▸ h.fingerprints, hc ▸ h.conflictKeys, hc ▸ h.tagged, hc ▸ h.differences⟩

/-- A step that keeps the invariant and the past. -/
def Progress (pf : LedgerPlatform) (db db' : LedgerDb) : Prop :=
  FactInv pf db → FactInv pf db' ∧ Extends db db'

theorem Progress.refl (db : LedgerDb) : Progress pf db db := fun h => ⟨h, .refl db⟩

theorem Progress.trans {m : LedgerDb} (h1 : Progress pf db m) (h2 : Progress pf m db') : Progress pf db db' := by
  intro h
  obtain ⟨hm, he⟩ := h1 h
  obtain ⟨hm', he'⟩ := h2 hm
  exact ⟨hm', he.trans he'⟩

/-- Neither the invariant nor the past sees the other tables. -/
theorem Progress.of_same (he : db'.entries = db.entries) (hc : db'.conflicts = db.conflicts) : Progress pf db db' := by
  intro h
  exact ⟨h.framed he hc, .of_eq (by rw [he]) (by rw [hc])⟩

theorem Progress.framed {m : LedgerDb} (h : Progress pf m db') (he : m.entries = db.entries)
    (hc : m.conflicts = db.conflicts) : Progress pf db db' :=
  (Progress.of_same he hc).trans h

/-! ## Conflicts -/

/-- The conflict to be inserted says in its fingerprint what it is about. -/
structure InsertConflictInput.Describes (pf : LedgerPlatform) (input : InsertConflictInput) : Prop where
  tagged : ∃ parts, input.fingerprintParts = .text input.conflictType.name.toList :: parts
  difference : input.conflictType = .DUPLICATE_EXTERNAL_ID →
    ∃ F G, ∀ id, Records pf (input.row id (conflictFingerprint pf.sha256 input.fingerprintParts)) F G

theorem conflictWith_some {providerAccountKey fingerprint : String} {c : LedgerConflict}
    (h : db.conflictWith providerAccountKey fingerprint = some c) :
    c ∈ db.conflicts ∧ c.providerAccountKey = providerAccountKey ∧ c.conflictFingerprint = fingerprint := by
  have hp := List.find?_some h
  simp only [Bool.and_eq_true, decide_eq_true_eq] at hp
  exact ⟨List.mem_of_find?_eq_some h, hp.1, hp.2⟩

theorem conflictWith_none {providerAccountKey fingerprint : String}
    (h : db.conflictWith providerAccountKey fingerprint = none) {c : LedgerConflict} (hc : c ∈ db.conflicts) :
    c.key ≠ (providerAccountKey, fingerprint) := by
  intro hk
  have hp := List.find?_eq_none.mp h c hc
  rw [LedgerConflict.key, Prod.mk.injEq] at hk
  simp [hk.1, hk.2] at hp

theorem insertConflict_progress {input : InsertConflictInput} {c : LedgerConflict}
    (hinput : FactInv pf db → input.Describes pf) (hx : insertConflict pf input db = .ok (c, db')) :
    Progress pf db db' := by
  rcases insertConflict_ok hx with ⟨-, rfl⟩ | ⟨hnone, rfl, -, rfl⟩
  · exact .refl _
  intro h
  refine ⟨⟨h.keys, h.fingerprints, ?_, ?_, ?_⟩, List.prefix_rfl, ?_⟩
  · exact h.conflictKeys.append fun x hx => conflictWith_none hnone hx
  · intro c hc
    rcases List.mem_append.mp hc with hc | hc
    · exact h.tagged c hc
    · rw [List.mem_singleton.mp hc]
      obtain ⟨parts, hparts⟩ := (hinput h).tagged
      exact ⟨parts, congrArg (conflictFingerprint pf.sha256) hparts⟩
  · intro c hc
    rcases List.mem_append.mp hc with hc | hc
    · exact h.differences c hc
    · rw [List.mem_singleton.mp hc]
      intro htype
      obtain ⟨F, G, hr⟩ := (hinput h).difference htype
      exact ⟨F, G, hr _⟩
  · rw [List.map_append]
    exact List.prefix_append _ _

/-- Resolving a conflict changes nothing but its resolution. -/
theorem Progress.of_resolved {operation : ConflictOperation} (he : db'.entries = db.entries)
    (hc : db'.conflicts = updateWhere (LedgerConflict.openAs operation.request.conflictId)
      (LedgerConflict.resolved operation) db.conflicts) : Progress pf db db' := by
  intro h
  refine ⟨⟨he ▸ h.keys, he ▸ h.fingerprints, ?_, ?_, ?_⟩, .of_eq (by rw [he]) ?_⟩
  · rw [hc]
    exact h.conflictKeys.updateWhere fun _ _ => rfl
  · rw [hc]
    intro c hmem
    rcases mem_updateWhere.mp hmem with ⟨c0, h0, -, rfl⟩ | ⟨h0, -⟩
    · exact h.tagged c0 h0
    · exact h.tagged c h0
  · rw [hc]
    intro c hmem
    rcases mem_updateWhere.mp hmem with ⟨c0, h0, -, rfl⟩ | ⟨h0, -⟩
    · intro htype
      obtain ⟨F, G, hr⟩ := h.differences c0 h0 htype
      exact ⟨F, G, hr.1, hr.2, hr.3, hr.4⟩
    · exact h.differences c h0
  · rw [hc, map_updateWhere (p := LedgerConflict.openAs operation.request.conflictId)
      (f := LedgerConflict.resolved operation) (g := LedgerConflict.evidence) fun _ _ => rfl]

/-! ## Events -/

theorem entryByExternalId_some {providerAccountKey externalEventId : String} {e : LedgerEntry}
    (h : db.entryByExternalId providerAccountKey externalEventId = some e) :
    e ∈ db.entries ∧ e.providerAccountKey = providerAccountKey ∧ e.facts.externalEventId = externalEventId := by
  have hp := List.find?_some h
  simp only [Bool.and_eq_true, decide_eq_true_eq] at hp
  exact ⟨List.mem_of_find?_eq_some h, hp.1, hp.2⟩

theorem differenceInput_describes {rawEvent : RawEvent} {existing : LedgerEntry} {facts : SemanticFacts}
    {details : ConflictDetails} {now : Nat} (h : FactInv pf db)
    (hex : db.entryByExternalId rawEvent.providerAccountKey facts.externalEventId = some existing) :
    (differenceInput rawEvent existing facts (semanticFingerprint pf.sha256 facts) details now).Describes pf := by
  obtain ⟨hmem, -, -⟩ := entryByExternalId_some hex
  have hfp := h.fingerprints existing hmem
  refine ⟨⟨_, rfl⟩, fun _ => ⟨existing.facts, facts, fun id => ⟨rfl, ?_, rfl, ?_⟩⟩⟩
  · show some existing.semanticFingerprint = _
    rw [hfp]
  · show conflictFingerprint pf.sha256 (differenceParts existing facts _) = _
    rw [differenceParts, hfp]

theorem insertNormalizationConflict_progress {rawEvent : RawEvent} {type : LedgerConflictType}
    {externalEventId : Option String} {reason : String} {now : Nat} {r : PageNormalizationResult}
    (htype : type ≠ .DUPLICATE_EXTERNAL_ID)
    (hx : insertNormalizationConflict pf rawEvent type externalEventId reason now db = .ok (r, db')) :
    Progress pf db db' := by
  obtain ⟨c, -, input, -, rfl, hparts, hc⟩ := insertNormalizationConflict_ok hx
  exact insertConflict_progress (fun _ => ⟨hparts, fun h => absurd h htype⟩) hc

theorem insertLedgerEntry_progress {rawEvent : RawEvent} {facts : SemanticFacts} {now : Nat}
    {r : PageNormalizationResult}
    (hx : insertLedgerEntry rawEvent facts (semanticFingerprint pf.sha256 facts) now db = .ok (r, db')) :
    Progress pf db db' := by
  obtain ⟨e, -, hfacts, hfp, -, -, -, -, -, hkey, rfl⟩ := insertLedgerEntry_ok hx
  intro h
  refine ⟨⟨?_, ?_, h.conflictKeys, h.tagged, h.differences⟩, ?_, List.prefix_rfl⟩
  · exact h.keys.append fun x hx hk => hkey x hx ⟨(Prod.mk.inj hk).1, (Prod.mk.inj hk).2⟩
  · intro x hx
    rcases List.mem_append.mp hx with hx | hx
    · exact h.fingerprints x hx
    · rw [List.mem_singleton.mp hx, hfp, hfacts]
  · rw [List.map_append]
    exact List.prefix_append _ _

theorem recordFacts_progress {rawEvent : RawEvent} {facts : SemanticFacts} {now : Nat} {r : PageNormalizationResult}
    (hx : recordFacts pf rawEvent facts now db = .ok (r, db')) : Progress pf db db' := by
  rcases recordFacts_ok hx with ⟨existing, hex, h⟩ | ⟨-, h⟩
  · rcases compareWithEntry_ok h with ⟨-, -, -, rfl⟩ | ⟨-, c, details, -, hc⟩
    · exact .refl _
    · exact insertConflict_progress (fun hinv => differenceInput_describes hinv hex) hc
  · exact insertLedgerEntry_progress h

theorem normalizeAndInsert_progress {prepared : RawEvent × Bool} {now : Nat} {r : PageNormalizationResult}
    (hx : normalizeAndInsert pf prepared now db = .ok (r, db')) : Progress pf db db' := by
  rcases normalizeAndInsert_ok hx with ⟨-, _, _, _, htype, -, h⟩ | ⟨facts, -, h⟩
  · exact insertNormalizationConflict_progress htype h
  · exact recordFacts_progress h

theorem recordDetail_progress {run : IngestRun} {rawPageId : String} {now : Nat} {detail : AccountLogDetail × Nat}
    {r : PageNormalizationResult} (hx : recordDetail pf run rawPageId now detail db = .ok (r, db')) :
    Progress pf db db' := by
  obtain ⟨prepared, m, hp, hn⟩ := recordDetail_ok hx
  obtain ⟨-, -, -, rfl⟩ := insertRawEvent_ok hp
  exact (normalizeAndInsert_progress hn).framed rfl rfl

/-! ## Operations -/

theorem retainSegmentPage_progress {run : IngestRun} {segment : IngestSegment} {page : AccountLogPage}
    {prepared : PreparedSegmentPage} {kind : SegmentObservationKind} {retained : RetainedSegmentPage}
    (hx : retainSegmentPage pf run segment page prepared kind db = .ok (retained, db')) :
    Progress pf db db' ∧ db'.entries = db.entries := by
  obtain ⟨requestHash, latest, existingExact, row, m, -, -, -, hrow, hx⟩ := retainSegmentPage_ok hx
  have hentries : db'.entries = db.entries := by
    obtain ⟨_, _, _, _, _, -, rfl⟩ := (retainSegmentPage_retains ‹_›).1
    rfl
  refine ⟨?_, hentries⟩
  have hm : Progress pf db m := by
    rcases retainPage_ok hrow with ⟨-, -, -, rfl⟩ | ⟨-, -, -, -, rfl⟩
    · exact .refl _
    · exact .of_same rfl rfl
  refine hm.trans ?_
  rcases compareWithLatest_ok hx with ⟨-, h⟩ | ⟨l, -, -, h⟩ | ⟨l, -, -, h⟩
  · obtain ⟨-, -, o, -, rfl⟩ := retainFirst_ok h
    exact .of_same rfl rfl
  · obtain ⟨-, c, m', o, hc, -, rfl⟩ := retainVariant_ok h
    refine Progress.trans (insertConflict_progress (fun _ => ⟨⟨_, rfl⟩, fun htype => ?_⟩) hc) (.of_same rfl rfl)
    cases htype
  · obtain ⟨-, _, -, -, -, o, u, -, hconfirm⟩ := retainRepeated_ok h
    rcases confirmIfRejected_ok hconfirm with ⟨-, rfl⟩ | ⟨-, h'⟩
    · exact .of_same rfl rfl
    · obtain ⟨c, -, rfl⟩ := confirmPageVariantConflict_ok h'
      exact @Progress.of_resolved _ _ _ (confirmation c _ _) rfl rfl

theorem completeIfDone_progress {run : IngestRun} {cursor : LedgerCursor} {rootCompleted : Bool} {now : Nat} {u : Unit}
    (hx : completeIfDone run cursor rootCompleted now db = .ok (u, db')) :
    db'.entries = db.entries ∧ db'.conflicts = db.conflicts := by
  rcases completeIfDone_ok hx with ⟨-, rfl⟩ | ⟨-, h⟩
  · exact ⟨rfl, rfl⟩
  · obtain ⟨-, compensation, rfl⟩ := completeSegmentRun_ok h
    exact ⟨rfl, rfl⟩

theorem finishPage_progress {run : IngestRun} {segment : IngestSegment} {cursor : LedgerCursor}
    {page : AccountLogPage} {retained : RetainedSegmentPage} {now interval : Nat}
    {result : RecordSegmentPageResult}
    (hx : finishPage pf run segment cursor page retained now interval db = .ok (result, db')) :
    Progress pf db db' := by
  rcases finishPage_ok hx with ⟨-, -, u, h⟩ | ⟨-, -, h⟩ | ⟨-, -, h⟩
  · obtain ⟨_, _, _, _, -, rfl⟩ := failPaginationVariant_ok h
    exact .of_same rfl rfl
  · rcases recordProbe_ok h with ⟨-, -, _, _, _, rfl⟩ | ⟨_, -, _, _, _, -, -, rfl⟩ <;>
      exact .of_same rfl rfl
  · obtain ⟨schedules, rs, m, hdetails, done, u, -, m', rfl, -, hdone⟩ := acceptLeaf_ok h
    have hm : Progress pf { db with schedules } m := by
      rcases recordDetails_ok hdetails with ⟨-, hc⟩ | ⟨-, -, -, rfl⟩
      · exact hc.relates Progress.refl Progress.trans fun hstep => recordDetail_progress hstep
      · exact .refl _
    obtain ⟨he, hc⟩ := completeIfDone_progress hdone
    exact (hm.trans (.of_same he hc)).framed rfl rfl

theorem recordSegmentPage_progress {input : RecordSegmentPageInput} {result : RecordSegmentPageResult}
    (hx : recordSegmentPage pf input db = .ok (result, db')) : Progress pf db db' := by
  obtain ⟨run, segment, cursor, prepared, retained, m, interval, -, -, -, hretain, hfinish⟩ :=
    recordSegmentPage_ok hx
  exact (retainSegmentPage_progress hretain).1.trans (finishPage_progress hfinish)

theorem startIngestRun_progress {input : StartIngestRunInput} {run : IngestRun}
    (hx : startIngestRun pf input db = .ok (run, db')) : Progress pf db db' := by
  obtain ⟨p, m, -, ⟨-, -, rfl⟩ | ⟨-, ⟨_, _, _, -, -, -, -, -, -, rfl⟩⟩⟩ := startIngestRun_ok hx
  · exact .refl _
  · exact .of_same rfl rfl

theorem recordIngestError_progress {input : IngestErrorInput} {u : Unit}
    (hx : recordIngestError input db = .ok (u, db')) : Progress pf db db' := by
  obtain ⟨_, _, _, -, -, -, -, ⟨-, _, _, _, rfl⟩ | ⟨-, _, _, _, rfl⟩⟩ := recordIngestError_ok hx <;>
    exact .of_same rfl rfl

theorem resolveConflict_progress {input : ResolveLedgerConflictInput} {u : Unit}
    (hx : resolveConflict input db = .ok (u, db')) : Progress pf db db' := by
  rcases resolveConflict_ok hx with rfl | ⟨operation, c, -, -, -, -, -, h⟩
  · exact .refl _
  · obtain ⟨-, -, rfl⟩ := insertConflictOperation_ok h
    exact .of_resolved rfl rfl

theorem setEntryState_progress {ledgerEntryId : String} {state : LedgerEntryState} {updatedAt : Nat} {u : Unit}
    (hx : setEntryState ledgerEntryId state updatedAt db = .ok (u, db')) : Progress pf db db' := by
  obtain rfl := setEntryState_ok hx
  intro h
  refine ⟨⟨?_, ?_, h.conflictKeys, h.tagged, h.differences⟩, .of_eq ?_ rfl⟩
  · exact h.keys.updateWhere fun _ _ => rfl
  · intro e he
    rcases mem_updateWhere.mp he with ⟨e0, h0, -, rfl⟩ | ⟨h0, -⟩
    · exact h.fingerprints e0 h0
    · exact h.fingerprints e h0
  · rw [map_updateWhere (p := fun e : LedgerEntry => e.ledgerEntryId = ledgerEntryId)
      (f := fun e => { e with state, updatedAt }) (g := LedgerEntry.frozen) fun _ _ => rfl]

/-- Every operation keeps the invariant and the past. -/
theorem LedgerOp.run_progress {op : LedgerOp} {u : Unit} (hx : op.run pf db = .ok (u, db')) :
    Progress pf db db' := by
  cases op with
  | startIngestRun input =>
    obtain ⟨run, m, h, hp⟩ := bind_ok.mp hx
    obtain ⟨-, rfl⟩ := pure_ok.mp hp
    exact startIngestRun_progress h
  | recordSegmentPage input =>
    obtain ⟨result, m, h, hp⟩ := bind_ok.mp hx
    obtain ⟨-, rfl⟩ := pure_ok.mp hp
    exact recordSegmentPage_progress h
  | completeIngestRun input =>
    rcases completeIngestRun_ok hx with rfl | ⟨_, _, _, _, -, -, -, -, _, rfl⟩
    · exact .refl _
    · exact .of_same rfl rfl
  | recordIngestError input => exact recordIngestError_progress hx
  | markIngestBatchYield ingestRunId now =>
    rcases markIngestBatchYield_ok hx with rfl | ⟨_, _, _, -, -, -, rfl⟩
    · exact .refl _
    · exact .of_same rfl rfl
  | resolveConflict input => exact resolveConflict_progress hx
  | setEntryState ledgerEntryId state updatedAt => exact setEntryState_progress hx
  | configure configuration =>
    simp only [LedgerOp.run, update_ok] at hx
    subst hx
    exact .of_same rfl rfl

theorem ledgerStore_progress {l : LedgerOp × (Nat → String)} (hs : (ledgerStore pf).step db l db') :
    Progress pf db db' := by
  rw [show db' = committed (l.1.run pf) (db.supplied l.2) from hs]
  rcases committed_cases (l.1.run pf) (db.supplied l.2) with ⟨u, hx⟩ | ⟨-, hx⟩
  · exact (LedgerOp.run_progress hx).framed rfl rfl
  · rw [hx]
    exact .of_same rfl rfl

theorem FactInv.reachable (h : Runs.Reachable (ledgerStore pf) db) : FactInv pf db :=
  h.invariant (fun _ h0 => FactInv.empty h0) fun _ _ _ hI hs => (ledgerStore_progress hs hI).1

/-! ## One conflict for each difference -/

/-- The conflicts of an account that record the difference between `F` and `G`. -/
def differenceOf (pf : LedgerPlatform) (account : String) (F G : SemanticFacts) (c : LedgerConflict) : Bool :=
  c.providerAccountKey = account && c.conflictType = .DUPLICATE_EXTERNAL_ID &&
  c.externalEventId = some G.externalEventId &&
  c.existingSemanticFingerprint = some (semanticFingerprint pf.sha256 F) &&
  c.incomingSemanticFingerprint = some (semanticFingerprint pf.sha256 G)

/-- The facts that differ determine the fingerprint of their conflict. -/
theorem FactInv.difference_key (hsha : Function.Injective pf.sha256) (h : FactInv pf db) {account : String}
    {F G : SemanticFacts} {c : LedgerConflict} (hc : c ∈ db.conflicts) (hd : differenceOf pf account F G c) :
    c.key = (account, conflictFingerprint pf.sha256
      [.text "DUPLICATE_EXTERNAL_ID".toList, .text G.externalEventId.toList,
        .text (semanticFingerprint pf.sha256 F).toList, .text (semanticFingerprint pf.sha256 G).toList,
        .num F.occurredAtPrecisionMilliseconds, .num G.occurredAtPrecisionMilliseconds]) := by
  simp only [differenceOf, Bool.and_eq_true, decide_eq_true_eq] at hd
  obtain ⟨⟨⟨⟨haccount, htype⟩, -⟩, hex⟩, hin⟩ := hd
  obtain ⟨F', G', hr⟩ := h.differences c hc htype
  have hF : F' = F := semanticFingerprint_injective hsha (Option.some.inj (hr.existing.symm.trans hex))
  have hG : G' = G := semanticFingerprint_injective hsha (Option.some.inj (hr.incoming.symm.trans hin))
  rw [LedgerConflict.key, haccount, hr.fingerprint, hF, hG]

theorem FactInv.one_conflict (hsha : Function.Injective pf.sha256) (h : FactInv pf db) (account : String)
    (F G : SemanticFacts) : (db.conflicts.filter (differenceOf pf account F G)).length ≤ 1 :=
  h.conflictKeys.length_filter_le_one fun _ hx _ hy hpx hpy =>
    (h.difference_key hsha hx hpx).trans (h.difference_key hsha hy hpy).symm

/-! ## What becomes of an event -/

/-- The verdict on a stored event.  Without facts it is isolated.  Facts under a new external id make
    an entry.  Facts equal to those of the entry are a duplicate and write nothing; facts that differ
    from them leave the entry alone and one conflict about the difference. -/
def Verdict (pf : LedgerPlatform) (account : String) (prepared : RawEvent × Bool) (db : LedgerDb)
    (r : PageNormalizationResult) (db' : LedgerDb) : Prop :=
  match eventFacts prepared with
  | none => ∃ c ∈ db'.conflicts, r = .isolated c prepared.1.rawEventId ∧ db'.entries = db.entries
  | some facts =>
    match db.entryByExternalId account facts.externalEventId with
    | none => ∃ e, r = .created e prepared.1.rawEventId ∧ e.facts = facts ∧ e.providerAccountKey = account ∧
        db'.entries = db.entries ++ [e] ∧ db'.conflicts = db.conflicts
    | some existing =>
      (existing.facts = facts → r = .duplicate existing prepared.1.rawEventId ∧
        db' = { db with rawEvents := db.rawEvents ++ [prepared.1], drawn := db.drawn + 1 }) ∧
      (existing.facts ≠ facts → ∃ c, r = .conflict c prepared.1.rawEventId ∧ db'.entries = db.entries ∧
        db'.conflicts.filter (differenceOf pf account existing.facts facts) = [c])

/-- A detail is stored as the next raw event, and gets its verdict. -/
def RecordsEvent (pf : LedgerPlatform) (account rawPageId : String) (now : Nat) (db : LedgerDb)
    (detail : AccountLogDetail × Nat) (r : PageNormalizationResult) (db' : LedgerDb) : Prop :=
  ∃ rawEventId, let prepared := prepareRawEvent pf detail.1 rawEventId rawPageId account detail.2 now
    db'.rawEvents = db.rawEvents ++ [prepared.1] ∧ Verdict pf account prepared db r db'

/-- The details of a page are recorded one after another: one verdict each. -/
inductive RecordsEvents (pf : LedgerPlatform) (account rawPageId : String) (now : Nat) :
    LedgerDb → List (AccountLogDetail × Nat) → List PageNormalizationResult → LedgerDb → Prop
  | nil (db : LedgerDb) : RecordsEvents pf account rawPageId now db [] [] db
  | cons {db m db' : LedgerDb} {d : AccountLogDetail × Nat} {ds : List (AccountLogDetail × Nat)}
      {r : PageNormalizationResult} {rs : List PageNormalizationResult}
      (h : RecordsEvent pf account rawPageId now db d r m)
      (hs : RecordsEvents pf account rawPageId now m ds rs db') :
      RecordsEvents pf account rawPageId now db (d :: ds) (r :: rs) db'

theorem insertConflict_mem {input : InsertConflictInput} {c : LedgerConflict}
    (hx : insertConflict pf input db = .ok (c, db')) :
    c ∈ db'.conflicts ∧ c.providerAccountKey = input.providerAccountKey ∧
      c.conflictFingerprint = conflictFingerprint pf.sha256 input.fingerprintParts ∧ db'.entries = db.entries := by
  rcases insertConflict_ok hx with ⟨hf, rfl⟩ | ⟨-, rfl, -, rfl⟩
  · obtain ⟨hmem, hk, hfp⟩ := conflictWith_some hf
    exact ⟨hmem, hk, hfp, rfl⟩
  · exact ⟨List.mem_append_right _ (List.mem_singleton_self _), rfl, rfl, rfl⟩

/-- A conflict under the fingerprint of a difference is about that difference. -/
theorem FactInv.differenceOf_of_key (hsha : Function.Injective pf.sha256) (h : FactInv pf db) {existing : LedgerEntry}
    {facts : SemanticFacts} {c : LedgerConflict}
    (hfp : existing.semanticFingerprint = semanticFingerprint pf.sha256 existing.facts) (hc : c ∈ db.conflicts)
    (hk : c.conflictFingerprint = conflictFingerprint pf.sha256
      (differenceParts existing facts (semanticFingerprint pf.sha256 facts))) :
    differenceOf pf c.providerAccountKey existing.facts facts c = true := by
  have htype : c.conflictType = .DUPLICATE_EXTERNAL_ID := by
    obtain ⟨parts, hparts⟩ := h.tagged c hc
    have hhead := (List.cons.inj (conflictFingerprint_injective hsha (hparts.symm.trans hk))).1
    exact LedgerConflictType.name_injective (text_injective hhead)
  obtain ⟨F, G, hr⟩ := h.differences c hc htype
  have hparts := conflictFingerprint_injective hsha (hr.fingerprint.symm.trans hk)
  simp only [differenceParts, List.cons.injEq, Json.Scalar.text.injEq, String.toList_inj, hfp] at hparts
  obtain ⟨-, -, hF, hG, -⟩ := hparts
  obtain rfl : G = facts := semanticFingerprint_injective hsha hG
  simp [differenceOf, htype, hr.externalEventId, hr.existing, hr.incoming, hF]

theorem insertConflict_rawEvents {input : InsertConflictInput} {c : LedgerConflict}
    (hx : insertConflict pf input db = .ok (c, db')) : db'.rawEvents = db.rawEvents := by
  rcases insertConflict_ok hx with ⟨-, rfl⟩ | ⟨-, -, -, rfl⟩ <;> rfl

/-- The conflict of a difference, new or found, is the only one about it. -/
theorem insertDifference_only (hsha : Function.Injective pf.sha256) (h : FactInv pf db) {rawEvent : RawEvent}
    {existing : LedgerEntry} {facts : SemanticFacts} {details : ConflictDetails} {now : Nat} {c : LedgerConflict}
    (hex : db.entryByExternalId rawEvent.providerAccountKey facts.externalEventId = some existing)
    (hx : insertConflict pf (differenceInput rawEvent existing facts (semanticFingerprint pf.sha256 facts)
      details now) db = .ok (c, db')) :
    db'.conflicts.filter (differenceOf pf rawEvent.providerAccountKey existing.facts facts) = [c] := by
  obtain ⟨h', -⟩ := insertConflict_progress (fun _ => differenceInput_describes h hex) hx h
  obtain ⟨hmem, hkey, hcfp, -⟩ := insertConflict_mem hx
  have hfp := h.fingerprints existing (entryByExternalId_some hex).1
  have hdiff := h'.differenceOf_of_key hsha hfp hmem hcfp
  rw [hkey] at hdiff
  exact eq_singleton_of_length_le_one (List.mem_filter.mpr ⟨hmem, hdiff⟩) (h'.one_conflict hsha _ _ _)

/-- Facts of an event against an entry with a valid fingerprint: equal fingerprints are equal facts. -/
theorem FactInv.facts_eq (hsha : Function.Injective pf.sha256) (h : FactInv pf db) {account : String}
    {facts : SemanticFacts} {existing : LedgerEntry}
    (hex : db.entryByExternalId account facts.externalEventId = some existing) :
    existing.semanticFingerprint = semanticFingerprint pf.sha256 facts ↔ existing.facts = facts := by
  rw [h.fingerprints existing (entryByExternalId_some hex).1]
  exact (semanticFingerprint_injective hsha).eq_iff

theorem recordDetail_records (hsha : Function.Injective pf.sha256) (h : FactInv pf db) {run : IngestRun}
    {rawPageId : String} {now : Nat} {detail : AccountLogDetail × Nat} {r : PageNormalizationResult}
    (hx : recordDetail pf run rawPageId now detail db = .ok (r, db')) :
    RecordsEvent pf run.providerAccountKey rawPageId now db detail r db' := by
  obtain ⟨prepared, m, hp, hn⟩ := recordDetail_ok hx
  obtain ⟨hprepared, -, -, rfl⟩ := insertRawEvent_ok hp
  refine ⟨db.entropy db.drawn, ?_⟩
  simp only [← hprepared]
  have haccount : prepared.1.providerAccountKey = run.providerAccountKey := by rw [hprepared]; rfl
  have hm : FactInv pf { db with rawEvents := db.rawEvents ++ [prepared.1], drawn := db.drawn + 1 } :=
    h.framed rfl rfl
  unfold Verdict
  rcases normalizeAndInsert_ok hn with ⟨hnone, _, _, _, -, -, hi⟩ | ⟨facts, hfacts, hr⟩
  · -- no facts: isolated
    obtain ⟨c, rfl, input, -, -, -, hc⟩ := insertNormalizationConflict_ok hi
    obtain ⟨hmem, -, -, hentries⟩ := insertConflict_mem hc
    rw [hnone]
    exact ⟨insertConflict_rawEvents hc, c, hmem, rfl, hentries⟩
  · rw [hfacts]
    dsimp only
    rcases recordFacts_ok hr with ⟨existing, hex, hcompare⟩ | ⟨hnew, hinsert⟩
    · have heq := hm.facts_eq hsha hex
      have hex' : db.entryByExternalId run.providerAccountKey facts.externalEventId = some existing := haccount ▸ hex
      rw [hex']
      rcases compareWithEntry_ok hcompare with ⟨hfp, -, rfl, rfl⟩ | ⟨hne, c, details, rfl, hc⟩
      · -- equal facts: a duplicate
        exact ⟨rfl, fun _ => ⟨rfl, rfl⟩, fun hdiff => absurd (heq.mp hfp) hdiff⟩
      · -- a difference: one conflict
        obtain ⟨-, -, -, hentries⟩ := insertConflict_mem hc
        refine ⟨insertConflict_rawEvents hc, fun hsame => ?_, fun _ => ⟨c, rfl, hentries, ?_⟩⟩
        · exact absurd ⟨heq.mpr hsame, by rw [hsame]⟩ hne
        · rw [← haccount]
          exact insertDifference_only hsha hm hex hc
    · -- a new external id: an entry
      have hnew' : db.entryByExternalId run.providerAccountKey facts.externalEventId = none := haccount ▸ hnew
      obtain ⟨e, rfl, hef, -, hacc, -, -, -, -, -, rfl⟩ := insertLedgerEntry_ok hinsert
      rw [hnew']
      exact ⟨rfl, e, rfl, hef, hacc.trans haccount, rfl, rfl⟩

/-- The details of a page, one after another. -/
theorem collected_records (hsha : Function.Injective pf.sha256) {run : IngestRun} {rawPageId : String} {now : Nat}
    {details : List (AccountLogDetail × Nat)} {rs : List PageNormalizationResult}
    (hc : Collected (recordDetail pf run rawPageId now) db details rs db') (h : FactInv pf db) :
    RecordsEvents pf run.providerAccountKey rawPageId now db details rs db' := by
  induction hc with
  | nil s => exact .nil s
  | cons hx _ ih => exact .cons (recordDetail_records hsha h hx) (ih (recordDetail_progress hx h).1)

/-! ## Every accepted page -/

/-- What an accepted page does with its details, between the retention of its response (`m`) and the
    completion of its segment: when it is first processed each of them is recorded; when the stored
    page is accepted again all of them are there already. -/
def AcceptsDetails (pf : LedgerPlatform) (input : RecordSegmentPageInput) (db : LedgerDb) (page : RawPage)
    (rs : List PageNormalizationResult) (db' : LedgerDb) : Prop :=
  ∃ run ∈ db.runs, run.ingestRunId = input.ingestRunId ∧ ∃ now m m',
    m.rawEvents = db.rawEvents ∧ m.entries = db.entries ∧ Extends db m ∧
    (RecordsEvents pf run.providerAccountKey page.rawPageId now m input.page.details.zipIdx rs m' ∨
      (rs = [] ∧ m' = m ∧ m.rawEventCountForPage page.rawPageId = input.page.details.length)) ∧
    db'.rawEvents = m'.rawEvents ∧ db'.entries = m'.entries ∧ db'.conflicts = m'.conflicts

theorem completeIfDone_rawEvents {run : IngestRun} {cursor : LedgerCursor} {rootCompleted : Bool} {now : Nat}
    {u : Unit} (hx : completeIfDone run cursor rootCompleted now db = .ok (u, db')) :
    db'.rawEvents = db.rawEvents := by
  rcases completeIfDone_ok hx with ⟨-, rfl⟩ | ⟨-, h⟩
  · rfl
  · obtain ⟨-, compensation, rfl⟩ := completeSegmentRun_ok h
    rfl

theorem acceptLeaf_records (hsha : Function.Injective pf.sha256) (h : FactInv pf db) {run : IngestRun}
    {segment : IngestSegment} {cursor : LedgerCursor} {details : List AccountLogDetail}
    {retained : RetainedSegmentPage} {now : Nat} {observation : PageObservationResult} {page : RawPage}
    {rs : List PageNormalizationResult} {done : Bool}
    (hx : acceptLeaf pf run segment cursor details retained now db = .ok (.accepted observation page rs done, db')) :
    ∃ m m', m.rawEvents = db.rawEvents ∧ m.entries = db.entries ∧ m.conflicts = db.conflicts ∧
      (RecordsEvents pf run.providerAccountKey page.rawPageId now m details.zipIdx rs m' ∨
        (rs = [] ∧ m' = m ∧ m.rawEventCountForPage page.rawPageId = details.length)) ∧
      db'.rawEvents = m'.rawEvents ∧ db'.entries = m'.entries ∧ db'.conflicts = m'.conflicts := by
  obtain ⟨schedules, rs', m', hdetails, _, _, hresult, _, rfl, -, hdone⟩ := acceptLeaf_ok hx
  cases hresult
  obtain ⟨he, hc⟩ := completeIfDone_progress hdone
  have hraw := completeIfDone_rawEvents hdone
  refine ⟨{ db with schedules }, m', rfl, rfl, rfl, ?_, hraw, he, hc⟩
  rcases recordDetails_ok hdetails with ⟨-, hcollected⟩ | ⟨-, hcount, hrs, hm⟩
  · exact .inl (collected_records hsha hcollected (h.framed rfl rfl))
  · exact .inr ⟨hrs, hm.symm, hcount⟩

theorem recordSegmentPage_accepts (hsha : Function.Injective pf.sha256) (h : FactInv pf db)
    {input : RecordSegmentPageInput} {observation : PageObservationResult} {page : RawPage}
    {rs : List PageNormalizationResult} {done : Bool}
    (hx : recordSegmentPage pf input db = .ok (.accepted observation page rs done, db')) :
    AcceptsDetails pf input db page rs db' := by
  obtain ⟨run, segment, cursor, prepared, retained, m, interval, hguards, -, -, hretain, hfinish⟩ :=
    recordSegmentPage_ok hx
  obtain ⟨hprogress, hentries⟩ := retainSegmentPage_progress hretain
  obtain ⟨hm, hextends⟩ := hprogress h
  have hraw : m.rawEvents = db.rawEvents := by
    obtain ⟨_, _, _, _, _, -, rfl⟩ := (retainSegmentPage_retains hretain).1
    rfl
  rcases finishPage_ok hfinish with ⟨-, hr, -⟩ | ⟨-, -, hr⟩ | ⟨-, -, hr⟩
  · cases hr
  · rcases recordProbe_ok hr with ⟨-, hr', -⟩ | ⟨_, -, _, _, _, hr', -⟩ <;> cases hr'
  · obtain ⟨m1, m', hr1, he1, hc1, hrecords, hends⟩ := acceptLeaf_records hsha hm hr
    exact ⟨run, hguards.runMem, hguards.runId, prepared.now, m1, m', hr1.trans hraw, he1.trans hentries,
      ⟨he1 ▸ hextends.entries, hc1 ▸ hextends.conflicts⟩, hrecords, hends⟩

/-- **Deduplication.**  In every reachable ledger an external event has one entry and a difference has
    one conflict; both stay as they are on every later path; and every accepted page gives each of its
    events exactly one verdict, by its normalized facts alone. -/
theorem ledger_entries_deduplicated (hsha : Function.Injective pf.sha256)
    (hdb : Runs.Reachable (ledgerStore pf) db) :
    UniqueOn LedgerEntry.key db.entries ∧
    (∀ account F G, (db.conflicts.filter (differenceOf pf account F G)).length ≤ 1) ∧
    (∀ ls db', Runs.Path (ledgerStore pf) db ls db' → Extends db db') ∧
    (∀ input entropy observation page rs done db',
      recordSegmentPage pf input (db.supplied entropy) = .ok (.accepted observation page rs done, db') →
        AcceptsDetails pf input (db.supplied entropy) page rs db') := by
  have h := FactInv.reachable hdb
  refine ⟨h.keys, h.one_conflict hsha, ?_, ?_⟩
  · intro ls db' hpath
    exact (hpath.relates Extends.refl Extends.trans
      (fun _ _ _ hinv hstep => ledgerStore_progress hstep hinv) h).2
  · intro input entropy observation page rs done db' hx
    have hsupplied : FactInv pf (db.supplied entropy) := h.framed rfl rfl
    exact recordSegmentPage_accepts hsha hsupplied hx

/-! ### A sample page

One event in two forms, the same event with another amount, and an event without an id. -/

def sampleDetail (accountLogId amount direction : Option String) : AccountLogDetail :=
  { raw := some "\x7b\x7d", accountLogId, occurredAt := some "2026-07-20 10:00:05", amount, direction,
    alipayOrderNo := none, merchantOrderNo := none, transMemo := none, otherAccount := none }

def sampleLeaf : RecordSegmentPageInput :=
  samplePage "101" "body" 4 false
    [sampleDetail (some "e1") (some "10.00") (some "收入"), sampleDetail (some " e1 ") (some "+10.0") (some "in"),
     sampleDetail (some "e1") (some "10.01") (some "in"), sampleDetail none (some "10.00") (some "in")]

def PageNormalizationResult.status : PageNormalizationResult → String
  | .created _ _ => "created"
  | .duplicate _ _ => "duplicate"
  | .conflict _ _ => "conflict"
  | .isolated _ _ => "isolated"

/-- The verdicts of an accepted page. -/
def acceptedStatuses : Except Fault (RecordSegmentPageResult × LedgerDb) → Option (List String)
  | .ok (.accepted _ _ normalized _, _) => some (normalized.map (·.status))
  | _ => none

/-- The ledger after the sample page. -/
def sampleScanned : LedgerDb :=
  committed (LedgerOp.run samplePlatform (.recordSegmentPage sampleLeaf)) (sampleOpened.supplied (sampleUuids 2))

theorem sampleScanned_reachable : Runs.Reachable (ledgerStore samplePlatform) sampleScanned :=
  reachable_operation sampleOpened_reachable _ _

theorem ledger_entries_deduplicated_sample :
    acceptedStatuses (recordSegmentPage samplePlatform sampleLeaf (sampleOpened.supplied (sampleUuids 2))) =
      some ["created", "duplicate", "conflict", "isolated"] ∧
    UniqueOn LedgerEntry.key sampleScanned.entries ∧ sampleScanned.entries.length = 1 ∧
    ∀ ls db', Runs.Path (ledgerStore samplePlatform) sampleScanned ls db' → Extends sampleScanned db' := by
  obtain ⟨hunique, -, hpath, -⟩ := ledger_entries_deduplicated Function.injective_id sampleScanned_reachable
  have hrun : acceptedStatuses (recordSegmentPage samplePlatform sampleLeaf (sampleOpened.supplied (sampleUuids 2))) =
      some ["created", "duplicate", "conflict", "isolated"] ∧ sampleScanned.entries.length = 1 := by
    decide +kernel
  exact ⟨hrun.1, hunique, hrun.2, hpath⟩

end PerPay.Ledger
