/-
  **How the table of ledger entries grows** — what the ledger's own operations do to it.

  Ingestion only adds entries: behind the others, under a new identifier, unallocated, and of a
  positive amount below ten billion yuan.  The entries that were there stay as they are; their states are for reconciliation
  to move.
-/
import PerPay.Ledger.Deduplication

namespace PerPay.Ledger

open Txn Table

variable {pf : LedgerPlatform} {db db' : LedgerDb}

/-- An entry as ingestion writes it. -/
structure Ingested (e : LedgerEntry) : Prop where
  state : e.state = .UNALLOCATED
  amount : 0 < e.facts.amountCents ∧ e.facts.amountCents ≤ 999_999_999_999
  times : e.updatedAt = e.createdAt

/-- Entries are added behind the others; no two entries share an identifier. -/
structure Grows (db db' : LedgerDb) : Prop where
  added : ∃ added, db'.entries = db.entries ++ added ∧ ∀ e ∈ added, Ingested e
  ids : UniqueOn (·.ledgerEntryId) db.entries → UniqueOn (·.ledgerEntryId) db'.entries

theorem Grows.of_eq (h : db'.entries = db.entries) : Grows db db' :=
  ⟨⟨[], by rw [h, List.append_nil], by simp⟩, fun hu => h ▸ hu⟩

theorem Grows.refl (db : LedgerDb) : Grows db db := .of_eq rfl

theorem Grows.trans {m : LedgerDb} (h : Grows db m) (h' : Grows m db') : Grows db db' := by
  obtain ⟨added, he, hadded⟩ := h.added
  obtain ⟨added', he', hadded'⟩ := h'.added
  refine ⟨⟨added ++ added', by rw [he', he, List.append_assoc], fun e hm => ?_⟩, fun hu => h'.ids (h.ids hu)⟩
  exact (List.mem_append.mp hm).elim (hadded e) (hadded' e)

/-- Growth is about one table only. -/
theorem Grows.framed {m : LedgerDb} (h : Grows m db') (he : m.entries = db.entries) : Grows db db' :=
  (Grows.of_eq he).trans h

/-! ## One event -/

theorem parseAmountCents_range {value : Option String} {amount : Nat} (h : parseAmountCents value = .ok amount) :
    0 < amount ∧ amount ≤ 999_999_999_999 := by
  unfold parseAmountCents at h
  split at h
  · cases h
  · split at h
    · cases h
    · split at h
      · cases h
      · rename_i hrange
        obtain rfl := Except.ok.inj h
        simp only [Bool.or_eq_true, decide_eq_true_eq, not_or] at hrange
        omega

theorem eventFacts_amount {prepared : RawEvent × Bool} {facts : SemanticFacts}
    (h : eventFacts prepared = some facts) :
    0 < facts.amountCents ∧ facts.amountCents ≤ 999_999_999_999 := by
  unfold eventFacts at h
  by_cases hshape : prepared.2 = true
  · rw [if_pos hshape] at h
    cases h
  · rw [if_neg hshape] at h
    obtain ⟨id, -, h⟩ := Option.bind_eq_some_iff.mp h
    cases hf : normalizeFacts prepared.1 id with
    | error e => simp [hf, Except.toOption] at h
    | ok f =>
      simp only [hf, Except.toOption, Option.some.injEq] at h
      subst h
      obtain ⟨occurrence, -, hf⟩ := except_bind_ok.mp hf
      obtain ⟨amount, hamount, hf⟩ := except_bind_ok.mp hf
      obtain ⟨direction, -, hf⟩ := except_bind_ok.mp hf
      obtain rfl := Except.ok.inj hf
      exact parseAmountCents_range hamount

theorem insertConflict_grows {input : InsertConflictInput} {c : LedgerConflict}
    (hx : insertConflict pf input db = .ok (c, db')) : Grows db db' := by
  rcases insertConflict_ok hx with ⟨-, rfl⟩ | ⟨-, -, -, rfl⟩
  · exact .refl _
  · exact .of_eq rfl

theorem normalizeAndInsert_grows {prepared : RawEvent × Bool} {now : Nat} {r : PageNormalizationResult}
    (hx : normalizeAndInsert pf prepared now db = .ok (r, db')) : Grows db db' := by
  rcases normalizeAndInsert_ok hx with ⟨-, _, _, _, -, -, h⟩ | ⟨facts, hfacts, h⟩
  · obtain ⟨c, -, input, -, -, -, hc⟩ := insertNormalizationConflict_ok h
    exact insertConflict_grows hc
  · rcases recordFacts_ok h with ⟨existing, -, h'⟩ | ⟨-, h'⟩
    · rcases compareWithEntry_ok h' with ⟨-, -, -, rfl⟩ | ⟨-, c, details, -, hc⟩
      · exact .refl _
      · exact insertConflict_grows hc
    · obtain ⟨e, -, he, -, -, -, hstate, htimes, hnew, -, rfl⟩ := insertLedgerEntry_ok h'
      refine ⟨⟨[e], rfl, fun x hx => ?_⟩, fun hu => hu.append fun x hx => (hnew x hx).1⟩
      rw [List.mem_singleton.mp hx]
      exact ⟨hstate, he ▸ eventFacts_amount hfacts, htimes⟩

theorem recordDetail_grows {run : IngestRun} {rawPageId : String} {now : Nat} {detail : AccountLogDetail × Nat}
    {r : PageNormalizationResult} (hx : recordDetail pf run rawPageId now detail db = .ok (r, db')) :
    Grows db db' := by
  obtain ⟨prepared, m, hp, hn⟩ := recordDetail_ok hx
  obtain ⟨-, -, -, rfl⟩ := insertRawEvent_ok hp
  exact (normalizeAndInsert_grows hn).framed rfl

/-! ## Operations -/

theorem finishPage_grows {run : IngestRun} {segment : IngestSegment} {cursor : LedgerCursor}
    {page : AccountLogPage} {retained : RetainedSegmentPage} {now interval : Nat}
    {result : RecordSegmentPageResult}
    (hx : finishPage pf run segment cursor page retained now interval db = .ok (result, db')) : Grows db db' := by
  rcases finishPage_ok hx with ⟨-, -, u, h⟩ | ⟨-, -, h⟩ | ⟨-, -, h⟩
  · obtain ⟨_, _, _, _, -, rfl⟩ := failPaginationVariant_ok h
    exact .of_eq rfl
  · rcases recordProbe_ok h with ⟨-, -, _, _, _, rfl⟩ | ⟨_, -, _, _, _, -, -, rfl⟩ <;> exact .of_eq rfl
  · obtain ⟨schedules, rs, m, hdetails, done, u, -, m', rfl, -, hdone⟩ := acceptLeaf_ok h
    have hm : Grows { db with schedules } m := by
      rcases recordDetails_ok hdetails with ⟨-, hc⟩ | ⟨-, -, -, rfl⟩
      · exact hc.relates Grows.refl Grows.trans fun hstep => recordDetail_grows hstep
      · exact .refl _
    exact (hm.trans (.of_eq (completeIfDone_progress hdone).1)).framed rfl

/-- **Every operation of the ledger but `setEntryState` only adds entries.** -/
theorem LedgerOp.run_grows {op : LedgerOp} (hop : ∀ id state now, op ≠ .setEntryState id state now) {u : Unit}
    (hx : op.run pf db = .ok (u, db')) : Grows db db' := by
  cases op with
  | startIngestRun input =>
    obtain ⟨run, m, h, hp⟩ := bind_ok.mp hx
    obtain ⟨-, rfl⟩ := pure_ok.mp hp
    obtain ⟨p, m, -, ⟨-, -, rfl⟩ | ⟨-, ⟨_, _, _, -, -, -, -, -, -, rfl⟩⟩⟩ := startIngestRun_ok h
    · exact .refl _
    · exact .of_eq rfl
  | recordSegmentPage input =>
    obtain ⟨result, m, h, hp⟩ := bind_ok.mp hx
    obtain ⟨-, rfl⟩ := pure_ok.mp hp
    obtain ⟨run, segment, cursor, prepared, retained, m, interval, -, -, -, hretain, hfinish⟩ :=
      recordSegmentPage_ok h
    exact (Grows.of_eq (retainSegmentPage_progress hretain).2).trans (finishPage_grows hfinish)
  | completeIngestRun input =>
    rcases completeIngestRun_ok hx with rfl | ⟨_, _, _, _, -, -, -, -, _, rfl⟩
    · exact .refl _
    · exact .of_eq rfl
  | recordIngestError input =>
    obtain ⟨_, _, _, -, -, -, -, ⟨-, _, _, _, rfl⟩ | ⟨-, _, _, _, rfl⟩⟩ := recordIngestError_ok hx <;>
      exact .of_eq rfl
  | markIngestBatchYield ingestRunId now =>
    rcases markIngestBatchYield_ok hx with rfl | ⟨_, _, _, -, -, -, rfl⟩
    · exact .refl _
    · exact .of_eq rfl
  | resolveConflict input =>
    rcases resolveConflict_ok hx with rfl | ⟨operation, c, -, -, -, -, -, h⟩
    · exact .refl _
    · obtain ⟨-, -, rfl⟩ := insertConflictOperation_ok h
      exact .of_eq rfl
  | setEntryState id state now => exact absurd rfl (hop id state now)
  | configure configuration =>
    simp only [LedgerOp.run, update_ok] at hx
    subst hx
    exact .of_eq rfl

end PerPay.Ledger
