/-
  **No sweep is lost** — which entries a sweep has passed when the scheduler comes to rest.

  A trigger asks for every entry that is pending now.  The sweep reads the entries in the order of their
  occurrence, from the cursor on.  A trigger that comes while a sweep goes on is served by the next one,
  which begins at the first entry; but a sweep that stopped at the budget of its run is continued, not
  begun anew, and entries behind its cursor are passed over (`sweep_passed_over`).

  Where no trigger finds such entries, none is lost (`sweeps_complete`).  The invariant says of every
  entry that is owed to the last trigger where the next page finds it.
-/
import PerPay.Finance.Moves
import PerPay.Scheduling.Turns

namespace PerPay.Scheduling

open Txn Finance Ledger Orders

variable {options : ReconciliationSchedulerOptions} {pf : FinancePlatform}

/-! ## Pages of pending entries -/

theorem mem_pendingEntries {db : FinanceDb} {key : ReconciliationSweepCursor} :
    key ∈ pendingEntries db ↔ ∃ e ∈ db.ledger.entries, awaitsReconciliation db e = true ∧ sweepKey e = key := by
  simp only [pendingEntries, List.mem_insertionSort, List.mem_map, List.mem_filter, and_assoc]

instance : IsStrictOrder ReconciliationSweepCursor ReconciliationSweepCursor.lt where
  irrefl := by
    rintro a (h | ⟨-, h⟩)
    · exact lt_irrefl _ h
    · exact lt_irrefl _ h
  trans := by
    rintro a b c (h | ⟨he, h⟩) (h' | ⟨he', h'⟩)
    · exact .inl (h.trans h')
    · exact .inl (he' ▸ h)
    · exact .inl (he ▸ h')
    · exact .inr ⟨he.trans he', h.trans h'⟩

instance : Std.Total ReconciliationSweepCursor.le where
  total a b := by
    rcases lt_trichotomy a.occurredAt b.occurredAt with h | h | h
    · exact .inl (.inl h)
    · exact (Std.Total.total a.ledgerEntryId b.ledgerEntryId).imp (fun hle => .inr ⟨h, hle⟩) fun hle => .inr ⟨h.symm, hle⟩
    · exact .inr (.inl h)

instance : IsTrans ReconciliationSweepCursor ReconciliationSweepCursor.le where
  trans := by
    rintro a b c (h | ⟨he, h⟩) (h' | ⟨he', h'⟩)
    · exact .inl (h.trans h')
    · exact .inl (he' ▸ h)
    · exact .inl (he ▸ h')
    · exact .inr ⟨he.trans he', h.trans h'⟩

theorem lt_of_le {a b : ReconciliationSweepCursor} (h : a.le b) (hne : a.ledgerEntryId ≠ b.ledgerEntryId) : a.lt b := by
  rcases h with h | ⟨he, h⟩
  · exact .inl h
  · exact .inr ⟨he, lt_of_le_of_ne h hne⟩

/-- Entries have identifiers of their own, so that the order of the sweep is strict. -/
theorem pendingEntries_ordered {db : FinanceDb} (h : Table.UniqueOn (·.ledgerEntryId) db.ledger.entries) :
    Keyset.Ordered ReconciliationSweepCursor.lt id (pendingEntries db) := by
  have hdistinct : (pendingEntries db).Pairwise fun a b => a.ledgerEntryId ≠ b.ledgerEntryId := by
    have hids : ((db.ledger.entries.filter (awaitsReconciliation db)).map sweepKey).Pairwise
        fun a b => a.ledgerEntryId ≠ b.ledgerEntryId := by
      rw [List.pairwise_map]
      exact List.pairwise_map.mp (h.filter _)
    exact hids.perm (List.perm_insertionSort _ _).symm fun hne => hne.symm
  exact ((List.pairwise_insertionSort ReconciliationSweepCursor.le _).and hdistinct).imp fun h => lt_of_le h.1 h.2

variable {db : FinanceDb} {cursor : Option ReconciliationSweepCursor} {limit : Nat}

/-- The keys beyond the cursor. -/
def Beyond (cursor : Option ReconciliationSweepCursor) (key : ReconciliationSweepCursor) : Prop := ∀ c ∈ cursor, c.lt key

theorem pendingLedgerPage_ids (db : FinanceDb) (cursor : Option ReconciliationSweepCursor) (limit : Nat) :
    (pendingLedgerPage db cursor limit).ledgerEntryIds =
      ((Keyset.after ReconciliationSweepCursor.lt id cursor (pendingEntries db)).take limit).map (·.ledgerEntryId) := by
  show List.map _ (List.take limit (List.take (limit + 1) _)) = _
  rw [List.take_take, Nat.min_eq_left (Nat.le_succ limit)]

theorem pendingLedgerPage_hasMore (db : FinanceDb) (cursor : Option ReconciliationSweepCursor) (limit : Nat) :
    (pendingLedgerPage db cursor limit).hasMore =
      decide (limit < (Keyset.after ReconciliationSweepCursor.lt id cursor (pendingEntries db)).length) := by
  show decide (limit < (List.take (limit + 1) _).length) = _
  rw [List.length_take]
  exact decide_eq_decide.mpr (by omega)

/-- The last page holds every entry beyond the cursor. -/
theorem pendingLedgerPage_last {key : ReconciliationSweepCursor} (hmem : key ∈ pendingEntries db) (hbeyond : Beyond cursor key)
    (hmore : (pendingLedgerPage db cursor limit).hasMore = false) :
    key.ledgerEntryId ∈ (pendingLedgerPage db cursor limit).ledgerEntryIds := by
  rw [pendingLedgerPage_hasMore, decide_eq_false_iff_not, Nat.not_lt] at hmore
  rw [pendingLedgerPage_ids, List.take_of_length_le hmore]
  exact List.mem_map_of_mem ((Keyset.mem_after _ _).mpr ⟨hmem, hbeyond⟩)

/-- After any other page, the entries beyond the cursor that it did not hold are beyond the next one. -/
theorem pendingLedgerPage_next {key : ReconciliationSweepCursor} (hunique : Table.UniqueOn (·.ledgerEntryId) db.ledger.entries)
    (hmem : key ∈ pendingEntries db) (hbeyond : Beyond cursor key)
    (hnot : key.ledgerEntryId ∉ (pendingLedgerPage db cursor limit).ledgerEntryIds) :
    Beyond (pendingLedgerPage db cursor limit).nextCursor key := by
  intro c hc
  have hlast : ((Keyset.after ReconciliationSweepCursor.lt id cursor (pendingEntries db)).take limit).getLast? = some c := by
    have h : (List.take limit (List.take (limit + 1) _)).getLast? = some c := hc
    rwa [List.take_take, Nat.min_eq_left (Nat.le_succ limit)] at h
  have hrest : key ∈ (Keyset.after ReconciliationSweepCursor.lt id cursor (pendingEntries db)).drop limit := by
    have hafter : key ∈ Keyset.after ReconciliationSweepCursor.lt id cursor (pendingEntries db) :=
      (Keyset.mem_after _ _).mpr ⟨hmem, hbeyond⟩
    rw [← List.take_append_drop limit (Keyset.after _ _ _ _)] at hafter
    refine (List.mem_append.mp hafter).resolve_left fun htake => hnot ?_
    rw [pendingLedgerPage_ids]
    exact List.mem_map_of_mem htake
  rw [← Keyset.after_last _ _ (pendingEntries_ordered hunique) hlast] at hrest
  exact ((Keyset.mem_after _ _).mp hrest).2 c rfl

theorem pendingLedgerPage_length (hmore : (pendingLedgerPage db cursor limit).hasMore = true) :
    (pendingLedgerPage db cursor limit).ledgerEntryIds.length = limit := by
  rw [pendingLedgerPage_hasMore, decide_eq_true_eq] at hmore
  rw [pendingLedgerPage_ids, List.length_map, List.length_take, Nat.min_eq_left hmore.le]

/-! ## Reconciling one entry leaves the others waiting -/

/-- The ledger may differ in the state of one entry. -/
def SetsOnly (ledgerEntryId : String) (l l' : LedgerDb) : Prop :=
  l' = l ∨ ∃ entry state now, entry.ledgerEntryId = ledgerEntryId ∧ l' = withState entry state now l

theorem SetsOnly.keeps {ledgerEntryId : String} {l l' : LedgerDb} (h : SetsOnly ledgerEntryId l l') :
    l'.conflicts = l.conflicts ∧ l'.configuration = l.configuration ∧
      ∀ e ∈ l.entries, e.ledgerEntryId ≠ ledgerEntryId → e ∈ l'.entries := by
  rcases h with rfl | ⟨entry, state, now, rfl, rfl⟩
  · exact ⟨rfl, rfl, fun _ he _ => he⟩
  · unfold withState
    split
    · exact ⟨rfl, rfl, fun _ he _ => he⟩
    · refine ⟨rfl, rfl, fun e he hne => List.mem_map.mpr ⟨e, he, ?_⟩⟩
      rw [if_neg]
      exact fun h => hne (of_decide_eq_true h)

theorem SetsOnly.pending {ledgerEntryId : String} {db db' : FinanceDb} (h : SetsOnly ledgerEntryId db.ledger db'.ledger)
    {key : ReconciliationSweepCursor} (hmem : key ∈ pendingEntries db) (hne : key.ledgerEntryId ≠ ledgerEntryId) :
    key ∈ pendingEntries db' := by
  obtain ⟨hconflicts, hconfiguration, hentries⟩ := h.keeps
  obtain ⟨e, he, hwaits, rfl⟩ := mem_pendingEntries.mp hmem
  refine mem_pendingEntries.mpr ⟨e, hentries e he hne, ?_, rfl⟩
  rw [← hwaits]
  simp only [awaitsReconciliation, FinanceDb.isSandbox, FinanceDb.hasOpenLedgerConflict, hconflicts, hconfiguration]

section
variable {db' : FinanceDb} {entry : LedgerEntry} {r : ReconcileEntryResult}

theorem recordSettlement_sets {s : SettlementFacts} {u : Unit} (h : Keys db) (horder : s.order ∈ db.orders.orders)
    (hentry : s.entry ∈ db.ledger.entries) (hx : recordSettlement s db = .ok (u, db')) :
    SetsOnly s.entry.ledgerEntryId db.ledger db'.ledger := by
  obtain ⟨-, hresolve⟩ := (recordSettlement_ok h.orders.orderIds horder h.entries hentry).mp hx
  obtain ⟨exceptions, -, rfl⟩ := resolveEntryExceptions_ok hresolve
  exact .inr ⟨_, _, _, rfl, rfl⟩

theorem reportUnmatched_sets {classify : FinanceDb → UnmatchedCreditClassification} (h : Keys db)
    (hentry : entry ∈ db.ledger.entries) (hx : reportUnmatched pf entry db.orders.clock classify db = .ok (r, db')) :
    SetsOnly entry.ledgerEntryId db.ledger db'.ledger := by
  unfold reportUnmatched at hx
  obtain ⟨-, hx⟩ := (setLedgerState_bind_ok h.entries hentry).mp hx
  rw [readWith_bind_ok] at hx
  obtain ⟨e, m, he, hx⟩ := bind_ok.mp hx
  obtain ⟨exceptions, drawn, -, rfl⟩ := ensureException_ok he
  obtain ⟨-, rfl⟩ := pure_ok.mp hx
  exact .inr ⟨_, _, _, rfl, rfl⟩

theorem reportAmbiguous_sets {candidates : List MatchCandidate} (h : Keys db) (hentry : entry ∈ db.ledger.entries)
    (hx : reportAmbiguous pf entry db.orders.clock candidates db = .ok (r, db')) :
    SetsOnly entry.ledgerEntryId db.ledger db'.ledger := by
  unfold reportAmbiguous at hx
  obtain ⟨-, hx⟩ := (setLedgerState_bind_ok h.entries hentry).mp hx
  obtain ⟨e, m, he, hx⟩ := bind_ok.mp hx
  obtain ⟨exceptions, drawn, -, rfl⟩ := ensureException_ok he
  obtain ⟨-, rfl⟩ := pure_ok.mp hx
  exact .inr ⟨_, _, _, rfl, rfl⟩

theorem settleCandidate_sets {candidate : MatchCandidate} {order : PaymentOrder} (h : Keys db)
    (horder : order ∈ db.orders.orders) (hentry : entry ∈ db.ledger.entries)
    (hx : settleCandidate pf entry candidate order db.orders.clock db = .ok (r, db')) :
    SetsOnly entry.ledgerEntryId db.ledger db'.ledger := by
  unfold settleCandidate at hx
  rw [randomUUID_bind_ok, randomUUID_bind_ok, insertFinancialOperation_bind_ok] at hx
  obtain ⟨hfits, hx⟩ := hx
  obtain ⟨_, m, hdecide, hx⟩ := bind_ok.mp hx
  obtain ⟨_, m', hsettle, hx⟩ := bind_ok.mp hx
  obtain ⟨-, rfl⟩ := pure_ok.mp hx
  obtain ⟨c, hmem, -, rfl⟩ := decideCandidate_ok rfl hdecide
  have hm : Beside pf db _ := (((Beside.drew db 1).trans (.drew _ 1)).trans (.withOperation hfits rfl trivial)).trans
    ⟨.single (.selected c _ hmem (mem_withOperation _ _) rfl), rfl, rfl⟩
  exact recordSettlement_sets (h.moves hm.moves) horder hentry hsettle

theorem autoSettleCandidate_sets {candidate : MatchCandidate} (h : Keys db) (hentry : entry ∈ db.ledger.entries)
    (hx : autoSettleCandidate pf entry candidate db.orders.clock db = .ok (r, db')) :
    SetsOnly entry.ledgerEntryId db.ledger db'.ledger := by
  unfold autoSettleCandidate at hx
  simp only [readWith_bind_ok, require_bind_ok] at hx
  obtain ⟨-, -, hx⟩ := hx
  obtain ⟨order, horder, -, hx⟩ := requireOrderDecision_bind_ok hx
  simp only [readWith_bind_ok, require_bind_ok, id] at hx
  obtain ⟨-, hx⟩ := hx
  cases hkey : readOperationByKey db (.autoSettlement candidate.candidateFingerprint) with
  | some existing =>
    simp only [hkey] at hx
    rw [repeatAutoSettlement_ok hx]
    exact .inl rfl
  | none =>
    simp only [hkey] at hx
    exact settleCandidate_sets h horder hentry hx

theorem decideEntry_sets {overlap : SettledOrderOverlap} {candidates : List MatchCandidate} (h : Keys db)
    (hentry : entry ∈ db.ledger.entries) (hx : decideEntry pf entry db.orders.clock overlap candidates db = .ok (r, db')) :
    SetsOnly entry.ledgerEntryId db.ledger db'.ledger := by
  match candidates with
  | [] => exact reportUnmatched_sets h hentry hx
  | [candidate] =>
    simp only [decideEntry] at hx
    by_cases hover : 0 < overlap.count
    · rw [if_pos hover] at hx
      exact reportUnmatched_sets h hentry hx
    · rw [if_neg hover] at hx
      exact autoSettleCandidate_sets h hentry hx
  | a :: b :: rest => exact reportAmbiguous_sets h hentry hx

theorem reconcileCredit_sets (h : Keys db) (hentry : entry ∈ db.ledger.entries)
    (hx : reconcileCredit pf entry db.orders.clock db = .ok (r, db')) :
    SetsOnly entry.ledgerEntryId db.ledger db'.ledger := by
  unfold reconcileCredit at hx
  rw [readWith_bind_ok] at hx
  obtain ⟨ensured, m, hcollect, hx⟩ := bind_ok.mp hx
  have hm : Beside pf db m :=
    collect_beside (f := fun now fact => ensureCandidate pf entry now fact) ensureCandidate_ok hcollect
  obtain ⟨_, m', hstale, hx⟩ := bind_ok.mp hx
  rw [← hm.orders] at hstale hx
  have hboth : Beside pf db m' := hm.trans (supersedeStaleEligibleCandidates_ok hstale)
  have hm' : Beside pf m m' := supersedeStaleEligibleCandidates_ok hstale
  rw [← hm'.orders] at hx
  rw [← hboth.ledger]
  exact decideEntry_sets (h.moves hboth.moves) (by rw [hboth.ledger]; exact hentry) hx

/-- **Reconciling an entry sets the state of that entry only.** -/
theorem reconcileEntry_sets {ledgerEntryId : String} {now : Int} (h : Keys db)
    (hx : reconcileEntry pf ledgerEntryId now db = .ok (r, db')) : SetsOnly ledgerEntryId db.ledger db'.ledger := by
  unfold reconcileEntry at hx
  rw [readWith_bind_ok] at hx
  by_cases hsandbox : (db.entry ledgerEntryId).any db.isSandbox = true
  · rw [id, if_pos hsandbox] at hx
    exact (pure_ok.mp hx).2 ▸ .inl rfl
  · rw [id, if_neg hsandbox] at hx
    obtain ⟨m, hm, hledger, -, -, hx⟩ := financialNow_moves pf hx
    rw [← hledger]
    cases hfound : db.entry ledgerEntryId with
    | none =>
      simp only [hfound, pure_ok] at hx
      exact hx.2 ▸ .inl rfl
    | some entry =>
      simp only [hfound] at hx
      have hentry : entry ∈ m.ledger.entries := hledger ▸ List.mem_of_find?_eq_some hfound
      have hid : entry.ledgerEntryId = ledgerEntryId := by simpa using List.find?_some hfound
      unfold reconcileFound at hx
      rw [readWith_bind_ok] at hx
      by_cases haside : m.setAside entry = true
      · rw [id, if_pos haside] at hx
        exact (pure_ok.mp hx).2 ▸ .inl rfl
      · rw [id, if_neg haside] at hx
        cases hactive : readActiveMatchForEntry m entry.ledgerEntryId with
        | some active =>
          simp only [hactive, pure_ok] at hx
          exact hx.2 ▸ .inl rfl
        | none =>
          simp only [hactive, require_bind_ok] at hx
          exact hid ▸ reconcileCredit_sets (h.moves hm) hentry hx.2

end

/-! ## The statement -/

/-- The entries that the last trigger found pending and that have not been passed since; a page that
    could not be read settles the debt. -/
def owed : List Event → List ReconciliationSweepCursor
  | [] => []
  | .sweepTriggered pending _ :: _ => pending
  | .entryReconciled ledgerEntryId :: log => (owed log).filter fun key => key.ledgerEntryId ≠ ledgerEntryId
  | .pageFailed :: _ => []
  | _ :: log => owed log

/-- Every entry that was pending when the last sweep was triggered has been passed to `reconcileEntry`
    since, or a page could not be read. -/
def Swept (log : List Event) : Prop :=
  ∀ since pending cursor before, log = since ++ .sweepTriggered pending cursor :: before →
    (∀ pending' cursor', .sweepTriggered pending' cursor' ∉ since) →
    .pageFailed ∈ since ∨ ∀ key ∈ pending, .entryReconciled key.ledgerEntryId ∈ since

/-- No run is in flight, no sweep is requested, and no retry is scheduled. -/
structure World.AtRest (w : World) : Prop where
  running : w.stopped = false
  inFlight : w.inFlight = none
  sweepRequested : w.sweepRequested = false
  sweepRetryTimer : w.sweepRetryTimer = false

/-- A run waits between two pages of its sweep. -/
def World.Parked (w : World) : Prop := ∃ run reason counts, w.inFlight = some ⟨run, .parked reason counts⟩

/-- The next page exhausts the budget of the run that is parked, and is not the last. -/
def World.StopsAtBudget (options : ReconciliationSchedulerOptions) (w : World) (outside : Outside) : Prop :=
  outside.pageFails = false ∧ ∃ run reason counts, w.inFlight = some ⟨run, .parked reason counts⟩ ∧
    options.maximumEntriesPerRun ≤ counts.processedEntries + options.batchSize ∧
    (pendingLedgerPage w.store w.cursor (options.maximumEntriesPerRun - counts.processedEntries)).hasMore = true

/-- The ledger takes no pending entry away; a trigger finds an entry at or behind the cursor only while
    a sweep is between two pages; and a sweep stops at its budget only when nothing it owes to the last
    trigger lies at or behind its cursor. -/
def Unabsorbed (options : ReconciliationSchedulerOptions) (pf : FinancePlatform) (w : World) : Input → Prop
  | .store op entropy => ∀ key ∈ pendingEntries w.store, key ∈ pendingEntries (op.run pf (w.store.supplied entropy))
  | .triggerSweep _ => w.Parked ∨ ∀ key ∈ pendingEntries w.store, Beyond w.cursor key
  | .turn outside => w.StopsAtBudget options outside → ∀ key ∈ owed w.log, Beyond w.cursor key
  | _ => True

/-- What is not owed has been passed. -/
theorem owed_spec {pending : List ReconciliationSweepCursor} {cursor : Option ReconciliationSweepCursor} {before : List Event} :
    ∀ {since : List Event}, (∀ pending' cursor', .sweepTriggered pending' cursor' ∉ since) →
      .pageFailed ∈ since ∨ ∀ key ∈ pending, .entryReconciled key.ledgerEntryId ∈ since ∨
        key ∈ owed (since ++ .sweepTriggered pending cursor :: before)
  | [], _ => .inr fun key hkey => .inr hkey
  | event :: since, hlast => by
    have hrest : .pageFailed ∈ since ∨ ∀ key ∈ pending, .entryReconciled key.ledgerEntryId ∈ since ∨
        key ∈ owed (since ++ .sweepTriggered pending cursor :: before) :=
      owed_spec fun pending' cursor' h => hlast pending' cursor' (List.mem_cons_of_mem _ h)
    refine hrest.elim (fun hfailed => .inl (List.mem_cons_of_mem _ hfailed)) fun hall => ?_
    have hkept (hsame : owed (event :: (since ++ .sweepTriggered pending cursor :: before)) =
        owed (since ++ .sweepTriggered pending cursor :: before)) (key : ReconciliationSweepCursor) (hkey : key ∈ pending) :
        .entryReconciled key.ledgerEntryId ∈ event :: since ∨
          key ∈ owed (event :: (since ++ .sweepTriggered pending cursor :: before)) :=
      (hall key hkey).imp (List.mem_cons_of_mem _) fun howed => hsame ▸ howed
    cases event with
    | sweepTriggered pending' cursor' => exact absurd List.mem_cons_self (hlast pending' cursor')
    | entryReconciled ledgerEntryId =>
      refine .inr fun key hkey => ?_
      by_cases hid : key.ledgerEntryId = ledgerEntryId
      · exact .inl (hid ▸ List.mem_cons_self)
      · refine (hall key hkey).imp (List.mem_cons_of_mem _) fun howed => ?_
        exact List.mem_filter.mpr ⟨howed, decide_eq_true hid⟩
    | pageFailed => exact .inl List.mem_cons_self
    | orderReconciled => exact .inr (hkept rfl)
    | verifyCalled => exact .inr (hkept rfl)
    | verified => exact .inr (hkept rfl)
    | refused => exact .inr (hkept rfl)

theorem swept_of_owed_nil {log : List Event} (h : owed log = []) : Swept log := by
  rintro since pending cursor before rfl hlast
  have hspec : .pageFailed ∈ since ∨ ∀ key ∈ pending, .entryReconciled key.ledgerEntryId ∈ since ∨
      key ∈ owed (since ++ .sweepTriggered pending cursor :: before) := owed_spec hlast
  rcases hspec with hfailed | hall
  · exact .inl hfailed
  · refine .inr fun key hkey => (hall key hkey).resolve_right fun howed => ?_
    rw [h] at howed
    exact absurd howed List.not_mem_nil

namespace World

/-! ## Passing entries -/

/-- The work of a turn, seen from the sweep: entries that stay owed stay pending. -/
structure Passes (pf : FinancePlatform) (w w' : World) : Prop where
  store : Runs.Reachable (financeStore pf) w.store → Runs.Reachable (financeStore pf) w'.store
  owed : ∀ key ∈ owed w'.log, key ∈ owed w.log
  pending : Runs.Reachable (financeStore pf) w.store → ∀ key ∈ Scheduling.owed w'.log, key ∈ pendingEntries w.store →
    key ∈ pendingEntries w'.store
  cursor : w'.cursor = w.cursor
  sweepRequested : w'.sweepRequested = w.sweepRequested
  sweepRetryTimer : w'.sweepRetryTimer = w.sweepRetryTimer
  stopped : w'.stopped = w.stopped

theorem Passes.refl (w : World) : Passes pf w w := ⟨id, fun _ h => h, fun _ _ _ h => h, rfl, rfl, rfl, rfl⟩

theorem Passes.trans {w m w' : World} (h : Passes pf w m) (h' : Passes pf m w') : Passes pf w w' where
  store := fun hr => h'.store (h.store hr)
  owed := fun key hkey => h.owed key (h'.owed key hkey)
  pending := fun hr key hkey hp => h'.pending (h.store hr) key hkey (h.pending hr key (h'.owed key hkey) hp)
  cursor := h'.cursor.trans h.cursor
  sweepRequested := h'.sweepRequested.trans h.sweepRequested
  sweepRetryTimer := h'.sweepRetryTimer.trans h.sweepRetryTimer
  stopped := h'.stopped.trans h.stopped

/-- One call of `reconcileEntry`. -/
theorem callReconcileEntry_keeps {db db' : FinanceDb} {ledgerEntryId : String} {answer : EntryAnswer}
    {result : Option ReconcileEntryResult} (hr : Runs.Reachable (financeStore pf) db)
    (hcall : callReconcileEntry pf ledgerEntryId answer db = (result, db')) :
    Runs.Reachable (financeStore pf) db' ∧
      ∀ key ∈ pendingEntries db, key.ledgerEntryId ≠ ledgerEntryId → key ∈ pendingEntries db' := by
  unfold callReconcileEntry at hcall
  cases answer with
  | fault =>
    obtain ⟨-, rfl⟩ := Prod.mk.inj hcall
    exact ⟨hr, fun _ hkey _ => hkey⟩
  | reads now entropy =>
    simp only at hcall
    cases hx : reconcileEntry pf ledgerEntryId now (db.supplied entropy) with
    | error e =>
      simp only [hx] at hcall
      obtain ⟨-, rfl⟩ := Prod.mk.inj hcall
      exact ⟨hr, fun _ hkey _ => hkey⟩
    | ok p =>
      obtain ⟨result', db''⟩ := p
      simp only [hx] at hcall
      obtain ⟨-, rfl⟩ := Prod.mk.inj hcall
      have hcommitted : (FinanceOp.reconcileEntry ledgerEntryId now).run pf (db.supplied entropy) = db'' := by
        show committed (reconcileEntry pf ledgerEntryId now) (db.supplied entropy) = db''
        unfold committed
        rw [hx]
      have hsupplies : Move pf db (db.supplied entropy) := .supplied entropy
      have hkeys : Keys (db.supplied entropy) := (Keys.reachable hr).move hsupplies
      refine ⟨hcommitted ▸ reachable_call hr _ entropy, fun key hkey hne => ?_⟩
      have hsupplied : key ∈ pendingEntries (db.supplied entropy) := hkey
      exact (reconcileEntry_sets hkeys hx).pending hsupplied hne

theorem recordEntry_passes (ledgerEntryId : String) (answer : EntryAnswer) (s : World × RunCounts) :
    Passes pf s.1 (recordEntry ledgerEntryId (callReconcileEntry pf ledgerEntryId answer s.1.store) s).1 ∧
      ∀ key ∈ owed (recordEntry ledgerEntryId (callReconcileEntry pf ledgerEntryId answer s.1.store) s).1.log,
        key.ledgerEntryId ≠ ledgerEntryId := by
  have howed {key : ReconciliationSweepCursor} (h : key ∈ owed (.entryReconciled ledgerEntryId :: s.1.log)) :
      key ∈ owed s.1.log ∧ key.ledgerEntryId ≠ ledgerEntryId :=
    (List.mem_filter.mp h).imp_right of_decide_eq_true
  refine ⟨⟨fun hr => (callReconcileEntry_keeps hr rfl).1, fun key hkey => (howed hkey).1, fun hr key hkey hp => ?_,
    rfl, rfl, rfl, rfl⟩, fun key hkey => (howed hkey).2⟩
  exact (callReconcileEntry_keeps hr rfl).2 key hp (howed hkey).2

/-- The entries of a page have been passed. -/
theorem runEntries_passes (answers : Nat → EntryAnswer) (ids : List String) : ∀ (k : Nat) (s : World × RunCounts),
    Passes pf s.1 (runEntries pf answers ids k s).1 ∧
      (∀ key ∈ owed (runEntries pf answers ids k s).1.log, key.ledgerEntryId ∉ ids) ∧
      (runEntries pf answers ids k s).2.processedEntries = s.2.processedEntries + ids.length := by
  induction ids with
  | nil => exact fun _ s => ⟨.refl s.1, fun _ _ => List.not_mem_nil, rfl⟩
  | cons ledgerEntryId rest ih =>
    intro k s
    have hentry : Passes pf s.1 _ ∧ _ := recordEntry_passes ledgerEntryId (answers k) s
    obtain ⟨hfirst, hnot⟩ := hentry
    obtain ⟨hrest, hids, hcount⟩ := ih (k + 1) (recordEntry ledgerEntryId
      (callReconcileEntry pf ledgerEntryId (answers k) s.1.store) s)
    refine ⟨hfirst.trans hrest, fun key hkey => ?_, ?_⟩
    · rw [List.mem_cons, not_or]
      exact ⟨hnot key (hrest.owed key hkey), hids key hkey⟩
    · have hone (result : Option ReconcileEntryResult) (counts : RunCounts) :
          (counts.entryDone result).processedEntries = counts.processedEntries + 1 := by
        unfold RunCounts.entryDone
        split
        · split
          · rfl
          · rfl
        · rfl
      show (runEntries pf answers rest (k + 1) _).2.processedEntries = _
      rw [hcount, List.length_cons]
      show (s.2.entryDone _).processedEntries + rest.length = _
      rw [hone]
      omega

theorem mem_owed_passed {ids : List String} {log : List Event} {key : ReconciliationSweepCursor}
    (h : key ∈ owed (ids.map .entryReconciled ++ log)) : key ∈ owed log ∧ key.ledgerEntryId ∉ ids := by
  induction ids with
  | nil => exact ⟨h, List.not_mem_nil⟩
  | cons id ids ih =>
    obtain ⟨hmem, hne⟩ := List.mem_filter.mp h
    obtain ⟨howed, hnot⟩ := ih hmem
    refine ⟨howed, ?_⟩
    rw [List.mem_cons, not_or]
    exact ⟨of_decide_eq_true hne, hnot⟩

/-- A call of `reconcileOrder` leaves the entries waiting that it did not pass. -/
theorem callReconcileEach_keeps {answers : Nat → EntryAnswer} : ∀ {ids : List String} {k : Nat} {db : FinanceDb},
    Runs.Reachable (financeStore pf) db → Runs.Reachable (financeStore pf) (callReconcileEach pf answers ids k db).store ∧
      ∀ key ∈ pendingEntries db, key.ledgerEntryId ∉ (callReconcileEach pf answers ids k db).passed →
        key ∈ pendingEntries (callReconcileEach pf answers ids k db).store
  | [], _, _, hr => ⟨hr, fun _ hkey _ => hkey⟩
  | id :: ids, k, db, hr => by
    unfold callReconcileEach
    cases hcall : callReconcileEntry pf id (answers k) db with
    | mk result db' =>
      obtain ⟨hr', hkeeps⟩ := callReconcileEntry_keeps hr hcall
      cases result with
      | none => exact ⟨hr', fun key hkey hnot => hkeeps key hkey (fun h => hnot (h ▸ List.mem_singleton.mpr rfl))⟩
      | some result =>
        have hkept : Runs.Reachable _ (callReconcileEach pf answers ids (k + 1) db').store ∧ _ := callReconcileEach_keeps hr'
        obtain ⟨hstore, hrest⟩ := hkept
        refine ⟨hstore, fun key hkey hnot => ?_⟩
        have hnot' : key.ledgerEntryId ∉ id :: (callReconcileEach pf answers ids (k + 1) db').passed := hnot
        rw [List.mem_cons, not_or] at hnot'
        exact hrest key (hkeeps key hkey hnot'.1) hnot'.2

theorem callReconcileOrder_keeps {orderId : Uuid} {limit : Nat} {answer : OrderAnswer} {db : FinanceDb}
    (hr : Runs.Reachable (financeStore pf) db) :
    Runs.Reachable (financeStore pf) (callReconcileOrder pf orderId limit answer db).store ∧
      ∀ key ∈ pendingEntries db, key.ledgerEntryId ∉ (callReconcileOrder pf orderId limit answer db).passed →
        key ∈ pendingEntries (callReconcileOrder pf orderId limit answer db).store := by
  unfold callReconcileOrder
  split
  · exact ⟨hr, fun _ hkey _ => hkey⟩
  · exact callReconcileEach_keeps hr

theorem runOrder_passes (answers : Uuid → OrderAnswer) (s : World × RunCounts) (queued : Sigma fun _ : Uuid => Nat) :
    Passes pf s.1 (runOrder options pf answers s queued).1 ∧
      (runOrder options pf answers s queued).2.processedEntries = s.2.processedEntries := by
  have hdone : Passes pf s.1 (s.1.orderDone queued.1
      (callReconcileOrder pf queued.1 options.batchSize (answers queued.1) s.1.store)) := by
    refine ⟨fun hr => (callReconcileOrder_keeps hr).1, fun key hkey => (mem_owed_passed hkey).1, fun hr key hkey hp => ?_,
      rfl, rfl, rfl, rfl⟩
    refine (callReconcileOrder_keeps hr).2 key hp fun hpassed => ?_
    exact (mem_owed_passed hkey).2 (List.mem_reverse.mpr hpassed)
  have hretry (w : World) (orderId : Uuid) (n : Nat) : Passes pf w (w.scheduleOrderRetry options orderId n) := by
    unfold scheduleOrderRetry
    split
    · exact .refl w
    · exact ⟨id, fun _ hkey => hkey, fun _ _ _ hp => hp, rfl, rfl, rfl, rfl⟩
  unfold runOrder recordOrder
  cases (callReconcileOrder pf queued.1 options.batchSize (answers queued.1) s.1.store).results with
  | some results => exact ⟨hdone, rfl⟩
  | none => exact ⟨hdone.trans (hretry _ _ _), rfl⟩

theorem foldl_runOrder_passes (answers : Uuid → OrderAnswer) (orders : List (Sigma fun _ : Uuid => Nat)) :
    ∀ s : World × RunCounts, Passes pf s.1 (orders.foldl (runOrder options pf answers) s).1 ∧
      (orders.foldl (runOrder options pf answers) s).2.processedEntries = s.2.processedEntries := by
  induction orders with
  | nil => exact fun s => ⟨.refl s.1, rfl⟩
  | cons queued rest ih =>
    intro s
    have hone : Passes pf s.1 (runOrder options pf answers s queued).1 ∧ _ := runOrder_passes answers s queued
    obtain ⟨hfirst, hcount⟩ := hone
    obtain ⟨hrest, hcount'⟩ := ih (runOrder options pf answers s queued)
    exact ⟨hfirst.trans hrest, hcount'.trans hcount⟩

/-! ## Pages -/

/-- What an entry that is owed can rely on in the middle of a sweep: the sweep will come to it, or there
    will be another one. -/
def Coming (w : World) (key : ReconciliationSweepCursor) : Prop :=
  key ∈ pendingEntries w.store ∧ (Beyond w.cursor key ∨ w.sweepRequested = true)

/-- What it can rely on when no sweep goes on: the next one begins before it. -/
def Awaited (w : World) (key : ReconciliationSweepCursor) : Prop :=
  key ∈ pendingEntries w.store ∧ w.sweepRequested = true ∧ Beyond w.cursor key

theorem pageFailed_owed (w : World) : owed w.pageFailed.log = [] := by
  unfold pageFailed scheduleSweepRetry
  split
  · rfl
  · rfl

/-- A page of a sweep, read before the budget is spent. -/
theorem runPage_coming {outside : Outside} {w m : World} {counts counts' : RunCounts} {more : Bool}
    (hr : Runs.Reachable (financeStore pf) w.store) (hbudget : counts.processedEntries < options.maximumEntriesPerRun)
    (hcoming : w.stopped = false → ∀ key ∈ owed w.log, Coming w key)
    (hstops : outside.pageFails = false →
      options.maximumEntriesPerRun ≤ counts.processedEntries + options.batchSize →
      (pendingLedgerPage w.store w.cursor (options.maximumEntriesPerRun - counts.processedEntries)).hasMore = true →
      w.stopped = false → ∀ key ∈ owed w.log, Beyond w.cursor key)
    (hpage : runPage options pf outside (w, counts) = ((m, counts'), more)) :
    Runs.Reachable (financeStore pf) m.store ∧
      (more = true → counts'.processedEntries < options.maximumEntriesPerRun ∧
        (w.stopped = false → ∀ key ∈ owed m.log, Coming m key)) ∧
      (more = false → w.stopped = false → ∀ key ∈ owed m.log, Awaited m key) := by
  unfold runPage at hpage
  rw [if_neg (Nat.not_le.mpr hbudget)] at hpage
  by_cases hfails : outside.pageFails = true
  · rw [if_pos hfails] at hpage
    obtain ⟨hm, rfl⟩ := Prod.mk.inj hpage
    obtain ⟨rfl, -⟩ := Prod.mk.inj hm
    refine ⟨?_, nofun, fun _ _ key hkey => ?_⟩
    · show Runs.Reachable _ w.pageFailed.store
      unfold pageFailed scheduleSweepRetry
      split
      · exact hr
      · exact hr
    · rw [pageFailed_owed] at hkey
      exact absurd hkey List.not_mem_nil
  · rw [if_neg hfails] at hpage
    have hfails := Bool.not_eq_true _ ▸ hfails
    revert hpage
    generalize hlimit : min options.batchSize (options.maximumEntriesPerRun - counts.processedEntries) = limit
    intro hpage
    have hunique := (Keys.reachable hr).entries
    unfold sweepPage at hpage
    have hpassed : Passes pf w (runEntries pf outside.entries (pendingLedgerPage w.store w.cursor limit).ledgerEntryIds 0
        (w, counts)).1 ∧ _ := runEntries_passes outside.entries _ 0 (w, counts)
    obtain ⟨hpasses, hids, hcount⟩ := hpassed
    revert hpage hpasses hids hcount
    generalize runEntries pf outside.entries (pendingLedgerPage w.store w.cursor limit).ledgerEntryIds 0 (w, counts) = s
    intro hpage hpasses hids hcount
    have howed (hs : w.stopped = false) {key : ReconciliationSweepCursor} (hkey : key ∈ owed s.1.log) : key ∈ owed w.log ∧
        key ∈ pendingEntries w.store ∧ key ∈ pendingEntries s.1.store ∧ (Beyond w.cursor key ∨ w.sweepRequested = true) := by
      obtain ⟨hpending, hcase⟩ := hcoming hs key (hpasses.owed key hkey)
      exact ⟨hpasses.owed key hkey, hpending, hpasses.pending hr key hkey hpending, hcase⟩
    unfold closePage at hpage
    by_cases hmore : (pendingLedgerPage w.store w.cursor limit).hasMore = false
    · -- the last page: what is still owed waits for the sweep that has been requested since
      rw [if_pos hmore] at hpage
      obtain ⟨hm, rfl⟩ := Prod.mk.inj hpage
      obtain ⟨rfl, -⟩ := Prod.mk.inj hm
      refine ⟨hpasses.store hr, nofun, fun _ hs key hkey => ?_⟩
      obtain ⟨-, hpending, hpending', hcase⟩ := howed hs hkey
      refine ⟨hpending', ?_, nofun⟩
      show s.1.sweepRequested = true
      rw [hpasses.sweepRequested]
      refine hcase.resolve_left fun hbeyond => hids key hkey ?_
      exact pendingLedgerPage_last hpending hbeyond hmore
    · rw [if_neg hmore] at hpage
      have hmore : (pendingLedgerPage w.store w.cursor limit).hasMore = true := by simpa using hmore
      rw [pendingLedgerPage_length hmore] at hcount
      have hnext (hs : w.stopped = false) {key : ReconciliationSweepCursor} (hkey : key ∈ owed s.1.log)
          (hbeyond : Beyond w.cursor key) : Beyond (pendingLedgerPage w.store w.cursor limit).nextCursor key :=
        pendingLedgerPage_next hunique (howed hs hkey).2.1 hbeyond (hids key hkey)
      by_cases hspent : options.maximumEntriesPerRun ≤ s.2.processedEntries
      · -- the budget is spent: what is owed lies beyond the cursor, where the next run continues
        rw [if_pos hspent] at hpage
        obtain ⟨hm, rfl⟩ := Prod.mk.inj hpage
        obtain ⟨rfl, -⟩ := Prod.mk.inj hm
        rw [hcount] at hspent
        have hspent : options.maximumEntriesPerRun ≤ counts.processedEntries + limit := hspent
        obtain rfl : limit = options.maximumEntriesPerRun - counts.processedEntries := by omega
        refine ⟨hpasses.store hr, nofun, fun _ hs key hkey => ⟨(howed hs hkey).2.2.1, rfl, hnext hs hkey ?_⟩⟩
        exact hstops hfails (by omega) hmore hs key (howed hs hkey).1
      · rw [if_neg hspent] at hpage
        obtain ⟨hm, rfl⟩ := Prod.mk.inj hpage
        obtain ⟨rfl, rfl⟩ := Prod.mk.inj hm
        refine ⟨hpasses.store hr, fun _ => ⟨Nat.not_le.mp hspent, fun hs key hkey => ?_⟩, nofun⟩
        obtain ⟨-, -, hpending', hcase⟩ := howed hs hkey
        refine ⟨hpending', hcase.imp (hnext hs hkey) fun hrequested => ?_⟩
        show s.1.sweepRequested = true
        rw [hpasses.sweepRequested]
        exact hrequested

/-! ## The invariant -/

/-- Where the sweep stands: between two pages, or not at all. -/
structure Sweeping (options : ReconciliationSchedulerOptions) (pf : FinancePlatform) (w : World) : Prop where
  store : Runs.Reachable (financeStore pf) w.store
  budget : ∀ run reason counts, w.inFlight = some ⟨run, .parked reason counts⟩ →
    counts.processedEntries < options.maximumEntriesPerRun
  parked : w.stopped = false → w.Parked → ∀ key ∈ owed w.log, Coming w key
  waiting : w.stopped = false → ¬ w.Parked → ∀ key ∈ owed w.log, Awaited w key

theorem Sweeping.fresh {w : World} (h : Fresh pf w) : Sweeping options pf w where
  store := h.store
  budget := by rw [h.inFlight]; exact nofun
  parked := by rw [h.log]; exact fun _ _ _ hkey => absurd hkey List.not_mem_nil
  waiting := by rw [h.log]; exact fun _ _ _ hkey => absurd hkey List.not_mem_nil

/-- A step beside the sweep. -/
structure Beside (w w' : World) : Prop where
  store : w'.store = w.store
  owed : owed w'.log = owed w.log
  cursor : w'.cursor = w.cursor
  sweepRequested : w'.sweepRequested = w.sweepRequested
  stopped : w'.stopped = w.stopped
  inFlight : w'.inFlight = w.inFlight ∨ (¬ w.Parked ∧ ¬ w'.Parked)

theorem Sweeping.beside {w w' : World} (h : Sweeping options pf w) (hb : Beside w w') : Sweeping options pf w' := by
  have hparked : w'.Parked ↔ w.Parked := by
    rcases hb.inFlight with hf | ⟨hn, hn'⟩
    · unfold Parked
      rw [hf]
    · exact ⟨fun h => absurd h hn', fun h => absurd h hn⟩
  refine ⟨?_, fun run reason counts hf => ?_, fun hstopped hp key hkey => ?_, fun hstopped hp key hkey => ?_⟩
  · rw [hb.store]
    exact h.store
  · rcases hb.inFlight with heq | ⟨-, hn⟩
    · exact h.budget run reason counts (heq ▸ hf)
    · exact absurd ⟨run, reason, counts, hf⟩ hn
  · rw [hb.owed] at hkey
    unfold Coming
    rw [hb.store, hb.cursor, hb.sweepRequested]
    exact h.parked (hb.stopped ▸ hstopped) (hparked.mp hp) key hkey
  · rw [hb.owed] at hkey
    unfold Awaited
    rw [hb.store, hb.cursor, hb.sweepRequested]
    exact h.waiting (hb.stopped ▸ hstopped) (fun hp' => hp (hparked.mpr hp')) key hkey

/-! ## The last lines of `stop` -/

/-- The job runs the last lines of `stop`. -/
def Closes (job : Job) : Prop := job = .finishStop ∨ ∃ outcome, job = .resume .stop outcome

/-- They run only once the scheduler is stopped. -/
structure Closing (w : World) : Prop where
  jobs : w.stopped = false → ∀ job ∈ w.jobs, ¬ Closes job
  waiting : w.stopped = false → ∀ run, (run, .stop) ∉ w.waiting

theorem Closing.fresh {w : World} (h : Fresh pf w) : Closing w where
  jobs := by rw [h.jobs]; exact fun _ _ hmem => absurd hmem List.not_mem_nil
  waiting := by rw [h.waiting]; exact fun _ _ => List.not_mem_nil

/-- New jobs and waiters that are not of `stop`. -/
theorem Closing.of {w w' : World} (h : Closing w) (hstopped : w'.stopped = false → w.stopped = false)
    (hjobs : ∀ job ∈ w'.jobs, Closes job → job ∈ w.jobs ∨ ∃ run, (run, .stop) ∈ w.waiting)
    (hwaiting : ∀ run, (run, .stop) ∈ w'.waiting → (run, .stop) ∈ w.waiting) : Closing w' where
  jobs := fun hs job hmem hcloses => by
    rcases hjobs job hmem hcloses with hold | ⟨run, hwaits⟩
    · exact h.jobs (hstopped hs) job hold hcloses
    · exact h.waiting (hstopped hs) run hwaits
  waiting := fun hs run hmem => h.waiting (hstopped hs) run (hwaiting run hmem)

theorem not_closes_of_turn {job : Job} (h : isTurn job = true) : ¬ Closes job := by
  rintro (rfl | ⟨_, rfl⟩)
  · cases h
  · cases h

theorem Closing.ensureRun {w : World} (h : Closing w) (reason : String) : Closing (w.ensureRun reason) := by
  cases hf : w.inFlight with
  | some r =>
    rw [ensureRun_of_some hf]
    exact h
  | none =>
    rw [ensureRun_of_none hf]
    refine h.of id (fun job hmem hcloses => ?_) fun _ hw => hw
    rcases List.mem_append.mp hmem with hmem | hmem
    · exact .inl hmem
    · exact absurd hcloses (List.mem_singleton.mp hmem ▸ not_closes_of_turn rfl)

theorem Closing.await {w : World} (h : Closing w) (id : Nat) (orderId : Uuid) :
    Closing (w.await (.verification id orderId)) := by
  cases hf : w.inFlight with
  | none =>
    rw [await_of_none hf]
    exact h
  | some r =>
    rw [await_of_some hf]
    refine h.of (fun hs => hs) (fun job hmem _ => .inl hmem) fun run hw => ?_
    rcases List.mem_append.mp hw with hw | hw
    · exact hw
    · cases List.mem_singleton.mp hw

/-- Only the jobs change, and none of them is of `stop`. -/
theorem Closing.jobs_append {w w' : World} (h : Closing w) {old new : List Job} (hold : ∀ job ∈ old, job ∈ w.jobs)
    (hjobs : w'.jobs = old ++ new) (hnew : ∀ job ∈ new, ¬ Closes job) (hstopped : w'.stopped = w.stopped)
    (hwaiting : w'.waiting = w.waiting) : Closing w' := by
  refine h.of (fun hs => hstopped ▸ hs) (fun job hmem hcloses => ?_) fun run hw => hwaiting ▸ hw
  rcases List.mem_append.mp (hjobs ▸ hmem) with hmem | hmem
  · exact .inl (hold job hmem)
  · exact absurd hcloses (hnew job hmem)

/-- The jobs of the loop stay, less the first. -/
theorem Closing.taken {w : World} {job : Job} {jobs : List Job} (h : Closing w) (hjobs : w.jobs = job :: jobs) :
    Closing { w with jobs } :=
  h.jobs_append (fun _ hmem => hjobs ▸ List.mem_cons_of_mem _ hmem) (List.append_nil _).symm nofun rfl rfl

theorem Closing.same {w w' : World} (h : Closing w) (hloop : SameLoop w w') : Closing w' :=
  h.jobs_append (fun _ hmem => hmem) (hloop.jobs.trans (List.append_nil _).symm) nofun hloop.stopped hloop.waiting

theorem Closing.turned {w m w' : World} (h : Closing w) (hloop : SameLoop w m)
    (hw' : (∃ phase, w' = { m with inFlight := phase }) ∨ ∃ run outcome ticks, w' = m.endRun run outcome ticks) :
    Closing w' := by
  have hm := h.same hloop
  rcases hw' with ⟨phase, rfl⟩ | ⟨run, outcome, ticks, rfl⟩
  · exact hm.jobs_append (fun _ hmem => hmem) (List.append_nil _).symm nofun rfl rfl
  · refine hm.jobs_append (fun _ hmem => hmem) rfl (fun job hmem => ?_) rfl rfl
    exact List.mem_singleton.mp hmem ▸ not_closes_of_turn rfl

theorem Closing.resumeVerification {w : World} (h : Closing w) (id : Nat) (orderId : Uuid) (outcome : RunOutcome) :
    Closing (w.resumeVerification id orderId outcome) := by
  have hnoted (event : Event) : Closing (w.note event) := h.same ⟨rfl, rfl, rfl, rfl, rfl⟩
  cases outcome with
  | none => exact hnoted _
  | some result =>
    show Closing (if _ then _ else if _ then _ else _)
    split
    · exact (h.ensureRun _).await id orderId
    · split
      · exact hnoted _
      · exact hnoted _

theorem Closing.stop {w : World} (h : Closing w) : Closing w.stop := by
  unfold World.stop
  split
  · exact h
  · have hstopped (w' : World) (hs : w'.stopped = true) : Closing w' :=
      ⟨fun hr => absurd (hr.symm.trans hs) nofun, fun hr => absurd (hr.symm.trans hs) nofun⟩
    split
    · refine hstopped _ ?_
      unfold World.await
      split
      · rfl
      · rfl
    · exact hstopped _ rfl

theorem Closing.runJob {w : World} {job : Job} {jobs : List Job} (h : Closing w) (hjobs : w.jobs = job :: jobs)
    (outside : Outside) : Closing (({ w with jobs }).runJob options pf outside job) := by
  have htaken := h.taken hjobs
  have hqueued {job : Job} (hj : ¬ Closes job) : Closing (({ w with jobs }).queue job) :=
    htaken.jobs_append (fun _ hmem => hmem) rfl (fun job' hmem => List.mem_singleton.mp hmem ▸ hj) rfl rfl
  cases job with
  | start run reason =>
    obtain ⟨m, hloop, ⟨counts, hw'⟩ | ⟨outcome, hw'⟩⟩ :=
      FirstTurn.loop (startRun_turn run reason outside { w with jobs } : FirstTurn options pf _ _ _ _ _)
    · exact htaken.turned hloop (.inl ⟨_, hw'⟩)
    · exact htaken.turned hloop (.inr ⟨_, _, _, hw'⟩)
  | settle run outcome ticks =>
    cases ticks with
    | zero =>
      obtain ⟨next, hnext, heq⟩ := settleRun_eq run outcome { w with jobs }
      show Closing (World.settleRun run outcome { w with jobs })
      rw [heq]
      refine htaken.jobs_append (fun _ hmem => hmem) (List.append_assoc ..) (fun job hmem hcloses => ?_) rfl rfl
      rcases List.mem_append.mp hmem with hmem | hmem
      · obtain rfl := hnext job hmem
        rcases hcloses with heq | ⟨_, heq⟩ <;> cases heq
      · obtain rfl := List.mem_singleton.mp hmem
        rcases hcloses with heq | ⟨_, heq⟩ <;> cases heq
    | succ ticks => exact hqueued (not_closes_of_turn rfl)
  | coalesce =>
    show Closing (if w.stopped then _ else _)
    split
    · exact htaken
    · exact htaken.ensureRun _
  | relay run outcome ticks =>
    cases ticks with
    | zero =>
      refine htaken.of (fun hs => hs) (fun job hmem hcloses => ?_) fun run' hw => List.mem_of_mem_filter hw
      rcases List.mem_append.mp hmem with hmem | hmem
      · exact .inl hmem
      · obtain ⟨⟨r, waiter⟩, hin, rfl⟩ := List.mem_map.mp hmem
        rcases hcloses with heq | ⟨outcome', heq⟩
        · cases heq
        · obtain ⟨hwaiter, -⟩ := Job.resume.inj heq
          exact .inr ⟨r, hwaiter ▸ List.mem_of_mem_filter hin⟩
    | succ ticks =>
      refine hqueued fun hcloses => ?_
      rcases hcloses with heq | ⟨_, heq⟩ <;> cases heq
  | resume waiter outcome =>
    cases waiter with
    | stop =>
      show Closing (if outcome.isSome then _ else _)
      split
      · exact htaken.same ⟨rfl, rfl, rfl, rfl, rfl⟩
      · exact htaken
    | verification id orderId => exact htaken.resumeVerification id orderId outcome
  | finishStop => exact htaken.same ⟨rfl, rfl, rfl, rfl, rfl⟩

theorem Closing.step {w w' : World} {input : Input} (h : Closing w) (hs : w.step options pf input = some w') :
    Closing w' := by
  have hsame {m : World} (hloop : SameLoop w m) : Closing m := h.same hloop
  have hqueued (m : World) (hloop : SameLoop w m) (orderId : Uuid) : Closing (m.queueOrder orderId) := by
    have henqueued : SameLoop m (m.enqueue orderId) := ⟨rfl, rfl, rfl, rfl, rfl⟩
    exact (hsame (hloop.trans henqueued)).ensureRun _
  cases input with
  | triggerSweep reason =>
    obtain rfl := Option.some.inj hs
    unfold World.triggerSweep
    split
    · exact h
    · exact (hsame (m := w.requestSweep) ⟨rfl, rfl, rfl, rfl, rfl⟩).ensureRun _
  | triggerOrder orderId =>
    obtain rfl := Option.some.inj hs
    unfold World.triggerOrder
    split
    · exact h
    · exact hqueued w (.refl w) orderId
  | verifyOrder orderId =>
    obtain rfl := Option.some.inj hs
    unfold World.verifyOrder
    split
    · exact hsame ⟨rfl, rfl, rfl, rfl, rfl⟩
    · exact (hqueued (w.callVerify orderId) ⟨rfl, rfl, rfl, rfl, rfl⟩ orderId).await _ _
  | stop => exact Option.some.inj hs ▸ h.stop
  | store op entropy => exact Option.some.inj hs ▸ hsame ⟨rfl, rfl, rfl, rfl, rfl⟩
  | orderRetryTimer orderId =>
    obtain ⟨n, -, rfl⟩ := Option.map_eq_some_iff.mp hs
    unfold World.retryOrder
    split
    · exact hsame ⟨rfl, rfl, rfl, rfl, rfl⟩
    · exact (hsame (m := w.requeue orderId n) ⟨rfl, rfl, rfl, rfl, rfl⟩).ensureRun _
  | sweepRetryTimer =>
    simp only [World.step, Option.ite_none_right_eq_some] at hs
    obtain rfl := Option.some.inj hs.2
    unfold World.retrySweep
    split
    · exact hsame ⟨rfl, rfl, rfl, rfl, rfl⟩
    · exact (hsame (m := w.clearSweepRetry) ⟨rfl, rfl, rfl, rfl, rfl⟩).ensureRun _
  | job outside =>
    obtain ⟨job, jobs, hjobs, rfl⟩ := nextJob_eq hs
    exact h.runJob hjobs outside
  | turn outside =>
    obtain ⟨run, reason, counts, hf, rfl⟩ := nextTurn_eq hs
    have hloop : SameLoop w (runPage options pf outside (w, counts)).1.1 := runPage_loop outside (w, counts)
    have hend := closeTurn_end run reason outside (runPage options pf outside (w, counts)).1
      (runPage options pf outside (w, counts)).2
    revert hloop hend
    generalize runPage options pf outside (w, counts) = s
    obtain ⟨s, more⟩ := s
    intro hloop hend
    revert hend
    generalize closeTurn run reason outside (s, more) = w'
    intro hend
    cases hend with
    | parked => exact h.turned hloop (.inl ⟨_, rfl⟩)
    | ended outcome => exact h.turned hloop (.inr ⟨_, _, _, rfl⟩)

/-! ## Every step -/

theorem beside_ensureRun (w : World) (reason : String) : Beside w (w.ensureRun reason) := by
  cases hf : w.inFlight with
  | some r =>
    rw [ensureRun_of_some hf]
    exact ⟨rfl, rfl, rfl, rfl, rfl, .inl rfl⟩
  | none =>
    rw [ensureRun_of_none hf]
    refine ⟨rfl, rfl, rfl, rfl, rfl, .inr ⟨?_, ?_⟩⟩
    · rintro ⟨run, reason', counts, heq⟩
      cases hf.symm.trans heq
    · rintro ⟨run, reason', counts, heq⟩
      cases heq

theorem beside_await (w : World) (waiter : Waiter) : Beside w (w.await waiter) := by
  unfold World.await
  split
  · exact ⟨rfl, rfl, rfl, rfl, rfl, .inl rfl⟩
  · exact ⟨rfl, rfl, rfl, rfl, rfl, .inl rfl⟩

theorem Beside.refl (w : World) : Beside w w := ⟨rfl, rfl, rfl, rfl, rfl, .inl rfl⟩

theorem Beside.trans {w m w' : World} (h : Beside w m) (h' : Beside m w') : Beside w w' where
  store := h'.store.trans h.store
  owed := h'.owed.trans h.owed
  cursor := h'.cursor.trans h.cursor
  sweepRequested := h'.sweepRequested.trans h.sweepRequested
  stopped := h'.stopped.trans h.stopped
  inFlight := by
    rcases h.inFlight with hf | ⟨hn, hn'⟩
    · rcases h'.inFlight with hf' | ⟨hm, hm'⟩
      · exact .inl (hf'.trans hf)
      · refine .inr ⟨fun hp => hm ?_, hm'⟩
        unfold Parked at hp ⊢
        rw [hf]
        exact hp
    · rcases h'.inFlight with hf' | ⟨hm, hm'⟩
      · refine .inr ⟨hn, fun hp => hn' ?_⟩
        unfold Parked at hp ⊢
        rw [← hf']
        exact hp
      · exact .inr ⟨hn, hm'⟩

theorem Sweeping.requestSweep {w : World} (h : Sweeping options pf w)
    (hfound : w.Parked ∨ ∀ key ∈ pendingEntries w.store, Beyond w.cursor key) : Sweeping options pf w.requestSweep where
  store := h.store
  budget := h.budget
  parked := fun _ _ _ hkey => ⟨hkey, .inr rfl⟩
  waiting := fun _ hp key hkey => ⟨hkey, rfl, (hfound.resolve_left hp) key hkey⟩

theorem Sweeping.stop {w : World} (h : Sweeping options pf w) : Sweeping options pf w.stop := by
  have hclosed : Sweeping options pf w.close := ⟨h.store, h.budget, nofun, nofun⟩
  unfold World.stop
  split
  · exact h
  · split
    · exact hclosed.beside (beside_await _ _)
    · exact hclosed.beside ⟨rfl, rfl, rfl, rfl, rfl, .inl rfl⟩

/-- The ledger inserts, or another call leaves what is pending pending. -/
theorem Sweeping.insert {w : World} (h : Sweeping options pf w) (op : FinanceOp) (entropy : Entropy)
    (hkeeps : ∀ key ∈ pendingEntries w.store, key ∈ pendingEntries (op.run pf (w.store.supplied entropy))) :
    Sweeping options pf { w with store := op.run pf (w.store.supplied entropy) } where
  store := reachable_call h.store op entropy
  budget := h.budget
  parked := fun hs hp key hkey => (h.parked hs hp key hkey).imp_left (hkeeps key)
  waiting := fun hs hp key hkey => (h.waiting hs hp key hkey).imp_left (hkeeps key)

/-- A turn parks while every entry that is owed is coming, or ends when the next sweep is awaited. -/
theorem Sweeping.turned {s : World × RunCounts} {more : Bool} {run : Nat} {reason : String} {outside : Outside} {w' : World}
    (hr : Runs.Reachable (financeStore pf) s.1.store)
    (hmore : more = true → s.2.processedEntries < options.maximumEntriesPerRun ∧
      (s.1.stopped = false → ∀ key ∈ owed s.1.log, Coming s.1 key))
    (hdone : more = false → s.1.stopped = false → ∀ key ∈ owed s.1.log, Awaited s.1 key)
    (hend : TurnEnd run reason outside s more w') : Sweeping options pf w' := by
  cases hend with
  | parked =>
    refine ⟨hr, ?_, fun hs _ => (hmore rfl).2 hs, fun _ hp => absurd ⟨run, reason, s.2, rfl⟩ hp⟩
    intro run' reason' counts' hf
    obtain ⟨-, hphase⟩ := Run.mk.inj (Option.some.inj hf)
    obtain ⟨-, rfl⟩ := Phase.parked.inj hphase
    exact (hmore rfl).1
  | ended outcome =>
    refine ⟨hr, fun _ _ _ hf => ?_, fun _ hp => ?_, fun hs _ => hdone rfl hs⟩
    · cases hf
    · obtain ⟨_, _, _, hf⟩ := hp
      cases hf

theorem not_parked_of_phase {w : World} {r : Run} (hf : w.inFlight = some r)
    (hphase : ∀ reason counts, r.phase ≠ .parked reason counts) : ¬ w.Parked := by
  rintro ⟨run, reason, counts, heq⟩
  obtain rfl := Option.some.inj (hf.symm.trans heq)
  exact hphase reason counts rfl

theorem Sweeping.startRun {w : World} {run : Nat} {reason : String} {outside : Outside} (h : Sweeping options pf w)
    (hp : ¬ w.Parked) : Sweeping options pf (w.startRun options pf run reason outside) := by
  have hturn : FirstTurn options pf run reason outside w _ := startRun_turn run reason outside w
  revert hturn
  generalize w.startRun options pf run reason outside = w'
  intro hturn
  obtain ⟨hpasses, hcount⟩ : Passes pf w (w.runOrders options pf outside.orders).1 ∧
      (w.runOrders options pf outside.orders).2.processedEntries = 0 := foldl_runOrder_passes outside.orders _ (w, _)
  have howed (hs : w.stopped = false) {key : ReconciliationSweepCursor}
      (hkey : key ∈ owed (w.runOrders options pf outside.orders).1.log) :
      Awaited (w.runOrders options pf outside.orders).1 key := by
    obtain ⟨hpending, hrequested, hbeyond⟩ := h.waiting hs hp key (hpasses.owed key hkey)
    unfold Awaited
    rw [hpasses.sweepRequested, hpasses.cursor]
    exact ⟨hpasses.pending h.store key hkey hpending, hrequested, hbeyond⟩
  cases hturn with
  | clockFailed =>
    have hend : TurnEnd run reason outside (w, ⟨0, 0, 0, 0⟩) false (w.endRun run none outside.ticks) :=
      .ended none fun _ => nofun
    exact .turned h.store (fun hm => absurd hm Bool.false_ne_true) (fun _ hs => h.waiting hs hp) hend
  | ordersOnly hclock hnone hend =>
    exact .turned (hpasses.store h.store) (fun hm => absurd hm Bool.false_ne_true)
      (fun _ hs key => howed (hpasses.stopped ▸ hs)) hend
  | @swept s more _ hclock hsweep hpage hend =>
    revert howed hpasses hcount hpage
    generalize w.runOrders options pf outside.orders = o
    intro hpasses hcount howed hpage
    obtain ⟨m, counts⟩ := s
    have hloop : SameLoop o.1.takeRequest m := by
      have hrun : SameLoop o.1.takeRequest (runPage options pf outside (o.1.takeRequest, o.2)).1.1 :=
        runPage_loop outside (o.1.takeRequest, o.2)
      rwa [hpage] at hrun
    have hstopped : o.1.takeRequest.stopped = w.stopped := hpasses.stopped
    have hbatch : o.2.processedEntries < options.maximumEntriesPerRun := by
      rw [hcount]
      exact options.batchSizeValid.1.trans options.budgetValid.1
    have hreach : Runs.Reachable (financeStore pf) o.1.takeRequest.store := hpasses.store h.store
    obtain ⟨hr, hmore, hdone⟩ := runPage_coming hreach hbatch
      (fun hs key hkey => (howed (hstopped ▸ hs) hkey).imp_right fun hcase => .inl hcase.2)
      (fun _ _ _ hs key hkey => (howed (hstopped ▸ hs) hkey).2.2) hpage
    exact .turned hr (fun hm => (hmore hm).imp_right fun hc hs => hc (hloop.stopped ▸ hs))
      (fun hm hs => hdone hm (hloop.stopped ▸ hs)) hend

theorem Sweeping.nextTurn {w w' : World} {outside : Outside} (h : Sweeping options pf w)
    (hstops : w.StopsAtBudget options outside → ∀ key ∈ owed w.log, Beyond w.cursor key)
    (hs : w.nextTurn options pf outside = some w') : Sweeping options pf w' := by
  obtain ⟨run, reason, counts, hf, rfl⟩ := nextTurn_eq hs
  have hparked : w.Parked := ⟨run, reason, counts, hf⟩
  cases hpage : runPage options pf outside (w, counts) with
  | mk s more =>
    obtain ⟨m, counts'⟩ := s
    have hloop : SameLoop w m := by
      have hrun : SameLoop w (runPage options pf outside (w, counts)).1.1 := runPage_loop outside (w, counts)
      rwa [hpage] at hrun
    obtain ⟨hr, hmore, hdone⟩ := runPage_coming h.store (h.budget run reason counts hf) (fun hs => h.parked hs hparked)
      (fun hfails hbudget hpages _ => hstops ⟨hfails, run, reason, counts, hf, hbudget, hpages⟩) hpage
    exact .turned hr (fun hm => (hmore hm).imp_right fun hc hs => hc (hloop.stopped ▸ hs))
      (fun hm hs => hdone hm (hloop.stopped ▸ hs)) (closeTurn_end run reason outside _ more)

theorem Sweeping.nextJob {w w' : World} {outside : Outside} (h : Sweeping options pf w) (ho : Orderly w) (hc : Closing w)
    (hs : w.nextJob options pf outside = some w') : Sweeping options pf w' := by
  obtain ⟨job, jobs, hjobs, rfl⟩ := nextJob_eq hs
  have htaken : Sweeping options pf { w with jobs } := h.beside ⟨rfl, rfl, rfl, rfl, rfl, .inl rfl⟩
  have hstopped (hcloses : Closes job) : w.stopped = true := by
    rw [← Bool.not_eq_false]
    exact fun hrunning => hc.jobs hrunning job (hjobs ▸ List.mem_cons_self) hcloses
  have hfinished (hcloses : Closes job) : Sweeping options pf ({ w with jobs }).finishStop :=
    ⟨h.store, h.budget, fun hr => absurd (hr.symm.trans (hstopped hcloses)) nofun,
      fun hr => absurd (hr.symm.trans (hstopped hcloses)) nofun⟩
  cases job with
  | start run reason =>
    obtain ⟨r, hf, -, ⟨_, -, hphase⟩ | ⟨_, _, heq, -⟩⟩ := ho.turn rfl hjobs
    · exact htaken.startRun (not_parked_of_phase hf (by rw [hphase]; exact nofun))
    · cases heq
  | settle run outcome ticks =>
    obtain ⟨r, hf, -, ⟨_, heq, -⟩ | ⟨_, _, -, hphase⟩⟩ := ho.turn rfl hjobs
    · cases heq
    · cases ticks with
      | zero =>
        obtain ⟨next, -, heq⟩ := settleRun_eq run outcome { w with jobs }
        show Sweeping options pf (World.settleRun run outcome { w with jobs })
        rw [heq]
        refine htaken.beside ⟨rfl, rfl, rfl, rfl, rfl, .inr ⟨?_, ?_⟩⟩
        · exact not_parked_of_phase hf (by rw [hphase]; exact nofun)
        · rintro ⟨_, _, _, heq⟩
          cases heq
      | succ ticks => exact htaken.beside ⟨rfl, rfl, rfl, rfl, rfl, .inl rfl⟩
  | coalesce =>
    show Sweeping options pf (if w.stopped then _ else _)
    split
    · exact htaken
    · exact htaken.beside (beside_ensureRun _ _)
  | relay run outcome ticks =>
    cases ticks with
    | zero => exact htaken.beside ⟨rfl, rfl, rfl, rfl, rfl, .inl rfl⟩
    | succ ticks => exact htaken.beside ⟨rfl, rfl, rfl, rfl, rfl, .inl rfl⟩
  | resume waiter outcome =>
    cases waiter with
    | stop =>
      show Sweeping options pf (if outcome.isSome then _ else _)
      split
      · exact hfinished (.inr ⟨outcome, rfl⟩)
      · exact htaken
    | verification id orderId =>
      cases outcome with
      | none => exact htaken.beside ⟨rfl, rfl, rfl, rfl, rfl, .inl rfl⟩
      | some result =>
        show Sweeping options pf (if _ then _ else if _ then _ else _)
        split
        · exact htaken.beside ((beside_ensureRun _ _).trans (beside_await _ _))
        · split
          · exact htaken.beside ⟨rfl, rfl, rfl, rfl, rfl, .inl rfl⟩
          · exact htaken.beside ⟨rfl, rfl, rfl, rfl, rfl, .inl rfl⟩
  | finishStop => exact hfinished (.inl rfl)

theorem Sweeping.step {w w' : World} {input : Input} (h : Sweeping options pf w) (ho : Orderly w) (hc : Closing w)
    (hun : Unabsorbed options pf w input) (hs : w.step options pf input = some w') : Sweeping options pf w' := by
  have hqueued (m : World) (hm : Beside w m) (orderId : Uuid) : Beside w (m.queueOrder orderId) := by
    have henqueued : Beside m (m.enqueue orderId) := ⟨rfl, rfl, rfl, rfl, rfl, .inl rfl⟩
    exact (hm.trans henqueued).trans (beside_ensureRun _ _)
  cases input with
  | triggerSweep reason =>
    obtain rfl := Option.some.inj hs
    unfold World.triggerSweep
    split
    · exact h
    · exact (h.requestSweep hun).beside (beside_ensureRun _ _)
  | triggerOrder orderId =>
    obtain rfl := Option.some.inj hs
    unfold World.triggerOrder
    split
    · exact h
    · exact h.beside (hqueued w (.refl w) orderId)
  | verifyOrder orderId =>
    obtain rfl := Option.some.inj hs
    have hcalled : Beside w (w.callVerify orderId) := ⟨rfl, rfl, rfl, rfl, rfl, .inl rfl⟩
    unfold World.verifyOrder
    split
    · exact h.beside ⟨rfl, rfl, rfl, rfl, rfl, .inl rfl⟩
    · exact h.beside ((hqueued _ hcalled orderId).trans (beside_await _ _))
  | stop => exact Option.some.inj hs ▸ h.stop
  | store op entropy => exact Option.some.inj hs ▸ h.insert op entropy hun
  | orderRetryTimer orderId =>
    obtain ⟨n, -, rfl⟩ := Option.map_eq_some_iff.mp hs
    have hrequeued : Beside w (w.requeue orderId n) := ⟨rfl, rfl, rfl, rfl, rfl, .inl rfl⟩
    unfold World.retryOrder
    split
    · exact h.beside ⟨rfl, rfl, rfl, rfl, rfl, .inl rfl⟩
    · exact h.beside (hrequeued.trans (beside_ensureRun _ _))
  | sweepRetryTimer =>
    simp only [World.step, Option.ite_none_right_eq_some] at hs
    have hcleared : Beside w w.clearSweepRetry := ⟨rfl, rfl, rfl, rfl, rfl, .inl rfl⟩
    obtain rfl := Option.some.inj hs.2
    unfold World.retrySweep
    split
    · exact h.beside hcleared
    · exact h.beside (hcleared.trans (beside_ensureRun _ _))
  | job outside => exact h.nextJob ho hc hs
  | turn outside => exact h.nextTurn hun hs

end World

/-- **No sweep is lost**: as long as no trigger is absorbed by a sweep that has passed its entries by,
    whatever was pending when the last sweep was triggered has been passed to `reconcileEntry` since
    when the scheduler comes to rest, or a page could not be read. -/
theorem sweeps_complete {w : World}
    (h : Runs.Reachable ((reconciliationScheduler options pf).restrict (Unabsorbed options pf)) w) (hrest : w.AtRest) :
    Swept w.log := by
  have hinv := h.invariant (I := fun w => w.Orderly ∧ w.Closing ∧ w.Sweeping options pf)
    (fun s hs => ⟨.fresh hs, .fresh hs, .fresh hs⟩)
    fun s input s' hi hstep => ⟨hi.1.step hstep.2, hi.2.1.step hstep.2, hi.2.2.step hi.1 hi.2.1 hstep.1 hstep.2⟩
  refine swept_of_owed_nil (List.eq_nil_iff_forall_not_mem.mpr fun key hkey => ?_)
  have hparked : ¬ w.Parked := by
    rintro ⟨run, reason, counts, hf⟩
    cases hrest.inFlight.symm.trans hf
  have hawaited := hinv.2.2.waiting hrest.running hparked key hkey
  exact absurd (hrest.sweepRequested.symm.trans hawaited.2.1) nofun

/-! ## Two samples -/

/-- A step that finds no entry at or behind the cursor. -/
def unabsorbedStep (options : ReconciliationSchedulerOptions) (pf : FinancePlatform) (w : World) (input : Input) :
    Option World :=
  let beyond (keys : List ReconciliationSweepCursor) := keys.all fun key => w.cursor.all fun c => decide (c.lt key)
  match input with
  | .triggerSweep _ => if beyond (pendingEntries w.store) then w.step options pf input else none
  | .turn _ => if beyond (owed w.log) then w.step options pf input else none
  | .store .. => none
  | _ => w.step options pf input

theorem unabsorbedStep_spec {w w' : World} {input : Input} (h : unabsorbedStep options pf w input = some w') :
    Unabsorbed options pf w input ∧ w.step options pf input = some w' := by
  have hbeyond {keys : List ReconciliationSweepCursor}
      (hall : (keys.all fun key => w.cursor.all fun c => decide (c.lt key)) = true) : ∀ key ∈ keys, Beyond w.cursor key := by
    intro key hkey c hc
    have hkeyed := List.all_eq_true.mp hall key hkey
    rw [Option.mem_def.mp hc] at hkeyed
    exact of_decide_eq_true hkeyed
  cases input with
  | triggerSweep reason =>
    obtain ⟨hall, hs⟩ := Option.ite_none_right_eq_some.mp h
    exact ⟨.inr (hbeyond hall), hs⟩
  | turn outside =>
    obtain ⟨hall, hs⟩ := Option.ite_none_right_eq_some.mp h
    exact ⟨fun _ => hbeyond hall, hs⟩
  | store op entropy => cases h
  | _ => exact ⟨trivial, h⟩

/-- A sweep of two pages. -/
def sampleSweep : List Input :=
  [.triggerSweep "manual", .job (sampleOutside 10 0), .turn (sampleOutside 30 1)] ++
    List.replicate 4 (.job (sampleOutside 0 0))

theorem sweeps_complete_sample : ∃ w : World, Event.sweepTriggered [⟨1784513280000, "302"⟩, ⟨1784513340000, "304"⟩] none ∈ w.log ∧
    w.AtRest ∧ Swept w.log := by
  have hrun : ((Runs.follow (unabsorbedStep (sampleOptions 2 (by decide)) sampleFinance) sampleSweep
      (sampleWorld sampleWaiting)).map fun w => (w.log, w.inFlight, w.sweepRequested, w.sweepRetryTimer, w.stopped)) =
      some ([.entryReconciled "304", .entryReconciled "302",
        .sweepTriggered [⟨1784513280000, "302"⟩, ⟨1784513340000, "304"⟩] none], none, false, false, false) := by
    decide +kernel
  obtain ⟨w, hw, hlast⟩ := Option.map_eq_some_iff.mp hrun
  obtain ⟨hlog, hrest⟩ := Prod.mk.inj hlast
  obtain ⟨hf, hrest⟩ := Prod.mk.inj hrest
  obtain ⟨hrequested, hrest⟩ := Prod.mk.inj hrest
  obtain ⟨htimer, hstopped⟩ := Prod.mk.inj hrest
  have hstart : Runs.Reachable ((reconciliationScheduler (sampleOptions 2 (by decide)) sampleFinance).restrict
      (Unabsorbed (sampleOptions 2 (by decide)) sampleFinance)) (sampleWorld sampleWaiting) :=
    ⟨[], .start (sampleWorld_fresh sampleWaiting_reachable)⟩
  have hreach := hstart.follow (f := unabsorbedStep _ _) (fun s input s' hs => unabsorbedStep_spec hs) hw
  have hatRest : w.AtRest := ⟨hstopped, hf, hrequested, htimer⟩
  refine ⟨w, ?_, hatRest, sweeps_complete hreach hatRest⟩
  rw [hlog]
  exact List.mem_cons_of_mem _ (List.mem_cons_of_mem _ List.mem_cons_self)

def sampleNext : StartIngestRunInput :=
  { sampleStart with window := ⟨"2026-07-20 10:05:00", "2026-07-20 10:15:00"⟩, overlapMilliseconds := some 300_000 }

def sampleLate : RecordSegmentPageInput :=
  { samplePage "501" "late" 3 false
      [samplePayment "e0" "2026-07-20 10:06:00" "1.03", samplePayment "e1" "2026-07-20 10:08:00" "1.01",
        samplePayment "e2" "2026-07-20 10:09:00" "1.02"] with
    ingestRunId := "500", now := 1784512825000 }

/-- Each run may read one entry.  After the first has stopped at its budget, the ledger inserts an older
    entry, a sweep is triggered for it, and the next run goes on behind the entry. -/
def sampleAbsorbed : List Input :=
  [.triggerSweep "manual", .job (sampleOutside 10 0), .store (sampleIngest (.startIngestRun sampleNext) nofun) (sampleEntropy 5),
    .store (sampleIngest (.recordSegmentPage sampleLate) nofun) (sampleEntropy 6), .triggerSweep "ingest"] ++
    List.replicate 4 (.job (sampleOutside 30 0)) ++ List.replicate 3 (.job (sampleOutside 0 0))

theorem sweep_passed_over : ∃ w, Runs.Reachable (reconciliationScheduler (sampleOptions 1 (by decide)) sampleFinance) w ∧
    w.AtRest ∧ ¬ Swept w.log := by
  have hrun : ((Runs.follow (World.step (sampleOptions 1 (by decide)) sampleFinance) sampleAbsorbed
      (sampleWorld sampleWaiting)).map fun w => (w.log.take 2, w.inFlight, w.sweepRequested, w.sweepRetryTimer, w.stopped)) =
      some ([.entryReconciled "304", .sweepTriggered
        [⟨1784513160000, "602"⟩, ⟨1784513280000, "302"⟩, ⟨1784513340000, "304"⟩] (some ⟨1784513280000, "302"⟩)],
        none, false, false, false) := by decide +kernel
  obtain ⟨w, hw, hlast⟩ := Option.map_eq_some_iff.mp hrun
  obtain ⟨hlog, hrest⟩ := Prod.mk.inj hlast
  obtain ⟨hf, hrest⟩ := Prod.mk.inj hrest
  obtain ⟨hrequested, hrest⟩ := Prod.mk.inj hrest
  obtain ⟨htimer, hstopped⟩ := Prod.mk.inj hrest
  have hstart : Runs.Reachable (reconciliationScheduler (sampleOptions 1 (by decide)) sampleFinance)
      (sampleWorld sampleWaiting) := ⟨[], .start (sampleWorld_fresh sampleWaiting_reachable)⟩
  refine ⟨w, hstart.follow (fun s input s' hs => hs) hw, ⟨hstopped, hf, hrequested, htimer⟩, fun hswept => ?_⟩
  have hsplit : w.log = [.entryReconciled "304"] ++ .sweepTriggered
      [⟨1784513160000, "602"⟩, ⟨1784513280000, "302"⟩, ⟨1784513340000, "304"⟩] (some ⟨1784513280000, "302"⟩) :: w.log.drop 2 := by
    conv_lhs => rw [← List.take_append_drop 2 w.log, hlog]
    rfl
  rcases hswept _ _ _ _ hsplit (fun _ _ h => by cases List.mem_singleton.mp h) with hfailed | hall
  · cases List.mem_singleton.mp hfailed
  · have hpassed := List.mem_singleton.mp (hall ⟨1784513160000, "602"⟩ List.mem_cons_self)
    exact absurd (Event.entryReconciled.inj hpassed) (by decide)

end PerPay.Scheduling
