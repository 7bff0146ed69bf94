/-
  **Following the pages** — what the pages of the audit list show while both tables are written.

  The rows of a snapshot, as far as a merge leaves them alone, are the same at every later time
  (`TrailOp.sourceRows_frozen`): an event that is appended has a greater number, a merge changes no column that a filter or the
  order reads, and what retention deletes is older than the cutoff.  A page is a piece of the sorted list of
  these rows, from the position on (`selectRows_eq`), and the cursor that is issued stands at its end.  So the pages, put one
  after the other, are the beginning of that list, and with no further cursor all of it.
-/
import PerPay.Audit.Cursors

namespace PerPay.Audit

open Keyset (Ordered after)
open Merge (sorted)

/-! ## The order -/

theorem AuditRow.frozen_key (row : AuditRow) : row.frozen.key = row.key := rfl

/-- The two conditions on the position are one condition on the keys. -/
theorem AuditRow.behind_iff (row : AuditRow) (position : Position) : row.behind position = true ↔ position.key < row.key := by
  unfold AuditRow.behind AuditRow.key Position.key
  cases row.source <;> cases position.source <;>
    simp only [AuditSource.place, reduceCtorEq, if_true, if_false, Bool.or_eq_true, Bool.and_eq_true, decide_eq_true_eq,
      Prod.Lex.toLex_lt_toLex, true_and, false_and, or_false] <;>
    omega

theorem after_behind (position : Option Position) (rows : List AuditRow) :
    (rows.filter fun row => position.all row.behind) = after (· < ·) AuditRow.key (position.map Position.key) rows := by
  unfold after
  refine List.filter_congr fun row _ => ?_
  cases position with
  | none => rfl
  | some position =>
    rw [Bool.eq_iff_iff]
    simp only [Option.all_some, Option.map_some, decide_eq_true_eq]
    exact row.behind_iff position

/-! ## The rows of a snapshot -/

/-- The rows that pages are taken from. -/
def allRows (trail : Trail) (filters : AuditFilters) (snapshot : AuditSnapshot) (now : Int) : List AuditRow :=
  (filters.sources.map (sourceRows trail filters snapshot now)).flatten

theorem source_of_mem {trail : Trail} {filters : AuditFilters} {snapshot : AuditSnapshot} {now : Int} {source : AuditSource}
    {row : AuditRow} (h : row ∈ sourceRows trail filters snapshot now source) : row.source = source := by
  cases source with
  | core =>
    obtain ⟨r, -, rfl⟩ := List.mem_map.mp (List.mem_filter.mp h).1
    rfl
  | activity =>
    obtain ⟨r, -, rfl⟩ := List.mem_map.mp (List.mem_filter.mp h).1
    rfl

theorem sourceRows_sequenced {trail : Trail} (h : trail.Ordered) (filters : AuditFilters) (snapshot : AuditSnapshot) (now : Int)
    (source : AuditSource) : (sourceRows trail filters snapshot now source).Pairwise fun a b => a.sequence < b.sequence := by
  cases source with
  | core =>
    refine List.Pairwise.filter _ (List.pairwise_map.mpr (h.audit.sequenced.imp ?_))
    exact fun hlt => hlt
  | activity =>
    refine List.Pairwise.filter _ (List.pairwise_map.mpr (h.activity.sequenced.imp ?_))
    exact fun hlt => Int.ofNat_lt.mpr hlt

/-- **No two rows have the same key.** -/
theorem allRows_nodup {trail : Trail} (h : trail.Ordered) (filters : AuditFilters) (snapshot : AuditSnapshot) (now : Int) :
    ((allRows trail filters snapshot now).map AuditRow.key).Nodup := by
  have hsource : ∀ source, ((sourceRows trail filters snapshot now source).map AuditRow.key).Nodup := by
    intro source
    refine List.pairwise_map.mpr ((sourceRows_sequenced h filters snapshot now source).imp fun hlt heq => ?_)
    have hsequence := congrArg (fun key : OrderKey => (ofLex (ofLex key).2).2) heq
    exact absurd (neg_injective hsequence) (ne_of_lt hlt)
  have happart : ∀ a ∈ sourceRows trail filters snapshot now .core, ∀ b ∈ sourceRows trail filters snapshot now .activity,
      a.key ≠ b.key := by
    intro a ha b hb heq
    have hplace := congrArg (fun key : OrderKey => (ofLex (ofLex key).2).1) heq
    have hne : a.source.place = b.source.place := hplace
    rw [source_of_mem ha, source_of_mem hb] at hne
    exact nomatch hne
  unfold allRows AuditFilters.sources
  cases filters.source with
  | some source =>
    rw [List.map_singleton, List.flatten_singleton]
    exact hsource source
  | none =>
    rw [List.map_cons, List.map_singleton, List.flatten_cons, List.flatten_singleton, List.map_append]
    refine List.nodup_append.mpr ⟨hsource .core, hsource .activity, ?_⟩
    rintro k hk k' hk' rfl
    obtain ⟨a, ha, hak⟩ := List.mem_map.mp hk
    obtain ⟨b, hb, hbk⟩ := List.mem_map.mp hk'
    exact happart a ha b hb (hak.trans hbk.symm)

/-- **A page is a piece of the sorted rows.** -/
theorem selectRows_eq {trail : Trail} (h : trail.Ordered) (filters : AuditFilters) (snapshot : AuditSnapshot)
    (position : Option Position) (limit : Nat) (now : Int) :
    selectRows trail filters snapshot position limit now = (after (· < ·) AuditRow.key (position.map Position.key)
      (sorted AuditRow.key (allRows trail filters snapshot now))).take limit := by
  have hnodup := allRows_nodup h filters snapshot now
  have hfilter : ((filters.sources.map (sourceRows trail filters snapshot now)).map fun rows =>
      rows.filter fun row => position.all row.behind).flatten =
        (allRows trail filters snapshot now).filter fun row => position.all row.behind := by
    unfold allRows
    rw [List.filter_flatten]
  have hmerged := @Merge.take_sorted_flatMap _ _ _ AuditRow.key
    ((filters.sources.map (sourceRows trail filters snapshot now)).map fun rows => rows.filter fun row => position.all row.behind)
    (by rw [hfilter]; exact hnodup.sublist (List.filter_sublist.map _)) limit
  rw [hfilter, Merge.sorted_filter hnodup, after_behind, List.flatMap_map, List.flatMap_map] at hmerged
  exact hmerged

/-! ## While the tables are written -/

variable {ν : Type} {pf : AuditPlatform ν}

/-- The condition of a page, without the position. -/
def AuditFilters.inSnapshot (filters : AuditFilters) (snapshot : AuditSnapshot) (now : Int) (row : AuditRow) : Bool :=
  filters.admits row && row.sequence ≤ snapshot.sequence row.source &&
    (row.source = .core || retentionCutoff snapshot now ≤ row.occurredAt)

/-- The rows of a source. -/
def Trail.rows (trail : Trail) : AuditSource → List AuditRow
  | .core => coreProjection trail.audit
  | .activity => activityProjection trail.activity

theorem Trail.source_of_mem {trail : Trail} {source : AuditSource} {row : AuditRow} (h : row ∈ trail.rows source) :
    row.source = source := by
  cases source with
  | core =>
    obtain ⟨r, -, rfl⟩ := List.mem_map.mp h
    rfl
  | activity =>
    obtain ⟨r, -, rfl⟩ := List.mem_map.mp h
    rfl

theorem sourceRows_eq (trail : Trail) (filters : AuditFilters) (snapshot : AuditSnapshot) (now : Int) (source : AuditSource) :
    sourceRows trail filters snapshot now source = (trail.rows source).filter (filters.inSnapshot snapshot now) := by
  cases source with
  | core =>
    refine List.filter_congr fun row hrow => ?_
    have hsource : row.source = .core := @Trail.source_of_mem trail .core row hrow
    simp [AuditFilters.inSnapshot, hsource, AuditSnapshot.sequence]
  | activity =>
    refine List.filter_congr fun row hrow => ?_
    have hsource : row.source = .activity := @Trail.source_of_mem trail .activity row hrow
    simp [AuditFilters.inSnapshot, hsource, AuditSnapshot.sequence]

theorem sourceRows_frozen (trail : Trail) (filters : AuditFilters) (snapshot : AuditSnapshot) (now : Int) (source : AuditSource) :
    (sourceRows trail filters snapshot now source).map AuditRow.frozen =
      ((trail.rows source).map AuditRow.frozen).filter (filters.inSnapshot snapshot now) := by
  rw [sourceRows_eq, List.filter_map]
  rfl

/-- The writes between two pages that are read at the time `now`: retention has not run at a later time. -/
def TrailOp.Before (now : Int) : TrailOp ν → Prop
  | .prune time => (time : Int) ≤ now
  | _ => True

/-- A row that retention deletes is older than the cutoff. -/
theorem kept_of_retained {table : ActivityTable} (h : table.Ordered) {time : Nat} {now : Int} (hle : (time : Int) ≤ now)
    {snapshot : AuditSnapshot} {row : ActivityEventRow} (hrow : row ∈ table.rows)
    (hretained : retentionCutoff snapshot now ≤ row.occurredAt) :
    row.sequence ∉ (table.expired (time - activityRetentionMilliseconds)).map (·.sequence) := by
  intro hmem
  obtain ⟨other, hother, hsequence⟩ := List.mem_map.mp hmem
  have hsorted := List.mem_of_mem_take hother
  rw [List.mem_insertionSort] at hsorted
  obtain ⟨hothers, hold⟩ := List.mem_filter.mp hsorted
  obtain rfl := List.inj_on_of_nodup_map h.unique hothers hrow hsequence
  have hold := of_decide_eq_true hold
  unfold retentionCutoff dayMilliseconds at hretained
  unfold activityRetentionMilliseconds at hold
  omega

/-- **A write leaves the rows of a snapshot alone.** -/
theorem TrailOp.sourceRows_frozen {trail : Trail} (h : trail.Ordered) {op : TrailOp ν} {now : Int} (hop : op.Before now)
    {snapshot : AuditSnapshot} (hsnapshot : ∀ source, (snapshot.sequence source : Int) ≤ trail.counter source)
    (filters : AuditFilters) (source : AuditSource) :
    (sourceRows (op.run pf trail) filters snapshot now source).map AuditRow.frozen =
      (sourceRows trail filters snapshot now source).map AuditRow.frozen := by
  have hlater : ∀ {source} {new : List AuditRow}, (∀ row ∈ new, row.source = source ∧ trail.counter source < row.sequence) →
      new.filter (filters.inSnapshot snapshot now) = [] := by
    intro source new hnew
    refine List.filter_eq_nil_iff.mpr fun row hrow hin => ?_
    obtain ⟨hsource, hsequence⟩ := hnew row hrow
    unfold AuditFilters.inSnapshot at hin
    simp only [Bool.and_eq_true, decide_eq_true_eq] at hin
    have hwithin := hin.1.2
    rw [hsource] at hwithin
    exact absurd (le_trans hwithin (hsnapshot source)) (not_le.mpr hsequence)
  cases op with
  | append transaction =>
    cases source with
    | activity => rfl
    | core =>
      obtain ⟨new, hrows, hnew⟩ := (@runTransaction_extends _ pf _ h.audit transaction).2.rows
      have hrows' : ((TrailOp.append transaction).run pf trail).rows .core = trail.rows .core ++ new := hrows
      have hsource : ∀ row ∈ new, row.source = .core := fun row hrow =>
        @Trail.source_of_mem ((TrailOp.append transaction).run pf trail) .core row (hrows' ▸ List.mem_append_right _ hrow)
      rw [sourceRows_eq, sourceRows_eq, hrows', List.filter_append,
        hlater fun row hrow => ⟨hsource row hrow, hnew row hrow⟩, List.append_nil]
  | persist events =>
    cases source with
    | core => rfl
    | activity =>
      obtain ⟨new, hrows, hnew⟩ := (@persist_extends _ pf _ h.activity events).2.rows
      have hrows' : (((TrailOp.persist events).run pf trail).rows .activity).map AuditRow.frozen =
          (trail.rows .activity).map AuditRow.frozen ++ new := hrows
      have hsource : ∀ row ∈ new, row.source = .activity := by
        intro row hrow
        obtain ⟨r, hr, rfl⟩ := List.mem_map.mp (hrows' ▸ List.mem_append_right _ hrow)
        exact (Trail.source_of_mem hr : r.source = .activity)
      rw [Audit.sourceRows_frozen, Audit.sourceRows_frozen, hrows', List.filter_append,
        hlater fun row hrow => ⟨hsource row hrow, hnew row hrow⟩, List.append_nil]
  | prune time =>
    cases source with
    | core => rfl
    | activity =>
      refine congrArg (List.map AuditRow.frozen) ?_
      show ((trail.activity.rows.filter _).map ActivityEventRow.project).filter _ =
        (trail.activity.rows.map ActivityEventRow.project).filter _
      rw [List.filter_map, List.filter_map, List.filter_filter]
      refine congrArg (List.map ActivityEventRow.project) (List.filter_congr fun row hrow => ?_)
      rw [Function.comp, Bool.and_eq_left_iff_imp]
      intro hin
      simp only [Bool.and_eq_true, decide_eq_true_eq] at hin
      exact decide_eq_true (kept_of_retained h.activity hop hrow hin.2)
  | configureSites sites => rfl

/-! ## One page -/

/-- A row whose numbers can be shown. -/
structure AuditRow.Readable (row : AuditRow) : Prop where
  sequence : 0 ≤ row.sequence ∧ row.sequence ≤ maxSafeInteger
  occurredAt : 0 ≤ row.occurredAt ∧ row.occurredAt ≤ maxDateMilliseconds
  firstOccurredAt : 0 ≤ row.firstOccurredAt ∧ row.firstOccurredAt ≤ maxDateMilliseconds
  lastOccurredAt : 0 ≤ row.lastOccurredAt ∧ row.lastOccurredAt ≤ maxDateMilliseconds
  eventCount : row.eventCount ≤ maxSafeInteger
  durationMs : row.durationMs.getD 0 ≤ maxSafeInteger
  httpStatus : row.httpStatus.getD 0 ≤ maxSafeInteger

instance (row : AuditRow) : Decidable row.Readable :=
  decidable_of_iff ((0 ≤ row.sequence ∧ row.sequence ≤ maxSafeInteger) ∧ (0 ≤ row.occurredAt ∧ row.occurredAt ≤ maxDateMilliseconds) ∧
      (0 ≤ row.firstOccurredAt ∧ row.firstOccurredAt ≤ maxDateMilliseconds) ∧
      (0 ≤ row.lastOccurredAt ∧ row.lastOccurredAt ≤ maxDateMilliseconds) ∧ row.eventCount ≤ maxSafeInteger ∧
      row.durationMs.getD 0 ≤ maxSafeInteger ∧ row.httpStatus.getD 0 ≤ maxSafeInteger)
    ⟨fun ⟨h1, h2, h3, h4, h5, h6, h7⟩ => ⟨h1, h2, h3, h4, h5, h6, h7⟩,
      fun h => ⟨h.1, h.2, h.3, h.4, h.5, h.6, h.7⟩⟩

def Trail.Readable (trail : Trail) : Prop := ∀ source, ∀ row ∈ trail.rows source, row.Readable

theorem safeInteger_ok {value : Int} {n : Nat} (h : safeInteger value = .ok n) : value = n ∧ n ≤ maxSafeInteger := by
  unfold safeInteger at h
  split at h
  · obtain rfl := Except.ok.inj h
    omega
  · exact nomatch h

theorem safeInteger_of {value : Int} (h : 0 ≤ value ∧ value ≤ maxSafeInteger) : safeInteger value = .ok value.toNat := if_pos h

theorem iso_of {value : Int} (h : 0 ≤ value ∧ value ≤ maxDateMilliseconds) : iso value = .ok value.toNat := by
  have hdate : (maxDateMilliseconds : Int) ≤ maxSafeInteger := by decide
  unfold iso
  rw [safeInteger_of ⟨h.1, h.2.trans hdate⟩]
  exact if_neg (by omega)

theorem iso_ok {value : Int} {n : Nat} (h : iso value = .ok n) : value = n ∧ n ≤ maxDateMilliseconds := by
  obtain ⟨time, htime, h⟩ := Txn.except_bind_ok.mp h
  split at h
  · exact nomatch h
  · obtain rfl := Except.ok.inj h
    exact ⟨(safeInteger_ok htime).1, by omega⟩

theorem item_ok {row shown : AuditRow} (h : item row = .ok shown) : shown = row ∧ row.occurredAt ≤ maxDateMilliseconds := by
  obtain ⟨_, -, h⟩ := Txn.except_bind_ok.mp h
  obtain ⟨time, htime, h⟩ := Txn.except_bind_ok.mp h
  obtain ⟨_, -, h⟩ := Txn.except_bind_ok.mp h
  obtain ⟨_, -, h⟩ := Txn.except_bind_ok.mp h
  obtain ⟨_, -, h⟩ := Txn.except_bind_ok.mp h
  obtain ⟨_, -, h⟩ := Txn.except_bind_ok.mp h
  obtain ⟨_, -, h⟩ := Txn.except_bind_ok.mp h
  have := iso_ok htime
  exact ⟨(Except.ok.inj h).symm, by omega⟩

theorem AuditRow.Readable.item {row : AuditRow} (h : row.Readable) : item row = .ok row := by
  unfold Audit.item
  rw [safeInteger_of h.sequence, iso_of h.occurredAt, iso_of h.firstOccurredAt, iso_of h.lastOccurredAt,
    safeInteger_of ⟨Int.natCast_nonneg _, Int.ofNat_le.mpr h.eventCount⟩,
    safeInteger_of ⟨Int.natCast_nonneg _, Int.ofNat_le.mpr h.durationMs⟩,
    safeInteger_of ⟨Int.natCast_nonneg _, Int.ofNat_le.mpr h.httpStatus⟩]
  rfl

theorem items_of : ∀ {rows : List AuditRow}, (∀ row ∈ rows, row.Readable) → rows.mapM item = .ok rows
  | [], _ => rfl
  | row :: rows, h => by
    rw [List.mapM_cons, (h row List.mem_cons_self).item, items_of fun r hr => h r (List.mem_cons_of_mem _ hr)]
    rfl

theorem items_ok : ∀ {rows data : List AuditRow}, rows.mapM item = .ok data →
    data = rows ∧ ∀ row ∈ rows, row.occurredAt ≤ maxDateMilliseconds
  | [], data, h => by
    obtain rfl := Except.ok.inj h
    exact ⟨rfl, fun _ hr => absurd hr List.not_mem_nil⟩
  | row :: rows, data, h => by
    rw [List.mapM_cons] at h
    obtain ⟨shown, hrow, h⟩ := Txn.except_bind_ok.mp h
    obtain ⟨rest, hrest, h⟩ := Txn.except_bind_ok.mp h
    obtain rfl := Except.ok.inj h
    obtain ⟨rfl, htime⟩ := item_ok hrow
    obtain ⟨rfl, htimes⟩ := items_ok hrest
    refine ⟨rfl, fun r hr => ?_⟩
    rcases List.mem_cons.mp hr with rfl | hr
    · exact htime
    · exact htimes r hr

/-! ## Snapshots -/

theorem greatestSequence_spec (rows : List AuditRow) : (∀ row ∈ rows, row.sequence ≤ greatestSequence rows) ∧
    (greatestSequence rows = 0 ∨ ∃ row ∈ rows, row.sequence = greatestSequence rows) := by
  unfold greatestSequence
  cases hmax : (rows.map (·.sequence)).max? with
  | none =>
    obtain rfl : rows = [] := List.map_eq_nil_iff.mp (List.max?_eq_none_iff.mp hmax)
    exact ⟨fun _ h => absurd h List.not_mem_nil, .inl rfl⟩
  | some greatest =>
    obtain ⟨hmem, hle⟩ := List.max?_eq_some_iff.mp hmax
    obtain ⟨row, hrow, hsequence⟩ := List.mem_map.mp hmem
    exact ⟨fun r hr => hle _ (List.mem_map_of_mem hr), .inr ⟨row, hrow, hsequence⟩⟩

theorem Trail.Ordered.bounded {trail : Trail} (h : trail.Ordered) {source : AuditSource} {row : AuditRow}
    (hrow : row ∈ trail.rows source) : 0 < row.sequence ∧ row.sequence ≤ trail.counter source := by
  cases source with
  | core =>
    obtain ⟨r, hr, rfl⟩ := List.mem_map.mp hrow
    exact h.audit.bounded r hr
  | activity =>
    obtain ⟨r, hr, rfl⟩ := List.mem_map.mp hrow
    exact ⟨Int.natCast_pos.mpr (h.activity.bounded r hr).1, Int.ofNat_le.mpr (h.activity.bounded r hr).2⟩

theorem Trail.Ordered.counter_nonneg {trail : Trail} (h : trail.Ordered) (source : AuditSource) : 0 ≤ trail.counter source := by
  cases source with
  | core => exact h.audit.started
  | activity => exact Int.natCast_nonneg _

/-- A snapshot that the rows of a trail can be read up to. -/
structure AuditSnapshot.Holds (snapshot : AuditSnapshot) : Prop where
  sequence : ∀ source, snapshot.sequence source ≤ maxSafeInteger
  capturedAt : snapshot.capturedAt ≤ maxDateMilliseconds

/-- **A snapshot has all the rows of its time, and none of a later one.** -/
theorem snapshot_ok {trail : Trail} (h : trail.Ordered) {now : Int} {s : AuditSnapshot} (hx : snapshot trail now = .ok s) :
    (s.capturedAt : Int) = now ∧ (∀ source, s.sequence source ≤ maxSafeInteger) ∧
      ∀ source, (s.sequence source : Int) ≤ trail.counter source ∧ ∀ row ∈ trail.rows source, row.sequence ≤ s.sequence source := by
  obtain ⟨core, hcore, hx⟩ := Txn.except_bind_ok.mp hx
  obtain ⟨activity, hactivity, hx⟩ := Txn.except_bind_ok.mp hx
  obtain ⟨captured, hcaptured, hx⟩ := Txn.except_bind_ok.mp hx
  obtain rfl := Except.ok.inj hx
  obtain ⟨hcore, hcoreSafe⟩ := safeInteger_ok hcore
  obtain ⟨hactivity, hactivitySafe⟩ := safeInteger_ok hactivity
  have hgreatest : ∀ source, ((AuditSnapshot.mk core activity captured).sequence source : Int) = greatestSequence (trail.rows source) := by
    rintro (_ | _)
    · exact hcore.symm
    · exact hactivity.symm
  refine ⟨(safeInteger_ok hcaptured).1.symm, ?_, fun source => ?_⟩
  · rintro (_ | _)
    · exact hcoreSafe
    · exact hactivitySafe
  · obtain ⟨hall, hsome⟩ := greatestSequence_spec (trail.rows source)
    rw [hgreatest]
    refine ⟨?_, hall⟩
    rcases hsome with hzero | ⟨row, hrow, hsequence⟩
    · rw [hzero]
      exact h.counter_nonneg source
    · rw [← hsequence]
      exact (h.bounded hrow).2

theorem snapshot_of {trail : Trail} (hreadable : trail.Readable) {now : Int} (hnow : 0 ≤ now ∧ now ≤ maxDateMilliseconds) :
    ∃ s, snapshot trail now = .ok s := by
  have hgreatest : ∀ source, 0 ≤ greatestSequence (trail.rows source) ∧ greatestSequence (trail.rows source) ≤ maxSafeInteger := by
    intro source
    rcases (greatestSequence_spec (trail.rows source)).2 with hzero | ⟨row, hrow, hsequence⟩
    · rw [hzero]
      exact ⟨le_refl _, Int.natCast_nonneg _⟩
    · rw [← hsequence]
      exact (hreadable source row hrow).sequence
  have hdate : (maxDateMilliseconds : Int) ≤ maxSafeInteger := by decide
  unfold snapshot
  rw [show greatestSequence (coreProjection trail.audit) = greatestSequence (trail.rows .core) from rfl,
    show greatestSequence (activityProjection trail.activity) = greatestSequence (trail.rows .activity) from rfl,
    safeInteger_of (hgreatest .core), safeInteger_of (hgreatest .activity), safeInteger_of ⟨hnow.1, hnow.2.trans hdate⟩]
  exact ⟨_, rfl⟩

/-! ## The cursor of a page -/

theorem cursorAt_ok {boundary : AuditSnapshot} {last : AuditRow} {cursor : AuditCursor} (h : cursorAt boundary last = .ok cursor) :
    cursor.snapshot = boundary ∧ (cursor.position.occurredAt : Int) = last.occurredAt ∧ cursor.position.source = last.source ∧
      (cursor.position.sequence : Int) = last.sequence := by
  obtain ⟨occurredAt, hoccurred, h⟩ := Txn.except_bind_ok.mp h
  obtain ⟨sequence, hsequence, h⟩ := Txn.except_bind_ok.mp h
  obtain rfl := Except.ok.inj h
  exact ⟨rfl, (safeInteger_ok hoccurred).1.symm, rfl, (safeInteger_ok hsequence).1.symm⟩

theorem mem_of_selectRows {trail : Trail} (h : trail.Ordered) {filters : AuditFilters} {snapshot : AuditSnapshot}
    {position : Option Position} {limit : Nat} {now : Int} {row : AuditRow}
    (hrow : row ∈ selectRows trail filters snapshot position limit now) :
    row ∈ trail.rows row.source ∧ row.sequence ≤ snapshot.sequence row.source := by
  rw [selectRows_eq h] at hrow
  have hmem := Merge.mem_sorted.mp ((Keyset.mem_after _ _).mp (List.mem_of_mem_take hrow)).1
  obtain ⟨rows, hrows, hrow⟩ := List.mem_flatten.mp hmem
  obtain ⟨source, -, rfl⟩ := List.mem_map.mp hrows
  obtain rfl := source_of_mem hrow
  rw [sourceRows_eq] at hrow
  obtain ⟨hmem, hin⟩ := List.mem_filter.mp hrow
  unfold AuditFilters.inSnapshot at hin
  simp only [Bool.and_eq_true, decide_eq_true_eq] at hin
  exact ⟨hmem, hin.1.2⟩

/-- The cursor behind a row of a page. -/
theorem valid_of_cursorAt {trail : Trail} (h : trail.Ordered) {filters : AuditFilters} {snapshot : AuditSnapshot}
    (hsnapshot : snapshot.Holds) {position : Option Position} {limit : Nat} {now : Int} {last : AuditRow}
    (hlast : last ∈ selectRows trail filters snapshot position limit now) (hdate : last.occurredAt ≤ maxDateMilliseconds)
    {cursor : AuditCursor} (hcursor : cursorAt snapshot last = .ok cursor) : cursor.Valid := by
  obtain ⟨rfl, hoccurred, hsource, hsequence⟩ := cursorAt_ok hcursor
  obtain ⟨hmem, hwithin⟩ := mem_of_selectRows h hlast
  have hpositive := (h.bounded hmem).1
  refine ⟨hsnapshot.sequence .core, hsnapshot.sequence .activity, hsnapshot.capturedAt, by omega, by omega, ?_⟩
  rw [hsource]
  omega

theorem key_of_cursorAt {boundary : AuditSnapshot} {last : AuditRow} {cursor : AuditCursor} (h : cursorAt boundary last = .ok cursor) :
    cursor.position.key = last.key := by
  obtain ⟨-, hoccurred, hsource, hsequence⟩ := cursorAt_ok h
  unfold Position.key AuditRow.key
  rw [hoccurred, hsource, hsequence]

/-- What is left behind a position. -/
def restOf (trail : Trail) (filters : AuditFilters) (boundary : AuditSnapshot) (position : Option Position) (now : Int) :
    List AuditRow :=
  after (· < ·) AuditRow.key (position.map Position.key) (sorted AuditRow.key (allRows trail filters boundary now))

theorem readable_of_selectRows {trail : Trail} (h : trail.Ordered) (hreadable : trail.Readable) {filters : AuditFilters}
    {snapshot : AuditSnapshot} {position : Option Position} {limit : Nat} {now : Int} {row : AuditRow}
    (hrow : row ∈ selectRows trail filters snapshot position limit now) : row.Readable :=
  hreadable row.source row (mem_of_selectRows h hrow).1

/-- **A page**: the beginning of the rest, and a cursor at its end when there is more. -/
theorem queryAuditEvents_page {trail : Trail} (h : trail.Ordered) (hreadable : trail.Readable) {cursor : Option AuditCursor}
    {now : Int} {boundary : AuditSnapshot} (hboundary : boundaryOf trail cursor now = .ok boundary) (hholds : boundary.Holds)
    (filters : AuditFilters) {limit : Nat} (hlimit : 1 ≤ limit) :
    ∃ next, queryAuditEvents pf trail ⟨filters, limit, cursor⟩ now =
        .ok ⟨(restOf trail filters boundary (cursor.map AuditCursor.position) now).take limit, boundary.capturedAt, next⟩ ∧
      (((restOf trail filters boundary (cursor.map AuditCursor.position) now).length ≤ limit ∧ next = none) ∨
        limit < (restOf trail filters boundary (cursor.map AuditCursor.position) now).length ∧ ∃ last issued,
          ((restOf trail filters boundary (cursor.map AuditCursor.position) now).take limit).getLast? = some last ∧
          cursorAt boundary last = .ok issued ∧ issued.Valid ∧ next = some (encodeCursor pf issued filters limit)) := by
  have hrows := selectRows_eq h filters boundary (cursor.map AuditCursor.position) (limit + 1) now
  have hread : ∀ row ∈ selectRows trail filters boundary (cursor.map AuditCursor.position) (limit + 1) now, row.Readable :=
    fun row hrow => readable_of_selectRows h hreadable hrow
  have hvalid : ∀ last ∈ selectRows trail filters boundary (cursor.map AuditCursor.position) (limit + 1) now, ∀ issued,
      cursorAt boundary last = .ok issued → issued.Valid := fun last hlast issued hissued =>
    valid_of_cursorAt h hholds hlast (hread last hlast).occurredAt.2 hissued
  generalize hrest : restOf trail filters boundary (cursor.map AuditCursor.position) now = rest
  unfold restOf at hrest
  rw [hrest] at hrows
  rw [hrows] at hread hvalid
  have htake : (rest.take (limit + 1)).take limit = rest.take limit := by
    rw [List.take_take, Nat.min_eq_left (Nat.le_succ limit)]
  have hlength : limit < (rest.take (limit + 1)).length ↔ limit < rest.length := by
    rw [List.length_take]
    omega
  have hissue : ∃ next, issueCursor pf boundary (rest.take (limit + 1)) filters limit = .ok next ∧
      ((rest.length ≤ limit ∧ next = none) ∨ limit < rest.length ∧ ∃ last issued, (rest.take limit).getLast? = some last ∧
        cursorAt boundary last = .ok issued ∧ issued.Valid ∧ next = some (encodeCursor pf issued filters limit)) := by
    unfold issueCursor
    rw [htake]
    cases hlast : (rest.take limit).getLast? with
    | none =>
      refine ⟨none, rfl, .inl ⟨?_, rfl⟩⟩
      have hnil := List.getLast?_eq_none_iff.mp hlast
      have := congrArg List.length hnil
      rw [List.length_take, List.length_nil] at this
      omega
    | some last =>
      dsimp only
      by_cases hmore : limit < rest.length
      · have hmem : last ∈ rest.take (limit + 1) := by
          rw [← htake] at hlast
          exact List.mem_of_mem_take (List.mem_of_getLast? hlast)
        obtain ⟨hsequence, hoccurred⟩ := (hread last hmem).sequence, (hread last hmem).occurredAt
        have hdate : (maxDateMilliseconds : Int) ≤ maxSafeInteger := by decide
        have hcursor : cursorAt boundary last = .ok ⟨boundary, ⟨last.occurredAt.toNat, last.source, last.sequence.toNat⟩⟩ := by
          unfold cursorAt
          rw [safeInteger_of ⟨hoccurred.1, hoccurred.2.trans hdate⟩, safeInteger_of hsequence]
          rfl
        rw [if_pos (hlength.mpr hmore), hcursor]
        exact ⟨_, rfl, .inr ⟨hmore, last, _, rfl, hcursor, hvalid last hmem _ hcursor, rfl⟩⟩
      · rw [if_neg (fun hlt => hmore (hlength.mp hlt))]
        exact ⟨none, rfl, .inl ⟨Nat.not_lt.mp hmore, rfl⟩⟩
  obtain ⟨next, hnext, hcases⟩ := hissue
  refine ⟨next, ?_, hcases⟩
  unfold queryAuditEvents
  rw [hboundary]
  show (do
    let data ← ((selectRows trail filters boundary (cursor.map AuditCursor.position) (limit + 1) now).take limit).mapM item
    let snapshotAt ← iso boundary.capturedAt
    let nextCursor ← issueCursor pf boundary (selectRows trail filters boundary (cursor.map AuditCursor.position) (limit + 1) now) filters limit
    Except.ok (AuditEventPage.mk data snapshotAt nextCursor)) = _
  rw [hrows, htake, items_of fun row hrow => hread row (by rw [← htake] at hrow; exact List.mem_of_mem_take hrow),
    iso_of ⟨Int.natCast_nonneg _, Int.ofNat_le.mpr hholds.capturedAt⟩, hnext]
  rfl

/-! ## Following the cursors -/

section following
variable (pf)

/-- The tables after some writes. -/
def Trail.afterWrites (trail : Trail) (ops : List (TrailOp ν)) : Trail := ops.foldl (fun trail op => op.run pf trail) trail

/-- A reader asks for a page, the tables are written, the reader follows the cursor, and so on: all the rows shown, and the
    last cursor. -/
def followCursors (filters : AuditFilters) (limit : Nat) (now : Int) : Trail → List (List (TrailOp ν)) → Option AuditCursor →
    Except AuditQueryError (List AuditRow × Option String)
  | trail, [], cursor => do
    let page ← queryAuditEvents pf trail ⟨filters, limit, cursor⟩ now
    .ok (page.data, page.nextCursor)
  | trail, ops :: writes, cursor => do
    let page ← queryAuditEvents pf trail ⟨filters, limit, cursor⟩ now
    match page.nextCursor with
    | none => .ok (page.data, none)
    | some text => do
      let next ← decodeCursor pf text filters limit
      let rest ← followCursors filters limit now (trail.afterWrites pf ops) writes (some next)
      .ok (page.data ++ rest.1, rest.2)

/-- The states of the tables that the reader can meet. -/
def Trail.visited (trail : Trail) : List (List (TrailOp ν)) → List Trail
  | [] => [trail]
  | ops :: writes => trail :: Trail.visited (trail.afterWrites pf ops) writes

end following

theorem mem_visited (trail : Trail) (writes : List (List (TrailOp ν))) : trail ∈ trail.visited pf writes := by
  cases writes with
  | nil => exact List.mem_singleton.mpr rfl
  | cons ops writes => exact List.mem_cons_self

/-- Later tables, with the same rows of the snapshot. -/
structure SameSnapshot (filters : AuditFilters) (snapshot : AuditSnapshot) (now : Int) (base : List AuditRow) (trail : Trail) :
    Prop where
  ordered : trail.Ordered
  counter : ∀ source, (snapshot.sequence source : Int) ≤ trail.counter source
  rows : (allRows trail filters snapshot now).map AuditRow.frozen = base

theorem allRows_frozen {trail trail' : Trail} {filters : AuditFilters} {snapshot : AuditSnapshot} {now : Int}
    (h : ∀ source, (sourceRows trail' filters snapshot now source).map AuditRow.frozen =
      (sourceRows trail filters snapshot now source).map AuditRow.frozen) :
    (allRows trail' filters snapshot now).map AuditRow.frozen = (allRows trail filters snapshot now).map AuditRow.frozen := by
  unfold allRows
  rw [List.map_flatten, List.map_flatten, List.map_map, List.map_map]
  exact congrArg List.flatten (List.map_congr_left fun source _ => h source)

theorem SameSnapshot.afterWrites {filters : AuditFilters} {snapshot : AuditSnapshot} {now : Int} {base : List AuditRow} :
    ∀ {ops : List (TrailOp ν)} {trail : Trail}, SameSnapshot filters snapshot now base trail → (∀ op ∈ ops, op.Before now) →
      SameSnapshot filters snapshot now base (trail.afterWrites pf ops)
  | [], _, h, _ => h
  | op :: ops, trail, h, hops => by
    have hfollows := @TrailOp.run_follows _ pf _ h.ordered op
    have hsame : SameSnapshot filters snapshot now base (op.run pf trail) := ⟨hfollows.ordered, fun source =>
      (h.counter source).trans (hfollows.counter source), by
        rw [← h.rows]
        exact allRows_frozen fun source =>
          TrailOp.sourceRows_frozen h.ordered (hops op List.mem_cons_self) h.counter filters source⟩
    exact hsame.afterWrites fun o ho => hops o (List.mem_cons_of_mem _ ho)

/-- The rows behind a position, as far as merges leave them alone, are known from the base. -/
theorem SameSnapshot.restOf {filters : AuditFilters} {snapshot : AuditSnapshot} {now : Int} {base : List AuditRow} {trail : Trail}
    (h : SameSnapshot filters snapshot now base trail) (position : Option Position) :
    (Audit.restOf trail filters snapshot position now).map AuditRow.frozen =
      after (· < ·) AuditRow.key (position.map Position.key) (sorted AuditRow.key base) := by
  have hsorted : (sorted AuditRow.key (allRows trail filters snapshot now)).map AuditRow.frozen = sorted AuditRow.key base := by
    rw [← h.rows]
    exact List.map_insertionSort _ _ _ _ fun _ _ _ _ => Iff.rfl
  unfold Audit.restOf
  rw [← hsorted]
  unfold after
  rw [List.filter_map]
  rfl

theorem SameSnapshot.nodup {filters : AuditFilters} {snapshot : AuditSnapshot} {now : Int} {base : List AuditRow} {trail : Trail}
    (h : SameSnapshot filters snapshot now base trail) : (base.map AuditRow.key).Nodup := by
  rw [← h.rows, List.map_map]
  exact allRows_nodup h.ordered filters snapshot now

/-- Behind the last row of a page the rest goes on. -/
theorem SameSnapshot.next {filters : AuditFilters} {snapshot : AuditSnapshot} {now : Int} {base : List AuditRow} {trail : Trail}
    (h : SameSnapshot filters snapshot now base trail) {position : Option Position} {limit : Nat} {last : AuditRow}
    (hlast : ((Audit.restOf trail filters snapshot position now).take limit).getLast? = some last) :
    after (· < ·) AuditRow.key (some last.key) (sorted AuditRow.key base) =
      (after (· < ·) AuditRow.key (position.map Position.key) (sorted AuditRow.key base)).drop limit := by
  have hfrozen : ((after (· < ·) AuditRow.key (position.map Position.key) (sorted AuditRow.key base)).take limit).getLast? =
      some last.frozen := by
    rw [← h.restOf position, ← List.map_take, List.getLast?_map, hlast]
    rfl
  have hnext := Keyset.after_last _ _ (Merge.ordered_sorted h.nodup) hfrozen
  rwa [last.frozen_key] at hnext

theorem followCursors_next {filters : AuditFilters} {limit : Nat} {now : Int} {trail : Trail} {ops : List (TrailOp ν)}
    {writes : List (List (TrailOp ν))} {cursor : Option AuditCursor} {rows data : List AuditRow} {snapshotAt : Nat} {text : String}
    {next : AuditCursor} {final : Option String}
    (hpage : queryAuditEvents pf trail ⟨filters, limit, cursor⟩ now = .ok ⟨rows, snapshotAt, some text⟩)
    (hdecode : decodeCursor pf text filters limit = .ok next)
    (hfollow : followCursors pf filters limit now (trail.afterWrites pf ops) writes (some next) = .ok (data, final)) :
    followCursors pf filters limit now trail (ops :: writes) cursor = .ok (rows ++ data, final) := by
  unfold followCursors
  rw [hpage]
  dsimp only [bind, Except.bind]
  rw [hdecode]
  dsimp only
  rw [hfollow]

/-- **The pages are the beginning of the rest**, and all of it when no cursor is left. -/
theorem followCursors_rest (hnumbers : WritesNaturals pf) {filters : AuditFilters} {limit : Nat} (hlimit : 1 ≤ limit) {now : Int}
    {snapshot : AuditSnapshot} (hholds : snapshot.Holds) {base : List AuditRow} :
    ∀ (writes : List (List (TrailOp ν))) {trail : Trail} (cursor : Option AuditCursor),
      SameSnapshot filters snapshot now base trail → boundaryOf trail cursor now = .ok snapshot →
      (∀ ops ∈ writes, ∀ op ∈ ops, op.Before now) → (∀ t ∈ trail.visited pf writes, t.Readable) →
      ∃ data next, followCursors pf filters limit now trail writes cursor = .ok (data, next) ∧
        data.map AuditRow.frozen = (after (· < ·) AuditRow.key ((cursor.map AuditCursor.position).map Position.key)
          (sorted AuditRow.key base)).take (limit * (writes.length + 1)) ∧
        (next = none ↔ (after (· < ·) AuditRow.key ((cursor.map AuditCursor.position).map Position.key)
          (sorted AuditRow.key base)).length ≤ limit * (writes.length + 1))
  | [], trail, cursor, h, hboundary, _, hreadable => by
    obtain ⟨next, hpage, hnext⟩ := @queryAuditEvents_page _ pf _ h.ordered (hreadable trail (mem_visited trail [])) _ _ _ hboundary
      hholds filters limit hlimit
    have hrest := h.restOf (cursor.map AuditCursor.position)
    refine ⟨(Audit.restOf trail filters snapshot (cursor.map AuditCursor.position) now).take limit, next, ?_, ?_, ?_⟩
    · unfold followCursors
      rw [hpage]
      rfl
    · rw [List.map_take, hrest, List.length_nil, Nat.zero_add, Nat.mul_one]
    · rw [← hrest, List.length_map, List.length_nil, Nat.zero_add, Nat.mul_one]
      rcases hnext with ⟨hle, hnone⟩ | ⟨hlt, last, issued, -, -, -, hsome⟩
      · simp [hle, hnone]
      · simp [hlt, hsome]
  | ops :: writes, trail, cursor, h, hboundary, hwrites, hreadable => by
    obtain ⟨next, hpage, hnext⟩ := @queryAuditEvents_page _ pf _ h.ordered (hreadable trail (mem_visited trail (ops :: writes)))
      _ _ _ hboundary hholds filters limit hlimit
    have hrest := h.restOf (cursor.map AuditCursor.position)
    have hlength := congrArg List.length hrest
    rw [List.length_map] at hlength
    have hmany : limit * ((ops :: writes).length + 1) = limit + limit * (writes.length + 1) := by
      rw [List.length_cons, Nat.mul_succ limit (writes.length + 1), Nat.add_comm]
    rw [hmany]
    rcases hnext with ⟨hle, rfl⟩ | ⟨hlt, last, issued, hlast, hissued, hvalid, rfl⟩
    · refine ⟨(Audit.restOf trail filters snapshot (cursor.map AuditCursor.position) now).take limit, none, ?_, ?_, ?_⟩
      · unfold followCursors
        rw [hpage]
        rfl
      · rw [List.map_take, hrest, List.take_of_length_le (by omega), List.take_of_length_le (by omega)]
      · simp only [true_iff]
        omega
    · have hsnapshot := (cursorAt_ok hissued).1
      obtain ⟨data, final, hfollow, hdata, hfinal⟩ := followCursors_rest hnumbers hlimit hholds writes (some issued)
        (h.afterWrites fun op hop => hwrites ops List.mem_cons_self op hop) (by rw [← hsnapshot]; rfl)
        (fun o ho => hwrites o (List.mem_cons_of_mem _ ho)) (fun t ht => hreadable t (List.mem_cons_of_mem _ ht))
      rw [Option.map_some, Option.map_some, key_of_cursorAt hissued, h.next hlast] at hdata hfinal
      refine ⟨(Audit.restOf trail filters snapshot (cursor.map AuditCursor.position) now).take limit ++ data, final, ?_, ?_, ?_⟩
      · exact followCursors_next hpage (decodeCursor_encodeCursor hnumbers hvalid filters limit) hfollow
      · rw [List.map_append, List.map_take, hrest, hdata, List.take_add]
      · rw [hfinal, List.length_drop]
        omega

/-! ## The pages of a reader -/

/-- The rows that match at a time, newest first. -/
def Trail.matching (trail : Trail) (filters : AuditFilters) (now : Int) : List AuditRow :=
  sorted AuditRow.key ((filters.sources.flatMap trail.rows).filter fun row =>
    filters.admits row && (row.source = .core || max 0 (now - 30 * dayMilliseconds) ≤ row.occurredAt))

theorem retentionCutoff_captured {snapshot : AuditSnapshot} {now : Int} (h : (snapshot.capturedAt : Int) = now) :
    retentionCutoff snapshot now = max 0 (now - 30 * dayMilliseconds) := by
  unfold retentionCutoff
  rw [h, max_self]

/-- The snapshot of a first page is no condition on the rows of that time. -/
theorem sorted_allRows {trail : Trail} (h : trail.Ordered) (filters : AuditFilters) {now : Int} {s : AuditSnapshot}
    (hs : snapshot trail now = .ok s) : sorted AuditRow.key (allRows trail filters s now) = trail.matching filters now := by
  obtain ⟨hcaptured, -, hwithin⟩ := snapshot_ok h hs
  have hrows : ∀ source, sourceRows trail filters s now source = (trail.rows source).filter fun row =>
      filters.admits row && (row.source = .core || max 0 (now - 30 * dayMilliseconds) ≤ row.occurredAt) := by
    intro source
    rw [sourceRows_eq]
    refine List.filter_congr fun row hrow => ?_
    have hle := (hwithin source).2 row hrow
    rw [← Trail.source_of_mem hrow] at hle
    unfold AuditFilters.inSnapshot
    rw [decide_eq_true hle, Bool.and_true, retentionCutoff_captured hcaptured]
  unfold allRows Trail.matching
  rw [List.filter_flatMap, List.flatMap_def]
  exact congrArg (sorted AuditRow.key) (congrArg List.flatten (List.map_congr_left fun source _ => hrows source))

theorem SameSnapshot.start {trail : Trail} (h : trail.Ordered) (filters : AuditFilters) {now : Int} {s : AuditSnapshot}
    (hs : snapshot trail now = .ok s) :
    SameSnapshot filters s now ((allRows trail filters s now).map AuditRow.frozen) trail :=
  ⟨h, fun source => ((snapshot_ok h hs).2.2 source).1, rfl⟩

theorem sorted_frozen (rows : List AuditRow) : (sorted AuditRow.key rows).map AuditRow.frozen = sorted AuditRow.key (rows.map AuditRow.frozen) :=
  List.map_insertionSort _ _ _ _ fun _ _ _ _ => Iff.rfl

/-- **A cursor that is issued is accepted**, with the snapshot of its page and the position of the last row on it. -/
theorem issued_accepted (hnumbers : WritesNaturals pf) {trail : Trail} (h : trail.Ordered) {query : AuditPageQuery} {now : Int}
    (hcursor : ∀ cursor, query.cursor = some cursor → ∃ text, decodeCursor pf text query.filters query.limit = .ok cursor)
    {page : AuditEventPage} {text : String} (hpage : queryAuditEvents pf trail query now = .ok page)
    (htext : page.nextCursor = some text) :
    ∃ cursor last, decodeCursor pf text query.filters query.limit = .ok cursor ∧
      boundaryOf trail query.cursor now = .ok cursor.snapshot ∧ page.data.getLast? = some last ∧
      (cursor.position.occurredAt : Int) = last.occurredAt ∧ cursor.position.source = last.source ∧
      (cursor.position.sequence : Int) = last.sequence := by
  obtain ⟨boundary, hboundary, hpage⟩ := Txn.except_bind_ok.mp hpage
  obtain ⟨data, hdata, hpage⟩ := Txn.except_bind_ok.mp hpage
  obtain ⟨snapshotAt, hsnapshotAt, hpage⟩ := Txn.except_bind_ok.mp hpage
  obtain ⟨nextCursor, hnext, hpage⟩ := Txn.except_bind_ok.mp hpage
  obtain rfl := Except.ok.inj hpage
  obtain rfl : nextCursor = some text := htext
  obtain ⟨rfl, hdates⟩ := items_ok hdata
  have hholds : boundary.Holds := by
    refine ⟨?_, (iso_ok hsnapshotAt).2.trans' ?_⟩
    · cases hquery : query.cursor with
      | none =>
        rw [hquery] at hboundary
        exact (snapshot_ok h hboundary).2.1
      | some cursor =>
        rw [hquery] at hboundary
        obtain rfl := Except.ok.inj hboundary
        obtain ⟨value, hvalue⟩ := hcursor cursor hquery
        have hvalid := valid_of_decodeCursor hvalue
        rintro (_ | _)
        · exact hvalid.core
        · exact hvalid.activity
    · have := (iso_ok hsnapshotAt).1
      omega
  unfold issueCursor at hnext
  cases hlast : ((selectRows trail query.filters boundary (query.cursor.map (·.position)) (query.limit + 1) now).take
      query.limit).getLast? with
  | none =>
    rw [hlast] at hnext
    exact nomatch hnext
  | some last =>
    rw [hlast] at hnext
    dsimp only at hnext
    split at hnext
    · obtain ⟨cursor, hissued, hnext⟩ := Txn.except_bind_ok.mp hnext
      obtain rfl := Option.some.inj (Except.ok.inj hnext)
      have hmem := List.mem_of_getLast? hlast
      have hvalid := valid_of_cursorAt h hholds (List.mem_of_mem_take hmem) (hdates last hmem) hissued
      obtain ⟨hsnapshot, hoccurred, hsource, hsequence⟩ := cursorAt_ok hissued
      refine ⟨cursor, last, decodeCursor_encodeCursor hnumbers hvalid _ _, ?_, rfl, hoccurred, hsource, hsequence⟩
      rw [hsnapshot]
      exact hboundary
    · exact nomatch Except.ok.inj hnext

/-- **The pages show what matched when the first one was read**: row for row in the order of the list, none twice and none that came
    later, while events are appended, merged and deleted; and every cursor is accepted with what it was issued for. -/
theorem audit_pages_exact (hnumbers : WritesNaturals pf) {trail : Trail} (h : trail.Ordered) (filters : AuditFilters) {limit : Nat}
    (hlimit : 1 ≤ limit) {now : Int} (hnow : 0 ≤ now ∧ now ≤ maxDateMilliseconds) {writes : List (List (TrailOp ν))}
    (hwrites : ∀ ops ∈ writes, ∀ op ∈ ops, op.Before now) (hreadable : ∀ t ∈ trail.visited pf writes, t.Readable) :
    Ordered (· < ·) AuditRow.key (trail.matching filters now) ∧
    (∃ data next, followCursors pf filters limit now trail writes none = .ok (data, next) ∧
      data.map AuditRow.frozen = ((trail.matching filters now).take (limit * (writes.length + 1))).map AuditRow.frozen ∧
      (next = none ↔ (trail.matching filters now).length ≤ limit * (writes.length + 1))) ∧
    ∀ t : Trail, t.Ordered → ∀ (query : AuditPageQuery) (time : Int) (page : AuditEventPage) (text : String),
      (∀ cursor, query.cursor = some cursor → ∃ text, decodeCursor pf text query.filters query.limit = .ok cursor) →
      queryAuditEvents pf t query time = .ok page → page.nextCursor = some text →
      ∃ cursor last, decodeCursor pf text query.filters query.limit = .ok cursor ∧
        boundaryOf t query.cursor time = .ok cursor.snapshot ∧ page.data.getLast? = some last ∧
        (cursor.position.occurredAt : Int) = last.occurredAt ∧ cursor.position.source = last.source ∧
        (cursor.position.sequence : Int) = last.sequence := by
  obtain ⟨s, hs⟩ := snapshot_of (hreadable trail (mem_visited trail writes)) hnow
  obtain ⟨hcaptured, hsafe, -⟩ := snapshot_ok h hs
  have hmatching := sorted_allRows h filters hs
  have hsame := SameSnapshot.start h filters hs
  have hholds : s.Holds := ⟨hsafe, by omega⟩
  refine ⟨?_, ?_, fun t ht query time page text hcursor hpage htext => issued_accepted hnumbers ht hcursor hpage htext⟩
  · rw [← hmatching]
    exact Merge.ordered_sorted (allRows_nodup h filters s now)
  · obtain ⟨data, next, hfollow, hdata, hnext⟩ := followCursors_rest hnumbers hlimit hholds writes none hsame hs hwrites hreadable
    rw [Option.map_none, Option.map_none, Keyset.after_none, ← sorted_frozen, hmatching] at hdata hnext
    refine ⟨data, next, hfollow, ?_, ?_⟩
    · rw [hdata, List.map_take]
    · rw [hnext, List.length_map]

/-! ### Two requests, and an older one between the pages -/

def sampleFilters : AuditFilters := ⟨none, none, none, none, none, none, none, none, none, none, rfl⟩

def sampleTrail : Trail :=
  (TrailOp.persist [sampleRequest "a" "http.request" 100 none, sampleRequest "b" "backup.run" 90 none]).run samplePlatform
    ⟨AuditDb.empty, ⟨[], 0⟩, []⟩

theorem emptyTrail_ordered : (Trail.mk AuditDb.empty ⟨[], 0⟩ []).Ordered :=
  ⟨⟨.nil, fun _ hr => absurd hr List.not_mem_nil, fun _ hr => absurd hr List.not_mem_nil, le_refl _⟩,
    ⟨.nil, fun _ hr => absurd hr List.not_mem_nil⟩⟩

theorem samplePlatform_writes : WritesNaturals samplePlatform := fun _ _ => rfl

theorem audit_pages_exact_two :
    ∃ data, followCursors samplePlatform sampleFilters 1 200 sampleTrail
        [[.persist [sampleRequest "c" "http.request" 50 none], .persist [sampleRequest "d" "http.request" 150 none]]] none =
          .ok (data, none) ∧
      data.map (·.eventId) = ["a", "b"] := by
  have hreadable : ∀ t ∈ sampleTrail.visited samplePlatform
      [[.persist [sampleRequest "c" "http.request" 50 none], .persist [sampleRequest "d" "http.request" 150 none]]], t.Readable := by
    have hcore : ∀ t ∈ sampleTrail.visited samplePlatform
        [[.persist [sampleRequest "c" "http.request" 50 none], .persist [sampleRequest "d" "http.request" 150 none]]],
        ∀ row ∈ t.rows .core, row.Readable := by decide +kernel
    have hactivity : ∀ t ∈ sampleTrail.visited samplePlatform
        [[.persist [sampleRequest "c" "http.request" 50 none], .persist [sampleRequest "d" "http.request" 150 none]]],
        ∀ row ∈ t.rows .activity, row.Readable := by decide +kernel
    rintro t ht (_ | _)
    · exact hcore t ht
    · exact hactivity t ht
  obtain ⟨-, ⟨data, next, hfollow, hdata, hnext⟩, -⟩ := audit_pages_exact samplePlatform_writes
    (TrailOp.run_follows emptyTrail_ordered _).ordered sampleFilters (le_refl 1)
    (show (0 : Int) ≤ 200 ∧ (200 : Int) ≤ maxDateMilliseconds by decide)
    (fun ops hops op hop => by
      obtain rfl := List.mem_singleton.mp hops
      rcases List.mem_pair.mp hop with rfl | rfl <;> trivial) hreadable
  obtain rfl := hnext.mpr (by decide +kernel)
  refine ⟨data, hfollow, ?_⟩
  have hids := congrArg (List.map (·.eventId)) hdata
  rw [List.map_map, List.map_map] at hids
  exact hids.trans (by decide +kernel)

def sampleLateTrail : Trail :=
  (TrailOp.persist [sampleRequest "a" "http.request" 8_640_000_000_000_001 none]).run samplePlatform
    ⟨AuditDb.empty, ⟨[], 0⟩, []⟩

/-- A time that a `Date` does not hold is written, and the list cannot be shown. -/
theorem audit_pages_unavailable :
    sampleLateTrail.Ordered ∧ (sampleLateTrail.matching sampleFilters 200).map (·.eventId) = ["a"] ∧
    followCursors samplePlatform sampleFilters 20 200 sampleLateTrail [] none = .error .unavailable :=
  ⟨(TrailOp.run_follows emptyTrail_ordered _).ordered, by decide +kernel, by decide +kernel⟩

end PerPay.Audit
