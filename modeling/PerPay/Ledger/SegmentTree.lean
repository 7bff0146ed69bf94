/-
  **The segments of a run are few and not deep.**

  An operation of the ledger starts a run with one segment, completes a pending segment, or replaces a
  pending segment by its halves (`TreeStep`); nothing else touches the table of segments.  So every segment
  of a run descends from the window of the run by as many splits as its depth says, and the segments of a
  run weigh what its window weighs: a segment that is split weighs one, and any other twice its seconds
  less one, which a split leaves as it was.
-/
import Mathlib.Algebra.BigOperators.Group.List.Basic
import PerPay.Ledger.Segments
import PerPay.Ledger.Windows

namespace PerPay.Ledger

open Txn Table

variable {pf : LedgerPlatform} {db db' : LedgerDb}

/-! ## What an operation does to the segments -/

def IngestRun.scanned (run : IngestRun) : LedgerWindow := ⟨run.windowStart, run.windowEnd⟩

def IngestSegment.scanned (s : IngestSegment) : LedgerWindow := ⟨s.windowStart, s.windowEnd⟩

inductive TreeStep (db db' : LedgerDb) : Prop
  | kept (hruns : db'.runs.map IngestRun.scan = db.runs.map IngestRun.scan) (hseg : db'.segments = db.segments)
  | started {run : IngestRun} {root : IngestSegment} (hvalid : validateWindow run.scanned = .ok ())
      (hrun : root.ingestRunId = run.ingestRunId) (hwindow : root.scanned = run.scanned) (hdepth : root.depth = 0)
      (hstate : root.state = .PENDING) (hfresh : ∀ r ∈ db.runs, r.ingestRunId ≠ run.ingestRunId)
      (hruns : db'.runs = db.runs ++ [run]) (hseg : db'.segments = db.segments ++ [root])
  | accepted {segment : IngestSegment} {rawPageId : String} {now : Nat} (hs : segment ∈ db.segments)
      (hpending : segment.state = .PENDING) (hruns : db'.runs.map IngestRun.scan = db.runs.map IngestRun.scan)
      (hseg : db'.segments = updateWhere (IngestSegment.pendingAs segment.ingestSegmentId)
        (IngestSegment.acceptedAs rawPageId now) db.segments)
  | split {segment left right : IngestSegment} {split : WindowSplit} {now : Nat} (hs : segment ∈ db.segments)
      (hpending : segment.state = .PENDING) (hsplit : splitLedgerWindow segment.scanned = .ok (some split))
      (hhalves : Halves db.segments segment left right split)
      (hruns : db'.runs.map IngestRun.scan = db.runs.map IngestRun.scan)
      (hseg : db'.segments = splitRows segment left right split.splitAt now db.segments)

theorem TreeStep.refl (db : LedgerDb) : TreeStep db db := .kept rfl rfl

theorem finishPage_treeStep {run : IngestRun} {segment : IngestSegment} {cursor : LedgerCursor}
    {page : AccountLogPage} {retained : RetainedSegmentPage} {now interval : Nat} {result : RecordSegmentPageResult}
    (hx : finishPage pf run segment cursor page retained now interval db = .ok (result, db'))
    (hs : segment ∈ db.segments) (hpending : segment.state = .PENDING) : TreeStep db db' := by
  have hprogressed : ∀ {n : Nat} {runs : List IngestRun},
      (updateWhere (IngestRun.runningAs run.ingestRunId) (IngestRun.progressed n) runs).map IngestRun.scan =
        runs.map IngestRun.scan := fun {n} => map_updateWhere (f := IngestRun.progressed n) (fun _ _ => rfl) _
  rcases finishPage_ok hx with ⟨-, -, u, hv⟩ | ⟨-, -, hp⟩ | ⟨-, -, hp⟩
  · obtain ⟨c, schedules, errors, drawn, -, rfl⟩ := failPaginationVariant_ok hv
    exact .kept rfl rfl
  · rcases recordProbe_ok hp with ⟨-, -, schedules, errors, drawn, rfl⟩ |
        ⟨split, hsplit, left, right, schedules, -, hhalves, rfl⟩
    · refine .kept ?_ rfl
      exact (map_updateWhere (f := IngestRun.failedAs "pagination_density_exceeded" now) (fun _ _ => rfl) _).trans hprogressed
    · exact .split hs hpending hsplit hhalves hprogressed rfl
  · obtain ⟨schedules, rs, m, hdetails, done, u, -, m', hm', -, hcomplete⟩ := acceptLeaf_ok hp
    obtain ⟨rawEvents, entries, conflicts, drawn, rfl⟩ := recordDetails_normalizes hdetails
    subst hm'
    rcases completeIfDone_ok hcomplete with ⟨-, rfl⟩ | ⟨-, hc⟩
    · exact .accepted hs hpending hprogressed rfl
    · obtain ⟨-, compensation, rfl⟩ := completeSegmentRun_ok hc
      refine .accepted hs hpending ?_ rfl
      exact (map_updateWhere (f := IngestRun.completedAs now) (fun _ _ => rfl) _).trans hprogressed

/-- **Every operation is a step of the tree.** -/
theorem LedgerOp.run_treeStep {op : LedgerOp} {u : Unit} (hx : op.run pf db = .ok (u, db')) (h : SegmentInv db) :
    TreeStep db db' := by
  cases op with
  | startIngestRun input =>
    obtain ⟨run, m, hstart, hp⟩ := bind_ok.mp hx
    obtain ⟨-, rfl⟩ := pure_ok.mp hp
    obtain ⟨p, _, hparameters, ⟨-, -, rfl⟩ | ⟨-, hn⟩⟩ := startIngestRun_ok hstart
    · exact .refl _
    · obtain ⟨root, cursors, now, -, -, hstarts, hfresh, -, -, rfl⟩ := hn
      obtain ⟨hvalid, hwindow, -⟩ := runParameters_ok hparameters
      have hscanned : run.scanned = p.window := by
        rw [IngestRun.scanned, hstarts.windowStart, hstarts.windowEnd]
      refine .started ?_ hstarts.rootRun ?_ hstarts.rootDepth hstarts.rootState hfresh rfl rfl
      · rw [hscanned, hwindow]
        exact hvalid
      · rw [hscanned, IngestSegment.scanned, hstarts.rootStart, hstarts.rootEnd]
  | recordSegmentPage input =>
    obtain ⟨result, m, hrecord, hp⟩ := bind_ok.mp hx
    obtain ⟨-, rfl⟩ := pure_ok.mp hp
    obtain ⟨run, segment, cursor, prepared, retained, m, interval, hg, -, -, hretain, hfinish⟩ :=
      recordSegmentPage_ok hrecord
    obtain ⟨_, _, _, _, _, -, rfl⟩ := (retainSegmentPage_retains hretain).1
    cases finishPage_treeStep hfinish hg.segmentMem hg.pending with
    | kept hruns hseg => exact .kept hruns hseg
    | started hvalid hrun hwindow hdepth hstate hfresh hruns hseg =>
      exact .started hvalid hrun hwindow hdepth hstate hfresh hruns hseg
    | accepted hs hpending hruns hseg => exact .accepted hs hpending hruns hseg
    | split hs hpending hsplit hhalves hruns hseg => exact .split hs hpending hsplit hhalves hruns hseg
  | completeIngestRun input =>
    rcases completeIngestRun_ok hx with rfl | ⟨run, cursor, status, now, hrun, hrunning, hcursor, hdone, -⟩
    · exact .refl _
    · -- the cursor of a running run is open
      rw [(h.lane.cursor_open hrun hrunning hcursor).incomplete] at hdone
      exact nomatch hdone
  | recordIngestError input =>
    obtain ⟨run, cursor, now, -, -, -, -, ⟨-, _, _, _, rfl⟩ | ⟨-, hf⟩⟩ := recordIngestError_ok hx
    · exact .kept rfl rfl
    · obtain ⟨schedules, errors, drawn, rfl⟩ := hf
      exact .kept (map_updateWhere (f := IngestRun.failedAs _ now) (fun _ _ => rfl) _) rfl
  | markIngestBatchYield ingestRunId now =>
    rcases markIngestBatchYield_ok hx with rfl | ⟨_, _, _, -, -, -, rfl⟩
    · exact .refl _
    · exact .kept rfl rfl
  | resolveConflict input =>
    rcases resolveConflict_ok hx with rfl | ⟨operation, c, -, -, -, -, -, ho⟩
    · exact .refl _
    · obtain ⟨-, -, rfl⟩ := insertConflictOperation_ok ho
      exact .kept rfl rfl
  | setEntryState ledgerEntryId state updatedAt =>
    obtain rfl := setEntryState_ok hx
    exact .kept rfl rfl
  | configure configuration =>
    simp only [LedgerOp.run, update_ok] at hx
    subst hx
    exact .kept rfl rfl

/-! ## Weights -/

/-- A segment that is split weighs one, and any other twice its seconds less one. -/
def IngestSegment.weight (s : IngestSegment) : Nat := if s.state = .SPLIT then 1 else 2 * s.scanned.seconds - 1

def runSegments (ingestRunId : String) (rows : List IngestSegment) : List IngestSegment :=
  rows.filter fun s => s.ingestRunId = ingestRunId

def weightOf (ingestRunId : String) (rows : List IngestSegment) : Nat :=
  ((runSegments ingestRunId rows).map IngestSegment.weight).sum

theorem weightOf_append (ingestRunId : String) (rows : List IngestSegment) (s : IngestSegment) :
    weightOf ingestRunId (rows ++ [s]) =
      weightOf ingestRunId rows + if s.ingestRunId = ingestRunId then s.weight else 0 := by
  unfold weightOf runSegments
  by_cases h : s.ingestRunId = ingestRunId
  · rw [filter_append_in (by simp [h]), List.map_append, List.sum_append, if_pos h]
    rfl
  · rw [filter_append_out (by simp [h]), if_neg h, Nat.add_zero]

/-- The weight of a run after an update of one of its pending segments. -/
theorem TreeInv.weightOf_update (h : TreeInv db) {segment : IngestSegment} (hs : segment ∈ db.segments)
    (hpending : segment.state = .PENDING) {f : IngestSegment → IngestSegment}
    (hf : ∀ s, (f s).ingestRunId = s.ingestRunId) (ingestRunId : String) :
    weightOf ingestRunId (updateWhere (IngestSegment.pendingAs segment.ingestSegmentId) f db.segments) +
        (if segment.ingestRunId = ingestRunId then segment.weight else 0) =
      weightOf ingestRunId db.segments + if segment.ingestRunId = ingestRunId then (f segment).weight else 0 := by
  have hpendingAs := (h.pendingAs_iff hs hpending hs).mpr rfl
  have honly : ∀ x ∈ db.segments, x.pendingAs segment.ingestSegmentId = true →
      x.ingestSegmentId = segment.ingestSegmentId := fun x hx hp => by rw [(h.pendingAs_iff hs hpending hx).mp hp]
  have hbefore := (h.segmentIds.perm_cons hs hpendingAs honly).filter fun s => s.ingestRunId = ingestRunId
  have hafter := (h.segmentIds.perm_updateWhere hs hpendingAs honly f).filter fun s => s.ingestRunId = ingestRunId
  have hsum := (hbefore.map IngestSegment.weight).sum_nat
  have hsum' := (hafter.map IngestSegment.weight).sum_nat
  unfold weightOf runSegments
  rw [hsum, hsum']
  by_cases hrun : segment.ingestRunId = ingestRunId
  · rw [List.filter_cons_of_pos (a := segment) (by simp [hrun]), List.filter_cons_of_pos (a := f segment) (by simp [hf, hrun]),
      if_pos hrun, if_pos hrun, List.map_cons, List.map_cons, List.sum_cons, List.sum_cons]
    omega
  · rw [List.filter_cons_of_neg (a := segment) (by simp [hrun]), List.filter_cons_of_neg (a := f segment) (by simp [hf, hrun]),
      if_neg hrun, if_neg hrun]

/-! ## The invariant -/

structure Rooted (db : LedgerDb) : Prop where
  valid : ∀ run ∈ db.runs, validateWindow run.scanned = .ok ()
  descends : ∀ s ∈ db.segments, ∀ run ∈ db.runs, run.ingestRunId = s.ingestRunId →
    Descends run.scanned s.depth s.scanned
  weighs : ∀ run ∈ db.runs, weightOf run.ingestRunId db.segments = 2 * run.scanned.seconds - 1

theorem Rooted.empty (h : db.Empty) : Rooted db := by
  constructor <;> simp [h.segments, h.runs]

/-- A run after an update of runs was there before. -/
theorem mem_of_scan (hruns : db'.runs.map IngestRun.scan = db.runs.map IngestRun.scan) {run : IngestRun}
    (hrun : run ∈ db'.runs) : ∃ run0 ∈ db.runs, run0.ingestRunId = run.ingestRunId ∧ run0.scanned = run.scanned := by
  have hmem : run.scan ∈ db.runs.map IngestRun.scan := hruns ▸ List.mem_map_of_mem hrun
  obtain ⟨run0, hrun0, he⟩ := List.mem_map.mp hmem
  obtain ⟨hid, -, hstart, hend, -⟩ := IngestRun.scan_eq he
  exact ⟨run0, hrun0, hid, by rw [IngestRun.scanned, IngestRun.scanned, hstart, hend]⟩

theorem Rooted.step (h : Rooted db) (hi : SegmentInv db) (hstep : TreeStep db db') : Rooted db' := by
  cases hstep with
  | kept hruns hseg =>
    constructor
    · intro run hrun
      obtain ⟨run0, hrun0, -, hscanned⟩ := mem_of_scan hruns hrun
      exact hscanned ▸ h.valid run0 hrun0
    · intro s hs run hrun hid
      obtain ⟨run0, hrun0, hid0, hscanned⟩ := mem_of_scan hruns hrun
      exact hscanned ▸ h.descends s (hseg ▸ hs) run0 hrun0 (hid0.trans hid)
    · intro run hrun
      obtain ⟨run0, hrun0, hid0, hscanned⟩ := mem_of_scan hruns hrun
      rw [hseg, ← hid0, ← hscanned]
      exact h.weighs run0 hrun0
  | @started run root hvalid hrootRun hwindow hdepth hstate hfresh hruns hseg =>
    have hmem : ∀ {r : IngestRun}, r ∈ db'.runs → r ∈ db.runs ∨ r = run := by
      intro r hr
      rw [hruns] at hr
      exact (List.mem_append.mp hr).imp_right List.mem_singleton.mp
    -- no segment of the table belongs to the new run
    have hnone : ∀ s ∈ db.segments, s.ingestRunId ≠ run.ingestRunId := by
      intro s hs hid
      obtain ⟨r, hr, hrid⟩ := hi.tree.owned s hs
      exact hfresh r hr (hrid.trans hid)
    constructor
    · intro r hr
      rcases hmem hr with hr | rfl
      · exact h.valid r hr
      · exact hvalid
    · intro s hs r hr hid
      rw [hseg] at hs
      rcases List.mem_append.mp hs with hs | hs
      · rcases hmem hr with hr | rfl
        · exact h.descends s hs r hr hid
        · exact absurd hid.symm (hnone s hs)
      · obtain rfl := List.mem_singleton.mp hs
        rcases hmem hr with hr | rfl
        · exact absurd (hid.trans hrootRun) (hfresh r hr)
        · rw [hdepth, hwindow]
          exact .root
    · intro r hr
      rw [hseg, weightOf_append]
      rcases hmem hr with hr | rfl
      · rw [if_neg fun hid => hfresh r hr (hid.symm.trans hrootRun), Nat.add_zero]
        exact h.weighs r hr
      · have hempty : runSegments r.ingestRunId db.segments = [] :=
          List.filter_eq_nil_iff.mpr fun s hs => by simpa using hnone s hs
        rw [if_pos hrootRun, weightOf, hempty, IngestSegment.weight, hstate, if_neg (by decide), hwindow]
        exact Nat.zero_add _
  | @accepted segment rawPageId now hs hpending hruns hseg =>
    constructor
    · intro run hrun
      obtain ⟨run0, hrun0, -, hscanned⟩ := mem_of_scan hruns hrun
      exact hscanned ▸ h.valid run0 hrun0
    · intro s hmem run hrun hid
      obtain ⟨run0, hrun0, hid0, hscanned⟩ := mem_of_scan hruns hrun
      rw [hseg] at hmem
      rw [← hscanned]
      rcases hi.tree.mem_update hs hpending hmem with rfl | ⟨hs0, -⟩
      · exact h.descends segment hs run0 hrun0 (hid0.trans hid)
      · exact h.descends s hs0 run0 hrun0 (hid0.trans hid)
    · intro run hrun
      obtain ⟨run0, hrun0, hid0, hscanned⟩ := mem_of_scan hruns hrun
      have hweight := hi.tree.weightOf_update hs hpending (f := IngestSegment.acceptedAs rawPageId now) (fun _ => rfl)
        run.ingestRunId
      have hsame : (segment.acceptedAs rawPageId now).weight = segment.weight := by
        unfold IngestSegment.weight
        rw [hpending]
        rfl
      rw [hsame] at hweight
      have hweighs := h.weighs run0 hrun0
      rw [hid0, hscanned] at hweighs
      rw [hseg]
      omega
  | @split segment left right split now hs hpending hsplit hhalves hruns hseg =>
    obtain ⟨owner, howner, hownerId⟩ := hi.tree.owned segment hs
    have hdescends := h.descends segment hs owner howner hownerId
    have hbisects := bisects_of_split (hdescends.shrinks (h.valid owner howner)).1 hsplit
    have hleft : left.scanned = split.left := by rw [IngestSegment.scanned, hhalves.leftStart, hhalves.leftEnd]
    have hright : right.scanned = split.right := by rw [IngestSegment.scanned, hhalves.rightStart, hhalves.rightEnd]
    constructor
    · intro run hrun
      obtain ⟨run0, hrun0, -, hscanned⟩ := mem_of_scan hruns hrun
      exact hscanned ▸ h.valid run0 hrun0
    · intro s hmem run hrun hid
      obtain ⟨run0, hrun0, hid0, hscanned⟩ := mem_of_scan hruns hrun
      rw [hseg] at hmem
      rw [← hscanned]
      rcases hi.tree.mem_splitRows hs hpending hmem with rfl | ⟨hs0, -⟩ | rfl | rfl
      · exact h.descends segment hs run0 hrun0 (hid0.trans hid)
      · exact h.descends s hs0 run0 hrun0 (hid0.trans hid)
      · rw [hhalves.leftDepth, hleft]
        exact (h.descends segment hs run0 hrun0 (hid0.trans (hid.trans hhalves.leftRun))).left hsplit
      · rw [hhalves.rightDepth, hright]
        exact (h.descends segment hs run0 hrun0 (hid0.trans (hid.trans hhalves.rightRun))).right hsplit
    · intro run hrun
      obtain ⟨run0, hrun0, hid0, hscanned⟩ := mem_of_scan hruns hrun
      have hweight := hi.tree.weightOf_update hs hpending (f := IngestSegment.splitAs split.splitAt now) (fun _ => rfl)
        run.ingestRunId
      have hweighs := h.weighs run0 hrun0
      rw [hid0, hscanned] at hweighs
      rw [hseg, splitRows, weightOf_append, weightOf_append, hhalves.leftRun, hhalves.rightRun]
      by_cases hid : segment.ingestRunId = run.ingestRunId
      · -- the two halves weigh one less than the whole
        have hwhole : segment.weight = 2 * segment.scanned.seconds - 1 := by
          rw [IngestSegment.weight, hpending, if_neg (by decide)]
        have hone : (segment.splitAs split.splitAt now).weight = 1 := if_pos rfl
        have hleftWeight : left.weight = 2 * (segment.scanned.seconds / 2) - 1 := by
          rw [IngestSegment.weight, hhalves.leftState, if_neg (by decide), hleft, hbisects.left_seconds]
        have hrightWeight : right.weight = 2 * (segment.scanned.seconds - segment.scanned.seconds / 2) - 1 := by
          rw [IngestSegment.weight, hhalves.rightState, if_neg (by decide), hright, hbisects.right_seconds]
        have hmany := hbisects.many
        rw [if_pos hid, if_pos hid, hwhole, hone] at hweight
        rw [if_pos hid, if_pos hid, hleftWeight, hrightWeight]
        omega
      · rw [if_neg hid, if_neg hid] at hweight
        rw [if_neg hid, if_neg hid]
        omega

theorem Rooted.reachable (h : Runs.Reachable (ledgerStore pf) db) : Rooted db := by
  suffices hboth : SegmentInv db ∧ Rooted db from hboth.2
  refine h.invariant (I := fun db => SegmentInv db ∧ Rooted db) (fun _ h0 => ⟨.empty h0, .empty h0⟩) fun s l s' hs hstep => ?_
  have hsegment : SegmentInv (s.supplied l.2) := hs.1.framed rfl rfl rfl (List.Subset.refl _)
  have hrooted : Rooted (s.supplied l.2) := hs.2.step hs.1 (.kept rfl rfl)
  rw [show s' = committed (l.1.run pf) (s.supplied l.2) from hstep]
  rcases committed_cases (l.1.run pf) (s.supplied l.2) with ⟨u, hx⟩ | ⟨-, hx⟩
  · exact ⟨LedgerOp.run_segmentInv hx hsegment, hrooted.step hsegment (LedgerOp.run_treeStep hx hsegment)⟩
  · rw [hx]
    exact ⟨hsegment, hrooted⟩

/-! ## Depth and number -/

theorem Rooted.weight_pos (h : Rooted db) {s : IngestSegment} (hs : s ∈ db.segments) {run : IngestRun}
    (hrun : run ∈ db.runs) (hid : run.ingestRunId = s.ingestRunId) : 1 ≤ s.weight := by
  have hpos := seconds_pos ((h.descends s hs run hrun hid).shrinks (h.valid run hrun)).1
  unfold IngestSegment.weight
  split
  · exact le_refl 1
  · omega

/-- The segments of a run are less than twice the seconds of its window. -/
theorem Rooted.length_le (h : Rooted db) {run : IngestRun} (hrun : run ∈ db.runs) :
    (runSegments run.ingestRunId db.segments).length ≤ 2 * run.scanned.seconds - 1 := by
  rw [← h.weighs run hrun, weightOf]
  have hone : ∀ w ∈ (runSegments run.ingestRunId db.segments).map IngestSegment.weight, 1 ≤ w := by
    intro w hw
    obtain ⟨s, hs, rfl⟩ := List.mem_map.mp hw
    obtain ⟨hs, hid⟩ := List.mem_filter.mp hs
    exact h.weight_pos hs hrun (of_decide_eq_true hid).symm
  have hlength := List.length_le_sum_of_one_le _ hone
  rwa [List.length_map] at hlength

/-- **Windows are split in halves, and not for ever.**  A valid window is of one second, when the split is
    `null`, or is split in two valid windows that are shorter, of a second at least each, and meet at
    `splitAt`, which parses back to the instant it was formatted from.  What is split from it is at most as
    deep as the binary logarithm of its seconds, rounded up; and the segments of any run are of that depth
    at most in the window of the run, and less than twice its seconds. -/
theorem ledger_windows_split {window : LedgerWindow} (h : validateWindow window = .ok ()) :
    (∃ result, splitLedgerWindow window = .ok result) ∧
    (splitLedgerWindow window = .ok none ↔ window.seconds = 1) ∧
    (∀ split, splitLedgerWindow window = .ok (some split) →
      validateWindow split.left = .ok () ∧ validateWindow split.right = .ok () ∧
      split.left = ⟨window.start, split.splitAt⟩ ∧ split.right = ⟨split.splitAt, window.end_⟩ ∧
      1 ≤ split.left.seconds ∧ split.left.seconds < window.seconds ∧
      1 ≤ split.right.seconds ∧ split.right.seconds < window.seconds ∧
      ∃ milliseconds, formatProviderTimestamp milliseconds = .ok split.splitAt ∧
        parseOccurredAt (some split.splitAt) = .ok milliseconds) ∧
    (∀ depth descendant, Descends window depth descendant → depth ≤ Nat.clog 2 window.seconds) ∧
    ∀ pf db, Runs.Reachable (ledgerStore pf) db → ∀ run ∈ db.runs, validateWindow run.scanned = .ok () ∧
      (∀ s ∈ db.segments, s.ingestRunId = run.ingestRunId → Descends run.scanned s.depth s.scanned ∧
        s.depth ≤ Nat.clog 2 run.scanned.seconds) ∧
      (runSegments run.ingestRunId db.segments).length ≤ 2 * run.scanned.seconds - 1 := by
  have hhalves := splitLedgerWindow_halves h
  refine ⟨?_, ?_, fun split hsplit => ?_, fun depth descendant hdescends => hdescends.depth_le h, ?_⟩
  · rcases hhalves with ⟨-, hnone⟩ | ⟨split, hsplit, -⟩
    · exact ⟨_, hnone⟩
    · exact ⟨_, hsplit⟩
  · rcases hhalves with ⟨hone, hnone⟩ | ⟨split, hsplit, hbisects⟩
    · exact ⟨fun _ => hone, fun _ => hnone⟩
    · constructor
      · intro hnone
        rw [hsplit] at hnone
        exact nomatch Except.ok.inj hnone
      · intro hone
        have := hbisects.many
        omega
  · have hbisects := bisects_of_split h hsplit
    have hmany := hbisects.many
    refine ⟨hbisects.left_valid, hbisects.right_valid, hbisects.left_eq, hbisects.right_eq, ?_, ?_, ?_, ?_,
      hbisects.splitAt_parses⟩
    · exact seconds_pos hbisects.left_valid
    · rw [hbisects.left_seconds]
      omega
    · exact seconds_pos hbisects.right_valid
    · rw [hbisects.right_seconds]
      omega
  · intro pf db hdb run hrun
    have hrooted := Rooted.reachable hdb
    refine ⟨hrooted.valid run hrun, fun s hs hid => ?_, hrooted.length_le hrun⟩
    have hdescends := hrooted.descends s hs run hrun hid.symm
    exact ⟨hdescends, hdescends.depth_le (hrooted.valid run hrun)⟩

/-- Ten minutes are split, and no deeper than ten times. -/
theorem ledger_windows_split_sample : ∃ window split, validateWindow window = .ok () ∧
    splitLedgerWindow window = .ok (some split) ∧ split.left.seconds < 600 ∧
    (∀ depth descendant, Descends window depth descendant → depth ≤ 10) ∧
    ∀ run ∈ sampleCompleted.runs,
      (runSegments run.ingestRunId sampleCompleted.segments).length ≤ 2 * run.scanned.seconds - 1 := by
  have hfirst : Nameable 1_784_512_800 := by unfold Nameable; decide
  have hlast : Nameable 1_784_513_400 := by unfold Nameable; decide
  have hspans : Spans ⟨formatChinaTime (1_784_512_800 * 1_000), formatChinaTime (1_784_513_400 * 1_000)⟩
      1_784_512_800 1_784_513_400 := ⟨hfirst, hlast, rfl, rfl, by omega⟩
  obtain ⟨hsome, hnone, hhalves, hdepth, hruns⟩ := ledger_windows_split hspans.valid
  have hseconds := hspans.seconds
  obtain ⟨split, hsplit⟩ : ∃ split, splitLedgerWindow _ = .ok (some split) := ⟨_, hspans.split_some (by omega)⟩
  obtain ⟨-, -, -, -, -, hshorter, -⟩ := hhalves split hsplit
  refine ⟨_, split, hspans.valid, hsplit, by omega, fun depth descendant hdescends => ?_, fun run hrun => ?_⟩
  · have hclog : Nat.clog 2 600 ≤ 10 := Nat.clog_le_of_le_pow (by norm_num)
    have hle := hdepth depth descendant hdescends
    rw [hseconds] at hle
    exact hle.trans hclog
  · exact (hruns samplePlatform sampleCompleted sampleCompleted_reachable run hrun).2.2

end PerPay.Ledger
