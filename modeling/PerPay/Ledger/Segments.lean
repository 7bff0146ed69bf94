/-
  **No second is left unread** — the segments of a run tile its window, in every reachable ledger.

  A run begins with one pending segment, its root.  A split closes a segment and adds its two halves;
  an accepted leaf completes a segment; nothing else touches the table.  So the LEAVES of a run, its
  segments that are not split, always tile its window (`TreeInv.tiled`).

  A run is completed by the leaf after which nothing is pending, and by nothing else: ending a run by
  hand needs a complete cursor, and the cursor of a lane stays open, on the window of its running run,
  for as long as the run is running (`LaneInv.opened`).
-/
import Mathlib.Data.String.Basic
import PerPay.Lib.Tiling
import PerPay.Ledger.Operations

namespace PerPay.Ledger

open Txn Table Tiling

variable {pf : LedgerPlatform} {db db' : LedgerDb}

/-! ## The tree of a run -/

def IngestSegment.window (s : IngestSegment) : String × String := (s.windowStart, s.windowEnd)

/-- The segments of a run that are not split: pending or complete. -/
def LedgerDb.leaves (db : LedgerDb) (ingestRunId : String) : List IngestSegment :=
  db.segments.filter fun s => s.ingestRunId = ingestRunId && s.state ≠ .SPLIT

def LedgerDb.children (db : LedgerDb) (ingestSegmentId : String) : List IngestSegment :=
  db.segments.filter fun s => s.parentSegmentId = some ingestSegmentId

/-- A split segment has two children, which meet where it was split. -/
def SplitIn (db : LedgerDb) (s : IngestSegment) : Prop :=
  ∃ at_, s.splitAt = some at_ ∧
    (db.children s.ingestSegmentId).map IngestSegment.window = [(s.windowStart, at_), (at_, s.windowEnd)]

/-- The page is of the window of the segment and of the account of its run, and has no further
    results. -/
structure Exhausts (runs : List IngestRun) (page : RawPage) (s : IngestSegment) : Prop where
  exhausted : page.hasMore = false
  windowStart : page.windowStart = s.windowStart
  windowEnd : page.windowEnd = s.windowEnd
  account : ∀ run ∈ runs, run.ingestRunId = s.ingestRunId → page.providerAccountKey = run.providerAccountKey

/-- A complete segment has an accepted page that exhausts it. -/
def AcceptedIn (db : LedgerDb) (s : IngestSegment) : Prop :=
  ∃ page ∈ db.pages, s.acceptedRawPageId = some page.rawPageId ∧ Exhausts db.runs page s

/-- What a run scans; no update of a run changes it. -/
def IngestRun.scan (r : IngestRun) : String × String × String × String × IngestScanKind :=
  (r.ingestRunId, r.providerAccountKey, r.windowStart, r.windowEnd, r.scanKind)

theorem IngestRun.scan_eq {r r' : IngestRun} (h : r.scan = r'.scan) :
    r.ingestRunId = r'.ingestRunId ∧ r.providerAccountKey = r'.providerAccountKey ∧
      r.windowStart = r'.windowStart ∧ r.windowEnd = r'.windowEnd ∧ r.lane = r'.lane := by
  simp only [IngestRun.scan, Prod.mk.injEq] at h
  obtain ⟨h1, h2, h3, h4, h5⟩ := h
  exact ⟨h1, h2, h3, h4, by rw [IngestRun.lane, h5, IngestRun.lane]⟩

/-- The lane of a cursor within its account. -/
def LedgerCursor.key (c : LedgerCursor) : String × IngestScanLane := (c.providerAccountKey, c.scanLane)

/-! ## The invariant -/

structure TreeInv (db : LedgerDb) : Prop where
  segmentIds : UniqueOn IngestSegment.ingestSegmentId db.segments
  owned : ∀ s ∈ db.segments, ∃ run ∈ db.runs, run.ingestRunId = s.ingestRunId
  tiled : ∀ run ∈ db.runs,
    Tiles ((db.leaves run.ingestRunId).map IngestSegment.window) run.windowStart run.windowEnd
  parents : ∀ s ∈ db.segments, ∀ parentId, s.parentSegmentId = some parentId →
    ∃ parent ∈ db.segments, parent.ingestSegmentId = parentId ∧ parent.state = .SPLIT
  halves : ∀ s ∈ db.segments, s.state = .SPLIT → SplitIn db s
  accepted : ∀ s ∈ db.segments, s.state = .COMPLETE → AcceptedIn db s

/-- The cursor is open on the window of the run. -/
structure OpenFor (r : IngestRun) (c : LedgerCursor) : Prop where
  key : c.key = (r.providerAccountKey, r.lane)
  incomplete : c.complete = false
  windowStart : c.windowStart = r.windowStart
  windowEnd : c.windowEnd = r.windowEnd

structure LaneInv (db : LedgerDb) : Prop where
  runIds : UniqueOn IngestRun.ingestRunId db.runs
  cursorKeys : UniqueOn LedgerCursor.key db.cursors
  oneRunning : ∀ r ∈ db.runs, ∀ r' ∈ db.runs, r.status = .RUNNING → r'.status = .RUNNING →
    r.providerAccountKey = r'.providerAccountKey → r.lane = r'.lane → r.ingestRunId = r'.ingestRunId
  opened : ∀ r ∈ db.runs, r.status = .RUNNING → ∃ c ∈ db.cursors, OpenFor r c
  kinds : ∀ c ∈ db.cursors, scanLaneForKind c.scanKind = c.scanLane

structure SegmentInv (db : LedgerDb) : Prop where
  tree : TreeInv db
  lane : LaneInv db
  finished : ∀ r ∈ db.runs, r.status = .COMPLETED → ∀ s ∈ db.segments, s.ingestRunId = r.ingestRunId →
    s.state ≠ .PENDING

theorem SegmentInv.empty (h : db.Empty) : SegmentInv db where
  tree := by
    constructor <;> simp [h.segments, h.runs, uniqueOn_nil]
  lane := by
    constructor <;> simp [h.cursors, h.runs, uniqueOn_nil]
  finished := by simp [h.runs]

/-- The running run with an id is the only run with it. -/
theorem LaneInv.run_eq (h : LaneInv db) {run r : IngestRun} (hrun : run ∈ db.runs) (hr : r ∈ db.runs)
    (hid : r.ingestRunId = run.ingestRunId) : r = run := h.runIds.eq hr hrun hid

/-- The cursor a running run finds is the one that is open for it. -/
theorem LaneInv.cursor_open (h : LaneInv db) {run : IngestRun} {cursor : LedgerCursor} (hrun : run ∈ db.runs)
    (hrunning : run.status = .RUNNING) (hc : db.cursor run.providerAccountKey run.lane = some cursor) :
    OpenFor run cursor := by
  obtain ⟨c, hmem, hopen⟩ := h.opened run hrun hrunning
  obtain ⟨hcursor, hkey, hlane⟩ := cursor_some hc
  have heq : cursor = c := h.cursorKeys.eq hcursor hmem (by rw [hopen.key, LedgerCursor.key, hkey, hlane])
  exact heq ▸ hopen

/-! ## Runs and cursors change, segments do not -/

/-- Updating runs keeps what they scan. -/
theorem mem_updateWhere_scan {p : IngestRun → Bool} {f : IngestRun → IngestRun} {rows : List IngestRun}
    (hf : ∀ r, p r = true → (f r).scan = r.scan) {r : IngestRun} (hr : r ∈ updateWhere p f rows) :
    ∃ r0 ∈ rows, r.scan = r0.scan ∧ (r = r0 ∨ (p r0 = true ∧ r = f r0)) := by
  rcases mem_updateWhere.mp hr with ⟨r0, h0, hp, rfl⟩ | ⟨h0, -⟩
  · exact ⟨r0, h0, hf r0 hp, .inr ⟨hp, rfl⟩⟩
  · exact ⟨r, h0, rfl, .inl rfl⟩

theorem Exhausts.framed {runs runs' : List IngestRun} {page : RawPage} {s : IngestSegment} (h : Exhausts runs page s)
    (hruns : runs'.map IngestRun.scan = runs.map IngestRun.scan) : Exhausts runs' page s := by
  refine ⟨h.exhausted, h.windowStart, h.windowEnd, fun run hrun hid => ?_⟩
  have hmem : run.scan ∈ runs.map IngestRun.scan := hruns ▸ List.mem_map_of_mem hrun
  obtain ⟨run0, hrun0, he⟩ := List.mem_map.mp hmem
  obtain ⟨hid0, haccount, -⟩ := IngestRun.scan_eq he
  exact haccount ▸ h.account run0 hrun0 (hid0.trans hid)

/-- The tree sees of the runs only what they scan, and of the pages that they stay. -/
theorem TreeInv.framed (h : TreeInv db) (hseg : db'.segments = db.segments) (hpages : db.pages ⊆ db'.pages)
    (hruns : db'.runs.map IngestRun.scan = db.runs.map IngestRun.scan) : TreeInv db' where
  segmentIds := hseg ▸ h.segmentIds
  owned s hs := by
    obtain ⟨run, hrun, hid⟩ := h.owned s (hseg ▸ hs)
    have hmem : run.scan ∈ db'.runs.map IngestRun.scan := hruns ▸ List.mem_map_of_mem hrun
    obtain ⟨run', hrun', he⟩ := List.mem_map.mp hmem
    exact ⟨run', hrun', (IngestRun.scan_eq he).1.trans hid⟩
  tiled run hrun := by
    have hmem : run.scan ∈ db.runs.map IngestRun.scan := hruns ▸ List.mem_map_of_mem hrun
    obtain ⟨run0, hrun0, he⟩ := List.mem_map.mp hmem
    obtain ⟨hid, -, hstart, hend, -⟩ := IngestRun.scan_eq he
    have := h.tiled run0 hrun0
    rw [hid, hstart, hend] at this
    rwa [LedgerDb.leaves, hseg]
  parents := by rw [hseg]; exact h.parents
  halves s hs hsplit := by
    obtain ⟨at_, hat, hchildren⟩ := h.halves s (hseg ▸ hs) hsplit
    exact ⟨at_, hat, by rwa [LedgerDb.children, hseg]⟩
  accepted s hs hcomplete := by
    obtain ⟨page, hp, hid, hexhausts⟩ := h.accepted s (hseg ▸ hs) hcomplete
    exact ⟨page, hpages hp, hid, hexhausts.framed hruns⟩

/-- Updating runs without starting or completing any. -/
theorem SegmentInv.update_runs (h : SegmentInv db) {p : IngestRun → Bool} {f : IngestRun → IngestRun}
    (hf : ∀ r, p r = true → (f r).scan = r.scan)
    (hstatus : ∀ r, p r = true → (f r).status = r.status ∨ (f r).status = .FAILED)
    (hruns : db'.runs = updateWhere p f db.runs) (hseg : db'.segments = db.segments)
    (hpages : db'.pages = db.pages) (hcursors : db'.cursors = db.cursors) : SegmentInv db' := by
  have hscan : db'.runs.map IngestRun.scan = db.runs.map IngestRun.scan := by rw [hruns, map_updateWhere hf]
  -- a run that is running or completed was so before
  have hold : ∀ r ∈ db'.runs, r.status ≠ .FAILED → ∃ r0 ∈ db.runs, r.scan = r0.scan ∧ r.status = r0.status := by
    intro r hr hne
    obtain ⟨r0, h0, he, rfl | ⟨hp, rfl⟩⟩ := mem_updateWhere_scan hf (hruns ▸ hr)
    · exact ⟨r, h0, rfl, rfl⟩
    · exact ⟨r0, h0, he, (hstatus r0 hp).resolve_right hne⟩
  refine ⟨h.tree.framed hseg (hpages ▸ List.Subset.refl _) hscan, ⟨?_, hcursors ▸ h.lane.cursorKeys, ?_, ?_,
    hcursors ▸ h.lane.kinds⟩, ?_⟩
  · rw [hruns]
    exact h.lane.runIds.updateWhere fun r hp => (IngestRun.scan_eq (hf r hp)).1
  · intro r hr r' hr' hrun hrun' hk hl
    obtain ⟨r0, h0, he, hs⟩ := hold r hr (by rw [hrun]; decide)
    obtain ⟨r0', h0', he', hs'⟩ := hold r' hr' (by rw [hrun']; decide)
    obtain ⟨i1, i2, -, -, i5⟩ := IngestRun.scan_eq he
    obtain ⟨j1, j2, -, -, j5⟩ := IngestRun.scan_eq he'
    rw [i1, j1]
    exact h.lane.oneRunning r0 h0 r0' h0' (hs ▸ hrun) (hs' ▸ hrun') (i2 ▸ j2 ▸ hk) (i5 ▸ j5 ▸ hl)
  · intro r hr hrun
    obtain ⟨r0, h0, he, hs⟩ := hold r hr (by rw [hrun]; decide)
    obtain ⟨-, i2, i3, i4, i5⟩ := IngestRun.scan_eq he
    obtain ⟨c, hc, hopen⟩ := h.lane.opened r0 h0 (hs ▸ hrun)
    exact ⟨c, hcursors ▸ hc, ⟨by rw [hopen.key, i2, i5], hopen.incomplete, by rw [hopen.windowStart, i3],
      by rw [hopen.windowEnd, i4]⟩⟩
  · intro r hr hdone s hs hid
    obtain ⟨r0, h0, he, hst⟩ := hold r hr (by rw [hdone]; decide)
    exact h.finished r0 h0 (hst ▸ hdone) s (hseg ▸ hs) (hid.trans (IngestRun.scan_eq he).1)

/-- What an update of a cursor keeps while its window is open. -/
structure KeepsWindow (c c' : LedgerCursor) : Prop where
  key : c'.key = c.key
  scanKind : c'.scanKind = c.scanKind
  complete : c'.complete = c.complete
  windowStart : c'.windowStart = c.windowStart
  windowEnd : c'.windowEnd = c.windowEnd

/-- Updating cursors without opening or closing a window, and storing pages. -/
theorem SegmentInv.update_cursors (h : SegmentInv db) {p : LedgerCursor → Bool} {f : LedgerCursor → LedgerCursor}
    (hf : ∀ c, p c = true → KeepsWindow c (f c)) (hcursors : db'.cursors = updateWhere p f db.cursors)
    (hruns : db'.runs = db.runs) (hseg : db'.segments = db.segments) (hpages : db.pages ⊆ db'.pages) :
    SegmentInv db' := by
  refine ⟨h.tree.framed hseg hpages (by rw [hruns]),
    ⟨hruns ▸ h.lane.runIds, ?_, hruns ▸ h.lane.oneRunning, ?_, ?_⟩, ?_⟩
  · rw [hcursors]
    exact h.lane.cursorKeys.updateWhere fun c hp => (hf c hp).key
  · intro r hr hrun
    obtain ⟨c, hc, hopen⟩ := h.lane.opened r (hruns ▸ hr) hrun
    rw [hcursors]
    by_cases hp : p c = true
    · have hk := hf c hp
      exact ⟨f c, mem_updateWhere.mpr (.inl ⟨c, hc, hp, rfl⟩), hk.key.trans hopen.key,
        hk.complete.trans hopen.incomplete, hk.windowStart.trans hopen.windowStart,
        hk.windowEnd.trans hopen.windowEnd⟩
    · exact ⟨c, mem_updateWhere.mpr (.inr ⟨hc, by simpa using hp⟩), hopen⟩
  · intro c hc
    rw [hcursors] at hc
    rcases mem_updateWhere.mp hc with ⟨c0, h0, hp, rfl⟩ | ⟨h0, -⟩
    · have hk := hf c0 hp
      rw [hk.scanKind, h.lane.kinds c0 h0]
      exact (Prod.mk.inj hk.key).2.symm
    · exact h.lane.kinds c h0
  · rw [hruns, hseg]
    exact h.finished

/-- Nothing that the invariant sees changed, but pages may have been stored. -/
theorem SegmentInv.framed (h : SegmentInv db) (hruns : db'.runs = db.runs) (hseg : db'.segments = db.segments)
    (hcursors : db'.cursors = db.cursors) (hpages : db.pages ⊆ db'.pages) : SegmentInv db' := by
  refine ⟨h.tree.framed hseg hpages (by rw [hruns]), ⟨hruns ▸ h.lane.runIds, hcursors ▸ h.lane.cursorKeys,
    hruns ▸ h.lane.oneRunning, ?_, hcursors ▸ h.lane.kinds⟩, ?_⟩
  · rw [hruns, hcursors]
    exact h.lane.opened
  · rw [hruns, hseg]
    exact h.finished

/-! ## A run starts -/

theorem cursor_none {providerAccountKey : String} {lane : IngestScanLane}
    (h : db.cursor providerAccountKey lane = none) {c : LedgerCursor} (hc : c ∈ db.cursors) :
    c.key ≠ (providerAccountKey, lane) := by
  intro hk
  have hp := List.find?_eq_none.mp h c hc
  rw [LedgerCursor.key, Prod.mk.injEq] at hk
  simp [hk.1, hk.2] at hp

/-- What taking up a window does to the cursors. -/
structure TakesUp (p : RunParameters) (db : LedgerDb) (cursors : List LedgerCursor) : Prop where
  keys : UniqueOn LedgerCursor.key cursors
  kinds : ∀ c ∈ cursors, scanLaneForKind c.scanKind = c.scanLane
  others : ∀ c ∈ db.cursors, c.key ≠ (p.providerAccountKey, p.lane) → c ∈ cursors
  own : ∃ c ∈ cursors, c.key = (p.providerAccountKey, p.lane) ∧ c.complete = false ∧
    c.windowStart = p.window.start ∧ c.windowEnd = p.window.end_

theorem Opens.takesUp {p : RunParameters} {now : Nat} {cursors : List LedgerCursor} (h : LaneInv db)
    (ho : Opens p db now cursors) : TakesUp p db cursors := by
  cases ho with
  | insert c hnone hkey hlane hstart hend _ hkind _ hopen _ =>
    have hck : c.key = (p.providerAccountKey, p.lane) := by rw [LedgerCursor.key, hkey, hlane]
    refine ⟨h.cursorKeys.append fun x hx => hck ▸ cursor_none hnone hx, ?_, ?_, ?_⟩
    · intro x hx
      rcases List.mem_append.mp hx with hx | hx
      · exact h.kinds x hx
      · rw [List.mem_singleton.mp hx, hkind, hlane, RunParameters.lane]
    · exact fun x hx _ => List.mem_append_left _ hx
    · exact ⟨c, List.mem_append_right _ (List.mem_singleton_self c), hck, hopen, hstart, hend⟩
  | resume c hsome hopen hstart hend _ _ =>
    obtain ⟨hmem, hkey, hlane⟩ := cursor_some hsome
    exact ⟨h.cursorKeys, h.kinds, fun x hx _ => hx, c, hmem, by rw [LedgerCursor.key, hkey, hlane], hopen,
      hstart, hend⟩
  | restart c hsome _ =>
    obtain ⟨hmem, hkey, hlane⟩ := cursor_some hsome
    refine ⟨h.cursorKeys.updateWhere fun _ _ => rfl, ?_, ?_, ?_⟩
    · intro x hx
      rcases mem_updateWhere.mp hx with ⟨x0, -, hp, rfl⟩ | ⟨h0, -⟩
      · simp only [Bool.and_true, Bool.and_eq_true, decide_eq_true_eq] at hp
        exact hp.2.symm
      · exact h.kinds x h0
    · intro x hx hne
      refine mem_updateWhere.mpr (.inr ⟨hx, ?_⟩)
      simp only [LedgerCursor.key, ne_eq, Prod.mk.injEq, not_and] at hne
      by_cases hk : x.providerAccountKey = p.providerAccountKey
      · simp [hne hk]
      · simp [hk]
    · refine ⟨p.opened now c, mem_updateWhere.mpr (.inl ⟨c, hmem, by simp [hkey, hlane], rfl⟩), ?_, rfl, rfl, rfl⟩
      show (c.providerAccountKey, c.scanLane) = _
      rw [hkey, hlane]

/-- An incomplete cursor keeps its scan kind within its lane. -/
theorem LaneInv.effective_lane (h : LaneInv db) (p : RunParameters) :
    scanLaneForKind (effectiveScanKind (db.cursor p.providerAccountKey p.lane) p.scanKind) = p.lane := by
  cases hc : db.cursor p.providerAccountKey p.lane with
  | none => rfl
  | some c =>
    obtain ⟨hmem, -, hlane⟩ := cursor_some hc
    unfold effectiveScanKind
    by_cases hdone : c.complete = true
    · simp only [hdone, if_true]
      rfl
    · simp only [if_neg hdone]
      exact (h.kinds c hmem).trans hlane

theorem SegmentInv.start {p : RunParameters} {run : IngestRun} (h : SegmentInv db) (hn : NewRun p db run db') :
    SegmentInv db' := by
  obtain ⟨root, cursors, now, -, hopens, hstarts, hrunId, hlane, hrootId, rfl⟩ := hn
  have htakes := hopens.takesUp h.lane
  have hrunLane : run.lane = p.lane := by
    rw [IngestRun.lane, hstarts.scanKind, h.lane.effective_lane]
  -- no segment of the table belongs to the new run
  have hforeign : ∀ s ∈ db.segments, s.ingestRunId ≠ run.ingestRunId := by
    intro s hs
    obtain ⟨r, hr, hid⟩ := h.tree.owned s hs
    exact hid ▸ hrunId r hr
  refine ⟨⟨?_, ?_, ?_, ?_, ?_, ?_⟩, ⟨?_, htakes.keys, ?_, ?_, htakes.kinds⟩, ?_⟩
  · exact h.tree.segmentIds.append hrootId
  · intro s hs
    rcases List.mem_append.mp hs with hs | hs
    · obtain ⟨r, hr, hid⟩ := h.tree.owned s hs
      exact ⟨r, List.mem_append_left _ hr, hid⟩
    · rw [List.mem_singleton.mp hs]
      exact ⟨run, List.mem_append_right _ (List.mem_singleton_self run), hstarts.rootRun.symm⟩
  · intro r hr
    show Tiles (((db.segments ++ [root]).filter _).map _) _ _
    rcases List.mem_append.mp hr with hr | hr
    · rw [filter_append_out (by simp [hstarts.rootRun, (hrunId r hr).symm])]
      exact h.tree.tiled r hr
    · rw [List.mem_singleton.mp hr, filter_append_in (by simp [hstarts.rootRun, hstarts.rootState]),
        List.filter_eq_nil_iff.mpr (fun s hs => by simp [hforeign s hs]), hstarts.windowStart, hstarts.windowEnd]
      have hroot : root.window = (p.window.start, p.window.end_) := by
        rw [IngestSegment.window, hstarts.rootStart, hstarts.rootEnd]
      have hlt := hstarts.rootNonempty
      rw [hstarts.rootStart, hstarts.rootEnd] at hlt
      rw [List.nil_append, List.map_singleton, hroot]
      exact .singleton hlt
  · intro s hs id hid
    rcases List.mem_append.mp hs with hs | hs
    · obtain ⟨parent, hp, hrest⟩ := h.tree.parents s hs id hid
      exact ⟨parent, List.mem_append_left _ hp, hrest⟩
    · rw [List.mem_singleton.mp hs, hstarts.rootParent] at hid
      cases hid
  · intro s hs hsplit
    rcases List.mem_append.mp hs with hs | hs
    · obtain ⟨at_, hat, hchildren⟩ := h.tree.halves s hs hsplit
      refine ⟨at_, hat, ?_⟩
      show ((db.segments ++ [root]).filter _).map _ = _
      rw [filter_append_out (by simp [hstarts.rootParent])]
      exact hchildren
    · rw [List.mem_singleton.mp hs, hstarts.rootState] at hsplit
      cases hsplit
  · intro s hs hcomplete
    rcases List.mem_append.mp hs with hs | hs
    · obtain ⟨page, hp, hid, hexhausts⟩ := h.tree.accepted s hs hcomplete
      refine ⟨page, hp, hid, hexhausts.exhausted, hexhausts.windowStart, hexhausts.windowEnd, fun r hr hrid => ?_⟩
      rcases List.mem_append.mp hr with hr | hr
      · exact hexhausts.account r hr hrid
      · rw [List.mem_singleton.mp hr] at hrid
        exact absurd hrid.symm (hforeign s hs)
    · rw [List.mem_singleton.mp hs, hstarts.rootState] at hcomplete
      cases hcomplete
  · exact h.lane.runIds.append hrunId
  · intro r hr r' hr' hs hs' hk hl
    rcases List.mem_append.mp hr with hr | hr <;> rcases List.mem_append.mp hr' with hr' | hr'
    · exact h.lane.oneRunning r hr r' hr' hs hs' hk hl
    · rw [List.mem_singleton.mp hr'] at hk hl
      exact absurd ⟨hs, hk, hl⟩ (hlane r hr)
    · rw [List.mem_singleton.mp hr] at hk hl
      exact absurd ⟨hs', hk.symm, hl.symm⟩ (hlane r' hr')
    · rw [List.mem_singleton.mp hr, List.mem_singleton.mp hr']
  · intro r hr hs
    rcases List.mem_append.mp hr with hr | hr
    · obtain ⟨c, hc, hopen⟩ := h.lane.opened r hr hs
      refine ⟨c, htakes.others c hc ?_, hopen⟩
      rw [hopen.key]
      intro he
      rw [Prod.mk.injEq] at he
      exact hlane r hr ⟨hs, by rw [hstarts.account, he.1], by rw [hrunLane, he.2]⟩
    · rw [List.mem_singleton.mp hr]
      obtain ⟨c, hc, hkey, hopen, hstart, hend⟩ := htakes.own
      exact ⟨c, hc, by rw [hkey, hstarts.account, hrunLane], hopen, by rw [hstart, hstarts.windowStart],
        by rw [hend, hstarts.windowEnd]⟩
  · intro r hr hdone s hs hid
    rcases List.mem_append.mp hr with hr | hr
    · rcases List.mem_append.mp hs with hs | hs
      · exact h.finished r hr hdone s hs hid
      · rw [List.mem_singleton.mp hs, hstarts.rootRun] at hid
        exact absurd hid.symm (hrunId r hr)
    · rw [List.mem_singleton.mp hr, hstarts.status] at hdone
      cases hdone

/-! ## A segment is taken off -/

/-- The pending row with the id of a segment is that segment. -/
theorem TreeInv.pendingAs_iff (h : TreeInv db) {segment : IngestSegment} (hs : segment ∈ db.segments)
    (hpending : segment.state = .PENDING) {s : IngestSegment} (hmem : s ∈ db.segments) :
    s.pendingAs segment.ingestSegmentId = true ↔ s = segment := by
  simp only [IngestSegment.pendingAs, Bool.and_eq_true, decide_eq_true_eq]
  constructor
  · exact fun ⟨hid, _⟩ => h.segmentIds.eq hmem hs hid
  · rintro rfl
    exact ⟨rfl, hpending⟩

/-- The rows after an update of one pending segment. -/
theorem TreeInv.mem_update (h : TreeInv db) {segment : IngestSegment} (hs : segment ∈ db.segments)
    (hpending : segment.state = .PENDING) {f : IngestSegment → IngestSegment} {s : IngestSegment}
    (hmem : s ∈ updateWhere (IngestSegment.pendingAs segment.ingestSegmentId) f db.segments) :
    s = f segment ∨ (s ∈ db.segments ∧ s ≠ segment) := by
  rcases mem_updateWhere.mp hmem with ⟨s0, h0, hp, rfl⟩ | ⟨h0, hp⟩
  · rw [(h.pendingAs_iff hs hpending h0).mp hp]
    exact .inl rfl
  · refine .inr ⟨h0, ?_⟩
    rintro rfl
    rw [(h.pendingAs_iff hs hpending h0).mpr rfl] at hp
    cases hp

/-- A pending segment has no children. -/
theorem TreeInv.no_children (h : TreeInv db) {segment : IngestSegment} (hs : segment ∈ db.segments)
    (hpending : segment.state = .PENDING) {s : IngestSegment} (hmem : s ∈ db.segments) :
    s.parentSegmentId ≠ some segment.ingestSegmentId := by
  intro hparent
  obtain ⟨parent, hp, hid, hsplit⟩ := h.parents s hmem _ hparent
  rw [h.segmentIds.eq hp hs hid, hpending] at hsplit
  cases hsplit

/-- A split parent stays split under an update of a pending segment. -/
theorem TreeInv.parents_update (h : TreeInv db) {segment : IngestSegment} (hs : segment ∈ db.segments)
    (hpending : segment.state = .PENDING) {f : IngestSegment → IngestSegment} {parent : IngestSegment}
    (hp : parent ∈ db.segments) (hsplit : parent.state = .SPLIT) :
    parent ∈ updateWhere (IngestSegment.pendingAs segment.ingestSegmentId) f db.segments := by
  refine mem_updateWhere.mpr (.inr ⟨hp, ?_⟩)
  by_contra hne
  rw [(h.pendingAs_iff hs hpending hp).mp (by simpa using hne), hpending] at hsplit
  cases hsplit

section
variable {segment : IngestSegment} {rawPageId : String} {now : Nat}

/-- **An accepted leaf.**  The segment stays a leaf, and is complete. -/
theorem TreeInv.accept (h : TreeInv db) (hs : segment ∈ db.segments) (hpending : segment.state = .PENDING)
    (hpage : ∃ page ∈ db.pages, page.rawPageId = rawPageId ∧ Exhausts db.runs page segment)
    (hseg : db'.segments = updateWhere (IngestSegment.pendingAs segment.ingestSegmentId)
      (IngestSegment.acceptedAs rawPageId now) db.segments)
    (hruns : db'.runs = db.runs) (hpages : db'.pages = db.pages) : TreeInv db' := by
  have hwindow : ∀ q : IngestSegment → Bool, (∀ s, s.pendingAs segment.ingestSegmentId = true →
      q (s.acceptedAs rawPageId now) = q s) → (db'.segments.filter q).map IngestSegment.window =
        (db.segments.filter q).map IngestSegment.window := by
    intro q hq
    rw [hseg, filter_updateWhere hq]
    exact map_updateWhere (f := IngestSegment.acceptedAs rawPageId now) (fun _ _ => rfl) _
  have hcases : ∀ s ∈ db'.segments, s = segment.acceptedAs rawPageId now ∨ (s ∈ db.segments ∧ s ≠ segment) :=
    fun s hmem => h.mem_update hs hpending (hseg ▸ hmem)
  have hparents : ∀ s ∈ db.segments, ∀ id, s.parentSegmentId = some id →
      ∃ parent ∈ db'.segments, parent.ingestSegmentId = id ∧ parent.state = .SPLIT := by
    intro s hmem id hid
    obtain ⟨parent, hp, hpid, hsplit⟩ := h.parents s hmem id hid
    exact ⟨parent, hseg ▸ h.parents_update hs hpending hp hsplit, hpid, hsplit⟩
  refine ⟨?_, ?_, ?_, ?_, ?_, ?_⟩
  · rw [hseg]
    exact h.segmentIds.updateWhere fun _ _ => rfl
  · intro s hmem
    rw [hruns]
    rcases hcases s hmem with rfl | ⟨h0, -⟩
    · exact h.owned segment hs
    · exact h.owned s h0
  · intro run hrun
    rw [LedgerDb.leaves, hwindow]
    · exact h.tiled run (hruns ▸ hrun)
    · intro s hp
      simp only [IngestSegment.pendingAs, Bool.and_eq_true, decide_eq_true_eq] at hp
      show (decide (s.ingestRunId = _) && true) = (decide (s.ingestRunId = _) && decide (s.state ≠ .SPLIT))
      rw [hp.2]
      rfl
  · intro s hmem id hid
    rcases hcases s hmem with rfl | ⟨h0, -⟩
    · exact hparents segment hs id hid
    · exact hparents s h0 id hid
  · intro s hmem hsplit
    rcases hcases s hmem with rfl | ⟨h0, -⟩
    · cases hsplit
    · obtain ⟨at_, hat, hchildren⟩ := h.halves s h0 hsplit
      refine ⟨at_, hat, ?_⟩
      rw [LedgerDb.children, hwindow _ fun _ _ => rfl]
      exact hchildren
  · intro s hmem hcomplete
    rcases hcases s hmem with rfl | ⟨h0, -⟩
    · obtain ⟨page, hp, hid, hexhausts⟩ := hpage
      refine ⟨page, hpages ▸ hp, by rw [hid]; rfl, ?_⟩
      rw [hruns]
      exact ⟨hexhausts.exhausted, hexhausts.windowStart, hexhausts.windowEnd, hexhausts.account⟩
    · obtain ⟨page, hp, hid, hexhausts⟩ := h.accepted s h0 hcomplete
      exact ⟨page, hpages ▸ hp, hid, hruns ▸ hexhausts⟩

end

section
variable {segment left right : IngestSegment} {split : WindowSplit} {now : Nat}

/-- The segment table after a split. -/
def splitRows (segment left right : IngestSegment) (splitAt : String) (now : Nat) (rows : List IngestSegment) :
    List IngestSegment :=
  updateWhere (IngestSegment.pendingAs segment.ingestSegmentId) (IngestSegment.splitAs splitAt now) rows ++
    [left] ++ [right]

theorem TreeInv.mem_splitRows (h : TreeInv db) (hs : segment ∈ db.segments) (hpending : segment.state = .PENDING)
    {splitAt : String} {s : IngestSegment} (hmem : s ∈ splitRows segment left right splitAt now db.segments) :
    s = segment.splitAs splitAt now ∨ (s ∈ db.segments ∧ s ≠ segment) ∨ s = left ∨ s = right := by
  rw [splitRows, List.append_assoc] at hmem
  rcases List.mem_append.mp hmem with hmem | hmem
  · exact (h.mem_update hs hpending hmem).imp_right .inl
  · simpa using Or.inr (Or.inr hmem)

theorem TreeInv.split_ids (h : TreeInv db) (hs : segment ∈ db.segments) (hpending : segment.state = .PENDING)
    (hh : Halves db.segments segment left right split) :
    UniqueOn IngestSegment.ingestSegmentId (splitRows segment left right split.splitAt now db.segments) := by
  have hids : ∀ {id : String}, (∀ s ∈ db.segments, s.ingestSegmentId ≠ id) →
      ∀ s ∈ updateWhere (IngestSegment.pendingAs segment.ingestSegmentId)
        (IngestSegment.splitAs split.splitAt now) db.segments, s.ingestSegmentId ≠ id := by
    intro id hfresh s hmem
    rcases h.mem_update hs hpending hmem with rfl | ⟨h0, -⟩
    · exact hfresh segment hs
    · exact hfresh s h0
  have hupdated := h.segmentIds.updateWhere (p := IngestSegment.pendingAs segment.ingestSegmentId)
    (f := IngestSegment.splitAs split.splitAt now) fun _ _ => rfl
  refine (hupdated.append (hids hh.leftFresh)).append fun s hmem => ?_
  rcases List.mem_append.mp hmem with hmem | hmem
  · exact hids hh.rightFresh s hmem
  · rw [List.mem_singleton.mp hmem]
    exact hh.distinct

theorem Halves.windows {rows : List IngestSegment} (hh : Halves rows segment left right split)
    (hleft : split.left = ⟨segment.windowStart, split.splitAt⟩)
    (hright : split.right = ⟨split.splitAt, segment.windowEnd⟩) :
    left.window = (segment.windowStart, split.splitAt) ∧ right.window = (split.splitAt, segment.windowEnd) := by
  rw [IngestSegment.window, IngestSegment.window, hh.leftStart, hh.leftEnd, hh.rightStart, hh.rightEnd, hleft, hright]
  exact ⟨rfl, rfl⟩

/-- The halves take the place of their parent among the leaves. -/
theorem TreeInv.split_tiled (h : TreeInv db) (hs : segment ∈ db.segments) (hpending : segment.state = .PENDING)
    (hleft : split.left = ⟨segment.windowStart, split.splitAt⟩)
    (hright : split.right = ⟨split.splitAt, segment.windowEnd⟩) (hh : Halves db.segments segment left right split)
    (hseg : db'.segments = splitRows segment left right split.splitAt now db.segments)
    {run : IngestRun} (hrun : run ∈ db.runs) :
    Tiles ((db'.leaves run.ingestRunId).map IngestSegment.window) run.windowStart run.windowEnd := by
  have htiled := h.tiled run hrun
  have hout := filter_updateWhere_out (p := IngestSegment.pendingAs segment.ingestSegmentId)
    (q := fun s => s.ingestRunId = run.ingestRunId && s.state ≠ .SPLIT)
    (f := IngestSegment.splitAs split.splitAt now) (fun s _ => by simp [IngestSegment.splitAs]) db.segments
  by_cases hrunId : segment.ingestRunId = run.ingestRunId
  · have hmem : segment ∈ db.leaves run.ingestRunId :=
      List.mem_filter.mpr ⟨hs, by simp [hrunId, hpending]⟩
    have hperm := (h.segmentIds.filter fun s => s.ingestRunId = run.ingestRunId && s.state ≠ .SPLIT).perm_cons hmem
      ((h.pendingAs_iff hs hpending hs).mpr rfl)
      (fun x hx hp => by rw [(h.pendingAs_iff hs hpending (List.mem_filter.mp hx).1).mp hp])
    obtain ⟨hleftWindow, hrightWindow⟩ := hh.windows hleft hright
    have hx : segment.windowStart < split.splitAt := by
      have := hh.leftNonempty
      rwa [hh.leftStart, hh.leftEnd, hleft] at this
    have hy : split.splitAt < segment.windowEnd := by
      have := hh.rightNonempty
      rwa [hh.rightStart, hh.rightEnd, hright] at this
    have hcut := (htiled.perm (hperm.map IngestSegment.window)).cut hx hy
    rw [LedgerDb.leaves, hseg, splitRows, filter_append_in (by simp [hh.rightRun, hrunId, hh.rightState]),
      filter_append_in (by simp [hh.leftRun, hrunId, hh.leftState]), hout, List.map_append, List.map_append,
      List.map_singleton, List.map_singleton, hleftWindow, hrightWindow, List.append_assoc]
    exact hcut.perm (@List.perm_append_comm _
      [(segment.windowStart, split.splitAt), (split.splitAt, segment.windowEnd)] _)
  · rw [LedgerDb.leaves, hseg, splitRows, filter_append_out (by simp [hh.rightRun, hrunId]),
      filter_append_out (by simp [hh.leftRun, hrunId]), hout, List.filter_eq_self.mpr]
    · exact htiled
    · intro s hmem
      obtain ⟨h0, hq⟩ := List.mem_filter.mp hmem
      by_contra hp
      rw [(h.pendingAs_iff hs hpending h0).mp (by simpa using hp)] at hq
      simp [hrunId] at hq

/-- The children of a segment after a split: the halves are new children of their parent. -/
theorem children_split (hh : Halves db.segments segment left right split)
    (hseg : db'.segments = splitRows segment left right split.splitAt now db.segments) (id : String) :
    (db'.children id).map IngestSegment.window = (db.children id).map IngestSegment.window ++
      if id = segment.ingestSegmentId then [left.window, right.window] else [] := by
  have hold := filter_updateWhere (p := IngestSegment.pendingAs segment.ingestSegmentId)
    (q := fun s => s.parentSegmentId = some id) (f := IngestSegment.splitAs split.splitAt now)
    (fun _ _ => rfl) db.segments
  have hwindows : ∀ rows : List IngestSegment, (updateWhere (IngestSegment.pendingAs segment.ingestSegmentId)
      (IngestSegment.splitAs split.splitAt now) rows).map IngestSegment.window = rows.map IngestSegment.window :=
    fun rows => map_updateWhere (f := IngestSegment.splitAs split.splitAt now) (fun _ _ => rfl) rows
  rw [LedgerDb.children, LedgerDb.children, hseg, splitRows]
  by_cases hid : id = segment.ingestSegmentId
  · rw [filter_append_in (by simp [hh.rightParent, hid]), filter_append_in (by simp [hh.leftParent, hid]), hold,
      if_pos hid, List.append_assoc, List.map_append, hwindows]
    rfl
  · rw [filter_append_out (by simp [hh.rightParent, Ne.symm hid]),
      filter_append_out (by simp [hh.leftParent, Ne.symm hid]), hold, if_neg hid, List.append_nil, hwindows]

/-- **A split.**  The segment leaves the leaves, and its halves take its place. -/
theorem TreeInv.split_segment (h : TreeInv db) (hs : segment ∈ db.segments) (hpending : segment.state = .PENDING)
    (hleft : split.left = ⟨segment.windowStart, split.splitAt⟩)
    (hright : split.right = ⟨split.splitAt, segment.windowEnd⟩) (hh : Halves db.segments segment left right split)
    (hseg : db'.segments = splitRows segment left right split.splitAt now db.segments)
    (hruns : db'.runs = db.runs) (hpages : db'.pages = db.pages) : TreeInv db' := by
  have hcases : ∀ s ∈ db'.segments, s = segment.splitAs split.splitAt now ∨ (s ∈ db.segments ∧ s ≠ segment) ∨
      s = left ∨ s = right := fun s hmem => h.mem_splitRows hs hpending (hseg ▸ hmem)
  have hupdated : ∀ {s : IngestSegment}, s ∈ updateWhere (IngestSegment.pendingAs segment.ingestSegmentId)
      (IngestSegment.splitAs split.splitAt now) db.segments → s ∈ db'.segments := by
    intro s hmem
    rw [hseg]
    exact List.mem_append_left _ (List.mem_append_left _ hmem)
  have hself : segment.splitAs split.splitAt now ∈ db'.segments :=
    hupdated (mem_updateWhere.mpr (.inl ⟨segment, hs, (h.pendingAs_iff hs hpending hs).mpr rfl, rfl⟩))
  have hparents : ∀ s ∈ db.segments, ∀ id, s.parentSegmentId = some id →
      ∃ parent ∈ db'.segments, parent.ingestSegmentId = id ∧ parent.state = .SPLIT := by
    intro s hmem id hid
    obtain ⟨parent, hp, hpid, hsplit⟩ := h.parents s hmem id hid
    exact ⟨parent, hupdated (h.parents_update hs hpending hp hsplit), hpid, hsplit⟩
  refine ⟨hseg ▸ h.split_ids hs hpending hh, ?_, ?_, ?_, ?_, ?_⟩
  · intro s hmem
    rw [hruns]
    rcases hcases s hmem with rfl | ⟨h0, -⟩ | rfl | rfl
    · exact h.owned segment hs
    · exact h.owned s h0
    · rw [hh.leftRun]
      exact h.owned segment hs
    · rw [hh.rightRun]
      exact h.owned segment hs
  · exact fun run hrun => h.split_tiled hs hpending hleft hright hh hseg (hruns ▸ hrun)
  · intro s hmem id hid
    rcases hcases s hmem with rfl | ⟨h0, -⟩ | rfl | rfl
    · exact hparents segment hs id hid
    · exact hparents s h0 id hid
    · rw [hh.leftParent] at hid
      exact ⟨_, hself, Option.some.inj hid, rfl⟩
    · rw [hh.rightParent] at hid
      exact ⟨_, hself, Option.some.inj hid, rfl⟩
  · intro s hmem hsplit
    rcases hcases s hmem with rfl | ⟨h0, hne⟩ | rfl | rfl
    · -- the split segment had no children before
      obtain ⟨hleftWindow, hrightWindow⟩ := hh.windows hleft hright
      have hnone : db.children segment.ingestSegmentId = [] :=
        List.filter_eq_nil_iff.mpr fun s h0 => by simpa using h.no_children hs hpending h0
      refine ⟨split.splitAt, rfl, ?_⟩
      show (db'.children segment.ingestSegmentId).map _ = _
      rw [children_split hh hseg, hnone, if_pos rfl, hleftWindow, hrightWindow]
      rfl
    · obtain ⟨at_, hat, hchildren⟩ := h.halves s h0 hsplit
      refine ⟨at_, hat, ?_⟩
      rw [children_split hh hseg, if_neg (fun he => hne (h.segmentIds.eq h0 hs he)), List.append_nil]
      exact hchildren
    · rw [hh.leftState] at hsplit
      cases hsplit
    · rw [hh.rightState] at hsplit
      cases hsplit
  · intro s hmem hcomplete
    rcases hcases s hmem with rfl | ⟨h0, -⟩ | rfl | rfl
    · cases hcomplete
    · obtain ⟨page, hp, hid, hexhausts⟩ := h.accepted s h0 hcomplete
      exact ⟨page, hpages ▸ hp, hid, hruns ▸ hexhausts⟩
    · rw [hh.leftState] at hcomplete
      cases hcomplete
    · rw [hh.rightState] at hcomplete
      cases hcomplete

end

/-! ## A run is completed -/

/-- **The last leaf.**  When nothing is pending the run is completed, and its cursor closed. -/
theorem SegmentInv.complete (h : SegmentInv db) {run : IngestRun} {cursor : LedgerCursor} {now : Nat}
    {lastEvent : Option Nat} (hrun : ∃ r ∈ db.runs, r.ingestRunId = run.ingestRunId ∧ r.status = .RUNNING ∧
      cursor.key = (r.providerAccountKey, r.lane))
    (hpending : db.hasPendingSegments run.ingestRunId = false) (hseg : db'.segments = db.segments)
    (hpages : db'.pages = db.pages)
    (hruns : db'.runs = updateWhere (IngestRun.runningAs run.ingestRunId) (IngestRun.completedAs now) db.runs)
    (hcursors : db'.cursors = updateWhere (fun c => c.providerAccountKey = cursor.providerAccountKey &&
        c.scanLane = cursor.scanLane && (c.version = cursor.version && !c.complete))
      (LedgerCursor.completedAs lastEvent now) db.cursors) : SegmentInv db' := by
  obtain ⟨run0, hrun0, hid0, hrunning0, hkey0⟩ := hrun
  have hscan : ∀ r : IngestRun, r.runningAs run.ingestRunId = true → (r.completedAs now).scan = r.scan :=
    fun _ _ => rfl
  -- a run that is still running was not the one that completed
  have hold : ∀ r ∈ db'.runs, r.status = .RUNNING → r ∈ db.runs ∧ r.ingestRunId ≠ run.ingestRunId := by
    intro r hr hs
    rw [hruns] at hr
    rcases mem_updateWhere.mp hr with ⟨r0, h0, hp, rfl⟩ | ⟨h0, hp⟩
    · cases hs
    · refine ⟨h0, fun he => ?_⟩
      simp [IngestRun.runningAs, he, hs] at hp
  refine ⟨h.tree.framed hseg (hpages ▸ List.Subset.refl _) (by rw [hruns, map_updateWhere hscan]),
    ⟨?_, ?_, ?_, ?_, ?_⟩, ?_⟩
  · rw [hruns]
    exact h.lane.runIds.updateWhere fun _ _ => rfl
  · rw [hcursors]
    exact h.lane.cursorKeys.updateWhere fun _ _ => rfl
  · intro r hr r' hr' hs hs'
    exact h.lane.oneRunning r (hold r hr hs).1 r' (hold r' hr' hs').1 hs hs'
  · intro r hr hs
    obtain ⟨h0, hne⟩ := hold r hr hs
    obtain ⟨c, hc, hopen⟩ := h.lane.opened r h0 hs
    refine ⟨c, ?_, hopen⟩
    rw [hcursors]
    refine mem_updateWhere.mpr (.inr ⟨hc, ?_⟩)
    -- its cursor is another one, or two runs of one lane would be running
    by_contra hp
    have hk : c.key = cursor.key := by
      rw [LedgerCursor.key, LedgerCursor.key, Prod.mk.injEq]
      simp only [Bool.not_eq_false, Bool.and_eq_true, decide_eq_true_eq] at hp
      exact hp.1
    rw [hopen.key, hkey0, Prod.mk.injEq] at hk
    exact hne ((h.lane.oneRunning r h0 run0 hrun0 hs hrunning0 hk.1 hk.2).trans hid0)
  · intro c hc
    rw [hcursors] at hc
    rcases mem_updateWhere.mp hc with ⟨c0, h0, -, rfl⟩ | ⟨h0, -⟩
    · exact h.lane.kinds c0 h0
    · exact h.lane.kinds c h0
  · intro r hr hdone s hs hid
    rw [hruns] at hr
    rw [hseg] at hs
    rcases mem_updateWhere.mp hr with ⟨r0, h0, hp, rfl⟩ | ⟨h0, -⟩
    · simp only [IngestRun.runningAs, Bool.and_eq_true, decide_eq_true_eq] at hp
      intro hstate
      have : db.hasPendingSegments run.ingestRunId = true :=
        List.any_eq_true.mpr ⟨s, hs, by simp [hid.trans hp.1, hstate]⟩
      rw [hpending] at this
      cases this
    · exact h.finished r h0 hdone s hs hid

/-! ## Every operation -/

theorem retain_segmentInv {run : IngestRun} {segment : IngestSegment} {page : AccountLogPage}
    {prepared : PreparedSegmentPage} {kind : SegmentObservationKind} {retained : RetainedSegmentPage}
    (hx : retainSegmentPage pf run segment page prepared kind db = .ok (retained, db')) (h : SegmentInv db) :
    SegmentInv db' := by
  obtain ⟨_, _, _, _, _, hpages, rfl⟩ := (retainSegmentPage_retains hx).1
  exact h.framed rfl rfl rfl hpages

theorem yields_keeps (updatedAt : Nat) (c : LedgerCursor) :
    KeepsWindow c { c with updatedAt, version := c.version + 1 } := ⟨rfl, rfl, rfl, rfl, rfl⟩

theorem recordProbe_segmentInv {run : IngestRun} {segment : IngestSegment} {retained : RetainedSegmentPage}
    {now interval : Nat} {result : RecordSegmentPageResult} (h : SegmentInv db) (hrun : run ∈ db.runs)
    (hrunning : run.status = .RUNNING) (hs : segment ∈ db.segments)
    (hsegrun : segment.ingestRunId = run.ingestRunId) (hpending : segment.state = .PENDING)
    (hx : recordProbe run segment retained now interval db = .ok (result, db')) : SegmentInv db' := by
  let m : LedgerDb :=
    { db with runs := updateWhere (IngestRun.runningAs run.ingestRunId) (IngestRun.progressed 0) db.runs }
  have hm : SegmentInv m :=
    h.update_runs (f := IngestRun.progressed 0) (fun _ _ => rfl) (fun _ _ => .inl rfl) rfl rfl rfl rfl
  rcases recordProbe_ok hx with ⟨-, -, schedules, errors, drawn, rfl⟩ |
      ⟨split, hsplit, left, right, schedules, -, hhalves, rfl⟩
  · exact hm.update_runs (f := IngestRun.failedAs "pagination_density_exceeded" now) (fun _ _ => rfl)
      (fun _ _ => .inr rfl) rfl rfl rfl rfl
  · obtain ⟨hleft, hright⟩ := splitLedgerWindow_some hsplit
    refine ⟨hm.tree.split_segment hs hpending hleft hright hhalves rfl rfl rfl,
      ⟨hm.lane.runIds, hm.lane.cursorKeys, hm.lane.oneRunning, hm.lane.opened, hm.lane.kinds⟩, ?_⟩
    -- the new segments belong to a run that is not completed
    intro r hr hdone s hmem hid
    have hold : r.ingestRunId ≠ run.ingestRunId := by
      intro he
      obtain ⟨r0, h0, hscan, rfl | ⟨-, rfl⟩⟩ := mem_updateWhere_scan (f := IngestRun.progressed 0) (fun _ _ => rfl) hr
      · rw [h.lane.run_eq hrun h0 he, hrunning] at hdone
        cases hdone
      · have := h.lane.run_eq hrun h0 he
        rw [this] at hdone
        cases hrunning.symm.trans hdone
    rcases h.tree.mem_splitRows hs hpending hmem with rfl | ⟨h0, -⟩ | rfl | rfl
    · exact absurd (hid.symm.trans hsegrun) hold
    · exact hm.finished r hr hdone s h0 hid
    · exact absurd (hid.symm.trans (hhalves.leftRun.trans hsegrun)) hold
    · exact absurd (hid.symm.trans (hhalves.rightRun.trans hsegrun)) hold

theorem acceptLeaf_segmentInv {run : IngestRun} {segment : IngestSegment} {cursor : LedgerCursor}
    {details : List AccountLogDetail} {retained : RetainedSegmentPage} {now : Nat} {result : RecordSegmentPageResult}
    (h : SegmentInv db) (hrun : run ∈ db.runs) (hs : segment ∈ db.segments)
    (hsegrun : segment.ingestRunId = run.ingestRunId) (hpending : segment.state = .PENDING) (hkey : cursor.key = (run.providerAccountKey, run.lane))
    (hanswers : Answers db run.ingestRunId segment.ingestSegmentId retained.page.rawPageId .ACCEPTED_LEAF)
    (hx : acceptLeaf pf run segment cursor details retained now db = .ok (result, db')) : SegmentInv db' := by
  obtain ⟨schedules, rs, m, hdetails, done, u, -, m', hm', hdone, hcomplete⟩ := acceptLeaf_ok hx
  obtain ⟨rawEvents, entries, conflicts, drawn, rfl⟩ := recordDetails_normalizes hdetails
  subst hm'
  let m1 : LedgerDb :=
    { db with runs := updateWhere (IngestRun.runningAs run.ingestRunId) (IngestRun.progressed details.length) db.runs }
  have hm1 : SegmentInv m1 :=
    h.update_runs (f := IngestRun.progressed details.length) (fun _ _ => rfl) (fun _ _ => .inl rfl) rfl rfl rfl rfl
  have hscan : m1.runs.map IngestRun.scan = db.runs.map IngestRun.scan :=
    map_updateWhere (f := IngestRun.progressed details.length) (fun _ _ => rfl) _
  have hexhausted : ∃ page ∈ m1.pages, page.rawPageId = retained.page.rawPageId ∧ Exhausts m1.runs page segment := by
    obtain ⟨page, hp, hid, hmore, ⟨r, hr, hrid, haccount⟩, s0, h0, hsid, hstart, hend⟩ := hanswers
    rw [h.tree.segmentIds.eq h0 hs hsid] at hstart hend
    have : Exhausts db.runs page segment := by
      refine ⟨by simpa using hmore, hstart.symm, hend.symm, fun r' hr' hr'id => ?_⟩
      rw [h.lane.run_eq hr hr' ((hr'id.trans hsegrun).trans hrid.symm), haccount]
    exact ⟨page, hp, hid, this.framed hscan⟩
  -- the leaf is complete
  have hm2 : SegmentInv { db with
      schedules, rawEvents, entries, conflicts, drawn
      runs := updateWhere (IngestRun.runningAs run.ingestRunId) (IngestRun.progressed details.length) db.runs
      segments := updateWhere (IngestSegment.pendingAs segment.ingestSegmentId)
        (IngestSegment.acceptedAs retained.page.rawPageId now) db.segments } := by
    refine ⟨hm1.tree.accept hs hpending hexhausted rfl rfl rfl,
      ⟨hm1.lane.runIds, hm1.lane.cursorKeys, hm1.lane.oneRunning, hm1.lane.opened, hm1.lane.kinds⟩, ?_⟩
    intro r hr hcompleted s hmem hid
    rcases h.tree.mem_update hs hpending hmem with rfl | ⟨h0, -⟩
    · simp [IngestSegment.acceptedAs]
    · exact hm1.finished r hr hcompleted s h0 hid
  rcases completeIfDone_ok hcomplete with ⟨-, rfl⟩ | ⟨hd, hc⟩
  · exact hm2
  · obtain ⟨⟨r, hr, hrunning⟩, compensation, rfl⟩ := completeSegmentRun_ok hc
    simp only [IngestRun.runningAs, Bool.and_eq_true, decide_eq_true_eq] at hrunning
    obtain ⟨r0, h0, hscan, -⟩ := mem_updateWhere_scan (f := IngestRun.progressed details.length) (fun _ _ => rfl) hr
    obtain ⟨hid, haccount, -, -, hlane⟩ := IngestRun.scan_eq hscan
    obtain rfl := h.lane.run_eq hrun h0 (hid.symm.trans hrunning.1)
    refine hm2.complete ⟨r, hr, hrunning.1, hrunning.2, by rw [hkey, haccount, hlane]⟩ ?_ rfl rfl rfl rfl
    simpa [hd] using hdone.symm

theorem finishPage_segmentInv {run : IngestRun} {segment : IngestSegment} {cursor : LedgerCursor}
    {page : AccountLogPage} {retained : RetainedSegmentPage} {now interval : Nat} {result : RecordSegmentPageResult}
    (h : SegmentInv db) (hrun : run ∈ db.runs) (hrunning : run.status = .RUNNING) (hs : segment ∈ db.segments)
    (hsegrun : segment.ingestRunId = run.ingestRunId) (hpending : segment.state = .PENDING)
    (hkey : cursor.key = (run.providerAccountKey, run.lane))
    (hanswers : Answers db run.ingestRunId segment.ingestSegmentId retained.page.rawPageId (observationKind page))
    (hx : finishPage pf run segment cursor page retained now interval db = .ok (result, db')) : SegmentInv db' := by
  rcases finishPage_ok hx with ⟨-, -, u, hv⟩ | ⟨-, -, hp⟩ | ⟨-, hmore, hp⟩
  · obtain ⟨c, schedules, errors, drawn, -, rfl⟩ := failPaginationVariant_ok hv
    exact h.update_cursors (fun _ _ => yields_keeps _ _) rfl rfl rfl (List.Subset.refl _)
  · exact recordProbe_segmentInv h hrun hrunning hs hsegrun hpending hp
  · rw [observationKind, hmore] at hanswers
    exact acceptLeaf_segmentInv h hrun hs hsegrun hpending hkey hanswers hp

theorem recordSegmentPage_segmentInv {input : RecordSegmentPageInput} {result : RecordSegmentPageResult}
    (h : SegmentInv db) (hx : recordSegmentPage pf input db = .ok (result, db')) : SegmentInv db' := by
  obtain ⟨run, segment, cursor, prepared, retained, m, interval, hg, -, -, hretain, hfinish⟩ :=
    recordSegmentPage_ok hx
  have hanswers := (retainSegmentPage_retains hretain).2
  have hm := retain_segmentInv hretain h
  obtain ⟨_, _, _, _, _, -, rfl⟩ := (retainSegmentPage_retains hretain).1
  obtain ⟨-, hkey, hlane⟩ := cursor_some hg.cursorFound
  exact finishPage_segmentInv hm hg.runMem hg.running hg.segmentMem hg.segmentRun hg.pending
    (by rw [LedgerCursor.key, hkey, hlane]) hanswers hfinish

theorem Fails.segmentInv {run : IngestRun} {cursor : LedgerCursor} {code : String} {now : Nat}
    (hf : Fails db run cursor code now db') (h : SegmentInv db) : SegmentInv db' := by
  obtain ⟨schedules, errors, drawn, rfl⟩ := hf
  let m : LedgerDb :=
    { db with runs := updateWhere (IngestRun.runningAs run.ingestRunId) (IngestRun.failedAs code now) db.runs }
  have hm : SegmentInv m :=
    h.update_runs (f := IngestRun.failedAs code now) (fun _ _ => rfl) (fun _ _ => .inr rfl) rfl rfl rfl rfl
  by_cases hc : cursor.complete = true
  · exact hm.framed rfl rfl (if_pos hc) (List.Subset.refl _)
  · exact hm.update_cursors
      (f := fun c => { c with nextPageNo := some 1, updatedAt := max now cursor.updatedAt, version := c.version + 1 })
      (fun _ _ => ⟨rfl, rfl, rfl, rfl, rfl⟩) (if_neg hc) rfl rfl (List.Subset.refl _)

/-- **Every operation keeps the invariant.** -/
theorem LedgerOp.run_segmentInv {op : LedgerOp} {u : Unit} (hx : op.run pf db = .ok (u, db')) (h : SegmentInv db) :
    SegmentInv db' := by
  cases op with
  | startIngestRun input =>
    obtain ⟨run, m, hstart, hp⟩ := bind_ok.mp hx
    obtain ⟨-, rfl⟩ := pure_ok.mp hp
    obtain ⟨p, _, -, ⟨-, -, rfl⟩ | ⟨-, hn⟩⟩ := startIngestRun_ok hstart
    · exact h
    · exact h.start hn
  | recordSegmentPage input =>
    obtain ⟨result, m, hrecord, hp⟩ := bind_ok.mp hx
    obtain ⟨-, rfl⟩ := pure_ok.mp hp
    exact recordSegmentPage_segmentInv h hrecord
  | completeIngestRun input =>
    rcases completeIngestRun_ok hx with rfl | ⟨run, cursor, status, now, hrun, hrunning, hcursor, hdone, -⟩
    · exact h
    · -- the cursor of a running run is open
      rw [(h.lane.cursor_open hrun hrunning hcursor).incomplete] at hdone
      cases hdone
  | recordIngestError input =>
    obtain ⟨run, cursor, now, -, -, -, -, ⟨-, _, _, _, rfl⟩ | ⟨-, hf⟩⟩ := recordIngestError_ok hx
    · exact h.update_cursors (fun _ _ => yields_keeps _ _) rfl rfl rfl (List.Subset.refl _)
    · exact hf.segmentInv h
  | markIngestBatchYield ingestRunId now =>
    rcases markIngestBatchYield_ok hx with rfl | ⟨_, _, _, -, -, -, rfl⟩
    · exact h
    · exact h.update_cursors (fun _ _ => yields_keeps _ _) rfl rfl rfl (List.Subset.refl _)
  | resolveConflict input =>
    rcases resolveConflict_ok hx with rfl | ⟨operation, c, -, -, -, -, -, ho⟩
    · exact h
    · obtain ⟨-, -, rfl⟩ := insertConflictOperation_ok ho
      exact h.framed rfl rfl rfl (List.Subset.refl _)
  | setEntryState ledgerEntryId state updatedAt =>
    obtain rfl := setEntryState_ok hx
    exact h.framed rfl rfl rfl (List.Subset.refl _)
  | configure configuration =>
    simp only [LedgerOp.run, update_ok] at hx
    subst hx
    exact h.framed rfl rfl rfl (List.Subset.refl _)

theorem SegmentInv.reachable (h : Runs.Reachable (ledgerStore pf) db) : SegmentInv db := by
  refine h.invariant (fun _ h0 => .empty h0) fun s l s' hs hstep => ?_
  have hsupplied : SegmentInv (s.supplied l.2) := hs.framed rfl rfl rfl (List.Subset.refl _)
  rw [show s' = committed (l.1.run pf) (s.supplied l.2) from hstep]
  rcases committed_cases (l.1.run pf) (s.supplied l.2) with ⟨u, hx⟩ | ⟨-, hx⟩
  · exact LedgerOp.run_segmentInv hx hsupplied
  · rw [hx]
    exact hsupplied

/-- The leaves of a run, ordered by the start of their windows. -/
def LedgerDb.leavesInOrder (db : LedgerDb) (ingestRunId : String) : List IngestSegment :=
  (db.leaves ingestRunId).mergeSort fun a b => a.windowStart ≤ b.windowStart

/-- **The window of a run is tiled.**  In every reachable ledger the pending and complete segments of a
    run, in the order of their starts, lead from the start of its window to the end; every split
    segment has two children, which meet where it was split; and when the run is completed each of its
    leaves has an accepted page without further results, so no point of the window was left unread. -/
theorem segments_tile_run (hdb : Runs.Reachable (ledgerStore pf) db) :
    (∀ run ∈ db.runs, Chain ((db.leavesInOrder run.ingestRunId).map IngestSegment.window)
      run.windowStart run.windowEnd) ∧
    (∀ s ∈ db.segments, s.state = .SPLIT → SplitIn db s) ∧
    (∀ run ∈ db.runs, run.status = .COMPLETED →
      (∀ s ∈ db.leaves run.ingestRunId, s.state = .COMPLETE ∧ AcceptedIn db s) ∧
      ∀ t, run.windowStart ≤ t → t < run.windowEnd → ∃ page ∈ db.pages, page.hasMore = false ∧
        page.providerAccountKey = run.providerAccountKey ∧ page.windowStart ≤ t ∧ t < page.windowEnd) := by
  have h := SegmentInv.reachable hdb
  refine ⟨fun run hrun => (h.tree.tiled run hrun).sorted, h.tree.halves, fun run hrun hdone => ?_⟩
  have hleaf : ∀ s ∈ db.leaves run.ingestRunId, s.state = .COMPLETE ∧ AcceptedIn db s := by
    intro s hs
    obtain ⟨hmem, hq⟩ := List.mem_filter.mp hs
    simp only [Bool.and_eq_true, decide_eq_true_eq] at hq
    have hstate : s.state = .COMPLETE := by
      have hpending := h.finished run hrun hdone s hmem hq.1
      cases hstate : s.state with
      | PENDING => exact absurd hstate hpending
      | SPLIT => exact absurd hstate hq.2
      | COMPLETE => rfl
    exact ⟨hstate, h.tree.accepted s hmem hstate⟩
  refine ⟨hleaf, fun t hstart hend => ?_⟩
  obtain ⟨window, hw, hlo, hhi⟩ := (h.tree.tiled run hrun).covers hstart hend
  obtain ⟨s, hs, rfl⟩ := List.mem_map.mp hw
  obtain ⟨page, hp, -, hexhausts⟩ := (hleaf s hs).2
  have hrunId : run.ingestRunId = s.ingestRunId := by
    have := (List.mem_filter.mp hs).2
    simp only [Bool.and_eq_true, decide_eq_true_eq] at this
    exact this.1.symm
  exact ⟨page, hp, hexhausts.exhausted, hexhausts.account run hrun hrunId, hexhausts.windowStart ▸ hlo,
    hexhausts.windowEnd ▸ hhi⟩

/-! ### A sample run

A probe splits the window of ten minutes in two, and an empty leaf completes each half. -/

def sampleProbe : RecordSegmentPageInput :=
  samplePage "101" "probe" 8 true (List.replicate 4
    { raw := none, accountLogId := none, occurredAt := none, amount := none, direction := none,
      alipayOrderNo := none, merchantOrderNo := none, transMemo := none, otherAccount := none })

/-- The ledger after a page of the sample run. -/
def sampleRecorded (k : Nat) (input : RecordSegmentPageInput) (db : LedgerDb) : LedgerDb :=
  committed (LedgerOp.run samplePlatform (.recordSegmentPage input)) (db.supplied (sampleUuids k))

def sampleCompleted : LedgerDb :=
  sampleRecorded 4 (samplePage "202" "right" 0 false [])
    (sampleRecorded 3 (samplePage "201" "left" 0 false []) (sampleRecorded 2 sampleProbe sampleOpened))

theorem sampleRecorded_reachable {db : LedgerDb} (h : Runs.Reachable (ledgerStore samplePlatform) db) (k : Nat)
    (input : RecordSegmentPageInput) : Runs.Reachable (ledgerStore samplePlatform) (sampleRecorded k input db) :=
  reachable_operation h _ _

theorem sampleCompleted_reachable : Runs.Reachable (ledgerStore samplePlatform) sampleCompleted :=
  sampleRecorded_reachable (sampleRecorded_reachable (sampleRecorded_reachable sampleOpened_reachable _ _) _ _) _ _

theorem segments_tile_run_sample :
    sampleCompleted.runs.map (·.status) = [.COMPLETED] ∧
    (sampleCompleted.leaves "100").map IngestSegment.window =
      [("2026-07-20 10:00:00", "2026-07-20 10:05:00"), ("2026-07-20 10:05:00", "2026-07-20 10:10:00")] ∧
    (∀ s ∈ sampleCompleted.segments, s.state = .SPLIT → SplitIn sampleCompleted s) ∧
    ∀ run ∈ sampleCompleted.runs, Chain ((sampleCompleted.leavesInOrder run.ingestRunId).map IngestSegment.window)
      run.windowStart run.windowEnd := by
  obtain ⟨htiled, hsplit, -⟩ := segments_tile_run sampleCompleted_reachable
  have hrun : sampleCompleted.runs.map (·.status) = [.COMPLETED] ∧
      (sampleCompleted.leaves "100").map IngestSegment.window =
        [("2026-07-20 10:00:00", "2026-07-20 10:05:00"), ("2026-07-20 10:05:00", "2026-07-20 10:10:00")] := by
    decide +kernel
  exact ⟨hrun.1, hrun.2, hsplit, htiled⟩

end PerPay.Ledger
