/-
  **Page variants** — the provider may answer one request in different ways, and an answer counts when
  it is the first one or when it comes twice in a row.

  The answers to a request, joined with their pages, are `observationsOf`.  Three facts hold of them in
  every reachable ledger:

  * `ObservationInv.follows` — they are processed or rejected as `Repetition.verdicts` says;
  * `RejectionInv.rejected` — when the last of them was rejected, its conflict is open, and it is the
    only conflict that a confirmation finds;
  * `EventInv.whole` — the raw events of a page are none before its first processed observation, and
    one for each detail from then on.

  The conflict of a rejection carries the number of the answer before it.  That number tells it from
  every other conflict, also when the answers alternate.
-/
import PerPay.Lib.Repetition
import PerPay.Ledger.Deduplication

namespace PerPay.Ledger

open Txn Table Repetition

variable {pf : LedgerPlatform} {db db' : LedgerDb}

/-! ## The observations of a request -/

def LatestPageObservation.processed (o : LatestPageObservation) : Bool := o.disposition = .PROCESSED

structure ObservationInv (pf : LedgerPlatform) (db : LedgerDb) : Prop where
  numbered : Numbered PageObservation.observationSequence db.observations
  pageIds : UniqueOn RawPage.rawPageId db.pages
  pageKeys : UniqueOn RawPage.key db.pages
  hashed : ∀ p ∈ db.pages, p.responseFingerprint = pf.sha256 p.rawBody
  observed : ∀ o ∈ db.observations, ∃ p ∈ db.pages, p.rawPageId = o.rawPageId ∧
    (p.hasMore = true ↔ o.observationKind = .OVERSIZED_PROBE)
  follows : ∀ account request, (db.observationsOf account request).map (·.processed) =
    verdicts ((db.observationsOf account request).map (·.page.responseFingerprint))

theorem ObservationInv.empty (h : db.Empty) : ObservationInv pf db := by
  constructor <;> simp [h.pages, h.observations, uniqueOn_nil, Numbered, LedgerDb.observationsOf, verdicts]

/-- The invariant is about two tables. -/
theorem ObservationInv.framed (h : ObservationInv pf db) (hp : db'.pages = db.pages)
    (ho : db'.observations = db.observations) : ObservationInv pf db' := by
  have hof : ∀ account request, db'.observationsOf account request = db.observationsOf account request := by
    intro account request
    simp only [LedgerDb.observationsOf, LedgerDb.pageFor, hp, ho]
  refine ⟨ho ▸ h.numbered, hp ▸ h.pageIds, hp ▸ h.pageKeys, hp ▸ h.hashed, ?_, ?_⟩
  · rw [ho, hp]
    exact h.observed
  · intro account request
    rw [hof]
    exact h.follows account request

theorem pageFor_some {account request rawPageId : String} {p : RawPage}
    (h : db.pageFor account request rawPageId = some p) :
    p ∈ db.pages ∧ p.rawPageId = rawPageId ∧ p.providerAccountKey = account ∧ p.requestFingerprint = request := by
  have hp := List.find?_some h
  simp only [Bool.and_eq_true, decide_eq_true_eq] at hp
  exact ⟨List.mem_of_find?_eq_some h, hp.1.1, hp.1.2, hp.2⟩

/-- A stored page is found under its own request. -/
theorem pageFor_own (hids : UniqueOn RawPage.rawPageId db.pages) {p : RawPage} (hp : p ∈ db.pages) :
    db.pageFor p.providerAccountKey p.requestFingerprint p.rawPageId = some p := by
  cases hf : db.pageFor p.providerAccountKey p.requestFingerprint p.rawPageId with
  | none =>
    have := List.find?_eq_none.mp hf p hp
    simp at this
  | some q =>
    obtain ⟨hq, hid, -⟩ := pageFor_some hf
    rw [hids.eq hq hp hid]

/-- ... and under no other. -/
theorem pageFor_other (hids : UniqueOn RawPage.rawPageId db.pages) {p : RawPage} (hp : p ∈ db.pages)
    {account request : String} (hne : ¬ (account = p.providerAccountKey ∧ request = p.requestFingerprint)) :
    db.pageFor account request p.rawPageId = none := by
  cases hf : db.pageFor account request p.rawPageId with
  | none => rfl
  | some q =>
    obtain ⟨hq, hid, haccount, hrequest⟩ := pageFor_some hf
    rw [hids.eq hq hp hid] at haccount hrequest
    exact absurd ⟨haccount.symm, hrequest.symm⟩ hne

theorem mem_observationsOf {account request : String} {o : LatestPageObservation}
    (h : o ∈ db.observationsOf account request) :
    o.page ∈ db.pages ∧ o.page.providerAccountKey = account ∧ o.page.requestFingerprint = request ∧
      ∃ x ∈ db.observations, x.rawPageId = o.page.rawPageId ∧ x.disposition = o.disposition ∧
        x.observationSequence = o.sequence ∧ x.ingestSegmentId = o.ingestSegmentId := by
  obtain ⟨x, hx, he⟩ := List.mem_filterMap.mp h
  obtain ⟨p, hp, rfl⟩ := Option.map_eq_some_iff.mp he
  obtain ⟨hmem, hid, haccount, hrequest⟩ := pageFor_some hp
  exact ⟨hmem, haccount, hrequest, x, hx, hid.symm, rfl, rfl, rfl⟩

/-- The observations of one request are numbered as all observations are. -/
theorem ObservationInv.numberedOf (h : ObservationInv pf db) (account request : String) :
    Numbered LatestPageObservation.sequence (db.observationsOf account request) := by
  refine List.Pairwise.filterMap _ ?_ h.numbered
  intro x y hlt a ha b hb
  obtain ⟨p, -, rfl⟩ := Option.map_eq_some_iff.mp ha
  obtain ⟨q, -, rfl⟩ := Option.map_eq_some_iff.mp hb
  exact hlt

/-- The latest observation is the last one. -/
theorem ObservationInv.latest (h : ObservationInv pf db) (account request : String) :
    db.latestPageObservation account request = (db.observationsOf account request).getLast? :=
  (h.numberedOf account request).argmax

/-! ## A page is stored -/

/-- A new page answers no earlier observation. -/
theorem observationsOf_store (h : ObservationInv pf db) {row : RawPage}
    (hfresh : ∀ p ∈ db.pages, p.rawPageId ≠ row.rawPageId) (hp : db'.pages = db.pages ++ [row])
    (ho : db'.observations = db.observations) (account request : String) :
    db'.observationsOf account request = db.observationsOf account request := by
  unfold LedgerDb.observationsOf
  rw [ho]
  refine List.filterMap_congr fun o hmem => ?_
  obtain ⟨p, hpm, hid, -⟩ := h.observed o hmem
  have : db'.pageFor account request o.rawPageId = db.pageFor account request o.rawPageId := by
    unfold LedgerDb.pageFor
    rw [hp, List.find?_append]
    have hnone : List.find? (fun p => decide (p.rawPageId = o.rawPageId) && decide (p.providerAccountKey = account) &&
        decide (p.requestFingerprint = request)) [row] = none := by
      rw [List.find?_singleton, if_neg]
      simp only [Bool.and_eq_true, decide_eq_true_eq]
      rintro ⟨⟨he, -⟩, -⟩
      exact hfresh p hpm (hid.trans he.symm)
    rw [hnone, Option.or_none]
  rw [this]

theorem ObservationInv.store (h : ObservationInv pf db) {row : RawPage}
    (hfresh : ∀ p ∈ db.pages, p.rawPageId ≠ row.rawPageId) (hkey : ∀ p ∈ db.pages, p.key ≠ row.key)
    (hbody : row.responseFingerprint = pf.sha256 row.rawBody) (hp : db'.pages = db.pages ++ [row])
    (ho : db'.observations = db.observations) : ObservationInv pf db' := by
  refine ⟨ho ▸ h.numbered, ?_, ?_, ?_, ?_, ?_⟩
  · rw [hp]
    exact h.pageIds.append hfresh
  · rw [hp]
    exact h.pageKeys.append hkey
  · rw [hp]
    intro p hmem
    rcases List.mem_append.mp hmem with hmem | hmem
    · exact h.hashed p hmem
    · rw [List.mem_singleton.mp hmem]
      exact hbody
  · rw [hp, ho]
    intro o hmem
    obtain ⟨p, hpm, hrest⟩ := h.observed o hmem
    exact ⟨p, List.mem_append_left _ hpm, hrest⟩
  · intro account request
    rw [observationsOf_store h hfresh hp ho]
    exact h.follows account request

/-! ## A page is observed -/

/-- An observation of a page as an answer to its request. -/
def PageObservation.joined (o : PageObservation) (page : RawPage) : LatestPageObservation :=
  ⟨page, o.disposition, o.observationSequence, o.ingestSegmentId⟩

/-- The new observation is the last answer to the request of its page, and to no other request. -/
theorem observationsOf_observe (hids : UniqueOn RawPage.rawPageId db.pages) {row : RawPage} (hrow : row ∈ db.pages)
    {o : PageObservation} (hid : o.rawPageId = row.rawPageId) (hp : db'.pages = db.pages)
    (ho : db'.observations = db.observations ++ [o]) (account request : String) :
    db'.observationsOf account request = db.observationsOf account request ++
      if account = row.providerAccountKey ∧ request = row.requestFingerprint then [o.joined row] else [] := by
  have hpageFor : ∀ id, db'.pageFor account request id = db.pageFor account request id := by
    intro id
    simp only [LedgerDb.pageFor, hp]
  unfold LedgerDb.observationsOf
  rw [ho, List.filterMap_append]
  congr 1
  · exact List.filterMap_congr fun o _ => by rw [hpageFor]
  · by_cases h : account = row.providerAccountKey ∧ request = row.requestFingerprint
    · rw [if_pos h, List.filterMap_cons, hpageFor, hid, h.1, h.2, pageFor_own hids hrow]
      rfl
    · rw [if_neg h, List.filterMap_cons, hpageFor, hid, pageFor_other hids hrow h]
      rfl

theorem ObservationInv.observe (h : ObservationInv pf db) {row : RawPage} (hrow : row ∈ db.pages)
    {o : PageObservation} (hid : o.rawPageId = row.rawPageId)
    (hseq : o.observationSequence = ((db.observations.map (·.observationSequence)).max?).getD 0 + 1)
    (hkind : row.hasMore = true ↔ o.observationKind = .OVERSIZED_PROBE)
    (hverdict : decide (o.disposition = .PROCESSED) =
      counts ((db.observationsOf row.providerAccountKey row.requestFingerprint).map (·.page.responseFingerprint))
        row.responseFingerprint)
    (hp : db'.pages = db.pages) (ho : db'.observations = db.observations ++ [o]) : ObservationInv pf db' := by
  have hnumber : ∀ x ∈ db.observations, x.observationSequence < o.observationSequence := by
    intro x hx
    have hle : x.observationSequence ≤ ((db.observations.map (·.observationSequence)).max?).getD 0 := by
      cases hm : (db.observations.map (·.observationSequence)).max? with
      | none =>
        rw [List.max?_eq_none_iff, List.map_eq_nil_iff] at hm
        rw [hm] at hx
        cases hx
      | some m => exact (List.max?_eq_some_iff.mp hm).2 _ (List.mem_map_of_mem hx)
    omega
  refine ⟨ho ▸ h.numbered.append hnumber, hp ▸ h.pageIds, hp ▸ h.pageKeys, hp ▸ h.hashed, ?_, ?_⟩
  · rw [ho, hp]
    intro x hx
    rcases List.mem_append.mp hx with hx | hx
    · exact h.observed x hx
    · rw [List.mem_singleton.mp hx]
      exact ⟨row, hrow, hid.symm, hkind⟩
  · intro account request
    rw [observationsOf_observe h.pageIds hrow hid hp ho]
    by_cases he : account = row.providerAccountKey ∧ request = row.requestFingerprint
    · obtain ⟨rfl, rfl⟩ := he
      rw [if_pos ⟨rfl, rfl⟩, List.map_append, List.map_append, List.map_singleton, List.map_singleton,
        verdicts_append, h.follows]
      exact congrArg _ (congrArg (fun b => [b]) hverdict)
    · rw [if_neg he, List.append_nil]
      exact h.follows account request

/-! ## Rejections and their conflicts -/

/-- The conflict was made when `b` was rejected, right behind `a`. -/
structure DescribesRejection (pf : LedgerPlatform) (c : LedgerConflict) (account request : String)
    (a b : LatestPageObservation) : Prop where
  account : c.providerAccountKey = account
  type : c.conflictType = .RAW_PAGE_VARIANT
  page : c.rawPageId = some b.page.rawPageId
  incoming : c.incomingSemanticFingerprint = some b.page.responseFingerprint
  details : c.details = .pageVariant request b.ingestSegmentId a.sequence a.page.rawPageId b.page.rawPageId
  fingerprint : c.conflictFingerprint = conflictFingerprint pf.sha256 (pageVariantConflictFingerprintParts
    ⟨request, b.ingestSegmentId, a.sequence, a.page.rawPageId, a.page.responseFingerprint, b.page.rawPageId,
      b.page.responseFingerprint⟩)

/-- `b`, right behind `a`, is the latest answer to the request, and was rejected. -/
structure LatestRejected (db : LedgerDb) (account request : String) (a b : LatestPageObservation) : Prop where
  adjacent : Adjacent (db.observationsOf account request) a b
  last : (db.observationsOf account request).getLast? = some b
  rejected : b.disposition = .REJECTED_VARIANT

structure RejectionInv (pf : LedgerPlatform) (db : LedgerDb) : Prop where
  facts : FactInv pf db
  observations : ObservationInv pf db
  conflictIds : UniqueOn LedgerConflict.conflictId db.conflicts
  variants : ∀ c ∈ db.conflicts, c.conflictType = .RAW_PAGE_VARIANT → ∃ request a b,
    Adjacent (db.observationsOf c.providerAccountKey request) a b ∧
      DescribesRejection pf c c.providerAccountKey request a b
  rejected : ∀ account request a b, LatestRejected db account request a b →
    ∃ c ∈ db.conflicts, DescribesRejection pf c account request a b ∧ c.status = .OPEN
  applied : ∀ o ∈ db.operations, ∃ c ∈ db.conflicts, c.conflictId = o.request.conflictId ∧ c.status ≠ .OPEN
  systemKeys : ∀ o ∈ db.operations, ∀ id, o.operationKey = "system:confirm_variant:" ++ id →
    o.request.conflictId = id

theorem RejectionInv.empty (h : db.Empty) : RejectionInv pf db where
  facts := .empty h
  observations := .empty h
  conflictIds := by simp [h.conflicts, uniqueOn_nil]
  variants := by simp [h.conflicts]
  rejected account request a b hl := by
    have := hl.last
    simp [LedgerDb.observationsOf, h.observations] at this
  applied := by simp [h.operations]
  systemKeys := by simp [h.operations]

/-- Nothing happened to the answers, the conflicts and their resolutions. -/
theorem RejectionInv.framed (h : RejectionInv pf db) (hfacts : FactInv pf db') (hobs : ObservationInv pf db')
    (hof : ∀ account request, db'.observationsOf account request = db.observationsOf account request)
    (hc : db'.conflicts = db.conflicts) (ho : db'.operations = db.operations) : RejectionInv pf db' := by
  refine ⟨hfacts, hobs, hc ▸ h.conflictIds, ?_, ?_, ?_, ho ▸ h.systemKeys⟩
  · intro c hmem htype
    obtain ⟨request, a, b, hab, hd⟩ := h.variants c (hc ▸ hmem) htype
    exact ⟨request, a, b, by rwa [hof], hd⟩
  · intro account request a b hl
    rw [hc]
    exact h.rejected account request a b ⟨hof account request ▸ hl.adjacent, hof account request ▸ hl.last, hl.rejected⟩
  · rw [ho, hc]
    exact h.applied

/-- Tables other than the pages, observations, conflicts, resolutions and entries changed. -/
theorem RejectionInv.same (h : RejectionInv pf db) (hp : db'.pages = db.pages)
    (hobs : db'.observations = db.observations) (hc : db'.conflicts = db.conflicts)
    (ho : db'.operations = db.operations) (he : db'.entries = db.entries) : RejectionInv pf db' := by
  refine h.framed (h.facts.framed he hc) (h.observations.framed hp hobs) (fun account request => ?_) hc ho
  simp only [LedgerDb.observationsOf, LedgerDb.pageFor, hp, hobs]

/-- A conflict of another kind was made. -/
theorem RejectionInv.insert (h : RejectionInv pf db) (hfacts : FactInv pf db') {c : LedgerConflict}
    (hfresh : ∀ x ∈ db.conflicts, x.conflictId ≠ c.conflictId) (htype : c.conflictType ≠ .RAW_PAGE_VARIANT)
    (hp : db'.pages = db.pages) (hobs : db'.observations = db.observations)
    (hc : db'.conflicts = db.conflicts ++ [c]) (ho : db'.operations = db.operations) : RejectionInv pf db' := by
  have hof : ∀ account request, db'.observationsOf account request = db.observationsOf account request := by
    intro account request
    simp only [LedgerDb.observationsOf, LedgerDb.pageFor, hp, hobs]
  refine ⟨hfacts, h.observations.framed hp hobs, ?_, ?_, ?_, ?_, ho ▸ h.systemKeys⟩
  · rw [hc]
    exact h.conflictIds.append hfresh
  · intro x hx hxt
    rw [hc] at hx
    rcases List.mem_append.mp hx with hx | hx
    · obtain ⟨request, a, b, hab, hd⟩ := h.variants x hx hxt
      exact ⟨request, a, b, by rwa [hof], hd⟩
    · rw [List.mem_singleton.mp hx] at hxt
      exact absurd hxt htype
  · intro account request a b hl
    obtain ⟨x, hx, hrest⟩ := h.rejected account request a b
      ⟨hof account request ▸ hl.adjacent, hof account request ▸ hl.last, hl.rejected⟩
    exact ⟨x, hc ▸ List.mem_append_left _ hx, hrest⟩
  · intro o hmem
    obtain ⟨x, hx, hrest⟩ := h.applied o (ho ▸ hmem)
    exact ⟨x, hc ▸ List.mem_append_left _ hx, hrest⟩

/-- A conflict was resolved that no latest rejection is waiting for. -/
theorem RejectionInv.resolve (h : RejectionInv pf db) {operation : ConflictOperation} {c : LedgerConflict}
    (hmem : c ∈ db.conflicts) (hid : c.conflictId = operation.request.conflictId)
    (hfree : ∀ account request a b, LatestRejected db account request a b → ¬ DescribesRejection pf c account request a b)
    (hkey : ∀ id, operation.operationKey = "system:confirm_variant:" ++ id → operation.request.conflictId = id)
    (hp : db'.pages = db.pages) (hobs : db'.observations = db.observations) (he : db'.entries = db.entries)
    (hc : db'.conflicts = updateWhere (LedgerConflict.openAs operation.request.conflictId)
      (LedgerConflict.resolved operation) db.conflicts)
    (ho : db'.operations = db.operations ++ [operation]) : RejectionInv pf db' := by
  have hof : ∀ account request, db'.observationsOf account request = db.observationsOf account request := by
    intro account request
    simp only [LedgerDb.observationsOf, LedgerDb.pageFor, hp, hobs]
  have hstays : ∀ x ∈ db.conflicts, x.status ≠ .OPEN → x ∈ db'.conflicts := by
    intro x hx hs
    rw [hc]
    exact mem_updateWhere.mpr (.inr ⟨hx, by simp [LedgerConflict.openAs, hs]⟩)
  have hprogress : Progress pf db db' := .of_resolved he hc
  refine ⟨(hprogress h.facts).1, h.observations.framed hp hobs, ?_, ?_, ?_, ?_, ?_⟩
  · rw [hc]
    exact h.conflictIds.updateWhere fun _ _ => rfl
  · intro x hx htype
    rw [hc] at hx
    rcases mem_updateWhere.mp hx with ⟨x0, h0, -, rfl⟩ | ⟨h0, -⟩
    · obtain ⟨request, a, b, hab, hd⟩ := h.variants x0 h0 htype
      exact ⟨request, a, b, by rw [hof]; exact hab, hd.account, hd.type, hd.page, hd.incoming, hd.details, hd.fingerprint⟩
    · obtain ⟨request, a, b, hab, hd⟩ := h.variants x h0 htype
      exact ⟨request, a, b, by rwa [hof], hd⟩
  · intro account request a b hl
    have hl0 : LatestRejected db account request a b :=
      ⟨hof account request ▸ hl.adjacent, hof account request ▸ hl.last, hl.rejected⟩
    obtain ⟨x, hx, hd, hopen⟩ := h.rejected account request a b hl0
    refine ⟨x, ?_, hd, hopen⟩
    rw [hc]
    refine mem_updateWhere.mpr (.inr ⟨hx, ?_⟩)
    by_contra hopenAs
    have hxid : x.conflictId = operation.request.conflictId := by
      simp only [LedgerConflict.openAs, Bool.not_eq_false, Bool.and_eq_true, decide_eq_true_eq] at hopenAs
      exact hopenAs.1
    rw [h.conflictIds.eq hx hmem (hxid.trans hid.symm)] at hd
    exact hfree account request a b hl0 hd
  · intro o hmemo
    rw [ho] at hmemo
    rcases List.mem_append.mp hmemo with hmemo | hmemo
    · obtain ⟨x, hx, hxid, hs⟩ := h.applied o hmemo
      exact ⟨x, hstays x hx hs, hxid, hs⟩
    · rw [List.mem_singleton.mp hmemo]
      by_cases hs : c.status = .OPEN
      · refine ⟨c.resolved operation, ?_, hid, ?_⟩
        · rw [hc]
          exact mem_updateWhere.mpr (.inl ⟨c, hmem, by simp [LedgerConflict.openAs, hid, hs], rfl⟩)
        · simp only [LedgerConflict.resolved]
          split <;> decide
      · exact ⟨c, hstays c hmem hs, hid, hs⟩
  · intro o hmemo id hoid
    rw [ho] at hmemo
    rcases List.mem_append.mp hmemo with hmemo | hmemo
    · exact h.systemKeys o hmemo id hoid
    · rw [List.mem_singleton.mp hmemo] at hoid ⊢
      exact hkey id hoid

/-! ## A response is retained -/

/-- The stored page of a response. -/
structure PageOf (run : IngestRun) (page : AccountLogPage) (prepared : PreparedSegmentPage) (requestHash : String)
    (row : RawPage) : Prop where
  account : row.providerAccountKey = run.providerAccountKey
  request : row.requestFingerprint = requestHash
  response : row.responseFingerprint = prepared.responseHash
  hasMore : row.hasMore = page.hasMore
  totalSize : row.totalSize = page.totalSize

theorem retainPage_rejectionInv {run : IngestRun} {segment : IngestSegment} {page : AccountLogPage}
    {prepared : PreparedSegmentPage} {requestHash : String} {row : RawPage} (h : RejectionInv pf db)
    (hbody : prepared.responseHash = pf.sha256 prepared.evidence.body)
    (hx : retainPage run segment page prepared requestHash
      (db.rawPageByFingerprints run.providerAccountKey requestHash prepared.responseHash) db = .ok (row, db')) :
    RejectionInv pf db' ∧ row ∈ db'.pages ∧ PageOf run page prepared requestHash row ∧
      db'.observations = db.observations ∧ db'.conflicts = db.conflicts ∧
      (∀ account request, db'.observationsOf account request = db.observationsOf account request) ∧
      (row ∈ db.pages ∨ ∀ p ∈ db.pages, p.rawPageId ≠ row.rawPageId) ∧
      (∀ p ∈ db'.pages, p ∈ db.pages ∨ p = row) ∧
      (db.rawPageByFingerprints run.providerAccountKey requestHash prepared.responseHash = none →
        ∀ x ∈ db.observations, x.rawPageId ≠ row.rawPageId) := by
  rcases retainPage_ok hx with ⟨hsome, hmore, htotal, rfl⟩ | ⟨-, hstores, hfresh, hkey, rfl⟩
  · obtain ⟨hmem, haccount, hrequest, hresponse⟩ := rawPageByFingerprints_some hsome
    exact ⟨h, hmem, ⟨haccount, hrequest, hresponse, hmore, htotal⟩, rfl, rfl, fun _ _ => rfl, .inl hmem,
      fun _ hp => .inl hp, fun hnone => by cases hnone.symm.trans hsome⟩
  · have hobs : ObservationInv pf { db with pages := db.pages ++ [row], drawn := db.drawn + 1 } :=
      h.observations.store hfresh hkey (by rw [hstores.response, hstores.body, hbody]) rfl rfl
    have hof : ∀ account request,
        LedgerDb.observationsOf { db with pages := db.pages ++ [row], drawn := db.drawn + 1 } account request =
          db.observationsOf account request :=
      observationsOf_store h.observations hfresh rfl rfl
    refine ⟨h.framed (h.facts.framed rfl rfl) hobs hof rfl rfl,
      List.mem_append_right _ (List.mem_singleton_self row),
      ⟨hstores.account, hstores.request, hstores.response, hstores.hasMore, hstores.totalSize⟩, rfl, rfl, hof,
      .inr hfresh, fun p hp => ?_, fun _ x hx hid => ?_⟩
    · rcases List.mem_append.mp hp with hp | hp
      · exact .inl hp
      · exact .inr (List.mem_singleton.mp hp)
    obtain ⟨p, hp, hpid, -⟩ := h.observations.observed x hx
    exact hfresh p hp (hpid.trans hid)

/-- An observation that was placed is of the kind its page calls for. -/
theorem Observes.kind_iff {run : IngestRun} {segment : IngestSegment} {kind : SegmentObservationKind}
    {disposition : PageObservationDisposition} {o : PageObservation} {row : RawPage}
    (h : Observes db run segment row.rawPageId kind disposition o) (hids : UniqueOn RawPage.rawPageId db.pages)
    (hrow : row ∈ db.pages) : row.hasMore = true ↔ o.observationKind = .OVERSIZED_PROBE := by
  obtain ⟨page, hp, hid, hmore, -⟩ := placesObservation_answers h.placed
  rw [← hids.eq hp hrow (hid.trans h.rawPageId)]
  exact hmore

theorem counts_map {β γ : Type} [DecidableEq γ] {f : β → γ} {L : List β} {l : β} (h : L.getLast? = some l) (b : γ) :
    counts (L.map f) b = decide (b = f l) := by
  rw [counts, List.getLast?_map, h]
  rfl

section
variable {run : IngestRun} {segment : IngestSegment} {row : RawPage} {o : PageObservation}
  {kind : SegmentObservationKind}

/-- A response is processed: it is the first one, or repeats the one before it. -/
theorem RejectionInv.process (h : RejectionInv pf db) (hrow : row ∈ db.pages)
    (ho : Observes db run segment row.rawPageId kind .PROCESSED o)
    (hcounts : counts ((db.observationsOf row.providerAccountKey row.requestFingerprint).map
      (·.page.responseFingerprint)) row.responseFingerprint = true) :
    RejectionInv pf { db with observations := db.observations ++ [o] } := by
  have hof := @observationsOf_observe db { db with observations := db.observations ++ [o] } h.observations.pageIds
    row hrow o ho.rawPageId rfl rfl
  have hobs : ObservationInv pf { db with observations := db.observations ++ [o] } :=
    h.observations.observe hrow ho.rawPageId ho.sequence (ho.kind_iff h.observations.pageIds hrow)
      (by rw [hcounts, ho.disposition]; rfl) rfl rfl
  refine ⟨h.facts.framed rfl rfl, hobs, h.conflictIds, ?_, ?_, h.applied, h.systemKeys⟩
  · intro c hc htype
    obtain ⟨request, a, b, hab, hd⟩ := h.variants c hc htype
    refine ⟨request, a, b, ?_, hd⟩
    rw [hof]
    split
    · exact hab.append _
    · rwa [List.append_nil]
  · intro account request a b hl
    by_cases he : account = row.providerAccountKey ∧ request = row.requestFingerprint
    · -- the latest answer to this request is processed
      have hlast := hl.last
      rw [hof, if_pos he, List.getLast?_append_cons, List.getLast?_singleton] at hlast
      have hrejected := hl.rejected
      rw [← Option.some.inj hlast] at hrejected
      exact absurd (ho.disposition.symm.trans hrejected) (by decide)
    · have hsame : LedgerDb.observationsOf { db with observations := db.observations ++ [o] } account request =
          db.observationsOf account request := by rw [hof, if_neg he, List.append_nil]
      exact h.rejected account request a b ⟨hsame ▸ hl.adjacent, hsame ▸ hl.last, hl.rejected⟩

/-- The conflict of a rejection does not exist yet. -/
theorem RejectionInv.no_conflict (hsha : Function.Injective pf.sha256) (h : RejectionInv pf db)
    {account request : String} {a : LatestPageObservation} {evidence : PageVariantConflictEvidence}
    (hlast : (db.observationsOf account request).getLast? = some a) (hrequest : evidence.requestFingerprint = request)
    (hsequence : evidence.previousObservationSequence = a.sequence) :
    db.conflictWith account (conflictFingerprint pf.sha256 (pageVariantConflictFingerprintParts evidence)) = none := by
  cases hf : db.conflictWith account
    (conflictFingerprint pf.sha256 (pageVariantConflictFingerprintParts evidence)) with
  | none => rfl
  | some c =>
    obtain ⟨hmem, haccount, hfp⟩ := conflictWith_some hf
    have htype : c.conflictType = .RAW_PAGE_VARIANT := by
      obtain ⟨parts, hparts⟩ := h.facts.tagged c hmem
      have hhead := (List.cons.inj (conflictFingerprint_injective hsha (hparts.symm.trans hfp))).1
      exact LedgerConflictType.name_injective (text_injective hhead)
    obtain ⟨request', a', b', hab, hd⟩ := h.variants c hmem htype
    have hparts := conflictFingerprint_injective hsha (hd.fingerprint.symm.trans hfp)
    simp only [pageVariantConflictFingerprintParts, List.cons.injEq, Json.Scalar.text.injEq,
      Json.Scalar.num.injEq, String.toList_inj, hrequest, hsequence] at hparts
    obtain ⟨-, rfl, -, hseq, -⟩ := hparts
    rw [haccount] at hab
    have hnumbered := h.observations.numberedOf account request'
    have ha : a' = a := hnumbered.inj hab.mem.1 (List.mem_of_getLast? hlast) hseq
    obtain ⟨xs, hxs⟩ := List.getLast?_eq_some_iff.mp hlast
    rw [hxs] at hab hnumbered
    exact absurd (ha ▸ hab) hnumbered.not_adjacent_last

/-- A response is rejected: it differs from the one before it, and a new conflict says so. -/
theorem RejectionInv.reject (h : RejectionInv pf db) {a : LatestPageObservation} {c : LedgerConflict}
    (hrow : row ∈ db.pages) (hlast : (db.observationsOf row.providerAccountKey row.requestFingerprint).getLast? = some a)
    (hne : a.page.responseFingerprint ≠ row.responseFingerprint)
    (hfacts : FactInv pf db') (hfresh : ∀ x ∈ db.conflicts, x.conflictId ≠ c.conflictId)
    (ho : Observes db run segment row.rawPageId kind .REJECTED_VARIANT o)
    (hd : DescribesRejection pf c row.providerAccountKey row.requestFingerprint a (o.joined row)) (hopen : c.status = .OPEN)
    (hp : db'.pages = db.pages) (hobs : db'.observations = db.observations ++ [o])
    (hc : db'.conflicts = db.conflicts ++ [c]) (hops : db'.operations = db.operations) : RejectionInv pf db' := by
  have hof := observationsOf_observe h.observations.pageIds hrow ho.rawPageId hp hobs
  have hcounts : counts ((db.observationsOf row.providerAccountKey row.requestFingerprint).map
      (·.page.responseFingerprint)) row.responseFingerprint = false := by
    rw [counts_map hlast]
    exact decide_eq_false (Ne.symm hne)
  have hobsInv := h.observations.observe hrow ho.rawPageId ho.sequence (ho.kind_iff h.observations.pageIds hrow)
    (by rw [hcounts, ho.disposition]; rfl) hp hobs
  have hown : Adjacent (db'.observationsOf row.providerAccountKey row.requestFingerprint) a (o.joined row) := by
    rw [hof, if_pos ⟨rfl, rfl⟩]
    exact adjacent_append_iff.mpr (.inr ⟨hlast, rfl⟩)
  refine ⟨hfacts, hobsInv, ?_, ?_, ?_, ?_, hops ▸ h.systemKeys⟩
  · rw [hc]
    exact h.conflictIds.append hfresh
  · intro x hx htype
    rw [hc] at hx
    rcases List.mem_append.mp hx with hx | hx
    · obtain ⟨request, a', b, hab, hd'⟩ := h.variants x hx htype
      refine ⟨request, a', b, ?_, hd'⟩
      rw [hof]
      split
      · exact hab.append _
      · rwa [List.append_nil]
    · rw [List.mem_singleton.mp hx, hd.account]
      exact ⟨_, a, _, hown, hd⟩
  · intro account request a' b hl
    by_cases he : account = row.providerAccountKey ∧ request = row.requestFingerprint
    · obtain ⟨rfl, rfl⟩ := he
      have hb := hl.last
      rw [hof, if_pos ⟨rfl, rfl⟩, List.getLast?_append_cons, List.getLast?_singleton] at hb
      obtain rfl := Option.some.inj hb
      refine ⟨c, hc ▸ List.mem_append_right _ (List.mem_singleton_self c), ?_, hopen⟩
      -- the neighbour of the new answer is the one that was the latest
      have hadj := hl.adjacent
      rw [hof, if_pos ⟨rfl, rfl⟩] at hadj
      rcases adjacent_append_iff.mp hadj with hold | ⟨hlast', -⟩
      · have hnumbered := hobsInv.numberedOf row.providerAccountKey row.requestFingerprint
        rw [hof, if_pos ⟨rfl, rfl⟩] at hnumbered
        exact absurd (hnumbered.lt_last _ hold.mem.2) (lt_irrefl _)
      · rw [hlast] at hlast'
        exact Option.some.inj hlast' ▸ hd
    · have hsame : db'.observationsOf account request = db.observationsOf account request := by
        rw [hof, if_neg he, List.append_nil]
      obtain ⟨x, hx, hrest⟩ := h.rejected account request a' b ⟨hsame ▸ hl.adjacent, hsame ▸ hl.last, hl.rejected⟩
      exact ⟨x, hc ▸ List.mem_append_left _ hx, hrest⟩
  · intro op hop
    obtain ⟨x, hx, hrest⟩ := h.applied op (hops ▸ hop)
    exact ⟨x, hc ▸ List.mem_append_left _ hx, hrest⟩

end

/-! ## A rejection is confirmed -/

theorem append_left_cancel {s t u : String} (h : s ++ t = s ++ u) : t = u := by
  have := congrArg String.toList h
  rw [String.toList_append, String.toList_append] at this
  exact String.toList_injective (List.append_cancel_left this)

/-- The keys of administrators and of the system never meet. -/
theorem admin_ne_system (t u : String) : "admin:" ++ t ≠ "system:confirm_variant:" ++ u := by
  intro h
  have := congrArg (fun s : String => s.toList.head?) h
  simp at this

/-- **Exactly one conflict is waiting.**  It is the one of the latest rejection, and it is found also
    when further answers came behind it. -/
theorem RejectionInv.confirmed_only (h : RejectionInv pf db) {account request : String}
    {a b : LatestPageObservation} (hl : LatestRejected db account request a b) {m : LedgerDb}
    {ys : List LatestPageObservation} (hc : m.conflicts = db.conflicts)
    (hof : m.observationsOf account request = db.observationsOf account request ++ ys)
    (hnumbered : Numbered LatestPageObservation.sequence (m.observationsOf account request)) :
    ∃ c ∈ db.conflicts, m.confirmedConflicts b b.page = [c] ∧ c.status = .OPEN ∧
      DescribesRejection pf c account request a b := by
  obtain ⟨c, hmem, hd, hopen⟩ := h.rejected account request a b hl
  obtain ⟨-, haccount, hrequest, -⟩ := mem_observationsOf hl.adjacent.mem.2
  obtain ⟨xs, hxs⟩ := List.getLast?_eq_some_iff.mp hl.last
  have hnumbered0 := h.observations.numberedOf account request
  -- the answers up to the rejection end with `a` and `b`
  obtain ⟨xs', rfl⟩ : ∃ xs', xs = xs' ++ [a] := by
    have hadj := hl.adjacent
    rw [hxs] at hadj hnumbered0
    rcases adjacent_append_iff.mp hadj with hold | ⟨hlast, -⟩
    · exact absurd (hnumbered0.lt_last _ hold.mem.2) (lt_irrefl _)
    · exact List.getLast?_eq_some_iff.mp hlast
  have hprevious : (((m.observationsOf account request).map (·.sequence)).filter (· < b.sequence)).max? =
      some a.sequence := by
    rw [hof, hxs] at hnumbered ⊢
    exact hnumbered.previous
  have hfilter : ∀ x, x ∈ m.confirmedConflicts b b.page ↔ x ∈ db.conflicts ∧
      x.providerAccountKey = account ∧ x.status = .OPEN ∧ x.conflictType = .RAW_PAGE_VARIANT ∧
      x.rawPageId = some b.page.rawPageId ∧ x.incomingSemanticFingerprint = some b.page.responseFingerprint ∧
      ∃ page, x.details = .pageVariant request b.ingestSegmentId a.sequence page b.page.rawPageId := by
    intro x
    simp only [LedgerDb.confirmedConflicts, haccount, hrequest, hc, hprevious, List.mem_filter, Bool.and_eq_true,
      decide_eq_true_eq, and_assoc]
    refine and_congr_right fun _ => and_congr_right fun _ => and_congr_right fun _ => and_congr_right fun _ =>
      and_congr_right fun _ => and_congr_right fun _ => ?_
    cases x.details with
    | reason => simp
    | differs => simp
    | pageVariant r s n p q =>
      simp only [Bool.and_eq_true, decide_eq_true_eq, Option.some.injEq, ConflictDetails.pageVariant.injEq]
      constructor
      · rintro ⟨⟨⟨rfl, rfl⟩, rfl⟩, rfl⟩
        exact ⟨p, rfl, rfl, rfl, rfl, rfl⟩
      · rintro ⟨_, rfl, rfl, rfl, -, rfl⟩
        exact ⟨⟨⟨rfl, rfl⟩, rfl⟩, rfl⟩
  -- whatever is found describes the same rejection, and so has the key of `c`
  have hkey : ∀ x ∈ m.confirmedConflicts b b.page, x.key = c.key := by
    intro x hx
    obtain ⟨hxmem, hxaccount, -, htype, -, -, page, hdetails⟩ := (hfilter x).mp hx
    obtain ⟨request', a', b', hab, hd'⟩ := h.variants x hxmem htype
    have hsame := hd'.details.symm.trans hdetails
    simp only [ConflictDetails.pageVariant.injEq] at hsame
    obtain ⟨rfl, -, hseq, -⟩ := hsame
    rw [hxaccount] at hab
    obtain rfl : a' = a := hnumbered0.inj hab.mem.1 hl.adjacent.mem.1 hseq
    obtain rfl : b' = b := hnumbered0.adjacent_unique hab hl.adjacent
    rw [LedgerConflict.key, LedgerConflict.key, hxaccount, hd.account, hd'.fingerprint, hd.fingerprint]
  refine ⟨c, hmem, eq_singleton_of_length_le_one ?_ ?_, hopen, hd⟩
  · exact (hfilter c).mpr ⟨hmem, hd.account, hopen, hd.type, hd.page, hd.incoming, _, hd.details⟩
  · have hunique : UniqueOn LedgerConflict.key m.conflicts := hc ▸ h.facts.conflictKeys
    refine hunique.length_filter_le_one fun x hx y hy hpx hpy => ?_
    exact (hkey x (List.mem_filter.mpr ⟨hx, hpx⟩)).trans (hkey y (List.mem_filter.mpr ⟨hy, hpy⟩)).symm

/-- A confirmation resolves a conflict of a request whose latest answer is processed. -/
theorem RejectionInv.confirm (h : RejectionInv pf db) {latest : LatestPageObservation} {page : RawPage} {now : Nat}
    {u : Unit} {o : LatestPageObservation}
    (hlast : (db.observationsOf page.providerAccountKey page.requestFingerprint).getLast? = some o)
    (hprocessed : o.disposition = .PROCESSED)
    (hx : confirmPageVariantConflict latest page now db = .ok (u, db')) : RejectionInv pf db' := by
  obtain ⟨c, hone, rfl⟩ := confirmPageVariantConflict_ok hx
  have hc : c ∈ db.confirmedConflicts latest page := hone ▸ List.mem_singleton_self c
  have hmem : c ∈ db.conflicts := (List.mem_filter.mp hc).1
  have hkey : ∀ id, (confirmation c (db.entropy db.drawn) now).operationKey = "system:confirm_variant:" ++ id →
      c.conflictId = id := fun id he => append_left_cancel he
  refine h.resolve hmem rfl (fun account request a b hl hd => ?_) hkey rfl rfl rfl rfl rfl
  -- the conflict belongs to the request of the page
  have hrequest : account = page.providerAccountKey ∧ request = page.requestFingerprint := by
    have hq := (List.mem_filter.mp hc).2
    simp only [hd.details, Bool.and_eq_true, decide_eq_true_eq] at hq
    exact ⟨hd.account.symm.trans hq.1.1.1.1.1, hq.2.1.1.1⟩
  obtain ⟨rfl, rfl⟩ := hrequest
  have hrejected := hl.rejected
  rw [← Option.some.inj (hlast.symm.trans hl.last), hprocessed] at hrejected
  cases hrejected

/-- Whether a page was ever processed. -/
def EverProcessed (db : LedgerDb) (rawPageId : String) : Prop :=
  ∃ x ∈ db.observations, x.rawPageId = rawPageId ∧ x.disposition = .PROCESSED

/-- What retaining a response did: it was observed as the latest answer to its request, and when it was
    rejected a new open conflict describes the rejection. -/
structure Retention (pf : LedgerPlatform) (run : IngestRun) (page : AccountLogPage) (prepared : PreparedSegmentPage)
    (requestHash : String) (kind : SegmentObservationKind) (db : LedgerDb) (retained : RetainedSegmentPage)
    (o : LatestPageObservation) (db' : LedgerDb) : Prop where
  inv : RejectionInv pf db'
  stored : o.page ∈ db'.pages
  pages : ∀ p ∈ db'.pages, p ∈ db.pages ∨ p = o.page
  pageOf : PageOf run page prepared requestHash o.page
  retainedPage : retained.page = o.page
  observed : db'.observationsOf run.providerAccountKey requestHash =
    db.observationsOf run.providerAccountKey requestHash ++ [o]
  appended : ∃ x, db'.observations = db.observations ++ [x] ∧ x.rawPageId = o.page.rawPageId ∧
    x.disposition = o.disposition ∧ x.observationKind = kind
  variant : retained.observation = .variant ↔ o.disposition = .REJECTED_VARIANT
  normalize : retained.shouldNormalize = true ↔
    kind = .ACCEPTED_LEAF ∧ o.disposition = .PROCESSED ∧ ¬ EverProcessed db o.page.rawPageId
  rejection : o.disposition = .REJECTED_VARIANT → ∃ a c,
    (db.observationsOf run.providerAccountKey requestHash).getLast? = some a ∧
      db'.conflicts = db.conflicts ++ [c] ∧ c.status = .OPEN ∧
      DescribesRejection pf c run.providerAccountKey requestHash a o

section
variable {run : IngestRun} {segment : IngestSegment} {page : AccountLogPage} {prepared : PreparedSegmentPage}
  {kind : SegmentObservationKind} {requestHash : String} {row : RawPage} {retained : RetainedSegmentPage}

/-- The observation of a page as the latest answer to the request of the page. -/
theorem PageOf.observe (hpage : PageOf run page prepared requestHash row) (hids : UniqueOn RawPage.rawPageId db.pages)
    (hrow : row ∈ db.pages) {o : PageObservation} (hid : o.rawPageId = row.rawPageId) (hp : db'.pages = db.pages)
    (ho : db'.observations = db.observations ++ [o]) :
    db'.observationsOf run.providerAccountKey requestHash =
      db.observationsOf run.providerAccountKey requestHash ++ [o.joined row] := by
  rw [observationsOf_observe hids hrow hid hp ho, if_pos ⟨hpage.account.symm, hpage.request.symm⟩]

theorem retainFirst_retention (h : RejectionInv pf db) (hrow : row ∈ db.pages)
    (hpage : PageOf run page prepared requestHash row) {existingExact : Option RawPage}
    (hlast : (db.observationsOf run.providerAccountKey requestHash).getLast? = none)
    (hnew : existingExact = none → ∀ x ∈ db.observations, x.rawPageId ≠ row.rawPageId)
    (hx : retainFirst run segment prepared kind existingExact row db = .ok (retained, db')) :
    ∃ o, Retention pf run page prepared requestHash kind db retained o db' ∧ o.page = row := by
  obtain ⟨hnone, rfl, o, ho, rfl⟩ := retainFirst_ok hx
  have hcounts : counts ((db.observationsOf row.providerAccountKey row.requestFingerprint).map
      (·.page.responseFingerprint)) row.responseFingerprint = true := by
    rw [hpage.account, hpage.request, counts, List.getLast?_map, hlast]
    rfl
  refine ⟨o.joined row, ⟨h.process hrow ho hcounts, hrow, fun _ hp => .inl hp, hpage, rfl,
    hpage.observe h.observations.pageIds hrow ho.rawPageId rfl rfl, ⟨o, rfl, ho.rawPageId, rfl, ho.kind⟩, ?_, ?_, ?_⟩,
    rfl⟩
  · simp [PageObservation.joined, ho.disposition]
  · have hnever : ¬ EverProcessed db row.rawPageId := by
      rintro ⟨x, hx, hid, -⟩
      exact hnew hnone x hx hid
    simp [PageObservation.joined, ho.disposition, hnever]
  · simp [PageObservation.joined, ho.disposition]

theorem retainVariant_retention (hsha : Function.Injective pf.sha256) (h : RejectionInv pf db)
    (hrow : row ∈ db.pages) (hpage : PageOf run page prepared requestHash row) {a : LatestPageObservation}
    (hlast : (db.observationsOf run.providerAccountKey requestHash).getLast? = some a)
    (hne : a.page.responseFingerprint ≠ prepared.responseHash)
    (hx : retainVariant pf run segment prepared kind requestHash a row db = .ok (retained, db')) :
    ∃ o, Retention pf run page prepared requestHash kind db retained o db' ∧ o.page = row := by
  obtain ⟨rfl, c, m, o, hc, ho, rfl⟩ := retainVariant_ok hx
  have hnone : db.conflictWith run.providerAccountKey (conflictFingerprint pf.sha256
      (pageVariantConflictFingerprintParts ⟨requestHash, segment.ingestSegmentId, a.sequence, a.page.rawPageId,
        a.page.responseFingerprint, row.rawPageId, prepared.responseHash⟩)) = none :=
    h.no_conflict hsha hlast rfl rfl
  rcases insertConflict_ok hc with ⟨hf, -⟩ | ⟨-, hrowc, hfresh, rfl⟩
  · cases hnone.symm.trans hf
  have hd : DescribesRejection pf c run.providerAccountKey requestHash a (o.joined row) := by
    subst hrowc
    refine ⟨rfl, rfl, rfl, ?_, ?_, ?_⟩
    · show some prepared.responseHash = some row.responseFingerprint
      rw [hpage.response]
    · show ConflictDetails.pageVariant _ segment.ingestSegmentId _ _ _ =
        ConflictDetails.pageVariant _ o.ingestSegmentId _ _ _
      rw [ho.ingestSegmentId]
      rfl
    · show conflictFingerprint _ (pageVariantConflictFingerprintParts ⟨_, segment.ingestSegmentId, _, _, _, _,
        prepared.responseHash⟩) = conflictFingerprint _ (pageVariantConflictFingerprintParts ⟨_, o.ingestSegmentId, _,
        _, _, _, row.responseFingerprint⟩)
      rw [ho.ingestSegmentId, hpage.response]
      rfl
  have hopen : c.status = .OPEN := by
    rw [hrowc]
    rfl
  have hfacts := (insertConflict_progress (fun _ => ⟨⟨_, rfl⟩, fun htype => by cases htype⟩) hc h.facts).1
  have ho' : Observes db run segment row.rawPageId kind .REJECTED_VARIANT o :=
    ⟨ho.ingestRunId, ho.ingestSegmentId, ho.rawPageId, ho.kind, ho.disposition, ho.sequence, ho.placed⟩
  have hlast' : (db.observationsOf row.providerAccountKey row.requestFingerprint).getLast? = some a := by
    rw [hpage.account, hpage.request]
    exact hlast
  have hne' : a.page.responseFingerprint ≠ row.responseFingerprint := by rwa [hpage.response]
  have hd' : DescribesRejection pf c row.providerAccountKey row.requestFingerprint a (o.joined row) := by
    rw [hpage.account, hpage.request]
    exact hd
  refine ⟨o.joined row, ⟨?_, hrow, fun _ hp => .inl hp, hpage, rfl, hpage.observe h.observations.pageIds hrow ho.rawPageId rfl rfl,
    ⟨o, rfl, ho.rawPageId, rfl, ho.kind⟩, ?_, ?_, ?_⟩, rfl⟩
  · exact h.reject hrow hlast' hne' (hfacts.framed rfl rfl) hfresh ho' hd' hopen rfl rfl rfl rfl
  · simp [PageObservation.joined, ho.disposition]
  · simp [PageObservation.joined, ho.disposition]
  · exact fun _ => ⟨a, c, hlast, rfl, hopen, hd⟩

theorem retainRepeated_retention (h : RejectionInv pf db) (hrow : row ∈ db.pages)
    (hpage : PageOf run page prepared requestHash row) {a : LatestPageObservation} {existingExact : Option RawPage}
    (hlast : (db.observationsOf run.providerAccountKey requestHash).getLast? = some a)
    (heq : a.page.responseFingerprint = prepared.responseHash)
    (hx : retainRepeated run segment page prepared kind a existingExact row db = .ok (retained, db')) :
    ∃ o, Retention pf run page prepared requestHash kind db retained o db' ∧ o.page = row := by
  obtain ⟨-, wasEverProcessed, hever, -, rfl, o, u, ho, hconfirm⟩ := retainRepeated_ok hx
  have hcounts : counts ((db.observationsOf row.providerAccountKey row.requestFingerprint).map
      (·.page.responseFingerprint)) row.responseFingerprint = true := by
    rw [hpage.account, hpage.request, counts_map hlast, hpage.response, heq]
    exact decide_eq_true rfl
  have hm := h.process hrow ho hcounts
  have hof : LedgerDb.observationsOf { db with observations := db.observations ++ [o] } run.providerAccountKey
      requestHash = db.observationsOf run.providerAccountKey requestHash ++ [o.joined row] :=
    hpage.observe h.observations.pageIds hrow ho.rawPageId rfl rfl
  -- the answer before it is of the same page
  obtain ⟨hapage, haaccount, harequest, x, hxmem, hxid, hxdisposition, -⟩ := mem_observationsOf (List.mem_of_getLast? hlast)
  have hsamePage : a.page = row := h.observations.pageKeys.eq hapage hrow (by
    rw [RawPage.key, RawPage.key, haaccount, harequest, heq, hpage.account, hpage.request, hpage.response])
  have hfinal : RejectionInv pf db' ∧ db'.pages = db.pages ∧ db'.observations = db.observations ++ [o] ∧
      db'.observationsOf run.providerAccountKey requestHash =
        db.observationsOf run.providerAccountKey requestHash ++ [o.joined row] := by
    rcases confirmIfRejected_ok hconfirm with ⟨-, rfl⟩ | ⟨-, hc⟩
    · exact ⟨hm, rfl, rfl, hof⟩
    · have hl : (LedgerDb.observationsOf { db with observations := db.observations ++ [o] } row.providerAccountKey
          row.requestFingerprint).getLast? = some (o.joined row) := by
        rw [hpage.account, hpage.request, hof, List.getLast?_append_cons, List.getLast?_singleton]
      have hinv := hm.confirm hl ho.disposition hc
      obtain ⟨c, -, rfl⟩ := confirmPageVariantConflict_ok hc
      exact ⟨hinv, rfl, rfl, hof⟩
  obtain ⟨hinv, hpages', hobs', hof'⟩ := hfinal
  have hdisposition : (o.joined row).disposition = .PROCESSED := ho.disposition
  refine ⟨o.joined row, ⟨hinv, hpages' ▸ hrow, fun _ hp => .inl (hpages' ▸ hp), hpage, rfl, hof', ⟨o, hobs', ho.rawPageId, rfl, ho.kind⟩, ?_, ?_, ?_⟩, rfl⟩
  · rw [hdisposition]
    constructor
    · intro hv
      split at hv <;> cases hv
    · intro hv
      cases hv
  · have heverIff : EverProcessed db row.rawPageId ↔ wasEverProcessed = true := hever.symm
    have hrejectedOfNever : wasEverProcessed = false → a.disposition = .REJECTED_VARIANT := by
      intro hnever
      cases hd : a.disposition with
      | REJECTED_VARIANT => rfl
      | PROCESSED =>
        have : wasEverProcessed = true := hever.mpr ⟨x, hxmem, by rw [hxid, hsamePage], hxdisposition.trans hd⟩
        rw [hnever] at this
        cases this
    show _ ↔ kind = .ACCEPTED_LEAF ∧ _ ∧ ¬ EverProcessed db row.rawPageId
    rw [heverIff, hdisposition]
    cases hw : wasEverProcessed with
    | true => simp
    | false => simp [hrejectedOfNever hw]
  · intro hrejected
    exact absurd (ho.disposition.symm.trans hrejected) (by decide)

theorem retainSegmentPage_retention (hsha : Function.Injective pf.sha256) (h : RejectionInv pf db)
    (hbody : prepared.responseHash = pf.sha256 prepared.evidence.body)
    (hx : retainSegmentPage pf run segment page prepared kind db = .ok (retained, db')) :
    ∃ o, Retention pf run page prepared (requestFingerprint pf.sha256 run.providerAccountKey segment.windowStart
      segment.windowEnd 1 page.pageSize) kind db retained o db' ∧
      (o.page ∈ db.pages ∨ ∀ p ∈ db.pages, p.rawPageId ≠ o.page.rawPageId) := by
  obtain ⟨requestHash, latest, existingExact, row, m, rfl, hlatest, rfl, hrow, hx⟩ := retainSegmentPage_ok hx
  obtain ⟨hm, hmem, hpage, hobs, hconflicts, hof, hfresh, hcases, hnew⟩ := retainPage_rejectionInv h hbody hrow
  rw [h.observations.latest, ← hof] at hlatest
  rw [← hobs] at hnew
  have hretained : ∃ o, Retention pf run page prepared (requestFingerprint pf.sha256 run.providerAccountKey
      segment.windowStart segment.windowEnd 1 page.pageSize) kind m retained o db' ∧ o.page = row := by
    rcases compareWithLatest_ok hx with ⟨hnone, hfirst⟩ | ⟨l, hsome, hne, hvariant⟩ | ⟨l, hsome, heq, hrepeated⟩
    · exact retainFirst_retention hm hmem hpage (hlatest.symm.trans hnone) hnew hfirst
    · exact retainVariant_retention hsha hm hmem hpage (hlatest.symm.trans hsome) hne hvariant
    · exact retainRepeated_retention hm hmem hpage (hlatest.symm.trans hsome) heq hrepeated
  obtain ⟨o, ho, rfl⟩ := hretained
  have hever : EverProcessed m o.page.rawPageId ↔ EverProcessed db o.page.rawPageId := by
    rw [EverProcessed, EverProcessed, hobs]
  have hpages : ∀ p ∈ db'.pages, p ∈ db.pages ∨ p = o.page := by
    intro p hp
    rcases ho.pages p hp with hp | hp
    · exact hcases p hp
    · exact .inr hp
  refine ⟨o, ⟨ho.inv, ho.stored, hpages, ho.pageOf, ho.retainedPage, by rw [ho.observed, hof], by rw [← hobs]; exact ho.appended,
    ho.variant, by rw [ho.normalize, hever], fun hrejected => ?_⟩, hfresh⟩
  rw [← hof, ← hconflicts]
  exact ho.rejection hrejected

end

/-! ## Raw events -/

/-- The page was processed as a leaf. -/
def LedgerDb.processedLeaf (db : LedgerDb) (rawPageId : String) : Bool :=
  db.observations.any fun x => x.rawPageId = rawPageId && x.disposition = .PROCESSED && x.observationKind = .ACCEPTED_LEAF

/-- The positions of the raw events of a page, in the order of their storage. -/
def LedgerDb.storedOrdinals (db : LedgerDb) (rawPageId : String) : List Nat :=
  (db.rawEvents.filter (·.rawPageId = rawPageId)).map (·.ordinal)

/-- What must be stored of a page: nothing before it is processed as a leaf, then each detail once. -/
def LedgerDb.dueOrdinals (db : LedgerDb) (p : RawPage) : List Nat :=
  if db.processedLeaf p.rawPageId then List.range p.totalSize else []

structure EventInv (db : LedgerDb) : Prop where
  stored : ∀ e ∈ db.rawEvents, ∃ p ∈ db.pages, p.rawPageId = e.rawPageId
  whole : ∀ p ∈ db.pages, db.storedOrdinals p.rawPageId = db.dueOrdinals p

theorem EventInv.empty (h : db.Empty) : EventInv db := by
  constructor <;> simp [h.rawEvents, h.pages]

theorem EventInv.framed (h : EventInv db) (hp : db'.pages = db.pages) (ho : db'.observations = db.observations)
    (he : db'.rawEvents = db.rawEvents) : EventInv db' := by
  refine ⟨by rw [he, hp]; exact h.stored, fun p hmem => ?_⟩
  have := h.whole p (hp ▸ hmem)
  rwa [LedgerDb.storedOrdinals, he, LedgerDb.dueOrdinals, LedgerDb.processedLeaf, ho]

/-- One more observation of a page, and the raw events it brings: all of them the first time the page
    is processed as a leaf, none otherwise. -/
theorem EventInv.observe (h : EventInv db) {row : RawPage} {x : PageObservation} {events : List RawEvent}
    (hids : UniqueOn RawPage.rawPageId db'.pages) (hrow : row ∈ db'.pages)
    (hnew : row ∈ db.pages ∨ ((∀ p ∈ db.pages, p.rawPageId ≠ row.rawPageId) ∧
      ∀ y ∈ db.observations, y.rawPageId ≠ row.rawPageId))
    (hpages : db.pages ⊆ db'.pages) (hcases : ∀ p ∈ db'.pages, p ∈ db.pages ∨ p = row)
    (hid : x.rawPageId = row.rawPageId) (ho : db'.observations = db.observations ++ [x])
    (hevents : ∀ e ∈ events, e.rawPageId = row.rawPageId) (he : db'.rawEvents = db.rawEvents ++ events)
    (hordinals : events.map (·.ordinal) =
      if x.disposition = .PROCESSED ∧ x.observationKind = .ACCEPTED_LEAF ∧ db.processedLeaf row.rawPageId = false
      then List.range row.totalSize else []) : EventInv db' := by
  have hleaf : ∀ id, db'.processedLeaf id = (db.processedLeaf id || (decide (row.rawPageId = id) &&
      (decide (x.disposition = .PROCESSED) && decide (x.observationKind = .ACCEPTED_LEAF)))) := by
    intro id
    simp [LedgerDb.processedLeaf, ho, hid, Bool.and_assoc]
  refine ⟨?_, fun p hp => ?_⟩
  · rw [he]
    intro e hmem
    rcases List.mem_append.mp hmem with hmem | hmem
    · obtain ⟨p, hp, hpid⟩ := h.stored e hmem
      exact ⟨p, hpages hp, hpid⟩
    · exact ⟨row, hrow, (hevents e hmem).symm⟩
  rw [LedgerDb.storedOrdinals, he, List.filter_append, List.map_append, LedgerDb.dueOrdinals, hleaf]
  by_cases hsame : p.rawPageId = row.rawPageId
  · -- the observed page
    obtain rfl : p = row := hids.eq hp hrow hsame
    have hall : events.filter (·.rawPageId = p.rawPageId) = events :=
      List.filter_eq_self.mpr fun e hmem => decide_eq_true (hevents e hmem)
    have hbefore : (db.rawEvents.filter (·.rawPageId = p.rawPageId)).map (·.ordinal) =
        if db.processedLeaf p.rawPageId then List.range p.totalSize else [] := by
      rcases hnew with hold | ⟨hfresh, hunobserved⟩
      · exact h.whole p hold
      · have hnone : db.processedLeaf p.rawPageId = false := by
          rw [LedgerDb.processedLeaf, List.any_eq_false]
          intro y hy
          simp [hunobserved y hy]
        rw [hnone, List.filter_eq_nil_iff.mpr]
        · rfl
        · intro e hmem
          obtain ⟨q, hq, hqid⟩ := h.stored e hmem
          simpa using fun heq => hfresh q hq (hqid.trans heq)
    rw [hall, hbefore, hordinals]
    cases hl : db.processedLeaf p.rawPageId with
    | true => simp
    | false => by_cases hx : x.disposition = .PROCESSED <;> by_cases hk : x.observationKind = .ACCEPTED_LEAF <;> simp [hx, hk]
  · have hnone : events.filter (·.rawPageId = p.rawPageId) = [] :=
      List.filter_eq_nil_iff.mpr fun e hmem => by simpa [hevents e hmem] using Ne.symm hsame
    have hold : p ∈ db.pages := (hcases p hp).resolve_right fun heq => hsame (heq ▸ rfl)
    have hne : decide (row.rawPageId = p.rawPageId) = false := decide_eq_false (Ne.symm hsame)
    rw [hnone, hne, Bool.false_and, Bool.or_false, List.map_nil, List.append_nil]
    exact h.whole p hold

/-- The details of a page are stored one after another. -/
theorem recordDetail_events {run : IngestRun} {rawPageId : String} {now : Nat} {detail : AccountLogDetail × Nat}
    {r : PageNormalizationResult} (hx : recordDetail pf run rawPageId now detail db = .ok (r, db')) :
    ∃ e : RawEvent, e.rawPageId = rawPageId ∧ e.ordinal = detail.2 ∧ db'.rawEvents = db.rawEvents ++ [e] := by
  obtain ⟨prepared, m, hp, hn⟩ := recordDetail_ok hx
  obtain ⟨hprepared, -, -, rfl⟩ := insertRawEvent_ok hp
  refine ⟨prepared.1, by rw [hprepared]; rfl, by rw [hprepared]; rfl, ?_⟩
  rcases normalizeAndInsert_ok hn with ⟨-, _, _, _, -, -, hi⟩ | ⟨facts, -, hr⟩
  · obtain ⟨c, -, input, -, -, -, hc⟩ := insertNormalizationConflict_ok hi
    exact insertConflict_rawEvents hc
  · rcases recordFacts_ok hr with ⟨existing, -, hcompare⟩ | ⟨-, hinsert⟩
    · rcases compareWithEntry_ok hcompare with ⟨-, -, -, rfl⟩ | ⟨-, c, details, -, hc⟩
      · rfl
      · exact insertConflict_rawEvents hc
    · obtain ⟨e, -, -, -, -, -, -, -, -, -, rfl⟩ := insertLedgerEntry_ok hinsert
      rfl

theorem collected_events {run : IngestRun} {rawPageId : String} {now : Nat} {details : List (AccountLogDetail × Nat)}
    {rs : List PageNormalizationResult} (hc : Collected (recordDetail pf run rawPageId now) db details rs db') :
    ∃ events : List RawEvent, (∀ e ∈ events, e.rawPageId = rawPageId) ∧
      events.map (·.ordinal) = details.map Prod.snd ∧ db'.rawEvents = db.rawEvents ++ events := by
  induction hc with
  | nil s => exact ⟨[], by simp, rfl, by simp⟩
  | cons hx _ ih =>
    obtain ⟨e, hid, hordinal, he⟩ := recordDetail_events hx
    obtain ⟨events, hids, hordinals, hes⟩ := ih
    refine ⟨e :: events, ?_, ?_, ?_⟩
    · intro x hmem
      rcases List.mem_cons.mp hmem with rfl | hmem
      · exact hid
      · exact hids x hmem
    · rw [List.map_cons, List.map_cons, hordinal, hordinals]
    · rw [hes, he, List.append_assoc]
      rfl

end PerPay.Ledger
