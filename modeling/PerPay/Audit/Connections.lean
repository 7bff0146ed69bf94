/-
  **Connections** — the calls of one connection between writes of its own and of others, and the catalog it keeps.

  A write only adds rows with greater numbers, leaves facts as they are, or deletes activities (`TrailOp.run_follows`); a write of
  another connection changes the number SQLite reports, so that the catalog is not used again.  Between these a catalog goes
  on remembering what it was complete for (`ConnectionInv`), and every call is complete (`readCatalog_complete`).
-/
import PerPay.Audit.Catalogs

namespace PerPay.Audit

open Latest Table

variable {ν : Type} (pf : AuditPlatform ν)

/-- A step of a connection: a write of its own, a write of another connection, or a call. -/
inductive ConnectionStep (ν : Type)
  | write (op : TrailOp ν)
  | external (ops : List (TrailOp ν)) (schemaVersion : Nat)
  | query (call : MetadataCall ν)

/-- Another connection's writes change the number that SQLite reports; the writes of the connection itself do not. -/
def ConnectionStep.run (collation : Collation) : ConnectionStep ν → Connection → Connection
  | .write op, connection => { connection with trail := op.run pf connection.trail }
  | .external ops schemaVersion, connection =>
    { connection with
      trail := ops.foldl (fun trail op => op.run pf trail) connection.trail
      dataVersion := connection.dataVersion + 1
      schemaVersion := schemaVersion }
  | .query call, connection => (queryAuditMetadata pf collation call connection).2

structure Trail.Ordered (trail : Trail) : Prop where
  audit : trail.audit.Ordered
  activity : trail.activity.Ordered

/-- Any tables, and no catalog yet. -/
def connectionSystem (collation : Collation) : Runs.System Connection (ConnectionStep ν) where
  init connection := connection.trail.Ordered ∧ connection.catalog = none
  step connection step connection' := connection' = step.run pf collation connection

/-- The last number given to a row of a source. -/
def Trail.counter (trail : Trail) : AuditSource → Int
  | .core => trail.audit.sqliteSequence
  | .activity => trail.activity.sqliteSequence

theorem Trail.Ordered.facts {trail : Trail} (h : trail.Ordered) (source : AuditSource) :
    OrderedFacts (metadataProjection trail source) (trail.counter source) := by
  cases source with
  | core =>
    refine ⟨?_, ?_, h.audit.started⟩
    · refine List.pairwise_map.mpr (List.pairwise_map.mpr (h.audit.sequenced.imp ?_))
      exact fun hlt => hlt
    · intro row hrow
      obtain ⟨r, hr, rfl⟩ := List.mem_map.mp hrow
      obtain ⟨e, he, rfl⟩ := List.mem_map.mp hr
      exact h.audit.bounded e he
  | activity =>
    refine ⟨?_, ?_, Int.natCast_nonneg _⟩
    · refine List.pairwise_map.mpr (List.pairwise_map.mpr (h.activity.sequenced.imp ?_))
      exact fun hlt => Int.ofNat_lt.mpr hlt
    · intro row hrow
      obtain ⟨r, hr, rfl⟩ := List.mem_map.mp hrow
      obtain ⟨e, he, rfl⟩ := List.mem_map.mp hr
      obtain ⟨hpos, hle⟩ := h.activity.bounded e he
      exact ⟨Int.natCast_pos.mpr hpos, Int.ofNat_le.mpr hle⟩

/-- What the tables are after a write, as far as a catalog of before is concerned. -/
structure Follows (trail trail' : Trail) : Prop where
  ordered : trail'.Ordered
  counter : ∀ source, trail.counter source ≤ trail'.counter source
  rows : ∀ source, ∀ row ∈ metadataProjection trail' source, row.sequence ≤ trail.counter source →
    row ∈ metadataProjection trail source
  core : ∀ row ∈ metadataProjection trail .core, row ∈ metadataProjection trail' .core

/-- A fact does not see what a merge may change. -/
theorem metadataProjection_activity (trail : Trail) :
    metadataProjection trail .activity = ((activityProjection trail.activity).map AuditRow.frozen).map metadataFact := by
  rw [List.map_map]
  rfl

variable {pf}

theorem TrailOp.run_follows {trail : Trail} (h : trail.Ordered) (op : TrailOp ν) : Follows trail (op.run pf trail) := by
  cases op with
  | append transaction =>
    obtain ⟨hordered, hextends⟩ := @runTransaction_extends _ pf _ h.audit transaction
    obtain ⟨new, hrows, hnew⟩ := hextends.rows
    have hfacts : metadataProjection ((TrailOp.append transaction).run pf trail) .core =
        metadataProjection trail .core ++ new.map metadataFact := by
      show (coreProjection (Txn.committed (runTransaction pf transaction) trail.audit)).map metadataFact = _
      rw [hrows, List.map_append]
      rfl
    refine ⟨⟨hordered, h.activity⟩, ?_, ?_, ?_⟩
    · rintro (_ | _)
      · exact hextends.counter
      · exact le_refl _
    · rintro (_ | _) row hrow hle
      · rw [hfacts] at hrow
        rcases List.mem_append.mp hrow with hold | hadded
        · exact hold
        · obtain ⟨r, hr, rfl⟩ := List.mem_map.mp hadded
          exact absurd hle (not_le.mpr (hnew r hr))
      · exact hrow
    · intro row hrow
      rw [hfacts]
      exact List.mem_append_left _ hrow
  | persist events =>
    obtain ⟨hordered, hextends⟩ := @persist_extends _ pf _ h.activity events
    obtain ⟨new, hrows, hnew⟩ := hextends.rows
    refine ⟨⟨h.audit, hordered⟩, ?_, ?_, fun row hrow => hrow⟩
    · rintro (_ | _)
      · exact le_refl _
      · exact Int.ofNat_le.mpr hextends.counter
    · rintro (_ | _) row hrow hle
      · exact hrow
      · rw [metadataProjection_activity] at hrow ⊢
        have hsplit : ((activityProjection ((TrailOp.persist events).run pf trail).activity).map AuditRow.frozen) =
          (activityProjection trail.activity).map AuditRow.frozen ++ new := hrows
        rw [hsplit, List.map_append] at hrow
        rcases List.mem_append.mp hrow with hold | hadded
        · exact hold
        · obtain ⟨r, hr, rfl⟩ := List.mem_map.mp hadded
          exact absurd hle (not_le.mpr (hnew r hr))
  | prune now =>
    refine ⟨⟨h.audit, prune_ordered h.activity now⟩, fun source => by cases source <;> exact le_refl _, ?_, fun row hrow => hrow⟩
    rintro (_ | _) row hrow -
    · exact hrow
    · obtain ⟨r, hr, rfl⟩ := List.mem_map.mp hrow
      obtain ⟨e, he, rfl⟩ := List.mem_map.mp hr
      exact List.mem_map_of_mem (List.mem_map_of_mem (List.mem_filter.mp he).1)
  | configureSites sites =>
    exact ⟨⟨h.audit, h.activity⟩, fun source => by cases source <;> exact le_refl _,
      fun source row hrow _ => by cases source <;> exact hrow, fun row hrow => hrow⟩

theorem foldl_ordered (ops : List (TrailOp ν)) : ∀ {trail : Trail}, trail.Ordered →
    (ops.foldl (fun trail op => op.run pf trail) trail).Ordered := by
  induction ops with
  | nil => exact fun h => h
  | cons op ops ih => exact fun h => ih (TrailOp.run_follows h op).ordered

/-! ### The invariant -/

/-- The catalog of a source. -/
def MetadataCatalog.of (catalog : MetadataCatalog) : AuditSource → MetadataSource
  | .core => catalog.core
  | .activity => catalog.activity

/-- What a catalog is worth: nothing once another connection has written, and else what it remembers. -/
structure ConnectionInv (connection : Connection) : Prop where
  ordered : connection.trail.Ordered
  versions : ∀ catalog, connection.catalog = some catalog → catalog.dataVersion ≤ connection.dataVersion
  remembers : ∀ catalog, connection.catalog = some catalog → catalog.dataVersion = connection.dataVersion →
    ∀ source, (catalog.of source).sequence ≤ connection.trail.counter source ∧
      ∃ old, Remembers source old (metadataProjection connection.trail source) catalog.cutoff (catalog.of source)

theorem MetadataCall.visible_ordered {call : MetadataCall ν} {trail : Trail} (h : trail.Ordered) :
    (call.visible pf trail).Ordered := by
  unfold MetadataCall.visible
  split
  · exact h
  · exact foldl_ordered _ h

/-- **What a call reads is complete.** -/
theorem readCatalog_complete {connection : Connection} (h : ConnectionInv connection) (call : MetadataCall ν) (source : AuditSource) :
    Complete source (metadataProjection (call.visible pf connection.trail) source) call.cutoff
      ((connection.readCatalog pf call).of source) := by
  have horder := (@MetadataCall.visible_ordered _ pf call _ h.ordered).facts source
  have hread : (connection.readCatalog pf call).of source =
      readMetadataSource call.picks (metadataProjection (call.visible pf connection.trail) source) source call.cutoff
        ((connection.previous call).map fun catalog => catalog.of source) := by
    cases source <;> rfl
  rw [hread]
  cases hprevious : connection.previous call with
  | none => exact readMetadataSource_complete call.picks horder (fun _ hp => nomatch hp) (le_refl _)
  | some catalog =>
    unfold Connection.previous at hprevious
    split at hprevious
    · exact nomatch hprevious
    · next hpending =>
      obtain ⟨hcatalog, huse⟩ := Option.filter_eq_some_iff.mp hprevious
      simp only [Bool.and_eq_true, decide_eq_true_eq] at huse
      obtain ⟨⟨hdata, -⟩, hcutoff⟩ := huse
      have hvisible : call.visible pf connection.trail = connection.trail := by
        unfold MetadataCall.visible
        rw [Option.not_isSome_iff_eq_none.mp hpending]
      rw [hvisible] at horder ⊢
      refine readMetadataSource_complete call.picks horder (fun p hp => ?_) hcutoff
      obtain rfl := Option.some.inj hp
      exact (h.remembers catalog hcatalog hdata source).2

theorem ConnectionStep.run_inv {collation : Collation} {connection : Connection} (h : ConnectionInv connection)
    (step : ConnectionStep ν) : ConnectionInv (step.run pf collation connection) := by
  cases step with
  | write op =>
    have hfollows := @TrailOp.run_follows _ pf _ h.ordered op
    refine ⟨hfollows.ordered, h.versions, fun catalog hcatalog hdata source => ?_⟩
    obtain ⟨hbound, old, hold⟩ := h.remembers catalog hcatalog hdata source
    refine ⟨le_trans hbound (hfollows.counter source), old, hold.later hbound (hfollows.rows source) ?_⟩
    rintro rfl
    exact hfollows.core
  | external ops schemaVersion =>
    refine ⟨foldl_ordered ops h.ordered, fun catalog hcatalog => Nat.le_succ_of_le (h.versions catalog hcatalog), ?_⟩
    intro catalog hcatalog hdata
    have hle := h.versions catalog hcatalog
    have hsucc : catalog.dataVersion = connection.dataVersion + 1 := hdata
    omega
  | query call =>
    show ConnectionInv (if call.pending.isSome then connection else _)
    split
    · exact h
    · next hpending =>
      refine ⟨h.ordered, fun catalog hcatalog => ?_, fun catalog hcatalog _ source => ?_⟩
      · obtain rfl := Option.some.inj hcatalog
        exact le_refl _
      · obtain rfl := Option.some.inj hcatalog
        have hcomplete := @readCatalog_complete _ pf _ h call source
        have hvisible : call.visible pf connection.trail = connection.trail := by
          unfold MetadataCall.visible
          rw [Option.not_isSome_iff_eq_none.mp hpending]
        rw [hvisible] at hcomplete
        have horder := h.ordered.facts source
        refine ⟨?_, _, hcomplete.remembers horder⟩
        rw [hcomplete.sequence]
        exact horder.head_le

theorem ConnectionInv.reachable {collation : Collation} {connection : Connection}
    (h : Runs.Reachable (connectionSystem pf collation) connection) : ConnectionInv connection := by
  refine h.invariant ?_ ?_
  · rintro connection ⟨hordered, hcatalog⟩
    exact ⟨hordered, fun _ hc => (nomatch hcatalog.symm.trans hc), fun _ hc => (nomatch hcatalog.symm.trans hc)⟩
  · rintro connection step connection' hinv rfl
    exact ConnectionStep.run_inv hinv step

/-- **The catalog changes nothing**: whatever came before, a call gives the actions and the websites of a call without a
    catalog, whichever rows SQLite picks for the one and the other. -/
theorem metadata_cache_exact (pf : AuditPlatform ν) (collation : Collation) {connection : Connection}
    (h : Runs.Reachable (connectionSystem pf collation) connection) (call : MetadataCall ν) (picks : MaxRow) :
    (queryAuditMetadata pf collation call connection).1.actions =
      (queryAuditMetadata pf collation { call with picks } { connection with catalog := none }).1.actions ∧
    (queryAuditMetadata pf collation call connection).1.sites.Perm
      (queryAuditMetadata pf collation { call with picks } { connection with catalog := none }).1.sites := by
  have hinv := ConnectionInv.reachable h
  have hcold : ConnectionInv { connection with catalog := none } := ⟨hinv.ordered, fun _ hc => (nomatch hc), fun _ hc => (nomatch hc)⟩
  have hsame : SameRows (call.visible pf connection.trail) call.cutoff (connection.readCatalog pf call)
      ({ connection with catalog := none }.readCatalog pf { call with picks }) :=
    ⟨readCatalog_complete hinv call .core, readCatalog_complete hcold { call with picks } .core,
      readCatalog_complete hinv call .activity, readCatalog_complete hcold { call with picks } .activity⟩
  exact hsame.metadata (fun source => ⟨_, (MetadataCall.visible_ordered hinv.ordered).facts source⟩) collation _

/-! ### A sample connection

Two requests, a call, an older request of a website, and a call again. -/

/-- The row SQLite may pick: the last one of the greatest time. -/
def sampleMaxRow : MaxRow where
  pick := latestFact
  pick_spec rows hrows := by
    obtain ⟨fact, hmem, hfact, hall⟩ := latestFact_spec hrows
    exact ⟨fact, hmem, hfact, fun row hrow => respects_timeLe.keeps (hall row hrow)⟩

def sampleRequest (eventId action : String) (occurredAt : Nat) (siteId : Option String) : ActivityEvent where
  eventId := eventId
  activityId := eventId
  requestId := none
  occurredAt := occurredAt
  firstOccurredAt := occurredAt
  lastOccurredAt := occurredAt
  sourceType := .HTTP
  actorType := .ANONYMOUS
  actorId := none
  action := action
  outcome := .SUCCESS
  subjectType := none
  subjectId := none
  siteId := siteId
  siteName := siteId
  sourceAddress := none
  userAgent := none
  httpMethod := none
  route := none
  httpStatus := none
  durationMs := 0
  eventCount := 1
  isAggregate := false
  detailsJson := "0"
  coreEventIdsJson := "0"
  externalEventId := none
  aggregationKey := none

def sampleSteps : List (ConnectionStep Nat) :=
  [.write (.persist [sampleRequest "a" "http.request" 100 none, sampleRequest "b" "backup.run" 90 none]),
    .query ⟨200, none, sampleMaxRow⟩, .write (.persist [sampleRequest "c" "http.request" 50 (some "shop")])]

def sampleConnection : Connection :=
  sampleSteps.foldl (fun connection step => step.run samplePlatform (fun _ _ => true) connection)
    ⟨⟨AuditDb.empty, ⟨[], 0⟩, []⟩, 1, 1, none⟩

theorem sampleConnection_reachable : Runs.Reachable (connectionSystem samplePlatform fun _ _ => true) sampleConnection := by
  refine Runs.Reachable.foldl (fun _ _ => rfl) sampleSteps ⟨[], .start ⟨⟨⟨.nil, ?_, ?_, le_refl _⟩, ⟨.nil, ?_⟩⟩, rfl⟩⟩ <;>
    exact fun _ h => (nomatch h)

theorem metadata_cache_exact_sample :
    (sampleConnection.catalog.map fun catalog => catalog.activity.sequence) = some 2 ∧
    (queryAuditMetadata samplePlatform (fun _ _ => true) ⟨300, none, sampleMaxRow⟩ sampleConnection).1 =
      ⟨[⟨"backup.run", .maintenance⟩, ⟨"http.request", .requests⟩], [⟨"shop", some "shop", true⟩]⟩ ∧
    (queryAuditMetadata samplePlatform (fun _ _ => true) ⟨300, none, sampleMaxRow⟩ { sampleConnection with catalog := none }).1.actions =
      [⟨"backup.run", .maintenance⟩, ⟨"http.request", .requests⟩] := by
  have h := metadata_cache_exact samplePlatform (fun _ _ => true) sampleConnection_reachable ⟨300, none, sampleMaxRow⟩ sampleMaxRow
  have hcached : (queryAuditMetadata samplePlatform (fun _ _ => true) ⟨300, none, sampleMaxRow⟩ sampleConnection).1 =
      ⟨[⟨"backup.run", .maintenance⟩, ⟨"http.request", .requests⟩], [⟨"shop", some "shop", true⟩]⟩ := by
    decide +kernel
  refine ⟨by decide +kernel, hcached, ?_⟩
  rw [← h.1, hcached]

end PerPay.Audit
