/-
  **The trail** — the two tables an audit query reads, as one list of rows each (the projections of `audit/query.ts`), and
  what writing does to them.

  A transaction of audit events appends rows with greater numbers; its contexts belong to the new events, so that the rows
  of the old ones stay as they are.  An activity event appends a row with a greater number, or is merged into one, which
  changes its counters and its first and last times and nothing else (`ActivityEventRow.frozen`).  Retention only deletes.
-/
import PerPay.Audit.Activity
import PerPay.Audit.Chain
import PerPay.Lib.Like

namespace PerPay.Audit

open Txn Table Like

/-! ## Rows of a query -/

inductive AuditSource
  | core | activity
  deriving DecidableEq, Repr

def AuditSource.name : AuditSource → String
  | .core => "core"
  | .activity => "activity"

inductive AuditCategory
  | identity | configuration | orders | reconciliation | notifications | requests | background | maintenance | audit | other
  deriving DecidableEq, Repr

def AuditCategory.name : AuditCategory → String
  | .identity => "identity"
  | .configuration => "configuration"
  | .orders => "orders"
  | .reconciliation => "reconciliation"
  | .notifications => "notifications"
  | .requests => "requests"
  | .background => "background"
  | .maintenance => "maintenance"
  | .audit => "audit"
  | .other => "other"

/-- `CORE_CATEGORY` -/
def coreCategory (action : String) : AuditCategory :=
  if like "audit.%" action then .audit
  else if like "admin.%" action || action = "api.authentication" then .identity
  else if like "settings.%" action || like "site.%" action || like "site_defaults.%" action ||
    like "alipay_account.%" action || like "api_client.%" action then .configuration
  else if like "orders.%" action || like "order.%" action then .orders
  else if like "ledger.%" action || like "reconciliation.%" action || like "financial.%" action then .reconciliation
  else if like "webhook.%" action || like "notification.%" action then .notifications
  else if like "backup.%" action || like "maintenance.%" action then .maintenance
  else .other

/-- `ACTIVITY_CATEGORY` -/
def activityCategory (action : String) (sourceType : ActivitySourceType) : AuditCategory :=
  if like "backup.%" action || like "maintenance.%" action then .maintenance
  else
    match sourceType with
    | .HTTP => .requests
    | .BACKGROUND => .background
    | .MAINTENANCE => .maintenance
    | .INTERNAL => .other

/-- A row of the projections, without the evidence. -/
structure AuditRow where
  source : AuditSource
  sequence : Int
  eventId : String
  occurredAt : Int
  firstOccurredAt : Int
  lastOccurredAt : Int
  category : AuditCategory
  action : String
  outcome : String
  actorType : String
  actorId : Option String
  subjectType : Option String
  subjectId : Option String
  requestId : Option String
  activityId : Option String
  siteId : Option String
  siteName : Option String
  sourceAddress : Option String
  userAgent : Option String
  contextRecorded : Bool
  sourceType : String
  eventCount : Nat
  isAggregate : Bool
  durationMs : Option Nat
  httpMethod : Option String
  route : Option String
  httpStatus : Option Nat
  deriving DecidableEq, Repr

/-- A row of `audit_events`, joined with its context. -/
def AuditEventRow.project (event : AuditEventRow) (context : Option AuditEventContextRow) : AuditRow where
  source := .core
  sequence := event.sequence
  eventId := event.eventId
  occurredAt := event.occurredAt
  firstOccurredAt := event.occurredAt
  lastOccurredAt := event.occurredAt
  category := coreCategory event.action
  action := event.action
  outcome := event.outcome
  actorType := event.actorType
  actorId := event.actorId
  subjectType := event.subjectType
  subjectId := event.subjectId
  requestId := event.requestId
  activityId := context.bind (·.activityId)
  siteId := (context.bind (·.siteId)).or
    (if event.subjectType = some "website" ∧ event.subjectId ≠ some "defaults" then event.subjectId else none)
  siteName := context.bind (·.siteName)
  sourceAddress := context.bind (·.sourceAddress)
  userAgent := context.bind (·.userAgent)
  contextRecorded := context.isSome
  sourceType := "CORE"
  eventCount := 1
  isAggregate := false
  durationMs := none
  httpMethod := none
  route := none
  httpStatus := none

def AuditDb.contextOf (db : AuditDb) (event : AuditEventRow) : Option AuditEventContextRow :=
  db.auditEventContext.find? fun context => context.eventId = event.eventId

def coreProjection (db : AuditDb) : List AuditRow := db.auditEvents.map fun event => event.project (db.contextOf event)

def ActivityEventRow.project (row : ActivityEventRow) : AuditRow where
  source := .activity
  sequence := row.sequence
  eventId := row.eventId
  occurredAt := row.occurredAt
  firstOccurredAt := row.firstOccurredAt.getD row.occurredAt
  lastOccurredAt := row.lastOccurredAt
  category := activityCategory row.action row.sourceType
  action := row.action
  outcome := row.outcome.name
  actorType := row.actorType.name
  actorId := row.actorId
  subjectType := row.subjectType
  subjectId := row.subjectId
  requestId := row.requestId
  activityId := some row.activityId
  siteId := row.siteId
  siteName := row.siteName
  sourceAddress := row.sourceAddress
  userAgent := row.userAgent
  contextRecorded := true
  sourceType := row.sourceType.name
  eventCount := row.eventCount
  isAggregate := row.isAggregate
  durationMs := some row.durationMs
  httpMethod := row.httpMethod
  route := row.route
  httpStatus := row.httpStatus

def activityProjection (table : ActivityTable) : List AuditRow := table.rows.map ActivityEventRow.project

/-- A row without what a merge may change. -/
def AuditRow.frozen (row : AuditRow) : AuditRow :=
  { row with firstOccurredAt := 0, lastOccurredAt := 0, eventCount := 0, durationMs := none }

theorem ActivityEventRow.merge_frozen (row : ActivityEventRow) (event : ActivityEvent) :
    (row.merge event).project.frozen = row.project.frozen := rfl

/-! ## Writing to the trail -/

/-- A row of `sites`, with its name from the configuration. -/
structure SiteRow where
  clientId : String
  name : Option String
  deletedAt : Option Nat
  deriving DecidableEq, Repr

structure Trail where
  audit : AuditDb
  activity : ActivityTable
  sites : List SiteRow
  deriving DecidableEq, Repr

/-- The writes: a transaction of audit events, a transaction of activity events, the retention of the activity, and a
    change of the websites. -/
inductive TrailOp (ν : Type)
  | append (transaction : AuditTransaction ν)
  | persist (events : List ActivityEvent)
  | prune (now : Nat)
  | configureSites (sites : List SiteRow)

variable {ν : Type} (pf : AuditPlatform ν)

def TrailOp.run : TrailOp ν → Trail → Trail
  | .append transaction, trail => { trail with audit := committed (runTransaction pf transaction) trail.audit }
  | .persist events, trail => { trail with activity := committed (forEach (persistActivityEvent pf) events) trail.activity }
  | .prune now, trail => { trail with activity := trail.activity.prune now }
  | .configureSites sites, trail => { trail with sites }

/-! ## Audit events -/

/-- Events by ascending number, none above the last number given, and contexts of theirs. -/
structure AuditDb.Ordered (db : AuditDb) : Prop where
  sequenced : db.auditEvents.Pairwise fun a b => a.sequence < b.sequence
  bounded : ∀ row ∈ db.auditEvents, 0 < row.sequence ∧ row.sequence ≤ db.sqliteSequence
  owned : ∀ c ∈ db.auditEventContext, ∃ row ∈ db.auditEvents, row.eventId = c.eventId
  started : 0 ≤ db.sqliteSequence

/-- The rows of `db` come first; the others have greater numbers. -/
structure CoreExtends (db db' : AuditDb) : Prop where
  counter : db.sqliteSequence ≤ db'.sqliteSequence
  rows : ∃ new, coreProjection db' = coreProjection db ++ new ∧ ∀ row ∈ new, db.sqliteSequence < row.sequence

theorem CoreExtends.refl (db : AuditDb) : CoreExtends db db :=
  ⟨le_refl _, [], (List.append_nil _).symm, fun _ h => nomatch h⟩

theorem CoreExtends.trans {db m db' : AuditDb} (h1 : CoreExtends db m) (h2 : CoreExtends m db') : CoreExtends db db' := by
  obtain ⟨new, hrows, hnew⟩ := h1.rows
  obtain ⟨new', hrows', hnew'⟩ := h2.rows
  refine ⟨le_trans h1.counter h2.counter, new ++ new', by rw [hrows', hrows, List.append_assoc], ?_⟩
  intro row hrow
  rcases List.mem_append.mp hrow with hrow | hrow
  · exact hnew row hrow
  · exact lt_of_le_of_lt h1.counter (hnew' row hrow)

variable {pf}

theorem appended_extends {db db' : AuditDb} {call : AppendCall ν} {row : AuditEventRow} {context : StoredAuditContext ν}
    (hdb : db.Ordered) (h : Appended pf db call row context db') : db'.Ordered ∧ CoreExtends db db' := by
  obtain ⟨m, hevent, hcontext⟩ := h.event
  obtain ⟨old, -, hm⟩ := hevent.stored
  have hsequence : row.sequence = db.sqliteSequence + 1 := by
    rw [h.built]
    rfl
  have hid : row.eventId = call.eventId.text := by
    rw [h.built]
    rfl
  have hstarted := hdb.started
  subst hm
  rw [hcontext.stored]
  constructor
  · refine ⟨?_, ?_, ?_, ?_⟩
    · refine List.pairwise_append.mpr ⟨hdb.sequenced, List.pairwise_singleton _ _, ?_⟩
      intro a ha b hb
      rw [List.mem_singleton.mp hb]
      have hbound := (hdb.bounded a ha).2
      omega
    · refine forall_mem_append_singleton (fun r hr => ?_) ⟨by omega, le_refl _⟩
      obtain ⟨hpos, hbound⟩ := hdb.bounded r hr
      dsimp only
      omega
    · refine forall_mem_append_singleton (fun c hc => ?_) ⟨row, List.mem_append_right _ List.mem_cons_self, hid⟩
      obtain ⟨r, hr, hrc⟩ := hdb.owned c hc
      exact ⟨r, List.mem_append_left _ hr, hrc⟩
    · dsimp only
      omega
  · refine ⟨by dsimp only; omega, ?_⟩
    -- the new context belongs to no old event, and no old context to the new one
    have hold : ∀ e ∈ db.auditEvents, (db.auditEventContext ++ [contextRow pf call.eventId.text context]).find?
        (fun c => c.eventId = e.eventId) = db.contextOf e := by
      intro e he
      unfold AuditDb.contextOf
      rw [List.find?_append, List.find?_cons_of_neg, List.find?_nil, Option.or_none]
      intro heq
      refine hevent.unique e he ?_
      rw [hid]
      exact (of_decide_eq_true heq).symm
    refine ⟨[row.project (some (contextRow pf call.eventId.text context))], ?_, ?_⟩
    · unfold coreProjection
      dsimp only
      rw [List.map_append]
      congr 1
      · refine List.map_congr_left fun e he => ?_
        exact congrArg e.project (hold e he)
      · show [row.project _] = _
        refine congrArg (fun c => [row.project c]) ?_
        refine find?_append_new (fun c hc => ?_) (decide_eq_true hid.symm)
        refine decide_eq_false fun heq => ?_
        obtain ⟨e, he, hec⟩ := hdb.owned c hc
        exact hevent.unique e he (hec.trans heq)
    · intro r hr
      rw [List.mem_singleton.mp hr]
      show db.sqliteSequence < row.sequence
      omega

theorem runTransaction_extends {db : AuditDb} (hdb : db.Ordered) (transaction : AuditTransaction ν) :
    (committed (runTransaction pf transaction) db).Ordered ∧ CoreExtends db (committed (runTransaction pf transaction) db) := by
  have hcall : ∀ call : AppendCall ν, Preserves (fun s => s.Ordered ∧ CoreExtends db s) (appendAuditEvent pf call) := by
    intro call s hs _ s' h
    obtain ⟨row, context, happended⟩ := appendAuditEvent_ok h
    obtain ⟨hordered, hextends⟩ := appended_extends hs.1 happended
    exact ⟨hordered, hs.2.trans hextends⟩
  have hrun : Preserves (fun s => s.Ordered ∧ CoreExtends db s) (runTransaction pf transaction) :=
    preserves_bind (preserves_forEach hcall transaction.calls) fun _ => preserves_require _ _
  exact committed_of_preserves hrun ⟨hdb, .refl db⟩

/-! ## Activity events -/

/-- The rows of `table` come first, up to merges; the others have greater numbers. -/
structure ActivityExtends (table table' : ActivityTable) : Prop where
  counter : table.sqliteSequence ≤ table'.sqliteSequence
  rows : ∃ new, (activityProjection table').map AuditRow.frozen = (activityProjection table).map AuditRow.frozen ++ new ∧
    ∀ row ∈ new, (table.sqliteSequence : Int) < row.sequence

theorem ActivityExtends.refl (table : ActivityTable) : ActivityExtends table table :=
  ⟨le_refl _, [], (List.append_nil _).symm, fun _ h => nomatch h⟩

theorem ActivityExtends.trans {table m table' : ActivityTable} (h1 : ActivityExtends table m) (h2 : ActivityExtends m table') :
    ActivityExtends table table' := by
  obtain ⟨new, hrows, hnew⟩ := h1.rows
  obtain ⟨new', hrows', hnew'⟩ := h2.rows
  refine ⟨le_trans h1.counter h2.counter, new ++ new', by rw [hrows', hrows, List.append_assoc], ?_⟩
  intro row hrow
  rcases List.mem_append.mp hrow with hrow | hrow
  · exact hnew row hrow
  · exact lt_of_le_of_lt (Int.ofNat_le.mpr h1.counter) (hnew' row hrow)

theorem activityProjection_frozen (table : ActivityTable) :
    (activityProjection table).map AuditRow.frozen = table.rows.map fun row => row.project.frozen := by
  unfold activityProjection
  rw [List.map_map]
  rfl

theorem persistActivityEvent_extends {event : ActivityEvent} {table table' : ActivityTable} {u : Unit} (htable : table.Ordered)
    (h : persistActivityEvent pf event table = .ok (u, table')) : table'.Ordered ∧ ActivityExtends table table' := by
  obtain ⟨-, ⟨existing, -, -, rfl⟩ | ⟨-, -, rfl⟩⟩ := persistActivityEvent_ok h
  · have hsequences : (updateWhere (fun row : ActivityEventRow => row.sequence = existing.sequence) (·.merge event) table.rows).map
        (·.sequence) = table.rows.map (·.sequence) :=
      map_updateWhere (f := (·.merge event)) (g := ActivityEventRow.sequence) (fun _ _ => rfl) _
    constructor
    · constructor
      · have hpairs := List.pairwise_map.mpr htable.sequenced
        rw [← hsequences] at hpairs
        exact List.pairwise_map.mp hpairs
      · intro row hrow
        rcases mem_updateWhere.mp hrow with ⟨r, hr, -, rfl⟩ | ⟨hr, -⟩
        · exact htable.bounded r hr
        · exact htable.bounded row hr
    · refine ⟨le_refl _, [], ?_, fun _ h => nomatch h⟩
      rw [List.append_nil, activityProjection_frozen, activityProjection_frozen]
      exact map_updateWhere (fun row _ => row.merge_frozen event) _
  · constructor
    · constructor
      · refine List.pairwise_append.mpr ⟨htable.sequenced, List.pairwise_singleton _ _, ?_⟩
        intro a ha b hb
        rw [List.mem_singleton.mp hb]
        exact Nat.lt_succ_of_le (htable.bounded a ha).2
      · refine forall_mem_append_singleton (fun r hr => ?_) ⟨Nat.succ_pos _, le_refl _⟩
        exact ⟨(htable.bounded r hr).1, Nat.le_succ_of_le (htable.bounded r hr).2⟩
    · refine ⟨Nat.le_succ _, [(event.row (table.sqliteSequence + 1)).project.frozen], ?_, ?_⟩
      · rw [activityProjection_frozen, activityProjection_frozen, List.map_append]
        rfl
      · intro row hrow
        rw [List.mem_singleton.mp hrow]
        show (table.sqliteSequence : Int) < ((table.sqliteSequence + 1 : Nat) : Int)
        omega

theorem persist_extends {table : ActivityTable} (htable : table.Ordered) (events : List ActivityEvent) :
    (committed (forEach (persistActivityEvent pf) events) table).Ordered ∧
      ActivityExtends table (committed (forEach (persistActivityEvent pf) events) table) := by
  have hevent : ∀ event, Preserves (fun s => s.Ordered ∧ ActivityExtends table s) (persistActivityEvent pf event) := by
    intro event s hs _ s' h
    obtain ⟨hordered, hextends⟩ := persistActivityEvent_extends hs.1 h
    exact ⟨hordered, hs.2.trans hextends⟩
  exact committed_of_preserves (preserves_forEach hevent events) ⟨htable, .refl table⟩

theorem prune_ordered {table : ActivityTable} (htable : table.Ordered) (now : Nat) : (table.prune now).Ordered where
  sequenced := htable.sequenced.filter _
  bounded row hrow := htable.bounded row (List.mem_filter.mp hrow).1

end PerPay.Audit
