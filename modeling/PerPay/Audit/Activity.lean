/-
  **The activity table** (`audit/activity-schema.ts`, `persistActivityEvent` and the deletion of `prune` in
  `audit/activity.ts`).

  Operational history is kept apart from the audit chain.  An event with an aggregation key is a counter of one minute: a
  later event of the same key is merged into its row.  Rows are numbered by AUTOINCREMENT, so that a number is never given
  twice, and the oldest rows are deleted once they are thirty days old.

  `activity_events` is the list of its rows by `sequence`.
-/
import PerPay.Audit.Model
import PerPay.Lib.Table

namespace PerPay.Audit

open Txn Table

/-! ## Tables -/

inductive ActivitySourceType
  | HTTP | BACKGROUND | MAINTENANCE | INTERNAL
  deriving DecidableEq, Repr

def ActivitySourceType.name : ActivitySourceType → String
  | .HTTP => "HTTP"
  | .BACKGROUND => "BACKGROUND"
  | .MAINTENANCE => "MAINTENANCE"
  | .INTERNAL => "INTERNAL"

structure ActivityEvent where
  eventId : String
  activityId : String
  requestId : Option String
  occurredAt : Nat
  firstOccurredAt : Nat
  lastOccurredAt : Nat
  sourceType : ActivitySourceType
  actorType : AuditActorType
  actorId : Option String
  action : String
  outcome : AuditOutcome
  subjectType : Option String
  subjectId : Option String
  siteId : Option String
  siteName : Option String
  sourceAddress : Option String
  userAgent : Option String
  httpMethod : Option String
  route : Option String
  httpStatus : Option Nat
  durationMs : Nat
  eventCount : Nat
  isAggregate : Bool
  detailsJson : String
  coreEventIdsJson : String
  externalEventId : Option String
  aggregationKey : Option String
  deriving DecidableEq, Repr

/-- A row of `activity_events`. -/
structure ActivityEventRow where
  sequence : Nat
  eventId : String
  activityId : String
  requestId : Option String
  occurredAt : Nat
  firstOccurredAt : Option Nat
  lastOccurredAt : Nat
  sourceType : ActivitySourceType
  actorType : AuditActorType
  actorId : Option String
  action : String
  outcome : AuditOutcome
  subjectType : Option String
  subjectId : Option String
  siteId : Option String
  siteName : Option String
  sourceAddress : Option String
  userAgent : Option String
  httpMethod : Option String
  route : Option String
  httpStatus : Option Nat
  durationMs : Nat
  eventCount : Nat
  isAggregate : Bool
  detailsJson : String
  coreEventIdsJson : String
  externalEventId : Option String
  aggregationKey : Option String
  deriving DecidableEq, Repr

/-- The table; `sqliteSequence` is the last number AUTOINCREMENT has given. -/
structure ActivityTable where
  rows : List ActivityEventRow
  sqliteSequence : Nat
  deriving DecidableEq, Repr

abbrev ActivityTx := Tx ActivityTable Fault

/-! ## Writing -/

def ActivityEvent.row (event : ActivityEvent) (sequence : Nat) : ActivityEventRow where
  sequence := sequence
  eventId := event.eventId
  activityId := event.activityId
  requestId := event.requestId
  occurredAt := event.occurredAt
  firstOccurredAt := some event.firstOccurredAt
  lastOccurredAt := event.lastOccurredAt
  sourceType := event.sourceType
  actorType := event.actorType
  actorId := event.actorId
  action := event.action
  outcome := event.outcome
  subjectType := event.subjectType
  subjectId := event.subjectId
  siteId := event.siteId
  siteName := event.siteName
  sourceAddress := event.sourceAddress
  userAgent := event.userAgent
  httpMethod := event.httpMethod
  route := event.route
  httpStatus := event.httpStatus
  durationMs := event.durationMs
  eventCount := event.eventCount
  isAggregate := event.isAggregate
  detailsJson := event.detailsJson
  coreEventIdsJson := event.coreEventIdsJson
  externalEventId := event.externalEventId
  aggregationKey := event.aggregationKey

/-- `ON CONFLICT(aggregation_key) DO UPDATE` -/
def ActivityEventRow.merge (row : ActivityEventRow) (event : ActivityEvent) : ActivityEventRow :=
  { row with
    firstOccurredAt := some (min (row.firstOccurredAt.getD row.occurredAt) event.firstOccurredAt)
    lastOccurredAt := max row.lastOccurredAt event.lastOccurredAt
    durationMs := min maxSafeInteger (row.durationMs + event.durationMs)
    eventCount := min maxSafeInteger (row.eventCount + event.eventCount) }

variable {ν : Type} (pf : AuditPlatform ν)

/-- The CHECK constraints that are left: the enumerations and the signs are in the types. -/
def ActivityEventRow.checked (row : ActivityEventRow) : Bool :=
  row.firstOccurredAt.all (· ≤ row.occurredAt) && row.occurredAt ≤ row.lastOccurredAt &&
  row.httpStatus.all (fun status => 100 ≤ status && status ≤ 599) && 1 ≤ row.eventCount &&
  jsonValid pf row.detailsJson && jsonValid pf row.coreEventIdsJson

/-- The row of an aggregation key. -/
def ActivityTable.aggregate (table : ActivityTable) (event : ActivityEvent) : Option ActivityEventRow :=
  event.aggregationKey.bind fun key => table.rows.find? fun row => row.aggregationKey = some key

/-- `persistActivityEvent`: the checks of the row come first, then the conflict on the aggregation key, then the other
    unique keys. -/
def persistActivityEvent (event : ActivityEvent) : ActivityTx Unit := do
  let table ← readWith id
  require ((event.row (table.sqliteSequence + 1)).checked pf = true) (.sqlite "CHECK constraint failed: activity_events")
  match table.aggregate event with
  | some existing =>
    require ((existing.merge event).checked pf = true) (.sqlite "CHECK constraint failed: activity_events")
    update fun table => { table with rows := updateWhere (fun row => row.sequence = existing.sequence) (·.merge event) table.rows }
  | none =>
    require (∀ row ∈ table.rows, row.eventId ≠ event.eventId ∧
      (event.externalEventId.isSome → row.externalEventId ≠ event.externalEventId))
      (.sqlite "UNIQUE constraint failed: activity_events")
    update fun table =>
      { rows := table.rows ++ [event.row (table.sqliteSequence + 1)], sqliteSequence := table.sqliteSequence + 1 }

def activityRetentionMilliseconds : Nat := 30 * 86_400_000

/-- The rows to delete: the oldest five hundred of those before the cutoff. -/
def ActivityTable.expired (table : ActivityTable) (cutoff : Nat) : List ActivityEventRow :=
  ((table.rows.filter fun row => row.occurredAt < cutoff).insertionSort fun a b => a.occurredAt ≤ b.occurredAt).take 500

/-- The deletion of `prune`. -/
def ActivityTable.prune (table : ActivityTable) (now : Nat) : ActivityTable :=
  { table with rows := table.rows.filter fun row =>
      row.sequence ∉ (table.expired (now - activityRetentionMilliseconds)).map (·.sequence) }

/-! ## What a write does to the table -/

/-- Rows by ascending number, none above the last number given. -/
structure ActivityTable.Ordered (table : ActivityTable) : Prop where
  sequenced : table.rows.Pairwise fun a b => a.sequence < b.sequence
  bounded : ∀ row ∈ table.rows, 0 < row.sequence ∧ row.sequence ≤ table.sqliteSequence

theorem ActivityTable.Ordered.unique {table : ActivityTable} (h : table.Ordered) :
    UniqueOn ActivityEventRow.sequence table.rows := by
  unfold UniqueOn
  refine List.pairwise_map.mpr (h.sequenced.imp ?_)
  intro a b hlt
  exact Nat.ne_of_lt hlt

theorem persistActivityEvent_ok {pf : AuditPlatform ν} {event : ActivityEvent} {table table' : ActivityTable} {u : Unit}
    (h : persistActivityEvent pf event table = .ok (u, table')) :
    (event.row (table.sqliteSequence + 1)).checked pf = true ∧
    ((∃ existing, table.aggregate event = some existing ∧ (existing.merge event).checked pf = true ∧
        table' = { table with rows := updateWhere (fun row => row.sequence = existing.sequence) (·.merge event) table.rows }) ∨
      (table.aggregate event = none ∧
        (∀ row ∈ table.rows, row.eventId ≠ event.eventId ∧
          (event.externalEventId.isSome → row.externalEventId ≠ event.externalEventId)) ∧
        table' = ⟨table.rows ++ [event.row (table.sqliteSequence + 1)], table.sqliteSequence + 1⟩)) := by
  unfold persistActivityEvent at h
  rw [readWith_bind_ok, require_bind_ok] at h
  obtain ⟨hchecked, h⟩ := h
  refine ⟨hchecked, ?_⟩
  dsimp only [id] at h
  cases hexisting : table.aggregate event with
  | some existing =>
    rw [hexisting] at h
    dsimp only at h
    rw [require_bind_ok] at h
    exact .inl ⟨existing, rfl, h.1, update_eq.mp h.2⟩
  | none =>
    rw [hexisting] at h
    dsimp only at h
    rw [require_bind_ok] at h
    exact .inr ⟨rfl, h.1, update_eq.mp h.2⟩

end PerPay.Audit
