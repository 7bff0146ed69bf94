/-
  **The choices of an audit filter** (`queryAuditMetadata` of `audit/query.ts`) — which actions and which websites there is a
  record of.

  A connection keeps a catalog between two calls: of every action and of every website one representative row.  The next call
  reads the rows that came since, lets representatives expire with the thirty days, and looks the remaining ones up again.
  A catalog is given up when another connection has written, when the schema has changed, when the cutoff steps back, when
  its last row is not the one it was, or when a representative is gone.

  What SQLite picks among the rows of an action with the same greatest time is its own affair (`MaxRow`).  The name order of
  `localeCompare` is a parameter.
-/
import PerPay.Audit.Trail
import PerPay.Lib.Latest

namespace PerPay.Audit

open Latest

/-! ## Facts -/

structure MetadataFact where
  sequence : Int
  eventId : String
  occurredAt : Int
  action : String
  category : AuditCategory
  siteId : Option String
  siteName : Option String
  deriving DecidableEq, Repr

def metadataFact (row : AuditRow) : MetadataFact where
  sequence := row.sequence
  eventId := row.eventId
  occurredAt := row.occurredAt
  action := row.action
  category := row.category
  siteId := row.siteId
  siteName := row.siteName

def laterFact (left right : MetadataFact) : Bool :=
  right.occurredAt < left.occurredAt || (left.occurredAt = right.occurredAt && right.sequence < left.sequence)

/-- `JSON.stringify([fact.category, fact.action])`, as the pair it is of. -/
def actionKey (fact : MetadataFact) : AuditCategory × String := (fact.category, fact.action)

def metadataProjection (trail : Trail) : AuditSource → List MetadataFact
  | .core => (coreProjection trail.audit).map metadataFact
  | .activity => (activityProjection trail.activity).map metadataFact

structure MetadataSource where
  sequence : Int
  headEventId : Option String
  actions : List ((AuditCategory × String) × MetadataFact)
  sites : List (String × MetadataFact)
  deriving DecidableEq, Repr

structure MetadataCatalog where
  dataVersion : Nat
  schemaVersion : Nat
  cutoff : Int
  core : MetadataSource
  activity : MetadataSource
  deriving DecidableEq, Repr

/-! ## Reading -/

/-- `SELECT *, MAX(occurred_at)` of a group: some row with the greatest time. -/
structure MaxRow where
  pick : List MetadataFact → Option MetadataFact
  pick_spec : ∀ rows : List MetadataFact, rows ≠ [] → ∃ fact ∈ rows, pick rows = some fact ∧ ∀ row ∈ rows, row.occurredAt ≤ fact.occurredAt

/-- `ORDER BY occurred_at DESC, sequence DESC LIMIT 1` -/
def latestFact (rows : List MetadataFact) : Option MetadataFact :=
  rows.foldl (fun best row => match best with
    | none => some row
    | some fact => if laterFact row fact then some row else some fact) none

/-- `… GROUP BY action, category` -/
def actionRows (picks : MaxRow) (rows : List MetadataFact) : List MetadataFact :=
  (rows.map actionKey).dedup.filterMap fun key => picks.pick (rows.filter fun row => actionKey row = key)

/-- The rows of rank 1 in `PARTITION BY site_id ORDER BY occurred_at DESC, sequence DESC`. -/
def siteRows (rows : List MetadataFact) : List MetadataFact :=
  (rows.filterMap (·.siteId)).dedup.filterMap fun site => latestFact (rows.filter fun row => row.siteId = some site)

/-- The same of an activity that has no catalog: for every website of the table its latest row, sought by number. -/
def coldSiteRows (table : List MetadataFact) (cutoff sequence : Int) : List MetadataFact :=
  table.filter fun row => row.sequence ∈ (table.filterMap (·.siteId)).dedup.filterMap fun site =>
    (latestFact (table.filter fun recent => recent.siteId = some site ∧ cutoff ≤ recent.occurredAt ∧ recent.sequence ≤ sequence)).map
      (·.sequence)

/-- The representatives are looked up by number, five hundred at a time. -/
def activityWitnessesPresent (table : List MetadataFact) (state : MetadataSource) : Bool :=
  (setAll ((state.actions.map (·.2) ++ state.sites.map (·.2)).map fun fact => (fact.sequence, fact)) []).all
    fun (sequence, fact) => table.find? (fun row => row.sequence = sequence) = some fact

/-- The catalog of a source whose last row is still there. -/
def keepSaved (table : List MetadataFact) (sequence : Int) (headEventId : Option String) (saved : MetadataSource) :
    Option MetadataSource :=
  if sequence < saved.sequence ∨ (sequence = saved.sequence ∧ headEventId ≠ saved.headEventId) then none
  else if saved.sequence < sequence ∧ 0 < saved.sequence ∧
    (table.find? fun row => row.sequence = saved.sequence).map (·.eventId) ≠ saved.headEventId then none
  else some saved

/-- A catalog of activities without the expired representatives, if the others are still there. -/
def keepWitnessed (table : List MetadataFact) (saved : MetadataSource) : Option MetadataSource :=
  if activityWitnessesPresent table saved then some saved else none

def MetadataSource.since (saved : MetadataSource) (cutoff : Int) : MetadataSource :=
  { saved with
    actions := saved.actions.filter fun entry => cutoff ≤ entry.2.occurredAt
    sites := saved.sites.filter fun entry => cutoff ≤ entry.2.occurredAt }

/-- The rows to read: those since the catalog, of an activity those since the cutoff. -/
def inReach (source : AuditSource) (minimum sequence cutoff : Int) (row : MetadataFact) : Bool :=
  minimum < row.sequence && row.sequence ≤ sequence && (source = .core || cutoff ≤ row.occurredAt)

def siteFacts (facts : List MetadataFact) : List (String × MetadataFact) :=
  facts.filterMap fun fact => fact.siteId.map fun site => (site, fact)

/-- `SELECT sequence, event_id … ORDER BY sequence DESC LIMIT 1` -/
def headOf (table : List MetadataFact) : Option MetadataFact := table.getLast?

/-- The last number of a table. -/
def headSequenceOf (table : List MetadataFact) : Int := ((headOf table).map (·.sequence)).getD 0

/-- What is left of the catalog of the last call. -/
def savedSource (table : List MetadataFact) (source : AuditSource) (cutoff : Int) (previous : Option MetadataSource) :
    Option MetadataSource :=
  let saved := previous.bind (keepSaved table (headSequenceOf table) ((headOf table).map (·.eventId)))
  match source with
  | .core => saved
  | .activity => saved.bind fun saved => keepWitnessed table (saved.since cutoff)

def readMetadataSource (picks : MaxRow) (table : List MetadataFact) (source : AuditSource) (cutoff : Int)
    (previous : Option MetadataSource) : MetadataSource :=
  match savedSource table source cutoff previous with
  | none =>
    let rows := table.filter (inReach source 0 (headSequenceOf table) cutoff)
    { sequence := headSequenceOf table
      headEventId := (headOf table).map (·.eventId)
      actions := rememberAll laterFact ((actionRows picks rows).map fun fact => (actionKey fact, fact)) []
      sites := rememberAll laterFact
        (siteFacts (if source = .activity then coldSiteRows table cutoff (headSequenceOf table) else siteRows rows)) [] }
  | some saved =>
    if saved.sequence < headSequenceOf table then
      let rows := table.filter (inReach source saved.sequence (headSequenceOf table) cutoff)
      { sequence := headSequenceOf table
        headEventId := (headOf table).map (·.eventId)
        actions := rememberAll laterFact ((actionRows picks rows).map fun fact => (actionKey fact, fact)) saved.actions
        sites := rememberAll laterFact (siteFacts (siteRows rows)) saved.sites }
    else
      { sequence := headSequenceOf table
        headEventId := (headOf table).map (·.eventId)
        actions := saved.actions
        sites := saved.sites }

/-! ## The call -/

structure ActionChoice where
  action : String
  category : AuditCategory
  deriving DecidableEq, Repr

structure SiteChoice where
  siteId : String
  siteName : Option String
  deleted : Bool
  deriving DecidableEq, Repr

structure AuditMetadata where
  actions : List ActionChoice
  sites : List SiteChoice
  deriving DecidableEq, Repr

/-- A connection: the tables, the versions that SQLite reports of them, and the catalog it keeps. -/
structure Connection where
  trail : Trail
  dataVersion : Nat
  schemaVersion : Nat
  catalog : Option MetadataCatalog
  deriving DecidableEq, Repr

/-- What a call is given: its reading of the clock, what an open transaction has written so far, if there is one, and what
    SQLite picks. -/
structure MetadataCall (ν : Type) where
  now : Int
  pending : Option (List (TrailOp ν))
  picks : MaxRow

/-- Names in the order of `localeCompare`. -/
abbrev Collation := String → String → Bool

def dayMilliseconds : Int := 86_400_000

section

variable {ν : Type} (pf : AuditPlatform ν)

def MetadataCall.cutoff (call : MetadataCall ν) : Int := max 0 (call.now - 30 * dayMilliseconds)

/-- The tables as the connection sees them. -/
def MetadataCall.visible (call : MetadataCall ν) (trail : Trail) : Trail :=
  match call.pending with
  | none => trail
  | some ops => ops.foldl (fun trail op => op.run pf trail) trail

/-- The catalog, if it may be used. -/
def Connection.previous (connection : Connection) (call : MetadataCall ν) : Option MetadataCatalog :=
  if call.pending.isSome then none
  else connection.catalog.filter fun cached => cached.dataVersion = connection.dataVersion &&
    cached.schemaVersion = connection.schemaVersion && cached.cutoff ≤ call.cutoff

def Connection.readCatalog (connection : Connection) (call : MetadataCall ν) : MetadataCatalog where
  dataVersion := connection.dataVersion
  schemaVersion := connection.schemaVersion
  cutoff := call.cutoff
  core := readMetadataSource call.picks (metadataProjection (call.visible pf connection.trail) .core) .core call.cutoff
    ((connection.previous call).map (·.core))
  activity := readMetadataSource call.picks (metadataProjection (call.visible pf connection.trail) .activity) .activity
    call.cutoff ((connection.previous call).map (·.activity))

end

/-- `compare(left.category, right.category) || compare(left.action, right.action)`, as an order. -/
def actionChoiceLe (left right : ActionChoice) : Bool :=
  if left.category.name = right.category.name then unitsLe (utf16Units left.action) (utf16Units right.action)
  else unitsLe (utf16Units left.category.name) (utf16Units right.category.name)

/-- `new Map([...core.actions, ...activity.actions])` -/
def MetadataCatalog.actionFacts (catalog : MetadataCatalog) : List ((AuditCategory × String) × MetadataFact) :=
  setAll catalog.activity.actions catalog.core.actions

/-- An activity names a website only if it is later than every audit event of the website. -/
def MetadataCatalog.siteFacts (catalog : MetadataCatalog) : List (String × MetadataFact) :=
  rememberAll (fun fact coreFact => coreFact.occurredAt < fact.occurredAt) catalog.activity.sites catalog.core.sites

def siteChoices (facts : List (String × MetadataFact)) (sites : List SiteRow) : List (String × SiteChoice) :=
  setAll (sites.map fun row => (row.clientId, ⟨row.clientId, row.name, row.deletedAt.isSome⟩))
    (facts.map fun entry => (entry.1, ⟨entry.1, entry.2.siteName, true⟩))

def MetadataCatalog.metadata (collation : Collation) (catalog : MetadataCatalog) (sites : List SiteRow) : AuditMetadata where
  actions := (catalog.actionFacts.map fun entry => ⟨entry.2.action, entry.2.category⟩).insertionSort fun a b => actionChoiceLe a b
  sites := ((siteChoices catalog.siteFacts sites).map (·.2)).insertionSort fun a b =>
    collation (a.siteName.getD a.siteId) (b.siteName.getD b.siteId)

/-- `queryAuditMetadata`: the choices, and the connection with the catalog it keeps. -/
def queryAuditMetadata {ν : Type} (pf : AuditPlatform ν) (collation : Collation) (call : MetadataCall ν) (connection : Connection) :
    AuditMetadata × Connection :=
  ((connection.readCatalog pf call).metadata collation (call.visible pf connection.trail).sites,
    if call.pending.isSome then connection else { connection with catalog := some (connection.readCatalog pf call) })

end PerPay.Audit
