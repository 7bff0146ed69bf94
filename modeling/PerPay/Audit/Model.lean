/-
  **The audit chain** (`database/audit-chain.ts`, `appendAuditEvent` of `database/identity-store.ts`) —
  the tables, the statement that appends an event, and the inspection.

  Every event carries the hash of the event before it and a hash of its own fields, joined by NUL.  A
  row of `audit_chain_state`, advanced by a trigger, anchors the end of the chain.  `audit_events` is
  the list of its rows by `sequence`, its INTEGER PRIMARY KEY.

  The checks of the schema are read as SQLite evaluates them: `length` counts the characters before
  the first NUL, and `GLOB` looks no further either.
-/
import PerPay.Audit.Context
import PerPay.Lib.Tx

namespace PerPay.Audit

open Json (Value)
open Ledger (utf16Length)
open Txn

/-! ## Tables -/

/-- A row of `audit_events`. -/
structure AuditEventRow where
  sequence : Int
  eventId : String
  occurredAt : Int
  actorType : String
  actorId : Option String
  action : String
  outcome : String
  subjectType : Option String
  subjectId : Option String
  requestId : Option String
  remoteAddressHash : Option String
  detailsJson : String
  previousHash : Option String
  eventHash : String
  deriving DecidableEq, Repr

/-- A row of `audit_event_context`. -/
structure AuditEventContextRow where
  eventId : String
  activityId : Option String
  sourceAddress : Option String
  userAgent : Option String
  siteId : Option String
  siteName : Option String
  contextJson : String
  contextFingerprint : String
  deriving DecidableEq, Repr

/-- The row of `audit_chain_state`. -/
structure AuditChainState where
  eventCount : Int
  lastSequence : Option Int
  lastEventHash : Option String
  deriving DecidableEq, Repr

/-- The audit tables; `sqliteSequence` is the last number AUTOINCREMENT has given. -/
structure AuditDb where
  auditEvents : List AuditEventRow
  auditEventContext : List AuditEventContextRow
  auditChainState : Option AuditChainState
  sqliteSequence : Int
  deriving DecidableEq, Repr

/-- A fresh database. -/
def AuditDb.empty : AuditDb := ⟨[], [], some ⟨0, none, none⟩, 0⟩

abbrev AuditTx := Tx AuditDb Fault

/-! ## Checks of the schema -/

/-- SQLite's `length`. -/
def sqliteLength (text : String) : Nat := (text.toList.takeWhile (· ≠ '\x00')).length

/-- `NOT GLOB '*[^0-9a-f]*'` -/
def hexBeforeNul (text : String) : Bool :=
  (text.toList.takeWhile (· ≠ '\x00')).all fun c => c.isDigit || ('a' ≤ c && c ≤ 'f')

/-- A column for a digest: 64 characters, lower case, hexadecimal. -/
def digestColumn (text : String) : Bool :=
  sqliteLength text = 64 && text.toList.all (fun c => !c.isUpper) && hexBeforeNul text

/-- `x IS NULL OR length(x) BETWEEN 1 AND 128` -/
def shortColumn (text : Option String) : Bool := text.all fun s => 1 ≤ sqliteLength s && sqliteLength s ≤ 128

variable {ν : Type} (pf : AuditPlatform ν)

/-- `json_valid` -/
def jsonValid (text : String) : Bool := (Json.parse pf.numbers text.toList).isSome

/-- The CHECK constraints of a row of `audit_events`. -/
def AuditEventRow.checked (row : AuditEventRow) : Bool :=
  sqliteLength row.eventId = 36 && 0 ≤ row.occurredAt &&
  row.actorType ∈ ["SYSTEM", "ANONYMOUS", "ADMIN", "API_CLIENT"] && shortColumn row.actorId &&
  1 ≤ sqliteLength row.action && sqliteLength row.action ≤ 100 && row.outcome ∈ ["SUCCESS", "FAILURE"] &&
  shortColumn row.subjectType && shortColumn row.subjectId && shortColumn row.requestId &&
  row.remoteAddressHash.all digestColumn && jsonValid pf row.detailsJson &&
  sqliteLength row.detailsJson ≤ 8192 && row.previousHash.all digestColumn && digestColumn row.eventHash

/-- Contents that `audit_events` can hold: rows by ascending primary key that pass the checks and share
    no unique value. -/
structure AuditEventsAdmissible (rows : List AuditEventRow) : Prop where
  sequenced : rows.Pairwise fun a b => a.sequence < b.sequence
  checked : ∀ row ∈ rows, row.checked pf = true
  eventIds : (rows.map (·.eventId)).Nodup
  eventHashes : (rows.map (·.eventHash)).Nodup
  previousHashes : (rows.filterMap (·.previousHash)).Nodup

/-- The CHECK of `audit_chain_state` on its counters. -/
def AuditChainState.checked (s : AuditChainState) : Bool :=
  0 ≤ s.eventCount && s.lastSequence.all (1 ≤ ·) && s.lastEventHash.all digestColumn &&
  ((s.eventCount = 0 && s.lastSequence.isNone && s.lastEventHash.isNone) ||
    (1 ≤ s.eventCount && s.lastSequence = some s.eventCount && s.lastEventHash.isSome))

/-- `json_extract(context_json, '$.…')` of a text or null -/
def extractText (context : Value ν) (key : String) : Option (Option String) :=
  match context.member key with
  | some .null => some none
  | some (.str s) => some (some s)
  | _ => none

def AuditEventContextRow.checked (row : AuditEventContextRow) : Bool :=
  row.sourceAddress.all (fun s => 1 ≤ sqliteLength s && sqliteLength s ≤ 45) &&
  row.userAgent.all (fun s => 1 ≤ s.utf8ByteSize && s.utf8ByteSize ≤ 1024) &&
  row.contextJson.utf8ByteSize ≤ 65536 && sqliteLength row.contextFingerprint = 64 &&
  match Json.parse pf.numbers row.contextJson.toList with
  | none => false
  | some context =>
    extractText context "activity_id" = some row.activityId &&
    extractText context "source_address" = some row.sourceAddress &&
    extractText context "user_agent" = some row.userAgent &&
    extractText context "site_id" = some row.siteId &&
    extractText context "site_name" = some row.siteName

/-! ## Hashes -/

structure AuditEventHashInput where
  eventId : String
  occurredAt : Int
  actorType : String
  actorId : Option String
  action : String
  outcome : String
  subjectType : Option String
  subjectId : Option String
  requestId : Option String
  remoteAddressHash : Option String
  detailsJson : String
  previousHash : Option String
  deriving DecidableEq, Repr

/-- The thirteen fields that are joined; a field that is null counts as empty. -/
def AuditEventHashInput.fields (input : AuditEventHashInput) : List (List Char) :=
  ["perpay-audit-v1", input.eventId, String.ofList (Json.intText input.occurredAt), input.actorType, input.actorId.getD "",
    input.action, input.outcome, input.subjectType.getD "", input.subjectId.getD "", input.requestId.getD "",
    input.remoteAddressHash.getD "", input.detailsJson, input.previousHash.getD ""].map String.toList

def calculateAuditEventHash (input : AuditEventHashInput) : String :=
  pf.sha256 (String.ofList (List.intercalate ['\x00'] input.fields))

/-- The hashed columns of a row. -/
def AuditEventRow.hashInput (row : AuditEventRow) : AuditEventHashInput where
  eventId := row.eventId
  occurredAt := row.occurredAt
  actorType := row.actorType
  actorId := row.actorId
  action := row.action
  outcome := row.outcome
  subjectType := row.subjectType
  subjectId := row.subjectId
  requestId := row.requestId
  remoteAddressHash := row.remoteAddressHash
  detailsJson := row.detailsJson
  previousHash := row.previousHash

/-! ## Appending -/

inductive AuditOutcome
  | SUCCESS | FAILURE
  deriving DecidableEq, Repr

def AuditOutcome.name : AuditOutcome → String
  | .SUCCESS => "SUCCESS"
  | .FAILURE => "FAILURE"

structure AuditInput (ν : Type) where
  occurredAt : Int
  actorType : AuditActorType
  actorId : Option String
  action : String
  outcome : AuditOutcome
  subjectType : Option String
  subjectId : Option String
  requestId : Option String
  remoteAddressHash : Option String
  details : List (String × Unknown ν)
  context : AuditContextInput ν

/-- `Number.isSafeInteger` on an integer. -/
def isSafeInt (n : Int) : Bool := n.natAbs ≤ maxSafeInteger

/-- `/^[a-z][a-z0-9._-]{0,99}$/` -/
def validAction (action : String) : Bool :=
  match action.toList with
  | [] => false
  | c :: cs => c.isLower && cs.length ≤ 99 && cs.all fun d => d.isLower || d.isDigit || d = '.' || d = '_' || d = '-'

/-- `/[\u0000-\u001f\u007f]/` -/
def hasControl (text : String) : Bool := text.toList.any fun c => c.toNat < 0x20 || c.toNat = 0x7F

def validAuditText (text : String) : Bool := text ≠ "" && utf16Length text ≤ 128 && !hasControl text

/-- `if (!c) throw new Error(message)` -/
def check (c : Bool) (message : String) : Except Fault Unit := if c then .ok () else .error (.error message)

def validateAuditInput (input : AuditInput ν) : Except Fault Unit := do
  check (isSafeInt input.occurredAt && 0 ≤ input.occurredAt) "audit timestamp is invalid"
  check (validAction input.action) "audit action is invalid"
  check (input.actorId.all validAuditText) "audit actor_id is invalid"
  check (input.subjectType.all validAuditText) "audit subject_type is invalid"
  check (input.subjectId.all validAuditText) "audit subject_id is invalid"
  check (input.requestId.all validAuditText) "audit request_id is invalid"
  check (input.remoteAddressHash.all isDigest) "audit remote address hash is invalid"

def sensitiveDetail : String → Bool :=
  mentions ["password", "secret", "token", "cookie", "private", "credential", "authorization"]

/-- The members of an object in the order of their keys, up to the first that is refused. -/
def collectMembers : List (String × Except Fault (Value ν)) → Except Fault (List (String × Value ν))
  | [] => .ok []
  | (key, value) :: rest => do
    check (!sensitiveDetail key) "audit details contain a sensitive field"
    let v ← value
    let vs ← collectMembers rest
    return (key, v) :: vs

/-- The properties that `output[key] = …` leaves, in their order. -/
def ownProperties (members : List (String × Value ν)) : List (String × Value ν) :=
  propertyOrder (members.filter fun m => m.1 ≠ "__proto__")

/-- `depth > 6` -/
def notTooDeep {α : Type} (depth : Nat) (value : Except Fault α) : Except Fault α :=
  if 6 < depth then .error (.error "audit details are too deeply nested") else value

mutual

def canonicalizeAuditValue (depth : Nat) : Unknown ν → Except Fault (Value ν)
  | .null => notTooDeep depth (.ok .null)
  | .str s => notTooDeep depth (.ok (.str s))
  | .bool b => notTooDeep depth (.ok (.bool b))
  | .num x => notTooDeep depth (.ok (.num x))
  | .nonFinite => notTooDeep depth (.error (.error "audit details contain a non-finite number"))
  | .arr items => notTooDeep depth ((canonicalizeItems (depth + 1) items).map .arr)
  | .obj members =>
    notTooDeep depth ((collectMembers (sortedMembers (canonicalizeMembers (depth + 1) members))).map fun ms =>
      .obj (ownProperties ms))
  | .undefined => notTooDeep depth (.error (.error "audit details contain an unsupported value"))
  | .bigint _ => notTooDeep depth (.error (.error "audit details contain an unsupported value"))
  | .function => notTooDeep depth (.error (.error "audit details contain an unsupported value"))

def canonicalizeItems (depth : Nat) : List (Unknown ν) → Except Fault (List (Value ν))
  | [] => .ok []
  | v :: vs => do
    let v ← canonicalizeAuditValue depth v
    let vs ← canonicalizeItems depth vs
    return v :: vs

def canonicalizeMembers (depth : Nat) : List (String × Unknown ν) → List (String × Except Fault (Value ν))
  | [] => []
  | (key, v) :: rest => (key, canonicalizeAuditValue depth v) :: canonicalizeMembers depth rest

end

def maxAuditDetailsBytes : Nat := 8 * 1024

def serializeAuditDetails (details : List (String × Unknown ν)) : Except Fault String := do
  let canonical ← canonicalizeAuditValue 0 (.obj details)
  check ((String.ofList (Json.stringify pf.numbers canonical)).utf8ByteSize ≤ maxAuditDetailsBytes)
    "audit details exceed the allowed size"
  return String.ofList (Json.stringify pf.numbers canonical)

/-- `{ ...details, context_fingerprint }` -/
def withFingerprint (details : List (String × Unknown ν)) (fingerprint : String) : List (String × Unknown ν) :=
  details.filter (fun m => m.1 ≠ "context_fingerprint") ++ [("context_fingerprint", .str fingerprint)]

/-- The trigger `audit_events_linear_chain`. -/
def extendsChain (rows : List AuditEventRow) (previousHash : Option String) : Bool :=
  match rows.getLast? with
  | none => previousHash.isNone
  | some last => previousHash = some last.eventHash

/-- The trigger `audit_chain_state_valid_update`. -/
def validAdvance (rows : List AuditEventRow) (old new : AuditChainState) : Bool :=
  new.eventCount = old.eventCount + 1 && new.lastSequence = some (old.lastSequence.getD 0 + 1) &&
  rows.any fun event => some event.sequence = new.lastSequence && some event.eventHash = new.lastEventHash &&
    event.previousHash = old.lastEventHash

/-- The trigger `audit_events_update_chain_state`: it advances the one row there is. -/
def advanceChainState (row : AuditEventRow) : AuditTx Unit := do
  let old ← orFail (.sqlite "audit chain state was not advanced") (← readWith (·.auditChainState))
  let new : AuditChainState := ⟨old.eventCount + 1, some row.sequence, some row.eventHash⟩
  let rows ← readWith (·.auditEvents)
  require (validAdvance rows old new = true) (.sqlite "audit chain state transition is invalid")
  require (new.checked = true) (.sqlite "CHECK constraint failed: audit_chain_state")
  update fun db => { db with auditChainState := some new }

/-- More rows than a database of SQLite's greatest size can hold. -/
def sqliteMaximumRows : Nat := 20000000000000

/-- `INSERT INTO audit_events`, with the checks, the unique keys and the triggers. -/
def insertAuditEvent (row : AuditEventRow) : AuditTx Unit := do
  let rows ← readWith (·.auditEvents)
  require (rows.length < sqliteMaximumRows) (.sqlite "database or disk is full")
  require (extendsChain rows row.previousHash = true) (.sqlite "audit event must extend the current chain head")
  require (row.checked pf = true) (.sqlite "CHECK constraint failed: audit_events")
  require (∀ r ∈ rows, r.eventId ≠ row.eventId ∧ r.eventHash ≠ row.eventHash ∧
    (row.previousHash.isSome → r.previousHash ≠ row.previousHash)) (.sqlite "UNIQUE constraint failed: audit_events")
  update fun db => { db with auditEvents := db.auditEvents ++ [row], sqliteSequence := row.sequence }
  advanceChainState row

def insertAuditEventContext (row : AuditEventContextRow) : AuditTx Unit := do
  let db ← readWith id
  require (row.checked pf = true) (.sqlite "CHECK constraint failed: audit_event_context")
  require (∀ r ∈ db.auditEventContext, r.eventId ≠ row.eventId)
    (.sqlite "UNIQUE constraint failed: audit_event_context.event_id")
  require (∃ r ∈ db.auditEvents, r.eventId = row.eventId) (.sqlite "FOREIGN KEY constraint failed")
  update fun db => { db with auditEventContext := db.auditEventContext ++ [row] }

/-- A drawn `randomUUID`: 36 characters, hexadecimal digits and hyphens. -/
structure RandomUuid where
  text : String
  canonical : text.toList.length = 36 ∧ ∀ c ∈ text.toList, c.isDigit ∨ ('a' ≤ c ∧ c ≤ 'f') ∨ c = '-'

/-- The form of a UUID, as it is checked of one that is given. -/
theorem canonical_of_all {text : String} (hlength : text.toList.length = 36)
    (hall : (text.toList.all fun c => c.isDigit || ('a' ≤ c && c ≤ 'f') || c = '-') = true) :
    text.toList.length = 36 ∧ ∀ c ∈ text.toList, c.isDigit ∨ ('a' ≤ c ∧ c ≤ 'f') ∨ c = '-' := by
  refine ⟨hlength, fun c hc => ?_⟩
  have h := List.all_eq_true.mp hall c hc
  simpa [or_assoc] using h

/-- What a call of `appendAuditEvent` is given: its input, the scope it runs in, and the UUID it draws. -/
structure AppendCall (ν : Type) where
  input : AuditInput ν
  scope : Option AuditScope
  eventId : RandomUuid

/-- `input.requestId ?? scope?.requestId ?? undefined` -/
def AppendCall.requestId (call : AppendCall ν) : Option String := call.input.requestId.or (call.scope.bind (·.requestId))

/-- The context to serialize, with the request id of the event where it has none of its own. -/
def AppendCall.contextInput (call : AppendCall ν) : AuditContextInput ν :=
  { call.input.context with
    requestId := match call.input.context.requestId with
      | some (some id) => some (some id)
      | _ => call.requestId.map some }

/-- The row to insert. -/
def AppendCall.row (call : AppendCall ν) (sequence : Int) (detailsJson : String) (previousHash : Option String) :
    AuditEventRow :=
  let row : AuditEventRow :=
    { sequence := sequence
      eventId := call.eventId.text
      occurredAt := call.input.occurredAt
      actorType := call.input.actorType.name
      actorId := call.input.actorId
      action := call.input.action
      outcome := call.input.outcome.name
      subjectType := call.input.subjectType
      subjectId := call.input.subjectId
      requestId := call.requestId
      remoteAddressHash := call.input.remoteAddressHash
      detailsJson := detailsJson
      previousHash := previousHash
      eventHash := "" }
  { row with eventHash := calculateAuditEventHash pf row.hashInput }

def contextRow (eventId : String) (context : StoredAuditContext ν) : AuditEventContextRow where
  eventId := eventId
  activityId := context.activityId
  sourceAddress := context.sourceAddress
  userAgent := context.userAgent
  siteId := context.siteId
  siteName := context.siteName
  contextJson := canonicalAuditJson pf (context.json pf)
  contextFingerprint := auditContextFingerprint pf (canonicalAuditJson pf (context.json pf))

/-- `appendAuditEvent` -/
def appendAuditEvent (call : AppendCall ν) : AuditTx Unit := do
  valueOf (validateAuditInput call.input)
  let context ← valueOf (serializeAuditContext pf call.scope call.contextInput)
  let fingerprint := auditContextFingerprint pf (canonicalAuditJson pf (context.json pf))
  let detailsJson ← valueOf (serializeAuditDetails pf (withFingerprint call.input.details fingerprint))
  let db ← readWith id
  insertAuditEvent pf (call.row pf (db.sqliteSequence + 1) detailsJson (db.auditEvents.getLast?.map (·.eventHash)))
  insertAuditEventContext pf (contextRow pf call.eventId.text context)

/-! ## Inspection -/

/-- Where the inspection of the chain stands. -/
structure ChainScan where
  eventCount : Int
  linkViolations : Nat
  hashViolations : Nat
  previousHash : Option String
  lastSequence : Option Int
  deriving DecidableEq, Repr

def linkViolationsOf (eventCount : Int) (previousHash : Option String) (row : AuditEventRow) : Nat :=
  (if !isSafeInt row.sequence || row.sequence ≠ eventCount then 1 else 0) +
  (if row.previousHash ≠ previousHash then 1 else 0)

def hashViolationsOf (row : AuditEventRow) : Nat :=
  if !isSafeInt row.occurredAt || row.occurredAt < 0 then 1
  else if row.eventHash ≠ calculateAuditEventHash pf row.hashInput then 1
  else 0

/-- One round of the loop of `inspectAuditChain`. -/
def scanRow (scan : ChainScan) (row : AuditEventRow) : ChainScan where
  eventCount := scan.eventCount + 1
  linkViolations := scan.linkViolations + linkViolationsOf (scan.eventCount + 1) scan.previousHash row
  hashViolations := scan.hashViolations + hashViolationsOf pf row
  previousHash := some row.eventHash
  lastSequence := if isSafeInt row.sequence then some row.sequence else none

def scanRows (rows : List AuditEventRow) : ChainScan := rows.foldl (scanRow pf) ⟨0, 0, 0, none, none⟩

def inspectAuditAnchor (state : Option AuditChainState) (scan : ChainScan) : Nat :=
  match state with
  | none => 1
  | some row =>
    if row.eventCount = scan.eventCount ∧ row.lastSequence = scan.lastSequence ∧ row.lastEventHash = scan.previousHash
    then 0 else 1

/-- `row[key] === context[key]` -/
def sameText (column : Option String) (member : Option (Value ν)) : Bool :=
  match column, member with
  | none, some .null => true
  | some s, some (.str t) => s = t
  | _, _ => false

/-- An event and its context agree; a text that does not parse, or parses to something else, does not. -/
def contextAgrees (detailsJson : String) (context : Option AuditEventContextRow) : Bool :=
  match context, Json.parse pf.numbers detailsJson.toList with
  | some row, some details =>
    sameText (some row.contextFingerprint) (details.member "context_fingerprint") &&
    row.contextFingerprint = auditContextFingerprint pf row.contextJson &&
    match Json.parse pf.numbers row.contextJson.toList with
    | some context =>
      (match context.member "version" with | some (.num x) => pf.numbers.text x = pf.numbers.text (pf.ofNat 1) | _ => false) &&
      (match context.member "changes" with | some (.arr _) => true | _ => false) &&
      sameText row.activityId (context.member "activity_id") &&
      sameText row.sourceAddress (context.member "source_address") &&
      sameText row.userAgent (context.member "user_agent") &&
      sameText row.siteId (context.member "site_id") &&
      sameText row.siteName (context.member "site_name")
    | none => false
  | _, _ => false

/-- The contexts to check: of each event its own, or none where its details name one. -/
def contextsToCheck (db : AuditDb) : List (String × Option AuditEventContextRow) :=
  db.auditEvents.flatMap fun event =>
    match db.auditEventContext.filter (fun c => c.eventId = event.eventId) with
    | [] =>
      match (Json.parse pf.numbers event.detailsJson.toList).bind (·.member "context_fingerprint") with
      | some _ => [(event.detailsJson, none)]
      | none => []
    | contexts => contexts.map fun c => (event.detailsJson, some c)

def inspectAuditContexts (db : AuditDb) : Nat :=
  ((contextsToCheck pf db).filter fun p => !contextAgrees pf p.1 p.2).length +
  (db.auditEventContext.filter fun c => db.auditEvents.all fun e => e.eventId ≠ c.eventId).length

structure AuditChainIntegrity where
  eventCount : Int
  linkViolations : Nat
  hashViolations : Nat
  anchorViolations : Nat
  violations : Nat
  deriving DecidableEq, Repr

def inspectAuditChain (db : AuditDb) : AuditChainIntegrity :=
  let scan := scanRows pf db.auditEvents
  let anchorViolations := inspectAuditAnchor db.auditChainState scan
  let hashViolations := scan.hashViolations + inspectAuditContexts pf db
  ⟨scan.eventCount, scan.linkViolations, hashViolations, anchorViolations,
    scan.linkViolations + hashViolations + anchorViolations⟩

end PerPay.Audit
