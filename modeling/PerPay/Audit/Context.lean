/-
  **The context of an audit event** (`audit/context.ts`) — who acted, from where, on which site, and
  what changed.

  A context is made of texts that were trimmed and bounded, and of changes whose values were made
  safe: sensitive fields only say whether they were set, addresses lose what is private in them, deep
  values are cut.  It is stored as canonical JSON, with its keys sorted; a context that is too long is
  stored with summaries in place of its longest values.

  Values of JavaScript that are no JSON appear on the way in (`Unknown`).  What Node computes, the hash,
  the normal form of an address, and how numbers are written, is `AuditPlatform`.
-/
import Mathlib.Data.List.Infix
import Mathlib.Data.List.Sort
import Mathlib.Data.String.Basic
import PerPay.Ledger.Texts
import PerPay.Lib.JsonValue

namespace PerPay.Audit

open Json (Value NumberFormat)
open Ledger (trim utf16Length)

/-- `/^[0-9a-f]{64}$/` -/
def isDigest (text : String) : Bool :=
  text.toList.length = 64 && text.toList.all fun c => c.isDigit || ('a' ≤ c && c ≤ 'f')

/-- What Node computes for the audit trail.  `ν` is the type of finite numbers. -/
structure AuditPlatform (ν : Type) where
  /-- `createHash("sha256").update(text, "utf8").digest("hex")` -/
  sha256 : String → String
  sha256_digest : ∀ text, isDigest (sha256 text) = true
  /-- `normalizeIpAddress` -/
  normalizeIpAddress : String → Option String
  /-- `new URL(value)` without user, password, query and fragment; nothing when it does not parse -/
  publicUrl : String → Option String
  numbers : NumberFormat ν
  ofNat : Nat → ν

/-- A value of JavaScript. -/
inductive Unknown (ν : Type)
  | undefined
  | null
  | bool (b : Bool)
  | num (x : ν)
  | nonFinite
  | bigint (n : Int)
  | str (s : String)
  | arr (items : List (Unknown ν))
  | obj (members : List (String × Unknown ν))
  | function

/-! ## Texts -/

/-- `\p{Cc}` -/
def isControl (c : Char) : Bool := c.toNat < 0x20 || (0x7F ≤ c.toNat && c.toNat ≤ 0x9F)

/-- `value.slice(0, units)`; the half of a pair that a cut leaves is written as U+FFFD. -/
def utf16Take : Nat → List Char → List Char
  | _, [] => []
  | 0, _ => []
  | n + 1, c :: cs =>
    if c.toNat < 0x10000 then c :: utf16Take n cs
    else if n = 0 then ['\uFFFD'] else c :: utf16Take (n - 1) cs

/-- `value || null` -/
def textOrNull (value : String) : Option String := if value = "" then none else some value

def boundedText (value : Option String) (maximum : Nat) : Option String :=
  match value with
  | none => none
  | some text =>
    if text.toList.any isControl then none
    else textOrNull (String.ofList (utf16Take maximum (trim text).toList))

def normalizeAuditUserAgent (value : Option String) : Option String :=
  match value with
  | none => none
  | some text => if text.toList.any isControl ∨ 1024 < text.utf8ByteSize then none else textOrNull (trim text)

def normalizeAuditAddress {ν : Type} (pf : AuditPlatform ν) (value : Option String) : Option String :=
  value.bind pf.normalizeIpAddress

/-- A word that a text contains, whatever the case of its letters. -/
def mentions (words : List String) (text : String) : Bool :=
  words.any fun word => decide (word.toList <:+: text.toList.map Char.toLower)

def sensitiveField : String → Bool :=
  mentions ["password", "secret", "token", "cookie", "private", "credential", "authorization", "signature",
    "codepayload", "code_payload", "code-payload", "collectioncode", "collection_code", "collection-code",
    "publickey", "public_key", "public-key"]

/-! ## The order of keys -/

def utf16Units (text : String) : List Nat :=
  text.toList.flatMap fun c =>
    if c.toNat < 0x10000 then [c.toNat]
    else [0xD800 + (c.toNat - 0x10000) / 0x400, 0xDC00 + (c.toNat - 0x10000) % 0x400]

/-- The order of `Array.prototype.sort` on texts: by UTF-16 code units. -/
def unitsLe : List Nat → List Nat → Bool
  | [], _ => true
  | _ :: _, [] => false
  | a :: as, b :: bs => a < b || (a = b && unitsLe as bs)

/-- The array index that a key spells, if it spells one. -/
def arrayIndex (key : String) : Option Nat :=
  (Json.decimal.read key.toList).filter fun n => n < 4294967295

/-- The order in which an object made by setting these properties lists them: first the array indexes,
    by number, then the others as they were set. -/
def propertyOrder {α : Type} (members : List (String × α)) : List (String × α) :=
  (members.filter fun m => (arrayIndex m.1).isSome).insertionSort
    (fun a b => (arrayIndex a.1).getD 0 ≤ (arrayIndex b.1).getD 0) ++
  members.filter fun m => (arrayIndex m.1).isNone

def sortedMembers {α : Type} (members : List (String × α)) : List (String × α) :=
  members.insertionSort fun a b => unitsLe (utf16Units a.1) (utf16Units b.1) = true

mutual

/-- The value that `canonicalAuditJson` stringifies. -/
def sortKeys {ν : Type} : Value ν → Value ν
  | .arr items => .arr (sortItems items)
  | .obj members => .obj (propertyOrder (sortedMembers (sortEntries members)))
  | value => value

def sortItems {ν : Type} : List (Value ν) → List (Value ν)
  | [] => []
  | v :: vs => sortKeys v :: sortItems vs

def sortEntries {ν : Type} : List (String × Value ν) → List (String × Value ν)
  | [] => []
  | (key, v) :: rest => (key, sortKeys v) :: sortEntries rest

end

variable {ν : Type} (pf : AuditPlatform ν)

def canonicalAuditJson (value : Value ν) : String := String.ofList (Json.stringify pf.numbers (sortKeys value))

def auditContextFingerprint (json : String) : String := pf.sha256 ("perpay-audit-context-v1\x00" ++ json)

/-! ## Changes -/

/-- `configured` -/
def configured : Unknown ν → Bool
  | .undefined | .null | .bool false => false
  | .str s => s ≠ ""
  | _ => true

mutual

def safeValue (field : String) (depth : Nat) : Unknown ν → Value ν
  | .undefined | .null | .nonFinite => .null
  | .bool b => .bool b
  | .num x => .num x
  | .bigint n => .str (toString n)
  | .str s =>
    if mentions ["url", "origin"] field then .str ((pf.publicUrl s).getD "[地址不可用]") else .str s
  | .arr items => if 8 ≤ depth then .str "[嵌套内容省略]" else .arr (safeItems field (depth + 1) items)
  | .obj members => if 8 ≤ depth then .str "[嵌套内容省略]" else .obj (propertyOrder (safeEntries (depth + 1) members))
  | .function => if 8 ≤ depth then .str "[嵌套内容省略]" else .null

def safeItems (field : String) (depth : Nat) : List (Unknown ν) → List (Value ν)
  | [] => []
  | v :: vs => safeValue field depth v :: safeItems field depth vs

def safeEntries (depth : Nat) : List (String × Unknown ν) → List (String × Value ν)
  | [] => []
  | (key, v) :: rest =>
    if sensitiveField key ∨ key ∈ ["__proto__", "constructor", "prototype"] then safeEntries depth rest
    else (key, safeValue key depth v) :: safeEntries depth rest

end

inductive AuditChangeKind
  | value | redacted_change
  deriving DecidableEq, Repr

/-- A change as it is reported; a flag that is absent is worked out from the value. -/
structure AuditChange (ν : Type) where
  field : String
  kind : AuditChangeKind
  before : Unknown ν
  after : Unknown ν
  configuredBefore : Option Bool
  configuredAfter : Option Bool

/-- A change as it is stored. -/
inductive StoredChange (ν : Type)
  | value (field : String) (before after : Value ν)
  | redacted (field : String) (before after : Bool)

def storeChange (change : AuditChange ν) : StoredChange ν :=
  if change.kind = .redacted_change ∨ sensitiveField change.field then
    .redacted change.field (change.configuredBefore.getD (configured change.before))
      (change.configuredAfter.getD (configured change.after))
  else .value change.field (safeValue pf change.field 0 change.before) (safeValue pf change.field 0 change.after)

def StoredChange.json : StoredChange ν → Value ν
  | .value field before after =>
    .obj [("field", .str field), ("kind", .str "value"), ("before", before), ("after", after)]
  | .redacted field before after =>
    .obj [("field", .str field), ("kind", .str "redacted_change"), ("configured_before", .bool before),
      ("configured_after", .bool after)]

def summarizeValue (value : Value ν) : Value ν :=
  let json := canonicalAuditJson pf value
  if json.utf8ByteSize ≤ 512 then value
  else .obj [("truncated", .bool true),
    ("preview", .str (String.ofList ((match value with | .str s => s | _ => json).toList.take 128))),
    ("bytes", .num (pf.ofNat json.utf8ByteSize)), ("sha256", .str (pf.sha256 json))]

def StoredChange.summarize : StoredChange ν → StoredChange ν
  | .value field before after => .value field (summarizeValue pf before) (summarizeValue pf after)
  | change => change

/-- `item.preview = ""` on a summary. -/
def clearPreview : Value ν → Value ν
  | .obj members =>
    match (Value.obj members).member "truncated" with
    | some (.bool true) =>
      if members.any fun m => m.1 = "preview" then
        .obj (members.map fun m => if m.1 = "preview" then ("preview", .str "") else m)
      else .obj (members ++ [("preview", .str "")])
    | _ => .obj members
  | value => value

def StoredChange.clear : StoredChange ν → StoredChange ν
  | .value field before after => .value field (clearPreview before) (clearPreview after)
  | change => change

/-! ## Contexts -/

inductive AuditActorType
  | SYSTEM | ANONYMOUS | ADMIN | API_CLIENT
  deriving DecidableEq, Repr

def AuditActorType.name : AuditActorType → String
  | .SYSTEM => "SYSTEM"
  | .ANONYMOUS => "ANONYMOUS"
  | .ADMIN => "ADMIN"
  | .API_CLIENT => "API_CLIENT"

/-- The scope of a request or a job.  `createAuditContext` makes it; only its site is set later. -/
structure AuditScope where
  activityId : String
  requestId : Option String
  sourceAddress : Option String
  userAgent : Option String
  siteId : Option String
  siteName : Option String
  bounded : ∃ text, requestId = boundedText text 128

/-- What a caller adds to the context: `none` where a field is not given, `some none` where it is null. -/
structure AuditContextInput (ν : Type) where
  activityId : Option (Option String)
  requestId : Option (Option String)
  sourceAddress : Option (Option String)
  userAgent : Option (Option String)
  siteId : Option (Option String)
  siteName : Option (Option String)
  changes : List (AuditChange ν)

def createAuditContext (activityId : String) (requestId sourceAddress userAgent siteId siteName : Option String) :
    AuditScope where
  activityId := activityId
  requestId := boundedText requestId 128
  sourceAddress := normalizeAuditAddress pf sourceAddress
  userAgent := normalizeAuditUserAgent userAgent
  siteId := boundedText siteId 128
  siteName := boundedText siteName 256
  bounded := ⟨requestId, rfl⟩

structure StoredAuditContext (ν : Type) where
  activityId : Option String
  requestId : Option String
  sourceAddress : Option String
  userAgent : Option String
  siteId : Option String
  siteName : Option String
  changes : List (StoredChange ν)

def nullable : Option String → Value ν
  | none => .null
  | some text => .str text

def StoredAuditContext.members (c : StoredAuditContext ν) : List (String × Value ν) :=
  [("version", .num (pf.ofNat 1)), ("activity_id", nullable c.activityId), ("request_id", nullable c.requestId),
    ("source_address", nullable c.sourceAddress), ("user_agent", nullable c.userAgent),
    ("site_id", nullable c.siteId), ("site_name", nullable c.siteName),
    ("changes", .arr (c.changes.map StoredChange.json))]

def StoredAuditContext.json (c : StoredAuditContext ν) : Value ν := .obj (c.members pf)

def maxAuditContextBytes : Nat := 64 * 1024

/-- `specified === undefined ? inherited : specified` -/
def choose (specified : Option (Option String)) (inherited : Option String) : Option String :=
  specified.getD inherited

def storedAuditContext (scope : Option AuditScope) (input : AuditContextInput ν) : StoredAuditContext ν where
  activityId := boundedText (choose input.activityId (scope.map (·.activityId))) 128
  requestId := boundedText (choose input.requestId (scope.bind (·.requestId))) 128
  sourceAddress := normalizeAuditAddress pf (choose input.sourceAddress (scope.bind (·.sourceAddress)))
  userAgent := normalizeAuditUserAgent (choose input.userAgent (scope.bind (·.userAgent)))
  siteId := boundedText (choose input.siteId (scope.bind (·.siteId))) 128
  siteName := boundedText (choose input.siteName (scope.bind (·.siteName))) 256
  changes := input.changes.map (storeChange pf)

def StoredAuditContext.fits (c : StoredAuditContext ν) : Bool :=
  (canonicalAuditJson pf (c.json pf)).utf8ByteSize ≤ maxAuditContextBytes

/-- The context to store: whole, with summaries, or with empty summaries. -/
def serializeAuditContext (scope : Option AuditScope) (input : AuditContextInput ν) :
    Except Fault (StoredAuditContext ν) :=
  let value := storedAuditContext pf scope input
  let compact := { value with changes := value.changes.map (StoredChange.summarize pf) }
  let cleared := { compact with changes := compact.changes.map StoredChange.clear }
  if value.fits pf then .ok value
  else if compact.fits pf then .ok compact
  else if cleared.fits pf then .ok cleared
  else .error (.error "audit context field paths exceed the allowed size")

end PerPay.Audit
