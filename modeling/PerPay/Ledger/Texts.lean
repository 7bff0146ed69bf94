/-
  **The texts of the ledger** — how a provider's texts become facts, and facts become texts
  (`ledger/model.ts`).

  * `trim`, `boundedString` — the normal form of a field;
  * `parseOccurredAtWithPrecision`, `parseAmountCents`, `parseDirection` — the three parsed facts, each
    with the errors of the source;
  * `formatProviderTimestamp`, `validateWindow`, `splitLedgerWindow`, `rewindProviderWindowStart` — the
    provider timestamps that bound a scan;
  * the fingerprints.

  A text is a sequence of Unicode characters; lone surrogates, which a JavaScript string may hold,
  are left out.  The regular expressions are read left to right: each group has only one way to
  match, so no backtracking is lost.
-/
import PerPay.Lib.Calendar
import PerPay.Lib.Digits
import PerPay.Lib.Json
import PerPay.Lib.Tx
import PerPay.Orders.Model

namespace PerPay.Ledger

/-! ## Fields -/

/-- The characters `String.prototype.trim` removes. -/
def isWhitespace (c : Char) : Bool :=
  c.toNat ∈ [0x09, 0x0A, 0x0B, 0x0C, 0x0D, 0x20, 0xA0, 0x1680, 0x2028, 0x2029, 0x202F, 0x205F, 0x3000, 0xFEFF]
    || (0x2000 ≤ c.toNat && c.toNat ≤ 0x200A)

def trim (value : String) : String :=
  String.ofList ((value.toList.dropWhile isWhitespace).reverse.dropWhile isWhitespace).reverse

/-- `value.length`: UTF-16 code units. -/
def utf16Length (value : String) : Nat :=
  (value.toList.map fun c => if c.toNat < 0x10000 then 1 else 2).sum

def boundedString (value : Option String) (maximum : Nat) : Option String := do
  let trimmed := trim (← value)
  if utf16Length trimmed < 1 ∨ maximum < utf16Length trimmed ∨ '\x00' ∈ trimmed.toList then none
  else some trimmed

def invalidBoundedValue (original normalized : Option String) : Bool :=
  original.isSome && normalized.isNone

/-! ## Normalization errors -/

inductive LedgerConflictType
  | RAW_PAGE_VARIANT | DUPLICATE_EXTERNAL_ID | MISSING_EXTERNAL_ID | INVALID_AMOUNT
  | INVALID_TIMESTAMP | INVALID_DIRECTION | INVALID_SHAPE
  deriving DecidableEq, Repr

def LedgerConflictType.name : LedgerConflictType → String
  | .RAW_PAGE_VARIANT => "RAW_PAGE_VARIANT"
  | .DUPLICATE_EXTERNAL_ID => "DUPLICATE_EXTERNAL_ID"
  | .MISSING_EXTERNAL_ID => "MISSING_EXTERNAL_ID"
  | .INVALID_AMOUNT => "INVALID_AMOUNT"
  | .INVALID_TIMESTAMP => "INVALID_TIMESTAMP"
  | .INVALID_DIRECTION => "INVALID_DIRECTION"
  | .INVALID_SHAPE => "INVALID_SHAPE"

/-- `LedgerNormalizationError`. -/
structure NormalizationError where
  code : LedgerConflictType
  message : String
  deriving DecidableEq, Repr

/-! ## Amounts -/

/-- The optional sign in front of an amount; it does not count. -/
def dropSign : List Char → List Char
  | '+' :: cs => cs
  | '-' :: cs => cs
  | cs => cs

/-- `(?:\.([0-9]{1,2}))?$`, padded to two digits. -/
def readCents : List Char → Option Nat
  | [] => some 0
  | ['.', a] => (Digits.digitValue a).map (· * 10)
  | ['.', a, b] => do return (← Digits.digitValue a) * 10 + (← Digits.digitValue b)
  | _ => none

/-- `^[+-]?(0|[1-9][0-9]{0,11})(?:\.([0-9]{1,2}))?$`, as cents. -/
def readAmount (text : List Char) : Option Nat := do
  let whole := (dropSign text).takeWhile Char.isDigit
  let rest := (dropSign text).dropWhile Char.isDigit
  if whole = ['0'] ∨ (1 ≤ whole.length ∧ whole.length ≤ 12 ∧ whole.head? ≠ some '0') then
    return Nat.ofDigitChars 10 whole 0 * 100 + (← readCents rest)
  else none

def parseAmountCents (value : Option String) : Except NormalizationError Nat :=
  match value with
  | none => .error ⟨.INVALID_AMOUNT, "amount is missing"⟩
  | some text =>
    match readAmount (trim text).toList with
    | none => .error ⟨.INVALID_AMOUNT, "amount is not a supported CNY decimal"⟩
    | some cents =>
      if !isSafeInteger cents || cents < 1 || 999_999_999_999 < cents then
        .error ⟨.INVALID_AMOUNT, "amount is outside the supported range"⟩
      else .ok cents

theorem parseAmountCents_code {value : Option String} {e : NormalizationError}
    (h : parseAmountCents value = .error e) : e.code = .INVALID_AMOUNT := by
  unfold parseAmountCents at h
  split at h
  · cases h; rfl
  split at h
  · cases h; rfl
  split at h
  · cases h; rfl
  · cases h

/-! ## Directions -/

inductive LedgerDirection
  | CREDIT | DEBIT
  deriving DecidableEq, Repr

def LedgerDirection.name : LedgerDirection → String
  | .CREDIT => "CREDIT"
  | .DEBIT => "DEBIT"

/-- `toUpperCase` on the characters whose upper case is ASCII.  The upper case of every other
    character keeps a character that no listed direction contains, as the character itself does. -/
def upperCase (c : Char) : List Char :=
  match c.toNat with
  | 0x131 => ['I']
  | 0x17F => ['S']
  | 0xDF => ['S', 'S']
  | 0xFB00 => ['F', 'F']
  | 0xFB01 => ['F', 'I']
  | 0xFB02 => ['F', 'L']
  | 0xFB03 => ['F', 'F', 'I']
  | 0xFB04 => ['F', 'F', 'L']
  | 0xFB05 => ['S', 'T']
  | 0xFB06 => ['S', 'T']
  | _ => [c.toUpper]

def toUpperCase (value : String) : String := String.ofList (value.toList.flatMap upperCase)

def parseDirection (value : Option String) : Except NormalizationError LedgerDirection :=
  match value with
  | none => .error ⟨.INVALID_DIRECTION, "direction is missing"⟩
  | some text =>
    let normalized := toUpperCase (trim text)
    if normalized ∈ ["CREDIT", "IN", "INCOME", "RECEIVE", "RECEIVED", "收入", "收款", "转入"] then .ok .CREDIT
    else if normalized ∈ ["DEBIT", "OUT", "EXPENSE", "PAY", "PAID", "支出", "付款", "转出"] then .ok .DEBIT
    else .error ⟨.INVALID_DIRECTION, "direction is invalid"⟩

theorem parseDirection_code {value : Option String} {e : NormalizationError}
    (h : parseDirection value = .error e) : e.code = .INVALID_DIRECTION := by
  unfold parseDirection at h
  split at h
  · cases h; rfl
  dsimp only at h
  split at h
  · cases h
  split at h
  · cases h
  · cases h; rfl

/-! ## Timestamps -/

/-- The offset of a zoned timestamp. -/
inductive Offset
  | utc
  | signed (negative : Bool) (hour minute : Nat)
  deriving DecidableEq, Repr

/-- The groups of the timestamp expressions; a local timestamp has no offset. -/
structure TimestampParts where
  year : Nat
  month : Nat
  day : Nat
  hour : Nat
  minute : Nat
  second : Nat
  fraction : Option (List Char)
  offset : Option Offset
  deriving DecidableEq, Repr

def readChar (c : Char) : List Char → Option (List Char)
  | [] => none
  | d :: cs => if d = c then some cs else none

/-- `(?:\.(\d{1,3}))?` -/
def readFraction : List Char → Option (Option (List Char) × List Char)
  | '.' :: cs =>
    let digits := cs.takeWhile Char.isDigit
    if 1 ≤ digits.length ∧ digits.length ≤ 3 then some (some digits, cs.dropWhile Char.isDigit) else none
  | cs => some (none, cs)

/-- Nothing, or `(Z|[+-]\d{2}:\d{2})`, up to the end of the text. -/
def readOffset : List Char → Option (Option Offset)
  | [] => some none
  | ['Z'] => some (some .utc)
  | sign :: cs => do
    if sign ≠ '+' ∧ sign ≠ '-' then none
    let (hour, cs) ← Digits.readDigits 2 cs
    let cs ← readChar ':' cs
    let (minute, cs) ← Digits.readDigits 2 cs
    if cs = [] then some (some (.signed (sign = '-') hour minute)) else none

/-- The `local` and the `zoned` expression at once: a zoned timestamp has a `T`, a local one a blank
    or a `T`. -/
def readTimestamp (text : List Char) : Option TimestampParts := do
  let (year, cs) ← Digits.readDigits 4 text
  let cs ← readChar '-' cs
  let (month, cs) ← Digits.readDigits 2 cs
  let cs ← readChar '-' cs
  let (day, cs) ← Digits.readDigits 2 cs
  let (separator, cs) ← match cs with
    | ' ' :: cs => some (' ', cs)
    | 'T' :: cs => some ('T', cs)
    | _ => none
  let (hour, cs) ← Digits.readDigits 2 cs
  let cs ← readChar ':' cs
  let (minute, cs) ← Digits.readDigits 2 cs
  let cs ← readChar ':' cs
  let (second, cs) ← Digits.readDigits 2 cs
  let (fraction, cs) ← readFraction cs
  let offset ← readOffset cs
  if offset.isSome ∧ separator ≠ 'T' then none
  else some { year, month, day, hour, minute, second, fraction, offset }

/-- `Number((fractionText ?? "").padEnd(3, "0"))` -/
def fractionMilliseconds (fraction : Option (List Char)) : Nat :=
  let digits := fraction.getD []
  Nat.ofDigitChars 10 (digits ++ List.replicate (3 - digits.length) '0') 0

def precisionFromFraction : Option (List Char) → Nat
  | none => 1_000
  | some digits => if digits.length = 1 then 100 else if digits.length = 2 then 10 else 1

/-- `Date.UTC` reads the years 0 to 99 as 1900 to 1999. -/
def utcDay (p : TimestampParts) : Int :=
  Calendar.dayOf ⟨if p.year ≤ 99 then 1900 + p.year else p.year, p.month, p.day⟩

/-- The checks on the parts: a local timestamp is of this century, and the date must be the one
    `Date.UTC` keeps. -/
def TimestampParts.invalid (p : TimestampParts) : Bool :=
  (p.offset.isNone && p.year < 2000) || p.month < 1 || 12 < p.month || 23 < p.hour || 59 < p.minute ||
    59 < p.second || Calendar.civil (utcDay p) ≠ ⟨p.year, p.month, p.day⟩

/-- Timestamps without an offset are in China Standard Time. -/
def offsetMinutes : Option Offset → Except NormalizationError Int
  | none => .ok (8 * 60)
  | some .utc => .ok 0
  | some (.signed negative hour minute) =>
    if 23 < hour ∨ 59 < minute then .error ⟨.INVALID_TIMESTAMP, "occurred time offset is invalid"⟩
    else .ok (if negative then -(hour * 60 + minute) else hour * 60 + minute)

structure ParsedOccurredAt where
  milliseconds : Nat
  precisionMilliseconds : Nat
  deriving DecidableEq, Repr

/-- The parts as a time, once their offset is known. -/
def occurredAtOf (p : TimestampParts) (offset : Int) : Except NormalizationError ParsedOccurredAt :=
  let milliseconds : Int := utcDay p * 86_400_000 + p.hour * 3_600_000 + p.minute * 60_000 +
    p.second * 1_000 + fractionMilliseconds p.fraction - offset * 60_000
  let precisionMilliseconds := precisionFromFraction p.fraction
  if milliseconds < 0 ∨ !isSafeInteger (milliseconds.toNat + precisionMilliseconds) then
    .error ⟨.INVALID_TIMESTAMP, "occurred time is invalid"⟩
  else .ok ⟨milliseconds.toNat, precisionMilliseconds⟩

def parseOccurredAtWithPrecision (value : Option String) : Except NormalizationError ParsedOccurredAt :=
  match value with
  | none => .error ⟨.INVALID_TIMESTAMP, "occurred time is missing"⟩
  | some text =>
    if (trim text).toList = [] then .error ⟨.INVALID_TIMESTAMP, "occurred time is missing"⟩
    else
      match readTimestamp (trim text).toList with
      | none => .error ⟨.INVALID_TIMESTAMP, "occurred time is invalid"⟩
      | some p =>
        if p.invalid then .error ⟨.INVALID_TIMESTAMP, "occurred time is invalid"⟩
        else do
          let offset ← offsetMinutes p.offset
          occurredAtOf p offset

theorem offsetMinutes_code {offset : Option Offset} {e : NormalizationError}
    (h : offsetMinutes offset = .error e) : e.code = .INVALID_TIMESTAMP := by
  unfold offsetMinutes at h
  split at h
  · cases h
  · cases h
  · split at h
    · cases h; rfl
    · cases h

theorem occurredAtOf_code {p : TimestampParts} {offset : Int} {e : NormalizationError}
    (h : occurredAtOf p offset = .error e) : e.code = .INVALID_TIMESTAMP := by
  unfold occurredAtOf at h
  dsimp only at h
  split at h
  · cases h; rfl
  · cases h

theorem parseOccurredAtWithPrecision_code {value : Option String} {e : NormalizationError}
    (h : parseOccurredAtWithPrecision value = .error e) : e.code = .INVALID_TIMESTAMP := by
  unfold parseOccurredAtWithPrecision at h
  split at h
  · cases h; rfl
  split at h
  · cases h; rfl
  split at h
  · cases h; rfl
  split at h
  · cases h; rfl
  rcases Txn.except_bind_error.mp h with ho | ⟨offset, -, ho⟩
  · exact offsetMinutes_code ho
  · exact occurredAtOf_code ho

def parseOccurredAt (value : Option String) : Except NormalizationError Nat := do
  return (← parseOccurredAtWithPrecision value).milliseconds

/-- The last time value a `Date` can hold. -/
def maxTimeValue : Nat := 8_640_000_000_000_000

/-- `YYYY-MM-DD HH:mm:ss` in China Standard Time, truncated to the second. -/
def formatChinaTime (milliseconds : Nat) : String :=
  let time := milliseconds + 8 * 60 * 60 * 1_000
  if maxTimeValue < time then "NaN-NaN-NaN NaN:NaN:NaN"
  else
    let seconds := time / 1_000
    let date := Calendar.civil (seconds / 86_400 : Nat)
    String.ofList <|
      Json.natText date.year.toNat ++ '-' :: Digits.pad 2 date.month ++ '-' :: Digits.pad 2 date.day ++
        ' ' :: Digits.pad 2 (seconds / 3_600 % 24) ++ ':' :: Digits.pad 2 (seconds / 60 % 60) ++
        ':' :: Digits.pad 2 (seconds % 60)

def formatProviderTimestamp (milliseconds : Nat) : Except Fault String :=
  if !isSafeInteger milliseconds || milliseconds % 1_000 ≠ 0 then
    .error (.rangeError "provider timestamp is invalid")
  else .ok (formatChinaTime milliseconds)

/-! ## Windows -/

structure LedgerWindow where
  start : String
  end_ : String
  deriving DecidableEq, Repr

/-- `^\d{4}-\d{2}-\d{2} \d{2}:\d{2}:\d{2}$` -/
def hasProviderShape (value : String) : Bool :=
  let cs := value.toList
  cs.length = 19 &&
    (List.range 19).all fun i =>
      let c := cs.getD i '\x00'
      if i = 4 ∨ i = 7 then c = '-' else if i = 10 then c = ' ' else if i = 13 ∨ i = 16 then c = ':'
      else c.isDigit

def isProviderTimestamp (value : String) : Bool :=
  hasProviderShape value &&
    (match parseOccurredAt (some value) with
     | .ok _ => true
     | .error _ => false)

def validateWindow (window : LedgerWindow) : Except Fault Unit :=
  if !isProviderTimestamp window.start || !isProviderTimestamp window.end_ then
    .error (.rangeError "ledger window is invalid")
  else if window.end_ ≤ window.start then
    .error (.rangeError "ledger window start must be earlier than its end")
  else .ok ()

/-- A normalization error that no caller catches. -/
def thrown {α : Type} : Except NormalizationError α → Except Fault α
  | .ok a => .ok a
  | .error e => .error (.normalizationError e.code.name e.message)

structure WindowSplit where
  splitAt : String
  left : LedgerWindow
  right : LedgerWindow
  deriving DecidableEq, Repr

def splitLedgerWindow (window : LedgerWindow) : Except Fault (Option WindowSplit) := do
  validateWindow window
  let start ← thrown (parseOccurredAt (some window.start))
  let end_ ← thrown (parseOccurredAt (some window.end_))
  -- the difference is compared in JavaScript numbers, where it may be negative
  if end_ ≤ start + 1_000 then return none
  else
    let midpoint := (start + end_) / 2_000 * 1_000
    if midpoint ≤ start ∨ end_ ≤ midpoint then return none
    else
      let splitAt ← formatProviderTimestamp midpoint
      return some ⟨splitAt, ⟨window.start, splitAt⟩, ⟨splitAt, window.end_⟩⟩

/-- The halves of a split meet at the point of the split, and span the window. -/
theorem splitLedgerWindow_some {window : LedgerWindow} {split : WindowSplit}
    (h : splitLedgerWindow window = .ok (some split)) :
    split.left = ⟨window.start, split.splitAt⟩ ∧ split.right = ⟨split.splitAt, window.end_⟩ := by
  simp only [splitLedgerWindow, Txn.except_bind_ok] at h
  obtain ⟨_, -, start, -, end_, -, h⟩ := h
  split at h
  · cases h
  split at h
  · cases h
  obtain ⟨splitAt, -, h⟩ := Txn.except_bind_ok.mp h
  cases h
  exact ⟨rfl, rfl⟩

def ledgerCursorDefaultOverlapMilliseconds : Nat := 5 * 60 * 1000
def ledgerCursorMaxOverlapMilliseconds : Nat := 7 * 24 * 60 * 60 * 1000
def ledgerMaxPageSize : Nat := 2_000
def ledgerMaxRawPageBytes : Nat := 2 * 1024 * 1024
def ledgerMaxRawEventBytes : Nat := 512 * 1024

def validatePageSize (pageSize : Nat) : Except Fault Unit :=
  if pageSize < 1 ∨ ledgerMaxPageSize < pageSize then .error (.rangeError "ledger page size is invalid")
  else .ok ()

def validateOverlapMilliseconds (overlap : Nat) : Except Fault Unit :=
  if ledgerCursorMaxOverlapMilliseconds < overlap then .error (.rangeError "ledger overlap is invalid")
  else .ok ()

/-- The lower bound of a compensating overlap scan; it never precedes the epoch. -/
def rewindProviderWindowStart (windowStart : String) (overlapMilliseconds : Nat)
    (lastEventOccurredAt : Option Nat) : Except Fault String := do
  validateOverlapMilliseconds overlapMilliseconds
  let start ← thrown (parseOccurredAt (some windowStart))
  let pivot := lastEventOccurredAt.getD start
  if !isSafeInteger pivot then throw (.rangeError "ledger overlap pivot is invalid")
  return formatChinaTime (pivot - overlapMilliseconds)

/-- `^[A-Za-z0-9][A-Za-z0-9._:-]{0,127}$` -/
def validProviderAccountKey (account : String) : Bool :=
  match account.toList with
  | [] => false
  | c :: cs => c.isAlphanum && cs.length ≤ 127 && cs.all fun d => d.isAlphanum || d ∈ ['.', '_', ':', '-']

def normalizeProviderAccountKey (value : Option String) : Except Fault String :=
  let account := value.getD "primary"
  if validProviderAccountKey account then .ok account
  else .error (.rangeError "provider account key is invalid")

/-! ## Fingerprints -/

/-- A text or `null` in a JSON array. -/
def scalarOfText : Option String → Json.Scalar
  | none => .null
  | some s => .text s.toList

section
variable (sha256 : String → String)

/-- `sha256(JSON.stringify([…]))` -/
def hashArray (parts : List Json.Scalar) : String := sha256 (String.ofList (Json.arrayText parts))

def requestFingerprint (providerAccountKey windowStart windowEnd : String) (pageNo pageSize : Nat) : String :=
  hashArray sha256 [.text "perpay:ledger-request:v1".toList, .text providerAccountKey.toList,
    .text windowStart.toList, .text windowEnd.toList, .num pageNo, .num pageSize]

def conflictFingerprint (parts : List Json.Scalar) : String :=
  hashArray sha256 (.text "perpay:ledger-conflict:v1".toList :: parts)

/-- The facts of an event in their normal form; the currency is always `CNY`. -/
structure SemanticFacts where
  externalEventId : String
  occurredAt : Nat
  occurredAtPrecisionMilliseconds : Nat
  amountCents : Nat
  direction : LedgerDirection
  alipayOrderNo : Option String
  merchantOrderNo : Option String
  transMemo : Option String
  otherAccount : Option String
  deriving DecidableEq, Repr

def semanticFingerprint (facts : SemanticFacts) : String :=
  hashArray sha256 [.text "perpay:ledger-semantic:v2".toList, .text facts.externalEventId.toList,
    .num facts.occurredAt, .num facts.occurredAtPrecisionMilliseconds, .num facts.amountCents,
    .text facts.direction.name.toList, .text "CNY".toList, scalarOfText facts.alipayOrderNo,
    scalarOfText facts.merchantOrderNo, scalarOfText facts.transMemo, scalarOfText facts.otherAccount]

structure PageVariantConflictEvidence where
  requestFingerprint : String
  ingestSegmentId : String
  previousObservationSequence : Nat
  existingRawPageId : String
  existingResponseFingerprint : String
  incomingRawPageId : String
  incomingResponseFingerprint : String
  deriving DecidableEq, Repr

def pageVariantConflictFingerprintParts (evidence : PageVariantConflictEvidence) : List Json.Scalar :=
  [.text "RAW_PAGE_VARIANT".toList, .text evidence.requestFingerprint.toList,
    .text evidence.ingestSegmentId.toList, .num evidence.previousObservationSequence,
    .text evidence.existingRawPageId.toList, .text evidence.existingResponseFingerprint.toList,
    .text evidence.incomingRawPageId.toList, .text evidence.incomingResponseFingerprint.toList]

end

/-! ## Equal fingerprints have equal parts -/

section
variable {sha256 : String → String}

theorem hashArray_injective (hsha : Function.Injective sha256) :
    Function.Injective (hashArray sha256) :=
  fun _ _ h => Json.arrayText_injective (String.ofList_injective (hsha h))

theorem text_injective {s t : String} (h : Json.Scalar.text s.toList = .text t.toList) : s = t :=
  String.toList_injective (Json.Scalar.text.inj h)

theorem scalarOfText_injective : Function.Injective scalarOfText := by
  intro a b h
  cases a with
  | none => cases b with
    | none => rfl
    | some t => cases h
  | some s => cases b with
    | none => cases h
    | some t => rw [text_injective h]

theorem LedgerDirection.name_injective : Function.Injective LedgerDirection.name := by
  intro a b h
  cases a <;> cases b <;> first | rfl | exact absurd h (by decide)

theorem LedgerConflictType.name_injective : Function.Injective LedgerConflictType.name := by
  intro a b h
  cases a <;> cases b <;> first | rfl | exact absurd h (by decide)

/-- **Equal semantic fingerprints are equal facts.** -/
theorem semanticFingerprint_injective (hsha : Function.Injective sha256) :
    Function.Injective (semanticFingerprint sha256) := by
  intro a b h
  have hparts := hashArray_injective hsha h
  simp only [List.cons.injEq, Json.Scalar.text.injEq, Json.Scalar.num.injEq, true_and, and_true,
    String.toList_inj] at hparts
  obtain ⟨h1, h2, h3, h4, h5, h6, h7, h8, h9⟩ := hparts
  cases a
  cases b
  simp_all [scalarOfText_injective.eq_iff, LedgerDirection.name_injective.eq_iff]

theorem conflictFingerprint_injective (hsha : Function.Injective sha256) :
    Function.Injective (conflictFingerprint sha256) :=
  fun _ _ h => (List.cons.inj (hashArray_injective hsha h)).2

end

end PerPay.Ledger
