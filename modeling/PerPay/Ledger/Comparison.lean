/-
  **The comparison of a conflict in the browser** (`web/src/lib/conflict-comparison.ts`).

  The page of a conflict reads the texts of the incoming event again and sets the facts it finds beside those of the
  entry.  Amounts, directions and local times go through expressions of its own; a text that ends in a zone goes to
  `Date.parse`.

  `Date.parse` is the date-time format of the language; what an engine makes of a text outside that format is its own
  affair, and a parameter here (`fallback`).
-/
import PerPay.Ledger.Differences
import PerPay.Lib.IsoDate

namespace PerPay.Ledger

/-! ## Facts -/

def comparisonAmount (value : Option String) : Option Nat :=
  (readAmount (trim (value.getD "")).toList).filter fun cents => isSafeInteger cents && 0 < cents && cents ≤ 999_999_999_999

def comparisonDirection (value : Option String) : Option LedgerDirection :=
  match value.map fun text => toUpperCase (trim text) with
  | none => none
  | some raw =>
    if raw ≠ "" ∧ raw ∈ ["CREDIT", "IN", "INCOME", "RECEIVE", "RECEIVED", "收入", "收款", "转入"] then some .CREDIT
    else if raw ≠ "" ∧ raw ∈ ["DEBIT", "OUT", "EXPENSE", "PAY", "PAID", "支出", "付款", "转出"] then some .DEBIT
    else none

/-! ## Times -/

def dateParse (fallback : List Char → Option Int) (text : List Char) : Option Int :=
  match IsoDate.isoTime text with
  | some milliseconds => if milliseconds.natAbs ≤ maxTimeValue then some milliseconds else none
  | none => fallback text

/-- `(?:Z|[+-]\d{2}:\d{2})$` at this place. -/
def isZone : List Char → Bool
  | ['Z'] => true
  | [sign, a, b, ':', c, d] => (sign = '+' || sign = '-') && a.isDigit && b.isDigit && c.isDigit && d.isDigit
  | _ => false

/-- What `.` does not match. -/
def isLineTerminator (c : Char) : Bool := c.toNat ∈ [0x0A, 0x0D, 0x2028, 0x2029]

/-- `.*(?:Z|[+-]\d{2}:\d{2})$` from this place. -/
def reachesZone : List Char → Bool
  | [] => false
  | c :: cs => isZone (c :: cs) || (!isLineTerminator c && reachesZone cs)

/-- `/T.*(?:Z|[+-]\d{2}:\d{2})$/` -/
def zoneShaped : List Char → Bool
  | [] => false
  | c :: cs => (c = 'T' && reachesZone cs) || zoneShaped cs

/-- The digits of `/\.(\d+)(?:Z|[+-]\d{2}:\d{2})$/`. -/
def zoneFraction : List Char → Option (List Char)
  | [] => none
  | c :: cs =>
    if c = '.' && cs.takeWhile Char.isDigit ≠ [] && isZone (cs.dropWhile Char.isDigit) then some (cs.takeWhile Char.isDigit)
    else zoneFraction cs

/-- The time with the precision of its fraction, if it is a safe integer from 1970 on. -/
def displayTime (milliseconds : Int) (fraction : Option (List Char)) : Option ParsedOccurredAt :=
  if isSafeInteger milliseconds.toNat && 0 ≤ milliseconds then
    some ⟨milliseconds.toNat, match fraction with
      | none => 1000
      | some digits => 10 ^ (3 - digits.length)⟩
  else none

/-- `calendar.getTime()` -/
def calendarTime (p : TimestampParts) : Int :=
  utcDay p * 86_400_000 + p.hour * 3_600_000 + p.minute * 60_000 + p.second * 1_000 + fractionMilliseconds p.fraction

/-- A text of the local expression. -/
def localTime (p : TimestampParts) : Option ParsedOccurredAt :=
  if p.year < 2000 || Calendar.civil (utcDay p) ≠ ⟨p.year, p.month, p.day⟩ || 23 < p.hour || 59 < p.minute || 59 < p.second then
    none
  else displayTime (calendarTime p - 8 * 60 * 60 * 1000) p.fraction

/-- A text of the zoned expression, or of neither. -/
def zonedTime (fallback : List Char → Option Int) (raw : List Char) : Option ParsedOccurredAt :=
  if zoneShaped raw then
    if (zoneFraction raw).any (3 < ·.length) then none
    else (dateParse fallback raw).bind fun milliseconds => displayTime milliseconds (zoneFraction raw)
  else none

def comparisonTime (fallback : List Char → Option Int) (value : Option String) : Option ParsedOccurredAt :=
  match (readTimestamp (trim (value.getD "")).toList).filter (·.offset.isNone) with
  | some p => localTime p
  | none => zonedTime fallback (trim (value.getD "")).toList

/-! ## Rows -/

/-- An entry in the answer of the server: `serializeConflictLedgerEntry`. -/
structure ConflictLedgerEntry where
  externalEventId : String
  occurredAt : List Char
  occurredAtPrecisionMilliseconds : Nat
  amountCents : Nat
  direction : LedgerDirection
  alipayOrderNo : Option String
  merchantOrderNo : Option String
  transMemo : Option String
  otherAccount : Option String
  deriving DecidableEq, Repr

def serializeConflictLedgerEntry (entry : LedgerEntry) : ConflictLedgerEntry where
  externalEventId := entry.facts.externalEventId
  occurredAt := IsoDate.toISOString entry.facts.occurredAt
  occurredAtPrecisionMilliseconds := entry.facts.occurredAtPrecisionMilliseconds
  amountCents := entry.facts.amountCents
  direction := entry.facts.direction
  alipayOrderNo := entry.facts.alipayOrderNo
  merchantOrderNo := entry.facts.merchantOrderNo
  transMemo := entry.facts.transMemo
  otherAccount := entry.facts.otherAccount

structure ComparisonRow where
  name : String
  incoming : Option String
  existing : Option String
  differs : Bool
  invalid : Bool
  deriving DecidableEq, Repr

/-- How the browser reads dates that are not in the format, and writes amounts and times. -/
structure Browser where
  fallback : List Char → Option Int
  money : Nat → String
  detailTimestamp : List Char → String

def directionText : LedgerDirection → String
  | .CREDIT => "收入"
  | .DEBIT => "支出"

def precisionText (precision : Nat) : String :=
  if precision = 1000 then "1 秒" else String.ofList (Json.natText precision) ++ " 毫秒"

section

variable (browser : Browser) (type : LedgerConflictType) (incoming : Option RawEvent) (existing : Option ConflictLedgerEntry)

def amountRow : ComparisonRow where
  name := "支付宝交易金额"
  incoming := incoming.bind (·.amountText)
  existing := existing.map fun entry => browser.money entry.amountCents
  differs :=
    match existing with
    | some entry => comparisonAmount (incoming.bind (·.amountText)) ≠ some entry.amountCents
    | none => type = .INVALID_AMOUNT
  invalid :=
    type = .INVALID_AMOUNT ||
      ((incoming.bind (·.amountText)).isSome && (comparisonAmount (incoming.bind (·.amountText))).isNone)

def directionRow : ComparisonRow where
  name := "收支方向"
  incoming :=
    match comparisonDirection (incoming.bind (·.directionText)) with
    | some direction => some (directionText direction)
    | none => incoming.bind (·.directionText)
  existing := existing.map fun entry => directionText entry.direction
  differs :=
    match existing with
    | some entry => comparisonDirection (incoming.bind (·.directionText)) ≠ some entry.direction
    | none => type = .INVALID_DIRECTION
  invalid :=
    type = .INVALID_DIRECTION ||
      ((incoming.bind (·.directionText)).isSome && (comparisonDirection (incoming.bind (·.directionText))).isNone)

def timeRow (time : Option ParsedOccurredAt) : ComparisonRow where
  name := "支付宝交易时间"
  incoming := incoming.bind (·.occurredAtText)
  existing := existing.map fun entry => browser.detailTimestamp entry.occurredAt
  differs :=
    match existing with
    | some entry => !time.any fun t => dateParse browser.fallback entry.occurredAt = some (t.milliseconds : Int)
    | none => type = .INVALID_TIMESTAMP
  invalid := type = .INVALID_TIMESTAMP || ((incoming.bind (·.occurredAtText)).isSome && time.isNone)

/-- The row is there when both sides have a time. -/
def precisionRow (time : Option ParsedOccurredAt) : List ComparisonRow :=
  match time, existing with
  | some t, some entry =>
    [{ name := "时间精度"
       incoming := some (precisionText t.precisionMilliseconds)
       existing := some (precisionText entry.occurredAtPrecisionMilliseconds)
       differs := t.precisionMilliseconds ≠ entry.occurredAtPrecisionMilliseconds
       invalid := false }]
  | _, _ => []

def externalIdRow : ComparisonRow where
  name := "支付宝流水号"
  incoming := incoming.bind (·.externalEventId)
  existing := existing.map (·.externalEventId)
  differs :=
    match existing with
    | some entry => incoming.all fun event => event.externalEventId ≠ some entry.externalEventId
    | none => type = .MISSING_EXTERNAL_ID
  invalid := type = .MISSING_EXTERNAL_ID

/-- A row of a text that both sides show as it is. -/
def textRow (name : String) (field : RawEvent → Option String) (stored : ConflictLedgerEntry → Option String) : ComparisonRow where
  name := name
  incoming := incoming.bind field
  existing := existing.bind stored
  differs := existing.any fun entry => incoming.all fun event => field event ≠ stored entry
  invalid := false

def conflictComparison : List ComparisonRow :=
  [amountRow browser type incoming existing, directionRow type incoming existing,
    timeRow browser type incoming existing (comparisonTime browser.fallback (incoming.bind (·.occurredAtText)))] ++
  precisionRow existing (comparisonTime browser.fallback (incoming.bind (·.occurredAtText))) ++
  [externalIdRow type incoming existing,
    textRow incoming existing "支付宝订单号" (·.alipayOrderNo) (·.alipayOrderNo),
    textRow incoming existing "支付宝商户单号" (·.merchantOrderNo) (·.merchantOrderNo),
    textRow incoming existing "支付宝交易对方" (·.otherAccount) (·.otherAccount),
    textRow incoming existing "支付宝交易备注" (·.transMemo) (·.transMemo)]

end

/-- The rows of a conflict, as the server sends it. -/
def LedgerConflictDetail.comparison (browser : Browser) (detail : LedgerConflictDetail) : List ComparisonRow :=
  conflictComparison browser detail.conflict.conflictType detail.incomingEvent
    (detail.existingLedgerEntry.map serializeConflictLedgerEntry)

end PerPay.Ledger
