/-
  **Strict JSON** (`http/strict-json.ts`).

  `JSON.parse` takes an object whose members repeat a name and keeps the last of them.  A second scanner
  goes over the accepted text again, by index and without checking what it steps over, and refuses repeated
  names and deep nesting.

  The scanner's loops are recursions with fuel, of which it gets as much as the reader of `JSON.parse`.
-/
import Mathlib.Data.Rat.Floor
import PerPay.Lib.JsonText

namespace PerPay.Http

open JsonText

inductive StrictJsonErrorCode
  | invalidUtf8
  | invalidJson
  | duplicateKey
  | tooDeep
  deriving DecidableEq, Repr

/-- What is thrown: a `StrictJsonError`, the `RangeError` of the scanner's constructor, or the
    `SyntaxError` of an inner `JSON.parse`; and the end of the model's fuel. -/
inductive Thrown
  | strictJson (code : StrictJsonErrorCode) (message : Text)
  | rangeError (message : Text)
  | syntaxError
  | outOfFuel
  deriving DecidableEq, Repr

abbrev Parsed := Except Thrown

/-! ## The text of a key -/

def isHighSurrogate (c : CodeUnit) : Bool := 0xD800 ≤ c && c < 0xDC00
def isLowSurrogate (c : CodeUnit) : Bool := 0xDC00 ≤ c && c < 0xE000

/-- `\u` and four lower-case digits. -/
def unicodeEscape (c : CodeUnit) : Text :=
  unit '\\' :: unit 'u' :: [c.toNat / 4096, c.toNat / 256 % 16, c.toNat / 16 % 16, c.toNat % 16].map fun n =>
    unit (Nat.digitChar n)

/-- A unit inside the quotes; a surrogate without its other half is escaped. -/
def stringifyUnit (c : CodeUnit) : Text :=
  if c = unit '"' || c = unit '\\' then [unit '\\', c]
  else if c = 8 then word "\\b"
  else if c = 9 then word "\\t"
  else if c = 10 then word "\\n"
  else if c = 12 then word "\\f"
  else if c = 13 then word "\\r"
  else if c < 0x20 || isHighSurrogate c || isLowSurrogate c then unicodeEscape c
  else [c]

def stringifyUnits : Text → Text
  | [] => []
  | c :: d :: cs =>
    if isHighSurrogate c && isLowSurrogate d then c :: d :: stringifyUnits cs
    else stringifyUnit c ++ stringifyUnits (d :: cs)
  | [c] => stringifyUnit c

/-- `JSON.stringify` of a string. -/
def stringifyString (s : Text) : Text := unit '"' :: (stringifyUnits s ++ [unit '"'])

/-! ## Errors -/

def duplicateKey (key : Text) : Thrown :=
  .strictJson .duplicateKey (word "JSON object contains duplicate key " ++ stringifyString key)

def tooDeep : Thrown := .strictJson .tooDeep (word "JSON exceeds the maximum nesting depth")

def trailingData : Thrown := .strictJson .invalidJson (word "JSON contains trailing data")

def notTerminated : Thrown := .strictJson .invalidJson (word "JSON string is not terminated")

/-! ## The scanner -/

section Scanner

variable (text : Text) (maximumDepth : Nat)

/-- The index behind the white space. -/
def skipWhitespace (index : Nat) : Nat := index + ((text.drop index).takeWhile isWhitespace).length

/-- The index of the next delimiter. -/
def scanPrimitive (index : Nat) : Nat := index + ((text.drop index).takeWhile fun c => !isDelimiter c).length

/-- The loop of `scanString`, on the text from the index on: the index behind the closing quote. -/
def stringEnd : Text → Nat → Option Nat
  | [], _ => none
  | c :: cs, index =>
    if c = unit '\\' then
      match cs with
      | [] => none
      | _ :: cs => stringEnd cs (index + 2)
    else if c = unit '"' then some (index + 1)
    else stringEnd cs (index + 1)

/-- `JSON.parse(text.slice(start, index)) as string`: a JSON text that ends with a quote is a string. -/
def sliceString (start index : Nat) : Parsed Text :=
  match readTree ((text.take index).drop start) with
  | some (.string key) => .ok key
  | _ => .error .syntaxError

/-- The string that starts at the index, and the index behind it. -/
def scanString (index : Nat) : Parsed (Text × Nat) :=
  match stringEnd (text.drop (index + 1)) (index + 1) with
  | none => .error notTerminated
  | some stop => (sliceString text index stop).map fun key => (key, stop)

mutual

def scanValue : Nat → Nat → Nat → Parsed Nat
  | 0, _, _ => .error .outOfFuel
  | n + 1, depth, index =>
    if depth > maximumDepth then .error tooDeep
    else if text[index]? = some (unit '{') then
      -- `scanObject`: an empty object ends here.
      if text[skipWhitespace text (index + 1)]? = some (unit '}') then .ok (skipWhitespace text (index + 1) + 1)
      else scanMembers n depth [] (skipWhitespace text (index + 1))
    else if text[index]? = some (unit '[') then
      -- `scanArray`, likewise.
      if text[skipWhitespace text (index + 1)]? = some (unit ']') then .ok (skipWhitespace text (index + 1) + 1)
      else scanItems n depth (skipWhitespace text (index + 1))
    else if text[index]? = some (unit '"') then (scanString text index).map Prod.snd
    else .ok (scanPrimitive text index)

/-- The loop of `scanArray`, from the start of an item. -/
def scanItems : Nat → Nat → Nat → Parsed Nat
  | 0, _, _ => .error .outOfFuel
  | n + 1, depth, index =>
    (scanValue n (depth + 1) index).bind fun stop =>
      if text[skipWhitespace text stop]? = some (unit ']') then .ok (skipWhitespace text stop + 1)
      else scanItems n depth (skipWhitespace text (skipWhitespace text stop + 1))

/-- The loop of `scanObject`, from the start of a member. -/
def scanMembers : Nat → Nat → List Text → Nat → Parsed Nat
  | 0, _, _, _ => .error .outOfFuel
  | n + 1, depth, keys, index =>
    (scanString text index).bind fun key =>
      if keys.contains key.1 then .error (duplicateKey key.1)
      else
        (scanValue n (depth + 1) (skipWhitespace text (skipWhitespace text key.2 + 1))).bind fun stop =>
          if text[skipWhitespace text stop]? = some (unit '}') then .ok (skipWhitespace text stop + 1)
          else scanMembers n depth (key.1 :: keys) (skipWhitespace text (skipWhitespace text stop + 1))

end

def scan : Parsed Unit :=
  (scanValue text maximumDepth (2 * text.length + 1) 1 (skipWhitespace text 0)).bind fun index =>
    if skipWhitespace text index ≠ text.length then .error trailingData else .ok ()

end Scanner

/-- The constructor's check of the maximum depth. -/
def checkMaximumDepth (maximumDepth : Rat) : Parsed Nat :=
  if maximumDepth.den ≠ 1 || maximumDepth < 1 || maximumDepth > 256 then
    .error (.rangeError (word "maximum JSON depth must be an integer from 1 to 256"))
  else .ok maximumDepth.num.toNat

/-- `parseStrictJson`; how a number is rounded is given. -/
def parseStrictJson {ν : Type} (numberOf : Text → ν) (bytes : List UInt8) (maximumDepth : Rat) : Parsed (Json ν) :=
  match Bytes.ofUtf8 bytes with
  | none => .error (.strictJson .invalidUtf8 (word "JSON must use valid UTF-8"))
  | some text =>
    match parse numberOf (utf16 text) with
    | none => .error (.strictJson .invalidJson (word "request body is not valid JSON"))
    | some value =>
      (checkMaximumDepth maximumDepth).bind fun depth => (scan (utf16 text) depth).bind fun _ => .ok value

end PerPay.Http
