/-
  **API request signatures** (`security/api-signature.ts`).

  A request is signed over the lines of its method, canonical target, timestamp, nonce, client and body hash.
  The canonical target decodes every path segment and every query component, refuses what intermediaries
  may read in two ways, and writes the rest again with upper-case escapes and sorted query parameters.

  Targets are `List Char` from the ASCII check on; what was decoded is a `String`.  NFC normalisation,
  SHA-256 and HMAC-SHA-256 are given functions.
-/
import Mathlib.Data.List.Sort
import Mathlib.Data.List.Lex
import Mathlib.Data.Prod.Lex
import Mathlib.Data.Rat.Floor
import PerPay.Lib.Checks
import PerPay.Lib.Joined
import PerPay.Lib.Percent
import PerPay.Identity.ApiClients

namespace PerPay.Security

open Bytes Checks
open Joined (cutAt)

inductive ApiSignatureErrorCode
  | unsupportedVersion
  | invalidMethod
  | invalidTarget
  | invalidClientId
  | invalidTimestamp
  | timestampOutOfRange
  | invalidNonce
  | invalidSignature
  | invalidSecret
  | invalidVerificationClock
  deriving DecidableEq, Repr

structure ApiSignatureError where
  code : ApiSignatureErrorCode
  message : String
  deriving DecidableEq, Repr

abbrev Checked := Except ApiSignatureError

def invalidTarget (message : String) : ApiSignatureError := ⟨.invalidTarget, message⟩

/-! ## Characters -/

def maxTargetBytes : Nat := 8 * 1024
def maxQueryParameters : Nat := 128

/-- `unreservedBytes` -/
def unreservedBytes (b : UInt8) : Bool :=
  ("ABCDEFGHIJKLMNOPQRSTUVWXYZabcdefghijklmnopqrstuvwxyz0123456789-._~".toList.map (·.toNat)).contains b.toNat

/-- `pathSegmentBytes` -/
def pathSegmentBytes (b : UInt8) : Bool :=
  ("ABCDEFGHIJKLMNOPQRSTUVWXYZabcdefghijklmnopqrstuvwxyz0123456789-._~!$&'()*+,;=:@".toList.map (·.toNat)).contains
    b.toNat

/-- `[A-Za-z0-9\-._~!$&'()*+,;=:@%]` -/
def pathSegmentCharacter (c : Char) : Bool := c.isAlphanum || "-._~!$&'()*+,;=:@%".toList.contains c

/-- `/^[A-Za-z0-9\-._~!$&'()*+,;=:@%]+$/` -/
def pathSegmentPattern (cs : List Char) : Bool := !cs.isEmpty && cs.all pathSegmentCharacter

/-- `[A-Za-z0-9\-._~%]` -/
def queryComponentCharacter (c : Char) : Bool := c.isAlphanum || "-._~%".toList.contains c

/-- `/^[A-Za-z0-9\-._~%]*$/` -/
def queryComponentPattern (cs : List Char) : Bool := cs.all queryComponentCharacter

/-- `/[\u0000-\u001f\u007f]/` -/
def controlCharacter (c : Char) : Bool := c.toNat ≤ 0x1f || c.toNat = 0x7f

/-! ## Percent escapes -/

/-- The scan of `decodePercentEncoded`: every `%` is followed by two hexadecimal digits. -/
def wellEscaped : List Char → Bool
  | [] => true
  | c :: rest =>
    if c ≠ '%' then wellEscaped rest
    else match rest with
      | a :: b :: rest => (hexValue a).isSome && (hexValue b).isSome && wellEscaped rest
      | _ => false

/-- `decodeURIComponent`, of ASCII text. -/
def decodeURIComponent (raw : List Char) : Option String := (Percent.decode raw).bind ofUtf8

/-- `percentEncode` -/
def percentEncode (value : String) (allowedBytes : UInt8 → Bool) : List Char := Percent.encode allowedBytes (utf8 value)

/-- The digits that `Number.parseInt(text, 16)` reads: the longest run of them, none being NaN. -/
def leadingHex (cs : List Char) : Option Int :=
  match (cs.map hexValue).takeWhile (·.isSome) with
  | [] => none
  | digits => some (digits.foldl (fun n d => 16 * n + (d.getD 0 : Nat)) 0)

/-- `Number.parseInt(text, 16)`, of text without white space: a sign, `0x`, and digits up to the first
    character that is none. -/
def parseInt16 : List Char → Option Int
  | '+' :: cs => leadingHex (afterPrefix cs)
  | '-' :: cs => (leadingHex (afterPrefix cs)).map (- ·)
  | cs => leadingHex (afterPrefix cs)
where
  /-- What follows `0x`. -/
  afterPrefix : List Char → List Char
    | '0' :: 'x' :: cs => cs
    | '0' :: 'X' :: cs => cs
    | cs => cs

/-- `encodedByte < 0x80 && !unreservedBytes.has(encodedByte)` -/
def reservedByte (encodedByte : Int) : Bool :=
  encodedByte < 0x80 && !(0 ≤ encodedByte && unreservedBytes (UInt8.ofNat encodedByte.toNat))

/-- The scan of `rejectPercentEncodedPathReservedCharacters`. -/
def reservedEscape : List Char → Bool
  | [] => false
  | c :: rest =>
    if c ≠ '%' then reservedEscape rest
    else match rest with
      | a :: b :: rest => (parseInt16 [a, b]).any reservedByte || reservedEscape rest
      | _ => false

def rejectPercentEncodedPathReservedCharacters (rawSegment : List Char) : Checked Unit :=
  refuse (reservedEscape rawSegment) (invalidTarget "ASCII path reserved characters must not be percent-encoded")

section Targets

variable (normalizeNFC : String → String)

def decodePercentEncoded (raw : List Char) (label : String) : Checked String := do
  refuse (!wellEscaped raw) (invalidTarget s!"{label} contains an invalid percent escape")
  let decoded ← required (decodeURIComponent raw) (invalidTarget s!"{label} is not valid percent-encoded UTF-8")
  refuse (decoded.toList.any controlCharacter) (invalidTarget s!"{label} must not contain control characters")
  refuse (normalizeNFC decoded ≠ decoded) (invalidTarget s!"{label} must use NFC-normalized Unicode")
  pure decoded

/-! ## Paths -/

/-- One round of the `map` in `canonicalizePath`. -/
def canonicalizeSegment (rawSegment : List Char) : Checked (List Char) := do
  refuse (!pathSegmentPattern rawSegment)
    (invalidTarget "path contains a character outside the RFC 3986 path segment set")
  rejectPercentEncodedPathReservedCharacters rawSegment
  let decoded ← decodePercentEncoded normalizeNFC rawSegment "path segment"
  refuse (decoded = "." || decoded = "..") (invalidTarget "path dot segments are not accepted")
  refuse (decoded.toList.contains '/' || decoded.toList.contains '\\')
    (invalidTarget "encoded path separators are not accepted")
  pure (percentEncode decoded pathSegmentBytes)

def canonicalizeSegments (rawSegments : List (List Char)) : Checked (List Char) := do
  refuse (rawSegments.any List.isEmpty) (invalidTarget "path must not contain empty segments")
  let canonicalSegments ← rawSegments.mapM (canonicalizeSegment normalizeNFC)
  pure ('/' :: ['/'].intercalate canonicalSegments)

def canonicalizePath (rawPath : List Char) : Checked (List Char) :=
  if rawPath = ['/'] then .ok rawPath
  else do
    refuse (rawPath.isEmpty || rawPath.getLast? = some '/')
      (invalidTarget "non-root paths must not end with a slash")
    canonicalizeSegments normalizeNFC ((rawPath.drop 1).splitOn '/')

/-! ## Queries -/

/-- The name and the value of a pair with exactly one `=`, which does not come first. -/
def separatePair (rawPair : List Char) : Option (List Char × List Char) :=
  match cutAt '=' rawPair with
  | (_, none) => none
  | (rawName, some rawValue) => if rawName.isEmpty || rawValue.contains '=' then none else some (rawName, rawValue)

/-- One round of the `map` in `canonicalizeQuery`, up to the check of the names seen. -/
def canonicalizePair (rawPair : List Char) : Checked (List Char × List Char) := do
  let raw ← required (separatePair rawPair)
    (invalidTarget "each query parameter must contain exactly one equals delimiter")
  refuse (!queryComponentPattern raw.1 || !queryComponentPattern raw.2)
    (invalidTarget "query names and values must use unreserved characters or percent-encoded UTF-8")
  let name ← decodePercentEncoded normalizeNFC raw.1 "query name"
  let value ← decodePercentEncoded normalizeNFC raw.2 "query value"
  pure (percentEncode name unreservedBytes, percentEncode value unreservedBytes)

def canonicalizePairs (seenNames : List (List Char)) : List (List Char) → Checked (List (List Char × List Char))
  | [] => .ok []
  | rawPair :: rest => do
    let pair ← canonicalizePair normalizeNFC rawPair
    refuse (seenNames.contains pair.1) (invalidTarget "duplicate query parameter names are not accepted")
    let pairs ← canonicalizePairs (pair.1 :: seenNames) rest
    pure (pair :: pairs)

/-- The comparison of `pairs.sort` puts the left pair no later than the right one. -/
def pairLE (left right : List Char × List Char) : Bool :=
  if left.1 ≠ right.1 then left.1 < right.1 else left.2 = right.2 || left.2 < right.2

def writePair (pair : List Char × List Char) : List Char := pair.1 ++ '=' :: pair.2

def canonicalizeRawPairs (rawPairs : List (List Char)) : Checked (List Char) := do
  refuse (rawPairs.length > maxQueryParameters)
    (invalidTarget s!"query must not contain more than {maxQueryParameters} parameters")
  refuse (rawPairs.any List.isEmpty) (invalidTarget "query must not contain empty parameters")
  let pairs ← canonicalizePairs normalizeNFC [] rawPairs
  pure (['&'].intercalate ((pairs.insertionSort (pairLE · ·)).map writePair))

def canonicalizeQuery (rawQuery : List Char) : Checked (List Char) :=
  canonicalizeRawPairs normalizeNFC (rawQuery.splitOn '&')

/-! ## Targets -/

def canonicalizeOriginForm : List Char × Option (List Char) → Checked (List Char)
  | (rawPath, none) => canonicalizePath normalizeNFC rawPath
  | (rawPath, some rawQuery) => do
    let canonicalPath ← canonicalizePath normalizeNFC rawPath
    refuse rawQuery.isEmpty (invalidTarget "an empty query marker is not canonical")
    let canonicalQuery ← canonicalizeQuery normalizeNFC rawQuery
    pure (canonicalPath ++ '?' :: canonicalQuery)

def canonicalizeApiRequestTarget (target : String) : Checked String := do
  refuse (target = "") (invalidTarget "request target must be a non-empty string")
  refuse (target.utf8ByteSize > maxTargetBytes)
    (invalidTarget s!"request target must not exceed {maxTargetBytes} bytes")
  refuse (!(['/'].isPrefixOf target.toList) || ['/', '/'].isPrefixOf target.toList)
    (invalidTarget "request target must use origin-form with a single leading slash")
  refuse (target.toList.contains '#' || !target.toList.all (·.toNat < 128))
    (invalidTarget "request target must be ASCII and must not contain a fragment")
  let canonical ← canonicalizeOriginForm normalizeNFC (cutAt '?' target.toList)
  pure (String.ofList canonical)

end Targets

/-! ## Requests -/

def apiSignatureVersion : String := "v1"
def signatureDomain : String := "PERPAY-HMAC-SHA256"
def minimumSecretBytes : Nat := 32
def maxClockSkewSeconds : Nat := 5 * 60
def defaultApiSignatureMaxSkewSeconds : Nat := 5 * 60

/-- What a hash function gives. -/
structure Digest where
  bytes : List UInt8
  length_eq : bytes.length = 32
  deriving DecidableEq, Repr

structure ApiRequestAuthentication where
  version : String
  clientId : String
  timestamp : String
  nonce : String
  signature : String
  deriving DecidableEq, Repr

/-- What `canonicalizeRequest` reads: an `ApiRequestToSign` without its secret. -/
structure ApiRequest where
  method : String
  target : String
  body : List UInt8
  clientId : String
  timestamp : String
  nonce : String
  deriving DecidableEq, Repr

structure ApiRequestToSign extends ApiRequest where
  secret : List UInt8
  deriving DecidableEq, Repr

/-- A request to verify.  The clock is `input.now ?? new Date()`, in milliseconds and `none` for an invalid
    date; the skew is a number, and its default when left out. -/
structure ApiRequestToVerify where
  secret : List UInt8
  method : String
  target : String
  body : List UInt8
  authentication : ApiRequestAuthentication
  now : Option Int
  maxClockSkewSeconds : Option Rat
  deriving DecidableEq, Repr

structure VerifiedApiRequest where
  version : String
  clientId : String
  timestamp : Nat
  nonce : String
  method : String
  canonicalTarget : String
  bodySha256 : String
  deriving DecidableEq, Repr

structure CanonicalRequestMaterial where
  method : String
  canonicalTarget : String
  clientId : String
  timestampText : String
  timestamp : Nat
  nonce : String
  bodySha256 : String
  payload : List UInt8
  deriving DecidableEq, Repr

/-- ``/^[!#$%&'*+\-.^_`|~0-9A-Za-z]+$/``; the accent is character 0x60. -/
def methodPattern (cs : List Char) : Bool :=
  !cs.isEmpty && cs.all fun c => c.isAlphanum || "!#$%&'*+-.^_|~".toList.contains c || c.toNat = 0x60

def canonicalizeMethod (method : String) : Checked String := do
  refuse (method = "" || method.length > 32 || !methodPattern method.toList)
    ⟨.invalidMethod, "HTTP method must be a valid ASCII token"⟩
  pure (String.ofList (method.toList.map Char.toUpper))

/-- `/^[A-Za-z0-9][A-Za-z0-9._-]{2,63}$/` -/
def clientIdPattern : List Char → Bool
  | [] => false
  | c :: cs => c.isAlphanum && 2 ≤ cs.length && cs.length ≤ 63 && cs.all fun d => d.isAlphanum || "._-".toList.contains d

def validateClientId (clientId : String) : Checked String := do
  refuse (!clientIdPattern clientId.toList)
    ⟨.invalidClientId, "client ID must be 3 to 64 URL-safe ASCII characters"⟩
  pure clientId

/-- `/^[1-9][0-9]{9,11}$/` -/
def timestampPattern : List Char → Bool
  | [] => false
  | c :: cs => c.isDigit && c ≠ '0' && 9 ≤ cs.length && cs.length ≤ 11 && cs.all Char.isDigit

/-- `Number(text)` of decimal digits. -/
def decimalNumber (cs : List Char) : Nat := cs.foldl (fun n c => 10 * n + (c.toNat - '0'.toNat)) 0

/-- `Number.MAX_SAFE_INTEGER` -/
def maxSafeInteger : Nat := 2 ^ 53 - 1

def parseTimestamp (timestamp : String) : Checked (String × Nat) := do
  refuse (!timestampPattern timestamp.toList)
    ⟨.invalidTimestamp, "timestamp must be canonical Unix time in whole seconds"⟩
  refuse (decimalNumber timestamp.toList > maxSafeInteger)
    ⟨.invalidTimestamp, "timestamp is outside the supported range"⟩
  pure (timestamp, decimalNumber timestamp.toList)

def validateNonce (nonce : String) : Checked String := do
  refuse (!Identity.nonceShape nonce)
    ⟨.invalidNonce, "nonce must be an unpadded base64url encoding of exactly 32 bytes"⟩
  refuse (!Identity.canonicalNonce nonce) ⟨.invalidNonce, "nonce is not canonical base64url"⟩
  pure nonce

def validateSecret (secret : List UInt8) : Checked Unit :=
  refuse (secret.length < minimumSecretBytes)
    ⟨.invalidSecret, s!"HMAC secret must contain at least {minimumSecretBytes} bytes"⟩

/-- `/^[0-9a-f]{64}$/` -/
def signaturePattern (cs : List Char) : Bool :=
  cs.length = 64 && cs.all fun c => c.isDigit || ('a' ≤ c && c ≤ 'f')

def decodeSignature (signature : String) : Checked (List UInt8) := do
  refuse (!signaturePattern signature.toList)
    ⟨.invalidSignature, "signature must contain exactly 64 lowercase hexadecimal characters"⟩
  pure ((ofHex signature.toList).getD [])

/-- The clock is valid and the skew a whole number from 0 to the maximum. -/
def validVerificationClock (now : Option Int) (skew : Rat) : Bool :=
  now.isSome && skew.den = 1 && !(skew < 0) && !(skew > maxClockSkewSeconds)

def validateTimestampWindow (timestamp : Nat) (now : Option Int) (skew : Rat) : Checked Unit := do
  refuse (!validVerificationClock now skew)
    ⟨.invalidVerificationClock,
      s!"verification clock skew must be a whole number from 0 to {maxClockSkewSeconds} seconds"⟩
  refuse (now.any fun ms : Int => (((ms / 1000 - (timestamp : Int)).natAbs : Nat) : Rat) > skew)
    ⟨.timestampOutOfRange, "signed timestamp falls outside the accepted clock window"⟩

section Requests

variable (normalizeNFC : String → String) (sha256 : List UInt8 → Digest)
  (hmacSha256 : List UInt8 → List UInt8 → Digest)

def hashBody (body : List UInt8) : String := String.ofList (hex (sha256 body).bytes)

def signingPayload (method canonicalTarget timestampText nonce clientId bodySha256 : String) : List UInt8 :=
  utf8 ("\n".intercalate
    [signatureDomain, apiSignatureVersion, method, canonicalTarget, timestampText, nonce, clientId, bodySha256])

def canonicalizeRequest (input : ApiRequest) : Checked CanonicalRequestMaterial := do
  let method ← canonicalizeMethod input.method
  let canonicalTarget ← canonicalizeApiRequestTarget normalizeNFC input.target
  let clientId ← validateClientId input.clientId
  let timestamp ← parseTimestamp input.timestamp
  let nonce ← validateNonce input.nonce
  pure
    { method := method
      canonicalTarget := canonicalTarget
      clientId := clientId
      timestampText := timestamp.1
      timestamp := timestamp.2
      nonce := nonce
      bodySha256 := hashBody sha256 input.body
      payload := signingPayload method canonicalTarget timestamp.1 nonce clientId (hashBody sha256 input.body) }

def signApiRequest (input : ApiRequestToSign) : Checked ApiRequestAuthentication := do
  validateSecret input.secret
  let material ← canonicalizeRequest normalizeNFC sha256 input.toApiRequest
  pure
    { version := apiSignatureVersion
      clientId := material.clientId
      timestamp := material.timestampText
      nonce := material.nonce
      signature := String.ofList (hex (hmacSha256 input.secret material.payload).bytes) }

/-- The request whose material is verified. -/
def ApiRequestToVerify.request (input : ApiRequestToVerify) : ApiRequest :=
  { method := input.method
    target := input.target
    body := input.body
    clientId := input.authentication.clientId
    timestamp := input.authentication.timestamp
    nonce := input.authentication.nonce }

def verifyApiRequestSignature (input : ApiRequestToVerify) : Checked VerifiedApiRequest := do
  validateSecret input.secret
  refuse (input.authentication.version ≠ apiSignatureVersion)
    ⟨.unsupportedVersion, "unsupported API signature version"⟩
  let material ← canonicalizeRequest normalizeNFC sha256 input.request
  let suppliedSignature ← decodeSignature input.authentication.signature
  refuse ((hmacSha256 input.secret material.payload).bytes ≠ suppliedSignature)
    ⟨.invalidSignature, "API request signature is invalid"⟩
  validateTimestampWindow material.timestamp input.now
    (input.maxClockSkewSeconds.getD defaultApiSignatureMaxSkewSeconds)
  pure
    { version := apiSignatureVersion
      clientId := material.clientId
      timestamp := material.timestamp
      nonce := material.nonce
      method := material.method
      canonicalTarget := material.canonicalTarget
      bodySha256 := material.bodySha256 }

end Requests

end PerPay.Security
