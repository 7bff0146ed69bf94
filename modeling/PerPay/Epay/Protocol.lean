/-
  **The EasyPay protocol** (`epay/protocol.ts`).

  Parameters are the own properties of an object, in the order in which they were added.  They are decoded
  once, signed as the sorted `key=value` entries of what the PHP receivers do not take for empty, and
  appended to a merchant's callback address, whose own parameters are signed along with them.

  URLs, MD5 and RSA are given (`Environment`).  Strings are well formed: `validateField` refuses any other.
-/
import Mathlib.Data.List.Sort
import Mathlib.Data.List.Lex
import PerPay.Lib.Base64
import PerPay.Lib.Checks
import PerPay.Lib.Form
import PerPay.Lib.JsonValue

namespace PerPay.Epay

open Bytes Checks

inductive EpayProtocol
  | epayV1
  | epayV2
  deriving DecidableEq, Repr

/-- An `EpayProtocolError`, or the `TypeError` of `new URL`. -/
inductive EpayFailure
  | protocol (code message : String)
  | typeError
  deriving DecidableEq, Repr

abbrev Checked := Except EpayFailure

def invalidParameters (message : String) : EpayFailure := .protocol "invalid_parameters" message

/-! ## Parameters -/

abbrev EpayParameters := List (String × String)

/-- `Object.hasOwn` -/
def hasOwn {α : Type} (parameters : List (String × α)) (name : String) : Bool := parameters.any fun p => p.1 = name

/-- `parameters[name]`, when it is there. -/
def property {α : Type} (name : String) (parameters : List (String × α)) : Option α :=
  (parameters.find? fun p => p.1 = name).map Prod.snd

/-- `parameters[name] = value` -/
def setProperty {α : Type} (name : String) (value : α) : List (String × α) → List (String × α)
  | [] => [(name, value)]
  | p :: ps => if p.1 = name then (name, value) :: ps else p :: setProperty name value ps

/-- `{ ...parameters, ...others }` -/
def spread {α : Type} (parameters others : List (String × α)) : List (String × α) :=
  others.foldl (fun object p => setProperty p.1 p.2 object) parameters

/-- `EPAY_NOTIFICATION_FIELDS` -/
def epayNotificationFields : List String :=
  ["pid", "trade_no", "out_trade_no", "api_trade_no", "type", "trade_status",
    "addtime", "endtime", "name", "money", "param", "buyer", "timestamp", "sign", "sign_type"]

/-- `/[\[\]&=\x00-\x20\x7f]/` -/
def nameCharacter (c : Char) : Bool :=
  c ≠ '[' && c ≠ ']' && c ≠ '&' && c ≠ '=' && 0x20 < c.toNat && c.toNat ≠ 0x7f

def validateField (key value : String) : Checked Unit :=
  refuse (key = "" || !key.toList.all nameCharacter || value.toList.contains '&')
    (invalidParameters "参数包含数组、非法参数名或不支持的 & 字符。")

def decodeComponent (value : List Char) : Checked String :=
  required (Percent.decodeText (value.map Form.plusToSpace)) (invalidParameters "表单包含无效编码。")

/-- The key and the value of a pair, split at its first `=`. -/
def separatePair (pair : List Char) : List Char × List Char :=
  match Joined.cutAt '=' pair with
  | (key, none) => (key, [])
  | (key, some value) => (key, value)

def addPair (parameters : EpayParameters) (pair : List Char) : Checked EpayParameters := do
  let key ← decodeComponent (separatePair pair).1
  let value ← decodeComponent (separatePair pair).2
  validateField key value
  refuse (hasOwn parameters key) (invalidParameters "参数名不能重复。")
  pure (parameters ++ [(key, value)])

def addPairs (parameters : EpayParameters) : List (List Char) → Checked EpayParameters
  | [] => .ok parameters
  | pair :: rest => do
    let parameters ← addPair parameters pair
    addPairs parameters rest

/-- The body of a form. -/
inductive FormBody
  | absent
  | text (s : String)
  | bytes (bs : List UInt8)
  deriving DecidableEq, Repr

/-- `new TextDecoder("utf-8", { fatal: true }).decode`, which leaves out a byte order mark. -/
def decodeBody : FormBody → Option String
  | .absent => some ""
  | .text s => some s
  | .bytes bs => (ofUtf8 bs).map fun s =>
    match s.toList with
    | [] => s
    | c :: cs => if c.toNat = 0xFEFF then String.ofList cs else s

def maxFormBytes : Nat := 64 * 1024

/-- The query without its question mark. -/
def withoutMark (query : String) : List Char :=
  match query.toList with
  | [] => []
  | c :: cs => if c = '?' then cs else c :: cs

/-- The pairs of a source that are not empty. -/
def pairsOf (source : List Char) : List (List Char) := (source.splitOn '&').filter fun pair => !pair.isEmpty

def parseEpayParameters (query : String) (body : FormBody) : Checked EpayParameters := do
  let form ← required (decodeBody body) (invalidParameters "表单必须使用有效 UTF-8。")
  refuse (query.utf8ByteSize + form.utf8ByteSize > maxFormBytes) (invalidParameters "表单参数过大。")
  addPairs [] (pairsOf (withoutMark query) ++ pairsOf form.toList)

/-! ## Signing content -/

/-- A value of an `EpaySignable`; a number is what `String(value)` gives, if it is finite. -/
inductive Signable
  | undefined
  | null
  | object
  | text (s : String)
  | number (text : Option String)
  | boolean (b : Bool)
  | other
  deriving DecidableEq, Repr

abbrev EpaySignable := List (String × Signable)

/-- Parameters as something to sign. -/
def signable (parameters : EpayParameters) : EpaySignable := parameters.map fun p => (p.1, .text p.2)

/-- `/^[\x00\x09\x0a\x0b\x0d\x20]*$/` -/
def phpEmpty (text : String) : Bool := text.toList.all fun c => [0x00, 0x09, 0x0a, 0x0b, 0x0d, 0x20].contains c.toNat

/-- What the receivers of the protocol take for empty. -/
def emptyFor : EpayProtocol → String → Bool
  | .epayV1, text => text = ""
  | .epayV2, text => phpEmpty text

/-- The text of a value that is signed. -/
def signedText : Signable → Checked (Option String)
  | .undefined => .ok none
  | .null => .ok none
  | .object => .ok none
  | .text s => .ok (some s)
  | .number (some text) => .ok (some text)
  | .number none => .error (invalidParameters "签名参数包含无效数字。")
  | .boolean b => .ok (some (if b then "1" else ""))
  | .other => .error (invalidParameters "签名参数必须为标量。")

def signedPair (protocol : EpayProtocol) (key : String) : Option String → Checked (Option (List Char))
  | none => .ok none
  | some text =>
    if emptyFor protocol text then .ok none
    else do
      validateField key text
      pure (some (key.toList ++ '=' :: text.toList))

/-- One round of the loop: the entry that is pushed, if any. -/
def signedEntry (protocol : EpayProtocol) (p : String × Signable) : Checked (Option (List Char)) :=
  if p.1 = "sign" || p.1 = "sign_type" then .ok none
  else do
    let text ← signedText p.2
    signedPair protocol p.1 text

/-- `Buffer.compare(Buffer.from(a), Buffer.from(b)) <= 0` -/
def keyLE (a b : String) : Bool := (utf8 a).map UInt8.toNat ≤ (utf8 b).map UInt8.toNat

def sortKeys {α : Type} (parameters : List (String × α)) : List (String × α) :=
  parameters.insertionSort fun p q => keyLE p.1 q.1 = true

def epaySigningContent (parameters : EpaySignable) (protocol : EpayProtocol) : Checked String := do
  let entries ← (sortKeys parameters).mapM (signedEntry protocol)
  pure (String.ofList (['&'].intercalate (entries.filterMap id)))

/-! ## What is given -/

/-- The parts of a parsed URL around its query, which is ASCII. -/
structure Url where
  base : List Char
  query : Option (List Char)
  fragment : Option (List Char)
  base_plain : '?' ∉ base ∧ '#' ∉ base
  query_plain : ∀ q ∈ query, ∀ c ∈ q, c.toNat < 128 ∧ c ≠ '#'

def Url.href (url : Url) : String :=
  String.ofList (url.base ++ (url.query.elim [] ('?' :: ·)) ++ (url.fragment.elim [] ('#' :: ·)))

/-- `url.search`, which an empty query does not have. -/
def Url.search (url : Url) : String :=
  match url.query with
  | some (c :: cs) => String.ofList ('?' :: c :: cs)
  | _ => ""

structure KeyObject (M : Type) where
  type : String
  asymmetricKeyType : Option String
  modulusLength : Option Nat
  material : M
  deriving DecidableEq, Repr

inductive EpayKey (M : Type)
  | text (s : String)
  | object (key : KeyObject M)
  deriving DecidableEq, Repr

structure Md5Digest where
  bytes : List UInt8
  length_eq : bytes.length = 16
  deriving DecidableEq, Repr

/-- The platform: URLs, the replacement of bytes that are no UTF-8, and cryptography.  A signature has
    bytes. -/
structure Environment (M : Type) where
  url : String → Option Url
  replaced : List UInt8 → String
  md5 : List UInt8 → Md5Digest
  createPrivateKey : String → Option (KeyObject M)
  createPublicKey : String → Option (KeyObject M)
  sign : KeyObject M → List UInt8 → List UInt8
  verify : KeyObject M → List UInt8 → List UInt8 → Bool
  sign_ne_nil : ∀ key message, sign key message ≠ []

/-- `for (...) url.searchParams.append(name, value)`: the list of the query with the parameters behind it is
    written back. -/
def Url.append (replaced : List UInt8 → String) (parameters : EpayParameters) (url : Url) : Url :=
  if parameters = [] then url
  else
    { url with
      query := some (Form.serialize (Form.parse replaced (url.query.getD []) ++ parameters))
      query_plain := by
        intro q hq c hc
        obtain rfl := Option.some.inj hq
        rcases Form.serialize_characters hc with rfl | rfl | hc
        · exact ⟨by decide, by decide⟩
        · exact ⟨by decide, by decide⟩
        · exact Form.componentCharacter_plain hc }

section Protocol

variable {M : Type} (env : Environment M)

/-! ## Signatures -/

def signEpayV1 (parameters : EpaySignable) (key : String) : Checked String := do
  refuse (key = "") (.protocol "invalid_key" "易支付密钥未配置。")
  let content ← epaySigningContent parameters .epayV1
  pure (String.ofList (hex (env.md5 (utf8 (content ++ key))).bytes))

/-- `/^[a-f0-9]{32}$/` -/
def md5Pattern (cs : List Char) : Bool := cs.length = 32 && cs.all fun c => c.isDigit || ('a' ≤ c && c ≤ 'f')

/-- `parameters.sign_type !== undefined && parameters.sign_type !== type` -/
def otherSignType (type : String) (parameters : EpaySignable) : Bool :=
  (property "sign_type" parameters).any fun v => v ≠ .undefined && v ≠ .text type

/-- `parameters.sign`, when it is a string. -/
def signText (parameters : EpaySignable) : Option String :=
  match property "sign" parameters with
  | some (.text s) => some s
  | _ => none

def verifyEpayV1 (parameters : EpaySignable) (key : String) : Checked Bool :=
  match signText parameters with
  | none => .ok false
  | some actual =>
    if !md5Pattern actual.toList || otherSignType "MD5" parameters then .ok false
    else do
      let expected ← signEpayV1 env parameters key
      pure (decide (actual = expected))

/-- `"private" | "public"` -/
inductive KeyKind
  | privateKey
  | publicKey
  deriving DecidableEq, Repr

def KeyKind.type : KeyKind → String
  | .privateKey => "private"
  | .publicKey => "public"

def KeyKind.label : KeyKind → String
  | .privateKey => "PRIVATE KEY"
  | .publicKey => "PUBLIC KEY"

def invalidKey : EpayFailure := .protocol "invalid_key" "易支付 RSA 密钥无效，需使用至少 2048 位密钥。"

/-- The PEM text of a key: bare base64 gets its frame. -/
def keyMaterial (kind : KeyKind) (material : String) : Option String :=
  if material.toList.tails.any "-----BEGIN".toList.isPrefixOf then some material
  else if Base64.shape material.toList then
    some ("-----BEGIN " ++ kind.label ++ "-----\n" ++ material ++ "\n-----END " ++ kind.label ++ "-----")
  else none

def createKey (kind : KeyKind) (material : String) : Option (KeyObject M) :=
  match kind with
  | .privateKey => env.createPrivateKey material
  | .publicKey => env.createPublicKey material

def keyObject (kind : KeyKind) : EpayKey M → Option (KeyObject M)
  | .object key => some key
  | .text s => (keyMaterial kind s).bind (createKey env kind)

def parseEpayRsaKey (value : EpayKey M) (kind : KeyKind) : Checked (KeyObject M) := do
  let key ← required (keyObject env kind value) invalidKey
  refuse (key.type ≠ kind.type || key.asymmetricKeyType ≠ some "rsa" || key.modulusLength.getD 0 < 2048) invalidKey
  pure key

def signEpayV2 (parameters : EpaySignable) (key : EpayKey M) : Checked String := do
  let content ← epaySigningContent parameters .epayV2
  let key ← parseEpayRsaKey env key .privateKey
  pure (String.ofList (Base64.encode (env.sign key (utf8 content))))

def verifyEpayV2 (parameters : EpaySignable) (key : EpayKey M) : Checked Bool :=
  match signText parameters with
  | none => .ok false
  | some signature =>
    if !Base64.shape signature.toList || otherSignType "RSA" parameters then .ok false
    else if Base64.encode (Base64.decode signature.toList) ≠ signature.toList then .ok false
    else do
      let content ← epaySigningContent parameters .epayV2
      let key ← parseEpayRsaKey env key .publicKey
      pure (env.verify key (utf8 content) (Base64.decode signature.toList))

/-! ## Notifications -/

/-- `Number.MAX_SAFE_INTEGER` -/
def maxSafeInteger : Nat := 2 ^ 53 - 1

def moneyFromCents (cents : Int) : Checked String := do
  refuse (cents < 0 || cents > maxSafeInteger) (.protocol "invalid_money" "金额必须为非负整数分。")
  pure (String.ofList (Json.natText (cents.toNat / 100) ++
    ['.', Nat.digitChar (cents.toNat / 10 % 10), Nat.digitChar (cents.toNat % 10)]))

structure EpayNotificationOrder where
  pid : String
  tradeNo : String
  outTradeNo : String
  name : String
  moneyCents : Int
  param : Option String
  apiTradeNo : Option String
  buyer : Option String
  addTime : Option String
  endTime : Option String
  deriving DecidableEq, Repr

/-- `if (value) result[name] = value;` -/
def truthyProperty (name : String) (value : Option String) : EpayParameters :=
  match value with
  | some s => if s = "" then [] else [(name, s)]
  | none => []

/-- The fields of a notification before it is signed; one member each, in the order of the source. -/
def notificationFields (order : EpayNotificationOrder) (protocol : EpayProtocol) (money : String)
    (nowMilliseconds : Int) : EpayParameters :=
  [("pid", order.pid), ("trade_no", order.tradeNo), ("out_trade_no", order.outTradeNo), ("type", "alipay"),
    ("trade_status", "TRADE_SUCCESS"), ("name", order.name), ("money", money)] ++
  (match order.param with
    | some param => [("param", param)]
    | none => []) ++
  match protocol with
  | .epayV2 =>
    truthyProperty "api_trade_no" order.apiTradeNo ++ truthyProperty "buyer" order.buyer ++
      truthyProperty "addtime" order.addTime ++ truthyProperty "endtime" order.endTime ++
      [("timestamp", String.ofList (Json.intText (nowMilliseconds / 1000))), ("sign_type", "RSA")]
  | .epayV1 => [("sign_type", "MD5")]

def textKey : EpayKey M → Checked String
  | .text s => .ok s
  | .object _ => .error (.protocol "invalid_key" "V1 密钥须为字符串。")

/-- The signature of the protocol. -/
def signEpay (parameters : EpaySignable) (protocol : EpayProtocol) (key : EpayKey M) : Checked String :=
  match protocol with
  | .epayV2 => signEpayV2 env parameters key
  | .epayV1 => do
    let key ← textKey key
    signEpayV1 env parameters key

def buildEpayNotification (order : EpayNotificationOrder) (protocol : EpayProtocol) (key : EpayKey M)
    (nowMilliseconds : Int) : Checked EpayParameters := do
  let money ← moneyFromCents order.moneyCents
  let sign ← signEpay env (signable (notificationFields order protocol money nowMilliseconds)) protocol key
  pure (notificationFields order protocol money nowMilliseconds ++ [("sign", sign)])

/-! ## Callback addresses -/

/-- The loop over the names that the address has. -/
def checkNames : EpayParameters → Checked Unit
  | [] => .ok ()
  | (name, _) :: rest => do
    refuse (name.toList.contains '.')
      (.protocol "invalid_return_url" "回调地址参数名不能包含点号，PHP 接收端会改变该名称。")
    refuse (epayNotificationFields.contains name) (.protocol "invalid_return_url" "返回地址已有易支付保留参数。")
    checkNames rest

def appendEpayParameters (target : String) (parameters : EpayParameters) : Checked String := do
  let url ← required (env.url target) .typeError
  let existing ← parseEpayParameters url.search .absent
  checkNames existing
  pure (url.append env.replaced parameters).href

def buildEpayCallbackUrl (target : String) (order : EpayNotificationOrder) (protocol : EpayProtocol) (key : EpayKey M)
    (nowMilliseconds : Int) : Checked String := do
  let _ ← appendEpayParameters env target []
  let url ← required (env.url target) .typeError
  let existing ← parseEpayParameters url.search .absent
  let notification ← buildEpayNotification env order protocol key nowMilliseconds
  let sign ← signEpay env (signable (spread existing notification)) protocol key
  appendEpayParameters env target (setProperty "sign" sign notification)

end Protocol

end PerPay.Epay
