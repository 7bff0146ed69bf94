/-
  **The order tables** — the rows, constants and errors of the order store.

  One structure per table, one field per column that a modelled function reads or writes.  Column
  names are the source's own, in camelCase.  Columns whose value is fixed by the schema (`currency`
  is `'CNY'`, the fingerprint version numbers are `1`) are left out, and so are the columns that
  only reporting reads.

  * identifiers made by `randomUUID` are `Uuid`s: a canonical lowercase UUID is a 128-bit number in
    a fixed-width text, so comparing two texts is comparing two numbers;
  * times are milliseconds and amounts are cents, both `Nat`, with the safe-integer guards of the
    source kept where the source has them;
  * what Node's crypto and `URL` compute is not in the repository: `Platform` collects it.
-/
import Mathlib.Data.List.Basic
import Mathlib.Data.List.Nodup

namespace PerPay

/-! ## Numbers, identifiers, errors -/

/-- `Number.MAX_SAFE_INTEGER`. -/
def maxSafeInteger : Nat := 9007199254740991

/-- `Number.isSafeInteger` on a natural number. -/
def isSafeInteger (n : Nat) : Bool := n ≤ maxSafeInteger

/-- A canonical UUID, as the number its 32 hexadecimal digits spell. -/
abbrev Uuid : Type := Nat

/-- What can abort a transaction: a `RangeError`, a named error of the store, a plain `Error`, or a
    constraint or trigger of the schema. -/
inductive Fault
  | rangeError (message : String)
  | orderClockError
  | siteError (code : String) (retryAfterSeconds : Option Nat)
  | reconciliationError (code message : String)
  | adminOperationError (status : Nat) (code : String)
  | ledgerError (code message : String)
  | normalizationError (code message : String)
  | error (message : String)
  | sqlite (message : String)
  deriving DecidableEq, Repr

end PerPay

namespace PerPay.Orders

/-! ## Constants -/

def maxRequestedAmountCents : Nat := 9_999_999_998
def maxPayableAmountCents : Nat := maxRequestedAmountCents + 1
def maxOrderClockAheadMilliseconds : Nat := 5 * 60 * 1000
def expirySweepLimit : Nat := 256
def defaultAmountReuseCooldownSeconds : Nat := 600
def minAmountReuseCooldownSeconds : Nat := 60
def maxAmountReuseCooldownSeconds : Nat := 3600

/-! ## Enumerations -/

inductive CheckoutStatus
  | OPEN | EXPIRED | CLOSED
  deriving DecidableEq, Repr

inductive PaymentStatus
  | UNPAID | CONFIRMED | DISPUTED
  deriving DecidableEq, Repr

inductive PaymentBasis
  | NONE | INFERRED | MANUAL
  deriving DecidableEq, Repr

inductive OrderEventType
  | CREATED | CHECKOUT_CLOSED | CHECKOUT_EXPIRED | PAYMENT_CONFIRMED | PAYMENT_DISPUTED
  deriving DecidableEq, Repr

inductive WebhookTargetFormat
  | NATIVE_JSON_V1 | EPAY_V1 | EPAY_V2
  deriving DecidableEq, Repr

inductive WebhookTargetErrorCode
  | webhook_disabled | webhook_target_invalid | webhook_target_not_allowed
  deriving DecidableEq, Repr

inductive ReturnUrlErrorCode
  | return_url_invalid | return_url_not_allowed
  deriving DecidableEq, Repr

inductive EpayProtocol
  | epay_v1 | epay_v2
  deriving DecidableEq, Repr

/-! ## Rows -/

/-- A row of `payment_orders`. -/
structure PaymentOrder where
  orderId : Uuid
  apiClientId : String
  alipayAccountId : String
  merchantOrderNo : String
  idempotencyKeyDigest : String
  requestFingerprint : String
  webhookTargetRequestFingerprint : Option String
  requestedAmountCents : Nat
  payableAmountCents : Nat
  allocationOffsetMaximumCents : Nat
  amountReuseCooldownSeconds : Nat
  receivedAmountCents : Option Nat
  productName : String
  note : Option String
  noteFingerprint : String
  returnUrl : Option String
  returnUrlFingerprint : String
  collectionProfileId : Uuid
  checkoutStatus : CheckoutStatus
  paymentStatus : PaymentStatus
  paymentBasis : PaymentBasis
  eligibleFrom : Nat
  createdAt : Nat
  expiresAt : Nat
  closedAt : Option Nat
  updatedAt : Nat
  version : Nat
  deriving DecidableEq, Repr

/-- A row of `amount_slots`. -/
structure AmountSlot where
  slotId : Uuid
  orderId : Uuid
  alipayAccountId : String
  collectionProfileId : Uuid
  payableAmountCents : Nat
  generation : Nat
  occupiedFrom : Nat
  releasedAt : Option Nat
  releaseReason : Option CheckoutStatus
  deriving DecidableEq, Repr

/-- The `details_json` of an order event. -/
inductive OrderEventDetails
  | created (amountOffsetCents slotGeneration : Nat)
  | reason (reason : String)
  | payment (financialOperationId paymentMatchId : Uuid) (candidateId : Option Uuid)
      (evidenceType : Option String)
  deriving DecidableEq, Repr

/-- A row of `order_events`; its random `event_id` is left out. -/
structure OrderEvent where
  orderId : Uuid
  sequence : Nat
  type : OrderEventType
  occurredAt : Nat
  details : OrderEventDetails
  deriving DecidableEq, Repr

/-- A row of `checkout_sessions`. -/
structure CheckoutSession where
  checkoutId : Uuid
  orderId : Uuid
  tokenDigest : String
  tokenKeyVersion : Nat
  terminalObservationMilliseconds : Nat
  deriving DecidableEq, Repr

/-- A row of `checkout_token_keys`. -/
structure CheckoutTokenKey where
  keyVersion : Nat
  keyMaterial : String
  activatedAt : Nat
  retiredAt : Option Nat
  deriving DecidableEq, Repr

/-- What `prepareWebhookTarget` makes of an accepted notification URL. -/
structure PreparedWebhookTarget where
  format : WebhookTargetFormat
  url : String
  allowedOrigin : String
  urlFingerprint : String
  requestFingerprint : String
  deriving DecidableEq, Repr

/-- A row of `webhook_targets`. -/
structure StoredWebhookTarget where
  targetId : Uuid
  orderId : Uuid
  apiClientId : String
  prepared : PreparedWebhookTarget
  createdAt : Nat
  deriving DecidableEq, Repr

/-- A row of `epay_orders`. -/
structure EpayOrder where
  orderId : Uuid
  siteId : String
  protocol : EpayProtocol
  param : Option String
  requestFingerprint : String
  returnUrl : Option String
  createdAt : Nat
  deriving DecidableEq, Repr

/-- A row of `collection_profiles`, joined with its row of `collection_profile_provider_accounts`
    when it has one. -/
structure CollectionProfile where
  profileId : Uuid
  alipayAccountId : String
  version : Nat
  providerAccountKey : String
  linkedProviderAccountKey : Option String
  codePayload : String
  createdAt : Nat
  deriving DecidableEq, Repr

/-- The columns of `sites` that order admission reads. -/
structure Site where
  clientId : String
  revision : Nat
  deleted : Bool
  acceptingOrders : Bool
  pendingOrderLimit : Option Nat
  deriving DecidableEq, Repr

/-- The columns of `epay_sites` that order creation reads. -/
structure EpaySite where
  siteId : String
  revision : Nat
  v1Enabled : Bool
  v2Enabled : Bool
  deriving DecidableEq, Repr

/-- The tables that order creation only reads; settings, sites and accounts write them. -/
structure Configuration where
  profiles : List CollectionProfile
  activeProfileId : Option Uuid
  sites : List Site
  epaySites : List EpaySite
  idempotencyNamespaces : List (String × String)
  deriving DecidableEq, Repr

/-- The order tables. -/
structure OrderDb where
  clock : Nat
  orders : List PaymentOrder
  slots : List AmountSlot
  events : List OrderEvent
  checkouts : List CheckoutSession
  webhookTargets : List StoredWebhookTarget
  epayOrders : List EpayOrder
  tokenKeys : List CheckoutTokenKey
  apiClients : List String
  configuration : Configuration
  deriving DecidableEq, Repr

/-- An empty order store: no order was ever created; the clock, the token keys and the
    configuration are whatever the installation made them. -/
structure OrderDb.Empty (db : OrderDb) : Prop where
  orders : db.orders = []
  slots : db.slots = []
  events : db.events = []
  checkouts : db.checkouts = []
  webhookTargets : db.webhookTargets = []
  epayOrders : db.epayOrders = []

/-! ## The platform -/

/-- What Node computes for the order store: SHA-256 and HMAC-SHA-256 of `node:crypto`, the text of a
    UUID, the normal form `new URL(text).toString()` (`none` when the constructor throws), and the
    check of a notification URL, which is built on the same `URL` class. -/
structure Platform where
  sha256 : String → String
  hmacSha256 : String → String → String
  uuidText : Uuid → String
  canonicalUrl : String → Option String
  prepareWebhookTarget : String → String → WebhookTargetFormat → Option PreparedWebhookTarget

section
variable (pf : Platform)

def digestIdempotencyKey (apiClientId idempotencyKey : String) : String :=
  pf.sha256 ("perpay:idempotency-key:v1\x00" ++ apiClientId ++ "\x00" ++ idempotencyKey)

def fingerprintOrderNote (note : Option String) : String :=
  pf.sha256 ("perpay:order-note:v1\x00" ++ note.getD "")

/-- The JSON array hashed here is written as its parts: `null` and a quoted text differ in their
    first character. -/
def fingerprintOrderReturnUrl (returnUrl : Option String) : String :=
  pf.sha256 ("perpay:order-return-url:v1\x00" ++
    (match returnUrl with
     | none => "[1,null]"
     | some url => "[1,\"" ++ url ++ "\"]"))

def deriveCheckoutToken (key : String) (checkoutId : Uuid) : String :=
  "pct1_" ++ pf.hmacSha256 key ("perpay:checkout-token:v1\x00" ++ pf.uuidText checkoutId)

def digestCheckoutToken (token : String) : String := pf.sha256 token

end

/-! ## Row checks of the schema -/

/-- The `CHECK`s of `payment_orders` on amounts, times and states. -/
def PaymentOrder.rowChecks (o : PaymentOrder) : Bool :=
  (1 ≤ o.requestedAmountCents && o.requestedAmountCents ≤ 9999999998) &&
  (2 ≤ o.payableAmountCents && o.payableAmountCents ≤ 9999999999) &&
  (1 ≤ o.allocationOffsetMaximumCents && o.allocationOffsetMaximumCents ≤ 99) &&
  (o.requestedAmountCents + 1 ≤ o.payableAmountCents &&
    o.payableAmountCents ≤ o.requestedAmountCents + o.allocationOffsetMaximumCents) &&
  (60 ≤ o.amountReuseCooldownSeconds && o.amountReuseCooldownSeconds ≤ 3600) &&
  (match o.receivedAmountCents with | none => true | some r => 1 ≤ r && r ≤ 9999999999) &&
  (o.eligibleFrom = o.createdAt) && (o.createdAt < o.expiresAt) && (o.createdAt ≤ o.updatedAt) &&
  (match o.checkoutStatus, o.closedAt with
   | .OPEN, none => true
   | .CLOSED, some closed => o.createdAt ≤ closed && closed < o.expiresAt
   | .EXPIRED, some closed => o.expiresAt ≤ closed
   | _, _ => false) &&
  (match o.paymentStatus, o.paymentBasis, o.receivedAmountCents with
   | .UNPAID, .NONE, none => true
   | .CONFIRMED, .INFERRED, some _ => true
   | .CONFIRMED, .MANUAL, some _ => true
   | .DISPUTED, .INFERRED, some _ => true
   | .DISPUTED, .MANUAL, some _ => true
   | _, _, _ => false)

/-- The time an order stopped holding its amount: its expiry when it expired, however late the
    sweep noticed, its close time when it was closed. -/
def PaymentOrder.endedAt (o : PaymentOrder) : Nat :=
  if o.checkoutStatus = .EXPIRED then o.expiresAt else o.closedAt.getD o.expiresAt

/-- The first time the amount of an ended order may be handed out again. -/
def PaymentOrder.reusableAt (o : PaymentOrder) : Nat :=
  o.endedAt + o.amountReuseCooldownSeconds * 1000

end PerPay.Orders
