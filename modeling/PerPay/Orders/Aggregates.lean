/-
  **Order aggregates** — the joined row that every read of the order store returns, the checks it
  passes before it is returned, and the key its checkout token is derived from.
-/
import PerPay.Orders.Statements

namespace PerPay.Orders

open Txn

/-! ## Aggregates: an order with its checkout, its profile and its notification target -/

structure Aggregate where
  order : PaymentOrder
  checkout : CheckoutSession
  collectionProfile : CollectionProfile
  webhookTarget : Option StoredWebhookTarget
  deriving DecidableEq, Repr

structure StoredOrderAggregate where
  aggregate : Aggregate
  checkoutToken : String
  deriving DecidableEq, Repr

section
variable (pf : Platform)

/-- `mapWebhookTarget`: the stored target must still be the one its URL prepares to. -/
def mapWebhookTarget (order : PaymentOrder) (target : Option StoredWebhookTarget) :
    OrderTx (Option StoredWebhookTarget) :=
  match target, order.webhookTargetRequestFingerprint with
  | none, none => pure none
  | none, some _ => fail (.error "webhook target commitment has no target")
  | some _, none => fail (.error "webhook target has no order commitment")
  | some t, some commitment => do
    let prepared ← orFail (.error "webhook_target_invalid")
      (pf.prepareWebhookTarget t.prepared.url t.prepared.allowedOrigin t.prepared.format)
    require (t.prepared.format = prepared.format ∧
        t.prepared.urlFingerprint = prepared.urlFingerprint ∧
        t.prepared.requestFingerprint = prepared.requestFingerprint ∧
        commitment = prepared.requestFingerprint)
      (.error "webhook target fingerprints do not match its URL")
    pure (some { t with prepared := prepared })

/-- `mapAggregate` on the joined row of `AGGREGATE_SELECT`; no row when a join finds nothing. -/
def readAggregate (find : PaymentOrder → Bool) : OrderTx (Option Aggregate) := do
  let db ← readWith id
  match db.orders.find? find with
  | none => pure none
  | some order =>
    match db.checkouts.find? (fun c => c.orderId = order.orderId),
        db.configuration.profiles.find? (fun p => p.profileId = order.collectionProfileId) with
    | some checkout, some profile => do
      require (order.noteFingerprint = fingerprintOrderNote pf order.note)
        (.error "order note fingerprint does not match its note")
      require (order.returnUrlFingerprint = fingerprintOrderReturnUrl pf order.returnUrl)
        (.error "order return URL fingerprint does not match its return URL")
      let target ← mapWebhookTarget pf order
        (db.webhookTargets.find? fun t => t.orderId = order.orderId)
      pure (some ⟨order, checkout, profile, target⟩)
    | _, _ => pure none

def readAggregateById (apiClientId : String) (orderId : Uuid) : OrderTx (Option Aggregate) :=
  readAggregate pf fun o => o.apiClientId = apiClientId && o.orderId = orderId

def readAggregateByAdminId (orderId : Uuid) : OrderTx (Option Aggregate) :=
  readAggregate pf fun o => o.orderId = orderId

def readAggregateByMerchantOrderNumber (apiClientId merchantOrderNo : String) :
    OrderTx (Option Aggregate) :=
  readAggregate pf fun o => o.apiClientId = apiClientId && o.merchantOrderNo = merchantOrderNo

def readAggregateByIdempotencyDigest (apiClientId digest : String) : OrderTx (Option Aggregate) :=
  readAggregate pf fun o => o.apiClientId = apiClientId && o.idempotencyKeyDigest = digest

/-- The first order found under a former namespace of the client. -/
def readAggregateByNamespaces (apiClientId idempotencyKey : String) :
    List String → OrderTx (Option Aggregate)
  | [] => pure none
  | namespaceId :: rest => do
    match ← readAggregateByIdempotencyDigest pf apiClientId
        (digestIdempotencyKey pf namespaceId idempotencyKey) with
    | some aggregate => pure (some aggregate)
    | none => readAggregateByNamespaces apiClientId idempotencyKey rest

def readAggregateByLegacyIdempotencyKey (apiClientId idempotencyKey : String) :
    OrderTx (Option Aggregate) := do
  let namespaces ← readWith fun db =>
    ((db.configuration.idempotencyNamespaces.filter fun n => n.1 = apiClientId).map (·.2)).mergeSort
      (fun a b => decide (a ≤ b))
  readAggregateByNamespaces pf apiClientId idempotencyKey namespaces

def readAggregateByTokenDigest (digest : String) : OrderTx (Option Aggregate) := do
  let checkouts ← readWith (·.checkouts)
  match checkouts.find? (fun c => c.tokenDigest = digest) with
  | none => pure none
  | some checkout => readAggregate pf fun o => o.orderId = checkout.orderId

/-- `withCheckoutToken`: the token is derived again and must digest to the stored digest. -/
def withCheckoutToken (aggregate : Aggregate) : OrderTx StoredOrderAggregate := do
  let keys ← readWith (·.tokenKeys)
  let key ← orFail (.error "checkout token key version is missing or invalid")
    (keys.find? fun k => k.keyVersion = aggregate.checkout.tokenKeyVersion)
  let token := deriveCheckoutToken pf key.keyMaterial aggregate.checkout.checkoutId
  require (digestCheckoutToken pf token = aggregate.checkout.tokenDigest)
    (.error "checkout token key does not match the persisted token digest")
  pure ⟨aggregate, token⟩

end

/-! ## The checkout token key -/

/-- `readOrRotateActiveCheckoutTokenKey`; `material` is what `randomBytes(32)` would return. -/
def readOrRotateActiveCheckoutTokenKey (now rotationMilliseconds : Nat) (material : String) :
    OrderTx CheckoutTokenKey := do
  let keys ← readWith (·.tokenKeys)
  let current ← orFail (.error "active checkout token key is missing or invalid")
    (keys.find? fun k => k.retiredAt = none)
  -- `now - activated_at < rotation`, also when the key was activated later than `now`
  if now < current.activatedAt + rotationMilliseconds then pure current
  else do
    require (isSafeInteger (current.keyVersion + 1))
      (.error "checkout token key version is outside the safe integer range")
    -- `checkout_token_keys_monotonic_insert`, after the retirement of the current key
    require (keys.all fun k => k.keyVersion ≤ current.keyVersion && k.activatedAt ≤ now &&
        (k.keyVersion = current.keyVersion || k.retiredAt ≠ none))
      (.sqlite "checkout token key version is invalid")
    let next : CheckoutTokenKey := ⟨current.keyVersion + 1, material, now, none⟩
    update fun db => { db with tokenKeys :=
      (db.tokenKeys.map fun k =>
        if k.keyVersion = current.keyVersion then { k with retiredAt := some now } else k) ++ [next] }
    pure next

end PerPay.Orders
