/-
  **The order store** — the public operations of `OrderStore` of `database/order-store.ts`, and the
  store as a transition system.

  Every operation runs in one write transaction: it folds the physical clock into the persisted
  order clock, reads, writes and returns, or throws and is rolled back.  `createOrder` first looks
  for a replay of its idempotency key; only then does it check admission, look for a free amount and
  write the rows of a new order.
-/
import PerPay.Lib.Runs
import PerPay.Orders.Aggregates

namespace PerPay.Orders

open Txn

/-! ## Creating an order: the input and its checks -/

structure EpayOrderCreation where
  siteId : String
  protocol : EpayProtocol
  configurationRevision : Nat
  requestFingerprint : String
  param : Option String
  returnUrl : Option String
  deriving DecidableEq, Repr

structure CreateOrderRequest where
  idempotencyKey : String
  merchantOrderNo : String
  amountCents : Nat
  productName : String
  note : Option String
  notifyUrl : Option String
  returnUrl : Option String
  deriving DecidableEq, Repr

structure CreateStoredOrderInput where
  epay : Option EpayOrderCreation
  apiClientId : String
  collectionProfileIds : Option (List Uuid)
  siteRevision : Option Nat
  request : CreateOrderRequest
  idempotencyKeyDigest : String
  requestFingerprint : String
  ttlMilliseconds : Nat
  amountOffsetMaximumCents : Nat
  amountReuseCooldownSeconds : Option Nat
  checkoutKeyRotationMilliseconds : Nat
  checkoutTerminalObservationMilliseconds : Nat
  webhookTarget : Option PreparedWebhookTarget
  webhookTargetRejection : Option (String × WebhookTargetErrorCode)
  returnUrl : Option String
  returnUrlRejection : Option (String × ReturnUrlErrorCode)
  deriving DecidableEq, Repr

/-- What `randomUUID` and `randomBytes` return during one creation. -/
structure CreateRandomness where
  orderId : Uuid
  checkoutId : Uuid
  slotId : Uuid
  targetId : Uuid
  keyMaterial : String
  deriving DecidableEq, Repr

inductive CreateStoredOrderResult
  | created (aggregate : StoredOrderAggregate)
  | existing (aggregate : StoredOrderAggregate)
  | idempotencyConflict (orderId : Uuid)
  | merchantOrderConflict (orderId : Uuid)
  | webhookTargetRejected (code : WebhookTargetErrorCode)
  | returnUrlRejected (code : ReturnUrlErrorCode)
  | amountSlotsExhausted (retryAfterSeconds : Nat)
  deriving DecidableEq, Repr

section
variable (pf : Platform)

def validateWebhookTargetInput (input : CreateStoredOrderInput) : OrderTx Unit := do
  require (¬ (input.webhookTarget.isSome ∧ input.webhookTargetRejection.isSome))
    (.rangeError "order webhook target input is ambiguous")
  match input.request.notifyUrl, input.webhookTargetRejection, input.webhookTarget with
  | none, none, none => pure ()
  | none, _, _ => fail (.rangeError "order webhook target has no request URL")
  | some requestedUrl, some (url, _), _ =>
    require (url = requestedUrl)
      (.rangeError "rejected order webhook target does not match the request")
  | some _, none, none => fail (.rangeError "order webhook target is missing")
  | some requestedUrl, none, some target =>
    require (pf.prepareWebhookTarget requestedUrl target.allowedOrigin target.format = some target)
      (.rangeError "order webhook target does not match the request")

def validateReturnUrlInput (input : CreateStoredOrderInput) : OrderTx Unit := do
  require (¬ (input.returnUrl.isSome ∧ input.returnUrlRejection.isSome))
    (.rangeError "order return URL input is ambiguous")
  match input.request.returnUrl, input.returnUrlRejection, input.returnUrl with
  | none, none, none => pure ()
  | none, _, _ => fail (.rangeError "order return URL has no request URL")
  | some requestedUrl, some (url, _), _ =>
    require (url = requestedUrl) (.rangeError "rejected order return URL does not match the request")
  | some _, none, none => fail (.rangeError "order return URL is missing")
  | some requestedUrl, none, some returnUrl => do
    let canonical ← orFail (.rangeError "order return URL is invalid") (pf.canonicalUrl requestedUrl)
    require (canonical = returnUrl) (.rangeError "order return URL does not match the request")

/-! ## Replays -/

def sameEpayRequest (db : OrderDb) (orderId : Uuid) (input : Option EpayOrderCreation) : Bool :=
  match db.epayOrders.find? (fun e => e.orderId = orderId), input with
  | none, none => true
  | some existing, some i =>
    existing.siteId = i.siteId && existing.protocol = i.protocol &&
    existing.requestFingerprint = i.requestFingerprint && existing.param = i.param &&
    existing.returnUrl = i.returnUrl
  | _, _ => false

def sameReturnUrlRequest (stored requested : Option String)
    (rejected : Option (String × ReturnUrlErrorCode)) : Bool :=
  match rejected with
  | none => stored = requested
  | some (url, _) =>
    match stored, pf.canonicalUrl url with
    | some s, some canonical => canonical = s
    | _, _ => false

def sameWebhookTarget (stored : Option StoredWebhookTarget)
    (requested : Option PreparedWebhookTarget) : Bool :=
  match stored, requested with
  | none, none => true
  | some s, some r => s.prepared = r
  | _, _ => false

def sameWebhookTargetRequest (stored : Option StoredWebhookTarget)
    (requested : Option PreparedWebhookTarget)
    (rejected : Option (String × WebhookTargetErrorCode)) : Bool :=
  match rejected with
  | none => sameWebhookTarget stored requested
  | some (url, _) =>
    match stored, requested with
    | some s, none =>
      match pf.prepareWebhookTarget url s.prepared.allowedOrigin .NATIVE_JSON_V1 with
      | some prepared => sameWebhookTarget stored (some prepared)
      | none => false
    | _, _ => false

/-- Is the stored order the one this request asked for? -/
def sameRequest (db : OrderDb) (input : CreateStoredOrderInput) (a : Aggregate) : Bool :=
  sameEpayRequest db a.order.orderId input.epay &&
  a.order.requestFingerprint = input.requestFingerprint &&
  a.order.noteFingerprint = fingerprintOrderNote pf input.request.note &&
  sameReturnUrlRequest pf a.order.returnUrl input.returnUrl input.returnUrlRejection &&
  sameWebhookTargetRequest pf a.webhookTarget input.webhookTarget input.webhookTargetRejection

/-- An aggregate that was read as open although it is due is expired and read again. -/
def expireIfDue (reread : OrderTx (Option Aggregate)) (message : String) (now : Nat)
    (found : Aggregate) : OrderTx Aggregate :=
  if found.order.checkoutStatus = .OPEN ∧ found.order.expiresAt ≤ now then do
    expireOrder found.order.orderId now
    let again ← reread
    orFail (.error message) again
  else pure found

/-- The replay of a used key: expire the order when it is due, read it again, and answer with it or
    with a conflict.  The current and the legacy digest take the same path; `reread` is their read. -/
def replayOrder (input : CreateStoredOrderInput) (now : Nat) (reread : OrderTx (Option Aggregate))
    (message : String) (found : Aggregate) : OrderTx CreateStoredOrderResult := do
  let current ← expireIfDue reread message now found
  let db ← readWith id
  if sameRequest pf db input current then do
    let aggregate ← withCheckoutToken pf current
    pure (.existing aggregate)
  else pure (.idempotencyConflict current.order.orderId)

/-! ## Creating an order: admission -/

/-- `readSite`: a site that is not deleted. -/
def OrderDb.site (db : OrderDb) (clientId : String) : Option Site :=
  db.configuration.sites.find? fun s => s.clientId = clientId && !s.deleted

/-- The open unpaid orders of a client that are not due yet. -/
def OrderDb.pendingOrders (db : OrderDb) (clientId : String) (now : Nat) : List PaymentOrder :=
  db.orders.filter fun o =>
    o.apiClientId = clientId && o.checkoutStatus = .OPEN && o.paymentStatus = .UNPAID && now < o.expiresAt

/-- Seconds until the earliest pending order expires, at least one. -/
def pendingRetryAfterSeconds (pending : List PaymentOrder) (now : Nat) : Option Nat :=
  (pending.map (·.expiresAt)).min?.map fun earliest => max 1 ((earliest - now + 999) / 1000)

def assertSiteCanCreate (clientId : String) (now : Nat) : OrderTx Unit := do
  let db ← readWith id
  let site ← orFail (.siteError "site_not_found" none) (db.site clientId)
  require site.acceptingOrders (.siteError "site_paused" none)
  match site.pendingOrderLimit with
  | none => pure ()
  | some limit =>
    require ((db.pendingOrders clientId now).length < limit)
      (.siteError "site_order_limit_exceeded"
        (pendingRetryAfterSeconds (db.pendingOrders clientId now) now))

/-- The site must still have the revision the request was prepared under. -/
def assertSiteRevision (input : CreateStoredOrderInput) (now : Nat) : OrderTx Unit :=
  match input.siteRevision with
  | none => pure ()
  | some revision => do
    let db ← readWith id
    require ((db.site input.apiClientId).any fun site => site.revision = revision)
      (.siteError "site_revision_conflict" none)
    assertSiteCanCreate input.apiClientId now

def assertEpayConfiguration (input : CreateStoredOrderInput) : OrderTx Unit :=
  match input.epay with
  | none => pure ()
  | some epay => do
    let db ← readWith id
    require (epay.siteId = input.apiClientId ∧
        (db.configuration.epaySites.find? fun e => e.siteId = input.apiClientId).any fun e =>
          e.revision = epay.configurationRevision &&
          (match epay.protocol with | .epay_v1 => e.v1Enabled | .epay_v2 => e.v2Enabled))
      (.siteError "site_revision_conflict" none)

def OrderDb.profile (db : OrderDb) (profileId : Uuid) : Option CollectionProfile :=
  db.configuration.profiles.find? fun p => p.profileId = profileId

/-- The profiles an order may be collected by: the listed ones in their order, or the active one. -/
def readProfiles (collectionProfileIds : Option (List Uuid)) : OrderTx (List CollectionProfile) := do
  let db ← readWith id
  let profiles :=
    match collectionProfileIds with
    | none => [db.configuration.activeProfileId.bind db.profile]
    | some ids => ids.map db.profile
  require (profiles ≠ [] ∧ profiles.all (·.isSome)) (.error "collection profile is not initialized")
  pure (profiles.filterMap id)

/-- The first profile with a free amount, or the soonest retry over all of them. -/
def selectProfile (requestedAmountCents maximumOffsetCents now : Nat) :
    List CollectionProfile → Option Nat → OrderTx (Except Nat (CollectionProfile × Nat × Nat))
  | [], retryAfter => pure (.error (retryAfter.getD 0))
  | profile :: profiles, retryAfter => do
    match ← allocateAmountSlot profile.alipayAccountId requestedAmountCents maximumOffsetCents now with
    | .allocated payableAmountCents generation =>
      pure (.ok (profile, payableAmountCents, generation))
    | .exhausted seconds =>
      selectProfile requestedAmountCents maximumOffsetCents now profiles
        (some (minimumDefined retryAfter seconds))

/-! ## Creating an order: the rows -/

def newOrder (input : CreateStoredOrderInput) (rnd : CreateRandomness) (profile : CollectionProfile)
    (payableAmountCents cooldown now : Nat) : PaymentOrder where
  orderId := rnd.orderId
  apiClientId := input.apiClientId
  alipayAccountId := profile.alipayAccountId
  merchantOrderNo := input.request.merchantOrderNo
  idempotencyKeyDigest := input.idempotencyKeyDigest
  requestFingerprint := input.requestFingerprint
  webhookTargetRequestFingerprint := input.webhookTarget.map (·.requestFingerprint)
  requestedAmountCents := input.request.amountCents
  payableAmountCents := payableAmountCents
  allocationOffsetMaximumCents := input.amountOffsetMaximumCents
  amountReuseCooldownSeconds := cooldown
  receivedAmountCents := none
  productName := input.request.productName
  note := input.request.note
  noteFingerprint := fingerprintOrderNote pf input.request.note
  returnUrl := input.returnUrl
  returnUrlFingerprint := fingerprintOrderReturnUrl pf input.returnUrl
  collectionProfileId := profile.profileId
  checkoutStatus := .OPEN
  paymentStatus := .UNPAID
  paymentBasis := .NONE
  eligibleFrom := now
  createdAt := now
  expiresAt := now + input.ttlMilliseconds
  closedAt := none
  updatedAt := now
  version := 1

def insertPaymentOrder (order : PaymentOrder) : OrderTx Unit := do
  let db ← readWith id
  require order.rowChecks (.sqlite "CHECK constraint failed: payment_orders")
  require (db.profile order.collectionProfileId).isSome (.sqlite "FOREIGN KEY constraint failed")
  require (db.orders.all fun o => o.orderId ≠ order.orderId &&
      !(o.apiClientId = order.apiClientId && o.merchantOrderNo = order.merchantOrderNo) &&
      !(o.apiClientId = order.apiClientId && o.idempotencyKeyDigest = order.idempotencyKeyDigest) &&
      !(o.alipayAccountId = order.alipayAccountId && o.payableAmountCents = order.payableAmountCents &&
        o.checkoutStatus = .OPEN))
    (.sqlite "UNIQUE constraint failed: payment_orders")
  update fun db => { db with orders := db.orders ++ [order] }

def insertEpayOrder (input : CreateStoredOrderInput) (orderId : Uuid) (now : Nat) : OrderTx Unit :=
  match input.epay with
  | none => pure ()
  | some epay => update fun db => { db with epayOrders := db.epayOrders ++
      [⟨orderId, epay.siteId, epay.protocol, epay.param, epay.requestFingerprint, epay.returnUrl, now⟩] }

def insertWebhookTarget (input : CreateStoredOrderInput) (targetId orderId : Uuid) (now : Nat) :
    OrderTx Unit :=
  match input.webhookTarget with
  | none => pure ()
  | some prepared => update fun db => { db with webhookTargets := db.webhookTargets ++
      [⟨targetId, orderId, input.apiClientId, prepared, now⟩] }

def insertCheckoutSession (session : CheckoutSession) : OrderTx Unit := do
  let db ← readWith id
  require (60000 ≤ session.terminalObservationMilliseconds ∧
      session.terminalObservationMilliseconds ≤ 604800000)
    (.sqlite "CHECK constraint failed: checkout_sessions")
  require ((db.orders.any fun o => o.orderId = session.orderId) ∧
      (db.tokenKeys.any fun k => k.keyVersion = session.tokenKeyVersion))
    (.sqlite "FOREIGN KEY constraint failed")
  require (db.checkouts.all fun c => c.checkoutId ≠ session.checkoutId &&
      c.orderId ≠ session.orderId && c.tokenDigest ≠ session.tokenDigest)
    (.sqlite "UNIQUE constraint failed: checkout_sessions")
  update fun db => { db with checkouts := db.checkouts ++ [session] }

def ensureApiClientIdentity (clientId : String) : OrderTx Unit :=
  update fun db => { db with apiClients :=
    if clientId ∈ db.apiClients then db.apiClients else db.apiClients ++ [clientId] }

/-- The rows of one new order, in the order the source writes them. -/
def insertOrderRows (input : CreateStoredOrderInput) (rnd : CreateRandomness)
    (profile : CollectionProfile) (payableAmountCents generation cooldown now : Nat) :
    OrderTx CreateStoredOrderResult := do
  let key ← readOrRotateActiveCheckoutTokenKey now input.checkoutKeyRotationMilliseconds rnd.keyMaterial
  let token := deriveCheckoutToken pf key.keyMaterial rnd.checkoutId
  ensureApiClientIdentity input.apiClientId
  insertPaymentOrder (newOrder pf input rnd profile payableAmountCents cooldown now)
  insertEpayOrder input rnd.orderId now
  insertWebhookTarget input rnd.targetId rnd.orderId now
  insertCheckoutSession ⟨rnd.checkoutId, rnd.orderId, digestCheckoutToken pf token, key.keyVersion,
    input.checkoutTerminalObservationMilliseconds⟩
  insertAmountSlot ⟨rnd.slotId, rnd.orderId, profile.alipayAccountId, profile.profileId,
    payableAmountCents, generation, now, none, none⟩
  insertOrderEvent ⟨rnd.orderId, 1, .CREATED, now,
    .created (payableAmountCents - input.request.amountCents) generation⟩
  let inserted ← readAggregateById pf input.apiClientId rnd.orderId
  let aggregate ← orFail (.error "inserted order aggregate cannot be read") inserted
  pure (.created ⟨aggregate, token⟩)

/-! ## The operations -/

/-- The part of a creation after the replays: admission, an amount, and the rows. -/
def createFreshOrder (input : CreateStoredOrderInput) (rnd : CreateRandomness)
    (beforeCreate : Option Fault) (cooldown now : Nat) : OrderTx CreateStoredOrderResult := do
  assertSiteRevision input now
  match beforeCreate with
  | some fault => fail fault
  | none => do
    assertEpayConfiguration input
    match input.webhookTargetRejection, input.returnUrlRejection with
    | some (_, code), _ => pure (.webhookTargetRejected code)
    | none, some (_, code) => pure (.returnUrlRejected code)
    | none, none => do
      match ← readAggregateByMerchantOrderNumber pf input.apiClientId input.request.merchantOrderNo with
      | some merchantOrder => pure (.merchantOrderConflict merchantOrder.order.orderId)
      | none => do
        let profiles ← readProfiles input.collectionProfileIds
        match ← selectProfile input.request.amountCents input.amountOffsetMaximumCents now profiles none with
        | .error retryAfterSeconds => pure (.amountSlotsExhausted retryAfterSeconds)
        | .ok (profile, payableAmountCents, generation) => do
          require (isSafeInteger (now + input.ttlMilliseconds) ∧ now < now + input.ttlMilliseconds ∧
              isSafeInteger (now + input.ttlMilliseconds + cooldown * 1000))
            (.rangeError "order expiry is outside the safe integer range")
          insertOrderRows pf input rnd profile payableAmountCents generation cooldown now

/-- `createOrder`.  `beforeCreate` is the error the caller's callback throws, if it throws. -/
def createOrder (input : CreateStoredOrderInput) (rnd : CreateRandomness) (beforeCreate : Option Fault)
    (r : ClockReading) : OrderTx CreateStoredOrderResult := do
  validateWebhookTargetInput pf input
  validateReturnUrlInput pf input
  let cooldown := input.amountReuseCooldownSeconds.getD defaultAmountReuseCooldownSeconds
  require (minAmountReuseCooldownSeconds ≤ cooldown ∧ cooldown ≤ maxAmountReuseCooldownSeconds)
    (.rangeError "amount reuse cooldown is invalid")
  assertPositiveSafeInteger input.checkoutKeyRotationMilliseconds "checkout token key rotation interval"
  assertPositiveSafeInteger input.checkoutTerminalObservationMilliseconds
    "checkout terminal observation interval"
  let now ← logicalNow r
  expireDueOrders now expirySweepLimit
  match ← readAggregateByIdempotencyDigest pf input.apiClientId input.idempotencyKeyDigest with
  | some found =>
    replayOrder pf input now
      (readAggregateByIdempotencyDigest pf input.apiClientId input.idempotencyKeyDigest)
      "expired idempotent order cannot be read" found
  | none => do
    match ← readAggregateByLegacyIdempotencyKey pf input.apiClientId input.request.idempotencyKey with
    | some found =>
      replayOrder pf input now
        (readAggregateByLegacyIdempotencyKey pf input.apiClientId input.request.idempotencyKey)
        "expired migrated order replay cannot be read" found
    | none => createFreshOrder pf input rnd beforeCreate cooldown now

/-- Answer with an aggregate and its token, or with nothing. -/
def withOptionalToken (aggregate : Option Aggregate) : OrderTx (Option StoredOrderAggregate) :=
  match aggregate with
  | none => pure none
  | some a => do
    let stored ← withCheckoutToken pf a
    pure (some stored)

def orderById (apiClientId : String) (orderId : Uuid) (r : ClockReading) :
    OrderTx (Option StoredOrderAggregate) := do
  let now ← logicalNow r
  expireOrderByIdIfDue apiClientId orderId now
  let aggregate ← readAggregateById pf apiClientId orderId
  withOptionalToken pf aggregate

def orderByMerchantOrderNumber (apiClientId merchantOrderNo : String) (r : ClockReading) :
    OrderTx (Option StoredOrderAggregate) := do
  let now ← logicalNow r
  match ← readAggregateByMerchantOrderNumber pf apiClientId merchantOrderNo with
  | none => pure none
  | some current => do
    expireOrderByIdIfDue apiClientId current.order.orderId now
    let aggregate ← readAggregateById pf apiClientId current.order.orderId
    withOptionalToken pf aggregate

/-- `adminOrderPage`.  Which rows a page selects depends on filters, search and cursor; `select` is
    that query.  The rows it selects that are open and due are expired, and then it is asked again. -/
def adminOrderPage (select : OrderDb → Nat → List PaymentOrder) (r : ClockReading) :
    OrderTx (List PaymentOrder) := do
  let now ← logicalNow r
  expireDueOrders now expirySweepLimit
  let rows ← readWith (select · now)
  let due := rows.filter fun o => o.checkoutStatus = .OPEN && o.expiresAt ≤ now
  forEach (expireOrder · now) (due.map (·.orderId))
  if due = [] then pure rows else readWith (select · now)

/-- `readAdminOrderEvents`: `ORDER BY sequence`. -/
def OrderDb.orderEvents (db : OrderDb) (orderId : Uuid) : List OrderEvent :=
  (db.events.filter fun e => e.orderId = orderId).mergeSort fun a b => a.sequence ≤ b.sequence

def adminOrderById (orderId : Uuid) (r : ClockReading) :
    OrderTx (Option (Aggregate × List OrderEvent)) := do
  let now ← logicalNow r
  match ← readAggregateByAdminId pf orderId with
  | none => pure none
  | some found => do
    expireOrderByIdIfDue found.order.apiClientId orderId now
    let again ← readAggregateByAdminId pf orderId
    let aggregate ← orFail (.error "administrator order aggregate cannot be read") again
    let events ← readWith (·.orderEvents orderId)
    pure (some (aggregate, events))

def adminOrderByMerchantOrderNumber (apiClientId merchantOrderNo : String) (r : ClockReading) :
    OrderTx (Option (Aggregate × List OrderEvent)) := do
  let now ← logicalNow r
  match ← readAggregateByMerchantOrderNumber pf apiClientId merchantOrderNo with
  | none => pure none
  | some found => do
    expireOrderByIdIfDue apiClientId found.order.orderId now
    let again ← readAggregateByMerchantOrderNumber pf apiClientId merchantOrderNo
    let aggregate ← orFail (.error "administrator merchant order aggregate cannot be read") again
    let events ← readWith (·.orderEvents aggregate.order.orderId)
    pure (some (aggregate, events))

/-- End an open checkout on request; when it is already due it expires instead. -/
def closeCheckout (apiClientId : String) (orderId : Uuid) (order : PaymentOrder) (now : Nat) :
    OrderTx Unit :=
  if order.expiresAt ≤ now then expireOrder orderId now
  else do
    endCheckout orderId (fun o => o.apiClientId = apiClientId && now < o.expiresAt) .CLOSED now
      "checkout close"
    insertOrderEvent ⟨orderId, order.version + 1, .CHECKOUT_CLOSED, now, .reason "api_request"⟩

def closeOrder (apiClientId : String) (orderId : Uuid) (r : ClockReading) :
    OrderTx (Option StoredOrderAggregate) := do
  let now ← logicalNow r
  match ← readAggregateById pf apiClientId orderId with
  | none => pure none
  | some found =>
    if found.order.checkoutStatus = .OPEN then do
      closeCheckout apiClientId orderId found.order now
      let again ← readAggregateById pf apiClientId orderId
      let aggregate ← orFail (.error "closed order aggregate cannot be read") again
      withOptionalToken pf (some aggregate)
    else withOptionalToken pf (some found)

/-- `isTerminalCheckoutObservable`: an expired link counts from its expiry, not from the sweep. -/
def isTerminalCheckoutObservable (a : Aggregate) (now : Nat) : OrderTx Bool := do
  let closedAt ← orFail (.error "terminal checkout is missing its close time") a.order.closedAt
  let terminalAt := if a.order.checkoutStatus = .EXPIRED then a.order.expiresAt else closedAt
  pure (now < terminalAt + a.checkout.terminalObservationMilliseconds)

/-- What the read-only half of a public lookup decides. -/
inductive PublicLookup
  | missing
  | current (aggregate : StoredOrderAggregate)
  | terminal
  | expired
  deriving DecidableEq, Repr

/-- An open checkout is always shown; an ended one until its observation window is over. -/
def isObservable (a : Aggregate) (now : Nat) : OrderTx Bool :=
  if a.order.checkoutStatus = .OPEN then pure true else isTerminalCheckoutObservable a now

/-- The read transaction of a public lookup; it writes nothing. -/
def publicLookup (tokenDigest : String) (r : ClockReading) : OrderTx PublicLookup := do
  match ← readAggregateByTokenDigest pf tokenDigest with
  | none => pure .missing
  | some a => do
    let last ← readWith (·.clock)
    let observable ← isObservable a last
    if observable = false then pure .missing
    else do
      let physicalNow ← readPhysicalTime r
      require (last - physicalNow ≤ maxOrderClockAheadMilliseconds) .orderClockError
      let now := max last physicalNow
      let observableNow ← isObservable a now
      if observableNow ∧ ¬ (a.order.checkoutStatus = .OPEN ∧ a.order.expiresAt ≤ now) then do
        let stored ← withCheckoutToken pf a
        pure (.current stored)
      else if a.order.checkoutStatus = .OPEN then pure .expired else pure .terminal

/-- Terminal reads advance the persisted clock: once the observation window has elapsed, a later
    rollback of the system clock cannot revive the link.  `r'` is the clock reading of the second,
    writing transaction. -/
def publicCheckoutByTokenDigest (tokenDigest : String) (r r' : ClockReading) :
    OrderTx (Option StoredOrderAggregate) := do
  match ← publicLookup pf tokenDigest r with
  | .missing => pure none
  | .current stored => pure (some stored)
  | _ => do
    let now ← logicalNow r'
    match ← readAggregateByTokenDigest pf tokenDigest with
    | none => pure none
    | some found => do
      let a ← expireIfDue (readAggregateByTokenDigest pf tokenDigest)
        "expired checkout aggregate cannot be read" now found
      let observable ← isObservable a now
      if observable then withOptionalToken pf (some a) else pure none

end

/-! ## The store as a system -/

/-- A row of `collection_profiles` never changes; a provider account is linked to it at most once. -/
def CollectionProfile.keptBy (p p' : CollectionProfile) : Bool :=
  { p' with linkedProviderAccountKey := p.linkedProviderAccountKey } = p &&
    (p.linkedProviderAccountKey = none || p'.linkedProviderAccountKey = p.linkedProviderAccountKey)

/-- What the `…_no_update` and `…_no_delete` triggers leave to a change of the configuration: profiles
    and their links are only added, and the idempotency namespaces stay what the migration recorded. -/
def Configuration.extendedBy (configuration changed : Configuration) : Bool :=
  (configuration.profiles.all fun p =>
    (changed.profiles.find? fun p' => p'.profileId = p.profileId).any p.keptBy) &&
  changed.idempotencyNamespaces = configuration.idempotencyNamespaces

/-- Settings, sites, accounts and profiles change between two calls. -/
def configure (configuration : Configuration) : OrderTx Unit := do
  let db ← readWith id
  require (db.configuration.extendedBy configuration) (.sqlite "collection profiles are immutable")
  update fun db => { db with configuration := configuration }

/-- One call into the order store, with everything it reads from outside the database. -/
inductive OrderOp
  | createOrder (input : CreateStoredOrderInput) (rnd : CreateRandomness)
      (beforeCreate : Option Fault) (r : ClockReading)
  | closeOrder (apiClientId : String) (orderId : Uuid) (r : ClockReading)
  | expireDueOrders (limit : Nat) (r : ClockReading)
  | orderById (apiClientId : String) (orderId : Uuid) (r : ClockReading)
  | orderByMerchantOrderNumber (apiClientId merchantOrderNo : String) (r : ClockReading)
  | adminOrderPage (select : OrderDb → Nat → List PaymentOrder) (r : ClockReading)
  | adminOrderById (orderId : Uuid) (r : ClockReading)
  | adminOrderByMerchantOrderNumber (apiClientId merchantOrderNo : String) (r : ClockReading)
  | publicCheckoutByTokenDigest (tokenDigest : String) (r r' : ClockReading)
  | configure (configuration : Configuration)

/-- The transaction of a call, without its result. -/
def OrderOp.run (pf : Platform) : OrderOp → OrderTx Unit
  | .createOrder input rnd beforeCreate r => ignoreResult (Orders.createOrder pf input rnd beforeCreate r)
  | .closeOrder client orderId r => ignoreResult (Orders.closeOrder pf client orderId r)
  | .expireDueOrders limit r => do
    let now ← logicalNow r
    Orders.expireDueOrders now limit
  | .orderById client orderId r => ignoreResult (Orders.orderById pf client orderId r)
  | .orderByMerchantOrderNumber client no r =>
    ignoreResult (Orders.orderByMerchantOrderNumber pf client no r)
  | .adminOrderPage select r => ignoreResult (Orders.adminOrderPage select r)
  | .adminOrderById orderId r => ignoreResult (Orders.adminOrderById pf orderId r)
  | .adminOrderByMerchantOrderNumber client no r =>
    ignoreResult (Orders.adminOrderByMerchantOrderNumber pf client no r)
  | .publicCheckoutByTokenDigest digest r r' =>
    ignoreResult (Orders.publicCheckoutByTokenDigest pf digest r r')
  | .configure configuration => Orders.configure configuration

/-- The order store: it starts empty, and every call commits or is rolled back. -/
def orderStore (pf : Platform) : Runs.System OrderDb OrderOp where
  init := OrderDb.Empty
  step db op db' := db' = committed (op.run pf) db

end PerPay.Orders
