/-
  **The website tables** — sites, their public client ids, the records of operations, secrets and signing
  keys (`sites/store.ts`, `sites/migrations/schema.ts`, `sites/migrations/api-client-ids.ts`).

  A site keeps its internal id for ever; the id that its API client shows can be changed, and an id that
  was shown once is never given away again.  The internal id, the public ids and the identity tables of the
  API client name the same thing in three places, so the tables of the identity store are a part of these.

  Operations read the tables of other modules: which payment accounts there are, which sites have orders or
  EasyPay keys.  They are columns of ids here, that others write.
-/
import PerPay.Identity.ApiClients
import PerPay.Lib.JsonValue

namespace PerPay.Sites

open Identity
open Txn Table
open Json (Value)

/-! ## Configurations -/

inductive CollectionMode
  | FIXED | RANDOM | WEIGHTED
  deriving DecidableEq, Repr

def CollectionMode.name : CollectionMode → String
  | .FIXED => "FIXED"
  | .RANDOM => "RANDOM"
  | .WEIGHTED => "WEIGHTED"

structure CollectionAccount where
  accountId : String
  weight : Nat
  deriving DecidableEq, Repr

structure SiteCollection where
  mode : CollectionMode
  accounts : List CollectionAccount
  deriving DecidableEq, Repr

structure SiteOrderPolicy where
  orderTtlSeconds : Nat
  amountOffsetMaximumCents : Nat
  amountReuseCooldownSeconds : Nat
  pendingOrderLimit : Option Nat
  deriving DecidableEq, Repr

structure SiteDisplay where
  checkoutName : String
  checkoutHelpUrl : Option String
  checkoutShowProductName : Bool
  deriving DecidableEq, Repr

structure SiteNotificationPolicy where
  timeoutMilliseconds : Nat
  maximumAttempts : Nat
  retryBaseSeconds : Nat
  retryMaximumSeconds : Nat
  deriving DecidableEq, Repr

structure SitePolicy where
  orders : SiteOrderPolicy
  display : SiteDisplay
  notificationDelivery : SiteNotificationPolicy
  deriving DecidableEq, Repr

/-- What `siteConfigurationSchema` parses. -/
structure SiteConfiguration where
  name : String
  acceptingOrders : Bool
  notificationsEnabled : Bool
  notificationOrigin : Option String
  returnOrigin : Option String
  collection : Option SiteCollection
  policy : SitePolicy
  deriving DecidableEq, Repr

def nullableText : Option String → Value Nat
  | none => .null
  | some text => .str text

def nullableNumber : Option Nat → Value Nat
  | none => .null
  | some n => .num n

def CollectionAccount.json (a : CollectionAccount) : Value Nat :=
  .obj [("account_id", .str a.accountId), ("weight", .num a.weight)]

def SiteCollection.json (c : SiteCollection) : Value Nat :=
  .obj [("mode", .str c.mode.name), ("accounts", .arr (c.accounts.map (·.json)))]

def SiteOrderPolicy.json (p : SiteOrderPolicy) : Value Nat :=
  .obj [("order_ttl_seconds", .num p.orderTtlSeconds), ("amount_offset_maximum_cents", .num p.amountOffsetMaximumCents),
    ("amount_reuse_cooldown_seconds", .num p.amountReuseCooldownSeconds),
    ("pending_order_limit", nullableNumber p.pendingOrderLimit)]

def SiteDisplay.json (d : SiteDisplay) : Value Nat :=
  .obj [("checkout_name", .str d.checkoutName), ("checkout_help_url", nullableText d.checkoutHelpUrl),
    ("checkout_show_product_name", .bool d.checkoutShowProductName)]

def SiteNotificationPolicy.json (p : SiteNotificationPolicy) : Value Nat :=
  .obj [("timeout_milliseconds", .num p.timeoutMilliseconds), ("maximum_attempts", .num p.maximumAttempts),
    ("retry_base_seconds", .num p.retryBaseSeconds), ("retry_maximum_seconds", .num p.retryMaximumSeconds)]

def SitePolicy.json (p : SitePolicy) : Value Nat :=
  .obj [("orders", p.orders.json), ("display", p.display.json), ("notification_delivery", p.notificationDelivery.json)]

/-- A property that is left out when it is undefined. -/
def optionalMember (key : String) : Option (Value Nat) → List (String × Value Nat)
  | none => []
  | some value => [(key, value)]

def SiteConfiguration.json (c : SiteConfiguration) : Value Nat :=
  .obj ([("name", .str c.name), ("accepting_orders", .bool c.acceptingOrders),
      ("notifications_enabled", .bool c.notificationsEnabled), ("notification_origin", nullableText c.notificationOrigin),
      ("return_origin", nullableText c.returnOrigin)] ++
    optionalMember "collection" (c.collection.map (·.json)) ++ [("policy", c.policy.json)])

/-- `JSON.stringify` -/
def jsonText (value : Value Nat) : String := String.ofList (Json.stringify Json.decimal value)

/-! ## Rows -/

/-- A row of `sites`. -/
structure SiteRow where
  clientId : String
  revision : Nat
  configuration : SiteConfiguration
  createdAt : Nat
  updatedAt : Nat
  deletedAt : Option Nat
  deriving DecidableEq, Repr

/-- A row of `site_api_client_ids`. -/
structure SiteApiClientId where
  apiClientId : String
  clientId : String
  isCurrent : Bool
  createdAt : Nat
  retiredAt : Option Nat
  deriving DecidableEq, Repr

/-- A row of `site_client_id_changes`. -/
structure SiteClientIdChange where
  operationId : String
  clientId : String
  requestFingerprint : String
  previousApiClientId : String
  nextApiClientId : String
  revision : Nat
  changed : Bool
  createdAt : Nat
  deriving DecidableEq, Repr

/-- A row of `site_creation_requests`. -/
structure SiteCreationRequest where
  operationId : String
  requestFingerprint : String
  clientId : String
  createdAt : Nat
  deriving DecidableEq, Repr

inductive SiteSecretPurpose
  | api_secret | webhook_secret
  deriving DecidableEq, Repr

/-- A row of `site_secrets`; the ciphertext is what it decrypts to. -/
structure SiteSecret where
  clientId : String
  secretName : SiteSecretPurpose
  secretVersion : Nat
  secret : String
  secretFingerprint : String
  updatedAt : Nat
  deriving DecidableEq, Repr

/-- A row of `webhook_signing_keys`. -/
structure WebhookSigningKey where
  clientId : String
  siteKeyVersion : Nat
  keyVersion : Nat
  keyId : String
  secretFingerprint : String
  activatedAt : Nat
  retiredAt : Option Nat
  deriving DecidableEq, Repr

/-- A row of `alipay_accounts`, as far as a site asks for it. -/
structure CollectionSource where
  accountId : String
  enabled : Bool
  deletedAt : Option Nat
  deriving DecidableEq, Repr

structure SiteDb where
  identity : IdentityDb
  sites : List SiteRow
  siteApiClientIds : List SiteApiClientId
  siteClientIdChanges : List SiteClientIdChange
  siteCreationRequests : List SiteCreationRequest
  siteSecrets : List SiteSecret
  webhookSigningKeys : List WebhookSigningKey
  /-- `namespace_id` of `api_client_idempotency_namespaces` -/
  namespaces : List String
  alipayAccounts : List CollectionSource
  /-- the sites that have a notification key for EasyPay -/
  epayKeySites : List String
  /-- `api_client_id` of `payment_orders` -/
  orderSites : List String
  /-- `api_client_id` of `webhook_targets`, and of the orders that have outbox events -/
  notifiedSites : List String

/-- A fresh database. -/
def SiteDb.empty : SiteDb := ⟨IdentityDb.empty, [], [], [], [], [], [], [], [], [], [], []⟩

abbrev SiteTx := Tx SiteDb Fault

def siteError (code : String) : Fault := .siteError code none

/-- Run statements of the identity store. -/
def identityTx {α : Type} (x : IdentityTx α) : SiteTx α :=
  zoom (·.identity) (fun identity db => { db with identity := identity }) x

/-! ## Reading -/

/-- `siteClientIdSchema`: `/^[A-Za-z0-9][A-Za-z0-9._-]{2,63}$/` -/
def isSiteClientId (text : String) : Bool :=
  match text.toList with
  | [] => false
  | c :: cs => c.isAlphanum && 2 ≤ cs.length && cs.length ≤ 63 &&
      cs.all fun d => d.isAlphanum || d = '.' || d = '_' || d = '-'

/-- A site with the public id that is current. -/
structure SiteSnapshot where
  site : SiteRow
  apiClientId : String
  deriving DecidableEq, Repr

/-- The row of a site joined with its current public id; `mapSite` refuses an id that is no client id. -/
def snapshotOf (db : SiteDb) (site : SiteRow) : Option SiteSnapshot :=
  ((db.siteApiClientIds.find? fun m => m.clientId = site.clientId && m.isCurrent).filter
    fun m => isSiteClientId m.apiClientId).map fun m => ⟨site, m.apiClientId⟩

def siteRow (clientId : String) (db : SiteDb) : Option SiteRow := db.sites.find? fun s => s.clientId = clientId

/-- `mapSite` of a row that was selected -/
def mapSite (site : SiteRow) : SiteTx SiteSnapshot := do
  orFail (.error "invalid website row") (← readWith fun db => snapshotOf db site)

/-- `requiredSite` -/
def requiredSite (clientId : String) : SiteTx SiteSnapshot := do
  let site ← orFail (siteError "site_not_found")
    ((← readWith (siteRow clientId)).filter fun s => s.deletedAt.isNone)
  mapSite site

def readSecret (clientId : String) (purpose : SiteSecretPurpose) (db : SiteDb) : Option SiteSecret :=
  db.siteSecrets.find? fun s => s.clientId = clientId && s.secretName = purpose

/-! ## Statements -/

/-- `requireUnusedClientId` -/
def requireUnusedClientId (clientId : String) : SiteTx Unit := do
  let db ← readWith id
  require ((∀ s ∈ db.sites, s.clientId ≠ clientId) ∧ (∀ c ∈ db.identity.apiClientConfig, c.clientId ≠ clientId) ∧
    clientId ∉ db.namespaces ∧ ∀ m ∈ db.siteApiClientIds, m.apiClientId ≠ clientId) (siteError "site_client_id_conflict")

/-- `checkRevision` -/
def checkRevision (actual expected : Nat) : SiteTx Unit := require (actual = expected) (siteError "site_revision_conflict")

/-- `changed` -/
def changed (changes : Nat) : SiteTx Unit := require (changes = 1) (siteError "site_revision_conflict")

def SiteRow.checked (s : SiteRow) : Bool := s.createdAt ≤ s.updatedAt && s.deletedAt.all fun at_ => at_ = s.updatedAt

/-- `INSERT INTO sites` -/
def insertSite (row : SiteRow) : SiteTx Unit := do
  let db ← readWith id
  require (∀ s ∈ db.sites, s.clientId ≠ row.clientId) (.sqlite "UNIQUE constraint failed: sites.client_id")
  require (∃ c ∈ db.identity.apiClientConfig, c.clientId = row.clientId) (.sqlite "FOREIGN KEY constraint failed")
  require (row.checked = true) (.sqlite "CHECK constraint failed: sites")
  update fun db => { db with sites := db.sites ++ [row] }

/-- The row that `UPDATE sites` writes is the next revision of a site that lives. -/
def SiteRow.follows (new old : SiteRow) : Bool :=
  new.clientId = old.clientId && new.createdAt = old.createdAt && new.revision = old.revision + 1 &&
  old.updatedAt ≤ new.updatedAt && old.deletedAt.isNone

def selectsSite (clientId : String) (revision : Nat) (s : SiteRow) : Bool :=
  s.clientId = clientId && s.revision = revision && s.deletedAt.isNone

/-- `UPDATE sites SET … WHERE client_id = ? AND revision = ? AND deleted_at IS NULL`, with its triggers. -/
def updateSite (clientId : String) (revision : Nat) (f : SiteRow → SiteRow) : SiteTx Nat := do
  let db ← readWith id
  require (∀ s ∈ db.sites, selectsSite clientId revision s = true → (f s).follows s = true)
    (.sqlite "site revision or lifecycle is invalid")
  require (∀ s ∈ db.sites, selectsSite clientId revision s = true → (f s).deletedAt ≠ none →
    s.clientId ∉ db.orderSites ∧ s.clientId ∉ db.notifiedSites) (.sqlite "site has historical business data")
  require (∀ s ∈ db.sites, selectsSite clientId revision s = true → (f s).checked = true)
    (.sqlite "CHECK constraint failed: sites")
  update fun db => { db with sites := updateWhere (selectsSite clientId revision) f db.sites }
  pure (db.sites.filter (selectsSite clientId revision)).length

def SiteApiClientId.checked (m : SiteApiClientId) : Bool :=
  m.retiredAt.all (m.createdAt ≤ ·) && (m.retiredAt.isSome || m.isCurrent) && (!m.isCurrent || isSiteClientId m.apiClientId)

/-- `INSERT INTO site_api_client_ids`, of a current id -/
def insertApiClientId (apiClientId clientId : String) (createdAt : Nat) : SiteTx Unit := do
  let db ← readWith id
  require (∀ m ∈ db.siteApiClientIds, m.apiClientId ≠ apiClientId ∧ (m.clientId = clientId → m.isCurrent = false))
    (.sqlite "UNIQUE constraint failed: site_api_client_ids")
  require (∃ s ∈ db.sites, s.clientId = clientId) (.sqlite "FOREIGN KEY constraint failed")
  require ((SiteApiClientId.mk apiClientId clientId true createdAt none).checked = true)
    (.sqlite "CHECK constraint failed: site_api_client_ids")
  update fun db => { db with siteApiClientIds := db.siteApiClientIds ++ [⟨apiClientId, clientId, true, createdAt, none⟩] }

def currentIdOf (clientId : String) (m : SiteApiClientId) : Bool := m.clientId = clientId && m.isCurrent && m.retiredAt.isNone

/-- `UPDATE site_api_client_ids SET …, retired_at = … WHERE client_id = ? AND is_current = 1 AND retired_at IS NULL` -/
def retireApiClientId (clientId : String) (f : SiteApiClientId → SiteApiClientId) : SiteTx Nat := do
  let db ← readWith id
  require (∀ m ∈ db.siteApiClientIds, currentIdOf clientId m = true → (f m).checked = true)
    (.sqlite "CHECK constraint failed: site_api_client_ids")
  update fun db => { db with siteApiClientIds := updateWhere (currentIdOf clientId) f db.siteApiClientIds }
  pure (db.siteApiClientIds.filter (currentIdOf clientId)).length

/-- `INSERT INTO site_client_id_changes` -/
def insertClientIdChange (row : SiteClientIdChange) : SiteTx Unit := do
  let db ← readWith id
  require (∀ c ∈ db.siteClientIdChanges, c.operationId ≠ row.operationId ∧
    (c.changed = true → row.changed = true →
      c.nextApiClientId ≠ row.nextApiClientId ∧ c.previousApiClientId ≠ row.previousApiClientId))
    (.sqlite "UNIQUE constraint failed: site_client_id_changes")
  require (row.changed = decide (row.previousApiClientId ≠ row.nextApiClientId))
    (.sqlite "CHECK constraint failed: site_client_id_changes")
  require ((∃ m ∈ db.siteApiClientIds, m.apiClientId = row.previousApiClientId) ∧
    ∃ m ∈ db.siteApiClientIds, m.apiClientId = row.nextApiClientId) (.sqlite "FOREIGN KEY constraint failed")
  update fun db => { db with siteClientIdChanges := db.siteClientIdChanges ++ [row] }

/-- `INSERT INTO site_creation_requests` -/
def insertCreationRequest (row : SiteCreationRequest) : SiteTx Unit := do
  let db ← readWith id
  require (∀ c ∈ db.siteCreationRequests, c.operationId ≠ row.operationId ∧ c.clientId ≠ row.clientId)
    (.sqlite "UNIQUE constraint failed: site_creation_requests")
  update fun db => { db with siteCreationRequests := db.siteCreationRequests ++ [row] }

/-- `INSERT INTO site_secrets … ON CONFLICT DO UPDATE`, with the guard of versions. -/
def saveSecret (row : SiteSecret) : SiteTx Unit := do
  let db ← readWith id
  require (∀ s ∈ db.siteSecrets, s.clientId = row.clientId → s.secretName = row.secretName →
    row.secretVersion = s.secretVersion + 1 ∧ s.updatedAt ≤ row.updatedAt) (.sqlite "website secret version is invalid")
  require (∀ s ∈ db.siteSecrets, s.secretName = row.secretName → s.clientId ≠ row.clientId →
    s.secretFingerprint ≠ row.secretFingerprint) (.sqlite "UNIQUE constraint failed: site_secrets")
  update fun db =>
    { db with
        siteSecrets :=
          if db.siteSecrets.any fun s => s.clientId = row.clientId && s.secretName = row.secretName then
            updateWhere (fun s => s.clientId = row.clientId && s.secretName = row.secretName) (fun _ => row) db.siteSecrets
          else db.siteSecrets ++ [row] }

end PerPay.Sites
