/-
  **The operations of the site store** (`sites/store.ts`), each a transaction.

  An operation that is repeated with the id it was first sent with is answered from its record, before the
  site is looked at; so the answer is the same site also when it has been changed or deleted since.

  What an operation meets besides the tables is its environment: the clock, and what it draws.  Whether the
  EasyPay defaults of a new site can be written is part of it; they are in tables of their own.
-/
import PerPay.Sites.Model

namespace PerPay.Sites

open Identity
open Txn Table
open Json (Value)

structure SitePlatform where
  sha256 : String → String
  /-- `secretFingerprint` -/
  secretFingerprint : SiteSecretPurpose → String → String

structure SiteEnvironment where
  now : Nat
  drawnUuid : String
  drawnSecret : String
  initializeEpay : Except Fault Unit

variable (pf : SitePlatform)

/-! ## Inputs -/

/-- `creationClientIdSchema` -/
def isCreationClientId (text : String) : Bool :=
  isSiteClientId text && !(["default", "new", "defaults", "overview"].contains (String.ofList (text.toList.map Char.toLower)))

structure CreateSiteInput where
  operationId : String
  clientId : Option String
  configuration : SiteConfiguration
  deriving DecidableEq, Repr

/-- What the fingerprint of a creation is taken of. -/
def CreateSiteInput.text (input : CreateSiteInput) : String :=
  match input.clientId with
  | none => jsonText input.configuration.json
  | some id => jsonText (.obj [("client_id", .str id), ("configuration", input.configuration.json)])

structure ChangeClientIdInput where
  operationId : String
  revision : Nat
  clientId : String
  deriving DecidableEq, Repr

/-- What `fingerprintSiteClientIdChange` hashes. -/
def changeText (clientId : String) (revision : Nat) (apiClientId : String) : String :=
  jsonText (.arr [.str "perpay:site-client-id-change:v1", .str clientId, .num revision, .str apiClientId])

structure UpdateSiteInput where
  revision : Nat
  configuration : SiteConfiguration
  deriving DecidableEq, Repr

def invalidInput : Fault := .error "invalid website input"

/-! ## Creation -/

/-- The account that a site without a choice gets: the only one there is. -/
def soleCollection (accounts : List CollectionSource) : Option SiteCollection :=
  match accounts.filter fun a => a.enabled && a.deletedAt.isNone with
  | [a] => some ⟨.FIXED, [⟨a.accountId, 1⟩]⟩
  | _ => none

/-- `resolveSiteCollection` -/
def resolveSiteCollection (configuration : SiteConfiguration) : SiteTx SiteConfiguration := do
  let accounts ← readWith (·.alipayAccounts)
  let collection ← orFail (siteError "site_collection_required") (configuration.collection.or (soleCollection accounts))
  require (∀ c ∈ collection.accounts, ∃ a ∈ accounts, a.accountId = c.accountId ∧ a.deletedAt = none)
    (siteError "site_collection_invalid")
  pure { configuration with collection := some collection }

def createNew (env : SiteEnvironment) (input : CreateSiteInput) : SiteTx SiteSnapshot := do
  let clientId := input.clientId.getD ("site_" ++ env.drawnUuid)
  requireUnusedClientId clientId
  let configuration ← resolveSiteCollection input.configuration
  identityTx (ensureApiClientIdentity clientId env.now)
  insertSite ⟨clientId, 0, configuration, env.now, env.now, none⟩
  insertApiClientId clientId clientId env.now
  valueOf env.initializeEpay
  insertCreationRequest ⟨input.operationId, pf.sha256 input.text, clientId, env.now⟩
  requiredSite clientId

/-- `create` -/
def create (env : SiteEnvironment) (input : CreateSiteInput) : SiteTx SiteSnapshot := do
  require (input.clientId.all isCreationClientId = true) invalidInput
  require (input.configuration.notificationsEnabled = false) (siteError "site_secret_missing")
  match ← readWith fun db => db.siteCreationRequests.find? fun r => r.operationId = input.operationId with
  | some previous =>
    require (previous.requestFingerprint = pf.sha256 input.text) (siteError "site_operation_conflict")
    let site ← orFail (.error "website creation record has no website") (← readWith (siteRow previous.clientId))
    mapSite site
  | none => createNew pf env input

/-! ## The public client id -/

/-- `SELECT max(created_at) FROM site_client_id_changes WHERE client_id = ?` -/
def latestChange (clientId : String) (db : SiteDb) : Option Nat :=
  ((db.siteClientIdChanges.filter fun c => c.clientId = clientId).map (·.createdAt)).max?

/-- `integer` -/
def safeTime (time : Nat) : SiteTx Unit := require (time ≤ maxSafeInteger) (.error "invalid website integer")

/-- The old id is retired, the new one is current. -/
def replaceApiClientId (clientId next : String) (revision writtenAt : Nat) : SiteTx Unit := do
  requireUnusedClientId next
  let retired ← retireApiClientId clientId fun m => { m with isCurrent := false, retiredAt := some writtenAt }
  changed retired
  insertApiClientId next clientId writtenAt
  let updated ← updateSite clientId revision fun s => { s with revision := s.revision + 1, updatedAt := writtenAt }
  changed updated

/-- A change to the id that is current changes nothing but the record. -/
def replaceIfDifferent (current : SiteSnapshot) (input : ChangeClientIdInput) (writtenAt : Nat) : SiteTx Unit :=
  if current.apiClientId ≠ input.clientId then
    replaceApiClientId current.site.clientId input.clientId input.revision writtenAt
  else pure ()

def changeNew (env : SiteEnvironment) (clientId : String) (input : ChangeClientIdInput) : SiteTx SiteSnapshot := do
  let current ← requiredSite clientId
  checkRevision current.site.revision input.revision
  let latest ← readWith (latestChange clientId)
  let writtenAt := max env.now (max (current.site.updatedAt + 1) ((latest.map (· + 1)).getD 0))
  safeTime writtenAt
  replaceIfDifferent current input writtenAt
  insertClientIdChange
    { operationId := input.operationId
      clientId := clientId
      requestFingerprint := pf.sha256 (changeText clientId input.revision input.clientId)
      previousApiClientId := current.apiClientId
      nextApiClientId := input.clientId
      revision := input.revision
      changed := current.apiClientId ≠ input.clientId
      createdAt := writtenAt }
  requiredSite clientId

/-- `changeClientId` -/
def changeClientId (env : SiteEnvironment) (clientId : String) (input : ChangeClientIdInput) : SiteTx SiteSnapshot := do
  require (isSiteClientId clientId = true ∧ isCreationClientId input.clientId = true) invalidInput
  match ← readWith fun db => db.siteClientIdChanges.find? fun c => c.operationId = input.operationId with
  | some previous =>
    require (previous.clientId = clientId ∧
      previous.requestFingerprint = pf.sha256 (changeText clientId input.revision input.clientId))
      (siteError "site_operation_conflict")
    let site ← orFail (.error "client ID change record has no website") (← readWith (siteRow clientId))
    mapSite site
  | none => changeNew pf env clientId input

/-! ## Configuration, deletion, secrets -/

/-- Notifications are signed with a key of the site, its own or one of EasyPay. -/
def canNotify (clientId : String) (db : SiteDb) : Bool :=
  (readSecret clientId .webhook_secret db).isSome || clientId ∈ db.epayKeySites

/-- `update` -/
def updateConfiguration (env : SiteEnvironment) (clientId : String) (input : UpdateSiteInput) : SiteTx SiteSnapshot := do
  require (isSiteClientId clientId = true) invalidInput
  let current ← requiredSite clientId
  checkRevision current.site.revision input.revision
  let configuration ← resolveSiteCollection
    { input.configuration with collection := input.configuration.collection.or current.site.configuration.collection }
  let db ← readWith id
  require (input.configuration.notificationsEnabled = false ∨ canNotify clientId db = true) (siteError "site_secret_missing")
  let updated ← updateSite clientId input.revision fun s =>
    { s with configuration := configuration, revision := s.revision + 1, updatedAt := max s.updatedAt env.now }
  changed updated
  requiredSite clientId

/-- `delete` -/
def deleteSite (env : SiteEnvironment) (clientId : String) (revision : Nat) : SiteTx Unit := do
  require (isSiteClientId clientId = true) invalidInput
  let current ← requiredSite clientId
  checkRevision current.site.revision revision
  let latest ← readWith (latestChange clientId)
  let now := max env.now (max current.site.updatedAt (latest.getD 0))
  safeTime now
  let orders ← readWith (·.orderSites)
  require (clientId ∉ orders) (siteError "site_has_history")
  identityTx (updateApiClient clientId fun c => c.withEnabled false (max c.updatedAt now))
  let retired ← retireApiClientId clientId fun m =>
    { m with retiredAt := some (max m.createdAt (max now current.site.updatedAt)) }
  changed retired
  let updated ← updateSite clientId revision fun s =>
    { s with deletedAt := some (max s.updatedAt now), updatedAt := max s.updatedAt now, revision := s.revision + 1 }
  changed updated

def activeSigningKey (clientId : String) (db : SiteDb) : Option WebhookSigningKey :=
  db.webhookSigningKeys.find? fun k => k.clientId = clientId && k.retiredAt.isNone

def nextSigningKeyVersion (keys : List WebhookSigningKey) : Nat := (keys.map (·.keyVersion)).foldl max 0 + 1

/-- `INSERT INTO webhook_signing_keys`, of an active key -/
def insertSigningKey (row : WebhookSigningKey) : SiteTx Unit := do
  let db ← readWith id
  require (∀ k ∈ db.webhookSigningKeys, k.keyVersion ≠ row.keyVersion ∧ k.keyId ≠ row.keyId ∧
    k.secretFingerprint ≠ row.secretFingerprint ∧ (k.clientId = row.clientId → k.siteKeyVersion ≠ row.siteKeyVersion ∧
      k.retiredAt ≠ none)) (.sqlite "UNIQUE constraint failed: webhook_signing_keys")
  update fun db => { db with webhookSigningKeys := db.webhookSigningKeys ++ [row] }

def WebhookSigningKey.isActive (clientId : String) (keyVersion : Nat) (k : WebhookSigningKey) : Bool :=
  k.keyVersion = keyVersion && k.clientId = clientId && k.retiredAt.isNone

def retireSigningKey (clientId : String) (keyVersion retiredAt : Nat) : SiteTx Unit := do
  let db ← readWith id
  require (∀ k ∈ db.webhookSigningKeys, k.isActive clientId keyVersion = true → k.activatedAt ≤ retiredAt)
    (.sqlite "webhook signing key transition is invalid")
  update fun db => { db with webhookSigningKeys := updateWhere (·.isActive clientId keyVersion)
                                                     (fun k => { k with retiredAt := some retiredAt }) db.webhookSigningKeys }

/-- The old signing key is retired, the new one is active. -/
def replaceSigningKey (env : SiteEnvironment) (clientId fingerprint : String) (active : Option WebhookSigningKey)
    (timestamp : Nat) : SiteTx Unit := do
  match active with
  | some key => retireSigningKey clientId key.keyVersion timestamp
  | none => pure ()
  let keys ← readWith (·.webhookSigningKeys)
  insertSigningKey ⟨clientId, (active.map (·.siteKeyVersion + 1)).getD 1, nextSigningKeyVersion keys, env.drawnUuid,
    fingerprint, timestamp, none⟩

/-- `syncSiteSigningKey` -/
def syncSiteSigningKey (env : SiteEnvironment) (clientId fingerprint : String) (now : Nat) : SiteTx Unit := do
  let active ← readWith (activeSigningKey clientId)
  if active.any fun k => k.secretFingerprint = fingerprint then pure ()
  else replaceSigningKey env clientId fingerprint active (max now ((active.map (·.activatedAt)).getD now))

/-- The key that goes with a secret. -/
def syncKey (env : SiteEnvironment) (clientId fingerprint : String) (writtenAt : Nat) : SiteSecretPurpose → SiteTx Unit
  | .api_secret => ignoreResult (identityTx (syncApiClient clientId fingerprint writtenAt))
  | .webhook_secret => syncSiteSigningKey env clientId fingerprint writtenAt

/-- `rotateSecret` -/
def rotateSecret (env : SiteEnvironment) (clientId : String) (purpose : SiteSecretPurpose) (revision : Nat) :
    SiteTx (SiteSnapshot × String) := do
  require (isSiteClientId clientId = true) invalidInput
  let current ← requiredSite clientId
  checkRevision current.site.revision revision
  let previous ← readWith (readSecret clientId purpose)
  let writtenAt := max env.now current.site.updatedAt
  let fingerprint := pf.secretFingerprint purpose env.drawnSecret
  saveSecret ⟨clientId, purpose, (previous.map (·.secretVersion + 1)).getD 1, env.drawnSecret, fingerprint, writtenAt⟩
  syncKey env clientId fingerprint writtenAt purpose
  let updated ← updateSite clientId revision fun s => { s with revision := s.revision + 1, updatedAt := writtenAt }
  changed updated
  let site ← requiredSite clientId
  pure (site, env.drawnSecret)

/-! ## Credentials -/

structure SiteCredential where
  clientId : String
  apiClientId : String
  keyVersion : Nat
  secretFingerprint : String
  secret : String
  deriving DecidableEq, Repr

/-- The secret of an enabled client, with the key that it belongs to. -/
def credentialOf (apiClientId clientId : String) (active : ApiClientKey) (row : Option SiteSecret) :
    Except Fault SiteCredential :=
  match row with
  | none => .error (.error "website API credential is inconsistent")
  | some secret =>
    if secret.secretFingerprint ≠ active.secretFingerprint then .error (.error "website API credential is inconsistent")
    else if pf.secretFingerprint .api_secret secret.secret ≠ secret.secretFingerprint then
      .error (.error "website secret fingerprint is invalid")
    else .ok ⟨clientId, apiClientId, active.keyVersion, active.secretFingerprint, secret.secret⟩

/-- `credential` -/
def credential (apiClientId : String) : SiteTx (Option SiteCredential) := do
  let db ← readWith id
  match (db.siteApiClientIds.find? fun m => m.apiClientId = apiClientId && m.retiredAt.isNone).filter
      fun _ => isSiteClientId apiClientId with
  | none => pure none
  | some mapping =>
    match (siteRow mapping.clientId db).filter fun s => s.deletedAt.isNone with
    | none => pure none
    | some site =>
      let _ ← mapSite site
      match (activeApiClient mapping.clientId db.identity).filter fun c => c.enabled with
      | none => pure none
      | some active => do
        let credential ← valueOf (credentialOf pf apiClientId mapping.clientId active
          (readSecret mapping.clientId .api_secret db))
        pure (some credential)

end PerPay.Sites
