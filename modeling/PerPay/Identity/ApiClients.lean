/-
  **API clients** — their keys, the rotation of a key, and the nonces of signed requests
  (`database/identity-store.ts`, `identity/service.ts`).

  A nonce is good for one request of one key version.  Its row is kept until it expires, 301 seconds after
  the timestamp that was signed with it, and a request purges the rows that its own reading of the clock
  finds expired.
-/
import PerPay.Identity.Model

namespace PerPay.Identity

open Audit
open Txn Table

/-! ## Clients -/

/-- The CHECK constraints of `api_client_config`. -/
def ApiClientConfig.checked (c : ApiClientConfig) : Bool :=
  c.createdAt ≤ c.updatedAt && c.key.all (fun key => 1 ≤ key.2) && (c.key.isSome || !c.enabled)

def apiClientConfigRejected : Fault := .sqlite "CHECK constraint failed: api_client_config"

def apiClientRow (clientId : String) (db : IdentityDb) : Option ApiClientConfig :=
  db.apiClientConfig.find? fun c => c.clientId = clientId

/-- `ensureApiClientIdentity` -/
def ensureApiClientIdentity (clientId : String) (now : Nat) : IdentityTx Unit := do
  match ← readWith (apiClientRow clientId) with
  | some _ => pure ()
  | none => update fun db => { db with apiClientConfig := db.apiClientConfig ++ [⟨clientId, none, false, now, now⟩] }

/-- The trigger `api_client_config_key_transition`: the key that a row names is the active one. -/
def namesActiveKey (keys : List ApiClientKeyRow) (c : ApiClientConfig) : Bool :=
  keys.any fun k => k.clientId = c.clientId && c.key = some (k.secretFingerprint, k.keyVersion) && k.retiredAt.isNone

/-- `UPDATE api_client_config SET … WHERE client_id = ?`, with the checks on the updated row. -/
def updateApiClient (clientId : String) (f : ApiClientConfig → ApiClientConfig) : IdentityTx Unit := do
  let db ← readWith id
  require (∀ c ∈ db.apiClientConfig, c.clientId = clientId → (f c).checked = true) apiClientConfigRejected
  update fun db => { db with apiClientConfig := updateWhere (fun c => c.clientId = clientId) f db.apiClientConfig }

/-- `SET enabled = …, updated_at = …` -/
def ApiClientConfig.withEnabled (enabled : Bool) (updatedAt : Nat) (c : ApiClientConfig) : ApiClientConfig :=
  { c with enabled := enabled, updatedAt := updatedAt }

/-- `SET secret_fingerprint = ?, key_version = ?, enabled = 1, updated_at = ?` -/
def ApiClientConfig.withKey (fingerprint : String) (keyVersion updatedAt : Nat) (c : ApiClientConfig) : ApiClientConfig :=
  { c with key := some (fingerprint, keyVersion), enabled := true, updatedAt := updatedAt }

def setApiClientKey (clientId fingerprint : String) (keyVersion now : Nat) : IdentityTx Unit := do
  let db ← readWith id
  require (∀ c ∈ db.apiClientConfig, c.clientId = clientId →
    namesActiveKey db.apiClientKeys (c.withKey fingerprint keyVersion now) = true)
    (.sqlite "API client config must reference the active key")
  updateApiClient clientId (·.withKey fingerprint keyVersion now)

/-! ## Keys -/

def nextKeyVersion (clientId : String) (keys : List ApiClientKeyRow) : Nat :=
  ((keys.filter fun k => k.clientId = clientId).map (·.keyVersion)).foldl max 0 + 1

/-- `INSERT INTO api_client_keys`, of an active key, with the triggers and the unique keys. -/
def insertApiClientKey (clientId fingerprint : String) (keyVersion activatedAt : Nat) : IdentityTx Unit := do
  let db ← readWith id
  require (keyVersion = nextKeyVersion clientId db.apiClientKeys)
    (.sqlite "API client key version must advance exactly once")
  require (∀ k ∈ db.apiClientKeys, k.secretFingerprint ≠ fingerprint ∧ (k.clientId = clientId → k.retiredAt ≠ none))
    (.sqlite "UNIQUE constraint failed: api_client_keys")
  require (∃ c ∈ db.apiClientConfig, c.clientId = clientId) (.sqlite "FOREIGN KEY constraint failed")
  update fun db => { db with apiClientKeys := db.apiClientKeys ++ [⟨clientId, keyVersion, fingerprint, activatedAt, none⟩] }

def ApiClientKeyRow.isActive (clientId : String) (keyVersion : Nat) (k : ApiClientKeyRow) : Bool :=
  k.clientId = clientId && k.keyVersion = keyVersion && k.retiredAt.isNone

def activeKeyRow (clientId : String) (keyVersion : Nat) (fingerprint : String) (db : IdentityDb) : Option ApiClientKeyRow :=
  db.apiClientKeys.find? fun k => k.isActive clientId keyVersion && k.secretFingerprint = fingerprint

/-- `UPDATE api_client_keys SET retired_at = ? WHERE … AND retired_at IS NULL` -/
def retireApiClientKey (clientId : String) (keyVersion retiredAt : Nat) : IdentityTx Nat := do
  let db ← readWith id
  require (∀ k ∈ db.apiClientKeys, k.isActive clientId keyVersion = true → k.activatedAt ≤ retiredAt)
    (.sqlite "API client key transition is invalid")
  update fun db => { db with apiClientKeys := updateWhere (·.isActive clientId keyVersion)
                                                          (fun k => { k with retiredAt := some retiredAt }) db.apiClientKeys }
  pure (db.apiClientKeys.filter (·.isActive clientId keyVersion)).length

/-- `syncApiClient`, for a client that has no key yet. -/
def firstApiClientKey (clientId fingerprint : String) (activatedAt : Nat) : IdentityTx ApiClientKey := do
  ensureApiClientIdentity clientId activatedAt
  insertApiClientKey clientId fingerprint 1 activatedAt
  setApiClientKey clientId fingerprint 1 activatedAt
  pure ⟨clientId, 1, fingerprint, true⟩

/-- `syncApiClient`, for a client whose key is another one. -/
def nextApiClientKey (existing : ApiClientKey) (fingerprint : String) (now : Nat) : IdentityTx ApiClientKey := do
  let keys ← readWith (·.apiClientKeys)
  require (∀ k ∈ keys, k.secretFingerprint ≠ fingerprint)
    (.error "configured API secret was previously retired and cannot be reused")
  let active ← orFail (.error "active API client key history is inconsistent")
    (← readWith (activeKeyRow existing.clientId existing.keyVersion existing.secretFingerprint))
  let activatedAt := max now active.activatedAt
  let retired ← retireApiClientKey existing.clientId existing.keyVersion activatedAt
  require (retired = 1) (.error "active API client key could not be retired")
  insertApiClientKey existing.clientId fingerprint (existing.keyVersion + 1) activatedAt
  setApiClientKey existing.clientId fingerprint (existing.keyVersion + 1) activatedAt
  pure ⟨existing.clientId, existing.keyVersion + 1, fingerprint, true⟩

/-- `syncApiClient` -/
def syncApiClient (clientId fingerprint : String) (now : Nat) : IdentityTx ApiClientKey := do
  let row ← readWith (apiClientRow clientId)
  match row.bind fun c => c.key.map fun key => ApiClientKey.mk c.clientId key.2 key.1 c.enabled with
  | none => firstApiClientKey clientId fingerprint (max now ((row.map (·.createdAt)).getD now))
  | some existing =>
    if existing.secretFingerprint = fingerprint then
      let _ ← orFail (.error "active API client key history is inconsistent")
        (← readWith (activeKeyRow clientId existing.keyVersion fingerprint))
      updateApiClient clientId (·.withEnabled true now)
      pure { existing with enabled := true }
    else nextApiClientKey existing fingerprint now

/-! ## Nonces -/

/-- The value of a character of base64url. -/
def base64UrlValue (c : Char) : Option Nat :=
  if 'A' ≤ c ∧ c ≤ 'Z' then some (c.toNat - 'A'.toNat)
  else if 'a' ≤ c ∧ c ≤ 'z' then some (c.toNat - 'a'.toNat + 26)
  else if '0' ≤ c ∧ c ≤ '9' then some (c.toNat - '0'.toNat + 52)
  else if c = '-' then some 62
  else if c = '_' then some 63
  else none

/-- `/^[A-Za-z0-9_-]{43}$/` -/
def nonceShape (nonce : String) : Bool :=
  nonce.toList.length = 43 && nonce.toList.all fun c => (base64UrlValue c).isSome

/-- The nonce is what its 32 bytes are encoded as: the last character carries two bits too many, and they
    are zero. -/
def canonicalNonce (nonce : String) : Bool :=
  (nonce.toList.getLast?.bind base64UrlValue).any fun value => value % 4 = 0

/-- What a signed request is known by. -/
structure RequestIdentity where
  clientId : String
  keyVersion : Nat
  nonce : String
  requestTimestamp : Int
  deriving DecidableEq, Repr

/-- A signed request, with the fingerprint of the key that verified it. -/
structure SignedRequest extends RequestIdentity where
  secretFingerprint : String
  deriving DecidableEq, Repr

/-- `(requestTimestamp * 1000) + API_SIGNATURE_SKEW_MS + 1000` -/
def RequestIdentity.expiresAt (r : RequestIdentity) : Int := r.requestTimestamp * 1000 + apiSignatureSkewMs + 1000

/-- The request is well formed and its timestamp within the window around now. -/
def SignedRequest.timely (r : SignedRequest) (now : Int) : Bool :=
  isSafeInt r.requestTimestamp && 1 ≤ r.requestTimestamp && isSafeInt now && 0 ≤ now && nonceShape r.nonce &&
  canonicalNonce r.nonce && (now / 1000 - r.requestTimestamp).natAbs ≤ apiSignatureSkewMs / 1000

/-- The client is enabled, with the key that the signature was verified with. -/
def SignedRequest.current (r : SignedRequest) (db : IdentityDb) : Bool :=
  (activeApiClient r.clientId db).any fun client =>
    client.enabled && client.keyVersion = r.keyVersion && client.secretFingerprint = r.secretFingerprint

def SignedRequest.row (r : SignedRequest) (now : Int) : ApiNonce where
  clientId := r.clientId
  keyVersion := r.keyVersion
  nonce := r.nonce
  requestTimestampSeconds := r.requestTimestamp.toNat
  expiresAt := r.expiresAt.toNat
  createdAt := now.toNat

/-- The CHECK constraints of `api_nonces`. -/
def ApiNonce.checked (row : ApiNonce) : Bool :=
  1 ≤ row.requestTimestampSeconds && row.requestTimestampSeconds ≤ 999999999999 && row.createdAt < row.expiresAt &&
  row.expiresAt = row.requestTimestampSeconds * 1000 + 301000

/-- `DELETE FROM api_nonces WHERE expires_at <= ?` -/
def purgeApiNonces (now : Int) : IdentityTx Unit :=
  update fun db => { db with apiNonces := db.apiNonces.filter fun row => !((row.expiresAt : Int) ≤ now) }

/-- `INSERT INTO api_nonces … ON CONFLICT DO NOTHING`: whether a row was inserted. -/
def insertApiNonce (row : ApiNonce) : IdentityTx Bool := do
  let db ← readWith id
  require (row.checked = true) (.sqlite "CHECK constraint failed: api_nonces")
  if db.apiNonces.any fun n => n.clientId = row.clientId && n.keyVersion = row.keyVersion && n.nonce = row.nonce then
    pure false
  else
    require (∃ k ∈ db.apiClientKeys, k.clientId = row.clientId ∧ k.keyVersion = row.keyVersion)
      (.sqlite "FOREIGN KEY constraint failed")
    update fun db => { db with apiNonces := db.apiNonces ++ [row] }
    pure true

/-- `consumeApiNonce` of the store -/
def consumeApiNonce (r : SignedRequest) (now : Int) : IdentityTx Bool := do
  let db ← readWith id
  if !(r.timely now && r.current db) then pure false
  else
    purgeApiNonces now
    insertApiNonce (r.row now)

/-- `consumeApiNonce` of the service: under the same lock, the public id is still the site's. -/
def consumeSiteApiNonce (r : SignedRequest) (verifiedAt : Int) (expectedApiClientId : Option String) : IdentityTx Bool := do
  let db ← readWith id
  require (∀ id ∈ expectedApiClientId, isCurrentSiteApiClientId r.clientId id db = true) (.siteError "api_client_invalid" none)
  consumeApiNonce r verifiedAt

end PerPay.Identity
