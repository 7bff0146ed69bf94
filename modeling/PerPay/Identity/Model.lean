/-
  **The identity tables** — the administrator, the sessions, the throttle of failed logins, and the API
  clients with their keys and nonces (`database/identity-store.ts`).

  One structure per table, one field per column that a modelled function reads or writes.  Times are
  milliseconds, as clocks read them: nothing says that one reading is later than the one before.  The
  CHECK constraints on times and counters are `checked`; those on the shape of a text are left out.

  The audit trail is the real one: an operation that appends to it fails when the append fails.
-/
import PerPay.Audit.Model
import PerPay.Lib.Table

namespace PerPay.Identity

open Audit
open Txn Table

/-! ## Constants -/

def ADMIN_USERNAME : String := "admin"
def sessionIdleTtlMs : Nat := 30 * 60 * 1000
def sessionAbsoluteTtlMs : Nat := 12 * 60 * 60 * 1000
def rememberSessionTtlMs : Nat := 30 * 24 * 60 * 60 * 1000
def authWindowMs : Nat := 15 * 60 * 1000
def authFailureThreshold : Nat := 5
def anonymousPasswordBurst : Nat := 10
def anonymousPasswordIntervalMs : Nat := 5000
def apiSignatureSkewMs : Nat := 5 * 60 * 1000
def sessionRecordRetentionMs : Nat := 30 * 24 * 60 * 60 * 1000
def sessionTouchIntervalMs : Nat := 60 * 1000
def minAdminPasswordCharacters : Nat := 6

/-! ## Rows -/

/-- The row of `admin_identity`. -/
structure AdminIdentity where
  username : String
  passwordHash : String
  sessionGeneration : Nat
  passwordChangedAt : Nat
  createdAt : Nat
  updatedAt : Nat
  deriving DecidableEq, Repr

/-- A row of `admin_sessions`. -/
structure AdminSession where
  sessionId : String
  tokenDigest : String
  csrfDigest : String
  generation : Nat
  createdAt : Nat
  lastSeenAt : Nat
  idleExpiresAt : Nat
  absoluteExpiresAt : Nat
  revokedAt : Option Nat
  revokeReason : Option String
  userAgent : Option String
  sourceAddress : Option String
  deriving DecidableEq, Repr

/-- A row of `admin_auth_limits`. -/
structure AdminAuthLimit where
  sourceHash : String
  windowStartedAt : Nat
  failureCount : Nat
  blockedUntil : Nat
  updatedAt : Nat
  deriving DecidableEq, Repr

/-- The row of `anonymous_password_budget`. -/
structure AnonymousPasswordBudget where
  theoreticalArrivalAt : Nat
  updatedAt : Nat
  deriving DecidableEq, Repr

/-- A row of `api_client_config`; it has a secret and a version together or not at all. -/
structure ApiClientConfig where
  clientId : String
  key : Option (String × Nat)
  enabled : Bool
  createdAt : Nat
  updatedAt : Nat
  deriving DecidableEq, Repr

/-- A row of `api_client_keys`. -/
structure ApiClientKeyRow where
  clientId : String
  keyVersion : Nat
  secretFingerprint : String
  activatedAt : Nat
  retiredAt : Option Nat
  deriving DecidableEq, Repr

/-- A row of `api_nonces`. -/
structure ApiNonce where
  clientId : String
  keyVersion : Nat
  nonce : String
  requestTimestampSeconds : Nat
  expiresAt : Nat
  createdAt : Nat
  deriving DecidableEq, Repr

/-- A row of `site_api_client_ids` joined with its site: the ids that are current and whose site lives. -/
structure SiteApiClient where
  apiClientId : String
  clientId : String
  retiredAt : Option Nat
  siteDeletedAt : Option Nat
  deriving DecidableEq, Repr

structure IdentityDb where
  adminIdentity : Option AdminIdentity
  adminSessions : List AdminSession
  adminAuthLimits : List AdminAuthLimit
  anonymousPasswordBudget : AnonymousPasswordBudget
  apiClientConfig : List ApiClientConfig
  apiClientKeys : List ApiClientKeyRow
  apiNonces : List ApiNonce
  siteApiClients : List SiteApiClient
  audit : AuditDb

/-- A fresh database. -/
def IdentityDb.empty : IdentityDb := ⟨none, [], [], ⟨0, 0⟩, [], [], [], [], AuditDb.empty⟩

abbrev IdentityTx := Tx IdentityDb Fault

/-! ## Constraints -/

/-- The CHECK constraints of `admin_sessions` on its times. -/
def AdminSession.checked (s : AdminSession) : Bool :=
  1 ≤ s.generation && s.createdAt ≤ s.lastSeenAt && s.lastSeenAt ≤ s.idleExpiresAt &&
  s.idleExpiresAt ≤ s.absoluteExpiresAt && s.revokedAt.all (s.createdAt ≤ ·) &&
  (s.revokedAt.isNone = s.revokeReason.isNone)

/-- The CHECK constraints of `admin_auth_limits`. -/
def AdminAuthLimit.checked (l : AdminAuthLimit) : Bool :=
  l.failureCount ≤ 1000000 && l.windowStartedAt ≤ l.updatedAt && l.windowStartedAt ≤ l.blockedUntil

def sessionsRejected : Fault := .sqlite "CHECK constraint failed: admin_sessions"
def authLimitsRejected : Fault := .sqlite "CHECK constraint failed: admin_auth_limits"

/-! ## Reading -/

/-- The condition on a session that is accepted now, apart from its token or id. -/
def IdentityDb.isActive (db : IdentityDb) (now : Nat) (s : AdminSession) : Bool :=
  s.revokedAt.isNone && db.adminIdentity.any (fun a => s.generation = a.sessionGeneration) &&
  now < s.idleExpiresAt && now < s.absoluteExpiresAt

def activeSession (tokenDigest : String) (now : Nat) (db : IdentityDb) : Option AdminSession :=
  db.adminSessions.find? fun s => s.tokenDigest = tokenDigest && db.isActive now s

def authLimit (sourceHash : String) (db : IdentityDb) : Option AdminAuthLimit :=
  db.adminAuthLimits.find? fun l => l.sourceHash = sourceHash

structure ApiClientKey where
  clientId : String
  keyVersion : Nat
  secretFingerprint : String
  enabled : Bool
  deriving DecidableEq, Repr

def activeApiClient (clientId : String) (db : IdentityDb) : Option ApiClientKey := do
  let row ← db.apiClientConfig.find? fun c => c.clientId = clientId && c.key.isSome
  let key ← row.key
  return ⟨row.clientId, key.2, key.1, row.enabled⟩

def isCurrentSiteApiClientId (clientId apiClientId : String) (db : IdentityDb) : Bool :=
  db.siteApiClients.any fun s => s.apiClientId = apiClientId && s.clientId = clientId && s.retiredAt.isNone &&
    s.siteDeletedAt.isNone

/-! ## The anonymous password budget -/

/-- `takeAnonymousPasswordBudget`: nothing when the attempt may go on, else the seconds to wait. -/
def takeAnonymousPasswordBudget (now : Nat) : IdentityTx (Option Nat) := do
  require (now ≤ maxSafeInteger) (.rangeError "anonymous password budget time is invalid")
  let budget ← readWith (·.anonymousPasswordBudget)
  require (budget.theoreticalArrivalAt ≤ maxSafeInteger ∧ budget.updatedAt ≤ maxSafeInteger)
    (.error "anonymous password budget is outside the safe integer range")
  let effectiveNow := max now budget.updatedAt
  let allowedAt : Int := budget.theoreticalArrivalAt - (anonymousPasswordBurst - 1) * anonymousPasswordIntervalMs
  if (effectiveNow : Int) < allowedAt then
    -- `Math.max(1, Math.ceil((allowedAt - now) / 1000))`
    pure (some (max 1 ((allowedAt - now + 999) / 1000).toNat))
  else
    let nextArrival := max budget.theoreticalArrivalAt effectiveNow + anonymousPasswordIntervalMs
    require (nextArrival ≤ maxSafeInteger)
      (.rangeError "anonymous password budget time is outside the safe integer range")
    update fun db => { db with anonymousPasswordBudget := ⟨nextArrival, effectiveNow⟩ }
    pure none

/-! ## The administrator -/

def initializeAdmin (passwordHash : String) (now : Nat) : IdentityTx Bool := do
  match ← readWith (·.adminIdentity) with
  | some existing =>
    require (existing.username = ADMIN_USERNAME) (.error "initialized administrator username is invalid")
    pure false
  | none =>
    update fun db => { db with adminIdentity := some ⟨ADMIN_USERNAME, passwordHash, 1, now, now, now⟩ }
    pure true

/-! ## Sessions -/

/-- `UPDATE admin_sessions SET f WHERE p`, with the checks on the updated rows. -/
def updateSessions (p : IdentityDb → AdminSession → Bool) (f : AdminSession → AdminSession) : IdentityTx Nat := do
  let db ← readWith id
  require (∀ s ∈ db.adminSessions, p db s = true → (f s).checked = true) sessionsRejected
  update fun db => { db with adminSessions := updateWhere (p db) f db.adminSessions }
  pure (db.adminSessions.filter (p db)).length

/-- `SET revoked_at = ?, revoke_reason = ?` -/
def AdminSession.revoke (reason : String) (now : Nat) (s : AdminSession) : AdminSession :=
  { s with revokedAt := some now, revokeReason := some reason }

def createSession (session : AdminSession) : IdentityTx Unit := do
  let sessions ← readWith (·.adminSessions)
  require (session.checked = true) sessionsRejected
  require (∀ s ∈ sessions, s.sessionId ≠ session.sessionId ∧ s.tokenDigest ≠ session.tokenDigest ∧
    s.csrfDigest ≠ session.csrfDigest) (.sqlite "UNIQUE constraint failed: admin_sessions")
  update fun db => { db with adminSessions := db.adminSessions ++ [session] }

def touchSession (sessionId : String) (now : Nat) : IdentityTx Nat :=
  updateSessions
    (fun _ s => s.sessionId = sessionId && s.revokedAt.isNone && now < s.idleExpiresAt && now < s.absoluteExpiresAt)
    fun s => { s with lastSeenAt := now,
                      idleExpiresAt := min s.absoluteExpiresAt (max s.idleExpiresAt (now + sessionIdleTtlMs)) }

def revokeSession (sessionId reason : String) (now : Nat) : IdentityTx Bool := do
  let changes ← updateSessions (fun _ s => s.sessionId = sessionId && s.revokedAt.isNone) (·.revoke reason now)
  pure (changes = 1)

def revokeActiveSession (sessionId : String) (now : Nat) : IdentityTx Bool := do
  let changes ← updateSessions (fun db s => s.sessionId = sessionId && db.isActive now s) (·.revoke "admin_requested" now)
  pure (changes = 1)

def revokeOtherSessions (currentSessionId : String) (now : Nat) : IdentityTx Nat :=
  updateSessions (fun db s => s.sessionId ≠ currentSessionId && db.isActive now s) (·.revoke "admin_requested" now)

/-- `UPDATE admin_sessions … WHERE revoked_at IS NULL` -/
def revokeEverySession (reason : String) (now : Nat) : IdentityTx Nat :=
  updateSessions (fun _ s => s.revokedAt.isNone) (·.revoke reason now)

/-- `revokeAllSessions`: nothing when the session that asks for it is not accepted. -/
def revokeAllSessions (reason : String) (now : Nat) (sessionId tokenDigest : String) : IdentityTx (Option Nat) := do
  let db ← readWith id
  if (activeSession tokenDigest now db).all fun s => s.sessionId ≠ sessionId then pure none
  else
    let identity ← orFail (.error "administrator identity has not been initialized") db.adminIdentity
    update fun db => { db with adminIdentity := some { identity with sessionGeneration := identity.sessionGeneration + 1,
                                                                     updatedAt := now } }
    let changes ← revokeEverySession reason now
    pure (some changes)

structure PasswordUpdate where
  passwordHash : String
  expectedPasswordHash : String
  expectedGeneration : Nat
  sessionId : String
  tokenDigest : String
  now : Nat
  deriving DecidableEq, Repr

/-- The identity and the session are still those that the new password was hashed for. -/
def PasswordUpdate.stillValid (input : PasswordUpdate) (identity : AdminIdentity) (db : IdentityDb) : Bool :=
  identity.passwordHash = input.expectedPasswordHash && identity.sessionGeneration = input.expectedGeneration &&
  (activeSession input.tokenDigest input.now db).any fun s =>
    s.sessionId = input.sessionId && s.generation = input.expectedGeneration

/-- `updatePassword`: the new generation, or nothing when the credentials have changed. -/
def updatePassword (input : PasswordUpdate) : IdentityTx (Option Nat) := do
  let db ← readWith id
  let identity ← orFail (.error "administrator identity has not been initialized") db.adminIdentity
  if !input.stillValid identity db then pure none
  else
    update fun db => { db with adminIdentity := some { identity with passwordHash := input.passwordHash,
                                                                     sessionGeneration := identity.sessionGeneration + 1,
                                                                     passwordChangedAt := input.now,
                                                                     updatedAt := input.now } }
    let _ ← revokeEverySession "password_changed" input.now
    pure (some (identity.sessionGeneration + 1))

/-! ## The throttle of failed logins -/

/-- `authFailureDelay` -/
def authFailureDelay (failureCount : Nat) : Nat :=
  if authFailureThreshold ≤ failureCount then min authWindowMs (30000 * 2 ^ min (failureCount - authFailureThreshold) 5)
  else 0

def pruneIdentityState (now : Nat) : IdentityTx Unit :=
  update fun db =>
    { db with
        adminSessions := db.adminSessions.filter fun s =>
          !(max s.absoluteExpiresAt (s.revokedAt.getD 0) + sessionRecordRetentionMs ≤ now)
        adminAuthLimits := db.adminAuthLimits.filter fun l => !(l.updatedAt + authWindowMs ≤ now && l.blockedUntil ≤ now) }

/-- The row that a failure leaves, given the row of its source. -/
def nextAuthLimit (sourceHash : String) (now : Nat) (existing : Option AdminAuthLimit) : AdminAuthLimit :=
  match existing.filter fun e => (now : Int) - e.windowStartedAt < authWindowMs with
  | some e => ⟨sourceHash, e.windowStartedAt, e.failureCount + 1, now + authFailureDelay (e.failureCount + 1), now⟩
  | none => ⟨sourceHash, now, 1, now + authFailureDelay 1, now⟩

/-- `INSERT … ON CONFLICT(source_hash) DO UPDATE` -/
def upsertAuthLimit (row : AdminAuthLimit) : IdentityTx Unit := do
  require (row.checked = true) authLimitsRejected
  update fun db =>
    { db with adminAuthLimits :=
        if db.adminAuthLimits.any fun l => l.sourceHash = row.sourceHash then
          updateWhere (fun l => l.sourceHash = row.sourceHash) (fun _ => row) db.adminAuthLimits
        else db.adminAuthLimits ++ [row] }

def recordAuthFailure (sourceHash : String) (now : Nat) : IdentityTx AdminAuthLimit := do
  pruneIdentityState now
  let existing ← readWith (authLimit sourceHash)
  upsertAuthLimit (nextAuthLimit sourceHash now existing)
  pure (nextAuthLimit sourceHash now existing)

def resetAuthLimit (sourceHash : String) : IdentityTx Unit :=
  update fun db => { db with adminAuthLimits := db.adminAuthLimits.filter fun l => l.sourceHash ≠ sourceHash }

/-- `resetAuthLimitThrough`: takes back the failures up to the observed one. -/
def resetAuthLimitThrough (sourceHash : String) (observed : AdminAuthLimit) (now : Nat) : IdentityTx Unit := do
  match ← readWith (authLimit sourceHash) with
  | none => pure ()
  | some current =>
    if current.windowStartedAt ≠ observed.windowStartedAt ∨ current.failureCount < observed.failureCount then pure ()
    else if current.failureCount = observed.failureCount then resetAuthLimit sourceHash
    else upsertAuthLimit ⟨sourceHash, now, current.failureCount - observed.failureCount,
      now + authFailureDelay (current.failureCount - observed.failureCount), now⟩

end PerPay.Identity
