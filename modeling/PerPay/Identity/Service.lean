/-
  **The operations of the identity service** (`identity/service.ts`) — each transaction, with the audit
  event it appends.

  Password work runs between transactions: `login`, `setupAdmin` and `changePassword` are two operations
  each, one before the work and one after it.  The first reads what the second checks again.

  An operation that writes is its statements, which say what to append to the audit trail, and then the
  append (`audited`).  `CallEnvironment` is what a call meets besides the database: the clock, the
  request it serves, and what it draws.
-/
import PerPay.Identity.Model

namespace PerPay.Identity

open Audit
open Txn Table

/-- What the service computes with Node: the audit platform, SHA-256 of a source, tokens, passwords. -/
structure IdentityPlatform (ν : Type) extends AuditPlatform ν where
  instanceSalt : String
  aggregateRateLimitSource : String → String
  /-- `digestToken`; nothing when it throws -/
  digestToken : String → Option String
  /-- `verifyPassword`; false when it refuses the password -/
  verifyPassword : String → String → Bool

variable {ν : Type} (pf : IdentityPlatform ν)

structure IdentityContext where
  requestId : Option String
  sourceAddress : Option String
  userAgent : Option String
  deriving DecidableEq, Repr

/-- What a call meets. -/
structure CallEnvironment where
  now : Nat
  context : IdentityContext
  scope : Option AuditScope
  auditEventId : RandomUuid

def identityError (code : String) (retryAfterSeconds : Option Nat) : Fault := .siteError code retryAfterSeconds

/-! ## Sources -/

def normalizeSource (sourceAddress : Option String) : String :=
  match sourceAddress with
  | none => "unknown"
  | some address =>
    if (Ledger.trim address).toList = [] then "unknown"
    else String.ofList (utf16Take 256 (Ledger.trim address).toList)

def sourceHash (sourceAddress : Option String) : String :=
  pf.sha256 (pf.instanceSalt ++ "\x00" ++ normalizeSource sourceAddress)

def authSourceHash (sourceAddress : Option String) : String :=
  sourceHash pf (some (pf.aggregateRateLimitSource (normalizeSource sourceAddress)))

/-! ## Audit events -/

/-- The part of an audit event that an operation chooses. -/
structure AuditFact (ν : Type) where
  actorType : AuditActorType
  actorId : Option String
  action : String
  outcome : AuditOutcome
  subjectType : String
  subjectId : Option String
  remoteAddressHash : Option String
  details : List (String × Unknown ν)
  changes : List (AuditChange ν)

def AuditFact.call (fact : AuditFact ν) (env : CallEnvironment) : AppendCall ν where
  input :=
    { occurredAt := env.now
      actorType := fact.actorType
      actorId := fact.actorId
      action := fact.action
      outcome := fact.outcome
      subjectType := some fact.subjectType
      subjectId := fact.subjectId
      requestId := env.context.requestId
      remoteAddressHash := fact.remoteAddressHash
      details := fact.details
      context := ⟨none, env.context.requestId.map some, env.context.sourceAddress.map some,
        env.context.userAgent.map some, none, none, fact.changes⟩ }
  scope := env.scope
  eventId := env.auditEventId

def appendAudit (env : CallEnvironment) (fact : AuditFact ν) : IdentityTx Unit :=
  zoom (·.audit) (fun audit db => { db with audit := audit }) (appendAuditEvent pf.toAuditPlatform (fact.call env))

def appendAnyAudit (env : CallEnvironment) : Option (AuditFact ν) → IdentityTx Unit
  | some fact => appendAudit pf env fact
  | none => pure ()

/-- Statements, and then the audit event they ask for. -/
def audited {α : Type} (env : CallEnvironment) (statements : IdentityTx (α × Option (AuditFact ν))) : IdentityTx α := do
  let result ← statements
  appendAnyAudit pf env result.2
  pure result.1

def redactedPassword (before : Bool) : AuditChange ν :=
  ⟨"password", .redacted_change, .undefined, .undefined, some before, some true⟩

/-! ## Throttling -/

/-- `#assertAuthLimitAllowed` -/
def assertAuthLimitAllowed (limit : Option AdminAuthLimit) (now : Nat) : IdentityTx Unit :=
  require (∀ l ∈ limit, l.blockedUntil ≤ now)
    (identityError "auth_rate_limited" (limit.map fun l => max 1 ((l.blockedUntil - now + 999) / 1000)))

def assertAuthAttemptAllowed (source legacySource : String) (now : Nat) : IdentityTx Unit := do
  assertAuthLimitAllowed (← readWith (authLimit source)) now
  if legacySource ≠ source then assertAuthLimitAllowed (← readWith (authLimit legacySource)) now
  else pure ()

/-! ## The first administrator -/

/-- `setupAdmin`, up to the password work: the attempt is recorded before it. -/
def beginSetup (env : CallEnvironment) (password : String) : IdentityTx AdminAuthLimit := do
  let db ← readWith id
  require (db.adminIdentity = none) (identityError "identity_already_initialized" none)
  require (minAdminPasswordCharacters ≤ password.toList.length) (.rangeError "Password must contain at least 6 Unicode characters.")
  assertAuthAttemptAllowed (authSourceHash pf env.context.sourceAddress) (sourceHash pf env.context.sourceAddress) env.now
  recordAuthFailure (authSourceHash pf env.context.sourceAddress) env.now

/-- `setupAdmin`, once the password is hashed. -/
def finishSetupStatements (env : CallEnvironment) (passwordHash : String) (attempt : AdminAuthLimit) :
    IdentityTx (Unit × Option (AuditFact ν)) := do
  let initialized ← initializeAdmin passwordHash env.now
  require (initialized = true) (identityError "identity_already_initialized" none)
  resetAuthLimitThrough (authSourceHash pf env.context.sourceAddress) attempt env.now
  pure ((), some
    { actorType := .ANONYMOUS, actorId := none, action := "admin.initialized", outcome := .SUCCESS,
      subjectType := "admin_identity", subjectId := some ADMIN_USERNAME,
      remoteAddressHash := some (sourceHash pf env.context.sourceAddress),
      details := [("session_generation", .num (pf.ofNat 1))], changes := [redactedPassword false] })

def finishSetup (env : CallEnvironment) (passwordHash : String) (attempt : AdminAuthLimit) : IdentityTx Unit :=
  audited pf env (finishSetupStatements pf env passwordHash attempt)

/-- `#retainSetupAttempt`, after a setup that failed. -/
def retainSetupAttempt (env : CallEnvironment) : IdentityTx Unit := do
  match ← readWith (authLimit (authSourceHash pf env.context.sourceAddress)) with
  | some _ => pure ()
  | none => ignoreResult (recordAuthFailure (authSourceHash pf env.context.sourceAddress) env.now)

/-! ## Login -/

/-- `login`, up to the password work. -/
def beginLogin (env : CallEnvironment) : IdentityTx AdminIdentity := do
  assertAuthAttemptAllowed (authSourceHash pf env.context.sourceAddress) (sourceHash pf env.context.sourceAddress) env.now
  orFail (identityError "identity_not_initialized" none) (← readWith (·.adminIdentity))

/-- `login`, when the password is wrong. -/
def failLoginStatements (env : CallEnvironment) : IdentityTx (Unit × Option (AuditFact ν)) := do
  let next ← recordAuthFailure (authSourceHash pf env.context.sourceAddress) env.now
  pure ((), some
    { actorType := .ANONYMOUS, actorId := none, action := "admin.login", outcome := .FAILURE,
      subjectType := "admin_identity", subjectId := none,
      remoteAddressHash := some (sourceHash pf env.context.sourceAddress),
      details := [("reason", .str (if authFailureThreshold ≤ next.failureCount then "throttled" else "invalid_credentials"))],
      changes := [] })

def failLogin (env : CallEnvironment) : IdentityTx Unit := audited pf env (failLoginStatements pf env)

/-- What a login draws: the session's id, its token and its CSRF token, as digests. -/
structure SessionDraw where
  sessionId : String
  tokenDigest : String
  csrfDigest : String
  deriving DecidableEq, Repr

def loginSession (env : CallEnvironment) (remember : Bool) (draw : SessionDraw) (generation : Nat) : AdminSession where
  sessionId := draw.sessionId
  tokenDigest := draw.tokenDigest
  csrfDigest := draw.csrfDigest
  generation := generation
  createdAt := env.now
  lastSeenAt := env.now
  idleExpiresAt := env.now + (if remember then rememberSessionTtlMs else sessionIdleTtlMs)
  absoluteExpiresAt := env.now + (if remember then rememberSessionTtlMs else sessionAbsoluteTtlMs)
  revokedAt := none
  revokeReason := none
  userAgent := normalizeAuditUserAgent env.context.userAgent
  sourceAddress := normalizeAuditAddress pf.toAuditPlatform env.context.sourceAddress

/-- The identity is the one whose hash was verified. -/
def sameCredentials (identity current : AdminIdentity) : Bool :=
  current.username = identity.username && current.passwordHash = identity.passwordHash &&
  current.sessionGeneration = identity.sessionGeneration

/-- `login`, when the password was right for the identity that was read. -/
def finishLoginStatements (env : CallEnvironment) (identity : AdminIdentity) (remember : Bool) (draw : SessionDraw) :
    IdentityTx (AdminSession × Option (AuditFact ν)) := do
  let db ← readWith id
  require (db.adminIdentity.any (sameCredentials identity) = true) (identityError "invalid_credentials" none)
  pruneIdentityState env.now
  resetAuthLimit (authSourceHash pf env.context.sourceAddress)
  resetAuthLimit (sourceHash pf env.context.sourceAddress)
  createSession (loginSession pf env remember draw identity.sessionGeneration)
  pure (loginSession pf env remember draw identity.sessionGeneration, some
    { actorType := .ADMIN, actorId := some identity.username, action := "admin.login", outcome := .SUCCESS,
      subjectType := "admin_session", subjectId := some draw.sessionId,
      remoteAddressHash := some (sourceHash pf env.context.sourceAddress),
      details := [("generation", .num (pf.ofNat identity.sessionGeneration))], changes := [] })

def finishLogin (env : CallEnvironment) (identity : AdminIdentity) (remember : Bool) (draw : SessionDraw) :
    IdentityTx AdminSession :=
  audited pf env (finishLoginStatements pf env identity remember draw)

/-! ## Sessions -/

/-- `authenticate`: a session that was not seen for a while is touched, and read again. -/
def authenticate (now : Nat) (token : String) : IdentityTx (Option AdminSession) := do
  match pf.digestToken token with
  | none => pure none
  | some digest =>
    match ← readWith (activeSession digest now) with
    | none => pure none
    | some session =>
      if session.lastSeenAt + sessionTouchIntervalMs ≤ now then
        let _ ← touchSession session.sessionId now
        readWith (activeSession digest now)
      else pure (some session)

/-- What a caller holds after `authenticate`. -/
structure AuthenticatedSession where
  session : AdminSession
  token : String
  deriving DecidableEq, Repr

/-- `#requireCurrentSession` -/
def requireCurrentSession (held : AuthenticatedSession) (now : Nat) : IdentityTx AdminSession := do
  let digest ← orFail (identityError "session_invalid" none) (pf.digestToken held.token)
  let current ← orFail (identityError "session_invalid" none) (← readWith (activeSession digest now))
  require (digest = held.session.tokenDigest ∧ current.sessionId = held.session.sessionId)
    (identityError "session_invalid" none)
  pure current

def logoutStatements (env : CallEnvironment) (held : AuthenticatedSession) : IdentityTx (Unit × Option (AuditFact ν)) := do
  let revoked ← revokeSession held.session.sessionId "logout" env.now
  pure ((), if revoked then some
    { actorType := .ADMIN, actorId := some ADMIN_USERNAME, action := "admin.logout", outcome := .SUCCESS,
      subjectType := "admin_session", subjectId := some held.session.sessionId, remoteAddressHash := none,
      details := [], changes := [] } else none)

def logout (env : CallEnvironment) (held : AuthenticatedSession) : IdentityTx Unit :=
  audited pf env (logoutStatements env held)

def revokeSessionStatements (env : CallEnvironment) (held : AuthenticatedSession) (target : String) :
    IdentityTx (Unit × Option (AuditFact ν)) := do
  let _ ← requireCurrentSession pf held env.now
  let revoked ← revokeActiveSession target env.now
  pure ((), if revoked then some
    { actorType := .ADMIN, actorId := some ADMIN_USERNAME, action := "admin.session_revoked", outcome := .SUCCESS,
      subjectType := "admin_session", subjectId := some target,
      remoteAddressHash := some (sourceHash pf env.context.sourceAddress), details := [], changes := [] } else none)

def revokeTargetSession (env : CallEnvironment) (held : AuthenticatedSession) (target : String) : IdentityTx Unit :=
  audited pf env (revokeSessionStatements pf env held target)

def revokeOthersStatements (env : CallEnvironment) (held : AuthenticatedSession) : IdentityTx (Nat × Option (AuditFact ν)) := do
  let current ← requireCurrentSession pf held env.now
  let count ← revokeOtherSessions current.sessionId env.now
  pure (count, some
    { actorType := .ADMIN, actorId := some ADMIN_USERNAME, action := "admin.sessions_revoke_others", outcome := .SUCCESS,
      subjectType := "admin_sessions", subjectId := none,
      remoteAddressHash := some (sourceHash pf env.context.sourceAddress),
      details := [("revoked_count", .num (pf.ofNat count))], changes := [] })

def revokeOthers (env : CallEnvironment) (held : AuthenticatedSession) : IdentityTx Nat :=
  audited pf env (revokeOthersStatements pf env held)

def revokeAllStatements (env : CallEnvironment) (held : AuthenticatedSession) : IdentityTx (Nat × Option (AuditFact ν)) := do
  let count ← orFail (identityError "session_invalid" none)
    (← revokeAllSessions "admin_requested" env.now held.session.sessionId held.session.tokenDigest)
  pure (count, some
    { actorType := .ADMIN, actorId := some ADMIN_USERNAME, action := "admin.sessions_revoke_all", outcome := .SUCCESS,
      subjectType := "admin_sessions", subjectId := none, remoteAddressHash := none,
      details := [("revoked_count", .num (pf.ofNat count))], changes := [] })

def revokeAll (env : CallEnvironment) (held : AuthenticatedSession) : IdentityTx Nat :=
  audited pf env (revokeAllStatements pf env held)

/-! ## Changing the password -/

/-- `changePassword`, up to the password work. -/
def beginChange (env : CallEnvironment) (held : AuthenticatedSession) (nextPassword : String) : IdentityTx AdminIdentity := do
  let db ← readWith id
  require ((activeSession held.session.tokenDigest env.now db).any fun s => s.sessionId = held.session.sessionId)
    (identityError "session_invalid" none)
  require (minAdminPasswordCharacters ≤ nextPassword.toList.length)
    (.rangeError "Password must contain at least 6 Unicode characters.")
  orFail (identityError "identity_not_initialized" none) db.adminIdentity

/-- `changePassword`, once the new password is known to differ and is hashed. -/
def finishChangeStatements (env : CallEnvironment) (held : AuthenticatedSession) (identity : AdminIdentity)
    (passwordHash : String) : IdentityTx (Unit × Option (AuditFact ν)) := do
  let generation ← orFail (identityError "session_invalid" none) (← updatePassword
    { passwordHash := passwordHash, expectedPasswordHash := identity.passwordHash,
      expectedGeneration := identity.sessionGeneration, sessionId := held.session.sessionId,
      tokenDigest := held.session.tokenDigest, now := env.now })
  pure ((), some
    { actorType := .ADMIN, actorId := some identity.username, action := "admin.password_changed", outcome := .SUCCESS,
      subjectType := "admin_identity", subjectId := none,
      remoteAddressHash := some (sourceHash pf env.context.sourceAddress),
      details := [("session_generation", .num (pf.ofNat generation))], changes := [redactedPassword true] })

def finishChange (env : CallEnvironment) (held : AuthenticatedSession) (identity : AdminIdentity) (passwordHash : String) :
    IdentityTx Unit :=
  audited pf env (finishChangeStatements pf env held identity passwordHash)

end PerPay.Identity
