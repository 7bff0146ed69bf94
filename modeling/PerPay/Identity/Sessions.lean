/-
  **The system of sessions** — logins, authentications, revocations and password changes, with the
  password work of several calls under way at once.

  A call that works on a password is PENDING between its two operations, and any pending call may go on
  at any time, or never.  Every operation reads the clock anew.

  The log, oldest first, records for the statements about runs what the calls have read and done.  A
  session is revoked when its row becomes so: the entries for that are read off the table, whatever
  operation wrote it.
-/
import PerPay.Identity.Service
import PerPay.Lib.Runs

namespace PerPay.Identity

open Audit
open Txn Table

/-! ## States -/

/-- A call that works on a password, with what it has read. -/
inductive PendingCall
  | setup (attempt : AdminAuthLimit)
  | login (call : Nat) (password : String) (remember : Bool) (identity : AdminIdentity)
  | change (held : AuthenticatedSession) (nextPassword : String) (identity : AdminIdentity)
  deriving DecidableEq, Repr

inductive LogEntry
  /-- a setup committed -/
  | adminInitialized
  /-- a login read the identity that it verifies its password against -/
  | identityRead (call : Nat) (password : String) (identity : AdminIdentity)
  /-- that login created its session -/
  | sessionCreated (call : Nat) (session : AdminSession)
  /-- the row of a session was revoked -/
  | sessionRevoked (sessionId : String)
  | passwordChanged
  | allRevoked
  /-- `authenticate` returned a session; the hash is the administrator's at that moment -/
  | authenticated (session : AdminSession) (passwordHash : String) (now : Nat)
  deriving DecidableEq, Repr

structure SessionsState where
  db : IdentityDb
  pending : List PendingCall
  calls : Nat
  log : List LogEntry

def SessionsState.initial : SessionsState := ⟨IdentityDb.empty, [], 0, []⟩

/-- The sessions whose rows are revoked in `db'` and were not in `db`. -/
def revokedIn (db db' : IdentityDb) : List String :=
  (db.adminSessions.filter fun s => s.revokedAt.isNone &&
    db'.adminSessions.any fun t => t.sessionId = s.sessionId && t.revokedAt.isSome).map (·.sessionId)

/-- Run a transaction; when it commits, its entries go to the log. -/
def SessionsState.commit {α : Type} (s : SessionsState) (x : IdentityTx α) (entries : α → IdentityDb → List LogEntry) :
    SessionsState :=
  match x s.db with
  | .ok (a, db') => { s with db := db', log := s.log ++ ((revokedIn s.db db').map .sessionRevoked ++ entries a db') }
  | .error _ => s

def SessionsState.addPending (s : SessionsState) (call : PendingCall) : SessionsState :=
  { s with pending := s.pending ++ [call] }

def SessionsState.dropPending (s : SessionsState) (index : Nat) : SessionsState :=
  { s with pending := s.pending.eraseIdx index }

/-! ## Steps -/

/-- What happens next; `pending` is the place of the call that goes on. -/
inductive Operation
  | beginSetup (env : CallEnvironment) (password : String)
  | finishSetup (pending : Nat) (env : CallEnvironment) (passwordHash : String)
  | beginLogin (env : CallEnvironment) (password : String) (remember : Bool)
  | finishLogin (pending : Nat) (env : CallEnvironment) (draw : SessionDraw)
  | beginChange (env : CallEnvironment) (held : AuthenticatedSession) (nextPassword : String)
  | finishChange (pending : Nat) (env : CallEnvironment) (passwordHash : String)
  | takeBudget (now : Nat)
  | refuse (pending : Nat) (env : CallEnvironment)
  | authenticate (now : Nat) (token : String)
  | logout (env : CallEnvironment) (held : AuthenticatedSession)
  | revokeSession (env : CallEnvironment) (held : AuthenticatedSession) (target : String)
  | revokeOtherSessions (env : CallEnvironment) (held : AuthenticatedSession)
  | revokeAllSessions (env : CallEnvironment) (held : AuthenticatedSession)

variable {ν : Type} (pf : IdentityPlatform ν)

/-- A setup whose attempt is committed waits for its hash. -/
def performBeginSetup (s : SessionsState) (env : CallEnvironment) (password : String) : SessionsState :=
  match beginSetup pf env password s.db with
  | .ok (attempt, _) => (s.commit (beginSetup pf env password) fun _ _ => []).addPending (.setup attempt)
  | .error _ => s

/-- The hash is there: the setup commits, or retains its attempt. -/
def performFinishSetup (s : SessionsState) (index : Nat) (env : CallEnvironment) (passwordHash : String) : SessionsState :=
  match s.pending[index]? with
  | some (.setup attempt) =>
    (match finishSetup pf env passwordHash attempt s.db with
      | .ok _ => s.commit (finishSetup pf env passwordHash attempt) fun _ _ => [.adminInitialized]
      | .error _ => s.commit (retainSetupAttempt pf env) fun _ _ => []).dropPending index
  | _ => s

def performBeginLogin (s : SessionsState) (env : CallEnvironment) (password : String) (remember : Bool) : SessionsState :=
  match beginLogin pf env s.db with
  | .ok (identity, _) =>
    { (s.commit (beginLogin pf env) fun _ _ => [.identityRead s.calls password identity]).addPending
        (.login s.calls password remember identity) with calls := s.calls + 1 }
  | .error _ => s

/-- The password is verified: the login creates its session, or records its failure. -/
def performFinishLogin (s : SessionsState) (index : Nat) (env : CallEnvironment) (draw : SessionDraw) : SessionsState :=
  match s.pending[index]? with
  | some (.login call password remember identity) =>
    (if pf.verifyPassword password identity.passwordHash then
      s.commit (finishLogin pf env identity remember draw) fun session _ => [.sessionCreated call session]
    else s.commit (failLogin pf env) fun _ _ => []).dropPending index
  | _ => s

def performBeginChange (s : SessionsState) (env : CallEnvironment) (held : AuthenticatedSession) (nextPassword : String) :
    SessionsState :=
  match beginChange env held nextPassword s.db with
  | .ok (identity, _) => s.addPending (.change held nextPassword identity)
  | .error _ => s

/-- The new password is compared and hashed: the change commits, unless it changes nothing. -/
def performFinishChange (s : SessionsState) (index : Nat) (env : CallEnvironment) (passwordHash : String) : SessionsState :=
  match s.pending[index]? with
  | some (.change held nextPassword identity) =>
    (if pf.verifyPassword nextPassword identity.passwordHash then s
    else s.commit (finishChange pf env held identity passwordHash) fun _ _ => [.passwordChanged]).dropPending index
  | _ => s

/-- The password work is refused or fails; a setup retains its attempt. -/
def performRefuse (s : SessionsState) (index : Nat) (env : CallEnvironment) : SessionsState :=
  match s.pending[index]? with
  | some (.setup _) => (s.commit (retainSetupAttempt pf env) fun _ _ => []).dropPending index
  | _ => s.dropPending index

/-- What `authenticate` returns goes to the log. -/
def authenticatedEntries (now : Nat) (session : Option AdminSession) (db : IdentityDb) : List LogEntry :=
  match session, db.adminIdentity with
  | some session, some identity => [.authenticated session identity.passwordHash now]
  | _, _ => []

def perform (s : SessionsState) : Operation → SessionsState
  | .beginSetup env password => performBeginSetup pf s env password
  | .finishSetup index env passwordHash => performFinishSetup pf s index env passwordHash
  | .beginLogin env password remember => performBeginLogin pf s env password remember
  | .finishLogin index env draw => performFinishLogin pf s index env draw
  | .beginChange env held nextPassword => performBeginChange s env held nextPassword
  | .finishChange index env passwordHash => performFinishChange pf s index env passwordHash
  | .takeBudget now => s.commit (takeAnonymousPasswordBudget now) fun _ _ => []
  | .refuse index env => performRefuse pf s index env
  | .authenticate now token => s.commit (authenticate pf now token) (authenticatedEntries now)
  | .logout env held => s.commit (logout pf env held) fun _ _ => []
  | .revokeSession env held target => s.commit (revokeTargetSession pf env held target) fun _ _ => []
  | .revokeOtherSessions env held => s.commit (revokeOthers pf env held) fun _ _ => []
  | .revokeAllSessions env held => s.commit (revokeAll pf env held) fun _ _ => [.allRevoked]

/-- The identity service, with its calls in any order. -/
def identitySystem : Runs.System SessionsState Operation where
  init s := s = SessionsState.initial
  step s op s' := s' = perform pf s op

end PerPay.Identity
