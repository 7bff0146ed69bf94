/-
  **Clock readings and the checks on stored times.**

  The tables order the times of a row: a session is not revoked before it was created, and a window of
  failed logins does not start after the row was last written.  A revocation and a failed login write the
  clock as it reads NOW, beside a time that was read before.  So a statement is accepted exactly when now is
  not earlier than the times that stay: the creation of every session it selects, the start of the window
  that it continues.  One row that fails its check aborts the whole transaction.
-/
import PerPay.Identity.Revocation

namespace PerPay.Identity

open Audit
open Txn Table

variable {ν : Type} {pf : IdentityPlatform ν}

/-! ## Revocations -/

/-- The statements are not rejected, and every session they select is revoked when they are through. -/
def RevokesSelected {α : Type} (statements : IdentityTx α) (selected : AdminSession → Bool) (now : Nat)
    (db : IdentityDb) : Prop :=
  statements db ≠ .error sessionsRejected ∧
  ∀ s ∈ db.adminSessions, selected s = true → ∃ a db', statements db = .ok (a, db') ∧
    ∃ t ∈ db'.adminSessions, t.sessionId = s.sessionId ∧ t.revokedAt = some now

/-- A row that passes its checks passes them revoked, unless it was created after now. -/
theorem checked_revoke {s : AdminSession} (h : s.checked = true) (reason : String) (now : Nat) :
    (s.revoke reason now).checked = true ↔ s.createdAt ≤ now := by
  simp only [AdminSession.checked, Bool.and_eq_true, decide_eq_true_eq] at h
  obtain ⟨⟨⟨⟨⟨hgeneration, hseen⟩, hidle⟩, habsolute⟩, -⟩, -⟩ := h
  by_cases hle : s.createdAt ≤ now
  · simp [AdminSession.checked, AdminSession.revoke, hgeneration, hseen, hidle, habsolute, hle]
  · simp [AdminSession.checked, AdminSession.revoke, hgeneration, hseen, hidle, habsolute, hle]

/-- `UPDATE admin_sessions SET revoked_at = ?, …` on a checked table. -/
theorem updateSessions_revoke {p : IdentityDb → AdminSession → Bool} (reason : String) {now : Nat} {db : IdentityDb}
    (hdb : TablesChecked db) :
    (∀ s ∈ db.adminSessions, p db s = true → s.createdAt ≤ now) ∧
      updateSessions p (·.revoke reason now) db = .ok ((db.adminSessions.filter (p db)).length,
        { db with adminSessions := updateWhere (p db) (·.revoke reason now) db.adminSessions }) ∨
    (∃ s ∈ db.adminSessions, p db s = true ∧ now < s.createdAt) ∧
      updateSessions p (·.revoke reason now) db = .error sessionsRejected := by
  have hrun : updateSessions p (·.revoke reason now) db =
      (require (∀ s ∈ db.adminSessions, p db s = true → (s.revoke reason now).checked = true) sessionsRejected >>=
        fun _ => update (fun db => { db with adminSessions := updateWhere (p db) (·.revoke reason now) db.adminSessions }) >>=
        fun _ => pure (db.adminSessions.filter (p db)).length) db := rfl
  by_cases hall : ∀ s ∈ db.adminSessions, p db s = true → s.createdAt ≤ now
  · refine .inl ⟨hall, ?_⟩
    rw [hrun, require_bind_met fun s hs hp => (checked_revoke (hdb.sessions s hs) reason now).mpr (hall s hs hp)]
    rfl
  · refine .inr ⟨?_, ?_⟩
    · by_contra hnone
      exact hall fun s hs hp => Nat.le_of_not_lt fun hlt => hnone ⟨s, hs, hp, hlt⟩
    · rw [hrun, require_bind_unmet]
      exact fun hchecked => hall fun s hs hp => (checked_revoke (hdb.sessions s hs) reason now).mp (hchecked s hs hp)

/-- Statements that end as one update of the sessions does, on a table with the same sessions. -/
theorem revokesSelected_iff {α : Type} {statements : IdentityTx α} {p : IdentityDb → AdminSession → Bool} (reason : String)
    {now : Nat} {db m : IdentityDb} (hm : TablesChecked m) (hsessions : m.adminSessions = db.adminSessions)
    (hok : ∀ n db', updateSessions p (·.revoke reason now) m = .ok (n, db') → ∃ a, statements db = .ok (a, db'))
    (herror : ∀ e, updateSessions p (·.revoke reason now) m = .error e → statements db = .error e) :
    RevokesSelected statements (p m) now db ↔ ∀ s ∈ db.adminSessions, p m s = true → s.createdAt ≤ now := by
  rcases updateSessions_revoke reason hm with ⟨hall, hrun⟩ | ⟨⟨s, hs, hp, hlt⟩, hrun⟩
  · rw [hsessions] at hall
    obtain ⟨a, hrun⟩ := hok _ _ hrun
    refine ⟨fun _ => hall, fun _ => ⟨?_, fun s hs hp => ⟨a, _, hrun, s.revoke reason now, ?_, rfl, rfl⟩⟩⟩
    · rw [hrun]
      exact fun h => nomatch h
    · exact mem_updateWhere.mpr (.inl ⟨s, hsessions ▸ hs, hp, rfl⟩)
  · refine ⟨fun h => absurd (herror _ hrun) h.1, fun h => ?_⟩
    have := h s (hsessions ▸ hs) hp
    omega

/-- Statements that stop before they select anything. -/
theorem revokesSelected_of_none {α : Type} {statements : IdentityTx α} {selected : AdminSession → Bool} {now : Nat}
    {db : IdentityDb} (hrun : statements db ≠ .error sessionsRejected) (hnone : ∀ s, selected s = false) :
    RevokesSelected statements selected now db ↔ ∀ s ∈ db.adminSessions, selected s = true → s.createdAt ≤ now := by
  have hnot : ∀ s, selected s ≠ true := fun s => Bool.eq_false_iff.mp (hnone s)
  exact ⟨fun _ s _ h => absurd h (hnot s), fun _ => ⟨hrun, fun s _ h => absurd h (hnot s)⟩⟩

/-! ## What each operation selects -/

/-- The token and the session that a caller holds are accepted now. -/
def holdsSession (pf : IdentityPlatform ν) (held : AuthenticatedSession) (now : Nat) (db : IdentityDb) : Bool :=
  match pf.digestToken held.token with
  | none => false
  | some digest =>
    (activeSession digest now db).any fun s => digest = held.session.tokenDigest ∧ s.sessionId = held.session.sessionId

/-- The session that a caller holds is accepted now, by its own digest. -/
def holdsDigest (held : AuthenticatedSession) (now : Nat) (db : IdentityDb) : Bool :=
  (activeSession held.session.tokenDigest now db).any fun s => s.sessionId = held.session.sessionId

def passwordUpdate (env : CallEnvironment) (held : AuthenticatedSession) (identity : AdminIdentity) (passwordHash : String) :
    PasswordUpdate where
  passwordHash := passwordHash
  expectedPasswordHash := identity.passwordHash
  expectedGeneration := identity.sessionGeneration
  sessionId := held.session.sessionId
  tokenDigest := held.session.tokenDigest
  now := env.now

/-- A call that revokes sessions. -/
inductive Revocation
  | logout
  | revokeSession (target : String)
  | revokeOtherSessions
  | revokeAllSessions
  | changePassword (identity : AdminIdentity) (passwordHash : String)

/-- The sessions that a call selects in the state it finds. -/
def Revocation.selects (pf : IdentityPlatform ν) (env : CallEnvironment) (held : AuthenticatedSession) (db : IdentityDb)
    (s : AdminSession) : Revocation → Bool
  | .logout => s.sessionId = held.session.sessionId && s.revokedAt.isNone
  | .revokeSession target => holdsSession pf held env.now db && (s.sessionId = target && db.isActive env.now s)
  | .revokeOtherSessions =>
    holdsSession pf held env.now db && (s.sessionId ≠ held.session.sessionId && db.isActive env.now s)
  | .revokeAllSessions => holdsDigest held env.now db && s.revokedAt.isNone
  | .changePassword identity passwordHash =>
    (db.adminIdentity.any fun a => (passwordUpdate env held identity passwordHash).stillValid a db) && s.revokedAt.isNone

/-- The statements of a call, up to its audit event. -/
def Revocation.statements (pf : IdentityPlatform ν) (env : CallEnvironment) (held : AuthenticatedSession) :
    Revocation → IdentityTx Unit
  | .logout => ignoreResult (logoutStatements (ν := ν) env held)
  | .revokeSession target => ignoreResult (revokeSessionStatements pf env held target)
  | .revokeOtherSessions => ignoreResult (revokeOthersStatements pf env held)
  | .revokeAllSessions => ignoreResult (revokeAllStatements pf env held)
  | .changePassword identity passwordHash => ignoreResult (finishChangeStatements pf env held identity passwordHash)

/-! ## Each call -/

/-- A statement followed by nothing but a result. -/
theorem ignoreResult_of_ok {α : Type} {x : IdentityTx α} {db db' : IdentityDb} {a : α} (h : x db = .ok (a, db')) :
    ignoreResult x db = .ok ((), db') := by
  unfold ignoreResult
  rw [bind_of_ok h]
  rfl

theorem ignoreResult_of_error {α : Type} {x : IdentityTx α} {db : IdentityDb} {e : Fault} (h : x db = .error e) :
    ignoreResult x db = .error e := by
  unfold ignoreResult
  exact bind_of_error h

/-- `requireCurrentSession` passes when the session is held. -/
theorem requireCurrentSession_run (held : AuthenticatedSession) (now : Nat) (db : IdentityDb) :
    (holdsSession pf held now db = true ∧ ∃ current, current.sessionId = held.session.sessionId ∧
      requireCurrentSession pf held now db = .ok (current, db)) ∨
    (holdsSession pf held now db = false ∧
      requireCurrentSession pf held now db = .error (identityError "session_invalid" none)) := by
  unfold holdsSession
  cases hd : pf.digestToken held.token with
  | none =>
    refine .inr ⟨rfl, ?_⟩
    unfold requireCurrentSession
    rw [hd]
    rfl
  | some digest =>
    have hrun : requireCurrentSession pf held now db =
        (orFail (identityError "session_invalid" none) (activeSession digest now db) >>= fun current =>
          require (digest = held.session.tokenDigest ∧ current.sessionId = held.session.sessionId)
            (identityError "session_invalid" none) >>= fun _ => pure current) db := by
      unfold requireCurrentSession
      rw [hd]
      rfl
    rw [hrun]
    dsimp only
    cases activeSession digest now db with
    | none => exact .inr ⟨rfl, rfl⟩
    | some current =>
      by_cases hsame : digest = held.session.tokenDigest ∧ current.sessionId = held.session.sessionId
      · refine .inl ⟨decide_eq_true hsame, current, hsame.2, ?_⟩
        show (require _ _ >>= fun _ => pure current) db = _
        rw [require_bind_met hsame]
        rfl
      · refine .inr ⟨decide_eq_false hsame, ?_⟩
        show (require _ _ >>= fun _ => pure current) db = _
        rw [require_bind_unmet hsame]

theorem sessionsRejected_ne (code : String) (retry : Option Nat) : identityError code retry ≠ sessionsRejected :=
  fun h => nomatch h

theorem logout_revokes (env : CallEnvironment) (held : AuthenticatedSession) {db : IdentityDb} (hdb : TablesChecked db) :
    RevokesSelected (Revocation.logout.statements pf env held) (Revocation.logout.selects pf env held db) env.now db ↔
      ∀ s ∈ db.adminSessions, Revocation.logout.selects pf env held db s = true → s.createdAt ≤ env.now := by
  refine revokesSelected_iff (p := fun _ s => s.sessionId = held.session.sessionId && s.revokedAt.isNone) "logout"
    hdb rfl (fun n db' h => ⟨(), ?_⟩) (fun e h => ?_)
  · exact ignoreResult_of_ok (bind_ok.mpr ⟨_, db', bind_ok.mpr ⟨n, db', h, rfl⟩, rfl⟩)
  · exact ignoreResult_of_error (bind_of_error (bind_of_error h))

/-- A call that first requires the session it is made with. -/
theorem revokesSelected_guarded {α : Type} {statements : IdentityTx α} {held : Bool}
    {p : IdentityDb → AdminSession → Bool} (reason : String) {now : Nat} {db m : IdentityDb} (hm : TablesChecked m)
    (hsessions : m.adminSessions = db.adminSessions)
    (hguard : held = true ∧ (∀ n db', updateSessions p (·.revoke reason now) m = .ok (n, db') → ∃ a, statements db = .ok (a, db')) ∧
        (∀ e, updateSessions p (·.revoke reason now) m = .error e → statements db = .error e) ∨
      held = false ∧ statements db ≠ .error sessionsRejected) :
    RevokesSelected statements (fun s => held && p m s) now db ↔
      ∀ s ∈ db.adminSessions, (held && p m s) = true → s.createdAt ≤ now := by
  rcases hguard with ⟨rfl, hok, herror⟩ | ⟨rfl, hrun⟩
  · simp only [Bool.true_and]
    exact revokesSelected_iff reason hm hsessions hok herror
  · exact revokesSelected_of_none hrun fun _ => rfl

theorem revokeSession_revokes (env : CallEnvironment) (held : AuthenticatedSession) (target : String) {db : IdentityDb}
    (hdb : TablesChecked db) :
    RevokesSelected ((Revocation.revokeSession target).statements pf env held)
        (fun s => (Revocation.revokeSession target).selects pf env held db s) env.now db ↔
      ∀ s ∈ db.adminSessions, (Revocation.revokeSession target).selects pf env held db s = true → s.createdAt ≤ env.now := by
  refine revokesSelected_guarded (p := fun db s => s.sessionId = target && db.isActive env.now s)
    "admin_requested" hdb rfl ?_
  rcases @requireCurrentSession_run ν pf held env.now db with ⟨hheld, current, -, hrun⟩ | ⟨hheld, hrun⟩
  · refine .inl ⟨hheld, fun n db' h => ⟨(), ?_⟩, fun e h => ?_⟩
    · exact ignoreResult_of_ok (bind_ok.mpr ⟨_, db, hrun, bind_ok.mpr ⟨_, db', bind_ok.mpr ⟨n, db', h, rfl⟩, rfl⟩⟩)
    · exact ignoreResult_of_error ((bind_of_ok hrun).trans (bind_of_error (bind_of_error h)))
  · refine .inr ⟨hheld, fun h => ?_⟩
    rw [show (Revocation.revokeSession target).statements pf env held db = .error _ from
      ignoreResult_of_error (bind_of_error hrun)] at h
    exact sessionsRejected_ne _ _ (Except.error.inj h)

theorem revokeOtherSessions_revokes (env : CallEnvironment) (held : AuthenticatedSession) {db : IdentityDb}
    (hdb : TablesChecked db) :
    RevokesSelected (Revocation.revokeOtherSessions.statements pf env held)
        (fun s => Revocation.revokeOtherSessions.selects pf env held db s) env.now db ↔
      ∀ s ∈ db.adminSessions, Revocation.revokeOtherSessions.selects pf env held db s = true → s.createdAt ≤ env.now := by
  refine revokesSelected_guarded (p := fun db s => s.sessionId ≠ held.session.sessionId && db.isActive env.now s)
    "admin_requested" hdb rfl ?_
  rcases @requireCurrentSession_run ν pf held env.now db with ⟨hheld, current, hid, hrun⟩ | ⟨hheld, hrun⟩
  · rw [← hid]
    refine .inl ⟨hheld, fun n db' h => ⟨(), ?_⟩, fun e h => ?_⟩
    · exact ignoreResult_of_ok (bind_ok.mpr ⟨_, db, hrun, bind_ok.mpr ⟨n, db', h, rfl⟩⟩)
    · exact ignoreResult_of_error ((bind_of_ok hrun).trans (bind_of_error h))
  · refine .inr ⟨hheld, fun h => ?_⟩
    rw [show Revocation.revokeOtherSessions.statements pf env held db = .error _ from
      ignoreResult_of_error (bind_of_error hrun)] at h
    exact sessionsRejected_ne _ _ (Except.error.inj h)

/-- `revokeAllSessions` revokes under a new generation when the session is held, and else does nothing. -/
theorem revokeAllSessions_run (held : AuthenticatedSession) (reason : String) (now : Nat) (db : IdentityDb) :
    (holdsDigest held now db = true ∧ ∃ identity,
      revokeAllSessions reason now held.session.sessionId held.session.tokenDigest db =
        (revokeEverySession reason now >>= fun changes => pure (some changes)) { db with adminIdentity := some identity }) ∨
    (holdsDigest held now db = false ∧
      revokeAllSessions reason now held.session.sessionId held.session.tokenDigest db = .ok (none, db)) := by
  have hrun : revokeAllSessions reason now held.session.sessionId held.session.tokenDigest db =
      (if (activeSession held.session.tokenDigest now db).all fun s => s.sessionId ≠ held.session.sessionId then pure none
      else orFail (.error "administrator identity has not been initialized") db.adminIdentity >>= fun identity =>
        update (fun db => { db with adminIdentity := some { identity with sessionGeneration := identity.sessionGeneration + 1,
                                                                          updatedAt := now } }) >>= fun _ =>
        revokeEverySession reason now >>= fun changes => pure (some changes)) db := rfl
  rw [hrun]
  unfold holdsDigest
  cases hs : activeSession held.session.tokenDigest now db with
  | none => exact .inr ⟨rfl, rfl⟩
  | some current =>
    by_cases hid : current.sessionId = held.session.sessionId
    · have hactive := List.find?_some hs
      simp only [IdentityDb.isActive, Bool.and_eq_true] at hactive
      obtain ⟨identity, hidentity, -⟩ := (Option.any_eq_true _ _).mp hactive.2.1.1.2
      refine .inl ⟨decide_eq_true hid,
        { identity with sessionGeneration := identity.sessionGeneration + 1, updatedAt := now }, ?_⟩
      rw [if_neg (by simp [hid]), hidentity]
      rfl
    · refine .inr ⟨decide_eq_false hid, ?_⟩
      rw [if_pos (by simp [hid])]
      rfl

theorem revokeAllSessions_revokes (env : CallEnvironment) (held : AuthenticatedSession) {db : IdentityDb}
    (hdb : TablesChecked db) :
    RevokesSelected (Revocation.revokeAllSessions.statements pf env held)
        (fun s => Revocation.revokeAllSessions.selects pf env held db s) env.now db ↔
      ∀ s ∈ db.adminSessions, Revocation.revokeAllSessions.selects pf env held db s = true → s.createdAt ≤ env.now := by
  rcases revokeAllSessions_run held "admin_requested" env.now db with ⟨hheld, identity, hrun⟩ | ⟨hheld, hrun⟩
  · refine revokesSelected_guarded (p := fun _ s => s.revokedAt.isNone) "admin_requested"
      (m := { db with adminIdentity := some identity }) ⟨hdb.sessions, hdb.limits, hdb.sources⟩ rfl
      (.inl ⟨hheld, fun n db' h => ⟨(), ?_⟩, fun e h => ?_⟩)
    · have hall := hrun.trans (bind_ok.mpr ⟨n, db', h, rfl⟩)
      exact ignoreResult_of_ok (bind_ok.mpr ⟨_, db', hall, rfl⟩)
    · exact ignoreResult_of_error (bind_of_error (hrun.trans (bind_of_error h)))
  · refine revokesSelected_guarded (p := fun _ s => s.revokedAt.isNone) "admin_requested" hdb rfl
      (.inr ⟨hheld, fun h => ?_⟩)
    rw [show Revocation.revokeAllSessions.statements pf env held db = .error (identityError "session_invalid" none) from
      ignoreResult_of_error (bind_of_ok hrun)] at h
    exact sessionsRejected_ne _ _ (Except.error.inj h)

/-- `updatePassword` revokes under a new generation when the credentials are those expected. -/
theorem updatePassword_run (input : PasswordUpdate) (db : IdentityDb) :
    ((db.adminIdentity.any fun a => input.stillValid a db) = true ∧ ∃ identity generation,
      updatePassword input db = (revokeEverySession "password_changed" input.now >>= fun _ => pure (some generation))
        { db with adminIdentity := some identity }) ∨
    ((db.adminIdentity.any fun a => input.stillValid a db) = false ∧
      (updatePassword input db = .ok (none, db) ∨
        updatePassword input db = .error (.error "administrator identity has not been initialized"))) := by
  cases hidentity : db.adminIdentity with
  | none =>
    refine .inr ⟨rfl, .inr ?_⟩
    unfold updatePassword
    rw [readWith_bind]
    simp only [id_eq, hidentity]
    rfl
  | some identity =>
    have hrun : updatePassword input db =
        (if !input.stillValid identity db then pure none
        else
          update (fun db => { db with adminIdentity := some { identity with passwordHash := input.passwordHash,
                                                                            sessionGeneration := identity.sessionGeneration + 1,
                                                                            passwordChangedAt := input.now,
                                                                            updatedAt := input.now } }) >>= fun _ =>
          revokeEverySession "password_changed" input.now >>= fun _ => pure (some (identity.sessionGeneration + 1))) db := by
      unfold updatePassword
      rw [readWith_bind]
      simp only [id_eq, hidentity]
      rfl
    rw [hrun]
    by_cases hvalid : input.stillValid identity db = true
    · refine .inl ⟨hvalid, { identity with passwordHash := input.passwordHash,
                                           sessionGeneration := identity.sessionGeneration + 1,
                                           passwordChangedAt := input.now,
                                           updatedAt := input.now }, identity.sessionGeneration + 1, ?_⟩
      rw [if_neg (by simp [hvalid])]
      rfl
    · refine .inr ⟨Bool.eq_false_iff.mpr hvalid, .inl ?_⟩
      rw [if_pos (by simp [hvalid])]
      rfl

theorem changePassword_revokes (env : CallEnvironment) (held : AuthenticatedSession) (identity : AdminIdentity)
    (passwordHash : String) {db : IdentityDb} (hdb : TablesChecked db) :
    RevokesSelected ((Revocation.changePassword identity passwordHash).statements pf env held)
        (fun s => (Revocation.changePassword identity passwordHash).selects pf env held db s) env.now db ↔
      ∀ s ∈ db.adminSessions, (Revocation.changePassword identity passwordHash).selects pf env held db s = true →
        s.createdAt ≤ env.now := by
  rcases updatePassword_run (passwordUpdate env held identity passwordHash) db with
    ⟨hvalid, next, generation, hrun⟩ | ⟨hvalid, hrun⟩
  · refine revokesSelected_guarded (p := fun _ s => s.revokedAt.isNone) "password_changed"
      (m := { db with adminIdentity := some next }) ⟨hdb.sessions, hdb.limits, hdb.sources⟩ rfl
      (.inl ⟨hvalid, fun n db' h => ⟨(), ?_⟩, fun e h => ?_⟩)
    · have hall := hrun.trans (bind_ok.mpr ⟨n, db', h, rfl⟩)
      exact ignoreResult_of_ok (bind_ok.mpr ⟨_, db', hall, rfl⟩)
    · exact ignoreResult_of_error (bind_of_error (hrun.trans (bind_of_error h)))
  · refine revokesSelected_guarded (p := fun _ s => s.revokedAt.isNone) "password_changed" hdb rfl
      (.inr ⟨hvalid, fun h => ?_⟩)
    rcases hrun with hrun | hrun
    · rw [show (Revocation.changePassword identity passwordHash).statements pf env held db =
        .error (identityError "session_invalid" none) from ignoreResult_of_error (bind_of_ok hrun)] at h
      exact sessionsRejected_ne _ _ (Except.error.inj h)
    · rw [show (Revocation.changePassword identity passwordHash).statements pf env held db = .error _ from
        ignoreResult_of_error (bind_of_error hrun)] at h
      exact nomatch Except.error.inj h

/-- **Each call that revokes** revokes what it selects exactly when none of it was created after now. -/
theorem Revocation.revokes_iff (operation : Revocation) (env : CallEnvironment) (held : AuthenticatedSession)
    {db : IdentityDb} (hdb : TablesChecked db) :
    RevokesSelected (operation.statements pf env held) (fun s => operation.selects pf env held db s) env.now db ↔
      ∀ s ∈ db.adminSessions, operation.selects pf env held db s = true → s.createdAt ≤ env.now := by
  cases operation with
  | logout => exact logout_revokes env held hdb
  | revokeSession target => exact revokeSession_revokes env held target hdb
  | revokeOtherSessions => exact revokeOtherSessions_revokes env held hdb
  | revokeAllSessions => exact revokeAllSessions_revokes env held hdb
  | changePassword identity passwordHash => exact changePassword_revokes env held identity passwordHash hdb

/-! ## Failed logins -/

/-- A failed login is recorded: its statements are through, and the row of its source counts one more failure
    than the row before it, or starts again at one. -/
def FailureRecorded (pf : IdentityPlatform ν) (env : CallEnvironment) (db : IdentityDb) : Prop :=
  ∃ fact db' row, failLoginStatements pf env db = .ok (((), fact), db') ∧
    authLimit (authSourceHash pf env.context.sourceAddress) db' = some row ∧
    (row.failureCount = 1 ∨
      ∃ e, authLimit (authSourceHash pf env.context.sourceAddress) db = some e ∧ row.failureCount = e.failureCount + 1)

/-- The window of a row does not start after now, and while it lasts another failure can be counted. -/
def AdminAuthLimit.admits (e : AdminAuthLimit) (now : Nat) : Prop :=
  e.windowStartedAt ≤ now ∧ (now < e.windowStartedAt + authWindowMs → e.failureCount < 1000000)

theorem authLimit_eq_some {source : String} {db : IdentityDb} {e : AdminAuthLimit} (h : authLimit source db = some e) :
    e ∈ db.adminAuthLimits ∧ e.sourceHash = source := by
  unfold authLimit at h
  have hsource := List.find?_some h
  exact ⟨List.mem_of_find?_eq_some h, of_decide_eq_true hsource⟩

/-- The row of its own source, in a checked table. -/
theorem authLimit_of_mem {db : IdentityDb} (hdb : TablesChecked db) {e : AdminAuthLimit} (h : e ∈ db.adminAuthLimits) :
    authLimit e.sourceHash db = some e :=
  hdb.sources.find?_eq h

/-- The row of a source, in a table some rows of which are deleted. -/
theorem authLimit_filter {source : String} {db m : IdentityDb} {q : AdminAuthLimit → Bool} (hdb : TablesChecked db)
    (hm : m.adminAuthLimits = db.adminAuthLimits.filter q) : authLimit source m = (authLimit source db).filter q := by
  have hlook : ∀ e ∈ db.adminAuthLimits, e.sourceHash = source → authLimit source db = some e := by
    rintro e he rfl
    exact authLimit_of_mem hdb he
  cases h : authLimit source m with
  | some e =>
    obtain ⟨hmem, hsource⟩ := authLimit_eq_some h
    obtain ⟨he, hq⟩ := List.mem_filter.mp (hm ▸ hmem)
    rw [hlook e he hsource, Option.filter_some_pos hq]
  | none =>
    cases h' : authLimit source db with
    | none => rfl
    | some e =>
      obtain ⟨he, hsource⟩ := authLimit_eq_some h'
      unfold authLimit at h
      rw [List.find?_eq_none, hm] at h
      by_cases hq : q e = true
      · exact absurd (decide_eq_true hsource) (h e (List.mem_filter.mpr ⟨he, hq⟩))
      · rw [Option.filter_some_neg (Bool.eq_false_iff.mpr hq)]

theorem authLimit_upsert {row : AdminAuthLimit} {db db' : IdentityDb} {u : Unit} (hdb : TablesChecked db)
    (h : upsertAuthLimit row db = .ok (u, db')) : authLimit row.sourceHash db' = some row := by
  refine authLimit_of_mem (((keeps_upsertAuthLimit row).kept h).checked hdb) ?_
  obtain ⟨-, rfl⟩ := upsertAuthLimit_ok h
  dsimp only
  split
  · rename_i hany
    obtain ⟨e, he, hsource⟩ := List.any_eq_true.mp hany
    exact mem_updateWhere.mpr (.inl ⟨e, he, hsource, rfl⟩)
  · exact List.mem_append_right _ List.mem_cons_self

/-- A row is checked where its source admits a failure. -/
theorem nextAuthLimit_checked (source : String) {now : Nat} {existing : Option AdminAuthLimit}
    (h : ∀ e ∈ existing, e.admits now) : (nextAuthLimit source now existing).checked = true := by
  unfold nextAuthLimit
  split
  · rename_i e he
    obtain ⟨hmem, hwindow⟩ := Option.filter_eq_some_iff.mp he
    obtain ⟨hstart, hcount⟩ := h e hmem
    have := hcount (by have := of_decide_eq_true hwindow; omega)
    simp only [AdminAuthLimit.checked, Bool.and_eq_true, decide_eq_true_eq]
    omega
  · simp [AdminAuthLimit.checked]

theorem nextAuthLimit_count (source : String) (now : Nat) (existing : Option AdminAuthLimit) :
    (nextAuthLimit source now existing).failureCount = 1 ∨
      ∃ e ∈ existing, (nextAuthLimit source now existing).failureCount = e.failureCount + 1 := by
  unfold nextAuthLimit
  split
  · rename_i e he
    exact .inr ⟨e, (Option.filter_eq_some_iff.mp he).1, rfl⟩
  · exact .inl rfl

theorem nextAuthLimit_sourceHash (source : String) (now : Nat) (existing : Option AdminAuthLimit) :
    (nextAuthLimit source now existing).sourceHash = source := by
  unfold nextAuthLimit
  split <;> rfl

/-- The statements of a failed login are the upsert of the next row, on the pruned tables. -/
theorem failLogin_run (env : CallEnvironment) (db db' : IdentityDb) :
    (∃ fact, failLoginStatements pf env db = .ok (((), fact), db')) ↔
      upsertAuthLimit (nextAuthLimit (authSourceHash pf env.context.sourceAddress) env.now
          (authLimit (authSourceHash pf env.context.sourceAddress) (committed (pruneIdentityState env.now) db)))
        (committed (pruneIdentityState env.now) db) = .ok ((), db') := by
  constructor
  · rintro ⟨fact, h⟩
    obtain ⟨next, m, h1, h⟩ := bind_ok.mp h
    obtain ⟨-, rfl⟩ := pure_ok.mp h
    obtain ⟨_, m1, h0, h1⟩ := bind_ok.mp h1
    obtain rfl := update_eq.mp h0
    rw [readWith_bind_ok] at h1
    obtain ⟨_, m2, h2, h1⟩ := bind_ok.mp h1
    obtain ⟨-, rfl⟩ := pure_ok.mp h1
    exact h2
  · intro h
    have hrecorded : recordAuthFailure (authSourceHash pf env.context.sourceAddress) env.now db = .ok (_, db') :=
      bind_ok.mpr ⟨(), _, rfl, readWith_bind_ok.mpr (bind_ok.mpr ⟨(), db', h, rfl⟩)⟩
    exact ⟨_, bind_ok.mpr ⟨_, db', hrecorded, rfl⟩⟩

theorem upsertAuthLimit_of_checked {row : AdminAuthLimit} (h : row.checked = true) (db : IdentityDb) :
    ∃ db', upsertAuthLimit row db = .ok ((), db') := by
  unfold upsertAuthLimit
  rw [require_bind_met h]
  exact ⟨_, rfl⟩

/-- A row that its window still holds is not pruned. -/
theorem not_pruned {e : AdminAuthLimit} (h : e.checked = true) {now : Nat} (hwindow : now < e.windowStartedAt + authWindowMs) :
    (some e).filter (fun l => !(l.updatedAt + authWindowMs ≤ now && l.blockedUntil ≤ now)) = some e := by
  simp only [AdminAuthLimit.checked, Bool.and_eq_true, decide_eq_true_eq] at h
  have hupdated : ¬ e.updatedAt + authWindowMs ≤ now := by omega
  simp [hupdated]

theorem nextAuthLimit_inWindow (source : String) {now : Nat} {e : AdminAuthLimit} (h : now < e.windowStartedAt + authWindowMs) :
    nextAuthLimit source now (some e) =
      ⟨source, e.windowStartedAt, e.failureCount + 1, now + authFailureDelay (e.failureCount + 1), now⟩ := by
  have hwindow : (now : Int) - e.windowStartedAt < authWindowMs := by omega
  have hfilter : (some e).filter (fun e => (now : Int) - e.windowStartedAt < authWindowMs) = some e := by
    rw [Option.filter_some_pos]
    exact decide_eq_true hwindow
  unfold nextAuthLimit
  rw [hfilter]

/-- **A failed login** is recorded exactly when the row of its source admits it. -/
theorem failLogin_recorded_iff (env : CallEnvironment) {db : IdentityDb} (hdb : TablesChecked db) :
    FailureRecorded pf env db ↔
      ∀ e, authLimit (authSourceHash pf env.context.sourceAddress) db = some e → e.admits env.now := by
  have hrun := @failLogin_run ν pf env db
  have hpruned : TablesChecked (committed (pruneIdentityState env.now) db) :=
    ((keeps_pruneIdentityState env.now).kept rfl).checked hdb
  rw [authLimit_filter hdb rfl] at hrun
  generalize hexisting : (authLimit (authSourceHash pf env.context.sourceAddress) db).filter _ = existing at hrun
  have hmem : ∀ e ∈ existing, authLimit (authSourceHash pf env.context.sourceAddress) db = some e := fun e he =>
    (Option.filter_eq_some_iff.mp (hexisting.trans he)).1
  constructor
  · rintro ⟨fact, db', -, h, -⟩ e he
    obtain ⟨hchecked, -⟩ := upsertAuthLimit_ok ((hrun db').mp ⟨fact, h⟩)
    by_cases hwindow : env.now < e.windowStartedAt + authWindowMs
    · rw [he, not_pruned (hdb.limits e (authLimit_eq_some he).1) hwindow] at hexisting
      rw [← hexisting, nextAuthLimit_inWindow _ hwindow] at hchecked
      simp only [AdminAuthLimit.checked, Bool.and_eq_true, decide_eq_true_eq] at hchecked
      exact ⟨hchecked.1.2, fun _ => by omega⟩
    · exact ⟨by omega, fun h => absurd h hwindow⟩
  · intro hadmits
    have hchecked := nextAuthLimit_checked (authSourceHash pf env.context.sourceAddress) fun e he => hadmits e (hmem e he)
    obtain ⟨db', hupsert⟩ := upsertAuthLimit_of_checked hchecked (committed (pruneIdentityState env.now) db)
    obtain ⟨fact, h⟩ := (hrun db').mpr hupsert
    have hrow := authLimit_upsert hpruned hupsert
    rw [nextAuthLimit_sourceHash] at hrow
    refine ⟨fact, _, _, h, hrow, ?_⟩
    rcases nextAuthLimit_count _ env.now existing with hone | ⟨e, he, hcount⟩
    · exact .inl hone
    · exact .inr ⟨e, hmem e he, hcount⟩

/-! ## The result -/

/-- **Clock readings.**  In every reachable state and for every reading of the clock: a failed login is
    recorded exactly when the row of its source admits it, and a call that revokes sessions revokes what it
    selects exactly when no session it selects was created after now. -/
theorem clock_reading_accepted_iff (pf : IdentityPlatform ν) {s : SessionsState}
    (h : Runs.Reachable (identitySystem pf) s) (env : CallEnvironment) :
    (FailureRecorded pf env s.db ↔
      ∀ e, authLimit (authSourceHash pf env.context.sourceAddress) s.db = some e → e.admits env.now) ∧
    ∀ (operation : Revocation) (held : AuthenticatedSession),
      RevokesSelected (operation.statements pf env held) (fun t => operation.selects pf env held s.db t) env.now s.db ↔
        ∀ t ∈ s.db.adminSessions, operation.selects pf env held s.db t = true → t.createdAt ≤ env.now := by
  have hchecked := (sessionsInv_reachable h).log.checked
  exact ⟨failLogin_recorded_iff env hchecked, fun operation held => operation.revokes_iff env held hchecked⟩

theorem clock_reading_accepted_iff_sample :
    FailureRecorded samplePlatform (sampleEnvironment 8 firstEventId) sampleState.db ↔
      ∀ e, authLimit (authSourceHash samplePlatform none) sampleState.db = some e → e.admits 8 :=
  (clock_reading_accepted_iff samplePlatform
    (Runs.Reachable.foldl (fun _ _ => rfl) sampleOperations ⟨[], .start rfl⟩) (sampleEnvironment 8 firstEventId)).1

/-! Two setups are attempted at 1000 and one of them succeeds, which takes back its own attempt.  A login has
    read the identity, and the clock steps back to 500 before its password turns out to be wrong. -/

def steppingPlatform : IdentityPlatform Nat :=
  { samplePlatform with
      sha256 := fun _ => "e3b0c44298fc1c149afbf4c8996fb92427ae41e4649b934ca495991b7852b855"
      sha256_digest := fun _ => by decide }

def steppingOperations : List Operation :=
  [.beginSetup (sampleEnvironment 1000 firstEventId) "sesame", .beginSetup (sampleEnvironment 1000 firstEventId) "sesame",
    .finishSetup 0 (sampleEnvironment 1000 firstEventId) "sesame",
    .beginLogin (sampleEnvironment 1000 secondEventId) "guess" false]

def steppingState : SessionsState := steppingOperations.foldl (perform steppingPlatform) SessionsState.initial

/-- The login that waits, and the start of the window that its failure would continue. -/
theorem steppingState_waits :
    (steppingState.pending.any fun call =>
      match call with
      | .login _ password _ identity => !steppingPlatform.verifyPassword password identity.passwordHash
      | _ => false) = true ∧
    (authLimit (authSourceHash steppingPlatform none) steppingState.db).map (·.windowStartedAt) = some 1000 := by
  decide +kernel

theorem failed_login_lost :
    ¬ ∀ (s : SessionsState) (env : CallEnvironment) (call : Nat) (password : String) (remember : Bool)
        (identity : AdminIdentity), Runs.Reachable (identitySystem steppingPlatform) s →
      .login call password remember identity ∈ s.pending →
      steppingPlatform.verifyPassword password identity.passwordHash = false → FailureRecorded steppingPlatform env s.db := by
  intro hclaim
  have hreach : Runs.Reachable (identitySystem steppingPlatform) steppingState :=
    Runs.Reachable.foldl (fun _ _ => rfl) steppingOperations ⟨[], .start rfl⟩
  obtain ⟨hpending, hlimit⟩ := steppingState_waits
  obtain ⟨call, hmem, hlogin⟩ := List.any_eq_true.mp hpending
  obtain ⟨e, he, hstart⟩ := Option.map_eq_some_iff.mp hlimit
  cases call with
  | login call password remember identity =>
    have hrecorded := hclaim steppingState (sampleEnvironment 500 secondEventId) call password remember identity hreach hmem
      (by simpa using hlogin)
    have hadmits := (failLogin_recorded_iff _ (sessionsInv_reachable hreach).log.checked).mp hrecorded e he
    exact absurd (hstart ▸ hadmits.1) (by decide)
  | setup attempt => exact absurd hlogin Bool.false_ne_true
  | change held nextPassword identity => exact absurd hlogin Bool.false_ne_true

end PerPay.Identity
