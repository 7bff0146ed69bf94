/-
  **Revocation of sessions is final.**

  What an operation can do to the administrator and the sessions is one of four things: it KEEPS them
  (rows may be revoked, touched or deleted, never revived), it CREATES one session for the current
  generation, it BUMPS the generation and revokes every row, or it INITIALIZES the administrator.

  The generation counts the bumps.  So when a login finds the generation that it read, no bump has come
  in between, and neither has a change of the hash it verified.  The invariant ties every row that could
  still be accepted to the log: a login read the identity, verified its password, created the row, and
  since then nothing has revoked it (`Stands`).
-/
import PerPay.Identity.Sessions

namespace PerPay.Identity

open Audit
open Txn Table

variable {ν : Type} {pf : IdentityPlatform ν}

/-! ## Operations that keep the sessions -/

/-- The columns of a session that never change. -/
structure SameSession (s t : AdminSession) : Prop where
  sessionId : t.sessionId = s.sessionId
  tokenDigest : t.tokenDigest = s.tokenDigest
  generation : t.generation = s.generation
  absoluteExpiresAt : t.absoluteExpiresAt = s.absoluteExpiresAt

theorem SameSession.refl (s : AdminSession) : SameSession s s := ⟨rfl, rfl, rfl, rfl⟩

theorem SameSession.trans {s t u : AdminSession} (h : SameSession s t) (h' : SameSession t u) : SameSession s u :=
  ⟨h'.sessionId.trans h.sessionId, h'.tokenDigest.trans h.tokenDigest, h'.generation.trans h.generation,
    h'.absoluteExpiresAt.trans h.absoluteExpiresAt⟩

/-- Every row of the two tables passes its checks, and a source has one row. -/
structure TablesChecked (db : IdentityDb) : Prop where
  sessions : ∀ s ∈ db.adminSessions, s.checked = true
  limits : ∀ l ∈ db.adminAuthLimits, l.checked = true
  sources : UniqueOn (·.sourceHash) db.adminAuthLimits

/-- The administrator is the same, and every row was there before; none came back to life. -/
structure Kept (db db' : IdentityDb) : Prop where
  admin : db'.adminIdentity = db.adminIdentity
  rows : ∀ t ∈ db'.adminSessions, ∃ s ∈ db.adminSessions, SameSession s t ∧ (t.revokedAt = none → s.revokedAt = none)
  ids : UniqueOn (·.sessionId) db.adminSessions → UniqueOn (·.sessionId) db'.adminSessions
  checked : TablesChecked db → TablesChecked db'

theorem Kept.refl (db : IdentityDb) : Kept db db := ⟨rfl, fun s hs => ⟨s, hs, .refl s, id⟩, id, id⟩

theorem Kept.trans {db m db' : IdentityDb} (h : Kept db m) (h' : Kept m db') : Kept db db' := by
  refine ⟨h'.admin.trans h.admin, fun t ht => ?_, fun hu => h'.ids (h.ids hu), fun hc => h'.checked (h.checked hc)⟩
  obtain ⟨s, hs, hst, hlive⟩ := h'.rows t ht
  obtain ⟨r, hr, hrs, hlive'⟩ := h.rows s hs
  exact ⟨r, hr, hrs.trans hst, hlive' ∘ hlive⟩

/-- Nothing but the tables that say nothing about sessions. -/
theorem Kept.of_same {db db' : IdentityDb} (ha : db'.adminIdentity = db.adminIdentity)
    (hs : db'.adminSessions = db.adminSessions) (hc : TablesChecked db → TablesChecked db') : Kept db db' :=
  ⟨ha, fun t ht => ⟨t, hs ▸ ht, .refl t, id⟩, fun hu => hs.symm ▸ hu, hc⟩

/-- A transaction that keeps what the state before it kept. -/
def Keeps {α : Type} (x : IdentityTx α) : Prop := ∀ db, Preserves (Kept db) x

theorem Keeps.kept {α : Type} {x : IdentityTx α} (h : Keeps x) {db db' : IdentityDb} {a : α} (hx : x db = .ok (a, db')) :
    Kept db db' :=
  h db db (.refl db) a db' hx

theorem keeps_update {f : IdentityDb → IdentityDb} (h : ∀ db, Kept db (f db)) : Keeps (update f) :=
  fun _ => preserves_update fun db hdb => hdb.trans (h db)

theorem updateSessions_ok {p : IdentityDb → AdminSession → Bool} {f : AdminSession → AdminSession} {db db' : IdentityDb}
    {n : Nat} (h : updateSessions p f db = .ok (n, db')) :
    (∀ s ∈ db.adminSessions, p db s = true → (f s).checked = true) ∧
      db' = { db with adminSessions := updateWhere (p db) f db.adminSessions } := by
  unfold updateSessions at h
  rw [readWith_bind_ok, require_bind_ok, update_bind_ok] at h
  obtain ⟨hchecked, h⟩ := h
  obtain ⟨-, rfl⟩ := pure_ok.mp h
  exact ⟨hchecked, rfl⟩

theorem updateSessions_checked {p : IdentityDb → AdminSession → Bool} {f : AdminSession → AdminSession}
    {db db' : IdentityDb} {n : Nat} (h : updateSessions p f db = .ok (n, db')) (hdb : TablesChecked db) :
    TablesChecked db' := by
  obtain ⟨hchecked, rfl⟩ := updateSessions_ok h
  refine ⟨fun t ht => ?_, hdb.limits, hdb.sources⟩
  rcases mem_updateWhere.mp ht with ⟨s, hs, hp, rfl⟩ | ⟨hs, -⟩
  · exact hchecked s hs hp
  · exact hdb.sessions t hs

theorem keeps_updateSessions {p : IdentityDb → AdminSession → Bool} {f : AdminSession → AdminSession}
    (hf : ∀ db s, p db s = true → SameSession s (f s) ∧ ((f s).revokedAt = none → s.revokedAt = none)) :
    Keeps (updateSessions p f) := by
  intro db0 db hdb n db' h
  refine hdb.trans ?_
  have hchecked := updateSessions_checked h
  obtain ⟨-, rfl⟩ := updateSessions_ok h
  refine ⟨rfl, fun t ht => ?_, fun hu => hu.updateWhere fun s hs => (hf db s hs).1.sessionId, hchecked⟩
  rcases mem_updateWhere.mp ht with ⟨s, hs, hp, rfl⟩ | ⟨hs, -⟩
  · exact ⟨s, hs, hf db s hp⟩
  · exact ⟨t, hs, .refl t, id⟩

/-- A revoked row is the same session, and not a live one. -/
theorem sameSession_revoke (reason : String) (now : Nat) (s : AdminSession) :
    SameSession s (s.revoke reason now) ∧ ((s.revoke reason now).revokedAt = none → s.revokedAt = none) :=
  ⟨⟨rfl, rfl, rfl, rfl⟩, fun h => nomatch h⟩

theorem keeps_touchSession (sessionId : String) (now : Nat) : Keeps (touchSession sessionId now) :=
  keeps_updateSessions fun _ _ _ => ⟨⟨rfl, rfl, rfl, rfl⟩, id⟩

theorem keeps_revokeSession (sessionId reason : String) (now : Nat) : Keeps (revokeSession sessionId reason now) := fun db =>
  preserves_bind (keeps_updateSessions (fun _ s _ => sameSession_revoke reason now s) db) fun _ => preserves_pure _

theorem keeps_revokeActiveSession (sessionId : String) (now : Nat) : Keeps (revokeActiveSession sessionId now) := fun db =>
  preserves_bind (keeps_updateSessions (fun _ s _ => sameSession_revoke _ now s) db) fun _ => preserves_pure _

theorem keeps_revokeOtherSessions (sessionId : String) (now : Nat) : Keeps (revokeOtherSessions sessionId now) :=
  keeps_updateSessions fun _ s _ => sameSession_revoke _ now s

theorem keeps_pruneIdentityState (now : Nat) : Keeps (pruneIdentityState now) :=
  keeps_update fun _ => ⟨rfl, fun t ht => ⟨t, (List.mem_filter.mp ht).1, .refl t, id⟩, fun hu => hu.filter _,
    fun hc => ⟨fun s hs => hc.sessions s (List.mem_filter.mp hs).1, fun l hl => hc.limits l (List.mem_filter.mp hl).1,
      hc.sources.filter _⟩⟩

theorem keeps_resetAuthLimit (source : String) : Keeps (resetAuthLimit source) :=
  keeps_update fun _ => .of_same rfl rfl fun hc =>
    ⟨hc.sessions, fun l hl => hc.limits l (List.mem_filter.mp hl).1, hc.sources.filter _⟩

theorem upsertAuthLimit_ok {row : AdminAuthLimit} {db db' : IdentityDb} {u : Unit}
    (h : upsertAuthLimit row db = .ok (u, db')) :
    row.checked = true ∧ db' =
      { db with
          adminAuthLimits :=
            if db.adminAuthLimits.any fun l => l.sourceHash = row.sourceHash then
              updateWhere (fun l => l.sourceHash = row.sourceHash) (fun _ => row) db.adminAuthLimits
            else db.adminAuthLimits ++ [row] } := by
  unfold upsertAuthLimit at h
  rw [require_bind_ok] at h
  exact ⟨h.1, update_eq.mp h.2⟩

theorem keeps_upsertAuthLimit (row : AdminAuthLimit) : Keeps (upsertAuthLimit row) := by
  intro db0 db hdb u db' h
  obtain ⟨hrow, rfl⟩ := upsertAuthLimit_ok h
  refine hdb.trans (.of_same rfl rfl fun hc => ⟨hc.sessions, ?_, ?_⟩)
  · intro l hl
    dsimp only at hl
    split at hl
    · rcases mem_updateWhere.mp hl with ⟨_, -, -, rfl⟩ | ⟨hl, -⟩
      · exact hrow
      · exact hc.limits l hl
    · rcases List.mem_append.mp hl with hl | hl
      · exact hc.limits l hl
      · rw [List.mem_singleton.mp hl]
        exact hrow
  · show UniqueOn AdminAuthLimit.sourceHash (if _ then _ else _)
    split
    · exact hc.sources.updateWhere fun l hl => (of_decide_eq_true hl).symm
    · rename_i hnew
      refine hc.sources.append fun l hl heq => hnew ?_
      exact List.any_eq_true.mpr ⟨l, hl, decide_eq_true heq⟩

theorem keeps_recordAuthFailure (source : String) (now : Nat) : Keeps (recordAuthFailure source now) := fun db =>
  preserves_bind (keeps_pruneIdentityState now db) fun _ => preserves_bind (preserves_readWith _) fun _ =>
    preserves_bind (keeps_upsertAuthLimit _ db) fun _ => preserves_pure _

theorem keeps_resetAuthLimitThrough (source : String) (observed : AdminAuthLimit) (now : Nat) :
    Keeps (resetAuthLimitThrough source observed now) := by
  intro db
  refine preserves_bind (preserves_readWith _) fun existing => ?_
  cases existing with
  | none => exact preserves_pure _
  | some current =>
    exact preserves_ite (preserves_pure _) (preserves_ite (keeps_resetAuthLimit source db) (keeps_upsertAuthLimit _ db))

theorem keeps_takeAnonymousPasswordBudget (now : Nat) : Keeps (takeAnonymousPasswordBudget now) := fun _ =>
  preserves_bind (preserves_require _ _) fun _ => preserves_bind (preserves_readWith _) fun _ =>
    preserves_bind (preserves_require _ _) fun _ => preserves_ite (preserves_pure _)
      (preserves_bind (preserves_require _ _) fun _ =>
        preserves_bind (preserves_update fun _ h => h.trans (.of_same rfl rfl fun hc => ⟨hc.sessions, hc.limits, hc.sources⟩))
          fun _ => preserves_pure _)

theorem keeps_appendAudit (env : CallEnvironment) (fact : AuditFact ν) : Keeps (appendAudit pf env fact) := by
  intro db0 db hdb _ db' h
  obtain ⟨audit, -, rfl⟩ := zoom_ok.mp h
  exact hdb.trans (.of_same rfl rfl fun hc => ⟨hc.sessions, hc.limits, hc.sources⟩)

theorem keeps_appendAnyAudit (env : CallEnvironment) (fact : Option (AuditFact ν)) : Keeps (appendAnyAudit pf env fact) := by
  cases fact with
  | none => exact fun _ => preserves_pure _
  | some fact => exact keeps_appendAudit env fact

theorem keeps_audited {α : Type} {env : CallEnvironment} {x : IdentityTx (α × Option (AuditFact ν))} (h : Keeps x) :
    Keeps (audited pf env x) := fun db =>
  preserves_bind (h db) fun result => preserves_bind (keeps_appendAnyAudit env result.2 db) fun _ => preserves_pure _

theorem keeps_assertAuthAttemptAllowed (source legacy : String) (now : Nat) : Keeps (assertAuthAttemptAllowed source legacy now) :=
  fun _ => preserves_bind (preserves_readWith _) fun _ => preserves_bind (preserves_require _ _) fun _ =>
    preserves_ite (preserves_bind (preserves_readWith _) fun _ => preserves_require _ _) (preserves_pure _)

theorem keeps_beginSetup (env : CallEnvironment) (password : String) : Keeps (beginSetup pf env password) := fun db =>
  preserves_bind (preserves_readWith _) fun _ => preserves_bind (preserves_require _ _) fun _ =>
    preserves_bind (preserves_require _ _) fun _ => preserves_bind (keeps_assertAuthAttemptAllowed _ _ _ db) fun _ =>
      keeps_recordAuthFailure _ _ db

theorem keeps_retainSetupAttempt (env : CallEnvironment) : Keeps (retainSetupAttempt pf env) := by
  intro db
  refine preserves_bind (preserves_readWith _) fun existing => ?_
  cases existing with
  | none => exact preserves_ignoreResult (keeps_recordAuthFailure _ _ db)
  | some _ => exact preserves_pure _

theorem keeps_beginLogin (env : CallEnvironment) : Keeps (beginLogin pf env) := fun db =>
  preserves_bind (keeps_assertAuthAttemptAllowed _ _ _ db) fun _ => preserves_bind (preserves_readWith _) fun _ =>
    preserves_orFail _ _

theorem keeps_failLogin (env : CallEnvironment) : Keeps (failLogin pf env) :=
  keeps_audited fun db => preserves_bind (keeps_recordAuthFailure _ _ db) fun _ => preserves_pure _

theorem keeps_requireCurrentSession (held : AuthenticatedSession) (now : Nat) : Keeps (requireCurrentSession pf held now) :=
  fun _ => preserves_bind (preserves_orFail _ _) fun _ => preserves_bind (preserves_readWith _) fun _ =>
    preserves_bind (preserves_orFail _ _) fun _ => preserves_bind (preserves_require _ _) fun _ => preserves_pure _

theorem keeps_logout (env : CallEnvironment) (held : AuthenticatedSession) : Keeps (logout pf env held) :=
  keeps_audited fun db => preserves_bind (keeps_revokeSession _ _ _ db) fun _ => preserves_pure _

theorem keeps_revokeTargetSession (env : CallEnvironment) (held : AuthenticatedSession) (target : String) :
    Keeps (revokeTargetSession pf env held target) :=
  keeps_audited fun db => preserves_bind (keeps_requireCurrentSession _ _ db) fun _ =>
    preserves_bind (keeps_revokeActiveSession _ _ db) fun _ => preserves_pure _

theorem keeps_revokeOthers (env : CallEnvironment) (held : AuthenticatedSession) : Keeps (revokeOthers pf env held) :=
  keeps_audited fun db => preserves_bind (keeps_requireCurrentSession _ _ db) fun _ =>
    preserves_bind (keeps_revokeOtherSessions _ _ db) fun _ => preserves_pure _

theorem keeps_authenticate (now : Nat) (token : String) : Keeps (authenticate pf now token) := by
  intro db
  unfold authenticate
  cases pf.digestToken token with
  | none => exact preserves_pure _
  | some digest =>
    refine preserves_bind (preserves_readWith _) fun session => ?_
    cases session with
    | none => exact preserves_pure _
    | some session =>
      exact preserves_ite (preserves_bind (keeps_touchSession _ _ db) fun _ => preserves_readWith _) (preserves_pure _)

/-! ## Operations that change them -/

/-- A session of the current generation is added to rows that were kept. -/
structure Created (db : IdentityDb) (identity : AdminIdentity) (session : AdminSession) (db' : IdentityDb) : Prop where
  current : ∃ a, db.adminIdentity = some a ∧ a.passwordHash = identity.passwordHash ∧
    a.sessionGeneration = identity.sessionGeneration
  generation : session.generation = identity.sessionGeneration
  live : session.revokedAt = none
  kept : ∃ m, Kept db m ∧ db'.adminIdentity = m.adminIdentity ∧ db'.adminSessions = m.adminSessions ++ [session] ∧
    ∀ s ∈ m.adminSessions, s.sessionId ≠ session.sessionId
  checked : TablesChecked db → TablesChecked db'

/-- The generation goes up by one, and no row is left alive. -/
structure Bumped (db db' : IdentityDb) : Prop where
  admin : ∃ a a', db.adminIdentity = some a ∧ db'.adminIdentity = some a' ∧
    a'.sessionGeneration = a.sessionGeneration + 1
  revoked : ∀ t ∈ db'.adminSessions, t.revokedAt ≠ none
  ids : UniqueOn (·.sessionId) db.adminSessions → UniqueOn (·.sessionId) db'.adminSessions
  checked : TablesChecked db → TablesChecked db'

/-- There is an administrator, and there was none. -/
structure Initialized (db db' : IdentityDb) : Prop where
  before : db.adminIdentity = none
  after : ∃ a, db'.adminIdentity = some a ∧ a.sessionGeneration = 1
  sessions : db'.adminSessions = db.adminSessions
  checked : TablesChecked db → TablesChecked db'

/-- What the audit event leaves of the statements before it. -/
theorem audited_ok {α : Type} {env : CallEnvironment} {x : IdentityTx (α × Option (AuditFact ν))} {db db' : IdentityDb}
    {a : α} (h : audited pf env x db = .ok (a, db')) :
    ∃ fact m audit, x db = .ok ((a, fact), m) ∧ db' = { m with audit := audit } := by
  obtain ⟨⟨b, fact⟩, m, hx, h⟩ := bind_ok.mp h
  obtain ⟨_, m', hm, h⟩ := bind_ok.mp h
  obtain ⟨rfl, rfl⟩ := pure_ok.mp h
  cases fact with
  | none =>
    obtain ⟨-, rfl⟩ := pure_ok.mp hm
    exact ⟨none, m, m.audit, hx, rfl⟩
  | some fact =>
    have hm : appendAudit pf env fact m = .ok (_, m') := hm
    obtain ⟨audit, -, rfl⟩ := zoom_ok.mp hm
    exact ⟨some fact, m, audit, hx, rfl⟩

/-- The audit tables have no part in the checks. -/
theorem TablesChecked.withAudit {db : IdentityDb} (h : TablesChecked db) (audit : AuditDb) :
    TablesChecked { db with audit := audit } :=
  ⟨h.sessions, h.limits, h.sources⟩

theorem createSession_ok {session : AdminSession} {db db' : IdentityDb} {u : Unit}
    (h : createSession session db = .ok (u, db')) :
    session.checked = true ∧ (∀ s ∈ db.adminSessions, s.sessionId ≠ session.sessionId) ∧
      db' = { db with adminSessions := db.adminSessions ++ [session] } := by
  unfold createSession at h
  rw [readWith_bind_ok, require_bind_ok, require_bind_ok] at h
  obtain ⟨hchecked, hunique, h⟩ := h
  exact ⟨hchecked, fun s hs => (hunique s hs).1, update_eq.mp h⟩

theorem finishLogin_ok {env : CallEnvironment} {identity : AdminIdentity} {remember : Bool} {draw : SessionDraw}
    {db db' : IdentityDb} {session : AdminSession}
    (h : finishLogin pf env identity remember draw db = .ok (session, db')) : Created db identity session db' := by
  obtain ⟨fact, m, audit, hrun, rfl⟩ := audited_ok h
  unfold finishLoginStatements at hrun
  rw [readWith_bind_ok, require_bind_ok] at hrun
  obtain ⟨hsame, hrun⟩ := hrun
  obtain ⟨_, m1, h1, hrun⟩ := bind_ok.mp hrun
  obtain ⟨_, m2, h2, hrun⟩ := bind_ok.mp hrun
  obtain ⟨_, m3, h3, hrun⟩ := bind_ok.mp hrun
  obtain ⟨_, m4, h4, hrun⟩ := bind_ok.mp hrun
  obtain ⟨hresult, rfl⟩ := pure_ok.mp hrun
  obtain ⟨rfl, -⟩ := Prod.mk.inj hresult
  have hkept : Kept db m3 := (((keeps_pruneIdentityState _).kept h1).trans ((keeps_resetAuthLimit _).kept h2)).trans
    ((keeps_resetAuthLimit _).kept h3)
  obtain ⟨hchecked, hfresh, rfl⟩ := createSession_ok h4
  obtain ⟨a, ha, hsame⟩ := (Option.any_eq_true _ _).mp hsame
  simp only [sameCredentials, Bool.and_eq_true, decide_eq_true_eq] at hsame
  refine ⟨⟨a, ha, hsame.1.2, hsame.2⟩, rfl, rfl, ⟨m3, hkept, rfl, rfl, hfresh⟩, fun hc => ?_⟩
  have hm := hkept.checked hc
  refine ⟨fun s hs => ?_, hm.limits, hm.sources⟩
  rcases List.mem_append.mp hs with hs | hs
  · exact hm.sessions s hs
  · rw [List.mem_singleton.mp hs]
    exact hchecked

/-- After `revokeEverySession` no row is alive. -/
theorem revokeEverySession_ok {reason : String} {now : Nat} {db db' : IdentityDb} {n : Nat}
    (h : revokeEverySession reason now db = .ok (n, db')) :
    db'.adminIdentity = db.adminIdentity ∧ (∀ t ∈ db'.adminSessions, t.revokedAt ≠ none) ∧
    (UniqueOn (·.sessionId) db.adminSessions → UniqueOn (·.sessionId) db'.adminSessions) := by
  obtain ⟨-, rfl⟩ := updateSessions_ok h
  refine ⟨rfl, fun t ht => ?_, fun hu => hu.updateWhere fun _ _ => rfl⟩
  rcases mem_updateWhere.mp ht with ⟨s, -, -, rfl⟩ | ⟨-, hp⟩
  · exact fun hnone => nomatch hnone
  · intro hnone
    rw [hnone] at hp
    exact absurd hp (by decide)

/-- A new generation, and then the revocation of every session. -/
theorem bumped_of_revokeEverySession {db m : IdentityDb} {identity identity' : AdminIdentity} {reason : String}
    {now n : Nat} (hidentity : db.adminIdentity = some identity)
    (hnext : identity'.sessionGeneration = identity.sessionGeneration + 1)
    (h : revokeEverySession reason now { db with adminIdentity := some identity' } = .ok (n, m)) (audit : AuditDb) :
    Bumped db { m with audit := audit } := by
  obtain ⟨hadmin, hrevoked, hids⟩ := revokeEverySession_ok h
  exact ⟨⟨identity, identity', hidentity, hadmin, hnext⟩, hrevoked, hids, fun hc =>
    (updateSessions_checked h ⟨hc.sessions, hc.limits, hc.sources⟩).withAudit audit⟩

theorem revokeAll_ok {env : CallEnvironment} {held : AuthenticatedSession} {db db' : IdentityDb} {n : Nat}
    (h : revokeAll pf env held db = .ok (n, db')) : Bumped db db' := by
  obtain ⟨fact, m, audit, hrun, rfl⟩ := audited_ok h
  obtain ⟨count, m1, h1, hrun⟩ := bind_ok.mp hrun
  rw [orFail_bind_ok] at hrun
  obtain ⟨c, rfl, hrun⟩ := hrun
  obtain ⟨-, rfl⟩ := pure_ok.mp hrun
  unfold revokeAllSessions at h1
  rw [readWith_bind_ok] at h1
  split at h1
  · exact absurd (pure_ok.mp h1).1 (by simp)
  · rw [orFail_bind_ok] at h1
    obtain ⟨identity, hidentity, h1⟩ := h1
    rw [update_bind_ok] at h1
    obtain ⟨changes, m2, h2, h1⟩ := bind_ok.mp h1
    obtain ⟨-, rfl⟩ := pure_ok.mp h1
    exact bumped_of_revokeEverySession hidentity rfl h2 audit

theorem finishChange_ok {env : CallEnvironment} {held : AuthenticatedSession} {identity : AdminIdentity}
    {passwordHash : String} {db db' : IdentityDb} {u : Unit}
    (h : finishChange pf env held identity passwordHash db = .ok (u, db')) : Bumped db db' := by
  obtain ⟨fact, m, audit, hrun, rfl⟩ := audited_ok h
  obtain ⟨generation, m1, h1, hrun⟩ := bind_ok.mp hrun
  rw [orFail_bind_ok] at hrun
  obtain ⟨g, rfl, hrun⟩ := hrun
  obtain ⟨-, rfl⟩ := pure_ok.mp hrun
  unfold updatePassword at h1
  rw [readWith_bind_ok, orFail_bind_ok] at h1
  obtain ⟨current, hcurrent, h1⟩ := h1
  split at h1
  · exact absurd (pure_ok.mp h1).1 (by simp)
  · rw [update_bind_ok] at h1
    obtain ⟨changes, m2, h2, h1⟩ := bind_ok.mp h1
    obtain ⟨-, rfl⟩ := pure_ok.mp h1
    exact bumped_of_revokeEverySession hcurrent rfl h2 audit

theorem keepsBoth_resetAuthLimitThrough {source : String} {observed : AdminAuthLimit} {now : Nat} {db db' : IdentityDb}
    {u : Unit} (h : resetAuthLimitThrough source observed now db = .ok (u, db')) :
    db'.adminIdentity = db.adminIdentity ∧ db'.adminSessions = db.adminSessions := by
  unfold resetAuthLimitThrough at h
  rw [readWith_bind_ok] at h
  cases hl : authLimit source db with
  | none =>
    simp only [hl] at h
    obtain ⟨-, rfl⟩ := pure_ok.mp h
    exact ⟨rfl, rfl⟩
  | some current =>
    simp only [hl] at h
    split at h
    · obtain ⟨-, rfl⟩ := pure_ok.mp h
      exact ⟨rfl, rfl⟩
    · split at h
      · obtain rfl := update_eq.mp h
        exact ⟨rfl, rfl⟩
      · obtain ⟨-, rfl⟩ := upsertAuthLimit_ok h
        exact ⟨rfl, rfl⟩

theorem initializeAdmin_ok {passwordHash : String} {now : Nat} {db db' : IdentityDb}
    (h : initializeAdmin passwordHash now db = .ok (true, db')) : Initialized db db' := by
  unfold initializeAdmin at h
  rw [readWith_bind_ok] at h
  cases ha : db.adminIdentity with
  | some existing =>
    simp only [ha] at h
    rw [require_bind_ok] at h
    exact absurd (pure_ok.mp h.2).1 Bool.false_ne_true
  | none =>
    simp only [ha] at h
    rw [update_bind_ok] at h
    obtain ⟨-, rfl⟩ := pure_ok.mp h
    exact ⟨ha, ⟨_, rfl, rfl⟩, rfl, fun hc => ⟨hc.sessions, hc.limits, hc.sources⟩⟩

theorem finishSetup_ok {env : CallEnvironment} {passwordHash : String} {attempt : AdminAuthLimit} {db db' : IdentityDb}
    {u : Unit} (h : finishSetup pf env passwordHash attempt db = .ok (u, db')) : Initialized db db' := by
  obtain ⟨fact, m, audit, hrun, rfl⟩ := audited_ok h
  unfold finishSetupStatements at hrun
  obtain ⟨initialized, m1, h1, hrun⟩ := bind_ok.mp hrun
  rw [require_bind_ok] at hrun
  obtain ⟨rfl, hrun⟩ := hrun
  obtain ⟨_, m2, h2, hrun⟩ := bind_ok.mp hrun
  obtain ⟨-, rfl⟩ := pure_ok.mp hrun
  obtain ⟨hadmin, hsessions⟩ := keepsBoth_resetAuthLimitThrough h2
  obtain ⟨hbefore, ⟨a, ha, hg⟩, hs, hchecked⟩ := initializeAdmin_ok h1
  exact ⟨hbefore, ⟨a, hadmin.trans ha, hg⟩, hsessions.trans hs, fun hc =>
    (((keeps_resetAuthLimitThrough _ _ _).kept h2).checked (hchecked hc)).withAudit audit⟩

/-! ## What the log says -/

/-- An entry that raises the generation. -/
def LogEntry.isBump : LogEntry → Bool
  | .passwordChanged | .allRevoked => true
  | _ => false

/-- At the end of this log the session stands: a login read the identity, verified its password against
    that hash, and created the session; since the read no generation has passed, and since the creation
    nothing has revoked the session. -/
def Stands (pf : IdentityPlatform ν) (log : List LogEntry) (session : AdminSession) (passwordHash : String) : Prop :=
  ∃ a b c call password identity row,
    log = a ++ .identityRead call password identity :: (b ++ .sessionCreated call row :: c) ∧ SameSession row session ∧
    pf.verifyPassword password identity.passwordHash = true ∧ identity.passwordHash = passwordHash ∧
    (∀ e ∈ b ++ c, e.isBump = false ∧ ∀ password' identity', e ≠ .identityRead call password' identity') ∧
    (∀ e ∈ c, e ≠ .sessionRevoked session.sessionId ∧
      ∀ call' row', e = .sessionCreated call' row' → row'.sessionId ≠ session.sessionId)

/-- An entry that takes nothing from a session that stands. -/
structure Spares (log : List LogEntry) (session : AdminSession) (e : LogEntry) : Prop where
  bump : e.isBump = false
  revoked : e ≠ .sessionRevoked session.sessionId
  created : ∀ call row, e = .sessionCreated call row → row.sessionId ≠ session.sessionId
  read : ∀ call password identity, e = .identityRead call password identity →
    ∀ password' identity', .identityRead call password' identity' ∉ log

theorem Stands.append {log new : List LogEntry} {session : AdminSession} {hash : String} (h : Stands pf log session hash)
    (hnew : ∀ e ∈ new, Spares log session e) : Stands pf (log ++ new) session hash := by
  obtain ⟨a, b, c, call, password, identity, row, hlog, hrow, hverify, hhash, hbc, hc⟩ := h
  have hread : .identityRead call password identity ∈ log := hlog ▸ List.mem_append_right _ List.mem_cons_self
  refine ⟨a, b, c ++ new, call, password, identity, row, ?_, hrow, hverify, hhash, fun e he => ?_, fun e he => ?_⟩
  · rw [hlog]
    simp only [List.append_assoc, List.cons_append]
  · rw [← List.append_assoc] at he
    rcases List.mem_append.mp he with he | he
    · exact hbc e he
    · exact ⟨(hnew e he).bump, fun p i heq => (hnew e he).read call p i heq password identity hread⟩
  · rcases List.mem_append.mp he with he | he
    · exact hc e he
    · exact ⟨(hnew e he).revoked, (hnew e he).created⟩

theorem Stands.same {log : List LogEntry} {s t : AdminSession} {hash : String} (h : Stands pf log s hash)
    (hst : SameSession s t) : Stands pf log t hash := by
  obtain ⟨a, b, c, call, password, identity, row, hlog, hrow, hverify, hhash, hbc, hc⟩ := h
  exact ⟨a, b, c, call, password, identity, row, hlog, hrow.trans hst, hverify, hhash, hbc, hst.sessionId ▸ hc⟩

/-- The entries for the rows that an operation revoked. -/
def revocations (db db' : IdentityDb) : List LogEntry := (revokedIn db db').map .sessionRevoked

theorem mem_revocations {db db' : IdentityDb} {e : LogEntry} (h : e ∈ revocations db db') : ∃ id, e = .sessionRevoked id := by
  obtain ⟨id, -, rfl⟩ := List.mem_map.mp h
  exact ⟨id, rfl⟩

theorem revocations_isBump {db db' : IdentityDb} : ∀ e ∈ revocations db db', e.isBump = false := by
  intro e he
  obtain ⟨id, rfl⟩ := mem_revocations he
  rfl

theorem countP_revocations (db db' : IdentityDb) : (revocations db db').countP LogEntry.isBump = 0 := by
  rw [List.countP_eq_zero]
  exact fun e he => by rw [revocations_isBump e he]; exact Bool.false_ne_true

/-- A row that is alive is not among those that were revoked. -/
theorem live_not_revoked {db db' : IdentityDb} (hids : UniqueOn (·.sessionId) db'.adminSessions) {t : AdminSession}
    (ht : t ∈ db'.adminSessions) (hlive : t.revokedAt = none) : .sessionRevoked t.sessionId ∉ revocations db db' := by
  intro hmem
  obtain ⟨id, hid, he⟩ := List.mem_map.mp hmem
  obtain ⟨s, hs, rfl⟩ := List.mem_map.mp hid
  obtain ⟨-, hp⟩ := List.mem_filter.mp hs
  rw [Bool.and_eq_true, List.any_eq_true] at hp
  obtain ⟨-, u, hu, hp⟩ := hp
  rw [Bool.and_eq_true, decide_eq_true_eq] at hp
  have : u = t := hids.eq hu ht (hp.1.trans (LogEntry.sessionRevoked.inj he))
  rw [this, hlive] at hp
  exact absurd hp.2 (by decide)

theorem spares_revocations {db db' : IdentityDb} {log : List LogEntry} (hids : UniqueOn (·.sessionId) db'.adminSessions)
    {t : AdminSession} (ht : t ∈ db'.adminSessions) (hlive : t.revokedAt = none) :
    ∀ e ∈ revocations db db', Spares log t e := by
  intro e he
  obtain ⟨id, rfl⟩ := mem_revocations he
  exact ⟨rfl, fun heq => live_not_revoked hids ht hlive (heq ▸ he), nofun, nofun⟩

/-! ## The invariant -/

/-- What the tables and the log have to do with each other. -/
structure LogInv (pf : IdentityPlatform ν) (db : IdentityDb) (log : List LogEntry) : Prop where
  ids : UniqueOn (·.sessionId) db.adminSessions
  checked : TablesChecked db
  uninitialized : db.adminIdentity = none → db.adminSessions = [] ∧ log.countP LogEntry.isBump = 0
  generation : ∀ a, db.adminIdentity = some a → a.sessionGeneration = 1 + log.countP LogEntry.isBump
  initialized : log.count .adminInitialized = if db.adminIdentity.isSome then 1 else 0
  reads : ∀ before call password identity after, log = before ++ .identityRead call password identity :: after →
    identity.sessionGeneration = 1 + before.countP LogEntry.isBump ∧
    (after.countP LogEntry.isBump = 0 → ∃ a, db.adminIdentity = some a ∧ a.passwordHash = identity.passwordHash) ∧
    ∀ password' identity', .identityRead call password' identity' ∉ after
  live : ∀ s ∈ db.adminSessions, s.revokedAt = none → ∀ a, db.adminIdentity = some a →
    s.generation = a.sessionGeneration → Stands pf log s a.passwordHash
  justified : ∀ before session hash now after, log = before ++ .authenticated session hash now :: after →
    now < session.absoluteExpiresAt ∧ Stands pf before session hash

theorem logInv_initial : LogInv pf IdentityDb.empty [] where
  ids := uniqueOn_nil _
  checked := ⟨nofun, nofun, uniqueOn_nil _⟩
  uninitialized _ := ⟨rfl, rfl⟩
  generation _ h := nomatch h
  initialized := rfl
  reads before _ _ _ _ h := absurd h (by simp)
  live _ h := absurd h List.not_mem_nil
  justified before _ _ _ _ h := absurd h (by simp)

/-- Entries that are neither reads nor acceptances do not touch what the log says of those. -/
theorem LogInv.reads_append {db db' : IdentityDb} {log new : List LogEntry} (h : LogInv pf db log)
    (hnew : ∀ e ∈ new, ∀ call password identity, e ≠ .identityRead call password identity)
    (hadmin : new.countP LogEntry.isBump = 0 → ∀ a, db.adminIdentity = some a → db'.adminIdentity = some a) :
    ∀ before call password identity after, log ++ new = before ++ .identityRead call password identity :: after →
      identity.sessionGeneration = 1 + before.countP LogEntry.isBump ∧
      (after.countP LogEntry.isBump = 0 → ∃ a, db'.adminIdentity = some a ∧ a.passwordHash = identity.passwordHash) ∧
      ∀ password' identity', .identityRead call password' identity' ∉ after := by
  intro before call password identity after heq
  obtain ⟨rest, hlog, rfl⟩ := Runs.split_append heq fun hmem => hnew _ hmem _ _ _ rfl
  obtain ⟨hgeneration, hhash, hcalls⟩ := h.reads _ _ _ _ _ hlog
  refine ⟨hgeneration, fun hcount => ?_, fun p i hmem => (List.mem_append.mp hmem).elim (hcalls p i) fun hmem =>
    hnew _ hmem _ _ _ rfl⟩
  rw [List.countP_append, Nat.add_eq_zero_iff] at hcount
  obtain ⟨a, ha, hh⟩ := hhash hcount.1
  exact ⟨a, hadmin hcount.2 a ha, hh⟩

theorem LogInv.justified_append {db : IdentityDb} {log new : List LogEntry} (h : LogInv pf db log)
    (hnew : ∀ e ∈ new, ∀ session hash now, e ≠ .authenticated session hash now) :
    ∀ before session hash now after, log ++ new = before ++ .authenticated session hash now :: after →
      now < session.absoluteExpiresAt ∧ Stands pf before session hash := by
  intro before session hash now after heq
  obtain ⟨rest, hlog, -⟩ := Runs.split_append heq fun hmem => hnew _ hmem _ _ _ rfl
  exact h.justified _ _ _ _ _ hlog

/-- An operation that keeps the sessions, with the rows it revoked. -/
theorem LogInv.kept {db db' : IdentityDb} {log : List LogEntry} (h : LogInv pf db log) (hk : Kept db db') :
    LogInv pf db' (log ++ revocations db db') := by
  have hcount : (log ++ revocations db db').countP LogEntry.isBump = log.countP LogEntry.isBump := by
    rw [List.countP_append, countP_revocations, Nat.add_zero]
  have hids := hk.ids h.ids
  refine ⟨hids, hk.checked h.checked, fun hnone => ?_, fun a ha => ?_, ?_, ?_, fun t ht hlive a ha hgeneration => ?_, ?_⟩
  · obtain ⟨hnil, hzero⟩ := h.uninitialized (hk.admin ▸ hnone)
    refine ⟨List.eq_nil_iff_forall_not_mem.mpr fun t ht => ?_, hcount.trans hzero⟩
    obtain ⟨s, hs, -⟩ := hk.rows t ht
    exact absurd (hnil ▸ hs) List.not_mem_nil
  · rw [hcount]
    exact h.generation a (hk.admin ▸ ha)
  · have hzero : (revocations db db').count .adminInitialized = 0 := List.count_eq_zero.mpr fun hmem => by
      obtain ⟨id, he⟩ := mem_revocations hmem
      cases he
    rw [List.count_append, hzero, hk.admin, Nat.add_zero]
    exact h.initialized
  · refine h.reads_append (fun e he _ _ _ => ?_) fun _ a ha => hk.admin.trans ha
    obtain ⟨id, rfl⟩ := mem_revocations he
    exact fun hne => nomatch hne
  · obtain ⟨s, hs, hst, hlives⟩ := hk.rows t ht
    have hstands := h.live s hs (hlives hlive) a (hk.admin ▸ ha) (hst.generation ▸ hgeneration)
    exact (hstands.same hst).append (spares_revocations hids ht hlive)
  · refine h.justified_append fun e he _ _ _ => ?_
    obtain ⟨id, rfl⟩ := mem_revocations he
    exact fun hne => nomatch hne

/-- A login that has read the identity. -/
theorem LogInv.read {db : IdentityDb} {log : List LogEntry} (h : LogInv pf db log) {identity : AdminIdentity}
    (hidentity : db.adminIdentity = some identity) {call : Nat} (password : String)
    (hfresh : ∀ password' identity', .identityRead call password' identity' ∉ log) :
    LogInv pf db (log ++ [.identityRead call password identity]) := by
  have hcount : (log ++ [LogEntry.identityRead call password identity]).countP LogEntry.isBump =
      log.countP LogEntry.isBump := by
    rw [List.countP_append]
    rfl
  refine ⟨h.ids, h.checked, fun hnone => ?_, fun a ha => ?_, ?_, fun before c p i after heq => ?_,
    fun t ht hlive a ha hgeneration => ?_, ?_⟩
  · rw [hidentity] at hnone
    cases hnone
  · rw [hcount]
    exact h.generation a ha
  · rw [List.count_append]
    exact h.initialized
  · rcases Runs.split_append_singleton heq with ⟨rfl, he, rfl⟩ | ⟨rest, hlog, rfl⟩
    · cases he
      exact ⟨h.generation _ hidentity, fun _ => ⟨_, hidentity, rfl⟩, fun _ _ => List.not_mem_nil⟩
    · obtain ⟨hgeneration, hhash, hcalls⟩ := h.reads _ _ _ _ _ hlog
      refine ⟨hgeneration, fun hzero => hhash ?_, fun q j hmem => ?_⟩
      · rw [List.countP_append, Nat.add_eq_zero_iff] at hzero
        exact hzero.1
      · rcases List.mem_append.mp hmem with hmem | hmem
        · exact hcalls q j hmem
        · cases List.mem_singleton.mp hmem
          exact hfresh p i (hlog ▸ List.mem_append_right _ List.mem_cons_self)
  · refine (h.live t ht hlive a ha hgeneration).append fun e he => ?_
    rw [List.mem_singleton.mp he]
    refine ⟨rfl, nofun, nofun, fun _ _ _ heq => ?_⟩
    cases heq
    exact hfresh
  · refine h.justified_append fun e he _ _ _ => ?_
    rw [List.mem_singleton.mp he]
    exact fun hne => nomatch hne

/-- An authentication that returned an accepted session. -/
theorem LogInv.accepted {db : IdentityDb} {log : List LogEntry} (h : LogInv pf db log) {session : AdminSession}
    {identity : AdminIdentity} {now : Nat} (hmem : session ∈ db.adminSessions) (hactive : db.isActive now session = true)
    (hidentity : db.adminIdentity = some identity) :
    LogInv pf db (log ++ [.authenticated session identity.passwordHash now]) := by
  simp only [IdentityDb.isActive, hidentity, Option.any_some, Bool.and_eq_true, Option.isNone_iff_eq_none,
    decide_eq_true_eq] at hactive
  obtain ⟨⟨⟨hlive, hgeneration⟩, -⟩, habsolute⟩ := hactive
  have hstands := h.live session hmem hlive identity hidentity hgeneration
  have hcount : (log ++ [LogEntry.authenticated session identity.passwordHash now]).countP LogEntry.isBump =
      log.countP LogEntry.isBump := by
    rw [List.countP_append]
    rfl
  refine ⟨h.ids, h.checked, fun hnone => ?_, fun a ha => ?_, ?_, ?_, fun t ht hlive a ha hgeneration => ?_,
    fun before s hash n after heq => ?_⟩
  · rw [hidentity] at hnone
    cases hnone
  · rw [hcount]
    exact h.generation a ha
  · rw [List.count_append]
    exact h.initialized
  · refine h.reads_append (fun e he _ _ _ => ?_) fun _ a ha => ha
    rw [List.mem_singleton.mp he]
    exact fun hne => nomatch hne
  · refine (h.live t ht hlive a ha hgeneration).append fun e he => ?_
    rw [List.mem_singleton.mp he]
    exact ⟨rfl, nofun, nofun, nofun⟩
  · rcases Runs.split_append_singleton heq with ⟨rfl, he, rfl⟩ | ⟨rest, hlog, rfl⟩
    · cases he
      exact ⟨habsolute, hstands⟩
    · exact h.justified _ _ _ _ _ hlog

/-- A row that is alive adds nothing to what was revoked. -/
theorem revocations_created {db db' m : IdentityDb} {session : AdminSession} (hlive : session.revokedAt = none)
    (hsessions : db'.adminSessions = m.adminSessions ++ [session]) : revocations db db' = revocations db m := by
  have hany : ∀ s : AdminSession,
      (db'.adminSessions.any fun t => t.sessionId = s.sessionId && t.revokedAt.isSome) =
        m.adminSessions.any fun t => t.sessionId = s.sessionId && t.revokedAt.isSome := by
    intro s
    rw [hsessions, List.any_append]
    simp [hlive]
  unfold revocations revokedIn
  simp only [hany]

/-- A login that created its session: the generation is the one it read, so no bump has come in between. -/
theorem LogInv.created {db db' : IdentityDb} {log : List LogEntry} (h : LogInv pf db log) {identity : AdminIdentity}
    {session : AdminSession} (hc : Created db identity session db') {call : Nat} {password : String}
    (hread : .identityRead call password identity ∈ log)
    (hverify : pf.verifyPassword password identity.passwordHash = true) :
    LogInv pf db' (log ++ (revocations db db' ++ [.sessionCreated call session])) := by
  obtain ⟨⟨a, ha, hhash, hcurrent⟩, hsession, hlive, ⟨m, hk, hadmin, hsessions, hfresh⟩, hchecked⟩ := hc
  have hm : LogInv pf m (log ++ revocations db db') := revocations_created hlive hsessions ▸ h.kept hk
  have ham : m.adminIdentity = some a := hk.admin.trans ha
  rw [← List.append_assoc]
  generalize hL : log ++ revocations db db' = L at hm ⊢
  have hnew : ∀ e ∈ [LogEntry.sessionCreated call session], e = .sessionCreated call session :=
    fun _ => List.mem_singleton.mp
  have hcount : (L ++ [LogEntry.sessionCreated call session]).countP LogEntry.isBump = L.countP LogEntry.isBump := by
    rw [List.countP_append]
    rfl
  refine ⟨?_, hchecked h.checked, fun hnone => ?_, fun a' ha' => ?_, ?_, ?_, fun t ht hlive' a' ha' hgeneration => ?_, ?_⟩
  · rw [hsessions]
    exact UniqueOn.append hm.ids hfresh
  · rw [hadmin, ham] at hnone
    cases hnone
  · rw [hcount]
    exact hm.generation a' (hadmin ▸ ha')
  · rw [List.count_append, hadmin]
    exact hm.initialized
  · exact hm.reads_append (fun e he _ _ _ => by rw [hnew e he]; exact fun hne => nomatch hne)
      fun _ a' ha' => hadmin.trans ha'
  · rw [hadmin] at ha'
    rw [hsessions] at ht
    rcases List.mem_append.mp ht with ht | ht
    · refine (hm.live t ht hlive' a' ha' hgeneration).append fun e he => ?_
      rw [hnew e he]
      refine ⟨rfl, nofun, fun _ _ heq => ?_, nofun⟩
      cases heq
      exact (hfresh t ht).symm
    · rw [List.mem_singleton.mp ht]
      obtain rfl : a = a' := Option.some.inj (ham.symm.trans ha')
      obtain ⟨before, after, rfl⟩ := List.append_of_mem (hL ▸ List.mem_append_left _ hread : _ ∈ L)
      -- the bumps before the read already make up the generation
      obtain ⟨hbefore, -, hcalls⟩ := hm.reads before call password identity after rfl
      have hnow := hm.generation a ham
      rw [List.countP_append, List.countP_cons] at hnow
      have hafter : after.countP LogEntry.isBump = 0 := by omega
      refine ⟨before, after, [], call, password, identity, session, ?_, .refl session, hverify, hhash.symm,
        fun e he => ?_, fun e he => absurd he List.not_mem_nil⟩
      · rw [List.append_assoc, List.cons_append]
      · rw [List.append_nil] at he
        exact ⟨Bool.eq_false_iff.mpr (List.countP_eq_zero.mp hafter e he), fun p i heq => hcalls p i (heq ▸ he)⟩
  · exact hm.justified_append fun e he _ _ _ => by rw [hnew e he]; exact fun hne => nomatch hne

/-- A change of the password, or the revocation of every session. -/
theorem LogInv.bumped {db db' : IdentityDb} {log : List LogEntry} (h : LogInv pf db log) (hb : Bumped db db')
    {bump : LogEntry} (hbump : bump = .passwordChanged ∨ bump = .allRevoked) :
    LogInv pf db' (log ++ (revocations db db' ++ [bump])) := by
  obtain ⟨⟨a, a', ha, ha', hg⟩, hrevoked, hids, hchecked⟩ := hb
  have hmem : ∀ e ∈ revocations db db' ++ [bump], (∃ id, e = .sessionRevoked id) ∨ e = .passwordChanged ∨ e = .allRevoked := by
    intro e he
    rcases List.mem_append.mp he with he | he
    · exact .inl (mem_revocations he)
    · exact .inr (List.mem_singleton.mp he ▸ hbump)
  have hone : (revocations db db' ++ [bump]).countP LogEntry.isBump = 1 := by
    rw [List.countP_append, countP_revocations]
    rcases hbump with rfl | rfl <;> rfl
  refine ⟨hids h.ids, hchecked h.checked, fun hnone => ?_, fun b hb => ?_, ?_, ?_,
    fun t ht hlive => absurd hlive (hrevoked t ht), ?_⟩
  · rw [ha'] at hnone
    cases hnone
  · obtain rfl : a' = b := Option.some.inj (ha'.symm.trans hb)
    have := h.generation a ha
    rw [List.countP_append, hone]
    omega
  · have hzero : (revocations db db' ++ [bump]).count .adminInitialized = 0 := List.count_eq_zero.mpr fun he => by
      rcases hmem _ he with ⟨id, he⟩ | he | he <;> cases he
    rw [List.count_append, hzero, h.initialized, ha, ha']
    rfl
  · refine h.reads_append (fun e he _ _ _ => ?_) fun hzero => ?_
    · rcases hmem e he with ⟨id, rfl⟩ | rfl | rfl <;> exact fun hne => nomatch hne
    · rw [hone] at hzero
      cases hzero
  · refine h.justified_append fun e he _ _ _ => ?_
    rcases hmem e he with ⟨id, rfl⟩ | rfl | rfl <;> exact fun hne => nomatch hne

/-- The first administrator. -/
theorem LogInv.initialize {db db' : IdentityDb} {log : List LogEntry} (h : LogInv pf db log) (hi : Initialized db db') :
    LogInv pf db' (log ++ (revocations db db' ++ [.adminInitialized])) := by
  obtain ⟨hnone, ⟨a, ha, hg⟩, hsessions, hchecked⟩ := hi
  obtain ⟨hnil, hzero⟩ := h.uninitialized hnone
  have hrevocations : revocations db db' = [] := by
    unfold revocations revokedIn
    rw [hnil]
    rfl
  have hnew : ∀ e ∈ [LogEntry.adminInitialized], e = .adminInitialized := fun _ => List.mem_singleton.mp
  rw [hrevocations, List.nil_append]
  refine ⟨hsessions.symm ▸ h.ids, hchecked h.checked, fun hnone' => ?_, fun b hb => ?_, ?_, ?_, fun t ht => ?_, ?_⟩
  · rw [ha] at hnone'
    cases hnone'
  · obtain rfl : a = b := Option.some.inj (ha.symm.trans hb)
    rw [List.countP_append, hzero, hg]
    rfl
  · rw [List.count_append, h.initialized, hnone, ha]
    rfl
  · refine h.reads_append (fun e he _ _ _ => by rw [hnew e he]; exact fun hne => nomatch hne) fun _ b hb => ?_
    rw [hnone] at hb
    cases hb
  · rw [hsessions, hnil] at ht
    exact absurd ht List.not_mem_nil
  · exact h.justified_append fun e he _ _ _ => by rw [hnew e he]; exact fun hne => nomatch hne

/-! ## The invariant of a run -/

/-- Every login that waits for its password work has read the identity it waits with. -/
def PendingRead (s : SessionsState) : Prop :=
  ∀ call password remember identity, .login call password remember identity ∈ s.pending →
    .identityRead call password identity ∈ s.log

structure SessionsInv (pf : IdentityPlatform ν) (s : SessionsState) : Prop where
  log : LogInv pf s.db s.log
  pending : PendingRead s
  calls : ∀ call password identity, .identityRead call password identity ∈ s.log → call < s.calls

theorem sessionsInv_initial : SessionsInv pf SessionsState.initial where
  log := logInv_initial
  pending _ _ _ _ h := absurd h List.not_mem_nil
  calls _ _ _ h := absurd h List.not_mem_nil

/-- A commit is as good as what its transaction does to tables and log. -/
theorem SessionsInv.commit {s : SessionsState} (h : SessionsInv pf s) {α : Type} {x : IdentityTx α}
    {entries : α → IdentityDb → List LogEntry}
    (hentries : ∀ a db' call password identity, .identityRead call password identity ∉ entries a db')
    (hx : ∀ a db', x s.db = .ok (a, db') → LogInv pf db' (s.log ++ (revocations s.db db' ++ entries a db'))) :
    SessionsInv pf (s.commit x entries) := by
  unfold SessionsState.commit
  cases hrun : x s.db with
  | error e => exact h
  | ok r =>
    refine ⟨hx r.1 r.2 hrun, fun c p r i hmem => List.mem_append_left _ (h.pending c p r i hmem), fun c p i hmem => ?_⟩
    rcases List.mem_append.mp hmem with hmem | hmem
    · exact h.calls c p i hmem
    · rcases List.mem_append.mp hmem with hmem | hmem
      · obtain ⟨id, he⟩ := mem_revocations hmem
        cases he
      · exact absurd hmem (hentries _ _ c p i)

theorem SessionsInv.commit_kept {s : SessionsState} (h : SessionsInv pf s) {α : Type} {x : IdentityTx α} (hx : Keeps x) :
    SessionsInv pf (s.commit x fun _ _ => []) :=
  h.commit (fun _ _ _ _ _ => List.not_mem_nil) fun a db' hrun => by
    rw [List.append_nil]
    exact h.log.kept (hx.kept hrun)

theorem SessionsInv.drop {s : SessionsState} (h : SessionsInv pf s) (index : Nat) : SessionsInv pf (s.dropPending index) :=
  ⟨h.log, fun c p r i hmem => h.pending c p r i (List.mem_of_mem_eraseIdx hmem), h.calls⟩

/-- A call that is no login may wait for its work. -/
theorem SessionsInv.add {s : SessionsState} (h : SessionsInv pf s) {call : PendingCall}
    (hcall : ∀ c p r i, call ≠ .login c p r i) : SessionsInv pf (s.addPending call) := by
  refine ⟨h.log, fun c p r i hmem => ?_, h.calls⟩
  rcases List.mem_append.mp hmem with hmem | hmem
  · exact h.pending c p r i hmem
  · exact absurd (List.mem_singleton.mp hmem).symm (hcall c p r i)

/-! ## The steps -/

theorem SessionsInv.beginSetup {s : SessionsState} (h : SessionsInv pf s) (env : CallEnvironment) (password : String) :
    SessionsInv pf (performBeginSetup pf s env password) := by
  unfold performBeginSetup
  cases Identity.beginSetup pf env password s.db with
  | error e => exact h
  | ok r => exact (h.commit_kept (keeps_beginSetup env password)).add fun _ _ _ _ hne => nomatch hne

theorem SessionsInv.finishSetup {s : SessionsState} (h : SessionsInv pf s) (index : Nat) (env : CallEnvironment)
    (passwordHash : String) : SessionsInv pf (performFinishSetup pf s index env passwordHash) := by
  unfold performFinishSetup
  split
  · refine SessionsInv.drop ?_ index
    cases Identity.finishSetup pf env passwordHash _ s.db with
    | error e => exact h.commit_kept (keeps_retainSetupAttempt env)
    | ok r => exact h.commit (by simp) fun _ _ hrun => h.log.initialize (finishSetup_ok hrun)
  · exact h

theorem beginLogin_ok {env : CallEnvironment} {db db' : IdentityDb} {identity : AdminIdentity}
    (h : beginLogin pf env db = .ok (identity, db')) : db'.adminIdentity = some identity := by
  obtain ⟨_, m, -, h⟩ := bind_ok.mp h
  rw [readWith_bind_ok] at h
  obtain ⟨ha, rfl⟩ := orFail_ok.mp h
  exact ha

theorem SessionsInv.beginLogin {s : SessionsState} (h : SessionsInv pf s) (env : CallEnvironment) (password : String)
    (remember : Bool) : SessionsInv pf (performBeginLogin pf s env password remember) := by
  unfold performBeginLogin
  cases hrun : Identity.beginLogin pf env s.db with
  | error e => exact h
  | ok r =>
    obtain ⟨identity, db'⟩ := r
    have hcommit : s.commit (Identity.beginLogin pf env) (fun _ _ => [.identityRead s.calls password identity]) =
        { s with db := db', log := s.log ++ (revocations s.db db' ++ [.identityRead s.calls password identity]) } := by
      unfold SessionsState.commit
      rw [hrun]
      rfl
    have hlog : LogInv pf db' (s.log ++ (revocations s.db db' ++ [.identityRead s.calls password identity])) := by
      rw [← List.append_assoc]
      refine (h.log.kept ((keeps_beginLogin env).kept hrun)).read (beginLogin_ok hrun) password fun p i hmem => ?_
      rcases List.mem_append.mp hmem with hmem | hmem
      · exact absurd (h.calls _ p i hmem) (Nat.lt_irrefl _)
      · obtain ⟨id, he⟩ := mem_revocations hmem
        cases he
    dsimp only
    rw [hcommit]
    refine ⟨hlog, fun c p r i hmem => ?_, fun c p i hmem => ?_⟩
    · show _ ∈ s.log ++ _
      rcases List.mem_append.mp hmem with hmem | hmem
      · exact List.mem_append_left _ (h.pending c p r i hmem)
      · cases List.mem_singleton.mp hmem
        exact List.mem_append_right _ (List.mem_append_right _ List.mem_cons_self)
    · show c < s.calls + 1
      rcases List.mem_append.mp hmem with hmem | hmem
      · have := h.calls c p i hmem
        omega
      · rcases List.mem_append.mp hmem with hmem | hmem
        · obtain ⟨id, he⟩ := mem_revocations hmem
          cases he
        · cases List.mem_singleton.mp hmem
          exact Nat.lt_succ_self _

theorem SessionsInv.finishLogin {s : SessionsState} (h : SessionsInv pf s) (index : Nat) (env : CallEnvironment)
    (draw : SessionDraw) : SessionsInv pf (performFinishLogin pf s index env draw) := by
  unfold performFinishLogin
  split
  · rename_i call password remember identity hpending
    refine SessionsInv.drop ?_ index
    have hread := h.pending call password remember identity (List.mem_of_getElem? hpending)
    split
    · rename_i hverify
      exact h.commit (by simp) fun _ _ hrun => h.log.created (finishLogin_ok hrun) hread hverify
    · exact h.commit_kept (keeps_failLogin env)
  · exact h

theorem SessionsInv.beginChange {s : SessionsState} (h : SessionsInv pf s) (env : CallEnvironment)
    (held : AuthenticatedSession) (nextPassword : String) :
    SessionsInv pf (performBeginChange s env held nextPassword) := by
  unfold performBeginChange
  split
  · exact h.add fun _ _ _ _ hne => nomatch hne
  · exact h

theorem SessionsInv.finishChange {s : SessionsState} (h : SessionsInv pf s) (index : Nat) (env : CallEnvironment)
    (passwordHash : String) : SessionsInv pf (performFinishChange pf s index env passwordHash) := by
  unfold performFinishChange
  split
  · refine SessionsInv.drop ?_ index
    split
    · exact h
    · exact h.commit (by simp) fun _ _ hrun => h.log.bumped (finishChange_ok hrun) (.inl rfl)
  · exact h

theorem SessionsInv.refuse {s : SessionsState} (h : SessionsInv pf s) (index : Nat) (env : CallEnvironment) :
    SessionsInv pf (performRefuse pf s index env) := by
  unfold performRefuse
  split
  · exact (h.commit_kept (keeps_retainSetupAttempt env)).drop index
  · exact h.drop index

/-- What `authenticate` returns is an active row of the table it leaves. -/
theorem authenticate_ok {now : Nat} {token : String} {db db' : IdentityDb} {session : AdminSession}
    (h : authenticate pf now token db = .ok (some session, db')) :
    session ∈ db'.adminSessions ∧ db'.isActive now session = true := by
  have hfound : ∀ {digest : String} {m : IdentityDb}, activeSession digest now m = some session →
      session ∈ m.adminSessions ∧ m.isActive now session = true := by
    intro digest m hs
    have hp := List.find?_some hs
    rw [Bool.and_eq_true] at hp
    exact ⟨List.mem_of_find?_eq_some hs, hp.2⟩
  unfold authenticate at h
  cases hd : pf.digestToken token with
  | none =>
    simp only [hd] at h
    exact nomatch (pure_ok.mp h).1
  | some digest =>
    simp only [hd] at h
    rw [readWith_bind_ok] at h
    cases hs : activeSession digest now db with
    | none =>
      simp only [hs] at h
      exact nomatch (pure_ok.mp h).1
    | some first =>
      simp only [hs] at h
      split at h
      · obtain ⟨_, m, -, h⟩ := bind_ok.mp h
        obtain ⟨hagain, rfl⟩ := readWith_ok.mp h
        exact hfound hagain
      · obtain ⟨hsame, rfl⟩ := pure_ok.mp h
        exact hfound (hs.trans hsame)

theorem SessionsInv.authenticate {s : SessionsState} (h : SessionsInv pf s) (now : Nat) (token : String) :
    SessionsInv pf (s.commit (Identity.authenticate pf now token) (authenticatedEntries now)) := by
  refine h.commit (fun result db' _ _ _ hmem => ?_) fun result db' hrun => ?_
  · unfold authenticatedEntries at hmem
    split at hmem <;> simp at hmem
  have hkept := h.log.kept ((keeps_authenticate now token).kept hrun)
  rw [← List.append_assoc]
  cases result with
  | none => exact (List.append_nil _).symm ▸ hkept
  | some session =>
    obtain ⟨hmem, hactive⟩ := authenticate_ok hrun
    unfold authenticatedEntries
    cases ha : db'.adminIdentity with
    | none => exact (List.append_nil _).symm ▸ hkept
    | some identity => exact hkept.accepted hmem hactive ha

/-- One step of the system. -/
theorem SessionsInv.perform {s : SessionsState} (h : SessionsInv pf s) (op : Operation) :
    SessionsInv pf (Identity.perform pf s op) := by
  cases op with
  | beginSetup env password => exact h.beginSetup env password
  | finishSetup index env passwordHash => exact h.finishSetup index env passwordHash
  | beginLogin env password remember => exact h.beginLogin env password remember
  | finishLogin index env draw => exact h.finishLogin index env draw
  | beginChange env held nextPassword => exact h.beginChange env held nextPassword
  | finishChange index env passwordHash => exact h.finishChange index env passwordHash
  | takeBudget now => exact h.commit_kept (keeps_takeAnonymousPasswordBudget now)
  | refuse index env => exact h.refuse index env
  | authenticate now token => exact h.authenticate now token
  | logout env held => exact h.commit_kept (keeps_logout env held)
  | revokeSession env held target => exact h.commit_kept (keeps_revokeTargetSession env held target)
  | revokeOtherSessions env held => exact h.commit_kept (keeps_revokeOthers env held)
  | revokeAllSessions env held => exact h.commit (by simp) fun _ _ hrun => h.log.bumped (revokeAll_ok hrun) (.inr rfl)

theorem sessionsInv_reachable {s : SessionsState} (h : Runs.Reachable (identitySystem pf) s) : SessionsInv pf s :=
  h.invariant (fun _ h0 => h0 ▸ sessionsInv_initial) fun _ op _ hs hstep => hstep ▸ hs.perform op

/-! ## The result -/

/-- **Revocation is final.**  Whenever `authenticate` has returned a session, it was before the session's
    absolute expiry, and the session stood: its login verified the password against the hash that is still
    the administrator's, no password change and no revocation of all sessions had committed since that login
    read the identity, and the session's row had not been revoked since it was created.  And no two setups
    ever succeed. -/
theorem session_revocation_final (pf : IdentityPlatform ν) {s : SessionsState}
    (h : Runs.Reachable (identitySystem pf) s) :
    (∀ before session passwordHash now after,
      s.log = before ++ .authenticated session passwordHash now :: after →
      now < session.absoluteExpiresAt ∧ Stands pf before session passwordHash) ∧
    s.log.count .adminInitialized ≤ 1 := by
  have hinv := (sessionsInv_reachable h).log
  refine ⟨hinv.justified, ?_⟩
  rw [hinv.initialized]
  split <;> omega

/-! A setup, a login and its acceptance; the session logs out, and its token is presented again. -/

/-- 64 characters that tell the texts of the run below apart. -/
def sampleDigest (text : String) : String :=
  String.ofList (Nat.digitChar (text.utf8ByteSize % 5) :: List.replicate 63 'a')

theorem sampleDigest_isDigest (text : String) : isDigest (sampleDigest text) = true :=
  have h : ∀ n < 5, isDigest (String.ofList (Nat.digitChar n :: List.replicate 63 'a')) = true := by
    decide +kernel
  h _ (Nat.mod_lt _ (by decide))

def samplePlatform : IdentityPlatform Nat where
  sha256 := sampleDigest
  sha256_digest := sampleDigest_isDigest
  normalizeIpAddress := some
  publicUrl _ := none
  numbers := Json.decimal
  ofNat := id
  instanceSalt := "salt"
  aggregateRateLimitSource source := source
  digestToken := some
  verifyPassword password hash := password = hash

def sampleEnvironment (now : Nat) (auditEventId : RandomUuid) : CallEnvironment :=
  ⟨now, ⟨none, none, none⟩, none, auditEventId⟩

theorem firstEventId_canonical : "00000000-0000-4000-8000-000000000001".toList.length = 36 ∧
    ∀ c ∈ "00000000-0000-4000-8000-000000000001".toList, c.isDigit ∨ ('a' ≤ c ∧ c ≤ 'f') ∨ c = '-' :=
  canonical_of_all (by decide +kernel) (by decide +kernel)

def firstEventId : RandomUuid := ⟨"00000000-0000-4000-8000-000000000001", firstEventId_canonical⟩
def secondEventId : RandomUuid := ⟨"00000000-0000-4000-8000-000000000002", canonical_of_all (by decide +kernel) (by decide +kernel)⟩
def thirdEventId : RandomUuid := ⟨"00000000-0000-4000-8000-000000000003", canonical_of_all (by decide +kernel) (by decide +kernel)⟩

def sampleDraw : SessionDraw := ⟨"session", "token", "csrf"⟩

def sampleHeld : AuthenticatedSession :=
  ⟨loginSession samplePlatform (sampleEnvironment 4 secondEventId) false sampleDraw 1, "token"⟩

def sampleOperations : List Operation :=
  [.beginSetup (sampleEnvironment 1 firstEventId) "sesame", .finishSetup 0 (sampleEnvironment 2 firstEventId) "sesame",
    .beginLogin (sampleEnvironment 3 secondEventId) "sesame" false,
    .finishLogin 0 (sampleEnvironment 4 secondEventId) sampleDraw, .authenticate 5 "token",
    .logout (sampleEnvironment 6 thirdEventId) sampleHeld, .authenticate 7 "token"]

def sampleState : SessionsState := sampleOperations.foldl (perform samplePlatform) SessionsState.initial

theorem session_revocation_final_sample :
    (∀ before session passwordHash now after,
      sampleState.log = before ++ .authenticated session passwordHash now :: after →
      now < session.absoluteExpiresAt ∧ Stands samplePlatform before session passwordHash) ∧
    sampleState.log.count .adminInitialized ≤ 1 :=
  session_revocation_final samplePlatform (Runs.Reachable.foldl (fun _ _ => rfl) sampleOperations ⟨[], .start rfl⟩)

end PerPay.Identity
