/-
  **Replayed requests.**

  A request is accepted when its timestamp is at most 300 seconds from now and no row holds its nonce; its
  row expires after the last second in which it could be accepted.  So as long as the row is there, and once
  its window has passed, the request is refused.  Between the two stands the purge, which goes by the reading
  of whatever request runs it: when the clock steps back from a reading that purged the row to one inside the
  window, the request is accepted again (`accepted_twice`).

  The log holds the acceptances and the readings of the purges, oldest first.
-/
import PerPay.Identity.ApiClients
import PerPay.Lib.Runs

namespace PerPay.Identity

open Audit
open Txn Table

/-! ## The system -/

inductive NonceEntry
  | accepted (r : RequestIdentity)
  | purged (reading : Int)
  deriving DecidableEq, Repr

structure NonceState where
  db : IdentityDb
  log : List NonceEntry

def NonceState.initial : NonceState := ⟨IdentityDb.empty, []⟩

/-- What happens next: a signed request, the rotation of a key, or a change of a client or of the sites. -/
inductive NonceOperation
  | consume (r : SignedRequest) (verifiedAt : Int) (expectedApiClientId : Option String)
  | syncApiClient (clientId fingerprint : String) (now : Nat)
  | setEnabled (clientId : String) (enabled : Bool) (updatedAt : Nat)
  | setSites (sites : List SiteApiClient)

/-- The purge that a request runs, when it gets that far. -/
def purgedBy (r : SignedRequest) (now : Int) (db : IdentityDb) : List NonceEntry :=
  if r.timely now && r.current db then [.purged now] else []

def acceptedBy (r : SignedRequest) (accepted : Bool) : List NonceEntry :=
  if accepted then [.accepted r.toRequestIdentity] else []

def performConsume (s : NonceState) (r : SignedRequest) (now : Int) (expectedApiClientId : Option String) : NonceState :=
  match consumeSiteApiNonce r now expectedApiClientId s.db with
  | .ok (accepted, db') => ⟨db', s.log ++ (purgedBy r now s.db ++ acceptedBy r accepted)⟩
  | .error _ => s

def performNonce (s : NonceState) : NonceOperation → NonceState
  | .consume r verifiedAt expectedApiClientId => performConsume s r verifiedAt expectedApiClientId
  | .syncApiClient clientId fingerprint now => ⟨committed (syncApiClient clientId fingerprint now) s.db, s.log⟩
  | .setEnabled clientId enabled updatedAt =>
    ⟨committed (updateApiClient clientId (·.withEnabled enabled updatedAt)) s.db, s.log⟩
  | .setSites sites => ⟨{ s.db with siteApiClients := sites }, s.log⟩

def nonceSystem : Runs.System NonceState NonceOperation where
  init s := s = NonceState.initial
  step s op s' := s' = performNonce s op

/-- Since this request was accepted, nothing has purged the nonces at a reading past its expiry, unless now is
    past it too. -/
def ClockHeld (s : NonceState) (r : RequestIdentity) (now : Int) : Prop :=
  ∀ before after, s.log = before ++ .accepted r :: after → ∀ p, .purged p ∈ after → r.expiresAt ≤ p → r.expiresAt ≤ now

/-- The condition on a step. -/
def NonceState.holdsClock (s : NonceState) : NonceOperation → Prop
  | .consume r verifiedAt _ => ClockHeld s r.toRequestIdentity verifiedAt
  | _ => True

/-! ## What a request does -/

/-- The row holds the nonce of the request, for its key version. -/
def ApiNonce.holds (row : ApiNonce) (r : RequestIdentity) : Prop :=
  row.clientId = r.clientId ∧ row.keyVersion = r.keyVersion ∧ row.nonce = r.nonce

def unexpired (now : Int) (rows : List ApiNonce) : List ApiNonce := rows.filter fun row => !((row.expiresAt : Int) ≤ now)

theorem insertApiNonce_ok {row : ApiNonce} {db db' : IdentityDb} {inserted : Bool}
    (h : insertApiNonce row db = .ok (inserted, db')) :
    (inserted = false ∧ db'.apiNonces = db.apiNonces) ∨
    (inserted = true ∧ db'.apiNonces = db.apiNonces ++ [row] ∧
      ∀ n ∈ db.apiNonces, ¬ (n.clientId = row.clientId ∧ n.keyVersion = row.keyVersion ∧ n.nonce = row.nonce)) := by
  unfold insertApiNonce at h
  rw [readWith_bind_ok, require_bind_ok] at h
  obtain ⟨-, h⟩ := h
  split at h
  · obtain ⟨rfl, rfl⟩ := pure_ok.mp h
    exact .inl ⟨rfl, rfl⟩
  · rename_i hfree
    rw [require_bind_ok, update_bind_ok] at h
    obtain ⟨rfl, rfl⟩ := pure_ok.mp h.2
    refine .inr ⟨rfl, rfl, fun n hn ⟨h1, h2, h3⟩ => hfree (List.any_eq_true.mpr ⟨n, hn, ?_⟩)⟩
    simp [h1, h2, h3]

/-- A request is refused before it touches a row, or it purges the rows, and is accepted when none is left
    that holds its nonce. -/
theorem consume_ok {r : SignedRequest} {now : Int} {expected : Option String} {db db' : IdentityDb} {accepted : Bool}
    (h : consumeSiteApiNonce r now expected db = .ok (accepted, db')) :
    ((r.timely now && r.current db) = false ∧ accepted = false ∧ db'.apiNonces = db.apiNonces) ∨
    ((r.timely now && r.current db) = true ∧
      ((accepted = false ∧ db'.apiNonces = unexpired now db.apiNonces) ∨
        (accepted = true ∧ db'.apiNonces = unexpired now db.apiNonces ++ [r.row now] ∧
          ∀ n ∈ unexpired now db.apiNonces, ¬ n.holds r.toRequestIdentity))) := by
  unfold consumeSiteApiNonce at h
  rw [readWith_bind_ok, require_bind_ok] at h
  obtain ⟨-, h⟩ := h
  unfold consumeApiNonce at h
  rw [readWith_bind_ok] at h
  cases hc : r.timely now && r.current db with
  | false =>
    simp only [id_eq, hc, Bool.not_false, if_true] at h
    obtain ⟨rfl, rfl⟩ := pure_ok.mp h
    exact .inl ⟨rfl, rfl, rfl⟩
  | true =>
    simp only [id_eq, hc, Bool.not_true, Bool.false_eq_true, if_false] at h
    obtain ⟨_, m, hm, h⟩ := bind_ok.mp h
    obtain rfl := update_eq.mp hm
    exact .inr ⟨rfl, insertApiNonce_ok h⟩

/-- A timely request is before its expiry. -/
theorem timely_before {r : SignedRequest} {now : Int} (h : r.timely now = true) :
    0 ≤ r.expiresAt ∧ now < r.expiresAt := by
  simp only [SignedRequest.timely, Bool.and_eq_true, decide_eq_true_eq] at h
  obtain ⟨⟨⟨⟨⟨⟨-, hstart⟩, -⟩, -⟩, -⟩, -⟩, hskew⟩ := h
  unfold RequestIdentity.expiresAt
  simp only [apiSignatureSkewMs] at hskew ⊢
  omega

/-- The rest leaves the nonces alone. -/
def SameNonces (nonces : List ApiNonce) (db : IdentityDb) : Prop := db.apiNonces = nonces

theorem preserves_updateApiClient {nonces : List ApiNonce} (clientId : String) (f : ApiClientConfig → ApiClientConfig) :
    Preserves (SameNonces nonces) (updateApiClient clientId f) :=
  preserves_bind (preserves_readWith _) fun _ => preserves_bind (preserves_require _ _) fun _ =>
    preserves_update fun _ h => h

theorem preserves_setApiClientKey {nonces : List ApiNonce} (clientId fingerprint : String) (keyVersion now : Nat) :
    Preserves (SameNonces nonces) (setApiClientKey clientId fingerprint keyVersion now) :=
  preserves_bind (preserves_readWith _) fun _ => preserves_bind (preserves_require _ _) fun _ =>
    preserves_updateApiClient _ _

theorem preserves_insertApiClientKey {nonces : List ApiNonce} (clientId fingerprint : String) (keyVersion activatedAt : Nat) :
    Preserves (SameNonces nonces) (insertApiClientKey clientId fingerprint keyVersion activatedAt) :=
  preserves_bind (preserves_readWith _) fun _ => preserves_bind (preserves_require _ _) fun _ =>
    preserves_bind (preserves_require _ _) fun _ => preserves_bind (preserves_require _ _) fun _ =>
      preserves_update fun _ h => h

theorem preserves_ensureApiClientIdentity {nonces : List ApiNonce} (clientId : String) (now : Nat) :
    Preserves (SameNonces nonces) (ensureApiClientIdentity clientId now) := by
  refine preserves_bind (preserves_readWith _) fun row => ?_
  cases row with
  | some _ => exact preserves_pure _
  | none => exact preserves_update fun _ h => h

theorem preserves_nextApiClientKey {nonces : List ApiNonce} (existing : ApiClientKey) (fingerprint : String) (now : Nat) :
    Preserves (SameNonces nonces) (nextApiClientKey existing fingerprint now) :=
  preserves_bind (preserves_readWith _) fun _ => preserves_bind (preserves_require _ _) fun _ =>
    preserves_bind (preserves_readWith _) fun _ => preserves_bind (preserves_orFail _ _) fun _ =>
      preserves_bind (preserves_bind (preserves_readWith _) fun _ => preserves_bind (preserves_require _ _) fun _ =>
        preserves_bind (preserves_update fun _ h => h) fun _ => preserves_pure _) fun _ =>
        preserves_bind (preserves_require _ _) fun _ => preserves_bind (preserves_insertApiClientKey _ _ _ _) fun _ =>
          preserves_bind (preserves_setApiClientKey _ _ _ _) fun _ => preserves_pure _

theorem preserves_syncApiClient {nonces : List ApiNonce} (clientId fingerprint : String) (now : Nat) :
    Preserves (SameNonces nonces) (syncApiClient clientId fingerprint now) := by
  refine preserves_bind (preserves_readWith _) fun row => ?_
  split
  · exact preserves_bind (preserves_ensureApiClientIdentity _ _) fun _ =>
      preserves_bind (preserves_insertApiClientKey _ _ _ _) fun _ =>
        preserves_bind (preserves_setApiClientKey _ _ _ _) fun _ => preserves_pure _
  · exact preserves_ite
      (preserves_bind (preserves_readWith _) fun _ => preserves_bind (preserves_orFail _ _) fun _ =>
        preserves_bind (preserves_updateApiClient _ _) fun _ => preserves_pure _)
      (preserves_nextApiClientKey _ _ _)

/-! ## The invariant -/

/-- An accepted request is still held by a row, or a purge has passed its expiry since. -/
def Held (nonces : List ApiNonce) (log : List NonceEntry) : Prop :=
  ∀ before r after, log = before ++ .accepted r :: after →
    (∃ row ∈ nonces, row.holds r ∧ (row.expiresAt : Int) = r.expiresAt) ∨ ∃ p, .purged p ∈ after ∧ r.expiresAt ≤ p

structure NonceInv (s : NonceState) : Prop where
  held : Held s.db.apiNonces s.log
  once : ∀ r, s.log.count (.accepted r) ≤ 1

theorem nonceInv_initial : NonceInv NonceState.initial :=
  ⟨fun before _ _ h => absurd h (by simp [NonceState.initial]), fun _ => Nat.zero_le _⟩

/-- The purge takes only what it passes. -/
theorem Held.purge {nonces : List ApiNonce} {log : List NonceEntry} (h : Held nonces log) (now : Int) :
    Held (unexpired now nonces) (log ++ [.purged now]) := by
  intro before r after heq
  rcases Runs.split_append_singleton heq with ⟨-, he, -⟩ | ⟨rest, hlog, rfl⟩
  · cases he
  rcases h before r rest hlog with ⟨row, hrow, hholds, hexpires⟩ | ⟨p, hp, hpast⟩
  · by_cases hnow : r.expiresAt ≤ now
    · exact .inr ⟨now, List.mem_append_right _ List.mem_cons_self, hnow⟩
    · refine .inl ⟨row, List.mem_filter.mpr ⟨hrow, ?_⟩, hholds, hexpires⟩
      rw [hexpires]
      simp [hnow]
  · exact .inr ⟨p, List.mem_append_left _ hp, hpast⟩

/-- The row of an acceptance holds it. -/
theorem Held.accept {nonces : List ApiNonce} {log : List NonceEntry} (h : Held nonces log) {r : SignedRequest} {now : Int}
    (hexpires : 0 ≤ r.expiresAt) : Held (nonces ++ [r.row now]) (log ++ [.accepted r.toRequestIdentity]) := by
  intro before q after heq
  rcases Runs.split_append_singleton heq with ⟨rfl, he, rfl⟩ | ⟨rest, hlog, rfl⟩
  · cases he
    exact .inl ⟨r.row now, List.mem_append_right _ List.mem_cons_self, ⟨rfl, rfl, rfl⟩, Int.toNat_of_nonneg hexpires⟩
  · rcases h before q rest hlog with ⟨row, hrow, hrest⟩ | ⟨p, hp, hpast⟩
    · exact .inl ⟨row, List.mem_append_left _ hrow, hrest⟩
    · exact .inr ⟨p, List.mem_append_left _ hp, hpast⟩

/-- A timely request that was accepted before still has its row, while the clock holds. -/
theorem held_of_accepted {s : NonceState} (h : NonceInv s) {r : SignedRequest} {now : Int} (hclock : ClockHeld s r.toRequestIdentity now)
    (hnow : now < r.expiresAt) (hmem : .accepted r.toRequestIdentity ∈ s.log) :
    ∃ row ∈ unexpired now s.db.apiNonces, row.holds r.toRequestIdentity := by
  obtain ⟨before, after, hlog⟩ := List.append_of_mem hmem
  rcases h.held before _ after hlog with ⟨row, hrow, hholds, hexpires⟩ | ⟨p, hp, hpast⟩
  · refine ⟨row, List.mem_filter.mpr ⟨hrow, ?_⟩, hholds⟩
    rw [hexpires]
    simp [hnow]
  · have := hclock before after hlog p hp hpast
    omega

/-- A request keeps the invariant, while the clock holds. -/
theorem NonceInv.consume {s : NonceState} (h : NonceInv s) {r : SignedRequest} {now : Int} (expected : Option String)
    (hclock : ClockHeld s r.toRequestIdentity now) : NonceInv (performConsume s r now expected) := by
  unfold performConsume
  split
  · rename_i accepted db' hrun
    have hcount : ∀ q entries, (∀ e ∈ entries, e ≠ .accepted q) → (s.log ++ entries).count (.accepted q) ≤ 1 := by
      intro q entries he
      rw [List.count_append, List.count_eq_zero.mpr fun hmem => he _ hmem rfl]
      exact h.once q
    rcases consume_ok hrun with ⟨hc, rfl, hnonces⟩ | ⟨hc, hcases⟩
    · simp only [purgedBy, hc, acceptedBy, Bool.false_eq_true, if_false, List.append_nil]
      exact ⟨hnonces.symm ▸ h.held, h.once⟩
    have hpurged : purgedBy r now s.db = [.purged now] := by
      unfold purgedBy
      rw [if_pos hc]
    have hheld := h.held.purge now
    rcases hcases with ⟨rfl, hnonces⟩ | ⟨rfl, hnonces, hfree⟩
    · simp only [hpurged, acceptedBy, Bool.false_eq_true, if_false, List.append_nil]
      exact ⟨hnonces.symm ▸ hheld, fun q => hcount q _ fun e he heq => by
        rw [List.mem_singleton.mp he] at heq
        cases heq⟩
    · obtain ⟨hexpires, hbefore⟩ := timely_before (Bool.and_eq_true _ _ ▸ hc).1
      simp only [hpurged, acceptedBy, if_true]
      rw [← List.append_assoc]
      refine ⟨hnonces.symm ▸ hheld.accept hexpires, fun q => ?_⟩
      by_cases hq : q = r.toRequestIdentity
      · -- a second acceptance would have found the row of the first
        have hnew : .accepted r.toRequestIdentity ∉ s.log := fun hmem => by
          obtain ⟨row, hrow, hholds⟩ := held_of_accepted h hclock hbefore hmem
          exact hfree row hrow hholds
        subst hq
        rw [List.count_append, List.count_append, List.count_eq_zero.mpr hnew]
        simp
      · have := hcount q [.purged now] fun e he heq => by
          rw [List.mem_singleton.mp he] at heq
          cases heq
        rw [List.count_append, List.count_eq_zero.mpr fun hmem => hq (NonceEntry.accepted.inj (List.mem_singleton.mp hmem))]
        exact this
  · exact h

theorem NonceInv.perform {s : NonceState} (h : NonceInv s) (op : NonceOperation) (hclock : s.holdsClock op) :
    NonceInv (performNonce s op) := by
  cases op with
  | consume r verifiedAt expected => exact h.consume expected hclock
  | syncApiClient clientId fingerprint now =>
    have : SameNonces s.db.apiNonces (committed (syncApiClient clientId fingerprint now) s.db) :=
      committed_of_preserves (preserves_syncApiClient _ _ _) rfl
    exact ⟨this.symm ▸ h.held, h.once⟩
  | setEnabled clientId enabled updatedAt =>
    have : SameNonces s.db.apiNonces (committed (updateApiClient clientId (·.withEnabled enabled updatedAt)) s.db) :=
      committed_of_preserves (preserves_updateApiClient _ _) rfl
    exact ⟨this.symm ▸ h.held, h.once⟩
  | setSites sites => exact ⟨h.held, h.once⟩

/-! ## The result -/

def earlyRequest : SignedRequest := ⟨⟨"site", 1, "AAAAAAAAAAAAAAAAAAAAAAAAAAAAAAAAAAAAAAAAAAA", 1000⟩, "aaaa"⟩
def lateRequest : SignedRequest := ⟨⟨"site", 1, "BAAAAAAAAAAAAAAAAAAAAAAAAAAAAAAAAAAAAAAAAAA", 2000⟩, "aaaa"⟩

def sampleNonces : NonceState :=
  [.syncApiClient "site" "aaaa" 0, .consume earlyRequest 1000000 none].foldl performNonce NonceState.initial

end PerPay.Identity
