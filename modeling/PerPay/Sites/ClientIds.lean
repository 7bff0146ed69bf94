/-
  **Public client ids are never reused.**

  A public id enters the table once and stays: its row is never deleted, never goes to another site, and is
  retired at most once.  A new id is taken only when no table knows it.  So the primary key binds an id to one
  site for ever, and a retired row keeps the id from ever being accepted again.

  Every operation on a site checks the revision that its caller has read, and raises it by one in the same
  statement that writes the site; an operation that was sent before is answered from its record.
-/
import PerPay.Sites.Store
import PerPay.Lib.Runs

namespace PerPay.Sites

open Identity
open Txn Table

variable {pf : SitePlatform}

/-! ## The system -/

inductive SiteEntry
  | created (input : CreateSiteInput) (clientId : String)
  | idChanged (clientId : String) (input : ChangeClientIdInput)
  deriving DecidableEq, Repr

structure SiteState where
  db : SiteDb
  log : List SiteEntry

def SiteState.initial : SiteState := ⟨SiteDb.empty, []⟩

/-- An operation of the store, or a write of another module to the tables that it reads. -/
inductive SiteOperation
  | create (env : SiteEnvironment) (input : CreateSiteInput)
  | changeClientId (env : SiteEnvironment) (clientId : String) (input : ChangeClientIdInput)
  | update (env : SiteEnvironment) (clientId : String) (input : UpdateSiteInput)
  | delete (env : SiteEnvironment) (clientId : String) (revision : Nat)
  | rotateSecret (env : SiteEnvironment) (clientId : String) (purpose : SiteSecretPurpose) (revision : Nat)
  | setAlipayAccounts (accounts : List CollectionSource)
  | setEpayKeySites (sites : List String)
  | setOrderSites (orders notified : List String)

/-- Run a transaction; what it returns goes to the log. -/
def SiteState.commit {α : Type} (s : SiteState) (x : SiteTx α) (entries : α → List SiteEntry) : SiteState :=
  match x s.db with
  | .ok (a, db') => ⟨db', s.log ++ entries a⟩
  | .error _ => s

def performSite (pf : SitePlatform) (s : SiteState) : SiteOperation → SiteState
  | .create env input => s.commit (create pf env input) fun snapshot => [.created input snapshot.site.clientId]
  | .changeClientId env clientId input => s.commit (changeClientId pf env clientId input) fun _ => [.idChanged clientId input]
  | .update env clientId input => s.commit (updateConfiguration env clientId input) fun _ => []
  | .delete env clientId revision => s.commit (deleteSite env clientId revision) fun _ => []
  | .rotateSecret env clientId purpose revision => s.commit (rotateSecret pf env clientId purpose revision) fun _ => []
  | .setAlipayAccounts accounts => { s with db := { s.db with alipayAccounts := accounts } }
  | .setEpayKeySites sites => { s with db := { s.db with epayKeySites := sites } }
  | .setOrderSites orders notified => { s with db := { s.db with orderSites := orders, notifiedSites := notified } }

def siteSystem (pf : SitePlatform) : Runs.System SiteState SiteOperation where
  init s := s = SiteState.initial
  step s op s' := s' = performSite pf s op

/-! ## What the statements do -/

theorem siteRow_some {clientId : String} {db : SiteDb} {site : SiteRow} (h : siteRow clientId db = some site) :
    site ∈ db.sites ∧ site.clientId = clientId := by
  unfold siteRow at h
  have hid := List.find?_some h
  exact ⟨List.mem_of_find?_eq_some h, of_decide_eq_true hid⟩

theorem requiredSite_ok {clientId : String} {db db' : SiteDb} {snapshot : SiteSnapshot}
    (h : requiredSite clientId db = .ok (snapshot, db')) :
    db' = db ∧ snapshot.site ∈ db.sites ∧ snapshot.site.clientId = clientId ∧ snapshot.site.deletedAt = none ∧
      snapshotOf db snapshot.site = some snapshot := by
  unfold requiredSite at h
  rw [readWith_bind_ok, orFail_bind_ok] at h
  obtain ⟨site, hsite, h⟩ := h
  unfold mapSite at h
  rw [readWith_bind_ok] at h
  obtain ⟨hsnapshot, rfl⟩ := orFail_ok.mp h
  obtain ⟨hfound, hlive⟩ := Option.filter_eq_some_iff.mp hsite
  obtain ⟨hmem, hid⟩ := siteRow_some hfound
  obtain ⟨m, -, rfl⟩ := Option.map_eq_some_iff.mp hsnapshot
  exact ⟨rfl, hmem, hid, Option.isNone_iff_eq_none.mp hlive, hsnapshot⟩

theorem updateSite_ok {clientId : String} {revision : Nat} {f : SiteRow → SiteRow} {db db' : SiteDb} {n : Nat}
    (h : updateSite clientId revision f db = .ok (n, db')) :
    (∀ s ∈ db.sites, selectsSite clientId revision s = true → (f s).follows s = true) ∧
      db' = { db with sites := updateWhere (selectsSite clientId revision) f db.sites } := by
  unfold updateSite at h
  rw [readWith_bind_ok, require_bind_ok, require_bind_ok, require_bind_ok, update_bind_ok] at h
  obtain ⟨hfollows, -, -, h⟩ := h
  obtain ⟨-, rfl⟩ := pure_ok.mp h
  exact ⟨hfollows, rfl⟩

theorem insertApiClientId_ok {apiClientId clientId : String} {createdAt : Nat} {db db' : SiteDb} {u : Unit}
    (h : insertApiClientId apiClientId clientId createdAt db = .ok (u, db')) :
    (∀ m ∈ db.siteApiClientIds, m.apiClientId ≠ apiClientId ∧ (m.clientId = clientId → m.isCurrent = false)) ∧
      (∃ s ∈ db.sites, s.clientId = clientId) ∧ isSiteClientId apiClientId = true ∧
      db' = { db with siteApiClientIds := db.siteApiClientIds ++ [⟨apiClientId, clientId, true, createdAt, none⟩] } := by
  unfold insertApiClientId at h
  rw [readWith_bind_ok, require_bind_ok, require_bind_ok, require_bind_ok] at h
  obtain ⟨hunique, hsite, hchecked, h⟩ := h
  simp only [SiteApiClientId.checked, Bool.and_eq_true, Bool.not_true, Bool.false_or] at hchecked
  exact ⟨hunique, hsite, hchecked.2, update_eq.mp h⟩

theorem retireApiClientId_ok {clientId : String} {f : SiteApiClientId → SiteApiClientId} {db db' : SiteDb} {n : Nat}
    (h : retireApiClientId clientId f db = .ok (n, db')) :
    n = (db.siteApiClientIds.filter (currentIdOf clientId)).length ∧
      db' = { db with siteApiClientIds := updateWhere (currentIdOf clientId) f db.siteApiClientIds } := by
  unfold retireApiClientId at h
  rw [readWith_bind_ok, require_bind_ok, update_bind_ok] at h
  obtain ⟨-, h⟩ := h
  obtain ⟨hn, rfl⟩ := pure_ok.mp h
  exact ⟨hn.symm, rfl⟩

theorem identityTx_ok {α : Type} {x : IdentityTx α} {db db' : SiteDb} {a : α} (h : identityTx x db = .ok (a, db')) :
    ∃ identity, db' = { db with identity := identity } := by
  obtain ⟨identity, -, rfl⟩ := zoom_ok.mp h
  exact ⟨identity, rfl⟩

theorem changed_ok {n : Nat} {db db' : SiteDb} {u : Unit} (h : changed n db = .ok (u, db')) : n = 1 ∧ db' = db := by
  obtain ⟨hn, rfl⟩ := require_ok.mp h
  exact ⟨hn, rfl⟩

/-! ## What an operation does -/

/-- The tables that say nothing about ids, and the API clients, may have changed. -/
structure SameIds (db db' : SiteDb) : Prop where
  sites : db'.sites = db.sites
  ids : db'.siteApiClientIds = db.siteApiClientIds
  changes : db'.siteClientIdChanges = db.siteClientIdChanges
  requests : db'.siteCreationRequests = db.siteCreationRequests

theorem SameIds.refl (db : SiteDb) : SameIds db db := ⟨rfl, rfl, rfl, rfl⟩

theorem SameIds.trans {db db' db'' : SiteDb} (h : SameIds db db') (h' : SameIds db' db'') : SameIds db db'' :=
  ⟨h'.sites.trans h.sites, h'.ids.trans h.ids, h'.changes.trans h.changes, h'.requests.trans h.requests⟩

/-- One site is written, and is at its next revision. -/
structure Advances (db : SiteDb) (clientId : String) (revision : Nat) (f : SiteRow → SiteRow) (db' : SiteDb) : Prop where
  current : ∃ t ∈ db.sites, selectsSite clientId revision t = true
  follows : ∀ t ∈ db.sites, selectsSite clientId revision t = true → (f t).follows t = true
  sites : db'.sites = updateWhere (selectsSite clientId revision) f db.sites

/-- A public id is free when no table knows it. -/
structure Unused (db : SiteDb) (clientId : String) : Prop where
  sites : ∀ t ∈ db.sites, t.clientId ≠ clientId
  ids : ∀ m ∈ db.siteApiClientIds, m.apiClientId ≠ clientId

/-- A site with its first public id, and the record of the operation that made it. -/
structure Creates (db : SiteDb) (row : SiteRow) (request : SiteCreationRequest) (db' : SiteDb) : Prop where
  unused : Unused db row.clientId
  valid : isSiteClientId row.clientId = true
  live : row.deletedAt = none
  site : request.clientId = row.clientId
  fresh : ∀ r ∈ db.siteCreationRequests, r.operationId ≠ request.operationId
  single : ∀ m ∈ db.siteApiClientIds, m.clientId = row.clientId → m.isCurrent = false
  sites : db'.sites = db.sites ++ [row]
  ids : db'.siteApiClientIds = db.siteApiClientIds ++ [⟨row.clientId, row.clientId, true, row.createdAt, none⟩]
  changes : db'.siteClientIdChanges = db.siteClientIdChanges
  requests : db'.siteCreationRequests = db.siteCreationRequests ++ [request]

/-- The record of a change. -/
structure RecordsChange (db : SiteDb) (change : SiteClientIdChange) (db' : SiteDb) : Prop where
  fresh : ∀ c ∈ db.siteClientIdChanges, c.operationId ≠ change.operationId
  requests : db'.siteCreationRequests = db.siteCreationRequests
  changes : db'.siteClientIdChanges = db.siteClientIdChanges ++ [change]

/-- A public id that is retired, in the row that it has. -/
def SiteApiClientId.replacedAt (at_ : Nat) (m : SiteApiClientId) : SiteApiClientId :=
  { m with isCurrent := false, retiredAt := some at_ }

def SiteApiClientId.closedAt (at_ : SiteApiClientId → Nat) (m : SiteApiClientId) : SiteApiClientId :=
  { m with retiredAt := some (at_ m) }

/-- The public id of a site is replaced. -/
structure ReplacesId (db : SiteDb) (clientId next : String) (writtenAt : Nat) (db' : SiteDb) : Prop where
  unused : Unused db next
  valid : isSiteClientId next = true
  single : ∀ m ∈ updateWhere (currentIdOf clientId) (·.replacedAt writtenAt) db.siteApiClientIds,
    m.clientId = clientId → m.isCurrent = false
  ids : db'.siteApiClientIds = updateWhere (currentIdOf clientId) (·.replacedAt writtenAt) db.siteApiClientIds ++
    [⟨next, clientId, true, writtenAt, none⟩]

/-- What one operation does to the ids. -/
inductive SiteStep (db db' : SiteDb) : Prop
  | kept (same : SameIds db db')
  | created (row : SiteRow) (request : SiteCreationRequest) (created : Creates db row request db')
  | advanced (clientId : String) (revision : Nat) (f : SiteRow → SiteRow) (advances : Advances db clientId revision f db')
      (live : ∀ t, (f t).deletedAt = t.deletedAt) (ids : db'.siteApiClientIds = db.siteApiClientIds)
      (changes : db'.siteClientIdChanges = db.siteClientIdChanges)
      (requests : db'.siteCreationRequests = db.siteCreationRequests)
  | recorded (change : SiteClientIdChange) (site : ∃ t ∈ db.sites, t.clientId = change.clientId)
      (records : RecordsChange db change db') (sites : db'.sites = db.sites)
      (ids : db'.siteApiClientIds = db.siteApiClientIds)
  | replaced (change : SiteClientIdChange) (next : String) (writtenAt revision : Nat) (f : SiteRow → SiteRow)
      (records : RecordsChange db change db') (advances : Advances db change.clientId revision f db')
      (live : ∀ t, (f t).deletedAt = t.deletedAt) (replaces : ReplacesId db change.clientId next writtenAt db')
  | deleted (clientId : String) (revision : Nat) (f : SiteRow → SiteRow) (retiredAt : SiteApiClientId → Nat)
      (advances : Advances db clientId revision f db') (closed : ∀ t, (f t).deletedAt ≠ none)
      (ids : db'.siteApiClientIds = updateWhere (currentIdOf clientId) (·.closedAt retiredAt) db.siteApiClientIds)
      (changes : db'.siteClientIdChanges = db.siteClientIdChanges)
      (requests : db'.siteCreationRequests = db.siteCreationRequests)

theorem requireUnusedClientId_ok {clientId : String} {db db' : SiteDb} {u : Unit}
    (h : requireUnusedClientId clientId db = .ok (u, db')) : Unused db clientId ∧ db' = db := by
  unfold requireUnusedClientId at h
  rw [readWith_bind_ok] at h
  obtain ⟨⟨hsites, -, -, hids⟩, rfl⟩ := require_ok.mp h
  exact ⟨⟨hsites, hids⟩, rfl⟩

theorem resolveSiteCollection_ok {configuration resolved : SiteConfiguration} {db db' : SiteDb}
    (h : resolveSiteCollection configuration db = .ok (resolved, db')) : db' = db := by
  unfold resolveSiteCollection at h
  rw [readWith_bind_ok, orFail_bind_ok] at h
  obtain ⟨collection, -, h⟩ := h
  rw [require_bind_ok] at h
  exact (pure_ok.mp h.2).2.symm

theorem insertSite_ok {row : SiteRow} {db db' : SiteDb} {u : Unit} (h : insertSite row db = .ok (u, db')) :
    db' = { db with sites := db.sites ++ [row] } := by
  unfold insertSite at h
  rw [readWith_bind_ok, require_bind_ok, require_bind_ok, require_bind_ok] at h
  exact update_eq.mp h.2.2.2

theorem insertCreationRequest_ok {row : SiteCreationRequest} {db db' : SiteDb} {u : Unit}
    (h : insertCreationRequest row db = .ok (u, db')) :
    (∀ c ∈ db.siteCreationRequests, c.operationId ≠ row.operationId) ∧
      db' = { db with siteCreationRequests := db.siteCreationRequests ++ [row] } := by
  unfold insertCreationRequest at h
  rw [readWith_bind_ok, require_bind_ok] at h
  exact ⟨fun c hc => (h.1 c hc).1, update_eq.mp h.2⟩

theorem insertClientIdChange_ok {row : SiteClientIdChange} {db db' : SiteDb} {u : Unit}
    (h : insertClientIdChange row db = .ok (u, db')) :
    (∀ c ∈ db.siteClientIdChanges, c.operationId ≠ row.operationId) ∧
      db' = { db with siteClientIdChanges := db.siteClientIdChanges ++ [row] } := by
  unfold insertClientIdChange at h
  rw [readWith_bind_ok, require_bind_ok, require_bind_ok, require_bind_ok] at h
  exact ⟨fun c hc => (h.1 c hc).1, update_eq.mp h.2.2.2⟩

/-! ### Creation -/

theorem createNew_ok {env : SiteEnvironment} {input : CreateSiteInput} {db db' : SiteDb} {snapshot : SiteSnapshot}
    (h : createNew pf env input db = .ok (snapshot, db')) :
    ∃ row request, Creates db row request db' ∧ request.operationId = input.operationId ∧
      request.requestFingerprint = pf.sha256 input.text ∧ request.clientId = snapshot.site.clientId := by
  unfold createNew at h
  obtain ⟨_, db1, h1, h⟩ := bind_ok.mp h
  obtain ⟨hunused, e1⟩ := requireUnusedClientId_ok h1
  obtain ⟨configuration, db2, h2, h⟩ := bind_ok.mp h
  have e2 := resolveSiteCollection_ok h2
  obtain ⟨_, db3, h3, h⟩ := bind_ok.mp h
  obtain ⟨identity, e3⟩ := identityTx_ok h3
  obtain ⟨_, db4, h4, h⟩ := bind_ok.mp h
  have e4 := insertSite_ok h4
  obtain ⟨_, db5, h5, h⟩ := bind_ok.mp h
  obtain ⟨hsingle, -, hvalid, e5⟩ := insertApiClientId_ok h5
  rw [valueOf_bind_ok] at h
  obtain ⟨-, -, h⟩ := h
  obtain ⟨_, db6, h6, h⟩ := bind_ok.mp h
  obtain ⟨hfresh, e6⟩ := insertCreationRequest_ok h6
  obtain ⟨e7, -, hid, -, -⟩ := requiredSite_ok h
  subst e1 e2 e3 e4 e5 e6 e7
  exact ⟨_, _, ⟨hunused, hvalid, rfl, rfl, hfresh, fun m hm => (hsingle m hm).2, rfl, rfl, rfl, rfl⟩, rfl, rfl, hid.symm⟩

/-- A creation is answered from its record, or makes a site. -/
theorem create_ok {env : SiteEnvironment} {input : CreateSiteInput} {db db' : SiteDb} {snapshot : SiteSnapshot}
    (h : create pf env input db = .ok (snapshot, db')) :
    input.clientId.all isCreationClientId = true ∧ input.configuration.notificationsEnabled = false ∧
      ((∃ r ∈ db.siteCreationRequests, r.operationId = input.operationId ∧
          r.requestFingerprint = pf.sha256 input.text ∧ r.clientId = snapshot.site.clientId ∧ db' = db) ∨
        ∃ row request, Creates db row request db' ∧ request.operationId = input.operationId ∧
          request.requestFingerprint = pf.sha256 input.text ∧ request.clientId = snapshot.site.clientId) := by
  unfold create at h
  rw [require_bind_ok, require_bind_ok, readWith_bind_ok] at h
  obtain ⟨hvalid, hnotifications, h⟩ := h
  refine ⟨hvalid, hnotifications, ?_⟩
  cases hfound : db.siteCreationRequests.find? fun r => r.operationId = input.operationId with
  | none =>
    simp only [hfound] at h
    exact .inr (createNew_ok h)
  | some previous =>
    simp only [hfound] at h
    rw [require_bind_ok, readWith_bind_ok, orFail_bind_ok] at h
    obtain ⟨hfingerprint, site, hsite, h⟩ := h
    unfold mapSite at h
    rw [readWith_bind_ok] at h
    obtain ⟨hsnapshot, rfl⟩ := orFail_ok.mp h
    obtain ⟨m, -, rfl⟩ := Option.map_eq_some_iff.mp hsnapshot
    have hid := (siteRow_some hsite).2
    have hoperation : previous.operationId = input.operationId := by simpa using List.find?_some hfound
    exact .inl ⟨previous, List.mem_of_find?_eq_some hfound, hoperation, hfingerprint, hid.symm, rfl⟩

/-! ### Changes -/

theorem selected_of_required {db db' : SiteDb} {clientId : String} {snapshot : SiteSnapshot} {revision : Nat}
    (h : requiredSite clientId db = .ok (snapshot, db')) (hr : snapshot.site.revision = revision) :
    ∃ t ∈ db.sites, selectsSite clientId revision t = true := by
  obtain ⟨-, hmem, hid, hlive, -⟩ := requiredSite_ok h
  refine ⟨snapshot.site, hmem, ?_⟩
  unfold selectsSite
  simp [hid, hr, hlive]

theorem replaceApiClientId_ok {clientId next : String} {revision writtenAt : Nat} {db db' : SiteDb} {u : Unit}
    (hcurrent : ∃ t ∈ db.sites, selectsSite clientId revision t = true)
    (h : replaceApiClientId clientId next revision writtenAt db = .ok (u, db')) :
    Advances db clientId revision (fun s => { s with revision := s.revision + 1, updatedAt := writtenAt }) db' ∧
      ReplacesId db clientId next writtenAt db' ∧ db'.siteClientIdChanges = db.siteClientIdChanges ∧
      db'.siteCreationRequests = db.siteCreationRequests ∧ db'.siteSecrets = db.siteSecrets := by
  unfold replaceApiClientId at h
  obtain ⟨_, db1, h1, h⟩ := bind_ok.mp h
  obtain ⟨hunused, e1⟩ := requireUnusedClientId_ok h1
  obtain ⟨_, db2, h2, h⟩ := bind_ok.mp h
  obtain ⟨-, e2⟩ := retireApiClientId_ok h2
  obtain ⟨_, db3, h3, h⟩ := bind_ok.mp h
  obtain ⟨-, e3⟩ := changed_ok h3
  obtain ⟨_, db4, h4, h⟩ := bind_ok.mp h
  obtain ⟨hsingle, -, hvalid, e4⟩ := insertApiClientId_ok h4
  obtain ⟨_, db5, h5, h⟩ := bind_ok.mp h
  obtain ⟨hfollows, e5⟩ := updateSite_ok h5
  obtain ⟨-, e6⟩ := changed_ok h
  subst e1 e2 e3 e4 e5 e6
  exact ⟨⟨hcurrent, hfollows, rfl⟩, ⟨hunused, hvalid, fun m hm => (hsingle m hm).2, rfl⟩, rfl, rfl, rfl⟩

/-- A change is answered from its record, or is recorded, with the id replaced when it is another one. -/
inductive ChangeOutcome (pf : SitePlatform) (clientId : String) (input : ChangeClientIdInput) (db db' : SiteDb) :
    Prop
  | replayed (previous : SiteClientIdChange) (found : previous ∈ db.siteClientIdChanges)
      (operation : previous.operationId = input.operationId) (site : previous.clientId = clientId)
      (fingerprint : previous.requestFingerprint = pf.sha256 (changeText clientId input.revision input.clientId))
      (same : db' = db)
  | recorded (change : SiteClientIdChange) (operation : change.operationId = input.operationId)
      (site : change.clientId = clientId)
      (fingerprint : change.requestFingerprint = pf.sha256 (changeText clientId input.revision input.clientId))
      (current : ∃ t ∈ db.sites, selectsSite clientId input.revision t = true)
      (records : RecordsChange db change db') (sites : db'.sites = db.sites)
      (ids : db'.siteApiClientIds = db.siteApiClientIds) (secrets : db'.siteSecrets = db.siteSecrets)
      (unchanged : ∃ t ∈ db.sites, t.clientId = clientId ∧ snapshotOf db t = some ⟨t, input.clientId⟩)
  | replaced (change : SiteClientIdChange) (operation : change.operationId = input.operationId)
      (site : change.clientId = clientId)
      (fingerprint : change.requestFingerprint = pf.sha256 (changeText clientId input.revision input.clientId))
      (writtenAt : Nat) (records : RecordsChange db change db')
      (advances : Advances db clientId input.revision
        (fun s => { s with revision := s.revision + 1, updatedAt := writtenAt }) db')
      (replaces : ReplacesId db clientId input.clientId writtenAt db') (secrets : db'.siteSecrets = db.siteSecrets)

theorem changeNew_ok {env : SiteEnvironment} {clientId : String} {input : ChangeClientIdInput} {db db' : SiteDb}
    {snapshot : SiteSnapshot} (h : changeNew pf env clientId input db = .ok (snapshot, db')) :
    ChangeOutcome pf clientId input db db' := by
  unfold changeNew at h
  obtain ⟨current, db1, h1, h⟩ := bind_ok.mp h
  have hrequired := requiredSite_ok h1
  unfold checkRevision at h
  rw [require_bind_ok, readWith_bind_ok] at h
  obtain ⟨hrevision, h⟩ := h
  have hselected := selected_of_required h1 hrevision
  obtain ⟨e1, hmem, hid, -, hsnapshot⟩ := hrequired
  obtain ⟨_, db2, h2, h⟩ := bind_ok.mp h
  have e2 : db2 = db1 := (require_ok.mp h2).2.symm
  obtain ⟨_, db3, h3, h⟩ := bind_ok.mp h
  obtain ⟨_, db4, h4, h⟩ := bind_ok.mp h
  obtain ⟨hfresh, e4⟩ := insertClientIdChange_ok h4
  obtain ⟨e5, -⟩ := requiredSite_ok h
  subst e1 e2 e4 e5
  unfold replaceIfDifferent at h3
  split at h3
  · rw [hid] at h3
    obtain ⟨hadvances, hreplaces, hchanges, hrequests, hsecrets⟩ := replaceApiClientId_ok hselected h3
    rw [hchanges] at hfresh
    exact .replaced _ rfl rfl rfl _ ⟨hfresh, hrequests, congrArg (· ++ [_]) hchanges⟩
      ⟨hadvances.current, hadvances.follows, hadvances.sites⟩
      ⟨hreplaces.unused, hreplaces.valid, hreplaces.single, hreplaces.ids⟩ hsecrets
  · rename_i hsame
    obtain ⟨-, e3⟩ := pure_ok.mp h3
    subst e3
    have hcurrent : current = ⟨current.site, input.clientId⟩ := by rw [← not_not.mp hsame]
    refine .recorded _ rfl rfl rfl hselected ⟨hfresh, rfl, rfl⟩ rfl rfl rfl ⟨current.site, hmem, hid, ?_⟩
    rw [hsnapshot]
    exact congrArg some hcurrent

theorem changeClientId_ok {env : SiteEnvironment} {clientId : String} {input : ChangeClientIdInput} {db db' : SiteDb}
    {snapshot : SiteSnapshot} (h : changeClientId pf env clientId input db = .ok (snapshot, db')) :
    isSiteClientId clientId = true ∧ isCreationClientId input.clientId = true ∧
      ChangeOutcome pf clientId input db db' := by
  unfold changeClientId at h
  rw [require_bind_ok, readWith_bind_ok] at h
  obtain ⟨⟨hvalid, hnext⟩, h⟩ := h
  refine ⟨hvalid, hnext, ?_⟩
  cases hfound : db.siteClientIdChanges.find? fun c => c.operationId = input.operationId with
  | none =>
    simp only [hfound] at h
    exact changeNew_ok h
  | some previous =>
    simp only [hfound] at h
    rw [require_bind_ok, readWith_bind_ok, orFail_bind_ok] at h
    obtain ⟨⟨hsite, hfingerprint⟩, site, -, h⟩ := h
    unfold mapSite at h
    rw [readWith_bind_ok] at h
    obtain ⟨-, e⟩ := orFail_ok.mp h
    have hoperation : previous.operationId = input.operationId := by simpa using List.find?_some hfound
    exact .replayed previous (List.mem_of_find?_eq_some hfound) hoperation hsite hfingerprint e.symm

/-! ### Configuration, deletion, secrets -/

theorem updateConfiguration_ok {env : SiteEnvironment} {clientId : String} {input : UpdateSiteInput} {db db' : SiteDb}
    {snapshot : SiteSnapshot} (h : updateConfiguration env clientId input db = .ok (snapshot, db')) :
    ∃ f : SiteRow → SiteRow, Advances db clientId input.revision f db' ∧ (∀ t, (f t).deletedAt = t.deletedAt) ∧
      db' = { db with sites := db'.sites } := by
  unfold updateConfiguration at h
  rw [require_bind_ok] at h
  obtain ⟨-, h⟩ := h
  obtain ⟨current, db1, h1, h⟩ := bind_ok.mp h
  unfold checkRevision at h
  rw [require_bind_ok] at h
  obtain ⟨hrevision, h⟩ := h
  have hselected := selected_of_required h1 hrevision
  have e1 := (requiredSite_ok h1).1
  obtain ⟨configuration, db2, h2, h⟩ := bind_ok.mp h
  have e2 := resolveSiteCollection_ok h2
  rw [readWith_bind_ok, require_bind_ok] at h
  obtain ⟨-, h⟩ := h
  obtain ⟨_, db3, h3, h⟩ := bind_ok.mp h
  obtain ⟨hfollows, e3⟩ := updateSite_ok h3
  obtain ⟨_, db4, h4, h⟩ := bind_ok.mp h
  obtain ⟨-, e4⟩ := changed_ok h4
  have e5 := (requiredSite_ok h).1
  subst e1 e2 e3 e4 e5
  refine ⟨fun s => { s with
    configuration := configuration
    revision := s.revision + 1
    updatedAt := max s.updatedAt env.now }, ⟨hselected, hfollows, rfl⟩, fun _ => rfl, rfl⟩

theorem deleteSite_ok {env : SiteEnvironment} {clientId : String} {revision : Nat} {db db' : SiteDb} {u : Unit}
    (h : deleteSite env clientId revision db = .ok (u, db')) :
    ∃ (f : SiteRow → SiteRow) (retiredAt : SiteApiClientId → Nat), Advances db clientId revision f db' ∧
      (∀ t, (f t).deletedAt ≠ none) ∧
      db'.siteApiClientIds = updateWhere (currentIdOf clientId) (·.closedAt retiredAt) db.siteApiClientIds ∧
      db'.siteClientIdChanges = db.siteClientIdChanges ∧ db'.siteCreationRequests = db.siteCreationRequests ∧
      db'.siteSecrets = db.siteSecrets := by
  unfold deleteSite at h
  rw [require_bind_ok] at h
  obtain ⟨-, h⟩ := h
  obtain ⟨current, db1, h1, h⟩ := bind_ok.mp h
  unfold checkRevision at h
  rw [require_bind_ok, readWith_bind_ok] at h
  obtain ⟨hrevision, h⟩ := h
  have hselected := selected_of_required h1 hrevision
  have e1 := (requiredSite_ok h1).1
  obtain ⟨_, db2, h2, h⟩ := bind_ok.mp h
  have e2 : db2 = db1 := (require_ok.mp h2).2.symm
  rw [readWith_bind_ok, require_bind_ok] at h
  obtain ⟨-, h⟩ := h
  obtain ⟨_, db3, h3, h⟩ := bind_ok.mp h
  obtain ⟨identity, e3⟩ := identityTx_ok h3
  obtain ⟨_, db4, h4, h⟩ := bind_ok.mp h
  obtain ⟨-, e4⟩ := retireApiClientId_ok h4
  obtain ⟨_, db5, h5, h⟩ := bind_ok.mp h
  obtain ⟨-, e5⟩ := changed_ok h5
  obtain ⟨_, db6, h6, h⟩ := bind_ok.mp h
  obtain ⟨hfollows, e6⟩ := updateSite_ok h6
  obtain ⟨-, e7⟩ := changed_ok h
  subst e1 e2 e3 e4 e5 e6 e7
  exact ⟨_, _, ⟨hselected, hfollows, rfl⟩, fun _ => nofun, rfl, rfl, rfl, rfl⟩

theorem insertSigningKey_ok {row : WebhookSigningKey} {db db' : SiteDb} {u : Unit}
    (h : insertSigningKey row db = .ok (u, db')) :
    db' = { db with webhookSigningKeys := db.webhookSigningKeys ++ [row] } := by
  unfold insertSigningKey at h
  rw [readWith_bind_ok, require_bind_ok] at h
  exact update_eq.mp h.2

theorem retireSigningKey_ok {clientId : String} {keyVersion retiredAt : Nat} {db db' : SiteDb} {u : Unit}
    (h : retireSigningKey clientId keyVersion retiredAt db = .ok (u, db')) :
    ∃ keys, db' = { db with webhookSigningKeys := keys } := by
  unfold retireSigningKey at h
  rw [readWith_bind_ok, require_bind_ok] at h
  exact ⟨_, update_eq.mp h.2⟩

theorem replaceSigningKey_ok {env : SiteEnvironment} {clientId fingerprint : String} {active : Option WebhookSigningKey}
    {timestamp : Nat} {db db' : SiteDb} {u : Unit}
    (h : replaceSigningKey env clientId fingerprint active timestamp db = .ok (u, db')) :
    ∃ keys, db' = { db with webhookSigningKeys := keys } := by
  unfold replaceSigningKey at h
  cases active with
  | none =>
    rw [readWith_bind_ok] at h
    exact ⟨_, insertSigningKey_ok h⟩
  | some key =>
    obtain ⟨_, db1, h1, h⟩ := bind_ok.mp h
    obtain ⟨keys, e1⟩ := retireSigningKey_ok h1
    rw [readWith_bind_ok] at h
    have e2 := insertSigningKey_ok h
    subst e1 e2
    exact ⟨_, rfl⟩

/-- The key that goes with a secret is in tables that hold no ids. -/
theorem syncKey_ok {env : SiteEnvironment} {clientId fingerprint : String} {writtenAt : Nat} {purpose : SiteSecretPurpose}
    {db db' : SiteDb} {u : Unit} (h : syncKey env clientId fingerprint writtenAt purpose db = .ok (u, db')) :
    ∃ identity keys, db' = { db with identity := identity, webhookSigningKeys := keys } := by
  cases purpose with
  | api_secret =>
    unfold syncKey ignoreResult at h
    obtain ⟨_, db1, h1, h⟩ := bind_ok.mp h
    obtain ⟨identity, rfl⟩ := identityTx_ok h1
    obtain ⟨-, rfl⟩ := pure_ok.mp h
    exact ⟨identity, _, rfl⟩
  | webhook_secret =>
    unfold syncKey syncSiteSigningKey at h
    rw [readWith_bind_ok] at h
    split at h
    · obtain ⟨-, rfl⟩ := pure_ok.mp h
      exact ⟨_, _, rfl⟩
    · obtain ⟨keys, rfl⟩ := replaceSigningKey_ok h
      exact ⟨_, keys, rfl⟩

theorem saveSecret_ok {row : SiteSecret} {db db' : SiteDb} {u : Unit} (h : saveSecret row db = .ok (u, db')) :
    (∃ secrets, db' = { db with siteSecrets := secrets }) ∧
      ∀ secret ∈ db'.siteSecrets, secret ∈ db.siteSecrets ∨ secret = row := by
  unfold saveSecret at h
  rw [readWith_bind_ok, require_bind_ok, require_bind_ok] at h
  obtain ⟨-, -, h⟩ := h
  obtain rfl := update_eq.mp h
  refine ⟨⟨_, rfl⟩, ?_⟩
  intro secret hsecret
  dsimp only at hsecret
  split at hsecret
  · rcases mem_updateWhere.mp hsecret with ⟨_, -, -, rfl⟩ | ⟨hold, -⟩
    · exact .inr rfl
    · exact .inl hold
  · rcases List.mem_append.mp hsecret with hold | hnew
    · exact .inl hold
    · exact .inr (List.mem_singleton.mp hnew)

theorem rotateSecret_ok {env : SiteEnvironment} {clientId : String} {purpose : SiteSecretPurpose} {revision : Nat}
    {db db' : SiteDb} {result : SiteSnapshot × String}
    (h : rotateSecret pf env clientId purpose revision db = .ok (result, db')) :
    ∃ f : SiteRow → SiteRow, Advances db clientId revision f db' ∧ (∀ t, (f t).deletedAt = t.deletedAt) ∧
      db'.siteApiClientIds = db.siteApiClientIds ∧ db'.siteClientIdChanges = db.siteClientIdChanges ∧
      db'.siteCreationRequests = db.siteCreationRequests := by
  unfold rotateSecret at h
  rw [require_bind_ok] at h
  obtain ⟨-, h⟩ := h
  obtain ⟨current, db1, h1, h⟩ := bind_ok.mp h
  unfold checkRevision at h
  rw [require_bind_ok, readWith_bind_ok] at h
  obtain ⟨hrevision, h⟩ := h
  have hselected := selected_of_required h1 hrevision
  have e1 := (requiredSite_ok h1).1
  obtain ⟨_, db2, h2, h⟩ := bind_ok.mp h
  obtain ⟨⟨secrets, e2⟩, -⟩ := saveSecret_ok h2
  obtain ⟨_, db3, h3, h⟩ := bind_ok.mp h
  obtain ⟨identity, keys, e3⟩ := syncKey_ok h3
  obtain ⟨_, db4, h4, h⟩ := bind_ok.mp h
  obtain ⟨hfollows, e4⟩ := updateSite_ok h4
  obtain ⟨_, db5, h5, h⟩ := bind_ok.mp h
  obtain ⟨-, e5⟩ := changed_ok h5
  obtain ⟨site, db6, h6, h⟩ := bind_ok.mp h
  have e6 := (requiredSite_ok h6).1
  obtain ⟨-, e7⟩ := pure_ok.mp h
  subst e1 e2 e3 e4 e5 e6 e7
  exact ⟨_, ⟨hselected, hfollows, rfl⟩, fun _ => rfl, rfl, rfl, rfl⟩

/-! ### One step -/

/-- A transaction commits, or leaves everything as it was. -/
theorem commit_cases {α : Type} (s : SiteState) (x : SiteTx α) (entries : α → List SiteEntry) :
    (∃ a db', x s.db = .ok (a, db') ∧ s.commit x entries = ⟨db', s.log ++ entries a⟩) ∨
      ((∃ e, x s.db = .error e) ∧ s.commit x entries = s) := by
  unfold SiteState.commit
  cases hx : x s.db with
  | error e => exact .inr ⟨⟨e, rfl⟩, rfl⟩
  | ok r =>
    obtain ⟨a, db'⟩ := r
    exact .inl ⟨a, db', rfl, rfl⟩

theorem Creates.step {db db' : SiteDb} {row : SiteRow} {request : SiteCreationRequest} (h : Creates db row request db') :
    SiteStep db db' := .created row request h

theorem ChangeOutcome.step {clientId : String} {input : ChangeClientIdInput} {db db' : SiteDb}
    (h : ChangeOutcome pf clientId input db db') : SiteStep db db' := by
  cases h with
  | replayed previous found operation site fingerprint same => exact .kept (same ▸ SameIds.refl db)
  | recorded change operation site fingerprint current records sites ids secrets unchanged =>
    obtain ⟨t, ht, hid, -⟩ := unchanged
    exact .recorded change ⟨t, ht, hid.trans site.symm⟩ records sites ids
  | replaced change operation site fingerprint writtenAt records advances replaces secrets =>
    subst site
    exact .replaced change _ writtenAt _ _ records advances (fun _ => rfl) replaces

/-- **What one operation does** to the ids. -/
theorem performSite_step (s : SiteState) (op : SiteOperation) : SiteStep s.db (performSite pf s op).db := by
  cases op with
  | create env input =>
    rcases commit_cases s (create pf env input) (fun snapshot => [.created input snapshot.site.clientId]) with
      ⟨snapshot, db', hx, he⟩ | ⟨-, he⟩
    · show SiteStep s.db (s.commit (create pf env input) _).db
      rw [he]
      obtain ⟨-, -, ⟨r, -, -, -, -, rfl⟩ | ⟨row, request, hcreates, -⟩⟩ := create_ok hx
      · exact .kept (SameIds.refl _)
      · exact hcreates.step
    · show SiteStep s.db (s.commit (create pf env input) _).db
      rw [he]
      exact .kept (SameIds.refl _)
  | changeClientId env clientId input =>
    rcases commit_cases s (changeClientId pf env clientId input) (fun _ => [.idChanged clientId input]) with
      ⟨snapshot, db', hx, he⟩ | ⟨-, he⟩
    · show SiteStep s.db (s.commit (changeClientId pf env clientId input) _).db
      rw [he]
      exact (changeClientId_ok hx).2.2.step
    · show SiteStep s.db (s.commit (changeClientId pf env clientId input) _).db
      rw [he]
      exact .kept (SameIds.refl _)
  | update env clientId input =>
    rcases commit_cases s (updateConfiguration env clientId input) (fun _ => []) with ⟨snapshot, db', hx, he⟩ | ⟨-, he⟩
    · show SiteStep s.db (s.commit (updateConfiguration env clientId input) _).db
      rw [he]
      obtain ⟨f, hadvances, hlive, hrest⟩ := updateConfiguration_ok hx
      exact .advanced clientId _ f hadvances hlive (by rw [hrest]) (by rw [hrest]) (by rw [hrest])
    · show SiteStep s.db (s.commit (updateConfiguration env clientId input) _).db
      rw [he]
      exact .kept (SameIds.refl _)
  | delete env clientId revision =>
    rcases commit_cases s (deleteSite env clientId revision) (fun _ => []) with ⟨u, db', hx, he⟩ | ⟨-, he⟩
    · show SiteStep s.db (s.commit (deleteSite env clientId revision) _).db
      rw [he]
      obtain ⟨f, retiredAt, hadvances, hclosed, hids, hchanges, hrequests, -⟩ := deleteSite_ok hx
      exact .deleted clientId revision f retiredAt hadvances hclosed hids hchanges hrequests
    · show SiteStep s.db (s.commit (deleteSite env clientId revision) _).db
      rw [he]
      exact .kept (SameIds.refl _)
  | rotateSecret env clientId purpose revision =>
    rcases commit_cases s (rotateSecret pf env clientId purpose revision) (fun _ => []) with ⟨r, db', hx, he⟩ | ⟨-, he⟩
    · show SiteStep s.db (s.commit (rotateSecret pf env clientId purpose revision) _).db
      rw [he]
      obtain ⟨f, hadvances, hlive, hids, hchanges, hrequests⟩ := rotateSecret_ok hx
      exact .advanced clientId revision f hadvances hlive hids hchanges hrequests
    · show SiteStep s.db (s.commit (rotateSecret pf env clientId purpose revision) _).db
      rw [he]
      exact .kept (SameIds.refl _)
  | setAlipayAccounts accounts => exact .kept ⟨rfl, rfl, rfl, rfl⟩
  | setEpayKeySites sites => exact .kept ⟨rfl, rfl, rfl, rfl⟩
  | setOrderSites orders notified => exact .kept ⟨rfl, rfl, rfl, rfl⟩

/-! ## The invariant -/

/-- Every site has one current id, and it is not retired as long as the site lives. -/
structure IdsKept (db : SiteDb) : Prop where
  sites : UniqueOn (·.clientId) db.sites
  ids : UniqueOn (·.apiClientId) db.siteApiClientIds
  single : ∀ m ∈ db.siteApiClientIds, ∀ m' ∈ db.siteApiClientIds, m.clientId = m'.clientId → m.isCurrent = true →
    m'.isCurrent = true → m = m'
  current : ∀ m ∈ db.siteApiClientIds, m.retiredAt = none → m.isCurrent = true
  owned : ∀ m ∈ db.siteApiClientIds, ∃ t ∈ db.sites, t.clientId = m.clientId
  named : ∀ t ∈ db.sites, ∃ m ∈ db.siteApiClientIds, m.clientId = t.clientId ∧ m.isCurrent = true ∧
    isSiteClientId m.apiClientId = true ∧ (m.retiredAt = none ↔ t.deletedAt = none)

/-- The records keep their ids of operations apart, and their sites. -/
structure RecordsKept (db : SiteDb) : Prop where
  requests : UniqueOn (·.operationId) db.siteCreationRequests
  changes : UniqueOn (·.operationId) db.siteClientIdChanges
  requested : ∀ r ∈ db.siteCreationRequests, ∃ t ∈ db.sites, t.clientId = r.clientId
  changed : ∀ c ∈ db.siteClientIdChanges, ∃ t ∈ db.sites, t.clientId = c.clientId

structure SiteInv (db : SiteDb) : Prop extends IdsKept db, RecordsKept db

theorem siteInv_empty : SiteInv SiteDb.empty where
  sites := uniqueOn_nil _
  ids := uniqueOn_nil _
  single := List.forall_mem_nil _
  current := List.forall_mem_nil _
  owned := List.forall_mem_nil _
  named := List.forall_mem_nil _
  requests := uniqueOn_nil _
  changes := uniqueOn_nil _
  requested := List.forall_mem_nil _
  changed := List.forall_mem_nil _

theorem follows_iff {new old : SiteRow} : new.follows old = true ↔
    new.clientId = old.clientId ∧ new.createdAt = old.createdAt ∧ new.revision = old.revision + 1 ∧
      old.updatedAt ≤ new.updatedAt ∧ old.deletedAt = none := by
  unfold SiteRow.follows
  simp [and_assoc]

theorem selectsSite_iff {clientId : String} {revision : Nat} {t : SiteRow} : selectsSite clientId revision t = true ↔
    t.clientId = clientId ∧ t.revision = revision ∧ t.deletedAt = none := by
  unfold selectsSite
  simp [and_assoc]

theorem currentIdOf_iff {clientId : String} {m : SiteApiClientId} : currentIdOf clientId m = true ↔
    m.clientId = clientId ∧ m.isCurrent = true ∧ m.retiredAt = none := by
  unfold currentIdOf
  simp [and_assoc]

/-- The rows after an advance, and where they come from. -/
theorem Advances.before {db db' : SiteDb} {clientId : String} {revision : Nat} {f : SiteRow → SiteRow}
    (h : Advances db clientId revision f db') {t' : SiteRow} (ht' : t' ∈ db'.sites) :
    ∃ t ∈ db.sites, t'.clientId = t.clientId ∧
      ((t' = f t ∧ selectsSite clientId revision t = true) ∨ (t' = t ∧ selectsSite clientId revision t = false)) := by
  rw [h.sites] at ht'
  rcases mem_updateWhere.mp ht' with ⟨t, ht, hselected, rfl⟩ | ⟨ht, hselected⟩
  · exact ⟨t, ht, (follows_iff.mp (h.follows t ht hselected)).1, .inl ⟨rfl, hselected⟩⟩
  · exact ⟨t', ht, rfl, .inr ⟨rfl, hselected⟩⟩

theorem Advances.after {db db' : SiteDb} {clientId : String} {revision : Nat} {f : SiteRow → SiteRow}
    (h : Advances db clientId revision f db') {t : SiteRow} (ht : t ∈ db.sites) :
    (t ∈ db'.sites ∧ selectsSite clientId revision t = false) ∨
      (f t ∈ db'.sites ∧ (f t).follows t = true ∧ selectsSite clientId revision t = true) := by
  rw [h.sites]
  cases hselected : selectsSite clientId revision t with
  | true => exact .inr ⟨mem_updateWhere.mpr (.inl ⟨t, ht, hselected, rfl⟩), h.follows t ht hselected, rfl⟩
  | false => exact .inl ⟨mem_updateWhere.mpr (.inr ⟨ht, hselected⟩), rfl⟩

/-- A site stays a site, at the same revision or a later one, and deleted when it was. -/
def SitesStay (db db' : SiteDb) : Prop :=
  ∀ t ∈ db.sites, ∃ t' ∈ db'.sites, t'.clientId = t.clientId ∧ t.revision ≤ t'.revision ∧
    (t.deletedAt ≠ none → t'.deletedAt ≠ none)

theorem sitesStay_of_eq {db db' : SiteDb} (h : db'.sites = db.sites) : SitesStay db db' :=
  fun t ht => ⟨t, h ▸ ht, rfl, le_rfl, id⟩

theorem Advances.sitesStay {db db' : SiteDb} {clientId : String} {revision : Nat} {f : SiteRow → SiteRow}
    (h : Advances db clientId revision f db') : SitesStay db db' := by
  intro t ht
  rcases h.after ht with ⟨ht', -⟩ | ⟨ht', hfollows, -⟩
  · exact ⟨t, ht', rfl, le_rfl, id⟩
  · obtain ⟨hid, -, hrevision, -, hlive⟩ := follows_iff.mp hfollows
    exact ⟨f t, ht', hid, by omega, fun hdeleted => absurd hlive hdeleted⟩

theorem SiteStep.sitesStay {db db' : SiteDb} (h : SiteStep db db') : SitesStay db db' := by
  cases h with
  | kept same => exact sitesStay_of_eq same.sites
  | created row request created =>
    exact fun t ht => ⟨t, created.sites ▸ List.mem_append_left _ ht, rfl, le_rfl, id⟩
  | advanced clientId revision f advances => exact advances.sitesStay
  | recorded change site records sites => exact sitesStay_of_eq sites
  | replaced change next writtenAt revision f records advances => exact advances.sitesStay
  | deleted clientId revision f retiredAt advances => exact advances.sitesStay

theorem SitesStay.site {db db' : SiteDb} (h : SitesStay db db') {clientId : String}
    (hsite : ∃ t ∈ db.sites, t.clientId = clientId) : ∃ t ∈ db'.sites, t.clientId = clientId := by
  obtain ⟨t, ht, hid⟩ := hsite
  obtain ⟨t', ht', hid', -⟩ := h t ht
  exact ⟨t', ht', hid'.trans hid⟩

theorem Advances.unique {db db' : SiteDb} {clientId : String} {revision : Nat} {f : SiteRow → SiteRow}
    (h : Advances db clientId revision f db') (hu : UniqueOn (·.clientId) db.sites) :
    UniqueOn (·.clientId) db'.sites := by
  rw [h.sites]
  exact hu.updateWhere_of_mem fun t ht hselected => (follows_iff.mp (h.follows t ht hselected)).1

theorem SiteInv.records_of_eq {db db' : SiteDb} (hi : SiteInv db) (hsites : SitesStay db db')
    (hchanges : db'.siteClientIdChanges = db.siteClientIdChanges)
    (hrequests : db'.siteCreationRequests = db.siteCreationRequests) : RecordsKept db' where
  requests := hrequests ▸ hi.requests
  changes := hchanges ▸ hi.changes
  requested r hr := hsites.site (hi.requested r (hrequests ▸ hr))
  changed c hc := hsites.site (hi.changed c (hchanges ▸ hc))

theorem SiteInv.records_of_change {db db' : SiteDb} (hi : SiteInv db) (hsites : SitesStay db db')
    {change : SiteClientIdChange} (h : RecordsChange db change db') (hsite : ∃ t ∈ db.sites, t.clientId = change.clientId) :
    RecordsKept db' where
  requests := h.requests ▸ hi.requests
  changes := by
    rw [h.changes]
    exact hi.changes.append h.fresh
  requested r hr := hsites.site (hi.requested r (h.requests ▸ hr))
  changed := by
    rw [h.changes]
    exact forall_mem_append_singleton (fun c hc => hsites.site (hi.changed c hc)) (hsites.site hsite)

theorem SiteInv.records_of_request {db db' : SiteDb} (hi : SiteInv db) {row : SiteRow} {request : SiteCreationRequest}
    (h : Creates db row request db') : RecordsKept db' where
  requests := by
    rw [h.requests]
    exact hi.requests.append h.fresh
  changes := h.changes ▸ hi.changes
  requested := by
    have hsites := (SiteStep.created row request h).sitesStay
    rw [h.requests]
    refine forall_mem_append_singleton (fun r hr => hsites.site (hi.requested r hr)) ⟨row, ?_, h.site.symm⟩
    rw [h.sites]
    exact List.mem_append_right _ List.mem_cons_self
  changed c hc := (SiteStep.created row request h).sitesStay.site (hi.changed c (h.changes ▸ hc))

theorem SiteInv.ids_of_eq {db db' : SiteDb} (hi : SiteInv db) (hsites : SitesStay db db')
    (hunique : UniqueOn (·.clientId) db'.sites)
    (hlive : ∀ t' ∈ db'.sites, ∃ t ∈ db.sites, t'.clientId = t.clientId ∧ (t'.deletedAt = none ↔ t.deletedAt = none))
    (hids : db'.siteApiClientIds = db.siteApiClientIds) : IdsKept db' where
  sites := hunique
  ids := hids ▸ hi.ids
  single := hids ▸ hi.single
  current := hids ▸ hi.current
  owned m hm := hsites.site (hi.owned m (hids ▸ hm))
  named := by
    intro t' ht'
    obtain ⟨t, ht, hid, hsame⟩ := hlive t' ht'
    obtain ⟨m, hm, hmid, hcurrent, hvalid, hiff⟩ := hi.named t ht
    exact ⟨m, hids ▸ hm, hmid.trans hid.symm, hcurrent, hvalid, hiff.trans hsame.symm⟩

theorem SiteInv.ids_of_created {db db' : SiteDb} (hi : SiteInv db) {row : SiteRow} {request : SiteCreationRequest}
    (h : Creates db row request db') : IdsKept db' where
  sites := by
    rw [h.sites]
    exact hi.sites.append h.unused.sites
  ids := by
    rw [h.ids]
    exact hi.ids.append h.unused.ids
  single := by
    rw [h.ids]
    intro m hm m' hm' hid hcurrent hcurrent'
    rcases List.mem_append.mp hm with hm | hm <;> rcases List.mem_append.mp hm' with hm' | hm'
    · exact hi.single m hm m' hm' hid hcurrent hcurrent'
    · obtain rfl := List.mem_singleton.mp hm'
      exact absurd hcurrent (by simp [h.single m hm hid])
    · obtain rfl := List.mem_singleton.mp hm
      exact absurd hcurrent' (by simp [h.single m' hm' hid.symm])
    · rw [List.mem_singleton.mp hm, List.mem_singleton.mp hm']
  current := by
    rw [h.ids]
    exact forall_mem_append_singleton hi.current fun _ => rfl
  owned := by
    have hsites := h.step.sitesStay
    rw [h.ids]
    refine forall_mem_append_singleton (fun m hm => hsites.site (hi.owned m hm)) ⟨row, ?_, rfl⟩
    rw [h.sites]
    exact List.mem_append_right _ List.mem_cons_self
  named := by
    rw [h.sites, h.ids]
    refine forall_mem_append_singleton (fun t ht => ?_) ?_
    · obtain ⟨m, hm, hrest⟩ := hi.named t ht
      exact ⟨m, List.mem_append_left _ hm, hrest⟩
    · exact ⟨_, List.mem_append_right _ List.mem_cons_self, rfl, rfl, h.valid, by simp [h.live]⟩

/-- The row that an advance writes is the row of the site. -/
theorem SiteInv.selected {db db' : SiteDb} (hi : SiteInv db) {clientId : String} {revision : Nat} {f : SiteRow → SiteRow}
    (h : Advances db clientId revision f db') {t : SiteRow} (ht : t ∈ db.sites) (hid : t.clientId = clientId) :
    selectsSite clientId revision t = true := by
  obtain ⟨t0, ht0, hselected⟩ := h.current
  have hsame := hi.sites.eq ht ht0 (hid.trans (selectsSite_iff.mp hselected).1.symm)
  rwa [hsame]

theorem SiteInv.ids_of_replaced {db db' : SiteDb} (hi : SiteInv db) {clientId next : String} {revision writtenAt : Nat}
    {f : SiteRow → SiteRow} (h : Advances db clientId revision f db') (hlive : ∀ t, (f t).deletedAt = t.deletedAt)
    (hr : ReplacesId db clientId next writtenAt db') : IdsKept db' where
  sites := h.unique hi.sites
  ids := by
    have hkept : UniqueOn (·.apiClientId)
        (updateWhere (currentIdOf clientId) (·.replacedAt writtenAt) db.siteApiClientIds) :=
      hi.ids.updateWhere fun _ _ => rfl
    rw [hr.ids]
    refine hkept.append fun x hx => ?_
    rcases mem_updateWhere.mp hx with ⟨m, hm, -, rfl⟩ | ⟨hm, -⟩
    · exact hr.unused.ids m hm
    · exact hr.unused.ids x hm
  single := by
    rw [hr.ids]
    intro m hm m' hm' hid hcurrent hcurrent'
    rcases List.mem_append.mp hm with hm | hm <;> rcases List.mem_append.mp hm' with hm' | hm'
    · rcases mem_updateWhere.mp hm with ⟨x, -, -, rfl⟩ | ⟨hx, -⟩
      · exact absurd hcurrent (by simp [SiteApiClientId.replacedAt])
      · rcases mem_updateWhere.mp hm' with ⟨x', -, -, rfl⟩ | ⟨hx', -⟩
        · exact absurd hcurrent' (by simp [SiteApiClientId.replacedAt])
        · exact hi.single m hx m' hx' hid hcurrent hcurrent'
    · obtain rfl := List.mem_singleton.mp hm'
      exact absurd hcurrent (by simp [hr.single m hm hid])
    · obtain rfl := List.mem_singleton.mp hm
      exact absurd hcurrent' (by simp [hr.single m' hm' hid.symm])
    · rw [List.mem_singleton.mp hm, List.mem_singleton.mp hm']
  current := by
    rw [hr.ids]
    refine forall_mem_append_singleton (fun m hm hnone => ?_) fun _ => rfl
    rcases mem_updateWhere.mp hm with ⟨x, -, -, rfl⟩ | ⟨hx, -⟩
    · exact absurd hnone nofun
    · exact hi.current m hx hnone
  owned := by
    have hsites := h.sitesStay
    rw [hr.ids]
    refine forall_mem_append_singleton (fun m hm => ?_) ?_
    · rcases mem_updateWhere.mp hm with ⟨x, hx, -, rfl⟩ | ⟨hx, -⟩
      · exact hsites.site (hi.owned x hx)
      · exact hsites.site (hi.owned m hx)
    · obtain ⟨t, ht, hselected⟩ := h.current
      exact hsites.site ⟨t, ht, (selectsSite_iff.mp hselected).1⟩
  named := by
    intro t' ht'
    rw [hr.ids]
    obtain ⟨t, ht, hid, hwritten⟩ := h.before ht'
    by_cases hsite : t.clientId = clientId
    · -- the site that is written has the new id
      have hselected := hi.selected h ht hsite
      have hdeleted : t'.deletedAt = none := by
        rcases hwritten with ⟨rfl, -⟩ | ⟨-, hnot⟩
        · rw [hlive, (selectsSite_iff.mp hselected).2.2]
        · exact absurd hselected (by simp [hnot])
      exact ⟨_, List.mem_append_right _ List.mem_cons_self, hsite.symm.trans hid.symm, rfl, hr.valid, by simp [hdeleted]⟩
    · obtain ⟨m, hm, hmid, hcurrent, hvalid, hiff⟩ := hi.named t ht
      have hother : currentIdOf clientId m = false := by
        rw [Bool.eq_false_iff, ne_eq, currentIdOf_iff]
        exact fun hm => hsite (hmid.symm.trans hm.1)
      have hdeleted : t'.deletedAt = t.deletedAt := by
        rcases hwritten with ⟨rfl, -⟩ | ⟨rfl, -⟩
        · exact hlive t
        · rfl
      refine ⟨m, List.mem_append_left _ (mem_updateWhere.mpr (.inr ⟨hm, hother⟩)), hmid.trans hid.symm, hcurrent, hvalid, ?_⟩
      rw [hdeleted]
      exact hiff

theorem SiteInv.ids_of_deleted {db db' : SiteDb} (hi : SiteInv db) {clientId : String} {revision : Nat}
    {f : SiteRow → SiteRow} {retiredAt : SiteApiClientId → Nat} (h : Advances db clientId revision f db')
    (hclosed : ∀ t, (f t).deletedAt ≠ none)
    (hids : db'.siteApiClientIds = updateWhere (currentIdOf clientId) (·.closedAt retiredAt) db.siteApiClientIds) :
    IdsKept db' where
  sites := h.unique hi.sites
  ids := by
    rw [hids]
    exact hi.ids.updateWhere fun _ _ => rfl
  single := by
    rw [hids]
    intro m hm m' hm' hid hcurrent hcurrent'
    rcases mem_updateWhere.mp hm with ⟨x, hx, hcx, rfl⟩ | ⟨hx, hcx⟩ <;>
      rcases mem_updateWhere.mp hm' with ⟨x', hx', hcx', rfl⟩ | ⟨hx', hcx'⟩
    · rw [hi.single x hx x' hx' hid hcurrent hcurrent']
    · rw [hi.single x hx m' hx' hid hcurrent hcurrent'] at hcx
      exact absurd hcx (by simp [hcx'])
    · rw [← hi.single m hx x' hx' hid hcurrent hcurrent'] at hcx'
      exact absurd hcx' (by simp [hcx])
    · exact hi.single m hx m' hx' hid hcurrent hcurrent'
  current := by
    rw [hids]
    intro m hm hnone
    rcases mem_updateWhere.mp hm with ⟨x, -, -, rfl⟩ | ⟨hx, -⟩
    · exact absurd hnone nofun
    · exact hi.current m hx hnone
  owned := by
    have hsites := h.sitesStay
    rw [hids]
    intro m hm
    rcases mem_updateWhere.mp hm with ⟨x, hx, -, rfl⟩ | ⟨hx, -⟩
    · exact hsites.site (hi.owned x hx)
    · exact hsites.site (hi.owned m hx)
  named := by
    intro t' ht'
    rw [hids]
    obtain ⟨t, ht, hid, hwritten⟩ := h.before ht'
    obtain ⟨m, hm, hmid, hcurrent, hvalid, hiff⟩ := hi.named t ht
    rcases hwritten with ⟨rfl, hselected⟩ | ⟨rfl, hnot⟩
    · -- the site is deleted, and its id is retired with it
      obtain ⟨hsite, -, hlive⟩ := selectsSite_iff.mp hselected
      have hselects : currentIdOf clientId m = true := currentIdOf_iff.mpr ⟨hmid.trans hsite, hcurrent, hiff.mpr hlive⟩
      refine ⟨m.closedAt retiredAt, mem_updateWhere.mpr (.inl ⟨m, hm, hselects, rfl⟩), hmid.trans hid.symm, hcurrent, hvalid, ?_⟩
      exact ⟨nofun, fun hnone => absurd hnone (hclosed t)⟩
    · have hother : currentIdOf clientId m = false := by
        rw [Bool.eq_false_iff, ne_eq, currentIdOf_iff]
        rintro ⟨hsite, -, -⟩
        exact absurd (hi.selected h ht (hmid.symm.trans hsite)) (by simp [hnot])
      exact ⟨m, mem_updateWhere.mpr (.inr ⟨hm, hother⟩), hmid, hcurrent, hvalid, hiff⟩

/-- An advance that leaves the site alive leaves every site as alive as it was. -/
theorem Advances.live {db db' : SiteDb} {clientId : String} {revision : Nat} {f : SiteRow → SiteRow}
    (h : Advances db clientId revision f db') (hlive : ∀ t, (f t).deletedAt = t.deletedAt) :
    ∀ t' ∈ db'.sites, ∃ t ∈ db.sites, t'.clientId = t.clientId ∧ (t'.deletedAt = none ↔ t.deletedAt = none) := by
  intro t' ht'
  obtain ⟨t, ht, hid, hwritten⟩ := h.before ht'
  refine ⟨t, ht, hid, ?_⟩
  rcases hwritten with ⟨rfl, -⟩ | ⟨rfl, -⟩
  · rw [hlive]
  · rfl

/-- **One step keeps the invariant.** -/
theorem SiteStep.inv {db db' : SiteDb} (hi : SiteInv db) (h : SiteStep db db') : SiteInv db' := by
  have hsites := h.sitesStay
  cases h with
  | kept same =>
    exact ⟨hi.ids_of_eq hsites (same.sites ▸ hi.sites) (fun t ht => ⟨t, same.sites ▸ ht, rfl, Iff.rfl⟩) same.ids,
      hi.records_of_eq hsites same.changes same.requests⟩
  | created row request created => exact ⟨hi.ids_of_created created, hi.records_of_request created⟩
  | advanced clientId revision f advances live ids changes requests =>
    exact ⟨hi.ids_of_eq hsites (advances.unique hi.sites) (advances.live live) ids, hi.records_of_eq hsites changes requests⟩
  | recorded change site records sites ids =>
    exact ⟨hi.ids_of_eq hsites (sites ▸ hi.sites) (fun t ht => ⟨t, sites ▸ ht, rfl, Iff.rfl⟩) ids,
      hi.records_of_change hsites records site⟩
  | replaced change next writtenAt revision f records advances live replaces =>
    obtain ⟨t, ht, hselected⟩ := advances.current
    exact ⟨hi.ids_of_replaced advances live replaces,
      hi.records_of_change hsites records ⟨t, ht, (selectsSite_iff.mp hselected).1⟩⟩
  | deleted clientId revision f retiredAt advances closed ids changes requests =>
    exact ⟨hi.ids_of_deleted advances closed ids, hi.records_of_eq hsites changes requests⟩

end PerPay.Sites
