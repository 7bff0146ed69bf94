/-
  **A public client id is bound for ever, and no update is lost.**

  The rows of public ids only grow and retire, and the rows of sites only advance.  So along a run:

  * what an id names can be read off at any time, and stays so;
  * an id that was retired, by a change or with its site, is never found by `credential` again;
  * a revision that a caller has read is good for one write;
  * a record answers the operation that wrote it, and refuses any other one with its id.
-/
import PerPay.Sites.ClientIds

namespace PerPay.Sites

open Identity
open Txn Table
open Json (Value)

variable {pf : SitePlatform}

/-! ## What stays -/

/-- The row of an id stays with its site, and stays retired. -/
def IdsStay (db db' : SiteDb) : Prop :=
  ∀ m ∈ db.siteApiClientIds, ∃ m' ∈ db'.siteApiClientIds, m'.apiClientId = m.apiClientId ∧ m'.clientId = m.clientId ∧
    (m.retiredAt ≠ none → m'.retiredAt ≠ none)

def RecordsStay (db db' : SiteDb) : Prop :=
  db.siteCreationRequests ⊆ db'.siteCreationRequests ∧ db.siteClientIdChanges ⊆ db'.siteClientIdChanges

theorem SiteStep.idsStay {db db' : SiteDb} (h : SiteStep db db') : IdsStay db db' := by
  intro m hm
  cases h with
  | kept same => exact ⟨m, same.ids ▸ hm, rfl, rfl, id⟩
  | created row request created => exact ⟨m, created.ids ▸ List.mem_append_left _ hm, rfl, rfl, id⟩
  | advanced clientId revision f advances live ids => exact ⟨m, ids ▸ hm, rfl, rfl, id⟩
  | recorded change site records sites ids => exact ⟨m, ids ▸ hm, rfl, rfl, id⟩
  | replaced change next writtenAt revision f records advances live replaces =>
    rw [replaces.ids]
    cases hselected : currentIdOf change.clientId m with
    | true =>
      have hmem : m.replacedAt writtenAt ∈ updateWhere (currentIdOf change.clientId) (·.replacedAt writtenAt) db.siteApiClientIds :=
        mem_updateWhere.mpr (.inl ⟨m, hm, hselected, rfl⟩)
      exact ⟨m.replacedAt writtenAt, List.mem_append_left _ hmem, rfl, rfl, fun _ => nofun⟩
    | false => exact ⟨m, List.mem_append_left _ (mem_updateWhere.mpr (.inr ⟨hm, hselected⟩)), rfl, rfl, id⟩
  | deleted clientId revision f retiredAt advances closed ids =>
    rw [ids]
    cases hselected : currentIdOf clientId m with
    | true => exact ⟨m.closedAt retiredAt, mem_updateWhere.mpr (.inl ⟨m, hm, hselected, rfl⟩), rfl, rfl, fun _ => nofun⟩
    | false => exact ⟨m, mem_updateWhere.mpr (.inr ⟨hm, hselected⟩), rfl, rfl, id⟩

theorem SiteStep.recordsStay {db db' : SiteDb} (h : SiteStep db db') : RecordsStay db db' := by
  cases h with
  | kept same => exact ⟨same.requests ▸ List.Subset.refl _, same.changes ▸ List.Subset.refl _⟩
  | created row request created =>
    exact ⟨created.requests ▸ List.subset_append_left _ _, created.changes ▸ List.Subset.refl _⟩
  | advanced clientId revision f advances live ids changes requests =>
    exact ⟨requests ▸ List.Subset.refl _, changes ▸ List.Subset.refl _⟩
  | recorded change site records =>
    exact ⟨records.requests ▸ List.Subset.refl _, records.changes ▸ List.subset_append_left _ _⟩
  | replaced change next writtenAt revision f records =>
    exact ⟨records.requests ▸ List.Subset.refl _, records.changes ▸ List.subset_append_left _ _⟩
  | deleted clientId revision f retiredAt advances closed ids changes requests =>
    exact ⟨requests ▸ List.Subset.refl _, changes ▸ List.Subset.refl _⟩

/-- What a later state keeps of an earlier one. -/
structure Stays (db db' : SiteDb) : Prop where
  sites : SitesStay db db'
  ids : IdsStay db db'
  records : RecordsStay db db'

theorem Stays.refl (db : SiteDb) : Stays db db where
  sites t ht := ⟨t, ht, rfl, le_rfl, id⟩
  ids m hm := ⟨m, hm, rfl, rfl, id⟩
  records := ⟨List.Subset.refl _, List.Subset.refl _⟩

theorem Stays.trans {db db' db'' : SiteDb} (h : Stays db db') (h' : Stays db' db'') : Stays db db'' where
  sites := by
    intro t ht
    obtain ⟨t', ht', hid, hrevision, hdeleted⟩ := h.sites t ht
    obtain ⟨t'', ht'', hid', hrevision', hdeleted'⟩ := h'.sites t' ht'
    exact ⟨t'', ht'', hid'.trans hid, hrevision.trans hrevision', fun hd => hdeleted' (hdeleted hd)⟩
  ids := by
    intro m hm
    obtain ⟨m', hm', hid, hsite, hretired⟩ := h.ids m hm
    obtain ⟨m'', hm'', hid', hsite', hretired'⟩ := h'.ids m' hm'
    exact ⟨m'', hm'', hid'.trans hid, hsite'.trans hsite, fun hr => hretired' (hretired hr)⟩
  records := ⟨fun _ hr => h'.records.1 (h.records.1 hr), fun _ hc => h'.records.2 (h.records.2 hc)⟩

theorem SiteStep.stays {db db' : SiteDb} (h : SiteStep db db') : Stays db db' := ⟨h.sitesStay, h.idsStay, h.recordsStay⟩

/-- **Run lemma.** Every reachable state meets the invariant. -/
theorem siteInv_of_reachable {s : SiteState} (h : Runs.Reachable (siteSystem pf) s) : SiteInv s.db := by
  refine h.invariant (I := fun s => SiteInv s.db) (fun s h0 => ?_) fun s op s' hi hs => ?_
  · obtain rfl : s = SiteState.initial := h0
    exact siteInv_empty
  · obtain rfl : s' = performSite pf s op := hs
    exact (performSite_step s op).inv hi

/-- **Path lemma.** What stays along one step stays along a path. -/
theorem stays_of_path {s s' : SiteState} {ops : List SiteOperation} (h : Runs.Path (siteSystem pf) s ops s') :
    Stays s.db s'.db := by
  induction h with
  | refl => exact Stays.refl _
  | @next ops m s' op hp hs ih =>
    obtain rfl : s' = performSite pf m op := hs
    exact ih.trans (performSite_step m op).stays

/-! ## Credentials -/

/-- What a credential is made of: the id is the current one of a site that lives, the key is that site's. -/
structure CredentialOf (db : SiteDb) (apiClientId : String) (c : SiteCredential) : Prop where
  id : c.apiClientId = apiClientId
  mapping : ∃ m ∈ db.siteApiClientIds, m.apiClientId = apiClientId ∧ m.clientId = c.clientId ∧ m.isCurrent = true ∧
    m.retiredAt = none
  site : ∃ t ∈ db.sites, t.clientId = c.clientId ∧ t.deletedAt = none
  key : ∃ active, activeApiClient c.clientId db.identity = some active ∧ active.enabled = true ∧
    c.keyVersion = active.keyVersion ∧ c.secretFingerprint = active.secretFingerprint
  secret : ∃ row, readSecret c.clientId .api_secret db = some row ∧ c.secret = row.secret ∧
    row.secretFingerprint = c.secretFingerprint

theorem credentialOf_ok {apiClientId clientId : String} {active : ApiClientKey} {row : Option SiteSecret} {c : SiteCredential}
    (h : credentialOf pf apiClientId clientId active row = .ok c) :
    ∃ secret, row = some secret ∧ secret.secretFingerprint = active.secretFingerprint ∧
      c = ⟨clientId, apiClientId, active.keyVersion, active.secretFingerprint, secret.secret⟩ := by
  unfold credentialOf at h
  cases row with
  | none => exact absurd h nofun
  | some secret =>
    simp only at h
    split at h
    · exact absurd h nofun
    · rename_i hsame
      split at h
      · exact absurd h nofun
      · exact ⟨secret, rfl, not_not.mp hsame, (Except.ok.inj h).symm⟩

theorem credential_ok {db db' : SiteDb} (hi : SiteInv db) {apiClientId : String} {c : SiteCredential}
    (h : credential pf apiClientId db = .ok (some c, db')) : db' = db ∧ CredentialOf db apiClientId c := by
  unfold credential at h
  rw [readWith_bind_ok] at h
  simp only [id] at h
  cases hfound : (db.siteApiClientIds.find? fun m => m.apiClientId = apiClientId && m.retiredAt.isNone).filter
      fun _ => isSiteClientId apiClientId with
  | none =>
    simp only [hfound] at h
    exact absurd (pure_ok.mp h).1 nofun
  | some m =>
    simp only [hfound] at h
    obtain ⟨hfound, -⟩ := Option.filter_eq_some_iff.mp hfound
    have hmem := List.mem_of_find?_eq_some hfound
    obtain ⟨hid, hretired⟩ : m.apiClientId = apiClientId ∧ m.retiredAt = none := by
      simpa using List.find?_some hfound
    cases hrow : (siteRow m.clientId db).filter fun s => s.deletedAt.isNone with
    | none =>
      simp only [hrow] at h
      exact absurd (pure_ok.mp h).1 nofun
    | some site =>
      simp only [hrow] at h
      obtain ⟨hrow, hlive⟩ := Option.filter_eq_some_iff.mp hrow
      obtain ⟨hsite, hsiteId⟩ := siteRow_some hrow
      obtain ⟨snapshot, db1, h1, h⟩ := bind_ok.mp h
      unfold mapSite at h1
      rw [readWith_bind_ok] at h1
      obtain ⟨-, rfl⟩ := orFail_ok.mp h1
      cases hactive : (activeApiClient m.clientId db.identity).filter fun c => c.enabled with
      | none =>
        simp only [hactive] at h
        exact absurd (pure_ok.mp h).1 nofun
      | some active =>
        simp only [hactive] at h
        obtain ⟨hactive, henabled⟩ := Option.filter_eq_some_iff.mp hactive
        rw [valueOf_bind_ok] at h
        obtain ⟨c', hc, h⟩ := h
        obtain ⟨hsame, rfl⟩ := pure_ok.mp h
        obtain rfl := Option.some.inj hsame
        obtain ⟨secret, hsecret, hfingerprint, rfl⟩ := credentialOf_ok hc
        exact ⟨rfl, rfl, ⟨m, hmem, hid, rfl, hi.current m hmem hretired, hretired⟩,
          ⟨site, hsite, hsiteId, Option.isNone_iff_eq_none.mp hlive⟩, ⟨active, hactive, henabled, rfl, rfl⟩,
          ⟨secret, hsecret, rfl, hfingerprint⟩⟩

/-- An id that is retired is given no credential. -/
theorem no_credential_of_retired {db db' : SiteDb} (hi : SiteInv db) {m : SiteApiClientId} (hm : m ∈ db.siteApiClientIds)
    (hretired : m.retiredAt ≠ none) (c : SiteCredential) : credential pf m.apiClientId db ≠ .ok (some c, db') := by
  intro h
  obtain ⟨m', hm', hid, -, -, hnone⟩ := (credential_ok hi h).2.mapping
  exact hretired (hi.ids.eq hm hm' hid.symm ▸ hnone)

/-- All ids of a site that is deleted are retired. -/
theorem SiteInv.retired_of_deleted {db : SiteDb} (hi : SiteInv db) {t : SiteRow} (ht : t ∈ db.sites)
    (hdeleted : t.deletedAt ≠ none) {m : SiteApiClientId} (hm : m ∈ db.siteApiClientIds) (hid : m.clientId = t.clientId) :
    m.retiredAt ≠ none := by
  intro hnone
  obtain ⟨m', hm', hid', hcurrent', -, hiff⟩ := hi.named t ht
  have hsame := hi.single m hm m' hm' (hid.trans hid'.symm) (hi.current m hm hnone) hcurrent'
  exact hdeleted (hiff.mp (hsame ▸ hnone))

/-! ## Revisions -/

/-- The site was alive at this revision, and is at the next. -/
structure Raised (db : SiteDb) (clientId : String) (revision : Nat) (db' : SiteDb) : Prop where
  read : ∃ t ∈ db.sites, t.clientId = clientId ∧ t.revision = revision ∧ t.deletedAt = none
  written : ∃ t' ∈ db'.sites, t'.clientId = clientId ∧ t'.revision = revision + 1
  others : ∀ t, t.clientId ≠ clientId → (t ∈ db'.sites ↔ t ∈ db.sites)

theorem Advances.raised {db db' : SiteDb} {clientId : String} {revision : Nat} {f : SiteRow → SiteRow}
    (h : Advances db clientId revision f db') : Raised db clientId revision db' := by
  obtain ⟨t, ht, hselected⟩ := h.current
  obtain ⟨hid, hrevision, hlive⟩ := selectsSite_iff.mp hselected
  refine ⟨⟨t, ht, hid, hrevision, hlive⟩, ?_, fun x hx => ⟨fun hmem => ?_, fun hmem => ?_⟩⟩
  · rcases h.after ht with ⟨-, hnot⟩ | ⟨ht', hfollows, -⟩
    · exact absurd hselected (by simp [hnot])
    · obtain ⟨hid', -, hrevision', -⟩ := follows_iff.mp hfollows
      exact ⟨f t, ht', hid'.trans hid, by omega⟩
  · obtain ⟨y, hy, hyid, ⟨rfl, hselected'⟩ | ⟨rfl, -⟩⟩ := h.before hmem
    · exact absurd (hyid.trans (selectsSite_iff.mp hselected').1) hx
    · exact hy
  · rcases h.after hmem with ⟨ht', -⟩ | ⟨-, -, hselected'⟩
    · exact ht'
    · exact absurd (selectsSite_iff.mp hselected').1 hx

/-- The id that was asked for is the current one already: only the record is written. -/
structure OnlyRecorded (db : SiteDb) (clientId : String) (input : ChangeClientIdInput) (db' : SiteDb) : Prop where
  read : ∃ t ∈ db.sites, t.clientId = clientId ∧ t.revision = input.revision ∧ t.deletedAt = none
  unchanged : ∃ t ∈ db.sites, t.clientId = clientId ∧ snapshotOf db t = some ⟨t, input.clientId⟩
  sites : db'.sites = db.sites
  ids : db'.siteApiClientIds = db.siteApiClientIds

/-- Which revision an operation needs, and what it makes of it. -/
structure RevisionsChecked (pf : SitePlatform) (db : SiteDb) : Prop where
  create : ∀ env input snapshot db', create pf env input db = .ok (snapshot, db') →
    db' = db ∨ ∃ row : SiteRow, (∀ t ∈ db.sites, t.clientId ≠ row.clientId) ∧ db'.sites = db.sites ++ [row]
  changeClientId : ∀ env clientId input snapshot db', changeClientId pf env clientId input db = .ok (snapshot, db') →
    db' = db ∨ OnlyRecorded db clientId input db' ∨ Raised db clientId input.revision db'
  update : ∀ env clientId input snapshot db', updateConfiguration env clientId input db = .ok (snapshot, db') →
    Raised db clientId input.revision db'
  delete : ∀ env clientId revision u db', deleteSite env clientId revision db = .ok (u, db') → Raised db clientId revision db'
  rotateSecret : ∀ env clientId purpose revision result db',
    rotateSecret pf env clientId purpose revision db = .ok (result, db') → Raised db clientId revision db'

theorem revisionsChecked (pf : SitePlatform) (db : SiteDb) : RevisionsChecked pf db where
  create env input snapshot db' h := by
    obtain ⟨-, -, ⟨r, -, -, -, -, hsame⟩ | ⟨row, request, hcreates, -⟩⟩ := create_ok h
    · exact .inl hsame
    · exact .inr ⟨row, hcreates.unused.sites, hcreates.sites⟩
  changeClientId env clientId input snapshot db' h := by
    cases (changeClientId_ok h).2.2 with
    | replayed previous found operation site fingerprint same => exact .inl same
    | recorded change operation site fingerprint current records sites ids secrets unchanged =>
      obtain ⟨t, ht, hselected⟩ := current
      obtain ⟨hid, hrevision, hlive⟩ := selectsSite_iff.mp hselected
      exact .inr (.inl ⟨⟨t, ht, hid, hrevision, hlive⟩, unchanged, sites, ids⟩)
    | replaced change operation site fingerprint writtenAt records advances => exact .inr (.inr advances.raised)
  update env clientId input snapshot db' h := by
    obtain ⟨f, hadvances, -⟩ := updateConfiguration_ok h
    exact hadvances.raised
  delete env clientId revision u db' h := by
    obtain ⟨f, retiredAt, hadvances, -⟩ := deleteSite_ok h
    exact hadvances.raised
  rotateSecret env clientId purpose revision result db' h := by
    obtain ⟨f, hadvances, -⟩ := rotateSecret_ok h
    exact hadvances.raised

/-- A revision is good for one write: after it the site is past it for ever. -/
theorem Raised.once {db db1 db2 db3 : SiteDb} {clientId : String} {revision : Nat} (h : Raised db clientId revision db1)
    (hstays : Stays db1 db2) (hi : SiteInv db2) : ¬ Raised db2 clientId revision db3 := by
  rintro ⟨⟨t, ht, hid, hrevision, -⟩, -, -⟩
  obtain ⟨t1, ht1, hid1, hrevision1⟩ := h.written
  obtain ⟨t2, ht2, hid2, hrevision2, -⟩ := hstays.sites t1 ht1
  have hsame := hi.sites.eq ht ht2 (hid.trans (hid2.trans hid1).symm)
  rw [← hsame] at hrevision2
  omega

/-! ## Repeated operations -/

/-- The record of an operation that was committed. -/
def EntryRecorded (pf : SitePlatform) (db : SiteDb) : SiteEntry → Prop
  | .created input clientId => input.clientId.all isCreationClientId = true ∧
      input.configuration.notificationsEnabled = false ∧
      ∃ r ∈ db.siteCreationRequests, r.operationId = input.operationId ∧ r.requestFingerprint = pf.sha256 input.text ∧
        r.clientId = clientId
  | .idChanged clientId input => isSiteClientId clientId = true ∧ isCreationClientId input.clientId = true ∧
      ∃ c ∈ db.siteClientIdChanges, c.operationId = input.operationId ∧
        c.requestFingerprint = pf.sha256 (changeText clientId input.revision input.clientId) ∧ c.clientId = clientId

theorem EntryRecorded.stays {db db' : SiteDb} {e : SiteEntry} (h : EntryRecorded pf db e) (hs : RecordsStay db db') :
    EntryRecorded pf db' e := by
  cases e with
  | created input clientId =>
    obtain ⟨hvalid, hnotifications, r, hr, hrest⟩ := h
    exact ⟨hvalid, hnotifications, r, hs.1 hr, hrest⟩
  | idChanged clientId input =>
    obtain ⟨hvalid, hnext, c, hc, hrest⟩ := h
    exact ⟨hvalid, hnext, c, hs.2 hc, hrest⟩

theorem created_recorded {env : SiteEnvironment} {input : CreateSiteInput} {db db' : SiteDb} {snapshot : SiteSnapshot}
    (h : create pf env input db = .ok (snapshot, db')) : EntryRecorded pf db' (.created input snapshot.site.clientId) := by
  obtain ⟨hvalid, hnotifications, ⟨r, hr, ho, hf, hid, rfl⟩ | ⟨row, request, hcreates, ho, hf, hid⟩⟩ := create_ok h
  · exact ⟨hvalid, hnotifications, r, hr, ho, hf, hid⟩
  · refine ⟨hvalid, hnotifications, request, ?_, ho, hf, hid⟩
    rw [hcreates.requests]
    exact List.mem_append_right _ List.mem_cons_self

theorem changed_recorded {env : SiteEnvironment} {clientId : String} {input : ChangeClientIdInput} {db db' : SiteDb}
    {snapshot : SiteSnapshot} (h : changeClientId pf env clientId input db = .ok (snapshot, db')) :
    EntryRecorded pf db' (.idChanged clientId input) := by
  obtain ⟨hvalid, hnext, houtcome⟩ := changeClientId_ok h
  cases houtcome with
  | replayed previous found operation site fingerprint same =>
    exact ⟨hvalid, hnext, previous, same ▸ found, operation, fingerprint, site⟩
  | recorded change operation site fingerprint current records =>
    refine ⟨hvalid, hnext, change, ?_, operation, fingerprint, site⟩
    rw [records.changes]
    exact List.mem_append_right _ List.mem_cons_self
  | replaced change operation site fingerprint writtenAt records =>
    refine ⟨hvalid, hnext, change, ?_, operation, fingerprint, site⟩
    rw [records.changes]
    exact List.mem_append_right _ List.mem_cons_self

/-- What one operation adds to the log is in the records. -/
theorem performSite_log {s : SiteState} {op : SiteOperation} :
    ∀ e ∈ (performSite pf s op).log, e ∈ s.log ∨ EntryRecorded pf (performSite pf s op).db e := by
  have hkeep : ∀ {α : Type} (x : SiteTx α) (entries : α → List SiteEntry),
      (∀ a db', x s.db = .ok (a, db') → ∀ e ∈ entries a, EntryRecorded pf db' e) →
      ∀ e ∈ (s.commit x entries).log, e ∈ s.log ∨ EntryRecorded pf (s.commit x entries).db e := by
    intro α x entries hentries e he
    rcases commit_cases s x entries with ⟨a, db', hx, hs⟩ | ⟨-, hs⟩
    · rw [hs] at he ⊢
      rcases List.mem_append.mp he with hold | hnew
      · exact .inl hold
      · exact .inr (hentries a db' hx e hnew)
    · rw [hs] at he
      exact .inl he
  cases op with
  | create env input =>
    refine hkeep _ _ fun snapshot db' hx e he => ?_
    rw [List.mem_singleton.mp he]
    exact created_recorded hx
  | changeClientId env clientId input =>
    refine hkeep _ _ fun snapshot db' hx e he => ?_
    rw [List.mem_singleton.mp he]
    exact changed_recorded hx
  | update env clientId input => exact hkeep _ _ fun _ _ _ e he => absurd he List.not_mem_nil
  | delete env clientId revision => exact hkeep _ _ fun _ _ _ e he => absurd he List.not_mem_nil
  | rotateSecret env clientId purpose revision => exact hkeep _ _ fun _ _ _ e he => absurd he List.not_mem_nil
  | setAlipayAccounts accounts => exact fun e he => .inl he
  | setEpayKeySites sites => exact fun e he => .inl he
  | setOrderSites orders notified => exact fun e he => .inl he

theorem log_recorded {s : SiteState} (h : Runs.Reachable (siteSystem pf) s) : ∀ e ∈ s.log, EntryRecorded pf s.db e := by
  refine h.invariant (I := fun s => ∀ e ∈ s.log, EntryRecorded pf s.db e) (fun s h0 => ?_) fun s op s' hi hs => ?_
  · obtain rfl : s = SiteState.initial := h0
    exact fun e he => absurd he List.not_mem_nil
  · obtain rfl : s' = performSite pf s op := hs
    intro e he
    rcases performSite_log e he with hold | hnew
    · exact (hi e hold).stays (performSite_step s op).recordsStay
    · exact hnew

/-! ### What the fingerprints are taken of -/

theorem jsonText_injective : Function.Injective jsonText := by
  intro v w h
  refine Json.stringify_injective Json.decimal ?_
  have hlist := congrArg String.toList h
  unfold jsonText at hlist
  rwa [String.toList_ofList, String.toList_ofList] at hlist

theorem nullableText_injective : Function.Injective nullableText := by
  intro a b h
  cases a <;> cases b <;> simp_all [nullableText]

theorem nullableNumber_injective : Function.Injective nullableNumber := by
  intro a b h
  cases a <;> cases b <;> simp_all [nullableNumber]

theorem CollectionAccount.json_injective : Function.Injective CollectionAccount.json := by
  rintro ⟨accountId, weight⟩ ⟨accountId', weight'⟩ h
  simpa [CollectionAccount.json] using h

theorem SiteCollection.json_injective : Function.Injective SiteCollection.json := by
  rintro ⟨mode, accounts⟩ ⟨mode', accounts'⟩ h
  simp only [SiteCollection.json, Value.obj.injEq, List.cons.injEq, Prod.mk.injEq, Value.str.injEq, Value.arr.injEq, true_and,
    and_true] at h
  obtain ⟨hmode, haccounts⟩ := h
  have hsame : mode = mode' := by
    cases mode <;> cases mode' <;> simp_all [CollectionMode.name]
  rw [hsame, List.map_injective_iff.mpr CollectionAccount.json_injective haccounts]

theorem SitePolicy.json_injective : Function.Injective SitePolicy.json := by
  rintro ⟨⟨o1, o2, o3, o4⟩, ⟨d1, d2, d3⟩, ⟨n1, n2, n3, n4⟩⟩ ⟨⟨o1', o2', o3', o4'⟩, ⟨d1', d2', d3'⟩, ⟨n1', n2', n3', n4'⟩⟩ h
  simp only [SitePolicy.json, SiteOrderPolicy.json, SiteDisplay.json, SiteNotificationPolicy.json, Value.obj.injEq,
    List.cons.injEq, Prod.mk.injEq, Value.num.injEq, Value.str.injEq, Value.bool.injEq, true_and, and_true] at h
  obtain ⟨⟨rfl, rfl, rfl, h4⟩, ⟨rfl, h5, rfl⟩, rfl, rfl, rfl, rfl⟩ := h
  rw [nullableNumber_injective h4, nullableText_injective h5]

theorem SiteConfiguration.json_injective : Function.Injective SiteConfiguration.json := by
  rintro ⟨name, accepting, notifications, notification, return_, collection, policy⟩
    ⟨name', accepting', notifications', notification', return_', collection', policy'⟩ h
  cases collection <;> cases collection' <;>
    simp only [SiteConfiguration.json, optionalMember, Option.map_none, Option.map_some, List.cons_append, List.nil_append,
      Value.obj.injEq, List.cons.injEq, Prod.mk.injEq, Value.str.injEq, Value.bool.injEq, true_and, and_true,
      List.append_nil, reduceCtorEq, and_false] at h
  · obtain ⟨rfl, rfl, rfl, h4, h5, h6⟩ := h
    rw [nullableText_injective h4, nullableText_injective h5, SitePolicy.json_injective h6]
  · obtain ⟨rfl, rfl, rfl, h4, h5, h6, h7⟩ := h
    rw [nullableText_injective h4, nullableText_injective h5, SiteCollection.json_injective h6, SitePolicy.json_injective h7]

/-- A creation is known by its id and by what its fingerprint is taken of. -/
theorem CreateSiteInput.eq_of_text {input input' : CreateSiteInput} (hid : input.operationId = input'.operationId)
    (h : input.text = input'.text) : input = input' := by
  obtain ⟨operationId, clientId, configuration⟩ := input
  obtain ⟨operationId', clientId', configuration'⟩ := input'
  obtain rfl : operationId = operationId' := hid
  unfold CreateSiteInput.text at h
  cases clientId <;> cases clientId'
  · have hsame : configuration = configuration' := SiteConfiguration.json_injective (jsonText_injective h)
    rw [hsame]
  · exact absurd (jsonText_injective h) (by simp [SiteConfiguration.json])
  · exact absurd (jsonText_injective h) (by simp [SiteConfiguration.json])
  · have hsame := jsonText_injective h
    simp only [Value.obj.injEq, List.cons.injEq, Prod.mk.injEq, Value.str.injEq, true_and, and_true] at hsame
    rw [hsame.1, SiteConfiguration.json_injective hsame.2]

theorem changeText_eq {clientId clientId' : String} {input input' : ChangeClientIdInput}
    (hid : input.operationId = input'.operationId)
    (h : changeText clientId input.revision input.clientId = changeText clientId' input'.revision input'.clientId) :
    clientId = clientId' ∧ input = input' := by
  obtain ⟨operationId, revision, next⟩ := input
  obtain ⟨operationId', revision', next'⟩ := input'
  obtain rfl : operationId = operationId' := hid
  have hsame := jsonText_injective h
  simp only [Value.arr.injEq, List.cons.injEq, Value.str.injEq, Value.num.injEq, true_and, and_true] at hsame
  obtain ⟨rfl, rfl, rfl⟩ := hsame
  exact ⟨rfl, rfl⟩

/-! ### Answers from the records -/

/-- Every site has a snapshot. -/
theorem SiteInv.snapshot {db : SiteDb} (hi : SiteInv db) {t : SiteRow} (ht : t ∈ db.sites) :
    ∃ apiClientId, snapshotOf db t = some ⟨t, apiClientId⟩ := by
  obtain ⟨m, hm, hid, hcurrent, hvalid, -⟩ := hi.named t ht
  have hfound : (db.siteApiClientIds.find? fun m => m.clientId = t.clientId && m.isCurrent) = some m := by
    refine find?_eq_of_only hm (by simp [hid, hcurrent]) fun x hx hp => ?_
    obtain ⟨hxid, hxcurrent⟩ : x.clientId = t.clientId ∧ x.isCurrent = true := by simpa using hp
    exact hi.single x hx m hm (hxid.trans hid.symm) hxcurrent hcurrent
  refine ⟨m.apiClientId, ?_⟩
  unfold snapshotOf
  rw [hfound]
  simp [Option.filter, hvalid]

theorem SiteInv.mapSite {db : SiteDb} (hi : SiteInv db) {t : SiteRow} (ht : t ∈ db.sites) :
    ∃ snapshot, mapSite t db = .ok (snapshot, db) ∧ snapshot.site = t := by
  obtain ⟨apiClientId, hsnapshot⟩ := hi.snapshot ht
  refine ⟨⟨t, apiClientId⟩, ?_, rfl⟩
  unfold Sites.mapSite
  rw [readWith_bind, hsnapshot]
  rfl

theorem SiteInv.siteRow {db : SiteDb} (hi : SiteInv db) {t : SiteRow} (ht : t ∈ db.sites) :
    siteRow t.clientId db = some t := hi.sites.find?_eq ht

/-- The same creation again, at any time. -/
theorem create_repeated {db : SiteDb} (hi : SiteInv db) {input : CreateSiteInput} {clientId : String}
    (h : EntryRecorded pf db (.created input clientId)) (env : SiteEnvironment) :
    ∃ snapshot, create pf env input db = .ok (snapshot, db) ∧ snapshot.site.clientId = clientId := by
  obtain ⟨hvalid, hnotifications, r, hr, ho, hf, hid⟩ := h
  obtain ⟨t, ht, htid⟩ := hi.requested r hr
  obtain ⟨snapshot, hmap, hsite⟩ := hi.mapSite ht
  have hfound := hi.requests.find?_eq hr
  simp only [ho] at hfound
  have hrow := hi.siteRow ht
  rw [htid] at hrow
  refine ⟨snapshot, ?_, hsite ▸ htid.trans hid⟩
  unfold create
  rw [require_bind_met hvalid, require_bind_met hnotifications, readWith_bind, hfound]
  show (require (r.requestFingerprint = pf.sha256 input.text) _ >>= _) db = _
  rw [require_bind_met hf, readWith_bind, hrow]
  exact hmap

/-- Another creation with the id of one that was committed. -/
theorem create_conflicting {db : SiteDb} (hi : SiteInv db) {input input' : CreateSiteInput} {clientId : String}
    (h : EntryRecorded pf db (.created input clientId)) (hid : input'.operationId = input.operationId) (hne : input' ≠ input)
    (hsha : pf.sha256 input'.text = pf.sha256 input.text → input'.text = input.text) (env : SiteEnvironment) :
    ∃ e, create pf env input' db = .error e := by
  cases hx : create pf env input' db with
  | error e => exact ⟨e, rfl⟩
  | ok result =>
    obtain ⟨snapshot, db'⟩ := result
    obtain ⟨-, -, r, hr, ho, hf, -⟩ := h
    obtain ⟨-, -, ⟨r', hr', ho', hf', -⟩ | ⟨row, request, hcreates, ho', -⟩⟩ := create_ok hx
    · obtain rfl := hi.requests.eq hr hr' (ho.trans (ho'.trans hid).symm)
      exact absurd (CreateSiteInput.eq_of_text hid (hsha (hf'.symm.trans hf))) hne
    · exact absurd (ho.trans (ho'.trans hid).symm) (hcreates.fresh r hr)

theorem change_repeated {db : SiteDb} (hi : SiteInv db) {clientId : String} {input : ChangeClientIdInput}
    (h : EntryRecorded pf db (.idChanged clientId input)) (env : SiteEnvironment) :
    ∃ snapshot, changeClientId pf env clientId input db = .ok (snapshot, db) ∧ snapshot.site.clientId = clientId := by
  obtain ⟨hvalid, hnext, c, hc, ho, hf, hid⟩ := h
  obtain ⟨t, ht, htid⟩ := hi.changed c hc
  obtain ⟨snapshot, hmap, hsite⟩ := hi.mapSite ht
  have hfound := hi.changes.find?_eq hc
  simp only [ho] at hfound
  have hrow := hi.siteRow ht
  rw [htid, hid] at hrow
  refine ⟨snapshot, ?_, hsite ▸ htid.trans hid⟩
  unfold changeClientId
  rw [require_bind_met ⟨hvalid, hnext⟩, readWith_bind, hfound]
  show (require (c.clientId = clientId ∧ _) _ >>= _) db = _
  rw [require_bind_met ⟨hid, hf⟩, readWith_bind, hrow]
  exact hmap

theorem change_conflicting {db : SiteDb} (hi : SiteInv db) {clientId clientId' : String} {input input' : ChangeClientIdInput}
    (h : EntryRecorded pf db (.idChanged clientId input)) (hid : input'.operationId = input.operationId)
    (hne : (clientId', input') ≠ (clientId, input))
    (hsha : pf.sha256 (changeText clientId' input'.revision input'.clientId) =
        pf.sha256 (changeText clientId input.revision input.clientId) →
      changeText clientId' input'.revision input'.clientId = changeText clientId input.revision input.clientId)
    (env : SiteEnvironment) : ∃ e, changeClientId pf env clientId' input' db = .error e := by
  cases hx : changeClientId pf env clientId' input' db with
  | error e => exact ⟨e, rfl⟩
  | ok result =>
    obtain ⟨snapshot, db'⟩ := result
    obtain ⟨-, -, c, hc, ho, hf, -⟩ := h
    have hfresh : ∀ change, RecordsChange db change db' → change.operationId ≠ input'.operationId :=
      fun change records he => records.fresh c hc (ho.trans (he.trans hid).symm)
    cases (changeClientId_ok hx).2.2 with
    | replayed previous found operation site fingerprint same =>
      obtain rfl := hi.changes.eq hc found (ho.trans (operation.trans hid).symm)
      obtain ⟨hsite, hinput⟩ := changeText_eq hid (hsha (fingerprint.symm.trans hf))
      exact absurd (by rw [hsite, hinput]) hne
    | recorded change operation site fingerprint current records => exact absurd operation (hfresh change records)
    | replaced change operation site fingerprint writtenAt records => exact absurd operation (hfresh change records)

/-! ## Over whole runs -/

/-- What the tables say at one time. -/
structure IdsBound (pf : SitePlatform) (db : SiteDb) : Prop where
  /-- a public id is in one row, so it names at most one site -/
  one_site : ∀ m ∈ db.siteApiClientIds, ∀ m' ∈ db.siteApiClientIds, m.apiClientId = m'.apiClientId → m = m'
  /-- a site that lives has exactly one public id that is not retired, and it is the current one -/
  one_current : ∀ t ∈ db.sites, t.deletedAt = none →
    ∃ m ∈ db.siteApiClientIds, (m.clientId = t.clientId ∧ m.retiredAt = none ∧ m.isCurrent = true) ∧
      ∀ m' ∈ db.siteApiClientIds, m'.clientId = t.clientId → (m'.retiredAt = none ∨ m'.isCurrent = true) → m' = m
  /-- credentials are given for current ids only -/
  credentials : ∀ apiClientId c db', credential pf apiClientId db = .ok (some c, db') →
    db' = db ∧ CredentialOf db apiClientId c
  revisions : RevisionsChecked pf db

theorem SiteInv.bound {db : SiteDb} (hi : SiteInv db) : IdsBound pf db where
  one_site m hm m' hm' hid := hi.ids.eq hm hm' hid
  one_current := by
    intro t ht hlive
    obtain ⟨m, hm, hid, hcurrent, -, hiff⟩ := hi.named t ht
    refine ⟨m, hm, ⟨hid, hiff.mpr hlive, hcurrent⟩, fun m' hm' hid' h => ?_⟩
    have hcurrent' : m'.isCurrent = true := h.elim (hi.current m' hm') id
    exact hi.single m' hm' m hm (hid'.trans hid.symm) hcurrent' hcurrent
  credentials _ _ _ h := credential_ok hi h
  revisions := revisionsChecked pf db

/-- What a later state still says about an earlier one. -/
structure BoundForEver (pf : SitePlatform) (s s' : SiteState) : Prop where
  /-- an id stays with its site -/
  binding : ∀ m ∈ s.db.siteApiClientIds, ∀ m' ∈ s'.db.siteApiClientIds, m'.apiClientId = m.apiClientId →
    m'.clientId = m.clientId
  known : ∀ m ∈ s.db.siteApiClientIds, ∃ m' ∈ s'.db.siteApiClientIds, m'.apiClientId = m.apiClientId
  retired : ∀ m ∈ s.db.siteApiClientIds, m.retiredAt ≠ none →
    ∀ c db', credential pf m.apiClientId s'.db ≠ .ok (some c, db')
  deleted : ∀ t ∈ s.db.sites, t.deletedAt ≠ none → ∀ m ∈ s.db.siteApiClientIds, m.clientId = t.clientId →
    ∀ c db', credential pf m.apiClientId s'.db ≠ .ok (some c, db')
  /-- what was written with a revision before `s` is not written over with the same revision -/
  once : ∀ db clientId revision, Raised db clientId revision s.db → ∀ db', ¬ Raised s'.db clientId revision db'
  created : ∀ input clientId, .created input clientId ∈ s.log → ∀ env,
    (∃ snapshot, create pf env input s'.db = .ok (snapshot, s'.db) ∧ snapshot.site.clientId = clientId) ∧
      ∀ input', input'.operationId = input.operationId → input' ≠ input →
        (pf.sha256 input'.text = pf.sha256 input.text → input'.text = input.text) →
        ∃ e, create pf env input' s'.db = .error e
  changed : ∀ clientId input, .idChanged clientId input ∈ s.log → ∀ env,
    (∃ snapshot, changeClientId pf env clientId input s'.db = .ok (snapshot, s'.db) ∧
      snapshot.site.clientId = clientId) ∧
      ∀ clientId' input', input'.operationId = input.operationId → (clientId', input') ≠ (clientId, input) →
        (pf.sha256 (changeText clientId' input'.revision input'.clientId) =
            pf.sha256 (changeText clientId input.revision input.clientId) →
          changeText clientId' input'.revision input'.clientId = changeText clientId input.revision input.clientId) →
        ∃ e, changeClientId pf env clientId' input' s'.db = .error e

theorem boundForEver {s s' : SiteState} {ops : List SiteOperation} (h : Runs.Reachable (siteSystem pf) s)
    (hp : Runs.Path (siteSystem pf) s ops s') : BoundForEver pf s s' := by
  have hi := siteInv_of_reachable h
  have hi' := siteInv_of_reachable (h.path hp)
  have hstays := stays_of_path hp
  have hretired : ∀ m ∈ s.db.siteApiClientIds, m.retiredAt ≠ none →
      ∀ c db', credential pf m.apiClientId s'.db ≠ .ok (some c, db') := by
    intro m hm hr c db'
    obtain ⟨m', hm', hid, -, hr'⟩ := hstays.ids m hm
    rw [← hid]
    exact no_credential_of_retired hi' hm' (hr' hr) c
  exact {
    binding := by
      intro m hm m' hm' hid
      obtain ⟨x, hx, hxid, hxsite, -⟩ := hstays.ids m hm
      rw [hi'.ids.eq hm' hx (hid.trans hxid.symm), hxsite]
    known := fun m hm => by
      obtain ⟨x, hx, hxid, -⟩ := hstays.ids m hm
      exact ⟨x, hx, hxid⟩
    retired := hretired
    deleted := fun t ht hd m hm hid => hretired m hm (hi.retired_of_deleted ht hd hm hid)
    once := fun db clientId revision hraised db' => hraised.once hstays hi'
    created := fun input clientId hlog env => by
      have hrecorded := (log_recorded h _ hlog).stays hstays.records
      exact ⟨create_repeated hi' hrecorded env, fun input' hid hne hsha => create_conflicting hi' hrecorded hid hne hsha env⟩
    changed := fun clientId input hlog env => by
      have hrecorded := (log_recorded h _ hlog).stays hstays.records
      exact ⟨change_repeated hi' hrecorded env,
        fun clientId' input' hid hne hsha => change_conflicting hi' hrecorded hid hne hsha env⟩ }

/-- **Public client ids are never reused**: at any time they name at most one site each, and what they name,
    what is retired and what was answered stays so. -/
theorem client_ids_never_reused {s : SiteState} (h : Runs.Reachable (siteSystem pf) s) :
    IdsBound pf s.db ∧ ∀ ops s', Runs.Path (siteSystem pf) s ops s' → BoundForEver pf s s' :=
  ⟨(siteInv_of_reachable h).bound, fun _ _ hp => boundForEver h hp⟩

/-! A site that is made, renamed while the clock steps back, and deleted. -/

def samplePlatform : SitePlatform := ⟨id, fun _ secret => secret⟩

def sampleSiteEnvironment (now : Nat) : SiteEnvironment := ⟨now, "5f0c", "c2VjcmV0", .ok ()⟩

def sampleConfiguration : SiteConfiguration where
  name := "Shop"
  acceptingOrders := true
  notificationsEnabled := false
  notificationOrigin := none
  returnOrigin := none
  collection := none
  policy := ⟨⟨900, 9, 60, none⟩, ⟨"Shop", none, true⟩, ⟨5000, 8, 30, 3600⟩⟩

def sampleOperations : List SiteOperation :=
  [.setAlipayAccounts [⟨"account", true, none⟩],
    .create (sampleSiteEnvironment 2000) ⟨"operation-1", some "shop", sampleConfiguration⟩,
    .changeClientId (sampleSiteEnvironment 1000) "shop" ⟨"operation-2", 0, "market"⟩,
    .delete (sampleSiteEnvironment 1500) "shop" 1]

def sampleSites : SiteState := sampleOperations.foldl (performSite samplePlatform) SiteState.initial

theorem client_ids_never_reused_sample :
    sampleSites.db.siteApiClientIds = [⟨"shop", "shop", false, 2000, some 2001⟩, ⟨"market", "shop", true, 2001, some 2001⟩] ∧
      IdsBound samplePlatform sampleSites.db ∧
      ∀ ops s', Runs.Path (siteSystem samplePlatform) sampleSites ops s' → BoundForEver samplePlatform sampleSites s' :=
  ⟨by decide +kernel, client_ids_never_reused (Runs.Reachable.foldl (fun _ _ => rfl) sampleOperations ⟨[], .start rfl⟩)⟩

end PerPay.Sites
