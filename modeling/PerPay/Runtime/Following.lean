/-
  **The workers the accounts ask for.**

  An apply works with the accounts as it found them.  What an account asks for changes only while its
  transition is open, or between the creation of the account and the operation that is queued with it; so for an
  account that is settled, the accounts the apply found are as good as those that are there when it ends.
  And a worker is built from an account at one revision, which is never used again for other keys.

  That leaves the schedulers themselves.  `findsLive` says what an apply takes for granted: that what it keeps has not
  been stopped.
-/
import PerPay.Runtime.Workers

namespace PerPay.Runtime

/-! ## Revisions -/

/-- `account` came before `later`, or asks for the same. -/
def AlipayAccount.Before (account later : AlipayAccount) : Prop :=
  account.revision ≤ later.revision ∧ (account.revision = later.revision → account.target = later.target)

theorem AlipayAccount.Before.refl (account : AlipayAccount) : account.Before account := ⟨le_refl _, fun _ => rfl⟩

theorem AlipayAccount.Before.trans {a b c : AlipayAccount} (h : a.Before b) (h' : b.Before c) : a.Before c := by
  refine ⟨le_trans h.1 h'.1, fun he => ?_⟩
  have hab : a.revision = b.revision := le_antisymm h.1 (he ▸ h'.1)
  rw [h.2 hab, h'.2 (hab ▸ he)]

/-- What the accounts ask for -/
def wanted (accounts : Accounts) (accountId : String) : Option (ProviderSettings × String) :=
  (accounts.lookup accountId).bind (·.target)

/-- Accounts are written, and stay. -/
def Grows (accounts accounts' : Accounts) : Prop :=
  ∀ id a, accounts.lookup id = some a → ∃ a', accounts'.lookup id = some a' ∧ a.Before a'

theorem Grows.refl (accounts : Accounts) : Grows accounts accounts := fun _ a h => ⟨a, h, .refl a⟩

theorem Grows.trans {a b c : Accounts} (h : Grows a b) (h' : Grows b c) : Grows a c := by
  intro id x hx
  obtain ⟨y, hy, hxy⟩ := h id x hx
  obtain ⟨z, hz, hyz⟩ := h' id y hy
  exact ⟨z, hz, hxy.trans hyz⟩

/-! ## Workers -/

/-- A worker is built from its account. -/
def AccountWorker.Built (worker : AccountWorker) : Prop :=
  worker.scheduler.started = true ∧
  worker.account.target = some (worker.scheduler.provider, worker.scheduler.providerAccountKey)

/-- Every worker is built from its account, as it is or as it was. -/
def Tracked (accounts : Accounts) (workers : Workers) : Prop :=
  ∀ id w, workers.lookup id = some w → w.Built ∧ ∃ a, accounts.lookup id = some a ∧ w.account.Before a

theorem Tracked.grows {accounts accounts' : Accounts} {workers : Workers} (h : Tracked accounts workers)
    (hg : Grows accounts accounts') : Tracked accounts' workers := by
  intro id w hw
  obtain ⟨hbuilt, a, ha, hbefore⟩ := h id w hw
  obtain ⟨a', ha', hbefore'⟩ := hg id a ha
  exact ⟨hbuilt, a', ha', hbefore.trans hbefore'⟩

theorem Tracked.markStopped {c : Controller} (h : Tracked c.accounts c.workers) (id : String) :
    Tracked (c.markStopped id).accounts (c.markStopped id).workers := by
  obtain ⟨workers, he, hw⟩ := c.markStopped_eq id
  rw [he]
  intro x w hx
  rw [hw] at hx
  split at hx
  · next heq =>
      obtain ⟨w', hw', rfl⟩ := Option.map_eq_some_iff.mp hx
      subst heq
      exact h x w' hw'
  · exact h x w hx

theorem Tracked.deleteWorker {c : Controller} (h : Tracked c.accounts c.workers) (id : String) :
    Tracked (c.deleteWorker id).accounts (c.deleteWorker id).workers := by
  obtain ⟨workers, retired, he, hw, -⟩ := c.deleteWorker_eq id
  rw [he]
  intro x w hx
  rw [hw] at hx
  split at hx
  · nomatch hx
  · exact h x w hx

/-! ## The condition -/

/-- What an apply keeps, runs; and the controller was started, and has something to apply. -/
def Controller.findsLive (c : Controller) : Bool :=
  c.stopped ||
  match c.running, c.queue with
  | none, .applyAccounts _ :: _ => c.snapshot.isSome || c.transitioning
  | some (.keeping application (accountId :: _)), _ =>
    (c.workers.lookup accountId).all fun worker => !application.keeps accountId worker || !worker.scheduler.stopped
  | some (.keeping _ []), _ => c.started && c.reconciliationScheduler.all fun r => !r.stopped
  | _, _ => true

/-- The runs in which the operations find what they keep running. -/
def liveSystem : Runs.System Controller Call :=
  controllerSystem.restrict fun c call => (∃ succeeds, call = .advance succeeds) → c.findsLive = true

/-! ## What holds in these runs -/

/-- No transition of the account is open, and nothing is queued for it. -/
def Controller.Settled (c : Controller) (accountId : String) : Prop :=
  accountId ∉ c.accountTransitions ∧ Operation.applyAccounts accountId ∉ c.queue

/-- The worker is what the accounts ask for, and runs. -/
def Serves (accounts : Accounts) (accountId : String) (worker : AccountWorker) : Prop :=
  wanted accounts accountId = some (worker.scheduler.provider, worker.scheduler.providerAccountKey) ∧
  worker.scheduler.started = true ∧ worker.scheduler.stopped = false

/-- The accounts an apply works with, and those that are there -/
structure Captured (c : Controller) (application : Application) : Prop where
  grows : Grows application.accounts c.accounts
  settled : ∀ id, c.Settled id → wanted application.accounts id = wanted c.accounts id
  workers : ∀ id w a, c.workers.lookup id = some w → application.accounts.lookup id = some a →
    w.account.revision = a.revision → w.account.target = a.target

/-- A reconciliation scheduler that is not stopped is installed. -/
def Controller.Reconciles (c : Controller) : Prop := ∃ r, c.reconciliationScheduler = some r ∧ r.stopped = false

/-- What the loop that creates has done, up to the accounts in `rest` -/
structure Created (c : Controller) (application : Application) (rest : List String) : Prop extends Captured c application where
  serves : ∀ id w, c.workers.lookup id = some w → Serves application.accounts id w
  created : ∀ id, id ∉ rest → id ∉ c.accountTransitions → (wanted application.accounts id).isSome = true →
    (c.workers.lookup id).isSome = true
  reconciles : c.Reconciles

/-- What the loop that stops has done, up to the accounts in `rest` -/
structure Kept (c : Controller) (application : Application) (rest : List String) : Prop extends Captured c application where
  serves : ∀ id w, c.workers.lookup id = some w → id ∈ rest ∨ Serves application.accounts id w

def StageFollows (c : Controller) : Stage → Prop
  | .keeping application rest => Kept c application rest
  | .stoppingWorker application id rest => Kept c application (id :: rest)
  | .creating application rest => Created c application rest
  | .webhooks application => Created c application []
  | _ => True

/-- The accounts that are settled have the workers they ask for, and no others. -/
structure Controller.Follows (c : Controller) : Prop where
  serves : ∀ id, c.Settled id → ∀ w, c.workers.lookup id = some w → Serves c.accounts id w
  created : ∀ id, c.Settled id → (wanted c.accounts id).isSome = true → (c.workers.lookup id).isSome = true
  reconciles : c.Reconciles

/-- Where the controller rests after an apply that succeeded, or works on one -/
def Controller.OnTrack (c : Controller) : Prop :=
  match c.running with
  | none => c.applied = true → c.transitioning = false → c.Follows
  | some stage => StageFollows c stage

structure Following (c : Controller) : Prop where
  tracked : Tracked c.accounts c.workers
  onTrack : c.stopped = false → c.OnTrack

/-! ## What comes in beside the queue -/

/-- A step that leaves the workers and the running operation alone. -/
structure Aside (c c' : Controller) : Prop where
  workers : c'.workers = c.workers
  reconciliation : c'.reconciliationScheduler = c.reconciliationScheduler
  running : c'.running = c.running
  applied : c'.applied = c.applied
  stopped : c'.stopped = false → c.stopped = false
  transitioning : c'.transitioning = false → c.transitioning = false
  transitions : ∀ id ∈ c.accountTransitions, id ∈ c'.accountTransitions
  grows : Grows c.accounts c'.accounts
  settled : ∀ id, c'.Settled id → c.Settled id ∧ wanted c'.accounts id = wanted c.accounts id

section
variable {c c' : Controller} {application : Application}

theorem Captured.aside (h : Captured c application) (ha : Aside c c') : Captured c' application where
  grows := h.grows.trans ha.grows
  settled id hid := by
    obtain ⟨hid, hw⟩ := ha.settled id hid
    rw [hw, h.settled id hid]
  workers id w a hw := h.workers id w a (ha.workers ▸ hw)

theorem Controller.Reconciles.aside (h : c.Reconciles) (ha : Aside c c') : c'.Reconciles := by
  obtain ⟨r, hr, hlive⟩ := h
  exact ⟨r, ha.reconciliation ▸ hr, hlive⟩

theorem Created.aside {rest : List String} (h : Created c application rest) (ha : Aside c c') : Created c' application rest where
  toCaptured := h.toCaptured.aside ha
  serves id w hw := h.serves id w (ha.workers ▸ hw)
  created id hrest htransition hwanted := by
    rw [ha.workers]
    exact h.created id hrest (fun hid => htransition (ha.transitions id hid)) hwanted
  reconciles := h.reconciles.aside ha

theorem Kept.aside {rest : List String} (h : Kept c application rest) (ha : Aside c c') : Kept c' application rest where
  toCaptured := h.toCaptured.aside ha
  serves id w hw := h.serves id w (ha.workers ▸ hw)

theorem Controller.Follows.aside (h : c.Follows) (ha : Aside c c') : c'.Follows where
  serves id hid w hw := by
    obtain ⟨hid, hwanted⟩ := ha.settled id hid
    unfold Serves
    rw [hwanted]
    exact h.serves id hid w (ha.workers ▸ hw)
  created id hid := by
    obtain ⟨hid, hwanted⟩ := ha.settled id hid
    rw [hwanted, ha.workers]
    exact h.created id hid
  reconciles := h.reconciles.aside ha

theorem Controller.OnTrack.aside (h : c.OnTrack) (ha : Aside c c') : c'.OnTrack := by
  unfold Controller.OnTrack at h ⊢
  rw [ha.running]
  match c.running, h with
  | none, h => exact fun happlied htransitioning =>
      (h (ha.applied ▸ happlied) (ha.transitioning htransitioning)).aside ha
  | some (.keeping ..), h => exact Kept.aside h ha
  | some (.stoppingWorker ..), h => exact Kept.aside h ha
  | some (.creating ..), h => exact Created.aside h ha
  | some (.webhooks _), h => exact Created.aside h ha
  | some (.pausing _), _ | some (.pausingWorker ..), _ | some (.pausingReconciliation _), _ | some (.stoppingAccount _), _ =>
    trivial

theorem Following.aside (h : Following c) (ha : Aside c c') : Following c' where
  tracked := ha.workers ▸ h.tracked.grows ha.grows
  onTrack hstopped := (h.onTrack (ha.stopped hstopped)).aside ha

end

/-- An operation is put into the queue, and flags are set. -/
theorem Aside.enqueue {c c' : Controller} (operation : Operation) (hqueue : c'.queue = c.queue ++ [operation])
    (hworkers : c'.workers = c.workers) (hreconciliation : c'.reconciliationScheduler = c.reconciliationScheduler)
    (hrunning : c'.running = c.running) (happlied : c'.applied = c.applied) (hstopped : c'.stopped = c.stopped)
    (htransitioning : c'.transitioning = false → c.transitioning = false)
    (htransitions : ∀ id ∈ c.accountTransitions, id ∈ c'.accountTransitions) (haccounts : c'.accounts = c.accounts) :
    Aside c c' where
  workers := hworkers
  reconciliation := hreconciliation
  running := hrunning
  applied := happlied
  stopped := hstopped ▸ id
  transitioning := htransitioning
  transitions := htransitions
  grows := haccounts ▸ Grows.refl _
  settled id hid := by
    refine ⟨⟨fun h => hid.1 (htransitions id h), fun h => hid.2 ?_⟩, by rw [haccounts]⟩
    rw [hqueue]
    exact List.mem_append_left _ h

theorem Aside.createAccount {c : Controller} {id : String} {account : AlipayAccount} (hnew : c.accounts.lookup id = none) :
    Aside c (({ c with accounts := c.accounts.insert id account }).enqueue (.applyAccounts id)) where
  workers := rfl
  reconciliation := rfl
  running := rfl
  applied := rfl
  stopped h := h
  transitioning h := h
  transitions _ h := h
  grows x a ha := by
    have hne : x ≠ id := by
      rintro rfl
      rw [hnew] at ha
      nomatch ha
    exact ⟨a, by rw [← ha]; exact AList.lookup_insert_ne hne, .refl a⟩
  settled x hx := by
    have hne : x ≠ id := by
      rintro rfl
      exact hx.2 (List.mem_append_right _ List.mem_cons_self)
    refine ⟨⟨hx.1, fun h => hx.2 (List.mem_append_left _ h)⟩, ?_⟩
    exact congrArg (Option.bind · AlipayAccount.target) (AList.lookup_insert_ne hne)

theorem Aside.writeAccount {c : Controller} {id : String} {account : AlipayAccount} (hw : c.mayWrite id account = true) :
    Aside c { c with accounts := c.accounts.replace id account } := by
  unfold Controller.mayWrite at hw
  cases hcurrent : c.accounts.lookup id with
  | none =>
    rw [hcurrent] at hw
    nomatch hw
  | some current =>
    rw [hcurrent, Option.any_some, Bool.and_eq_true, decide_eq_true_eq, Bool.or_eq_true, List.contains_iff_mem,
      decide_eq_true_eq] at hw
    obtain ⟨hrevision, hkeys⟩ := hw
    have hbefore : current.Before account := ⟨Nat.le_of_lt hrevision, fun he => absurd he (Nat.ne_of_lt hrevision)⟩
    refine ⟨rfl, rfl, rfl, rfl, fun h => h, fun h => h, fun _ h => h, fun x a ha => ?_, fun x hx => ⟨hx, ?_⟩⟩
    · show ∃ a', (c.accounts.replace id account).lookup x = some a' ∧ a.Before a'
      rw [lookup_replace]
      split
      · next hid =>
          subst hid
          rw [hcurrent] at ha ⊢
          exact ⟨account, rfl, Option.some.inj ha ▸ hbefore⟩
      · exact ⟨a, ha, .refl a⟩
    · show ((c.accounts.replace id account).lookup x).bind _ = _
      rw [lookup_replace]
      split
      · next hid =>
          subst hid
          unfold wanted
          rw [hcurrent]
          exact (hkeys.resolve_left hx.1).symm
      · rfl

/-! ## The queue -/

section
variable {c : Controller} {application : Application}

/-- The accounts are captured when an application begins. -/
theorem Following.beginApplication (h : Tracked c.accounts c.workers) (paymentRevision : Nat) (succeeds : Bool) :
    Following (c.beginApplication paymentRevision succeeds) := by
  cases succeeds with
  | false => exact ⟨h, fun _ happlied => nomatch happlied⟩
  | true =>
    refine ⟨h, fun _ => ⟨⟨.refl _, fun _ _ => rfl, fun id w a hw ha he => ?_⟩, fun id w hw => .inl ?_⟩⟩
    · obtain ⟨-, a', ha', hbefore⟩ := h id w hw
      rw [← Option.some.inj (ha'.symm.trans ha)]
      rw [← Option.some.inj (ha'.symm.trans ha)] at he
      exact hbefore.2 he
    · exact AList.mem_keys.mp (AList.lookup_isSome.mp (hw ▸ rfl))

/-- A worker that is kept is what its account asks for, and runs. -/
theorem Kept.serves_of_keeps {id : String} {rest : List String} {w : AccountWorker} (h : Kept c application (id :: rest))
    (hbuilt : w.Built) (hw : c.workers.lookup id = some w) (hkeeps : application.keeps id w = true)
    (hlive : w.scheduler.stopped = false) : Serves application.accounts id w := by
  unfold Application.keeps at hkeeps
  cases ha : application.accounts.lookup id with
  | none =>
    rw [ha] at hkeeps
    nomatch hkeeps
  | some a =>
    rw [ha, Option.any_some, Bool.and_eq_true, Bool.and_eq_true, decide_eq_true_eq] at hkeeps
    refine ⟨?_, hbuilt.1, hlive⟩
    unfold wanted
    rw [ha, Option.bind_some, ← h.workers id w a hw ha hkeeps.1.2.symm]
    exact hbuilt.2

/-- The workers an application has left are the ones it had, some of them stopped. -/
theorem Captured.stopped {workers : Workers} (h : Captured c application)
    (hw : ∀ x w, workers.lookup x = some w → ∃ w', c.workers.lookup x = some w' ∧ w.account = w'.account) :
    Captured { c with workers := workers } application where
  grows := h.grows
  settled := h.settled
  workers x w a hx ha he := by
    obtain ⟨w', hw', hsame⟩ := hw x w hx
    rw [hsame] at he ⊢
    exact h.workers x w' a hw' ha he

theorem Kept.keepWorker {id : String} {rest : List String} (h : Kept c application (id :: rest))
    (ht : Tracked c.accounts c.workers)
    (hlive : ∀ w, c.workers.lookup id = some w → application.keeps id w = true → w.scheduler.stopped = false) :
    (c.keepWorker application id rest).OnTrack := by
  unfold Controller.keepWorker
  cases hw : c.workers.lookup id with
  | none =>
    refine ⟨⟨h.grows, h.settled, h.workers⟩, fun x w hx => ?_⟩
    rcases h.serves x w hx with hmem | hserves
    · rcases List.mem_cons.mp hmem with rfl | hmem
      · nomatch hw.symm.trans hx
      · exact .inl hmem
    · exact .inr hserves
  | some w =>
    dsimp only
    split
    · next hkeeps =>
        refine ⟨⟨h.grows, h.settled, h.workers⟩, fun x w' hx => ?_⟩
        rcases h.serves x w' hx with hmem | hserves
        · rcases List.mem_cons.mp hmem with rfl | hmem
          · rw [← Option.some.inj (hw.symm.trans hx)]
            exact .inr (h.serves_of_keeps (ht x w hw).1 hw hkeeps (hlive w hw hkeeps))
          · exact .inl hmem
        · exact .inr hserves
    · obtain ⟨workers, he, hlookup⟩ := c.markStopped_eq id
      rw [he]
      have hsame : ∀ x w, workers.lookup x = some w → ∃ w', c.workers.lookup x = some w' ∧ w.account = w'.account := by
        intro x w hx
        rw [hlookup] at hx
        split at hx
        · next hid =>
            obtain ⟨w', hw', rfl⟩ := Option.map_eq_some_iff.mp hx
            exact ⟨w', hid ▸ hw', rfl⟩
        · exact ⟨w, hx, rfl⟩
      have hcaptured := h.toCaptured.stopped hsame
      refine ⟨⟨hcaptured.grows, hcaptured.settled, hcaptured.workers⟩, fun x w' hx => ?_⟩
      have hx' := hlookup x ▸ hx
      split at hx'
      · next hid => exact .inl (hid ▸ List.mem_cons_self)
      · exact h.serves x w' hx'

theorem Kept.deleteWorker {id : String} {rest : List String} (h : Kept c application (id :: rest)) :
    ((c.deleteWorker id).continueWith (.keeping application rest)).OnTrack := by
  obtain ⟨workers, retired, he, hlookup, -⟩ := c.deleteWorker_eq id
  rw [he]
  have hkept : ∀ x w, workers.lookup x = some w → x ≠ id ∧ c.workers.lookup x = some w := by
    intro x w hx
    rw [hlookup] at hx
    split at hx
    · nomatch hx
    · next hne => exact ⟨hne, hx⟩
  have hcaptured := h.toCaptured.stopped fun x w hx => ⟨w, (hkept x w hx).2, rfl⟩
  refine ⟨⟨hcaptured.grows, hcaptured.settled, hcaptured.workers⟩, fun x w hx => ?_⟩
  obtain ⟨hne, hx⟩ := hkept x w hx
  exact (h.serves x w hx).imp_left fun hmem => (List.mem_cons.mp hmem).resolve_left hne

/-- All workers that are left serve their accounts; those that are missing are created next. -/
theorem Kept.installReconciliation (h : Kept c application []) (hstarted : c.started = true) (hstopped : c.stopped = false)
    (hlive : ∀ r, c.reconciliationScheduler = some r → r.stopped = false) : (c.installReconciliation application).OnTrack where
  grows := h.grows
  settled := h.settled
  workers := h.workers
  serves id w hw := (h.serves id w hw).resolve_left List.not_mem_nil
  created id hid _ hwanted := by
    have hmem := hid ∘ AList.mem_keys.mp
    unfold wanted at hwanted
    rw [AList.lookup_eq_none.mpr hmem] at hwanted
    nomatch hwanted
  reconciles := by
    unfold Controller.installReconciliation Controller.Reconciles
    rw [hstarted, hstopped]
    cases hr : c.reconciliationScheduler with
    | none => exact ⟨⟨true, false⟩, rfl, rfl⟩
    | some r => exact ⟨r, rfl, hlive r hr⟩

theorem Created.next {id : String} {rest : List String} (h : Created c application (id :: rest))
    (hid : id ∈ c.accountTransitions ∨ wanted application.accounts id = none ∨ (c.workers.lookup id).isSome = true) :
    (c.continueWith (.creating application rest)).OnTrack where
  grows := h.grows
  settled := h.settled
  workers := h.workers
  serves := h.serves
  created x hx htransition hwanted := by
    by_cases hxid : x = id
    · subst hxid
      rcases hid with hid | hid | hid
      · exact absurd hid htransition
      · rw [hid] at hwanted
        nomatch hwanted
      · exact hid
    · exact h.created x (fun hmem => (List.mem_cons.mp hmem).elim hxid hx) htransition hwanted
  reconciles := h.reconciles

theorem Created.insert {id key : String} {rest : List String} {account : AlipayAccount} {provider : ProviderSettings}
    (h : Created c application (id :: rest)) (haccount : application.accounts.lookup id = some account)
    (htarget : account.target = some (provider, key)) :
    (({ c with workers := c.workers.insert id ⟨account, provider, key, true, false⟩ }).continueWith
      (.creating application rest)).OnTrack where
  grows := h.grows
  settled := h.settled
  workers x w a hx ha he := by
    replace hx : (c.workers.insert id ⟨account, provider, key, true, false⟩).lookup x = some w := hx
    by_cases hxid : x = id
    · subst hxid
      rw [AList.lookup_insert] at hx
      rw [← Option.some.inj hx]
      exact congrArg AlipayAccount.target (Option.some.inj (haccount.symm.trans ha))
    · rw [AList.lookup_insert_ne hxid] at hx
      exact h.workers x w a hx ha he
  serves x w hx := by
    replace hx : (c.workers.insert id ⟨account, provider, key, true, false⟩).lookup x = some w := hx
    by_cases hxid : x = id
    · subst hxid
      rw [AList.lookup_insert] at hx
      rw [← Option.some.inj hx]
      exact ⟨by unfold wanted; rw [haccount]; exact htarget, rfl, rfl⟩
    · rw [AList.lookup_insert_ne hxid] at hx
      exact h.serves x w hx
  created x hx htransition hwanted := by
    show ((c.workers.insert id ⟨account, provider, key, true, false⟩).lookup x).isSome = true
    by_cases hxid : x = id
    · subst hxid
      rw [AList.lookup_insert]
      rfl
    · rw [AList.lookup_insert_ne hxid]
      exact h.created x (fun hmem => (List.mem_cons.mp hmem).elim hxid hx) htransition hwanted
  reconciles := h.reconciles

theorem Following.createWorker {id : String} {rest : List String} (ht : Tracked c.accounts c.workers)
    (h : c.stopped = false → Created c application (id :: rest)) (succeeds : Bool) :
    Following (c.createWorker application id rest succeeds) := by
  unfold Controller.createWorker
  split
  · next hnone =>
      refine ⟨ht, fun hstopped => (h hstopped).next (.inr (.inl ?_))⟩
      cases ha : application.accounts.lookup id with
      | none => exact Option.bind_eq_none_iff.mpr fun a h' => nomatch ha.symm.trans h'
      | some a =>
        rw [ha, Option.bind_some, Option.map_eq_none_iff] at hnone
        unfold wanted
        rw [ha, Option.bind_some, hnone]
  · next account provider key hsome =>
      obtain ⟨a, ha, hmap⟩ := Option.bind_eq_some_iff.mp hsome
      obtain ⟨target, htarget, he⟩ := Option.map_eq_some_iff.mp hmap
      obtain ⟨rfl, rfl⟩ := Prod.mk.inj he
      split
      · next hskip =>
          rw [Bool.or_eq_true, Bool.or_eq_true, List.contains_iff_mem] at hskip
          refine ⟨ht, fun hstopped => (h hstopped).next ?_⟩
          rcases hskip with (hskip | hskip) | hskip
          · exact .inr (.inr hskip)
          · exact .inl hskip
          · nomatch hstopped.symm.trans hskip
      · next hcreate =>
          have hstopped : c.stopped = false := by
            rw [Bool.or_eq_true, not_or] at hcreate
            exact Bool.eq_false_iff.mpr hcreate.2
          cases succeeds with
          | false => exact ⟨ht, fun _ happlied => nomatch happlied⟩
          | true =>
            refine ⟨fun x w hx => ?_, fun _ => (h hstopped).insert ha htarget⟩
            replace hx : (c.workers.insert id ⟨a, provider, key, true, false⟩).lookup x = some w := hx
            by_cases hxid : x = id
            · subst hxid
              rw [AList.lookup_insert] at hx
              rw [← Option.some.inj hx]
              exact ⟨⟨rfl, htarget⟩, (h hstopped).grows x a ha⟩
            · rw [AList.lookup_insert_ne hxid] at hx
              exact ht x w hx

/-- When an application ends, settled accounts are as it found them. -/
theorem Created.follows (h : Created c application []) : c.Follows where
  serves id hid w hw := by
    unfold Serves
    rw [← h.settled id hid]
    exact h.serves id w hw
  created id hid hwanted := h.created id List.not_mem_nil hid.1 (h.settled id hid ▸ hwanted)
  reconciles := h.reconciles

end

section
variable {c c' : Controller}

theorem Following.applyAgain (h : Tracked c.accounts c.workers)
    (hsnapshot : c.stopped = false → c.snapshot.isSome = true ∨ c.transitioning = true) (succeeds : Bool) :
    Following (c.applyAgain succeeds) := by
  unfold Controller.applyAgain
  cases hs : c.snapshot with
  | none =>
    refine ⟨h, fun hstopped _ htransitioning => ?_⟩
    rcases hsnapshot hstopped with h' | h'
    · rw [hs] at h'
      nomatch h'
    · nomatch h'.symm.trans htransitioning
  | some paymentRevision =>
    dsimp only
    split
    · next hskip =>
        refine ⟨h, fun hstopped _ htransitioning => ?_⟩
        rcases Bool.or_eq_true_iff.mp hskip with h' | h'
        · nomatch h'.symm.trans htransitioning
        · nomatch h'.symm.trans hstopped
    · exact Following.beginApplication h paymentRevision succeeds

theorem Following.beginOperation {operation : Operation} (h : Tracked c.accounts c.workers)
    (hsnapshot : ∀ id, operation = .applyAccounts id → c.stopped = false → c.snapshot.isSome = true ∨ c.transitioning = true)
    (succeeds : Bool) : Following (c.beginOperation succeeds operation) := by
  cases operation with
  | apply paymentRevision => exact Following.beginApplication h paymentRevision succeeds
  | pause => exact ⟨h, fun _ => trivial⟩
  | stopAccount id =>
    show Following (c.stopAccount id)
    unfold Controller.stopAccount
    split
    · exact ⟨h, fun _ happlied => nomatch happlied⟩
    · exact ⟨Tracked.markStopped h id, fun _ => trivial⟩
  | applyAccounts id =>
    have hc : Tracked (c.endTransition id).accounts (c.endTransition id).workers := h
    exact Following.applyAgain hc (hsnapshot id rfl) succeeds

theorem Following.advance {succeeds : Bool} (h : Following c) (hlive : c.findsLive = true) (hs : c.advance succeeds = some c') :
    Following c' := by
  have ht := h.tracked
  have htrack := h.onTrack
  unfold Controller.OnTrack at htrack
  unfold Controller.advance at hs
  unfold Controller.findsLive at hlive
  cases hrunning : c.running with
  | none =>
    rw [hrunning] at hs hlive
    cases hqueue : c.queue with
    | nil =>
      rw [hqueue] at hs
      nomatch hs
    | cons operation rest =>
      rw [hqueue] at hs hlive
      rw [← Option.some.inj hs]
      have hc : Tracked (Controller.accounts { c with queue := rest, running := none, applied := false })
          (Controller.workers { c with queue := rest, running := none, applied := false }) := ht
      refine Following.beginOperation hc (fun id hop hstopped => ?_) succeeds
      subst hop
      exact Bool.or_eq_true_iff.mp ((Bool.or_eq_true_iff.mp hlive).resolve_left fun h' => nomatch h'.symm.trans hstopped)
  | some stage =>
    rw [hrunning] at hs htrack hlive
    cases stage with
    | keeping application rest =>
      cases rest with
      | nil =>
        rw [← Option.some.inj hs]
        refine ⟨ht, fun hstopped => ?_⟩
        rw [Bool.or_eq_true, Bool.and_eq_true] at hlive
        obtain ⟨hstarted, hlive⟩ := hlive.resolve_left fun h' => nomatch h'.symm.trans hstopped
        refine Kept.installReconciliation (htrack hstopped) hstarted hstopped fun r hr => ?_
        simpa [hr] using hlive
      | cons id rest =>
        rw [← Option.some.inj hs]
        have hworkers : Tracked (c.keepWorker application id rest).accounts (c.keepWorker application id rest).workers := by
          unfold Controller.keepWorker
          split
          · exact ht
          · split
            · exact ht
            · exact Tracked.markStopped ht id
        have hsame : (c.keepWorker application id rest).stopped = c.stopped := by
          obtain ⟨workers, he, -⟩ := c.markStopped_eq id
          unfold Controller.keepWorker
          rw [he]
          split
          · rfl
          · split <;> rfl
        refine ⟨hworkers, fun hstopped => ?_⟩
        rw [hsame] at hstopped
        refine Kept.keepWorker (htrack hstopped) ht fun w hw hkeeps => ?_
        dsimp only at hlive
        rw [Bool.or_eq_true, hw] at hlive
        simpa [hkeeps] using hlive.resolve_left fun h' => nomatch h'.symm.trans hstopped
    | stoppingWorker application id rest =>
      rw [← Option.some.inj hs]
      cases succeeds with
      | true =>
        obtain ⟨workers, retired, he, -⟩ := c.deleteWorker_eq id
        have hsame : (c.deleteWorker id).stopped = c.stopped := by rw [he]
        exact ⟨Tracked.deleteWorker ht id, fun hstopped => Kept.deleteWorker (htrack (hsame.symm.trans hstopped))⟩
      | false => exact ⟨ht, fun _ happlied => nomatch happlied⟩
    | creating application rest =>
      cases rest with
      | nil =>
        rw [← Option.some.inj hs]
        refine ⟨ht, fun hstopped => ?_⟩
        have hcreated : Created c application [] := htrack hstopped
        exact ⟨⟨hcreated.grows, hcreated.settled, hcreated.workers⟩, hcreated.serves, hcreated.created, hcreated.reconciles⟩
      | cons id rest =>
        rw [← Option.some.inj hs]
        exact Following.createWorker ht htrack succeeds
    | webhooks application =>
      rw [← Option.some.inj hs]
      cases succeeds with
      | true =>
        refine ⟨ht, fun hstopped _ _ => ?_⟩
        have hfollows : c.Follows := Created.follows (htrack hstopped)
        exact ⟨hfollows.serves, hfollows.created, hfollows.reconciles⟩
      | false => exact ⟨ht, fun _ happlied => nomatch happlied⟩
    | pausing rest =>
      cases rest with
      | nil =>
        rw [← Option.some.inj hs]
        exact ⟨ht, fun _ => trivial⟩
      | cons id rest =>
        rw [← Option.some.inj hs]
        unfold Controller.pauseWorker
        split
        · exact ⟨ht, fun _ => trivial⟩
        · exact ⟨Tracked.markStopped ht id, fun _ => trivial⟩
    | pausingWorker id rest =>
      rw [← Option.some.inj hs]
      cases succeeds with
      | true => exact ⟨Tracked.deleteWorker ht id, fun _ => trivial⟩
      | false => exact ⟨ht, fun _ happlied => nomatch happlied⟩
    | pausingReconciliation held =>
      rw [← Option.some.inj hs]
      unfold Controller.settleReconciliation
      cases succeeds <;> exact ⟨ht, fun _ happlied => nomatch happlied⟩
    | stoppingAccount id =>
      rw [← Option.some.inj hs]
      cases succeeds with
      | true => exact ⟨Tracked.deleteWorker ht id, fun _ happlied => nomatch happlied⟩
      | false => exact ⟨ht, fun _ happlied => nomatch happlied⟩

theorem Following.step {call : Call} (h : Following c) (hlive : (∃ succeeds, call = .advance succeeds) → c.findsLive = true)
    (hs : controllerStep c call = some c') : Following c' := by
  unfold controllerStep at hs
  cases call with
  | start paymentRevision | apply paymentRevision =>
    dsimp only at hs
    split at hs
    · nomatch hs
    · rw [← Option.some.inj hs]
      exact h.aside (.enqueue (.apply paymentRevision) rfl rfl rfl rfl rfl rfl (fun h => h) (fun _ h => h) rfl)
  | beginPaymentTransition =>
    dsimp only at hs
    split at hs
    · nomatch hs
    · rw [← Option.some.inj hs]
      exact h.aside (.enqueue .pause rfl rfl rfl rfl rfl rfl (fun h => nomatch h) (fun _ h => h) rfl)
  | beginAccountTransition id =>
    rw [← Option.some.inj hs]
    exact h.aside (.enqueue (.stopAccount id) rfl rfl rfl rfl rfl rfl (fun h => h) (fun _ h => List.mem_cons_of_mem _ h) rfl)
  | applyAccounts id =>
    rw [← Option.some.inj hs]
    exact h.aside (.enqueue (.applyAccounts id) rfl rfl rfl rfl rfl rfl (fun h => h) (fun _ h => h) rfl)
  | stop =>
    rw [← Option.some.inj hs]
    exact ⟨h.tracked, fun hstopped => nomatch hstopped⟩
  | advance succeeds => exact h.advance (hlive ⟨succeeds, rfl⟩) hs
  | createAccount id account =>
    dsimp only at hs
    split at hs
    · next hnew =>
        rw [← Option.some.inj hs]
        exact h.aside (.createAccount (Option.isNone_iff_eq_none.mp hnew))
    · nomatch hs
  | writeAccount id account =>
    dsimp only at hs
    split at hs
    · next hw =>
        rw [← Option.some.inj hs]
        exact h.aside (.writeAccount hw)
    · nomatch hs
  -- the rest of `stop()`: nothing is promised any more
  | stopWorker id =>
    dsimp only at hs
    split at hs
    · next hstopped =>
        obtain ⟨workers, he, -⟩ := c.markStopped_eq id
        have hsame : (c.markStopped id).stopped = c.stopped := by rw [he]
        rw [← Option.some.inj hs]
        exact ⟨Tracked.markStopped h.tracked id, fun hlive => nomatch hstopped.symm.trans (hsame.symm.trans hlive)⟩
    · nomatch hs
  | deleteWorker id =>
    dsimp only at hs
    split at hs
    · next hstopped =>
        obtain ⟨workers, retired, he, -⟩ := c.deleteWorker_eq id
        have hsame : (c.deleteWorker id).stopped = c.stopped := by rw [he]
        rw [← Option.some.inj hs]
        exact ⟨Tracked.deleteWorker h.tracked id,
          fun hlive => nomatch (Bool.and_eq_true_iff.mp hstopped).1.symm.trans (hsame.symm.trans hlive)⟩
    · nomatch hs
  | stopReconciliation succeeds =>
    dsimp only at hs
    split at hs
    · next hstopped =>
        rw [← Option.some.inj hs]
        exact ⟨h.tracked, fun hlive => nomatch hstopped.symm.trans hlive⟩
    · nomatch hs

end

/-! ## The workers follow the accounts -/

/-- The queue is empty after an apply that succeeded, no transition is pending, and the controller is not stopped. -/
structure Controller.Rests (c : Controller) : Prop where
  running : c.running = none
  queue : c.queue = []
  applied : c.applied = true
  transitioning : c.transitioning = false
  transitions : c.accountTransitions = []
  stopped : c.stopped = false

/-- Exactly the accounts with a production provider and a provider account key have a worker; it is built from what the
    account holds, and runs. -/
structure Controller.Serving (c : Controller) : Prop where
  workers : ∀ id, (c.workers.lookup id).map (·.scheduler) =
    (wanted c.accounts id).map fun keys => ⟨keys.1, keys.2, true, false⟩
  reconciles : c.Reconciles

theorem Following.serving (h : Following c) (hr : c.Rests) : c.Serving := by
  have hfollows : c.Follows := by
    have htrack := h.onTrack hr.stopped
    unfold Controller.OnTrack at htrack
    rw [hr.running] at htrack
    exact htrack hr.applied hr.transitioning
  have hsettled : ∀ id, c.Settled id := fun id => by
    unfold Controller.Settled
    rw [hr.transitions, hr.queue]
    exact ⟨List.not_mem_nil, List.not_mem_nil⟩
  refine ⟨fun id => ?_, hfollows.reconciles⟩
  cases hw : c.workers.lookup id with
  | none =>
    cases hwanted : wanted c.accounts id with
    | none => rfl
    | some keys =>
      have hcreated := hfollows.created id (hsettled id) (hwanted ▸ rfl)
      rw [hw] at hcreated
      nomatch hcreated
  | some w =>
    obtain ⟨hwanted, hstarted, hstopped⟩ := hfollows.serves id (hsettled id) w hw
    obtain ⟨account, provider, key, started, stopped⟩ := w
    rw [hwanted]
    subst hstarted hstopped
    rfl

/-- In every run nothing runs twice; and while the applies find what they keep running, the workers follow the accounts. -/
theorem workers_follow_accounts (c : Controller) :
    (Runs.Reachable controllerSystem c → c.RunsOnce) ∧
    (Runs.Reachable liveSystem c → c.Rests → c.Serving) := by
  constructor
  · exact fun h => (safe_of_reachable h).runsOnce
  · intro h hr
    have hfollowing : Following c := by
      refine h.invariant (fun _ h0 => ?_) fun _ _ _ h hs => h.step hs.1 hs.2
      subst h0
      exact ⟨fun _ _ hw => (nomatch hw), fun _ happlied => nomatch happlied⟩
    exact hfollowing.serving hr

def sampleAccount : AlipayAccount := ⟨1, .PRODUCTION, some ⟨.PRODUCTION, true, "app", "private", "public"⟩, some "key", false⟩

/-- An account is created and gets its worker; then the payment settings are applied once more. -/
def sampleCalls : List Call :=
  [.start 1] ++ List.replicate 4 (.advance true) ++ [.createAccount "a" sampleAccount] ++ List.replicate 5 (.advance true) ++
    [.apply 1] ++ List.replicate 6 (.advance true)

/-- The transition of the account fails where its worker is stopped, and `applyAccounts` puts back what there was. -/
def failedTransitionCalls : List Call :=
  sampleCalls ++ [.beginAccountTransition "a", .advance true, .advance false, .applyAccounts "a"] ++
    List.replicate 6 (.advance true)

/-- The controller rests, and account `a` has a worker that is stopped or not. -/
def Controller.restsWith (c : Controller) (stopped : Bool) : Bool :=
  c.running.isNone && c.queue.isEmpty && c.applied && !c.transitioning && c.accountTransitions.isEmpty && !c.stopped &&
    ((c.workers.lookup "a").any fun w => w.scheduler.stopped = stopped) && (wanted c.accounts "a").isSome

theorem Controller.rests_of_restsWith {c : Controller} {stopped : Bool} (h : c.restsWith stopped = true) :
    c.Rests ∧ (∃ w, c.workers.lookup "a" = some w ∧ w.scheduler.stopped = stopped) := by
  unfold Controller.restsWith at h
  simp only [Bool.and_eq_true, Bool.not_eq_true', Option.isNone_iff_eq_none, List.isEmpty_iff, Option.any_eq_true,
    decide_eq_true_eq] at h
  obtain ⟨⟨⟨⟨⟨⟨⟨hrunning, hqueue⟩, happlied⟩, htransitioning⟩, htransitions⟩, hstopped⟩, w, hw, hws⟩, -⟩ := h
  exact ⟨⟨hrunning, hqueue, happlied, htransitioning, htransitions, hstopped⟩, w, hw, hws⟩

/-- A worker that failed to stop is taken for one that runs. -/
theorem failed_transition_leaves_worker_stopped :
    ¬ ∀ c, Runs.Reachable controllerSystem c → c.RunsOnce ∧ (c.Rests → c.Serving) := by
  intro h
  have hany : ((Runs.follow controllerStep failedTransitionCalls .initial).any fun c => c.restsWith true) = true := by
    decide +kernel
  obtain ⟨c, hc, hrests⟩ := (Option.any_eq_true _ _).mp hany
  obtain ⟨hrests, w, hw, hstopped⟩ := c.rests_of_restsWith hrests
  have hreachable : Runs.Reachable controllerSystem c := .follow (fun _ _ _ h => h) ⟨[], .start rfl⟩ hc
  have hworkers := ((h c hreachable).2 hrests).workers "a"
  rw [hw] at hworkers
  cases hwanted : wanted c.accounts "a" with
  | none =>
    rw [hwanted] at hworkers
    nomatch hworkers
  | some keys =>
    rw [hwanted] at hworkers
    rw [Option.map_some, Option.map_some] at hworkers
    rw [Option.some.inj hworkers] at hstopped
    nomatch hstopped

/-- A step that finds what it keeps running -/
def liveStep (c : Controller) : Call → Option Controller
  | .advance succeeds => if c.findsLive then c.advance succeeds else none
  | call => controllerStep c call

theorem liveSystem_of_liveStep (c : Controller) (call : Call) (c' : Controller) (h : liveStep c call = some c') :
    liveSystem.step c call c' := by
  unfold liveStep at h
  split at h
  · split at h
    · next hlive => exact ⟨fun _ => hlive, h⟩
    · nomatch h
  · next hother => exact ⟨fun ⟨succeeds, he⟩ => absurd he (hother succeeds), h⟩

theorem workers_follow_accounts_sample :
    ∃ c : Controller, c.RunsOnce ∧ c.Rests ∧ c.Serving ∧
      ∃ w, c.workers.lookup "a" = some w ∧ w.scheduler.stopped = false := by
  have hany : ((Runs.follow liveStep sampleCalls .initial).any fun c => c.restsWith false) = true := by
    decide +kernel
  obtain ⟨c, hc, hrests⟩ := (Option.any_eq_true _ _).mp hany
  obtain ⟨hrests, hw⟩ := c.rests_of_restsWith hrests
  have hlive : Runs.Reachable liveSystem c := .follow liveSystem_of_liveStep ⟨[], .start rfl⟩ hc
  exact ⟨c, (workers_follow_accounts c).1 hlive.of_restrict, hrests, (workers_follow_accounts c).2 hlive hrests, hw⟩

end PerPay.Runtime
