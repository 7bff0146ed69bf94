/-
  **The workers follow the accounts** — and where they do not.

  Nothing is replaced before it has stopped: whatever left the table of workers was stopped first, and a scheduler that
  was stopped never starts again.  So an account never has two ledger schedulers that run, and there are
  never two reconciliation schedulers that run, whatever fails.

  An apply that succeeds keeps the workers whose account and revision are the ones it finds, drops all others and
  creates what is missing; that gives exactly the workers the accounts ask for, but for one thing it does not
  look at.  A worker whose `stop()` failed stays in the table, stopped, so that it can be stopped again before it is
  replaced; and an apply that finds its revision unchanged takes it for one that runs.
-/
import PerPay.Runtime.Controller

namespace PerPay.Runtime

/-! ## Tables -/

theorem lookup_replace {β : Type} (a x : String) (b : β) (s : AList fun _ : String => β) :
    (s.replace a b).lookup x = if x = a then (s.lookup a).map fun _ => b else s.lookup x := by
  obtain ⟨entries, nodup⟩ := s
  show List.dlookup x (List.kreplace a b entries) = if x = a then (List.dlookup a entries).map fun _ => b else List.dlookup x entries
  clear nodup
  have hother : ∀ {x k : String} {v : β} {rest : List ((_ : String) × β)}, ¬ x = k →
      List.dlookup x (⟨k, v⟩ :: rest) = List.dlookup x rest :=
    fun {x k v rest} hx => List.dlookup_cons_ne rest (⟨k, v⟩ : (_ : String) × β) hx
  induction entries with
  | nil => simp [List.kreplace]
  | cons e entries ih =>
    obtain ⟨k, v⟩ := e
    unfold List.kreplace at ih ⊢
    by_cases hk : a = k
    · subst hk
      simp only [List.lookmap_cons, if_true]
      by_cases hx : x = a
      · subst hx
        simp
      · rw [if_neg hx, hother hx, hother hx]
    · simp only [List.lookmap_cons, if_neg hk]
      by_cases hx : x = k
      · subst hx
        simp [Ne.symm hk]
      · rw [hother hx, hother hx, hother hk]
        exact ih

theorem lookup_erase_some {β : Type} {a x : String} {b : β} {s : AList fun _ : String => β}
    (h : (s.erase a).lookup x = some b) : x ≠ a ∧ s.lookup x = some b := by
  have hne : x ≠ a := by
    rintro rfl
    rw [AList.lookup_erase] at h
    nomatch h
  exact ⟨hne, AList.lookup_erase_ne hne ▸ h⟩

theorem Controller.markStopped_eq (c : Controller) (id : String) :
    ∃ workers, c.markStopped id = { c with workers := workers } ∧
      ∀ x, workers.lookup x = if x = id then (c.workers.lookup id).map (·.stop) else c.workers.lookup x := by
  unfold Controller.markStopped
  cases h : c.workers.lookup id with
  | none =>
    refine ⟨c.workers, rfl, fun x => ?_⟩
    split
    · next hx => rw [hx, h, Option.map_none]
    · rfl
  | some worker =>
    refine ⟨_, rfl, fun x => ?_⟩
    rw [lookup_replace, h, Option.map_some, Option.map_some]

theorem Controller.deleteWorker_eq (c : Controller) (id : String) :
    ∃ workers retired, c.deleteWorker id = { c with workers := workers, retired := retired } ∧
      (∀ x, workers.lookup x = if x = id then none else c.workers.lookup x) ∧
      (∀ p ∈ retired, p ∈ c.retired ∨ ∃ w, c.workers.lookup id = some w ∧ p = (id, w.scheduler)) := by
  unfold Controller.deleteWorker
  cases h : c.workers.lookup id with
  | none =>
    refine ⟨c.workers, c.retired, rfl, fun x => ?_, fun p hp => .inl hp⟩
    split
    · next hx => rw [hx, h]
    · rfl
  | some worker =>
    refine ⟨_, _, rfl, fun x => ?_, fun p hp => ?_⟩
    · split
      · next hx => rw [hx, AList.lookup_erase]
      · next hx => exact AList.lookup_erase_ne hx
    · rcases List.mem_append.mp hp with hp | hp
      · exact .inl hp
      · exact .inr ⟨worker, rfl, List.mem_singleton.mp hp⟩

/-! ## At most one runs

Every stop is begun before the worker is deleted, so only the worker in the table can run. -/

/-- What the running operation is about to delete was stopped. -/
def StopsFirst (workers : Workers) (reconciliation : Option ReconciliationScheduler) : Option Stage → Prop
  | some (.stoppingWorker _ id _) | some (.pausingWorker id _) | some (.stoppingAccount id) =>
    ∀ w, workers.lookup id = some w → w.scheduler.stopped = true
  | some (.pausingReconciliation held) => reconciliation = none ∧ ∀ r ∈ held, r.stopped = true
  | _ => True

structure Safe (c : Controller) : Prop where
  retired : ∀ p ∈ c.retired, p.2.stopped = true
  retiredReconciliations : ∀ r ∈ c.retiredReconciliations, r.stopped = true
  stage : StopsFirst c.workers c.reconciliationScheduler c.running

/-- Stopping and deleting workers is no reason to wait longer. -/
theorem StopsFirst.of_workers {workers workers' : Workers} {r : Option ReconciliationScheduler} {stage : Option Stage}
    (h : StopsFirst workers r stage)
    (hw : ∀ id w, workers'.lookup id = some w → w.scheduler.stopped = true ∨ workers.lookup id = some w) :
    StopsFirst workers' r stage := by
  have key : ∀ id, (∀ w, workers.lookup id = some w → w.scheduler.stopped = true) →
      ∀ w, workers'.lookup id = some w → w.scheduler.stopped = true :=
    fun id hid w h' => (hw id w h').elim (fun h => h) (hid w)
  match stage, h with
  | none, _ => trivial
  | some (.keeping ..), _ => trivial
  | some (.stoppingWorker _ id _), h => exact key id h
  | some (.creating ..), _ => trivial
  | some (.webhooks _), _ => trivial
  | some (.pausing _), _ => trivial
  | some (.pausingWorker id _), h => exact key id h
  | some (.pausingReconciliation _), h => exact h
  | some (.stoppingAccount id), h => exact key id h

theorem Safe.markStopped {c : Controller} (h : Safe c) (id : String) :
    Safe (c.markStopped id) ∧ ∀ w, (c.markStopped id).workers.lookup id = some w → w.scheduler.stopped = true := by
  obtain ⟨workers, he, hw⟩ := c.markStopped_eq id
  have hstopped : ∀ x w, workers.lookup x = some w → w.scheduler.stopped = true ∨ x ≠ id ∧ c.workers.lookup x = some w := by
    intro x w hx
    rw [hw] at hx
    split at hx
    · obtain ⟨w', -, rfl⟩ := Option.map_eq_some_iff.mp hx
      exact .inl rfl
    · next hne => exact .inr ⟨hne, hx⟩
  rw [he]
  refine ⟨⟨h.retired, h.retiredReconciliations, h.stage.of_workers fun x w hx => (hstopped x w hx).imp_right (·.2)⟩, ?_⟩
  intro w hx
  exact (hstopped id w hx).resolve_right fun h => h.1 rfl

theorem Safe.deleteWorker {c : Controller} (h : Safe c) {id : String}
    (hid : ∀ w, c.workers.lookup id = some w → w.scheduler.stopped = true) : Safe (c.deleteWorker id) := by
  obtain ⟨workers, retired, he, hw, hr⟩ := c.deleteWorker_eq id
  rw [he]
  refine ⟨fun p hp => ?_, h.retiredReconciliations, h.stage.of_workers fun x w hx => .inr ?_⟩
  · rcases hr p hp with hp | ⟨w, hlookup, rfl⟩
    · exact h.retired p hp
    · exact hid w hlookup
  · rw [hw] at hx
    split at hx
    · nomatch hx
    · exact hx

/-- A stage that deletes nothing may follow any other. -/
theorem Safe.moveTo {c c' : Controller} (h : Safe c) (hretired : c'.retired = c.retired)
    (hreconciliations : c'.retiredReconciliations = c.retiredReconciliations)
    (hstage : StopsFirst c'.workers c'.reconciliationScheduler c'.running) : Safe c' :=
  ⟨hretired ▸ h.retired, hreconciliations ▸ h.retiredReconciliations, hstage⟩

theorem Safe.beginApplication {c : Controller} (h : Safe c) (paymentRevision : Nat) (succeeds : Bool) :
    Safe (c.beginApplication paymentRevision succeeds) := by
  cases succeeds <;> exact h.moveTo rfl rfl trivial

theorem Safe.keepWorker {c : Controller} (h : Safe c) (application : Application) (id : String) (rest : List String) :
    Safe (c.keepWorker application id rest) := by
  unfold Controller.keepWorker
  cases c.workers.lookup id with
  | none => exact h.moveTo rfl rfl trivial
  | some worker =>
    dsimp only
    split
    · exact h.moveTo rfl rfl trivial
    · exact (h.markStopped id).1.moveTo rfl rfl (h.markStopped id).2

theorem Safe.createWorker {c : Controller} (h : Safe c) (application : Application) (id : String) (rest : List String)
    (succeeds : Bool) : Safe (c.createWorker application id rest succeeds) := by
  unfold Controller.createWorker
  split
  · exact h.moveTo rfl rfl trivial
  · split
    · exact h.moveTo rfl rfl trivial
    · cases succeeds <;> exact h.moveTo rfl rfl trivial

theorem Safe.pauseWorker {c : Controller} (h : Safe c) (id : String) (rest : List String) : Safe (c.pauseWorker id rest) := by
  unfold Controller.pauseWorker
  cases c.workers.lookup id with
  | none => exact h.moveTo rfl rfl trivial
  | some worker => exact (h.markStopped id).1.moveTo rfl rfl (h.markStopped id).2

theorem stop_stopped {held : Option ReconciliationScheduler} :
    ∀ r ∈ held.map (·.stop), r.stopped = true := by
  intro r hr
  obtain ⟨r', -, rfl⟩ := Option.map_eq_some_iff.mp hr
  rfl

theorem Safe.settleReconciliation {c : Controller} {held : Option ReconciliationScheduler} (h : Safe c)
    (hrunning : c.running = some (.pausingReconciliation held)) (succeeds : Bool) :
    Safe (c.settleReconciliation held succeeds) := by
  have hstage := h.stage
  rw [hrunning] at hstage
  obtain ⟨hnone, hheld⟩ := hstage
  unfold Controller.settleReconciliation
  cases succeeds with
  | true =>
    refine ⟨h.retired, fun r hr => ?_, trivial⟩
    rcases List.mem_append.mp hr with hr | hr
    · exact h.retiredReconciliations r hr
    · exact hheld r (Option.mem_toList.mp hr)
  | false =>
    refine ⟨h.retired, fun r hr => ?_, trivial⟩
    rw [hnone] at hr
    exact h.retiredReconciliations r (by simpa using hr)

theorem Safe.stopAccount {c : Controller} (h : Safe c) (id : String) : Safe (c.stopAccount id) := by
  unfold Controller.stopAccount
  cases c.workers.lookup id with
  | none => exact h.moveTo rfl rfl trivial
  | some worker => exact (h.markStopped id).1.moveTo rfl rfl (h.markStopped id).2

theorem Safe.applyAgain {c : Controller} (h : Safe c) (succeeds : Bool) : Safe (c.applyAgain succeeds) := by
  unfold Controller.applyAgain
  cases c.snapshot with
  | none => exact h.moveTo rfl rfl trivial
  | some paymentRevision =>
    dsimp only
    split
    · exact h.moveTo rfl rfl trivial
    · exact h.beginApplication paymentRevision succeeds

theorem Safe.beginOperation {c : Controller} (h : Safe c) (succeeds : Bool) (operation : Operation) :
    Safe (c.beginOperation succeeds operation) := by
  cases operation with
  | apply paymentRevision => exact h.beginApplication paymentRevision succeeds
  | pause => exact h.moveTo rfl rfl trivial
  | stopAccount id => exact h.stopAccount id
  | applyAccounts id => exact (h.moveTo rfl rfl h.stage : Safe (c.endTransition id)).applyAgain succeeds

theorem Safe.advance {c c' : Controller} {succeeds : Bool} (h : Safe c) (hs : c.advance succeeds = some c') : Safe c' := by
  have hstage := h.stage
  unfold Controller.advance at hs
  cases hrunning : c.running with
  | none =>
    rw [hrunning] at hs
    cases hqueue : c.queue with
    | nil =>
      rw [hqueue] at hs
      nomatch hs
    | cons operation rest =>
      rw [hqueue] at hs
      have hc : Safe { c with queue := rest, applied := false } := h.moveTo rfl rfl hstage
      rw [← Option.some.inj hs]
      exact hrunning ▸ hc.beginOperation succeeds operation
  | some stage =>
    rw [hrunning] at hs hstage
    cases stage with
    | keeping application rest =>
      cases rest with
      | nil =>
        rw [← Option.some.inj hs]
        exact h.moveTo rfl rfl trivial
      | cons id rest =>
        rw [← Option.some.inj hs]
        exact h.keepWorker application id rest
    | stoppingWorker application id rest =>
      rw [← Option.some.inj hs]
      cases succeeds with
      | true => exact (h.deleteWorker hstage).moveTo rfl rfl trivial
      | false => exact h.moveTo rfl rfl trivial
    | creating application rest =>
      cases rest with
      | nil =>
        rw [← Option.some.inj hs]
        exact h.moveTo rfl rfl trivial
      | cons id rest =>
        rw [← Option.some.inj hs]
        exact h.createWorker application id rest succeeds
    | webhooks application =>
      rw [← Option.some.inj hs]
      cases succeeds <;> exact h.moveTo rfl rfl trivial
    | pausing rest =>
      cases rest with
      | nil =>
        rw [← Option.some.inj hs]
        exact h.moveTo rfl rfl ⟨rfl, stop_stopped⟩
      | cons id rest =>
        rw [← Option.some.inj hs]
        exact h.pauseWorker id rest
    | pausingWorker id rest =>
      rw [← Option.some.inj hs]
      cases succeeds with
      | true => exact (h.deleteWorker hstage).moveTo rfl rfl trivial
      | false => exact h.moveTo rfl rfl trivial
    | pausingReconciliation held =>
      rw [← Option.some.inj hs]
      exact h.settleReconciliation hrunning succeeds
    | stoppingAccount id =>
      rw [← Option.some.inj hs]
      cases succeeds with
      | true => exact (h.deleteWorker hstage).moveTo rfl rfl trivial
      | false => exact h.moveTo rfl rfl trivial

theorem Safe.step {c c' : Controller} {call : Call} (h : Safe c) (hs : controllerStep c call = some c') : Safe c' := by
  unfold controllerStep at hs
  cases call with
  | start _ | apply _ | beginPaymentTransition =>
    dsimp only at hs
    split at hs
    · nomatch hs
    · rw [← Option.some.inj hs]
      exact h.moveTo rfl rfl h.stage
  | createAccount _ _ | writeAccount _ _ =>
    dsimp only at hs
    split at hs
    · rw [← Option.some.inj hs]
      exact h.moveTo rfl rfl h.stage
    · nomatch hs
  | beginAccountTransition _ | applyAccounts _ | stop =>
    rw [← Option.some.inj hs]
    exact h.moveTo rfl rfl h.stage
  | advance succeeds => exact h.advance hs
  | stopWorker id =>
    dsimp only at hs
    split at hs
    · rw [← Option.some.inj hs]
      exact (h.markStopped id).1
    · nomatch hs
  | deleteWorker id =>
    dsimp only at hs
    split at hs
    · next hc =>
        rw [← Option.some.inj hs]
        refine h.deleteWorker fun w hw => ?_
        rw [Bool.and_eq_true, hw] at hc
        exact hc.2
    · nomatch hs
  | stopReconciliation succeeds =>
    dsimp only at hs
    split at hs
    · rw [← Option.some.inj hs]
      refine ⟨h.retired, fun r hr => ?_, ?_⟩
      · rcases List.mem_append.mp hr with hr | hr
        · exact h.retiredReconciliations r hr
        · cases succeeds with
          | true => exact stop_stopped r (Option.mem_toList.mp hr)
          | false => exact absurd hr List.not_mem_nil
      · have hstage := h.stage
        cases hrunning : c.running with
        | none => trivial
        | some stage =>
          rw [hrunning] at hstage
          cases stage with
          | pausingReconciliation held =>
            refine ⟨?_, hstage.2⟩
            rw [hstage.1]
            cases succeeds <;> rfl
          | stoppingWorker _ _ _ | pausingWorker _ _ | stoppingAccount _ => exact hstage
          | keeping _ _ | creating _ _ | webhooks _ | pausing _ => trivial
    · nomatch hs

theorem safe_of_reachable {c : Controller} (h : Runs.Reachable controllerSystem c) : Safe c :=
  h.invariant (fun _ h0 => h0 ▸ ⟨nofun, nofun, trivial⟩) fun _ _ _ h hs => h.step hs

/-- All ledger schedulers there are, with their accounts -/
def Controller.ledgerSchedulers (c : Controller) : List (String × LedgerScheduler) :=
  (c.workers.entries.map fun e => (e.1, e.2.scheduler)) ++ c.retired

/-- The reconciliation scheduler that `#stopPaymentSchedulers` waits for -/
def Stage.held : Stage → List ReconciliationScheduler
  | .pausingReconciliation held => held.toList
  | _ => []

/-- All reconciliation schedulers there are -/
def Controller.reconciliationSchedulers (c : Controller) : List ReconciliationScheduler :=
  c.reconciliationScheduler.toList ++ c.running.elim [] Stage.held ++ c.retiredReconciliations

/-- An account has at most one ledger scheduler that runs, and at most one reconciliation scheduler runs. -/
structure Controller.RunsOnce (c : Controller) : Prop where
  ledger : ∀ accountId, (c.ledgerSchedulers.filter fun s => s.1 = accountId && s.2.isLive).length ≤ 1
  reconciliation : (c.reconciliationSchedulers.filter (·.isLive)).length ≤ 1

theorem filter_stopped_ledger {schedulers : List (String × LedgerScheduler)} (h : ∀ p ∈ schedulers, p.2.stopped = true)
    (id : String) : schedulers.filter (fun s => s.1 = id && s.2.isLive) = [] := by
  rw [List.filter_eq_nil_iff]
  intro p hp
  simp [LedgerScheduler.isLive, h p hp]

theorem filter_stopped_reconciliation {schedulers : List ReconciliationScheduler} (h : ∀ r ∈ schedulers, r.stopped = true) :
    schedulers.filter (·.isLive) = [] := by
  rw [List.filter_eq_nil_iff]
  intro r hr
  simp [ReconciliationScheduler.isLive, h r hr]

theorem length_filter_key_le {β : Type} (id : String) :
    ∀ {entries : List (Sigma fun _ : String => β)}, entries.NodupKeys →
      (entries.filter fun e => e.1 = id).length ≤ 1 := by
  intro entries
  induction entries with
  | nil => exact fun _ => Nat.zero_le 1
  | cons e entries ih =>
    intro h
    obtain ⟨hnot, htail⟩ := List.nodupKeys_cons.mp h
    by_cases he : e.1 = id
    · have hnil : entries.filter (fun e => e.1 = id) = [] := by
        rw [List.filter_eq_nil_iff]
        intro e' he' hid
        have hkey : e'.1 = e.1 := (of_decide_eq_true hid).trans he.symm
        exact hnot (hkey ▸ List.mem_map_of_mem he')
      rw [List.filter_cons_of_pos (by simpa using he), hnil]
      exact Nat.le_refl 1
    · rw [List.filter_cons_of_neg (by simpa using he)]
      exact ih htail

theorem Safe.runsOnce {c : Controller} (h : Safe c) : c.RunsOnce where
  ledger id := by
    unfold Controller.ledgerSchedulers
    rw [List.filter_append, filter_stopped_ledger h.retired, List.append_nil, List.filter_map, List.length_map]
    refine le_trans (List.Sublist.length_le ?_) (length_filter_key_le id c.workers.nodupKeys)
    refine List.monotone_filter_right _ fun e he => ?_
    exact (Bool.and_eq_true_iff.mp he).1
  reconciliation := by
    have hheld : ∀ r ∈ c.running.elim [] Stage.held, r.stopped = true := by
      have hstage := h.stage
      cases hrunning : c.running with
      | none => exact nofun
      | some stage =>
        rw [hrunning] at hstage
        cases stage with
        | pausingReconciliation held => exact fun r hr => hstage.2 r (Option.mem_toList.mp hr)
        | _ => exact nofun
    unfold Controller.reconciliationSchedulers
    rw [List.filter_append, filter_stopped_reconciliation h.retiredReconciliations, List.append_nil, List.filter_append,
      filter_stopped_reconciliation hheld, List.append_nil]
    refine le_trans (List.length_filter_le _ _) ?_
    cases c.reconciliationScheduler <;> simp

end PerPay.Runtime
