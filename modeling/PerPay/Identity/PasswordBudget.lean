/-
  **The budget of anonymous password checks** (`takeAnonymousPasswordBudget`).

  The row holds the theoretical arrival time of a cell rate algorithm, and the time of the last attempt that was
  granted.  A clock that steps back is read as that time, so the times of the grants never decrease, and the
  window bound of the algorithm applies, whatever the row was in the beginning.  A reading that is refused is not
  written down; but it is smaller than every time at which the next attempt can be granted, so the time of a
  grant is still the largest reading so far.

  Who waits as long as a refusal said is granted, except at the end of the safe integers, where the call throws.
-/
import PerPay.Identity.Model
import PerPay.Lib.Gcra

namespace PerPay.Identity

open Txn

/-! ## One call -/

/-- The numbers of the row are safe integers. -/
abbrev AnonymousPasswordBudget.isSafe (budget : AnonymousPasswordBudget) : Prop :=
  budget.theoreticalArrivalAt ≤ maxSafeInteger ∧ budget.updatedAt ≤ maxSafeInteger

/-- `effectiveNow` -/
def AnonymousPasswordBudget.effective (budget : AnonymousPasswordBudget) (now : Nat) : Nat := max now budget.updatedAt

/-- `nextArrival` -/
def AnonymousPasswordBudget.nextArrival (budget : AnonymousPasswordBudget) (now : Nat) : Nat :=
  max budget.theoreticalArrivalAt (budget.effective now) + anonymousPasswordIntervalMs

section
variable {now : Nat} {db : IdentityDb}

theorem takeAnonymousPasswordBudget_of_early (hnow : now ≤ maxSafeInteger) (hsafe : db.anonymousPasswordBudget.isSafe)
    (h : db.anonymousPasswordBudget.effective now + 45000 < db.anonymousPasswordBudget.theoreticalArrivalAt) :
    takeAnonymousPasswordBudget now db =
      .ok (some (max 1 ((db.anonymousPasswordBudget.theoreticalArrivalAt - 45000 - now + 999) / 1000)), db) := by
  unfold AnonymousPasswordBudget.effective at h
  unfold takeAnonymousPasswordBudget
  rw [require_bind_met hnow, readWith_bind, require_bind_met hsafe, if_pos]
  · show Except.ok _ = Except.ok _
    refine congrArg (fun r => Except.ok (some (max 1 r), db)) ?_
    unfold anonymousPasswordBurst anonymousPasswordIntervalMs
    omega
  · unfold anonymousPasswordBurst anonymousPasswordIntervalMs
    omega

theorem takeAnonymousPasswordBudget_of_late (hnow : now ≤ maxSafeInteger) (hsafe : db.anonymousPasswordBudget.isSafe)
    (h : db.anonymousPasswordBudget.theoreticalArrivalAt ≤ db.anonymousPasswordBudget.effective now + 45000) :
    takeAnonymousPasswordBudget now db =
      if db.anonymousPasswordBudget.nextArrival now ≤ maxSafeInteger then
        .ok (none, { db with
          anonymousPasswordBudget := ⟨db.anonymousPasswordBudget.nextArrival now, db.anonymousPasswordBudget.effective now⟩ })
      else .error (.rangeError "anonymous password budget time is outside the safe integer range") := by
  unfold AnonymousPasswordBudget.effective at h
  unfold takeAnonymousPasswordBudget
  rw [require_bind_met hnow, readWith_bind, require_bind_met hsafe, if_neg]
  · split
    · next hnext => exact (require_bind_met hnext).trans rfl
    · next hnext => exact require_bind_unmet hnext
  · unfold anonymousPasswordBurst anonymousPasswordIntervalMs
    omega

/-- A call that comes late enough is granted if its next arrival time is a safe integer. -/
theorem takeAnonymousPasswordBudget_late (hsafe : db.anonymousPasswordBudget.isSafe)
    (h : db.anonymousPasswordBudget.theoreticalArrivalAt ≤ db.anonymousPasswordBudget.effective now + 45000)
    (hnext : db.anonymousPasswordBudget.nextArrival now ≤ maxSafeInteger) :
    ∃ db', takeAnonymousPasswordBudget now db = .ok (none, db') := by
  have hnow : now ≤ maxSafeInteger := by
    unfold AnonymousPasswordBudget.nextArrival AnonymousPasswordBudget.effective at hnext
    omega
  exact ⟨_, (takeAnonymousPasswordBudget_of_late hnow hsafe h).trans (if_pos hnext)⟩

theorem takeAnonymousPasswordBudget_throws (hsafe : db.anonymousPasswordBudget.isSafe)
    (h : db.anonymousPasswordBudget.theoreticalArrivalAt ≤ db.anonymousPasswordBudget.effective now + 45000)
    (hnext : ¬ db.anonymousPasswordBudget.nextArrival now ≤ maxSafeInteger) :
    ∃ message, takeAnonymousPasswordBudget now db = .error (.rangeError message) := by
  by_cases hnow : now ≤ maxSafeInteger
  · exact ⟨_, (takeAnonymousPasswordBudget_of_late hnow hsafe h).trans (if_neg hnext)⟩
  · refine ⟨"anonymous password budget time is invalid", ?_⟩
    unfold takeAnonymousPasswordBudget
    exact require_bind_unmet hnow

theorem takeAnonymousPasswordBudget_safe {r : Option Nat × IdentityDb} (h : takeAnonymousPasswordBudget now db = .ok r) :
    now ≤ maxSafeInteger ∧ db.anonymousPasswordBudget.isSafe := by
  unfold takeAnonymousPasswordBudget at h
  rw [require_bind_ok, readWith_bind_ok, require_bind_ok] at h
  exact ⟨h.1, h.2.1⟩

theorem takeAnonymousPasswordBudget_refused {r : Nat} {db' : IdentityDb}
    (h : takeAnonymousPasswordBudget now db = .ok (some r, db')) :
    db.anonymousPasswordBudget.effective now + 45000 < db.anonymousPasswordBudget.theoreticalArrivalAt ∧
    r = max 1 ((db.anonymousPasswordBudget.theoreticalArrivalAt - 45000 - now + 999) / 1000) ∧ db' = db := by
  obtain ⟨hnow, hsafe⟩ := takeAnonymousPasswordBudget_safe h
  rcases Nat.lt_or_ge (db.anonymousPasswordBudget.effective now + 45000) db.anonymousPasswordBudget.theoreticalArrivalAt with
    hearly | hlate
  · rw [takeAnonymousPasswordBudget_of_early hnow hsafe hearly] at h
    obtain ⟨hr, hdb⟩ := Prod.mk.inj (Except.ok.inj h)
    exact ⟨hearly, (Option.some.inj hr).symm, hdb.symm⟩
  · rw [takeAnonymousPasswordBudget_of_late hnow hsafe hlate] at h
    split at h <;> nomatch h

theorem takeAnonymousPasswordBudget_granted {db' : IdentityDb} (h : takeAnonymousPasswordBudget now db = .ok (none, db')) :
    db.anonymousPasswordBudget.theoreticalArrivalAt ≤ db.anonymousPasswordBudget.effective now + 45000 ∧
    db'.anonymousPasswordBudget = ⟨db.anonymousPasswordBudget.nextArrival now, db.anonymousPasswordBudget.effective now⟩ := by
  obtain ⟨hnow, hsafe⟩ := takeAnonymousPasswordBudget_safe h
  rcases Nat.lt_or_ge (db.anonymousPasswordBudget.effective now + 45000) db.anonymousPasswordBudget.theoreticalArrivalAt with
    hearly | hlate
  · rw [takeAnonymousPasswordBudget_of_early hnow hsafe hearly] at h
    nomatch h
  · rw [takeAnonymousPasswordBudget_of_late hnow hsafe hlate] at h
    split at h
    · obtain ⟨-, rfl⟩ := Prod.mk.inj (Except.ok.inj h)
      exact ⟨hlate, rfl⟩
    · nomatch h

end

/-! ## Runs -/

inductive BudgetEvent
  | call (now : Nat)
  /-- the process starts again; the row is in the database -/
  | restart

structure BudgetRun where
  db : IdentityDb
  /-- the running maximum of the clock: what the row began with, and the readings of the calls that did not throw -/
  clock : Nat
  /-- for each grant its `effectiveNow`, and the running maximum -/
  grants : List (Nat × Nat)

def BudgetRun.start (db : IdentityDb) : BudgetRun := ⟨db, db.anonymousPasswordBudget.updatedAt, []⟩

/-- `takeAnonymousPasswordBudget` in a transaction of its own -/
def BudgetRun.step (run : BudgetRun) : BudgetEvent → BudgetRun
  | .call now =>
    match takeAnonymousPasswordBudget now run.db with
    | .ok (none, db) => ⟨db, max run.clock now, run.grants ++ [(run.db.anonymousPasswordBudget.effective now, max run.clock now)]⟩
    | .ok (some _, db) => ⟨db, max run.clock now, run.grants⟩
    | .error _ => run
  | .restart => run

def BudgetRun.steps (run : BudgetRun) (events : List BudgetEvent) : BudgetRun := events.foldl BudgetRun.step run

/-- What the row knows of the grants, and of the clock. -/
structure BudgetRun.Fits (run : BudgetRun) : Prop where
  admitted : Gcra.Admitted anonymousPasswordIntervalMs anonymousPasswordBurst
    run.db.anonymousPasswordBudget.theoreticalArrivalAt (run.grants.map (·.1))
  updated : ∀ t ∈ run.grants.map (·.1), t ≤ run.db.anonymousPasswordBudget.updatedAt
  /-- the largest reading is the one that was written down, or too early for a grant -/
  clock : run.db.anonymousPasswordBudget.updatedAt ≤ run.clock ∧
    (run.clock = run.db.anonymousPasswordBudget.updatedAt ∨
      run.clock + 45000 < run.db.anonymousPasswordBudget.theoreticalArrivalAt)
  effective : ∀ g ∈ run.grants, g.1 = g.2

theorem BudgetRun.Fits.start (db : IdentityDb) : (BudgetRun.start db).Fits :=
  ⟨.start _, nofun, ⟨le_refl _, .inl rfl⟩, nofun⟩

theorem BudgetRun.Fits.step {run : BudgetRun} (h : run.Fits) (event : BudgetEvent) : (run.step event).Fits := by
  cases event with
  | restart => exact h
  | call now =>
    unfold BudgetRun.step
    dsimp only
    obtain ⟨hle, hclock⟩ := h.clock
    cases hcall : takeAnonymousPasswordBudget now run.db with
    | error e => exact h
    | ok r =>
      obtain ⟨result, db'⟩ := r
      cases result with
      | some wait =>
        obtain ⟨hearly, -, rfl⟩ := takeAnonymousPasswordBudget_refused hcall
        unfold AnonymousPasswordBudget.effective at hearly
        refine ⟨h.admitted, h.updated, ⟨?_, .inr ?_⟩, h.effective⟩
        · show run.db.anonymousPasswordBudget.updatedAt ≤ max run.clock now
          omega
        · show max run.clock now + 45000 < run.db.anonymousPasswordBudget.theoreticalArrivalAt
          omega
      | none =>
        obtain ⟨hlate, hrow⟩ := takeAnonymousPasswordBudget_granted hcall
        -- the largest reading so far is the time of this grant
        have hmax : run.db.anonymousPasswordBudget.effective now = max run.clock now := by
          unfold AnonymousPasswordBudget.effective at hlate ⊢
          omega
        refine ⟨?_, fun t ht => ?_, ?_, fun g hg => ?_⟩
        · show Gcra.Admitted _ _ db'.anonymousPasswordBudget.theoreticalArrivalAt _
          rw [hrow, List.map_append]
          refine h.admitted.next (fun t ht => ?_) hlate
          exact (h.updated t ht).trans (Nat.le_max_right _ _)
        · show t ≤ db'.anonymousPasswordBudget.updatedAt
          rw [hrow]
          rw [List.map_append, List.mem_append] at ht
          rcases ht with ht | ht
          · exact (h.updated t ht).trans (Nat.le_max_right _ _)
          · rw [List.mem_singleton.mp ht]
        · show db'.anonymousPasswordBudget.updatedAt ≤ max run.clock now ∧ _
          rw [hrow]
          exact ⟨hmax.le, .inl hmax.symm⟩
        · rcases List.mem_append.mp hg with hg | hg
          · exact h.effective g hg
          · rw [List.mem_singleton.mp hg]
            exact hmax

theorem BudgetRun.Fits.steps {run : BudgetRun} (h : run.Fits) (events : List BudgetEvent) : (run.steps events).Fits := by
  unfold BudgetRun.steps
  induction events generalizing run with
  | nil => exact h
  | cons event events ih => exact ih (h.step event)

/-- The row changes with a grant only. -/
theorem BudgetRun.step_grants {run : BudgetRun} (event : BudgetEvent) :
    run.grants.length ≤ (run.step event).grants.length ∧
    ((run.step event).grants.length = run.grants.length → (run.step event).db = run.db) := by
  cases event with
  | restart => exact ⟨le_refl _, fun _ => rfl⟩
  | call now =>
    unfold BudgetRun.step
    dsimp only
    cases hcall : takeAnonymousPasswordBudget now run.db with
    | error e => exact ⟨le_refl _, fun _ => rfl⟩
    | ok r =>
      obtain ⟨result, db'⟩ := r
      cases result with
      | some wait => exact ⟨le_refl _, fun _ => (takeAnonymousPasswordBudget_refused hcall).2.2⟩
      | none =>
        dsimp only
        rw [List.length_append]
        exact ⟨Nat.le_add_right _ _, fun hlen => absurd hlen (Nat.succ_ne_self _)⟩

theorem BudgetRun.steps_grants (events : List BudgetEvent) : ∀ {run : BudgetRun},
    run.grants.length ≤ (run.steps events).grants.length ∧
    ((run.steps events).grants.length = run.grants.length → (run.steps events).db = run.db) := by
  induction events with
  | nil => exact fun {_} => ⟨le_refl _, fun _ => rfl⟩
  | cons event events ih =>
    intro run
    obtain ⟨hle, hsame⟩ := run.step_grants event
    obtain ⟨hle', hsame'⟩ := @ih (run.step event)
    refine ⟨hle.trans hle', fun hlen => ?_⟩
    have hlen' : (((run.step event).steps events).grants).length = run.grants.length := hlen
    rw [show (run.steps (event :: events)).db = ((run.step event).steps events).db from rfl,
      hsame' (by omega), hsame (by omega)]

/-! ## The budget -/

/-- Who waits as long as was said comes late enough. -/
theorem late_after_wait {now r arrival updated : Nat} (hr : r = max 1 ((arrival - 45000 - now + 999) / 1000)) : arrival ≤ max (now + 1000 * r) updated + 45000 := by
  omega

/-- In every run no window holds more grants than the burst and one for each interval; the time of a grant is the largest reading
    so far; a refusal changes nothing, and a call that waits as long as it said is granted, unless the next arrival time is
    no safe integer: then it throws. -/
theorem anonymous_password_budget (db : IdentityDb) (events : List BudgetEvent) :
    let run := (BudgetRun.start db).steps events
    (∀ a length, (run.grants.filter fun g => a ≤ g.1 ∧ g.1 ≤ a + length).length ≤
      anonymousPasswordBurst + length / anonymousPasswordIntervalMs) ∧
    (∀ g ∈ run.grants, g.1 = g.2) ∧
    ∀ now r db', takeAnonymousPasswordBudget now run.db = .ok (some r, db') → db' = run.db ∧
      ∀ meanwhile, ((run.step (.call now)).steps meanwhile).grants = run.grants →
        (db'.anonymousPasswordBudget.nextArrival (now + 1000 * r) ≤ maxSafeInteger →
          ∃ db'', takeAnonymousPasswordBudget (now + 1000 * r) ((run.step (.call now)).steps meanwhile).db = .ok (none, db'')) ∧
        (¬ db'.anonymousPasswordBudget.nextArrival (now + 1000 * r) ≤ maxSafeInteger →
          ∃ message, takeAnonymousPasswordBudget (now + 1000 * r) ((run.step (.call now)).steps meanwhile).db =
            .error (.rangeError message)) := by
  intro run
  have hfits : run.Fits := (BudgetRun.Fits.start db).steps events
  refine ⟨fun a length => ?_, hfits.effective, fun now r db' hcall => ?_⟩
  · have hwindow := hfits.admitted.window (by decide) (by decide) a length
    rwa [List.filter_map, List.length_map] at hwindow
  · obtain ⟨hnow, hsafe⟩ := takeAnonymousPasswordBudget_safe hcall
    obtain ⟨-, hr, rfl⟩ := takeAnonymousPasswordBudget_refused hcall
    refine ⟨rfl, fun meanwhile hgrants => ?_⟩
    have hstep : (run.step (.call now)).db = run.db ∧ (run.step (.call now)).grants = run.grants := by
      unfold BudgetRun.step
      dsimp only
      rw [hcall]
      exact ⟨rfl, rfl⟩
    have hdb : ((run.step (.call now)).steps meanwhile).db = run.db := by
      rw [(BudgetRun.steps_grants meanwhile).2 (by rw [hgrants, hstep.2]), hstep.1]
    rw [hdb]
    have hlate : run.db.anonymousPasswordBudget.theoreticalArrivalAt ≤
        run.db.anonymousPasswordBudget.effective (now + 1000 * r) + 45000 := by
      unfold AnonymousPasswordBudget.effective
      exact late_after_wait hr
    exact ⟨takeAnonymousPasswordBudget_late hsafe hlate, takeAnonymousPasswordBudget_throws hsafe hlate⟩

/-- At the end of the safe integers a call throws, also after the wait that it was told. -/
theorem wait_ends_outside_safe_integers :
    ¬ ∀ db now r, takeAnonymousPasswordBudget now db = .ok (some r, db) →
      ∃ db', takeAnonymousPasswordBudget (now + 1000 * r) db = .ok (none, db') := by
  intro h
  let db : IdentityDb := { IdentityDb.empty with anonymousPasswordBudget := ⟨maxSafeInteger, 0⟩ }
  have hsafe : db.anonymousPasswordBudget.isSafe := ⟨le_refl _, Nat.zero_le _⟩
  have hearly : db.anonymousPasswordBudget.effective 0 + 45000 < db.anonymousPasswordBudget.theoreticalArrivalAt := by decide
  obtain ⟨db', hgranted⟩ := h db 0 _ (takeAnonymousPasswordBudget_of_early (Nat.zero_le _) hsafe hearly)
  have hlate := (takeAnonymousPasswordBudget_granted hgranted).1
  -- the arrival time is at the end already
  have hend : ¬ db.anonymousPasswordBudget.nextArrival (0 + 1000 *
      max 1 ((db.anonymousPasswordBudget.theoreticalArrivalAt - 45000 - 0 + 999) / 1000)) ≤ maxSafeInteger := by
    have harrival : db.anonymousPasswordBudget.theoreticalArrivalAt = maxSafeInteger := rfl
    unfold AnonymousPasswordBudget.nextArrival anonymousPasswordIntervalMs
    omega
  have hthrows := takeAnonymousPasswordBudget_of_late (takeAnonymousPasswordBudget_safe hgranted).1 hsafe hlate
  nomatch hgranted.symm.trans (hthrows.trans (if_neg hend))

/-- Ten attempts at one moment, the eleventh is refused for five seconds, and granted after them. -/
example : ((BudgetRun.start .empty).steps (List.replicate 11 (.call 60000) ++ [.restart, .call 64999, .call 65000])).grants.map (·.1) =
    List.replicate 10 60000 ++ [65000] := by
  decide +kernel

end PerPay.Identity
