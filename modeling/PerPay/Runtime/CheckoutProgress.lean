/-
  **What a checkout verification promises.**

  An order has one unfinished verification at most, and the map of the verifier holds it until it ends: only
  what is finished is expired, evicted or replaced.  A verification that is COMPLETED saw, in this order, a scan
  with a complete normal window and the reconciliation of its order, in a runtime that was current whenever it
  looked (`Verified`).

  `request` answers with what `get` finds, and `get` reads the clock again.  The answer is missing exactly when
  that reading is more than five minutes after the end of the verification (`request_undefined_iff`), which takes a clock
  that does not agree with itself.
-/
import PerPay.Runtime.CheckoutVerification

namespace PerPay.Runtime.CheckoutVerifier

open Scanning

/-! ## Evidence -/

def VerificationEvent.id : VerificationEvent → Nat
  | .requested id _ => id
  | .checked id _ => id
  | .scanned id _ => id
  | .orderVerified id _ => id

/-- Since the request a scan ended with a complete normal window, and the runtime has been current. -/
def Scanned (log : List VerificationEvent) (id : Nat) (orderId : String) : Prop :=
  ∃ since scan before, log = since ++ .scanned id scan :: before ∧ scan.NormalComplete ∧
    .requested id orderId ∈ before ∧ ∀ current, .checked id current ∈ since → current = true

/-- After such a scan the order was verified, and the runtime was current to the end. -/
def Verified (log : List VerificationEvent) (id : Nat) (orderId : String) : Prop :=
  ∃ later between since scan before,
    log = later ++ .checked id true :: (between ++ .orderVerified id orderId :: (since ++ .scanned id scan :: before)) ∧
      scan.NormalComplete ∧ .requested id orderId ∈ before ∧
      ∀ current, .checked id current ∈ between ++ since → current = true

theorem Scanned.append {log new : List VerificationEvent} {id : Nat} {orderId : String} (h : Scanned log id orderId)
    (hnew : ∀ event ∈ new, VerificationEvent.id event ≠ id) : Scanned (new ++ log) id orderId := by
  obtain ⟨since, scan, before, rfl, hscan, hrequested, hcurrent⟩ := h
  refine ⟨new ++ since, scan, before, (List.append_assoc ..).symm, hscan, hrequested, fun current hmem => ?_⟩
  rcases List.mem_append.mp hmem with hmem | hmem
  · exact absurd rfl (hnew _ hmem)
  · exact hcurrent current hmem

theorem Verified.append {log : List VerificationEvent} {id : Nat} {orderId : String} (h : Verified log id orderId)
    (new : List VerificationEvent) : Verified (new ++ log) id orderId := by
  obtain ⟨later, between, since, scan, before, rfl, hrest⟩ := h
  exact ⟨new ++ later, between, since, scan, before, (List.append_assoc ..).symm, hrest⟩

theorem Scanned.verified {log : List VerificationEvent} {id : Nat} {orderId : String} (h : Scanned log id orderId) :
    Verified (.checked id true :: .orderVerified id orderId :: log) id orderId := by
  obtain ⟨since, scan, before, rfl, hscan, hrequested, hcurrent⟩ := h
  exact ⟨[], [], since, scan, before, rfl, hscan, hrequested, hcurrent⟩

theorem complete_normal {scan : ScanEnd} (h : complete scan.result = true) : scan.NormalComplete := by
  unfold complete at h
  cases scan with
  | skipped => exact absurd h (by decide)
  | failed => exact absurd h Bool.false_ne_true
  | budgetExhausted => exact absurd h (by decide)
  | rootCompleted scanKind compensationIncomplete normalPending =>
    show normalPending = false
    cases normalPending with
    | false => rfl
    | true => simp [ScanEnd.result] at h

/-! ## One step of a run -/

/-- What a run makes of its entry in one step, and what it records. -/
inductive Progress (id : Nat) (entry : VerificationEntry) : VerificationEntry → List VerificationEvent → Prop
  | failed (clock : Int) (new : List VerificationEvent) :
      Progress id entry
        { entry with value := { entry.value with state := .FAILED, retryAfterSeconds := 0 }, finishedAt := some clock, stage := .ended } new
  | waiting (stage : RunStage) (new : List VerificationEvent) (hstage : stage ≠ .ended ∧ stage ≠ .reconciling) :
      Progress id entry { entry with stage } new
  | reconciling (scan : ScanEnd) (hscan : scan.NormalComplete) :
      Progress id entry { entry with value := { entry.value with state := .RECONCILING }, stage := .reconciling }
        [.checked id true, .scanned id scan]
  | completed (clock : Int) (hstage : entry.stage = .reconciling) :
      Progress id entry
        { entry with value := { entry.value with state := .COMPLETED, retryAfterSeconds := 0 }, finishedAt := some clock, stage := .ended }
        [.checked id true, .orderVerified id entry.orderId]

/-- One step of the run of an entry: it changes that entry and records what concerns it. -/
def Advances (verifier : CheckoutVerifier) (id : Nat) (entry : VerificationEntry) (verifier' : CheckoutVerifier) : Prop :=
  ∃ f new, verifier' = { made := verifier.made.modify id f, entries := verifier.entries, log := new ++ verifier.log } ∧
    Progress id entry (f entry) new ∧ ∀ event ∈ new, VerificationEvent.id event = id

section Steps

variable {verifier : CheckoutVerifier} {id : Nat} {entry : VerificationEntry}

theorem advances_fail (clock : Int) (new : List VerificationEvent) (hnew : ∀ event ∈ new, VerificationEvent.id event = id) :
    Advances verifier id entry (fail id clock { verifier with log := new ++ verifier.log }) :=
  ⟨_, new, rfl, .failed clock new, hnew⟩

theorem advances_setStage (stage : RunStage) (hstage : stage ≠ .ended ∧ stage ≠ .reconciling)
    (new : List VerificationEvent) (hnew : ∀ event ∈ new, VerificationEvent.id event = id) :
    Advances verifier id entry (setStage id stage { verifier with log := new ++ verifier.log }) :=
  ⟨_, new, rfl, .waiting stage new hstage, hnew⟩

theorem own_two {e e' : VerificationEvent} (he : VerificationEvent.id e = id) (he' : VerificationEvent.id e' = id) :
    ∀ event ∈ [e, e'], VerificationEvent.id event = id := by
  intro event hevent
  rcases List.mem_cons.mp hevent with rfl | hevent
  · exact he
  · exact List.mem_singleton.mp hevent ▸ he'

theorem own_one {e : VerificationEvent} (he : VerificationEvent.id e = id) :
    ∀ event ∈ [e], VerificationEvent.id event = id := fun _ hevent => List.mem_singleton.mp hevent ▸ he

theorem scanSettled_advances (round : Nat) (scan : Option ScanEnd) (current : Bool) (clock : Int) :
    Advances verifier id entry (scanSettled id round scan current clock verifier) := by
  cases scan with
  | none => exact advances_fail clock [] fun _ h => absurd h List.not_mem_nil
  | some scan =>
    unfold scanSettled check
    dsimp only
    split
    · unfold afterScan
      split
      case isTrue hcomplete =>
        exact ⟨_, [.checked id true, .scanned id scan], rfl, .reconciling scan (complete_normal hcomplete), own_two rfl rfl⟩
      case isFalse =>
        split
        · exact advances_setStage _ ⟨by simp, by simp⟩ [.checked id true, .scanned id scan] (own_two rfl rfl)
        · exact advances_fail clock [.checked id true, .scanned id scan] (own_two rfl rfl)
    · exact advances_fail clock [.checked id false, .scanned id scan] (own_two rfl rfl)

theorem yielded_advances (round : Nat) (current : Bool) (clock : Int) :
    Advances verifier id entry (yielded id round current clock verifier) := by
  unfold yielded check
  split
  · split
    · exact advances_setStage _ ⟨by simp, by simp⟩ [.checked id true] (own_one rfl)
    · exact advances_fail clock [.checked id false] (own_one rfl)
  · exact advances_fail clock [] fun _ h => absurd h List.not_mem_nil

theorem reconciled_advances (hstage : entry.stage = .reconciling) (reconciliation : Reconciliation) (current : Bool)
    (clock : Int) : Advances verifier id entry (reconciled id entry.orderId reconciliation current clock verifier) := by
  cases reconciliation with
  | verifyRejects => exact advances_fail clock [] fun _ h => absurd h List.not_mem_nil
  | adminGetThrows => exact advances_fail clock [.orderVerified id entry.orderId] (own_one rfl)
  | resolves =>
    unfold reconciled check
    dsimp only
    split
    · exact ⟨_, [.checked id true, .orderVerified id entry.orderId], rfl, .completed clock hstage, own_two rfl rfl⟩
    · exact advances_fail clock [.checked id false, .orderVerified id entry.orderId] (own_two rfl rfl)

end Steps

/-! ## The invariant -/

structure Good (verifier : CheckoutVerifier) : Prop where
  keys : (verifier.entries.map Prod.fst).Nodup
  size : verifier.entries.length ≤ 256
  points : ∀ e ∈ verifier.entries, ∃ entry, verifier.made[e.2]? = some entry ∧ entry.orderId = e.1
  /-- what is not finished is in the map -/
  kept : ∀ (id : Nat) (entry : VerificationEntry), verifier.made[id]? = some entry → entry.finishedAt = none → (entry.orderId, id) ∈ verifier.entries
  ended : ∀ (id : Nat) (entry : VerificationEntry), verifier.made[id]? = some entry → (entry.finishedAt ≠ none ↔ entry.stage = .ended)
  requested : ∀ (id : Nat) (entry : VerificationEntry), verifier.made[id]? = some entry → .requested id entry.orderId ∈ verifier.log
  scanned : ∀ (id : Nat) (entry : VerificationEntry), verifier.made[id]? = some entry → entry.stage = .reconciling →
    Scanned verifier.log id entry.orderId
  verified : ∀ (id : Nat) (entry : VerificationEntry), verifier.made[id]? = some entry → entry.value.state = .COMPLETED →
    Verified verifier.log id entry.orderId

theorem Good.empty : Good empty where
  keys := List.nodup_nil
  size := Nat.zero_le _
  points := fun _ h => absurd h List.not_mem_nil
  kept := fun _ _ h => nomatch h
  ended := fun _ _ h => nomatch h
  requested := fun _ _ h => nomatch h
  scanned := fun _ _ h => nomatch h
  verified := fun _ _ h => nomatch h

section Invariant

theorem Progress.orderId {id : Nat} {entry entry' : VerificationEntry} {new : List VerificationEvent}
    (h : Progress id entry entry' new) : entry'.orderId = entry.orderId := by
  cases h <;> rfl

variable {verifier verifier' : CheckoutVerifier} {id : Nat} {entry : VerificationEntry} {orderId : String}

theorem modify_eq (f : VerificationEntry → VerificationEntry) (made : List VerificationEntry) :
    (made.modify id f)[id]? = made[id]?.map f := by
  rw [List.getElem?_modify]
  simp

theorem modify_ne (f : VerificationEntry → VerificationEntry) (made : List VerificationEntry) {j : Nat} (hj : id ≠ j) :
    (made.modify id f)[j]? = made[j]? := by
  rw [List.getElem?_modify]
  simp [hj]

theorem getElem?_modify {f : VerificationEntry → VerificationEntry} {made : List VerificationEntry}
    (hentry : made[id]? = some entry) {j : Nat} {x : VerificationEntry} (h : (made.modify id f)[j]? = some x) :
    (j = id ∧ x = f entry) ∨ (j ≠ id ∧ made[j]? = some x) := by
  by_cases hj : id = j
  · subst hj
    rw [modify_eq, hentry] at h
    exact .inl ⟨rfl, (Option.some.inj h).symm⟩
  · rw [modify_ne f made hj] at h
    exact .inr ⟨Ne.symm hj, h⟩

/-- A run keeps the invariant while its entry is not finished. -/
theorem Good.advances (h : Good verifier) (hentry : verifier.made[id]? = some entry) (hstage : entry.stage ≠ .ended)
    (hstep : Advances verifier id entry verifier') : Good verifier' := by
  obtain ⟨f, new, rfl, hprogress, hown⟩ := hstep
  have hunfinished : entry.finishedAt = none := by
    by_contra hfinished
    exact hstage ((h.ended id entry hentry).mp hfinished)
  have hother : ∀ j, j ≠ id → ∀ event ∈ new, VerificationEvent.id event ≠ j :=
    fun j hj event hevent heq => hj (heq.symm.trans (hown event hevent))
  refine ⟨h.keys, h.size, ?_, ?_, ?_, ?_, ?_, ?_⟩
  · intro e he
    obtain ⟨x, hx, horder⟩ := h.points e he
    by_cases hid : id = e.2
    · subst hid
      obtain rfl := Option.some.inj (hentry.symm.trans hx)
      refine ⟨f entry, ?_, hprogress.orderId.trans horder⟩
      show (verifier.made.modify e.2 f)[e.2]? = _
      rw [modify_eq, hentry]
      rfl
    · refine ⟨x, ?_, horder⟩
      show (verifier.made.modify id f)[e.2]? = _
      rw [modify_ne f _ hid, hx]
  · intro j x hx hnone
    rcases getElem?_modify hentry hx with ⟨rfl, heq⟩ | ⟨-, hx⟩
    · rw [← heq] at hprogress
      rw [hprogress.orderId]
      exact h.kept j entry hentry hunfinished
    · exact h.kept j x hx hnone
  · intro j x hx
    rcases getElem?_modify hentry hx with ⟨rfl, heq⟩ | ⟨-, hx⟩
    · rw [← heq] at hprogress
      cases hprogress with
      | failed clock new => simp
      | waiting stage new hwaiting => simp [hunfinished, hwaiting.1]
      | reconciling scan hscan => simp [hunfinished]
      | completed clock hreconciling => simp
    · exact h.ended j x hx
  · intro j x hx
    refine List.mem_append_right _ ?_
    rcases getElem?_modify hentry hx with ⟨rfl, heq⟩ | ⟨-, hx⟩
    · rw [← heq] at hprogress
      rw [hprogress.orderId]
      exact h.requested j entry hentry
    · exact h.requested j x hx
  · intro j x hx hreconciling
    rcases getElem?_modify hentry hx with ⟨rfl, heq⟩ | ⟨hj, hx⟩
    · rw [← heq] at hprogress
      rw [hprogress.orderId]
      cases hprogress with
      | failed clock new => exact nomatch hreconciling
      | waiting stage new hwaiting => exact absurd hreconciling hwaiting.2
      | reconciling scan hscan =>
        refine ⟨[.checked j true], scan, verifier.log, rfl, hscan, h.requested j entry hentry, fun current hmem => ?_⟩
        exact (VerificationEvent.checked.inj (List.mem_singleton.mp hmem)).2
      | completed clock hstage => exact nomatch hreconciling
    · exact (h.scanned j x hx hreconciling).append (hother j hj)
  · intro j x hx hcompleted
    rcases getElem?_modify hentry hx with ⟨rfl, heq⟩ | ⟨hj, hx⟩
    · rw [← heq] at hprogress
      rw [hprogress.orderId]
      cases hprogress with
      | failed clock new => exact nomatch hcompleted
      | waiting stage new hwaiting => exact (h.verified j entry hentry hcompleted).append new
      | reconciling scan hscan => exact nomatch hcompleted
      | completed clock hreconciling => exact (h.scanned j entry hentry hreconciling).verified
    · exact (h.verified j x hx hcompleted).append new

/-! ## The map -/

/-- Leaving finished entries out of the map keeps the invariant. -/
theorem Good.filter (h : Good verifier) {p : String × Nat → Bool}
    (hp : ∀ e ∈ verifier.entries, p e = false → ∃ entry, verifier.made[e.2]? = some entry ∧ entry.finishedAt ≠ none) :
    Good { verifier with entries := verifier.entries.filter p } where
  keys := (verifier.entries.filter_sublist.map Prod.fst).nodup h.keys
  size := (List.length_filter_le _ _).trans h.size
  points e he := h.points e (List.mem_filter.mp he).1
  kept id entry hentry hnone := by
    refine List.mem_filter.mpr ⟨h.kept id entry hentry hnone, ?_⟩
    by_contra hout
    obtain ⟨x, hx, hfinished⟩ := hp _ (h.kept id entry hentry hnone) (Bool.not_eq_true _ ▸ hout)
    obtain rfl := Option.some.inj (hentry.symm.trans hx)
    exact hfinished hnone
  ended := h.ended
  requested := h.requested
  scanned := h.scanned
  verified := h.verified

theorem Good.find? (h : Good verifier) {e : String × Nat} (he : e ∈ verifier.entries) :
    verifier.entries.find? (fun x => x.1 = e.1) = some e := by
  have hnodup := h.keys
  generalize verifier.entries = entries at he hnodup
  induction entries with
  | nil => exact absurd he List.not_mem_nil
  | cons x entries ih =>
    obtain ⟨hx, hrest⟩ := List.nodup_cons.mp hnodup
    rcases List.mem_cons.mp he with rfl | he
    · exact List.find?_cons_of_pos (by simp)
    · have hne : x.1 ≠ e.1 := fun heq => hx (heq ▸ List.mem_map_of_mem he)
      rw [List.find?_cons_of_neg (by simpa using hne)]
      exact ih he hrest

/-- The map gives an entry of the order, and every one that it holds. -/
theorem Good.entryFor_iff (h : Good verifier) :
    verifier.entryFor orderId = some entry ↔ ∃ id, (orderId, id) ∈ verifier.entries ∧ verifier.made[id]? = some entry := by
  unfold entryFor
  rw [Option.bind_eq_some_iff]
  constructor
  · rintro ⟨e, he, hentry⟩
    have horder : e.1 = orderId := by simpa using List.find?_some he
    exact ⟨e.2, horder ▸ List.mem_of_find?_eq_some he, hentry⟩
  · rintro ⟨id, hmem, hentry⟩
    exact ⟨(orderId, id), h.find? hmem, hentry⟩

theorem Good.entryFor_eq_none (h : Good verifier) (hnone : verifier.entryFor orderId = none) :
    orderId ∉ verifier.entries.map Prod.fst := by
  intro hmem
  obtain ⟨e, he, rfl⟩ := List.mem_map.mp hmem
  obtain ⟨entry, hentry, -⟩ := h.points e he
  exact nomatch hnone.symm.trans (h.entryFor_iff.mpr ⟨e.2, he, hentry⟩)

/-- **An unfinished verification is the one the map gives.** -/
theorem Good.unfinished (h : Good verifier) (hentry : verifier.made[id]? = some entry) (hnone : entry.finishedAt = none) :
    verifier.entryFor entry.orderId = some entry :=
  h.entryFor_iff.mpr ⟨id, h.kept id entry hentry hnone, hentry⟩

theorem Good.delete (h : Good verifier) (hfinished : ∀ entry, verifier.entryFor orderId = some entry → entry.finishedAt ≠ none) :
    Good (verifier.delete orderId) := by
  refine h.filter fun e he hp => ?_
  obtain ⟨entry, hentry, -⟩ := h.points e he
  have horder : e.1 = orderId := by simpa using hp
  exact ⟨entry, hentry, hfinished entry (h.entryFor_iff.mpr ⟨e.2, horder ▸ he, hentry⟩)⟩

theorem finished_of_expired {clock : Int} (h : expired clock entry = true) : entry.finishedAt ≠ none := by
  intro hnone
  unfold expired at h
  rw [hnone] at h
  exact Bool.false_ne_true h

theorem Good.get (h : Good verifier) (shown : Shown) : Good (get orderId shown verifier).2 := by
  unfold CheckoutVerifier.get
  cases hentry : verifier.entryFor orderId with
  | none => exact h
  | some entry =>
    dsimp only
    split
    · refine h.delete fun x hx => ?_
      obtain rfl := Option.some.inj (hentry.symm.trans hx)
      exact finished_of_expired ‹_›
    · exact h

theorem Good.sweep (h : Good verifier) (clock : String → Int) : Good (verifier.sweep clock) := by
  refine h.filter fun e he hp => ?_
  obtain ⟨entry, hentry, -⟩ := h.points e he
  rw [hentry] at hp
  exact ⟨entry, hentry, finished_of_expired (by simpa using hp)⟩

theorem keys_setKey (orderId : String) (id : Nat) (entries : List (String × Nat)) :
    (setKey orderId id entries).map Prod.fst =
      if orderId ∈ entries.map Prod.fst then entries.map Prod.fst else entries.map Prod.fst ++ [orderId] := by
  induction entries with
  | nil => rfl
  | cons e entries ih =>
    unfold setKey
    by_cases he : e.1 = orderId
    · simp [he]
    · rw [if_neg he, List.map_cons, ih, List.map_cons]
      by_cases hmem : orderId ∈ entries.map Prod.fst
      · rw [if_pos hmem, if_pos (List.mem_cons_of_mem _ hmem)]
      · have hout : orderId ∉ e.1 :: entries.map Prod.fst := by
          intro h
          rcases List.mem_cons.mp h with h | h
          · exact he h.symm
          · exact hmem h
        rw [if_neg hmem, if_neg hout, List.cons_append]

theorem mem_setKey {orderId : String} {id : Nat} {entries : List (String × Nat)} {e : String × Nat}
    (h : e ∈ setKey orderId id entries) : e = (orderId, id) ∨ e ∈ entries := by
  induction entries with
  | nil => exact .inl (List.mem_singleton.mp h)
  | cons x entries ih =>
    unfold setKey at h
    split at h
    · rcases List.mem_cons.mp h with rfl | h
      · exact .inl rfl
      · exact .inr (List.mem_cons_of_mem _ h)
    · rcases List.mem_cons.mp h with rfl | h
      · exact .inr List.mem_cons_self
      · rcases ih h with h | h
        · exact .inl h
        · exact .inr (List.mem_cons_of_mem _ h)

theorem mem_setKey_of_ne {orderId : String} {id : Nat} {entries : List (String × Nat)} {e : String × Nat} (h : e ∈ entries)
    (hne : e.1 ≠ orderId) : e ∈ setKey orderId id entries := by
  induction entries with
  | nil => exact absurd h List.not_mem_nil
  | cons x entries ih =>
    unfold setKey
    split
    case isTrue hx =>
      rcases List.mem_cons.mp h with rfl | h
      · exact absurd hx hne
      · exact List.mem_cons_of_mem _ h
    case isFalse =>
      rcases List.mem_cons.mp h with rfl | h
      · exact List.mem_cons_self
      · exact List.mem_cons_of_mem _ (ih h)

theorem mem_setKey_self (orderId : String) (id : Nat) (entries : List (String × Nat)) :
    (orderId, id) ∈ setKey orderId id entries := by
  induction entries with
  | nil => exact List.mem_singleton_self _
  | cons x entries ih =>
    unfold setKey
    split
    · exact List.mem_cons_self
    · exact List.mem_cons_of_mem _ ih

/-- The map once the new entry is in it. -/
def insert (orderId : String) (requestedAt : Int) (verifier : CheckoutVerifier) : CheckoutVerifier :=
  { made := verifier.made ++ [⟨orderId, ⟨.WAITING, requestedAt, 1⟩, none, .scanning 0⟩]
    entries := setKey orderId verifier.made.length verifier.entries
    log := .requested verifier.made.length orderId :: verifier.log }

theorem made_insert {requestedAt : Int} {x : VerificationEntry}
    (h : (verifier.insert orderId requestedAt).made[id]? = some x) :
    verifier.made[id]? = some x ∨
      (id = verifier.made.length ∧ x = ⟨orderId, ⟨.WAITING, requestedAt, 1⟩, none, .scanning 0⟩) := by
  have hlist : (verifier.insert orderId requestedAt).made =
      verifier.made ++ [⟨orderId, ⟨.WAITING, requestedAt, 1⟩, none, .scanning 0⟩] := rfl
  rw [hlist, List.getElem?_append] at h
  split at h
  · exact .inl h
  · have hlt := (List.getElem?_eq_some_iff.mp h).1
    rw [List.length_singleton] at hlt
    have hzero : id - verifier.made.length = 0 := by omega
    rw [hzero] at h
    exact .inr ⟨by omega, (Option.some.inj h).symm⟩

theorem made_insert_of_some {requestedAt : Int} {x : VerificationEntry} (h : verifier.made[id]? = some x) :
    (verifier.insert orderId requestedAt).made[id]? = some x := by
  have hlt := (List.getElem?_eq_some_iff.mp h).1
  show (verifier.made ++ _)[id]? = some x
  rw [List.getElem?_append_left hlt, h]

theorem made_insert_new (requestedAt : Int) : (verifier.insert orderId requestedAt).made[verifier.made.length]? =
    some ⟨orderId, ⟨.WAITING, requestedAt, 1⟩, none, .scanning 0⟩ := by
  show (verifier.made ++ [_])[verifier.made.length]? = _
  rw [List.getElem?_append_right (Nat.le_refl _), Nat.sub_self]
  rfl

theorem lt_of_made {x : VerificationEntry} (h : verifier.made[id]? = some x) : id < verifier.made.length :=
  (List.getElem?_eq_some_iff.mp h).1

/-- A new entry keeps the invariant when its order has no unfinished one and there is room. -/
theorem Good.insert (h : Good verifier) (requestedAt : Int)
    (hnew : ∀ (id : Nat) (entry : VerificationEntry), verifier.made[id]? = some entry → entry.orderId = orderId → entry.finishedAt ≠ none)
    (hroom : (setKey orderId verifier.made.length verifier.entries).length ≤ 256) :
    Good (verifier.insert orderId requestedAt) := by
  refine ⟨?_, hroom, ?_, ?_, ?_, ?_, ?_, ?_⟩
  · show ((setKey orderId _ verifier.entries).map Prod.fst).Nodup
    rw [keys_setKey]
    split
    · exact h.keys
    case isFalse hout =>
      refine List.nodup_append.mpr ⟨h.keys, List.nodup_singleton _, ?_⟩
      intro a ha b hb heq
      exact hout (List.mem_singleton.mp hb ▸ heq ▸ ha)
  · intro e he
    rcases mem_setKey he with rfl | he
    · exact ⟨_, made_insert_new requestedAt, rfl⟩
    · obtain ⟨x, hx, horder⟩ := h.points e he
      exact ⟨x, made_insert_of_some hx, horder⟩
  · intro j x hx hnone
    rcases made_insert hx with hx | ⟨rfl, rfl⟩
    · refine mem_setKey_of_ne (h.kept j x hx hnone) fun horder => ?_
      exact hnew j x hx horder hnone
    · exact mem_setKey_self _ _ _
  · intro j x hx
    rcases made_insert hx with hx | ⟨rfl, rfl⟩
    · exact h.ended j x hx
    · simp
  · intro j x hx
    rcases made_insert hx with hx | ⟨rfl, rfl⟩
    · exact List.mem_cons_of_mem _ (h.requested j x hx)
    · exact List.mem_cons_self
  · intro j x hx hreconciling
    rcases made_insert hx with hx | ⟨rfl, rfl⟩
    · have hother : ∀ event ∈ [VerificationEvent.requested verifier.made.length orderId], VerificationEvent.id event ≠ j := by
        intro event hevent heq
        rw [List.mem_singleton.mp hevent] at heq
        exact Nat.lt_irrefl _ (heq ▸ lt_of_made hx)
      exact (h.scanned j x hx hreconciling).append hother
    · exact nomatch hreconciling
  · intro j x hx hcompleted
    rcases made_insert hx with hx | ⟨rfl, rfl⟩
    · exact (h.verified j x hx hcompleted).append [.requested verifier.made.length orderId]
    · exact nomatch hcompleted

theorem create_eq (asked : Asked) : create orderId asked verifier =
    check verifier.made.length asked.stillCurrent asked.finishedAt (setStage verifier.made.length (.scanning 0))
      (verifier.insert orderId asked.requestedAt) := rfl

theorem create_advances (asked : Asked) :
    Advances (verifier.insert orderId asked.requestedAt) verifier.made.length
      ⟨orderId, ⟨.WAITING, asked.requestedAt, 1⟩, none, .scanning 0⟩ (create orderId asked verifier) := by
  rw [create_eq]
  unfold check
  split
  · exact advances_setStage _ ⟨by simp, by simp⟩ [.checked verifier.made.length true] (own_one rfl)
  · exact advances_fail _ [.checked verifier.made.length false] (own_one rfl)

/-! ## Room -/

theorem oldestFinished_mem {oldest : String × Int} (h : verifier.oldestFinished = some oldest) :
    ∃ e ∈ verifier.entries, e.1 = oldest.1 ∧ verifier.finishedAt? e.2 = some oldest.2 := by
  have hfold : ∀ (entries : List (String × Nat)) (best : Option (String × Int)),
      entries.foldl verifier.older best = some oldest →
        best = some oldest ∨ ∃ e ∈ entries, e.1 = oldest.1 ∧ verifier.finishedAt? e.2 = some oldest.2 := by
    intro entries
    induction entries with
    | nil => exact fun best hbest => .inl hbest
    | cons e entries ih =>
      intro best hbest
      rcases ih _ hbest with hbest | ⟨x, hx, hrest⟩
      · unfold older at hbest
        cases hfinished : verifier.finishedAt? e.2 with
        | none =>
          rw [hfinished] at hbest
          exact .inl hbest
        | some finishedAt =>
          rw [hfinished] at hbest
          have hhead : some (e.1, finishedAt) = some oldest →
              ∃ x ∈ e :: entries, x.1 = oldest.1 ∧ verifier.finishedAt? x.2 = some oldest.2 := by
            intro heq
            obtain rfl := Option.some.inj heq
            exact ⟨e, List.mem_cons_self, rfl, hfinished⟩
          cases best with
          | none => exact .inr (hhead hbest)
          | some best =>
            dsimp only at hbest
            split at hbest
            · exact .inr (hhead hbest)
            · exact .inl hbest
      · exact .inr ⟨x, List.mem_cons_of_mem _ hx, hrest⟩
  rcases hfold verifier.entries none h with h | h
  · exact nomatch h
  · exact h

theorem length_delete_lt (hmem : orderId ∈ verifier.entries.map Prod.fst) :
    (verifier.delete orderId).entries.length < verifier.entries.length := by
  obtain ⟨e, he, rfl⟩ := List.mem_map.mp hmem
  refine List.length_filter_lt_length_iff_exists.mpr ⟨e, he, by simp⟩

/-- What `makeRoom` leaves has room for the order. -/
theorem Good.makeRoom (h : Good verifier) {clock : String → Int} (hroom : verifier.makeRoom orderId clock = some verifier') :
    Good verifier' ∧ verifier'.made = verifier.made ∧
      (setKey orderId verifier'.made.length verifier'.entries).length ≤ 256 := by
  have hsweep := h.sweep clock
  have hlength : ∀ (n : Nat) (entries : List (String × Nat)), (setKey orderId n entries).length =
      if orderId ∈ entries.map Prod.fst then entries.length else entries.length + 1 := by
    intro n entries
    rw [← List.length_map Prod.fst, keys_setKey]
    split
    · exact List.length_map _
    · rw [List.length_append, List.length_map, List.length_singleton]
  unfold CheckoutVerifier.makeRoom at hroom
  split at hroom
  case isTrue hfull =>
    obtain ⟨oldest, holdest, rfl⟩ := Option.map_eq_some_iff.mp hroom
    obtain ⟨e, he, hkey, hfinished⟩ := oldestFinished_mem holdest
    refine ⟨hsweep.delete fun entry hentry => ?_, rfl, ?_⟩
    · obtain ⟨j, hj, hmade⟩ := hsweep.entryFor_iff.mp hentry
      have hfirst := hsweep.find? he
      rw [hkey, hsweep.find? hj] at hfirst
      obtain rfl := Option.some.inj hfirst
      unfold finishedAt? at hfinished
      rw [hmade] at hfinished
      intro hnone
      exact nomatch hnone.symm.trans hfinished
    · have hlt := length_delete_lt (hkey ▸ List.mem_map_of_mem he : oldest.1 ∈ (verifier.sweep clock).entries.map Prod.fst)
      have hle := hsweep.size
      rw [hlength]
      split <;> omega
  case isFalse hfull =>
    obtain rfl := Option.some.inj hroom
    refine ⟨hsweep, rfl, ?_⟩
    have hle := hsweep.size
    rw [hlength]
    split
    · exact hle
    case isFalse hout =>
      cases hentry : verifier.entryFor orderId with
      | none =>
        rw [hentry] at hfull
        simp at hfull
        omega
      | some entry =>
        obtain ⟨j, hj, -⟩ := h.entryFor_iff.mp hentry
        have hlt : (verifier.sweep clock).entries.length < verifier.entries.length := by
          refine List.length_filter_lt_length_iff_exists.mpr ⟨(orderId, j), hj, fun hin => ?_⟩
          have hleft : (orderId, j) ∈ (verifier.sweep clock).entries := List.mem_filter.mpr ⟨hj, hin⟩
          exact hout (List.mem_map_of_mem hleft)
        have hbound := h.size
        omega

theorem Good.create (h : Good verifier) (asked : Asked)
    (hnew : ∀ (id : Nat) (entry : VerificationEntry), verifier.made[id]? = some entry → entry.orderId = orderId →
      entry.finishedAt ≠ none)
    (hroom : (setKey orderId verifier.made.length verifier.entries).length ≤ 256) :
    Good (create orderId asked verifier) :=
  (h.insert asked.requestedAt hnew hroom).advances (made_insert_new asked.requestedAt) (by simp) (create_advances asked)

/-- Where the throttle lets a request through, the order has no unfinished verification. -/
theorem Good.finished_of_not_throttled (h : Good verifier) {clock : Int}
    (hthrottled : ¬(verifier.entryFor orderId).any (throttled clock) = true) :
    ∀ (id : Nat) (entry : VerificationEntry), verifier.made[id]? = some entry → entry.orderId = orderId →
      entry.finishedAt ≠ none := by
  rintro id entry hentry rfl hnone
  refine hthrottled ?_
  rw [h.unfinished hentry hnone]
  unfold throttled
  simp [hnone]

theorem Good.request (h : Good verifier) (asked : Asked) : Good (request orderId asked verifier).2 := by
  unfold CheckoutVerifier.request
  split
  · exact h.get asked.shown
  case isFalse hthrottled =>
    cases hroom : verifier.makeRoom orderId asked.sweep with
    | none => exact h.sweep asked.sweep
    | some verifier' =>
      obtain ⟨hgood, hmade, hsize⟩ := h.makeRoom hroom
      have hnew := h.finished_of_not_throttled hthrottled
      rw [← hmade] at hnew
      exact (hgood.create asked hnew hsize).get asked.shown

/-! ## Runs -/

theorem Good.step (h : Good verifier) {action : Action} (hstep : Step verifier action verifier') : Good verifier' := by
  cases hstep with
  | get orderId shown => exact h.get shown
  | request orderId asked => exact h.request asked
  | scanSettled scan current clock hentry hstage =>
    exact h.advances hentry (by simp [hstage]) (scanSettled_advances _ scan current clock)
  | yielded current clock hentry hstage =>
    exact h.advances hentry (by simp [hstage]) (yielded_advances _ current clock)
  | reconciled reconciliation current clock hentry hstage =>
    exact h.advances hentry (by simp [hstage]) (reconciled_advances hstage reconciliation current clock)

theorem reachable_good (h : Runs.Reachable system verifier) : Good verifier := by
  refine h.invariant (I := Good) ?_ fun _ _ _ hgood hstep => hgood.step hstep
  rintro _ rfl
  exact Good.empty

/-- What is finished stays as it is. -/
def Keeps (verifier verifier' : CheckoutVerifier) : Prop :=
  ∀ (id : Nat) (entry : VerificationEntry), verifier.made[id]? = some entry → entry.finishedAt ≠ none →
    verifier'.made[id]? = some entry

theorem Good.advances_keeps (h : Good verifier) (hentry : verifier.made[id]? = some entry) (hstage : entry.stage ≠ .ended)
    (hstep : Advances verifier id entry verifier') : Keeps verifier verifier' := by
  obtain ⟨f, new, rfl, -, -⟩ := hstep
  intro j x hx hfinished
  have hj : id ≠ j := by
    rintro rfl
    obtain rfl := Option.some.inj (hentry.symm.trans hx)
    exact hstage ((h.ended id entry hentry).mp hfinished)
  show (verifier.made.modify id f)[j]? = _
  rw [modify_ne f _ hj, hx]

theorem get_made (shown : Shown) : (get orderId shown verifier).2.made = verifier.made := by
  unfold CheckoutVerifier.get
  cases verifier.entryFor orderId with
  | none => rfl
  | some entry =>
    dsimp only
    split <;> rfl

theorem create_keeps (asked : Asked) : Keeps verifier (create orderId asked verifier) := by
  have hadvances : Advances (verifier.insert orderId asked.requestedAt) _ _ (CheckoutVerifier.create orderId asked verifier) :=
    create_advances asked
  obtain ⟨f, new, heq, -, -⟩ := hadvances
  intro j x hx hfinished
  rw [heq]
  show ((verifier.insert orderId asked.requestedAt).made.modify verifier.made.length f)[j]? = _
  rw [modify_ne f _ (Nat.ne_of_gt (lt_of_made hx)), made_insert_of_some hx]

theorem Good.request_keeps (h : Good verifier) (asked : Asked) : Keeps verifier (CheckoutVerifier.request orderId asked verifier).2 := by
  intro j x hx hfinished
  unfold CheckoutVerifier.request
  split
  · show (CheckoutVerifier.get orderId asked.shown verifier).2.made[j]? = _
    rw [get_made, hx]
  · cases hroom : verifier.makeRoom orderId asked.sweep with
    | none => exact hx
    | some verifier' =>
      obtain ⟨-, hmade, -⟩ := h.makeRoom hroom
      show (CheckoutVerifier.get orderId asked.shown (CheckoutVerifier.create orderId asked verifier')).2.made[j]? = _
      rw [get_made]
      exact create_keeps asked j x (hmade ▸ hx) hfinished

theorem Good.step_keeps (h : Good verifier) {action : Action} (hstep : Step verifier action verifier') :
    Keeps verifier verifier' := by
  cases hstep with
  | get orderId shown =>
    intro j x hx _
    rw [get_made, hx]
  | request orderId asked => exact h.request_keeps asked
  | scanSettled scan current clock hentry hstage =>
    exact h.advances_keeps hentry (by simp [hstage]) (scanSettled_advances _ scan current clock)
  | yielded current clock hentry hstage =>
    exact h.advances_keeps hentry (by simp [hstage]) (yielded_advances _ current clock)
  | reconciled reconciliation current clock hentry hstage =>
    exact h.advances_keeps hentry (by simp [hstage]) (reconciled_advances hstage reconciliation current clock)

theorem Good.path_keeps (h : Good verifier) {actions : List Action} (hpath : Runs.Path system verifier actions verifier') :
    Keeps verifier verifier' := by
  have hrefl : ∀ v, Keeps v v := fun _ _ _ hx _ => hx
  have htrans : ∀ {u v w}, Keeps u v → Keeps v w → Keeps u w :=
    fun huv hvw j x hx hfinished => hvw j x (huv j x hx hfinished) hfinished
  exact (hpath.relates (I := Good) hrefl htrans (fun _ _ _ hgood hstep => ⟨hgood.step hstep, hgood.step_keeps hstep⟩) h).2

/-! ## The answer of `request` -/

theorem get_eq_none {shown : Shown} (hentry : verifier.entryFor orderId = some entry) :
    (CheckoutVerifier.get orderId shown verifier).1 = none ↔ expired shown.clock entry = true := by
  unfold CheckoutVerifier.get
  rw [hentry]
  dsimp only
  by_cases hexpired : expired shown.clock entry = true
  · simp [hexpired]
  · simp [hexpired]

/-- `get` reads a clock that is more than five minutes after the end of the verification which `request` is to
    answer with: one that the throttle leaves in place, or a new one that ended at once. -/
def LateReading (orderId : String) (asked : Asked) (verifier : CheckoutVerifier) : Prop :=
  (∃ entry finishedAt, verifier.entryFor orderId = some entry ∧ entry.finishedAt = some finishedAt ∧
      asked.throttle - entry.value.requestedAt < 5000 ∧ 300000 < asked.shown.clock - finishedAt) ∨
    ((verifier.entryFor orderId).any (throttled asked.throttle) = false ∧ (verifier.makeRoom orderId asked.sweep).isSome ∧
      asked.stillCurrent = false ∧ 300000 < asked.shown.clock - asked.finishedAt)

theorem expired_iff {clock : Int} : expired clock entry = true ↔
    ∃ finishedAt, entry.finishedAt = some finishedAt ∧ 300000 < clock - finishedAt := by
  unfold expired
  cases entry.finishedAt with
  | none => simp
  | some finishedAt => simp

/-- The new entry, once its run waits or has ended. -/
def createdEntry (orderId : String) (asked : Asked) : VerificationEntry :=
  if asked.stillCurrent then ⟨orderId, ⟨.WAITING, asked.requestedAt, 1⟩, none, .scanning 0⟩
  else ⟨orderId, ⟨.FAILED, asked.requestedAt, 0⟩, some asked.finishedAt, .ended⟩

theorem create_made (asked : Asked) :
    (CheckoutVerifier.create orderId asked verifier).made[verifier.made.length]? = some (createdEntry orderId asked) := by
  have hnewest : (verifier.insert orderId asked.requestedAt).made[verifier.made.length]? = _ :=
    made_insert_new asked.requestedAt
  rw [create_eq]
  unfold check createdEntry
  split
  · show ((verifier.insert orderId asked.requestedAt).made.modify _ _)[verifier.made.length]? = _
    rw [modify_eq, hnewest]
    rfl
  · show ((verifier.insert orderId asked.requestedAt).made.modify _ _)[verifier.made.length]? = _
    rw [modify_eq, hnewest]
    rfl

theorem create_entries (asked : Asked) : (CheckoutVerifier.create orderId asked verifier).entries =
    setKey orderId verifier.made.length verifier.entries := by
  rw [create_eq]
  unfold check
  split <;> rfl

theorem Good.created {asked : Asked} (h : Good (CheckoutVerifier.create orderId asked verifier)) :
    (CheckoutVerifier.create orderId asked verifier).entryFor orderId = some (createdEntry orderId asked) := by
  refine h.entryFor_iff.mpr ⟨verifier.made.length, ?_, create_made asked⟩
  rw [create_entries]
  exact mem_setKey_self orderId verifier.made.length verifier.entries

/-- **`request` answers with nothing** exactly on a late reading. -/
theorem Good.request_undefined_iff (h : Good verifier) (asked : Asked) :
    (CheckoutVerifier.request orderId asked verifier).1 = .verification none ↔ LateReading orderId asked verifier := by
  unfold CheckoutVerifier.request LateReading
  by_cases hthrottled : (verifier.entryFor orderId).any (throttled asked.throttle) = true
  · rw [if_pos hthrottled, hthrottled]
    obtain ⟨entry, hentry, hentryThrottled⟩ := (Option.any_eq_true _ _).mp hthrottled
    have hanswer : (answer (CheckoutVerifier.get orderId asked.shown verifier)).1 = .verification none ↔
        expired asked.shown.clock entry = true := by
      rw [← get_eq_none hentry]
      exact Answer.verification.injEq _ _ ▸ Iff.rfl
    rw [hanswer, expired_iff]
    constructor
    · rintro ⟨finishedAt, hfinished, hlate⟩
      refine .inl ⟨entry, finishedAt, hentry, hfinished, ?_, hlate⟩
      unfold throttled at hentryThrottled
      simpa [hfinished] using hentryThrottled
    · rintro (⟨x, finishedAt, hx, hfinished, -, hlate⟩ | ⟨hfalse, -⟩)
      · obtain rfl := Option.some.inj (hentry.symm.trans hx)
        exact ⟨finishedAt, hfinished, hlate⟩
      · exact nomatch hfalse
  · rw [if_neg hthrottled]
    have hleft : ¬∃ entry finishedAt, verifier.entryFor orderId = some entry ∧ entry.finishedAt = some finishedAt ∧
        asked.throttle - entry.value.requestedAt < 5000 ∧ 300000 < asked.shown.clock - finishedAt := by
      rintro ⟨entry, finishedAt, hentry, -, hsoon, -⟩
      refine hthrottled ((Option.any_eq_true _ _).mpr ⟨entry, hentry, ?_⟩)
      unfold throttled
      simp [hsoon]
    have hfalse := Bool.not_eq_true _ ▸ hthrottled
    rw [or_iff_right hleft, hfalse]
    cases hroom : verifier.makeRoom orderId asked.sweep with
    | none => simp
    | some verifier' =>
      obtain ⟨hgood, hmade, hsize⟩ := h.makeRoom hroom
      have hnew := h.finished_of_not_throttled hthrottled
      rw [← hmade] at hnew
      have hentry := (hgood.create asked hnew hsize).created
      have hanswer : (answer (CheckoutVerifier.get orderId asked.shown (CheckoutVerifier.create orderId asked verifier'))).1 =
          .verification none ↔ expired asked.shown.clock (createdEntry orderId asked) = true := by
        rw [← get_eq_none hentry]
        exact Answer.verification.injEq _ _ ▸ Iff.rfl
      dsimp only
      rw [hanswer, expired_iff]
      unfold createdEntry
      cases asked.stillCurrent with
      | true => simp
      | false => simp

end Invariant

/-! ## The verifier -/

/-- **The checkout verifier**, in every state that it can reach: an order has one unfinished verification at most, which
    the map holds, and the map holds 256; what is finished stays as it is; COMPLETED has been verified; and
    `request` answers with nothing exactly when its answer is read too late. -/
theorem checkout_verifier {verifier : CheckoutVerifier} (h : Runs.Reachable system verifier) :
    (∀ (id id' : Nat) (entry entry' : VerificationEntry), verifier.made[id]? = some entry → verifier.made[id']? = some entry' →
      entry.finishedAt = none → entry'.finishedAt = none → entry.orderId = entry'.orderId → id = id') ∧
    (∀ (id : Nat) (entry : VerificationEntry), verifier.made[id]? = some entry → entry.finishedAt = none →
      (entry.orderId, id) ∈ verifier.entries ∧ verifier.entryFor entry.orderId = some entry) ∧
    verifier.entries.length ≤ 256 ∧
    (∀ (actions : List Action) (verifier' : CheckoutVerifier), Runs.Path system verifier actions verifier' →
      ∀ (id : Nat) (entry : VerificationEntry), verifier.made[id]? = some entry → entry.finishedAt ≠ none →
        verifier'.made[id]? = some entry) ∧
    (∀ (id : Nat) (entry : VerificationEntry), verifier.made[id]? = some entry → entry.value.state = .COMPLETED →
      Verified verifier.log id entry.orderId) ∧
    ∀ (orderId : String) (asked : Asked),
      (request orderId asked verifier).1 = .verification none ↔ LateReading orderId asked verifier := by
  have hgood := reachable_good h
  refine ⟨?_, ?_, hgood.size, fun _ _ hpath => hgood.path_keeps hpath, hgood.verified,
    fun orderId asked => hgood.request_undefined_iff asked⟩
  · intro id id' entry entry' hentry hentry' hnone hnone' horder
    have hfirst := hgood.find? (hgood.kept id entry hentry hnone)
    have hfirst' := hgood.find? (hgood.kept id' entry' hentry' hnone')
    dsimp only at hfirst hfirst'
    rw [horder, hfirst'] at hfirst
    exact (Prod.mk.inj (Option.some.inj hfirst)).2.symm
  · intro id entry hentry hnone
    exact ⟨hgood.kept id entry hentry hnone, hgood.unfinished hentry hnone⟩

/-! A verification is requested at 1,000,000; the clock goes back ten minutes before its scan fails, and forth again
    before the order is asked for once more. -/

def askedAt (clock : Int) : Asked := ⟨clock, fun _ => clock, clock, true, clock, ⟨clock, false, none, clock, clock⟩⟩

def afterRequest : CheckoutVerifier := (request "order" (askedAt 1000000) empty).2

def afterFailure : CheckoutVerifier := scanSettled 0 0 none true 400000 afterRequest

theorem afterRequest_reachable : Runs.Reachable system afterRequest :=
  ⟨_, .next (.start rfl) (.request "order" (askedAt 1000000))⟩

theorem afterFailure_reachable : Runs.Reachable system afterFailure := by
  obtain ⟨actions, hrun⟩ := afterRequest_reachable
  have hstage : ∃ entry, afterRequest.made[0]? = some entry ∧ entry.stage = .scanning 0 := ⟨_, rfl, rfl⟩
  obtain ⟨entry, hentry, hstage⟩ := hstage
  exact ⟨_, hrun.next (.scanSettled none true 400000 hentry hstage)⟩

theorem checkout_verifier_order :
    (∀ (actions : List Action) (verifier' : CheckoutVerifier), Runs.Path system afterFailure actions verifier' →
      (verifier'.made[0]?).map (·.value.state) = some .FAILED) ∧
    ((request "order" (askedAt 1001000) afterRequest).1 = .verification none ↔
      LateReading "order" (askedAt 1001000) afterRequest) := by
  constructor
  · intro actions verifier' hpath
    obtain ⟨-, -, -, hkeeps, -, -⟩ := checkout_verifier afterFailure_reachable
    have hentry : ∃ entry, afterFailure.made[0]? = some entry ∧ entry.finishedAt ≠ none ∧ entry.value.state = .FAILED :=
      ⟨_, rfl, by decide +kernel, rfl⟩
    obtain ⟨entry, hentry, hfinished, hstate⟩ := hentry
    rw [hkeeps actions verifier' hpath 0 entry hentry hfinished, Option.map_some, hstate]
  · exact (checkout_verifier afterRequest_reachable).2.2.2.2.2 "order" (askedAt 1001000)

theorem request_undefined :
    ∃ verifier, Runs.Reachable system verifier ∧ (request "order" (askedAt 1001000) verifier).1 = .verification none :=
  ⟨afterFailure, afterFailure_reachable, by decide +kernel⟩

end PerPay.Runtime.CheckoutVerifier
