/-
  **The occurrences of a financial exception** (`ensureException`).

  An exception is recorded under a fingerprint of its facts and of a context key.  While the one under the
  caller's own context key is open, a repeated call finds it.  Once that one is resolved, the next occurrence gets
  a key derived from the length of the history and from its latest row — and the history is longer as soon as
  the occurrence is in it: the next call derives another key, does not find what the last one recorded, and
  records it again.  So `ensureException` ensures one occurrence exactly when its own exception was never resolved,
  and no other context holds the only one (`exception_ensured`).
-/
import PerPay.Finance.Decisions
import Mathlib.Data.Finset.Preimage
import Mathlib.Data.Fintype.EquivFin

namespace PerPay.Finance

open Txn Table

variable {pf : FinancePlatform} {db db' : FinanceDb}

/-! ## Histories -/

/-- The facts that an exception was recorded for. -/
def FinancialException.input (e : FinancialException) : ExceptionInput where
  providerAccountKey := e.providerAccountKey
  exceptionType := e.exceptionType
  ledgerEntryId := e.ledgerEntryId
  orderId := e.orderId
  candidateId := e.candidateId
  contextKey := e.contextKey
  details := e.details

/-- An exception of the provider account, type, ledger entry, order and candidate of the input. -/
def ExceptionInput.concerns (input : ExceptionInput) (e : FinancialException) : Bool :=
  e.providerAccountKey = input.providerAccountKey && e.exceptionType = input.exceptionType &&
    e.ledgerEntryId = input.ledgerEntryId && e.orderId = input.orderId && e.candidateId = input.candidateId

/-- A table of exceptions, each under the fingerprint of its facts, no fingerprint twice. -/
structure ExceptionHistory (pf : FinancePlatform) (rows : List FinancialException) : Prop where
  fingerprints : ∀ e ∈ rows, e.exceptionFingerprint = financialExceptionFingerprint pf e.input
  unique : UniqueOn (·.exceptionFingerprint) rows

/-- The open exceptions that the input is about, under any context key. -/
def openOccurrences (db : FinanceDb) (input : ExceptionInput) : List FinancialException :=
  db.exceptions.filter fun e => input.concerns e && e.status = .OPEN

/-- The exception under the context key of the input. -/
def ownOccurrence (pf : FinancePlatform) (db : FinanceDb) (input : ExceptionInput) : Option FinancialException :=
  db.exceptions.find? fun e => e.exceptionFingerprint = financialExceptionFingerprint pf input

/-- The input under the context key that is derived from its history. -/
def ExceptionInput.next (input : ExceptionInput) (occurrence : Nat) (latest : Uuid) : ExceptionInput :=
  { input with contextKey := .reclassified occurrence latest }

theorem next_concerns (input : ExceptionInput) (occurrence : Nat) (latest : Uuid) (e : FinancialException) :
    (input.next occurrence latest).concerns e = input.concerns e := rfl

theorem readExceptionClassificationHistory_eq (input : ExceptionInput) :
    readExceptionClassificationHistory db input = (db.exceptions.filter input.concerns).mergeSort FinancialException.after := rfl

theorem length_history (input : ExceptionInput) :
    (readExceptionClassificationHistory db input).length = (db.exceptions.filter input.concerns).length := by
  rw [readExceptionClassificationHistory_eq, List.length_mergeSort]

/-! ## Fingerprints -/

theorem FinancialExceptionType.name_injective : Function.Injective FinancialExceptionType.name := by
  intro a b h
  cases a <;> cases b <;> first | rfl | exact absurd h (by decide)

/-- The fingerprint of an exception determines its facts and the text of its context key. -/
theorem financialExceptionFingerprint_facts (hsha : Function.Injective pf.orders.sha256)
    (huuid : Function.Injective pf.orders.uuidText) {a b : ExceptionInput}
    (h : financialExceptionFingerprint pf a = financialExceptionFingerprint pf b) :
    (a.providerAccountKey = b.providerAccountKey ∧ a.exceptionType = b.exceptionType ∧ a.ledgerEntryId = b.ledgerEntryId ∧
      a.orderId = b.orderId ∧ a.candidateId = b.candidateId) ∧ a.contextKey.text pf = b.contextKey.text pf := by
  have hmembers := sha256Json_injective hsha h
  simp only [List.cons.injEq, Prod.mk.injEq, true_and, and_true] at hmembers
  obtain ⟨haccount, htype, hentry, horder, hcandidate, hcontext⟩ := hmembers
  have htexts := optionScalar_injective textScalar_injective (fun _ => nofun)
  have huuids := optionScalar_injective (uuidScalar_injective huuid) (fun _ => nofun)
  exact ⟨⟨textScalar_injective haccount, FinancialExceptionType.name_injective (textScalar_injective htype), htexts hentry,
    huuids horder, huuids hcandidate⟩, textScalar_injective hcontext⟩

/-- The text of a derived context key shows the number of the occurrence. -/
theorem occurrence_of_text {n m : Nat} {x y : Uuid}
    (h : (ContextKey.reclassified n x).text pf = (ContextKey.reclassified m y).text pf) : n = m := by
  have hchars := congrArg String.toList h
  unfold ContextKey.text at hchars
  simp only [String.toList_append, String.toList_ofList, List.append_assoc, List.append_cancel_left_eq] at hchars
  have hends : ∀ r : List Char, Json.EndsNumber (":".toList ++ r) := fun r => ⟨':', r, rfl, by decide⟩
  exact Json.natText_injective (Json.digits_read _ _ _ _ Json.natText_isDigit Json.natText_isDigit (hends _) (hends _) hchars).1

theorem ExceptionHistory.concerns (hsha : Function.Injective pf.orders.sha256) (huuid : Function.Injective pf.orders.uuidText)
    (h : ExceptionHistory pf db.exceptions) {input : ExceptionInput} {e : FinancialException} (he : e ∈ db.exceptions)
    (hfingerprint : e.exceptionFingerprint = financialExceptionFingerprint pf input) : input.concerns e = true := by
  rw [h.fingerprints e he] at hfingerprint
  obtain ⟨⟨haccount, htype, hentry, horder, hcandidate⟩, -⟩ := financialExceptionFingerprint_facts hsha huuid hfingerprint
  unfold ExceptionInput.concerns
  simp only [Bool.and_eq_true, decide_eq_true_eq]
  exact ⟨⟨⟨⟨haccount, htype⟩, hentry⟩, horder⟩, hcandidate⟩

theorem ownOccurrence_some {input : ExceptionInput} {e : FinancialException} (h : ownOccurrence pf db input = some e) :
    e ∈ db.exceptions ∧ e.exceptionFingerprint = financialExceptionFingerprint pf input := by
  unfold ownOccurrence at h
  have hfingerprint := List.find?_some h
  exact ⟨List.mem_of_find?_eq_some h, of_decide_eq_true hfingerprint⟩

/-! ## One call -/

/-- The open exception under the own context key is the answer. -/
theorem ensureException_of_open {input : ExceptionInput} {e : FinancialException} (hown : ownOccurrence pf db input = some e)
    (hopen : e.status = .OPEN) (now : Nat) : ensureException pf input now db = .ok (e, db) := by
  unfold ownOccurrence at hown
  unfold ensureException ensureExceptionRound
  rw [readWith_bind, hown]
  dsimp only
  rw [if_pos hopen]
  rfl

/-- The tables with one exception more. -/
def FinanceDb.withException (db : FinanceDb) (e : FinancialException) : FinanceDb :=
  { db with exceptions := db.exceptions ++ [e], drawn := db.drawn + 1 }

theorem ensureException_of_none {input : ExceptionInput} (hown : ownOccurrence pf db input = none) {now : Nat}
    (hsupports : db.supportsException (newException pf input (db.entropy db.drawn) now))
    (hfresh : ∀ e ∈ db.exceptions, e.exceptionId ≠ db.entropy db.drawn) :
    ensureException pf input now db =
      .ok (newException pf input (db.entropy db.drawn) now, db.withException (newException pf input (db.entropy db.drawn) now)) := by
  have hnew : db.exceptions.all fun e => e.exceptionId ≠ (newException pf input (db.entropy db.drawn) now).exceptionId &&
      e.exceptionFingerprint ≠ (newException pf input (db.entropy db.drawn) now).exceptionFingerprint := by
    refine List.all_eq_true.mpr fun e he => ?_
    have hother := of_decide_eq_false (Bool.eq_false_iff.mpr (List.find?_eq_none.mp hown e he))
    rw [Bool.and_eq_true, decide_eq_true_eq, decide_eq_true_eq]
    exact ⟨hfresh e he, hother⟩
  have hinsert : insertException (newException pf input (db.entropy db.drawn) now) (db.drew 1) =
      .ok ((), db.withException (newException pf input (db.entropy db.drawn) now)) := by
    unfold insertException
    rw [readWith_bind, require_bind_met (show (id (db.drew 1)).supportsException _ = true from hsupports),
      require_bind_met (show ((id (db.drew 1)).exceptions.all _) = true from hnew)]
    rfl
  unfold ownOccurrence at hown
  unfold ensureException ensureExceptionRound
  rw [readWith_bind, hown]
  dsimp only
  rw [bind_of_ok (show randomUUID db = .ok (db.entropy db.drawn, db.drew 1) from rfl), bind_of_ok hinsert]
  rfl

/-! ## A call after a resolution -/

section
variable {input : ExceptionInput} {own : FinancialException} {e : FinancialException} {now : Nat}

/-- The rounds after the first look for derived keys of one number: the table does not change between them. -/
theorem ensureExceptionRound_next : ∀ {attempts occurrence latest},
    occurrence = (readExceptionClassificationHistory db input).length + 1 →
      ensureExceptionRound pf input now attempts (input.next occurrence latest) db = .ok (e, db') →
      (∃ latest', e.exceptionFingerprint = financialExceptionFingerprint pf (input.next occurrence latest')) ∧
      ∃ more, db'.exceptions = db.exceptions ++ more ∧ e ∈ db'.exceptions
  | 0, _, _, _, hx => (fail_ok.mp hx).elim
  | attempts + 1, occurrence, latest, hoccurrence, hx => by
    unfold ensureExceptionRound at hx
    rw [readWith_bind_ok] at hx
    cases hf : ownOccurrence pf db (input.next occurrence latest) with
    | none =>
      rw [show (db.exceptions.find? fun e => e.exceptionFingerprint = financialExceptionFingerprint pf (input.next occurrence latest)) =
        none from hf] at hx
      simp only [randomUUID_bind_ok] at hx
      obtain ⟨_, m, hinsert, hx⟩ := bind_ok.mp hx
      obtain ⟨-, rfl⟩ := insertException_ok hinsert
      obtain ⟨rfl, rfl⟩ := pure_ok.mp hx
      exact ⟨⟨latest, rfl⟩, _, rfl, List.mem_append_right _ (List.mem_singleton_self _)⟩
    | some existing =>
      rw [show (db.exceptions.find? fun e => e.exceptionFingerprint = financialExceptionFingerprint pf (input.next occurrence latest)) =
        some existing from hf] at hx
      dsimp only at hx
      by_cases hs : existing.status = .OPEN
      · rw [if_pos hs] at hx
        obtain ⟨rfl, rfl⟩ := pure_ok.mp hx
        exact ⟨⟨latest, (ownOccurrence_some hf).2⟩, [], (List.append_nil _).symm, (ownOccurrence_some hf).1⟩
      · rw [if_neg hs, readWith_bind_ok] at hx
        obtain ⟨hlatest, hmore⟩ := ensureExceptionRound_next rfl hx
        exact ⟨hoccurrence ▸ hlatest, hmore⟩

/-- After a resolution the answer is an exception under the key of the next number. -/
theorem ensureException_of_resolved (hown : ownOccurrence pf db input = some own) (hresolved : own.status ≠ .OPEN)
    (hx : ensureException pf input now db = .ok (e, db')) :
    (∃ latest, e.exceptionFingerprint =
      financialExceptionFingerprint pf (input.next ((readExceptionClassificationHistory db input).length + 1) latest)) ∧
    ∃ more, db'.exceptions = db.exceptions ++ more ∧ e ∈ db'.exceptions := by
  unfold ownOccurrence at hown
  unfold ensureException ensureExceptionRound at hx
  rw [readWith_bind_ok, hown] at hx
  dsimp only at hx
  rw [if_neg hresolved, readWith_bind_ok] at hx
  exact ensureExceptionRound_next rfl hx

end

/-! ## Two calls -/

/-- The call answers with an open exception of what the input is about, leaves at most one of these open if there was
    at most one, and the same call finds it again, whatever was recorded in between; nothing is resolved. -/
def ExceptionEnsured (pf : FinancePlatform) (input : ExceptionInput) (now : Nat) (db : FinanceDb) : Prop :=
  ∃ e db', ensureException pf input now db = .ok (e, db') ∧
    (e ∈ db'.exceptions ∧ e.status = .OPEN ∧ input.concerns e) ∧
    ((openOccurrences db input).length ≤ 1 → (openOccurrences db' input).length ≤ 1) ∧
    ∀ (later : Nat) (db'' : FinanceDb) (others : List FinancialException), db''.exceptions = db'.exceptions ++ others →
      ExceptionHistory pf db''.exceptions → ensureException pf input later db'' = .ok (e, db'')

/-- The own exception of the input is open, or there is none, and not exactly one is open under the other context keys. -/
def NeverResolved (pf : FinancePlatform) (db : FinanceDb) (input : ExceptionInput) : Prop :=
  match ownOccurrence pf db input with
  | some own => own.status = .OPEN
  | none => (openOccurrences db input).length ≠ 1

section
variable {input : ExceptionInput} {e own : FinancialException} {now : Nat}

theorem ownOccurrence_append (hown : ownOccurrence pf db input = some own) {others : List FinancialException}
    (hrows : db'.exceptions = db.exceptions ++ others) : ownOccurrence pf db' input = some own := by
  unfold ownOccurrence at hown ⊢
  rw [hrows]
  exact find?_append_of_some hown others

theorem ensured_of_open (hsha : Function.Injective pf.orders.sha256) (huuid : Function.Injective pf.orders.uuidText)
    (h : ExceptionHistory pf db.exceptions) (hown : ownOccurrence pf db input = some own) (hopen : own.status = .OPEN) :
    ExceptionEnsured pf input now db := by
  obtain ⟨hmem, hfingerprint⟩ := ownOccurrence_some hown
  refine ⟨own, db, ensureException_of_open hown hopen now, ⟨hmem, hopen, h.concerns hsha huuid hmem hfingerprint⟩, id, ?_⟩
  intro later db'' others hrows _
  exact ensureException_of_open (ownOccurrence_append hown hrows) hopen later

theorem openOccurrences_withException (id : Uuid) (now : Nat) :
    openOccurrences (db.withException (newException pf input id now)) input =
      openOccurrences db input ++ [newException pf input id now] := by
  unfold openOccurrences FinanceDb.withException
  refine filter_append_in ?_ db.exceptions
  simp [newException, ExceptionInput.concerns]

theorem ensured_of_none (hown : ownOccurrence pf db input = none)
    (hsupports : db.supportsException (newException pf input (db.entropy db.drawn) now))
    (hfresh : ∀ e ∈ db.exceptions, e.exceptionId ≠ db.entropy db.drawn) :
    ExceptionEnsured pf input now db ↔ (openOccurrences db input).length ≠ 1 := by
  have hcall := ensureException_of_none hown hsupports hfresh
  have hopen : openOccurrences (db.withException (newException pf input (db.entropy db.drawn) now)) input =
      openOccurrences db input ++ [newException pf input (db.entropy db.drawn) now] := openOccurrences_withException _ now
  constructor
  · rintro ⟨e, db', hx, -, hone, -⟩ hlength
    obtain ⟨-, rfl⟩ := Prod.mk.inj (Except.ok.inj (hcall.symm.trans hx))
    rw [hopen, List.length_append, List.length_singleton] at hone
    omega
  · intro hlength
    refine ⟨_, _, hcall, ⟨List.mem_append_right _ (List.mem_singleton_self _), rfl, ?_⟩, fun hone => ?_, ?_⟩
    · simp [newException, ExceptionInput.concerns]
    · rw [hopen, List.length_append, List.length_singleton]
      omega
    · intro later db'' others hrows _
      refine ensureException_of_open (ownOccurrence_append ?_ hrows) rfl later
      exact find?_append_new (fun r hr => Bool.eq_false_iff.mpr (List.find?_eq_none.mp hown r hr)) (decide_eq_true rfl)

/-- What an insertion adds is under a fingerprint of its own. -/
theorem ExceptionHistory.insert (h : ExceptionHistory pf db.exceptions) {id : Uuid} {u : Unit}
    (hx : insertException (newException pf input id now) (db.drew 1) = .ok (u, db')) : ExceptionHistory pf db'.exceptions := by
  unfold insertException at hx
  simp only [readWith_bind_ok, require_bind_ok, update_eq] at hx
  obtain ⟨-, hnew, rfl⟩ := hx
  refine ⟨forall_mem_append_singleton h.fingerprints rfl, h.unique.append fun r hr => ?_⟩
  have hother := List.all_eq_true.mp hnew r hr
  rw [Bool.and_eq_true, decide_eq_true_eq, decide_eq_true_eq] at hother
  exact hother.2

theorem ExceptionHistory.round (h : ExceptionHistory pf db.exceptions) : ∀ {attempts : Nat} {candidateInput : ExceptionInput},
    ensureExceptionRound pf input now attempts candidateInput db = .ok (e, db') → ExceptionHistory pf db'.exceptions
  | 0, _, hx => (fail_ok.mp hx).elim
  | attempts + 1, candidateInput, hx => by
    unfold ensureExceptionRound at hx
    rw [readWith_bind_ok] at hx
    cases hf : db.exceptions.find? fun r => r.exceptionFingerprint = financialExceptionFingerprint pf candidateInput with
    | none =>
      rw [hf] at hx
      simp only [randomUUID_bind_ok] at hx
      obtain ⟨_, m, hinsert, hx⟩ := bind_ok.mp hx
      obtain ⟨-, rfl⟩ := pure_ok.mp hx
      exact h.insert hinsert
    | some existing =>
      rw [hf] at hx
      dsimp only at hx
      by_cases hs : existing.status = .OPEN
      · rw [if_pos hs] at hx
        obtain ⟨-, rfl⟩ := pure_ok.mp hx
        exact h
      · rw [if_neg hs, readWith_bind_ok] at hx
        exact h.round hx

/-- There is always a context key that was never used. -/
theorem exists_unused (hsha : Function.Injective pf.orders.sha256) (huuid : Function.Injective pf.orders.uuidText)
    (input : ExceptionInput) (rows : List FinancialException) :
    ∃ occurrence, ∀ r ∈ rows, r.exceptionFingerprint ≠ financialExceptionFingerprint pf (input.next occurrence 0) := by
  have hinjective : Function.Injective fun occurrence => financialExceptionFingerprint pf (input.next occurrence 0) :=
    fun n m h => occurrence_of_text (financialExceptionFingerprint_facts hsha huuid h).2
  obtain ⟨occurrence, hunused⟩ := Infinite.exists_notMem_finset
    ((rows.map (·.exceptionFingerprint)).toFinset.preimage _ hinjective.injOn)
  refine ⟨occurrence, fun r hr he => hunused ?_⟩
  rw [Finset.mem_preimage, List.mem_toFinset]
  exact List.mem_map.mpr ⟨r, hr, he⟩

/-- After a resolution, a call with a longer history has another answer. -/
theorem other_answer (hsha : Function.Injective pf.orders.sha256) (huuid : Function.Injective pf.orders.uuidText)
    {e' : FinancialException} {later : Nat} {db₁ db₂ : FinanceDb} {more : List FinancialException}
    (hown : ownOccurrence pf db input = some own) (hresolved : own.status ≠ .OPEN)
    (hx : ensureException pf input now db = .ok (e, db')) (hrows : db₁.exceptions = db.exceptions ++ more)
    (hmore : ∃ r ∈ more, input.concerns r = true) (hx' : ensureException pf input later db₁ = .ok (e', db₂)) : e' ≠ e := by
  rintro rfl
  obtain ⟨⟨latest, hfirst⟩, -⟩ := ensureException_of_resolved hown hresolved hx
  obtain ⟨⟨latest', hlater⟩, -⟩ := ensureException_of_resolved (ownOccurrence_append hown hrows) hresolved hx'
  have hnumber := occurrence_of_text (financialExceptionFingerprint_facts hsha huuid (hfirst.symm.trans hlater)).2
  obtain ⟨r, hr, hconcerns⟩ := hmore
  have hlonger : 0 < (more.filter input.concerns).length :=
    List.length_pos_of_mem (List.mem_filter.mpr ⟨hr, hconcerns⟩)
  rw [length_history, length_history, hrows, List.filter_append, List.length_append] at hnumber
  omega

theorem not_ensured_of_resolved (hsha : Function.Injective pf.orders.sha256) (huuid : Function.Injective pf.orders.uuidText)
    (h : ExceptionHistory pf db.exceptions) (hown : ownOccurrence pf db input = some own) (hresolved : own.status ≠ .OPEN) :
    ¬ ExceptionEnsured pf input now db := by
  rintro ⟨e, db', hx, -, -, hagain⟩
  obtain ⟨-, more, hmore, -⟩ := ensureException_of_resolved hown hresolved hx
  have h' : ExceptionHistory pf db'.exceptions := h.round hx
  obtain ⟨occurrence, hunused⟩ := exists_unused hsha huuid input db'.exceptions
  -- in between, the same facts are recorded under a context key of their own
  let other := newException pf (input.next occurrence 0) 0 now
  let db'' : FinanceDb := { db' with exceptions := db'.exceptions ++ [other] }
  have h'' : ExceptionHistory pf db''.exceptions :=
    ⟨forall_mem_append_singleton h'.fingerprints rfl, h'.unique.append hunused⟩
  have hrows : db''.exceptions = db.exceptions ++ (more ++ [other]) := by
    rw [← List.append_assoc, ← hmore]
  have hconcerns : input.concerns other = true := by simp [other, newException, ExceptionInput.concerns, ExceptionInput.next]
  exact other_answer hsha huuid hown hresolved hx hrows ⟨other, List.mem_append_right _ (List.mem_singleton_self _), hconcerns⟩
    (hagain now db'' [other] rfl h'') rfl

/-- Where no derived key of the next number is in use, the very next call has another answer already. -/
theorem recorded_again (hsha : Function.Injective pf.orders.sha256) (huuid : Function.Injective pf.orders.uuidText)
    (h : ExceptionHistory pf db.exceptions) (hown : ownOccurrence pf db input = some own) (hresolved : own.status ≠ .OPEN)
    (hunused : ∀ r ∈ db.exceptions, ∀ latest, r.contextKey.text pf ≠
      (ContextKey.reclassified ((readExceptionClassificationHistory db input).length + 1) latest).text pf)
    {e' : FinancialException} {later : Nat} {db'' : FinanceDb} (hx : ensureException pf input now db = .ok (e, db'))
    (hx' : ensureException pf input later db' = .ok (e', db'')) : e' ≠ e := by
  obtain ⟨⟨latest, hfirst⟩, more, hmore, hmem⟩ := ensureException_of_resolved hown hresolved hx
  have h' : ExceptionHistory pf db'.exceptions := h.round hx
  have hnew : e ∈ more := by
    rw [hmore] at hmem
    refine (List.mem_append.mp hmem).resolve_left fun hold => hunused e hold latest ?_
    rw [h.fingerprints e hold] at hfirst
    exact (financialExceptionFingerprint_facts hsha huuid hfirst).2
  have hconcerns : input.concerns e = true := (next_concerns ..).symm.trans (h'.concerns hsha huuid hmem hfirst)
  exact other_answer hsha huuid hown hresolved hx hmore ⟨e, hnew, hconcerns⟩ hx'

end

/-- **`ensureException` ensures one occurrence if and only if its own exception was never resolved** (and no other
    context key holds the only open one). -/
theorem exception_ensured (hsha : Function.Injective pf.orders.sha256) (huuid : Function.Injective pf.orders.uuidText)
    (input : ExceptionInput) (now : Nat) (h : ExceptionHistory pf db.exceptions)
    (hsupports : db.supportsException (newException pf input (db.entropy db.drawn) now))
    (hfresh : ∀ e ∈ db.exceptions, e.exceptionId ≠ db.entropy db.drawn) :
    ExceptionEnsured pf input now db ↔ NeverResolved pf db input := by
  unfold NeverResolved
  cases hown : ownOccurrence pf db input with
  | none => exact ensured_of_none hown hsupports hfresh
  | some own =>
    constructor
    · intro hensured
      by_contra hresolved
      exact not_ensured_of_resolved hsha huuid h hown hresolved hensured
    · intro hopen
      exact ensured_of_open hsha huuid h hown hopen

/-! ## A sample entry that is ambiguous again -/

def sampleAmbiguous : ExceptionInput where
  providerAccountKey := "primary"
  exceptionType := .AMBIGUOUS_MATCH
  ledgerEntryId := some "302"
  orderId := none
  candidateId := none
  contextKey := .rule
  details := .candidateCount 2

/-- The store with these exceptions. -/
def sampleExceptions (rows : List FinancialException) : FinanceDb :=
  { sampleArrived with exceptions := rows, entropy := fun n => 7000 + n, drawn := 0 }

/-- The ambiguity was resolved by a settlement. -/
def sampleResolution : FinancialException :=
  (newException sampleFinance sampleAmbiguous 6000 1).resolve 77 ⟨"manually_settled", 78⟩ 2

/-- The first ambiguity of an entry. -/
theorem exception_ensured_first : ExceptionEnsured sampleFinance sampleAmbiguous 5 (sampleExceptions []) := by
  have huuid : Function.Injective sampleFinance.orders.uuidText := fun _ _ h =>
    Json.natText_injective (String.ofList_injective h)
  have hempty : ∀ e ∈ (sampleExceptions []).exceptions, False := fun _ he => List.not_mem_nil he
  have hhistory : ExceptionHistory sampleFinance (sampleExceptions []).exceptions :=
    ⟨fun e he => (hempty e he).elim, List.nodup_nil⟩
  have hnever : NeverResolved sampleFinance (sampleExceptions []) sampleAmbiguous := by
    unfold NeverResolved
    rw [show ownOccurrence sampleFinance (sampleExceptions []) sampleAmbiguous = none from rfl]
    exact Nat.zero_ne_one
  exact (exception_ensured (fun _ _ h => h) huuid sampleAmbiguous 5 hhistory (by decide +kernel)
    fun e he => (hempty e he).elim).mpr hnever

/-- Once it was resolved, two calls in a row do not answer with the same exception. -/
theorem resolved_exception_recorded_again :
    ExceptionHistory sampleFinance (sampleExceptions [sampleResolution]).exceptions ∧
    ¬ ∃ e db', ensureException sampleFinance sampleAmbiguous 5 (sampleExceptions [sampleResolution]) = .ok (e, db') ∧
      ensureException sampleFinance sampleAmbiguous 5 db' = .ok (e, db') := by
  have huuid : Function.Injective sampleFinance.orders.uuidText := fun _ _ h =>
    Json.natText_injective (String.ofList_injective h)
  have hhistory : ExceptionHistory sampleFinance (sampleExceptions [sampleResolution]).exceptions :=
    ⟨List.forall_mem_singleton.mpr rfl, List.nodup_singleton _⟩
  have hown : ownOccurrence sampleFinance (sampleExceptions [sampleResolution]) sampleAmbiguous = some sampleResolution := by
    decide +kernel
  have hresolved : sampleResolution.status ≠ .OPEN := by decide
  refine ⟨hhistory, ?_⟩
  rintro ⟨e, db', hx, hx'⟩
  refine recorded_again (fun _ _ h => h) huuid hhistory hown hresolved (fun r hr latest htext => ?_) hx hx' rfl
  rw [List.mem_singleton.mp hr] at htext
  have hchars := congrArg String.toList htext
  unfold ContextKey.text at hchars
  simp only [String.toList_append, List.append_assoc] at hchars
  nomatch hchars

end PerPay.Finance
