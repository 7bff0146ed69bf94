/-
  **Refusals** — what the errors of a transaction say.

  `Triple` speaks of the runs that succeed.  `Refuses P x E` speaks of the others: a run of `x` from a store
  satisfying `P` that fails, fails with an error satisfying `E`.  The two are proved side by side: a bind
  needs the triple of its first part to know where its second part starts.  With `E` false, `x` never fails.
-/
import PerPay.Lib.Tx

namespace Txn

variable {σ ε α β : Type}

/-- Every failed run of `x` from a store satisfying `P` fails with an error satisfying `E`. -/
def Refuses (P : σ → Prop) (x : Tx σ ε α) (E : ε → Prop) : Prop :=
  ∀ s, P s → ∀ e, x s = .error e → E e

variable {P : σ → Prop} {Q : α → σ → Prop} {E : ε → Prop}

/-- A run that succeeds is not refused. -/
theorem refuses_of_ok {x : Tx σ ε α} (h : ∀ s, P s → ∃ a s', x s = .ok (a, s')) : Refuses P x E := by
  intro s hs e hx
  obtain ⟨a, s', hok⟩ := h s hs
  rw [hok] at hx
  exact nomatch hx

theorem refuses_bind {x : Tx σ ε α} {f : α → Tx σ ε β} (hx : Refuses P x E) (ht : Triple P x Q)
    (hf : ∀ a, Refuses (Q a) (f a) E) : Refuses P (x >>= f) E := by
  intro s hs e h
  cases hrun : x s with
  | error e' =>
    rw [bind_of_error hrun] at h
    obtain rfl := Except.error.inj h
    exact hx s hs _ hrun
  | ok p =>
    rw [bind_of_ok (a := p.1) (t := p.2) hrun] at h
    exact hf p.1 p.2 (ht s hs p.1 p.2 hrun) e h

theorem refuses_pure (a : α) : Refuses P (pure a : Tx σ ε α) E :=
  refuses_of_ok fun s _ => ⟨a, s, rfl⟩

theorem refuses_readWith (f : σ → α) : Refuses P (readWith f : Tx σ ε α) E :=
  refuses_of_ok fun s _ => ⟨f s, s, rfl⟩

theorem refuses_update (f : σ → σ) : Refuses P (update f : Tx σ ε Unit) E :=
  refuses_of_ok fun s _ => ⟨(), f s, rfl⟩

theorem refuses_fail {e : ε} (h : E e) : Refuses P (fail e : Tx σ ε α) E := by
  intro s _ e' hx
  obtain rfl := Except.error.inj hx
  exact h

theorem refuses_require {c : Prop} [Decidable c] {e : ε} (h : E e) : Refuses P (require c e : Tx σ ε Unit) E := by
  intro s hs e' hx
  by_cases hc : c
  · have hok : (require c e : Tx σ ε Unit) s = .ok ((), s) := require_ok.mpr ⟨hc, rfl⟩
    rw [hok] at hx
    exact nomatch hx
  · rw [require_error hc] at hx
    exact Except.error.inj hx ▸ h

theorem refuses_orFail {e : ε} (o : Option α) (h : E e) : Refuses P (orFail e o : Tx σ ε α) E := by
  cases o with
  | none => exact refuses_fail h
  | some a => exact refuses_pure a

theorem refuses_ite {c : Prop} [Decidable c] {x y : Tx σ ε α} (hx : Refuses P x E) (hy : Refuses P y E) :
    Refuses P (if c then x else y) E := by
  by_cases hc : c
  · rw [if_pos hc]; exact hx
  · rw [if_neg hc]; exact hy

/-- After a part that keeps what is known. -/
theorem refuses_next {x : Tx σ ε α} {f : α → Tx σ ε β} (hp : Preserves P x) (hx : Refuses P x E)
    (hf : ∀ a, Refuses P (f a) E) : Refuses P (x >>= f) E :=
  refuses_bind hx hp hf

/-- Where nothing needs to be known of the store, nothing is. -/
theorem refuses_then {x : Tx σ ε α} {f : α → Tx σ ε β} (hx : Refuses P x E)
    (hf : ∀ a, Refuses (fun _ => True) (f a) E) : Refuses P (x >>= f) E :=
  refuses_bind hx (Q := fun _ _ => True) (fun _ _ _ _ _ => trivial) hf

/-! A transaction that begins with a primitive. -/

theorem refuses_readWith_next {g : σ → β} {f : β → Tx σ ε α} (hf : ∀ b, Refuses P (f b) E) :
    Refuses P (readWith g >>= f) E :=
  refuses_next (preserves_readWith g) (refuses_readWith g) hf

theorem refuses_require_next {c : Prop} [Decidable c] {e : ε} {f : Unit → Tx σ ε α} (h : E e)
    (hf : Refuses P (f ()) E) : Refuses P (require c e >>= f) E :=
  refuses_next (preserves_require c e) (refuses_require h) fun _ => hf

theorem refuses_orFail_next {e : ε} {o : Option β} {f : β → Tx σ ε α} (h : E e) (hf : ∀ b, Refuses P (f b) E) :
    Refuses P (orFail e o >>= f) E :=
  refuses_next (preserves_orFail e o) (refuses_orFail o h) hf

end Txn
