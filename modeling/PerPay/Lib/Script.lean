/-
  **Scripts** — code that works on an object of type `σ`, returns or throws an `ε`, and keeps what it has written
  when it throws.

  That is what distinguishes a script from a transaction (`Txn.Tx`): nothing is rolled back, so the state after
  a throw is as much part of what a script does as the state after a return.  A specification therefore has two
  postconditions (`Meets P x Q E`), and `attempt` (`try … catch …`) turns the second one into a precondition of
  the handler.
-/
import Mathlib.Logic.Basic

/-- A script: it returns or throws, and leaves a state behind either way. -/
def Script (σ ε α : Type) : Type := σ → Except ε α × σ

namespace Script

variable {σ ε α β : Type}

instance : Monad (Script σ ε) where
  pure a := fun s => (.ok a, s)
  bind x f := fun s =>
    match x s with
    | (.ok a, t) => f a t
    | (.error e, t) => (.error e, t)

/-! ## Primitives -/

/-- `throw e` -/
def raise (e : ε) : Script σ ε α := fun s => (.error e, s)

/-- Read something off the object. -/
def look (f : σ → α) : Script σ ε α := fun s => (.ok (f s), s)

/-- Write the object. -/
def write (f : σ → σ) : Script σ ε Unit := fun s => (.ok (), f s)

/-- `try x catch (e) { handler e }` -/
def attempt (x : Script σ ε α) (handler : ε → Script σ ε α) : Script σ ε α := fun s =>
  match x s with
  | (.ok a, t) => (.ok a, t)
  | (.error e, t) => handler e t

/-- The object afterwards. -/
def after (x : Script σ ε α) (s : σ) : σ := (x s).2

theorem bind_of_ok {x : Script σ ε α} {f : α → Script σ ε β} {s t : σ} {a : α} (h : x s = (.ok a, t)) : (x >>= f) s = f a t := by
  show (match x s with | (.ok a, t) => f a t | (.error e, t) => (.error e, t)) = f a t
  rw [h]

theorem bind_of_error {x : Script σ ε α} {f : α → Script σ ε β} {s t : σ} {e : ε} (h : x s = (.error e, t)) :
    (x >>= f) s = (.error e, t) := by
  show (match x s with | (.ok a, t) => f a t | (.error e, t) => (.error e, t)) = (.error e, t)
  rw [h]

theorem attempt_of_ok {x : Script σ ε α} {handler : ε → Script σ ε α} {s t : σ} {a : α} (h : x s = (.ok a, t)) :
    attempt x handler s = (.ok a, t) := by
  unfold attempt
  rw [h]

theorem attempt_of_error {x : Script σ ε α} {handler : ε → Script σ ε α} {s t : σ} {e : ε} (h : x s = (.error e, t)) :
    attempt x handler s = handler e t := by
  unfold attempt
  rw [h]

/-! ## Specifications -/

/-- `Meets P x Q E` — run on an object that meets `P`, the script `x` returns with `Q`, or throws with `E`. -/
def Meets (P : σ → Prop) (x : Script σ ε α) (Q : α → σ → Prop) (E : ε → σ → Prop) : Prop :=
  ∀ s, P s → match x s with
    | (.ok a, t) => Q a t
    | (.error e, t) => E e t

variable {P P' : σ → Prop} {Q Q' : α → σ → Prop} {E E' : ε → σ → Prop}

theorem meets_pure {a : α} (h : ∀ s, P s → Q a s) : Meets P (pure a : Script σ ε α) Q E := h

theorem meets_raise {e : ε} (h : ∀ s, P s → E e s) : Meets P (raise e : Script σ ε α) Q E := h

theorem meets_look {f : σ → α} (h : ∀ s, P s → Q (f s) s) : Meets P (look f : Script σ ε α) Q E := h

theorem meets_write {f : σ → σ} {Q : Unit → σ → Prop} (h : ∀ s, P s → Q () (f s)) :
    Meets P (write f : Script σ ε Unit) Q E := h

theorem meets_bind {x : Script σ ε α} {f : α → Script σ ε β} {R : β → σ → Prop} (hx : Meets P x Q E)
    (hf : ∀ a, Meets (Q a) (f a) R E) : Meets P (x >>= f) R E := by
  intro s hs
  have h := hx s hs
  rcases hr : x s with ⟨r, t⟩
  rw [hr] at h
  cases r with
  | ok a =>
    rw [bind_of_ok hr]
    exact hf a t h
  | error e =>
    rw [bind_of_error hr]
    exact h

theorem meets_attempt {x : Script σ ε α} {handler : ε → Script σ ε α} (hx : Meets P x Q E')
    (hh : ∀ e, Meets (E' e) (handler e) Q E) : Meets P (attempt x handler) Q E := by
  intro s hs
  have h := hx s hs
  rcases hr : x s with ⟨r, t⟩
  rw [hr] at h
  cases r with
  | ok a =>
    rw [attempt_of_ok hr]
    exact h
  | error e =>
    rw [attempt_of_error hr]
    exact hh e t h

theorem meets_ite {c : Prop} [Decidable c] {x y : Script σ ε α} (hx : c → Meets P x Q E) (hy : ¬ c → Meets P y Q E) :
    Meets P (if c then x else y) Q E := by
  by_cases hc : c
  · rw [if_pos hc]
    exact hx hc
  · rw [if_neg hc]
    exact hy hc

theorem meets_conseq {x : Script σ ε α} (h : Meets P' x Q' E') (hP : ∀ s, P s → P' s) (hQ : ∀ a s, Q' a s → Q a s)
    (hE : ∀ e s, E' e s → E e s) : Meets P x Q E := by
  intro s hs
  have hx := h s (hP s hs)
  rcases hr : x s with ⟨r, t⟩
  rw [hr] at hx
  cases r with
  | ok a => exact hQ a t hx
  | error e => exact hE e t hx

/-- What the precondition says of things other than the object may be used. -/
theorem meets_assume {x : Script σ ε α} (h : ∀ s, P s → Meets P x Q E) : Meets P x Q E :=
  fun s hs => h s hs s hs

/-- What holds however the script ends holds afterwards. -/
theorem Meets.after {x : Script σ ε α} {R : σ → Prop} (h : Meets P x (fun _ => R) (fun _ => R)) {s : σ} (hs : P s) :
    R (x.after s) := by
  have hx := h s hs
  unfold Script.after
  rcases hr : x s with ⟨r, t⟩
  rw [hr] at hx
  cases r with
  | ok a => exact hx
  | error e => exact hx

/-! ## What a script leaves alone -/

/-- `Leaves g x` — however `x` ends, what `g` reads is as before. -/
def Leaves {τ : Type} (g : σ → τ) (x : Script σ ε α) : Prop := ∀ s, g (x.after s) = g s

section
variable {τ : Type} {g : σ → τ}

theorem leaves_pure (a : α) : Leaves g (pure a : Script σ ε α) := fun _ => rfl

theorem leaves_raise (e : ε) : Leaves g (raise e : Script σ ε α) := fun _ => rfl

theorem leaves_look (f : σ → α) : Leaves g (look f : Script σ ε α) := fun _ => rfl

theorem leaves_write {f : σ → σ} (h : ∀ s, g (f s) = g s) : Leaves g (write f : Script σ ε Unit) := h

theorem leaves_bind {x : Script σ ε α} {f : α → Script σ ε β} (hx : Leaves g x) (hf : ∀ a, Leaves g (f a)) :
    Leaves g (x >>= f) := by
  intro s
  have h := hx s
  unfold after at h ⊢
  rcases hr : x s with ⟨r, t⟩
  rw [hr] at h
  cases r with
  | ok a =>
    rw [bind_of_ok hr]
    exact (hf a t).trans h
  | error e =>
    rw [bind_of_error hr]
    exact h

theorem leaves_attempt {x : Script σ ε α} {handler : ε → Script σ ε α} (hx : Leaves g x)
    (hh : ∀ e, Leaves g (handler e)) : Leaves g (attempt x handler) := by
  intro s
  have h := hx s
  unfold after at h ⊢
  rcases hr : x s with ⟨r, t⟩
  rw [hr] at h
  cases r with
  | ok a =>
    rw [attempt_of_ok hr]
    exact h
  | error e =>
    rw [attempt_of_error hr]
    exact (hh e t).trans h

theorem leaves_ite {c : Prop} [Decidable c] {x y : Script σ ε α} (hx : Leaves g x) (hy : Leaves g y) :
    Leaves g (if c then x else y) := by
  by_cases hc : c
  · rwa [if_pos hc]
  · rwa [if_neg hc]

/-- What holds of the part that a script leaves alone still holds. -/
theorem Leaves.meets {x : Script σ ε α} (h : Leaves g x) (p : τ → Prop) :
    Meets (fun s => p (g s)) x (fun _ s => p (g s)) (fun _ s => p (g s)) := by
  intro s hs
  have hx := h s
  unfold after at hx
  rcases hr : x s with ⟨r, t⟩
  rw [hr] at hx
  have ht : p (g t) := (congrArg p hx).mpr hs
  cases r with
  | ok a => exact ht
  | error e => exact ht

end

/-! ## Scripts that do not throw -/

def Returns (x : Script σ ε α) : Prop := ∀ s, ∃ a, (x s).1 = .ok a

theorem returns_pure (a : α) : Returns (pure a : Script σ ε α) := fun _ => ⟨a, rfl⟩

theorem returns_look (f : σ → α) : Returns (look f : Script σ ε α) := fun s => ⟨f s, rfl⟩

theorem returns_write (f : σ → σ) : Returns (write f : Script σ ε Unit) := fun _ => ⟨(), rfl⟩

theorem returns_bind {x : Script σ ε α} {f : α → Script σ ε β} (hx : Returns x) (hf : ∀ a, Returns (f a)) :
    Returns (x >>= f) := by
  intro s
  obtain ⟨a, ha⟩ := hx s
  rcases hr : x s with ⟨r, t⟩
  rw [hr] at ha
  cases ha
  rw [bind_of_ok hr]
  exact hf a t

/-- A handler that does not throw makes the whole not throw. -/
theorem returns_attempt {x : Script σ ε α} {handler : ε → Script σ ε α} (hh : ∀ e, Returns (handler e)) :
    Returns (attempt x handler) := by
  intro s
  unfold attempt
  rcases x s with ⟨r, t⟩
  cases r with
  | ok a => exact ⟨a, rfl⟩
  | error e => exact hh e t

theorem Returns.meets {x : Script σ ε α} (h : Returns x) (hx : Meets P x Q E) : Meets P x Q (fun _ _ => False) := by
  intro s hs
  obtain ⟨a, ha⟩ := h s
  have hq := hx s hs
  rcases hr : x s with ⟨r, t⟩
  rw [hr] at ha hq
  cases ha
  exact hq

end Script
