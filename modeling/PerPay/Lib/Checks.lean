/-
  **Checks in sequence** — code that throws the first error it finds.

  `refuse` is a guard and `required` a value that may be missing.  When a sequence of checks succeeds, each
  of them did (`refuse_bind_ok`, `required_bind_ok`, `bind_ok`), and a `map` whose rounds may throw succeeds
  element by element (`mapM_ok`).
-/
import Mathlib.Data.List.Forall2

namespace Checks

variable {ε : Type}

/-- `if (condition) throw error;` -/
def refuse (condition : Bool) (error : ε) : Except ε Unit :=
  if condition then .error error else .ok ()

/-- The value that a call gives, or the error thrown when it gives none. -/
def required {α : Type} (value : Option α) (error : ε) : Except ε α :=
  match value with
  | some a => .ok a
  | none => .error error

@[simp] theorem refuse_bind_ok {α : Type} {condition : Bool} {error : ε} {f : Unit → Except ε α} {r : α} :
    (refuse condition error >>= f) = .ok r ↔ condition = false ∧ f () = .ok r := by
  cases condition <;> simp [refuse, bind, Except.bind]

@[simp] theorem refuse_ok {condition : Bool} {error : ε} {r : Unit} :
    refuse condition error = .ok r ↔ condition = false := by
  cases condition <;> simp [refuse]

@[simp] theorem required_bind_ok {α β : Type} {value : Option α} {error : ε} {f : α → Except ε β} {r : β} :
    (required value error >>= f) = .ok r ↔ ∃ a, value = some a ∧ f a = .ok r := by
  cases value <;> simp [required, bind, Except.bind]

theorem bind_ok {α β : Type} {x : Except ε α} {f : α → Except ε β} {r : β} :
    (x >>= f) = .ok r ↔ ∃ a, x = .ok a ∧ f a = .ok r := by
  cases x <;> simp [bind, Except.bind]

@[simp] theorem pure_ok {α : Type} {a r : α} : (pure a : Except ε α) = .ok r ↔ a = r := Except.ok.injEq a r ▸ Iff.rfl

/-- A `map` whose rounds may throw. -/
theorem mapM_ok {α β : Type} {f : α → Except ε β} {xs : List α} {ys : List β} :
    xs.mapM f = .ok ys ↔ List.Forall₂ (fun x y => f x = .ok y) xs ys := by
  induction xs generalizing ys with
  | nil =>
    rw [List.mapM_nil, pure_ok, List.forall₂_nil_left_iff]
    exact eq_comm
  | cons x xs ih =>
    rw [List.mapM_cons, bind_ok]
    simp only [bind_ok, ih, pure_ok, List.forall₂_cons_left_iff]
    constructor
    · rintro ⟨y, hy, zs, hzs, rfl⟩
      exact ⟨y, zs, hy, hzs, rfl⟩
    · rintro ⟨y, zs, hy, hzs, rfl⟩
      exact ⟨y, hy, zs, hzs, rfl⟩

theorem mapM_bind_ok {α β γ : Type} {f : α → Except ε β} {g : List β → Except ε γ} {xs : List α} {r : γ} :
    (xs.mapM f >>= g) = .ok r ↔ ∃ ys, List.Forall₂ (fun x y => f x = .ok y) xs ys ∧ g ys = .ok r := by
  rw [bind_ok]
  simp only [mapM_ok]

theorem mapM_eq_some {α β : Type} {f : α → Option β} {xs : List α} {ys : List β}
    (h : List.Forall₂ (fun x y => f x = some y) xs ys) : xs.mapM f = some ys := by
  induction h with
  | nil => rfl
  | cons hx _ ih =>
    rw [List.mapM_cons, hx, ih]
    rfl

/-- A `map` whose rounds may find nothing. -/
theorem mapM_some {α β : Type} {f : α → Option β} {xs : List α} {ys : List β} :
    xs.mapM f = some ys ↔ List.Forall₂ (fun x y => f x = some y) xs ys := by
  refine ⟨fun h => ?_, mapM_eq_some⟩
  induction xs generalizing ys with
  | nil =>
    rw [List.mapM_nil] at h
    exact Option.some.inj h ▸ .nil
  | cons x xs ih =>
    rw [List.mapM_cons] at h
    obtain ⟨y, hy, h⟩ := Option.bind_eq_some_iff.mp h
    obtain ⟨zs, hzs, h⟩ := Option.bind_eq_some_iff.mp h
    exact Option.some.inj h ▸ .cons hy (ih hzs)

/-- Relations of elements that determine each other relate the lists that they determine. -/
theorem forall₂_exists {α β γ : Type} {R : α → β → Prop} {e : β → γ} {xs : List α} {zs : List γ} :
    List.Forall₂ (fun x z => ∃ y, R x y ∧ e y = z) xs zs ↔ ∃ ys, List.Forall₂ R xs ys ∧ ys.map e = zs := by
  constructor
  · intro h
    induction h with
    | nil => exact ⟨[], .nil, rfl⟩
    | cons hx _ ih =>
      obtain ⟨y, hR, rfl⟩ := hx
      obtain ⟨ys, hys, rfl⟩ := ih
      exact ⟨y :: ys, .cons hR hys, rfl⟩
  · rintro ⟨ys, hys, rfl⟩
    induction hys with
    | nil => exact .nil
    | cons hR _ ih => exact .cons ⟨_, hR, rfl⟩ ih

theorem forall₂_left {α β : Type} {R : α → β → Prop} {p : α → Prop} (hp : ∀ a b, R a b → p a) {xs : List α}
    {ys : List β} (h : List.Forall₂ R xs ys) : ∀ x ∈ xs, p x := by
  induction h with
  | nil => simp
  | cons hR _ ih =>
    intro x hx
    rcases List.mem_cons.mp hx with rfl | hx
    · exact hp _ _ hR
    · exact ih x hx

end Checks
