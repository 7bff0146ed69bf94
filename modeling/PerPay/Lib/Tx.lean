/-
  **Transactions over a store** — a computation that reads and writes a store of type `σ`, may fail
  with an `ε`, and is run inside a database transaction: on success its writes are COMMITTED, on
  failure every write is ROLLED BACK.

  Three things are developed here, for arbitrary `σ`, `ε` and results:

  1. the primitives `fail`, `require`, `readWith`, `update`, and the outcome `committed`;
  2. `Triple P x Q`, the partial-correctness triple of a transaction, with one rule per way a
     transaction is built (`pure`, bind, the primitives, `if`, `Option` and `Except` matches, loops);
  3. `Preserves I x`, the triple whose pre- and postcondition are the same invariant.  A rolled-back
     transaction leaves the store alone, so `committed_of_preserves` needs no case for failure.
-/
import Mathlib.Logic.Basic

namespace Txn

/-- A transaction: a state-passing computation that may fail. -/
abbrev Tx (σ ε α : Type) : Type := StateT σ (Except ε) α

variable {σ ε α β : Type}

/-! ## Primitives -/

/-- Abort with an error. -/
def fail (e : ε) : Tx σ ε α := fun _ => .error e

/-- Go on only when `c` holds. -/
def require (c : Prop) [Decidable c] (e : ε) : Tx σ ε Unit :=
  fun s => if c then .ok ((), s) else .error e

/-- Read something off the store. -/
def readWith (f : σ → α) : Tx σ ε α := fun s => .ok (f s, s)

/-- Write the store. -/
def update (f : σ → σ) : Tx σ ε Unit := fun s => .ok ((), f s)

/-- Unwrap an optional value or abort. -/
def orFail (e : ε) : Option α → Tx σ ε α
  | some a => pure a
  | none => fail e

/-- Go on with the value of a computation that needs no store, or abort with its error. -/
def valueOf : Except ε α → Tx σ ε α
  | .ok a => pure a
  | .error e => fail e

/-- Run the body on every element, in order. -/
def forEach (f : β → Tx σ ε Unit) : List β → Tx σ ε Unit
  | [] => pure ()
  | b :: bs => do f b; forEach f bs

/-- Run the body on every element, in order, and keep the results. -/
def collect (f : β → Tx σ ε α) : List β → Tx σ ε (List α)
  | [] => pure []
  | b :: bs => do
    let a ← f b
    let as ← collect f bs
    pure (a :: as)

/-- Run a transaction on a part of the store. -/
def zoom {τ : Type} (get : σ → τ) (set : τ → σ → σ) (x : Tx τ ε α) : Tx σ ε α := fun s =>
  match x (get s) with
  | .ok (a, t) => .ok (a, set t s)
  | .error e => .error e

/-- Run a transaction for its writes only. -/
def ignoreResult (x : Tx σ ε α) : Tx σ ε Unit := do
  let _ ← x
  pure ()

/-- The store a transaction leaves behind: its writes when it succeeds, the old store otherwise. -/
def committed (x : Tx σ ε α) (s : σ) : σ :=
  match x s with
  | .ok (_, s') => s'
  | .error _ => s

/-- The result of a transaction, when it has one. -/
def outcome (x : Tx σ ε α) (s : σ) : Except ε α :=
  match x s with
  | .ok (a, _) => .ok a
  | .error e => .error e

/-! ## What a successful run says about its parts -/

theorem pure_ok {a b : α} {s s' : σ} : (pure a : Tx σ ε α) s = .ok (b, s') ↔ a = b ∧ s = s' := by
  show Except.ok (a, s) = .ok (b, s') ↔ _
  rw [Except.ok.injEq, Prod.mk.injEq]

theorem bind_ok {x : Tx σ ε α} {f : α → Tx σ ε β} {s : σ} {b : β} {s' : σ} :
    (x >>= f) s = .ok (b, s') ↔ ∃ a m, x s = .ok (a, m) ∧ f a m = .ok (b, s') := by
  show (StateT.bind x f) s = _ ↔ _
  unfold StateT.bind
  cases hx : x s with
  | error e => simp [bind, Except.bind]
  | ok p =>
    obtain ⟨a, m⟩ := p
    simp only [bind, Except.bind, Except.ok.injEq, Prod.mk.injEq]
    exact ⟨fun h => ⟨a, m, ⟨rfl, rfl⟩, h⟩, by rintro ⟨_, _, ⟨rfl, rfl⟩, h⟩; exact h⟩

/-- A first part that is known. -/
theorem bind_of_ok {x : Tx σ ε α} {f : α → Tx σ ε β} {s t : σ} {a : α} (h : x s = .ok (a, t)) :
    (x >>= f) s = f a t := by
  show (StateT.bind x f) s = _
  simp only [StateT.bind, h]
  rfl

theorem bind_of_error {x : Tx σ ε α} {f : α → Tx σ ε β} {s : σ} {e : ε} (h : x s = .error e) :
    (x >>= f) s = .error e := by
  show (StateT.bind x f) s = _
  simp only [StateT.bind, h]
  rfl

theorem fail_ok {e : ε} {s s' : σ} {a : α} : (fail e : Tx σ ε α) s = .ok (a, s') ↔ False := by
  simp [fail]

theorem require_ok {c : Prop} [Decidable c] {e : ε} {s s' : σ} {u : Unit} :
    (require c e : Tx σ ε Unit) s = .ok (u, s') ↔ c ∧ s = s' := by
  unfold require
  by_cases hc : c
  · simp [hc]
  · simp [hc]

/-- A requirement that is not met. -/
theorem require_error {c : Prop} [Decidable c] {e : ε} {s : σ} (h : ¬ c) :
    (require c e : Tx σ ε Unit) s = .error e := by
  unfold require
  exact if_neg h ▸ rfl

theorem readWith_ok {f : σ → α} {s s' : σ} {a : α} :
    (readWith f : Tx σ ε α) s = .ok (a, s') ↔ f s = a ∧ s = s' := by
  simp [readWith]

theorem update_ok {f : σ → σ} {s s' : σ} {u : Unit} :
    (update f : Tx σ ε Unit) s = .ok (u, s') ↔ f s = s' := by
  simp [update]

theorem update_eq {f : σ → σ} {s s' : σ} {u : Unit} :
    (update f : Tx σ ε Unit) s = .ok (u, s') ↔ s' = f s := by
  rw [update_ok, eq_comm]

theorem orFail_ok {e : ε} {o : Option α} {s s' : σ} {a : α} :
    (orFail e o : Tx σ ε α) s = .ok (a, s') ↔ o = some a ∧ s = s' := by
  cases o with
  | none => simp [orFail, fail]
  | some b => simp [orFail, pure_ok]

theorem zoom_ok {τ : Type} {get : σ → τ} {set : τ → σ → σ} {x : Tx τ ε α} {s s' : σ} {a : α} :
    zoom get set x s = .ok (a, s') ↔ ∃ t, x (get s) = .ok (a, t) ∧ s' = set t s := by
  unfold zoom
  cases hx : x (get s) with
  | error e => simp
  | ok p =>
    obtain ⟨b, t⟩ := p
    simp only [Except.ok.injEq, Prod.mk.injEq]
    constructor
    · rintro ⟨rfl, rfl⟩
      exact ⟨t, ⟨rfl, rfl⟩, rfl⟩
    · rintro ⟨_, ⟨rfl, rfl⟩, rfl⟩
      exact ⟨rfl, rfl⟩

/-! A computation without a store, taken apart. -/

theorem except_bind_ok {x : Except ε α} {f : α → Except ε β} {b : β} :
    x >>= f = .ok b ↔ ∃ a, x = .ok a ∧ f a = .ok b := by
  cases x with
  | error e => simp [bind, Except.bind]
  | ok a => simp [bind, Except.bind]

theorem except_bind_error {x : Except ε α} {f : α → Except ε β} {e : ε} :
    x >>= f = .error e ↔ x = .error e ∨ ∃ a, x = .ok a ∧ f a = .error e := by
  cases x with
  | error e => simp [bind, Except.bind]
  | ok a => simp [bind, Except.bind]

theorem valueOf_ok {x : Except ε α} {s s' : σ} {a : α} :
    (valueOf x : Tx σ ε α) s = .ok (a, s') ↔ x = .ok a ∧ s = s' := by
  cases x with
  | error e => simp [valueOf, fail]
  | ok b => simp [valueOf, pure_ok]

/-! A transaction that begins with a primitive is opened one statement at a time. -/

theorem readWith_bind_ok {f : σ → α} {k : α → Tx σ ε β} {s : σ} {r : β × σ} :
    (readWith f >>= k) s = .ok r ↔ k (f s) s = .ok r := Iff.rfl

theorem update_bind_ok {f : σ → σ} {k : Unit → Tx σ ε β} {s : σ} {r : β × σ} :
    (update f >>= k) s = .ok r ↔ k () (f s) = .ok r := Iff.rfl

theorem require_bind_ok {c : Prop} [Decidable c] {e : ε} {k : Unit → Tx σ ε β} {s : σ}
    {r : β × σ} : (require c e >>= k) s = .ok r ↔ c ∧ k () s = .ok r := by
  obtain ⟨b, s'⟩ := r
  rw [bind_ok]
  constructor
  · rintro ⟨_, m, h, hk⟩
    obtain ⟨hc, rfl⟩ := require_ok.mp h
    exact ⟨hc, hk⟩
  · rintro ⟨hc, hk⟩
    exact ⟨(), s, require_ok.mpr ⟨hc, rfl⟩, hk⟩

theorem orFail_bind_ok {e : ε} {o : Option α} {k : α → Tx σ ε β} {s : σ} {r : β × σ} :
    (orFail e o >>= k) s = .ok r ↔ ∃ a, o = some a ∧ k a s = .ok r := by
  obtain ⟨b, s'⟩ := r
  rw [bind_ok]
  constructor
  · rintro ⟨a, m, h, hk⟩
    obtain ⟨ho, rfl⟩ := orFail_ok.mp h
    exact ⟨a, ho, hk⟩
  · rintro ⟨a, ho, hk⟩
    exact ⟨a, s, orFail_ok.mpr ⟨ho, rfl⟩, hk⟩

theorem valueOf_bind_ok {x : Except ε α} {k : α → Tx σ ε β} {s : σ} {r : β × σ} :
    (valueOf x >>= k) s = .ok r ↔ ∃ a, x = .ok a ∧ k a s = .ok r := by
  obtain ⟨b, s'⟩ := r
  rw [bind_ok]
  constructor
  · rintro ⟨a, m, h, hk⟩
    obtain ⟨hx, rfl⟩ := valueOf_ok.mp h
    exact ⟨a, hx, hk⟩
  · rintro ⟨a, hx, hk⟩
    exact ⟨a, s, valueOf_ok.mpr ⟨hx, rfl⟩, hk⟩

/-! Run forwards, a transaction is computed one statement at a time. -/

theorem readWith_bind {f : σ → α} {k : α → Tx σ ε β} {s : σ} : (readWith f >>= k) s = k (f s) s := rfl

theorem update_bind {f : σ → σ} {k : Unit → Tx σ ε β} {s : σ} : (update f >>= k) s = k () (f s) := rfl

theorem require_bind_met {c : Prop} [Decidable c] {e : ε} {k : Unit → Tx σ ε β} {s : σ} (h : c) :
    (require c e >>= k) s = k () s :=
  bind_of_ok (require_ok.mpr ⟨h, rfl⟩ : (require c e : Tx σ ε Unit) s = .ok ((), s))

theorem require_bind_unmet {c : Prop} [Decidable c] {e : ε} {k : Unit → Tx σ ε β} {s : σ} (h : ¬ c) :
    (require c e >>= k) s = .error e :=
  bind_of_error (require_error h)

theorem zoom_of_ok {τ : Type} {get : σ → τ} {set : τ → σ → σ} {x : Tx τ ε α} {s : σ} {a : α} {t : τ}
    (h : x (get s) = .ok (a, t)) : zoom get set x s = .ok (a, set t s) := by
  unfold zoom
  rw [h]

theorem zoom_of_error {τ : Type} {get : σ → τ} {set : τ → σ → σ} {x : Tx τ ε α} {s : σ} {e : ε}
    (h : x (get s) = .error e) : zoom get set x s = .error e := by
  unfold zoom
  rw [h]

/-- A statement is known by its guard and by what it writes. -/
theorem statement_bind_ok {x : Tx σ ε Unit} {k : Unit → Tx σ ε β} {s t : σ} {G : Prop}
    (h : ∀ u s', x s = .ok (u, s') ↔ G ∧ s' = t) {r : β × σ} :
    (x >>= k) s = .ok r ↔ G ∧ k () t = .ok r := by
  obtain ⟨b, s'⟩ := r
  rw [bind_ok]
  constructor
  · rintro ⟨u, m, hx, hk⟩
    obtain ⟨hG, rfl⟩ := (h u m).mp hx
    exact ⟨hG, hk⟩
  · rintro ⟨hG, hk⟩
    exact ⟨(), t, (h () t).mpr ⟨hG, rfl⟩, hk⟩

theorem committed_of_error {x : Tx σ ε α} {s : σ} {e : ε} (h : x s = .error e) : committed x s = s := by
  simp [committed, h]

theorem committed_of_ok {x : Tx σ ε α} {s s' : σ} {a : α} (h : x s = .ok (a, s')) :
    committed x s = s' := by
  simp [committed, h]

/-- **Commit or roll back**: a transaction either succeeds into the committed store, or leaves the
    store as it was. -/
theorem committed_cases (x : Tx σ ε α) (s : σ) :
    (∃ a, x s = .ok (a, committed x s)) ∨ ((∃ e, x s = .error e) ∧ committed x s = s) := by
  unfold committed
  cases hx : x s with
  | error e => exact Or.inr ⟨⟨e, rfl⟩, rfl⟩
  | ok p => exact Or.inl ⟨p.1, rfl⟩

/-- The states a loop passes through: the body takes each element from one state to the next. -/
inductive Collected (f : β → Tx σ ε α) : σ → List β → List α → σ → Prop
  | nil (s : σ) : Collected f s [] [] s
  | cons {s m s' : σ} {b : β} {bs : List β} {a : α} {as : List α} (h : f b s = .ok (a, m))
      (hs : Collected f m bs as s') : Collected f s (b :: bs) (a :: as) s'

theorem collect_ok {f : β → Tx σ ε α} : ∀ {bs : List β} {as : List α} {s s' : σ},
    collect f bs s = .ok (as, s') → Collected f s bs as s'
  | [], as, s, s', h => by
    obtain ⟨rfl, rfl⟩ := pure_ok.mp h
    exact .nil s
  | b :: bs, as, s, s', h => by
    obtain ⟨a, m, ha, hrest⟩ := bind_ok.mp h
    obtain ⟨as', m', has, hp⟩ := bind_ok.mp hrest
    obtain ⟨rfl, rfl⟩ := pure_ok.mp hp
    exact .cons ha (collect_ok has)

/-- A relation between the states of a loop, from the same relation for its body. -/
theorem Collected.relates {f : β → Tx σ ε α} {R : σ → σ → Prop} (hrefl : ∀ s, R s s)
    (htrans : ∀ {s m s'}, R s m → R m s' → R s s') (hstep : ∀ {b s a s'}, f b s = .ok (a, s') → R s s')
    {s s' : σ} {bs : List β} {as : List α} (h : Collected f s bs as s') : R s s' := by
  induction h with
  | nil s => exact hrefl s
  | cons h _ ih => exact htrans (hstep h) ih

/-! ## Triples -/

/-- `Triple P x Q` — every successful run of `x` from a store satisfying `P` ends with a result
    and a store satisfying `Q`. -/
def Triple (P : σ → Prop) (x : Tx σ ε α) (Q : α → σ → Prop) : Prop :=
  ∀ s, P s → ∀ a s', x s = .ok (a, s') → Q a s'

variable {P P' : σ → Prop} {Q Q' : α → σ → Prop}

theorem triple_conseq {x : Tx σ ε α} (h : Triple P' x Q') (hP : ∀ s, P s → P' s)
    (hQ : ∀ a s, Q' a s → Q a s) : Triple P x Q :=
  fun s hs a s' hx => hQ a s' (h s (hP s hs) a s' hx)

theorem triple_bind {x : Tx σ ε α} {f : α → Tx σ ε β} {R : β → σ → Prop}
    (hx : Triple P x Q) (hf : ∀ a, Triple (Q a) (f a) R) : Triple P (x >>= f) R := by
  intro s hs b s' h
  obtain ⟨a, m, h1, h2⟩ := bind_ok.mp h
  exact hf a m (hx s hs a m h1) b s' h2

theorem triple_pure {a : α} (h : ∀ s, P s → Q a s) : Triple P (pure a : Tx σ ε α) Q := by
  intro s hs b s' hx
  obtain ⟨rfl, rfl⟩ := pure_ok.mp hx
  exact h s hs

theorem triple_fail {e : ε} : Triple P (fail e : Tx σ ε α) Q :=
  fun _ _ _ _ hx => (fail_ok.mp hx).elim

theorem triple_require {c : Prop} [Decidable c] {e : ε} {R : Unit → σ → Prop}
    (h : ∀ s, P s → c → R () s) : Triple P (require c e : Tx σ ε Unit) R := by
  intro s hs u s' hx
  obtain ⟨hc, rfl⟩ := require_ok.mp hx
  exact h s hs hc

theorem triple_readWith {f : σ → α} (h : ∀ s, P s → Q (f s) s) :
    Triple P (readWith f : Tx σ ε α) Q := by
  intro s hs a s' hx
  obtain ⟨rfl, rfl⟩ := readWith_ok.mp hx
  exact h s hs

theorem triple_update {f : σ → σ} {R : Unit → σ → Prop} (h : ∀ s, P s → R () (f s)) :
    Triple P (update f : Tx σ ε Unit) R := by
  intro s hs u s' hx
  obtain rfl := update_ok.mp hx
  exact h s hs

theorem triple_orFail {e : ε} {o : Option α} (h : ∀ s a, P s → o = some a → Q a s) :
    Triple P (orFail e o : Tx σ ε α) Q := by
  intro s hs a s' hx
  obtain ⟨ho, rfl⟩ := orFail_ok.mp hx
  exact h s a hs ho

theorem triple_ite {c : Prop} [Decidable c] {x y : Tx σ ε α} (hx : c → Triple P x Q)
    (hy : ¬ c → Triple P y Q) : Triple P (if c then x else y) Q := by
  by_cases hc : c
  · rw [if_pos hc]; exact hx hc
  · rw [if_neg hc]; exact hy hc

/-! ## Invariants of a transaction -/

/-- `Preserves I x` — every successful run of `x` keeps the invariant `I`. -/
def Preserves (I : σ → Prop) (x : Tx σ ε α) : Prop := Triple I x (fun _ => I)

variable {I J : σ → Prop}

theorem preserves_bind {x : Tx σ ε α} {f : α → Tx σ ε β} (hx : Preserves I x)
    (hf : ∀ a, Preserves I (f a)) : Preserves I (x >>= f) :=
  triple_bind hx hf

theorem preserves_pure (a : α) : Preserves I (pure a : Tx σ ε α) := triple_pure fun _ h => h

theorem preserves_fail (e : ε) : Preserves I (fail e : Tx σ ε α) := triple_fail

theorem preserves_require (c : Prop) [Decidable c] (e : ε) :
    Preserves I (require c e : Tx σ ε Unit) := triple_require fun _ h _ => h

theorem preserves_readWith (f : σ → α) : Preserves I (readWith f : Tx σ ε α) :=
  triple_readWith fun _ h => h

theorem preserves_update {f : σ → σ} (h : ∀ s, I s → I (f s)) :
    Preserves I (update f : Tx σ ε Unit) := triple_update h

theorem preserves_orFail (e : ε) (o : Option α) : Preserves I (orFail e o : Tx σ ε α) :=
  triple_orFail fun _ _ h _ => h

theorem preserves_valueOf (x : Except ε α) : Preserves I (valueOf x : Tx σ ε α) := by
  cases x with
  | error e => exact preserves_fail e
  | ok a => exact preserves_pure a

theorem preserves_ite {c : Prop} [Decidable c] {x y : Tx σ ε α} (hx : Preserves I x)
    (hy : Preserves I y) : Preserves I (if c then x else y) :=
  triple_ite (fun _ => hx) (fun _ => hy)

/-- A loop keeps what every round keeps. -/
theorem preserves_forEach {f : β → Tx σ ε Unit} (h : ∀ b, Preserves I (f b)) :
    ∀ bs : List β, Preserves I (forEach f bs)
  | [] => preserves_pure ()
  | b :: bs => preserves_bind (h b) fun _ => preserves_forEach h bs

theorem preserves_collect {f : β → Tx σ ε α} (h : ∀ b, Preserves I (f b)) :
    ∀ bs : List β, Preserves I (collect f bs)
  | [] => preserves_pure []
  | b :: bs => preserves_bind (h b) fun _ =>
      preserves_bind (preserves_collect h bs) fun _ => preserves_pure _

theorem preserves_ignoreResult {x : Tx σ ε α} (h : Preserves I x) : Preserves I (ignoreResult x) :=
  preserves_bind h fun _ => preserves_pure ()

/-- Two invariants kept separately are kept together. -/
theorem preserves_and {x : Tx σ ε α} (hI : Preserves I x) (hJ : Preserves J x) :
    Preserves (fun s => I s ∧ J s) x :=
  fun s hs a s' h => ⟨hI s hs.1 a s' h, hJ s hs.2 a s' h⟩

/-- **The invariant survives the transaction**, committed or rolled back. -/
theorem committed_of_preserves {x : Tx σ ε α} (h : Preserves I x) {s : σ} (hs : I s) :
    I (committed x s) := by
  rcases committed_cases x s with ⟨a, hx⟩ | ⟨-, hx⟩
  · exact h s hs a _ hx
  · rw [hx]; exact hs

end Txn
