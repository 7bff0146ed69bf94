/-
  **Runs of a labelled transition system** — what holds in every state a system can reach, and along
  every sequence of steps it can take.

  A system is given by its initial states and a step relation that carries a label (the operation,
  with its inputs).  `Run M ls s` says that the steps `ls`, taken in this order from some initial
  state, can end in `s`.  Two rules are all that is needed later: an invariant of single steps is an
  invariant of runs (`Run.invariant`), and a property of the HISTORY of a run together with its
  last state is proved by the same induction (`Run.history`).
-/
import Mathlib.Data.List.Basic

namespace Runs

/-- A labelled transition system. -/
structure System (σ ℓ : Type) where
  init : σ → Prop
  step : σ → ℓ → σ → Prop

variable {σ ℓ : Type}

/-- `Run M ls s` — the steps `ls` can lead from an initial state to `s`. -/
inductive Run (M : System σ ℓ) : List ℓ → σ → Prop
  | start {s : σ} (h : M.init s) : Run M [] s
  | next {ls : List ℓ} {s s' : σ} {l : ℓ} (h : Run M ls s) (hs : M.step s l s') :
      Run M (ls ++ [l]) s'

/-- The states some run reaches. -/
def Reachable (M : System σ ℓ) (s : σ) : Prop := ∃ ls, Run M ls s

variable {M : System σ ℓ}

/-- The runs whose steps all meet a condition on the state before the step and its label. -/
def System.restrict (M : System σ ℓ) (P : σ → ℓ → Prop) : System σ ℓ where
  init := M.init
  step s l s' := P s l ∧ M.step s l s'

/-- **Invariant rule.** What holds initially and is kept by every step holds in every state of every
    run. -/
theorem Run.invariant {I : σ → Prop} (h0 : ∀ s, M.init s → I s)
    (hstep : ∀ s l s', I s → M.step s l s' → I s') {ls : List ℓ} {s : σ} (h : Run M ls s) : I s := by
  induction h with
  | start h => exact h0 _ h
  | next _ hs ih => exact hstep _ _ _ ih hs

/-- The same rule for a property of the history and the state together. -/
theorem Run.history {I : List ℓ → σ → Prop} (h0 : ∀ s, M.init s → I [] s)
    (hstep : ∀ ls s l s', Run M ls s → I ls s → M.step s l s' → I (ls ++ [l]) s')
    {ls : List ℓ} {s : σ} (h : Run M ls s) : I ls s := by
  induction h with
  | start h => exact h0 _ h
  | next h hs ih => exact hstep _ _ _ _ h ih hs

theorem Reachable.invariant {I : σ → Prop} (h0 : ∀ s, M.init s → I s)
    (hstep : ∀ s l s', I s → M.step s l s' → I s') {s : σ} (h : Reachable M s) : I s :=
  h.elim fun _ hr => hr.invariant h0 hstep

/-- What is reached under a condition is reached. -/
theorem Reachable.of_restrict {P : σ → ℓ → Prop} {s : σ} (h : Reachable (M.restrict P) s) : Reachable M s := by
  obtain ⟨ls, hr⟩ := h
  induction hr with
  | start h0 => exact ⟨[], .start h0⟩
  | next _ hs ih =>
    obtain ⟨ks, hk⟩ := ih
    exact ⟨_, hk.next hs.2⟩

/-- Running a list of labels, when the step is a function of state and label. -/
theorem Reachable.foldl {f : σ → ℓ → σ} (hf : ∀ s l, M.step s l (f s l)) (ls : List ℓ) :
    ∀ {s : σ}, Reachable M s → Reachable M (ls.foldl f s) := by
  induction ls with
  | nil => exact fun h => h
  | cons l ls ih => exact fun ⟨ks, hk⟩ => ih ⟨_, hk.next (hf _ l)⟩

/-- The state after a list of labels, when the step is a partial function of state and label. -/
def follow (f : σ → ℓ → Option σ) : List ℓ → σ → Option σ
  | [], s => some s
  | l :: ls, s => (f s l).bind (follow f ls)

theorem Run.follow {f : σ → ℓ → Option σ} (hf : ∀ s l s', f s l = some s' → M.step s l s') {ls : List ℓ} :
    ∀ {ks : List ℓ} {s s' : σ}, Run M ks s → Runs.follow f ls s = some s' → Run M (ks ++ ls) s' := by
  induction ls with
  | nil =>
    intro ks s s' hk hs
    rw [List.append_nil]
    exact Option.some.inj hs ▸ hk
  | cons l ls ih =>
    intro ks s s' hk hs
    obtain ⟨m, hm, hrest⟩ := Option.bind_eq_some_iff.mp hs
    have hrun := ih (hk.next (hf s l m hm)) hrest
    rw [List.append_assoc] at hrun
    exact hrun

theorem Reachable.follow {f : σ → ℓ → Option σ} (hf : ∀ s l s', f s l = some s' → M.step s l s') {ls : List ℓ}
    {s s' : σ} (h : Reachable M s) (hs : Runs.follow f ls s = some s') : Reachable M s' := by
  obtain ⟨ks, hk⟩ := h
  exact ⟨ks ++ ls, hk.follow hf hs⟩

/-- `Path M s ls s'` — from `s`, the steps `ls` can lead to `s'`. -/
inductive Path (M : System σ ℓ) (s : σ) : List ℓ → σ → Prop
  | refl : Path M s [] s
  | next {ls : List ℓ} {m s' : σ} {l : ℓ} (h : Path M s ls m) (hs : M.step m l s') : Path M s (ls ++ [l]) s'

/-- What reaches the start of a path reaches its end. -/
theorem Reachable.path {s s' : σ} {ls : List ℓ} (h : Reachable M s) (hp : Path M s ls s') :
    Reachable M s' := by
  induction hp with
  | refl => exact h
  | next _ hs ih =>
    obtain ⟨ks, hk⟩ := ih
    exact ⟨_, hk.next hs⟩

/-- **Path rule.** A reflexive and transitive relation that every step keeps, under an invariant,
    relates the two ends of a path. -/
theorem Path.relates {I : σ → Prop} {R : σ → σ → Prop} (hrefl : ∀ s, R s s)
    (htrans : ∀ {s m s'}, R s m → R m s' → R s s')
    (hstep : ∀ s l s', I s → M.step s l s' → I s' ∧ R s s') {s s' : σ} {ls : List ℓ} (hp : Path M s ls s')
    (hs : I s) : I s' ∧ R s s' := by
  induction hp with
  | refl => exact ⟨hs, hrefl s⟩
  | next _ hstep' ih =>
    obtain ⟨hm, hr⟩ := ih
    obtain ⟨hs', hr'⟩ := hstep _ _ _ hm hstep'
    exact ⟨hs', htrans hr hr'⟩

/-! ## Entries of a history

A history is a list, oldest first; `before ++ e :: after` singles out one of its entries. -/

section
variable {ε : Type}

/-- An entry of a longer history that is not among the new ones was there before. -/
theorem split_append {history new before after : List ε} {e : ε} (h : history ++ new = before ++ e :: after) (he : e ∉ new) :
    ∃ rest, history = before ++ e :: rest ∧ after = rest ++ new := by
  rcases List.append_eq_append_iff.mp h with ⟨as, -, h2⟩ | ⟨bs, h1, h2⟩
  · exact absurd (h2 ▸ List.mem_append_right as List.mem_cons_self) he
  · cases bs with
    | nil =>
      rw [List.nil_append] at h2
      exact absurd (h2 ▸ List.mem_cons_self : e ∈ new) he
    | cons b bs =>
      obtain ⟨rfl, rfl⟩ := List.cons.inj h2
      exact ⟨bs, h1, rfl⟩

/-- An entry of a history with one more is the last, or was there before. -/
theorem split_append_singleton {history before after : List ε} {d e : ε} (h : history ++ [d] = before ++ e :: after) :
    (before = history ∧ e = d ∧ after = []) ∨ ∃ rest, history = before ++ e :: rest ∧ after = rest ++ [d] := by
  rcases List.eq_nil_or_concat' after with rfl | ⟨after, x, rfl⟩
  · obtain ⟨h1, h2⟩ := List.append_inj' h rfl
    exact .inl ⟨h1.symm, (List.cons.inj h2).1.symm, rfl⟩
  · rw [← List.cons_append, ← List.append_assoc] at h
    obtain ⟨h1, h2⟩ := List.append_inj' h rfl
    exact .inr ⟨after, h1, by rw [(List.cons.inj h2).1]⟩

end

end Runs
