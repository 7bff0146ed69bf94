/-
  **Keyset pages** — reading a sorted list page by page, from the key of the last row read.

  The rows are sorted by a strict order of their keys.  A position is the key of a row, or none at the
  start; the rows after it are those with a greater key, and a page is a prefix of them.  The point is
  `after_last`: the rows after the last row of a page are the rest of the list, so that pages neither
  overlap nor leave a gap.
-/
import Mathlib.Data.List.Basic
import Mathlib.Order.Defs.Unbundled

namespace Keyset

variable {α κ : Type} (lt : κ → κ → Prop) [DecidableRel lt] (key : α → κ)

/-- The rows beyond a position. -/
def after (position : Option κ) (rows : List α) : List α :=
  rows.filter fun row => position.all fun k => decide (lt k (key row))

/-- The rows are sorted by their keys, and no two have the same. -/
def Ordered (rows : List α) : Prop := rows.Pairwise fun a b => lt (key a) (key b)

theorem after_none (rows : List α) : after lt key none rows = rows :=
  List.filter_eq_self.mpr fun _ _ => rfl

theorem mem_after {position : Option κ} {rows : List α} {row : α} :
    row ∈ after lt key position rows ↔ row ∈ rows ∧ ∀ k ∈ position, lt k (key row) := by
  simp only [after, List.mem_filter, Option.all_eq_true, decide_eq_true_eq, Option.mem_def]

theorem Ordered.after {rows : List α} (h : Ordered lt key rows) (position : Option κ) :
    Ordered lt key (after lt key position rows) :=
  h.filter _

variable [IsStrictOrder κ lt]

/-- Rows after the key of one of their own number: exactly those that come after it. -/
theorem after_split {rows before beyond : List α} {row : α} (h : Ordered lt key rows)
    (hrows : rows = before ++ row :: beyond) : after lt key (some (key row)) rows = beyond := by
  subst hrows
  obtain ⟨-, hbeyond, hbefore⟩ := List.pairwise_append.mp h
  have hrow : ∀ b ∈ beyond, lt (key row) (key b) := (List.pairwise_cons.mp hbeyond).1
  have hnone : before.filter (fun b => decide (lt (key row) (key b))) = [] := by
    refine List.filter_eq_nil_iff.mpr fun b hb hlt => ?_
    exact asymm (of_decide_eq_true hlt) (hbefore b hb row List.mem_cons_self)
  show (before ++ row :: beyond).filter (fun b => decide (lt (key row) (key b))) = beyond
  rw [List.filter_append, hnone, List.nil_append, List.filter_cons_of_neg]
  · exact List.filter_eq_self.mpr fun b hb => decide_eq_true (hrow b hb)
  · exact fun hlt => irrefl _ (of_decide_eq_true hlt)

/-- A later position only leaves fewer rows. -/
theorem after_after {rows : List α} {position : Option κ} {row : α} (hrow : row ∈ after lt key position rows) :
    after lt key (some (key row)) rows = after lt key (some (key row)) (after lt key position rows) := by
  unfold after
  rw [List.filter_filter]
  refine List.filter_congr fun b _ => ?_
  have hlt := ((mem_after lt key).mp hrow).2
  cases position with
  | none => simp only [Option.all_none, Option.all_some, Bool.and_true]
  | some k =>
    simp only [Option.all_some]
    by_cases hb : lt (key row) (key b)
    · rw [decide_eq_true hb, decide_eq_true (IsTrans.trans _ _ _ (hlt k rfl) hb)]
      rfl
    · rw [decide_eq_false hb]
      rfl

/-- **The next page continues where the last one ended.** -/
theorem after_last {rows : List α} {position : Option κ} {n : Nat} {last : α} (h : Ordered lt key rows)
    (hlast : ((after lt key position rows).take n).getLast? = some last) :
    after lt key (some (key last)) rows = (after lt key position rows).drop n := by
  obtain ⟨before, htake⟩ := List.getLast?_eq_some_iff.mp hlast
  have hsplit : after lt key position rows = before ++ last :: (after lt key position rows).drop n := by
    conv_lhs => rw [← List.take_append_drop n (after lt key position rows), htake]
    rw [List.append_assoc]
    rfl
  have hmem : last ∈ after lt key position rows := hsplit ▸ List.mem_append_right _ List.mem_cons_self
  rw [after_after lt key hmem]
  exact after_split lt key (h.after lt key position) hsplit

end Keyset
