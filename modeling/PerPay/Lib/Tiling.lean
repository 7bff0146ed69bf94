/-
  **Tilings** — pieces that cover a range without a gap and without an overlap.

  A PIECE is a pair of bounds in a linear order.  `Chain l a b` says that the pieces of `l`, in this
  order, lead from `a` to `b`: each one ends where the next starts.  A table keeps its pieces in any
  order, so `Tiles` asks for some order; the bounds leave only one (`Tiles.sorted`).  The one operation
  on a tiling is to cut a piece in two (`Tiles.cut`).
-/
import Mathlib.Data.List.Nodup
import Mathlib.Data.List.Perm.Basic
import Mathlib.Order.Lattice

namespace Tiling

variable {α : Type} [LinearOrder α]

/-- The pieces, in this order, lead from `a` to `b`. -/
inductive Chain : List (α × α) → α → α → Prop
  | nil (a : α) : Chain [] a a
  | cons {a m b : α} {l : List (α × α)} (h : a < m) (hl : Chain l m b) : Chain ((a, m) :: l) a b

/-- Some order of the pieces leads from `a` to `b`. -/
def Tiles (pieces : List (α × α)) (a b : α) : Prop := ∃ l, l.Perm pieces ∧ Chain l a b

/-! ## Chains -/

theorem Chain.singleton {a b : α} (h : a < b) : Chain [(a, b)] a b := .cons h (.nil b)

theorem Chain.le {l : List (α × α)} {a b : α} (h : Chain l a b) : a ≤ b := by
  induction h with
  | nil a => exact le_refl a
  | cons h _ ih => exact h.le.trans ih

/-- Every piece of a chain lies inside its range. -/
theorem Chain.bounds {l : List (α × α)} {a b : α} (h : Chain l a b) : ∀ p ∈ l, a ≤ p.1 ∧ p.1 < p.2 ∧ p.2 ≤ b := by
  induction h with
  | nil a => simp
  | cons h hl ih =>
    intro p hp
    rcases List.mem_cons.mp hp with rfl | hp
    · exact ⟨le_refl _, h, hl.le⟩
    · obtain ⟨h1, h2, h3⟩ := ih p hp
      exact ⟨h.le.trans h1, h2, h3⟩

theorem Chain.pairwise {l : List (α × α)} {a b : α} (h : Chain l a b) : l.Pairwise fun p q => p.1 < q.1 := by
  induction h with
  | nil a => exact .nil
  | cons h hl ih => exact .cons (fun q hq => h.trans_le (hl.bounds q hq).1) ih

/-- Every point of the range lies in a piece. -/
theorem Chain.covers {l : List (α × α)} {a b x : α} (h : Chain l a b) (ha : a ≤ x) (hb : x < b) :
    ∃ p ∈ l, p.1 ≤ x ∧ x < p.2 := by
  induction h with
  | nil a => exact absurd hb (not_lt.mpr ha)
  | @cons a m b l h hl ih =>
    by_cases hx : x < m
    · exact ⟨(a, m), List.mem_cons_self, ha, hx⟩
    · obtain ⟨p, hp, hin⟩ := ih (not_lt.mp hx) hb
      exact ⟨p, List.mem_cons_of_mem _ hp, hin⟩

/-- A piece of a chain may be cut in two. -/
theorem Chain.cut {a b x m y : α} (hx : x < m) (hy : m < y) {before after : List (α × α)} :
    Chain (before ++ (x, y) :: after) a b → Chain (before ++ (x, m) :: (m, y) :: after) a b := by
  induction before generalizing a with
  | nil =>
    intro h
    cases h with
    | cons h hl => exact .cons hx (.cons hy hl)
  | cons p before ih =>
    intro h
    cases h with
    | cons h hl => exact .cons h (ih hl)

/-! ## Tilings -/

theorem Tiles.singleton {a b : α} (h : a < b) : Tiles [(a, b)] a b := ⟨_, .refl _, .singleton h⟩

theorem Tiles.perm {pieces pieces' : List (α × α)} {a b : α} (h : Tiles pieces a b) (hp : pieces.Perm pieces') :
    Tiles pieces' a b := by
  obtain ⟨l, hl, hc⟩ := h
  exact ⟨l, hl.trans hp, hc⟩

theorem Tiles.covers {pieces : List (α × α)} {a b x : α} (h : Tiles pieces a b) (ha : a ≤ x) (hb : x < b) :
    ∃ p ∈ pieces, p.1 ≤ x ∧ x < p.2 := by
  obtain ⟨l, hl, hc⟩ := h
  obtain ⟨p, hp, hin⟩ := hc.covers ha hb
  exact ⟨p, hl.mem_iff.mp hp, hin⟩

theorem Tiles.cut {rest : List (α × α)} {a b x m y : α} (h : Tiles ((x, y) :: rest) a b) (hx : x < m) (hy : m < y) :
    Tiles ((x, m) :: (m, y) :: rest) a b := by
  obtain ⟨l, hl, hc⟩ := h
  obtain ⟨before, after, rfl⟩ := List.append_of_mem (hl.mem_iff.mpr List.mem_cons_self)
  refine ⟨_, ?_, hc.cut hx hy⟩
  have hrest : (before ++ after).Perm rest := List.Perm.cons_inv (List.perm_middle.symm.trans hl)
  calc List.Perm (before ++ (x, m) :: (m, y) :: after) ((x, m) :: (before ++ (m, y) :: after)) := List.perm_middle
    List.Perm _ ((x, m) :: (m, y) :: (before ++ after)) := .cons _ List.perm_middle
    List.Perm _ ((x, m) :: (m, y) :: rest) := .cons _ (.cons _ hrest)

theorem pairwise_sorted {ρ : Type} (key : ρ → α) (rows : List ρ) :
    (rows.mergeSort fun x y => key x ≤ key y).Pairwise fun x y => key x ≤ key y := by
  have h := @List.pairwise_mergeSort _ (fun x y => decide (key x ≤ key y))
    (fun x y z hxy hyz => by
      simp only [decide_eq_true_eq] at *
      exact hxy.trans hyz)
    (fun x y => by simpa using le_total (key x) (key y)) rows
  exact h.imp fun h => by simpa using h

/-- **The order of a tiling is the order of its lower bounds.** -/
theorem Tiles.sorted {ρ : Type} {piece : ρ → α × α} {rows : List ρ} {a b : α} (h : Tiles (rows.map piece) a b) :
    Chain ((rows.mergeSort fun x y => (piece x).1 ≤ (piece y).1).map piece) a b := by
  obtain ⟨l, hl, hc⟩ := h
  have hperm : l.Perm ((rows.mergeSort fun x y => (piece x).1 ≤ (piece y).1).map piece) :=
    hl.trans ((List.mergeSort_perm rows _).map piece).symm
  have hsorted : ((rows.mergeSort fun x y => (piece x).1 ≤ (piece y).1).map piece).Pairwise
      fun p q => p.1 ≤ q.1 :=
    List.pairwise_map.mpr (pairwise_sorted (fun x => (piece x).1) rows)
  have hstrict := hc.pairwise
  have hnodup : (l.map Prod.fst).Nodup := (List.pairwise_map.mpr hstrict).imp ne_of_lt
  suffices heq : l = (rows.mergeSort fun x y => (piece x).1 ≤ (piece y).1).map piece from heq ▸ hc
  refine List.Perm.eq_of_pairwise ?_ (hstrict.imp le_of_lt) hsorted hperm
  -- two pieces of a chain with one lower bound are one piece
  intro p q hp hq hpq hqp
  exact List.inj_on_of_nodup_map hnodup hp (hperm.mem_iff.mpr hq) (le_antisymm hpq hqp)

end Tiling
