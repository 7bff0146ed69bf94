/-
  **A page of several sources** — each source sorts its rows and hands over at most a page of them; the
  pages are put together, sorted again, and cut to one page.

  That is the page one would get from all the rows at once (`take_sorted_flatMap`): a row that its own
  source leaves out has a whole page of rows of that source before it.  The keys are pairwise different,
  so that there is only one way to sort.
-/
import Mathlib.Data.List.Perm.Subperm
import Mathlib.Data.List.Sort
import Mathlib.Order.Lattice
import PerPay.Lib.Keyset

namespace Merge

open Keyset (Ordered)

variable {α κ : Type} [LinearOrder κ] (key : α → κ)

/-- The rows by ascending key. -/
def sorted (rows : List α) : List α := rows.insertionSort fun a b => key a ≤ key b

theorem sorted_perm (rows : List α) : (sorted key rows).Perm rows := List.perm_insertionSort _ rows

variable {key}

theorem mem_sorted {rows : List α} {row : α} : row ∈ sorted key rows ↔ row ∈ rows := (sorted_perm key rows).mem_iff

/-- Different keys leave no choice of the order. -/
theorem ordered_sorted {rows : List α} (h : (rows.map key).Nodup) : Ordered (· < ·) key (sorted key rows) := by
  have hle : (sorted key rows).Pairwise fun a b => key a ≤ key b := by
    have : Std.Total fun a b : α => key a ≤ key b := ⟨fun a b => le_total (key a) (key b)⟩
    have : IsTrans α fun a b => key a ≤ key b := ⟨fun _ _ _ => le_trans⟩
    exact List.pairwise_insertionSort _ rows
  have hne : (sorted key rows).Pairwise fun a b => key a ≠ key b :=
    List.pairwise_map.mp (((sorted_perm key rows).map key).nodup_iff.mpr h)
  exact (hle.and hne).imp fun hab => lt_of_le_of_ne hab.1 hab.2

/-- Two ways to sort the same rows agree. -/
theorem eq_of_ordered {rows rows' : List α} (h : Ordered (· < ·) key rows) (h' : Ordered (· < ·) key rows')
    (hperm : rows.Perm rows') : rows = rows' := by
  have hantisymm : ∀ a b, a ∈ rows → b ∈ rows' → key a < key b → key b < key a → a = b :=
    fun a b _ _ hab hba => absurd hab (lt_asymm hba)
  exact hperm.eq_of_pairwise hantisymm h h'

theorem sorted_filter {rows : List α} (h : (rows.map key).Nodup) (p : α → Bool) :
    sorted key (rows.filter p) = (sorted key rows).filter p := by
  refine eq_of_ordered (ordered_sorted (h.sublist (List.filter_sublist.map key))) ((ordered_sorted h).filter p) ?_
  exact (sorted_perm key _).trans ((sorted_perm key rows).symm.filter p)

/-- A sorted list determines its beginning by the rows in it. -/
theorem take_of_sublist {part whole : List α} {n : Nat} (hpart : part.Sublist whole) (hnodup : whole.Nodup)
    (hmem : ∀ a ∈ whole.take n, a ∈ part) : part.take n = whole.take n := by
  obtain ⟨first, second, rfl, hfirst, hsecond⟩ : ∃ first second, part = first ++ second ∧
      first.Sublist (whole.take n) ∧ second.Sublist (whole.drop n) := by
    rw [← List.take_append_drop n whole] at hpart
    exact List.sublist_append_iff.mp hpart
  have hsplit := List.nodup_append.mp (List.take_append_drop n whole ▸ hnodup)
  have heq : first = whole.take n := by
    refine hfirst.eq_of_length_le (List.Subperm.length_le (List.subperm_of_subset hsplit.1 fun a ha => ?_))
    rcases List.mem_append.mp (hmem a ha) with hin | hin
    · exact hin
    · exact absurd rfl (hsplit.2.2 a ha a (hsecond.subset hin))
  rw [heq]
  by_cases hlength : n ≤ whole.length
  · have htake : (whole.take n).length = n := by rw [List.length_take]; omega
    exact List.take_left' htake
  · have hdrop : whole.drop n = [] := List.drop_eq_nil_of_le (by omega)
    obtain rfl : second = [] := List.sublist_nil.mp (hdrop ▸ hsecond)
    rw [List.append_nil, List.take_take, Nat.min_self]

/-- Whoever comes before a row of the beginning is in the beginning. -/
theorem mem_take_of_lt {rows : List α} (h : Ordered (· < ·) key rows) {n : Nat} {a b : α} (ha : a ∈ rows.take n)
    (hb : b ∈ rows) (hlt : key b < key a) : b ∈ rows.take n := by
  rw [← List.take_append_drop n rows] at hb h
  rcases List.mem_append.mp hb with hb | hb
  · exact hb
  · exact absurd ((List.pairwise_append.mp h).2.2 a ha b hb) (lt_asymm hlt)

/-- A row of one source that is on the page of all sources is on the page of its source. -/
theorem mem_take_source {rows all : List α} (hnodup : (rows.map key).Nodup) (hall : Ordered (· < ·) key all)
    (hsub : ∀ a ∈ rows, a ∈ all) {n : Nat} {a : α} (hrow : a ∈ rows) (ha : a ∈ all.take n) :
    a ∈ (sorted key rows).take n := by
  have hsorted := ordered_sorted hnodup
  by_contra hout
  have hdrop : a ∈ (sorted key rows).drop n := by
    have hmem : a ∈ (sorted key rows).take n ++ (sorted key rows).drop n := by
      rw [List.take_append_drop]
      exact mem_sorted.mpr hrow
    exact (List.mem_append.mp hmem).resolve_left hout
  have hbefore : ∀ b ∈ (sorted key rows).take n, key b < key a := by
    rw [← List.take_append_drop n (sorted key rows)] at hsorted
    exact fun b hb => (List.pairwise_append.mp hsorted).2.2 b hb a hdrop
  -- the page of the source and the row are on the page of all sources, which is too short for them
  have hsubset : a :: (sorted key rows).take n ⊆ all.take n := by
    rintro b (_ | ⟨_, hb⟩)
    · exact ha
    · exact mem_take_of_lt hall ha (hsub b (mem_sorted.mp (List.mem_of_mem_take hb))) (hbefore b hb)
  have hdistinct : (a :: (sorted key rows).take n).Nodup := by
    refine List.nodup_cons.mpr ⟨hout, List.Nodup.sublist (List.take_sublist n _) ?_⟩
    exact hsorted.imp fun hlt heq => absurd (heq ▸ hlt) (lt_irrefl _)
  have hlength := (List.subperm_of_subset hdistinct hsubset).length_le
  have hlong : n < (sorted key rows).length := by
    have := List.length_pos_of_mem hdrop
    rw [List.length_drop] at this
    omega
  rw [List.length_cons, List.length_take, List.length_take] at hlength
  omega

/-- **A page of each source is enough for a page of all of them.** -/
theorem take_sorted_flatMap {sources : List (List α)} (h : (sources.flatten.map key).Nodup) (n : Nat) :
    (sorted key (sources.flatMap fun rows => (sorted key rows).take n)).take n =
      (sorted key sources.flatten).take n := by
  have hpart : ∀ sources : List (List α),
      (sources.flatMap fun rows => (sorted key rows).take n).Subperm sources.flatten := by
    intro sources
    induction sources with
    | nil => exact List.Subperm.refl _
    | cons rows sources ih =>
      rw [List.flatMap_cons, List.flatten_cons]
      exact List.Subperm.append ((List.take_sublist n _).subperm.trans (sorted_perm key rows).subperm) ih
  have hordered := ordered_sorted h
  have hkeys : ((sources.flatMap fun rows => (sorted key rows).take n).map key).Nodup := by
    obtain ⟨l, hperm, hsub⟩ := hpart sources
    exact (hperm.map key).nodup_iff.mp (h.sublist (hsub.map key))
  have hsubperm := ((sorted_perm key _).subperm.trans (hpart sources)).trans (sorted_perm key sources.flatten).symm.subperm
  have hsublist := List.sublist_of_subperm_of_pairwise (r := fun a b => key a < key b) hsubperm (ordered_sorted hkeys) hordered
  refine take_of_sublist hsublist (hordered.imp fun hlt heq => absurd (heq ▸ hlt) (lt_irrefl _)) fun a ha => ?_
  obtain ⟨rows, hrows, hrow⟩ := List.mem_flatten.mp (mem_sorted.mp (List.mem_of_mem_take ha))
  refine mem_sorted.mpr (List.mem_flatMap.mpr ⟨rows, hrows, ?_⟩)
  refine mem_take_source (h.sublist ((List.sublist_flatten_of_mem hrows).map key)) hordered (fun b hb => ?_) hrow ha
  exact mem_sorted.mpr (List.mem_flatten_of_mem hrows hb)

end Merge
