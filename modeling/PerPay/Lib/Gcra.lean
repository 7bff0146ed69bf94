/-
  **The generic cell rate algorithm.**

  A limiter keeps one number, the theoretical arrival time.  A call at time `e` is admitted when the arrival time is at
  most `burst - 1` intervals ahead of it, and moves the arrival time one interval on, from `e` or from where it
  was.  So the calls since some time `a` push the arrival time at least that many intervals past `a`
  (`Admitted.ahead`), and that bounds how many of them a window can hold (`Admitted.window`) — whatever the
  arrival time was in the beginning.
-/
import Mathlib.Data.List.Basic
import Mathlib.Tactic.Ring

namespace Gcra

/-- `Admitted interval burst arrival times` — the calls at `times`, oldest first, were admitted, and left `arrival`. -/
inductive Admitted (interval burst : Nat) : Nat → List Nat → Prop
  | start (arrival : Nat) : Admitted interval burst arrival []
  | next {arrival : Nat} {times : List Nat} {e : Nat} (h : Admitted interval burst arrival times)
      (later : ∀ t ∈ times, t ≤ e) (admitted : arrival ≤ e + (burst - 1) * interval) :
      Admitted interval burst (max arrival e + interval) (times ++ [e])

variable {interval burst arrival : Nat} {times : List Nat}

/-- The calls at or after `a` -/
def since (a : Nat) (times : List Nat) : Nat := (times.filter fun t => a ≤ t).length

theorem since_append (a e : Nat) (times : List Nat) : since a (times ++ [e]) = since a times + if a ≤ e then 1 else 0 := by
  unfold since
  rw [List.filter_append, List.length_append]
  by_cases h : a ≤ e <;> simp [h]

/-- Each call since `a` has pushed the arrival time one interval further. -/
theorem Admitted.ahead (h : Admitted interval burst arrival times) (a : Nat) (hpos : 0 < since a times) :
    a + since a times * interval ≤ arrival := by
  induction h with
  | start arrival => exact absurd hpos (Nat.lt_irrefl 0)
  | @next arrival times e _ _ _ ih =>
    rw [since_append] at hpos ⊢
    by_cases he : a ≤ e
    · rw [if_pos he, Nat.add_mul, Nat.one_mul]
      rcases Nat.eq_zero_or_pos (since a times) with hzero | hpos
      · rw [hzero]
        omega
      · have hahead := ih hpos
        omega
    · rw [if_neg he, Nat.add_zero] at hpos ⊢
      have hahead := ih hpos
      omega

/-- A window of length `length` holds at most the burst and one call for each interval in it. -/
theorem Admitted.window (h : Admitted interval burst arrival times) (hinterval : 0 < interval) (hburst : 0 < burst) (a length : Nat) :
    (times.filter fun t => a ≤ t ∧ t ≤ a + length).length ≤ burst + length / interval := by
  induction h with
  | start arrival => exact Nat.zero_le _
  | @next arrival times e h later admitted ih =>
    rw [List.filter_append, List.length_append]
    by_cases he : a ≤ e ∧ e ≤ a + length
    · rw [List.filter_cons_of_pos (by simpa using he), List.filter_nil, List.length_singleton]
      -- all that came since `a` is in the window
      have hsince : (times.filter fun t => a ≤ t ∧ t ≤ a + length).length = since a times := by
        unfold since
        refine congrArg List.length (List.filter_congr fun t ht => ?_)
        have hle := later t ht
        exact decide_eq_decide.mpr ⟨fun h => h.1, fun h => ⟨h, by omega⟩⟩
      rw [hsince]
      rcases Nat.eq_zero_or_pos (since a times) with hzero | hpos
      · rw [hzero]
        exact Nat.le_trans hburst (Nat.le_add_right _ _)
      · have hahead := h.ahead a hpos
        have hcount : (since a times - (burst - 1)) * interval ≤ length := by
          rw [Nat.sub_mul]
          omega
        have hdiv : since a times - (burst - 1) ≤ length / interval := (Nat.le_div_iff_mul_le hinterval).mpr hcount
        omega
    · rw [List.filter_cons_of_neg (by simpa using he), List.filter_nil, List.length_nil, Nat.add_zero]
      exact ih

end Gcra
