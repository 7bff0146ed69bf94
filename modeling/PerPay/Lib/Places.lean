/-
  **Lists as tables by place** — a list whose entries are named by their places, as handed out to the parties of a
  protocol: entries come at the end and change where they are.  A change shows at its own place only
  (`getElem?_set`), and moves a count by what it changes there (`countP_set`).
-/
import Mathlib.Data.List.Basic

namespace Places

variable {α : Type} {xs : List α} {i : Nat} {x y : α}

/-- An entry changed where it is. -/
theorem getElem?_set (h : xs[i]? = some x) (k : Nat) : (xs.set i y)[k]? = if k = i then some y else xs[k]? := by
  obtain ⟨hlt, -⟩ := List.getElem?_eq_some_iff.mp h
  rw [List.getElem?_set]
  by_cases hk : k = i
  · rw [if_pos hk.symm, if_pos hk, if_pos hlt]
  · rw [if_neg (Ne.symm hk), if_neg hk]

/-- An entry added at the end. -/
theorem getElem?_concat (k : Nat) : (xs ++ [x])[k]? = if k = xs.length then some x else xs[k]? := by
  by_cases hk : k = xs.length
  · rw [if_pos hk, hk, List.getElem?_concat_length]
  · rw [if_neg hk]
    rcases Nat.lt_or_gt_of_ne hk with hlt | hgt
    · exact List.getElem?_append_left hlt
    · rw [List.getElem?_eq_none (by rw [List.length_append, List.length_singleton]; omega), List.getElem?_eq_none (by omega)]

/-- An entry changed by a function. -/
theorem modify_eq_set (f : α → α) (h : xs[i]? = some x) : xs.modify i f = xs.set i (f x) := by
  obtain ⟨hlt, rfl⟩ := List.getElem?_eq_some_iff.mp h
  refine List.ext_getElem? fun k => ?_
  by_cases hk : i = k
  · subst hk
    rw [List.getElem?_modify_eq, List.getElem?_set_self hlt, h]
    rfl
  · rw [List.getElem?_modify_ne f xs hk, List.getElem?_set_ne hk]

/-- What a change does to a count. -/
theorem countP_set (p : α → Bool) (h : xs[i]? = some x) :
    (xs.set i y).countP p + (if p x then 1 else 0) = xs.countP p + if p y then 1 else 0 := by
  obtain ⟨hlt, rfl⟩ := List.getElem?_eq_some_iff.mp h
  have hle : (if p xs[i] then 1 else 0) ≤ xs.countP p := by
    split
    · next hp => exact List.countP_pos_iff.mpr ⟨_, List.getElem_mem hlt, hp⟩
    · exact Nat.zero_le _
  rw [List.countP_set hlt]
  omega

/-- A change that a predicate does not see. -/
theorem countP_set_of_eq (p : α → Bool) (h : xs[i]? = some x) (heq : p y = p x) : (xs.set i y).countP p = xs.countP p := by
  have hcount := countP_set (y := y) p h
  rw [heq] at hcount
  omega

end Places
