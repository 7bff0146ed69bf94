/-
  **The token bucket.**

  A bucket holds at most `capacity` tokens and gains `rate` of them in a unit of time; a call takes one
  when there is one.  The calls of a bucket come one after the other, so its history is a list of times,
  and everything about it is a fold over them.

  1. The calls that took a token since a time `a`, and the tokens that are left, were there at `a` or came
     in since (`taken_since`); so a window holds at most the capacity and what comes in during it
     (`taken_in_window`).
  2. A bucket that nobody called while it filled up is as good as a new one (`take_idle`).
-/
import Mathlib.Algebra.Order.Field.Basic
import Mathlib.Data.List.Basic
import Mathlib.Data.List.Induction
import Mathlib.Tactic.Linarith
import Mathlib.Tactic.Ring

namespace TokenBucket

variable {α : Type} [Field α] [LinearOrder α]

/-! ## One bucket -/

structure Bucket (α : Type) where
  tokens : α
  lastRefillAt : Option α
  deriving DecidableEq

/-- A bucket that was never called is full. -/
def full (capacity : α) : Bucket α := ⟨capacity, none⟩

/-- The tokens at the time `now`; time does not run backwards for a bucket. -/
def refilled (capacity rate now : α) (bucket : Bucket α) : α :=
  match bucket.lastRefillAt with
  | none => bucket.tokens
  | some last => min capacity (bucket.tokens + max 0 (now - last) * rate)

/-- A call takes a token when there is a whole one. -/
def take (capacity rate now : α) (bucket : Bucket α) : Bool × Bucket α :=
  if refilled capacity rate now bucket < 1 then (false, ⟨refilled capacity rate now bucket, some now⟩)
  else (true, ⟨refilled capacity rate now bucket - 1, some now⟩)

/-- What the calls at these times were answered, and the bucket after them. -/
def serve (capacity rate : α) (times : List α) : List Bool × Bucket α :=
  times.foldl (fun s now => (s.1 ++ [(take capacity rate now s.2).1], (take capacity rate now s.2).2)) ([], full capacity)

/-- The bucket after the calls at these times. -/
def after (capacity rate : α) (times : List α) : Bucket α := (serve capacity rate times).2

/-- Whether each of the calls took a token. -/
def answers (capacity rate : α) (times : List α) : List Bool := (serve capacity rate times).1

/-- The times of the calls that took a token. -/
def taken (capacity rate : α) (times : List α) : List α :=
  ((times.zip (answers capacity rate times)).filter (·.2)).map (·.1)

variable {capacity rate now : α} {times : List α}

theorem after_append : after capacity rate (times ++ [now]) = (take capacity rate now (after capacity rate times)).2 := by
  unfold after serve
  rw [List.foldl_append]
  rfl

theorem answers_append : answers capacity rate (times ++ [now]) =
    answers capacity rate times ++ [(take capacity rate now (after capacity rate times)).1] := by
  unfold answers after serve
  rw [List.foldl_append]
  rfl

theorem length_answers : (answers capacity rate times).length = times.length := by
  induction times using List.reverseRecOn with
  | nil => rfl
  | append_singleton times now ih => rw [answers_append, List.length_append, List.length_append, ih]; rfl

theorem taken_append : taken capacity rate (times ++ [now]) =
    taken capacity rate times ++ if (take capacity rate now (after capacity rate times)).1 then [now] else [] := by
  unfold taken
  rw [answers_append, List.zip_append length_answers.symm, List.filter_append, List.map_append]
  cases (take capacity rate now (after capacity rate times)).1 <;> rfl

theorem take_lastRefillAt (bucket : Bucket α) : (take capacity rate now bucket).2.lastRefillAt = some now := by
  unfold take
  split <;> rfl

/-- The last call is the last refill. -/
theorem after_lastRefillAt (now : α) (times : List α) : (after capacity rate (times ++ [now])).lastRefillAt = some now := by
  rw [after_append, take_lastRefillAt]

theorem mem_taken {t : α} (h : t ∈ taken capacity rate times) : t ∈ times := by
  obtain ⟨call, hcall, rfl⟩ := List.mem_map.mp h
  exact (List.of_mem_zip (List.mem_of_mem_filter hcall)).1

/-- The last refill is the last of the calls. -/
theorem last_refill {last : α} (horder : times.Pairwise (· ≤ ·)) (h : (after capacity rate times).lastRefillAt = some last) :
    last ∈ times ∧ ∀ t ∈ times, t ≤ last := by
  cases times using List.reverseRecOn with
  | nil => exact nomatch h
  | append_singleton times now =>
    obtain rfl := Option.some.inj ((after_lastRefillAt now times).symm.trans h)
    refine ⟨List.mem_append_right _ (List.mem_singleton_self _), fun t ht => ?_⟩
    rcases List.mem_append.mp ht with ht | ht
    · exact (List.pairwise_append.mp horder).2.2 t ht _ (List.mem_singleton_self _)
    · exact le_of_eq (List.mem_singleton.mp ht)

/-! ## Bounds -/

variable [IsStrictOrderedRing α]

/-- The tokens stay between nothing and the capacity. -/
theorem tokens_bounds (hcapacity : 0 ≤ capacity) (hrate : 0 ≤ rate) (times : List α) :
    0 ≤ (after capacity rate times).tokens ∧ (after capacity rate times).tokens ≤ capacity := by
  induction times using List.reverseRecOn with
  | nil => exact ⟨hcapacity, le_refl capacity⟩
  | append_singleton times now ih =>
    have hrefilled : 0 ≤ refilled capacity rate now (after capacity rate times) ∧
        refilled capacity rate now (after capacity rate times) ≤ capacity := by
      unfold refilled
      split
      · exact ih
      · refine ⟨le_min hcapacity ?_, min_le_left _ _⟩
        exact add_nonneg ih.1 (mul_nonneg (le_max_left _ _) hrate)
    rw [after_append]
    unfold take
    split
    · exact hrefilled
    · next htoken =>
      refine ⟨sub_nonneg.mpr (not_lt.mp htoken), ?_⟩
      show refilled capacity rate now (after capacity rate times) - 1 ≤ capacity
      linarith [hrefilled.2]

/-- How far the time `last` lies behind `a`; nothing when nobody called. -/
def since (a : α) (last : Option α) : α := (last.map fun last => max 0 (last - a)).getD 0

/-- A refill adds what came in since the last call. -/
theorem taken_refilled (hrate : 0 ≤ rate) (horder : (times ++ [now]).Pairwise (· ≤ ·)) {a : α}
    (h : (((taken capacity rate times).filter fun t => a ≤ t).length : α) + (after capacity rate times).tokens ≤
      capacity + since a (after capacity rate times).lastRefillAt * rate) :
    (((taken capacity rate times).filter fun t => a ≤ t).length : α) +
      refilled capacity rate now (after capacity rate times) ≤ capacity + max 0 (now - a) * rate := by
  obtain ⟨horder, -, hlater⟩ := List.pairwise_append.mp horder
  have hcame : 0 ≤ max 0 (now - a) * rate := mul_nonneg (le_max_left _ _) hrate
  unfold refilled
  cases hlast : (after capacity rate times).lastRefillAt with
  | none =>
    rw [hlast] at h
    have hnothing : since a (none : Option α) * rate = 0 := zero_mul rate
    show _ + (after capacity rate times).tokens ≤ _
    linarith
  | some last =>
    rw [hlast] at h
    obtain ⟨hmem, hbefore⟩ := last_refill horder hlast
    have hnow : last ≤ now := hlater last hmem now (List.mem_singleton_self _)
    show _ + min capacity _ ≤ _
    rcases le_or_gt a last with ha | ha
    · have hsince : since a (some last) = last - a := max_eq_right (sub_nonneg.mpr ha)
      have helapsed : max 0 (now - last) = now - last := max_eq_right (sub_nonneg.mpr hnow)
      have hwhole : max 0 (now - a) = now - a := max_eq_right (sub_nonneg.mpr (ha.trans hnow))
      have hsplit : (last - a) * rate + (now - last) * rate = (now - a) * rate := by ring
      rw [hsince] at h
      rw [helapsed, hwhole]
      have hmin := min_le_right capacity ((after capacity rate times).tokens + (now - last) * rate)
      linarith
    · -- nobody called since `a`
      have hnone : (taken capacity rate times).filter (fun t => a ≤ t) = [] := by
        refine List.filter_eq_nil_iff.mpr fun t ht => ?_
        have hle := hbefore t (mem_taken ht)
        simpa using lt_of_le_of_lt hle ha
      have hmin := min_le_left capacity ((after capacity rate times).tokens + max 0 (now - last) * rate)
      rw [hnone, List.length_nil, Nat.cast_zero]
      linarith

/-- **What was taken was there or came in**: the calls since `a` that took a token, with the tokens that
    are left, are at most the capacity and what came in since `a`. -/
theorem taken_since (hrate : 0 ≤ rate) (horder : times.Pairwise (· ≤ ·)) (a : α) :
    (((taken capacity rate times).filter fun t => a ≤ t).length : α) + (after capacity rate times).tokens ≤
      capacity + since a (after capacity rate times).lastRefillAt * rate := by
  induction times using List.reverseRecOn with
  | nil =>
    show ((0 : Nat) : α) + capacity ≤ capacity + 0 * rate
    rw [Nat.cast_zero, zero_add, zero_mul, add_zero]
  | append_singleton times now ih =>
    have hrefilled := taken_refilled hrate horder (ih (List.pairwise_append.mp horder).1)
    rw [taken_append, after_lastRefillAt, after_append, List.filter_append, List.length_append, Nat.cast_add]
    show _ ≤ capacity + max 0 (now - a) * rate
    unfold take
    split
    · rw [if_neg (by simp), List.filter_nil, List.length_nil, Nat.cast_zero, add_zero]
      exact hrefilled
    · -- the token that was taken is no longer there
      have hone : ((([now].filter fun t => a ≤ t).length : Nat) : α) ≤ 1 := by
        have hle : ([now].filter fun t => a ≤ t).length ≤ 1 := List.length_filter_le _ _
        exact_mod_cast hle
      rw [if_pos rfl]
      show _ + _ + (refilled capacity rate now (after capacity rate times) - 1) ≤ _
      linarith

/-- **The window bound**: from `a` to `a + length` a bucket gives away at most its capacity and what comes in
    during that time. -/
theorem taken_in_window (hcapacity : 0 ≤ capacity) (hrate : 0 ≤ rate) (horder : times.Pairwise (· ≤ ·)) (a : α)
    {length : α} (hlength : 0 ≤ length) :
    (((taken capacity rate times).filter fun t => a ≤ t ∧ t ≤ a + length).length : α) ≤ capacity + length * rate := by
  induction times using List.reverseRecOn with
  | nil =>
    show ((0 : Nat) : α) ≤ _
    rw [Nat.cast_zero]
    exact add_nonneg hcapacity (mul_nonneg hlength hrate)
  | append_singleton times now ih =>
    have ih := ih (List.pairwise_append.mp horder).1
    by_cases hnow : now ≤ a + length
    · -- every call so far came before the end of the window
      have hsince := @taken_since α _ _ capacity rate _ _ hrate horder a
      have htokens := (tokens_bounds hcapacity hrate (times ++ [now])).1
      rw [after_lastRefillAt] at hsince
      have hlast : since a (some now) * rate ≤ length * rate :=
        mul_le_mul_of_nonneg_right (max_le hlength (by linarith)) hrate
      have hcount : ((taken capacity rate (times ++ [now])).filter fun t => a ≤ t ∧ t ≤ a + length).length ≤
          ((taken capacity rate (times ++ [now])).filter fun t => a ≤ t).length :=
        (List.monotone_filter_right _ fun t ht => by simpa using (of_decide_eq_true ht).1).length_le
      have hcast : (((taken capacity rate (times ++ [now])).filter fun t => a ≤ t ∧ t ≤ a + length).length : α) ≤
          (((taken capacity rate (times ++ [now])).filter fun t => a ≤ t).length : α) := by exact_mod_cast hcount
      linarith
    · have hout : ((if (take capacity rate now (after capacity rate times)).1 then [now] else []).filter
          fun t => a ≤ t ∧ t ≤ a + length) = [] := by
        refine List.filter_eq_nil_iff.mpr fun t ht => ?_
        split at ht
        · obtain rfl := List.mem_singleton.mp ht
          simpa using fun _ => not_le.mp hnow
        · exact nomatch ht
      rw [taken_append, List.filter_append, hout, List.append_nil]
      exact ih

/-! ## Idle buckets -/

/-- **An idle bucket is a new one**: after the time in which the whole capacity comes in, a call is answered
    as by a bucket that was never called, and leaves the same bucket. -/
theorem take_idle {last idle : α} {bucket : Bucket α} (htokens : 0 ≤ bucket.tokens) (hrate : 0 ≤ rate)
    (hlast : bucket.lastRefillAt = some last) (hidle : last + idle ≤ now) (hfills : capacity ≤ idle * rate) :
    take capacity rate now bucket = take capacity rate now (full capacity) := by
  have hrefilled : refilled capacity rate now bucket = refilled capacity rate now (full capacity) := by
    unfold refilled
    rw [hlast]
    show min capacity _ = capacity
    refine min_eq_left ?_
    have helapsed : idle * rate ≤ max 0 (now - last) * rate :=
      mul_le_mul_of_nonneg_right (le_max_of_le_right (by linarith)) hrate
    linarith
  unfold take
  rw [hrefilled]

end TokenBucket
