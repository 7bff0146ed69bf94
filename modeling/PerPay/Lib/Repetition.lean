/-
  **Confirmation by repetition** — an unreliable source is asked the same question again and again, and
  an answer counts when it is the first one or repeats the answer just before it.

  `verdicts` says so for a list of answers.  The rest of the file is about the list itself: its
  elements are numbered in increasing order, so the numbers determine the elements, the neighbours and
  the last one.
-/
import Mathlib.Data.List.MinMax
import Mathlib.Data.List.Nodup

namespace Repetition

variable {β γ : Type}

/-! ## Verdicts -/

section
variable [DecidableEq β] [DecidableEq γ]

/-- The verdicts on the answers that follow the answer `a`. -/
def verdictsAfter (a : β) : List β → List Bool
  | [] => []
  | b :: bs => decide (b = a) :: verdictsAfter b bs

/-- The first answer counts, and every other answer that repeats the one before it. -/
def verdicts : List β → List Bool
  | [] => []
  | b :: bs => true :: verdictsAfter b bs

/-- The verdict on one more answer. -/
def counts (bs : List β) (b : β) : Bool := bs.getLast?.all fun a => b = a

theorem verdictsAfter_append (a : β) (bs : List β) (b : β) :
    verdictsAfter a (bs ++ [b]) = verdictsAfter a bs ++ [counts (a :: bs) b] := by
  induction bs generalizing a with
  | nil => rfl
  | cons c bs ih =>
    show decide (c = a) :: verdictsAfter c (bs ++ [b]) = decide (c = a) :: (verdictsAfter c bs ++ [_])
    rw [ih, counts, counts, List.getLast?_cons_cons]

theorem verdicts_append (bs : List β) (b : β) : verdicts (bs ++ [b]) = verdicts bs ++ [counts bs b] := by
  cases bs with
  | nil => rfl
  | cons a bs =>
    show true :: verdictsAfter a (bs ++ [b]) = true :: (verdictsAfter a bs ++ [_])
    rw [verdictsAfter_append]

theorem verdictsAfter_map {f : β → γ} (hf : Function.Injective f) (a : β) (bs : List β) :
    verdictsAfter (f a) (bs.map f) = verdictsAfter a bs := by
  induction bs generalizing a with
  | nil => rfl
  | cons b bs ih =>
    show decide (f b = f a) :: verdictsAfter (f b) (bs.map f) = decide (b = a) :: verdictsAfter b bs
    rw [ih, decide_eq_decide.mpr hf.eq_iff]

/-- Answers may be compared by an injective digest. -/
theorem verdicts_map {f : β → γ} (hf : Function.Injective f) (bs : List β) : verdicts (bs.map f) = verdicts bs := by
  cases bs with
  | nil => rfl
  | cons b bs => exact congrArg (true :: ·) (verdictsAfter_map hf b bs)

end

/-! ## Neighbours -/

/-- `b` stands right behind `a`. -/
def Adjacent (L : List β) (a b : β) : Prop := ∃ xs ys, L = xs ++ a :: b :: ys

theorem Adjacent.append {L : List β} {a b : β} (h : Adjacent L a b) (c : β) : Adjacent (L ++ [c]) a b := by
  obtain ⟨xs, ys, rfl⟩ := h
  exact ⟨xs, ys ++ [c], by simp⟩

theorem adjacent_last (xs : List β) (a b : β) : Adjacent (xs ++ [a] ++ [b]) a b := ⟨xs, [], by simp⟩

theorem Adjacent.mem {L : List β} {a b : β} (h : Adjacent L a b) : a ∈ L ∧ b ∈ L := by
  obtain ⟨xs, ys, rfl⟩ := h
  simp

/-! ## Numbered lists -/

section
variable {number : β → ℕ}

/-- The elements are numbered in increasing order. -/
def Numbered (number : β → ℕ) (L : List β) : Prop := L.Pairwise fun a b => number a < number b

theorem Numbered.append {L : List β} {b : β} (h : Numbered number L) (hb : ∀ a ∈ L, number a < number b) :
    Numbered number (L ++ [b]) := by
  unfold Numbered
  rw [List.pairwise_append]
  exact ⟨h, List.pairwise_singleton _ _, fun a ha c hc => List.mem_singleton.mp hc ▸ hb a ha⟩

theorem Numbered.lt_last {L : List β} {b : β} (h : Numbered number (L ++ [b])) : ∀ a ∈ L, number a < number b := by
  intro a ha
  exact (List.pairwise_append.mp h).2.2 a ha b (List.mem_singleton_self b)

theorem Numbered.inj {L : List β} (h : Numbered number L) {a b : β} (ha : a ∈ L) (hb : b ∈ L)
    (he : number a = number b) : a = b := by
  have hnodup : (L.map number).Nodup := (List.pairwise_map.mpr h).imp ne_of_lt
  exact List.inj_on_of_nodup_map hnodup ha hb he

theorem Numbered.adjacent_lt {L : List β} {a b : β} (h : Numbered number L) (hab : Adjacent L a b) :
    number a < number b := by
  obtain ⟨xs, ys, rfl⟩ := hab
  exact (List.pairwise_cons.mp (List.pairwise_append.mp h).2.1).1 b List.mem_cons_self

/-- An element has one neighbour. -/
theorem Numbered.adjacent_unique {L : List β} {a b c : β} (h : Numbered number L) (hab : Adjacent L a b)
    (hac : Adjacent L a c) : b = c := by
  obtain ⟨xs, ys, rfl⟩ := hab
  obtain ⟨xs', ys', he⟩ := hac
  have hnodup : (xs ++ a :: b :: ys).Nodup := h.imp fun hlt heq => by simp [heq] at hlt
  have hbefore : a ∉ xs := fun ha => (List.nodup_append.mp hnodup).2.2 a ha a List.mem_cons_self rfl
  have hbehind : a ∉ b :: ys := (List.nodup_cons.mp (List.nodup_append.mp hnodup).2.1).1
  obtain ⟨-, -, hrest⟩ := (List.append_cons_inj_of_notMem hbefore hbehind).mp he
  exact (List.cons.inj hrest).1

/-- The last element has no neighbour. -/
theorem Numbered.not_adjacent_last {L : List β} {b c : β} (h : Numbered number (L ++ [b])) :
    ¬ Adjacent (L ++ [b]) b c := by
  intro hbc
  have hlt := h.adjacent_lt hbc
  rcases List.mem_append.mp hbc.mem.2 with hc | hc
  · exact absurd (h.lt_last c hc) (by omega)
  · rw [List.mem_singleton.mp hc] at hlt
    exact lt_irrefl _ hlt

/-- The neighbours in a list with one more element. -/
theorem adjacent_append_iff {L : List β} {a b c : β} :
    Adjacent (L ++ [c]) a b ↔ Adjacent L a b ∨ (L.getLast? = some a ∧ b = c) := by
  constructor
  · rintro ⟨xs, ys, he⟩
    rcases List.eq_nil_or_concat ys with rfl | ⟨ys', d, rfl⟩
    · have he' : L ++ [c] = (xs ++ [a]) ++ [b] := by simpa using he
      obtain ⟨rfl, hc⟩ := List.append_inj' he' rfl
      exact .inr ⟨by simp, (List.cons.inj hc).1.symm⟩
    · have he' : L ++ [c] = (xs ++ a :: b :: ys') ++ [d] := by simpa using he
      obtain ⟨rfl, -⟩ := List.append_inj' he' rfl
      exact .inl ⟨xs, ys', rfl⟩
  · rintro (h | ⟨hl, rfl⟩)
    · exact h.append c
    · obtain ⟨xs, rfl⟩ := List.getLast?_eq_some_iff.mp hl
      exact adjacent_last xs a b

/-- The element with the largest number is the last one. -/
theorem Numbered.argmax {L : List β} (h : Numbered number L) : L.argmax number = L.getLast? := by
  rcases List.eq_nil_or_concat L with rfl | ⟨xs, b, rfl⟩
  · rfl
  rw [List.concat_eq_append] at h ⊢
  rw [List.argmax_concat, List.getLast?_append_cons, List.getLast?_singleton]
  cases hm : xs.argmax number with
  | none => rfl
  | some c => exact if_pos (h.lt_last c (List.argmax_mem hm))

/-- The largest of the smaller numbers is the number of the neighbour. -/
theorem Numbered.previous {xs ys : List β} {a b : β} (h : Numbered number (xs ++ [a] ++ [b] ++ ys)) :
    (((xs ++ [a] ++ [b] ++ ys).map number).filter (· < number b)).max? = some (number a) := by
  have hsmaller : ∀ c ∈ xs ++ [a], number c < number b := (List.pairwise_append.mp h).1 |> Numbered.lt_last
  have hlarger : ∀ c ∈ ys, number b < number c := fun c hc =>
    (List.pairwise_append.mp h).2.2 b (List.mem_append_right _ (List.mem_singleton_self b)) c hc
  have ha : ∀ c ∈ xs, number c < number a := by
    have hpre : Numbered number (xs ++ [a]) := (List.pairwise_append.mp (List.pairwise_append.mp h).1).1
    exact hpre.lt_last
  rw [List.max?_eq_some_iff]
  constructor
  · rw [List.mem_filter, List.mem_map]
    exact ⟨⟨a, by simp, rfl⟩, by simpa using hsmaller a (by simp)⟩
  · intro n hn
    rw [List.mem_filter, List.mem_map] at hn
    obtain ⟨⟨c, hc, rfl⟩, hlt⟩ := hn
    have hlt' : number c < number b := by simpa using hlt
    simp only [List.mem_append, List.mem_singleton, or_assoc] at hc
    rcases hc with hc | rfl | rfl | hc
    · exact (ha c hc).le
    · exact le_refl _
    · exact absurd hlt' (lt_irrefl _)
    · exact absurd (hlarger c hc) (by omega)

end

end Repetition
