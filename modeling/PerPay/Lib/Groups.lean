/-
  **What is put together** — a list of wholes, each of them a group of parts joined by one operation, and every part in exactly
  one group.

  Moving a whole about changes nothing (`MadeOf.perm`), and two wholes may be joined into one (`MadeOf.join`); so whatever is
  done to wholes by moving and joining, no part is lost and none is counted twice.  A measure that adds up over the operation has
  the same sum over the wholes as over the parts (`MadeOf.sum_eq`), and one that takes the smaller value is, for a whole, the
  least of its group (`total_least`).
-/
import Mathlib.Data.List.Basic
import Mathlib.Order.Lattice
import Mathlib.Algebra.Order.Ring.Nat

namespace Groups

variable {τ : Type} (op : τ → τ → τ)

/-- All of a group in one. -/
def total : List τ → Option τ
  | [] => none
  | a :: as => some (as.foldl op a)

/-- The wholes are made of the parts. -/
def MadeOf (wholes parts : List τ) : Prop :=
  ∃ groups : List (List τ), (groups.map (total op)).Perm (wholes.map some) ∧ groups.flatten.Perm parts

variable {op}

theorem MadeOf.refl (parts : List τ) : MadeOf op parts parts := by
  refine ⟨parts.map fun a => [a], ?_, ?_⟩
  · rw [List.map_map]
    exact List.Perm.refl _
  · rw [← List.flatMap_def, List.flatMap_singleton']

theorem MadeOf.perm {wholes wholes' parts parts' : List τ} (h : MadeOf op wholes parts) (hwholes : wholes.Perm wholes')
    (hparts : parts.Perm parts') : MadeOf op wholes' parts' := by
  obtain ⟨groups, htotal, hflatten⟩ := h
  exact ⟨groups, htotal.trans (hwholes.map some), hflatten.trans hparts⟩

/-- One more part that is a whole by itself. -/
theorem MadeOf.cons {wholes parts : List τ} (h : MadeOf op wholes parts) (a : τ) : MadeOf op (a :: wholes) (a :: parts) := by
  obtain ⟨groups, htotal, hflatten⟩ := h
  exact ⟨[a] :: groups, htotal.cons (some a), hflatten.cons a⟩

/-- The group of a whole, and the rest. -/
theorem MadeOf.uncons {a : τ} {wholes parts : List τ} (h : MadeOf op (a :: wholes) parts) :
    ∃ group rest, total op group = some a ∧ MadeOf op wholes rest ∧ (group ++ rest).Perm parts := by
  obtain ⟨groups, htotal, hflatten⟩ := h
  have hmem : some a ∈ groups.map (total op) := htotal.mem_iff.mpr List.mem_cons_self
  obtain ⟨group, hgroup, hwhole⟩ := List.mem_map.mp hmem
  obtain ⟨before, after, rfl⟩ := List.append_of_mem hgroup
  have hmiddle : (before ++ group :: after).Perm (group :: (before ++ after)) := List.perm_middle
  refine ⟨group, (before ++ after).flatten, hwhole, ⟨before ++ after, ?_, .refl _⟩, ?_⟩
  · have hperm := (hmiddle.map (total op)).symm.trans htotal
    rw [List.map_cons, List.map_cons, hwhole] at hperm
    exact hperm.cons_inv
  · rw [← List.flatten_cons]
    exact hmiddle.symm.flatten.trans hflatten

theorem MadeOf.group {group : List τ} {a : τ} {wholes rest parts : List τ} (hgroup : total op group = some a)
    (h : MadeOf op wholes rest) (hparts : (group ++ rest).Perm parts) : MadeOf op (a :: wholes) parts := by
  obtain ⟨groups, htotal, hflatten⟩ := h
  refine ⟨group :: groups, ?_, ?_⟩
  · rw [List.map_cons, hgroup]
    exact htotal.cons (some a)
  · rw [List.flatten_cons]
    exact (hflatten.append_left group).trans hparts

section associative
variable [Std.Associative op]

theorem total_append {as bs : List τ} {a b : τ} (ha : total op as = some a) (hb : total op bs = some b) :
    total op (as ++ bs) = some (op a b) := by
  cases as with
  | nil => exact nomatch ha
  | cons x as =>
    cases bs with
    | nil => exact nomatch hb
    | cons y bs =>
      obtain rfl := Option.some.inj ha
      obtain rfl := Option.some.inj hb
      show some ((as ++ y :: bs).foldl op x) = _
      rw [List.foldl_append, List.foldl_cons, List.foldl_assoc]

/-- **Two wholes become one.** -/
theorem MadeOf.join {a b : τ} {wholes parts : List τ} (h : MadeOf op (a :: b :: wholes) parts) :
    MadeOf op (op a b :: wholes) parts := by
  obtain ⟨group, rest, ha, hrest, hperm⟩ := h.uncons
  obtain ⟨group', rest', hb, hwholes, hperm'⟩ := hrest.uncons
  refine .group (total_append ha hb) hwholes ?_
  rw [List.append_assoc]
  exact (hperm'.append_left group).trans hperm

end associative

/-! ## Measures -/

theorem sum_total {m : τ → Nat} (hm : ∀ a b, m (op a b) = m a + m b) : ∀ {group : List τ} {a : τ}, total op group = some a →
    (group.map m).sum = m a
  | [], a, h => nomatch h
  | x :: group, a, h => by
    obtain rfl := Option.some.inj h
    induction group generalizing x with
    | nil => simp
    | cons y group ih =>
      have hrest := ih (op x y) rfl
      rw [List.map_cons, List.sum_cons, hm] at hrest
      rw [List.map_cons, List.map_cons, List.sum_cons, List.sum_cons, List.foldl_cons, ← hrest]
      omega

/-- **What adds up is kept.** -/
theorem MadeOf.sum_eq {m : τ → Nat} (hm : ∀ a b, m (op a b) = m a + m b) {wholes : List τ} :
    ∀ {parts : List τ}, MadeOf op wholes parts → (wholes.map m).sum = (parts.map m).sum := by
  induction wholes with
  | nil =>
    rintro parts ⟨groups, htotal, hflatten⟩
    obtain rfl : groups = [] := List.map_eq_nil_iff.mp htotal.eq_nil
    rw [hflatten.symm.eq_nil]
  | cons a wholes ih =>
    intro parts h
    obtain ⟨group, rest, hgroup, hrest, hperm⟩ := h.uncons
    rw [← (hperm.map m).sum_nat, List.map_append, List.sum_append, sum_total hm hgroup, ← ih hrest, List.map_cons, List.sum_cons]

/-- **The smallest of a group is that of the whole.** -/
theorem total_least {κ : Type} [LinearOrder κ] {m : τ → κ} (hm : ∀ a b, m (op a b) = min (m a) (m b)) {group : List τ} {a : τ}
    (h : total op group = some a) : (∀ b ∈ group, m a ≤ m b) ∧ ∃ b ∈ group, m b = m a := by
  cases group with
  | nil => exact nomatch h
  | cons x group =>
    obtain rfl := Option.some.inj h
    clear h
    induction group generalizing x with
    | nil => exact ⟨fun b hb => by rw [List.mem_singleton.mp hb]; exact le_refl _, x, List.mem_singleton.mpr rfl, rfl⟩
    | cons y group ih =>
      obtain ⟨hle, b, hb, heq⟩ := ih (op x y)
      rw [List.foldl_cons]
      have hjoined := hle _ List.mem_cons_self
      rw [hm] at hjoined
      refine ⟨?_, ?_⟩
      · intro c hc
        rcases List.mem_cons.mp hc with rfl | hc
        · exact hjoined.trans (min_le_left _ _)
        · rcases List.mem_cons.mp hc with rfl | hc
          · exact hjoined.trans (min_le_right _ _)
          · exact hle c (List.mem_cons_of_mem _ hc)
      · rcases List.mem_cons.mp hb with rfl | hb
        · rw [hm] at heq
          rcases min_choice (m x) (m y) with hmin | hmin
          · exact ⟨x, List.mem_cons_self, by rw [← heq, hmin]⟩
          · exact ⟨y, List.mem_cons_of_mem _ List.mem_cons_self, by rw [← heq, hmin]⟩
        · exact ⟨b, List.mem_cons_of_mem _ (List.mem_cons_of_mem _ hb), heq⟩

end Groups
