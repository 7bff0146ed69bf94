/-
  **Joined fields** — when does the text `x₁ s x₂ s … s xₙ` determine its fields?

  `List.intercalate [s]` forgets where one field ends and the next begins as soon as a field contains
  the separator `s`.  It is enough that ONE of two texts is free of separators inside its fields: the
  number of separators in a text is that of the joints and of those inside, so a text with the same
  number of fields and the same separators has none inside either (`eq_of_intercalate_eq`).
-/
import Mathlib.Data.List.Basic
import Mathlib.Algebra.Order.Ring.Nat

namespace Joined

section Separated

variable {α : Type} [BEq α] [LawfulBEq α] (s : α)

/-- The separators in a joined text: the joints, and those inside the fields. -/
theorem count_intercalate : ∀ (x : List α) (xs : List (List α)),
    (List.intercalate [s] (x :: xs)).count s = xs.length + ((x :: xs).map (List.count s)).sum
  | x, [] => by simp
  | x, y :: xs => by
    rw [List.intercalate_cons_cons, List.count_append, List.count_append, count_intercalate y xs]
    simp only [List.count_singleton_self, List.map_cons, List.sum_cons, List.length_cons]
    omega

theorem sum_count_eq_zero {xs : List (List α)} : (xs.map (List.count s)).sum = 0 ↔ ∀ x ∈ xs, s ∉ x := by
  induction xs with
  | nil => simp
  | cons x xs ih =>
    rw [List.map_cons, List.sum_cons, Nat.add_eq_zero_iff, ih, List.count_eq_zero, List.forall_mem_cons]

/-- **A text without separators inside its fields determines them**, among all texts of as many
    fields. -/
theorem eq_of_intercalate_eq {xs ys : List (List α)} (hlen : xs.length = ys.length) (hxs : ∀ x ∈ xs, s ∉ x)
    (h : List.intercalate [s] xs = List.intercalate [s] ys) : xs = ys := by
  match xs, ys, hlen with
  | [], [], _ => rfl
  | x :: xs, y :: ys, hlen =>
    have hcount := congrArg (List.count s) h
    rw [count_intercalate, count_intercalate, (sum_count_eq_zero s).mpr hxs] at hcount
    have hys : ∀ z ∈ y :: ys, s ∉ z := by
      refine (sum_count_eq_zero s).mp ?_
      simp only [List.length_cons] at hlen
      omega
    have hsplit := congrArg (List.splitOn s) h
    rwa [List.splitOn_intercalate s hxs (List.cons_ne_nil x xs),
      List.splitOn_intercalate s hys (List.cons_ne_nil y ys)] at hsplit

/-- Among fields that are neither empty nor hold a separator the text determines even how many there are. -/
theorem intercalate_injective {xs ys : List (List α)} (hxs : ∀ x ∈ xs, x ≠ [] ∧ s ∉ x) (hys : ∀ y ∈ ys, y ≠ [] ∧ s ∉ y)
    (h : List.intercalate [s] xs = List.intercalate [s] ys) : xs = ys := by
  have hsplit := congrArg (List.splitOn s) h
  match xs, ys with
  | [], [] => rfl
  | [], y :: ys =>
    rw [List.splitOn_intercalate s (fun z hz => (hys z hz).2) (List.cons_ne_nil y ys)] at hsplit
    have hy : y = [] := (List.cons.inj hsplit).1.symm
    exact absurd hy (hys y List.mem_cons_self).1
  | x :: xs, [] =>
    rw [List.splitOn_intercalate s (fun z hz => (hxs z hz).2) (List.cons_ne_nil x xs)] at hsplit
    have hx : x = [] := (List.cons.inj hsplit).1
    exact absurd hx (hxs x List.mem_cons_self).1
  | x :: xs, y :: ys =>
    rwa [List.splitOn_intercalate s (fun z hz => (hxs z hz).2) (List.cons_ne_nil x xs),
      List.splitOn_intercalate s (fun z hz => (hys z hz).2) (List.cons_ne_nil y ys)] at hsplit

end Separated

/-! ## The characters of a joined text -/

section Characters

variable {α : Type} {s : α}

theorem mem_intercalate {c : α} : ∀ {xs : List (List α)}, c ∈ List.intercalate [s] xs → c = s ∨ ∃ x ∈ xs, c ∈ x
  | [], h => by simp at h
  | [x], h => .inr ⟨x, List.mem_cons_self, by simpa using h⟩
  | x :: y :: xs, h => by
    rw [List.intercalate_cons_cons, List.append_assoc, List.singleton_append] at h
    rcases List.mem_append.mp h with h | h
    · exact .inr ⟨x, List.mem_cons_self, h⟩
    rcases List.mem_cons.mp h with h | h
    · exact .inl h
    rcases mem_intercalate h with h | ⟨z, hz, h⟩
    · exact .inl h
    · exact .inr ⟨z, List.mem_cons_of_mem _ hz, h⟩

theorem mem_intercalate_of_mem {x : List α} {c : α} (hc : c ∈ x) : ∀ {xs : List (List α)}, x ∈ xs →
    c ∈ List.intercalate [s] xs
  | [y], hx => by
    obtain rfl := List.mem_singleton.mp hx
    simpa using hc
  | y :: z :: xs, hx => by
    rw [List.intercalate_cons_cons, List.append_assoc]
    rcases List.mem_cons.mp hx with rfl | hx
    · exact List.mem_append_left _ hc
    · exact List.mem_append_right _ (List.mem_append_right _ (mem_intercalate_of_mem hc hx))

theorem length_le_intercalate {x : List α} : ∀ {xs : List (List α)}, x ∈ xs → x.length ≤ (List.intercalate [s] xs).length
  | [y], hx => by
    obtain rfl := List.mem_singleton.mp hx
    simp
  | y :: z :: xs, hx => by
    rw [List.intercalate_cons_cons, List.length_append, List.length_append]
    rcases List.mem_cons.mp hx with rfl | hx
    · omega
    · have hrest := length_le_intercalate hx
      omega

theorem length_intercalate : ∀ (x : List α) (xs : List (List α)),
    (List.intercalate [s] (x :: xs)).length = xs.length + ((x :: xs).map List.length).sum
  | x, [] => by simp
  | x, y :: xs => by
    rw [List.intercalate_cons_cons, List.length_append, List.length_append, length_intercalate y xs]
    simp only [List.map_cons, List.sum_cons, List.length_cons, List.length_nil]
    omega

theorem intercalate_ne_nil : ∀ {xs : List (List α)}, xs ≠ [] → (∀ x ∈ xs, x ≠ []) → List.intercalate [s] xs ≠ []
  | [], hne, _ => absurd rfl hne
  | [x], _, h => by simpa using h x List.mem_cons_self
  | x :: y :: xs, _, _ => by simp [List.intercalate_cons_cons]

/-- A joined text whose fields are non-empty and free of separators does not end with one. -/
theorem getLast?_intercalate_ne : ∀ {xs : List (List α)}, (∀ x ∈ xs, x ≠ [] ∧ s ∉ x) →
    (List.intercalate [s] xs).getLast? ≠ some s
  | [], _ => by simp
  | [x], h => by
    intro hlast
    rw [List.intercalate_singleton] at hlast
    exact (h x List.mem_cons_self).2 (List.mem_of_getLast? hlast)
  | x :: y :: xs, h => by
    have hrest : ∀ z ∈ y :: xs, z ≠ [] ∧ s ∉ z := fun z hz => h z (List.mem_cons_of_mem _ hz)
    have hne : List.intercalate [s] (y :: xs) ≠ [] :=
      intercalate_ne_nil (List.cons_ne_nil y xs) fun z hz => (hrest z hz).1
    rw [List.intercalate_cons_cons, List.getLast?_append_of_ne_nil _ hne]
    exact getLast?_intercalate_ne hrest

end Characters

/-! ## The first separator -/

section Cut

variable {α : Type} [DecidableEq α]

/-- The text before the first `c` and, when there is one, the text after it. -/
def cutAt (c : α) : List α → List α × Option (List α)
  | [] => ([], none)
  | d :: rest => if d = c then ([], some rest) else ((d :: (cutAt c rest).1), (cutAt c rest).2)

theorem cutAt_of_not_mem {c : α} : ∀ {cs : List α}, c ∉ cs → cutAt c cs = (cs, none)
  | [], _ => rfl
  | d :: cs, h => by
    have hne : d ≠ c := fun heq => h (heq ▸ List.mem_cons_self)
    rw [cutAt, if_neg hne, cutAt_of_not_mem fun hmem => h (List.mem_cons_of_mem _ hmem)]

theorem cutAt_append {c : α} {rest : List α} : ∀ {cs : List α}, c ∉ cs →
    cutAt c (cs ++ c :: rest) = (cs, some rest)
  | [], _ => by rw [List.nil_append, cutAt, if_pos rfl]
  | d :: cs, h => by
    have hne : d ≠ c := fun heq => h (heq ▸ List.mem_cons_self)
    rw [List.cons_append, cutAt, if_neg hne, cutAt_append fun hmem => h (List.mem_cons_of_mem _ hmem)]

theorem eq_of_cutAt {c : α} : ∀ {cs before : List α} {after : Option (List α)}, cutAt c cs = (before, after) →
    c ∉ before ∧ match after with
      | none => cs = before
      | some rest => cs = before ++ c :: rest
  | [], before, after, h => by
    obtain ⟨rfl, rfl⟩ := Prod.mk.inj h
    exact ⟨List.not_mem_nil, rfl⟩
  | d :: cs, before, after, h => by
    rw [cutAt] at h
    split at h
    case isTrue hd =>
      obtain ⟨rfl, rfl⟩ := Prod.mk.inj h
      subst hd
      exact ⟨List.not_mem_nil, rfl⟩
    case isFalse hd =>
      obtain ⟨rfl, rfl⟩ := Prod.mk.inj h
      obtain ⟨hmem, heq⟩ := eq_of_cutAt (rfl : cutAt c cs = ((cutAt c cs).1, (cutAt c cs).2))
      refine ⟨fun hc => ?_, ?_⟩
      · rcases List.mem_cons.mp hc with rfl | hc
        · exact hd rfl
        · exact hmem hc
      · cases hafter : (cutAt c cs).2 with
        | none =>
          rw [hafter] at heq
          exact congrArg (d :: ·) heq
        | some rest =>
          rw [hafter] at heq
          exact congrArg (d :: ·) heq

/-! ## Two separators in a row -/

/-- The text before the first two `c` in a row and, when there are two, the text after them. -/
def cutPair (c : α) : List α → List α × Option (List α)
  | [] => ([], none)
  | [d] => ([d], none)
  | d :: e :: rest =>
    if d = c ∧ e = c then ([], some rest) else (d :: (cutPair c (e :: rest)).1, (cutPair c (e :: rest)).2)

/-- The pieces of a text between pairs of separators, read from the left. -/
def splitPair (c : α) : List α → List (List α)
  | [] => [[]]
  | [d] => [[d]]
  | d :: e :: rest =>
    if d = c ∧ e = c then [] :: splitPair c rest
    else (splitPair c (e :: rest)).modifyHead (d :: ·)

/-- The first piece is what comes before the first pair. -/
theorem splitPair_eq (c : α) (cs : List α) : splitPair c cs = match (cutPair c cs).2 with
    | none => [(cutPair c cs).1]
    | some rest => (cutPair c cs).1 :: splitPair c rest := by
  induction cs using splitPair.induct c with
  | case1 => rfl
  | case2 d => rfl
  | case3 d e rest hpair ih =>
    rw [splitPair, cutPair, if_pos hpair, if_pos hpair]
  | case4 d e rest hpair ih =>
    rw [splitPair, cutPair, if_neg hpair, if_neg hpair, ih]
    cases (cutPair c (e :: rest)).2 <;> rfl

theorem cutPair_cons {c d : α} (hd : d ≠ c) (cs : List α) :
    cutPair c (d :: cs) = (d :: (cutPair c cs).1, (cutPair c cs).2) := by
  cases cs with
  | nil => rfl
  | cons e rest => rw [cutPair, if_neg fun h => hd h.1]

theorem cutPair_append {c : α} {rest : List α} : ∀ {cs : List α}, c ∉ cs →
    cutPair c (cs ++ rest) = (cs ++ (cutPair c rest).1, (cutPair c rest).2)
  | [], _ => rfl
  | d :: cs, h => by
    have hd : d ≠ c := fun heq => h (heq ▸ List.mem_cons_self)
    rw [List.cons_append, cutPair_cons hd, cutPair_append fun hmem => h (List.mem_cons_of_mem _ hmem)]
    rfl

theorem text_of_cutPair (c : α) (cs : List α) : cs = match (cutPair c cs).2 with
    | none => (cutPair c cs).1
    | some rest => (cutPair c cs).1 ++ c :: c :: rest := by
  induction cs using cutPair.induct c with
  | case1 => rfl
  | case2 d => rfl
  | case3 d e rest hpair =>
    rw [cutPair, if_pos hpair, hpair.1, hpair.2]
    rfl
  | case4 d e rest hpair ih =>
    rw [cutPair, if_neg hpair]
    cases hrest : (cutPair c (e :: rest)).2 with
    | none =>
      rw [hrest] at ih
      exact congrArg (d :: ·) ih
    | some rest =>
      rw [hrest] at ih
      exact congrArg (d :: ·) ih

/-- **No pair inside joined fields**: when the fields are neither empty nor hold a separator, the first
    pair of the whole text is that of the rest. -/
theorem cutPair_intercalate {c : α} {rest : List α} : ∀ {fields : List (List α)},
    (∀ field ∈ fields, field ≠ [] ∧ c ∉ field) →
    cutPair c (List.intercalate [c] fields ++ rest) =
      (List.intercalate [c] fields ++ (cutPair c rest).1, (cutPair c rest).2)
  | [], _ => rfl
  | [field], h => by
    rw [List.intercalate_singleton, cutPair_append (h field List.mem_cons_self).2]
  | field :: next :: fields, h => by
    have hnext : ∀ x ∈ next :: fields, x ≠ [] ∧ c ∉ x := fun x hx => h x (List.mem_cons_of_mem _ hx)
    have ih := @cutPair_intercalate c rest (next :: fields) hnext
    -- the text behind the separator starts with a character of the next field
    obtain ⟨d, tail, hjoined, hd⟩ : ∃ d tail, List.intercalate [c] (next :: fields) = d :: tail ∧ d ≠ c := by
      obtain ⟨hne, hfree⟩ := hnext next List.mem_cons_self
      cases next with
      | nil => exact absurd rfl hne
      | cons d cs =>
        refine ⟨d, ?_⟩
        cases fields with
        | nil => exact ⟨cs, List.intercalate_singleton, fun heq => hfree (heq ▸ List.mem_cons_self)⟩
        | cons other fields =>
          exact ⟨_, List.intercalate_cons_cons, fun heq => hfree (heq ▸ List.mem_cons_self)⟩
    have hcons : List.intercalate [c] (field :: next :: fields) = field ++ c :: d :: tail := by
      rw [List.intercalate_cons_cons, hjoined]
      simp
    rw [hjoined, List.cons_append] at ih
    rw [hcons, List.append_assoc, cutPair_append (h field List.mem_cons_self).2]
    show (field ++ (cutPair c (c :: d :: (tail ++ rest))).1, (cutPair c (c :: d :: (tail ++ rest))).2) = _
    rw [cutPair, if_neg fun heq => hd heq.2, ih]
    simp

end Cut

end Joined
