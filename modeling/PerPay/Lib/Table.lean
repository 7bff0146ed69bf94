/-
  **Tables** — a table is the list of its rows, oldest first.

  Rows are appended, never deleted; `updateWhere p f` is `UPDATE … SET f WHERE p`.  A key that the
  schema declares unique is `UniqueOn`: no two positions of the table carry the same key.
-/
import Mathlib.Data.List.Nodup
import Mathlib.Data.List.Perm.Basic
import Mathlib.Data.List.Pairwise

namespace Table

variable {α κ : Type}

/-- `UPDATE … SET f WHERE p` -/
def updateWhere (p : α → Bool) (f : α → α) (rows : List α) : List α :=
  rows.map fun r => if p r then f r else r

/-- No two rows carry the same key. -/
def UniqueOn (key : α → κ) (rows : List α) : Prop := (rows.map key).Nodup

/-! ## Reading an updated table -/

theorem mem_updateWhere {p : α → Bool} {f : α → α} {rows : List α} {r : α} :
    r ∈ updateWhere p f rows ↔
      (∃ r0 ∈ rows, p r0 = true ∧ r = f r0) ∨ (r ∈ rows ∧ p r = false) := by
  unfold updateWhere
  rw [List.mem_map]
  constructor
  · rintro ⟨r0, h0, he⟩
    cases hp : p r0 with
    | true => exact .inl ⟨r0, h0, hp, by rw [← he, if_pos hp]⟩
    | false =>
      rw [if_neg (by simp [hp])] at he
      exact .inr ⟨he ▸ h0, he ▸ hp⟩
  · rintro (⟨r0, h0, hp, rfl⟩ | ⟨h, hp⟩)
    · exact ⟨r0, h0, if_pos hp⟩
    · exact ⟨r, h, if_neg (by simp [hp])⟩

@[simp] theorem length_updateWhere (p : α → Bool) (f : α → α) (rows : List α) :
    (updateWhere p f rows).length = rows.length := List.length_map _

/-- An update that leaves a column alone leaves the column of the table alone. -/
theorem map_updateWhere {κ : Type} {p : α → Bool} {f : α → α} {g : α → κ} (h : ∀ r, p r = true → g (f r) = g r)
    (rows : List α) : (updateWhere p f rows).map g = rows.map g := by
  unfold updateWhere
  rw [List.map_map]
  refine List.map_congr_left fun r _ => ?_
  show g (if p r then f r else r) = g r
  split
  · exact h r ‹_›
  · rfl

/-- The same, of the rows that are there. -/
theorem map_updateWhere_of_mem {κ : Type} {p : α → Bool} {f : α → α} {g : α → κ} {rows : List α}
    (h : ∀ r ∈ rows, p r = true → g (f r) = g r) : (updateWhere p f rows).map g = rows.map g := by
  unfold updateWhere
  rw [List.map_map]
  refine List.map_congr_left fun r hr => ?_
  show g (if p r then f r else r) = g r
  split
  · exact h r hr ‹_›
  · rfl

/-- A selection that the update neither enters nor leaves is updated row by row. -/
theorem filter_updateWhere {p q : α → Bool} {f : α → α} (h : ∀ r, p r = true → q (f r) = q r)
    (rows : List α) : (updateWhere p f rows).filter q = updateWhere p f (rows.filter q) := by
  unfold updateWhere
  rw [List.filter_map]
  congr 1
  refine List.filter_congr fun r _ => ?_
  show q (if p r then f r else r) = q r
  split
  · exact h r ‹_›
  · rfl

/-- A selection of rows that the update does not touch. -/
theorem updateWhere_eq_self {p : α → Bool} {f : α → α} {rows : List α} (h : ∀ r ∈ rows, p r = false) :
    updateWhere p f rows = rows := by
  unfold updateWhere
  conv => rhs; rw [← List.map_id rows]
  exact List.map_congr_left fun r hr => if_neg (by simp [h r hr])

theorem filter_append_in {q : α → Bool} {r : α} (h : q r = true) (rows : List α) :
    (rows ++ [r]).filter q = rows.filter q ++ [r] := by
  rw [List.filter_append, List.filter_cons_of_pos h, List.filter_nil]

theorem filter_append_out {q : α → Bool} {r : α} (h : q r = false) (rows : List α) :
    (rows ++ [r]).filter q = rows.filter q := by
  rw [List.filter_append, List.filter_cons_of_neg (by simp [h]), List.filter_nil, List.append_nil]

/-- The row an update finds where it was, before or after. -/
theorem find?_updateWhere {p q : α → Bool} {f : α → α} (h : ∀ r, p r = true → q (f r) = q r) (rows : List α) :
    (updateWhere p f rows).find? q = (rows.find? q).map fun r => if p r then f r else r := by
  unfold updateWhere
  rw [List.find?_map]
  congr 1
  refine congrArg (rows.find? ·) (funext fun r => ?_)
  show q (if p r then f r else r) = q r
  split
  · exact h r ‹_›
  · rfl

theorem find?_append_of_some {q : α → Bool} {rows : List α} {r : α} (h : rows.find? q = some r) (more : List α) :
    (rows ++ more).find? q = some r := by
  rw [List.find?_append, h, Option.some_or]

/-- The row that was added is the first of its kind. -/
theorem find?_append_new {q : α → Bool} {rows : List α} {r : α} (h : ∀ x ∈ rows, q x = false) (hr : q r = true) :
    (rows ++ [r]).find? q = some r := by
  have hnone : rows.find? q = none := List.find?_eq_none.mpr fun x hx => by simp [h x hx]
  rw [List.find?_append, hnone, Option.none_or, List.find?_cons_of_pos hr]

/-- A selection that the update takes its rows out of. -/
theorem filter_updateWhere_out {p q : α → Bool} {f : α → α} (h : ∀ r, p r = true → q (f r) = false)
    (rows : List α) : (updateWhere p f rows).filter q = (rows.filter q).filter fun r => !p r := by
  unfold updateWhere
  induction rows with
  | nil => rfl
  | cons r rows ih =>
    rw [List.map_cons, List.filter_cons, ih]
    cases hp : p r with
    | true => cases hq : q r <;> simp [hp, hq, h r hp]
    | false => cases hq : q r <;> simp [hp, hq]

/-! ## Unique keys -/

theorem uniqueOn_nil (key : α → κ) : UniqueOn key [] := List.nodup_nil

theorem UniqueOn.append {key : α → κ} {rows : List α} {r : α} (h : UniqueOn key rows)
    (hr : ∀ x ∈ rows, key x ≠ key r) : UniqueOn key (rows ++ [r]) := by
  unfold UniqueOn at *
  rw [List.map_append, List.nodup_append]
  refine ⟨h, List.nodup_singleton _, ?_⟩
  intro a ha b hb
  obtain ⟨x, hx, rfl⟩ := List.mem_map.mp ha
  rw [List.map_cons, List.map_nil, List.mem_singleton] at hb
  exact hb ▸ hr x hx

theorem UniqueOn.updateWhere {key : α → κ} {rows : List α} {p : α → Bool} {f : α → α}
    (h : UniqueOn key rows) (hf : ∀ r, p r = true → key (f r) = key r) :
    UniqueOn key (updateWhere p f rows) := by
  unfold UniqueOn at *
  rwa [map_updateWhere hf]

theorem UniqueOn.updateWhere_of_mem {key : α → κ} {rows : List α} {p : α → Bool} {f : α → α}
    (h : UniqueOn key rows) (hf : ∀ r ∈ rows, p r = true → key (f r) = key r) :
    UniqueOn key (Table.updateWhere p f rows) := by
  unfold UniqueOn at *
  rwa [map_updateWhere_of_mem hf]

theorem UniqueOn.eq {key : α → κ} {rows : List α} (h : UniqueOn key rows) {x y : α} (hx : x ∈ rows)
    (hy : y ∈ rows) (he : key x = key y) : x = y :=
  List.inj_on_of_nodup_map h hx hy he

theorem UniqueOn.filter {key : α → κ} {rows : List α} (h : UniqueOn key rows) (p : α → Bool) :
    UniqueOn key (rows.filter p) :=
  List.Nodup.sublist (List.Sublist.map _ List.filter_sublist) h

/-- A selection whose rows share one key has at most one row. -/
theorem UniqueOn.length_filter_le_one {key : α → κ} {rows : List α} (h : UniqueOn key rows) {p : α → Bool}
    (hp : ∀ x ∈ rows, ∀ y ∈ rows, p x = true → p y = true → key x = key y) :
    (rows.filter p).length ≤ 1 := by
  have hu := h.filter p
  cases hf : rows.filter p with
  | nil => simp
  | cons x xs =>
    cases xs with
    | nil => simp
    | cons y ys =>
      rw [hf] at hu
      have hx := List.mem_filter.mp (hf ▸ List.mem_cons_self : x ∈ rows.filter p)
      have hy := List.mem_filter.mp (hf ▸ List.mem_cons_of_mem _ List.mem_cons_self : y ∈ rows.filter p)
      have hne := (List.nodup_cons.mp hu).1
      exact absurd (List.mem_map.mpr ⟨y, List.mem_cons_self, hp y hy.1 x hx.1 hy.2 hx.2⟩) hne

/-- Such a selection is the row known to be in it. -/
theorem eq_singleton_of_length_le_one {rows : List α} {r : α} (hr : r ∈ rows) (h : rows.length ≤ 1) :
    rows = [r] := by
  match rows, hr, h with
  | [x], hr, _ => rw [List.mem_singleton.mp hr]

/-- One row and the rest of the table. -/
theorem UniqueOn.perm_cons {key : α → κ} {rows : List α} (h : UniqueOn key rows) {r : α} (hr : r ∈ rows)
    {p : α → Bool} (hp : p r = true) (honly : ∀ x ∈ rows, p x = true → key x = key r) :
    rows.Perm (r :: rows.filter fun x => !p x) := by
  have hone : rows.filter p = [r] := by
    refine eq_singleton_of_length_le_one (List.mem_filter.mpr ⟨hr, hp⟩) ?_
    exact h.length_filter_le_one fun x hx y hy hpx hpy => (honly x hx hpx).trans (honly y hy hpy).symm
  have := List.filter_append_perm p rows
  rw [hone] at this
  exact this.symm

/-- An update of one row, and the rest of the table. -/
theorem UniqueOn.perm_updateWhere {key : α → κ} {rows : List α} (h : UniqueOn key rows) {r : α} (hr : r ∈ rows)
    {p : α → Bool} (hp : p r = true) (honly : ∀ x ∈ rows, p x = true → key x = key r) (f : α → α) :
    (Table.updateWhere p f rows).Perm (f r :: rows.filter fun x => !p x) := by
  have hperm := (h.perm_cons hr hp honly).map fun x => if p x then f x else x
  rw [List.map_cons, if_pos hp] at hperm
  have hrest : (rows.filter fun x => !p x).map (fun x => if p x then f x else x) = rows.filter fun x => !p x := by
    conv => rhs; rw [← List.map_id (rows.filter fun x => !p x)]
    refine List.map_congr_left fun x hx => if_neg ?_
    simpa using (List.mem_filter.mp hx).2
  rwa [hrest] at hperm

/-- The row a unique key finds. -/
theorem UniqueOn.find?_eq {key : α → κ} [DecidableEq κ] {rows : List α} (h : UniqueOn key rows) {r : α}
    (hr : r ∈ rows) : rows.find? (fun x => key x = key r) = some r := by
  cases hf : rows.find? fun x => key x = key r with
  | none =>
    have := List.find?_eq_none.mp hf r hr
    simp at this
  | some x =>
    have hx := List.find?_some hf
    rw [h.eq (List.mem_of_find?_eq_some hf) hr (by simpa using hx)]

/-- The only row of its kind is the first of it. -/
theorem find?_eq_of_only {p : α → Bool} {rows : List α} {r : α} (hr : r ∈ rows) (hp : p r = true)
    (honly : ∀ x ∈ rows, p x = true → x = r) : rows.find? p = some r := by
  cases hf : rows.find? p with
  | none => exact absurd hp (List.find?_eq_none.mp hf r hr)
  | some x => rw [honly x (List.mem_of_find?_eq_some hf) (List.find?_some hf)]

/-! ## What holds of every row -/

/-- The table with one more row. -/
theorem forall_mem_append_singleton {p : α → Prop} {rows : List α} {r : α} (h : ∀ x ∈ rows, p x)
    (hr : p r) : ∀ x ∈ rows ++ [r], p x := by
  intro x hx
  rcases List.mem_append.mp hx with hx | hx
  · exact h x hx
  · exact List.mem_singleton.mp hx ▸ hr

/-- A table some rows of which were rewritten. -/
theorem forall_mem_updateWhere {p : α → Prop} {q : α → Bool} {f : α → α} {rows : List α}
    (h : ∀ x ∈ rows, p x) (hf : ∀ x, p x → p (f x)) : ∀ x ∈ updateWhere q f rows, p x := by
  intro x hx
  rcases mem_updateWhere.mp hx with ⟨y, hy, -, rfl⟩ | ⟨hy, -⟩
  · exact hf y (h y hy)
  · exact h x hy

end Table
