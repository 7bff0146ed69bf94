/-
  **A directory of names and files.**

  Names stand for files, and a file may have several names; how many is its number of links.  A file that has no
  name is gone.  The names of one file are a finite set, and what is said about links is said about that set.
-/
import Mathlib.Data.List.AList
import Mathlib.Data.Finset.Card

abbrev Directory (ν φ : Type) := AList fun _ : ν => φ

namespace Directory

variable {ν φ : Type} [DecidableEq ν]

section
variable [DecidableEq φ]

/-- The names of a file -/
def names (d : Directory ν φ) (f : φ) : Finset ν := d.keys.toFinset.filter fun n => d.lookup n = some f

/-- `nlink` -/
def links (d : Directory ν φ) (f : φ) : Nat := (names d f).card

theorem mem_names {d : Directory ν φ} {f : φ} {n : ν} : n ∈ names d f ↔ d.lookup n = some f := by
  unfold names
  rw [Finset.mem_filter, List.mem_toFinset]
  constructor
  · exact fun h => h.2
  · intro h
    exact ⟨AList.mem_keys.mp (AList.lookup_isSome.mp (h ▸ rfl)), h⟩

/-- A file with one name has no other. -/
theorem only_name {d : Directory ν φ} {f : φ} {n m : ν} (h : links d f = 1) (hn : d.lookup n = some f)
    (hm : d.lookup m = some f) : m = n := by
  obtain ⟨k, hk⟩ := Finset.card_eq_one.mp h
  have hn' : n ∈ names d f := mem_names.mpr hn
  have hm' : m ∈ names d f := mem_names.mpr hm
  rw [hk, Finset.mem_singleton] at hn' hm'
  rw [hn', hm']

theorem links_eq_one {d : Directory ν φ} {f : φ} {n : ν} (hn : d.lookup n = some f)
    (h : ∀ m, d.lookup m = some f → m = n) : links d f = 1 := by
  refine Finset.card_eq_one.mpr ⟨n, Finset.ext fun m => ?_⟩
  rw [mem_names, Finset.mem_singleton]
  exact ⟨h m, fun he => he ▸ hn⟩

theorem links_eq_two {d : Directory ν φ} {f : φ} {n m : ν} (hne : n ≠ m) (hn : d.lookup n = some f)
    (hm : d.lookup m = some f) (h : ∀ k, d.lookup k = some f → k = n ∨ k = m) : links d f = 2 := by
  refine Finset.card_eq_two.mpr ⟨n, m, hne, Finset.ext fun k => ?_⟩
  rw [mem_names, Finset.mem_insert, Finset.mem_singleton]
  constructor
  · exact h k
  · rintro (rfl | rfl)
    · exact hn
    · exact hm

end

/-! ## Link and unlink -/

theorem lookup_insert_iff {d : Directory ν φ} {n m : ν} {f g : φ} :
    (d.insert n f).lookup m = some g ↔ (m = n ∧ f = g) ∨ (m ≠ n ∧ d.lookup m = some g) := by
  by_cases h : m = n
  · subst h
    simp
  · rw [AList.lookup_insert_ne h]
    simp [h]

theorem lookup_erase_iff {d : Directory ν φ} {n m : ν} {g : φ} :
    (d.erase n).lookup m = some g ↔ m ≠ n ∧ d.lookup m = some g := by
  by_cases h : m = n
  · subst h
    simp
  · rw [AList.lookup_erase_ne h]
    simp [h]

end Directory
