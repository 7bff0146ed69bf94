/-
  **Decimal texts of a fixed width** — the fields of a formatted timestamp.

  `pad w n` is `String(n).padStart(w, "0")` for a number that fits; `readDigits w` reads `w` digits off
  the front of a text.  Reading takes writing back (`readDigits_pad`), writing takes reading back
  (`pad_of_readDigits`), and the texts of one width are ordered as their numbers (`pad_lt`).
-/
import Mathlib.Data.List.Basic
import Mathlib.Data.Char
import Mathlib.Tactic.IntervalCases

namespace Digits

/-- The last `w` decimal digits of `n`, most significant first. -/
def pad : Nat → Nat → List Char
  | 0, _ => []
  | w + 1, n => Nat.digitChar (n / 10 ^ w % 10) :: pad w n

@[simp] theorem length_pad (w n : Nat) : (pad w n).length = w := by
  induction w with
  | zero => rfl
  | succ w ih => simp [pad, ih]

theorem mem_pad {w n : Nat} {c : Char} (h : c ∈ pad w n) : ∃ d < 10, c = Nat.digitChar d := by
  induction w with
  | zero => exact nomatch h
  | succ w ih =>
    rcases List.mem_cons.mp h with rfl | h
    · exact ⟨_, Nat.mod_lt _ (by decide), rfl⟩
    · exact ih h

theorem isDigit_of_mem_pad {w n : Nat} {c : Char} (h : c ∈ pad w n) : c.isDigit = true := by
  obtain ⟨d, hd, rfl⟩ := mem_pad h
  have hall : ∀ d < 10, (Nat.digitChar d).isDigit = true := by decide
  exact hall d hd

/-- The value of a decimal digit (`\d` without the `u` flag: ASCII only). -/
def digitValue (c : Char) : Option Nat := if c.isDigit then some (c.toNat - '0'.toNat) else none

theorem digitValue_digitChar {n : Nat} (h : n < 10) : digitValue (Nat.digitChar n) = some n := by
  interval_cases n <;> rfl

theorem digitChar_of_digitValue {c : Char} {n : Nat} (h : digitValue c = some n) :
    n < 10 ∧ Nat.digitChar n = c := by
  unfold digitValue at h
  split at h
  case isFalse => cases h
  case isTrue hd =>
    have hb : 48 ≤ c.toNat ∧ c.toNat ≤ 57 := by
      simp only [Char.isDigit, Bool.and_eq_true, decide_eq_true_eq, ge_iff_le,
        UInt32.le_iff_toNat_le] at hd
      exact hd
    have hn : n = c.toNat - 48 := (Option.some.inj h).symm
    refine ⟨by omega, ?_⟩
    apply Char.toNat_inj.mp
    have h10 : n < 10 := by omega
    have : c.toNat = n + 48 := by omega
    rw [this]
    interval_cases n <;> rfl

theorem digitValue_le {c : Char} (h : c.isDigit = true) : c.toNat - '0'.toNat ≤ 9 := by
  have hvalue : digitValue c = some (c.toNat - '0'.toNat) := if_pos h
  have hlt := (digitChar_of_digitValue hvalue).1
  omega

/-- The number that digits spell is below the next power of ten. -/
theorem ofDigitChars_lt {cs : List Char} (h : ∀ c ∈ cs, c.isDigit = true) (n : Nat) :
    Nat.ofDigitChars 10 cs n < (n + 1) * 10 ^ cs.length := by
  induction cs generalizing n with
  | nil =>
    rw [Nat.ofDigitChars_nil]
    simp
  | cons c cs ih =>
    rw [Nat.ofDigitChars_cons]
    have hc := digitValue_le (h c List.mem_cons_self)
    have hrest := ih (fun d hd => h d (List.mem_cons_of_mem c hd)) (10 * n + (c.toNat - '0'.toNat))
    have hstep : (10 * n + (c.toNat - '0'.toNat) + 1) * 10 ^ cs.length ≤ ((n + 1) * 10) * 10 ^ cs.length :=
      Nat.mul_le_mul_right _ (by omega)
    rw [List.length_cons, Nat.pow_succ, Nat.mul_comm (10 ^ cs.length) 10, ← Nat.mul_assoc]
    exact Nat.lt_of_lt_of_le hrest hstep

/-- Reads `w` digits off the front: their number and the rest of the text. -/
def readDigits : Nat → List Char → Option (Nat × List Char)
  | 0, cs => some (0, cs)
  | _ + 1, [] => none
  | w + 1, c :: cs => do
    let d ← digitValue c
    let (n, rest) ← readDigits w cs
    pure (d * 10 ^ w + n, rest)

theorem readDigits_pad (w n : Nat) (rest : List Char) :
    readDigits w (pad w n ++ rest) = some (n % 10 ^ w, rest) := by
  induction w with
  | zero => simp [readDigits, pad, Nat.mod_one]
  | succ w ih =>
    have hd := digitValue_digitChar (Nat.mod_lt (n / 10 ^ w) (by decide : 0 < 10))
    simp only [pad, List.cons_append, readDigits, hd, ih, Option.bind_eq_bind, Option.bind_some]
    rw [Nat.mod_pow_succ, Nat.mul_comm, Nat.add_comm]
    rfl

theorem readDigits_lt {w : Nat} {cs rest : List Char} {n : Nat}
    (h : readDigits w cs = some (n, rest)) : n < 10 ^ w := by
  induction w generalizing cs n rest with
  | zero =>
    obtain ⟨rfl, rfl⟩ := Prod.mk.inj (Option.some.inj h)
    simp
  | succ w ih =>
    cases cs with
    | nil => cases h
    | cons c cs =>
      simp only [readDigits, Option.bind_eq_bind, Option.bind_eq_some_iff] at h
      obtain ⟨d, hd, ⟨m, r⟩, hr, he⟩ := h
      obtain ⟨rfl, rfl⟩ := Prod.mk.inj (Option.some.inj he)
      have hm := ih hr
      have h9 := (digitChar_of_digitValue hd).1
      have : d * 10 ^ w ≤ 9 * 10 ^ w := Nat.mul_le_mul_right _ (by omega)
      rw [Nat.pow_succ]
      omega

theorem pad_congr {w n m : Nat} (h : n % 10 ^ w = m % 10 ^ w) : pad w n = pad w m := by
  induction w generalizing n m with
  | zero => rfl
  | succ w ih =>
    have hlow : n % 10 ^ w = m % 10 ^ w := by
      rw [← Nat.mod_mul_right_mod n (10 ^ w) 10, ← Nat.mod_mul_right_mod m (10 ^ w) 10]
      rw [Nat.pow_succ] at h
      rw [h]
    have hhigh : n / 10 ^ w % 10 = m / 10 ^ w % 10 := by
      rw [Nat.mod_pow_succ, Nat.mod_pow_succ, hlow] at h
      exact Nat.eq_of_mul_eq_mul_left (Nat.pow_pos (by decide)) (by omega : 10 ^ w * _ = 10 ^ w * _)
    simp only [pad, hhigh, ih hlow]

theorem pad_of_readDigits {w : Nat} {cs rest : List Char} {n : Nat}
    (h : readDigits w cs = some (n, rest)) : cs = pad w n ++ rest := by
  induction w generalizing cs n rest with
  | zero =>
    obtain ⟨rfl, rfl⟩ := Prod.mk.inj (Option.some.inj h)
    rfl
  | succ w ih =>
    cases cs with
    | nil => cases h
    | cons c cs =>
      simp only [readDigits, Option.bind_eq_bind, Option.bind_eq_some_iff] at h
      obtain ⟨d, hd, ⟨m, r⟩, hr, he⟩ := h
      obtain ⟨rfl, rfl⟩ := Prod.mk.inj (Option.some.inj he)
      have hm := readDigits_lt hr
      obtain ⟨h10, hc⟩ := digitChar_of_digitValue hd
      have hpow : 0 < 10 ^ w := Nat.pow_pos (by decide)
      have hdiv : (d * 10 ^ w + m) / 10 ^ w % 10 = d := by
        rw [Nat.add_comm, Nat.add_mul_div_right _ _ hpow, Nat.div_eq_of_lt hm, Nat.zero_add,
          Nat.mod_eq_of_lt h10]
      have hlow : pad w (d * 10 ^ w + m) = pad w m := pad_congr (by simp)
      rw [pad, hdiv, hc, hlow, ih hr]
      rfl

/-- Texts of one width are ordered as their numbers. -/
theorem pad_lt {w n m : Nat} (hm : m < 10 ^ w) (h : n < m) (r r' : List Char) :
    pad w n ++ r < pad w m ++ r' := by
  induction w generalizing n m with
  | zero => simp at hm; omega
  | succ w ih =>
    have hpow : 0 < 10 ^ w := Nat.pow_pos (by decide)
    rw [Nat.pow_succ] at hm
    have hn10 : n / 10 ^ w < 10 := Nat.div_lt_of_lt_mul (by omega)
    have hm10 : m / 10 ^ w < 10 := Nat.div_lt_of_lt_mul (by omega)
    have hle : n / 10 ^ w ≤ m / 10 ^ w := Nat.div_le_div_right (Nat.le_of_lt h)
    simp only [pad, List.cons_append, Nat.mod_eq_of_lt hn10, Nat.mod_eq_of_lt hm10]
    rcases Nat.lt_or_eq_of_le hle with hlt | heq
    · apply List.Lex.rel
      generalize n / 10 ^ w = a at hlt hn10
      generalize m / 10 ^ w = b at hlt hm10
      interval_cases b <;> interval_cases a <;> decide
    · rw [heq]
      apply List.Lex.cons
      have hmod : n % 10 ^ w < m % 10 ^ w := by
        have h1 := Nat.div_add_mod n (10 ^ w)
        have h2 := Nat.div_add_mod m (10 ^ w)
        rw [heq] at h1
        omega
      have := ih (Nat.mod_lt m hpow) hmod
      rwa [pad_congr (Nat.mod_mod n _), pad_congr (Nat.mod_mod m _)] at this

end Digits
