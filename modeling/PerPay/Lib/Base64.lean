/-
  **Base64** — bytes in groups of three, each written as four characters.

  `encode` pads the last group; `decode` leaves out the padding and the bits that make no whole byte, as a
  lenient reader does, and takes back what was written (`decode_encode`).  What is written has the shape
  that strict readers ask for (`encode_shape`).
-/
import Mathlib.Data.List.Basic
import Mathlib.Data.Char

namespace Base64

def alphabet : List Char := "ABCDEFGHIJKLMNOPQRSTUVWXYZabcdefghijklmnopqrstuvwxyz0123456789+/".toList

/-- The character of six bits. -/
def digit (n : Nat) : Char := alphabet.getD n 'A'

/-- The six bits of a character. -/
def value (c : Char) : Option Nat := alphabet.idxOf? c

theorem value_digit : ∀ n < 64, value (digit n) = some n := by decide +kernel

theorem digit_mem : ∀ n < 64, digit n ∈ alphabet := by decide +kernel

def encode : List UInt8 → List Char
  | a :: b :: c :: rest =>
    digit (a.toNat / 4) :: digit (a.toNat % 4 * 16 + b.toNat / 16) :: digit (b.toNat % 16 * 4 + c.toNat / 64) ::
      digit (c.toNat % 64) :: encode rest
  | [a, b] => [digit (a.toNat / 4), digit (a.toNat % 4 * 16 + b.toNat / 16), digit (b.toNat % 16 * 4), '=']
  | [a] => [digit (a.toNat / 4), digit (a.toNat % 4 * 16), '=', '=']
  | [] => []

/-- The bytes of groups of six bits. -/
def bytesOf : List Nat → List UInt8
  | p :: q :: r :: s :: rest =>
    UInt8.ofNat (p * 4 + q / 16) :: UInt8.ofNat (q % 16 * 16 + r / 4) :: UInt8.ofNat (r % 4 * 64 + s) :: bytesOf rest
  | [p, q, r] => [UInt8.ofNat (p * 4 + q / 16), UInt8.ofNat (q % 16 * 16 + r / 4)]
  | [p, q] => [UInt8.ofNat (p * 4 + q / 16)]
  | _ => []

def decode (cs : List Char) : List UInt8 := bytesOf (cs.filterMap value)

theorem value_padding : value '=' = none := by decide

/-- **What is written is read back.** -/
theorem decode_encode : ∀ bytes : List UInt8, decode (encode bytes) = bytes
  | a :: b :: c :: rest => by
    have ha := a.toNat_lt
    have hb := b.toNat_lt
    have hc := c.toNat_lt
    have hp := value_digit (a.toNat / 4) (by omega)
    have hq := value_digit (a.toNat % 4 * 16 + b.toNat / 16) (by omega)
    have hr := value_digit (b.toNat % 16 * 4 + c.toNat / 64) (by omega)
    have hs := value_digit (c.toNat % 64) (by omega)
    have ih := decode_encode rest
    unfold decode at ih ⊢
    rw [encode, List.filterMap_cons_some hp, List.filterMap_cons_some hq, List.filterMap_cons_some hr,
      List.filterMap_cons_some hs, bytesOf, ih]
    congr 1
    · rw [show a.toNat / 4 * 4 + (a.toNat % 4 * 16 + b.toNat / 16) / 16 = a.toNat by omega, UInt8.ofNat_toNat]
    congr 1
    · rw [show (a.toNat % 4 * 16 + b.toNat / 16) % 16 * 16 + (b.toNat % 16 * 4 + c.toNat / 64) / 4 = b.toNat by omega,
        UInt8.ofNat_toNat]
    congr 1
    · rw [show (b.toNat % 16 * 4 + c.toNat / 64) % 4 * 64 + c.toNat % 64 = c.toNat by omega, UInt8.ofNat_toNat]
  | [a, b] => by
    have ha := a.toNat_lt
    have hb := b.toNat_lt
    have hp := value_digit (a.toNat / 4) (by omega)
    have hq := value_digit (a.toNat % 4 * 16 + b.toNat / 16) (by omega)
    have hr := value_digit (b.toNat % 16 * 4) (by omega)
    unfold decode
    rw [encode, List.filterMap_cons_some hp, List.filterMap_cons_some hq, List.filterMap_cons_some hr,
      List.filterMap_cons_none value_padding, List.filterMap_nil, bytesOf]
    rw [show a.toNat / 4 * 4 + (a.toNat % 4 * 16 + b.toNat / 16) / 16 = a.toNat by omega,
      show (a.toNat % 4 * 16 + b.toNat / 16) % 16 * 16 + b.toNat % 16 * 4 / 4 = b.toNat by omega,
      UInt8.ofNat_toNat, UInt8.ofNat_toNat]
  | [a] => by
    have ha := a.toNat_lt
    have hp := value_digit (a.toNat / 4) (by omega)
    have hq := value_digit (a.toNat % 4 * 16) (by omega)
    unfold decode
    rw [encode, List.filterMap_cons_some hp, List.filterMap_cons_some hq, List.filterMap_cons_none value_padding,
      List.filterMap_cons_none value_padding, List.filterMap_nil, bytesOf]
    rw [show a.toNat / 4 * 4 + a.toNat % 4 * 16 / 16 = a.toNat by omega, UInt8.ofNat_toNat]
  | [] => rfl

/-- The characters that are written. -/
theorem mem_encode : ∀ {bytes : List UInt8} {c : Char}, c ∈ encode bytes → c ∈ '=' :: alphabet
  | x :: y :: z :: rest, c, h => by
    have hx := x.toNat_lt
    have hy := y.toNat_lt
    have hz := z.toNat_lt
    rw [encode] at h
    simp only [List.mem_cons] at h
    rcases h with rfl | rfl | rfl | rfl | h
    · exact List.mem_cons_of_mem _ (digit_mem _ (by omega))
    · exact List.mem_cons_of_mem _ (digit_mem _ (by omega))
    · exact List.mem_cons_of_mem _ (digit_mem _ (by omega))
    · exact List.mem_cons_of_mem _ (digit_mem _ (by omega))
    · exact mem_encode h
  | [x, y], c, h => by
    have hx := x.toNat_lt
    have hy := y.toNat_lt
    rw [encode] at h
    simp only [List.mem_cons, List.not_mem_nil, or_false] at h
    rcases h with rfl | rfl | rfl | rfl
    · exact List.mem_cons_of_mem _ (digit_mem _ (by omega))
    · exact List.mem_cons_of_mem _ (digit_mem _ (by omega))
    · exact List.mem_cons_of_mem _ (digit_mem _ (by omega))
    · exact List.mem_cons_self
  | [x], c, h => by
    have hx := x.toNat_lt
    rw [encode] at h
    simp only [List.mem_cons, List.not_mem_nil, or_false] at h
    rcases h with rfl | rfl | rfl | rfl
    · exact List.mem_cons_of_mem _ (digit_mem _ (by omega))
    · exact List.mem_cons_of_mem _ (digit_mem _ (by omega))
    · exact List.mem_cons_self
    · exact List.mem_cons_self
  | [], c, h => absurd h List.not_mem_nil

/-- Digits and at most two characters of padding. -/
def shape (cs : List Char) : Bool :=
  let digits := cs.takeWhile alphabet.contains
  let padding := cs.dropWhile alphabet.contains
  !digits.isEmpty && (padding = [] || padding = ['='] || padding = ['=', '='])

theorem shape_cons {cs : List Char} {c : Char} (hc : c ∈ alphabet) (h : shape cs = true) : shape (c :: cs) = true := by
  have hcontains : alphabet.contains c = true := List.contains_iff_mem.mpr hc
  unfold shape at h ⊢
  simp only [Bool.and_eq_true] at h
  simp only [List.takeWhile_cons_of_pos hcontains, List.dropWhile_cons_of_pos hcontains, List.isEmpty_cons,
    Bool.not_false, Bool.true_and]
  exact h.2

theorem encode_shape : ∀ bytes : List UInt8, bytes ≠ [] → shape (encode bytes) = true
  | a :: b :: c :: rest, _ => by
    have ha := a.toNat_lt
    have hb := b.toNat_lt
    have hc := c.toNat_lt
    have hp := digit_mem (a.toNat / 4) (by omega)
    have hq := digit_mem (a.toNat % 4 * 16 + b.toNat / 16) (by omega)
    have hr := digit_mem (b.toNat % 16 * 4 + c.toNat / 64) (by omega)
    have hs := digit_mem (c.toNat % 64) (by omega)
    rw [encode]
    refine shape_cons hp (shape_cons hq (shape_cons hr ?_))
    cases rest with
    | nil =>
      rw [encode]
      have hcontains : alphabet.contains (digit (c.toNat % 64)) = true := List.contains_iff_mem.mpr hs
      unfold shape
      simp only [List.takeWhile_cons_of_pos hcontains, List.dropWhile_cons_of_pos hcontains]
      rfl
    | cons d rest => exact shape_cons hs (encode_shape (d :: rest) (List.cons_ne_nil _ _))
  | [a, b], _ => by
    have ha := a.toNat_lt
    have hb := b.toNat_lt
    have hp := digit_mem (a.toNat / 4) (by omega)
    have hq := digit_mem (a.toNat % 4 * 16 + b.toNat / 16) (by omega)
    have hr : alphabet.contains (digit (b.toNat % 16 * 4)) = true :=
      List.contains_iff_mem.mpr (digit_mem _ (by omega))
    rw [encode]
    refine shape_cons hp (shape_cons hq ?_)
    unfold shape
    simp only [List.takeWhile_cons_of_pos hr, List.dropWhile_cons_of_pos hr]
    rfl
  | [a], _ => by
    have ha := a.toNat_lt
    have hp := digit_mem (a.toNat / 4) (by omega)
    have hq : alphabet.contains (digit (a.toNat % 4 * 16)) = true :=
      List.contains_iff_mem.mpr (digit_mem _ (by omega))
    rw [encode]
    refine shape_cons hp ?_
    unfold shape
    simp only [List.takeWhile_cons_of_pos hq, List.dropWhile_cons_of_pos hq]
    rfl
  | [], h => absurd rfl h

end Base64
