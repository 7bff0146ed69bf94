/-
  **Bytes as texts** — UTF-8 and hexadecimal.

  `utf8` are the bytes of a text and `ofUtf8` reads them back, refusing what is not UTF-8; the two are
  inverse to one another.  `hex` writes bytes in lower-case digits, `ofHex` reads digits of either case.
-/
import Mathlib.Data.List.Basic
import Mathlib.Data.Char
import Mathlib.Tactic.IntervalCases

namespace Bytes

/-! ## UTF-8 -/

/-- The bytes of a text. -/
def utf8 (s : String) : List UInt8 := s.toUTF8.data.toList

/-- The text with these bytes, when they are UTF-8. -/
def ofUtf8 (bytes : List UInt8) : Option String := String.fromUTF8? ⟨bytes.toArray⟩

@[simp] theorem ofUtf8_utf8 (s : String) : ofUtf8 (utf8 s) = some s := by
  show (if h : s.toByteArray.IsValidUTF8 then some (String.fromUTF8 s.toByteArray h) else none) = some s
  rw [dif_pos s.isValidUTF8]
  rfl

theorem utf8_of_ofUtf8 {bytes : List UInt8} {s : String} (h : ofUtf8 bytes = some s) : utf8 s = bytes := by
  unfold ofUtf8 String.fromUTF8? at h
  split at h
  case isFalse => cases h
  case isTrue hv =>
    obtain rfl := Option.some.inj h
    rfl

theorem utf8_injective {s t : String} (h : utf8 s = utf8 t) : s = t := by
  have hst := congrArg ofUtf8 h
  rw [ofUtf8_utf8, ofUtf8_utf8] at hst
  exact Option.some.inj hst

theorem utf8_eq_nil {s : String} : utf8 s = [] ↔ s = "" := by
  constructor
  · intro h
    exact utf8_injective h
  · rintro rfl
    rfl

/-! ## ASCII -/

theorem length_utf8 (s : String) : (utf8 s).length = s.utf8ByteSize := rfl

/-- Every character has a byte. -/
theorem length_le_utf8ByteSize (cs : List Char) : cs.length ≤ (String.ofList cs).utf8ByteSize := by
  induction cs with
  | nil => exact Nat.zero_le _
  | cons c cs ih =>
    have hpos := c.utf8Size_pos
    rw [String.ofList_cons, String.utf8ByteSize_append, String.utf8ByteSize_singleton, List.length_cons]
    omega

theorem isAlphanum_ascii {c : Char} (h : c.isAlphanum = true) : c.toNat < 128 := by
  delta Char.isAlphanum Char.isAlpha Char.isUpper Char.isLower Char.isDigit at h
  simp only [Bool.or_eq_true, Bool.and_eq_true, decide_eq_true_eq, ge_iff_le, UInt32.le_iff_toNat_le] at h
  have hval : c.val.toNat = c.toNat := rfl
  have hZ : 'Z'.val.toNat = 90 := rfl
  have hz : 'z'.val.toNat = 122 := rfl
  have h9 : '9'.val.toNat = 57 := rfl
  rcases h with (⟨-, h⟩ | ⟨-, h⟩) | ⟨-, h⟩
  all_goals omega

/-! ## Hexadecimal -/

/-- The value of a hexadecimal digit of either case. -/
def hexValue (c : Char) : Option Nat :=
  if '0' ≤ c ∧ c ≤ '9' then some (c.toNat - 48)
  else if 'A' ≤ c ∧ c ≤ 'F' then some (c.toNat - 55)
  else if 'a' ≤ c ∧ c ≤ 'f' then some (c.toNat - 87)
  else none

theorem hexValue_digitChar {n : Nat} (h : n < 16) : hexValue (Nat.digitChar n) = some n := by
  interval_cases n <;> rfl

theorem hexValue_lt {c : Char} {n : Nat} (h : hexValue c = some n) : n < 16 := by
  unfold hexValue at h
  simp only [Char.le_def, UInt32.le_iff_toNat_le] at h
  split at h
  case isTrue hc =>
    have : c.toNat ≤ 57 := hc.2
    have := Option.some.inj h
    omega
  case isFalse =>
    split at h
    case isTrue hc =>
      have : c.toNat ≤ 70 := hc.2
      have := Option.some.inj h
      omega
    case isFalse =>
      split at h
      case isTrue hc =>
        have : c.toNat ≤ 102 := hc.2
        have := Option.some.inj h
        omega
      case isFalse => cases h

/-- Two lower-case digits a byte. -/
def hex (bytes : List UInt8) : List Char :=
  bytes.flatMap fun b => [Nat.digitChar (b.toNat / 16), Nat.digitChar (b.toNat % 16)]

def ofHex : List Char → Option (List UInt8)
  | [] => some []
  | [_] => none
  | a :: b :: rest => do
    let high ← hexValue a
    let low ← hexValue b
    let bytes ← ofHex rest
    pure (UInt8.ofNat (16 * high + low) :: bytes)

theorem ofNat_digits (b : UInt8) : UInt8.ofNat (16 * (b.toNat / 16) + b.toNat % 16) = b := by
  rw [Nat.div_add_mod]
  exact UInt8.ofNat_toNat

theorem ofHex_hex (bytes : List UInt8) : ofHex (hex bytes) = some bytes := by
  induction bytes with
  | nil => rfl
  | cons b bytes ih =>
    have hb := b.toNat_lt
    have hhigh : hexValue (Nat.digitChar (b.toNat / 16)) = some (b.toNat / 16) := hexValue_digitChar (by omega)
    have hlow : hexValue (Nat.digitChar (b.toNat % 16)) = some (b.toNat % 16) := hexValue_digitChar (by omega)
    show ((hexValue _).bind fun high => (hexValue _).bind fun low => (ofHex (hex bytes)).bind fun bs =>
      some (UInt8.ofNat (16 * high + low) :: bs)) = _
    rw [hhigh, hlow, ih]
    simp only [Option.bind_some, ofNat_digits]

theorem length_hex (bytes : List UInt8) : (hex bytes).length = 2 * bytes.length := by
  induction bytes with
  | nil => rfl
  | cons b bytes ih =>
    have : (hex (b :: bytes)).length = 2 + (hex bytes).length := by
      simp only [hex, List.flatMap_cons, List.length_append, List.length_cons, List.length_nil]
    rw [this, ih, List.length_cons]
    omega

/-- Hexadecimal text is made of the sixteen lower-case digits. -/
theorem mem_hex {bytes : List UInt8} {c : Char} (h : c ∈ hex bytes) : ∃ n < 16, c = Nat.digitChar n := by
  obtain ⟨b, -, hc⟩ := List.mem_flatMap.mp h
  have hb := b.toNat_lt
  rcases List.mem_cons.mp hc with rfl | hc
  · exact ⟨b.toNat / 16, by omega, rfl⟩
  · obtain rfl := List.mem_singleton.mp hc
    exact ⟨b.toNat % 16, by omega, rfl⟩

theorem hex_injective {xs ys : List UInt8} (h : hex xs = hex ys) : xs = ys := by
  have hxy := congrArg ofHex h
  rw [ofHex_hex, ofHex_hex] at hxy
  exact Option.some.inj hxy

end Bytes
