/-
  **Percent coding** — bytes as ASCII text.

  `encode allowed` writes an allowed byte as its character and any other as `%XX`, in upper-case digits.
  `decode` reads literal ASCII characters and escapes with digits of either case, and refuses a broken
  escape.  What was read is the relation `Reads`, which the proofs go by:

  * writing is read back (`reads_encode`), so that writing is injective (`encode_injective`);
  * a text whose characters are all allowed gets no longer when it is rewritten (`length_encode_le`).
-/
import PerPay.Lib.Bytes

namespace Percent

open Bytes

/-- An upper-case hexadecimal digit. -/
def hexDigit (n : Nat) : Char := (Nat.digitChar n).toUpper

theorem hexValue_hexDigit {n : Nat} (h : n < 16) : hexValue (hexDigit n) = some n := by
  interval_cases n <;> rfl

theorem toNat_ofNat_ascii {n : Nat} (h : n < 128) : (Char.ofNat n).toNat = n := by
  have hvalid : n.isValidChar := .inl (by omega)
  unfold Char.ofNat
  rw [dif_pos hvalid]
  rfl

/-! ## Writing -/

def encodeByte (allowed : UInt8 → Bool) (b : UInt8) : List Char :=
  if allowed b then [Char.ofNat b.toNat] else ['%', hexDigit (b.toNat / 16), hexDigit (b.toNat % 16)]

def encode (allowed : UInt8 → Bool) (bytes : List UInt8) : List Char := bytes.flatMap (encodeByte allowed)

theorem encode_cons (allowed : UInt8 → Bool) (b : UInt8) (bytes : List UInt8) :
    encode allowed (b :: bytes) = encodeByte allowed b ++ encode allowed bytes := List.flatMap_cons

theorem encodeByte_ne_nil (allowed : UInt8 → Bool) (b : UInt8) : encodeByte allowed b ≠ [] := by
  unfold encodeByte
  split <;> exact List.cons_ne_nil _ _

theorem length_encodeByte_le (allowed : UInt8 → Bool) (b : UInt8) : (encodeByte allowed b).length ≤ 3 := by
  unfold encodeByte
  split <;> simp

theorem length_le_encode (allowed : UInt8 → Bool) (bytes : List UInt8) : bytes.length ≤ (encode allowed bytes).length := by
  induction bytes with
  | nil => exact Nat.zero_le _
  | cons b bytes ih =>
    have hpos := List.length_pos_iff.mpr (encodeByte_ne_nil allowed b)
    rw [encode_cons, List.length_append, List.length_cons]
    omega

theorem encode_eq_nil {allowed : UInt8 → Bool} {bytes : List UInt8} : encode allowed bytes = [] ↔ bytes = [] := by
  cases bytes with
  | nil => simp [encode]
  | cons b bytes =>
    rw [encode_cons]
    simp [encodeByte_ne_nil]

/-- Written text is made of `%`, digits and allowed bytes. -/
theorem mem_encode {allowed : UInt8 → Bool} {bytes : List UInt8} {c : Char} (h : c ∈ encode allowed bytes) :
    c = '%' ∨ (∃ n < 16, c = hexDigit n) ∨ ∃ b ∈ bytes, allowed b = true ∧ c = Char.ofNat b.toNat := by
  obtain ⟨b, hb, hc⟩ := List.mem_flatMap.mp h
  unfold encodeByte at hc
  split at hc
  case isTrue ha => exact .inr (.inr ⟨b, hb, ha, List.mem_singleton.mp hc⟩)
  case isFalse =>
    have hlt := b.toNat_lt
    rcases List.mem_cons.mp hc with rfl | hc
    · exact .inl rfl
    rcases List.mem_cons.mp hc with rfl | hc
    · exact .inr (.inl ⟨_, by omega, rfl⟩)
    · exact .inr (.inl ⟨b.toNat % 16, by omega, List.mem_singleton.mp hc⟩)

/-- Written text has every property that `%`, the digits and the allowed bytes have. -/
theorem all_encode {allowed : UInt8 → Bool} {p : Char → Prop} (hescape : p '%') (hdigit : ∀ n < 16, p (hexDigit n))
    (hallowed : ∀ b, allowed b = true → p (Char.ofNat b.toNat)) (bytes : List UInt8) :
    ∀ c ∈ encode allowed bytes, p c := by
  intro c hc
  rcases mem_encode hc with rfl | ⟨n, hn, rfl⟩ | ⟨b, -, hb, rfl⟩
  · exact hescape
  · exact hdigit n hn
  · exact hallowed b hb

/-! ## Reading -/

def decode : List Char → Option (List UInt8)
  | [] => some []
  | c :: rest =>
    if c = '%' then
      match rest with
      | a :: b :: rest => do
        let high ← hexValue a
        let low ← hexValue b
        let bytes ← decode rest
        pure (UInt8.ofNat (16 * high + low) :: bytes)
      | _ => none
    else if c.toNat < 128 then (decode rest).map (UInt8.ofNat c.toNat :: ·) else none

/-- The text stands for the bytes. -/
inductive Reads : List Char → List UInt8 → Prop
  | nil : Reads [] []
  | literal {c : Char} {rest : List Char} {bytes : List UInt8} (hc : c ≠ '%') (hlt : c.toNat < 128)
      (hrest : Reads rest bytes) : Reads (c :: rest) (UInt8.ofNat c.toNat :: bytes)
  | escape {a b : Char} {high low : Nat} {rest : List Char} {bytes : List UInt8} (ha : hexValue a = some high)
      (hb : hexValue b = some low) (hrest : Reads rest bytes) :
      Reads ('%' :: a :: b :: rest) (UInt8.ofNat (16 * high + low) :: bytes)

theorem Reads.decode_eq {cs : List Char} {bytes : List UInt8} (h : Reads cs bytes) : decode cs = some bytes := by
  induction h with
  | nil => rfl
  | literal hc hlt hrest ih =>
    unfold decode
    rw [if_neg hc, if_pos hlt, ih]
    rfl
  | escape ha hb hrest ih =>
    unfold decode
    rw [if_pos rfl]
    simp only [ha, hb, ih, Option.bind_eq_bind, Option.bind_some]
    rfl

theorem reads_of_decode : ∀ (cs : List Char) {bytes : List UInt8}, decode cs = some bytes → Reads cs bytes
  | [], _, h => by
    obtain rfl := Option.some.inj h
    exact .nil
  | c :: rest, bytes, h => by
    unfold decode at h
    split at h
    case isTrue hc =>
      subst hc
      match rest, h with
      | a :: b :: rest, h =>
        simp only [Option.bind_eq_bind, Option.bind_eq_some_iff] at h
        obtain ⟨high, ha, low, hb, bytes', hrest, hbytes⟩ := h
        obtain rfl := Option.some.inj hbytes
        exact .escape ha hb (reads_of_decode rest hrest)
    case isFalse hc =>
      split at h
      case isTrue hlt =>
        obtain ⟨bytes', hrest, rfl⟩ := Option.map_eq_some_iff.mp h
        exact .literal hc hlt (reads_of_decode rest hrest)
      case isFalse => cases h

theorem decode_eq_some {cs : List Char} {bytes : List UInt8} : decode cs = some bytes ↔ Reads cs bytes :=
  ⟨reads_of_decode cs, Reads.decode_eq⟩

theorem Reads.unique {cs : List Char} {xs ys : List UInt8} (hx : Reads cs xs) (hy : Reads cs ys) : xs = ys :=
  Option.some.inj (hx.decode_eq.symm.trans hy.decode_eq)

theorem Reads.nil_iff {cs : List Char} {bytes : List UInt8} (h : Reads cs bytes) : bytes = [] ↔ cs = [] := by
  cases h <;> simp

/-! ## Round trip -/

/-- The bytes that may stand for themselves: ASCII other than `%`. -/
def Literal (allowed : UInt8 → Bool) : Prop := ∀ b, allowed b = true → b.toNat < 128 ∧ b.toNat ≠ 37

theorem reads_encodeByte {allowed : UInt8 → Bool} (hallowed : Literal allowed) (b : UInt8) {rest : List Char}
    {bytes : List UInt8} (h : Reads rest bytes) : Reads (encodeByte allowed b ++ rest) (b :: bytes) := by
  have hlt := b.toNat_lt
  unfold encodeByte
  split
  case isTrue hb =>
    obtain ⟨hascii, hne⟩ := hallowed b hb
    have hchar := toNat_ofNat_ascii hascii
    have hlit : Char.ofNat b.toNat ≠ '%' := by
      intro heq
      rw [heq] at hchar
      exact hne hchar.symm
    have hread := Reads.literal hlit (hchar.symm ▸ hascii) h
    rwa [hchar, UInt8.ofNat_toNat] at hread
  case isFalse =>
    have hread := Reads.escape (hexValue_hexDigit (n := b.toNat / 16) (by omega))
      (hexValue_hexDigit (n := b.toNat % 16) (by omega)) h
    rwa [ofNat_digits] at hread

theorem reads_encode {allowed : UInt8 → Bool} (hallowed : Literal allowed) (bytes : List UInt8) :
    Reads (encode allowed bytes) bytes := by
  induction bytes with
  | nil => exact .nil
  | cons b bytes ih =>
    rw [encode_cons]
    exact reads_encodeByte hallowed b ih

theorem encode_injective {allowed : UInt8 → Bool} (hallowed : Literal allowed) {xs ys : List UInt8}
    (h : encode allowed xs = encode allowed ys) : xs = ys := by
  have hx := reads_encode hallowed xs
  rw [h] at hx
  exact hx.unique (reads_encode hallowed ys)

/-- **Rewriting does not lengthen**: a literal character that is allowed stays one character, and an escape
    becomes at most three. -/
theorem Reads.length_encode_le {allowed : UInt8 → Bool} {cs : List Char} {bytes : List UInt8} (h : Reads cs bytes)
    (hliteral : ∀ c ∈ cs, c ≠ '%' → allowed (UInt8.ofNat c.toNat) = true) :
    (encode allowed bytes).length ≤ cs.length := by
  induction h with
  | nil => exact Nat.le_refl 0
  | @literal c rest bytes hc hlt hrest ih =>
    have ih := ih fun d hd => hliteral d (List.mem_cons_of_mem _ hd)
    have hone : (encodeByte allowed (UInt8.ofNat c.toNat)).length = 1 := by
      unfold encodeByte
      rw [if_pos (hliteral c (List.mem_cons_self) hc)]
      rfl
    rw [encode_cons, List.length_append, hone, List.length_cons]
    omega
  | @escape a b high low rest bytes ha hb hrest ih =>
    have ih := ih fun d hd => hliteral d (List.mem_cons_of_mem _ (List.mem_cons_of_mem _ (List.mem_cons_of_mem _ hd)))
    have hthree := length_encodeByte_le allowed (UInt8.ofNat (16 * high + low))
    rw [encode_cons, List.length_append]
    simp only [List.length_cons]
    omega

/-! ## Texts -/

/-- A character beyond ASCII stands for its own bytes. -/
def escapeBeyondAscii (cs : List Char) : List Char :=
  cs.flatMap fun c => if c.toNat < 128 then [c] else encode (fun _ => false) (utf8 (String.singleton c))

/-- `decodeURIComponent` -/
def decodeText (cs : List Char) : Option String := (decode (escapeBeyondAscii cs)).bind ofUtf8

theorem escapeBeyondAscii_ascii {cs : List Char} (h : ∀ c ∈ cs, c.toNat < 128) : escapeBeyondAscii cs = cs := by
  induction cs with
  | nil => rfl
  | cons c cs ih =>
    have ih := ih fun d hd => h d (List.mem_cons_of_mem _ hd)
    unfold escapeBeyondAscii at ih ⊢
    rw [List.flatMap_cons, if_pos (h c List.mem_cons_self), ih]
    rfl

theorem decodeText_eq_some {cs : List Char} (hascii : ∀ c ∈ cs, c.toNat < 128) {s : String} :
    decodeText cs = some s ↔ Reads cs (utf8 s) := by
  unfold decodeText
  rw [escapeBeyondAscii_ascii hascii, Option.bind_eq_some_iff]
  constructor
  · rintro ⟨bytes, hbytes, hs⟩
    rw [utf8_of_ofUtf8 hs]
    exact decode_eq_some.mp hbytes
  · intro h
    exact ⟨utf8 s, h.decode_eq, ofUtf8_utf8 s⟩

end Percent
