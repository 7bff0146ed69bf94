/-
  **Base64 for addresses** — the same groups without padding, with `-` and `_` in the place of `+` and `/`.

  `decode` reads both alphabets, as Node does; that a text is the one its bytes are written as is for the
  reader to ask.
-/
import PerPay.Lib.Base64

namespace Base64Url

def urlChar (c : Char) : Char := if c = '+' then '-' else if c = '/' then '_' else c

def plainChar (c : Char) : Char := if c = '-' then '+' else if c = '_' then '/' else c

/-- `bytes.toString("base64url")` -/
def encode (bytes : List UInt8) : List Char := ((Base64.encode bytes).filter fun c => c ≠ '=').map urlChar

/-- `Buffer.from(text, "base64url")` -/
def decode (cs : List Char) : List UInt8 := Base64.decode (cs.map plainChar)

/-- `[A-Za-z0-9_-]` -/
def isUrlChar (c : Char) : Bool := c.isAlphanum || c = '_' || c = '-'

theorem plain_url (c : Char) (hc : c ∈ Base64.alphabet) : plainChar (urlChar c) = c := by
  have hall : (Base64.alphabet.all fun c => plainChar (urlChar c) == c) = true := by decide +kernel
  exact eq_of_beq (List.all_eq_true.mp hall c hc)

theorem isUrlChar_url : ∀ c ∈ Base64.alphabet, isUrlChar (urlChar c) = true := List.all_eq_true.mp (by decide +kernel)

theorem mem_plain {bytes : List UInt8} {c : Char} (h : c ∈ (Base64.encode bytes).filter fun c => c ≠ '=') :
    c ∈ Base64.alphabet := by
  obtain ⟨hmem, hne⟩ := List.mem_filter.mp h
  rcases List.mem_cons.mp (Base64.mem_encode hmem) with rfl | hc
  · exact absurd rfl (of_decide_eq_true hne)
  · exact hc

/-- **What is written is read back.** -/
theorem decode_encode (bytes : List UInt8) : decode (encode bytes) = bytes := by
  have hplain : ((encode bytes).map plainChar) = (Base64.encode bytes).filter fun c => c ≠ '=' := by
    unfold encode
    rw [List.map_map]
    conv_rhs => rw [← List.map_id ((Base64.encode bytes).filter fun c => c ≠ '=')]
    exact List.map_congr_left fun c hc => plain_url c (mem_plain hc)
  have hpadding : ∀ cs : List Char, (cs.filter fun c => c ≠ '=').filterMap Base64.value = cs.filterMap Base64.value := by
    intro cs
    rw [List.filterMap_filter]
    refine List.filterMap_congr fun c _ => ?_
    by_cases hc : c = '='
    · rw [hc]
      exact Base64.value_padding.symm
    · rw [if_pos (decide_eq_true hc)]
  unfold decode
  rw [hplain]
  unfold Base64.decode
  rw [hpadding]
  exact Base64.decode_encode bytes

theorem isUrlChar_encode {bytes : List UInt8} {c : Char} (h : c ∈ encode bytes) : isUrlChar c = true := by
  obtain ⟨d, hd, rfl⟩ := List.mem_map.mp h
  exact isUrlChar_url d (mem_plain hd)

theorem length_encode : ∀ bytes : List UInt8, (Base64.encode bytes).length = (bytes.length + 2) / 3 * 4
  | a :: b :: c :: rest => by
    have ih := length_encode rest
    rw [Base64.encode, List.length_cons, List.length_cons, List.length_cons, List.length_cons, ih,
      List.length_cons, List.length_cons, List.length_cons]
    omega
  | [a, b] => by simp [Base64.encode]
  | [a] => by simp [Base64.encode]
  | [] => by simp [Base64.encode]

theorem length_le (bytes : List UInt8) : (encode bytes).length ≤ (bytes.length + 2) / 3 * 4 := by
  unfold encode
  rw [List.length_map, ← length_encode]
  exact List.length_filter_le _ _

theorem encode_ne_nil {bytes : List UInt8} (h : bytes ≠ []) : encode bytes ≠ [] := by
  intro hnil
  have hdecode := decode_encode bytes
  rw [hnil] at hdecode
  exact h hdecode.symm

end Base64Url
