/-
  **Forms** — `application/x-www-form-urlencoded`, as `URLSearchParams` reads and writes it.

  A component is written with `+` for a space and escapes for everything but letters, digits and `*-._`, so
  no separator stands in it.  It is read back by a strict reader, which refuses broken escapes and bytes that
  are no text, and by the lenient one of the standard, which takes a broken escape as it stands and replaces
  such bytes; where the strict reader succeeds the two agree (`decodeComponent_eq`).
-/
import PerPay.Lib.Joined
import PerPay.Lib.Percent

namespace Form

open Bytes

/-! ## Writing -/

/-- The bytes that are not escaped; a space is among them until it becomes a `+`. -/
def plainByte (b : UInt8) : Bool :=
  b.toNat < 128 && ((Char.ofNat b.toNat).isAlphanum || "*-._ ".toList.contains (Char.ofNat b.toNat))

def spaceToPlus (c : Char) : Char := if c = ' ' then '+' else c
def plusToSpace (c : Char) : Char := if c = '+' then ' ' else c

def encodeComponent (s : String) : List Char := (Percent.encode plainByte (utf8 s)).map spaceToPlus

def writePair (pair : String × String) : List Char := encodeComponent pair.1 ++ '=' :: encodeComponent pair.2

/-- `URLSearchParams.toString` -/
def serialize (pairs : List (String × String)) : List Char := ['&'].intercalate (pairs.map writePair)

/-- The characters of a written component. -/
def componentCharacter (c : Char) : Bool := c.isAlphanum || "*-._+%".toList.contains c

theorem plainByte_literal : Percent.Literal plainByte := by
  have hall : ∀ n < 256, plainByte (UInt8.ofNat n) = true → n < 128 ∧ n ≠ 37 := by decide +kernel
  intro b hb
  exact hall b.toNat b.toNat_lt (by rwa [UInt8.ofNat_toNat])

theorem encode_no_plus (bytes : List UInt8) : '+' ∉ Percent.encode plainByte bytes := by
  have hall : ∀ n < 256, plainByte (UInt8.ofNat n) = true → Char.ofNat n ≠ '+' := by decide +kernel
  have hne : ∀ c ∈ Percent.encode plainByte bytes, c ≠ '+' := by
    refine Percent.all_encode (by decide) (by decide +kernel) ?_ bytes
    intro b hb
    exact hall b.toNat b.toNat_lt (by rwa [UInt8.ofNat_toNat])
  exact fun hmem => hne '+' hmem rfl

theorem plusToSpace_encodeComponent (s : String) :
    (encodeComponent s).map plusToSpace = Percent.encode plainByte (utf8 s) := by
  unfold encodeComponent
  rw [List.map_map]
  conv_rhs => rw [← List.map_id (Percent.encode plainByte (utf8 s))]
  refine List.map_congr_left fun c hc => ?_
  have hplus : c ≠ '+' := fun heq => encode_no_plus _ (heq ▸ hc)
  show plusToSpace (spaceToPlus c) = c
  unfold spaceToPlus
  by_cases hspace : c = ' '
  · rw [if_pos hspace, hspace]
    rfl
  · rw [if_neg hspace]
    exact if_neg hplus

theorem encodeComponent_characters (s : String) : ∀ c ∈ encodeComponent s, componentCharacter c = true := by
  have hall : ∀ n < 256, plainByte (UInt8.ofNat n) = true → componentCharacter (spaceToPlus (Char.ofNat n)) = true := by
    decide +kernel
  have hencoded : ∀ c ∈ Percent.encode plainByte (utf8 s), componentCharacter (spaceToPlus c) = true := by
    refine Percent.all_encode (by decide) (by decide +kernel) ?_ (utf8 s)
    intro b hb
    exact hall b.toNat b.toNat_lt (by rwa [UInt8.ofNat_toNat])
  intro c hc
  obtain ⟨d, hd, rfl⟩ := List.mem_map.mp hc
  exact hencoded d hd

theorem not_mem_encodeComponent {c : Char} (hc : componentCharacter c = false) (s : String) : c ∉ encodeComponent s :=
  fun hmem => Bool.false_ne_true (hc.symm.trans (encodeComponent_characters s c hmem))

/-- **What is written is read back** by the strict reader. -/
theorem decodeText_encodeComponent (s : String) :
    Percent.decodeText ((encodeComponent s).map plusToSpace) = some s := by
  rw [plusToSpace_encodeComponent]
  refine (Percent.decodeText_eq_some ?_).mpr (Percent.reads_encode plainByte_literal _)
  refine Percent.all_encode (by decide) (by decide +kernel) ?_ _
  intro b hb
  have hascii := (plainByte_literal b hb).1
  rwa [Percent.toNat_ofNat_ascii hascii]

/-! ## The lenient reader -/

/-- Percent-decoding of ASCII text; a `%` that starts no escape stands for itself. -/
def percentDecode : List Char → List UInt8
  | [] => []
  | c :: rest =>
    if c = '%' then
      match rest with
      | a :: b :: rest' =>
        match hexValue a, hexValue b with
        | some high, some low => UInt8.ofNat (16 * high + low) :: percentDecode rest'
        | _, _ => UInt8.ofNat c.toNat :: percentDecode (a :: b :: rest')
      | [a] => UInt8.ofNat c.toNat :: percentDecode [a]
      | [] => [UInt8.ofNat c.toNat]
    else UInt8.ofNat c.toNat :: percentDecode rest

theorem percentDecode_of_reads {cs : List Char} {bytes : List UInt8} (h : Percent.Reads cs bytes) :
    percentDecode cs = bytes := by
  induction h with
  | nil => rfl
  | @literal c rest bytes hc hlt hrest ih =>
    rw [percentDecode.eq_def]
    dsimp only
    rw [if_neg hc, ih]
  | @escape a b high low rest bytes ha hb hrest ih =>
    rw [percentDecode.eq_def]
    dsimp only
    rw [if_pos rfl, ha, hb, ih]

section Lenient

-- How bytes that are no UTF-8 are replaced.
variable (replaced : List UInt8 → String)

/-- UTF-8 decode without BOM. -/
def decodeUtf8 (bytes : List UInt8) : String :=
  match ofUtf8 bytes with
  | some s => s
  | none => replaced bytes

def decodeComponent (cs : List Char) : String := decodeUtf8 replaced (percentDecode (cs.map plusToSpace))

def readPair (cs : List Char) : String × String :=
  match Joined.cutAt '=' cs with
  | (name, none) => (decodeComponent replaced name, "")
  | (name, some value) => (decodeComponent replaced name, decodeComponent replaced value)

/-- The list of a new `URLSearchParams`. -/
def parse (cs : List Char) : List (String × String) :=
  ((cs.splitOn '&').filter fun pair => !pair.isEmpty).map (readPair replaced)

/-- **Where the strict reader succeeds, the lenient one reads the same.** -/
theorem decodeComponent_eq {cs : List Char} (hascii : ∀ c ∈ cs, c.toNat < 128) {s : String}
    (h : Percent.decodeText (cs.map plusToSpace) = some s) : decodeComponent replaced cs = s := by
  have hspace : ∀ c ∈ cs.map plusToSpace, c.toNat < 128 := by
    intro c hc
    obtain ⟨d, hd, rfl⟩ := List.mem_map.mp hc
    unfold plusToSpace
    split
    · decide
    · exact hascii d hd
  have hreads := (Percent.decodeText_eq_some hspace).mp h
  unfold decodeComponent decodeUtf8
  rw [percentDecode_of_reads hreads, ofUtf8_utf8]

end Lenient

/-! ## Separators -/

theorem writePair_no_ampersand (pair : String × String) : '&' ∉ writePair pair := by
  intro hmem
  rcases List.mem_append.mp hmem with h | h
  · exact not_mem_encodeComponent (by decide) _ h
  rcases List.mem_cons.mp h with h | h
  · exact absurd h (by decide)
  · exact not_mem_encodeComponent (by decide) _ h

theorem writePair_ne_nil (pair : String × String) : writePair pair ≠ [] := by
  unfold writePair
  simp

theorem splitOn_serialize {pairs : List (String × String)} (hne : pairs ≠ []) :
    (serialize pairs).splitOn '&' = pairs.map writePair := by
  refine List.splitOn_intercalate '&' ?_ (by simpa using hne)
  intro pair hpair
  obtain ⟨p, -, rfl⟩ := List.mem_map.mp hpair
  exact writePair_no_ampersand p

theorem cutAt_writePair (pair : String × String) :
    Joined.cutAt '=' (writePair pair) = (encodeComponent pair.1, some (encodeComponent pair.2)) :=
  Joined.cutAt_append (not_mem_encodeComponent (by decide) _)

/-- The characters of a written form. -/
theorem serialize_characters {pairs : List (String × String)} {c : Char} (h : c ∈ serialize pairs) :
    c = '&' ∨ c = '=' ∨ componentCharacter c = true := by
  rcases Joined.mem_intercalate h with rfl | ⟨x, hx, hc⟩
  · exact .inl rfl
  obtain ⟨p, -, rfl⟩ := List.mem_map.mp hx
  rcases List.mem_append.mp hc with hc | hc
  · exact .inr (.inr (encodeComponent_characters _ c hc))
  rcases List.mem_cons.mp hc with rfl | hc
  · exact .inr (.inl rfl)
  · exact .inr (.inr (encodeComponent_characters _ c hc))

/-- A written form is at least as long as each value that it holds. -/
theorem size_le_serialize {pairs : List (String × String)} {p : String × String} (h : p ∈ pairs) :
    p.2.utf8ByteSize ≤ (serialize pairs).length := by
  have hbytes := Percent.length_le_encode plainByte (utf8 p.2)
  have hpair : (writePair p).length ≤ (serialize pairs).length :=
    Joined.length_le_intercalate (List.mem_map_of_mem h)
  unfold writePair at hpair
  rw [List.length_append, List.length_cons] at hpair
  rw [length_utf8] at hbytes
  have hcomponent : (encodeComponent p.2).length = (Percent.encode plainByte (utf8 p.2)).length := List.length_map _
  omega

theorem componentCharacter_plain {c : Char} (h : componentCharacter c = true) : c.toNat < 128 ∧ c ≠ '#' := by
  constructor
  · unfold componentCharacter at h
    rcases Bool.or_eq_true _ _ ▸ h with h | h
    · exact isAlphanum_ascii h
    · have hall : ("*-._+%".toList.all fun c => c.toNat < 128) = true := by decide +kernel
      exact of_decide_eq_true (List.all_eq_true.mp hall c (List.contains_iff_mem.mp h))
  · rintro rfl
    exact absurd h (by decide)

end Form
