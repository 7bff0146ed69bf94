/-
  **Canonical paths.**

  What acceptance means is said once for each part of a target: a `Component` is percent-decoded text, a
  `SegmentReading` and a `PathReading` say which raw text stands for which decoded one.  `canonicalizePath`
  succeeds exactly when there is a reading, and its result is the encoding of what was read; so

  * the encoding of a reading has the same reading (the canonical path is canonical), and
  * the encoding determines what was read.
-/
import PerPay.Security.ApiSignature

namespace PerPay.Security

open Bytes Checks

/-! ## Characters and bytes -/

/-- The codes of the letters and the digits. -/
def alphanumCode (n : Nat) : Bool := (48 ≤ n && n ≤ 57) || (65 ≤ n && n ≤ 90) || (97 ≤ n && n ≤ 122)

/-- The codes of `-._~`. -/
def markCode (n : Nat) : Bool := n = 45 || n = 46 || n = 95 || n = 126

/-- The codes of `!$&'()*+,;=:@`. -/
def delimiterCode (n : Nat) : Bool := n = 33 || n = 36 || (38 ≤ n && n ≤ 44) || n = 58 || n = 59 || n = 61 || n = 64

theorem alphanumCode_toNat (c : Char) : alphanumCode c.toNat = c.isAlphanum := by
  have hval : c.val.toNat = c.toNat := rfl
  have h0 : '0'.val.toNat = 48 := rfl
  have h9 : '9'.val.toNat = 57 := rfl
  have hA : 'A'.val.toNat = 65 := rfl
  have hZ : 'Z'.val.toNat = 90 := rfl
  have ha : 'a'.val.toNat = 97 := rfl
  have hz : 'z'.val.toNat = 122 := rfl
  unfold alphanumCode Char.isAlphanum Char.isAlpha Char.isUpper Char.isLower Char.isDigit
  simp only [ge_iff_le, UInt32.le_iff_toNat_le, hval, h0, h9, hA, hZ, ha, hz]
  rw [Bool.eq_iff_iff]
  simp only [Bool.or_eq_true, Bool.and_eq_true, decide_eq_true_eq]
  omega

theorem unreservedBytes_eq (b : UInt8) : unreservedBytes b = (alphanumCode b.toNat || markCode b.toNat) := by
  have hcodes : "ABCDEFGHIJKLMNOPQRSTUVWXYZabcdefghijklmnopqrstuvwxyz0123456789-._~".toList.map (·.toNat) =
      List.range' 65 26 ++ List.range' 97 26 ++ List.range' 48 10 ++ [45, 46, 95, 126] := by
    simp only [String.reduceToList]
    rfl
  unfold unreservedBytes alphanumCode markCode
  rw [hcodes, Bool.eq_iff_iff, List.contains_iff_mem]
  simp only [List.mem_append, List.mem_range'_1, List.mem_cons, List.not_mem_nil, or_false, Bool.or_eq_true, Bool.and_eq_true,
    decide_eq_true_eq]
  omega

theorem pathSegmentBytes_eq (b : UInt8) :
    pathSegmentBytes b = (alphanumCode b.toNat || markCode b.toNat || delimiterCode b.toNat) := by
  have hcodes : "ABCDEFGHIJKLMNOPQRSTUVWXYZabcdefghijklmnopqrstuvwxyz0123456789-._~!$&'()*+,;=:@".toList.map (·.toNat) =
      List.range' 65 26 ++ List.range' 97 26 ++ List.range' 48 10 ++ [45, 46, 95, 126] ++
        [33, 36, 38, 39, 40, 41, 42, 43, 44, 59, 61, 58, 64] := by
    simp only [String.reduceToList]
    rfl
  unfold pathSegmentBytes alphanumCode markCode delimiterCode
  rw [hcodes, Bool.eq_iff_iff, List.contains_iff_mem]
  simp only [List.mem_append, List.mem_range'_1, List.mem_cons, List.not_mem_nil, or_false, Bool.or_eq_true, Bool.and_eq_true,
    decide_eq_true_eq]
  omega

/-- A character of a list of ASCII characters has one of their codes. -/
theorem mem_codes {c : Char} {cs : List Char} : c ∈ cs ↔ c.toNat ∈ cs.map (·.toNat) :=
  (List.mem_map_of_injective fun _ _ => Char.toNat_inj.mp).symm

theorem queryComponentCharacter_eq (c : Char) :
    queryComponentCharacter c = (alphanumCode c.toNat || markCode c.toNat || c.toNat = 37) := by
  have hcodes : "-._~%".toList.map (·.toNat) = [45, 46, 95, 126, 37] := by
    simp only [String.reduceToList]
    rfl
  unfold queryComponentCharacter markCode
  rw [alphanumCode_toNat, Bool.eq_iff_iff]
  simp only [Bool.or_eq_true, decide_eq_true_eq, List.contains_iff_mem, @mem_codes c, hcodes, List.mem_cons, List.not_mem_nil,
    or_false, or_assoc]

theorem pathSegmentCharacter_eq (c : Char) :
    pathSegmentCharacter c = (alphanumCode c.toNat || markCode c.toNat || delimiterCode c.toNat || c.toNat = 37) := by
  have hcodes : "-._~!$&'()*+,;=:@%".toList.map (·.toNat) =
      [45, 46, 95, 126, 33, 36, 38, 39, 40, 41, 42, 43, 44, 59, 61, 58, 64, 37] := by
    simp only [String.reduceToList]
    rfl
  unfold pathSegmentCharacter
  rw [← alphanumCode_toNat, Bool.eq_iff_iff]
  unfold alphanumCode markCode delimiterCode
  simp only [Bool.or_eq_true, Bool.and_eq_true, decide_eq_true_eq, List.contains_iff_mem, @mem_codes c, hcodes, List.mem_cons,
    List.not_mem_nil, or_false]
  omega

theorem pathSegmentBytes_literal : Percent.Literal pathSegmentBytes := by
  intro b hb
  rw [pathSegmentBytes_eq] at hb
  unfold alphanumCode markCode delimiterCode at hb
  simp only [Bool.or_eq_true, Bool.and_eq_true, decide_eq_true_eq] at hb
  omega

theorem pathSegmentBytes_of_unreserved {b : UInt8} (h : unreservedBytes b = true) : pathSegmentBytes b = true := by
  rw [pathSegmentBytes_eq, ← unreservedBytes_eq, h, Bool.true_or]

theorem unreservedBytes_literal : Percent.Literal unreservedBytes := fun b hb =>
  pathSegmentBytes_literal b (pathSegmentBytes_of_unreserved hb)

theorem toNat_ofNat_of_lt {c : Char} (hlt : c.toNat < 128) : (UInt8.ofNat c.toNat).toNat = c.toNat :=
  UInt8.toNat_ofNat_of_lt' (by show _ < 256; omega)

/-- A segment character that is not `%` is a segment byte. -/
theorem pathSegmentBytes_of_character {c : Char} (hlt : c.toNat < 128) (h : pathSegmentCharacter c = true)
    (hne : c ≠ '%') : pathSegmentBytes (UInt8.ofNat c.toNat) = true := by
  have hcode : ¬c.toNat = 37 := fun heq => hne (Char.toNat_inj.mp heq)
  rw [pathSegmentCharacter_eq, decide_eq_false hcode, Bool.or_false] at h
  rw [pathSegmentBytes_eq, toNat_ofNat_of_lt hlt, h]

/-- A query character that is not `%` is an unreserved byte. -/
theorem unreservedBytes_of_character {c : Char} (hlt : c.toNat < 128) (h : queryComponentCharacter c = true)
    (hne : c ≠ '%') : unreservedBytes (UInt8.ofNat c.toNat) = true := by
  have hcode : ¬c.toNat = 37 := fun heq => hne (Char.toNat_inj.mp heq)
  rw [queryComponentCharacter_eq, decide_eq_false hcode, Bool.or_false] at h
  rw [unreservedBytes_eq, toNat_ofNat_of_lt hlt, h]

/-- The digits of an escape are letters or digits. -/
theorem alphanumCode_hexDigit : ∀ n < 16, alphanumCode (Percent.hexDigit n).toNat = true := by decide

theorem pathSegmentCharacter_encode (bytes : List UInt8) :
    ∀ c ∈ Percent.encode pathSegmentBytes bytes, pathSegmentCharacter c = true := by
  refine Percent.all_encode ?_ (fun n hn => ?_) (fun b hb => ?_) bytes
  · rw [pathSegmentCharacter_eq]
    rfl
  · rw [pathSegmentCharacter_eq, alphanumCode_hexDigit n hn]
    rfl
  · rw [pathSegmentCharacter_eq, Percent.toNat_ofNat_ascii (pathSegmentBytes_literal b hb).1, ← pathSegmentBytes_eq, hb, Bool.true_or]

theorem queryComponentCharacter_encode (bytes : List UInt8) :
    ∀ c ∈ Percent.encode unreservedBytes bytes, queryComponentCharacter c = true := by
  refine Percent.all_encode ?_ (fun n hn => ?_) (fun b hb => ?_) bytes
  · rw [queryComponentCharacter_eq]
    rfl
  · rw [queryComponentCharacter_eq, alphanumCode_hexDigit n hn]
    rfl
  · rw [queryComponentCharacter_eq, Percent.toNat_ofNat_ascii (unreservedBytes_literal b hb).1, ← unreservedBytes_eq, hb, Bool.true_or]

theorem pathSegmentCharacter_of_query {c : Char} (h : queryComponentCharacter c = true) :
    pathSegmentCharacter c = true := by
  rw [queryComponentCharacter_eq] at h
  rw [pathSegmentCharacter_eq]
  simp only [Bool.or_eq_true] at h ⊢
  exact h.imp_left .inl

theorem pathSegmentCharacter_ascii {c : Char} (h : pathSegmentCharacter c = true) : c.toNat < 128 := by
  rw [pathSegmentCharacter_eq] at h
  unfold alphanumCode markCode delimiterCode at h
  simp only [Bool.or_eq_true, Bool.and_eq_true, decide_eq_true_eq] at h
  omega

/-! ## Components -/

section Readings

variable {normalizeNFC : String → String}

/-- The raw text stands for a decoded text that is free of control characters and normal. -/
structure Component (normalizeNFC : String → String) (raw : List Char) (decoded : String) : Prop where
  reads : Percent.Reads raw (utf8 decoded)
  noControl : decoded.toList.any controlCharacter = false
  normal : normalizeNFC decoded = decoded

theorem wellEscaped_of_reads {raw : List Char} {bytes : List UInt8} (h : Percent.Reads raw bytes) :
    wellEscaped raw = true := by
  induction h with
  | nil => rfl
  | literal hc hlt hrest ih =>
    unfold wellEscaped
    rwa [if_pos hc]
  | escape ha hb hrest ih =>
    unfold wellEscaped
    rw [if_neg (by simp)]
    simp only [ha, hb, ih, Option.isSome_some, Bool.and_self]

theorem decodeURIComponent_eq_some {raw : List Char} {decoded : String} :
    decodeURIComponent raw = some decoded ↔ Percent.Reads raw (utf8 decoded) := by
  unfold decodeURIComponent
  constructor
  · intro h
    obtain ⟨bytes, hbytes, hdecoded⟩ := Option.bind_eq_some_iff.mp h
    rw [utf8_of_ofUtf8 hdecoded]
    exact Percent.decode_eq_some.mp hbytes
  · intro h
    rw [h.decode_eq, Option.bind_some, ofUtf8_utf8]

/-- `decodePercentEncoded` succeeds on components. -/
theorem decodePercentEncoded_ok {raw : List Char} {label decoded : String} :
    decodePercentEncoded normalizeNFC raw label = .ok decoded ↔ Component normalizeNFC raw decoded := by
  unfold decodePercentEncoded
  simp only [refuse_bind_ok, required_bind_ok, pure_ok, decodeURIComponent_eq_some, Bool.not_eq_false',
    decide_eq_false_iff_not, not_not]
  constructor
  · rintro ⟨-, d, hreads, hcontrol, hnormal, rfl⟩
    exact ⟨hreads, hcontrol, hnormal⟩
  · rintro ⟨hreads, hcontrol, hnormal⟩
    exact ⟨wellEscaped_of_reads hreads, decoded, hreads, hcontrol, hnormal, rfl⟩

theorem decodePercentEncoded_bind_ok {α : Type} {raw : List Char} {label : String} {f : String → Checked α} {r : α} :
    (decodePercentEncoded normalizeNFC raw label >>= f) = .ok r ↔
      ∃ decoded, Component normalizeNFC raw decoded ∧ f decoded = .ok r := by
  rw [bind_ok]
  simp only [decodePercentEncoded_ok]

theorem Component.unique {raw : List Char} {d e : String} (hd : Component normalizeNFC raw d)
    (he : Component normalizeNFC raw e) : d = e :=
  utf8_injective (hd.reads.unique he.reads)

/-- What was decoded is decoded again from its encoding. -/
theorem Component.encode {raw : List Char} {d : String} (h : Component normalizeNFC raw d)
    {allowed : UInt8 → Bool} (hallowed : Percent.Literal allowed) :
    Component normalizeNFC (percentEncode d allowed) d :=
  ⟨Percent.reads_encode hallowed (utf8 d), h.noControl, h.normal⟩

theorem percentEncode_injective {allowed : UInt8 → Bool} (hallowed : Percent.Literal allowed) {d e : String}
    (h : percentEncode d allowed = percentEncode e allowed) : d = e :=
  utf8_injective (Percent.encode_injective hallowed h)

theorem Component.encode_ne_nil {raw : List Char} {d : String} (h : Component normalizeNFC raw d) (hne : raw ≠ [])
    (allowed : UInt8 → Bool) : percentEncode d allowed ≠ [] := by
  intro hnil
  exact hne (h.reads.nil_iff.mp (Percent.encode_eq_nil.mp hnil))

/-! ## Path segments -/

theorem parseInt16_digits {a b : Char} {high low : Nat} (ha : hexValue a = some high) (hb : hexValue b = some low) :
    parseInt16 [a, b] = some ((16 * high + low : Nat) : Int) := by
  have hplus : a ≠ '+' := by
    rintro rfl
    cases ha
  have hminus : a ≠ '-' := by
    rintro rfl
    cases ha
  have hx : b ≠ 'x' := by
    rintro rfl
    cases hb
  have hX : b ≠ 'X' := by
    rintro rfl
    cases hb
  have hstarts : parseInt16.afterPrefix [a, b] = [a, b] := by
    unfold parseInt16.afterPrefix
    split
    next heq => exact absurd (List.cons.inj (List.cons.inj heq).2).1 hx
    next heq => exact absurd (List.cons.inj (List.cons.inj heq).2).1 hX
    next => rfl
  unfold parseInt16
  split
  next heq => exact absurd (List.cons.inj heq).1 hplus
  next heq => exact absurd (List.cons.inj heq).1 hminus
  next =>
    rw [hstarts]
    unfold leadingHex
    simp only [List.map_cons, List.map_nil, ha, hb, List.takeWhile_cons_of_pos, Option.isSome_some, List.takeWhile_nil]
    simp

theorem reservedByte_ofNat (n : Nat) :
    reservedByte (n : Int) = (decide (n < 128) && !unreservedBytes (UInt8.ofNat n)) := by
  have hascii : decide ((n : Int) < 0x80) = decide (n < 128) := decide_eq_decide.mpr (by omega)
  unfold reservedByte
  rw [decide_eq_true (Int.natCast_nonneg n), Bool.true_and, Int.toNat_natCast, hascii]

/-- The bytes that a canonical segment holds: segment bytes, and those of characters beyond ASCII. -/
def segmentByte (b : UInt8) : Prop := pathSegmentBytes b = true ∨ 128 ≤ b.toNat

/-- **The reserved escapes are the whole difference** between the raw characters and the decoded bytes: a
    segment of the pattern without them holds segment bytes only. -/
theorem segmentByte_of_reads {raw : List Char} {bytes : List UInt8} (h : Percent.Reads raw bytes)
    (hpattern : ∀ c ∈ raw, pathSegmentCharacter c = true) (hreserved : reservedEscape raw = false) :
    ∀ b ∈ bytes, segmentByte b := by
  induction h with
  | nil => simp
  | @literal c rest bytes hc hlt hrest ih =>
    unfold reservedEscape at hreserved
    rw [if_pos hc] at hreserved
    have ih := ih (fun d hd => hpattern d (List.mem_cons_of_mem _ hd)) hreserved
    intro b hb
    rcases List.mem_cons.mp hb with rfl | hb
    · exact .inl (pathSegmentBytes_of_character hlt (hpattern c List.mem_cons_self) hc)
    · exact ih b hb
  | @escape a d high low rest bytes ha hd hrest ih =>
    unfold reservedEscape at hreserved
    rw [if_neg (by simp)] at hreserved
    simp only [parseInt16_digits ha hd, Option.any_some, Bool.or_eq_false_iff, reservedByte_ofNat] at hreserved
    have ih := ih (fun e he =>
      hpattern e (List.mem_cons_of_mem _ (List.mem_cons_of_mem _ (List.mem_cons_of_mem _ he)))) hreserved.2
    have hhigh := hexValue_lt ha
    have hlow := hexValue_lt hd
    intro b hb
    rcases List.mem_cons.mp hb with rfl | hb
    · by_cases hascii : 16 * high + low < 128
      · have hunreserved := hreserved.1
        rw [decide_eq_true hascii, Bool.true_and, Bool.not_eq_false'] at hunreserved
        exact .inl (pathSegmentBytes_of_unreserved hunreserved)
      · refine .inr ?_
        rw [UInt8.toNat_ofNat_of_lt' (by show _ < 256; omega)]
        omega
    · exact ih b hb

theorem reservedEscape_encode {bytes : List UInt8} (h : ∀ b ∈ bytes, segmentByte b) :
    reservedEscape (Percent.encode pathSegmentBytes bytes) = false := by
  induction bytes with
  | nil => rfl
  | cons b bytes ih =>
    have ih := ih fun d hd => h d (List.mem_cons_of_mem _ hd)
    have hlt := b.toNat_lt
    rw [Percent.encode_cons]
    unfold Percent.encodeByte
    by_cases hb : pathSegmentBytes b = true
    · rw [if_pos hb]
      have hne : Char.ofNat b.toNat ≠ '%' := by
        intro heq
        have hchar := Percent.toNat_ofNat_ascii (pathSegmentBytes_literal b hb).1
        rw [heq] at hchar
        exact (pathSegmentBytes_literal b hb).2 hchar.symm
      show reservedEscape (Char.ofNat b.toNat :: _) = false
      unfold reservedEscape
      rw [if_pos hne]
      exact ih
    · rw [if_neg hb]
      have hbyte : 128 ≤ b.toNat := (h b List.mem_cons_self).resolve_left hb
      have hparse := parseInt16_digits (Percent.hexValue_hexDigit (n := b.toNat / 16) (by omega))
        (Percent.hexValue_hexDigit (n := b.toNat % 16) (by omega))
      show reservedEscape ('%' :: _ :: _ :: _) = false
      unfold reservedEscape
      rw [if_neg (by simp)]
      simp only [hparse, Option.any_some, reservedByte_ofNat, Nat.div_add_mod]
      rw [decide_eq_false (by omega), Bool.false_and, Bool.false_or]
      exact ih

/-- The raw segment stands for the decoded one. -/
structure SegmentReading (normalizeNFC : String → String) (raw : List Char) (decoded : String) : Prop where
  pattern : pathSegmentPattern raw = true
  unreserved : reservedEscape raw = false
  component : Component normalizeNFC raw decoded
  notDots : (decoded = "." || decoded = "..") = false
  noSeparator : (decoded.toList.contains '/' || decoded.toList.contains '\\') = false

def encodeSegment (decoded : String) : List Char := percentEncode decoded pathSegmentBytes

theorem canonicalizeSegment_ok {raw canonical : List Char} :
    canonicalizeSegment normalizeNFC raw = .ok canonical ↔
      ∃ decoded, SegmentReading normalizeNFC raw decoded ∧ encodeSegment decoded = canonical := by
  unfold canonicalizeSegment rejectPercentEncodedPathReservedCharacters
  simp only [refuse_bind_ok, decodePercentEncoded_bind_ok, pure_ok, Bool.not_eq_false', encodeSegment]
  constructor
  · rintro ⟨hpattern, hunreserved, decoded, hcomponent, hdots, hseparator, hcanonical⟩
    exact ⟨decoded, ⟨hpattern, hunreserved, hcomponent, hdots, hseparator⟩, hcanonical⟩
  · rintro ⟨decoded, h, hcanonical⟩
    exact ⟨h.pattern, h.unreserved, decoded, h.component, h.notDots, h.noSeparator, hcanonical⟩

theorem SegmentReading.ne_nil {raw : List Char} {d : String} (h : SegmentReading normalizeNFC raw d) : raw ≠ [] := by
  rintro rfl
  exact absurd h.pattern (by decide)

theorem SegmentReading.characters {raw : List Char} {d : String} (h : SegmentReading normalizeNFC raw d) :
    ∀ c ∈ raw, pathSegmentCharacter c = true := by
  have hpattern := h.pattern
  unfold pathSegmentPattern at hpattern
  exact List.all_eq_true.mp (Bool.and_eq_true _ _ ▸ hpattern).2

/-- **The canonical segment stands for the same decoded segment.** -/
theorem SegmentReading.encode {raw : List Char} {d : String} (h : SegmentReading normalizeNFC raw d) :
    SegmentReading normalizeNFC (encodeSegment d) d where
  pattern := by
    unfold pathSegmentPattern
    rw [Bool.and_eq_true, Bool.not_eq_true', List.isEmpty_eq_false_iff, List.all_eq_true]
    exact ⟨h.component.encode_ne_nil h.ne_nil _, pathSegmentCharacter_encode _⟩
  unreserved := reservedEscape_encode (segmentByte_of_reads h.component.reads h.characters h.unreserved)
  component := h.component.encode pathSegmentBytes_literal
  notDots := h.notDots
  noSeparator := h.noSeparator

theorem SegmentReading.length_encode_le {raw : List Char} {d : String} (h : SegmentReading normalizeNFC raw d) :
    (encodeSegment d).length ≤ raw.length := by
  refine h.component.reads.length_encode_le fun c hc hne => ?_
  have hcharacter := h.characters c hc
  exact pathSegmentBytes_of_character (pathSegmentCharacter_ascii hcharacter) hcharacter hne

/-! ## Paths -/

/-- The raw path stands for the decoded segments; the root has none. -/
inductive PathReading (normalizeNFC : String → String) : List Char → List String → Prop
  | root : PathReading normalizeNFC ['/'] []
  | segments {raws : List (List Char)} {decoded : List String} (hne : raws ≠ [])
      (hread : List.Forall₂ (SegmentReading normalizeNFC) raws decoded) :
      PathReading normalizeNFC ('/' :: ['/'].intercalate raws) decoded

/-- The canonical path of decoded segments, the root's included. -/
def encodePath (decoded : List String) : List Char := '/' :: ['/'].intercalate (decoded.map encodeSegment)

theorem SegmentReading.no_slash {raw : List Char} {d : String} (h : SegmentReading normalizeNFC raw d) : '/' ∉ raw :=
  fun hmem => absurd (h.characters '/' hmem) (by decide)

theorem forall₂_encode {normalizeNFC : String → String} {raws : List (List Char)} {decoded : List String}
    (h : List.Forall₂ (SegmentReading normalizeNFC) raws decoded) :
    List.Forall₂ (SegmentReading normalizeNFC) (decoded.map encodeSegment) decoded := by
  induction h with
  | nil => exact .nil
  | cons hR _ ih => exact .cons hR.encode ih

theorem canonicalizeSegments_ok {raws : List (List Char)} {canonical : List Char} :
    canonicalizeSegments normalizeNFC raws = .ok canonical ↔
      ∃ decoded, List.Forall₂ (SegmentReading normalizeNFC) raws decoded ∧ encodePath decoded = canonical := by
  unfold canonicalizeSegments
  simp only [refuse_bind_ok, mapM_bind_ok, pure_ok, canonicalizeSegment_ok, forall₂_exists, encodePath]
  constructor
  · rintro ⟨-, _, ⟨decoded, hread, rfl⟩, hcanonical⟩
    exact ⟨decoded, hread, hcanonical⟩
  · rintro ⟨decoded, hread, hcanonical⟩
    refine ⟨?_, _, ⟨decoded, hread, rfl⟩, hcanonical⟩
    rw [List.any_eq_false]
    intro raw hraw
    rw [List.isEmpty_iff]
    exact forall₂_left (fun _ _ h => h.ne_nil) hread raw hraw

/-- `canonicalizePath` succeeds on readings. -/
theorem canonicalizePath_ok {rest canonical : List Char} :
    canonicalizePath normalizeNFC ('/' :: rest) = .ok canonical ↔
      ∃ decoded, PathReading normalizeNFC ('/' :: rest) decoded ∧ encodePath decoded = canonical := by
  unfold canonicalizePath
  by_cases hroot : '/' :: rest = ['/']
  · obtain rfl : rest = [] := (List.cons.inj hroot).2
    rw [if_pos rfl]
    constructor
    · intro h
      exact ⟨[], .root, Except.ok.inj h⟩
    · rintro ⟨decoded, hread, rfl⟩
      generalize hpath : ['/'] = path at hread
      cases hread with
      | root => rfl
      | segments hne hread =>
        have hsegments := Joined.intercalate_ne_nil (s := '/') hne (forall₂_left (fun _ _ h => h.ne_nil) hread)
        exact absurd (List.cons.inj hpath).2.symm hsegments
  · rw [if_neg hroot]
    simp only [refuse_bind_ok, canonicalizeSegments_ok, List.drop_one, List.tail_cons, List.isEmpty_cons, Bool.false_or]
    constructor
    · rintro ⟨-, decoded, hread, hcanonical⟩
      refine ⟨decoded, ?_, hcanonical⟩
      have hreading := PathReading.segments (List.splitOn_ne_nil '/' rest) hread
      rwa [List.intercalate_splitOn] at hreading
    · rintro ⟨decoded, hread, hcanonical⟩
      generalize hpath : '/' :: rest = path at hread
      cases hread with
      | root => exact absurd hpath hroot
      | @segments raws _ hne hread =>
        obtain rfl := (List.cons.inj hpath).2
        have hslash := forall₂_left (fun _ _ h => h.no_slash) hread
        have hfields : ∀ raw ∈ raws, raw ≠ [] ∧ '/' ∉ raw :=
          forall₂_left (fun _ _ h => ⟨h.ne_nil, h.no_slash⟩) hread
        have hnonempty := Joined.intercalate_ne_nil (s := '/') hne fun raw hraw => (hfields raw hraw).1
        refine ⟨?_, decoded, ?_, hcanonical⟩
        · rw [List.getLast?_cons, decide_eq_false_iff_not]
          have hlast := Joined.getLast?_intercalate_ne hfields
          obtain ⟨c, hc⟩ := Option.isSome_iff_exists.mp (List.getLast?_isSome.mpr hnonempty)
          rw [hc] at hlast ⊢
          exact hlast
        · rwa [List.splitOn_intercalate '/' hslash hne]

/-- **The canonical path stands for the same decoded segments.** -/
theorem PathReading.encode {raw : List Char} {decoded : List String} (h : PathReading normalizeNFC raw decoded) :
    PathReading normalizeNFC (encodePath decoded) decoded := by
  cases h with
  | root => exact .root
  | segments hne hread =>
    refine .segments ?_ (forall₂_encode hread)
    intro hnil
    rw [List.map_eq_nil_iff] at hnil
    subst hnil
    exact hne (List.forall₂_nil_right_iff.mp hread)

/-- The decoded segments of a raw path. -/
def decodePath (rawPath : List Char) : Option (List String) :=
  if rawPath = ['/'] then some [] else ((rawPath.drop 1).splitOn '/').mapM decodeURIComponent

theorem PathReading.decode_eq {raw : List Char} {decoded : List String} (h : PathReading normalizeNFC raw decoded) :
    decodePath raw = some decoded := by
  unfold decodePath
  cases h with
  | root => rfl
  | segments hne hread =>
    have hslash := forall₂_left (fun _ _ h => h.no_slash) hread
    have hsegments := Joined.intercalate_ne_nil (s := '/') hne (forall₂_left (fun _ _ h => h.ne_nil) hread)
    rw [if_neg fun heq => hsegments (List.cons.inj heq).2, List.drop_one, List.tail_cons,
      List.splitOn_intercalate '/' hslash hne]
    exact mapM_eq_some (hread.imp fun _ _ h => decodeURIComponent_eq_some.mpr h.component.reads)

/-- **The canonical path determines the decoded segments.** -/
theorem PathReading.encode_injective {raw raw' : List Char} {decoded decoded' : List String}
    (h : PathReading normalizeNFC raw decoded) (h' : PathReading normalizeNFC raw' decoded')
    (heq : encodePath decoded = encodePath decoded') : decoded = decoded' := by
  have hdecode := h.encode.decode_eq
  rw [heq, h'.encode.decode_eq] at hdecode
  exact (Option.some.inj hdecode).symm

theorem PathReading.length_encode_le {raw : List Char} {decoded : List String}
    (h : PathReading normalizeNFC raw decoded) : (encodePath decoded).length ≤ raw.length := by
  have hsum : ∀ {raws : List (List Char)} {decoded : List String},
      List.Forall₂ (SegmentReading normalizeNFC) raws decoded →
      ((decoded.map encodeSegment).map List.length).sum ≤ (raws.map List.length).sum := by
    intro raws decoded hread
    induction hread with
    | nil => exact Nat.le_refl 0
    | cons hR _ ih =>
      have hone := hR.length_encode_le
      simp only [List.map_cons, List.sum_cons]
      omega
  cases h with
  | root => exact Nat.le_refl 1
  | @segments raws _ hne hread =>
    have hlength := hread.length_eq
    have hle := hsum hread
    unfold encodePath
    match raws, decoded, hne, hlength with
    | raw :: raws, d :: decoded, _, hlength =>
      simp only [List.length_cons, List.map_cons] at hlength hle ⊢
      rw [Joined.length_intercalate, Joined.length_intercalate]
      simp only [List.map_cons, List.length_map]
      omega

theorem PathReading.characters {raw : List Char} {decoded : List String} (h : PathReading normalizeNFC raw decoded) :
    ∀ c ∈ raw, c = '/' ∨ pathSegmentCharacter c = true := by
  cases h with
  | root =>
    intro c hc
    exact .inl (List.mem_singleton.mp hc)
  | segments hne hread =>
    intro c hc
    rcases List.mem_cons.mp hc with rfl | hc
    · exact .inl rfl
    rcases Joined.mem_intercalate hc with rfl | ⟨raw, hraw, hc⟩
    · exact .inl rfl
    · exact .inr (forall₂_left (fun _ _ h => h.characters) hread raw hraw c hc)

end Readings

end PerPay.Security
