/-
  **Textual IP addresses** — which texts are addresses, and which address each of them is.

  An IPv4 address is four octets, and has one text: its canonical dotted decimals.  An IPv6 address is
  eight groups of sixteen bits, and has many: digits of either case with or without leading zeros, a
  dotted tail in place of the last two groups, and `::` in place of one or more groups of zeros.

  1. `Spelling text groups` says which texts those are, rule by rule;
  2. `readIPv6` reads a text, and `isIP` is the platform's test, which also lets a zone follow;
  3. what is read is spelled (`readIPv6_spelling`) and what is spelled is read (`Spelling.read`), so a
     text spells one address at most.
-/
import PerPay.Lib.Bytes
import PerPay.Lib.Checks
import PerPay.Lib.Joined
import PerPay.Lib.Json

namespace IpText

open Bytes Json Joined

/-! ## Numbers -/

/-- The number with these hexadecimal digits, of either case. -/
def hexNumber (digits : List Char) : Nat := digits.foldl (fun n c => 16 * n + (hexValue c).getD 0) 0

/-- The hexadecimal text of a number, in lower-case digits. -/
def hexText (n : Nat) : List Char := Nat.toDigits 16 n

theorem hexNumber_hexText (n : Nat) : hexNumber (hexText n) = n := by
  induction n using Nat.strongRecOn with
  | ind n ih =>
    unfold hexText
    rw [Nat.toDigits_eq_if (by omega)]
    split
    · next hlt =>
      show 16 * 0 + (hexValue (Nat.digitChar n)).getD 0 = n
      rw [hexValue_digitChar hlt, Option.getD_some]
      omega
    · next hge =>
      have hquotient : hexNumber (Nat.toDigits 16 (n / 16)) = n / 16 := ih (n / 16) (by omega)
      unfold hexNumber at hquotient ⊢
      rw [List.foldl_append, hquotient]
      show 16 * (n / 16) + (hexValue (Nat.digitChar (n % 16))).getD 0 = n
      rw [hexValue_digitChar (by omega), Option.getD_some]
      omega

theorem hexText_injective : Function.Injective hexText := fun a b h => by
  rw [← hexNumber_hexText a, ← hexNumber_hexText b, h]

/-- The digits of a hexadecimal text are hexadecimal digits. -/
theorem hexText_digits (n : Nat) : ∀ c ∈ hexText n, (hexValue c).isSome = true := by
  induction n using Nat.strongRecOn with
  | ind n ih =>
    unfold hexText
    rw [Nat.toDigits_eq_if (by omega)]
    split
    · next hlt =>
      intro c hc
      rw [List.mem_singleton.mp hc, hexValue_digitChar hlt]
      rfl
    · next hge =>
      intro c hc
      rcases List.mem_append.mp hc with hc | hc
      · exact ih (n / 16) (by omega) c hc
      · rw [List.mem_singleton.mp hc, hexValue_digitChar (by omega)]
        rfl

theorem hexNumber_lt {digits : List Char} (h : ∀ c ∈ digits, (hexValue c).isSome = true) :
    hexNumber digits < 16 ^ digits.length := by
  have hfold : ∀ cs : List Char, (∀ c ∈ cs, (hexValue c).isSome = true) → ∀ n,
      cs.foldl (fun n c => 16 * n + (hexValue c).getD 0) n < (n + 1) * 16 ^ cs.length := by
    intro cs
    induction cs with
    | nil => intro _ n; simp
    | cons c cs ih =>
      intro hcs n
      obtain ⟨d, hd⟩ := Option.isSome_iff_exists.mp (hcs c List.mem_cons_self)
      have hlt := hexValue_lt hd
      refine lt_of_lt_of_le (ih (fun e he => hcs e (List.mem_cons_of_mem _ he)) _) ?_
      show (16 * n + (hexValue c).getD 0 + 1) * 16 ^ cs.length ≤ _
      rw [hd, Option.getD_some, List.length_cons, Nat.pow_succ, Nat.mul_comm (16 ^ cs.length), ← Nat.mul_assoc]
      exact Nat.mul_le_mul_right _ (by omega)
  have := hfold digits h 0
  rwa [Nat.zero_add, Nat.one_mul] at this

/-! ## IPv4 addresses -/

structure IPv4 where
  octets : List Nat
  length_octets : octets.length = 4
  octets_lt : ∀ octet ∈ octets, octet < 256
  deriving DecidableEq

/-- Numbers in decimal digits, joined with dots. -/
def dotted (octets : List Nat) : List Char := List.intercalate ['.'] (octets.map natText)

theorem digit_ne {c d : Char} (hc : c.isDigit = true) (hd : d.isDigit = false) : c ≠ d := by
  rintro rfl
  rw [hc] at hd
  exact nomatch hd

/-- Decimal digits are no dots, so the numbers can be read back. -/
theorem splitOn_dotted {octets : List Nat} (hne : octets ≠ []) : (dotted octets).splitOn '.' = octets.map natText := by
  refine List.splitOn_intercalate '.' (fun field hfield hdot => ?_) (by simpa using hne)
  obtain ⟨octet, -, rfl⟩ := List.mem_map.mp hfield
  exact digit_ne (natText_isDigit '.' hdot) rfl rfl

theorem dotted_injective {xs ys : List Nat} (hxs : xs ≠ []) (hys : ys ≠ []) (h : dotted xs = dotted ys) : xs = ys := by
  have hsplit := congrArg (List.splitOn '.') h
  rw [splitOn_dotted hxs, splitOn_dotted hys] at hsplit
  exact List.map_injective_iff.mpr natText_injective hsplit

theorem mem_dotted {octets : List Nat} {c : Char} (hc : c ∈ dotted octets) : c = '.' ∨ c.isDigit = true := by
  rcases mem_intercalate hc with hsep | ⟨field, hfield, hc⟩
  · exact .inl hsep
  · obtain ⟨octet, -, rfl⟩ := List.mem_map.mp hfield
    exact .inr (natText_isDigit c hc)

/-- The number up to 255 whose decimal text the field is. -/
def readOctet (field : List Char) : Option Nat := (List.range 256).find? fun n => natText n = field

theorem readOctet_eq_some {field : List Char} {n : Nat} : readOctet field = some n ↔ n < 256 ∧ natText n = field := by
  constructor
  · intro h
    exact ⟨List.mem_range.mp (List.mem_of_find?_eq_some h), by simpa using List.find?_some h⟩
  · rintro ⟨hlt, rfl⟩
    cases hfind : readOctet (natText n) with
    | none =>
      have hnone := List.find?_eq_none.mp hfind n (List.mem_range.mpr hlt)
      simp at hnone
    | some m =>
      have hm : natText m = natText n := by simpa using List.find?_some hfind
      rw [natText_injective hm]

/-- Four octets in canonical decimals, with dots between them. -/
def readIPv4 (text : List Char) : Option (List Nat) :=
  ((text.splitOn '.').mapM readOctet).filter fun octets => octets.length = 4

/-- The text is read as the octets it is the dotted text of. -/
theorem readIPv4_eq_some {text : List Char} {octets : List Nat} :
    readIPv4 text = some octets ↔ text = dotted octets ∧ octets.length = 4 ∧ ∀ octet ∈ octets, octet < 256 := by
  constructor
  · intro h
    obtain ⟨hread, hlength⟩ := Option.filter_eq_some_iff.mp h
    have hoctets : text.splitOn '.' = octets.map natText ∧ ∀ octet ∈ octets, octet < 256 := by
      have hfields := Checks.mapM_some.mp hread
      generalize text.splitOn '.' = fields at hfields
      clear h hread hlength
      induction hfields with
      | nil => exact ⟨rfl, fun octet hoctet => nomatch hoctet⟩
      | @cons field octet fields octets hfield _ ih =>
        obtain ⟨hlt, htext⟩ := readOctet_eq_some.mp hfield
        obtain ⟨hfields, hall⟩ := ih
        exact ⟨by rw [hfields, List.map_cons, htext], List.forall_mem_cons.mpr ⟨hlt, hall⟩⟩
    refine ⟨?_, by simpa using hlength, hoctets.2⟩
    unfold dotted
    rw [← hoctets.1, List.intercalate_splitOn]
  · rintro ⟨rfl, hlength, hlt⟩
    have hne : octets ≠ [] := by
      rintro rfl
      exact nomatch hlength
    have hread : (octets.map natText).mapM readOctet = some octets := by
      refine Checks.mapM_some.mpr ?_
      clear hlength hne
      induction octets with
      | nil => exact .nil
      | cons octet octets ih =>
        obtain ⟨hoctet, hlt⟩ := List.forall_mem_cons.mp hlt
        exact .cons (readOctet_eq_some.mpr ⟨hoctet, rfl⟩) (ih hlt)
    unfold readIPv4
    rw [splitOn_dotted hne, hread]
    exact Option.filter_eq_some_iff.mpr ⟨rfl, by simpa using hlength⟩

/-! ## IPv6 addresses -/

structure IPv6 where
  groups : List Nat
  length_groups : groups.length = 8
  groups_lt : ∀ group ∈ groups, group < 65536
  deriving DecidableEq

/-- One to four hexadecimal digits. -/
def isHextet (field : List Char) : Bool :=
  1 ≤ field.length && field.length ≤ 4 && field.all fun c => (hexValue c).isSome

/-- `Fields fields groups` — fields between colons, and the groups they stand for; the last field may be
    dotted, and stands for two groups. -/
inductive Fields : List (List Char) → List Nat → Prop
  | nil : Fields [] []
  | hextet {field : List Char} {fields : List (List Char)} {groups : List Nat} (hfield : isHextet field = true)
      (rest : Fields fields groups) : Fields (field :: fields) (hexNumber field :: groups)
  | dotted {a b c d : Nat} (ha : a < 256) (hb : b < 256) (hc : c < 256) (hd : d < 256) :
      Fields [dotted [a, b, c, d]] [a * 256 + b, c * 256 + d]

/-- `Spelling text groups` — the text is an IPv6 address with these groups: written as a whole, or with
    `::` for at least one group of zeros.  A dotted field comes last, so none stands before `::`. -/
inductive Spelling : List Char → List Nat → Prop
  | whole {fields : List (List Char)} {groups : List Nat} (hfields : Fields fields groups) (hlength : groups.length = 8) :
      Spelling (List.intercalate [':'] fields) groups
  | compressed {left right : List (List Char)} {l r : List Nat} (hleft : Fields left l)
      (hplain : ∀ field ∈ left, '.' ∉ field) (hright : Fields right r) (hshort : l.length + r.length ≤ 7) :
      Spelling (List.intercalate [':'] left ++ ':' :: ':' :: List.intercalate [':'] right)
        (l ++ List.replicate (8 - l.length - r.length) 0 ++ r)

theorem isHextet_iff {field : List Char} :
    isHextet field = true ↔ 1 ≤ field.length ∧ field.length ≤ 4 ∧ ∀ c ∈ field, (hexValue c).isSome = true := by
  unfold isHextet
  rw [Bool.and_eq_true, Bool.and_eq_true, decide_eq_true_eq, decide_eq_true_eq, List.all_eq_true, and_assoc]

/-- The characters of a hextet are hexadecimal digits: no colon, no dot. -/
theorem isHextet_not_mem {field : List Char} (h : isHextet field = true) {c : Char} (hc : hexValue c = none) : c ∉ field := by
  intro hmem
  have hsome := (isHextet_iff.mp h).2.2 c hmem
  rw [hc] at hsome
  exact nomatch hsome

theorem isHextet_lt {field : List Char} (h : isHextet field = true) : hexNumber field < 65536 := by
  obtain ⟨-, hlength, hdigits⟩ := isHextet_iff.mp h
  have hlt := hexNumber_lt hdigits
  have hpow : 16 ^ field.length ≤ 16 ^ 4 := Nat.pow_le_pow_right (by omega) hlength
  omega

theorem dot_mem_dotted (a b : Nat) (rest : List Nat) : '.' ∈ dotted (a :: b :: rest) := by
  unfold dotted
  rw [List.map_cons, List.map_cons, List.intercalate_cons_cons]
  simp

theorem Fields.groups_lt {fields : List (List Char)} {groups : List Nat} (h : Fields fields groups) :
    ∀ group ∈ groups, group < 65536 := by
  induction h with
  | nil => exact fun group hgroup => nomatch hgroup
  | hextet hfield _ ih => exact List.forall_mem_cons.mpr ⟨isHextet_lt hfield, ih⟩
  | dotted ha hb hc hd =>
    intro group hgroup
    rcases List.mem_pair.mp hgroup with rfl | rfl <;> omega

/-- The fields are neither empty nor hold a colon. -/
theorem Fields.plain {fields : List (List Char)} {groups : List Nat} (h : Fields fields groups) :
    ∀ field ∈ fields, field ≠ [] ∧ ':' ∉ field := by
  induction h with
  | nil => exact fun field hfield => nomatch hfield
  | hextet hfield _ ih =>
    refine List.forall_mem_cons.mpr ⟨⟨?_, isHextet_not_mem hfield rfl⟩, ih⟩
    rintro rfl
    exact nomatch hfield
  | @dotted a b c d =>
    intro field hfield
    obtain rfl := List.mem_singleton.mp hfield
    have hdot := dot_mem_dotted a b [c, d]
    refine ⟨fun hnil => absurd (hnil ▸ hdot) List.not_mem_nil, fun hcolon => ?_⟩
    rcases mem_dotted hcolon with hcolon | hcolon <;> exact absurd hcolon (by decide)

/-- A text with eight groups has at least two fields, so a colon stands in it. -/
theorem Fields.colon_mem {fields : List (List Char)} {groups : List Nat} (h : Fields fields groups)
    (hlength : 3 ≤ groups.length) : ':' ∈ List.intercalate [':'] fields := by
  cases h with
  | nil => exact absurd hlength (by decide)
  | @hextet field fields groups hfield rest =>
    cases rest with
    | nil => exact absurd hlength (by simp)
    | hextet _ _ | dotted =>
      rw [List.intercalate_cons_cons]
      simp
  | dotted => exact absurd hlength (by simp)

theorem Spelling.colon_mem {text : List Char} {groups : List Nat} (h : Spelling text groups) : ':' ∈ text := by
  cases h with
  | whole hfields hlength => exact hfields.colon_mem (by omega)
  | compressed => simp

theorem Spelling.length_groups {text : List Char} {groups : List Nat} (h : Spelling text groups) : groups.length = 8 := by
  cases h with
  | whole _ hlength => exact hlength
  | compressed _ _ _ hshort =>
    rw [List.length_append, List.length_append, List.length_replicate]
    omega

theorem Spelling.groups_lt {text : List Char} {groups : List Nat} (h : Spelling text groups) :
    ∀ group ∈ groups, group < 65536 := by
  cases h with
  | whole hfields _ => exact hfields.groups_lt
  | compressed hleft _ hright _ =>
    intro group hgroup
    rcases List.mem_append.mp hgroup with hgroup | hgroup
    · rcases List.mem_append.mp hgroup with hgroup | hgroup
      · exact hleft.groups_lt group hgroup
      · rw [(List.mem_replicate.mp hgroup).2]
        omega
    · exact hright.groups_lt group hgroup

/-! ## Reading -/

/-- A dotted field, as two groups. -/
def readTail (field : List Char) : Option (List Nat) :=
  match readIPv4 field with
  | some [a, b, c, d] => some [a * 256 + b, c * 256 + d]
  | _ => none

def readFields : List (List Char) → Option (List Nat)
  | [] => some []
  | field :: fields =>
    if isHextet field then (readFields fields).map (hexNumber field :: ·)
    else if fields = [] then readTail field
    else none

/-- One side of `::`, which may be empty. -/
def readSide (text : List Char) : Option (List Nat) :=
  if text = [] then some [] else readFields (text.splitOn ':')

def readIPv6 (text : List Char) : Option (List Nat) :=
  match cutPair ':' text with
  | (whole, none) => (readSide whole).filter fun groups => groups.length = 8
  | (before, some after) =>
    if '.' ∈ before then none
    else do
      let left ← readSide before
      let right ← readSide after
      if left.length + right.length ≤ 7 then
        some (left ++ List.replicate (8 - left.length - right.length) 0 ++ right)
      else none

theorem readTail_eq_some {field : List Char} {groups : List Nat} (h : readTail field = some groups) :
    Fields [field] groups := by
  unfold readTail at h
  split at h
  · next a b c d hread =>
    obtain ⟨rfl, -, hlt⟩ := readIPv4_eq_some.mp hread
    cases h
    exact .dotted (hlt a (by simp)) (hlt b (by simp)) (hlt c (by simp)) (hlt d (by simp))
  · exact nomatch h

theorem readFields_fields {fields : List (List Char)} {groups : List Nat} (h : readFields fields = some groups) :
    Fields fields groups := by
  induction fields generalizing groups with
  | nil => exact Option.some.inj h ▸ .nil
  | cons field fields ih =>
    rw [readFields] at h
    split at h
    · next hfield =>
      obtain ⟨rest, hrest, rfl⟩ := Option.map_eq_some_iff.mp h
      exact .hextet hfield (ih hrest)
    split at h
    · next hlast =>
      rw [hlast]
      exact readTail_eq_some h
    · exact nomatch h

theorem Fields.read {fields : List (List Char)} {groups : List Nat} (h : Fields fields groups) :
    readFields fields = some groups := by
  induction h with
  | nil => rfl
  | hextet hfield _ ih => rw [readFields, if_pos hfield, ih, Option.map_some]
  | @dotted a b c d ha hb hc hd =>
    have hread : readIPv4 (IpText.dotted [a, b, c, d]) = some [a, b, c, d] :=
      readIPv4_eq_some.mpr ⟨rfl, rfl, by simp [ha, hb, hc, hd]⟩
    have hhextet : ¬isHextet (IpText.dotted [a, b, c, d]) = true := fun h =>
      isHextet_not_mem h rfl (dot_mem_dotted a b [c, d])
    rw [readFields, if_neg hhextet, if_pos rfl, readTail, hread]

theorem readSide_fields {text : List Char} {groups : List Nat} (h : readSide text = some groups) :
    ∃ fields, Fields fields groups ∧ text = List.intercalate [':'] fields := by
  unfold readSide at h
  split at h
  · next hnil =>
    exact ⟨[], Option.some.inj h ▸ .nil, hnil⟩
  · exact ⟨_, readFields_fields h, (List.intercalate_splitOn ':').symm⟩

theorem Fields.readSide {fields : List (List Char)} {groups : List Nat} (h : Fields fields groups) :
    readSide (List.intercalate [':'] fields) = some groups := by
  unfold IpText.readSide
  split
  · next hnil =>
    cases fields with
    | nil => exact h.read
    | cons field fields =>
      exact absurd hnil (intercalate_ne_nil (List.cons_ne_nil _ _) fun x hx => (h.plain x hx).1)
  · next hne =>
    have hfields : fields ≠ [] := by
      rintro rfl
      exact hne rfl
    rw [List.splitOn_intercalate ':' (fun field hfield => (h.plain field hfield).2) hfields]
    exact h.read

/-- What is read is spelled. -/
theorem readIPv6_spelling {text : List Char} {groups : List Nat} (h : readIPv6 text = some groups) :
    Spelling text groups := by
  unfold readIPv6 at h
  split at h
  · next whole hcut =>
    obtain ⟨hread, hlength⟩ := Option.filter_eq_some_iff.mp h
    obtain ⟨fields, hfields, hwhole⟩ := readSide_fields hread
    have heq := text_of_cutPair ':' text
    rw [hcut] at heq
    rw [heq, hwhole]
    exact .whole hfields (by simpa using hlength)
  · next before after hcut =>
    split at h
    · exact nomatch h
    next hdot =>
    obtain ⟨l, hl, h⟩ := Option.bind_eq_some_iff.mp h
    obtain ⟨r, hr, h⟩ := Option.bind_eq_some_iff.mp h
    split at h
    case isFalse => exact nomatch h
    case isTrue hshort =>
      obtain rfl := Option.some.inj h
      obtain ⟨left, hleft, rfl⟩ := readSide_fields hl
      obtain ⟨right, hright, rfl⟩ := readSide_fields hr
      have heq := text_of_cutPair ':' text
      rw [hcut] at heq
      rw [heq]
      exact .compressed hleft (fun field hfield hmem => hdot (mem_intercalate_of_mem hmem hfield)) hright hshort

/-- What is spelled is read. -/
theorem Spelling.read {text : List Char} {groups : List Nat} (h : Spelling text groups) : readIPv6 text = some groups := by
  cases h with
  | @whole fields groups hfields hlength =>
    have hcut := @cutPair_intercalate _ _ ':' [] _ hfields.plain
    rw [List.append_nil] at hcut
    unfold readIPv6
    rw [hcut]
    show (IpText.readSide (_ ++ [])).filter _ = _
    rw [List.append_nil, hfields.readSide]
    exact Option.filter_eq_some_iff.mpr ⟨rfl, by simpa using hlength⟩
  | @compressed left right l r hleft hplain hright hshort =>
    have hcut := @cutPair_intercalate _ _ ':' (':' :: ':' :: List.intercalate [':'] right) _ hleft.plain
    have hdot : '.' ∉ List.intercalate [':'] left := by
      intro hmem
      rcases mem_intercalate hmem with heq | ⟨field, hfield, hmem⟩
      · exact absurd heq (by decide)
      · exact hplain field hfield hmem
    have hcut' : cutPair ':' (List.intercalate [':'] left ++ ':' :: ':' :: List.intercalate [':'] right) =
        (List.intercalate [':'] left, some (List.intercalate [':'] right)) := by
      rw [hcut, cutPair, if_pos ⟨rfl, rfl⟩, List.append_nil]
    unfold readIPv6
    rw [hcut']
    show (if _ then none else _) = _
    rw [if_neg hdot, hleft.readSide, hright.readSide]
    exact if_pos hshort

/-! ## Networks and mapped addresses -/

/-- The groups of the /64 of an address. -/
def IPv6.network (address : IPv6) : List Nat := address.groups.take 4

theorem IPv6.network_ne_nil (p : IPv6) : p.network ≠ [] := by
  intro h
  have hlength := congrArg List.length h
  rw [IPv6.network, List.length_take, p.length_groups] at hlength
  exact nomatch hlength

/-- The groups of `::ffff:a.b.c.d`. -/
def mappedGroups : List Nat → List Nat
  | [a, b, c, d] => [0, 0, 0, 0, 0, 0xffff, a * 256 + b, c * 256 + d]
  | _ => []

/-- An IPv4-mapped address: five groups of zeros, and one of ones. -/
def IPv6.IsMapped (address : IPv6) : Prop := address.groups.take 6 = [0, 0, 0, 0, 0, 0xffff]

/-- A mapped address stands for one IPv4 address, by its last two groups. -/
theorem IPv6.IsMapped.groups_eq {address : IPv6} (h : address.IsMapped) :
    ∃ octets : IPv4, address.groups = mappedGroups octets.octets := by
  obtain ⟨groups, hlength, hlt⟩ := address
  match groups, hlength with
  | [g0, g1, g2, g3, g4, g5, g6, g7], _ =>
    have h6 : g6 < 65536 := hlt g6 (by simp)
    have h7 : g7 < 65536 := hlt g7 (by simp)
    have hprefixed : [g0, g1, g2, g3, g4, g5] = [0, 0, 0, 0, 0, 0xffff] := h
    refine ⟨⟨[g6 / 256, g6 % 256, g7 / 256, g7 % 256], rfl, by simp; omega⟩, ?_⟩
    show [g0, g1, g2, g3, g4, g5] ++ [g6, g7] = [0, 0, 0, 0, 0, 0xffff] ++ [g6 / 256 * 256 + g6 % 256, g7 / 256 * 256 + g7 % 256]
    rw [hprefixed, Nat.div_add_mod', Nat.div_add_mod']

/-! ## The platform's test -/

/-- The characters of a zone. -/
def zoneCharacter (c : Char) : Bool := c.isAlphanum || c ∈ ['-', '.', ':']

/-- `isIP`: 4, 6, or 0 for a text that is no address.  A zone may follow an IPv6 address behind a `%`. -/
def isIP (text : List Char) : Nat :=
  if (readIPv4 text).isSome then 4
  else if (readIPv6 (cutAt '%' text).1).isSome &&
      ((cutAt '%' text).2.all fun zone => zone ≠ [] && zone.all zoneCharacter) then 6
  else 0

inductive Address
  | v4 (address : IPv4)
  | v6 (address : IPv6)
  deriving DecidableEq

/-- `Denotes text address` — the text is an address without a zone, and stands for this one. -/
def Denotes (text : List Char) : Address → Prop
  | .v4 address => text = dotted address.octets
  | .v6 address => Spelling text address.groups

/-- The address is this IPv4 address, or the IPv6 address it is mapped to. -/
def Address.IsIPv4 (address : Address) (octets : IPv4) : Prop :=
  match address with
  | .v4 plain => plain = octets
  | .v6 mapped => mapped.groups = mappedGroups octets.octets

theorem Denotes.unique {text : List Char} {x y : Address} (hx : Denotes text x) (hy : Denotes text y) : x = y := by
  have hmixed : ∀ (p : IPv4) (q : IPv6), text = dotted p.octets → Spelling text q.groups → False := by
    intro p q hp hq
    rcases mem_dotted (hp ▸ hq.colon_mem) with hcolon | hcolon <;> exact absurd hcolon (by decide)
  cases x with
  | v4 p =>
    cases y with
    | v4 q =>
      have hne : ∀ z : IPv4, z.octets ≠ [] := fun z h => by
        have := z.length_octets
        rw [h] at this
        exact nomatch this
      have heq := dotted_injective (hne p) (hne q) (hx.symm.trans hy)
      cases p
      cases q
      cases heq
      rfl
    | v6 q => exact (hmixed p q hx hy).elim
  | v6 p =>
    cases y with
    | v4 q => exact (hmixed q p hy hx).elim
    | v6 q =>
      have heq : p.groups = q.groups := Option.some.inj (hx.read.symm.trans hy.read)
      cases p
      cases q
      cases heq
      rfl

theorem readIPv4_isSome {text : List Char} : (readIPv4 text).isSome = true ↔ ∃ address, Denotes text (.v4 address) := by
  rw [Option.isSome_iff_exists]
  constructor
  · rintro ⟨octets, h⟩
    obtain ⟨htext, hlength, hlt⟩ := readIPv4_eq_some.mp h
    exact ⟨⟨octets, hlength, hlt⟩, htext⟩
  · rintro ⟨address, h⟩
    exact ⟨address.octets, readIPv4_eq_some.mpr ⟨h, address.length_octets, address.octets_lt⟩⟩

theorem readIPv6_isSome {text : List Char} : (readIPv6 text).isSome = true ↔ ∃ address, Denotes text (.v6 address) := by
  rw [Option.isSome_iff_exists]
  constructor
  · rintro ⟨groups, h⟩
    have hspelling := readIPv6_spelling h
    exact ⟨⟨groups, hspelling.length_groups, hspelling.groups_lt⟩, hspelling⟩
  · rintro ⟨address, h⟩
    exact ⟨address.groups, Spelling.read h⟩

/-- Without a zone the test accepts exactly the texts of addresses, and tells the two kinds apart. -/
theorem isIP_iff {text : List Char} (hzone : '%' ∉ text) :
    (isIP text = 6 ↔ ∃ address, Denotes text (.v6 address)) ∧ (isIP text ≠ 0 ↔ ∃ address, Denotes text address) := by
  have hplain : isIP text = if (readIPv4 text).isSome then 4 else if (readIPv6 text).isSome then 6 else 0 := by
    unfold isIP
    rw [cutAt_of_not_mem hzone]
    simp only [Option.all_none, Bool.and_true]
  rw [hplain]
  by_cases h4 : (readIPv4 text).isSome = true
  · obtain ⟨p, hp⟩ := readIPv4_isSome.mp h4
    rw [if_pos h4]
    refine ⟨⟨fun h => absurd h (by decide), fun ⟨q, hq⟩ => ?_⟩, ⟨fun _ => ⟨_, hp⟩, fun _ => by decide⟩⟩
    exact nomatch hp.unique hq
  · rw [if_neg h4]
    by_cases h6 : (readIPv6 text).isSome = true
    · obtain ⟨q, hq⟩ := readIPv6_isSome.mp h6
      rw [if_pos h6]
      exact ⟨⟨fun _ => ⟨q, hq⟩, fun _ => rfl⟩, ⟨fun _ => ⟨_, hq⟩, fun _ => by decide⟩⟩
    · rw [if_neg h6]
      refine ⟨⟨fun h => absurd h (by decide), fun h => absurd (readIPv6_isSome.mpr h) h6⟩, ⟨fun h => absurd rfl h, ?_⟩⟩
      rintro ⟨address, h⟩
      cases address with
      | v4 p => exact absurd (readIPv4_isSome.mpr ⟨p, h⟩) h4
      | v6 q => exact absurd (readIPv6_isSome.mpr ⟨q, h⟩) h6

end IpText
