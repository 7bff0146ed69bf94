/-
  **JSON values** — `JSON.stringify` and `JSON.parse` on whole values, and `parse ∘ stringify = id`.

  How a language writes its numbers is a parameter (`NumberFormat`): a text without delimiters that is
  read back as the same number.  Everything else is JSON's own.  The reader takes white space and every
  escape that JSON knows; an escaped surrogate that is not half of a pair stands for U+FFFD, which is
  what it becomes in UTF-8.

  The round trip `parse_stringify` is an induction on the value.  A number is read up to the first
  character that no number has, so the induction carries what follows the text of a value: nothing, or
  a character that ends a number.
-/
import Mathlib.Data.List.Nodup
import PerPay.Lib.Json

namespace Json

/-! ## Values and their text -/

def isNumberChar (c : Char) : Bool := c.isDigit || c = '-' || c = '+' || c = '.' || c = 'e' || c = 'E'

/-- How numbers of type `ν` are written. -/
structure NumberFormat (ν : Type) where
  text : ν → List Char
  read : List Char → Option ν
  text_ne_nil : ∀ x, text x ≠ []
  text_chars : ∀ x, ∀ c ∈ text x, isNumberChar c = true
  read_text : ∀ x, read (text x) = some x

inductive Value (ν : Type)
  | null
  | bool (b : Bool)
  | num (x : ν)
  | str (s : String)
  | arr (items : List (Value ν))
  | obj (members : List (String × Value ν))

variable {ν : Type}

def quoted (s : String) : List Char := '"' :: (escape s.toList ++ ['"'])

mutual

/-- `JSON.stringify` -/
def stringify (f : NumberFormat ν) : Value ν → List Char
  | .null => ['n', 'u', 'l', 'l']
  | .bool true => ['t', 'r', 'u', 'e']
  | .bool false => ['f', 'a', 'l', 's', 'e']
  | .num x => f.text x
  | .str s => quoted s
  | .arr vs => '[' :: itemsOf f vs
  | .obj ms => '{' :: membersOf f ms

def itemsOf (f : NumberFormat ν) : List (Value ν) → List Char
  | [] => [']']
  | v :: vs => stringify f v ++ moreItems f vs

def moreItems (f : NumberFormat ν) : List (Value ν) → List Char
  | [] => [']']
  | v :: vs => ',' :: (stringify f v ++ moreItems f vs)

def memberOf (f : NumberFormat ν) : String × Value ν → List Char
  | (k, v) => quoted k ++ ':' :: stringify f v

def membersOf (f : NumberFormat ν) : List (String × Value ν) → List Char
  | [] => ['}']
  | m :: ms => memberOf f m ++ moreMembers f ms

def moreMembers (f : NumberFormat ν) : List (String × Value ν) → List Char
  | [] => ['}']
  | m :: ms => ',' :: (memberOf f m ++ moreMembers f ms)

end

/-- The property `value[key]` of a parsed object: of members with one key the last counts. -/
def Value.member (key : String) : Value ν → Option (Value ν)
  | .obj members => (members.reverse.find? fun m => m.1 = key).map (·.2)
  | _ => none

/-! ## Reading -/

def isWhitespace (c : Char) : Bool := c = ' ' || c = '\t' || c = '\n' || c = '\r'

def skip (cs : List Char) : List Char := cs.dropWhile isWhitespace

def hexValue (c : Char) : Option Nat :=
  if c.isDigit then some (c.toNat - '0'.toNat)
  else if 'a' ≤ c ∧ c ≤ 'f' then some (c.toNat - 'a'.toNat + 10)
  else if 'A' ≤ c ∧ c ≤ 'F' then some (c.toNat - 'A'.toNat + 10)
  else none

/-- The code unit that four hexadecimal digits spell. -/
def codeUnit (a b c d : Char) : Option Nat := do
  let a ← hexValue a
  let b ← hexValue b
  let c ← hexValue c
  let d ← hexValue d
  return ((a * 16 + b) * 16 + c) * 16 + d

def isHighSurrogate (n : Nat) : Bool := 0xD800 ≤ n && n < 0xDC00
def isLowSurrogate (n : Nat) : Bool := 0xDC00 ≤ n && n < 0xE000

/-- The character of an escaped code unit, with the rest of the text: a high surrogate takes the low
    one that follows it. -/
def readCodeUnit (n : Nat) : List Char → Char × List Char
  | '\\' :: 'u' :: a :: b :: c :: d :: cs =>
    match codeUnit a b c d with
    | some m =>
      if isHighSurrogate n && isLowSurrogate m then
        (Char.ofNat (0x10000 + (n - 0xD800) * 0x400 + (m - 0xDC00)), cs)
      else (if isHighSurrogate n || isLowSurrogate n then '\uFFFD' else Char.ofNat n,
        '\\' :: 'u' :: a :: b :: c :: d :: cs)
    | none => (if isHighSurrogate n || isLowSurrogate n then '\uFFFD' else Char.ofNat n,
        '\\' :: 'u' :: a :: b :: c :: d :: cs)
  | cs => (if isHighSurrogate n || isLowSurrogate n then '\uFFFD' else Char.ofNat n, cs)

/-- One character of a text, behind a backslash. -/
def readEscape : List Char → Option (Char × List Char)
  | '"' :: cs => some ('"', cs)
  | '\\' :: cs => some ('\\', cs)
  | '/' :: cs => some ('/', cs)
  | 'b' :: cs => some (Char.ofNat 8, cs)
  | 't' :: cs => some (Char.ofNat 9, cs)
  | 'n' :: cs => some (Char.ofNat 10, cs)
  | 'f' :: cs => some (Char.ofNat 12, cs)
  | 'r' :: cs => some (Char.ofNat 13, cs)
  | 'u' :: a :: b :: c :: d :: cs => (codeUnit a b c d).map fun n => readCodeUnit n cs
  | _ => none

/-- The characters of a text up to its closing quote. -/
def readText : Nat → List Char → Option (List Char × List Char)
  | 0, _ => none
  | _ + 1, [] => none
  | n + 1, c :: cs =>
    if c = '"' then some ([], cs)
    else if c = '\\' then
      (readEscape cs).bind fun p => (readText n p.2).map fun q => (p.1 :: q.1, q.2)
    else if c.toNat < 32 then none
    else (readText n cs).map fun q => (c :: q.1, q.2)

def readString (cs : List Char) : Option (String × List Char) :=
  (readText (cs.length + 1) cs).map fun q => (String.ofList q.1, q.2)

/-- A number, or one of the three words. -/
def readScalar (f : NumberFormat ν) : List Char → Option (Value ν × List Char)
  | 'n' :: 'u' :: 'l' :: 'l' :: cs => some (.null, cs)
  | 't' :: 'r' :: 'u' :: 'e' :: cs => some (.bool true, cs)
  | 'f' :: 'a' :: 'l' :: 's' :: 'e' :: cs => some (.bool false, cs)
  | cs => (f.read (cs.takeWhile isNumberChar)).map fun x => (.num x, cs.dropWhile isNumberChar)

mutual

def readValue (f : NumberFormat ν) : Nat → List Char → Option (Value ν × List Char)
  | 0, _ => none
  | n + 1, cs =>
    match skip cs with
    | '"' :: r => (readString r).map fun q => (.str q.1, q.2)
    | '[' :: r => (readItems f n (skip r)).map fun q => (.arr q.1, q.2)
    | '{' :: r => (readMembers f n (skip r)).map fun q => (.obj q.1, q.2)
    | r => readScalar f r

/-- The items of an array, from its opening bracket. -/
def readItems (f : NumberFormat ν) : Nat → List Char → Option (List (Value ν) × List Char)
  | 0, _ => none
  | n + 1, cs =>
    if cs.head? = some ']' then some ([], cs.tail)
    else (readValue f n cs).bind fun p => (readMoreItems f n (skip p.2)).map fun q => (p.1 :: q.1, q.2)

/-- The rest of the items, behind one of them. -/
def readMoreItems (f : NumberFormat ν) : Nat → List Char → Option (List (Value ν) × List Char)
  | 0, _ => none
  | n + 1, cs =>
    if cs.head? = some ']' then some ([], cs.tail)
    else if cs.head? = some ',' then
      (readValue f n cs.tail).bind fun p => (readMoreItems f n (skip p.2)).map fun q => (p.1 :: q.1, q.2)
    else none

def readMember (f : NumberFormat ν) : Nat → List Char → Option ((String × Value ν) × List Char)
  | 0, _ => none
  | n + 1, cs =>
    if cs.head? = some '"' then
      (readString cs.tail).bind fun k =>
        if (skip k.2).head? = some ':' then
          (readValue f n (skip k.2).tail).map fun q => ((k.1, q.1), q.2)
        else none
    else none

def readMembers (f : NumberFormat ν) : Nat → List Char → Option (List (String × Value ν) × List Char)
  | 0, _ => none
  | n + 1, cs =>
    if cs.head? = some '}' then some ([], cs.tail)
    else (readMember f n cs).bind fun p => (readMoreMembers f n (skip p.2)).map fun q => (p.1 :: q.1, q.2)

def readMoreMembers (f : NumberFormat ν) : Nat → List Char → Option (List (String × Value ν) × List Char)
  | 0, _ => none
  | n + 1, cs =>
    if cs.head? = some '}' then some ([], cs.tail)
    else if cs.head? = some ',' then
      (readMember f n (skip cs.tail)).bind fun p => (readMoreMembers f n (skip p.2)).map fun q => (p.1 :: q.1, q.2)
    else none

end

/-- `JSON.parse` -/
def parse (f : NumberFormat ν) (cs : List Char) : Option (Value ν) :=
  (readValue f (2 * cs.length + 2) cs).bind fun p => if skip p.2 = [] then some p.1 else none

/-! ## What is written is read back -/

/-- Where a number ends: nothing follows, or a character that no number has. -/
def Ends (r : List Char) : Prop := ∀ c ∈ r.head?, isNumberChar c = false

theorem ends_nil : Ends [] := by intro c h; cases h

theorem ends_cons {c : Char} {r : List Char} (h : isNumberChar c = false) : Ends (c :: r) := by
  intro d hd
  cases hd
  exact h

theorem skip_cons {c : Char} {r : List Char} (h : isWhitespace c = false) : skip (c :: r) = c :: r :=
  List.dropWhile_cons_of_neg (by rw [h]; exact Bool.false_ne_true)

theorem takeWhile_number {ds r : List Char} (hd : ∀ c ∈ ds, isNumberChar c = true) (hr : Ends r) :
    (ds ++ r).takeWhile isNumberChar = ds ∧ (ds ++ r).dropWhile isNumberChar = r := by
  induction ds with
  | nil =>
    cases r with
    | nil => exact ⟨rfl, rfl⟩
    | cons c r =>
      have hc := hr c rfl
      simp [hc]
  | cons c ds ih =>
    have hc := hd c List.mem_cons_self
    obtain ⟨h1, h2⟩ := ih fun x hx => hd x (List.mem_cons_of_mem c hx)
    simp only [List.cons_append, List.takeWhile_cons, List.dropWhile_cons, hc, ↓reduceIte, h1, h2, and_self]

/-! ### Texts -/

theorem codeUnit_hexDigit : ∀ n < 32, codeUnit '0' '0' (hexDigit (n / 16)) (hexDigit (n % 16)) = some n := by
  decide

/-- A code unit that is no surrogate is a character of its own. -/
theorem readCodeUnit_low {n : Nat} (h : n < 32) (cs : List Char) : readCodeUnit n cs = (Char.ofNat n, cs) := by
  have hhigh : isHighSurrogate n = false := by
    unfold isHighSurrogate
    rw [decide_eq_false (by omega)]
    rfl
  have hlow : isLowSurrogate n = false := by
    unfold isLowSurrogate
    rw [decide_eq_false (by omega)]
    rfl
  unfold readCodeUnit
  split
  · split <;> simp [hhigh, hlow]
  · simp [hhigh, hlow]

/-- A control character is never written as it is. -/
theorem escapeChar_self {c : Char} (h : escapeChar c = [c]) : ¬ c.toNat < 32 := by
  intro hlow
  unfold escapeChar at h
  repeat' split at h
  all_goals exact absurd h (by simp)

theorem readText_escapeChar (c : Char) (n : Nat) (r : List Char) :
    readText (n + 1) (escapeChar c ++ r) = (readText n r).map fun q => (c :: q.1, q.2) := by
  rcases escapeChar_cases c with ⟨hq, hb, he⟩ | ⟨e, he, -, hce⟩ | ⟨hlt, he⟩
  · have hlow := escapeChar_self he
    rw [he]
    simp only [List.cons_append, List.nil_append, readText, hq, hb, hlow, ↓reduceIte]
  · rw [he]
    have hread : readEscape (e :: r) = some (c, r) := by
      rcases hce with ⟨rfl, h⟩ | ⟨rfl, h⟩ | ⟨rfl, h⟩ | ⟨rfl, h⟩ | ⟨rfl, h⟩ | ⟨rfl, h⟩ | ⟨rfl, h⟩
      · rw [h]; rfl
      · rw [h]; rfl
      all_goals rw [← Char.ofNat_toNat c, h]; rfl
    simp only [List.cons_append, List.nil_append, readText, Char.reduceEq, ↓reduceIte, hread, Option.bind_some]
  · rw [he]
    have hread : readEscape ('u' :: '0' :: '0' :: hexDigit (c.toNat / 16) :: hexDigit (c.toNat % 16) :: r) =
        some (c, r) := by
      show (codeUnit '0' '0' (hexDigit (c.toNat / 16)) (hexDigit (c.toNat % 16))).map
        (fun n => readCodeUnit n r) = _
      rw [codeUnit_hexDigit _ hlt, Option.map_some, readCodeUnit_low hlt, Char.ofNat_toNat]
    simp only [List.cons_append, List.nil_append, readText, Char.reduceEq, ↓reduceIte, hread, Option.bind_some]

theorem readText_escape (s r : List Char) : ∀ n, s.length < n → readText n (escape s ++ '"' :: r) = some (s, r) := by
  induction s with
  | nil =>
    intro n hn
    obtain ⟨n, rfl⟩ := Nat.exists_eq_succ_of_ne_zero (by omega : n ≠ 0)
    rfl
  | cons c s ih =>
    intro n hn
    obtain ⟨n, rfl⟩ := Nat.exists_eq_succ_of_ne_zero (by omega : n ≠ 0)
    show readText (n + 1) ((escapeChar c ++ escape s) ++ '"' :: r) = _
    rw [List.append_assoc, readText_escapeChar, ih n (by simpa using hn)]
    rfl

theorem length_escape (s : List Char) : s.length ≤ (escape s).length := by
  induction s with
  | nil => exact Nat.le_refl 0
  | cons c s ih =>
    show s.length + 1 ≤ (escapeChar c ++ escape s).length
    have hc : 1 ≤ (escapeChar c).length := by
      rcases escapeChar_cases c with ⟨-, -, he⟩ | ⟨e, he, -⟩ | ⟨-, he⟩ <;> simp [he]
    rw [List.length_append]
    omega

theorem readString_escape (s : String) (r : List Char) :
    readString (escape s.toList ++ '"' :: r) = some (s, r) := by
  unfold readString
  rw [readText_escape _ _ _ (by
    have := length_escape s.toList
    rw [List.length_append]
    omega)]
  simp only [Option.map_some, String.ofList_toList]

theorem quoted_append (s : String) (r : List Char) : quoted s ++ r = '"' :: (escape s.toList ++ '"' :: r) := by
  unfold quoted
  simp only [List.cons_append, List.append_assoc, List.nil_append]

/-! ### Values -/

/-- The first character of a value: it is neither white space nor a closing bracket. -/
theorem stringify_head (f : NumberFormat ν) (v : Value ν) :
    ∃ c cs, stringify f v = c :: cs ∧ isWhitespace c = false ∧ c ≠ ']' := by
  match v with
  | .null => exact ⟨_, _, rfl, by decide, by decide⟩
  | .bool true => exact ⟨_, _, rfl, by decide, by decide⟩
  | .bool false => exact ⟨_, _, rfl, by decide, by decide⟩
  | .str s => exact ⟨_, _, rfl, by decide, by decide⟩
  | .arr vs => exact ⟨_, _, rfl, by decide, by decide⟩
  | .obj ms => exact ⟨_, _, rfl, by decide, by decide⟩
  | .num x =>
    cases ht : f.text x with
    | nil => exact absurd ht (f.text_ne_nil x)
    | cons c cs =>
      have hc : isNumberChar c = true := f.text_chars x c (by rw [ht]; exact List.mem_cons_self)
      refine ⟨c, cs, ht, ?_, ?_⟩
      · by_contra hw
        rw [Bool.not_eq_false] at hw
        unfold isWhitespace at hw
        simp only [Bool.or_eq_true, decide_eq_true_eq] at hw
        rcases hw with ((rfl | rfl) | rfl) | rfl <;> revert hc <;> decide
      · rintro rfl
        revert hc
        decide

/-- The first character of a number. -/
theorem number_head (f : NumberFormat ν) (x : ν) {r : List Char} {d : Char} {ds : List Char}
    (h : f.text x ++ r = d :: ds) : isNumberChar d = true := by
  cases ht : f.text x with
  | nil => exact absurd ht (f.text_ne_nil x)
  | cons c cs =>
    rw [ht] at h
    injection h with h1 _
    exact h1 ▸ f.text_chars x c (by rw [ht]; exact List.mem_cons_self)

theorem readScalar_number (f : NumberFormat ν) (x : ν) {r : List Char} (hr : Ends r) :
    readScalar f (f.text x ++ r) = some (.num x, r) := by
  obtain ⟨htake, hdrop⟩ := takeWhile_number (f.text_chars x) hr
  unfold readScalar
  split
  · rename_i h; exact absurd (number_head f x h) (by decide)
  · rename_i h; exact absurd (number_head f x h) (by decide)
  · rename_i h; exact absurd (number_head f x h) (by decide)
  · rw [htake, hdrop, f.read_text]
    rfl

theorem moreItems_ends (f : NumberFormat ν) : ∀ (vs : List (Value ν)) (r : List Char), Ends (moreItems f vs ++ r)
  | [], r => ends_cons (by decide)
  | v :: vs, r => ends_cons (by decide)

theorem moreItems_skip (f : NumberFormat ν) : ∀ (vs : List (Value ν)) (r : List Char),
    skip (moreItems f vs ++ r) = moreItems f vs ++ r
  | [], r => skip_cons (by decide)
  | v :: vs, r => skip_cons (by decide)

theorem moreMembers_ends (f : NumberFormat ν) : ∀ (ms : List (String × Value ν)) (r : List Char), Ends (moreMembers f ms ++ r)
  | [], r => ends_cons (by decide)
  | m :: ms, r => ends_cons (by decide)

theorem moreMembers_skip (f : NumberFormat ν) : ∀ (ms : List (String × Value ν)) (r : List Char),
    skip (moreMembers f ms ++ r) = moreMembers f ms ++ r
  | [], r => skip_cons (by decide)
  | m :: ms, r => skip_cons (by decide)

theorem itemsOf_skip (f : NumberFormat ν) : ∀ (vs : List (Value ν)) (r : List Char),
    skip (itemsOf f vs ++ r) = itemsOf f vs ++ r
  | [], r => skip_cons (by decide)
  | v :: vs, r => by
    obtain ⟨c, cs, hc, hw, -⟩ := stringify_head f v
    show skip (stringify f v ++ moreItems f vs ++ r) = stringify f v ++ moreItems f vs ++ r
    rw [hc]
    exact skip_cons hw

theorem membersOf_skip (f : NumberFormat ν) : ∀ (ms : List (String × Value ν)) (r : List Char),
    skip (membersOf f ms ++ r) = membersOf f ms ++ r
  | [], r => skip_cons (by decide)
  | (k, v) :: ms, r => skip_cons (by decide)

mutual

/-- How much fuel reading a value takes. -/
def cost : Value ν → Nat
  | .arr vs => 1 + itemsCost vs
  | .obj ms => 1 + membersCost ms
  | _ => 1

def itemsCost : List (Value ν) → Nat
  | [] => 1
  | v :: vs => 1 + cost v + itemsCost vs

def membersCost : List (String × Value ν) → Nat
  | [] => 1
  | (_, v) :: ms => 2 + cost v + membersCost ms

end

mutual

/-- A value is read off the front of a text that goes on with what ends a number. -/
theorem readValue_stringify (f : NumberFormat ν) : ∀ (v : Value ν) (n : Nat) (r : List Char), cost v ≤ n → Ends r →
    readValue f n (stringify f v ++ r) = some (v, r)
  | v, 0, r, hn, hr => by cases v <;> simp [cost] at hn
  | .null, n + 1, r, hn, hr => rfl
  | .bool true, n + 1, r, hn, hr => rfl
  | .bool false, n + 1, r, hn, hr => rfl
  | .num x, n + 1, r, hn, hr => by
    obtain ⟨c, cs, hc, hw, -⟩ := stringify_head f (.num x)
    have ht : f.text x = c :: cs := hc
    have hskip : skip (f.text x ++ r) = f.text x ++ r := by
      rw [ht]
      exact skip_cons hw
    show readValue f (n + 1) (f.text x ++ r) = _
    unfold readValue
    rw [hskip]
    split
    · rename_i h; exact absurd (number_head f x h) (by decide)
    · rename_i h; exact absurd (number_head f x h) (by decide)
    · rename_i h; exact absurd (number_head f x h) (by decide)
    · exact readScalar_number f x hr
  | .str s, n + 1, r, hn, hr => by
    show readValue f (n + 1) (quoted s ++ r) = _
    rw [quoted_append]
    show (readString (escape s.toList ++ '"' :: r)).map (fun q => (Value.str q.1, q.2)) = _
    rw [readString_escape]
    rfl
  | .arr vs, n + 1, r, hn, hr => by
    have hn' : itemsCost vs ≤ n := by simp only [cost] at hn; omega
    have hitems := readItems_stringify f vs n r hn'
    show (readItems f n (skip (itemsOf f vs ++ r))).map (fun q => (Value.arr q.1, q.2)) = _
    rw [itemsOf_skip, hitems]
    rfl
  | .obj ms, n + 1, r, hn, hr => by
    have hn' : membersCost ms ≤ n := by simp only [cost] at hn; omega
    have hmembers := readMembers_stringify f ms n r hn'
    show (readMembers f n (skip (membersOf f ms ++ r))).map (fun q => (Value.obj q.1, q.2)) = _
    rw [membersOf_skip, hmembers]
    rfl

theorem readItems_stringify (f : NumberFormat ν) : ∀ (vs : List (Value ν)) (n : Nat) (r : List Char), itemsCost vs ≤ n →
    readItems f n (itemsOf f vs ++ r) = some (vs, r)
  | [], 0, r, hn => by simp [itemsCost] at hn
  | v :: vs, 0, r, hn => by simp [itemsCost] at hn
  | [], n + 1, r, hn => rfl
  | v :: vs, n + 1, r, hn => by
    have hv : cost v ≤ n := by simp only [itemsCost] at hn; omega
    have hvs : itemsCost vs ≤ n := by simp only [itemsCost] at hn; omega
    obtain ⟨c, cs, hc, -, hne⟩ := stringify_head f v
    show readItems f (n + 1) (stringify f v ++ moreItems f vs ++ r) = _
    unfold readItems
    rw [if_neg (by rw [hc]; simpa using hne), List.append_assoc,
      readValue_stringify f v n (moreItems f vs ++ r) hv (moreItems_ends f vs r), Option.bind_some,
      moreItems_skip f vs r, readMoreItems_stringify f vs n r hvs]
    rfl

theorem readMoreItems_stringify (f : NumberFormat ν) : ∀ (vs : List (Value ν)) (n : Nat) (r : List Char), itemsCost vs ≤ n →
    readMoreItems f n (moreItems f vs ++ r) = some (vs, r)
  | [], 0, r, hn => by simp [itemsCost] at hn
  | v :: vs, 0, r, hn => by simp [itemsCost] at hn
  | [], n + 1, r, hn => rfl
  | v :: vs, n + 1, r, hn => by
    have hv : cost v ≤ n := by simp only [itemsCost] at hn; omega
    have hvs : itemsCost vs ≤ n := by simp only [itemsCost] at hn; omega
    show (readValue f n (stringify f v ++ moreItems f vs ++ r)).bind
      (fun p => (readMoreItems f n (skip p.2)).map fun q => (p.1 :: q.1, q.2)) = _
    rw [List.append_assoc, readValue_stringify f v n (moreItems f vs ++ r) hv (moreItems_ends f vs r),
      Option.bind_some, moreItems_skip f vs r, readMoreItems_stringify f vs n r hvs]
    rfl

theorem readMember_stringify (f : NumberFormat ν) : ∀ (m : String × Value ν) (n : Nat) (r : List Char), 1 + cost m.2 ≤ n →
    Ends r → readMember f n (memberOf f m ++ r) = some (m, r)
  | (k, v), 0, r, hn, hr => by simp at hn
  | (k, v), n + 1, r, hn, hr => by
    have hv : cost v ≤ n := by simp only at hn; omega
    obtain ⟨c, cs, hc, -, -⟩ := stringify_head f v
    show readMember f (n + 1) ((quoted k ++ ':' :: stringify f v) ++ r) = _
    rw [List.append_assoc, quoted_append]
    show (readString (escape k.toList ++ '"' :: (':' :: stringify f v ++ r))).bind
      (fun k => if (skip k.2).head? = some ':' then
        (readValue f n (skip k.2).tail).map fun q => ((k.1, q.1), q.2) else none) = _
    rw [readString_escape, Option.bind_some]
    show (readValue f n (stringify f v ++ r)).map (fun q => ((k, q.1), q.2)) = _
    rw [readValue_stringify f v n r hv hr]
    rfl

theorem readMembers_stringify (f : NumberFormat ν) : ∀ (ms : List (String × Value ν)) (n : Nat) (r : List Char), membersCost ms ≤ n →
    readMembers f n (membersOf f ms ++ r) = some (ms, r)
  | [], 0, r, hn => by simp [membersCost] at hn
  | m :: ms, 0, r, hn => by simp [membersCost] at hn
  | [], n + 1, r, hn => rfl
  | (k, v) :: ms, n + 1, r, hn => by
    have hv : 1 + cost v ≤ n := by simp only [membersCost] at hn; omega
    have hms : membersCost ms ≤ n := by simp only [membersCost] at hn; omega
    show (readMember f n (memberOf f (k, v) ++ moreMembers f ms ++ r)).bind
      (fun p => (readMoreMembers f n (skip p.2)).map fun q => (p.1 :: q.1, q.2)) = _
    rw [List.append_assoc, readMember_stringify f (k, v) n (moreMembers f ms ++ r) hv (moreMembers_ends f ms r),
      Option.bind_some, moreMembers_skip f ms r, readMoreMembers_stringify f ms n r hms]
    rfl

theorem readMoreMembers_stringify (f : NumberFormat ν) : ∀ (ms : List (String × Value ν)) (n : Nat) (r : List Char), membersCost ms ≤ n →
    readMoreMembers f n (moreMembers f ms ++ r) = some (ms, r)
  | [], 0, r, hn => by simp [membersCost] at hn
  | m :: ms, 0, r, hn => by simp [membersCost] at hn
  | [], n + 1, r, hn => rfl
  | (k, v) :: ms, n + 1, r, hn => by
    have hv : 1 + cost v ≤ n := by simp only [membersCost] at hn; omega
    have hms : membersCost ms ≤ n := by simp only [membersCost] at hn; omega
    show (readMember f n (memberOf f (k, v) ++ moreMembers f ms ++ r)).bind
      (fun p => (readMoreMembers f n (skip p.2)).map fun q => (p.1 :: q.1, q.2)) = _
    rw [List.append_assoc, readMember_stringify f (k, v) n (moreMembers f ms ++ r) hv (moreMembers_ends f ms r),
      Option.bind_some, moreMembers_skip f ms r, readMoreMembers_stringify f ms n r hms]
    rfl

end

mutual

/-- The fuel that the length of the text provides is enough. -/
theorem cost_le (f : NumberFormat ν) : ∀ v : Value ν, cost v ≤ 2 * (stringify f v).length
  | .null => (by decide : 1 ≤ 8)
  | .bool true => (by decide : 1 ≤ 8)
  | .bool false => (by decide : 1 ≤ 10)
  | .num x => by
    have := List.length_pos_of_ne_nil (f.text_ne_nil x)
    show 1 ≤ 2 * (f.text x).length
    omega
  | .str s => by
    show 1 ≤ 2 * ((escape s.toList ++ ['"']).length + 1)
    omega
  | .arr vs => by
    have := itemsCost_le_itemsOf f vs
    show 1 + itemsCost vs ≤ 2 * ((itemsOf f vs).length + 1)
    omega
  | .obj ms => by
    have := membersCost_le_membersOf f ms
    show 1 + membersCost ms ≤ 2 * ((membersOf f ms).length + 1)
    omega

theorem itemsCost_le_itemsOf (f : NumberFormat ν) : ∀ vs : List (Value ν), itemsCost vs ≤ 2 * (itemsOf f vs).length + 1
  | [] => Nat.le_add_left 1 _
  | v :: vs => by
    have hv := cost_le f v
    have hvs := itemsCost_le f vs
    show 1 + cost v + itemsCost vs ≤ 2 * (stringify f v ++ moreItems f vs).length + 1
    rw [List.length_append]
    omega

theorem itemsCost_le (f : NumberFormat ν) : ∀ vs : List (Value ν), itemsCost vs ≤ 2 * (moreItems f vs).length
  | [] => (by decide : 1 ≤ 2)
  | v :: vs => by
    have hv := cost_le f v
    have hvs := itemsCost_le f vs
    show 1 + cost v + itemsCost vs ≤ 2 * ((stringify f v ++ moreItems f vs).length + 1)
    rw [List.length_append]
    omega

theorem membersCost_le_membersOf (f : NumberFormat ν) : ∀ ms : List (String × Value ν),
    membersCost ms ≤ 2 * (membersOf f ms).length + 1
  | [] => Nat.le_add_left 1 _
  | (k, v) :: ms => by
    have hv := cost_le f v
    have hms := membersCost_le f ms
    show 2 + cost v + membersCost ms ≤
      2 * ((quoted k ++ ':' :: stringify f v) ++ moreMembers f ms).length + 1
    rw [List.length_append, List.length_append, List.length_cons]
    omega

theorem membersCost_le (f : NumberFormat ν) : ∀ ms : List (String × Value ν), membersCost ms ≤ 2 * (moreMembers f ms).length
  | [] => (by decide : 1 ≤ 2)
  | (k, v) :: ms => by
    have hv := cost_le f v
    have hms := membersCost_le f ms
    show 2 + cost v + membersCost ms ≤
      2 * (((quoted k ++ ':' :: stringify f v) ++ moreMembers f ms).length + 1)
    rw [List.length_append, List.length_append, List.length_cons]
    omega

end

/-- **`JSON.parse(JSON.stringify(v))` is `v`.** -/
theorem parse_stringify (f : NumberFormat ν) (v : Value ν) : parse f (stringify f v) = some v := by
  have hread := readValue_stringify f v (2 * (stringify f v).length + 2) []
    (by have := cost_le f v; omega) ends_nil
  rw [List.append_nil] at hread
  show (readValue f (2 * (stringify f v).length + 2) (stringify f v)).bind _ = _
  rw [hread]
  rfl

theorem stringify_injective (f : NumberFormat ν) : Function.Injective (stringify f) := by
  intro v w h
  have hv := parse_stringify f v
  rw [h, parse_stringify f w] at hv
  exact (Option.some.inj hv).symm

/-- A property of a parsed object, when its members with that key have one value. -/
theorem Value.member_eq_some {members : List (String × Value ν)} {key : String} {v : Value ν}
    (hmem : (key, v) ∈ members) (hall : ∀ m ∈ members, m.1 = key → m.2 = v) :
    (Value.obj members).member key = some v := by
  unfold Value.member
  cases hf : members.reverse.find? fun m => m.1 = key with
  | none =>
    exfalso
    have := List.find?_eq_none.mp hf (key, v) (List.mem_reverse.mpr hmem)
    simp at this
  | some m =>
    have hm := List.mem_reverse.mp (List.mem_of_find?_eq_some hf)
    have hk : m.1 = key := by simpa using List.find?_some hf
    show (members.reverse.find? fun m => m.1 = key).map (·.2) = some v
    rw [hf, Option.map_some, hall m hm hk]

/-- The same for an object whose keys are distinct. -/
theorem Value.member_of_nodup {members : List (String × Value ν)} {key : String} {v : Value ν}
    (hkeys : (members.map (·.1)).Nodup) (hmem : (key, v) ∈ members) : (Value.obj members).member key = some v := by
  refine Value.member_eq_some hmem fun m hm hk => ?_
  have he : m = (key, v) := List.inj_on_of_nodup_map hkeys hm hmem hk
  rw [he]

/-! ### No control characters -/

theorem escape_printable (s : List Char) : ∀ c ∈ escape s, ¬ c.toNat < 32 := by
  intro c hc
  obtain ⟨d, -, hd⟩ := List.mem_flatMap.mp hc
  have hhex : ∀ n < 16, ¬ (hexDigit n).toNat < 32 := by decide
  rcases escapeChar_cases d with ⟨-, -, he⟩ | ⟨e, he, -, hde⟩ | ⟨hlt, he⟩
  · rw [he, List.mem_singleton] at hd
    rw [hd]
    exact escapeChar_self he
  · rw [he] at hd
    simp only [List.mem_cons, List.not_mem_nil, or_false] at hd
    rcases hd with rfl | rfl
    · decide
    · rcases hde with ⟨rfl, -⟩ | ⟨rfl, -⟩ | ⟨rfl, -⟩ | ⟨rfl, -⟩ | ⟨rfl, -⟩ | ⟨rfl, -⟩ | ⟨rfl, -⟩ <;> decide
  · rw [he] at hd
    simp only [List.mem_cons, List.not_mem_nil, or_false] at hd
    rcases hd with rfl | rfl | rfl | rfl | rfl | rfl
    · decide
    · decide
    · decide
    · decide
    · exact hhex _ (by omega)
    · exact hhex _ (by omega)

theorem quoted_printable (s : String) : ∀ c ∈ quoted s, ¬ c.toNat < 32 := by
  intro c hc
  simp only [quoted, List.mem_cons, List.mem_append, List.not_mem_nil, or_false] at hc
  rcases hc with rfl | hc | rfl
  · decide
  · exact escape_printable _ c hc
  · decide

theorem number_printable {c : Char} (h : isNumberChar c = true) : ¬ c.toNat < 32 := by
  unfold isNumberChar at h
  simp only [Bool.or_eq_true, decide_eq_true_eq] at h
  rcases h with ((((h | rfl) | rfl) | rfl) | rfl) | rfl
  · have h0 : '0'.toNat ≤ c.toNat := by
      unfold Char.isDigit at h
      simp only [Bool.and_eq_true, decide_eq_true_eq] at h
      exact h.1
    exact fun hlt => absurd (Nat.lt_of_le_of_lt h0 hlt) (by decide)
  all_goals decide

theorem printable_of_all {cs : List Char} (h : (cs.all fun c => 32 ≤ c.toNat) = true) : ∀ c ∈ cs, ¬ c.toNat < 32 := by
  intro c hc
  have := of_decide_eq_true (List.all_eq_true.mp h c hc)
  omega

mutual

theorem stringify_printable (f : NumberFormat ν) : ∀ (v : Value ν), ∀ c ∈ stringify f v, ¬ c.toNat < 32
  | .null => printable_of_all rfl
  | .bool true => printable_of_all rfl
  | .bool false => printable_of_all rfl
  | .num x => fun c hc => number_printable (f.text_chars x c hc)
  | .str s => quoted_printable s
  | .arr vs => by
    intro c hc
    rcases List.mem_cons.mp (hc : c ∈ '[' :: itemsOf f vs) with rfl | hc
    · decide
    · exact itemsOf_printable f vs c hc
  | .obj ms => by
    intro c hc
    rcases List.mem_cons.mp (hc : c ∈ '\x7b' :: membersOf f ms) with rfl | hc
    · decide
    · exact membersOf_printable f ms c hc

theorem itemsOf_printable (f : NumberFormat ν) : ∀ (vs : List (Value ν)), ∀ c ∈ itemsOf f vs, ¬ c.toNat < 32
  | [] => printable_of_all rfl
  | v :: vs => by
    intro c hc
    rcases List.mem_append.mp (hc : c ∈ stringify f v ++ moreItems f vs) with hc | hc
    · exact stringify_printable f v c hc
    · exact moreItems_printable f vs c hc

theorem moreItems_printable (f : NumberFormat ν) : ∀ (vs : List (Value ν)), ∀ c ∈ moreItems f vs, ¬ c.toNat < 32
  | [] => printable_of_all rfl
  | v :: vs => by
    intro c hc
    rcases List.mem_cons.mp (hc : c ∈ ',' :: (stringify f v ++ moreItems f vs)) with rfl | hc
    · decide
    rcases List.mem_append.mp hc with hc | hc
    · exact stringify_printable f v c hc
    · exact moreItems_printable f vs c hc

theorem memberOf_printable (f : NumberFormat ν) : ∀ (m : String × Value ν), ∀ c ∈ memberOf f m, ¬ c.toNat < 32
  | (k, v) => by
    intro c hc
    rcases List.mem_append.mp (hc : c ∈ quoted k ++ ':' :: stringify f v) with hc | hc
    · exact quoted_printable k c hc
    rcases List.mem_cons.mp hc with rfl | hc
    · decide
    · exact stringify_printable f v c hc

theorem membersOf_printable (f : NumberFormat ν) : ∀ (ms : List (String × Value ν)), ∀ c ∈ membersOf f ms, ¬ c.toNat < 32
  | [] => printable_of_all rfl
  | (k, v) :: ms => by
    intro c hc
    rcases List.mem_append.mp (hc : c ∈ memberOf f (k, v) ++ moreMembers f ms) with hc | hc
    · exact memberOf_printable f (k, v) c hc
    · exact moreMembers_printable f ms c hc

theorem moreMembers_printable (f : NumberFormat ν) : ∀ (ms : List (String × Value ν)), ∀ c ∈ moreMembers f ms, ¬ c.toNat < 32
  | [] => printable_of_all rfl
  | (k, v) :: ms => by
    intro c hc
    rcases List.mem_cons.mp (hc : c ∈ ',' :: (memberOf f (k, v) ++ moreMembers f ms)) with rfl | hc
    · decide
    rcases List.mem_append.mp hc with hc | hc
    · exact memberOf_printable f (k, v) c hc
    · exact moreMembers_printable f ms c hc

end

/-! ## Natural numbers -/

theorem natText_chars (n : Nat) : ∀ c ∈ natText n, isNumberChar c = true := by
  intro c hc
  unfold isNumberChar
  rw [natText_isDigit c hc]
  rfl

theorem ofDigitChars_natText (n : Nat) : Nat.ofDigitChars 10 (natText n) 0 = n := by
  exact Nat.ofDigitChars_toDigits (by decide) (by decide)

/-- Natural numbers, written in decimal and read only in that form. -/
def decimal : NumberFormat Nat where
  text := natText
  read cs := if natText (Nat.ofDigitChars 10 cs 0) = cs then some (Nat.ofDigitChars 10 cs 0) else none
  text_ne_nil n := by
    obtain ⟨c, cs, hc, -⟩ := natText_head n
    exact hc ▸ List.cons_ne_nil c cs
  text_chars := natText_chars
  read_text n := by rw [ofDigitChars_natText, if_pos rfl]

/-- An integer in decimal. -/
def intText (n : Int) : List Char := if n < 0 then '-' :: natText n.natAbs else natText n.natAbs

theorem intText_injective : Function.Injective intText := by
  intro a b h
  unfold intText at h
  obtain ⟨c, cs, hc, hcd⟩ := natText_head a.natAbs
  obtain ⟨d, ds, hd, hdd⟩ := natText_head b.natAbs
  split at h
  · split at h
    · have := natText_injective (List.cons_inj_right _ |>.mp h)
      omega
    · -- a sign is no digit
      rw [hd] at h
      injection h with h1 _
      exact absurd (h1 ▸ hdd) (by decide)
  · split at h
    · rw [hc] at h
      injection h with h1 _
      exact absurd (h1.symm ▸ hcd) (by decide)
    · have := natText_injective h
      omega

end Json
