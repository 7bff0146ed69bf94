/-
  **The JSON text of a flat array or object determines its values.**

  `JSON.stringify` applied to a flat array of texts, natural numbers and `null`s is `arrayText`, and
  applied to a flat object it is `objectText`; their injectivity is what makes a hash of such a text
  a fingerprint of the values.  The proof composes
  PREFIX CODES: a code can be read off the front of a text when what follows it starts with a
  character that no codeword continues with.

  1. `escapeChar` is a prefix code by itself, so `escape s` is read up to its closing quote;
  2. the decimal digits of a number are read up to the first non-digit;
  3. a scalar is read up to the `,`, `]` or `}` behind it, and so is the whole array or object.
-/
import Mathlib.Data.List.Basic
import Mathlib.Logic.Function.Basic

namespace Json

/-- A scalar of a flat JSON array. -/
inductive Scalar
  | null
  | text (s : List Char)
  | num (n : Nat)
  deriving DecidableEq, Repr

/-! ## Prefix codes -/

/-- `ReadsBefore code T` — a codeword can be read off the front of a text when the rest of the text
    satisfies `T`. -/
def ReadsBefore {α : Type} (code : α → List Char) (T : List Char → Prop) : Prop :=
  ∀ a b r r', T r → T r' → code a ++ r = code b ++ r' → a = b ∧ r = r'

/-- Reading codewords one after another, up to a stop that no codeword starts with. -/
theorem readsBefore_flatMap {α : Type} {code : α → List Char} {stop : Char}
    (h : ReadsBefore code fun _ => True) (hstop : ∀ a, ∃ c cs, code a = c :: cs ∧ c ≠ stop) :
    ∀ (xs ys : List α) (r r' : List Char), xs.flatMap code ++ stop :: r = ys.flatMap code ++ stop :: r' → xs = ys ∧ r = r'
  | [], [], r, r', he => ⟨rfl, by simpa using he⟩
  | [], y :: ys, r, r', he => by
    obtain ⟨c, cs, hc, hne⟩ := hstop y
    simp only [List.flatMap_nil, List.nil_append, List.flatMap_cons, hc, List.cons_append,
      List.cons.injEq] at he
    exact absurd he.1.symm hne
  | x :: xs, [], r, r', he => by
    obtain ⟨c, cs, hc, hne⟩ := hstop x
    simp only [List.flatMap_nil, List.nil_append, List.flatMap_cons, hc, List.cons_append,
      List.cons.injEq] at he
    exact absurd he.1 hne
  | x :: xs, y :: ys, r, r', he => by
    simp only [List.flatMap_cons, List.append_assoc] at he
    obtain ⟨rfl, hrest⟩ := h x y _ _ trivial trivial he
    obtain ⟨rfl, rfl⟩ := readsBefore_flatMap h hstop xs ys r r' hrest
    exact ⟨rfl, rfl⟩

/-! ## Texts -/

def hexDigit (n : Nat) : Char := Nat.digitChar n

/-- One character of a JSON string: the two-character escapes, `\u00XX` for the other control
    characters, and every other character as it is. -/
def escapeChar (c : Char) : List Char :=
  if c = '"' then ['\\', '"']
  else if c = '\\' then ['\\', '\\']
  else if c.toNat = 8 then ['\\', 'b']
  else if c.toNat = 9 then ['\\', 't']
  else if c.toNat = 10 then ['\\', 'n']
  else if c.toNat = 12 then ['\\', 'f']
  else if c.toNat = 13 then ['\\', 'r']
  else if c.toNat < 32 then
    ['\\', 'u', '0', '0', hexDigit (c.toNat / 16), hexDigit (c.toNat % 16)]
  else [c]

def escape (s : List Char) : List Char := s.flatMap escapeChar

theorem hexDigit_injective : ∀ a < 16, ∀ b < 16, hexDigit a = hexDigit b → a = b := by decide

theorem escapeChar_cases (c : Char) :
    (c ≠ '"' ∧ c ≠ '\\' ∧ escapeChar c = [c]) ∨
    (∃ e, escapeChar c = ['\\', e] ∧ e ≠ 'u' ∧ (e = '"' ∧ c = '"' ∨ e = '\\' ∧ c = '\\' ∨
      e = 'b' ∧ c.toNat = 8 ∨ e = 't' ∧ c.toNat = 9 ∨ e = 'n' ∧ c.toNat = 10 ∨
      e = 'f' ∧ c.toNat = 12 ∨ e = 'r' ∧ c.toNat = 13)) ∨
    (c.toNat < 32 ∧ escapeChar c =
      ['\\', 'u', '0', '0', hexDigit (c.toNat / 16), hexDigit (c.toNat % 16)]) := by
  unfold escapeChar
  split
  · rename_i h; exact Or.inr (Or.inl ⟨'"', rfl, by decide, by simp [h]⟩)
  split
  · rename_i h; exact Or.inr (Or.inl ⟨'\\', rfl, by decide, by simp [h]⟩)
  split
  · rename_i h; exact Or.inr (Or.inl ⟨'b', rfl, by decide, by simp [h]⟩)
  split
  · rename_i h; exact Or.inr (Or.inl ⟨'t', rfl, by decide, by simp [h]⟩)
  split
  · rename_i h; exact Or.inr (Or.inl ⟨'n', rfl, by decide, by simp [h]⟩)
  split
  · rename_i h; exact Or.inr (Or.inl ⟨'f', rfl, by decide, by simp [h]⟩)
  split
  · rename_i h; exact Or.inr (Or.inl ⟨'r', rfl, by decide, by simp [h]⟩)
  split
  · rename_i h; exact Or.inr (Or.inr ⟨h, rfl⟩)
  · exact Or.inl ⟨by assumption, by assumption, rfl⟩

theorem eq_of_toNat_eq {c d : Char} (h : c.toNat = d.toNat) : c = d := Char.toNat_inj.mp h

/-- The escape of a character can be read off the front of any text. -/
theorem escapeChar_reads : ReadsBefore escapeChar fun _ => True := by
  intro c d r r' _ _ he
  rcases escapeChar_cases c with ⟨hc1, hc2, hc⟩ | ⟨e, hc, heu, hce⟩ | ⟨hc1, hc⟩ <;>
    rcases escapeChar_cases d with ⟨hd1, hd2, hd⟩ | ⟨f, hd, hfu, hdf⟩ | ⟨hd1, hd⟩ <;>
    rw [hc, hd] at he <;>
    simp only [List.cons_append, List.nil_append, List.cons.injEq, true_and] at he
  · exact he
  · exact absurd he.1 hc2
  · exact absurd he.1 hc2
  · exact absurd he.1.symm hd2
  · -- two short escapes: the letter determines the character
    obtain ⟨rfl, rfl⟩ := he
    refine ⟨?_, rfl⟩
    rcases hce with ⟨rfl, h⟩ | ⟨rfl, h⟩ | ⟨rfl, h⟩ | ⟨rfl, h⟩ | ⟨rfl, h⟩ | ⟨rfl, h⟩ | ⟨rfl, h⟩ <;>
      simp at hdf <;> first
        | exact h.trans hdf.symm
        | exact eq_of_toNat_eq (h.trans hdf.symm)
  · exact absurd he.1 heu
  · exact absurd he.1.symm hd2
  · exact absurd he.1.symm hfu
  · -- two `\u00XX` escapes: the hexadecimal digits determine the code point
    obtain ⟨h1, h2, rfl⟩ := he
    have e1 := hexDigit_injective _ (by omega) _ (by omega) h1
    have e2 := hexDigit_injective _ (by omega) _ (by omega) h2
    exact ⟨eq_of_toNat_eq (by omega), rfl⟩

/-- A quoted text is read up to its closing quote. -/
theorem escape_reads (s t r r' : List Char) (h : escape s ++ '"' :: r = escape t ++ '"' :: r') :
    s = t ∧ r = r' := by
  refine readsBefore_flatMap escapeChar_reads ?_ s t r r' h
  intro c
  rcases escapeChar_cases c with ⟨hc, -, he⟩ | ⟨e, he, -⟩ | ⟨-, he⟩
  · exact ⟨c, [], he, hc⟩
  · exact ⟨'\\', [e], he, by decide⟩
  · exact ⟨'\\', _, he, by decide⟩

/-! ## Numbers -/

/-- The decimal text of a natural number. -/
def natText (n : Nat) : List Char := Nat.toDigits 10 n

theorem natText_isDigit {n : Nat} : ∀ c ∈ natText n, c.isDigit := fun _ hc =>
  Nat.isDigit_of_mem_toDigits (by omega) (by omega) hc

theorem natText_injective : Function.Injective natText := fun a b h => by
  rw [← @Nat.ofDigitChars_ten_toDigits a, ← @Nat.ofDigitChars_ten_toDigits b]
  exact congrArg (Nat.ofDigitChars 10 · 0) h

/-- The rest of a text starts with a character that ends a number. -/
def EndsNumber (r : List Char) : Prop := ∃ c cs, r = c :: cs ∧ c.isDigit = false

theorem digits_read : ∀ (a b r r' : List Char), (∀ c ∈ a, c.isDigit) → (∀ c ∈ b, c.isDigit) →
    EndsNumber r → EndsNumber r' → a ++ r = b ++ r' → a = b ∧ r = r'
  | [], [], _, _, _, _, _, _, h => ⟨rfl, h⟩
  | [], d :: b, r, r', _, hb, ⟨c, cs, hr, hc⟩, _, h => by
    rw [hr] at h
    simp only [List.nil_append, List.cons_append, List.cons.injEq] at h
    have := hb d List.mem_cons_self
    rw [← h.1, hc] at this
    exact absurd this (by simp)
  | d :: a, [], r, r', ha, _, _, ⟨c, cs, hr, hc⟩, h => by
    rw [hr] at h
    simp only [List.nil_append, List.cons_append, List.cons.injEq] at h
    have := ha d List.mem_cons_self
    rw [h.1, hc] at this
    exact absurd this (by simp)
  | c :: a, d :: b, r, r', ha, hb, hr, hr', h => by
    simp only [List.cons_append, List.cons.injEq] at h
    obtain ⟨rfl, h⟩ := h
    obtain ⟨rfl, rfl⟩ := digits_read a b r r' (fun x hx => ha x (List.mem_cons_of_mem _ hx))
      (fun x hx => hb x (List.mem_cons_of_mem _ hx)) hr hr' h
    exact ⟨rfl, rfl⟩

/-! ## Scalars and arrays -/

def scalarText : Scalar → List Char
  | .null => ['n', 'u', 'l', 'l']
  | .text s => '"' :: (escape s ++ ['"'])
  | .num n => natText n

/-- The rest of an array or an object behind one of its scalars. -/
def EndsScalar (r : List Char) : Prop := ∃ c cs, r = c :: cs ∧ (c = ',' ∨ c = ']' ∨ c = '}')

theorem EndsScalar.endsNumber {r : List Char} (h : EndsScalar r) : EndsNumber r := by
  obtain ⟨c, cs, hr, hc | hc | hc⟩ := h
  · exact ⟨c, cs, hr, by rw [hc]; decide⟩
  · exact ⟨c, cs, hr, by rw [hc]; decide⟩
  · exact ⟨c, cs, hr, by rw [hc]; decide⟩

theorem natText_head (n : Nat) : ∃ c cs, natText n = c :: cs ∧ c.isDigit := by
  cases h : natText n with
  | nil => exact absurd h Nat.toDigits_ne_nil
  | cons c cs => exact ⟨c, cs, rfl, natText_isDigit c (by rw [h]; exact List.mem_cons_self)⟩

theorem scalarText_reads : ReadsBefore scalarText EndsScalar := by
  intro a b r r' hr hr' he
  cases a with
  | null =>
    cases b with
    | null => exact ⟨rfl, by simpa [scalarText] using he⟩
    | text t => simp [scalarText] at he
    | num n =>
      obtain ⟨c, cs, hn, hc⟩ := natText_head n
      simp only [scalarText, hn, List.cons_append, List.cons.injEq] at he
      rw [← he.1] at hc
      exact absurd hc (by decide)
  | text s =>
    cases b with
    | null => simp [scalarText] at he
    | text t =>
      simp only [scalarText, List.cons_append, List.append_assoc, List.nil_append,
        List.cons.injEq, true_and] at he
      obtain ⟨rfl, rfl⟩ := escape_reads _ _ _ _ he
      exact ⟨rfl, rfl⟩
    | num n =>
      obtain ⟨c, cs, hn, hc⟩ := natText_head n
      simp only [scalarText, hn, List.cons_append, List.cons.injEq] at he
      rw [← he.1] at hc
      exact absurd hc (by decide)
  | num m =>
    obtain ⟨c, cs, hm, hc⟩ := natText_head m
    cases b with
    | null =>
      simp only [scalarText, hm, List.cons_append, List.cons.injEq] at he
      rw [he.1] at hc
      exact absurd hc (by decide)
    | text t =>
      simp only [scalarText, hm, List.cons_append, List.cons.injEq] at he
      rw [he.1] at hc
      exact absurd hc (by decide)
    | num n =>
      obtain ⟨hd, rfl⟩ := digits_read _ _ _ _ natText_isDigit natText_isDigit hr.endsNumber
        hr'.endsNumber he
      exact ⟨congrArg Scalar.num (natText_injective hd), rfl⟩

/-- The elements of an array behind its first one, with the closing bracket. -/
def tailText : List Scalar → List Char
  | [] => [']']
  | x :: xs => ',' :: (scalarText x ++ tailText xs)

/-- `JSON.stringify` of a flat array. -/
def arrayText : List Scalar → List Char
  | [] => ['[', ']']
  | x :: xs => '[' :: (scalarText x ++ tailText xs)

theorem tailText_ends (xs : List Scalar) : EndsScalar (tailText xs) := by
  cases xs with
  | nil => exact ⟨']', [], rfl, .inr (.inl rfl)⟩
  | cons x xs => exact ⟨',', _, rfl, .inl rfl⟩

theorem tailText_injective : ∀ xs ys, tailText xs = tailText ys → xs = ys
  | [], [], _ => rfl
  | [], y :: ys, h => by simp [tailText] at h
  | x :: xs, [], h => by simp [tailText] at h
  | x :: xs, y :: ys, h => by
    simp only [tailText, List.cons.injEq, true_and] at h
    obtain ⟨rfl, htail⟩ := scalarText_reads x y _ _ (tailText_ends xs) (tailText_ends ys) h
    rw [tailText_injective xs ys htail]

theorem scalarText_ne_bracket (x : Scalar) : ∃ c cs, scalarText x = c :: cs ∧ c ≠ ']' := by
  cases x with
  | null => exact ⟨'n', _, rfl, by decide⟩
  | text s => exact ⟨'"', _, rfl, by decide⟩
  | num n =>
    obtain ⟨c, cs, hn, hc⟩ := natText_head n
    exact ⟨c, cs, hn, by rintro rfl; exact absurd hc (by decide)⟩

/-- **The JSON text of a flat array determines the array.** -/
theorem arrayText_injective : Function.Injective arrayText := by
  intro xs ys h
  cases xs with
  | nil =>
    cases ys with
    | nil => rfl
    | cons y ys =>
      obtain ⟨c, cs, hy, hc⟩ := scalarText_ne_bracket y
      simp only [arrayText, hy, List.cons_append, List.cons.injEq, true_and] at h
      exact absurd h.1.symm hc
  | cons x xs =>
    cases ys with
    | nil =>
      obtain ⟨c, cs, hx, hc⟩ := scalarText_ne_bracket x
      simp only [arrayText, hx, List.cons_append, List.cons.injEq, true_and] at h
      exact absurd h.1 hc
    | cons y ys =>
      simp only [arrayText, List.cons.injEq, true_and] at h
      obtain ⟨rfl, htail⟩ := scalarText_reads x y _ _ (tailText_ends xs) (tailText_ends ys) h
      rw [tailText_injective xs ys htail]

/-! ## Objects -/

/-- One member of an object. -/
def memberText (m : List Char × Scalar) : List Char := '"' :: (escape m.1 ++ '"' :: ':' :: scalarText m.2)

/-- The members of an object behind its first one, with the closing brace. -/
def membersText : List (List Char × Scalar) → List Char
  | [] => ['}']
  | m :: ms => ',' :: (memberText m ++ membersText ms)

/-- `JSON.stringify` of a flat object, its members in the order they were written. -/
def objectText : List (List Char × Scalar) → List Char
  | [] => ['{', '}']
  | m :: ms => '{' :: (memberText m ++ membersText ms)

theorem membersText_ends (ms : List (List Char × Scalar)) : EndsScalar (membersText ms) := by
  cases ms with
  | nil => exact ⟨'}', [], rfl, .inr (.inr rfl)⟩
  | cons m ms => exact ⟨',', _, rfl, .inl rfl⟩

/-- A member is its key up to the closing quote, then its value. -/
theorem memberText_reads : ReadsBefore memberText EndsScalar := by
  rintro ⟨k, v⟩ ⟨k', v'⟩ r r' hr hr' he
  simp only [memberText, List.cons_append, List.append_assoc, List.cons.injEq, true_and] at he
  obtain ⟨rfl, hvalue⟩ := escape_reads _ _ _ _ he
  obtain ⟨rfl, rfl⟩ := scalarText_reads v v' r r' hr hr' (List.cons.inj hvalue).2
  exact ⟨rfl, rfl⟩

theorem membersText_injective : ∀ ms ns, membersText ms = membersText ns → ms = ns
  | [], [], _ => rfl
  | [], n :: ns, h => by simp [membersText] at h
  | m :: ms, [], h => by simp [membersText] at h
  | m :: ms, n :: ns, h => by
    simp only [membersText, List.cons.injEq, true_and] at h
    obtain ⟨rfl, hrest⟩ := memberText_reads m n _ _ (membersText_ends ms) (membersText_ends ns) h
    rw [membersText_injective ms ns hrest]

/-- **The JSON text of a flat object determines its members.** -/
theorem objectText_injective : Function.Injective objectText := by
  intro ms ns h
  cases ms with
  | nil =>
    cases ns with
    | nil => rfl
    | cons n ns => simp [objectText, memberText] at h
  | cons m ms =>
    cases ns with
    | nil => simp [objectText, memberText] at h
    | cons n ns =>
      simp only [objectText, List.cons.injEq, true_and] at h
      obtain ⟨rfl, hrest⟩ := memberText_reads m n _ _ (membersText_ends ms) (membersText_ends ns) h
      rw [membersText_injective ms ns hrest]

end Json
