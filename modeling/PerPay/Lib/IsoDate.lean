/-
  **The date-time format of ECMAScript** — `YYYY-MM-DDTHH:mm:ss.sssZ` and its shorter and longer forms.

  The year has four digits, or a sign and six; month and day may be left out; a time has hours and minutes, perhaps
  seconds, perhaps a fraction of a second; then comes `Z` or an offset.  A field outside its bounds makes the text no
  instance of the format.  An hour 24 is the end of the day.  A fraction has three digits by the letter of the format;
  engines read any number of them, so the fraction is read as one.

  `readDateTime` reads a text of the format, `isoTime` the time it stands for; `toISOString` writes the full form, and
  reading takes it back (`isoTime_toISOString`).  A text without an offset is in local time, and left out here.
-/
import PerPay.Lib.Calendar
import PerPay.Lib.Digits

namespace IsoDate

open Calendar (dayOf civil)

/-- The fields of a date-time; the offset is in minutes. -/
structure DateTime where
  year : Int
  month : Nat
  day : Nat
  hour : Nat
  minute : Nat
  second : Nat
  millisecond : Nat
  offset : Int
  deriving DecidableEq, Repr

/-- Milliseconds since 1970. -/
def DateTime.time (t : DateTime) : Int :=
  dayOf ⟨t.year, t.month, t.day⟩ * 86_400_000 + t.hour * 3_600_000 + t.minute * 60_000 + t.second * 1_000 +
    t.millisecond - t.offset * 60_000

/-- The fields are within their bounds. -/
def DateTime.Valid (t : DateTime) : Prop :=
  Calendar.Civil.Valid ⟨t.year, t.month, t.day⟩ ∧ t.minute ≤ 59 ∧ t.second ≤ 59 ∧
    (t.hour ≤ 23 ∨ t.hour = 24 ∧ t.minute = 0 ∧ t.second = 0 ∧ t.millisecond = 0)

instance (t : DateTime) : Decidable t.Valid := inferInstanceAs (Decidable (_ ∧ _ ∧ _ ∧ _))

/-! ## Reading -/

def readYear : List Char → Option (Int × List Char)
  | '+' :: cs => (Digits.readDigits 6 cs).map fun (year, rest) => ((year : Int), rest)
  | '-' :: cs => (Digits.readDigits 6 cs).bind fun (year, rest) => if year = 0 then none else some (-(year : Int), rest)
  | cs => (Digits.readDigits 4 cs).map fun (year, rest) => ((year : Int), rest)

/-- A month or a day; the first one if it is left out. -/
def readDatePart : List Char → Option (Nat × List Char)
  | '-' :: cs => Digits.readDigits 2 cs
  | cs => some (1, cs)

def readChar (c : Char) : List Char → Option (List Char)
  | [] => none
  | d :: cs => if d = c then some cs else none

/-- The milliseconds that the digits of a fraction stand for. -/
def fractionMilliseconds (digits : List Char) : Nat :=
  Nat.ofDigitChars 10 ((digits ++ List.replicate (3 - digits.length) '0').take 3) 0

def readFraction : List Char → Option (Nat × List Char)
  | '.' :: cs =>
    if cs.takeWhile Char.isDigit = [] then none
    else some (fractionMilliseconds (cs.takeWhile Char.isDigit), cs.dropWhile Char.isDigit)
  | cs => some (0, cs)

/-- Seconds and milliseconds; both may be left out. -/
def readSeconds : List Char → Option (Nat × Nat × List Char)
  | ':' :: cs => do
    let (second, cs) ← Digits.readDigits 2 cs
    let (millisecond, cs) ← readFraction cs
    some (second, millisecond, cs)
  | cs => some (0, 0, cs)

/-- The offset, up to the end of the text. -/
def readOffset : List Char → Option Int
  | ['Z'] => some 0
  | sign :: cs => do
    if sign ≠ '+' ∧ sign ≠ '-' then none
    let (hour, cs) ← Digits.readDigits 2 cs
    let cs ← readChar ':' cs
    let (minute, cs) ← Digits.readDigits 2 cs
    if cs = [] ∧ hour ≤ 23 ∧ minute ≤ 59 then
      some (if sign = '-' then -((hour * 60 + minute : Nat) : Int) else ((hour * 60 + minute : Nat) : Int))
    else none
  | [] => none

def readDateTime (text : List Char) : Option DateTime := do
  let (year, cs) ← readYear text
  let (month, cs) ← readDatePart cs
  let (day, cs) ← readDatePart cs
  let cs ← readChar 'T' cs
  let (hour, cs) ← Digits.readDigits 2 cs
  let cs ← readChar ':' cs
  let (minute, cs) ← Digits.readDigits 2 cs
  let (second, millisecond, cs) ← readSeconds cs
  let offset ← readOffset cs
  some { year, month, day, hour, minute, second, millisecond, offset }

/-- The time of a text of the format. -/
def isoTime (text : List Char) : Option Int :=
  (readDateTime text).bind fun t => if t.Valid then some t.time else none

/-! ## Writing -/

def yearText (year : Int) : List Char :=
  if 0 ≤ year ∧ year ≤ 9999 then Digits.pad 4 year.toNat
  else if year < 0 then '-' :: Digits.pad 6 (-year).toNat
  else '+' :: Digits.pad 6 year.toNat

/-- `new Date(milliseconds).toISOString()`, for a time a `Date` can hold. -/
def toISOString (milliseconds : Int) : List Char :=
  yearText (civil (milliseconds / 86_400_000)).year ++
    '-' :: (Digits.pad 2 (civil (milliseconds / 86_400_000)).month ++
    '-' :: (Digits.pad 2 (civil (milliseconds / 86_400_000)).day ++
    'T' :: (Digits.pad 2 (milliseconds % 86_400_000 / 3_600_000).toNat ++
    ':' :: (Digits.pad 2 (milliseconds % 3_600_000 / 60_000).toNat ++
    ':' :: (Digits.pad 2 (milliseconds % 60_000 / 1_000).toNat ++
    '.' :: (Digits.pad 3 (milliseconds % 1_000).toNat ++ ['Z']))))))

/-! ## Reading takes writing back -/

theorem readDigits_pad_of_lt {w n : Nat} (h : n < 10 ^ w) (rest : List Char) :
    Digits.readDigits w (Digits.pad w n ++ rest) = some (n, rest) := by
  rw [Digits.readDigits_pad, Nat.mod_eq_of_lt h]

/-- A text that begins with four digits begins with no sign. -/
theorem readYear_of_readDigits {cs rest : List Char} {n : Nat} (h : Digits.readDigits 4 cs = some (n, rest)) :
    readYear cs = some ((n : Int), rest) := by
  cases cs with
  | nil => exact nomatch h
  | cons c cs =>
    have hdigit : c.isDigit = true := by
      have hpad := Digits.pad_of_readDigits h
      rw [Digits.pad, List.cons_append] at hpad
      refine Digits.isDigit_of_mem_pad (w := 4) (n := n) ?_
      rw [(List.cons.inj hpad).1]
      exact List.mem_cons_self
    have hplus : c ≠ '+' := by
      rintro rfl
      exact absurd hdigit (by decide)
    have hminus : c ≠ '-' := by
      rintro rfl
      exact absurd hdigit (by decide)
    unfold readYear
    split
    · next heq => exact absurd (List.cons.inj heq).1 hplus
    · next heq => exact absurd (List.cons.inj heq).1 hminus
    · rw [h]
      rfl

theorem readYear_yearText {year : Int} (h : year.natAbs < 10 ^ 6) (rest : List Char) :
    readYear (yearText year ++ rest) = some (year, rest) := by
  unfold yearText
  split
  · next hshort =>
    have hlt : year.toNat < 10 ^ 4 := by omega
    rw [readYear_of_readDigits (readDigits_pad_of_lt hlt rest), Int.toNat_of_nonneg hshort.1]
  · split
    · next hnegative =>
      show ((Digits.readDigits 6 (Digits.pad 6 (-year).toNat ++ rest)).bind _) = _
      rw [readDigits_pad_of_lt (by omega), Option.bind_some]
      show (if (-year).toNat = 0 then none else some (-((-year).toNat : Int), rest)) = _
      rw [if_neg (by omega), Int.toNat_of_nonneg (by omega), Int.neg_neg]
    · show ((Digits.readDigits 6 (Digits.pad 6 year.toNat ++ rest)).map _) = _
      rw [readDigits_pad_of_lt (by omega)]
      show some ((year.toNat : Int), rest) = _
      rw [Int.toNat_of_nonneg (by omega)]

theorem takeWhile_isDigit {digits rest : List Char} (h : ∀ c ∈ digits, c.isDigit = true)
    (hrest : rest.head?.any Char.isDigit = false) :
    (digits ++ rest).takeWhile Char.isDigit = digits ∧ (digits ++ rest).dropWhile Char.isDigit = rest := by
  have hnil : rest.takeWhile Char.isDigit = [] ∧ rest.dropWhile Char.isDigit = rest := by
    cases rest with
    | nil => exact ⟨rfl, rfl⟩
    | cons c rest =>
      have hc : c.isDigit = false := hrest
      exact ⟨List.takeWhile_cons_of_neg (by simp [hc]), List.dropWhile_cons_of_neg (by simp [hc])⟩
  constructor
  · rw [List.takeWhile_append_of_pos h, hnil.1, List.append_nil]
  · rw [List.dropWhile_append_of_pos h, hnil.2]

theorem readFraction_pad {n : Nat} (h : n < 1000) : readFraction ('.' :: (Digits.pad 3 n ++ ['Z'])) = some (n, ['Z']) := by
  obtain ⟨htake, hdrop⟩ := @takeWhile_isDigit _ ['Z'] (fun _ => Digits.isDigit_of_mem_pad (w := 3) (n := n)) (by decide)
  show (if _ then _ else _) = _
  rw [htake, hdrop, if_neg (by rw [← List.length_eq_zero_iff, Digits.length_pad]; decide)]
  have hall : ∀ n < 1000, fractionMilliseconds (Digits.pad 3 n) = n := by decide +kernel
  rw [hall n h]

/-- **Round trip**: the year of the time has six digits at most. -/
theorem isoTime_toISOString {milliseconds : Int} (h : (civil (milliseconds / 86_400_000)).year.natAbs < 10 ^ 6) :
    isoTime (toISOString milliseconds) = some milliseconds := by
  obtain ⟨hmonth, hmonth', hday, hday'⟩ := Calendar.civil_valid (milliseconds / 86_400_000)
  have hday31 : (civil (milliseconds / 86_400_000)).day ≤ 31 := by
    have hall : ∀ leap : Bool, ∀ m < 13, 1 ≤ m → Calendar.daysInMonth leap m ≤ 31 := by decide
    have hbound := hall (Calendar.isLeap (civil (milliseconds / 86_400_000)).year) _ (by omega) hmonth
    omega
  have hread : readDateTime (toISOString milliseconds) =
      some ⟨(civil (milliseconds / 86_400_000)).year, (civil (milliseconds / 86_400_000)).month,
        (civil (milliseconds / 86_400_000)).day, (milliseconds % 86_400_000 / 3_600_000).toNat,
        (milliseconds % 3_600_000 / 60_000).toNat, (milliseconds % 60_000 / 1_000).toNat, (milliseconds % 1_000).toNat, 0⟩ := by
    unfold readDateTime toISOString
    rw [readYear_yearText h]
    simp only [Option.bind_eq_bind, Option.bind_some, readDatePart]
    rw [readDigits_pad_of_lt (by omega)]
    simp only [Option.bind_some]
    rw [readDigits_pad_of_lt (by omega)]
    simp only [Option.bind_some, readChar, if_true]
    rw [readDigits_pad_of_lt (by omega)]
    simp only [Option.bind_some, if_true]
    rw [readDigits_pad_of_lt (by omega)]
    simp only [Option.bind_some, readSeconds, Option.bind_eq_bind]
    rw [readDigits_pad_of_lt (by omega)]
    simp only [Option.bind_some]
    rw [readFraction_pad (by omega)]
    rfl
  unfold isoTime
  rw [hread, Option.bind_some, if_pos]
  · refine congrArg some ?_
    show dayOf (civil (milliseconds / 86_400_000)) * 86_400_000 +
      ((milliseconds % 86_400_000 / 3_600_000).toNat : Int) * 3_600_000 +
      ((milliseconds % 3_600_000 / 60_000).toNat : Int) * 60_000 + ((milliseconds % 60_000 / 1_000).toNat : Int) * 1_000 +
      ((milliseconds % 1_000).toNat : Int) - 0 * 60_000 = milliseconds
    rw [Calendar.dayOf_civil, Int.toNat_of_nonneg (by omega), Int.toNat_of_nonneg (by omega),
      Int.toNat_of_nonneg (by omega), Int.toNat_of_nonneg (by omega)]
    omega
  · refine ⟨⟨hmonth, hmonth', hday, hday'⟩, ?_, ?_, .inl ?_⟩
    · show (milliseconds % 3_600_000 / 60_000).toNat ≤ 59
      omega
    · show (milliseconds % 60_000 / 1_000).toNat ≤ 59
      omega
    · show (milliseconds % 86_400_000 / 3_600_000).toNat ≤ 23
      omega

end IsoDate
