/-
  **The windows of a scan** (`ledger/model.ts`).

  A window is bounded by two provider timestamps.  A scan whose window holds too many results splits it in
  the middle: the mean of the two instants is computed in milliseconds, rounded down to a second, formatted
  eight hours ahead and parsed again when its turn comes.

  1. The provider timestamps are the texts of whole seconds between the years 2000 and 9999 in China
     Standard Time; formatting and parsing them are inverse (`parse_format`, `format_of_parse`), and later
     seconds have later texts (`format_lt`).
  2. So a valid window is a number of seconds, and a split halves it (`splitLedgerWindow_halves`).
  3. What is split again and again from a window of `n` seconds is a tree of depth at most `clog 2 n`
     (`Descends.depth_le`).
-/
import Mathlib.Data.List.GetD
import Mathlib.Data.List.TakeWhile
import Mathlib.Data.Nat.Log
import Mathlib.Data.String.Basic
import PerPay.Ledger.Texts
import PerPay.Lib.IsoDate

namespace PerPay.Ledger

open Calendar Digits

/-! ## Texts of seconds -/

/-- The fields of a provider timestamp, each in its width. -/
def fieldsText (year month day hour minute second : Nat) : List Char :=
  pad 4 year ++ '-' :: (pad 2 month ++ '-' :: (pad 2 day ++ ' ' ::
    (pad 2 hour ++ ':' :: (pad 2 minute ++ ':' :: pad 2 second))))

/-- The date in China Standard Time of a second since the epoch. -/
def chinaDate (second : Nat) : Civil := civil ((second + 28_800) / 86_400 : Nat)

/-- The seconds that provider timestamps stand for. -/
def Nameable (second : Nat) : Prop := 2000 ≤ (chinaDate second).year ∧ (chinaDate second).year ≤ 9999

/-- The fields of a second. -/
def secondText (second : Nat) : List Char :=
  fieldsText (chinaDate second).year.toNat (chinaDate second).month (chinaDate second).day
    ((second + 28_800) / 3_600 % 24) ((second + 28_800) / 60 % 60) ((second + 28_800) % 60)

theorem isWhitespace_of_digit {c : Char} (h : c.isDigit = true) : isWhitespace c = false := by
  have hbounds : 48 ≤ c.toNat ∧ c.toNat ≤ 57 := by
    simp only [Char.isDigit, Bool.and_eq_true, decide_eq_true_eq, ge_iff_le, UInt32.le_iff_toNat_le] at h
    exact h
  unfold isWhitespace
  simp only [List.mem_cons, List.not_mem_nil, or_false, Bool.or_eq_false_iff, decide_eq_false_iff_not,
    Bool.and_eq_false_iff, not_or]
  omega

theorem digitChar_isDigit (n : Nat) : (Nat.digitChar (n % 10)).isDigit = true :=
  isDigit_of_mem_pad (w := 1) (n := n) (by rw [pad, pad, Nat.pow_zero, Nat.div_one]; exact List.mem_cons_self)

/-- A text of four digits is the number's own. -/
theorem natText_year {year : Nat} (h : 1000 ≤ year) (h' : year ≤ 9999) : Json.natText year = pad 4 year := by
  unfold Json.natText
  rw [Nat.toDigits_of_base_le (by omega) (by omega), Nat.toDigits_of_base_le (by omega) (by omega),
    Nat.toDigits_of_base_le (by omega) (by omega), Nat.toDigits_of_lt_base (by omega)]
  simp only [pad, List.cons_append, List.nil_append, Nat.pow_zero, Nat.div_one, Nat.div_div_eq_div_mul]
  rw [Nat.mod_eq_of_lt (by omega : year / 10 ^ 3 < 10)]
  rfl

theorem lt_of_nameable {second : Nat} (h : Nameable second) : second < 253_402_300_800 := by
  by_contra hlt
  have hday : (2_932_897 : Int) ≤ ((second + 28_800) / 86_400 : Nat) := by omega
  have hyear := yearOf_mono hday
  have hlast : yearOf 2_932_897 = 10_000 := by decide
  have h' : yearOf ((second + 28_800) / 86_400 : Nat) ≤ 9999 := h.2
  omega

theorem day_le_31 (second : Nat) : (chinaDate second).day ≤ 31 := by
  obtain ⟨hmonth, hmonth', -, hday⟩ := civil_valid ((second + 28_800) / 86_400 : Nat)
  have hdays : ∀ leap month, 1 ≤ month → month ≤ 12 → daysInMonth leap month ≤ 31 := by
    intro leap month h1 h12
    cases leap <;> interval_cases month <;> decide
  have hmost := hdays (isLeap (civil ((second + 28_800) / 86_400 : Nat)).year) _ hmonth hmonth'
  unfold chinaDate
  omega

theorem formatChinaTime_eq {second : Nat} (h : Nameable second) :
    formatChinaTime (second * 1_000) = String.ofList (secondText second) := by
  have hlt := lt_of_nameable h
  have hseconds : (second * 1_000 + 8 * 60 * 60 * 1_000) / 1_000 = second + 28_800 := by omega
  have hyear : 1000 ≤ (chinaDate second).year.toNat ∧ (chinaDate second).year.toNat ≤ 9999 := by
    have := h.1
    have := h.2
    omega
  unfold chinaDate at hyear
  unfold formatChinaTime
  dsimp only
  rw [hseconds, if_neg (by unfold maxTimeValue; omega), natText_year hyear.1 hyear.2]
  unfold secondText fieldsText chinaDate
  simp only [List.append_assoc, List.cons_append]

/-! ### The shape of a provider timestamp -/

section Shape

variable (year month day hour minute second : Nat)

theorem length_fieldsText : (fieldsText year month day hour minute second).length = 19 := by
  simp only [fieldsText, List.length_append, List.length_cons, length_pad]

theorem hasProviderShape_fieldsText : hasProviderShape (String.ofList (fieldsText year month day hour minute second)) = true := by
  unfold hasProviderShape
  dsimp only
  rw [String.toList_ofList, length_fieldsText]
  simp only [fieldsText, pad, List.cons_append, List.nil_append, Nat.pow_zero, Nat.div_one]
  simp [List.range_succ, Nat.mod_lt]

end Shape

/-- Trimming leaves a provider timestamp alone. -/
theorem trim_of_shape {value : String} (h : hasProviderShape value = true) : trim value = value := by
  obtain ⟨hlength, hcharacters⟩ := Bool.and_eq_true_iff.mp h
  have hlength := of_decide_eq_true hlength
  have hdigit : ∀ i, i = 0 ∨ i = 18 → (hi : i < value.toList.length) → ¬ isWhitespace value.toList[i] = true := by
    intro i hends hi
    have hcharacter := List.all_eq_true.mp hcharacters i (List.mem_range.mpr (by omega))
    dsimp only at hcharacter
    rw [if_neg (by omega), if_neg (by omega), if_neg (by omega), List.getD_eq_getElem _ _ hi] at hcharacter
    rw [isWhitespace_of_digit hcharacter]
    exact Bool.false_ne_true
  have hhead : value.toList.dropWhile isWhitespace = value.toList :=
    List.dropWhile_eq_self_iff.mpr fun hpos => hdigit 0 (.inl rfl) hpos
  have hlast : value.toList.reverse.dropWhile isWhitespace = value.toList.reverse := by
    refine List.dropWhile_eq_self_iff.mpr fun hpos => ?_
    rw [List.getElem_reverse]
    exact hdigit _ (.inr (by omega)) (by omega)
  unfold trim
  rw [hhead, hlast, List.reverse_reverse, String.ofList_toList]

/-- The expression reads the fields back. -/
theorem readTimestamp_fieldsText {year month day hour minute second : Nat} (hyear : year < 10_000) (hmonth : month < 100)
    (hday : day < 100) (hhour : hour < 100) (hminute : minute < 100) (hsecond : second < 100) :
    readTimestamp (fieldsText year month day hour minute second) =
      some { year, month, day, hour, minute, second, fraction := none, offset := none } := by
  have hlast : readDigits 2 (pad 2 second) = some (second, []) := by
    have h := @IsoDate.readDigits_pad_of_lt 2 second hsecond []
    rwa [List.append_nil] at h
  unfold readTimestamp
  refine Option.bind_eq_some_iff.mpr ⟨_, IsoDate.readDigits_pad_of_lt hyear _, ?_⟩
  refine Option.bind_eq_some_iff.mpr ⟨_, rfl, ?_⟩
  refine Option.bind_eq_some_iff.mpr ⟨_, IsoDate.readDigits_pad_of_lt hmonth _, ?_⟩
  refine Option.bind_eq_some_iff.mpr ⟨_, rfl, ?_⟩
  refine Option.bind_eq_some_iff.mpr ⟨_, IsoDate.readDigits_pad_of_lt hday _, ?_⟩
  refine Option.bind_eq_some_iff.mpr ⟨_, rfl, ?_⟩
  refine Option.bind_eq_some_iff.mpr ⟨_, IsoDate.readDigits_pad_of_lt hhour _, ?_⟩
  refine Option.bind_eq_some_iff.mpr ⟨_, rfl, ?_⟩
  refine Option.bind_eq_some_iff.mpr ⟨_, IsoDate.readDigits_pad_of_lt hminute _, ?_⟩
  refine Option.bind_eq_some_iff.mpr ⟨_, rfl, ?_⟩
  exact Option.bind_eq_some_iff.mpr ⟨_, hlast, rfl⟩

/-- What the expression read, where a provider timestamp ends. -/
theorem fieldsText_of_readTimestamp {text : List Char} {p : TimestampParts} (hshape : hasProviderShape (String.ofList text) = true)
    (h : readTimestamp text = some p) :
    text = fieldsText p.year p.month p.day p.hour p.minute p.second ∧ p.year < 10_000 ∧ p.fraction = none ∧
      p.offset = none := by
  obtain ⟨hlength, hcharacters⟩ := Bool.and_eq_true_iff.mp hshape
  rw [String.toList_ofList] at hlength hcharacters
  have hchar : ∀ {c : Char} {cs cs' : List Char}, readChar c cs = some cs' → cs = c :: cs' := by
    intro c cs cs' hread
    cases cs with
    | nil => exact nomatch hread
    | cons d cs =>
      rw [readChar] at hread
      split at hread
      next heq => rw [heq, Option.some.inj hread]
      · exact nomatch hread
  unfold readTimestamp at h
  obtain ⟨⟨year, cs1⟩, hyear, h⟩ := Option.bind_eq_some_iff.mp h
  obtain ⟨cs2, hdash, h⟩ := Option.bind_eq_some_iff.mp h
  obtain ⟨⟨month, cs3⟩, hmonth, h⟩ := Option.bind_eq_some_iff.mp h
  obtain ⟨cs4, hdash', h⟩ := Option.bind_eq_some_iff.mp h
  obtain ⟨⟨day, cs5⟩, hday, h⟩ := Option.bind_eq_some_iff.mp h
  have hdate : text = pad 4 year ++ '-' :: (pad 2 month ++ '-' :: (pad 2 day ++ cs5)) := by
    rw [pad_of_readDigits hyear, hchar hdash, pad_of_readDigits hmonth, hchar hdash', pad_of_readDigits hday]
  -- the shape has a blank between the date and the time
  obtain ⟨cs6, rfl⟩ : ∃ cs6, cs5 = ' ' :: cs6 := by
    have hten := List.all_eq_true.mp hcharacters 10 (by decide)
    rw [hdate] at hten
    cases cs5 with
    | nil => exact absurd hten (by simp [pad])
    | cons separator cs6 =>
      have hblank : separator = ' ' := by simpa [pad] using hten
      exact ⟨cs6, by rw [hblank]⟩
  obtain ⟨_, hseparator, h⟩ := Option.bind_eq_some_iff.mp h
  obtain rfl := Option.some.inj hseparator
  obtain ⟨⟨hour, cs7⟩, hhour, h⟩ := Option.bind_eq_some_iff.mp h
  obtain ⟨cs8, hcolon, h⟩ := Option.bind_eq_some_iff.mp h
  obtain ⟨⟨minute, cs9⟩, hminute, h⟩ := Option.bind_eq_some_iff.mp h
  obtain ⟨cs10, hcolon', h⟩ := Option.bind_eq_some_iff.mp h
  obtain ⟨⟨second, cs11⟩, hsecond, h⟩ := Option.bind_eq_some_iff.mp h
  rw [pad_of_readDigits hhour, hchar hcolon, pad_of_readDigits hminute, hchar hcolon', pad_of_readDigits hsecond] at hdate
  -- and room for nothing else
  have hnil : cs11 = [] := by
    have hlength := of_decide_eq_true hlength
    rw [hdate] at hlength
    simp only [List.length_append, List.length_cons, length_pad] at hlength
    exact List.length_eq_zero_iff.mp (by omega)
  subst hnil
  rw [List.append_nil] at hdate
  obtain rfl : TimestampParts.mk year month day hour minute second none none = p := Option.some.inj h
  exact ⟨hdate, readDigits_lt hyear, rfl, rfl⟩

/-! ### Formatting and parsing -/

/-- The parts of a provider timestamp. -/
def localParts (year month day hour minute second : Nat) : TimestampParts :=
  { year, month, day, hour, minute, second, fraction := none, offset := none }

theorem utcDay_localParts {date : Civil} (hyear : 100 ≤ date.year) (hour minute second : Nat) :
    utcDay (localParts date.year.toNat date.month date.day hour minute second) = dayOf date := by
  unfold utcDay localParts
  dsimp only
  rw [if_neg (by omega), Int.toNat_of_nonneg (by omega)]

/-- Parsing the fields of a valid date and time. -/
theorem parse_fieldsText {year month day hour minute second : Nat} (hyear : year < 10_000) (hmonth : month < 100)
    (hday : day < 100) (hhour : hour < 100) (hminute : minute < 100) (hsecond : second < 100)
    (hvalid : (localParts year month day hour minute second).invalid = false) :
    parseOccurredAt (some (String.ofList (fieldsText year month day hour minute second))) =
      (occurredAtOf (localParts year month day hour minute second) 480).map (·.milliseconds) := by
  have hne : fieldsText year month day hour minute second ≠ [] := by
    intro hnil
    have hlength := length_fieldsText year month day hour minute second
    rw [hnil] at hlength
    exact nomatch hlength
  unfold parseOccurredAt parseOccurredAtWithPrecision
  dsimp only
  rw [trim_of_shape (hasProviderShape_fieldsText year month day hour minute second), String.toList_ofList, if_neg hne,
    readTimestamp_fieldsText hyear hmonth hday hhour hminute hsecond]
  dsimp only
  rw [show TimestampParts.mk year month day hour minute second none none =
    localParts year month day hour minute second from rfl, hvalid, if_neg Bool.false_ne_true]
  show (occurredAtOf (localParts year month day hour minute second) 480 >>= fun parsed => pure parsed.milliseconds) = _
  cases occurredAtOf (localParts year month day hour minute second) 480 <;> rfl

/-- **What is formatted parses back to the same instant.** -/
theorem parse_format {second : Nat} (h : Nameable second) :
    parseOccurredAt (some (formatChinaTime (second * 1_000))) = .ok (second * 1_000) := by
  have hlt := lt_of_nameable h
  obtain ⟨hfirst, hlast⟩ := h
  obtain ⟨hmonth, hmonth', -, -⟩ := civil_valid ((second + 28_800) / 86_400 : Nat)
  have hday := day_le_31 second
  have hutc : ∀ hour minute sec, utcDay (localParts (chinaDate second).year.toNat (chinaDate second).month
      (chinaDate second).day hour minute sec) = ((second + 28_800) / 86_400 : Nat) := by
    intro hour minute sec
    rw [utcDay_localParts (by omega)]
    exact dayOf_civil _
  have hyear : ((chinaDate second).year.toNat : Int) = (chinaDate second).year := Int.toNat_of_nonneg (by omega)
  have hdate : (Civil.mk ((chinaDate second).year.toNat : Int) (chinaDate second).month (chinaDate second).day) =
      chinaDate second := by rw [hyear]
  change 1 ≤ (chinaDate second).month at hmonth
  change (chinaDate second).month ≤ 12 at hmonth'
  have hvalid : (localParts (chinaDate second).year.toNat (chinaDate second).month (chinaDate second).day
      ((second + 28_800) / 3_600 % 24) ((second + 28_800) / 60 % 60) ((second + 28_800) % 60)).invalid = false := by
    unfold TimestampParts.invalid
    rw [hutc]
    have hkept : decide (civil ((second + 28_800) / 86_400 : Nat) ≠
        ⟨((chinaDate second).year.toNat : Int), (chinaDate second).month, (chinaDate second).day⟩) = false := by
      rw [hdate]
      exact decide_eq_false fun hne => hne rfl
    refine Bool.or_eq_false_iff.mpr ⟨?_, hkept⟩
    simp only [localParts, Bool.or_eq_false_iff, Bool.and_eq_false_iff]
    refine ⟨⟨⟨⟨⟨.inr (decide_eq_false ?_), decide_eq_false ?_⟩, decide_eq_false ?_⟩, decide_eq_false ?_⟩,
      decide_eq_false ?_⟩, decide_eq_false ?_⟩ <;> omega
  rw [formatChinaTime_eq ⟨hfirst, hlast⟩, secondText, parse_fieldsText (by omega) (by omega) (by omega) (by omega)
    (by omega) (by omega) hvalid]
  have hmilliseconds : occurredAtOf (localParts (chinaDate second).year.toNat (chinaDate second).month
      (chinaDate second).day ((second + 28_800) / 3_600 % 24) ((second + 28_800) / 60 % 60) ((second + 28_800) % 60)) 480 =
      .ok ⟨second * 1_000, 1_000⟩ := by
    unfold occurredAtOf
    rw [hutc]
    have hfraction : fractionMilliseconds none = 0 := rfl
    have hvalue : (((second + 28_800) / 86_400 : Nat) : Int) * 86_400_000 +
        (((second + 28_800) / 3_600 % 24 : Nat) : Int) * 3_600_000 + (((second + 28_800) / 60 % 60 : Nat) : Int) * 60_000 +
        (((second + 28_800) % 60 : Nat) : Int) * 1_000 + ((0 : Nat) : Int) - 480 * 60_000 = (second * 1_000 : Nat) := by omega
    simp only [localParts, hfraction, hvalue, precisionFromFraction, Int.toNat_natCast]
    rw [if_neg]
    rintro (hneg | hunsafe)
    · omega
    · simp only [isSafeInteger, maxSafeInteger, Bool.not_eq_true'] at hunsafe
      have := of_decide_eq_false hunsafe
      omega
  rw [hmilliseconds]
  rfl

/-- **What parses is what is formatted**: a provider timestamp is the text of the second it stands for. -/
theorem format_of_parse {value : String} {milliseconds : Nat} (hshape : hasProviderShape value = true)
    (h : parseOccurredAt (some value) = .ok milliseconds) :
    ∃ second, Nameable second ∧ milliseconds = second * 1_000 ∧ value = formatChinaTime (second * 1_000) := by
  obtain ⟨⟨parsed, precision⟩, hparsed, hmilliseconds⟩ := Txn.except_bind_ok.mp h
  obtain rfl := Except.ok.inj hmilliseconds
  unfold parseOccurredAtWithPrecision at hparsed
  dsimp only at hparsed
  split at hparsed
  · exact nomatch hparsed
  split at hparsed
  · exact nomatch hparsed
  next p hread =>
  split at hparsed
  · exact nomatch hparsed
  next hvalid =>
  obtain ⟨offset, hoffset, htime⟩ := Txn.except_bind_ok.mp hparsed
  rw [trim_of_shape hshape] at hread
  have hshape' : hasProviderShape (String.ofList value.toList) = true := by rwa [String.ofList_toList]
  obtain ⟨htext, hyear, hfraction, hlocal⟩ := fieldsText_of_readTimestamp hshape' hread
  obtain ⟨year, month, day, hour, minute, sec, fraction, zone⟩ := p
  dsimp only at hfraction hlocal htext hoffset htime hyear
  subst hfraction hlocal
  obtain rfl := Except.ok.inj hoffset
  -- what the checks leave of the parts
  simp only [TimestampParts.invalid, Bool.not_eq_true, Bool.or_eq_false_iff, Bool.and_eq_false_iff] at hvalid
  obtain ⟨⟨⟨⟨⟨⟨hcentury, hmonth⟩, hmonth'⟩, hhour⟩, hminute⟩, hsec⟩, hkept⟩ := hvalid
  have hcentury : 2000 ≤ year := by
    rcases hcentury with hnone | hcentury
    · exact nomatch hnone
    · exact Nat.not_lt.mp (of_decide_eq_false hcentury)
  have hhour := of_decide_eq_false hhour
  have hminute := of_decide_eq_false hminute
  have hsec := of_decide_eq_false hsec
  have hdate : civil (utcDay (localParts year month day hour minute sec)) = ⟨year, month, day⟩ :=
    not_not.mp (of_decide_eq_false hkept)
  change occurredAtOf (localParts year month day hour minute sec) (8 * 60) = _ at htime
  unfold occurredAtOf at htime
  have hfraction : fractionMilliseconds (localParts year month day hour minute sec).fraction = 0 := rfl
  rw [hfraction] at htime
  generalize hutc : utcDay (localParts year month day hour minute sec) = utc at htime hdate
  dsimp only [localParts] at htime
  split at htime
  · exact nomatch htime
  next hsafe =>
  have hpositive := Int.not_lt.mp fun hneg => hsafe (.inl hneg)
  have htime := congrArg ParsedOccurredAt.milliseconds (Except.ok.inj htime)
  dsimp only at htime
  -- the second of the day, counted from the epoch
  obtain ⟨second, hsecond⟩ : ∃ second : Nat, (second : Int) + 28_800 = utc * 86_400 + hour * 3_600 + minute * 60 + sec :=
    ⟨(utc * 86_400 + hour * 3_600 + minute * 60 + sec - 28_800).toNat, by omega⟩
  have hday : ((second + 28_800) / 86_400 : Nat) = utc := by omega
  have hchina : chinaDate second = ⟨year, month, day⟩ := by
    unfold chinaDate
    rw [hday, hdate]
  have hnameable : Nameable second := by
    unfold Nameable
    rw [hchina]
    dsimp only
    omega
  have hmilliseconds : parsed = second * 1_000 := by omega
  refine ⟨second, hnameable, hmilliseconds, ?_⟩
  have hfields : secondText second = fieldsText year month day hour minute sec := by
    unfold secondText
    rw [hchina, show (second + 28_800) / 3_600 % 24 = hour from by omega,
      show (second + 28_800) / 60 % 60 = minute from by omega, show (second + 28_800) % 60 = sec from by omega]
    rfl
  rw [formatChinaTime_eq hnameable, hfields, ← htext, String.ofList_toList]

/-- Fields are compared one after the other. -/
theorem field_lt {w n m : Nat} (hm : m < 10 ^ w) {rest rest' : List Char} (h : n < m ∨ n = m ∧ rest < rest') :
    pad w n ++ rest < pad w m ++ rest' := by
  rcases h with h | ⟨rfl, h⟩
  · exact pad_lt hm h rest rest'
  · exact List.append_left_lt h

theorem separated_lt (separator : Char) {rest rest' : List Char} (h : rest < rest') :
    separator :: rest < separator :: rest' := by
  show [separator] ++ rest < [separator] ++ rest'
  exact List.append_left_lt h

/-- Later seconds have later texts. -/
theorem format_lt {second second' : Nat} (h : Nameable second) (h' : Nameable second') (hlt : second < second') :
    formatChinaTime (second * 1_000) < formatChinaTime (second' * 1_000) := by
  rw [formatChinaTime_eq h, formatChinaTime_eq h', String.lt_iff_toList_lt, String.toList_ofList, String.toList_ofList]
  obtain ⟨hfirst, hlast⟩ := h
  obtain ⟨hfirst', hlast'⟩ := h'
  have hmonth := (civil_month ((second' + 28_800) / 86_400 : Nat)).2.1
  have hday := day_le_31 second'
  change (chinaDate second').month ≤ 12 at hmonth
  unfold secondText fieldsText
  rcases Nat.lt_or_eq_of_le (Nat.div_le_div_right (c := 86_400) (by omega : second + 28_800 ≤ second' + 28_800)) with hdays | hdays
  · -- on an earlier day
    have hdate := civil_lt (by exact_mod_cast hdays :
      (((second + 28_800) / 86_400 : Nat) : Int) < ((second' + 28_800) / 86_400 : Nat))
    change (chinaDate second).year < (chinaDate second').year ∨ (chinaDate second).year = (chinaDate second').year ∧
      ((chinaDate second).month < (chinaDate second').month ∨ (chinaDate second).month = (chinaDate second').month ∧
        (chinaDate second).day < (chinaDate second').day) at hdate
    apply field_lt (by omega)
    rcases hdate with hyear | ⟨hyear, hdate⟩
    · exact .inl (by omega)
    refine .inr ⟨by rw [hyear], separated_lt _ (field_lt (by omega) ?_)⟩
    rcases hdate with hmonth | ⟨hmonth, hday⟩
    · exact .inl hmonth
    · exact .inr ⟨hmonth, separated_lt _ (field_lt (by omega) (.inl hday))⟩
  · -- on the same day
    have hdate : chinaDate second = chinaDate second' := by
      unfold chinaDate
      rw [hdays]
    rw [hdate]
    refine List.append_left_lt (separated_lt _ (List.append_left_lt (separated_lt _ (List.append_left_lt
      (separated_lt _ (field_lt (by omega) ?_))))))
    by_cases hhour : (second + 28_800) / 3_600 % 24 = (second' + 28_800) / 3_600 % 24
    · refine .inr ⟨hhour, separated_lt _ (field_lt (by omega) ?_)⟩
      by_cases hminute : (second + 28_800) / 60 % 60 = (second' + 28_800) / 60 % 60
      · refine .inr ⟨hminute, separated_lt _ ?_⟩
        have h : pad 2 ((second + 28_800) % 60) ++ [] < pad 2 ((second' + 28_800) % 60) ++ [] :=
          field_lt (by omega) (.inl (by omega))
        rwa [List.append_nil, List.append_nil] at h
      · exact .inl (by omega)
    · exact .inl (by omega)

/-! ## Windows of seconds -/

/-- The instant a provider timestamp stands for. -/
def instantOf (value : String) : Nat := (parseOccurredAt (some value)).toOption.getD 0

/-- The length of a window. -/
def LedgerWindow.seconds (window : LedgerWindow) : Nat := (instantOf window.end_ - instantOf window.start) / 1_000

/-- The window from one second to a later one. -/
structure Spans (window : LedgerWindow) (first last : Nat) : Prop where
  first_nameable : Nameable first
  last_nameable : Nameable last
  start_eq : window.start = formatChinaTime (first * 1_000)
  end_eq : window.end_ = formatChinaTime (last * 1_000)
  ordered : first < last

theorem isProviderTimestamp_iff {value : String} : isProviderTimestamp value = true ↔
    ∃ second, Nameable second ∧ value = formatChinaTime (second * 1_000) := by
  unfold isProviderTimestamp
  rw [Bool.and_eq_true_iff]
  constructor
  · rintro ⟨hshape, hparses⟩
    cases hparse : parseOccurredAt (some value) with
    | ok milliseconds =>
      obtain ⟨second, hnameable, -, hvalue⟩ := format_of_parse hshape hparse
      exact ⟨second, hnameable, hvalue⟩
    | error e =>
      rw [hparse] at hparses
      exact nomatch hparses
  · intro ⟨second, hnameable, hvalue⟩
    rw [hvalue, parse_format hnameable, formatChinaTime_eq hnameable]
    exact ⟨hasProviderShape_fieldsText _ _ _ _ _ _, rfl⟩

/-- **A valid window is one of seconds.** -/
theorem validateWindow_ok {window : LedgerWindow} :
    validateWindow window = .ok () ↔ ∃ first last, Spans window first last := by
  unfold validateWindow
  constructor
  · intro h
    split at h
    · exact nomatch h
    next htimestamps =>
    split at h
    · exact nomatch h
    next hordered =>
    rw [Bool.not_eq_true, Bool.or_eq_false_iff, Bool.not_eq_false', Bool.not_eq_false'] at htimestamps
    obtain ⟨first, hfirst, hstart⟩ := isProviderTimestamp_iff.mp htimestamps.1
    obtain ⟨last, hlast, hend⟩ := isProviderTimestamp_iff.mp htimestamps.2
    refine ⟨first, last, hfirst, hlast, hstart, hend, ?_⟩
    have hordered := String.not_le.mp hordered
    rw [hstart, hend] at hordered
    by_contra hle
    rcases Nat.lt_or_eq_of_le (Nat.not_lt.mp hle) with hlt | rfl
    · exact String.lt_asymm hordered (format_lt hlast hfirst hlt)
    · exact String.lt_irrefl _ hordered
  · rintro ⟨first, last, hfirst, hlast, hstart, hend, hlt⟩
    have hordered : ¬ window.end_ ≤ window.start := by
      rw [hstart, hend, String.not_le]
      exact format_lt hfirst hlast hlt
    rw [isProviderTimestamp_iff.mpr ⟨first, hfirst, hstart⟩, isProviderTimestamp_iff.mpr ⟨last, hlast, hend⟩,
      if_neg hordered]
    rfl

section Spans

variable {window : LedgerWindow} {first last : Nat}

theorem Spans.valid (h : Spans window first last) : validateWindow window = .ok () := validateWindow_ok.mpr ⟨_, _, h⟩

theorem Spans.parse_start (h : Spans window first last) : parseOccurredAt (some window.start) = .ok (first * 1_000) := by
  rw [h.start_eq]
  exact parse_format h.first_nameable

theorem Spans.parse_end (h : Spans window first last) : parseOccurredAt (some window.end_) = .ok (last * 1_000) := by
  rw [h.end_eq]
  exact parse_format h.last_nameable

theorem Spans.seconds (h : Spans window first last) : window.seconds = last - first := by
  unfold LedgerWindow.seconds instantOf
  rw [h.parse_start, h.parse_end]
  show (last * 1_000 - first * 1_000) / 1_000 = _
  omega

/-- The seconds between two nameable seconds are nameable. -/
theorem Nameable.between (hfirst : Nameable first) (hlast : Nameable last) {second : Nat} (h : first ≤ second)
    (h' : second ≤ last) : Nameable second := by
  have hyear := yearOf_mono (by omega : (((first + 28_800) / 86_400 : Nat) : Int) ≤ ((second + 28_800) / 86_400 : Nat))
  have hyear' := yearOf_mono (by omega : (((second + 28_800) / 86_400 : Nat) : Int) ≤ ((last + 28_800) / 86_400 : Nat))
  exact ⟨hfirst.1.trans hyear, hyear'.trans hlast.2⟩

theorem formatProviderTimestamp_ok {second : Nat} (h : Nameable second) :
    formatProviderTimestamp (second * 1_000) = .ok (formatChinaTime (second * 1_000)) := by
  have hlt := lt_of_nameable h
  unfold formatProviderTimestamp
  rw [if_neg]
  rw [Bool.not_eq_true, Bool.or_eq_false_iff]
  refine ⟨?_, decide_eq_false ?_⟩
  · rw [Bool.not_eq_false']
    exact decide_eq_true (by unfold maxSafeInteger; omega)
  · omega

/-- A window of one second is not split. -/
theorem Spans.split_none (h : Spans window first last) (hone : last - first = 1) :
    splitLedgerWindow window = .ok none := by
  have := h.ordered
  unfold splitLedgerWindow
  rw [h.valid, h.parse_start, h.parse_end]
  show (if last * 1_000 ≤ first * 1_000 + 1_000 then _ else _) = _
  rw [if_pos (by omega)]
  rfl

/-- **A longer one is split in the middle**, rounded down to a second. -/
theorem Spans.split_some (h : Spans window first last) (hmany : 2 ≤ last - first) :
    splitLedgerWindow window = .ok (some ⟨formatChinaTime ((first + last) / 2 * 1_000),
      ⟨window.start, formatChinaTime ((first + last) / 2 * 1_000)⟩,
      ⟨formatChinaTime ((first + last) / 2 * 1_000), window.end_⟩⟩) := by
  have hnameable : Nameable ((first + last) / 2) := h.first_nameable.between h.last_nameable (by omega) (by omega)
  have hmiddle : (first * 1_000 + last * 1_000) / 2_000 * 1_000 = (first + last) / 2 * 1_000 := by omega
  unfold splitLedgerWindow
  rw [h.valid, h.parse_start, h.parse_end]
  show (if last * 1_000 ≤ first * 1_000 + 1_000 then _ else _) = _
  rw [if_neg (by omega)]
  show (if (first * 1_000 + last * 1_000) / 2_000 * 1_000 ≤ first * 1_000 ∨ _ then _ else _) = _
  rw [hmiddle, if_neg (by omega), formatProviderTimestamp_ok hnameable]
  rfl

theorem Spans.left (h : Spans window first last) (hmany : 2 ≤ last - first) {splitAt : String}
    (hsplit : splitAt = formatChinaTime ((first + last) / 2 * 1_000)) :
    Spans ⟨window.start, splitAt⟩ first ((first + last) / 2) where
  first_nameable := h.first_nameable
  last_nameable := h.first_nameable.between h.last_nameable (by omega) (by omega)
  start_eq := h.start_eq
  end_eq := hsplit
  ordered := by omega

theorem Spans.right (h : Spans window first last) (hmany : 2 ≤ last - first) {splitAt : String}
    (hsplit : splitAt = formatChinaTime ((first + last) / 2 * 1_000)) :
    Spans ⟨splitAt, window.end_⟩ ((first + last) / 2) last where
  first_nameable := h.first_nameable.between h.last_nameable (by omega) (by omega)
  last_nameable := h.last_nameable
  start_eq := hsplit
  end_eq := h.end_eq
  ordered := by omega

end Spans

/-- What a split makes of a window: two windows that meet at `splitAt`, which is formatted from the instant
    that it parses to. -/
structure Bisects (window : LedgerWindow) (split : WindowSplit) : Prop where
  left_eq : split.left = ⟨window.start, split.splitAt⟩
  right_eq : split.right = ⟨split.splitAt, window.end_⟩
  left_valid : validateWindow split.left = .ok ()
  right_valid : validateWindow split.right = .ok ()
  left_seconds : split.left.seconds = window.seconds / 2
  right_seconds : split.right.seconds = window.seconds - window.seconds / 2
  many : 2 ≤ window.seconds
  splitAt_parses : ∃ milliseconds, formatProviderTimestamp milliseconds = .ok split.splitAt ∧
    parseOccurredAt (some split.splitAt) = .ok milliseconds

/-- **A valid window is of one second, or split in two halves.** -/
theorem splitLedgerWindow_halves {window : LedgerWindow} (h : validateWindow window = .ok ()) :
    (window.seconds = 1 ∧ splitLedgerWindow window = .ok none) ∨
    ∃ split, splitLedgerWindow window = .ok (some split) ∧ Bisects window split := by
  obtain ⟨first, last, hspans⟩ := validateWindow_ok.mp h
  have hordered := hspans.ordered
  rcases Nat.lt_or_ge (last - first) 2 with hone | hmany
  · exact .inl ⟨by rw [hspans.seconds]; omega, hspans.split_none (by omega)⟩
  · have hnameable : Nameable ((first + last) / 2) :=
      hspans.first_nameable.between hspans.last_nameable (by omega) (by omega)
    obtain ⟨splitAt, hsplitAt⟩ : ∃ splitAt, splitAt = formatChinaTime ((first + last) / 2 * 1_000) := ⟨_, rfl⟩
    have hleft := hspans.left hmany hsplitAt
    have hright := hspans.right hmany hsplitAt
    have hsplit := hspans.split_some hmany
    rw [← hsplitAt] at hsplit
    refine .inr ⟨_, hsplit, ?_⟩
    exact {
      left_eq := rfl
      right_eq := rfl
      left_valid := hleft.valid
      right_valid := hright.valid
      left_seconds := by
        rw [hleft.seconds, hspans.seconds]
        omega
      right_seconds := by
        rw [hright.seconds, hspans.seconds]
        omega
      many := by
        rw [hspans.seconds]
        exact hmany
      splitAt_parses := by
        have hformat := formatProviderTimestamp_ok hnameable
        have hparse := parse_format hnameable
        rw [← hsplitAt] at hformat hparse
        exact ⟨_, hformat, hparse⟩ }

theorem seconds_pos {window : LedgerWindow} (h : validateWindow window = .ok ()) : 1 ≤ window.seconds := by
  obtain ⟨first, last, hspans⟩ := validateWindow_ok.mp h
  have := hspans.ordered
  rw [hspans.seconds]
  omega

theorem bisects_of_split {window : LedgerWindow} {split : WindowSplit} (h : validateWindow window = .ok ())
    (hsplit : splitLedgerWindow window = .ok (some split)) : Bisects window split := by
  rcases splitLedgerWindow_halves h with ⟨-, hnone⟩ | ⟨split', hsplit', hbisects⟩
  · rw [hsplit] at hnone
    exact nomatch Except.ok.inj hnone
  · rw [hsplit] at hsplit'
    rw [Option.some.inj (Except.ok.inj hsplit')]
    exact hbisects

/-! ## Splitting again and again -/

/-- The windows a window can be split into, at their depths. -/
inductive Descends (root : LedgerWindow) : Nat → LedgerWindow → Prop
  | root : Descends root 0 root
  | left {depth : Nat} {window : LedgerWindow} {split : WindowSplit} (h : Descends root depth window)
      (hsplit : splitLedgerWindow window = .ok (some split)) : Descends root (depth + 1) split.left
  | right {depth : Nat} {window : LedgerWindow} {split : WindowSplit} (h : Descends root depth window)
      (hsplit : splitLedgerWindow window = .ok (some split)) : Descends root (depth + 1) split.right

variable {root : LedgerWindow} {depth : Nat} {window : LedgerWindow}

/-- Every split is valid, and one second less than doubles for each level up. -/
theorem Descends.shrinks (hroot : validateWindow root = .ok ()) (h : Descends root depth window) :
    validateWindow window = .ok () ∧ (window.seconds - 1) * 2 ^ depth ≤ root.seconds - 1 := by
  have hhalf : ∀ {n parent bound depth : Nat}, n ≤ parent - parent / 2 → (parent - 1) * 2 ^ depth ≤ bound →
      (n - 1) * 2 ^ (depth + 1) ≤ bound := by
    intro n parent bound depth hn hbound
    have hdouble : (n - 1) * 2 ≤ parent - 1 := by omega
    have hpow := Nat.mul_le_mul_right (2 ^ depth) hdouble
    rw [Nat.pow_succ, Nat.mul_comm (2 ^ depth) 2, ← Nat.mul_assoc]
    exact hpow.trans hbound
  induction h with
  | root => exact ⟨hroot, by rw [Nat.pow_zero, Nat.mul_one]⟩
  | left _ hsplit ih =>
    have hbisects := bisects_of_split ih.1 hsplit
    exact ⟨hbisects.left_valid, hhalf (by rw [hbisects.left_seconds]; omega) ih.2⟩
  | right _ hsplit ih =>
    have hbisects := bisects_of_split ih.1 hsplit
    exact ⟨hbisects.right_valid, hhalf (Nat.le_of_eq hbisects.right_seconds) ih.2⟩

/-- A window that is split once more is not yet too deep. -/
theorem Descends.splits_above (hroot : validateWindow root = .ok ()) (h : Descends root depth window) {split : WindowSplit}
    (hsplit : splitLedgerWindow window = .ok (some split)) : depth + 1 ≤ Nat.clog 2 root.seconds := by
  obtain ⟨hvalid, hshrinks⟩ := h.shrinks hroot
  have hmany := (bisects_of_split hvalid hsplit).many
  have hpow : 1 * 2 ^ depth ≤ (window.seconds - 1) * 2 ^ depth := Nat.mul_le_mul_right _ (by omega)
  have := seconds_pos hroot
  exact (Nat.lt_clog_iff_pow_lt (by omega)).mpr (by omega)

/-- **The depth of a split is at most the binary logarithm of the seconds**, rounded up. -/
theorem Descends.depth_le (hroot : validateWindow root = .ok ()) (h : Descends root depth window) :
    depth ≤ Nat.clog 2 root.seconds := by
  cases h with
  | root => exact Nat.zero_le _
  | left h hsplit => exact h.splits_above hroot hsplit
  | right h hsplit => exact h.splits_above hroot hsplit

end PerPay.Ledger
