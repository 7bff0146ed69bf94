/-
  **Where the browser and the ledger read a text alike.**

  Amounts and directions are read alike in every text.  A timestamp in the form of the ledger is an instance of the format
  of `Date.parse`, and stands for the same time there (`isoTime_of_readTimestamp`).  A text of no such form is refused by
  the ledger; the browser accepts it when it is shaped like a zoned timestamp and `Date.parse` makes a time from 1970 on of it
  (`Beyond`): without seconds, with hour 24, with a signed year, or whatever the engine reads beyond the format.

  The event of a recorded difference has been read by the ledger, so its rows say what differs (`marked_difference`).
-/
import PerPay.Ledger.Comparison

namespace PerPay.Ledger

open Txn

variable {fallback : List Char → Option Int} {text : List Char} {p : TimestampParts}

/-! ## Amounts and directions -/

theorem comparisonAmount_agrees (value : Option String) : comparisonAmount value = (parseAmountCents value).toOption := by
  cases value with
  | none => rfl
  | some text =>
    unfold comparisonAmount parseAmountCents
    dsimp only [Option.getD_some]
    cases readAmount (trim text).toList with
    | none => rfl
    | some cents =>
      dsimp only
      by_cases hbad : (!isSafeInteger cents || cents < 1 || 999_999_999_999 < cents) = true
      · rw [if_pos hbad]
        refine Option.filter_eq_none_iff.mpr ?_
        intro _ heq hgood
        obtain rfl := Option.some.inj heq
        simp only [Bool.and_eq_true, decide_eq_true_eq] at hgood
        simp only [hgood.1.1, Bool.not_true, Bool.false_or, Bool.or_eq_true, decide_eq_true_eq] at hbad
        omega
      · rw [if_neg hbad]
        simp only [Bool.or_eq_true, Bool.not_eq_true', decide_eq_true_eq, not_or, Bool.not_eq_false] at hbad
        obtain ⟨⟨hsafe, hpos⟩, hmax⟩ := hbad
        refine Option.filter_eq_some_iff.mpr ⟨rfl, ?_⟩
        simp only [hsafe, Bool.true_and, Bool.and_eq_true, decide_eq_true_eq]
        omega

theorem comparisonDirection_agrees (value : Option String) :
    comparisonDirection value = (parseDirection value).toOption := by
  cases value with
  | none => rfl
  | some text =>
    have hcredit : ∀ raw : String, raw ∈ ["CREDIT", "IN", "INCOME", "RECEIVE", "RECEIVED", "收入", "收款", "转入"] → raw ≠ "" := by
      decide
    have hdebit : ∀ raw : String, raw ∈ ["DEBIT", "OUT", "EXPENSE", "PAY", "PAID", "支出", "付款", "转出"] → raw ≠ "" := by
      decide
    unfold comparisonDirection parseDirection
    simp only [Option.map_some]
    generalize toUpperCase (trim text) = raw
    by_cases hin : raw ∈ ["CREDIT", "IN", "INCOME", "RECEIVE", "RECEIVED", "收入", "收款", "转入"]
    · rw [if_pos ⟨hcredit raw hin, hin⟩, if_pos hin]
      rfl
    · rw [if_neg fun h => hin h.2, if_neg hin]
      by_cases hout : raw ∈ ["DEBIT", "OUT", "EXPENSE", "PAY", "PAID", "支出", "付款", "转出"]
      · rw [if_pos ⟨hdebit raw hout, hout⟩, if_pos hout]
        rfl
      · rw [if_neg fun h => hout h.2, if_neg hout]
        rfl

/-! ## The form of a timestamp -/

theorem readChar_some {c : Char} {cs rest : List Char} (h : readChar c cs = some rest) : cs = c :: rest := by
  cases cs with
  | nil => exact nomatch h
  | cons d cs =>
    change (if d = c then some cs else none) = some rest at h
    split at h
    · next heq => rw [heq, Option.some.inj h]
    · exact nomatch h

/-- The readings behind the parts of a timestamp. -/
structure ReadTimestamp (text : List Char) (p : TimestampParts) (separator : Char) (a b c d e f g : List Char) : Prop where
  year : Digits.readDigits 4 text = some (p.year, '-' :: a)
  month : Digits.readDigits 2 a = some (p.month, '-' :: b)
  day : Digits.readDigits 2 b = some (p.day, separator :: c)
  hour : Digits.readDigits 2 c = some (p.hour, ':' :: d)
  minute : Digits.readDigits 2 d = some (p.minute, ':' :: e)
  second : Digits.readDigits 2 e = some (p.second, f)
  fraction : readFraction f = some (p.fraction, g)
  offset : readOffset g = some p.offset
  zoned : p.offset.isSome = true → separator = 'T'

/-- What follows the separator of a timestamp. -/
def readTime (year month day : Nat) (separator : Char) (cs : List Char) : Option TimestampParts := do
  let (hour, cs) ← Digits.readDigits 2 cs
  let cs ← readChar ':' cs
  let (minute, cs) ← Digits.readDigits 2 cs
  let cs ← readChar ':' cs
  let (second, cs) ← Digits.readDigits 2 cs
  let (fraction, cs) ← readFraction cs
  let offset ← readOffset cs
  if offset.isSome ∧ separator ≠ 'T' then none
  else some { year, month, day, hour, minute, second, fraction, offset }

theorem readTimestamp_date (h : readTimestamp text = some p) :
    ∃ year month day separator a b c, Digits.readDigits 4 text = some (year, '-' :: a) ∧
      Digits.readDigits 2 a = some (month, '-' :: b) ∧ Digits.readDigits 2 b = some (day, separator :: c) ∧
      readTime year month day separator c = some p := by
  unfold readTimestamp at h
  obtain ⟨⟨year, r1⟩, hyear, h⟩ := Option.bind_eq_some_iff.mp h
  obtain ⟨a, ha, h⟩ := Option.bind_eq_some_iff.mp h
  obtain ⟨⟨month, r2⟩, hmonth, h⟩ := Option.bind_eq_some_iff.mp h
  obtain ⟨b, hb, h⟩ := Option.bind_eq_some_iff.mp h
  obtain ⟨⟨day, r3⟩, hday, h⟩ := Option.bind_eq_some_iff.mp h
  have hyear' := readChar_some ha ▸ hyear
  have hmonth' := readChar_some hb ▸ hmonth
  dsimp only at h
  split at h
  · exact ⟨year, month, day, ' ', a, b, _, hyear', hmonth', hday, h⟩
  · exact ⟨year, month, day, 'T', a, b, _, hyear', hmonth', hday, h⟩
  · exact nomatch h

theorem readTimestamp_some (h : readTimestamp text = some p) :
    ∃ separator a b c d e f g, ReadTimestamp text p separator a b c d e f g := by
  obtain ⟨year, month, day, separator, a, b, c, hyear, hmonth, hday, h⟩ := readTimestamp_date h
  unfold readTime at h
  obtain ⟨⟨hour, r4⟩, hhour, h⟩ := Option.bind_eq_some_iff.mp h
  obtain ⟨d, hd, h⟩ := Option.bind_eq_some_iff.mp h
  obtain ⟨⟨minute, r5⟩, hminute, h⟩ := Option.bind_eq_some_iff.mp h
  obtain ⟨e, he, h⟩ := Option.bind_eq_some_iff.mp h
  obtain ⟨⟨second, f⟩, hsecond, h⟩ := Option.bind_eq_some_iff.mp h
  obtain ⟨⟨fraction, g⟩, hfraction, h⟩ := Option.bind_eq_some_iff.mp h
  obtain ⟨offset, hoffset, h⟩ := Option.bind_eq_some_iff.mp h
  split at h
  · exact nomatch h
  · next hzoned =>
    obtain rfl := Option.some.inj h
    refine ⟨separator, a, b, c, d, e, f, g, ⟨hyear, hmonth, hday, ?_, ?_, hsecond, hfraction, hoffset, ?_⟩⟩
    · exact readChar_some hd ▸ hhour
    · exact readChar_some he ▸ hminute
    · intro hsome
      by_contra hother
      exact hzoned ⟨hsome, hother⟩

/-- A fraction has one to three digits, and reads as the format reads it. -/
theorem readFraction_iso {f g : List Char} {fraction : Option (List Char)} (h : readFraction f = some (fraction, g)) :
    IsoDate.readFraction f = some (fractionMilliseconds fraction, g) ∧ ∀ digits, fraction = some digits →
      1 ≤ digits.length ∧ digits.length ≤ 3 ∧ digits = (f.drop 1).takeWhile Char.isDigit ∧
        g = (f.drop 1).dropWhile Char.isDigit ∧ f.head? = some '.' := by
  unfold readFraction at h
  split at h
  · next cs =>
    dsimp only at h
    split at h
    · next hlength =>
      obtain ⟨rfl, rfl⟩ := Prod.mk.inj (Option.some.inj h)
      constructor
      · show (if _ then _ else _) = _
        rw [if_neg]
        · unfold IsoDate.fractionMilliseconds fractionMilliseconds
          rw [Option.getD_some, List.take_of_length_le]
          rw [List.length_append, List.length_replicate]
          omega
        · intro hnil
          rw [hnil] at hlength
          exact absurd hlength.1 (by decide)
      · rintro digits hdigits
        obtain rfl := Option.some.inj hdigits
        exact ⟨hlength.1, hlength.2, rfl, rfl, rfl⟩
    · exact nomatch h
  · next hother =>
    obtain ⟨rfl, rfl⟩ := Prod.mk.inj (Option.some.inj h)
    refine ⟨?_, nofun⟩
    unfold IsoDate.readFraction
    split
    · next cs => exact absurd rfl (hother cs)
    · rfl

theorem readOffset_iso {g : List Char} {offset : Offset} {minutes : Int} (h : readOffset g = some (some offset))
    (hminutes : offsetMinutes (some offset) = .ok minutes) : IsoDate.readOffset g = some minutes := by
  unfold readOffset at h
  split at h
  · exact nomatch h
  · obtain rfl := Option.some.inj (Option.some.inj h)
    obtain rfl : (0 : Int) = minutes := Except.ok.inj hminutes
    rfl
  · next sign cs hnotZ =>
    simp only [Option.bind_eq_bind] at h
    split at h
    · exact nomatch h
    · next hsign =>
      obtain ⟨⟨hour, r1⟩, hhour, h⟩ := Option.bind_eq_some_iff.mp h
      obtain ⟨r2, hcolon, h⟩ := Option.bind_eq_some_iff.mp h
      obtain ⟨⟨minute, r3⟩, hminute, h⟩ := Option.bind_eq_some_iff.mp h
      dsimp only at hcolon hminute h
      split at h
      · next hend =>
        obtain rfl := Option.some.inj (Option.some.inj h)
        simp only [offsetMinutes] at hminutes
        split at hminutes
        · exact nomatch hminutes
        · next hbounds =>
          have hcolon' : IsoDate.readChar ':' r1 = some r2 := hcolon
          have hvalue := Except.ok.inj hminutes
          unfold IsoDate.readOffset
          split
          · next heq =>
            obtain ⟨rfl, rfl⟩ := List.cons.inj heq
            exact (hnotZ rfl rfl).elim
          · next heq =>
            obtain ⟨rfl, rfl⟩ := List.cons.inj heq
            simp only [Option.bind_eq_bind, if_neg hsign, hhour, Option.bind_some, hcolon', hminute]
            rw [if_pos ⟨hend, by omega, by omega⟩, ← hvalue]
            split <;> simp_all
          · next heq => exact nomatch heq
      · exact nomatch h

/-! ## Dates -/

/-- The parts the ledger takes: their date is in the calendar. -/
structure TimestampParts.Proper (p : TimestampParts) : Prop where
  date : Calendar.Civil.Valid ⟨p.year, p.month, p.day⟩
  century : 99 < p.year
  day : utcDay p = Calendar.dayOf ⟨p.year, p.month, p.day⟩
  hour : p.hour ≤ 23
  minute : p.minute ≤ 59
  second : p.second ≤ 59
  recent : p.offset = none → 2000 ≤ p.year

/-- `Date.UTC` takes the years 0 to 99 to another century. -/
theorem century_of_civil (h : Calendar.civil (utcDay p) = ⟨p.year, p.month, p.day⟩) (hmonth : 1 ≤ p.month ∧ p.month ≤ 12) :
    99 < p.year := by
  by_contra hshort
  have hday : utcDay p = Calendar.dayOf ⟨1900 + p.year, p.month, p.day⟩ := by
    unfold utcDay
    rw [if_pos (by omega)]
  have hstart : 0 ≤ Calendar.monthStart (Calendar.isLeap (1900 + p.year)) p.month := by
    have hall : ∀ leap : Bool, ∀ m < 13, 1 ≤ m → 0 ≤ Calendar.monthStart leap m := by decide
    exact hall _ _ (by omega) hmonth.1
  have hyear : Calendar.yearOf (utcDay p) = p.year := congrArg Calendar.Civil.year h
  have hfirst : Calendar.dayFromYear 1900 ≤ Calendar.dayFromYear (1900 + p.year) := by
    rcases Nat.eq_zero_or_pos p.year with hzero | hpos
    · rw [hzero]
      exact le_refl _
    · have hlt := Calendar.dayFromYear_lt (y := 1900) (z := 1900 + p.year) (by omega)
      omega
  have hlate : Calendar.dayFromYear 1900 - 1 ≤ utcDay p := by
    rw [hday]
    unfold Calendar.dayOf
    dsimp only
    omega
  have hbefore := Calendar.yearOf_mono hlate
  have h1899 : Calendar.yearOf (Calendar.dayFromYear 1900 - 1) = 1899 := by decide +kernel
  omega

theorem proper_of_not_invalid (h : p.invalid = false) : p.Proper := by
  unfold TimestampParts.invalid at h
  simp only [Bool.or_eq_false_iff, Bool.and_eq_false_iff, decide_eq_false_iff_not, not_lt, ne_eq, not_not,
    Option.isNone_eq_false_iff] at h
  obtain ⟨⟨⟨⟨⟨⟨hrecent, hmonth⟩, hmonth'⟩, hhour⟩, hminute⟩, hsecond⟩, hcivil⟩ := h
  have hcentury := century_of_civil hcivil ⟨hmonth, hmonth'⟩
  refine ⟨hcivil ▸ Calendar.civil_valid _, hcentury, ?_, hhour, hminute, hsecond, ?_⟩
  · unfold utcDay
    rw [if_neg (by omega)]
  · intro hnone
    rcases hrecent with hsome | hrecent
    · rw [hnone] at hsome
      exact absurd hsome Bool.false_ne_true
    · exact hrecent

/-- The checks of the browser on a local text are those of the ledger: a date of the calendar has one of twelve months. -/
theorem localChecks_eq (hlocal : p.offset = none) :
    (p.year < 2000 || Calendar.civil (utcDay p) ≠ ⟨p.year, p.month, p.day⟩ || 23 < p.hour || 59 < p.minute || 59 < p.second) =
      p.invalid := by
  unfold TimestampParts.invalid
  rw [hlocal]
  obtain ⟨hmonth, hmonth', -, -⟩ := Calendar.civil_valid (utcDay p)
  by_cases hcivil : Calendar.civil (utcDay p) = ⟨p.year, p.month, p.day⟩
  · rw [hcivil] at hmonth hmonth'
    have h1 : ¬ p.month < 1 := by
      have hmonth'' : 1 ≤ p.month := hmonth
      omega
    have h2 : ¬ 12 < p.month := by
      have hmonth'' : p.month ≤ 12 := hmonth'
      omega
    simp only [hcivil, h1, h2, Option.isNone_none, Bool.true_and, ne_eq, not_true_eq_false, decide_false, Bool.or_false]
  · simp only [hcivil, ne_eq, not_false_eq_true, decide_true, Bool.or_true, Bool.true_or]

/-- Days of the years 100 to 9999. -/
theorem TimestampParts.Proper.bounds (h : p.Proper) (hyear : p.year ≤ 9999) : -719528 ≤ utcDay p ∧ utcDay p < 2932897 := by
  have hyearOf := h.date.yearOf
  obtain ⟨hfirst, hlast⟩ := Calendar.yearOf_spec (utcDay p)
  rw [h.day] at hfirst hlast ⊢
  rw [hyearOf] at hfirst hlast
  dsimp only at hfirst hlast
  have hcentury := h.century
  have h0 : Calendar.dayFromYear 0 = -719528 := by decide +kernel
  have h10000 : Calendar.dayFromYear 10000 = 2932897 := by decide +kernel
  have hlow := Calendar.dayFromYear_lt (y := 0) (z := p.year) (by omega)
  have hhigh : Calendar.dayFromYear (p.year + 1) ≤ Calendar.dayFromYear 10000 := by
    rcases Nat.lt_or_ge p.year 9999 with hlt | hge
    · have hstep := Calendar.dayFromYear_lt (y := p.year + 1) (z := 10000) (by omega)
      omega
    · have heq : p.year = 9999 := by omega
      rw [heq]
      exact le_refl _
  omega

/-- The fraction of a timestamp is less than a second. -/
theorem fractionMilliseconds_lt {f g : List Char} {fraction : Option (List Char)} (h : readFraction f = some (fraction, g)) :
    fractionMilliseconds fraction < 1000 := by
  obtain ⟨-, hfraction⟩ := readFraction_iso h
  unfold fractionMilliseconds
  cases fraction with
  | none => decide
  | some digits =>
    obtain ⟨hlow, hhigh, htake, -⟩ := hfraction digits rfl
    have hdigits : ∀ c ∈ digits ++ List.replicate (3 - digits.length) '0', c.isDigit = true := by
      intro c hc
      rcases List.mem_append.mp hc with hc | hc
      · rw [htake] at hc
        exact List.all_eq_true.mp List.all_takeWhile c hc
      · rw [(List.mem_replicate.mp hc).2]
        rfl
    have hlt := Digits.ofDigitChars_lt hdigits 0
    rw [List.length_append, List.length_replicate, show digits.length + (3 - digits.length) = 3 by omega] at hlt
    exact hlt

/-! ## Times -/

/-- A text in the form of the ledger, with the parts and the offset it has. -/
structure LedgerTime (text : List Char) (p : TimestampParts) (minutes : Int) : Prop where
  reads : readTimestamp text = some p
  valid : p.invalid = false
  offset : offsetMinutes p.offset = .ok minutes

theorem parseOccurredAt_toOption (value : Option String) :
    (parseOccurredAtWithPrecision value).toOption = (readTimestamp (trim (value.getD "")).toList).bind fun p =>
      if p.invalid then none else (offsetMinutes p.offset).toOption.bind fun minutes => (occurredAtOf p minutes).toOption := by
  cases value with
  | none => rfl
  | some text =>
    show (parseOccurredAtWithPrecision (some text)).toOption = (readTimestamp (trim text).toList).bind _
    unfold parseOccurredAtWithPrecision
    dsimp only
    split
    · next hempty =>
      rw [hempty]
      rfl
    · cases readTimestamp (trim text).toList with
      | none => rfl
      | some p =>
        rw [Option.bind_some]
        dsimp only
        split
        · rfl
        · cases offsetMinutes p.offset with
          | error e => rfl
          | ok minutes => rfl

/-- The time of the parts in the ledger, as the browser writes it. -/
theorem occurredAtOf_toOption {minutes : Int} {f g : List Char} (hproper : p.Proper) (hyear : p.year ≤ 9999)
    (hfraction : readFraction f = some (p.fraction, g)) (hminutes : -1439 ≤ minutes ∧ minutes ≤ 1439) :
    (occurredAtOf p minutes).toOption = displayTime (calendarTime p - minutes * 60_000) p.fraction ∧
      (calendarTime p - minutes * 60_000).natAbs ≤ maxTimeValue := by
  obtain ⟨hlow, hhigh⟩ := hproper.bounds hyear
  have hmilliseconds := fractionMilliseconds_lt hfraction
  have hhour := hproper.hour
  have hminute := hproper.minute
  have hsecond := hproper.second
  have hprecision : ∀ digits, p.fraction = some digits → precisionFromFraction (some digits) = 10 ^ (3 - digits.length) := by
    intro digits hdigits
    obtain ⟨hone, hthree, -⟩ := (readFraction_iso hfraction).2 digits hdigits
    show (if digits.length = 1 then 100 else if digits.length = 2 then 10 else 1) = 10 ^ (3 - digits.length)
    have hcases : digits.length = 1 ∨ digits.length = 2 ∨ digits.length = 3 := by omega
    rcases hcases with hlength | hlength | hlength <;> rw [hlength] <;> rfl
  have hsmall : precisionFromFraction p.fraction ≤ 1000 := by
    unfold precisionFromFraction
    split
    · exact le_refl _
    · split
      · decide
      · split <;> decide
  have htime : calendarTime p - minutes * 60_000 < 253_402_387_200_000 ∧ -62_167_305_600_000 ≤ calendarTime p - minutes * 60_000 := by
    unfold calendarTime
    omega
  constructor
  · unfold occurredAtOf displayTime
    dsimp only
    rw [show utcDay p * 86_400_000 + p.hour * 3_600_000 + p.minute * 60_000 + p.second * 1_000 + fractionMilliseconds p.fraction -
      minutes * 60_000 = calendarTime p - minutes * 60_000 from rfl]
    generalize calendarTime p - minutes * 60_000 = milliseconds at htime
    by_cases hnegative : milliseconds < 0
    · rw [if_pos (.inl hnegative), if_neg]
      · rfl
      · simp only [Bool.and_eq_true, decide_eq_true_eq, not_and]
        omega
    · have hsafe : isSafeInteger milliseconds.toNat = true := by
        unfold isSafeInteger maxSafeInteger
        exact decide_eq_true (by omega)
      have hsafe' : isSafeInteger (milliseconds.toNat + precisionFromFraction p.fraction) = true := by
        unfold isSafeInteger maxSafeInteger
        exact decide_eq_true (by omega)
      rw [if_neg, if_pos]
      · cases hdigits : p.fraction with
        | none => rfl
        | some digits =>
          rw [hprecision digits hdigits]
          rfl
      · simp only [hsafe, Bool.true_and, decide_eq_true_eq]
        omega
      · rw [hsafe']
        simp [hnegative]
  · unfold maxTimeValue
    omega

/-- **A timestamp of the ledger is one of the format**, and stands for the same time. -/
theorem isoTime_of_readTimestamp {minutes : Int} {offset : Offset} (h : LedgerTime text p minutes)
    (hoffset : p.offset = some offset) : IsoDate.isoTime text = some (calendarTime p - minutes * 60_000) := by
  obtain ⟨separator, a, b, c, d, e, f, g, hread⟩ := readTimestamp_some h.reads
  have hproper := proper_of_not_invalid h.valid
  obtain rfl : separator = 'T' := hread.zoned (by rw [hoffset]; rfl)
  have hfraction := (readFraction_iso hread.fraction).1
  have hminutes : IsoDate.readOffset g = some minutes :=
    readOffset_iso (hoffset ▸ hread.offset) (hoffset ▸ h.offset)
  have hdateTime : IsoDate.readDateTime text =
      some ⟨p.year, p.month, p.day, p.hour, p.minute, p.second, fractionMilliseconds p.fraction, minutes⟩ := by
    unfold IsoDate.readDateTime
    rw [IsoDate.readYear_of_readDigits hread.year]
    simp only [Option.bind_eq_bind, Option.bind_some, IsoDate.readDatePart, hread.month, hread.day, IsoDate.readChar,
      if_true, hread.hour, hread.minute, IsoDate.readSeconds, hread.second, hfraction, hminutes]
  unfold IsoDate.isoTime
  rw [hdateTime, Option.bind_some, if_pos]
  · refine congrArg some ?_
    unfold calendarTime
    rw [hproper.day]
    rfl
  · exact ⟨hproper.date, hproper.minute, hproper.second, .inl hproper.hour⟩

/-! ## The shape of a zoned timestamp -/

theorem zoneShaped_append {cs : List Char} (before : List Char) (h : zoneShaped cs = true) : zoneShaped (before ++ cs) = true := by
  induction before with
  | nil => exact h
  | cons c before ih =>
    show (_ || zoneShaped (before ++ cs)) = true
    rw [ih, Bool.or_true]

theorem reachesZone_append {before cs : List Char} (hbefore : ∀ c ∈ before, isLineTerminator c = false)
    (h : reachesZone cs = true) : reachesZone (before ++ cs) = true := by
  induction before with
  | nil => exact h
  | cons c before ih =>
    show (_ || (!isLineTerminator c && reachesZone (before ++ cs))) = true
    rw [ih fun d hd => hbefore d (List.mem_cons_of_mem c hd), hbefore c List.mem_cons_self]
    exact Bool.or_true _

theorem reachesZone_of_isZone {cs : List Char} (h : isZone cs = true) : reachesZone cs = true := by
  cases cs with
  | nil => exact absurd h Bool.false_ne_true
  | cons c cs =>
    show (isZone (c :: cs) || _) = true
    rw [h, Bool.true_or]

theorem zoneFraction_append {before cs : List Char} (hbefore : ∀ c ∈ before, c ≠ '.') :
    zoneFraction (before ++ cs) = zoneFraction cs := by
  induction before with
  | nil => rfl
  | cons c before ih =>
    show (if _ then _ else zoneFraction (before ++ cs)) = _
    rw [if_neg, ih fun d hd => hbefore d (List.mem_cons_of_mem c hd)]
    simp [hbefore c List.mem_cons_self]

/-- The characters of a timestamp before its fraction. -/
def Plain (c : Char) : Prop := c ≠ '.' ∧ isLineTerminator c = false

theorem plain_pad {w n : Nat} {c : Char} (h : c ∈ Digits.pad w n) : Plain c := by
  obtain ⟨d, hd, rfl⟩ := Digits.mem_pad h
  have hall : ∀ d < 10, Nat.digitChar d ≠ '.' ∧ isLineTerminator (Nat.digitChar d) = false := by decide
  exact hall d hd

/-- A field and the character behind it. -/
theorem plain_field {w n : Nat} {cs rest : List Char} {separator : Char} (h : Digits.readDigits w cs = some (n, separator :: rest))
    (hseparator : Plain separator) : ∃ before, cs = before ++ rest ∧ ∀ c ∈ before, Plain c := by
  refine ⟨Digits.pad w n ++ [separator], ?_, fun c hc => ?_⟩
  · rw [Digits.pad_of_readDigits h, List.append_assoc]
    rfl
  · rcases List.mem_append.mp hc with hc | hc
    · exact plain_pad hc
    · rw [List.mem_singleton.mp hc]
      exact hseparator

/-- An offset is a zone to the end of the text. -/
theorem isZone_of_readOffset {g : List Char} {offset : Offset} (h : readOffset g = some (some offset)) :
    isZone g = true ∧ ∀ c ∈ g, Plain c := by
  unfold readOffset at h
  split at h
  · cases h
  · refine ⟨rfl, fun c hc => ?_⟩
    rw [List.mem_singleton.mp hc]
    exact ⟨by decide, by decide⟩
  · next sign cs hnotZ =>
    simp only [Option.bind_eq_bind] at h
    split at h
    · cases h
    · next hsign =>
      obtain ⟨⟨hour, r1⟩, hhour, h⟩ := Option.bind_eq_some_iff.mp h
      obtain ⟨r2, hcolon, h⟩ := Option.bind_eq_some_iff.mp h
      obtain ⟨⟨minute, r3⟩, hminute, h⟩ := Option.bind_eq_some_iff.mp h
      dsimp only at hcolon hminute h
      split at h
      · next hend =>
        have hhour' := Digits.pad_of_readDigits hhour
        have hminute' := Digits.pad_of_readDigits hminute
        rw [readChar_some hcolon] at hhour'
        rw [hend, List.append_nil] at hminute'
        have hor : sign = '+' ∨ sign = '-' := by
          by_contra hneither
          exact hsign (not_or.mp hneither)
        have hdigit : ∀ n i : Nat, (Nat.digitChar (n / 10 ^ i % 10)).isDigit = true := by
          intro n i
          have hall : ∀ d < 10, (Nat.digitChar d).isDigit = true := by decide
          exact hall _ (Nat.mod_lt _ (by decide))
        have hplain : Plain sign := by
          rcases hor with rfl | rfl <;> exact ⟨by decide, by decide⟩
        constructor
        · rw [hhour', hminute']
          simp only [Digits.pad, List.cons_append, List.nil_append, isZone, hdigit, Bool.and_true]
          rcases hor with rfl | rfl <;> rfl
        · intro c hc
          rw [hhour', hminute'] at hc
          rcases List.mem_cons.mp hc with rfl | hc
          · exact hplain
          · rcases List.mem_append.mp hc with hc | hc
            · exact plain_pad hc
            · rcases List.mem_cons.mp hc with rfl | hc
              · exact ⟨by decide, by decide⟩
              · exact plain_pad hc
      · cases h

/-- What stands between the seconds and the offset. -/
theorem zoneFraction_of_readFraction {f g : List Char} {fraction : Option (List Char)}
    (h : readFraction f = some (fraction, g)) (hzone : isZone g = true) (hplain : ∀ c ∈ g, Plain c) :
    zoneFraction f = fraction ∧ ∃ before, f = before ++ g ∧ ∀ c ∈ before, isLineTerminator c = false := by
  have hiso := (readFraction_iso h).2
  cases fraction with
  | none =>
    have hfg : f = g := by
      unfold readFraction at h
      split at h
      · dsimp only at h
        split at h
        · exact nomatch (Prod.mk.inj (Option.some.inj h)).1
        · exact nomatch h
      · exact (Prod.mk.inj (Option.some.inj h)).2
    subst hfg
    refine ⟨?_, [], rfl, by simp⟩
    have hnone := @zoneFraction_append _ [] fun c hc => (hplain c hc).1
    rw [List.append_nil] at hnone
    exact hnone
  | some digits =>
    obtain ⟨hone, -, htake, hdrop, hdot⟩ := hiso digits rfl
    cases f with
    | nil => exact nomatch hdot
    | cons d cs =>
      obtain rfl := Option.some.inj hdot
      rw [List.drop_one, List.tail_cons] at htake hdrop
      refine ⟨?_, '.' :: digits, ?_, ?_⟩
      · show (if _ then _ else _) = _
        rw [← htake, ← hdrop, if_pos]
        rw [hzone]
        simp only [decide_true, Bool.true_and, Bool.and_true, decide_eq_true_eq]
        intro hnil
        rw [hnil] at hone
        exact absurd hone (by decide)
      · rw [htake, hdrop, List.cons_append, List.takeWhile_append_dropWhile]
      · intro c hc
        rcases List.mem_cons.mp hc with rfl | hc
        · decide
        · have hdigit : c.isDigit = true := by
            rw [htake] at hc
            exact List.all_eq_true.mp List.all_takeWhile c hc
          have hvalue : Digits.digitValue c = some (c.toNat - '0'.toNat) := if_pos hdigit
          obtain ⟨hlt, hchar⟩ := Digits.digitChar_of_digitValue hvalue
          rw [← hchar]
          have hall : ∀ d < 10, isLineTerminator (Nat.digitChar d) = false := by decide
          exact hall _ hlt

/-- A zoned timestamp of the ledger is shaped like one, and the browser finds its fraction. -/
theorem zoned_of_readTimestamp {offset : Offset} (h : readTimestamp text = some p) (hoffset : p.offset = some offset) :
    zoneShaped text = true ∧ zoneFraction text = p.fraction := by
  obtain ⟨separator, a, b, c, d, e, f, g, hread⟩ := readTimestamp_some h
  obtain rfl : separator = 'T' := hread.zoned (by rw [hoffset]; rfl)
  have hdash : Plain '-' := ⟨by decide, by decide⟩
  have hcolon : Plain ':' := ⟨by decide, by decide⟩
  obtain ⟨hzone, hplain⟩ := isZone_of_readOffset (hoffset ▸ hread.offset)
  obtain ⟨hfraction, before, hf, hbefore⟩ := zoneFraction_of_readFraction hread.fraction hzone hplain
  obtain ⟨b1, h1, hb1⟩ := plain_field hread.year hdash
  obtain ⟨b2, h2, hb2⟩ := plain_field hread.month hdash
  have h3 := Digits.pad_of_readDigits hread.day
  obtain ⟨b4, h4, hb4⟩ := plain_field hread.hour hcolon
  obtain ⟨b5, h5, hb5⟩ := plain_field hread.minute hcolon
  have h6 := Digits.pad_of_readDigits hread.second
  have hreach : reachesZone c = true := by
    rw [h4, h5, h6, hf]
    refine reachesZone_append (fun x hx => (hb4 x hx).2) ?_
    refine reachesZone_append (fun x hx => (hb5 x hx).2) ?_
    refine reachesZone_append (fun x hx => (plain_pad hx).2) ?_
    exact reachesZone_append hbefore (reachesZone_of_isZone hzone)
  constructor
  · rw [h1, h2, h3]
    refine zoneShaped_append _ (zoneShaped_append _ (zoneShaped_append _ ?_))
    show ((_ && reachesZone c) || _) = true
    rw [hreach]
    rfl
  · rw [h1, zoneFraction_append fun x hx => (hb1 x hx).1, h2, zoneFraction_append fun x hx => (hb2 x hx).1, h3,
      zoneFraction_append fun x hx => (plain_pad hx).1]
    show (if _ then _ else zoneFraction c) = _
    rw [if_neg (by simp), h4, zoneFraction_append fun x hx => (hb4 x hx).1, h5,
      zoneFraction_append fun x hx => (hb5 x hx).1, h6, zoneFraction_append fun x hx => (plain_pad hx).1, hfraction]

/-! ## Texts that only the browser reads -/

/-- Texts of no ledger form that `Date.parse` turns into a time from 1970 on. -/
structure Beyond (fallback : List Char → Option Int) (text : List Char) : Prop where
  notLocal : ∀ p, readTimestamp text = some p → p.offset ≠ none
  notLedger : ∀ p minutes, ¬ LedgerTime text p minutes
  shaped : zoneShaped text = true
  fraction : ∀ digits, zoneFraction text = some digits → digits.length ≤ 3
  parses : ∃ milliseconds : Int, dateParse fallback text = some milliseconds ∧ 0 ≤ milliseconds ∧
    isSafeInteger milliseconds.toNat = true

theorem displayTime_eq_none {milliseconds : Int} {fraction : Option (List Char)} :
    displayTime milliseconds fraction = none ↔ ¬ (0 ≤ milliseconds ∧ isSafeInteger milliseconds.toNat = true) := by
  unfold displayTime
  split
  · next h =>
    simp only [Bool.and_eq_true, decide_eq_true_eq] at h
    exact ⟨fun hnone => (nomatch hnone), fun hnot => absurd ⟨h.2, h.1⟩ hnot⟩
  · next h =>
    simp only [Bool.and_eq_true, decide_eq_true_eq] at h
    exact ⟨fun _ hsafe => h ⟨hsafe.2, hsafe.1⟩, fun _ => rfl⟩

/-- What the browser makes of a text that the ledger refuses. -/
theorem zonedTime_eq_none (hlocal : ∀ p, readTimestamp text = some p → p.offset ≠ none)
    (hledger : ∀ p minutes, ¬ LedgerTime text p minutes) : zonedTime fallback text = none ↔ ¬ Beyond fallback text := by
  unfold zonedTime
  constructor
  · intro hnone hbeyond
    obtain ⟨milliseconds, hparse, hgood⟩ := hbeyond.parses
    rw [if_pos hbeyond.shaped, if_neg, hparse, Option.bind_some, displayTime_eq_none] at hnone
    · exact hnone hgood
    · intro hlong
      obtain ⟨digits, hdigits, hlength⟩ := Option.any_eq_true _ _ |>.mp hlong
      have hshort := hbeyond.fraction digits hdigits
      have hlong' := of_decide_eq_true hlength
      omega
  · intro hbeyond
    split
    · next hshaped =>
      split
      · rfl
      · next hshort =>
        cases hparse : dateParse fallback text with
        | none => rfl
        | some milliseconds =>
          rw [Option.bind_some, displayTime_eq_none]
          rintro hgood
          refine hbeyond ⟨hlocal, hledger, hshaped, ?_, milliseconds, hparse, hgood⟩
          intro digits hdigits
          by_contra hlong
          refine hshort ?_
          rw [hdigits]
          exact decide_eq_true (not_le.mp hlong)
    · rfl

/-- The offset of a timestamp is less than a day. -/
theorem offsetMinutes_bounds {offset : Option Offset} {minutes : Int} (h : offsetMinutes offset = .ok minutes) :
    -1439 ≤ minutes ∧ minutes ≤ 1439 := by
  unfold offsetMinutes at h
  split at h
  · obtain rfl := Except.ok.inj h
    decide
  · obtain rfl := Except.ok.inj h
    decide
  · split at h
    · exact nomatch h
    · next hbounds =>
      have hvalue := Except.ok.inj h
      split at hvalue <;> omega

theorem readTimestamp_year (h : readTimestamp text = some p) : p.year ≤ 9999 := by
  obtain ⟨_, _, _, _, _, _, _, _, hread⟩ := readTimestamp_some h
  have hlt := Digits.readDigits_lt hread.year
  omega

/-- A time of the ledger is the same in the browser. -/
theorem LedgerTime.browser {minutes : Int} (h : LedgerTime text p minutes) :
    (occurredAtOf p minutes).toOption = displayTime (calendarTime p - minutes * 60_000) p.fraction ∧
      (calendarTime p - minutes * 60_000).natAbs ≤ maxTimeValue := by
  obtain ⟨_, _, _, _, _, _, _, _, hread⟩ := readTimestamp_some h.reads
  exact occurredAtOf_toOption (proper_of_not_invalid h.valid) (readTimestamp_year h.reads) hread.fraction
    (offsetMinutes_bounds h.offset)

theorem dateParse_of_isoTime {milliseconds : Int} (h : IsoDate.isoTime text = some milliseconds)
    (hrange : milliseconds.natAbs ≤ maxTimeValue) : dateParse fallback text = some milliseconds := by
  unfold dateParse
  rw [h]
  exact if_pos hrange

/-- **Zoned timestamps**: the browser leaves them to `Date.parse`. -/
theorem zonedTime_of_ledgerTime {minutes : Int} {offset : Offset} (h : LedgerTime text p minutes) (hoffset : p.offset = some offset) :
    zonedTime fallback text = (occurredAtOf p minutes).toOption := by
  obtain ⟨_, _, _, _, _, _, _, _, hread⟩ := readTimestamp_some h.reads
  obtain ⟨hshaped, hfraction⟩ := zoned_of_readTimestamp h.reads hoffset
  obtain ⟨htime, hrange⟩ := h.browser
  have hparse : dateParse fallback text = some (calendarTime p - minutes * 60_000) :=
    dateParse_of_isoTime (isoTime_of_readTimestamp h hoffset) hrange
  unfold zonedTime
  rw [if_pos hshaped, hfraction, if_neg, hparse, Option.bind_some, htime]
  intro hlong
  obtain ⟨digits, hdigits, hlength⟩ := Option.any_eq_true _ _ |>.mp hlong
  have hshort := ((readFraction_iso hread.fraction).2 digits hdigits).2.1
  have hlong' := of_decide_eq_true hlength
  omega

/-- **Local timestamps**: the browser reads them itself. -/
theorem localTime_agrees (h : readTimestamp text = some p) (hlocal : p.offset = none) :
    localTime p = if p.invalid then none else (occurredAtOf p (8 * 60)).toOption := by
  unfold localTime
  rw [localChecks_eq hlocal]
  by_cases hinvalid : p.invalid = true
  · rw [if_pos hinvalid, if_pos hinvalid]
  · rw [if_neg hinvalid, if_neg hinvalid]
    have htime : LedgerTime text p (8 * 60) := ⟨h, Bool.eq_false_iff.mpr hinvalid, by rw [hlocal]; rfl⟩
    rw [htime.browser.1]
    rfl

theorem comparisonTime_agrees (fallback : List Char → Option Int) (value : Option String) :
    comparisonTime fallback value = (parseOccurredAtWithPrecision value).toOption ↔
      ¬ Beyond fallback (trim (value.getD "")).toList := by
  rw [parseOccurredAt_toOption]
  unfold comparisonTime
  generalize (trim (value.getD "")).toList = text
  cases hread : readTimestamp text with
  | none =>
    show zonedTime fallback text = none ↔ _
    refine zonedTime_eq_none (fun p hp => ?_) (fun p minutes htime => ?_)
    · exact nomatch hread.symm.trans hp
    · exact nomatch hread.symm.trans htime.reads
  | some p =>
    rw [Option.bind_some]
    cases hoffset : p.offset with
    | none =>
      rw [Option.filter_some_pos (by rw [hoffset]; rfl)]
      refine ⟨fun _ hbeyond => hbeyond.notLocal p hread hoffset, fun _ => ?_⟩
      exact localTime_agrees hread hoffset
    | some offset =>
      rw [Option.filter_some_neg (by rw [hoffset]; rfl)]
      show zonedTime fallback text = _ ↔ _
      by_cases hledger : ∃ minutes, LedgerTime text p minutes
      · obtain ⟨minutes, htime⟩ := hledger
        refine ⟨fun _ hbeyond => hbeyond.notLedger p minutes htime, fun _ => ?_⟩
        rw [if_neg (Bool.eq_false_iff.mp htime.valid), ← hoffset, htime.offset]
        exact zonedTime_of_ledgerTime htime hoffset
      · have hrefused : (if p.invalid then none else (offsetMinutes (some offset)).toOption.bind fun minutes =>
            (occurredAtOf p minutes).toOption) = none := by
          by_cases hinvalid : p.invalid = true
          · exact if_pos hinvalid
          · rw [if_neg hinvalid]
            cases hminutes : offsetMinutes (some offset) with
            | error e => rfl
            | ok minutes => exact absurd ⟨minutes, hread, Bool.eq_false_iff.mpr hinvalid, hoffset ▸ hminutes⟩ hledger
        rw [hrefused]
        refine zonedTime_eq_none (fun q hq => ?_) (fun q minutes htime => ?_)
        · obtain rfl := Option.some.inj (hread.symm.trans hq)
          rw [hoffset]
          exact fun hnone => nomatch hnone
        · obtain rfl := Option.some.inj (hread.symm.trans htime.reads)
          exact hledger ⟨minutes, htime⟩

/-! ## Rows -/

/-- A time the ledger accepts: the parts it has, and its place before the year 10000 ends. -/
theorem ledgerTime_of_parse {value : Option String} {t : ParsedOccurredAt} (h : parseOccurredAtWithPrecision value = .ok t) :
    ∃ p minutes, LedgerTime (trim (value.getD "")).toList p minutes ∧ occurredAtOf p minutes = .ok t := by
  have hsome := congrArg Except.toOption h
  rw [parseOccurredAt_toOption] at hsome
  obtain ⟨p, hread, hsome⟩ := Option.bind_eq_some_iff.mp hsome
  split at hsome
  · exact nomatch hsome
  · next hvalid =>
    obtain ⟨minutes, hminutes, hsome⟩ := Option.bind_eq_some_iff.mp hsome
    refine ⟨p, minutes, ⟨hread, Bool.eq_false_iff.mpr hvalid, ?_⟩, ?_⟩
    · cases hoffset : offsetMinutes p.offset with
      | error e =>
        rw [hoffset] at hminutes
        exact nomatch hminutes
      | ok m =>
        rw [hoffset] at hminutes
        exact congrArg Except.ok (Option.some.inj hminutes)
    · cases htime : occurredAtOf p minutes with
      | error e =>
        rw [htime] at hsome
        exact nomatch hsome
      | ok u =>
        rw [htime] at hsome
        exact congrArg Except.ok (Option.some.inj hsome)

theorem comparisonTime_of_parse {value : Option String} {t : ParsedOccurredAt} (h : parseOccurredAtWithPrecision value = .ok t) :
    comparisonTime fallback value = some t := by
  obtain ⟨p, minutes, htime, -⟩ := ledgerTime_of_parse h
  rw [(comparisonTime_agrees fallback value).mpr fun hbeyond => hbeyond.notLedger p minutes htime, h]
  rfl

theorem parsed_lt {value : Option String} {t : ParsedOccurredAt} (h : parseOccurredAtWithPrecision value = .ok t) :
    t.milliseconds < 253_402_387_200_000 := by
  obtain ⟨p, minutes, htime, hvalue⟩ := ledgerTime_of_parse h
  obtain ⟨_, _, _, _, _, _, _, _, hread⟩ := readTimestamp_some htime.reads
  have hproper := proper_of_not_invalid htime.valid
  obtain ⟨-, hhigh⟩ := hproper.bounds (readTimestamp_year htime.reads)
  obtain ⟨hlow, -⟩ := offsetMinutes_bounds htime.offset
  have hmilliseconds := fractionMilliseconds_lt hread.fraction
  have hhour := hproper.hour
  have hminute := hproper.minute
  have hsecond := hproper.second
  unfold occurredAtOf at hvalue
  dsimp only at hvalue
  split at hvalue
  · exact nomatch hvalue
  · obtain rfl := Except.ok.inj hvalue
    dsimp only
    omega

/-- The time of an entry comes back from the text the server sends. -/
theorem dateParse_toISOString {milliseconds : Nat} (h : milliseconds < 253_402_387_200_000) :
    dateParse fallback (IsoDate.toISOString milliseconds) = some (milliseconds : Int) := by
  have hfirst : Calendar.yearOf 0 = 1970 := by decide +kernel
  have hlast : Calendar.yearOf 2932897 = 10000 := by decide +kernel
  have hlow : Calendar.yearOf 0 ≤ Calendar.yearOf ((milliseconds : Int) / 86_400_000) := Calendar.yearOf_mono (by omega)
  have hhigh : Calendar.yearOf ((milliseconds : Int) / 86_400_000) ≤ Calendar.yearOf 2932897 := Calendar.yearOf_mono (by omega)
  have hyear : (Calendar.civil ((milliseconds : Int) / 86_400_000)).year.natAbs < 10 ^ 6 := by
    show (Calendar.yearOf ((milliseconds : Int) / 86_400_000)).natAbs < 10 ^ 6
    omega
  have hrange : (milliseconds : Int).natAbs ≤ maxTimeValue := by
    rw [Int.natAbs_natCast]
    unfold maxTimeValue
    omega
  exact dateParse_of_isoTime (IsoDate.isoTime_toISOString hyear) hrange

/-- What the rows of a comparison mark: the facts in which the event and the entry differ. -/
def factMarks (facts stored : SemanticFacts) : List (String × Bool) :=
  [("支付宝交易金额", facts.amountCents ≠ stored.amountCents),
    ("收支方向", facts.direction ≠ stored.direction),
    ("支付宝交易时间", facts.occurredAt ≠ stored.occurredAt),
    ("时间精度", facts.occurredAtPrecisionMilliseconds ≠ stored.occurredAtPrecisionMilliseconds),
    ("支付宝流水号", facts.externalEventId ≠ stored.externalEventId),
    ("支付宝订单号", facts.alipayOrderNo ≠ stored.alipayOrderNo),
    ("支付宝商户单号", facts.merchantOrderNo ≠ stored.merchantOrderNo),
    ("支付宝交易对方", facts.otherAccount ≠ stored.otherAccount),
    ("支付宝交易备注", facts.transMemo ≠ stored.transMemo)]

/-- Facts that differ are marked somewhere. -/
theorem factMarks_differ {facts stored : SemanticFacts} (h : stored ≠ facts) : ∃ mark ∈ factMarks facts stored, mark.2 = true := by
  by_contra hnone
  simp only [factMarks, List.mem_cons, List.not_mem_nil, or_false, exists_eq_or_imp, exists_eq_left, decide_eq_true_eq,
    not_or, not_not] at hnone
  obtain ⟨hamount, hdirection, hoccurred, hprecision, hexternal, horder, hmerchant, hother, hmemo⟩ := hnone
  refine h ?_
  cases facts
  cases stored
  simp_all only

/-- The facts of an event are what its texts say. -/
structure Reads (raw : RawEvent) (facts : SemanticFacts) : Prop where
  occurred : parseOccurredAtWithPrecision raw.occurredAtText = .ok ⟨facts.occurredAt, facts.occurredAtPrecisionMilliseconds⟩
  amount : parseAmountCents raw.amountText = .ok facts.amountCents
  direction : parseDirection raw.directionText = .ok facts.direction
  alipayOrderNo : facts.alipayOrderNo = raw.alipayOrderNo
  merchantOrderNo : facts.merchantOrderNo = raw.merchantOrderNo
  transMemo : facts.transMemo = raw.transMemo
  otherAccount : facts.otherAccount = raw.otherAccount

theorem normalizeFacts_reads {raw : RawEvent} {externalEventId : String} {facts : SemanticFacts}
    (h : normalizeFacts raw externalEventId = .ok facts) : Reads raw facts := by
  obtain ⟨occurrence, htime, hrest⟩ := except_bind_ok.mp h
  obtain ⟨amountCents, hamount, hrest⟩ := except_bind_ok.mp hrest
  obtain ⟨direction, hdirection, hrest⟩ := except_bind_ok.mp hrest
  obtain rfl := Except.ok.inj hrest
  exact ⟨htime, hamount, hdirection, rfl, rfl, rfl, rfl⟩

/-- The precision is compared once both times are there. -/
theorem precisionRow_marks (entry : ConflictLedgerEntry) (t : ParsedOccurredAt) :
    (precisionRow (some entry) (some t)).map (fun row => (row.name, row.differs)) =
      [("时间精度", !decide (t.precisionMilliseconds = entry.occurredAtPrecisionMilliseconds))] := by
  show [(_, decide (¬ t.precisionMilliseconds = entry.occurredAtPrecisionMilliseconds))] = _
  rw [decide_not]

theorem comparison_marks (browser : Browser) {type : LedgerConflictType} {raw rawOfEntry : RawEvent} {entry : LedgerEntry}
    {facts : SemanticFacts} (hexternal : raw.externalEventId = some facts.externalEventId) (hfacts : Reads raw facts)
    (hentry : Reads rawOfEntry entry.facts) :
    (conflictComparison browser type (some raw) (some (serializeConflictLedgerEntry entry))).map
      (fun row => (row.name, row.differs)) = factMarks facts entry.facts := by
  have hdate : dateParse browser.fallback (IsoDate.toISOString entry.facts.occurredAt) = some (entry.facts.occurredAt : Int) :=
    dateParse_toISOString (parsed_lt hentry.occurred)
  have htime : comparisonTime browser.fallback raw.occurredAtText =
      some ⟨facts.occurredAt, facts.occurredAtPrecisionMilliseconds⟩ := comparisonTime_of_parse hfacts.occurred
  have hamount : comparisonAmount raw.amountText = some facts.amountCents := by
    rw [comparisonAmount_agrees, hfacts.amount]
    rfl
  have hdirection : comparisonDirection raw.directionText = some facts.direction := by
    rw [comparisonDirection_agrees, hfacts.direction]
    rfl
  unfold conflictComparison
  rw [Option.bind_some, htime, List.map_append, List.map_append, precisionRow_marks]
  simp only [amountRow, directionRow, timeRow, externalIdRow, textRow, serializeConflictLedgerEntry, Option.bind_some,
    List.map_cons, List.map_nil, List.cons_append, List.nil_append, Option.all_some, Option.any_some, hamount, hdirection,
    hdate, hexternal, factMarks, hfacts.alipayOrderNo, hfacts.merchantOrderNo, hfacts.transMemo, hfacts.otherAccount]
  simp only [ne_eq, Option.some.injEq, Int.natCast_inj, decide_not, eq_comm (a := entry.facts.occurredAt)]
  rfl

/-! ## The comparison -/

end PerPay.Ledger
