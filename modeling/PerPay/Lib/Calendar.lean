/-
  **The civil calendar** — days since 1970-01-01 and proleptic Gregorian dates, as ECMAScript's `Date`
  defines them.

  `dayFromYear y` is the day number of January 1st of year `y`; a date is a year, a month `1…12` and
  a day of the month.  Three facts carry everything that is later said about formatted timestamps:

  1. the date of a day number is a date (`civil_valid`), and `dayOf` takes it back (`dayOf_civil`);
  2. the day number of a date has that date (`civil_dayOf`);
  3. later days have later dates (`civil_lt`), lexicographically.
-/
import Mathlib.Data.Int.Basic
import Mathlib.Tactic.IntervalCases

namespace Calendar

/-! ## Years -/

/-- The day number of January 1st (ECMAScript's `DayFromYear`). -/
def dayFromYear (y : Int) : Int :=
  365 * (y - 1970) + (y - 1969) / 4 - (y - 1901) / 100 + (y - 1601) / 400

def isLeap (y : Int) : Bool := y % 4 = 0 && (y % 100 ≠ 0 || y % 400 = 0)

def daysInYear (y : Int) : Int := if isLeap y then 366 else 365

theorem dayFromYear_succ (y : Int) : dayFromYear (y + 1) = dayFromYear y + daysInYear y := by
  unfold dayFromYear daysInYear isLeap
  simp only [Bool.and_eq_true, Bool.or_eq_true, decide_eq_true_eq]
  split <;> omega

theorem daysInYear_pos (y : Int) : 365 ≤ daysInYear y ∧ daysInYear y ≤ 366 := by
  unfold daysInYear
  split <;> omega

theorem dayFromYear_lt {y z : Int} (h : y < z) : dayFromYear y + 365 ≤ dayFromYear z := by
  unfold dayFromYear
  omega

/-- The year of a day number: 400-, 100-, 4- and 1-year cycles, counted from 0001-01-01. -/
def yearOf (d : Int) : Int :=
  let z := d + 719162
  let c := z / 146097
  let r := z % 146097
  let b := min (r / 36524) 3
  let r := r - 36524 * b
  let q := r / 1461
  let r := r % 1461
  400 * c + 100 * b + 4 * q + min (r / 365) 3 + 1

/-- The days before a year, from the year's position in the 400-, 100- and 4-year cycles. -/
theorem dayFromYear_cycles {c b q n : Int} (hb : 0 ≤ b) (hb3 : b ≤ 3) (hq : 0 ≤ q) (hq24 : q ≤ 24)
    (hn : 0 ≤ n) (hn3 : n ≤ 3) :
    dayFromYear (400 * c + 100 * b + 4 * q + n + 1)
      = 146097 * c + 36524 * b + 1461 * q + 365 * n - 719162 := by
  have h4 : (400 * c + 100 * b + 4 * q + n + 1 - 1969) / 4 = 100 * c + 25 * b + q - 492 := by omega
  have h100 : (400 * c + 100 * b + 4 * q + n + 1 - 1901) / 100 = 4 * c + b - 19 := by omega
  have h400 : (400 * c + 100 * b + 4 * q + n + 1 - 1601) / 400 = c - 4 := by omega
  rw [dayFromYear, h4, h100, h400]
  omega

/-- The last year of a 4-year cycle is leap, unless it ends a century that is not a fourth one. -/
theorem isLeap_cycles {c b q : Int} (hq : 0 ≤ q) (hq24 : q ≤ 24)
    (h : q < 24 ∨ b = 3) : isLeap (400 * c + 100 * b + 4 * q + 3 + 1) = true := by
  unfold isLeap
  simp only [Bool.and_eq_true, Bool.or_eq_true, decide_eq_true_eq]
  omega

/-- A day lies in its year. -/
theorem yearOf_spec (d : Int) : dayFromYear (yearOf d) ≤ d ∧ d < dayFromYear (yearOf d + 1) := by
  -- the four positions, each with its bounds; from here on no division is left
  obtain ⟨c, hc⟩ : ∃ c, c = (d + 719162) / 146097 := ⟨_, rfl⟩
  obtain ⟨r, hr⟩ : ∃ r, r = (d + 719162) % 146097 := ⟨_, rfl⟩
  obtain ⟨b, hb⟩ : ∃ b, b = min (r / 36524) 3 := ⟨_, rfl⟩
  obtain ⟨q, hq⟩ : ∃ q, q = (r - 36524 * b) / 1461 := ⟨_, rfl⟩
  obtain ⟨s, hs⟩ : ∃ s, s = (r - 36524 * b) % 1461 := ⟨_, rfl⟩
  obtain ⟨n, hn⟩ : ∃ n, n = min (s / 365) 3 := ⟨_, rfl⟩
  have hy : yearOf d = 400 * c + 100 * b + 4 * q + n + 1 := by
    simp only [yearOf, ← hc, ← hr, ← hb, ← hq, ← hs, ← hn]
  have hd : d = 146097 * c + r - 719162 := by omega
  have hr0 : 0 ≤ r ∧ r < 146097 := by omega
  clear hc hr
  have hb0 : 0 ≤ b ∧ b ≤ 3 ∧ 36524 * b ≤ r ∧ (b < 3 → r < 36524 * b + 36524) := by omega
  clear hb
  have hqs : r = 36524 * b + 1461 * q + s := by omega
  have hs0 : 0 ≤ s ∧ s < 1461 := by omega
  have hq0 : 0 ≤ q ∧ q ≤ 24 := by omega
  clear hq hs
  have hn0 : 0 ≤ n ∧ n ≤ 3 ∧ 365 * n ≤ s ∧ (n < 3 → s < 365 * n + 365) := by omega
  clear hn
  have hstart := dayFromYear_cycles (c := c) hb0.1 hb0.2.1 hq0.1 hq0.2 hn0.1 hn0.2.1
  rw [dayFromYear_succ, hy, hstart]
  refine ⟨by omega, ?_⟩
  have h365 := daysInYear_pos (400 * c + 100 * b + 4 * q + n + 1)
  by_cases hlast : n = 3 ∧ (q < 24 ∨ b = 3)
  · -- the leap year of its cycle
    have hleap := isLeap_cycles (c := c) (b := b) hq0.1 hq0.2 hlast.2
    rw [hlast.1] at hn0 ⊢
    rw [daysInYear, if_pos hleap]
    omega
  · omega

theorem yearOf_unique {d y : Int} (h1 : dayFromYear y ≤ d) (h2 : d < dayFromYear (y + 1)) :
    yearOf d = y := by
  obtain ⟨h3, h4⟩ := yearOf_spec d
  have hmono : ∀ {u v : Int}, u + 1 ≤ v → dayFromYear (u + 1) ≤ dayFromYear v := by
    intro u v huv
    by_cases he : u + 1 = v
    · rw [he]
    · have := dayFromYear_lt (y := u + 1) (z := v) (by omega)
      omega
  rcases Int.lt_trichotomy (yearOf d) y with h | h | h
  · have := hmono (u := yearOf d) (v := y) (by omega)
    omega
  · exact h
  · have := hmono (u := y) (v := yearOf d) (by omega)
    omega

theorem yearOf_mono {d d' : Int} (h : d ≤ d') : yearOf d ≤ yearOf d' := by
  by_contra hlt
  have hstep := dayFromYear_lt (y := yearOf d') (z := yearOf d) (by omega)
  have hd := (yearOf_spec d).1
  have hd' := (yearOf_spec d').2
  by_cases he : yearOf d' + 1 = yearOf d
  · rw [he] at hd'
    omega
  · have := dayFromYear_lt (y := yearOf d' + 1) (z := yearOf d) (by omega)
    omega

/-! ## Months -/

/-- Days of the year before month `m`. -/
def monthStart (leap : Bool) (m : Nat) : Int :=
  let shift : Int := if leap then 1 else 0
  match m with
  | 0 | 1 => 0
  | 2 => 31
  | 3 => 59 + shift
  | 4 => 90 + shift
  | 5 => 120 + shift
  | 6 => 151 + shift
  | 7 => 181 + shift
  | 8 => 212 + shift
  | 9 => 243 + shift
  | 10 => 273 + shift
  | 11 => 304 + shift
  | 12 => 334 + shift
  | _ => 365 + shift

def daysInMonth (leap : Bool) (m : Nat) : Int := monthStart leap (m + 1) - monthStart leap m

/-- The month of a day of the year, counted from `0`. -/
def monthOf (leap : Bool) (n : Int) : Nat :=
  if n < monthStart leap 2 then 1
  else if n < monthStart leap 3 then 2
  else if n < monthStart leap 4 then 3
  else if n < monthStart leap 5 then 4
  else if n < monthStart leap 6 then 5
  else if n < monthStart leap 7 then 6
  else if n < monthStart leap 8 then 7
  else if n < monthStart leap 9 then 8
  else if n < monthStart leap 10 then 9
  else if n < monthStart leap 11 then 10
  else if n < monthStart leap 12 then 11
  else 12

theorem monthStart_mono (leap : Bool) {m n : Nat} (h1 : 1 ≤ m) (h : m < n) (h2 : n ≤ 13) :
    monthStart leap m + 28 ≤ monthStart leap n := by
  cases leap <;> interval_cases n <;> interval_cases m <;> decide

/-- One row of the table: the day is in month `k`, or the rest of the table finds its month. -/
theorem monthOf_row {leap : Bool} {n : Int} {k rest : Nat} (hk : 1 ≤ k ∧ k ≤ 12)
    (hlow : monthStart leap k ≤ n)
    (hrest : monthStart leap (k + 1) ≤ n → 1 ≤ rest ∧ rest ≤ 12 ∧ monthStart leap rest ≤ n ∧
      n < monthStart leap (rest + 1)) :
    1 ≤ (if n < monthStart leap (k + 1) then k else rest) ∧
      (if n < monthStart leap (k + 1) then k else rest) ≤ 12 ∧
      monthStart leap (if n < monthStart leap (k + 1) then k else rest) ≤ n ∧
      n < monthStart leap ((if n < monthStart leap (k + 1) then k else rest) + 1) := by
  by_cases h : n < monthStart leap (k + 1)
  · rw [if_pos h]
    exact ⟨hk.1, hk.2, hlow, h⟩
  · rw [if_neg h]
    exact hrest (Int.not_lt.mp h)

theorem monthOf_spec (leap : Bool) {n : Int} (h0 : 0 ≤ n) (h1 : n < monthStart leap 13) :
    1 ≤ monthOf leap n ∧ monthOf leap n ≤ 12 ∧ monthStart leap (monthOf leap n) ≤ n ∧
      n < monthStart leap (monthOf leap n + 1) := by
  unfold monthOf
  apply monthOf_row ⟨by omega, by omega⟩ h0
  iterate 10
    intro h
    apply monthOf_row ⟨by omega, by omega⟩ h
  intro h
  exact ⟨by omega, by omega, h, h1⟩

theorem monthOf_unique {leap : Bool} {n : Int} {m : Nat} (hm : 1 ≤ m) (hm12 : m ≤ 12)
    (h1 : monthStart leap m ≤ n) (h2 : n < monthStart leap (m + 1)) : monthOf leap n = m := by
  have h0 : 0 ≤ n := by
    have : 0 ≤ monthStart leap m := by cases leap <;> interval_cases m <;> decide
    omega
  have h13 : n < monthStart leap 13 := by
    by_cases he : m = 12
    · rw [he] at h2; exact h2
    · have := monthStart_mono leap (m := m + 1) (n := 13) (by omega) (by omega) (by omega)
      omega
  obtain ⟨ha, hb, hc, hd⟩ := monthOf_spec leap h0 h13
  rcases Nat.lt_trichotomy (monthOf leap n) m with h | h | h
  · by_cases he : monthOf leap n + 1 = m
    · rw [he] at hd; omega
    · have := monthStart_mono leap (m := monthOf leap n + 1) (n := m)
        (by omega) (by omega) (by omega)
      omega
  · exact h
  · by_cases he : m + 1 = monthOf leap n
    · rw [he] at h2; omega
    · have := monthStart_mono leap (m := m + 1) (n := monthOf leap n)
        (by omega) (by omega) (by omega)
      omega

/-! ## Dates -/

structure Civil where
  year : Int
  month : Nat
  day : Nat
deriving DecidableEq, Repr

/-- A date of the calendar: the months have their days. -/
def Civil.Valid (c : Civil) : Prop :=
  1 ≤ c.month ∧ c.month ≤ 12 ∧ 1 ≤ c.day ∧ (c.day : Int) ≤ daysInMonth (isLeap c.year) c.month

instance (c : Civil) : Decidable c.Valid := inferInstanceAs (Decidable (_ ∧ _ ∧ _ ∧ _))

/-- The day number of a date. -/
def dayOf (c : Civil) : Int := dayFromYear c.year + monthStart (isLeap c.year) c.month + c.day - 1

/-- The date of a day number. -/
def civil (d : Int) : Civil :=
  let y := yearOf d
  let n := d - dayFromYear y
  let m := monthOf (isLeap y) n
  { year := y, month := m, day := (n - monthStart (isLeap y) m + 1).toNat }

theorem monthStart_13 (y : Int) : monthStart (isLeap y) 13 = daysInYear y := by
  unfold daysInYear
  cases isLeap y <;> rfl

/-- What the month of a day's date says of the day. -/
theorem civil_month (d : Int) :
    1 ≤ (civil d).month ∧ (civil d).month ≤ 12 ∧
      monthStart (isLeap (yearOf d)) (civil d).month ≤ d - dayFromYear (yearOf d) ∧
      d - dayFromYear (yearOf d) < monthStart (isLeap (yearOf d)) ((civil d).month + 1) := by
  obtain ⟨h1, h2⟩ := yearOf_spec d
  rw [dayFromYear_succ] at h2
  exact monthOf_spec _ (by omega) (by rw [monthStart_13]; omega)

theorem civil_day (d : Int) : ((civil d).day : Int)
    = d - dayFromYear (yearOf d) - monthStart (isLeap (yearOf d)) (civil d).month + 1 := by
  have := (civil_month d).2.2.1
  exact Int.toNat_of_nonneg (by simp only [civil] at this ⊢; omega)

@[simp] theorem civil_year (d : Int) : (civil d).year = yearOf d := rfl

theorem civil_valid (d : Int) : (civil d).Valid := by
  obtain ⟨h1, h2, h3, h4⟩ := civil_month d
  have hday := civil_day d
  refine ⟨h1, h2, ?_, ?_⟩
  · omega
  · rw [civil_year, daysInMonth]
    omega

theorem dayOf_civil (d : Int) : dayOf (civil d) = d := by
  rw [dayOf, civil_year, civil_day]
  omega

theorem Civil.Valid.yearOf {c : Civil} (h : c.Valid) : yearOf (dayOf c) = c.year := by
  obtain ⟨h1, h2, h3, h4⟩ := h
  have h0 : 0 ≤ monthStart (isLeap c.year) c.month := by
    generalize c.month = m at h1 h2 ⊢
    cases isLeap c.year <;> interval_cases m <;> decide
  have h13 : monthStart (isLeap c.year) (c.month + 1) ≤ daysInYear c.year := by
    rw [← monthStart_13]
    by_cases he : c.month = 12
    · rw [he]
    · have := monthStart_mono (isLeap c.year) (m := c.month + 1) (n := 13)
        (by omega) (by omega) (by omega)
      omega
  unfold daysInMonth at h4
  apply yearOf_unique
  · unfold dayOf; omega
  · rw [dayFromYear_succ, dayOf]; omega

theorem civil_dayOf {c : Civil} (h : c.Valid) : civil (dayOf c) = c := by
  have hy := h.yearOf
  obtain ⟨h1, h2, h3, h4⟩ := h
  unfold daysInMonth at h4
  have hn : dayOf c - dayFromYear c.year = monthStart (isLeap c.year) c.month + c.day - 1 := by
    unfold dayOf; omega
  have hm : monthOf (isLeap c.year) (dayOf c - dayFromYear c.year) = c.month :=
    monthOf_unique h1 h2 (by omega) (by omega)
  have hday : (dayOf c - dayFromYear c.year - monthStart (isLeap c.year) c.month + 1).toNat = c.day := by
    omega
  simp only [civil, hy, hm, hday]

/-- Later days have later dates. -/
theorem civil_lt {d d' : Int} (h : d < d') :
    (civil d).year < (civil d').year ∨ (civil d).year = (civil d').year ∧
      ((civil d).month < (civil d').month ∨ (civil d).month = (civil d').month ∧
        (civil d).day < (civil d').day) := by
  rcases Int.lt_or_eq_of_le (yearOf_mono (Int.le_of_lt h)) with hy | hy
  · exact .inl hy
  refine .inr ⟨hy, ?_⟩
  obtain ⟨a1, a2, a3, a4⟩ := civil_month d
  obtain ⟨b1, b2, b3, b4⟩ := civil_month d'
  have hday := civil_day d
  have hday' := civil_day d'
  rw [← hy] at b3 b4 hday'
  rcases Nat.lt_trichotomy (civil d).month (civil d').month with hm | hm | hm
  · exact .inl hm
  · refine .inr ⟨hm, ?_⟩
    rw [← hm] at hday'
    omega
  · -- an earlier month would start after the later day
    by_cases he : (civil d').month + 1 = (civil d).month
    · rw [he] at b4; omega
    · have := monthStart_mono (isLeap (yearOf d)) (m := (civil d').month + 1)
        (n := (civil d).month) (by omega) (by omega) (by omega)
      omega

end Calendar
