/-
The Gregorian calendar in both directions of time.

Years are counted from March, so that the day a leap year adds is its last, and months are
counted through from March of year 0.  A day's number is that of its month's first day and
what it comes after it, and the first days of the months increase strictly
(`monthOrdinal_strictMono`), so that a number is of one date only (`Date.eq_of_dayNumber_eq`)
and a later date has the greater one (`Date.dayNumber_lt`).
-/
import Mathlib.Tactic
import Mathlib.Order.SuccPred.IntervalSucc

namespace UrnetworkWindows.Lib.Calendar

/-- The days from 1 March of year 0 to 1 March of year `y`. -/
def yearStart (y : ℤ) : ℤ := 365 * y + y / 4 - y / 100 + y / 400

/-- The days from 1 March to the first of the month that comes `m` months later. -/
def monthStart (m : ℤ) : ℤ := (153 * m + 2) / 5

/-- The first day of month `n`, in days from 1 March of year 0. -/
def monthOrdinal (n : ℤ) : ℤ := yearStart (n / 12) + monthStart (n % 12)

/-- The days of month `n`. -/
def monthLength (n : ℤ) : ℤ := monthOrdinal (n + 1) - monthOrdinal n

/-- A leap year adds a day to the year from March on that ends in it. -/
lemma yearStart_succ (y : ℤ) : yearStart (y + 1) =
    yearStart y +
      if (y + 1) % 4 = 0 ∧ ((y + 1) % 100 ≠ 0 ∨ (y + 1) % 400 = 0) then 366 else 365 := by
  unfold yearStart
  split_ifs <;> omega

/-- Four hundred years have the same number of days wherever they begin. -/
lemma yearStart_add_era (era y : ℤ) : yearStart (400 * era + y) = 146097 * era + yearStart y := by
  unfold yearStart
  omega

/-- Within a year from March on a month has the days that the table of its starts leaves. -/
lemma monthLength_of_ne {n : ℤ} (h : n % 12 ≠ 11) :
    monthLength n = monthStart (n % 12 + 1) - monthStart (n % 12) := by
  have hdiv : (n + 1) / 12 = n / 12 := by omega
  have hmod : (n + 1) % 12 = n % 12 + 1 := by omega
  rw [monthLength, monthOrdinal, monthOrdinal, hdiv, hmod]
  ring

/-- The last month from March on is February. -/
lemma monthLength_of_eq {n : ℤ} (h : n % 12 = 11) :
    monthLength n = yearStart (n / 12 + 1) - yearStart (n / 12) - 337 := by
  have hdiv : (n + 1) / 12 = n / 12 + 1 := by omega
  have hmod : (n + 1) % 12 = 0 := by omega
  rw [monthLength, monthOrdinal, monthOrdinal, hdiv, hmod, h]
  unfold monthStart
  omega

lemma monthLength_pos (n : ℤ) : 0 < monthLength n := by
  by_cases h : n % 12 = 11
  · rw [monthLength_of_eq h, yearStart_succ]
    split_ifs <;> omega
  · rw [monthLength_of_ne h]
    unfold monthStart
    omega

lemma monthLength_le (n : ℤ) : monthLength n ≤ 31 := by
  by_cases h : n % 12 = 11
  · rw [monthLength_of_eq h, yearStart_succ]
    split_ifs <;> omega
  · rw [monthLength_of_ne h]
    unfold monthStart
    omega

/-- A later month begins later. -/
lemma monthOrdinal_strictMono : StrictMono monthOrdinal := by
  refine strictMono_int_of_lt_succ fun n => ?_
  have hpos := monthLength_pos n
  rw [monthLength] at hpos
  omega

/-! ### Dates -/

/-- A date, with the month from 1 on. -/
structure Date where
  year : ℤ
  month : ℤ
  day : ℤ
deriving DecidableEq, Repr

namespace Date

variable {d e : Date}

/-- The months from March of year 0. -/
def months (d : Date) : ℤ := 12 * d.year + d.month - 3

/-- The days from 1 March of year 0. -/
def dayNumber (d : Date) : ℤ := monthOrdinal d.months + d.day - 1

/-- A date of the calendar. -/
structure Valid (d : Date) : Prop where
  one_le_month : 1 ≤ d.month
  month_le : d.month ≤ 12
  one_le_day : 1 ≤ d.day
  day_le : d.day ≤ monthLength d.months

/-- The dates in their order. -/
def Before (d e : Date) : Prop := d.months < e.months ∨ d.months = e.months ∧ d.day < e.day

/-- A later date has the greater number. -/
lemma dayNumber_lt (hd : d.Valid) (he : e.Valid) (h : d.Before e) : d.dayNumber < e.dayNumber := by
  unfold dayNumber
  rcases h with h | ⟨h, hday⟩
  · have hmono : monthOrdinal (d.months + 1) ≤ monthOrdinal e.months :=
      monthOrdinal_strictMono.monotone h
    have hle := hd.day_le
    have hpos := he.one_le_day
    rw [monthLength] at hle
    omega
  · rw [h]
    omega

lemma before_of_dayNumber_lt (hd : d.Valid) (he : e.Valid) (h : d.dayNumber < e.dayNumber) :
    d.Before e := by
  by_contra hnot
  unfold Before at hnot
  rcases lt_trichotomy d.months e.months with hlt | heq | hgt
  · exact hnot (.inl hlt)
  · have hday : ¬ d.day < e.day := fun hlt => hnot (.inr ⟨heq, hlt⟩)
    unfold dayNumber at h
    rw [heq] at h
    omega
  · have hle := dayNumber_lt he hd (.inl hgt)
    omega

/-- A number is of one date only. -/
lemma eq_of_dayNumber_eq (hd : d.Valid) (he : e.Valid) (h : d.dayNumber = e.dayNumber) :
    d = e := by
  have hmonths : d.months = e.months := by
    rcases lt_trichotomy d.months e.months with hlt | heq | hgt
    · exact absurd (dayNumber_lt hd he (.inl hlt)) (by omega)
    · exact heq
    · exact absurd (dayNumber_lt he hd (.inl hgt)) (by omega)
  obtain ⟨year, month, day⟩ := d
  obtain ⟨year', month', day'⟩ := e
  obtain ⟨h₁, h₂, -, -⟩ := hd
  obtain ⟨h₃, h₄, -, -⟩ := he
  unfold dayNumber at h
  rw [hmonths] at h
  unfold months at hmonths
  dsimp only at *
  obtain rfl : year = year' := by omega
  obtain rfl : month = month' := by omega
  obtain rfl : day = day' := by omega
  rfl

end Date

/-! ### Reading a date off a number -/

/-- The years of an era are told by their days, as the usual formula has it. -/
lemma yearOfEra_eq {y doy : ℤ} (h₀ : 0 ≤ y) (h₄₀₀ : y < 400) (hdoy : 0 ≤ doy)
    (hlen : yearStart y + doy < yearStart (y + 1)) :
    ((yearStart y + doy) - (yearStart y + doy) / 1460 + (yearStart y + doy) / 36524 -
      (yearStart y + doy) / 146096) / 365 = y := by
  -- the century, the four years of it and the year of these
  obtain ⟨c, t, s, rfl, hc₀, hc, ht₀, ht, hs₀, hs⟩ : ∃ c t s : ℤ, y = 100 * c + 4 * t + s ∧
      0 ≤ c ∧ c < 4 ∧ 0 ≤ t ∧ t < 25 ∧ 0 ≤ s ∧ s < 4 :=
    ⟨y / 100, y % 100 / 4, y % 4, by omega, by omega, by omega, by omega, by omega, by omega,
      by omega⟩
  have hstart : yearStart (100 * c + 4 * t + s) = 36524 * c + 1461 * t + 365 * s := by
    unfold yearStart
    omega
  have hlast : s < 3 → doy ≤ 364 := by
    intro hs'
    rw [yearStart_succ, hstart] at hlen
    split_ifs at hlen <;> omega
  have hdoy' : doy ≤ 365 := by
    rw [yearStart_succ, hstart] at hlen
    split_ifs at hlen <;> omega
  have hlast' : t = 24 → c < 3 → doy ≤ 364 := by
    intro ht' hc'
    rw [yearStart_succ, hstart] at hlen
    split_ifs at hlen <;> omega
  rw [hstart]
  -- four years have 1460 days and the leap day, which is the last of them
  have hfour : (36524 * c + 1461 * t + 365 * s + doy) / 1460 =
      25 * c + t + (24 * c + t + 365 * s + doy) / 1460 := by
    omega
  have hcentury : (36524 * c + 1461 * t + 365 * s + doy) / 36524 =
      c + (1461 * t + 365 * s + doy) / 36524 := by
    omega
  by_cases hend : 1461 * t + 365 * s + doy = 36524
  · -- the leap day that ends the era
    have hc₃ : c = 3 := by omega
    have hera : (36524 * c + 1461 * t + 365 * s + doy) / 146096 = 1 := by omega
    have hone : (1461 * t + 365 * s + doy) / 36524 = 1 := by omega
    have hleap : (24 * c + t + 365 * s + doy) / 1460 = 1 := by omega
    rw [hfour, hcentury, hera, hone, hleap]
    omega
  · have hera : (36524 * c + 1461 * t + 365 * s + doy) / 146096 = 0 := by omega
    have hzero : (1461 * t + 365 * s + doy) / 36524 = 0 := by omega
    rw [hfour, hcentury, hera, hzero]
    rcases lt_or_ge (24 * c + t + 365 * s + doy) 1460 with hk | hk
    · have hleap : (24 * c + t + 365 * s + doy) / 1460 = 0 := by omega
      rw [hleap]
      omega
    · have hleap : (24 * c + t + 365 * s + doy) / 1460 = 1 := by omega
      rw [hleap]
      omega

/-- A day of an era is of one of its years. -/
lemma exists_yearOfEra {doe : ℤ} (h₀ : 0 ≤ doe) (h : doe < 146097) :
    ∃ y, 0 ≤ y ∧ y < 400 ∧ yearStart y ≤ doe ∧ doe < yearStart (y + 1) := by
  have hexists : ∀ n : ℕ, n ≤ 400 → doe < yearStart n →
      ∃ y, 0 ≤ y ∧ y < 400 ∧ yearStart y ≤ doe ∧ doe < yearStart (y + 1) := by
    intro n
    induction n with
    | zero =>
      intro _ hlt
      unfold yearStart at hlt
      omega
    | succ n ih =>
      intro hn hlt
      rcases lt_or_ge doe (yearStart n) with hbefore | hle
      · exact ih (by omega) hbefore
      · refine ⟨n, by omega, by omega, hle, ?_⟩
        exact_mod_cast hlt
  refine hexists 400 le_rfl ?_
  unfold yearStart
  omega

/-- The month of a day of the year from March on. -/
lemma monthOfDay {doy : ℤ} (h₀ : 0 ≤ doy) (h : doy < 366) :
    0 ≤ (5 * doy + 2) / 153 ∧ (5 * doy + 2) / 153 ≤ 11 ∧
      monthStart ((5 * doy + 2) / 153) ≤ doy ∧ doy < monthStart ((5 * doy + 2) / 153 + 1) := by
  unfold monthStart
  omega

/-- The date of a day: its era, its year of that, and its month and its day of that year. -/
def ofDayNumber (n : ℤ) : Date :=
  let era := n / 146097
  let doe := n % 146097
  let yoe := (doe - doe / 1460 + doe / 36524 - doe / 146096) / 365
  let doy := doe - (365 * yoe + yoe / 4 - yoe / 100)
  let m := (5 * doy + 2) / 153
  let month := if m < 10 then m + 3 else m - 9
  { year := yoe + era * 400 + if month ≤ 2 then 1 else 0
    month
    day := doy - (153 * m + 2) / 5 + 1 }

/-- What the parts of a day's date are read off. -/
lemma ofDayNumber_parts (n : ℤ) : ∃ y doy m : ℤ, 0 ≤ y ∧ y < 400 ∧ 0 ≤ doy ∧
    yearStart y + doy < yearStart (y + 1) ∧ n % 146097 = yearStart y + doy ∧ 0 ≤ m ∧ m ≤ 11 ∧
    monthStart m ≤ doy ∧ doy < monthStart (m + 1) ∧
    (ofDayNumber n).months = 12 * (400 * (n / 146097) + y) + m ∧
    (ofDayNumber n).day = doy - monthStart m + 1 ∧
    1 ≤ (ofDayNumber n).month ∧ (ofDayNumber n).month ≤ 12 := by
  obtain ⟨y, hy₀, hy, hle, hlt⟩ :=
    exists_yearOfEra (Int.emod_nonneg n (b := 146097) (by omega)) (Int.emod_lt_of_pos n (by omega))
  obtain ⟨doy, hdoy⟩ : ∃ doy, n % 146097 = yearStart y + doy := ⟨n % 146097 - yearStart y, by omega⟩
  have hdoy₀ : 0 ≤ doy := by omega
  rw [hdoy] at hlt
  have hyear := yearOfEra_eq hy₀ hy hdoy₀ hlt
  have hstart : yearStart y = 365 * y + y / 4 - y / 100 := by
    unfold yearStart
    omega
  have hlen : doy < 366 := by
    rw [yearStart_succ] at hlt
    split_ifs at hlt <;> omega
  obtain ⟨hm₀, hm, hmle, hmlt⟩ := monthOfDay hdoy₀ hlen
  have hrest : yearStart y + doy - (365 * y + y / 4 - y / 100) = doy := by omega
  refine ⟨y, doy, (5 * doy + 2) / 153, hy₀, hy, hdoy₀, hlt, hdoy, hm₀, hm, hmle, hmlt, ?_⟩
  unfold Date.months ofDayNumber
  dsimp only
  rw [hdoy, hyear, hrest]
  refine ⟨?_, rfl, ?_, ?_⟩
  · split_ifs <;> omega
  · split_ifs <;> omega
  · split_ifs <;> omega

/-- The month of a day is the one it falls in. -/
lemma ofDayNumber_spec (n : ℤ) : (ofDayNumber n).Valid ∧ (ofDayNumber n).dayNumber = n := by
  obtain ⟨y, doy, m, hy₀, hy, hdoy₀, hlt, hdoy, hm₀, hm, hmle, hmlt, hmonths, hday, hmonth₁,
    hmonth⟩ := ofDayNumber_parts n
  have hdiv : (12 * (400 * (n / 146097) + y) + m) / 12 = 400 * (n / 146097) + y := by omega
  have hmod : (12 * (400 * (n / 146097) + y) + m) % 12 = m := by omega
  have hordinal : monthOrdinal (ofDayNumber n).months =
      146097 * (n / 146097) + yearStart y + monthStart m := by
    rw [hmonths, monthOrdinal, hdiv, hmod, yearStart_add_era]
  have hlength : doy - monthStart m < monthLength (ofDayNumber n).months := by
    rw [hmonths]
    by_cases heq : m = 11
    · rw [monthLength_of_eq (hmod.trans heq), hdiv, add_assoc, yearStart_add_era,
        yearStart_add_era, heq]
      unfold monthStart
      omega
    · rw [monthLength_of_ne (by rw [hmod]; exact heq), hmod]
      omega
  constructor
  · exact ⟨hmonth₁, hmonth, by omega, by omega⟩
  · rw [Date.dayNumber, hordinal, hday]
    omega

end UrnetworkWindows.Lib.Calendar
