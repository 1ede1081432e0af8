/-
RFC 3339 texts (`CryptoPayPresentation.h`, `ParseRfc3339`).

The text is read from the left, a field at a time, and what each reader takes is told by an
equivalence (`digits_eq_some`, `skipFraction_eq_some`, `readOffset_eq_some`), so that the texts
that are read are those of a date, a time, a fraction or none and an offset
(`parseRfc3339_eq_some`).
-/
import UrnetworkWindows.Update.Dates

namespace UrnetworkWindows.CryptoPay

open Lib.Calendar Update

/-! ### The readers -/

/-- So many digits, and what follows them. -/
def digits (count : ℕ) (text : List Char) : Option (ℕ × List Char) :=
  if text.length < count then none
  else if (text.take count).all isDigit then some (digitsValue (text.take count), text.drop count)
  else none

/-- What follows the wanted character; a `T` may be small. -/
def expect (wanted : Char) : List Char → Option (List Char)
  | [] => none
  | c :: text => if c = wanted ∨ wanted = 'T' ∧ c = 't' then some text else none

/-- What follows the fraction, if there is one. -/
def skipFraction (text : List Char) : Option (List Char) :=
  if text.head? = some '.' then
    if (text.tail.takeWhile isDigit).isEmpty then none else some (text.tail.dropWhile isDigit)
  else some text

/-- The offset in seconds, and what follows it. -/
def readOffset : List Char → Option (ℤ × List Char)
  | [] => none
  | c :: text =>
    if c = 'Z' ∨ c = 'z' then some (0, text)
    else if c = '+' ∨ c = '-' then do
      let (offsetHours, text) ← digits 2 text
      let text ← expect ':' text
      let (offsetMinutes, text) ← digits 2 text
      if 23 < offsetHours ∨ 59 < offsetMinutes then none
      else
        some ((offsetHours * 60 + offsetMinutes : ℤ) * 60 * (if c = '-' then -1 else 1), text)
    else none

structure Fields where
  year : ℕ
  month : ℕ
  day : ℕ
  hour : ℕ
  minute : ℕ
  second : ℕ
  offsetSeconds : ℤ

def readFields (text : List Char) : Option Fields := do
  let (year, text) ← digits 4 text
  let text ← expect '-' text
  let (month, text) ← digits 2 text
  let text ← expect '-' text
  let (day, text) ← digits 2 text
  let text ← expect 'T' text
  let (hour, text) ← digits 2 text
  let text ← expect ':' text
  let (minute, text) ← digits 2 text
  let text ← expect ':' text
  let (second, text) ← digits 2 text
  let text ← skipFraction text
  let (offsetSeconds, text) ← readOffset text
  if text ≠ [] then none
  else some { year, month, day, hour, minute, second, offsetSeconds }

/-- The days from 1970-01-01, by the civil calendar. -/
def civilDays (year month day : ℤ) : ℤ :=
  let y := if month ≤ 2 then year - 1 else year
  let era := (if 0 ≤ y then y else y - 399).tdiv 400
  let yearOfEra := y - era * 400
  let dayOfYear := (153 * (if month ≤ 2 then month + 9 else month - 3) + 2).tdiv 5 + day - 1
  let dayOfEra := yearOfEra * 365 + yearOfEra.tdiv 4 - yearOfEra.tdiv 100 + dayOfYear
  era * 146097 + dayOfEra - 719468

/-- The second that the fields name, if they are in their ranges. -/
def Fields.seconds (f : Fields) : Option ℤ :=
  let leap := (f.year % 4 = 0 ∧ f.year % 100 ≠ 0) ∨ f.year % 400 = 0
  let kDaysInMonth := [31, 28, 31, 30, 31, 30, 31, 31, 30, 31, 30, 31]
  if f.month < 1 ∨ 12 < f.month ∨ f.day < 1 ∨ 23 < f.hour ∨ 59 < f.minute ∨ 60 < f.second then none
  else if kDaysInMonth.getD (f.month - 1) 0 + (if f.month = 2 ∧ leap then 1 else 0) < f.day then
    none
  else
    some (civilDays f.year f.month f.day * 86400 + f.hour * 3600 + f.minute * 60 + f.second -
      f.offsetSeconds)

def parseRfc3339 (text : String) : Option ℤ := (readFields text.toList).bind Fields.seconds

/-! ### What the readers take -/

section

variable {text rest : List Char} {count n : ℕ} {o : ℤ} {c wanted : Char}

lemma digits_eq_some : digits count text = some (n, rest) ↔
    n < 10 ^ count ∧ text = fixedDigits count n ++ rest := by
  unfold digits
  constructor
  · intro h
    split_ifs at h with hlength hall
    cases h
    have htake : (text.take count).length = count := List.length_take_of_le (not_lt.1 hlength)
    have hdigits := List.all_eq_true.1 hall
    have hlt := digitsValue_lt hdigits
    have hfixed := fixedDigits_digitsValue hdigits
    rw [htake] at hlt hfixed
    exact ⟨hlt, by rw [hfixed, List.take_append_drop]⟩
  · rintro ⟨hlt, rfl⟩
    have hlength := length_fixedDigits count n
    have htake : (fixedDigits count n ++ rest).take count = fixedDigits count n :=
      List.take_left' hlength
    have hdrop : (fixedDigits count n ++ rest).drop count = rest := List.drop_left' hlength
    rw [if_neg (by rw [List.length_append]; omega), htake, hdrop, digitsValue_fixedDigits hlt,
      if_pos (List.all_eq_true.2 fun c hc => isDigit_of_mem_fixedDigits hc)]

lemma expect_eq_some : expect wanted text = some rest ↔
    ∃ c, (c = wanted ∨ wanted = 'T' ∧ c = 't') ∧ text = c :: rest := by
  cases text with
  | nil => simp [expect]
  | cons c text =>
    simp only [expect, Option.ite_none_right_eq_some, Option.some_inj, List.cons.injEq]
    constructor
    · rintro ⟨hc, rfl⟩
      exact ⟨c, hc, rfl, rfl⟩
    · rintro ⟨c', hc, rfl, rfl⟩
      exact ⟨hc, rfl⟩

lemma expect_iff (hwanted : wanted ≠ 'T') :
    expect wanted text = some rest ↔ text = wanted :: rest := by
  rw [expect_eq_some]
  simp [hwanted]

/-- A fraction, or none. -/
def Fraction (text : List Char) : Prop :=
  text = [] ∨ ∃ ds, ds ≠ [] ∧ (∀ c ∈ ds, isDigit c = true) ∧ text = '.' :: ds

lemma exists_fraction (h : skipFraction text = some rest) :
    ∃ fraction, Fraction fraction ∧ text = fraction ++ rest := by
  unfold skipFraction at h
  split_ifs at h with hdot hnone
  · cases h
    refine ⟨'.' :: text.tail.takeWhile isDigit, .inr ⟨_, by simpa using hnone, ?_, rfl⟩, ?_⟩
    · exact List.all_eq_true.1 List.all_takeWhile
    · obtain ⟨tail, rfl⟩ := List.head?_eq_some_iff.1 hdot
      rw [List.cons_append, List.takeWhile_append_dropWhile, List.tail_cons]
  · cases h
    exact ⟨[], .inl rfl, rfl⟩

lemma skipFraction_append {fraction : List Char} (h : Fraction fraction)
    (hrest : ∀ c ∈ rest.head?, isDigit c = false ∧ c ≠ '.') :
    skipFraction (fraction ++ rest) = some rest := by
  rcases h with rfl | ⟨ds, hne, hdigits, rfl⟩
  · have hnot : ¬ rest.head? = some '.' := fun hdot => (hrest _ hdot).2 rfl
    rw [List.nil_append, skipFraction, if_neg hnot]
  · have htake : (ds ++ rest).takeWhile isDigit = ds := by
      rw [List.takeWhile_append_of_pos hdigits]
      cases rest with
      | nil => rw [List.takeWhile_nil, List.append_nil]
      | cons c rest =>
        rw [List.takeWhile_cons_of_neg (by simp [(hrest c rfl).1]), List.append_nil]
    have hdrop : (ds ++ rest).dropWhile isDigit = rest := by
      rw [List.dropWhile_append_of_pos hdigits]
      cases rest with
      | nil => rfl
      | cons c rest => rw [List.dropWhile_cons_of_neg (by simp [(hrest c rfl).1])]
    rw [skipFraction, List.cons_append, List.head?_cons, if_pos rfl, List.tail_cons, htake, hdrop,
      if_neg (by simpa using hne)]

/-- An offset as it is written, in seconds. -/
def Zone (zone : List Char) (o : ℤ) : Prop :=
  (zone = ['Z'] ∨ zone = ['z']) ∧ o = 0 ∨
    ∃ sign, ∃ hours minutes : ℕ, hours ≤ 23 ∧ minutes ≤ 59 ∧
      (sign = '+' ∧ o = (hours * 60 + minutes) * 60 ∨
        sign = '-' ∧ o = -((hours * 60 + minutes) * 60)) ∧
      zone = sign :: (fixedDigits 2 hours ++ ':' :: fixedDigits 2 minutes)

lemma readOffset_eq_some : readOffset text = some (o, rest) ↔
    ∃ zone, Zone zone o ∧ text = zone ++ rest := by
  constructor
  · intro h
    cases text with
    | nil => cases h
    | cons c text =>
      unfold readOffset at h
      dsimp only at h
      by_cases hz : c = 'Z' ∨ c = 'z'
      · rw [if_pos hz] at h
        cases h
        exact ⟨[c], .inl ⟨by simpa using hz, rfl⟩, rfl⟩
      by_cases hsign : c = '+' ∨ c = '-'
      · rw [if_neg hz, if_pos hsign] at h
        obtain ⟨⟨hours, text₁⟩, h₁, hrest⟩ := Option.bind_eq_some_iff.1 h
        obtain ⟨text₂, h₂, hrest⟩ := Option.bind_eq_some_iff.1 hrest
        obtain ⟨⟨minutes, text₃⟩, h₃, hlast⟩ := Option.bind_eq_some_iff.1 hrest
        clear hrest h
        obtain ⟨-, rfl⟩ := digits_eq_some.1 h₁
        obtain rfl := (expect_iff (by decide)).1 h₂
        obtain ⟨-, rfl⟩ := digits_eq_some.1 h₃
        dsimp only at hlast
        by_cases hrange : 23 < hours ∨ 59 < minutes
        · rw [if_pos hrange] at hlast
          cases hlast
        · rw [if_neg hrange] at hlast
          cases hlast
          refine ⟨c :: (fixedDigits 2 hours ++ ':' :: fixedDigits 2 minutes),
            .inr ⟨c, hours, minutes, by omega, by omega, ?_, rfl⟩, by simp⟩
          rcases hsign with rfl | rfl
          · exact .inl ⟨rfl, by rw [if_neg (by decide), mul_one]⟩
          · exact .inr ⟨rfl, by rw [if_pos rfl, mul_neg_one]⟩
      · rw [if_neg hz, if_neg hsign] at h
        cases h
  · rintro ⟨zone, hzone | ⟨sign, hours, minutes, hhours, hminutes, hsign, rfl⟩, rfl⟩
    · obtain ⟨rfl | rfl, rfl⟩ := hzone
      · rfl
      · rfl
    · have h₁ : digits 2 (fixedDigits 2 hours ++ (':' :: (fixedDigits 2 minutes ++ rest))) =
          some (hours, ':' :: (fixedDigits 2 minutes ++ rest)) := digits_eq_some.2 ⟨by omega, rfl⟩
      have h₂ : expect ':' (':' :: (fixedDigits 2 minutes ++ rest)) =
          some (fixedDigits 2 minutes ++ rest) := (expect_iff (by decide)).2 rfl
      have h₃ : digits 2 (fixedDigits 2 minutes ++ rest) = some (minutes, rest) :=
        digits_eq_some.2 ⟨by omega, rfl⟩
      have htext : sign :: (fixedDigits 2 hours ++ ':' :: fixedDigits 2 minutes) ++ rest =
          sign :: (fixedDigits 2 hours ++ (':' :: (fixedDigits 2 minutes ++ rest))) := by simp
      rw [htext]
      rcases hsign with ⟨rfl, rfl⟩ | ⟨rfl, rfl⟩
      · simp [readOffset, h₁, h₂, h₃, hhours.not_gt, hminutes.not_gt]
      · simp [readOffset, h₁, h₂, h₃, hhours.not_gt, hminutes.not_gt]

end

/-! ### The texts that are read -/

/-- A date and a time as they are written. -/
def dateTime (year month day hour minute second : ℕ) (separator : Char) : List Char :=
  fixedDigits 4 year ++ '-' :: (fixedDigits 2 month ++ '-' :: (fixedDigits 2 day ++ separator ::
    (fixedDigits 2 hour ++ ':' :: (fixedDigits 2 minute ++ ':' :: fixedDigits 2 second))))

/-- The fields have as many digits as they are written with. -/
structure Fields.Fits (f : Fields) : Prop where
  year : f.year < 10000
  month : f.month < 100
  day : f.day < 100
  hour : f.hour < 100
  minute : f.minute < 100
  second : f.second < 100

/-- A text as its fields, its fraction and its offset. -/
structure Fields.WrittenAs (f : Fields) (separator : Char) (fraction zone text : List Char) :
    Prop where
  fits : f.Fits
  separator_eq : separator = 'T' ∨ separator = 't'
  fraction_eq : Fraction fraction
  zone_eq : Zone zone f.offsetSeconds
  text_eq : text = dateTime f.year f.month f.day f.hour f.minute f.second separator ++
    (fraction ++ zone)

section

variable {text zone fraction : List Char} {f : Fields} {o : ℤ} {separator : Char}

lemma Zone.head (h : Zone zone o) : ∀ c ∈ zone.head?, isDigit c = false ∧ c ≠ '.' := by
  rcases h with ⟨rfl | rfl, -⟩ | ⟨sign, hours, minutes, -, -, ⟨rfl, -⟩ | ⟨rfl, -⟩, rfl⟩ <;>
    (intro c hc; obtain rfl := Option.some.inj hc; decide)

lemma readFields_eq_some : readFields text = some f ↔
    ∃ separator fraction zone, f.WrittenAs separator fraction zone text := by
  constructor
  · intro h
    obtain ⟨⟨year, t₁⟩, ryear, h⟩ := Option.bind_eq_some_iff.1 h
    obtain ⟨t₂, rdash, h⟩ := Option.bind_eq_some_iff.1 h
    obtain ⟨⟨month, t₃⟩, rmonth, h⟩ := Option.bind_eq_some_iff.1 h
    obtain ⟨t₄, rdash', h⟩ := Option.bind_eq_some_iff.1 h
    obtain ⟨⟨day, t₅⟩, rday, h⟩ := Option.bind_eq_some_iff.1 h
    obtain ⟨t₆, rseparator, h⟩ := Option.bind_eq_some_iff.1 h
    obtain ⟨⟨hour, t₇⟩, rhour, h⟩ := Option.bind_eq_some_iff.1 h
    obtain ⟨t₈, rcolon, h⟩ := Option.bind_eq_some_iff.1 h
    obtain ⟨⟨minute, t₉⟩, rminute, h⟩ := Option.bind_eq_some_iff.1 h
    obtain ⟨t₁₀, rcolon', h⟩ := Option.bind_eq_some_iff.1 h
    obtain ⟨⟨second, t₁₁⟩, rsecond, h⟩ := Option.bind_eq_some_iff.1 h
    obtain ⟨t₁₂, rfraction, h⟩ := Option.bind_eq_some_iff.1 h
    obtain ⟨⟨o, t₁₃⟩, roffset, h⟩ := Option.bind_eq_some_iff.1 h
    dsimp only at *
    split_ifs at h with hrest
    cases h
    obtain ⟨hyear, rfl⟩ := digits_eq_some.1 ryear
    obtain rfl := (expect_iff (by decide)).1 rdash
    obtain ⟨hmonth, rfl⟩ := digits_eq_some.1 rmonth
    obtain rfl := (expect_iff (by decide)).1 rdash'
    obtain ⟨hday, rfl⟩ := digits_eq_some.1 rday
    obtain ⟨separator, hseparator, rfl⟩ := expect_eq_some.1 rseparator
    obtain ⟨hhour, rfl⟩ := digits_eq_some.1 rhour
    obtain rfl := (expect_iff (by decide)).1 rcolon
    obtain ⟨hminute, rfl⟩ := digits_eq_some.1 rminute
    obtain rfl := (expect_iff (by decide)).1 rcolon'
    obtain ⟨hsecond, rfl⟩ := digits_eq_some.1 rsecond
    obtain ⟨fraction, hfraction, rfl⟩ := exists_fraction rfraction
    obtain ⟨zone, hzone, rfl⟩ := readOffset_eq_some.1 roffset
    obtain rfl := not_not.1 hrest
    exact ⟨separator, fraction, zone, ⟨hyear, hmonth, hday, hhour, hminute, hsecond⟩,
      hseparator.imp_right And.right, hfraction, hzone, by simp [dateTime]⟩
  · rintro ⟨separator, fraction, zone, ⟨hyear, hmonth, hday, hhour, hminute, hsecond⟩, hseparator,
      hfraction, hzone, rfl⟩
    have hzone' : readOffset zone = some (f.offsetSeconds, []) :=
      readOffset_eq_some.2 ⟨zone, hzone, (List.append_nil _).symm⟩
    have hread : ∀ (w : ℕ) {n : ℕ} {rest : List Char}, n < 10 ^ w →
        digits w (fixedDigits w n ++ rest) = some (n, rest) :=
      fun _ _ _ hn => digits_eq_some.2 ⟨hn, rfl⟩
    have hpass : ∀ {c : Char} {rest : List Char}, expect c (c :: rest) = some rest :=
      fun {c rest} => expect_eq_some.2 ⟨c, .inl rfl, rfl⟩
    have hseparator' : ∀ {rest : List Char}, expect 'T' (separator :: rest) = some rest :=
      fun {rest} => expect_eq_some.2 ⟨separator, hseparator.imp_right fun h => ⟨rfl, h⟩, rfl⟩
    simp only [readFields, dateTime, List.append_assoc, List.cons_append,
      hread 4 hyear, hread 2 hmonth, hread 2 hday, hread 2 hhour, hread 2 hminute, hread 2 hsecond,
      hpass,
      hseparator', skipFraction_append hfraction hzone.head, hzone', Option.bind_eq_bind,
      Option.bind_some, ne_eq, not_true_eq_false, if_false]

lemma civilDays_eq {year month day : ℤ} (h₁ : 1 ≤ month) (h₁₂ : month ≤ 12) :
    civilDays year month day = (Date.mk year month day).dayNumber - 719468 := by
  have hdays := dayNumber_eq (d := Date.mk year month day) h₁ h₁₂
  have hera := era_days (if month ≤ 2 then year - 1 else year)
  have hmonth : (153 * (if month ≤ 2 then month + 9 else month - 3) + 2).tdiv 5 =
      monthStart (if month > 2 then month - 3 else month + 9) := by
    rw [monthStart, Int.tdiv_eq_ediv_of_nonneg (by split_ifs <;> omega)]
    congr 3
    split_ifs <;> omega
  have hyear : (year - if month ≤ 2 then 1 else 0) = if month ≤ 2 then year - 1 else year := by
    split_ifs <;> omega
  dsimp only at hdays
  rw [hyear, ← hera] at hdays
  unfold civilDays
  dsimp only
  rw [hmonth, hdays]
  ring

lemma monthDays_eq (year : ℕ) {month : ℕ} (day : ℤ) (h₁ : 1 ≤ month) (h₁₂ : month ≤ 12) :
    (([31, 28, 31, 30, 31, 30, 31, 31, 30, 31, 30, 31].getD (month - 1) 0 +
      (if month = 2 ∧ ((year % 4 = 0 ∧ year % 100 ≠ 0) ∨ year % 400 = 0) then 1 else 0) : ℕ) : ℤ) =
      monthLength (Date.mk year month day).months := by
  rw [← daysInMonth_eq day h₁ h₁₂]
  have h₄ : (year : ℤ).tmod 4 = (year % 4 : ℕ) := rfl
  have h₁₀₀ : (year : ℤ).tmod 100 = (year % 100 : ℕ) := rfl
  have h₄₀₀ : (year : ℤ).tmod 400 = (year % 400 : ℕ) := rfl
  unfold daysInMonth
  dsimp only
  rw [h₄, h₁₀₀, h₄₀₀]
  by_cases hfeb : month = 2
  · subst hfeb
    by_cases hleap : (year % 4 = 0 ∧ year % 100 ≠ 0) ∨ year % 400 = 0
    · rw [if_pos ⟨rfl, hleap⟩, if_pos ⟨rfl, by omega⟩]
      rfl
    · rw [if_neg fun h => hleap h.2, if_neg (by omega)]
      rfl
  · rw [if_neg fun h => hfeb h.1, if_neg (by omega)]
    interval_cases month <;> rfl

/-- The fields name a second where they are those of a date and of a time of day, of which the
second may be a leap second. -/
lemma seconds_eq_some {t : ℤ} : f.seconds = some t ↔
    (Date.mk f.year f.month f.day).Valid ∧ f.hour < 24 ∧ f.minute < 60 ∧ f.second ≤ 60 ∧
      t = ((Date.mk f.year f.month f.day).dayNumber - 719468) * 86400 + f.hour * 3600 +
        f.minute * 60 + f.second - f.offsetSeconds := by
  unfold Fields.seconds
  dsimp only
  by_cases hrange : f.month < 1 ∨ 12 < f.month ∨ f.day < 1 ∨ 23 < f.hour ∨ 59 < f.minute ∨
      60 < f.second
  · rw [if_pos hrange]
    refine iff_of_false nofun ?_
    rintro ⟨⟨h₁, h₁₂, hday, -⟩, hhour, hminute, hsecond, -⟩
    dsimp only at h₁ h₁₂ hday
    omega
  · have hmonth := monthDays_eq f.year f.day (by omega : 1 ≤ f.month) (by omega)
    have hcivil : civilDays f.year f.month f.day =
        (Date.mk f.year f.month f.day).dayNumber - 719468 := civilDays_eq (by omega) (by omega)
    rw [if_neg hrange]
    generalize [31, 28, 31, 30, 31, 30, 31, 31, 30, 31, 30, 31].getD (f.month - 1) 0 +
      (if f.month = 2 ∧ ((f.year % 4 = 0 ∧ f.year % 100 ≠ 0) ∨ f.year % 400 = 0) then 1 else 0) =
        days at hmonth ⊢
    split_ifs with hlong
    · refine iff_of_false nofun ?_
      rintro ⟨⟨-, -, -, hle⟩, -⟩
      dsimp only at hle
      omega
    · rw [Option.some_inj, hcivil]
      constructor
      · rintro rfl
        refine ⟨⟨?_, ?_, ?_, ?_⟩, by omega, by omega, by omega, rfl⟩ <;> dsimp only <;> omega
      · rintro ⟨-, -, -, -, rfl⟩
        rfl

lemma parseRfc3339_of_writtenAs {text : String}
    (h : f.WrittenAs separator fraction zone text.toList) :
    parseRfc3339 text = f.seconds := by
  rw [parseRfc3339, readFields_eq_some.2 ⟨separator, fraction, zone, h⟩]
  rfl

lemma parseRfc3339_eq_some {text : String} {t : ℤ} : parseRfc3339 text = some t ↔
    ∃ f separator fraction zone, Fields.WrittenAs f separator fraction zone text.toList ∧
      f.seconds = some t := by
  constructor
  · intro h
    obtain ⟨f, hf, ht⟩ := Option.bind_eq_some_iff.1 h
    obtain ⟨separator, fraction, zone, hwritten⟩ := readFields_eq_some.1 hf
    exact ⟨f, separator, fraction, zone, hwritten, ht⟩
  · rintro ⟨f, separator, fraction, zone, hwritten, ht⟩
    rw [parseRfc3339_of_writtenAs hwritten, ht]

/-! ### The parts of a text -/

lemma length_dateTime (year month day hour minute second : ℕ) (separator : Char) :
    (dateTime year month day hour minute second separator).length = 19 := by
  simp [dateTime, length_fixedDigits]

lemma Zone.offset_eq {o' : ℤ} (h : Zone zone o) (h' : Zone zone o') : o = o' := by
  have hread := readOffset_eq_some.2 ⟨zone, h, (List.append_nil zone).symm⟩
  have hread' := readOffset_eq_some.2 ⟨zone, h', (List.append_nil zone).symm⟩
  exact (Prod.mk.inj (Option.some.inj (hread.symm.trans hread'))).1

lemma Zone.length (h : Zone zone o) :
    (zone.length = 1 ∧ ∀ c ∈ zone.getLast?, isDigit c = false) ∨
      zone.length = 6 ∧ ∃ c ∈ zone.getLast?, isDigit c = true := by
  rcases h with ⟨rfl | rfl, -⟩ | ⟨sign, hours, minutes, -, -, -, rfl⟩
  · refine .inl ⟨rfl, ?_⟩
    rintro c ⟨⟩
    decide
  · refine .inl ⟨rfl, ?_⟩
    rintro c ⟨⟩
    decide
  · refine .inr ⟨by simp [length_fixedDigits], (minutes % 10).digitChar, ?_,
      (isDigit_digitChar _ (Nat.mod_lt _ (by omega))).1⟩
    simp [fixedDigits]

lemma Zone.eq_of_append {o' : ℤ} {x x' zone' : List Char} (h : Zone zone o) (h' : Zone zone' o')
    (heq : x ++ zone = x' ++ zone') : x = x' ∧ zone = zone' := by
  refine List.append_inj' heq ?_
  have hne : ∀ {zone : List Char} {o : ℤ}, Zone zone o → zone ≠ [] := by
    rintro _ _ h rfl
    rcases h.length with ⟨hlength, -⟩ | ⟨hlength, -⟩ <;> cases hlength
  have hlast : zone.getLast? = zone'.getLast? := by
    have hboth := congrArg List.getLast? heq
    rwa [List.getLast?_append_of_ne_nil _ (hne h),
      List.getLast?_append_of_ne_nil _ (hne h')] at hboth
  rcases h.length with ⟨hlength, hdigit⟩ | ⟨hlength, c, hc, hdigit⟩ <;>
    rcases h'.length with ⟨hlength', hdigit'⟩ | ⟨hlength', c', hc', hdigit'⟩
  · rw [hlength, hlength']
  · rw [hdigit c' (hlast ▸ hc')] at hdigit'
    cases hdigit'
  · rw [hdigit' c (hlast ▸ hc)] at hdigit
    cases hdigit
  · rw [hlength, hlength']

lemma parseRfc3339_utc {head tail : String} {t : ℤ} (hzone : Zone tail.toList o)
    (h : parseRfc3339 (head ++ tail) = some t) : parseRfc3339 (head ++ "Z") = some (t + o) := by
  obtain ⟨f, separator, fraction, zone, hwritten, ht⟩ := parseRfc3339_eq_some.1 h
  have htext := hwritten.text_eq
  rw [String.toList_append, ← List.append_assoc] at htext
  obtain ⟨hhead, htail⟩ := hzone.eq_of_append hwritten.zone_eq htext
  have ho : o = f.offsetSeconds := (htail ▸ hzone).offset_eq hwritten.zone_eq
  obtain ⟨hvalid, hhour, hminute, hsecond, rfl⟩ := seconds_eq_some.1 ht
  refine parseRfc3339_eq_some.2 ⟨{ f with offsetSeconds := 0 }, separator, fraction, ['Z'], ?_,
    seconds_eq_some.2 ⟨hvalid, hhour, hminute, hsecond, ?_⟩⟩
  · have hfits := hwritten.fits
    refine ⟨⟨hfits.1, hfits.2, hfits.3, hfits.4, hfits.5, hfits.6⟩, hwritten.separator_eq,
      hwritten.fraction_eq, .inl ⟨.inl rfl, rfl⟩, ?_⟩
    rw [String.toList_append, hhead, List.append_assoc]
    rfl
  · dsimp only
    rw [ho]
    ring

lemma parseRfc3339_fraction {head tail fraction fraction' : String} (hhead : head.length = 19)
    (hfraction : Fraction fraction.toList) (hfraction' : Fraction fraction'.toList)
    (hzone : Zone tail.toList o) :
    parseRfc3339 (head ++ fraction ++ tail) = parseRfc3339 (head ++ fraction' ++ tail) := by
  have hsome : ∀ {fraction fraction' : String}, Fraction fraction'.toList → ∀ t,
      parseRfc3339 (head ++ fraction ++ tail) = some t →
        parseRfc3339 (head ++ fraction' ++ tail) = some t := by
    intro fraction fraction' hfraction' t h
    obtain ⟨f, separator, part, zone, hwritten, ht⟩ := parseRfc3339_eq_some.1 h
    have htext := hwritten.text_eq
    rw [String.toList_append, String.toList_append, List.append_assoc] at htext
    obtain ⟨hdate, hrest⟩ := List.append_inj htext
      ((String.length_toList.trans hhead).trans (length_dateTime ..).symm)
    obtain ⟨-, htail⟩ := hzone.eq_of_append hwritten.zone_eq hrest
    refine parseRfc3339_eq_some.2 ⟨f, separator, fraction'.toList, zone, ⟨hwritten.fits,
      hwritten.separator_eq, hfraction', hwritten.zone_eq, ?_⟩, ht⟩
    rw [String.toList_append, String.toList_append, List.append_assoc, hdate, htail]
  exact Option.ext fun t => ⟨hsome hfraction' t, hsome hfraction t⟩

end

end UrnetworkWindows.CryptoPay
