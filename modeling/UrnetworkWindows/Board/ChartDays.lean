/-
The days of the rank chart (`ProtocolBoardPresentation.h`, `DayNumber`), beside the other two
readers of the calendar.

`DayNumber` takes any day up to 31 in any month, so that it has a value on days that
`ParseRfc3339` has none on; on every other text the two agree (`calendar_readers_agree`).
-/
import UrnetworkWindows.CryptoPay.Rfc3339

namespace UrnetworkWindows.Board

open Lib.Calendar Update CryptoPay

/-- The number in so many characters of a day, if they are digits. -/
def number (chars : List Char) (start count : ℕ) : Option ℕ :=
  let part := (chars.drop start).take count
  if part.all isDigit then some (digitsValue part) else none

/-- The days from 1970-01-01, as the chart counts them. -/
def chartDays (y m d : ℤ) : ℤ :=
  let year := y - (if m ≤ 2 then 1 else 0)
  let era := (if 0 ≤ year then year else year - 399).tdiv 400
  let yoe := year - era * 400
  let doy := (153 * (m + (if 2 < m then -3 else 9)) + 2).tdiv 5 + d - 1
  let doe := yoe * 365 + yoe.tdiv 4 - yoe.tdiv 100 + doy
  era * 146097 + doe - 719468

/-- `DayNumber`. -/
def dayNumber (day : String) : Option ℤ :=
  let chars := day.toList
  if chars.length ≠ 10 ∨ chars[4]? ≠ some '-' ∨ chars[7]? ≠ some '-' then none
  else
    match number chars 0 4, number chars 5 2, number chars 8 2 with
    | some y, some m, some d =>
      if m < 1 ∨ 12 < m ∨ d < 1 ∨ 31 < d then none else some (chartDays y m d)
    | _, _, _ => none

/-- A day as it is written. -/
def dayText (year month day : ℕ) : List Char :=
  fixedDigits 4 year ++ '-' :: (fixedDigits 2 month ++ '-' :: fixedDigits 2 day)

section

variable {d : String} {n t : ℤ} {year month day year' month' day' : ℕ}

lemma exists_dayText {chars : List Char} (hlength : chars.length = 10) (h₄ : chars[4]? = some '-')
    (h₇ : chars[7]? = some '-') (hy : ((chars.drop 0).take 4).all isDigit = true)
    (hm : ((chars.drop 5).take 2).all isDigit = true)
    (hd : ((chars.drop 8).take 2).all isDigit = true) :
    chars = dayText (digitsValue ((chars.drop 0).take 4)) (digitsValue ((chars.drop 5).take 2))
      (digitsValue ((chars.drop 8).take 2)) := by
  have hpart : ∀ {start count : ℕ}, start + count ≤ 10 →
      ((chars.drop start).take count).all isDigit = true →
      fixedDigits count (digitsValue ((chars.drop start).take count)) =
        (chars.drop start).take count := by
    intro start count hle hdigits
    have hcount : ((chars.drop start).take count).length = count := by
      rw [List.length_take, List.length_drop]
      omega
    have hfixed := fixedDigits_digitsValue (List.all_eq_true.1 hdigits)
    rwa [hcount] at hfixed
  rw [dayText, hpart (by omega) hy, hpart (by omega) hm, hpart (by omega) hd]
  have hend : (chars.drop 8).take 2 = chars.drop 8 :=
    List.take_of_length_le (by rw [List.length_drop]; omega)
  have hdash₇ : chars.drop 7 = '-' :: chars.drop 8 :=
    (List.getElem?_eq_some_iff.1 h₇).elim fun hlt heq => by
      rw [List.drop_eq_getElem_cons hlt, heq]
  have hdash₄ : chars.drop 4 = '-' :: chars.drop 5 :=
    (List.getElem?_eq_some_iff.1 h₄).elim fun hlt heq => by
      rw [List.drop_eq_getElem_cons hlt, heq]
  have hfirst : (chars.drop 5).drop 2 = chars.drop 7 := by rw [List.drop_drop]
  rw [hend, ← hdash₇, ← hfirst, List.take_append_drop, ← hdash₄, List.drop_zero,
    List.take_append_drop]

lemma number_eq_some {chars : List Char} {start count n : ℕ} :
    number chars start count = some n ↔
      ((chars.drop start).take count).all isDigit = true ∧
        n = digitsValue ((chars.drop start).take count) := by
  by_cases hdigits : ((chars.drop start).take count).all isDigit = true
  · simp only [number, hdigits, if_true, Option.some_inj, true_and]
    exact eq_comm
  · simp [number, hdigits]

lemma number_dayText (hyear : year < 10000) (hmonth : month < 100) (hday : day < 100) :
    number (dayText year month day) 0 4 = some year ∧
      number (dayText year month day) 5 2 = some month ∧
      number (dayText year month day) 8 2 = some day := by
  have hall : ∀ w n, (fixedDigits w n).all isDigit = true := fun w n =>
    List.all_eq_true.2 fun _ hc => isDigit_of_mem_fixedDigits hc
  refine ⟨number_eq_some.2 ⟨hall 4 year, (digitsValue_fixedDigits (w := 4) hyear).symm⟩,
    number_eq_some.2 ⟨hall 2 month, (digitsValue_fixedDigits (w := 2) hmonth).symm⟩,
    number_eq_some.2 ⟨hall 2 day, (digitsValue_fixedDigits (w := 2) hday).symm⟩⟩

lemma chartDays_eq {y m d : ℤ} (h₁ : 1 ≤ m) (h₁₂ : m ≤ 12) :
    chartDays y m d = (Date.mk y m d).dayNumber - 719468 := by
  have hyear : (y - if m ≤ 2 then 1 else 0) = if m ≤ 2 then y - 1 else y := by
    split_ifs <;> omega
  have hmonth : m + (if 2 < m then -3 else 9) = if m ≤ 2 then m + 9 else m - 3 := by
    split_ifs <;> omega
  rw [← civilDays_eq h₁ h₁₂, chartDays, civilDays, hyear, hmonth]

lemma dayNumber_eq_some : dayNumber d = some n ↔ ∃ year month day : ℕ, year < 10000 ∧
    1 ≤ month ∧ month ≤ 12 ∧ 1 ≤ day ∧ day ≤ 31 ∧ d.toList = dayText year month day ∧
      n = (Date.mk year month day).dayNumber - 719468 := by
  unfold dayNumber
  dsimp only
  constructor
  · intro h
    split_ifs at h with hshape
    obtain ⟨hlength, h₄, h₇⟩ : d.toList.length = 10 ∧ d.toList[4]? = some '-' ∧
        d.toList[7]? = some '-' := by
      simpa only [not_or, not_not, ne_eq] using hshape
    cases hy : number d.toList 0 4 with
    | none => simp [hy] at h
    | some y =>
      cases hm : number d.toList 5 2 with
      | none => simp [hy, hm] at h
      | some m =>
        cases hd : number d.toList 8 2 with
        | none => simp [hy, hm, hd] at h
        | some dd =>
          obtain ⟨hyDigits, rfl⟩ := number_eq_some.1 hy
          obtain ⟨hmDigits, rfl⟩ := number_eq_some.1 hm
          obtain ⟨hdDigits, rfl⟩ := number_eq_some.1 hd
          simp only [hy, hm, hd] at h
          split_ifs at h with hrange
          cases h
          refine ⟨_, _, _, ?_, by omega, by omega, by omega, by omega,
            exists_dayText hlength h₄ h₇ hyDigits hmDigits hdDigits,
            chartDays_eq (by omega) (by omega)⟩
          have hlt := digitsValue_lt (List.all_eq_true.1 hyDigits)
          have hfour : ((d.toList.drop 0).take 4).length = 4 := by
            rw [List.length_take, List.length_drop]
            omega
          rwa [hfour] at hlt
  · rintro ⟨year, month, day, hyear, h₁, h₁₂, hday₁, hday, htext, rfl⟩
    obtain ⟨hy, hm, hd⟩ := number_dayText hyear (by omega : month < 100) (by omega : day < 100)
    have hshape : ¬ (d.toList.length ≠ 10 ∨ d.toList[4]? ≠ some '-' ∨ d.toList[7]? ≠ some '-') := by
      rw [htext]
      simp [dayText, fixedDigits]
    rw [if_neg hshape, htext]
    simp only [hy, hm, hd]
    rw [if_neg (by omega), chartDays_eq (by omega) (by omega)]

lemma dayText_inj (hyear : year < 10000) (hmonth : month < 100) (hday : day < 100)
    (hyear' : year' < 10000) (hmonth' : month' < 100) (hday' : day' < 100)
    (h : dayText year month day = dayText year' month' day') :
    year = year' ∧ month = month' ∧ day = day' := by
  obtain ⟨hy, hm, hd⟩ := number_dayText hyear hmonth hday
  obtain ⟨hy', hm', hd'⟩ := number_dayText hyear' hmonth' hday'
  rw [h] at hy hm hd
  exact ⟨Option.some.inj (hy.symm.trans hy'), Option.some.inj (hm.symm.trans hm'),
    Option.some.inj (hd.symm.trans hd')⟩

/-- The midnight of a day, field by field. -/
def midnight (year month day : ℕ) : Fields := ⟨year, month, day, 0, 0, 0, 0⟩

lemma parseRfc3339_dayText (hyear : year < 10000) (hmonth : month < 100) (hday : day < 100)
    (htext : d.toList = dayText year month day) :
    parseRfc3339 (d ++ "T00:00:00Z") = (midnight year month day).seconds := by
  have htail : "T00:00:00Z".toList = 'T' :: (fixedDigits 2 0 ++ ':' :: (fixedDigits 2 0 ++ ':' ::
      (fixedDigits 2 0 ++ ['Z']))) := by decide
  have hzero : 0 < 100 := by decide
  have hwritten : (midnight year month day).WrittenAs 'T' [] ['Z'] (d ++ "T00:00:00Z").toList := by
    refine ⟨⟨hyear, hmonth, hday, hzero, hzero, hzero⟩, .inl rfl, .inl rfl,
      .inl ⟨.inl rfl, rfl⟩, ?_⟩
    rw [String.toList_append, htext, htail]
    simp [dateTime, dayText, midnight]
  exact parseRfc3339_of_writtenAs hwritten

lemma parseRfc3339_midnight (hlength : d.length = 10) :
    parseRfc3339 (d ++ "T00:00:00Z") = some t ↔ ∃ year month day : ℕ, year < 10000 ∧
      (Date.mk year month day).Valid ∧ d.toList = dayText year month day ∧
        t = 86400 * ((Date.mk year month day).dayNumber - 719468) := by
  have hseconds : ∀ {year month day : ℕ}, (midnight year month day).seconds = some t ↔
      (Date.mk year month day).Valid ∧
        t = 86400 * ((Date.mk year month day).dayNumber - 719468) := by
    intro year month day
    rw [seconds_eq_some]
    simp [midnight, mul_comm]
  constructor
  · intro h
    obtain ⟨f, separator, fraction, zone, hwritten, -⟩ := parseRfc3339_eq_some.1 h
    have htext : d.toList ++ "T00:00:00Z".toList = dayText f.year f.month f.day ++ separator ::
        (fixedDigits 2 f.hour ++ ':' :: (fixedDigits 2 f.minute ++ ':' ::
          (fixedDigits 2 f.second ++ (fraction ++ zone)))) := by
      rw [← String.toList_append, hwritten.text_eq]
      simp [dateTime, dayText]
    obtain ⟨hday, -⟩ := List.append_inj htext ((String.length_toList.trans hlength).trans rfl)
    have hfits := hwritten.fits
    rw [parseRfc3339_dayText hfits.year hfits.month hfits.day hday, hseconds] at h
    exact ⟨f.year, f.month, f.day, hfits.year, h.1, hday, h.2⟩
  · rintro ⟨year, month, day, hyear, hvalid, htext, rfl⟩
    have hmonth := hvalid.month_le
    have hday := hvalid.day_le.trans (monthLength_le _)
    dsimp only at hmonth hday
    rw [parseRfc3339_dayText hyear (by omega) (by omega) htext, hseconds]
    exact ⟨hvalid, rfl⟩

/-- `DayNumber` and `ParseRfc3339` agree on a day. -/
def DaysAgree (d : String) : Prop :=
  ((∃ n, dayNumber d = some n) ↔ ∃ t, parseRfc3339 (d ++ "T00:00:00Z") = some t) ∧
    ∀ n t, dayNumber d = some n → parseRfc3339 (d ++ "T00:00:00Z") = some t → t = 86400 * n

/-- A day of at most 31 that its month does not have. -/
def BeyondMonth (d : String) : Prop :=
  ∃ year month day : ℕ, year < 10000 ∧ 1 ≤ month ∧ month ≤ 12 ∧ day ≤ 31 ∧
    daysInMonth year month < day ∧ d.toList = dayText year month day

lemma daysAgree_iff (hlength : d.length = 10) : DaysAgree d ↔ ¬ BeyondMonth d := by
  constructor
  · rintro ⟨hiff, -⟩ ⟨year, month, day, hyear, h₁, h₁₂, hday, hbeyond, htext⟩
    rw [daysInMonth_eq day h₁ h₁₂] at hbeyond
    have hpos := monthLength_pos (Date.mk year month day).months
    obtain ⟨t, ht⟩ :=
      hiff.1 ⟨_, dayNumber_eq_some.2 ⟨year, month, day, hyear, h₁, h₁₂, by omega, hday, htext, rfl⟩⟩
    obtain ⟨year', month', day', hyear', hvalid, htext', -⟩ := (parseRfc3339_midnight hlength).1 ht
    have hle := hvalid.day_le
    have hmonth' := hvalid.month_le
    have hday' := hle.trans (monthLength_le _)
    dsimp only at hle hmonth' hday'
    obtain ⟨rfl, rfl, rfl⟩ := dayText_inj hyear (by omega) (by omega) hyear' (by omega) (by omega)
      (htext.symm.trans htext')
    omega
  · intro hbeyond
    refine ⟨⟨?_, ?_⟩, ?_⟩
    · rintro ⟨n, hn⟩
      obtain ⟨year, month, day, hyear, h₁, h₁₂, hday₁, hday, htext, rfl⟩ := dayNumber_eq_some.1 hn
      refine ⟨_, (parseRfc3339_midnight hlength).2 ⟨year, month, day, hyear,
        ⟨?_, ?_, ?_, ?_⟩, htext, rfl⟩⟩
      · exact Int.ofNat_le.2 h₁
      · exact Int.ofNat_le.2 h₁₂
      · exact Int.ofNat_le.2 hday₁
      · rw [← daysInMonth_eq day h₁ h₁₂]
        exact not_lt.1 fun hlt => hbeyond ⟨year, month, day, hyear, h₁, h₁₂, hday, hlt, htext⟩
    · rintro ⟨t, ht⟩
      obtain ⟨year, month, day, hyear, hvalid, htext, -⟩ := (parseRfc3339_midnight hlength).1 ht
      have h₁ := hvalid.one_le_month
      have h₁₂ := hvalid.month_le
      have hday₁ := hvalid.one_le_day
      have hday := hvalid.day_le.trans (monthLength_le _)
      dsimp only at h₁ h₁₂ hday₁ hday
      exact ⟨_, dayNumber_eq_some.2 ⟨year, month, day, hyear, by omega, by omega, by omega,
        by omega, htext, rfl⟩⟩
    · intro n t hn ht
      obtain ⟨year, month, day, hyear, h₁, h₁₂, hday₁, hday, htext, rfl⟩ := dayNumber_eq_some.1 hn
      obtain ⟨year', month', day', hyear', hvalid, htext', rfl⟩ :=
        (parseRfc3339_midnight hlength).1 ht
      have hmonth' := hvalid.month_le
      have hday' := hvalid.day_le.trans (monthLength_le _)
      dsimp only at hmonth' hday'
      obtain ⟨rfl, rfl, rfl⟩ := dayText_inj hyear (by omega) (by omega) hyear' (by omega) (by omega)
        (htext.symm.trans htext')
      rfl

lemma parseUtcSecond_eq_ite {s : String} (h : isUtcSecond s.toList = true) : parseUtcSecond s =
    if digitsValue ((s.toList.drop 17).take 2) < 60 then parseRfc3339 s else none := by
  have hread : ∀ {year month day hour minute second : ℕ}, year < 10000 → month < 100 → day < 100 →
      hour < 100 → minute < 100 → second < 100 →
      s.toList = utcChars year month day hour minute second →
      digitsValue ((s.toList.drop 17).take 2) = second ∧
        parseRfc3339 s = (Fields.mk year month day hour minute second 0).seconds := by
    intro year month day hour minute second hyear hmonth hday hhour hminute hsecond htext
    have hwritten : (Fields.mk year month day hour minute second 0).WrittenAs 'T' [] ['Z']
        s.toList := by
      refine ⟨⟨hyear, hmonth, hday, hhour, hminute, hsecond⟩, .inl rfl, .inl rfl,
        .inl ⟨.inl rfl, rfl⟩, ?_⟩
      rw [htext]
      simp [dateTime, utcChars]
    refine ⟨?_, parseRfc3339_of_writtenAs hwritten⟩
    rw [htext]
    exact digitsValue_fixedDigits (w := 2) hsecond
  ext t
  rw [Option.ite_none_right_eq_some]
  constructor
  · intro ht
    obtain ⟨year, month, day, hour, minute, second, hvalid, hyear, hhour, hminute, hsecond, htext,
      ht⟩ := parseUtcSecond_eq_some.1 ht
    have hmonth := hvalid.month_le
    have hday := hvalid.day_le.trans (monthLength_le _)
    dsimp only at hmonth hday
    obtain ⟨hss, hparse⟩ := hread hyear (by omega) (by omega) (by omega) (by omega) (by omega) htext
    rw [hss, hparse, seconds_eq_some]
    exact ⟨hsecond, hvalid, hhour, hminute, hsecond.le, by rw [ht, sub_zero]⟩
  · rintro ⟨hlt, ht⟩
    obtain ⟨year, month, day, hour, minute, second, hyear, hmonth, hday, hhour, hminute, hsecond,
      htext⟩ := isUtcSecond_iff.1 h
    obtain ⟨hss, hparse⟩ := hread hyear hmonth hday hhour hminute hsecond htext
    rw [hss] at hlt
    rw [hparse, seconds_eq_some] at ht
    obtain ⟨hvalid, hhour', hminute', -, rfl⟩ := ht
    exact parseUtcSecond_eq_some.2 ⟨year, month, day, hour, minute, second, hvalid, hyear, hhour',
      hminute', hlt, htext, sub_zero _⟩

end

/-- The calendar readers agree: `ParseUtcSecond` and `ParseRfc3339` on every text of their shape,
`ParseRfc3339` with itself whatever the offset and the fraction, and `DayNumber` and
`ParseRfc3339` on every day but those up to 31 that their month does not have. -/
theorem calendar_readers_agree (s d head zone fraction fraction' : String) (o t : ℤ) :
    (isUtcSecond s.toList = true → parseUtcSecond s =
      if digitsValue ((s.toList.drop 17).take 2) < 60 then parseRfc3339 s else none) ∧
    (d.length = 10 → (DaysAgree d ↔ ¬ BeyondMonth d)) ∧
    (Zone zone.toList o → parseRfc3339 (head ++ zone) = some t →
      parseRfc3339 (head ++ "Z") = some (t + o)) ∧
    (head.length = 19 → Fraction fraction.toList → Fraction fraction'.toList →
      Zone zone.toList o →
      parseRfc3339 (head ++ fraction ++ zone) = parseRfc3339 (head ++ fraction' ++ zone)) :=
  ⟨parseUtcSecond_eq_ite, daysAgree_iff, parseRfc3339_utc, parseRfc3339_fraction⟩

theorem calendar_readers_agree_leapDay :
    DaysAgree "2024-02-29" ∧
      parseRfc3339 ("2026-10-20T20:30:00" ++ "Z") = some (1792521000 + 7200) := by
  have hbeyond : ¬ BeyondMonth "2024-02-29" := by
    rintro ⟨year, month, day, hyear, h₁, h₁₂, hday, hbeyond, htext⟩
    have htext' : "2024-02-29".toList = dayText 2024 2 29 := by decide
    obtain ⟨rfl, rfl, rfl⟩ := dayText_inj hyear (by omega) (by omega) (by decide) (by decide)
      (by decide) (htext.symm.trans htext')
    revert hbeyond
    decide
  obtain ⟨-, hdays, hutc, -⟩ := calendar_readers_agree "" "2024-02-29" "2026-10-20T20:30:00"
    "+02:00" "" "" 7200 1792521000
  exact ⟨(hdays (by decide)).2 hbeyond,
    hutc (.inr ⟨'+', 2, 0, by decide, by decide, .inl ⟨rfl, by decide⟩, by decide⟩)
      (by decide +kernel)⟩

/-- 31 February is a day to the chart, and none to `ParseRfc3339`. -/
theorem calendar_readers_agree_fails :
    dayNumber "2026-02-31" = some 20515 ∧ parseRfc3339 ("2026-02-31" ++ "T00:00:00Z") = none ∧
      ¬ ∀ d : String, d.length = 10 → DaysAgree d := by
  have hday : dayNumber "2026-02-31" = some 20515 := by decide +kernel
  have hnone : parseRfc3339 ("2026-02-31" ++ "T00:00:00Z") = none := by decide +kernel
  refine ⟨hday, hnone, fun h => ?_⟩
  obtain ⟨t, ht⟩ := (h "2026-02-31" (by decide)).1.1 ⟨_, hday⟩
  rw [hnone] at ht
  cases ht

end UrnetworkWindows.Board
