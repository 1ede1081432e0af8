/-
UTC seconds as text and back (`UpdateApply.h`: `FormatUtcSecond`; `UpdateResult.h`:
`ParseUtcSecond`).

`ParseUtcSecond` has a value for the texts of the valid dates in four digits, and that value is
their second (`parseUtcSecond_eq_some`).  `CivilFromDays` gives a day's own date
(`civilFromDays_spec`), and a day has only one, so formatting and parsing are inverse
(`utc_seconds_inverse`).  The unsigned arithmetic is on integers: nothing in it wraps
(`MsiVersion`).
-/
import UrnetworkWindows.Lib.Calendar
import UrnetworkWindows.Update.Formats

namespace UrnetworkWindows.Update

open Lib.Calendar

/-! ### Digits -/

/-- The digits of a number, with zeros in front. -/
def fixedDigits : ℕ → ℕ → List Char
  | 0, _ => []
  | w + 1, n => fixedDigits w (n / 10) ++ [(n % 10).digitChar]

lemma length_fixedDigits (w n : ℕ) : (fixedDigits w n).length = w := by
  induction w generalizing n with
  | zero => rfl
  | succ w ih => rw [fixedDigits, List.length_append, ih, List.length_singleton]

lemma isDigit_digitChar :
    ∀ d < 10, isDigit d.digitChar = true ∧ d.digitChar.toNat - '0'.toNat = d := by
  decide

lemma digitChar_of_isDigit {c : Char} (h : isDigit c = true) :
    c.toNat - '0'.toNat < 10 ∧ (c.toNat - '0'.toNat).digitChar = c := by
  have hle (x y : Char) : x ≤ y ↔ x.toNat ≤ y.toNat := Iff.rfl
  simp only [isDigit, Bool.and_eq_true, decide_eq_true_eq, hle, Char.reduceToNat] at h
  obtain ⟨hlo, hhi⟩ := h
  refine ⟨by simp only [Char.reduceToNat]; omega, Char.toNat_inj.1 ?_⟩
  simp only [Char.reduceToNat]
  rw [Nat.toNat_digitChar_of_lt_ten (by omega)]
  omega

lemma isDigit_of_mem_fixedDigits {w n : ℕ} {c : Char} (h : c ∈ fixedDigits w n) :
    isDigit c = true := by
  induction w generalizing n with
  | zero => exact absurd h List.not_mem_nil
  | succ w ih =>
    rcases List.mem_append.1 h with h | h
    · exact ih h
    · rw [List.mem_singleton.1 h]
      exact (isDigit_digitChar _ (Nat.mod_lt _ (by omega))).1

lemma digitsValue_concat (cs : List Char) (c : Char) :
    digitsValue (cs ++ [c]) = digitsValue cs * 10 + (c.toNat - '0'.toNat) := by
  rw [digitsValue, List.foldl_append]
  rfl

lemma digitsValue_fixedDigits {w n : ℕ} (h : n < 10 ^ w) : digitsValue (fixedDigits w n) = n := by
  induction w generalizing n with
  | zero =>
    rw [pow_zero] at h
    obtain rfl : n = 0 := by omega
    rfl
  | succ w ih =>
    have hdiv : n / 10 < 10 ^ w := Nat.div_lt_of_lt_mul (by rwa [pow_succ'] at h)
    rw [fixedDigits, digitsValue_concat, ih hdiv, (isDigit_digitChar _ (Nat.mod_lt _ (by omega))).2]
    omega

lemma fixedDigits_digitsValue {cs : List Char} (h : ∀ c ∈ cs, isDigit c = true) :
    fixedDigits cs.length (digitsValue cs) = cs := by
  induction cs using List.reverseRecOn with
  | nil => rfl
  | append_singleton cs c ih =>
    have hc := digitChar_of_isDigit (h c List.mem_concat_self)
    have hcs := ih fun d hd => h d (List.mem_append_left _ hd)
    have hdiv : (digitsValue cs * 10 + (c.toNat - '0'.toNat)) / 10 = digitsValue cs := by omega
    have hmod : (digitsValue cs * 10 + (c.toNat - '0'.toNat)) % 10 = c.toNat - '0'.toNat := by omega
    rw [List.length_append, List.length_singleton, fixedDigits, digitsValue_concat, hdiv,
      hmod, hc.2, hcs]

lemma digitsValue_lt {cs : List Char} (h : ∀ c ∈ cs, isDigit c = true) :
    digitsValue cs < 10 ^ cs.length := by
  induction cs using List.reverseRecOn with
  | nil => decide
  | append_singleton cs c ih =>
    have hc := digitChar_of_isDigit (h c List.mem_concat_self)
    have hcs := ih fun d hd => h d (List.mem_append_left _ hd)
    rw [digitsValue_concat, List.length_append, List.length_singleton, pow_succ]
    omega

lemma replicate_append_toDigits {w n : ℕ} (h : n < 10 ^ (w + 1)) :
    List.replicate (w + 1 - (Nat.toDigits 10 n).length) '0' ++ Nat.toDigits 10 n =
      fixedDigits (w + 1) n := by
  induction w generalizing n with
  | zero =>
    have hn : n < 10 := by simpa using h
    rw [Nat.toDigits_of_lt_base hn, fixedDigits, fixedDigits, Nat.mod_eq_of_lt hn]
    rfl
  | succ w ih =>
    have hdiv : n / 10 < 10 ^ (w + 1) := Nat.div_lt_of_lt_mul (by rwa [pow_succ'] at h)
    rw [fixedDigits, ← ih hdiv]
    rcases lt_or_ge n 10 with hn | hn
    · rw [Nat.toDigits_of_lt_base hn, Nat.div_eq_of_lt hn, Nat.toDigits_zero, Nat.mod_eq_of_lt hn,
        List.length_singleton, List.length_singleton]
      simp only [Nat.add_sub_cancel]
      rw [← List.replicate_succ']
    · rw [Nat.toDigits_of_base_le (by omega) hn, List.length_append, List.length_singleton,
        Nat.add_sub_add_right, List.append_assoc]

/-! ### Dates -/

/-- `CivilFromDays`. -/
def civilFromDays (days : ℤ) : Date :=
  let days := days + 719468
  let era := (if days ≥ 0 then days else days - 146096).tdiv 146097
  let dayOfEra := days - era * 146097
  let yearOfEra := (dayOfEra - dayOfEra / 1460 + dayOfEra / 36524 - dayOfEra / 146096) / 365
  let dayOfYear := dayOfEra - (365 * yearOfEra + yearOfEra / 4 - yearOfEra / 100)
  let monthIndex := (5 * dayOfYear + 2) / 153
  let day := dayOfYear - (153 * monthIndex + 2) / 5 + 1
  let month := if monthIndex < 10 then monthIndex + 3 else monthIndex - 9
  let year := yearOfEra + era * 400 + if month ≤ 2 then 1 else 0
  { year, month, day }

lemma tdiv_floor (n : ℤ) {k : ℤ} (hk : 0 < k) :
    (if n ≥ 0 then n else n - (k - 1)).tdiv k = n / k := by
  split_ifs with hn
  · exact Int.tdiv_eq_ediv_of_nonneg hn
  · obtain ⟨q, r, rfl, hr₀, hr⟩ : ∃ q r, n = r + k * q ∧ 0 ≤ r ∧ r < k :=
      ⟨n / k, n % k, (Int.emod_add_mul_ediv n k).symm, Int.emod_nonneg n hk.ne',
        Int.emod_lt_of_pos n hk⟩
    have hneg : r + k * q - (k - 1) = -(k - 1 - r + k * -q) := by ring
    have hpos : 0 ≤ k - 1 - r + k * -q := by
      rw [← neg_nonpos, ← hneg]
      omega
    rw [hneg, Int.neg_tdiv, Int.tdiv_eq_ediv_of_nonneg hpos, Int.add_mul_ediv_left _ _ hk.ne',
      Int.add_mul_ediv_left _ _ hk.ne', Int.ediv_eq_zero_of_lt hr₀ hr,
      Int.ediv_eq_zero_of_lt (by omega) (by omega)]
    ring

lemma civilFromDays_eq (days : ℤ) : civilFromDays days = ofDayNumber (days + 719468) := by
  have hera := tdiv_floor (days + 719468) (k := 146097) (by omega)
  have hdoe : days + 719468 - (days + 719468) / 146097 * 146097 = (days + 719468) % 146097 := by
    omega
  unfold civilFromDays ofDayNumber
  dsimp only at hera ⊢
  norm_num only at hera
  rw [hera, hdoe]

lemma civilFromDays_spec (days : ℤ) :
    (civilFromDays days).Valid ∧ (civilFromDays days).dayNumber = days + 719468 := by
  rw [civilFromDays_eq]
  exact ofDayNumber_spec _

/-- A number of two digits. -/
def two (value : ℤ) : String :=
  let text := toString value
  if value < 10 then "0" ++ text else text

/-- The zeros that fill up a year to four places. -/
def fillYear (year : String) : String :=
  String.ofList (List.replicate (4 - year.toList.length) '0') ++ year

/-- `FormatUtcSecond`. -/
def formatUtcSecond (unixSeconds : ℤ) : String :=
  let days :=
    if unixSeconds ≥ 0 then unixSeconds.tdiv 86400 else (unixSeconds - 86399).tdiv 86400
  let secondOfDay := unixSeconds - days * 86400
  let date := civilFromDays days
  fillYear (toString date.year) ++ "-" ++ two date.month ++ "-" ++ two date.day ++ "T" ++
    two (secondOfDay.tdiv 3600) ++ ":" ++ two ((secondOfDay.tdiv 60).tmod 60) ++ ":" ++
    two (secondOfDay.tmod 60) ++ "Z"

/-- The text of a date and a time of day. -/
def utcChars (year month day hour minute second : ℕ) : List Char :=
  fixedDigits 4 year ++ '-' :: (fixedDigits 2 month ++ '-' :: (fixedDigits 2 day ++ 'T' ::
    (fixedDigits 2 hour ++ ':' ::
      (fixedDigits 2 minute ++ ':' :: (fixedDigits 2 second ++ ['Z'])))))

lemma toList_toString (n : ℕ) : (toString (n : ℤ)).toList = Nat.toDigits 10 n := by
  rw [Int.toString_eq_repr, Int.repr_eq_if, if_pos (Int.natCast_nonneg n), Int.toNat_natCast,
    Nat.toList_repr]

lemma toList_two {n : ℕ} (h : n < 100) : (two n).toList = fixedDigits 2 n := by
  rw [← replicate_append_toDigits h]
  simp only [two]
  split_ifs with hn
  · have hn : n < 10 := by exact_mod_cast hn
    rw [String.toList_append, toList_toString, Nat.toDigits_of_lt_base hn]
    rfl
  · have hn : 10 ≤ n := by
      rw [not_lt] at hn
      exact_mod_cast hn
    rw [toList_toString, Nat.toDigits_of_base_le (by omega) hn,
      Nat.toDigits_of_lt_base (n := n / 10) (by omega)]
    rfl

lemma toList_fillYear {n : ℕ} (h : n < 10000) :
    (fillYear (toString (n : ℤ))).toList = fixedDigits 4 n := by
  rw [← replicate_append_toDigits h, fillYear, String.toList_append, String.toList_ofList,
    toList_toString]

/-! ### Reading a text -/

lemma forall_isDigit_pair {a b : Char} (ha : isDigit a = true) (hb : isDigit b = true) :
    ∀ c ∈ [a, b], isDigit c = true := by
  intro c hc
  rcases List.mem_cons.1 hc with rfl | hc
  · exact ha
  · rwa [List.mem_singleton.1 hc]

lemma isUtcSecond_iff {cs : List Char} : isUtcSecond cs = true ↔
    ∃ year month day hour minute second : ℕ, year < 10000 ∧ month < 100 ∧ day < 100 ∧
      hour < 100 ∧ minute < 100 ∧ second < 100 ∧
      cs = utcChars year month day hour minute second := by
  constructor
  · intro h
    have hshape : List.Forall₂ (fun c k : Char => if k = '0' then isDigit c = true else c = k) cs
        "0000-00-00T00:00:00Z".toList := by
      simp only [isUtcSecond, Bool.and_eq_true, decide_eq_true_eq] at h
      refine List.forall₂_iff_zip.2 ⟨h.1, fun {c k} hck => ?_⟩
      have hp := List.all_eq_true.1 h.2 _ hck
      dsimp only at hp
      split_ifs at hp ⊢ with hk
      · exact hp
      · exact of_decide_eq_true hp
    have hlist : "0000-00-00T00:00:00Z".toList = ['0', '0', '0', '0', '-', '0', '0', '-', '0', '0',
        'T', '0', '0', ':', '0', '0', ':', '0', '0', 'Z'] := by simp
    rw [hlist] at hshape
    simp only [List.forall₂_cons_right_iff, List.forall₂_nil_right_iff, Char.reduceEq, if_true,
      if_false] at hshape
    obtain ⟨y₁, _, hy₁, ⟨y₂, _, hy₂, ⟨y₃, _, hy₃, ⟨y₄, _, hy₄, ⟨_, _, rfl, ⟨m₁, _, hm₁, ⟨m₂, _, hm₂,
      ⟨_, _, rfl, ⟨d₁, _, hd₁, ⟨d₂, _, hd₂, ⟨_, _, rfl, ⟨h₁, _, hh₁, ⟨h₂, _, hh₂, ⟨_, _, rfl,
      ⟨n₁, _, hn₁, ⟨n₂, _, hn₂, ⟨_, _, rfl, ⟨s₁, _, hs₁, ⟨s₂, _, hs₂, ⟨_, _, rfl, rfl, rfl⟩,
      rfl⟩, rfl⟩, rfl⟩, rfl⟩, rfl⟩, rfl⟩, rfl⟩, rfl⟩, rfl⟩, rfl⟩, rfl⟩, rfl⟩, rfl⟩, rfl⟩,
      rfl⟩, rfl⟩, rfl⟩, rfl⟩, rfl⟩ := hshape
    have hy : ∀ c ∈ [y₁, y₂, y₃, y₄], isDigit c = true := by simp [hy₁, hy₂, hy₃, hy₄]
    have hm := forall_isDigit_pair hm₁ hm₂
    have hd := forall_isDigit_pair hd₁ hd₂
    have hh := forall_isDigit_pair hh₁ hh₂
    have hn := forall_isDigit_pair hn₁ hn₂
    have hs := forall_isDigit_pair hs₁ hs₂
    refine ⟨digitsValue [y₁, y₂, y₃, y₄], digitsValue [m₁, m₂], digitsValue [d₁, d₂],
      digitsValue [h₁, h₂], digitsValue [n₁, n₂], digitsValue [s₁, s₂],
      by simpa using digitsValue_lt hy, digitsValue_lt hm, digitsValue_lt hd, digitsValue_lt hh,
      digitsValue_lt hn, digitsValue_lt hs, ?_⟩
    rw [utcChars, show fixedDigits 4 _ = _ from fixedDigits_digitsValue hy,
      show fixedDigits 2 _ = _ from fixedDigits_digitsValue hm,
      show fixedDigits 2 _ = _ from fixedDigits_digitsValue hd,
      show fixedDigits 2 _ = _ from fixedDigits_digitsValue hh,
      show fixedDigits 2 _ = _ from fixedDigits_digitsValue hn,
      show fixedDigits 2 _ = _ from fixedDigits_digitsValue hs]
    rfl
  · rintro ⟨year, month, day, hour, minute, second, -, -, -, -, -, -, rfl⟩
    have hdigit : ∀ n : ℕ, isDigit (n % 10).digitChar = true :=
      fun n => (isDigit_digitChar _ (Nat.mod_lt _ (by omega))).1
    simp [isUtcSecond, utcChars, fixedDigits, hdigit]

lemma daysInMonth_eq {year month : ℕ} (day : ℤ) (h₁ : 1 ≤ month) (h₁₂ : month ≤ 12) :
    daysInMonth year month = monthLength (Date.mk year month day).months := by
  have h₄ : (year : ℤ).tmod 4 = year % 4 := Int.tmod_eq_emod_of_nonneg (Int.natCast_nonneg _)
  have h₁₀₀ : (year : ℤ).tmod 100 = year % 100 := Int.tmod_eq_emod_of_nonneg (Int.natCast_nonneg _)
  have h₄₀₀ : (year : ℤ).tmod 400 = year % 400 := Int.tmod_eq_emod_of_nonneg (Int.natCast_nonneg _)
  unfold daysInMonth Date.months
  dsimp only
  rw [h₄, h₁₀₀, h₄₀₀]
  by_cases hfeb : month = 2
  · subst hfeb
    have hmod : (12 * (year : ℤ) + (2 : ℕ) - 3) % 12 = 11 := by omega
    have hdiv : (12 * (year : ℤ) + (2 : ℕ) - 3) / 12 + 1 = year := by omega
    have hsucc := yearStart_succ ((12 * (year : ℤ) + (2 : ℕ) - 3) / 12)
    rw [monthLength_of_eq hmod, hsucc, hdiv]
    by_cases hleap : (year : ℤ) % 4 = 0 ∧ ((year : ℤ) % 100 ≠ 0 ∨ (year : ℤ) % 400 = 0)
    · rw [if_pos ⟨rfl, hleap⟩, if_pos hleap]
      omega
    · rw [if_neg (fun h => hleap h.2), if_neg hleap]
      norm_num
  · rw [if_neg (fun h => hfeb (by exact_mod_cast h.1)), monthLength_of_ne (by omega)]
    have hmod : (12 * (year : ℤ) + month - 3) % 12 = ((month : ℤ) - 3) % 12 := by omega
    rw [hmod]
    clear hmod
    interval_cases month <;> first | rfl | exact absurd rfl hfeb

/-- The day's number with the year and the month counted from March, as the source counts
them. -/
lemma dayNumber_eq {d : Date} (h₁ : 1 ≤ d.month) (h₁₂ : d.month ≤ 12) :
    d.dayNumber = yearStart (d.year - if d.month ≤ 2 then 1 else 0) +
      monthStart (if d.month > 2 then d.month - 3 else d.month + 9) + d.day - 1 := by
  have hdiv : d.months / 12 = d.year - if d.month ≤ 2 then 1 else 0 := by
    unfold Date.months
    split_ifs <;> omega
  have hmod : d.months % 12 = if d.month > 2 then d.month - 3 else d.month + 9 := by
    unfold Date.months
    split_ifs <;> omega
  rw [Date.dayNumber, monthOrdinal, hdiv, hmod]

lemma era_days (y : ℤ) :
    (if y ≥ 0 then y else y - 399).tdiv 400 * 146097 +
      ((y - (if y ≥ 0 then y else y - 399).tdiv 400 * 400) * 365 +
        (y - (if y ≥ 0 then y else y - 399).tdiv 400 * 400).tdiv 4 -
        (y - (if y ≥ 0 then y else y - 399).tdiv 400 * 400).tdiv 100) = yearStart y := by
  have hera := tdiv_floor y (k := 400) (by omega)
  norm_num only at hera
  have hnonneg : 0 ≤ y - y / 400 * 400 := by omega
  rw [hera, Int.tdiv_eq_ediv_of_nonneg hnonneg, Int.tdiv_eq_ediv_of_nonneg hnonneg]
  unfold yearStart
  omega

lemma parseUtcSecond_eq_some {text : String} {t : ℤ} : parseUtcSecond text = some t ↔
    ∃ year month day hour minute second : ℕ, (Date.mk year month day).Valid ∧ year < 10000 ∧
      hour < 24 ∧ minute < 60 ∧ second < 60 ∧
      text.toList = utcChars year month day hour minute second ∧
      t = ((Date.mk year month day).dayNumber - 719468) * 86400 + hour * 3600 + minute * 60 +
        second := by
  have hread : ∀ year month day hour minute second : ℕ, year < 10000 → month < 100 → day < 100 →
      hour < 100 → minute < 100 → second < 100 →
      text.toList = utcChars year month day hour minute second →
      (parseUtcSecond text = some t ↔ (Date.mk year month day).Valid ∧ hour < 24 ∧ minute < 60 ∧
        second < 60 ∧ t = ((Date.mk year month day).dayNumber - 719468) * 86400 + hour * 3600 +
          minute * 60 + second) := by
    intro year month day hour minute second hyear hmonth hday hhour hminute hsecond htext
    have hshape : isUtcSecond text.toList = true :=
      isUtcSecond_iff.2 ⟨_, _, _, _, _, _, hyear, hmonth, hday, hhour, hminute, hsecond, htext⟩
    have hn₀ : digitsValue ((text.toList.drop 0).take 4) = year := by
      rw [htext]
      exact digitsValue_fixedDigits (w := 4) hyear
    have hn₅ : digitsValue ((text.toList.drop 5).take 2) = month := by
      rw [htext]
      exact digitsValue_fixedDigits (w := 2) hmonth
    have hn₈ : digitsValue ((text.toList.drop 8).take 2) = day := by
      rw [htext]
      exact digitsValue_fixedDigits (w := 2) hday
    have hn₁₁ : digitsValue ((text.toList.drop 11).take 2) = hour := by
      rw [htext]
      exact digitsValue_fixedDigits (w := 2) hhour
    have hn₁₄ : digitsValue ((text.toList.drop 14).take 2) = minute := by
      rw [htext]
      exact digitsValue_fixedDigits (w := 2) hminute
    have hn₁₇ : digitsValue ((text.toList.drop 17).take 2) = second := by
      rw [htext]
      exact digitsValue_fixedDigits (w := 2) hsecond
    unfold parseUtcSecond
    dsimp only
    rw [if_pos hshape]
    simp only [hn₀, hn₅, hn₈, hn₁₁, hn₁₄, hn₁₇]
    by_cases hrange : (month : ℤ) < 1 ∨ (month : ℤ) > 12 ∨ (day : ℤ) < 1 ∨ (hour : ℤ) > 23 ∨
        (minute : ℤ) > 59 ∨ (second : ℤ) > 59
    · rw [if_pos hrange]
      refine iff_of_false nofun ?_
      rintro ⟨hvalid, hhour', hminute', hsecond', -⟩
      have h₁ := hvalid.one_le_month
      have h₁₂ := hvalid.month_le
      have hday₁ := hvalid.one_le_day
      dsimp only at h₁ h₁₂ hday₁
      omega
    rw [if_neg hrange, daysInMonth_eq day (by omega) (by omega)]
    by_cases hlong : (day : ℤ) > monthLength (Date.mk year month day).months
    · rw [if_pos hlong]
      refine iff_of_false nofun ?_
      rintro ⟨hvalid, -⟩
      exact absurd hlong (not_lt.2 hvalid.day_le)
    · have hvalid : (Date.mk year month day).Valid :=
        ⟨by dsimp only; omega, by dsimp only; omega, by dsimp only; omega, not_lt.1 hlong⟩
      have hdays := dayNumber_eq hvalid.one_le_month hvalid.month_le
      dsimp only at hdays
      have hera := era_days (year - if (month : ℤ) ≤ 2 then 1 else 0)
      have hmonthStart :
          (153 * (if (month : ℤ) > 2 then (month : ℤ) - 3 else month + 9) + 2).tdiv 5 =
          monthStart (if (month : ℤ) > 2 then (month : ℤ) - 3 else month + 9) := by
        refine Int.tdiv_eq_ediv_of_nonneg ?_
        split_ifs <;> omega
      rw [if_neg hlong, Option.some_inj, hmonthStart, hdays, ← hera]
      constructor
      · intro ht
        exact ⟨hvalid, by omega, by omega, by omega, by rw [← ht]; ring⟩
      · rintro ⟨-, -, -, -, rfl⟩
        ring
  constructor
  · intro h
    have hshape : isUtcSecond text.toList = true := by
      by_contra hnot
      unfold parseUtcSecond at h
      dsimp only at h
      rw [if_neg hnot] at h
      cases h
    obtain ⟨year, month, day, hour, minute, second, hyear, hmonth, hday, hhour, hminute, hsecond,
      htext⟩ := isUtcSecond_iff.1 hshape
    obtain ⟨hvalid, hhour', hminute', hsecond', ht⟩ :=
      (hread year month day hour minute second hyear hmonth hday hhour hminute hsecond htext).1 h
    exact ⟨year, month, day, hour, minute, second, hvalid, hyear, hhour', hminute', hsecond', htext,
      ht⟩
  · rintro ⟨year, month, day, hour, minute, second, hvalid, hyear, hhour, hminute, hsecond, htext,
      ht⟩
    have hmonth := hvalid.month_le
    have hday := hvalid.day_le.trans (monthLength_le _)
    dsimp only at hmonth hday
    exact (hread year month day hour minute second hyear (by omega) (by omega) (by omega) (by omega)
      (by omega) htext).2 ⟨hvalid, hhour, hminute, hsecond, ht⟩

lemma toList_formatUtcSecond {year month day hour minute second : ℕ} {t : ℤ}
    (hvalid : (Date.mk year month day).Valid) (hyear : year < 10000) (hhour : hour < 24)
    (hminute : minute < 60) (hsecond : second < 60)
    (ht : t = ((Date.mk year month day).dayNumber - 719468) * 86400 + hour * 3600 + minute * 60 +
      second) :
    (formatUtcSecond t).toList = utcChars year month day hour minute second := by
  have hdays : (if t ≥ 0 then t.tdiv 86400 else (t - 86399).tdiv 86400) =
      (Date.mk year month day).dayNumber - 719468 := by
    have hfloor := tdiv_floor t (k := 86400) (by omega)
    norm_num only at hfloor
    rw [← apply_ite (fun n : ℤ => n.tdiv 86400), hfloor]
    omega
  have hdate : civilFromDays ((Date.mk year month day).dayNumber - 719468) =
      Date.mk year month day := by
    obtain ⟨hvalid', hnumber⟩ := civilFromDays_spec ((Date.mk year month day).dayNumber - 719468)
    refine Date.eq_of_dayNumber_eq hvalid' hvalid ?_
    rw [hnumber]
    ring
  have hsecondOfDay : t - ((Date.mk year month day).dayNumber - 719468) * 86400 =
      ((hour * 3600 + minute * 60 + second : ℕ) : ℤ) := by
    push_cast
    omega
  have hmonth := hvalid.month_le
  have hday := hvalid.day_le.trans (monthLength_le _)
  dsimp only at hmonth hday
  have hh : ((hour * 3600 + minute * 60 + second : ℕ) : ℤ).tdiv 3600 = hour := by
    rw [Int.tdiv_eq_ediv_of_nonneg (Int.natCast_nonneg _)]
    omega
  have hm : (((hour * 3600 + minute * 60 + second : ℕ) : ℤ).tdiv 60).tmod 60 = minute := by
    rw [Int.tdiv_eq_ediv_of_nonneg (Int.natCast_nonneg _), Int.tmod_eq_emod_of_nonneg (by omega)]
    omega
  have hs : ((hour * 3600 + minute * 60 + second : ℕ) : ℤ).tmod 60 = second := by
    rw [Int.tmod_eq_emod_of_nonneg (Int.natCast_nonneg _)]
    omega
  unfold formatUtcSecond
  dsimp only
  rw [hdays, hdate, hsecondOfDay, hh, hm, hs]
  simp only [String.toList_append, toList_fillYear hyear, toList_two (show month < 100 by omega),
    toList_two (show day < 100 by omega), toList_two (show hour < 100 by omega),
    toList_two (show minute < 100 by omega), toList_two (show second < 100 by omega), utcChars]
  simp only [List.append_assoc]
  rfl

/-- **The two conversions are inverse.** -/
theorem utc_seconds_inverse :
    (∀ t, ((Date.mk 0 1 1).dayNumber - 719468) * 86400 ≤ t →
      t < ((Date.mk 10000 1 1).dayNumber - 719468) * 86400 →
      parseUtcSecond (formatUtcSecond t) = some t) ∧
    ∀ text t, parseUtcSecond text = some t → formatUtcSecond t = text := by
  constructor
  · intro t hfirst hlast
    obtain ⟨hvalid, hnumber⟩ := civilFromDays_spec (t / 86400)
    -- the year is in four digits: an earlier or later date has an earlier or later number
    have hyear₀ : 0 ≤ (civilFromDays (t / 86400)).year := by
      by_contra hneg
      have hbefore : (civilFromDays (t / 86400)).dayNumber < (Date.mk 0 1 1).dayNumber := by
        refine Date.dayNumber_lt hvalid ⟨by decide, by decide, by decide, by decide⟩ (.inl ?_)
        have hmonth := hvalid.month_le
        unfold Date.months
        dsimp only
        omega
      omega
    have hyear : (civilFromDays (t / 86400)).year < 10000 := by
      have hend : (Date.mk 10000 1 1).Valid := ⟨by decide, by decide, by decide, by decide⟩
      have hone := hvalid.one_le_month
      have hday := hvalid.one_le_day
      rcases Date.before_of_dayNumber_lt hvalid hend (by omega) with hbefore | ⟨-, hbefore⟩
      · unfold Date.months at hbefore
        dsimp only at hbefore
        omega
      · dsimp only at hbefore
        omega
    obtain ⟨year, hyear'⟩ := Int.eq_ofNat_of_zero_le hyear₀
    obtain ⟨month, hmonth'⟩ := Int.eq_ofNat_of_zero_le (zero_le_one.trans hvalid.one_le_month)
    obtain ⟨day, hday'⟩ := Int.eq_ofNat_of_zero_le (zero_le_one.trans hvalid.one_le_day)
    have hdate : civilFromDays (t / 86400) = Date.mk year month day := by
      rw [← hyear', ← hmonth', ← hday']
    rw [hdate] at hvalid hnumber
    obtain ⟨n, hn⟩ := Int.eq_ofNat_of_zero_le (Int.emod_nonneg t (b := 86400) (by omega))
    have hn' : n < 86400 := by omega
    have ht : t = ((Date.mk year month day).dayNumber - 719468) * 86400 + (n / 3600 : ℕ) * 3600 +
        (n / 60 % 60 : ℕ) * 60 + (n % 60 : ℕ) := by
      omega
    refine parseUtcSecond_eq_some.2 ⟨year, month, day, n / 3600, n / 60 % 60, n % 60, hvalid,
      by omega, by omega, by omega, by omega, ?_, ht⟩
    exact toList_formatUtcSecond hvalid (by omega) (by omega) (by omega) (by omega) ht
  · intro text t h
    obtain ⟨year, month, day, hour, minute, second, hvalid, hyear, hhour, hminute, hsecond, htext,
      ht⟩ := parseUtcSecond_eq_some.1 h
    have hformat := toList_formatUtcSecond hvalid hyear hhour hminute hsecond ht
    exact String.toList_injective (hformat.trans htext.symm)

/-- The founding, and a leap day of a century. -/
theorem utc_seconds_inverse_founding :
    parseUtcSecond (formatUtcSecond 1684800000) = some 1684800000 ∧
      formatUtcSecond 951827696 = "2000-02-29T12:34:56Z" :=
  ⟨utc_seconds_inverse.1 _ (by decide) (by decide),
    utc_seconds_inverse.2 "2000-02-29T12:34:56Z" 951827696 (by decide +kernel)⟩

end UrnetworkWindows.Update
