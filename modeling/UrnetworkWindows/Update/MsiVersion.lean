/-
The MSI version of a release code (`ReleaseSelection.h`: `CodeUnixSeconds`, `CivilFromDays`,
`UrMsiVersion`).

A code's version is read off the date of its second and off the time of that day, in 2048ths of
it.  A later date has the later year and month or the greater day (`Date.Before`), and within a
day the 2048ths follow the seconds, so a greater code has no smaller version
(`msi_version_follows_code`).  `Checked` is the same arithmetic with every result looked at for
the type it has in the source.
-/
import UrnetworkWindows.Update.Dates
import UrnetworkWindows.Update.Selection

namespace UrnetworkWindows.Update

open Lib.Calendar

/-- What an MSI version is made of. -/
structure MsiVersion where
  major : ℤ
  minor : ℤ
  patch : ℤ
deriving DecidableEq, Repr

namespace MsiVersion

/-- How it is written. -/
def text (v : MsiVersion) : String :=
  toString v.major ++ "." ++ toString v.minor ++ "." ++ toString v.patch

/-- Windows Installer's order. -/
def Lt (v w : MsiVersion) : Prop :=
  v.major < w.major ∨ v.major = w.major ∧
    (v.minor < w.minor ∨ v.minor = w.minor ∧ v.patch < w.patch)

/-- What each field has room for. -/
structure InRange (v : MsiVersion) : Prop where
  major : 0 ≤ v.major ∧ v.major ≤ 255
  minor : 1 ≤ v.minor ∧ v.minor ≤ 12
  patch : 0 ≤ v.patch ∧ v.patch ≤ 65535

end MsiVersion

/-- The three numbers of `UrMsiVersion`, where it gives any. -/
def msiVersion? (code : ℕ) : Option MsiVersion :=
  if code = 0 then none
  else
    let seconds := codeUnixSeconds code
    let days := seconds.tdiv 86400
    let secondOfDay := seconds.tmod 86400
    let date := civilFromDays days
    let major := date.year - 2000
    if major < 0 ∨ major > 255 then none
    else
      let patch := (date.day - 1) * 2048 + (secondOfDay * 2048).tdiv 86400
      some { major, minor := date.month, patch }

/-- `UrMsiVersion`. -/
def urMsiVersion (code : ℕ) : String := (msiVersion? code).elim "" MsiVersion.text

/-! ### The arithmetic of the source's types -/

namespace Checked

/-- A result of the type of 64 bits with a sign. -/
def int64 (x : ℤ) : Option ℤ := if -2 ^ 63 ≤ x ∧ x < 2 ^ 63 then some x else none

/-- A result of the type of 32 bits without one. -/
def unsigned (x : ℤ) : Option ℤ := if 0 ≤ x ∧ x < 2 ^ 32 then some x else none

lemma int64_of {x : ℤ} (h : -2 ^ 63 ≤ x) (h' : x < 2 ^ 63) : int64 x = some x := if_pos ⟨h, h'⟩

lemma unsigned_of {x : ℤ} (h : 0 ≤ x) (h' : x < 2 ^ 32) : unsigned x = some x := if_pos ⟨h, h'⟩

/-- `CodeUnixSeconds`. -/
def codeUnixSeconds (code : ℕ) : Option ℤ := do
  let tenths ← int64 (code / 10 : ℕ)
  int64 (kCodeEpochUnixSeconds + tenths)

/-- `CivilFromDays`, operation by operation. -/
def civilFromDays (days : ℤ) : Option Date := do
  let days ← int64 (days + 719468)
  let shifted ← (if days ≥ 0 then some days else int64 (days - 146096))
  let era := shifted.tdiv 146097
  let eraDays ← int64 (era * 146097)
  let difference ← int64 (days - eraDays)
  let dayOfEra ← unsigned difference
  let a ← unsigned (dayOfEra - dayOfEra / 1460)
  let b ← unsigned (a + dayOfEra / 36524)
  let c ← unsigned (b - dayOfEra / 146096)
  let yearOfEra := c / 365
  let d ← unsigned (365 * yearOfEra)
  let e ← unsigned (d + yearOfEra / 4)
  let f ← unsigned (e - yearOfEra / 100)
  let dayOfYear ← unsigned (dayOfEra - f)
  let g ← unsigned (5 * dayOfYear)
  let h ← unsigned (g + 2)
  let monthIndex := h / 153
  let i ← unsigned (153 * monthIndex)
  let j ← unsigned (i + 2)
  let k ← unsigned (dayOfYear - j / 5)
  let day ← unsigned (k + 1)
  let month ← (if monthIndex < 10 then unsigned (monthIndex + 3) else unsigned (monthIndex - 9))
  let eraYears ← int64 (era * 400)
  let marchYear ← int64 (yearOfEra + eraYears)
  let year ← int64 (marchYear + if month ≤ 2 then 1 else 0)
  return { year, month, day }

/-- `UrMsiVersion`. -/
def urMsiVersion (code : ℕ) : Option String :=
  if code = 0 then some ""
  else do
    let seconds ← codeUnixSeconds code
    let days := seconds.tdiv 86400
    let secondOfDay := seconds.tmod 86400
    let date ← civilFromDays days
    let major ← int64 (date.year - 2000)
    if major < 0 ∨ major > 255 then some ""
    else
      let before ← unsigned (date.day - 1)
      let dayPart ← int64 (before * 2048)
      let secondPart ← int64 (secondOfDay * 2048)
      let patch ← int64 (dayPart + secondPart.tdiv 86400)
      return MsiVersion.text { major, minor := date.month, patch }

end Checked

/-! ### Order -/

lemma codeUnixSeconds_mono {c₁ c₂ : ℕ} (h : c₁ ≤ c₂) : codeUnixSeconds c₁ ≤ codeUnixSeconds c₂ := by
  unfold codeUnixSeconds
  omega

lemma codeUnixSeconds_nonneg (code : ℕ) : 0 ≤ codeUnixSeconds code := by
  unfold codeUnixSeconds kCodeEpochUnixSeconds
  omega

lemma msiVersion?_eq_some {code : ℕ} {v : MsiVersion} (h : msiVersion? code = some v) :
    ∃ d : Date, d.Valid ∧ d.dayNumber = codeUnixSeconds code / 86400 + 719468 ∧
      0 ≤ d.year - 2000 ∧ d.year - 2000 ≤ 255 ∧
      v = ⟨d.year - 2000, d.month,
        (d.day - 1) * 2048 + codeUnixSeconds code % 86400 * 2048 / 86400⟩ := by
  obtain ⟨hvalid, hnumber⟩ := civilFromDays_spec (codeUnixSeconds code / 86400)
  have hnonneg := codeUnixSeconds_nonneg code
  unfold msiVersion? at h
  dsimp only at h
  split_ifs at h with hzero hmajor
  rw [Int.tdiv_eq_ediv_of_nonneg hnonneg] at h hmajor
  rw [Int.tmod_eq_emod_of_nonneg hnonneg, Int.tdiv_eq_ediv_of_nonneg (by omega)] at h
  exact ⟨_, hvalid, hnumber, by omega, by omega, (Option.some.inj h).symm⟩

lemma text_ne_empty (v : MsiVersion) : v.text ≠ "" := by
  intro h
  have hdot : '.' ∈ v.text.toList := by simp [MsiVersion.text]
  rw [h] at hdot
  exact absurd hdot (by decide)

lemma inRange_of_msiVersion? {code : ℕ} {v : MsiVersion} (h : msiVersion? code = some v) :
    v.InRange := by
  obtain ⟨d, hvalid, -, hmajor₀, hmajor, rfl⟩ := msiVersion?_eq_some h
  have hday₁ := hvalid.one_le_day
  have hday := hvalid.day_le.trans (monthLength_le _)
  exact ⟨⟨hmajor₀, hmajor⟩, ⟨hvalid.one_le_month, hvalid.month_le⟩, by dsimp only; omega⟩

lemma lt_of_before {d e : Date} (hd : d.Valid) (he : e.Valid) (h : d.Before e) {p q : ℤ}
    (hp : p < 2048) (hq : 0 ≤ q) :
    MsiVersion.Lt ⟨d.year - 2000, d.month, (d.day - 1) * 2048 + p⟩
      ⟨e.year - 2000, e.month, (e.day - 1) * 2048 + q⟩ := by
  obtain ⟨hd₁, hd₁₂, -, -⟩ := hd
  obtain ⟨he₁, he₁₂, -, -⟩ := he
  unfold MsiVersion.Lt
  unfold Date.Before Date.months at h
  dsimp only
  omega

lemma msiVersion?_lt {c₁ c₂ : ℕ} (h : c₁ < c₂) {v₁ v₂ : MsiVersion}
    (h₁ : msiVersion? c₁ = some v₁) (h₂ : msiVersion? c₂ = some v₂) :
    (v₁.Lt v₂ ∨ v₁ = v₂) ∧ (c₁ + 430 ≤ c₂ → v₁.Lt v₂) := by
  obtain ⟨d, hd, hdnumber, -, -, rfl⟩ := msiVersion?_eq_some h₁
  obtain ⟨e, he, henumber, -, -, rfl⟩ := msiVersion?_eq_some h₂
  have hmono := codeUnixSeconds_mono h.le
  rcases lt_or_ge (codeUnixSeconds c₁ / 86400) (codeUnixSeconds c₂ / 86400) with hday | hday
  · have hlt := lt_of_before hd he (Date.before_of_dayNumber_lt hd he (by omega))
      (p := codeUnixSeconds c₁ % 86400 * 2048 / 86400)
      (q := codeUnixSeconds c₂ % 86400 * 2048 / 86400) (by omega) (by omega)
    exact ⟨.inl hlt, fun _ => hlt⟩
  · -- the same day: only the time of it can differ
    obtain rfl : d = e := Date.eq_of_dayNumber_eq hd he (by omega)
    have hpatch : codeUnixSeconds c₁ % 86400 * 2048 / 86400 ≤
        codeUnixSeconds c₂ % 86400 * 2048 / 86400 := by
      omega
    constructor
    · rcases hpatch.lt_or_eq with hlt | heq
      · exact .inl (.inr ⟨rfl, .inr ⟨rfl, by dsimp only; omega⟩⟩)
      · rw [heq]
        exact .inr rfl
    · intro hapart
      have hseconds : codeUnixSeconds c₁ + 43 ≤ codeUnixSeconds c₂ := by
        unfold codeUnixSeconds
        omega
      exact .inr ⟨rfl, .inr ⟨rfl, by dsimp only; omega⟩⟩

/-! ### Nothing overflows -/

namespace Checked

lemma bind_of {α β : Type} {x : Option α} {f : α → Option β} {a : α} {r : Option β}
    (hx : x = some a) (h : f a = r) : (x >>= f) = r := by
  rw [hx]
  exact h

lemma civilFromDays_eq {days : ℤ} (h₀ : 0 ≤ days) (h : days < 2 ^ 60) :
    civilFromDays days = some (Update.civilFromDays days) := by
  obtain ⟨n, hn⟩ : ∃ n, days + 719468 = n := ⟨_, rfl⟩
  obtain ⟨era, hera⟩ : ∃ era, n / 146097 = era := ⟨_, rfl⟩
  obtain ⟨y, doy, m, hy₀, hy, hdoy₀, hlt, hdoe, -⟩ := ofDayNumber_parts n
  have hyear := yearOfEra_eq hy₀ hy hdoy₀ hlt
  rw [← hdoe] at hyear
  obtain ⟨doe, hdoe'⟩ : ∃ doe, n % 146097 = doe := ⟨_, rfl⟩
  rw [hdoe'] at hyear hdoe
  have hstart : yearStart y = 365 * y + y / 4 - y / 100 := by
    unfold yearStart
    omega
  have hdoy : doy < 366 := by
    rw [yearStart_succ] at hlt
    split_ifs at hlt <;> omega
  have hnonneg : 0 ≤ n := by omega
  have hrest : n - era * 146097 = doe := by omega
  have hyearDays : doe - (365 * y + y / 4 - y / 100) = doy := by omega
  obtain ⟨m, hm⟩ : ∃ m, (5 * doy + 2) / 153 = m := ⟨_, rfl⟩
  have hdate : Update.civilFromDays days = Date.mk
      (y + era * 400 + if (if m < 10 then m + 3 else m - 9) ≤ 2 then 1 else 0)
      (if m < 10 then m + 3 else m - 9) (doy - (153 * m + 2) / 5 + 1) := by
    rw [Update.civilFromDays_eq, ofDayNumber, hn, hdoe', hyear, hyearDays, hera, hm]
  rw [hdate]
  refine bind_of (int64_of (by omega) (by omega)) ?_
  rw [hn]
  refine bind_of (if_pos hnonneg) ?_
  rw [Int.tdiv_eq_ediv_of_nonneg hnonneg, hera]
  refine bind_of (int64_of (by omega) (by omega)) ?_
  refine bind_of (int64_of (by omega) (by omega)) ?_
  rw [hrest]
  refine bind_of (unsigned_of (by omega) (by omega)) ?_
  refine bind_of (unsigned_of (by omega) (by omega)) ?_
  refine bind_of (unsigned_of (by omega) (by omega)) ?_
  refine bind_of (unsigned_of (by omega) (by omega)) ?_
  rw [hyear]
  refine bind_of (unsigned_of (by omega) (by omega)) ?_
  refine bind_of (unsigned_of (by omega) (by omega)) ?_
  refine bind_of (unsigned_of (by omega) (by omega)) ?_
  rw [hyearDays]
  refine bind_of (unsigned_of (by omega) (by omega)) ?_
  refine bind_of (unsigned_of (by omega) (by omega)) ?_
  refine bind_of (unsigned_of (by omega) (by omega)) ?_
  rw [hm]
  refine bind_of (unsigned_of (by omega) (by omega)) ?_
  refine bind_of (unsigned_of (by omega) (by omega)) ?_
  refine bind_of (unsigned_of (by omega) (by omega)) ?_
  refine bind_of (unsigned_of (by omega) (by omega)) ?_
  have hmonth : (if m < 10 then unsigned (m + 3) else unsigned (m - 9)) =
      some (if m < 10 then m + 3 else m - 9) := by
    split_ifs
    · exact unsigned_of (by omega) (by omega)
    · exact unsigned_of (by omega) (by omega)
  refine bind_of hmonth ?_
  refine bind_of (int64_of (by omega) (by omega)) ?_
  refine bind_of (int64_of (by omega) (by omega)) ?_
  exact bind_of (int64_of (by split_ifs <;> omega) (by split_ifs <;> omega)) rfl

lemma codeUnixSeconds_eq {code : ℕ} (h : code < 10 ^ 18) :
    codeUnixSeconds code = some (Update.codeUnixSeconds code) := by
  unfold codeUnixSeconds Update.codeUnixSeconds kCodeEpochUnixSeconds
  refine bind_of (int64_of (by omega) (by omega)) ?_
  exact int64_of (by omega) (by omega)

lemma urMsiVersion_eq {code : ℕ} (h : code < 10 ^ 18) :
    urMsiVersion code = some (Update.urMsiVersion code) := by
  unfold urMsiVersion Update.urMsiVersion msiVersion?
  split_ifs with hzero
  · rfl
  have hseconds := codeUnixSeconds_eq h
  have hnonneg := codeUnixSeconds_nonneg code
  have hlt : Update.codeUnixSeconds code < 2 ^ 60 := by
    unfold Update.codeUnixSeconds kCodeEpochUnixSeconds
    omega
  have hdays : (Update.codeUnixSeconds code).tdiv 86400 = Update.codeUnixSeconds code / 86400 :=
    Int.tdiv_eq_ediv_of_nonneg hnonneg
  have hrest : (Update.codeUnixSeconds code).tmod 86400 = Update.codeUnixSeconds code % 86400 :=
    Int.tmod_eq_emod_of_nonneg hnonneg
  obtain ⟨hvalid, hnumber⟩ := civilFromDays_spec (Update.codeUnixSeconds code / 86400)
  refine bind_of hseconds ?_
  dsimp only
  rw [hdays, hrest]
  refine bind_of (civilFromDays_eq (by omega) (by omega)) ?_
  have hyear : 0 ≤ (Update.civilFromDays (Update.codeUnixSeconds code / 86400)).year ∧
      (Update.civilFromDays (Update.codeUnixSeconds code / 86400)).year < 2 ^ 61 := by
    rw [Update.civilFromDays_eq]
    obtain ⟨y, doy, m, hy₀, hy, -, -, -, hm₀, hm, -, -, hmonths, -, hmonth₁, hmonth⟩ :=
      ofDayNumber_parts (Update.codeUnixSeconds code / 86400 + 719468)
    unfold Date.months at hmonths
    omega
  have hday₁ := hvalid.one_le_day
  have hday := hvalid.day_le.trans (monthLength_le _)
  refine bind_of (int64_of (by omega) (by omega)) ?_
  split_ifs with hmajor
  · rfl
  refine bind_of (unsigned_of (by omega) (by omega)) ?_
  refine bind_of (int64_of (by omega) (by omega)) ?_
  refine bind_of (int64_of (by omega) (by omega)) ?_
  rw [Int.tdiv_eq_ediv_of_nonneg (by omega)]
  exact bind_of (int64_of (by omega) (by omega)) rfl

end Checked

/-- **The MSI version follows the release code.** -/
theorem msi_version_follows_code :
    (∀ c₁ c₂, c₁ < c₂ → c₂ < 10 ^ 18 → ∀ v₁ v₂, msiVersion? c₁ = some v₁ →
      msiVersion? c₂ = some v₂ → (v₁.Lt v₂ ∨ v₁ = v₂) ∧ (c₁ + 430 ≤ c₂ → v₁.Lt v₂)) ∧
    (∀ c < 10 ^ 18, (urMsiVersion c ≠ "" ↔ (msiVersion? c).isSome) ∧
      ∀ v, msiVersion? c = some v → urMsiVersion c = v.text ∧ v.InRange) ∧
    ∀ c < 10 ^ 18, (Checked.codeUnixSeconds c = some (codeUnixSeconds c)) ∧
      Checked.civilFromDays (codeUnixSeconds c / 86400) =
        some (civilFromDays (codeUnixSeconds c / 86400)) ∧
      Checked.urMsiVersion c = some (urMsiVersion c) := by
  refine ⟨fun c₁ c₂ h _ v₁ v₂ h₁ h₂ => msiVersion?_lt h h₁ h₂, fun c _ => ?_, fun c h => ?_⟩
  · unfold urMsiVersion
    cases hv : msiVersion? c with
    | none => exact ⟨by simp, nofun⟩
    | some v =>
      refine ⟨iff_of_true (text_ne_empty v) rfl, fun w hw => ?_⟩
      cases hw
      exact ⟨rfl, inRange_of_msiVersion? hv⟩
  · have hnonneg := codeUnixSeconds_nonneg c
    have hlt : codeUnixSeconds c < 2 ^ 60 := by
      unfold codeUnixSeconds kCodeEpochUnixSeconds
      omega
    exact ⟨Checked.codeUnixSeconds_eq h, Checked.civilFromDays_eq (by omega) (by omega),
      Checked.urMsiVersion_eq h⟩

/-- Two builds on either side of a year's end. -/
theorem msi_version_follows_code_year :
    MsiVersion.Lt ⟨26, 12, 63487⟩ ⟨27, 1, 0⟩ ∧
      urMsiVersion 1139615999 = MsiVersion.text ⟨26, 12, 63487⟩ ∧
      Checked.urMsiVersion 1139615999 = some (urMsiVersion 1139615999) := by
  have h₁ : msiVersion? 1139615999 = some ⟨26, 12, 63487⟩ := by decide +kernel
  have h₂ : msiVersion? 1139616429 = some ⟨27, 1, 0⟩ := by decide +kernel
  obtain ⟨horder, hfields, hchecked⟩ := msi_version_follows_code
  exact ⟨(horder _ _ (by omega) (by omega) _ _ h₁ h₂).2 (by omega),
    ((hfields _ (by omega)).2 _ h₁).1, (hchecked _ (by omega)).2.2⟩

end UrnetworkWindows.Update
