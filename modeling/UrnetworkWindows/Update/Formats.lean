/-
The small formats an update check reads (`VersionGrammar.h`, `UpdateFormats.h`,
`UpdateResult.h`).

A string is its list of characters.  The sources read bytes; every grammar here refuses
what is not plain ASCII, so both read the same.  The numbers are 64-bit in the sources: a
release code has at most 18 digits and a year four, so nothing wraps.
-/
import Mathlib.Tactic

namespace UrnetworkWindows.Update

/-! ### Release tags -/

/-- `IsDigit`. -/
def isDigit (c : Char) : Bool := '0' ≤ c && c ≤ '9'

/-- The value of a run of digits. -/
def digitsValue (digits : List Char) : ℕ :=
  digits.foldl (fun value c => value * 10 + (c.toNat - '0'.toNat)) 0

/-- `DigitRun`. -/
structure DigitRun where
  value : ℕ := 0
  length : ℕ := 0
deriving DecidableEq, Repr

/-- `TakeDigits`. -/
def takeDigits (s : List Char) (maxDigits : ℕ) : DigitRun :=
  let run := (s.takeWhile isDigit).length
  if run = 0 ∨ run > maxDigits then {}
  else { value := digitsValue (s.take run), length := run }

/-- `ParseReleaseCode`. -/
def parseReleaseCode (tag : List Char) : ℕ :=
  let tag := if tag.head? = some 'v' then tag.drop 1 else tag
  let year := takeDigits tag 4
  if year.length ≠ 4 then 0 else
  let tag := tag.drop year.length
  if tag.head? ≠ some '.' then 0 else
  let tag := tag.drop 1
  let month := takeDigits tag 2
  if month.length = 0 ∨ month.value < 1 ∨ month.value > 12 then 0 else
  let tag := tag.drop month.length
  if tag.head? ≠ some '.' then 0 else
  let tag := tag.drop 1
  let day := takeDigits tag 2
  if day.length = 0 ∨ day.value < 1 ∨ day.value > 31 then 0 else
  let tag := tag.drop day.length
  if tag.head? ≠ some '-' then 0 else
  let tag := tag.drop 1
  let code := takeDigits tag 18
  if code.length = 0 then 0 else
  let tag := tag.drop code.length
  if tag ≠ [] ∧ tag ≠ "-beta".toList then 0 else
  code.value

/-! ### Digests -/

/-- `IsHexDigit`. -/
def isHexDigit (c : Char) : Bool :=
  ('0' ≤ c && c ≤ '9') || ('a' ≤ c && c ≤ 'f') || ('A' ≤ c && c ≤ 'F')

/-- `AsciiLower`. -/
def asciiLower (c : Char) : Char :=
  if 'A' ≤ c ∧ c ≤ 'Z' then Char.ofNat (c.toNat - 'A'.toNat + 'a'.toNat) else c

/-- `DigestHexFromAssetDigest`. -/
def digestHexFromAssetDigest (digest : String) : String :=
  let kPrefix := "sha256:".toList
  if digest.toList.length ≠ kPrefix.length + 64 then ""
  else if digest.toList.take kPrefix.length ≠ kPrefix then ""
  else
    let hex := digest.toList.drop kPrefix.length
    if hex.all isHexDigit then String.ofList (hex.map asciiLower) else ""

/-- A hex digit as the digests are compared. -/
def isLowerHexDigit (c : Char) : Bool := ('0' ≤ c && c ≤ '9') || ('a' ≤ c && c ≤ 'f')

lemma isLowerHexDigit_asciiLower {c : Char} (h : isHexDigit c = true) :
    isLowerHexDigit (asciiLower c) = true := by
  have hle (x y : Char) : x ≤ y ↔ x.toNat ≤ y.toNat := Iff.rfl
  simp only [isHexDigit, Bool.or_eq_true, Bool.and_eq_true, decide_eq_true_eq] at h
  unfold asciiLower
  split
  next hc =>
    -- one of `A` to `F`: the others are no letters of the upper case
    have hrange : 65 ≤ c.toNat ∧ c.toNat ≤ 70 := by
      simp only [hle, Char.reduceToNat] at h hc
      omega
    obtain ⟨hlo, hhi⟩ := hrange
    interval_cases hn : c.toNat <;> decide
  next hc =>
    have hnot : ¬ ('A' ≤ c ∧ c ≤ 'F') := by
      rintro ⟨hA, hF⟩
      have hFZ : 'F'.toNat ≤ 'Z'.toNat := by decide
      exact hc ⟨hA, (hle _ _).2 (le_trans ((hle _ _).1 hF) hFZ)⟩
    simp only [isLowerHexDigit, Bool.or_eq_true, Bool.and_eq_true, decide_eq_true_eq]
    rcases h with h | h
    · exact h
    · exact absurd h hnot

lemma digestHex_spec {digest : String} (h : digestHexFromAssetDigest digest ≠ "") :
    (digestHexFromAssetDigest digest).length = 64 ∧
      (digestHexFromAssetDigest digest).toList.all isLowerHexDigit = true := by
  simp only [digestHexFromAssetDigest] at h ⊢
  split at h
  next => exact absurd rfl h
  next hlen =>
    split at h
    next => exact absurd rfl h
    next hpre =>
      split at h
      next hhex =>
        rw [if_neg hlen, if_neg hpre, if_pos hhex]
        constructor
        · have hlen := not_not.1 hlen
          rw [String.length_ofList, List.length_map, List.length_drop]
          omega
        · rw [String.toList_ofList, List.all_map, List.all_eq_true]
          intro c hc
          exact isLowerHexDigit_asciiLower (List.all_eq_true.1 hhex c hc)
      next => exact absurd rfl h

/-! ### UTC seconds -/

/-- `IsUtcSecond`. -/
def isUtcSecond (text : List Char) : Bool :=
  let kShape := "0000-00-00T00:00:00Z".toList
  text.length = kShape.length &&
    (text.zip kShape).all fun p => if p.2 = '0' then isDigit p.1 else p.1 = p.2

/-- `DaysInMonth`. -/
def daysInMonth (year month : ℤ) : ℤ :=
  let kDays := [31, 28, 31, 30, 31, 30, 31, 31, 30, 31, 30, 31]
  let leap := year.tmod 4 = 0 ∧ (year.tmod 100 ≠ 0 ∨ year.tmod 400 = 0)
  if month = 2 ∧ leap then 29 else kDays.getD (month - 1).toNat 0

/-- `ParseUtcSecond`. -/
def parseUtcSecond (text : String) : Option ℤ :=
  let chars := text.toList
  if isUtcSecond chars then
    let number (start digits : ℕ) : ℤ := digitsValue ((chars.drop start).take digits)
    let year := number 0 4
    let month := number 5 2
    let day := number 8 2
    let hour := number 11 2
    let minute := number 14 2
    let second := number 17 2
    if month < 1 ∨ month > 12 ∨ day < 1 ∨ hour > 23 ∨ minute > 59 ∨ second > 59 then none
    else if day > daysInMonth year month then none
    else
      let y := year - (if month ≤ 2 then 1 else 0)
      let era := (if y ≥ 0 then y else y - 399).tdiv 400
      let yearOfEra := y - era * 400
      let dayOfYear :=
        (153 * (if month > 2 then month - 3 else month + 9) + 2).tdiv 5 + day - 1
      let dayOfEra := yearOfEra * 365 + yearOfEra.tdiv 4 - yearOfEra.tdiv 100 + dayOfYear
      let days := era * 146097 + dayOfEra - 719468
      some (days * 86400 + hour * 3600 + minute * 60 + second)
  else none

example : parseReleaseCode "v2026.10.1-1060000000".toList = 1060000000 := by decide +kernel

example : parseUtcSecond "2023-05-23T00:00:00Z" = some 1684800000 := by decide +kernel

end UrnetworkWindows.Update
