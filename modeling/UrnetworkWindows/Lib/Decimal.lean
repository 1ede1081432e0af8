/-
Decimal numerals in bytes.

A numeral without a leading zero is the one its number is written as, so that reading a
numeral digit by digit and writing a number are inverse (`eq_numeral_iff`).
-/
import UrnetworkWindows.Lib.Text

namespace UrnetworkWindows.Lib

/-- A decimal digit. -/
def isDecimal (c : UInt8) : Bool := '0'.toUInt8 ≤ c && c ≤ '9'.toUInt8

/-- The digit of a number below ten. -/
def digitByte (d : ℕ) : UInt8 := d.digitChar.toUInt8

/-- What a digit stands for. -/
def digitValue (c : UInt8) : ℕ := c.toNat - '0'.toNat

/-- The number that digits are read as. -/
def decimalValue (ds : List UInt8) : ℕ := ds.foldl (fun value c => value * 10 + digitValue c) 0

/-- The number in decimal. -/
def numeral (n : ℕ) : List UInt8 := (Nat.toDigits 10 n).map Char.toUInt8

@[simp] lemma decimalValue_nil : decimalValue [] = 0 := rfl

@[simp] lemma decimalValue_snoc (ds : List UInt8) (c : UInt8) :
    decimalValue (ds ++ [c]) = decimalValue ds * 10 + digitValue c := by
  rw [decimalValue, List.foldl_append]
  rfl

lemma digitByte_spec : ∀ d < 10, isDecimal (digitByte d) = true ∧ digitValue (digitByte d) = d := by
  decide

lemma digitByte_digitValue {c : UInt8} (h : isDecimal c = true) :
    digitValue c < 10 ∧ digitByte (digitValue c) = c := by
  revert h
  exact forall_byte (p := fun c => isDecimal c = true →
    digitValue c < 10 ∧ digitByte (digitValue c) = c) (by decide +kernel) c

lemma numeral_of_lt {n : ℕ} (h : n < 10) : numeral n = [digitByte n] := by
  rw [numeral, Nat.toDigits_of_lt_base h]
  rfl

lemma numeral_of_le {n : ℕ} (h : 10 ≤ n) :
    numeral n = numeral (n / 10) ++ [digitByte (n % 10)] := by
  rw [numeral, Nat.toDigits_of_base_le (by omega) h, List.map_append]
  rfl

/-- A number above 0 is written in digits, of which the first is not a zero. -/
lemma numeral_spec {n : ℕ} (h : 0 < n) : (∀ c ∈ numeral n, isDecimal c = true) ∧
    numeral n ≠ [] ∧ (numeral n).head? ≠ some '0'.toUInt8 ∧ decimalValue (numeral n) = n := by
  induction n using Nat.strongRecOn with
  | ind n ih =>
    rcases lt_or_ge n 10 with hlt | hle
    · obtain ⟨hdigit, hvalue⟩ := digitByte_spec n hlt
      rw [numeral_of_lt hlt]
      refine ⟨by simpa using hdigit, by simp, fun hhead => ?_, ?_⟩
      · have hzero : digitByte n = '0'.toUInt8 := Option.some.inj hhead
        rw [hzero] at hvalue
        exact h.ne hvalue
      · rw [← List.nil_append [digitByte n], decimalValue_snoc, hvalue]
        simp
    · obtain ⟨hdigits, hne, hhead, hvalue⟩ := ih (n / 10) (by omega) (by omega)
      obtain ⟨hdigit, hlast⟩ := digitByte_spec (n % 10) (by omega)
      rw [numeral_of_le hle]
      refine ⟨?_, by simp, ?_, ?_⟩
      · intro c hc
        rcases List.mem_append.1 hc with hc | hc
        · exact hdigits c hc
        · rw [List.mem_singleton.1 hc]
          exact hdigit
      · rwa [List.head?_append_of_ne_nil _ hne]
      · rw [decimalValue_snoc, hvalue, hlast]
        omega

/-- Digits of which the first is not a zero are the numeral of what they are read as. -/
lemma eq_numeral {ds : List UInt8} (hne : ds ≠ []) (hdigits : ∀ c ∈ ds, isDecimal c = true)
    (hhead : ds.head? ≠ some '0'.toUInt8) :
    0 < decimalValue ds ∧ ds = numeral (decimalValue ds) := by
  induction ds using List.reverseRecOn with
  | nil => exact absurd rfl hne
  | append_singleton ds c ih =>
    obtain ⟨hlt, hbyte⟩ := digitByte_digitValue (hdigits c (by simp))
    rw [decimalValue_snoc]
    rcases eq_or_ne ds [] with rfl | hds
    · have hpos : 0 < digitValue c := by
        rw [Nat.pos_iff_ne_zero]
        intro hzero
        rw [hzero] at hbyte
        exact hhead (congrArg some hbyte.symm)
      simp only [decimalValue_nil, zero_mul, zero_add, List.nil_append]
      exact ⟨hpos, by rw [numeral_of_lt hlt, hbyte]⟩
    · rw [List.head?_append_of_ne_nil _ hds] at hhead
      obtain ⟨hpos, heq⟩ := ih hds (fun c hc => hdigits c (List.mem_append_left _ hc)) hhead
      refine ⟨by omega, ?_⟩
      have hdiv : (decimalValue ds * 10 + digitValue c) / 10 = decimalValue ds := by omega
      have hmod : (decimalValue ds * 10 + digitValue c) % 10 = digitValue c := by omega
      rw [numeral_of_le (by omega), hdiv, hmod, hbyte, ← heq]

/-- The numerals of the numbers above 0 are the digits of which the first is not a zero. -/
lemma eq_numeral_iff {ds : List UInt8} {n : ℕ} (hn : 0 < n) : ds = numeral n ↔
    ds ≠ [] ∧ (∀ c ∈ ds, isDecimal c = true) ∧ ds.head? ≠ some '0'.toUInt8 ∧
      decimalValue ds = n := by
  constructor
  · rintro rfl
    obtain ⟨hdigits, hne, hhead, hvalue⟩ := numeral_spec hn
    exact ⟨hne, hdigits, hhead, hvalue⟩
  · rintro ⟨hne, hdigits, hhead, rfl⟩
    exact (eq_numeral hne hdigits hhead).2

/-- The number of digits bounds the number. -/
lemma length_numeral_le {n k : ℕ} (hk : 0 < k) (h : n < 10 ^ k) : (numeral n).length ≤ k := by
  rw [numeral, List.length_map]
  exact (Nat.length_toDigits_le_iff (by decide) hk).2 h

end UrnetworkWindows.Lib
