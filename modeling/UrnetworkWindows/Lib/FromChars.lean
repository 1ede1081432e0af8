/-
`std::from_chars` of an integer, in base ten.

The longest run of digits is read; a minus is read in front of it where the type has a sign.
What is out of the type's range is an error, like text without a digit.  `fromChars_eq_some` and
`fromSignedChars_eq_some` say what is read as what, with what is left.
-/
import UrnetworkWindows.Lib.Decimal

namespace UrnetworkWindows.Lib

/-- Digits that stand for a number. -/
structure IsNatural (ds : List UInt8) (n : ℕ) : Prop where
  ne_nil : ds ≠ []
  digits : ∀ c ∈ ds, isDecimal c = true
  value : decimalValue ds = n

/-- The same with a minus or without. -/
def IsInteger (text : List UInt8) (z : ℤ) : Prop :=
  (∃ n, IsNatural text n ∧ z = n) ∨ ∃ ds n, text = '-'.toUInt8 :: ds ∧ IsNatural ds n ∧ z = -n

/-- An unsigned number below the bound, and what follows it. -/
def fromChars (bound : ℕ) (text : List UInt8) : Option (ℕ × List UInt8) :=
  let digits := text.takeWhile isDecimal
  if digits = [] ∨ bound ≤ decimalValue digits then none
  else some (decimalValue digits, text.dropWhile isDecimal)

/-- A signed number from `-half` to below `half`, and what follows it. -/
def fromSignedChars (half : ℕ) (text : List UInt8) : Option (ℤ × List UInt8) :=
  match text with
  | [] => none
  | c :: rest =>
    if c = '-'.toUInt8 then (fromChars (half + 1) rest).map fun r => (-(r.1 : ℤ), r.2)
    else (fromChars half text).map fun r => ((r.1 : ℤ), r.2)

/-- No digit follows. -/
def NoDigit (rest : List UInt8) : Prop := ∀ c ∈ rest.head?, isDecimal c = false

lemma isNatural_numeral (n : ℕ) : IsNatural (numeral n) n := by
  rcases Nat.eq_zero_or_pos n with rfl | hn
  · refine ⟨by decide, fun c hc => ?_, by decide⟩
    obtain rfl := List.mem_singleton.1 hc
    rfl
  · obtain ⟨hdigits, hne, -, hvalue⟩ := numeral_spec hn
    exact ⟨hne, hdigits, hvalue⟩

/-- Digits are followed by what is no digit in one place. -/
lemma takeWhile_append_noDigit {ds rest : List UInt8} (hds : ∀ c ∈ ds, isDecimal c = true)
    (hrest : NoDigit rest) :
    (ds ++ rest).takeWhile isDecimal = ds ∧ (ds ++ rest).dropWhile isDecimal = rest := by
  rw [List.takeWhile_append_of_pos hds, List.dropWhile_append_of_pos hds]
  cases rest with
  | nil => simp
  | cons c rest => simp [hrest c rfl]

/-- What is read as a number. -/
theorem fromChars_eq_some {bound n : ℕ} {text rest : List UInt8} :
    fromChars bound text = some (n, rest) ↔
      ∃ ds, text = ds ++ rest ∧ IsNatural ds n ∧ n < bound ∧ NoDigit rest := by
  constructor
  · intro h
    obtain ⟨hread, h⟩ := Option.ite_none_left_eq_some.1 h
    cases h
    rw [not_or, not_le] at hread
    refine ⟨text.takeWhile isDecimal, List.takeWhile_append_dropWhile.symm,
      ⟨hread.1, List.all_eq_true.1 List.all_takeWhile, rfl⟩, hread.2, fun c hc => ?_⟩
    have hdrop := List.head?_dropWhile_not isDecimal text
    rw [Option.mem_def.1 hc] at hdrop
    simpa using hdrop
  · rintro ⟨ds, rfl, ⟨hne, hdigits, rfl⟩, hlt, hrest⟩
    obtain ⟨htake, hdrop⟩ := takeWhile_append_noDigit hdigits hrest
    rw [fromChars, htake, hdrop]
    exact if_neg (not_or.2 ⟨hne, not_le.2 hlt⟩)

/-- What is read as a signed number. -/
theorem fromSignedChars_eq_some {half : ℕ} (hhalf : 0 < half) {z : ℤ} {text rest : List UInt8} :
    fromSignedChars half text = some (z, rest) ↔
      ∃ ds, text = ds ++ rest ∧ IsInteger ds z ∧ -half ≤ z ∧ z < half ∧ NoDigit rest := by
  constructor
  · intro h
    cases text with
    | nil => exact absurd h (Option.some_ne_none _).symm
    | cons c text =>
      rw [fromSignedChars] at h
      split_ifs at h with hminus
      · obtain ⟨⟨n, rest'⟩, hread, heq⟩ := Option.map_eq_some_iff.1 h
        obtain ⟨rfl, rfl⟩ := Prod.mk.inj heq
        obtain ⟨ds, rfl, hds, hlt, hrest⟩ := fromChars_eq_some.1 hread
        refine ⟨c :: ds, rfl, .inr ⟨ds, n, by rw [hminus], hds, rfl⟩, ?_, ?_, hrest⟩
        all_goals dsimp only; omega
      · obtain ⟨⟨n, rest'⟩, hread, heq⟩ := Option.map_eq_some_iff.1 h
        obtain ⟨rfl, rfl⟩ := Prod.mk.inj heq
        obtain ⟨ds, htext, hds, hlt, hrest⟩ := fromChars_eq_some.1 hread
        refine ⟨ds, htext, .inl ⟨n, hds, rfl⟩, ?_, ?_, hrest⟩
        all_goals dsimp only; omega
  · rintro ⟨ds, rfl, ⟨n, hds, rfl⟩ | ⟨ds, n, rfl, hds, rfl⟩, hlow, hhigh, hrest⟩
    · obtain ⟨c, ds, rfl⟩ := List.exists_cons_of_ne_nil hds.ne_nil
      have hminus : c ≠ '-'.toUInt8 := by
        rintro rfl
        exact absurd (hds.digits _ List.mem_cons_self) (by decide)
      have hread := fromChars_eq_some.2 ⟨c :: ds, rfl, hds, Int.ofNat_lt.1 hhigh, hrest⟩
      rw [List.cons_append, fromSignedChars, if_neg hminus, ← List.cons_append, hread]
      rfl
    · have hread := fromChars_eq_some.2
        ⟨ds, rfl, hds, (by omega : n < half + 1), hrest⟩
      rw [List.cons_append, fromSignedChars, if_pos rfl, hread]
      rfl

end UrnetworkWindows.Lib
