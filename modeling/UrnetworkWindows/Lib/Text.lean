/-
Text as lists of code units.

The sources keep wide text in 16-bit units and narrow text in bytes, and compare it unit
by unit, ignoring the case of ASCII letters only.
-/
import Mathlib.Tactic

namespace UrnetworkWindows.Lib

/-- Wide text, of a literal in the basic plane. -/
def wide (s : String) : List UInt16 := s.toList.map fun c => c.toNat.toUInt16

/-- Narrow text, of a literal in ASCII. -/
def narrow (s : String) : List UInt8 := s.toList.map Char.toUInt8

/-- Text in code units of either width, of a literal. -/
def units (s : String) : List ℕ := s.toList.map Char.toNat

/-- The lower case of an ASCII letter. -/
def lowerWide (c : UInt16) : UInt16 := if 65 ≤ c ∧ c ≤ 90 then c - 65 + 97 else c

/-- The lower case of an ASCII letter, in a byte. -/
def lowerNarrow (c : UInt8) : UInt8 := if 65 ≤ c ∧ c ≤ 90 then c - 65 + 97 else c

lemma toNat_lowerNarrow (c : UInt8) :
    (lowerNarrow c).toNat = if 65 ≤ c.toNat ∧ c.toNat ≤ 90 then c.toNat + 32 else c.toNat := by
  simp only [lowerNarrow, UInt8.le_iff_toNat_le, UInt8.reduceToNat]
  split_ifs with hupper
  · simp only [UInt8.toNat_add, UInt8.toNat_sub, UInt8.reduceToNat]
    omega
  · rfl

/-- What holds of each of the 256 bytes. -/
lemma forall_byte {p : UInt8 → Prop} (h : ∀ n : Fin 256, p (UInt8.ofNat n)) (c : UInt8) : p c := by
  have hc : UInt8.ofNat (⟨c.toNat, c.toNat_lt⟩ : Fin 256) = c := UInt8.ofNat_toNat
  exact hc ▸ h ⟨c.toNat, c.toNat_lt⟩

/-- The texts are equal but for the case of ASCII letters. -/
def equalsIgnoreCase (a b : List UInt16) : Bool := decide (a.map lowerWide = b.map lowerWide)

lemma equalsIgnoreCase_refl (a : List UInt16) : equalsIgnoreCase a a = true :=
  decide_eq_true rfl

end UrnetworkWindows.Lib
