/-
Little-endian numbers in byte strings.

`toBytes w n` is the number `n` in `w` bytes, modulo `256 ^ w`, and `ofBytes` reads a
byte string of any length; `ofWide` and `toWide` are strings of sixteen-bit
characters.
-/
import Mathlib.Data.Nat.Digits.Defs
import Mathlib.Tactic.Ring

namespace UrnetworkWindows.Lib

/-- The number in that many bytes. -/
def toBytes : ℕ → ℕ → List UInt8
  | 0, _ => []
  | w + 1, n => .ofNat n :: toBytes w (n / 256)

/-- The number a byte string stands for. -/
def ofBytes (bs : List UInt8) : ℕ := Nat.ofDigits 256 (bs.map (·.toNat))

/-- The bytes of a string of characters. -/
def ofWide (cs : List UInt16) : List UInt8 := cs.flatMap fun c => toBytes 2 c.toNat

/-- The characters a byte string stands for. -/
def toWide : List UInt8 → List UInt16
  | b₀ :: b₁ :: bs => .ofNat (ofBytes [b₀, b₁]) :: toWide bs
  | _ => []

@[simp] lemma length_toBytes (w n : ℕ) : (toBytes w n).length = w := by
  induction w generalizing n with
  | zero => rfl
  | succ w ih => simp [toBytes, ih]

lemma ofBytes_toBytes (w n : ℕ) : ofBytes (toBytes w n) = n % 256 ^ w := by
  induction w generalizing n with
  | zero => simp [toBytes, ofBytes, Nat.mod_one]
  | succ w ih =>
    have htail : Nat.ofDigits 256 ((toBytes w (n / 256)).map (·.toNat)) = n / 256 % 256 ^ w :=
      ih (n / 256)
    simp only [toBytes, ofBytes, List.map_cons, Nat.ofDigits_cons, htail, UInt8.toNat_ofNat']
    rw [pow_succ' 256 w, Nat.mod_mul]

/-- A number that fits is read back. -/
lemma ofBytes_toBytes_of_lt {w n : ℕ} (h : n < 256 ^ w) : ofBytes (toBytes w n) = n := by
  rw [ofBytes_toBytes, Nat.mod_eq_of_lt h]

lemma ofBytes_cons (b : UInt8) (bs : List UInt8) :
    ofBytes (b :: bs) = b.toNat + 256 * ofBytes bs := by
  simp only [ofBytes, List.map_cons, Nat.ofDigits_cons]

lemma ofBytes_lt (bs : List UInt8) : ofBytes bs < 256 ^ bs.length := by
  induction bs with
  | nil => simp [ofBytes]
  | cons b bs ih =>
    have hb : b.toNat < 256 := b.toNat_lt
    rw [ofBytes_cons, List.length_cons, pow_succ]
    omega

/-- A byte string is written back. -/
lemma toBytes_ofBytes (bs : List UInt8) : toBytes bs.length (ofBytes bs) = bs := by
  induction bs with
  | nil => rfl
  | cons b bs ih =>
    have hb : b.toNat < 256 := b.toNat_lt
    have hdiv : (b.toNat + 256 * ofBytes bs) / 256 = ofBytes bs := by omega
    have hlow : UInt8.ofNat (b.toNat + 256 * ofBytes bs) = b := by
      apply UInt8.toNat_inj.1
      rw [UInt8.toNat_ofNat']
      omega
    rw [ofBytes_cons, List.length_cons, toBytes, hdiv, ih, hlow]

@[simp] lemma length_ofWide (cs : List UInt16) : (ofWide cs).length = 2 * cs.length := by
  induction cs with
  | nil => rfl
  | cons c cs ih =>
    rw [ofWide, List.flatMap_cons, List.length_append, length_toBytes, ← ofWide, ih,
      List.length_cons]
    ring

/-- A string is read back. -/
lemma toWide_ofWide (cs : List UInt16) : toWide (ofWide cs) = cs := by
  induction cs with
  | nil => rfl
  | cons c cs ih =>
    have hc : ofBytes (toBytes 2 c.toNat) = c.toNat := ofBytes_toBytes_of_lt c.toNat_lt
    show UInt16.ofNat (ofBytes (toBytes 2 c.toNat)) :: toWide (ofWide cs) = c :: cs
    rw [hc, ih, UInt16.ofNat_toNat]

lemma length_toWide_le (bs : List UInt8) : 2 * (toWide bs).length ≤ bs.length := by
  induction bs using toWide.induct with
  | case1 b₀ b₁ bs ih =>
    simp only [toWide, List.length_cons]
    omega
  | case2 bs h =>
    rw [toWide]
    · simp
    · exact h

end UrnetworkWindows.Lib
