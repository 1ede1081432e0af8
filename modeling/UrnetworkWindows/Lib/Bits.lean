/-
The low bits of a number, the highest of them first.

An encoding that cuts a string of bits at other places than the bytes it came from keeps
the bits, so both sides are compared as lists of bits and not as numbers.
-/
import Mathlib.Data.Nat.Bitwise
import Mathlib.Tactic

namespace UrnetworkWindows.Lib

/-- The low `n` bits of `x`. -/
def lowBits : ℕ → ℕ → List Bool
  | 0, _ => []
  | n + 1, x => x.testBit n :: lowBits n x

@[simp] lemma lowBits_zero (x : ℕ) : lowBits 0 x = [] := rfl

lemma lowBits_succ (n x : ℕ) : lowBits (n + 1) x = x.testBit n :: lowBits n x := rfl

@[simp] lemma length_lowBits (n x : ℕ) : (lowBits n x).length = n := by
  induction n with
  | zero => rfl
  | succ n ih => rw [lowBits_succ, List.length_cons, ih]

lemma lowBits_congr {n x y : ℕ} (h : ∀ i < n, x.testBit i = y.testBit i) :
    lowBits n x = lowBits n y := by
  induction n with
  | zero => rfl
  | succ n ih =>
    rw [lowBits_succ, lowBits_succ, h n n.lt_succ_self,
      ih fun i hi => h i (hi.trans n.lt_succ_self)]

/-- The high part of the bits, and the low part. -/
lemma lowBits_add (m n x : ℕ) : lowBits (m + n) x = lowBits m (x >>> n) ++ lowBits n x := by
  induction m with
  | zero => rw [Nat.zero_add, lowBits_zero, List.nil_append]
  | succ m ih =>
    rw [Nat.succ_add_eq_add_succ, Nat.add_succ, lowBits_succ, lowBits_succ, ih,
      Nat.testBit_shiftRight, Nat.add_comm n m, List.cons_append]

/-- Only the bits that are asked for count. -/
lemma lowBits_mod {n k : ℕ} (h : n ≤ k) (x : ℕ) : lowBits n (x % 2 ^ k) = lowBits n x := by
  refine lowBits_congr fun i hi => ?_
  rw [Nat.testBit_mod_two_pow, decide_eq_true (hi.trans_le h), Bool.true_and]

/-- So many bits of `v` put in behind those of `x`. -/
lemma lowBits_shiftLeft_or {m v : ℕ} (h : v < 2 ^ m) (n x : ℕ) :
    lowBits (n + m) (x <<< m ||| v) = lowBits n x ++ lowBits m v := by
  have hhigh : (x <<< m ||| v) >>> m = x := by
    rw [Nat.shiftRight_or_distrib, Nat.shiftLeft_shiftRight, Nat.shiftRight_eq_div_pow,
      Nat.div_eq_of_lt h, Nat.or_zero]
  rw [lowBits_add, hhigh]
  refine congrArg (lowBits n x ++ ·) (lowBits_congr fun i hi => ?_)
  rw [Nat.testBit_or, Nat.testBit_shiftLeft, decide_eq_false (by omega), Bool.false_and,
    Bool.false_or]

lemma lowBits_inj {n x y : ℕ} (hx : x < 2 ^ n) (hy : y < 2 ^ n)
    (h : lowBits n x = lowBits n y) : x = y := by
  have hbits : ∀ {k}, lowBits k x = lowBits k y → ∀ i < k, x.testBit i = y.testBit i := by
    intro k hk
    induction k with
    | zero => exact fun i hi => absurd hi i.not_lt_zero
    | succ k ih =>
      rw [lowBits_succ, lowBits_succ, List.cons.injEq] at hk
      intro i hi
      rcases Nat.lt_succ_iff_lt_or_eq.1 hi with hlt | rfl
      · exact ih hk.2 i hlt
      · exact hk.1
  refine Nat.eq_of_testBit_eq fun i => ?_
  rcases lt_or_ge i n with hi | hi
  · exact hbits h i hi
  · have hpow : 2 ^ n ≤ 2 ^ i := Nat.pow_le_pow_right (by omega) hi
    rw [Nat.testBit_lt_two_pow (hx.trans_le hpow), Nat.testBit_lt_two_pow (hy.trans_le hpow)]

/-! ### Bytes -/

/-- The bits of the bytes. -/
def octetBits (s : List UInt8) : List Bool := s.flatMap fun c => lowBits 8 c.toNat

@[simp] lemma octetBits_nil : octetBits [] = [] := rfl

@[simp] lemma octetBits_cons (c : UInt8) (s : List UInt8) :
    octetBits (c :: s) = lowBits 8 c.toNat ++ octetBits s := rfl

@[simp] lemma octetBits_append (s t : List UInt8) :
    octetBits (s ++ t) = octetBits s ++ octetBits t := List.flatMap_append ..

@[simp] lemma length_octetBits (s : List UInt8) : (octetBits s).length = 8 * s.length := by
  induction s with
  | nil => rfl
  | cons c s ih =>
    rw [octetBits_cons, List.length_append, length_lowBits, ih, List.length_cons]
    ring

lemma octetBits_inj {s t : List UInt8} (h : octetBits s = octetBits t) : s = t := by
  induction s generalizing t with
  | nil =>
    have hlen := congrArg List.length h
    rw [length_octetBits, length_octetBits, List.length_nil] at hlen
    exact (List.eq_nil_of_length_eq_zero (by omega)).symm
  | cons c s ih =>
    cases t with
    | nil =>
      have hlen := congrArg List.length h
      rw [length_octetBits, length_octetBits, List.length_cons, List.length_nil] at hlen
      omega
    | cons d t =>
      rw [octetBits_cons, octetBits_cons] at h
      obtain ⟨hbyte, hrest⟩ := List.append_inj h (by rw [length_lowBits, length_lowBits])
      rw [UInt8.toNat_inj.1 (lowBits_inj c.toNat_lt d.toNat_lt hbyte), ih hrest]

end UrnetworkWindows.Lib
