/-
The running maximum of a loop.

A loop keeps an item under a key, and takes another one for it only where that one's key is
strictly greater.  It ends with the first item of the greatest key, the `List.argmax` of
what it has read: `argmax_concat_of_lt` and `argmax_concat_of_le` are its two steps, for
keys above the zero the loop begins with.  The key it ends with does not depend on the
order of the list.
-/
import Mathlib.Data.List.MinMax

namespace UrnetworkWindows.Lib

variable {α : Type*} {key : α → ℕ} {l l' : List α} {a : α}

/-- The greatest key of a list, zero for the empty one. -/
def greatest (key : α → ℕ) (l : List α) : ℕ := (l.argmax key).elim 0 key

lemma greatest_of_argmax (h : l.argmax key = some a) : greatest key l = key a := by
  rw [greatest, h]
  rfl

lemma le_greatest (h : a ∈ l) : key a ≤ greatest key l := by
  cases hm : l.argmax key with
  | none =>
    rw [List.argmax_eq_none.1 hm] at h
    exact absurd h (List.not_mem_nil)
  | some m =>
    rw [greatest_of_argmax hm]
    exact List.le_of_mem_argmax h hm

lemma greatest_mono (h : l ⊆ l') : greatest key l ≤ greatest key l' := by
  cases hm : l.argmax key with
  | none =>
    rw [greatest, hm]
    exact Nat.zero_le _
  | some m =>
    rw [greatest_of_argmax hm]
    exact le_greatest (h (List.argmax_mem hm))

lemma greatest_perm (h : l.Perm l') : greatest key l = greatest key l' :=
  le_antisymm (greatest_mono h.subset) (greatest_mono h.symm.subset)

lemma argmax_concat_of_lt (h : greatest key l < key a) : (l ++ [a]).argmax key = some a := by
  rw [List.argmax_concat]
  cases hm : l.argmax key with
  | none => rfl
  | some m =>
    rw [greatest_of_argmax hm] at h
    exact if_pos h

lemma argmax_concat_of_le (hpos : 0 < key a) (h : key a ≤ greatest key l) :
    (l ++ [a]).argmax key = l.argmax key := by
  rw [List.argmax_concat]
  cases hm : l.argmax key with
  | none =>
    rw [greatest, hm] at h
    exact absurd hpos (not_lt.2 h)
  | some m =>
    rw [greatest_of_argmax hm] at h
    exact if_neg (not_lt.2 h)

end UrnetworkWindows.Lib
