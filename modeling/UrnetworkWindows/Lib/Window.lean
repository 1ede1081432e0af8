/-
The last of a log, and the first of a list.

A log takes a key only while the key is not among its last ones, so the window over its end
never repeats a key.  A list without its repeats grows at the end by the keys it does not have,
and so does its beginning, until it is long enough.
-/
import Mathlib.Data.List.DropRight
import Mathlib.Data.List.Nodup
import Mathlib.Tactic

namespace UrnetworkWindows.Lib

variable {κ : Type*}

/-! ### Windows -/

lemma length_rtake (l : List κ) (n : ℕ) : (l.rtake n).length = min l.length n := by
  rw [List.rtake, List.length_drop]
  omega

/-- A window one shorter leaves out the oldest, if the window was full. -/
lemma rtake_eq_ite (l : List κ) (n : ℕ) :
    l.rtake n = if n + 1 ≤ (l.rtake (n + 1)).length then (l.rtake (n + 1)).tail
      else l.rtake (n + 1) := by
  rw [length_rtake, List.rtake, List.rtake, List.tail_drop]
  split_ifs with h
  · congr 1
    omega
  · rw [show l.length - n = 0 by omega, show l.length - (n + 1) = 0 by omega]

variable [DecidableEq κ]

/-- The log after a key is asked in: it takes one that is not among its last `n`. -/
def enter (n : ℕ) (log : List κ) (k : κ) : List κ :=
  if k ∈ log.rtake n then log else log ++ [k]

/-- The log after some keys. -/
def enterAll (n : ℕ) (log : List κ) (ks : List κ) : List κ :=
  ks.foldl (enter n) log

@[simp] lemma enterAll_snoc (n : ℕ) (log ks : List κ) (k : κ) :
    enterAll n log (ks ++ [k]) = enter n (enterAll n log ks) k := by
  simp [enterAll]

/-- A new key comes to the end of the window, and the oldest leaves a full one. -/
lemma rtake_enter {n : ℕ} {log : List κ} {k : κ} (h : k ∉ log.rtake (n + 1)) :
    (enter (n + 1) log k).rtake (n + 1) =
      (if n + 1 ≤ (log.rtake (n + 1)).length then (log.rtake (n + 1)).tail
        else log.rtake (n + 1)) ++ [k] := by
  rw [enter, if_neg h, List.rtake_concat_succ, rtake_eq_ite log n]

/-! ### Lists without their repeats -/

/-- The first occurrences grow at the end by what they do not have. -/
lemma eraseDups_snoc (l : List κ) (k : κ) :
    (l ++ [k]).eraseDups = if k ∈ l then l.eraseDups else l.eraseDups ++ [k] := by
  rw [List.eraseDups_append, List.removeAll]
  split_ifs with h <;> simp [h, List.eraseDups_cons]

lemma mem_eraseDups {l : List κ} {k : κ} : k ∈ l.eraseDups ↔ k ∈ l := by
  induction l using List.reverseRecOn with
  | nil => rfl
  | append_singleton l a ih =>
    rw [eraseDups_snoc]
    split_ifs with h
    · rw [ih, List.mem_append, List.mem_singleton, or_iff_left_of_imp]
      rintro rfl
      exact h
    · rw [List.mem_append, List.mem_append, ih]

/-- The first `n` of them are complete, or as many as can be. -/
lemma take_eraseDups_snoc (n : ℕ) (l : List κ) (k : κ) :
    (l ++ [k]).eraseDups.take n =
      if n ≤ (l.eraseDups.take n).length ∨ k ∈ l.eraseDups.take n then l.eraseDups.take n
      else l.eraseDups.take n ++ [k] := by
  by_cases hfull : n ≤ l.eraseDups.length
  · rw [if_pos (.inl (by rw [List.length_take]; omega)), eraseDups_snoc]
    split_ifs with h
    · rfl
    · exact List.take_append_of_le_length hfull
  · have htake : l.eraseDups.take n = l.eraseDups := List.take_of_length_le (by omega)
    rw [htake, eraseDups_snoc]
    by_cases h : k ∈ l
    · rw [if_pos h, if_pos (.inr (mem_eraseDups.2 h)), htake]
    · rw [if_neg h, if_neg (not_or.2 ⟨hfull, mt mem_eraseDups.1 h⟩), List.take_of_length_le]
      rw [List.length_append, List.length_singleton]
      omega

end UrnetworkWindows.Lib
