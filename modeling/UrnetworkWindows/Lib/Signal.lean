/-
Calls on a clock, quantities that are set at times, and for how long a condition on them held.

The times are whole numbers of a clock's ticks.  A quantity keeps a value from the time it is
set until it is set again, the later of two settings at one time counting, so that a condition
holds for whole ticks and the time it held is a number of them.
-/
import Mathlib.Tactic
import Mathlib.Data.Int.Interval

namespace UrnetworkWindows.Lib

variable {α β : Type*}

/-! ### Calls on a clock

A call may be given the time, which does not go back. -/

/-- The times of the calls. -/
def times (time : β → Option ℤ) (ops : List β) : List ℤ := ops.filterMap time

/-- The clock does not go back. -/
def Ordered (time : β → Option ℤ) (ops : List β) : Prop := (times time ops).Pairwise (· ≤ ·)

/-- No call is later than this. -/
def Past (time : β → Option ℤ) (ops : List β) (t : ℤ) : Prop := ∀ now ∈ times time ops, now ≤ t

section Calls

variable {time : β → Option ℤ} {ops : List β} {op : β} {t t' : ℤ}

instance : Decidable (Ordered time ops) := inferInstanceAs (Decidable (List.Pairwise _ _))

instance : Decidable (Past time ops t) :=
  inferInstanceAs (Decidable (∀ now ∈ times time ops, now ≤ t))

lemma Past.mono (h : Past time ops t) (ht : t ≤ t') : Past time ops t' := fun now hnow =>
  (h now hnow).trans ht

lemma past_snoc : Past time (ops ++ [op]) t ↔ Past time ops t ∧ ∀ now ∈ time op, now ≤ t := by
  cases hop : time op <;> simp [Past, times, hop, or_imp, forall_and]

/-- A call comes after those before it. -/
lemma ordered_snoc : Ordered time (ops ++ [op]) ↔
    Ordered time ops ∧ ∀ now ∈ time op, Past time ops now := by
  rw [Ordered, times, List.filterMap_append, List.pairwise_append]
  constructor
  · rintro ⟨hops, -, hlast⟩
    exact ⟨hops, fun now hnow τ hτ =>
      hlast τ hτ now (List.mem_filterMap.2 ⟨op, List.mem_singleton_self _, hnow⟩)⟩
  · rintro ⟨hops, hlast⟩
    refine ⟨hops, ?_, fun τ hτ now hnow => ?_⟩
    · cases hop : time op <;> simp [hop]
    · obtain ⟨op', hop', heq⟩ := List.mem_filterMap.1 hnow
      rw [List.mem_singleton.1 hop'] at heq
      exact hlast now heq τ hτ

/-- What the calls set is set at their times. -/
lemma Past.settings {set : β → Option (ℤ × α)} (h : Past time ops t)
    (hset : ∀ op now a, set op = some (now, a) → time op = some now) :
    ∀ setting ∈ ops.filterMap set, setting.1 ≤ t := by
  rintro ⟨now, a⟩ hmem
  obtain ⟨op, hop, heq⟩ := List.mem_filterMap.1 hmem
  exact h now (List.mem_filterMap.2 ⟨op, hop, hset op now a heq⟩)

end Calls

/-! ### The value at a time -/

/-- The value at `τ` of a quantity that was `x` before it was first set. -/
def valueAt (x : α) (sets : List (ℤ × α)) (τ : ℤ) : α :=
  sets.foldl (fun value set => if set.1 ≤ τ then set.2 else value) x

/-- The value after all the settings. -/
def lastValue (x : α) (sets : List (ℤ × α)) : α := (sets.getLast?.map Prod.snd).getD x

@[simp] lemma valueAt_nil (x : α) (τ : ℤ) : valueAt x [] τ = x := rfl

@[simp] lemma valueAt_snoc (x : α) (sets : List (ℤ × α)) (now : ℤ) (a : α) (τ : ℤ) :
    valueAt x (sets ++ [(now, a)]) τ = if now ≤ τ then a else valueAt x sets τ := by
  rw [valueAt, List.foldl_append]
  rfl

@[simp] lemma lastValue_nil (x : α) : lastValue x [] = x := rfl

@[simp] lemma lastValue_snoc (x : α) (sets : List (ℤ × α)) (now : ℤ) (a : α) :
    lastValue x (sets ++ [(now, a)]) = a := by
  simp [lastValue]

/-- From the last setting on the value is the one it set. -/
lemma valueAt_eq_lastValue (x : α) {sets : List (ℤ × α)} {τ : ℤ} (h : ∀ set ∈ sets, set.1 ≤ τ) :
    valueAt x sets τ = lastValue x sets := by
  rcases List.eq_nil_or_concat sets with rfl | ⟨sets, ⟨now, a⟩, rfl⟩
  · rfl
  · have hnow : now ≤ τ := h (now, a) (by simp)
    rw [List.concat_eq_append, valueAt_snoc, lastValue_snoc, if_pos hnow]

/-! ### The time a condition held -/

section Spent

variable (p q : ℤ → Prop) [DecidablePred p] [DecidablePred q]

/-- How much of the time from `a` to `b` the condition holds. -/
noncomputable def spent (a b : ℤ) : ℤ := ((Finset.Ico a b).filter p).card

variable {p q} {a b c : ℤ}

lemma spent_nonneg : 0 ≤ spent p a b := Int.natCast_nonneg _

@[simp] lemma spent_of_le (h : b ≤ a) : spent p a b = 0 := by
  rw [spent, Finset.Ico_eq_empty_of_le h, Finset.filter_empty, Finset.card_empty]
  rfl

/-- The time adds up over an interval cut in two. -/
lemma spent_add (hab : a ≤ b) (hbc : b ≤ c) : spent p a c = spent p a b + spent p b c := by
  have hdisjoint : Disjoint ((Finset.Ico a b).filter p) ((Finset.Ico b c).filter p) :=
    Finset.disjoint_filter_filter (Finset.Ico_disjoint_Ico_consecutive a b c)
  rw [spent, ← Finset.Ico_union_Ico_eq_Ico hab hbc, Finset.filter_union,
    Finset.card_union_of_disjoint hdisjoint]
  push_cast
  rfl

lemma spent_congr (h : ∀ τ, a ≤ τ → τ < b → (p τ ↔ q τ)) : spent p a b = spent q a b := by
  rw [spent, spent]
  congr 2
  refine Finset.filter_congr fun τ hτ => ?_
  rw [Finset.mem_Ico] at hτ
  exact h τ hτ.1 hτ.2

lemma spent_of_forall (hab : a ≤ b) (h : ∀ τ, a ≤ τ → τ < b → p τ) : spent p a b = b - a := by
  have hall : (Finset.Ico a b).filter p = Finset.Ico a b := by
    refine Finset.filter_true_of_mem fun τ hτ => ?_
    rw [Finset.mem_Ico] at hτ
    exact h τ hτ.1 hτ.2
  rw [spent, hall, Int.card_Ico, Int.toNat_of_nonneg (by omega)]

lemma spent_of_forall_not (h : ∀ τ, a ≤ τ → τ < b → ¬ p τ) : spent p a b = 0 := by
  have hnone : (Finset.Ico a b).filter p = ∅ := by
    refine Finset.filter_false_of_mem fun τ hτ => ?_
    rw [Finset.mem_Ico] at hτ
    exact h τ hτ.1 hτ.2
  rw [spent, hnone, Finset.card_empty]
  rfl

/-- A condition holds for no longer than the interval. -/
lemma spent_le (hab : a ≤ b) : spent p a b ≤ b - a := by
  have hcard := Finset.card_filter_le (Finset.Ico a b) p
  rw [Int.card_Ico] at hcard
  rw [spent]
  omega

/-- A later start leaves out no more than it holds. -/
lemma spent_le_spent (hab : a ≤ b) : spent p b c ≤ spent p a c := by
  rcases le_total b c with hbc | hcb
  · have hadd := spent_add (p := p) hab hbc
    have hnonneg := spent_nonneg (p := p) (a := a) (b := b)
    omega
  · rw [spent_of_le hcb]
    exact spent_nonneg

end Spent

end UrnetworkWindows.Lib
