/-
Arbitration among weighted filters.

A filter engine asks, for each of several sublayers, the filters that match a
connection: the filter of highest weight decides, and a sublayer none of whose
filters matches has no opinion.  Across sublayers a block beats a permit.

The filters are of any type.  A sublayer is *floored* when its blocks are
exactly its filters of weight zero: every permit then outweighs every block, so
the sublayer blocks a connection that matches some filter exactly when no permit
matches it (`opinion_eq_block_iff_of_floored`).

A filter matches by a list of conditions, each on one field: conditions of one
field are alternatives, and every field that is named must hold (`matchesAll`).
-/
import Mathlib.Data.List.MinMax
import Mathlib.Tactic

namespace UrnetworkWindows.Lib.Arbitration

/-- What a filter does with a connection it matches. -/
inductive Action
  | permit
  | block
deriving DecidableEq, Repr

variable {F : Type*} (weight : F → ℕ) (action : F → Action)

/-- The filters of highest weight of a list. -/
def strongest (fs : List F) : List F :=
  fs.filter fun f => fs.all fun g => weight g ≤ weight f

/-- The opinion of a sublayer on a connection that `fs` are its matching
filters for.  Should filters of equal weight disagree, the block is taken. -/
def opinion (fs : List F) : Option Action :=
  if (strongest weight fs).isEmpty then none
  else if (strongest weight fs).any fun f => action f = .block then some .block
  else some .permit

/-- The verdict of all sublayers: a block in any of them beats a permit in
another. -/
def verdict (opinions : List (Option Action)) : Option Action :=
  if opinions.any fun o => o = some .block then some .block
  else if opinions.any fun o => o = some .permit then some .permit
  else none

variable {weight action} {fs : List F}

lemma mem_strongest_iff {f : F} :
    f ∈ strongest weight fs ↔ f ∈ fs ∧ ∀ g ∈ fs, weight g ≤ weight f := by
  simp [strongest]

/-- A list that has a filter has one of highest weight. -/
lemma exists_mem_strongest (h : fs ≠ []) : ∃ f, f ∈ strongest weight fs := by
  have hne : List.argmax weight fs ≠ none := fun hnone => h (List.argmax_eq_none.1 hnone)
  obtain ⟨f, hf⟩ := Option.ne_none_iff_exists'.1 hne
  exact ⟨f, mem_strongest_iff.2
    ⟨List.argmax_mem hf, fun g hg => List.le_of_mem_argmax hg hf⟩⟩

/-- Where filters of equal weight agree, any filter of highest weight decides. -/
lemma opinion_eq_action {f : F} (hf : f ∈ fs) (hmax : ∀ g ∈ fs, weight g ≤ weight f)
    (hties : ∀ g ∈ fs, ∀ g' ∈ fs, weight g = weight g' → action g = action g') :
    opinion weight action fs = some (action f) := by
  have hmem : f ∈ strongest weight fs := mem_strongest_iff.2 ⟨hf, hmax⟩
  have hsame : ∀ g ∈ strongest weight fs, action g = action f := by
    intro g hg
    obtain ⟨hg', hgmax⟩ := mem_strongest_iff.1 hg
    exact hties g hg' f hf (le_antisymm (hmax g hg') (hgmax f hf))
  have hne : (strongest weight fs).isEmpty = false := by
    simpa using List.ne_nil_of_mem hmem
  rw [opinion, hne]
  cases haction : action f with
  | block =>
    have hany : ((strongest weight fs).any fun g => action g = .block) = true := by
      simpa using ⟨f, hmem, haction⟩
    simp [hany]
  | permit =>
    have hany : ((strongest weight fs).any fun g => action g = .block) = false := by
      simp only [List.any_eq_false, decide_eq_true_eq]
      intro g hg
      rw [hsame g hg, haction]
      simp
    simp [hany]

/-- A list of filters is floored when its blocks are its filters of weight
zero. -/
def Floored (weight : F → ℕ) (action : F → Action) (fs : List F) : Prop :=
  ∀ f ∈ fs, action f = .block ↔ weight f = 0

lemma Floored.ties (h : Floored weight action fs) :
    ∀ g ∈ fs, ∀ g' ∈ fs, weight g = weight g' → action g = action g' := by
  intro g hg g' hg' heq
  have hiff : action g = .block ↔ action g' = .block := by
    rw [h g hg, h g' hg', heq]
  cases hg₁ : action g <;> cases hg₂ : action g' <;> simp_all

/-- **A floored sublayer blocks exactly what matches a block and no permit.** -/
theorem opinion_eq_block_iff_of_floored (h : Floored weight action fs) :
    opinion weight action fs = some .block ↔ (∃ f ∈ fs, action f = .block) ∧ ∀ f ∈ fs, action
    f ≠ .permit := by
  constructor
  · intro hop
    have hne : fs ≠ [] := by
      rintro rfl
      simp [opinion, strongest] at hop
    obtain ⟨f, hf⟩ := @exists_mem_strongest F weight fs hne
    obtain ⟨hmem, hmax⟩ := mem_strongest_iff.1 hf
    rw [opinion_eq_action hmem hmax h.ties] at hop
    have hblock : action f = .block := by simpa using hop
    refine ⟨⟨f, hmem, hblock⟩, fun g hg hpermit => ?_⟩
    -- a permit has positive weight, and the strongest filter has none
    have hf0 : weight f = 0 := (h f hmem).1 hblock
    have hg0 : weight g = 0 := by have := hmax g hg; omega
    rw [(h g hg).2 hg0] at hpermit
    exact absurd hpermit (by simp)
  · rintro ⟨⟨f, hmem, hblock⟩, hall⟩
    have hzero : ∀ g ∈ fs, weight g = 0 := by
      intro g hg
      refine (h g hg).1 ?_
      cases hg' : action g with
      | block => rfl
      | permit => exact absurd hg' (hall g hg)
    rw [opinion_eq_action hmem (fun g hg => by rw [hzero g hg]; omega) h.ties, hblock]

lemma Floored.filter (h : Floored weight action fs) (p : F → Bool) :
    Floored weight action (fs.filter p) :=
  fun f hf => h f (List.mem_of_mem_filter hf)

lemma verdict_eq_block_iff {opinions : List (Option Action)} :
    verdict opinions = some .block ↔ some .block ∈ opinions := by
  rw [verdict]
  split_ifs with hblock hpermit
  · simpa using hblock
  · simpa using hblock
  · simpa using hblock

/-! ### The conditions of a filter -/

section Conditions

variable {K I : Type*} [DecidableEq I] (field : K → I) (holds : K → Bool)

/-- Conditions of one field are OR'd, different fields are AND'd. -/
def matchesAll (ks : List K) : Bool :=
  ks.all fun k => ks.any fun k' => field k' = field k && holds k'

variable {field holds}

/-- Lists of conditions that share no field are met separately. -/
lemma matchesAll_append {xs ys : List K}
    (h : ∀ x ∈ xs, ∀ y ∈ ys, field x ≠ field y) :
    matchesAll field holds (xs ++ ys) =
      (matchesAll field holds xs && matchesAll field holds ys) := by
  have hx : ∀ x ∈ xs, ((xs ++ ys).any fun k => field k = field x && holds k) =
      xs.any fun k => field k = field x && holds k := by
    intro x hx
    have hys : (ys.any fun k => field k = field x && holds k) = false := by
      simp only [List.any_eq_false, Bool.and_eq_true, decide_eq_true_eq]
      rintro y hy ⟨heq, -⟩
      exact h x hx y hy heq.symm
    rw [List.any_append, hys, Bool.or_false]
  have hy : ∀ y ∈ ys, ((xs ++ ys).any fun k => field k = field y && holds k) =
      ys.any fun k => field k = field y && holds k := by
    intro y hy
    have hxs : (xs.any fun k => field k = field y && holds k) = false := by
      simp only [List.any_eq_false, Bool.and_eq_true, decide_eq_true_eq]
      rintro x hx ⟨heq, -⟩
      exact h x hx y hy heq
    rw [List.any_append, hxs, Bool.false_or]
  have hall : ∀ {zs : List K}, (∀ z ∈ zs, ((xs ++ ys).any fun k => field k = field z && holds k) =
      zs.any fun k => field k = field z && holds k) →
      (zs.all fun z => (xs ++ ys).any fun k => field k = field z && holds k) =
        matchesAll field holds zs := by
    intro zs hzs
    apply Bool.eq_iff_iff.2
    simp only [matchesAll, List.all_eq_true]
    exact forall₂_congr fun z hz => by rw [hzs z hz]
  rw [← hall hx, ← hall hy, matchesAll, List.all_append]

/-- Conditions on one field are alternatives. -/
lemma matchesAll_of_field_eq {ks : List K} {i : I} (hne : ks ≠ []) (h : ∀ k ∈ ks, field k = i) :
    matchesAll field holds ks = ks.any holds := by
  apply Bool.eq_iff_iff.2
  simp only [matchesAll, List.all_eq_true, List.any_eq_true, Bool.and_eq_true, decide_eq_true_eq]
  constructor
  · intro hall
    obtain ⟨k, hk⟩ := List.exists_mem_of_ne_nil ks hne
    obtain ⟨k', hk', -, hholds⟩ := hall k hk
    exact ⟨k', hk', hholds⟩
  · rintro ⟨k', hk', hholds⟩ k hk
    exact ⟨k', hk', by rw [h k hk, h k' hk'], hholds⟩

@[simp] lemma matchesAll_nil : matchesAll field holds [] = true := rfl

@[simp] lemma matchesAll_singleton (k : K) : matchesAll field holds [k] = holds k := by
  simp [matchesAll]

/-- A condition whose field no other condition names is met on its own. -/
lemma matchesAll_cons {k : K} {ks : List K} (h : ∀ k' ∈ ks, field k ≠ field k') :
    matchesAll field holds (k :: ks) = (holds k && matchesAll field holds ks) := by
  have happ := @matchesAll_append K I _ field holds [k] ks
    (fun x hx y hy => by rw [List.mem_singleton.1 hx]; exact h y hy)
  simpa using happ

end Conditions

end UrnetworkWindows.Lib.Arbitration
