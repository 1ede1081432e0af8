/-
The out-of-balance latch (`BalanceGate.h`, `OutOfBalanceLatch`).

The contract status forgets that the account ran out whenever the destination changes, so the
latch keeps it until there is evidence that it is over.  `stretch` says of a history which
observations the latch has been latched over; the latch itself keeps the least of their known
balances and nothing else (`Tracks`).
-/
import UrnetworkWindows.Lib.Trace

namespace UrnetworkWindows.Balance.Latch

open Lib

/-! ### The latch -/

/-- `OutOfBalanceLatch::Observation`. -/
structure Observation where
  insufficientBalance : Bool := false
  providersConnected : Bool := false
  balanceKnown : Bool := false
  availableBytes : ℤ := 0
deriving DecidableEq, Repr

/-- `OutOfBalanceLatch`. -/
structure OutOfBalanceLatch where
  latched : Bool := false
  lowKnown : Bool := false
  lowBytes : ℤ := 0
deriving DecidableEq, Repr

namespace OutOfBalanceLatch

/-- `Reset`. -/
def reset (_ : OutOfBalanceLatch) : OutOfBalanceLatch where
  latched := false
  lowKnown := false
  lowBytes := 0

variable (l : OutOfBalanceLatch) (o : Observation)

/-- `InsufficientBalance`. -/
def insufficientBalance : Bool := l.latched

/-- `NoteBalance`. -/
def noteBalance : OutOfBalanceLatch :=
  if !o.balanceKnown then l
  else if !l.lowKnown || o.availableBytes < l.lowBytes then
    { l with
      lowKnown := true
      lowBytes := o.availableBytes }
  else l

/-- `Observe`. -/
def observe : OutOfBalanceLatch :=
  if o.insufficientBalance then { l with latched := true }.noteBalance o
  else if !l.latched then l
  else if o.providersConnected then l.reset
  else if o.balanceKnown && l.lowKnown && l.lowBytes < o.availableBytes then l.reset
  else l.noteBalance o

/-- The balance the latch keeps, if it keeps one. -/
def low : Option ℤ := if l.lowKnown then some l.lowBytes else none

end OutOfBalanceLatch

/-- A call. -/
inductive Op
  | observe (o : Observation)
  | reset
deriving DecidableEq, Repr

def OutOfBalanceLatch.call (l : OutOfBalanceLatch) : Op → OutOfBalanceLatch
  | .observe o => l.observe o
  | .reset => l.reset

/-- The latch after the calls. -/
def after (ops : List Op) : OutOfBalanceLatch := ops.foldl OutOfBalanceLatch.call {}

/-! ### What it is for -/

/-- The known balances among observations. -/
def known (os : List Observation) : List ℤ :=
  os.filterMap fun o => if o.balanceKnown then some o.availableBytes else none

/-- Evidence, after these observations, that the account is out of balance no more. -/
def Releases (os : List Observation) (o : Observation) : Prop :=
  o.providersConnected = true ∨
    o.balanceKnown = true ∧ ∃ low ∈ (known os).min?, low < o.availableBytes

instance (os : List Observation) (o : Observation) : Decidable (Releases os o) :=
  inferInstanceAs (Decidable (_ ∨ _ ∧ _))

/-- A stretch goes on with an observation, begins with it, or ends. -/
def next (os : List Observation) : Op → List Observation
  | .observe o =>
    if o.insufficientBalance then os ++ [o]
    else if os = [] ∨ Releases os o then []
    else os ++ [o]
  | .reset => []

/-- The observations of the stretch that the calls have come to, none where it is over. -/
def stretch (ops : List Op) : List Observation := ops.foldl next []

/-- Since the last reset the account was reported out of balance, and no observation after that
was evidence against it. -/
def OutOfBalance (ops : List Op) : Prop :=
  ∃ before o later, ops = before ++ .observe o :: later ∧ o.insufficientBalance = true ∧
    .reset ∉ later ∧ ∀ first x last, later = first ++ .observe x :: last →
      x.insufficientBalance = false → ¬ Releases (stretch (before ++ .observe o :: first)) x

@[simp] lemma after_concat (ops : List Op) (op : Op) :
    after (ops ++ [op]) = (after ops).call op := by
  simp [after]

@[simp] lemma stretch_concat (ops : List Op) (op : Op) :
    stretch (ops ++ [op]) = next (stretch ops) op := by
  simp [stretch]

/-! ### The latch keeps the least balance of its stretch -/

/-- What the latch keeps of a stretch. -/
structure Tracks (l : OutOfBalanceLatch) (os : List Observation) : Prop where
  latched : l.latched = true ↔ os ≠ []
  low : l.low = (known os).min?

lemma min?_concat (bytes : List ℤ) (b : ℤ) :
    (bytes ++ [b]).min? = some (bytes.min?.elim b (min · b)) := by
  cases bytes with
  | nil => rfl
  | cons a bytes =>
    rw [List.cons_append, List.min?_cons', List.min?_cons', List.foldl_append]
    rfl

lemma known_concat (os : List Observation) (o : Observation) :
    known (os ++ [o]) = known os ++ if o.balanceKnown then [o.availableBytes] else [] := by
  rw [known, List.filterMap_append]
  congr 1
  simp only [List.filterMap_cons, List.filterMap_nil]
  split_ifs <;> rfl

namespace OutOfBalanceLatch

variable {l : OutOfBalanceLatch} {o : Observation}

@[simp] lemma latched_noteBalance : (l.noteBalance o).latched = l.latched := by
  rw [noteBalance]
  split_ifs <;> rfl

lemma low_noteBalance {os : List Observation} (h : l.low = (known os).min?) :
    (l.noteBalance o).low = (known (os ++ [o])).min? := by
  rw [known_concat, noteBalance]
  cases o.balanceKnown with
  | false =>
    rw [if_neg Bool.false_ne_true, List.append_nil]
    exact h
  | true =>
    rw [if_pos rfl, min?_concat, ← h]
    obtain ⟨latched, lowKnown, lowBytes⟩ := l
    cases lowKnown with
    | false => rfl
    | true =>
      simp only [Bool.not_true, Bool.false_or, Bool.false_eq_true, if_false, decide_eq_true_eq]
      split_ifs with hlt
      · exact congrArg some (min_eq_right hlt.le).symm
      · exact congrArg some (min_eq_left (not_lt.1 hlt)).symm

lemma low_lt_iff (x : ℤ) :
    (l.lowKnown && decide (l.lowBytes < x)) = true ↔ ∃ low ∈ l.low, low < x := by
  rw [low]
  cases l.lowKnown <;> simp

end OutOfBalanceLatch

namespace Tracks

variable {l : OutOfBalanceLatch} {os : List Observation}

lemma init : Tracks {} [] := ⟨by simp, rfl⟩

lemma reset (_ : Tracks l os) : Tracks l.reset [] := ⟨by simp [OutOfBalanceLatch.reset], rfl⟩

lemma note (h : Tracks l os) {o : Observation} {l' : OutOfBalanceLatch}
    (hlatched : l'.latched = true) (hlow : l'.low = l.low) :
    Tracks (l'.noteBalance o) (os ++ [o]) := by
  refine ⟨?_, OutOfBalanceLatch.low_noteBalance (hlow.trans h.low)⟩
  rw [OutOfBalanceLatch.latched_noteBalance]
  simp [hlatched]

theorem observe (h : Tracks l os) (o : Observation) :
    Tracks (l.observe o) (next os (.observe o)) := by
  have hreleases : (o.providersConnected = true ∨
      (o.balanceKnown && l.lowKnown && decide (l.lowBytes < o.availableBytes)) = true) ↔
        Releases os o := by
    rw [Releases, Bool.and_assoc, Bool.and_eq_true, OutOfBalanceLatch.low_lt_iff, h.low]
  rw [OutOfBalanceLatch.observe, next]
  by_cases hinsufficient : o.insufficientBalance = true
  · rw [if_pos hinsufficient, if_pos hinsufficient]
    exact h.note rfl rfl
  rw [if_neg hinsufficient, if_neg hinsufficient]
  cases hlatched : l.latched with
  | false =>
    have hnil : os = [] := by
      by_contra hne
      exact Bool.false_ne_true (hlatched.symm.trans (h.latched.2 hne))
    subst hnil
    exact h
  | true =>
    have hne := h.latched.1 hlatched
    rw [if_neg (by simp)]
    by_cases hevidence : Releases os o
    · have hover : os = [] ∨ Releases os o := .inr hevidence
      rw [if_pos hover]
      rcases hreleases.2 hevidence with hconnected | hbalance
      · rw [if_pos hconnected]
        exact h.reset
      · rw [if_pos hbalance, ite_self]
        exact h.reset
    · rw [if_neg (not_or.2 ⟨hne, hevidence⟩)]
      have hnone := mt hreleases.1 hevidence
      rw [if_neg (not_or.1 hnone).1, if_neg (not_or.1 hnone).2]
      exact h.note hlatched rfl

theorem after (ops : List Op) : Tracks (after ops) (stretch ops) := by
  induction ops using List.reverseRecOn with
  | nil => exact init
  | append_singleton ops op ih =>
    rw [after_concat, stretch_concat]
    cases op with
    | observe o => exact ih.observe o
    | reset => exact ih.reset

end Tracks

/-! ### When it is latched -/

lemma not_outOfBalance_reset (ops : List Op) : ¬ OutOfBalance (ops ++ [.reset]) := by
  rintro ⟨before, o, later, heq, -, hreset, -⟩
  rcases eq_or_mem_of_snoc heq with ⟨-, -, hop⟩ | ⟨later, rfl, -⟩
  · exact absurd hop.symm (by rintro ⟨⟩)
  · exact hreset (by simp)

lemma outOfBalance_insufficient {o : Observation} (ops : List Op)
    (h : o.insufficientBalance = true) : OutOfBalance (ops ++ [.observe o]) := by
  refine ⟨ops, o, [], rfl, h, List.not_mem_nil, ?_⟩
  intro first x last heq
  exact absurd heq (by simp)

lemma outOfBalance_observe {o : Observation} (ops : List Op)
    (h : ¬ o.insufficientBalance = true) :
    OutOfBalance (ops ++ [.observe o]) ↔ OutOfBalance ops ∧ ¬ Releases (stretch ops) o := by
  constructor
  · rintro ⟨before, p, later, heq, hinsufficient, hreset, hnone⟩
    rcases eq_or_mem_of_snoc heq with ⟨-, -, hop⟩ | ⟨later, rfl, rfl⟩
    · obtain rfl := Op.observe.inj hop
      exact absurd hinsufficient h
    · refine ⟨⟨before, p, later, rfl, hinsufficient, fun hmem => hreset (by simp [hmem]), ?_⟩, ?_⟩
      · rintro first x last rfl hx
        exact hnone first x (last ++ [.observe o]) (by simp) hx
      · exact hnone later o [] rfl (Bool.eq_false_of_not_eq_true h)
  · rintro ⟨⟨before, p, later, rfl, hinsufficient, hreset, hnone⟩, hlast⟩
    refine ⟨before, p, later ++ [.observe o], by simp, hinsufficient, by simp [hreset], ?_⟩
    intro first x last heq hx
    rcases eq_or_mem_of_snoc heq with ⟨-, rfl, hop⟩ | ⟨last, rfl, hlater⟩
    · obtain rfl := Op.observe.inj hop
      exact hlast
    · exact hnone first x last hlater hx

theorem stretch_ne_nil_iff (ops : List Op) : stretch ops ≠ [] ↔ OutOfBalance ops := by
  induction ops using List.reverseRecOn with
  | nil =>
    refine iff_of_false (not_not.2 rfl) ?_
    rintro ⟨before, o, later, heq, -⟩
    exact absurd heq (by simp)
  | append_singleton ops op ih =>
    rw [stretch_concat]
    cases op with
    | reset => exact iff_of_false (not_not.2 rfl) (not_outOfBalance_reset ops)
    | observe o =>
      rw [next]
      by_cases hinsufficient : o.insufficientBalance = true
      · rw [if_pos hinsufficient]
        exact iff_of_true (by simp) (outOfBalance_insufficient ops hinsufficient)
      · rw [if_neg hinsufficient, outOfBalance_observe ops hinsufficient, ← ih]
        split_ifs with hover
        · exact iff_of_false (not_not.2 rfl) fun hlatched => hover.elim hlatched.1 hlatched.2
        · exact iff_of_true (by simp) (not_or.1 hover)

/-- **The latch releases only on evidence**, and keeps the least known balance of its stretch. -/
theorem latch_releases_on_evidence (ops : List Op) :
    ((after ops).insufficientBalance = true ↔ OutOfBalance ops) ∧
      (after ops).low = (known (stretch ops)).min? := by
  have htracks := Tracks.after ops
  exact ⟨htracks.latched.trans (stretch_ne_nil_iff ops), htracks.low⟩

end UrnetworkWindows.Balance.Latch
