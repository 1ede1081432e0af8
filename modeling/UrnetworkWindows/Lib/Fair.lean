/-
Endless runs and what they lead to.

A claim that something happens is about runs that do not stop, in which no party waits for
ever that could go on.  `LeadsTo` is between predicates of the places of such a run, so that
a place may be looked at by its state or by the label that follows it.
-/
import UrnetworkWindows.Lib.Trace

namespace UrnetworkWindows.Lib

variable {σ α : Type*}

/-- A run that does not stop. -/
structure Endless (init : σ → Prop) (next : σ → α → Option σ) where
  state : ℕ → σ
  label : ℕ → α
  start : init (state 0)
  step : ∀ n, next (state n) (label n) = some (state (n + 1))

namespace Endless

variable {init : σ → Prop} {next : σ → α → Option σ} (run : Endless init next)

/-- What holds at first and is kept by each step holds at every place. -/
lemma invariant {P : σ → Prop} (hinit : ∀ s, init s → P s)
    (hstep : ∀ s a s', P s → next s a = some s' → P s') (n : ℕ) : P (run.state n) := by
  induction n with
  | zero => exact hinit _ run.start
  | succ n ih => exact hstep _ _ _ ih (run.step n)

/-- What each step keeps is kept from any place on. -/
lemma stable {P : σ → Prop} (hstep : ∀ s a s', P s → next s a = some s' → P s') {n m : ℕ}
    (hle : n ≤ m) (h : P (run.state n)) : P (run.state m) := by
  induction m, hle using Nat.le_induction with
  | base => exact h
  | succ m _ ih => exact hstep _ _ _ ih (run.step m)

end Endless

/-- A party that is ready from some place on acts at one. -/
def WeaklyFair (ready acts : ℕ → Prop) : Prop :=
  ∀ n, (∀ m, n ≤ m → ready m) → ∃ m, n ≤ m ∧ acts m

/-- Where `P` holds, `Q` holds then or later. -/
def LeadsTo (P Q : ℕ → Prop) : Prop := ∀ n, P n → ∃ m, n ≤ m ∧ Q m

namespace LeadsTo

variable {P Q R : ℕ → Prop}

lemma of_imp (h : ∀ n, P n → Q n) : LeadsTo P Q := fun n hn => ⟨n, le_rfl, h n hn⟩

lemma trans (h : LeadsTo P Q) (h' : LeadsTo Q R) : LeadsTo P R := by
  intro n hn
  obtain ⟨m, hm, hQ⟩ := h n hn
  obtain ⟨k, hk, hR⟩ := h' m hQ
  exact ⟨k, hm.trans hk, hR⟩

lemma or (h : LeadsTo P R) (h' : LeadsTo Q R) : LeadsTo (fun n => P n ∨ Q n) R :=
  fun n hn => hn.elim (h n) (h' n)

/-- What `P` leads to, unless `Q` comes first, is all that remains to be followed. -/
lemma trans_or (h : LeadsTo P fun n => Q n ∨ R n) (h' : LeadsTo R Q) : LeadsTo P Q :=
  h.trans ((of_imp fun _ hn => hn).or h')

/-- What lasts until `Q` lasts where `Q` does not come. -/
lemma lasts (hkeep : ∀ n, P n → ¬ Q n → P (n + 1) ∨ Q (n + 1)) {n : ℕ} (hn : P n)
    (hnot : ∀ m, n ≤ m → ¬ Q m) {m : ℕ} (hm : n ≤ m) : P m := by
  induction m, hm using Nat.le_induction with
  | base => exact hn
  | succ m hm ih => exact (hkeep m ih (hnot m hm)).resolve_right (hnot _ (hm.trans (Nat.le_succ m)))

/-- `P` lasts until `Q`, and a party that acts while `P` holds brings `Q` about. -/
theorem of_fair {ready acts : ℕ → Prop} (hfair : WeaklyFair ready acts)
    (hkeep : ∀ n, P n → ¬ Q n → P (n + 1) ∨ Q (n + 1)) (hready : ∀ n, P n → ready n)
    (hact : ∀ n, P n → acts n → Q n ∨ Q (n + 1)) : LeadsTo P Q := by
  intro n hn
  by_contra hnever
  have hnot : ∀ m, n ≤ m → ¬ Q m := fun m hm hQ => hnever ⟨m, hm, hQ⟩
  have hlasts : ∀ m, n ≤ m → P m := fun m => lasts hkeep hn hnot
  obtain ⟨m, hm, hacts⟩ := hfair n fun m hm => hready m (hlasts m hm)
  rcases hact m (hlasts m hm) hacts with hQ | hQ
  · exact hnot m hm hQ
  · exact hnot _ (hm.trans (Nat.le_succ m)) hQ

/-- `P` lasts until `Q`, and `R` holds from some place on. -/
theorem of_always (hR : ∃ k, ∀ m, k ≤ m → R m) (hkeep : ∀ n, P n → ¬ Q n → P (n + 1) ∨ Q (n + 1)) :
    LeadsTo P fun n => Q n ∨ (P n ∧ R n) := by
  obtain ⟨k, hk⟩ := hR
  intro n hn
  by_contra hnever
  have hnot : ∀ m, n ≤ m → ¬ Q m := fun m hm hQ => hnever ⟨m, hm, .inl hQ⟩
  have hlasts : ∀ m, n ≤ m → P m := fun m => lasts hkeep hn hnot
  exact hnever ⟨max n k, le_max_left _ _,
    .inr ⟨hlasts _ (le_max_left _ _), hk _ (le_max_right _ _)⟩⟩

/-- While `P` holds, a number goes down until `Q`. -/
theorem of_rank (rank : ℕ → ℕ)
    (h : ∀ k, LeadsTo (fun n => P n ∧ rank n = k) fun n => Q n ∨ (P n ∧ rank n < k)) :
    LeadsTo P Q := by
  have hall : ∀ k n, P n → rank n = k → ∃ m, n ≤ m ∧ Q m := by
    intro k
    induction k using Nat.strongRecOn with
    | ind k ih =>
      intro n hn hk
      obtain ⟨m, hm, hQ | ⟨hP, hlt⟩⟩ := h k n ⟨hn, hk⟩
      · exact ⟨m, hm, hQ⟩
      · obtain ⟨m', hm', hQ⟩ := ih (rank m) hlt m hP rfl
        exact ⟨m', hm.trans hm', hQ⟩
  exact fun n hn => hall (rank n) n hn rfl

end LeadsTo

end UrnetworkWindows.Lib
