/-
When the retries of a recovery are refilled (`BalanceGate.h`).

The retries come back for a connection that stays out of the block for ten minutes after a
retry.  `Observe` keeps the time of the last retry and asks only whether the connection is held
now, so a hold in between goes unseen: `refill_earned_iff` says of which observations the
promise holds.
-/
import UrnetworkWindows.Balance.Recovery

namespace UrnetworkWindows.Balance

open Lib

section

variable {Target : Type*}

/-! ### What a call says -/

/-- The gate holds a requested connection. -/
def Op.holds : Op Target → Bool
  | .observe gate connectRequested _ _ => gate && connectRequested
  | _ => false

/-- When an observation is made. -/
def Op.observedAt : Op Target → Option ℤ
  | .observe _ _ _ nowMs => some nowMs
  | _ => none

/-- The clock at a call. -/
def Op.clock : Op Target → Option ℤ
  | .startRefused _ nowMs | .observe _ _ _ nowMs => some nowMs
  | .clear => none

/-- A new ask of the user's, or the end of the wait. -/
def Op.asks : Op Target → Bool
  | .observe .. => false
  | _ => true

/-- A requested connection is out of the block, long enough after a time. -/
def Op.outAfter (sinceMs : ℤ) : Op Target → Bool
  | .observe gate connectRequested _ nowMs =>
    connectRequested && !(gate && connectRequested) &&
      decide (sinceMs + kRecoveryBudgetResetMs ≤ nowMs)
  | _ => false

/-- The calls of a run. -/
abbrev Calls (Target : Type*) := List (Transition (BalanceRecovery Target) (Op Target))

variable [Inhabited Target]

/-- The last call that returned a step to make, when it was made and the calls since. -/
structure LastRetry (es : Calls Target) (u : Transition (BalanceRecovery Target) (Op Target))
    (mid : Calls Target) (retriedAt : ℤ) : Prop where
  split : ∃ pre, es = pre ++ u :: mid
  retried : Retried u
  time : u.label.observedAt = some retriedAt
  last : ∀ v ∈ mid, ¬ Retried v

/-- The observation resets a positive number of retries. -/
def Resets (t : Transition (BalanceRecovery Target) (Op Target)) : Prop :=
  match t.label with
  | .observe gate connectRequested _ nowMs =>
    t.pre.resets connectRequested (gate && connectRequested) nowMs = true
  | _ => False

/-- A reset comes only of a connection that was not held at or after the last retry, and long
enough after it. -/
def Earned (es : Calls Target) (t : Transition (BalanceRecovery Target) (Op Target)) : Prop :=
  Resets t → ∃ u mid retriedAt nowMs, LastRetry es u mid retriedAt ∧
    t.label.observedAt = some nowMs ∧ retriedAt + kRecoveryBudgetResetMs ≤ nowMs ∧
      ∀ v ∈ u :: (mid ++ [t]), v.label.holds = false

/-- A connection that is out of the block long enough after the last retry, for the first time
and with no new ask since, was not held at or after the retry. -/
def StayedOut (es : Calls Target) (op : Op Target) : Prop :=
  ∀ u mid retriedAt, LastRetry es u mid retriedAt → op.outAfter retriedAt = true →
    (∀ v ∈ mid, v.label.asks = false ∧ v.label.outAfter retriedAt = false) →
      ∀ v ∈ u :: mid, v.label.holds = false

/-! ### The last retry -/

variable {es mid mid' : Calls Target} {u u' t : Transition (BalanceRecovery Target) (Op Target)}
  {retriedAt retriedAt' : ℤ} {r r' : BalanceRecovery Target} {op : Op Target}

lemma not_lastRetry_nil : ¬ LastRetry [] u mid retriedAt := by
  rintro ⟨⟨pre, he⟩, -⟩
  exact absurd he (by simp)

lemma lastRetry_snoc_of_retried (ht : Retried t) :
    LastRetry (es ++ [t]) u mid retriedAt ↔
      u = t ∧ mid = [] ∧ t.label.observedAt = some retriedAt := by
  constructor
  · rintro ⟨⟨pre, he⟩, -, htime, hlast⟩
    rcases eq_or_mem_of_snoc he with ⟨rfl, -, rfl⟩ | ⟨mid', rfl, -⟩
    · exact ⟨rfl, rfl, htime⟩
    · exact absurd ht (hlast t (by simp))
  · rintro ⟨rfl, rfl, htime⟩
    exact ⟨⟨es, rfl⟩, ht, htime, by simp⟩

lemma lastRetry_snoc (ht : ¬ Retried t) :
    LastRetry (es ++ [t]) u mid retriedAt ↔
      ∃ mid', mid = mid' ++ [t] ∧ LastRetry es u mid' retriedAt := by
  constructor
  · rintro ⟨⟨pre, he⟩, hu, htime, hlast⟩
    rcases eq_or_mem_of_snoc he with ⟨-, -, rfl⟩ | ⟨mid', rfl, hes⟩
    · exact absurd hu ht
    · exact ⟨mid', rfl, ⟨pre, hes⟩, hu, htime, fun v hv => hlast v (List.mem_append_left _ hv)⟩
  · rintro ⟨mid', rfl, ⟨pre, rfl⟩, hu, htime, hlast⟩
    refine ⟨⟨pre, by simp⟩, hu, htime, ?_⟩
    exact List.forall_mem_append.2 ⟨hlast, List.forall_mem_singleton.2 ht⟩

lemma LastRetry.unique (h : LastRetry es u mid retriedAt) (h' : LastRetry es u' mid' retriedAt') :
    u = u' ∧ mid = mid' ∧ retriedAt = retriedAt' := by
  induction es using List.reverseRecOn generalizing mid mid' with
  | nil => exact absurd h not_lastRetry_nil
  | append_singleton es t ih =>
    by_cases ht : Retried t
    · obtain ⟨rfl, rfl, htime⟩ := (lastRetry_snoc_of_retried ht).1 h
      obtain ⟨rfl, rfl, htime'⟩ := (lastRetry_snoc_of_retried ht).1 h'
      exact ⟨rfl, rfl, Option.some.inj (htime.symm.trans htime')⟩
    · obtain ⟨mid₁, rfl, h₁⟩ := (lastRetry_snoc ht).1 h
      obtain ⟨mid₂, rfl, h₂⟩ := (lastRetry_snoc ht).1 h'
      obtain ⟨hu, hmid, hat⟩ := ih h₁ h₂
      exact ⟨hu, by rw [hmid], hat⟩

/-! ### What a call leaves -/

lemma retry_lastRetryAtMs {nowMs : ℤ} : (r.retry nowMs).2.lastRetryAtMs = nowMs := by
  rw [BalanceRecovery.retry]
  split <;> rfl

omit [Inhabited Target] in
lemma resets_iff (r : BalanceRecovery Target) (gate connectRequested : Bool)
    (balance : AccountBalance) (nowMs : ℤ) :
    r.resets connectRequested (gate && connectRequested) nowMs = true ↔
      0 < r.retries ∧
        (Op.observe gate connectRequested balance nowMs : Op Target).outAfter r.lastRetryAtMs =
          true := by
  simp only [BalanceRecovery.resets, Op.outAfter, Bool.and_eq_true, decide_eq_true_eq,
    le_sub_iff_add_le']
  tauto

lemma observe_left (r : BalanceRecovery Target) (gate connectRequested : Bool)
    (balance : AccountBalance) (nowMs : ℤ) :
    ((r.observe gate connectRequested balance nowMs).1.kind = .none ∧
        (r.observe gate connectRequested balance nowMs).2.lastRetryAtMs = r.lastRetryAtMs ∧
        (r.observe gate connectRequested balance nowMs).2.retries =
          if r.resets connectRequested (gate && connectRequested) nowMs then 0 else r.retries) ∨
      (r.observe gate connectRequested balance nowMs).1.kind ≠ .none ∧
        (r.observe gate connectRequested balance nowMs).2.lastRetryAtMs = nowMs ∧
        0 < (r.observe gate connectRequested balance nowMs).2.retries := by
  rw [BalanceRecovery.observe]
  rcases BalanceRecovery.settle_cases (r.noted connectRequested (gate && connectRequested) nowMs)
    (gate && connectRequested) balance nowMs with ⟨armed, hsettle, -⟩ | ⟨armedAt, hsettle, -⟩
  · left
    rw [hsettle, BalanceRecovery.noted_eq]
    exact ⟨rfl, rfl, rfl⟩
  · right
    rw [hsettle, retry_lastRetryAtMs, BalanceRecovery.retry_retries, BalanceRecovery.retry_step]
    refine ⟨?_, rfl, Nat.succ_pos _⟩
    cases BalanceRecovery.refusedStart _ <;> simp

lemma left_of_retried (hnext : (next r op).2 = r') (ht : Retried ⟨r, op, r'⟩) :
    0 < r'.retries ∧ op.observedAt = some r'.lastRetryAtMs := by
  subst hnext
  cases op with
  | startRefused target nowMs | clear => exact absurd rfl ht
  | observe gate connectRequested balance nowMs =>
    rcases observe_left r gate connectRequested balance nowMs with
      ⟨hnone, -⟩ | ⟨-, hlast, hpos⟩
    · exact absurd hnone ht
    · exact ⟨hpos, congrArg some hlast.symm⟩

lemma left_of_not_retried (hnext : (next r op).2 = r') (ht : ¬ Retried ⟨r, op, r'⟩) :
    r'.lastRetryAtMs = r.lastRetryAtMs ∧
      (0 < r'.retries ↔
        0 < r.retries ∧ op.asks = false ∧ op.outAfter r.lastRetryAtMs = false) := by
  subst hnext
  cases op with
  | startRefused target nowMs =>
    have heq : r.startRefused target nowMs =
        { r with
          refusedStart := some target
          retries := 0
          armedAtMs := if r.armedAtMs.isNone then some nowMs else r.armedAtMs } := by
      rw [BalanceRecovery.startRefused, BalanceRecovery.arm]
      split_ifs <;> rfl
    change (r.startRefused target nowMs).lastRetryAtMs = _ ∧
      (0 < (r.startRefused target nowMs).retries ↔ _)
    rw [heq]
    exact ⟨rfl, iff_of_false (lt_irrefl 0) fun h => absurd h.2.1 (by simp [Op.asks])⟩
  | clear => exact ⟨rfl, iff_of_false (lt_irrefl 0) fun h => absurd h.2.1 (by simp [Op.asks])⟩
  | observe gate connectRequested balance nowMs =>
    rcases observe_left r gate connectRequested balance nowMs with
      ⟨-, hlast, hretries⟩ | ⟨hsome, -⟩
    · refine ⟨hlast, ?_⟩
      change 0 < (r.observe gate connectRequested balance nowMs).2.retries ↔ _
      rw [hretries]
      have hiff := resets_iff r gate connectRequested balance nowMs
      split_ifs with hresets
      · refine iff_of_false (lt_irrefl 0) fun h => ?_
        exact absurd ((hiff.1 hresets).2.symm.trans h.2.2) (by simp)
      · refine ⟨fun hpos => ⟨hpos, rfl, ?_⟩, fun h => h.1⟩
        exact Bool.eq_false_iff.2 fun hout => hresets (hiff.2 ⟨hpos, hout⟩)
    · exact absurd hsome ht

/-! ### The history -/

/-- What the recovery keeps is the time of the last retry, and retries are counted from a retry
until they are refilled. -/
structure Counted (es : Calls Target) (r : BalanceRecovery Target) : Prop where
  last : ∀ u mid retriedAt, LastRetry es u mid retriedAt → r.lastRetryAtMs = retriedAt
  positive : 0 < r.retries ↔ ∃ u mid retriedAt, LastRetry es u mid retriedAt ∧
    ∀ v ∈ mid, v.label.asks = false ∧ v.label.outAfter retriedAt = false

lemma Counted.next (h : Counted es r) (hnext : (next r op).2 = r') :
    Counted (es ++ [⟨r, op, r'⟩]) r' := by
  by_cases ht : Retried ⟨r, op, r'⟩
  · obtain ⟨hpos, htime⟩ := left_of_retried hnext ht
    refine ⟨fun u mid retriedAt hlast => ?_, iff_of_true hpos ?_⟩
    · obtain ⟨-, -, hat⟩ := (lastRetry_snoc_of_retried ht).1 hlast
      exact Option.some.inj (htime.symm.trans hat)
    · exact ⟨_, [], _, (lastRetry_snoc_of_retried ht).2 ⟨rfl, rfl, htime⟩, by simp⟩
  · obtain ⟨hlast, hpos⟩ := left_of_not_retried hnext ht
    refine ⟨fun u mid retriedAt hu => ?_, ?_⟩
    · obtain ⟨mid', -, hu⟩ := (lastRetry_snoc ht).1 hu
      rw [hlast, h.last u mid' retriedAt hu]
    · rw [hpos, h.positive]
      constructor
      · rintro ⟨⟨u, mid, retriedAt, hu, hmid⟩, hasks, hout⟩
        refine ⟨u, mid ++ [_], retriedAt, (lastRetry_snoc ht).2 ⟨mid, rfl, hu⟩, ?_⟩
        rw [h.last u mid retriedAt hu] at hout
        exact List.forall_mem_append.2 ⟨hmid, List.forall_mem_singleton.2 ⟨hasks, hout⟩⟩
      · rintro ⟨u, mid, retriedAt, hu, hmid⟩
        obtain ⟨mid', rfl, hu'⟩ := (lastRetry_snoc ht).1 hu
        obtain ⟨hmid', hlast'⟩ := List.forall_mem_append.1 hmid
        obtain ⟨hasks, hout⟩ := List.forall_mem_singleton.1 hlast'
        rw [h.last u mid' retriedAt hu']
        exact ⟨⟨u, mid', retriedAt, hu', hmid'⟩, hasks, hout⟩

lemma counted_of_run (h : BalanceRecovery.Runs es r) : Counted es r := by
  induction h with
  | nil h =>
    subst h
    refine ⟨fun u mid retriedAt hu => absurd hu not_lastRetry_nil, iff_of_false (lt_irrefl 0) ?_⟩
    rintro ⟨u, mid, retriedAt, hu, -⟩
    exact not_lastRetry_nil hu
  | snoc _ hstep ih => exact ih.next hstep

omit [Inhabited Target] in
lemma resets_of_outAfter (hpos : 0 < r.retries) (hout : op.outAfter r.lastRetryAtMs = true) :
    Resets ⟨r, op, r'⟩ := by
  cases op with
  | observe gate connectRequested balance nowMs =>
    exact (resets_iff r gate connectRequested balance nowMs).2 ⟨hpos, hout⟩
  | _ => exact absurd hout (by simp [Op.outAfter])

omit [Inhabited Target] in
lemma Resets.out (h : Resets ⟨r, op, r'⟩) :
    0 < r.retries ∧ op.outAfter r.lastRetryAtMs = true := by
  cases op with
  | observe gate connectRequested balance nowMs =>
    exact (resets_iff r gate connectRequested balance nowMs).1 h
  | _ => exact absurd h id

omit [Inhabited Target] in
lemma of_outAfter {sinceMs : ℤ} (h : op.outAfter sinceMs = true) :
    op.holds = false ∧
      ∃ nowMs, op.observedAt = some nowMs ∧ sinceMs + kRecoveryBudgetResetMs ≤ nowMs := by
  cases op with
  | observe gate connectRequested balance nowMs =>
    simp only [Op.outAfter, Bool.and_eq_true, Bool.not_eq_true', decide_eq_true_eq] at h
    exact ⟨h.1.2, nowMs, rfl, h.2⟩
  | _ => exact absurd h (by simp [Op.outAfter])

lemma stayedOut_of_forall (h : ∀ v ∈ es, v.label.holds = false) : StayedOut es op := by
  rintro u mid retriedAt ⟨⟨pre, rfl⟩, -⟩ - - v hv
  exact h v (List.mem_append_right _ hv)

/-- An observation of a run resets the retries only as promised if and only if the connection
stayed out, whenever it is out long enough after the last retry. -/
theorem refill_earned_iff (hrun : BalanceRecovery.Runs es r) {pre post : Calls Target}
    (he : es = pre ++ t :: post) : Earned pre t ↔ StayedOut pre t.label := by
  obtain ⟨hpre, -⟩ := hrun.split he
  have hcounted := counted_of_run hpre
  obtain ⟨r₀, op, r₁⟩ := t
  constructor
  · intro hearned u mid retriedAt hu hout hmid
    have hpos := hcounted.positive.2 ⟨u, mid, retriedAt, hu, hmid⟩
    obtain ⟨u', mid', retriedAt', -, hu', -, -, hholds⟩ :=
      hearned (resets_of_outAfter hpos (hcounted.last u mid retriedAt hu ▸ hout))
    obtain ⟨rfl, rfl, -⟩ := hu.unique hu'
    exact fun v hv => hholds v (by
      rw [← List.cons_append]
      exact List.mem_append_left _ hv)
  · intro hstayed hresets
    obtain ⟨hpos, hout⟩ := hresets.out
    obtain ⟨u, mid, retriedAt, hu, hmid⟩ := hcounted.positive.1 hpos
    rw [hcounted.last u mid retriedAt hu] at hout
    obtain ⟨hfree, nowMs, hnow, hle⟩ := of_outAfter hout
    refine ⟨u, mid, retriedAt, nowMs, hu, hnow, hle, ?_⟩
    rw [← List.cons_append]
    exact List.forall_mem_append.2 ⟨hstayed u mid retriedAt hu hout hmid,
      List.forall_mem_singleton.2 hfree⟩

end

/-- A balance with data back. -/
def sampleBalance (fetchedAtMs : ℤ) : AccountBalance where
  known := true
  availableBytes := kRecoveryThresholdBytes
  fetchedAtMs := fetchedAtMs

/-- A refused start that runs again, and its connection ten minutes later. -/
theorem refill_earned_start :
    ∃ (es : Calls ℕ) (t : Transition (BalanceRecovery ℕ) (Op ℕ)), Earned es t ∧ Resets t := by
  have h₀ : BalanceRecovery.Runs [] ({} : BalanceRecovery ℕ) := .nil rfl
  have h₁ := h₀.snoc (a := .startRefused 7 1000) rfl
  have h₂ := h₁.snoc (a := .observe true false (sampleBalance 2000) 2000) rfl
  have h₃ := h₂.snoc (a := .observe false true {} 602000) rfl
  refine ⟨_, _, (refill_earned_iff h₃ rfl).2 (stayedOut_of_forall (by decide)), ?_⟩
  show BalanceRecovery.resets _ true (false && true) 602000 = true
  decide

/-- The connection of the start is held five minutes after the retry, and not held five minutes
later. -/
theorem refill_earned_fails :
    ¬ ∀ (es : Calls ℕ) (r : BalanceRecovery ℕ), BalanceRecovery.Runs es r →
      (es.filterMap fun t => t.label.clock).Pairwise (· ≤ ·) →
        ∀ pre t post, es = pre ++ t :: post → Earned pre t := by
  intro h
  have h₀ : BalanceRecovery.Runs [] ({} : BalanceRecovery ℕ) := .nil rfl
  have h₁ := h₀.snoc (a := .startRefused 7 1000) rfl
  have h₂ := h₁.snoc (a := .observe true false (sampleBalance 2000) 2000) rfl
  have h₃ := h₂.snoc (a := .observe true true {} 302000) rfl
  have h₄ := h₃.snoc (a := .observe false true {} 602000) rfl
  have hearned := h _ _ h₄ (by decide) _ _ [] rfl
  have hout := (refill_earned_iff h₄ rfl).1 hearned _ _ 2000
    ((lastRetry_snoc (by decide)).2 ⟨[], rfl, (lastRetry_snoc_of_retried (by decide)).2
      ⟨rfl, rfl, rfl⟩⟩) (by decide) (by decide)
  exact absurd (hout _ (List.mem_cons_of_mem _ (List.mem_singleton_self _))) (by decide)

end UrnetworkWindows.Balance
