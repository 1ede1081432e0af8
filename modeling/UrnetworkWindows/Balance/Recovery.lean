/-
The recovery of a connect that the balance blocked (`BalanceGate.h`, `BalanceRecovery`).

A refused start waits with its gesture, and a requested connection is held.  A retry takes
an arming and a balance read after it, and there are three of them between two refills.
Every call is made from the UI thread, so a run is a list of calls.

`observe_cases` says once what an observation can do; the results are about whole runs,
with the calls that refused, armed and refilled found in the history
(`retries_bounded_and_asked_for`).
-/
import UrnetworkWindows.Lib.Trace

namespace UrnetworkWindows.Balance

open Lib

/-- `AccountBalance`. -/
structure AccountBalance where
  known : Bool := false
  pro : Bool := false
  availableBytes : ℤ := 0
  openTransferBytes : ℤ := 0
  fetchedAtMs : ℤ := 0
deriving DecidableEq, Repr

/-- `kRecoveryThresholdBytes`. -/
def kRecoveryThresholdBytes : ℤ := 64 * 1024 * 1024

/-- `kRecoveryMaxRetries`. -/
def kRecoveryMaxRetries : ℕ := 3

/-- `kRecoveryBudgetResetMs`. -/
def kRecoveryBudgetResetMs : ℤ := 10 * 60 * 1000

/-- `RecoveryState`. -/
structure RecoveryState where
  startWaiting : Bool := false
  retriesLeft : Bool := true
deriving DecidableEq, Repr

/-- `RecoveryStepKind`. -/
inductive RecoveryStepKind
  | none
  | start
  | rebuild
deriving DecidableEq, Repr

/-- `RecoveryStep`. -/
structure RecoveryStep (Target : Type*) [Inhabited Target] where
  kind : RecoveryStepKind := .none
  target : Target := default
deriving DecidableEq, Repr

/-- `BalanceRecovery`. -/
structure BalanceRecovery (Target : Type*) where
  refusedStart : Option Target := none
  held : Bool := false
  armedAtMs : Option ℤ := none
  retries : ℕ := 0
  lastRetryAtMs : ℤ := 0
deriving DecidableEq, Repr

namespace BalanceRecovery

section

variable {Target : Type*}

/-- `BalanceRecovery::State`. -/
def state (r : BalanceRecovery Target) : RecoveryState :=
  ⟨r.refusedStart.isSome, decide (r.retries < kRecoveryMaxRetries)⟩

/-- `BalanceRecovery::Arm`. -/
def arm (r : BalanceRecovery Target) (atMs : ℤ) : BalanceRecovery Target :=
  if r.armedAtMs.isNone then { r with armedAtMs := some atMs } else r

/-- `BalanceRecovery::StartRefused`. -/
def startRefused (r : BalanceRecovery Target) (target : Target) (nowMs : ℤ) :
    BalanceRecovery Target :=
  { r with refusedStart := some target, retries := 0 }.arm nowMs

/-- `BalanceRecovery::Clear`. -/
def clear (r : BalanceRecovery Target) : BalanceRecovery Target :=
  { r with refusedStart := none, armedAtMs := none, retries := 0 }

/-- In `Observe`: a connection the user asked for is newly held. -/
def noteHeld (r : BalanceRecovery Target) (heldNow : Bool) (nowMs : ℤ) : BalanceRecovery Target :=
  { (if heldNow && !r.held then r.arm nowMs else r) with held := heldNow }

/-- In `Observe`: the retried connection has stayed out of the block long enough. -/
def resets (r : BalanceRecovery Target) (connectRequested heldNow : Bool) (nowMs : ℤ) : Bool :=
  connectRequested && !heldNow && decide (0 < r.retries) &&
    decide (kRecoveryBudgetResetMs ≤ nowMs - r.lastRetryAtMs)

/-- The first part of `Observe`: the held edge and the budget reset. -/
def noted (r : BalanceRecovery Target) (connectRequested heldNow : Bool) (nowMs : ℤ) :
    BalanceRecovery Target :=
  let r := r.noteHeld heldNow nowMs
  if r.resets connectRequested heldNow nowMs then { r with retries := 0 } else r

variable {r : BalanceRecovery Target} {connectRequested heldNow : Bool} {nowMs : ℤ}

lemma noteHeld_eq : r.noteHeld heldNow nowMs =
    { r with held := heldNow, armedAtMs :=
        if heldNow && !r.held && r.armedAtMs.isNone then some nowMs else r.armedAtMs } := by
  unfold noteHeld arm
  by_cases hedge : (heldNow && !r.held) = true
  · by_cases harmed : r.armedAtMs.isNone = true
    · simp only [hedge, harmed, if_true, Bool.and_self]
    · simp [hedge, harmed]
  · simp [hedge]

lemma noted_eq : r.noted connectRequested heldNow nowMs =
    { r with
      held := heldNow
      armedAtMs := if heldNow && !r.held && r.armedAtMs.isNone then some nowMs else r.armedAtMs
      retries := if r.resets connectRequested heldNow nowMs then 0 else r.retries } := by
  unfold noted
  rw [noteHeld_eq]
  have hresets : ∀ armedAtMs, BalanceRecovery.resets { r with held := heldNow, armedAtMs }
      connectRequested heldNow nowMs = r.resets connectRequested heldNow nowMs := fun _ => rfl
  simp only [hresets]
  by_cases h : r.resets connectRequested heldNow nowMs = true
  · rw [if_pos h, if_pos h]
  · rw [if_neg h, if_neg h]

lemma noted_refusedStart :
    (r.noted connectRequested heldNow nowMs).refusedStart = r.refusedStart := by
  rw [noted_eq]

end

section

variable {Target : Type*} [Inhabited Target]

/-- The end of `Observe`: the retry itself. -/
def retry (r : BalanceRecovery Target) (nowMs : ℤ) :
    RecoveryStep Target × BalanceRecovery Target :=
  let r := { r with armedAtMs := none, retries := r.retries + 1, lastRetryAtMs := nowMs }
  match r.refusedStart with
  | some target => (⟨.start, target⟩, { r with refusedStart := none })
  | none => ({ kind := .rebuild }, r)

/-- The second part of `Observe`: what the balance says. -/
def settle (r : BalanceRecovery Target) (heldNow : Bool) (balance : AccountBalance) (nowMs : ℤ) :
    RecoveryStep Target × BalanceRecovery Target :=
  if r.refusedStart.isNone && !heldNow then ({}, { r with armedAtMs := none })
  else if !balance.known then ({}, r)
  else if balance.availableBytes < kRecoveryThresholdBytes then ({}, r.arm balance.fetchedAtMs)
  else
    match r.armedAtMs with
    | none => ({}, r)
    | some armedAt =>
      if balance.fetchedAtMs < armedAt ∨ kRecoveryMaxRetries ≤ r.retries then ({}, r)
      else r.retry nowMs

/-- `BalanceRecovery::Observe`. -/
def observe (r : BalanceRecovery Target) (gate connectRequested : Bool) (balance : AccountBalance)
    (nowMs : ℤ) : RecoveryStep Target × BalanceRecovery Target :=
  let heldNow := gate && connectRequested
  (r.noted connectRequested heldNow nowMs).settle heldNow balance nowMs

variable {r : BalanceRecovery Target} {nowMs : ℤ}

lemma retry_armedAtMs : (r.retry nowMs).2.armedAtMs = none := by
  unfold retry
  simp only
  split <;> rfl

lemma retry_retries : (r.retry nowMs).2.retries = r.retries + 1 := by
  unfold retry
  simp only
  split <;> rfl

lemma retry_refusedStart : (r.retry nowMs).2.refusedStart = none := by
  unfold retry
  simp only
  split
  · rfl
  · assumption

lemma retry_step : (r.retry nowMs).1 =
    match r.refusedStart with
    | some target => ⟨.start, target⟩
    | none => { kind := .rebuild } := by
  unfold retry
  simp only
  split <;> rfl

lemma settle_cases (r : BalanceRecovery Target) (heldNow : Bool) (balance : AccountBalance)
    (nowMs : ℤ) :
    (∃ armed, r.settle heldNow balance nowMs = ({}, { r with armedAtMs := armed }) ∧
      ∀ armedAt, armed = some armedAt → r.armedAtMs = some armedAt ∨
        (r.armedAtMs = none ∧ armedAt = balance.fetchedAtMs ∧
          (r.refusedStart.isSome || heldNow) = true ∧ balance.known = true ∧
            balance.availableBytes < kRecoveryThresholdBytes)) ∨
    ∃ armedAt, r.settle heldNow balance nowMs = r.retry nowMs ∧ r.armedAtMs = some armedAt ∧
      armedAt ≤ balance.fetchedAtMs ∧ r.retries < kRecoveryMaxRetries ∧ balance.known = true ∧
        kRecoveryThresholdBytes ≤ balance.availableBytes ∧
          (r.refusedStart = none → heldNow = true) := by
  unfold settle
  split_ifs with hidle hknown hlow
  · exact .inl ⟨none, rfl, nofun⟩
  · exact .inl ⟨r.armedAtMs, rfl, fun _ h => .inl h⟩
  · left
    unfold arm
    split_ifs with hnone
    · refine ⟨some balance.fetchedAtMs, rfl, ?_⟩
      intro armedAt harmed
      right
      refine ⟨Option.isNone_iff_eq_none.1 hnone, (Option.some.inj harmed).symm, ?_, ?_, hlow⟩
      · cases hrefused : r.refusedStart <;> simp_all
      · simpa using hknown
    · exact ⟨r.armedAtMs, rfl, fun _ h => .inl h⟩
  · split
    next => exact .inl ⟨r.armedAtMs, rfl, fun _ h => .inl h⟩
    next armedAt harmed =>
      split_ifs with hstale
      · exact .inl ⟨r.armedAtMs, rfl, fun _ h => .inl h⟩
      · right
        rw [not_or, not_lt, not_le] at hstale
        refine ⟨armedAt, rfl, harmed, hstale.1, hstale.2, ?_, not_lt.1 hlow, ?_⟩
        · simpa using hknown
        · intro hrefused
          simpa [hrefused] using hidle

end

end BalanceRecovery

/-! ### The calls -/

/-- A call of the recovery. -/
inductive Op (Target : Type*)
  | startRefused (target : Target) (nowMs : ℤ)
  | clear
  | observe (gate connectRequested : Bool) (balance : AccountBalance) (nowMs : ℤ)
deriving DecidableEq, Repr

section

variable {Target : Type*} [Inhabited Target]

/-- What a call returns, and the recovery after it. -/
def next (r : BalanceRecovery Target) : Op Target → RecoveryStep Target × BalanceRecovery Target
  | .startRefused target nowMs => ({}, r.startRefused target nowMs)
  | .clear => ({}, r.clear)
  | .observe gate connectRequested balance nowMs => r.observe gate connectRequested balance nowMs

/-- The runs of the recovery. -/
abbrev BalanceRecovery.Runs : List (Transition (BalanceRecovery Target) (Op Target)) →
    BalanceRecovery Target → Prop :=
  Run (· = {}) fun _ r op r' => (next r op).2 = r'

/-- What the call of a transition returned. -/
def returned (t : Transition (BalanceRecovery Target) (Op Target)) : RecoveryStep Target :=
  (next t.pre t.label).1

/-- The call returned a step to make. -/
def Retried (t : Transition (BalanceRecovery Target) (Op Target)) : Prop :=
  (returned t).kind ≠ .none

instance (t : Transition (BalanceRecovery Target) (Op Target)) : Decidable (Retried t) := by
  unfold Retried
  infer_instance

lemma retried_of_kind {t : Transition (BalanceRecovery Target) (Op Target)}
    {kind : RecoveryStepKind} (h : (returned t).kind = kind) (hkind : kind ≠ .none) :
    Retried t := by
  rw [Retried, h]
  exact hkind

/-- The call refills the retries: a refused start, a `Clear`, or an observation that resets
the budget. -/
def Refills (t : Transition (BalanceRecovery Target) (Op Target)) : Prop :=
  match t.label with
  | .observe gate connectRequested _ nowMs =>
    t.pre.resets connectRequested (gate && connectRequested) nowMs = true
  | _ => True

/-- The time at which the call arms the retry, which was not armed. -/
def arming (t : Transition (BalanceRecovery Target) (Op Target)) : Option ℤ :=
  if t.pre.armedAtMs.isSome then none
  else
    match t.label with
    | .startRefused _ nowMs => some nowMs
    | .clear => none
    | .observe gate connectRequested balance nowMs =>
      if gate && connectRequested && !t.pre.held then some nowMs
      else if (t.pre.refusedStart.isSome || gate && connectRequested) && balance.known &&
          decide (balance.availableBytes < kRecoveryThresholdBytes) then some balance.fetchedAtMs
      else none

/-- The recovery's retries are bounded and asked for. -/
structure BoundedAndAskedFor (es : List (Transition (BalanceRecovery Target) (Op Target))) :
    Prop where
  /-- Between two refills. -/
  bounded : ∀ es₁ t mid es₂, es = es₁ ++ t :: mid ++ es₂ → (∀ v ∈ mid, ¬ Refills v) →
    (t :: mid).countP (fun v => decide (Retried v)) ≤ kRecoveryMaxRetries
  /-- The arming a step was made on stood until then, and no step was made since. -/
  fresh : ∀ es₁ t es₂, es = es₁ ++ t :: es₂ → Retried t →
    ∃ gate connectRequested balance nowMs armedAt,
      t.label = .observe gate connectRequested balance nowMs ∧ balance.known = true ∧
        kRecoveryThresholdBytes ≤ balance.availableBytes ∧ armedAt ≤ balance.fetchedAtMs ∧
          (arming t = some armedAt ∨ ∃ es₀ u mid, es₁ = es₀ ++ u :: mid ∧
            arming u = some armedAt ∧ (∀ v ∈ mid ++ [t], v.pre.armedAtMs = some armedAt) ∧
              ∀ v ∈ u :: mid, ¬ Retried v)
  /-- The start that is run was refused, and neither run nor cleared since. -/
  started : ∀ es₁ t es₂ target, es = es₁ ++ t :: es₂ → returned t = ⟨.start, target⟩ →
    ∃ es₀ u mid nowMs, es₁ = es₀ ++ u :: mid ∧ u.label = .startRefused target nowMs ∧
      ∀ v ∈ mid, (∀ target' nowMs', v.label ≠ .startRefused target' nowMs') ∧ v.label ≠ .clear ∧
        (returned v).kind ≠ .start
  /-- Only a requested connection that the gate holds is rebuilt. -/
  rebuilt : ∀ es₁ t es₂, es = es₁ ++ t :: es₂ → (returned t).kind = .rebuild →
    ∃ balance nowMs, t.label = .observe true true balance nowMs

/-! ### What a call can do -/

/-- A call that returns no step. -/
structure Waits (t : Transition (BalanceRecovery Target) (Op Target)) : Prop where
  none : ¬ Retried t
  retries : t.post.retries ≤ t.pre.retries
  kept : ¬ Refills t → t.post.retries = t.pre.retries
  armed : ∀ armedAt, t.post.armedAtMs = some armedAt →
    t.pre.armedAtMs = some armedAt ∨ arming t = some armedAt
  waiting : ∀ target, t.post.refusedStart = some target →
    (∃ nowMs, t.label = .startRefused target nowMs) ∨
      t.pre.refusedStart = some target ∧ (∀ target' nowMs, t.label ≠ .startRefused target' nowMs) ∧
        t.label ≠ .clear

/-- A call that returns a step. -/
structure Makes (t : Transition (BalanceRecovery Target) (Op Target)) (gate connectRequested : Bool)
    (balance : AccountBalance) (nowMs armedAt : ℤ) : Prop where
  label : t.label = .observe gate connectRequested balance nowMs
  known : balance.known = true
  enough : kRecoveryThresholdBytes ≤ balance.availableBytes
  fetched : armedAt ≤ balance.fetchedAtMs
  armed : t.pre.armedAtMs = some armedAt ∨ arming t = some armedAt
  disarmed : t.post.armedAtMs = none
  left : t.post.retries ≤ kRecoveryMaxRetries
  spent : ¬ Refills t → t.post.retries = t.pre.retries + 1
  counted : 0 < t.post.retries
  step : (∃ target, returned t = ⟨.start, target⟩ ∧ t.pre.refusedStart = some target ∧
      t.post.refusedStart = none) ∨
    (returned t = { kind := .rebuild } ∧ t.pre.refusedStart = none ∧ t.post.refusedStart = none ∧
      gate = true ∧ connectRequested = true)

section

variable {r r' : BalanceRecovery Target} {gate connectRequested : Bool} {balance : AccountBalance}
  {nowMs : ℤ}

omit [Inhabited Target] in
lemma armed_of_noted {armedAt : ℤ}
    (h : (r.noted connectRequested (gate && connectRequested) nowMs).armedAtMs = some armedAt) :
    r.armedAtMs = some armedAt ∨
      arming ⟨r, .observe gate connectRequested balance nowMs, r'⟩ = some armedAt := by
  rw [BalanceRecovery.noted_eq] at h
  simp only at h
  split at h
  next hedge =>
    obtain ⟨hedge, hnone⟩ := Bool.and_eq_true_iff.1 hedge
    right
    rw [arming, if_neg (by simpa using hnone)]
    exact (if_pos hedge).trans h
  next => exact .inl h

omit [Inhabited Target] in
lemma arming_of_low
    (hnone : (r.noted connectRequested (gate && connectRequested) nowMs).armedAtMs = none)
    (hwaits : (r.refusedStart.isSome || (gate && connectRequested)) = true)
    (hknown : balance.known = true) (hlow : balance.availableBytes < kRecoveryThresholdBytes) :
    arming ⟨r, .observe gate connectRequested balance nowMs, r'⟩ = some balance.fetchedAtMs := by
  rw [BalanceRecovery.noted_eq] at hnone
  simp only at hnone
  split at hnone
  next => cases hnone
  next hedge =>
    have hheld : ¬ (gate && connectRequested && !r.held) = true := by
      simpa [hnone] using hedge
    rw [arming, if_neg (by simp [hnone])]
    exact (if_neg hheld).trans (if_pos (by simp [hwaits, hknown, hlow]))

lemma waits_observe {armed : Option ℤ}
    (hobs : r.observe gate connectRequested balance nowMs =
      ({}, { r.noted connectRequested (gate && connectRequested) nowMs with armedAtMs := armed }))
    (harmed : ∀ armedAt, armed = some armedAt → r.armedAtMs = some armedAt ∨
      ∀ r', arming ⟨r, .observe gate connectRequested balance nowMs, r'⟩ = some armedAt) :
    Waits ⟨r, .observe gate connectRequested balance nowMs,
      (r.observe gate connectRequested balance nowMs).2⟩ := by
  rw [hobs]
  constructor
  case none =>
    intro hretried
    refine hretried ?_
    show (r.observe gate connectRequested balance nowMs).1.kind = _
    rw [hobs]
  case retries =>
    show (r.noted connectRequested (gate && connectRequested) nowMs).retries ≤ r.retries
    rw [BalanceRecovery.noted_eq]
    simp only
    split <;> omega
  case kept =>
    intro hrefills
    show (r.noted connectRequested (gate && connectRequested) nowMs).retries = r.retries
    rw [BalanceRecovery.noted_eq]
    exact if_neg hrefills
  case armed =>
    intro armedAt hpost
    exact (harmed armedAt hpost).imp_right fun h => h _
  case waiting =>
    intro target hpost
    right
    rw [BalanceRecovery.noted_eq] at hpost
    exact ⟨hpost, nofun, nofun⟩

lemma makes_observe {armedAt : ℤ}
    (hobs : r.observe gate connectRequested balance nowMs =
      (r.noted connectRequested (gate && connectRequested) nowMs).retry nowMs)
    (harmed :
      (r.noted connectRequested (gate && connectRequested) nowMs).armedAtMs = some armedAt)
    (hfetched : armedAt ≤ balance.fetchedAtMs)
    (hleft : (r.noted connectRequested (gate && connectRequested) nowMs).retries <
      kRecoveryMaxRetries)
    (hknown : balance.known = true) (henough : kRecoveryThresholdBytes ≤ balance.availableBytes)
    (hheld : r.refusedStart = none → (gate && connectRequested) = true) :
    Makes ⟨r, .observe gate connectRequested balance nowMs,
      (r.observe gate connectRequested balance nowMs).2⟩ gate connectRequested balance nowMs
        armedAt := by
  constructor
  case label => rfl
  case known => exact hknown
  case enough => exact henough
  case fetched => exact hfetched
  case armed => exact armed_of_noted harmed
  case disarmed =>
    show (r.observe gate connectRequested balance nowMs).2.armedAtMs = none
    rw [hobs, BalanceRecovery.retry_armedAtMs]
  case left =>
    show (r.observe gate connectRequested balance nowMs).2.retries ≤ _
    rw [hobs, BalanceRecovery.retry_retries]
    exact hleft
  case spent =>
    intro hrefills
    show (r.observe gate connectRequested balance nowMs).2.retries = r.retries + 1
    rw [hobs, BalanceRecovery.retry_retries, BalanceRecovery.noted_eq]
    exact congrArg (· + 1) (if_neg hrefills)
  case counted =>
    show 0 < (r.observe gate connectRequested balance nowMs).2.retries
    rw [hobs, BalanceRecovery.retry_retries]
    exact Nat.succ_pos _
  case step =>
    have hpost : (r.observe gate connectRequested balance nowMs).2.refusedStart = none := by
      rw [hobs, BalanceRecovery.retry_refusedStart]
    have hret : returned ⟨r, .observe gate connectRequested balance nowMs,
        (r.observe gate connectRequested balance nowMs).2⟩ =
          (r.observe gate connectRequested balance nowMs).1 := rfl
    rw [hret, hobs, BalanceRecovery.retry_step, BalanceRecovery.noted_refusedStart]
    cases hrefused : r.refusedStart with
    | some target => exact .inl ⟨target, rfl, rfl, hobs ▸ hpost⟩
    | none => exact .inr ⟨rfl, rfl, hobs ▸ hpost, Bool.and_eq_true_iff.1 (hheld hrefused)⟩

end

lemma observe_cases (r : BalanceRecovery Target) (gate connectRequested : Bool)
    (balance : AccountBalance) (nowMs : ℤ) :
    Waits ⟨r, .observe gate connectRequested balance nowMs,
        (r.observe gate connectRequested balance nowMs).2⟩ ∨
      ∃ armedAt, Makes ⟨r, .observe gate connectRequested balance nowMs,
        (r.observe gate connectRequested balance nowMs).2⟩ gate connectRequested balance nowMs
          armedAt := by
  rcases BalanceRecovery.settle_cases (r.noted connectRequested (gate && connectRequested) nowMs)
    (gate && connectRequested) balance nowMs with
    ⟨armed, hsettle, harmed⟩ | ⟨armedAt, hsettle, harmed, hfetched, hleft, hknown, henough, hheld⟩
  · refine .inl (waits_observe hsettle fun armedAt hpost => ?_)
    rcases harmed armedAt hpost with hat | ⟨hnone, rfl, hwaits, hknown, hlow⟩
    · by_cases hbefore : r.armedAtMs = some armedAt
      · exact .inl hbefore
      · exact .inr fun r' => (armed_of_noted hat).resolve_left hbefore
    · rw [BalanceRecovery.noted_refusedStart] at hwaits
      exact .inr fun r' => arming_of_low hnone hwaits hknown hlow
  · rw [BalanceRecovery.noted_refusedStart] at hheld
    exact .inr ⟨armedAt, makes_observe hsettle harmed hfetched hleft hknown henough hheld⟩

lemma call_cases {r r' : BalanceRecovery Target} {op : Op Target} (h : (next r op).2 = r') :
    Waits ⟨r, op, r'⟩ ∨ ∃ gate connectRequested balance nowMs armedAt,
      Makes ⟨r, op, r'⟩ gate connectRequested balance nowMs armedAt := by
  subst h
  cases op with
  | observe gate connectRequested balance nowMs =>
    rcases observe_cases r gate connectRequested balance nowMs with hwaits | ⟨armedAt, hmakes⟩
    · exact .inl hwaits
    · exact .inr ⟨gate, connectRequested, balance, nowMs, armedAt, hmakes⟩
  | clear =>
    left
    exact ⟨fun h => h rfl, Nat.zero_le _, fun h => absurd trivial h, nofun, nofun⟩
  | startRefused target nowMs =>
    left
    have hpost : (next r (.startRefused target nowMs)).2 =
        { r with refusedStart := some target, retries := 0,
                 armedAtMs := if r.armedAtMs.isNone then some nowMs else r.armedAtMs } := by
      show r.startRefused target nowMs = _
      unfold BalanceRecovery.startRefused BalanceRecovery.arm
      simp only
      split <;> rfl
    rw [hpost]
    refine ⟨fun h => h rfl, Nat.zero_le _, fun h => absurd trivial h, ?_, ?_⟩
    · intro armedAt harmed
      simp only at harmed
      split at harmed
      next hnone =>
        right
        rw [arming, if_neg (by simpa using hnone)]
        exact harmed
      next => exact .inl harmed
    · intro target' hwaiting
      cases hwaiting
      exact .inl ⟨nowMs, rfl⟩

/-! ### The history -/

/-- What the recovery holds, found in its history. -/
structure History (es : List (Transition (BalanceRecovery Target) (Op Target)))
    (r : BalanceRecovery Target) : Prop where
  armed : ∀ armedAt, r.armedAtMs = some armedAt → ∃ es₀ u mid, es = es₀ ++ u :: mid ∧
    arming u = some armedAt ∧ (∀ v ∈ mid, v.pre.armedAtMs = some armedAt) ∧
      ∀ v ∈ u :: mid, ¬ Retried v
  waiting : ∀ target, r.refusedStart = some target → ∃ es₀ u mid nowMs, es = es₀ ++ u :: mid ∧
    u.label = .startRefused target nowMs ∧
      ∀ v ∈ mid, (∀ target' nowMs', v.label ≠ .startRefused target' nowMs') ∧ v.label ≠ .clear ∧
        (returned v).kind ≠ .start
  left : r.retries ≤ kRecoveryMaxRetries
  spent : ∀ es₁ t mid, es = es₁ ++ t :: mid → (∀ v ∈ mid, ¬ Refills v) →
    (t :: mid).countP (fun v => decide (Retried v)) ≤ r.retries

namespace History

variable {es : List (Transition (BalanceRecovery Target) (Op Target))}
  {r r' : BalanceRecovery Target} {op : Op Target}

lemma waits (h : History es r) (hwaits : Waits ⟨r, op, r'⟩) :
    History (es ++ [⟨r, op, r'⟩]) r' where
  armed := by
    intro armedAt harmed
    rcases hwaits.armed armedAt harmed with hpre | harms
    · obtain ⟨es₀, u, mid, rfl, hu, hmid, hno⟩ := h.armed armedAt hpre
      refine ⟨es₀, u, mid ++ [⟨r, op, r'⟩], by simp, hu, ?_, ?_⟩
      · exact List.forall_mem_append.2 ⟨hmid, List.forall_mem_singleton.2 hpre⟩
      · rw [← List.cons_append]
        exact List.forall_mem_append.2 ⟨hno, List.forall_mem_singleton.2 hwaits.none⟩
    · exact ⟨es, ⟨r, op, r'⟩, [], rfl, harms, by simp, List.forall_mem_singleton.2 hwaits.none⟩
  waiting := by
    intro target hrefused
    rcases hwaits.waiting target hrefused with ⟨nowMs, hlabel⟩ | ⟨hpre, hstart, hclear⟩
    · exact ⟨es, ⟨r, op, r'⟩, [], nowMs, rfl, hlabel, by simp⟩
    · obtain ⟨es₀, u, mid, nowMs, rfl, hu, hmid⟩ := h.waiting target hpre
      have hkind : (returned ⟨r, op, r'⟩).kind ≠ .start := fun hkind =>
        hwaits.none (retried_of_kind hkind nofun)
      refine ⟨es₀, u, mid ++ [⟨r, op, r'⟩], nowMs, by simp, hu, ?_⟩
      exact List.forall_mem_append.2 ⟨hmid, List.forall_mem_singleton.2 ⟨hstart, hclear, hkind⟩⟩
  left := hwaits.retries.trans h.left
  spent := by
    intro es₁ t mid he hmid
    rcases eq_or_mem_of_snoc he with ⟨rfl, rfl, rfl⟩ | ⟨mid', rfl, rfl⟩
    · simp [hwaits.none]
    · have hkept : r'.retries = r.retries := hwaits.kept (hmid _ (by simp))
      have hspent := h.spent es₁ t mid' rfl fun v hv => hmid v (List.mem_append_left _ hv)
      rw [hkept, ← List.cons_append, List.countP_append]
      simpa [hwaits.none] using hspent

lemma makes (h : History es r) {gate connectRequested : Bool} {balance : AccountBalance}
    {nowMs armedAt : ℤ}
    (hmakes : Makes ⟨r, op, r'⟩ gate connectRequested balance nowMs armedAt) :
    History (es ++ [⟨r, op, r'⟩]) r' where
  armed := by
    intro armedAt' harmed
    exact absurd (hmakes.disarmed.symm.trans harmed) nofun
  waiting := by
    intro target hrefused
    rcases hmakes.step with ⟨_, -, -, hnone⟩ | ⟨-, -, hnone, -⟩
    · exact absurd (hnone.symm.trans hrefused) nofun
    · exact absurd (hnone.symm.trans hrefused) nofun
  left := hmakes.left
  spent := by
    intro es₁ t mid he hmid
    rcases eq_or_mem_of_snoc he with ⟨rfl, rfl, rfl⟩ | ⟨mid', rfl, rfl⟩
    · exact List.countP_le_length.trans hmakes.counted
    · have hspent : r'.retries = r.retries + 1 := hmakes.spent (hmid _ (by simp))
      have hbefore := h.spent es₁ t mid' rfl fun v hv => hmid v (List.mem_append_left _ hv)
      rw [hspent, ← List.cons_append, List.countP_append]
      exact Nat.add_le_add hbefore List.countP_le_length

lemma of_run (h : BalanceRecovery.Runs es r) : History es r := by
  induction h with
  | nil h =>
    subst h
    exact ⟨nofun, nofun, Nat.zero_le _, fun _ _ _ he => absurd he (by simp)⟩
  | snoc _ hstep ih =>
    rcases call_cases hstep with hwaits | ⟨_, _, _, _, _, hmakes⟩
    · exact ih.waits hwaits
    · exact ih.makes hmakes

end History

/-- **The recovery's retries are bounded and always asked for.** -/
theorem retries_bounded_and_asked_for
    {es : List (Transition (BalanceRecovery Target) (Op Target))} {r : BalanceRecovery Target}
    (h : BalanceRecovery.Runs es r) : BoundedAndAskedFor es where
  bounded := by
    rintro es₁ t mid es₂ rfl hmid
    obtain ⟨r', hrun⟩ := h.of_append
    have hist := History.of_run hrun
    exact (hist.spent es₁ t mid rfl hmid).trans hist.left
  fresh := by
    intro es₁ t es₂ he hretried
    obtain ⟨hrun, hstep⟩ := h.split he
    rcases call_cases hstep with hwaits | ⟨gate, connectRequested, balance, nowMs, armedAt, hmakes⟩
    · exact absurd hretried hwaits.none
    · refine ⟨gate, connectRequested, balance, nowMs, armedAt, hmakes.label, hmakes.known,
        hmakes.enough, hmakes.fetched, ?_⟩
      rcases hmakes.armed with hpre | harms
      · obtain ⟨es₀, u, mid, hes, hu, hmid, hno⟩ := (History.of_run hrun).armed armedAt hpre
        refine .inr ⟨es₀, u, mid, hes, hu, ?_, hno⟩
        exact List.forall_mem_append.2 ⟨hmid, List.forall_mem_singleton.2 hpre⟩
      · exact .inl harms
  started := by
    intro es₁ t es₂ target he hret
    obtain ⟨hrun, hstep⟩ := h.split he
    rcases call_cases hstep with hwaits | ⟨gate, connectRequested, balance, nowMs, armedAt, hmakes⟩
    · exact absurd (retried_of_kind (congrArg (·.kind) hret) nofun) hwaits.none
    · rcases hmakes.step with ⟨target', hret', hpre, -⟩ | ⟨hret', -⟩
      · have heq : target' = target := congrArg (·.target) (hret'.symm.trans hret)
        exact (History.of_run hrun).waiting target (heq ▸ hpre)
      · exact absurd (congrArg (·.kind) (hret'.symm.trans hret)) nofun
  rebuilt := by
    intro es₁ t es₂ he hkind
    obtain ⟨hrun, hstep⟩ := h.split he
    rcases call_cases hstep with hwaits | ⟨gate, connectRequested, balance, nowMs, armedAt, hmakes⟩
    · exact absurd (retried_of_kind hkind nofun) hwaits.none
    · rcases hmakes.step with ⟨target, hret, -⟩ | ⟨-, -, -, rfl, rfl⟩
      · rw [hret] at hkind
        cases hkind
      · exact ⟨balance, nowMs, hmakes.label⟩

theorem retries_bounded_and_asked_for_start :
    ∃ es : List (Transition (BalanceRecovery ℕ) (Op ℕ)), BoundedAndAskedFor es ∧
      es.map (fun t => (returned t).kind) = [.none, .start] := by
  have h₀ : BalanceRecovery.Runs [] ({} : BalanceRecovery ℕ) := .nil rfl
  have h₁ := h₀.snoc (a := .startRefused 7 1000) rfl
  have h₂ := h₁.snoc (a := .observe true false
    { known := true, availableBytes := kRecoveryThresholdBytes, fetchedAtMs := 2000 } 2500) rfl
  refine ⟨_, retries_bounded_and_asked_for h₂, ?_⟩
  decide

end

end UrnetworkWindows.Balance
