/-
The watchdog sampler's sleep (`NetworkChangeNotify.h`).

`PlanSamplerSleep` takes the soonest of the next sample and the windows that are open;
`SamplerSleepInterrupted` ends the sleep at a window that was not in the plan.  What a coalescer
remembers of its observations is `Heard`.
-/
import UrnetworkWindows.Watchdog.NetworkEvents

namespace UrnetworkWindows.Watchdog.Sampler

open Lib Watchdog.Network

/-- `SamplerSleep`. -/
structure SamplerSleep where
  waitMillis : ℤ := 0
  networkPending : Bool := false
  qualityPending : Bool := false
deriving DecidableEq, Repr

/-- The wait, with a window in it. -/
def waitFor (nowMillis : ℤ) (c : NotifyCoalescer) (waitMillis : ℤ) : ℤ :=
  if c.pending && c.deadlineMillis - nowMillis < waitMillis then c.deadlineMillis - nowMillis
  else waitMillis

/-- `PlanSamplerSleep`. -/
def planSamplerSleep (nowMillis nextSampleMillis : ℤ) (network quality : NotifyCoalescer) :
    SamplerSleep where
  waitMillis :=
    waitFor nowMillis quality (waitFor nowMillis network (nextSampleMillis - nowMillis))
  networkPending := network.pending
  qualityPending := quality.pending

/-- `SamplerSleepInterrupted`. -/
def samplerSleepInterrupted (plan : SamplerSleep) (network quality : NotifyCoalescer) : Bool :=
  (!plan.networkPending && network.pending) || (!plan.qualityPending && quality.pending)

/-! ### The sleep -/

/-- The coalescer of an observation. -/
inductive Side
  | network
  | quality
deriving DecidableEq, Repr

/-- The two coalescers of a channel. -/
structure Coalescers where
  network : NotifyCoalescer
  quality : NotifyCoalescer
deriving DecidableEq, Repr

namespace Coalescers

/-- An `Observe` of one of them. -/
def observe (cs : Coalescers) : Side × ℤ → Coalescers
  | (.network, nowMillis) => { cs with network := cs.network.observe nowMillis }
  | (.quality, nowMillis) => { cs with quality := cs.quality.observe nowMillis }

/-- The coalescers after so many observations. -/
def observeAll (cs : Coalescers) (observed : List (Side × ℤ)) : Coalescers :=
  observed.foldl observe cs

end Coalescers

variable {c c' : NotifyCoalescer} {nowMillis waitMillis : ℤ} {cs : Coalescers}

lemma waitFor_le : waitFor nowMillis c waitMillis ≤ waitMillis := by
  rw [waitFor]
  split_ifs with h
  · rw [Bool.and_eq_true, decide_eq_true_eq] at h
    exact h.2.le
  · rfl

lemma waitFor_le_deadline (hpending : c.pending = true) :
    nowMillis + waitFor nowMillis c waitMillis ≤ c.deadlineMillis := by
  rw [waitFor]
  split_ifs with h
  · omega
  · simp only [hpending, Bool.true_and, decide_eq_true_eq, not_lt] at h
    omega

lemma observe_of_pending (hpending : c.pending = true) :
    c.observe nowMillis = { c with coalesced := c.coalesced + 1 } := by
  rw [NotifyCoalescer.observe, if_pos hpending]

/-- What the observations of a sleep leave: an open window, with its deadline. -/
def Kept (c c' : NotifyCoalescer) : Prop :=
  c.pending = true → c'.pending = true ∧ c'.deadlineMillis = c.deadlineMillis

lemma Kept.refl : Kept c c := fun h => ⟨h, rfl⟩

lemma Kept.observe (h : Kept c c') : Kept c (c'.observe nowMillis) := by
  intro hpending
  obtain ⟨hpending', hdeadline⟩ := h hpending
  rw [observe_of_pending hpending']
  exact ⟨hpending', hdeadline⟩

lemma kept_observeAll (cs : Coalescers) (observed : List (Side × ℤ)) :
    Kept cs.network (cs.observeAll observed).network ∧
      Kept cs.quality (cs.observeAll observed).quality := by
  induction observed using List.reverseRecOn with
  | nil => exact ⟨.refl, .refl⟩
  | append_singleton observed o ih =>
    rw [Coalescers.observeAll, List.foldl_concat]
    obtain ⟨side, nowMillis⟩ := o
    cases side with
    | network => exact ⟨ih.1.observe, ih.2⟩
    | quality => exact ⟨ih.1, ih.2.observe⟩

/-- The deadline of an open window after the sleep: it is not before the end of the sleep, nor
before the sleep's beginning unless the window was overdue then. -/
structure NotSleptPast (nowMillis waitMillis : ℤ) (c c' : NotifyCoalescer) : Prop where
  deadline : c'.pending = true → nowMillis + waitMillis ≤ c'.deadlineMillis
  not_overdue : c'.pending = true → ¬ (c.pending = true ∧ c.deadlineMillis < nowMillis) →
    nowMillis + max waitMillis 0 ≤ c'.deadlineMillis

lemma notSleptPast (hkept : Kept c c') (hplan : c'.pending = true → c.pending = true)
    (hwait : c.pending = true → nowMillis + waitMillis ≤ c.deadlineMillis) :
    NotSleptPast nowMillis waitMillis c c' where
  deadline := by
    intro hpending
    rw [(hkept (hplan hpending)).2]
    exact hwait (hplan hpending)
  not_overdue := by
    intro hpending hoverdue
    have hle : nowMillis ≤ c.deadlineMillis := not_lt.1 fun h => hoverdue ⟨hplan hpending, h⟩
    rw [(hkept (hplan hpending)).2]
    rcases max_choice waitMillis 0 with hmax | hmax
    · rw [hmax]
      exact hwait (hplan hpending)
    · rw [hmax]
      omega

/-- What holds of a planned sleep with these observations in it, if nothing ends it. -/
structure SleptWell (nowMillis nextSampleMillis : ℤ) (cs cs' : Coalescers) : Prop where
  network : NotSleptPast nowMillis
    (planSamplerSleep nowMillis nextSampleMillis cs.network cs.quality).waitMillis
      cs.network cs'.network
  quality : NotSleptPast nowMillis
    (planSamplerSleep nowMillis nextSampleMillis cs.network cs.quality).waitMillis
      cs.quality cs'.quality
  sample : nowMillis +
    (planSamplerSleep nowMillis nextSampleMillis cs.network cs.quality).waitMillis ≤
      nextSampleMillis

lemma sleptWell (nowMillis nextSampleMillis : ℤ) (cs : Coalescers) (observed : List (Side × ℤ))
    (hinterrupted : samplerSleepInterrupted
      (planSamplerSleep nowMillis nextSampleMillis cs.network cs.quality)
        (cs.observeAll observed).network (cs.observeAll observed).quality = false) :
    SleptWell nowMillis nextSampleMillis cs (cs.observeAll observed) := by
  obtain ⟨hnetwork, hquality⟩ := kept_observeAll cs observed
  rw [samplerSleepInterrupted, Bool.or_eq_false_iff] at hinterrupted
  -- a window that is open now was in the plan
  have hplan : ∀ {b b' : Bool}, (!b && b') = false → b' = true → b = true := by decide
  have hwait : waitFor nowMillis cs.quality
      (waitFor nowMillis cs.network (nextSampleMillis - nowMillis)) ≤
        waitFor nowMillis cs.network (nextSampleMillis - nowMillis) := waitFor_le
  refine ⟨notSleptPast hnetwork (hplan hinterrupted.1) fun hpending => ?_,
    notSleptPast hquality (hplan hinterrupted.2) waitFor_le_deadline, ?_⟩
  · have hdeadline : nowMillis +
        waitFor nowMillis cs.network (nextSampleMillis - nowMillis) ≤ cs.network.deadlineMillis :=
      waitFor_le_deadline hpending
    exact (Int.add_le_add_left hwait nowMillis).trans hdeadline
  · have hnext : waitFor nowMillis cs.network (nextSampleMillis - nowMillis) ≤
        nextSampleMillis - nowMillis := waitFor_le
    show nowMillis + waitFor nowMillis cs.quality _ ≤ nextSampleMillis
    omega

/-! ### The bursts -/

/-- A call of a coalescer. -/
inductive Op
  | observe (nowMillis : ℤ)
  | takeDue (nowMillis : ℤ)
deriving DecidableEq, Repr

/-- The answer of a call, and the coalescer after it; an `Observe` has no answer. -/
def next (c : NotifyCoalescer) : Op → Bool × NotifyCoalescer
  | .observe nowMillis => (false, c.observe nowMillis)
  | .takeDue nowMillis => c.takeDue nowMillis

/-- A call, with the coalescer before and after it. -/
abbrev Call := Transition NotifyCoalescer Op

/-- The runs of a new coalescer of a window. -/
abbrev Runs (windowMillis : ℤ) : List Call → NotifyCoalescer → Prop :=
  Run (· = { windowMillis }) fun _ c op c' => (next c op).2 = c'

/-- The call is a `TakeDue` that answers true. -/
def taken (t : Call) : Bool := (next t.pre t.label).1

/-- The observation of a call. -/
def observation : Op → Option ℤ
  | .observe nowMillis => some nowMillis
  | .takeDue _ => none

/-- The observations since the last burst was taken, with one more call. -/
def heardAfter (heard : List ℤ) (t : Call) : List ℤ :=
  if taken t then [] else heard ++ (observation t.label).toList

/-- The observations since the last burst was taken, the first one first. -/
def heard (es : List Call) : List ℤ := es.foldl heardAfter []

variable {windowMillis : ℤ} {es : List Call} {t : Call}

@[simp] lemma heard_nil : heard [] = [] := rfl

@[simp] lemma heard_snoc : heard (es ++ [t]) = heardAfter (heard es) t :=
  List.foldl_concat ..

/-- The coalescer holds what was heard. -/
structure Heard (windowMillis : ℤ) (heard : List ℤ) (c : NotifyCoalescer) : Prop where
  window : c.windowMillis = windowMillis
  pending : c.pending = true ↔ heard ≠ []
  deadline : ∀ first ∈ heard.head?, c.deadlineMillis = first + windowMillis
  coalesced : c.coalesced = heard.length

lemma Heard.observe {hs : List ℤ} (h : Heard windowMillis hs c) (nowMillis : ℤ) :
    Heard windowMillis (hs ++ [nowMillis]) (c.observe nowMillis) := by
  rw [NotifyCoalescer.observe]
  split_ifs with hpending
  · obtain ⟨first, rest, rfl⟩ := List.exists_cons_of_ne_nil (h.pending.1 hpending)
    refine ⟨h.window, ?_, h.deadline, ?_⟩
    · simpa using hpending
    · simp [h.coalesced]
  · obtain rfl : hs = [] := by simpa [h.pending] using hpending
    refine ⟨h.window, by simp, ?_, by simp [h.coalesced]⟩
    rintro first hfirst
    obtain rfl : nowMillis = first := by simpa using hfirst
    rw [← h.window]

lemma Heard.takeDue_iff {hs : List ℤ} (h : Heard windowMillis hs c) (nowMillis : ℤ) :
    (c.takeDue nowMillis).1 = true ↔
      ∃ first ∈ hs.head?, first + windowMillis ≤ nowMillis := by
  have hdue : (c.takeDue nowMillis).1 = true ↔
      c.pending = true ∧ c.deadlineMillis ≤ nowMillis := by
    rw [NotifyCoalescer.takeDue]
    split_ifs with hdue
    · simp only [Bool.or_eq_true, Bool.not_eq_true', decide_eq_true_eq] at hdue
      refine ⟨fun h => absurd h (by simp), fun hyes => ?_⟩
      rcases hdue with hno | hlt
      · exact absurd (hno.symm.trans hyes.1) (by simp)
      · exact absurd hyes.2 (not_le.2 hlt)
    · simp only [Bool.or_eq_true, Bool.not_eq_true', decide_eq_true_eq, not_or, not_lt,
        Bool.not_eq_false] at hdue
      exact ⟨fun _ => hdue, fun _ => rfl⟩
  rw [hdue, h.pending]
  cases hs with
  | nil => simp
  | cons first rest => simp [h.deadline first rfl]

lemma takeDue_of_false (h : (c.takeDue nowMillis).1 = false) : (c.takeDue nowMillis).2 = c := by
  rw [NotifyCoalescer.takeDue] at h ⊢
  split_ifs at h ⊢ with hdue
  rfl

lemma takeDue_of_true (h : (c.takeDue nowMillis).1 = true) :
    (c.takeDue nowMillis).2 =
      { c with pending := false, lastBurstSize := c.coalesced, coalesced := 0 } := by
  rw [NotifyCoalescer.takeDue] at h ⊢
  split_ifs at h ⊢ with hdue
  rfl

lemma Heard.next {hs : List ℤ} (h : Heard windowMillis hs c) (op : Op)
    (hc : (Sampler.next c op).2 = c') : Heard windowMillis (heardAfter hs ⟨c, op, c'⟩) c' := by
  subst hc
  cases op with
  | observe nowMillis => exact h.observe nowMillis
  | takeDue nowMillis =>
    cases htaken : (c.takeDue nowMillis).1 with
    | true =>
      have hyes : taken ⟨c, .takeDue nowMillis, (Sampler.next c (.takeDue nowMillis)).2⟩ = true :=
        htaken
      rw [heardAfter, if_pos hyes, Sampler.next, takeDue_of_true htaken]
      exact ⟨h.window, by simp, by simp, rfl⟩
    | false =>
      have hnot : ¬ taken ⟨c, .takeDue nowMillis, (Sampler.next c (.takeDue nowMillis)).2⟩ =
        true := by simp [taken, Sampler.next, htaken]
      rw [heardAfter, if_neg hnot, Sampler.next, takeDue_of_false htaken]
      simpa [observation] using h

lemma heard_of_runs (hrun : Runs windowMillis es c) : Heard windowMillis (heard es) c := by
  refine hrun.invariant (P := fun es c => Heard windowMillis (heard es) c) ?_ ?_
  · rintro c rfl
    exact ⟨rfl, by simp, by simp, rfl⟩
  · intro es c op c' h hstep
    rw [heard_snoc]
    exact h.next op hstep

/-- A burst and its taking: its deadline is its first observation plus the window, it is taken
once and not before, and its size is the number of its observations. -/
structure Coalesces (windowMillis : ℤ) (heard : List ℤ) (c : NotifyCoalescer) : Prop where
  pending : c.pending = true ↔ heard ≠ []
  deadline : ∀ first ∈ heard.head?, c.deadlineMillis = first + windowMillis
  takes : ∀ nowMillis, (c.takeDue nowMillis).1 = true ↔
    ∃ first ∈ heard.head?, first + windowMillis ≤ nowMillis
  once : ∀ nowMillis, (c.takeDue nowMillis).1 = true → ∀ later,
    ((c.takeDue nowMillis).2.takeDue later).1 = false
  size : ∀ nowMillis, (c.takeDue nowMillis).1 = true →
    (c.takeDue nowMillis).2.lastBurstSize = heard.length

lemma Heard.coalesces {hs : List ℤ} (h : Heard windowMillis hs c) :
    Coalesces windowMillis hs c where
  pending := h.pending
  deadline := h.deadline
  takes := h.takeDue_iff
  once := by
    intro nowMillis htaken later
    rw [takeDue_of_true htaken]
    rfl
  size := by
    intro nowMillis htaken
    rw [takeDue_of_true htaken]
    exact h.coalesced

/-- The sampler is never asleep past a window: a sleep that nothing ended is over before the
deadline of every window that is open, and the coalescers keep a deadline for each burst, from its
first observation. -/
theorem never_asleep_past_window (nowMillis nextSampleMillis : ℤ) (cs : Coalescers)
    (observed : List (Side × ℤ))
    (hinterrupted : ∀ n, samplerSleepInterrupted
      (planSamplerSleep nowMillis nextSampleMillis cs.network cs.quality)
        (cs.observeAll (observed.take n)).network (cs.observeAll (observed.take n)).quality = false)
    (hrun : Runs windowMillis es c) :
    SleptWell nowMillis nextSampleMillis cs (cs.observeAll observed) ∧
      Coalesces windowMillis (heard es) c := by
  refine ⟨sleptWell nowMillis nextSampleMillis cs observed ?_, (heard_of_runs hrun).coalesces⟩
  simpa using hinterrupted observed.length

/-- An open window, observed again during the sleep. -/
theorem never_asleep_past_window_sample :
    let cs : Coalescers :=
      ⟨({ windowMillis := 750 } : NotifyCoalescer).observe 50, { windowMillis := 750 }⟩
    SleptWell 100 2100 cs (cs.observeAll [(.network, 300)]) ∧ Coalesces 750 [50] cs.network := by
  intro cs
  have hrun : Runs 750 [] { windowMillis := 750 } := .nil rfl
  refine never_asleep_past_window 100 2100 cs [(.network, 300)] ?_
    (hrun.snoc (a := .observe 50) rfl)
  intro n
  match n with
  | 0 => rfl
  | n + 1 =>
    rw [List.take_succ_cons, List.take_nil]
    rfl

/-- A window that was overdue when the sleep was planned. -/
theorem never_asleep_past_window_fails :
    ¬ ∀ (nowMillis nextSampleMillis : ℤ) (cs : Coalescers) (observed : List (Side × ℤ)),
      (∀ n, samplerSleepInterrupted
        (planSamplerSleep nowMillis nextSampleMillis cs.network cs.quality)
          (cs.observeAll (observed.take n)).network
            (cs.observeAll (observed.take n)).quality = false) →
        (cs.observeAll observed).network.pending = true →
          nowMillis +
            max (planSamplerSleep nowMillis nextSampleMillis cs.network cs.quality).waitMillis 0 ≤
              (cs.observeAll observed).network.deadlineMillis := by
  intro h
  exact absurd (h 751 2000 ⟨({ windowMillis := 750 } : NotifyCoalescer).observe 0,
    { windowMillis := 750 }⟩ [] (fun n => by rw [List.take_nil]; rfl) rfl) (by decide)

end UrnetworkWindows.Watchdog.Sampler
