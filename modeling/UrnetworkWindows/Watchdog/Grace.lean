/-
The grace after a rebase (`TunnelWatchdog::RunEvaluator`, `Evaluate`).

A tick of the evaluator either rebases and goes on, hands the session over, or asks
`Evaluate`; `Watch.verdict` is what it asked and was told.  Here a tick may come at any
time after the last one, so freezes are part of the run, and nothing is asked of the
counters and of what the sampler published.

Every clock of the verdict counts from the session's start or later, and a stamp from
before it is folded out.  So all that a run has to keep is that the session's start is
no earlier than any rebase.
-/
import UrnetworkWindows.Watchdog.Evaluator

namespace UrnetworkWindows.Watchdog

open Lib

/-- The loop's variables once a tick has read the balance and the clock. -/
def Watch.noted (w : Watch) (t : Tick) : Watch :=
  { w with outOfBalance := (w.outOfBalance.observe t.balance).2, lastTickMillis := t.nowMillis }

/-- The loop's variables that a tick judges. -/
def Watch.judged (w : Watch) (t : Tick) : Watch := ((w.noted t).observeWindow t).observeTraffic t

/-- The tick is a freeze or a release: it starts every window again and asks nothing. -/
def Watch.skips (settings : TunnelWatchdogSettings) (w : Watch) (t : Tick) : Bool :=
  decide (t.nowMillis - w.lastTickMillis ≥ settings.frozenMillis) || w.releases t

/-- The verdict that a tick is told, if it asks for one. -/
def Watch.verdict (settings : TunnelWatchdogSettings) (w : Watch) (t : Tick) :
    Option DeadTunnelVerdict :=
  if w.skips settings t || t.captureTaken then none
  else some (evaluate settings.deadTunnel ((w.judged t).signals t) t.nowMillis)

/-- The tick rebases: a freeze, a release, or a newer destination generation. -/
def Watch.rebases (settings : TunnelWatchdogSettings) (w : Watch) (t : Tick) : Bool :=
  decide (t.nowMillis - w.lastTickMillis ≥ settings.frozenMillis) || w.restartsSession t

/-- The tick was told that the tunnel is dead. -/
def Watch.fires (settings : TunnelWatchdogSettings) (w : Watch) (t : Tick) : Prop :=
  ∃ v, w.verdict settings t = some v ∧ v.reason ≠ .none

section Tick

variable {settings : TunnelWatchdogSettings} {w : Watch} {t : Tick}

lemma tick_eq : w.tick settings t =
    if w.skips settings t then (w.noted t).rebase t
    else if t.captureTaken then { w.noted t with status := .handedOver }
    else (w.judged t).judge settings.deadTunnel t := by
  simp only [Watch.tick, Watch.skips, Watch.releases, Bool.or_eq_true, decide_eq_true_eq]
  by_cases hgap : t.nowMillis - w.lastTickMillis ≥ settings.frozenMillis
  · rw [if_pos hgap, if_pos (.inl hgap)]
    rfl
  by_cases hrel : (w.outOfBalance.observe t.balance).1 = .released
  · rw [if_neg hgap, if_pos hrel, if_pos (.inr hrel)]
    rfl
  · rw [if_neg hgap, if_neg hrel, if_neg (not_or.2 ⟨hgap, hrel⟩)]
    rfl

lemma judge_noted (d : DeadTunnelSettings) (v : Watch) :
    (v.judge d t).sessionStartMillis = v.sessionStartMillis ∧
      (v.judge d t).lastTickMillis = v.lastTickMillis ∧
      (v.judge d t).outOfBalance = v.outOfBalance := by
  rcases judge_cases d v t with heq | ⟨reason, heq, -⟩
  · rw [heq]
    exact ⟨rfl, rfl, rfl⟩
  · rw [heq]
    exact ⟨rfl, rfl, rfl⟩

lemma verdict_eq_some {v : DeadTunnelVerdict} (h : w.verdict settings t = some v) :
    w.skips settings t = false ∧ t.captureTaken = false ∧
      v = evaluate settings.deadTunnel ((w.judged t).signals t) t.nowMillis := by
  simp only [Watch.verdict, Option.ite_none_left_eq_some, Option.some.injEq, Bool.not_eq_true,
    Bool.or_eq_false_iff] at h
  exact ⟨h.1.1, h.1.2, h.2.symm⟩

lemma tick_clocks (settings : TunnelWatchdogSettings) (w : Watch) (t : Tick) :
    (w.tick settings t).lastTickMillis = t.nowMillis ∧
    (w.tick settings t).outOfBalance.held = (w.outOfBalance.observe t.balance).2.held ∧
    (w.tick settings t).sessionStartMillis =
      if w.rebases settings t then t.nowMillis else w.sessionStartMillis := by
  rw [tick_eq, Watch.rebases, Watch.restartsSession]
  cases hskips : w.skips settings t with
  | true =>
    have hrebases : (decide (t.nowMillis - w.lastTickMillis ≥ settings.frozenMillis) ||
        (w.releases t || (!t.captureTaken &&
          (w.connectionEpoch.observe t.connectionGeneration t.minSatisfied).1.verdictClockReset))) =
        true := by
      rw [← Bool.or_assoc, show (_ || w.releases t) = true from hskips, Bool.true_or]
    rw [if_pos rfl, if_pos hrebases]
    exact ⟨rfl, rfl, rfl⟩
  | false =>
    obtain ⟨hgap, hrel⟩ := Bool.or_eq_false_iff.1 hskips
    rw [if_neg (by simp), hgap, hrel, Bool.false_or, Bool.false_or]
    cases t.captureTaken with
    | true => exact ⟨rfl, rfl, rfl⟩
    | false =>
      rw [if_neg (by simp)]
      obtain ⟨hsession, hlast, hhold⟩ := judge_noted (t := t) settings.deadTunnel (w.judged t)
      exact ⟨hlast, congrArg OutOfBalanceHold.held hhold, hsession⟩

lemma judged_session (h : w.skips settings t = false) (hcap : t.captureTaken = false) :
    (w.judged t).sessionStartMillis = (w.tick settings t).sessionStartMillis := by
  rw [tick_eq, h, hcap, if_neg (by simp), if_neg (by simp)]
  exact (judge_noted settings.deadTunnel _).1.symm

lemma status_of_fires (h : w.fires settings t) : (w.tick settings t).status ≠ .running := by
  obtain ⟨v, hv, hreason⟩ := h
  obtain ⟨hskips, hcap, rfl⟩ := verdict_eq_some hv
  rw [tick_eq, hskips, hcap, if_neg (by simp), if_neg (by simp), Watch.judge]
  cases hr : (evaluate settings.deadTunnel ((w.judged t).signals t) t.nowMillis).reason with
  | none => exact absurd hr hreason
  | noExit | noInbound | sdkUnresponsive => simp

/-- The shortest of the verdict's windows. -/
def DeadTunnelSettings.shortest (settings : DeadTunnelSettings) : ℤ :=
  min (min settings.deadFastMillis settings.deadSlowMillis) settings.sdkUnresponsiveMillis

lemma not_fires (h : t.nowMillis < (w.tick settings t).sessionStartMillis +
    settings.deadTunnel.shortest) : ¬ w.fires settings t := by
  rintro ⟨v, hv, hreason⟩
  obtain ⟨hskips, hcap, rfl⟩ := verdict_eq_some hv
  rw [← judged_session hskips hcap] at h
  obtain ⟨-, hclock⟩ := evaluate_reason hreason
  have hsample := ageSince_stampInSession_le t.lastSampleMillis (w.judged t).sessionStartMillis
    t.nowMillis
  have hproven := ageSince_stampInSession_le t.lastProvenMillis (w.judged t).sessionStartMillis
    t.nowMillis
  simp only [DeadTunnelSettings.shortest] at h
  rcases hclock with hclock | hclock | hclock
  · have hage := hclock.trans hsample
    omega
  · have hage := hclock.trans hproven
    omega
  · have hage := hclock.trans hproven
    omega

lemma evaluate_outOfBalance {d : DeadTunnelSettings} {s : DeadTunnelSignals} {nowMillis : ℤ}
    (h : s.outOfBalance = true) : (evaluate d s nowMillis).reason = .none ∨
      (evaluate d s nowMillis).reason = .sdkUnresponsive := by
  unfold evaluate
  dsimp only
  generalize (if s.trafficStartMillis > 0 then s.trafficStartMillis else s.upSinceMillis) = start
  rw [h]
  simp only [Bool.not_true, Bool.false_and, Bool.false_eq_true, false_and, if_false]
  split
  · exact .inl rfl
  split
  · exact .inl rfl
  split
  · exact .inr rfl
  · exact .inl (countdown_reason _ _ _ _ _ _)

end Tick

/-! ### Runs -/

/-- The loop is running and the clock does not run backwards. -/
def goesOn (w : Watch) (t : Tick) : Bool :=
  w.status = .running && decide (w.lastTickMillis ≤ t.nowMillis)

/-- One tick, after any time. -/
def AnyStep (settings : TunnelWatchdogSettings) (_ : List (Transition Watch Tick)) (w : Watch)
    (t : Tick) (w' : Watch) : Prop :=
  goesOn w t = true ∧ w' = w.tick settings t

/-- The evaluator's runs, freezes included. -/
abbrev AnyRun (settings : TunnelWatchdogSettings) : List (Transition Watch Tick) → Watch → Prop :=
  Run Started (AnyStep settings)

/-- What a run keeps: the session's start is no earlier than any rebase, and a verdict
has ended the run. -/
structure GraceOk (settings : TunnelWatchdogSettings) (es : List (Transition Watch Tick))
    (w : Watch) : Prop where
  past : ∀ e ∈ es, e.label.nowMillis ≤ w.lastTickMillis
  rebased : ∀ e ∈ es, e.pre.rebases settings e.label = true →
    e.label.nowMillis ≤ w.sessionStartMillis
  ended : ∀ e ∈ es, e.pre.fires settings e.label → w.status ≠ .running
  grace : ∀ e ∈ es, e.pre.rebases settings e.label = true → ∀ e' ∈ es,
    e.label.nowMillis ≤ e'.label.nowMillis →
    e'.label.nowMillis < e.label.nowMillis + settings.deadTunnel.shortest →
      ¬ e'.pre.fires settings e'.label

lemma GraceOk.step {settings : TunnelWatchdogSettings} {es : List (Transition Watch Tick)}
    {w w' : Watch} {t : Tick} (h : GraceOk settings es w) (hs : AnyStep settings es w t w') :
    GraceOk settings (es ++ [⟨w, t, w'⟩]) w' := by
  obtain ⟨hgoes, rfl⟩ := hs
  simp only [goesOn, Bool.and_eq_true, decide_eq_true_eq] at hgoes
  obtain ⟨hrunning, hnow⟩ := hgoes
  obtain ⟨hlast, -, hsession⟩ := tick_clocks settings w t
  -- the session's start at the end is no earlier than any rebase, the last one included
  have hrebased : ∀ e ∈ es ++ [⟨w, t, w.tick settings t⟩], e.pre.rebases settings e.label = true →
      e.label.nowMillis ≤ (w.tick settings t).sessionStartMillis := by
    intro e he hr
    rw [hsession]
    rcases List.mem_append.1 he with he | he
    · split
      · exact (h.past e he).trans hnow
      · exact h.rebased e he hr
    · obtain rfl := List.mem_singleton.1 he
      rw [if_pos hr]
  constructor
  · intro e he
    rw [hlast]
    rcases List.mem_append.1 he with he | he
    · exact (h.past e he).trans hnow
    · rw [List.mem_singleton.1 he]
  · exact hrebased
  · intro e he hfires
    rcases List.mem_append.1 he with he | he
    · exact absurd hrunning (h.ended e he hfires)
    · obtain rfl := List.mem_singleton.1 he
      exact status_of_fires hfires
  · intro e he hr e' he' hle hlt
    rcases List.mem_append.1 he' with he' | he'
    · exact fun hfires => h.ended e' he' hfires hrunning
    · obtain rfl := List.mem_singleton.1 he'
      have hstart := hrebased e he hr
      refine not_fires ?_
      show t.nowMillis < (w.tick settings t).sessionStartMillis + settings.deadTunnel.shortest
      change t.nowMillis < _ at hlt
      omega

/-- **Every rebase grants a full fresh grace**, in every run: within the shortest window
after a freeze, a release or a newer destination generation no tick is told that the
tunnel is dead.  And out of balance a tick is told nothing but that the SDK is silent. -/
theorem grace_after_rebase (settings : TunnelWatchdogSettings) {es : List (Transition Watch Tick)}
    {w : Watch} (h : AnyRun settings es w) :
    (∀ e ∈ es, e.pre.rebases settings e.label = true → ∀ e' ∈ es,
      e.label.nowMillis ≤ e'.label.nowMillis →
      e'.label.nowMillis < e.label.nowMillis + settings.deadTunnel.shortest →
        ¬ e'.pre.fires settings e'.label) ∧
    ∀ e ∈ es, e.post.outOfBalance.held = true → ∀ v, e.pre.verdict settings e.label = some v →
      v.reason = .none ∨ v.reason = .sdkUnresponsive := by
  constructor
  · have hok := h.invariant (P := GraceOk settings)
      (fun _ _ => ⟨by simp, by simp, by simp, by simp⟩) (fun _ _ _ _ ih hs => ih.step hs)
    exact hok.grace
  · intro e he hheld v hv
    obtain ⟨pre, post, rfl⟩ := List.append_of_mem he
    obtain ⟨-, -, hpost⟩ := Run.split h rfl
    obtain ⟨-, -, rfl⟩ := verdict_eq_some hv
    rw [hpost, (tick_clocks settings e.pre e.label).2.1] at hheld
    exact evaluate_outOfBalance hheld

lemma AnyRun.of_ticks {settings : TunnelWatchdogSettings} {w : Watch} (hstart : Started w)
    {ts : List Tick} (h : allowed (Watch.tick settings) goesOn w ts = true) :
    AnyRun settings (transitions (Watch.tick settings) w ts)
      (ts.foldl (Watch.tick settings) w) :=
  Run.extend (fun _ _ _ hok => ⟨hok, rfl⟩) ts (.nil hstart) h

/-- The machine slept for a minute; since then the SDK has not answered. -/
def ticksAfterSleep : List Tick :=
  [60001, 64001, 68001, 72001, 76001, 80000].map fun now => sampleless now 1 true

theorem grace_after_sleep :
    AnyRun {} (transitions (Watch.tick {}) quietStart ticksAfterSleep)
      (ticksAfterSleep.foldl (Watch.tick {}) quietStart) ∧
    ∀ e ∈ transitions (Watch.tick {}) quietStart ticksAfterSleep,
      60001 ≤ e.label.nowMillis → e.label.nowMillis < 60001 + 20000 → ¬ e.pre.fires {} e.label := by
  have hrun : AnyRun {} (transitions (Watch.tick {}) quietStart ticksAfterSleep)
      (ticksAfterSleep.foldl (Watch.tick {}) quietStart) :=
    AnyRun.of_ticks ⟨1, 1, 1, true, true, {}, by decide, rfl⟩ (by decide)
  refine ⟨hrun, fun e he hle hlt => ?_⟩
  exact (grace_after_rebase {} hrun).1 _ List.mem_cons_self (by decide) e he hle hlt

end UrnetworkWindows.Watchdog
