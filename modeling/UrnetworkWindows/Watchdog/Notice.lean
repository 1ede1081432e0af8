/-
The notice before a verdict (`Evaluate`, `TunnelWatchdog::RunEvaluator`).

`Evaluate` arms the notice on a tick on which a countdown runs and is near its end.  The
carrying veto returns before the countdowns are looked at, and the clocks they count on
go on under it: when the veto lapses a window may have run out already, and the tunnel is
stopped with no notice at all (`fires_without_notice`).  The same happens to a rule whose
precondition comes true late, such as the packets of an idle machine.

`Follows` asks that a rule whose window has run out bore on the tick before, too, and
then that tick was armed.
-/
import UrnetworkWindows.Watchdog.Grace

namespace UrnetworkWindows.Watchdog

open Lib

/-! ### The rules of the verdict -/

/-- The rules of `Evaluate`. -/
inductive Rule
  | unresponsive
  | fast
  | slow
deriving DecidableEq, Repr

instance : Fintype Rule := ⟨{.unresponsive, .fast, .slow}, fun r => by cases r <;> simp⟩

section Signals

variable (d : DeadTunnelSettings) (s : DeadTunnelSignals) (nowMillis : ℤ)

/-- The age of the last inbound packet, or of the traffic generation. -/
def DeadTunnelSignals.inboundAge : ℤ :=
  ageSince s.lastInboundMillis
    (if s.trafficStartMillis > 0 then s.trafficStartMillis else s.upSinceMillis) nowMillis

/-- The tunnel is up, and no packet came back within the veto's window. -/
def DeadTunnelSignals.judgeable : Bool :=
  s.tunnelUp && s.routesInstalled && decide (0 < s.upSinceMillis) &&
    !(decide (s.lastInboundMillis ≥ 0) && decide (s.inboundAge nowMillis < d.deadFastMillis))

/-- The tunnel is judged and the rule applies to it. -/
def Rule.bears : Rule → Bool
  | unresponsive => s.judgeable d nowMillis
  | fast => s.judgeable d nowMillis && (!s.outOfBalance && s.providerWindowReady &&
      s.provenCount == 0 && decide (s.outboundSinceInbound ≥ d.deadFastOutboundPackets))
  | slow => s.judgeable d nowMillis &&
      (!s.outOfBalance && s.provenCount == 0 && decide (s.lastSampleMillis ≥ 0))

/-- How long the rule's countdown has run. -/
def Rule.elapsed : Rule → ℤ
  | unresponsive => ageSince s.lastSampleMillis s.upSinceMillis nowMillis
  | fast => min (s.inboundAge nowMillis) (ageSince s.lastProvenMillis s.upSinceMillis nowMillis)
  | slow => ageSince s.lastProvenMillis s.upSinceMillis nowMillis

/-- The rule's window. -/
def Rule.window : Rule → ℤ
  | unresponsive => d.sdkUnresponsiveMillis
  | fast => d.deadFastMillis
  | slow => d.deadSlowMillis

/-- The elapsed time from which the rule's countdown is shown, if it is near its end. -/
def Rule.shownFrom : Rule → Option ℤ
  | unresponsive => some d.sdkUnresponsiveArmMillis
  | fast | slow => none

end Signals

section Evaluate

variable {d : DeadTunnelSettings} {s : DeadTunnelSignals} {nowMillis : ℤ}

lemma evaluate_of_judgeable (h : s.judgeable d nowMillis = true) :
    evaluate d s nowMillis =
      if d.sdkUnresponsiveMillis ≤ Rule.unresponsive.elapsed s nowMillis then
        { reason := .sdkUnresponsive }
      else if Rule.fast.bears d s nowMillis ∧ d.deadFastMillis ≤ Rule.fast.elapsed s nowMillis then
        { reason := .noInbound }
      else if Rule.slow.bears d s nowMillis ∧ d.deadSlowMillis ≤ Rule.slow.elapsed s nowMillis then
        { reason := .noExit }
      else countdown d (Rule.unresponsive.elapsed s nowMillis) (Rule.slow.elapsed s nowMillis)
        (s.inboundAge nowMillis) (Rule.fast.bears d s nowMillis)
        (Rule.slow.bears d s nowMillis) := by
  have hfast : Rule.fast.bears d s nowMillis = (!s.outOfBalance && s.providerWindowReady &&
      s.provenCount == 0 && decide (s.outboundSinceInbound ≥ d.deadFastOutboundPackets)) := by
    rw [Rule.bears, h, Bool.true_and]
  have hslow : Rule.slow.bears d s nowMillis =
      (!s.outOfBalance && s.provenCount == 0 && decide (s.lastSampleMillis ≥ 0)) := by
    rw [Rule.bears, h, Bool.true_and]
  simp only [DeadTunnelSignals.judgeable, Bool.and_eq_true, decide_eq_true_eq, Bool.not_eq_true',
    Bool.and_eq_false_iff, decide_eq_false_iff_not] at h
  obtain ⟨⟨⟨hup, hroutes⟩, hsince⟩, hveto⟩ := h
  have hidle : ¬ (!s.tunnelUp || !s.routesInstalled || decide (s.upSinceMillis ≤ 0)) = true := by
    simp [hup, hroutes, hsince]
  have hnot : ¬ (s.lastInboundMillis ≥ 0 ∧ s.inboundAge nowMillis < d.deadFastMillis) := by
    rintro ⟨hin, hage⟩
    rcases hveto with hveto | hveto
    · exact hveto hin
    · exact hveto hage
  rw [hfast, hslow]
  simp only [DeadTunnelSignals.inboundAge] at hnot
  simp only [evaluate, if_neg hidle, Rule.elapsed, DeadTunnelSignals.inboundAge, le_min_iff]
  rw [if_neg hnot]
  rfl

lemma evaluate_of_not_judgeable (h : s.judgeable d nowMillis = false) :
    evaluate d s nowMillis = {} := by
  simp only [DeadTunnelSignals.judgeable, Bool.and_eq_false_iff, Bool.not_eq_false',
    Bool.and_eq_true, decide_eq_true_eq, decide_eq_false_iff_not] at h
  rw [evaluate]
  split
  · rfl
  next hidle =>
  simp only [Bool.or_eq_true, Bool.not_eq_true', decide_eq_true_eq, not_or, Bool.not_eq_false,
    not_le] at hidle
  obtain ⟨⟨hup, hroutes⟩, hsince⟩ := hidle
  rcases h with ((hno | hno) | hno) | hveto
  · exact absurd (hup.symm.trans hno) (by simp)
  · exact absurd (hroutes.symm.trans hno) (by simp)
  · exact absurd hsince hno
  · exact if_pos hveto

lemma Rule.judgeable_of_bears {rule : Rule} (h : rule.bears d s nowMillis = true) :
    s.judgeable d nowMillis = true := by
  cases rule with
  | unresponsive => exact h
  | fast | slow => exact (Bool.and_eq_true _ _ ▸ h).1

lemma exists_rule_of_reason (h : (evaluate d s nowMillis).reason ≠ .none) :
    ∃ rule : Rule, rule.bears d s nowMillis = true ∧ rule.window d ≤ rule.elapsed s nowMillis := by
  cases hjudge : s.judgeable d nowMillis with
  | false =>
    -- not up, or vetoed: nothing is told
    rw [evaluate_of_not_judgeable hjudge] at h
    exact absurd rfl h
  | true =>
    rw [evaluate_of_judgeable hjudge] at h
    split at h
    · next hage => exact ⟨.unresponsive, hjudge, hage⟩
    split at h
    · next hrule => exact ⟨.fast, hrule⟩
    split at h
    · next hrule => exact ⟨.slow, hrule⟩
    · exact absurd (countdown_reason _ _ _ _ _ _) h

lemma consider_le (soonest remaining : ℤ) : consider soonest remaining ≤ max remaining 0 := by
  simp only [consider]
  split_ifs <;> omega

lemma consider_nonneg (soonest remaining : ℤ) : 0 ≤ consider soonest remaining := by
  simp only [consider]
  split_ifs <;> omega

lemma consider_le_soonest {soonest : ℤ} (h : 0 ≤ soonest) (remaining : ℤ) :
    consider soonest remaining ≤ soonest := by
  simp only [consider]
  split_ifs <;> omega

lemma countdown_armed {sampleAge provenAge inboundAge : ℤ} {fastApplies slowApplies : Bool}
    (hnotice : 0 ≤ d.failsafeNoticeMillis)
    (h : (d.sdkUnresponsiveArmMillis ≤ sampleAge ∧
        d.sdkUnresponsiveMillis - sampleAge ≤ d.failsafeNoticeMillis) ∨
      (fastApplies = true ∧ d.deadFastMillis - min inboundAge provenAge ≤ d.failsafeNoticeMillis) ∨
      (slowApplies = true ∧ d.deadSlowMillis - provenAge ≤ d.failsafeNoticeMillis)) :
    (countdown d sampleAge provenAge inboundAge fastApplies slowApplies).armed = true := by
  have hmin : (if inboundAge < provenAge then inboundAge else provenAge) =
      min inboundAge provenAge := by
    rw [min_def]
    split_ifs <;> omega
  simp only [countdown, hmin]
  generalize hfirst : (if sampleAge ≥ d.sdkUnresponsiveArmMillis then
    consider (-1) (d.sdkUnresponsiveMillis - sampleAge) else -1) = first
  generalize hsecond : (if fastApplies = true then
    consider first (d.deadFastMillis - min inboundAge provenAge) else first) = second
  generalize hthird : (if slowApplies = true then
    consider second (d.deadSlowMillis - provenAge) else second) = third
  -- the earliest deadline survives the ones that are considered after it
  have hslow : 0 ≤ second → second ≤ d.failsafeNoticeMillis →
      0 ≤ third ∧ third ≤ d.failsafeNoticeMillis := by
    intro h0 hle
    rw [← hthird]
    split
    · exact ⟨consider_nonneg _ _, (consider_le_soonest h0 _).trans hle⟩
    · exact ⟨h0, hle⟩
  have hfast : 0 ≤ first → first ≤ d.failsafeNoticeMillis →
      0 ≤ second ∧ second ≤ d.failsafeNoticeMillis := by
    intro h0 hle
    rw [← hsecond]
    split
    · exact ⟨consider_nonneg _ _, (consider_le_soonest h0 _).trans hle⟩
    · exact ⟨h0, hle⟩
  have hthird' : 0 ≤ third ∧ third ≤ d.failsafeNoticeMillis := by
    rcases h with ⟨hage, hleft⟩ | ⟨happlies, hleft⟩ | ⟨happlies, hleft⟩
    · rw [if_pos hage] at hfirst
      have hle := consider_le (-1) (d.sdkUnresponsiveMillis - sampleAge)
      have h0 := consider_nonneg (-1) (d.sdkUnresponsiveMillis - sampleAge)
      rw [hfirst] at hle h0
      obtain ⟨h0', hle'⟩ := hfast h0 (by omega)
      exact hslow h0' hle'
    · rw [if_pos happlies] at hsecond
      have hle := consider_le first (d.deadFastMillis - min inboundAge provenAge)
      have h0 := consider_nonneg first (d.deadFastMillis - min inboundAge provenAge)
      rw [hsecond] at hle h0
      exact hslow h0 (by omega)
    · rw [if_pos happlies] at hthird
      have hle := consider_le second (d.deadSlowMillis - provenAge)
      have h0 := consider_nonneg second (d.deadSlowMillis - provenAge)
      rw [hthird] at hle h0
      exact ⟨h0, by omega⟩
  rw [if_pos hthird']

lemma evaluate_armed (hnotice : 0 ≤ d.failsafeNoticeMillis)
    (hreason : (evaluate d s nowMillis).reason = .none) {rule : Rule}
    (hbears : rule.bears d s nowMillis = true)
    (hshown : ∀ m ∈ rule.shownFrom d, m ≤ rule.elapsed s nowMillis)
    (hleft : rule.window d - rule.elapsed s nowMillis ≤ d.failsafeNoticeMillis) :
    (evaluate d s nowMillis).armed = true := by
  rw [evaluate_of_judgeable (Rule.judgeable_of_bears hbears)] at hreason ⊢
  split at hreason
  · exact absurd hreason (by simp)
  next hsdk =>
  split at hreason
  · exact absurd hreason (by simp)
  next hfast =>
  split at hreason
  · exact absurd hreason (by simp)
  next hslow =>
  rw [if_neg hsdk, if_neg hfast, if_neg hslow]
  refine countdown_armed hnotice ?_
  cases rule with
  | unresponsive => exact .inl ⟨hshown _ rfl, hleft⟩
  | fast => exact .inr (.inl ⟨hbears, hleft⟩)
  | slow => exact .inr (.inr ⟨hbears, hleft⟩)

end Evaluate

/-! ### Ticks -/

/-- The signals that a tick judges. -/
def signalsOf (e : Transition Watch Tick) : DeadTunnelSignals :=
  (e.pre.judged e.label).signals e.label

/-- The tick asks for a verdict, and the rule bears on it. -/
def Rule.bearsOn (settings : TunnelWatchdogSettings) (e : Transition Watch Tick) (rule : Rule) :
    Bool :=
  (e.pre.verdict settings e.label).isSome &&
    rule.bears settings.deadTunnel (signalsOf e) e.label.nowMillis

/-- The rule bears on the tick, and its window has run out. -/
def Rule.runOutOn (settings : TunnelWatchdogSettings) (e : Transition Watch Tick) (rule : Rule) :
    Bool :=
  rule.bearsOn settings e &&
    decide (rule.window settings.deadTunnel ≤ rule.elapsed (signalsOf e) e.label.nowMillis)

/-- What is asked of a tick after another: the sampler's stamps do not run backwards, the
ticks are at most 20 s apart, and a rule whose window has run out on it bore on the one
before. -/
def Follows (settings : TunnelWatchdogSettings) (e₀ e : Transition Watch Tick) : Prop :=
  (e₀.label.lastSampleMillis ≤ e.label.lastSampleMillis ∧
    e₀.label.lastProvenMillis ≤ e.label.lastProvenMillis) ∧
  e.label.nowMillis - e₀.label.nowMillis ≤ 20000 ∧
  ∀ rule : Rule, rule.runOutOn settings e = true → rule.bearsOn settings e₀ = true

instance (settings : TunnelWatchdogSettings) (e₀ e : Transition Watch Tick) :
    Decidable (Follows settings e₀ e) :=
  inferInstanceAs (Decidable ((_ ∧ _) ∧ _ ∧ ∀ _ : Rule, _ → _))

/-- No window has run out on the first tick, and every other one follows the one before
it. -/
def InSight (settings : TunnelWatchdogSettings) (es : List (Transition Watch Tick)) : Prop :=
  (∀ e ∈ es.head?, ∀ rule : Rule, rule.runOutOn settings e = false) ∧ es.IsChain (Follows settings)

/-- The tick is told that a countdown is near its end. -/
def Watch.armed (settings : TunnelWatchdogSettings) (w : Watch) (t : Tick) : Bool :=
  (w.verdict settings t).any DeadTunnelVerdict.armed

/-- Some tick of the list was armed, and no tick rebased since, nor does this one. -/
def Announced (settings : TunnelWatchdogSettings) (pre : List (Transition Watch Tick))
    (e : Transition Watch Tick) : Prop :=
  ∃ pre' e' mid, pre = pre' ++ e' :: mid ∧ e'.pre.armed settings e'.label = true ∧
    ∀ x ∈ mid ++ [e], x.pre.rebases settings x.label = false

section Step

variable {settings : TunnelWatchdogSettings} {w : Watch} {t : Tick}

lemma tick_eq_judged (hv : (w.verdict settings t).isSome = true)
    (hrunning : (w.tick settings t).status = .running) :
    w.tick settings t = w.judged t ∧
      (evaluate settings.deadTunnel ((w.judged t).signals t) t.nowMillis).reason = .none := by
  obtain ⟨v, hv⟩ := Option.isSome_iff_exists.1 hv
  obtain ⟨hskips, hcap, rfl⟩ := verdict_eq_some hv
  have hreason : (evaluate settings.deadTunnel ((w.judged t).signals t) t.nowMillis).reason =
      .none := by
    by_contra hne
    exact status_of_fires ⟨_, hv, hne⟩ hrunning
  refine ⟨?_, hreason⟩
  rw [tick_eq, hskips, hcap, if_neg (by simp), if_neg (by simp), Watch.judge, hreason]

lemma not_rebases_of_fires (hpos : 0 < settings.deadTunnel.shortest) (h : w.fires settings t) :
    w.rebases settings t = false := by
  by_contra hr
  rw [Bool.not_eq_false] at hr
  refine not_fires ?_ h
  rw [(tick_clocks settings w t).2.2, if_pos hr]
  omega

lemma ageSince_le {x x' : ℤ} (hx : x ≤ x') (start now now' : ℤ) :
    ageSince (stampInSession x' start) start now' - (now' - now) ≤
      ageSince (stampInSession x start) start now := by
  simp only [ageSince, stampInSession]
  split_ifs <;> omega

/-- The inbound stamp that a tick judges: a packet came in on it, it was reset, or it is
the old one. -/
lemma judged_lastInbound : (w.judged t).traffic.lastInboundMillis = t.nowMillis ∨
    (w.judged t).traffic.lastInboundMillis = -1 ∨
    (w.judged t).traffic.lastInboundMillis = w.traffic.lastInboundMillis := by
  simp only [Watch.judged, Watch.observeTraffic, Watch.observeWindow, Watch.noted]
  by_cases hc : w.counters = true
  · simp only [hc, if_true, Bool.true_and, TrafficTracker.observe_lastInboundMillis]
    split_ifs
    · exact .inl rfl
    · exact .inr (.inl rfl)
    · exact .inl rfl
    · exact .inr (.inr rfl)
  · rw [Bool.not_eq_true] at hc
    simp [hc]

lemma judged_trafficStart : (w.judged t).trafficStartMillis = t.nowMillis ∨
    (w.judged t).trafficStartMillis = w.trafficStartMillis := by
  have heq : (w.judged t).trafficStartMillis =
      if (w.connectionEpoch.observe t.connectionGeneration t.minSatisfied).1.trafficClockReset
      then t.nowMillis else w.trafficStartMillis := rfl
  rw [heq]
  split_ifs
  · exact .inl rfl
  · exact .inr rfl

lemma inboundAge_signals (w : Watch) (t : Tick) (nowMillis : ℤ) :
    (w.signals t).inboundAge nowMillis = ageSince w.traffic.lastInboundMillis
      (if w.trafficStartMillis > 0 then w.trafficStartMillis else w.sessionStartMillis) nowMillis :=
  rfl

lemma inboundAge_judged (now₀ : ℤ) (hnow : 0 < t.nowMillis)
    (hsession : (w.judged t).sessionStartMillis = w.sessionStartMillis)
    (hnone : w.traffic.lastInboundMillis < 0) (t₀ : Tick)
    (hage : 0 < ((w.judged t).signals t).inboundAge t.nowMillis) :
    ((w.judged t).signals t).inboundAge t.nowMillis - (t.nowMillis - now₀) =
      (w.signals t₀).inboundAge now₀ := by
  have hin := judged_lastInbound (w := w) (t := t)
  have hstart := judged_trafficStart (w := w) (t := t)
  rw [inboundAge_signals, hsession] at hage ⊢
  rw [inboundAge_signals]
  simp only [ageSince] at hage ⊢
  -- a packet that came in on this tick, or a new traffic generation, starts the clock again
  generalize (w.judged t).traffic.lastInboundMillis = stamp at *
  generalize (w.judged t).trafficStartMillis = start at *
  rw [if_pos hnone]
  rcases hstart with rfl | rfl
  · rw [if_pos hnow] at hage ⊢
    split_ifs at hage <;> omega
  · split_ifs at hage ⊢ <;> omega

lemma elapsed_before {t₀ : Tick} {rule : Rule}
    (hsession : (w.judged t).sessionStartMillis = w.sessionStartMillis)
    (hsample : t₀.lastSampleMillis ≤ t.lastSampleMillis)
    (hproven : t₀.lastProvenMillis ≤ t.lastProvenMillis) (hgap : t.nowMillis - t₀.nowMillis ≤ 20000)
    (hbears : rule.bears {} ((w.judged t).signals t) t.nowMillis = true)
    (hbears₀ : rule.bears {} (w.signals t₀) t₀.nowMillis = true)
    (hage : rule.window {} ≤ rule.elapsed ((w.judged t).signals t) t.nowMillis) :
    rule.window {} - 20000 ≤ rule.elapsed (w.signals t₀) t₀.nowMillis := by
  have hsampleAge := ageSince_le hsample w.sessionStartMillis t₀.nowMillis t.nowMillis
  have hprovenAge := ageSince_le hproven w.sessionStartMillis t₀.nowMillis t.nowMillis
  cases rule with
  | unresponsive | slow =>
    simp only [Rule.elapsed, Watch.signals, Rule.window, hsession] at hage ⊢
    omega
  | fast =>
    simp only [Rule.bears, Bool.and_eq_true] at hbears hbears₀
    have hup : 0 < w.sessionStartMillis := by
      have hjudge := hbears.1
      simp only [DeadTunnelSignals.judgeable, Bool.and_eq_true, decide_eq_true_eq] at hjudge
      exact hsession ▸ hjudge.1.2
    have hveto : ¬ ((w.signals t₀).lastInboundMillis ≥ 0 ∧
        (w.signals t₀).inboundAge t₀.nowMillis < 20000) := by
      have hjudge := hbears₀.1
      simp only [DeadTunnelSignals.judgeable, Bool.and_eq_true, Bool.not_eq_true',
        Bool.and_eq_false_iff, decide_eq_false_iff_not] at hjudge
      exact not_and_or.2 hjudge.2
    rw [Rule.window, Rule.elapsed, le_min_iff] at hage
    obtain ⟨hinbound, hage⟩ := hage
    replace hinbound : 20000 ≤ ((w.judged t).signals t).inboundAge t.nowMillis := hinbound
    simp only [Watch.signals, hsession] at hage
    have hle := ageSince_stampInSession_le t.lastProvenMillis w.sessionStartMillis t.nowMillis
    have hin : 0 ≤ (w.signals t₀).inboundAge t₀.nowMillis := by
      rcases lt_or_ge w.traffic.lastInboundMillis 0 with hnone | hsome
      · have heq := inboundAge_judged t₀.nowMillis (by omega) hsession hnone t₀ (by omega)
        omega
      · have hlong := not_lt.1 fun hlt => hveto ⟨hsome, hlt⟩
        omega
    rw [Rule.window, Rule.elapsed]
    refine le_min hin ?_
    simp only [Watch.signals]
    omega

/-- **A tick on which a window has run out follows one that was armed.** -/
lemma armed_of_follows {frozenMillis : ℤ} {e₀ e : Transition Watch Tick}
    (hpost : e.pre = e₀.pre.tick { frozenMillis } e₀.label) (hrunning : e.pre.status = .running)
    (hfollows : Follows { frozenMillis } e₀ e) (hfires : e.pre.fires { frozenMillis } e.label) :
    e₀.pre.armed { frozenMillis } e₀.label = true := by
  obtain ⟨⟨hsample, hproven⟩, hgap, hbore⟩ := hfollows
  have hshortest : (0 : ℤ) < DeadTunnelSettings.shortest {} := by decide
  have hrebases := not_rebases_of_fires hshortest hfires
  obtain ⟨v, hv, hreason⟩ := hfires
  obtain ⟨hskips, hcap, rfl⟩ := verdict_eq_some hv
  obtain ⟨rule, hbears, hage⟩ := exists_rule_of_reason hreason
  -- the same rule bore on the tick before, which left what it judged
  have hbefore : rule.bearsOn { frozenMillis } e₀ = true := by
    refine hbore rule ?_
    rw [Rule.runOutOn, Rule.bearsOn, hv, Bool.and_eq_true, Bool.and_eq_true, decide_eq_true_eq]
    exact ⟨⟨rfl, hbears⟩, hage⟩
  obtain ⟨hasked, hbears₀⟩ := (Bool.and_eq_true _ _ ▸ hbefore :)
  rw [hpost] at hrunning
  obtain ⟨hjudged, hnone⟩ := tick_eq_judged hasked hrunning
  have hpre : e.pre = e₀.pre.judged e₀.label := hpost.trans hjudged
  have hsession : (e.pre.judged e.label).sessionStartMillis = e.pre.sessionStartMillis := by
    rw [judged_session hskips hcap, (tick_clocks _ e.pre e.label).2.2, hrebases]
    rfl
  obtain ⟨v₀, hv₀⟩ := Option.isSome_iff_exists.1 hasked
  obtain ⟨-, -, rfl⟩ := verdict_eq_some hv₀
  have hleft := elapsed_before hsession hsample hproven hgap hbears (hpre ▸ hbears₀) hage
  rw [hpre] at hleft
  have hnotice : (0 : ℤ) ≤ 30000 := by decide
  rw [Watch.armed, hv₀, Option.any_some]
  refine evaluate_armed hnotice hnone hbears₀ (fun m hm => ?_) ?_
  · cases rule with
    | unresponsive =>
      cases hm
      exact hleft
    | fast | slow => exact absurd hm (Option.not_mem_none m)
  · show rule.window {} - rule.elapsed _ e₀.label.nowMillis ≤ 30000
    omega

end Step

/-! ### Runs -/

/-- **A verdict is announced**, in every run under the default thresholds in which no
window is found run out on the first tick, or under a rule that did not bear on the tick
before. -/
theorem verdict_announced (frozenMillis : ℤ) {es : List (Transition Watch Tick)} {w : Watch}
    (h : WatchRun { frozenMillis } es w) (hsight : InSight { frozenMillis } es) :
    ∀ pre e post, es = pre ++ e :: post → e.pre.fires { frozenMillis } e.label →
      Announced { frozenMillis } pre e := by
  rintro pre e post rfl hfires
  obtain ⟨hpre, hallow, -⟩ := Run.split h rfl
  obtain ⟨hrunning, -⟩ := allows_iff.1 hallow
  obtain ⟨hfirst, hchain⟩ := hsight
  rcases List.eq_nil_or_concat pre with rfl | ⟨pre', e₀, rfl⟩
  · -- on the first tick no window has run out
    exfalso
    obtain ⟨v, hv, hreason⟩ := hfires
    obtain ⟨-, -, rfl⟩ := verdict_eq_some hv
    obtain ⟨rule, hbears, hage⟩ := exists_rule_of_reason hreason
    have hnot := hfirst e rfl rule
    rw [Rule.runOutOn, Rule.bearsOn, hv, Bool.and_eq_false_iff, Bool.and_eq_false_iff,
      decide_eq_false_iff_not] at hnot
    rcases hnot with (hnot | hnot) | hnot
    · exact absurd hnot (by simp)
    · exact absurd (hbears.symm.trans hnot) (by simp)
    · exact hnot hage
  · rw [List.concat_eq_append] at hpre hchain ⊢
    have hlast : e₀.post = e.pre := Run.post_eq hpre
    obtain ⟨-, -, hpost⟩ := Run.split hpre rfl
    have hfollows : Follows { frozenMillis } e₀ e := by
      rw [List.append_assoc, List.singleton_append] at hchain
      exact (List.isChain_append.1 hchain).2.1.rel
    have hshortest : (0 : ℤ) < DeadTunnelSettings.shortest {} := by decide
    refine ⟨pre', e₀, [], rfl, ?_, fun x hx => ?_⟩
    · exact armed_of_follows (hlast.symm.trans hpost) hrunning hfollows hfires
    · rw [List.mem_singleton.1 hx]
      exact not_rebases_of_fires hshortest hfires

instance (settings : TunnelWatchdogSettings) (es : List (Transition Watch Tick)) :
    Decidable (InSight settings es) :=
  inferInstanceAs
    (Decidable ((∀ e ∈ es.head?, ∀ rule : Rule, rule.runOutOn settings e = false) ∧ _))

/-- The quiet session's last tick: the notice was given before it. -/
theorem verdict_announced_quiet :
    ∃ pre e, transitions (Watch.tick {}) quietStart quietTicks = pre ++ [e] ∧
      e.pre.fires {} e.label ∧ Announced {} pre e := by
  have hrun : WatchRun {} (transitions (Watch.tick {}) quietStart quietTicks)
      (quietTicks.foldl (Watch.tick {}) quietStart) :=
    WatchRun.of_ticks ⟨1, 1, 1, true, true, {}, by decide, rfl⟩ (by decide)
  refine ⟨(transitions (Watch.tick {}) quietStart quietTicks).take 7,
    ⟨_, sampleless 32001 1 true, _⟩, rfl, ?_, ?_⟩
  · exact ⟨_, rfl, by decide⟩
  · exact verdict_announced 5000 hrun (by decide) _ _ [] rfl ⟨_, rfl, by decide⟩

/-- Packets come in for sixteen seconds, then nothing does; the SDK never answers. -/
def wedgedTicks : List Tick :=
  [sampleless 4001 1 true, sampleless 8001 2 true, sampleless 12001 3 true,
    sampleless 16001 4 true, sampleless 20001 4 true, sampleless 24001 4 true,
    sampleless 28001 4 true, sampleless 32001 4 true, sampleless 36001 4 true]

/-- **A teardown without a notice**: the last packet vetoes every tick until the SDK has
been silent for longer than its window, so that the first tick that judges the tunnel
stops it. -/
theorem fires_without_notice :
    ¬ ∀ es w, WatchRun {} es w → ∀ pre e post, es = pre ++ e :: post →
      e.pre.fires {} e.label → Announced {} pre e := by
  intro h
  have hrun : WatchRun {} (transitions (Watch.tick {}) quietStart wedgedTicks)
      (wedgedTicks.foldl (Watch.tick {}) quietStart) :=
    WatchRun.of_ticks ⟨1, 1, 1, true, true, {}, by decide, rfl⟩ (by decide)
  obtain ⟨pre', e', mid, hpre, harmed, -⟩ := h _ _ hrun
    ((transitions (Watch.tick {}) quietStart wedgedTicks).take 8)
    ⟨_, sampleless 36001 4 true, _⟩ [] rfl ⟨_, rfl, by decide⟩
  have hnone : ∀ e ∈ (transitions (Watch.tick {}) quietStart wedgedTicks).take 8,
      e.pre.armed {} e.label = false := by decide
  have hnot := hnone e' (hpre ▸ List.mem_append_right _ List.mem_cons_self)
  exact absurd (harmed.symm.trans hnot) (by simp)

end UrnetworkWindows.Watchdog
