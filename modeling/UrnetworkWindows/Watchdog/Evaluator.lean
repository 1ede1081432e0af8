/-
The evaluator's loop (`TunnelWatchdog::RunEvaluator`).

A tick reads what the channel, the sampler and the pump have published, and
either rebases every clock (after a freeze, or when contracts go through again),
hands the session to the capture handler, or judges the tunnel.  What a tick
reads is its label; what it computes from that is `Watch.tick`.

The carrying veto of the verdict is about one snapshot.  Over a run it rests on
the packet tracker, and the tracker forgets the last inbound packet whenever it
is reset.  `KeepsEvidence` says when a reset forgets nothing that still counts,
and `fired_after_silence` that such ticks never end in a verdict while packets come
back.  A generation that first becomes ready resets the tracker and leaves the
session clock running, and `fired_while_flowing` is a run that fires there, on a
tunnel that carried packets on every tick.
-/
import UrnetworkWindows.Lib.Trace
import UrnetworkWindows.Watchdog.Verdict

namespace UrnetworkWindows.Watchdog

open Lib

/-- The settings of `TunnelWatchdogSettings` the loop reads. -/
structure TunnelWatchdogSettings where
  deadTunnel : DeadTunnelSettings := {}
  frozenMillis : ℤ := 5000
deriving DecidableEq, Repr

/-- What one tick reads: the clock, the channel, the pump's counters at the place
where a reset loads them and at the place where `Observe` does, the heartbeat's
state, what the sampler published, and whether a capture handler took a ready
ticket. -/
structure Tick where
  nowMillis : ℤ
  connectionGeneration : ℤ
  minSatisfied : Bool
  balance : BalanceReading
  atReset : PacketCounters
  atObserve : PacketCounters
  captureTaken : Bool
  tunnelUp : Bool
  provenCount : ℤ
  lastProvenMillis : ℤ
  lastSampleMillis : ℤ
deriving DecidableEq, Repr

/-- Whether the loop goes on. -/
inductive Status
  | running
  | handedOver
  | fired (reason : DeadTunnelReason)
deriving DecidableEq, Repr

/-- The loop's variables.  `counters` says that there is a pump to read, and
`observed` is what the last tick read from it. -/
structure Watch where
  sessionStartMillis : ℤ
  trafficStartMillis : ℤ
  lastTickMillis : ℤ
  traffic : TrafficTracker
  connectionEpoch : ConnectionEpochTracker
  outOfBalance : OutOfBalanceHold
  counters : Bool
  observed : PacketCounters
  status : Status
deriving DecidableEq, Repr

namespace Watch

/-- The loop is entered. -/
def start (upSinceMillis nowMillis connectionGeneration : ℤ) (minSatisfied counters : Bool)
    (c : PacketCounters) : Watch where
  sessionStartMillis := upSinceMillis
  trafficStartMillis := upSinceMillis
  lastTickMillis := nowMillis
  traffic := if counters then .reset c else {}
  connectionEpoch := (ConnectionEpochTracker.observe {} connectionGeneration minSatisfied).2
  outOfBalance := {}
  counters := counters
  observed := c
  status := .running

/-- Every window starts again from now, after a freeze or a release. -/
def rebase (w : Watch) (t : Tick) : Watch :=
  { w with
    sessionStartMillis := t.nowMillis
    trafficStartMillis := t.nowMillis
    traffic := if w.counters then .reset t.atReset else w.traffic
    observed := if w.counters then t.atReset else w.observed
    connectionEpoch := (w.connectionEpoch.observe t.connectionGeneration t.minSatisfied).2 }

/-- What the provider window changes. -/
def observeWindow (w : Watch) (t : Tick) : Watch :=
  let update := (w.connectionEpoch.observe t.connectionGeneration t.minSatisfied).1
  { w with
    connectionEpoch := (w.connectionEpoch.observe t.connectionGeneration t.minSatisfied).2
    sessionStartMillis := if update.verdictClockReset then t.nowMillis else w.sessionStartMillis
    trafficStartMillis := if update.trafficClockReset then t.nowMillis else w.trafficStartMillis
    traffic := if w.counters && update.trafficClockReset then .reset t.atReset else w.traffic }

/-- What the pump changes. -/
def observeTraffic (w : Watch) (t : Tick) : Watch :=
  { w with
    traffic := if w.counters then w.traffic.observe t.atObserve t.nowMillis else w.traffic
    observed := if w.counters then t.atObserve else w.observed }

/-- The signals of a tick. -/
def signals (w : Watch) (t : Tick) : DeadTunnelSignals where
  tunnelUp := t.tunnelUp
  routesInstalled := t.tunnelUp
  upSinceMillis := w.sessionStartMillis
  trafficStartMillis := w.trafficStartMillis
  providerWindowReady := w.connectionEpoch.fastVerdictEligible
  provenCount := t.provenCount
  lastProvenMillis := stampInSession t.lastProvenMillis w.sessionStartMillis
  lastSampleMillis := stampInSession t.lastSampleMillis w.sessionStartMillis
  lastInboundMillis := w.traffic.lastInboundMillis
  outboundSinceInbound := w.traffic.outboundSinceInbound
  outOfBalance := w.outOfBalance.held

/-- The verdict of a tick, and whether the loop goes on after it. -/
def judge (settings : DeadTunnelSettings) (w : Watch) (t : Tick) : Watch :=
  match (evaluate settings (w.signals t) t.nowMillis).reason with
  | .none => w
  | reason => { w with status := .fired reason }

/-- One turn of the loop. -/
def tick (settings : TunnelWatchdogSettings) (w : Watch) (t : Tick) : Watch :=
  let step := w.outOfBalance.observe t.balance
  let gap := t.nowMillis - w.lastTickMillis
  let w := { w with outOfBalance := step.2, lastTickMillis := t.nowMillis }
  if gap ≥ settings.frozenMillis then w.rebase t
  else if step.1 = .released then w.rebase t
  else if t.captureTaken then { w with status := .handedOver }
  else ((w.observeWindow t).observeTraffic t).judge settings.deadTunnel t

end Watch

/-! ### Runs -/

/-- What a tick may be: the loop is running, the clock and the counters do not run
backwards, and the tick is not a freeze. -/
def allows (settings : TunnelWatchdogSettings) (w : Watch) (t : Tick) : Bool :=
  w.status = .running && decide (w.lastTickMillis ≤ t.nowMillis) &&
    decide (t.nowMillis - w.lastTickMillis < settings.frozenMillis) &&
    decide (w.observed.inbound ≤ t.atReset.inbound) &&
    decide (t.atReset.inbound ≤ t.atObserve.inbound) &&
    decide (w.observed.outbound ≤ t.atReset.outbound) &&
    decide (t.atReset.outbound ≤ t.atObserve.outbound)

/-- One tick. -/
def WatchStep (settings : TunnelWatchdogSettings) (_ : List (Transition Watch Tick)) (w : Watch)
    (t : Tick) (w' : Watch) : Prop :=
  allows settings w t = true ∧ w' = w.tick settings t

/-- A watch that was just started; the steady clock counts from boot. -/
def Started (w : Watch) : Prop :=
  ∃ upSinceMillis nowMillis generation minSatisfied counters c, 0 ≤ nowMillis ∧
    w = Watch.start upSinceMillis nowMillis generation minSatisfied counters c

/-- The evaluator's runs. -/
abbrev WatchRun (settings : TunnelWatchdogSettings) :
    List (Transition Watch Tick) → Watch → Prop :=
  Run Started (WatchStep settings)

/-! ### The evidence a tick may forget -/

/-- The tick releases the balance hold. -/
def Watch.releases (w : Watch) (t : Tick) : Bool :=
  (w.outOfBalance.observe t.balance).1 = .released

/-- The tick resets the packet tracker: a release, a new destination generation,
or the first time a generation's window is ready. -/
def Watch.resetsTracker (w : Watch) (t : Tick) : Bool :=
  w.counters && (w.releases t || (!t.captureTaken &&
    (w.connectionEpoch.observe t.connectionGeneration t.minSatisfied).1.trafficClockReset))

/-- The tick restarts the session clock: a release or a new destination
generation. -/
def Watch.restartsSession (w : Watch) (t : Tick) : Bool :=
  w.releases t || (!t.captureTaken &&
    (w.connectionEpoch.observe t.connectionGeneration t.minSatisfied).1.verdictClockReset)

/-- An inbound packet is on record within the veto's window, or has come in since
the last tick. -/
def Watch.freshInbound (settings : DeadTunnelSettings) (w : Watch) (t : Tick) : Bool :=
  (decide (0 ≤ w.traffic.lastInboundMillis) &&
      decide (t.nowMillis - w.traffic.lastInboundMillis < settings.deadFastMillis)) ||
    decide (w.observed.inbound < t.atReset.inbound)

/-- A reset of the tracker forgets nothing that still counts: there is no fresh
inbound packet to forget, or the session clock restarts with it and no rule can
fire before the veto's window has passed again. -/
def KeepsEvidence (settings : DeadTunnelSettings) (w : Watch) (t : Tick) : Prop :=
  w.resetsTracker t = true → w.freshInbound settings t = false ∨
    (w.restartsSession t = true ∧ settings.deadFastMillis ≤ settings.sdkUnresponsiveMillis ∧
      settings.deadFastMillis ≤ settings.deadSlowMillis)

/-- The tick read a higher inbound counter than the tick before it. -/
def Rises (e : Transition Watch Tick) : Prop := e.pre.observed.inbound < e.post.observed.inbound

instance : DecidablePred Rises := fun e =>
  inferInstanceAs (Decidable (e.pre.observed.inbound < e.post.observed.inbound))

/-! ### One tick -/

section Step

variable {settings : TunnelWatchdogSettings} {w : Watch} {t : Tick}

lemma allows_iff : allows settings w t = true ↔ w.status = .running ∧
    w.lastTickMillis ≤ t.nowMillis ∧ t.nowMillis - w.lastTickMillis < settings.frozenMillis ∧
    w.observed.inbound ≤ t.atReset.inbound ∧ t.atReset.inbound ≤ t.atObserve.inbound ∧
    w.observed.outbound ≤ t.atReset.outbound ∧ t.atReset.outbound ≤ t.atObserve.outbound := by
  simp only [allows, Bool.and_eq_true, decide_eq_true_eq, and_assoc]

lemma judge_cases (d : DeadTunnelSettings) (w : Watch) (t : Tick) :
    w.judge d t = w ∨ ∃ reason, w.judge d t = { w with status := .fired reason } ∧
      (evaluate d (w.signals t) t.nowMillis).reason ≠ .none := by
  unfold Watch.judge
  cases h : (evaluate d (w.signals t) t.nowMillis).reason with
  | none => exact .inl rfl
  | noExit => exact .inr ⟨.noExit, rfl, by simp⟩
  | noInbound => exact .inr ⟨.noInbound, rfl, by simp⟩
  | sdkUnresponsive => exact .inr ⟨.sdkUnresponsive, rfl, by simp⟩

/-- What a tick that is not a freeze does to the tracker and the session clock. -/
structure TickEffect (settings : TunnelWatchdogSettings) (w : Watch) (t : Tick) (w' : Watch) :
    Prop where
  lastTick : w'.lastTickMillis = t.nowMillis
  session : w'.sessionStartMillis =
    if w.restartsSession t then t.nowMillis else w.sessionStartMillis
  counters : w'.counters = w.counters
  blind : w.counters = false → w'.observed = w.observed ∧
    w'.traffic.lastInboundMillis = w.traffic.lastInboundMillis
  /-- The tracker reads the counter after a reset, or after what it held before. -/
  observes : w.counters = true → ∃ base : TrafficTracker,
    base = (if w.resetsTracker t then .reset t.atReset else w.traffic) ∧
    ((w'.traffic.lastInbound = base.lastInbound ∧
        w'.traffic.lastInboundMillis = base.lastInboundMillis ∧
        w'.observed.inbound = if w.resetsTracker t then t.atReset.inbound
          else w.observed.inbound) ∨
      (w'.traffic.lastInbound = max base.lastInbound t.atObserve.inbound ∧
        w'.traffic.lastInboundMillis = (if t.atObserve.inbound > base.lastInbound then t.nowMillis
          else base.lastInboundMillis) ∧
        w'.observed.inbound = t.atObserve.inbound))
  fired : ∀ reason, w'.status = .fired reason → w.status = .fired reason ∨
    (evaluate settings.deadTunnel (w'.signals t) t.nowMillis).reason ≠ .none

theorem tick_effect (h : allows settings w t = true) :
    TickEffect settings w t (w.tick settings t) := by
  obtain ⟨hrun, -, hgap, -⟩ := allows_iff.1 h
  have hgap' : ¬ t.nowMillis - w.lastTickMillis ≥ settings.frozenMillis := not_le.2 hgap
  unfold Watch.tick
  simp only [hgap', if_false]
  by_cases hrel : (w.outOfBalance.observe t.balance).1 = .released
  · -- a release: every clock restarts and nothing is judged
    have hrel' : w.releases t = true := by simp [Watch.releases, hrel]
    simp only [hrel, if_true]
    refine ⟨rfl, ?_, rfl, fun hc => ?_, fun hc => ⟨_, rfl, .inl ?_⟩,
      fun reason hfired => .inl hfired⟩
    · simp [Watch.rebase, Watch.restartsSession, hrel']
    · simp [Watch.rebase, hc]
    · simp [Watch.rebase, Watch.resetsTracker, hc, hrel']
  have hrel' : w.releases t = false := by simp [Watch.releases, hrel]
  simp only [hrel, if_false]
  cases htaken : t.captureTaken with
  | true =>
    -- the capture handler has the session: nothing is measured
    simp only [if_true]
    refine ⟨rfl, ?_, rfl, fun _ => ⟨rfl, rfl⟩, fun hc => ⟨_, rfl, .inl ?_⟩, fun reason hfired => ?_⟩
    · simp [Watch.restartsSession, hrel', htaken]
    · simp [Watch.resetsTracker, hrel', htaken]
    · exact absurd hfired (by simp)
  | false =>
    simp only [Bool.false_eq_true, if_false]
    generalize hv : Watch.observeTraffic (Watch.observeWindow _ t) t = v
    have hjudged : TickEffect settings w t v := by
      subst hv
      refine ⟨rfl, ?_, rfl, fun hc => ?_, fun hc => ⟨_, rfl, .inr ?_⟩,
        fun reason hfired => .inl hfired⟩
      · simp [Watch.observeTraffic, Watch.observeWindow, Watch.restartsSession, hrel', htaken]
      · simp [Watch.observeTraffic, Watch.observeWindow, hc]
      · simp [Watch.observeTraffic, Watch.observeWindow, Watch.resetsTracker, hc, hrel', htaken,
          TrafficTracker.observe_lastInbound, TrafficTracker.observe_lastInboundMillis]
    rcases judge_cases settings.deadTunnel v t with heq | ⟨reason, heq, hreason⟩
    · rw [heq]
      exact hjudged
    · rw [heq]
      exact { hjudged with fired := fun _ _ => .inr hreason }

end Step

/-! ### Whole runs -/

/-- A rise of the inbound counter at that time still counts: the tracker has it or
a later one, or the session clock restarted since, or it is out of the window. -/
def Kept (settings : DeadTunnelSettings) (w : Watch) (millis : ℤ) : Prop :=
  (0 ≤ w.traffic.lastInboundMillis ∧ millis ≤ w.traffic.lastInboundMillis) ∨
  (millis ≤ w.sessionStartMillis ∧ settings.deadFastMillis ≤ settings.sdkUnresponsiveMillis ∧
    settings.deadFastMillis ≤ settings.deadSlowMillis) ∨
  millis + settings.deadFastMillis ≤ w.lastTickMillis

/-- The clocks a verdict has seen run out. -/
def RanOut (settings : DeadTunnelSettings) (w : Watch) : Prop :=
  (0 ≤ w.traffic.lastInboundMillis →
    settings.deadFastMillis ≤ w.lastTickMillis - w.traffic.lastInboundMillis) ∧
  (settings.sdkUnresponsiveMillis ≤ w.lastTickMillis - w.sessionStartMillis ∨
    settings.deadFastMillis ≤ w.lastTickMillis - w.sessionStartMillis ∨
    settings.deadSlowMillis ≤ w.lastTickMillis - w.sessionStartMillis)

/-- The invariant of a run that keeps its evidence from a time on. -/
structure Evidence (settings : DeadTunnelSettings) (since : ℤ) (es : List (Transition Watch Tick))
    (w : Watch) : Prop where
  clock : 0 ≤ w.lastTickMillis
  past : ∀ e ∈ es, e.label.nowMillis ≤ w.lastTickMillis
  tracked : w.counters = true → w.traffic.lastInbound = w.observed.inbound
  kept : ∀ e ∈ es, since < e.label.nowMillis → Rises e → Kept settings w e.label.nowMillis
  fired : ∀ reason, w.status = .fired reason → RanOut settings w

section Invariant

variable {settings : TunnelWatchdogSettings} {since : ℤ} {w w' : Watch} {t : Tick}

lemma ranOut_of_reason (hlast : w.lastTickMillis = t.nowMillis)
    (h : (evaluate settings.deadTunnel (w.signals t) t.nowMillis).reason ≠ .none) :
    RanOut settings.deadTunnel w := by
  obtain ⟨hin, hclock⟩ := evaluate_reason h
  have hsample := ageSince_stampInSession_le t.lastSampleMillis w.sessionStartMillis t.nowMillis
  have hproven := ageSince_stampInSession_le t.lastProvenMillis w.sessionStartMillis t.nowMillis
  refine ⟨fun h0 => ?_, ?_⟩
  · rw [hlast]
    exact hin h0
  · rw [hlast]
    rcases hclock with hclock | hclock | hclock
    · exact .inl (hclock.trans hsample)
    · exact .inr (.inl (hclock.trans hproven))
    · exact .inr (.inr (hclock.trans hproven))

lemma kept_of_kept (heff : TickEffect settings w t w') (hnow : w.lastTickMillis ≤ t.nowMillis)
    (h0 : 0 ≤ w.lastTickMillis) (hkeeps : KeepsEvidence settings.deadTunnel w t) {millis : ℤ}
    (hpast : millis ≤ w.lastTickMillis) (h : Kept settings.deadTunnel w millis) :
    Kept settings.deadTunnel w' millis := by
  have hlast := heff.lastTick
  have hsession : w.sessionStartMillis ≤ w'.sessionStartMillis ∨
      w'.sessionStartMillis = t.nowMillis := by
    rw [heff.session]
    split_ifs
    · exact .inr rfl
    · exact .inl le_rfl
  rcases h with ⟨hin0, hin⟩ | ⟨hstart, hwin⟩ | hold
  · -- the tracker has the rise: either it still does, or the reset was harmless
    cases hc : w.counters with
    | false =>
      refine .inl ?_
      rw [(heff.blind hc).2]
      exact ⟨hin0, hin⟩
    | true =>
      obtain ⟨base, hbase, hobs⟩ := heff.observes hc
      cases hreset : w.resetsTracker t with
      | false =>
        simp only [hreset, Bool.false_eq_true, if_false] at hbase hobs
        subst hbase
        rcases hobs with ⟨-, hmillis, -⟩ | ⟨-, hmillis, -⟩
        · exact .inl (by rw [hmillis]; exact ⟨hin0, hin⟩)
        · refine .inl ?_
          rw [hmillis]
          split_ifs
          · exact ⟨by omega, by omega⟩
          · exact ⟨hin0, hin⟩
      | true =>
        rcases hkeeps hreset with hfresh | ⟨hrestart, hwin⟩
        · refine .inr (.inr ?_)
          simp only [Watch.freshInbound, Bool.or_eq_false_iff, Bool.and_eq_false_iff,
            decide_eq_false_iff_not] at hfresh
          omega
        · refine .inr (.inl ⟨?_, hwin⟩)
          rw [heff.session, if_pos hrestart]
          omega
  · refine .inr (.inl ⟨?_, hwin⟩)
    omega
  · exact .inr (.inr (by omega))

lemma kept_of_rises (heff : TickEffect settings w t w') (hnow : 0 ≤ t.nowMillis)
    (htracked : w.counters = true → w.traffic.lastInbound = w.observed.inbound)
    (hload : w.observed.inbound ≤ t.atReset.inbound)
    (hkeeps : KeepsEvidence settings.deadTunnel w t)
    (hrises : w.observed.inbound < w'.observed.inbound) :
    Kept settings.deadTunnel w' t.nowMillis := by
  cases hc : w.counters with
  | false =>
    rw [(heff.blind hc).1] at hrises
    exact absurd hrises (lt_irrefl _)
  | true =>
    have htr := htracked hc
    obtain ⟨base, hbase, hobs⟩ := heff.observes hc
    cases hreset : w.resetsTracker t with
    | false =>
      simp only [hreset, Bool.false_eq_true, if_false] at hbase hobs
      subst hbase
      rcases hobs with ⟨-, -, hread⟩ | ⟨-, hmillis, hread⟩
      · omega
      · refine .inl ?_
        rw [hmillis, if_pos (by omega)]
        exact ⟨hnow, le_rfl⟩
    | true =>
      simp only [hreset, if_true] at hbase hobs
      rcases hkeeps hreset with hfresh | ⟨hrestart, hwin⟩
      · -- nothing came in before the reset, so the rise is after it
        have hnone : ¬ w.observed.inbound < t.atReset.inbound := by
          simp only [Watch.freshInbound, Bool.or_eq_false_iff, decide_eq_false_iff_not] at hfresh
          exact hfresh.2
        subst hbase
        rcases hobs with ⟨-, -, hread⟩ | ⟨-, hmillis, hread⟩
        · omega
        · refine .inl ?_
          have hgt : t.atObserve.inbound > (TrafficTracker.reset t.atReset).lastInbound := by
            show t.atReset.inbound < t.atObserve.inbound
            omega
          rw [hmillis, if_pos hgt]
          exact ⟨hnow, le_rfl⟩
      · refine .inr (.inl ⟨?_, hwin⟩)
        rw [heff.session, if_pos hrestart]

lemma tracked_of_effect (heff : TickEffect settings w t w')
    (htracked : w.counters = true → w.traffic.lastInbound = w.observed.inbound)
    (hload : w.observed.inbound ≤ t.atReset.inbound)
    (hload' : t.atReset.inbound ≤ t.atObserve.inbound) (hc' : w'.counters = true) :
    w'.traffic.lastInbound = w'.observed.inbound := by
  have hc : w.counters = true := heff.counters ▸ hc'
  have htr := htracked hc
  obtain ⟨base, hbase, hobs⟩ := heff.observes hc
  cases hreset : w.resetsTracker t <;> simp only [hreset, Bool.false_eq_true, if_false, if_true]
    at hbase hobs <;> subst hbase
  · rcases hobs with ⟨hlast, -, hread⟩ | ⟨hlast, -, hread⟩ <;> rw [hlast, hread] <;> omega
  · rcases hobs with ⟨hlast, -, hread⟩ | ⟨hlast, -, hread⟩
    · rw [hlast, hread]
      rfl
    · rw [hlast, hread]
      exact max_eq_right hload'

/-- **The evidence survives a tick that keeps it.** -/
lemma evidence_step {es : List (Transition Watch Tick)}
    (h : Evidence settings.deadTunnel since es w) (hallow : allows settings w t = true)
    (hkeeps : since < t.nowMillis → KeepsEvidence settings.deadTunnel w t) :
    Evidence settings.deadTunnel since (es ++ [⟨w, t, w.tick settings t⟩]) (w.tick settings t) := by
  have heff := tick_effect hallow
  obtain ⟨hrun, hnow, -, hload, hload', -⟩ := allows_iff.1 hallow
  have hnow0 : 0 ≤ t.nowMillis := h.clock.trans hnow
  refine ⟨?_, ?_, tracked_of_effect heff h.tracked hload hload', ?_, ?_⟩
  · rw [heff.lastTick]
    exact hnow0
  · intro e he
    rw [heff.lastTick]
    rcases List.mem_append.1 he with he | he
    · exact (h.past e he).trans hnow
    · rw [List.mem_singleton.1 he]
  · intro e he hsince hrises
    rcases List.mem_append.1 he with he | he
    · have hlater : since < t.nowMillis := hsince.trans_le ((h.past e he).trans hnow)
      exact kept_of_kept heff hnow h.clock (hkeeps hlater) (h.past e he) (h.kept e he hsince hrises)
    · rw [List.mem_singleton.1 he] at hsince hrises ⊢
      exact kept_of_rises heff hnow0 h.tracked hload (hkeeps hsince) hrises
  · intro reason hfired
    rcases heff.fired reason hfired with hbefore | hreason
    · rw [hrun] at hbefore
      exact absurd hbefore (by simp)
    · exact ranOut_of_reason heff.lastTick hreason

lemma evidence_start {w : Watch} (h : Started w) : Evidence settings.deadTunnel since [] w := by
  obtain ⟨upSince, now, generation, minSatisfied, counters, c, hnow, rfl⟩ := h
  refine ⟨hnow, by simp, fun hc => ?_, by simp, fun reason hfired => ?_⟩
  · have hc : counters = true := hc
    simp [Watch.start, hc, TrafficTracker.reset]
  · exact absurd hfired (by simp [Watch.start])

end Invariant

/-- **The failsafe fires only after silence.**  Where all the ticks in the veto's window
keep their evidence, a fired verdict finds none among them that read a higher inbound
counter than the tick before it. -/
theorem fired_after_silence (settings : TunnelWatchdogSettings)
    {es : List (Transition Watch Tick)} {w : Watch} (h : WatchRun settings es w)
    (hkeeps : ∀ e ∈ es, w.lastTickMillis - settings.deadTunnel.deadFastMillis < e.label.nowMillis →
      KeepsEvidence settings.deadTunnel e.pre e.label)
    {reason : DeadTunnelReason} (hfired : w.status = .fired reason) :
    ∀ e ∈ es, Rises e →
      ¬ (w.lastTickMillis - settings.deadTunnel.deadFastMillis < e.label.nowMillis ∧
        e.label.nowMillis ≤ w.lastTickMillis) := by
  generalize hsince : w.lastTickMillis - settings.deadTunnel.deadFastMillis = since at hkeeps ⊢
  have hev : Evidence settings.deadTunnel since es w := by
    refine @Run.invariant _ _ _ _ es w
      (fun es w => (∀ e ∈ es, since < e.label.nowMillis →
          KeepsEvidence settings.deadTunnel e.pre e.label) →
        Evidence settings.deadTunnel since es w) (fun _ hs _ => evidence_start hs) ?_ h hkeeps
    rintro es w t w' ih ⟨hallow, rfl⟩ hall
    exact evidence_step (ih fun e he => hall e (List.mem_append_left _ he)) hallow
      (hall ⟨w, t, w.tick settings t⟩ (by simp))
  rintro e he hrises ⟨hlow, -⟩
  obtain ⟨hin, hclock⟩ := hev.fired reason hfired
  rcases hev.kept e he hlow hrises with ⟨hin0, hle⟩ | ⟨hle, hfast, hslow⟩ | hold
  · have := hin hin0
    omega
  · omega
  · omega

/-! ### Two runs without samples

A session that came up at 1 ms, ticking every four seconds; the SDK never answers
the sampler. -/

/-- A tick of the session: `n` packets have come in so far. -/
def sampleless (nowMillis : ℤ) (n : ℕ) (minSatisfied : Bool) : Tick where
  nowMillis := nowMillis
  connectionGeneration := 1
  minSatisfied := minSatisfied
  balance := {}
  atReset := ⟨n, n⟩
  atObserve := ⟨n, n⟩
  captureTaken := false
  tunnelUp := true
  provenCount := 0
  lastProvenMillis := -1
  lastSampleMillis := -1

/-- Packets come in for one tick, then nothing does. -/
def quietTicks : List Tick :=
  [4001, 8001, 12001, 16001, 20001, 24001, 28001, 32001].map fun now => sampleless now 1 true

/-- A packet comes in on every tick; the window is first ready on the last. -/
def flowingTicks : List Tick :=
  [sampleless 4001 1 false, sampleless 8001 2 false, sampleless 12001 3 false,
    sampleless 16001 4 false, sampleless 20001 5 false, sampleless 24001 6 false,
    sampleless 28001 7 false, sampleless 32001 8 true]

def quietStart : Watch := .start 1 1 1 true true {}

def flowingStart : Watch := .start 1 1 1 false true {}

lemma WatchRun.of_ticks {settings : TunnelWatchdogSettings} {w : Watch} (hstart : Started w)
    {ts : List Tick} (h : allowed (Watch.tick settings) (allows settings) w ts = true) :
    WatchRun settings (transitions (Watch.tick settings) w ts)
      (ts.foldl (Watch.tick settings) w) :=
  Run.extend (fun _ _ _ hok => ⟨hok, rfl⟩) ts (.nil hstart) h

theorem fired_after_silence_quiet :
    (quietTicks.foldl (Watch.tick {}) quietStart).status = .fired .sdkUnresponsive ∧
    ∀ e ∈ transitions (Watch.tick {}) quietStart quietTicks, Rises e →
      ¬ (32001 - 20000 < e.label.nowMillis ∧ e.label.nowMillis ≤ 32001) :=
  have hrun : WatchRun {} (transitions (Watch.tick {}) quietStart quietTicks)
      (quietTicks.foldl (Watch.tick {}) quietStart) :=
    WatchRun.of_ticks ⟨1, 1, 1, true, true, {}, by decide, rfl⟩ (by decide)
  have hkeeps : ∀ e ∈ transitions (Watch.tick {}) quietStart quietTicks,
      e.pre.resetsTracker e.label = false := by decide
  ⟨by decide, fired_after_silence {} hrun
    (fun e he _ hreset => absurd hreset (by rw [hkeeps e he]; simp))
    (show _ = Status.fired .sdkUnresponsive by decide)⟩

/-- **The failsafe fires on a tunnel that carries**: the window is first ready on a
tick that comes more than thirty seconds into a session without samples, and the
reset of the tracker takes the veto away on that very tick. -/
theorem fired_while_flowing :
    WatchRun {} (transitions (Watch.tick {}) flowingStart flowingTicks)
      (flowingTicks.foldl (Watch.tick {}) flowingStart) ∧
    (flowingTicks.foldl (Watch.tick {}) flowingStart).status = .fired .sdkUnresponsive ∧
    (flowingTicks.foldl (Watch.tick {}) flowingStart).lastTickMillis = 32001 ∧
    ∃ e ∈ transitions (Watch.tick {}) flowingStart flowingTicks, Rises e ∧
      (32001 : ℤ) - (DeadTunnelSettings.deadFastMillis {}) < e.label.nowMillis ∧
      e.label.nowMillis ≤ 32001 :=
  ⟨WatchRun.of_ticks ⟨1, 1, 1, false, true, {}, by decide, rfl⟩ (by decide), by decide, by decide,
    by decide⟩

end UrnetworkWindows.Watchdog
