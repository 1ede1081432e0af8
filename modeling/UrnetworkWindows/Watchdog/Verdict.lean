/-
The dead-tunnel verdict and the trackers that feed it (`DeadTunnelVerdict.h`).

Everything here is pure: a reading of the balance, of the packet counters or of
the provider window goes in, and the state of a tracker or a verdict comes out.
Timestamps are integers, with -1 for "never in this session"; the packet
counters are natural numbers.

`evaluate_reason` says once what a verdict other than `none` needs, and is all
the evaluator's proofs use of `evaluate`.
-/
import Mathlib.Tactic

namespace UrnetworkWindows.Watchdog

/-- `DeadTunnelSettings`. -/
structure DeadTunnelSettings where
  deadFastMillis : ℤ := 20000
  deadFastOutboundPackets : ℕ := 8
  deadSlowMillis : ℤ := 90000
  sdkUnresponsiveMillis : ℤ := 30000
  sdkUnresponsiveArmMillis : ℤ := 10000
  failsafeNoticeMillis : ℤ := 30000
deriving DecidableEq, Repr

/-- `StampInSession`: a stamp from before the session counts as never. -/
def stampInSession (stampMillis sessionStartMillis : ℤ) : ℤ :=
  if stampMillis ≥ sessionStartMillis then stampMillis else -1

/-! ### The balance hold -/

/-- `BalanceReading`. -/
structure BalanceReading where
  sampled : Bool := false
  insufficientBalance : Bool := false
  noPermission : Bool := false
  connectionGeneration : ℤ := 0
  providerAddedCount : ℤ := 0
deriving DecidableEq, Repr

/-- `BalanceStep`: what one reading did to the hold. -/
inductive BalanceStep
  | none
  | entered
  | released
deriving DecidableEq, Repr

/-- `OutOfBalanceHold`. -/
structure OutOfBalanceHold where
  held : Bool := false
  refusedGeneration : ℤ := 0
deriving DecidableEq, Repr

/-- `OutOfBalanceHold::Observe`. -/
def OutOfBalanceHold.observe (h : OutOfBalanceHold) (reading : BalanceReading) :
    BalanceStep × OutOfBalanceHold :=
  if !reading.sampled then (.none, h)
  else if reading.insufficientBalance then
    (if h.held then .none else .entered, ⟨true, reading.connectionGeneration⟩)
  else if !h.held || reading.noPermission then (.none, h)
  else if reading.connectionGeneration ≤ h.refusedGeneration ∨ reading.providerAddedCount > 0 then
    (.released, { h with held := false })
  else (.none, h)

/-! ### The packet-counter tracker -/

/-- `PacketCounters`: the pump's two counters. -/
structure PacketCounters where
  outbound : ℕ := 0
  inbound : ℕ := 0
deriving DecidableEq, Repr

/-- `TrafficTracker`. -/
structure TrafficTracker where
  lastOutbound : ℕ := 0
  lastInbound : ℕ := 0
  outboundAtLastInbound : ℕ := 0
  lastInboundMillis : ℤ := -1
deriving DecidableEq, Repr

namespace TrafficTracker

/-- `TrafficTracker::Reset`. -/
def reset (c : PacketCounters) : TrafficTracker := ⟨c.outbound, c.inbound, c.outbound, -1⟩

/-- `TrafficTracker::Observe`. -/
def observe (t : TrafficTracker) (c : PacketCounters) (nowMillis : ℤ) : TrafficTracker :=
  let t := if c.inbound > t.lastInbound then
      { t with lastInbound := c.inbound, lastInboundMillis := nowMillis,
               outboundAtLastInbound := c.outbound }
    else t
  if c.outbound > t.lastOutbound then { t with lastOutbound := c.outbound } else t

/-- `TrafficTracker::outboundSinceInbound`. -/
def outboundSinceInbound (t : TrafficTracker) : ℕ :=
  if t.lastOutbound > t.outboundAtLastInbound then t.lastOutbound - t.outboundAtLastInbound else 0

lemma observe_lastInbound (t : TrafficTracker) (c : PacketCounters) (nowMillis : ℤ) :
    (t.observe c nowMillis).lastInbound = max t.lastInbound c.inbound := by
  simp only [observe]
  split_ifs with hin hout hout
  · exact (max_eq_right (le_of_lt hin)).symm
  · exact (max_eq_right (le_of_lt hin)).symm
  · exact (max_eq_left (not_lt.1 hin)).symm
  · exact (max_eq_left (not_lt.1 hin)).symm

lemma observe_lastInboundMillis (t : TrafficTracker) (c : PacketCounters) (nowMillis : ℤ) :
    (t.observe c nowMillis).lastInboundMillis =
      if c.inbound > t.lastInbound then nowMillis else t.lastInboundMillis := by
  simp only [observe]
  split_ifs <;> rfl

end TrafficTracker

/-! ### The destination-generation tracker -/

/-- `ConnectionEpochUpdate`. -/
structure ConnectionEpochUpdate where
  verdictClockReset : Bool := false
  trafficClockReset : Bool := false
deriving DecidableEq, Repr

/-- `ConnectionEpochTracker`. -/
structure ConnectionEpochTracker where
  initialized : Bool := false
  forming : Bool := false
  connectionGeneration : ℤ := 0
deriving DecidableEq, Repr

namespace ConnectionEpochTracker

/-- `ConnectionEpochTracker::Observe`. -/
def observe (e : ConnectionEpochTracker) (connectionGeneration : ℤ) (minSatisfied : Bool) :
    ConnectionEpochUpdate × ConnectionEpochTracker :=
  if !e.initialized then ({}, ⟨true, !minSatisfied, connectionGeneration⟩)
  else if connectionGeneration < e.connectionGeneration then ({}, e)
  else if connectionGeneration > e.connectionGeneration then
    (⟨true, true⟩,
      { e with connectionGeneration := connectionGeneration, forming := !minSatisfied })
  else if e.forming && minSatisfied then (⟨false, true⟩, { e with forming := false })
  else ({}, e)

/-- `ConnectionEpochTracker::FastVerdictEligible`. -/
def fastVerdictEligible (e : ConnectionEpochTracker) : Bool := e.initialized && !e.forming

end ConnectionEpochTracker

/-! ### The verdict -/

/-- `DeadTunnelReason`. -/
inductive DeadTunnelReason
  | none
  | noExit
  | noInbound
  | sdkUnresponsive
deriving DecidableEq, Repr

/-- `DeadTunnelSignals`. -/
structure DeadTunnelSignals where
  tunnelUp : Bool := false
  routesInstalled : Bool := false
  upSinceMillis : ℤ := 0
  trafficStartMillis : ℤ := 0
  providerWindowReady : Bool := true
  provenCount : ℤ := 0
  lastProvenMillis : ℤ := -1
  lastSampleMillis : ℤ := -1
  lastInboundMillis : ℤ := -1
  outboundSinceInbound : ℕ := 0
  outOfBalance : Bool := false
deriving DecidableEq, Repr

/-- `DeadTunnelVerdict`. -/
structure DeadTunnelVerdict where
  reason : DeadTunnelReason := .none
  armed : Bool := false
  millisToFailsafe : ℤ := 0
deriving DecidableEq, Repr

/-- `detail::AgeSince`. -/
def ageSince (stampMillis upSinceMillis nowMillis : ℤ) : ℤ :=
  nowMillis - (if stampMillis < 0 then upSinceMillis else stampMillis)

/-- The `consider` of `Evaluate`: the earliest deadline so far, -1 for none. -/
def consider (soonest remaining : ℤ) : ℤ :=
  let remaining := if remaining < 0 then 0 else remaining
  if soonest < 0 ∨ remaining < soonest then remaining else soonest

/-- The end of `Evaluate`: nothing fired, and a countdown may be running. -/
def countdown (settings : DeadTunnelSettings) (sampleAge provenAge inboundAge : ℤ)
    (fastApplies slowApplies : Bool) : DeadTunnelVerdict :=
  let soonest : ℤ := -1
  let soonest := if sampleAge ≥ settings.sdkUnresponsiveArmMillis then
    consider soonest (settings.sdkUnresponsiveMillis - sampleAge) else soonest
  let soonest := if fastApplies then
    consider soonest (settings.deadFastMillis -
      (if inboundAge < provenAge then inboundAge else provenAge)) else soonest
  let soonest := if slowApplies then
    consider soonest (settings.deadSlowMillis - provenAge) else soonest
  if 0 ≤ soonest ∧ soonest ≤ settings.failsafeNoticeMillis then ⟨.none, true, soonest⟩ else {}

/-- `Evaluate`. -/
def evaluate (settings : DeadTunnelSettings) (s : DeadTunnelSignals) (nowMillis : ℤ) :
    DeadTunnelVerdict :=
  if !s.tunnelUp || !s.routesInstalled || decide (s.upSinceMillis ≤ 0) then {}
  else
    let sampleAge := ageSince s.lastSampleMillis s.upSinceMillis nowMillis
    let provenAge := ageSince s.lastProvenMillis s.upSinceMillis nowMillis
    let trafficStartMillis :=
      if s.trafficStartMillis > 0 then s.trafficStartMillis else s.upSinceMillis
    let inboundAge := ageSince s.lastInboundMillis trafficStartMillis nowMillis
    -- the carrying veto
    if s.lastInboundMillis ≥ 0 ∧ inboundAge < settings.deadFastMillis then {}
    else if sampleAge ≥ settings.sdkUnresponsiveMillis then { reason := .sdkUnresponsive }
    else
      let fastApplies := !s.outOfBalance && s.providerWindowReady && s.provenCount == 0 &&
        decide (s.outboundSinceInbound ≥ settings.deadFastOutboundPackets)
      if fastApplies ∧ inboundAge ≥ settings.deadFastMillis ∧ provenAge ≥ settings.deadFastMillis
      then { reason := .noInbound }
      else
        let slowApplies := !s.outOfBalance && s.provenCount == 0 && decide (s.lastSampleMillis ≥ 0)
        if slowApplies ∧ provenAge ≥ settings.deadSlowMillis then { reason := .noExit }
        else countdown settings sampleAge provenAge inboundAge fastApplies slowApplies

lemma countdown_reason (settings : DeadTunnelSettings) (sampleAge provenAge inboundAge : ℤ)
    (fastApplies slowApplies : Bool) :
    (countdown settings sampleAge provenAge inboundAge fastApplies slowApplies).reason = .none := by
  unfold countdown
  dsimp only
  generalize (if slowApplies then _ else _ : ℤ) = soonest
  split_ifs <;> rfl

lemma inbound_of_not_veto {settings : DeadTunnelSettings} {stampMillis startMillis nowMillis : ℤ}
    (h : ¬ (stampMillis ≥ 0 ∧ ageSince stampMillis startMillis nowMillis <
      settings.deadFastMillis)) (hin : 0 ≤ stampMillis) :
    settings.deadFastMillis ≤ nowMillis - stampMillis := by
  have hage : ageSince stampMillis startMillis nowMillis = nowMillis - stampMillis := by
    simp [ageSince, not_lt.2 hin]
  rw [hage] at h
  exact not_lt.1 fun hlt => h ⟨hin, hlt⟩

/-- **What a verdict needs**: the last inbound packet is out of the window, and one
of the two clocks that count from the session's start has run out. -/
theorem evaluate_reason {settings : DeadTunnelSettings} {s : DeadTunnelSignals} {nowMillis : ℤ}
    (h : (evaluate settings s nowMillis).reason ≠ .none) :
    (0 ≤ s.lastInboundMillis → settings.deadFastMillis ≤ nowMillis - s.lastInboundMillis) ∧
    (settings.sdkUnresponsiveMillis ≤ ageSince s.lastSampleMillis s.upSinceMillis nowMillis ∨
      settings.deadFastMillis ≤ ageSince s.lastProvenMillis s.upSinceMillis nowMillis ∨
      settings.deadSlowMillis ≤ ageSince s.lastProvenMillis s.upSinceMillis nowMillis) := by
  unfold evaluate at h
  dsimp only at h
  generalize (if s.trafficStartMillis > 0 then s.trafficStartMillis else s.upSinceMillis) = start
    at h
  split_ifs at h with hidle hveto hsample hfast hslow
  · exact absurd rfl h
  · exact absurd rfl h
  · exact ⟨inbound_of_not_veto hveto, .inl hsample⟩
  · exact ⟨inbound_of_not_veto hveto, .inr (.inl hfast.2.2)⟩
  · exact ⟨inbound_of_not_veto hveto, .inr (.inr hslow.2)⟩
  · exact absurd (countdown_reason _ _ _ _ _ _) h

lemma ageSince_stampInSession_le (stampMillis sessionStartMillis nowMillis : ℤ) :
    ageSince (stampInSession stampMillis sessionStartMillis) sessionStartMillis nowMillis ≤
      nowMillis - sessionStartMillis := by
  simp only [ageSince, stampInSession]
  split_ifs <;> omega

end UrnetworkWindows.Watchdog
