/-
Network changes across watchdog replacements (`CaptureReadiness.h`, `TunnelWatchdog.cpp`,
`NetworkChangeNotify.h`).

The session counts the network changes and which of them the device was told about.  A
watchdog's channel holds the edge: an open window of its coalescer, which its sampler takes
when it is due.  The egress monitor's handler counts a change and then notes it on the
channel it finds; `Start` and `Stop` replace the channel, and `Start` notes again what the
session still has pending.  Each of these is a party that takes its next statement on its
own; a note takes the watchdog's lock, then the channel's, which the sampler holds from
`TakeDue` to `PendingNetworkEvent`.  `Start` and `Stop` run under the session lock, one at
a time, and their waits for a thread may give up, so they leave nothing behind here.

All channels are for one session.  The calls of the session that have nothing to do with
the network are steps too.  Left out are the radio-quality coalescer, the samples of the
exits, the evaluator, whose own report after a sleep goes to its own channel, and `Cancel`,
which the failsafe calls on the watchdog of a session it has cancelled.
-/
import UrnetworkWindows.Capture.Readiness

namespace UrnetworkWindows.Watchdog.Network

open Lib Capture

/-! ### The coalescer -/

/-- `NotifyCoalescer`. -/
structure NotifyCoalescer where
  windowMillis : ℤ
  pending : Bool := false
  deadlineMillis : ℤ := 0
  coalesced : ℤ := 0
  lastBurstSize : ℤ := 0
deriving DecidableEq, Repr

namespace NotifyCoalescer

/-- `Observe`. -/
def observe (c : NotifyCoalescer) (nowMillis : ℤ) : NotifyCoalescer :=
  if c.pending then { c with coalesced := c.coalesced + 1 }
  else
    { c with
      coalesced := c.coalesced + 1
      pending := true
      deadlineMillis := nowMillis + c.windowMillis }

/-- `TakeDue`. -/
def takeDue (c : NotifyCoalescer) (nowMillis : ℤ) : Bool × NotifyCoalescer :=
  if !c.pending || nowMillis < c.deadlineMillis then (false, c)
  else (true, { c with pending := false, lastBurstSize := c.coalesced, coalesced := 0 })

@[simp] lemma observe_pending (c : NotifyCoalescer) (nowMillis : ℤ) :
    (c.observe nowMillis).pending = true := by
  unfold observe
  split
  next h => exact h
  next => rfl

end NotifyCoalescer

/-! ### The parties -/

/-- The next statement of a channel's sampler, with the event it has read. -/
inductive SamplerAt
  | unstarted
  | waiting
  | took
  | loading (event : Option CaptureNetworkEpoch)
  | calling (event : CaptureNetworkEpoch)
  | marking (event : CaptureNetworkEpoch)
  | returned
  | done
deriving DecidableEq, Repr

/-- `WatchdogChannel`, as far as the network changes go. -/
structure WatchdogChannel where
  cancelled : Bool := false
  device : Bool := true
  coalescer : NotifyCoalescer
  sampler : SamplerAt := .unstarted
deriving DecidableEq, Repr

/-- The next statement of `NoteNetworkEvent`, with the channel it has found. -/
inductive NoteAt
  | reading
  | checking (channel : ℕ)
  | matching (channel : ℕ)
  | locking (channel : ℕ)
  | done
deriving DecidableEq, Repr

/-- The next statement of the egress monitor's handler; `revision` is the one its
`NetworkChanged` counted to. -/
inductive HandlerAt
  | entering
  | recording (eventMillis : ℤ)
  | noting (revision : ℕ) (eventMillis : ℤ) (note : NoteAt)
  | done
deriving DecidableEq, Repr

/-- The next statement of `Start`, which begins with `Stop`, or of `Stop` alone. -/
inductive ControlAt
  | idle
  | detaching (start : Bool)
  | cancelling (channel : ℕ) (start : Bool)
  | clearing (channel : ℕ) (start : Bool)
  | attaching
  | replaying (channel : ℕ)
  | asking (channel : ℕ)
  | noting (channel : ℕ) (eventMillis : ℤ) (note : NoteAt)
  | spawning (channel : ℕ)
deriving DecidableEq, Repr

/-- The session, the channels there have been, and the parties.  `channel` is `channel_`. -/
structure Service where
  settings : CaptureReadinessSettings := {}
  windowMillis : ℤ := 750
  session : CaptureReadiness := {}
  channels : List WatchdogChannel := []
  channel : Option ℕ := none
  handlers : List HandlerAt := []
  control : ControlAt := .idle
deriving DecidableEq, Repr

/-- The network changes and a handler is entered, or takes its next step, with what the
clock says; a sampler takes its next step; `Start` or `Stop` is called, or takes its next
step; the session is used for something else. -/
inductive Pick
  | networkEvent
  | handler (k : ℕ) (clock : ℤ)
  | sampler (i : ℕ) (clock : ℤ)
  | call (start : Bool)
  | control
  | session (call : Call)
deriving DecidableEq, Repr

/-! ### The steps -/

/-- The next step of `NoteNetworkEvent`. -/
def noteStep (s : Service) (eventMillis : ℤ) : NoteAt → Option (NoteAt × Service)
  | .reading =>
    match s.channel with
    | none => some (.done, s)
    | some i => some (.checking i, s)
  | .checking i =>
    match s.channels[i]? with
    | none => none
    | some c => some (if c.cancelled then .done else .matching i, s)
  | .matching i => some (if s.session.cancelled then .done else .locking i, s)
  | .locking i =>
    match s.channels[i]? with
    | none => none
    | some c =>
      if c.sampler = .took then none
      else if c.cancelled then some (.done, s)
      else some (.done, { s with
        channels := s.channels.set i { c with coalescer := c.coalescer.observe eventMillis } })
  | .done => none

/-- The next step of the egress monitor's handler. -/
def handlerStep (clock : ℤ) (s : Service) : HandlerAt → Option (HandlerAt × Service)
  | .entering => some (if s.session.cancelled then .done else .recording clock, s)
  | .recording eventMillis =>
    some (.noting (s.session.networkRevision + 1) eventMillis .reading,
      { s with session := s.session.networkChanged eventMillis })
  | .noting revision eventMillis note =>
    (noteStep s eventMillis note).map fun r =>
      (if r.1 = .done then .done else .noting revision eventMillis r.1, r.2)
  | .done => none

/-- The next step of a channel's sampler, and what it makes of the session. -/
def samplerStep (clock : ℤ) (session : CaptureReadiness) (c : WatchdogChannel) :
    Option (WatchdogChannel × CaptureReadiness) :=
  match c.sampler with
  | .unstarted => none
  | .waiting =>
    if c.cancelled then some ({ c with sampler := .done }, session)
    else
      let r := c.coalescer.takeDue clock
      some ({ c with coalescer := r.2, sampler := if r.1 then .took else .loading none }, session)
  | .took => some ({ c with sampler := .loading session.pendingNetworkEvent }, session)
  | .loading event =>
    if !c.device then some ({ c with sampler := .done }, session)
    else
      match event with
      | some event => some ({ c with sampler := .calling event }, session)
      | none => some ({ c with sampler := .returned }, session)
  | .calling event => some ({ c with sampler := .marking event }, session)
  | .marking event =>
    some ({ c with sampler := .returned }, session.networkEventHandled event)
  | .returned =>
    some ({ c with sampler := if c.cancelled || !c.device then .done else .waiting }, session)
  | .done => none

/-- The next step of `Start` or `Stop`. -/
def controlStep (s : Service) : Option Service :=
  match s.control with
  | .idle => none
  | .detaching start =>
    some { s with
      channel := none
      control := match s.channel with
        | some i => .cancelling i start
        | none => if start then .attaching else .idle }
  | .cancelling i start =>
    s.channels[i]?.map fun c => { s with
      channels := s.channels.set i { c with cancelled := true }
      control := .clearing i start }
  | .clearing i start =>
    s.channels[i]?.map fun c => { s with
      channels := s.channels.set i { c with device := false }
      control := if start then .attaching else .idle }
  | .attaching =>
    some { s with
      channels := s.channels ++ [{ coalescer := { windowMillis := s.windowMillis } }]
      channel := some s.channels.length
      control := .replaying s.channels.length }
  | .replaying i =>
    some { s with control := if s.session.cancelled then .spawning i else .asking i }
  | .asking i =>
    some { s with
      control := match s.session.pendingNetworkEvent with
        | some event => .noting i event.millis .reading
        | none => .spawning i }
  | .noting i eventMillis note =>
    (noteStep s eventMillis note).map fun r =>
      { r.2 with control := if r.1 = .done then .spawning i else .noting i eventMillis r.1 }
  | .spawning i =>
    s.channels[i]?.map fun c => { s with
      channels := s.channels.set i { c with sampler := .waiting }
      control := .idle }

/-- The call is not one of the two that are made by the parties here. -/
def Elsewhere (call : Call) : Bool :=
  match call.op with
  | .networkChanged _ => false
  | .networkEventHandled _ => false
  | _ => true

/-- One step of the whole. -/
def step (s : Service) : Pick → Option Service
  | .networkEvent => some { s with handlers := s.handlers ++ [.entering] }
  | .handler k clock =>
    match s.handlers[k]? with
    | none => none
    | some h => (handlerStep clock s h).map fun r =>
        { r.2 with handlers := s.handlers.set k r.1 }
  | .sampler i clock =>
    match s.channels[i]? with
    | none => none
    | some c => (samplerStep clock s.session c).map fun r =>
        { s with session := r.2, channels := s.channels.set i r.1 }
  | .call start => if s.control = .idle then some { s with control := .detaching start } else none
  | .control => controlStep s
  | .session call =>
    if Elsewhere call then some { s with session := call.apply s.settings s.session } else none

/-- The runs of a session's watchdogs. -/
abbrev Service.Runs : List (Transition Service Pick) → Service → Prop :=
  Run (fun s => ∃ settings windowMillis, s = { settings, windowMillis })
    fun _ s a s' => step s a = some s'

end UrnetworkWindows.Watchdog.Network
