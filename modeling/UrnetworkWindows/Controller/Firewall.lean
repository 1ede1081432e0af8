/-
The controller's operations on the firewall (`TunnelController.cpp`).

Every operation is a program over what the operations share: the kill-switch
preference, the WFP policy, the reported state, the route owner, the stop
generation, the capture readiness and the connecting watchdog.  An access to an
atomic, a call into `WfpPolicy` and a lock acquisition are one step each, so that
the steps of other operations fall between any two of them; what only the holder
of `mutex_` touches is read and written together with the access next to it.

The coin of a step decides what the model does not: whether an `Apply` succeeds,
whether a step of the bring-up throws, whether a proof is still fresh.  The staged
stop point (`--stop-after`) is off.  Left out: the device, the adapter and the
packet pump, the status mirror, and everything logged.
-/
import UrnetworkWindows.Lib.Locked
import UrnetworkWindows.Capture.Apply
import UrnetworkWindows.Wfp.Filters

namespace UrnetworkWindows.Controller

open Lib Capture Wfp

/-- `proto::TunnelState`. -/
inductive TunnelState
  | stopped
  | starting
  | up
  | stopping
  | error
  | rpcOnly
  | preparing
deriving DecidableEq, Repr

/-- `proto::IsSessionLive`. -/
def TunnelState.isSessionLive (s : TunnelState) : Bool :=
  s = .up || s = .rpcOnly || s = .preparing

/-- `proto::StartMode`. -/
inductive StartMode
  | tunnel
  | rpcOnly
deriving DecidableEq, Repr

/-- The connecting watchdog's thread: none, waiting for its window to end, past the
wait and not yet done, or done and not yet joined. -/
inductive ConnectingWatchdog
  | idle
  | waiting
  | firing
  | finished
deriving DecidableEq, Repr

/-- What the operations share. -/
structure Shared where
  killSwitch : Bool := false
  policy : WfpState := .off
  state : TunnelState := .stopped
  /-- `netConfig_` is held. -/
  routes : Bool := false
  stopGeneration : ℕ := 0
  /-- The readinesses are numbered in the order they are published; this is the
  published one, or `0` before the first. -/
  readiness : ℕ := 0
  /-- `CaptureReadiness::Cancelled`, of each readiness. -/
  cancelled : ℕ → Bool := fun _ => false
  watchdog : ConnectingWatchdog := .idle

/-- The operations, and the watchdog's thread.  A start carries the preference and
the mode of its request, the mode after the clamp; `stop` is `Stop` and
`Disconnect`, which treat the firewall alike. -/
inductive Op
  | start (killSwitch rpcOnly : Bool)
  | activateCapture (readiness : ℕ)
  | stop
  | logout
  | setKillSwitch (on : Bool)
  | failsafeStop
  | connectingWatchdog
deriving DecidableEq, Repr

/-- The names of the steps that a condition or the history singles out. -/
inductive Name
  | step
  | loadGeneration
  | publish
  | compareGeneration
  | checkCancelled
  | bump
  | cancel (readiness : ℕ)
  | acquire
  | acquireFailsafe (killSwitchOn : Bool)
  | giveUp
  | release
  | storeKillSwitch
  | checkRetry
  | checkHeld (hadRoutes : Bool)
  | checkEscape (readiness : ℕ)
  | revertEscape (readiness : ℕ)
  | narrow
deriving DecidableEq, Repr

/-- A part of an operation. -/
abbrev Act := Prog Shared Name

/-! ### The firewall -/

/-- `CancelConnectingWatchdogLocked`: a wait is cut short, and an `Apply` the
watchdog has entered is waited for. -/
def cancelConnectingWatchdogLocked : Act Unit :=
  .act .step (fun s => s.watchdog ≠ .firing) (fun _ s => ((), { s with watchdog := .idle })) .ret

/-- `ArmConnectingWatchdogLocked`. -/
def armConnectingWatchdogLocked : Act Unit := do
  cancelConnectingWatchdogLocked
  .store .step fun s => { s with watchdog := .waiting }

/-- `WfpPolicy::Apply`, for a policy other than Off: a failure leaves the policy as
it was. -/
def apply (n : Name) (p : WfpState) : Act Bool :=
  .perform n fun ok s => (ok, { s with policy := if ok then p else s.policy })

/-- `WfpPolicy::Revert`. -/
def revert (n : Name) : Act Unit := .store n fun s => { s with policy := .off }

/-- `ApplyWfpLocked`. -/
def applyWfpLocked (p : WfpState) : Act Bool := do
  cancelConnectingWatchdogLocked
  if p = .off then do
    revert .step
    pure true
  else do
    let ok ← apply .step p
    if ok = true ∧ p = .connecting then do
      armConnectingWatchdogLocked
      pure ok
    else pure ok

/-- `wfp_.State() != WfpState::Off`. -/
def inForce (n : Name) : Act Bool := .load n fun s => s.policy ≠ .off

/-- `RevertMachineStateLocked`. -/
def revertMachineStateLocked (finalDisarm hadRoutes : Bool) : Act Unit := do
  .store .step fun s => { s with routes := false }
  if finalDisarm then do
    let _ ← applyWfpLocked .off
  else do
    let on ← .load .step (·.killSwitch)
    let held ← .andThen on (inForce (.checkHeld hadRoutes))
    if held then do
      let _ ← applyWfpLocked .armed
    else do
      let on ← .load .step (·.killSwitch)
      if on && hadRoutes then do
        let _ ← applyWfpLocked .armed
      else do
        let held ← inForce .step
        if held then do
          let _ ← applyWfpLocked .off
        else pure ()

/-! ### Stopping -/

/-- `readiness->Cancel()`. -/
def cancel (r : ℕ) : Act Unit :=
  .store (.cancel r) fun s => { s with cancelled := Function.update s.cancelled r true }

/-- `CancelCapture`, with the readiness it found. -/
def cancelCapture : Act ℕ := do
  let r ← .load .step (·.readiness)
  if r = 0 then pure r
  else do
    cancel r
    pure r

/-- `SetStateLocked`. -/
def setState (t : TunnelState) : Act Unit := .store .step fun s => { s with state := t }

/-- `StopLocked`. -/
def stopLocked (finalDisarm : Bool) : Act Unit := do
  let _ ← cancelCapture
  let hadRoutes ← .perform .step fun _ s => (s.routes,
    if s.state.isSessionLive ∨ s.state = .starting then { s with state := .stopping } else s)
  revertMachineStateLocked finalDisarm hadRoutes
  setState .stopped

/-- `stopGeneration_.fetch_add(1)`. -/
def bumpGeneration : Act Unit :=
  .store .bump fun s => { s with stopGeneration := s.stopGeneration + 1 }

/-- A timed acquisition of `mutex_`: the budget may run out at any time. -/
def tryLock (n : Name) : Act Bool := .lock n .giveUp (fun _ => true) .ret

/-- A blocking acquisition of `mutex_`. -/
def lock : Act Bool := .lock .acquire .giveUp (fun _ => false) .ret

/-- The release of `mutex_`. -/
def unlock : Act Unit := .unlock .release (.ret ())

/-- `DropFirewallOnEscape`, after the acquisition was given up; `CrashRevert` takes
the routes off the machine and leaves `netConfig_` as it is. -/
def dropFirewallOnEscape (r : ℕ) : Act Unit := do
  let on ← .load .step (·.killSwitch)
  if on then pure ()
  else do
    let held ← inForce (.checkEscape r)
    if held then revert (.revertEscape r) else pure ()

/-- `StopWith`. -/
def stopWith : Act Unit := do
  bumpGeneration
  let r ← cancelCapture
  let got ← tryLock .acquire
  if got then do
    stopLocked true
    unlock
  else dropFirewallOnEscape r

/-- `Logout`. -/
def logout : Act Unit := do
  bumpGeneration
  let _ ← cancelCapture
  let got ← tryLock .acquire
  if got then do
    stopLocked true
    unlock
  else pure ()

/-- `FailsafeFinalDisarm`. -/
def failsafeFinalDisarm (killSwitchOn : Bool) : Bool := !killSwitchOn

/-- `FailsafeStop`. -/
def failsafeStop : Act Unit := do
  bumpGeneration
  let r ← cancelCapture
  let on ← .load .step (·.killSwitch)
  let got ← tryLock (.acquireFailsafe on)
  if got then do
    stopLocked (failsafeFinalDisarm on)
    unlock
  else dropFirewallOnEscape r

/-! ### Starting -/

/-- The new readiness of a start, published. -/
def publishReadiness : Act ℕ :=
  .perform .publish fun _ s => (s.readiness + 1, { s with
    readiness := s.readiness + 1
    cancelled := Function.update s.cancelled (s.readiness + 1) false })

/-- The `catch` of `StartLocked` and of `ActivateCapture`. -/
def failLocked : Act Unit := do
  setState .error
  stopLocked false
  setState .error

/-- The end of a start or of an activation: what follows the state transition may
still throw. -/
def mayFail : Act Unit := do
  let threw ← .toss .step
  if threw then failLocked else pure ()

/-- The tail of `StartLocked`, from step 1/8 on. -/
def bringUp (r : ℕ) (rpcOnly : Bool) : Act Unit := do
  let threw ← .toss .step
  if threw then failLocked
  else do
    let gone ← .load .checkCancelled (·.cancelled r)
    if gone then stopLocked true
    else do
      setState (if rpcOnly then .rpcOnly else .preparing)
      mayFail

/-- The head of `StartLocked`: the generation, the preference, the teardown of what
was running, and the new readiness. -/
def adopt (killSwitch : Bool) : Act ℕ := do
  let generation ← .load .loadGeneration (·.stopGeneration)
  .store .storeKillSwitch fun s => { s with killSwitch := killSwitch }
  stopLocked false
  let r ← publishReadiness
  let now ← .load .compareGeneration (·.stopGeneration)
  if now = generation then pure r
  else do
    cancel r
    pure r

/-- The retry path of `StartLocked`: the DNS window is opened before anything
resolves, when a policy is in force at all. -/
def widen (rpcOnly : Bool) : Act Unit := do
  let held ← .andThen (!rpcOnly) (inForce .step)
  if held then do
    let _ ← applyWfpLocked .connecting
  else pure ()

/-- `StartLocked`.  It refuses while the process is to restart or an abandoned
teardown still holds a device. -/
def startLocked (killSwitch rpcOnly : Bool) : Act Unit := do
  let r ← adopt killSwitch
  let refused ← .toss .step
  if refused then setState .error
  else do
    setState .starting
    widen rpcOnly
    bringUp r rpcOnly

/-- `Start`. -/
def start (killSwitch rpcOnly : Bool) : Act Unit := do
  let _ ← lock
  startLocked killSwitch rpcOnly
  unlock

/-! ### The capture -/

/-- `CaptureReadiness::Current` and `Commit`: the proof may have gone stale, and has
when the readiness is cancelled. -/
def current (r : ℕ) : Act Bool := .perform .step fun fresh s => (fresh && !s.cancelled r, s)

/-- A stage of `BringUpTunnelLocked`, and whether it throws. -/
def applyStage : CaptureStage → Act Bool
  | .prepare => .toss .step
  | .firewall => do
    let noRoute ← .toss .step
    if noRoute then pure true
    else do
      let ok ← applyWfpLocked .connecting
      if ok then pure false else .load .step (·.killSwitch)
  | .network => .perform .step fun threw s => (threw, { s with routes := true })
  | .connected => do
    let held ← inForce .step
    if held then do
      let ok ← applyWfpLocked .connected
      pure !ok
    else pure false

/-- The rollback of `BringUpTunnelLocked`. -/
def rollback (r : ℕ) : Act Unit := do
  let hadRoutes ← .load .step (·.routes)
  revertMachineStateLocked false hadRoutes
  let gone ← .load .step (·.cancelled r)
  let on ← .andThen (!gone) (.load .step (·.killSwitch))
  let held ← .andThen on (inForce .step)
  if held then do
    let _ ← applyWfpLocked .connecting
  else pure ()

/-- The stages of `ApplyCapture` that are left. -/
def applyStages (r : ℕ) : List CaptureStage → Act CaptureExitKind
  | [] => do
    let committed ← current r
    if committed then pure (.returned .active)
    else do
      rollback r
      pure (.returned .waiting)
  | stage :: stages => do
    let fresh ← current r
    if fresh then do
      let threw ← applyStage stage
      if threw then do
        rollback r
        pure .threw
      else applyStages r stages
    else do
      rollback r
      pure (.returned .waiting)

/-- `BringUpTunnelLocked`: it throws when the session has no adapter or device. -/
def bringUpTunnelLocked (r : ℕ) : Act CaptureExitKind := do
  let unprepared ← .toss .step
  if unprepared then pure .threw
  else do
    let fresh ← current r
    if fresh then applyStages r captureStages else pure (.returned .waiting)

/-- What `ActivateCapture` makes of the result. -/
def settle (r : ℕ) : CaptureExitKind → Act Unit
  | .threw => do
    stopLocked false
    setState .error
  | .returned result => do
    let gone ← .load .step (·.cancelled r)
    if gone || result = .halted then pure ()
    else if result = .waiting then mayFail
    else do
      setState .up
      mayFail

/-- `ActivateCapture`, with the lock. -/
def activateLocked (r : ℕ) : Act Unit := do
  let gone ← .load .step (·.cancelled r)
  let ours : Bool ← .load .step fun s => s.readiness = r ∧ s.state = .preparing
  if gone || !ours then pure ()
  else do
    let result ← bringUpTunnelLocked r
    settle r result

/-- `ActivateCapture`: the acquisition is given up when the readiness is cancelled. -/
def activateCapture (r : ℕ) : Act Unit := do
  let got ← .lock .acquire .giveUp (fun s => s.cancelled r) .ret
  if got then do
    activateLocked r
    unlock
  else pure ()

/-! ### The preference and the watchdog -/

/-- The branch of `SetKillSwitch` that gives the machine back. -/
def liftWhenDown : Act Unit := do
  let up : Bool ← .load .step fun s => s.state = .up
  if up then pure ()
  else do
    let armed : Bool ← .load .step fun s => s.policy = .armed
    let lifts ← .orElse armed (.load .step fun s => s.policy = .connecting)
    if lifts then do
      let _ ← applyWfpLocked .off
    else pure ()

/-- The branch of `SetKillSwitch` that installs the policy under a live tunnel. -/
def retryInstall : Act Unit := do
  let up : Bool ← .load .step fun s => s.state = .up
  let off ← .andThen up (.load .checkRetry fun s => s.policy = .off)
  if off then do
    let _ ← applyWfpLocked .connected
  else pure ()

/-- `SetKillSwitch`, with the lock. -/
def setKillSwitchLocked (on : Bool) : Act Unit := do
  let was ← .load .step (·.killSwitch)
  if was = on then pure ()
  else do
    .store .storeKillSwitch fun s => { s with killSwitch := on }
    if on then retryInstall else liftWhenDown

/-- `SetKillSwitch`. -/
def setKillSwitch (on : Bool) : Act Unit := do
  let _ ← lock
  setKillSwitchLocked on
  unlock

/-- The thread of `ArmConnectingWatchdogLocked`, from the end of its wait on. -/
def connectingWatchdog : Act Unit :=
  .act .step (fun s => s.watchdog = .waiting) (fun _ s => ((), { s with watchdog := .firing }))
    fun _ => do
      let _ ← apply .narrow .armed
      .store .step fun s => { s with watchdog := .finished }

/-- What each operation runs. -/
def body : Op → Act Unit
  | .start killSwitch rpcOnly => start killSwitch rpcOnly
  | .activateCapture r => activateCapture r
  | .stop => stopWith
  | .logout => logout
  | .setKillSwitch on => setKillSwitch on
  | .failsafeStop => failsafeStop
  | .connectingWatchdog => connectingWatchdog

/-! ### The system and its history -/

/-- A deliberate stop: `Stop`, `Disconnect` or `Logout`. -/
def Op.deliberate (op : Op) : Bool := op = .stop || op = .logout

/-- An operation that stops the session. -/
def Op.stops (op : Op) : Bool := op.deliberate || op = .failsafeStop

lemma Op.stops.eq_failsafeStop {op : Op} (h : op.stops = true) (hdel : ¬ op.deliberate = true) :
    op = .failsafeStop := by
  simpa [Op.stops, hdel] using h

/-- A start whose request has the kill switch on. -/
def Op.startsArmed : Op → Bool
  | .start killSwitch _ => killSwitch
  | _ => false

/-- A start. -/
def Op.isStart : Op → Bool
  | .start _ _ => true
  | _ => false

/-- A stop that took the lock-free escape with the kill switch off: who held the
lock then, and the readiness the stop had cancelled. -/
structure Escape where
  holder : Option ℕ
  readiness : ℕ
deriving DecidableEq, Repr

/-- The history of a run. -/
structure History where
  /-- A start has read the generation and not compared it yet. -/
  comparing : Bool := false
  /-- The readiness a start has published and not looked at again. -/
  pending : Option ℕ := none
  /-- A deliberate stop has cancelled the running start. -/
  stopped : Bool := false
  escapes : List Escape := []

/-- How a step is remembered. -/
def note (e : Event Op Name) (s : Shared) (h : History) : History :=
  match e.name with
  | .loadGeneration => { h with comparing := true, pending := none, stopped := false }
  | .publish => { h with pending := some (s.readiness + 1) }
  | .compareGeneration => { h with comparing := false }
  | .checkCancelled => { h with pending := none }
  | .bump => { h with stopped := h.stopped || e.self.kind.deliberate && h.comparing }
  | .cancel r => { h with stopped := h.stopped || e.self.kind.deliberate && h.pending = some r }
  | .checkEscape r =>
    if e.self.kind = .stop ∧ s.policy = .off then
      { h with escapes := ⟨e.holder.map (·.id), r⟩ :: h.escapes }
    else h
  | .revertEscape r =>
    if e.self.kind = .stop then { h with escapes := ⟨e.holder.map (·.id), r⟩ :: h.escapes } else h
  | _ => h

/-- The controller.  A capture is activated for a readiness that was published. -/
def controller : System Shared History Op Name where
  body := body
  may op s :=
    match op with
    | .activateCapture r => 0 < r && r ≤ s.readiness
    | _ => true
  note := note

/-- The controller with its operations in progress. -/
abbrev Machine := Pool Shared History Op Name

/-- A session with that preference: the thread 0 starts it and the thread 1
activates its capture. -/
def session (killSwitch : Bool) : List (Label Op) :=
  .spawn (.start killSwitch false) ::
    (List.replicate (if killSwitch then 21 else 20) (.run 0 false) ++
      .spawn (.activateCapture 1) :: ([false, false, false, false, true, true, false, true, false,
        false, true, false, false, true, false, true, false, false, true, true, false, false, false,
        false].map (.run 1)))

end UrnetworkWindows.Controller
