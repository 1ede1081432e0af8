/-
What a gesture has to do (`ConnectAction.h`): one decision from what the service says and
what the app knows of itself, with no effects of its own.
-/
import UrnetworkWindows.Controller.Firewall
import UrnetworkWindows.Session.Requests

namespace UrnetworkWindows.Session

open Controller

/-- `gesture::Gesture`. -/
inductive Gesture
  | connect
  | connectRow
  | disconnect
  | trayToggle
  | ensureSession
  | forceStopTunnel
  | liftKillSwitch
deriving DecidableEq, Repr

/-- `GestureOf`.  A provider's pass asks no gesture. -/
def gestureOf : ConnectKind → Gesture
  | .bestAvailable => .connect
  | .location => .connectRow
  | .selected => .connect
  | .disconnect => .disconnect
  | .none => .ensureSession
  | .provider => .ensureSession

/-- `health::State`. -/
inductive HealthState
  | noService
  | disconnected
  | connecting
  | evaluating
  | connected
  | degraded
  | failed
deriving DecidableEq, Repr

/-- `gesture::ServiceFacts`, as far as `Decide` reads it. -/
structure ServiceFacts where
  pipeUp : Bool := false
  known : Bool := false
  state : TunnelState := .stopped
  mode : StartMode := .tunnel
  routesInstalled : Bool := false
  wfpState : String := "off"
deriving DecidableEq, Repr

/-- `gesture::AppFacts`. -/
structure AppFacts where
  haveDevice : Bool := false
  killSwitch : Bool := false
  wantsTunnel : Bool := true
  userDisconnected : Bool := false
  health : HealthState := .noService
deriving DecidableEq, Repr

/-- `gesture::Plan`. -/
structure Plan where
  stopTunnel : Bool := false
  tearDownDevice : Bool := false
  startTunnel : Bool := false
  sdkConnect : Bool := false
  sdkDisconnect : Bool := false
  liftKillSwitch : Bool := false
  why : String := ""
deriving DecidableEq, Repr

section

variable (f : ServiceFacts)

/-- `gesture::WfpInForce`. -/
def wfpInForce : Bool := f.wfpState ≠ "" && f.wfpState ≠ "off"

/-- `gesture::MachineIsCaptured`. -/
def machineIsCaptured : Bool := f.routesInstalled || wfpInForce f

/-- `gesture::KillSwitchIsLiftable`. -/
def killSwitchIsLiftable : Bool :=
  f.pipeUp && f.state ≠ .up && (f.wfpState = "armed" || f.wfpState = "connecting")

/-- `gesture::BlockedByKillSwitch`. -/
def blockedByKillSwitch : Bool := !f.routesInstalled && f.wfpState = "armed"

/-- `gesture::ActionIsDisconnect`. -/
def actionIsDisconnect (h : HealthState) : Bool :=
  (h ≠ .disconnected && h ≠ .noService) || f.state = .preparing ||
    (machineIsCaptured f && !blockedByKillSwitch f)

/-- `gesture::ServingRpcOnly`. -/
def servingRpcOnly : Bool := f.state.isSessionLive && f.mode = .rpcOnly

variable (a : AppFacts)

/-- In `Decide`: the lift of the kill switch. -/
def decideLiftKillSwitch : Plan :=
  if !f.pipeUp then
    { why := "there is no service to ask — a firewall policy is held on a dynamic session and " ++
        "dies with the process that owns it" }
  else if !killSwitchIsLiftable f then
    { why := "the policy in force is not one the kill switch can lift; a disconnect is what " ++
        "takes a connected policy down" }
  else
    { liftKillSwitch := true
      why := "the kill switch is holding this machine blocked with no tunnel up" }

/-- In `Decide`: the tray's escape hatch. -/
def decideForceStopTunnel : Plan :=
  if !f.pipeUp then
    { why := "there is no control channel; nothing here can revert a tunnel this process does " ++
        "not own, and the service's death already took it" }
  else
    { stopTunnel := true
      tearDownDevice := a.haveDevice
      why := "the escape hatch: take the whole tunnel down, and drop the session that pointed " ++
        "at it so the next Connect starts a real one" }

/-- In `Decide`: there is something installed for the service to give back. -/
def serviceHasSomething : Bool :=
  f.routesInstalled || (f.state.isSessionLive && f.mode = .tunnel) || wfpInForce f

/-- In `Decide`: a disconnect. -/
def decideDisconnect : Plan :=
  if !f.pipeUp then
    { sdkDisconnect := a.haveDevice
      why := "there is no service, so there is no tunnel to stop — the adapter and the firewall " ++
        "policy died with its process" }
  else if !f.known then
    { stopTunnel := true
      tearDownDevice := a.haveDevice
      sdkDisconnect := a.haveDevice
      why := "the service could not be asked for its state, so the disconnect is honoured in " ++
        "full rather than half — stopping nothing is a cheaper mistake than leaving this " ++
        "machine captured" }
  else
    let tearDownDevice := a.haveDevice && (serviceHasSomething f || !f.state.isSessionLive)
    { stopTunnel := serviceHasSomething f
      sdkDisconnect := a.haveDevice
      tearDownDevice
      why :=
        if serviceHasSomething f then
          "a deliberate disconnect: this machine's routes, dns and firewall policy come back " ++
          "FIRST, then the session goes"
        else if tearDownDevice then
          "the service has no session left, so the DeviceRemote we hold is a handle to a " ++
          "listener that is gone: drop it"
        else
          "nothing of ours is installed on this machine; only the connect controller has " ++
          "anything to stop" }

/-- In `Decide`: the live session is the one the gesture needs. -/
def serviceHasWhatWeNeed : Bool :=
  f.state.isSessionLive &&
    (!(a.wantsTunnel && !servingRpcOnly f) || f.routesInstalled || f.state = .preparing)

/-- In `Decide`: a connect, or a session to be made sure of. -/
def decideSession (ensure : Bool) : Plan :=
  let sdkConnect := !ensure
  if ensure && a.userDisconnected && !f.state.isSessionLive then
    { sdkConnect
      why := "the user disconnected and nothing has asked to reconnect since: making sure a " ++
        "session exists must not put this machine's capture routes back on its own" }
  else if !f.pipeUp || !f.known then
    { sdkConnect
      startTunnel := !a.haveDevice
      why :=
        if a.haveDevice then
          "the service could not be asked for its state, so keep the session we have — a " ++
          "dropped reply is not evidence that the tunnel is gone"
        else
          "no session and no answer from the service: the bootstrap is what dials the pipe, and " ++
          "what says why if it cannot" }
  else if a.haveDevice && serviceHasWhatWeNeed f a then
    { sdkConnect
      why :=
        if f.state = .preparing then
          "the RPC session is prepared; provider selection can continue while capture waits for " ++
          "proof"
        else
          "the session and its tunnel are both live; drive the connect controller and touch " ++
          "nothing else" }
  else
    { sdkConnect
      tearDownDevice := a.haveDevice
      startTunnel := true
      why :=
        if a.haveDevice then
          "the service has no tunnel for this session, so the DeviceRemote we hold points at a " ++
          "listener that is gone: drop it and start a real one"
        else
          "no session yet: bootstrap one (a reattach if the service still holds a live one, " ++
          "otherwise start_tunnel)" }

/-- `gesture::Decide`. -/
def Gesture.decide : Gesture → Plan
  | .liftKillSwitch => decideLiftKillSwitch f
  | .forceStopTunnel => decideForceStopTunnel f a
  | .disconnect => decideDisconnect f a
  | .connect => decideSession f a false
  | .connectRow => decideSession f a false
  | .ensureSession => decideSession f a true
  -- the tray's one item is whichever of the two it is offering to be
  | .trayToggle => if actionIsDisconnect f a.health then decideDisconnect f a
    else decideSession f a false

variable {f a} {g : Gesture}

lemma decideDisconnect_startTunnel : (decideDisconnect f a).startTunnel = false := by
  unfold decideDisconnect
  split_ifs <;> rfl

lemma decideSession_tearDown {ensure : Bool} (h : (decideSession f a ensure).startTunnel = true) :
    (decideSession f a ensure).tearDownDevice = a.haveDevice := by
  unfold decideSession at h ⊢
  -- where the service could not be asked, only an app without a device starts
  split_ifs at h ⊢ <;> simp_all

/-- A plan that starts a tunnel first drops the device the app has. -/
theorem Gesture.decide_tearDown (h : (g.decide f a).startTunnel = true) :
    (g.decide f a).tearDownDevice = a.haveDevice := by
  have hdisconnect : (decideDisconnect f a).startTunnel ≠ true := by
    rw [decideDisconnect_startTunnel]
    exact Bool.false_ne_true
  cases g with
  | liftKillSwitch =>
    simp only [Gesture.decide, decideLiftKillSwitch] at h
    split_ifs at h
  | forceStopTunnel =>
    simp only [Gesture.decide, decideForceStopTunnel] at h
    split_ifs at h
  | disconnect => exact absurd h hdisconnect
  | connect | connectRow | ensureSession => exact decideSession_tearDown h
  | trayToggle =>
    simp only [Gesture.decide] at h ⊢
    split_ifs at h ⊢
    · exact absurd h hdisconnect
    · exact decideSession_tearDown h

end

end UrnetworkWindows.Session
