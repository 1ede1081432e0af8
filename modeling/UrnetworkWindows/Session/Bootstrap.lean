/-
The app's side of a session (`SdkHost.cpp`: `BootstrapSession` from the hello on, the rpc-sync
watchdog and `TeardownSessionLocked`).

`BootstrapSession` constructs the device, moves the session's generation, installs the
listeners, sets the flags and arms the watchdog last, with one catch at its end for whatever
is thrown between.  So a call that throws once the device is there leaves it without a
watchdog, behind a bootstrap that returned false and has sent no `stop_tunnel`
(`half_a_session`).  Where nothing is thrown to the catch after the start was answered live or
the device was constructed, and the stop of a refused session finds the channel up, the
session is all there or not there (`session_all_or_nothing`).

A pass tears down the device it still has before it bootstraps (`Gesture.decide_tearDown`).
The parts of a bootstrap, of a sync check and a teardown run under `mutex_`; the drop of the
channel, its handler and the watchdog's own steps do not.  A dial joins the reader thread of
the connection before, and with it that connection's drop handler, if that runs at all.
-/
import UrnetworkWindows.Session.Gesture

namespace UrnetworkWindows.Bootstrap

open Lib

/-- What `BootstrapSession` does next: it dials, asks, sends the start, sends the stop of a
session that is not its own, constructs the device, takes the generation for the record,
subscribes for the record, says that there is a session, subscribes for the rest, and arms the
watchdog. -/
inductive Point
  | dialling
  | asking
  | starting
  | refusing
  | creating
  | activating
  | subscribing
  | marking
  | listening
  | arming
deriving DecidableEq, Repr

/-- The device has been constructed. -/
def Point.created : Point → Bool
  | .activating => true
  | .subscribing => true
  | .marking => true
  | .listening => true
  | .arming => true
  | _ => false

/-- A bootstrap: what is next, and whether its start was answered live and it has sent
`stop_tunnel`. -/
structure Boot where
  point : Point := .dialling
  live : Bool := false
  stopped : Bool := false
deriving DecidableEq, Repr

/-- `RpcSyncState`. -/
inductive RpcSyncState
  | stale
  | pending
  | healthy
  | refused
deriving DecidableEq, Repr

/-- The watchdog's thread: asleep until its deadline, about to check the generation it read, or
past the check. -/
inductive WatchAt
  | waiting
  | checking (generation : ℕ)
  | checked (generation : ℕ) (state : RpcSyncState)
deriving DecidableEq, Repr

/-- A bootstrap's end. -/
structure Returned where
  ok : Bool
  live : Bool
  stopped : Bool
deriving DecidableEq, Repr

/-- `boot` is the bootstrap that holds `mutex_`, `handler` says that the drop handler of the
connection that is down has still to run, `dropped` that the channel dropped since the last
bootstrap found it up, and `lastOk` that the last bootstrap returned true and no teardown
followed. -/
structure State where
  boot : Option Boot := none
  device : Bool := false
  sessionGeneration : ℕ := 0
  activeGeneration : ℕ := 0
  hasSession : Bool := false
  channel : Bool := false
  handler : Bool := false
  dropped : Bool := false
  syncRunning : Bool := false
  syncStop : Bool := false
  syncGeneration : ℕ := 0
  watch : Option WatchAt := none
  lastOk : Bool := false
  log : List Returned := []
deriving DecidableEq, Repr

/-- How a start was answered: not live, with another session's identity or mode, or live as
asked for. -/
inductive StartAnswer
  | dead
  | other
  | kept
deriving DecidableEq, Repr

/-- What the hello and the saved record lead to. -/
inductive Greeting
  | declined
  | adopts
  | starts
deriving DecidableEq, Repr

/-- A bootstrap and its parts, a call that throws to its catch; a teardown by any other holder
of `mutex_`; the watchdog's wake-up, its check and what follows; the end of the watchdog; the
channel, which drops, and the handler of the drop, which a dial can forestall; and a dial by
any other holder of `mutex_`. -/
inductive Act
  | begin
  | dial (reached : Bool)
  | greet (greeting : Greeting)
  | start (answer : StartAnswer)
  | refuse
  | create
  | activate
  | subscribe
  | mark
  | listen
  | arm (started : Bool)
  | throw
  | teardown
  | wake
  | check (state : RpcSyncState)
  | conclude
  | stopSync
  | drop
  | handle
  | forestall
  | redial
deriving DecidableEq, Repr

namespace State

variable (s : State)

/-- The bootstrap goes on. -/
def goTo (b : Boot) (point : Point) : State := { s with boot := some { b with point } }

/-- The bootstrap returns false. -/
def fail (b : Boot) : State :=
  { s with
    boot := none
    lastOk := false
    log := s.log ++ [⟨false, b.live, b.stopped⟩] }

/-- `TeardownSessionLocked`. -/
def teardown : State :=
  { s with
    activeGeneration := 0
    device := false
    sessionGeneration := s.sessionGeneration + 1
    hasSession := false
    lastOk := false }

/-- In `ArmSyncWatchdogLocked`: the generation and the thread, which may fail to start. -/
def armed (started : Bool) : State :=
  if s.syncStop then s
  else if s.syncRunning then { s with syncGeneration := s.sessionGeneration }
  else
    { s with
      syncGeneration := s.sessionGeneration
      syncRunning := true
      watch := if started then some .waiting else none }

/-- The start's answer. -/
def answered (b : Boot) : StartAnswer → State
  | .dead => s.fail b
  | .other => { s with boot := some { b with live := true, point := .refusing } }
  | .kept => { s with boot := some { b with live := true, point := .creating } }

/-- What the hello leads to. -/
def greeted (b : Boot) : Greeting → State
  | .declined => s.fail b
  | .adopts => s.goTo b .creating
  | .starts => s.goTo b .starting

/-- `CheckSessionSync`, with what the device says. -/
def checkSessionSync (generation : ℕ) (state : RpcSyncState) : State :=
  if generation ≠ s.sessionGeneration ∨ s.device = false then
    { s with watch := some (.checked generation .stale) }
  else if state = .refused then { s.teardown with watch := some (.checked generation .refused) }
  else { s with watch := some (.checked generation state) }

/-- In `SyncWatchdogLoop`: what follows from the check. -/
def conclude (generation : ℕ) (state : RpcSyncState) : State :=
  if s.syncStop = false ∧ s.syncGeneration ≠ generation then { s with watch := some .waiting }
  else if s.syncStop ∨ state = .stale ∨ state = .refused then
    { s with syncRunning := false, watch := none }
  else { s with watch := some .waiting }

/-- The bootstrap's next part. -/
def part (b : Boot) : Act → Option State
  | .dial reached =>
    match b.point with
    | .dialling =>
      if s.channel then some { s.goTo b .asking with dropped := false }
      else if s.handler then none
      else if reached then some { s.goTo b .asking with channel := true, dropped := false }
      else some (s.fail b)
    | _ => none
  | .greet greeting =>
    match b.point with
    | .asking => some (s.greeted b greeting)
    | _ => none
  | .start answer =>
    match b.point with
    | .starting => some (s.answered b answer)
    | _ => none
  | .refuse =>
    match b.point with
    -- over a channel that is down nothing is sent
    | .refusing => some (s.fail { b with stopped := s.channel })
    | _ => none
  | .create =>
    match b.point with
    | .creating =>
      some { s.goTo b .activating with
        device := true
        sessionGeneration := s.sessionGeneration + 1 }
    | _ => none
  | .activate =>
    match b.point with
    | .activating =>
      some { s.goTo b .subscribing with activeGeneration := s.sessionGeneration }
    | _ => none
  | .subscribe =>
    match b.point with
    | .subscribing => some (s.goTo b .marking)
    | _ => none
  | .mark =>
    match b.point with
    | .marking => some { s.goTo b .listening with hasSession := true }
    | _ => none
  | .listen =>
    match b.point with
    | .listening => some (s.goTo b .arming)
    | _ => none
  | .arm started =>
    match b.point with
    | .arming =>
      -- a thread that cannot be started throws to the catch
      if started || s.syncStop || s.syncRunning then
        some { s.armed true with
          boot := none
          lastOk := true
          log := s.log ++ [⟨true, b.live, b.stopped⟩] }
      else some ((s.armed false).fail b)
    | _ => none
  | .throw => if b.point = .dialling then none else some (s.fail b)
  | _ => none

end State

/-- One step, if it can be taken. -/
def step (s : State) : Act → Option State
  | .begin =>
    if s.boot = none ∧ s.device = false then some { s with boot := some {} } else none
  | .teardown => if s.boot = none then some s.teardown else none
  | .wake =>
    -- the stop is seen first
    match s.watch with
    | some .waiting =>
      some (if s.syncStop then { s with syncRunning := false, watch := none }
        else { s with watch := some (.checking s.syncGeneration) })
    | _ => none
  | .check state =>
    match s.watch with
    | some (.checking generation) =>
      if s.boot = none ∧ state ≠ .stale then some (s.checkSessionSync generation state) else none
    | _ => none
  | .conclude =>
    match s.watch with
    | some (.checked generation state) => some (s.conclude generation state)
    | _ => none
  | .stopSync => some { s with syncStop := true }
  | .drop =>
    if s.channel then some { s with channel := false, handler := true, dropped := true } else none
  | .handle => if s.handler then some { s with handler := false, hasSession := false } else none
  | .forestall =>
    -- the dial's `Close` has set `stopping_` before the reader looks at it
    if s.handler ∧ (s.boot.all fun b => b.point = .dialling) then some { s with handler := false }
    else none
  | .redial =>
    if s.boot = none ∧ s.channel = false ∧ s.handler = false then some { s with channel := true }
    else none
  | a => s.boot.bind fun b => s.part b a

/-- The session is all there or not there. -/
structure AllOrNothing (s : State) : Prop where
  device : s.boot = none → (s.device = true ↔ s.lastOk = true)
  watched : s.boot = none → s.device = true →
    s.syncStop = true ∨ s.watch ≠ none ∧ s.syncGeneration = s.sessionGeneration
  active : s.boot = none → s.device = true → s.activeGeneration = s.sessionGeneration
  session : s.boot = none → s.device = true → s.hasSession = true ∨ s.dropped = true
  /-- A bootstrap that returned false after its start was answered live has sent the stop. -/
  stopped : ∀ r ∈ s.log, r.ok = false → r.live = true → r.stopped = true

/-- A call throws to the catch of a bootstrap whose start was answered live or whose device is
constructed, or the channel is down where a session is refused. -/
def endsHalf (s : State) : Act → Bool
  | .throw => s.boot.any fun b => b.live || b.point.created
  | .refuse => !s.channel
  | .arm started => !(started || s.syncStop || s.syncRunning)
  | _ => false

/-- Every run. -/
abbrev Runs : List (Transition State Act) → State → Prop :=
  Run (· = {}) fun _ s a s' => step s a = some s'

/-- The runs in which no bootstrap ends halfway. -/
abbrev CondRuns : List (Transition State Act) → State → Prop :=
  Run (· = {}) fun _ s a s' => step s a = some s' ∧ endsHalf s a = false

/-! ### The parts of a bootstrap -/

/-- What a part of a bootstrap can do. -/
inductive Did (s : State) (b : Boot) : Act → State → Prop
  | up (reached : Bool) : b.point = .dialling → s.channel = true →
      Did s b (.dial reached) { s.goTo b .asking with dropped := false }
  | dialled : b.point = .dialling → s.handler = false →
      Did s b (.dial true) { s.goTo b .asking with channel := true, dropped := false }
  | unreached : b.point = .dialling → Did s b (.dial false) (s.fail b)
  | greeted (greeting : Greeting) : b.point = .asking →
      Did s b (.greet greeting) (s.greeted b greeting)
  | answered (answer : StartAnswer) : b.point = .starting →
      Did s b (.start answer) (s.answered b answer)
  | refused : b.point = .refusing →
      Did s b .refuse (s.fail { b with stopped := s.channel })
  | created : b.point = .creating →
      Did s b .create { s.goTo b .activating with
        device := true, sessionGeneration := s.sessionGeneration + 1 }
  | activated : b.point = .activating →
      Did s b .activate { s.goTo b .subscribing with activeGeneration := s.sessionGeneration }
  | subscribed : b.point = .subscribing → Did s b .subscribe (s.goTo b .marking)
  | marked : b.point = .marking → Did s b .mark { s.goTo b .listening with hasSession := true }
  | listened : b.point = .listening → Did s b .listen (s.goTo b .arming)
  | armed (started : Bool) : b.point = .arming →
      Did s b (.arm started) { s.armed true with
        boot := none, lastOk := true, log := s.log ++ [⟨true, b.live, b.stopped⟩] }
  | unarmed (started : Bool) : (started || s.syncStop || s.syncRunning) = false →
      Did s b (.arm started) ((s.armed false).fail b)
  | thrown : Did s b .throw (s.fail b)

lemma did {s s' : State} {b : Boot} {a : Act} (hs : s.part b a = some s') : Did s b a s' := by
  unfold State.part at hs
  split at hs
  case h_1 reached =>
    split at hs
    case h_1 hpoint =>
      split_ifs at hs with hup hhandler hreached
      · cases hs
        exact .up reached hpoint hup
      · cases hs
        rw [hreached]
        exact .dialled hpoint (by simpa using hhandler)
      · cases hs
        rw [Bool.not_eq_true] at hreached
        rw [hreached]
        exact .unreached hpoint
    case h_2 => cases hs
  case h_2 greeting =>
    split at hs
    case h_1 hpoint =>
      cases hs
      exact .greeted greeting hpoint
    case h_2 => cases hs
  case h_3 answer =>
    split at hs
    case h_1 hpoint =>
      cases hs
      exact .answered answer hpoint
    case h_2 => cases hs
  case h_4 =>
    split at hs
    case h_1 hpoint =>
      cases hs
      exact .refused hpoint
    case h_2 => cases hs
  case h_5 =>
    split at hs
    case h_1 hpoint =>
      cases hs
      exact .created hpoint
    case h_2 => cases hs
  case h_6 =>
    split at hs
    case h_1 hpoint =>
      cases hs
      exact .activated hpoint
    case h_2 => cases hs
  case h_7 =>
    split at hs
    case h_1 hpoint =>
      cases hs
      exact .subscribed hpoint
    case h_2 => cases hs
  case h_8 =>
    split at hs
    case h_1 hpoint =>
      cases hs
      exact .marked hpoint
    case h_2 => cases hs
  case h_9 =>
    split at hs
    case h_1 hpoint =>
      cases hs
      exact .listened hpoint
    case h_2 => cases hs
  case h_10 started =>
    split at hs
    case h_1 hpoint =>
      split_ifs at hs with hstarted
      · cases hs
        exact .armed started hpoint
      · cases hs
        rw [Bool.not_eq_true] at hstarted
        exact .unarmed started hstarted
    case h_2 => cases hs
  case h_11 =>
    split_ifs at hs
    cases hs
    exact .thrown
  case h_12 => cases hs

/-- No start has been answered yet. -/
def Point.early : Point → Bool
  | .dialling => true
  | .asking => true
  | .starting => true
  | _ => false

/-- The session's flag has been set. -/
def Point.marked : Point → Bool
  | .listening => true
  | .arming => true
  | _ => false

/-- What a bootstrap has done where it has come to, and what the last one left. -/
structure Parts (s : State) : Prop where
  created : ∀ b, s.boot = some b → s.device = b.point.created
  early : ∀ b, s.boot = some b → b.point.early = true → b.live = false
  free : s.boot = none → s.device = s.lastOk
  active : s.device = true → (∀ b, s.boot = some b → b.point ≠ .activating) →
    s.activeGeneration = s.sessionGeneration
  session : s.device = true → (∀ b, s.boot = some b → b.point.marked = true) →
    s.hasSession = true ∨ s.dropped = true
  handler : s.handler = true → s.channel = false ∧ s.dropped = true
  stopped : ∀ r ∈ s.log, r.ok = false → r.live = true → r.stopped = true

variable {s s' : State} {a : Act} {b : Boot}

namespace Parts

lemma init : Parts {} where
  created := by simp
  early := by simp
  free _ := rfl
  active := nofun
  session := nofun
  handler := nofun
  stopped := by simp

lemma goTo (h : Parts s) (hb : s.boot = some b) {point : Point}
    (hcreated : point.created = b.point.created)
    (hearly : point.early = true → b.point.early = true)
    (hactivating : b.point ≠ .activating) (hmarked : point.marked = true → b.point.marked = true) :
    Parts (s.goTo b point) where
  created b' hb' := by
    cases hb'
    exact (h.created b hb).trans hcreated.symm
  early b' hb' h' := by
    cases hb'
    exact h.early b hb (hearly h')
  free := nofun
  active hdevice _ := by
    refine h.active hdevice ?_
    intro b' hb'
    cases hb.symm.trans hb'
    exact hactivating
  session hdevice hall := by
    refine h.session hdevice ?_
    intro b' hb'
    cases hb.symm.trans hb'
    exact hmarked (hall _ rfl)
  handler := h.handler
  stopped := h.stopped

lemma fail (h : Parts s) (hb : s.boot = some b) (hcreated : b.point.created = false)
    {stopped : Bool} (hstopped : b.live = true → stopped = true) :
    Parts (s.fail { b with stopped }) := by
  have hdevice : s.device = false := (h.created b hb).trans hcreated
  constructor
  case created => exact nofun
  case early => exact nofun
  case free => exact fun _ => hdevice
  case active => exact fun hd => absurd (hdevice.symm.trans hd) nofun
  case session => exact fun hd => absurd (hdevice.symm.trans hd) nofun
  case handler => exact h.handler
  case stopped =>
    intro r hr hok hlive
    rcases List.mem_append.1 hr with hr | hr
    · exact h.stopped r hr hok hlive
    · obtain rfl := List.mem_singleton.1 hr
      exact hstopped hlive

lemma teardown (h : Parts s) (hb : s.boot = none) : Parts s.teardown where
  created _ hb' := absurd (hb.symm.trans hb') nofun
  early _ hb' := absurd (hb.symm.trans hb') nofun
  free _ := rfl
  active := nofun
  session := nofun
  handler := h.handler
  stopped := h.stopped

lemma dialled (h : Parts s) (hb : s.boot = some b) (hpoint : b.point = .dialling)
    (hup : s.handler = false) (channel : Bool) :
    Parts { s.goTo b .asking with channel := channel, dropped := false } := by
  have hgo : Parts (s.goTo b .asking) :=
    h.goTo hb (by rw [hpoint]; rfl) (fun _ => by rw [hpoint]; rfl)
      (by rw [hpoint]; exact nofun) nofun
  have hdevice : s.device = false := (h.created b hb).trans (by rw [hpoint]; rfl)
  exact {
    created := hgo.created
    early := hgo.early
    free := nofun
    active := fun hd => absurd (hdevice.symm.trans hd) nofun
    session := fun hd => absurd (hdevice.symm.trans hd) nofun
    handler := fun hh => absurd (hup.symm.trans hh) nofun
    stopped := h.stopped }

lemma answeredLive (h : Parts s) (hb : s.boot = some b) (hpoint : b.point = .starting)
    {point : Point} (hcreated : point.created = false) (hearly : point.early = false) :
    Parts { s with boot := some { b with live := true, point } } := by
  have hdevice : s.device = false := (h.created b hb).trans (by rw [hpoint]; rfl)
  constructor
  case created =>
    intro b' hb'
    cases hb'
    exact hdevice.trans hcreated.symm
  case early =>
    intro b' hb' h'
    cases hb'
    exact absurd (hearly.symm.trans h') nofun
  case free => exact nofun
  case active => exact fun hd => absurd (hdevice.symm.trans hd) nofun
  case session => exact fun hd => absurd (hdevice.symm.trans hd) nofun
  case handler => exact h.handler
  case stopped => exact h.stopped

lemma create (h : Parts s) : Parts { s.goTo b .activating with
    device := true, sessionGeneration := s.sessionGeneration + 1 } where
  created b' hb' := by
    cases hb'
    rfl
  early b' hb' h' := by
    cases hb'
    cases h'
  free := nofun
  active _ hall := absurd rfl (hall _ rfl)
  session _ hall := absurd (hall _ rfl) nofun
  handler := h.handler
  stopped := h.stopped

lemma activate (h : Parts s) (hb : s.boot = some b) (hpoint : b.point = .activating) :
    Parts { s.goTo b .subscribing with activeGeneration := s.sessionGeneration } where
  created b' hb' := by
    cases hb'
    exact (h.created b hb).trans (by rw [hpoint]; rfl)
  early b' hb' h' := by
    cases hb'
    cases h'
  free := nofun
  active _ _ := rfl
  session _ hall := absurd (hall _ rfl) nofun
  handler := h.handler
  stopped := h.stopped

lemma mark (h : Parts s) (hb : s.boot = some b) (hpoint : b.point = .marking) :
    Parts { s.goTo b .listening with hasSession := true } where
  created b' hb' := by
    cases hb'
    exact (h.created b hb).trans (by rw [hpoint]; rfl)
  early b' hb' h' := by
    cases hb'
    cases h'
  free := nofun
  active hd _ := by
    refine h.active hd ?_
    intro b' hb'
    cases hb.symm.trans hb'
    rw [hpoint]
    exact nofun
  session _ _ := .inl rfl
  handler := h.handler
  stopped := h.stopped

lemma succeed (h : Parts s) (hb : s.boot = some b) (hpoint : b.point = .arming) :
    Parts { s with boot := none, lastOk := true, log := s.log ++ [⟨true, b.live, b.stopped⟩] } where
  created := nofun
  early := nofun
  free _ := (h.created b hb).trans (by rw [hpoint]; rfl)
  active hd _ := by
    refine h.active hd ?_
    intro b' hb'
    cases hb.symm.trans hb'
    rw [hpoint]
    exact nofun
  session hd _ := by
    refine h.session hd ?_
    intro b' hb'
    cases hb.symm.trans hb'
    rw [hpoint]
    rfl
  handler := h.handler
  stopped r hr hok hlive := by
    rcases List.mem_append.1 hr with hr | hr
    · exact h.stopped r hr hok hlive
    · obtain rfl := List.mem_singleton.1 hr
      cases hok

lemma of_watch (h : Parts s) (syncRunning syncStop : Bool) (syncGeneration : ℕ)
    (watch : Option WatchAt) :
    Parts { s with syncRunning, syncStop, syncGeneration, watch } :=
  ⟨h.created, h.early, h.free, h.active, h.session, h.handler, h.stopped⟩

lemma armed (h : Parts s) (started : Bool) : Parts (s.armed started) := by
  unfold State.armed
  split_ifs
  · exact h
  · exact h.of_watch _ _ _ _
  · exact h.of_watch _ _ _ _
  · exact h.of_watch _ _ _ _

lemma part (h : Parts s) (hb : s.boot = some b) (hdid : Did s b a s')
    (hcond : endsHalf s a = false) : Parts s' := by
  have hlive : b.point.early = true → b.live = true → b.stopped = true :=
    fun hearly hl => absurd ((h.early b hb hearly).symm.trans hl) nofun
  cases hdid with
  | up reached hpoint hup =>
    have hhandler : s.handler = false := by
      rw [← Bool.not_eq_true]
      exact fun hh => absurd ((h.handler hh).1.symm.trans hup) nofun
    exact h.dialled hb hpoint hhandler s.channel
  | dialled hpoint hhandler => exact h.dialled hb hpoint hhandler true
  | unreached hpoint => exact h.fail hb (by rw [hpoint]; rfl) (hlive (by rw [hpoint]; rfl))
  | greeted greeting hpoint =>
    cases greeting with
    | declined => exact h.fail hb (by rw [hpoint]; rfl) (hlive (by rw [hpoint]; rfl))
    | adopts => exact h.goTo hb (by rw [hpoint]; rfl) nofun (by rw [hpoint]; exact nofun) nofun
    | starts =>
      exact h.goTo hb (by rw [hpoint]; rfl) (fun _ => by rw [hpoint]; rfl)
        (by rw [hpoint]; exact nofun) nofun
  | answered answer hpoint =>
    cases answer with
    | dead => exact h.fail hb (by rw [hpoint]; rfl) (hlive (by rw [hpoint]; rfl))
    | other | kept => exact h.answeredLive hb hpoint rfl rfl
  | refused hpoint =>
    exact h.fail hb (by rw [hpoint]; rfl) fun _ => by simpa [endsHalf] using hcond
  | created => exact h.create
  | activated hpoint => exact h.activate hb hpoint
  | subscribed hpoint =>
    exact h.goTo hb (by rw [hpoint]; rfl) nofun (by rw [hpoint]; exact nofun) nofun
  | marked hpoint => exact h.mark hb hpoint
  | listened hpoint =>
    exact h.goTo hb (by rw [hpoint]; rfl) nofun (by rw [hpoint]; exact nofun)
      (fun _ => by rw [hpoint]; rfl)
  | armed started hpoint =>
    have hboot : (s.armed true).boot = some b := by
      rw [← hb]
      unfold State.armed
      split_ifs <;> rfl
    have hlog : (s.armed true).log = s.log := by
      unfold State.armed
      split_ifs <;> rfl
    rw [← hlog]
    exact (h.armed true).succeed hboot hpoint
  | unarmed started hstarted =>
    rw [endsHalf, hstarted] at hcond
    cases hcond
  | thrown =>
    have hlate : b.live = false ∧ b.point.created = false := by simpa [endsHalf, hb] using hcond
    exact h.fail hb hlate.2 fun hl => absurd (hlate.1.symm.trans hl) nofun

end Parts

/-! ### The watchdog -/

/-- The watchdog and the session it watches. -/
structure Watched (s : State) : Prop where
  running : s.syncRunning = s.watch.isSome
  behind : s.syncGeneration ≤ s.sessionGeneration
  checking : ∀ g, s.watch = some (.checking g) → g ≤ s.sessionGeneration
  checked : ∀ g state, s.watch = some (.checked g state) → g ≤ s.sessionGeneration
  /-- The check's session is over where it was found stale or refused. -/
  ended : ∀ g state, s.watch = some (.checked g state) → state = .stale ∨ state = .refused →
    g = s.sessionGeneration → s.device = false
  watched : s.boot = none → s.lastOk = true → s.device = true →
    s.syncStop = true ∨ s.watch ≠ none ∧ s.syncGeneration = s.sessionGeneration

/-- The watchdog and its session as they were, under a bootstrap or one that failed. -/
structure Unwatched (s s' : State) : Prop where
  syncRunning : s'.syncRunning = s.syncRunning
  syncStop : s'.syncStop = s.syncStop
  syncGeneration : s'.syncGeneration = s.syncGeneration
  watch : s'.watch = s.watch
  sessionGeneration : s'.sessionGeneration = s.sessionGeneration
  device : s'.device = s.device
  failed : s'.boot = none → s'.lastOk = false

namespace Watched

lemma init : Watched {} where
  running := rfl
  behind := le_refl 0
  checking := nofun
  checked := nofun
  ended := nofun
  watched := nofun

lemma of_unwatched (h : Watched s) (hu : Unwatched s s') : Watched s' where
  running := by rw [hu.syncRunning, hu.watch, h.running]
  behind := by
    rw [hu.syncGeneration, hu.sessionGeneration]
    exact h.behind
  checking g hg := by
    rw [hu.watch] at hg
    rw [hu.sessionGeneration]
    exact h.checking g hg
  checked g state hg := by
    rw [hu.watch] at hg
    rw [hu.sessionGeneration]
    exact h.checked g state hg
  ended g state hg hstate hgen := by
    rw [hu.watch] at hg
    rw [hu.sessionGeneration] at hgen
    rw [hu.device]
    exact h.ended g state hg hstate hgen
  watched hboot hok := absurd ((hu.failed hboot).symm.trans hok) nofun

lemma next (h : Watched s) (hsync : s'.syncRunning = s.syncRunning)
    (hgen : s'.syncGeneration = s.syncGeneration) (hwatch : s'.watch = s.watch)
    (hsession : s'.sessionGeneration = s.sessionGeneration + 1)
    (hlast : s'.boot = none → s'.lastOk = false) : Watched s' where
  running := by rw [hsync, hwatch, h.running]
  behind := by
    rw [hgen, hsession]
    exact Nat.le_succ_of_le h.behind
  checking g hg := by
    rw [hwatch] at hg
    rw [hsession]
    exact Nat.le_succ_of_le (h.checking g hg)
  checked g state hg := by
    rw [hwatch] at hg
    rw [hsession]
    exact Nat.le_succ_of_le (h.checked g state hg)
  ended g state hg _ heq := by
    rw [hwatch] at hg
    have hle := h.checked g state hg
    omega
  watched hboot hok := absurd ((hlast hboot).symm.trans hok) nofun

lemma armed (h : Watched s) {log : List Returned} :
    Watched { s.armed true with boot := none, lastOk := true, log := log } := by
  unfold State.armed
  split_ifs with hstop hrunning
  · exact ⟨h.running, h.behind, h.checking, h.checked, h.ended, fun _ _ _ => .inl hstop⟩
  · have hne : s.watch ≠ none := by
      rw [← Option.isSome_iff_ne_none, ← h.running]
      exact hrunning
    exact ⟨h.running, le_refl _, h.checking, h.checked, h.ended, fun _ _ _ => .inr ⟨hne, rfl⟩⟩
  · exact ⟨rfl, le_refl _, nofun, nofun, nofun, fun _ _ _ => .inr ⟨nofun, rfl⟩⟩
  case neg hstarted => exact absurd rfl hstarted

lemma at_watch (h : Watched s) {watch : WatchAt} (hs : s.watch ≠ none)
    (hchecking : ∀ g, watch = .checking g → g ≤ s.sessionGeneration)
    (hchecked : ∀ g state, watch = .checked g state → g ≤ s.sessionGeneration)
    (hended : ∀ g state, watch = .checked g state → state = .stale ∨ state = .refused →
      g = s.sessionGeneration → s.device = false) :
    Watched { s with watch := some watch } where
  running := by
    rw [h.running]
    exact Option.isSome_iff_ne_none.2 hs
  behind := h.behind
  checking g hg := hchecking g (Option.some.inj hg)
  checked g state hg := hchecked g state (Option.some.inj hg)
  ended g state hg := hended g state (Option.some.inj hg)
  watched hboot hok hdevice :=
    (h.watched hboot hok hdevice).imp id fun hw => ⟨Option.some_ne_none _, hw.2⟩

lemma stop (h : Watched s) (hover : s.syncStop = true ∨
    (s.syncGeneration = s.sessionGeneration → s.device = false)) :
    Watched { s with syncRunning := false, watch := none } where
  running := rfl
  behind := h.behind
  checking := nofun
  checked := nofun
  ended := nofun
  watched hboot hok hdevice := by
    rcases hover with hstop | hgone
    · exact .inl hstop
    · rcases h.watched hboot hok hdevice with hstop | ⟨-, hgen⟩
      · exact .inl hstop
      · exact absurd ((hgone hgen).symm.trans hdevice) nofun

lemma checkSessionSync (h : Watched s) {g : ℕ} (hat : s.watch = some (.checking g))
    {state : RpcSyncState} (hstate : state ≠ .stale) :
    Watched (s.checkSessionSync g state) := by
  have hne : s.watch ≠ none := by
    rw [hat]
    exact Option.some_ne_none _
  have hle := h.checking g hat
  unfold State.checkSessionSync
  split_ifs with hstale hrefused
  · refine h.at_watch hne nofun ?_ ?_
    · rintro g' state' ⟨⟩
      exact hle
    · rintro g' state' ⟨⟩ - heq
      exact hstale.resolve_left (not_not_intro heq)
  · have hnext : Watched s.teardown := h.next rfl rfl rfl rfl fun _ => rfl
    refine hnext.at_watch hne nofun ?_ ?_
    · rintro g' state' ⟨⟩
      exact Nat.le_succ_of_le hle
    · exact fun _ _ _ _ _ => rfl
  · refine h.at_watch hne nofun ?_ ?_
    · rintro g' state' ⟨⟩
      exact hle
    · rintro g' state' ⟨⟩ hor
      exact absurd hor (not_or.2 ⟨hstate, hrefused⟩)

lemma conclude (h : Watched s) {g : ℕ} {state : RpcSyncState}
    (hat : s.watch = some (.checked g state)) : Watched (s.conclude g state) := by
  have hne : s.watch ≠ none := by
    rw [hat]
    exact Option.some_ne_none _
  unfold State.conclude
  split_ifs with hagain hend
  · exact h.at_watch hne nofun nofun nofun
  · refine h.stop ?_
    rcases hend with hstop | hend
    · exact .inl hstop
    · by_cases hstop : s.syncStop = true
      · exact .inl hstop
      · refine .inr fun hgen => h.ended g state hat hend ?_
        -- the thread would have gone round for another generation
        have hsame : s.syncGeneration = g := by
          by_contra hother
          exact hagain ⟨Bool.eq_false_iff.2 hstop, hother⟩
        exact hsame.symm.trans hgen
  · exact h.at_watch hne nofun nofun nofun

lemma part (h : Watched s) (hdid : Did s b a s') (hcond : endsHalf s a = false) : Watched s' := by
  cases hdid with
  | created => exact h.next rfl rfl rfl rfl nofun
  | armed => exact h.armed
  | unarmed started hstarted =>
    rw [endsHalf, hstarted] at hcond
    cases hcond
  | greeted greeting => cases greeting with
    | declined => exact h.of_unwatched ⟨rfl, rfl, rfl, rfl, rfl, rfl, fun _ => rfl⟩
    | _ => exact h.of_unwatched ⟨rfl, rfl, rfl, rfl, rfl, rfl, nofun⟩
  | answered answer => cases answer with
    | dead => exact h.of_unwatched ⟨rfl, rfl, rfl, rfl, rfl, rfl, fun _ => rfl⟩
    | _ => exact h.of_unwatched ⟨rfl, rfl, rfl, rfl, rfl, rfl, nofun⟩
  | unreached | refused | thrown =>
    exact h.of_unwatched ⟨rfl, rfl, rfl, rfl, rfl, rfl, fun _ => rfl⟩
  | _ => exact h.of_unwatched ⟨rfl, rfl, rfl, rfl, rfl, rfl, nofun⟩

lemma wake (h : Watched s) (hat : s.watch = some .waiting) :
    Watched (if s.syncStop then { s with syncRunning := false, watch := none }
      else { s with watch := some (.checking s.syncGeneration) }) := by
  split_ifs with hstop
  · exact h.stop (.inl hstop)
  · refine h.at_watch (by rw [hat]; exact Option.some_ne_none _) ?_ nofun nofun
    rintro g ⟨⟩
    exact h.behind

end Watched

/-! ### Every run -/

/-- What holds of every state of a run in which no bootstrap ends halfway. -/
structure Whole (s : State) : Prop where
  parts : Parts s
  watched : Watched s

namespace Whole

lemma init : Whole {} := ⟨.init, .init⟩

lemma begin (h : Whole s) (hdevice : s.device = false) : Whole { s with boot := some {} } where
  parts := {
    created := by
      intro b hb
      cases hb
      exact hdevice
    early := by
      intro b hb _
      cases hb
      rfl
    free := nofun
    active := fun hd => absurd (hdevice.symm.trans hd) nofun
    session := fun hd => absurd (hdevice.symm.trans hd) nofun
    handler := h.parts.handler
    stopped := h.parts.stopped }
  watched := h.watched.of_unwatched ⟨rfl, rfl, rfl, rfl, rfl, rfl, nofun⟩

lemma of_channel (h : Whole s) {hasSession channel handler dropped : Bool}
    (hkept : s.dropped = true → dropped = true)
    (hsession : s.hasSession = true → hasSession = true ∨ dropped = true)
    (hhandler : handler = true → channel = false ∧ dropped = true) :
    Whole { s with hasSession, channel, handler, dropped } where
  parts := {
    h.parts with
    session := fun hd hall => (h.parts.session hd hall).elim hsession fun hdr => .inr (hkept hdr)
    handler := hhandler }
  watched := ⟨h.watched.running, h.watched.behind, h.watched.checking, h.watched.checked,
    h.watched.ended, h.watched.watched⟩

lemma checkSessionSync (h : Whole s) (hfree : s.boot = none) {g : ℕ} {state : RpcSyncState}
    (hat : s.watch = some (.checking g)) (hstate : state ≠ .stale) :
    Whole (s.checkSessionSync g state) where
  parts := by
    unfold State.checkSessionSync
    split_ifs
    · exact h.parts.of_watch _ _ _ _
    · exact (h.parts.teardown hfree).of_watch _ _ _ _
    · exact h.parts.of_watch _ _ _ _
  watched := h.watched.checkSessionSync hat hstate

lemma conclude (h : Whole s) {g : ℕ} {state : RpcSyncState}
    (hat : s.watch = some (.checked g state)) : Whole (s.conclude g state) where
  parts := by
    unfold State.conclude
    split_ifs
    · exact h.parts.of_watch _ _ _ _
    · exact h.parts.of_watch _ _ _ _
    · exact h.parts.of_watch _ _ _ _
  watched := h.watched.conclude hat

lemma step (h : Whole s) (hs : step s a = some s') (hcond : endsHalf s a = false) : Whole s' := by
  unfold Bootstrap.step at hs
  split at hs
  case h_1 =>
    split_ifs at hs with hfree
    cases hs
    exact h.begin hfree.2
  case h_2 =>
    split_ifs at hs with hfree
    cases hs
    exact ⟨h.parts.teardown hfree, h.watched.next rfl rfl rfl rfl fun _ => rfl⟩
  case h_3 =>
    split at hs
    case h_1 hat =>
      cases hs
      refine ⟨?_, h.watched.wake hat⟩
      split_ifs
      · exact h.parts.of_watch _ _ _ _
      · exact h.parts.of_watch _ _ _ _
    case h_2 => cases hs
  case h_4 state =>
    split at hs
    case h_1 g hat =>
      split_ifs at hs with hfree
      cases hs
      exact h.checkSessionSync hfree.1 hat hfree.2
    case h_2 => cases hs
  case h_5 =>
    split at hs
    case h_1 g state hat =>
      cases hs
      exact h.conclude hat
    case h_2 => cases hs
  case h_6 =>
    cases hs
    exact ⟨h.parts.of_watch _ _ _ _, h.watched.running, h.watched.behind, h.watched.checking,
      h.watched.checked, h.watched.ended, fun _ _ _ => .inl rfl⟩
  case h_7 =>
    split_ifs at hs
    cases hs
    exact h.of_channel (fun _ => rfl) .inl fun _ => ⟨rfl, rfl⟩
  case h_8 =>
    split_ifs at hs with hhandler
    cases hs
    exact h.of_channel id (fun _ => .inr (h.parts.handler hhandler).2) nofun
  case h_9 =>
    split_ifs at hs
    cases hs
    exact h.of_channel id .inl nofun
  case h_10 =>
    split_ifs at hs with hdown
    cases hs
    exact h.of_channel id .inl fun hh => absurd (hdown.2.2.symm.trans hh) nofun
  case h_11 =>
    obtain ⟨b, hb, hs⟩ := Option.bind_eq_some_iff.1 hs
    exact ⟨h.parts.part hb (did hs) hcond, h.watched.part (did hs) hcond⟩

lemma allOrNothing (h : Whole s) : AllOrNothing s where
  device hfree := by rw [h.parts.free hfree]
  watched hfree hdevice :=
    h.watched.watched hfree ((h.parts.free hfree).symm.trans hdevice) hdevice
  active hfree hdevice := h.parts.active hdevice fun _ hb => absurd (hfree.symm.trans hb) nofun
  session hfree hdevice := h.parts.session hdevice fun _ hb => absurd (hfree.symm.trans hb) nofun
  stopped := h.parts.stopped

end Whole

/-- In a run in which no bootstrap ends halfway, the session is all there or not there. -/
theorem session_all_or_nothing {es : List (Transition State Act)} (h : CondRuns es s) :
    AllOrNothing s := by
  have hwhole : Whole s := by
    induction h with
    | nil hs =>
      rw [hs]
      exact .init
    | snoc _ hs ih => exact ih.step hs.1 hs.2
  exact hwhole.allOrNothing

/-- The service refuses a session, and the channel drops under the second one. -/
theorem session_all_or_nothing_connect : ∃ es s, CondRuns es s ∧ AllOrNothing s ∧
    es.map Transition.label =
      [.begin, .dial true, .greet .starts, .start .kept, .create, .activate, .subscribe, .mark,
        .listen, .arm true, .wake, .check .refused, .begin, .dial true, .greet .starts,
        .start .kept, .create, .activate, .subscribe, .mark, .listen, .arm true, .conclude,
        .drop, .handle] := by
  have hfollow : ∃ s, follow
      (fun (s : State) a => if endsHalf s a = false then step s a else none) {}
      [.begin, .dial true, .greet .starts, .start .kept, .create, .activate, .subscribe, .mark,
        .listen, .arm true, .wake, .check .refused, .begin, .dial true, .greet .starts,
        .start .kept, .create, .activate, .subscribe, .mark, .listen, .arm true, .conclude,
        .drop, .handle] = some s :=
    ⟨_, rfl⟩
  obtain ⟨s, hs⟩ := hfollow
  obtain ⟨es, hrun, hlabels⟩ := (Run.nil rfl : CondRuns [] {}).follow
    (fun _ s a s' h => (Option.ite_none_right_eq_some.1 h).symm) hs
  exact ⟨es, s, hrun, session_all_or_nothing hrun, hlabels⟩

/-- **Half a session.**  A call throws once the device is constructed: it stays, with no
watchdog and no flag, and no `stop_tunnel` was sent. -/
theorem half_a_session : ∃ es s, Runs es s ∧ ¬ AllOrNothing s := by
  have hfollow : ∃ s, follow step {}
      [.begin, .dial true, .greet .starts, .start .kept, .create, .throw] = some s ∧
      s.boot = none ∧ s.device = true ∧ s.lastOk = false :=
    ⟨_, rfl, rfl, rfl, rfl⟩
  obtain ⟨s, hs, hfree, hdevice, hlast⟩ := hfollow
  obtain ⟨es, hrun, -⟩ := (Run.nil rfl : Runs [] {}).follow (fun _ _ _ _ h => h) hs
  refine ⟨es, s, hrun, fun h => ?_⟩
  exact absurd (hlast.symm.trans ((h.device hfree).1 hdevice)) nofun

end UrnetworkWindows.Bootstrap
