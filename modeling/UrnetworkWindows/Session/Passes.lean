/-
The passes of the session worker, and what goes on beside them (`SdkHost.cpp`:
`SessionWorkerLoop`, the gates of `BootstrapSession`, `ReconcileProviderLocked`, `Logout` and
its tail, `RegisterNetworkClient`, `ApplyNetworkServer` and `Quit`).

A pass takes its request out of the slot, waits for `mutex_`, which is given to any waiter,
and goes through its parts while it holds it.  What the service answers and what it holds,
the saved record and the outcome of every call are arbitrary.  What a pass drives the SDK to
is left out, but for the sends of `start_tunnel` and `start_provider`.

Each step is what one thread does under one lock, or between two calls that may wait.
-/
import UrnetworkWindows.Lib.Exclusive
import UrnetworkWindows.Session.Gesture
import UrnetworkWindows.Session.Slot
import UrnetworkWindows.SignOut.Run

namespace UrnetworkWindows.SessionPasses

open Lib Session
open SessionSlot (Slot SessionRequest At)
open SignOut (SignOutRun)

/-- An account whose credentials a space stores.  `since` is how many requests the slot had
held when they were stored. -/
structure Account where
  since : ℕ
deriving DecidableEq, Repr

/-- Who holds `mutex_`: a pass, a sign-out's tail, the quit, a change of the network server, a
write, or any other caller. -/
inductive Holder
  | pass
  | tail
  | quit
  | change
  | write
  | caller
deriving DecidableEq, Repr

/-- What a pass does next: it settles an owed sign-out, drops the device of a dead session,
asks the service and decides; performs its plan; goes through the gates of
`BootstrapSession`, starts and builds; and reconciles the provider. -/
inductive Point
  | settling
  | clearing
  | asking
  | stopping (plan : Plan)
  | tearing (plan : Plan)
  | entering
  | dialling (account : Account)
  | checking (account : Account)
  | greeting (account : Account)
  | saving (account : Account)
  | starting (account : Account)
  | building
  | reconciling
  | askingProvider (provides : Bool)
  | startingProvider
  | over
deriving DecidableEq, Repr

/-- A pass: the thread it is on, the place of its request among the recorded ones, the request,
and what is next. -/
structure Pass where
  worker : ℕ
  id : ℕ
  request : SessionRequest
  point : Point
deriving DecidableEq, Repr

/-- Where `Logout` is on the thread that was clicked on. -/
inductive LogoutAt
  | clearing
  | leaving
deriving DecidableEq, Repr

/-- Where the tail of a sign-out is. -/
inductive TailAt
  | waiting
  | forgetting
  | owing
  | delivering
  | closing
  | ending
deriving DecidableEq, Repr

/-- Where `ApplyNetworkServer` is. -/
inductive ChangeAt
  | waiting
  | replacing
deriving DecidableEq, Repr

/-- Where a sign-in attempt is in `RegisterNetworkClient`: on its way there, waiting for a
sign-out to end, about to install the api's credential, waiting for the answer, its
credentials stored, or done. -/
inductive AttemptAt
  | begun
  | deferred
  | installing
  | asked
  | stored
  | done
deriving DecidableEq, Repr

/-- A sign-in attempt, with the epoch it read when it began. -/
structure Attempt where
  epoch : ℕ
  stage : AttemptAt := .begun
deriving DecidableEq, Repr

/-- Where the quit is: before each part of `QuitInOrder`, or past it. -/
inductive QuitAt
  | dropping
  | settling
  | unlocked
  | joining
  | waiting
  | dialling
  | stopping
  | retiring
  | closing
  | done
deriving DecidableEq, Repr

/-- The tail holds `mutex_`. -/
def TailAt.inside : TailAt → Bool
  | .waiting => false
  | .ending => false
  | _ => true

/-- The quit holds `mutex_`. -/
def QuitAt.inside : QuitAt → Bool
  | .dialling => true
  | .stopping => true
  | .retiring => true
  | .closing => true
  | _ => false

/-- The quit has joined the writer and the tail's thread. -/
def QuitAt.joined : QuitAt → Bool
  | .dropping => false
  | .settling => false
  | .unlocked => false
  | .joining => false
  | _ => true

/-- The app.  `stored` are the credentials in the spaces' local states; the signed-in flag and
the quit's latch are in the slot; `jobs` are the queued writes. -/
structure State where
  slot : Slot
  wantsTunnel : Bool
  stored : ℕ → Option Account
  space : ℕ
  owed : Bool
  holder : Option Holder := none
  pass : Option Pass := none
  device : Bool := false
  channel : Bool := false
  userDisconnected : Bool := false
  run : SignOutRun ℕ := {}
  logout : Option LogoutAt := none
  tail : Option TailAt := none
  attempts : List Attempt := []
  change : Option ChangeAt := none
  jobs : ℕ := 0
  quit : Option QuitAt := none

/-- `provide::DisconnectedStep`. -/
inductive DisconnectedStep
  | none
  | stop
  | start
deriving DecidableEq, Repr

/-- The parts of a pass, with what comes from outside: whether the service was reached and did
what it was asked, what it said and what the app reads of itself, whether the session it holds
is live in the wanted mode and is the saved record's, and how each call ended. -/
inductive Part
  | settleSignOut (reached delivered : Bool)
  | clear
  | ask (facts : ServiceFacts) (killSwitch : Bool) (health : HealthState)
  | stopTunnel
  | tearDown
  | gate
  | dial (reached : Bool)
  | checkOwed
  | greet (accepted live known : Bool)
  | saveRecord (saved : Bool)
  | startTunnel (kept : Bool)
  | build (device : Bool)
  | reconcile (provides settled : Bool)
  | askProvider (answered : Bool) (step : DisconnectedStep)
  | startProvider
deriving DecidableEq, Repr

/-- What happens: the slot's own steps; a pass that gets the lock, its parts and its end;
`Logout` on the click, and its tail; a sign-in attempt; a change of the network server; the
quit; the writes and the other callers of the lock; and the channel, which drops. -/
inductive Act
  | slot (a : SessionSlot.Act)
  | enter (worker : ℕ)
  | pass (part : Part)
  | finish
  | logout
  | logoutClear
  | logoutLeave
  | tailEnter
  | tailForget (done : Bool)
  | tailOwe
  | tailDeliver (reached delivered : Bool)
  | tailClose
  | tailFinish
  | attempt
  | register (attempt : ℕ)
  | install (attempt : ℕ)
  | answer (attempt : ℕ) (stored : Bool)
  | confirm (attempt : ℕ)
  | change
  | changeEnter
  | changeSpace (space : ℕ) (derived : Bool)
  | changeFail
  | quit
  | quitDrop
  | quitWait (settled : Bool)
  | quitStopUnlocked
  | quitJoin
  | quitEnter
  | quitDial (reached : Bool)
  | quitStop
  | quitRetire
  | quitClose
  | queue
  | writeEnter
  | writeLeave
  | callerEnter
  | callerLeave
  | drop
deriving DecidableEq, Repr

/-- A step of the slot that is not a part of another step here. -/
def free : SessionSlot.Act → Bool
  | .logout => false
  | .settle => false
  | .latch => false
  | .setLoggedIn _ => false
  | .finish _ => false
  | _ => true

namespace State

variable (s : State)

/-- The pass goes on to `point`, and gives `mutex_` back with its last part. -/
def goTo (p : Pass) (point : Point) : State :=
  { s with
    pass := some { p with point }
    holder := if point = .over then none else s.holder }

/-- The slot takes a step. -/
def slotStep (a : SessionSlot.Act) : Option State :=
  (SessionSlot.step s.slot a).map fun slot => { s with slot }

/-- `signout::Obligation::Settle`: the channel is dialled when it is down, and what is owed is
cleared only when the service did all of it. -/
def settle (reached delivered : Bool) : State :=
  { s with
    channel := s.channel || reached
    owed := !((s.channel || reached) && delivered) }

/-- In `SessionWorkerLoop`: what the service and the app say. -/
def factsOf (facts : ServiceFacts) : ServiceFacts :=
  { facts with
    pipeUp := s.channel
    known := s.channel && facts.known }

/-- In `SessionWorkerLoop`: the user's last word. -/
def noteGesture (g : Gesture) : State :=
  { s with userDisconnected :=
      match g with
      | .connect => false
      | .connectRow => false
      | .disconnect => true
      | _ => s.userDisconnected }

/-- In `SessionWorkerLoop`: the decision. -/
def plan (g : Gesture) (facts : ServiceFacts) (killSwitch : Bool) (health : HealthState) : Plan :=
  g.decide (s.factsOf facts)
    { haveDevice := s.device
      killSwitch
      wantsTunnel := s.wantsTunnel
      userDisconnected := (s.noteGesture g).userDisconnected
      health }

/-- `BootstrapSession` past the hello: the session the service holds is adopted, declined or
replaced by a new one. -/
def greeted (kind : ConnectKind) (account : Account) (live known : Bool) : Point :=
  if live && known then .building
  else if gestureOf kind = .ensureSession then .reconciling
  else .saving account

/-- `ReconcileProviderLocked`: something is asked of the service. -/
def reconciles (provides settled : Bool) : Bool :=
  !s.device && !s.slot.quitting && (provides || !settled) && s.channel

/-- In `ReconcileProviderLocked`: the account signed in provides. -/
def providesFor (provides : Bool) : Bool :=
  provides && s.slot.loggedIn && (s.stored s.space).isSome

/-- One part of a pass for a request: what it leaves, and what is next. -/
def advance (kind : ConnectKind) : Point → Part → Option (State × Point)
  | .settling, .settleSignOut reached delivered =>
    some (if s.owed then s.settle reached delivered else s,
      if kind = .provider then .reconciling else .clearing)
  | .clearing, .clear => some ({ s with device := s.device && s.channel }, .asking)
  | .asking, .ask facts killSwitch health =>
    some (s.noteGesture (gestureOf kind),
      .stopping (s.plan (gestureOf kind) facts killSwitch health))
  | .stopping plan, .stopTunnel => some (s, .tearing plan)
  | .tearing plan, .tearDown =>
    some ({ s with device := s.device && !plan.tearDownDevice },
      if plan.startTunnel then .entering else .reconciling)
  | .entering, .gate =>
    some (s, if s.slot.loggedIn then (s.stored s.space).elim .reconciling Point.dialling
      else .reconciling)
  | .dialling account, .dial reached =>
    some ({ s with channel := s.channel || reached },
      if s.channel || reached then .checking account else .reconciling)
  | .checking account, .checkOwed => some (s, if s.owed then .reconciling else .greeting account)
  | .greeting account, .greet accepted live known =>
    some (s, if accepted then greeted kind account live known else .reconciling)
  | .saving account, .saveRecord saved =>
      some (s, if saved then .starting account else .reconciling)
  | .starting _, .startTunnel kept => some (s, if kept then .building else .reconciling)
  | .building, .build device => some ({ s with device }, .reconciling)
  | .reconciling, .reconcile provides settled =>
    some (s, if s.reconciles (s.providesFor provides) settled then
      .askingProvider (s.providesFor provides) else .over)
  | .askingProvider provides, .askProvider answered step =>
    some (s, if answered && provides && step = .start && !s.owed then .startingProvider else .over)
  | .startingProvider, .startProvider => some (s, .over)
  | _, _ => none

/-- One part of a pass. -/
def part (p : Pass) (x : Part) : Option State :=
  (s.advance p.request.kind p.point x).map fun t => t.1.goTo p t.2

/-- An attempt goes on. -/
def attemptTo (k : ℕ) (a : Attempt) (stage : AttemptAt) : State :=
  { s with attempts := s.attempts.set k { a with stage } }

/-- `RegisterNetworkClient`, its call of `Defer`: the sign-in it replaces is told. -/
def register (k : ℕ) (a : Attempt) : State :=
  let (deferred, replaced, run) := s.run.defer k a.epoch
  let s := { s.attemptTo k a (if deferred then .deferred else .installing) with run }
  match replaced.bind fun j => (s.attempts[j]?).map (j, ·) with
  | some (j, b) => s.attemptTo j b .done
  | none => s

/-- `RegisterNetworkClient`, the section that installs the api's credential. -/
def install (k : ℕ) (a : Attempt) : State :=
  if s.run.epoch = a.epoch then { s.attemptTo k a .asked with device := false }
  else s.attemptTo k a .done

/-- `RegisterNetworkClient`, the section that stores the answer. -/
def answer (k : ℕ) (a : Attempt) (stored : Bool) : State :=
  if s.run.epoch = a.epoch && stored then
    { s.attemptTo k a .stored with
      stored := Function.update s.stored s.space (some ⟨s.slot.records.length⟩) }
  else s.attemptTo k a .done

/-- `RegisterNetworkClient`, `SetRegistrationAuthState`. -/
def confirm (k : ℕ) (a : Attempt) : State :=
  let s := s.attemptTo k a .done
  if s.run.applyIfCurrent a.epoch then { s with slot := { s.slot with loggedIn := true } } else s

/-- `SignOutTail` past its section: the sign-in that waited runs. -/
def tailFinish : State :=
  let (next, run) := s.run.finish
  let s := { s with run, tail := none }
  match next.bind fun k => (s.attempts[k]?).map (k, ·) with
  | some (k, a) => s.register k a
  | none => s

end State

open State

/-- One step, if it can be taken. -/
def step (s : State) : Act → Option State
  | .slot a => if free a then s.slotStep a else none
  | .enter i =>
    match s.slot.workers[i]? with
    | some (.passing id request) =>
      if s.holder = none ∧ s.pass = none then
        some { s with holder := some .pass, pass := some ⟨i, id, request, .settling⟩ }
      else none
    | _ => none
  | .pass part => s.pass.bind fun p => s.part p part
  | .finish =>
    match s.pass with
    | some p =>
      if p.point = .over then { s with pass := none }.slotStep (.finish p.worker) else none
    | none => none
  | .logout =>
    -- a sign-out that runs is joined
    if s.logout = none then
      some { s with
        run := s.run.begin.2
        logout := if s.run.begin.1 then some .clearing else none }
    else none
  | .logoutClear =>
    if s.logout = some .clearing then { s with logout := some .leaving }.slotStep .logout else none
  | .logoutLeave =>
    -- a tail asked for after the quit has joined its thread never runs
    if s.logout = some .leaving then
      { s with
        logout := none
        tail := if s.quit.any QuitAt.joined then none else some .waiting }.slotStep
          (.setLoggedIn false)
    else none
  | .tailEnter =>
    if s.tail = some .waiting ∧ s.holder = none then
      some { s with holder := some .tail, tail := some .forgetting }
    else none
  | .tailForget done =>
    if s.tail = some .forgetting then
      some (if done then
        { s with stored := Function.update s.stored s.space none, tail := some .owing }
        else { s with holder := none, tail := some .ending })
    else none
  | .tailOwe =>
    if s.tail = some .owing then some { s with owed := true, tail := some .delivering } else none
  | .tailDeliver reached delivered =>
    if s.tail = some .delivering then
      some { s.settle reached delivered with tail := some .closing }
    else none
  | .tailClose =>
    if s.tail = some .closing then
      some { s with device := false, holder := none, tail := some .ending }
    else none
  | .tailFinish => if s.tail = some .ending then some s.tailFinish else none
  | .attempt => some { s with attempts := s.attempts ++ [{ epoch := s.run.epoch }] }
  | .register k =>
    match s.attempts[k]? with
    | some a => if a.stage = .begun then some (s.register k a) else none
    | none => none
  | .install k =>
    match s.attempts[k]? with
    | some a => if a.stage = .installing ∧ s.holder = none then some (s.install k a) else none
    | none => none
  | .answer k stored =>
    match s.attempts[k]? with
    | some a => if a.stage = .asked ∧ s.holder = none then some (s.answer k a stored) else none
    | none => none
  | .confirm k =>
    match s.attempts[k]? with
    | some a => if a.stage = .stored then some (s.confirm k a) else none
    | none => none
  | .change =>
    if s.change = none ∧ s.run.running = false then some { s with change := some .waiting }
    else none
  | .changeEnter =>
    if s.change = some .waiting ∧ s.holder = none then
      some { s with holder := some .change, change := some .replacing, device := false }
    else none
  | .changeSpace space derived =>
    -- what is derived from the space may fail after the space was replaced
    if s.change = some .replacing then
      { s with space, holder := none, change := none }.slotStep
        (.setLoggedIn (if derived then (s.stored space).isSome else s.slot.loggedIn))
    else none
  | .changeFail =>
    if s.change = some .replacing then some { s with holder := none, change := none } else none
  | .quit =>
    if s.quit = none then { s with quit := some .dropping }.slotStep .latch else none
  | .quitDrop =>
    if s.quit = some .dropping then { s with quit := some .settling }.slotStep .settle else none
  | .quitWait settled =>
    if s.quit = some .settling ∧ (settled = true → s.slot.workerAlive = false) then
      some { s with quit := some (if settled then .joining else .unlocked) }
    else none
  | .quitStopUnlocked =>
    if s.quit = some .unlocked then some { s with quit := some .joining } else none
  | .quitJoin =>
    if s.quit = some .joining ∧ s.tail = none ∧ s.jobs = 0 ∧ s.holder ≠ some .write then
      some { s with quit := some .waiting }
    else none
  | .quitEnter =>
    if s.quit = some .waiting ∧ s.holder = none then
      some { s with holder := some .quit, quit := some .dialling }
    else none
  | .quitDial reached =>
    if s.quit = some .dialling then
      some { s with
        channel := s.channel || reached
        quit := some (if s.channel || reached then .stopping else .closing) }
    else none
  | .quitStop =>
    if s.quit = some .stopping then some { s with quit := some .retiring } else none
  | .quitRetire =>
    if s.quit = some .retiring then some { s with quit := some .closing } else none
  | .quitClose =>
    if s.quit = some .closing then
      some { s with device := false, holder := none, quit := some .done }
    else none
  | .queue => if s.quit.any QuitAt.joined then none else some { s with jobs := s.jobs + 1 }
  | .writeEnter =>
    if 0 < s.jobs ∧ s.holder = none then
      some { s with holder := some .write, jobs := s.jobs - 1 }
    else none
  | .writeLeave => if s.holder = some .write then some { s with holder := none } else none
  | .callerEnter => if s.holder = none then some { s with holder := some .caller } else none
  | .callerLeave => if s.holder = some .caller then some { s with holder := none } else none
  | .drop => some { s with channel := false }

/-- The app as it starts: what an earlier run left in the spaces and in the marker of an owed
sign-out. -/
def Starts (s : State) : Prop :=
  ∃ loggedIn now wantsTunnel space owed, ∃ stored : ℕ → Option Account,
    (∀ n account, stored n = some account → account.since = 0) ∧
      s = { slot := { loggedIn, now }, wantsTunnel, stored, space, owed }

/-- The runs. -/
abbrev Runs : List (Transition State Act) → State → Prop :=
  Run Starts fun _ s a s' => step s a = some s'

/-! ### What a step does -/

/-- The party is inside its section. -/
def State.inside (s : State) : Holder → Prop
  | .pass => ∃ p, s.pass = some p ∧ p.point ≠ .over
  | .tail => s.tail.any TailAt.inside = true
  | .quit => s.quit.any QuitAt.inside = true
  | .change => s.change = some .replacing
  | .write => False
  | .caller => False

/-- Only the holder of `mutex_` is inside its section. -/
abbrev Locked (s : State) : Prop := Exclusive s.holder s.inside

/-- The step of the slot that a step takes. -/
def slotAct (s : State) : Act → Option SessionSlot.Act
  | .slot b => some b
  | .finish => s.pass.map fun p => .finish p.worker
  | .logoutClear => some .logout
  | .logoutLeave => some (.setLoggedIn false)
  | .confirm k => (s.attempts[k]?).bind fun x =>
    if s.run.applyIfCurrent x.epoch then some (.setLoggedIn true) else none
  | .changeSpace space derived =>
    some (.setLoggedIn (if derived then (s.stored space).isSome else s.slot.loggedIn))
  | .quit => some .latch
  | .quitDrop => some .settle
  | _ => none

/-- A step of a pass. -/
def Act.passes : Act → Bool
  | .enter _ => true
  | .pass _ => true
  | .finish => true
  | _ => false

/-- A step of the quit. -/
def Act.quits : Act → Bool
  | .quit => true
  | .quitDrop => true
  | .quitWait _ => true
  | .quitStopUnlocked => true
  | .quitJoin => true
  | .quitEnter => true
  | .quitDial _ => true
  | .quitStop => true
  | .quitRetire => true
  | .quitClose => true
  | _ => false

/-- The step stores the credentials of a sign-in. -/
def storesAnswer (s : State) : Act → Bool
  | .answer k stored => stored && (s.attempts[k]?).any fun x => s.run.epoch = x.epoch
  | _ => false

/-- What a step does to the slot, the lock, the pass, the credentials and what is owed. -/
structure Does (s : State) (a : Act) (s' : State) : Prop where
  slot : (slotAct s a).elim (s'.slot = s.slot) fun b => SessionSlot.step s.slot b = some s'.slot
  locked : Locked s → Locked s'
  pass : a.passes = false → s'.pass = s.pass
  owed : Locked s → s'.owed = true → s.owed = true ∨ s.holder = some .tail
  stored : ∀ n account, s'.stored n = some account →
    s.stored n = some account ∨ storesAnswer s a = true ∧ account = ⟨s.slot.records.length⟩
  quit : a.quits = false → s'.quit = s.quit

/-- What a part of a pass leaves as it was. -/
structure Keeps (s t : State) : Prop where
  slot : t.slot = s.slot
  stored : t.stored = s.stored
  holder : t.holder = s.holder
  tail : t.tail = s.tail
  quit : t.quit = s.quit
  change : t.change = s.change
  owed : t.owed = true → s.owed = true

lemma Keeps.refl (s : State) : Keeps s s := ⟨rfl, rfl, rfl, rfl, rfl, rfl, id⟩

variable {s s' t : State} {a : Act} {p : Pass} {kind : ConnectKind} {point point' : Point}
    {x : Part}

lemma keeps_of_advance (hs : s.advance kind point x = some (t, point')) :
    Keeps s t ∧ point ≠ .over := by
  unfold State.advance at hs
  split at hs
  case h_16 => cases hs
  all_goals
    obtain ⟨rfl, -⟩ := Prod.mk.inj (Option.some.inj hs)
    refine ⟨?_, nofun⟩
  case h_1 =>
    split_ifs with howed
    · exact { Keeps.refl s with owed := fun _ => howed }
    · exact Keeps.refl s
  all_goals exact { Keeps.refl s with owed := id }

lemma step_enter {i : ℕ} (hs : step s (.enter i) = some s') :
    ∃ id r, s.slot.workers[i]? = some (At.passing id r) ∧ s.holder = none ∧ s.pass = none ∧
      s' = { s with holder := some .pass, pass := some ⟨i, id, r, .settling⟩ } := by
  simp only [step] at hs
  split at hs
  next id r hi =>
    obtain ⟨⟨hfree, hnone⟩, hs⟩ := Option.ite_none_right_eq_some.1 hs
    exact ⟨id, r, hi, hfree, hnone, (Option.some.inj hs).symm⟩
  next => cases hs

lemma step_pass (hs : step s (.pass x) = some s') :
    ∃ p t point, s.pass = some p ∧ s.advance p.request.kind p.point x = some (t, point) ∧
      s' = t.goTo p point := by
  obtain ⟨p, hp, hs⟩ := Option.bind_eq_some_iff.1 hs
  obtain ⟨⟨t, point⟩, hadvance, rfl⟩ := Option.map_eq_some_iff.1 hs
  exact ⟨p, t, point, hp, hadvance, rfl⟩

lemma step_finish (hs : step s .finish = some s') :
    ∃ p slot, s.pass = some p ∧ p.point = .over ∧
      SessionSlot.step s.slot (.finish p.worker) = some slot ∧
      s' = { s with slot, pass := none } := by
  simp only [step] at hs
  split at hs
  next p hp =>
    obtain ⟨hover, hs⟩ := Option.ite_none_right_eq_some.1 hs
    obtain ⟨slot, hb, rfl⟩ := Option.map_eq_some_iff.1 hs
    exact ⟨p, slot, hp, hover, hb, rfl⟩
  next => cases hs

/-- What the sign-ins leave as it was. -/
structure Aside (s t : State) : Prop where
  slot : t.slot = s.slot
  pass : t.pass = s.pass
  stored : t.stored = s.stored
  owed : t.owed = s.owed
  holder : t.holder = s.holder
  quit : t.quit = s.quit
  change : t.change = s.change
  tail : t.tail = s.tail

lemma aside_register (k : ℕ) (x : Attempt) : Aside s (s.register k x) := by
  simp only [State.register]
  split
  · exact ⟨rfl, rfl, rfl, rfl, rfl, rfl, rfl, rfl⟩
  · exact ⟨rfl, rfl, rfl, rfl, rfl, rfl, rfl, rfl⟩

lemma aside_tailFinish : Aside { s with tail := none } s.tailFinish := by
  simp only [State.tailFinish]
  split
  · exact { aside_register _ _ with }
  · exact ⟨rfl, rfl, rfl, rfl, rfl, rfl, rfl, rfl⟩

lemma inside_tail (h : s'.tail = s.tail) : s'.inside .tail → s.inside .tail := by
  simp only [State.inside, h, imp_self]

lemma inside_of_tail {x : TailAt} (hat : s.tail = some x) (hx : x.inside = true := by rfl) :
    s.inside .tail := by
  rw [State.inside, hat]
  exact hx

lemma inside_of_quit {x : QuitAt} (hat : s.quit = some x) (hx : x.inside = true := by rfl) :
    s.inside .quit := by
  rw [State.inside, hat]
  exact hx

lemma inside_quit (h : s'.quit = s.quit) : s'.inside .quit → s.inside .quit := by
  simp only [State.inside, h, imp_self]

lemma inside_change (h : s'.change = s.change) : s'.inside .change → s.inside .change := by
  simp only [State.inside, h, imp_self]

namespace Locked

variable {i : Holder}

lemma others (hpass : i = .pass ∨ s'.pass = s.pass := by first | exact .inl rfl | exact .inr rfl)
    (htail : i = .tail ∨ s'.tail = s.tail := by first | exact .inl rfl | exact .inr rfl)
    (hquit : i = .quit ∨ s'.quit = s.quit := by first | exact .inl rfl | exact .inr rfl)
    (hchange : i = .change ∨ s'.change = s.change := by first | exact .inl rfl | exact .inr rfl) :
    ∀ j, j ≠ i → s'.inside j → s.inside j := by
  intro j hj hin
  cases j with
  | pass =>
    obtain ⟨p, hp, hover⟩ := hin
    exact ⟨p, hpass.resolve_left hj.symm ▸ hp, hover⟩
  | tail => exact inside_tail (htail.resolve_left hj.symm) hin
  | quit => exact inside_quit (hquit.resolve_left hj.symm) hin
  | change => exact inside_change (hchange.resolve_left hj.symm) hin
  | write | caller => exact hin

lemma stay (hholder : s'.holder = s.holder) (hinside : ∀ j, s'.inside j → s.inside j)
    (h : Locked s) : Locked s' := by
  unfold Locked
  rw [hholder]
  exact Exclusive.stay h hinside

lemma keep (i : Holder) (hi : s'.inside i → s.inside i)
    (hothers : ∀ j, j ≠ i → s'.inside j → s.inside j) (hholder : s'.holder = s.holder := by rfl) :
    Locked s → Locked s' := by
  refine stay hholder fun j hj => ?_
  by_cases hji : j = i
  · subst hji
    exact hi hj
  · exact hothers j hji hj

lemma take (hfree : s.holder = none) (hholder : s'.holder = some i)
    (hothers : ∀ j, j ≠ i → s'.inside j → s.inside j) (h : Locked s) : Locked s' := by
  unfold Locked at h ⊢
  rw [hfree] at h
  rw [hholder]
  exact h.take hothers

lemma release (hin : s.inside i) (hout : ¬ s'.inside i)
    (hothers : ∀ j, j ≠ i → s'.inside j → s.inside j) (h : Locked s) : Locked s' := by
  have hholder := h i hin
  unfold Locked at h
  rw [hholder] at h
  exact h.release hout hothers

lemma free (hholder : s.holder = some i) (hin : ∀ j, s'.inside j → s.inside j)
    (hout : ¬ s.inside i) (h : Locked s) : Locked s' := by
  unfold Locked at h
  rw [hholder] at h
  exact h.release (fun hi => hout (hin i hi)) fun j _ => hin j

lemma goTo (hkeeps : Keeps s t) (hp : s.pass = some p) (hover : p.point ≠ .over) (h : Locked s) :
    Locked (t.goTo p point) := by
  have hin : s.inside .pass := ⟨p, hp, hover⟩
  have hothers : ∀ j, j ≠ .pass → (t.goTo p point).inside j → s.inside j :=
    others (.inl rfl) (.inr hkeeps.tail) (.inr hkeeps.quit) (.inr hkeeps.change)
  by_cases hpoint : point = .over
  · refine h.release hin ?_ hothers
    rintro ⟨q, hq, hne⟩
    cases hq
    exact hne hpoint
  · refine h.keep .pass (fun _ => hin) hothers ?_
    simp only [State.goTo, if_neg hpoint, hkeeps.holder]

end Locked

lemma Aside.locked (h : Aside s s') : Locked s → Locked s' :=
  Locked.keep .write id (Locked.others (.inr h.pass) (.inr h.tail) (.inr h.quit) (.inr h.change))
    h.holder

namespace Does

lemma of_eq (hlocked : Locked s → Locked s') (hact : slotAct s a = none := by rfl)
    (hslot : s'.slot = s.slot := by rfl) (hpass : s'.pass = s.pass := by rfl)
    (hstored : s'.stored = s.stored := by rfl) (howed : s'.owed = s.owed := by rfl)
    (hquit : s'.quit = s.quit := by rfl) : Does s a s' where
  slot := by
    rw [hact]
    exact hslot
  locked := hlocked
  pass _ := hpass
  owed _ h := .inl (howed ▸ h)
  stored n account h := .inl (hstored ▸ h)
  quit _ := hquit

lemma of_aside (hact : slotAct s a = none) (h : Aside s s') : Does s a s' :=
  of_eq h.locked hact h.slot h.pass h.stored h.owed h.quit

lemma of_quit (hlocked : Locked s → Locked s') (hact : slotAct s a = none := by rfl)
    (hquits : a.quits = true := by rfl) (hslot : s'.slot = s.slot := by rfl)
    (hpass : s'.pass = s.pass := by rfl) (hstored : s'.stored = s.stored := by rfl)
    (howed : s'.owed = s.owed := by rfl) : Does s a s' where
  slot := by
    rw [hact]
    exact hslot
  locked := hlocked
  pass _ := hpass
  owed _ h := .inl (howed ▸ h)
  stored n account h := .inl (hstored ▸ h)
  quit h := absurd (hquits.symm.trans h) nofun

lemma of_slotStep {b : SessionSlot.Act} (hact : slotAct s a = some b) (hs : t.slotStep b = some s')
    (hslot : t.slot = s.slot) (hpass : t.pass = s.pass) (hstored : t.stored = s.stored)
    (howed : t.owed = s.owed) (hquit : a.quits = false → t.quit = s.quit)
    (hlocked : Locked s → Locked t) : Does s a s' := by
  obtain ⟨slot, hb, rfl⟩ := Option.map_eq_some_iff.1 hs
  constructor
  case slot =>
    rw [hact, ← hslot]
    exact hb
  case locked => exact hlocked
  case pass => exact fun _ => hpass
  case owed => exact fun _ h => .inl (howed ▸ h)
  case stored => exact fun n account h => .inl (hstored ▸ h)
  case quit => exact hquit

end Does

lemma stored_update {stored : ℕ → Option Account} {m n : ℕ} {value : Option Account}
    {account : Account} (h : Function.update stored m value n = some account) :
    stored n = some account ∨ value = some account := by
  by_cases hn : n = m
  · subst hn
    rw [Function.update_self] at h
    exact .inr h
  · rw [Function.update_of_ne hn] at h
    exact .inl h

lemma does (hs : step s a = some s') : Does s a s' := by
  cases a with
  | slot b | logoutClear =>
    obtain ⟨-, hs⟩ := Option.ite_none_right_eq_some.1 hs
    exact .of_slotStep rfl hs rfl rfl rfl rfl (fun _ => rfl) id
  | enter i =>
    obtain ⟨id, r, -, hfree, hnone, rfl⟩ := step_enter hs
    exact ⟨rfl, Locked.take (i := .pass) hfree rfl Locked.others, nofun, fun _ h => .inl h,
      fun _ _ h => .inl h, fun _ => rfl⟩
  | pass x =>
    obtain ⟨p, t, point, hp, hadvance, rfl⟩ := step_pass hs
    obtain ⟨hkeeps, hover⟩ := keeps_of_advance hadvance
    exact ⟨hkeeps.slot, Locked.goTo hkeeps hp hover, nofun, fun _ h => .inl (hkeeps.owed h),
      fun n account h => .inl (hkeeps.stored ▸ h), fun _ => hkeeps.quit⟩
  | finish =>
    obtain ⟨p, slot, hp, -, hb, rfl⟩ := step_finish hs
    refine ⟨?_, Locked.keep .pass ?_ Locked.others, nofun, fun _ h => .inl h, fun _ _ h => .inl h,
      fun _ => rfl⟩
    · rw [slotAct, hp]
      exact hb
    · rintro ⟨q, hq, -⟩
      cases hq
  | logout =>
    obtain ⟨-, rfl⟩ := guard_eq_some.1 hs
    exact .of_aside rfl (by constructor <;> rfl)
  | logoutLeave =>
    obtain ⟨-, hs⟩ := Option.ite_none_right_eq_some.1 hs
    refine .of_slotStep rfl hs rfl rfl rfl rfl (fun _ => rfl) (Locked.keep .tail ?_ Locked.others)
    intro hin
    simp only [State.inside] at hin
    split_ifs at hin <;> cases hin
  | tailEnter =>
    obtain ⟨⟨-, hfree⟩, rfl⟩ := guard_eq_some.1 hs
    exact .of_eq (Locked.take (i := .tail) hfree rfl Locked.others)
  | tailForget done =>
    obtain ⟨hat, rfl⟩ := guard_eq_some.1 hs
    split_ifs
    · refine ⟨rfl, Locked.keep .tail (fun _ => inside_of_tail hat) Locked.others, fun _ => rfl,
        fun _ h => .inl h, ?_, fun _ => rfl⟩
      intro n account h
      rcases stored_update h with hold | hnew
      · exact .inl hold
      · cases hnew
    · exact .of_eq (Locked.release (inside_of_tail hat) nofun Locked.others)
  | tailOwe | tailDeliver reached delivered =>
    obtain ⟨hat, rfl⟩ := guard_eq_some.1 hs
    have hin := inside_of_tail hat
    exact ⟨rfl, Locked.keep .tail (fun _ => hin) Locked.others, fun _ => rfl,
      fun h _ => .inr (h _ hin), fun _ _ h => .inl h, fun _ => rfl⟩
  | tailClose =>
    obtain ⟨hat, rfl⟩ := guard_eq_some.1 hs
    exact .of_eq (Locked.release (inside_of_tail hat) nofun Locked.others)
  | tailFinish =>
    obtain ⟨-, rfl⟩ := guard_eq_some.1 hs
    have haside := aside_tailFinish (s := s)
    exact .of_eq (fun h => haside.locked (Locked.keep (s := s) .tail nofun Locked.others rfl h)) rfl
      haside.slot haside.pass haside.stored haside.owed haside.quit
  | attempt | drop =>
    cases hs
    exact .of_aside rfl (by constructor <;> rfl)
  | register k =>
    simp only [step] at hs
    split at hs
    next x hx =>
      obtain ⟨-, rfl⟩ := guard_eq_some.1 hs
      exact .of_aside rfl (aside_register k x)
    next => cases hs
  | install k =>
    simp only [step] at hs
    split at hs
    next x hx =>
      obtain ⟨-, rfl⟩ := guard_eq_some.1 hs
      unfold State.install
      split_ifs
      · exact .of_aside rfl (by constructor <;> rfl)
      · exact .of_aside rfl (by constructor <;> rfl)
    next => cases hs
  | answer k stored =>
    simp only [step] at hs
    split at hs
    next x hx =>
      obtain ⟨-, rfl⟩ := guard_eq_some.1 hs
      unfold State.answer
      split_ifs with hstores
      · refine ⟨rfl, id, fun _ => rfl, fun _ h => .inl h, ?_, fun _ => rfl⟩
        intro n account h
        rcases stored_update h with hold | hnew
        · exact .inl hold
        · obtain ⟨hepoch, hstored⟩ := (Bool.and_eq_true _ _).mp hstores
          refine .inr ⟨?_, (Option.some.inj hnew).symm⟩
          rw [storesAnswer, hstored, hx, Bool.true_and]
          exact hepoch
      · exact .of_aside rfl (by constructor <;> rfl)
    next => cases hs
  | confirm k =>
    simp only [step] at hs
    split at hs
    next x hx =>
      obtain ⟨-, rfl⟩ := guard_eq_some.1 hs
      simp only [State.confirm]
      split_ifs with hcurrent
      · refine ⟨?_, id, fun _ => rfl, fun _ h => .inl h, fun _ _ h => .inl h, fun _ => rfl⟩
        have hact : slotAct s (.confirm k) = some (.setLoggedIn true) := by
          rw [slotAct, hx, Option.bind_some]
          exact if_pos hcurrent
        rw [hact]
        rfl
      · refine .of_aside ?_ ⟨rfl, rfl, rfl, rfl, rfl, rfl, rfl, rfl⟩
        rw [slotAct, hx, Option.bind_some]
        exact if_neg hcurrent
    next => cases hs
  | change =>
    obtain ⟨-, rfl⟩ := guard_eq_some.1 hs
    exact .of_eq (Locked.keep .change nofun Locked.others)
  | changeEnter =>
    obtain ⟨⟨-, hfree⟩, rfl⟩ := guard_eq_some.1 hs
    exact .of_eq (Locked.take (i := .change) hfree rfl Locked.others)
  | changeSpace space derived =>
    obtain ⟨hat, hs⟩ := Option.ite_none_right_eq_some.1 hs
    exact .of_slotStep rfl hs rfl rfl rfl rfl (fun _ => rfl)
      (Locked.release (i := .change) hat nofun Locked.others)
  | changeFail =>
    obtain ⟨hat, rfl⟩ := guard_eq_some.1 hs
    exact .of_eq (Locked.release (i := .change) hat nofun Locked.others)
  | quit | quitDrop =>
    obtain ⟨-, hs⟩ := Option.ite_none_right_eq_some.1 hs
    exact .of_slotStep rfl hs rfl rfl rfl rfl nofun (Locked.keep .quit nofun Locked.others)
  | quitWait settled =>
    obtain ⟨-, rfl⟩ := guard_eq_some.1 hs
    refine .of_quit (Locked.keep .quit (fun hj => ?_) Locked.others)
    cases settled <;> cases hj
  | quitStopUnlocked | quitJoin =>
    obtain ⟨hat, rfl⟩ := guard_eq_some.1 hs
    exact .of_quit (Locked.keep .quit nofun Locked.others)
  | quitEnter =>
    obtain ⟨⟨-, hfree⟩, rfl⟩ := guard_eq_some.1 hs
    exact .of_quit (Locked.take (i := .quit) hfree rfl Locked.others)
  | quitDial reached | quitStop | quitRetire =>
    obtain ⟨hat, rfl⟩ := guard_eq_some.1 hs
    exact .of_quit (Locked.keep .quit (fun _ => inside_of_quit hat) Locked.others)
  | quitClose =>
    obtain ⟨hat, rfl⟩ := guard_eq_some.1 hs
    exact .of_quit (Locked.release (inside_of_quit hat) nofun Locked.others)
  | queue =>
    simp only [step] at hs
    split_ifs at hs
    cases hs
    exact .of_aside rfl (by constructor <;> rfl)
  | writeEnter =>
    obtain ⟨⟨-, hfree⟩, rfl⟩ := guard_eq_some.1 hs
    exact .of_eq (Locked.take (i := .write) hfree rfl fun _ _ hin => hin)
  | writeLeave | callerLeave =>
    obtain ⟨hheld, rfl⟩ := guard_eq_some.1 hs
    exact .of_eq (Locked.free hheld (fun _ hin => hin) id)
  | callerEnter =>
    obtain ⟨hfree, rfl⟩ := guard_eq_some.1 hs
    exact .of_eq (Locked.take (i := .caller) hfree rfl fun _ _ hin => hin)

lemma free_of_step {b : SessionSlot.Act} (hs : step s (.slot b) = some s') : free b = true :=
  (Option.ite_none_right_eq_some.1 hs).1

lemma ne_finish_of_slotAct {i : ℕ} (hs : step s a = some s')
    (hact : slotAct s a = some (.finish i)) : a = .finish := by
  cases a with
  | slot b =>
    cases hact
    exact absurd (free_of_step hs) nofun
  | finish => rfl
  | confirm k =>
    obtain ⟨x, -, hx⟩ := Option.bind_eq_some_iff.1 hact
    exact absurd (Option.some.inj (Option.ite_none_right_eq_some.1 hx).2) nofun
  | _ => cases hact

lemma look_of_slotAct {i : ℕ} (hact : slotAct s a = some (.look i)) : a = .slot (.look i) := by
  cases a with
  | slot b =>
    cases hact
    rfl
  | finish =>
    obtain ⟨p, -, hp⟩ := Option.map_eq_some_iff.1 hact
    cases hp
  | confirm k =>
    obtain ⟨x, -, hx⟩ := Option.bind_eq_some_iff.1 hact
    exact absurd (Option.some.inj (Option.ite_none_right_eq_some.1 hx).2) nofun
  | _ => cases hact

lemma moves_of_step (hs : step s a = some s') : s'.slot = s.slot ∨
    ∃ b, slotAct s a = some b ∧ SessionSlot.Moves s.slot b s'.slot := by
  have hslot := (does hs).slot
  cases hact : slotAct s a with
  | none =>
    rw [hact] at hslot
    exact .inl hslot
  | some b =>
    rw [hact] at hslot
    exact .inr ⟨b, rfl, SessionSlot.moves hslot⟩

lemma slot_ok (h : SessionSlot.Ok s.slot) (hs : step s a = some s') : SessionSlot.Ok s'.slot := by
  have hslot := (does hs).slot
  cases hact : slotAct s a with
  | none =>
    rw [hact] at hslot
    exact hslot.symm ▸ h
  | some b =>
    rw [hact] at hslot
    exact h.step hslot

/-! ### What a pass has come through -/

/-- What is known of a request and of what is owed where its pass has come to. -/
def Point.Fits (kind : ConnectKind) (owed : Bool) : Point → Prop
  | .stopping plan => kind = .disconnect → plan.startTunnel = false
  | .tearing plan => kind = .disconnect → plan.startTunnel = false
  | .entering => kind ≠ .disconnect
  | .dialling _ => kind ≠ .disconnect
  | .checking _ => kind ≠ .disconnect
  | .greeting _ => kind ≠ .disconnect ∧ owed = false
  | .saving _ => kind.connects = true ∧ owed = false
  | .starting _ => kind.connects = true ∧ owed = false
  | _ => True

/-- The account a pass starts a session for. -/
def Point.account : Point → Option Account
  | .dialling account => some account
  | .checking account => some account
  | .greeting account => some account
  | .saving account => some account
  | .starting account => some account
  | _ => none

lemma Point.Fits.of_owed {owed owed' : Bool} (h : point.Fits kind owed)
    (howed : owed' = true → owed = true) : point.Fits kind owed' := by
  have hclear : owed = false → owed' = false := by
    intro hfalse
    rw [← Bool.not_eq_true]
    intro htrue
    exact absurd ((howed htrue).symm.trans hfalse) nofun
  cases point with
  | greeting account | saving account | starting account => exact ⟨h.1, hclear h.2⟩
  | _ => exact h

lemma fits_greeted {account : Account} {live known owed : Bool} (hkind : kind ≠ .disconnect)
    (howed : owed = false) : (greeted kind account live known).Fits kind owed := by
  unfold greeted
  split_ifs with hadopts hensure
  · trivial
  · trivial
  · refine ⟨?_, howed⟩
    cases kind with
    | disconnect => exact absurd rfl hkind
    | none | provider => exact absurd rfl hensure
    | _ => rfl

lemma fits_of_advance (hs : s.advance kind point x = some (t, point'))
    (h : point.Fits kind s.owed) : point'.Fits kind t.owed := by
  unfold State.advance at hs
  split at hs
  case h_16 => cases hs
  all_goals obtain ⟨rfl, rfl⟩ := Prod.mk.inj (Option.some.inj hs)
  case h_1 => split_ifs <;> trivial
  case h_2 => trivial
  case h_3 =>
    rintro rfl
    exact decideDisconnect_startTunnel
  case h_4 => exact h
  case h_5 =>
    split_ifs with hstart
    · intro hkind
      exact absurd ((h hkind).symm.trans hstart) nofun
    · trivial
  case h_6 =>
    split_ifs
    · cases s.stored s.space with
      | none => trivial
      | some account => exact h
    · trivial
  case h_7 =>
    split_ifs
    · exact h
    · trivial
  case h_8 =>
    split_ifs with howed
    · trivial
    · exact ⟨h, by simpa using howed⟩
  case h_9 =>
    split_ifs
    · exact fits_greeted h.1 h.2
    · trivial
  case h_10 =>
    split_ifs
    · exact h
    · trivial
  all_goals
    first
    | trivial
    | (split_ifs <;> trivial)

lemma account_of_advance {account : Account} (hs : s.advance kind point x = some (t, point'))
    (h : point'.account = some account) :
    point.account = some account ∨ ∃ n, s.stored n = some account := by
  unfold State.advance at hs
  split at hs
  case h_16 => cases hs
  all_goals obtain ⟨rfl, rfl⟩ := Prod.mk.inj (Option.some.inj hs)
  case h_6 =>
    split_ifs at h
    · cases hstored : s.stored s.space with
      | none =>
        rw [hstored] at h
        cases h
      | some stored =>
        rw [hstored] at h
        exact .inr ⟨_, hstored.trans h⟩
    · cases h
  case h_9 =>
    split_ifs at h
    · unfold greeted at h
      split_ifs at h
      · cases h
      · cases h
      · exact .inl h
    · cases h
  case h_7 =>
    split_ifs at h
    · exact .inl h
    · cases h
  case h_8 =>
    split_ifs at h
    · cases h
    · exact .inl h
  case h_10 =>
    split_ifs at h
    · exact .inl h
    · cases h
  case h_1 | h_5 | h_11 | h_13 | h_14 => split_ifs at h <;> exact absurd h nofun
  all_goals exact absurd h nofun

/-! ### The invariant -/

/-- The slot and the lock are in order, the pass is the running worker's, and it has come
through its gates. -/
structure Sound (s : State) : Prop where
  slot : SessionSlot.Ok s.slot
  locked : Locked s
  running : ∀ p, s.pass = some p → s.slot.workers[p.worker]? = some (At.passing p.id p.request)
  fits : ∀ p, s.pass = some p → p.point.Fits p.request.kind s.owed

namespace Sound

lemma init (h : Starts s) : Sound s := by
  obtain ⟨loggedIn, now, wantsTunnel, space, owed, stored, -, rfl⟩ := h
  refine ⟨.init loggedIn now, ?_, by simp, by simp⟩
  intro i hi
  cases i with
  | pass =>
    obtain ⟨p, hp, -⟩ := hi
    cases hp
  | _ => cases hi

lemma goTo (h : Sound s) (hp : s.pass = some p)
    (hs : s.advance p.request.kind p.point x = some (t, point)) : Sound (t.goTo p point) := by
  obtain ⟨hkeeps, hover⟩ := keeps_of_advance hs
  constructor
  case slot => exact hkeeps.slot.symm ▸ h.slot
  case locked => exact h.locked.goTo hkeeps hp hover
  case running =>
    intro q hq
    cases hq
    exact hkeeps.slot.symm ▸ h.running p hp
  case fits =>
    intro q hq
    cases hq
    have hfits := fits_of_advance hs (h.fits p hp)
    exact hfits

lemma step (h : Sound s) (hs : SessionPasses.step s a = some s') : Sound s' := by
  have hdoes := does hs
  cases hpasses : a.passes with
  | true =>
    cases a with
    | enter i =>
      obtain ⟨id, r, hi, hfree, hnone, rfl⟩ := step_enter hs
      refine ⟨h.slot, hdoes.locked h.locked, ?_, ?_⟩
      · intro p hp
        cases hp
        exact hi
      · intro p hp
        cases hp
        trivial
    | pass x =>
      obtain ⟨p, t, point, hp, hadvance, rfl⟩ := step_pass hs
      exact h.goTo hp hadvance
    | finish =>
      obtain ⟨p, slot, hp, hover, hb, rfl⟩ := step_finish hs
      exact ⟨h.slot.step hb, hdoes.locked h.locked, by simp, by simp⟩
    | _ => cases hpasses
  | false =>
    have hpass := hdoes.pass hpasses
    refine ⟨slot_ok h.slot hs, hdoes.locked h.locked, ?_, ?_⟩
    · intro p hp
      rw [hpass] at hp
      rcases moves_of_step hs with hslot | ⟨b, hact, hmoves⟩
      · rw [hslot]
        exact h.running p hp
      · refine hmoves.stays _ _ _ (h.running p hp) ?_
        rintro rfl
        rw [ne_finish_of_slotAct hs hact] at hpasses
        cases hpasses
    · intro p hp
      rw [hpass] at hp
      have hfits := h.fits p hp
      by_cases htail : s.holder = some .tail
      · -- the tail is inside, so the pass has ended
        have hover : p.point = .over := by
          by_contra hne
          exact absurd (htail.symm.trans (h.locked .pass ⟨p, hp, hne⟩)) nofun
        rw [hover]
        trivial
      · exact hfits.of_owed fun howed => (hdoes.owed h.locked howed).resolve_right htail

lemma of_run {es : List (Transition State Act)} (h : Runs es s) : Sound s := by
  induction h with
  | nil h => exact init h
  | snoc _ hs ih => exact ih.step hs

end Sound

/-! ### Gestures and starts -/

/-- A step that sends `start_tunnel`. -/
def Act.startsTunnel : Act → Bool
  | .pass (.startTunnel _) => true
  | _ => false

/-- A step that sends `start_provider`. -/
def Act.startsProvider : Act → Bool
  | .pass .startProvider => true
  | _ => false

/-- A worker takes a request out of the slot. -/
def Consumes (c : Transition State Act) (id : ℕ) (r : SessionRequest) : Prop :=
  (∃ i, c.label = .slot (.look i)) ∧ c.pre.slot.requested = true ∧ c.pre.slot.pendingId = id ∧
    c.pre.slot.pending = r ∧ .consumed id c.pre.slot.now ∈ c.post.slot.log

/-- A worker has taken a connect out of the slot. -/
def connectsAt : At → Bool
  | .passing _ r => r.kind.connects
  | _ => false

/-- A connect gesture that was taken out of the slot has not had its pass yet. -/
def connectHeld (s : State) : Bool :=
  !s.pass.any (·.point = .over) && s.slot.workers.any connectsAt

/-- A connect gesture that may still start a session. -/
def InFlight (s : State) (id : ℕ) : Prop :=
  s.slot.requested = true ∧ s.slot.pending.kind.connects = true ∧ s.slot.pendingId = id ∨
    (∀ p, s.pass = some p → p.point ≠ .over) ∧
      ∃ (i : ℕ) (r : SessionRequest), s.slot.workers[i]? = some (At.passing id r) ∧
        r.kind.connects = true

lemma connectHeld_of_passing {id : ℕ} (h : (∀ p, s.pass = some p → p.point ≠ .over) ∧
    ∃ (i : ℕ) (r : SessionRequest), s.slot.workers[i]? = some (At.passing id r) ∧
      r.kind.connects = true) : connectHeld s = true := by
  obtain ⟨hover, i, r, hi, hconnects⟩ := h
  rw [connectHeld, Bool.and_eq_true]
  refine ⟨?_, List.any_eq_true.2 ⟨_, List.mem_of_getElem? hi, hconnects⟩⟩
  cases hp : s.pass with
  | none => rfl
  | some p => simpa using hover p hp

lemma passing_cases {i id : ℕ} {r : SessionRequest} (hs : step s a = some s')
    (hi : s'.slot.workers[i]? = some (At.passing id r)) :
    s.slot.workers[i]? = some (At.passing id r) ∨ Consumes ⟨s, a, s'⟩ id r := by
  rcases moves_of_step hs with hslot | ⟨b, hact, hmoves⟩
  · rw [hslot] at hi
    exact .inl hi
  · refine (hmoves.passing i id r hi).imp_right ?_
    rintro ⟨rfl, hrequested, rfl, rfl, hmem⟩
    exact ⟨⟨i, look_of_slotAct hact⟩, hrequested, rfl, rfl, hmem⟩

lemma log_of_step (hs : step s a = some s') : s.slot.log <+: s'.slot.log := by
  rcases moves_of_step hs with hslot | ⟨b, -, hmoves⟩
  · rw [hslot]
  · exact hmoves.log

lemma not_passing_of_finish {slot slot' : Slot} {i id : ℕ} {r : SessionRequest}
    (h : SessionSlot.Ok slot) (hi : slot.workers[i]? = some (At.passing id r))
    (hs : SessionSlot.step slot (.finish i) = some slot') (j id' : ℕ) (r' : SessionRequest) :
    slot'.workers[j]? ≠ some (At.passing id' r') := by
  intro hj
  simp only [SessionSlot.step, hi] at hs
  cases hs
  rcases getElem?_set_cases hj with ⟨-, heq⟩ | ⟨hne, hj'⟩
  · cases heq
  · exact hne (h.one.one _ _ _ _ hi rfl hj' rfl)

lemma inFlight_cases {id : ℕ} (hsound : Sound s) (hs : step s a = some s')
    (h : InFlight s' id) :
    InFlight s id ∨ s.slot.quitting = false ∧ s.slot.records.length ≤ id := by
  rcases h with ⟨hrequested, hconnects, rfl⟩ | ⟨hover, i, r, hi, hconnects⟩
  · rcases moves_of_step hs with hslot | ⟨b, -, hmoves⟩
    · rw [hslot] at hrequested hconnects ⊢
      exact .inl (.inl ⟨hrequested, hconnects, rfl⟩)
    · rcases hmoves.pending hrequested with ⟨hreq, hid, hpending⟩ | ⟨-, hquitting, hid⟩
      · rw [hpending] at hconnects
        exact .inl (.inl ⟨hreq, hconnects, hid.symm⟩)
      · exact .inr ⟨hquitting, hid.ge⟩
  · rcases passing_cases hs hi with hold | ⟨-, hrequested, hid, rfl, -⟩
    · refine .inl (.inr ⟨?_, i, r, hold, hconnects⟩)
      intro p hp
      cases hpasses : a.passes with
      | false => exact hover p (((does hs).pass hpasses).trans hp)
      | true =>
        cases a with
        | enter j =>
          obtain ⟨-, -, -, -, hnone, -⟩ := step_enter hs
          exact absurd (hnone.symm.trans hp) nofun
        | pass x =>
          obtain ⟨q, t, point, hq, hadvance, -⟩ := step_pass hs
          cases hq.symm.trans hp
          exact (keeps_of_advance hadvance).2
        | finish =>
          obtain ⟨q, slot, hq, -, hb, rfl⟩ := step_finish hs
          exact absurd hi (not_passing_of_finish hsound.slot (hsound.running q hq) hb i id r)
        | _ => cases hpasses
    · exact .inl (.inl ⟨hrequested, hconnects, hid⟩)

lemma starting_of_step (hs : step s a = some s') (hstarts : a.startsTunnel = true) :
    ∃ p account, s.pass = some p ∧ p.point = .starting account := by
  cases a with
  | pass x =>
    obtain ⟨p, t, point, hp, hadvance, -⟩ := step_pass hs
    cases x with
    | startTunnel kept =>
      cases hpoint : p.point with
      | starting account => exact ⟨p, account, hp, hpoint⟩
      | _ =>
        rw [hpoint] at hadvance
        cases hadvance
    | _ => cases hstarts
  | _ => cases hstarts

end UrnetworkWindows.SessionPasses
