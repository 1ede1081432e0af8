/-
The kill switch the user set and the one the service enforces (`SdkHost.cpp`,
`SetKillSwitch` and the two ways `BootstrapSession` comes to a session).

The setting is written to the stored preference, then to the device if there is one, then
sent to the service if the control channel is up.  A start carries the stored preference; a
session that is adopted is taken as it runs.  Writes and passes hold the session's lock, so
one is in progress at a time.  Requests reach the service in the order they were sent, and
one that was given up may still be applied, or be lost with the channel.

So a change made while the channel is down does not reach a session that is adopted later
(`change_missed_by_adoption`); where that does not happen, nor a call is given up over a
channel that is up, the service enforces what the user set (`service_enforces_setting`).
-/
import UrnetworkWindows.Lib.Trace

namespace UrnetworkWindows.KillSwitchSetting

open Lib

/-- What the app sends. -/
inductive Request
  | setKillSwitch (on : Bool)
  | startTunnel (session : ℕ) (killSwitch : Bool)
  | stopTunnel
deriving DecidableEq, Repr

/-- Where the app is: not running; idle; in a write of the setting, before each of its three
parts; in a pass; in a start whose record is saved; or waiting for an answer. -/
inductive Phase
  | down
  | idle
  | persisting (on : Bool)
  | settingDevice (on : Bool)
  | telling (on : Bool)
  | passing
  | starting (session : ℕ)
  | awaiting (request : Request)
deriving DecidableEq, Repr

/-- `stored` is the stored preference (not `routeLocal`), `device` what the app's device
holds of it, `record` and `session` the ids of the saved record and of the live session,
`sent` what the service has yet to apply.  `untold` says that a change was stored, or sent,
that the service has not taken and is not about to. -/
structure State where
  stored : Bool
  device : Option Bool := none
  record : Option ℕ := none
  channel : Bool := false
  phase : Phase := .down
  sent : List Request := []
  session : Option ℕ := none
  killSwitch : Bool := false
  untold : Bool := true
deriving DecidableEq, Repr

/-- The app's launch and its end at any point; a write and its parts; a pass and its parts;
the end of a call; and the service: it applies a request, ends its session, or is started
anew; the channel drops, and what was sent over it is lost. -/
inductive Act
  | launch
  | crash
  | write (on : Bool)
  | persist
  | setDevice
  | tell
  | beginPass
  | connect
  | teardown
  | stop
  | saveRecord (session : ℕ)
  | start
  | adopt (device : Bool)
  | endPass
  | answered (device : Bool)
  | giveUp
  | apply
  | sessionEnds
  | serviceRestarts
  | drop
  | lose
deriving DecidableEq, Repr

/-- `CurrentKillSwitch`. -/
def currentKillSwitch (s : State) : Bool := s.device.getD s.stored

/-- `TeardownSessionLocked`, as far as it concerns the setting. -/
def teardownSession (s : State) : State := { s with device := none, record := none }

/-- The request carries the setting. -/
def Request.tells : Request → Bool
  | .setKillSwitch _ => true
  | .startTunnel _ _ => true
  | .stopTunnel => false

/-- The app sends a request and waits for its answer. -/
def send (s : State) (request : Request) : State :=
  { s with
    sent := s.sent ++ [request]
    phase := .awaiting request
    untold := s.untold && !request.tells }

/-- The service applies a request. -/
def serve (s : State) : Request → State
  | .setKillSwitch on => { s with killSwitch := on }
  | .startTunnel session killSwitch => { s with session := some session, killSwitch }
  | .stopTunnel => { s with session := none }

/-- The app has the answer to a request. -/
def afterAnswer (s : State) (device : Bool) : Request → State
  | .setKillSwitch _ => { s with phase := .idle }
  | .startTunnel session _ =>
    -- a start that was not answered live leaves no session
    { s with phase := .idle, device := if s.session = some session then some device else none }
  | .stopTunnel => { s with phase := .passing }

/-- The app goes on without an answer. -/
def afterGiveUp (s : State) : Request → State
  | .stopTunnel => { s with phase := .passing }
  | _ => { s with phase := .idle }

/-- One step, if it can be taken. -/
def step (s : State) : Act → Option State
  | .launch => if s.phase = .down then some { s with phase := .idle } else none
  | .crash => some { s with phase := .down, device := none, channel := false }
  | .write on => if s.phase = .idle then some { s with phase := .persisting on } else none
  | .persist =>
    match s.phase with
    | .persisting on => some { s with stored := on, untold := true, phase := .settingDevice on }
    | _ => none
  | .setDevice =>
    match s.phase with
    | .settingDevice on =>
      some { s with device := s.device.map fun _ => on, phase := .telling on }
    | _ => none
  | .tell =>
    match s.phase with
    | .telling on =>
      some (if s.channel then send s (.setKillSwitch on) else { s with phase := .idle })
    | _ => none
  | .beginPass =>
    if s.phase = .idle then
      some { (if s.device.isSome ∧ s.channel = false then teardownSession s else s) with
        phase := .passing }
    else none
  | .connect =>
    -- the requests of the last connection are applied or lost before a new one is served
    if s.phase = .passing ∧ s.device = none ∧ s.channel = false ∧ s.sent = [] then
      some { s with channel := true }
    else none
  | .teardown => if s.phase = .passing then some (teardownSession s) else none
  | .stop => if s.phase = .passing ∧ s.channel then some (send s .stopTunnel) else none
  | .saveRecord session =>
    if s.phase = .passing ∧ s.device = none then
      some { s with record := some session, phase := .starting session }
    else none
  | .start =>
    match s.phase with
    | .starting session =>
      some (if s.channel then send s (.startTunnel session (currentKillSwitch s))
        else { s with phase := .idle })
    | _ => none
  | .adopt device =>
    if s.phase = .passing ∧ s.device = none ∧ s.channel ∧ s.sent = [] ∧ s.session.isSome ∧
        s.record = s.session then
      some { s with device := some device, phase := .idle }
    else none
  | .endPass => if s.phase = .passing then some { s with phase := .idle } else none
  | .answered device =>
    match s.phase with
    | .awaiting request =>
      if s.channel ∧ s.sent = [] then some (afterAnswer s device request) else none
    | _ => none
  | .giveUp =>
    match s.phase with
    | .awaiting request => some (afterGiveUp s request)
    | _ => none
  | .apply =>
    match s.sent with
    | request :: rest => some (serve { s with sent := rest } request)
    | [] => none
  | .sessionEnds => some { s with session := none }
  | .serviceRestarts =>
    some { s with
      session := none
      killSwitch := false
      channel := false
      sent := []
      untold := true }
  | .drop => some { s with channel := false }
  | .lose => if s.channel then none else some { s with sent := [], untold := true }

/-- The runs, from a machine on which the app has not run. -/
abbrev Runs : List (Transition State Act) → State → Prop :=
  Run (fun s => ∃ stored, s = { stored }) fun _ s a s' => step s a = some s'

/-- The app has a session, the channel is up, and no write or pass is in progress. -/
structure Settled (s : State) : Prop where
  idle : s.phase = .idle
  session : s.device.isSome = true
  channel : s.channel = true

/-- A session is adopted only where no change is left untold, and no call is given up while
the channel is up. -/
def InOrder (s : State) : Act → Prop
  | .adopt _ => s.untold = false
  | .giveUp => s.channel = false
  | _ => True

/-- The runs in which both hold. -/
abbrev OrderedRuns : List (Transition State Act) → State → Prop :=
  Run (fun s => ∃ stored, s = { stored }) fun _ s a s' => step s a = some s' ∧ InOrder s a

/-! ### The invariant -/

/-- The kill switch after one more request. -/
def Request.after (killSwitch : Bool) : Request → Bool
  | .setKillSwitch on => on
  | .startTunnel _ on => on
  | .stopTunnel => killSwitch

/-- The kill switch once the service has applied what was sent. -/
def State.final (s : State) : Bool := s.sent.foldl Request.after s.killSwitch

/-- The phase is one of a write that has stored the setting. -/
def Phase.stores : Phase → Option Bool
  | .settingDevice on => some on
  | .telling on => some on
  | _ => none

/-- The app waits for an answer. -/
def Phase.awaits : Phase → Bool
  | .awaiting _ => true
  | _ => false

/-- The phase is one of a start. -/
def Phase.starts : Phase → Bool
  | .starting _ => true
  | .awaiting (.startTunnel _ _) => true
  | _ => false

/-- What was told is what is stored; and with a session over a channel that is up, nothing
is on its way but what the app waits for, and everything is told but what is being
written. -/
structure Ok (s : State) : Prop where
  told : s.untold = false → s.final = s.stored
  writing : ∀ on, s.phase.stores = some on → s.stored = on
  waiting : ∀ request, s.phase = .awaiting request → s.channel = true → request.tells = true →
    s.untold = false
  settled : s.device.isSome = true → s.channel = true → s.phase.awaits = false → s.sent = []
  current : s.device.isSome = true → s.channel = true → s.phase.stores = none →
    s.untold = false
  started : s.phase.starts = true → s.device = none

namespace Ok

variable {s s' : State} {a : Act}

lemma init (stored : Bool) : Ok { stored } where
  told := nofun
  writing := nofun
  waiting := nofun
  settled := nofun
  current := nofun
  started := nofun

lemma offline (told : s.untold = false → s.final = s.stored)
    (writing : ∀ on, s.phase.stores = some on → s.stored = on) (hchannel : s.channel = false)
    (started : s.phase.starts = true → s.device = none) : Ok s where
  told := told
  writing := writing
  waiting _ _ hup := absurd (hchannel.symm.trans hup) nofun
  settled _ hup := absurd (hchannel.symm.trans hup) nofun
  current _ hup := absurd (hchannel.symm.trans hup) nofun
  started := started

lemma goes (h : Ok s) (hawaits : s.phase.awaits = false) {phase : Phase}
    (hawaits' : phase.awaits = false) (hstores : phase.stores = s.phase.stores)
    (hstarts : phase.starts = true → s.device = none) : Ok { s with phase } where
  told := h.told
  writing on hon := h.writing on (hstores ▸ hon)
  waiting request heq := by
    obtain rfl : phase = .awaiting request := heq
    cases hawaits'
  settled hdevice hchannel _ := h.settled hdevice hchannel hawaits
  current hdevice hchannel hnone := h.current hdevice hchannel (hstores ▸ hnone)
  started := hstarts

lemma teardown (h : Ok s) : Ok (teardownSession s) where
  told := h.told
  writing := h.writing
  waiting := h.waiting
  settled := nofun
  current := nofun
  started _ := rfl

lemma final_send (s : State) (request : Request) :
    (send s request).final = request.after s.final := by
  simp [send, State.final]

lemma serve_final (s : State) (request : Request) (rest : List Request)
    (hsent : s.sent = request :: rest) :
    (serve { s with sent := rest } request).final = s.final ∧
      (serve { s with sent := rest } request).untold = s.untold ∧
      (serve { s with sent := rest } request).stored = s.stored ∧
      (serve { s with sent := rest } request).phase = s.phase ∧
      (serve { s with sent := rest } request).channel = s.channel ∧
      (serve { s with sent := rest } request).device = s.device ∧
      (serve { s with sent := rest } request).sent = rest := by
  cases request <;> simp [serve, State.final, hsent, Request.after]

lemma sends (h : Ok s) {request : Request} (hafter : request.tells = true →
      ∀ b, request.after b = s.stored)
    (hstops : request.tells = false → ∀ b, request.after b = b)
    (hstores : request.tells = false → s.phase.stores = none)
    (hstarts : (Phase.awaiting request).starts = true → s.device = none) : Ok (send s request) where
  told huntold := by
    rw [final_send]
    cases htells : request.tells with
    | true => exact hafter htells _
    | false =>
      rw [hstops htells]
      refine h.told ?_
      simpa [send, htells] using huntold
  writing := nofun
  waiting r hr _ htells := by
    obtain rfl : request = r := Phase.awaiting.inj hr
    simp [send, htells]
  settled _ _ hawaits := absurd hawaits nofun
  current hdevice hchannel _ := by
    cases htells : request.tells with
    | true => simp [send, htells]
    | false => simpa [send, htells] using h.current hdevice hchannel (hstores htells)
  started := hstarts

lemma apply (h : Ok s) {request : Request} {rest : List Request}
    (hsent : s.sent = request :: rest) : Ok (serve { s with sent := rest } request) := by
  obtain ⟨hfinal, huntold, hstored, hphase, hchannel, hdevice, -⟩ :=
    serve_final s request rest hsent
  constructor
  · rw [hfinal, huntold, hstored]
    exact h.told
  · rw [hphase, hstored]
    exact h.writing
  · rw [hphase, hchannel, huntold]
    exact h.waiting
  · rw [hphase, hchannel, hdevice]
    intro hsome hup hawaits
    exact absurd (hsent.symm.trans (h.settled hsome hup hawaits)) nofun
  · rw [hphase, hchannel, hdevice, huntold]
    exact h.current
  · rw [hphase, hdevice]
    exact h.started

lemma answered (h : Ok s) {request : Request} (hphase : s.phase = .awaiting request)
    (hup : s.channel = true) (hsent : s.sent = []) (device : Bool) :
    Ok (afterAnswer s device request) := by
  have hwaiting := h.waiting request hphase hup
  cases request with
  | setKillSwitch on | startTunnel session on =>
    have huntold : s.untold = false := hwaiting rfl
    exact ⟨h.told, nofun, nofun, fun _ _ _ => hsent, fun _ _ _ => huntold, nofun⟩
  | stopTunnel =>
    refine ⟨h.told, nofun, nofun, fun _ _ _ => hsent, fun hsome hup _ => ?_, nofun⟩
    exact h.current hsome hup (by rw [hphase]; rfl)

lemma step (h : Ok s) (hcond : InOrder s a) (hs : KillSwitchSetting.step s a = some s') :
    Ok s' := by
  cases a with
  | launch | write on | endPass =>
    obtain ⟨hphase, rfl⟩ := guard_eq_some.1 hs
    exact h.goes (by simp [hphase, Phase.awaits]) rfl (by simp [hphase, Phase.stores]) nofun
  | crash =>
    cases hs
    exact offline h.told nofun rfl nofun
  | persist =>
    simp only [KillSwitchSetting.step] at hs
    split at hs
    next on hphase =>
      cases hs
      refine ⟨nofun, ?_, nofun, ?_, nofun, nofun⟩
      · rintro _ ⟨⟩
        rfl
      · exact fun hsome hup _ => h.settled hsome hup (by rw [hphase]; rfl)
    next => cases hs
  | setDevice =>
    simp only [KillSwitchSetting.step] at hs
    split at hs
    next on hphase =>
      cases hs
      refine ⟨h.told, ?_, nofun, ?_, nofun, nofun⟩
      · rintro _ ⟨⟩
        exact h.writing on (by rw [hphase]; rfl)
      · intro hsome hup _
        exact h.settled (by simpa using hsome) hup (by rw [hphase]; rfl)
    next => cases hs
  | tell =>
    simp only [KillSwitchSetting.step] at hs
    split at hs
    next on hphase =>
      cases hs
      have hstored : s.stored = on := h.writing on (by rw [hphase]; rfl)
      split
      next hup => exact h.sends (fun _ _ => hstored.symm) nofun nofun nofun
      next hup =>
        rw [Bool.not_eq_true] at hup
        exact offline h.told nofun hup nofun
    next => cases hs
  | beginPass =>
    obtain ⟨hphase, rfl⟩ := guard_eq_some.1 hs
    split
    · exact h.teardown.goes (by simp [teardownSession, hphase, Phase.awaits]) rfl
        (by simp [teardownSession, hphase, Phase.stores]) nofun
    · exact h.goes (by simp [hphase, Phase.awaits]) rfl (by simp [hphase, Phase.stores]) nofun
  | connect =>
    obtain ⟨⟨hphase, hdevice, -, hsent⟩, rfl⟩ := guard_eq_some.1 hs
    refine ⟨h.told, h.writing, ?_, fun _ _ _ => hsent, ?_, h.started⟩
    · intro request heq
      exact absurd (hphase.symm.trans heq) nofun
    · intro hsome
      exact absurd hsome (by simp [hdevice])
  | teardown =>
    obtain ⟨-, rfl⟩ := guard_eq_some.1 hs
    exact h.teardown
  | stop =>
    obtain ⟨⟨hphase, -⟩, rfl⟩ := guard_eq_some.1 hs
    exact h.sends nofun (fun _ _ => rfl) (fun _ => by rw [hphase]; rfl) nofun
  | saveRecord session =>
    obtain ⟨⟨hphase, hdevice⟩, rfl⟩ := guard_eq_some.1 hs
    have hgone : Ok { s with phase := .starting session } :=
      h.goes (by simp [hphase, Phase.awaits]) rfl (by simp [hphase, Phase.stores]) fun _ => hdevice
    exact ⟨hgone.told, hgone.writing, hgone.waiting, hgone.settled, hgone.current, hgone.started⟩
  | start =>
    simp only [KillSwitchSetting.step] at hs
    split at hs
    next session hphase =>
      cases hs
      have hdevice : s.device = none := h.started (by rw [hphase]; rfl)
      split
      next hup =>
        -- there is no device yet, so the start carries the stored preference
        have hcurrent : currentKillSwitch s = s.stored := by simp [currentKillSwitch, hdevice]
        exact h.sends (fun _ _ => hcurrent) nofun nofun fun _ => hdevice
      next hup =>
        rw [Bool.not_eq_true] at hup
        exact offline h.told nofun hup nofun
    next => cases hs
  | adopt device =>
    obtain ⟨⟨hphase, -, -, hsent, -⟩, rfl⟩ := guard_eq_some.1 hs
    exact ⟨h.told, nofun, nofun, fun _ _ _ => hsent, fun _ _ _ => hcond, nofun⟩
  | answered device =>
    simp only [KillSwitchSetting.step] at hs
    split at hs
    next request hphase =>
      obtain ⟨⟨hup, hsent⟩, rfl⟩ := guard_eq_some.1 hs
      exact h.answered hphase hup hsent device
    next => cases hs
  | giveUp =>
    simp only [KillSwitchSetting.step] at hs
    split at hs
    next request hphase =>
      cases hs
      cases request <;> exact offline h.told nofun hcond nofun
    next => cases hs
  | apply =>
    simp only [KillSwitchSetting.step] at hs
    split at hs
    next request rest hsent =>
      cases hs
      exact h.apply hsent
    next => cases hs
  | sessionEnds =>
    cases hs
    exact ⟨h.told, h.writing, h.waiting, h.settled, h.current, h.started⟩
  | serviceRestarts =>
    cases hs
    exact offline nofun h.writing rfl h.started
  | drop =>
    cases hs
    exact offline h.told h.writing rfl h.started
  | lose =>
    obtain ⟨hup, rfl⟩ := stop_eq_some.1 hs
    rw [Bool.not_eq_true] at hup
    exact offline nofun h.writing hup h.started

end Ok

/-- **Where both orders are avoided, the service enforces what the user set.** -/
theorem service_enforces_setting {es : List (Transition State Act)} {s : State}
    (h : OrderedRuns es s) (hsettled : Settled s) : s.killSwitch = s.stored := by
  have hok : Ok s := by
    clear hsettled
    induction h with
    | nil h =>
      obtain ⟨stored, rfl⟩ := h
      exact .init stored
    | snoc _ hs ih => exact ih.step hs.2 hs.1
  have hsent : s.sent = [] :=
    hok.settled hsettled.session hsettled.channel (by rw [hsettled.idle]; rfl)
  have huntold : s.untold = false :=
    hok.current hsettled.session hsettled.channel (by rw [hsettled.idle]; rfl)
  have hfinal := hok.told huntold
  rwa [State.final, hsent] at hfinal

/-- A setting changed in a session, and the session adopted after a crash. -/
theorem service_enforces_setting_adopted : ∃ es s, OrderedRuns es s ∧ Settled s ∧
    s.stored = true ∧ s.killSwitch = s.stored := by
  have h₀ : OrderedRuns [] { stored := false } := .nil ⟨false, rfl⟩
  have h₁ := (h₀.and_then (a := Act.launch) rfl trivial).and_then (a := Act.beginPass) rfl trivial
  have h₂ := h₁.and_then (a := Act.connect) rfl trivial
  have h₃ := h₂.and_then (a := Act.saveRecord 1) rfl trivial
  have h₄ := (h₃.and_then (a := Act.start) rfl trivial).and_then (a := Act.apply) rfl trivial
  have h₅ := h₄.and_then (a := Act.answered false) rfl trivial
  have h₆ := (h₅.and_then (a := Act.write true) rfl trivial).and_then (a := Act.persist) rfl trivial
  have h₇ := (h₆.and_then (a := Act.setDevice) rfl trivial).and_then (a := Act.tell) rfl trivial
  have h₈ := h₇.and_then (a := Act.apply) rfl trivial
  have h₉ := h₈.and_then (a := Act.answered false) rfl trivial
  have h₁₀ := (h₉.and_then (a := Act.crash) rfl trivial).and_then (a := Act.launch) rfl trivial
  have h₁₁ := h₁₀.and_then (a := Act.beginPass) rfl trivial
  have h₁₂ := h₁₁.and_then (a := Act.connect) rfl trivial
  have h₁₃ := h₁₂.and_then (a := Act.adopt false) rfl rfl
  refine ⟨_, _, h₁₃, ⟨rfl, rfl, rfl⟩, rfl, ?_⟩
  exact service_enforces_setting h₁₃ ⟨rfl, rfl, rfl⟩

/-- The app crashes with a session, and the kill switch is turned on at the next launch before
the control channel is up: the session is adopted with it off. -/
theorem change_missed_by_adoption : ∃ es s, Runs es s ∧ Settled s ∧ s.stored = true ∧
    s.killSwitch = false := by
  have h₀ : Runs [] { stored := false } := .nil ⟨false, rfl⟩
  have h₁ := (h₀.snoc (a := .launch) rfl).snoc (a := .beginPass) rfl
  have h₂ := (h₁.snoc (a := .connect) rfl).snoc (a := .saveRecord 1) rfl
  have h₃ := (h₂.snoc (a := .start) rfl).snoc (a := .apply) rfl
  have h₄ := (h₃.snoc (a := .answered false) rfl).snoc (a := .crash) rfl
  have h₅ := (h₄.snoc (a := .launch) rfl).snoc (a := .write true) rfl
  have h₆ := (h₅.snoc (a := .persist) rfl).snoc (a := .setDevice) rfl
  have h₇ := (h₆.snoc (a := .tell) rfl).snoc (a := .beginPass) rfl
  have h₈ := (h₇.snoc (a := .connect) rfl).snoc (a := .adopt false) rfl
  exact ⟨_, _, h₈, ⟨rfl, rfl, rfl⟩, rfl, rfl⟩

end UrnetworkWindows.KillSwitchSetting
