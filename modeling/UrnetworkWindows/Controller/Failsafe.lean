/-
The dead-tunnel failsafe and the sessions it can reach (`FailsafeStop`, `StopWith`,
`CancelCapture`, `WatchForCaptureLocked`, `ActivateCapture`, the statements of
`StartLocked` and `StopLocked` that concern them, and `Start`, `Stop`, `Cancel` and
`Fire` of the dead-tunnel watchdog).

The holder of `mutex_` is one party.  The evaluators, one for each channel a watchdog
was started with, and the calls of `FailsafeStop` and of `StopWith`, which take the lock
only at their end if at all, are any number of others.  A step is an access to what they
share: the stop generation, the current readiness and whether one is cancelled, the
watchdog's channel and its handlers.

Sessions are numbered by the `StartLocked` that took the lock for them, from one on, and
a readiness has the number of its session.  Of a session's routes, policy and device it
is kept only whether a teardown has yet to take them back.
-/
import UrnetworkWindows.Lib.Trace

namespace UrnetworkWindows.Controller.Failsafe

open Lib

/-! ### The model -/

/-- The next statement of `StopLocked`: `CancelCapture`, the watchdog's `Stop` (the
channel, then the bounded join), `RevertMachineStateLocked`, `TearDownSessionLocked`. -/
inductive StopAt
  | cancel
  | close
  | join
  | revert
  | tear
deriving DecidableEq, Repr

/-- What a watchdog is started for: a capture that is pending, a tunnel that is up, or an
rpc-only session.  Only the first has `onReady`, and the last has no `onDead`. -/
inductive Watch
  | capture
  | up
  | rpcOnly
deriving DecidableEq, Repr

/-- The next statement of the lock's holder: within `StartLocked`, which has loaded the
stop generation, within `ActivateCapture`, within a `Start` of the watchdog by one of the
two, or within `StopLocked`, with the session whose verdict called it if one did. -/
inductive HolderAt
  | load
  | start (generation : ℕ) (k : StopAt)
  | publish (generation : ℕ)
  | check (generation readiness : ℕ)
  | bringUp (readiness : ℕ)
  | activate (readiness : ℕ)
  | rewatch (readiness : ℕ) (w : Watch)
  | watch (readiness : ℕ) (w : Watch)
  | stop (judged : Option ℕ) (k : StopAt)
deriving DecidableEq, Repr

/-- The next statement of an evaluator: another tick, `Fire`, or `ActivateCapture`. -/
inductive EvaluatorAt
  | watching
  | verdict
  | ready
  | done
deriving DecidableEq, Repr

/-- An evaluator and its channel: the session it watches and whether its handlers are
set. -/
structure Evaluator where
  session : ℕ
  onDead : Bool
  onReady : Bool
  phase : EvaluatorAt := .watching
deriving DecidableEq, Repr

/-- The next statement of `FailsafeStop` or `StopWith`. -/
inductive StopperAt
  | bump
  | load
  | cancel (readiness : ℕ)
  | wait
  | loadChannel
  | closeChannel (c : ℕ)
  | crashRevert
  | dropFirewall
  | done
deriving DecidableEq, Repr

/-- A call of `FailsafeStop`, with the session whose verdict it is, or of `StopWith`. -/
structure Stopper where
  judged : Option ℕ
  phase : StopperAt := .bump
deriving DecidableEq, Repr

/-- What the parties share, and the parties.  `owned` is the session whose routes, policy
and device no teardown has taken back.  Of history there are the sessions whose teardown
has begun, and for each session those whose teardown had begun when its `StartLocked`
took the lock. -/
structure Machine where
  started : ℕ := 0
  generation : ℕ := 0
  published : Option ℕ := none
  cancelled : List ℕ := []
  owned : Option ℕ := none
  channel : Option ℕ := none
  evaluators : List Evaluator := []
  stoppers : List Stopper := []
  holder : Option HolderAt := none
  begun : List ℕ := []
  before : ℕ → List ℕ := fun _ => []

/-- How a stage of the bring-up ends: the watchdog is to be started, `StopLocked` is
called, or neither. -/
inductive Outcome
  | watch (w : Watch)
  | stop
  | leave
deriving DecidableEq, Repr

/-- What the scheduler picks. -/
inductive Pick
  | start
  | stopRequest
  | holder (o : Outcome)
  | evaluator (i : ℕ) (coin : Bool)
  | stopper (j : ℕ) (coin : Bool)
deriving DecidableEq, Repr

/-- `CaptureReadiness::Cancel`. -/
def Machine.cancel (r : ℕ) (s : Machine) : Machine := { s with cancelled := r :: s.cancelled }

/-- A channel without its handlers. -/
def Evaluator.clear (e : Evaluator) : Evaluator := { e with onDead := false, onReady := false }

/-- The handlers of a channel are dropped. -/
def Machine.clearHandlers (c : ℕ) (s : Machine) : Machine :=
  { s with evaluators := s.evaluators.modify c Evaluator.clear }

/-- `TunnelWatchdog::Stop`, up to its joins. -/
def Machine.closeChannel (s : Machine) : Machine :=
  match s.channel with
  | none => s
  | some c => { s.clearHandlers c with channel := none }

/-- The statement after one of `StopLocked`. -/
def StopAt.next : StopAt → Option StopAt
  | cancel => some close
  | close => some join
  | join => some revert
  | revert => some tear
  | tear => none

/-- A statement of `StopLocked`.  The join ends with the evaluator or with its budget,
and nothing depends on which. -/
def stopLocked (s : Machine) : StopAt → Machine
  | .cancel =>
    match s.published with
    | none => s
    | some r => { s.cancel r with begun := r :: s.begun }
  | .close => s.closeChannel
  | .join | .revert => s
  | .tear => { s with owned := none }

/-- The end of a stage of the bring-up, for a readiness and a watchdog that is not
started from this stage. -/
def stageEnd (r : ℕ) (never : Watch) (s : Machine) : Outcome → Option Machine
  | .watch w => if w = never then none else some { s with holder := some (.rewatch r w) }
  | .stop => some { s with holder := some (.stop none .cancel) }
  | .leave => some { s with holder := none }

/-- The next step of the holder. -/
def holderStep (o : Outcome) (s : Machine) : HolderAt → Option Machine
  | .load => some { s with holder := some (.start s.generation .cancel) }
  | .start g k => some { stopLocked s k with
      holder := match k.next with | some k' => some (.start g k') | none => some (.publish g) }
  | .publish g => some { s with
      published := some s.started, owned := some s.started, holder := some (.check g s.started) }
  | .check g r => some { (if s.generation = g then s else s.cancel r) with
      holder := some (.bringUp r) }
  | .bringUp r => stageEnd r .up s o
  | .activate r => stageEnd r .rpcOnly s o
  | .rewatch r w => some { s.closeChannel with holder := some (.watch r w) }
  | .watch r w => some { s with
      channel := some s.evaluators.length
      evaluators := s.evaluators ++ [⟨r, w ≠ .rpcOnly, w = .capture, .watching⟩]
      holder := none }
  | .stop judged k => some { stopLocked s k with holder := k.next.map (.stop judged) }

/-- The next step of an evaluator, and what it goes on with.  `Fire` copies the handler
and calls it; `ActivateCapture` waits for the lock and checks its session. -/
def evaluatorStep (coin : Bool) (s : Machine) (e : Evaluator) : Option (EvaluatorAt × Machine) :=
  match e.phase with
  | .watching =>
    if coin then some (.verdict, s)
    else if e.onReady then some (.ready, s)
    else if e.onDead then none else some (.done, s)
  | .verdict =>
    some (.done, if e.onDead then { s with stoppers := s.stoppers ++ [⟨some e.session, .bump⟩] }
      else s)
  | .ready =>
    if coin then
      if s.holder = none ∧ s.published = some e.session ∧ e.session ∉ s.cancelled then
        some (.done, { s with holder := some (.activate e.session) })
      else none
    else some (.done, s)
  | .done => none

/-- The next step of a stopper, and what it goes on with.  The timed lock may fail at
any time, and only the failsafe's escape cancels the watchdog. -/
def stopperStep (coin : Bool) (s : Machine) (p : Stopper) : Option (StopperAt × Machine) :=
  match p.phase with
  | .bump => some (.load, { s with generation := s.generation + 1 })
  | .load => some (s.published.elim .wait .cancel, s)
  | .cancel r => some (.wait, s.cancel r)
  | .wait =>
    if coin then
      if s.holder = none then some (.done, { s with holder := some (.stop p.judged .cancel) })
      else none
    else some (if p.judged = none then .crashRevert else .loadChannel, s)
  | .loadChannel => some (s.channel.elim .crashRevert .closeChannel, s)
  | .closeChannel c => some (.crashRevert, s.clearHandlers c)
  | .crashRevert => some (.dropFirewall, s)
  | .dropFirewall => some (.done, s)
  | .done => none

/-- One step of the whole. -/
def step (s : Machine) : Pick → Option Machine
  | .start =>
    if s.holder = none then some { s with
      started := s.started + 1
      before := fun b => if b = s.started + 1 then s.begun else s.before b
      holder := some .load }
    else none
  | .stopRequest => some { s with stoppers := s.stoppers ++ [⟨none, .bump⟩] }
  | .holder o => s.holder.bind (holderStep o s)
  | .evaluator i coin =>
    match s.evaluators[i]? with
    | none => none
    | some e => (evaluatorStep coin s e).map fun r =>
        { r.2 with evaluators := s.evaluators.set i { e with phase := r.1 } }
  | .stopper j coin =>
    match s.stoppers[j]? with
    | none => none
    | some p => (stopperStep coin s p).map fun r =>
        { r.2 with stoppers := s.stoppers.set j { p with phase := r.1 } }

/-- The runs in which every step meets a condition, from a service that has just
started. -/
abbrev Machine.Runs (cond : Machine → Pick → Prop) :
    List (Transition Machine Pick) → Machine → Prop :=
  Run (· = {}) fun _ s a s' => step s a = some s' ∧ cond s a

/-! ### What a verdict reaches -/

/-- The session that is being started and notices a new stop generation. -/
def Machine.noticing (s : Machine) : Option ℕ :=
  match s.holder with
  | some (.start _ _) | some (.publish _) | some (.check _ _) => some s.started
  | _ => none

/-- The session a channel watches. -/
def Machine.sessionOf (s : Machine) (c : ℕ) : Option ℕ := s.evaluators[c]?.map Evaluator.session

/-- The session that a statement of `StopLocked` takes something from: its readiness,
its watchdog's channel, or its routes, policy and device. -/
def StopAt.touches (s : Machine) : StopAt → Option ℕ
  | cancel => s.published
  | close => s.channel.bind s.sessionOf
  | join => none
  | revert | tear => s.owned

/-- The session that a statement of a stopper takes something from. -/
def StopperAt.touches (s : Machine) : StopperAt → Option ℕ
  | bump => s.noticing
  | cancel r => some r
  | closeChannel c => s.sessionOf c
  | crashRevert | dropFirewall => s.owned
  | load | wait | loadChannel | done => none

/-- The step is one of a `FailsafeStop` for a verdict on the first session, and takes
something from the second. -/
def FailsafeTouches (s : Machine) (judged touched : ℕ) : Pick → Prop
  | .holder _ => ∃ k, s.holder = some (.stop (some judged) k) ∧ k.touches s = some touched
  | .stopper j _ => ∃ k, s.stoppers[j]? = some ⟨some judged, k⟩ ∧ k.touches s = some touched
  | _ => False

/-- What is asked of a step: no `StartLocked` takes the lock while there is a
`FailsafeStop` that has not ended, for a session whose teardown has begun. -/
def NoStaleVerdict (s : Machine) : Pick → Prop
  | .start => ∀ p ∈ s.stoppers, p.phase ≠ .done → ∀ a ∈ p.judged, a ∉ s.begun
  | _ => True

instance (s : Machine) (a : Pick) : Decidable (NoStaleVerdict s a) :=
  match a with
  | .start => inferInstanceAs (Decidable
      (∀ p ∈ s.stoppers, p.phase ≠ .done → ∀ a ∈ p.judged, a ∉ s.begun))
  | .stopRequest | .holder _ | .evaluator _ _ | .stopper _ _ => .isTrue trivial

/-! ### The invariant -/

/-- No session had its `StartLocked` take the lock after the teardown of this one began. -/
def Machine.Free (s : Machine) (a : ℕ) : Prop := ∀ b, a ∉ s.before b

/-- The holder is within a `StartLocked` that has not published its readiness. -/
def HolderAt.starting : HolderAt → Bool
  | load | start _ _ | publish _ => true
  | _ => false

/-- The readiness that the holder brings up. -/
def HolderAt.brings : HolderAt → Option ℕ
  | check _ r | bringUp r | activate r | rewatch r _ | watch r _ => some r
  | _ => none

/-- The holder is about to close the channel for a teardown that has begun. -/
def HolderAt.closing : HolderAt → Bool
  | start _ k | stop _ k => k = .close
  | _ => false

/-- The holder is about to start a watchdog. -/
def HolderAt.watching : HolderAt → Bool
  | watch _ _ => true
  | _ => false

/-- The session whose verdict called the `StopLocked` that the holder is in. -/
def HolderAt.judged : HolderAt → Option ℕ
  | stop a _ => a
  | _ => none

/-- The history and the readiness.  A teardown that has begun is one of a session that
was published, and its readiness is cancelled; one that is brought up has none. -/
structure HistoryOk (s : Machine) : Prop where
  before : ∀ b, ∀ a ∈ s.before b, a ∈ s.begun
  cancelled : ∀ a ∈ s.begun, a ∈ s.cancelled
  begun : ∀ a ∈ s.begun, ∃ r, s.published = some r ∧ a ≤ r
  published : ∀ r, s.published = some r → r ≤ s.started
  starting : ∀ h ∈ s.holder, h.starting = true → ∀ r, s.published = some r → r < s.started
  brings : ∀ h ∈ s.holder, ∀ r, h.brings = some r → r ∉ s.begun

/-- The handlers.  Only the watchdog's own channel has one for a verdict, and it is
dropped before the teardown of its session comes to an end. -/
structure HandlersOk (s : Machine) : Prop where
  channel : ∀ i e, s.evaluators[i]? = some e → e.onDead = true → s.channel = some i
  watching : ∀ h ∈ s.holder, h.watching = true → s.channel = none
  untorn : ∀ e ∈ s.evaluators, e.onDead = true →
    e.session ∉ s.begun ∨ ∃ h, s.holder = some h ∧ h.closing = true
  free : ∀ e ∈ s.evaluators, e.onDead = true → s.Free e.session

/-- The verdicts that are being acted on. -/
structure VerdictsOk (s : Machine) : Prop where
  stoppers : ∀ p ∈ s.stoppers, p.phase ≠ .done → ∀ a, p.judged = some a → s.Free a
  holder : ∀ h ∈ s.holder, ∀ a, h.judged = some a → s.Free a

section Proofs

variable {s s' : Machine} {o : Outcome} {coin : Bool} {a : Pick}

/-! ### Handlers that are dropped -/

/-- A channel that has its handler after a change had it before, for the same session. -/
def HandlersFrom (s s' : Machine) : Prop :=
  ∀ (i : ℕ) (e' : Evaluator), s'.evaluators[i]? = some e' → e'.onDead = true →
    ∃ e : Evaluator, s.evaluators[i]? = some e ∧ e.onDead = true ∧ e.session = e'.session

lemma HandlersFrom.of_eq (h : s'.evaluators = s.evaluators) : HandlersFrom s s' := by
  intro i e' he' hdead
  rw [h] at he'
  exact ⟨e', he', hdead, rfl⟩

lemma onDead_clearHandlers {c i : ℕ} {e' : Evaluator}
    (he' : (s.clearHandlers c).evaluators[i]? = some e') (hdead : e'.onDead = true) :
    i ≠ c ∧ s.evaluators[i]? = some e' := by
  simp only [Machine.clearHandlers, List.getElem?_modify] at he'
  obtain ⟨e, he, heq⟩ := Option.map_eq_some_iff.1 he'
  by_cases hi : c = i
  · rw [if_pos hi] at heq
    subst heq
    exact absurd hdead (by simp [Evaluator.clear])
  · rw [if_neg hi] at heq
    subst heq
    exact ⟨fun h => hi h.symm, he⟩

lemma HandlersFrom.clearHandlers (c : ℕ) : HandlersFrom s (s.clearHandlers c) := by
  intro i e' he' hdead
  exact ⟨e', (onDead_clearHandlers he' hdead).2, hdead, rfl⟩

lemma HandlersOk.closeChannel (h : HandlersOk s) {e : Evaluator}
    (he : e ∈ s.closeChannel.evaluators) : e.onDead = false := by
  obtain ⟨i, hi⟩ := List.mem_iff_getElem?.1 he
  by_contra hdead
  rw [Bool.not_eq_false] at hdead
  simp only [Machine.closeChannel] at hi
  split at hi
  · next hnone =>
    have hchannel := h.channel i e hi hdead
    rw [hnone] at hchannel
    exact absurd hchannel (by simp)
  · next c hc =>
    obtain ⟨hne, he⟩ := onDead_clearHandlers hi hdead
    have hchannel := h.channel i e he hdead
    rw [hc] at hchannel
    exact hne (Option.some.inj hchannel).symm

lemma closeChannel_eq : ∃ evaluators, s.closeChannel = { s with channel := none, evaluators } := by
  simp only [Machine.closeChannel]
  split
  · next hnone => exact ⟨s.evaluators, by rw [← hnone]⟩
  · exact ⟨_, rfl⟩

lemma closeChannel_channel : s.closeChannel.channel = none := by
  obtain ⟨evaluators, heq⟩ := closeChannel_eq (s := s)
  rw [heq]

/-- Where no more handlers are set, no other channel is the watchdog's and no further
teardown has begun, only the holder counts. -/
lemma HandlersOk.of_from (h : HandlersOk s) (hfrom : HandlersFrom s s')
    (hchannel : s'.channel = s.channel) (hbegun : s'.begun = s.begun)
    (hbefore : s'.before = s.before)
    (hwatching : ∀ k ∈ s'.holder, k.watching = true → s.channel = none)
    (hclosing : ∀ k ∈ s.holder, k.closing = true → ∃ k', s'.holder = some k' ∧ k'.closing = true) :
    HandlersOk s' := by
  have hold : ∀ e' ∈ s'.evaluators, e'.onDead = true →
      ∃ e ∈ s.evaluators, e.onDead = true ∧ e.session = e'.session := by
    intro e' he' hdead
    obtain ⟨i, hi⟩ := List.mem_iff_getElem?.1 he'
    obtain ⟨e, he, hed, heq⟩ := hfrom i e' hi hdead
    exact ⟨e, List.mem_of_getElem? he, hed, heq⟩
  constructor
  · intro i e' he' hdead
    obtain ⟨e, he, hed, -⟩ := hfrom i e' he' hdead
    rw [hchannel]
    exact h.channel i e he hed
  · intro k hk hw
    rw [hchannel]
    exact hwatching k hk hw
  · intro e' he' hdead
    obtain ⟨e, he, hed, heq⟩ := hold e' he' hdead
    rw [hbegun, ← heq]
    rcases h.untorn e he hed with hun | ⟨k, hk, hc⟩
    · exact .inl hun
    · exact .inr (hclosing k hk hc)
  · intro e' he' hdead b
    obtain ⟨e, he, hed, heq⟩ := hold e' he' hdead
    rw [hbefore, ← heq]
    exact h.free e he hed b

lemma HandlersOk.of_closed (hclosed : ∀ e ∈ s.evaluators, e.onDead = false)
    (hchannel : s.channel = none) : HandlersOk s := by
  have hnot : ∀ e ∈ s.evaluators, e.onDead ≠ true := by
    intro e he
    rw [hclosed e he]
    simp
  constructor
  · intro i e he hdead
    exact absurd hdead (hnot e (List.mem_of_getElem? he))
  · intro _ _ _
    exact hchannel
  · intro e he hdead
    exact absurd hdead (hnot e he)
  · intro e he hdead
    exact absurd hdead (hnot e he)

/-! ### The holder -/

lemma stageEnd_eq {r : ℕ} {never : Watch} (hs : stageEnd r never s o = some s') :
    ∃ h : Option HolderAt, s' = { s with holder := h } ∧ ∀ k ∈ h, k.starting = false ∧
      k.watching = false ∧ k.judged = none ∧ ∀ r', k.brings = some r' → r' = r := by
  cases o with
  | watch w =>
    simp only [stageEnd, Option.ite_none_left_eq_some, Option.some.injEq] at hs
    refine ⟨some (.rewatch r w), hs.2.symm, fun k hk => ?_⟩
    cases hk
    exact ⟨rfl, rfl, rfl, fun r' hr' => (Option.some.inj hr').symm⟩
  | stop =>
    refine ⟨some (.stop none .cancel), (Option.some.inj hs).symm, fun k hk => ?_⟩
    cases hk
    exact ⟨rfl, rfl, rfl, fun r' hr' => absurd hr' (by simp [HolderAt.brings])⟩
  | leave =>
    exact ⟨none, (Option.some.inj hs).symm, fun k hk => absurd hk (Option.not_mem_none k)⟩

/-- A statement of `StopLocked`, before the one given.  The teardown begins with the
first, and the second drops the handler. -/
lemma HandlersOk.stopLocked (h : HandlersOk s) {k : StopAt} {k₀ : HolderAt} {h' : Option HolderAt}
    (hk₀ : s.holder = some k₀) (hclosing : k₀.closing = true → k = .close)
    (hnext : k = .cancel → ∃ k', h' = some k' ∧ k'.closing = true)
    (hwatching : ∀ k' ∈ h', k'.watching = false) :
    HandlersOk { stopLocked s k with holder := h' } := by
  have hnot : ∀ k' ∈ h', k'.watching = true → s.channel = none := by
    intro k' hk' hw
    rw [hwatching k' hk'] at hw
    exact absurd hw (by simp)
  have hclosed : k ≠ .close → ∀ k₁ ∈ s.holder, k₁.closing = true →
      ∃ k', h' = some k' ∧ k'.closing = true := by
    intro hne k₁ hk₁ hc
    cases hk₀.symm.trans hk₁
    exact absurd (hclosing hc) hne
  cases k with
  | cancel =>
    simp only [Failsafe.stopLocked]
    split
    · exact h.of_from (.of_eq rfl) rfl rfl rfl hnot (hclosed (by simp))
    · exact ⟨h.channel, hnot, fun _ _ _ => .inr (hnext rfl), h.free⟩
  | close => exact .of_closed (fun e he => h.closeChannel he) closeChannel_channel
  | join | revert | tear => exact h.of_from (.of_eq rfl) rfl rfl rfl hnot (hclosed (by simp))

lemma HandlersOk.holderStep (h : HandlersOk s) (hist : HistoryOk s) {k : HolderAt}
    (hk : s.holder = some k) (hs : holderStep o s k = some s') : HandlersOk s' := by
  -- where the holder is not to close the channel, it has not begun a teardown
  have hopen : k.closing = false → ∀ h' : Option HolderAt, ∀ k₀ ∈ s.holder, k₀.closing = true →
      ∃ k', h' = some k' ∧ k'.closing = true := by
    intro hc h' k₀ hk₀ hcl
    cases hk.symm.trans hk₀
    rw [hc] at hcl
    exact absurd hcl (by simp)
  cases k with
  | load | publish g =>
    cases hs
    exact h.of_from (.of_eq rfl) rfl rfl rfl (by simp [HolderAt.watching]) (hopen rfl _)
  | start g k =>
    cases hs
    refine h.stopLocked hk (by simp [HolderAt.closing]) ?_ ?_
    · rintro rfl
      exact ⟨.start g .close, rfl, rfl⟩
    · cases k <;> simp [StopAt.next, HolderAt.watching]
  | check g r =>
    cases hs
    split
    · exact h.of_from (.of_eq rfl) rfl rfl rfl (by simp [HolderAt.watching]) (hopen rfl _)
    · exact h.of_from (.of_eq rfl) rfl rfl rfl (by simp [HolderAt.watching]) (hopen rfl _)
  | bringUp r | activate r =>
    obtain ⟨h', rfl, hh'⟩ := stageEnd_eq hs
    refine h.of_from (.of_eq rfl) rfl rfl rfl (fun k' hk' hw => ?_) (hopen rfl _)
    rw [(hh' k' hk').2.1] at hw
    exact absurd hw (by simp)
  | rewatch r w =>
    cases hs
    exact .of_closed (fun e he => h.closeChannel he) closeChannel_channel
  | watch r w =>
    cases hs
    have hnone : s.channel = none := h.watching _ hk rfl
    have hnew : r ∉ s.begun := hist.brings _ hk r rfl
    -- the channel was closed, so the new evaluator is the only one with a handler
    have hold : ∀ e ∈ s.evaluators, e.onDead ≠ true := by
      intro e he hdead
      obtain ⟨i, hi⟩ := List.mem_iff_getElem?.1 he
      have hchannel := h.channel i e hi hdead
      rw [hnone] at hchannel
      exact absurd hchannel (by simp)
    have honly : ∀ e ∈ s.evaluators ++ [⟨r, w ≠ .rpcOnly, w = .capture, .watching⟩],
        e.onDead = true → e.session = r := by
      intro e he hdead
      rcases List.mem_append.1 he with he | he
      · exact absurd hdead (hold e he)
      · rw [List.mem_singleton.1 he]
    constructor
    · intro i e he hdead
      rcases Nat.lt_or_ge i s.evaluators.length with hi | hi
      · rw [List.getElem?_append_left hi] at he
        exact absurd hdead (hold e (List.mem_of_getElem? he))
      · have hlt := (List.getElem?_eq_some_iff.1 he).1
        rw [List.length_append, List.length_singleton] at hlt
        exact congrArg some (by omega)
    · intro k hk'
      exact absurd hk' (Option.not_mem_none k)
    · intro e he hdead
      rw [honly e he hdead]
      exact .inl hnew
    · intro e he hdead b hb
      rw [honly e he hdead] at hb
      exact hnew (hist.before b r hb)
  | stop j k =>
    cases hs
    refine h.stopLocked hk (by simp [HolderAt.closing]) ?_ ?_
    · rintro rfl
      exact ⟨.stop j .close, rfl, rfl⟩
    · cases k <;> simp [StopAt.next, HolderAt.watching]

lemma HistoryOk.of_eq (h : HistoryOk s) (hbefore : s'.before = s.before)
    (hbegun : s'.begun = s.begun)
    (hpublished : s'.published = s.published) (hstarted : s'.started = s.started)
    (hcancelled : ∀ a ∈ s.cancelled, a ∈ s'.cancelled)
    (hstarting : ∀ k ∈ s'.holder, k.starting = true → ∃ k₀ ∈ s.holder, k₀.starting = true)
    (hbrings : ∀ k ∈ s'.holder, ∀ r, k.brings = some r → r ∉ s.begun) : HistoryOk s' := by
  constructor
  · rw [hbefore, hbegun]
    exact h.before
  · rw [hbegun]
    exact fun a ha => hcancelled a (h.cancelled a ha)
  · rw [hbegun, hpublished]
    exact h.begun
  · rw [hpublished, hstarted]
    exact h.published
  · intro k hk hst
    obtain ⟨k₀, hk₀, hst₀⟩ := hstarting k hk hst
    rw [hpublished, hstarted]
    exact h.starting k₀ hk₀ hst₀
  · rw [hbegun]
    exact hbrings

lemma HistoryOk.stopLocked (h : HistoryOk s) {k : StopAt} {h' : Option HolderAt}
    (hstarting : ∀ k ∈ h', k.starting = true → ∃ k₀ ∈ s.holder, k₀.starting = true)
    (hbrings : ∀ k ∈ h', k.brings = none) : HistoryOk { stopLocked s k with holder := h' } := by
  have hnone : ∀ {l : List ℕ}, ∀ k ∈ h', ∀ r, k.brings = some r → r ∉ l := by
    intro l k hk r hr
    rw [hbrings k hk] at hr
    exact absurd hr (by simp)
  cases k with
  | cancel =>
    simp only [Failsafe.stopLocked]
    split
    · exact h.of_eq rfl rfl rfl rfl (fun _ => id) hstarting hnone
    next r hr =>
    constructor
    · intro b a ha
      exact List.mem_cons_of_mem r (h.before b a ha)
    · intro a ha
      rcases List.mem_cons.1 ha with rfl | ha
      · exact List.mem_cons_self
      · exact List.mem_cons_of_mem r (h.cancelled a ha)
    · intro a ha
      rcases List.mem_cons.1 ha with rfl | ha
      · exact ⟨a, hr, le_rfl⟩
      · exact h.begun a ha
    · exact h.published
    · intro k hk hst
      obtain ⟨k₀, hk₀, hst₀⟩ := hstarting k hk hst
      exact h.starting k₀ hk₀ hst₀
    · exact hnone
  | close =>
    obtain ⟨evaluators, heq⟩ := closeChannel_eq (s := s)
    rw [Failsafe.stopLocked, heq]
    exact h.of_eq rfl rfl rfl rfl (fun _ => id) hstarting hnone
  | join | revert | tear => exact h.of_eq rfl rfl rfl rfl (fun _ => id) hstarting hnone

lemma HistoryOk.holderStep (h : HistoryOk s) {k : HolderAt} (hk : s.holder = some k)
    (hs : holderStep o s k = some s') : HistoryOk s' := by
  cases k with
  | load =>
    cases hs
    exact h.of_eq rfl rfl rfl rfl (fun _ => id) (fun _ _ _ => ⟨_, hk, rfl⟩)
      (by simp [HolderAt.brings])
  | start g k =>
    cases hs
    refine h.stopLocked (fun _ _ _ => ⟨_, hk, rfl⟩) ?_
    cases k <;> simp [StopAt.next, HolderAt.brings]
  | publish g =>
    cases hs
    -- the sessions whose teardown has begun were published before
    have hlt : ∀ a ∈ s.begun, a < s.started := by
      intro a ha
      obtain ⟨r, hr, har⟩ := h.begun a ha
      have hr' := h.starting _ hk rfl r hr
      omega
    constructor
    · exact h.before
    · exact h.cancelled
    · intro a ha
      exact ⟨s.started, rfl, (hlt a ha).le⟩
    · intro r hr
      exact (Option.some.inj hr).ge
    · simp [HolderAt.starting]
    · intro k hk' r hr
      cases hk'
      cases hr
      exact fun ha => absurd (hlt _ ha) (lt_irrefl _)
  | check g r =>
    cases hs
    have hnew := h.brings _ hk r rfl
    split
    · exact h.of_eq rfl rfl rfl rfl (fun _ => id) (by simp [HolderAt.starting])
        (by simpa [HolderAt.brings] using hnew)
    · exact h.of_eq rfl rfl rfl rfl (fun _ => List.mem_cons_of_mem r)
        (by simp [HolderAt.starting]) (by simpa [HolderAt.brings] using hnew)
  | bringUp r | activate r =>
    have hnew := h.brings _ hk r rfl
    obtain ⟨h', rfl, hh'⟩ := stageEnd_eq hs
    refine h.of_eq rfl rfl rfl rfl (fun _ => id) (fun k hk' hst => ?_) (fun k hk' r' hr' => ?_)
    · rw [(hh' k hk').1] at hst
      exact absurd hst (by simp)
    · rw [(hh' k hk').2.2.2 r' hr']
      exact hnew
  | rewatch r w =>
    have hnew := h.brings _ hk r rfl
    obtain ⟨evaluators, heq⟩ := closeChannel_eq (s := s)
    simp only [Failsafe.holderStep, heq, Option.some.injEq] at hs
    subst hs
    exact h.of_eq rfl rfl rfl rfl (fun _ => id) (by simp [HolderAt.starting])
      (by simpa [HolderAt.brings] using hnew)
  | watch r w =>
    cases hs
    exact h.of_eq rfl rfl rfl rfl (fun _ => id) (by simp) (by simp)
  | stop j k =>
    cases hs
    refine h.stopLocked ?_ ?_
    · cases k <;> simp [StopAt.next, HolderAt.starting]
    · cases k <;> simp [StopAt.next, HolderAt.brings]

lemma VerdictsOk.of_eq (h : VerdictsOk s) (hbefore : s'.before = s.before)
    (hstoppers : s'.stoppers = s.stoppers)
    (hholder : ∀ k ∈ s'.holder, ∀ a, k.judged = some a → ∃ k₀ ∈ s.holder, k₀.judged = some a) :
    VerdictsOk s' := by
  constructor
  · intro p hp hdone a ha b
    rw [hstoppers] at hp
    rw [hbefore]
    exact h.stoppers p hp hdone a ha b
  · intro k hk a ha b
    obtain ⟨k₀, hk₀, ha₀⟩ := hholder k hk a ha
    rw [hbefore]
    exact h.holder k₀ hk₀ a ha₀ b

lemma stopLocked_frame (k : StopAt) :
    (stopLocked s k).before = s.before ∧ (stopLocked s k).stoppers = s.stoppers := by
  cases k with
  | cancel =>
    simp only [stopLocked]
    split <;> exact ⟨rfl, rfl⟩
  | close =>
    obtain ⟨evaluators, heq⟩ := closeChannel_eq (s := s)
    rw [stopLocked, heq]
    exact ⟨rfl, rfl⟩
  | join | revert | tear => exact ⟨rfl, rfl⟩

lemma VerdictsOk.holderStep (h : VerdictsOk s) {k : HolderAt} (hk : s.holder = some k)
    (hs : holderStep o s k = some s') : VerdictsOk s' := by
  cases k with
  | load | publish g | watch r w =>
    cases hs
    exact h.of_eq rfl rfl (by simp [HolderAt.judged])
  | check g r =>
    cases hs
    split
    · exact h.of_eq rfl rfl (by simp [HolderAt.judged])
    · exact h.of_eq rfl rfl (by simp [HolderAt.judged])
  | start g k =>
    cases hs
    obtain ⟨hbefore, hstoppers⟩ := stopLocked_frame (s := s) k
    refine h.of_eq hbefore hstoppers ?_
    cases k <;> simp [StopAt.next, HolderAt.judged]
  | bringUp r | activate r =>
    obtain ⟨h', rfl, hh'⟩ := stageEnd_eq hs
    refine h.of_eq rfl rfl (fun k hk' a ha => ?_)
    rw [(hh' k hk').2.2.1] at ha
    exact absurd ha (by simp)
  | rewatch r w =>
    obtain ⟨evaluators, heq⟩ := closeChannel_eq (s := s)
    simp only [Failsafe.holderStep, heq, Option.some.injEq] at hs
    subst hs
    exact h.of_eq rfl rfl (by simp [HolderAt.judged])
  | stop j k =>
    cases hs
    obtain ⟨hbefore, hstoppers⟩ := stopLocked_frame (s := s) k
    refine h.of_eq hbefore hstoppers (fun k' hk' a ha => ⟨_, hk, ?_⟩)
    obtain ⟨k₁, -, rfl⟩ := Option.map_eq_some_iff.1 hk'
    exact ha

/-! ### The whole -/

/-- The invariant. -/
structure FailsafeOk (s : Machine) : Prop where
  history : HistoryOk s
  handlers : HandlersOk s
  verdicts : VerdictsOk s

/-- What an evaluator can do: nothing that is shared, a call of `FailsafeStop`, or an
`ActivateCapture` for a readiness that is current and not cancelled. -/
lemma evaluatorStep_cases {e : Evaluator} {r : EvaluatorAt × Machine}
    (hr : evaluatorStep coin s e = some r) :
    r.2 = s ∨
    (e.onDead = true ∧ r.2 = { s with stoppers := s.stoppers ++ [⟨some e.session, .bump⟩] }) ∨
    (s.holder = none ∧ e.session ∉ s.cancelled ∧
      r.2 = { s with holder := some (.activate e.session) }) := by
  simp only [evaluatorStep] at hr
  split at hr
  · left
    split at hr
    · rw [← Option.some.inj hr]
    split at hr
    · rw [← Option.some.inj hr]
    · rw [← Option.some.inj (Option.ite_none_left_eq_some.1 hr).2]
  · cases hr
    by_cases hdead : e.onDead = true
    · exact .inr (.inl ⟨hdead, if_pos hdead⟩)
    · exact .inl (if_neg hdead)
  · split at hr
    · obtain ⟨⟨hholder, -, hnot⟩, rfl⟩ := guard_eq_some.1 hr
      exact .inr (.inr ⟨hholder, hnot, rfl⟩)
    · cases hr
      exact .inl rfl
  · exact absurd hr (by simp)

lemma phase_ne_done {p : Stopper} {r : StopperAt × Machine} (hr : stopperStep coin s p = some r) :
    p.phase ≠ .done := by
  intro hdone
  rw [stopperStep, hdone] at hr
  exact absurd hr (by simp)

/-- What a stopper can do: bump the generation or nothing that is shared, cancel a
readiness, drop the handlers of a channel, or take the lock. -/
lemma stopperStep_cases {p : Stopper} {r : StopperAt × Machine}
    (hr : stopperStep coin s p = some r) :
    (∃ generation, r.2 = { s with generation }) ∨ (∃ n, r.2 = s.cancel n) ∨
    (∃ c, r.2 = s.clearHandlers c) ∨
    (s.holder = none ∧ r = (.done, { s with holder := some (.stop p.judged .cancel) })) := by
  obtain ⟨judged, phase⟩ := p
  cases phase with
  | bump | load | loadChannel | crashRevert | dropFirewall =>
    cases hr
    exact .inl ⟨_, rfl⟩
  | cancel n =>
    cases hr
    exact .inr (.inl ⟨n, rfl⟩)
  | wait =>
    simp only [stopperStep] at hr
    split at hr
    · obtain ⟨hholder, hr⟩ := Option.ite_none_right_eq_some.1 hr
      exact .inr (.inr (.inr ⟨hholder, (Option.some.inj hr).symm⟩))
    · cases hr
      exact .inl ⟨s.generation, rfl⟩
  | closeChannel c =>
    cases hr
    exact .inr (.inr (.inl ⟨c, rfl⟩))
  | done => exact absurd hr (by simp [stopperStep])

lemma HandlersFrom.setPhase {i : ℕ} {e : Evaluator} {phase : EvaluatorAt}
    (he : s.evaluators[i]? = some e)
    (heq : s'.evaluators = s.evaluators.set i { e with phase }) : HandlersFrom s s' := by
  intro j e' he' hdead
  rw [heq] at he'
  rcases getElem?_set_cases he' with ⟨rfl, rfl⟩ | ⟨-, hj⟩
  · exact ⟨e, he, hdead, rfl⟩
  · exact ⟨e', hj, hdead, rfl⟩

/-- Where the holder stays as it is, no further teardown has begun and no more handlers
are set, only the verdicts count. -/
lemma FailsafeOk.frame (h : FailsafeOk s) (hstarted : s'.started = s.started)
    (hpublished : s'.published = s.published) (hchannel : s'.channel = s.channel)
    (hholder : s'.holder = s.holder) (hbegun : s'.begun = s.begun) (hbefore : s'.before = s.before)
    (hcancelled : ∀ a ∈ s.cancelled, a ∈ s'.cancelled) (hfrom : HandlersFrom s s')
    (hverdicts : VerdictsOk s') : FailsafeOk s' := by
  constructor
  · refine h.history.of_eq hbefore hbegun hpublished hstarted hcancelled ?_ ?_
    · rw [hholder]
      exact fun k hk hst => ⟨k, hk, hst⟩
    · rw [hholder]
      exact h.history.brings
  · refine h.handlers.of_from hfrom hchannel hbegun hbefore ?_ ?_
    · rw [hholder]
      exact h.handlers.watching
    · rw [hholder]
      exact fun k hk hc => ⟨k, hk, hc⟩
  · exact hverdicts

lemma FailsafeOk.evaluatorStep (h : FailsafeOk s) {i : ℕ} {e : Evaluator}
    {r : EvaluatorAt × Machine} (he : s.evaluators[i]? = some e)
    (hr : evaluatorStep coin s e = some r) :
    FailsafeOk { r.2 with evaluators := s.evaluators.set i { e with phase := r.1 } } := by
  have hmem := List.mem_of_getElem? he
  rcases evaluatorStep_cases hr with hr₂ | ⟨hdead, hr₂⟩ | ⟨hholder, hnot, hr₂⟩
  · rw [hr₂]
    exact h.frame rfl rfl rfl rfl rfl rfl (fun _ => id) (.setPhase he rfl)
      ⟨h.verdicts.stoppers, h.verdicts.holder⟩
  · rw [hr₂]
    refine h.frame rfl rfl rfl rfl rfl rfl (fun _ => id) (.setPhase he rfl)
      ⟨?_, h.verdicts.holder⟩
    -- the handler was there, so no session was started since its teardown began
    intro p hp hdone a ha
    rcases List.mem_append.1 hp with hp | hp
    · exact h.verdicts.stoppers p hp hdone a ha
    · obtain rfl := List.mem_singleton.1 hp
      cases ha
      exact h.handlers.free e hmem hdead
  · rw [hr₂]
    have hnew : e.session ∉ s.begun := fun hbegun => hnot (h.history.cancelled _ hbegun)
    refine ⟨h.history.of_eq rfl rfl rfl rfl (fun _ => id) (by simp [HolderAt.starting])
        (by simpa [HolderAt.brings] using hnew),
      h.handlers.of_from (.setPhase he rfl) rfl rfl rfl (by simp [HolderAt.watching])
        (fun k hk => ?_),
      h.verdicts.of_eq rfl rfl (by simp [HolderAt.judged])⟩
    rw [hholder] at hk
    exact absurd hk (Option.not_mem_none k)

lemma FailsafeOk.stopperStep (h : FailsafeOk s) {j : ℕ} {p : Stopper} {r : StopperAt × Machine}
    (hp : s.stoppers[j]? = some p) (hr : stopperStep coin s p = some r) :
    FailsafeOk { r.2 with stoppers := s.stoppers.set j { p with phase := r.1 } } := by
  have hphase := phase_ne_done hr
  have hmem := List.mem_of_getElem? hp
  have hstoppers : ∀ p' ∈ s.stoppers.set j { p with phase := r.1 }, p'.phase ≠ .done →
      ∀ a, p'.judged = some a → s.Free a := by
    intro p' hp' hdone a ha
    rcases List.mem_or_eq_of_mem_set hp' with hp' | rfl
    · exact h.verdicts.stoppers p' hp' hdone a ha
    · exact h.verdicts.stoppers p hmem hphase a ha
  rcases stopperStep_cases hr with ⟨generation, hr₂⟩ | ⟨n, hr₂⟩ | ⟨c, hr₂⟩ | ⟨hholder, rfl⟩
  · rw [hr₂]
    exact h.frame rfl rfl rfl rfl rfl rfl (fun _ => id) (.of_eq rfl)
      ⟨hstoppers, h.verdicts.holder⟩
  · rw [hr₂]
    exact h.frame rfl rfl rfl rfl rfl rfl (fun _ => List.mem_cons_of_mem n) (.of_eq rfl)
      ⟨hstoppers, h.verdicts.holder⟩
  · rw [hr₂]
    exact h.frame rfl rfl rfl rfl rfl rfl (fun _ => id) (HandlersFrom.clearHandlers c)
      ⟨hstoppers, h.verdicts.holder⟩
  · refine ⟨h.history.of_eq rfl rfl rfl rfl (fun _ => id) (by simp [HolderAt.starting])
        (by simp [HolderAt.brings]),
      h.handlers.of_from (.of_eq rfl) rfl rfl rfl (by simp [HolderAt.watching]) (fun k hk => ?_),
      ⟨hstoppers, fun k hk a ha => ?_⟩⟩
    · rw [hholder] at hk
      exact absurd hk (Option.not_mem_none k)
    · cases hk
      exact h.verdicts.stoppers p hmem hphase a ha

/-- A `StartLocked` that takes the lock keeps the invariant, if there is no verdict on a
session whose teardown has begun. -/
lemma FailsafeOk.start (h : FailsafeOk s) (hstale : NoStaleVerdict s .start)
    (hholder : s.holder = none) :
    FailsafeOk { s with
      started := s.started + 1
      before := fun b => if b = s.started + 1 then s.begun else s.before b
      holder := some .load } := by
  have hbefore : ∀ b a, a ∈ (if b = s.started + 1 then s.begun else s.before b) → a ∈ s.begun := by
    intro b a ha
    split at ha
    · exact ha
    · exact h.history.before b a ha
  have hfree : ∀ a, s.Free a → a ∉ s.begun →
      ∀ b, a ∉ (if b = s.started + 1 then s.begun else s.before b) := by
    intro a hfree hnot b hb
    split at hb
    · exact hnot hb
    · exact hfree b hb
  -- nobody holds the lock, so no handler of a session that is being torn down is left
  have huntorn : ∀ e ∈ s.evaluators, e.onDead = true → e.session ∉ s.begun := by
    intro e he hdead
    rcases h.handlers.untorn e he hdead with hun | ⟨k, hk, -⟩
    · exact hun
    · rw [hholder] at hk
      exact absurd hk (by simp)
  refine ⟨⟨hbefore, h.history.cancelled, h.history.begun, fun r hr => ?_, fun _ _ _ r hr => ?_, ?_⟩,
    ⟨h.handlers.channel, ?_, fun e he hdead => .inl (huntorn e he hdead), fun e he hdead => ?_⟩,
    ⟨fun p hp hdone a ha => ?_, ?_⟩⟩
  · exact (h.history.published r hr).trans (Nat.le_succ _)
  · exact Nat.lt_succ_of_le (h.history.published r hr)
  · simp [HolderAt.brings]
  · simp [HolderAt.watching]
  · exact hfree _ (h.handlers.free e he hdead) (huntorn e he hdead)
  · exact hfree a (h.verdicts.stoppers p hp hdone a ha) (hstale p hp hdone a ha)
  · simp [HolderAt.judged]

lemma FailsafeOk.step (h : FailsafeOk s) (hstale : NoStaleVerdict s a)
    (hs : step s a = some s') : FailsafeOk s' := by
  cases a with
  | start =>
    simp only [Failsafe.step, guard_eq_some] at hs
    obtain ⟨hholder, rfl⟩ := hs
    exact h.start hstale hholder
  | stopRequest =>
    cases hs
    refine h.frame rfl rfl rfl rfl rfl rfl (fun _ => id) (.of_eq rfl)
      ⟨fun p hp hdone a ha => ?_, h.verdicts.holder⟩
    rcases List.mem_append.1 hp with hp | hp
    · exact h.verdicts.stoppers p hp hdone a ha
    · rw [List.mem_singleton.1 hp] at ha
      exact absurd ha (by simp)
  | holder o =>
    obtain ⟨k, hk, hs⟩ := Option.bind_eq_some_iff.1 hs
    exact ⟨h.history.holderStep hk hs, h.handlers.holderStep h.history hk hs,
      h.verdicts.holderStep hk hs⟩
  | evaluator i coin =>
    simp only [Failsafe.step] at hs
    split at hs
    · exact absurd hs (by simp)
    next e he =>
    obtain ⟨r, hr, rfl⟩ := Option.map_eq_some_iff.1 hs
    exact h.evaluatorStep he hr
  | stopper j coin =>
    simp only [Failsafe.step] at hs
    split at hs
    · exact absurd hs (by simp)
    next p hp =>
    obtain ⟨r, hr, rfl⟩ := Option.map_eq_some_iff.1 hs
    exact h.stopperStep hp hr

/-- A verdict that is being acted on takes nothing from a session that was started after
the teardown of its own began. -/
lemma FailsafeOk.touches (h : FailsafeOk s) {judged touched : ℕ}
    (ht : FailsafeTouches s judged touched a) (hs : Failsafe.step s a = some s') :
    judged ∉ s.before touched := by
  cases a with
  | holder o =>
    obtain ⟨k, hk, -⟩ := ht
    exact h.verdicts.holder _ hk judged rfl touched
  | stopper j coin =>
    obtain ⟨k, hk, -⟩ := ht
    simp only [Failsafe.step, hk] at hs
    obtain ⟨r, hr, -⟩ := Option.map_eq_some_iff.1 hs
    exact h.verdicts.stoppers _ (List.mem_of_getElem? hk) (phase_ne_done hr) judged rfl touched
  | start | stopRequest | evaluator i coin => exact ht.elim

/-- In every run in which no `StartLocked` takes the lock over a stale verdict: a step of
a `FailsafeStop` takes nothing from a session whose `StartLocked` took the lock after the
teardown of the judged session began. -/
theorem verdict_kept_apart {es : List (Transition Machine Pick)}
    (hrun : Machine.Runs NoStaleVerdict es s) :
    ∀ t ∈ es, ∀ judged touched, FailsafeTouches t.pre judged touched t.label →
      judged ∉ t.pre.before touched := by
  have hinit : FailsafeOk {} := by
    exact ⟨⟨by simp, by simp, by simp, by simp, by simp, by simp⟩,
      ⟨by simp, by simp, by simp, by simp⟩, ⟨by simp, by simp⟩⟩
  have hall := hrun.invariant (P := fun es s => FailsafeOk s ∧
      ∀ t ∈ es, ∀ judged touched, FailsafeTouches t.pre judged touched t.label →
        judged ∉ t.pre.before touched)
    (fun s hs => by
      obtain rfl := hs
      exact ⟨hinit, by simp⟩)
    (fun es s a s' ih hstep => by
      obtain ⟨hok, hall⟩ := ih
      obtain ⟨hs, hstale⟩ := hstep
      refine ⟨hok.step hstale hs, fun t ht judged touched htouch => ?_⟩
      rcases List.mem_append.1 ht with ht | ht
      · exact hall t ht judged touched htouch
      · obtain rfl := List.mem_singleton.1 ht
        exact hok.touches htouch hs)
  exact hall.2

end Proofs

/-- A session is started, and its capture is watched for. -/
def started : List Pick :=
  .start :: (List.replicate 8 (Pick.holder .leave) ++
    [.holder (.watch .capture), .holder .leave, .holder .leave])

/-- It is captured and watched, and its evaluator calls `FailsafeStop`, which has
cancelled its readiness and waits for the lock. -/
def verdictReached : List Pick :=
  [.evaluator 0 false, .evaluator 0 true,
    .holder (.watch .up), .holder .leave, .holder .leave,
    .evaluator 1 true, .evaluator 1 true,
    .stopper 0 true, .stopper 0 true, .stopper 0 true]

/-- The user stops it. -/
def userStops : List Pick :=
  .stopRequest :: (List.replicate 4 (Pick.stopper 1 true) ++ List.replicate 5 (.holder .leave))

/-- The failsafe takes the lock and comes to the last statement of `StopLocked`. -/
def verdictActs : List Pick := .stopper 0 true :: List.replicate 4 (.holder .leave)

/-- A verdict that is acted on before its session is torn down by anybody else. -/
theorem verdict_kept_apart_alone :
    ∃ es s, Machine.Runs NoStaleVerdict es s ∧ s.owned = none ∧ s.begun = [1] ∧
      (∃ t ∈ es, FailsafeTouches t.pre 1 1 t.label) ∧
      ∀ t ∈ es, ∀ judged touched, FailsafeTouches t.pre judged touched t.label →
        judged ∉ t.pre.before touched := by
  obtain ⟨es, s, hrun, hgood⟩ := Run.exists_of_cond step NoStaleVerdict {}
    (started ++ verdictReached ++ verdictActs)
    (fun s => s.holder = some (.stop (some 1) .tear) ∧ s.owned = some 1 ∧ s.begun = [1])
    (by decide +kernel)
  rw [decide_eq_true_eq] at hgood
  obtain ⟨hholder, howned, hbegun⟩ := hgood
  have hstep : step s (.holder .leave) = some { s with owned := none, holder := none } := by
    simp [step, hholder, holderStep, stopLocked, StopAt.next]
  have hrun' := hrun.snoc ⟨hstep, trivial⟩
  refine ⟨_, _, hrun', rfl, hbegun, ⟨_, List.mem_concat_self, ?_⟩,
    verdict_kept_apart hrun'⟩
  exact ⟨.tear, hholder, howned⟩

/-- The verdict waits for the lock while the user stops its session and starts another,
and then tears that one down. -/
theorem verdict_tears_down_next :
    ∃ es s, Machine.Runs (fun _ _ => True) es s ∧ s.owned = none ∧ s.channel = none ∧
      2 ∈ s.cancelled ∧
      ∃ t ∈ es, FailsafeTouches t.pre 1 2 t.label ∧ 1 ∈ t.pre.before 2 := by
  obtain ⟨es, s, hrun, hgood⟩ := Run.exists_of_cond step (fun _ _ => True) {}
    (started ++ verdictReached ++ userStops ++ started ++ verdictActs)
    (fun s => s.holder = some (.stop (some 1) .tear) ∧ s.owned = some 2 ∧ s.channel = none ∧
      2 ∈ s.cancelled ∧ 1 ∈ s.before 2)
    (by decide +kernel)
  rw [decide_eq_true_eq] at hgood
  obtain ⟨hholder, howned, hchannel, hcancelled, hbefore⟩ := hgood
  have hstep : step s (.holder .leave) = some { s with owned := none, holder := none } := by
    simp [step, hholder, holderStep, stopLocked, StopAt.next]
  refine ⟨_, _, hrun.snoc ⟨hstep, trivial⟩, rfl, hchannel, hcancelled, _,
    List.mem_concat_self, ?_, hbefore⟩
  exact ⟨.tear, hholder, howned⟩

end UrnetworkWindows.Controller.Failsafe
