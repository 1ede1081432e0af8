/-
The controller's firewall transitions and the connecting watchdog
(`ApplyWfpLocked`, `ArmConnectingWatchdogLocked`, `CancelConnectingWatchdogLocked`,
`DropFirewallOnEscape`, `StatusLocked`, `RepublishMachineFactsLockFree`).

Whoever holds `mutex_` is one party: it takes the lock and gives it back, and in
between makes any transitions and publishes any statuses, one after the other.  The
watchdog is a second party and takes no lock; the escapes are any number of further
ones, each begun while the lock is held.  Every call into `WfpPolicy` and every access
to the status mirror is a step.

Installations of a policy are numbered, and so are the times an escape took the routes
back; both numbers are history that no party reads.  The kill switch, as an escape
loads it, is the coin of that step.  Of a status only the two fields of interest are
kept.
-/
import UrnetworkWindows.Lib.Trace
import UrnetworkWindows.Wfp.Filters

namespace UrnetworkWindows.Controller.Transitions

open Lib Wfp

/-! ### The model -/

/-- The fields of `TunnelStatus` that the firewall and the routes decide, with the
number of route reverts at the time it was composed. -/
structure Status where
  wfp : WfpState := .off
  routes : Bool := false
  reverts : ℕ := 0
deriving DecidableEq, Repr

/-- The next statement of the lock's holder.  Within `ApplyWfpLocked` the publication
and what follows it know the number of the policy a watchdog is to be armed for. -/
inductive HolderAt
  | idle
  | cancel (p : WfpState)
  | change (p : WfpState)
  | compose (arm : Option ℕ)
  | store (status : Status) (arm : Option ℕ)
  | arm (n : ℕ)
deriving DecidableEq, Repr

/-- The watchdog's thread, with the number of the policy it was armed for: not there,
waiting for its window to end, past the wait, publishing, or done and not joined. -/
inductive WatchdogAt
  | idle
  | waiting (n : ℕ)
  | firing (n : ℕ)
  | read
  | patch (wfp : WfpState)
  | finished
deriving DecidableEq, Repr

/-- The next statement of an escape. -/
inductive EscapeAt
  | crashRevert
  | loadSwitch
  | check
  | revert
  | read
  | patch (wfp : WfpState)
  | done
deriving DecidableEq, Repr

/-- The policy in force and its number, the route owner, the mirror, and the parties.
`narrowFailed` is the last policy whose watchdog failed to narrow it, and `reverted`
says that an escape took the routes back, and since then no status was published that
was composed later, and no routes were installed. -/
structure Machine where
  policy : WfpState := .off
  serial : ℕ := 0
  routes : Bool := false
  mirror : Status := {}
  held : Bool := false
  holder : HolderAt := .idle
  watchdog : WatchdogAt := .idle
  narrowFailed : Option ℕ := none
  escapes : List EscapeAt := []
  reverts : ℕ := 0
  reverted : Bool := false
deriving DecidableEq, Repr

/-- How an `ApplyWfpLocked` ends: its `Apply` succeeds or fails, or it refuses to
install anything because the service's own path is unknown. -/
inductive Outcome
  | ok
  | failed
  | refused
deriving DecidableEq, Repr

/-- What the scheduler picks. -/
inductive Pick
  | lock
  | unlock
  | applyWfp (p : WfpState)
  | publish
  | installRoutes
  | releaseRoutes
  | holder (outcome : Outcome)
  | watchdog (coin : Bool)
  | escape
  | escapeStep (i : ℕ) (coin : Bool)
deriving DecidableEq, Repr

/-- A policy comes into force. -/
def Machine.install (p : WfpState) (s : Machine) : Machine :=
  { s with policy := p, serial := s.serial + 1 }

/-- `ComposeStatusLocked`. -/
def Machine.composeStatus (s : Machine) : Status := ⟨s.policy, s.routes, s.reverts⟩

/-- The next step of the holder.  A watchdog that is waiting is told to end, and one
that is past its wait is waited for. -/
def holderStep (o : Outcome) (s : Machine) : Option Machine :=
  match s.holder with
  | .idle => none
  | .cancel p =>
    match s.watchdog with
    | .idle | .waiting _ | .finished => some { s with holder := .change p, watchdog := .idle }
    | .firing _ | .read | .patch _ => none
  | .change p =>
    if p = .off then some { s.install .off with holder := .compose none }
    else match o with
      | .ok => some { s.install p with
          holder := .compose (if p = .connecting then some (s.serial + 1) else none) }
      | .failed => some { s with holder := .compose none }
      | .refused => some { s with holder := .idle }
  | .compose arm => some { s with holder := .store s.composeStatus arm }
  | .store status arm => some { s with
      mirror := status
      reverted := s.reverted && status.reverts ≠ s.reverts
      holder := match arm with | some n => .arm n | none => .idle }
  | .arm n =>
    match s.watchdog with
    | .idle | .waiting _ | .finished => some { s with holder := .idle, watchdog := .waiting n }
    | .firing _ | .read | .patch _ => none

/-- The next step of the watchdog. -/
def watchdogStep (coin : Bool) (s : Machine) : Option Machine :=
  match s.watchdog with
  | .idle | .finished => none
  | .waiting n => some { s with watchdog := .firing n }
  | .firing n =>
    if coin then some { s.install .armed with watchdog := .read }
    else some { s with watchdog := .read, narrowFailed := some n }
  | .read => some { s with watchdog := .patch s.policy }
  | .patch wfp => some { s with watchdog := .finished, mirror := { s.mirror with wfp } }

/-- The next step of an escape, and what it goes on with. -/
def escapeStep (coin : Bool) (s : Machine) : EscapeAt → Option (EscapeAt × Machine)
  | .crashRevert => some (.loadSwitch, { s with reverts := s.reverts + 1, reverted := true })
  | .loadSwitch => some (if coin then .read else .check, s)
  | .check => some (if s.policy = .off then .read else .revert, s)
  | .revert => some (.read, s.install .off)
  | .read => some (.patch s.policy, s)
  | .patch wfp => some (.done, { s with mirror := { s.mirror with wfp, routes := false } })
  | .done => none

/-- One step of the whole. -/
def step (s : Machine) : Pick → Option Machine
  | .lock => if s.held then none else some { s with held := true }
  | .unlock => if s.held ∧ s.holder = .idle then some { s with held := false } else none
  | .applyWfp p =>
    if s.held ∧ s.holder = .idle then some { s with holder := .cancel p } else none
  | .publish =>
    if s.held ∧ s.holder = .idle then some { s with holder := .compose none } else none
  | .installRoutes =>
    if s.held ∧ s.holder = .idle then some { s with routes := true, reverted := false } else none
  | .releaseRoutes =>
    if s.held ∧ s.holder = .idle then some { s with routes := false } else none
  | .holder o => if s.held then holderStep o s else none
  | .watchdog coin => watchdogStep coin s
  | .escape => if s.held then some { s with escapes := s.escapes ++ [.crashRevert] } else none
  | .escapeStep i coin =>
    match s.escapes[i]? with
    | none => none
    | some e => (escapeStep coin s e).map fun r => { r.2 with escapes := s.escapes.set i r.1 }

/-- The runs in which every step meets a condition, from a service that has just
started. -/
abbrev Machine.Runs (cond : Machine → Pick → Prop) :
    List (Transition Machine Pick) → Machine → Prop :=
  Run (· = {}) fun _ s a s' => step s a = some s' ∧ cond s a

/-! ### The window -/

/-- The policy the next statement of the holder is to change to. -/
def HolderAt.changes : HolderAt → Option WfpState
  | change p => some p
  | _ => none

/-- The number of the policy the holder has yet to arm a watchdog for. -/
def HolderAt.arms : HolderAt → Option ℕ
  | compose a | store _ a => a
  | arm n => some n
  | _ => none

/-- The holder is within a transition: it has cancelled the watchdog, or has yet to
arm one. -/
def HolderAt.inTransition (h : HolderAt) : Bool := h.changes.isSome || h.arms.isSome

/-- The watchdog was armed for that policy and has not been cancelled. -/
def WatchdogAt.armedFor (n : ℕ) : WatchdogAt → Bool
  | waiting m | firing m => m = n
  | _ => false

/-- The DNS window is watched: a connecting policy has a watchdog armed for it, or one
that failed to narrow it. -/
def Machine.Watched (s : Machine) : Prop :=
  s.policy = .connecting → s.watchdog.armedFor s.serial = true ∨ s.narrowFailed = some s.serial

/-- The transition is an `Apply(Armed)` of the watchdog that takes effect, over
another policy than the one it was armed for. -/
def NarrowsAnother (t : Transition Machine Pick) : Prop :=
  t.label = .watchdog true ∧ ∃ n, t.pre.watchdog = .firing n ∧
    ¬ (t.pre.policy = .connecting ∧ t.pre.serial = n)

/-- What is asked of a step: no transition over a connecting policy fails to install
its own, and no escape reverts a connecting policy. -/
def WindowKept (s : Machine) : Pick → Prop
  | .holder o => ∀ p ∈ s.holder.changes, p ≠ .off → s.policy = .connecting → o = .ok
  | .escapeStep i _ => s.escapes[i]? = some .revert → s.policy ≠ .connecting
  | _ => True

instance (s : Machine) (a : Pick) : Decidable (WindowKept s a) :=
  match a with
  | .holder o => inferInstanceAs (Decidable
      (∀ p ∈ s.holder.changes, p ≠ .off → s.policy = .connecting → o = .ok))
  | .escapeStep i _ => inferInstanceAs (Decidable
      (s.escapes[i]? = some .revert → s.policy ≠ .connecting))
  | .lock | .unlock | .applyWfp _ | .publish | .installRoutes | .releaseRoutes | .watchdog _
  | .escape => .isTrue trivial

/-- The invariant of the window.  An armed watchdog stands over the policy it was
armed for, and between its cancellation and the next one there is none. -/
structure WindowOk (s : Machine) : Prop where
  watched : s.policy = .connecting → s.holder.inTransition = true ∨
    s.watchdog.armedFor s.serial = true ∨ s.narrowFailed = some s.serial
  armed : ∀ n, s.watchdog.armedFor n = true → s.policy = .connecting ∧ s.serial = n
  cancelled : s.holder.inTransition = true → s.watchdog = .idle
  arming : ∀ n, s.holder.arms = some n → s.policy = .connecting ∧ s.serial = n

section Window

variable {s s' : Machine} {o : Outcome} {coin : Bool}

lemma WindowOk.of_eq (h : WindowOk s) (hpolicy : s'.policy = s.policy)
    (hserial : s'.serial = s.serial) (hwatchdog : s'.watchdog = s.watchdog)
    (hfailed : s'.narrowFailed = s.narrowFailed)
    (hin : s'.holder.inTransition = s.holder.inTransition)
    (harms : s'.holder.arms = s.holder.arms) :
    WindowOk s' := by
  constructor
  · rw [hpolicy, hin, hwatchdog, hserial, hfailed]
    exact h.watched
  · rw [hwatchdog, hpolicy, hserial]
    exact h.armed
  · rw [hin, hwatchdog]
    exact h.cancelled
  · rw [harms, hpolicy, hserial]
    exact h.arming

lemma WindowOk.install {p : WfpState} {h : HolderAt} (hidle : s.watchdog = .idle)
    (harms : h.arms = if p = .connecting then some (s.serial + 1) else none) :
    WindowOk { s.install p with holder := h } := by
  have hchanges : p = .connecting → h.inTransition = true := by
    intro hp
    rw [HolderAt.inTransition, harms, if_pos hp]
    simp
  refine ⟨fun hp => .inl (hchanges hp), fun n hn => ?_, fun _ => hidle, fun n hn => ?_⟩
  · replace hn : s.watchdog.armedFor n = true := hn
    rw [hidle] at hn
    exact absurd hn (by simp [WatchdogAt.armedFor])
  · replace hn : h.arms = some n := hn
    rw [harms] at hn
    obtain ⟨hp, hn⟩ := Option.ite_none_right_eq_some.1 hn
    exact ⟨hp, Option.some.inj hn⟩

lemma WindowOk.narrow {h : HolderAt} (hidle : s.watchdog = .idle) (hpolicy : s.policy ≠ .connecting)
    (harms : h.arms = none) : WindowOk { s with holder := h } := by
  refine ⟨fun hp => absurd hp hpolicy, fun n hn => ?_, fun _ => hidle, fun n hn => ?_⟩
  · replace hn : s.watchdog.armedFor n = true := hn
    rw [hidle] at hn
    exact absurd hn (by simp [WatchdogAt.armedFor])
  · replace hn : h.arms = some n := hn
    rw [harms] at hn
    exact absurd hn (by simp)

lemma WindowOk.holderStep (h : WindowOk s) (hkept : WindowKept s (.holder o))
    (hs : holderStep o s = some s') : WindowOk s' := by
  have hcancelled := h.cancelled
  have harming := h.arming
  simp only [WindowKept] at hkept
  simp only [Transitions.holderStep] at hs
  split at hs
  · exact absurd hs (by simp)
  · -- the watchdog is joined
    next p hholder =>
    have hdone : s' = { s with holder := .change p, watchdog := .idle } := by
      split at hs <;> simp_all
    subst hdone
    exact ⟨fun _ => .inl rfl, fun n hn => absurd hn (by simp [WatchdogAt.armedFor]), fun _ => rfl,
      fun n hn => absurd hn (by simp [HolderAt.arms])⟩
  · next p hholder =>
    rw [hholder] at hkept hcancelled
    have hidle : s.watchdog = .idle := hcancelled rfl
    split at hs
    · cases hs
      exact .install hidle (by simp [HolderAt.arms])
    next hp =>
    -- a policy that was not replaced is not a connecting one
    have hstays : o ≠ .ok → s.policy ≠ .connecting := fun ho hc => ho (hkept p rfl hp hc)
    split at hs
    · cases hs
      exact .install hidle rfl
    · cases hs
      exact .narrow hidle (hstays (by simp)) rfl
    · cases hs
      exact .narrow hidle (hstays (by simp)) rfl
  · next a hholder =>
    cases hs
    exact h.of_eq rfl rfl rfl rfl (by rw [hholder]; rfl) (by rw [hholder]; rfl)
  · next status a hholder =>
    cases hs
    cases a with
    | none | some n => exact h.of_eq rfl rfl rfl rfl (by rw [hholder]; rfl) (by rw [hholder]; rfl)
  · next n hholder =>
    rw [hholder] at harming
    obtain ⟨hpolicy, hserial⟩ := harming n rfl
    have hdone : s' = { s with holder := .idle, watchdog := .waiting n } := by
      split at hs <;> simp_all
    subst hdone
    refine ⟨fun _ => .inr (.inl ?_), fun m hm => ?_, fun hin => absurd hin ?_, fun m hm => ?_⟩
    · simp [WatchdogAt.armedFor, hserial]
    · obtain rfl : n = m := by simpa [WatchdogAt.armedFor] using hm
      exact ⟨hpolicy, hserial⟩
    · simp [HolderAt.inTransition, HolderAt.changes, HolderAt.arms]
    · exact absurd hm (by simp [HolderAt.arms])

lemma WindowOk.past (h : WindowOk s) {w : WatchdogAt} {m : Status} (hne : s.watchdog ≠ .idle)
    (hpast : ∀ n, s.watchdog.armedFor n = false) (hpast' : ∀ n, w.armedFor n = false) :
    WindowOk { s with watchdog := w, mirror := m } := by
  refine ⟨fun hp => ?_, fun n hn => ?_, fun hin => absurd (h.cancelled hin) hne, h.arming⟩
  · rcases h.watched hp with hin | harmed | hfailed
    · exact .inl hin
    · rw [hpast] at harmed
      exact absurd harmed (by simp)
    · exact .inr (.inr hfailed)
  · replace hn : w.armedFor n = true := hn
    rw [hpast'] at hn
    exact absurd hn (by simp)

lemma WindowOk.watchdogStep (h : WindowOk s) (hs : watchdogStep coin s = some s') :
    WindowOk s' := by
  have harmed := h.armed
  have hcancelled := h.cancelled
  simp only [Transitions.watchdogStep] at hs
  split at hs
  · exact absurd hs (by simp)
  · exact absurd hs (by simp)
  · next n hw =>
    cases hs
    rw [hw] at harmed hcancelled
    obtain ⟨hpolicy, hserial⟩ := harmed n (by simp [WatchdogAt.armedFor])
    refine ⟨fun _ => .inr (.inl (by simp [WatchdogAt.armedFor, hserial])), harmed, fun hin => ?_,
      h.arming⟩
    exact absurd (hcancelled hin) (by simp)
  · next n hw =>
    rw [hw] at harmed hcancelled
    obtain ⟨hpolicy, hserial⟩ := harmed n (by simp [WatchdogAt.armedFor])
    have hno : s.holder.inTransition ≠ true := fun hin => absurd (hcancelled hin) (by simp)
    have harms : s.holder.arms = none := by
      rw [HolderAt.inTransition, ne_eq, Bool.or_eq_true, not_or] at hno
      simpa using hno.2
    split at hs
    · cases hs
      refine ⟨fun hp => absurd hp (by simp [Machine.install]), fun m hm => ?_,
        fun hin => absurd hin hno, fun m hm => ?_⟩
      · exact absurd hm (by simp [WatchdogAt.armedFor])
      · exact absurd (harms.symm.trans hm) (by simp)
    · cases hs
      refine ⟨fun _ => .inr (.inr (by simp [hserial])), fun m hm => ?_,
        fun hin => absurd hin hno, h.arming⟩
      exact absurd hm (by simp [WatchdogAt.armedFor])
  · next hw =>
    cases hs
    exact h.past (by simp [hw]) (fun _ => by rw [hw]; rfl) fun _ => rfl
  · next wfp hw =>
    cases hs
    exact h.past (by simp [hw]) (fun _ => by rw [hw]; rfl) fun _ => rfl

lemma WindowOk.escapeStep {e : EscapeAt} {r : EscapeAt × Machine} {es : List EscapeAt}
    (h : WindowOk s) (hkept : e = .revert → s.policy ≠ .connecting)
    (hs : escapeStep coin s e = some r) : WindowOk { r.2 with escapes := es } := by
  cases e with
  | crashRevert | loadSwitch | check | read | patch =>
    cases hs
    exact h.of_eq rfl rfl rfl rfl rfl rfl
  | revert =>
    cases hs
    have hne := hkept rfl
    exact ⟨fun hp => absurd hp (by simp [Machine.install]),
      fun n hn => absurd (h.armed n hn).1 hne, h.cancelled,
      fun n hn => absurd (h.arming n hn).1 hne⟩
  | done => exact absurd hs (by simp [Transitions.escapeStep])

lemma WindowOk.begin {b : Machine} (h : WindowOk s) (hs : (if s.held ∧ s.holder = .idle then
      some b else none) = some s') (hpolicy : b.policy = s.policy) (hserial : b.serial = s.serial)
    (hwatchdog : b.watchdog = s.watchdog) (hfailed : b.narrowFailed = s.narrowFailed)
    (hin : b.holder.inTransition = HolderAt.idle.inTransition)
    (harms : b.holder.arms = HolderAt.idle.arms) : WindowOk s' := by
  obtain ⟨⟨-, hidle⟩, rfl⟩ := guard_eq_some.1 hs
  exact h.of_eq hpolicy hserial hwatchdog hfailed (by rw [hin, hidle]) (by rw [harms, hidle])

lemma WindowOk.step {a : Pick} (h : WindowOk s) (hkept : WindowKept s a)
    (hs : step s a = some s') : WindowOk s' := by
  cases a with
  | lock =>
    simp only [Transitions.step, Option.ite_none_left_eq_some, Option.some.injEq] at hs
    obtain ⟨-, rfl⟩ := hs
    exact h.of_eq rfl rfl rfl rfl rfl rfl
  | applyWfp p | publish => exact h.begin hs rfl rfl rfl rfl rfl rfl
  | unlock | installRoutes | releaseRoutes =>
    simp only [Transitions.step, guard_eq_some] at hs
    obtain ⟨-, rfl⟩ := hs
    exact h.of_eq rfl rfl rfl rfl rfl rfl
  | holder o =>
    obtain ⟨-, hs⟩ := Option.ite_none_right_eq_some.1 hs
    exact h.holderStep hkept hs
  | watchdog coin => exact h.watchdogStep hs
  | escape =>
    obtain ⟨-, rfl⟩ := guard_eq_some.1 hs
    exact h.of_eq rfl rfl rfl rfl rfl rfl
  | escapeStep i coin =>
    simp only [Transitions.step] at hs
    split at hs
    · exact absurd hs (by simp)
    next e he =>
    obtain ⟨r, hr, rfl⟩ := Option.map_eq_some_iff.1 hs
    refine h.escapeStep (fun hrevert => hkept ?_) hr
    rw [he, hrevert]

/-- In every run in which no transition over a connecting policy fails to install its
own, and no escape reverts a connecting policy: outside a transition a connecting
policy is watched, and what the watchdog narrows is the policy it was armed for. -/
theorem window_watched {es : List (Transition Machine Pick)} {s : Machine}
    (hrun : Machine.Runs WindowKept es s) :
    (s.holder.inTransition = false → s.Watched) ∧ ∀ t ∈ es, ¬ NarrowsAnother t := by
  have hall := hrun.invariant (P := fun es s => WindowOk s ∧ ∀ t ∈ es, ¬ NarrowsAnother t)
    (fun s hs => by
      obtain rfl := hs
      refine ⟨⟨fun hp => absurd hp (by simp), fun n hn => absurd hn (by simp [WatchdogAt.armedFor]),
        fun _ => rfl, fun n hn => absurd hn (by simp [HolderAt.arms])⟩, by simp⟩)
    (fun es s a s' ih hstep => by
      refine ⟨ih.1.step hstep.2 hstep.1, fun t ht => ?_⟩
      rcases List.mem_append.1 ht with ht | ht
      · exact ih.2 t ht
      · obtain rfl := List.mem_singleton.1 ht
        rintro ⟨-, n, hfiring, hanother⟩
        replace hfiring : s.watchdog = .firing n := hfiring
        exact hanother (ih.1.armed n (by simp [hfiring, WatchdogAt.armedFor])))
  refine ⟨fun hout hp => ?_, hall.2⟩
  rcases hall.1.watched hp with hin | hwatched
  · rw [hout] at hin
    exact absurd hin (by simp)
  · exact hwatched

end Window

/-- A transition to a connecting policy, from its beginning to the armed watchdog. -/
def widens : List Pick := [.lock, .applyWfp .connecting] ++ List.replicate 5 (.holder .ok)

/-- A window that was opened is watched. -/
theorem window_watched_once_open :
    ∃ es s, Machine.Runs WindowKept es s ∧ s.policy = .connecting ∧ s.watchdog = .waiting 1 := by
  obtain ⟨es, s, hrun, hgood⟩ := Run.exists_of_cond step WindowKept {} widens
    (fun s => s.holder = .idle && s.policy = .connecting && s.serial = 1 &&
      s.narrowFailed = none && s.watchdog ≠ .firing 1) (by decide +kernel)
  simp only [Bool.and_eq_true, decide_eq_true_eq] at hgood
  obtain ⟨⟨⟨⟨hidle, hpolicy⟩, hserial⟩, hfailed⟩, hfiring⟩ := hgood
  refine ⟨es, s, hrun, hpolicy, ?_⟩
  rcases (window_watched hrun).1 (by rw [hidle]; rfl) hpolicy with harmed | hnarrow
  · rw [hserial] at harmed
    cases hw : s.watchdog with
    | waiting n =>
      rw [hw] at harmed
      simpa [WatchdogAt.armedFor] using harmed
    | firing n =>
      rw [hw] at harmed hfiring
      exact absurd (by simpa [WatchdogAt.armedFor] using harmed) hfiring
    | idle | read | patch | finished =>
      rw [hw] at harmed
      exact absurd harmed (by simp [WatchdogAt.armedFor])
  · rw [hfailed] at hnarrow
    exact absurd hnarrow (by simp)

/-- The window left unwatched: `ApplyWfpLocked(Connected)` cancels the watchdog, and
its `Apply` fails.  And a watchdog that narrows another policy: an escape reverts the
policy, and the wait ends after it. -/
theorem window_unwatched_and_narrowed_off :
    (∃ es s, Machine.Runs (fun _ _ => True) es s ∧ s.holder = .idle ∧ ¬ s.Watched) ∧
      ∃ es s, Machine.Runs (fun _ _ => True) es s ∧ ∃ t ∈ es, NarrowsAnother t := by
  constructor
  · obtain ⟨es, s, hrun, hgood⟩ := Run.exists_of_cond step (fun _ _ => True) {}
      (widens ++ [Pick.applyWfp .connected] ++ List.replicate 4 (Pick.holder .failed))
      (fun s => s.holder = .idle && s.policy = .connecting && s.watchdog = .idle &&
        s.narrowFailed = none) (by decide +kernel)
    simp only [Bool.and_eq_true, decide_eq_true_eq] at hgood
    obtain ⟨⟨⟨hidle, hpolicy⟩, hwatchdog⟩, hfailed⟩ := hgood
    refine ⟨es, s, hrun, hidle, fun h => ?_⟩
    rcases h hpolicy with harmed | hnarrow
    · rw [hwatchdog] at harmed
      exact absurd harmed (by simp [WatchdogAt.armedFor])
    · rw [hfailed] at hnarrow
      exact absurd hnarrow (by simp)
  · obtain ⟨es, s, hrun, hgood⟩ := Run.exists_of_cond step (fun _ _ => True) {}
      (widens ++ [Pick.escape] ++ List.replicate 6 (Pick.escapeStep 0 false) ++
        [Pick.watchdog true])
      (fun s => s.policy = .off && s.watchdog = .firing 1) (by decide +kernel)
    simp only [Bool.and_eq_true, decide_eq_true_eq] at hgood
    obtain ⟨hpolicy, hfiring⟩ := hgood
    have hstep : step s (.watchdog true) = some { s.install .armed with watchdog := .read } := by
      simp [step, watchdogStep, hfiring]
    refine ⟨_, _, hrun.snoc ⟨hstep, trivial⟩, _,
      List.mem_concat_self, rfl, 1, hfiring, fun h => ?_⟩
    have hoff := h.1
    rw [hpolicy] at hoff
    exact absurd hoff (by simp)

end UrnetworkWindows.Controller.Transitions
