/-
The tunnel starts only on a connect gesture.

A start is the work of a pass that consumed a connect gesture, it comes after no sign-out that
is still owed, and past a Disconnect it takes a gesture that was recorded later.  The account
it starts a session for is the one whose credentials the local state holds when the pass gets
`mutex_`, and nothing ties them to the account that was signed in when the gesture was
recorded: `Logout` empties the slot and clears the signed-in flag, but a pass that has its
request already may wait for `mutex_` until the next account has set the flag again
(`left_connect_starts_next`).  Where credentials are stored only while no connect gesture
waits, each starts a session for an account that had signed in before it
(`tunnel_starts_on_click`).
-/
import UrnetworkWindows.Session.Passes

namespace UrnetworkWindows.SessionPasses

open Lib Session
open SessionSlot (Slot SessionRequest At)

/-- The tunnel starts only on a connect gesture. -/
structure ClickOnly (es : List (Transition State Act)) : Prop where
  /-- A start is sent by a pass that consumed a connect gesture, while no sign-out is owed,
  and for an account that had signed in before the gesture was recorded. -/
  gesture : ∀ before t after, es = before ++ t :: after → t.label.startsTunnel = true →
    ∃ p account, t.pre.pass = some p ∧ p.point = .starting account ∧
      p.request.kind.connects = true ∧ (∃ c ∈ before, Consumes c p.id p.request) ∧
      t.pre.owed = false ∧ account.since ≤ p.id
  /-- Between the end of a Disconnect's pass and a start, a connect gesture was consumed that
  was recorded after the Disconnect. -/
  disconnect : ∀ before d between t after q, es = before ++ d :: (between ++ t :: after) →
    d.label = .finish → d.pre.pass = some q → q.request.kind = .disconnect →
    t.label.startsTunnel = true →
      ∃ c ∈ between, ∃ id r, Consumes c id r ∧ r.kind.connects = true ∧ q.id < id

/-- A connect gesture waits in the slot, or taken out of it for `mutex_`. -/
def connectWaits (s : State) : Bool :=
  (s.slot.requested && s.slot.pending.kind.connects) || connectHeld s

/-- Credentials are stored only while no connect gesture waits. -/
def Cond (s : State) (a : Act) : Prop := storesAnswer s a = true → connectWaits s = false

instance (s : State) (a : Act) : Decidable (Cond s a) := inferInstanceAs (Decidable (_ → _))

variable {es : List (Transition State Act)} {s s' : State} {a : Act}

/-! ### What was consumed -/

/-- The request that a pass is of was consumed. -/
def Took (es : List (Transition State Act)) (s : State) : Prop :=
  ∀ (i id : ℕ) (r : SessionRequest), s.slot.workers[i]? = some (At.passing id r) →
    (∃ c ∈ es, Consumes c id r) ∧ ∃ time, .consumed id time ∈ s.slot.log

lemma took (h : Runs es s) : Took es s := by
  induction h with
  | nil h =>
    obtain ⟨_, _, _, _, _, _, -, rfl⟩ := h
    intro i id r hi
    exact absurd hi (by simp)
  | snoc _ hs ih =>
    intro i id r hi
    rcases passing_cases hs hi with hold | hnew
    · obtain ⟨⟨c, hc, hconsumes⟩, time, htime⟩ := ih i id r hold
      exact ⟨⟨c, List.mem_append_left _ hc, hconsumes⟩, time, (log_of_step hs).subset htime⟩
    · exact ⟨⟨_, List.mem_concat_self, hnew⟩, _, hnew.2.2.2.2⟩

lemma lt_of_consumes {c : Transition State Act} {id id' time : ℕ} {r : SessionRequest}
    (h : Sound c.pre) (hc : Consumes c id r) (hlog : .consumed id' time ∈ c.pre.slot.log) :
    id' < id := by
  obtain ⟨-, hrequested, rfl, -, -⟩ := hc
  exact (h.slot.ledger.lt_of_fate hlog rfl).2 hrequested

lemma consumed_since (h : Runs es s) {before between : List (Transition State Act)}
    {d : Transition State Act} {q : Pass} (he : es = before ++ d :: between)
    (hd : d.label = .finish) (hq : d.pre.pass = some q) :
    (∃ time, .consumed q.id time ∈ s.slot.log) ∧
      ∀ (i id : ℕ) (r : SessionRequest), s.slot.workers[i]? = some (At.passing id r) →
        ∃ c ∈ between, Consumes c id r ∧ q.id < id := by
  induction h generalizing between with
  | nil => exact absurd he (by simp)
  | @snoc es s a s' hrun hs ih =>
    have hsound := Sound.of_run hrun
    rcases eq_or_mem_of_snoc he with ⟨rfl, -, rfl⟩ | ⟨between, rfl, rfl⟩
    · -- the pass has just ended, and its worker is the only one
      obtain rfl : a = .finish := hd
      obtain ⟨p, slot, hp, -, hb, rfl⟩ := step_finish hs
      obtain rfl := Option.some.inj (hp.symm.trans hq)
      obtain ⟨-, time, htime⟩ := took hrun _ _ _ (hsound.running p hp)
      refine ⟨⟨time, (SessionSlot.moves hb).log.subset htime⟩, ?_⟩
      intro i id r hi
      refine absurd hi ?_
      exact not_passing_of_finish hsound.slot (hsound.running p hp) hb i id r
    · obtain ⟨⟨time, htime⟩, hold⟩ := ih rfl
      refine ⟨⟨time, (log_of_step hs).subset htime⟩, ?_⟩
      intro i id r hi
      rcases passing_cases hs hi with hi | hnew
      · obtain ⟨c, hc, hconsumes⟩ := hold i id r hi
        exact ⟨c, List.mem_append_left _ hc, hconsumes⟩
      · refine ⟨_, List.mem_concat_self, hnew, ?_⟩
        exact lt_of_consumes hsound hnew htime

/-! ### The accounts -/

lemma connectWaits_of_inFlight {id : ℕ} (h : InFlight s id) : connectWaits s = true := by
  rw [connectWaits, Bool.or_eq_true, Bool.and_eq_true]
  exact (h.imp_left fun h => ⟨h.1, h.2.1⟩).imp_right connectHeld_of_passing

/-- Every account had signed in before the gestures that may start a session for it were
recorded. -/
structure Signed (s : State) : Prop where
  stored : ∀ n account, s.stored n = some account → account.since ≤ s.slot.records.length ∧
    ∀ id, InFlight s id → account.since ≤ id
  pass : ∀ p account, s.pass = some p → p.point.account = some account →
    p.request.kind.connects = true → account.since ≤ p.id

namespace Signed

lemma init (h : Starts s) : Signed s := by
  obtain ⟨loggedIn, now, wantsTunnel, space, owed, stored, hstored, rfl⟩ := h
  refine ⟨?_, by simp⟩
  intro n account hn
  rw [hstored n account hn]
  exact ⟨Nat.zero_le _, fun id _ => Nat.zero_le id⟩

lemma records_of_step (hs : SessionPasses.step s a = some s') :
    s.slot.records.length ≤ s'.slot.records.length := by
  rcases moves_of_step hs with hslot | ⟨b, -, hmoves⟩
  · rw [hslot]
  · exact hmoves.records.length_le

lemma step (h : Signed s) (hsound : Sound s) (hs : SessionPasses.step s a = some s')
    (hcond : Cond s a) : Signed s' := by
  have hrecords := records_of_step hs
  constructor
  case stored =>
    intro n account hn
    rcases (does hs).stored n account hn with hold | ⟨hstores, rfl⟩
    · obtain ⟨hle, hflight⟩ := h.stored n account hold
      refine ⟨hle.trans hrecords, ?_⟩
      intro id hid
      rcases inFlight_cases hsound hs hid with hid | ⟨-, hid⟩
      · exact hflight id hid
      · exact hle.trans hid
    · refine ⟨hrecords, ?_⟩
      intro id hid
      rcases inFlight_cases hsound hs hid with hid | ⟨-, hid⟩
      · exact absurd ((hcond hstores).symm.trans (connectWaits_of_inFlight hid)) nofun
      · exact hid
  case pass =>
    intro p account hp haccount hconnects
    cases hpasses : a.passes with
    | false => exact h.pass p account (((does hs).pass hpasses).symm.trans hp) haccount hconnects
    | true =>
      cases a with
      | enter i =>
        obtain ⟨id, r, -, -, -, rfl⟩ := step_enter hs
        cases hp
        cases haccount
      | pass x =>
        obtain ⟨q, t, point, hq, hadvance, rfl⟩ := step_pass hs
        cases hp
        rcases account_of_advance hadvance haccount with hold | ⟨n, hn⟩
        · exact h.pass q account hq hold hconnects
        · refine (h.stored n account hn).2 q.id (.inr ⟨?_, _, _, hsound.running q hq, hconnects⟩)
          intro q' hq'
          cases hq.symm.trans hq'
          exact (keeps_of_advance hadvance).2
      | finish =>
        obtain ⟨q, slot, -, -, -, rfl⟩ := step_finish hs
        cases hp
      | _ => cases hpasses

end Signed

/-- The runs whose steps meet the condition. -/
abbrev CondRuns : List (Transition State Act) → State → Prop :=
  Run Starts fun _ s a s' => step s a = some s' ∧ Cond s a

lemma CondRuns.runs (h : CondRuns es s) : Runs es s := by
  induction h with
  | nil h => exact .nil h
  | snoc _ hs ih => exact ih.snoc hs.1

lemma CondRuns.signed (h : CondRuns es s) : Signed s := by
  induction h with
  | nil h => exact .init h
  | snoc hrun hs ih => exact ih.step (Sound.of_run (CondRuns.runs hrun)) hs.1 hs.2

/-- **The tunnel starts only on a connect gesture.** -/
theorem tunnel_starts_on_click (h : CondRuns es s) : ClickOnly es := by
  constructor
  case gesture =>
    intro before t after he hstarts
    obtain ⟨hrun, hs, -⟩ := h.split he
    obtain ⟨p, account, hp, hpoint⟩ := starting_of_step hs hstarts
    have hsound := Sound.of_run (CondRuns.runs hrun)
    have hfits := hsound.fits p hp
    rw [hpoint] at hfits
    obtain ⟨hconnects, howed⟩ := hfits
    obtain ⟨hconsumed, -⟩ := took (CondRuns.runs hrun) _ _ _ (hsound.running p hp)
    refine ⟨p, account, hp, hpoint, hconnects, hconsumed, howed, ?_⟩
    refine (CondRuns.signed hrun).pass p account hp ?_ hconnects
    rw [hpoint]
    rfl
  case disconnect =>
    intro before d between t after q he hd hq hkind hstarts
    have he' : es = (before ++ d :: between) ++ t :: after := by simpa using he
    obtain ⟨hrun, hs, -⟩ := h.split he'
    obtain ⟨p, account, hp, hpoint⟩ := starting_of_step hs hstarts
    have hsound := Sound.of_run (CondRuns.runs hrun)
    have hfits := hsound.fits p hp
    rw [hpoint] at hfits
    obtain ⟨-, hsince⟩ := consumed_since (CondRuns.runs hrun) rfl hd hq
    obtain ⟨c, hc, hconsumes, hlt⟩ := hsince _ _ _ (hsound.running p hp)
    exact ⟨c, hc, p.id, p.request, hconsumes, hfits.1, hlt⟩

/-! ### A start for the account that signed in -/

/-- The app as it starts with an account signed in. -/
def signedIn : State where
  slot := { loggedIn := true, now := 0 }
  wantsTunnel := true
  stored n := if n = 0 then some ⟨0⟩ else none
  space := 0
  owed := false

lemma starts_signedIn : Starts signedIn := by
  refine ⟨true, 0, true, 0, false, fun n => if n = 0 then some ⟨0⟩ else none, ?_, rfl⟩
  intro n account h
  obtain ⟨-, h⟩ := Option.ite_none_right_eq_some.1 h
  exact (Option.some.inj h) ▸ rfl

/-- A connect, and the worker takes it. -/
def clicked : List Act := [.slot (.request { kind := .bestAvailable }), .slot (.look 0)]

/-- A sign-out that the service does. -/
def signedOut : List Act :=
  [.logout, .logoutClear, .logoutLeave, .tailEnter, .tailForget true, .tailOwe,
    .tailDeliver true true, .tailClose, .tailFinish]

/-- The first sign-in of the run. -/
def signedInAgain : List Act :=
  [.attempt, .register 0, .install 0, .answer 0 true, .confirm 0]

/-- The pass gets `mutex_` and comes to its start. -/
def passed : List Act :=
  [.enter 0, .pass (.settleSignOut false false), .pass .clear,
    .pass (.ask { known := true } false .disconnected), .pass .stopTunnel, .pass .tearDown,
    .pass .gate, .pass (.dial true), .pass .checkOwed, .pass (.greet true false false),
    .pass (.saveRecord true)]

/-- **A connect of the account that left starts a session for the next one.**  The user
signs out while the pass waits for `mutex_`, and another account signs in before it gets it. -/
theorem left_connect_starts_next : ∃ es s, Runs es s ∧ ¬ ClickOnly es := by
  have hfollow : ∃ s, follow step signedIn (clicked ++ signedOut ++ signedInAgain ++ passed) =
      some s ∧ s.pass = some ⟨0, 0, { kind := .bestAvailable, gesture := 1 }, .starting ⟨1⟩⟩ :=
    ⟨_, rfl, rfl⟩
  obtain ⟨s, hs, hpass⟩ := hfollow
  obtain ⟨es, hrun, -⟩ := (Run.nil starts_signedIn : Runs [] signedIn).follow
    (fun _ _ _ _ h => h) hs
  have hstep : step s (.pass (.startTunnel true)) =
      some (s.goTo ⟨0, 0, { kind := .bestAvailable, gesture := 1 }, .starting ⟨1⟩⟩ .building) := by
    rw [step, hpass]
    rfl
  refine ⟨_, _, hrun.snoc hstep, fun h => ?_⟩
  obtain ⟨p, account, hp, hpoint, -, -, -, hle⟩ := h.gesture _ _ [] rfl rfl
  cases hpass.symm.trans hp
  obtain rfl := Point.starting.inj hpoint
  exact absurd hle (by decide)

/-- The account that signed in before the click has its session. -/
theorem tunnel_starts_on_click_signed_in : ∃ es, ClickOnly es ∧ es.map Transition.label =
    signedOut ++ signedInAgain ++ clicked ++ passed ++ [.pass (.startTunnel true)] := by
  have hfollow : ∃ s, follow (fun (s : State) a => if Cond s a then step s a else none) signedIn
      (signedOut ++ signedInAgain ++ clicked ++ passed ++ [.pass (.startTunnel true)]) = some s :=
    ⟨_, rfl⟩
  obtain ⟨s, hs⟩ := hfollow
  obtain ⟨es, hrun, hlabels⟩ := (Run.nil starts_signedIn : CondRuns [] signedIn).follow
    (fun _ s a s' h => (Option.ite_none_right_eq_some.1 h).symm) hs
  exact ⟨es, tunnel_starts_on_click hrun, hlabels⟩

end UrnetworkWindows.SessionPasses
