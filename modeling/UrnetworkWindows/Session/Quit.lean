/-
Nothing starts after a quit has stopped the service.

The latch closes the slot, and `ReconcileProviderLocked` reads it, so past the latch at most
one request is still taken out of the slot, and once the quit holds `mutex_` no provider is
started.  `BootstrapSession` does not read it: a connect that was taken out of the slot before
waits for the same lock as the quit, and when the quit gets it first, the pass starts a tunnel
after the stop (`connect_starts_after_stop`).  Where the quit gets the lock only when no such
pass waits, nothing starts (`nothing_starts_after_quit`).
-/
import UrnetworkWindows.Session.ClickOnly

namespace UrnetworkWindows.SessionPasses

open Lib Session
open SessionSlot (Slot SessionRequest At)

/-- A worker takes the request out of the slot. -/
def Takes (t : Transition State Act) : Bool :=
  match t.label with
  | .slot (.look _) =>
      t.pre.slot.requested && !(t.pre.slot.now < t.pre.slot.pending.notBefore : Bool)
  | _ => false

/-- Nothing starts after the quit's stop. -/
structure NothingStarts (es : List (Transition State Act)) : Prop where
  starts : ∀ before q between t after, es = before ++ q :: (between ++ t :: after) →
    q.label = .quitStop → t.label.startsTunnel = false ∧ t.label.startsProvider = false
  /-- Past the latch at most one request is taken out of the slot. -/
  one : ∀ before q between, es = before ++ q :: between → q.label = .quit →
    between.countP Takes ≤ 1

/-- The quit gets `mutex_` only when no pass of a connect gesture still waits for it. -/
def EntersLast (s : State) (a : Act) : Prop := a = .quitEnter → connectHeld s = false

instance (s : State) (a : Act) : Decidable (EntersLast s a) := inferInstanceAs (Decidable (_ → _))

/-- The quit has held `mutex_`. -/
def QuitAt.entered : QuitAt → Bool
  | .done => true
  | q => q.inside

/-- The quit has dropped what the slot held but the user's Disconnect. -/
def QuitAt.dropped (q : QuitAt) : Bool := q ≠ .dropping

/-- The pass is about to ask for a provider, or to start it. -/
def Point.provides : Point → Bool
  | .askingProvider _ => true
  | .startingProvider => true
  | _ => false

variable {es : List (Transition State Act)} {s s' : State} {a : Act}

/-! ### The latch -/

lemma quitting_of_step (hs : step s a = some s') (h : s.slot.quitting = true) :
    s'.slot.quitting = true := by
  rcases moves_of_step hs with hslot | ⟨b, -, hmoves⟩
  · rw [hslot]
    exact h
  · exact hmoves.quitting h

lemma requested_of_step (hs : step s a = some s') (hquitting : s.slot.quitting = true)
    (h : s'.slot.requested = true) :
    s.slot.requested = true ∧ s'.slot.pending = s.slot.pending := by
  rcases moves_of_step hs with hslot | ⟨b, -, hmoves⟩
  · rw [hslot] at h ⊢
    exact ⟨h, rfl⟩
  · rcases hmoves.pending h with ⟨hrequested, -, hpending⟩ | ⟨-, hopen, -⟩
    · exact ⟨hrequested, hpending⟩
    · exact absurd (hquitting.symm.trans hopen) nofun

lemma takes_cases (hs : step s a = some s') (h : Takes ⟨s, a, s'⟩ = true) :
    s.slot.requested = true ∧ s'.slot.requested = false := by
  simp only [Takes] at h
  split at h
  next i =>
    obtain ⟨hrequested, hdue⟩ := (Bool.and_eq_true _ _).mp h
    have hlook : s.slotStep (.look i) = some s' := hs
    obtain ⟨slot, hb, rfl⟩ := Option.map_eq_some_iff.1 hlook
    refine ⟨hrequested, ?_⟩
    simp only [SessionSlot.step] at hb
    split at hb
    next =>
      cases hb
      have hearly :
          ¬ (s.slot.requested && decide (s.slot.now < s.slot.pending.notBefore)) = true := by
        simpa [hrequested] using hdue
      rw [SessionSlot.Slot.look, if_neg hearly, if_neg (by simp [hrequested])]
      rfl
    next => exact absurd hb (Option.some_ne_none _).symm
  next => exact absurd h Bool.false_ne_true

lemma taken_le (h : Runs es s) {before between : List (Transition State Act)}
    {q : Transition State Act} (he : es = before ++ q :: between) (hq : q.label = .quit) :
    s.slot.quitting = true ∧
      between.countP Takes + (if s.slot.requested then 1 else 0) ≤ 1 := by
  induction h generalizing between with
  | nil => exact absurd he (by simp)
  | @snoc es s a s' hrun hs ih =>
    rcases eq_or_mem_of_snoc he with ⟨rfl, -, rfl⟩ | ⟨between, rfl, rfl⟩
    · obtain rfl : a = .quit := hq
      obtain ⟨-, hs⟩ := Option.ite_none_right_eq_some.1 hs
      obtain ⟨slot, hb, rfl⟩ := Option.map_eq_some_iff.1 hs
      cases hb
      refine ⟨rfl, ?_⟩
      split_ifs <;> simp
    · obtain ⟨hquitting, hle⟩ := ih rfl
      refine ⟨quitting_of_step hs hquitting, ?_⟩
      rw [List.countP_append, List.countP_singleton]
      by_cases htakes : Takes ⟨s, a, s'⟩ = true
      · obtain ⟨hrequested, hempty⟩ := takes_cases hs htakes
        rw [if_pos hrequested] at hle
        rw [if_pos htakes, hempty, if_neg nofun]
        omega
      · rw [if_neg htakes]
        by_cases hrequested : s'.slot.requested = true
        · rw [if_pos (requested_of_step hs hquitting hrequested).1] at hle
          rw [if_pos hrequested]
          omega
        · rw [if_neg hrequested]
          omega

/-! ### Past the quit's stop -/

/-- What the quit has closed. -/
structure Closed (s : State) : Prop where
  latched : s.quit ≠ none → s.slot.quitting = true
  dropped : s.quit.any QuitAt.dropped = true → s.slot.requested = true →
    s.slot.pending.kind = .disconnect
  connects : s.quit.any QuitAt.entered = true → ∀ id, ¬ InFlight s id
  provides : s.quit.any QuitAt.entered = true → ∀ p, s.pass = some p → p.point.provides = false

lemma quit_cases (hs : step s a = some s') (hquits : a.quits = true) :
    a = .quit ∧ s.quit = none ∧ s'.quit = some .dropping ∧ s'.slot.quitting = true ∨
    a = .quitDrop ∧ s.quit = some .dropping ∧ s'.quit = some .settling ∨
    a = .quitEnter ∧ s.quit = some .waiting ∧ s.holder = none ∧ s'.quit = some .dialling ∨
    ∃ q q', s.quit = some q ∧ s'.quit = some q' ∧ q.dropped = true ∧ q'.entered = q.entered := by
  cases a with
  | quit =>
    obtain ⟨hnone, hs⟩ := Option.ite_none_right_eq_some.1 hs
    obtain ⟨slot, hb, rfl⟩ := Option.map_eq_some_iff.1 hs
    cases hb
    exact .inl ⟨rfl, hnone, rfl, rfl⟩
  | quitDrop =>
    obtain ⟨hat, hs⟩ := Option.ite_none_right_eq_some.1 hs
    obtain ⟨slot, -, rfl⟩ := Option.map_eq_some_iff.1 hs
    exact .inr (.inl ⟨rfl, hat, rfl⟩)
  | quitEnter =>
    obtain ⟨⟨hat, hfree⟩, rfl⟩ := guard_eq_some.1 hs
    exact .inr (.inr (.inl ⟨rfl, hat, hfree, rfl⟩))
  | quitWait settled =>
    obtain ⟨⟨hat, -⟩, rfl⟩ := guard_eq_some.1 hs
    refine .inr (.inr (.inr ⟨_, _, hat, rfl, rfl, ?_⟩))
    cases settled <;> rfl
  | quitStopUnlocked | quitStop | quitRetire | quitClose =>
    obtain ⟨hat, rfl⟩ := guard_eq_some.1 hs
    exact .inr (.inr (.inr ⟨_, _, hat, rfl, rfl, rfl⟩))
  | quitJoin =>
    obtain ⟨⟨hat, -⟩, rfl⟩ := guard_eq_some.1 hs
    exact .inr (.inr (.inr ⟨_, _, hat, rfl, rfl, rfl⟩))
  | quitDial reached =>
    obtain ⟨hat, rfl⟩ := guard_eq_some.1 hs
    refine .inr (.inr (.inr ⟨_, _, hat, rfl, rfl, ?_⟩))
    split_ifs <;> rfl
  | _ => cases hquits

lemma entered_of_step (hs : step s a = some s') (h : s.quit.any QuitAt.entered = true) :
    s'.quit.any QuitAt.entered = true := by
  cases hquits : a.quits with
  | false =>
    rw [(does hs).quit hquits]
    exact h
  | true =>
    rcases quit_cases hs hquits with ⟨-, hat, -⟩ | ⟨-, hat, -⟩ | ⟨-, hat, -⟩ |
      ⟨q, q', hat, hat', -, heq⟩
    · rw [hat] at h
      cases h
    · rw [hat] at h
      cases h
    · rw [hat] at h
      cases h
    · rw [hat] at h
      rw [hat']
      exact heq.trans h

lemma provides_of_advance {t : State} {kind : ConnectKind} {point point' : Point} {x : Part}
    (hs : s.advance kind point x = some (t, point')) (hquitting : s.slot.quitting = true)
    (h : point.provides = false) : point'.provides = false := by
  unfold State.advance at hs
  split at hs
  case h_16 => cases hs
  all_goals obtain ⟨rfl, rfl⟩ := Prod.mk.inj (Option.some.inj hs)
  case h_6 =>
    split_ifs
    · cases s.stored s.space <;> rfl
    · rfl
  case h_9 =>
    unfold State.greeted
    split_ifs <;> rfl
  case h_13 =>
    rw [if_neg]
    · rfl
    · rw [State.reconciles, hquitting]
      simp
  case h_14 => cases h
  all_goals
    first
    | rfl
    | (split_ifs <;> rfl)

lemma provides_of_step (hs : step s a = some s') (hquitting : s.slot.quitting = true)
    (h : ∀ p, s.pass = some p → p.point.provides = false) :
    ∀ p, s'.pass = some p → p.point.provides = false := by
  intro p hp
  cases hpasses : a.passes with
  | false => exact h p (((does hs).pass hpasses).symm.trans hp)
  | true =>
    cases a with
    | enter i =>
      obtain ⟨id, r, -, -, -, rfl⟩ := step_enter hs
      cases hp
      rfl
    | pass x =>
      obtain ⟨q, t, point, hq, hadvance, rfl⟩ := step_pass hs
      cases hp
      exact provides_of_advance hadvance hquitting (h q hq)
    | finish =>
      obtain ⟨q, slot, -, -, -, rfl⟩ := step_finish hs
      cases hp
    | _ => cases hpasses

lemma connects_of_step (hsound : Sound s) (hs : step s a = some s')
    (hquitting : s.slot.quitting = true) (h : ∀ id, ¬ InFlight s id) (id : ℕ) :
    ¬ InFlight s' id := by
  intro hid
  rcases inFlight_cases hsound hs hid with hid | ⟨hopen, -⟩
  · exact h id hid
  · exact absurd (hquitting.symm.trans hopen) nofun

lemma kind_of_quitDrop (hs : step s .quitDrop = some s') (h : s'.slot.requested = true) :
    s'.slot.pending.kind = .disconnect := by
  obtain ⟨-, hs⟩ := Option.ite_none_right_eq_some.1 hs
  obtain ⟨slot, hb, rfl⟩ := Option.map_eq_some_iff.1 hs
  cases hb
  simp only [SessionSlot.Slot.settleQueued] at h ⊢
  split_ifs at h ⊢ with hdrops
  · cases h
  · rw [Bool.and_eq_true, Bool.not_eq_true', not_and, Bool.not_eq_false] at hdrops
    exact (keepsQueued_queuedOf _).1 (hdrops h)

namespace Closed

lemma init (h : Starts s) : Closed s := by
  obtain ⟨_, _, _, _, _, _, -, rfl⟩ := h
  exact ⟨by simp, by simp, by simp, by simp⟩

lemma enter (h : Closed s) (hsound : Sound s) (hat : s.quit = some .waiting)
    (hfree : s.holder = none) (hheld : connectHeld s = false) :
    (∀ id, ¬ InFlight s id) ∧ ∀ p, s.pass = some p → p.point.provides = false := by
  constructor
  · rintro id (⟨hrequested, hconnects, -⟩ | hpassing)
    · have hkind := h.dropped (by rw [hat]; rfl) hrequested
      rw [hkind] at hconnects
      cases hconnects
    · exact absurd (hheld.symm.trans (connectHeld_of_passing hpassing)) nofun
  · intro p hp
    have hover : p.point = .over := by
      by_contra hne
      exact absurd (hfree.symm.trans (hsound.locked .pass ⟨p, hp, hne⟩)) nofun
    rw [hover]
    rfl

lemma step (h : Closed s) (hsound : Sound s) (hs : SessionPasses.step s a = some s')
    (hlast : EntersLast s a) : Closed s' := by
  have hquitting : ∀ f : QuitAt → Bool, s.quit.any f = true → s.slot.quitting = true := by
    intro f hf
    refine h.latched ?_
    intro hnone
    rw [hnone] at hf
    cases hf
  have hkind : s.quit.any QuitAt.dropped = true → s'.slot.requested = true →
      s'.slot.pending.kind = .disconnect := by
    intro hdropped hrequested
    obtain ⟨hreq, hpending⟩ := requested_of_step hs (hquitting _ hdropped) hrequested
    rw [hpending]
    exact h.dropped hdropped hreq
  have hconnects : s.quit.any QuitAt.entered = true → ∀ id, ¬ InFlight s' id :=
    fun hentered => connects_of_step hsound hs (hquitting _ hentered) (h.connects hentered)
  have hprovides : s.quit.any QuitAt.entered = true →
      ∀ p, s'.pass = some p → p.point.provides = false :=
    fun hentered => provides_of_step hs (hquitting _ hentered) (h.provides hentered)
  cases hquits : a.quits with
  | false =>
    have hquit := (does hs).quit hquits
    constructor
    case latched =>
      rw [hquit]
      exact fun hne => quitting_of_step hs (h.latched hne)
    case dropped =>
      rw [hquit]
      exact hkind
    case connects =>
      rw [hquit]
      exact hconnects
    case provides =>
      rw [hquit]
      exact hprovides
  | true =>
    rcases quit_cases hs hquits with ⟨-, -, hat', hlatched⟩ | ⟨rfl, hat, hat'⟩ |
      ⟨rfl, hat, hfree, hat'⟩ | ⟨q, q', hat, hat', hdropped, heq⟩
    · constructor
      case latched => exact fun _ => hlatched
      all_goals
        rw [hat']
        exact fun hany => absurd hany nofun
    · constructor
      case latched =>
        refine fun _ => quitting_of_step hs (h.latched ?_)
        rw [hat]
        exact nofun
      case dropped => exact fun _ => kind_of_quitDrop hs
      all_goals
        rw [hat']
        exact fun hany => absurd hany nofun
    · have hlatched : s.slot.quitting = true := hquitting QuitAt.dropped (by rw [hat]; rfl)
      obtain ⟨hnone, hover⟩ := h.enter hsound hat hfree (hlast rfl)
      constructor
      case latched => exact fun _ => quitting_of_step hs hlatched
      case dropped => exact fun _ => hkind (by rw [hat]; rfl)
      case connects => exact fun _ => connects_of_step hsound hs hlatched hnone
      case provides => exact fun _ => provides_of_step hs hlatched hover
    · have hany : s.quit.any QuitAt.dropped = true := by
        rw [hat]
        exact hdropped
      have hentered : s'.quit.any QuitAt.entered = true → s.quit.any QuitAt.entered = true := by
        rw [hat, hat']
        exact fun hq => heq.symm.trans hq
      constructor
      case latched => exact fun _ => quitting_of_step hs (hquitting _ hany)
      case dropped => exact fun _ => hkind hany
      case connects => exact fun hq => hconnects (hentered hq)
      case provides => exact fun hq => hprovides (hentered hq)

end Closed

/-- The runs whose quit gets the lock last. -/
abbrev LastRuns : List (Transition State Act) → State → Prop :=
  Run Starts fun _ s a s' => step s a = some s' ∧ EntersLast s a

lemma LastRuns.runs (h : LastRuns es s) : Runs es s := by
  induction h with
  | nil h => exact .nil h
  | snoc _ hs ih => exact ih.snoc hs.1

lemma LastRuns.closed (h : LastRuns es s) : Closed s := by
  induction h with
  | nil h => exact .init h
  | snoc hrun hs ih => exact ih.step (Sound.of_run (LastRuns.runs hrun)) hs.1 hs.2

lemma entered_of_quitStop (h : Runs es s) {before between : List (Transition State Act)}
    {q : Transition State Act} (he : es = before ++ q :: between) (hq : q.label = .quitStop) :
    s.quit.any QuitAt.entered = true := by
  induction h generalizing between with
  | nil => exact absurd he (by simp)
  | @snoc es s a s' hrun hs ih =>
    rcases eq_or_mem_of_snoc he with ⟨rfl, -, rfl⟩ | ⟨between, rfl, rfl⟩
    · obtain rfl : a = .quitStop := hq
      obtain ⟨-, rfl⟩ := guard_eq_some.1 hs
      rfl
    · exact entered_of_step hs (ih rfl)

lemma provides_of_startsProvider (hs : step s a = some s') (hstarts : a.startsProvider = true) :
    ∃ p, s.pass = some p ∧ p.point.provides = true := by
  cases a with
  | pass x =>
    obtain ⟨p, t, point, hp, hadvance, -⟩ := step_pass hs
    cases x with
    | startProvider =>
      cases hpoint : p.point with
      | startingProvider => exact ⟨p, hp, by rw [hpoint]; rfl⟩
      | _ =>
        rw [hpoint] at hadvance
        cases hadvance
    | _ => cases hstarts
  | _ => cases hstarts

/-- **Nothing starts after a quit has stopped the service.** -/
theorem nothing_starts_after_quit (h : LastRuns es s) : NothingStarts es := by
  constructor
  case starts =>
    intro before q between t after he hq
    have he' : es = (before ++ q :: between) ++ t :: after := by simpa using he
    obtain ⟨hrun, hs, -⟩ := h.split he'
    have hsound := Sound.of_run (LastRuns.runs hrun)
    have hclosed := LastRuns.closed hrun
    have hentered := entered_of_quitStop (LastRuns.runs hrun) rfl hq
    constructor
    · rw [← Bool.not_eq_true]
      intro hstarts
      obtain ⟨p, account, hp, hpoint⟩ := starting_of_step hs hstarts
      have hfits := hsound.fits p hp
      rw [hpoint] at hfits
      refine hclosed.connects hentered p.id (.inr ⟨?_, _, _, hsound.running p hp, hfits.1⟩)
      intro p' hp'
      cases hp.symm.trans hp'
      rw [hpoint]
      exact nofun
    · rw [← Bool.not_eq_true]
      intro hstarts
      obtain ⟨p, hp, hprovides⟩ := provides_of_startsProvider hs hstarts
      exact absurd ((hclosed.provides hentered p hp).symm.trans hprovides) nofun
  case one =>
    intro before q between he hq
    have hle := (taken_le (LastRuns.runs h) he hq).2
    omega

/-- **A connect starts a tunnel after the stop.**  Its pass and the quit wait for the lock
while another caller holds it, and the quit gets it first. -/
theorem connect_starts_after_stop : ∃ es s, Runs es s ∧ ¬ NothingStarts es := by
  have hfollow : ∃ s₁ s₂ s₃ s₄,
      follow step signedIn (clicked ++ [.callerEnter, .quit, .quitDrop, .quitWait false,
        .quitStopUnlocked, .quitJoin, .callerLeave, .quitEnter, .quitDial true]) = some s₁ ∧
      step s₁ .quitStop = some s₂ ∧
      follow step s₂ ([.quitRetire, .quitClose] ++ passed) = some s₃ ∧
      step s₃ (.pass (.startTunnel true)) = some s₄ :=
    ⟨_, _, _, _, rfl, rfl, rfl, rfl⟩
  obtain ⟨s₁, s₂, s₃, s₄, hs₁, hs₂, hs₃, hs₄⟩ := hfollow
  obtain ⟨es₁, hrun, -⟩ := (Run.nil starts_signedIn : Runs [] signedIn).follow
    (fun _ _ _ _ h => h) hs₁
  obtain ⟨es₂, hrun, -⟩ := (hrun.snoc hs₂).follow (fun _ _ _ _ h => h) hs₃
  refine ⟨_, _, hrun.snoc hs₄, fun h => ?_⟩
  have hstarts := h.starts es₁ ⟨s₁, .quitStop, s₂⟩ es₂ ⟨s₃, .pass (.startTunnel true), s₄⟩ []
    (by simp) rfl
  exact absurd hstarts.1 nofun

/-- The user's Disconnect is still queued when the quit begins, and runs before the stop. -/
theorem nothing_starts_after_quit_disconnect : ∃ es, NothingStarts es ∧
    es.map Transition.label =
      [.slot (.request { kind := .disconnect }), .quit, .quitDrop, .slot (.look 0), .enter 0,
        .pass (.settleSignOut false false), .pass .clear, .pass (.ask {} false .disconnected),
        .pass .stopTunnel, .pass .tearDown, .pass (.reconcile true false), .finish,
        .slot (.publish 0), .slot (.look 0), .quitWait true, .quitJoin, .quitEnter,
        .quitDial true, .quitStop, .quitRetire, .quitClose] := by
  have hfollow : ∃ s, follow (fun (s : State) a => if EntersLast s a then step s a else none)
      signedIn
      [.slot (.request { kind := .disconnect }), .quit, .quitDrop, .slot (.look 0), .enter 0,
        .pass (.settleSignOut false false), .pass .clear, .pass (.ask {} false .disconnected),
        .pass .stopTunnel, .pass .tearDown, .pass (.reconcile true false), .finish,
        .slot (.publish 0), .slot (.look 0), .quitWait true, .quitJoin, .quitEnter,
        .quitDial true, .quitStop, .quitRetire, .quitClose] = some s :=
    ⟨_, rfl⟩
  obtain ⟨s, hs⟩ := hfollow
  obtain ⟨es, hrun, hlabels⟩ := (Run.nil starts_signedIn : LastRuns [] signedIn).follow
    (fun _ s a s' h => (Option.ite_none_right_eq_some.1 h).symm) hs
  exact ⟨es, nothing_starts_after_quit hrun, hlabels⟩

end UrnetworkWindows.SessionPasses
