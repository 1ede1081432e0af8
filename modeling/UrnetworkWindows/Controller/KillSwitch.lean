/-
What opens the machine while the kill switch is on.

`liftRules` is the argument in the form of `Lib.Rules`: a step that takes the policy
to Off under the switch belongs to a deliberate stop or to a start that one has
cancelled; whoever holds the lock keeps the preference as it is, and finds an Off
policy still Off.  For a start the others also say that its generation and its
readiness move only for a deliberate stop.

Four of the controller's steps break this, and `LiftCond` is where they do not: a
failsafe acts on a preference it read before it had the lock, in its teardown and
in its escape; a failsafe cancels a start that replaced its session; and a
connecting watchdog outlives an escape and installs Armed over Off.
-/
import UrnetworkWindows.Controller.Firewall

namespace UrnetworkWindows.Controller.Lift

open Lib Capture Wfp

/-- The lock is held by a start whose request has the kill switch on. -/
def heldByArmedStart (o : Option (Who Op)) : Bool := o.any (·.kind.startsArmed)

/-- Where the steps of the failsafe and of the watchdog do what the operation they
run beside relies on. -/
def liftCond (e : Event Op Name) (s : Shared × History) : Bool :=
  match e.self.kind, e.name with
  | .failsafeStop, .acquireFailsafe on => on || !s.1.killSwitch || s.1.policy = .off
  | .failsafeStop, .bump => !heldByArmedStart e.holder || !s.2.comparing
  | .failsafeStop, .cancel r => !heldByArmedStart e.holder || s.2.pending ≠ some r
  | .failsafeStop, .revertEscape _ => !s.1.killSwitch || s.1.policy = .off
  | .connectingWatchdog, .narrow => e.holder.isNone || !s.1.killSwitch || s.1.policy ≠ .off
  | _, _ => true

/-- The step takes the policy to Off while the kill switch is on. -/
def Lifts (s s' : Shared × History) : Prop :=
  s.1.policy ≠ .off ∧ s'.1.policy = .off ∧ s.1.killSwitch = true

/-- The operation may open the machine: it is a deliberate stop, or a start that one
has cancelled. -/
def MayLift (op : Op) (s : Shared × History) : Prop :=
  op.deliberate = true ∨ (op.isStart = true ∧ s.2.stopped = true)

/-- What a stretch of the holder's own steps and of the others' leaves: the
preference, and for an armed start the generation it compares. -/
structure Span (w : Who Op) (s s' : Shared × History) : Prop where
  killSwitch : s'.1.killSwitch = s.1.killSwitch
  comparing : s'.2.comparing = s.2.comparing
  pending : s'.2.pending = s.2.pending
  stopped : s.2.stopped = true → s'.2.stopped = true
  generation : w.kind.startsArmed = true → s.2.comparing = true →
    s'.1.stopGeneration = s.1.stopGeneration ∨ s'.2.stopped = true

/-- A stretch that also leaves an armed start its readiness. -/
structure Spell (w : Who Op) (s s' : Shared × History) : Prop extends Span w s s' where
  cancelled : w.kind.startsArmed = true → ∀ r, s.2.pending = some r → s'.1.cancelled r = true →
    s.1.cancelled r = true ∨ s'.2.stopped = true

/-- What the others do to the holder of the lock. -/
structure Undisturbed (w : Who Op) (s s' : Shared × History) : Prop extends Spell w s s' where
  off : s.1.killSwitch = true → s.1.policy = .off → s'.1.policy = .off

/-- What every step of an operation does. -/
structure Deliberate (w : Who Op) (s s' : Shared × History) : Prop where
  lifts : Lifts s s' → MayLift w.kind s
  stopped : w.kind.deliberate = false → s'.2.stopped = true → s.2.stopped = true

/-- The rules of the kill switch. -/
def liftRules : Rules Shared History Op Name where
  locks _ := True
  cond e s := liftCond e s = true
  guar := Deliberate
  env o s s' := ∀ w, o = some w → Undisturbed w s s'
  loose _ _ := True
  inv _ := True

section Stretches

variable {w : Who Op} {s s₁ s₂ : Shared × History}

lemma Span.refl (w : Who Op) (s : Shared × History) : Span w s s :=
  ⟨rfl, rfl, rfl, id, fun _ _ => .inl rfl⟩

lemma Span.trans (h : Span w s s₁) (h' : Span w s₁ s₂) : Span w s s₂ where
  killSwitch := h'.killSwitch.trans h.killSwitch
  comparing := h'.comparing.trans h.comparing
  pending := h'.pending.trans h.pending
  stopped := h'.stopped ∘ h.stopped
  generation hw hc := by
    rcases h'.generation hw (h.comparing.trans hc) with hgen' | hstop
    · rcases h.generation hw hc with hgen | hstop
      · exact .inl (hgen'.trans hgen)
      · exact .inr (h'.stopped hstop)
    · exact .inr hstop

lemma Spell.refl (w : Who Op) (s : Shared × History) : Spell w s s :=
  ⟨.refl w s, fun _ _ _ => .inl⟩

lemma Spell.trans (h : Spell w s s₁) (h' : Spell w s₁ s₂) : Spell w s s₂ := by
  refine ⟨h.toSpan.trans h'.toSpan, fun hw r hr hgone => ?_⟩
  rcases h'.cancelled hw r (h.pending.trans hr) hgone with hgone | hstop
  · rcases h.cancelled hw r hr hgone with hgone | hstop
    · exact .inl hgone
    · exact .inr (h'.stopped hstop)
  · exact .inr hstop

lemma Undisturbed.refl (w : Who Op) (s : Shared × History) : Undisturbed w s s :=
  ⟨.refl w s, fun _ => id⟩

lemma Undisturbed.trans (h : Undisturbed w s s₁) (h' : Undisturbed w s₁ s₂) :
    Undisturbed w s s₂ := by
  refine ⟨h.toSpell.trans h'.toSpell, fun hkill hoff => ?_⟩
  exact h'.off (h.killSwitch.trans hkill) (h.off hkill hoff)

lemma Undisturbed.of_eq (hkill : s₁.1.killSwitch = s.1.killSwitch)
    (hpolicy : s₁.1.policy = s.1.policy)
    (hgen : s₁.1.stopGeneration = s.1.stopGeneration) (hgone : s₁.1.cancelled = s.1.cancelled)
    (hcomparing : s₁.2.comparing = s.2.comparing) (hpending : s₁.2.pending = s.2.pending)
    (hstopped : s₁.2.stopped = s.2.stopped) : Undisturbed w s s₁ where
  killSwitch := hkill
  comparing := hcomparing
  pending := hpending
  stopped h := hstopped.trans h
  generation _ _ := .inl hgen
  cancelled _ r _ h := .inl (by rwa [hgone] at h)
  off _ h := hpolicy.trans h

lemma Deliberate.of_eq (hpolicy : s₁.1.policy = s.1.policy)
    (hstopped : s₁.2.stopped = s.2.stopped) : Deliberate w s s₁ where
  lifts h := absurd (hpolicy.symm.trans h.2.1) h.1
  stopped _ h := hstopped.symm.trans h

end Stretches

lemma liftRules_laws : liftRules.Laws where
  guar_refl _ _ := .of_eq rfl rfl
  env_refl _ s w _ := .refl w s
  loose_refl _ := trivial
  env_trans w _ _ _ h h' := fun w' hw => by
    cases hw
    exact (h _ rfl).trans (h' _ rfl)
  loose_trans _ _ _ _ _ := trivial
  inv_env _ _ _ _ := trivial

/-! ### With the lock -/

section Held

variable {w : Who Op} {s s₁ s₂ : Shared × History} {α β : Type} {n : Name}

/-- What lets the holder of the lock take the policy to Off. -/
def Free (w : Who Op) (s : Shared × History) : Prop :=
  MayLift w.kind s ∨ s.1.killSwitch = false ∨ s.1.policy = .off

lemma Free.undisturbed (h : Free w s) (hs : Undisturbed w s s₁) : Free w s₁ := by
  rcases h with (hdel | ⟨hstart, hstop⟩) | hkill | hoff
  · exact .inl (.inl hdel)
  · exact .inl (.inr ⟨hstart, hs.stopped hstop⟩)
  · exact .inr (.inl (hs.killSwitch.trans hkill))
  · -- an Off policy is only kept while the switch is on, and free game otherwise
    cases hkill : s.1.killSwitch with
    | false => exact .inr (.inl (hs.killSwitch.trans hkill))
    | true => exact .inr (.inr (hs.off hkill hoff))

lemma allows_own (h : Deliberate w s s₁) : liftRules.Allows w (some w) s s₁ :=
  ⟨h, trivial, fun hne => absurd rfl hne⟩

lemma safe_own {enabled : Shared → Bool} {f : Bool → Shared → α × Shared}
    {Q : Bool → α → Shared × History → Prop} (hn : ∀ s h, note ⟨w, some w, n⟩ s h = h)
    (hlift : ∀ s₁ coin, Undisturbed w s s₁ → Lifts s₁ ((f coin s₁.1).2, s₁.2) → MayLift w.kind s₁)
    (h : ∀ s₁ coin, Undisturbed w s s₁ → Q true (f coin s₁.1).1 ((f coin s₁.1).2, s₁.2)) :
    Safe controller liftRules w (.act n enabled f .ret) true Q s := by
  intro s₁ hrely _ o ho _ coin
  obtain rfl := ho.1 rfl
  have hs : Undisturbed w s s₁ := hrely w rfl
  have hafter : controller.after w (some w) n s₁ (f coin s₁.1).2 = ((f coin s₁.1).2, s₁.2) :=
    Prod.ext rfl (hn _ _)
  rw [hafter]
  exact ⟨allows_own ⟨hlift s₁ coin hs, fun _ => id⟩, h s₁ coin hs⟩

/-- What a quiet step leaves alone. -/
def quietPart (s : Shared) := (s.killSwitch, s.policy, s.stopGeneration, s.cancelled)

lemma safe_quiet {enabled : Shared → Bool} {f : Bool → Shared → α × Shared}
    {Q : Bool → α → Shared × History → Prop} (hn : note ⟨w, some w, n⟩ = fun _ h => h)
    (hsame : ∀ coin s, quietPart (f coin s).2 = quietPart s)
    (h : ∀ a s', Undisturbed w s s' → Q true a s') :
    Safe controller liftRules w (.act n enabled f .ret) true Q s := by
  simp only [quietPart, Prod.mk.injEq] at hsame
  refine safe_own (fun s h => congrFun (congrFun hn s) h)
    (fun s₁ coin _ hl => absurd ((hsame coin s₁.1).2.1.symm.trans hl.2.1) hl.1) ?_
  intro s₁ coin hs
  obtain ⟨hkill, hpolicy, hgen, hgone⟩ := hsame coin s₁.1
  exact h _ _ (hs.trans (.of_eq hkill hpolicy hgen hgone rfl rfl rfl))

lemma safe_load {r : Shared → α} {Q : Bool → α → Shared × History → Prop}
    (hn : note ⟨w, some w, n⟩ = fun _ h => h)
    (h : ∀ s', Undisturbed w s s' → Q true (r s'.1) s') :
    Safe controller liftRules w (.load n r) true Q s :=
  safe_own (fun s h => congrFun (congrFun hn s) h) (fun _ _ _ hl => absurd hl.2.1 hl.1)
    fun s₁ _ hs => h s₁ hs

variable {Q : Bool → Unit → Shared × History → Prop}

lemma safe_store {f : Shared → Shared} (hn : ∀ s h, note ⟨w, some w, n⟩ s h = h)
    (hlift : ∀ s₁, Undisturbed w s s₁ → Lifts s₁ (f s₁.1, s₁.2) → MayLift w.kind s₁)
    (h : ∀ s₁, Undisturbed w s s₁ → Q true () (f s₁.1, s₁.2)) :
    Safe controller liftRules w (.store n f) true Q s :=
  safe_own hn (fun s₁ _ => hlift s₁) fun s₁ _ => h s₁

lemma safe_toss {Q : Bool → Bool → Shared × History → Prop}
    (h : ∀ coin s', Undisturbed w s s' → Q true coin s') :
    Safe controller liftRules w (.toss .step) true Q s :=
  safe_quiet rfl (fun _ _ => rfl) h

lemma safe_setState {t : TunnelState} (h : ∀ s', Undisturbed w s s' → Q true () s') :
    Safe controller liftRules w (setState t) true Q s :=
  safe_quiet rfl (fun _ _ => rfl) fun _ => h

lemma safe_cancelConnectingWatchdog (h : ∀ s', Undisturbed w s s' → Q true () s') :
    Safe controller liftRules w cancelConnectingWatchdogLocked true Q s :=
  safe_quiet rfl (fun _ _ => rfl) fun _ => h

lemma safe_armConnectingWatchdog (h : ∀ s', Undisturbed w s s' → Q true () s') :
    Safe controller liftRules w armConnectingWatchdogLocked true Q s := by
  refine Safe.bind (safe_cancelConnectingWatchdog fun s₁ hs₁ => ?_)
  exact safe_quiet rfl (fun _ _ => rfl) fun _ s₂ hs₂ => h s₂ (hs₁.trans hs₂)

lemma safe_applyWfpLocked {p : WfpState} {Q : Bool → Bool → Shared × History → Prop}
    (hfree : p = .off → Free w s) (h : ∀ ok s', Spell w s s' → Q true ok s') :
    Safe controller liftRules w (applyWfpLocked p) true Q s := by
  refine Safe.bind (safe_cancelConnectingWatchdog fun s₁ hs₁ => ?_)
  -- the new policy is no part of a stretch
  have hspell : ∀ {s₂ q}, Undisturbed w s₁ s₂ → Spell w s ({ s₂.1 with policy := q }, s₂.2) := by
    intro s₂ q hs₂
    have hs := (hs₁.trans hs₂).toSpell
    exact ⟨⟨hs.killSwitch, hs.comparing, hs.pending, hs.stopped, hs.generation⟩, hs.cancelled⟩
  refine Safe.ite (fun hp => ?_) fun hp => ?_
  · refine Safe.bind (safe_store (fun _ _ => rfl) (fun s₂ hs₂ hl => ?_) fun s₂ hs₂ => ?_)
    · rcases ((hfree hp).undisturbed hs₁).undisturbed hs₂ with hmay | hkill | hoff
      · exact hmay
      · exact absurd hl.2.2 (by simp [hkill])
      · exact absurd hoff hl.1
    · exact h _ _ (hspell hs₂)
  · refine Safe.bind (safe_own (fun _ _ => rfl) (fun s₂ ok _ hl => ?_) fun s₂ ok hs₂ => ?_)
    · cases ok with
      | false => exact absurd hl.2.1 hl.1
      | true => exact absurd hl.2.1 hp
    · have hs := hspell (q := if ok then p else s₂.1.policy) hs₂
      refine Safe.ite (fun _ => Safe.bind (safe_armConnectingWatchdog fun s₃ hs₃ => ?_)) fun _ => ?_
      · exact h _ _ (hs.trans hs₃.toSpell)
      · exact h _ _ hs

/-- `RevertMachineStateLocked` lifts the policy where the holder may, and where the
kill switch is off. -/
lemma safe_revertMachineState {finalDisarm hadRoutes : Bool}
    (hfree : finalDisarm = true → Free w s) (h : ∀ s', Spell w s s' → Q true () s') :
    Safe controller liftRules w (revertMachineStateLocked finalDisarm hadRoutes) true Q s := by
  refine Safe.bind (safe_quiet rfl (fun _ _ => rfl) fun _ s₁ hs₁ => ?_)
  -- every branch ends in at most one transition of the policy
  have happly : ∀ {p s₂}, Undisturbed w s s₂ → (p = .off → Free w s₂) →
      Safe controller liftRules w (do let _ ← applyWfpLocked p) true Q s₂ := by
    intro p s₂ hs₂ hp
    exact Safe.bind (safe_applyWfpLocked hp fun _ s₃ hs₃ => h _ (hs₂.toSpell.trans hs₃))
  refine Safe.ite (fun hfinal => happly hs₁ fun _ => (hfree hfinal).undisturbed hs₁) fun _ => ?_
  refine Safe.bind (safe_load rfl fun s₂ hs₂ => ?_)
  have hs₂' := hs₁.trans hs₂
  refine Safe.bind (Safe.andThen (fun hon => ?_) fun hon => ?_)
  · refine safe_load rfl fun s₃ hs₃ => ?_
    refine Safe.ite (fun _ => happly (hs₂'.trans hs₃) (by simp)) fun hheld => ?_
    -- the switch is on and no policy is in force, and both stay so
    have hkill : s₃.1.killSwitch = true := hs₃.killSwitch.trans hon
    have hoff : s₃.1.policy = .off := by simpa using hheld
    refine Safe.bind (safe_load rfl fun s₄ hs₄ => ?_)
    have hs₄' := (hs₂'.trans hs₃).trans hs₄
    refine Safe.ite (fun _ => happly hs₄' (by simp)) fun _ => ?_
    refine Safe.bind (safe_load rfl fun s₅ hs₅ => ?_)
    have hoff₅ : s₅.1.policy = .off :=
      hs₅.off (hs₄.killSwitch.trans hkill) (hs₄.off hkill hoff)
    refine Safe.ite (fun hheld => absurd hoff₅ (by simpa using hheld)) fun _ => ?_
    exact h _ (hs₄'.trans hs₅).toSpell
  · have hkill : s₂.1.killSwitch = false := hon
    refine Safe.ite (fun hheld => absurd hheld (by simp)) fun _ => ?_
    refine Safe.bind (safe_load rfl fun s₄ hs₄ => ?_)
    have hs₄' := hs₂'.trans hs₄
    refine Safe.ite (fun _ => happly hs₄' (by simp)) fun _ => ?_
    refine Safe.bind (safe_load rfl fun s₅ hs₅ => ?_)
    have hs₅' := hs₄'.trans hs₅
    refine Safe.ite (fun _ => happly hs₅' fun _ => ?_) fun _ => h _ hs₅'.toSpell
    exact .inr (.inl ((hs₄.trans hs₅).killSwitch.trans hkill))

lemma safe_cancelCapture {Q : Bool → ℕ → Shared × History → Prop}
    (h : ∀ r s', Span w s s' → (Free w s → Free w s') → Q true r s') :
    Safe controller liftRules w cancelCapture true Q s := by
  refine Safe.bind (safe_load rfl fun s₁ hs₁ => ?_)
  refine Safe.ite (fun _ => h _ _ hs₁.toSpan fun hfree => hfree.undisturbed hs₁) fun _ => ?_
  refine Safe.bind (Safe.perform fun s₂ hrely o ho _ _ => ?_)
  obtain rfl := ho.1 rfl
  have hs₂ : Undisturbed w s s₂ := hs₁.trans (hrely w rfl)
  have hspan : Span w s₂ (controller.after w (some w) (.cancel s₁.1.readiness) s₂
      { s₂.1 with cancelled := Function.update s₂.1.cancelled s₁.1.readiness true }) :=
    ⟨rfl, rfl, rfl, fun hstop => by simp [System.after, controller, note, hstop],
      fun _ _ => .inl rfl⟩
  refine ⟨allows_own ⟨fun hl => absurd hl.2.1 hl.1, fun hw hstop => ?_⟩, ?_⟩
  · simpa [System.after, controller, note, hw] using hstop
  · refine h _ _ (hs₂.toSpan.trans hspan) fun hfree => ?_
    rcases hfree.undisturbed hs₂ with (hdel | ⟨hstart, hstop⟩) | hkill | hoff
    · exact .inl (.inl hdel)
    · exact .inl (.inr ⟨hstart, hspan.stopped hstop⟩)
    · exact .inr (.inl hkill)
    · exact .inr (.inr hoff)

lemma safe_stopLocked {finalDisarm : Bool} (hfree : finalDisarm = true → Free w s)
    (h : ∀ s', Span w s s' → Q true () s') :
    Safe controller liftRules w (stopLocked finalDisarm) true Q s := by
  refine Safe.bind (safe_cancelCapture fun _ s₁ hs₁ hfree₁ => ?_)
  refine Safe.bind (safe_quiet rfl (fun _ s => ?_) fun hadRoutes s₂ hs₂ => ?_)
  · by_cases hlive : s.state.isSessionLive ∨ s.state = .starting <;>
      simp [quietPart, hlive]
  refine Safe.bind (safe_revertMachineState (fun hfinal => ?_) fun s₃ hs₃ => ?_)
  · exact (hfree₁ (hfree hfinal)).undisturbed hs₂
  · refine safe_setState fun s₄ hs₄ => h _ ?_
    exact ((hs₁.trans hs₂.toSpan).trans hs₃.toSpan).trans hs₄.toSpan

lemma safe_failLocked (h : ∀ s', Q true () s') :
    Safe controller liftRules w failLocked true Q s := by
  refine Safe.bind (safe_setState fun s₁ _ => ?_)
  refine Safe.bind (safe_stopLocked (by simp) fun s₂ _ => ?_)
  exact safe_setState fun s₃ _ => h s₃

lemma safe_mayFail (h : ∀ s', Q true () s') : Safe controller liftRules w mayFail true Q s := by
  refine Safe.bind (safe_toss fun _ s₁ _ => ?_)
  exact Safe.ite (fun _ => safe_failLocked h) fun _ => h s₁

/-! ### The capture -/

lemma safe_current {r : ℕ} {Q : Bool → Bool → Shared × History → Prop}
    (h : ∀ fresh s', Q true fresh s') : Safe controller liftRules w (current r) true Q s :=
  safe_quiet rfl (fun _ _ => rfl) fun a s' _ => h a s'

lemma safe_applyStage {stage : CaptureStage} {Q : Bool → Bool → Shared × History → Prop}
    (h : ∀ threw s', Q true threw s') :
    Safe controller liftRules w (applyStage stage) true Q s := by
  cases stage with
  | prepare => exact safe_toss fun threw s' _ => h threw s'
  | firewall =>
    refine Safe.bind (safe_toss fun _ s₁ _ => ?_)
    refine Safe.ite (fun _ => h true s₁) fun _ => ?_
    refine Safe.bind (safe_applyWfpLocked (by simp) fun ok s₂ _ => ?_)
    refine Safe.ite (fun _ => h false s₂) fun _ => ?_
    exact safe_load rfl fun s₃ _ => h _ s₃
  | network =>
    exact safe_quiet rfl (fun _ _ => rfl) fun a s' _ => h a s'
  | connected =>
    refine Safe.bind (safe_load rfl fun s₁ _ => ?_)
    refine Safe.ite (fun _ => ?_) fun _ => h false s₁
    exact Safe.bind (safe_applyWfpLocked (by simp) fun ok s₂ _ => h _ s₂)

lemma safe_rollback {r : ℕ} (h : ∀ s', Q true () s') :
    Safe controller liftRules w (rollback r) true Q s := by
  refine Safe.bind (safe_load rfl fun s₁ _ => ?_)
  refine Safe.bind (safe_revertMachineState (by simp) fun s₂ _ => ?_)
  refine Safe.bind (safe_load rfl fun s₃ _ => ?_)
  -- whether the window opens again turns on two reads, and either answer is safe
  have hreopen : ∀ (on : Bool) (s : Shared × History),
      Safe controller liftRules w (do
        let held ← .andThen on (inForce .step)
        if held then do
          let _ ← applyWfpLocked .connecting
        else pure ()) true Q s := by
    intro on s
    have hlast : ∀ (held : Bool) (s : Shared × History), Safe controller liftRules w
        (if held then do let _ ← applyWfpLocked .connecting else pure ()) true Q s := by
      intro held s
      refine Safe.ite (fun _ => ?_) fun _ => h s
      exact Safe.bind (safe_applyWfpLocked (by simp) fun _ s' _ => h s')
    refine Safe.bind (Safe.andThen (fun _ => ?_) fun _ => hlast false s)
    exact safe_load rfl fun s' _ => hlast _ s'
  refine Safe.bind (Safe.andThen (fun _ => ?_) fun _ => hreopen false s₃)
  exact safe_load rfl fun s₄ _ => hreopen _ s₄

lemma safe_applyStages {r : ℕ} (stages : List CaptureStage)
    {Q : Bool → CaptureExitKind → Shared × History → Prop} (h : ∀ ended s', Q true ended s') :
    ∀ s, Safe controller liftRules w (applyStages r stages) true Q s := by
  induction stages with
  | nil =>
    intro s
    refine Safe.bind (safe_current fun _ s₁ => ?_)
    refine Safe.ite (fun _ => h _ s₁) fun _ => ?_
    exact Safe.bind (safe_rollback fun s₂ => h _ s₂)
  | cons stage stages ih =>
    intro s
    refine Safe.bind (safe_current fun _ s₁ => ?_)
    refine Safe.ite (fun _ => ?_) fun _ => Safe.bind (safe_rollback fun s₂ => h _ s₂)
    refine Safe.bind (safe_applyStage fun _ s₂ => ?_)
    refine Safe.ite (fun _ => ?_) fun _ => ih s₂
    exact Safe.bind (safe_rollback fun s₃ => h _ s₃)

lemma safe_activateLocked {r : ℕ} (h : ∀ s', Q true () s') :
    Safe controller liftRules w (activateLocked r) true Q s := by
  refine Safe.bind (safe_load rfl fun s₁ _ => ?_)
  refine Safe.bind (safe_load rfl fun s₂ _ => ?_)
  refine Safe.ite (fun _ => h s₂) fun _ => ?_
  have hsettle : ∀ ended s, Safe controller liftRules w (settle r ended) true Q s := by
    intro ended s
    cases ended with
    | threw =>
      refine Safe.bind (safe_stopLocked (by simp) fun s₁ _ => ?_)
      exact safe_setState fun s₂ _ => h s₂
    | returned result =>
      refine Safe.bind (safe_load rfl fun s₁ _ => ?_)
      refine Safe.ite (fun _ => h s₁) fun _ => Safe.ite (fun _ => safe_mayFail h) fun _ => ?_
      exact Safe.bind (safe_setState fun s₂ _ => safe_mayFail h)
  refine Safe.bind (Safe.bind (safe_toss fun _ s₃ _ => ?_))
  refine Safe.ite (fun _ => hsettle _ s₃) fun _ => ?_
  refine Safe.bind (safe_current fun _ s₄ => ?_)
  refine Safe.ite (fun _ => safe_applyStages _ hsettle s₄) fun _ => hsettle _ s₄

/-! ### A start and a switch -/

/-- What an armed start knows of the generation it read: until it is compared, it
moves for a deliberate stop only. -/
def Reading (w : Who Op) (generation : ℕ) (s : Shared × History) : Prop :=
  s.2.comparing = true ∧
    (w.kind.startsArmed = true → s.1.stopGeneration = generation ∨ s.2.stopped = true)

lemma Reading.span {generation : ℕ} (h : Reading w generation s) (hs : Span w s s₁) :
    Reading w generation s₁ := by
  obtain ⟨hc, hgen⟩ := h
  refine ⟨hs.comparing.trans hc, fun hw => ?_⟩
  rcases hgen hw with hgen | hstop
  · rcases hs.generation hw hc with hgen' | hstop
    · exact .inl (hgen'.trans hgen)
    · exact .inr hstop
  · exact .inr (hs.stopped hstop)

/-- What an armed start knows of its readiness: it is cancelled only for a
deliberate stop.  A start with the switch off may lift the policy in any case. -/
def Ours (w : Who Op) (r : ℕ) (s : Shared × History) : Prop :=
  s.1.killSwitch = w.kind.startsArmed ∧ s.2.pending = some r ∧
    (w.kind.startsArmed = true → s.1.cancelled r = true → s.2.stopped = true)

lemma Ours.spell {r : ℕ} (h : Ours w r s) (hs : Spell w s s₁) : Ours w r s₁ := by
  obtain ⟨hkill, hpending, hgone⟩ := h
  refine ⟨hs.killSwitch.trans hkill, hs.pending.trans hpending, fun hw hr => ?_⟩
  rcases hs.cancelled hw r hpending hr with hr | hstop
  · exact hs.stopped (hgone hw hr)
  · exact hstop

lemma Ours.free {r : ℕ} (h : Ours w r s) (hw : w.kind.isStart = true)
    (hgone : s.1.cancelled r = true) : Free w s := by
  obtain ⟨hkill, -, hstop⟩ := h
  cases harmed : w.kind.startsArmed with
  | false => exact .inr (.inl (hkill.trans harmed))
  | true => exact .inl (.inr ⟨hw, hstop harmed hgone⟩)

lemma safe_adopt {killSwitch : Bool} (hw : w.kind.startsArmed = killSwitch)
    (hw' : w.kind.deliberate = false) {Q : Bool → ℕ → Shared × History → Prop}
    (h : ∀ r s', Ours w r s' → Q true r s') :
    Safe controller liftRules w (adopt killSwitch) true Q s := by
  subst hw
  -- the generation is read with no stop seen yet
  refine Safe.bind (Safe.perform fun s₁ hrely o ho _ _ => ?_)
  obtain rfl := ho.1 rfl
  refine ⟨allows_own ⟨fun hl => absurd hl.2.1 hl.1, fun _ hstop => ?_⟩, ?_⟩
  · exact absurd hstop (by simp [System.after, controller, note])
  refine Safe.bind (safe_store (fun _ _ => rfl) (fun _ _ hl => absurd hl.2.1 hl.1) fun s₂ hs₂ => ?_)
  have hread₁ :
      Reading w s₁.1.stopGeneration (controller.after w (some w) .loadGeneration s₁ s₁.1) :=
    ⟨rfl, fun _ => .inl rfl⟩
  have hread₂ : Reading w s₁.1.stopGeneration s₂ := hread₁.span hs₂.toSpan
  refine Safe.bind (safe_stopLocked (by simp) fun s₃ hs₃ => ?_)
  -- the preference is no part of what was read
  have hread₃ : Reading w s₁.1.stopGeneration s₃ := by
    refine Reading.span ?_ hs₃
    exact hread₂
  have hkill₃ : s₃.1.killSwitch = w.kind.startsArmed := hs₃.killSwitch
  refine Safe.bind (Safe.perform fun s₄ hrely₄ o ho _ _ => ?_)
  obtain rfl := ho.1 rfl
  have hs₄ : Undisturbed w s₃ s₄ := hrely₄ w rfl
  have hread₄ := hread₃.span hs₄.toSpan
  refine ⟨allows_own ⟨fun hl => absurd hl.2.1 hl.1, fun _ => id⟩, ?_⟩
  have hours₅ : Ours w (s₄.1.readiness + 1) (controller.after w (some w) .publish s₄ { s₄.1 with
      readiness := s₄.1.readiness + 1
      cancelled := Function.update s₄.1.cancelled (s₄.1.readiness + 1) false }) :=
    ⟨hs₄.killSwitch.trans hkill₃, rfl, fun _ hgone => absurd hgone (by simp [System.after])⟩
  refine Safe.bind (Safe.perform fun s₅ hrely₅ o ho _ _ => ?_)
  obtain rfl := ho.1 rfl
  have hs₅ := hrely₅ w rfl
  have hours := hours₅.spell hs₅.toSpell
  have hread₅ : Reading w s₁.1.stopGeneration s₅ := by
    refine Reading.span ?_ hs₅.toSpan
    exact hread₄
  refine ⟨allows_own ⟨fun hl => absurd hl.2.1 hl.1, fun _ => id⟩, ?_⟩
  refine Safe.ite (fun _ => h _ _ ⟨hours.1, hours.2.1, hours.2.2⟩) fun hmoved => ?_
  -- the generation moved, so a deliberate stop was seen
  refine Safe.bind (Safe.perform fun s₆ hrely₆ o ho _ _ => ?_)
  obtain rfl := ho.1 rfl
  have hs₆ := hrely₆ w rfl
  refine ⟨allows_own ⟨fun hl => absurd hl.2.1 hl.1, fun _ hstop => ?_⟩,
    h _ _ ⟨?_, ?_, fun harmed _ => ?_⟩⟩
  · simpa [System.after, controller, note, hw'] using hstop
  · exact hs₆.killSwitch.trans hours.1
  · exact hs₆.pending.trans hours.2.1
  · have hstop : s₅.2.stopped = true := (hread₅.2 harmed).resolve_left hmoved
    have hstop₆ : s₆.2.stopped = true := hs₆.stopped hstop
    simp [System.after, controller, note, hstop₆]

lemma safe_startLocked {killSwitch rpcOnly : Bool} (hw : w.kind = .start killSwitch rpcOnly)
    (h : ∀ s', Q true () s') :
    Safe controller liftRules w (startLocked killSwitch rpcOnly) true Q s := by
  refine Safe.bind (safe_adopt (by simp [hw, Op.startsArmed]) (by simp [hw, Op.deliberate])
    fun r s₁ hours₁ => ?_)
  refine Safe.bind (safe_toss fun _ s₂ hs₂ => ?_)
  refine Safe.ite (fun _ => safe_setState fun s₃ _ => h s₃) fun _ => ?_
  refine Safe.bind (safe_setState fun s₃ hs₃ => ?_)
  have hours₃ := (hours₁.spell hs₂.toSpell).spell hs₃.toSpell
  have hbring : ∀ s, Ours w r s → Safe controller liftRules w (bringUp r rpcOnly) true Q s := by
    intro s hours
    refine Safe.bind (safe_toss fun _ s₁ hs₁ => ?_)
    refine Safe.ite (fun _ => safe_failLocked h) fun _ => ?_
    refine Safe.bind (Safe.perform fun s₂ hrely₂ o ho _ _ => ?_)
    obtain rfl := ho.1 rfl
    have hours₂ := (hours.spell hs₁.toSpell).spell (hrely₂ w rfl).toSpell
    refine ⟨allows_own ⟨fun hl => absurd hl.2.1 hl.1, fun _ => id⟩, ?_⟩
    refine Safe.ite (fun hgone => safe_stopLocked (fun _ => ?_) fun s' _ => h s') fun _ => ?_
    · exact hours₂.free (by simp [hw, Op.isStart]) hgone
    · exact Safe.bind (safe_setState fun s₃ _ => safe_mayFail h)
  refine Safe.bind (Safe.bind (Safe.andThen (fun _ => ?_) fun _ => ?_))
  · refine safe_load rfl fun s₄ hs₄ => ?_
    have hours₄ := hours₃.spell hs₄.toSpell
    refine Safe.ite (fun _ => ?_) fun _ => hbring s₄ hours₄
    exact Safe.bind (safe_applyWfpLocked (by simp) fun _ s₅ hs₅ => hbring s₅ (hours₄.spell hs₅))
  · exact Safe.ite (fun hheld => absurd hheld (by simp)) fun _ => hbring s₃ hours₃

lemma safe_setKillSwitchLocked {on : Bool} (h : ∀ s', Q true () s') :
    Safe controller liftRules w (setKillSwitchLocked on) true Q s := by
  refine Safe.bind (safe_load rfl fun s₁ _ => ?_)
  refine Safe.ite (fun _ => h s₁) fun _ => ?_
  refine Safe.bind (safe_store (fun _ _ => rfl) (fun _ _ hl => absurd hl.2.1 hl.1) fun s₂ hs₂ => ?_)
  refine Safe.ite (fun _ => ?_) fun hon => ?_
  · refine Safe.bind (safe_load rfl fun s₃ _ => ?_)
    have hlast : ∀ (off : Bool) (s : Shared × History), Safe controller liftRules w
        (if off then do let _ ← applyWfpLocked .connected else pure ()) true Q s := by
      intro off s
      refine Safe.ite (fun _ => ?_) fun _ => h s
      exact Safe.bind (safe_applyWfpLocked (by simp) fun _ s' _ => h s')
    refine Safe.bind (Safe.andThen (fun _ => ?_) fun _ => hlast _ s₃)
    exact safe_load rfl fun s₄ _ => hlast _ s₄
  · refine Safe.bind (safe_load rfl fun s₃ hs₃ => ?_)
    refine Safe.ite (fun _ => h s₃) fun _ => ?_
    refine Safe.bind (safe_load rfl fun s₄ hs₄ => ?_)
    have hlast : ∀ (lifts : Bool) (s' : Shared × History), Undisturbed w s₄ s' →
        Safe controller liftRules w
          (if lifts then do let _ ← applyWfpLocked .off else pure ()) true Q s' := by
      intro lifts s' hs'
      refine Safe.ite (fun _ => ?_) fun _ => h s'
      refine Safe.bind (safe_applyWfpLocked (fun _ => .inr (.inl ?_)) fun _ s'' _ => h s'')
      rw [((hs₃.trans hs₄).trans hs').killSwitch]
      simpa using hon
    refine Safe.bind (Safe.orElse (fun _ => hlast _ s₄ (.refl w s₄)) fun _ => ?_)
    exact safe_load rfl fun s₅ hs₅ => hlast _ s₅ hs₅

end Held

/-! ### Without the lock -/

section Unlocked

variable {w : Who Op} {s s₁ s₂ : Shared × History} {α : Type} {n : Name}

lemma allows_unlocked {o : Option (Who Op)} (hguar : Deliberate w s s₁)
    (h : ∀ w', o = some w' → Undisturbed w' s s₁) : liftRules.Allows w o s s₁ :=
  ⟨hguar, trivial, fun _ => h⟩

/-- The bump is seen by an armed start that compares, and only a deliberate stop
makes it while one does. -/
lemma safe_bumpGeneration (hw : w.kind.stops = true) {Q : Bool → Unit → Shared × History → Prop}
    (h : ∀ s', Q false () s') : Safe controller liftRules w bumpGeneration false Q s := by
  refine Safe.perform fun s₁ _ o ho hcond _ => ⟨?_, h _⟩
  refine allows_unlocked ⟨fun hl => absurd hl.2.1 hl.1, fun hdel hstop => ?_⟩ fun w' hw' => ?_
  · simpa [System.after, controller, note, hdel] using hstop
  subst hw'
  refine ⟨⟨⟨rfl, rfl, rfl, fun hstop => ?_, fun harmed hc => .inr ?_⟩, fun _ _ _ => .inl⟩,
    fun _ => id⟩
  · simp [System.after, controller, note, hstop]
  · have hdel : w.kind.deliberate = true := by
      by_contra hdel
      have hfail := Op.stops.eq_failsafeStop hw hdel
      simp [liftRules, liftCond, hfail, heldByArmedStart, harmed, hc] at hcond
    simp [System.after, controller, note, hdel, hc]

/-- `CancelCapture` without the lock: a start's own readiness is cancelled by a
deliberate stop only. -/
lemma safe_cancelCapture_unlocked (hw : w.kind.stops = true)
    {Q : Bool → ℕ → Shared × History → Prop} (h : ∀ r s', Q false r s') :
    Safe controller liftRules w cancelCapture false Q s := by
  refine Safe.bind (Safe.load liftRules_laws (fun _ _ => rfl) fun s₁ _ _ _ _ => ?_)
  refine Safe.ite (fun _ => h _ _) fun _ => ?_
  refine Safe.bind (Safe.perform fun s₂ _ o ho hcond _ => ⟨?_, h _ _⟩)
  generalize s₁.1.readiness = r at hcond ⊢
  refine allows_unlocked ⟨fun hl => absurd hl.2.1 hl.1, fun hdel hstop => ?_⟩ fun w' hw' => ?_
  · simpa [System.after, controller, note, hdel] using hstop
  subst hw'
  refine ⟨⟨⟨rfl, rfl, rfl, fun hstop => ?_, fun _ _ => .inl rfl⟩, fun harmed r' hr' hgone => ?_⟩,
    fun _ => id⟩
  · simp [System.after, controller, note, hstop]
  · rcases eq_or_ne r' r with rfl | hne
    · have hdel : w.kind.deliberate = true := by
        by_contra hdel
        have hfail := Op.stops.eq_failsafeStop hw hdel
        simp [liftRules, liftCond, hfail, heldByArmedStart, harmed, hr'] at hcond
      exact .inr (by simp [System.after, controller, note, hdel, hr'])
    · exact .inl (by simpa [System.after, hne] using hgone)

lemma safe_dropFirewallOnEscape (hw : w.kind.stops = true) {r : ℕ}
    {Q : Bool → Unit → Shared × History → Prop} (h : ∀ s', Q false () s') :
    Safe controller liftRules w (dropFirewallOnEscape r) false Q s := by
  refine Safe.bind (Safe.load liftRules_laws (fun _ _ => rfl) fun s₁ _ _ _ _ => ?_)
  refine Safe.ite (fun _ => h _) fun _ => ?_
  -- an escape only adds to the history of the escapes
  have hlog : ∀ (n : Name) (o : Option (Who Op)) (s : Shared × History),
      n = .checkEscape r ∨ n = .revertEscape r →
      (note ⟨w, o, n⟩ s.1 s.2).comparing = s.2.comparing ∧
      (note ⟨w, o, n⟩ s.1 s.2).pending = s.2.pending ∧
      (note ⟨w, o, n⟩ s.1 s.2).stopped = s.2.stopped := by
    rintro n o s (rfl | rfl)
    · by_cases hc : w.kind = .stop ∧ s.1.policy = .off <;> simp [note, hc]
    · by_cases hc : w.kind = .stop <;> simp [note, hc]
  refine Safe.bind (Safe.perform fun s₂ _ o _ _ _ => ⟨?_, ?_⟩)
  · obtain ⟨hcomparing, hpending, hstopped⟩ := hlog _ o s₂ (.inl rfl)
    refine allows_unlocked (.of_eq rfl hstopped) fun w' _ => ?_
    exact .of_eq rfl rfl rfl rfl hcomparing hpending hstopped
  refine Safe.ite (fun _ => Safe.perform fun s₃ _ o _ hcond _ => ⟨?_, h _⟩) fun _ => h _
  obtain ⟨hcomparing, hpending, hstopped⟩ := hlog _ o s₃ (.inr rfl)
  refine allows_unlocked ⟨fun hl => ?_, fun _ hstop => hstopped.symm.trans hstop⟩ fun w' _ => ?_
  · by_contra hmay
    have hfail := Op.stops.eq_failsafeStop hw fun hdel => hmay (.inl hdel)
    have hkill : s₃.1.killSwitch = true := hl.2.2
    simp [liftRules, liftCond, hfail, hkill, hl.1] at hcond
  · exact ⟨⟨⟨rfl, hcomparing, hpending, hstopped.trans, fun _ _ => .inl rfl⟩, fun _ _ _ => .inl⟩,
      fun _ _ => rfl⟩

/-- The watchdog narrows a policy, and under a holder with the switch on never
makes one. -/
lemma safe_connectingWatchdog (hw : w.kind = .connectingWatchdog) :
    Owes controller liftRules w connectingWatchdog false s := by
  intro s₁ _ _ o _ _ _
  refine ⟨allows_unlocked (.of_eq rfl rfl) fun w' _ => .of_eq rfl rfl rfl rfl rfl rfl rfl, ?_⟩
  refine Safe.bind (Safe.perform fun s₂ _ o _ hcond ok => ⟨?_, ?_⟩)
  · refine allows_unlocked ⟨fun hl => ?_, fun _ => id⟩ fun w' hw' => ?_
    · cases ok with
      | false => exact absurd hl.2.1 hl.1
      | true => exact absurd hl.2.1 (by simp [System.after])
    · refine ⟨⟨⟨rfl, rfl, rfl, id, fun _ _ => .inl rfl⟩, fun _ _ _ => .inl⟩, fun hkill hoff => ?_⟩
      simp [liftRules, liftCond, hw, hw', hkill, hoff] at hcond
  · refine Safe.perform fun s₃ _ o _ _ _ => ⟨?_, rfl⟩
    exact allows_unlocked (.of_eq rfl rfl) fun w' _ => .of_eq rfl rfl rfl rfl rfl rfl rfl

lemma safe_lock {giveUp : Shared → Bool} {Q : Bool → Bool → Shared × History → Prop}
    (hn : ∀ s, controller.after w none n s s.1 = s)
    (hgot : ∀ s', liftCond ⟨w, none, n⟩ s' = true → Q true true s')
    (hgave : ∀ s', giveUp s'.1 = true → Q false false s') :
    Safe controller liftRules w (.lock n .giveUp giveUp .ret) false Q s := by
  refine ⟨⟨rfl, trivial⟩, fun s₁ _ => ⟨fun _ hcond => ?_, fun hgive o _ _ => ?_⟩⟩
  · rw [hn]
    exact ⟨liftRules_laws.allows_refl none s₁, hgot s₁ hcond⟩
  · exact ⟨liftRules_laws.allows_refl o s₁, hgave s₁ hgive⟩

lemma safe_unlock : Owes controller liftRules w unlock true s :=
  ⟨rfl, fun s₁ _ _ => ⟨liftRules_laws.allows_refl _ s₁, trivial, rfl⟩⟩

end Unlocked

/-! ### Every run -/

theorem safe_body (i : ℕ) (op : Op) (s : Shared × History) :
    Owes controller liftRules ⟨i, op⟩ (body op) false s := by
  cases op with
  | start killSwitch rpcOnly =>
    refine Safe.bind (safe_lock (fun _ => rfl) (fun s₁ _ => ?_) fun s₁ hgive => ?_)
    · exact Safe.bind (safe_startLocked rfl fun _ => safe_unlock)
    · exact absurd hgive (by simp)
  | activateCapture r =>
    refine Safe.bind (safe_lock (fun _ => rfl) (fun s₁ _ => ?_) fun s₁ _ => ?_)
    · refine Safe.ite (fun _ => ?_) (by simp)
      exact Safe.bind (safe_activateLocked fun _ => safe_unlock)
    · exact Safe.ite (by simp) fun _ => rfl
  | stop =>
    refine Safe.bind (safe_bumpGeneration rfl fun s₁ => ?_)
    refine Safe.bind (safe_cancelCapture_unlocked rfl fun r s₂ => ?_)
    refine Safe.bind (safe_lock (fun _ => rfl) (fun s₃ _ => ?_) fun s₃ _ => ?_)
    · refine Safe.ite (fun _ => ?_) (by simp)
      exact Safe.bind (safe_stopLocked (fun _ => .inl (.inl rfl)) fun _ _ => safe_unlock)
    · exact Safe.ite (by simp) fun _ => safe_dropFirewallOnEscape rfl fun _ => rfl
  | logout =>
    refine Safe.bind (safe_bumpGeneration rfl fun s₁ => ?_)
    refine Safe.bind (safe_cancelCapture_unlocked rfl fun r s₂ => ?_)
    refine Safe.bind (safe_lock (fun _ => rfl) (fun s₃ _ => ?_) fun s₃ _ => ?_)
    · refine Safe.ite (fun _ => ?_) (by simp)
      exact Safe.bind (safe_stopLocked (fun _ => .inl (.inl rfl)) fun _ _ => safe_unlock)
    · exact Safe.ite (by simp) fun _ => rfl
  | setKillSwitch on =>
    refine Safe.bind (safe_lock (fun _ => rfl) (fun s₁ _ => ?_) fun s₁ hgive => ?_)
    · exact Safe.bind (safe_setKillSwitchLocked fun _ => safe_unlock)
    · exact absurd hgive (by simp)
  | failsafeStop =>
    refine Safe.bind (safe_bumpGeneration rfl fun s₁ => ?_)
    refine Safe.bind (safe_cancelCapture_unlocked rfl fun r s₂ => ?_)
    refine Safe.bind (Safe.load liftRules_laws (fun _ _ => rfl) fun s₃ _ _ _ _ => ?_)
    refine Safe.bind (safe_lock (fun _ => rfl) (fun s₄ hcond => ?_) fun s₄ _ => ?_)
    · refine Safe.ite (fun _ => ?_) (by simp)
      refine Safe.bind (safe_stopLocked (fun hfinal => ?_) fun _ _ => safe_unlock)
      -- the preference it read is still the one in force, or there is nothing to lift
      have hread : s₃.1.killSwitch = false := by simpa [failsafeFinalDisarm] using hfinal
      have hfree : s₄.1.killSwitch = false ∨ s₄.1.policy = .off := by
        simpa [liftCond, hread] using hcond
      exact .inr hfree
    · exact Safe.ite (by simp) fun _ => safe_dropFirewallOnEscape rfl fun _ => rfl
  | connectingWatchdog => exact safe_connectingWatchdog rfl

lemma deliberate_of_run {es : List (Transition Machine (Label Op))} {p : Machine}
    (hrun : controller.Runs (liftCond · · = true) {} {} es p) :
    ∀ t ∈ es, ∀ e, t.pre.event t.label = some e → Deliberate e.self t.pre.state t.post.state :=
  (Rules.sound liftRules_laws (fun i op s _ => safe_body i op s) trivial hrun).2

lemma not_stopped_of_run {es : List (Transition Machine (Label Op))} {p : Machine}
    (hrun : controller.Runs (liftCond · · = true) {} {} es p)
    (hspawn : ∀ t ∈ es, ∀ op, t.label = .spawn op → op.deliberate = false) :
    p.log.stopped = false := by
  induction hrun with
  | nil h =>
    obtain rfl := h
    rfl
  | @snoc es p a p' hrun hs ih =>
    have hstop := ih fun t ht => hspawn t (List.mem_append_left _ ht)
    cases he : p.event a with
    | none => rw [(System.step_of_event_eq_none hs.1 he).2, hstop]
    | some e =>
      obtain ⟨t, ht, hk⟩ := Pool.mem_of_event he
      obtain ⟨x, hx, hlabel⟩ := System.Runs.spawned hrun t ht
      have hdel : e.self.kind.deliberate = false :=
        hspawn x (List.mem_append_left _ hx) _ (hk ▸ hlabel)
      have hguar := deliberate_of_run (.snoc hrun hs) ⟨p, a, p'⟩ (by simp) e he
      rw [← Bool.not_eq_true]
      intro hstop'
      exact absurd (hguar.stopped hdel hstop') (by simp [Pool.state, hstop])

/-- **With the kill switch on, only a deliberate act opens the machine**, in every
run in which the failsafe and the watchdog meet what they run beside: a step that
takes the policy to Off while the switch is on belongs to a stop, a disconnect or a
logout, or to a start that one has cancelled; and where none was asked for, there is
no such step. -/
theorem lifted_deliberately {es : List (Transition Machine (Label Op))} {p : Machine}
    (hrun : controller.Runs (liftCond · · = true) {} {} es p) :
    (∀ t ∈ es, Lifts t.pre.state t.post.state →
      ∃ e, t.pre.event t.label = some e ∧ MayLift e.self.kind t.pre.state) ∧
    ((∀ t ∈ es, ∀ op, t.label = .spawn op → op.deliberate = false) →
      ∀ t ∈ es, ¬ Lifts t.pre.state t.post.state) := by
  have hmay : ∀ t ∈ es, Lifts t.pre.state t.post.state →
      ∃ e, t.pre.event t.label = some e ∧ MayLift e.self.kind t.pre.state := by
    intro t ht hl
    cases he : t.pre.event t.label with
    | none =>
      have hsame : t.post.shared.policy = t.pre.shared.policy := by
        rw [System.Runs.shared_eq hrun ht he]
      exact absurd (hsame.symm.trans hl.2.1) hl.1
    | some e => exact ⟨e, rfl, (deliberate_of_run hrun t ht e he).lifts hl⟩
  refine ⟨hmay, fun hspawn t ht hl => ?_⟩
  obtain ⟨e, he, hact⟩ := hmay t ht hl
  obtain ⟨pre, post, rfl⟩ := List.append_of_mem ht
  obtain ⟨hpre, -⟩ := Run.split hrun rfl
  -- the run up to the step has no deliberate stop either
  have hspawn' : ∀ x ∈ pre, ∀ op, x.label = .spawn op → op.deliberate = false :=
    fun x hx => hspawn x (List.mem_append_left _ hx)
  rcases hact with hdel | ⟨-, hstop⟩
  · obtain ⟨th, hth, hk⟩ := Pool.mem_of_event he
    obtain ⟨x, hx, hlabel⟩ := System.Runs.spawned hpre th hth
    exact absurd hdel (by simp [hspawn' x hx _ (hk ▸ hlabel)])
  · exact absurd hstop (by simp [Pool.state, not_stopped_of_run hpre hspawn'])

/-- A user's stop lifts the policy of an armed session. -/
theorem lifted_deliberately_stop :
    ∃ es p, controller.Runs (liftCond · · = true) {} {} es p ∧
      (∃ t ∈ es, Lifts t.pre.state t.post.state) ∧
      ∀ t ∈ es, Lifts t.pre.state t.post.state →
        ∃ e, t.pre.event t.label = some e ∧ MayLift e.self.kind t.pre.state := by
  obtain ⟨es, p, p', hrun, hlift⟩ := System.exists_run (S := controller) (liftCond · · = true) {} {}
    (session true ++ Label.spawn .stop :: List.replicate 9 (.run 2 false)) (.run 2 false)
    (fun p p' => p.shared.policy ≠ .off && p'.shared.policy = .off && p.shared.killSwitch)
    (by decide +kernel)
  refine ⟨_, _, hrun, ⟨_, List.mem_concat_self, ?_⟩,
    (lifted_deliberately hrun).1⟩
  simpa [Lifts, Pool.state, and_assoc] using hlift

/-- A failsafe that read the preference before the user turned it on lifts the
policy of the armed machine. -/
theorem lifted_by_failsafe :
    ¬ ∀ es p, controller.Runs (fun _ _ => True) {} {} es p →
      ∀ t ∈ es, Lifts t.pre.state t.post.state →
        ∃ e, t.pre.event t.label = some e ∧ MayLift e.self.kind t.pre.state := by
  intro h
  obtain ⟨es, p, p', hrun, hlift⟩ := System.exists_run (S := controller) (fun _ _ => True) {} {}
    (session false ++ Label.spawn .failsafeStop :: (List.replicate 4 (Label.run 2 false) ++
      Label.spawn (.setKillSwitch true) :: (List.replicate 6 (Label.run 3 false) ++
        List.replicate 6 (Label.run 2 false)))) (.run 2 false)
    (fun p p' => p.shared.policy ≠ .off && p'.shared.policy = .off && p.shared.killSwitch &&
      (p.event (.run 2 false)).all (·.self.kind = .failsafeStop)) (by decide +kernel)
  simp only [Bool.and_eq_true, decide_eq_true_eq, Option.all_eq_true] at hlift
  obtain ⟨⟨⟨hon, hoff⟩, hkill⟩, hfail⟩ := hlift
  obtain ⟨e, he, hmay⟩ := h _ _ hrun _ List.mem_concat_self
    ⟨hon, hoff, hkill⟩
  have hk : e.self.kind = .failsafeStop := hfail e he
  simp [MayLift, hk, Op.deliberate, Op.isStart] at hmay

end UrnetworkWindows.Controller.Lift
