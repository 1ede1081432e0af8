/-
What stays blocked once the kill switch is off and no session runs.

`blockRules` carries two facts through every operation.  Whoever gives the lock
back with the switch off leaves the policy Off, or a session that is up or
preparing; and after a stop has escaped, the policy is taken from Off by nobody but
the operation that held the lock then, a start, or the capture of a start that came
after the stop.

The second rests on the readiness: an escaped stop has cancelled the readiness it
found, so a capture that still runs belongs to a later start.

`blockCond` says where the controller's steps keep to this.  A switch that is turned
off meets no Connected policy without a session; the watchdog's Armed is not
installed over Off, nor between the two looks a switch takes at the policy; and after
an escape neither a switch that is turned on nor a failsafe finds an Off policy to
replace.
-/
import UrnetworkWindows.Controller.Firewall

namespace UrnetworkWindows.Controller.Block

open Lib Capture Wfp

/-- An escape happened while somebody else held the lock, or nobody. -/
def foreign (w : Who Op) (s : Shared × History) : Bool :=
  s.2.escapes.any (·.holder ≠ some w.id)

/-- Where the controller's steps leave nothing blocked. -/
def blockCond (e : Event Op Name) (s : Shared × History) : Bool :=
  match e.self.kind, e.name with
  | .setKillSwitch false, .storeKillSwitch =>
    s.1.state = .up || s.1.state = .preparing || s.1.policy ≠ .connected
  | .setKillSwitch true, .checkRetry => !foreign e.self s || s.1.policy ≠ .off
  | .failsafeStop, .checkHeld true => !foreign e.self s || s.1.policy ≠ .off
  | .connectingWatchdog, .narrow => s.1.policy ≠ .off &&
    !(s.1.policy = .connecting && e.holder.any (·.kind = .setKillSwitch false))
  | _, .revertEscape _ => !s.1.killSwitch ||
    !e.holder.any fun w => w.kind = .failsafeStop && foreign w s
  | _, _ => true

/-- The operation may take the policy from Off after that escape: it held the lock
then, or it is a start, or the capture of a start that came after the stop. -/
def Exempt (w : Who Op) (e : Escape) : Prop :=
  e.holder = some w.id ∨ w.kind.isStart = true ∨
    ∃ r, w.kind = .activateCapture r ∧ e.readiness < r

/-- What every step does: after an escape, it blocks the machine again only where it
may. -/
def Unblocking (w : Who Op) (s s' : Shared × History) : Prop :=
  s.1.policy = .off → s'.1.policy ≠ .off → ∀ e ∈ s.2.escapes, Exempt w e

/-- The readiness of every escaped stop was published, and is cancelled. -/
def Recorded (s : Shared × History) : Prop :=
  ∀ e ∈ s.2.escapes, e.readiness ≤ s.1.readiness ∧
    (e.readiness ≠ 0 → s.1.cancelled e.readiness = true)

/-- With the switch off, nothing is blocked or a session runs. -/
def Unblocked (s : Shared × History) : Prop :=
  s.1.killSwitch = false → s.1.policy = .off ∨ s.1.state = .up ∨ s.1.state = .preparing

/-- What a stretch of the holder's own steps and of the others' leaves. -/
structure Course (w : Who Op) (s s' : Shared × History) : Prop where
  killSwitch : s'.1.killSwitch = s.1.killSwitch
  recorded : Recorded s → Recorded s'
  kept : s.2.escapes ⊆ s'.2.escapes
  escapes : ∀ e ∈ s'.2.escapes, e ∈ s.2.escapes ∨ e.holder = some w.id

/-- A stretch without a transition of the reported state. -/
structure Along (w : Who Op) (s s' : Shared × History) : Prop extends Course w s s' where
  state : s'.1.state = s.1.state

/-- What the others do to the holder of the lock. -/
structure Calm (w : Who Op) (s s' : Shared × History) : Prop extends Along w s s' where
  readiness : s'.1.readiness = s.1.readiness
  off : s.1.policy = .off → s'.1.policy = .off
  /-- A failsafe that has an escape behind it finds its policy still in force. -/
  narrows : w.kind = .failsafeStop → foreign w s = true → s.1.killSwitch = true →
    s.1.policy ≠ .off → s'.1.policy ≠ .off
  /-- A switch that is turned off finds the policy as it was, or lifted. -/
  lifts : w.kind = .setKillSwitch false → s.1.policy ≠ .connected →
    s'.1.policy = s.1.policy ∨ s'.1.policy = .off

/-- What any step leaves to a stop that has cancelled a readiness. -/
structure Loose (s s' : Shared × History) : Prop where
  readiness : s.1.readiness ≤ s'.1.readiness
  cancelled : ∀ r ≤ s.1.readiness, s.1.cancelled r = true → s'.1.cancelled r = true

/-- The invariant of the free lock. -/
structure Given (s : Shared × History) : Prop where
  unblocked : Unblocked s
  recorded : Recorded s

/-- The rules of the open machine. -/
def blockRules : Rules Shared History Op Name where
  locks op := op ≠ .connectingWatchdog
  cond e s := blockCond e s = true
  guar := Unblocking
  env o s s' := (∀ w, o = some w → Calm w s s') ∧ (o = none → Given s → Given s')
  loose := Loose
  inv := Given

section Stretches

variable {w : Who Op} {s s₁ s₂ : Shared × History}

lemma Course.refl (w : Who Op) (s : Shared × History) : Course w s s :=
  ⟨rfl, id, fun _ => id, fun _ => .inl⟩

lemma Course.trans (h : Course w s s₁) (h' : Course w s₁ s₂) : Course w s s₂ := by
  refine ⟨h'.killSwitch.trans h.killSwitch, h'.recorded ∘ h.recorded,
    List.Subset.trans h.kept h'.kept, fun e he => ?_⟩
  rcases h'.escapes e he with he | he
  · exact h.escapes e he
  · exact .inr he

lemma Course.foreign_iff (hs : Course w s s₁) : foreign w s₁ = true ↔ foreign w s = true := by
  simp only [foreign, List.any_eq_true, decide_eq_true_eq]
  constructor
  · rintro ⟨e, he, hne⟩
    exact ⟨e, (hs.escapes e he).resolve_right hne, hne⟩
  · rintro ⟨e, he, hne⟩
    exact ⟨e, hs.kept he, hne⟩

lemma Course.of_eq (hkill : s₁.1.killSwitch = s.1.killSwitch)
    (hreadiness : s₁.1.readiness = s.1.readiness) (hgone : s₁.1.cancelled = s.1.cancelled)
    (hlog : s₁.2.escapes = s.2.escapes) : Course w s s₁ where
  killSwitch := hkill
  recorded h := by
    intro e he
    rw [hlog] at he
    rw [hreadiness, hgone]
    exact h e he
  kept := by rw [hlog]; exact fun _ => id
  escapes e he := .inl (hlog ▸ he)

lemma Along.trans (h : Along w s s₁) (h' : Along w s₁ s₂) : Along w s s₂ :=
  ⟨h.toCourse.trans h'.toCourse, h'.state.trans h.state⟩

lemma Calm.refl (w : Who Op) (s : Shared × History) : Calm w s s :=
  ⟨⟨.refl w s, rfl⟩, rfl, id, fun _ _ _ => id, fun _ _ => .inl rfl⟩

lemma Calm.trans (h : Calm w s s₁) (h' : Calm w s₁ s₂) : Calm w s s₂ where
  toAlong := h.toAlong.trans h'.toAlong
  readiness := h'.readiness.trans h.readiness
  off := h'.off ∘ h.off
  narrows hw hf hkill hp :=
    h'.narrows hw (h.foreign_iff.2 hf) (h.killSwitch.trans hkill) (h.narrows hw hf hkill hp)
  lifts hw hp := by
    rcases h.lifts hw hp with heq | hoff
    · rw [← heq]
      exact h'.lifts hw (heq ▸ hp)
    · exact .inr (h'.off hoff)

lemma Calm.of_eq (h : Course w s s₁) (hpolicy : s₁.1.policy = s.1.policy)
    (hstate : s₁.1.state = s.1.state) (hreadiness : s₁.1.readiness = s.1.readiness) :
    Calm w s s₁ :=
  ⟨⟨h, hstate⟩, hreadiness, hpolicy.trans, fun _ _ _ hp => hpolicy ▸ hp, fun _ _ => .inl hpolicy⟩

lemma Loose.refl (s : Shared × History) : Loose s s := ⟨le_rfl, fun _ _ => id⟩

lemma Loose.trans (h : Loose s s₁) (h' : Loose s₁ s₂) : Loose s s₂ :=
  ⟨h.readiness.trans h'.readiness,
    fun r hr hgone => h'.cancelled r (hr.trans h.readiness) (h.cancelled r hr hgone)⟩

lemma Loose.of_eq (hreadiness : s₁.1.readiness = s.1.readiness)
    (hgone : s₁.1.cancelled = s.1.cancelled) : Loose s s₁ :=
  ⟨hreadiness.ge, fun _ _ h => by rwa [hgone]⟩

lemma Unblocked.of_policy (h : Unblocked s) (hkill : s₁.1.killSwitch = s.1.killSwitch)
    (hstate : s₁.1.state = s.1.state) (hoff : s.1.policy = .off → s₁.1.policy = .off) :
    Unblocked s₁ := by
  intro hk
  rw [hstate]
  exact (h (hkill.symm.trans hk)).imp_left hoff

lemma Given.calm (h : Given s) (hs : Calm w s s₁) : Given s₁ :=
  ⟨h.unblocked.of_policy hs.killSwitch hs.state hs.off, hs.recorded h.recorded⟩

end Stretches

lemma blockRules_laws : blockRules.Laws where
  guar_refl _ _ h h' := absurd h h'
  env_refl _ s := ⟨fun w _ => .refl w s, fun _ => id⟩
  loose_refl := Loose.refl
  env_trans w _ _ _ h h' := by
    refine ⟨fun w' hw => ?_, fun hw => absurd hw (by simp)⟩
    cases hw
    exact (h.1 _ rfl).trans (h'.1 _ rfl)
  loose_trans _ _ _ := Loose.trans
  inv_env _ _ h h' := h'.2 rfl h

/-! ### With the lock -/

section Held

variable {w : Who Op} {s s₁ s₂ : Shared × History} {α : Type} {n : Name}

/-- The operation may take the policy from Off after every escape there was. -/
def AllExempt (w : Who Op) (s : Shared × History) : Prop := ∀ e ∈ s.2.escapes, Exempt w e

lemma AllExempt.course (h : AllExempt w s) (hs : Course w s s₁) : AllExempt w s₁ := by
  intro e he
  rcases hs.escapes e he with he | hholder
  · exact h e he
  · exact .inl hholder

lemma allExempt_of_not_foreign (h : foreign w s = false) : AllExempt w s := by
  intro e he
  simp only [foreign, List.any_eq_false, decide_eq_true_eq, not_not] at h
  exact .inl (h e he)

/-- What lets the holder install a policy: it may, or it narrows the one in force. -/
def Arms (w : Who Op) (s : Shared × History) : Prop :=
  AllExempt w s ∨ (w.kind = .failsafeStop ∧ s.1.killSwitch = true ∧ s.1.policy ≠ .off)

lemma Arms.calm (h : Arms w s) (hs : Calm w s s₁) : Arms w s₁ := by
  rcases h with hall | ⟨hw, hkill, hp⟩
  · exact .inl (hall.course hs.toCourse)
  · cases hf : foreign w s with
    | false => exact .inl ((allExempt_of_not_foreign hf).course hs.toCourse)
    | true => exact .inr ⟨hw, hs.killSwitch.trans hkill, hs.narrows hw hf hkill hp⟩

/-- With the switch off, nothing is blocked. -/
def Settled (s : Shared × History) : Prop := s.1.killSwitch = false → s.1.policy = .off

lemma Settled.calm (h : Settled s) (hs : Calm w s s₁) : Settled s₁ :=
  fun hkill => hs.off (h (hs.killSwitch.symm.trans hkill))

lemma Settled.unblocked (h : Settled s) : Unblocked s := fun hkill => .inl (h hkill)

lemma settled_of_killSwitch (h : s.1.killSwitch = true) : Settled s :=
  fun hkill => absurd (h.symm.trans hkill) (by simp)

lemma safe_own {enabled : Shared → Bool} {f : Bool → Shared → α × Shared}
    {Q : Bool → α → Shared × History → Prop} (hn : ∀ s h, note ⟨w, some w, n⟩ s h = h)
    (hguar : ∀ s₁ coin, Calm w s s₁ → Unblocking w s₁ ((f coin s₁.1).2, s₁.2))
    (hloose : ∀ s₁ coin, Loose s₁ ((f coin s₁.1).2, s₁.2))
    (h : ∀ s₁ coin, Calm w s s₁ → blockCond ⟨w, some w, n⟩ s₁ = true →
      Q true (f coin s₁.1).1 ((f coin s₁.1).2, s₁.2)) :
    Safe controller blockRules w (.act n enabled f .ret) true Q s := by
  intro s₁ hrely _ o ho hcond coin
  obtain rfl := ho.1 rfl
  have hs : Calm w s s₁ := hrely.1 w rfl
  have hafter : controller.after w (some w) n s₁ (f coin s₁.1).2 = ((f coin s₁.1).2, s₁.2) :=
    Prod.ext rfl (hn _ _)
  rw [hafter]
  exact ⟨⟨hguar s₁ coin hs, hloose s₁ coin, fun hne => absurd rfl hne⟩, h s₁ coin hs hcond⟩

/-- What a quiet step leaves alone. -/
def quietPart (s : Shared) := (s.killSwitch, s.policy, s.state, s.readiness, s.cancelled)

lemma safe_quiet {enabled : Shared → Bool} {f : Bool → Shared → α × Shared}
    {Q : Bool → α → Shared × History → Prop} (hn : note ⟨w, some w, n⟩ = fun _ h => h)
    (hsame : ∀ coin s, quietPart (f coin s).2 = quietPart s)
    (h : ∀ a s', Calm w s s' → Q true a s') :
    Safe controller blockRules w (.act n enabled f .ret) true Q s := by
  simp only [quietPart, Prod.mk.injEq] at hsame
  refine safe_own (fun s h => congrFun (congrFun hn s) h)
    (fun s₁ coin _ hoff hp => absurd ((hsame coin s₁.1).2.1.trans hoff) hp)
    (fun s₁ coin => .of_eq (hsame _ _).2.2.2.1 (hsame _ _).2.2.2.2) fun s₁ coin hs _ => ?_
  obtain ⟨hkill, hpolicy, hstate, hreadiness, hgone⟩ := hsame coin s₁.1
  exact h _ _ (hs.trans (.of_eq (.of_eq hkill hreadiness hgone rfl) hpolicy hstate hreadiness))

lemma safe_load {r : Shared → α} {Q : Bool → α → Shared × History → Prop}
    (hn : note ⟨w, some w, n⟩ = fun _ h => h)
    (h : ∀ s', Calm w s s' → blockCond ⟨w, some w, n⟩ s' = true → Q true (r s'.1) s') :
    Safe controller blockRules w (.load n r) true Q s :=
  safe_own (fun s h => congrFun (congrFun hn s) h) (fun _ _ _ hoff hp => absurd hoff hp)
    (fun s₁ _ => .refl s₁) fun s₁ _ hs hcond => h s₁ hs hcond

lemma safe_toss {Q : Bool → Bool → Shared × History → Prop}
    (h : ∀ coin s', Calm w s s' → Q true coin s') :
    Safe controller blockRules w (.toss .step) true Q s :=
  safe_quiet rfl (fun _ _ => rfl) h

variable {Q : Bool → Unit → Shared × History → Prop}

lemma safe_setState {t : TunnelState}
    (h : ∀ s', Course w s s' → (Settled s → Settled s') → s'.1.state = t → Q true () s') :
    Safe controller blockRules w (setState t) true Q s := by
  refine safe_own (fun _ _ => rfl) (fun _ _ _ hoff hp => absurd hoff hp)
    (fun _ _ => .of_eq rfl rfl) fun s₁ _ hs _ => ?_
  refine h _ (hs.toCourse.trans (.of_eq rfl rfl rfl rfl)) (fun hset => ?_) rfl
  have hset₁ : Settled s₁ := hset.calm hs
  exact hset₁

lemma safe_cancelConnectingWatchdog (h : ∀ s', Calm w s s' → Q true () s') :
    Safe controller blockRules w cancelConnectingWatchdogLocked true Q s :=
  safe_quiet rfl (fun _ _ => rfl) fun _ => h

lemma safe_armConnectingWatchdog (h : ∀ s', Calm w s s' → Q true () s') :
    Safe controller blockRules w armConnectingWatchdogLocked true Q s := by
  refine Safe.bind (safe_cancelConnectingWatchdog fun s₁ hs₁ => ?_)
  exact safe_quiet rfl (fun _ _ => rfl) fun _ s₂ hs₂ => h s₂ (hs₁.trans hs₂)

/-- What a transition of the policy leaves. -/
structure Applied (w : Who Op) (p : WfpState) (s s' : Shared × History) : Prop
    extends Along w s s' where
  lifted : p = .off → s'.1.policy = .off

lemma safe_applyWfpLocked {p : WfpState} {Q : Bool → Bool → Shared × History → Prop}
    (harms : p ≠ .off → Arms w s) (h : ∀ ok s', Applied w p s s' → Q true ok s') :
    Safe controller blockRules w (applyWfpLocked p) true Q s := by
  refine Safe.bind (safe_cancelConnectingWatchdog fun s₁ hs₁ => ?_)
  -- the new policy is no part of a stretch
  have halong : ∀ {s₂ q}, Calm w s₁ s₂ → Along w s ({ s₂.1 with policy := q }, s₂.2) := by
    intro s₂ q hs₂
    have hs := (hs₁.trans hs₂).toAlong
    exact ⟨⟨hs.killSwitch, hs.recorded, hs.kept, hs.escapes⟩, hs.state⟩
  refine Safe.ite (fun hp => ?_) fun hp => ?_
  · refine Safe.bind (safe_own (fun _ _ => rfl) (fun _ _ _ _ hne => absurd rfl hne)
      (fun _ _ => .of_eq rfl rfl) fun s₂ _ hs₂ _ => ?_)
    exact h _ _ ⟨halong hs₂, fun _ => rfl⟩
  · refine Safe.bind (safe_own (fun _ _ => rfl) (fun s₂ ok hs₂ hoff hne => ?_)
      (fun _ _ => .of_eq rfl rfl) fun s₂ ok hs₂ _ => ?_)
    · rcases ((harms hp).calm hs₁).calm hs₂ with hall | ⟨-, -, hpolicy⟩
      · exact hall
      · exact absurd hoff hpolicy
    · have hs := halong (q := if ok then p else s₂.1.policy) hs₂
      refine Safe.ite (fun _ => Safe.bind (safe_armConnectingWatchdog fun s₃ hs₃ => ?_)) fun _ => ?_
      · exact h _ _ ⟨hs.trans hs₃.toAlong, fun hp' => absurd hp' hp⟩
      · exact h _ _ ⟨hs, fun hp' => absurd hp' hp⟩

lemma safe_revertMachineState {finalDisarm hadRoutes : Bool}
    (hmay : finalDisarm = false → AllExempt w s ∨ w.kind = .failsafeStop)
    (h : ∀ s', Along w s s' → Settled s' → Q true () s') :
    Safe controller blockRules w (revertMachineStateLocked finalDisarm hadRoutes) true Q s := by
  refine Safe.bind (safe_quiet rfl (fun _ _ => rfl) fun _ s₁ hs₁ => ?_)
  have hlift : ∀ {s₂}, Calm w s s₂ →
      Safe controller blockRules w (do let _ ← applyWfpLocked .off) true Q s₂ := by
    intro s₂ hs₂
    refine Safe.bind (safe_applyWfpLocked (fun hne => absurd rfl hne) fun _ s₃ hs₃ => ?_)
    exact h _ (hs₂.toAlong.trans hs₃.toAlong) fun _ => hs₃.lifted rfl
  have harm : ∀ {s₂}, Calm w s s₂ → s₂.1.killSwitch = true → Arms w s₂ →
      Safe controller blockRules w (do let _ ← applyWfpLocked .armed) true Q s₂ := by
    intro s₂ hs₂ hkill harms
    refine Safe.bind (safe_applyWfpLocked (fun _ => harms) fun _ s₃ hs₃ => ?_)
    exact h _ (hs₂.toAlong.trans hs₃.toAlong)
      (settled_of_killSwitch (hs₃.killSwitch.trans hkill))
  refine Safe.ite (fun _ => hlift hs₁) fun hfinal => ?_
  have hmay₁ : AllExempt w s₁ ∨ w.kind = .failsafeStop :=
    (hmay (by simpa using hfinal)).imp_left fun hall => hall.course hs₁.toCourse
  -- the last look lifts whatever is still in force
  have hlast : ∀ {s₂}, Calm w s s₂ →
      Safe controller blockRules w (do
        let held ← inForce .step
        if held then do
          let _ ← applyWfpLocked .off
        else pure ()) true Q s₂ := by
    intro s₂ hs₂
    refine Safe.bind (safe_load rfl fun s₃ hs₃ _ => ?_)
    refine Safe.ite (fun _ => hlift (hs₂.trans hs₃)) fun hheld => ?_
    exact h _ (hs₂.trans hs₃).toAlong fun _ => by simpa using hheld
  refine Safe.bind (safe_load rfl fun s₂ hs₂ _ => ?_)
  have hs₂' := hs₁.trans hs₂
  refine Safe.bind (Safe.andThen (fun hon => ?_) fun hon => ?_)
  · refine safe_load rfl fun s₃ hs₃ hcond => ?_
    have hs₃' := hs₂'.trans hs₃
    have hkill : s₃.1.killSwitch = true := hs₃.killSwitch.trans hon
    have hmay₃ : AllExempt w s₃ ∨ w.kind = .failsafeStop :=
      hmay₁.imp_left fun hall => hall.course (hs₂.trans hs₃).toCourse
    refine Safe.ite (fun hheld => harm hs₃' hkill ?_) fun hheld => ?_
    · exact hmay₃.imp_right fun hw => ⟨hw, hkill, by simpa using hheld⟩
    have hoff : s₃.1.policy = .off := by simpa using hheld
    refine Safe.bind (safe_load rfl fun s₄ hs₄ _ => ?_)
    have hs₄' := hs₃'.trans hs₄
    refine Safe.ite (fun hroutes => harm hs₄' (hs₄.killSwitch.trans hkill) ?_) fun _ => hlast hs₄'
    -- a failsafe that found nothing in force has no escape behind it
    obtain rfl : hadRoutes = true := by
      simp only [Bool.and_eq_true] at hroutes
      exact hroutes.2
    rcases hmay₃ with hall | hw
    · exact .inl (hall.course hs₄.toCourse)
    · have hf : foreign w s₃ = false := by simpa [blockCond, hw, hoff] using hcond
      exact .inl ((allExempt_of_not_foreign hf).course hs₄.toCourse)
  · have hkill : s₂.1.killSwitch = false := hon
    refine Safe.ite (fun hheld => absurd hheld (by simp)) fun _ => ?_
    refine Safe.bind (safe_load rfl fun s₄ hs₄ _ => ?_)
    have hkill₄ : s₄.1.killSwitch = false := hs₄.killSwitch.trans hkill
    refine Safe.ite (fun hroutes => absurd hroutes (by simp [hkill₄])) fun _ => ?_
    exact hlast (hs₂'.trans hs₄)

lemma safe_cancel {r : ℕ} (h : ∀ s', Course w s s' → (Settled s → Settled s') → Q true () s') :
    Safe controller blockRules w (cancel r) true Q s := by
  refine Safe.perform fun s₁ hrely o ho _ _ => ?_
  obtain rfl := ho.1 rfl
  have hs : Calm w s s₁ := hrely.1 w rfl
  refine ⟨⟨fun hoff hne => absurd hoff hne, ⟨le_rfl, fun r' _ hgone => ?_⟩,
    fun hne => absurd rfl hne⟩, h _ (hs.toCourse.trans ⟨rfl, fun hrec e he => ?_, ?_, ?_⟩) ?_⟩
  · simp [System.after, Function.update_apply, hgone]
  · obtain ⟨hle, hgone⟩ := hrec e he
    exact ⟨hle, fun hne => by simp [System.after, Function.update_apply, hgone hne]⟩
  · exact fun _ => id
  · exact fun _ => .inl
  · intro hset
    have hset₁ : Settled s₁ := hset.calm hs
    exact hset₁

lemma safe_cancelCapture {Q : Bool → ℕ → Shared × History → Prop}
    (h : ∀ r s', Course w s s' → Q true r s') :
    Safe controller blockRules w cancelCapture true Q s := by
  refine Safe.bind (safe_load rfl fun s₁ hs₁ _ => ?_)
  refine Safe.ite (fun _ => h _ _ hs₁.toCourse) fun _ => ?_
  exact Safe.bind (safe_cancel fun s₂ hs₂ _ => h _ _ (hs₁.toCourse.trans hs₂))

lemma safe_stopLocked {finalDisarm : Bool}
    (hmay : finalDisarm = false → AllExempt w s ∨ w.kind = .failsafeStop)
    (h : ∀ s', Course w s s' → Settled s' → Q true () s') :
    Safe controller blockRules w (stopLocked finalDisarm) true Q s := by
  refine Safe.bind (safe_cancelCapture fun _ s₁ hs₁ => ?_)
  refine Safe.bind (safe_own (fun _ _ => rfl) (fun s₂ _ _ hoff hne => ?_) (fun s₂ _ => ?_)
    fun s₂ _ hs₂ _ => ?_)
  · exact absurd (by simpa [apply_ite Shared.policy] using hoff) hne
  · exact .of_eq (by simp [apply_ite Shared.readiness]) (by simp [apply_ite Shared.cancelled])
  have hs₂' : Course w s₂ ((if s₂.1.state.isSessionLive ∨ s₂.1.state = .starting then
      { s₂.1 with state := .stopping } else s₂.1), s₂.2) :=
    .of_eq (by simp [apply_ite Shared.killSwitch]) (by simp [apply_ite Shared.readiness])
      (by simp [apply_ite Shared.cancelled]) rfl
  have hs := (hs₁.trans hs₂.toCourse).trans hs₂'
  refine Safe.bind (safe_revertMachineState (fun hfinal => ?_) fun s₃ hs₃ hset => ?_)
  · exact (hmay hfinal).imp_left fun hall => hall.course hs
  · refine safe_setState fun s₄ hs₄ hset' _ => h _ ?_ (hset' hset)
    exact (hs.trans hs₃.toCourse).trans hs₄

lemma safe_failLocked (hall : AllExempt w s) (h : ∀ s', Course w s s' → Settled s' → Q true () s') :
    Safe controller blockRules w failLocked true Q s := by
  refine Safe.bind (safe_setState fun s₁ hs₁ _ _ => ?_)
  refine Safe.bind (safe_stopLocked (fun _ => .inl (hall.course hs₁)) fun s₂ hs₂ hset₂ => ?_)
  exact safe_setState fun s₃ hs₃ hset₃ _ => h s₃ ((hs₁.trans hs₂).trans hs₃) (hset₃ hset₂)

lemma given_of_settled {s' : Shared × History} (hs : Course w s s') (hrec : Recorded s)
    (hset : Settled s') : Given s' :=
  ⟨hset.unblocked, hs.recorded hrec⟩

lemma safe_mayFail (hall : AllExempt w s) (hgiven : Given s) (h : ∀ s', Given s' → Q true () s') :
    Safe controller blockRules w mayFail true Q s := by
  refine Safe.bind (safe_toss fun _ s₁ hs₁ => ?_)
  refine Safe.ite (fun _ => ?_) fun _ => h s₁ (hgiven.calm hs₁)
  refine safe_failLocked (hall.course hs₁.toCourse) fun s₂ hs₂ hset => h s₂ ?_
  exact given_of_settled (hs₁.toCourse.trans hs₂) hgiven.recorded hset

/-! ### The capture -/

lemma safe_current {r : ℕ} {Q : Bool → Bool → Shared × History → Prop}
    (h : ∀ fresh s', Calm w s s' → Q true fresh s') :
    Safe controller blockRules w (current r) true Q s :=
  safe_quiet rfl (fun _ _ => rfl) h

lemma safe_applyStage {stage : CaptureStage} {Q : Bool → Bool → Shared × History → Prop}
    (hall : AllExempt w s) (h : ∀ threw s', Along w s s' → Q true threw s') :
    Safe controller blockRules w (applyStage stage) true Q s := by
  cases stage with
  | prepare => exact safe_toss fun threw s' hs' => h threw s' hs'.toAlong
  | firewall =>
    refine Safe.bind (safe_toss fun _ s₁ hs₁ => ?_)
    refine Safe.ite (fun _ => h true s₁ hs₁.toAlong) fun _ => ?_
    refine Safe.bind (safe_applyWfpLocked (fun _ => .inl (hall.course hs₁.toCourse))
      fun ok s₂ hs₂ => ?_)
    have hs₂' := hs₁.toAlong.trans hs₂.toAlong
    refine Safe.ite (fun _ => h false s₂ hs₂') fun _ => ?_
    exact safe_load rfl fun s₃ hs₃ _ => h _ s₃ (hs₂'.trans hs₃.toAlong)
  | network =>
    exact safe_quiet rfl (fun _ _ => rfl) fun threw s' hs' => h threw s' hs'.toAlong
  | connected =>
    refine Safe.bind (safe_load rfl fun s₁ hs₁ _ => ?_)
    refine Safe.ite (fun _ => ?_) fun _ => h false s₁ hs₁.toAlong
    refine Safe.bind (safe_applyWfpLocked (fun _ => .inl (hall.course hs₁.toCourse))
      fun ok s₂ hs₂ => ?_)
    exact h _ s₂ (hs₁.toAlong.trans hs₂.toAlong)

lemma safe_rollback {r : ℕ} (hall : AllExempt w s) (h : ∀ s', Along w s s' → Q true () s') :
    Safe controller blockRules w (rollback r) true Q s := by
  refine Safe.bind (safe_load rfl fun s₁ hs₁ _ => ?_)
  refine Safe.bind (safe_revertMachineState (fun _ => .inl (hall.course hs₁.toCourse))
    fun s₂ hs₂ _ => ?_)
  refine Safe.bind (safe_load rfl fun s₃ hs₃ _ => ?_)
  have hs₃' := (hs₁.toAlong.trans hs₂).trans hs₃.toAlong
  -- whether the window opens again turns on two reads, and the capture may open it
  have hlast : ∀ (held : Bool) {s'}, Along w s s' → Safe controller blockRules w
      (if held then do let _ ← applyWfpLocked .connecting else pure ()) true Q s' := by
    intro held s' hs'
    refine Safe.ite (fun _ => ?_) fun _ => h s' hs'
    refine Safe.bind (safe_applyWfpLocked (fun _ => .inl (hall.course hs'.toCourse))
      fun _ s'' hs'' => ?_)
    exact h s'' (hs'.trans hs''.toAlong)
  have hreopen : ∀ (on : Bool) {s'}, Along w s s' → Safe controller blockRules w (do
      let held ← .andThen on (inForce .step)
      if held then do
        let _ ← applyWfpLocked .connecting
      else pure ()) true Q s' := by
    intro on s' hs'
    refine Safe.bind (Safe.andThen (fun _ => ?_) fun _ => hlast false hs')
    exact safe_load rfl fun s'' hs'' _ => hlast _ (hs'.trans hs''.toAlong)
  refine Safe.bind (Safe.andThen (fun _ => ?_) fun _ => hreopen false hs₃')
  exact safe_load rfl fun s₄ hs₄ _ => hreopen _ (hs₃'.trans hs₄.toAlong)

lemma safe_applyStages {r : ℕ} (stages : List CaptureStage) :
    ∀ {s} {Q : Bool → CaptureExitKind → Shared × History → Prop}, AllExempt w s →
      (∀ ended s', Along w s s' → Q true ended s') →
      Safe controller blockRules w (applyStages r stages) true Q s := by
  induction stages with
  | nil =>
    intro s Q hall h
    refine Safe.bind (safe_current fun _ s₁ hs₁ => ?_)
    refine Safe.ite (fun _ => h _ s₁ hs₁.toAlong) fun _ => ?_
    refine Safe.bind (safe_rollback (hall.course hs₁.toCourse) fun s₂ hs₂ => ?_)
    exact h _ s₂ (hs₁.toAlong.trans hs₂)
  | cons stage stages ih =>
    intro s Q hall h
    refine Safe.bind (safe_current fun _ s₁ hs₁ => ?_)
    have hall₁ := hall.course hs₁.toCourse
    refine Safe.ite (fun _ => ?_) fun _ => ?_
    · refine Safe.bind (safe_applyStage hall₁ fun _ s₂ hs₂ => ?_)
      have hall₂ := hall₁.course hs₂.toCourse
      have hs₂' := hs₁.toAlong.trans hs₂
      refine Safe.ite (fun _ => ?_) fun _ => ih hall₂ fun ended s₃ hs₃ => h _ s₃ (hs₂'.trans hs₃)
      exact Safe.bind (safe_rollback hall₂ fun s₃ hs₃ => h _ s₃ (hs₂'.trans hs₃))
    · exact Safe.bind (safe_rollback hall₁ fun s₂ hs₂ => h _ s₂ (hs₁.toAlong.trans hs₂))

lemma safe_bringUpTunnelLocked {r : ℕ} {Q : Bool → CaptureExitKind → Shared × History → Prop}
    (hall : AllExempt w s) (h : ∀ ended s', Along w s s' → Q true ended s') :
    Safe controller blockRules w (bringUpTunnelLocked r) true Q s := by
  refine Safe.bind (safe_toss fun _ s₁ hs₁ => ?_)
  refine Safe.ite (fun _ => h _ s₁ hs₁.toAlong) fun _ => ?_
  refine Safe.bind (safe_current fun _ s₂ hs₂ => ?_)
  have hs₂' := (hs₁.trans hs₂).toAlong
  refine Safe.ite (fun _ => ?_) fun _ => h _ s₂ hs₂'
  exact safe_applyStages _ (hall.course hs₂'.toCourse) fun ended s₃ hs₃ => h _ s₃ (hs₂'.trans hs₃)

lemma safe_settle {r : ℕ} {ended : CaptureExitKind} (hall : AllExempt w s) (hrec : Recorded s)
    (hstate : s.1.state = .preparing) (h : ∀ s', Given s' → Q true () s') :
    Safe controller blockRules w (settle r ended) true Q s := by
  cases ended with
  | threw =>
    refine Safe.bind (safe_stopLocked (fun _ => .inl hall) fun s₁ hs₁ hset₁ => ?_)
    exact safe_setState fun s₂ hs₂ hset₂ _ =>
      h s₂ (given_of_settled (hs₁.trans hs₂) hrec (hset₂ hset₁))
  | returned result =>
    refine Safe.bind (safe_load rfl fun s₁ hs₁ _ => ?_)
    have hgiven₁ : Given s₁ :=
      ⟨fun _ => .inr (.inr (hs₁.state.trans hstate)), hs₁.recorded hrec⟩
    have hall₁ := hall.course hs₁.toCourse
    refine Safe.ite (fun _ => h s₁ hgiven₁) fun _ => ?_
    refine Safe.ite (fun _ => safe_mayFail hall₁ hgiven₁ h) fun _ => ?_
    refine Safe.bind (safe_setState fun s₂ hs₂ _ hup => ?_)
    exact safe_mayFail (hall₁.course hs₂)
      ⟨fun _ => .inr (.inl hup), hs₂.recorded hgiven₁.recorded⟩ h

lemma allExempt_of_current {r : ℕ} (hw : w.kind = .activateCapture r) (hr : 0 < r)
    (hrec : Recorded s) (hlive : s.1.cancelled r = false) (hs : Calm w s s₁)
    (hours : s₁.1.readiness = r) : AllExempt w s₁ := by
  intro e he
  rcases hs.escapes e he with he | hholder
  · obtain ⟨hle, hgone⟩ := hrec e he
    rw [← hs.readiness, hours] at hle
    refine .inr (.inr ⟨r, hw, lt_of_le_of_ne hle ?_⟩)
    rintro rfl
    exact absurd (hgone (by omega)) (by simp [hlive])
  · exact .inl hholder

lemma safe_activateLocked {r : ℕ} (hw : w.kind = .activateCapture r) (hr : 0 < r)
    (hgiven : Given s) (h : ∀ s', Given s' → Q true () s') :
    Safe controller blockRules w (activateLocked r) true Q s := by
  refine Safe.bind (safe_load rfl fun s₁ hs₁ _ => ?_)
  refine Safe.bind (safe_load rfl fun s₂ hs₂ _ => ?_)
  have hgiven₂ := (hgiven.calm hs₁).calm hs₂
  refine Safe.ite (fun _ => h s₂ hgiven₂) fun hgo => ?_
  obtain ⟨hlive, hours, hstate⟩ : s₁.1.cancelled r = false ∧ s₂.1.readiness = r ∧
      s₂.1.state = .preparing := by
    simpa [not_or] using hgo
  have hall := allExempt_of_current hw hr (hgiven.calm hs₁).recorded hlive hs₂ hours
  refine Safe.bind (safe_bringUpTunnelLocked hall fun ended s₃ hs₃ => ?_)
  exact safe_settle (hall.course hs₃.toCourse) (hs₃.recorded hgiven₂.recorded)
    (hs₃.state.trans hstate) h

/-! ### A start and a switch -/

lemma allExempt_of_isStart (hw : w.kind.isStart = true) (s : Shared × History) : AllExempt w s :=
  fun _ _ => .inr (.inl hw)

lemma safe_adopt {killSwitch : Bool} (hw : w.kind.isStart = true)
    {Q : Bool → ℕ → Shared × History → Prop} (hrec : Recorded s)
    (h : ∀ r s', Recorded s' → Settled s' → Q true r s') :
    Safe controller blockRules w (adopt killSwitch) true Q s := by
  refine Safe.bind (Safe.perform fun s₁ hrely₁ o ho _ _ => ?_)
  obtain rfl := ho.1 rfl
  have hrec₁ : Recorded s₁ := (hrely₁.1 w rfl).recorded hrec
  refine ⟨⟨fun hoff hne => absurd hoff hne, .of_eq rfl rfl, fun hne => absurd rfl hne⟩, ?_⟩
  refine Safe.bind (safe_own (fun _ _ => ?_) (fun _ _ _ hoff hne => absurd hoff hne)
    (fun _ _ => .of_eq rfl rfl) fun s₂ _ hs₂ _ => ?_)
  · simp [note]
  have hrec₂ : Recorded s₂ := hs₂.recorded hrec₁
  refine Safe.bind (safe_stopLocked (fun _ => .inl (allExempt_of_isStart hw _))
    fun s₃ hs₃ hset₃ => ?_)
  have hrec₃ : Recorded s₃ := hs₃.recorded hrec₂
  refine Safe.bind (Safe.perform fun s₄ hrely₄ o ho _ _ => ?_)
  obtain rfl := ho.1 rfl
  have hs₄ := hrely₄.1 w rfl
  have hrec₄ := hs₄.recorded hrec₃
  -- the new readiness is none of those a stop has cancelled
  refine ⟨⟨fun hoff hne => absurd hoff hne, ⟨Nat.le_succ _, fun r hr hgone => ?_⟩,
    fun hne => absurd rfl hne⟩, ?_⟩
  · have hne : r ≠ s₄.1.readiness + 1 := by omega
    simpa [System.after, hne] using hgone
  have hrec₅ : Recorded (controller.after w (some w) .publish s₄ { s₄.1 with
      readiness := s₄.1.readiness + 1
      cancelled := Function.update s₄.1.cancelled (s₄.1.readiness + 1) false }) := by
    intro e he
    obtain ⟨hle, hgone⟩ := hrec₄ e he
    refine ⟨Nat.le_succ_of_le hle, fun hne => ?_⟩
    have hne' : e.readiness ≠ s₄.1.readiness + 1 := by omega
    simpa [System.after, hne'] using hgone hne
  have hset₄ : Settled s₄ := hset₃.calm hs₄
  refine Safe.bind (Safe.perform fun s₅ hrely₅ o ho _ _ => ?_)
  obtain rfl := ho.1 rfl
  have hs₅ := hrely₅.1 w rfl
  have hset₅ : Settled s₅ := Settled.calm (by exact hset₄) hs₅
  refine ⟨⟨fun hoff hne => absurd hoff hne, .of_eq rfl rfl, fun hne => absurd rfl hne⟩, ?_⟩
  refine Safe.ite (fun _ => h _ _ (hs₅.recorded hrec₅) hset₅) fun _ => ?_
  refine Safe.bind (safe_cancel fun s₆ hs₆ hset₆ => ?_)
  exact h _ _ (hs₆.recorded (hs₅.recorded hrec₅)) (hset₆ hset₅)

lemma safe_bringUp {r : ℕ} {rpcOnly : Bool} (hw : w.kind.isStart = true) (hrec : Recorded s)
    (hset : Settled s) (h : ∀ s', Given s' → Q true () s') :
    Safe controller blockRules w (bringUp r rpcOnly) true Q s := by
  refine Safe.bind (safe_toss fun _ s₁ hs₁ => ?_)
  have hrec₁ := hs₁.recorded hrec
  refine Safe.ite (fun _ => ?_) fun _ => ?_
  · exact safe_failLocked (allExempt_of_isStart hw _) fun s₂ hs₂ hset₂ =>
      h s₂ (given_of_settled hs₂ hrec₁ hset₂)
  refine Safe.bind (Safe.perform fun s₂ hrely₂ o ho _ _ => ?_)
  obtain rfl := ho.1 rfl
  have hs₂ := hrely₂.1 w rfl
  refine ⟨⟨fun hoff hne => absurd hoff hne, .of_eq rfl rfl, fun hne => absurd rfl hne⟩, ?_⟩
  have hrec₂ : Recorded s₂ := hs₂.recorded hrec₁
  have hset₂ : Settled s₂ := (hset.calm hs₁).calm hs₂
  refine Safe.ite (fun _ => ?_) fun _ => ?_
  · refine safe_stopLocked (by simp) fun s₃ hs₃ hset₃ => h s₃ ⟨hset₃.unblocked, ?_⟩
    exact hs₃.recorded hrec₂
  · refine Safe.bind (safe_setState fun s₃ hs₃ hset₃ _ => ?_)
    refine safe_mayFail (allExempt_of_isStart hw _) ⟨?_, hs₃.recorded hrec₂⟩ h
    exact (hset₃ hset₂).unblocked

lemma safe_startLocked {killSwitch rpcOnly : Bool} (hw : w.kind.isStart = true)
    (hrec : Recorded s) (h : ∀ s', Given s' → Q true () s') :
    Safe controller blockRules w (startLocked killSwitch rpcOnly) true Q s := by
  refine Safe.bind (safe_adopt hw hrec fun r s₁ hrec₁ hset₁ => ?_)
  refine Safe.bind (safe_toss fun _ s₂ hs₂ => ?_)
  have hrec₂ := hs₂.recorded hrec₁
  have hset₂ := hset₁.calm hs₂
  refine Safe.ite (fun _ => ?_) fun _ => ?_
  · refine safe_setState fun s₃ hs₃ hset₃ _ => h s₃ ?_
    exact given_of_settled hs₃ hrec₂ (hset₃ hset₂)
  refine Safe.bind (safe_setState fun s₃ hs₃ hset₃ _ => ?_)
  have hrec₃ := hs₃.recorded hrec₂
  replace hset₃ := hset₃ hset₂
  refine Safe.bind (Safe.bind (Safe.andThen (fun _ => ?_) fun _ => ?_))
  · refine safe_load rfl fun s₄ hs₄ _ => ?_
    have hrec₄ := hs₄.recorded hrec₃
    have hset₄ := hset₃.calm hs₄
    refine Safe.ite (fun hheld => ?_) fun _ => safe_bringUp hw hrec₄ hset₄ h
    -- a policy is in force, so the switch is on
    have hkill : s₄.1.killSwitch = true := by
      by_contra hkill
      exact absurd (hset₄ (by simpa using hkill)) (by simpa using hheld)
    refine Safe.bind (safe_applyWfpLocked (fun _ => .inl (allExempt_of_isStart hw _))
      fun _ s₅ hs₅ => ?_)
    exact safe_bringUp hw (hs₅.recorded hrec₄)
      (settled_of_killSwitch (hs₅.killSwitch.trans hkill)) h
  · exact Safe.ite (fun hheld => absurd hheld (by simp)) fun _ => safe_bringUp hw hrec₃ hset₃ h

lemma safe_liftWhenDown (hw : w.kind = .setKillSwitch false) (hrec : Recorded s)
    (hpolicy : s.1.state = .up ∨ s.1.state = .preparing ∨ s.1.policy ≠ .connected)
    (h : ∀ s', Given s' → Q true () s') : Safe controller blockRules w liftWhenDown true Q s := by
  refine Safe.bind (safe_load rfl fun s₁ hs₁ _ => ?_)
  refine Safe.ite (fun hup => h s₁ ⟨fun _ => .inr (.inl (by simpa using hup)), hs₁.recorded hrec⟩)
    fun hdown => ?_
  refine Safe.bind (safe_load rfl fun s₂ hs₂ _ => ?_)
  have hs₂' := hs₁.trans hs₂
  have hlift : ∀ {s'}, Recorded s' →
      Safe controller blockRules w (do let _ ← applyWfpLocked .off) true Q s' := by
    intro s' hrec'
    refine Safe.bind (safe_applyWfpLocked (fun hne => absurd rfl hne) fun _ s'' hs'' => h s'' ?_)
    exact given_of_settled hs''.toCourse hrec' fun _ => hs''.lifted rfl
  refine Safe.bind (Safe.orElse (fun _ => ?_) fun harmed => ?_)
  · exact Safe.ite (fun _ => hlift (hs₂'.recorded hrec)) fun hf => absurd rfl hf
  refine safe_load rfl fun s₃ hs₃ _ => ?_
  have hs₃' := hs₂'.trans hs₃
  refine Safe.ite (fun _ => hlift (hs₃'.recorded hrec)) fun hconnecting => ?_
  refine h s₃ ⟨fun _ => ?_, hs₃'.recorded hrec⟩
  have hstate : s₃.1.state = s.1.state := hs₃'.state
  rcases hpolicy with hup | hprep | hne
  · exact .inr (.inl (hstate.trans hup))
  · exact .inr (.inr (hstate.trans hprep))
  · -- neither Armed at the first look nor Connecting at the second, and unmoved between them
    left
    have hne₂ : s₂.1.policy ≠ .connected := by
      rcases hs₂'.lifts hw hne with heq | hoff
      · rw [heq]
        exact hne
      · simp [hoff]
    rcases hs₃.lifts hw hne₂ with heq | hoff
    · cases hp : s₃.1.policy with
      | off => rfl
      | armed => exact absurd (heq.symm.trans hp) (by simpa using harmed)
      | connecting => exact absurd hp (by simpa using hconnecting)
      | connected => exact absurd (heq.symm.trans hp) hne₂
    · exact hoff

lemma safe_retryInstall (hw : w.kind = .setKillSwitch true) (hrec : Recorded s)
    (hkill : s.1.killSwitch = true) (h : ∀ s', Given s' → Q true () s') :
    Safe controller blockRules w retryInstall true Q s := by
  have hdone : ∀ {s'}, Course w s s' → Given s' := fun hs' =>
    given_of_settled hs' hrec (settled_of_killSwitch (hs'.killSwitch.trans hkill))
  refine Safe.bind (safe_load rfl fun s₁ hs₁ _ => ?_)
  refine Safe.bind (Safe.andThen (fun _ => ?_) fun _ => ?_)
  · refine safe_load rfl fun s₂ hs₂ hcond => ?_
    have hs₂' := hs₁.trans hs₂
    refine Safe.ite (fun hoff => ?_) fun _ => h s₂ (hdone hs₂'.toCourse)
    have hf : foreign w s₂ = false := by
      have hoff' : s₂.1.policy = .off := by simpa using hoff
      simpa [blockCond, hw, hoff'] using hcond
    refine Safe.bind (safe_applyWfpLocked (fun _ => .inl (allExempt_of_not_foreign hf))
      fun _ s₃ hs₃ => h s₃ (hdone (hs₂'.toCourse.trans hs₃.toCourse)))
  · exact Safe.ite (fun hoff => absurd hoff (by simp)) fun _ => h s₁ (hdone hs₁.toCourse)

lemma safe_setKillSwitchLocked {on : Bool} (hw : w.kind = .setKillSwitch on) (hgiven : Given s)
    (h : ∀ s', Given s' → Q true () s') :
    Safe controller blockRules w (setKillSwitchLocked on) true Q s := by
  refine Safe.bind (safe_load rfl fun s₁ hs₁ _ => ?_)
  refine Safe.ite (fun _ => h s₁ (hgiven.calm hs₁)) fun _ => ?_
  refine Safe.bind (safe_own (fun _ _ => rfl) (fun _ _ _ hoff hne => absurd hoff hne)
    (fun _ _ => .of_eq rfl rfl) fun s₂ _ hs₂ hcond => ?_)
  have hrec₂ : Recorded s₂ := (hs₁.trans hs₂).recorded hgiven.recorded
  refine Safe.ite (fun hon => ?_) fun hon => ?_
  · obtain rfl : on = true := hon
    exact safe_retryInstall hw hrec₂ rfl h
  · obtain rfl : on = false := by simpa using hon
    refine safe_liftWhenDown hw hrec₂ ?_ h
    simpa [blockCond, hw, or_assoc] using hcond

end Held

/-! ### Without the lock -/

section Unlocked

variable {w : Who Op} {s s₁ s₂ : Shared × History} {α : Type} {n : Name} {r : ℕ}

lemma allows_unlocked {o : Option (Who Op)} (hguar : Unblocking w s s₁) (hloose : Loose s s₁)
    (hcalm : ∀ w', o = some w' → Calm w' s s₁) (hgiven : Given s → Given s₁) :
    blockRules.Allows w o s s₁ :=
  ⟨hguar, hloose, fun _ => ⟨hcalm, fun _ => hgiven⟩⟩

lemma allows_of_calm {o : Option (Who Op)} (hguar : Unblocking w s s₁) (hloose : Loose s s₁)
    (hcalm : ∀ w', Calm w' s s₁) : blockRules.Allows w o s s₁ :=
  allows_unlocked hguar hloose (fun w' _ => hcalm w') fun hgiven => hgiven.calm (hcalm w)

/-- The stop has cancelled the readiness it found. -/
def Spent (r : ℕ) (s : Shared × History) : Prop :=
  r ≤ s.1.readiness ∧ (r ≠ 0 → s.1.cancelled r = true)

lemma Spent.loose (h : Spent r s) (hs : Loose s s₁) : Spent r s₁ :=
  ⟨h.1.trans hs.readiness, fun hr => hs.cancelled r h.1 (h.2 hr)⟩

lemma safe_bumpGeneration {Q : Bool → Unit → Shared × History → Prop} (h : ∀ s', Q false () s') :
    Safe controller blockRules w bumpGeneration false Q s := by
  refine Safe.perform fun s₁ _ o _ _ _ => ⟨?_, h _⟩
  exact allows_of_calm (fun hoff hne => absurd hoff hne) (.of_eq rfl rfl)
    fun w' => .of_eq (.of_eq rfl rfl rfl rfl) rfl rfl rfl

lemma safe_load_unlocked {f : Shared → α} {Q : Bool → α → Shared × History → Prop}
    (h : ∀ s', Loose s s' → Q false (f s'.1) s') :
    Safe controller blockRules w (.load .step f) false Q s :=
  Safe.load blockRules_laws (fun _ _ => rfl) fun s₁ hs₁ _ _ _ => h s₁ hs₁

lemma safe_cancelCapture_unlocked {Q : Bool → ℕ → Shared × History → Prop}
    (h : ∀ r s', Spent r s' → Q false r s') :
    Safe controller blockRules w cancelCapture false Q s := by
  refine Safe.bind (safe_load_unlocked fun s₁ _ => ?_)
  refine Safe.ite (fun hr => h _ _ ⟨le_rfl, fun hne => absurd hr hne⟩) fun _ => ?_
  generalize hr : s₁.1.readiness = r
  refine Safe.bind (Safe.perform fun s₂ hs₂ o _ _ _ => ?_)
  have hgone : ∀ r', s₂.1.cancelled r' = true →
      Function.update s₂.1.cancelled r true r' = true := by
    intro r' hr'
    simp [Function.update_apply, hr']
  refine ⟨allows_of_calm (fun hoff hne => absurd hoff hne) ⟨le_rfl, fun r' _ => hgone r'⟩
    fun w' => ?_, h _ _ ⟨hr ▸ hs₂.readiness, fun _ => by simp [System.after]⟩⟩
  refine .of_eq ⟨rfl, fun hrec e he => ?_, fun _ => id, fun _ => .inl⟩ rfl rfl rfl
  obtain ⟨hle, hcancelled⟩ := hrec e he
  exact ⟨hle, fun hne => hgone _ (hcancelled hne)⟩

/-- The history after a step of an escape: as it was, or with the escape. -/
def Escaped (o : Option (Who Op)) (r : ℕ) (h h' : History) : Prop :=
  h'.escapes = h.escapes ∨ h'.escapes = ⟨o.map (·.id), r⟩ :: h.escapes

lemma escaped_checkEscape (w : Who Op) (o : Option (Who Op)) (r : ℕ) (s : Shared) (h : History) :
    Escaped o r h (note ⟨w, o, .checkEscape r⟩ s h) := by
  by_cases hc : w.kind = .stop ∧ s.policy = .off
  · exact .inr (by simp [note, hc])
  · exact .inl (by simp [note, hc])

lemma escaped_revertEscape (w : Who Op) (o : Option (Who Op)) (r : ℕ) (s : Shared) (h : History) :
    Escaped o r h (note ⟨w, o, .revertEscape r⟩ s h) := by
  by_cases hc : w.kind = .stop
  · exact .inr (by simp [note, hc])
  · exact .inl (by simp [note, hc])

section Escapes

variable {o : Option (Who Op)} {p : WfpState} {h' : History} (hspent : Spent r s)
  (hlog : Escaped o r s.2 h')

include hspent hlog

lemma recorded_of_escaped (hrec : Recorded s) : Recorded ({ s.1 with policy := p }, h') := by
  intro e he
  rcases hlog with hlog | hlog
  · exact hrec e (hlog ▸ he)
  · rw [hlog] at he
    rcases List.mem_cons.1 he with rfl | he
    · exact hspent
    · exact hrec e he

lemma course_of_escaped {w' : Who Op} (ho : o = some w') :
    Course w' s ({ s.1 with policy := p }, h') := by
  refine ⟨rfl, recorded_of_escaped hspent hlog, ?_, fun e he => ?_⟩
  · rcases hlog with hlog | hlog
    · rw [hlog]
      exact fun _ => id
    · rw [hlog]
      exact List.subset_cons_self _ _
  · rcases hlog with hlog | hlog
    · exact .inl (hlog ▸ he)
    · rw [hlog] at he
      rcases List.mem_cons.1 he with rfl | he
      · exact .inr (by simp [ho])
      · exact .inl he

end Escapes

lemma safe_dropFirewallOnEscape (hw : w.kind.stops = true) (hspent : Spent r s)
    {Q : Bool → Unit → Shared × History → Prop} (h : ∀ s', Q false () s') :
    Safe controller blockRules w (dropFirewallOnEscape r) false Q s := by
  refine Safe.bind (safe_load_unlocked fun s₁ hs₁ => ?_)
  refine Safe.ite (fun _ => h _) fun _ => ?_
  have hspent₁ := hspent.loose hs₁
  refine Safe.bind (Safe.perform fun s₂ hs₂ o _ _ _ => ?_)
  have hspent₂ : Spent r s₂ := hspent₁.loose hs₂
  refine ⟨?_, ?_⟩
  · have hlog := escaped_checkEscape w o r s₂.1 s₂.2
    refine allows_unlocked (fun hoff hne => absurd hoff hne) (.of_eq rfl rfl) (fun w' ho => ?_)
      fun hgiven => ?_
    · exact .of_eq (course_of_escaped hspent₂ hlog ho) rfl rfl rfl
    · exact ⟨hgiven.unblocked, recorded_of_escaped hspent₂ hlog hgiven.recorded⟩
  refine Safe.ite (fun _ => Safe.perform fun s₃ hs₃ o _ hcond _ => ⟨?_, h _⟩) fun _ => h _
  have hspent₃ : Spent r s₃ := Spent.loose (by exact hspent₂) hs₃
  have hlog := escaped_revertEscape w o r s₃.1 s₃.2
  refine allows_unlocked (fun _ hne => absurd rfl hne) (.of_eq rfl rfl) (fun w' ho => ?_)
    fun hgiven => ⟨fun _ => .inl rfl, recorded_of_escaped hspent₃ hlog hgiven.recorded⟩
  refine ⟨⟨course_of_escaped hspent₃ hlog ho, rfl⟩, rfl, fun _ => rfl, fun hw' hf hkill _ => ?_,
    fun _ _ => .inr rfl⟩
  -- an escape whose look at the switch is out of date spares a failsafe that narrows
  have hcond' : blockCond ⟨w, some w', .revertEscape r⟩ s₃ = false := by
    rcases w with ⟨i, op⟩
    cases op <;> simp_all [blockCond, Op.stops, Op.deliberate]
  rw [ho] at hcond
  exact absurd (hcond'.symm.trans hcond) (by simp)

lemma safe_connectingWatchdog (hw : w.kind = .connectingWatchdog) :
    Owes controller blockRules w connectingWatchdog false s := by
  intro s₁ _ _ o _ _ _
  have hquiet : ∀ {s : Shared × History} {v : ConnectingWatchdog} {o : Option (Who Op)},
      blockRules.Allows w o s ({ s.1 with watchdog := v }, s.2) := by
    intro s v o
    exact allows_of_calm (fun hoff hne => absurd hoff hne) (.of_eq rfl rfl)
      fun w' => .of_eq (.of_eq rfl rfl rfl rfl) rfl rfl rfl
  refine ⟨hquiet, Safe.bind (Safe.perform fun s₂ _ o _ hcond ok => ⟨?_, ?_⟩)⟩
  · obtain ⟨hp, hholder⟩ : s₂.1.policy ≠ .off ∧ (s₂.1.policy ≠ .connecting ∨
        o.any (fun w' => w'.kind = .setKillSwitch false) = false) := by
      simpa [blockRules, blockCond, hw] using hcond
    refine allows_unlocked (fun hoff => absurd hoff hp) (.of_eq rfl rfl) (fun w' ho => ?_)
      fun hgiven => ?_
    · refine ⟨⟨.of_eq rfl rfl rfl rfl, rfl⟩, rfl, fun hoff => absurd hoff hp, fun _ _ _ _ => ?_,
        fun hw' hne => .inl ?_⟩
      · cases ok <;> simp [System.after, hp]
      · cases ok with
        | false => rfl
        | true =>
          cases hs₂ : s₂.1.policy with
          | armed => rfl
          | off => exact absurd hs₂ hp
          | connecting => exact absurd (hholder.resolve_left (by simp [hs₂])) (by simp [ho, hw'])
          | connected => exact absurd hs₂ hne
    · refine ⟨hgiven.unblocked.of_policy rfl rfl fun hoff => absurd hoff hp, hgiven.recorded⟩
  · exact Safe.perform fun s₃ _ o _ _ _ => ⟨hquiet, rfl⟩

lemma safe_lock (hw : w.kind ≠ .connectingWatchdog) {giveUp : Shared → Bool}
    {Q : Bool → Bool → Shared × History → Prop} (hn : ∀ s, controller.after w none n s s.1 = s)
    (hgot : ∀ s', Given s' → Q true true s')
    (hgave : ∀ s', giveUp s'.1 = true → Loose s s' → Q false false s') :
    Safe controller blockRules w (.lock n .giveUp giveUp .ret) false Q s := by
  refine ⟨⟨rfl, hw⟩, fun s₁ hs₁ => ⟨fun hinv _ => ?_, fun hgive o _ _ => ?_⟩⟩
  · rw [hn]
    exact ⟨blockRules_laws.allows_refl none s₁, hgot s₁ hinv⟩
  · exact ⟨blockRules_laws.allows_refl o s₁, hgave s₁ hgive hs₁⟩

lemma safe_unlock (hgiven : Given s) : Owes controller blockRules w unlock true s :=
  ⟨rfl, fun s₁ hs₁ _ => ⟨blockRules_laws.allows_refl _ s₁, hgiven.calm (hs₁.1 w rfl), rfl⟩⟩

end Unlocked

/-! ### Every run -/

theorem safe_body (i : ℕ) (op : Op) (s : Shared × History) (hmay : controller.may op s.1 = true) :
    Owes controller blockRules ⟨i, op⟩ (body op) false s := by
  cases op with
  | start killSwitch rpcOnly =>
    refine Safe.bind (safe_lock (by simp) (fun _ => rfl) (fun s₁ hgiven => ?_) fun s₁ hgive _ => ?_)
    · exact Safe.bind (safe_startLocked rfl hgiven.recorded fun _ => safe_unlock)
    · exact absurd hgive (by simp)
  | activateCapture r =>
    have hr : 0 < r := by
      have hmay' : 0 < r ∧ r ≤ s.1.readiness := by simpa [controller] using hmay
      exact hmay'.1
    refine Safe.bind (safe_lock (by simp) (fun _ => rfl) (fun s₁ hgiven => ?_) fun s₁ _ _ => ?_)
    · refine Safe.ite (fun _ => ?_) (by simp)
      exact Safe.bind (safe_activateLocked rfl hr hgiven fun _ => safe_unlock)
    · exact Safe.ite (by simp) fun _ => rfl
  | stop =>
    refine Safe.bind (safe_bumpGeneration fun s₁ => ?_)
    refine Safe.bind (safe_cancelCapture_unlocked fun r s₂ hspent => ?_)
    refine Safe.bind (safe_lock (by simp) (fun _ => rfl) (fun s₃ hgiven => ?_) fun s₃ _ hs₃ => ?_)
    · refine Safe.ite (fun _ => ?_) (by simp)
      refine Safe.bind (safe_stopLocked (by simp) fun s₄ hs₄ hset => safe_unlock ?_)
      exact given_of_settled hs₄ hgiven.recorded hset
    · refine Safe.ite (by simp) fun _ => ?_
      exact safe_dropFirewallOnEscape rfl (hspent.loose hs₃) fun _ => rfl
  | logout =>
    refine Safe.bind (safe_bumpGeneration fun s₁ => ?_)
    refine Safe.bind (safe_cancelCapture_unlocked fun r s₂ _ => ?_)
    refine Safe.bind (safe_lock (by simp) (fun _ => rfl) (fun s₃ hgiven => ?_) fun s₃ _ _ => ?_)
    · refine Safe.ite (fun _ => ?_) (by simp)
      refine Safe.bind (safe_stopLocked (by simp) fun s₄ hs₄ hset => safe_unlock ?_)
      exact given_of_settled hs₄ hgiven.recorded hset
    · exact Safe.ite (by simp) fun _ => rfl
  | setKillSwitch on =>
    refine Safe.bind (safe_lock (by simp) (fun _ => rfl) (fun s₁ hgiven => ?_) fun s₁ hgive _ => ?_)
    · exact Safe.bind (safe_setKillSwitchLocked rfl hgiven fun _ => safe_unlock)
    · exact absurd hgive (by simp)
  | failsafeStop =>
    refine Safe.bind (safe_bumpGeneration fun s₁ => ?_)
    refine Safe.bind (safe_cancelCapture_unlocked fun r s₂ hspent => ?_)
    refine Safe.bind (safe_load_unlocked fun s₃ hs₃ => ?_)
    refine Safe.bind (safe_lock (by simp) (fun _ => rfl) (fun s₄ hgiven => ?_) fun s₄ _ hs₄ => ?_)
    · refine Safe.ite (fun _ => ?_) (by simp)
      refine Safe.bind (safe_stopLocked (fun _ => .inr rfl) fun s₅ hs₅ hset => safe_unlock ?_)
      exact given_of_settled hs₅ hgiven.recorded hset
    · refine Safe.ite (by simp) fun _ => ?_
      exact safe_dropFirewallOnEscape rfl (hspent.loose (hs₃.trans hs₄)) fun _ => rfl
  | connectingWatchdog => exact safe_connectingWatchdog rfl

/-- No operation is in progress; a connecting watchdog may still be waiting. -/
def Idle (p : Machine) : Prop :=
  ∀ t ∈ p.threads, t.kind ≠ .connectingWatchdog → t.prog.finished = true

/-- Nothing stays blocked: with the switch off and no session the policy of an idle
controller is Off, and after an escaped stop it is taken from Off only where it may
be. -/
def NothingBlocked (es : List (Transition Machine (Label Op))) (p : Machine) : Prop :=
  (Idle p → p.shared.killSwitch = false → p.shared.state ≠ .up → p.shared.state ≠ .preparing →
    p.shared.policy = .off) ∧
  ∀ t ∈ es, t.pre.shared.policy = .off → t.post.shared.policy ≠ .off →
    ∃ e, t.pre.event t.label = some e ∧ ∀ escape ∈ t.pre.log.escapes, Exempt e.self escape

/-- **With the kill switch off and no session, nothing stays blocked**, in every run
whose steps meet `blockCond`. -/
theorem nothing_blocked {es : List (Transition Machine (Label Op))} {p : Machine}
    (hrun : controller.Runs (blockCond · · = true) {} {} es p) : NothingBlocked es p := by
  obtain ⟨hok, hguar⟩ := Rules.sound blockRules_laws safe_body
    ⟨fun _ => .inl rfl, fun e he => absurd he (by simp)⟩ hrun
  refine ⟨fun hidle hkill hup hprep => ?_, fun t ht hoff hne => ?_⟩
  · have hfree : p.owner = none := hok.owner_eq_none hidle
    rcases (hok.inv hfree).unblocked hkill with hoff | hstate | hstate
    · exact hoff
    · exact absurd hstate hup
    · exact absurd hstate hprep
  · cases he : t.pre.event t.label with
    | none =>
      have hsame : t.post.shared.policy = t.pre.shared.policy := by
        rw [System.Runs.shared_eq hrun ht he]
      exact absurd (hsame.trans hoff) hne
    | some e => exact ⟨e, rfl, hguar t ht e he hoff hne⟩

/-- A stop that escapes under a switch, and one that finds the lock, leave the
machine open. -/
theorem nothing_blocked_escape :
    ∃ es p, controller.Runs (blockCond · · = true) {} {} es p ∧ Idle p ∧
      p.shared.killSwitch = false ∧ p.shared.state = .stopped ∧ p.log.escapes ≠ [] ∧
      NothingBlocked es p := by
  obtain ⟨es, p, p', hrun, hgood⟩ :=
    System.exists_run (S := controller) (blockCond · · = true) {} {}
    (.spawn (.start false false) :: (List.replicate 20 (Label.run 0 false) ++
      Label.spawn .stop :: (List.replicate 3 (Label.run 1 false) ++
        Label.spawn (.setKillSwitch false) :: .run 2 false :: .giveUp 1 ::
          (List.replicate 2 (Label.run 1 false) ++ List.replicate 2 (Label.run 2 false) ++
            Label.spawn .stop :: List.replicate 11 (Label.run 3 false))))) (.run 3 false)
    (fun _ p' => p'.threads.all (·.prog.finished) && !p'.shared.killSwitch &&
      p'.shared.state = .stopped && !p'.log.escapes.isEmpty) (by decide +kernel)
  simp only [Bool.and_eq_true, List.all_eq_true, decide_eq_true_eq, Bool.not_eq_true',
    List.isEmpty_eq_false_iff] at hgood
  obtain ⟨⟨⟨hdone, hkill⟩, hstate⟩, hescapes⟩ := hgood
  exact ⟨_, p', hrun, fun t ht _ => hdone t ht, hkill, hstate, hescapes, nothing_blocked hrun⟩

/-- A failsafe whose narrowing fails leaves a Connected policy, and turning the
switch off does not lift it. -/
theorem blocked_after_failed_narrowing :
    ¬ ∀ es p, controller.Runs (fun _ _ => True) {} {} es p → NothingBlocked es p := by
  intro h
  obtain ⟨es, p, p', hrun, hgood⟩ := System.exists_run (S := controller) (fun _ _ => True) {} {}
    (session true ++ Label.spawn .failsafeStop :: (List.replicate 15 (Label.run 2 false) ++
      Label.spawn (.setKillSwitch false) :: List.replicate 6 (Label.run 3 false))) (.run 3 false)
    (fun _ p' => p'.threads.all (·.prog.finished) && !p'.shared.killSwitch &&
      p'.shared.state = .stopped && p'.shared.policy = .connected) (by decide +kernel)
  simp only [Bool.and_eq_true, List.all_eq_true, decide_eq_true_eq, Bool.not_eq_true'] at hgood
  obtain ⟨⟨⟨hdone, hkill⟩, hstate⟩, hpolicy⟩ := hgood
  have hoff := (h _ p' hrun).1 (fun t ht _ => hdone t ht) hkill (by simp [hstate])
    (by simp [hstate])
  exact absurd (hoff.symm.trans hpolicy) (by simp)

end UrnetworkWindows.Controller.Block
