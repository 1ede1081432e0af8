/-
What the status mirror says about the machine.

A publication reads the policy at one statement and writes the mirror at a later one:
the holder of `mutex_` composes a status and stores it, the watchdog and the escapes
read the policy and patch it in.  The three do not exclude one another, so what is
written may be older than what stands in the mirror.  The runs here are those of
`Controller/Transitions.lean` in which nothing changes between the two statements.
-/
import UrnetworkWindows.Controller.Transitions

namespace UrnetworkWindows.Controller.Transitions

open Lib Wfp

/-! ### Reading and writing -/

/-- The status the holder has composed and not stored. -/
def HolderAt.stores : HolderAt → Option Status
  | store status _ => some status
  | _ => none

/-- The holder is within `StatusLocked`. -/
def HolderAt.publishes : HolderAt → Bool
  | compose _ | store _ _ => true
  | _ => false

/-- The policy the watchdog has read and not written. -/
def WatchdogAt.patches : WatchdogAt → Option WfpState
  | patch wfp => some wfp
  | _ => none

/-- The watchdog is within `RepublishMachineFactsLockFree`. -/
def WatchdogAt.publishes : WatchdogAt → Bool
  | read | patch _ => true
  | _ => false

/-- The policy an escape has read and not written. -/
def EscapeAt.patches : EscapeAt → Option WfpState
  | patch wfp => some wfp
  | _ => none

/-- The escape is within `RepublishMachineFactsLockFree`. -/
def EscapeAt.publishes : EscapeAt → Bool
  | read | patch _ => true
  | _ => false

/-- The escape has taken the routes back and not written that down. -/
def EscapeAt.underway : EscapeAt → Bool
  | crashRevert | done => false
  | _ => true

/-- Some party has read the policy and not written it. -/
def Machine.Reading (s : Machine) : Prop :=
  s.holder.stores.isSome ∨ s.watchdog.patches.isSome ∨ ∃ e ∈ s.escapes, e.patches.isSome = true

instance (s : Machine) : Decidable s.Reading :=
  inferInstanceAs (Decidable (_ ∨ _ ∨ ∃ e ∈ s.escapes, e.patches.isSome = true))

/-- The policy a step brings into force. -/
def Pick.installs (s : Machine) : Pick → Option WfpState
  | .holder o => s.holder.changes.filter fun p => p = .off || o = .ok
  | .watchdog coin =>
    match s.watchdog, coin with
    | .firing _, true => some .armed
    | _, _ => none
  | .escapeStep i _ => if s.escapes[i]? = some .revert then some .off else none
  | _ => none

/-- The step is an escape's `CrashRevert`. -/
def Pick.revertsRoutes (s : Machine) : Pick → Prop
  | .escapeStep i _ => s.escapes[i]? = some .crashRevert
  | _ => False

instance (s : Machine) (a : Pick) : Decidable (a.revertsRoutes s) :=
  match a with
  | .escapeStep i _ => inferInstanceAs (Decidable (s.escapes[i]? = some .crashRevert))
  | .lock | .unlock | .applyWfp _ | .publish | .installRoutes | .releaseRoutes | .holder _
  | .watchdog _ | .escape => .isFalse id

/-- What is asked of a step: no other policy comes into force between a reading and its
writing, and no routes are taken back between a status and its storing. -/
def FactsKept (s : Machine) (a : Pick) : Prop :=
  (∀ p ∈ a.installs s, p ≠ s.policy → ¬ s.Reading) ∧
    (a.revertsRoutes s → s.holder.stores = none)

instance (s : Machine) (a : Pick) : Decidable (FactsKept s a) :=
  inferInstanceAs (Decidable (_ ∧ _))

/-- No publication and no change is in progress. -/
def Machine.Quiet (s : Machine) : Prop :=
  s.holder = .idle ∧ s.watchdog.publishes = false ∧ ∀ e ∈ s.escapes, e.underway = false

instance (s : Machine) : Decidable s.Quiet := inferInstanceAs (Decidable (_ ∧ _ ∧ _))

/-- The mirror names the policy in force, and no routes that an escape took back. -/
def Machine.Told (s : Machine) : Prop :=
  s.mirror.wfp = s.policy ∧ (s.reverted = true → s.mirror.routes = false)

instance (s : Machine) : Decidable s.Told := inferInstanceAs (Decidable (_ ∧ _))

/-! ### The invariant -/

/-- Every party that has read the policy has read the one in force. -/
structure ReadingsOk (s : Machine) : Prop where
  holder : ∀ status ∈ s.holder.stores, status.wfp = s.policy ∧ status.reverts = s.reverts
  watchdog : ∀ wfp ∈ s.watchdog.patches, wfp = s.policy
  escapes : ∀ e ∈ s.escapes, ∀ wfp ∈ e.patches, wfp = s.policy

/-- A fact that the mirror does not have is one that someone has yet to write. -/
structure MirrorOk (s : Machine) : Prop where
  wfp : s.mirror.wfp = s.policy ∨ s.holder.publishes = true ∨ s.watchdog.publishes = true ∨
    ∃ e ∈ s.escapes, e.publishes = true
  routes : s.reverted = true → s.mirror.routes = false ∨ ∃ e ∈ s.escapes, e.underway = true

section Mirror

variable {s s' : Machine} {a : Pick} {o : Outcome} {coin : Bool} {i : ℕ} {e : EscapeAt}

lemma ReadingsOk.install {p : WfpState} (h : ReadingsOk s) (hkept : p ≠ s.policy → ¬ s.Reading) :
    ReadingsOk (s.install p) := by
  rcases eq_or_ne p s.policy with rfl | hp
  · exact ⟨h.holder, h.watchdog, h.escapes⟩
  have hno := hkept hp
  rw [Machine.Reading, not_or, not_or, not_exists] at hno
  obtain ⟨hholder, hwatchdog, hescapes⟩ := hno
  constructor
  · intro status hst
    exact absurd (Option.isSome_of_mem hst) hholder
  · intro wfp hwfp
    exact absurd (Option.isSome_of_mem hwfp) hwatchdog
  · intro e he wfp hwfp
    exact absurd ⟨he, Option.isSome_of_mem hwfp⟩ (hescapes e)

lemma ReadingsOk.goOn {h : HolderAt} (hs : ReadingsOk s) (hno : h.stores = none) :
    ReadingsOk { s with holder := h } := by
  refine ⟨fun status hst => ?_, hs.watchdog, hs.escapes⟩
  replace hst : status ∈ h.stores := hst
  rw [hno] at hst
  exact absurd hst (Option.not_mem_none _)

lemma ReadingsOk.watch {w : WatchdogAt} (hs : ReadingsOk s) (hno : w.patches = none) :
    ReadingsOk { s with watchdog := w } := by
  refine ⟨hs.holder, fun wfp hwfp => ?_, hs.escapes⟩
  replace hwfp : wfp ∈ w.patches := hwfp
  rw [hno] at hwfp
  exact absurd hwfp (Option.not_mem_none _)

lemma ReadingsOk.escape (hs : ReadingsOk s) (he : ∀ wfp ∈ e.patches, wfp = s.policy) :
    ReadingsOk { s with escapes := s.escapes.set i e } := by
  refine ⟨hs.holder, hs.watchdog, fun e' he' => ?_⟩
  rcases List.mem_or_eq_of_mem_set he' with he' | rfl
  · exact hs.escapes e' he'
  · exact he

lemma ReadingsOk.holderStep (h : ReadingsOk s) (hkept : FactsKept s (.holder o))
    (hs : holderStep o s = some s') : ReadingsOk s' := by
  have hinstalls := hkept.1
  simp only [Pick.installs] at hinstalls
  simp only [Transitions.holderStep] at hs
  split at hs
  · exact absurd hs (by simp)
  · next p hholder =>
    have hdone : s' = { s with holder := .change p, watchdog := .idle } := by
      split at hs <;> simp_all
    subst hdone
    exact (h.goOn (h := .change p) rfl).watch (w := .idle) rfl
  · next p hholder =>
    rw [hholder] at hinstalls
    split at hs
    · next hp =>
      cases hs
      subst hp
      exact (h.install (hinstalls .off (by simp [HolderAt.changes]))).goOn rfl
    split at hs
    · cases hs
      exact (h.install (hinstalls p (by simp [HolderAt.changes]))).goOn rfl
    · cases hs
      exact h.goOn rfl
    · cases hs
      exact h.goOn rfl
  · next arm hholder =>
    cases hs
    refine ⟨fun status hst => ?_, h.watchdog, h.escapes⟩
    cases hst
    exact ⟨rfl, rfl⟩
  · next status arm hholder =>
    cases hs
    cases arm with
    | none => exact ⟨(h.goOn (h := .idle) rfl).holder, h.watchdog, h.escapes⟩
    | some n => exact ⟨(h.goOn (h := .arm n) rfl).holder, h.watchdog, h.escapes⟩
  · next n hholder =>
    have hdone : s' = { s with holder := .idle, watchdog := .waiting n } := by
      split at hs <;> simp_all
    subst hdone
    exact (h.goOn (h := .idle) rfl).watch (w := .waiting n) rfl

lemma ReadingsOk.watchdogStep (h : ReadingsOk s) (hkept : FactsKept s (.watchdog coin))
    (hs : watchdogStep coin s = some s') : ReadingsOk s' := by
  have hinstalls := hkept.1
  simp only [Pick.installs] at hinstalls
  simp only [Transitions.watchdogStep] at hs
  split at hs
  · exact absurd hs (by simp)
  · exact absurd hs (by simp)
  · cases hs
    exact h.watch rfl
  · next n hw =>
    rw [hw] at hinstalls
    split at hs
    · next hcoin =>
      cases hs
      subst hcoin
      exact (h.install (hinstalls .armed rfl)).watch rfl
    · cases hs
      exact ⟨h.holder, (h.watch (w := .read) rfl).watchdog, h.escapes⟩
  · cases hs
    refine ⟨h.holder, fun wfp hwfp => ?_, h.escapes⟩
    exact (Option.some.inj hwfp).symm
  · cases hs
    exact ⟨h.holder, (h.watch (w := .finished) rfl).watchdog, h.escapes⟩

lemma ReadingsOk.escapeStep {r : EscapeAt × Machine} (h : ReadingsOk s)
    (he : s.escapes[i]? = some e) (hkept : FactsKept s (.escapeStep i coin))
    (hs : escapeStep coin s e = some r) :
    ReadingsOk { r.2 with escapes := s.escapes.set i r.1 } := by
  obtain ⟨hinstalls, hroutes⟩ := hkept
  simp only [Pick.installs, Pick.revertsRoutes, he] at hinstalls hroutes
  cases e with
  | crashRevert =>
    cases hs
    refine ⟨fun status hst => ?_, h.watchdog,
      (h.escape (e := .loadSwitch) (by simp [EscapeAt.patches])).escapes⟩
    replace hst : status ∈ s.holder.stores := hst
    rw [hroutes rfl] at hst
    exact absurd hst (Option.not_mem_none _)
  | loadSwitch | check =>
    cases hs
    exact h.escape (by split <;> simp [EscapeAt.patches])
  | revert =>
    cases hs
    exact (h.install (hinstalls .off rfl)).escape (by simp [EscapeAt.patches])
  | read =>
    cases hs
    exact h.escape (by simp [EscapeAt.patches])
  | patch wfp =>
    cases hs
    exact ⟨h.holder, h.watchdog, (h.escape (e := .done) (by simp [EscapeAt.patches])).escapes⟩
  | done => exact absurd hs (by simp [Transitions.escapeStep])

lemma MirrorOk.of_eq (h : MirrorOk s) (hmirror : s'.mirror = s.mirror)
    (hpolicy : s'.policy = s.policy) (hreverted : s'.reverted = true → s.reverted = true)
    (hholder : s.holder.publishes = true → s'.holder.publishes = true)
    (hwatchdog : s.watchdog.publishes = true → s'.watchdog.publishes = true)
    (hescapes : s'.escapes = s.escapes) : MirrorOk s' := by
  constructor
  · rw [hmirror, hpolicy, hescapes]
    exact h.wfp.imp_right (Or.imp hholder (.imp_left hwatchdog))
  · intro hrev
    rw [hmirror, hescapes]
    exact h.routes (hreverted hrev)

lemma MirrorOk.toWrite (h : MirrorOk s) (hmirror : s'.mirror = s.mirror)
    (hreverted : s'.reverted = s.reverted) (hescapes : s'.escapes = s.escapes)
    (hpub : s'.holder.publishes = true ∨ s'.watchdog.publishes = true) : MirrorOk s' := by
  constructor
  · exact .inr (hpub.imp_right .inl)
  · rw [hreverted, hmirror, hescapes]
    exact h.routes

lemma MirrorOk.holderStep (h : MirrorOk s) (hread : ReadingsOk s)
    (hs : holderStep o s = some s') : MirrorOk s' := by
  simp only [Transitions.holderStep] at hs
  split at hs
  · exact absurd hs (by simp)
  · next p hholder =>
    have hdone : s' = { s with holder := .change p, watchdog := .idle } ∧
        s.watchdog.publishes = false := by
      split at hs <;> simp_all [WatchdogAt.publishes]
    obtain ⟨rfl, hwatchdog⟩ := hdone
    exact h.of_eq rfl rfl id (by simp [hholder, HolderAt.publishes]) (by simp [hwatchdog]) rfl
  · next p hholder =>
    split at hs
    · cases hs
      exact h.toWrite rfl rfl rfl (.inl rfl)
    split at hs
    · cases hs
      exact h.toWrite rfl rfl rfl (.inl rfl)
    · cases hs
      exact h.toWrite rfl rfl rfl (.inl rfl)
    · cases hs
      exact h.of_eq rfl rfl id (by simp [hholder, HolderAt.publishes]) id rfl
  · cases hs
    exact h.toWrite rfl rfl rfl (.inl rfl)
  · next status arm hholder =>
    cases hs
    obtain ⟨hwfp, hreverts⟩ := hread.holder status (by rw [hholder]; rfl)
    exact ⟨.inl hwfp, fun hrev => absurd hrev (by simp [hreverts])⟩
  · next n hholder =>
    have hdone : s' = { s with holder := .idle, watchdog := .waiting n } ∧
        s.watchdog.publishes = false := by
      split at hs <;> simp_all [WatchdogAt.publishes]
    obtain ⟨rfl, hwatchdog⟩ := hdone
    exact h.of_eq rfl rfl id (by simp [hholder, HolderAt.publishes]) (by simp [hwatchdog]) rfl

lemma MirrorOk.watchdogStep (h : MirrorOk s) (hread : ReadingsOk s)
    (hs : watchdogStep coin s = some s') : MirrorOk s' := by
  simp only [Transitions.watchdogStep] at hs
  split at hs
  · exact absurd hs (by simp)
  · exact absurd hs (by simp)
  · next n hw =>
    cases hs
    exact h.of_eq rfl rfl id id (by simp [hw, WatchdogAt.publishes]) rfl
  · split at hs
    · cases hs
      exact h.toWrite rfl rfl rfl (.inr rfl)
    · cases hs
      exact h.toWrite rfl rfl rfl (.inr rfl)
  · cases hs
    exact h.toWrite rfl rfl rfl (.inr rfl)
  · next wfp hw =>
    cases hs
    exact ⟨.inl (hread.watchdog wfp (by rw [hw]; rfl)), h.routes⟩

lemma MirrorOk.escape {e' : EscapeAt} (h : MirrorOk s) (he : s.escapes[i]? = some e)
    (hmirror : s'.mirror = s.mirror) (hholder : s'.holder = s.holder)
    (hwatchdog : s'.watchdog = s.watchdog) (hescapes : s'.escapes = s.escapes.set i e')
    (hwfp : e'.publishes = true ∨ s'.policy = s.policy ∧ e.publishes = false)
    (hroutes : e'.underway = true) : MirrorOk s' := by
  have hmem : e' ∈ s'.escapes := by
    rw [hescapes]
    exact List.mem_of_getElem? (List.getElem?_set_self (List.getElem?_eq_some_iff.1 he).1)
  constructor
  · rcases hwfp with hpub | ⟨hpolicy, hpub⟩
    · exact .inr (.inr (.inr ⟨e', hmem, hpub⟩))
    rw [hmirror, hpolicy, hholder, hwatchdog, hescapes]
    refine h.wfp.imp_right (Or.imp_right (Or.imp_right fun hex => ?_))
    exact exists_mem_set hex he fun hp => absurd hp (by simp [hpub])
  · exact fun _ => .inr ⟨e', hmem, hroutes⟩

lemma MirrorOk.escapeStep {r : EscapeAt × Machine} (h : MirrorOk s) (hread : ReadingsOk s)
    (he : s.escapes[i]? = some e) (hs : escapeStep coin s e = some r) :
    MirrorOk { r.2 with escapes := s.escapes.set i r.1 } := by
  cases e with
  | crashRevert =>
    cases hs
    exact h.escape he rfl rfl rfl rfl (.inr ⟨rfl, rfl⟩) rfl
  | loadSwitch | check =>
    cases hs
    exact h.escape he rfl rfl rfl rfl (.inr ⟨rfl, rfl⟩) (by split <;> rfl)
  | revert | read =>
    cases hs
    exact h.escape he rfl rfl rfl rfl (.inl rfl) rfl
  | patch wfp =>
    cases hs
    exact ⟨.inl (hread.escapes _ (List.mem_of_getElem? he) wfp rfl), fun _ => .inl rfl⟩
  | done => exact absurd hs (by simp [Transitions.escapeStep])

lemma MirrorOk.step (h : MirrorOk s) (hread : ReadingsOk s) (hkept : FactsKept s a)
    (hs : step s a = some s') : ReadingsOk s' ∧ MirrorOk s' := by
  cases a with
  | lock =>
    simp only [Transitions.step, Option.ite_none_left_eq_some, Option.some.injEq] at hs
    obtain ⟨-, rfl⟩ := hs
    exact ⟨⟨hread.holder, hread.watchdog, hread.escapes⟩, ⟨h.wfp, h.routes⟩⟩
  | unlock | releaseRoutes =>
    simp only [Transitions.step, guard_eq_some] at hs
    obtain ⟨-, rfl⟩ := hs
    exact ⟨⟨hread.holder, hread.watchdog, hread.escapes⟩, ⟨h.wfp, h.routes⟩⟩
  | installRoutes =>
    simp only [Transitions.step, guard_eq_some] at hs
    obtain ⟨-, rfl⟩ := hs
    exact ⟨⟨hread.holder, hread.watchdog, hread.escapes⟩,
      ⟨h.wfp, fun hrev => absurd hrev (by simp)⟩⟩
  | applyWfp p =>
    simp only [Transitions.step, guard_eq_some] at hs
    obtain ⟨⟨-, hidle⟩, rfl⟩ := hs
    exact ⟨hread.goOn rfl, h.of_eq rfl rfl id (by simp [hidle, HolderAt.publishes]) id rfl⟩
  | publish =>
    simp only [Transitions.step, guard_eq_some] at hs
    obtain ⟨-, rfl⟩ := hs
    exact ⟨hread.goOn rfl, h.toWrite rfl rfl rfl (.inl rfl)⟩
  | holder o =>
    obtain ⟨-, hs⟩ := Option.ite_none_right_eq_some.1 hs
    exact ⟨hread.holderStep hkept hs, h.holderStep hread hs⟩
  | watchdog coin => exact ⟨hread.watchdogStep hkept hs, h.watchdogStep hread hs⟩
  | escape =>
    simp only [Transitions.step, guard_eq_some] at hs
    obtain ⟨-, rfl⟩ := hs
    have hold : ∀ {q : EscapeAt → Prop}, (∃ e ∈ s.escapes, q e) →
        ∃ e ∈ s.escapes ++ [.crashRevert], q e := by
      rintro q ⟨e, he, hq⟩
      exact ⟨e, List.mem_append_left _ he, hq⟩
    refine ⟨⟨hread.holder, hread.watchdog, fun e he => ?_⟩,
      ⟨h.wfp.imp_right (Or.imp_right (Or.imp_right hold)),
       fun hrev => (h.routes hrev).imp_right hold⟩⟩
    rcases List.mem_append.1 he with he | he
    · exact hread.escapes e he
    · obtain rfl := List.mem_singleton.1 he
      exact fun wfp hwfp => absurd hwfp (Option.not_mem_none _)
  | escapeStep i coin =>
    simp only [Transitions.step] at hs
    split at hs
    · exact absurd hs (by simp)
    next e he =>
    obtain ⟨r, hr, rfl⟩ := Option.map_eq_some_iff.1 hs
    exact ⟨hread.escapeStep he hkept hr, h.escapeStep hread he hr⟩

/-- In every run in which no other policy comes into force between a reading and its
writing, and no routes are taken back between a status and its storing: while no
publication and no change is in progress, the mirror names the policy in force, and no
routes that an escape took back. -/
theorem mirror_told {es : List (Transition Machine Pick)} (hrun : Machine.Runs FactsKept es s)
    (hquiet : s.Quiet) : s.Told := by
  have hall := hrun.invariant (P := fun _ s => ReadingsOk s ∧ MirrorOk s)
    (fun s hs => by
      obtain rfl := hs
      exact ⟨⟨by simp [HolderAt.stores], by simp [WatchdogAt.patches], by simp⟩,
        ⟨.inl rfl, by simp⟩⟩)
    (fun _ _ _ _ ih hstep => ih.2.step ih.1 hstep.2 hstep.1)
  obtain ⟨hholder, hwatchdog, hescapes⟩ := hquiet
  constructor
  · rcases hall.2.wfp with hwfp | hpub | hpub | ⟨e, he, hpub⟩
    · exact hwfp
    · rw [hholder] at hpub
      exact absurd hpub (by simp [HolderAt.publishes])
    · rw [hwatchdog] at hpub
      exact absurd hpub (by simp)
    · have hnot := hescapes e he
      cases e with
      | read | patch => exact absurd hnot (by simp [EscapeAt.underway])
      | crashRevert | loadSwitch | check | revert | done =>
        exact absurd hpub (by simp [EscapeAt.publishes])
  · intro hrev
    rcases hall.2.routes hrev with hroutes | ⟨e, he, hunder⟩
    · exact hroutes
    · rw [hescapes e he] at hunder
      exact absurd hunder (by simp)

end Mirror

/-- A session that routes, is stopped by an escape, and is told of. -/
theorem mirror_told_after_escape :
    ∃ es s, Machine.Runs FactsKept es s ∧ s.reverted = true ∧ s.mirror.wfp = .connecting ∧
      s.mirror.routes = false := by
  obtain ⟨es, s, hrun, hgood⟩ := Run.exists_of_cond step FactsKept {}
    (widens ++ [Pick.installRoutes, .publish, .holder .ok, .holder .ok, .escape] ++
      List.replicate 4 (Pick.escapeStep 0 true))
    (fun s => s.Quiet && s.reverted && s.policy = .connecting) (by decide +kernel)
  simp only [Bool.and_eq_true, decide_eq_true_eq] at hgood
  obtain ⟨⟨hquiet, hrev⟩, hpolicy⟩ := hgood
  obtain ⟨hwfp, hroutes⟩ := mirror_told hrun hquiet
  exact ⟨es, s, hrun, hrev, hwfp.trans hpolicy, hroutes hrev⟩

/-- A status composed before a change and stored after it: over the watchdog's narrowing,
and over an escape's revert of the routes. -/
theorem mirror_stale :
    (∃ es s, Machine.Runs (fun _ _ => True) es s ∧ s.Quiet ∧ s.policy = .armed ∧
      s.mirror.wfp = .connecting) ∧
    ∃ es s, Machine.Runs (fun _ _ => True) es s ∧ s.Quiet ∧ s.reverted = true ∧
      s.mirror.routes = true := by
  constructor
  · obtain ⟨es, s, hrun, hgood⟩ := Run.exists_of_cond step (fun _ _ => True) {}
      (widens ++ [Pick.publish, .holder .ok] ++ List.replicate 4 (Pick.watchdog true) ++
        [Pick.holder .ok])
      (fun s => s.Quiet && s.policy = .armed && s.mirror.wfp = .connecting) (by decide +kernel)
    simp only [Bool.and_eq_true, decide_eq_true_eq, and_assoc] at hgood
    exact ⟨es, s, hrun, hgood⟩
  · obtain ⟨es, s, hrun, hgood⟩ := Run.exists_of_cond step (fun _ _ => True) {}
      ([Pick.lock, .installRoutes, .publish, .holder .ok, .escape] ++
        List.replicate 4 (Pick.escapeStep 0 true) ++ [Pick.holder .ok])
      (fun s => s.Quiet && s.reverted && s.mirror.routes) (by decide +kernel)
    simp only [Bool.and_eq_true, decide_eq_true_eq, and_assoc] at hgood
    exact ⟨es, s, hrun, hgood⟩

end UrnetworkWindows.Controller.Transitions
