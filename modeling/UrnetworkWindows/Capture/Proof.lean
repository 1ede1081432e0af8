/-
A capture is committed only on current proof.

Proof is carried by the revision: every event that ends a proof bumps it, so a
sample or a ticket whose revision is still the object's has seen no such event
since it was handed out (`CaptureRun.not_invalidates`).  By induction over the
run, an object that claims to be proven has a completed sample behind it with no
such event since its `BeginSample` (`CaptureRun.currentProof`).  A ticket keeps
that proof for as long as its revision is current, hence up to its `Commit`.
-/
import UrnetworkWindows.Capture.Readiness

namespace UrnetworkWindows.Capture

open Lib

/-- The event completes the sample with a usable proven exit of one positive
generation. -/
def Event.Completes (e : Event) (sample : CaptureSample) (generation : ℤ) : Prop :=
  ∃ before after usableProven, e.label.op = .completeSample sample before after usableProven ∧
    before.generation = generation ∧ after.generation = generation ∧ 0 < generation ∧
    0 < before.added ∧ 0 < after.added ∧ 0 < usableProven

/-- The history has a completed sample of the generation, started at that time, and
nothing since its `BeginSample` ended what it proved. -/
def CurrentProof (es : List Event) (generation startedMillis : ℤ) : Prop :=
  ∃ pre b mid sample, es = pre ++ b :: mid ∧ Event.Begins b sample ∧
    sample.startedMillis = startedMillis ∧ (∃ d ∈ mid, Event.Completes d sample generation) ∧
    ∀ d ∈ mid, ¬ Event.Invalidates d

lemma CurrentProof.append {es ds : List Event} {generation startedMillis : ℤ}
    (h : CurrentProof es generation startedMillis) (hds : ∀ d ∈ ds, ¬ Event.Invalidates d) :
    CurrentProof (es ++ ds) generation startedMillis := by
  obtain ⟨pre, b, mid, sample, rfl, hb, hstart, ⟨d, hd, hcomp⟩, hmid⟩ := h
  refine ⟨pre, b, mid ++ ds, sample, by simp, hb, hstart,
    ⟨d, List.mem_append_left _ hd, hcomp⟩, fun d' hd' => ?_⟩
  rcases List.mem_append.1 hd' with hd' | hd'
  · exact hmid d' hd'
  · exact hds d' hd'

section Calls

variable {settings : CaptureReadinessSettings} {call : Call} {r : CaptureReadiness}

/-! ### What one call does -/

lemma revision_le_apply : r.revision ≤ (call.apply settings r).revision := by
  cases hop : call.op <;>
    simp only [Call.apply, hop, CaptureReadiness.networkChanged, CaptureReadiness.proofBarrier,
      CaptureReadiness.cancel, CaptureReadiness.invalidate, CaptureReadiness.networkEventHandled,
      CaptureReadiness.completeSample, CaptureReadiness.commit, le_refl, Nat.le_succ]
  all_goals split_ifs <;> simp

lemma revision_lt_apply (r' : CaptureReadiness) (h : Event.Invalidates ⟨r, call, r'⟩) :
    r.revision < (call.apply settings r).revision := by
  cases hop : call.op <;> simp only [Event.Invalidates, hop] at h
  · simp [Call.apply, hop, CaptureReadiness.invalidate, h]
  · simp [Call.apply, hop, CaptureReadiness.networkChanged]
  · simp [Call.apply, hop, CaptureReadiness.proofBarrier]
  · simp [Call.apply, hop, CaptureReadiness.cancel]

/-- What a call that leaves the object proven did: nothing to the proof, or it
completed a qualifying sample of the current revision. -/
lemma apply_proven (r' : CaptureReadiness) (h : (call.apply settings r).proven = true) :
    (r.proven = true ∧ (call.apply settings r).generation = r.generation ∧
      (call.apply settings r).sampledMillis = r.sampledMillis ∧
      ¬ Event.Invalidates ⟨r, call, r'⟩) ∨
    ∃ sample, sample.revision = r.revision ∧
      Event.Completes ⟨r, call, r'⟩ sample (call.apply settings r).generation ∧
      (call.apply settings r).sampledMillis = sample.startedMillis := by
  cases hop : call.op with
  | invalidate generation =>
    by_cases hold : generation < r.generation
    · have heq : call.apply settings r = r := by
        simp [Call.apply, hop, CaptureReadiness.invalidate, hold]
      rw [heq] at h ⊢
      exact .inl ⟨h, rfl, rfl, by simp [Event.Invalidates, hop, hold]⟩
    · exact absurd h (by simp [Call.apply, hop, CaptureReadiness.invalidate, hold])
  | networkChanged nowMillis =>
    exact absurd h (by simp [Call.apply, hop, CaptureReadiness.networkChanged])
  | proofBarrier nowMillis =>
    exact absurd h (by simp [Call.apply, hop, CaptureReadiness.proofBarrier])
  | cancel => exact absurd h (by simp [Call.apply, hop, CaptureReadiness.cancel])
  | networkEventHandled event =>
    refine .inl ⟨?_, ?_, ?_, by simp [Event.Invalidates, hop]⟩ <;>
      simp only [Call.apply, hop, CaptureReadiness.networkEventHandled] at h ⊢ <;>
      split_ifs at h ⊢ <;> first | exact h | rfl
  | beginSample | ready | current ticket =>
    have heq : call.apply settings r = r := by simp [Call.apply, hop]
    rw [heq] at h ⊢
    exact .inl ⟨h, rfl, rfl, by simp [Event.Invalidates, hop]⟩
  | commit ticket =>
    refine .inl ⟨?_, ?_, ?_, by simp [Event.Invalidates, hop]⟩ <;>
      simp only [Call.apply, hop, CaptureReadiness.commit] at h ⊢ <;>
      split_ifs at h ⊢ <;> first | exact h | rfl
  | completeSample sample before after usableProven =>
    have happly : call.apply settings r =
        r.completeSample settings call.clock sample before after usableProven := by
      simp [Call.apply, hop]
    rw [happly] at h ⊢
    rw [CaptureReadiness.completeSample] at h ⊢
    split_ifs at h ⊢ with hignored
    · exact .inl ⟨h, rfl, rfl, by simp [Event.Invalidates, hop]⟩
    · -- the sample counts: its revision is current and it qualifies
      refine .inr ⟨sample, ?_, ⟨before, after, usableProven, hop, ?_⟩, rfl⟩
      · simp only [Bool.or_eq_true, bne_iff_ne, not_or, not_not] at hignored
        exact hignored.2
      · simp only [CaptureReadiness.qualifies, Bool.and_eq_true, beq_iff_eq,
          decide_eq_true_eq] at h
        obtain ⟨⟨⟨⟨⟨⟨hsame, hle⟩, hpos⟩, hbefore⟩, hafter⟩, husable⟩, -⟩ := h
        have hmax : max (max r.generation before.generation) after.generation =
            after.generation := by omega
        simp only [hmax]
        exact ⟨hsame, trivial, hpos, hbefore, hafter, husable⟩

lemma active_apply (h : r.active = true) : (call.apply settings r).active = true := by
  cases hop : call.op <;>
    simp only [Call.apply, hop, CaptureReadiness.networkChanged, CaptureReadiness.proofBarrier,
      CaptureReadiness.cancel, CaptureReadiness.invalidate, CaptureReadiness.networkEventHandled,
      CaptureReadiness.completeSample, CaptureReadiness.commit, h]
  all_goals split_ifs <;> first | rfl | exact h

lemma current_of_commit {clock : ℤ} {ticket : CaptureTicket}
    (h : (r.commit settings clock ticket).1 = true) :
    r.cancelled = false ∧ r.active = false ∧ r.proven = true ∧ ticket.revision = r.revision ∧
      ticket.generation = r.generation ∧ ticket.sampledMillis ≤ clock ∧
      clock - ticket.sampledMillis ≤ settings.freshnessMillis := by
  rw [CaptureReadiness.commit] at h
  split_ifs at h with hcurrent
  simp only [CaptureReadiness.current, CaptureReadiness.fresh, Bool.and_eq_true,
    Bool.not_eq_true', beq_iff_eq, decide_eq_true_eq] at hcurrent
  obtain ⟨⟨⟨⟨⟨hcancel, hactive⟩, hproven⟩, hrev⟩, hgen⟩, hage, hfresh⟩ := hcurrent
  exact ⟨hcancel, hactive, hproven, hrev, hgen, by omega, hfresh⟩

end Calls

/-! ### Runs -/

namespace CaptureRun

variable {settings : CaptureReadinessSettings} {es : List Event} {r : CaptureReadiness}

lemma not_invalidates (h : CaptureRun settings es r) :
    ∀ pre b mid, es = pre ++ b :: mid → b.pre.revision ≤ r.revision ∧
      (b.pre.revision = r.revision → ∀ d ∈ b :: mid, ¬ Event.Invalidates d) := by
  induction h with
  | nil => intro pre b mid he; exact absurd he (by simp)
  | @snoc es s call s' hrun hstep ih =>
    obtain ⟨-, rfl⟩ := hstep
    intro pre b mid he
    have hle : s.revision ≤ (call.apply settings s).revision := revision_le_apply
    rcases eq_or_mem_of_snoc he with ⟨rfl, rfl, rfl⟩ | ⟨mid, rfl, rfl⟩
    · refine ⟨hle, fun hrev d hd hinv => ?_⟩
      obtain rfl := List.mem_singleton.1 hd
      exact absurd (revision_lt_apply (call.apply settings s) hinv) hrev.not_lt
    · obtain ⟨hle', hnot⟩ := ih pre b mid rfl
      refine ⟨hle'.trans hle, fun hrev d hd hinv => ?_⟩
      rw [← List.cons_append] at hd
      rcases List.mem_append.1 hd with hd | hd
      · exact hnot (le_antisymm hle' (hrev ▸ hle)) d hd hinv
      · obtain rfl := List.mem_singleton.1 hd
        exact absurd (revision_lt_apply (call.apply settings s) hinv)
          (Nat.not_lt.2 (hrev ▸ hle'))

/-- **An object that claims to be proven has current proof.** -/
theorem currentProof (h : CaptureRun settings es r) (hproven : r.proven = true) :
    CurrentProof es r.generation r.sampledMillis := by
  induction h with
  | nil h => subst h; exact absurd hproven (by simp)
  | @snoc es s call s' hrun hstep ih =>
    obtain ⟨hadm, rfl⟩ := hstep
    rcases apply_proven (call.apply settings s) hproven with
      ⟨hs, hgen, hsampled, hnot⟩ | ⟨sample, hrev, hcomp, hsampled⟩
    · rw [hgen, hsampled]
      exact (ih hs).append (by simpa using hnot)
    · -- the sampler began this sample, at the revision that still stands
      obtain ⟨before, after, usable, hop, -⟩ := id hcomp
      have hop : call.op = .completeSample sample before after usable := hop
      rw [hop] at hadm
      obtain ⟨b, hb, hbegins⟩ := hadm
      obtain ⟨pre, mid, rfl⟩ := List.append_of_mem hb
      have hbrev : b.pre.revision = s.revision := by
        rw [← hrev, ← hbegins.2]
        rfl
      have hnot := (not_invalidates hrun pre b mid rfl).2 hbrev
      refine ⟨pre, b, mid ++ [⟨s, call, call.apply settings s⟩], sample, by simp, hbegins,
        hsampled.symm, ⟨_, by simp, hcomp⟩, fun d hd => ?_⟩
      rcases List.mem_append.1 hd with hd | hd
      · exact hnot d (List.mem_cons_of_mem _ hd)
      · obtain rfl := List.mem_singleton.1 hd
        simp only [Event.Invalidates, hop, not_false_eq_true]

lemma active_of_commits (h : CaptureRun settings es r) {pre mid : List Event} {e : Event}
    {ticket : CaptureTicket} (he : es = pre ++ e :: mid) (hcommit : e.Commits settings ticket) :
    r.active = true := by
  induction h generalizing mid with
  | nil => exact absurd he (by simp)
  | @snoc es s call s' hrun hstep ih =>
    obtain ⟨-, rfl⟩ := hstep
    rcases eq_or_mem_of_snoc he with ⟨rfl, rfl, rfl⟩ | ⟨mid, rfl, rfl⟩
    · obtain ⟨hop, htrue⟩ := hcommit
      simp only at hop htrue
      simp only [Call.apply, hop]
      rw [CaptureReadiness.commit] at htrue ⊢
      split_ifs at htrue ⊢
      rfl
    · exact active_apply (ih rfl)

lemma currentProof_of_issues (h : CaptureRun settings es r) {pre mid : List Event} {e : Event}
    {ticket : CaptureTicket} (he : es = pre ++ e :: mid) (hissue : e.Issues settings ticket) :
    ticket.revision = e.pre.revision ∧
      CurrentProof pre ticket.generation ticket.sampledMillis := by
  obtain ⟨hpre, -⟩ := h.split he
  obtain ⟨-, hready⟩ := hissue
  rw [CaptureReadiness.ready] at hready
  split_ifs at hready with hnone
  cases hready
  simp only [Bool.or_eq_true, Bool.not_eq_true', not_or, Bool.not_eq_false] at hnone
  exact ⟨rfl, currentProof hpre hnone.1.2⟩

end CaptureRun

/-- **A capture is committed on current proof, once.**  Of every run of a fresh
object: a `Commit` that returns true, of a ticket that `Ready` returned before,
has behind it a completed sample of the ticket's generation that nothing ended
since its `BeginSample`, started no longer before the `Commit` than proof is
fresh; and no two `Commit`s return true. -/
theorem commit_on_current_proof (settings : CaptureReadinessSettings) {es : List Event}
    {r : CaptureReadiness} (h : CaptureRun settings es r) :
    (∀ pre c post ticket, es = pre ++ c :: post → Event.Commits settings c ticket →
      (∃ i ∈ pre, Event.Issues settings i ticket) →
      ∃ startedMillis, CurrentProof pre ticket.generation startedMillis ∧
        startedMillis ≤ c.label.clock ∧
        c.label.clock - startedMillis ≤ settings.freshnessMillis) ∧
    ∀ pre c mid d post ticket ticket', es = pre ++ c :: mid ++ d :: post →
      Event.Commits settings c ticket → ¬ Event.Commits settings d ticket' := by
  refine ⟨?_, ?_⟩
  · rintro pre c post ticket he ⟨-, hcommit⟩ ⟨i, hi, hissue⟩
    obtain ⟨hrun, -⟩ := h.split he
    obtain ⟨-, -, -, hrev, -, hfresh⟩ := current_of_commit hcommit
    -- the ticket's revision still stands, so its proof has outlived the wait
    obtain ⟨before, mid, rfl⟩ := List.append_of_mem hi
    obtain ⟨hrev', hproof⟩ := CaptureRun.currentProof_of_issues hrun rfl hissue
    have hnot := (CaptureRun.not_invalidates hrun before i mid rfl).2 (hrev' ▸ hrev)
    exact ⟨ticket.sampledMillis, hproof.append hnot, hfresh.1, hfresh.2⟩
  · rintro pre c mid d post ticket ticket' he hcommit ⟨-, hagain⟩
    obtain ⟨hrun, -⟩ := h.split he
    have hactive := CaptureRun.active_of_commits hrun rfl hcommit
    obtain ⟨-, hidle, -⟩ := current_of_commit hagain
    rw [hactive] at hidle
    exact absurd hidle (by simp)

/-! ### A session that activates -/

/-- One sampler, one qualifying sample, its ticket, and a commit at 1500 ms. -/
def activation : List Call :=
  [⟨.networkChanged 100, 100⟩, ⟨.beginSample, 1000⟩,
    ⟨.completeSample ⟨1, 100, 1000⟩ ⟨4, 1⟩ ⟨4, 2⟩ 1, 1200⟩, ⟨.ready, 1400⟩,
    ⟨.commit ⟨2, 4, 1000⟩, 1500⟩]

/-- The events of the first calls of the activation, and the state they leave. -/
def activationEvents (n : ℕ) : List Event :=
  transitions (fun r call => call.apply {} r) {} (activation.take n)

def activationState (n : ℕ) : CaptureReadiness :=
  (activation.take n).foldl (fun r call => call.apply {} r) {}

lemma CaptureRun.call {settings : CaptureReadinessSettings} {es : List Event}
    {r : CaptureReadiness} (h : CaptureRun settings es r) (call : Call)
    (hadm : Admissible es call.op) :
    CaptureRun settings (es ++ [⟨r, call, call.apply settings r⟩]) (call.apply settings r) :=
  .snoc h ⟨hadm, rfl⟩

lemma activation_run : CaptureRun {} (activationEvents 5) (activationState 5) := by
  have h₀ : CaptureRun {} [] {} := .nil rfl
  have h₁ := CaptureRun.call h₀ ⟨.networkChanged 100, 100⟩ trivial
  have h₂ := CaptureRun.call h₁ ⟨.beginSample, 1000⟩ trivial
  have h₃ := CaptureRun.call h₂ ⟨.completeSample ⟨1, 100, 1000⟩ ⟨4, 1⟩ ⟨4, 2⟩ 1, 1200⟩
    ⟨_, List.mem_append_right _ (List.mem_singleton.2 rfl), rfl, rfl⟩
  have h₄ := CaptureRun.call h₃ ⟨.ready, 1400⟩ trivial
  exact CaptureRun.call h₄ ⟨.commit ⟨2, 4, 1000⟩, 1500⟩ trivial

theorem commit_on_current_proof_activation :
    (activationState 5).active = true ∧
    ∃ startedMillis, CurrentProof (activationEvents 4) 4 startedMillis ∧
      startedMillis ≤ 1500 ∧ 1500 - startedMillis ≤ 8000 :=
  ⟨by decide, (commit_on_current_proof {} activation_run).1 (activationEvents 4)
    ⟨activationState 4, ⟨.commit ⟨2, 4, 1000⟩, 1500⟩, activationState 5⟩ [] ⟨2, 4, 1000⟩ rfl
    ⟨rfl, by decide⟩
    ⟨⟨activationState 3, ⟨.ready, 1400⟩, activationState 4⟩,
      by simp [activationEvents, activationState, transitions, activation, Call.apply], rfl,
      by decide⟩⟩

end UrnetworkWindows.Capture
