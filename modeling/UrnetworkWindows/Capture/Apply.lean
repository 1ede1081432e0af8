/-
The capture transaction (`ApplyCapture` of `CaptureReadiness.h`).

The transaction checks its ticket before every stage and commits it after the
last.  Between two of its own accesses to the readiness any other calls may run;
`Others` says which they are, and how each stage turns out.  What the
transaction does to the machine is its log.

`applyCapture_spec` says what the log can be, one case per way out of the
function; the all-or-nothing result `applyCapture_all_or_nothing` is read off it.
-/
import UrnetworkWindows.Capture.Readiness

namespace UrnetworkWindows.Capture

open Lib

/-- `CaptureStage`. -/
inductive CaptureStage
  | prepare
  | firewall
  | network
  | connected
deriving DecidableEq, Repr

/-- `CaptureResult`. -/
inductive CaptureResult
  | waiting
  | active
  | halted
deriving DecidableEq, Repr

/-- How `apply(stage)` ends. -/
inductive StageOutcome
  | applied
  | refused
  | threw
deriving DecidableEq, Repr

/-- How the transaction ends. -/
inductive CaptureExitKind
  | returned (result : CaptureResult)
  | threw
deriving DecidableEq, Repr

/-- What the transaction does to the outside. -/
inductive Effect
  | apply (stage : CaptureStage)
  | rollback
  | commit
deriving DecidableEq, Repr

/-- An access of the transaction to the readiness: the calls others made since its
last one, and its clock reading. -/
structure Access where
  others : List Call := []
  clock : ℤ := 0
deriving Repr

/-- Everything the transaction does not decide. -/
structure Others where
  entry : Access
  check : CaptureStage → Access
  outcome : CaptureStage → StageOutcome
  commit : Access

/-- The readiness when an access is made. -/
def Access.readiness (settings : CaptureReadinessSettings) (a : Access) (r : CaptureReadiness) :
    CaptureReadiness :=
  a.others.foldl (fun r call => call.apply settings r) r

/-- How the transaction ended, what it did, and the readiness it left. -/
structure CaptureRecord where
  ended : CaptureExitKind
  log : List Effect
  readiness : CaptureReadiness
deriving DecidableEq, Repr

section Transaction

variable (settings : CaptureReadinessSettings) (env : Others) (ticket : CaptureTicket)

/-- The commit after the last stage. -/
def finish (log : List Effect) (r : CaptureReadiness) : CaptureRecord :=
  let r := env.commit.readiness settings r
  match r.commit settings env.commit.clock ticket with
  | (true, r') => ⟨.returned .active, log ++ [.commit], r'⟩
  | (false, r') => ⟨.returned .waiting, log ++ [.rollback], r'⟩

/-- The loop over the stages, with what was done so far. -/
def applyStages : List CaptureStage → List Effect → CaptureReadiness → CaptureRecord
  | [], log, r => finish settings env ticket log r
  | stage :: stages, log, r =>
    let r := (env.check stage).readiness settings r
    if !r.current settings (env.check stage).clock ticket then
      ⟨.returned .waiting, log ++ [.rollback], r⟩
    else
      match env.outcome stage with
      | .applied => applyStages stages (log ++ [.apply stage]) r
      | .refused => ⟨.returned .halted, log ++ [.apply stage, .rollback], r⟩
      | .threw => ⟨.threw, log ++ [.apply stage, .rollback], r⟩

/-- The stages, in order. -/
def captureStages : List CaptureStage := [.prepare, .firewall, .network, .connected]

/-- `ApplyCapture`. -/
def applyCapture (r : CaptureReadiness) : CaptureRecord :=
  let r := env.entry.readiness settings r
  if !r.current settings env.entry.clock ticket then ⟨.returned .waiting, [], r⟩
  else applyStages settings env ticket captureStages [] r

end Transaction

/-! ### The ways out -/

/-- The ways out of the loop, entered with some stages left and a log. -/
inductive LoopExit (stages : List CaptureStage) (log : List Effect) : CaptureExitKind →
    List Effect → Prop
  | active : LoopExit stages log (.returned .active) (log ++ stages.map .apply ++ [.commit])
  | stale (done : List CaptureStage) (h : done <+: stages) :
      LoopExit stages log (.returned .waiting) (log ++ done.map .apply ++ [.rollback])
  | halted (done : List CaptureStage) (h : done <+: stages) (hne : done ≠ []) :
      LoopExit stages log (.returned .halted) (log ++ done.map .apply ++ [.rollback])
  | threw (done : List CaptureStage) (h : done <+: stages) (hne : done ≠ []) :
      LoopExit stages log .threw (log ++ done.map .apply ++ [.rollback])

lemma LoopExit.cons {stage : CaptureStage} {stages : List CaptureStage} {log log' : List Effect}
    {ended : CaptureExitKind} (h : LoopExit stages (log ++ [.apply stage]) ended log') :
    LoopExit (stage :: stages) log ended log' := by
  have hlog : ∀ done : List CaptureStage, ∀ last : Effect,
      log ++ [.apply stage] ++ done.map .apply ++ [last] =
        log ++ (stage :: done).map .apply ++ [last] := by simp
  cases h with
  | active => rw [hlog]; exact .active
  | stale done h => rw [hlog]; exact .stale _ (List.cons_prefix_cons.2 ⟨rfl, h⟩)
  | halted done h hne => rw [hlog]; exact .halted _ (List.cons_prefix_cons.2 ⟨rfl, h⟩) (by simp)
  | threw done h hne => rw [hlog]; exact .threw _ (List.cons_prefix_cons.2 ⟨rfl, h⟩) (by simp)

section Spec

variable {settings : CaptureReadinessSettings} {env : Others} {ticket : CaptureTicket}

lemma applyStages_exit (stages : List CaptureStage) (log : List Effect) (r : CaptureReadiness) :
    LoopExit stages log (applyStages settings env ticket stages log r).ended
      (applyStages settings env ticket stages log r).log := by
  induction stages generalizing log r with
  | nil =>
    simp only [applyStages, finish]
    split
    · simpa using @LoopExit.active [] log
    · simpa using @LoopExit.stale [] log [] List.nil_prefix
  | cons stage stages ih =>
    simp only [applyStages]
    split_ifs with hstale
    · simpa using @LoopExit.stale (stage :: stages) log [] List.nil_prefix
    · cases env.outcome stage with
      | applied => exact (ih _ _).cons
      | refused =>
        simpa using @LoopExit.halted (stage :: stages) log [stage] (by simp) (by simp)
      | threw =>
        simpa using @LoopExit.threw (stage :: stages) log [stage] (by simp) (by simp)

theorem applyCapture_exit (r : CaptureReadiness) :
    ((applyCapture settings env ticket r).ended = .returned .waiting ∧
      (applyCapture settings env ticket r).log = []) ∨
    LoopExit captureStages [] (applyCapture settings env ticket r).ended
      (applyCapture settings env ticket r).log := by
  simp only [applyCapture]
  split_ifs with hstale
  · exact .inl ⟨rfl, rfl⟩
  · exact .inr (applyStages_exit _ _ _)

/-! ### The readiness -/

/-- Nobody else commits. -/
def Others.NoCommit (env : Others) : Prop :=
  (∀ call ∈ env.entry.others, ∀ ticket, call.op ≠ .commit ticket) ∧
  (∀ stage, ∀ call ∈ (env.check stage).others, ∀ ticket, call.op ≠ .commit ticket) ∧
  ∀ call ∈ env.commit.others, ∀ ticket, call.op ≠ .commit ticket

variable {r : CaptureReadiness}

lemma inactive_apply {call : Call} (h : r.active = false)
    (hop : ∀ ticket, call.op ≠ .commit ticket) : (call.apply settings r).active = false := by
  cases hcall : call.op <;>
    simp only [Call.apply, hcall, CaptureReadiness.networkChanged, CaptureReadiness.proofBarrier,
      CaptureReadiness.cancel, CaptureReadiness.invalidate, CaptureReadiness.networkEventHandled,
      CaptureReadiness.completeSample, h]
  case commit ticket => exact absurd hcall (hop ticket)
  all_goals split_ifs <;> first | rfl | exact h

lemma inactive_readiness {a : Access} (h : r.active = false)
    (hop : ∀ call ∈ a.others, ∀ ticket, call.op ≠ .commit ticket) :
    (a.readiness settings r).active = false := by
  unfold Access.readiness
  generalize a.others = calls at hop
  induction calls generalizing r with
  | nil => exact h
  | cons call calls ih =>
    exact ih (inactive_apply h (hop call List.mem_cons_self))
      fun call' hcall' => hop call' (List.mem_cons_of_mem _ hcall')

lemma inactive_applyStages (henv : env.NoCommit) (stages : List CaptureStage) (log : List Effect)
    (h : r.active = false)
    (hend : (applyStages settings env ticket stages log r).ended ≠ .returned .active) :
    (applyStages settings env ticket stages log r).readiness.active = false := by
  induction stages generalizing log r with
  | nil =>
    have hr : (env.commit.readiness settings r).active = false := inactive_readiness h henv.2.2
    simp only [applyStages, finish, CaptureReadiness.commit] at hend ⊢
    split_ifs at hend ⊢
    · exact absurd rfl hend
    · exact hr
  | cons stage stages ih =>
    have hr : ((env.check stage).readiness settings r).active = false :=
      inactive_readiness h (henv.2.1 stage)
    simp only [applyStages] at hend ⊢
    split_ifs at hend ⊢ with hstale
    · exact hr
    · cases hout : env.outcome stage with
      | applied =>
        simp only [hout] at hend ⊢
        exact ih _ hr hend
      | refused => exact hr
      | threw => exact hr

lemma inactive_applyCapture (henv : env.NoCommit) (h : r.active = false)
    (hend : (applyCapture settings env ticket r).ended ≠ .returned .active) :
    (applyCapture settings env ticket r).readiness.active = false := by
  have hr : (env.entry.readiness settings r).active = false := inactive_readiness h henv.1
  simp only [applyCapture] at hend ⊢
  split_ifs at hend ⊢
  · exact hr
  · exact inactive_applyStages henv _ _ hr hend

end Spec

/-! ### All or nothing -/

lemma rolledBack_log (done : List CaptureStage) :
    (done.map Effect.apply ++ [Effect.rollback]).count .rollback = 1 ∧
      (done.map Effect.apply ++ [Effect.rollback]).getLast? = some .rollback ∧
      Effect.commit ∉ done.map Effect.apply ++ [Effect.rollback] := by
  refine ⟨?_, by simp, by simp⟩
  rw [List.count_append, List.count_eq_zero.2 (by simp)]
  rfl

lemma LoopExit.cases_active {stages : List CaptureStage} {ended : CaptureExitKind}
    {log : List Effect} (h : LoopExit stages [] ended log) :
    (ended = .returned .active ∧ log = stages.map .apply ++ [.commit]) ∨
      (ended ≠ .returned .active ∧ ∃ done : List CaptureStage,
        log = done.map .apply ++ [.rollback]) := by
  cases h with
  | active => exact .inl ⟨rfl, by simp⟩
  | stale done h | halted done h hne | threw done h hne => exact .inr ⟨by simp, done, by simp⟩

lemma applyCapture_log (settings : CaptureReadinessSettings) (env : Others)
    (ticket : CaptureTicket) (r : CaptureReadiness) :
    ((applyCapture settings env ticket r).ended = .returned .active ∧
      (applyCapture settings env ticket r).log = captureStages.map .apply ++ [.commit]) ∨
    ((applyCapture settings env ticket r).ended ≠ .returned .active ∧
      ((applyCapture settings env ticket r).log = [] ∨ ∃ done : List CaptureStage,
        (applyCapture settings env ticket r).log = done.map .apply ++ [.rollback])) := by
  rcases @applyCapture_exit settings env ticket r with ⟨hwait, hnil⟩ | hexit
  · exact .inr ⟨by simp [hwait], .inl hnil⟩
  · rcases hexit.cases_active with h | ⟨hend, hdone⟩
    · exact .inl h
    · exact .inr ⟨hend, .inr hdone⟩

/-- **The capture transaction is all or nothing.**  It returns `active` exactly
when the four stages were applied in order and the commit succeeded, and then it
rolled nothing back.  Every other way out that applied a stage rolled back once,
last, and did not activate the readiness.  A ticket that is stale on entry leaves
the machine alone; one that goes stale before the first stage is rolled back,
with nothing applied. -/
theorem applyCapture_all_or_nothing (settings : CaptureReadinessSettings) (env : Others)
    (ticket : CaptureTicket) (r : CaptureReadiness) :
    ((applyCapture settings env ticket r).ended = .returned .active ↔
      (applyCapture settings env ticket r).log =
        [.apply .prepare, .apply .firewall, .apply .network, .apply .connected, .commit]) ∧
    ((applyCapture settings env ticket r).ended ≠ .returned .active →
      .commit ∉ (applyCapture settings env ticket r).log ∧
      (r.active = false → env.NoCommit →
        (applyCapture settings env ticket r).readiness.active = false) ∧
      ((∃ stage, .apply stage ∈ (applyCapture settings env ticket r).log) →
        (applyCapture settings env ticket r).log.count .rollback = 1 ∧
        (applyCapture settings env ticket r).log.getLast? = some .rollback)) ∧
    ((env.entry.readiness settings r).current settings env.entry.clock ticket = false →
      (applyCapture settings env ticket r).ended = .returned .waiting ∧
      (applyCapture settings env ticket r).log = []) ∧
    ((applyCapture settings env ticket r).ended = .returned .waiting →
      (∀ stage, .apply stage ∉ (applyCapture settings env ticket r).log) →
      (env.entry.readiness settings r).current settings env.entry.clock ticket = true →
      (applyCapture settings env ticket r).log = [.rollback]) ∧
    ((env.entry.readiness settings r).current settings env.entry.clock ticket = true →
      ((env.check .prepare).readiness settings (env.entry.readiness settings r)).current settings
        (env.check .prepare).clock ticket = false →
      (applyCapture settings env ticket r).ended = .returned .waiting ∧
      (applyCapture settings env ticket r).log = [.rollback]) := by
  have hlog := applyCapture_log settings env ticket r
  refine ⟨⟨fun hend => ?_, fun hfull => ?_⟩, fun hend => ?_, fun hstale => ?_,
    fun hend hnone hcurrent => ?_, fun hcurrent hstale => ?_⟩
  · rcases hlog with ⟨-, hfull⟩ | ⟨hne, -⟩
    · exact hfull
    · exact absurd hend hne
  · rcases hlog with ⟨hend, -⟩ | ⟨-, hnil | ⟨done, hdone⟩⟩
    · exact hend
    · exact absurd (hnil.symm.trans hfull) (by simp)
    · have hmem := (rolledBack_log done).2.2
      rw [← hdone, hfull] at hmem
      exact absurd hmem (by simp)
  · rcases hlog with ⟨hactive, -⟩ | ⟨-, hdone⟩
    · exact absurd hactive hend
    · refine ⟨?_, fun h henv => inactive_applyCapture henv h hend, ?_⟩
      · rcases hdone with hnil | ⟨done, hdone⟩
        · simp [hnil]
        · rw [hdone]
          exact (rolledBack_log done).2.2
      · rintro ⟨stage, hstage⟩
        rcases hdone with hnil | ⟨done, hdone⟩
        · rw [hnil] at hstage
          exact absurd hstage (by simp)
        · rw [hdone]
          exact ⟨(rolledBack_log done).1, (rolledBack_log done).2.1⟩
  · simp [applyCapture, hstale]
  · -- past the entry check the loop is left, and no stage was applied
    have hexit := @applyStages_exit settings env ticket captureStages []
      (env.entry.readiness settings r)
    have heq : applyCapture settings env ticket r =
        applyStages settings env ticket captureStages [] (env.entry.readiness settings r) := by
      simp [applyCapture, hcurrent]
    rw [heq] at hend hnone ⊢
    rcases hexit.cases_active with ⟨hactive, -⟩ | ⟨-, done, hdone⟩
    · exact absurd (hactive.symm.trans hend) (by simp)
    · cases done with
      | nil => exact hdone
      | cons stage done => exact absurd (hdone ▸ by simp) (hnone stage)
  · -- the check at the head of the first stage finds the ticket stale
    simp [applyCapture, captureStages, applyStages, hcurrent, hstale]

/-- A ticket that goes stale between the entry check and the first stage. -/
def staleAfterEntry : Others where
  entry := { clock := 1500 }
  check := fun _ => { others := [⟨.networkChanged 1600, 1600⟩], clock := 1700 }
  outcome := fun _ => .applied
  commit := {}

/-- The object of a session with a ticket at hand. -/
def provenReadiness : CaptureReadiness :=
  { revision := 2, generation := 4, sampledMillis := 1000, proven := true }

/-- Waiting before the first stage, and yet a rollback. -/
theorem applyCapture_stale_before_first_stage :
    (provenReadiness.ready {} 1400 = some ⟨2, 4, 1000⟩) ∧
    (applyCapture {} staleAfterEntry ⟨2, 4, 1000⟩ provenReadiness).ended = .returned .waiting ∧
    (∀ stage, .apply stage ∉ (applyCapture {} staleAfterEntry ⟨2, 4, 1000⟩ provenReadiness).log) ∧
    .rollback ∈ (applyCapture {} staleAfterEntry ⟨2, 4, 1000⟩ provenReadiness).log := by
  have hlog : (applyCapture {} staleAfterEntry ⟨2, 4, 1000⟩ provenReadiness).log = [.rollback] := by
    decide
  refine ⟨by decide, by decide, fun stage => ?_, ?_⟩
  · simp [hlog]
  · simp [hlog]

/-- The transaction of a session nobody interferes with. -/
def undisturbed : Others where
  entry := { clock := 1500 }
  check := fun _ => { clock := 1500 }
  outcome := fun stage => if stage = .network then .threw else .applied
  commit := { clock := 1500 }

theorem applyCapture_all_or_nothing_network_throws :
    (applyCapture {} undisturbed ⟨2, 4, 1000⟩ provenReadiness).ended = .threw ∧
    (applyCapture {} undisturbed ⟨2, 4, 1000⟩ provenReadiness).log.count .rollback = 1 ∧
    (applyCapture {} undisturbed ⟨2, 4, 1000⟩ provenReadiness).readiness.active = false :=
  have hspec := (applyCapture_all_or_nothing {} undisturbed ⟨2, 4, 1000⟩ provenReadiness).2.1
    (by decide)
  ⟨by decide, (hspec.2.2 ⟨.network, by decide⟩).1,
    hspec.2.1 rfl ⟨by simp [undisturbed], by simp [undisturbed], by simp [undisturbed]⟩⟩

end UrnetworkWindows.Capture
