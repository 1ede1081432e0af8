/-
Runs of a labelled transition system, with their history.

A run is the list of its transitions, oldest first, and the state it ends in.
The step relation may look at the history, so that a system can require, say,
that a value handed to it was handed out before.
-/
import UrnetworkWindows.Lib.Places

namespace UrnetworkWindows.Lib

variable {σ α : Type*}

/-- One transition: the state before it, its label and the state after it. -/
structure Transition (σ α : Type*) where
  pre : σ
  label : α
  post : σ

/-- Where an element sits in a list that was extended at the end: it is the new
element, or it sat in the list before. -/
lemma eq_or_mem_of_snoc {es pre mid : List α} {e b : α} (h : es ++ [e] = pre ++ b :: mid) :
    (mid = [] ∧ es = pre ∧ e = b) ∨ ∃ mid', mid = mid' ++ [e] ∧ es = pre ++ b :: mid' := by
  rcases List.eq_nil_or_concat mid with rfl | ⟨mid', e', rfl⟩
  · obtain ⟨hes, heq⟩ := List.append_inj' h rfl
    exact .inl ⟨rfl, hes, List.singleton_inj.1 heq⟩
  · have h' : es ++ [e] = (pre ++ b :: mid') ++ [e'] := by simpa using h
    obtain ⟨hes, heq⟩ := List.append_inj' h' rfl
    obtain rfl := List.singleton_inj.1 heq
    exact .inr ⟨mid', List.concat_eq_append, hes⟩

/-- A step that is taken only where its guard holds. -/
lemma guard_eq_some {p : Prop} [Decidable p] {s s' : σ} :
    (if p then some s else none) = some s' ↔ p ∧ s = s' := by
  rw [Option.ite_none_right_eq_some, Option.some_inj]

/-- A step that is taken only where nothing stops it. -/
lemma stop_eq_some {p : Prop} [Decidable p] {s s' : σ} :
    (if p then none else some s) = some s' ↔ ¬ p ∧ s = s' := by
  rw [Option.ite_none_left_eq_some, Option.some_inj]

/-- The runs of a system from its initial states. -/
inductive Run (init : σ → Prop) (step : List (Transition σ α) → σ → α → σ → Prop) :
    List (Transition σ α) → σ → Prop
  | nil {s : σ} (h : init s) : Run init step [] s
  | snoc {es : List (Transition σ α)} {s : σ} {a : α} {s' : σ} (h : Run init step es s)
      (hstep : step es s a s') : Run init step (es ++ [⟨s, a, s'⟩]) s'

namespace Run

variable {init : σ → Prop} {step : List (Transition σ α) → σ → α → σ → Prop}
  {es : List (Transition σ α)} {s : σ}

/-- A property of histories and states that a step keeps holds along every run. -/
theorem invariant {P : List (Transition σ α) → σ → Prop} (hinit : ∀ s, init s → P [] s)
    (hstep : ∀ es s a s', P es s → step es s a s' → P (es ++ [⟨s, a, s'⟩]) s')
    (h : Run init step es s) : P es s := by
  induction h with
  | nil h => exact hinit _ h
  | snoc _ hs ih => exact hstep _ _ _ _ ih hs

variable {e : Transition σ α}

/-- A run up to one of its transitions is a run, and the transition is a step. -/
theorem split (h : Run init step es s) {pre post : List (Transition σ α)}
    (he : es = pre ++ e :: post) : Run init step pre e.pre ∧ step pre e.pre e.label e.post := by
  induction h generalizing post with
  | nil => exact absurd he (by simp)
  | @snoc es s a s' hrun hstep ih =>
    rcases eq_or_mem_of_snoc he with ⟨rfl, rfl, rfl⟩ | ⟨post', rfl, rfl⟩
    · exact ⟨hrun, hstep⟩
    · exact ih rfl

/-- The first part of a run is a run. -/
theorem of_append {es₁ es₂ : List (Transition σ α)} (h : Run init step (es₁ ++ es₂) s) :
    ∃ s₁, Run init step es₁ s₁ := by
  cases es₂ with
  | nil =>
    rw [List.append_nil] at h
    exact ⟨s, h⟩
  | cons e es₂ => exact ⟨e.pre, (h.split rfl).1⟩

/-- The state after a transition and the one the run has come to are related by what every
step keeps. -/
theorem related {R : σ → σ → Prop} (hrefl : ∀ s, R s s)
    (htrans : ∀ s₁ s₂ s₃, R s₁ s₂ → R s₂ s₃ → R s₁ s₃)
    (hstep : ∀ es s a s', Run init step es s → step es s a s' → R s s') (h : Run init step es s)
    {pre post : List (Transition σ α)} (he : es = pre ++ e :: post) : R e.post s := by
  induction h generalizing post with
  | nil => exact absurd he (by simp)
  | @snoc es s a s' hrun hs ih =>
    rcases eq_or_mem_of_snoc he with ⟨-, -, rfl⟩ | ⟨post', -, rfl⟩
    · exact hrefl _
    · exact htrans _ _ _ (ih rfl) (hstep _ _ _ _ hrun hs)

/-- A run ends in the state after its last transition. -/
theorem post_eq (h : Run init step (es ++ [e]) s) : e.post = s := by
  generalize hes : es ++ [e] = es' at h
  cases h with
  | nil => exact absurd hes (by simp)
  | snoc h hstep =>
    obtain ⟨-, he⟩ := List.append_inj' hes rfl
    rw [List.singleton_inj.1 he]

/-- What holds after a transition, and is kept by each step since, holds where the run has come
to. -/
theorem kept_since {R : σ → Prop} {ok : Transition σ α → Prop}
    (hstep : ∀ es s a s', step es s a s' → ok ⟨s, a, s'⟩ → R s → R s')
    {pre mid : List (Transition σ α)} (h : Run init step (pre ++ e :: mid) s) (he : R e.post)
    (hmid : ∀ e ∈ mid, ok e) : R s := by
  induction mid using List.reverseRecOn generalizing s with
  | nil =>
    rw [← h.post_eq]
    exact he
  | append_singleton mid e' ih =>
    rw [← List.cons_append, ← List.append_assoc] at h
    obtain ⟨hrun, hs⟩ := h.split rfl
    have hpre := ih hrun fun e hmem => hmid e (List.mem_append_left _ hmem)
    rw [← h.post_eq]
    exact hstep _ _ _ _ hs (hmid e' List.mem_concat_self) hpre

/-- A run of a partial function under a condition goes on. -/
lemma and_then {next : σ → α → Option σ} {cond : σ → α → Prop} {a : α} {s' : σ}
    (h : Run init (fun _ s a s' => next s a = some s' ∧ cond s a) es s) (hs : next s a = some s')
    (hcond : cond s a) :
    Run init (fun _ s a s' => next s a = some s' ∧ cond s a) (es ++ [⟨s, a, s'⟩]) s' :=
  h.snoc ⟨hs, hcond⟩

end Run

/-! ### Following labels

Where the state and the label decide the next state, if there is one, a list of labels can be
followed from a state. -/

/-- The state a list of labels leads to. -/
def follow (next : σ → α → Option σ) : σ → List α → Option σ
  | s, [] => some s
  | s, a :: as => (next s a).bind fun s' => follow next s' as

/-- A run goes on along labels that can be followed. -/
lemma Run.follow {next : σ → α → Option σ} {init : σ → Prop}
    {step : List (Transition σ α) → σ → α → σ → Prop}
    (hnext : ∀ es s a s', next s a = some s' → step es s a s') {es : List (Transition σ α)}
    {s s' : σ} {as : List α} (h : Run init step es s) (hs : Lib.follow next s as = some s') :
    ∃ es', Run init step (es ++ es') s' ∧ es'.map Transition.label = as := by
  induction as generalizing es s with
  | nil =>
    cases hs
    exact ⟨[], by rwa [List.append_nil], rfl⟩
  | cons a as ih =>
    obtain ⟨s₁, hs₁, hs⟩ := Option.bind_eq_some_iff.1 hs
    obtain ⟨es', hrun, hlabels⟩ := ih (h.snoc (hnext es s a s₁ hs₁)) hs
    refine ⟨⟨s, a, s₁⟩ :: es', ?_, ?_⟩
    · rwa [List.append_assoc] at hrun
    · rw [List.map_cons, hlabels]

/-! ### Runs of a function

Where the label decides the step, a list of labels decides the run. -/

section Function

variable (next : σ → α → σ) (ok : σ → α → Bool)

/-- The transitions a list of labels makes. -/
def transitions : σ → List α → List (Transition σ α)
  | _, [] => []
  | s, a :: as => ⟨s, a, next s a⟩ :: transitions (next s a) as

/-- Every label is allowed where it comes. -/
def allowed : σ → List α → Bool
  | _, [] => true
  | s, a :: as => ok s a && allowed (next s a) as

variable {next ok}

/-- A run goes on with any list of allowed labels. -/
theorem Run.extend {init : σ → Prop} {step : List (Transition σ α) → σ → α → σ → Prop}
    (hstep : ∀ es s a, ok s a = true → step es s a (next s a)) (as : List α) :
    ∀ {es : List (Transition σ α)} {s : σ}, Run init step es s → allowed next ok s as = true →
      Run init step (es ++ transitions next s as) (as.foldl next s) := by
  induction as with
  | nil =>
    intro es s h _
    simpa [transitions] using h
  | cons a as ih =>
    intro es s h hall
    simp only [allowed, Bool.and_eq_true] at hall
    obtain ⟨hok, hrest⟩ := hall
    have hrun := ih (h.snoc (hstep es s a hok)) hrest
    simpa [transitions] using hrun

end Function

/-! ### Runs of a partial function -/

section Partial

variable (next : σ → α → Option σ) (ok : σ → α → Bool)

/-- The state after a list of labels, if all of them are allowed and can be taken. -/
def execute : σ → List α → Option σ
  | s, [] => some s
  | s, a :: as => if ok s a then (next s a).bind fun s' => execute s' as else none

variable {init : σ → Prop} {step : List (Transition σ α) → σ → α → σ → Prop}

lemma Run.execute {s' : σ}
    (hstep : ∀ es s a s', ok s a = true → next s a = some s' → step es s a s') (as : List α) :
    ∀ {es : List (Transition σ α)} {s : σ}, Run init step es s →
      Lib.execute next ok s as = some s' → ∃ es', Run init step es' s' := by
  induction as with
  | nil =>
    intro es s h hexec
    cases hexec
    exact ⟨es, h⟩
  | cons a as ih =>
    intro es s h hexec
    simp only [Lib.execute, Option.ite_none_right_eq_some] at hexec
    obtain ⟨hok, hexec⟩ := hexec
    obtain ⟨s₁, hs₁, hexec⟩ := Option.bind_eq_some_iff.1 hexec
    exact ih (h.snoc (hstep es s a s₁ hok hs₁)) hexec

/-- A run to a state of a given kind, from an execution of it. -/
theorem Run.exists_of_execute
    (hstep : ∀ es s a s', ok s a = true → next s a = some s' → step es s a s') {s₀ : σ}
    (hinit : init s₀) (as : List α) (good : σ → Bool)
    (h : ((Lib.execute next ok s₀ as).any good) = true) :
    ∃ es s, Run init step es s ∧ good s = true := by
  obtain ⟨s, hexec, hgood⟩ := (Option.any_eq_true _ _).1 h
  obtain ⟨es, hrun⟩ := Run.execute next ok hstep as (.nil hinit) hexec
  exact ⟨es, s, hrun, hgood⟩

/-- The same for the runs from one state whose steps meet a condition. -/
theorem Run.exists_of_cond (cond : σ → α → Prop) [∀ s a, Decidable (cond s a)] (s₀ : σ)
    (as : List α) (good : σ → Bool)
    (h : ((Lib.execute next (fun s a => decide (cond s a)) s₀ as).any good) = true) :
    ∃ es s, Run (· = s₀) (fun _ s a s' => next s a = some s' ∧ cond s a) es s ∧ good s = true := by
  refine Run.exists_of_execute _ _ ?_ ?_ as good h
  · intro _ s a s' hok hstep
    exact ⟨hstep, of_decide_eq_true hok⟩
  · rfl

end Partial

end UrnetworkWindows.Lib
