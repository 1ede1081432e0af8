/-
The run gate of the confirmation poll and its budget (`ConfirmationPollGate.h`).

The poll runs while a confirmation waits and the window is visible and focused.  The gate
banks what is left of the budget when the poll pauses and goes on from there when it resumes,
so that at any time what is left is the budget less the time the user has looked since the
last start (`Tracks.max_remaining`): a run is a list of calls, and each of them leaves the
forecast of the one before it to hold up to its own time (`max_remainingAt_apply`).
-/
import UrnetworkWindows.Lib.Signal

namespace UrnetworkWindows.Balance

open Lib

def kConfirmationBudgetMillis : ℤ := 120 * 1000

structure ConfirmationPollGate where
  budgetMillis : ℤ
  confirming : Bool := false
  visible : Bool := false
  focused : Bool := true
  running : Bool := false
  remainingMillis : ℤ := 0
  runningSinceMillis : ℤ := 0
deriving DecidableEq, Repr

namespace ConfirmationPollGate

variable (g : ConfirmationPollGate)

def remainingAt (nowMillis : ℤ) : ℤ :=
  if !g.running then g.remainingMillis
  else max 0 (g.remainingMillis - max 0 (nowMillis - g.runningSinceMillis))

def expiredAt (nowMillis : ℤ) : Bool := g.confirming && decide (g.remainingAt nowMillis ≤ 0)

def shouldRun : Bool := g.confirming && g.visible && g.focused

/-- `Apply`: what it returns, and the gate after it. -/
def apply (nowMillis : ℤ) : Bool × ConfirmationPollGate :=
  if g.shouldRun == g.running then (false, g)
  else if g.shouldRun then (true, { g with runningSinceMillis := nowMillis, running := true })
  else (false, { g with remainingMillis := g.remainingAt nowMillis, running := false })

def start (nowMillis : ℤ) : Bool × ConfirmationPollGate :=
  apply { g with confirming := true, remainingMillis := g.budgetMillis, running := false } nowMillis

def stop : ConfirmationPollGate :=
  { g with confirming := false, running := false, remainingMillis := 0 }

def setVisible (visible : Bool) (nowMillis : ℤ) : Bool × ConfirmationPollGate :=
  apply { g with visible } nowMillis

def setFocused (focused : Bool) (nowMillis : ℤ) : Bool × ConfirmationPollGate :=
  apply { g with focused } nowMillis

/-! ### Calls -/

inductive Op
  | start (nowMillis : ℤ)
  | stop
  | setVisible (visible : Bool) (nowMillis : ℤ)
  | setFocused (focused : Bool) (nowMillis : ℤ)
deriving DecidableEq, Repr

/-- The clock a call is given. -/
def Op.time : Op → Option ℤ
  | .start now | .setVisible _ now | .setFocused _ now => some now
  | .stop => none

/-- What a call returns, if anything, and the gate after it. -/
def call : Op → Option Bool × ConfirmationPollGate
  | .start now => (some (g.start now).1, (g.start now).2)
  | .stop => (none, g.stop)
  | .setVisible visible now => (some (g.setVisible visible now).1, (g.setVisible visible now).2)
  | .setFocused focused now => (some (g.setFocused focused now).1, (g.setFocused focused now).2)

/-- The gate of this budget after the calls. -/
def after (budgetMillis : ℤ) (ops : List Op) : ConfirmationPollGate :=
  ops.foldl (fun g op => (g.call op).2) { budgetMillis }

/-! ### What the history says -/

def visibleSets (ops : List Op) : List (ℤ × Bool) :=
  ops.filterMap fun
    | .setVisible visible now => some (now, visible)
    | _ => none

def focusedSets (ops : List Op) : List (ℤ × Bool) :=
  ops.filterMap fun
    | .setFocused focused now => some (now, focused)
    | _ => none

/-- The window is visible and focused at this time. -/
def Watched (ops : List Op) (τ : ℤ) : Prop :=
  valueAt false (visibleSets ops) τ = true ∧ valueAt true (focusedSets ops) τ = true

instance (ops : List Op) : DecidablePred (Watched ops) := fun _ =>
  inferInstanceAs (Decidable (_ ∧ _))

/-- When the confirmation that waits was started. -/
def confirmingSince (ops : List Op) : Option ℤ :=
  ops.foldl
    (fun since op =>
      match op with
      | .start now => some now
      | .stop => none
      | _ => since)
    none

/-- The time since the last start during which the gate was visible and focused. -/
noncomputable def watchedMillis (ops : List Op) (since t : ℤ) : ℤ := spent (Watched ops) since t

/-! ### One call -/

section

variable {g : ConfirmationPollGate} {now t x : ℤ}

@[simp] lemma apply_running : (g.apply now).2.running = g.shouldRun := by
  unfold apply
  split_ifs with heq hrun
  · exact (beq_iff_eq.1 heq).symm
  · exact hrun.symm
  · simpa using hrun

lemma apply_frame (now : ℤ) : (g.apply now).2.budgetMillis = g.budgetMillis ∧
    (g.apply now).2.confirming = g.confirming ∧ (g.apply now).2.visible = g.visible ∧
    (g.apply now).2.focused = g.focused := by
  unfold apply
  split_ifs <;> simp

lemma apply_fst : (g.apply now).1 = (!g.running && g.shouldRun) := by
  unfold apply
  split_ifs with heq hrun
  · obtain heq := beq_iff_eq.1 heq
    simp [heq]
  · cases hg : g.running
    · simp [hrun]
    · exact absurd (beq_iff_eq.2 (hrun.trans hg.symm)) heq
  · simp [hrun]

/-- What the budget comes to goes on as the poll runs or not: a pass banks at its own time what
was forecast for it. -/
lemma max_remainingAt_apply (ht : now ≤ t)
    (h : ∀ t, now ≤ t → max 0 (g.remainingAt t) = max 0 (x - if g.running then t - now else 0)) :
    max 0 ((g.apply now).2.remainingAt t) = max 0 (x - if g.shouldRun then t - now else 0) := by
  have hnow := h now le_rfl
  have hlater := h t ht
  unfold apply
  split_ifs with heq hrun hrun
  · rw [hlater, ← beq_iff_eq.1 heq, hrun]
    rfl
  · rw [hlater, ← beq_iff_eq.1 heq, if_neg hrun]
  · have hoff : g.running = false := by
      by_contra hon
      exact heq (by simp [hrun, Bool.eq_true_of_not_eq_false hon])
    rw [hoff] at hnow
    simp only [remainingAt, hoff, Bool.not_false, if_true, Bool.false_eq_true, if_false] at hnow
    simp only [remainingAt, Bool.not_true, Bool.false_eq_true, if_false]
    omega
  · simp only [sub_self, ite_self, sub_zero] at hnow
    have hstill : ∀ τ, ({ g with remainingMillis := g.remainingAt now, running := false } :
        ConfirmationPollGate).remainingAt τ = g.remainingAt now := fun _ => rfl
    rw [hstill, hnow, sub_zero]

lemma remainingAt_nonneg (h : 0 ≤ g.remainingMillis) : 0 ≤ g.remainingAt t := by
  unfold remainingAt
  split_ifs
  · exact h
  · exact le_max_left _ _

lemma apply_remainingMillis_nonneg (h : 0 ≤ g.remainingMillis) :
    0 ≤ (g.apply now).2.remainingMillis := by
  unfold apply
  split_ifs
  · exact h
  · exact h
  · exact remainingAt_nonneg h

end

/-! ### The history, call by call -/

section

variable {budgetMillis : ℤ} {ops : List Op} {op : Op} {now t : ℤ}

lemma after_snoc : after budgetMillis (ops ++ [op]) = ((after budgetMillis ops).call op).2 := by
  rw [after, List.foldl_append]
  rfl

lemma visibleSets_past (h : Past Op.time ops t) : ∀ set ∈ visibleSets ops, set.1 ≤ t := by
  refine h.settings fun op now visible heq => ?_
  cases op with
  | setVisible visible' now' =>
    cases heq
    rfl
  | start | stop | setFocused => cases heq

lemma focusedSets_past (h : Past Op.time ops t) : ∀ set ∈ focusedSets ops, set.1 ≤ t := by
  refine h.settings fun op now focused heq => ?_
  cases op with
  | setFocused focused' now' =>
    cases heq
    rfl
  | start | stop | setVisible => cases heq

lemma watched_iff (h : Past Op.time ops t) : Watched ops t ↔
    lastValue false (visibleSets ops) = true ∧ lastValue true (focusedSets ops) = true := by
  rw [Watched, valueAt_eq_lastValue _ (visibleSets_past h),
    valueAt_eq_lastValue _ (focusedSets_past h)]

lemma watched_snoc_of_lt (hop : ∀ now ∈ op.time, t < now) :
    Watched (ops ++ [op]) t ↔ Watched ops t := by
  unfold Watched visibleSets focusedSets
  rw [List.filterMap_append, List.filterMap_append]
  cases op with
  | setVisible visible now | setFocused focused now =>
    have hlt := hop now rfl
    simp [not_le.2 hlt]
  | start | stop => simp

end

/-! ### What the gate knows of the history -/

/-- The gate after the calls, by what they say. -/
structure Tracks (budgetMillis : ℤ) (ops : List Op) (g : ConfirmationPollGate) : Prop where
  budget_eq : g.budgetMillis = budgetMillis
  visible_eq : g.visible = lastValue false (visibleSets ops)
  focused_eq : g.focused = lastValue true (focusedSets ops)
  confirming_eq : g.confirming = (confirmingSince ops).isSome
  running_eq : g.running = g.shouldRun
  since_le : ∀ since ∈ confirmingSince ops, ∀ t, Past Op.time ops t → since ≤ t
  max_remaining : ∀ since ∈ confirmingSince ops, ∀ t, Past Op.time ops t →
    max 0 (g.remainingAt t) = max 0 (budgetMillis - watchedMillis ops since t)
  nonneg : 0 ≤ budgetMillis → 0 ≤ g.remainingMillis

section

variable {budgetMillis : ℤ} {ops : List Op} {op : Op} {g : ConfirmationPollGate} {now since t : ℤ}

lemma watchedMillis_add (h : Past Op.time ops now) (hsince : since ≤ now) (ht : now ≤ t) :
    watchedMillis ops since t =
      watchedMillis ops since now + if Watched ops now then t - now else 0 := by
  have hconst : ∀ τ, now ≤ τ → (Watched ops τ ↔ Watched ops now) := fun τ hτ => by
    rw [watched_iff h, watched_iff fun now' hnow' => (h now' hnow').trans hτ]
  rw [watchedMillis, spent_add hsince ht, watchedMillis]
  split_ifs with hwatched
  · rw [spent_of_forall ht fun τ hτ _ => (hconst τ hτ).2 hwatched]
  · rw [spent_of_forall_not fun τ hτ _ => mt (hconst τ hτ).1 hwatched]

lemma watchedMillis_snoc (hop : op.time = some now) :
    watchedMillis (ops ++ [op]) since now = watchedMillis ops since now :=
  spent_congr fun τ _ hτ => watched_snoc_of_lt fun now' hnow' => by
    rw [hop, Option.mem_some_iff] at hnow'
    omega

lemma shouldRun_iff (hvisible : g.visible = lastValue false (visibleSets ops))
    (hfocused : g.focused = lastValue true (focusedSets ops)) (h : Past Op.time ops t) :
    g.shouldRun = true ↔ g.confirming = true ∧ Watched ops t := by
  rw [watched_iff h, shouldRun, Bool.and_eq_true, Bool.and_eq_true, hvisible, hfocused, and_assoc]

lemma Tracks.set (h : Tracks budgetMillis ops g) {visible focused : Bool}
    (hop : op.time = some now) (hpast : Past Op.time ops now)
    (hsince : confirmingSince (ops ++ [op]) = confirmingSince ops)
    (hvisible : visible = lastValue false (visibleSets (ops ++ [op])))
    (hfocused : focused = lastValue true (focusedSets (ops ++ [op]))) :
    Tracks budgetMillis (ops ++ [op]) (apply { g with visible, focused } now).2 := by
  obtain ⟨hbudget', hconfirming', hvisible', hfocused'⟩ :=
    apply_frame now (g := { g with visible, focused })
  have hpast' : Past Op.time (ops ++ [op]) now := past_snoc.2 ⟨hpast, fun now' hnow' => by
    rw [hop, Option.mem_some_iff] at hnow'
    omega⟩
  refine ⟨hbudget'.trans h.budget_eq, hvisible'.trans hvisible, hfocused'.trans hfocused, ?_, ?_,
    ?_, ?_, ?_⟩
  · rw [hconfirming', hsince]
    exact h.confirming_eq
  · rw [apply_running, shouldRun, shouldRun, hconfirming', hvisible', hfocused']
  · intro since hmem t ht
    rw [hsince] at hmem
    exact h.since_le since hmem t (past_snoc.1 ht).1
  · intro since hmem t ht
    rw [hsince] at hmem
    have hle : since ≤ now := h.since_le since hmem now hpast
    have hnow : now ≤ t := (past_snoc.1 ht).2 now (by rw [hop]; rfl)
    have hconfirming : g.confirming = true := by
      rw [h.confirming_eq, Option.mem_def.1 hmem]
      rfl
    -- what was forecast before the call
    have hforecast : ∀ t, now ≤ t → max 0 (remainingAt { g with visible, focused } t) =
        max 0 (budgetMillis - watchedMillis ops since now -
          if g.running then t - now else 0) := by
      intro t ht
      have hrun : g.running = true ↔ Watched ops now := by
        rw [h.running_eq, shouldRun_iff h.visible_eq h.focused_eq hpast]
        exact and_iff_right hconfirming
      have hremaining := h.max_remaining since hmem t fun now' hnow' => (hpast now' hnow').trans ht
      rw [watchedMillis_add hpast hle ht] at hremaining
      simp only [hrun]
      rw [sub_sub, ← hremaining]
      rfl
    have hrun : shouldRun { g with visible, focused } = true ↔ Watched (ops ++ [op]) now := by
      rw [shouldRun_iff hvisible hfocused hpast']
      exact and_iff_right hconfirming
    rw [max_remainingAt_apply hnow hforecast, watchedMillis_add hpast' hle hnow,
      watchedMillis_snoc hop, ← sub_sub]
    simp only [hrun]
  · exact fun hnonneg => apply_remainingMillis_nonneg (h.nonneg hnonneg)

end

/-! ### Runs -/

section

variable {budgetMillis : ℤ} {ops : List Op} {op : Op} {g : ConfirmationPollGate} {now t : ℤ}

lemma confirmingSince_snoc : confirmingSince (ops ++ [op]) =
    match op with
    | .start now => some now
    | .stop => none
    | _ => confirmingSince ops := by
  rw [confirmingSince, List.foldl_append]
  rfl

lemma Tracks.init : Tracks budgetMillis [] { budgetMillis } where
  budget_eq := rfl
  visible_eq := rfl
  focused_eq := rfl
  confirming_eq := rfl
  running_eq := rfl
  since_le := by rintro _ ⟨⟩
  max_remaining := by rintro _ ⟨⟩
  nonneg _ := le_rfl

lemma Tracks.start (h : Tracks budgetMillis ops g) (hpast : Past Op.time ops now) :
    Tracks budgetMillis (ops ++ [.start now]) (g.start now).2 := by
  obtain ⟨hbudget', hconfirming', hvisible', hfocused'⟩ := apply_frame now
    (g := { g with confirming := true, remainingMillis := g.budgetMillis, running := false })
  have hvisible : g.visible = lastValue false (visibleSets (ops ++ [.start now])) := by
    rw [h.visible_eq, visibleSets, visibleSets, List.filterMap_append]
    simp
  have hfocused : g.focused = lastValue true (focusedSets (ops ++ [.start now])) := by
    rw [h.focused_eq, focusedSets, focusedSets, List.filterMap_append]
    simp
  have hpast' : Past Op.time (ops ++ [.start now]) now := past_snoc.2 ⟨hpast, fun now' hnow' => by
    rw [Option.mem_def.1 hnow' |> Option.some.inj]⟩
  refine ⟨hbudget'.trans h.budget_eq, hvisible'.trans hvisible, hfocused'.trans hfocused, ?_, ?_,
    ?_, ?_, ?_⟩
  · rw [ConfirmationPollGate.start, hconfirming', confirmingSince_snoc]
    rfl
  · rw [ConfirmationPollGate.start, apply_running, shouldRun, shouldRun, hconfirming', hvisible',
      hfocused']
  · intro since hmem t ht
    rw [confirmingSince_snoc] at hmem
    cases hmem
    exact (past_snoc.1 ht).2 _ rfl
  · intro since hmem t ht
    rw [confirmingSince_snoc] at hmem
    cases hmem
    have hnow : now ≤ t := (past_snoc.1 ht).2 _ rfl
    have hforecast : ∀ t, now ≤ t → max 0 (remainingAt { g with
        confirming := true, remainingMillis := g.budgetMillis, running := false } t) =
        max 0 (budgetMillis - if (false : Bool) then t - now else 0) := fun _ _ => by
      rw [← h.budget_eq]
      simp [remainingAt]
    have hrun : shouldRun { g with
        confirming := true, remainingMillis := g.budgetMillis, running := false } = true ↔
        Watched (ops ++ [.start now]) now :=
      (shouldRun_iff (g := { g with
        confirming := true, remainingMillis := g.budgetMillis, running := false }) hvisible hfocused
        hpast').trans (and_iff_right rfl)
    rw [ConfirmationPollGate.start, max_remainingAt_apply hnow hforecast,
      watchedMillis_add hpast' le_rfl hnow, watchedMillis, spent_of_le le_rfl, zero_add]
    simp only [hrun]
  · intro hnonneg
    refine apply_remainingMillis_nonneg ?_
    exact h.budget_eq ▸ hnonneg

lemma Tracks.call (h : Tracks budgetMillis ops g) (hpast : ∀ now ∈ op.time, Past Op.time ops now) :
    Tracks budgetMillis (ops ++ [op]) (g.call op).2 := by
  cases op with
  | start now => exact h.start (hpast now rfl)
  | stop =>
    refine ⟨h.budget_eq, ?_, ?_, ?_, rfl, ?_, ?_, fun _ => le_rfl⟩
    · exact h.visible_eq.trans (by simp [visibleSets])
    · exact h.focused_eq.trans (by simp [focusedSets])
    · rw [confirmingSince_snoc]
      rfl
    · intro since hmem
      rw [confirmingSince_snoc] at hmem
      cases hmem
    · intro since hmem
      rw [confirmingSince_snoc] at hmem
      cases hmem
  | setVisible visible now =>
    refine h.set rfl (hpast now rfl) (by rw [confirmingSince_snoc]) ?_ ?_
    · simp [visibleSets]
    · exact h.focused_eq.trans (by simp [focusedSets])
  | setFocused focused now =>
    refine h.set rfl (hpast now rfl) (by rw [confirmingSince_snoc]) ?_ ?_
    · exact h.visible_eq.trans (by simp [visibleSets])
    · simp [focusedSets]

lemma after_tracks (h : Ordered Op.time ops) :
    Tracks budgetMillis ops (after budgetMillis ops) := by
  induction ops using List.reverseRecOn with
  | nil => exact Tracks.init
  | append_singleton ops op ih =>
    rw [after_snoc]
    obtain ⟨hops, hop⟩ := ordered_snoc.1 h
    exact (ih hops).call hop

lemma call_fst : (g.call op).1 = some true ↔
    (g.call op).2.running = true ∧ (g.running = false ∨ ∃ now, op = .start now) := by
  cases op with
  | start now => simp [ConfirmationPollGate.call, ConfirmationPollGate.start, apply_fst]
  | stop => simp [ConfirmationPollGate.call, stop]
  | setVisible visible now =>
    simp [ConfirmationPollGate.call, setVisible, apply_fst, and_comm]
  | setFocused focused now =>
    simp [ConfirmationPollGate.call, setFocused, apply_fst, and_comm]

/-- The budget burns only while the user looks: what is left of a budget that is not negative, at
any time after the calls, is the budget less the time since the last start during which the gate
was visible and focused. -/
theorem budget_burns_while_watched (budgetMillis : ℤ) {ops : List Op}
    (hops : Ordered Op.time ops) {t : ℤ} (ht : Past Op.time ops t) :
    let g := after budgetMillis ops
    (g.confirming = true ↔ ∃ since, confirmingSince ops = some since) ∧
    (0 ≤ budgetMillis → ∀ since, confirmingSince ops = some since →
      g.remainingAt t = max 0 (budgetMillis - watchedMillis ops since t)) ∧
    (g.running = true ↔ g.confirming = true ∧ Watched ops t) ∧
    (∀ op, (g.call op).1 = some true ↔
      (g.call op).2.running = true ∧ (g.running = false ∨ ∃ now, op = .start now)) ∧
    (g.expiredAt t = true ↔
      ∃ since, confirmingSince ops = some since ∧ budgetMillis ≤ watchedMillis ops since t) := by
  have h : Tracks budgetMillis ops (after budgetMillis ops) := after_tracks hops
  refine ⟨?_, ?_, ?_, fun op => call_fst, ?_⟩
  · rw [h.confirming_eq, Option.isSome_iff_exists]
  · intro hbudget since hsince
    rw [← h.max_remaining since hsince t ht, max_eq_right (remainingAt_nonneg (h.nonneg hbudget))]
  · rw [h.running_eq, shouldRun_iff h.visible_eq h.focused_eq ht]
  · rw [expiredAt, Bool.and_eq_true, decide_eq_true_eq, h.confirming_eq,
      Option.isSome_iff_exists]
    constructor
    · rintro ⟨⟨since, hsince⟩, hle⟩
      have hmax := h.max_remaining since hsince t ht
      exact ⟨since, hsince, by omega⟩
    · rintro ⟨since, hsince, hle⟩
      have hmax := h.max_remaining since hsince t ht
      exact ⟨⟨since, hsince⟩, by omega⟩

end

/-- A confirmation in the background of the browser for a while. -/
def checkout : List Op :=
  [.setVisible true 5, .start 10, .setFocused false 20, .setFocused true 50]

theorem budget_burns_while_watched_checkout :
    (after kConfirmationBudgetMillis checkout).remainingAt 70 = 119970 ∧
    (after kConfirmationBudgetMillis checkout).remainingAt 70 =
      max 0 (kConfirmationBudgetMillis - watchedMillis checkout 10 70) :=
  ⟨by decide, (budget_burns_while_watched kConfirmationBudgetMillis (by decide) (by decide)).2.1
    (by decide) 10 rfl⟩

end ConfirmationPollGate

end UrnetworkWindows.Balance
