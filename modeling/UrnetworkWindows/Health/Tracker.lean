/-
The aggregate connection health (`ConnectionHealth.h`).

`Tracker.update` folds one snapshot into the tracker.  What a snapshot can do to the attempt's
history is `Updated`: it ends the attempt, records proof or the unverified claim, finds a proven
attempt with no proven provider, or leaves the history as it is.  `History` reads the tracker's
fields off the run so far.
-/
import UrnetworkWindows.Session.Gesture

namespace UrnetworkWindows.Health

open Lib
open Session (HealthState)

/-- `Activity`. -/
inductive Activity
  | inactive
  | connecting
  | active
deriving DecidableEq, Repr

/-- `Signals`. -/
structure Signals where
  serviceConnected : Bool := false
  activity : Activity := .inactive
  gridKnown : Bool := false
  windowSize : ℤ := 0
  provenCount : ℤ := 0
  windowFailed : Bool := false
  statusFromLocation : Bool := false
deriving DecidableEq, Repr

/-- `Tracker`; a loss time below zero is none. -/
structure Tracker where
  state : HealthState := .noService
  proven : Bool := false
  provenLostAtMillis : ℤ := -1
  reevalAtMillis : ℤ := 0
deriving DecidableEq, Repr

def kDegradeHoldMillis : ℤ := 7000

namespace Tracker

/-- `ResetAttempt`. -/
def resetAttempt (k : Tracker) : Tracker :=
  { k with proven := false, provenLostAtMillis := -1, reevalAtMillis := 0 }

/-- `Update`, with no live grid feed. -/
def updateBlind (k : Tracker) (s : Signals) : Tracker :=
  if s.windowFailed && !k.proven then { k with state := .failed }
  else if k.state = .connected ∨ k.state = .degraded ∨ k.state = .evaluating then k
  else if s.activity = .active ∨ s.statusFromLocation = true ∧ s.activity = .connecting then
    { k with proven := true, provenLostAtMillis := -1, state := .connected }
  else { k with state := .connecting }

/-- `Update`, in a proven attempt with no proven provider. -/
def updateLost (k : Tracker) (nowMillis : ℤ) : Tracker :=
  let k :=
    if k.provenLostAtMillis < 0 then { k with provenLostAtMillis := nowMillis } else k
  if nowMillis - k.provenLostAtMillis < kDegradeHoldMillis then
    { k with
      reevalAtMillis := k.provenLostAtMillis + kDegradeHoldMillis
      state := .connected }
  else { k with state := .degraded }

/-- `Update`, with a live grid feed. -/
def updateShown (k : Tracker) (s : Signals) (nowMillis : ℤ) : Tracker :=
  if 1 ≤ s.provenCount then
    { k with proven := true, provenLostAtMillis := -1, state := .connected }
  else if s.windowFailed && !k.proven then { k with state := .failed }
  else if k.proven then k.updateLost nowMillis
  else if 0 < s.windowSize then { k with state := .evaluating }
  else { k with state := .connecting }

/-- `Update`; the answer is the state after it. -/
def update (k : Tracker) (s : Signals) (nowMillis : ℤ) : Tracker :=
  let k := { k with reevalAtMillis := 0 }
  if !s.serviceConnected then { k.resetAttempt with state := .noService }
  else if s.activity = .inactive then { k.resetAttempt with state := .disconnected }
  else if !s.gridKnown then k.updateBlind s
  else k.updateShown s nowMillis

/-- `NoteNewAttempt`. -/
def noteNewAttempt (k : Tracker) : Tracker := { k.resetAttempt with state := .connecting }

end Tracker

/-! ### Runs -/

/-- A call of the tracker. -/
inductive Op
  | update (s : Signals) (nowMillis : ℤ)
  | noteNewAttempt
deriving DecidableEq, Repr

/-- The tracker after a call. -/
def next (k : Tracker) : Op → Tracker
  | .update s nowMillis => k.update s nowMillis
  | .noteNewAttempt => k.noteNewAttempt

/-- A call, with the tracker before and after it. -/
abbrev Call := Transition Tracker Op

/-- The runs of a new tracker. -/
abbrev Runs : List Call → Tracker → Prop := Run (· = {}) fun _ k op k' => next k op = k'

/-- Something is attempted. -/
def Signals.live (s : Signals) : Bool := s.serviceConnected && s.activity ≠ .inactive

/-- The call ends the attempt: it reports no service or no connection, or begins a new one. -/
def Op.resets : Op → Bool
  | .update s _ => !s.live
  | .noteNewAttempt => true

/-- A grid-known snapshot with a proven provider. -/
def Op.proves : Op → Bool
  | .update s _ => s.live && s.gridKnown && decide (1 ≤ s.provenCount)
  | .noteNewAttempt => false

/-- With no grid feed, the session's own word is taken: the unverified claim. -/
def Tracker.unverified (k : Tracker) (s : Signals) : Bool :=
  !(s.windowFailed && !k.proven) &&
    !decide (k.state = .connected ∨ k.state = .degraded ∨ k.state = .evaluating) &&
      decide (s.activity = .active ∨ s.statusFromLocation = true ∧ s.activity = .connecting)

/-- The call records proof or the unverified claim. -/
def Records (t : Call) : Prop :=
  t.label.proves = true ∨ ∃ s nowMillis, t.label = .update s nowMillis ∧ s.live = true ∧
    s.gridKnown = false ∧ t.pre.unverified s = true

/-- A grid-known snapshot of a live attempt with no proven provider. -/
def Op.emptyAt (nowMillis : ℤ) : Op → Bool
  | .update s now =>
    s.live && s.gridKnown && decide (s.provenCount < 1) && decide (now = nowMillis)
  | .noteNewAttempt => false

/-! ### What a snapshot can do -/

variable {k k' : Tracker} {s : Signals} {nowMillis : ℤ} {op : Op} {es : List Call}

/-- When the proven providers were lost, at a snapshot that has none. -/
def Tracker.lostAt (k : Tracker) (nowMillis : ℤ) : ℤ :=
  if k.provenLostAtMillis < 0 then nowMillis else k.provenLostAtMillis

/-- The tracker after a snapshot. -/
inductive Updated (k : Tracker) (s : Signals) (nowMillis : ℤ) : Tracker → Prop
  | reset {state : HealthState} (hlive : s.live = false)
      (hstate : state = .noService ∨ state = .disconnected) : Updated k s nowMillis { state }
  | failed (hlive : s.live = true) (hproves : s.gridKnown = true → s.provenCount < 1)
      (hfailed : s.windowFailed = true) (hproven : k.proven = false) :
      Updated k s nowMillis { k with state := .failed, reevalAtMillis := 0 }
  | held (hlive : s.live = true) (hblind : s.gridKnown = false) (hclaim : k.unverified s = false)
      (hstate : k.state ≠ .failed) : Updated k s nowMillis { k with reevalAtMillis := 0 }
  | claimed (hlive : s.live = true) (hblind : s.gridKnown = false)
      (hclaim : k.unverified s = true) :
      Updated k s nowMillis { proven := true, state := .connected }
  | proved (hlive : s.live = true) (hknown : s.gridKnown = true) (hproves : 1 ≤ s.provenCount) :
      Updated k s nowMillis { proven := true, state := .connected }
  | waiting (hlive : s.live = true) (hknown : s.gridKnown = true) (hproves : s.provenCount < 1)
      (hproven : k.proven = true) (hhold : nowMillis - k.lostAt nowMillis < kDegradeHoldMillis) :
      Updated k s nowMillis
        { proven := true
          provenLostAtMillis := k.lostAt nowMillis
          reevalAtMillis := k.lostAt nowMillis + kDegradeHoldMillis
          state := .connected }
  | degraded (hlive : s.live = true) (hknown : s.gridKnown = true) (hproves : s.provenCount < 1)
      (hproven : k.proven = true) (hhold : kDegradeHoldMillis ≤ nowMillis - k.lostAt nowMillis) :
      Updated k s nowMillis
        { proven := true
          provenLostAtMillis := k.lostAt nowMillis
          state := .degraded }
  | seeking {state : HealthState} (hlive : s.live = true)
      (hproves : s.gridKnown = true → s.provenCount < 1 ∧ k.proven = false)
      (hclaim : s.gridKnown = false → k.unverified s = false)
      (hstate : state = .evaluating ∨ state = .connecting) :
      Updated k s nowMillis { k with state, reevalAtMillis := 0 }

lemma updated_lost (hlive : s.live = true) (hknown : s.gridKnown = true)
    (hproves : s.provenCount < 1) (hproven : k.proven = true) :
    Updated k s nowMillis ({ k with reevalAtMillis := 0 }.updateLost nowMillis) := by
  have heq : ({ k with reevalAtMillis := 0 } : Tracker).updateLost nowMillis =
      if nowMillis - k.lostAt nowMillis < kDegradeHoldMillis then
        { proven := true
          provenLostAtMillis := k.lostAt nowMillis
          reevalAtMillis := k.lostAt nowMillis + kDegradeHoldMillis
          state := .connected }
      else
        { proven := true
          provenLostAtMillis := k.lostAt nowMillis
          state := .degraded } := by
    rw [Tracker.updateLost, Tracker.lostAt]
    split_ifs <;> simp_all
  rw [heq]
  split_ifs with hhold
  · exact .waiting hlive hknown hproves hproven hhold
  · exact .degraded hlive hknown hproves hproven (not_lt.1 hhold)

lemma updated (k : Tracker) (s : Signals) (nowMillis : ℤ) :
    Updated k s nowMillis (k.update s nowMillis) := by
  rw [Tracker.update]
  split_ifs with hservice hactivity hblind
  · exact .reset (by simp_all [Signals.live]) (.inl rfl)
  · exact .reset (by simp [Signals.live, hactivity]) (.inr rfl)
  · have hlive : s.live = true := by simp_all [Signals.live]
    have hno : s.gridKnown = false := by simpa using hblind
    have hshown : s.gridKnown = true → s.provenCount < 1 := fun hyes =>
      absurd (hno.symm.trans hyes) (by simp)
    rw [Tracker.updateBlind]
    split_ifs with hfailed hstate hclaim
    · rw [Bool.and_eq_true, Bool.not_eq_true'] at hfailed
      exact .failed hlive hshown hfailed.1 hfailed.2
    · refine .held hlive hno ?_ ?_
      · simp [Tracker.unverified, hstate]
      · rcases hstate with h | h | h <;> rw [show k.state = _ from h] <;> simp
    · refine .claimed hlive hno ?_
      rw [Tracker.unverified, Bool.eq_false_iff.2 hfailed, decide_eq_false hstate,
        decide_eq_true hclaim]
      rfl
    · refine .seeking hlive (fun hyes => absurd (hno.symm.trans hyes) (by simp)) (fun _ => ?_)
        (.inr rfl)
      rw [Tracker.unverified, decide_eq_false hclaim, Bool.and_false]
  · have hlive : s.live = true := by simp_all [Signals.live]
    have hknown : s.gridKnown = true := by simpa using hblind
    have hclaim : s.gridKnown = false → k.unverified s = false := fun hno =>
      absurd (hno.symm.trans hknown) (by simp)
    rw [Tracker.updateShown]
    split_ifs with hproves hfailed hproven hwindow
    · exact .proved hlive hknown hproves
    · rw [Bool.and_eq_true, Bool.not_eq_true'] at hfailed
      exact .failed hlive (fun _ => not_le.1 hproves) hfailed.1 hfailed.2
    · exact updated_lost hlive hknown (not_le.1 hproves) hproven
    · exact .seeking hlive (fun _ => ⟨not_le.1 hproves, by simpa using hproven⟩) hclaim (.inl rfl)
    · exact .seeking hlive (fun _ => ⟨not_le.1 hproves, by simpa using hproven⟩) hclaim (.inr rfl)

/-! ### The history -/

/-- The history of the run holds what the tracker remembers: an attempt is proven if and only if
proof or the claim was recorded in it, and a time of loss is that of a snapshot without a proven
provider, after the record, with none that has one since. -/
structure History (es : List Call) (k : Tracker) : Prop where
  recorded : k.proven = true → ∃ pre p mid, es = pre ++ p :: mid ∧ Records p ∧
    ∀ v ∈ mid, v.label.resets = false
  unrecorded : k.proven = false → ∀ pre p mid, es = pre ++ p :: mid → Records p →
    ∃ v ∈ mid, v.label.resets = true
  lost : 0 ≤ k.provenLostAtMillis → k.proven = true ∧ ∃ pre z rest, es = pre ++ z :: rest ∧
    z.label.emptyAt k.provenLostAtMillis = true ∧
      (∀ v ∈ z :: rest, v.label.resets = false ∧ v.label.proves = false) ∧
        ∃ pre' p mid, pre = pre' ++ p :: mid ∧ Records p ∧ ∀ v ∈ mid, v.label.resets = false

variable {t : Call}

lemma History.reset (hresets : t.label.resets = true) (hproven : k'.proven = false)
    (hlost : k'.provenLostAtMillis < 0) (hrecords : ¬ Records t) : History (es ++ [t]) k' where
  recorded := fun hyes => absurd (hproven.symm.trans hyes) (by simp)
  unrecorded := by
    intro _ pre p mid he hp
    rcases eq_or_mem_of_snoc he with ⟨-, -, rfl⟩ | ⟨mid', rfl, -⟩
    · exact absurd hp hrecords
    · exact ⟨t, by simp, hresets⟩
  lost := fun hle => absurd hle (not_le.2 hlost)

lemma History.record (hrecords : Records t) (hproven : k'.proven = true)
    (hlost : k'.provenLostAtMillis < 0) : History (es ++ [t]) k' where
  recorded := fun _ => ⟨es, t, [], rfl, hrecords, by simp⟩
  unrecorded := fun hno => absurd (hproven.symm.trans hno) (by simp)
  lost := fun hle => absurd hle (not_le.2 hlost)

lemma History.keep (h : History es k) (hproven : k'.proven = k.proven)
    (hlost : k'.provenLostAtMillis = k.provenLostAtMillis) (hresets : t.label.resets = false)
    (hproves : t.label.proves = false) (hrecords : ¬ Records t) : History (es ++ [t]) k' where
  recorded := by
    intro hyes
    obtain ⟨pre, p, mid, rfl, hp, hmid⟩ := h.recorded (hproven ▸ hyes)
    refine ⟨pre, p, mid ++ [t], by simp, hp, ?_⟩
    exact List.forall_mem_append.2 ⟨hmid, List.forall_mem_singleton.2 hresets⟩
  unrecorded := by
    intro hno pre p mid he hp
    rcases eq_or_mem_of_snoc he with ⟨-, -, rfl⟩ | ⟨mid', rfl, rfl⟩
    · exact absurd hp hrecords
    · obtain ⟨v, hv, hv'⟩ := h.unrecorded (hproven ▸ hno) pre p mid' rfl hp
      exact ⟨v, List.mem_append_left _ hv, hv'⟩
  lost := by
    rw [hlost]
    intro hle
    obtain ⟨hyes, pre, z, rest, rfl, hz, hrest, hrecorded⟩ := h.lost hle
    refine ⟨hproven.trans hyes, pre, z, rest ++ [t], by simp, hz, ?_, hrecorded⟩
    rw [← List.cons_append]
    exact List.forall_mem_append.2 ⟨hrest, List.forall_mem_singleton.2 ⟨hresets, hproves⟩⟩

/-- A snapshot of a proven attempt that has no proven provider: the loss is remembered, or it is
this one. -/
lemma History.empty (h : History es k) (hyes : k.proven = true) (hproven : k'.proven = true)
    (hlost : k'.provenLostAtMillis = k.lostAt nowMillis) (hempty : t.label.emptyAt nowMillis = true)
    (hresets : t.label.resets = false) (hproves : t.label.proves = false)
    (hrecords : ¬ Records t) : History (es ++ [t]) k' := by
  by_cases hfirst : k.provenLostAtMillis < 0
  · have hnow : k'.provenLostAtMillis = nowMillis := by
      rw [hlost, Tracker.lostAt, if_pos hfirst]
    have hkeep : History (es ++ [t]) { k' with provenLostAtMillis := k.provenLostAtMillis } :=
      h.keep (hproven.trans hyes.symm) rfl hresets hproves hrecords
    refine ⟨hkeep.recorded, hkeep.unrecorded, fun _ => ⟨hproven, es, t, [], rfl, ?_, ?_, ?_⟩⟩
    · rw [hnow]
      exact hempty
    · exact List.forall_mem_singleton.2 ⟨hresets, hproves⟩
    · exact h.recorded hyes
  · refine h.keep (hproven.trans hyes.symm) ?_ hresets hproves hrecords
    rw [hlost, Tracker.lostAt, if_neg hfirst]

lemma not_records_of_failed (hfailed : s.windowFailed = true) (hproven : k.proven = false)
    (hproves : s.gridKnown = true → s.provenCount < 1) :
    ¬ Records ⟨k, .update s nowMillis, k'⟩ := by
  rintro (hyes | ⟨s', now, heq, -, -, hclaim⟩)
  · simp only [Op.proves, Bool.and_eq_true, decide_eq_true_eq] at hyes
    exact absurd hyes.2 (not_le.2 (hproves hyes.1.2))
  · obtain ⟨rfl, rfl⟩ := Op.update.inj heq
    simp [Tracker.unverified, hfailed, hproven] at hclaim

lemma not_records_of_no_claim (hclaim : s.gridKnown = false → k.unverified s = false)
    (hproves : s.gridKnown = true → s.provenCount < 1) :
    ¬ Records ⟨k, .update s nowMillis, k'⟩ := by
  rintro (hyes | ⟨s', now, heq, -, hblind, hyes⟩)
  · simp only [Op.proves, Bool.and_eq_true, decide_eq_true_eq] at hyes
    exact absurd hyes.2 (not_le.2 (hproves hyes.1.2))
  · obtain ⟨rfl, rfl⟩ := Op.update.inj heq
    exact absurd ((hclaim hblind).symm.trans hyes) (by simp)

lemma proves_eq_false (hproves : s.gridKnown = true → s.provenCount < 1) :
    (Op.update s nowMillis).proves = false := by
  rw [Op.proves, Bool.and_eq_false_iff]
  by_cases hknown : s.gridKnown = true
  · exact .inr (decide_eq_false (not_le.2 (hproves hknown)))
  · exact .inl (by simp [hknown])

lemma History.update (h : History es k) (hupdated : Updated k s nowMillis k') :
    History (es ++ [⟨k, .update s nowMillis, k'⟩]) k' := by
  have hlives : s.live = true → (Op.update s nowMillis).resets = false := fun hlive => by
    rw [Op.resets, hlive]
    rfl
  cases hupdated with
  | reset hlive hstate =>
    refine .reset (by simp [Op.resets, hlive]) rfl (by simp) ?_
    rintro (hyes | ⟨s', now, heq, hyes, -⟩)
    · simp [Op.proves, hlive] at hyes
    · obtain ⟨rfl, rfl⟩ := Op.update.inj heq
      exact absurd (hlive.symm.trans hyes) (by simp)
  | failed hlive hproves hfailed hproven =>
    exact h.keep rfl rfl (hlives hlive) (proves_eq_false hproves)
      (not_records_of_failed hfailed hproven hproves)
  | held hlive hblind hclaim hstate =>
    have hproves : s.gridKnown = true → s.provenCount < 1 := fun hyes =>
      absurd (hblind.symm.trans hyes) (by simp)
    exact h.keep rfl rfl (hlives hlive) (proves_eq_false hproves)
      (not_records_of_no_claim (fun _ => hclaim) hproves)
  | claimed hlive hblind hclaim =>
    exact .record (.inr ⟨s, nowMillis, rfl, hlive, hblind, hclaim⟩) rfl (by simp)
  | proved hlive hknown hproves =>
    exact .record (.inl (by simp [Op.proves, hlive, hknown, hproves])) rfl (by simp)
  | waiting hlive hknown hproves hproven hhold | degraded hlive hknown hproves hproven hhold =>
    exact h.empty hproven rfl rfl (by simp [Op.emptyAt, hlive, hknown, hproves]) (hlives hlive)
      (proves_eq_false fun _ => hproves) (not_records_of_no_claim
        (fun hno => absurd (hno.symm.trans hknown) (by simp)) fun _ => hproves)
  | seeking hlive hproves hclaim hstate =>
    have hnone : s.gridKnown = true → s.provenCount < 1 := fun hyes => (hproves hyes).1
    exact h.keep rfl rfl (hlives hlive) (proves_eq_false hnone)
      (not_records_of_no_claim hclaim hnone)

lemma history_of_runs (hrun : Runs es k) : History es k := by
  induction hrun with
  | nil h =>
    subst h
    exact ⟨by simp, fun _ pre p mid he => absurd he (by simp), by simp⟩
  | @snoc es k op k' _ hstep ih =>
    subst hstep
    cases op with
    | update s nowMillis => exact ih.update (updated k s nowMillis)
    | noteNewAttempt =>
      refine .reset rfl rfl (by simp [next, Tracker.noteNewAttempt, Tracker.resetAttempt]) ?_
      rintro (hyes | ⟨s, now, heq, -⟩)
      · simp [Op.proves] at hyes
      · exact absurd heq (by simp)

/-! ### Degraded is earned and announced -/

/-- In the attempt at the end of a run, after a record of proof or the claim, there is a
grid-known snapshot without a proven provider, the hold before a time or earlier, and since then
none that has one. -/
def Lost (es : List Call) (nowMillis : ℤ) : Prop :=
  ∃ pre z rest lostAt, es = pre ++ z :: rest ∧ z.label.emptyAt lostAt = true ∧
    lostAt ≤ nowMillis - kDegradeHoldMillis ∧
      (∀ v ∈ z :: rest, v.label.resets = false ∧ v.label.proves = false) ∧
        ∃ pre' p mid, pre = pre' ++ p :: mid ∧ Records p ∧ ∀ v ∈ mid, v.label.resets = false

/-- What is true of the answer of an `Update` after a run. -/
structure Answered (es : List Call) (s : Signals) (nowMillis : ℤ) (k' : Tracker) : Prop where
  degraded : s.gridKnown = true → k'.state = .degraded → Lost es nowMillis
  connected : s.live = true → s.gridKnown = true → 1 ≤ s.provenCount → k'.state = .connected
  failed : k'.state = .failed → s.windowFailed = true ∧
    ∀ pre p mid, es = pre ++ p :: mid → Records p → ∃ v ∈ mid, v.label.resets = true
  announced : 0 ≤ nowMillis → k'.reevalAtMillis ≠ 0 → ∀ later,
    (later < k'.reevalAtMillis → (k'.update s later).state = .connected) ∧
      (k'.reevalAtMillis ≤ later → (k'.update s later).state = .degraded)

lemma update_waiting {later lostAt : ℤ} (hlive : s.live = true) (hknown : s.gridKnown = true)
    (hproves : s.provenCount < 1) (hproven : k.proven = true)
    (hlost : k.provenLostAtMillis = lostAt) (hle : 0 ≤ lostAt) :
    (k.update s later).state =
      if later < lostAt + kDegradeHoldMillis then .connected else .degraded := by
  have hat : k.lostAt later = lostAt := by
    rw [Tracker.lostAt, hlost, if_neg (not_lt.2 hle)]
  have hupdated := updated k s later
  generalize k.update s later = k' at hupdated
  cases hupdated with
  | reset hno => exact absurd (hno.symm.trans hlive) (by simp)
  | failed _ _ _ hno => exact absurd (hno.symm.trans hproven) (by simp)
  | held _ hno | claimed _ hno => exact absurd (hno.symm.trans hknown) (by simp)
  | proved _ _ hno => exact absurd hno (not_le.2 hproves)
  | waiting _ _ _ _ hhold =>
    rw [hat] at hhold
    rw [if_pos (by omega)]
  | degraded _ _ _ _ hhold =>
    rw [hat] at hhold
    rw [if_neg (by omega)]
  | seeking _ hno => exact absurd ((hno hknown).2.symm.trans hproven) (by simp)

/-- A grid-known snapshot says degraded only when it is earned, connected whenever a provider is
proven and failed only of an attempt that never was; and a time to ask again is the time at which
the answer turns. -/
theorem degraded_is_earned (hrun : Runs es k) (s : Signals) (nowMillis : ℤ) :
    Answered es s nowMillis (k.update s nowMillis) := by
  have hhistory := history_of_runs hrun
  have hupdated := updated k s nowMillis
  generalize k.update s nowMillis = k' at hupdated
  -- an answer that is not one of the four, with no time to ask again
  have hother : ∀ state, k'.state = state → state ≠ .degraded → state ≠ .failed →
      ¬ (s.live = true ∧ s.gridKnown = true ∧ 1 ≤ s.provenCount) → k'.reevalAtMillis = 0 →
        Answered es s nowMillis k' := by
    rintro state rfl hdegraded hfailed hproved hreeval
    exact ⟨fun _ h => absurd h hdegraded, fun h₁ h₂ h₃ => absurd ⟨h₁, h₂, h₃⟩ hproved,
      fun h => absurd h hfailed, fun _ h => absurd hreeval h⟩
  cases hupdated with
  | reset hlive hstate =>
    refine hother _ rfl ?_ ?_ (fun h => absurd (hlive.symm.trans h.1) (by simp)) rfl
    · rcases hstate with rfl | rfl <;> simp
    · rcases hstate with rfl | rfl <;> simp
  | failed hlive hproves hfailed hproven =>
    exact ⟨fun _ h => absurd h (by simp), fun _ h₂ h₃ => absurd (hproves h₂) (not_lt.2 h₃),
      fun _ => ⟨hfailed, hhistory.unrecorded hproven⟩, fun _ h => absurd rfl h⟩
  | held hlive hblind hclaim hstate =>
    have hno : s.gridKnown ≠ true := by simp [hblind]
    exact ⟨fun h => absurd h hno, fun _ h => absurd h hno, fun h => absurd h hstate,
      fun _ h => absurd rfl h⟩
  | claimed hlive hblind hclaim =>
    exact hother _ rfl (by simp) (by simp) (fun h => absurd (hblind.symm.trans h.2.1) (by simp)) rfl
  | proved hlive hknown hproves =>
    exact ⟨fun _ h => absurd h (by simp), fun _ _ _ => rfl, fun h => absurd h (by simp),
      fun _ h => absurd rfl h⟩
  | waiting hlive hknown hproves hproven hhold =>
    refine ⟨fun _ h => absurd h (by simp), fun _ _ _ => rfl, fun h => absurd h (by simp),
      fun hnow _ later => ?_⟩
    have hle : 0 ≤ k.lostAt nowMillis := by
      rw [Tracker.lostAt]
      split_ifs with hfirst
      · exact hnow
      · exact not_lt.1 hfirst
    constructor
    · intro hbefore
      rw [update_waiting hlive hknown hproves rfl rfl hle, if_pos hbefore]
    · intro hafter
      rw [update_waiting hlive hknown hproves rfl rfl hle, if_neg (not_lt.2 hafter)]
  | degraded hlive hknown hproves hproven hhold =>
    refine ⟨fun _ _ => ?_, fun _ _ h => absurd h (not_le.2 hproves), fun h => absurd h (by simp),
      fun _ h => absurd rfl h⟩
    -- a loss that began now cannot have lasted
    have hseen : ¬ k.provenLostAtMillis < 0 := by
      intro hfirst
      rw [Tracker.lostAt, if_pos hfirst, kDegradeHoldMillis] at hhold
      omega
    rw [Tracker.lostAt, if_neg hseen] at hhold
    obtain ⟨-, pre, z, rest, he, hz, hrest, hrecorded⟩ := hhistory.lost (not_lt.1 hseen)
    exact ⟨pre, z, rest, _, he, hz, by omega, hrest, hrecorded⟩
  | seeking hlive hproves hclaim hstate =>
    refine hother _ rfl ?_ ?_ (fun h => absurd (hproves h.2.1).1 (not_lt.2 h.2.2)) rfl
    · rcases hstate with rfl | rfl <;> simp
    · rcases hstate with rfl | rfl <;> simp

/-- Proof, a grid without it, and the same grid seven seconds later. -/
theorem degraded_is_earned_sample : ∃ es : List Call, es.length = 2 ∧ Lost es 8000 := by
  have h₀ : Runs [] {} := .nil rfl
  have h₁ := h₀.snoc (a := .update
    { serviceConnected := true, activity := .active, gridKnown := true, provenCount := 2 } 0) rfl
  have h₂ := h₁.snoc (a := .update
    { serviceConnected := true, activity := .active, gridKnown := true } 1000) rfl
  exact ⟨_, rfl, (degraded_is_earned h₂
    { serviceConnected := true, activity := .active, gridKnown := true } 8000).degraded rfl
      (by decide)⟩

/-- A snapshot with a grid and a proven provider of no service, and a clock before its zero. -/
theorem degraded_is_earned_fails :
    (¬ ∀ (es : List Call) (k : Tracker), Runs es k → ∀ s nowMillis, s.gridKnown = true →
      1 ≤ s.provenCount → (k.update s nowMillis).state = .connected) ∧
    ¬ ∀ (es : List Call) (k : Tracker), Runs es k → ∀ s nowMillis,
      (k.update s nowMillis).reevalAtMillis ≠ 0 → ∀ later,
        (k.update s nowMillis).reevalAtMillis ≤ later →
          ((k.update s nowMillis).update s later).state = .degraded := by
  have h₀ : Runs [] {} := .nil rfl
  have h₁ := h₀.snoc (a := .update
    { serviceConnected := true, activity := .active, gridKnown := true, provenCount := 2 } (-9)) rfl
  refine ⟨fun h => ?_, fun h => ?_⟩
  · exact absurd (h _ _ h₀ { gridKnown := true, provenCount := 1 } 0 rfl (by decide)) (by decide)
  · exact absurd (h _ _ h₁ { serviceConnected := true, activity := .active, gridKnown := true } (-5)
      (by decide) 7000 (by decide)) (by decide)

end UrnetworkWindows.Health
