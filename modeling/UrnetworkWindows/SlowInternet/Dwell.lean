/-
The dwell of the slow state (`SlowInternet.h`, `Dwell`).

The history is kept as spans above 0, of which the last may still be open, and the ones that
have left the window are dropped.  What they come to in the window is the time the last
observed depth was above 0 in it (`Tracks.total_eq`), and the phase follows from that time and
from when it was entered (`dwell_exact`).
-/
import Mathlib.Data.List.ModifyLast
import UrnetworkWindows.Lib.Signal

namespace UrnetworkWindows.SlowInternet

open Lib

def kMaxDepth : ℤ := 6

def kDwellWindowMillis : ℤ := 60000

def kDwellAppearMillis : ℤ := 30000

def kDwellStayMillis : ℤ := 60000

def kRecoveredMillis : ℤ := 3000

inductive Phase
  | hidden
  | slow
  | recovered
deriving DecidableEq, Repr

structure Presentation where
  phase : Phase := .hidden
  depth : ℤ := 0
  nextMillis : ℤ := -1
deriving DecidableEq, Repr

/-- A time above 0, with a negative end while it lasts. -/
structure Span where
  start : ℤ := 0
  stop : ℤ := -1
deriving DecidableEq, Repr

structure Dwell where
  spans : List Span := []
  phase : Phase := .hidden
  since : ℤ := 0
  depth : ℤ := 0
deriving DecidableEq, Repr

/-- What a span comes to between the start of the window and now. -/
def Span.millis (span : Span) (windowStart nowMillis : ℤ) : ℤ :=
  let start := max span.start windowStart
  let stop := if span.stop < 0 then nowMillis else min span.stop nowMillis
  if start < stop then stop - start else 0

/-- What the spans come to. -/
def total (spans : List Span) (windowStart nowMillis : ℤ) : ℤ :=
  (spans.map (·.millis windowStart nowMillis)).sum

/-- The spans after an observation: one opens when the depth leaves 0 and closes when it
returns, and those that have left the window are dropped. -/
def record (spans : List Span) (depth nowMillis : ℤ) : List Span :=
  let isOpen := spans.getLast?.any fun span => decide (span.stop < 0)
  let spans := if 0 < depth ∧ ¬ isOpen then spans ++ [⟨nowMillis, -1⟩] else spans
  let spans :=
    if depth = 0 ∧ isOpen then spans.modifyLast fun span => { span with stop := nowMillis }
    else spans
  spans.filter fun span =>
    !(decide (0 ≤ span.stop) && decide (span.stop ≤ nowMillis - kDwellWindowMillis))

/-- The depth the dwell takes of a reading's. -/
def clampDepth (depth : ℤ) : ℤ := max 0 (min depth kMaxDepth)

namespace Dwell

variable (d : Dwell)

def slowMillis (nowMillis : ℤ) : ℤ := total d.spans (nowMillis - kDwellWindowMillis) nowMillis

def enter (phase : Phase) (nowMillis : ℤ) : Dwell := { d with phase, since := nowMillis }

/-- The phase after an observation. -/
def settle (depth slowMillis nowMillis : ℤ) : Dwell :=
  let appears := 0 < depth ∧ kDwellAppearMillis ≤ slowMillis
  match d.phase with
  | .hidden => if appears then d.enter .slow nowMillis else d
  | .slow =>
    if depth = 0 ∧ kDwellStayMillis ≤ nowMillis - d.since then d.enter .recovered nowMillis else d
  | .recovered =>
    if appears then d.enter .slow nowMillis
    else if kRecoveredMillis ≤ nowMillis - d.since then d.enter .hidden nowMillis
    else d

/-- When to observe again. -/
def nextMillis (depth slowMillis nowMillis : ℤ) : ℤ :=
  match d.phase with
  | .hidden => if 0 < depth then nowMillis + (kDwellAppearMillis - slowMillis) else -1
  | .slow => if depth = 0 then d.since + kDwellStayMillis else -1
  | .recovered =>
    if 0 < depth then
      min (d.since + kRecoveredMillis) (nowMillis + (kDwellAppearMillis - slowMillis))
    else d.since + kRecoveredMillis

/-- `Observe`: the presentation, and the dwell after it. -/
def observe (depth nowMillis : ℤ) : Presentation × Dwell :=
  let depth := clampDepth depth
  let d := { d with spans := record d.spans depth nowMillis }
  let slowMillis := d.slowMillis nowMillis
  let d := d.settle depth slowMillis nowMillis
  let d := if 0 < depth then { d with depth } else d
  ({ phase := d.phase
     depth := if d.phase = .slow then d.depth else 0
     nextMillis := d.nextMillis depth slowMillis nowMillis }, d)

def reset : Dwell := { spans := [], phase := .hidden, since := 0, depth := 0 }

/-! ### Calls -/

inductive Op
  | observe (depth nowMillis : ℤ)
  | reset
deriving DecidableEq, Repr

def Op.time : Op → Option ℤ
  | .observe _ now => some now
  | .reset => none

def next (d : Dwell) : Op → Dwell
  | .observe depth now => (d.observe depth now).2
  | .reset => reset

/-- The dwell after the calls. -/
def after (ops : List Op) : Dwell := ops.foldl next {}

/-! ### What the history says -/

/-- The depths observed since the last reset. -/
def readings (ops : List Op) : List (ℤ × ℤ) :=
  ops.foldl
    (fun readings op =>
      match op with
      | .observe depth now => readings ++ [(now, depth)]
      | .reset => [])
    []

/-- The last depth observed by this time is above 0. -/
def Above (ops : List Op) (τ : ℤ) : Prop := 0 < valueAt 0 (readings ops) τ

instance (ops : List Op) : DecidablePred (Above ops) := fun _ => inferInstanceAs (Decidable (_ < _))

/-- The time in the window that ends now during which the depth was above 0. -/
noncomputable def slowTime (ops : List Op) (nowMillis : ℤ) : ℤ :=
  spent (Above ops) (nowMillis - kDwellWindowMillis) nowMillis

/-- When the phase after the calls was entered, by an observation. -/
def enteredAt (ops : List Op) : ℤ :=
  (ops.foldl
    (fun (entered : Dwell × ℤ) op =>
      (entered.1.next op,
        if (entered.1.next op).phase = entered.1.phase then entered.2 else op.time.getD 0))
    ({}, 0)).2

end Dwell

/-! ### What the spans come to -/

section

variable {span : Span} {spans : List Span} {w now t depth start : ℤ} {above : Bool}

@[simp] lemma total_nil : total [] w t = 0 := rfl

@[simp] lemma total_append (spans₁ spans₂ : List Span) :
    total (spans₁ ++ spans₂) w t = total spans₁ w t + total spans₂ w t := by
  simp [total]

@[simp] lemma total_singleton : total [span] w t = span.millis w t := by
  simp [total]

/-- A span that has ended. -/
def Span.Closed (now : ℤ) (span : Span) : Prop := 0 ≤ span.stop ∧ span.stop ≤ now

lemma Span.Closed.mono (h : span.Closed now) (ht : now ≤ t) : span.Closed t := ⟨h.1, h.2.trans ht⟩

lemma Span.Closed.millis_eq (h : span.Closed now) (ht : now ≤ t) :
    span.millis w t = span.millis w now := by
  obtain ⟨hstop, hle⟩ := h
  simp only [Span.millis, if_neg (not_lt.2 hstop), min_eq_left hle, min_eq_left (hle.trans ht)]

lemma Span.Closed.millis_eq_zero (h : span.Closed now) (hw : now ≤ w) : span.millis w t = 0 := by
  obtain ⟨hstop, hle⟩ := h
  simp only [Span.millis, if_neg (not_lt.2 hstop)]
  split_ifs <;> omega

lemma total_eq_of_closed (h : ∀ span ∈ spans, span.Closed now) (ht : now ≤ t) :
    total spans w t = total spans w now := by
  rw [total, total, List.map_congr_left fun span hspan => (h span hspan).millis_eq ht]

lemma total_eq_zero_of_closed (h : ∀ span ∈ spans, span.Closed now) (hw : now ≤ w) :
    total spans w t = 0 := by
  refine List.sum_eq_zero fun x hx => ?_
  obtain ⟨span, hspan, rfl⟩ := List.mem_map.1 hx
  exact (h span hspan).millis_eq_zero hw

lemma millis_open (hstart : start ≤ now) (hw : w ≤ now) (ht : now ≤ t) :
    Span.millis ⟨start, -1⟩ w t = Span.millis ⟨start, -1⟩ w now + (t - now) := by
  simp only [Span.millis, show (-1 : ℤ) < 0 by decide, if_true]
  split_ifs <;> omega

lemma millis_open_of_le (hstart : start ≤ w) (hw : w ≤ t) :
    Span.millis ⟨start, -1⟩ w t = t - w := by
  simp only [Span.millis, show (-1 : ℤ) < 0 by decide, if_true]
  split_ifs <;> omega

/-! ### The shape of the spans -/

/-- All the spans have ended but, while the depth is above 0, the last. -/
inductive Shaped (now : ℤ) : Bool → List Span → Prop
  | closed {spans : List Span} (h : ∀ span ∈ spans, span.Closed now) : Shaped now false spans
  | opened {spans : List Span} {start : ℤ} (h : ∀ span ∈ spans, span.Closed now)
      (hstart : start ≤ now) : Shaped now true (spans ++ [⟨start, -1⟩])

lemma Shaped.mono (h : Shaped now above spans) (ht : now ≤ t) : Shaped t above spans := by
  cases h with
  | closed h => exact .closed fun span hspan => (h span hspan).mono ht
  | opened h hstart => exact .opened (fun span hspan => (h span hspan).mono ht) (hstart.trans ht)

lemma Shaped.total_eq (h : Shaped now above spans) (hw : w ≤ now) (ht : now ≤ t) :
    total spans w t = total spans w now + if above then t - now else 0 := by
  cases h with
  | closed h =>
    rw [total_eq_of_closed h ht]
    simp
  | opened h hstart =>
    rw [total_append, total_append, total_eq_of_closed h ht, total_singleton, total_singleton,
      millis_open hstart hw ht]
    simp [add_assoc]

lemma Shaped.total_eq_of_le (h : Shaped now above spans) (hw : now ≤ w) (ht : w ≤ t) :
    total spans w t = if above then t - w else 0 := by
  cases h with
  | closed h =>
    rw [total_eq_zero_of_closed h hw]
    rfl
  | opened h hstart =>
    rw [total_append, total_eq_zero_of_closed h hw, total_singleton,
      millis_open_of_le (hstart.trans hw) ht]
    simp

lemma Shaped.isOpen_eq (h : Shaped now above spans) :
    (spans.getLast?.any fun span => decide (span.stop < 0)) = above := by
  cases h with
  | closed h =>
    rcases List.eq_nil_or_concat spans with rfl | ⟨spans, span, rfl⟩
    · rfl
    · have hstop := (h span (by simp)).1
      simp [hstop]
  | opened h hstart => simp

lemma total_filter (hw : now - kDwellWindowMillis ≤ w) :
    total (spans.filter fun span => !(decide (0 ≤ span.stop) &&
      decide (span.stop ≤ now - kDwellWindowMillis))) w now = total spans w now := by
  induction spans with
  | nil => rfl
  | cons span spans ih =>
    have hcons : ∀ spans, total (span :: spans) w now = span.millis w now + total spans w now :=
      fun _ => List.sum_cons
    by_cases hleft : 0 ≤ span.stop ∧ span.stop ≤ now - kDwellWindowMillis
    · have hclosed : span.Closed (now - kDwellWindowMillis) := hleft
      have hzero : span.millis w now = 0 := hclosed.millis_eq_zero hw
      rw [List.filter_cons_of_neg (by simp [hleft.1, hleft.2]), ih, hcons, hzero, zero_add]
    · rw [List.filter_cons_of_pos (by simpa [imp_iff_not_or] using hleft), hcons, hcons, ih]

lemma Shaped.filter (h : Shaped now above spans) :
    Shaped now above (spans.filter fun span => !(decide (0 ≤ span.stop) &&
      decide (span.stop ≤ now - kDwellWindowMillis))) := by
  cases h with
  | closed h => exact .closed fun span hspan => h span (List.mem_filter.1 hspan).1
  | opened h hstart =>
    rw [List.filter_append]
    exact .opened (fun span hspan => h span (List.mem_filter.1 hspan).1) hstart

lemma Shaped.record (h : Shaped now above spans) (hnow : 0 ≤ now) (hdepth : 0 ≤ depth) :
    Shaped now (decide (0 < depth)) (record spans depth now) ∧
      ∀ w, now - kDwellWindowMillis ≤ w →
        total (record spans depth now) w now = total spans w now := by
  have hopen := h.isOpen_eq
  -- the spans before those out of the window are dropped
  obtain ⟨kept, hkept, hshaped, htotal⟩ : ∃ kept, SlowInternet.record spans depth now =
      kept.filter (fun span => !(decide (0 ≤ span.stop) &&
        decide (span.stop ≤ now - kDwellWindowMillis))) ∧
      Shaped now (decide (0 < depth)) kept ∧ ∀ w, total kept w now = total spans w now := by
    refine ⟨_, rfl, ?_⟩
    rw [hopen]
    rcases hdepth.lt_or_eq with hpos | hzero
    · rw [if_neg fun hand => hpos.ne' hand.1, decide_eq_true hpos]
      cases h with
      | closed h =>
        refine ⟨?_, fun w => ?_⟩
        · rw [if_pos ⟨hpos, by decide⟩]
          exact .opened h le_rfl
        · rw [if_pos ⟨hpos, by decide⟩, total_append, total_singleton]
          simp [Span.millis]
      | opened h hstart =>
        rw [if_neg fun hand => hand.2 rfl]
        exact ⟨.opened h hstart, fun _ => rfl⟩
    · rw [if_neg fun hand : 0 < depth ∧ _ => hzero.not_lt hand.1,
        decide_eq_false hzero.not_lt]
      cases h with
      | closed h =>
        rw [if_neg fun hand => Bool.false_ne_true hand.2]
        exact ⟨.closed h, fun _ => rfl⟩
      | opened h hstart =>
        rw [if_pos ⟨hzero.symm, rfl⟩, List.modifyLast_concat]
        refine ⟨.closed fun span hspan => ?_, fun w => ?_⟩
        · rcases List.mem_append.1 hspan with hspan | hspan
          · exact h span hspan
          · rw [List.mem_singleton.1 hspan]
            exact ⟨hnow, le_rfl⟩
        · rw [total_append, total_append, total_singleton, total_singleton]
          simp [Span.millis, not_lt.2 hnow]
  rw [hkept]
  exact ⟨hshaped.filter, fun w hw => (total_filter hw).trans (htotal w)⟩

end

namespace Dwell

/-! ### The history, call by call -/

section

variable {ops : List Op} {op : Op} {depth now t τ : ℤ} {d : Dwell}

lemma after_snoc : after (ops ++ [op]) = (after ops).next op := by
  rw [after, List.foldl_append]
  rfl

lemma readings_observe :
    readings (ops ++ [.observe depth now]) = readings ops ++ [(now, depth)] := by
  rw [readings, List.foldl_append]
  rfl

lemma readings_reset : readings (ops ++ [.reset]) = [] := by
  rw [readings, List.foldl_append]
  rfl

lemma enteredAt_snoc : enteredAt (ops ++ [op]) =
    if (after (ops ++ [op])).phase = (after ops).phase then enteredAt ops else op.time.getD 0 := by
  have hfst : ∀ ops : List Op, (ops.foldl (fun (entered : Dwell × ℤ) op => (entered.1.next op,
      if (entered.1.next op).phase = entered.1.phase then entered.2 else op.time.getD 0))
      ({}, 0)).1 = after ops := by
    intro ops
    induction ops using List.reverseRecOn with
    | nil => rfl
    | append_singleton ops op ih =>
      rw [List.foldl_append, after_snoc, ← ih]
      rfl
  rw [enteredAt, List.foldl_append, List.foldl_cons, List.foldl_nil, hfst, after_snoc]
  rfl

lemma readings_past (h : Past Op.time ops t) : ∀ set ∈ readings ops, set.1 ≤ t := by
  induction ops using List.reverseRecOn with
  | nil => rintro _ ⟨⟩
  | append_singleton ops op ih =>
    obtain ⟨hops, hop⟩ := past_snoc.1 h
    cases op with
    | reset =>
      rw [readings_reset]
      rintro _ ⟨⟩
    | observe depth now =>
      rw [readings_observe]
      intro set hset
      rcases List.mem_append.1 hset with hset | hset
      · exact ih hops set hset
      · rw [List.mem_singleton.1 hset]
        exact hop now rfl

/-- The last observed depth is above 0. -/
def lastAbove (ops : List Op) : Bool := decide (0 < lastValue 0 (readings ops))

lemma above_iff (h : Past Op.time ops τ) : Above ops τ ↔ lastAbove ops = true := by
  rw [Above, valueAt_eq_lastValue _ (readings_past h), lastAbove, decide_eq_true_eq]

lemma lastAbove_observe : lastAbove (ops ++ [.observe depth now]) = decide (0 < depth) := by
  rw [lastAbove, readings_observe, lastValue_snoc]

lemma above_observe_of_lt (h : τ < now) : Above (ops ++ [.observe depth now]) τ ↔ Above ops τ := by
  rw [Above, Above, readings_observe, valueAt_snoc, if_neg (not_le.2 h)]

lemma spent_above (h : Past Op.time ops now) {w : ℤ} (hw : w ≤ now) (ht : now ≤ t) :
    spent (Above ops) w t = spent (Above ops) w now + if lastAbove ops then t - now else 0 := by
  rw [spent_add hw ht]
  split_ifs with habove
  · rw [spent_of_forall ht fun τ hτ _ => (above_iff (h.mono hτ)).2 habove]
  · rw [spent_of_forall_not fun τ hτ _ => mt (above_iff (h.mono hτ)).1 habove]

lemma spent_above_of_le (h : Past Op.time ops now) {w : ℤ} (hw : now ≤ w) (ht : w ≤ t) :
    spent (Above ops) w t = if lastAbove ops then t - w else 0 := by
  rw [spent_above (h.mono hw) le_rfl ht, spent_of_le le_rfl, zero_add]

/-! ### What the dwell knows of the history -/

/-- The dwell after the calls, by what they say. -/
structure Tracks (ops : List Op) (d : Dwell) : Prop where
  shaped : ∀ t, 0 ≤ t → Past Op.time ops t → Shaped t (lastAbove ops) d.spans
  total_eq : ∀ t, 0 ≤ t → Past Op.time ops t → ∀ w, t - kDwellWindowMillis ≤ w → w ≤ t →
    total d.spans w t = spent (Above ops) w t
  since_eq : d.phase ≠ .hidden → d.since = enteredAt ops
  since_nonneg : 0 ≤ d.since
  depth_pos : d.phase = .slow → 1 ≤ d.depth

end

/-! ### One observation -/

section

variable {d : Dwell} {depth slowMillis now t : ℤ}

lemma settle_spans : (d.settle depth slowMillis now).spans = d.spans := by
  unfold settle enter
  cases d.phase <;> dsimp only <;> split_ifs <;> rfl

lemma settle_depth : (d.settle depth slowMillis now).depth = d.depth := by
  unfold settle enter
  cases d.phase <;> dsimp only <;> split_ifs <;> rfl

/-- What an observation makes of the phase, and of when it was entered. -/
inductive Settles (d : Dwell) (depth slowMillis now : ℤ) (d' : Dwell) : Prop
  | stays (hphase : d'.phase = d.phase) (hsince : d'.since = d.since)
      (hslow : d.phase ≠ .slow → ¬ (0 < depth ∧ kDwellAppearMillis ≤ slowMillis))
      (hleft : d.phase = .slow → ¬ (depth = 0 ∧ kDwellStayMillis ≤ now - d.since))
      (hgone : d.phase = .recovered → now - d.since < kRecoveredMillis)
  | appears (hfrom : d.phase ≠ .slow) (hphase : d'.phase = .slow) (hsince : d'.since = now)
      (hdepth : 0 < depth) (hslow : kDwellAppearMillis ≤ slowMillis)
  | recovers (hfrom : d.phase = .slow) (hphase : d'.phase = .recovered) (hsince : d'.since = now)
      (hdepth : depth = 0) (hstay : kDwellStayMillis ≤ now - d.since)
  | goes (hfrom : d.phase = .recovered) (hphase : d'.phase = .hidden) (hsince : d'.since = now)
      (hslow : ¬ (0 < depth ∧ kDwellAppearMillis ≤ slowMillis))
      (hstay : kRecoveredMillis ≤ now - d.since)

lemma settle_settles (depth slowMillis now : ℤ) :
    Settles d depth slowMillis now (d.settle depth slowMillis now) := by
  unfold settle
  cases hphase : d.phase with
  | hidden =>
    dsimp only
    split_ifs with happears
    · exact .appears (by simp [hphase]) rfl rfl happears.1 happears.2
    · exact .stays rfl rfl (fun _ => happears) (by simp [hphase]) (by simp [hphase])
  | slow =>
    dsimp only
    split_ifs with hleaves
    · exact .recovers hphase rfl rfl hleaves.1 hleaves.2
    · exact .stays rfl rfl (fun hne => absurd hphase hne) (fun _ => hleaves) (by simp [hphase])
  | recovered =>
    dsimp only
    split_ifs with happears hgoes
    · exact .appears (by simp [hphase]) rfl rfl happears.1 happears.2
    · exact .goes hphase rfl rfl happears hgoes
    · exact .stays rfl rfl (fun _ => happears) (by simp [hphase]) fun _ => not_le.1 hgoes

/-- What holds of the phase right after an observation: nothing is due. -/
structure Settled (d : Dwell) (depth slowMillis now : ℤ) : Prop where
  since_nonneg : 0 ≤ d.since
  not_appears : d.phase ≠ .slow → 0 < depth → slowMillis < kDwellAppearMillis
  stays : d.phase = .slow → depth = 0 → now < d.since + kDwellStayMillis
  shown : d.phase = .recovered → now < d.since + kRecoveredMillis

lemma Settles.settled {d' : Dwell} (h : Settles d depth slowMillis now d') (hnow : 0 ≤ now)
    (hsince : 0 ≤ d.since) : Settled d' depth slowMillis now := by
  have hstayPos : 0 < kDwellStayMillis := by decide
  have hshownPos : 0 < kRecoveredMillis := by decide
  cases h with
  | stays hphase heq hslow hleft hgone =>
    refine ⟨by rwa [heq], fun hne hpos => ?_, fun hfrom hzero => ?_, fun hfrom => ?_⟩
    · have hnot := hslow (hphase ▸ hne)
      omega
    · have hnot := hleft (hphase ▸ hfrom)
      omega
    · have hlt := hgone (hphase ▸ hfrom)
      omega
  | appears hfrom hphase heq hpos hslow =>
    refine ⟨by rwa [heq], fun hne => absurd hphase hne, fun _ hzero => by omega, fun hrec => ?_⟩
    rw [hphase] at hrec
    cases hrec
  | recovers hfrom hphase heq hzero hstay =>
    refine ⟨by rwa [heq], fun _ hpos => by omega, fun hslow => ?_, fun _ => by omega⟩
    rw [hphase] at hslow
    cases hslow
  | goes hfrom hphase heq hslow hstay =>
    refine ⟨by rwa [heq], fun _ hpos => by omega, fun hslow => ?_, fun hrec => ?_⟩
    · rw [hphase] at hslow
      cases hslow
    · rw [hphase] at hrec
      cases hrec

lemma Settled.nextMillis (h : Settled d depth slowMillis now) :
    d.nextMillis depth slowMillis now = -1 ∨ now < d.nextMillis depth slowMillis now := by
  unfold Dwell.nextMillis
  cases hphase : d.phase with
  | hidden =>
    have hslow := h.not_appears (by simp [hphase])
    dsimp only
    split_ifs <;> omega
  | slow =>
    have hstay := h.stays hphase
    dsimp only
    split_ifs <;> omega
  | recovered =>
    have hslow := h.not_appears (by simp [hphase])
    have hshown := h.shown hphase
    dsimp only
    split_ifs <;> omega

lemma Settled.again {d' : Dwell} {slowMillis' : ℤ} (h : Settled d depth slowMillis now)
    (hnow : 0 ≤ now) (hnext : d.nextMillis depth slowMillis now = -1 ∨
      t < d.nextMillis depth slowMillis now)
    (hslow : slowMillis' ≤ slowMillis + (t - now)) (h' : Settles d depth slowMillis' t d') :
    d'.phase = d.phase := by
  have hsince := h.since_nonneg
  have hstayPos : 0 < kDwellStayMillis := by decide
  have hshownPos : 0 < kRecoveredMillis := by decide
  cases h' with
  | stays hphase => exact hphase
  | appears hfrom hphase _ hpos happears =>
    have hnot := h.not_appears hfrom hpos
    cases hd : d.phase with
    | hidden | recovered =>
      simp only [Dwell.nextMillis, hd, if_pos hpos] at hnext
      omega
    | slow => exact absurd hd hfrom
  | recovers hfrom hphase _ hzero hstay =>
    simp only [Dwell.nextMillis, hfrom, if_pos hzero] at hnext
    omega
  | goes hfrom hphase _ _ hstay =>
    have hnot := h.not_appears (by simp [hfrom])
    simp only [Dwell.nextMillis, hfrom] at hnext
    split_ifs at hnext <;> omega

lemma Settles.congr {d₁ d₁' d₂ d₂' : Dwell} (h : Settles d₁ depth slowMillis now d₁')
    (hphase : d₁.phase = d₂.phase) (hsince : d₁.since = d₂.since) (hphase' : d₁'.phase = d₂'.phase)
    (hsince' : d₁'.since = d₂'.since) : Settles d₂ depth slowMillis now d₂' := by
  cases d₁; cases d₁'; cases d₂; cases d₂'
  dsimp only at hphase hsince hphase' hsince'
  subst hphase hsince hphase' hsince'
  cases h with
  | stays h₁ h₂ h₃ h₄ h₅ => exact .stays h₁ h₂ h₃ h₄ h₅
  | appears h₁ h₂ h₃ h₄ h₅ => exact .appears h₁ h₂ h₃ h₄ h₅
  | recovers h₁ h₂ h₃ h₄ h₅ => exact .recovers h₁ h₂ h₃ h₄ h₅
  | goes h₁ h₂ h₃ h₄ h₅ => exact .goes h₁ h₂ h₃ h₄ h₅

lemma observe_spans : (d.observe depth now).2.spans = record d.spans (clampDepth depth) now := by
  unfold observe
  dsimp only
  split_ifs <;> exact settle_spans

lemma observe_settles : Settles d (clampDepth depth) ((d.observe depth now).2.slowMillis now) now
    (d.observe depth now).2 := by
  have hsettles := settle_settles (clampDepth depth) ((d.observe depth now).2.slowMillis now) now
    (d := { d with spans := record d.spans (clampDepth depth) now })
  refine hsettles.congr rfl rfl ?_ ?_
  · rw [slowMillis, observe_spans]
    unfold observe
    dsimp only
    split_ifs <;> rfl
  · rw [slowMillis, observe_spans]
    unfold observe
    dsimp only
    split_ifs <;> rfl

lemma observe_phase : (d.observe depth now).1.phase = (d.observe depth now).2.phase := rfl

lemma observe_nextMillis : (d.observe depth now).1.nextMillis =
    (d.observe depth now).2.nextMillis (clampDepth depth)
      ((d.observe depth now).2.slowMillis now) now := by
  rw [slowMillis, observe_spans]
  rfl

lemma observe_depth : (d.observe depth now).2.depth =
    if 0 < clampDepth depth then clampDepth depth else d.depth := by
  unfold observe
  dsimp only
  split_ifs
  · rfl
  · exact settle_depth

lemma clampDepth_nonneg (depth : ℤ) : 0 ≤ clampDepth depth := le_max_left _ _

lemma clampDepth_pos : 0 < clampDepth depth ↔ 0 < depth := by
  have hmax : 0 < kMaxDepth := by decide
  unfold clampDepth
  omega

end

/-! ### Runs -/

section

variable {ops : List Op} {op : Op} {depth now t : ℤ} {d : Dwell}

/-- The clock is not negative and does not go back. -/
structure Clocked (ops : List Op) : Prop where
  ordered : Ordered Op.time ops
  nonneg : ∀ now ∈ times Op.time ops, 0 ≤ now

instance : Decidable (Clocked ops) :=
  decidable_of_iff (Ordered Op.time ops ∧ ∀ now ∈ times Op.time ops, 0 ≤ now)
    ⟨fun h => ⟨h.1, h.2⟩, fun h => ⟨h.ordered, h.nonneg⟩⟩

lemma clocked_snoc : Clocked (ops ++ [op]) ↔
    Clocked ops ∧ ∀ now ∈ op.time, Past Op.time ops now ∧ 0 ≤ now := by
  have hnonneg : (∀ now ∈ times Op.time (ops ++ [op]), 0 ≤ now) ↔
      (∀ now ∈ times Op.time ops, 0 ≤ now) ∧ ∀ now ∈ op.time, 0 ≤ now := by
    cases hop : op.time <;> simp [times, hop, or_imp, forall_and]
  constructor
  · rintro ⟨hordered, hall⟩
    obtain ⟨hops, hop⟩ := ordered_snoc.1 hordered
    exact ⟨⟨hops, (hnonneg.1 hall).1⟩, fun now hnow => ⟨hop now hnow, (hnonneg.1 hall).2 now hnow⟩⟩
  · rintro ⟨⟨hops, hall⟩, hop⟩
    exact ⟨ordered_snoc.2 ⟨hops, fun now hnow => (hop now hnow).1⟩,
      hnonneg.2 ⟨hall, fun now hnow => (hop now hnow).2⟩⟩

lemma Tracks.init : Tracks [] {} where
  shaped _ _ _ := .closed (by rintro _ ⟨⟩)
  total_eq _ _ _ _ _ _ :=
    (spent_of_forall_not (p := Above []) fun _ _ _ => lt_irrefl (0 : ℤ)).symm
  since_eq h := absurd rfl h
  since_nonneg := le_rfl
  depth_pos := by rintro ⟨⟩

lemma Tracks.reset : Tracks (ops ++ [.reset]) Dwell.reset where
  shaped _ _ _ := by
    rw [lastAbove, readings_reset]
    exact .closed (by rintro _ ⟨⟩)
  total_eq t _ _ w _ _ := by
    rw [spent_of_forall_not fun τ _ _ => by
      rw [Above, readings_reset]
      exact lt_irrefl 0]
    rfl
  since_eq h := absurd rfl h
  since_nonneg := le_rfl
  depth_pos := by rintro ⟨⟩

lemma after_settles (ops : List Op) (depth now : ℤ) : Settles (after ops) (clampDepth depth)
    ((after (ops ++ [.observe depth now])).slowMillis now) now
    (after (ops ++ [.observe depth now])) := by
  rw [after_snoc]
  exact observe_settles

lemma Tracks.observe (h : Tracks ops (after ops)) (hnow : 0 ≤ now) (hpast : Past Op.time ops now) :
    Tracks (ops ++ [.observe depth now]) (after (ops ++ [.observe depth now])) := by
  obtain ⟨hshaped, htotal⟩ := (h.shaped now hnow hpast).record hnow (clampDepth_nonneg depth)
  have hpast' : Past Op.time (ops ++ [.observe depth now]) now :=
    past_snoc.2 ⟨hpast, fun now' hnow' => (Option.some.inj hnow').ge⟩
  have hlater : ∀ t, Past Op.time (ops ++ [.observe depth now]) t → now ≤ t := fun t ht =>
    (past_snoc.1 ht).2 now rfl
  have habove : lastAbove (ops ++ [.observe depth now]) = decide (0 < clampDepth depth) := by
    rw [lastAbove_observe, decide_eq_decide, clampDepth_pos]
  have hspans : (after (ops ++ [.observe depth now])).spans =
      record (after ops).spans (clampDepth depth) now := by
    rw [after_snoc]
    exact observe_spans
  have hsettles := after_settles ops depth now
  refine ⟨fun t _ ht => ?_, fun t ht₀ ht w hw hwt => ?_, fun hphase => ?_, ?_, fun hphase => ?_⟩
  · rw [habove, hspans]
    exact hshaped.mono (hlater t ht)
  · have hnt := hlater t ht
    rw [hspans]
    rcases le_total w now with hwn | hnw
    · have hsame : spent (Above (ops ++ [.observe depth now])) w now = spent (Above ops) w now :=
        spent_congr fun τ _ hτ => above_observe_of_lt hτ
      rw [hshaped.total_eq hwn hnt, spent_above hpast' hwn hnt, habove, htotal w (by omega),
        h.total_eq now hnow hpast w (by omega) hwn, hsame]
    · rw [hshaped.total_eq_of_le hnw hwt, spent_above_of_le hpast' hnw hwt, habove]
  · rw [enteredAt_snoc]
    cases hsettles with
    | stays heq hsince =>
      rw [if_pos heq, hsince]
      exact h.since_eq (heq ▸ hphase)
    | appears hfrom hto hsince =>
      rw [hto, if_neg (Ne.symm hfrom), hsince]
      rfl
    | recovers hfrom hto hsince =>
      rw [hto, hfrom, if_neg (by decide), hsince]
      rfl
    | goes _ hto => exact absurd hto hphase
  · exact (hsettles.settled hnow h.since_nonneg).since_nonneg
  · rw [after_snoc]
    change 1 ≤ ((after ops).observe depth now).2.depth
    rw [observe_depth]
    split_ifs with hpos
    · exact hpos
    · cases hsettles with
      | stays heq => exact h.depth_pos (heq ▸ hphase)
      | appears _ _ _ hdepth => exact absurd hdepth hpos
      | recovers _ hto | goes _ hto =>
        rw [hto] at hphase
        cases hphase

lemma tracks_after (h : Clocked ops) : Tracks ops (after ops) := by
  induction ops using List.reverseRecOn with
  | nil => exact Tracks.init
  | append_singleton ops op ih =>
    obtain ⟨hops, hop⟩ := clocked_snoc.1 h
    cases op with
    | observe depth now => exact (ih hops).observe (hop now rfl).2 (hop now rfl).1
    | reset =>
      rw [after_snoc]
      exact Tracks.reset

lemma slowMillis_eq (h : Clocked (ops ++ [.observe depth now])) :
    (after (ops ++ [.observe depth now])).slowMillis now =
      slowTime (ops ++ [.observe depth now]) now := by
  obtain ⟨hops, hop⟩ := clocked_snoc.1 h
  have hwindow : 0 < kDwellWindowMillis := by decide
  have hpast : Past Op.time (ops ++ [.observe depth now]) now :=
    past_snoc.2 ⟨(hop now rfl).1, fun now' hnow' => (Option.some.inj hnow').ge⟩
  exact (tracks_after h).total_eq now (hop now rfl).2 hpast _ le_rfl (by omega)

lemma slowTime_le (h : now ≤ t) :
    slowTime (ops ++ [.observe depth t]) t ≤ slowTime ops now + (t - now) := by
  have hwindow : 0 < kDwellWindowMillis := by decide
  have hsame : slowTime (ops ++ [.observe depth t]) t =
      spent (Above ops) (t - kDwellWindowMillis) t :=
    spent_congr fun τ _ hτ => above_observe_of_lt hτ
  have hstart : spent (Above ops) (t - kDwellWindowMillis) t ≤
      spent (Above ops) (now - kDwellWindowMillis) t := spent_le_spent (by omega)
  have hadd := spent_add (p := Above ops) (a := now - kDwellWindowMillis) (b := now) (by omega) h
  have hrest : spent (Above ops) now t ≤ t - now := spent_le h
  rw [hsame, slowTime]
  omega

/-- What an observation after the calls does. -/
structure Exact (ops : List Op) (depth now : ℤ) : Prop where
  slowMillis_eq : (after (ops ++ [.observe depth now])).slowMillis now =
    slowTime (ops ++ [.observe depth now]) now
  enters_slow : (after ops).phase ≠ .slow → ((after (ops ++ [.observe depth now])).phase = .slow ↔
    0 < depth ∧ kDwellAppearMillis ≤ slowTime (ops ++ [.observe depth now]) now)
  leaves_slow : (after ops).phase = .slow → ((after (ops ++ [.observe depth now])).phase ≠ .slow ↔
    depth ≤ 0 ∧ kDwellStayMillis ≤ now - enteredAt ops)
  leaves_recovered : (after ops).phase = .recovered →
    ((after (ops ++ [.observe depth now])).phase = .hidden ↔
      (after (ops ++ [.observe depth now])).phase ≠ .slow ∧
        kRecoveredMillis ≤ now - enteredAt ops)
  presented : ((after ops).observe depth now).1.phase = (after (ops ++ [.observe depth now])).phase
  next_later : ((after ops).observe depth now).1.nextMillis = -1 ∨
    now < ((after ops).observe depth now).1.nextMillis
  again : ∀ t, now ≤ t → (((after ops).observe depth now).1.nextMillis = -1 ∨
      t < ((after ops).observe depth now).1.nextMillis) →
    (after (ops ++ [.observe depth now] ++ [.observe depth t])).phase =
      (after (ops ++ [.observe depth now])).phase
  depth_pos : ((after ops).observe depth now).1.phase = .slow →
    1 ≤ ((after ops).observe depth now).1.depth

lemma exact_observe (h : Clocked (ops ++ [.observe depth now])) : Exact ops depth now := by
  obtain ⟨hops, hop⟩ := clocked_snoc.1 h
  have htracks := tracks_after hops
  have hnow := (hop now rfl).2
  have hsettles := after_settles ops depth now
  have hsettled := hsettles.settled hnow htracks.since_nonneg
  have hslow := slowMillis_eq h
  have hsnoc : after (ops ++ [.observe depth now]) = ((after ops).observe depth now).2 := after_snoc
  have hnext : ((after ops).observe depth now).1.nextMillis =
      (after (ops ++ [.observe depth now])).nextMillis (clampDepth depth)
        ((after (ops ++ [.observe depth now])).slowMillis now) now := by
    rw [observe_nextMillis, hsnoc]
  have hzero : clampDepth depth = 0 ↔ depth ≤ 0 := by
    have hpos : 0 < clampDepth depth ↔ 0 < depth := clampDepth_pos
    have hnonneg := clampDepth_nonneg depth
    omega
  refine ⟨hslow, fun hfrom => ?_, fun hfrom => ?_, fun hfrom => ?_, ?_, ?_, fun t ht hlt => ?_,
    fun hphase => ?_⟩
  · rw [← hslow, ← clampDepth_pos]
    cases hsettles with
    | stays heq _ hnot => exact iff_of_false (heq ▸ hfrom) (hnot hfrom)
    | appears _ hto _ hpos happears => exact iff_of_true hto ⟨hpos, happears⟩
    | recovers hslow' => exact absurd hslow' hfrom
    | goes _ hto _ hnot => exact iff_of_false (by simp [hto]) hnot
  · rw [← htracks.since_eq (by simp [hfrom]), ← hzero]
    cases hsettles with
    | stays heq _ _ hnot => exact iff_of_false (fun hne => hne (heq.trans hfrom)) (hnot hfrom)
    | appears hne => exact absurd hfrom hne
    | recovers _ hto _ hdepth hstay => exact iff_of_true (by simp [hto]) ⟨hdepth, hstay⟩
    | goes hrec => simp [hfrom] at hrec
  · rw [← htracks.since_eq (by simp [hfrom])]
    cases hsettles with
    | stays heq _ _ _ hshown =>
      have hlt := hshown hfrom
      exact iff_of_false (by simp [heq, hfrom]) fun hand => absurd hand.2 (not_le.2 hlt)
    | appears _ hto => exact iff_of_false (by simp [hto]) fun hand => hand.1 hto
    | recovers hslow' => simp [hfrom] at hslow'
    | goes _ hto _ _ hstay => exact iff_of_true hto ⟨by simp [hto], hstay⟩
  · rw [hsnoc]
    rfl
  · rw [hnext]
    exact hsettled.nextMillis
  · rw [hnext] at hlt
    have h' : Clocked (ops ++ [.observe depth now] ++ [.observe depth t]) := by
      refine clocked_snoc.2 ⟨h, fun t' ht' => ?_⟩
      cases ht'
      exact ⟨past_snoc.2 ⟨(hop now rfl).1.mono ht, fun now' hnow' =>
        (Option.some.inj hnow') ▸ ht⟩, hnow.trans ht⟩
    refine hsettled.again hnow hlt ?_ (after_settles _ _ _)
    rw [slowMillis_eq h', hslow]
    exact slowTime_le ht
  · have hpos := (tracks_after h).depth_pos
    rw [hsnoc] at hpos
    have hdepth : ((after ops).observe depth now).1.depth =
        if ((after ops).observe depth now).2.phase = .slow then
          ((after ops).observe depth now).2.depth else 0 := rfl
    rw [hdepth, if_pos (observe_phase.symm.trans hphase)]
    exact hpos hphase

end

end Dwell

end UrnetworkWindows.SlowInternet
