/-
The tray's slow state (`SlowInternet.h`, `DecideTray` and `TrayEpisode`).

An episode runs from one hidden presentation to the next, and its balloon's moment is spent by
the first decision that shows it slow, whether a balloon is posted or not.
-/
import UrnetworkWindows.SlowInternet.Dwell

namespace UrnetworkWindows.SlowInternet

open Lib

/-- `tunnel::kDepthByLevel`. -/
def kDepthByLevel : List ℤ := [0, 1, 2, 4, 6]

/-- The icon of a depth: that of the first level, after the level of none, that is as deep. -/
def iconLevelForDepth (depth : ℤ) : ℕ :=
  if depth ≤ 0 then 0
  else min (kDepthByLevel.length - 1)
    (1 + kDepthByLevel.tail.findIdx fun level => decide (depth ≤ level))

structure TrayFacts where
  presentation : Presentation
  connected : Bool := false
  notify : Bool := true
  notified : Bool := false

inductive Tip
  | status
  | slow
  | recovered
deriving DecidableEq, Repr

structure TrayView where
  icon : ℕ := 0
  tip : Tip := .status
  balloonDue : Bool := false
  postBalloon : Bool := false
deriving DecidableEq, Repr

def decideTray (facts : TrayFacts) : TrayView :=
  if !facts.connected then {}
  else
    match facts.presentation.phase with
    | .hidden => {}
    | .slow =>
      { icon := iconLevelForDepth facts.presentation.depth
        tip := .slow
        balloonDue := !facts.notified
        postBalloon := !facts.notified && facts.notify }
    | .recovered => { tip := .recovered }

structure TrayEpisode where
  dwell : Dwell := {}
  presentation : Presentation := {}
  notified : Bool := false

namespace TrayEpisode

/-- `Observe`, with no depth while the reading is unavailable. -/
def observe (e : TrayEpisode) (depth : Option ℤ) (nowMillis : ℤ) : Presentation × TrayEpisode :=
  let (presentation, dwell) :=
    match depth with
    | some depth => e.dwell.observe depth nowMillis
    | none => ({}, Dwell.reset)
  (presentation,
    { dwell, presentation,
      notified := if presentation.phase = .hidden then false else e.notified })

/-- `Decide`. -/
def decide (e : TrayEpisode) (connected notify : Bool) : TrayView × TrayEpisode :=
  let view := decideTray { e with connected, notify }
  (view, if view.balloonDue then { e with notified := true } else e)

/-! ### Calls -/

inductive Call
  | observe (depth : Option ℤ) (nowMillis : ℤ)
  | decide (connected notify : Bool)

inductive Answer
  | presented (presentation : Presentation)
  | viewed (view : TrayView)

def call (e : TrayEpisode) : Call → Answer × TrayEpisode
  | .observe depth now => (.presented (e.observe depth now).1, (e.observe depth now).2)
  | .decide connected notify =>
      (.viewed (e.decide connected notify).1, (e.decide connected notify).2)

/-- What the calls answer. -/
def answers (e : TrayEpisode) : List Call → List Answer
  | [] => []
  | c :: calls => (e.call c).1 :: answers (e.call c).2 calls

/-- The episode after the calls. -/
def after (calls : List Call) : TrayEpisode := calls.foldl (fun e c => (e.call c).2) {}

def Answer.posts : Answer → Bool
  | .viewed view => view.postBalloon
  | .presented _ => false

def Answer.hides : Answer → Bool
  | .presented presentation => presentation.phase == .hidden
  | .viewed _ => false

/-! ### One balloon an episode -/

section

variable {e : TrayEpisode} {c : Call} {calls : List Call}

lemma balloonDue_of_postBalloon {facts : TrayFacts}
    (h : (decideTray facts).postBalloon = true) :
    facts.notified = false ∧ (decideTray facts).balloonDue = true := by
  unfold decideTray at h ⊢
  split_ifs at h ⊢ with hconnected
  cases hphase : facts.presentation.phase with
  | hidden | recovered => simp [hphase] at h
  | slow =>
    simp only [hphase, Bool.and_eq_true, Bool.not_eq_true'] at h
    simp [h.1]

lemma decide_posts {connected notify : Bool}
    (h : (e.decide connected notify).1.postBalloon = true) :
    e.notified = false ∧ (e.decide connected notify).2.notified = true := by
  obtain ⟨hnotified, hdue⟩ := balloonDue_of_postBalloon h
  refine ⟨hnotified, ?_⟩
  unfold decide
  dsimp only
  rw [if_pos hdue]

lemma call_posts (h : (e.call c).1.posts = true) :
    e.notified = false ∧ (e.call c).2.notified = true := by
  cases c with
  | observe depth now => cases h
  | decide connected notify => exact decide_posts h

lemma call_notified (he : e.notified = true) (h : ¬ (e.call c).1.hides) :
    (e.call c).2.notified = true := by
  cases c with
  | observe depth now =>
    change (e.observe depth now).2.notified = true
    have hphase : (e.observe depth now).1.phase ≠ .hidden := fun heq => h (beq_iff_eq.2 heq)
    unfold observe at hphase ⊢
    dsimp only at hphase ⊢
    rw [if_neg hphase, he]
  | decide connected notify =>
    change (e.decide connected notify).2.notified = true
    unfold decide
    dsimp only
    split_ifs
    · rfl
    · exact he

lemma posts_of_notified (he : e.notified = true) (h : ∀ a ∈ e.answers calls, ¬ a.hides) :
    (e.answers calls).countP Answer.posts = 0 := by
  induction calls generalizing e with
  | nil => rfl
  | cons c calls ih =>
    obtain ⟨hc, hcalls⟩ := List.forall_mem_cons.1 h
    have hnone : ¬ (e.call c).1.posts = true := fun hposts => by
      rw [(call_posts hposts).1] at he
      cases he
    rw [answers, List.countP_cons_of_neg hnone, ih (call_notified he hc) hcalls]

lemma posts_le_one (h : ∀ a ∈ e.answers calls, ¬ a.hides) :
    (e.answers calls).countP Answer.posts ≤ 1 := by
  induction calls generalizing e with
  | nil => exact Nat.zero_le _
  | cons c calls ih =>
    obtain ⟨hc, hcalls⟩ := List.forall_mem_cons.1 h
    rw [answers]
    by_cases hposts : (e.call c).1.posts = true
    · rw [List.countP_cons_of_pos hposts, posts_of_notified (call_posts hposts).2 hcalls]
    · rw [List.countP_cons_of_neg hposts]
      exact ih hcalls

end

end TrayEpisode

open Dwell in
/-- The dwell over whole histories: what an observation after any calls does, the phase after a
reset, and the balloons between two hidden presentations. -/
theorem dwell_exact :
    (∀ ops depth now, Clocked (ops ++ [.observe depth now]) → Exact ops depth now) ∧
    (∀ ops, (Dwell.after (ops ++ [.reset])).phase = .hidden) ∧
    ∀ before calls, (∀ a ∈ (TrayEpisode.after before).answers calls, ¬ a.hides) →
      ((TrayEpisode.after before).answers calls).countP TrayEpisode.Answer.posts ≤ 1 :=
  ⟨fun _ _ _ h => exact_observe h, fun ops => by rw [after_snoc]; rfl,
    fun _ _ h => TrayEpisode.posts_le_one h⟩

/-- Readings that flap: the depth was above 0 for 30 s in all when the slow state shows. -/
def flapping : List Dwell.Op := [.observe 2 0, .observe 0 10000, .observe 3 20000]

/-- The tray through an episode. -/
def episode : List TrayEpisode.Call :=
  [.decide true true, .observe (some 1) 35000, .decide true true, .observe (some 0) 40000,
    .decide true true]

theorem dwell_exact_flapping :
    (Dwell.Exact flapping 3 40000 ∧ (Dwell.after (flapping ++ [.observe 3 40000])).phase = .slow) ∧
    (Dwell.after (flapping ++ [.reset])).phase = .hidden ∧
    ((TrayEpisode.after [.observe (some 2) 0, .observe (some 2) 30000]).answers episode).countP
      TrayEpisode.Answer.posts ≤ 1 :=
  ⟨⟨dwell_exact.1 flapping 3 40000 (by decide), by decide⟩, dwell_exact.2.1 flapping,
    dwell_exact.2.2 [.observe (some 2) 0, .observe (some 2) 30000] episode (by decide)⟩

end UrnetworkWindows.SlowInternet
