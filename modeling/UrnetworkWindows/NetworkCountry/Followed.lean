/-
No change is missed: an observation is followed by a read that starts after it.

An observation is pending, and stays so with its burst's deadline until the thread takes the
burst (`owes_step`).  Once the deadline has passed, each statement of the thread brings it
nearer to taking it (`Watch.rank`), and where the thread sleeps without a time and was not
woken, a sink that has recorded is still to wake it (`Sleeps`).
-/
import UrnetworkWindows.NetworkCountry.Safe

namespace UrnetworkWindows.NetworkCountry

open Lib
open Watchdog.Network (NotifyCoalescer)

/-! ### Sleeping -/

/-- A sleep with a time ends at the deadline of the burst that is pending, and in one without a
time the sink of a pending observation has not woken the thread yet. -/
structure Sleeps (w : Watch) : Prop where
  timed : ∀ t woken, w.thread = .asleep (some t) woken →
    w.network.pending = true ∧ w.network.deadlineMillis = t
  untimed : w.thread = .asleep none false → w.network.pending = true → 0 < w.sinks

variable {w w' : Watch}

lemma Sleeps.woken (h : Sleeps w) (hthread : w'.thread = w.thread.woken)
    (hnetwork : w'.network = w.network) : Sleeps w' := by
  constructor
  · intro t woken hasleep
    rw [hthread] at hasleep
    rw [hnetwork]
    cases hw : w.thread with
    | asleep until? woken' =>
      rw [hw] at hasleep
      obtain ⟨rfl, -⟩ := At.asleep.inj hasleep
      exact h.timed t woken' hw
    | _ =>
      rw [hw] at hasleep
      cases hasleep
  · intro hasleep
    rw [hthread] at hasleep
    cases hw : w.thread <;> rw [hw] at hasleep <;> cases hasleep

lemma Sleeps.step {a : Act} (h : Sleeps w) (hstep : Step w a w') : Sleeps w' := by
  cases hstep with
  | sleep hthread hc hdue hpending =>
    refine ⟨?_, nofun⟩
    rintro t woken ⟨⟩
    exact ⟨hpending, rfl⟩
  | park hthread hc hpending =>
    exact ⟨nofun, fun _ hpending' => absurd (hpending.symm.trans hpending') nofun⟩
  | observe hc =>
    refine ⟨fun t woken hasleep => ?_, fun _ _ => Nat.succ_pos _⟩
    obtain ⟨hpending, hdeadline⟩ := h.timed t woken hasleep
    exact ⟨NotifyCoalescer.observe_pending .., (observe_deadline hpending).trans hdeadline⟩
  | sinkNotifies hsinks | cancel | destroy howner => exact h.woken rfl rfl
  | ignore hc | cancelReturns hcancels hr | destroyCancelled howner hr | destroyed howner
  | time millis => exact ⟨h.timed, h.untimed⟩
  | _ => exact ⟨nofun, nofun⟩

/-! ### One step -/

/-- A pending observation, in a watch that was not cancelled. -/
structure Owes (w : Watch) : Prop where
  pending : w.network.pending = true
  cancelled : w.cancelled = false

/-- How many statements there are at most to the one that takes the burst, once its deadline has
passed. -/
def At.rank : At → ℕ
  | .toRead => 0
  | .toWait => 1
  | .asleep none false => 3
  | .asleep .. => 2
  | .toNotify => 2
  | .toFinish => 3
  | .inReport _ => 4
  | .toReport _ => 5
  | .toCheck _ => 6
  | .reading => 7
  | .returned | .ended => 0

lemma owes_step {a : Act} (h : Owes w) (hstep : Step w a w') :
    w'.cancelled = true ∨ (w'.thread = .toRead ∧ w'.cancelled = false) ∨
    (Owes w' ∧ w'.network.deadlineMillis = w.network.deadlineMillis) := by
  obtain ⟨hpending, hcancelled⟩ := h
  cases hstep with
  | take hthread hc hdue => exact .inr (.inl ⟨rfl, hc⟩)
  | observe hc =>
    exact .inr (.inr ⟨⟨NotifyCoalescer.observe_pending .., hc⟩, observe_deadline hpending⟩)
  | cancel | destroy howner => exact .inl rfl
  | _ => exact .inr (.inr ⟨⟨hpending, hcancelled⟩, rfl⟩)

lemma now_step {a : Act} (hstep : Step w a w') : w.now ≤ w'.now := by
  cases hstep with
  | time millis => exact Int.le_add_of_nonneg_right (Int.natCast_nonneg _)
  | _ => exact le_rfl

lemma rank_of_thread {a : Act} (h : Owes w) (hinv : Channel w)
    (hdue : w.network.deadlineMillis ≤ w.now) (hstep : Step w a w') (hthread : a.isThread = true) :
    a = .startRead ∨ w'.thread.rank < w.thread.rank ∨
      w'.thread = .toRead ∧ w'.cancelled = false := by
  obtain ⟨hpending, hcancelled⟩ := h
  have hdue : (w.network.takeDue w.now).1 = true := takeDue_fst.2 ⟨hpending, hdue⟩
  cases hstep with
  | startRead _ => exact .inl rfl
  | drop r _ hc | stop _ hc => exact absurd (hcancelled.symm.trans hc) nofun
  | take _ hc _ => exact .inr (.inr ⟨rfl, hc⟩)
  | sleep _ _ hnot _ => exact absurd (hdue.symm.trans hnot) nofun
  | park _ _ hnot => exact absurd (hpending.symm.trans hnot) nofun
  | wake until? woken hasleep =>
    refine .inr (.inl ?_)
    rw [hasleep]
    rcases until? with _ | t <;> rcases woken with _ | _ <;> simp [At.rank]
  | endThread hover =>
    have hc := hinv.cancelled (.inl (by rw [hover]; rfl))
    exact absurd (hcancelled.symm.trans hc) nofun
  | readReturns _ hat | check _ hat _ | skip _ hat _ | report _ hat _ | reportReturns _ hat
  | finish hat | notify hat =>
    refine .inr (.inl ?_)
    rw [hat]
    simp [At.rank, Watch.finish]
  | _ => cases hthread

lemma thread_of_other {a : Act} (hstep : Step w a w') (hother : a.isThread = false) :
    w'.thread = w.thread ∨ w'.thread = w.thread.woken := by
  cases hstep with
  | sinkNotifies _ | cancel | destroy _ => exact .inr rfl
  | ignore _ | observe _ | cancelReturns _ _ | destroyCancelled _ _ | destroyed _ | time _ =>
    exact .inl rfl
  | _ => cases hother

lemma thread_of_sink (hstep : Step w .sinkNotifies w') : w'.thread = w.thread.woken := by
  cases hstep
  rfl

lemma rank_woken (thread : At) : thread.woken.rank ≤ thread.rank ∧
    (thread = .asleep none false → thread.woken.rank < thread.rank) := by
  cases thread with
  | asleep until? woken =>
      rcases until? with _ | t <;> rcases woken with _ | _ <;> simp [At.woken, At.rank]
  | _ => exact ⟨le_rfl, nofun⟩

lemma woken_ne (thread : At) : thread.woken ≠ .asleep none false := by
  cases thread <;> simp [At.woken]

lemma ready_of_due {w : Watch} (hinv : Channel w) (hsleeps : Sleeps w) (howes : Owes w)
    (hdue : w.network.deadlineMillis ≤ w.now) (hawake : w.thread ≠ .asleep none false) :
    w.ready = true := by
  rw [Watch.ready]
  split
  · next until? woken hasleep =>
    cases until? with
    | none =>
      obtain rfl : woken = true := by
        by_contra hwoken
        exact hawake (by rw [hasleep, Bool.eq_false_iff.2 hwoken])
      rfl
    | some t =>
      obtain ⟨-, rfl⟩ := hsleeps.timed t woken hasleep
      simpa using .inr hdue
  · next hended =>
    have hc := hinv.cancelled (.inl (by rw [hended]; rfl))
    exact absurd (howes.cancelled.symm.trans hc) nofun
  · rfl

lemma startRead_of_thread {a : Act} (hstep : Step w a w') (hthread : w.thread = .toRead)
    (hacts : a.isThread = true) : a = .startRead := by
  cases hstep with
  | startRead _ => rfl
  | readReturns _ h | drop _ h _ | check _ h _ | skip _ h _ | report _ h _ | reportReturns _ h
  | finish h | notify h | stop h _ | take h _ _ | sleep h _ _ _ | park h _ _ | wake _ _ h
  | endThread h => exact absurd (hthread.symm.trans h) nofun
  | _ => cases hacts

/-! ### Endless runs -/

section

variable {run : Endless Starts next} (hfair : Fair run)

lemma channel_at (run : Endless Starts next) (n : ℕ) : Channel (run.state n) :=
  run.invariant (fun _ h => (inv_starts h).channel)
    (fun _ _ _ h hstep => h.step (step_of_next hstep)) n

lemma sleeps_at (run : Endless Starts next) (n : ℕ) : Sleeps (run.state n) := by
  refine run.invariant ?_ (fun _ _ _ h hstep => h.step (step_of_next hstep)) n
  rintro _ ⟨windowMillis, now, rfl⟩
  exact ⟨nofun, nofun⟩

/-- A read starts here, or the watch is cancelled. -/
def ReadsOrCancelled (run : Endless Starts next) (n : ℕ) : Prop :=
  run.label n = .startRead ∨ (run.state n).cancelled = true

/-- The thread has taken a burst, or is about to read at first. -/
def AboutToRead (run : Endless Starts next) (n : ℕ) : Prop :=
  (run.state n).thread = .toRead ∧ (run.state n).cancelled = false

/-- The burst is due. -/
def Due (run : Endless Starts next) (n : ℕ) : Prop :=
  Owes (run.state n) ∧ (run.state n).network.deadlineMillis ≤ (run.state n).now

include hfair

lemma aboutToRead_leadsTo : LeadsTo (AboutToRead run) (ReadsOrCancelled run) := by
  refine LeadsTo.of_fair hfair.thread ?_ ?_ ?_
  · rintro n ⟨hthread, hcancelled⟩ hnot
    have hstep := step_of_next (run.step n)
    have hother : (run.label n).isThread = false := by
      by_contra hacts
      exact hnot (.inl (startRead_of_thread hstep hthread (by simpa using hacts)))
    have hthread' : (run.state (n + 1)).thread = .toRead := by
      rcases thread_of_other hstep hother with h | h
      · exact h.trans hthread
      · rw [h, hthread]
        rfl
    cases hcancelled' : (run.state (n + 1)).cancelled with
    | true => exact .inr (.inr hcancelled')
    | false => exact .inl ⟨hthread', hcancelled'⟩
  · rintro n ⟨hthread, -⟩
    rw [Watch.ready, hthread]
  · rintro n ⟨hthread, -⟩ hacts
    exact .inl (.inl (startRead_of_thread (step_of_next (run.step n)) hthread hacts))

omit hfair in
lemma due_step {n : ℕ} (h : Due run n) :
    ReadsOrCancelled run n ∨ ReadsOrCancelled run (n + 1) ∨ AboutToRead run (n + 1) ∨
      (Due run (n + 1) ∧ ((run.state (n + 1)).thread.rank < (run.state n).thread.rank ∨
        (run.label n).isThread = false ∧ ((run.state (n + 1)).thread = (run.state n).thread ∨
          (run.state (n + 1)).thread = (run.state n).thread.woken))) := by
  obtain ⟨howes, hdue⟩ := h
  have hstep := step_of_next (run.step n)
  rcases owes_step howes hstep with hc | hread | ⟨howes', hdeadline⟩
  · exact .inr (.inl (.inr hc))
  · exact .inr (.inr (.inl hread))
  have hdue' : Due run (n + 1) := ⟨howes', hdeadline ▸ hdue.trans (now_step hstep)⟩
  cases hacts : (run.label n).isThread with
  | false => exact .inr (.inr (.inr ⟨hdue', .inr ⟨rfl, thread_of_other hstep hacts⟩⟩))
  | true =>
    rcases rank_of_thread howes (channel_at run n) hdue hstep hacts with hread | hlt | hread
    · exact .inl (.inl hread)
    · exact .inr (.inr (.inr ⟨hdue', .inl hlt⟩))
    · exact .inr (.inr (.inl hread))

lemma due_leadsTo :
    LeadsTo (Due run) fun n => ReadsOrCancelled run n ∨ AboutToRead run n := by
  refine LeadsTo.of_rank (fun n => (run.state n).thread.rank) fun k => ?_
  have hunwoken : LeadsTo
      (fun n => (Due run n ∧ (run.state n).thread.rank = k) ∧
        (run.state n).thread = .asleep none false)
      fun n => (ReadsOrCancelled run n ∨ AboutToRead run n) ∨
        (Due run n ∧ (run.state n).thread.rank < k) := by
    refine LeadsTo.of_fair hfair.sinks ?_ ?_ ?_
    · rintro n ⟨⟨hdue, rfl⟩, hasleep⟩ hnot
      rcases due_step hdue with h | h | h | ⟨hdue', hlt | ⟨-, heq | hwoken⟩⟩
      · exact absurd (.inl (.inl h)) hnot
      · exact .inr (.inl (.inl h))
      · exact .inr (.inl (.inr h))
      · exact .inr (.inr ⟨hdue', hlt⟩)
      · exact .inl ⟨⟨hdue', by rw [heq]⟩, heq.trans hasleep⟩
      · exact .inr (.inr ⟨hdue', by rw [hwoken]; exact (rank_woken _).2 hasleep⟩)
    · rintro n ⟨⟨⟨howes, -⟩, -⟩, hasleep⟩
      exact (sleeps_at run n).untimed hasleep howes.pending
    · rintro n ⟨⟨hdue, rfl⟩, hasleep⟩ hlabel
      rcases due_step hdue with h | h | h | ⟨hdue', -⟩
      · exact .inl (.inl (.inl h))
      · exact .inr (.inl (.inl h))
      · exact .inr (.inl (.inr h))
      · refine .inr (.inr ⟨hdue', ?_⟩)
        have hstep := step_of_next (run.step n)
        rw [show run.label n = .sinkNotifies from hlabel] at hstep
        rw [thread_of_sink hstep]
        exact (rank_woken _).2 hasleep
  have hready : LeadsTo
      (fun n => (Due run n ∧ (run.state n).thread.rank = k) ∧
        (run.state n).thread ≠ .asleep none false)
      fun n => (ReadsOrCancelled run n ∨ AboutToRead run n) ∨
        (Due run n ∧ (run.state n).thread.rank < k) := by
    refine LeadsTo.of_fair hfair.thread ?_ ?_ ?_
    · rintro n ⟨⟨hdue, rfl⟩, hawake⟩ hnot
      rcases due_step hdue with h | h | h | ⟨hdue', hlt | ⟨-, heq | hwoken⟩⟩
      · exact absurd (.inl (.inl h)) hnot
      · exact .inr (.inl (.inl h))
      · exact .inr (.inl (.inr h))
      · exact .inr (.inr ⟨hdue', hlt⟩)
      · exact .inl ⟨⟨hdue', by rw [heq]⟩, heq.trans_ne hawake⟩
      · rcases (rank_woken (run.state n).thread).1.lt_or_eq with hlt | heq
        · exact .inr (.inr ⟨hdue', hwoken ▸ hlt⟩)
        · exact .inl ⟨⟨hdue', hwoken ▸ heq⟩, hwoken.trans_ne (woken_ne _)⟩
    · rintro n ⟨⟨hdue, -⟩, hawake⟩
      exact ready_of_due (channel_at run n) (sleeps_at run n) hdue.1 hdue.2 hawake
    · rintro n ⟨⟨hdue, rfl⟩, -⟩ hacts
      rcases due_step hdue with h | h | h | ⟨hdue', hlt | ⟨hother, -⟩⟩
      · exact .inl (.inl (.inl h))
      · exact .inr (.inl (.inl h))
      · exact .inr (.inl (.inr h))
      · exact .inr (.inr ⟨hdue', hlt⟩)
      · exact absurd (hother.symm.trans hacts) nofun
  intro n hn
  -- a thread that sleeps without a time is woken by the sink; any other goes on by itself
  by_cases hasleep : (run.state n).thread = .asleep none false
  · exact hunwoken n ⟨hn, hasleep⟩
  · exact hready n ⟨hn, hasleep⟩

lemma owes_leadsTo : LeadsTo (fun n => Owes (run.state n)) (ReadsOrCancelled run) := by
  have hread : LeadsTo (fun n => ReadsOrCancelled run n ∨ AboutToRead run n)
      (ReadsOrCancelled run) :=
    (LeadsTo.of_imp fun _ hn => hn).or (aboutToRead_leadsTo hfair)
  intro n hn
  -- the deadline of the burst, which time passes at last
  obtain ⟨k, hk⟩ := hfair.time (run.state n).network.deadlineMillis
  have hpasses : ∃ k, ∀ m, k ≤ m → (run.state n).network.deadlineMillis ≤ (run.state m).now :=
    ⟨k, fun m hm => run.stable (P := fun w => _ ≤ w.now)
      (fun _ _ _ h hstep => h.trans (now_step (step_of_next hstep))) hm hk⟩
  have hdue : LeadsTo
      (fun m => Owes (run.state m) ∧
        (run.state m).network.deadlineMillis = (run.state n).network.deadlineMillis)
      fun m => (ReadsOrCancelled run m ∨ AboutToRead run m) ∨ Due run m := by
    refine (LeadsTo.of_always (Q := fun m => ReadsOrCancelled run m ∨ AboutToRead run m)
      hpasses ?_).trans (LeadsTo.of_imp ?_)
    · rintro m ⟨howes, hdeadline⟩ -
      rcases owes_step howes (step_of_next (run.step m)) with h | h | ⟨howes', hdeadline'⟩
      · exact .inr (.inl (.inr h))
      · exact .inr (.inr h)
      · exact .inl ⟨howes', hdeadline'.trans hdeadline⟩
    · rintro m (h | ⟨⟨howes, hdeadline⟩, hpassed⟩)
      · exact .inl h
      · exact .inr ⟨howes, hdeadline ▸ hpassed⟩
  exact ((hdue.trans_or (due_leadsTo hfair)).trans hread) n ⟨hn, rfl⟩

end

/-! ### No change is missed -/

/-- The watch on the network country.  At any time of any run no report runs once a `Cancel` has
returned, what was reported is as `Safe` has it, and `WaitSettled` answers only where a read that
started after every observation has returned what was reported last; and in an endless run in
which no party stops for ever, an observation that was recorded is followed by a read that starts
after it, unless the watch is cancelled. -/
theorem no_change_missed :
    (∀ es w, Runs es w → Safe es w) ∧
    ∀ run : Endless Starts next, Fair run → ∀ n, run.label n = .observe →
      (run.state n).cancelled = false →
        ∃ m, n < m ∧ (run.label m = .startRead ∨ (run.state m).cancelled = true) := by
  refine ⟨fun es w hrun => (inv_of_runs hrun).safe, fun run hfair n hlabel hcancelled => ?_⟩
  have howes : Owes (run.state (n + 1)) := by
    have hstep := step_of_next (run.step n)
    rw [hlabel] at hstep
    generalize run.state (n + 1) = w' at hstep
    cases hstep with
    | ignore hc => exact absurd (hcancelled.symm.trans hc) nofun
    | observe hc => exact ⟨NotifyCoalescer.observe_pending .., hc⟩
  obtain ⟨m, hm, hread⟩ := owes_leadsTo hfair (n + 1) howes
  exact ⟨m, hm, hread⟩

/-! ### A run with a change in it -/

/-- The country is observed during the first read and read again after its burst; from then on
nothing happens but that time passes. -/
def sampleAct (n : ℕ) : Act :=
  [.startRead, .observe, .readReturns (some { code := narrow "us", source := narrow "locale" }),
    .check, .report, .reportReturns, .finish, .notify, .waitForBurst, .sinkNotifies, .wake,
    .waitForBurst, .time 250, .wake, .waitForBurst, .startRead, .readReturns none, .check, .report,
    .reportReturns, .finish, .notify, .waitForBurst].getD n (.time 1)

def sampleWatch : ℕ → Watch
  | 0 => { network := { windowMillis := 250 }, now := 0 }
  | n + 1 => (next (sampleWatch n) (sampleAct n)).getD (sampleWatch n)

/-- The state the sample comes to rest in. -/
def sampleParked (now : ℤ) : Watch := { sampleWatch 23 with now }

lemma sampleAct_rest (n : ℕ) : sampleAct (23 + n) = .time 1 := by
  rw [sampleAct, List.getD_eq_getElem?_getD, List.getElem?_eq_none (Nat.le_add_right 23 n)]
  rfl

lemma sampleWatch_rest (n : ℕ) : sampleWatch (23 + n) = sampleParked (250 + n) := by
  induction n with
  | zero => decide +kernel
  | succ n ih =>
    rw [← Nat.add_assoc, sampleWatch, sampleAct_rest, ih]
    simp [next, sampleParked, Int.add_assoc]

def sampleRun : Endless Starts next where
  state := sampleWatch
  label := sampleAct
  start := ⟨250, 0, rfl⟩
  step := by
    have hfirst : ∀ n < 23, (next (sampleWatch n) (sampleAct n)).isSome := by decide +kernel
    intro n
    rw [sampleWatch]
    rcases Nat.lt_or_ge n 23 with hn | hn
    · obtain ⟨w, hw⟩ := Option.isSome_iff_exists.1 (hfirst n hn)
      rw [hw, Option.getD_some]
    · obtain ⟨k, rfl⟩ := Nat.exists_eq_add_of_le hn
      rw [sampleAct_rest]
      rfl

lemma sampleRun_fair : Fair sampleRun := by
  have hparked : (sampleWatch 23).thread = .asleep none false := by decide +kernel
  have hsinks : (sampleWatch 23).sinks = 0 := by decide +kernel
  refine ⟨fun n hready => ?_, fun n hsink => ?_, fun t => ⟨23 + t.toNat, ?_⟩⟩
  · -- the thread sleeps for good
    have h : (sampleWatch (23 + n)).ready = true := hready _ (Nat.le_add_left n 23)
    rw [sampleWatch_rest, Watch.ready, sampleParked, hparked] at h
    cases h
  · have h : 0 < (sampleWatch (23 + n)).sinks := hsink _ (Nat.le_add_left n 23)
    rw [sampleWatch_rest, sampleParked, hsinks] at h
    exact absurd h (Nat.lt_irrefl 0)
  · change t ≤ (sampleWatch (23 + t.toNat)).now
    rw [sampleWatch_rest]
    exact (Int.self_le_toNat t).trans (Int.le_add_of_nonneg_left (by decide))

theorem no_change_missed_seen :
    ∃ m, 1 < m ∧ ((sampleRun.label m) = .startRead ∨ (sampleRun.state m).cancelled = true) :=
  no_change_missed.2 sampleRun sampleRun_fair 1 rfl (by decide +kernel)

end UrnetworkWindows.NetworkCountry
