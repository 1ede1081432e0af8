/-
What holds of the watch at any time.

A report runs only while `reporting` is set, which a call of `Cancel` waits for, and after
the flag is set no round gets past its check (`Channel`).  The readings that were reported
are told by the thread's own memory of the last one (`Rounds`).  An observation is pending
until a burst is taken, and a thread that has parked has finished a round since it took the
last, whose reading is the one reported last (`Heard`).
-/
import UrnetworkWindows.NetworkCountry.Watch

namespace UrnetworkWindows.NetworkCountry

open Lib
open Watchdog.Network (NotifyCoalescer)

/-! ### The coalescer -/

lemma takeDue_fst {c : NotifyCoalescer} {now : ℤ} :
    (c.takeDue now).1 = true ↔ c.pending = true ∧ c.deadlineMillis ≤ now := by
  rw [NotifyCoalescer.takeDue]
  split_ifs with h
  · simp only [Bool.or_eq_true, Bool.not_eq_true', decide_eq_true_eq] at h
    simp only [false_iff, not_and, not_le]
    exact fun hpending => h.resolve_left (by simp [hpending])
  · simp only [Bool.or_eq_true, Bool.not_eq_true', decide_eq_true_eq, not_or, not_lt,
      Bool.not_eq_false] at h
    exact ⟨fun _ => h, fun _ => rfl⟩

lemma observe_deadline {c : NotifyCoalescer} {now : ℤ} (h : c.pending = true) :
    (c.observe now).deadlineMillis = c.deadlineMillis := by
  rw [NotifyCoalescer.observe, if_pos h]

/-! ### Steps -/

lemma At.congr_woken {β : Type*} (f : At → β)
    (hf : ∀ until? woken, f (.asleep until? woken) = f (.asleep until? true)) (thread : At) :
    f thread.woken = f thread := by
  cases thread with
  | asleep until? woken => exact (hf until? woken).symm
  | _ => rfl

/-- What a step does, and where. -/
inductive Step (w : Watch) : Act → Watch → Prop
  | startRead (h : w.thread = .toRead) :
    Step w .startRead { w with thread := .reading }
  | readReturns (answer) (h : w.thread = .reading) : Step w (.readReturns answer)
      { w with
        thread := .toCheck (answer.getD unreadable)
        readings := w.readings ++ [answer.getD unreadable] }
  | drop (r) (h : w.thread = .toCheck r) (hc : w.cancelled = true) :
    Step w .check { w with thread := .returned }
  | check (r) (h : w.thread = .toCheck r) (hc : w.cancelled = false) :
    Step w .check { w with reporting := true, thread := .toReport r }
  | skip (r) (h : w.thread = .toReport r) (hr : w.reported = some r) :
    Step w .report { w with thread := .toFinish }
  | report (r) (h : w.thread = .toReport r) (hr : w.reported ≠ some r) :
    Step w .report { w with thread := .inReport r, reports := w.reports ++ [r] }
  | reportReturns (r) (h : w.thread = .inReport r) :
    Step w .reportReturns { w with thread := .toFinish, reported := some r }
  | finish (h : w.thread = .toFinish) : Step w .finish w.finish
  | notify (h : w.thread = .toNotify) :
    Step w .notify { w with thread := .toWait, first := false }
  | stop (h : w.thread = .toWait) (hc : w.cancelled = true) :
    Step w .waitForBurst { w with thread := .returned }
  | take (h : w.thread = .toWait) (hc : w.cancelled = false)
      (hdue : (w.network.takeDue w.now).1 = true) : Step w .waitForBurst
      { w with network := (w.network.takeDue w.now).2, parked := false, thread := .toRead }
  | sleep (h : w.thread = .toWait) (hc : w.cancelled = false)
      (hdue : (w.network.takeDue w.now).1 = false) (hpending : w.network.pending = true) :
    Step w .waitForBurst
      { w with parked := false, thread := .asleep (some w.network.deadlineMillis) false }
  | park (h : w.thread = .toWait) (hc : w.cancelled = false)
      (hpending : w.network.pending = false) :
    Step w .waitForBurst { w with parked := true, thread := .asleep none false }
  | wake (until?) (woken) (h : w.thread = .asleep until? woken) :
    Step w .wake { w with thread := .toWait }
  | endThread (h : w.thread = .returned) :
    Step w .endThread { w with finished := true, thread := .ended }
  | ignore (hc : w.cancelled = true) : Step w .observe w
  | observe (hc : w.cancelled = false) : Step w .observe
      { w with
        network := w.network.observe w.now
        sinks := w.sinks + 1 }
  | sinkNotifies (h : 0 < w.sinks) :
    Step w .sinkNotifies { w with sinks := w.sinks - 1, thread := w.thread.woken }
  | cancel : Step w .cancel
      { w with cancelled := true, cancels := w.cancels + 1, thread := w.thread.woken }
  | cancelReturns (h : 0 < w.cancels) (hr : w.reporting = false) :
    Step w .cancelReturns { w with cancels := w.cancels - 1, cancelReturned := true }
  | destroy (h : w.owner = .alive) : Step w .destroy
      { w with cancelled := true, owner := .cancelling, thread := w.thread.woken }
  | destroyCancelled (h : w.owner = .cancelling) (hr : w.reporting = false) :
    Step w .destroyCancelled { w with owner := .joining, cancelReturned := true }
  | destroyed (h : w.owner = .joining) : Step w .destroyed { w with owner := .gone }
  | time (millis) : Step w (.time millis) { w with now := w.now + millis }

variable {w w' : Watch}

lemma step_of_next {a : Act} (h : next w a = some w') : Step w a w' := by
  unfold next at h
  split at h
  · next hthread =>
    cases h
    exact .startRead hthread
  · next answer hthread =>
    cases h
    exact .readReturns answer hthread
  · next r hthread =>
    cases h
    rw [Watch.check]
    split_ifs with hc
    · exact .drop r hthread hc
    · exact .check r hthread (by simpa using hc)
  · next r hthread =>
    cases h
    rw [Watch.report]
    split_ifs with hr
    · exact .skip r hthread hr
    · exact .report r hthread hr
  · next r hthread =>
    cases h
    exact .reportReturns r hthread
  · next hthread =>
    cases h
    exact .finish hthread
  · next hthread =>
    cases h
    exact .notify hthread
  · next hthread =>
    cases h
    rw [Watch.waitForBurst]
    split_ifs with hc hdue hpending
    · exact .stop hthread hc
    · exact .take hthread (by simpa using hc) hdue
    · exact .sleep hthread (by simpa using hc) (by simpa using hdue) hpending
    · exact .park hthread (by simpa using hc) (by simpa using hpending)
  · next until? woken hthread =>
    cases h
    exact .wake until? woken hthread
  · next hthread =>
    cases h
    exact .endThread hthread
  · cases h
    rw [Watch.observe]
    split_ifs with hc
    · exact .ignore hc
    · exact .observe (by simpa using hc)
  · split_ifs at h with hsinks
    cases h
    exact .sinkNotifies (Nat.pos_of_ne_zero hsinks)
  · split_ifs at h
    cases h
    exact .cancel
  · split_ifs at h with hguard
    cases h
    obtain ⟨hcancels, hr⟩ := not_or.1 hguard
    exact .cancelReturns (Nat.pos_of_ne_zero hcancels) (by simpa using hr)
  · split_ifs at h with howner
    cases h
    exact .destroy (not_not.1 howner)
  · split_ifs at h with hguard
    cases h
    obtain ⟨howner, hr⟩ := not_or.1 hguard
    exact .destroyCancelled (not_not.1 howner) (by simpa using hr)
  · split_ifs at h with howner
    cases h
    exact .destroyed (not_not.1 howner)
  · cases h
    exact .time _
  · cases h

/-! ### The report and the cancel -/

/-- The thread is between the lock that sets `reporting` and the one that clears it. -/
def At.reports : At → Bool
  | .toReport _ | .inReport _ | .toFinish => true
  | _ => false

def At.isOver : At → Bool
  | .returned | .ended => true
  | _ => false

structure Channel (w : Watch) : Prop where
  reporting : w.reporting = w.thread.reports
  cancelReturned : w.cancelReturned = true → w.cancelled = true ∧ w.reporting = false
  cancelled : w.thread.isOver = true ∨ 0 < w.cancels ∨ w.owner ≠ .alive → w.cancelled = true

/-- What the channel invariant looks at, besides the thread. -/
def Watch.flags (w : Watch) : Bool × Bool × Bool × ℕ × Owner :=
  (w.reporting, w.cancelled, w.cancelReturned, w.cancels, w.owner)

lemma Channel.moves (h : Channel w) (hflags : w'.flags = w.flags)
    (hreports : w'.thread.reports = w.thread.reports)
    (hover : w'.thread.isOver = true → w.thread.isOver = true ∨ w.cancelled = true) :
    Channel w' := by
  obtain ⟨hreporting, hreturned, hcancelled⟩ := h
  simp only [Watch.flags, Prod.mk.injEq] at hflags
  obtain ⟨hr, hc, hret, hcancels, howner⟩ := hflags
  refine ⟨by rw [hr, hreports, hreporting], by rwa [hret, hc, hr], ?_⟩
  rw [hc, hcancels, howner]
  rintro (h | h)
  · exact (hover h).elim (fun h => hcancelled (.inl h)) id
  · exact hcancelled (.inr h)

lemma Channel.step {a : Act} (h : Channel w) (hstep : Step w a w') : Channel w' := by
  have hreports : w.thread.woken.reports = w.thread.reports :=
    At.congr_woken At.reports (fun _ _ => rfl) _
  have hover : w.thread.woken.isOver = w.thread.isOver :=
    At.congr_woken At.isOver (fun _ _ => rfl) _
  cases hstep with
  | startRead hthread | readReturns answer hthread | skip r hthread hr | report r hthread hr
  | reportReturns r hthread | notify hthread | take hthread hc hdue
  | sleep hthread hc hdue hpending | park hthread hc hpending | wake until? woken hthread =>
    exact h.moves rfl (by rw [hthread]; rfl) nofun
  | drop r hthread hc | stop hthread hc => exact h.moves rfl (by rw [hthread]; rfl) fun _ => .inr hc
  | check r hthread hc =>
    refine ⟨rfl, fun hreturned => ?_, fun hor => h.cancelled (hor.imp_left nofun)⟩
    exact absurd ((h.cancelReturned hreturned).1.symm.trans hc) nofun
  | finish hthread =>
    refine ⟨rfl, fun hreturned => ⟨(h.cancelReturned hreturned).1, rfl⟩, fun hor => ?_⟩
    exact h.cancelled (hor.imp_left nofun)
  | endThread hthread =>
    exact h.moves rfl (by rw [hthread]; rfl) fun _ => .inl (by rw [hthread]; rfl)
  | ignore hc => exact h
  | observe hc | time millis => exact h.moves rfl rfl .inl
  | sinkNotifies hsinks => exact h.moves rfl hreports fun hended => .inl (hover ▸ hended)
  | cancel | destroy howner =>
    exact ⟨h.reporting.trans hreports.symm, fun hreturned => ⟨rfl, (h.cancelReturned hreturned).2⟩,
      fun _ => rfl⟩
  | cancelReturns hcancels hr =>
    have hc := h.cancelled (.inr (.inl hcancels))
    exact ⟨h.reporting, fun _ => ⟨hc, hr⟩, fun _ => hc⟩
  | destroyCancelled howner hr =>
    have hc := h.cancelled (.inr (.inr (by simp [howner])))
    exact ⟨h.reporting, fun _ => ⟨hc, hr⟩, fun _ => hc⟩
  | destroyed howner =>
    have hc := h.cancelled (.inr (.inr (by simp [howner])))
    exact ⟨h.reporting, h.cancelReturned, fun _ => hc⟩

/-! ### What is reported -/

/-- What the thread still has to do with a country that was never reported: it is in its first
round, and the reading of that is the first. -/
def At.awaitsFirst (readings : List Reading) : At → Prop
  | .toRead | .reading => readings = []
  | .toCheck r | .toReport r => readings = [r]
  | .returned | .ended => True
  | _ => False

/-- The report that runs, or the last one that returned. -/
def Watch.lastReport (w : Watch) : Option Reading :=
  match w.thread with
  | .inReport r => some r
  | _ => w.reported

structure Rounds (w : Watch) : Prop where
  last : w.reports.getLast? = w.lastReport
  differ : w.reports.IsChain (· ≠ ·)
  awaits : w.reports = [] → w.thread.awaitsFirst w.readings
  first : ∀ r, w.reports.head? = some r → w.readings.head? = some r

lemma Rounds.moves (h : Rounds w) (hreports : w'.reports = w.reports)
    (hreadings : w'.readings = w.readings) (hlast : w'.lastReport = w.lastReport)
    (hawaits : w.thread.awaitsFirst w.readings → w'.thread.awaitsFirst w.readings) : Rounds w' := by
  obtain ⟨h1, h2, h3, h4⟩ := h
  refine ⟨by rw [hreports, hlast, h1], by rwa [hreports], ?_, by rwa [hreports, hreadings]⟩
  rw [hreports, hreadings]
  exact fun hnil => hawaits (h3 hnil)

lemma Rounds.outside (h : Rounds w) (hreports : w'.reports = w.reports)
    (hreadings : w'.readings = w.readings) (hreported : w'.reported = w.reported)
    (hthread : w'.thread = w.thread ∨ w'.thread = w.thread.woken) : Rounds w' := by
  rcases hthread with hthread | hthread
  · exact h.moves hreports hreadings
      (by rw [Watch.lastReport, Watch.lastReport, hthread, hreported]) (by rw [hthread]; exact id)
  · refine h.moves hreports hreadings ?_ ?_
    · rw [Watch.lastReport, Watch.lastReport, hthread, hreported]
      cases w.thread <;> rfl
    · rw [hthread]
      cases w.thread <;> exact id

lemma Rounds.step {a : Act} (h : Rounds w) (hstep : Step w a w') : Rounds w' := by
  have hlast : ∀ {thread : At}, w.thread = thread → (∀ r, thread ≠ .inReport r) →
      w.lastReport = w.reported := by
    intro thread hthread hne
    rw [Watch.lastReport, hthread]
    cases thread <;> first | rfl | exact absurd rfl (hne _)
  cases hstep with
  | startRead hthread | check r hthread hc =>
    exact h.moves rfl rfl (hlast hthread nofun).symm (by rw [hthread]; exact id)
  | readReturns answer hthread =>
    refine ⟨h.last.trans (hlast hthread nofun), h.differ, fun hnil => ?_, fun r hr => ?_⟩
    · have hawaits := h.awaits hnil
      rw [hthread] at hawaits
      have hawaits : w.readings = [] := hawaits
      dsimp only
      rw [hawaits]
      rfl
    · dsimp only
      rw [List.head?_append, h.first r hr]
      rfl
  | drop r hthread hc | stop hthread hc | endThread hthread =>
    exact h.moves rfl rfl (hlast hthread nofun).symm (fun _ => trivial)
  | skip r hthread hr =>
    refine ⟨h.last.trans (hlast hthread nofun), h.differ, fun hnil => ?_, h.first⟩
    have hlast := h.last.trans (hlast hthread nofun)
    rw [show w.reports = [] from hnil, hr] at hlast
    cases hlast
  | report r hthread hr =>
    have hlast := h.last.trans (hlast hthread nofun)
    refine ⟨List.getLast?_concat .., ?_, by simp, fun r' hr' => ?_⟩
    · rw [List.isChain_append]
      refine ⟨h.differ, List.isChain_singleton _, ?_⟩
      rintro x hx y ⟨rfl⟩ rfl
      exact hr (hlast.symm.trans hx)
    · cases hreports : w.reports with
      | nil =>
        have hawaits := h.awaits hreports
        rw [hthread] at hawaits
        have hawaits : w.readings = [r] := hawaits
        dsimp only at hr' ⊢
        rw [hreports, List.nil_append] at hr'
        rw [hawaits]
        exact hr'
      | cons first rest =>
        refine h.first r' ?_
        dsimp only at hr'
        rw [hreports] at hr' ⊢
        exact hr'
  | reportReturns r hthread =>
    have hlast : w.lastReport = some r := by rw [Watch.lastReport, hthread]
    refine ⟨h.last.trans hlast, h.differ, fun hnil => ?_, h.first⟩
    have hawaits := h.awaits hnil
    rw [hthread] at hawaits
    exact hawaits
  | finish hthread | notify hthread | take hthread hc hdue | sleep hthread hc hdue hpending
  | park hthread hc hpending | wake until? woken hthread =>
    exact h.moves rfl rfl (hlast hthread nofun).symm (by rw [hthread]; exact False.elim)
  | ignore hc => exact h
  | sinkNotifies hsinks | cancel | destroy howner => exact h.outside rfl rfl rfl (.inr rfl)
  | observe hc | cancelReturns hcancels hr | destroyCancelled howner hr | destroyed howner
      | time millis =>
    exact h.outside rfl rfl rfl (.inl rfl)

/-! ### What is settled -/

/-- The thread is past a round and before the next. -/
def At.waits : At → Bool
  | .toNotify | .toWait | .asleep .. => true
  | _ => false

/-- A sink's observation is recorded. -/
def Records (t : Transition Watch Act) : Prop := t.label = .observe ∧ t.pre.cancelled = false

/-- A read has returned the reading. -/
def Returned (r : Reading) (post : List (Transition Watch Act)) : Prop :=
  ∃ t ∈ post, ∃ answer, t.label = .readReturns answer ∧ answer.getD unreadable = r

/-- And its round was finished after that. -/
def RoundOver (r : Reading) (post : List (Transition Watch Act)) : Prop :=
  ∃ before after, post = before ++ after ∧ Returned r before ∧ ∃ t ∈ after, t.label = .finish

variable {es post : List (Transition Watch Act)} {r : Reading}

lemma Returned.snoc (h : Returned r post) (t : Transition Watch Act) :
    Returned r (post ++ [t]) := by
  obtain ⟨u, hu, hanswer⟩ := h
  exact ⟨u, List.mem_append_left _ hu, hanswer⟩

lemma RoundOver.snoc (h : RoundOver r post) (t : Transition Watch Act) :
    RoundOver r (post ++ [t]) := by
  obtain ⟨before, after, rfl, hreturned, u, hu, hfinish⟩ := h
  exact ⟨before, after ++ [t], List.append_assoc .., hreturned, u, List.mem_append_left _ hu,
    hfinish⟩

/-- A read has started, and what followed is as `P` has it; an observation that was recorded since
is still pending. -/
def SinceRead (es : List (Transition Watch Act)) (w : Watch)
    (P : List (Transition Watch Act) → Prop) : Prop :=
  ∃ pre t post, es = pre ++ t :: post ∧ t.label = .startRead ∧
    (w.network.pending = true ∨ ∀ u ∈ post, ¬Records u) ∧ P post

lemma SinceRead.snoc {P Q : List (Transition Watch Act) → Prop} (h : SinceRead es w P)
    {t : Transition Watch Act} (hpending : w.network.pending = true → w'.network.pending = true)
    (hrecords : Records t → w'.network.pending = true)
    (hnext : ∀ post, P post → Q (post ++ [t])) : SinceRead (es ++ [t]) w' Q := by
  obtain ⟨pre, u, post, rfl, hstart, hfresh, hpost⟩ := h
  refine ⟨pre, u, post ++ [t], by simp, hstart, ?_, hnext post hpost⟩
  by_cases ht : Records t
  · exact .inl (hrecords ht)
  · refine hfresh.imp hpending fun hnone v hv => ?_
    rcases List.mem_append.1 hv with hv | hv
    · exact hnone v hv
    · rw [List.mem_singleton.1 hv]
      exact ht

/-- What the thread knows of the round whose read started last. -/
structure Heard (es : List (Transition Watch Act)) (w : Watch) : Prop where
  reading : w.thread = .reading → SinceRead es w fun _ => True
  read : ∀ r, w.thread = .toCheck r ∨ w.thread = .toReport r ∨ w.thread = .inReport r →
    w.readings.getLast? = some r ∧ SinceRead es w (Returned r)
  reported : w.thread = .toFinish → ∃ r, w.readings.getLast? = some r ∧
    w.reports.getLast? = some r ∧ SinceRead es w (Returned r)
  settled : w.parked = true ∨ w.thread.waits = true → ∃ r, w.readings.getLast? = some r ∧
    w.reports.getLast? = some r ∧ SinceRead es w (RoundOver r)
  parked : w.parked = true → w.thread.waits = true ∨ w.thread.isOver = true

namespace Heard

lemma busy (h : Heard es w) (hwaits : w.thread.waits = false) (hover : w.thread.isOver = false) :
    w.parked = false := by
  by_contra hparked
  have hor := h.parked (by simpa using hparked)
  rw [hwaits, hover] at hor
  simp at hor

/-- The thread stays where it is, or waits on. -/
lemma stays (h : Heard es w) {a : Act}
    (hsame : (w'.parked, w'.readings, w'.reports) = (w.parked, w.readings, w.reports))
    (hpending : w.network.pending = true → w'.network.pending = true)
    (hrecords : Records ⟨w, a, w'⟩ → w'.network.pending = true)
    (hthread : w'.thread = w.thread ∨ w'.thread = w.thread.woken) :
    Heard (es ++ [⟨w, a, w'⟩]) w' := by
  simp only [Prod.mk.injEq] at hsame
  obtain ⟨hparked, hreadings, hreports⟩ := hsame
  have hwaits : w'.thread.waits = w.thread.waits := by
    rcases hthread with h | h <;> rw [h]
    exact At.congr_woken At.waits (fun _ _ => rfl) _
  have hover : w'.thread.isOver = w.thread.isOver := by
    rcases hthread with h | h <;> rw [h]
    exact At.congr_woken At.isOver (fun _ _ => rfl) _
  -- the others move the thread at most within its sleep
  have hback : ∀ {thread : At}, thread.waits = false → w'.thread = thread → w.thread = thread := by
    rintro thread hno rfl
    rcases hthread with h | h
    · exact h.symm
    · rw [hwaits] at hno
      rw [h]
      cases hw : w.thread with
      | asleep until? woken => rw [hw] at hno; cases hno
      | _ => rfl
  refine ⟨fun hw => ?_, fun r hw => ?_, fun hw => ?_, fun hw => ?_, fun hw => ?_⟩
  · exact (h.reading (hback rfl hw)).snoc hpending hrecords fun _ _ => trivial
  · obtain ⟨hlast, hsince⟩ := h.read r (hw.imp (hback rfl) (.imp (hback rfl) (hback rfl)))
    rw [hreadings]
    exact ⟨hlast, hsince.snoc hpending hrecords fun _ hpost => hpost.snoc _⟩
  · obtain ⟨r, hlast, hreport, hsince⟩ := h.reported (hback rfl hw)
    rw [hreadings, hreports]
    exact ⟨r, hlast, hreport, hsince.snoc hpending hrecords fun _ hpost => hpost.snoc _⟩
  · rw [hparked, hwaits] at hw
    obtain ⟨r, hlast, hreport, hsince⟩ := h.settled hw
    rw [hreadings, hreports]
    exact ⟨r, hlast, hreport, hsince.snoc hpending hrecords fun _ hpost => hpost.snoc _⟩
  · rw [hparked] at hw
    rw [hwaits, hover]
    exact h.parked hw

/-- The thread is past a round, and goes on to wait or to return. -/
lemma waits (h : Heard es w) {a : Act} (hwaits : w.thread.waits = true)
    (hsame : (w'.network, w'.readings, w'.reports) = (w.network, w.readings, w.reports))
    (hlabel : a ≠ .observe) (hthread : w'.thread.waits = true ∨ w'.thread.isOver = true) :
    Heard (es ++ [⟨w, a, w'⟩]) w' := by
  simp only [Prod.mk.injEq] at hsame
  obtain ⟨hnetwork, hreadings, hreports⟩ := hsame
  have hne : ∀ {thread : At}, thread.waits = false → thread.isOver = false →
      w'.thread ≠ thread := by
    rintro thread hno hnot rfl
    rw [hno, hnot] at hthread
    simp at hthread
  refine ⟨fun hw => absurd hw (hne rfl rfl), fun r hw => ?_, fun hw => absurd hw (hne rfl rfl),
    fun _ => ?_, fun _ => hthread⟩
  · rcases hw with hw | hw | hw <;> exact absurd hw (hne rfl rfl)
  · obtain ⟨r, hlast, hreport, hsince⟩ := h.settled (.inr hwaits)
    rw [hreadings, hreports]
    refine ⟨r, hlast, hreport, hsince.snoc ?_ ?_ fun _ hpost => hpost.snoc _⟩
    · rw [hnetwork]
      exact id
    · exact fun hrecords => absurd hrecords.1 hlabel

/-- The thread goes on to a report with the reading. -/
lemma reads (h : Heard es w) {a : Act} (hthread : w.thread = .toCheck r ∨ w.thread = .toReport r)
    (hsame : (w'.network, w'.parked, w'.readings) = (w.network, w.parked, w.readings))
    (hlabel : a ≠ .observe) (hnext : w'.thread = .toReport r ∨ w'.thread = .inReport r) :
    Heard (es ++ [⟨w, a, w'⟩]) w' := by
  simp only [Prod.mk.injEq] at hsame
  obtain ⟨hnetwork, hparked, hreadings⟩ := hsame
  have hbusy : w.parked = false := by
    rcases hthread with hw | hw <;> exact h.busy (by rw [hw]; rfl) (by rw [hw]; rfl)
  obtain ⟨hlast, hsince⟩ := h.read r (hthread.imp_right .inl)
  have hsince' : SinceRead (es ++ [⟨w, a, w'⟩]) w' (Returned r) := by
    refine hsince.snoc ?_ (fun hrecords => absurd hrecords.1 hlabel) fun _ hpost => hpost.snoc _
    rw [hnetwork]
    exact id
  refine ⟨fun hw => ?_, fun r' hw => ?_, fun hw => ?_, fun hw => ?_, fun hw => ?_⟩
  · rcases hnext with hn | hn <;> exact absurd (hn.symm.trans hw) nofun
  · obtain rfl : r = r' := by
      rcases hnext with hn | hn <;> rw [hn] at hw <;> simpa using hw
    exact ⟨hreadings ▸ hlast, hsince'⟩
  · rcases hnext with hn | hn <;> exact absurd (hn.symm.trans hw) nofun
  · rw [hparked, hbusy] at hw
    rcases hnext with hn | hn <;> rw [hn] at hw <;> simp [At.waits] at hw
  · exact absurd (hbusy.symm.trans (hparked.symm.trans hw)) nofun

/-- The reading is the one reported last. -/
lemma told (h : Heard es w) {a : Act} (hthread : w.thread = .toReport r ∨ w.thread = .inReport r)
    (hlast : w.reports.getLast? = some r)
    (hsame : (w'.network, w'.parked, w'.readings, w'.reports) =
      (w.network, w.parked, w.readings, w.reports))
    (hlabel : a ≠ .observe) (hnext : w'.thread = .toFinish) :
    Heard (es ++ [⟨w, a, w'⟩]) w' := by
  simp only [Prod.mk.injEq] at hsame
  obtain ⟨hnetwork, hparked, hreadings, hreports⟩ := hsame
  have hbusy : w.parked = false := by
    rcases hthread with hw | hw <;> exact h.busy (by rw [hw]; rfl) (by rw [hw]; rfl)
  obtain ⟨hread, hsince⟩ := h.read r (.inr hthread)
  refine ⟨fun hw => ?_, fun r' hw => ?_, fun _ => ?_, fun hw => ?_, fun hw => ?_⟩
  · exact absurd (hnext.symm.trans hw) nofun
  · rcases hw with hw | hw | hw <;> exact absurd (hnext.symm.trans hw) nofun
  · rw [hreadings, hreports]
    refine ⟨r, hread, hlast, hsince.snoc ?_ ?_ fun _ hpost => hpost.snoc _⟩
    · rw [hnetwork]
      exact id
    · exact fun hrecords => absurd hrecords.1 hlabel
  · rw [hparked, hbusy, hnext] at hw
    simp [At.waits] at hw
  · exact absurd (hbusy.symm.trans (hparked.symm.trans hw)) nofun

lemma step {a : Act} (h : Heard es w) (hrounds : Rounds w) (hstep : Step w a w') :
    Heard (es ++ [⟨w, a, w'⟩]) w' := by
  have hlast : ∀ {thread : At}, w.thread = thread → (∀ r, thread ≠ .inReport r) →
      w.reports.getLast? = w.reported := by
    intro thread hthread hne
    rw [hrounds.last, Watch.lastReport, hthread]
    cases thread <;> first | rfl | exact absurd rfl (hne _)
  cases hstep with
  | startRead hthread =>
    have hparked := h.busy (by rw [hthread]; rfl) (by rw [hthread]; rfl)
    refine ⟨fun _ => ⟨es, _, [], rfl, rfl, .inr (by simp), trivial⟩, by simp, nofun, fun hor => ?_,
      fun hpark => absurd (hparked.symm.trans hpark) nofun⟩
    exact absurd (hparked.symm.trans (hor.resolve_right nofun)) nofun
  | readReturns answer hthread =>
    have hparked := h.busy (by rw [hthread]; rfl) (by rw [hthread]; rfl)
    refine ⟨nofun, fun r hr => ?_, nofun, fun hor => ?_,
      fun hpark => absurd (hparked.symm.trans hpark) nofun⟩
    · obtain rfl : answer.getD unreadable = r := by simpa using hr
      refine ⟨List.getLast?_concat .., (h.reading hthread).snoc id nofun fun post _ => ?_⟩
      exact ⟨_, List.mem_concat_self, answer, rfl, rfl⟩
    · exact absurd (hparked.symm.trans (hor.resolve_right nofun)) nofun
  | drop r hthread hc =>
    have hparked := h.busy (by rw [hthread]; rfl) (by rw [hthread]; rfl)
    refine ⟨nofun, by simp, nofun, fun hor => ?_,
      fun hpark => absurd (hparked.symm.trans hpark) nofun⟩
    exact absurd (hparked.symm.trans (hor.resolve_right nofun)) nofun
  | check r hthread hc => exact h.reads (.inl hthread) rfl nofun (.inl rfl)
  | report r hthread hr => exact h.reads (.inr hthread) rfl nofun (.inr rfl)
  | skip r hthread hr =>
    exact h.told (.inl hthread) ((hlast hthread nofun).trans hr) rfl nofun rfl
  | reportReturns r hthread =>
    refine h.told (.inr hthread) ?_ rfl nofun rfl
    rw [hrounds.last, Watch.lastReport, hthread]
  | finish hthread =>
    obtain ⟨r, hread, hreport, hsince⟩ := h.reported hthread
    refine ⟨nofun, by simp [Watch.finish], nofun, fun _ => ⟨r, hread, hreport, ?_⟩,
      fun _ => .inl rfl⟩
    refine hsince.snoc id nofun fun post hpost => ?_
    exact ⟨post, _, rfl, hpost, _, List.mem_singleton_self _, rfl⟩
  | take hthread hc hdue =>
    exact ⟨nofun, by simp, nofun, by simp [At.waits], nofun⟩
  | notify hthread | sleep hthread hc hdue hpending | park hthread hc hpending
  | wake until? woken hthread =>
    exact h.waits (by rw [hthread]; rfl) rfl nofun (.inl rfl)
  | stop hthread hc => exact h.waits (by rw [hthread]; rfl) rfl nofun (.inr rfl)
  | endThread hthread =>
    refine ⟨nofun, by simp, nofun, fun hor => ?_, fun _ => .inr rfl⟩
    obtain ⟨r, hread, hreport, hsince⟩ := h.settled (.inl (hor.resolve_right nofun))
    exact ⟨r, hread, hreport, hsince.snoc id nofun fun _ hpost => hpost.snoc _⟩
  | ignore hc => exact h.stays rfl id (fun hr => absurd (hc.symm.trans hr.2) nofun) (.inl rfl)
  | observe hc =>
    have hpending := NotifyCoalescer.observe_pending w.network w.now
    exact h.stays rfl (fun _ => hpending) (fun _ => hpending) (.inl rfl)
  | sinkNotifies hsinks | cancel | destroy howner =>
    exact h.stays rfl id nofun (.inr rfl)
  | cancelReturns hcancels hr | destroyCancelled howner hr | destroyed howner | time millis =>
    exact h.stays rfl id nofun (.inl rfl)

end Heard

/-! ### Every run -/

structure Inv (es : List (Transition Watch Act)) (w : Watch) : Prop where
  channel : Channel w
  rounds : Rounds w
  heard : Heard es w

lemma inv_starts {w : Watch} (h : Starts w) : Inv [] w := by
  obtain ⟨windowMillis, now, rfl⟩ := h
  exact ⟨⟨rfl, nofun, by simp [At.isOver]⟩, ⟨rfl, List.isChain_nil, fun _ => rfl, nofun⟩,
    ⟨nofun, by simp, nofun, by simp [At.waits], nofun⟩⟩

lemma Inv.step {a : Act} (h : Inv es w) (hnext : next w a = some w') :
    Inv (es ++ [⟨w, a, w'⟩]) w' :=
  have hstep := step_of_next hnext
  ⟨h.channel.step hstep, h.rounds.step hstep, h.heard.step h.rounds hstep⟩

lemma inv_of_runs {w : Watch} (h : Runs es w) : Inv es w :=
  h.invariant (P := Inv) (fun _ => inv_starts) fun _ _ _ _ hinv hstep => hinv.step hstep

/-- What the watch promises at any time. -/
structure Safe (es : List (Transition Watch Act)) (w : Watch) : Prop where
  /-- No report runs once a `Cancel` has returned. -/
  quiet : w.cancelReturned = true → ∀ r, w.thread ≠ .inReport r
  /-- Reports that follow one another differ. -/
  differ : w.reports.IsChain (· ≠ ·)
  /-- The first report is the first reading. -/
  first : ∀ r, w.reports.head? = some r → w.readings.head? = some r
  /-- `WaitSettled` returns true only where every observation came before the start of a read
  whose round was finished, and what that read returned was reported last. -/
  settled : w.waitSettled = true → ∃ r, w.readings.getLast? = some r ∧
    w.reports.getLast? = some r ∧ ∃ pre t post, es = pre ++ t :: post ∧ t.label = .startRead ∧
      (∀ u ∈ post, ¬Records u) ∧ RoundOver r post

lemma Inv.safe {w : Watch} (h : Inv es w) : Safe es w where
  quiet hreturned r hthread := by
    have hreporting := h.channel.reporting
    rw [(h.channel.cancelReturned hreturned).2, hthread] at hreporting
    cases hreporting
  differ := h.rounds.differ
  first := h.rounds.first
  settled hsettled := by
    simp only [Watch.waitSettled, Bool.and_eq_true, Bool.not_eq_true'] at hsettled
    obtain ⟨hparked, hpending⟩ := hsettled
    obtain ⟨r, hread, hreport, pre, t, post, hes, hstart, hfresh, hover⟩ :=
      h.heard.settled (.inl hparked)
    exact ⟨r, hread, hreport, pre, t, post, hes, hstart, hfresh.resolve_left (by simp [hpending]),
      hover⟩

end UrnetworkWindows.NetworkCountry
