/-
The watch for a lost service (`SdkHost.cpp`): `ScheduleServiceRetry`, `ServiceWatchdogLoop`
and those that schedule a retry or end the need for one.

The need is an atomic flag, and an owed sign-out is a need of its own; whether a watchdog
runs is kept under `watchdogMutex_`.  A schedule stores the need before it takes that mutex,
and the loop judges under it whether it is idle; but the loop's other exit decides and
stores outside it, and the session worker and the sign-out clear the need with no mutex.
Passes and the sign-out's tail hold the session's own lock, so at most one of them is in
progress; a new connection waits for the drop handler of the old one.  A run starts from a
launch that owes no sign-out.  The handler that a dial forestalls is left out: a pass whose
dial was forestalled schedules its own retry where it fails.

Every step reads or writes one of the flags.  So a drop can land before a pass clears the
need (`drop_lost_before_clear`); where no such order occurs, a lost service is watched for
(`lost_service_is_watched_for`).
-/
import UrnetworkWindows.Lib.OneThread
import UrnetworkWindows.Lib.Trace

namespace UrnetworkWindows.LostService

open Lib

/-! ### The threads -/

/-- Where a watchdog thread is: about to judge whether it is idle; with the mutex, having
read that nothing needs a recovery; past the mutex; having read that the app is signed out;
about to ask for a pass; past its last check; about to clear `watchdogRunning_`; gone. -/
inductive Loop
  | waiting
  | judging
  | checking
  | signedOut
  | asking
  | leaving
  | cleared
  | gone
deriving DecidableEq, Repr

/-- The thread will look again, unless it finds itself idle. -/
def Loop.looks : Loop → Bool
  | .waiting => true
  | .judging => true
  | .checking => true
  | .signedOut => true
  | .asking => true
  | _ => false

/-- The thread has not ended. -/
def Loop.runs : Loop → Bool
  | .gone => false
  | _ => true

/-- How a pass ends, in the order the worker asks: with a session, with nothing attempted,
with a start it declined, with a failure that a service may cure, or another one. -/
inductive Outcome
  | ok
  | nothing
  | declined
  | retryable
  | failed
deriving DecidableEq, Repr

/-- Where a thread goes on after it has scheduled a retry. -/
inductive Next
  | body
  | done
deriving DecidableEq, Repr

/-- What holds the session's lock: a pass that is about to deliver an owed sign-out, a
delivery, by the sign-out's tail or by a pass, a delivery that was done, about to clear the
need after it, the rest of a pass, or a schedule, before and after its store. -/
inductive Holder
  | nobody
  | settling
  | delivering (tail : Bool)
  | delivered (tail : Bool)
  | clearing (tail : Bool)
  | body
  | retry (next : Next)
  | retried (next : Next)
deriving DecidableEq, Repr

/-- The drop handler, before and after its store. -/
inductive Handler
  | none
  | dropped
  | stored
deriving DecidableEq, Repr

/-- `needed` is `serviceRecoveryNeeded_`, `running` is `watchdogRunning_`; `stored` says that
the app's client credential is stored, `dropped` that the control channel has dropped and
not been connected again. -/
structure State where
  needed : Bool := false
  owed : Bool := false
  running : Bool := false
  loggedIn : Bool := false
  stored : Bool := false
  connected : Bool := false
  dropped : Bool := false
  loops : List Loop := []
  holder : Holder := .nobody
  handler : Handler := .none
deriving DecidableEq, Repr

/-! ### The steps -/

/-- A pass begins, the sign-out's tail begins, the holder of the lock connects, delivers an
owed sign-out or goes on after it, and a pass ends; the two halves of a schedule, by the
holder and by the drop handler; a drop; the two flags of a sign-in; and the moves of a
watchdog thread. -/
inductive Act
  | beginPass
  | settle
  | beginSignOut
  | connect
  | deliver (ok : Bool)
  | afterDelivery
  | clearNeed
  | endPass (outcome : Outcome)
  | store
  | schedule
  | drop
  | handlerStore
  | handlerSchedule
  | setLoggedIn (value : Bool)
  | setStored (value : Bool)
  | judge (loop : ℕ)
  | judgeOwed (loop : ℕ)
  | readLoggedIn (loop : ℕ)
  | readOwed (loop : ℕ)
  | ask (loop : ℕ)
  | clear (loop : ℕ)
  | leave (loop : ℕ)
deriving DecidableEq, Repr

/-- No thread holds `watchdogMutex_`. -/
def State.mutexFree (s : State) : Bool := s.loops.all (· ≠ .judging)

/-- `ScheduleServiceRetry`, under the mutex. -/
def scheduleServiceRetry (s : State) : State :=
  if s.running then s else { s with running := true, loops := s.loops ++ [.waiting] }

/-- The worker, once a pass has ended so. -/
def afterPass (s : State) : Outcome → State
  | .ok => { s with needed := false, holder := .nobody }
  | .nothing => { s with holder := .nobody }
  | .declined => { s with needed := false, holder := .nobody }
  | .retryable => { s with holder := .retry .done }
  | .failed => { s with needed := false, holder := .nobody }

/-- What the holder of the lock does next. -/
def Next.holder : Next → Holder
  | .body => .body
  | .done => .nobody

/-- The watchdog thread `i` goes on to `st`. -/
def State.move (s : State) (i : ℕ) (st : Loop) : State := { s with loops := s.loops.set i st }

/-- A step of `ServiceWatchdogLoop`, from where the thread `i` is. -/
def loopStep (s : State) (i : ℕ) : Act → Loop → Option State
  | .judge _, .waiting =>
    if s.mutexFree then some (s.move i (if s.needed then .checking else .judging)) else none
  | .judgeOwed _, .judging =>
    some (if s.owed then s.move i .checking else { s.move i .gone with running := false })
  | .readLoggedIn _, .checking => some (s.move i (if s.loggedIn then .asking else .signedOut))
  | .readOwed _, .signedOut => some (s.move i (if s.owed then .asking else .leaving))
  | .ask _, .asking => some (s.move i .waiting)
  | .clear _, .leaving => some { s.move i .cleared with needed := false }
  | .leave _, .cleared =>
    if s.mutexFree then some { s.move i .gone with running := false } else none
  | _, _ => none

/-- The watchdog thread that a step is of. -/
def Act.loop : Act → Option ℕ
  | .judge i => some i
  | .judgeOwed i => some i
  | .readLoggedIn i => some i
  | .readOwed i => some i
  | .ask i => some i
  | .clear i => some i
  | .leave i => some i
  | _ => none

/-- One step of the holder of the session's lock. -/
def holderStep (s : State) : Act → Holder → Option State
  | .beginPass, .nobody => some { s with holder := .settling }
  | .settle, .settling => some { s with holder := if s.owed then .delivering false else .body }
  | .beginSignOut, .nobody => some { s with owed := true, holder := .delivering true }
  | .deliver ok, .delivering tail =>
    some (if ok then { s with owed := false, holder := .delivered tail }
      else { s with holder := .retry (if tail then .done else .body) })
  | .afterDelivery, .delivered tail =>
    some { s with holder := if tail || !s.loggedIn then .clearing tail else .body }
  | .clearNeed, .clearing tail =>
    some { s with needed := false, holder := if tail then .nobody else .body }
  | .endPass outcome, .body => some (afterPass s outcome)
  | .store, .retry next => some { s with needed := true, holder := .retried next }
  | .schedule, .retried next =>
    if s.mutexFree then some { scheduleServiceRetry s with holder := next.holder } else none
  | _, _ => none

/-- The holder of the lock is where it may dial the service. -/
def Holder.dials : Holder → Bool
  | .delivering _ => true
  | .body => true
  | _ => false

/-- One step, if it can be taken. -/
def step (s : State) (a : Act) : Option State :=
  match a with
  | .connect =>
    if s.holder.dials ∧ s.handler = .none ∧ s.connected = false then
      some { s with connected := true, dropped := false }
    else none
  | .drop =>
    if s.connected ∧ s.handler = .none then
      some { s with connected := false, dropped := true, handler := .dropped }
    else none
  | .handlerStore =>
    if s.handler = .dropped then some { s with needed := true, handler := .stored } else none
  | .handlerSchedule =>
    if s.handler = .stored ∧ s.mutexFree then
      some { scheduleServiceRetry s with handler := .none }
    else none
  | .setLoggedIn value => some { s with loggedIn := value }
  | .setStored value => some { s with stored := value }
  | a =>
    match a.loop with
    | some i => (s.loops[i]?).bind (loopStep s i a)
    | none => holderStep s a s.holder

/-- The runs, from a launch that owes no sign-out. -/
abbrev Runs : List (Transition State Act) → State → Prop :=
  Run (fun s => ∃ loggedIn stored, s = { loggedIn, stored }) fun _ s a s' => step s a = some s'

/-! ### What the watch is for -/

/-- The app is signed in with stored credentials, and its control channel was lost. -/
def State.lost (s : State) : Bool := s.loggedIn && s.stored && s.dropped

/-- A watchdog thread will look again. -/
def State.Looked (s : State) : Prop := ∃ st ∈ s.loops, st.looks = true

/-- At most one loop runs, and one does that will look again, wherever it is needed and
nothing is in progress. -/
structure Watched (s : State) : Prop where
  one : ∀ (i j : ℕ) (st st' : Loop), s.loops[i]? = some st → st.runs = true →
    s.loops[j]? = some st' → st'.runs = true → i = j
  watched : s.holder = .nobody → s.handler = .none → (s.owed = true ∨ s.lost = true) →
    s.running = true ∧ s.Looked

/-- The orders that lose a service do not occur.  The need is cleared, and the loop passes
its last check, only while no service is lost to a signed-in app; a schedule does not find
a loop that is past its last check; and an app that signs in has lost no service, or a
watchdog that will look again has been told. -/
def InOrder (s : State) : Act → Prop
  | .endPass outcome => outcome = .ok ∨ outcome = .declined ∨ outcome = .failed → s.lost = false
  | .clearNeed => s.lost = false
  | .clear _ => s.lost = false
  | .readOwed _ => s.owed = false → s.lost = false
  | .schedule => s.running = true → s.Looked
  | .handlerSchedule => s.running = true → s.Looked
  | .setLoggedIn value => value = true → s.stored = true → s.dropped = true →
      s.needed = true ∧ s.Looked
  | .setStored value => value = true → s.loggedIn = true → s.dropped = true →
      s.needed = true ∧ s.Looked
  | _ => True

/-- The runs in which none of them occurs. -/
abbrev OrderedRuns : List (Transition State Act) → State → Prop :=
  Run (fun s => ∃ loggedIn stored, s = { loggedIn, stored })
    fun _ s a s' => step s a = some s' ∧ InOrder s a

/-! ### The invariant -/

/-- A schedule has stored the need, and has not taken the mutex yet. -/
def State.Scheduling (s : State) : Prop := s.handler = .stored ∨ ∃ next, s.holder = .retried next

/-- A lost service is needed or about to be, and watched for or about to be; an owed
sign-out too; and a loop that is judging itself idle has read the need before a schedule
that still waits for the mutex. -/
structure Ok (s : State) : Prop where
  one : OneThread Loop.runs s.loops s.running
  need : s.lost = true → s.needed = true ∨ s.handler = .dropped
  lost : s.lost = true → s.Looked ∨ s.handler ≠ .none ∨ ∃ next, s.holder = .retried next
  owed : s.owed = true → s.Looked ∨ s.holder = .delivering true ∨
    ∃ next, s.holder = .retry next ∨ s.holder = .retried next
  judging : .judging ∈ s.loops → s.needed = true → s.Scheduling

lemma not_judging_of_mutexFree {s : State} (h : s.mutexFree = true) : .judging ∉ s.loops := by
  intro hmem
  have hne := List.all_eq_true.1 h _ hmem
  simp at hne

lemma scheduleServiceRetry_flags (s : State) : (scheduleServiceRetry s).lost = s.lost ∧
    (scheduleServiceRetry s).needed = s.needed ∧ (scheduleServiceRetry s).handler = s.handler := by
  unfold scheduleServiceRetry
  split <;> exact ⟨rfl, rfl, rfl⟩

namespace Ok

variable {s s' : State} {i : ℕ} {st st' : Loop} {a : Act}

lemma init (loggedIn stored : Bool) : Ok { loggedIn, stored } where
  one := .nil
  need h := absurd h (by simp [State.lost])
  lost h := absurd h (by simp [State.lost])
  owed := nofun
  judging h := absurd h (by simp)

lemma goes (h : Ok s) (hi : s.loops[i]? = some st) (hst : st.runs = true)
    (hlooks : st'.looks = true) (hjudging : st' = .judging → s.needed = false) :
    Ok (s.move i st') where
  one := h.one.set hi hst (by cases st' <;> first | rfl | exact absurd hlooks nofun)
  need := h.need
  lost hlost := by
    rcases h.lost hlost with hlooked | hlater
    · exact .inl (exists_mem_set hlooked hi fun _ => hlooks)
    · exact .inr hlater
  owed howed := by
    rcases h.owed howed with hlooked | hlater
    · exact .inl (exists_mem_set hlooked hi fun _ => hlooks)
    · exact .inr hlater
  judging hmem hneeded := by
    rcases List.mem_or_eq_of_mem_set hmem with hmem | heq
    · exact h.judging hmem hneeded
    · exact absurd (hjudging heq.symm) (by simp [show s.needed = true from hneeded])

lemma looked_set (h : s.Looked) (hi : s.loops[i]? = some st) (hst : st.looks = false) :
    ∃ x ∈ s.loops.set i st', x.looks = true :=
  exists_mem_set h hi fun hyes => absurd (hst.symm.trans hyes) nofun

/-- `ScheduleServiceRetry` leaves a loop that will look again, for a loop that is past its
last check is not found running. -/
lemma scheduled (h : Ok s) (hcond : s.running = true → s.Looked) :
    OneThread Loop.runs (scheduleServiceRetry s).loops (scheduleServiceRetry s).running ∧
      (scheduleServiceRetry s).Looked ∧
      (.judging ∈ (scheduleServiceRetry s).loops → .judging ∈ s.loops) := by
  unfold scheduleServiceRetry
  split
  next hrunning => exact ⟨h.one, hcond hrunning, id⟩
  next hrunning =>
    rw [Bool.not_eq_true] at hrunning
    have hone := h.one
    rw [hrunning] at hone
    refine ⟨hone.start rfl, ⟨.waiting, List.mem_concat_self, rfl⟩, ?_⟩
    intro hmem
    rcases List.mem_append.1 hmem with hmem | hmem
    · exact hmem
    · exact absurd (List.mem_singleton.1 hmem) nofun

lemma clearNeed (h : Ok s) (hlost : s.lost = false) : Ok { s with needed := false } where
  one := h.one
  need hyes := absurd (hlost.symm.trans hyes) nofun
  lost := h.lost
  owed := h.owed
  judging _ := nofun

lemma hold (h : Ok s) {holder : Holder} (hretried : ∀ next, s.holder ≠ .retried next)
    (hretry : (∃ next, s.holder = .retry next) → s.owed = false)
    (htail : s.holder = .delivering true → s.owed = false ∨ ∃ next, holder = .retry next) :
    Ok { s with holder } where
  one := h.one
  need := h.need
  lost hlost := by
    rcases h.lost hlost with hlooked | hhandler | ⟨next, hholder⟩
    · exact .inl hlooked
    · exact .inr (.inl hhandler)
    · exact absurd hholder (hretried next)
  owed howed := by
    have hyes : s.owed = true := howed
    rcases h.owed howed with hlooked | hholder | ⟨next, hholder | hholder⟩
    · exact .inl hlooked
    · rcases htail hholder with hno | ⟨next, hnext⟩
      · exact absurd (hno.symm.trans hyes) nofun
      · exact .inr (.inr ⟨next, .inl hnext⟩)
    · exact absurd ((hretry ⟨next, hholder⟩).symm.trans hyes) nofun
    · exact absurd hholder (hretried next)
  judging hmem hneeded := by
    rcases h.judging hmem hneeded with hstored | ⟨next, hholder⟩
    · exact .inl hstored
    · exact absurd hholder (hretried next)

lemma holder (h : Ok s) (hcond : InOrder s a) (hs : holderStep s a s.holder = some s') :
    Ok s' := by
  unfold holderStep at hs
  split at hs
  case h_1 hholder =>
    cases hs
    exact h.hold (by simp [hholder]) (by simp [hholder]) (by simp [hholder])
  case h_2 hholder =>
    cases hs
    exact h.hold (by simp [hholder]) (by simp [hholder]) (by simp [hholder])
  case h_3 hholder =>
    cases hs
    have hheld : Ok { s with holder := .delivering true } :=
      h.hold (by simp [hholder]) (by simp [hholder]) (by simp [hholder])
    exact ⟨hheld.one, hheld.need, hheld.lost, fun _ => .inr (.inl rfl), hheld.judging⟩
  case h_4 ok tail hholder =>
    cases hs
    cases ok with
    | true =>
      -- the sign-out is no longer owed
      have hdone : Ok { s with owed := false } := ⟨h.one, h.need, h.lost, nofun, h.judging⟩
      exact hdone.hold (by simp [hholder]) (by simp [hholder]) fun _ => .inl rfl
    | false => exact h.hold (by simp [hholder]) (by simp [hholder]) fun _ => .inr ⟨_, rfl⟩
  case h_5 tail hholder =>
    cases hs
    exact h.hold (by simp [hholder]) (by simp [hholder]) (by simp [hholder])
  case h_6 tail hholder =>
    cases hs
    exact (h.clearNeed hcond).hold (by simp [hholder]) (by simp [hholder]) (by simp [hholder])
  case h_7 outcome hholder =>
    cases hs
    have hheld : ∀ holder, Ok { s with holder } := fun holder =>
      h.hold (by simp [hholder]) (by simp [hholder]) (by simp [hholder])
    cases outcome with
    | ok => exact (hheld .nobody).clearNeed (hcond (.inl rfl))
    | nothing => exact hheld .nobody
    | declined => exact (hheld .nobody).clearNeed (hcond (.inr (.inl rfl)))
    | retryable => exact hheld (.retry .done)
    | failed => exact (hheld .nobody).clearNeed (hcond (.inr (.inr rfl)))
  case h_8 next hholder =>
    cases hs
    refine ⟨h.one, fun _ => .inl rfl, fun _ => .inr (.inr ⟨next, rfl⟩), ?_,
      fun _ _ => .inr ⟨_, rfl⟩⟩
    exact fun _ => .inr (.inr ⟨next, .inr rfl⟩)
  case h_9 next hholder =>
    obtain ⟨hfree, rfl⟩ := guard_eq_some.1 hs
    obtain ⟨hone, hlooked, hjudging⟩ := h.scheduled hcond
    refine ⟨hone, ?_, fun _ => .inl hlooked, fun _ => .inl hlooked, ?_⟩
    · obtain ⟨hlost, hneeded, hhandler⟩ := scheduleServiceRetry_flags s
      show (scheduleServiceRetry s).lost = true → (scheduleServiceRetry s).needed = true ∨
        (scheduleServiceRetry s).handler = .dropped
      rw [hlost, hneeded, hhandler]
      exact h.need
    · exact fun hmem _ => absurd (hjudging hmem) (not_judging_of_mutexFree hfree)
  case h_10 => cases hs

/-- The loop ends under the mutex, having read that nothing is needed and nothing is owed. -/
lemma judged (h : Ok s) (hi : s.loops[i]? = some .judging) (howed : s.owed = false) :
    Ok { s.move i .gone with running := false } where
  one := h.one.leave hi rfl rfl
  need := h.need
  lost hlost := by
    have hmem : .judging ∈ s.loops := List.mem_of_getElem? hi
    rcases h.need hlost with hneeded | hdropped
    · -- the need was stored after the loop read it, by a schedule that waits for the mutex
      rcases h.judging hmem hneeded with hstored | hholder
      · exact .inr (.inl (by simp [State.move, hstored]))
      · exact .inr (.inr hholder)
    · exact .inr (.inl (by simp [State.move, hdropped]))
  owed hyes := absurd (howed.symm.trans hyes) nofun
  judging hmem hneeded := by
    rcases List.mem_or_eq_of_mem_set hmem with hmem | heq
    · exact h.judging hmem hneeded
    · cases heq

lemma leaves (h : Ok s) (st' : Loop) (hi : s.loops[i]? = some st) (hjudging : st' ≠ .judging)
    {running : Bool} (hone : OneThread Loop.runs (s.loops.set i st') running)
    (hlooks : st.looks = true → s.owed = false ∧ s.lost = false) :
    Ok { s.move i st' with running } where
  one := hone
  need := h.need
  lost hlost := by
    cases hst : st.looks with
    | true => exact absurd ((hlooks hst).2.symm.trans hlost) nofun
    | false =>
      rcases h.lost hlost with hlooked | hlater
      · exact .inl (looked_set hlooked hi hst)
      · exact .inr hlater
  owed howed := by
    cases hst : st.looks with
    | true => exact absurd ((hlooks hst).1.symm.trans howed) nofun
    | false =>
      rcases h.owed howed with hlooked | hlater
      · exact .inl (looked_set hlooked hi hst)
      · exact .inr hlater
  judging hmem hneeded := by
    rcases List.mem_or_eq_of_mem_set hmem with hmem | heq
    · exact h.judging hmem hneeded
    · exact absurd heq.symm hjudging

lemma loop (h : Ok s) (hcond : InOrder s a) (hi : s.loops[i]? = some st)
    (hs : loopStep s i a st = some s') : Ok s' := by
  unfold loopStep at hs
  split at hs
  case h_1 =>
    obtain ⟨-, rfl⟩ := guard_eq_some.1 hs
    cases hneeded : s.needed with
    | true => exact h.goes hi rfl rfl nofun
    | false => exact h.goes hi rfl rfl fun _ => hneeded
  case h_2 =>
    cases hs
    cases howed : s.owed with
    | true => exact h.goes hi rfl rfl nofun
    | false => exact h.judged hi howed
  case h_3 =>
    cases hs
    cases s.loggedIn with
    | true | false => exact h.goes hi rfl rfl nofun
  case h_4 =>
    cases hs
    cases howed : s.owed with
    | true => exact h.goes hi rfl rfl nofun
    | false =>
      exact h.leaves .leaving hi nofun (h.one.set hi rfl rfl) fun _ => ⟨howed, hcond howed⟩
  case h_5 =>
    cases hs
    exact h.goes hi rfl rfl nofun
  case h_6 =>
    cases hs
    exact (h.leaves .cleared hi nofun (h.one.set hi rfl rfl) nofun).clearNeed hcond
  case h_7 =>
    obtain ⟨-, rfl⟩ := guard_eq_some.1 hs
    exact h.leaves .gone hi nofun (h.one.leave hi rfl rfl) nofun
  case h_8 => cases hs

lemma signIn (h : Ok s) {loggedIn stored : Bool}
    (hcond : (loggedIn && stored && s.dropped) = true → s.lost = true ∨
      s.needed = true ∧ s.Looked) : Ok { s with loggedIn, stored } where
  one := h.one
  need hlost := by
    rcases hcond hlost with hlost | ⟨hneeded, -⟩
    · exact h.need hlost
    · exact .inl hneeded
  lost hlost := by
    rcases hcond hlost with hlost | ⟨-, hlooked⟩
    · exact h.lost hlost
    · exact .inl hlooked
  owed := h.owed
  judging := h.judging

lemma step (h : Ok s) (hcond : InOrder s a) (hs : LostService.step s a = some s') : Ok s' := by
  have hother : ∀ b, b = a → b.loop = none → holderStep s b s.holder = some s' → Ok s' := by
    rintro b rfl - hs
    exact h.holder hcond hs
  have hloop : ∀ i, (s.loops[i]?).bind (loopStep s i a) = some s' → Ok s' := by
    intro i hs
    obtain ⟨st, hi, hs⟩ := Option.bind_eq_some_iff.1 hs
    exact h.loop hcond hi hs
  cases a with
  | connect =>
    obtain ⟨-, rfl⟩ := guard_eq_some.1 hs
    have hlost : State.lost { s with connected := true, dropped := false } = false := by
      simp [State.lost]
    exact ⟨h.one, fun hyes => absurd (hlost.symm.trans hyes) nofun,
      fun hyes => absurd (hlost.symm.trans hyes) nofun, h.owed, h.judging⟩
  | drop =>
    obtain ⟨⟨-, hhandler⟩, rfl⟩ := guard_eq_some.1 hs
    refine ⟨h.one, fun _ => .inr rfl, fun _ => .inr (.inl nofun), h.owed, ?_⟩
    intro hmem hneeded
    rcases h.judging hmem hneeded with hstored | hholder
    · exact absurd (hhandler.symm.trans hstored) nofun
    · exact .inr hholder
  | handlerStore =>
    obtain ⟨-, rfl⟩ := guard_eq_some.1 hs
    exact ⟨h.one, fun _ => .inl rfl, fun _ => .inr (.inl nofun), h.owed, fun _ _ => .inl rfl⟩
  | handlerSchedule =>
    obtain ⟨⟨hstored, hfree⟩, rfl⟩ := guard_eq_some.1 hs
    obtain ⟨hone, hlooked, hjudging⟩ := h.scheduled hcond
    refine ⟨hone, ?_, fun _ => .inl hlooked, fun _ => .inl hlooked, ?_⟩
    · obtain ⟨hlost, hneeded, -⟩ := scheduleServiceRetry_flags s
      intro hyes
      rcases h.need (hlost.symm.trans hyes) with hneed | hdropped
      · exact .inl (hneeded.trans hneed)
      · exact absurd (hstored.symm.trans hdropped) nofun
    · exact fun hmem _ => absurd (hjudging hmem) (not_judging_of_mutexFree hfree)
  | setLoggedIn value =>
    cases hs
    refine h.signIn fun hyes => ?_
    simp only [Bool.and_eq_true] at hyes
    exact .inr (hcond hyes.1.1 hyes.1.2 hyes.2)
  | setStored value =>
    cases hs
    refine h.signIn fun hyes => ?_
    simp only [Bool.and_eq_true] at hyes
    exact .inr (hcond hyes.1.2 hyes.1.1 hyes.2)
  | judge i | judgeOwed i | readLoggedIn i | readOwed i | ask i | clear i | leave i =>
    exact hloop i hs
  | _ => exact hother _ rfl rfl hs

end Ok

/-- **Where none of these orders occurs, a lost service is watched for.** -/
theorem lost_service_is_watched_for {es : List (Transition State Act)} {s : State}
    (h : OrderedRuns es s) : Watched s := by
  have hok : Ok s := by
    induction h with
    | nil h =>
      obtain ⟨loggedIn, stored, rfl⟩ := h
      exact .init loggedIn stored
    | snoc _ hs ih => exact ih.step hs.2 hs.1
  constructor
  case one => exact hok.one.one
  case watched =>
    intro hholder hhandler hwanted
    have hlooked : s.Looked := by
      rcases hwanted with howed | hlost
      · rcases hok.owed howed with hlooked | htail | ⟨next, hretry | hretried⟩
        · exact hlooked
        · exact absurd (hholder.symm.trans htail) nofun
        · exact absurd (hholder.symm.trans hretry) nofun
        · exact absurd (hholder.symm.trans hretried) nofun
      · rcases hok.lost hlost with hlooked | hhandling | ⟨next, hretried⟩
        · exact hlooked
        · exact absurd hhandler hhandling
        · exact absurd (hholder.symm.trans hretried) nofun
    obtain ⟨st, hst, hlooks⟩ := hlooked
    obtain ⟨i, hi⟩ := List.mem_iff_getElem?.1 hst
    have hruns : st.runs = true := by
      cases st <;> first | rfl | exact absurd hlooks nofun
    exact ⟨hok.one.alive_of hi hruns, st, hst, hlooks⟩

/-- A drop while nothing is in progress. -/
theorem lost_service_is_watched_for_idle : ∃ es s, OrderedRuns es s ∧ Watched s ∧
    s.lost = true ∧ s.holder = .nobody ∧ s.handler = .none := by
  have h₀ : OrderedRuns [] { loggedIn := true, stored := true } := .nil ⟨true, true, rfl⟩
  have h₁ := h₀.and_then (a := Act.beginPass) rfl trivial
  have h₂ := h₁.and_then (a := Act.settle) rfl trivial
  have h₃ := h₂.and_then (a := Act.connect) rfl trivial
  have h₄ := h₃.and_then (a := Act.endPass .ok) rfl (fun _ => rfl)
  have h₅ := h₄.and_then (a := Act.drop) rfl trivial
  have h₆ := h₅.and_then (a := Act.handlerStore) rfl trivial
  have h₇ := h₆.and_then (a := Act.handlerSchedule) rfl nofun
  exact ⟨_, _, h₇, lost_service_is_watched_for h₇, rfl, rfl, rfl⟩

/-- The channel drops between a pass's connection and the end of the pass, which clears the
need the drop handler has just stored: nothing watches for the lost service. -/
theorem drop_lost_before_clear : ∃ es s, Runs es s ∧ s.holder = .nobody ∧ s.handler = .none ∧
    s.lost = true ∧ s.running = false ∧ ¬ Watched s := by
  have h₀ : Runs [] { loggedIn := true, stored := true } := .nil ⟨true, true, rfl⟩
  have h₁ := h₀.snoc (a := .beginPass) rfl
  have h₂ := h₁.snoc (a := .settle) rfl
  have h₃ := h₂.snoc (a := .connect) rfl
  have h₄ := h₃.snoc (a := .drop) rfl
  have h₅ := h₄.snoc (a := .handlerStore) rfl
  have h₆ := h₅.snoc (a := .handlerSchedule) rfl
  have h₇ := h₆.snoc (a := .endPass .ok) rfl
  have h₈ := h₇.snoc (a := .judge 0) rfl
  have h₉ := h₈.snoc (a := .judgeOwed 0) rfl
  refine ⟨_, _, h₉, rfl, rfl, rfl, rfl, ?_⟩
  intro hwatched
  exact absurd (hwatched.watched rfl rfl (.inr rfl)).1 nofun

/-- A sign-out that could not be delivered finds a loop running that is past its last check:
nothing watches for the service it is owed to. -/
theorem sign_out_lost_to_leaving_loop : ∃ es s, Runs es s ∧ s.holder = .nobody ∧
    s.handler = .none ∧ s.owed = true ∧ s.running = false ∧ ¬ Watched s := by
  have h₀ : Runs [] { loggedIn := true, stored := true } := .nil ⟨true, true, rfl⟩
  have h₁ := ((h₀.snoc (a := .beginPass) rfl).snoc (a := .settle) rfl).snoc (a := .connect) rfl
  have h₂ := (h₁.snoc (a := .endPass .ok) rfl).snoc (a := .drop) rfl
  have h₃ := (h₂.snoc (a := .handlerStore) rfl).snoc (a := .handlerSchedule) rfl
  -- the user signs out, and the loop reads both flags before the tail begins
  have h₄ := (h₃.snoc (a := .setLoggedIn false) rfl).snoc (a := .judge 0) rfl
  have h₅ := (h₄.snoc (a := .readLoggedIn 0) rfl).snoc (a := .readOwed 0) rfl
  have h₆ := (h₅.snoc (a := .beginSignOut) rfl).snoc (a := .deliver false) rfl
  have h₇ := (h₆.snoc (a := .store) rfl).snoc (a := .schedule) rfl
  have h₈ := (h₇.snoc (a := .clear 0) rfl).snoc (a := .leave 0) rfl
  refine ⟨_, _, h₈, rfl, rfl, rfl, rfl, ?_⟩
  intro hwatched
  exact absurd (hwatched.watched rfl rfl (.inl rfl)).1 nofun

end UrnetworkWindows.LostService
