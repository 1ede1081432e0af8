/-
The watch on the network country (`NetworkCountryWatch.h`).

One thread reads the country, at first and once per burst of changes, and reports a reading
that differs from the last one it reported.  It reads and reports outside the lock, so each
block under the lock and each call is a step of its own; a call may throw, and takes as long
as it likes.  A sink records under the lock and wakes the thread after it, which are two
steps.  `Cancel` sets its flag and waits for a report that runs; the destructor cancels and
then waits for the thread, which it gives up after a time.

A sleep on the condition variable may end at any time.  It has to end once the thread was
woken or its time is up.  Left out are the callers' own waits, which look at the channel and
change nothing.
-/
import UrnetworkWindows.Lib.Fair
import UrnetworkWindows.Lib.Text
import UrnetworkWindows.Watchdog.NetworkEvents

namespace UrnetworkWindows.NetworkCountry

open Lib
open Watchdog.Network (NotifyCoalescer)

structure Reading where
  code : List UInt8 := []
  source : List UInt8
deriving DecidableEq, Repr

def kSourceUnreadable : List UInt8 := narrow "mobile-broadband-unreadable"

/-- The reading of a read that threw. -/
def unreadable : Reading := { source := kSourceUnreadable }

/-- The thread's next statement. -/
inductive At
  | toRead
  /-- In the read. -/
  | reading
  | toCheck (reading : Reading)
  /-- `reporting` is set. -/
  | toReport (reading : Reading)
  /-- In the report. -/
  | inReport (reading : Reading)
  | toFinish
  | toNotify
  /-- At the top of `WaitForBurst`'s loop. -/
  | toWait
  /-- On the condition variable, until a time or without one. -/
  | asleep (until? : Option ℤ) (woken : Bool)
  /-- `Run` has returned. -/
  | returned
  | ended
deriving DecidableEq, Repr

/-- Whatever it does, a sleep of it has to end. -/
def At.woken : At → At
  | .asleep until? _ => .asleep until? true
  | thread => thread

/-- Where the owner is. -/
inductive Owner
  | alive
  /-- In the destructor's `Cancel`. -/
  | cancelling
  /-- The destructor waits for the thread. -/
  | joining
  | gone
deriving DecidableEq, Repr

/-- The channel, the thread, the callers and what has happened. -/
structure Watch where
  cancelled : Bool := false
  firstReported : Bool := false
  parked : Bool := false
  reporting : Bool := false
  finished : Bool := false
  network : NotifyCoalescer
  thread : At := .toRead
  first : Bool := true
  reported : Option Reading := none
  /-- `NowMillis`. -/
  now : ℤ
  /-- The sinks that have recorded and not woken the thread yet. -/
  sinks : ℕ := 0
  /-- The calls of `Cancel` that have not returned. -/
  cancels : ℕ := 0
  owner : Owner := .alive
  /-- A call of `Cancel` has returned. -/
  cancelReturned : Bool := false
  /-- What was read, and what was reported, in order. -/
  readings : List Reading := []
  reports : List Reading := []
deriving DecidableEq, Repr

inductive Act
  | startRead
  /-- The read returns, or throws. -/
  | readReturns (answer : Option Reading)
  | check
  | report
  /-- The report returns, or throws. -/
  | reportReturns
  | finish
  | notify
  | waitForBurst
  | wake
  | endThread
  /-- A sink records an observation. -/
  | observe
  | sinkNotifies
  | cancel
  | cancelReturns
  | destroy
  | destroyCancelled
  /-- The thread has finished, or the time for that is up. -/
  | destroyed
  | time (millis : ℕ)
deriving DecidableEq, Repr

namespace Watch

variable (w : Watch)

/-- `notify_all`, as far as it is for the thread. -/
def woken : Watch := { w with thread := w.thread.woken }

/-- One round of `WaitForBurst`'s loop. -/
def waitForBurst : Watch :=
  if w.cancelled then { w with thread := .returned }
  else if (w.network.takeDue w.now).1 then
    { w with network := (w.network.takeDue w.now).2, parked := false, thread := .toRead }
  else if w.network.pending then
    { w with parked := false, thread := .asleep (some w.network.deadlineMillis) false }
  else { w with parked := true, thread := .asleep none false }

/-- The lock after the read. -/
def check (reading : Reading) : Watch :=
  if w.cancelled then { w with thread := .returned }
  else { w with reporting := true, thread := .toReport reading }

/-- The report starts, or there is nothing to report. -/
def report (reading : Reading) : Watch :=
  if w.reported = some reading then { w with thread := .toFinish }
  else { w with thread := .inReport reading, reports := w.reports ++ [reading] }

/-- The lock after the report. -/
def finish : Watch :=
  { w with
    reporting := false
    firstReported := w.firstReported || w.first
    thread := .toNotify }

/-- A sink's lock. -/
def observe : Watch :=
  if w.cancelled then w
  else
    { w with
      network := w.network.observe w.now
      sinks := w.sinks + 1 }

/-- The first lock of `Cancel`. -/
def cancel : Watch := { w with cancelled := true }.woken

/-- What `WaitSettled` waits for. -/
def waitSettled : Bool := w.parked && !w.network.pending

end Watch

def next (w : Watch) (a : Act) : Option Watch :=
  match a, w.thread with
  | .startRead, .toRead => some { w with thread := .reading }
  | .readReturns answer, .reading =>
    let reading := answer.getD unreadable
    some { w with thread := .toCheck reading, readings := w.readings ++ [reading] }
  | .check, .toCheck reading => some (w.check reading)
  | .report, .toReport reading => some (w.report reading)
  | .reportReturns, .inReport reading =>
    some { w with thread := .toFinish, reported := some reading }
  | .finish, .toFinish => some w.finish
  | .notify, .toNotify => some { w with thread := .toWait, first := false }
  | .waitForBurst, .toWait => some w.waitForBurst
  | .wake, .asleep .. => some { w with thread := .toWait }
  | .endThread, .returned => some { w with finished := true, thread := .ended }
  | .observe, _ => some w.observe
  | .sinkNotifies, _ => if w.sinks = 0 then none else some { w with sinks := w.sinks - 1 }.woken
  | .cancel, _ =>
    if w.owner ≠ .alive then none else some { w with cancels := w.cancels + 1 }.cancel
  | .cancelReturns, _ =>
    if w.cancels = 0 ∨ w.reporting then none
    else some { w with cancels := w.cancels - 1, cancelReturned := true }
  | .destroy, _ =>
    if w.owner ≠ .alive then none else some { w with owner := .cancelling }.cancel
  | .destroyCancelled, _ =>
    if w.owner ≠ .cancelling ∨ w.reporting then none
    else some { w with owner := .joining, cancelReturned := true }
  | .destroyed, _ => if w.owner ≠ .joining then none else some { w with owner := .gone }
  | .time millis, _ => some { w with now := w.now + millis }
  | _, _ => none

/-- The watch as it is made. -/
def Starts (w : Watch) : Prop :=
  ∃ windowMillis now, w = { network := { windowMillis }, now }

abbrev Runs : List (Transition Watch Act) → Watch → Prop :=
  Run Starts fun _ w a w' => next w a = some w'

/-! ### Endless runs -/

/-- The statements of the thread. -/
def Act.isThread : Act → Bool
  | .startRead | .readReturns _ | .check | .report | .reportReturns | .finish | .notify
  | .waitForBurst | .wake | .endThread => true
  | _ => false

/-- The thread has a statement to make, or is in a call. -/
def Watch.ready (w : Watch) : Bool :=
  match w.thread with
  | .asleep until? woken => woken || until?.any fun t => t ≤ w.now
  | .ended => false
  | _ => true

/-- The thread does not stop where it could go on, and a call of it returns; a sink that has
recorded wakes the thread; and time passes. -/
structure Fair (run : Endless Starts next) : Prop where
  thread : WeaklyFair (fun n => (run.state n).ready) (fun n => (run.label n).isThread)
  sinks : WeaklyFair (fun n => 0 < (run.state n).sinks) (fun n => run.label n = .sinkNotifies)
  time : ∀ t, ∃ n, t ≤ (run.state n).now

end UrnetworkWindows.NetworkCountry
