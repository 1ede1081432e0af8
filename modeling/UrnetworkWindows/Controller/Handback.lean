/-
The SDK teardown of a session and the device it may hand back
(`TunnelController::TearDownSessionLocked`, `RunBounded`).

The teardown runs on a worker that owns every object of the session.  The caller waits
for it within a budget that may run out at any time, and then looks into a slot the
two share under a mutex: it takes the device the worker left there, or marks the slot
abandoned.  Each party is a program counter, and a step of either may come at any time.

Left out: the SDK's egress binding, the log, and what becomes of an abandoned worker's
gate.  A call of the worker that never returns is a worker that takes no further step.
-/
import UrnetworkWindows.Lib.Trace

namespace UrnetworkWindows.Controller.Handback

open Lib

/-! ### The model -/

inductive Party
  | worker
  | caller
deriving DecidableEq, Repr

/-- Where the device and the network space are: with the worker, in the slot, in what
the caller returns, kept by a log upload until its call returns, or released. -/
inductive Place
  | absent
  | worker
  | slot
  | kept
  | flight
  | released
deriving DecidableEq, Repr

/-- One of the other objects the worker owns; `released` says whether it had been
stopped. -/
inductive Part
  | absent
  | running
  | stopped
  | released (stopped : Bool)
deriving DecidableEq, Repr

namespace Part

def stop : Part → Part
  | running => stopped
  | p => p

def reset : Part → Part
  | running => released false
  | stopped => released true
  | p => p

/-- The object was released. -/
def Gone : Part → Prop
  | released _ => True
  | _ => False

/-- The object was never there, or has been stopped. -/
def Quiet : Part → Prop
  | absent | stopped | released true => True
  | running | released false => False

end Part

/-- The next statement of the worker. -/
inductive WorkerAt
  | stopPump
  | resetPump
  | closeSplit
  | stopEgress
  | resetEgress
  | removeDestination
  | closeRpcServer
  | lockHandback (cleared : Bool)
  | decideKept (cleared : Bool)
  | keepDevice
  | keepSpace
  | unlockKept
  | resetAdapterKept
  | resetWintunKept
  | unlockClosing
  | closeDevice
  | keepUntilReturned
  | resetAdapter
  | resetWintun
  | resetSpace
  | publishDone
  | finished
deriving DecidableEq, Repr

/-- The next statement of the caller, with what `RunBounded` returned. -/
inductive CallerAt
  | runBounded
  | lockHandback (finished : Bool)
  | look (finished : Bool)
  | takeDevice (finished : Bool)
  | takeSpace (finished : Bool)
  | abandon (finished : Bool)
  | unlock (finished : Bool)
  | returned (finished : Bool)
deriving DecidableEq, Repr

/-- The objects of the session, the slot and its mutex, and both parties. -/
structure Teardown where
  handback : Bool
  worker : WorkerAt := .stopPump
  caller : CallerAt := .runBounded
  owner : Option Party := none
  abandoned : Bool := false
  device : Place
  space : Place
  closes : ℕ := 0
  pump : Part
  split : Part
  egress : Part
  adapter : Part
  wintun : Part
  done : Bool := false
deriving DecidableEq, Repr

/-- A step of the worker.  The coin says whether a call into the SDK returns rather
than throws, and whether a log upload still has a call on the device. -/
def workerStep (coin : Bool) (s : Teardown) : Option Teardown :=
  match s.worker with
  | .stopPump => some { s with worker := .resetPump, pump := s.pump.stop }
  | .resetPump => some { s with worker := .closeSplit, pump := s.pump.reset }
  | .closeSplit => some { s with worker := .stopEgress, split := s.split.stop }
  | .stopEgress => some { s with worker := .resetEgress, egress := s.egress.stop }
  | .resetEgress => some { s with
      worker := if s.handback then .removeDestination else .closeDevice
      egress := s.egress.reset }
  | .removeDestination => some { s with
      worker := if coin then .closeRpcServer else .lockHandback false }
  | .closeRpcServer => some { s with worker := .lockHandback coin }
  | .lockHandback cleared =>
    if s.owner = none then some { s with worker := .decideKept cleared, owner := some .worker }
    else none
  | .decideKept cleared => some { s with
      worker := if cleared && !s.abandoned then .keepDevice else .unlockClosing }
  | .keepDevice => some { s with worker := .keepSpace, device := .slot }
  | .keepSpace => some { s with worker := .unlockKept, space := .slot }
  | .unlockKept => some { s with worker := .resetAdapterKept, owner := none }
  | .resetAdapterKept => some { s with worker := .resetWintunKept, adapter := s.adapter.reset }
  | .resetWintunKept => some { s with worker := .publishDone, wintun := s.wintun.reset }
  | .unlockClosing => some { s with worker := .closeDevice, owner := none }
  | .closeDevice =>
    if s.device = .worker then some { s with worker := .keepUntilReturned, closes := s.closes + 1 }
    else some { s with worker := .resetAdapter }
  | .keepUntilReturned => some { s with
      worker := .resetAdapter
      device := if coin then .flight else .released }
  | .resetAdapter => some { s with worker := .resetWintun, adapter := s.adapter.reset }
  | .resetWintun => some { s with worker := .resetSpace, wintun := s.wintun.reset }
  | .resetSpace => some { s with
      worker := .publishDone
      space := if s.space = .worker then .released else s.space }
  | .publishDone => some { s with worker := .finished, done := true }
  | .finished => none

/-- A step of the caller.  `RunBounded` returns once the worker has published that it
is done, or at any time before. -/
def callerStep (s : Teardown) : Option Teardown :=
  match s.caller with
  | .runBounded => some { s with
      caller := if s.handback then .lockHandback s.done else .returned s.done }
  | .lockHandback finished =>
    if s.owner = none then some { s with caller := .look finished, owner := some .caller }
    else none
  | .look finished => some { s with
      caller := if s.device = .slot then .takeDevice finished else .abandon finished }
  | .takeDevice finished => some { s with caller := .takeSpace finished, device := .kept }
  | .takeSpace finished => some { s with
      caller := .unlock finished
      space := if s.space = .slot then .kept else s.space }
  | .abandon finished => some { s with caller := .unlock finished, abandoned := true }
  | .unlock finished => some { s with caller := .returned finished, owner := none }
  | .returned _ => none

def step (s : Teardown) : Party × Bool → Option Teardown
  | (.worker, coin) => workerStep coin s
  | (.caller, _) => callerStep s

/-- The objects as the teardown moves them into the worker, with the slot it makes. -/
def start (keepDevice device pump split egress adapter wintun : Bool) : Teardown :=
  let part (held : Bool) : Part := if held then .running else .absent
  { handback := keepDevice && device
    device := if device then .worker else .absent
    space := .worker
    pump := part pump
    split := part split
    egress := part egress
    adapter := part adapter
    wintun := part wintun }

/-- The beginning of a teardown that is to keep the device, whichever of the other
objects the session has. -/
def Begins (s : Teardown) : Prop :=
  ∃ pump split egress adapter wintun, s = start true true pump split egress adapter wintun

/-- The runs of a teardown. -/
abbrev Teardown.Runs : List (Transition Teardown (Party × Bool)) → Teardown → Prop :=
  Run Begins fun _ s a s' => step s a = some s'

/-! ### The invariant -/

section Invariant

variable {s s' : Teardown} {coin : Bool}

/-- The device and the space are the worker's, as they were. -/
def Untouched (s : Teardown) : Prop := s.device = .worker ∧ s.space = .worker ∧ s.closes = 0

/-- The worker has put both into the slot; the caller may have taken them. -/
def HandedOver (s : Teardown) : Prop :=
  s.closes = 0 ∧ (s.device = .slot ∧ s.space = .slot ∨
    s.device = .kept ∧ (s.space = .slot ∨ s.space = .kept))

/-- The worker has closed the device and let it go. -/
def Closed (s : Teardown) : Prop := s.closes = 1 ∧ (s.device = .flight ∨ s.device = .released)

/-- What holds at each statement of the worker. -/
def WorkerOk (s : Teardown) : Prop :=
  match s.worker with
  | .stopPump | .resetPump | .closeSplit | .stopEgress | .resetEgress | .removeDestination
  | .closeRpcServer | .lockHandback _ | .closeDevice => Untouched s ∧ s.owner ≠ some .worker
  | .decideKept _ | .unlockClosing => Untouched s ∧ s.owner = some .worker
  | .keepDevice => Untouched s ∧ s.owner = some .worker ∧ s.abandoned = false
  | .keepSpace =>
    s.device = .slot ∧ s.space = .worker ∧ s.closes = 0 ∧ s.owner = some .worker
  | .unlockKept => s.device = .slot ∧ s.space = .slot ∧ s.closes = 0 ∧ s.owner = some .worker
  | .resetAdapterKept | .resetWintunKept => HandedOver s ∧ s.owner ≠ some .worker
  | .keepUntilReturned =>
    s.device = .worker ∧ s.space = .worker ∧ s.closes = 1 ∧ s.owner ≠ some .worker
  | .resetAdapter | .resetWintun | .resetSpace =>
    Closed s ∧ s.space = .worker ∧ s.owner ≠ some .worker
  | .publishDone | .finished =>
    (HandedOver s ∨ Closed s ∧ s.space = .released) ∧ s.owner ≠ some .worker

/-- Neither object has been taken by the caller. -/
def NotTaken (s : Teardown) : Prop := s.device ≠ .kept ∧ s.space ≠ .kept

/-- The caller has taken both, or has left both to the worker for good. -/
def Settled (s : Teardown) : Prop :=
  s.device = .kept ∧ s.space = .kept ∨
    s.abandoned = true ∧ NotTaken s ∧ s.device ≠ .slot ∧ s.space ≠ .slot

/-- What holds at each statement of the caller. -/
def CallerOk (s : Teardown) : Prop :=
  match s.caller with
  | .runBounded | .lockHandback _ => NotTaken s ∧ s.owner ≠ some .caller
  | .look _ => NotTaken s ∧ s.owner = some .caller
  | .takeDevice _ => s.device = .slot ∧ s.space = .slot ∧ s.owner = some .caller
  | .takeSpace _ => s.device = .kept ∧ s.space = .slot ∧ s.owner = some .caller
  | .abandon _ => NotTaken s ∧ s.device ≠ .slot ∧ s.space ≠ .slot ∧ s.owner = some .caller
  | .unlock _ => Settled s ∧ s.owner = some .caller
  | .returned _ => Settled s ∧ s.owner ≠ some .caller

lemma WorkerOk.workerStep (hw : WorkerOk s) (hback : s.handback = true)
    (h : workerStep coin s = some s') : WorkerOk s' := by
  obtain ⟨handback, worker, caller, owner, abandoned, device, space, closes, pump, split, egress,
    adapter, wintun, done⟩ := s
  obtain rfl : handback = true := hback
  cases worker with
  | stopPump | resetPump | closeSplit | stopEgress | resetEgress | closeRpcServer
  | resetAdapterKept | resetAdapter | resetWintun | publishDone =>
    cases h
    exact hw
  | removeDestination =>
    cases h
    cases coin <;> exact hw
  | lockHandback cleared =>
    simp only [Handback.workerStep, guard_eq_some] at h
    obtain ⟨-, rfl⟩ := h
    exact ⟨hw.1, rfl⟩
  | decideKept cleared =>
    cases h
    -- the branch to the slot is taken only while the caller has not walked away
    cases cleared <;> cases abandoned
    · exact hw
    · exact hw
    · exact ⟨hw.1, hw.2, rfl⟩
    · exact hw
  | keepDevice =>
    cases h
    exact ⟨rfl, hw.1.2.1, hw.1.2.2, hw.2.1⟩
  | keepSpace =>
    cases h
    exact ⟨hw.1, rfl, hw.2.2⟩
  | unlockKept =>
    cases h
    exact ⟨⟨hw.2.2.1, .inl ⟨hw.1, hw.2.1⟩⟩, by simp⟩
  | resetWintunKept =>
    cases h
    exact ⟨.inl hw.1, hw.2⟩
  | unlockClosing =>
    cases h
    exact ⟨hw.1, by simp⟩
  | closeDevice =>
    obtain ⟨⟨hdevice, hspace, hcloses⟩, howner⟩ := hw
    simp only [Handback.workerStep] at h
    rw [if_pos hdevice] at h
    cases h
    exact ⟨hdevice, hspace, congrArg (· + 1) hcloses, howner⟩
  | keepUntilReturned =>
    cases h
    obtain ⟨-, hspace, hcloses, howner⟩ := hw
    cases coin
    · exact ⟨⟨hcloses, .inr rfl⟩, hspace, howner⟩
    · exact ⟨⟨hcloses, .inl rfl⟩, hspace, howner⟩
  | resetSpace =>
    obtain ⟨hclosed, hspace, howner⟩ := hw
    cases h
    exact ⟨.inr ⟨hclosed, if_pos hspace⟩, howner⟩
  | finished => exact absurd h (by simp [Handback.workerStep])

lemma CallerOk.workerStep (hc : CallerOk s) (hw : WorkerOk s) (hback : s.handback = true)
    (h : workerStep coin s = some s') : CallerOk s' := by
  obtain ⟨handback, worker, caller, owner, abandoned, device, space, closes, pump, split, egress,
    adapter, wintun, done⟩ := s
  obtain rfl : handback = true := hback
  cases worker with
  | stopPump | resetPump | closeSplit | stopEgress | resetEgress | removeDestination
  | closeRpcServer | decideKept | resetAdapterKept | resetWintunKept | resetAdapter | resetWintun
  | publishDone =>
    cases h
    exact hc
  | lockHandback cleared =>
    simp only [Handback.workerStep, guard_eq_some] at h
    obtain ⟨hnone, rfl⟩ := h
    cases caller <;> simp_all [CallerOk, NotTaken, Settled]
  | closeDevice =>
    simp only [Handback.workerStep] at h
    split at h <;> (obtain rfl := Option.some.inj h; exact hc)
  | keepDevice | keepSpace | unlockKept | unlockClosing | keepUntilReturned | resetSpace =>
    cases h
    cases caller <;> simp_all [CallerOk, WorkerOk, Untouched, NotTaken, Settled] <;> cases coin <;>
      simp_all
  | finished => exact absurd h (by simp [Handback.workerStep])

lemma WorkerOk.slot_iff (hw : WorkerOk s) (howner : s.owner ≠ some .worker)
    (hkept : s.device ≠ .kept) : s.device = .slot ↔ s.space = .slot := by
  obtain ⟨handback, worker, caller, owner, abandoned, device, space, closes, pump, split, egress,
    adapter, wintun, done⟩ := s
  cases worker <;> simp_all [WorkerOk, Untouched, HandedOver, Closed]
  all_goals grind

lemma WorkerOk.callerStep (hw : WorkerOk s) (hc : CallerOk s) (h : callerStep s = some s') :
    WorkerOk s' := by
  obtain ⟨handback, worker, caller, owner, abandoned, device, space, closes, pump, split, egress,
    adapter, wintun, done⟩ := s
  cases caller with
  | runBounded | look =>
    cases h
    exact hw
  | lockHandback finished =>
    simp only [Handback.callerStep, guard_eq_some] at h
    obtain ⟨hnone, rfl⟩ := h
    cases worker <;> simp_all [WorkerOk, Untouched, HandedOver, Closed]
  | takeDevice | takeSpace | abandon | unlock =>
    cases h
    cases worker <;> simp_all [WorkerOk, CallerOk, Untouched, HandedOver, Closed]
  | returned => exact absurd h (by simp [Handback.callerStep])

lemma CallerOk.callerStep (hc : CallerOk s) (hw : WorkerOk s) (hback : s.handback = true)
    (h : callerStep s = some s') : CallerOk s' := by
  have hslot := hw.slot_iff
  obtain ⟨handback, worker, caller, owner, abandoned, device, space, closes, pump, split, egress,
    adapter, wintun, done⟩ := s
  obtain rfl : handback = true := hback
  cases caller with
  | runBounded =>
    cases h
    exact hc
  | lockHandback finished =>
    simp only [Handback.callerStep, guard_eq_some] at h
    obtain ⟨-, rfl⟩ := h
    exact ⟨hc.1, rfl⟩
  | look finished =>
    obtain ⟨⟨hdevice, hspace⟩, howner⟩ := hc
    simp only at hdevice hspace howner hslot
    replace hslot := hslot (by simp [howner]) hdevice
    simp only [Handback.callerStep] at h
    cases h
    by_cases hd : device = .slot
    · simp only [CallerOk, if_pos hd]
      exact ⟨hd, hslot.1 hd, howner⟩
    · simp only [CallerOk, if_neg hd]
      exact ⟨⟨hdevice, hspace⟩, hd, fun hs => hd (hslot.2 hs), howner⟩
  | takeDevice finished =>
    cases h
    exact ⟨rfl, hc.2.1, hc.2.2⟩
  | takeSpace finished =>
    obtain ⟨hdevice, hspace, howner⟩ := hc
    cases h
    exact ⟨.inl ⟨hdevice, if_pos hspace⟩, howner⟩
  | abandon finished =>
    obtain ⟨htaken, hdevice, hspace, howner⟩ := hc
    cases h
    exact ⟨.inr ⟨rfl, htaken, hdevice, hspace⟩, howner⟩
  | unlock finished =>
    cases h
    exact ⟨hc.1, by simp⟩
  | returned => exact absurd h (by simp [Handback.callerStep])

/-- The worker is past the stop of the egress monitor, and so past that of the pump. -/
def WorkerAt.pastEgress : WorkerAt → Bool
  | .stopPump | .resetPump | .closeSplit | .stopEgress => false
  | _ => true

/-- The pump and the monitor are stopped once the worker is past them, and before that
the adapter stays. -/
structure PartsOk (s : Teardown) : Prop where
  pump : if s.worker = .stopPump then s.pump.stop.Quiet else s.pump.Quiet
  egress : if s.worker.pastEgress then s.egress.Quiet else s.egress.stop.Quiet
  adapter : s.adapter.Gone → s.worker.pastEgress = true

lemma Part.Quiet.reset {p : Part} (h : p.Quiet) : p.reset.Quiet := by
  cases p with
  | absent | stopped => trivial
  | running => exact h
  | released stopped => exact h

lemma PartsOk.workerStep (hp : PartsOk s) (h : workerStep coin s = some s') : PartsOk s' := by
  obtain ⟨hpump, hegress, hadapter⟩ := hp
  obtain ⟨handback, worker, caller, owner, abandoned, device, space, closes, pump, split, egress,
    adapter, wintun, done⟩ := s
  cases worker with
  | stopPump | closeSplit =>
    cases h
    exact ⟨hpump, hegress, hadapter⟩
  | resetPump =>
    cases h
    exact ⟨Part.Quiet.reset hpump, hegress, hadapter⟩
  | stopEgress
  | closeRpcServer | keepDevice | keepSpace | unlockKept | resetAdapterKept | resetWintunKept
  | unlockClosing | keepUntilReturned | resetAdapter | resetWintun | resetSpace | publishDone =>
    cases h
    exact ⟨hpump, hegress, fun _ => rfl⟩
  | resetEgress =>
    cases h
    have hq : egress.reset.Quiet := Part.Quiet.reset hegress
    cases handback
    · exact ⟨hpump, hq, fun _ => rfl⟩
    · exact ⟨hpump, hq, fun _ => rfl⟩
  | removeDestination =>
    cases h
    cases coin <;> exact ⟨hpump, hegress, fun _ => rfl⟩
  | decideKept cleared =>
    cases h
    cases cleared <;> cases abandoned <;> exact ⟨hpump, hegress, fun _ => rfl⟩
  | lockHandback cleared =>
    simp only [Handback.workerStep, guard_eq_some] at h
    obtain ⟨-, rfl⟩ := h
    exact ⟨hpump, hegress, fun _ => rfl⟩
  | closeDevice =>
    simp only [Handback.workerStep] at h
    split at h <;> (obtain rfl := Option.some.inj h; exact ⟨hpump, hegress, fun _ => rfl⟩)
  | finished => exact absurd h (by simp [Handback.workerStep])

lemma callerStep_eq (h : callerStep s = some s') :
    s'.handback = s.handback ∧ s'.worker = s.worker ∧ s'.pump = s.pump ∧ s'.egress = s.egress ∧
      s'.adapter = s.adapter ∧ s'.closes = s.closes := by
  unfold callerStep at h
  split at h
  case h_2 =>
    obtain ⟨-, rfl⟩ := guard_eq_some.1 h
    exact ⟨rfl, rfl, rfl, rfl, rfl, rfl⟩
  case h_8 => exact absurd h (by simp)
  all_goals
    cases h
    exact ⟨rfl, rfl, rfl, rfl, rfl, rfl⟩

lemma workerStep_handback (h : workerStep coin s = some s') : s'.handback = s.handback := by
  unfold workerStep at h
  split at h <;> (try split at h) <;> simp_all
  all_goals exact h ▸ rfl

/-- The invariant of a teardown that is to keep the device. -/
structure TeardownOk (s : Teardown) : Prop where
  handback : s.handback = true
  worker : WorkerOk s
  caller : CallerOk s
  parts : PartsOk s

lemma TeardownOk.step {a : Party × Bool} (hok : TeardownOk s) (h : step s a = some s') :
    TeardownOk s' := by
  obtain ⟨hback, hw, hc, hp⟩ := hok
  match a, h with
  | (.worker, coin), h =>
    exact ⟨(workerStep_handback h).trans hback, hw.workerStep hback h, hc.workerStep hw hback h,
      hp.workerStep h⟩
  | (.caller, _), h =>
    obtain ⟨hb, hworker, hpump, hegress, hadapter, -⟩ := callerStep_eq h
    refine ⟨hb.trans hback, hw.callerStep hc h, hc.callerStep hw hback h, ?_⟩
    exact ⟨by rw [hworker, hpump]; exact hp.pump, by rw [hworker, hegress]; exact hp.egress,
      by rw [hworker, hadapter]; exact hp.adapter⟩

end Invariant

/-! ### The device at the end -/

/-- Nothing is lost or duplicated: a device the caller has taken has not been closed,
and it returns the space with it; the device is closed at most once, and not after the
caller took it; once both parties are done, one of the two has happened; the adapter
goes only after the pump and the monitor were stopped; and until both are done one of
them can go on. -/
structure Accounted (s : Teardown) : Prop where
  together : s.device = .kept → ∀ finished, s.caller = .returned finished → s.space = .kept
  kept_open : s.device = .kept → s.closes = 0
  once : s.closes ≤ 1
  closed : s.closes = 1 → s.device ≠ .kept ∧ s.space ≠ .kept
  ends : s.worker = .finished → ∀ finished, s.caller = .returned finished →
    (s.device = .kept ∧ s.space = .kept ∧ s.closes = 0) ∨
      (s.closes = 1 ∧ (s.device = .released ∨ s.device = .flight) ∧ s.space = .released)
  adapter : s.adapter.Gone → s.pump.Quiet ∧ s.egress.Quiet
  goes_on : (s.worker = .finished ∧ ∃ finished, s.caller = .returned finished) ∨
    ∃ a s', step s a = some s'

section Accounted

variable {s s' : Teardown}

lemma WorkerOk.closes_cases (hw : WorkerOk s) : s.closes = 0 ∨
    s.closes = 1 ∧ (s.device ≠ .kept ∧ s.device ≠ .slot) ∧ s.space ≠ .kept := by
  obtain ⟨handback, worker, caller, owner, abandoned, device, space, closes, pump, split, egress,
    adapter, wintun, done⟩ := s
  cases worker <;> simp only [WorkerOk, Untouched, HandedOver, Closed] at hw
  all_goals grind

lemma TeardownOk.ends (hok : TeardownOk s) (hworker : s.worker = .finished) {finished : Bool}
    (hcaller : s.caller = .returned finished) :
    (s.device = .kept ∧ s.space = .kept ∧ s.closes = 0) ∨
      (s.closes = 1 ∧ (s.device = .released ∨ s.device = .flight) ∧ s.space = .released) := by
  have hw := hok.worker
  have hc := hok.caller
  rw [WorkerOk, hworker] at hw
  rw [CallerOk, hcaller] at hc
  obtain ⟨⟨hzero, hplaces⟩ | ⟨⟨hone, hdevice⟩, hspace⟩, -⟩ := hw
  · obtain ⟨⟨hdevice, hspace⟩ | ⟨-, ⟨hdevice, -⟩, hslot, -⟩, -⟩ := hc
    · exact .inl ⟨hdevice, hspace, hzero⟩
    · -- a caller that walked away left nothing in the slot
      rcases hplaces with ⟨hd, -⟩ | ⟨hd, -⟩
      · exact absurd hd hslot
      · exact absurd hd hdevice
  · exact .inr ⟨hone, hdevice.symm, hspace⟩

lemma TeardownOk.goes_on (hok : TeardownOk s) :
    (s.worker = .finished ∧ ∃ finished, s.caller = .returned finished) ∨
      ∃ a s', Handback.step s a = some s' := by
  by_cases hw : ∃ s', Handback.workerStep true s = some s'
  · obtain ⟨s', h⟩ := hw
    exact .inr ⟨(.worker, true), s', h⟩
  by_cases hc : ∃ s', callerStep s = some s'
  · obtain ⟨s', h⟩ := hc
    exact .inr ⟨(.caller, true), s', h⟩
  left
  have hworker := hok.worker
  have hcaller := hok.caller
  obtain ⟨handback, worker, caller, owner, abandoned, device, space, closes, pump, split, egress,
    adapter, wintun, done⟩ := s
  have howner : owner = none ∨ owner = some .worker ∨ owner = some .caller := by
    rcases owner with _ | _ | _ <;> simp
  -- a party is stuck only at the mutex, and then the other one holds it
  cases worker <;> simp [Handback.workerStep] at hw
  case closeDevice =>
    split at hw <;> simp at hw
  all_goals
    cases caller <;> simp [callerStep] at hc
  all_goals simp_all [WorkerOk, CallerOk]

lemma TeardownOk.accounted (hok : TeardownOk s) : Accounted s where
  together hdevice finished hcaller := by
    have hc := hok.caller
    rw [CallerOk, hcaller] at hc
    obtain ⟨⟨-, hspace⟩ | ⟨-, ⟨hnot, -⟩, -⟩, -⟩ := hc
    · exact hspace
    · exact absurd hdevice hnot
  kept_open hdevice := by
    rcases hok.worker.closes_cases with hzero | ⟨-, ⟨hnot, -⟩, -⟩
    · exact hzero
    · exact absurd hdevice hnot
  once := by
    rcases hok.worker.closes_cases with hzero | ⟨hone, -⟩ <;> omega
  closed hone := by
    rcases hok.worker.closes_cases with hzero | ⟨-, ⟨hdevice, -⟩, hspace⟩
    · omega
    · exact ⟨hdevice, hspace⟩
  ends hworker _ hcaller := hok.ends hworker hcaller
  adapter hgone := by
    have hpast := hok.parts.adapter hgone
    have hpump := hok.parts.pump
    have hegress := hok.parts.egress
    rw [if_pos hpast] at hegress
    rw [if_neg (by rintro h; rw [h] at hpast; exact absurd hpast (by decide))] at hpump
    exact ⟨hpump, hegress⟩
  goes_on := hok.goes_on

end Accounted

end UrnetworkWindows.Controller.Handback
