/-
The upload in flight (`LogUpload.h`, `Flight`).

`Flight` is a record behind its own lock; every method below is one critical section of it.
`step` is the service around it: requests admit and run uploads under the session lock, each
upload's call is on a thread of its own, and teardowns, callbacks and status readers come
from any thread at any moment.  A call may return, throw, or never step again.

A device is known by the call of `KeepUntilReturned` it was handed to, so a device handed
over twice is two.  What a run has done is logged beside the record: the outcomes that were
written, the finish hooks that were run, and the devices the upload threads released.  The
ids are 64-bit in the source, and start from the service's start time: they do not wrap.
-/
import UrnetworkWindows.Lib.Trace

namespace UrnetworkWindows.LogUpload

open Lib

/-! ### The record -/

/-- `Carrier`. -/
inductive Carrier
  | tunnel
  | provider
  | standalone
deriving DecidableEq, Repr

/-- `FlightState`. -/
inductive FlightState
  | none
  | running
  | uploaded
  | refused
  | failed
deriving DecidableEq, Repr

/-- `IsFinished`. -/
def isFinished (state : FlightState) : Bool :=
  state = .uploaded || state = .refused || state = .failed

/-- `kSilentUploadMaxMillis`. -/
def kSilentUploadMaxMillis : ℤ := 30 * 60 * 1000

/-- `Flight::Reading`. -/
structure Reading where
  id : ℤ := 0
  state : FlightState := .none
  carrier : Carrier := .standalone
deriving DecidableEq, Repr

/-- `Flight`. -/
structure Flight where
  nextId : ℤ
  reading : Reading := {}
  sinceMillis : ℤ := 0
  onFinished : Bool := false
  notifying : ℤ := 0
  calling : Bool := false
  releasing : Bool := false
  callingId : ℤ := 0
  callingDeviceHandle : ℕ := 0
  keptDevices : List ℕ := []
deriving DecidableEq, Repr

namespace Flight

/-- The upload in flight has run for too long without an outcome. -/
def silent (f : Flight) (nowMillis : ℤ) : Bool :=
  f.reading.state = .running && nowMillis - f.sinceMillis ≥ kSilentUploadMaxMillis

/-- `ExpireSilentWithLock`. -/
def expireSilent (f : Flight) (nowMillis : ℤ) : Flight :=
  if f.silent nowMillis then { f with reading := { f.reading with state := .failed } } else f

/-- `BusyWithLock`. -/
def busy (f : Flight) : Bool := f.calling || f.releasing || f.reading.state = .running

/-- `Begin`. -/
def begin (f : Flight) (carrier : Carrier) (nowMillis : ℤ) : ℤ × Flight :=
  let f := f.expireSilent nowMillis
  if f.busy then (0, f)
  else
    (f.nextId, { f with
      nextId := f.nextId + 1
      reading := { id := f.nextId, state := .running, carrier }
      sinceMillis := nowMillis })

/-- What `Run` writes before it starts the thread. -/
def run (f : Flight) (id : ℤ) (deviceHandle : ℕ) : Flight :=
  { f with calling := true, callingId := id, callingDeviceHandle := deviceHandle }

/-- `KeepUntilReturned` keeps the device. -/
def keeps (f : Flight) (deviceHandle : ℕ) : Bool :=
  !(!f.calling || f.callingDeviceHandle ≠ deviceHandle || deviceHandle = 0)

/-- `KeepUntilReturned`. -/
def keepUntilReturned (f : Flight) (deviceHandle device : ℕ) : Option ℕ × Flight :=
  if f.keeps deviceHandle then (none, { f with keptDevices := f.keptDevices ++ [device] })
  else (some device, f)

/-- `Finish` finds the upload in flight and without an outcome. -/
def takes (f : Flight) (id : ℤ) (state : FlightState) : Bool :=
  !(f.reading.id ≠ id || isFinished f.reading.state || !isFinished state)

/-- The first critical section of `Finish`: whether the hook is to be called, too. -/
def finish (f : Flight) (id : ℤ) (state : FlightState) : Bool × Flight :=
  if f.takes id state then
    (f.onFinished, { f with
      reading := { f.reading with state }
      notifying := if f.onFinished then f.notifying + 1 else f.notifying })
  else (false, f)

/-- The second one, after the hook. -/
def finished (f : Flight) : Flight := { f with notifying := f.notifying - 1 }

/-- `Read`. -/
def read (f : Flight) (nowMillis : ℤ) : Reading × Flight :=
  ((f.expireSilent nowMillis).reading, f.expireSilent nowMillis)

/-- `Returned`. -/
def returned (f : Flight) (id : ℤ) : List ℕ × Flight :=
  if f.callingId ≠ id then ([], f)
  else
    (f.keptDevices, { f with
      calling := false, releasing := true, callingDeviceHandle := 0, keptDevices := [] })

/-- `Released`. -/
def released (f : Flight) (id : ℤ) : Flight :=
  if f.callingId ≠ id then f else { f with releasing := false }

end Flight

/-! ### The service around it -/

/-- The session lock: free, or held by a request whose upload was admitted, and from the
first section of `Run` on. -/
inductive SessionAt
  | free
  | begun (id : ℤ)
  | entered (id : ℤ) (deviceHandle : ℕ)
deriving DecidableEq, Repr

/-- The next statement of an upload's thread.  A call that throws waits for its own call of
`Finish`, known by its place. -/
inductive ThreadAt
  | calling
  | catching (finish : ℕ)
  | returning
  | releasing (devices : List ℕ)
  | done
deriving DecidableEq, Repr

structure UploadThread where
  id : ℤ
  deviceHandle : ℕ
  phase : ThreadAt := .calling
deriving DecidableEq, Repr

/-- The next statement of a call of `Finish`. -/
inductive FinishAt
  | locking
  | hook
  | leaving
  | done
deriving DecidableEq, Repr

structure FinishCall where
  id : ℤ
  state : FlightState
  phase : FinishAt := .locking
deriving DecidableEq, Repr

/-- The record and its callers.  `keeps` has an entry for each call of `KeepUntilReturned`:
the id whose call the device was kept for, `none` where it was handed back. -/
structure Service where
  flight : Flight
  session : SessionAt := .free
  threads : List UploadThread := []
  finishes : List FinishCall := []
  keeps : List (Option ℤ) := []
  released : List ℕ := []
  outcomes : List (ℤ × FlightState) := []
  hooks : List ℤ := []
deriving DecidableEq, Repr

/-- A request is made and admitted or not; it fails before it runs the upload, runs it, and
starts the thread or fails to; a thread takes a step, which may be that its call throws; an
outcome is reported, and its call takes a step; a teardown hands a device over; the status
is read; the hook is set or cleared. -/
inductive Pick
  | request (carrier : Carrier) (nowMillis : ℤ)
  | leave
  | run (deviceHandle : ℕ)
  | spawn (ok : Bool)
  | thread (i : ℕ) (throws : Bool)
  | finish (id : ℤ) (state : FlightState)
  | finishStep (k : ℕ)
  | keep (deviceHandle : ℕ)
  | read (nowMillis : ℤ)
  | setOnFinished
  | clearOnFinished
deriving DecidableEq, Repr

/-- The outcome `ExpireSilentWithLock` writes. -/
def Flight.givenUp (f : Flight) (nowMillis : ℤ) : List (ℤ × FlightState) :=
  if f.silent nowMillis then [(f.reading.id, .failed)] else []

/-- The next step of an upload's thread. -/
def threadStep (throws : Bool) (s : Service) (t : UploadThread) : Option (ThreadAt × Service) :=
  match t.phase with
  | .calling =>
    if throws then
      some (.catching s.finishes.length,
        { s with finishes := s.finishes ++ [{ id := t.id, state := .failed }] })
    else some (.returning, s)
  | .catching k =>
    if s.finishes[k]?.any fun c => c.phase = .done then some (.returning, s) else none
  | .returning =>
    let r := s.flight.returned t.id
    some (.releasing r.1, { s with flight := r.2 })
  | .releasing (device :: devices) =>
    some (.releasing devices, { s with released := s.released ++ [device] })
  | .releasing [] => some (.done, { s with flight := s.flight.released t.id })
  | .done => none

/-- The next step of a call of `Finish`. -/
def finishStep (s : Service) (c : FinishCall) : Option (FinishAt × Service) :=
  match c.phase with
  | .locking =>
    let r := s.flight.finish c.id c.state
    let outcome := if s.flight.takes c.id c.state then [(c.id, c.state)] else []
    some (if r.1 then .hook else .done,
      { s with flight := r.2, outcomes := s.outcomes ++ outcome })
  | .hook => some (.leaving, { s with hooks := s.hooks ++ [c.id] })
  | .leaving => some (.done, { s with flight := s.flight.finished })
  | .done => none

/-- One step of the whole. -/
def step (s : Service) : Pick → Option Service
  | .request carrier nowMillis =>
    if s.session = .free then
      let r := s.flight.begin carrier nowMillis
      some { s with
        flight := r.2
        session := if r.1 = 0 then .free else .begun r.1
        outcomes := s.outcomes ++ s.flight.givenUp nowMillis }
    else none
  | .leave =>
    match s.session with
    | .begun _ => some { s with session := .free }
    | _ => none
  | .run deviceHandle =>
    match s.session with
    | .begun id =>
      some { s with flight := s.flight.run id deviceHandle, session := .entered id deviceHandle }
    | _ => none
  | .spawn ok =>
    match s.session with
    | .entered id deviceHandle =>
      some { s with
        session := .free
        threads := if ok then s.threads ++ [{ id, deviceHandle }] else s.threads }
    | _ => none
  | .thread i throws =>
    match s.threads[i]? with
    | none => none
    | some t => (threadStep throws s t).map fun r =>
        { r.2 with threads := s.threads.set i { t with phase := r.1 } }
  | .finish id state => some { s with finishes := s.finishes ++ [{ id, state }] }
  | .finishStep k =>
    match s.finishes[k]? with
    | none => none
    | some c => (finishStep s c).map fun r =>
        { r.2 with finishes := s.finishes.set k { c with phase := r.1 } }
  | .keep deviceHandle =>
    let r := s.flight.keepUntilReturned deviceHandle s.keeps.length
    some { s with
      flight := r.2
      keeps := s.keeps ++ [if r.1.isSome then none else some s.flight.callingId] }
  | .read nowMillis =>
    some { s with
      flight := (s.flight.read nowMillis).2
      outcomes := s.outcomes ++ s.flight.givenUp nowMillis }
  | .setOnFinished => some { s with flight := { s.flight with onFinished := true } }
  | .clearOnFinished => some { s with flight := { s.flight with onFinished := false } }

/-- The runs of a service, from a first id that its start time gives. -/
abbrev Service.Runs : List (Transition Service Pick) → Service → Prop :=
  Run (fun s => ∃ firstId, 0 < firstId ∧ s = { flight := { nextId := firstId } })
    fun _ s a s' => step s a = some s'

end UrnetworkWindows.LogUpload
