/-
The capture readiness of a session (`CaptureReadiness.h`).

The class guards one question: may the machine's routes, DNS and firewall be
handed to the tunnel now?  Each method holds the object's mutex throughout, so a
concurrent use of the object is a sequence of calls; a call reads the injected
clock at most once.  The object is a state, a method a function of the state and
that reading, and a use of the object a run of `Call`s.

The revision is a natural number: the source's 64-bit counter would have to be
bumped 2^64 times within one session to differ.
-/
import UrnetworkWindows.Lib.Trace

namespace UrnetworkWindows.Capture

open Lib

/-! ### The data -/

/-- The settings the object reads. -/
structure CaptureReadinessSettings where
  freshnessMillis : ℤ := 8000
deriving DecidableEq, Repr

/-- `CaptureWindow`: what a sample knows of the provider window. -/
structure CaptureWindow where
  generation : ℤ := 0
  added : ℤ := 0
deriving DecidableEq, Repr

/-- `CaptureSample`: what `BeginSample` hands to a sampler. -/
structure CaptureSample where
  revision : ℕ
  proofSinceMillis : ℤ
  startedMillis : ℤ
deriving DecidableEq, Repr

/-- `CaptureTicket`: what `Ready` hands to an activation. -/
structure CaptureTicket where
  revision : ℕ
  generation : ℤ
  sampledMillis : ℤ
deriving DecidableEq, Repr

/-- `CaptureNetworkEpoch`. -/
structure CaptureNetworkEpoch where
  revision : ℕ
  millis : ℤ
deriving DecidableEq, Repr

/-- `CaptureReadiness`, less its settings and its clock. -/
structure CaptureReadiness where
  revision : ℕ := 0
  generation : ℤ := 0
  proofSinceMillis : ℤ := -1
  networkRevision : ℕ := 0
  handledNetworkRevision : ℕ := 0
  sampledMillis : ℤ := 0
  proven : Bool := false
  cancelled : Bool := false
  active : Bool := false
deriving DecidableEq, Repr

/-! ### The methods -/

namespace CaptureReadiness

variable (settings : CaptureReadinessSettings) (clock : ℤ) (r : CaptureReadiness)

/-- `FreshWithLock`. -/
def fresh (sampledMillis : ℤ) : Bool :=
  0 ≤ clock - sampledMillis && clock - sampledMillis ≤ settings.freshnessMillis

/-- `Invalidate`: a generation older than the known one is ignored. -/
def invalidate (generation : ℤ) : CaptureReadiness :=
  if generation < r.generation then r
  else { r with generation := generation, revision := r.revision + 1, proven := false }

/-- `NetworkChanged`. -/
def networkChanged (nowMillis : ℤ) : CaptureReadiness :=
  { r with
    proofSinceMillis := if r.proofSinceMillis < nowMillis then nowMillis else r.proofSinceMillis
    networkRevision := r.networkRevision + 1
    revision := r.revision + 1
    proven := false }

/-- `ProofBarrier`. -/
def proofBarrier (nowMillis : ℤ) : CaptureReadiness :=
  { r with
    proofSinceMillis := if r.proofSinceMillis < nowMillis then nowMillis else r.proofSinceMillis
    revision := r.revision + 1
    proven := false }

/-- `PendingNetworkEvent`. -/
def pendingNetworkEvent : Option CaptureNetworkEpoch :=
  if r.cancelled || r.networkRevision == r.handledNetworkRevision then none
  else some ⟨r.networkRevision, r.proofSinceMillis⟩

/-- `NetworkEventHandled`. -/
def networkEventHandled (event : CaptureNetworkEpoch) : CaptureReadiness :=
  if r.handledNetworkRevision < event.revision ∧ event.revision ≤ r.networkRevision then
    { r with handledNetworkRevision := event.revision }
  else r

/-- `BeginSample`. -/
def beginSample : CaptureSample := ⟨r.revision, r.proofSinceMillis, clock⟩

/-- What a completed sample has to show. -/
def qualifies (sample : CaptureSample) (before after : CaptureWindow) (usableProven : ℤ) : Bool :=
  before.generation == after.generation && decide (r.generation ≤ after.generation) &&
    decide (0 < after.generation) && decide (0 < before.added) && decide (0 < after.added) &&
    decide (0 < usableProven) && fresh settings clock sample.startedMillis

/-- `CompleteSample`. -/
def completeSample (sample : CaptureSample) (before after : CaptureWindow) (usableProven : ℤ) :
    CaptureReadiness :=
  if r.cancelled || r.active || sample.revision != r.revision then r
  else
    let proven := qualifies settings clock r sample before after usableProven
    { r with
      revision := if r.generation ≠ after.generation ∨ r.proven ≠ proven then r.revision + 1
        else r.revision
      generation := max (max r.generation before.generation) after.generation
      proven := proven
      sampledMillis := sample.startedMillis }

/-- `Ready`. -/
def ready : Option CaptureTicket :=
  if r.cancelled || r.active || !r.proven || !fresh settings clock r.sampledMillis then none
  else some ⟨r.revision, r.generation, r.sampledMillis⟩

/-- `Current`. -/
def current (ticket : CaptureTicket) : Bool :=
  !r.cancelled && !r.active && r.proven && ticket.revision == r.revision &&
    ticket.generation == r.generation && fresh settings clock ticket.sampledMillis

/-- `Commit`: what it returns, and the state it leaves. -/
def commit (ticket : CaptureTicket) : Bool × CaptureReadiness :=
  if current settings clock r ticket then (true, { r with active := true }) else (false, r)

/-- `Cancel`. -/
def cancel : CaptureReadiness :=
  { r with cancelled := true, proven := false, revision := r.revision + 1 }

end CaptureReadiness

/-! ### Runs of calls -/

/-- The methods that read or write the state, with their arguments. -/
inductive Op
  | invalidate (generation : ℤ)
  | networkChanged (nowMillis : ℤ)
  | proofBarrier (nowMillis : ℤ)
  | networkEventHandled (event : CaptureNetworkEpoch)
  | beginSample
  | completeSample (sample : CaptureSample) (before after : CaptureWindow) (usableProven : ℤ)
  | ready
  | current (ticket : CaptureTicket)
  | commit (ticket : CaptureTicket)
  | cancel
deriving DecidableEq, Repr

/-- A call: a method, and what the clock says during it. -/
structure Call where
  op : Op
  clock : ℤ
deriving DecidableEq, Repr

/-- The state a call leaves. -/
def Call.apply (settings : CaptureReadinessSettings) (call : Call) (r : CaptureReadiness) :
    CaptureReadiness :=
  match call.op with
  | .invalidate generation => r.invalidate generation
  | .networkChanged nowMillis => r.networkChanged nowMillis
  | .proofBarrier nowMillis => r.proofBarrier nowMillis
  | .networkEventHandled event => r.networkEventHandled event
  | .beginSample => r
  | .completeSample sample before after usableProven =>
    r.completeSample settings call.clock sample before after usableProven
  | .ready => r
  | .current _ => r
  | .commit ticket => (r.commit settings call.clock ticket).2
  | .cancel => r.cancel

/-- A transition of the object. -/
abbrev Event := Transition CaptureReadiness Call

/-- The event is a `BeginSample` that returned the sample. -/
def Event.Begins (e : Event) (sample : CaptureSample) : Prop :=
  e.label.op = .beginSample ∧ e.pre.beginSample e.label.clock = sample

/-- The event is a `Ready` that returned the ticket. -/
def Event.Issues (settings : CaptureReadinessSettings) (e : Event) (ticket : CaptureTicket) :
    Prop :=
  e.label.op = .ready ∧ e.pre.ready settings e.label.clock = some ticket

/-- The event is a `Commit` of the ticket that returned true. -/
def Event.Commits (settings : CaptureReadinessSettings) (e : Event) (ticket : CaptureTicket) :
    Prop :=
  e.label.op = .commit ticket ∧ (e.pre.commit settings e.label.clock ticket).1 = true

/-- The event ends whatever was proven: a network change, a proof barrier, a
cancellation, or an invalidation that is not for an older generation. -/
def Event.Invalidates (e : Event) : Prop :=
  match e.label.op with
  | .networkChanged _ | .proofBarrier _ | .cancel => True
  | .invalidate generation => ¬ generation < e.pre.generation
  | _ => False

/-- A call is made as its callers make it: a sampler completes a sample it began. -/
def Admissible (es : List Event) : Op → Prop
  | .completeSample sample _ _ _ => ∃ b ∈ es, Event.Begins b sample
  | _ => True

/-- One call. -/
def Step (settings : CaptureReadinessSettings) (es : List Event) (r : CaptureReadiness)
    (call : Call) (r' : CaptureReadiness) : Prop :=
  Admissible es call.op ∧ r' = call.apply settings r

/-- The runs of a fresh object. -/
abbrev CaptureRun (settings : CaptureReadinessSettings) : List Event → CaptureReadiness → Prop :=
  Run (fun r => r = {}) (Step settings)

end UrnetworkWindows.Capture
