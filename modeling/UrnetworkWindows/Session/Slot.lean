/-
The slot of the session worker (`SdkHost.cpp`): one request waits in it, and a worker
thread takes it out, runs a pass, and looks again, until it finds the slot empty.

Every access of the slot is under one lock, so each is one step here: a request from any
thread, a cancelled row click, a sign-out that clears the slot, an exit that drops what it
holds, a read of how far the user's gestures have settled, and the worker's own look.  A
coalesced request waits for its deadline, and a worker that sleeps until then is woken by
every change.  What a pass does is not modelled here, only that it takes its time and ends.

The requests that were recorded are kept in the order they came, and what became of each
is written down beside the state (`LosesNoGesture` says what that amounts to).
-/
import UrnetworkWindows.Lib.Trace
import UrnetworkWindows.Lib.OneThread
import UrnetworkWindows.Session.Requests

namespace UrnetworkWindows.SessionSlot

open Lib Session

/-- `SessionRequest`, as far as the slot reads it. -/
structure SessionRequest where
  kind : ConnectKind := .none
  notBefore : ℕ := 0
  coalesced : Bool := false
  gesture : ℕ := 0
deriving DecidableEq, Repr

/-- Where a worker thread is: about to look at the slot, asleep until a deadline, in the
pass of the request with that number, past it and about to publish, or gone. -/
inductive At
  | looking
  | sleeping (deadline : ℕ) (notified : Bool)
  | passing (id : ℕ) (request : SessionRequest)
  | publishing
  | left
deriving DecidableEq, Repr

/-- What became of a recorded request, by its place among the recorded ones, and the reads
of how far the gestures have settled. -/
inductive Event
  | replaced (id later : ℕ)
  | cancelled (id : ℕ)
  | cleared (id : ℕ)
  | dropped (id : ℕ)
  | consumed (id time : ℕ)
  | finished (id : ℕ)
  | read (settled : ℕ)
deriving DecidableEq, Repr

/-- The slot and its worker.  `records` are the requests the slot has held, `pendingId` the
place of the one it holds now among them. -/
structure Slot where
  pending : SessionRequest := {}
  requested : Bool := false
  workerAlive : Bool := false
  gestureIssued : ℕ := 0
  gestureInFlight : ℕ := 0
  quitting : Bool := false
  loggedIn : Bool := false
  now : ℕ := 0
  workers : List At := []
  records : List SessionRequest := []
  pendingId : ℕ := 0
  log : List Event := []
deriving DecidableEq, Repr

/-! ### The steps -/

/-- A sleeper is notified. -/
def At.notify : At → At
  | .sleeping deadline _ => .sleeping deadline true
  | st => st

namespace Slot

variable (s : Slot)

/-- `pendingCv_.notify_all()`. -/
def notifyAll : Slot := { s with workers := s.workers.map At.notify }

/-- In `RequestSession`: the pending request already does what this one asks. -/
def covered (kind : ConnectKind) : Bool :=
  s.requested &&
    ((kind = .none && s.pending.kind ≠ .none && s.pending.kind ≠ .provider) ||
      (kind = .provider && s.pending.kind ≠ .provider))

/-- The number the slot gives a request. -/
def numbered (request : SessionRequest) : SessionRequest :=
  if request.kind.isGesture then { request with gesture := s.gestureIssued + 1 } else request

/-- In `RequestSession`: the last request wins. -/
def record (request : SessionRequest) : Slot :=
  { s with
    gestureIssued := if request.kind.isGesture then s.gestureIssued + 1 else s.gestureIssued
    pending := s.numbered request
    requested := true
    pendingId := s.records.length
    records := s.records ++ [s.numbered request]
    log := s.log ++ if s.requested then [.replaced s.pendingId s.records.length] else [] }

/-- In `RequestSession`: a worker that runs takes the slot, else one is started. -/
def startWorker : Slot :=
  if s.workerAlive then s else { s with workerAlive := true, workers := s.workers ++ [.looking] }

/-- `RequestSession`. -/
def requestSession (request : SessionRequest) : Slot :=
  if s.quitting then s
  else if !admits (fenceWorkOf request.kind) s.loggedIn then s
  else ((if s.covered request.kind then s else s.record request).notifyAll).startWorker

/-- The slot is emptied. -/
def empty (event : ℕ → Event) : Slot :=
  { s with pending := {}, requested := false, log := s.log ++ [event s.pendingId] }

/-- `CancelPendingRowConnect`. -/
def cancelPendingRowConnect : Slot :=
  if s.requested && s.pending.coalesced then (s.empty .cancelled).notifyAll else s

/-- In `Logout`: the signed-out account's queued work goes. -/
def logout : Slot :=
  if s.requested then (s.empty .cleared).notifyAll else { s with pending := {} }.notifyAll

/-- `SettleQueued`, up to its wait for the worker. -/
def settleQueued : Slot :=
  if s.requested && !keepsQueued (queuedOf s.pending.kind) then (s.empty .dropped).notifyAll else s

/-- In `ReadStats`. -/
def gestureSettled : ℕ :=
  settledThrough s.gestureIssued (if s.requested then s.pending.gesture else 0) s.gestureInFlight

/-- The worker `i` goes on to `st`. -/
def move (i : ℕ) (st : At) : Slot := { s with workers := s.workers.set i st }

/-- In `SessionWorkerLoop`: the slot is taken. -/
def take (i : ℕ) : Slot :=
  { (s.empty fun id => .consumed id s.now).move i (.passing s.pendingId s.pending) with
    gestureInFlight := s.pending.gesture }

/-- In `SessionWorkerLoop`: one look at the slot. -/
def look (i : ℕ) : Slot :=
  if s.requested && s.now < s.pending.notBefore then
    s.move i (.sleeping s.pending.notBefore false)
  else if !s.requested then { s.move i .left with workerAlive := false }.notifyAll
  else s.take i

/-- In `SessionWorkerLoop`: the pass is over.  Only a provider's pass leaves the number of
the gesture in flight. -/
def finish (i id : ℕ) (request : SessionRequest) : Slot :=
  { s.move i .publishing with
    gestureInFlight := if request.kind = .provider then s.gestureInFlight else 0
    log := s.log ++ [.finished id] }

/-- A read that a snapshot carries. -/
def readStats : Slot := { s with log := s.log ++ [.read s.gestureSettled] }

end Slot

/-- A request, a cancelled row click, the sign-out, the exit, the quit's latch, the signed-in
flag, the clock, a read, and the worker's moves: it looks, wakes up at its deadline or when
notified, or for no reason, ends its pass, and publishes. -/
inductive Act
  | request (request : SessionRequest)
  | cancel
  | logout
  | settle
  | latch
  | setLoggedIn (value : Bool)
  | tick (ticks : ℕ)
  | read
  | look (worker : ℕ)
  | wake (worker : ℕ)
  | spurious (worker : ℕ)
  | finish (worker : ℕ)
  | publish (worker : ℕ)
deriving DecidableEq, Repr

/-- A step of the worker's own. -/
def Act.worker : Act → Option ℕ
  | .look i => some i
  | .wake i => some i
  | .finish i => some i
  | .publish i => some i
  | _ => none

/-- One step, if it can be taken.  The callers leave the gesture's number to the slot. -/
def step (s : Slot) : Act → Option Slot
  | .request request => if request.gesture = 0 then some (s.requestSession request) else none
  | .cancel => some s.cancelPendingRowConnect
  | .logout => some s.logout
  | .settle => some s.settleQueued
  | .latch => some { s with quitting := true }
  | .setLoggedIn value => some { s with loggedIn := value }
  | .tick ticks => some { s with now := s.now + ticks }
  | .read => some s.readStats
  | .look i =>
    match s.workers[i]? with
    | some .looking => some (s.look i)
    | _ => none
  | .wake i =>
    match s.workers[i]? with
    | some (.sleeping deadline notified) =>
      if notified ∨ deadline ≤ s.now then some (s.move i .looking) else none
    | _ => none
  | .spurious i =>
    match s.workers[i]? with
    | some (.sleeping _ _) => some (s.move i .looking)
    | _ => none
  | .finish i =>
    match s.workers[i]? with
    | some (.passing id request) => some (s.finish i id request)
    | _ => none
  | .publish i =>
    match s.workers[i]? with
    | some .publishing => some (s.readStats.move i .looking)
    | _ => none

/-- The runs, from an empty slot. -/
abbrev Runs : List (Transition Slot Act) → Slot → Prop :=
  Run (fun s => ∃ loggedIn now, s = { loggedIn, now }) fun _ s a s' => step s a = some s'

/-! ### What became of a request -/

/-- The recorded request that an event takes out of the slot. -/
def Event.fate : Event → Option ℕ
  | .replaced id _ => some id
  | .cancelled id => some id
  | .cleared id => some id
  | .dropped id => some id
  | .consumed id _ => some id
  | _ => none

/-- The request that a pass took. -/
def Event.consumedId : Event → Option ℕ
  | .consumed id _ => some id
  | _ => none

/-- The request with that number waits in the slot. -/
def Slot.Waits (s : Slot) (id : ℕ) : Prop := s.requested = true ∧ s.pendingId = id

instance (s : Slot) (id : ℕ) : Decidable (s.Waits id) :=
  inferInstanceAs (Decidable (_ ∧ _))

/-- A request has been passed, replaced, cancelled or dropped. -/
def Settled (log : List Event) (id : ℕ) : Prop :=
  .finished id ∈ log ∨ (∃ later, .replaced id later ∈ log) ∨ .cancelled id ∈ log ∨
    .cleared id ∈ log ∨ .dropped id ∈ log

/-- A thread has not ended. -/
def At.running : At → Bool
  | .left => false
  | _ => true

/-- How many steps a thread is away from taking the slot, at most. -/
def At.toGo : At → ℕ
  | .looking => 1
  | .sleeping _ _ => 2
  | .publishing => 2
  | .passing _ _ => 3
  | .left => 0

/-- What an event says of the requests it names. -/
def Event.Fits (records : List SessionRequest) : Event → Prop
  | .replaced id later => id < later ∧ ∃ r r', records[id]? = some r ∧ records[later]? = some r' ∧
      (r.kind.isGesture = true → r'.kind.isGesture = true)
  | .cancelled id => ∃ r, records[id]? = some r ∧ r.coalesced = true
  | .cleared id => ∃ r, records[id]? = some r
  | .dropped id => ∃ r, records[id]? = some r ∧ r.kind ≠ .disconnect
  | .consumed id time => ∃ r, records[id]? = some r ∧ r.notBefore ≤ time
  | .finished id => ∃ r, records[id]? = some r
  | .read _ => True

/-- The slot loses no gesture, and the last one wins. -/
structure LosesNoGesture (s : Slot) : Prop where
  one : ∀ (i j : ℕ) (st st' : At), s.workers[i]? = some st → st.running = true →
    s.workers[j]? = some st' → st'.running = true → i = j
  alive : s.requested = true → s.workerAlive = true
  /-- A recorded request waits, or it was taken out of the slot just once: by a pass, unless a
  later request replaced it, or it was cancelled, cleared or dropped. -/
  fates : ∀ id, id < s.records.length →
    s.log.countP (·.fate = some id) = if s.Waits id then 0 else 1
  /-- Passes wait for the deadline, only row clicks are cancelled, an exit keeps a Disconnect,
  and a connect or a Disconnect gives way only to a later one. -/
  fits : ∀ e ∈ s.log, e.Fits s.records
  order : (s.log.filterMap Event.consumedId).Pairwise (· < ·)
  /-- Every gesture up to the number a read found had settled before the read. -/
  settled : ∀ before n after, s.log = before ++ .read n :: after → ∀ g, 1 ≤ g → g ≤ n →
    ∃ (id : ℕ) (r : SessionRequest), s.records[id]? = some r ∧ r.kind.isGesture = true ∧
      r.gesture = g ∧ Settled before id
  /-- While a request waits, a worker is at most three steps away from taking the slot.  Once
  the deadline has passed it can go on, and comes nearer with every step; what others do
  takes it no further away. -/
  goes : s.requested = true → ∃ (i : ℕ) (st : At), s.workers[i]? = some st ∧ st.toGo ≤ 3 ∧
    (s.pending.notBefore ≤ s.now → (∃ a s', a.worker = some i ∧ step s a = some s') ∧
      ∀ a s', a.worker = some i → step s a = some s' →
        .consumed s.pendingId s.now ∈ s'.log ∨
          ∃ st' : At, s'.workers[i]? = some st' ∧ st'.toGo < st.toGo) ∧
    ∀ a s', a.worker ≠ some i → step s a = some s' →
      ∃ st' : At, s'.workers[i]? = some st' ∧ st'.toGo ≤ st.toGo

/-! ### The worker threads -/

@[simp] lemma At.running_notify (st : At) : st.notify.running = st.running := by
  cases st <;> rfl

@[simp] lemma At.toGo_notify (st : At) : st.notify.toGo = st.toGo := by
  cases st <;> rfl

lemma At.notify_eq_passing {st : At} {id : ℕ} {r : SessionRequest} :
    st.notify = .passing id r ↔ st = .passing id r := by
  cases st <;> simp [At.notify]

lemma At.notify_ne_sleeping (st : At) (deadline : ℕ) : st.notify ≠ .sleeping deadline false := by
  cases st <;> simp [At.notify]

lemma getElem?_notify {workers : List At} {i : ℕ} {st : At}
    (h : (workers.map At.notify)[i]? = some st) : ∃ st₀, workers[i]? = some st₀ ∧
      st = st₀.notify := by
  rw [List.getElem?_map] at h
  obtain ⟨st₀, hi, rfl⟩ := Option.map_eq_some_iff.1 h
  exact ⟨st₀, hi, rfl⟩

/-- At most one worker runs, and the flag says whether one does. -/
abbrev OneWorker (workers : List At) (alive : Bool) : Prop := OneThread At.running workers alive

/-! ### The recorded requests -/

lemma Event.Fits.mono {records : List SessionRequest} {e : Event} (h : e.Fits records)
    (r : SessionRequest) : e.Fits (records ++ [r]) := by
  have hkeep : ∀ (id : ℕ) (x : SessionRequest), records[id]? = some x →
      (records ++ [r])[id]? = some x := by
    intro id x hx
    rw [List.getElem?_append_left (List.getElem?_eq_some_iff.1 hx).1]
    exact hx
  cases e with
  | replaced id later =>
    obtain ⟨hlt, x, y, hx, hy, hkind⟩ := h
    exact ⟨hlt, x, y, hkeep _ _ hx, hkeep _ _ hy, hkind⟩
  | cancelled id =>
    obtain ⟨x, hx, hcoalesced⟩ := h
    exact ⟨x, hkeep _ _ hx, hcoalesced⟩
  | cleared id | finished id =>
    obtain ⟨x, hx⟩ := h
    exact ⟨x, hkeep _ _ hx⟩
  | dropped id =>
    obtain ⟨x, hx, hkind⟩ := h
    exact ⟨x, hkeep _ _ hx, hkind⟩
  | consumed id time =>
    obtain ⟨x, hx, htime⟩ := h
    exact ⟨x, hkeep _ _ hx, htime⟩
  | read n => trivial

lemma Event.fate_of_consumedId {e : Event} {id : ℕ} (h : e.consumedId = some id) :
    e.fate = some id := by
  cases e with
  | consumed => exact h
  | _ => cases h

/-- The account of the recorded requests. -/
structure Ledger (s : Slot) : Prop where
  pending : s.requested = true → s.records[s.pendingId]? = some s.pending
  last : s.requested = true → s.pendingId + 1 = s.records.length
  numbers : (s.records.filter (·.kind.isGesture)).map (·.gesture) = List.range' 1 s.gestureIssued
  unnumbered : ∀ r ∈ s.records, r.kind.isGesture = false → r.gesture = 0
  fates : ∀ id, s.log.countP (·.fate = some id) =
    if id < s.records.length ∧ ¬ s.Waits id then 1 else 0
  fits : ∀ e ∈ s.log, e.Fits s.records
  order : (s.log.filterMap Event.consumedId).Pairwise (· < ·)

namespace Ledger

variable {s s' : Slot}

lemma init (loggedIn : Bool) (now : ℕ) : Ledger { loggedIn, now } where
  pending := nofun
  last := nofun
  numbers := rfl
  unnumbered := by simp
  fates id := by simp
  fits := by simp
  order := .nil

lemma of_eq (h : Ledger s) (hpending : s'.pending = s.pending)
    (hrequested : s'.requested = s.requested) (hid : s'.pendingId = s.pendingId)
    (hrecords : s'.records = s.records) (hissued : s'.gestureIssued = s.gestureIssued)
    (hlog : s'.log = s.log) : Ledger s' := by
  have hwaits : ∀ id, s'.Waits id ↔ s.Waits id := by
    intro id
    rw [Slot.Waits, Slot.Waits, hrequested, hid]
  constructor
  · rw [hrequested, hrecords, hid, hpending]
    exact h.pending
  · rw [hrequested, hrecords, hid]
    exact h.last
  · rw [hrecords, hissued]
    exact h.numbers
  · rw [hrecords]
    exact h.unnumbered
  · intro id
    simp only [hlog, hrecords, hwaits]
    exact h.fates id
  · rw [hlog, hrecords]
    exact h.fits
  · rw [hlog]
    exact h.order

lemma number (h : Ledger s) {id : ℕ} {r : SessionRequest} (hr : s.records[id]? = some r)
    (hkind : r.kind.isGesture = true) : 1 ≤ r.gesture ∧ r.gesture ≤ s.gestureIssued := by
  have hmem : r.gesture ∈ (s.records.filter (·.kind.isGesture)).map (·.gesture) :=
    List.mem_map_of_mem (List.mem_filter.2 ⟨List.mem_of_getElem? hr, hkind⟩)
  rw [h.numbers, List.mem_range'_1] at hmem
  omega

lemma gesture_le (h : Ledger s) {id : ℕ} {r : SessionRequest} (hr : s.records[id]? = some r) :
    r.gesture ≤ s.gestureIssued := by
  cases hkind : r.kind.isGesture with
  | true => exact (h.number hr hkind).2
  | false =>
    rw [h.unnumbered r (List.mem_of_getElem? hr) hkind]
    exact Nat.zero_le _

lemma exists_gesture (h : Ledger s) {g : ℕ} (hpos : 1 ≤ g) (hle : g ≤ s.gestureIssued) :
    ∃ (id : ℕ) (r : SessionRequest), s.records[id]? = some r ∧ r.kind.isGesture = true ∧
      r.gesture = g := by
  have hmem : g ∈ (s.records.filter (·.kind.isGesture)).map (·.gesture) := by
    rw [h.numbers, List.mem_range'_1]
    omega
  obtain ⟨r, hr, rfl⟩ := List.mem_map.1 hmem
  obtain ⟨hr, hkind⟩ := List.mem_filter.1 hr
  obtain ⟨id, hid⟩ := List.mem_iff_getElem?.1 hr
  exact ⟨id, r, hid, hkind, rfl⟩

lemma lt_of_fate (h : Ledger s) {e : Event} (he : e ∈ s.log) {id : ℕ} (hfate : e.fate = some id) :
    id < s.records.length ∧ (s.requested = true → id < s.pendingId) := by
  have hpos : 0 < s.log.countP (·.fate = some id) :=
    List.countP_pos_iff.2 ⟨e, he, by simp [hfate]⟩
  rw [h.fates id] at hpos
  split_ifs at hpos with hid
  · refine ⟨hid.1, fun hrequested => ?_⟩
    have hlast := h.last hrequested
    have hne : s.pendingId ≠ id := fun heq => hid.2 ⟨hrequested, heq⟩
    omega
  · exact absurd hpos (by omega)

lemma note (h : Ledger s) {e : Event} (hfate : e.fate = none) (hfits : e.Fits s.records) :
    Ledger { s with log := s.log ++ [e] } where
  pending := h.pending
  last := h.last
  numbers := h.numbers
  unnumbered := h.unnumbered
  fates id := by
    rw [List.countP_append, h.fates id]
    simp [hfate, Slot.Waits]
  fits := List.forall_mem_append.2 ⟨h.fits, by simpa using hfits⟩
  order := by
    have hnone : e.consumedId = none := by
      cases e <;> first | rfl | exact absurd hfate nofun
    rw [List.filterMap_append]
    simpa [hnone] using h.order

lemma empty (h : Ledger s) {event : ℕ → Event} (hrequested : s.requested = true)
    (hfate : (event s.pendingId).fate = some s.pendingId)
    (hfits : (event s.pendingId).Fits s.records) : Ledger (s.empty event) where
  pending := nofun
  last := nofun
  numbers := h.numbers
  unnumbered := h.unnumbered
  fates id := by
    have hlast := h.last hrequested
    rw [Slot.empty, List.countP_append, h.fates id]
    simp only [Slot.Waits, hrequested, List.countP_singleton, hfate, Option.some.injEq, true_and,
      decide_eq_true_eq, Bool.false_eq_true, false_and, not_false_eq_true, and_true]
    split_ifs <;> omega
  fits := List.forall_mem_append.2 ⟨h.fits, List.forall_mem_singleton.2 hfits⟩
  order := by
    rw [Slot.empty, List.filterMap_append, List.pairwise_append]
    refine ⟨h.order, ?_, ?_⟩
    · cases hid : (event s.pendingId).consumedId <;> simp [hid]
    · intro a ha b hb
      obtain ⟨e, he, ha⟩ := List.mem_filterMap.1 ha
      obtain ⟨e', he', hb⟩ := List.mem_filterMap.1 hb
      obtain rfl := List.mem_singleton.1 he'
      rw [Event.fate_of_consumedId hb, Option.some.injEq] at hfate
      rw [hfate]
      exact (h.lt_of_fate he (Event.fate_of_consumedId ha)).2 hrequested

lemma record (h : Ledger s) {request : SessionRequest} (hgesture : request.gesture = 0)
    (hcovered : s.covered request.kind = false) : Ledger (s.record request) := by
  have hkind : (s.numbered request).kind = request.kind := by
    unfold Slot.numbered
    split <;> rfl
  constructor
  · intro _
    simp [Slot.record]
  · intro _
    simp [Slot.record]
  · simp only [Slot.record, List.filter_append, List.map_append, h.numbers]
    cases hg : request.kind.isGesture with
    | true =>
      rw [if_pos rfl, List.range'_1_concat]
      simp [Slot.numbered, hg, Nat.add_comm]
    | false => simp [Slot.numbered, hg]
  · intro r hr hg
    rcases List.mem_append.1 hr with hr | hr
    · exact h.unnumbered r hr hg
    · obtain rfl := List.mem_singleton.1 hr
      rw [hkind] at hg
      simp [Slot.numbered, hg, hgesture]
  · intro id
    simp only [Slot.record, Slot.Waits, List.countP_append, h.fates id, List.length_append,
      List.length_singleton, true_and]
    by_cases hrequested : s.requested = true
    · have hlast := h.last hrequested
      rw [if_pos hrequested, List.countP_singleton]
      simp only [hrequested, true_and, Event.fate, Option.some.injEq, decide_eq_true_eq]
      split_ifs <;> omega
    · rw [if_neg hrequested, List.countP_nil]
      simp only [hrequested, false_and, not_false_eq_true, and_true, Bool.false_eq_true]
      split_ifs <;> omega
  · intro e he
    rcases List.mem_append.1 he with he | he
    · exact (h.fits e he).mono _
    · split_ifs at he with hrequested
      · obtain rfl := List.mem_singleton.1 he
        have hpending := h.pending hrequested
        have hlt := (List.getElem?_eq_some_iff.1 hpending).1
        refine ⟨hlt, s.pending, s.numbered request, ?_, by simp [Slot.record], ?_⟩
        · simp only [Slot.record]
          rw [List.getElem?_append_left hlt]
          exact hpending
        · -- an ensure or a reconcile is covered by a gesture
          intro hg
          rw [hkind]
          cases hk : request.kind <;> cases hp : s.pending.kind <;>
            simp [Slot.covered, ConnectKind.isGesture, ConnectKind.connects, hk, hp, hrequested]
              at hcovered hg ⊢
      · exact absurd he (by simp)
  · have hnone : (if s.requested then [Event.replaced s.pendingId s.records.length] else
        []).filterMap Event.consumedId = [] := by
      split <;> rfl
    simp only [Slot.record]
    rw [List.filterMap_append, hnone, List.append_nil]
    exact h.order

end Ledger

lemma Settled.append {log : List Event} {id : ℕ} (h : Settled log id) (events : List Event) :
    Settled (log ++ events) id := by
  rcases h with hfin | ⟨later, hrep⟩ | hcan | hcle | hdro
  · exact .inl (List.mem_append_left _ hfin)
  · exact .inr (.inl ⟨later, List.mem_append_left _ hrep⟩)
  · exact .inr (.inr (.inl (List.mem_append_left _ hcan)))
  · exact .inr (.inr (.inr (.inl (List.mem_append_left _ hcle))))
  · exact .inr (.inr (.inr (.inr (List.mem_append_left _ hdro))))

/-! ### The passes and the reads -/

/-- Where the requests are, and what the reads found. -/
structure Passes (s : Slot) : Prop where
  passing : ∀ (i id : ℕ) (r : SessionRequest), s.workers[i]? = some (At.passing id r) →
    s.records[id]? = some r ∧ s.gestureInFlight = r.gesture
  inFlight : s.gestureInFlight ≠ 0 → ∃ (i id : ℕ) (r : SessionRequest),
    s.workers[i]? = some (At.passing id r)
  settles : ∀ (id : ℕ) (r : SessionRequest), s.records[id]? = some r →
    s.Waits id ∨ (∃ i : ℕ, s.workers[i]? = some (At.passing id r)) ∨ Settled s.log id
  reads : ∀ before n after, s.log = before ++ .read n :: after → n ≤ s.gestureIssued ∧
    ∀ (id : ℕ) (r : SessionRequest), s.records[id]? = some r → r.kind.isGesture = true →
      r.gesture ≤ n → Settled before id

namespace Passes

variable {s s' : Slot}

lemma init (loggedIn : Bool) (now : ℕ) : Passes { loggedIn, now } where
  passing i id r hi := absurd hi (by simp)
  inFlight h := absurd rfl h
  settles id r hr := absurd hr (by simp)
  reads before n after h := absurd h (by simp)

lemma of_eq (h : Passes s)
    (hworkers : ∀ (i id : ℕ) (r : SessionRequest),
      s'.workers[i]? = some (At.passing id r) ↔ s.workers[i]? = some (At.passing id r))
    (hinFlight : s'.gestureInFlight = s.gestureInFlight) (hrequested : s'.requested = s.requested)
    (hid : s'.pendingId = s.pendingId) (hrecords : s'.records = s.records)
    (hissued : s'.gestureIssued = s.gestureIssued) (hlog : s'.log = s.log) : Passes s' := by
  have hwaits : ∀ id, s'.Waits id ↔ s.Waits id := by
    intro id
    rw [Slot.Waits, Slot.Waits, hrequested, hid]
  constructor
  · intro i id r hi
    rw [hrecords, hinFlight]
    exact h.passing i id r ((hworkers i id r).1 hi)
  · intro hne
    rw [hinFlight] at hne
    obtain ⟨i, id, r, hi⟩ := h.inFlight hne
    exact ⟨i, id, r, (hworkers i id r).2 hi⟩
  · intro id r hr
    rw [hrecords] at hr
    rw [hwaits, hlog]
    rcases h.settles id r hr with hw | ⟨i, hi⟩ | hset
    · exact .inl hw
    · exact .inr (.inl ⟨i, (hworkers i id r).2 hi⟩)
    · exact .inr (.inr hset)
  · rw [hlog, hissued, hrecords]
    exact h.reads

lemma inFlight_le (h : Passes s) (hledger : Ledger s) : s.gestureInFlight ≤ s.gestureIssued := by
  by_cases hne : s.gestureInFlight = 0
  · omega
  · obtain ⟨i, id, r, hi⟩ := h.inFlight hne
    obtain ⟨hr, heq⟩ := h.passing i id r hi
    rw [heq]
    exact hledger.gesture_le hr

lemma reads_snoc (h : Passes s) {e : Event} (he : ∀ n, e ≠ .read n) {before after : List Event}
    {n : ℕ} (hlog : s.log ++ [e] = before ++ .read n :: after) : n ≤ s.gestureIssued ∧
      ∀ (id : ℕ) (r : SessionRequest), s.records[id]? = some r → r.kind.isGesture = true →
        r.gesture ≤ n → Settled before id := by
  rcases eq_or_mem_of_snoc hlog with ⟨-, -, heq⟩ | ⟨after', -, hlog'⟩
  · exact absurd heq (he n)
  · exact h.reads before n after' hlog'

lemma empty (h : Passes s) {event : ℕ → Event} (hread : ∀ n, event s.pendingId ≠ .read n)
    (hsettled : Settled [event s.pendingId] s.pendingId) : Passes (s.empty event) where
  passing := h.passing
  inFlight := h.inFlight
  settles id r hr := by
    rcases h.settles id r hr with hw | hpass | hset
    · obtain ⟨-, rfl⟩ := hw
      refine .inr (.inr ?_)
      rcases hsettled with hfin | ⟨later, hrep⟩ | hcan | hcle | hdro
      · exact .inl (List.mem_append_right _ hfin)
      · exact .inr (.inl ⟨later, List.mem_append_right _ hrep⟩)
      · exact .inr (.inr (.inl (List.mem_append_right _ hcan)))
      · exact .inr (.inr (.inr (.inl (List.mem_append_right _ hcle))))
      · exact .inr (.inr (.inr (.inr (List.mem_append_right _ hdro))))
    · exact .inr (.inl hpass)
    · exact .inr (.inr (hset.append _))
  reads before n after hlog := h.reads_snoc hread hlog

lemma record (h : Passes s) (request : SessionRequest) : Passes (s.record request) := by
  have hold : ∀ (id : ℕ) (r : SessionRequest), s.records[id]? = some r →
      (s.record request).records[id]? = some r := by
    intro id r hr
    simp only [Slot.record]
    rw [List.getElem?_append_left (List.getElem?_eq_some_iff.1 hr).1]
    exact hr
  constructor
  · intro i id r hi
    obtain ⟨hr, heq⟩ := h.passing i id r hi
    exact ⟨hold id r hr, heq⟩
  · exact h.inFlight
  · intro id r hr
    rcases getElem?_snoc_cases hr with hr | ⟨rfl, rfl⟩
    · rcases h.settles id r hr with hw | hpass | hset
      · obtain ⟨hrequested, rfl⟩ := hw
        refine .inr (.inr (.inr (.inl ⟨s.records.length, ?_⟩)))
        simp [Slot.record, hrequested]
      · exact .inr (.inl hpass)
      · exact .inr (.inr (hset.append _))
    · exact .inl ⟨rfl, rfl⟩
  · intro before n after hlog
    have hread : n ≤ s.gestureIssued ∧ ∀ (id : ℕ) (r : SessionRequest), s.records[id]? = some r →
        r.kind.isGesture = true → r.gesture ≤ n → Settled before id := by
      simp only [Slot.record] at hlog
      split_ifs at hlog with hrequested
      · exact h.reads_snoc (by simp) hlog
      · rw [List.append_nil] at hlog
        exact h.reads before n after hlog
    refine ⟨?_, ?_⟩
    · simp only [Slot.record]
      split_ifs <;> omega
    · intro id r hr hg hle
      rcases getElem?_snoc_cases hr with hr | ⟨-, rfl⟩
      · exact hread.2 id r hr hg hle
      · -- the new request's number is past every read
        unfold Slot.numbered at hg hle
        split_ifs at hg hle with hkind
        · simp only at hle
          omega
        · exact absurd hg hkind

lemma take (h : Passes s) (hledger : Ledger s) (hone : OneWorker s.workers s.workerAlive) {i : ℕ}
    (hi : s.workers[i]? = some .looking) (hrequested : s.requested = true) :
    Passes (s.take i) := by
  have hlt : i < s.workers.length := (List.getElem?_eq_some_iff.1 hi).1
  have hnew : (s.take i).workers[i]? = some (.passing s.pendingId s.pending) := by
    simp [Slot.take, Slot.move, Slot.empty, hlt]
  have hpass : ∀ (j id : ℕ) (r : SessionRequest), (s.take i).workers[j]? =
      some (At.passing id r) → id = s.pendingId ∧ r = s.pending := by
    intro j id r hj
    rcases getElem?_set_cases hj with ⟨-, heq⟩ | ⟨hne, hj⟩
    · simpa using heq
    · exact absurd (hone.one _ _ _ _ hi rfl hj rfl) hne
  constructor
  · intro j id r hj
    obtain ⟨rfl, rfl⟩ := hpass j id r hj
    exact ⟨hledger.pending hrequested, rfl⟩
  · exact fun _ => ⟨i, _, _, hnew⟩
  · intro id r hr
    rcases h.settles id r hr with hw | ⟨j, hj⟩ | hset
    · obtain ⟨-, rfl⟩ := hw
      have hpending := hledger.pending hrequested
      obtain rfl : s.pending = r := Option.some.inj (hpending.symm.trans hr)
      exact .inr (.inl ⟨i, hnew⟩)
    · have heq := hone.one _ _ _ _ hi rfl hj rfl
      rw [← heq, hi] at hj
      cases hj
    · exact .inr (.inr (hset.append _))
  · exact fun before n after hlog => h.reads_snoc (by simp) hlog

lemma finish (h : Passes s) (hledger : Ledger s) (hone : OneWorker s.workers s.workerAlive)
    {i id : ℕ} {r : SessionRequest} (hi : s.workers[i]? = some (At.passing id r)) :
    Passes (s.finish i id r) := by
  have hnone : ∀ (j id' : ℕ) (r' : SessionRequest),
      (s.finish i id r).workers[j]? ≠ some (At.passing id' r') := by
    intro j id' r' hj
    rcases getElem?_set_cases hj with ⟨-, heq⟩ | ⟨hne, hj⟩
    · cases heq
    · exact hne (hone.one _ _ _ _ hi rfl hj rfl)
  obtain ⟨hr, hinFlight⟩ := h.passing i id r hi
  have hzero : (s.finish i id r).gestureInFlight = 0 := by
    simp only [Slot.finish]
    split_ifs with hkind
    · rw [hinFlight]
      refine hledger.unnumbered r (List.mem_of_getElem? hr) ?_
      rw [hkind]
      rfl
    · rfl
  constructor
  · exact fun j id' r' hj => absurd hj (hnone j id' r')
  · exact fun hne => absurd hzero hne
  · intro id' r' hr'
    rcases h.settles id' r' hr' with hw | ⟨j, hj⟩ | hset
    · exact .inl hw
    · obtain rfl := hone.one _ _ _ _ hi rfl hj rfl
      rw [hi, Option.some.injEq, At.passing.injEq] at hj
      refine .inr (.inr (.inl ?_))
      simp [Slot.finish, hj.1]
    · exact .inr (.inr (hset.append _))
  · exact fun before n after hlog => h.reads_snoc (by simp) hlog

lemma readStats (h : Passes s) (hledger : Ledger s) : Passes s.readStats where
  passing := h.passing
  inFlight := h.inFlight
  settles id r hr := by
    rcases h.settles id r hr with hw | hpass | hset
    · exact .inl hw
    · exact .inr (.inl hpass)
    · exact .inr (.inr (hset.append _))
  reads before n after hlog := by
    rcases eq_or_mem_of_snoc hlog with ⟨-, rfl, heq⟩ | ⟨after', -, hlog'⟩
    · obtain rfl : s.gestureSettled = n := Event.read.inj heq
      constructor
      · refine settledThrough_le ?_ (h.inFlight_le hledger)
        split_ifs with hrequested
        · exact hledger.gesture_le (hledger.pending hrequested)
        · exact Nat.zero_le _
      · intro id r hr hg hle
        have hpos := (hledger.number hr hg).1
        rcases h.settles id r hr with ⟨hrequested, rfl⟩ | ⟨i, hi⟩ | hset
        · cases (hledger.pending hrequested).symm.trans hr
          have hlt : settledThrough s.gestureIssued s.pending.gesture s.gestureInFlight <
              s.pending.gesture := settledThrough_lt_pending (by omega)
          simp only [Slot.gestureSettled, hrequested, if_true] at hle
          omega
        · have heq' := (h.passing i id r hi).2
          have hlt : s.gestureSettled < s.gestureInFlight :=
            settledThrough_lt_inFlight (by omega)
          omega
        · exact hset
    · exact h.reads before n after' hlog'

end Passes

/-! ### Every step -/

/-- A worker sleeps towards the deadline of the request that waits, or has been notified. -/
def Sleeps (s : Slot) : Prop :=
  ∀ (i deadline : ℕ), s.workers[i]? = some (.sleeping deadline false) →
    s.requested = true ∧ s.pending.notBefore = deadline

/-- The invariant. -/
structure Ok (s : Slot) : Prop where
  one : OneWorker s.workers s.workerAlive
  ledger : Ledger s
  passes : Passes s
  sleeps : Sleeps s
  alive : s.requested = true → s.workerAlive = true

namespace Ok

variable {s s' : Slot} {i : ℕ} {st : At}

lemma init (loggedIn : Bool) (now : ℕ) : Ok { loggedIn, now } where
  one := .nil
  ledger := .init loggedIn now
  passes := .init loggedIn now
  sleeps i deadline hi := absurd hi (by simp)
  alive := nofun

lemma sleeps_notifyAll (s : Slot) : Sleeps s.notifyAll := by
  intro i deadline hi
  obtain ⟨st, -, hst⟩ := getElem?_notify hi
  exact absurd hst.symm (st.notify_ne_sleeping deadline)

lemma notifyAll (hone : OneWorker s.workers s.workerAlive) (hledger : Ledger s)
    (hpasses : Passes s) (halive : s.requested = true → s.workerAlive = true) : Ok s.notifyAll where
  one := hone.map At.running_notify
  ledger := hledger.of_eq rfl rfl rfl rfl rfl rfl
  passes := by
    refine hpasses.of_eq ?_ rfl rfl rfl rfl rfl rfl
    intro i id r
    simp only [Slot.notifyAll, List.getElem?_map, Option.map_eq_some_iff, At.notify_eq_passing,
      exists_eq_right]
  sleeps := sleeps_notifyAll s
  alive := halive

lemma empty (h : Ok s) {event : ℕ → Event} (hrequested : s.requested = true)
    (hfate : (event s.pendingId).fate = some s.pendingId)
    (hfits : (event s.pendingId).Fits s.records)
    (hread : ∀ n, event s.pendingId ≠ .read n)
    (hsettled : Settled [event s.pendingId] s.pendingId) : Ok (s.empty event).notifyAll :=
  notifyAll h.one (h.ledger.empty hrequested hfate hfits) (h.passes.empty hread hsettled) nofun

lemma move (h : Ok s) {st' : At} (hi : s.workers[i]? = some st) (hst : st.running = true)
    (hst' : st'.running = true) (hno : ∀ id r, st ≠ .passing id r)
    (hno' : ∀ id r, st' ≠ .passing id r)
    (hsleeps : ∀ deadline, st' = .sleeping deadline false →
      s.requested = true ∧ s.pending.notBefore = deadline) : Ok (s.move i st') where
  one := h.one.set hi hst hst'
  ledger := h.ledger.of_eq rfl rfl rfl rfl rfl rfl
  passes := by
    refine h.passes.of_eq ?_ rfl rfl rfl rfl rfl rfl
    intro j id r
    by_cases hij : i = j
    · subst hij
      have hlt := (List.getElem?_eq_some_iff.1 hi).1
      simp only [Slot.move, List.getElem?_set_self hlt, hi, Option.some.injEq, hno, hno']
    · rw [Slot.move, List.getElem?_set_ne hij]
  sleeps := by
    intro j deadline hj
    rcases getElem?_set_cases hj with ⟨-, heq⟩ | ⟨-, hj'⟩
    · exact hsleeps deadline heq.symm
    · exact h.sleeps j deadline hj'
  alive := h.alive

lemma startWorker (hone : OneWorker s.workers s.workerAlive) (hledger : Ledger s)
    (hpasses : Passes s) (hsleeps : Sleeps s) : Ok s.startWorker := by
  unfold Slot.startWorker
  split
  next halive => exact ⟨hone, hledger, hpasses, hsleeps, fun _ => halive⟩
  next halive =>
    have hnew : ∀ (j : ℕ) (x : At), x ≠ .looking →
        ((s.workers ++ [.looking])[j]? = some x ↔ s.workers[j]? = some x) := by
      intro j x hx
      constructor
      · intro hj
        rcases getElem?_snoc_cases hj with hj | ⟨-, rfl⟩
        · exact hj
        · exact absurd rfl hx
      · intro hj
        rw [List.getElem?_append_left (List.getElem?_eq_some_iff.1 hj).1]
        exact hj
    rw [Bool.not_eq_true] at halive
    rw [halive] at hone
    constructor
    · exact hone.start rfl
    · exact hledger.of_eq rfl rfl rfl rfl rfl rfl
    · exact hpasses.of_eq (fun j id r => hnew j _ nofun) rfl rfl rfl rfl rfl rfl
    · exact fun j deadline hj => hsleeps j deadline ((hnew j (.sleeping deadline false) nofun).1 hj)
    · exact fun _ => rfl

lemma requestSession (h : Ok s) {request : SessionRequest} (hgesture : request.gesture = 0) :
    Ok (s.requestSession request) := by
  unfold Slot.requestSession
  split_ifs with hquit hfence hcovered
  · exact h
  · exact h
  · have hok := notifyAll h.one h.ledger h.passes h.alive
    exact startWorker hok.one hok.ledger hok.passes hok.sleeps
  · rw [Bool.not_eq_true] at hcovered
    have hledger := h.ledger.record hgesture hcovered
    have hpasses := h.passes.record request
    refine startWorker (h.one.map At.running_notify) (hledger.of_eq rfl rfl rfl rfl rfl rfl) ?_
      (sleeps_notifyAll _)
    refine hpasses.of_eq ?_ rfl rfl rfl rfl rfl rfl
    intro i id r
    simp only [Slot.notifyAll, List.getElem?_map, Option.map_eq_some_iff, At.notify_eq_passing,
      exists_eq_right]

lemma cancelPendingRowConnect (h : Ok s) : Ok s.cancelPendingRowConnect := by
  unfold Slot.cancelPendingRowConnect
  split_ifs with hcancel
  · obtain ⟨hrequested, hcoalesced⟩ := (Bool.and_eq_true _ _).mp hcancel
    refine h.empty hrequested rfl ⟨s.pending, h.ledger.pending hrequested, hcoalesced⟩ nofun ?_
    exact .inr (.inr (.inl (List.mem_singleton_self _)))
  · exact h

lemma logout (h : Ok s) : Ok s.logout := by
  unfold Slot.logout
  split_ifs with hrequested
  · refine h.empty hrequested rfl ⟨s.pending, h.ledger.pending hrequested⟩ nofun ?_
    exact .inr (.inr (.inr (.inl (List.mem_singleton_self _))))
  · refine notifyAll h.one ⟨fun hreq => absurd hreq hrequested, h.ledger.last, h.ledger.numbers,
      h.ledger.unnumbered, h.ledger.fates, h.ledger.fits, h.ledger.order⟩ ?_ h.alive
    exact h.passes.of_eq (fun _ _ _ => Iff.rfl) rfl rfl rfl rfl rfl rfl

lemma settleQueued (h : Ok s) : Ok s.settleQueued := by
  unfold Slot.settleQueued
  split_ifs with hdrop
  · obtain ⟨hrequested, hkeep⟩ := (Bool.and_eq_true _ _).mp hdrop
    refine h.empty hrequested rfl ⟨s.pending, h.ledger.pending hrequested, ?_⟩ nofun ?_
    · intro hkind
      rw [(keepsQueued_queuedOf _).2 hkind] at hkeep
      cases hkeep
    · exact .inr (.inr (.inr (.inr (List.mem_singleton_self _))))
  · exact h

lemma readStats (h : Ok s) : Ok s.readStats where
  one := h.one
  ledger := h.ledger.note rfl trivial
  passes := h.passes.readStats h.ledger
  sleeps := h.sleeps
  alive := h.alive

lemma look (h : Ok s) (hi : s.workers[i]? = some .looking) : Ok (s.look i) := by
  unfold Slot.look
  split_ifs with hearly hempty
  · rw [Bool.and_eq_true] at hearly
    refine h.move hi rfl rfl nofun nofun ?_
    intro deadline heq
    obtain ⟨rfl, -⟩ := At.sleeping.inj heq
    exact ⟨hearly.1, rfl⟩
  · -- the slot is empty, and the worker ends under the lock
    have hrequested : s.requested = false := by simpa using hempty
    refine notifyAll (h.one.leave hi rfl rfl) (h.ledger.of_eq rfl rfl rfl rfl rfl rfl) ?_ ?_
    · refine h.passes.of_eq ?_ rfl rfl rfl rfl rfl rfl
      intro j id r
      by_cases hij : i = j
      · subst hij
        have hlt := (List.getElem?_eq_some_iff.1 hi).1
        simp only [Slot.move, List.getElem?_set_self hlt, hi, Option.some.injEq, reduceCtorEq]
      · rw [Slot.move, List.getElem?_set_ne hij]
    · intro hreq
      exact absurd (hrequested.symm.trans hreq) nofun
  · have hrequested : s.requested = true := by simpa using hempty
    have hdue : s.pending.notBefore ≤ s.now := by simpa [hrequested] using hearly
    have hledger : Ledger (s.empty fun id => .consumed id s.now) :=
      h.ledger.empty hrequested rfl ⟨s.pending, h.ledger.pending hrequested, hdue⟩
    constructor
    · exact h.one.set hi rfl rfl
    · exact hledger.of_eq rfl rfl rfl rfl rfl rfl
    · exact h.passes.take h.ledger h.one hi hrequested
    · intro j deadline hj
      rcases getElem?_set_cases hj with ⟨-, heq⟩ | ⟨hne, hj'⟩
      · cases heq
      · exact absurd (h.one.one _ _ _ _ hi rfl hj' rfl) hne
    · exact nofun

lemma finish (h : Ok s) {id : ℕ} {r : SessionRequest}
    (hi : s.workers[i]? = some (.passing id r)) : Ok (s.finish i id r) where
  one := h.one.set hi rfl rfl
  ledger := by
    refine (h.ledger.note (e := .finished id) rfl ?_).of_eq rfl rfl rfl rfl rfl rfl
    exact ⟨r, (h.passes.passing i id r hi).1⟩
  passes := h.passes.finish h.ledger h.one hi
  sleeps := by
    intro j deadline hj
    rcases getElem?_set_cases hj with ⟨-, heq⟩ | ⟨-, hj'⟩
    · cases heq
    · exact h.sleeps j deadline hj'
  alive := h.alive

lemma of_eq (h : Ok s) (hworkers : s'.workers = s.workers) (halive : s'.workerAlive = s.workerAlive)
    (hpending : s'.pending = s.pending) (hrequested : s'.requested = s.requested)
    (hid : s'.pendingId = s.pendingId) (hrecords : s'.records = s.records)
    (hissued : s'.gestureIssued = s.gestureIssued)
    (hinFlight : s'.gestureInFlight = s.gestureInFlight) (hlog : s'.log = s.log) : Ok s' := by
  constructor
  · rw [hworkers, halive]
    exact h.one
  · exact h.ledger.of_eq hpending hrequested hid hrecords hissued hlog
  · refine h.passes.of_eq ?_ hinFlight hrequested hid hrecords hissued hlog
    intro i id r
    rw [hworkers]
  · intro i deadline hi
    rw [hworkers] at hi
    rw [hrequested, hpending]
    exact h.sleeps i deadline hi
  · rw [hrequested, halive]
    exact h.alive

lemma step (h : Ok s) {a : Act} (hs : SessionSlot.step s a = some s') : Ok s' := by
  cases a with
  | request request =>
    obtain ⟨hgesture, rfl⟩ := guard_eq_some.1 hs
    exact h.requestSession hgesture
  | cancel =>
    cases hs
    exact h.cancelPendingRowConnect
  | logout =>
    cases hs
    exact h.logout
  | settle =>
    cases hs
    exact h.settleQueued
  | latch | setLoggedIn value | tick ticks =>
    cases hs
    exact h.of_eq rfl rfl rfl rfl rfl rfl rfl rfl rfl
  | read =>
    cases hs
    exact h.readStats
  | look i =>
    simp only [SessionSlot.step] at hs
    split at hs
    next hi =>
      cases hs
      exact h.look hi
    next => cases hs
  | wake i =>
    simp only [SessionSlot.step] at hs
    split at hs
    next hi =>
      obtain ⟨-, rfl⟩ := guard_eq_some.1 hs
      exact h.move hi rfl rfl nofun nofun nofun
    next => cases hs
  | spurious i =>
    simp only [SessionSlot.step] at hs
    split at hs
    next hi =>
      cases hs
      exact h.move hi rfl rfl nofun nofun nofun
    next => cases hs
  | finish i =>
    simp only [SessionSlot.step] at hs
    split at hs
    next hi =>
      cases hs
      exact h.finish hi
    next => cases hs
  | publish i =>
    simp only [SessionSlot.step] at hs
    split at hs
    next hi =>
      cases hs
      exact h.readStats.move hi rfl rfl nofun nofun nofun
    next => cases hs

lemma of_run {es : List (Transition Slot Act)} (h : Runs es s) : Ok s := by
  induction h with
  | nil h =>
    obtain ⟨loggedIn, now, rfl⟩ := h
    exact init loggedIn now
  | snoc _ hs ih => exact ih.step hs

end Ok

/-! ### What a step does to the passes and to the request that waits -/

/-- What a step does as seen by the owner of a pass. -/
structure Moves (s : Slot) (a : Act) (s' : Slot) : Prop where
  passing : ∀ (i id : ℕ) (r : SessionRequest), s'.workers[i]? = some (At.passing id r) →
    s.workers[i]? = some (At.passing id r) ∨
      a = .look i ∧ s.requested = true ∧ id = s.pendingId ∧ r = s.pending ∧
        .consumed id s.now ∈ s'.log
  stays : ∀ (i id : ℕ) (r : SessionRequest), s.workers[i]? = some (At.passing id r) →
    a ≠ .finish i → s'.workers[i]? = some (At.passing id r)
  pending : s'.requested = true →
    s.requested = true ∧ s'.pendingId = s.pendingId ∧ s'.pending = s.pending ∨
      (∃ request, a = .request request ∧ s'.pending.kind = request.kind) ∧
        s.quitting = false ∧ s'.pendingId = s.records.length
  records : s.records <+: s'.records
  log : s.log <+: s'.log
  quitting : s.quitting = true → s'.quitting = true

namespace Moves

variable {s s' s'' : Slot} {a : Act} {i : ℕ} {st st' : At}

lemma refl (s : Slot) (a : Act) : Moves s a s where
  passing _ _ _ h := .inl h
  stays _ _ _ h _ := h
  pending h := .inl ⟨h, rfl, rfl⟩
  records := List.prefix_rfl
  log := List.prefix_rfl
  quitting := id

lemma and_then (h : Moves s a s') (hpassing : ∀ (j id : ℕ) (r : SessionRequest),
      s''.workers[j]? = some (At.passing id r) ↔ s'.workers[j]? = some (At.passing id r))
    (hrequested : s''.requested = true → s'.requested = true) (hid : s''.pendingId = s'.pendingId)
    (hpending : s''.requested = true → s''.pending = s'.pending)
    (hrecords : s''.records = s'.records) (hlog : s'.log <+: s''.log)
    (hquitting : s''.quitting = s'.quitting) : Moves s a s'' where
  passing j id r hj := by
    refine (h.passing j id r ((hpassing j id r).1 hj)).imp_right ?_
    exact fun ⟨ha, hreq, hid, hr, hmem⟩ => ⟨ha, hreq, hid, hr, hlog.subset hmem⟩
  stays j id r hj ha := (hpassing j id r).2 (h.stays j id r hj ha)
  pending hreq := by
    rw [hid, hpending hreq]
    exact h.pending (hrequested hreq)
  records := hrecords ▸ h.records
  log := h.log.trans hlog
  quitting hq := hquitting ▸ h.quitting hq

lemma notifyAll (h : Moves s a s') : Moves s a s'.notifyAll := by
  refine h.and_then ?_ id rfl (fun _ => rfl) rfl List.prefix_rfl rfl
  intro j id r
  rw [Slot.notifyAll, List.getElem?_map]
  cases hj : s'.workers[j]? with
  | none => exact Iff.rfl
  | some st =>
    rw [Option.map_some, Option.some.injEq, Option.some.injEq]
    exact At.notify_eq_passing

lemma startWorker (h : Moves s a s') : Moves s a s'.startWorker := by
  unfold Slot.startWorker
  split_ifs
  · exact h
  · refine h.and_then ?_ id rfl (fun _ => rfl) rfl List.prefix_rfl rfl
    intro j id r
    constructor
    · intro hj
      rcases getElem?_snoc_cases hj with hj | ⟨-, heq⟩
      · exact hj
      · cases heq
    · intro hj
      rw [List.getElem?_append_left (List.getElem?_eq_some_iff.1 hj).1]
      exact hj

lemma empty (event : ℕ → Event) : Moves s a (s.empty event) :=
  (refl s a).and_then (fun _ _ _ => Iff.rfl) nofun rfl nofun rfl (List.prefix_append _ _) rfl

lemma move (h : Moves s a s') (hi : s'.workers[i]? = some st)
    (hst : ∀ id r, st ≠ .passing id r) (hst' : ∀ id r, st' ≠ .passing id r) :
    Moves s a (s'.move i st') := by
  refine h.and_then ?_ id rfl (fun _ => rfl) rfl List.prefix_rfl rfl
  intro j id r
  constructor
  · intro hj
    rcases getElem?_set_cases hj with ⟨-, heq⟩ | ⟨-, hj'⟩
    · exact absurd heq.symm (hst' id r)
    · exact hj'
  · intro hj
    have hne : i ≠ j := by
      rintro rfl
      exact absurd (Option.some.inj (hi.symm.trans hj)) (hst id r)
    rw [Slot.move, List.getElem?_set_ne hne]
    exact hj

lemma requestSession (request : SessionRequest) :
    Moves s (.request request) (s.requestSession request) := by
  unfold Slot.requestSession
  split_ifs with hquit hadmits hcovered
  · exact refl s _
  · exact refl s _
  · exact (refl s _).notifyAll.startWorker
  · refine Moves.startWorker (Moves.notifyAll ?_)
    constructor
    · exact fun j id r hj => .inl hj
    · exact fun j id r hj _ => hj
    · intro _
      refine .inr ⟨⟨request, rfl, ?_⟩, by simpa using hquit, rfl⟩
      simp only [Slot.record, Slot.numbered]
      split_ifs <;> rfl
    · exact List.prefix_append _ _
    · exact List.prefix_append _ _
    · exact id

lemma look (hi : s.workers[i]? = some .looking) : Moves s (.look i) (s.look i) := by
  have hne : ∀ id r, At.looking ≠ .passing id r := nofun
  unfold Slot.look
  split_ifs with hearly hempty
  · exact (refl s _).move hi hne nofun
  · have hleft : Moves s (.look i) (s.move i .left) := (refl s _).move hi hne nofun
    refine Moves.notifyAll (hleft.and_then ?_ id rfl (fun _ => rfl) rfl List.prefix_rfl rfl)
    exact fun _ _ _ => Iff.rfl
  · have hrequested : s.requested = true := by simpa using hempty
    constructor
    · intro j id r hj
      rcases getElem?_set_cases hj with ⟨rfl, heq⟩ | ⟨-, hj'⟩
      · obtain ⟨rfl, rfl⟩ := At.passing.inj heq
        exact .inr ⟨rfl, hrequested, rfl, rfl, List.mem_concat_self⟩
      · exact .inl hj'
    · intro j id r hj _
      have hij : i ≠ j := by
        rintro rfl
        exact absurd (Option.some.inj (hi.symm.trans hj)) nofun
      exact (List.getElem?_set_ne hij).trans hj
    · exact nofun
    · exact List.prefix_rfl
    · exact List.prefix_append _ _
    · exact id

lemma finish (id : ℕ) (r : SessionRequest) : Moves s (.finish i) (s.finish i id r) where
  passing j id' r' hj := by
    rcases getElem?_set_cases hj with ⟨-, heq⟩ | ⟨-, hj'⟩
    · cases heq
    · exact .inl hj'
  stays j id' r' hj ha := by
    have hij : i ≠ j := by
      rintro rfl
      exact ha rfl
    exact (List.getElem?_set_ne hij).trans hj
  pending h := .inl ⟨h, rfl, rfl⟩
  records := List.prefix_rfl
  log := List.prefix_append _ _
  quitting h := h

end Moves

lemma moves {s s' : Slot} {a : Act} (hs : step s a = some s') : Moves s a s' := by
  cases a with
  | request request =>
    obtain ⟨-, rfl⟩ := guard_eq_some.1 hs
    exact .requestSession request
  | cancel =>
    cases hs
    unfold Slot.cancelPendingRowConnect
    split_ifs
    · exact (Moves.empty _).notifyAll
    · exact .refl s _
  | logout =>
    cases hs
    unfold Slot.logout
    split_ifs with hrequested
    · exact (Moves.empty _).notifyAll
    · refine Moves.notifyAll ((Moves.refl s _).and_then (fun _ _ _ => Iff.rfl) id rfl ?_ rfl
        List.prefix_rfl rfl)
      exact fun h => absurd h hrequested
  | settle =>
    cases hs
    unfold Slot.settleQueued
    split_ifs
    · exact (Moves.empty _).notifyAll
    · exact .refl s _
  | latch =>
    cases hs
    exact { Moves.refl s .latch with quitting := fun _ => rfl }
  | setLoggedIn value =>
    cases hs
    exact { Moves.refl s (.setLoggedIn value) with quitting := id }
  | tick ticks =>
    cases hs
    exact { Moves.refl s (.tick ticks) with quitting := id }
  | read =>
    cases hs
    exact (Moves.refl s .read).and_then (fun _ _ _ => Iff.rfl) id rfl (fun _ => rfl) rfl
      (List.prefix_append _ _) rfl
  | look i =>
    simp only [step] at hs
    split at hs
    next hi =>
      cases hs
      exact .look hi
    next => cases hs
  | wake i =>
    simp only [step] at hs
    split at hs
    next hi =>
      obtain ⟨-, rfl⟩ := guard_eq_some.1 hs
      exact (Moves.refl s _).move hi nofun nofun
    next => cases hs
  | spurious i =>
    simp only [step] at hs
    split at hs
    next hi =>
      cases hs
      exact (Moves.refl s _).move hi nofun nofun
    next => cases hs
  | finish i =>
    simp only [step] at hs
    split at hs
    next =>
      cases hs
      exact .finish _ _
    next => cases hs
  | publish i =>
    simp only [step] at hs
    split at hs
    next hi =>
      cases hs
      refine Moves.move ?_ hi nofun nofun
      exact (Moves.refl s (.publish i)).and_then (fun _ _ _ => Iff.rfl) id rfl (fun _ => rfl) rfl
        (List.prefix_append _ _) rfl
    next => cases hs

/-! ### The way to the next pass -/

/-- The worker `i` is no further from the slot than a thread at `st`. -/
def Near (i : ℕ) (st : At) (workers : List At) : Prop :=
  ∃ st', workers[i]? = some st' ∧ st'.toGo ≤ st.toGo

namespace Near

variable {i : ℕ} {st : At} {workers : List At}

lemma notify (h : Near i st workers) : Near i st (workers.map At.notify) := by
  obtain ⟨st', hi, hle⟩ := h
  refine ⟨st'.notify, ?_, ?_⟩
  · rw [List.getElem?_map, hi, Option.map_some]
  · rw [At.toGo_notify]
    exact hle

lemma set (h : Near i st workers) {j : ℕ} (hne : j ≠ i) (st' : At) :
    Near i st (workers.set j st') := by
  obtain ⟨x, hi, hle⟩ := h
  exact ⟨x, by rw [List.getElem?_set_ne hne, hi], hle⟩

lemma snoc (h : Near i st workers) (st' : At) : Near i st (workers ++ [st']) := by
  obtain ⟨x, hi, hle⟩ := h
  exact ⟨x, by rw [List.getElem?_append_left (List.getElem?_eq_some_iff.1 hi).1, hi], hle⟩

end Near

namespace Ok

variable {s s' : Slot} {i : ℕ} {st : At} {a : Act}

/-- The steps of the others, and a wake-up for no reason, take the worker no further away. -/
lemma near (hi : s.workers[i]? = some st) (ha : a.worker ≠ some i)
    (hs : SessionSlot.step s a = some s') : Near i st s'.workers := by
  have hnear : Near i st s.workers := ⟨st, hi, le_refl _⟩
  cases a with
  | request request =>
    obtain ⟨-, rfl⟩ := guard_eq_some.1 hs
    have hstart : ∀ t : Slot, Near i st t.workers → Near i st t.startWorker.workers := by
      intro t ht
      unfold Slot.startWorker
      split_ifs
      · exact ht
      · exact ht.snoc _
    unfold Slot.requestSession
    split_ifs
    · exact hnear
    · exact hnear
    · exact hstart _ hnear.notify
    · exact hstart _ hnear.notify
  | cancel =>
    cases hs
    unfold Slot.cancelPendingRowConnect
    split_ifs
    · exact hnear.notify
    · exact hnear
  | logout =>
    cases hs
    unfold Slot.logout
    split_ifs <;> exact hnear.notify
  | settle =>
    cases hs
    unfold Slot.settleQueued
    split_ifs
    · exact hnear.notify
    · exact hnear
  | latch | setLoggedIn value | tick ticks | read =>
    cases hs
    exact hnear
  | look j =>
    have hne : j ≠ i := fun heq => ha (congrArg some heq)
    simp only [SessionSlot.step] at hs
    split at hs
    next hj =>
      cases hs
      unfold Slot.look
      split_ifs
      · exact hnear.set hne _
      · exact (hnear.set hne _).notify
      · exact hnear.set hne _
    next => cases hs
  | wake j =>
    have hne : j ≠ i := fun heq => ha (congrArg some heq)
    simp only [SessionSlot.step] at hs
    split at hs
    next hj =>
      obtain ⟨-, rfl⟩ := guard_eq_some.1 hs
      exact hnear.set hne _
    next => cases hs
  | spurious j =>
    simp only [SessionSlot.step] at hs
    split at hs
    next deadline notified hj =>
      cases hs
      by_cases hne : j = i
      · subst hne
        cases hi.symm.trans hj
        have hlt := (List.getElem?_eq_some_iff.1 hi).1
        exact ⟨.looking, List.getElem?_set_self hlt, by simp [At.toGo]⟩
      · exact hnear.set hne _
    next => cases hs
  | finish j | publish j =>
    have hne : j ≠ i := fun heq => ha (congrArg some heq)
    simp only [SessionSlot.step] at hs
    split at hs
    next hj =>
      cases hs
      exact hnear.set hne _
    next => cases hs

lemma exists_own (h : Ok s) (hi : s.workers[i]? = some st) (hst : st.running = true)
    (hdue : s.pending.notBefore ≤ s.now) :
    ∃ a s', a.worker = some i ∧ SessionSlot.step s a = some s' := by
  cases st with
  | looking => exact ⟨.look i, _, rfl, by simp only [SessionSlot.step, hi]; rfl⟩
  | sleeping deadline notified =>
    have hwakes : notified = true ∨ deadline ≤ s.now := by
      cases notified with
      | true => exact .inl rfl
      | false =>
        obtain ⟨-, heq⟩ := h.sleeps i deadline hi
        exact .inr (heq ▸ hdue)
    exact ⟨.wake i, _, rfl, by simp only [SessionSlot.step, hi]; exact if_pos hwakes⟩
  | passing id r => exact ⟨.finish i, _, rfl, by simp only [SessionSlot.step, hi]; rfl⟩
  | publishing => exact ⟨.publish i, _, rfl, by simp only [SessionSlot.step, hi]; rfl⟩
  | left => cases hst

lemma own (hi : s.workers[i]? = some st) (hrequested : s.requested = true)
    (hdue : s.pending.notBefore ≤ s.now) (ha : a.worker = some i)
    (hs : SessionSlot.step s a = some s') : .consumed s.pendingId s.now ∈ s'.log ∨
      ∃ st', s'.workers[i]? = some st' ∧ st'.toGo < st.toGo := by
  have hlt : i < s.workers.length := (List.getElem?_eq_some_iff.1 hi).1
  cases a with
  | look j =>
    cases ha
    simp only [SessionSlot.step, hi] at hs
    split at hs
    next =>
      cases hs
      refine .inl ?_
      have hearly : ¬ (s.requested && decide (s.now < s.pending.notBefore)) = true := by
        simpa [hrequested] using hdue
      rw [Slot.look, if_neg hearly, if_neg (by simp [hrequested])]
      exact List.mem_concat_self
    next => cases hs
  | wake j =>
    cases ha
    simp only [SessionSlot.step] at hs
    split at hs
    next hj =>
      cases hi.symm.trans hj
      obtain ⟨-, rfl⟩ := guard_eq_some.1 hs
      exact .inr ⟨.looking, List.getElem?_set_self hlt, by simp [At.toGo]⟩
    next => cases hs
  | finish j =>
    cases ha
    simp only [SessionSlot.step] at hs
    split at hs
    next hj =>
      cases hi.symm.trans hj
      cases hs
      exact .inr ⟨.publishing, List.getElem?_set_self hlt, by simp [At.toGo]⟩
    next => cases hs
  | publish j =>
    cases ha
    simp only [SessionSlot.step] at hs
    split at hs
    next hj =>
      cases hi.symm.trans hj
      cases hs
      exact .inr ⟨.looking, List.getElem?_set_self hlt, by simp [At.toGo]⟩
    next => cases hs
  | _ => cases ha

end Ok

/-- **The slot loses no gesture, and the last one wins.** -/
theorem slot_loses_no_gesture {es : List (Transition Slot Act)} {s : Slot} (h : Runs es s) :
    LosesNoGesture s := by
  have hok := Ok.of_run h
  constructor
  case one => exact hok.one.one
  case alive => exact hok.alive
  case fates =>
    intro id hid
    rw [hok.ledger.fates id]
    by_cases hwaits : s.Waits id <;> simp [hid, hwaits]
  case fits => exact hok.ledger.fits
  case order => exact hok.ledger.order
  case settled =>
    intro before n after hlog g hpos hle
    obtain ⟨hissued, hreads⟩ := hok.passes.reads before n after hlog
    obtain ⟨id, r, hr, hkind, rfl⟩ := hok.ledger.exists_gesture hpos (hle.trans hissued)
    exact ⟨id, r, hr, hkind, rfl, hreads id r hr hkind hle⟩
  case goes =>
    intro hrequested
    obtain ⟨i, st, hi, hst⟩ := hok.one.alive.1 (hok.alive hrequested)
    refine ⟨i, st, hi, ?_, ?_, ?_⟩
    · cases st <;> simp [At.toGo]
    · intro hdue
      refine ⟨hok.exists_own hi hst hdue, ?_⟩
      exact fun a s' ha hs => Ok.own hi hrequested hdue ha hs
    · exact fun a s' ha hs => Ok.near hi ha hs

/-- A row click is replaced by a Disconnect while the worker sleeps towards its deadline. -/
theorem slot_loses_no_gesture_replaced : ∃ s, LosesNoGesture s ∧
    s.log = [.replaced 0 1, .consumed 1 0, .finished 1, .read 2] := by
  have h₀ : Runs [] { loggedIn := true, now := 0 } := .nil ⟨true, 0, rfl⟩
  have h₁ := h₀.snoc (a := .request { kind := .location, notBefore := 12, coalesced := true }) rfl
  have h₂ := h₁.snoc (a := .look 0) rfl
  have h₃ := h₂.snoc (a := .request { kind := .disconnect }) rfl
  have h₄ := h₃.snoc (a := .wake 0) rfl
  have h₅ := h₄.snoc (a := .look 0) rfl
  have h₆ := h₅.snoc (a := .finish 0) rfl
  have h₇ := h₆.snoc (a := .publish 0) rfl
  exact ⟨_, slot_loses_no_gesture h₇, rfl⟩

end UrnetworkWindows.SessionSlot
