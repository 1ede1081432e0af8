/-
Abandoned teardowns and their sweep (`StopBudget.h`: `RunBounded`,
`NoteSessionDeviceAbandoned`, `SweepAbandonedTeardowns`, `TeardownAbandoned`).

Each call of `RunBounded` is a caller and a worker that share a gate.  A turn of the
caller's wait is one step under the gate's mutex, and the budget may run out on any of
them, by itself or collapsed by an escalation.  A worker that never returns is one that
takes no step.  A sweep holds `g_heldMutex` over its visits, and locks the gates one at a
time, so that a worker may publish between two visits.

The retired gates of a sweep are history.  `g_teardownAbandoned` is set elsewhere too, on
the lock-free escapes and for the watchdog's sampler; here only by `RunBounded`.
-/
import UrnetworkWindows.Lib.Trace

namespace UrnetworkWindows.Controller.StopBudget

open Lib

/-! ### The model -/

/-- `AbandonHazard`. -/
inductive AbandonHazard
  | processExitOnly
  | holdsSessionDevice
deriving DecidableEq, Repr

/-- The next statement of `RunBounded`, past the start of the worker. -/
inductive CallerAt
  | waiting
  | noting
  | registering
  | returning
  | returned (result : Bool)
deriving DecidableEq, Repr

/-- A call of `RunBounded`; `done` is its gate's. -/
structure Call where
  hazard : AbandonHazard
  done : Bool := false
  caller : CallerAt := .waiting
deriving DecidableEq, Repr

/-- The next statement of `SweepAbandonedTeardowns`: to take `g_heldMutex`, or to visit
the gate at a position; `before` is the size at first. -/
inductive SweepAt
  | locking
  | visiting (before next : ℕ)
  | done (outstanding completedLate : ℕ)
deriving DecidableEq, Repr

/-- A sweep, with the gates it has retired. -/
structure Sweep where
  phase : SweepAt := .locking
  retired : List ℕ := []
deriving DecidableEq, Repr

/-- The calls, `g_heldDevices` by the numbers of the calls, the sweep that holds
`g_heldMutex`, and `g_teardownAbandoned`. -/
structure Budget where
  calls : List Call := []
  heldDevices : List ℕ := []
  holder : Option ℕ := none
  abandoned : Bool := false
  sweeps : List Sweep := []
deriving DecidableEq, Repr

/-- What the scheduler picks. -/
inductive Pick
  | runBounded (hazard : AbandonHazard)
  | worker (i : ℕ)
  | caller (i : ℕ) (late : Bool)
  | sweepAbandonedTeardowns
  | sweep (j : ℕ)
deriving DecidableEq, Repr

/-- The worker of that call has published. -/
def Budget.doneAt (s : Budget) (i : ℕ) : Bool := s.calls[i]?.any Call.done

/-- The next step of a caller, and what it goes on with. -/
def callerStep (late : Bool) (s : Budget) (i : ℕ) (c : Call) : Option (CallerAt × Budget) :=
  match c.caller with
  | .waiting => if c.done then some (.returned true, s) else if late then some (.noting, s)
      else none
  | .noting => some (if c.hazard = .holdsSessionDevice then .registering else .returning,
      { s with abandoned := true })
  | .registering =>
    if s.holder = none then some (.returning, { s with heldDevices := s.heldDevices ++ [i] })
    else none
  | .returning => some (.returned false, s)
  | .returned _ => none

/-- The next step of a sweep, and what it goes on with. -/
def sweepStep (s : Budget) (j : ℕ) (w : Sweep) : Option (Sweep × Budget) :=
  match w.phase with
  | .locking =>
    if s.holder = none then
      some ({ w with phase := .visiting s.heldDevices.length 0 }, { s with holder := some j })
    else none
  | .visiting before next =>
    match s.heldDevices[next]? with
    | none => some ({ w with phase := .done s.heldDevices.length (before - s.heldDevices.length) },
        { s with holder := none })
    | some i =>
      if s.doneAt i then
        some ({ w with retired := w.retired ++ [i] },
          { s with heldDevices := s.heldDevices.eraseIdx next })
      else some ({ w with phase := .visiting before (next + 1) }, s)
  | .done _ _ => none

/-- One step of the whole. -/
def step (s : Budget) : Pick → Option Budget
  | .runBounded hazard => some { s with calls := s.calls ++ [{ hazard }] }
  | .worker i =>
    match s.calls[i]? with
    | none => none
    | some c =>
        if c.done then none else some { s with calls := s.calls.set i { c with done := true } }
  | .caller i late =>
    match s.calls[i]? with
    | none => none
    | some c => (callerStep late s i c).map fun r =>
        { r.2 with calls := s.calls.set i { c with caller := r.1 } }
  | .sweepAbandonedTeardowns => some { s with sweeps := s.sweeps ++ [{}] }
  | .sweep j =>
    match s.sweeps[j]? with
    | none => none
    | some w => (sweepStep s j w).map fun r => { r.2 with sweeps := s.sweeps.set j r.1 }

/-- The runs from a process that has abandoned nothing. -/
abbrev Budget.Runs : List (Transition Budget Pick) → Budget → Prop :=
  Run (· = {}) fun _ s a s' => step s a = some s' ∧ True

/-! ### What is accounted for -/

/-- The call was abandoned while it holds the session's device, and is registered. -/
def Call.registered (c : Call) : Bool :=
  c.hazard = .holdsSessionDevice && (c.caller = .returning || c.caller = .returned false)

/-- The call's wait has ended without its worker, and this is on record. -/
def Call.noted (c : Call) : Bool :=
  c.caller = .registering || c.caller = .returning || c.caller = .returned false

def Budget.registeredAt (s : Budget) (i : ℕ) : Bool := s.calls[i]?.any Call.registered

/-- The number of workers that are registered and have not published. -/
def Budget.outstanding (s : Budget) : ℕ :=
  ((Finset.range s.calls.length).filter fun i => s.registeredAt i ∧ ¬ s.doneAt i).card

/-- The number of sweeps that have counted a worker as completed late. -/
def Budget.counted (s : Budget) (i : ℕ) : ℕ := s.sweeps.countP (i ∈ ·.retired)

/-- The step of a sweep that takes `g_heldMutex`. -/
def Locks (t : Transition Budget Pick) (j : ℕ) : Prop :=
  t.label = .sweep j ∧ ∃ w, t.pre.sweeps[j]? = some w ∧ w.phase = .locking

/-- What the accounts of a run are to say.  `outstanding`: what a sweep returns was the
number of outstanding workers at a moment while it held `g_heldMutex`. -/
structure Accounted (es : List (Transition Budget Pick)) (s : Budget) : Prop where
  outstanding : ∀ j w o c, s.sweeps[j]? = some w → w.phase = .done o c →
    ∃ t ∈ es, t.pre.holder = some j ∧ t.pre.outstanding = o
  late : ∀ w ∈ s.sweeps, ∀ o c, w.phase = .done o c → c = w.retired.length ∧ w.retired.Nodup
  once : ∀ i, s.counted i ≤ 1
  published : ∀ i, 0 < s.counted i → s.registeredAt i = true ∧ s.doneAt i = true
  swept : ∀ t ∈ es, ∀ j, Locks t j → ∀ i, t.pre.registeredAt i = true → t.pre.doneAt i = true →
    ∀ w o c, s.sweeps[j]? = some w → w.phase = .done o c → s.counted i = 1
  abandoned : s.abandoned = true ↔ ∃ c ∈ s.calls, c.noted = true

/-! ### What a step can do -/

/-- The steps, by the statement that is carried out. -/
inductive Stepped (s : Budget) : Pick → Budget → Prop
  | started (hazard : AbandonHazard) :
      Stepped s (.runBounded hazard) { s with calls := s.calls ++ [{ hazard }] }
  | published (i : ℕ) (c : Call) (hi : s.calls[i]? = some c) (hc : c.done = false) :
      Stepped s (.worker i) { s with calls := s.calls.set i { c with done := true } }
  | waited (i : ℕ) (late : Bool) (c : Call) (r : CallerAt) (hi : s.calls[i]? = some c)
      (hc : c.caller = .waiting) (hr : r = .returned true ∨ r = .noting) :
      Stepped s (.caller i late) { s with calls := s.calls.set i { c with caller := r } }
  | noted (i : ℕ) (late : Bool) (c : Call) (r : CallerAt) (hi : s.calls[i]? = some c)
      (hc : c.caller = .noting)
      (hr : r = .registering ∧ c.hazard = .holdsSessionDevice ∨
        r = .returning ∧ c.hazard ≠ .holdsSessionDevice) :
      Stepped s (.caller i late)
        { s with calls := s.calls.set i { c with caller := r }, abandoned := true }
  | registered (i : ℕ) (late : Bool) (c : Call) (hi : s.calls[i]? = some c)
      (hc : c.caller = .registering) (hfree : s.holder = none) :
      Stepped s (.caller i late) { s with
        calls := s.calls.set i { c with caller := .returning },
        heldDevices := s.heldDevices ++ [i] }
  | returned (i : ℕ) (late : Bool) (c : Call) (hi : s.calls[i]? = some c)
      (hc : c.caller = .returning) :
      Stepped s (.caller i late)
        { s with calls := s.calls.set i { c with caller := .returned false } }
  | swept : Stepped s .sweepAbandonedTeardowns { s with sweeps := s.sweeps ++ [{}] }
  | locked (j : ℕ) (w : Sweep) (hj : s.sweeps[j]? = some w) (hw : w.phase = .locking)
      (hfree : s.holder = none) :
      Stepped s (.sweep j) { s with
        holder := some j
        sweeps := s.sweeps.set j { w with phase := .visiting s.heldDevices.length 0 } }
  | kept (j : ℕ) (w : Sweep) (before next i : ℕ) (hj : s.sweeps[j]? = some w)
      (hw : w.phase = .visiting before next) (hi : s.heldDevices[next]? = some i)
      (hd : s.doneAt i = false) :
      Stepped s (.sweep j)
        { s with sweeps := s.sweeps.set j { w with phase := .visiting before (next + 1) } }
  | retired (j : ℕ) (w : Sweep) (before next i : ℕ) (hj : s.sweeps[j]? = some w)
      (hw : w.phase = .visiting before next) (hi : s.heldDevices[next]? = some i)
      (hd : s.doneAt i = true) :
      Stepped s (.sweep j) { s with
        heldDevices := s.heldDevices.eraseIdx next
        sweeps := s.sweeps.set j { w with retired := w.retired ++ [i] } }
  | ended (j : ℕ) (w : Sweep) (before next : ℕ) (hj : s.sweeps[j]? = some w)
      (hw : w.phase = .visiting before next) (hi : s.heldDevices[next]? = none) :
      Stepped s (.sweep j) { s with
        holder := none
        sweeps := s.sweeps.set j
          { w with phase := .done s.heldDevices.length (before - s.heldDevices.length) } }

lemma stepped_caller {late : Bool} {s s' : Budget} {i : ℕ}
    (h : step s (.caller i late) = some s') : Stepped s (.caller i late) s' := by
  simp only [step] at h
  split at h
  next => exact absurd h (by simp)
  next c hi =>
    obtain ⟨⟨r, t⟩, hr, rfl⟩ := Option.map_eq_some_iff.1 h
    simp only [callerStep] at hr
    split at hr
    next hc =>
      split at hr
      next =>
        cases hr
        exact .waited i late c _ hi hc (.inl rfl)
      next =>
        obtain ⟨-, hr⟩ := Option.ite_none_right_eq_some.1 hr
        cases hr
        exact .waited i late c _ hi hc (.inr rfl)
    next hc =>
      cases hr
      refine .noted i late c _ hi hc ?_
      split
      next hz => exact .inl ⟨rfl, hz⟩
      next hz => exact .inr ⟨rfl, hz⟩
    next hc =>
      obtain ⟨hfree, hr⟩ := Option.ite_none_right_eq_some.1 hr
      cases hr
      exact .registered i late c hi hc hfree
    next hc =>
      cases hr
      exact .returned i late c hi hc
    next => exact absurd hr (by simp)

lemma stepped_sweep {s s' : Budget} {j : ℕ} (h : step s (.sweep j) = some s') :
    Stepped s (.sweep j) s' := by
  simp only [step] at h
  split at h
  next => exact absurd h (by simp)
  next w hj =>
    obtain ⟨⟨r, t⟩, hr, rfl⟩ := Option.map_eq_some_iff.1 h
    simp only [sweepStep] at hr
    split at hr
    next hw =>
      obtain ⟨hfree, hr⟩ := Option.ite_none_right_eq_some.1 hr
      cases hr
      exact .locked j w hj hw hfree
    next before next hw =>
      split at hr
      next hi =>
        cases hr
        exact .ended j w before next hj hw hi
      next i hi =>
        split at hr
        next hd =>
          cases hr
          exact .retired j w before next i hj hw hi hd
        next hd =>
          cases hr
          exact .kept j w before next i hj hw hi (by simpa using hd)
    next => exact absurd hr (by simp)

lemma stepped_of_step {s s' : Budget} {a : Pick} (h : step s a = some s') : Stepped s a s' := by
  cases a with
  | runBounded hazard =>
    cases h
    exact .started hazard
  | worker i =>
    simp only [step] at h
    split at h
    next => exact absurd h (by simp)
    next c hi =>
      split at h
      next => exact absurd h (by simp)
      next hc =>
        cases h
        exact .published i c hi (by simpa using hc)
  | caller i late => exact stepped_caller h
  | sweepAbandonedTeardowns =>
    cases h
    exact .swept
  | sweep j => exact stepped_sweep h

/-! ### Each registered worker is in one place -/

lemma count_eraseIdx {l : List ℕ} {k i : ℕ} (hk : l[k]? = some i) (x : ℕ) :
    (l.eraseIdx k).count x + [i].count x = l.count x := by
  have hlt := (List.getElem?_eq_some_iff.1 hk).1
  have hl : l = l.take k ++ [i] ++ l.drop (k + 1) := by
    have hget : l.drop k = i :: l.drop (k + 1) := by
      rw [List.drop_eq_getElem_cons hlt, (List.getElem?_eq_some_iff.1 hk).2]
    rw [List.append_assoc, List.singleton_append, ← hget, List.take_append_drop]
  have hcount := congrArg (List.count x) hl
  rw [List.count_append, List.count_append] at hcount
  rw [List.eraseIdx_eq_take_drop_succ, List.count_append]
  omega

/-- How often a worker is in `g_heldDevices` and among the retired. -/
def Budget.placed (s : Budget) (i : ℕ) : ℕ :=
  s.heldDevices.count i + (s.sweeps.map fun w => w.retired.count i).sum

structure Placed (s : Budget) : Prop where
  once : ∀ i, s.placed i = (s.registeredAt i).toNat
  done : ∀ w ∈ s.sweeps, ∀ i ∈ w.retired, s.doneAt i = true
  hazard : ∀ c ∈ s.calls, c.caller = .registering → c.hazard = .holdsSessionDevice

namespace Placed

variable {s : Budget}

lemma mem_held (h : Placed s) {i : ℕ} (hi : i ∈ s.heldDevices) : s.registeredAt i = true := by
  have hpos := List.count_pos_iff.2 hi
  have honce := h.once i
  unfold Budget.placed at honce
  by_contra hr
  rw [Bool.eq_false_of_not_eq_true hr, Bool.toNat_false] at honce
  omega

lemma nodup (h : Placed s) : s.heldDevices.Nodup := by
  rw [List.nodup_iff_count_le_one]
  intro i
  have honce := h.once i
  have hle := Bool.toNat_le (s.registeredAt i)
  unfold Budget.placed at honce
  omega

lemma sum_le (h : Placed s) (i : ℕ) :
    (s.sweeps.map fun w => w.retired.count i).sum ≤ 1 - s.heldDevices.count i := by
  have honce := h.once i
  have hle := Bool.toNat_le (s.registeredAt i)
  unfold Budget.placed at honce
  omega

lemma exists_retired (h : Placed s) {i : ℕ} (hreg : s.registeredAt i = true)
    (hi : i ∉ s.heldDevices) : ∃ w ∈ s.sweeps, i ∈ w.retired := by
  have honce := h.once i
  rw [hreg, Budget.placed, List.count_eq_zero_of_not_mem hi, Bool.toNat_true, zero_add] at honce
  obtain ⟨n, hn, hne⟩ := List.exists_mem_ne_zero_of_sum_ne_zero (by rw [honce]; decide)
  obtain ⟨w, hw, rfl⟩ := List.mem_map.1 hn
  exact ⟨w, hw, List.count_pos_iff.1 (Nat.pos_of_ne_zero hne)⟩

lemma of_calls (h : Placed s) {calls : List Call} (b : Bool)
    (hreg : ∀ i, calls[i]?.any Call.registered = s.registeredAt i)
    (hdone : ∀ i, s.doneAt i = true → calls[i]?.any Call.done = true)
    (hhaz : ∀ c ∈ calls, c.caller = .registering → c.hazard = .holdsSessionDevice) :
    Placed { s with calls := calls, abandoned := b } := by
  constructor
  · intro i
    have honce := h.once i
    unfold Budget.registeredAt at hreg ⊢
    rw [hreg]
    exact honce
  · intro w hw i hi
    exact hdone i (h.done w hw i hi)
  · exact hhaz

lemma of_caller (h : Placed s) (b : Bool) {i : ℕ} {c : Call} {r : CallerAt}
    (hi : s.calls[i]? = some c) (hr : ({ c with caller := r } : Call).registered = c.registered)
    (hz : r = .registering → c.hazard = .holdsSessionDevice) :
    Placed { s with calls := s.calls.set i { c with caller := r }, abandoned := b } := by
  apply h.of_calls
  · exact any_set_eq hi hr
  · intro k hk
    rw [any_set_eq (y := { c with caller := r }) hi rfl]
    exact hk
  · intro d hd hdc
    rcases List.mem_or_eq_of_mem_set hd with hd | rfl
    · exact h.hazard d hd hdc
    · exact hz hdc

lemma of_sweep (h : Placed s) {held : List ℕ} (o : Option ℕ) {j : ℕ} {w w' : Sweep}
    (hj : s.sweeps[j]? = some w)
    (hcount : ∀ i, held.count i + w'.retired.count i = s.heldDevices.count i + w.retired.count i)
    (hdone : ∀ i ∈ w'.retired, i ∈ w.retired ∨ s.doneAt i = true) :
    Placed { s with heldDevices := held, holder := o, sweeps := s.sweeps.set j w' } := by
  constructor
  · intro i
    have hsum := sum_set (fun w : Sweep => w.retired.count i) (y := w') hj
    have hi := hcount i
    show held.count i + ((s.sweeps.set j w').map fun w => w.retired.count i).sum
      = (s.registeredAt i).toNat
    rw [← h.once i, Budget.placed]
    omega
  · intro v hv i hi
    rcases List.mem_or_eq_of_mem_set hv with hv | rfl
    · exact h.done v hv i hi
    · rcases hdone i hi with hi | hi
      · exact h.done w (List.mem_of_getElem? hj) i hi
      · exact hi
  · exact h.hazard

lemma step (h : Placed s) {s' : Budget} {a : Pick} (hs : Stepped s a s') : Placed s' := by
  cases hs with
  | started hazard =>
    apply h.of_calls
    · intro k
      exact any_snoc (by simp [Call.registered]) k
    · intro k hk
      rw [any_snoc rfl]
      exact hk
    · intro c hc hcc
      rcases List.mem_append.1 hc with hc | hc
      · exact h.hazard c hc hcc
      · obtain rfl := List.mem_singleton.1 hc
        exact absurd hcc (by simp)
  | published i c hi hc =>
    apply h.of_calls
    · intro k
      exact any_set_eq (y := { c with done := true }) (p := Call.registered) hi rfl k
    · intro k hk
      rw [any_set hi]
      split
      next => rfl
      next => exact hk
    · intro d hd hdc
      rcases List.mem_or_eq_of_mem_set hd with hd | rfl
      · exact h.hazard d hd hdc
      · exact h.hazard c (List.mem_of_getElem? hi) hdc
  | waited i late c r hi hc hr =>
    apply h.of_caller _ hi
    · rcases hr with rfl | rfl <;> simp [Call.registered, hc]
    · rintro rfl
      simp at hr
  | noted i late c r hi hc hr =>
    apply h.of_caller _ hi
    · rcases hr with ⟨rfl, -⟩ | ⟨rfl, hz⟩
      · simp [Call.registered, hc]
      · simp [Call.registered, hz]
    · rintro rfl
      rcases hr with ⟨-, hz⟩ | ⟨hr, -⟩
      · exact hz
      · exact absurd hr (by simp)
  | registered i late c hi hc hfree =>
    have hz := h.hazard c (List.mem_of_getElem? hi) hc
    have hnot : s.registeredAt i = false := by simp [Budget.registeredAt, hi, Call.registered, hc]
    constructor
    · intro k
      have honce := h.once k
      unfold Budget.placed at honce ⊢
      simp only [Budget.registeredAt, List.count_append, any_set hi] at hnot honce ⊢
      by_cases hik : i = k
      · -- it was nowhere, and is in the list now
        subst hik
        rw [hnot, Bool.toNat_false] at honce
        rw [if_pos rfl, List.count_singleton_self]
        simp only [Call.registered, hz, decide_true, Bool.true_or, Bool.and_true, Bool.toNat_true]
        omega
      · rw [if_neg hik, ← honce, List.count_singleton, if_neg (by simpa using hik)]
        omega
    · intro w hw k hk
      have hd := h.done w hw k hk
      unfold Budget.doneAt at hd ⊢
      rw [any_set_eq (y := { c with caller := .returning }) hi rfl]
      exact hd
    · intro d hd hdc
      rcases List.mem_or_eq_of_mem_set hd with hd | rfl
      · exact h.hazard d hd hdc
      · exact absurd hdc (by simp)
  | returned i late c hi hc =>
    apply h.of_caller _ hi
    · simp [Call.registered, hc]
    · intro hr
      exact absurd hr (by simp)
  | swept =>
    constructor
    · intro i
      have honce := h.once i
      simpa [Budget.placed, Budget.registeredAt] using honce
    · intro w hw i hi
      rcases List.mem_append.1 hw with hw | hw
      · exact h.done w hw i hi
      · obtain rfl := List.mem_singleton.1 hw
        exact absurd hi (by simp)
    · exact h.hazard
  | locked j w hj hw hfree | kept j w before next i hj hw hi hd
  | ended j w before next hj hw hi => exact h.of_sweep _ hj (fun _ => rfl) fun _ hi => .inl hi
  | retired j w before next i hj hw hi hd =>
    apply h.of_sweep _ hj
    · intro k
      have hcount := count_eraseIdx hi k
      rw [List.count_append]
      omega
    · intro k hk
      rcases List.mem_append.1 hk with hk | hk
      · exact .inl hk
      · obtain rfl := List.mem_singleton.1 hk
        exact .inr hd

end Placed

/-! ### A sweep holds the lock while it visits -/

/-- What holds of a sweep at each of its statements. -/
def SweepOk (s : Budget) (j : ℕ) (w : Sweep) : Prop :=
  match w.phase with
  | .locking => s.holder ≠ some j ∧ w.retired = []
  | .visiting before next => s.holder = some j ∧ next ≤ s.heldDevices.length ∧
      before = s.heldDevices.length + w.retired.length
  | .done _ c => s.holder ≠ some j ∧ c = w.retired.length

structure SweepsOk (s : Budget) : Prop where
  ok : ∀ j w, s.sweeps[j]? = some w → SweepOk s j w
  holder : ∀ j, s.holder = some j → j < s.sweeps.length

lemma SweepOk.visiting {s : Budget} {j before next : ℕ} {w : Sweep} (h : SweepOk s j w)
    (hw : w.phase = .visiting before next) : s.holder = some j ∧ next ≤ s.heldDevices.length ∧
      before = s.heldDevices.length + w.retired.length := by
  unfold SweepOk at h
  rw [hw] at h
  exact h

lemma SweepOk.of_ne {s s' : Budget} {j : ℕ} {w : Sweep} (h : SweepOk s j w)
    (hs : s.holder ≠ some j) (hs' : s'.holder ≠ some j) : SweepOk s' j w := by
  unfold SweepOk at h ⊢
  cases hw : w.phase with
  | locking | done o c =>
    simp only [hw] at h ⊢
    exact ⟨hs', h.2⟩
  | visiting before next =>
    simp only [hw] at h
    exact absurd h.1 hs

namespace SweepsOk

variable {s : Budget}

lemma of_eq {s' : Budget} (h : SweepsOk s) (hsweeps : s'.sweeps = s.sweeps)
    (hholder : s'.holder = s.holder)
    (hheld : s'.heldDevices = s.heldDevices ∨ s.holder = none) : SweepsOk s' := by
  constructor
  · intro j w hj
    rw [hsweeps] at hj
    have hok := h.ok j w hj
    rcases hheld with hheld | hfree
    · unfold SweepOk at hok ⊢
      rw [hholder, hheld]
      exact hok
    · apply hok.of_ne
      · simp [hfree]
      · simp [hholder, hfree]
  · intro j hj
    rw [hsweeps]
    exact h.holder j (by rw [← hholder, hj])

lemma of_sweep (h : SweepsOk s) {held : List ℕ} {o : Option ℕ} {j : ℕ} {w w' : Sweep}
    (hj : s.sweeps[j]? = some w) (hs : s.holder = none ∨ s.holder = some j)
    (ho : o = none ∨ o = some j)
    (hw' : SweepOk { s with heldDevices := held, holder := o, sweeps := s.sweeps.set j w' } j w') :
    SweepsOk { s with heldDevices := held, holder := o, sweeps := s.sweeps.set j w' } := by
  have hlt := (List.getElem?_eq_some_iff.1 hj).1
  constructor
  · intro k v hk
    by_cases hjk : j = k
    · subst hjk
      rw [List.getElem?_set_self hlt] at hk
      cases hk
      exact hw'
    · rw [List.getElem?_set_ne hjk] at hk
      apply (h.ok k v hk).of_ne
      · rcases hs with hs | hs <;> simp [hs, hjk]
      · rcases ho with ho | ho <;> simp [ho, hjk]
  · intro k hk
    rcases ho with rfl | rfl
    · exact absurd hk (by simp)
    · cases hk
      rw [List.length_set]
      exact hlt

lemma step (h : SweepsOk s) {s' : Budget} {a : Pick} (hs : Stepped s a s') : SweepsOk s' := by
  cases hs with
  | started hazard | published i c hi hc | waited i late c r hi hc hr
  | noted i late c r hi hc hr | returned i late c hi hc => exact h.of_eq rfl rfl (.inl rfl)
  | registered i late c hi hc hfree => exact h.of_eq rfl rfl (.inr hfree)
  | swept =>
    constructor
    · intro j w hj
      rcases Nat.lt_or_ge j s.sweeps.length with hlt | hge
      · rw [List.getElem?_append_left hlt] at hj
        exact h.ok j w hj
      · rw [List.getElem?_append_right hge] at hj
        obtain rfl : w = {} := by simpa using List.mem_of_getElem? hj
        refine ⟨fun hholder => ?_, rfl⟩
        have hlt := h.holder j hholder
        omega
    · intro j hj
      have hlt := h.holder j hj
      rw [List.length_append]
      omega
  | locked j w hj hw hfree =>
    have hok := h.ok j w hj
    unfold SweepOk at hok
    rw [hw] at hok
    apply h.of_sweep hj (.inl hfree) (.inr rfl)
    exact ⟨rfl, Nat.zero_le _, by simp [hok.2]⟩
  | kept j w before next i hj hw hi hd =>
    obtain ⟨hholder, -, hbefore⟩ := (h.ok j w hj).visiting hw
    have hlt := (List.getElem?_eq_some_iff.1 hi).1
    apply h.of_sweep hj (.inr hholder) (.inr hholder)
    exact ⟨hholder, hlt, hbefore⟩
  | retired j w before next i hj hw hi hd =>
    obtain ⟨hholder, -, hbefore⟩ := (h.ok j w hj).visiting hw
    have hlt := (List.getElem?_eq_some_iff.1 hi).1
    have hlen := List.length_eraseIdx_of_lt hlt
    apply h.of_sweep hj (.inr hholder) (.inr hholder)
    unfold SweepOk
    simp only [hw, List.length_append, List.length_singleton]
    exact ⟨hholder, by omega, by omega⟩
  | ended j w before next hj hw hi =>
    obtain ⟨hholder, -, hbefore⟩ := (h.ok j w hj).visiting hw
    apply h.of_sweep hj (.inr hholder) (.inl rfl)
    refine ⟨by simp, ?_⟩
    show before - s.heldDevices.length = w.retired.length
    omega

end SweepsOk

/-! ### The latch -/

def Latched (s : Budget) : Prop := s.abandoned = true ↔ ∃ c ∈ s.calls, c.noted = true

lemma Latched.step {s s' : Budget} {a : Pick} (h : Latched s) (hs : Stepped s a s') :
    Latched s' := by
  unfold Latched at h ⊢
  cases hs with
  | started hazard =>
    rw [h]
    constructor
    · rintro ⟨c, hc, hn⟩
      exact ⟨c, List.mem_append_left _ hc, hn⟩
    · rintro ⟨c, hc, hn⟩
      rcases List.mem_append.1 hc with hc | hc
      · exact ⟨c, hc, hn⟩
      · obtain rfl := List.mem_singleton.1 hc
        exact absurd hn (by simp [Call.noted])
  | published i c hi hc =>
    rw [exists_mem_set_iff hi (by simp [Call.noted])]
    exact h
  | waited i late c r hi hc hr =>
    rw [exists_mem_set_iff hi (by rcases hr with rfl | rfl <;> simp [Call.noted, hc])]
    exact h
  | noted i late c r hi hc hr =>
    have hlt := (List.getElem?_eq_some_iff.1 hi).1
    refine ⟨fun _ => ⟨_, List.mem_of_getElem? (List.getElem?_set_self hlt), ?_⟩, fun _ => rfl⟩
    rcases hr with ⟨rfl, -⟩ | ⟨rfl, -⟩ <;> simp [Call.noted]
  | registered i late c hi hc hfree | returned i late c hi hc =>
    rw [exists_mem_set_iff hi (by simp [Call.noted, hc])]
    exact h
  | swept => exact h
  | locked => exact h
  | kept => exact h
  | retired => exact h
  | ended => exact h

/-! ### What a sweep finds outstanding

A sweep that stands at a position has kept the gates before it, and of those from it on it
will keep the ones that have not published, if nothing else happens.  This number only
falls, one at a time, as does the number of outstanding workers, which it bounds. -/

lemma getElem?_snoc {α : Type*} {l : List α} {x y : α} {j : ℕ} (h : (l ++ [y])[j]? = some x)
    (hne : x ≠ y) : l[j]? = some x := by
  rcases getElem?_snoc_cases h with h | ⟨-, hxy⟩
  · exact h
  · exact absurd hxy hne

/-- The gates that a sweep at this position would keep now. -/
def Budget.pending (s : Budget) (next : ℕ) : ℕ :=
  next + ((s.heldDevices.drop next).filter fun i => !s.doneAt i).length

lemma Placed.outstanding_eq {s : Budget} (h : Placed s) : s.outstanding = s.pending 0 := by
  have hset : (Finset.range s.calls.length).filter (fun i => s.registeredAt i ∧ ¬ s.doneAt i)
      = (s.heldDevices.filter fun i => !s.doneAt i).toFinset := by
    ext i
    simp only [Finset.mem_filter, Finset.mem_range, List.mem_toFinset, List.mem_filter,
      Bool.not_eq_true, Bool.not_eq_eq_eq_not, Bool.not_true]
    constructor
    · rintro ⟨-, hreg, hd⟩
      refine ⟨?_, hd⟩
      by_contra hi
      -- it would be among the retired, which have published
      obtain ⟨w, hw, hmem⟩ := h.exists_retired hreg hi
      rw [h.done w hw i hmem] at hd
      exact Bool.noConfusion hd
    · rintro ⟨hi, hd⟩
      have hreg := h.mem_held hi
      refine ⟨?_, hreg, hd⟩
      obtain ⟨c, hc, -⟩ := (Option.any_eq_true _ _).1 hreg
      exact (List.getElem?_eq_some_iff.1 hc).1
  rw [Budget.outstanding, hset, List.toFinset_card_of_nodup (h.nodup.filter _), Budget.pending,
    List.drop_zero, zero_add]

lemma pending_zero_le (s : Budget) : s.pending 0 ≤ s.heldDevices.length := by
  rw [Budget.pending, List.drop_zero, zero_add]
  exact List.length_filter_le _ _

lemma drop_of_getElem? {l : List ℕ} {k i : ℕ} (hk : l[k]? = some i) :
    l.drop k = i :: l.drop (k + 1) := by
  obtain ⟨hlt, rfl⟩ := List.getElem?_eq_some_iff.1 hk
  exact List.drop_eq_getElem_cons hlt

lemma drop_eraseIdx {l : List ℕ} {k i : ℕ} (hk : l[k]? = some i) :
    (l.eraseIdx k).drop k = l.drop (k + 1) := by
  have hlt := (List.getElem?_eq_some_iff.1 hk).1
  have hlen : (l.take k).length = k := by simp; omega
  rw [List.eraseIdx_eq_take_drop_succ]
  exact List.drop_left' hlen

lemma pending_kept {s : Budget} {next i : ℕ} (hi : s.heldDevices[next]? = some i)
    (hd : s.doneAt i = false) : s.pending (next + 1) = s.pending next := by
  rw [Budget.pending, Budget.pending, drop_of_getElem? hi, List.filter_cons_of_pos (by simp [hd]),
    List.length_cons]
  omega

lemma filter_eraseIdx {l : List ℕ} {k i : ℕ} {p : ℕ → Bool} (hk : l[k]? = some i)
    (hp : p i = false) : (l.eraseIdx k).filter p = l.filter p := by
  have hl : l.take k ++ l.drop k = l := List.take_append_drop k l
  rw [drop_of_getElem? hk] at hl
  conv_rhs => rw [← hl]
  rw [List.eraseIdx_eq_take_drop_succ, List.filter_append, List.filter_append,
    List.filter_cons_of_neg (by simp [hp])]

section Retired

variable {s : Budget} {sweeps : List Sweep} {next i : ℕ}

lemma pending_retired (hi : s.heldDevices[next]? = some i) (hd : s.doneAt i = true) :
    Budget.pending { s with heldDevices := s.heldDevices.eraseIdx next, sweeps := sweeps } next
      = s.pending next := by
  show next + (((s.heldDevices.eraseIdx next).drop next).filter fun i => !s.doneAt i).length = _
  rw [drop_eraseIdx hi, Budget.pending, drop_of_getElem? hi, List.filter_cons_of_neg (by simp [hd])]

lemma pending_zero_retired (hi : s.heldDevices[next]? = some i) (hd : s.doneAt i = true) :
    Budget.pending { s with heldDevices := s.heldDevices.eraseIdx next, sweeps := sweeps } 0
      = s.pending 0 := by
  show 0 + ((s.heldDevices.eraseIdx next).filter fun i => !s.doneAt i).length
    = 0 + (s.heldDevices.filter fun i => !s.doneAt i).length
  rw [filter_eraseIdx hi (by simp [hd])]

end Retired

lemma outstanding_published {s s' : Budget} {i : ℕ} (hlen : s'.calls.length = s.calls.length)
    (hreg : ∀ k, s'.registeredAt k = s.registeredAt k)
    (hdone : ∀ k, k ≠ i → s'.doneAt k = s.doneAt k) : s.outstanding ≤ s'.outstanding + 1 := by
  unfold Budget.outstanding
  rw [hlen]
  have hsub :
      ((Finset.range s.calls.length).filter fun k => s.registeredAt k ∧ ¬ s.doneAt k).erase i
      ⊆ (Finset.range s.calls.length).filter fun k => s'.registeredAt k ∧ ¬ s'.doneAt k := by
    intro k hk
    rw [Finset.mem_erase, Finset.mem_filter] at hk
    obtain ⟨hki, hlt, hkr, hkd⟩ := hk
    rw [Finset.mem_filter, hreg, hdone k hki]
    exact ⟨hlt, hkr, hkd⟩
  have hle := Finset.card_le_card hsub
  have hpred := Finset.pred_card_le_card_erase (a := i)
    (s := (Finset.range s.calls.length).filter fun k => s.registeredAt k ∧ ¬ s.doneAt k)
  omega

/-- A state while the sweep held the lock had that many outstanding workers. -/
def Attained (es : List (Transition Budget Pick)) (j m : ℕ) : Prop :=
  ∃ t ∈ es, t.pre.holder = some j ∧ t.pre.outstanding = m

lemma Attained.snoc {es : List (Transition Budget Pick)} {j m : ℕ} (h : Attained es j m)
    (e : Transition Budget Pick) : Attained (es ++ [e]) j m := by
  obtain ⟨t, ht, hj, hm⟩ := h
  exact ⟨t, List.mem_append_left _ ht, hj, hm⟩

structure Counting (es : List (Transition Budget Pick)) (s : Budget) : Prop where
  visiting : ∀ j w before next, s.sweeps[j]? = some w → w.phase = .visiting before next →
    ∀ m, s.outstanding ≤ m → m ≤ s.pending next → m = s.outstanding ∨ Attained es j m
  ended : ∀ j w o c, s.sweeps[j]? = some w → w.phase = .done o c → Attained es j o

namespace Counting

variable {es : List (Transition Budget Pick)} {s : Budget}

lemma fall {s' : Budget} {a : Pick} {j u m : ℕ} (hj : s.holder = some j)
    (h : ∀ m, s.outstanding ≤ m → m ≤ u → m = s.outstanding ∨ Attained es j m)
    (ha : s.outstanding ≤ s'.outstanding + 1) (hm : s'.outstanding ≤ m) (hmu : m ≤ u) :
    m = s'.outstanding ∨ Attained (es ++ [⟨s, a, s'⟩]) j m := by
  by_cases hma : m = s'.outstanding
  · exact .inl hma
  · rcases h m (by omega) hmu with rfl | hatt
    · exact .inr ⟨_, List.mem_concat_self, hj, rfl⟩
    · exact .inr (hatt.snoc _)

lemma of_sweeps (h : Counting es s) (hok : SweepsOk s) {s' : Budget} {a : Pick}
    (hsweeps : s'.sweeps = s.sweeps) (ha : s.outstanding ≤ s'.outstanding + 1)
    (hu : ∀ next, s.holder ≠ none → s'.pending next ≤ s.pending next) :
    Counting (es ++ [⟨s, a, s'⟩]) s' := by
  constructor
  · intro j w before next hj hw m hm hmu
    rw [hsweeps] at hj
    obtain ⟨hholder, -, -⟩ := (hok.ok j w hj).visiting hw
    have hle := hu next (by simp [hholder])
    exact fall hholder (h.visiting j w before next hj hw) ha hm (by omega)
  · intro j w o c hj hw
    rw [hsweeps] at hj
    exact (h.ended j w o c hj hw).snoc _

lemma pending_congr {s s' : Budget} (hheld : s'.heldDevices = s.heldDevices)
    (hdone : ∀ k, s'.doneAt k = s.doneAt k) (next : ℕ) : s'.pending next = s.pending next := by
  unfold Budget.pending
  rw [hheld]
  simp only [hdone]

lemma of_frame (h : Counting es s) (hok : SweepsOk s) (hp : Placed s) {s' : Budget} {a : Pick}
    (hp' : Placed s') (hsweeps : s'.sweeps = s.sweeps)
    (hheld : s'.heldDevices = s.heldDevices) (hdone : ∀ k, s'.doneAt k = s.doneAt k) :
    Counting (es ++ [⟨s, a, s'⟩]) s' := by
  have hpending := pending_congr hheld hdone
  apply h.of_sweeps hok hsweeps
  · rw [hp.outstanding_eq, hp'.outstanding_eq, hpending]
    exact Nat.le_succ _
  · intro next _
    exact (hpending next).le

lemma of_sweep (h : Counting es s) (hok : SweepsOk s) {s' : Budget} {a : Pick} {j : ℕ}
    {w w' : Sweep} (hj : s.sweeps[j]? = some w)
    (hsweeps : s'.sweeps = s.sweeps.set j w') (hholder : s.holder = none ∨ s.holder = some j)
    (hvisiting : ∀ before next, w'.phase = .visiting before next → ∀ m, s'.outstanding ≤ m →
      m ≤ s'.pending next → m = s'.outstanding ∨ Attained (es ++ [⟨s, a, s'⟩]) j m)
    (hended : ∀ o c, w'.phase = .done o c → Attained (es ++ [⟨s, a, s'⟩]) j o) :
    Counting (es ++ [⟨s, a, s'⟩]) s' := by
  have hlt := (List.getElem?_eq_some_iff.1 hj).1
  constructor
  · intro k v before next hk hv
    rw [hsweeps] at hk
    by_cases hjk : j = k
    · subst hjk
      rw [List.getElem?_set_self hlt] at hk
      cases hk
      exact hvisiting before next hv
    · -- no other sweep visits
      rw [List.getElem?_set_ne hjk] at hk
      obtain ⟨hother, -, -⟩ := (hok.ok k v hk).visiting hv
      rcases hholder with hfree | hholder
      · rw [hfree] at hother
        exact absurd hother (by simp)
      · rw [hholder] at hother
        exact absurd (Option.some.inj hother) hjk
  · intro k v o c hk hv
    rw [hsweeps] at hk
    by_cases hjk : j = k
    · subst hjk
      rw [List.getElem?_set_self hlt] at hk
      cases hk
      exact hended o c hv
    · rw [List.getElem?_set_ne hjk] at hk
      exact (h.ended k v o c hk hv).snoc _

lemma step (h : Counting es s) (hok : SweepsOk s) (hp : Placed s) {s' : Budget} {a : Pick}
    (hs : Stepped s a s') : Counting (es ++ [⟨s, a, s'⟩]) s' := by
  have hp' := hp.step hs
  cases hs with
  | started hazard =>
    refine h.of_frame hok hp hp' rfl rfl ?_
    intro k
    exact any_snoc (p := Call.done) rfl k
  | published i c hi hc =>
    refine h.of_sweeps hok rfl ?_ ?_
    · apply outstanding_published (i := i)
      · simp
      · intro k
        exact any_set_eq (y := { c with done := true }) (p := Call.registered) hi rfl k
      · intro k hk
        unfold Budget.doneAt
        rw [any_set hi, if_neg (Ne.symm hk)]
    · intro next _
      apply Nat.add_le_add_left
      apply List.Sublist.length_le
      apply List.monotone_filter_right
      intro k hk
      unfold Budget.doneAt at hk ⊢
      rw [any_set hi] at hk
      split at hk
      next => exact absurd hk (by simp)
      next => exact hk
  | waited i late c r hi hc hr | noted i late c r hi hc hr =>
    refine h.of_frame hok hp hp' rfl rfl ?_
    intro k
    exact any_set_eq (y := { c with caller := r }) (p := Call.done) hi rfl k
  | registered i late c hi hc hfree =>
    have hdone (k : ℕ) :=
      any_set_eq (y := { c with caller := .returning }) (p := Call.done) hi rfl k
    refine h.of_sweeps hok rfl ?_ ?_
    · rw [hp.outstanding_eq, hp'.outstanding_eq]
      unfold Budget.pending Budget.doneAt
      simp only [hdone, List.drop_zero, List.filter_append, List.length_append]
      omega
    · intro next hne
      exact absurd hfree hne
  | returned i late c hi hc =>
    refine h.of_frame hok hp hp' rfl rfl ?_
    intro k
    exact any_set_eq (y := { c with caller := .returned false }) (p := Call.done) hi rfl k
  | swept =>
    constructor
    · intro j w before next hj hw m hm hmu
      have hj := getElem?_snoc hj (by rintro rfl; exact absurd hw (by simp))
      obtain ⟨hholder, -, -⟩ := (hok.ok j w hj).visiting hw
      exact fall hholder (h.visiting j w before next hj hw) (Nat.le_succ _) hm hmu
    · intro j w o c hj hw
      have hj := getElem?_snoc hj (by rintro rfl; exact absurd hw (by simp))
      exact (h.ended j w o c hj hw).snoc _
  | locked j w hj hw hfree =>
    refine h.of_sweep hok hj rfl (.inl hfree) ?_ ?_
    · intro before next hv m hm hmu
      obtain ⟨rfl, rfl⟩ := SweepAt.visiting.inj hv
      rw [hp'.outstanding_eq] at hm ⊢
      exact .inl (by omega)
    · intro o c hv
      exact absurd hv (by simp)
  | kept j w before next i hj hw hi hd =>
    obtain ⟨hholder, -, -⟩ := (hok.ok j w hj).visiting hw
    refine h.of_sweep hok hj rfl (.inr hholder) ?_ ?_
    · intro before' next' hv m hm hmu
      obtain ⟨rfl, rfl⟩ := SweepAt.visiting.inj hv
      exact fall hholder (h.visiting j w before next hj hw) (Nat.le_succ _) hm
        (hmu.trans_eq (pending_kept hi hd))
    · intro o c hv
      exact absurd hv (by simp)
  | retired j w before next i hj hw hi hd =>
    obtain ⟨hholder, -, -⟩ := (hok.ok j w hj).visiting hw
    refine h.of_sweep hok hj rfl (.inr hholder) ?_ ?_
    · intro before' next' hv m hm hmu
      obtain ⟨rfl, rfl⟩ := SweepAt.visiting.inj (hw.symm.trans hv)
      have hout : s.outstanding ≤ Budget.outstanding { s with
          heldDevices := s.heldDevices.eraseIdx next
          sweeps := s.sweeps.set j { w with retired := w.retired ++ [i] } } := by
        rw [hp.outstanding_eq, hp'.outstanding_eq]
        exact (pending_zero_retired hi hd).ge
      exact fall hholder (h.visiting j w before next hj hw) (hout.trans (Nat.le_succ _)) hm
        (hmu.trans_eq (pending_retired hi hd))
    · intro o c hv
      exact absurd (hw.symm.trans hv) (by simp)
  | ended j w before next hj hw hi =>
    obtain ⟨hholder, hle, -⟩ := (hok.ok j w hj).visiting hw
    have hlen := List.getElem?_eq_none_iff.1 hi
    refine h.of_sweep hok hj rfl (.inr hholder) ?_ ?_
    · intro before' next' hv
      exact absurd hv (by simp)
    · intro o c hv
      obtain ⟨rfl, -⟩ := SweepAt.done.inj hv
      have hnext : next = s.heldDevices.length := by omega
      have hle := pending_zero_le s
      have hpending : s.pending next = s.heldDevices.length := by
        rw [hnext, Budget.pending, List.drop_length, List.filter_nil, List.length_nil, add_zero]
      rcases h.visiting j w before next hj hw s.heldDevices.length
        (by rw [hp.outstanding_eq]; exact hle) hpending.ge with heq | hatt
      · exact ⟨_, List.mem_concat_self, hholder, heq.symm⟩
      · exact hatt.snoc _

end Counting

/-! ### What a sweep retires -/

lemma Stepped.doneAt {s s' : Budget} {a : Pick} (hs : Stepped s a s') {k : ℕ}
    (hk : s.doneAt k = true) : s'.doneAt k = true := by
  unfold Budget.doneAt at hk ⊢
  cases hs with
  | started hazard =>
    rw [any_snoc rfl]
    exact hk
  | published i c hi hc =>
    rw [any_set hi]
    split
    next => rfl
    next => exact hk
  | waited i late c r hi hc hr | noted i late c r hi hc hr =>
    rw [any_set_eq (y := { c with caller := r }) hi rfl]
    exact hk
  | registered i late c hi hc hfree =>
    rw [any_set_eq (y := { c with caller := .returning }) hi rfl]
    exact hk
  | returned i late c hi hc =>
    rw [any_set_eq (y := { c with caller := .returned false }) hi rfl]
    exact hk
  | swept => exact hk
  | locked => exact hk
  | kept => exact hk
  | retired => exact hk
  | ended => exact hk

lemma Stepped.registeredAt {s s' : Budget} {a : Pick} (hs : Stepped s a s') {k : ℕ}
    (hk : s.registeredAt k = true) : s'.registeredAt k = true := by
  unfold Budget.registeredAt at hk ⊢
  cases hs with
  | started hazard =>
    rw [any_snoc (by simp [Call.registered])]
    exact hk
  | published i c hi hc =>
    rw [any_set_eq (y := { c with done := true }) hi rfl]
    exact hk
  | waited i late c r hi hc hr | noted i late c r hi hc hr | registered i late c hi hc hfree =>
    rw [any_set hi]
    split
    next hik =>
      subst hik
      exact absurd hk (by simp [hi, Call.registered, hc])
    next => exact hk
  | returned i late c hi hc =>
    rw [any_set_eq (y := { c with caller := .returned false }) hi (by simp [Call.registered, hc])]
    exact hk
  | swept => exact hk
  | locked => exact hk
  | kept => exact hk
  | retired => exact hk
  | ended => exact hk

/-- The worker has published, and the sweep has it before it or has retired it. -/
structure Found (s : Budget) (j i : ℕ) : Prop where
  registered : s.registeredAt i = true
  done : s.doneAt i = true
  visiting : ∀ w before next, s.sweeps[j]? = some w → w.phase = .visiting before next →
    i ∈ s.heldDevices → i ∈ s.heldDevices.drop next
  ended : ∀ w o c, s.sweeps[j]? = some w → w.phase = .done o c → i ∉ s.heldDevices

namespace Found

variable {s : Budget} {j i : ℕ}

lemma of_eq (h : Found s j i) {s' : Budget} {a : Pick} (hs : Stepped s a s')
    (hsweeps : s'.sweeps = s.sweeps) (hheld : s'.heldDevices = s.heldDevices) : Found s' j i := by
  constructor
  · exact hs.registeredAt h.registered
  · exact hs.doneAt h.done
  · rw [hsweeps, hheld]
    exact h.visiting
  · rw [hsweeps, hheld]
    exact h.ended

lemma of_sweep (h : Found s j i) (hok : SweepsOk s) {s' : Budget} {a : Pick} (hs : Stepped s a s')
    {k : ℕ} {w w' : Sweep} (hk : s.sweeps[k]? = some w) (hsweeps : s'.sweeps = s.sweeps.set k w')
    (hsub : s'.heldDevices.Sublist s.heldDevices)
    (hheld : s'.heldDevices = s.heldDevices ∨ s.holder = some k)
    (hvisiting : j = k → ∀ before next, w'.phase = .visiting before next → i ∈ s'.heldDevices →
      i ∈ s'.heldDevices.drop next)
    (hended : j = k → ∀ o c, w'.phase = .done o c → i ∉ s'.heldDevices) : Found s' j i := by
  have hlt := (List.getElem?_eq_some_iff.1 hk).1
  constructor
  · exact hs.registeredAt h.registered
  · exact hs.doneAt h.done
  · intro v before next hj hv
    rw [hsweeps] at hj
    by_cases hkj : k = j
    · subst hkj
      rw [List.getElem?_set_self hlt] at hj
      cases hj
      exact hvisiting rfl before next hv
    · rw [List.getElem?_set_ne hkj] at hj
      rcases hheld with hheld | hholder
      · rw [hheld]
        exact h.visiting v before next hj hv
      · obtain ⟨hother, -, -⟩ := (hok.ok j v hj).visiting hv
        exact absurd (Option.some.inj (hholder.symm.trans hother)) hkj
  · intro v o c hj hv
    rw [hsweeps] at hj
    by_cases hkj : k = j
    · subst hkj
      rw [List.getElem?_set_self hlt] at hj
      cases hj
      exact hended rfl o c hv
    · rw [List.getElem?_set_ne hkj] at hj
      intro hi
      exact h.ended v o c hj hv (hsub.subset hi)

lemma step (h : Found s j i) (hok : SweepsOk s) (hp : Placed s) {s' : Budget} {a : Pick}
    (hs : Stepped s a s') : Found s' j i := by
  cases hs with
  | started hazard => exact h.of_eq (.started hazard) rfl rfl
  | published k c hk hc => exact h.of_eq (.published k c hk hc) rfl rfl
  | waited k late c r hk hc hr => exact h.of_eq (.waited k late c r hk hc hr) rfl rfl
  | noted k late c r hk hc hr => exact h.of_eq (.noted k late c r hk hc hr) rfl rfl
  | registered k late c hk hc hfree =>
    have hs : Stepped s (.caller k late) _ := .registered k late c hk hc hfree
    constructor
    · exact hs.registeredAt h.registered
    · exact hs.doneAt h.done
    · intro w before next hj hw
      obtain ⟨hholder, -, -⟩ := (hok.ok j w hj).visiting hw
      exact absurd (hholder.symm.trans hfree) (by simp)
    · intro w o c' hj hw hi
      rcases List.mem_append.1 hi with hi | hi
      · exact h.ended w o c' hj hw hi
      · -- only now is the worker of this call registered
        obtain rfl := List.mem_singleton.1 hi
        have hreg := h.registered
        exact absurd hreg (by simp [Budget.registeredAt, hk, Call.registered, hc])
  | returned k late c hk hc => exact h.of_eq (.returned k late c hk hc) rfl rfl
  | swept =>
    constructor
    · exact h.registered
    · exact h.done
    · intro w before next hj hw
      exact h.visiting w before next
        (getElem?_snoc hj (by rintro rfl; exact absurd hw (by simp))) hw
    · intro w o c hj hw
      exact h.ended w o c (getElem?_snoc hj (by rintro rfl; exact absurd hw (by simp))) hw
  | locked k w hk hw hfree =>
    refine h.of_sweep hok (.locked k w hk hw hfree) hk rfl (List.Sublist.refl _) (.inl rfl) ?_ ?_
    · intro _ before next hv hi
      obtain ⟨-, rfl⟩ := SweepAt.visiting.inj hv
      exact hi
    · intro _ o c hv
      exact absurd hv (by simp)
  | kept k w before next x hk hw hx hd =>
    refine h.of_sweep hok (.kept k w before next x hk hw hx hd) hk rfl (List.Sublist.refl _)
      (.inl rfl) ?_ ?_
    · rintro rfl before' next' hv hi
      obtain ⟨rfl, rfl⟩ := SweepAt.visiting.inj hv
      have hmem := h.visiting w before next hk hw hi
      rw [drop_of_getElem? hx] at hmem
      rcases List.mem_cons.1 hmem with rfl | hmem
      · rw [h.done] at hd
        exact Bool.noConfusion hd
      · exact hmem
    · intro _ o c hv
      exact absurd hv (by simp)
  | retired k w before next x hk hw hx hd =>
    obtain ⟨hholder, -, -⟩ := (hok.ok k w hk).visiting hw
    refine h.of_sweep hok (.retired k w before next x hk hw hx hd) hk rfl
      (List.eraseIdx_sublist _ _) (.inr hholder) ?_ ?_
    · rintro rfl before' next' hv hi
      obtain ⟨rfl, rfl⟩ := SweepAt.visiting.inj (hw.symm.trans hv)
      show i ∈ (s.heldDevices.eraseIdx next).drop next
      have hmem := h.visiting w before next hk hw ((List.eraseIdx_sublist _ _).subset hi)
      rw [drop_of_getElem? hx] at hmem
      rw [drop_eraseIdx hx]
      rcases List.mem_cons.1 hmem with rfl | hmem
      · -- it was in the list once
        have hcount := count_eraseIdx hx i
        rw [List.count_singleton_self] at hcount
        have hone := (List.nodup_iff_count_le_one.1 hp.nodup) i
        have hpos : 0 < (s.heldDevices.eraseIdx next).count i := List.count_pos_iff.2 hi
        omega
      · exact hmem
    · rintro rfl o c hv
      exact absurd (hw.symm.trans hv) (by simp)
  | ended k w before next hk hw hx =>
    refine h.of_sweep hok (.ended k w before next hk hw hx) hk rfl (List.Sublist.refl _) (.inl rfl)
      ?_ ?_
    · intro _ before' next' hv
      exact absurd hv (by simp)
    · rintro rfl o c hv hi
      have hmem := h.visiting w before next hk hw hi
      rw [List.drop_eq_nil_of_le (List.getElem?_eq_none_iff.1 hx)] at hmem
      exact absurd hmem (by simp)

lemma locked {s' : Budget} {a : Pick} (hs : Stepped s a s') (hlock : Locks ⟨s, a, s'⟩ j)
    (hreg : s.registeredAt i = true) (hd : s.doneAt i = true) : Found s' j i := by
  obtain ⟨ha, w, hj, hw⟩ := hlock
  obtain rfl : a = .sweep j := ha
  have hlt := (List.getElem?_eq_some_iff.1 hj).1
  have hreg' := hs.registeredAt hreg
  have hd' := hs.doneAt hd
  cases hs with
  | locked _ v hv hvw hfree =>
    cases hj.symm.trans hv
    constructor
    · exact hreg'
    · exact hd'
    · intro v before next hv hvv hi
      rw [List.getElem?_set_self hlt] at hv
      cases hv
      obtain ⟨-, rfl⟩ := SweepAt.visiting.inj hvv
      exact hi
    · intro v o c hv hvv
      rw [List.getElem?_set_self hlt] at hv
      cases hv
      exact absurd hvv (by simp)
  | kept _ v before next x hv hvw hx hdx | retired _ v before next x hv hvw hx hdx
  | ended _ v before next hv hvw hx =>
    cases hj.symm.trans hv
    exact absurd (hw.symm.trans hvw) (by simp)

end Found

/-! ### Every run -/

structure Invariant (es : List (Transition Budget Pick)) (s : Budget) : Prop where
  placed : Placed s
  sweeps : SweepsOk s
  latched : Latched s
  counting : Counting es s
  found : ∀ t ∈ es, ∀ j, Locks t j → ∀ i, t.pre.registeredAt i = true → t.pre.doneAt i = true →
    Found s j i

lemma Invariant.step {es : List (Transition Budget Pick)} {s s' : Budget} {a : Pick}
    (h : Invariant es s) (hs : Stepped s a s') : Invariant (es ++ [⟨s, a, s'⟩]) s' := by
  constructor
  · exact h.placed.step hs
  · exact h.sweeps.step hs
  · exact h.latched.step hs
  · exact h.counting.step h.sweeps h.placed hs
  · intro t ht j hlock i hreg hd
    rcases List.mem_append.1 ht with ht | ht
    · exact (h.found t ht j hlock i hreg hd).step h.sweeps h.placed hs
    · obtain rfl := List.mem_singleton.1 ht
      exact Found.locked hs hlock hreg hd

lemma Invariant.of_run {es : List (Transition Budget Pick)} {s : Budget} (h : Budget.Runs es s) :
    Invariant es s := by
  apply h.invariant
  · rintro s rfl
    constructor
    · constructor <;> simp [Budget.placed, Budget.registeredAt]
    · constructor <;> simp
    · simp [Latched]
    · constructor <;> simp
    · simp
  · rintro es s a s' hinv ⟨hs, -⟩
    exact hinv.step (stepped_of_step hs)

lemma countP_le_sum (l : List Sweep) (i : ℕ) :
    l.countP (i ∈ ·.retired) ≤ (l.map fun w => w.retired.count i).sum := by
  induction l with
  | nil => simp
  | cons w l ih =>
    rw [List.countP_cons, List.map_cons, List.sum_cons]
    split
    next hi =>
      have hpos := List.count_pos_iff.2 (of_decide_eq_true hi)
      omega
    next => omega

lemma count_le_sum {l : List Sweep} {w : Sweep} (hw : w ∈ l) (i : ℕ) :
    w.retired.count i ≤ (l.map fun w => w.retired.count i).sum :=
  List.single_le_sum (by simp) _ (List.mem_map_of_mem hw)

lemma Placed.counted_le {s : Budget} (h : Placed s) (i : ℕ) : s.counted i ≤ 1 := by
  have hle := countP_le_sum s.sweeps i
  have hsum := h.sum_le i
  unfold Budget.counted
  omega

theorem teardowns_accounted (es : List (Transition Budget Pick)) (s : Budget)
    (h : Budget.Runs es s) : Accounted es s := by
  have hinv := Invariant.of_run h
  constructor
  · exact hinv.counting.ended
  · intro w hw o c hc
    obtain ⟨j, hj⟩ := List.mem_iff_getElem?.1 hw
    have hok := hinv.sweeps.ok j w hj
    unfold SweepOk at hok
    rw [hc] at hok
    refine ⟨hok.2, List.nodup_iff_count_le_one.2 ?_⟩
    intro i
    have hle := count_le_sum hw i
    have hsum := hinv.placed.sum_le i
    omega
  · exact hinv.placed.counted_le
  · intro i hi
    obtain ⟨w, hw, hmem⟩ := List.countP_pos_iff.1 hi
    have hmem : i ∈ w.retired := of_decide_eq_true hmem
    refine ⟨?_, hinv.placed.done w hw i hmem⟩
    have hpos := List.count_pos_iff.2 hmem
    have hle := count_le_sum hw i
    have honce := hinv.placed.once i
    by_contra hreg
    rw [Bool.eq_false_of_not_eq_true hreg, Bool.toNat_false, Budget.placed] at honce
    omega
  · intro t ht j hlock i hreg hd w o c hj hw
    have hfound := hinv.found t ht j hlock i hreg hd
    obtain ⟨v, hv, hmem⟩ := hinv.placed.exists_retired hfound.registered (hfound.ended w o c hj hw)
    have hpos : 0 < s.counted i := List.countP_pos_iff.2 ⟨v, hv, decide_eq_true hmem⟩
    have hle := hinv.placed.counted_le i
    omega
  · exact hinv.latched

/-- Two callers give up; the worker of the second publishes before a sweep. -/
def lateLabels : List Pick :=
  [.runBounded .holdsSessionDevice, .runBounded .holdsSessionDevice, .caller 0 true,
    .caller 1 true, .caller 1 false, .caller 1 false, .caller 0 false, .caller 0 false,
    .caller 0 false, .caller 1 false, .worker 1, .sweepAbandonedTeardowns, .sweep 0, .sweep 0,
    .sweep 0, .sweep 0]

theorem teardowns_accounted_late : ∃ es s, Budget.Runs es s ∧
    (∃ w ∈ s.sweeps, w.phase = .done 1 1 ∧ w.retired = [1]) ∧ Accounted es s := by
  obtain ⟨es, s, h, hgood⟩ := Run.exists_of_cond step (fun _ _ => True) {} lateLabels
    (fun s => decide (∃ w ∈ s.sweeps, w.phase = .done 1 1 ∧ w.retired = [1])) (by decide +kernel)
  exact ⟨es, s, h, of_decide_eq_true hgood, teardowns_accounted es s h⟩

/-- The latch is set before the caller returns; and a worker publishes behind the sweep,
which then returns a number that is no longer that of the outstanding workers. -/
theorem accounts_lag :
    (∃ es s, Budget.Runs es s ∧ s.abandoned = true ∧ ∀ c ∈ s.calls, c.caller ≠ .returned false) ∧
    ∃ es s s', Budget.Runs es s ∧ step s (.sweep 0) = some s' ∧
      (∃ w ∈ s'.sweeps, w.phase = .done 1 0) ∧ s.outstanding = 0 ∧ s'.outstanding = 0 := by
  constructor
  · obtain ⟨es, s, h, hgood⟩ := Run.exists_of_cond step (fun _ _ => True) {}
      [Pick.runBounded .holdsSessionDevice, .caller 0 true, .caller 0 false]
      (fun s => decide (s.abandoned = true ∧ ∀ c ∈ s.calls, c.caller ≠ .returned false))
      (by decide +kernel)
    obtain ⟨habandoned, hcalls⟩ := of_decide_eq_true hgood
    exact ⟨es, s, h, habandoned, hcalls⟩
  · obtain ⟨es, s, h, hgood⟩ := Run.exists_of_cond step (fun _ _ => True) {}
      [Pick.runBounded .holdsSessionDevice, .caller 0 true, .caller 0 false, .caller 0 false,
        .caller 0 false, .sweepAbandonedTeardowns, .sweep 0, .sweep 0, .worker 0]
      (fun s => decide (s.outstanding = 0) && (step s (.sweep 0)).any fun s' : Budget =>
        decide ((∃ w ∈ s'.sweeps, w.phase = .done 1 0) ∧ s'.outstanding = 0)) (by decide +kernel)
    rw [Bool.and_eq_true] at hgood
    obtain ⟨s', hs', hdone⟩ := (Option.any_eq_true _ _).1 hgood.2
    obtain ⟨hw, hout⟩ := of_decide_eq_true hdone
    exact ⟨es, s, s', h, hs', hw, of_decide_eq_true hgood.1, hout⟩

end UrnetworkWindows.Controller.StopBudget
