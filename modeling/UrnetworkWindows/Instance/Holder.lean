/-
The threads of the instance that holds the key (`InstanceHandover.h`, `ActivationGate`,
as `main.cpp` and `App.xaml.cpp` use it).

Every redirected launch is a `Take` on a thread of its own, `Close` may be called on any
thread and any number of times, and the UI thread opens the gate, runs what was posted to
it in order and passes launches to `serve`.  A step is one critical section, one call of
`post` or of `serve`, or the raising of the exiting signal; `post` may fail each time, a
deadline may pass at any time, and a thread that stops is one that takes no step.

`hands` is what the UI thread has marked served and is about to pass to `serve`, and
`served` the calls of `serve` so far.
-/
import UrnetworkWindows.Instance.Gate
import UrnetworkWindows.Lib.Trace

namespace UrnetworkWindows.Instance

open Lib

/-! ### The model -/

/-- The next statement of `Close`. -/
inductive CloseAt
  | raising
  | locking
  | done
deriving DecidableEq, Repr

/-- The next statement of `Take`.  `threw`: the launch was not there for `Await`. -/
inductive TakeAt
  | entering
  | posting (id : ℕ)
  | closing (id : ℕ) (next : CloseAt)
  | awaiting (id : ℕ)
  | returned (id : Option ℕ) (outcome : Outcome)
  | threw (id : ℕ)
deriving DecidableEq, Repr

structure TakeCall where
  request : LaunchRequest
  phase : TakeAt := .entering
deriving DecidableEq, Repr

structure Holder where
  gate : ActivationGate := {}
  exiting : Bool := false
  queue : List ℕ := []
  hands : List (ℕ × LaunchRequest) := []
  served : List (ℕ × LaunchRequest) := []
  takes : List TakeCall := []
  closes : List CloseAt := []

/-- What the scheduler picks.  `ok`: `post` takes the work, or the deadline has passed. -/
inductive Pick
  | take (request : LaunchRequest)
  | takeStep (i : ℕ) (ok : Bool)
  | openGate
  | runPosted
  | serve
  | close
  | closeStep (k : ℕ)
deriving DecidableEq, Repr

/-- The next step of a `Close`. -/
def closeStep (s : Holder) : CloseAt → Option (CloseAt × Holder)
  | .raising => some (.locking, { s with exiting := true })
  | .locking => some (.done, { s with gate := s.gate.close })
  | .done => none

/-- The next step of a `Take`. -/
def takeStep (ok : Bool) (s : Holder) (c : TakeCall) : Option (TakeAt × Holder) :=
  match c.phase with
  | .entering =>
    match s.gate.take c.request with
    | (none, _) => some (.returned none .refused, s)
    | (some (id, post), gate) =>
      some (if post then .posting id else .awaiting id, { s with gate := gate })
  | .posting id =>
    if ok then some (.awaiting id, { s with queue := s.queue ++ [id] })
    else some (.closing id .raising, s)
  | .closing id next =>
    (closeStep s next).map fun r => (if r.1 = .done then .awaiting id else .closing id r.1, r.2)
  | .awaiting id =>
    match s.gate.await id with
    | none => some (.threw id, s)
    | some (outcome, gate) =>
      if outcome = .undecided ∧ ok = false then none
      else some (.returned (some id) outcome, { s with gate := gate })
  | .returned _ _ => none
  | .threw _ => none

/-- One step of the whole. -/
def step (s : Holder) : Pick → Option Holder
  | .take request => some { s with takes := s.takes ++ [{ request }] }
  | .takeStep i ok =>
    match s.takes[i]? with
    | none => none
    | some c => (takeStep ok s c).map fun r =>
        { r.2 with takes := s.takes.set i { c with phase := r.1 } }
  | .openGate =>
    if s.hands = [] then some { s with gate := s.gate.openGate.2, hands := s.gate.openGate.1 }
    else none
  | .runPosted =>
    if s.hands = [] then
      match s.queue with
      | [] => none
      | id :: queue => some { s with
          gate := (s.gate.servePosted id).2
          queue := queue
          hands := (s.gate.servePosted id).1 }
    else none
  | .serve =>
    match s.hands with
    | [] => none
    | x :: hands => some { s with hands := hands, served := s.served ++ [x] }
  | .close => some { s with closes := s.closes ++ [.raising] }
  | .closeStep k =>
    match s.closes[k]? with
    | none => none
    | some c => (closeStep s c).map fun r => { r.2 with closes := s.closes.set k r.1 }

/-- The runs of an instance from its start. -/
abbrev Holder.Runs : List (Transition Holder Pick) → Holder → Prop :=
  Run (· = {}) fun _ s a s' => step s a = some s' ∧ True

/-! ### What the gate answers for -/

/-- The launches marked served, in the order in which `serve` gets them. -/
def Holder.handed (s : Holder) : List (ℕ × LaunchRequest) := s.served ++ s.hands

/-- The id a `Take` has been given. -/
def TakeAt.id? : TakeAt → Option ℕ
  | .entering => none
  | .posting id => some id
  | .closing id _ => some id
  | .awaiting id => some id
  | .returned id _ => id
  | .threw id => some id

/-- Some launch is refused: its `Take` has said so, or will find it so. -/
def Holder.Refuses (s : Holder) : Prop :=
  (∃ c ∈ s.takes, ∃ id, c.phase = .returned id .refused) ∨
    ∃ id l, s.gate.launches id = some l ∧ l.outcome = .refused

/-- The step with which the UI thread opens the gate. -/
def Opens (t : Transition Holder Pick) : Prop :=
  t.label = .openGate ∧ t.pre.gate.state = .starting

/-- What is to hold in the state a run ends in. -/
structure Answered (es : List (Transition Holder Pick)) (s : Holder) : Prop where
  ids : ∀ (i j : ℕ) (c d : TakeCall) (id : ℕ), s.takes[i]? = some c → s.takes[j]? = some d →
    c.phase.id? = some id → d.phase.id? = some id → i = j
  once : (s.handed.map Prod.fst).Nodup
  own : ∀ x ∈ s.handed, ∃ c ∈ s.takes, c.phase.id? = some x.1 ∧ c.request = x.2
  served : ∀ c ∈ s.takes, ∀ id, c.phase = .returned id .served →
    ∃ k, id = some k ∧ (k, c.request) ∈ s.handed
  refused : ∀ c ∈ s.takes, ∀ id, c.phase = .returned id .refused → ∀ x ∈ s.handed, id ≠ some x.1
  signal : ∀ t ∈ es, t.post.Refuses → t.pre.exiting = true
  held : ∀ t ∈ es, Opens t → (t.post.handed.map Prod.fst).Pairwise (· < ·) ∧
    (∀ c ∈ t.pre.takes, ∀ id, c.phase.id? = some id → (id, c.request) ∈ t.post.handed) ∧
    ∃ later, s.handed = t.post.handed ++ later ∧ ∀ x ∈ later, t.pre.gate.lastId < x.1
  closed : ∀ t ∈ es, t.post.gate.state = .closed → s.handed = t.post.handed ∧
    ∀ (i : ℕ) (c : TakeCall) (id : Option ℕ) (o : Outcome), s.takes[i]? = some c →
      c.phase = .returned id o → t.post.takes[i]? = some c ∨ o = .refused ∨
        o = .served ∧ ∃ k, id = some k ∧ (k, c.request) ∈ t.post.handed
  waiting : s.gate.state = .closed → ∀ id l, s.gate.launches id = some l →
    l.outcome = .refused ∨ l.outcome = .served ∧ ∃ x ∈ s.handed, x.1 = id
  await : ∀ c ∈ s.takes, (∀ id, c.phase ≠ .threw id) ∧
    ∀ id, c.phase = .awaiting id → ∃ l, s.gate.launches id = some l

/-! ### What holds of a launch -/

/-- The launch is in the gate, and its `Take` has not given up. -/
def Waits (s : Holder) (c : TakeCall) (id : ℕ) : Prop :=
  ∃ l, s.gate.launches id = some l ∧ l.abandoned = false ∧ l.request = c.request

/-- What holds of a `Take` at each of its statements. -/
def TakeOk (s : Holder) (c : TakeCall) : Prop :=
  match c.phase with
  | .entering => True
  | .posting id => Waits s c id ∧ s.gate.state ≠ .starting
  | .closing id next => Waits s c id ∧ s.gate.state ≠ .starting ∧
      (next = .locking → s.exiting = true)
  | .awaiting id => Waits s c id
  | .returned none o => o = .refused ∧ s.gate.state = .closed
  | .returned (some id) .served =>
      s.gate.launches id = none ∧ (id, c.request) ∈ s.handed ∧ s.gate.state ≠ .starting
  | .returned (some id) .refused =>
      s.gate.launches id = none ∧ id ∉ s.handed.map Prod.fst ∧ s.gate.state = .closed
  | .returned (some id) .undecided => ∀ l, s.gate.launches id = some l → l.abandoned = true
  | .threw _ => False

structure HolderOk (s : Holder) : Prop where
  gate : GateOk s.gate s.handed
  takes : ∀ (i : ℕ) (c : TakeCall), s.takes[i]? = some c → TakeOk s c
  ids_le : ∀ (i : ℕ) (c : TakeCall) (id : ℕ), s.takes[i]? = some c → c.phase.id? = some id →
    id ≤ s.gate.lastId
  ids : ∀ (i j : ℕ) (c d : TakeCall) (id : ℕ), s.takes[i]? = some c → s.takes[j]? = some d →
    c.phase.id? = some id → d.phase.id? = some id → i = j
  own : ∀ x ∈ s.handed, ∃ c ∈ s.takes, c.phase.id? = some x.1 ∧ c.request = x.2
  entry : ∀ id l, s.gate.launches id = some l → ∃ c ∈ s.takes, c.phase.id? = some id ∧
    c.request = l.request
  signal : s.gate.state = .closed → s.exiting = true
  closing : ∀ k ∈ s.closes, k = .locking → s.exiting = true
  starting : s.gate.state = .starting → s.queue = [] ∧
    ∀ (i : ℕ) (c : TakeCall) (id : ℕ), s.takes[i]? = some c → c.phase.id? = some id →
      s.gate.launches id ≠ none

/-- What any step does, as far as the launches can tell. -/
structure Moves (s s' : Holder) : Prop where
  handed : ∃ later, s'.handed = s.handed ++ later ∧ ∀ x ∈ later, ∃ l,
    s.gate.launches x.1 = some l ∧ l.request = x.2 ∧ l.outcome = .undecided
  closed : s.gate.state = .closed → s'.gate.state = .closed
  signal : s'.gate.state = .closed → s.exiting = true
  exiting : s.exiting = true → s'.exiting = true
  starting : s'.gate.state = .starting → s.gate.state = .starting
  lastId : s.gate.lastId ≤ s'.gate.lastId
  entry : ∀ id l', s'.gate.launches id = some l' → id ≤ s.gate.lastId → ∃ l,
    s.gate.launches id = some l ∧ l.request = l'.request ∧
      (l.outcome = l'.outcome ∨ l.outcome = .undecided)

lemma HolderOk.moves_of_eq {s s' : Holder} (h : HolderOk s) (hgate : s'.gate = s.gate)
    (hhanded : s'.handed = s.handed) (hexiting : s.exiting = true → s'.exiting = true) :
    Moves s s' := by
  constructor
  · exact ⟨[], by rw [hhanded, List.append_nil], by simp⟩
  · rw [hgate]
    exact id
  · rw [hgate]
    exact h.signal
  · exact hexiting
  · rw [hgate]
    exact id
  · rw [hgate]
  · intro id l' hl' _
    rw [hgate] at hl'
    exact ⟨l', hl', rfl, .inl rfl⟩

variable {c : TakeCall}

lemma Waits.of_kept {s s' : Holder} {id : ℕ} (h : Waits s c id)
    (hkept : Kept (s.gate.launches id) (s'.gate.launches id)) : Waits s' c id := by
  obtain ⟨l, hl, ha, hr⟩ := h
  rw [hl] at hkept
  rcases hkept with ⟨-, ha'⟩ | ⟨o, hl', -⟩
  · exact absurd (ha.symm.trans ha') (by simp)
  · exact ⟨_, hl', ha, hr⟩

lemma TakeOk.of_moves {s s' : Holder} (h : TakeOk s c) (hm : Moves s s')
    (hkept : ∀ id, c.phase.id? = some id → Kept (s.gate.launches id) (s'.gate.launches id)) :
    TakeOk s' c := by
  have hstarted (hs : s.gate.state ≠ .starting) : s'.gate.state ≠ .starting :=
    fun hs' => hs (hm.starting hs')
  have hgone (id : ℕ) (hid : c.phase.id? = some id) (hl : s.gate.launches id = none) :
      s'.gate.launches id = none := by
    have hk := hkept id hid
    rw [hl] at hk
    exact hk
  obtain ⟨later, hhanded, hlater⟩ := hm.handed
  unfold TakeOk at h ⊢
  cases hp : c.phase with
  | entering => trivial
  | posting id =>
    simp only [hp] at h ⊢
    exact ⟨h.1.of_kept (hkept id (by rw [hp]; rfl)), hstarted h.2⟩
  | closing id next =>
    simp only [hp] at h ⊢
    exact ⟨h.1.of_kept (hkept id (by rw [hp]; rfl)), hstarted h.2.1,
      fun hn => hm.exiting (h.2.2 hn)⟩
  | awaiting id =>
    simp only [hp] at h ⊢
    exact h.of_kept (hkept id (by rw [hp]; rfl))
  | threw id =>
    simp only [hp] at h
  | returned id o =>
    cases id with
    | none =>
      simp only [hp] at h ⊢
      exact ⟨h.1, hm.closed h.2⟩
    | some id =>
      have hid : c.phase.id? = some id := by rw [hp]; rfl
      cases o with
      | served =>
        simp only [hp] at h ⊢
        refine ⟨hgone id hid h.1, ?_, hstarted h.2.2⟩
        rw [hhanded]
        exact List.mem_append_left _ h.2.1
      | refused =>
        simp only [hp] at h ⊢
        refine ⟨hgone id hid h.1, ?_, hm.closed h.2.2⟩
        rw [hhanded, List.map_append, List.mem_append, not_or]
        refine ⟨h.2.1, fun hmem => ?_⟩
        -- what is handed out is in the gate
        obtain ⟨x, hx, rfl⟩ := List.mem_map.1 hmem
        obtain ⟨l, hl, -⟩ := hlater x hx
        exact absurd (h.1.symm.trans hl) (by simp)
      | undecided =>
        simp only [hp] at h ⊢
        intro l' hl'
        have hk := hkept id hid
        cases hl : s.gate.launches id with
        | none => exact absurd ((hgone id hid hl).symm.trans hl') (by simp)
        | some l =>
          rw [hl] at hk
          rcases hk with ⟨hk, -⟩ | ⟨o, hk, -⟩
          · exact absurd (hk.symm.trans hl') (by simp)
          · cases hk.symm.trans hl'
            exact h l hl

namespace HolderOk

variable {s s' : Holder}

lemma own_of_moves (h : HolderOk s) (hm : Moves s s')
    (htakes : ∀ id q, (∃ c ∈ s.takes, c.phase.id? = some id ∧ c.request = q) →
      ∃ c ∈ s'.takes, c.phase.id? = some id ∧ c.request = q) :
    ∀ x ∈ s'.handed, ∃ c ∈ s'.takes, c.phase.id? = some x.1 ∧ c.request = x.2 := by
  intro x hx
  obtain ⟨later, hhanded, hlater⟩ := hm.handed
  rw [hhanded] at hx
  apply htakes
  rcases List.mem_append.1 hx with hx | hx
  · exact h.own x hx
  · obtain ⟨l, hl, hr, -⟩ := hlater x hx
    rw [← hr]
    exact h.entry x.1 l hl

lemma of_gate (h : HolderOk s) (hm : Moves s s') (hgate : GateOk s'.gate s'.handed)
    (hkept : ∀ id, Kept (s.gate.launches id) (s'.gate.launches id)) (htakes : s'.takes = s.takes)
    (hcloses : ∀ k ∈ s'.closes, k = .locking → s'.exiting = true)
    (hlast : s'.gate.lastId = s.gate.lastId)
    (hstarting : s'.gate.state = .starting →
      s'.queue = s.queue ∧ s'.gate.launches = s.gate.launches) : HolderOk s' := by
  constructor
  · exact hgate
  · intro i c hi
    rw [htakes] at hi
    exact (h.takes i c hi).of_moves hm fun id _ => hkept id
  · rw [htakes, hlast]
    exact h.ids_le
  · rw [htakes]
    exact h.ids
  · apply h.own_of_moves hm
    intro id q hc
    rw [htakes]
    exact hc
  · intro id l' hl'
    obtain ⟨l, hl, hr, -⟩ := hm.entry id l' hl' (hlast ▸ hgate.bounded id l' hl')
    rw [htakes, ← hr]
    exact h.entry id l hl
  · intro hs'
    exact hm.exiting (hm.signal hs')
  · exact hcloses
  · intro hs'
    obtain ⟨hqueue, hlaunches⟩ := hstarting hs'
    rw [hqueue, hlaunches, htakes]
    exact h.starting (hm.starting hs')

variable {c : TakeCall}

lemma of_take (h : HolderOk s) {i : ℕ} {r : TakeAt} (hi : s.takes[i]? = some c) (hm : Moves s s')
    (hgate : GateOk s'.gate s'.handed) (htakes : s'.takes = s.takes.set i { c with phase := r })
    (hcloses : s'.closes = s.closes)
    (hid : r.id? = c.phase.id? ∧ s'.gate.lastId = s.gate.lastId ∨ c.phase.id? = none ∧ r.id? =
    some (s.gate.lastId + 1) ∧ s'.gate.lastId = s.gate.lastId + 1)
    (hkept : ∀ id, id ≤ s.gate.lastId → c.phase.id? ≠ some id → Kept (s.gate.launches id)
    (s'.gate.launches id))
    (hnew : ∀ l, s'.gate.launches (s.gate.lastId + 1) = some l → l.request = c.request)
    (hself : TakeOk s' { c with phase := r })
    (hstarting : s'.gate.state = .starting → s'.queue = s.queue ∧ (∀ id, s.gate.launches id ≠
    none → s'.gate.launches id ≠ none) ∧ ∀ id, r.id? = some id → s'.gate.launches id ≠ none) :
    HolderOk s' := by
  have hlt := (List.getElem?_eq_some_iff.1 hi).1
  have hpersist (id : ℕ) (q : LaunchRequest)
      (hc : ∃ c ∈ s.takes, c.phase.id? = some id ∧ c.request = q) :
      ∃ c ∈ s'.takes, c.phase.id? = some id ∧ c.request = q := by
    rw [htakes]
    apply exists_mem_set hc hi
    rintro ⟨hcid, hq⟩
    refine ⟨?_, hq⟩
    rcases hid with ⟨hr, -⟩ | ⟨hnone, -, -⟩
    · exact hr.trans hcid
    · exact absurd (hnone.symm.trans hcid) (by simp)
  have htake (j : ℕ) (d : TakeCall) (hj : s'.takes[j]? = some d) :
      j = i ∧ d = { c with phase := r } ∨ i ≠ j ∧ s.takes[j]? = some d := by
    rw [htakes] at hj
    exact getElem?_set_cases hj
  -- an id that another `Take` has was given before, and not to this one
  have hother (j : ℕ) (d : TakeCall) (id : ℕ) (hij : i ≠ j) (hj : s.takes[j]? = some d)
      (hd : d.phase.id? = some id) :
      id ≤ s.gate.lastId ∧ c.phase.id? ≠ some id ∧ r.id? ≠ some id := by
    have hle := h.ids_le j d id hj hd
    have hne : c.phase.id? ≠ some id := fun hc => hij (h.ids i j c d id hi hj hc hd)
    refine ⟨hle, hne, ?_⟩
    rcases hid with ⟨hr, -⟩ | ⟨-, hr, -⟩
    · rw [hr]
      exact hne
    · rw [hr]
      intro heq
      have hlast := Option.some.inj heq
      omega
  constructor
  · exact hgate
  · intro j d hj
    rcases htake j d hj with ⟨rfl, rfl⟩ | ⟨hij, hj⟩
    · exact hself
    · apply (h.takes j d hj).of_moves hm
      intro id hd
      obtain ⟨hle, hne, -⟩ := hother j d id hij hj hd
      exact hkept id hle hne
  · intro j d id hj hd
    rcases htake j d hj with ⟨rfl, rfl⟩ | ⟨hij, hj⟩
    · rcases hid with ⟨hr, hlast⟩ | ⟨-, hr, hlast⟩
      · rw [hlast]
        exact h.ids_le j c id hi (hr.symm.trans hd)
      · have heq := Option.some.inj (hr.symm.trans hd)
        omega
    · exact (h.ids_le j d id hj hd).trans hm.lastId
  · intro j k d e id hj hk hd he
    rcases htake j d hj with ⟨rfl, rfl⟩ | ⟨hij, hj⟩
    · rcases htake k e hk with ⟨rfl, rfl⟩ | ⟨hik, hk⟩
      · rfl
      · exact absurd hd (hother k e id hik hk he).2.2
    · rcases htake k e hk with ⟨rfl, rfl⟩ | ⟨hik, hk⟩
      · exact absurd he (hother j d id hij hj hd).2.2
      · exact h.ids j k d e id hj hk hd he
  · exact h.own_of_moves hm hpersist
  · intro id l' hl'
    by_cases hle : id ≤ s.gate.lastId
    · obtain ⟨l, hl, hr, -⟩ := hm.entry id l' hl' hle
      apply hpersist
      rw [← hr]
      exact h.entry id l hl
    · have hbound := hgate.bounded id l' hl'
      rcases hid with ⟨-, hlast⟩ | ⟨-, hr, hlast⟩
      · omega
      · obtain rfl : id = s.gate.lastId + 1 := by omega
        refine ⟨{ c with phase := r }, ?_, hr, (hnew l' hl').symm⟩
        rw [htakes]
        exact List.mem_of_getElem? (List.getElem?_set_self hlt)
  · intro hs'
    exact hm.exiting (hm.signal hs')
  · intro k hk hkl
    rw [hcloses] at hk
    exact hm.exiting (h.closing k hk hkl)
  · intro hs'
    obtain ⟨hqueue, hlaunches, hown⟩ := hstarting hs'
    obtain ⟨hempty, hids⟩ := h.starting (hm.starting hs')
    refine ⟨hqueue.trans hempty, ?_⟩
    intro j d id hj hd
    rcases htake j d hj with ⟨rfl, rfl⟩ | ⟨hij, hj⟩
    · exact hown id hd
    · exact hlaunches id (hids j d id hj hd)

/-! ### The steps -/

lemma moves_of_kept (h : HolderOk s) (hkept : ∀ id, Kept (s.gate.launches id) (s'.gate.launches id))
    (hlast : s'.gate.lastId = s.gate.lastId) {later : List (ℕ × LaunchRequest)}
    (hhanded : s'.handed = s.handed ++ later)
    (hlater : ∀ x ∈ later, ∃ l, s.gate.launches x.1 = some l ∧ l.request = x.2 ∧
      l.outcome = .undecided)
    (hclosed : s.gate.state = .closed → s'.gate.state = .closed)
    (hsignal : s'.gate.state = .closed → s.gate.state = .closed ∨ s.exiting = true)
    (hstarting : s'.gate.state = .starting → s.gate.state = .starting)
    (hexiting : s'.exiting = s.exiting) : Moves s s' := by
  constructor
  · exact ⟨later, hhanded, hlater⟩
  · exact hclosed
  · intro hs'
    rcases hsignal hs' with hs | he
    · exact h.signal hs
    · exact he
  · rw [hexiting]
    exact id
  · exact hstarting
  · rw [hlast]
  · intro id l' hl' _
    have hk := hkept id
    rw [hl'] at hk
    exact hk.entry

lemma moves_close (h : HolderOk s) (he : s.exiting = true) (hgate : s'.gate = s.gate.close)
    (hhanded : s'.handed = s.handed) (hexiting : s'.exiting = s.exiting) : Moves s s' := by
  have hclosed : s'.gate.state = .closed := by rw [hgate, GateOk.close_state]
  refine h.moves_of_kept ?_ ?_ (hhanded.trans (List.append_nil _).symm) ?_ ?_ ?_ ?_ ?_
  · intro id
    rw [hgate]
    exact GateOk.close_kept s.gate id
  · rw [hgate, GateOk.close_lastId]
  · simp
  · exact fun _ => hclosed
  · exact fun _ => .inr he
  · intro hs'
    exact absurd (hclosed.symm.trans hs') (by simp)
  · exact hexiting

lemma moves_openGate (h : HolderOk s) (hgate : s'.gate = s.gate.openGate.2)
    (hhanded : s'.handed = s.handed ++ s.gate.openGate.1) (hexiting : s'.exiting = s.exiting) :
    Moves s s' := by
  by_cases hstate : s.gate.state = .starting
  · have hopened : s'.gate.state = .opened := by
      rw [hgate, GateOk.openGate_of_starting hstate]
    apply h.moves_of_kept
    · intro id
      rw [hgate]
      exact h.gate.openGate_kept id
    · rw [hgate, GateOk.openGate_of_starting hstate]
    · exact hhanded
    · rw [GateOk.openGate_of_starting hstate]
      intro x hx
      obtain ⟨-, l, hl, hr⟩ := ActivationGate.mem_requests.1 hx
      exact ⟨l, hl, hr, h.gate.undecided_of_starting hstate hl⟩
    · intro hs
      exact absurd (hstate.symm.trans hs) (by simp)
    · intro hs'
      exact absurd (hopened.symm.trans hs') (by simp)
    · exact fun _ => hstate
    · exact hexiting
  · rw [GateOk.openGate_of_not_starting hstate] at hgate hhanded
    rw [List.append_nil] at hhanded
    exact h.moves_of_eq hgate hhanded (by rw [hexiting]; exact id)

lemma servePosted_state (g : ActivationGate) (id : ℕ) :
    (g.servePosted id).2.state = g.state ∧ (g.servePosted id).2.lastId = g.lastId := by
  rw [ActivationGate.servePosted]
  split
  next => exact ⟨rfl, rfl⟩
  next => exact ⟨rfl, rfl⟩

lemma moves_servePosted (h : HolderOk s) (id : ℕ) (hgate : s'.gate = (s.gate.servePosted id).2)
    (hhanded : s'.handed = s.handed ++ (s.gate.servePosted id).1)
    (hexiting : s'.exiting = s.exiting) : Moves s s' := by
  obtain ⟨hstate, hlast⟩ := servePosted_state s.gate id
  rw [← hgate] at hstate hlast
  apply h.moves_of_kept
  · intro k
    rw [hgate]
    exact GateOk.servePosted_kept s.gate id k
  · exact hlast
  · exact hhanded
  · intro x hx
    cases hl : s.gate.launches id with
    | none =>
      rw [GateOk.servePosted_of_none hl] at hx
      exact absurd hx (by simp)
    | some l =>
      by_cases ho : l.outcome = .undecided
      · rw [GateOk.servePosted_of_undecided hl ho] at hx
        obtain rfl := List.mem_singleton.1 hx
        exact ⟨l, hl, rfl, ho⟩
      · rw [GateOk.servePosted_of_decided hl ho] at hx
        exact absurd hx (by simp)
  · rw [hstate]
    exact fun hs => hs
  · rw [hstate]
    exact .inl
  · rw [hstate]
    exact fun hs => hs
  · exact hexiting

lemma moves_take {request : LaunchRequest} (hopen : s.gate.state ≠ .closed)
    (hgate : s'.gate = (s.gate.take request).2) (hhanded : s'.handed = s.handed)
    (hexiting : s'.exiting = s.exiting) : Moves s s' := by
  rw [GateOk.take_of_not_closed hopen] at hgate
  constructor
  · exact ⟨[], by rw [hhanded, List.append_nil], by simp⟩
  · intro hs
    exact absurd hs hopen
  · intro hs'
    rw [hgate] at hs'
    exact absurd hs' hopen
  · rw [hexiting]
    exact id
  · rw [hgate]
    exact id
  · rw [hgate]
    exact Nat.le_succ _
  · intro k l' hl' hk
    rw [hgate] at hl'
    have hne : k ≠ s.gate.lastId + 1 := by omega
    exact ⟨l', by simpa [Function.update_of_ne hne] using hl', rfl, .inl rfl⟩

lemma moves_await (h : HolderOk s) {id : ℕ} {l : Launch} {x : Option Launch}
    (hl : s.gate.launches id = some l) (hx : x = none ∨ x = some { l with abandoned := true })
    (hgate : s'.gate = { s.gate with launches := Function.update s.gate.launches id x })
    (hhanded : s'.handed = s.handed) (hexiting : s'.exiting = s.exiting) : Moves s s' := by
  constructor
  · exact ⟨[], by rw [hhanded, List.append_nil], by simp⟩
  · rw [hgate]
    exact fun hs => hs
  · rw [hgate]
    exact h.signal
  · rw [hexiting]
    exact fun he => he
  · rw [hgate]
    exact fun hs => hs
  · rw [hgate]
  · intro k l' hl' _
    rw [hgate] at hl'
    by_cases hk : k = id
    · subst hk
      have hl' : x = some l' := by simpa using hl'
      rcases hx with rfl | rfl
      · exact absurd hl' (by simp)
      · cases hl'
        exact ⟨l, hl, rfl, .inl rfl⟩
    · exact ⟨l', by simpa [Function.update_of_ne hk] using hl', rfl, .inl rfl⟩

lemma of_take_eq (h : HolderOk s) {i : ℕ} {r : TakeAt} (hi : s.takes[i]? = some c)
    (hgate : s'.gate = s.gate) (hhanded : s'.handed = s.handed)
    (htakes : s'.takes = s.takes.set i { c with phase := r }) (hcloses : s'.closes = s.closes)
    (hexiting : s.exiting = true → s'.exiting = true) (hid : r.id? = c.phase.id?)
    (hqueue : s.gate.state = .starting → s'.queue = s.queue)
    (hself : TakeOk s' { c with phase := r }) : Moves s s' ∧ HolderOk s' := by
  have hm := h.moves_of_eq hgate hhanded hexiting
  refine ⟨hm, ?_⟩
  apply h.of_take hi hm
  · rw [hgate, hhanded]
    exact h.gate
  · exact htakes
  · exact hcloses
  · exact .inl ⟨hid, by rw [hgate]⟩
  · intro id _ _
    rw [hgate]
    exact Kept.refl _
  · intro l hl
    rw [hgate, h.gate.lastId_lt (Nat.lt_succ_self _)] at hl
    exact absurd hl (by simp)
  · exact hself
  · intro hs'
    rw [hgate] at hs' ⊢
    refine ⟨hqueue hs', fun _ hl => hl, ?_⟩
    intro id hr
    exact (h.starting hs').2 i c id hi (hid ▸ hr)

lemma step_enter (h : HolderOk s) {i : ℕ} {r : TakeAt} {s₁ : Holder} {ok : Bool}
    (hi : s.takes[i]? = some c) (hc : c.phase = .entering) (hr : takeStep ok s c = some (r, s₁)) :
    Moves s { s₁ with takes := s.takes.set i { c with phase := r } } ∧ HolderOk
    { s₁ with takes := s.takes.set i { c with phase := r } } := by
  simp only [takeStep, hc] at hr
  by_cases hclosed : s.gate.state = .closed
  · rw [GateOk.take_of_closed hclosed] at hr
    cases hr
    exact h.of_take_eq hi rfl rfl rfl rfl (fun he => he) (by rw [hc]; rfl) (fun _ => rfl)
      ⟨rfl, hclosed⟩
  rw [GateOk.take_of_not_closed hclosed] at hr
  cases hr
  have hgate := h.gate.take c.request
  have hm : Moves s { s with
      gate := (s.gate.take c.request).2
      takes := s.takes.set i { c with
        phase := if s.gate.state = .opened then .posting (s.gate.lastId + 1)
          else .awaiting (s.gate.lastId + 1) } } := moves_take hclosed rfl rfl rfl
  simp only [GateOk.take_of_not_closed hclosed, decide_eq_true_eq] at hgate hm ⊢
  have hid : (if s.gate.state = .opened then TakeAt.posting (s.gate.lastId + 1)
      else .awaiting (s.gate.lastId + 1)).id? = some (s.gate.lastId + 1) := by
    split <;> rfl
  refine ⟨hm, ?_⟩
  apply h.of_take hi hm hgate rfl rfl
  · exact .inr ⟨by rw [hc]; rfl, hid, rfl⟩
  · intro id hle _
    show Kept (s.gate.launches id) (Function.update s.gate.launches (s.gate.lastId + 1) _ id)
    rw [Function.update_of_ne (by omega)]
    exact Kept.refl _
  · intro l hl
    obtain rfl := by simpa using hl
    rfl
  · unfold TakeOk
    by_cases hopened : s.gate.state = .opened
    · rw [if_pos hopened]
      refine ⟨⟨_, Function.update_self _ _ _, rfl, rfl⟩, ?_⟩
      show s.gate.state ≠ .starting
      rw [hopened]
      simp
    · rw [if_neg hopened]
      exact ⟨_, Function.update_self _ _ _, rfl, rfl⟩
  · intro _
    refine ⟨rfl, ?_, ?_⟩
    · intro id hl
      show Function.update s.gate.launches (s.gate.lastId + 1) _ id ≠ none
      by_cases hid : id = s.gate.lastId + 1
      · rw [hid, Function.update_self]
        simp
      · rw [Function.update_of_ne hid]
        exact hl
    · intro id hr
      cases hid.symm.trans hr
      show Function.update s.gate.launches (s.gate.lastId + 1) _ (s.gate.lastId + 1) ≠ none
      rw [Function.update_self]
      simp

lemma step_post (h : HolderOk s) {i : ℕ} {r : TakeAt} {s₁ : Holder} {ok : Bool} {id : ℕ}
    (hi : s.takes[i]? = some c) (hc : c.phase = .posting id) (hr : takeStep ok s c = some (r, s₁)) :
    Moves s { s₁ with takes := s.takes.set i { c with phase := r } } ∧ HolderOk
    { s₁ with takes := s.takes.set i { c with phase := r } } := by
  have hok := h.takes i c hi
  unfold TakeOk at hok
  rw [hc] at hok
  obtain ⟨hwaits, hstarted⟩ := hok
  simp only [takeStep, hc] at hr
  split at hr
  next =>
    cases hr
    exact h.of_take_eq hi rfl rfl rfl rfl (fun he => he) (by rw [hc]; rfl)
      (fun hs => absurd hs hstarted) hwaits
  next =>
    cases hr
    exact h.of_take_eq hi rfl rfl rfl rfl (fun he => he) (by rw [hc]; rfl)
      (fun hs => absurd hs hstarted) ⟨hwaits, hstarted, by simp⟩

lemma step_closing (h : HolderOk s) {i : ℕ} {r : TakeAt} {s₁ : Holder} {ok : Bool} {id : ℕ}
    {next : CloseAt} (hi : s.takes[i]? = some c) (hc : c.phase = .closing id next)
    (hr : takeStep ok s c = some (r, s₁)) :
    Moves s { s₁ with takes := s.takes.set i { c with phase := r } } ∧ HolderOk
    { s₁ with takes := s.takes.set i { c with phase := r } } := by
  have hok := h.takes i c hi
  unfold TakeOk at hok
  rw [hc] at hok
  obtain ⟨hwaits, hstarted, hlocking⟩ := hok
  simp only [takeStep, hc] at hr
  cases next with
  | raising =>
    simp only [closeStep, Option.map_some] at hr
    cases hr
    exact h.of_take_eq hi rfl rfl rfl rfl (fun _ => rfl) (by rw [hc]; rfl)
      (fun hs => absurd hs hstarted) ⟨hwaits, hstarted, fun _ => rfl⟩
  | locking =>
    simp only [closeStep, Option.map_some] at hr
    cases hr
    have hm : Moves s { s with
        gate := s.gate.close
        takes := s.takes.set i { c with phase := .awaiting id } } :=
      h.moves_close (hlocking rfl) rfl rfl rfl
    refine ⟨hm, ?_⟩
    apply h.of_take hi hm h.gate.close rfl rfl
    · exact .inl ⟨by rw [hc]; rfl, GateOk.close_lastId s.gate⟩
    · intro k _ _
      exact GateOk.close_kept s.gate k
    · intro l hl
      have hle := h.gate.close.bounded _ l hl
      rw [GateOk.close_lastId] at hle
      omega
    · exact hwaits.of_kept (GateOk.close_kept s.gate id)
    · intro hs'
      exact absurd ((GateOk.close_state s.gate).symm.trans hs') (by simp)
  | done =>
    simp only [closeStep, Option.map_none] at hr
    exact absurd hr (by simp)

lemma step_await (h : HolderOk s) {i : ℕ} {r : TakeAt} {s₁ : Holder} {ok : Bool} {id : ℕ}
    (hi : s.takes[i]? = some c) (hc : c.phase = .awaiting id)
    (hr : takeStep ok s c = some (r, s₁)) :
    Moves s { s₁ with takes := s.takes.set i { c with phase := r } } ∧ HolderOk
    { s₁ with takes := s.takes.set i { c with phase := r } } := by
  have hok := h.takes i c hi
  unfold TakeOk at hok
  rw [hc] at hok
  obtain ⟨l, hl, ha, hreq⟩ := hok
  simp only [takeStep, hc, ActivationGate.await, hl, Option.map_some] at hr
  obtain ⟨-, hr⟩ := Option.ite_none_left_eq_some.1 hr
  cases hr
  have hm : Moves s { s with
      gate := { s.gate with launches := Function.update s.gate.launches id l.left }
      takes := s.takes.set i { c with phase := .returned (some id) l.outcome } } := by
    refine h.moves_await hl ?_ rfl rfl rfl
    unfold Launch.left
    split
    next => exact .inr rfl
    next => exact .inl rfl
  refine ⟨hm, ?_⟩
  have hawait : s.gate.await id = some (l.outcome,
      { s.gate with launches := Function.update s.gate.launches id l.left }) := by
    rw [ActivationGate.await, hl]
    rfl
  have hgate := h.gate.await hawait
  apply h.of_take hi hm hgate rfl rfl
  · exact .inl ⟨by rw [hc]; rfl, rfl⟩
  · intro k _ hk
    have hne : k ≠ id := by
      rintro rfl
      exact hk (by rw [hc]; rfl)
    show Kept (s.gate.launches k) (Function.update s.gate.launches id _ k)
    rw [Function.update_of_ne hne]
    exact Kept.refl _
  · intro l' hl'
    have hle : s.gate.lastId + 1 ≤ s.gate.lastId := hgate.bounded _ l' hl'
    omega
  · -- what the wait found is what the launch ends as
    have hself := Function.update_self id l.left s.gate.launches
    unfold TakeOk
    cases ho : l.outcome with
    | served =>
      refine ⟨hself.trans (Launch.left_of_decided (by simp [ho])), ?_, ?_⟩
      · have hmem := (h.gate.marked id l hl).1 ho
        obtain ⟨x, hx, rfl⟩ := List.mem_map.1 hmem
        obtain ⟨d, hd, hdid, hdreq⟩ := h.own x hx
        obtain ⟨j, hj⟩ := List.mem_iff_getElem?.1 hd
        obtain rfl := h.ids i j c d x.1 hi hj (by rw [hc]; rfl) hdid
        cases hi.symm.trans hj
        show (x.1, c.request) ∈ s.handed
        rw [hdreq]
        exact hx
      · intro hs
        exact absurd (h.gate.undecided_of_starting hs hl) (by simp [ho])
    | refused =>
      refine ⟨hself.trans (Launch.left_of_decided (by simp [ho])), ?_, h.gate.refused id l hl ho⟩
      intro hmem
      exact absurd (ho.symm.trans ((h.gate.marked id l hl).2 hmem)) (by simp)
    | undecided =>
      intro l' hl'
      have hl' : Function.update s.gate.launches id l.left id = some l' := hl'
      rw [Function.update_self, Launch.left_of_undecided ho] at hl'
      cases hl'
      rfl
  · intro hs'
    have ho := h.gate.undecided_of_starting hs' hl
    have hself (k : ℕ) (hk : s.gate.launches k ≠ none) :
        Function.update s.gate.launches id l.left k ≠ none := by
      by_cases hkid : k = id
      · rw [hkid, Function.update_self, Launch.left_of_undecided ho]
        simp
      · rw [Function.update_of_ne hkid]
        exact hk
    refine ⟨rfl, hself, ?_⟩
    intro k hk
    cases hk
    exact hself _ (by rw [hl]; simp)

lemma step_take (h : HolderOk s) {i : ℕ} {ok : Bool}
    (hs : step s (.takeStep i ok) = some s') : Moves s s' ∧ HolderOk s' := by
  simp only [step] at hs
  split at hs
  next => exact absurd hs (by simp)
  next c hi =>
    obtain ⟨⟨r, s₁⟩, hr, rfl⟩ := Option.map_eq_some_iff.1 hs
    cases hc : c.phase with
    | entering => exact h.step_enter hi hc hr
    | posting id => exact h.step_post hi hc hr
    | closing id next => exact h.step_closing hi hc hr
    | awaiting id => exact h.step_await hi hc hr
    | returned id o | threw id =>
      simp only [takeStep, hc] at hr
      exact absurd hr (by simp)

lemma step_arrived (h : HolderOk s) (request : LaunchRequest) :
    Moves s { s with takes := s.takes ++ [{ request }] } ∧
      HolderOk { s with takes := s.takes ++ [{ request }] } := by
  have hm : Moves s { s with takes := s.takes ++ [{ request }] } :=
    h.moves_of_eq rfl rfl fun he => he
  have htake (i : ℕ) (c : TakeCall) (hi : (s.takes ++ [⟨request, .entering⟩])[i]? = some c) :
      c.phase = .entering ∨ s.takes[i]? = some c := by
    rcases Nat.lt_or_ge i s.takes.length with hlt | hge
    · rw [List.getElem?_append_left hlt] at hi
      exact .inr hi
    · rw [List.getElem?_append_right hge] at hi
      obtain rfl := List.mem_singleton.1 (List.mem_of_getElem? hi)
      exact .inl rfl
  have hid (i : ℕ) (c : TakeCall) (id : ℕ) (hi : (s.takes ++ [⟨request, .entering⟩])[i]? = some c)
      (hc : c.phase.id? = some id) : s.takes[i]? = some c := by
    rcases htake i c hi with hp | hi
    · rw [hp] at hc
      exact absurd hc (by simp [TakeAt.id?])
    · exact hi
  refine ⟨hm, ?_⟩
  constructor
  · exact h.gate
  · intro i c hi
    rcases htake i c hi with hp | hi
    · unfold TakeOk
      rw [hp]
      trivial
    · exact (h.takes i c hi).of_moves hm fun _ _ => Kept.refl _
  · intro i c id hi hc
    exact h.ids_le i c id (hid i c id hi hc) hc
  · intro i j c d id hi hj hc hd
    exact h.ids i j c d id (hid i c id hi hc) (hid j d id hj hd) hc hd
  · intro x hx
    obtain ⟨c, hc, hp⟩ := h.own x hx
    exact ⟨c, List.mem_append_left _ hc, hp⟩
  · intro id l hl
    obtain ⟨c, hc, hp⟩ := h.entry id l hl
    exact ⟨c, List.mem_append_left _ hc, hp⟩
  · exact h.signal
  · exact h.closing
  · intro hs
    obtain ⟨hqueue, hids⟩ := h.starting hs
    refine ⟨hqueue, ?_⟩
    intro i c id hi hc
    exact hids i c id (hid i c id hi hc) hc

lemma of_idle (h : HolderOk s) (hgate : s'.gate = s.gate) (hhanded : s'.handed = s.handed)
    (htakes : s'.takes = s.takes) (hqueue : s'.queue = s.queue)
    (hexiting : s.exiting = true → s'.exiting = true)
    (hcloses : ∀ k ∈ s'.closes, k = .locking → s'.exiting = true) : Moves s s' ∧ HolderOk s' := by
  have hm := h.moves_of_eq hgate hhanded hexiting
  refine ⟨hm, ?_⟩
  apply h.of_gate hm
  · rw [hgate, hhanded]
    exact h.gate
  · rw [hgate]
    exact fun _ => Kept.refl _
  · exact htakes
  · exact hcloses
  · rw [hgate]
  · rw [hgate]
    exact fun _ => ⟨hqueue, rfl⟩

lemma step_openGate (h : HolderOk s) (hs : step s .openGate = some s') :
    Moves s s' ∧ HolderOk s' := by
  obtain ⟨hhands, rfl⟩ := guard_eq_some.1 hs
  have hhanded : s.handed = s.served := by rw [Holder.handed, hhands, List.append_nil]
  have hm : Moves s { s with gate := s.gate.openGate.2, hands := s.gate.openGate.1 } :=
    h.moves_openGate rfl (by rw [hhanded]; rfl) rfl
  refine ⟨hm, ?_⟩
  apply h.of_gate hm
  · have hgate := h.gate.openGate
    rw [hhanded] at hgate
    exact hgate
  · exact h.gate.openGate_kept
  · rfl
  · exact h.closing
  · show s.gate.openGate.2.lastId = s.gate.lastId
    by_cases hstate : s.gate.state = .starting
    · rw [GateOk.openGate_of_starting hstate]
    · rw [GateOk.openGate_of_not_starting hstate]
  · intro hs'
    have hs' : s.gate.openGate.2.state = .starting := hs'
    by_cases hstate : s.gate.state = .starting
    · rw [GateOk.openGate_of_starting hstate] at hs'
      exact absurd hs' (by simp)
    · rw [GateOk.openGate_of_not_starting hstate] at hs'
      exact absurd hs' hstate

lemma step_runPosted (h : HolderOk s) (hs : step s .runPosted = some s') :
    Moves s s' ∧ HolderOk s' := by
  obtain ⟨hhands, hs⟩ := Option.ite_none_right_eq_some.1 hs
  split at hs
  next => exact absurd hs (by simp)
  next id queue hqueue =>
    cases hs
    have hhanded : s.handed = s.served := by rw [Holder.handed, hhands, List.append_nil]
    -- the gate has opened: something was posted
    have hstarted : s.gate.state ≠ .starting := by
      intro hstate
      rw [(h.starting hstate).1] at hqueue
      exact absurd hqueue (by simp)
    obtain ⟨hstate, hlast⟩ := servePosted_state s.gate id
    have hm : Moves s { s with
        gate := (s.gate.servePosted id).2, queue := queue, hands := (s.gate.servePosted id).1 } :=
      h.moves_servePosted id rfl (by rw [hhanded]; rfl) rfl
    refine ⟨hm, ?_⟩
    apply h.of_gate hm
    · have hgate := h.gate.servePosted hstarted id
      rw [hhanded] at hgate
      exact hgate
    · exact GateOk.servePosted_kept s.gate id
    · rfl
    · exact h.closing
    · exact hlast
    · intro hs'
      exact absurd (hstate.symm.trans hs') hstarted

lemma step_closeStep (h : HolderOk s) {k : ℕ} (hs : step s (.closeStep k) = some s') :
    Moves s s' ∧ HolderOk s' := by
  simp only [step] at hs
  split at hs
  next => exact absurd hs (by simp)
  next c hk =>
    obtain ⟨⟨r, s₁⟩, hr, rfl⟩ := Option.map_eq_some_iff.1 hs
    cases c with
    | raising =>
      cases hr
      exact h.of_idle rfl rfl rfl rfl (fun _ => rfl) fun _ _ _ => rfl
    | locking =>
      cases hr
      have he := h.closing .locking (List.mem_of_getElem? hk) rfl
      have hm : Moves s { s with gate := s.gate.close, closes := s.closes.set k .done } :=
        h.moves_close he rfl rfl rfl
      refine ⟨hm, ?_⟩
      apply h.of_gate hm
      · exact h.gate.close
      · exact GateOk.close_kept s.gate
      · rfl
      · exact fun _ _ _ => he
      · exact GateOk.close_lastId s.gate
      · intro hs'
        exact absurd ((GateOk.close_state s.gate).symm.trans hs') (by simp)
    | done => exact absurd hr (by simp [closeStep])

theorem step (h : HolderOk s) {a : Pick} (hs : step s a = some s') : Moves s s' ∧ HolderOk s' := by
  cases a with
  | take request =>
    cases hs
    exact h.step_arrived request
  | takeStep i ok => exact h.step_take hs
  | openGate => exact h.step_openGate hs
  | runPosted => exact h.step_runPosted hs
  | serve =>
    simp only [Instance.step] at hs
    split at hs
    next => exact absurd hs (by simp)
    next x hands hhands =>
      cases hs
      refine h.of_idle rfl ?_ rfl rfl (fun he => he) h.closing
      simp [Holder.handed, hhands]
  | close =>
    cases hs
    refine h.of_idle rfl rfl rfl rfl (fun he => he) ?_
    intro k hk hkl
    rcases List.mem_append.1 hk with hk | hk
    · exact h.closing k hk hkl
    · obtain rfl := List.mem_singleton.1 hk
      exact absurd hkl (by simp)
  | closeStep k => exact h.step_closeStep hs

end HolderOk

lemma HolderOk.init : HolderOk {} := by
  constructor
  · constructor <;> simp [Holder.handed]
  all_goals simp [Holder.handed]

/-! ### Along a run -/

lemma HolderOk.signaled {s s' : Holder} (h : HolderOk s') (hm : Moves s s') (hr : s'.Refuses) :
    s.exiting = true := by
  apply hm.signal
  rcases hr with ⟨c, hc, id, hp⟩ | ⟨id, l, hl, ho⟩
  · obtain ⟨i, hi⟩ := List.mem_iff_getElem?.1 hc
    have hok := h.takes i c hi
    unfold TakeOk at hok
    rw [hp] at hok
    cases id with
    | none => exact hok.2
    | some id => exact hok.2.2
  · exact h.gate.refused id l hl ho

lemma step_takes {s s' : Holder} {a : Pick} (hs : step s a = some s') :
    s'.takes = s.takes ∨ (∃ request, s'.takes = s.takes ++ [⟨request, .entering⟩]) ∨
      ∃ i ok c r s₁, s.takes[i]? = some c ∧ takeStep ok s c = some (r, s₁) ∧
        s'.takes = s.takes.set i { c with phase := r } := by
  cases a with
  | take request =>
    cases hs
    exact .inr (.inl ⟨request, rfl⟩)
  | takeStep i ok =>
    simp only [step] at hs
    split at hs
    next => exact absurd hs (by simp)
    next c hi =>
      obtain ⟨⟨r, s₁⟩, hr, rfl⟩ := Option.map_eq_some_iff.1 hs
      exact .inr (.inr ⟨i, ok, c, r, s₁, hi, hr, rfl⟩)
  | openGate =>
    obtain ⟨-, rfl⟩ := guard_eq_some.1 hs
    exact .inl rfl
  | runPosted =>
    obtain ⟨-, hs⟩ := Option.ite_none_right_eq_some.1 hs
    split at hs
    next => exact absurd hs (by simp)
    next =>
      cases hs
      exact .inl rfl
  | serve =>
    simp only [step] at hs
    split at hs
    next => exact absurd hs (by simp)
    next =>
      cases hs
      exact .inl rfl
  | close =>
    cases hs
    exact .inl rfl
  | closeStep k =>
    simp only [step] at hs
    split at hs
    next => exact absurd hs (by simp)
    next d hk =>
      obtain ⟨⟨r, s₁⟩, hr, rfl⟩ := Option.map_eq_some_iff.1 hs
      cases d with
      | raising | locking =>
        cases hr
        exact .inl rfl
      | done => exact absurd hr (by simp [closeStep])

lemma step_keeps {s s' : Holder} {a : Pick} (hs : step s a = some s') {i : ℕ} {id : Option ℕ}
    {o : Outcome} (hi : s.takes[i]? = some c) (hc : c.phase = .returned id o) :
    s'.takes[i]? = some c := by
  rcases step_takes hs with htakes | ⟨request, htakes⟩ | ⟨j, ok, d, r, s₁, hj, hr, htakes⟩
  · rw [htakes]
    exact hi
  · rw [htakes, List.getElem?_append_left (List.getElem?_eq_some_iff.1 hi).1]
    exact hi
  · rw [htakes]
    by_cases hji : j = i
    · subst hji
      cases hi.symm.trans hj
      simp only [takeStep, hc] at hr
      exact absurd hr (by simp)
    · rw [List.getElem?_set_ne hji]
      exact hi

lemma takeStep_returned {ok : Bool} {s s₁ : Holder} {id : Option ℕ} {o : Outcome}
    (hr : takeStep ok s c = some (.returned id o, s₁)) :
    o = .refused ∨ ∃ k l, id = some k ∧ s.gate.launches k = some l ∧ l.outcome = o := by
  simp only [takeStep] at hr
  split at hr
  next =>
    split at hr
    next =>
      obtain ⟨hr, -⟩ := Prod.mk.inj (Option.some.inj hr)
      exact .inl (TakeAt.returned.inj hr).2.symm
    next =>
      obtain ⟨hr, -⟩ := Prod.mk.inj (Option.some.inj hr)
      split at hr <;> exact absurd hr (by simp)
  next =>
    split at hr <;> exact absurd (Prod.mk.inj (Option.some.inj hr)).1 (by simp)
  next =>
    obtain ⟨r, hr, heq⟩ := Option.map_eq_some_iff.1 hr
    obtain ⟨heq, -⟩ := Prod.mk.inj heq
    split at heq <;> exact absurd heq (by simp)
  next k hp =>
    split at hr
    next => exact absurd (Prod.mk.inj (Option.some.inj hr)).1 (by simp)
    next outcome gate hg =>
      obtain ⟨-, hr⟩ := Option.ite_none_left_eq_some.1 hr
      obtain ⟨hr, -⟩ := Prod.mk.inj (Option.some.inj hr)
      obtain ⟨rfl, rfl⟩ := TakeAt.returned.inj hr
      obtain ⟨l, hl, heq⟩ := Option.map_eq_some_iff.1 hg
      exact .inr ⟨k, l, rfl, hl, (Prod.mk.inj heq).1⟩
  next => exact absurd hr (by simp)
  next => exact absurd hr (by simp)

lemma step_returned {s s' : Holder} {a : Pick} (hs : step s a = some s') {i : ℕ} {id : Option ℕ}
    {o : Outcome} (hi : s'.takes[i]? = some c) (hc : c.phase = .returned id o) :
    s.takes[i]? = some c ∨ o = .refused ∨ ∃ k l, id = some k ∧ s.gate.launches k = some l ∧
    l.outcome = o := by
  rcases step_takes hs with htakes | ⟨request, htakes⟩ | ⟨j, ok, d, r, s₁, hj, hr, htakes⟩
  · rw [htakes] at hi
    exact .inl hi
  · rw [htakes] at hi
    rcases Nat.lt_or_ge i s.takes.length with hlt | hge
    · rw [List.getElem?_append_left hlt] at hi
      exact .inl hi
    · rw [List.getElem?_append_right hge] at hi
      obtain rfl := List.mem_singleton.1 (List.mem_of_getElem? hi)
      exact absurd hc (by simp)
  · rw [htakes] at hi
    by_cases hji : j = i
    · subst hji
      rw [List.getElem?_set_self (List.getElem?_eq_some_iff.1 hj).1] at hi
      cases hi
      have hc : r = .returned id o := hc
      subst hc
      exact .inr (takeStep_returned hr)
    · rw [List.getElem?_set_ne hji] at hi
      exact .inl hi

/-- What holds after the gate has opened. -/
structure AfterOpen (t : Transition Holder Pick) (s : Holder) : Prop where
  sorted : (t.post.handed.map Prod.fst).Pairwise (· < ·)
  all : ∀ c ∈ t.pre.takes, ∀ id, c.phase.id? = some id → (id, c.request) ∈ t.post.handed
  later : ∃ later, s.handed = t.post.handed ++ later ∧ ∀ x ∈ later, t.pre.gate.lastId < x.1
  lastId : t.pre.gate.lastId ≤ s.gate.lastId
  decided : ∀ id l, id ≤ t.pre.gate.lastId → s.gate.launches id = some l → l.outcome ≠ .undecided

lemma AfterOpen.init {s s' : Holder} {a : Pick} (h : HolderOk s) (h' : HolderOk s')
    (hs : step s a = some s') (ho : Opens ⟨s, a, s'⟩) : AfterOpen ⟨s, a, s'⟩ s' := by
  obtain ⟨ha, hstate⟩ := ho
  obtain rfl : a = .openGate := ha
  have hstate : s.gate.state = .starting := hstate
  obtain ⟨hhands, rfl⟩ := guard_eq_some.1 hs
  have hserved : s.served = [] := by
    have hhanded := h.gate.starting hstate
    rw [Holder.handed, hhands, List.append_nil] at hhanded
    exact hhanded
  have hhanded : ({ s with gate := s.gate.openGate.2, hands := s.gate.openGate.1 } : Holder).handed
      = s.gate.requests := by
    rw [Holder.handed, hserved, List.nil_append, GateOk.openGate_of_starting hstate]
  constructor
  · show (Holder.handed _ |>.map Prod.fst).Pairwise (· < ·)
    rw [hhanded]
    exact s.gate.requests_pairwise
  · intro c hc id hid
    obtain ⟨i, hi⟩ := List.mem_iff_getElem?.1 hc
    -- it is there still, with its own request
    obtain ⟨l, hl⟩ := Option.ne_none_iff_exists'.1 ((h.starting hstate).2 i c id hi hid)
    obtain ⟨d, hd, hdid, hreq⟩ := h.entry id l hl
    obtain ⟨j, hj⟩ := List.mem_iff_getElem?.1 hd
    obtain rfl := h.ids i j c d id hi hj hid hdid
    cases hi.symm.trans hj
    show (id, c.request) ∈ Holder.handed _
    rw [hhanded]
    exact ActivationGate.mem_requests.2 ⟨h.gate.bounded id l hl, l, hl, hreq.symm⟩
  · exact ⟨[], (List.append_nil _).symm, by simp⟩
  · show s.gate.lastId ≤ s.gate.openGate.2.lastId
    rw [GateOk.openGate_of_starting hstate]
  · intro id l' _ hl'
    have hl' : s.gate.openGate.2.launches id = some l' := hl'
    rw [GateOk.openGate_of_starting hstate] at hl'
    obtain ⟨l, hl, hl'⟩ := Option.bind_eq_some_iff.1 hl'
    obtain ⟨-, hl'⟩ := Option.ite_none_left_eq_some.1 hl'
    cases hl'
    simp

lemma AfterOpen.step {t : Transition Holder Pick} {s s' : Holder} (h : AfterOpen t s)
    (hm : Moves s s') : AfterOpen t s' := by
  constructor
  · exact h.sorted
  · exact h.all
  · obtain ⟨later, hhanded, hlater⟩ := h.later
    obtain ⟨more, hhanded', hmore⟩ := hm.handed
    refine ⟨later ++ more, by rw [hhanded', hhanded, List.append_assoc], ?_⟩
    intro x hx
    rcases List.mem_append.1 hx with hx | hx
    · exact hlater x hx
    · obtain ⟨l, hl, -, ho⟩ := hmore x hx
      by_contra hle
      exact h.decided x.1 l (by omega) hl ho
  · exact h.lastId.trans hm.lastId
  · intro id l' hid hl'
    obtain ⟨l, hl, -, ho⟩ := hm.entry id l' hl' (hid.trans h.lastId)
    have hdecided := h.decided id l hid hl
    rcases ho with ho | ho
    · rw [← ho]
      exact hdecided
    · exact absurd ho hdecided

/-- What holds once the gate is closed. -/
structure AfterClose (t : Transition Holder Pick) (s : Holder) : Prop where
  closed : s.gate.state = .closed
  handed : s.handed = t.post.handed
  takes : ∀ (i : ℕ) (c : TakeCall) (id : Option ℕ) (o : Outcome), s.takes[i]? = some c →
    c.phase = .returned id o → t.post.takes[i]? = some c ∨ o ≠ .undecided

lemma AfterClose.step {t : Transition Holder Pick} {s s' : Holder} {a : Pick} (h : AfterClose t s)
    (hok : HolderOk s) (hm : Moves s s') (hs : Instance.step s a = some s') : AfterClose t s' := by
  constructor
  · exact hm.closed h.closed
  · obtain ⟨later, hhanded, hlater⟩ := hm.handed
    cases later with
    | nil => rw [hhanded, List.append_nil, h.handed]
    | cons x later =>
      obtain ⟨l, hl, -, ho⟩ := hlater x List.mem_cons_self
      exact absurd ho (hok.gate.decided h.closed x.1 l hl)
  · intro i c id o hi hc
    rcases step_returned hs hi hc with hi | rfl | ⟨k, l, -, hl, rfl⟩
    · exact h.takes i c id o hi hc
    · exact .inr (by simp)
    · exact .inr (hok.gate.decided h.closed k l hl)

structure Ledger (es : List (Transition Holder Pick)) (s : Holder) : Prop where
  ok : HolderOk s
  signal : ∀ t ∈ es, t.post.Refuses → t.pre.exiting = true
  opened : ∀ t ∈ es, Opens t → AfterOpen t s
  closed : ∀ t ∈ es, t.post.gate.state = .closed → AfterClose t s

lemma Ledger.step {es : List (Transition Holder Pick)} {s s' : Holder} {a : Pick}
    (h : Ledger es s) (hs : Instance.step s a = some s') : Ledger (es ++ [⟨s, a, s'⟩]) s' := by
  obtain ⟨hm, hok⟩ := h.ok.step hs
  constructor
  · exact hok
  · intro t ht hr
    rcases List.mem_append.1 ht with ht | ht
    · exact h.signal t ht hr
    · obtain rfl := List.mem_singleton.1 ht
      exact hok.signaled hm hr
  · intro t ht ho
    rcases List.mem_append.1 ht with ht | ht
    · exact (h.opened t ht ho).step hm
    · obtain rfl := List.mem_singleton.1 ht
      exact AfterOpen.init h.ok hok hs ho
  · intro t ht hc
    rcases List.mem_append.1 ht with ht | ht
    · exact (h.closed t ht hc).step h.ok hm hs
    · obtain rfl := List.mem_singleton.1 ht
      exact ⟨hc, rfl, fun i c id o hi _ => .inl hi⟩

lemma Ledger.of_run {es : List (Transition Holder Pick)} {s : Holder} (h : Holder.Runs es s) :
    Ledger es s := by
  apply h.invariant
  · rintro s rfl
    exact ⟨HolderOk.init, by simp, by simp, by simp⟩
  · rintro es s a s' hledger ⟨hs, -⟩
    exact hledger.step hs

lemma HolderOk.waiting {s : Holder} (h : HolderOk s) (hclosed : s.gate.state = .closed) {id : ℕ}
    {l : Launch} (hl : s.gate.launches id = some l) :
    l.outcome = .refused ∨ l.outcome = .served ∧ ∃ x ∈ s.handed, x.1 = id := by
  cases ho : l.outcome with
  | served =>
    obtain ⟨x, hx, hid⟩ := List.mem_map.1 ((h.gate.marked id l hl).1 ho)
    exact .inr ⟨rfl, x, hx, hid⟩
  | refused => exact .inl rfl
  | undecided => exact absurd ho (h.gate.decided hclosed id l hl)

lemma HolderOk.served {s : Holder} (h : HolderOk s) {i : ℕ} {id : Option ℕ}
    (hi : s.takes[i]? = some c) (hc : c.phase = .returned id .served) :
    ∃ k, id = some k ∧ (k, c.request) ∈ s.handed := by
  have hok := h.takes i c hi
  unfold TakeOk at hok
  rw [hc] at hok
  cases id with
  | none => exact absurd hok.1 (by simp)
  | some k => exact ⟨k, rfl, hok.2.1⟩

theorem launches_answered (es : List (Transition Holder Pick)) (s : Holder)
    (h : Holder.Runs es s) : Answered es s := by
  have hledger := Ledger.of_run h
  have hok := hledger.ok
  constructor
  · exact hok.ids
  · exact hok.gate.nodup
  · exact hok.own
  · intro c hc id hp
    obtain ⟨i, hi⟩ := List.mem_iff_getElem?.1 hc
    exact hok.served hi hp
  · intro c hc id hp x hx heq
    obtain ⟨i, hi⟩ := List.mem_iff_getElem?.1 hc
    have htake := hok.takes i c hi
    unfold TakeOk at htake
    rw [hp, heq] at htake
    exact htake.2.1 (List.mem_map_of_mem hx)
  · exact hledger.signal
  · intro t ht ho
    have hopen := hledger.opened t ht ho
    exact ⟨hopen.sorted, hopen.all, hopen.later⟩
  · intro t ht hc
    have hclose := hledger.closed t ht hc
    refine ⟨hclose.handed, ?_⟩
    intro i c id o hi hp
    rcases hclose.takes i c id o hi hp with hpost | hne
    · exact .inl hpost
    · cases o with
      | served =>
        obtain ⟨k, hk, hmem⟩ := hok.served hi hp
        rw [hclose.handed] at hmem
        exact .inr (.inr ⟨rfl, k, hk, hmem⟩)
      | refused => exact .inr (.inl rfl)
      | undecided => exact absurd rfl hne
  · exact fun hclosed id l hl => hok.waiting hclosed hl
  · intro c hc
    obtain ⟨i, hi⟩ := List.mem_iff_getElem?.1 hc
    have htake := hok.takes i c hi
    unfold TakeOk at htake
    constructor
    · intro id hp
      rw [hp] at htake
      exact htake
    · intro id hp
      rw [hp] at htake
      obtain ⟨l, hl, -⟩ := htake
      exact ⟨l, hl⟩

/-- One launch is held while the instance starts, and one is still queued when it exits. -/
def exitLabels : List Pick :=
  [.take {}, .takeStep 0 false, .openGate, .take { deepLink := "urnetwork://a" },
    .takeStep 1 false, .takeStep 1 true, .close, .closeStep 0, .takeStep 0 false, .closeStep 0,
    .takeStep 1 false, .serve, .runPosted]

theorem launches_answered_on_exit : ∃ es s, Holder.Runs es s ∧
    (s.served = [(1, {})] ∧ s.takes.map TakeCall.phase =
      [.returned (some 1) .served, .returned (some 2) .refused]) ∧ Answered es s := by
  obtain ⟨es, s, h, hgood⟩ := Run.exists_of_cond step (fun _ _ => True) {} exitLabels
    (fun s => decide (s.served = [(1, {})] ∧ s.takes.map TakeCall.phase =
      [.returned (some 1) .served, .returned (some 2) .refused])) (by decide +kernel)
  exact ⟨es, s, h, of_decide_eq_true hgood, launches_answered es s h⟩

end UrnetworkWindows.Instance
