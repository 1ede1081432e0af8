/-
The gate a redirected launch goes through (`InstanceHandover.h`, `ActivationGate`).

Each definition here is what one of the gate's functions does while it holds
`stateLock_`; `Holder.lean` puts the threads around them.  `launches_` is a map from the
ids to the launches that is walked in the order of the ids; an id is given once and is
never reused, so it is a number here, and no sequence of launches wraps it.

`handed` is history: the launches that have been marked served, in the order in which
they are passed to `serve`.  The main definition is `GateOk`, what holds of the gate and of
this history whenever the lock is free, and there is a lemma for each of the functions.
-/
import Mathlib.Tactic

namespace UrnetworkWindows.Instance

/-- `LaunchRequest`. -/
structure LaunchRequest where
  deepLink : String := ""
  autostart : Bool := false
deriving DecidableEq, Repr

/-- `ActivationGate::Outcome`. -/
inductive Outcome
  | served
  | refused
  | undecided
deriving DecidableEq, Repr

/-- `ActivationGate::State`. -/
inductive State
  | starting
  | opened
  | closed
deriving DecidableEq, Repr

/-- `ActivationGate::Launch`. -/
structure Launch where
  request : LaunchRequest
  posted : Bool := false
  outcome : Outcome := .undecided
  abandoned : Bool := false
deriving DecidableEq, Repr

/-- What the end of `Await` leaves of the entry. -/
def Launch.left (l : Launch) : Option Launch :=
  if l.outcome = .undecided then some { l with abandoned := true } else none

lemma Launch.left_of_undecided {l : Launch} (ho : l.outcome = .undecided) :
    l.left = some { l with abandoned := true } := if_pos ho

lemma Launch.left_of_decided {l : Launch} (ho : l.outcome ≠ .undecided) : l.left = none := if_neg ho

/-- The gate's fields.  `post_` and `serve_` are set when the gate opens, and are only
used for launches taken after that. -/
structure ActivationGate where
  state : State := .starting
  lastId : ℕ := 0
  launches : ℕ → Option Launch := fun _ => none

namespace ActivationGate

/-- The launches in the order of the map, with their requests. -/
def requests (g : ActivationGate) : List (ℕ × LaunchRequest) :=
  (List.range (g.lastId + 1)).filterMap fun id => (g.launches id).map fun l => (id, l.request)

/-- `Take`, its first critical section: the id, and whether there is a `post`. -/
def take (g : ActivationGate) (request : LaunchRequest) : Option (ℕ × Bool) × ActivationGate :=
  if g.state = .closed then (none, g)
  else
    let id := g.lastId + 1
    let post := decide (g.state = .opened)
    let launch : Launch := { request, posted := post }
    (some (id, post),
      { g with lastId := id, launches := Function.update g.launches id (some launch) })

/-- `Open`, up to the release of the lock: what it then passes to `serve`. -/
def openGate (g : ActivationGate) : List (ℕ × LaunchRequest) × ActivationGate :=
  if g.state ≠ .starting then ([], g)
  else (g.requests, { g with
    state := .opened
    launches := fun id => (g.launches id).bind fun l =>
      if l.abandoned then none else some { l with outcome := .served } })

/-- `Close`, after the signal. -/
def close (g : ActivationGate) : ActivationGate :=
  if g.state = .closed then g
  else { g with
    state := .closed
    launches := fun id => (g.launches id).bind fun l =>
      if l.abandoned && !l.posted then none
      else some { l with outcome := if l.outcome = .undecided then .refused else l.outcome } }

/-- `ServePosted`, up to the release of the lock: what it then passes to `serve`. -/
def servePosted (g : ActivationGate) (id : ℕ) : List (ℕ × LaunchRequest) × ActivationGate :=
  match g.launches id with
  | none => ([], g)
  | some l =>
    let refused := decide (l.outcome ≠ .undecided)
    let l' := if refused then l else { l with outcome := .served }
    let entry := if l.abandoned then none else some l'
    (if refused then [] else [(id, l.request)],
      { g with launches := Function.update g.launches id entry })

/-- `Await`, once its wait has ended: the predicate holds, or it is past the deadline.
`none` is the lookup of an id that is not there. -/
def await (g : ActivationGate) (id : ℕ) : Option (Outcome × ActivationGate) :=
  (g.launches id).map fun l =>
    (l.outcome, { g with launches := Function.update g.launches id l.left })

end ActivationGate

/-! ### What holds while the lock is free -/

/-- The gate against the launches that have been marked served. -/
structure GateOk (g : ActivationGate) (handed : List (ℕ × LaunchRequest)) : Prop where
  bounded : ∀ id l, g.launches id = some l → id ≤ g.lastId
  handed_le : ∀ x ∈ handed, x.1 ≤ g.lastId
  nodup : (handed.map Prod.fst).Nodup
  marked : ∀ id l, g.launches id = some l → (l.outcome = .served ↔ id ∈ handed.map Prod.fst)
  decided : g.state = .closed → ∀ id l, g.launches id = some l → l.outcome ≠ .undecided
  refused : ∀ id l, g.launches id = some l → l.outcome = .refused → g.state = .closed
  starting : g.state = .starting → handed = []

/-- What the others may do to the entry of a launch: decide it, or drop it once its
`Take` has given up. -/
def Kept (x y : Option Launch) : Prop :=
  match x with
  | none => y = none
  | some l => (y = none ∧ l.abandoned = true) ∨
      ∃ o, y = some { l with outcome := o } ∧ (l.outcome = o ∨ l.outcome = .undecided)

lemma Kept.refl (x : Option Launch) : Kept x x := by
  cases x with
  | none => rfl
  | some l => exact .inr ⟨l.outcome, rfl, .inl rfl⟩

lemma Kept.entry {x : Option Launch} {l' : Launch} (h : Kept x (some l')) :
    ∃ l, x = some l ∧ l.request = l'.request ∧
      (l.outcome = l'.outcome ∨ l.outcome = .undecided) := by
  cases x with
  | none => exact absurd h (by simp [Kept])
  | some l =>
    rcases h with ⟨h, -⟩ | ⟨o, h, ho⟩
    · exact absurd h (by simp)
    · cases h
      exact ⟨l, rfl, rfl, ho⟩

lemma Kept.update {launches : ℕ → Option Launch} {id : ℕ} {x : Option Launch}
    (h : Kept (launches id) x) (k : ℕ) :
    Kept (launches k) (Function.update launches id x k) := by
  by_cases hk : k = id
  · subst hk
    rw [Function.update_self]
    exact h
  · rw [Function.update_of_ne hk]
    exact Kept.refl _

namespace ActivationGate

variable {g : ActivationGate} {id : ℕ}

lemma mem_requests {x : ℕ × LaunchRequest} :
    x ∈ g.requests ↔ x.1 ≤ g.lastId ∧ ∃ l, g.launches x.1 = some l ∧ l.request = x.2 := by
  obtain ⟨id, request⟩ := x
  simp only [requests, List.mem_filterMap, List.mem_range, Option.map_eq_some_iff, Prod.mk.injEq]
  constructor
  · rintro ⟨k, hk, l, hl, rfl, rfl⟩
    exact ⟨by omega, l, hl, rfl⟩
  · rintro ⟨hk, l, hl, rfl⟩
    exact ⟨id, by omega, l, hl, rfl, rfl⟩

lemma requests_pairwise (g : ActivationGate) : (g.requests.map Prod.fst).Pairwise (· < ·) := by
  rw [requests, List.map_filterMap]
  apply List.pairwise_lt_range.filterMap
  intro a b hab x hx y hy
  simp only [Option.map_map, Option.map_eq_some_iff, Function.comp_apply] at hx hy
  obtain ⟨-, -, rfl⟩ := hx
  obtain ⟨-, -, rfl⟩ := hy
  exact hab

lemma requests_nodup (g : ActivationGate) : (g.requests.map Prod.fst).Nodup :=
  g.requests_pairwise.imp fun h => Nat.ne_of_lt h

end ActivationGate

/-! ### The functions of the gate -/

namespace GateOk

open ActivationGate

variable {g : ActivationGate} {handed : List (ℕ × LaunchRequest)} {id : ℕ}

lemma lastId_lt (h : GateOk g handed) (hid : g.lastId < id) : g.launches id = none := by
  cases hl : g.launches id with
  | none => rfl
  | some l =>
    have hle := h.bounded id l hl
    omega

lemma not_mem_of_lastId_lt (h : GateOk g handed) (hid : g.lastId < id) :
    id ∉ handed.map Prod.fst := by
  intro hmem
  obtain ⟨x, hx, rfl⟩ := List.mem_map.1 hmem
  have hle := h.handed_le x hx
  omega

lemma undecided_of_starting (h : GateOk g handed) (hstate : g.state = .starting) {l : Launch}
    (hl : g.launches id = some l) : l.outcome = .undecided := by
  cases ho : l.outcome with
  | served =>
    have hmem := (h.marked id l hl).1 ho
    rw [h.starting hstate] at hmem
    exact absurd hmem (by simp)
  | refused =>
    have hclosed := h.refused id l hl ho
    exact absurd (hstate.symm.trans hclosed) (by simp)
  | undecided => rfl

lemma take_of_closed (hstate : g.state = .closed) (request : LaunchRequest) :
    g.take request = (none, g) := if_pos hstate

lemma take_of_not_closed (hstate : g.state ≠ .closed) (request : LaunchRequest) :
    g.take request = (some (g.lastId + 1, decide (g.state = .opened)), { g with
      lastId := g.lastId + 1
      launches := Function.update g.launches (g.lastId + 1)
        (some { request, posted := decide (g.state = .opened) }) }) := if_neg hstate

lemma take (h : GateOk g handed) (request : LaunchRequest) :
    GateOk (g.take request).2 handed := by
  by_cases hstate : g.state = .closed
  · rw [take_of_closed hstate]
    exact h
  · rw [take_of_not_closed hstate]
    have hnew := h.not_mem_of_lastId_lt (Nat.lt_succ_self g.lastId)
    constructor
    · intro k l hl
      show k ≤ g.lastId + 1
      by_cases hk : k = g.lastId + 1
      · exact hk.le
      · have hle := h.bounded k l (by simpa [Function.update_of_ne hk] using hl)
        omega
    · intro x hx
      exact (h.handed_le x hx).trans (Nat.le_succ _)
    · exact h.nodup
    · intro k l hl
      by_cases hk : k = g.lastId + 1
      · subst hk
        obtain rfl := by simpa using hl
        exact ⟨fun ho => absurd ho (by simp), fun hmem => absurd hmem hnew⟩
      · exact h.marked k l (by simpa [Function.update_of_ne hk] using hl)
    · intro hclosed
      exact absurd hclosed hstate
    · intro k l hl ho
      by_cases hk : k = g.lastId + 1
      · subst hk
        obtain rfl := by simpa using hl
        exact absurd ho (by simp)
      · exact h.refused k l (by simpa [Function.update_of_ne hk] using hl) ho
    · exact h.starting

lemma openGate_of_starting (hstate : g.state = .starting) :
    g.openGate = (g.requests, { g with
      state := .opened
      launches := fun id => (g.launches id).bind fun l =>
        if l.abandoned then none else some { l with outcome := .served } }) := by
  rw [openGate, if_neg (not_not_intro hstate)]

lemma openGate_of_not_starting (hstate : g.state ≠ .starting) : g.openGate = ([], g) :=
  if_pos hstate

lemma openGate (h : GateOk g handed) :
    GateOk g.openGate.2 (handed ++ g.openGate.1) := by
  by_cases hstate : g.state = .starting
  swap
  · rw [openGate_of_not_starting hstate, List.append_nil]
    exact h
  rw [openGate_of_starting hstate, h.starting hstate, List.nil_append]
  have hentry (k : ℕ) (l : Launch) (hl : ((g.launches k).bind fun l =>
      if l.abandoned then none else some { l with outcome := .served }) = some l) :
      l.outcome = .served ∧ ∃ l₀, g.launches k = some l₀ := by
    obtain ⟨l₀, hl₀, hl⟩ := Option.bind_eq_some_iff.1 hl
    obtain ⟨-, hl⟩ := Option.ite_none_left_eq_some.1 hl
    cases hl
    exact ⟨rfl, l₀, hl₀⟩
  constructor
  · intro k l hl
    obtain ⟨-, l₀, hl₀⟩ := hentry k l hl
    exact h.bounded k l₀ hl₀
  · intro x hx
    exact (mem_requests.1 hx).1
  · exact g.requests_nodup
  · intro k l hl
    obtain ⟨ho, l₀, hl₀⟩ := hentry k l hl
    refine ⟨fun _ => ?_, fun _ => ho⟩
    exact List.mem_map.2 ⟨(k, l₀.request), mem_requests.2 ⟨h.bounded k l₀ hl₀, l₀, hl₀, rfl⟩, rfl⟩
  · intro hclosed
    exact absurd hclosed (by simp)
  · intro k l hl ho
    obtain ⟨ho', -⟩ := hentry k l hl
    exact absurd (ho.symm.trans ho') (by simp)
  · intro hs
    exact absurd hs (by simp)

lemma openGate_kept (h : GateOk g handed) (id : ℕ) :
    Kept (g.launches id) (g.openGate.2.launches id) := by
  by_cases hstate : g.state = .starting
  swap
  · rw [openGate_of_not_starting hstate]
    exact Kept.refl _
  rw [openGate_of_starting hstate]
  show Kept (g.launches id) ((g.launches id).bind fun l =>
    if l.abandoned then none else some { l with outcome := .served })
  cases hl : g.launches id with
  | none => rfl
  | some l =>
    rw [Option.bind_some]
    split
    next ha => exact .inl ⟨rfl, ha⟩
    next => exact .inr ⟨.served, rfl, .inr (h.undecided_of_starting hstate hl)⟩

lemma close_of_closed (hstate : g.state = .closed) : g.close = g := if_pos hstate

lemma close_of_not_closed (hstate : g.state ≠ .closed) : g.close = { g with
    state := .closed
    launches := fun id => (g.launches id).bind fun l =>
      if l.abandoned && !l.posted then none
      else some { l with outcome := if l.outcome = .undecided then .refused else l.outcome } } :=
  if_neg hstate

@[simp] lemma close_state (g : ActivationGate) : g.close.state = .closed := by
  by_cases hstate : g.state = .closed
  · rw [close_of_closed hstate, hstate]
  · rw [close_of_not_closed hstate]

@[simp] lemma close_lastId (g : ActivationGate) : g.close.lastId = g.lastId := by
  by_cases hstate : g.state = .closed
  · rw [close_of_closed hstate]
  · rw [close_of_not_closed hstate]

lemma close_entry (h : GateOk g handed) {l : Launch} (hl : g.close.launches id = some l) :
    l.outcome ≠ .undecided ∧ ∃ l₀, g.launches id = some l₀ ∧
      (l.outcome = .served ↔ l₀.outcome = .served) := by
  by_cases hstate : g.state = .closed
  · rw [close_of_closed hstate] at hl
    exact ⟨h.decided hstate id l hl, l, hl, Iff.rfl⟩
  · rw [close_of_not_closed hstate] at hl
    obtain ⟨l₀, hl₀, hl⟩ := Option.bind_eq_some_iff.1 hl
    obtain ⟨-, hl⟩ := Option.ite_none_left_eq_some.1 hl
    cases hl
    refine ⟨?_, l₀, hl₀, ?_⟩
    · show (if l₀.outcome = .undecided then .refused else l₀.outcome) ≠ Outcome.undecided
      split
      next => simp
      next ho => exact ho
    · show (if l₀.outcome = .undecided then .refused else l₀.outcome) = Outcome.served ↔ _
      split
      next ho => simp [ho]
      next => rfl

lemma close (h : GateOk g handed) : GateOk g.close handed := by
  constructor
  · intro k l hl
    obtain ⟨-, l₀, hl₀, -⟩ := h.close_entry hl
    rw [close_lastId]
    exact h.bounded k l₀ hl₀
  · rw [close_lastId]
    exact h.handed_le
  · exact h.nodup
  · intro k l hl
    obtain ⟨-, l₀, hl₀, hserved⟩ := h.close_entry hl
    rw [hserved]
    exact h.marked k l₀ hl₀
  · intro _ k l hl
    exact (h.close_entry hl).1
  · intro k l hl ho
    exact close_state g
  · intro hs
    exact absurd ((close_state g).symm.trans hs) (by simp)

lemma close_kept (g : ActivationGate) (id : ℕ) :
    Kept (g.launches id) (g.close.launches id) := by
  by_cases hstate : g.state = .closed
  · rw [close_of_closed hstate]
    exact Kept.refl _
  rw [close_of_not_closed hstate]
  show Kept (g.launches id) ((g.launches id).bind fun l => if l.abandoned && !l.posted then none
    else some { l with outcome := if l.outcome = .undecided then .refused else l.outcome })
  cases g.launches id with
  | none => rfl
  | some l =>
    rw [Option.bind_some]
    split
    next ha => exact .inl ⟨rfl, (Bool.and_eq_true_iff.1 ha).1⟩
    next =>
      refine .inr ⟨_, rfl, ?_⟩
      by_cases ho : l.outcome = .undecided
      · exact .inr ho
      · rw [if_neg ho]
        exact .inl rfl

lemma update (h : GateOk g handed) {x : Option Launch}
    (hx : ∀ l', x = some l' → ∃ l, g.launches id = some l ∧ l'.outcome = l.outcome) :
    GateOk { g with launches := Function.update g.launches id x } handed := by
  have hentry (k : ℕ) (l' : Launch) (hl' : Function.update g.launches id x k = some l') :
      ∃ l, g.launches k = some l ∧ l'.outcome = l.outcome := by
    by_cases hk : k = id
    · subst hk
      rw [Function.update_self] at hl'
      exact hx l' hl'
    · rw [Function.update_of_ne hk] at hl'
      exact ⟨l', hl', rfl⟩
  constructor
  · intro k l' hl'
    obtain ⟨l, hl, -⟩ := hentry k l' hl'
    exact h.bounded k l hl
  · exact h.handed_le
  · exact h.nodup
  · intro k l' hl'
    obtain ⟨l, hl, ho⟩ := hentry k l' hl'
    rw [ho]
    exact h.marked k l hl
  · intro hclosed k l' hl'
    obtain ⟨l, hl, ho⟩ := hentry k l' hl'
    rw [ho]
    exact h.decided hclosed k l hl
  · intro k l' hl' ho'
    obtain ⟨l, hl, ho⟩ := hentry k l' hl'
    exact h.refused k l hl (ho.symm.trans ho')
  · exact h.starting

lemma update_served (h : GateOk g handed) {l : Launch} (hl : g.launches id = some l)
    (ho : l.outcome = .undecided) (hstate : g.state ≠ .starting) {x : Option Launch}
    (hx : ∀ l', x = some l' → l'.outcome = .served) :
    GateOk { g with launches := Function.update g.launches id x }
      (handed ++ [(id, l.request)]) := by
  have hnew : id ∉ handed.map Prod.fst := by
    intro hmem
    exact absurd (ho.symm.trans ((h.marked id l hl).2 hmem)) (by simp)
  have hfst : (handed ++ [(id, l.request)]).map Prod.fst = handed.map Prod.fst ++ [id] := by simp
  constructor
  · intro k l' hl'
    by_cases hk : k = id
    · subst hk
      exact h.bounded k l hl
    · exact h.bounded k l' (by simpa [Function.update_of_ne hk] using hl')
  · intro y hy
    rcases List.mem_append.1 hy with hy | hy
    · exact h.handed_le y hy
    · obtain rfl := List.mem_singleton.1 hy
      exact h.bounded id l hl
  · rw [hfst, ← List.concat_eq_append]
    exact h.nodup.concat hnew
  · intro k l' hl'
    rw [hfst, List.mem_append, List.mem_singleton]
    by_cases hk : k = id
    · subst hk
      exact ⟨fun _ => .inr rfl, fun _ => hx l' (by simpa using hl')⟩
    · rw [h.marked k l' (by simpa [Function.update_of_ne hk] using hl')]
      simp [hk]
  · intro hclosed
    exact absurd ho (h.decided hclosed id l hl)
  · intro k l' hl' ho'
    by_cases hk : k = id
    · subst hk
      exact absurd ((hx l' (by simpa using hl')).symm.trans ho') (by simp)
    · exact h.refused k l' (by simpa [Function.update_of_ne hk] using hl') ho'
  · intro hs
    exact absurd hs hstate

lemma servePosted_of_none (hl : g.launches id = none) : g.servePosted id = ([], g) := by
  rw [ActivationGate.servePosted, hl]

lemma servePosted_of_decided {l : Launch} (hl : g.launches id = some l)
    (ho : l.outcome ≠ .undecided) : g.servePosted id = ([], { g with
      launches := Function.update g.launches id (if l.abandoned then none else some l) }) := by
  rw [ActivationGate.servePosted, hl]
  simp [ho]

lemma servePosted_of_undecided {l : Launch} (hl : g.launches id = some l)
    (ho : l.outcome = .undecided) : g.servePosted id = ([(id, l.request)], { g with
      launches := Function.update g.launches id
        (if l.abandoned then none else some { l with outcome := .served }) }) := by
  rw [ActivationGate.servePosted, hl]
  simp [ho]

lemma servePosted (h : GateOk g handed) (hstate : g.state ≠ .starting) (id : ℕ) :
    GateOk (g.servePosted id).2 (handed ++ (g.servePosted id).1) := by
  cases hl : g.launches id with
  | none =>
    rw [servePosted_of_none hl, List.append_nil]
    exact h
  | some l =>
    by_cases ho : l.outcome = .undecided
    · rw [servePosted_of_undecided hl ho]
      apply h.update_served hl ho hstate
      intro l' hl'
      obtain ⟨-, hl'⟩ := Option.ite_none_left_eq_some.1 hl'
      cases hl'
      rfl
    · rw [servePosted_of_decided hl ho, List.append_nil]
      apply h.update
      intro l' hl'
      obtain ⟨-, hl'⟩ := Option.ite_none_left_eq_some.1 hl'
      cases hl'
      exact ⟨l, hl, rfl⟩

lemma servePosted_kept (g : ActivationGate) (id k : ℕ) :
    Kept (g.launches k) ((g.servePosted id).2.launches k) := by
  have hdrop (l l' : Launch) (o : Outcome) (hl' : l' = { l with outcome := o })
      (ho : l.outcome = o ∨ l.outcome = .undecided) :
      Kept (some l) (if l.abandoned then none else some l') := by
    split
    next ha => exact .inl ⟨rfl, ha⟩
    next => exact .inr ⟨o, by rw [hl'], ho⟩
  cases hl : g.launches id with
  | none =>
    rw [servePosted_of_none hl]
    exact Kept.refl _
  | some l =>
    by_cases ho : l.outcome = .undecided
    · rw [servePosted_of_undecided hl ho]
      exact Kept.update (by rw [hl]; exact hdrop l _ .served rfl (.inr ho)) k
    · rw [servePosted_of_decided hl ho]
      exact Kept.update (by rw [hl]; exact hdrop l _ l.outcome rfl (.inl rfl)) k

lemma await (h : GateOk g handed) {o : Outcome} {g' : ActivationGate}
    (hg : g.await id = some (o, g')) : GateOk g' handed := by
  obtain ⟨l, hl, heq⟩ := Option.map_eq_some_iff.1 hg
  obtain ⟨-, rfl⟩ := Prod.mk.inj heq
  apply h.update
  intro l' hl'
  obtain ⟨-, hl'⟩ := Option.ite_none_right_eq_some.1 hl'
  cases hl'
  exact ⟨l, hl, rfl⟩

end GateOk

end UrnetworkWindows.Instance
