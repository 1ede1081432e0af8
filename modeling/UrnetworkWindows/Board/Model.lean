/-
The model of the protocol board (`ProtocolBoardPresentation.h`, `protocolboard::Model`).

The list is read a page at a time and pinned to one snapshot by a cursor; a seek loads it
through to a position.  Each open takes a new number, and so does each request, and only the
answer of the latest request is applied.  `PageStep` says once what the answer of a list
request does.
-/
import UrnetworkWindows.Board.Answers

namespace UrnetworkWindows.Board

variable {δ : Type*}

structure State (δ : Type*) where
  /-- A first page came back since the board opened. -/
  listLoaded : Bool := false
  /-- A reload is out. -/
  listLoading : Bool := false
  /-- The last reload failed. -/
  listFailed : Bool := false
  /-- A next page is out. -/
  pageLoading : Bool := false
  /-- The last next page failed. -/
  pageFailed : Bool := false
  snapshot : Option (Snapshot δ) := none
  rows : List (Row δ) := []
  meRow : Option (Row δ) := none
  next : String := ""
  loadedAtMillis : ℤ := 0
  /-- A position the list is loading through, or 0. -/
  seekTarget : ℤ := 0
  meLoaded : Bool := false
  meLoading : Bool := false
  meFailed : Bool := false
  me : Option (Me δ) := none
  meSnapshot : Option (Snapshot δ) := none
deriving DecidableEq, Repr

/-- What one list request asks for. -/
structure PageRequest where
  load : ℕ
  /-- Empty for the first page. -/
  cursor : String
  limit : ℤ
  first : Bool
deriving DecidableEq, Repr

inductive Applied
  /-- Not the latest request's answer. -/
  | dropped
  | applied
  /-- A page of another snapshot, or one whose snapshot expired. -/
  | restart
deriving DecidableEq, Repr

structure Model (δ : Type*) where
  state : State δ := {}
  lastOpen : ℕ := 0
  /-- `open_`. -/
  current : ℕ := 0
  lastLoad : ℕ := 0
  lastMe : ℕ := 0
deriving DecidableEq, Repr

/-- The position of the last row, or 0. -/
def lastPosition (rows : List (Row δ)) : ℤ := (rows.getLast?.map Row.position).getD 0

/-- Both snapshots have a name, and it is not the same. -/
def otherSnapshot (held answered : Option (Snapshot δ)) : Bool :=
  match held, answered with
  | some held, some answered => held.id ≠ "" && answered.id ≠ "" && held.id ≠ answered.id
  | _, _ => false

namespace Model

variable (m : Model δ)

/-- `Open`. -/
def reopen : Model δ :=
  { state := {}
    lastOpen := m.lastOpen + 1
    current := m.lastOpen + 1
    lastLoad := m.lastLoad + 1
    lastMe := m.lastMe + 1 }

def close : Model δ :=
  { m with state := {}, lastLoad := m.lastLoad + 1, lastMe := m.lastMe + 1, current := 0 }

def admits (generation : ℕ) : Bool := generation ≠ 0 && generation = m.current

def beginReload : PageRequest × Model δ :=
  ({ load := m.lastLoad + 1, cursor := "", limit := kPageSize, first := true },
    { m with
      state := { m.state with listLoading := true, pageLoading := false, pageFailed := false }
      lastLoad := m.lastLoad + 1 })

def beginNextPage (limit : ℤ) : Option (PageRequest × Model δ) :=
  if ¬ m.state.listLoaded ∨ m.state.listLoading ∨ m.state.pageLoading ∨ m.state.next = "" then none
  else if m.state.rows ≠ [] ∧ kListDepth ≤ lastPosition m.state.rows then none
  else
    some
      ({ load := m.lastLoad + 1
         cursor := m.state.next
         limit := max 1 (min limit kSeekPageSize)
         first := false },
        { m with
          state := { m.state with pageLoading := true, pageFailed := false }
          lastLoad := m.lastLoad + 1 })

/-- The state after an answer for the first page. -/
def firstPage (outcome : TopOutcome δ) (nowMillis : ℤ) : State δ :=
  if outcome.ok then
    { m.state with
      listLoading := false
      listFailed := false
      listLoaded := true
      snapshot := outcome.snapshot
      rows := outcome.rows
      meRow := outcome.me
      next := outcome.next
      loadedAtMillis := nowMillis }
  else { m.state with listLoading := false, listFailed := true, seekTarget := 0 }

/-- The state after a page that extends the list. -/
def extend (outcome : TopOutcome δ) : State δ :=
  let last := lastPosition m.state.rows
  { m.state with
    pageLoading := false
    rows := normalizeRows (m.state.rows ++ outcome.rows.filter fun row => last < row.position)
    meRow := outcome.me <|> m.state.meRow
    next := outcome.next }

def applyPage (request : PageRequest) (outcome : TopOutcome δ) (nowMillis : ℤ) :
    Applied × Model δ :=
  if request.load ≠ m.lastLoad then (.dropped, m)
  else if request.first then (.applied, { m with state := m.firstPage outcome nowMillis })
  else if ¬ outcome.ok then
    if isSnapshotExpired outcome.error then
      (.restart, { m with state := { m.state with pageLoading := false } })
    else
      (.applied,
        { m with
          state := { m.state with pageLoading := false, pageFailed := true, seekTarget := 0 } })
  else if otherSnapshot m.state.snapshot outcome.snapshot then
    (.restart, { m with state := { m.state with pageLoading := false } })
  else (.applied, { m with state := m.extend outcome })

def beginMe : ℕ × Model δ :=
  (m.lastMe + 1, { m with state := { m.state with meLoading := true }, lastMe := m.lastMe + 1 })

def applyMe (load : ℕ) (outcome : MeOutcome δ) : Bool × Model δ :=
  if load ≠ m.lastMe then (false, m)
  else if ¬ outcome.ok then
    (true, { m with state := { m.state with meLoading := false, meFailed := true } })
  else
    (true,
      { m with
        state :=
          { m.state with
            meLoading := false
            meFailed := false
            meLoaded := true
            me := outcome.me
            meSnapshot := outcome.snapshot } })

/-- Whether pages are needed for the position. -/
def seek (position : ℤ) : Bool × Model δ :=
  let position := max 1 (min position kListDepth)
  if m.state.rows ≠ [] ∧ position ≤ lastPosition m.state.rows then
    (false, { m with state := { m.state with seekTarget := 0 } })
  else if m.state.next = "" then (false, { m with state := { m.state with seekTarget := 0 } })
  else (true, { m with state := { m.state with seekTarget := position } })

/-- A seek is short of its position, and another page can bring it. -/
def wantsSeekPage : Bool :=
  0 < m.state.seekTarget && m.state.next ≠ "" && !m.state.pageFailed && !m.state.pageLoading &&
    (m.state.rows = [] || lastPosition m.state.rows < m.state.seekTarget)

/-- The seek's position is loaded. -/
def reached : Bool :=
  m.state.rows ≠ [] && decide (m.state.seekTarget ≤ lastPosition m.state.rows)

def takeLandedSeek : Option ℤ × Model δ :=
  if m.state.seekTarget ≤ 0 then (none, m)
  else if !m.reached && m.state.next ≠ "" && !m.state.pageFailed then (none, m)
  else
    (if m.reached then some m.state.seekTarget else none,
      { m with state := { m.state with seekTarget := 0 } })

def shouldRefresh (nowMillis : ℤ) : Bool :=
  m.state.listLoaded && !m.state.listLoading && decide (0 < m.state.loadedAtMillis) &&
    decide (10 * 60 * 1000 ≤ nowMillis - m.state.loadedAtMillis)

end Model

/-! ### What an answer does -/

/-- What the answer of a list request does, with what the caller is told. -/
inductive PageStep (m : Model δ) (request : PageRequest) (outcome : TopOutcome δ) (nowMillis : ℤ) :
    Applied → Model δ → Prop
  | dropped (hload : request.load ≠ m.lastLoad) : PageStep m request outcome nowMillis .dropped m
  | first (hload : request.load = m.lastLoad) (hfirst : request.first = true) :
    PageStep m request outcome nowMillis .applied
      { m with state := m.firstPage outcome nowMillis }
  | expired (hload : request.load = m.lastLoad) (hfirst : request.first = false)
      (hok : outcome.ok = false) (hexpired : isSnapshotExpired outcome.error = true) :
    PageStep m request outcome nowMillis .restart
      { m with state := { m.state with pageLoading := false } }
  | failed (hload : request.load = m.lastLoad) (hfirst : request.first = false)
      (hok : outcome.ok = false) (hexpired : isSnapshotExpired outcome.error = false) :
    PageStep m request outcome nowMillis .applied
      { m with state := { m.state with pageLoading := false, pageFailed := true, seekTarget := 0 } }
  | other (hload : request.load = m.lastLoad) (hfirst : request.first = false)
      (hok : outcome.ok = true)
      (hother : otherSnapshot m.state.snapshot outcome.snapshot = true) :
    PageStep m request outcome nowMillis .restart
      { m with state := { m.state with pageLoading := false } }
  | took (hload : request.load = m.lastLoad) (hfirst : request.first = false)
      (hok : outcome.ok = true)
      (hother : otherSnapshot m.state.snapshot outcome.snapshot = false) :
    PageStep m request outcome nowMillis .applied { m with state := m.extend outcome }

theorem applyPage_step (m : Model δ) (request : PageRequest) (outcome : TopOutcome δ)
    (nowMillis : ℤ) :
    PageStep m request outcome nowMillis (m.applyPage request outcome nowMillis).1
      (m.applyPage request outcome nowMillis).2 := by
  rw [Model.applyPage]
  split_ifs with hload hfirst hok hother hexpired
  · exact .dropped hload
  · exact .first (not_not.1 hload) hfirst
  · exact .other (not_not.1 hload) (by simpa using hfirst) hok hother
  · exact .took (not_not.1 hload) (by simpa using hfirst) hok (by simpa using hother)
  · exact .expired (not_not.1 hload) (by simpa using hfirst) (by simpa using hok) hexpired
  · exact .failed (not_not.1 hload) (by simpa using hfirst) (by simpa using hok)
      (by simpa using hexpired)

lemma beginNextPage_eq_some {m m' : Model δ} {limit : ℤ} {request : PageRequest}
    (h : m.beginNextPage limit = some (request, m')) :
    (m.state.listLoaded = true ∧ m.state.listLoading = false ∧ m.state.pageLoading = false ∧
      m.state.next ≠ "") ∧ request.first = false ∧ request.cursor = m.state.next ∧
      request.load = m.lastLoad + 1 ∧
      m' = { m with
        state := { m.state with pageLoading := true, pageFailed := false }
        lastLoad := m.lastLoad + 1 } := by
  rw [Model.beginNextPage] at h
  split_ifs at h with hready hend
  cases h
  exact ⟨by simpa using hready, rfl, rfl, rfl, rfl⟩

/-! ### The list -/

lemma lastPosition_append_singleton (rows : List (Row δ)) (row : Row δ) :
    lastPosition (rows ++ [row]) = row.position := by
  simp [lastPosition]

lemma Listed.le_lastPosition {rows : List (Row δ)} (h : Listed rows) :
    ∀ row ∈ rows, row.position ≤ lastPosition rows := by
  induction rows using List.reverseRecOn with
  | nil => exact nofun
  | append_singleton rows last _ =>
    intro row hrow
    rw [lastPosition_append_singleton]
    rcases List.mem_append.1 hrow with hrow | hrow
    · exact ((List.pairwise_append.1 h.increasing).2.2 row hrow last
        (List.mem_singleton_self _)).le
    · exact (congrArg Row.position (List.mem_singleton.1 hrow)).le

lemma lastPosition_nonneg {rows : List (Row δ)} (h : Listed rows) : 0 ≤ lastPosition rows := by
  induction rows using List.reverseRecOn with
  | nil => exact le_rfl
  | append_singleton rows last _ =>
    rw [lastPosition_append_singleton]
    exact Int.zero_le_ofNat 1 |>.trans (h.inside last (by simp)).1

theorem rows_extend {m : Model δ} {outcome : TopOutcome δ} (h : Listed m.state.rows)
    (h' : Listed outcome.rows) :
    Listed (m.extend outcome).rows ∧ (m.extend outcome).rows =
      m.state.rows ++ outcome.rows.filter fun row => lastPosition m.state.rows < row.position := by
  have happend := listed_append h (h'.filter fun row => lastPosition m.state.rows < row.position)
    fun row hrow row' hrow' =>
      (h.le_lastPosition row hrow).trans_lt (of_decide_eq_true (List.mem_filter.1 hrow').2)
  have heq : (m.extend outcome).rows = _ := normalizeRows_eq_self happend
  rw [heq]
  exact ⟨happend, rfl⟩

end UrnetworkWindows.Board
