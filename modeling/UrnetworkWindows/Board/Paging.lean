/-
The paging of the protocol board (`ProtocolBoard.cpp`).

The board asks for the first page when it is shown, for the next one near the end of the rows
and while a seek is short of its position, and for the first one again where an answer restarts
the list.  It is run here with what each answer of this open has said of cursors, and with how
often in a row a next page has added nothing.  A call that throws answers at once, which is an
answer that comes right after it.

Paging goes wrong in three ways.  Where the reload that an expired cursor brings about fails,
the list still has that cursor and pages on with it; a seek goes on with whatever cursor it is
given, for as long as the pages add nothing; and after a page that failed, a seek asks for
nothing.  `Steady` says when none of it happens.
-/
import UrnetworkWindows.Board.Ranked

namespace UrnetworkWindows.Board.Paging

open Lib

variable {δ : Type*}

/-- What the board asks of the app. -/
structure Host where
  previewUi : Bool := false
  apiReady : Bool := true
  isLoggedIn : Bool := true
deriving DecidableEq, Repr

namespace Host

def canLoadList (host : Host) : Bool := !host.previewUi && host.apiReady

def hasSession (host : Host) : Bool := !host.previewUi && host.apiReady && host.isLoggedIn

end Host

structure ProtocolBoard (δ : Type*) where
  list : Tracked δ := Tracked.reopen {}
  showing : Bool := false
  /-- The looks for a pane that is not filled, that were put in the queue. -/
  fills : ℕ := 0
  /-- Every list request that was sent, oldest first. -/
  asked : List PageRequest := []
  /-- The cursors of this open whose snapshot an answer said expired. -/
  dead : List String := []
  /-- How many next-page answers in a row, in this seek, have added no row. -/
  idle : ℕ := 0
deriving DecidableEq, Repr

namespace ProtocolBoard

variable (b : ProtocolBoard δ)

abbrev state : State δ := b.list.model.state

def reload (host : Host) : ProtocolBoard δ :=
  if host.canLoadList then
    { b with
      list := b.list.beginReload
      asked := b.asked ++ [b.list.model.beginReload.1] }
  else b

def loadNextPage (host : Host) (limit : ℤ) : ProtocolBoard δ :=
  if host.canLoadList then
    match b.list.model.beginNextPage limit with
    | none => b
    | some (request, _) =>
      { b with list := b.list.beginNextPage limit, asked := b.asked ++ [request] }
  else b

def continueSeek (host : Host) : ProtocolBoard δ :=
  if b.list.model.wantsSeekPage then b.loadNextPage host kSeekPageSize
  else { b with list := { b.list with model := b.list.model.takeLandedSeek.2 } }

/-- `ApplyPage`, for an answer that was out as `sent`. -/
def applyPage (host : Host) (sent : Sent) (outcome : TopOutcome δ) (nowMillis : ℤ) :
    ProtocolBoard δ :=
  match b.list.applyPage sent outcome nowMillis with
  | (.dropped, list) => { b with list }
  | (.restart, list) =>
    ({ b with list, fills := b.fills + 1 }.reload host).continueSeek host
  | (.applied, list) => { b with list, fills := b.fills + 1 }.continueSeek host

def loadMe (host : Host) : ProtocolBoard δ :=
  if host.hasSession then { b with list := b.list.beginMe } else b

def setShowing (host : Host) (showing : Bool) (nowMillis : ℤ) : ProtocolBoard δ :=
  let b := { b with showing }
  if ¬ showing then b
  else
    let s := b.state
    let b' :=
      if host.canLoadList ∧
          ((¬ s.listLoaded ∧ ¬ s.listLoading) ∨ b.list.model.shouldRefresh nowMillis) then
        b.reload host
      else b
    if host.hasSession ∧ ¬ s.meLoaded ∧ ¬ s.meLoading then b'.loadMe host else b'

/-- The retry button. -/
def retry (host : Host) : ProtocolBoard δ :=
  if b.state.pageFailed then b.loadNextPage host kPageSize else b.reload host

/-- `OnScroll`, near the end of the rows or not. -/
def onScroll (host : Host) (nearEnd : Bool) : ProtocolBoard δ :=
  if ¬ b.showing ∨ b.state.rows = [] ∨ b.state.next = "" ∨ b.state.pageLoading ∨ b.state.pageFailed
  then b
  else if nearEnd then b.loadNextPage host kPageSize
  else b

/-- What `ApplyPage` put in the queue, where the rows fill the pane or not. -/
def fill (host : Host) (filled : Bool) : ProtocolBoard δ :=
  let b := { b with fills := b.fills - 1 }
  if b.showing ∧ ¬ filled then b.loadNextPage host kPageSize else b

/-- The indicator is released. -/
def seek (host : Host) (position : ℤ) : ProtocolBoard δ :=
  if b.state.rows = [] then b
  else
    let sought := { b with list := { b.list with model := (b.list.model.seek position).2 } }
    if (b.list.model.seek position).1 then { sought with idle := 0 }.continueSeek host else sought

def reloadAfterNameChange (host : Host) : ProtocolBoard δ :=
  let b := b.loadMe host
  if b.state.listLoaded then b.reload host else b

def resetForSignOut : ProtocolBoard δ :=
  { b with list := b.list.close.reopen, dead := [], idle := 0 }

/-! ### What was answered -/

/-- The answer is that of a next page of this open. -/
def ofNextPage (sent : Sent) : Bool :=
  b.list.model.admits sent.generation && !sent.request.first

/-- What is noted of an answer before it is applied. -/
def noted (sent : Sent) (outcome : TopOutcome δ) (nowMillis : ℤ) : ProtocolBoard δ :=
  { b with
    dead :=
      if b.ofNextPage sent && !outcome.ok && isSnapshotExpired outcome.error then
        sent.request.cursor :: b.dead
      else b.dead
    idle :=
      if b.ofNextPage sent then
        if (b.list.applyPage sent outcome nowMillis).2.model.state.rows.length =
            b.state.rows.length then b.idle + 1
        else 0
      else b.idle }

end ProtocolBoard

inductive BoardAct (δ : Type*)
  | setShowing (host : Host) (showing : Bool) (nowMillis : ℤ)
  | retry (host : Host)
  | scroll (host : Host) (nearEnd : Bool)
  | fill (host : Host) (filled : Bool)
  /-- The `i`-th of the list requests that are out is answered. -/
  | answer (host : Host) (i : ℕ) (answer : Answer δ) (nowMillis : ℤ)
  | loadMe (host : Host)
  | meAnswer (i : ℕ) (answer : MeAnswer δ)
  | seek (host : Host) (position : ℤ)
  | nameChange (host : Host)
  | signOut
deriving DecidableEq, Repr

def next [Zero δ] (b : ProtocolBoard δ) : BoardAct δ → Option (ProtocolBoard δ)
  | .setShowing host showing nowMillis => some (b.setShowing host showing nowMillis)
  | .retry host => some (b.retry host)
  | .scroll host nearEnd => some (b.onScroll host nearEnd)
  | .fill host filled => if b.fills = 0 then none else some (b.fill host filled)
  | .answer host i answer nowMillis =>
    b.list.pages[i]?.map fun sent =>
      let b := { b with list := { b.list with pages := b.list.pages.eraseIdx i } }
      (b.noted sent answer.outcome nowMillis).applyPage host sent answer.outcome nowMillis
  | .loadMe host => some (b.loadMe host)
  | .meAnswer i answer =>
    b.list.cards[i]?.map fun card =>
      { b with
        list := { b.list with cards := b.list.cards.eraseIdx i }.applyMe card.1 card.2
          answer.outcome }
  | .seek host position => some (b.seek host position)
  | .nameChange host => some (b.reloadAfterNameChange host)
  | .signOut => some b.resetForSignOut

/-! ### When paging goes right -/

/-- The answer adds a row. -/
def brings (m : Model δ) (request : PageRequest) (outcome : TopOutcome δ) : Bool :=
  m.takes request outcome && outcome.rows.any fun row => lastPosition m.state.rows < row.position

namespace ProtocolBoard

variable (b : ProtocolBoard δ)

/-- How many next-page answers in a row will have added no row. -/
def idleAfter (sent : Sent) (outcome : TopOutcome δ) : ℕ :=
  if b.ofNextPage sent then
    if brings b.list.model sent.request outcome then 0 else b.idle + 1
  else b.idle

/-- An answer of this open makes the list reload: a next page whose snapshot expired, or is
another one. -/
def restarts (sent : Sent) (outcome : TopOutcome δ) : Bool :=
  !sent.request.first &&
    if outcome.ok then otherSnapshot b.state.snapshot outcome.snapshot
    else isSnapshotExpired outcome.error

/-- An answer does not bring back a cursor that expired, and does not keep up a seek that two
next pages in a row have not helped. -/
structure Helps (host : Host) (sent : Sent) (outcome : TopOutcome δ) : Prop where
  /-- The reload does not fail that is to take the place of an expired cursor. -/
  renews : sent.request.load = b.list.model.lastLoad → sent.request.first = true →
    outcome.ok = false → b.state.next ∉ b.dead
  /-- No answer hands out a cursor that was said to have expired. -/
  fresh : b.list.model.takes sent.request outcome = true → outcome.next ∉ b.dead
  /-- An expired cursor is heard of where the list can be reloaded. -/
  reloads : sent.request.load = b.list.model.lastLoad → sent.request.first = false →
    outcome.ok = false → isSnapshotExpired outcome.error = true → host.canLoadList = true
  /-- A page that a reload has overtaken says so while the reload is out, or of a cursor that the
  list has not got any more. -/
  late : sent.request.load ≠ b.list.model.lastLoad → sent.request.first = false →
    outcome.ok = false → isSnapshotExpired outcome.error = true →
    b.state.next = sent.request.cursor → b.state.listLoading = true
  /-- Of two answers in a row that add nothing, an overtaken one comes while a request is out. -/
  overtaken : 0 < b.state.seekTarget → 2 ≤ b.idleAfter sent outcome →
    sent.request.load ≠ b.list.model.lastLoad →
    b.state.listLoading = true ∨ b.state.pageLoading = true
  /-- Another one makes the list reload, where it can, -/
  restart : 0 < b.state.seekTarget → 2 ≤ b.idleAfter sent outcome →
    sent.request.load = b.list.model.lastLoad → b.restarts sent outcome = true →
    host.canLoadList = true
  /-- or ends the seek: it fails, leaves no cursor or is a first page that reaches the position. -/
  ends : 0 < b.state.seekTarget → 2 ≤ b.idleAfter sent outcome →
    b.list.model.takes sent.request outcome = true →
    outcome.next = "" ∨
      (sent.request.first = true ∧ b.state.seekTarget ≤ lastPosition outcome.rows)

/-- The position is past the rows that were loaded, there is more to load, and nothing is out. -/
structure Past (position : ℤ) : Prop where
  rows : ∀ row ∈ b.state.rows, row.position < position ∧ row.position < kListDepth
  next : b.state.next ≠ ""
  list : b.state.listLoading = false
  page : b.state.pageLoading = false

set_option synthInstance.maxSize 512 in
instance (host : Host) (sent : Sent) (outcome : TopOutcome δ) :
    Decidable (b.Helps host sent outcome) :=
  decidable_of_iff (_ ∧ _ ∧ _ ∧ _ ∧ _ ∧ _ ∧ _)
    ⟨fun ⟨h₁, h₂, h₃, h₄, h₅, h₆, h₇⟩ => ⟨h₁, h₂, h₃, h₄, h₅, h₆, h₇⟩,
      fun ⟨h₁, h₂, h₃, h₄, h₅, h₆, h₇⟩ => ⟨h₁, h₂, h₃, h₄, h₅, h₆, h₇⟩⟩

instance (position : ℤ) : Decidable (b.Past position) :=
  decidable_of_iff (_ ∧ _ ∧ _ ∧ _)
    ⟨fun ⟨h₁, h₂, h₃, h₄⟩ => ⟨h₁, h₂, h₃, h₄⟩, fun ⟨h₁, h₂, h₃, h₄⟩ => ⟨h₁, h₂, h₃, h₄⟩⟩

end ProtocolBoard

/-- The condition on a step. -/
def Steady [Zero δ] (b : ProtocolBoard δ) : BoardAct δ → Prop
  | .answer host i answer _ => ∀ sent, b.list.pages[i]? = some sent →
    b.list.model.admits sent.generation = true → b.Helps host sent answer.outcome
  | .seek host position => b.Past position →
    host.canLoadList = true ∧ b.state.rows ≠ [] ∧ b.state.pageFailed = false
  | _ => True

instance [Zero δ] (b : ProtocolBoard δ) : ∀ a, Decidable (Steady b a)
  | .answer host i answer _ =>
    decidable_of_iff (∀ sent ∈ b.list.pages[i]?, b.list.model.admits sent.generation = true →
      b.Helps host sent answer.outcome) (by rfl)
  | .seek host position =>
    inferInstanceAs (Decidable (b.Past position →
      host.canLoadList = true ∧ b.state.rows ≠ [] ∧ b.state.pageFailed = false))
  | .setShowing .. | .retry .. | .scroll .. | .fill .. | .loadMe .. | .meAnswer .. | .nameChange ..
  | .signOut => .isTrue trivial

/-- The list requests that a step sends. -/
def sends (e : Transition (ProtocolBoard δ) (BoardAct δ)) : List PageRequest :=
  e.post.asked.drop e.pre.asked.length

/-- No next page is asked for with a cursor whose snapshot was said to have expired. -/
def Alive (e : Transition (ProtocolBoard δ) (BoardAct δ)) : Prop :=
  ∀ request ∈ sends e, request.first = false → request.cursor ∉ e.post.dead

/-- In a seek, no next page is asked for after two next-page answers that added no row. -/
def Busy (e : Transition (ProtocolBoard δ) (BoardAct δ)) : Prop :=
  ∀ request ∈ sends e, request.first = false → 0 < e.post.state.seekTarget → e.post.idle < 2

/-- A seek past the rows asks for a next page. -/
def Seeks (e : Transition (ProtocolBoard δ) (BoardAct δ)) : Prop :=
  ∀ host position, e.label = .seek host position → e.pre.Past position →
    ∃ request ∈ sends e, request.first = false

/-- Paging neither spins nor stalls at a step. -/
structure Paged (e : Transition (ProtocolBoard δ) (BoardAct δ)) : Prop where
  alive : Alive e
  busy : Busy e
  seeks : Seeks e

/-- The runs of the board, as it is made. -/
abbrev Runs [Zero δ] : List (Transition (ProtocolBoard δ) (BoardAct δ)) → ProtocolBoard δ → Prop :=
  Run (· = {}) fun _ b a b' => next b a = some b'

/-- The runs whose steps are steady. -/
abbrev SteadyRuns [Zero δ] :
    List (Transition (ProtocolBoard δ) (BoardAct δ)) → ProtocolBoard δ → Prop :=
  Run (· = {}) fun _ b a b' => next b a = some b' ∧ Steady b a

end UrnetworkWindows.Board.Paging
