/-
The API keys page (`ApiKeysPage.cpp`) and its model (`ApiKeysPresentation.h`: `Model`).

Each open takes a new number and each load too.  A request carries the number of the open it
went out under, and a list's also its load's, so that an answer can be told from one of an
earlier open or of a load that a newer one has overtaken.

The requests that are out are lists; an answer takes its request out of them, in any order or
never.  A call to the library may throw, and then nothing has gone out.  What is known of the
server is that a list has no key whose delete it had answered before the list was asked for.
-/
import UrnetworkWindows.Lib.Trace

namespace UrnetworkWindows.ApiKeys

open Lib

/-- Narrow text, in bytes. -/
abbrev Bytes := List UInt8

structure Key where
  id : Bytes
  name : Bytes := []
  createTimeMillis : ℤ := 0
deriving DecidableEq, Repr

structure ListOutcome where
  ok : Bool := false
  keys : List Key := []
deriving DecidableEq, Repr

inductive DeleteState
  | idle
  | pending
  | failed
deriving DecidableEq, Repr

/-- What the page knows. -/
structure State where
  loaded : Bool := false
  loading : Bool := false
  failed : Bool := false
  keys : List Key := []
  /-- The deletes that are running or failed, by key id. -/
  deletes : Bytes → Option DeleteState := fun _ => none

structure Model where
  state : State := {}
  lastOpen : ℕ := 0
  /-- `open_`. -/
  current : ℕ := 0
  lastLoad : ℕ := 0

/-! ### The model -/

namespace Model

variable (m : Model)

def listed (id : Bytes) : Bool := m.state.keys.any (·.id = id)

def opens : Model :=
  { m with
    state := {}
    lastLoad := m.lastLoad + 1
    lastOpen := m.lastOpen + 1
    current := m.lastOpen + 1 }

def close : Model := { m with state := {}, lastLoad := m.lastLoad + 1, current := 0 }

def admits (generation : ℕ) : Bool := generation ≠ 0 && generation == m.current

/-- `BeginLoad`, of which the number is the model's `lastLoad`. -/
def beginLoad : Model :=
  { m with state := { m.state with loading := true }, lastLoad := m.lastLoad + 1 }

def applyLoad (load : ℕ) (outcome : ListOutcome) : Model :=
  if load ≠ m.lastLoad then m
  else if !outcome.ok then
    { m with state := { m.state with loading := false, failed := true } }
  else
    { m with
      state := {
        loading := false
        failed := false
        loaded := true
        keys := outcome.keys
        deletes := fun id => if outcome.keys.any (·.id = id) then m.state.deletes id else none } }

/-- `BeginDelete`, if the delete goes out. -/
def beginDelete (id : Bytes) : Option Model :=
  if !m.listed id then none
  else if m.state.deletes id = some .pending then none
  else
    let deletes := Function.update m.state.deletes id (some .pending)
    some { m with state := { m.state with deletes } }

def applyDelete (id : Bytes) (ok : Bool) : Model :=
  if m.state.deletes id ≠ some .pending then m
  else if !ok then
    let deletes := Function.update m.state.deletes id (some .failed)
    { m with state := { m.state with deletes } }
  else
    { m with
      state := { m.state with
        deletes := Function.update m.state.deletes id none
        keys := m.state.keys.filter (·.id ≠ id) } }

end Model

/-! ### The page -/

structure Page where
  model : Model := {}
  /-- `open_`. -/
  isOpen : Bool := false
  session : Bool := false

/-- A list that was asked for, with the deletes that the server had answered by then. -/
structure ListRequest where
  generation : ℕ
  load : ℕ
  gone : List Bytes
deriving DecidableEq, Repr

/-- A delete that was asked for, with the server's answer, if it has given one. -/
structure DeleteRequest where
  generation : ℕ
  id : Bytes
  answer : Option Bool := none
deriving DecidableEq, Repr

/-- The page, the requests that are out, and what has happened. -/
structure World where
  page : Page := {}
  lists : List ListRequest := []
  deletes : List DeleteRequest := []
  /-- The keys whose delete the server has answered with a success. -/
  gone : List Bytes := []
  /-- The deletes applied with a success, with the open they were applied in. -/
  applied : List (ℕ × Bytes) := []

namespace Page

variable (p : Page)

def applyList (generation load : ℕ) (outcome : ListOutcome) : Page :=
  if !p.model.admits generation then p
  else { p with model := p.model.applyLoad load outcome }

end Page

namespace World

variable (w : World)

def model : Model := w.page.model

def setModel (model : Model) : World := { w with page := { w.page with model } }

/-- `Load`, of which the call throws or the request goes out. -/
def load (throws : Bool) : World :=
  if !w.page.isOpen || !w.page.session then w
  else
    let generation := w.model.current
    let w := w.setModel w.model.beginLoad
    let load := w.model.lastLoad
    if throws then { w with page := w.page.applyList generation load {} }
    else { w with lists := w.lists ++ [⟨generation, load, w.gone⟩] }

/-- `Open`, with what `HasSession` says. -/
def opens (session throws : Bool) : World :=
  { w with page := { model := w.model.opens, isOpen := true, session } }.load throws

def close : World :=
  { w with page := { model := w.model.close, isOpen := false, session := false } }

/-- `OnCreated`. -/
def created (generation : ℕ) (throws : Bool) : World :=
  if !w.page.isOpen || !w.model.admits generation then w else w.load throws

/-- `Delete`, of which the call throws or the request goes out. -/
def delete (id : Bytes) (generation : ℕ) (throws : Bool) : World :=
  if !w.page.isOpen || !w.page.session || !w.model.admits generation then w
  else
    match w.model.beginDelete id with
    | none => w
    | some model =>
      if throws then w.setModel (model.applyDelete id false)
      else { w.setModel model with deletes := w.deletes ++ [{ generation, id }] }

/-- `ApplyDelete`. -/
def applyDelete (d : DeleteRequest) (ok throws : Bool) : World :=
  if !w.model.admits d.generation then w
  else
    let w := w.setModel (w.model.applyDelete d.id ok)
    if ok then { w with applied := (w.model.current, d.id) :: w.applied }.load throws else w

end World

/-! ### Steps -/

inductive Act
  | opens (session throws : Bool)
  | close
  /-- `Refresh`, and Try again. -/
  | refresh (throws : Bool)
  | created (generation : ℕ) (throws : Bool)
  /-- The answer to a list. -/
  | applyList (i : ℕ) (outcome : ListOutcome)
  /-- A delete that was confirmed on a list of this open. -/
  | delete (id : Bytes) (generation : ℕ) (throws : Bool)
  /-- The server answers a delete. -/
  | answerDelete (i : ℕ) (ok : Bool)
  /-- Its answer is applied. -/
  | applyDelete (i : ℕ) (throws : Bool)

/-- The answer has no key whose delete had been answered when the list was asked for. -/
def ListRequest.reflects (l : ListRequest) (outcome : ListOutcome) : Bool :=
  outcome.keys.all fun key => !l.gone.contains key.id

def next (w : World) : Act → Option World
  | .opens session throws => some (w.opens session throws)
  | .close => some w.close
  | .refresh throws => some (w.load throws)
  | .created generation throws => some (w.created generation throws)
  | .applyList i outcome => do
    let l ← w.lists[i]?
    guard (l.reflects outcome)
    return { w with
      lists := w.lists.eraseIdx i
      page := w.page.applyList l.generation l.load outcome }
  | .delete id generation throws => some (w.delete id generation throws)
  | .answerDelete i ok => do
    let d ← w.deletes[i]?
    guard d.answer.isNone
    return { w with
      deletes := w.deletes.set i { d with answer := some ok }
      gone := if ok then d.id :: w.gone else w.gone }
  | .applyDelete i throws => do
    let d ← w.deletes[i]?
    let ok ← d.answer
    return { w with deletes := w.deletes.eraseIdx i }.applyDelete d ok throws

/-- The runs whose steps meet a condition. -/
abbrev Runs (cond : World → Act → Prop) : List (Transition World Act) → World → Prop :=
  Run (· = {}) fun _ w a w' => next w a = some w' ∧ cond w a

end UrnetworkWindows.ApiKeys
