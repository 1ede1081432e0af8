/-
The ranked list is one snapshot's, in order.

The model is run with the requests that are out and the answers that its list is made of: what
is asked for is answered at most once, at any time and with anything, and the answer is applied
if the model admits its open.  A request is dropped when a newer first page is asked for, or the
board is opened or closed.

An answer's snapshot may have no name, and so may the list's; where neither is missing, all the
answers that the list is made of are the same snapshot's (`Contents`).
-/
import UrnetworkWindows.Board.Model
import UrnetworkWindows.Lib.Trace

namespace UrnetworkWindows.Board

open Lib

variable {δ : Type*}

/-- A list request that was sent and has not been answered. -/
structure Sent where
  generation : ℕ
  request : PageRequest
  dropped : Bool := false
deriving DecidableEq, Repr

/-- What the sdk answers a list request with, or what the call threw. -/
inductive Answer (δ : Type*)
  | sdk (result : Option (SnTopResult δ)) (err : Option String)
  | threw (what : String)
deriving DecidableEq, Repr

/-- What the sdk answers a card request with, or what the call threw. -/
inductive MeAnswer (δ : Type*)
  | sdk (result : Option (SnTopMeResult δ)) (err : Option String)
  | threw (what : String)
deriving DecidableEq, Repr

section Outcomes

variable [Zero δ]

def Answer.outcome : Answer δ → TopOutcome δ
  | .sdk result err => topOutcomeFrom result err
  | .threw what => { error := what }

def MeAnswer.outcome : MeAnswer δ → MeOutcome δ
  | .sdk result err => meOutcomeFrom result err
  | .threw what => { error := what }

lemma Answer.listed (answer : Answer δ) : Listed answer.outcome.rows := by
  cases answer with
  | sdk result err => exact (topOutcomeFrom_spec result err).1
  | threw what => exact .nil

lemma Answer.snapshot (answer : Answer δ) (hok : answer.outcome.ok = true) :
    ∃ s, answer.outcome.snapshot = some s := by
  cases answer with
  | sdk result err => exact Option.isSome_iff_exists.1 ((topOutcomeFrom_spec result err).2.1 hok)
  | threw what => cases hok

end Outcomes

/-- The model, the requests that are out and what the list is made of. -/
structure Tracked (δ : Type*) where
  model : Model δ := {}
  /-- The list requests that have not been answered, oldest first. -/
  pages : List Sent := []
  /-- The card requests that have not been answered, with the opens they went out under. -/
  cards : List (ℕ × ℕ) := []
  /-- The latest list request of this open, and the latest card request. -/
  latest : Option PageRequest := none
  latestMe : Option ℕ := none
  /-- The answers the list is made of, its first page first. -/
  answers : List (TopOutcome δ) := []
deriving DecidableEq, Repr

/-- The answer becomes the list, or a part of it. -/
def Model.takes (m : Model δ) (request : PageRequest) (outcome : TopOutcome δ) : Bool :=
  request.load = m.lastLoad && outcome.ok &&
    (request.first || !otherSnapshot m.state.snapshot outcome.snapshot)

namespace Tracked

variable (w : Tracked δ)

/-- What is out, once none of it is waited for. -/
def overtaken : List Sent := w.pages.map fun sent => { sent with dropped := true }

def reopen : Tracked δ := { model := w.model.reopen, pages := w.overtaken, cards := w.cards }

def close : Tracked δ := { model := w.model.close, pages := w.overtaken, cards := w.cards }

def beginReload : Tracked δ :=
  { w with
    model := w.model.beginReload.2
    pages := w.overtaken ++ [{ generation := w.model.current, request := w.model.beginReload.1 }]
    latest := some w.model.beginReload.1 }

def beginNextPage (limit : ℤ) : Tracked δ :=
  match w.model.beginNextPage limit with
  | none => w
  | some (request, model) =>
    { w with
      model
      pages := w.pages ++ [{ generation := w.model.current, request }]
      latest := some request }

def applyPage (sent : Sent) (outcome : TopOutcome δ) (nowMillis : ℤ) : Applied × Tracked δ :=
  if w.model.admits sent.generation then
    ((w.model.applyPage sent.request outcome nowMillis).1,
      { w with
        model := (w.model.applyPage sent.request outcome nowMillis).2
        answers :=
          if w.model.takes sent.request outcome then
            if sent.request.first then [outcome] else w.answers ++ [outcome]
          else w.answers })
  else (.dropped, w)

def beginMe : Tracked δ :=
  { w with
    model := w.model.beginMe.2
    cards := w.cards ++ [(w.model.current, w.model.beginMe.1)]
    latestMe := some w.model.beginMe.1 }

def applyMe (generation load : ℕ) (outcome : MeOutcome δ) : Tracked δ :=
  if w.model.admits generation then { w with model := (w.model.applyMe load outcome).2 } else w

end Tracked

inductive Act (δ : Type*)
  | reopen
  | close
  | beginReload
  | beginNextPage (limit : ℤ)
  /-- The `i`-th of the list requests that are out is answered. -/
  | applyPage (i : ℕ) (answer : Answer δ) (nowMillis : ℤ)
  | beginMe
  | applyMe (i : ℕ) (answer : MeAnswer δ)
  | seek (position : ℤ)
  | takeLandedSeek
deriving DecidableEq, Repr

def next [Zero δ] (w : Tracked δ) : Act δ → Option (Tracked δ)
  | .reopen => some w.reopen
  | .close => some w.close
  | .beginReload => some w.beginReload
  | .beginNextPage limit => some (w.beginNextPage limit)
  | .applyPage i answer nowMillis =>
    w.pages[i]?.map fun sent =>
      ({ w with pages := w.pages.eraseIdx i }.applyPage sent answer.outcome nowMillis).2
  | .beginMe => some w.beginMe
  | .applyMe i answer =>
    w.cards[i]?.map fun card =>
      { w with cards := w.cards.eraseIdx i }.applyMe card.1 card.2 answer.outcome
  | .seek position => some { w with model := (w.model.seek position).2 }
  | .takeLandedSeek => some { w with model := w.model.takeLandedSeek.2 }

abbrev Runs [Zero δ] : List (Transition (Tracked δ) (Act δ)) → Tracked δ → Prop :=
  Run (fun w => w = {}) fun _ w a w' => next w a = some w'

/-! ### The requests that are out -/

/-- Each request has its own number, the latest has the newest, and the one that is waited for is
the latest. -/
structure Queue (w : Tracked δ) : Prop where
  loads : (w.pages.map fun sent => sent.request.load).Nodup
  asked : ∀ sent ∈ w.pages, sent.request.load ≤ w.model.lastLoad ∧
    (sent.request.load = w.model.lastLoad → w.latest = some sent.request)
  out : ∀ sent ∈ w.pages, sent.dropped = false → sent.request.load = w.model.lastLoad ∧
    (sent.request.first = true → w.model.state.listLoading = true) ∧
    (sent.request.first = false → w.model.state.pageLoading = true)
  single : w.model.state.listLoading = false ∨ w.model.state.pageLoading = false

namespace Queue

variable {w w' : Tracked δ}

lemma same (h : Queue w) (hpages : w'.pages = w.pages) (hlatest : w'.latest = w.latest)
    (hload : w'.model.lastLoad = w.model.lastLoad)
    (hlist : w'.model.state.listLoading = w.model.state.listLoading)
    (hpage : w'.model.state.pageLoading = w.model.state.pageLoading) : Queue w' := by
  refine ⟨hpages ▸ h.loads, ?_, ?_, hlist ▸ hpage ▸ h.single⟩
  · rw [hpages, hload, hlatest]
    exact h.asked
  · rw [hpages, hload, hlist, hpage]
    exact h.out

lemma mem_overtaken {sent : Sent} (h : sent ∈ w.overtaken) :
    sent.dropped = true ∧ ∃ sent' ∈ w.pages, sent.request = sent'.request := by
  obtain ⟨sent', hmem, rfl⟩ := List.mem_map.1 h
  exact ⟨rfl, sent', hmem, rfl⟩

lemma loads_overtaken (h : Queue w) : (w.overtaken.map fun sent => sent.request.load).Nodup := by
  rw [Tracked.overtaken, List.map_map]
  exact h.loads

lemma of_overtaken (h : Queue w) (hpages : w'.pages = w.overtaken)
    (hload : w'.model.lastLoad = w.model.lastLoad + 1)
    (hsingle : w'.model.state.listLoading = false ∨ w'.model.state.pageLoading = false) :
    Queue w' := by
  refine ⟨hpages ▸ h.loads_overtaken, fun sent hsent => ?_, fun sent hsent hdropped => ?_, hsingle⟩
  · rw [hpages] at hsent
    obtain ⟨-, sent', hsent', hrequest⟩ := mem_overtaken hsent
    have hle := (h.asked sent' hsent').1
    rw [hrequest, hload]
    exact ⟨by omega, fun hnew => absurd hnew (by omega)⟩
  · rw [hpages] at hsent
    exact absurd ((mem_overtaken hsent).1.symm.trans hdropped) nofun

lemma send {new : Sent} {pages : List Sent} (h : Queue w)
    (hloads : (pages.map fun sent => sent.request.load).Nodup)
    (hold : ∀ sent ∈ pages, sent.dropped = true ∧ ∃ sent' ∈ w.pages, sent.request = sent'.request)
    (hnew : new.request.load = w.model.lastLoad + 1)
    (hpages : w'.pages = pages ++ [new]) (hlatest : w'.latest = some new.request)
    (hload : w'.model.lastLoad = w.model.lastLoad + 1)
    (hflag : (new.request.first = true → w'.model.state.listLoading = true) ∧
      (new.request.first = false → w'.model.state.pageLoading = true))
    (hsingle : w'.model.state.listLoading = false ∨ w'.model.state.pageLoading = false) :
    Queue w' := by
  have hlt : ∀ sent ∈ pages, sent.request.load < new.request.load := fun sent hsent => by
    obtain ⟨-, sent', hsent', hrequest⟩ := hold sent hsent
    have hle := (h.asked sent' hsent').1
    rw [hrequest]
    omega
  have hcases : ∀ sent ∈ w'.pages, sent ∈ pages ∨ sent = new := fun sent hsent => by
    rw [hpages] at hsent
    exact (List.mem_append.1 hsent).imp id List.mem_singleton.1
  refine ⟨?_, fun sent hsent => ?_, fun sent hsent hdropped => ?_, hsingle⟩
  · rw [hpages, List.map_append, List.map_singleton, List.nodup_append]
    refine ⟨hloads, List.nodup_singleton _, fun load hmem load' hmem' heq => ?_⟩
    obtain ⟨sent, hsent, rfl⟩ := List.mem_map.1 hmem
    exact (hlt sent hsent).ne (heq.trans (List.mem_singleton.1 hmem'))
  · rcases hcases sent hsent with hsent | rfl
    · have := hlt sent hsent
      exact ⟨by omega, fun hlast => absurd hlast (by omega)⟩
    · exact ⟨(hnew.trans hload.symm).le, fun _ => hlatest⟩
  · rcases hcases sent hsent with hsent | rfl
    · exact absurd ((hold sent hsent).1.symm.trans hdropped) nofun
    · exact ⟨hnew.trans hload.symm, hflag⟩

lemma reopen (h : Queue w) : Queue w.reopen := h.of_overtaken rfl rfl (.inl rfl)

lemma close (h : Queue w) : Queue w.close := h.of_overtaken rfl rfl (.inl rfl)

lemma beginReload (h : Queue w) : Queue w.beginReload :=
  h.send h.loads_overtaken (fun _ => mem_overtaken) rfl rfl rfl rfl ⟨fun _ => rfl, nofun⟩ (.inr rfl)

lemma dropped (h : Queue w) (hlist : w.model.state.listLoading = false)
    (hpage : w.model.state.pageLoading = false) : ∀ sent ∈ w.pages, sent.dropped = true := by
  intro sent hsent
  by_contra hdropped
  obtain ⟨-, hfirst, hnext⟩ := h.out sent hsent (Bool.eq_false_iff.2 hdropped)
  cases hf : sent.request.first with
  | true => exact absurd (hlist.symm.trans (hfirst hf)) nofun
  | false => exact absurd (hpage.symm.trans (hnext hf)) nofun

lemma beginNextPage (h : Queue w) (limit : ℤ) : Queue (w.beginNextPage limit) := by
  rw [Tracked.beginNextPage]
  split
  · exact h
  · next request model hsome =>
    obtain ⟨⟨-, hlist, hpage, -⟩, hfirst, -, hload, rfl⟩ := beginNextPage_eq_some hsome
    have hdropped := h.dropped hlist hpage
    exact h.send h.loads (fun sent hsent => ⟨hdropped sent hsent, sent, hsent, rfl⟩) hload
      rfl rfl rfl ⟨fun hf => absurd (hfirst.symm.trans hf) nofun, fun _ => rfl⟩ (.inl hlist)

lemma erase (h : Queue w) (i : ℕ) : Queue { w with pages := w.pages.eraseIdx i } :=
  ⟨h.loads.sublist ((List.eraseIdx_sublist ..).map _),
    fun sent hsent => h.asked sent (List.mem_of_mem_eraseIdx hsent),
    fun sent hsent => h.out sent (List.mem_of_mem_eraseIdx hsent), h.single⟩

lemma answered (h : Queue w) (hnew : ∀ sent ∈ w.pages, sent.request.load ≠ w.model.lastLoad)
    (hpages : w'.pages = w.pages) (hlatest : w'.latest = w.latest)
    (hload : w'.model.lastLoad = w.model.lastLoad)
    (hsingle : w'.model.state.listLoading = false ∨ w'.model.state.pageLoading = false) :
    Queue w' := by
  refine ⟨hpages ▸ h.loads, ?_, fun sent hsent hdropped => ?_, hsingle⟩
  · rw [hpages, hload, hlatest]
    exact h.asked
  · rw [hpages] at hsent
    exact absurd (h.out sent hsent hdropped).1 (hnew sent hsent)

lemma applyPage {sent : Sent} {outcome : TopOutcome δ} {nowMillis : ℤ} (h : Queue w)
    (hnew : ∀ sent' ∈ w.pages, sent'.request.load ≠ sent.request.load) :
    Queue (w.applyPage sent outcome nowMillis).2 := by
  rw [Tracked.applyPage]
  by_cases hadmits : w.model.admits sent.generation = true
  · rw [if_pos hadmits]
    have hstep := applyPage_step w.model sent.request outcome nowMillis
    generalize w.model.applyPage sent.request outcome nowMillis = r at hstep
    obtain ⟨told, model⟩ := r
    cases hstep with
    | dropped hload => exact h.same rfl rfl rfl rfl rfl
    | first hload hfirst =>
      refine h.answered (hload ▸ hnew) rfl rfl rfl (.inl ?_)
      change (w.model.firstPage outcome nowMillis).listLoading = false
      rw [Model.firstPage]
      split_ifs <;> rfl
    | _ hload => exact h.answered (hload ▸ hnew) rfl rfl rfl (.inr rfl)
  · rwa [if_neg hadmits]

end Queue

/-- The same for the card requests. -/
def Cards (w : Tracked δ) : Prop :=
  ∀ card ∈ w.cards, card.2 ≤ w.model.lastMe ∧
    (card.2 = w.model.lastMe → w.latestMe = some card.2)

namespace Cards

variable {w w' : Tracked δ}

lemma of_new (h : Cards w) (hcards : w'.cards = w.cards)
    (hlast : w'.model.lastMe = w.model.lastMe + 1) : Cards w' := by
  intro card hcard
  rw [hcards] at hcard
  have := (h card hcard).1
  exact ⟨by omega, fun heq => absurd heq (by omega)⟩

lemma beginMe (h : Cards w) : Cards w.beginMe := by
  intro card hcard
  rcases List.mem_append.1 hcard with hcard | hcard
  · have := (h card hcard).1
    exact ⟨Nat.le_succ_of_le this, fun heq => absurd (heq.symm.le.trans this) (Nat.lt_irrefl _)⟩
  · obtain rfl := List.mem_singleton.1 hcard
    exact ⟨le_rfl, fun _ => rfl⟩

lemma same (h : Cards w) (hcards : ∀ card ∈ w'.cards, card ∈ w.cards)
    (hlatest : w'.latestMe = w.latestMe) (hlast : w'.model.lastMe = w.model.lastMe) : Cards w' := by
  intro card hcard
  rw [hlast, hlatest]
  exact h card (hcards card hcard)

end Cards

/-! ### What the list is made of -/

/-- The answer's snapshot is the list's, as far as both have a name. -/
def Fits (held : Option (Snapshot δ)) (outcome : TopOutcome δ) : Prop :=
  ∃ s s', held = some s ∧ outcome.snapshot = some s' ∧ (s'.id = s.id ∨ s'.id = "" ∨ s.id = "")

lemma fits_of_not_other {held : Option (Snapshot δ)} {outcome : TopOutcome δ} {s s' : Snapshot δ}
    (hheld : held = some s) (houtcome : outcome.snapshot = some s')
    (h : otherSnapshot held outcome.snapshot = false) : Fits held outcome := by
  refine ⟨s, s', hheld, houtcome, ?_⟩
  rw [hheld, houtcome] at h
  by_contra hne
  obtain ⟨hid, hanswered, hnamed⟩ : s'.id ≠ s.id ∧ s'.id ≠ "" ∧ s.id ≠ "" := by tauto
  simp [otherSnapshot, hanswered, hnamed, hid.symm] at h

structure Contents (w : Tracked δ) : Prop where
  listed : Listed w.model.state.rows
  fits : ∀ outcome ∈ w.answers, Fits w.model.state.snapshot outcome
  origin : ∀ row ∈ w.model.state.rows, ∃ outcome ∈ w.answers, row ∈ outcome.rows
  loaded : w.model.state.listLoaded = true → ∃ s, w.model.state.snapshot = some s
  /-- A next page is of a list that was loaded. -/
  pinned : ∀ sent ∈ w.pages, sent.request.first = false →
    sent.request.load = w.model.lastLoad → w.model.state.listLoaded = true

namespace Contents

variable {w w' : Tracked δ}

lemma same (h : Contents w) (hrows : w'.model.state.rows = w.model.state.rows)
    (hsnapshot : w'.model.state.snapshot = w.model.state.snapshot)
    (hloaded : w'.model.state.listLoaded = w.model.state.listLoaded)
    (hanswers : w'.answers = w.answers)
    (hpinned : ∀ sent ∈ w'.pages, sent.request.first = false →
      sent.request.load = w'.model.lastLoad → w.model.state.listLoaded = true) :
    Contents w' := by
  constructor
  · exact hrows ▸ h.listed
  · exact hsnapshot ▸ hanswers ▸ h.fits
  · exact hrows ▸ hanswers ▸ h.origin
  · exact hloaded ▸ hsnapshot ▸ h.loaded
  · exact hloaded ▸ hpinned

lemma empty (hrows : w.model.state.rows = []) (hanswers : w.answers = [])
    (hloaded : w.model.state.listLoaded = false)
    (hpinned : ∀ sent ∈ w.pages, sent.request.load ≠ w.model.lastLoad) : Contents w := by
  constructor
  · rw [hrows]
    exact .nil
  · exact fun outcome h => absurd (hanswers ▸ h) List.not_mem_nil
  · exact fun row h => absurd (hrows ▸ h) List.not_mem_nil
  · exact fun h => absurd (hloaded.symm.trans h) Bool.false_ne_true
  · exact fun sent hsent _ heq => absurd heq (hpinned sent hsent)

lemma not_pinned (hqueue : Queue w) :
    ∀ sent ∈ w.overtaken, sent.request.load ≠ w.model.lastLoad + 1 := by
  intro sent hsent
  obtain ⟨-, sent', hsent', hrequest⟩ := Queue.mem_overtaken hsent
  have := (hqueue.asked sent' hsent').1
  rw [hrequest]
  omega

lemma reopen (hqueue : Queue w) : Contents w.reopen :=
  empty rfl rfl rfl (not_pinned hqueue)

lemma close (hqueue : Queue w) : Contents w.close :=
  empty rfl rfl rfl (not_pinned hqueue)

lemma beginReload (h : Contents w) (hqueue : Queue w) : Contents w.beginReload := by
  refine h.same rfl rfl rfl rfl fun sent hsent hfirst hload => ?_
  rcases List.mem_append.1 hsent with hsent | hsent
  · exact absurd hload (not_pinned hqueue sent hsent)
  · obtain rfl := List.mem_singleton.1 hsent
    cases hfirst

lemma beginNextPage (h : Contents w) (limit : ℤ) : Contents (w.beginNextPage limit) := by
  rw [Tracked.beginNextPage]
  split
  · exact h
  · next request model hsome =>
    obtain ⟨⟨hloaded, -⟩, -, -, -, rfl⟩ := beginNextPage_eq_some hsome
    exact h.same rfl rfl rfl rfl fun _ _ _ _ => hloaded

lemma erase (h : Contents w) (i : ℕ) : Contents { w with pages := w.pages.eraseIdx i } :=
  h.same rfl rfl rfl rfl fun sent hsent => h.pinned sent (List.mem_of_mem_eraseIdx hsent)

lemma firstPage {outcome : TopOutcome δ} {nowMillis : ℤ} (h : Contents w)
    (hlisted : Listed outcome.rows)
    (hsnapshot : outcome.ok = true → ∃ s, outcome.snapshot = some s)
    (hstate : w'.model.state = w.model.firstPage outcome nowMillis)
    (hload : w'.model.lastLoad = w.model.lastLoad) (hpages : w'.pages = w.pages)
    (hanswers : w'.answers = if outcome.ok then [outcome] else w.answers) : Contents w' := by
  rw [Model.firstPage] at hstate
  cases hok : outcome.ok with
  | true =>
    obtain ⟨s, hs⟩ := hsnapshot hok
    rw [hok, if_pos rfl] at hstate hanswers
    have hheld : w'.model.state.snapshot = some s := by rw [hstate, ← hs]
    constructor
    · exact hstate ▸ hlisted
    · rw [hanswers]
      exact fun o ho => List.mem_singleton.1 ho ▸ ⟨s, s, hheld, hs, .inl rfl⟩
    · rw [hstate, hanswers]
      exact fun row hrow => ⟨outcome, List.mem_singleton_self _, hrow⟩
    · exact fun _ => ⟨s, hheld⟩
    · rw [hstate]
      exact fun _ _ _ _ => rfl
  | false =>
    rw [hok, if_neg Bool.false_ne_true] at hstate hanswers
    refine h.same ?_ ?_ ?_ hanswers ?_
    · rw [hstate]
    · rw [hstate]
    · rw [hstate]
    · rw [hpages, hload]
      exact h.pinned

lemma extend {outcome : TopOutcome δ} (h : Contents w) (hlisted : Listed outcome.rows)
    (hfits : Fits w.model.state.snapshot outcome)
    (hstate : w'.model.state = w.model.extend outcome)
    (hload : w'.model.lastLoad = w.model.lastLoad) (hpages : w'.pages = w.pages)
    (hanswers : w'.answers = w.answers ++ [outcome]) : Contents w' := by
  obtain ⟨hrows, heq⟩ := rows_extend h.listed hlisted
  have hheld : w'.model.state.snapshot = w.model.state.snapshot := hstate ▸ rfl
  constructor
  · exact hstate ▸ hrows
  · rw [hheld, hanswers]
    intro o ho
    rcases List.mem_append.1 ho with ho | ho
    · exact h.fits o ho
    · exact List.mem_singleton.1 ho ▸ hfits
  · rw [hstate, heq, hanswers]
    intro row hrow
    rcases List.mem_append.1 hrow with hrow | hrow
    · obtain ⟨o, ho, hmem⟩ := h.origin row hrow
      exact ⟨o, List.mem_append_left _ ho, hmem⟩
    · exact ⟨outcome, List.mem_concat_self,
        (List.mem_filter.1 hrow).1⟩
  · rw [hheld, hstate]
    exact h.loaded
  · rw [hstate, hpages, hload]
    exact h.pinned

/-- The answer to `sent` is applied; what is said of it as if it were still out is in `hpin`. -/
lemma applyPage {sent : Sent} {outcome : TopOutcome δ} {nowMillis : ℤ} (h : Contents w)
    (hpin : sent.request.first = false → sent.request.load = w.model.lastLoad →
      w.model.state.listLoaded = true)
    (hlisted : Listed outcome.rows)
    (hsnapshot : outcome.ok = true → ∃ s, outcome.snapshot = some s) :
    Contents (w.applyPage sent outcome nowMillis).2 := by
  rw [Tracked.applyPage]
  by_cases hadmits : w.model.admits sent.generation = true
  · rw [if_pos hadmits]
    have hstep := applyPage_step w.model sent.request outcome nowMillis
    generalize w.model.applyPage sent.request outcome nowMillis = r at hstep
    obtain ⟨told, model⟩ := r
    cases hstep with
    | dropped hload => exact h.same rfl rfl rfl (by simp [Model.takes, hload]) h.pinned
    | first hload hfirst =>
      exact h.firstPage hlisted hsnapshot rfl rfl rfl (by simp [Model.takes, hload, hfirst])
    | expired hload hfirst hok hexpired | failed hload hfirst hok hexpired =>
      exact h.same rfl rfl rfl (by simp [Model.takes, hok]) h.pinned
    | other hload hfirst hok hother =>
      exact h.same rfl rfl rfl (by simp [Model.takes, hfirst, hother]) h.pinned
    | took hload hfirst hok hother =>
      obtain ⟨s, hs⟩ := h.loaded (hpin hfirst hload)
      obtain ⟨s', hs'⟩ := hsnapshot hok
      exact h.extend hlisted (fits_of_not_other hs hs' hother) rfl rfl rfl
        (by simp [Model.takes, hload, hfirst, hok, hother])
  · rwa [if_neg hadmits]

end Contents

/-! ### Runs -/

variable {w w' : Tracked δ}

structure Inv (w : Tracked δ) : Prop where
  queue : Queue w
  cards : Cards w
  contents : Contents w

lemma applyPage_frame (w : Tracked δ) (sent : Sent) (outcome : TopOutcome δ) (nowMillis : ℤ) :
    (w.applyPage sent outcome nowMillis).2.cards = w.cards ∧
      (w.applyPage sent outcome nowMillis).2.latestMe = w.latestMe ∧
      (w.applyPage sent outcome nowMillis).2.model.lastMe = w.model.lastMe := by
  rw [Tracked.applyPage]
  by_cases hadmits : w.model.admits sent.generation = true
  · rw [if_pos hadmits]
    have hstep := applyPage_step w.model sent.request outcome nowMillis
    generalize w.model.applyPage sent.request outcome nowMillis = r at hstep
    obtain ⟨told, model⟩ := r
    cases hstep <;> exact ⟨rfl, rfl, rfl⟩
  · rw [if_neg hadmits]
    exact ⟨rfl, rfl, rfl⟩

lemma applyMe_eq (m : Model δ) (load : ℕ) (outcome : MeOutcome δ) :
    ∃ meLoaded meLoading meFailed me meSnapshot, (m.applyMe load outcome).2 =
      { m with state := { m.state with meLoaded, meLoading, meFailed, me, meSnapshot } } := by
  rw [Model.applyMe]
  split_ifs <;> exact ⟨_, _, _, _, _, rfl⟩

lemma seek_eq (m : Model δ) (position : ℤ) : ∃ target,
    (m.seek position).2 = { m with state := { m.state with seekTarget := target } } := by
  rw [Model.seek]
  split_ifs <;> exact ⟨_, rfl⟩

lemma takeLandedSeek_eq (m : Model δ) : ∃ target,
    m.takeLandedSeek.2 = { m with state := { m.state with seekTarget := target } } := by
  rw [Model.takeLandedSeek]
  split_ifs <;> exact ⟨_, rfl⟩

namespace Inv

lemma reopen (h : Inv w) : Inv w.reopen :=
  ⟨h.queue.reopen, h.cards.of_new rfl rfl, .reopen h.queue⟩

lemma close (h : Inv w) : Inv w.close :=
  ⟨h.queue.close, h.cards.of_new rfl rfl, .close h.queue⟩

lemma beginReload (h : Inv w) : Inv w.beginReload :=
  ⟨h.queue.beginReload, h.cards.same (fun _ => id) rfl rfl, h.contents.beginReload h.queue⟩

lemma beginNextPage (h : Inv w) (limit : ℤ) : Inv (w.beginNextPage limit) := by
  refine ⟨h.queue.beginNextPage limit, ?_, h.contents.beginNextPage limit⟩
  rw [Tracked.beginNextPage]
  split
  · exact h.cards
  · next request model hsome =>
    obtain ⟨-, -, -, -, rfl⟩ := beginNextPage_eq_some hsome
    exact h.cards.same (fun _ => id) rfl rfl

lemma beginMe (h : Inv w) : Inv w.beginMe :=
  ⟨h.queue.same rfl rfl rfl rfl rfl, h.cards.beginMe,
    h.contents.same rfl rfl rfl rfl h.contents.pinned⟩

lemma erase (h : Inv w) (i : ℕ) : Inv { w with pages := w.pages.eraseIdx i } :=
  ⟨h.queue.erase i, h.cards.same (fun _ => id) rfl rfl, h.contents.erase i⟩

lemma of_target (h : Inv w) (target : ℤ) :
    Inv { w with model := { w.model with state := { w.model.state with seekTarget := target } } } :=
  ⟨h.queue.same rfl rfl rfl rfl rfl, h.cards.same (fun _ => id) rfl rfl,
    h.contents.same rfl rfl rfl rfl h.contents.pinned⟩

lemma seek (h : Inv w) (position : ℤ) : Inv { w with model := (w.model.seek position).2 } := by
  obtain ⟨target, heq⟩ := seek_eq w.model position
  exact heq ▸ h.of_target target

lemma takeLandedSeek (h : Inv w) : Inv { w with model := w.model.takeLandedSeek.2 } := by
  obtain ⟨target, heq⟩ := takeLandedSeek_eq w.model
  exact heq ▸ h.of_target target

lemma applyMe (h : Inv w) (i generation load : ℕ) (outcome : MeOutcome δ) :
    Inv ({ w with cards := w.cards.eraseIdx i }.applyMe generation load outcome) := by
  have hcards : Inv { w with cards := w.cards.eraseIdx i } :=
    ⟨h.queue.same rfl rfl rfl rfl rfl,
      h.cards.same (fun card => List.mem_of_mem_eraseIdx) rfl rfl,
      h.contents.same rfl rfl rfl rfl h.contents.pinned⟩
  rw [Tracked.applyMe]
  split_ifs
  · obtain ⟨_, _, _, _, _, heq⟩ := applyMe_eq w.model load outcome
    simp only [heq]
    exact ⟨hcards.queue.same rfl rfl rfl rfl rfl, hcards.cards.same (fun _ => id) rfl rfl,
      hcards.contents.same rfl rfl rfl rfl h.contents.pinned⟩
  · exact hcards

end Inv

lemma inv_init : Inv ({} : Tracked δ) :=
  ⟨⟨.nil, nofun, nofun, .inl rfl⟩, nofun,
    .empty rfl rfl rfl fun _ h => absurd h List.not_mem_nil⟩

/-! ### What holds of the list -/

/-- What holds of the list at any time. -/
structure Ranked (w : Tracked δ) : Prop where
  listed : Listed w.model.state.rows
  origin : ∀ row ∈ w.model.state.rows, ∃ outcome ∈ w.answers, row ∈ outcome.rows
  /-- The snapshots of its answers are the one it names, but for the ones without a name. -/
  fits : ∀ outcome ∈ w.answers, Fits w.model.state.snapshot outcome
  /-- At most one list request is waited for, be it a next page or a reload. -/
  out : (w.pages.filter fun sent => !sent.dropped).length ≤ 1

lemma Queue.length_out (h : Queue w) : (w.pages.filter fun sent => !sent.dropped).length ≤ 1 := by
  have hloads := h.loads.sublist ((List.filter_sublist (p := fun sent => !sent.dropped)).map _)
  have hall : ∀ load ∈ (w.pages.filter fun sent => !sent.dropped).map fun sent => sent.request.load,
      load = w.model.lastLoad := by
    intro load hload
    obtain ⟨sent, hsent, rfl⟩ := List.mem_map.1 hload
    obtain ⟨hmem, hdropped⟩ := List.mem_filter.1 hsent
    exact (h.out sent hmem (by simpa using hdropped)).1
  rw [List.eq_replicate_of_mem hall, List.nodup_replicate, List.length_map] at hloads
  exact hloads

lemma Inv.ranked (h : Inv w) : Ranked w :=
  ⟨h.contents.listed, h.contents.origin, h.contents.fits, h.queue.length_out⟩

lemma Inv.stale (h : Inv w) {i : ℕ} {sent : Sent} {outcome : TopOutcome δ} {nowMillis : ℤ}
    (hsent : w.pages[i]? = some sent)
    (hstale : ¬ (w.model.admits sent.generation = true ∧ w.latest = some sent.request)) :
    ({ w with pages := w.pages.eraseIdx i }.applyPage sent outcome nowMillis).2.model =
      w.model := by
  rw [Tracked.applyPage]
  by_cases hadmits : w.model.admits sent.generation = true
  · have hload : sent.request.load ≠ w.model.lastLoad := fun heq =>
      hstale ⟨hadmits, (h.queue.asked sent (List.mem_of_getElem? hsent)).2 heq⟩
    rw [if_pos hadmits]
    change (w.model.applyPage sent.request outcome nowMillis).2 = w.model
    rw [Model.applyPage, if_pos hload]
  · rw [if_neg hadmits]

lemma Inv.staleMe (h : Inv w) {i : ℕ} {card : ℕ × ℕ} {outcome : MeOutcome δ}
    (hcard : w.cards[i]? = some card)
    (hstale : ¬ (w.model.admits card.1 = true ∧ w.latestMe = some card.2)) :
    ({ w with cards := w.cards.eraseIdx i }.applyMe card.1 card.2 outcome).model = w.model := by
  rw [Tracked.applyMe]
  by_cases hadmits : w.model.admits card.1 = true
  · have hload : card.2 ≠ w.model.lastMe := fun heq =>
      hstale ⟨hadmits, (h.cards card (List.mem_of_getElem? hcard)).2 heq⟩
    rw [if_pos hadmits]
    change (w.model.applyMe card.2 outcome).2 = w.model
    rw [Model.applyMe, if_pos hload]
  · rw [if_neg hadmits]

section Runs

variable [Zero δ] {a : Act δ}

namespace Inv

lemma applyPage (h : Inv w) {i : ℕ} {sent : Sent} (hsent : w.pages[i]? = some sent)
    (answer : Answer δ) (nowMillis : ℤ) : Inv
      ({ w with pages := w.pages.eraseIdx i }.applyPage sent answer.outcome nowMillis).2 := by
  obtain ⟨hcards, hlatest, hlast⟩ :=
    applyPage_frame { w with pages := w.pages.eraseIdx i } sent answer.outcome nowMillis
  refine ⟨(h.queue.erase i).applyPage fun sent' hmem => ?_, h.cards.same ?_ hlatest hlast,
    (h.contents.erase i).applyPage ?_ answer.listed answer.snapshot⟩
  · exact map_ne_of_mem_eraseIdx (f := fun sent : Sent => sent.request.load) h.queue.loads
      hsent hmem
  · exact fun card hcard => hcards ▸ hcard
  · exact h.contents.pinned sent (List.mem_of_getElem? hsent)

lemma step (h : Inv w) (hnext : next w a = some w') : Inv w' := by
  cases a with
  | reopen =>
    cases hnext
    exact h.reopen
  | close =>
    cases hnext
    exact h.close
  | beginReload =>
    cases hnext
    exact h.beginReload
  | beginNextPage limit =>
    cases hnext
    exact h.beginNextPage limit
  | applyPage i answer nowMillis =>
    obtain ⟨sent, hsent, rfl⟩ := Option.map_eq_some_iff.1 hnext
    exact h.applyPage hsent answer nowMillis
  | beginMe =>
    cases hnext
    exact h.beginMe
  | applyMe i answer =>
    obtain ⟨card, -, rfl⟩ := Option.map_eq_some_iff.1 hnext
    exact h.applyMe i card.1 card.2 answer.outcome
  | seek position =>
    cases hnext
    exact h.seek position
  | takeLandedSeek =>
    cases hnext
    exact h.takeLandedSeek

end Inv

lemma inv_of_runs {es : List (Transition (Tracked δ) (Act δ))} (h : Runs es w) : Inv w :=
  h.invariant (P := fun _ w => Inv w) (by rintro w rfl; exact inv_init)
    fun _ _ _ _ hinv hstep => hinv.step hstep

/-- What holds of each step. -/
structure Orderly (e : Transition (Tracked δ) (Act δ)) : Prop where
  /-- Only the latest list request of this open is listened to. -/
  stale : ∀ i answer nowMillis sent, e.label = .applyPage i answer nowMillis →
    e.pre.pages[i]? = some sent →
    ¬ (e.pre.model.admits sent.generation = true ∧ e.pre.latest = some sent.request) →
    e.post.model = e.pre.model
  /-- And only the latest card request. -/
  staleMe : ∀ i answer card, e.label = .applyMe i answer → e.pre.cards[i]? = some card →
    ¬ (e.pre.model.admits card.1 = true ∧ e.pre.latestMe = some card.2) →
    e.post.model = e.pre.model
  /-- A row leaves for a newer first page, or when the board is opened or closed. -/
  kept : ∀ row ∈ e.pre.model.state.rows, row ∈ e.post.model.state.rows ∨
    e.label = .reopen ∨ e.label = .close ∨
    ∃ i answer nowMillis sent, e.label = .applyPage i answer nowMillis ∧
      e.pre.pages[i]? = some sent ∧ e.pre.latest = some sent.request ∧
      sent.request.first = true ∧ answer.outcome.ok = true

lemma Inv.kept (h : Inv w) {i : ℕ} {sent : Sent} (hsent : w.pages[i]? = some sent)
    (answer : Answer δ) (nowMillis : ℤ) {row : Row δ} (hrow : row ∈ w.model.state.rows) :
    row ∈ ({ w with pages := w.pages.eraseIdx i }.applyPage sent answer.outcome
        nowMillis).2.model.state.rows ∨
      (w.latest = some sent.request ∧ sent.request.first = true ∧ answer.outcome.ok = true) := by
  rw [Tracked.applyPage]
  by_cases hadmits : w.model.admits sent.generation = true
  · rw [if_pos hadmits]
    have hstep := applyPage_step w.model sent.request answer.outcome nowMillis
    generalize w.model.applyPage sent.request answer.outcome nowMillis = r at hstep
    obtain ⟨told, model⟩ := r
    cases hstep with
    | first hload hfirst =>
      cases hok : answer.outcome.ok with
      | true =>
        exact .inr ⟨(h.queue.asked sent (List.mem_of_getElem? hsent)).2 hload, hfirst, rfl⟩
      | false =>
        left
        change row ∈ (w.model.firstPage answer.outcome nowMillis).rows
        rw [Model.firstPage, hok, if_neg Bool.false_ne_true]
        exact hrow
    | took hload hfirst hok hother =>
      left
      change row ∈ (w.model.extend answer.outcome).rows
      rw [(rows_extend h.contents.listed answer.listed).2]
      exact List.mem_append_left _ hrow
    | _ => exact .inl hrow
  · rw [if_neg hadmits]
    exact .inl hrow

lemma Inv.orderly (h : Inv w) (hnext : next w a = some w') : Orderly ⟨w, a, w'⟩ := by
  constructor
  · rintro i answer nowMillis sent rfl hsent hstale
    obtain ⟨sent', hsent', rfl⟩ := Option.map_eq_some_iff.1 hnext
    cases hsent.symm.trans hsent'
    exact h.stale hsent hstale
  · rintro i answer card rfl hcard hstale
    obtain ⟨card', hcard', rfl⟩ := Option.map_eq_some_iff.1 hnext
    cases hcard.symm.trans hcard'
    exact h.staleMe hcard hstale
  · intro row hrow
    cases a with
    | reopen => exact .inr (.inl rfl)
    | close => exact .inr (.inr (.inl rfl))
    | beginReload | beginMe =>
      cases hnext
      exact .inl hrow
    | beginNextPage limit =>
      cases hnext
      left
      change row ∈ (w.beginNextPage limit).model.state.rows
      rw [Tracked.beginNextPage]
      split
      · exact hrow
      · next request model hsome =>
        obtain ⟨-, -, -, -, rfl⟩ := beginNextPage_eq_some hsome
        exact hrow
    | applyPage i answer nowMillis =>
      obtain ⟨sent, hsent, rfl⟩ := Option.map_eq_some_iff.1 hnext
      refine (h.kept hsent answer nowMillis hrow).imp id fun ⟨hlatest, hfirst, hok⟩ => ?_
      exact .inr (.inr ⟨i, answer, nowMillis, sent, rfl, hsent, hlatest, hfirst, hok⟩)
    | applyMe i answer =>
      obtain ⟨card, -, rfl⟩ := Option.map_eq_some_iff.1 hnext
      left
      change row ∈ (Tracked.applyMe _ card.1 card.2 answer.outcome).model.state.rows
      rw [Tracked.applyMe]
      split_ifs
      · obtain ⟨_, _, _, _, _, heq⟩ := applyMe_eq w.model card.2 answer.outcome
        simp only [heq]
        exact hrow
      · exact hrow
    | seek position =>
      cases hnext
      left
      change row ∈ (w.model.seek position).2.state.rows
      rw [(seek_eq w.model position).choose_spec]
      exact hrow
    | takeLandedSeek =>
      cases hnext
      left
      change row ∈ w.model.takeLandedSeek.2.state.rows
      rw [(takeLandedSeek_eq w.model).choose_spec]
      exact hrow

/-- The list is in order and of one snapshot, as far as the snapshots have names, and what comes
of it at each step is what the latest request was answered. -/
theorem ranked_list {es : List (Transition (Tracked δ) (Act δ))} (hrun : Runs es w) :
    Ranked w ∧ ∀ e ∈ es, Orderly e := by
  refine ⟨(inv_of_runs hrun).ranked, fun e he => ?_⟩
  obtain ⟨pre, post, rfl⟩ := List.append_of_mem he
  obtain ⟨hpre, hstep⟩ := hrun.split rfl
  exact (inv_of_runs hpre).orderly hstep

end Runs

/-- A page of the snapshot with one row. -/
def samplePage (id : String) (position : ℤ) (next : String) : Answer ℤ :=
  .sdk (some
    { snapshot := some { id := some id }
      rows := some [{ position := some position }]
      next := some next }) none

/-- A first page and the next one. -/
def sampleActs (first second : String) : List (Act ℤ) :=
  [.reopen, .beginReload, .applyPage 0 (samplePage first 1 "c2") 1000, .beginNextPage kPageSize,
    .applyPage 0 (samplePage second 2 "") 2000]

lemma exists_run (as : List (Act ℤ)) (good : Tracked ℤ → Bool)
    (h : ((Lib.execute next (fun _ _ => true) {} as).any good) = true) :
    ∃ es w, Runs es w ∧ good w = true := by
  refine Run.exists_of_execute next (fun _ _ => true) (fun _ _ _ _ _ => id) ?_ as good h
  rfl

theorem ranked_list_two :
    ∃ w : Tracked ℤ, w.model.state.rows.length = 2 ∧ Ranked w := by
  obtain ⟨es, w, hrun, hgood⟩ := exists_run (sampleActs "s7" "s7")
    (fun w => w.model.state.rows.length = 2) (by decide +kernel)
  exact ⟨w, of_decide_eq_true hgood, (ranked_list hrun).1⟩

/-- A list whose snapshot has no name takes a page of one that has. -/
theorem one_snapshot_fails :
    ¬ ∀ (es : List (Transition (Tracked ℤ) (Act ℤ))) (w : Tracked ℤ), Runs es w →
      ∀ row ∈ w.model.state.rows, ∃ outcome ∈ w.answers, row ∈ outcome.rows ∧
        ∃ s s', w.model.state.snapshot = some s ∧ outcome.snapshot = some s' ∧
          (s'.id = s.id ∨ s'.id = "") := by
  intro h
  obtain ⟨es, w, hrun, hgood⟩ := exists_run (sampleActs "" "s8")
    (fun w => w.model.state.rows.any fun row => w.answers.all fun outcome =>
      !(row ∈ outcome.rows) || (outcome.snapshot.map Snapshot.id = some "s8" &&
        w.model.state.snapshot.map Snapshot.id = some "")) (by decide +kernel)
  obtain ⟨row, hrow, hall⟩ := List.any_eq_true.1 hgood
  obtain ⟨outcome, hmem, hin, s, s', hs, hs', hid⟩ := h es w hrun row hrow
  have hnames := List.all_eq_true.1 hall outcome hmem
  simp only [hin, decide_true, Bool.not_true, Bool.false_or, hs, hs', Option.map_some,
    Bool.and_eq_true, decide_eq_true_eq, Option.some.injEq] at hnames
  rw [hnames.1, hnames.2] at hid
  exact absurd hid (by decide)

end UrnetworkWindows.Board
