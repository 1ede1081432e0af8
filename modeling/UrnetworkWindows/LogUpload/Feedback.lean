/-
The app's half of "send feedback with logs" (`FeedbackLogUpload.h`).

A request runs on a thread of its own, and enters each of its two host steps, the ask and the
prepare, under the lock, unless the owner has cancelled.  The three flags of the channel are read
off the requests and the owner's `Send` (`Consistent`); `Request.Ok` says what a request has done
at each statement.
-/
import UrnetworkWindows.Lib.Trace

namespace UrnetworkWindows.LogUpload.Feedback

open Lib

/-- `ServiceAnswer`. -/
inductive ServiceAnswer
  | accepted
  | busy
  | notTaken
deriving DecidableEq, Repr

/-- `AppStep`. -/
inductive AppStep
  | done
  | deviceRemote
  | skip
deriving DecidableEq, Repr

/-- `AppStepAfterService`. -/
def appStepAfterService (answer : ServiceAnswer) (deviceRemoteBound : Bool) : AppStep :=
  if answer ≠ .notTaken then .done
  else if deviceRemoteBound then .deviceRemote
  else .skip

/-- The steps that use the host. -/
inductive HostStep
  | ask
  | prepare
deriving DecidableEq, Repr

/-- The next statement of a request's thread.  A host step is between `EnterHostStep` and
`LeaveHostStep`. -/
inductive RequestAt
  | entering (h : HostStep)
  | entered (h : HostStep)
  | inside (h : HostStep)
  | leaving (h : HostStep)
  | calling
  | ending
  | notifying
  | done
deriving DecidableEq, Repr

/-- A request: its next statement and its locals, the answer and whether there is a call to make.
The rest is its history: how often it has asked and prepared, and how its ask has ended, with an
answer or by a throw. -/
structure Request where
  place : RequestAt := .entering .ask
  answer : ServiceAnswer := .notTaken
  call : Bool := false
  asks : ℕ := 0
  prepares : ℕ := 0
  asked : Option (Option ServiceAnswer) := none
deriving DecidableEq, Repr

/-- The next statement of `Send`. -/
inductive SenderAt
  | idle
  | reaping
  | starting
deriving DecidableEq, Repr

/-- The next statement of the destructor. -/
inductive DestroyerAt
  | alive
  | cancelling
  | waiting
  | joining
  | gone
deriving DecidableEq, Repr

/-- The channel's flags, the requests there have been, the one whose thread `thread_` is, and the
callers: `Send`, so many calls of `Cancel`, and the destructor. -/
structure Upload where
  cancelled : Bool := false
  hostStep : Bool := false
  running : Bool := false
  requests : List Request := []
  thread : Option ℕ := none
  sender : SenderAt := .idle
  cancels : ℕ := 0
  destroyer : DestroyerAt := .alive
deriving DecidableEq, Repr

/-- A step of one of them.  An ask and a prepare end with a result or by a throw, and a prepare's
result is a call or an empty one. -/
inductive Op
  | send
  | reap
  | start
  | step (i : ℕ)
  | askEnds (i : ℕ) (answer : Option ServiceAnswer)
  | prepareEnds (i : ℕ) (call : Option Bool)
  | callEnds (i : ℕ)
  | cancel
  | cancelReturns
  | destroy
  | destroyCancelled
  | destroyWaited (timedOut : Bool)
  | destroyJoined
deriving DecidableEq, Repr

namespace Upload

/-- The request goes on. -/
def goTo (s : Upload) (i : ℕ) (r : Request) : Upload := { s with requests := s.requests.set i r }

/-- The next step of a request that waits for nobody. -/
def step (s : Upload) (i : ℕ) (r : Request) : Option Upload :=
  match r.place with
  | .entering h =>
    if s.cancelled then some (s.goTo i { r with place := .ending })
    else some { s.goTo i { r with place := .entered h } with hostStep := true }
  | .entered .ask => some (s.goTo i { r with place := .inside .ask, asks := r.asks + 1 })
  | .entered .prepare =>
    some (s.goTo i { r with place := .inside .prepare, prepares := r.prepares + 1 })
  | .leaving .ask =>
    let place : RequestAt :=
      if appStepAfterService r.answer true = .deviceRemote then .entering .prepare else .ending
    some { s.goTo i { r with place } with hostStep := false }
  | .leaving .prepare =>
    let place : RequestAt := if r.call then .calling else .ending
    some { s.goTo i { r with place } with hostStep := false }
  | .ending => some { s.goTo i { r with place := .notifying } with running := false }
  | .notifying => some (s.goTo i { r with place := .done })
  | .inside _ | .calling | .done => none

/-- The ask returns or throws. -/
def askEnds (s : Upload) (i : ℕ) (answer : Option ServiceAnswer) (r : Request) : Option Upload :=
  if r.place = .inside .ask then
    some (s.goTo i
      { r with place := .leaving .ask, answer := answer.getD .notTaken, asked := some answer })
  else none

/-- The prepare returns or throws. -/
def prepareEnds (s : Upload) (i : ℕ) (call : Option Bool) (r : Request) : Option Upload :=
  if r.place = .inside .prepare then
    some (s.goTo i { r with place := .leaving .prepare, call := call.getD false })
  else none

/-- The call returns or throws. -/
def callEnds (s : Upload) (i : ℕ) (r : Request) : Option Upload :=
  if r.place = .calling then some (s.goTo i { r with place := .ending }) else none

/-- What `Send` answers, at its lock section. -/
def sends (s : Upload) : Bool := !s.cancelled && !s.running

/-- The thread, if there is one, has ended. -/
def joins (s : Upload) : Bool :=
  s.thread.all fun i => s.requests[i]?.any fun r => r.place = .done

/-- The state after a step, if it can be taken. -/
def next (s : Upload) : Op → Option Upload
  | .send =>
    if s.sender = .idle ∧ s.destroyer = .alive then
      some (if s.sends then { s with running := true, sender := .reaping } else s)
    else none
  | .reap =>
    if s.sender = .reaping ∧ s.joins = true then
      some { s with thread := none, sender := .starting }
    else none
  | .start =>
    if s.sender = .starting then
      some
        { s with
          requests := s.requests ++ [{}]
          thread := some s.requests.length
          sender := .idle }
    else none
  | .step i => s.requests[i]?.bind (s.step i)
  | .askEnds i answer => s.requests[i]?.bind (s.askEnds i answer)
  | .prepareEnds i call => s.requests[i]?.bind (s.prepareEnds i call)
  | .callEnds i => s.requests[i]?.bind (s.callEnds i)
  | .cancel =>
    if s.destroyer = .alive then some { s with cancelled := true, cancels := s.cancels + 1 }
    else none
  | .cancelReturns =>
    if 0 < s.cancels ∧ s.hostStep = false then some { s with cancels := s.cancels - 1 } else none
  | .destroy =>
    if s.destroyer = .alive ∧ s.sender = .idle then
      some { s with cancelled := true, destroyer := .cancelling }
    else none
  | .destroyCancelled =>
    if s.destroyer = .cancelling ∧ s.hostStep = false then
      some { s with destroyer := if s.thread.isSome then .waiting else .gone }
    else none
  | .destroyWaited timedOut =>
    if s.destroyer = .waiting ∧ (s.running = false ∨ timedOut = true) then
      some { s with destroyer := if s.running then .gone else .joining }
    else none
  | .destroyJoined =>
    if s.destroyer = .joining ∧ s.joins = true then some { s with destroyer := .gone } else none

end Upload

/-! ### Runs -/

/-- A step, with the state before and after it. -/
abbrev Step := Transition Upload Op

/-- The runs of a new upload. -/
abbrev Runs : List Step → Upload → Prop := Run (· = {}) fun _ s op s' => s.next op = some s'

/-- A cancel begins. -/
def Op.cancelling : Op → Bool
  | .cancel | .destroy => true
  | _ => false

/-- A cancel returns. -/
def Op.cancelled : Op → Bool
  | .cancelReturns | .destroyCancelled => true
  | _ => false

/-- The request whose step it is. -/
def Op.request : Op → Option ℕ
  | .step i | .askEnds i _ | .prepareEnds i _ | .callEnds i => some i
  | _ => none

/-- The request is running: its thread has not come to its end. -/
def Request.active (r : Request) : Bool := r.place ≠ .notifying && r.place ≠ .done

/-- The request is between `EnterHostStep` and `LeaveHostStep`. -/
def Request.inHost (r : Request) : Bool :=
  match r.place with
  | .entered _ | .inside _ | .leaving _ => true
  | _ => false

/-- An ask or a prepare is running. -/
def Request.Inside (r : Request) : Prop := ∃ h, r.place = .inside h

/-- The step starts an ask or a prepare. -/
def Starts (t : Step) : Prop :=
  ∃ i r h, t.label = .step i ∧ t.pre.requests[i]? = some r ∧ r.place = .entered h

/-- The ask has ended with `NotTaken` or by a throw. -/
def Request.NotTaken (r : Request) : Prop := r.asked = some none ∨ r.asked = some (some .notTaken)

/-- The request came to its ask after a cancel had begun. -/
def Skipped (es : List Step) (i : ℕ) : Prop :=
  ∃ pre e post, es = pre ++ e :: post ∧ e.label = .step i ∧
    (∃ r, e.pre.requests[i]? = some r ∧ r.place = .entering .ask) ∧
      ∃ c ∈ pre, c.label.cancelling = true

/-- What a request has done when it is at a statement. -/
def Request.Ok (r : Request) : Prop :=
  match r.place with
  | .entering .ask | .entered .ask => r.asks = 0 ∧ r.prepares = 0
  | .inside .ask => r.asks = 1 ∧ r.prepares = 0
  | .leaving .ask => r.asks = 1 ∧ r.prepares = 0 ∧
      ∃ answer, r.asked = some answer ∧ r.answer = answer.getD .notTaken
  | .entering .prepare | .entered .prepare => r.asks = 1 ∧ r.prepares = 0 ∧ r.NotTaken
  | .inside .prepare | .leaving .prepare | .calling => r.asks = 1 ∧ r.prepares = 1 ∧ r.NotTaken
  | .ending | .notifying | .done =>
    r.asks ≤ 1 ∧ r.prepares ≤ 1 ∧ (r.prepares = 1 → r.asks = 1 ∧ r.NotTaken)

/-- The channel's flags say what the requests are doing: only the last request can be running, and
none while a `Send` is under way. -/
structure Consistent (s : Upload) : Prop where
  alone : ∀ (i : ℕ) (r : Request), s.requests[i]? = some r → r.active = true →
    i + 1 = s.requests.length ∧ s.sender = .idle
  running : s.running = true ↔ s.sender ≠ .idle ∨ ∃ r ∈ s.requests, r.active = true
  hostStep : s.hostStep = true ↔ ∃ r ∈ s.requests, r.inHost = true
  requests : ∀ r ∈ s.requests, r.Ok
  cancelled : 0 < s.cancels ∨ s.destroyer ≠ .alive → s.cancelled = true

variable {s s' : Upload} {i : ℕ} {r r' : Request} {op : Op} {es : List Step} {t : Step}

lemma active_of_inHost (h : r.inHost = true) : r.active = true := by
  rw [Request.inHost] at h
  rw [Request.active]
  split at h <;> simp_all

namespace Consistent

lemma eq_of_active (hk : Consistent s) (hi : s.requests[i]? = some r) (hactive : r.active = true)
    {j : ℕ} {q : Request} (hj : s.requests[j]? = some q) (hq : q.active = true) : j = i := by
  have hlast := (hk.alone i r hi hactive).1
  have hlast' := (hk.alone j q hj hq).1
  omega

lemma hostStep_eq (hk : Consistent s) (hi : s.requests[i]? = some r) (hactive : r.active = true) :
    s.hostStep = r.inHost := by
  rw [Bool.eq_iff_iff, hk.hostStep]
  constructor
  · rintro ⟨q, hq, hin⟩
    obtain ⟨j, hj⟩ := List.mem_iff_getElem?.1 hq
    obtain rfl := hk.eq_of_active hi hactive hj (active_of_inHost hin)
    cases hi.symm.trans hj
    exact hin
  · exact fun hin => ⟨r, List.mem_of_getElem? hi, hin⟩

lemma goOn (hk : Consistent s) (hi : s.requests[i]? = some r) (hactive : r.active = true)
    (hactive' : r'.active = true) (hok : r'.Ok) {hostStep : Bool} (hhost : hostStep = r'.inHost) :
    Consistent { s.goTo i r' with hostStep } := by
  have hlt : i < s.requests.length := (List.getElem?_eq_some_iff.1 hi).1
  have hmem : r' ∈ s.requests.set i r' := List.mem_of_getElem? (List.getElem?_set_self hlt)
  refine ⟨fun j q hj hq => ?_, ?_, ?_, fun q hq => ?_, hk.cancelled⟩
  · show j + 1 = (s.requests.set i r').length ∧ s.sender = .idle
    rw [List.length_set]
    rcases getElem?_set_cases hj with ⟨rfl, -⟩ | ⟨-, hj⟩
    · exact hk.alone j r hi hactive
    · exact hk.alone j q hj hq
  · show s.running = true ↔ s.sender ≠ .idle ∨ ∃ q ∈ s.requests.set i r', q.active = true
    rw [exists_mem_set_iff hi (by rw [hactive, hactive']), hk.running]
  · show hostStep = true ↔ ∃ q ∈ s.requests.set i r', q.inHost = true
    rw [hhost]
    refine ⟨fun hin => ⟨r', hmem, hin⟩, ?_⟩
    rintro ⟨q, hq, hin⟩
    obtain ⟨j, hj⟩ := List.mem_iff_getElem?.1 hq
    rcases getElem?_set_cases hj with ⟨-, rfl⟩ | ⟨hij, hj⟩
    · exact hin
    · exact absurd (hk.eq_of_active hi hactive hj (active_of_inHost hin)).symm hij
  · rcases List.mem_or_eq_of_mem_set hq with hq | rfl
    · exact hk.requests q hq
    · exact hok

lemma finish (hk : Consistent s) (hi : s.requests[i]? = some r) (hactive : r.active = true)
    (hout : r.inHost = false) (hactive' : r'.active = false) (hok : r'.Ok) :
    Consistent { s.goTo i r' with running := false } := by
  have hout' : r'.inHost = false := by
    rw [Bool.eq_false_iff]
    exact fun hin => absurd (active_of_inHost hin) (by simp [hactive'])
  have hothers : ∀ (j : ℕ) (q : Request), (s.requests.set i r')[j]? = some q →
      q.active = false := by
    intro j q hj
    rcases getElem?_set_cases hj with ⟨-, rfl⟩ | ⟨hij, hj⟩
    · exact hactive'
    · rw [Bool.eq_false_iff]
      exact fun hq => hij (hk.eq_of_active hi hactive hj hq).symm
  refine ⟨fun j q hj hq => absurd hq (by simp [hothers j q hj]), ?_, ?_, fun q hq => ?_,
    hk.cancelled⟩
  · show false = true ↔ s.sender ≠ .idle ∨ ∃ q ∈ s.requests.set i r', q.active = true
    refine ⟨fun h => absurd h (by simp), ?_⟩
    rintro (hsender | ⟨q, hq, hactive⟩)
    · exact absurd (hk.alone i r hi ‹_›).2 hsender
    · obtain ⟨j, hj⟩ := List.mem_iff_getElem?.1 hq
      exact absurd hactive (by simp [hothers j q hj])
  · show s.hostStep = true ↔ ∃ q ∈ s.requests.set i r', q.inHost = true
    rw [exists_mem_set_iff hi (by rw [hout, hout']), hk.hostStep]
  · rcases List.mem_or_eq_of_mem_set hq with hq | rfl
    · exact hk.requests q hq
    · exact hok

lemma ended (hk : Consistent s) (hi : s.requests[i]? = some r) (hactive : r.active = false)
    (hactive' : r'.active = false) (hok : r'.Ok) : Consistent (s.goTo i r') := by
  have hout : ∀ {q : Request}, q.active = false → q.inHost = false := by
    intro q hq
    rw [Bool.eq_false_iff]
    exact fun hin => absurd (active_of_inHost hin) (by simp [hq])
  refine ⟨fun j q hj hq => ?_, ?_, ?_, fun q hq => ?_, hk.cancelled⟩
  · show j + 1 = (s.requests.set i r').length ∧ s.sender = .idle
    rw [List.length_set]
    rcases getElem?_set_cases hj with ⟨-, rfl⟩ | ⟨-, hj⟩
    · exact absurd hq (by simp [hactive'])
    · exact hk.alone j q hj hq
  · show s.running = true ↔ s.sender ≠ .idle ∨ ∃ q ∈ s.requests.set i r', q.active = true
    rw [exists_mem_set_iff hi (by rw [hactive, hactive']), hk.running]
  · show s.hostStep = true ↔ ∃ q ∈ s.requests.set i r', q.inHost = true
    rw [exists_mem_set_iff hi (by rw [hout hactive, hout hactive']), hk.hostStep]
  · rcases List.mem_or_eq_of_mem_set hq with hq | rfl
    · exact hk.requests q hq
    · exact hok

end Consistent

/-! ### A request's steps -/

lemma Request.NotTaken.of_deviceRemote {answer : Option ServiceAnswer}
    (hasked : r.asked = some answer) (hanswer : r.answer = answer.getD .notTaken)
    (hstep : appStepAfterService r.answer true = .deviceRemote) : r.NotTaken := by
  cases answer with
  | none => exact .inl hasked
  | some a =>
    have ha : r.answer = a := hanswer
    rw [ha] at hstep
    cases a with
    | notTaken => exact .inr hasked
    | accepted | busy => exact absurd hstep (by decide)

lemma Consistent.step (hk : Consistent s) (hi : s.requests[i]? = some r)
    (hs : s.step i r = some s') : Consistent s' := by
  have hok := hk.requests r (List.mem_of_getElem? hi)
  rw [Upload.step] at hs
  rw [Request.Ok] at hok
  cases hplace : r.place with
  | entering h =>
    have hactive : r.active = true := by simp [Request.active, hplace]
    have hout : s.hostStep = false := by
      rw [hk.hostStep_eq hi hactive]
      simp [Request.inHost, hplace]
    simp only [hplace] at hs
    split_ifs at hs with hcancelled
    · cases hs
      refine hk.goOn hi hactive rfl ?_ hout
      cases h <;> simp_all [Request.Ok]
    · cases hs
      refine hk.goOn hi hactive rfl ?_ rfl
      cases h <;> simp_all [Request.Ok, Request.NotTaken]
  | entered h =>
    have hactive : r.active = true := by simp [Request.active, hplace]
    have hin : s.hostStep = true := by
      rw [hk.hostStep_eq hi hactive]
      simp [Request.inHost, hplace]
    cases h with
    | ask =>
      simp only [hplace] at hs hok
      cases hs
      refine hk.goOn hi hactive rfl ?_ hin
      simp [Request.Ok, hok]
    | prepare =>
      simp only [hplace] at hs hok
      cases hs
      refine hk.goOn hi hactive rfl ?_ hin
      simpa [Request.Ok, hok, Request.NotTaken] using hok.2.2
  | leaving h =>
    have hactive : r.active = true := by simp [Request.active, hplace]
    cases h with
    | ask =>
      simp only [hplace] at hs hok
      cases hs
      obtain ⟨hasks, hprepares, answer, hasked, hanswer⟩ := hok
      split_ifs with hstep
      · have htaken := Request.NotTaken.of_deviceRemote hasked hanswer hstep
        refine hk.goOn hi hactive rfl ?_ rfl
        exact ⟨hasks, hprepares, htaken⟩
      · refine hk.goOn hi hactive rfl ?_ rfl
        simp [Request.Ok, hasks, hprepares]
    | prepare =>
      simp only [hplace] at hs hok
      cases hs
      obtain ⟨hasks, hprepares, htaken⟩ := hok
      split_ifs with hcall
      · refine hk.goOn hi hactive rfl ?_ rfl
        exact ⟨hasks, hprepares, htaken⟩
      · refine hk.goOn hi hactive rfl ?_ rfl
        exact ⟨hasks.le, hprepares.le, fun _ => ⟨hasks, htaken⟩⟩
  | ending =>
    have hactive : r.active = true := by simp [Request.active, hplace]
    simp only [hplace] at hs hok
    cases hs
    exact hk.finish hi hactive (by simp [Request.inHost, hplace]) rfl hok
  | notifying =>
    simp only [hplace] at hs hok
    cases hs
    exact hk.ended hi (by simp [Request.active, hplace]) rfl hok
  | inside h | calling | done =>
    simp only [hplace] at hs
    exact absurd hs (by simp)

lemma Consistent.askEnds {answer : Option ServiceAnswer} (hk : Consistent s)
    (hi : s.requests[i]? = some r) (hs : s.askEnds i answer r = some s') : Consistent s' := by
  simp only [Upload.askEnds, guard_eq_some] at hs
  obtain ⟨hplace, rfl⟩ := hs
  have hok := hk.requests r (List.mem_of_getElem? hi)
  have hactive : r.active = true := by simp [Request.active, hplace]
  rw [Request.Ok] at hok
  simp only [hplace] at hok
  refine hk.goOn hi hactive rfl ?_ ?_
  · exact ⟨hok.1, hok.2, answer, rfl, rfl⟩
  · rw [hk.hostStep_eq hi hactive]
    simp [Request.inHost, hplace]

lemma Consistent.prepareEnds {call : Option Bool} (hk : Consistent s)
    (hi : s.requests[i]? = some r) (hs : s.prepareEnds i call r = some s') : Consistent s' := by
  simp only [Upload.prepareEnds, guard_eq_some] at hs
  obtain ⟨hplace, rfl⟩ := hs
  have hok := hk.requests r (List.mem_of_getElem? hi)
  have hactive : r.active = true := by simp [Request.active, hplace]
  rw [Request.Ok] at hok
  simp only [hplace] at hok
  refine hk.goOn hi hactive rfl ?_ ?_
  · exact hok
  · rw [hk.hostStep_eq hi hactive]
    simp [Request.inHost, hplace]

lemma Consistent.callEnds (hk : Consistent s) (hi : s.requests[i]? = some r)
    (hs : s.callEnds i r = some s') : Consistent s' := by
  simp only [Upload.callEnds, guard_eq_some] at hs
  obtain ⟨hplace, rfl⟩ := hs
  have hok := hk.requests r (List.mem_of_getElem? hi)
  have hactive : r.active = true := by simp [Request.active, hplace]
  rw [Request.Ok] at hok
  simp only [hplace] at hok
  refine hk.goOn hi hactive rfl ?_ ?_
  · exact ⟨hok.1.le, hok.2.1.le, fun _ => ⟨hok.1, hok.2.2⟩⟩
  · rw [hk.hostStep_eq hi hactive]
    simp [Request.inHost, hplace]

/-! ### The callers' steps -/

lemma Consistent.send (hk : Consistent s) (hsends : s.sends = true) :
    Consistent { s with running := true, sender := .reaping } := by
  simp only [Upload.sends, Bool.and_eq_true, Bool.not_eq_true'] at hsends
  have hnone : ∀ r ∈ s.requests, ¬ r.active = true := by
    intro r hr hactive
    exact absurd (hk.running.2 (.inr ⟨r, hr, hactive⟩)) (by simp [hsends.2])
  refine ⟨fun j q hj hq => absurd hq (hnone q (List.mem_of_getElem? hj)), ?_, hk.hostStep,
    hk.requests, hk.cancelled⟩
  exact ⟨fun _ => .inl (by simp), fun _ => rfl⟩

lemma Consistent.reap (hk : Consistent s) (hsender : s.sender = .reaping) :
    Consistent { s with thread := none, sender := .starting } := by
  have hbusy : s.sender ≠ .idle := by simp [hsender]
  refine ⟨fun j q hj hq => absurd (hk.alone j q hj hq).2 hbusy, ?_, hk.hostStep, hk.requests,
    hk.cancelled⟩
  exact ⟨fun _ => .inl (by simp), fun _ => hk.running.2 (.inl hbusy)⟩

lemma Consistent.start (hk : Consistent s) (hsender : s.sender = .starting) :
    Consistent
      { s with
        requests := s.requests ++ [{}]
        thread := some s.requests.length
        sender := .idle } := by
  have hbusy : s.sender ≠ .idle := by simp [hsender]
  refine ⟨fun j q hj hq => ⟨?_, rfl⟩, ?_, ?_, ?_, hk.cancelled⟩
  · show j + 1 = (s.requests ++ [({} : Request)]).length
    rcases getElem?_snoc_cases hj with hj | ⟨rfl, -⟩
    · exact absurd (hk.alone j q hj hq).2 hbusy
    · simp
  · refine ⟨fun _ => .inr ⟨{}, by simp, rfl⟩, fun _ => hk.running.2 (.inl hbusy)⟩
  · show s.hostStep = true ↔ ∃ r ∈ s.requests ++ [({} : Request)], r.inHost = true
    rw [hk.hostStep]
    refine ⟨fun ⟨r, hr, hin⟩ => ⟨r, List.mem_append_left _ hr, hin⟩, ?_⟩
    rintro ⟨r, hr, hin⟩
    rcases List.mem_append.1 hr with hr | hr
    · exact ⟨r, hr, hin⟩
    · obtain rfl := List.mem_singleton.1 hr
      exact absurd hin (by decide)
  · exact List.forall_mem_append.2 ⟨hk.requests, List.forall_mem_singleton.2 ⟨rfl, rfl⟩⟩

lemma Consistent.next (hk : Consistent s) (hnext : s.next op = some s') : Consistent s' := by
  cases op with
  | send =>
    simp only [Upload.next, guard_eq_some] at hnext
    obtain ⟨-, rfl⟩ := hnext
    split_ifs with hsends
    · exact hk.send hsends
    · exact hk
  | reap =>
    simp only [Upload.next, guard_eq_some] at hnext
    obtain ⟨⟨hsender, -⟩, rfl⟩ := hnext
    exact hk.reap hsender
  | start =>
    simp only [Upload.next, guard_eq_some] at hnext
    obtain ⟨hsender, rfl⟩ := hnext
    exact hk.start hsender
  | step i =>
    obtain ⟨r, hi, hs⟩ := Option.bind_eq_some_iff.1 hnext
    exact hk.step hi hs
  | askEnds i answer =>
    obtain ⟨r, hi, hs⟩ := Option.bind_eq_some_iff.1 hnext
    exact hk.askEnds hi hs
  | prepareEnds i call =>
    obtain ⟨r, hi, hs⟩ := Option.bind_eq_some_iff.1 hnext
    exact hk.prepareEnds hi hs
  | callEnds i =>
    obtain ⟨r, hi, hs⟩ := Option.bind_eq_some_iff.1 hnext
    exact hk.callEnds hi hs
  | cancel | destroy =>
    simp only [Upload.next, guard_eq_some] at hnext
    obtain ⟨-, rfl⟩ := hnext
    exact ⟨hk.alone, hk.running, hk.hostStep, hk.requests, fun _ => rfl⟩
  | cancelReturns =>
    simp only [Upload.next, guard_eq_some] at hnext
    obtain ⟨⟨hcancels, -⟩, rfl⟩ := hnext
    exact ⟨hk.alone, hk.running, hk.hostStep, hk.requests, fun _ => hk.cancelled (.inl hcancels)⟩
  | destroyCancelled | destroyWaited | destroyJoined =>
    simp only [Upload.next, guard_eq_some] at hnext
    obtain ⟨⟨hdestroyer, -⟩, rfl⟩ := hnext
    exact ⟨hk.alone, hk.running, hk.hostStep, hk.requests,
      fun _ => hk.cancelled (.inr (by simp [hdestroyer]))⟩

lemma consistent_of_runs (hrun : Runs es s) : Consistent s := by
  refine hrun.invariant (P := fun _ s => Consistent s) ?_ fun _ _ _ _ h hstep => h.next hstep
  rintro s rfl
  exact ⟨by simp, by simp, by simp, by simp, by simp⟩

/-! ### The cancel -/

/-- The request has nothing more to do with the host. -/
def Request.past (r : Request) : Bool :=
  r.place = .ending || r.place = .notifying || r.place = .done

/-- What a step of a request leaves: the flag of the cancel, no host step where there was none
after a cancel, and a request that is past its ask without one only where it came to it after a
cancel. -/
structure Turned (s : Upload) (op : Op) (i : ℕ) (r : Request) (s' : Upload) : Prop where
  cancelled : s'.cancelled = s.cancelled
  hostStep : s.cancelled = true → s.hostStep = false → s'.hostStep = false
  requests : ∃ r', s'.requests = s.requests.set i r' ∧ (r'.past = true → r'.asks = 0 →
    r.past = true ∧ r.asks = 0 ∨ op = .step i ∧ r.place = .entering .ask ∧ s.cancelled = true)

lemma turned_step (hok : r.Ok) (hs : s.step i r = some s') : Turned s (.step i) i r s' := by
  rw [Upload.step] at hs
  rw [Request.Ok] at hok
  cases hplace : r.place with
  | entering h =>
    simp only [hplace] at hs
    split_ifs at hs with hcancelled
    · cases hs
      refine ⟨rfl, fun _ h => h, _, rfl, fun _ hasks => .inr ⟨rfl, ?_, hcancelled⟩⟩
      cases h with
      | ask => exact hplace
      | prepare =>
        simp only [hplace] at hok
        exact absurd (hok.1.symm.trans hasks) (by simp)
    · cases hs
      exact ⟨rfl, fun h => absurd h hcancelled, _, rfl, fun h => absurd h (by simp [Request.past])⟩
  | entered h =>
    cases h with
    | ask | prepare =>
      simp only [hplace] at hs
      cases hs
      exact ⟨rfl, fun _ h => h, _, rfl, fun h => absurd h (by simp [Request.past])⟩
  | leaving h =>
    cases h with
    | ask | prepare =>
      simp only [hplace] at hs hok
      cases hs
      exact ⟨rfl, fun _ _ => rfl, _, rfl, fun _ hasks => absurd (hok.1.symm.trans hasks) (by simp)⟩
  | ending | notifying =>
    simp only [hplace] at hs
    cases hs
    exact ⟨rfl, fun _ h => h, _, rfl, fun _ hasks => .inl ⟨by simp [Request.past, hplace], hasks⟩⟩
  | inside h | calling | done =>
    simp only [hplace] at hs
    exact absurd hs (by simp)

lemma turned_of_next (hk : Consistent s) (hop : op.request = some i)
    (hnext : s.next op = some s') : ∃ r, s.requests[i]? = some r ∧ Turned s op i r s' := by
  cases op with
  | step j =>
    cases hop
    obtain ⟨r, hi, hs⟩ := Option.bind_eq_some_iff.1 hnext
    exact ⟨r, hi, turned_step (hk.requests r (List.mem_of_getElem? hi)) hs⟩
  | askEnds j answer =>
    cases hop
    obtain ⟨r, hi, hs⟩ := Option.bind_eq_some_iff.1 hnext
    simp only [Upload.askEnds, guard_eq_some] at hs
    obtain ⟨-, rfl⟩ := hs
    exact ⟨r, hi, rfl, fun _ h => h, _, rfl, fun h => absurd h (by simp [Request.past])⟩
  | prepareEnds j call =>
    cases hop
    obtain ⟨r, hi, hs⟩ := Option.bind_eq_some_iff.1 hnext
    simp only [Upload.prepareEnds, guard_eq_some] at hs
    obtain ⟨-, rfl⟩ := hs
    exact ⟨r, hi, rfl, fun _ h => h, _, rfl, fun h => absurd h (by simp [Request.past])⟩
  | callEnds j =>
    cases hop
    obtain ⟨r, hi, hs⟩ := Option.bind_eq_some_iff.1 hnext
    simp only [Upload.callEnds, guard_eq_some] at hs
    obtain ⟨hplace, rfl⟩ := hs
    have hok := hk.requests r (List.mem_of_getElem? hi)
    simp only [Request.Ok, hplace] at hok
    exact ⟨r, hi, rfl, fun _ h => h, _, rfl,
      fun _ hasks => absurd (hok.1.symm.trans hasks) (by simp)⟩
  | _ => exact absurd hop (by simp [Op.request])

lemma called_of_next (hop : op.request = none) (hnext : s.next op = some s') :
    s'.cancelled = (s.cancelled || op.cancelling) ∧ s'.hostStep = s.hostStep ∧
      (s'.requests = s.requests ∨ s'.requests = s.requests ++ [({} : Request)]) := by
  cases op with
  | send =>
    simp only [Upload.next, guard_eq_some] at hnext
    obtain ⟨-, rfl⟩ := hnext
    split_ifs <;> simp [Op.cancelling]
  | reap | start | cancel | cancelReturns | destroy | destroyCancelled | destroyWaited |
      destroyJoined =>
    simp only [Upload.next, guard_eq_some] at hnext
    obtain ⟨-, rfl⟩ := hnext
    simp [Op.cancelling]
  | _ => exact absurd hop (by simp [Op.request])

/-- The history of the cancels, and of the requests that did not ask. -/
structure History (es : List Step) (s : Upload) : Prop where
  consistent : Consistent s
  cancelled : s.cancelled = true ↔ ∃ c ∈ es, c.label.cancelling = true
  skipped : ∀ (i : ℕ) (r : Request), s.requests[i]? = some r → r.past = true → r.asks = 0 →
    Skipped es i

lemma Skipped.snoc (h : Skipped es i) : Skipped (es ++ [t]) i := by
  obtain ⟨pre, e, post, rfl, hlabel, hentering, hcancel⟩ := h
  exact ⟨pre, e, post ++ [t], by simp, hlabel, hentering, hcancel⟩

lemma History.next (h : History es s) (hnext : s.next op = some s') :
    History (es ++ [⟨s, op, s'⟩]) s' := by
  have hold : ∀ b, (b = true ↔ ∃ c ∈ es, c.label.cancelling = true) →
      ((b || op.cancelling) = true ↔
        ∃ c ∈ es ++ [(⟨s, op, s'⟩ : Step)], c.label.cancelling = true) := by
    intro b hb
    simp [hb, or_and_right, exists_or]
  cases hop : op.request with
  | none =>
    obtain ⟨hcancelled, -, hrequests⟩ := called_of_next hop hnext
    refine ⟨h.consistent.next hnext, ?_, fun i r hi hpast hasks => ?_⟩
    · rw [hcancelled]
      exact hold _ h.cancelled
    · rcases hrequests with hrequests | hrequests
      · rw [hrequests] at hi
        exact (h.skipped i r hi hpast hasks).snoc
      · rw [hrequests] at hi
        rcases getElem?_snoc_cases hi with hi | ⟨-, rfl⟩
        · exact (h.skipped i r hi hpast hasks).snoc
        · exact absurd hpast (by decide)
  | some i =>
    obtain ⟨r, hi, hcancelled, -, r', hrequests, hr'⟩ := turned_of_next h.consistent hop hnext
    refine ⟨h.consistent.next hnext, ?_, fun j q hj hpast hasks => ?_⟩
    · have hnot : op.cancelling = false := by cases op <;> simp_all [Op.request, Op.cancelling]
      have hnew := hold _ h.cancelled
      rwa [hnot, Bool.or_false, ← hcancelled] at hnew
    · rw [hrequests] at hj
      rcases getElem?_set_cases hj with ⟨rfl, rfl⟩ | ⟨-, hj⟩
      · rcases hr' hpast hasks with ⟨hpast', hasks'⟩ | ⟨hlabel, hplace, hcancel⟩
        · exact (h.skipped j r hi hpast' hasks').snoc
        · exact ⟨es, _, [], rfl, hlabel, ⟨r, hi, hplace⟩, h.cancelled.1 hcancel⟩
      · exact (h.skipped j q hj hpast hasks).snoc

lemma history_of_runs (hrun : Runs es s) : History es s := by
  refine hrun.invariant (P := History) ?_ fun _ _ _ _ h hstep => h.next hstep
  rintro s rfl
  exact ⟨consistent_of_runs (.nil rfl), by simp, by simp⟩

/-- Nothing of the host is in use, and nothing will be. -/
structure Released (s : Upload) : Prop where
  consistent : Consistent s
  cancelled : s.cancelled = true
  hostStep : s.hostStep = false

lemma Released.next (h : Released s) (hnext : s.next op = some s') : Released s' := by
  cases hop : op.request with
  | none =>
    obtain ⟨hcancelled, hhost, -⟩ := called_of_next hop hnext
    refine ⟨h.consistent.next hnext, ?_, hhost.trans h.hostStep⟩
    rw [hcancelled, h.cancelled, Bool.true_or]
  | some i =>
    obtain ⟨r, -, hturned⟩ := turned_of_next h.consistent hop hnext
    exact ⟨h.consistent.next hnext, hturned.cancelled.trans h.cancelled,
      hturned.hostStep h.cancelled h.hostStep⟩

lemma Released.not_inHost (h : Released s) (hr : r ∈ s.requests) : r.inHost = false := by
  rw [Bool.eq_false_iff]
  exact fun hin => absurd (h.consistent.hostStep.2 ⟨r, hr, hin⟩) (by simp [h.hostStep])

lemma released_of_cancelled (hk : Consistent s) (hop : op.cancelled = true)
    (hnext : s.next op = some s') : Released s' := by
  have hk' := hk.next hnext
  cases op with
  | cancelReturns =>
    simp only [Upload.next, guard_eq_some] at hnext
    obtain ⟨⟨hcancels, hhost⟩, rfl⟩ := hnext
    exact ⟨hk', hk.cancelled (.inl hcancels), hhost⟩
  | destroyCancelled =>
    simp only [Upload.next, guard_eq_some] at hnext
    obtain ⟨⟨hdestroyer, hhost⟩, rfl⟩ := hnext
    exact ⟨hk', hk.cancelled (.inr (by simp [hdestroyer])), hhost⟩
  | _ => exact absurd hop (by simp [Op.cancelled])

lemma released_since {pre mid : List Step} (hrun : Runs (pre ++ t :: mid) s)
    (hop : t.label.cancelled = true) : Released s := by
  obtain ⟨hpre, hnext⟩ := hrun.split rfl
  have hmid : ∀ v ∈ mid, True := fun _ _ => trivial
  refine Run.kept_since (R := Released) ?_ hrun
    (released_of_cancelled (consistent_of_runs hpre) hop hnext) hmid
  exact fun _ _ _ _ hstep _ h => h.next hstep

/-! ### The upload -/

/-- No request uses the host after the cancel, and each asks once. -/
structure NoUseAfterCancel (es : List Step) (s : Upload) : Prop where
  released : ∀ pre e post, es = pre ++ e :: post → e.label.cancelled = true →
    (∀ r ∈ s.requests, ¬ r.Inside) ∧ ∀ v ∈ post, ¬ Starts v
  one : ∀ (i j : ℕ) (r q : Request), s.requests[i]? = some r → s.requests[j]? = some q →
    r.active = true → q.active = true → i = j
  sends : ∀ pre e post, es = pre ++ e :: post → e.label = .send →
    (e.pre.sends = true ↔ (∀ r ∈ e.pre.requests, r.active = false) ∧
      ∀ c ∈ pre, c.label.cancelling = false)
  asks : ∀ (i : ℕ) (r : Request), s.requests[i]? = some r →
    r.asks ≤ 1 ∧ (r.active = false → r.asks = 1 ∨ Skipped es i)
  progress : ∀ (i : ℕ) (r : Request), s.requests[i]? = some r → r.place ≠ .done →
    ∃ op s', op.request = some i ∧ s.next op = some s'
  prepares : ∀ r ∈ s.requests, r.prepares ≤ 1 ∧ (r.prepares = 1 → r.asks = 1 ∧ r.NotTaken)
  idle : (∀ r ∈ s.requests, r.active = false) → s.sender = .idle → s.running = false

lemma inHost_of_inside {h : HostStep} (hplace : r.place = .inside h) : r.inHost = true := by
  rw [Request.inHost, hplace]

lemma inHost_of_entered {h : HostStep} (hplace : r.place = .entered h) : r.inHost = true := by
  rw [Request.inHost, hplace]

lemma not_used_since {pre mid : List Step} (hrun : Runs (pre ++ t :: mid) s)
    (hop : t.label.cancelled = true) :
    (∀ r ∈ s.requests, ¬ r.Inside) ∧ ∀ v ∈ mid, ¬ Starts v := by
  constructor
  · rintro r hr ⟨h, hplace⟩
    have hout := (released_since hrun hop).not_inHost hr
    exact absurd (inHost_of_inside hplace) (by simp [hout])
  · rintro v hv ⟨i, r, h, -, hi, hplace⟩
    obtain ⟨mid₁, mid₂, rfl⟩ := List.append_of_mem hv
    have hes : pre ++ t :: (mid₁ ++ v :: mid₂) = (pre ++ t :: mid₁) ++ v :: mid₂ := by simp
    have hpre : Runs (pre ++ t :: mid₁) v.pre := (hrun.split hes).1
    have hout := (released_since hpre hop).not_inHost (List.mem_of_getElem? hi)
    exact absurd (inHost_of_entered hplace) (by simp [hout])

lemma sends_iff (h : History es s) (hidle : s.sender = .idle) :
    s.sends = true ↔
      (∀ r ∈ s.requests, r.active = false) ∧ ∀ c ∈ es, c.label.cancelling = false := by
  have hcancelled : s.cancelled = false ↔ ∀ c ∈ es, c.label.cancelling = false := by
    rw [Bool.eq_false_iff, Ne, h.cancelled]
    simp
  have hrunning : s.running = false ↔ ∀ r ∈ s.requests, r.active = false := by
    rw [Bool.eq_false_iff, Ne, h.consistent.running]
    simp [hidle]
  rw [Upload.sends, Bool.and_eq_true, Bool.not_eq_true', Bool.not_eq_true', hcancelled, hrunning,
    and_comm]

lemma asks_of_ok (hok : r.Ok) : r.asks ≤ 1 := by
  rw [Request.Ok] at hok
  split at hok <;> omega

lemma prepares_of_ok (hok : r.Ok) :
    r.prepares ≤ 1 ∧ (r.prepares = 1 → r.asks = 1 ∧ r.NotTaken) := by
  rw [Request.Ok] at hok
  rw [Request.NotTaken] at hok ⊢
  split at hok <;> grind

lemma exists_next (hi : s.requests[i]? = some r) (hplace : r.place ≠ .done) :
    ∃ op s', op.request = some i ∧ s.next op = some s' := by
  have hstep : (s.step i r).isSome = true → ∃ op s', op.request = some i ∧ s.next op = some s' := by
    intro h
    obtain ⟨s', hs⟩ := Option.isSome_iff_exists.1 h
    exact ⟨.step i, s', rfl, by rw [Upload.next, hi, Option.bind_some, hs]⟩
  cases hat : r.place with
  | entering h =>
    refine hstep ?_
    simp only [Upload.step, hat]
    split_ifs <;> rfl
  | entered h | leaving h =>
    refine hstep ?_
    cases h <;> simp [Upload.step, hat]
  | inside h =>
    cases h with
    | ask =>
      exact ⟨.askEnds i none, _, rfl, by
        rw [Upload.next, hi, Option.bind_some, Upload.askEnds, if_pos hat]⟩
    | prepare =>
      exact ⟨.prepareEnds i none, _, rfl, by
        rw [Upload.next, hi, Option.bind_some, Upload.prepareEnds, if_pos hat]⟩
  | calling =>
    exact ⟨.callEnds i, _, rfl, by
      rw [Upload.next, hi, Option.bind_some, Upload.callEnds, if_pos hat]⟩
  | ending | notifying =>
    refine hstep ?_
    simp [Upload.step, hat]
  | done => exact absurd hat hplace

/-- No feedback upload uses the host after its cancel. -/
theorem no_use_after_cancel (hrun : Runs es s) : NoUseAfterCancel es s where
  released := by
    rintro pre e post rfl hop
    exact not_used_since hrun hop
  one := fun i j r q hi hj hr hq => (consistent_of_runs hrun).eq_of_active hj hq hi hr
  sends := by
    rintro pre e post rfl hlabel
    obtain ⟨hpre, hnext⟩ := hrun.split rfl
    rw [hlabel] at hnext
    simp only [Upload.next, Option.ite_none_right_eq_some] at hnext
    exact sends_iff (history_of_runs hpre) hnext.1.1
  asks := by
    intro i r hi
    have hhistory := history_of_runs hrun
    have hle := asks_of_ok (hhistory.consistent.requests r (List.mem_of_getElem? hi))
    refine ⟨hle, fun hactive => ?_⟩
    have hpast : r.past = true := by
      simp only [Request.active, Bool.and_eq_false_iff, decide_eq_false_iff_not, not_not] at hactive
      simp only [Request.past, Bool.or_eq_true, decide_eq_true_eq]
      exact hactive.elim (fun h => .inl (.inr h)) .inr
    rcases Nat.le_one_iff_eq_zero_or_eq_one.1 hle with hzero | hone
    · exact .inr (hhistory.skipped i r hi hpast hzero)
    · exact .inl hone
  progress := fun i r hi hplace => exists_next hi hplace
  prepares := fun r hr => prepares_of_ok ((consistent_of_runs hrun).requests r hr)
  idle := by
    intro hactive hidle
    rw [Bool.eq_false_iff, Ne, (consistent_of_runs hrun).running]
    rintro (hsender | ⟨r, hr, hyes⟩)
    · exact hsender hidle
    · exact absurd hyes (by simp [hactive r hr])

/-- A request that the service did not take, and a cancel that waits for its prepare. -/
theorem no_use_after_cancel_sample : ∃ es s, NoUseAfterCancel es s ∧ s.cancelled = true ∧
    s.requests.map Request.prepares = [1] := by
  have hstep : ∀ (_ : List Step) (s : Upload) (op : Op) (s' : Upload), true = true →
      s.next op = some s' → s.next op = some s' := fun _ _ _ _ _ h => h
  have hexec : ((execute Upload.next (fun _ _ => true) {}
      [.send, .reap, .start, .step 0, .step 0, .askEnds 0 none, .step 0, .step 0, .cancel, .step 0,
        .prepareEnds 0 (some true), .step 0, .cancelReturns]).any
          fun s => s.cancelled && s.requests.map Request.prepares == [1]) = true := by decide
  obtain ⟨es, s, hrun, hs⟩ : ∃ es s, Runs es s ∧
      (s.cancelled && s.requests.map Request.prepares == [1]) = true :=
    @Run.exists_of_execute _ _ Upload.next (fun _ _ => true) (· = {}) _ hstep {} rfl _ _ hexec
  rw [Bool.and_eq_true, beq_iff_eq] at hs
  exact ⟨es, s, no_use_after_cancel hrun, hs⟩

/-- Between `Send`'s check and its thread's start no request's thread is running, and `running` is
set. -/
theorem no_use_after_cancel_fails :
    ¬ ∀ (es : List Step) (s : Upload), Runs es s →
      (∀ r ∈ s.requests, r.active = false) → s.running = false := by
  intro h
  have h₀ : Runs [] {} := .nil rfl
  have hsent : Upload.next {} .send = some { running := true, sender := .reaping } := rfl
  have h₁ := h₀.snoc hsent
  exact absurd (h _ _ h₁ (by simp)) (by simp)

end UrnetworkWindows.LogUpload.Feedback
