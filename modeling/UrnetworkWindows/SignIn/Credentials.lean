/-
Credentials, api and server agree (`SdkHost.cpp`: `RegisterNetworkClient`, `Logout` and its
tail, `ApplyNetworkServer`, `ConfirmApprovedNetwork`).

A registration hands the api its network credential, asks for a client jwt, and stores both in
the local state once it is answered; the request carries whatever the api carries when it is
sent.  A registration that fails leaves its credential with the api (`refused_leaves_credential`).
Where it fails only for the credential that is stored, or once the api carries another's, and
what is stored was asked for with the credential stored beside it while the api carries that of
a registration still under way, api, local state and server agree at rest
(`credentials_agree`).

The sections of a registration, the tail and the switch hold `mutex_`, and the sign-out's own
calls `stateLock_`; the request is sent under neither.  A by-jwt stands for the sign-in that
got it and the server that issued it, and a client jwt for the credential that its request
carried and the server that it was sent to.  The api of a space that is used again may be the
old one, with what it carried, or a fresh one.
-/
import UrnetworkWindows.SignOut.Run

namespace UrnetworkWindows.Credentials

open Lib
open SignOut (SignOutRun)

/-- A network credential. -/
structure ByJwt where
  signIn : ℕ
  server : String
deriving DecidableEq, Repr

/-- A device credential: what its request carried, and the server that issued it. -/
structure ClientJwt where
  byJwt : Option ByJwt
  server : String
deriving DecidableEq, Repr

/-- What a space's local state stores. -/
structure LocalState where
  byJwt : Option ByJwt := none
  clientJwt : Option ClientJwt := none
deriving DecidableEq, Repr

/-- A registration: about to ask whether a sign-out runs, waiting for that, about to hand the
api its credential, about to send its request, asked, stored, refused with the credential still
to be cleared, and over. -/
inductive Stage
  | deferring
  | waiting
  | setting
  | sending
  | asked (carried : Option ByJwt) (server : String)
  | stored
  | refused
  | ended
deriving DecidableEq, Repr

/-- A registration, with the epoch its sign-in began in and whether it is of
`ConfirmApprovedNetwork`. -/
structure Attempt where
  byJwt : ByJwt
  epoch : ℕ
  approved : Bool := false
  stage : Stage := .deferring
deriving DecidableEq, Repr

/-- How a failure ends: an approved network's credential is cleared. -/
def Attempt.fails (a : Attempt) : Stage := if a.approved then .refused else .ended

/-- `apis` is what the api of each space carries, `locals` what each space stores, `clicked`
whether a sign-out's click has still to clear the flag and to ask for the tail, `tailed` whether
the tail has been under `mutex_`, and `switches` the changes of server that found no sign-out
running and wait for `mutex_`. -/
structure State where
  active : String
  apis : String → Option ByJwt
  locals : String → LocalState
  loggedIn : Bool
  run : SignOutRun ℕ := {}
  clicked : Bool := false
  tailed : Bool := false
  attempts : List Attempt := []
  switches : List String := []

/-- How a registration's request is answered: a client jwt, or an error or none. -/
inductive Answer
  | client
  | none
deriving DecidableEq, Repr

/-- A registration that begins and its steps, a sign-out's, and a change of server's, which
may throw before the space is replaced. -/
inductive Act
  | begin (byJwt : ByJwt) (epoch : ℕ) (approved : Bool)
  | defer (k : ℕ)
  | set (k : ℕ)
  | send (k : ℕ)
  | answer (k : ℕ) (answer : Answer)
  | announce (k : ℕ)
  | clear (k : ℕ)
  | logout
  | request
  | tail
  | finish
  | applyServer (hostName : String)
  | switch (i : ℕ) (fresh : Bool)
  | switchThrows (i : ℕ)
deriving DecidableEq, Repr

/-- The registration whose step it is. -/
def Act.attempt : Act → Option ℕ
  | .defer k => some k
  | .set k => some k
  | .send k => some k
  | .answer k _ => some k
  | .announce k => some k
  | .clear k => some k
  | _ => none

namespace State

variable (s : State)

/-- What the api carries. -/
def api : Option ByJwt := s.apis s.active

/-- What the active space stores. -/
def localState : LocalState := s.locals s.active

/-- A registration goes on. -/
def put (k : ℕ) (a : Attempt) (stage : Stage) : State :=
  { s with attempts := s.attempts.set k { a with stage } }

/-- `api_->setByJwt`. -/
def setByJwt (byJwt : Option ByJwt) : State :=
  { s with apis := Function.update s.apis s.active byJwt }

/-- The waiting sign-in is told that a newer one replaced it. -/
def replaced (k : ℕ) : List Attempt := s.attempts.modify k fun a => { a with stage := a.fails }

/-- The waiting sign-in runs. -/
def restarted (k : ℕ) : List Attempt :=
  s.attempts.modify k fun a => { a with stage := .deferring }

/-- In `RegisterNetworkClient`: a sign-out that runs is waited for. -/
def deferred (k : ℕ) (a : Attempt) : State :=
  let r := s.run.defer k a.epoch
  if r.1 then
    { s with
      run := r.2.2
      attempts := (r.2.1.elim s.attempts s.replaced).set k { a with stage := .waiting } }
  else s.put k a .setting

/-- The section that hands the api the credential. -/
def handed (k : ℕ) (a : Attempt) : State :=
  if a.epoch ≠ s.run.epoch then s.put k a a.fails
  else (s.put k a .sending).setByJwt (some a.byJwt)

/-- The section that stores the answer, or the failure. -/
def answered (k : ℕ) (a : Attempt) (carried : Option ByJwt) (server : String) : Answer → State
  | .none => s.put k a a.fails
  | .client =>
    if a.epoch ≠ s.run.epoch then s.put k a a.fails
    else
      { s.put k a .stored with
        locals := Function.update s.locals s.active ⟨some a.byJwt, some ⟨carried, server⟩⟩ }

/-- `SetRegistrationAuthState`, signed in. -/
def announced (k : ℕ) (a : Attempt) : State :=
  if s.run.applyIfCurrent a.epoch then { s.put k a .ended with loggedIn := true }
  else s.put k a a.fails

/-- In `ConfirmApprovedNetwork`: the credential of a refused registration goes. -/
def cleared (k : ℕ) (a : Attempt) : State :=
  if a.epoch ≠ s.run.epoch then s.put k a .ended else (s.put k a .ended).setByJwt none

/-- The section of `ApplyNetworkServer`. -/
def switched (hostName : String) (fresh : Bool) : State :=
  let stored := s.locals hostName
  { s with
    active := hostName
    -- a stored credential is set, and otherwise the api keeps what it has
    apis := Function.update s.apis hostName
      (if stored.byJwt.isSome then stored.byJwt else if fresh then none else s.apis hostName)
    loggedIn := stored.clientJwt.isSome }

/-- A registration's next step, where its stage is the one for it. -/
def attemptStep (k : ℕ) (a : Attempt) : Act → Option State
  | .defer _ =>
    match a.stage with
    | .deferring => some (s.deferred k a)
    | _ => none
  | .set _ =>
    match a.stage with
    | .setting => some (s.handed k a)
    | _ => none
  | .send _ =>
    match a.stage with
    | .sending => some (s.put k a (.asked s.api s.active))
    | _ => none
  | .answer _ answer =>
    match a.stage with
    | .asked carried server => some (s.answered k a carried server answer)
    | _ => none
  | .announce _ =>
    match a.stage with
    | .stored => some (s.announced k a)
    | _ => none
  | .clear _ =>
    match a.stage with
    | .refused => some (s.cleared k a)
    | _ => none
  | _ => none

end State

/-- One step, if it can be taken. -/
def step (s : State) : Act → Option State
  | .begin byJwt epoch approved =>
    if epoch ≤ s.run.epoch then
      some { s with attempts := s.attempts ++ [{ byJwt, epoch, approved }] }
    else none
  | .logout =>
    -- a click while a sign-out runs joins it
    if s.run.begin.1 then
      some { s with run := s.run.begin.2, clicked := true, tailed := false }
    else some s
  | .request => if s.clicked then some { s with clicked := false, loggedIn := false } else none
  | .tail =>
    if s.run.running ∧ s.clicked = false ∧ s.tailed = false then
      some { s.setByJwt none with locals := Function.update s.locals s.active {}, tailed := true }
    else none
  | .finish =>
    if s.run.running ∧ s.tailed then
      some { s with
        run := s.run.finish.2
        tailed := false
        attempts := s.run.finish.1.elim s.attempts s.restarted }
    else none
  | .applyServer hostName =>
    if hostName = "" ∨ s.run.running then some s
    else some { s with switches := s.switches ++ [hostName] }
  | .switch i fresh =>
    s.switches[i]?.map fun hostName =>
      { s with switches := s.switches.eraseIdx i }.switched hostName fresh
  | .switchThrows i => s.switches[i]?.map fun _ => { s with switches := s.switches.eraseIdx i }
  | .defer k => s.attempts[k]?.bind fun a => s.attemptStep k a (.defer k)
  | .set k => s.attempts[k]?.bind fun a => s.attemptStep k a (.set k)
  | .send k => s.attempts[k]?.bind fun a => s.attemptStep k a (.send k)
  | .answer k answer => s.attempts[k]?.bind fun a => s.attemptStep k a (.answer k answer)
  | .announce k => s.attempts[k]?.bind fun a => s.attemptStep k a (.announce k)
  | .clear k => s.attempts[k]?.bind fun a => s.attemptStep k a (.clear k)

/-! ### Agreement -/

/-- What a space stores is nothing, or the two credentials of one sign-in at its server. -/
def Paired (server : String) (l : LocalState) : Prop :=
  l = {} ∨ ∃ b : ByJwt, b.server = server ∧ l = ⟨some b, some ⟨some b, server⟩⟩

/-- The api, what is stored and the flag. -/
structure Agree (s : State) : Prop where
  credential : s.api = s.localState.byJwt
  loggedIn : s.loggedIn = true ↔ s.localState.clientJwt.isSome
  paired : Paired s.active s.localState

/-- Nothing is in progress. -/
structure Quiet (s : State) : Prop where
  attempts : ∀ a ∈ s.attempts, a.stage = .ended
  run : s.run.running = false
  switches : s.switches = []

/-- What a registration can change. -/
def State.held (s : State) : (String → Option ByJwt) × (String → LocalState) × Bool :=
  (s.apis, s.locals, s.loggedIn)

/-- Credentials, api and server agree. -/
structure CredentialsAgree (es : List (Transition State Act)) (s : State) : Prop where
  agree : Quiet s → Agree s
  /-- A registration that failed, with no step of another in between, found what it leaves. -/
  failed : ∀ (pre mid post : List (Transition State Act)) (e₁ e₂ : Transition State Act) (k : ℕ),
    es = pre ++ e₁ :: (mid ++ e₂ :: post) → e₁.label = .set k →
    (∀ e ∈ mid, e.label.attempt = some k) →
    e₂.label = .answer k .none ∨ e₂.label = .clear k →
    (∃ a, e₂.post.attempts[k]? = some a ∧ a.stage = .ended) → e₂.post.held = e₁.pre.held
  /-- A registration that was overtaken by a sign-out changes nothing. -/
  overtaken : ∀ e ∈ es, ∀ (k : ℕ) (a : Attempt), e.label.attempt = some k →
    e.pre.attempts[k]? = some a → a.epoch ≠ e.pre.run.epoch → e.post.held = e.pre.held

/-- The app at its launch, on what the runs before it stored. -/
structure Starts (s : State) : Prop where
  paired : ∀ h, Paired h (s.locals h)
  api : s.api = s.localState.byJwt
  others : ∀ h, h ≠ s.active → s.apis h = none
  loggedIn : s.loggedIn = s.localState.clientJwt.isSome
  run : s.run = {}
  clicked : s.clicked = false
  tailed : s.tailed = false
  attempts : s.attempts = []
  switches : s.switches = []

/-- The registration has handed its credential to the api, and has not stored it. -/
def Attempt.pending (a : Attempt) (epoch : ℕ) : Bool :=
  decide (a.epoch = epoch) && match a.stage with
    | .sending => true
    | .asked _ _ => true
    | .refused => true
    | _ => false

/-- It has stored it, and has not said so. -/
def Attempt.stores (a : Attempt) (epoch : ℕ) : Bool :=
  decide (a.epoch = epoch) && decide (a.stage = .stored)

/-- The api carries the credential of a registration under way. -/
def State.Carries (s : State) : Prop :=
  ∃ a ∈ s.attempts, a.pending s.run.epoch = true ∧ s.api = some a.byJwt

instance (s : State) : Decidable s.Carries :=
  inferInstanceAs (Decidable (∃ a ∈ s.attempts, _))

/-- No other registration is under way. -/
def State.Alone (s : State) (k : ℕ) : Prop :=
  ∀ a ∈ s.attempts.eraseIdx k, a.pending s.run.epoch = false

instance (s : State) (k : ℕ) : Decidable (s.Alone k) :=
  inferInstanceAs (Decidable (∀ a ∈ _, _))

/-- A registration that no sign-out has overtaken takes its step. -/
def Attempt.Orderly (s : State) (k : ℕ) (a : Attempt) : Act → Prop
  | .answer _ .none => a.approved = false →
    s.api ≠ some a.byJwt ∨ s.localState.byJwt = some a.byJwt ∧ s.Alone k
  | .answer _ .client =>
    a.stage = .asked (some a.byJwt) s.active ∧ a.byJwt.server = s.active ∧ s.Carries
  | .clear _ => s.run.running = true ∨ s.localState.byJwt = none ∧ s.Alone k
  | _ => True

instance (s : State) (k : ℕ) (a : Attempt) (act : Act) : Decidable (a.Orderly s k act) := by
  unfold Attempt.Orderly
  split <;> infer_instance

/-- A registration fails only for the credential that is stored, or once the api carries
another's, and stores only what it asked for itself, at the server that issued its credential,
while the api carries that of a registration under way; and a change of server finds no sign-out
running and no registration between its first section and its end. -/
def State.Orderly (s : State) (act : Act) : Prop :=
  (∀ k ∈ act.attempt, ∀ a ∈ s.attempts[k]?, a.epoch = s.run.epoch → a.Orderly s k act) ∧
    match act with
    | .switch _ _ => s.run.running = false ∧
      ∀ a ∈ s.attempts, a.pending s.run.epoch = false ∧ a.stores s.run.epoch = false
    | _ => True

instance (s : State) (act : Act) : Decidable (s.Orderly act) := by
  unfold State.Orderly
  cases act <;> infer_instance

/-- Every run. -/
abbrev Runs : List (Transition State Act) → State → Prop :=
  Run Starts fun _ s act s' => step s act = some s'

/-- The runs whose registrations and changes of server are orderly. -/
abbrev CondRuns : List (Transition State Act) → State → Prop :=
  Run Starts fun _ s act s' => step s act = some s' ∧ s.Orderly act

/-! ### What holds along a run -/

/-- The stages of a registration of the current epoch while a sign-out runs. -/
def Stage.idle : Stage → Bool
  | .deferring => true
  | .waiting => true
  | .refused => true
  | .ended => true
  | _ => false

/-- What holds of every state of an orderly run. -/
structure Kept (s : State) : Prop where
  paired : ∀ h, Paired h (s.locals h)
  others : ∀ h, h ≠ s.active → s.apis h = none ∨ s.apis h = (s.locals h).byJwt
  epochs : ∀ a ∈ s.attempts, a.epoch ≤ s.run.epoch
  waits : s.run.running = true → ∀ a ∈ s.attempts, a.epoch = s.run.epoch → a.stage.idle = true
  signedOut : s.run.running = true → s.clicked = false → s.loggedIn = false
  cleared : s.run.running = true → s.tailed = true →
    s.clicked = false ∧ s.loggedIn = false ∧ s.api = none ∧ s.localState = {}
  clicked : s.run.running = false → s.clicked = false
  carried : s.run.running = false → s.api = s.localState.byJwt ∨ s.Carries
  loggedIn : s.run.running = false → s.loggedIn = true ∨
    (∃ a ∈ s.attempts, a.stores s.run.epoch = true) → s.localState.clientJwt.isSome = true
  announced : s.run.running = false → s.localState.clientJwt.isSome = true →
    s.loggedIn = true ∨ ∃ a ∈ s.attempts, a.stores s.run.epoch = true

variable {s s' : State} {k : ℕ} {a : Attempt} {act : Act}

lemma Attempt.pending_of_ne {epoch : ℕ} (h : a.epoch ≠ epoch) : a.pending epoch = false := by
  simp [Attempt.pending, h]

lemma Attempt.stores_of_ne {epoch : ℕ} (h : a.epoch ≠ epoch) : a.stores epoch = false := by
  simp [Attempt.stores, h]

lemma Attempt.fails_idle : a.fails.idle = true := by
  unfold Attempt.fails
  split_ifs <;> rfl

namespace Kept

lemma init (h : Starts s) : Kept s where
  paired := h.paired
  others x hx := .inl (h.others x hx)
  epochs := by simp [h.attempts]
  waits := by simp [h.attempts]
  signedOut hrun := absurd hrun (by simp [h.run])
  cleared hrun := absurd hrun (by simp [h.run])
  clicked _ := h.clicked
  carried _ := .inl h.api
  loggedIn _ hin := by
    rcases hin with hin | ⟨a, ha, -⟩
    · exact h.loggedIn.symm.trans hin
    · simp [h.attempts] at ha
  announced _ hsome := .inl (h.loggedIn.trans hsome)

lemma of_free (hfree : s.run.running = false) (clicked : s.clicked = false)
    (paired : ∀ h, Paired h (s.locals h))
    (others : ∀ h, h ≠ s.active → s.apis h = none ∨ s.apis h = (s.locals h).byJwt)
    (epochs : ∀ a ∈ s.attempts, a.epoch ≤ s.run.epoch)
    (carried : s.api = s.localState.byJwt ∨ s.Carries)
    (loggedIn : s.loggedIn = true ∨ (∃ a ∈ s.attempts, a.stores s.run.epoch = true) →
      s.localState.clientJwt.isSome = true)
    (announced : s.localState.clientJwt.isSome = true →
      s.loggedIn = true ∨ ∃ a ∈ s.attempts, a.stores s.run.epoch = true) : Kept s where
  paired := paired
  others := others
  epochs := epochs
  waits hrun := absurd (hrun.symm.trans hfree) nofun
  signedOut hrun := absurd (hrun.symm.trans hfree) nofun
  cleared hrun := absurd (hrun.symm.trans hfree) nofun
  clicked _ := clicked
  carried _ := carried
  loggedIn _ := loggedIn
  announced _ := announced

lemma free (h : Kept s) (hk : s.attempts[k]? = some a) (hepoch : a.epoch = s.run.epoch)
    (hidle : a.stage.idle = false) : s.run.running = false := by
  rw [← Bool.not_eq_true]
  intro hrun
  exact absurd (hidle.symm.trans (h.waits hrun a (List.mem_of_getElem? hk) hepoch)) nofun

lemma epochs_put (h : Kept s) (hk : s.attempts[k]? = some a) (stage : Stage) :
    ∀ x ∈ s.attempts.set k { a with stage }, x.epoch ≤ s.run.epoch := by
  intro x hx
  rcases List.mem_or_eq_of_mem_set hx with hx | rfl
  · exact h.epochs x hx
  · exact h.epochs a (List.mem_of_getElem? hk)

lemma others_setByJwt (h : Kept s) (byJwt : Option ByJwt) (x : String) (hx : x ≠ s.active) :
    (s.setByJwt byJwt).apis x = none ∨ (s.setByJwt byJwt).apis x = (s.locals x).byJwt := by
  have hx' : (s.setByJwt byJwt).apis x = s.apis x := Function.update_of_ne hx ..
  exact (h.others x hx).imp hx'.trans hx'.trans

lemma put (h : Kept s) (hk : s.attempts[k]? = some a) {stage : Stage}
    (hidle : s.run.running = true → a.epoch = s.run.epoch → stage.idle = true)
    (hpending : a.pending s.run.epoch = true → { a with stage }.pending s.run.epoch = true)
    (hstores : { a with stage }.stores s.run.epoch = a.stores s.run.epoch) :
    Kept (s.put k a stage) where
  paired := h.paired
  others := h.others
  epochs := h.epochs_put hk _
  waits hrun x hx hepoch := by
    rcases List.mem_or_eq_of_mem_set hx with hx | rfl
    · exact h.waits hrun x hx hepoch
    · exact hidle hrun hepoch
  signedOut := h.signedOut
  cleared := h.cleared
  clicked := h.clicked
  carried hrun := (h.carried hrun).imp_right fun hcarries =>
    exists_mem_set hcarries hk fun ha => ⟨hpending ha.1, ha.2⟩
  loggedIn hrun hin := by
    refine h.loggedIn hrun (hin.imp_right fun hstored => ?_)
    exact (exists_mem_set_iff hk (Bool.eq_iff_iff.1 hstores)).1 hstored
  announced hrun hsome := by
    refine (h.announced hrun hsome).imp_right fun hstored => ?_
    exact (exists_mem_set_iff hk (Bool.eq_iff_iff.1 hstores)).2 hstored

lemma stale (h : Kept s) (hk : s.attempts[k]? = some a) (hne : a.epoch ≠ s.run.epoch)
    (stage : Stage) : Kept (s.put k a stage) := by
  refine h.put hk (fun _ hepoch => absurd hepoch hne) ?_ ?_
  · rw [Attempt.pending_of_ne hne]
    exact nofun
  · exact (Attempt.stores_of_ne (a := { a with stage }) hne).trans (Attempt.stores_of_ne hne).symm

lemma running (h : Kept s) (hrun : s.run.running = true) {run : SignOutRun ℕ}
    {attempts : List Attempt} {apis : String → Option ByJwt} (hrunning : run.running = true)
    (hepoch : run.epoch = s.run.epoch) (hothers : ∀ x, x ≠ s.active → apis x = s.apis x)
    (hapi : s.tailed = true → apis s.active = none)
    (hall : ∀ x ∈ attempts, x.epoch ≤ s.run.epoch ∧
      (x.epoch = s.run.epoch → x.stage.idle = true)) :
    Kept { s with apis, run, attempts } where
  paired := h.paired
  others x hx := by
    have hsame := h.others x hx
    rw [← hothers x hx] at hsame
    exact hsame
  epochs x hx := hepoch ▸ (hall x hx).1
  waits _ x hx := hepoch ▸ (hall x hx).2
  signedOut _ := h.signedOut hrun
  cleared _ htailed := by
    obtain ⟨hclicked, hin, -, hlocal⟩ := h.cleared hrun htailed
    exact ⟨hclicked, hin, hapi htailed, hlocal⟩
  clicked hfree := absurd (hrunning.symm.trans hfree) nofun
  carried hfree := absurd (hrunning.symm.trans hfree) nofun
  loggedIn hfree := absurd (hrunning.symm.trans hfree) nofun
  announced hfree := absurd (hrunning.symm.trans hfree) nofun

/-- The registrations of the epoch are idle while a sign-out runs, one that is told or sent on
included. -/
lemma idle_modify (h : Kept s) (hrun : s.run.running = true) {f : Attempt → Stage}
    (hf : ∀ x, (f x).idle = true) (j : Option ℕ) :
    ∀ x ∈ j.elim s.attempts fun j => s.attempts.modify j fun x => { x with stage := f x },
      x.epoch ≤ s.run.epoch ∧ (x.epoch = s.run.epoch → x.stage.idle = true) := by
  have hall : ∀ x ∈ s.attempts,
      x.epoch ≤ s.run.epoch ∧ (x.epoch = s.run.epoch → x.stage.idle = true) :=
    fun x hx => ⟨h.epochs x hx, h.waits hrun x hx⟩
  cases j with
  | none => exact hall
  | some j =>
    intro x hx
    obtain ⟨i, hi⟩ := List.mem_iff_getElem?.1 hx
    dsimp only [Option.elim_some] at hi
    rw [List.getElem?_modify] at hi
    obtain ⟨y, hy, rfl⟩ := Option.map_eq_some_iff.1 hi
    have hy' := hall y (List.mem_of_getElem? hy)
    split_ifs
    · exact ⟨hy'.1, fun _ => hf y⟩
    · exact hy'

lemma handed (h : Kept s) (hk : s.attempts[k]? = some a) (hstage : a.stage = .setting)
    (hepoch : a.epoch = s.run.epoch) :
    Kept ((s.put k a .sending).setByJwt (some a.byJwt)) := by
  have hfree := h.free hk hepoch (by rw [hstage]; rfl)
  have hput : Kept (s.put k a .sending) := by
    refine h.put hk (fun hrun => absurd (hrun.symm.trans hfree) nofun) ?_ ?_
    · simp [Attempt.pending, hepoch]
    · simp [Attempt.stores, hstage]
  refine of_free hfree (h.clicked hfree) hput.paired (h.others_setByJwt _) hput.epochs (.inr ?_)
    (hput.loggedIn hfree) (hput.announced hfree)
  refine ⟨{ a with stage := .sending }, ?_, ?_, ?_⟩
  · exact List.mem_of_getElem? (List.getElem?_set_self (List.getElem?_eq_some_iff.1 hk).1)
  · simp [Attempt.pending, State.setByJwt, State.put, hepoch]
  · exact Function.update_self ..

lemma refused (h : Kept s) (hk : s.attempts[k]? = some a) (hstage : a.stage ≠ .stored)
    (hcond : a.epoch = s.run.epoch → s.run.running = false →
      s.api ≠ some a.byJwt ∨ s.localState.byJwt = some a.byJwt) :
    Kept (s.put k a .ended) where
  paired := h.paired
  others := h.others
  epochs := h.epochs_put hk _
  waits hrun x hx hepoch := by
    rcases List.mem_or_eq_of_mem_set hx with hx | rfl
    · exact h.waits hrun x hx hepoch
    · rfl
  signedOut := h.signedOut
  cleared := h.cleared
  clicked := h.clicked
  carried hrun := by
    rcases h.carried hrun with hsame | ⟨x, hx, hpending, hapi⟩
    · exact .inl hsame
    · obtain ⟨j, hj⟩ := List.mem_iff_getElem?.1 hx
      by_cases hjk : j = k
      · subst hjk
        cases hk.symm.trans hj
        have hepoch : a.epoch = s.run.epoch := by
          by_contra hne
          exact absurd (hpending.symm.trans (Attempt.pending_of_ne hne)) nofun
        refine .inl ((hcond hepoch hrun).elim (fun hne => absurd hapi hne) fun hstored => ?_)
        exact hapi.trans hstored.symm
      · refine .inr ⟨x, List.mem_of_getElem? (i := j) ?_, hpending, hapi⟩
        exact (List.getElem?_set_ne (Ne.symm hjk)).trans hj
  loggedIn hrun hin := by
    refine h.loggedIn hrun (hin.imp_right fun ⟨x, hx, hstores⟩ => ?_)
    rcases List.mem_or_eq_of_mem_set hx with hx | rfl
    · exact ⟨x, hx, hstores⟩
    · simp [Attempt.stores] at hstores
  announced hrun hsome := by
    refine (h.announced hrun hsome).imp_right fun hstored => exists_mem_set hstored hk fun ha => ?_
    simp [Attempt.stores, hstage] at ha

lemma stores (h : Kept s) (hk : s.attempts[k]? = some a)
    (hstage : a.stage = .asked (some a.byJwt) s.active) (hepoch : a.epoch = s.run.epoch)
    (hserver : a.byJwt.server = s.active) (hcarries : s.Carries) :
    Kept { s.put k a .stored with
      locals := Function.update s.locals s.active
        ⟨some a.byJwt, some ⟨some a.byJwt, s.active⟩⟩ } := by
  have hfree := h.free hk hepoch (by rw [hstage]; rfl)
  have hself : Function.update s.locals s.active ⟨some a.byJwt, some ⟨some a.byJwt, s.active⟩⟩
      s.active = ⟨some a.byJwt, some ⟨some a.byJwt, s.active⟩⟩ := Function.update_self ..
  have hother : ∀ x, x ≠ s.active → Function.update s.locals s.active
      ⟨some a.byJwt, some ⟨some a.byJwt, s.active⟩⟩ x = s.locals x :=
    fun x hx => Function.update_of_ne hx ..
  apply of_free
  case hfree => exact hfree
  case clicked => exact h.clicked hfree
  case paired =>
    intro x
    by_cases hx : x = s.active
    · subst hx
      exact .inr ⟨a.byJwt, hserver, hself⟩
    · have hpaired := h.paired x
      rw [← hother x hx] at hpaired
      exact hpaired
  case others =>
    intro x hx
    refine (h.others x hx).imp_right fun hsame => hsame.trans ?_
    exact congrArg LocalState.byJwt (hother x hx).symm
  case epochs => exact h.epochs_put hk _
  case carried =>
    obtain ⟨x, hx, hpending, hapi⟩ := hcarries
    obtain ⟨j, hj⟩ := List.mem_iff_getElem?.1 hx
    by_cases hjk : j = k
    · subst hjk
      cases hk.symm.trans hj
      exact .inl (hapi.trans (congrArg LocalState.byJwt hself).symm)
    · refine .inr ⟨x, List.mem_of_getElem? (i := j) ?_, hpending, hapi⟩
      exact (List.getElem?_set_ne (Ne.symm hjk)).trans hj
  case loggedIn => exact fun _ => congrArg (fun l => l.clientJwt.isSome) hself
  case announced =>
    refine fun _ => .inr ⟨{ a with stage := .stored }, ?_, ?_⟩
    · exact List.mem_of_getElem? (List.getElem?_set_self (List.getElem?_eq_some_iff.1 hk).1)
    · simp [Attempt.stores, State.put, hepoch]

lemma announces (h : Kept s) (hk : s.attempts[k]? = some a) (hstage : a.stage = .stored)
    (hepoch : a.epoch = s.run.epoch) : Kept { s.put k a .ended with loggedIn := true } := by
  have hfree := h.free hk hepoch (by rw [hstage]; rfl)
  have hclient : s.localState.clientJwt.isSome = true :=
    h.loggedIn hfree (.inr ⟨a, List.mem_of_getElem? hk, by simp [Attempt.stores, hepoch, hstage]⟩)
  apply of_free
  case hfree => exact hfree
  case clicked => exact h.clicked hfree
  case paired => exact h.paired
  case others => exact h.others
  case epochs => exact h.epochs_put hk _
  case carried =>
    refine (h.carried hfree).imp_right fun hcarries => exists_mem_set hcarries hk fun ha => ?_
    simp [Attempt.pending, hstage] at ha
  case loggedIn => exact fun _ => hclient
  case announced => exact fun _ => .inl rfl

lemma clears (h : Kept s) (hk : s.attempts[k]? = some a) (hstage : a.stage = .refused)
    (hfree : s.run.running = false) (hstored : s.localState.byJwt = none) :
    Kept ((s.put k a .ended).setByJwt none) := by
  apply of_free
  case hfree => exact hfree
  case clicked => exact h.clicked hfree
  case paired => exact h.paired
  case others => exact h.others_setByJwt none
  case epochs => exact h.epochs_put hk _
  case carried => exact .inl ((Function.update_self ..).trans hstored.symm)
  case loggedIn =>
    refine fun hin => h.loggedIn hfree (hin.imp_right fun ⟨x, hx, hstores⟩ => ?_)
    rcases List.mem_or_eq_of_mem_set hx with hx | rfl
    · exact ⟨x, hx, hstores⟩
    · simp [Attempt.stores] at hstores
  case announced =>
    refine fun hsome => (h.announced hfree hsome).imp_right fun hin => ?_
    refine exists_mem_set hin hk fun ha => ?_
    simp [Attempt.stores, hstage] at ha

lemma deferred (h : Kept s) (hk : s.attempts[k]? = some a) (hstage : a.stage = .deferring) :
    Kept (s.deferred k a) := by
  unfold State.deferred
  by_cases hdefer : a.epoch = s.run.epoch ∧ s.run.running = true
  · have hwaits :
        s.run.defer k a.epoch = (true, s.run.deferred, { s.run with deferred := some k }) := by
      simp [SignOutRun.defer, hdefer.1, hdefer.2]
    rw [hwaits]
    refine h.running hdefer.2 hdefer.2 rfl (fun _ _ => rfl) (fun htailed => ?_) ?_
    · exact (h.cleared hdefer.2 htailed).2.2.1
    · intro x hx
      rcases List.mem_or_eq_of_mem_set hx with hx | rfl
      · exact h.idle_modify hdefer.2 (fun _ => Attempt.fails_idle) _ x hx
      · exact ⟨h.epochs a (List.mem_of_getElem? hk), fun _ => rfl⟩
  · have hgoes : (s.run.defer k a.epoch).1 = false := by
      rcases not_and_or.1 hdefer with hne | hrun
      · simp [SignOutRun.defer, hne]
      · simp [SignOutRun.defer, hrun]
    dsimp only
    rw [hgoes]
    refine h.put hk ?_ ?_ ?_
    · exact fun hrun hepoch => absurd ⟨hepoch, hrun⟩ hdefer
    · simp [Attempt.pending, hstage]
    · simp [Attempt.stores, hstage]

lemma begin (h : Kept s) {byJwt : ByJwt} {epoch : ℕ} {approved : Bool}
    (hepoch : epoch ≤ s.run.epoch) :
    Kept { s with attempts := s.attempts ++ [{ byJwt, epoch, approved }] } where
  paired := h.paired
  others := h.others
  epochs x hx := by
    rcases List.mem_append.1 hx with hx | hx
    · exact h.epochs x hx
    · rw [List.mem_singleton.1 hx]
      exact hepoch
  waits hrun x hx hx' := by
    rcases List.mem_append.1 hx with hx | hx
    · exact h.waits hrun x hx hx'
    · rw [List.mem_singleton.1 hx]
      rfl
  signedOut := h.signedOut
  cleared := h.cleared
  clicked := h.clicked
  carried hrun := (h.carried hrun).imp_right fun ⟨x, hx, hcarries⟩ =>
    ⟨x, List.mem_append_left _ hx, hcarries⟩
  loggedIn hrun hin := by
    refine h.loggedIn hrun (hin.imp_right fun ⟨x, hx, hstores⟩ => ?_)
    rcases List.mem_append.1 hx with hx | hx
    · exact ⟨x, hx, hstores⟩
    · rw [List.mem_singleton.1 hx] at hstores
      simp [Attempt.stores] at hstores
  announced hrun hsome := (h.announced hrun hsome).imp_right fun ⟨x, hx, hstores⟩ =>
    ⟨x, List.mem_append_left _ hx, hstores⟩

lemma of_switches (h : Kept s) (switches : List String) : Kept { s with switches } :=
  ⟨h.paired, h.others, h.epochs, h.waits, h.signedOut, h.cleared, h.clicked, h.carried,
    h.loggedIn, h.announced⟩

lemma logout (h : Kept s) (hfree : s.run.running = false) :
    Kept { s with run := s.run.begin.2, clicked := true, tailed := false } := by
  have hrun : s.run.begin.2 = { s.run with running := true, epoch := s.run.epoch + 1 } := by
    simp [SignOutRun.begin, hfree]
  rw [hrun]
  constructor
  case paired => exact h.paired
  case others => exact h.others
  case epochs => exact fun x hx => Nat.le_succ_of_le (h.epochs x hx)
  case waits =>
    intro _ x hx hepoch
    have hle := h.epochs x hx
    dsimp only at hepoch
    omega
  case signedOut => exact fun _ hclicked => absurd hclicked Bool.false_ne_true.symm
  case cleared => exact fun _ htailed => absurd htailed Bool.false_ne_true
  case clicked => exact fun hfree => absurd hfree Bool.false_ne_true.symm
  case carried => exact fun hfree => absurd hfree Bool.false_ne_true.symm
  case loggedIn => exact fun hfree => absurd hfree Bool.false_ne_true.symm
  case announced => exact fun hfree => absurd hfree Bool.false_ne_true.symm

lemma request (h : Kept s) (hclicked : s.clicked = true) :
    Kept { s with clicked := false, loggedIn := false } := by
  have hrun : s.run.running = true := by
    rw [← Bool.not_eq_false]
    intro hfree
    exact absurd (hclicked.symm.trans (h.clicked hfree)) nofun
  constructor
  case paired => exact h.paired
  case others => exact h.others
  case epochs => exact h.epochs
  case waits => exact h.waits
  case signedOut => exact fun _ _ => rfl
  case cleared =>
    intro _ htailed
    obtain ⟨-, -, hapi, hlocal⟩ := h.cleared hrun htailed
    exact ⟨rfl, rfl, hapi, hlocal⟩
  case clicked => exact fun _ => rfl
  case carried => exact fun hfree => absurd (hrun.symm.trans hfree) nofun
  case loggedIn => exact fun hfree => absurd (hrun.symm.trans hfree) nofun
  case announced => exact fun hfree => absurd (hrun.symm.trans hfree) nofun

lemma tail (h : Kept s) (hrun : s.run.running = true) (hclicked : s.clicked = false) :
    Kept { s.setByJwt none with
      locals := Function.update s.locals s.active {}, tailed := true } := by
  have hother : ∀ x, x ≠ s.active → Function.update s.locals s.active {} x = s.locals x :=
    fun x hx => Function.update_of_ne hx ..
  constructor
  case paired =>
    intro x
    by_cases hx : x = s.active
    · subst hx
      exact .inl (Function.update_self ..)
    · have hpaired := h.paired x
      rw [← hother x hx] at hpaired
      exact hpaired
  case others =>
    intro x hx
    refine (h.others_setByJwt none x hx).imp_right fun hsame => hsame.trans ?_
    exact congrArg LocalState.byJwt (hother x hx).symm
  case epochs => exact h.epochs
  case waits => exact h.waits
  case signedOut => exact h.signedOut
  case cleared =>
    refine fun _ _ => ⟨hclicked, h.signedOut hrun hclicked, ?_, ?_⟩
    · exact Function.update_self ..
    · exact Function.update_self ..
  case clicked => exact fun _ => hclicked
  case carried => exact fun hfree => absurd (hrun.symm.trans hfree) nofun
  case loggedIn => exact fun hfree => absurd (hrun.symm.trans hfree) nofun
  case announced => exact fun hfree => absurd (hrun.symm.trans hfree) nofun

lemma finish (h : Kept s) (hrun : s.run.running = true) (htailed : s.tailed = true)
    {attempts : List Attempt} {run : SignOutRun ℕ} (hepoch : run.epoch = s.run.epoch)
    (hfree : run.running = false)
    (hall : ∀ x ∈ attempts, x.epoch ≤ s.run.epoch ∧
      (x.epoch = s.run.epoch → x.stage.idle = true)) :
    Kept { s with run, tailed := false, attempts } := by
  obtain ⟨hclicked, hloggedIn, hapi, hlocal⟩ := h.cleared hrun htailed
  have hclient : s.localState.clientJwt.isSome = false := by
    rw [hlocal]
    rfl
  apply of_free
  case hfree => exact hfree
  case clicked => exact hclicked
  case paired => exact h.paired
  case others => exact h.others
  case epochs => exact fun x hx => hepoch ▸ (hall x hx).1
  case carried =>
    refine .inl (hapi.trans ?_)
    exact (congrArg LocalState.byJwt hlocal).symm
  case loggedIn =>
    rintro (hin | ⟨x, hx, hstores⟩)
    · exact absurd (hloggedIn.symm.trans hin) nofun
    · by_cases hx' : x.epoch = s.run.epoch
      · have hidle := (hall x hx).2 hx'
        simp only [Attempt.stores, Bool.and_eq_true, decide_eq_true_eq] at hstores
        rw [hstores.2] at hidle
        cases hidle
      · rw [Attempt.stores_of_ne (fun he => hx' (he.trans hepoch))] at hstores
        cases hstores
  case announced => exact fun hsome => absurd (hclient.symm.trans hsome) nofun

lemma switched (h : Kept s) (hfree : s.run.running = false)
    (hnone : ∀ x ∈ s.attempts, x.pending s.run.epoch = false ∧ x.stores s.run.epoch = false)
    (hostName : String) (fresh : Bool) : Kept (s.switched hostName fresh) := by
  have hagree : s.api = s.localState.byJwt := by
    refine (h.carried hfree).resolve_right ?_
    rintro ⟨x, hx, hpending, -⟩
    exact absurd ((hnone x hx).1.symm.trans hpending) nofun
  -- what the api of a space may carry, the one that was left included
  have hapis : ∀ x, s.apis x = none ∨ s.apis x = (s.locals x).byJwt := by
    intro x
    by_cases hx : x = s.active
    · rw [hx]
      exact .inr hagree
    · exact h.others x hx
  have hnew : (if (s.locals hostName).byJwt.isSome then (s.locals hostName).byJwt
      else if fresh then none else s.apis hostName) = (s.locals hostName).byJwt := by
    cases hstored : (s.locals hostName).byJwt with
    | some b => rfl
    | none =>
      have hkept : s.apis hostName = none := (hapis hostName).elim id fun h => h.trans hstored
      cases fresh with
      | true => rfl
      | false => exact hkept
  apply of_free
  case hfree => exact hfree
  case clicked => exact h.clicked hfree
  case paired => exact h.paired
  case others =>
    intro x hx
    have hx' : (s.switched hostName fresh).apis x = s.apis x := Function.update_of_ne hx ..
    rw [hx']
    exact hapis x
  case epochs => exact h.epochs
  case carried => exact .inl ((Function.update_self ..).trans hnew)
  case loggedIn =>
    rintro (hin | ⟨x, hx, hstores⟩)
    · exact hin
    · exact absurd ((hnone x hx).2.symm.trans hstores) nofun
  case announced => exact .inl

lemma fails (h : Kept s) (hk : s.attempts[k]? = some a) {carried : Option ByJwt}
    {server : String} (hstage : a.stage = .asked carried server)
    (hcond : a.epoch = s.run.epoch → a.Orderly s k (.answer k .none)) :
    Kept (s.put k a a.fails) := by
  unfold Attempt.fails
  split_ifs with happroved
  · refine h.put hk (fun _ _ => rfl) ?_ ?_
    · simp [Attempt.pending, hstage]
    · simp [Attempt.stores, hstage]
  · refine h.refused hk ?_ ?_
    · rw [hstage]
      exact nofun
    · exact fun hepoch _ =>
        (hcond hepoch (Bool.not_eq_true _ ▸ happroved)).imp_right And.left

lemma cleared_of (h : Kept s) (hk : s.attempts[k]? = some a) (hstage : a.stage = .refused)
    (hcond : s.run.running = true ∨ s.localState.byJwt = none ∧ s.Alone k) :
    Kept ((s.put k a .ended).setByJwt none) := by
  cases hrun : s.run.running with
  | true =>
    refine h.running hrun hrun rfl (fun x hx => Function.update_of_ne hx ..)
      (fun _ => Function.update_self ..) ?_
    intro x hx
    rcases List.mem_or_eq_of_mem_set hx with hx | rfl
    · exact ⟨h.epochs x hx, h.waits hrun x hx⟩
    · exact ⟨h.epochs a (List.mem_of_getElem? hk), fun _ => rfl⟩
  | false =>
    have hstored := hcond.resolve_left (by rw [hrun]; exact nofun)
    exact h.clears hk hstage hrun hstored.1

lemma attemptStep (h : Kept s) (hk : s.attempts[k]? = some a)
    (hs : s.attemptStep k a act = some s') (hcond : a.epoch = s.run.epoch → a.Orderly s k act) :
    Kept s' := by
  unfold State.attemptStep at hs
  split at hs
  case h_1 =>
    split at hs
    case h_1 hstage =>
      cases hs
      exact h.deferred hk hstage
    case h_2 => cases hs
  case h_2 =>
    split at hs
    case h_1 hstage =>
      cases hs
      unfold State.handed
      split_ifs with hne
      · exact h.stale hk hne _
      · exact h.handed hk hstage (not_not.1 hne)
    case h_2 => cases hs
  case h_3 =>
    split at hs
    case h_1 hstage =>
      cases hs
      refine h.put hk ?_ ?_ ?_
      · intro hrun hepoch
        exact absurd (hrun.symm.trans (h.free hk hepoch (by rw [hstage]; rfl))) nofun
      · simp [Attempt.pending, hstage]
      · simp [Attempt.stores, hstage]
    case h_2 => cases hs
  case h_4 answer =>
    split at hs
    case h_1 carried server hstage =>
      cases hs
      cases answer with
      | none => exact h.fails hk hstage hcond
      | client =>
        unfold State.answered
        dsimp only
        split_ifs with hne
        · exact h.stale hk hne _
        · obtain ⟨hasked, hserver, hcarries⟩ := hcond (not_not.1 hne)
          obtain ⟨rfl, rfl⟩ := Stage.asked.inj (hstage.symm.trans hasked)
          exact h.stores hk hasked (not_not.1 hne) hserver hcarries
    case h_2 => cases hs
  case h_5 =>
    split at hs
    case h_1 hstage =>
      cases hs
      unfold State.announced
      by_cases hepoch : a.epoch = s.run.epoch
      · rw [if_pos (by simp [SignOutRun.applyIfCurrent, hepoch])]
        exact h.announces hk hstage hepoch
      · rw [if_neg (by simp [SignOutRun.applyIfCurrent, hepoch])]
        exact h.stale hk hepoch _
    case h_2 => cases hs
  case h_6 =>
    split at hs
    case h_1 hstage =>
      cases hs
      unfold State.cleared
      split_ifs with hne
      · exact h.stale hk hne _
      · exact h.cleared_of hk hstage (hcond (not_not.1 hne))
    case h_2 => cases hs
  case h_7 => cases hs

lemma step (h : Kept s) (hs : Credentials.step s act = some s') (hcond : s.Orderly act) :
    Kept s' := by
  unfold Credentials.step at hs
  split at hs
  case h_1 byJwt epoch approved =>
    split_ifs at hs with hepoch
    cases hs
    exact h.begin hepoch
  case h_2 =>
    split_ifs at hs with hbegins
    · cases hs
      refine h.logout ?_
      rw [← Bool.not_eq_true]
      intro hrun
      simp [SignOutRun.begin, hrun] at hbegins
    · cases hs
      exact h
  case h_3 =>
    split_ifs at hs with hclicked
    cases hs
    exact h.request hclicked
  case h_4 =>
    split_ifs at hs with hrun
    cases hs
    exact h.tail hrun.1 hrun.2.1
  case h_5 =>
    split_ifs at hs with hrun
    cases hs
    exact h.finish hrun.1 hrun.2 rfl rfl (h.idle_modify hrun.1 (fun _ => rfl) _)
  case h_6 hostName =>
    split_ifs at hs
    · cases hs
      exact h
    · cases hs
      exact h.of_switches _
  case h_7 i fresh =>
    obtain ⟨hostName, -, rfl⟩ := Option.map_eq_some_iff.1 hs
    exact (h.of_switches (s.switches.eraseIdx i)).switched hcond.2.1 hcond.2.2 hostName fresh
  case h_8 =>
    obtain ⟨hostName, -, rfl⟩ := Option.map_eq_some_iff.1 hs
    exact h.of_switches _
  all_goals
    obtain ⟨a, hk, hs⟩ := Option.bind_eq_some_iff.1 hs
    exact h.attemptStep hk hs (hcond.1 _ rfl a hk)

lemma of_run {es : List (Transition State Act)} (h : CondRuns es s) : Kept s := by
  induction h with
  | nil hs => exact init hs
  | snoc _ hs ih => exact ih.step hs.1 hs.2

lemma agree (h : Kept s) (hquiet : Quiet s) : Agree s where
  credential := by
    refine (h.carried hquiet.run).resolve_right ?_
    rintro ⟨a, ha, hpending, -⟩
    simp [Attempt.pending, hquiet.attempts a ha] at hpending
  loggedIn := by
    constructor
    · exact fun hin => h.loggedIn hquiet.run (.inl hin)
    · intro hsome
      refine (h.announced hquiet.run hsome).resolve_right ?_
      rintro ⟨a, ha, hstores⟩
      simp [Attempt.stores, hquiet.attempts a ha] at hstores
  paired := h.paired _

end Kept

/-! ### A registration that fails -/

lemma attemptStep_of_step (hs : step s act = some s') (hact : act.attempt = some k) :
    ∃ a, s.attempts[k]? = some a ∧ s.attemptStep k a act = some s' := by
  cases act with
  | defer | set | send | answer | announce | clear =>
    cases hact
    exact Option.bind_eq_some_iff.1 hs
  | _ => cases hact

lemma overtaken_step (hs : s.attemptStep k a act = some s') (hne : a.epoch ≠ s.run.epoch) :
    ∃ stage, s' = s.put k a stage := by
  unfold State.attemptStep at hs
  split at hs
  case h_1 =>
    split at hs
    case h_1 =>
      cases hs
      have hgoes : (s.run.defer k a.epoch).1 = false := by simp [SignOutRun.defer, hne]
      unfold State.deferred
      dsimp only
      rw [hgoes]
      exact ⟨_, rfl⟩
    case h_2 => cases hs
  case h_2 =>
    split at hs
    case h_1 =>
      cases hs
      exact ⟨_, if_pos hne⟩
    case h_2 => cases hs
  case h_3 =>
    split at hs
    case h_1 =>
      cases hs
      exact ⟨_, rfl⟩
    case h_2 => cases hs
  case h_4 answer =>
    split at hs
    case h_1 =>
      cases hs
      cases answer with
      | none => exact ⟨_, rfl⟩
      | client => exact ⟨_, if_pos hne⟩
    case h_2 => cases hs
  case h_5 =>
    split at hs
    case h_1 =>
      cases hs
      exact ⟨_, if_neg (by simp [SignOutRun.applyIfCurrent, hne])⟩
    case h_2 => cases hs
  case h_6 =>
    split at hs
    case h_1 =>
      cases hs
      exact ⟨_, if_pos hne⟩
    case h_2 => cases hs
  case h_7 => cases hs

/-- Since a sign-out overtook a registration in `s`, only that registration took steps. -/
structure Stale (s : State) (k : ℕ) (a : Attempt) (s₂ : State) : Prop where
  held : s₂.held = s.held
  run : s₂.run = s.run
  at_stage : ∃ stage, s₂.attempts[k]? = some { a with stage }

lemma Stale.step {s₂ s₃ : State} (h : Stale s k a s₂) (hne : a.epoch ≠ s.run.epoch)
    (hs : Credentials.step s₂ act = some s₃) (hact : act.attempt = some k) : Stale s k a s₃ := by
  obtain ⟨a₂, hk₂, hs⟩ := attemptStep_of_step hs hact
  obtain ⟨stage, hk⟩ := h.at_stage
  cases hk₂.symm.trans hk
  obtain ⟨stage', rfl⟩ := overtaken_step hs (by rw [h.run]; exact hne)
  exact ⟨h.held, h.run, stage', List.getElem?_set_self (List.getElem?_eq_some_iff.1 hk).1⟩

/-- Since a registration handed over its credential in `s`, only it took steps. -/
structure Went (s : State) (k : ℕ) (a : Attempt) (s₂ : State) : Prop where
  active : s₂.active = s.active
  run : s₂.run = s.run
  others : ∀ j, j ≠ k → s₂.attempts[j]? = s.attempts[j]?
  at_stage : ∃ stage, s₂.attempts[k]? = some { a with stage } ∧
    (stage = .stored ∨ stage = .ended ∨ { a with stage }.pending s.run.epoch = true ∧
      s₂.held = ((s.put k a .sending).setByJwt (some a.byJwt)).held)

namespace Went

variable {s₂ s₃ : State} {stage₂ : Stage}

lemma init (hk : s.attempts[k]? = some a) (hepoch : a.epoch = s.run.epoch) :
    Went s k a ((s.put k a .sending).setByJwt (some a.byJwt)) where
  active := rfl
  run := rfl
  others j hj := List.getElem?_set_ne (Ne.symm hj)
  at_stage := by
    refine ⟨.sending, ?_, .inr (.inr ⟨by simp [Attempt.pending, hepoch], rfl⟩)⟩
    exact List.getElem?_set_self (List.getElem?_eq_some_iff.1 hk).1

lemma put (h : Went s k a s₂) (hk : s₂.attempts[k]? = some { a with stage := stage₂ })
    (hheld : s₂.held = ((s.put k a .sending).setByJwt (some a.byJwt)).held) {stage : Stage}
    (hpending : { a with stage }.pending s.run.epoch = true) :
    Went s k a (s₂.put k { a with stage := stage₂ } stage) where
  active := h.active
  run := h.run
  others j hj := (List.getElem?_set_ne (Ne.symm hj)).trans (h.others j hj)
  at_stage := by
    refine ⟨stage, ?_, .inr (.inr ⟨hpending, hheld⟩)⟩
    exact List.getElem?_set_self (List.getElem?_eq_some_iff.1 hk).1

lemma done (h : Went s k a s₂) (hk : s₂.attempts[k]? = some { a with stage := stage₂ })
    {stage : Stage} (hstage : stage = .stored ∨ stage = .ended) (apis : String → Option ByJwt)
    (locals : String → LocalState) (loggedIn : Bool) :
    Went s k a { s₂.put k { a with stage := stage₂ } stage with apis, locals, loggedIn } where
  active := h.active
  run := h.run
  others j hj := (List.getElem?_set_ne (Ne.symm hj)).trans (h.others j hj)
  at_stage := by
    refine ⟨stage, ?_, hstage.imp_right .inl⟩
    exact List.getElem?_set_self (List.getElem?_eq_some_iff.1 hk).1

lemma step (h : Went s k a s₂) (hepoch : a.epoch = s.run.epoch)
    (hs : Credentials.step s₂ act = some s₃) (hact : act.attempt = some k) : Went s k a s₃ := by
  obtain ⟨a₂, hk₂, hstep⟩ := attemptStep_of_step hs hact
  clear hs hact
  obtain ⟨stage, hk, hstage⟩ := h.at_stage
  cases hk₂.symm.trans hk
  have hepoch₂ : a.epoch = s₂.run.epoch := by rw [h.run, hepoch]
  unfold State.attemptStep at hstep
  split at hstep
  case h_1 | h_2 =>
    split at hstep
    case h_1 hat =>
      obtain rfl : stage = _ := hat
      simp [Attempt.pending] at hstage
    case h_2 => cases hstep
  case h_3 =>
    split at hstep
    case h_1 hat =>
      obtain rfl : stage = _ := hat
      cases hstep
      have hpending := (hstage.resolve_left nofun).resolve_left nofun
      exact h.put hk hpending.2 (by simp [Attempt.pending, hepoch])
    case h_2 => cases hstep
  case h_4 answer =>
    split at hstep
    case h_1 carried server hat =>
      obtain rfl : stage = _ := hat
      cases hstep
      have hpending := (hstage.resolve_left nofun).resolve_left nofun
      cases answer with
      | none =>
        unfold State.answered Attempt.fails
        dsimp only
        split_ifs
        · exact h.put hk hpending.2 (by simp [Attempt.pending, hepoch])
        · exact h.done hk (.inr rfl) ..
      | client =>
        rw [State.answered, if_neg (not_not_intro hepoch₂)]
        exact h.done hk (.inl rfl) ..
    case h_2 => cases hstep
  case h_5 =>
    split at hstep
    case h_1 hat =>
      obtain rfl : stage = _ := hat
      cases hstep
      rw [State.announced, if_pos (by simp [SignOutRun.applyIfCurrent, hepoch₂])]
      exact h.done hk (.inr rfl) ..
    case h_2 => cases hstep
  case h_6 =>
    split at hstep
    case h_1 hat =>
      obtain rfl : stage = _ := hat
      cases hstep
      rw [State.cleared, if_neg (not_not_intro hepoch₂)]
      exact h.done hk (.inr rfl) ..
    case h_2 => cases hstep
  case h_7 => cases hstep

end Went

/-- A registration that found the api with what is stored, and ends with its own credential
stored, or with nothing stored and its own cleared, leaves what it found. -/
lemma held_of_stored {s₂ : State} (hfound : s.api = s.localState.byJwt)
    (hheld : s₂.held = ((s.put k a .sending).setByJwt (some a.byJwt)).held)
    (hactive : s₂.active = s.active) :
    (s₂.localState.byJwt = some a.byJwt → s₂.held = s.held) ∧
      (s₂.localState.byJwt = none → (s₂.setByJwt none).held = s.held) := by
  have hapis : s₂.apis = Function.update s.apis s.active (some a.byJwt) := congrArg Prod.fst hheld
  have hlocals : s₂.locals = s.locals := congrArg (fun h => h.2.1) hheld
  have hloggedIn : s₂.loggedIn = s.loggedIn := congrArg (fun h => h.2.2) hheld
  have hlocal : s₂.localState = s.localState := by
    rw [State.localState, hlocals, hactive]
    rfl
  constructor
  · intro hstored
    have hsame : s.apis s.active = some a.byJwt := by
      rw [hlocal] at hstored
      exact hfound.trans hstored
    have hkept : s₂.apis = s.apis := by
      rw [hapis, ← hsame]
      exact Function.update_eq_self ..
    rw [State.held, hkept, hlocals, hloggedIn]
    rfl
  · intro hnone
    have hsame : s.apis s.active = none := by
      rw [hlocal] at hnone
      exact hfound.trans hnone
    have hkept : (s₂.setByJwt none).apis = s.apis := by
      rw [State.setByJwt, hapis, hactive]
      dsimp only
      rw [Function.update_idem, ← hsame]
      exact Function.update_eq_self ..
    rw [State.held, hkept]
    show (s.apis, s₂.locals, s₂.loggedIn) = _
    rw [hlocals, hloggedIn]
    rfl

/-- What a registration found that took its first section while nothing else is under way. -/
lemma Went.found {s₂ : State} (hkept : Kept s) (hk : s.attempts[k]? = some a)
    (hstage : a.stage = .setting) (hfree : s.run.running = false) (h : Went s k a s₂)
    (halone : s₂.Alone k) : s.api = s.localState.byJwt := by
  refine (hkept.carried hfree).resolve_right ?_
  rintro ⟨x, hx, hpending, -⟩
  obtain ⟨j, hj⟩ := List.mem_iff_getElem?.1 hx
  by_cases hjk : j = k
  · subst hjk
    cases hk.symm.trans hj
    simp [Attempt.pending, hstage] at hpending
  · have hother := halone x (List.mem_eraseIdx_iff_getElem?.2 ⟨j, hjk, (h.others j hjk).trans hj⟩)
    rw [h.run] at hother
    exact absurd (hother.symm.trans hpending) nofun

/-- A registration that fails leaves what it found: where it ends with its own credential still
with the api, nothing else was under way, and that credential is what is stored. -/
lemma held_of_failed {s₂ s₃ : State} (hkept : Kept s) (hk : s.attempts[k]? = some a)
    (hstage : a.stage = .setting) (hepoch : a.epoch = s.run.epoch) (h : Went s k a s₂)
    (hs : step s₂ act = some s₃) (hcond : s₂.Orderly act)
    (hact : act = .answer k .none ∨ act = .clear k)
    (hended : ∃ a₃, s₃.attempts[k]? = some a₃ ∧ a₃.stage = .ended) : s₃.held = s.held := by
  have hfree := hkept.free hk hepoch (by rw [hstage]; rfl)
  obtain ⟨stage, hk₂, hat⟩ := h.at_stage
  have hepoch₂ : a.epoch = s₂.run.epoch := by rw [h.run, hepoch]
  rcases hact with rfl | rfl
  · have horderly := hcond.1 k rfl _ hk₂ hepoch₂
    obtain ⟨a₂, hk₂', hs⟩ := attemptStep_of_step hs rfl
    cases hk₂'.symm.trans hk₂
    unfold State.attemptStep at hs
    dsimp only at hs
    split at hs
    case h_1 carried server =>
      cases hs
      obtain ⟨-, hheld⟩ := (hat.resolve_left nofun).resolve_left nofun
      have happroved : a.approved = false := by
        obtain ⟨a₃, hk₃, hstage₃⟩ := hended
        have hself := List.getElem?_set_self (a := { a with stage := a.fails })
          (List.getElem?_eq_some_iff.1 hk₂).1
        cases hk₃.symm.trans hself
        rw [← Bool.not_eq_true]
        intro happroved
        rw [Attempt.fails, if_pos happroved] at hstage₃
        cases hstage₃
      have hapi : s₂.api = some a.byJwt := by
        have hapis : s₂.apis = Function.update s.apis s.active (some a.byJwt) :=
          congrArg Prod.fst hheld
        rw [State.api, hapis, h.active]
        exact Function.update_self ..
      obtain ⟨hstored, halone⟩ := (horderly happroved).resolve_left (not_not_intro hapi)
      exact (held_of_stored (h.found hkept hk hstage hfree halone) hheld h.active).1 hstored
    case h_2 => cases hs
  · have horderly := hcond.1 k rfl _ hk₂ hepoch₂
    obtain ⟨a₂, hk₂', hs⟩ := attemptStep_of_step hs rfl
    cases hk₂'.symm.trans hk₂
    unfold State.attemptStep at hs
    dsimp only at hs
    split at hs
    case h_1 =>
      cases hs
      obtain ⟨-, hheld⟩ := (hat.resolve_left nofun).resolve_left nofun
      have hrun : ¬ s₂.run.running = true := by
        rw [h.run, hfree]
        exact nofun
      obtain ⟨hnone, halone⟩ := horderly.resolve_left hrun
      rw [State.cleared, if_neg (not_not_intro hepoch₂)]
      exact (held_of_stored (h.found hkept hk hstage hfree halone) hheld h.active).2 hnone
    case h_2 => cases hs

/-- **Credentials, api and server agree**, where registrations and changes of server are
orderly. -/
theorem credentials_agree {es : List (Transition State Act)} (h : CondRuns es s) :
    CredentialsAgree es s where
  agree := (Kept.of_run h).agree
  failed pre mid post e₁ e₂ k hes hlabel₁ hmid hlabel₂ hended := by
    have hes' : es = (pre ++ e₁ :: mid) ++ e₂ :: post := by simpa using hes
    obtain ⟨hrun₁, hs₁, -⟩ := h.split hes
    obtain ⟨hrun₂, hs₂, hcond₂⟩ := h.split hes'
    rw [hlabel₁] at hs₁
    obtain ⟨a, hk, hstep₁⟩ := attemptStep_of_step hs₁ rfl
    by_cases hepoch : a.epoch = e₁.pre.run.epoch
    · unfold State.attemptStep at hstep₁
      dsimp only at hstep₁
      split at hstep₁
      case h_1 hstage =>
        have hpost := Option.some.inj hstep₁
        rw [State.handed, if_neg (not_not_intro hepoch)] at hpost
        have hwent : Went e₁.pre k a e₂.pre := by
          refine Run.kept_since ?_ hrun₂ (hpost ▸ Went.init hk hepoch) hmid
          exact fun _ _ _ _ hs hact hwent => hwent.step hepoch hs.1 hact
        exact held_of_failed (Kept.of_run hrun₁) hk hstage hepoch hwent hs₂ hcond₂ hlabel₂ hended
      case h_2 => cases hstep₁
    · obtain ⟨stage, hpost⟩ := overtaken_step hstep₁ hepoch
      have hself := List.getElem?_set_self (a := { a with stage })
        (List.getElem?_eq_some_iff.1 hk).1
      have hstale : Stale e₁.pre k a e₂.pre := by
        refine Run.kept_since ?_ hrun₂ (hpost ▸ ⟨rfl, rfl, stage, hself⟩) hmid
        exact fun _ _ _ _ hs hact hstale => hstale.step hepoch hs.1 hact
      have hact : e₂.label.attempt = some k := by
        rcases hlabel₂ with hlabel | hlabel
        · rw [hlabel]
          rfl
        · rw [hlabel]
          rfl
      exact (hstale.step hepoch hs₂ hact).held
  overtaken e he k a hact hk hne := by
    obtain ⟨pre, post, rfl⟩ := List.mem_iff_append.1 he
    obtain ⟨-, hs, -⟩ := h.split rfl
    obtain ⟨a', hk', hs⟩ := attemptStep_of_step hs hact
    cases hk'.symm.trans hk
    obtain ⟨stage, hpost⟩ := overtaken_step hs hne
    rw [hpost]
    rfl

/-- A launch on nothing stored. -/
def signedOut : State where
  active := "a"
  apis := fun _ => none
  locals := fun _ => {}
  loggedIn := false

lemma starts_signedOut : Starts signedOut where
  paired _ := .inl rfl
  api := rfl
  others _ _ := rfl
  loggedIn := rfl
  run := rfl
  clicked := rfl
  tailed := rfl
  attempts := rfl
  switches := rfl

/-- Two registrations overlap, the first of them is refused, the server is changed and changed
back, and a sign-in waits for a sign-out. -/
theorem credentials_agree_overlap : ∃ es s, CredentialsAgree es s ∧
    es.map Transition.label =
      [.begin ⟨1, "a"⟩ 0 false, .begin ⟨2, "a"⟩ 0 true, .defer 0, .defer 1, .set 0, .send 0,
        .set 1, .answer 0 .none, .send 1, .answer 1 .client, .announce 1, .applyServer "b",
        .switch 0 true, .applyServer "a", .switch 0 false, .logout, .request,
        .begin ⟨3, "a"⟩ 1 false, .defer 2, .tail, .finish, .defer 2, .set 2, .send 2,
          .answer 2 .client, .announce 2] := by
  have hfollow : ∃ s, follow (fun (s : State) a => if s.Orderly a then step s a else none)
      signedOut
      [.begin ⟨1, "a"⟩ 0 false, .begin ⟨2, "a"⟩ 0 true, .defer 0, .defer 1, .set 0, .send 0,
        .set 1, .answer 0 .none, .send 1, .answer 1 .client, .announce 1, .applyServer "b",
        .switch 0 true, .applyServer "a", .switch 0 false, .logout, .request,
        .begin ⟨3, "a"⟩ 1 false, .defer 2, .tail, .finish, .defer 2, .set 2, .send 2,
          .answer 2 .client, .announce 2] = some s :=
    ⟨_, rfl⟩
  obtain ⟨s, hs⟩ := hfollow
  obtain ⟨es, hrun, hlabels⟩ := (Run.nil starts_signedOut : CondRuns [] signedOut).follow
    (fun _ s a s' h => (Option.ite_none_right_eq_some.1 h).symm) hs
  exact ⟨es, s, credentials_agree hrun, hlabels⟩

/-- **A refused registration leaves its credential.**  The api of a signed-out app carries
it. -/
theorem refused_leaves_credential : ∃ es s, Runs es s ∧ ¬ CredentialsAgree es s := by
  have hfollow : ∃ s, follow step signedOut
      [.begin ⟨1, "a"⟩ 0 false, .defer 0, .set 0, .send 0, .answer 0 .none] = some s ∧
      s.api = some ⟨1, "a"⟩ ∧ s.localState = {} ∧ s.run.running = false ∧ s.switches = [] ∧
      s.attempts = [⟨⟨1, "a"⟩, 0, false, .ended⟩] :=
    ⟨_, rfl, rfl, rfl, rfl, rfl, rfl⟩
  obtain ⟨s, hs, hapi, hlocal, hrunning, hswitches, hattempts⟩ := hfollow
  obtain ⟨es, hrun, -⟩ := (Run.nil starts_signedOut : Runs [] signedOut).follow
    (fun _ _ _ _ h => h) hs
  refine ⟨es, s, hrun, fun h => ?_⟩
  have hquiet : Quiet s := by
    refine ⟨?_, hrunning, hswitches⟩
    rw [hattempts]
    intro a ha
    rw [List.mem_singleton.1 ha]
  have hcredential := (h.agree hquiet).credential
  rw [hapi, hlocal] at hcredential
  cases hcredential

end UrnetworkWindows.Credentials
