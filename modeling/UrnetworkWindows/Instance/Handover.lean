/-
A launch against the instances it is redirected to (`InstanceHandover.h`, `Launch`).

The launching process asks its launcher one question after another; each answer is a
label, and any answer may come, but for the redirect, which is composed with the gate of
the instance it goes to: it reaches that instance as a `Take` or never does, and ends as
`Taken` only once that `Take` has returned.  `holderExiting` is read after it ended, from
the exiting signal of the same instance, or because its process has gone.  Instances may
start at any time, and their threads go on in between.

`target` is history: the `Take` that the launch's last redirect has become.
-/
import UrnetworkWindows.Instance.Holder

namespace UrnetworkWindows.Instance.Handover

open Lib

/-! ### The model -/

/-- `RedirectResult`. -/
inductive RedirectResult
  | taken
  | failed
  | timedOut
  | waitFailed
  | holderGone
  | notStarted
deriving DecidableEq, Repr

/-- `RedirectAttempt`. -/
structure RedirectAttempt where
  result : RedirectResult := .notStarted
  holderExiting : Bool := false
deriving DecidableEq, Repr

/-- `Step`: what a launch does after a redirect. -/
inductive Next
  | exit
  | registerAgain
  | awaitHolderExitThenRegister
  | report
deriving DecidableEq, Repr

/-- `AfterRedirect`. -/
def afterRedirect (attempt : RedirectAttempt) : Next :=
  if attempt.result = .holderGone then .registerAgain
  else if attempt.holderExiting then .awaitHolderExitThenRegister
  else if attempt.result = .taken then .exit
  else .report

/-- `LaunchResult`. -/
inductive LaunchResult
  | holder
  | handedOver
  | noResponse
  | refused
  | unreachable
  | notStarted
  | stillClosing
  | registrationFailed
  | updating
deriving DecidableEq, Repr

/-- `ReportFor`. -/
def reportFor : RedirectResult → LaunchResult
  | .failed => .refused
  | .timedOut => .noResponse
  | .waitFailed => .unreachable
  | .notStarted => .notStarted
  | .taken => .noResponse
  | .holderGone => .noResponse

/-- `kLaunchRounds`. -/
def kLaunchRounds : ℕ := 4

/-- The next statement of `Launch`, with its round.  A redirect is started, is on its way
to an instance, is in that instance's `Take`, or has ended and its exiting signal is to be
read. -/
inductive LaunchAt
  | asking (round : ℕ)
  | owning (round : ℕ)
  | redirecting (round : ℕ)
  | redirected (round holder : ℕ)
  | taking (round holder call : ℕ)
  | reading (round holder : ℕ) (result : RedirectResult)
  | askingAgain (round : ℕ)
  | awaiting (round : ℕ)
  | registering (round : ℕ)
  | ended (result : LaunchResult)
deriving DecidableEq, Repr

/-- The launch's request, the instances by their start, and the launch. -/
structure World where
  request : LaunchRequest := {}
  holders : List Holder := []
  launch : LaunchAt := .asking 0
  target : Option (ℕ × ℕ) := none

/-- An instance starts or takes a step; or an operation of the launcher answers. -/
inductive Label
  | started
  | holder (h : ℕ) (a : Pick)
  | updateInProgress (answer : Bool)
  | ownsKey (answer : Bool)
  | redirect (h : ℕ)
  | reach
  | redirectEnds (result : RedirectResult)
  | readExiting (gone : Bool)
  | awaitHolderExit (answer : Bool)
  | register (answer : Bool)
deriving DecidableEq, Repr

/-- That `Take` has returned. -/
def World.returned (s : World) (h i : ℕ) : Bool :=
  s.holders[h]?.any fun x => x.takes[i]?.any fun c =>
    match c.phase with
    | .returned _ _ => true
    | _ => false

/-- The exiting signal of an instance. -/
def World.exitingAt (s : World) (h : ℕ) : Bool := s.holders[h]?.any Holder.exiting

/-- What the launch goes on with after a redirect. -/
def LaunchAt.after (round : ℕ) (attempt : RedirectAttempt) : LaunchAt :=
  match afterRedirect attempt with
  | .exit => .ended .handedOver
  | .report => .ended (reportFor attempt.result)
  | .awaitHolderExitThenRegister => .askingAgain round
  | .registerAgain => .registering round

/-- An answer of the launcher, and what the launch goes on with. -/
def launchStep (s : World) : Label → Option World
  | .updateInProgress answer =>
    match s.launch with
    | .asking r => some { s with launch := if answer then .ended .updating else .owning r }
    | .askingAgain r => some { s with launch := if answer then .ended .updating else .awaiting r }
    | _ => none
  | .ownsKey answer =>
    match s.launch with
    | .owning r => some { s with
        launch := if answer then .ended .holder
          else if r = kLaunchRounds then .ended .stillClosing
          else .redirecting r }
    | _ => none
  | .redirect h =>
    match s.launch with
    | .redirecting r => some { s with launch := .redirected r h, target := none }
    | _ => none
  | .reach =>
    match s.launch with
    | .redirected r h =>
      match s.holders[h]? with
      | none => none
      | some x => (step x (.take s.request)).map fun x' => { s with
          holders := s.holders.set h x'
          launch := .taking r h x.takes.length
          target := some (h, x.takes.length) }
    | _ => none
  | .redirectEnds result =>
    match s.launch with
    | .redirected r h =>
      if result = .taken then none else some { s with launch := .reading r h result }
    | .taking r h i =>
      if result = .taken ∧ s.returned h i = false then none
      else some { s with launch := .reading r h result }
    | _ => none
  | .readExiting gone =>
    match s.launch with
    | .reading r h result => some { s with
        launch := .after r { result, holderExiting := s.exitingAt h || gone } }
    | _ => none
  | .awaitHolderExit answer =>
    match s.launch with
    | .awaiting r => some { s with
        launch := if answer then .registering r else .ended .stillClosing }
    | _ => none
  | .register answer =>
    match s.launch with
    | .registering r => some { s with
        launch := if answer then .asking (r + 1) else .ended .registrationFailed }
    | _ => none
  | _ => none

/-- One step of the whole. -/
def worldStep (s : World) : Label → Option World
  | .started => some { s with holders := s.holders ++ [{}] }
  | .holder h a =>
    match s.holders[h]? with
    | none => none
    | some x => (step x a).map fun x' => { s with holders := s.holders.set h x' }
  | a => launchStep s a

/-- The runs of a launch, before any instance has started. -/
abbrev World.Runs : List (Transition World Label) → World → Prop :=
  Run (fun s => ∃ request, s = { request }) fun _ s a s' => worldStep s a = some s' ∧ True

/-! ### What the two halves agree on -/

/-- The `Take` has returned that outcome. -/
def World.Answers (s : World) (h i : ℕ) (o : Outcome) : Prop :=
  ∃ x c id, s.holders[h]? = some x ∧ x.takes[i]? = some c ∧ c.phase = .returned id o

/-- The label is a redirect, a registration or a wait for the holder. -/
def Label.acts : Label → Bool
  | .redirect _ => true
  | .awaitHolderExit _ => true
  | .register _ => true
  | _ => false

/-- The label is a redirect. -/
def Label.redirects : Label → Bool
  | .redirect _ => true
  | _ => false

/-- The label is a step of the launch. -/
def Label.ofLaunch : Label → Bool
  | .started => false
  | .holder _ _ => false
  | _ => true

/-- The answer to whether an update runs. -/
def Label.updating? : Label → Option Bool
  | .updateInProgress answer => some answer
  | _ => none

/-- The answer to whether this process owns the key. -/
def Label.owns? : Label → Option Bool
  | .ownsKey answer => some answer
  | _ => none

/-- A bound on the steps that the launch has left. -/
def LaunchAt.left : LaunchAt → ℕ
  | .asking r => 9 * (kLaunchRounds - r) + 2
  | .owning r => 9 * (kLaunchRounds - r) + 1
  | .redirecting r => 9 * (kLaunchRounds - r)
  | .redirected r _ => 9 * (kLaunchRounds - r) - 1
  | .taking r _ _ => 9 * (kLaunchRounds - r) - 2
  | .reading r _ _ => 9 * (kLaunchRounds - r) - 3
  | .askingAgain r => 9 * (kLaunchRounds - r) - 4
  | .awaiting r => 9 * (kLaunchRounds - r) - 5
  | .registering r => 9 * (kLaunchRounds - r) - 6
  | .ended _ => 0

/-- What is to hold in the state a run ends in.  `ends`: every step the launch takes lowers
what it has left, and until it has ended there is one it can take. -/
structure Agreed (es : List (Transition World Label)) (s : World) : Prop where
  rounds : es.countP (·.label.redirects) ≤ kLaunchRounds
  ends : es.countP (·.label.ofLaunch) + s.launch.left ≤ (LaunchAt.asking 0).left ∧
    ((∃ r, s.launch = .ended r) ∨ ∃ a, a.ofLaunch = true ∧ (worldStep s a).isSome = true)
  refused : ∀ h i, s.target = some (h, i) → s.Answers h i .refused → s.launch ≠ .ended .handedOver
  handedOver : s.launch = .ended .handedOver → ∃ h i, s.target = some (h, i) ∧
    (s.Answers h i .served ∨ s.Answers h i .undecided)
  holder : s.launch = .ended .holder →
    (es.filterMap (·.label.updating?)).getLast? = some false ∧
      (es.filterMap (·.label.owns?)).getLast? = some true
  updating : ∀ es₁ t es₂, es = es₁ ++ t :: es₂ → t.label = .updateInProgress true →
    ∀ e ∈ es₂, e.label.acts = false

/-! ### What a step can do -/

/-- The steps, by what answers. -/
inductive Stepped (s : World) : Label → World → Prop
  | started : Stepped s .started { s with holders := s.holders ++ [{}] }
  | holder (h : ℕ) (a : Pick) (x x' : Holder) (hx : s.holders[h]? = some x)
      (hs : step x a = some x') :
      Stepped s (.holder h a) { s with holders := s.holders.set h x' }
  | asked (answer : Bool) (r : ℕ) (hl : s.launch = .asking r) :
      Stepped s (.updateInProgress answer)
        { s with launch := if answer then .ended .updating else .owning r }
  | askedAgain (answer : Bool) (r : ℕ) (hl : s.launch = .askingAgain r) :
      Stepped s (.updateInProgress answer)
        { s with launch := if answer then .ended .updating else .awaiting r }
  | ownsKey (answer : Bool) (r : ℕ) (hl : s.launch = .owning r) :
      Stepped s (.ownsKey answer) { s with
        launch := if answer then .ended .holder
          else if r = kLaunchRounds then .ended .stillClosing
          else .redirecting r }
  | redirect (h r : ℕ) (hl : s.launch = .redirecting r) :
      Stepped s (.redirect h) { s with launch := .redirected r h, target := none }
  | reach (r h : ℕ) (x x' : Holder) (hl : s.launch = .redirected r h)
      (hx : s.holders[h]? = some x) (hs : step x (.take s.request) = some x') :
      Stepped s .reach { s with
        holders := s.holders.set h x'
        launch := .taking r h x.takes.length
        target := some (h, x.takes.length) }
  | lost (result : RedirectResult) (r h : ℕ) (hl : s.launch = .redirected r h)
      (hr : result ≠ .taken) :
      Stepped s (.redirectEnds result) { s with launch := .reading r h result }
  | redirectEnds (result : RedirectResult) (r h i : ℕ) (hl : s.launch = .taking r h i)
      (hr : result = .taken → s.returned h i = true) :
      Stepped s (.redirectEnds result) { s with launch := .reading r h result }
  | readExiting (gone : Bool) (r h : ℕ) (result : RedirectResult)
      (hl : s.launch = .reading r h result) :
      Stepped s (.readExiting gone) { s with
        launch := .after r { result, holderExiting := s.exitingAt h || gone } }
  | awaitHolderExit (answer : Bool) (r : ℕ) (hl : s.launch = .awaiting r) :
      Stepped s (.awaitHolderExit answer) { s with
        launch := if answer then .registering r else .ended .stillClosing }
  | register (answer : Bool) (r : ℕ) (hl : s.launch = .registering r) :
      Stepped s (.register answer) { s with
        launch := if answer then .asking (r + 1) else .ended .registrationFailed }

variable {s s' : World} {a : Label}

lemma stepped_of_worldStep (hs : worldStep s a = some s') : Stepped s a s' := by
  cases a with
  | started =>
    cases hs
    exact .started
  | holder h a =>
    simp only [worldStep] at hs
    split at hs
    next => exact absurd hs (by simp)
    next x hx =>
      obtain ⟨x', hx', rfl⟩ := Option.map_eq_some_iff.1 hs
      exact .holder h a x x' hx hx'
  | updateInProgress answer =>
    simp only [worldStep, launchStep] at hs
    split at hs
    next r hl =>
      cases hs
      exact .asked answer r hl
    next r hl =>
      cases hs
      exact .askedAgain answer r hl
    next => exact absurd hs (by simp)
  | ownsKey answer =>
    simp only [worldStep, launchStep] at hs
    split at hs
    next r hl =>
      cases hs
      exact .ownsKey answer r hl
    next => exact absurd hs (by simp)
  | redirect h =>
    simp only [worldStep, launchStep] at hs
    split at hs
    next r hl =>
      cases hs
      exact .redirect h r hl
    next => exact absurd hs (by simp)
  | reach =>
    simp only [worldStep, launchStep] at hs
    split at hs
    next r h hl =>
      split at hs
      next => exact absurd hs (by simp)
      next x hx =>
        obtain ⟨x', hx', rfl⟩ := Option.map_eq_some_iff.1 hs
        exact .reach r h x x' hl hx hx'
    next => exact absurd hs (by simp)
  | redirectEnds result =>
    simp only [worldStep, launchStep] at hs
    split at hs
    next r h hl =>
      obtain ⟨hr, rfl⟩ := stop_eq_some.1 hs
      exact .lost result r h hl hr
    next r h i hl =>
      obtain ⟨hr, rfl⟩ := stop_eq_some.1 hs
      refine .redirectEnds result r h i hl ?_
      intro htaken
      by_contra hret
      exact hr ⟨htaken, Bool.eq_false_of_not_eq_true hret⟩
    next => exact absurd hs (by simp)
  | readExiting gone =>
    simp only [worldStep, launchStep] at hs
    split at hs
    next r h result hl =>
      cases hs
      exact .readExiting gone r h result hl
    next => exact absurd hs (by simp)
  | awaitHolderExit answer =>
    simp only [worldStep, launchStep] at hs
    split at hs
    next r hl =>
      cases hs
      exact .awaitHolderExit answer r hl
    next => exact absurd hs (by simp)
  | register answer =>
    simp only [worldStep, launchStep] at hs
    split at hs
    next r hl =>
      cases hs
      exact .register answer r hl
    next => exact absurd hs (by simp)

lemma LaunchAt.after_cases (r : ℕ) (attempt : RedirectAttempt) :
    (∃ e, LaunchAt.after r attempt = .ended e) ∨ LaunchAt.after r attempt = .askingAgain r ∨
      LaunchAt.after r attempt = .registering r := by
  unfold LaunchAt.after
  cases afterRedirect attempt with
  | exit | report => exact .inl ⟨_, rfl⟩
  | registerAgain => exact .inr (.inr rfl)
  | awaitHolderExitThenRegister => exact .inr (.inl rfl)

/-- Only a redirect that was taken by a holder that is not exiting hands the launch over. -/
lemma LaunchAt.after_eq_handedOver {r : ℕ} {attempt : RedirectAttempt}
    (h : LaunchAt.after r attempt = .ended .handedOver) :
    attempt.result = .taken ∧ attempt.holderExiting = false := by
  obtain ⟨result, exiting⟩ := attempt
  cases result <;> cases exiting <;> simp [LaunchAt.after, afterRedirect, reportFor] at h ⊢

lemma LaunchAt.after_ne_holder {r : ℕ} {attempt : RedirectAttempt} :
    LaunchAt.after r attempt ≠ .ended .holder := by
  obtain ⟨result, exiting⟩ := attempt
  cases result <;> cases exiting <;> simp [LaunchAt.after, afterRedirect, reportFor]

/-! ### The rounds -/

/-- The round a launch is in is within the bound, and the redirects it has started. -/
def LaunchAt.RoundOk (redirects : ℕ) : LaunchAt → Prop
  | .asking r => r ≤ kLaunchRounds ∧ redirects ≤ r
  | .owning r => r ≤ kLaunchRounds ∧ redirects ≤ r
  | .redirecting r => r < kLaunchRounds ∧ redirects ≤ r
  | .redirected r _ => r < kLaunchRounds ∧ redirects ≤ r + 1
  | .taking r _ _ => r < kLaunchRounds ∧ redirects ≤ r + 1
  | .reading r _ _ => r < kLaunchRounds ∧ redirects ≤ r + 1
  | .askingAgain r => r < kLaunchRounds ∧ redirects ≤ r + 1
  | .awaiting r => r < kLaunchRounds ∧ redirects ≤ r + 1
  | .registering r => r < kLaunchRounds ∧ redirects ≤ r + 1
  | .ended _ => redirects ≤ kLaunchRounds

lemma LaunchAt.RoundOk.step {n : ℕ} (h : s.launch.RoundOk n) (hs : Stepped s a s') :
    s'.launch.RoundOk (n + (if a.redirects then 1 else 0)) ∧ s'.launch.left +
    (if a.ofLaunch then 1 else 0) ≤ s.launch.left := by
  cases hs with
  | started | holder => exact ⟨h, le_rfl⟩
  | asked answer r hl | askedAgain answer r hl | awaitHolderExit answer r hl
  | register answer r hl =>
    simp only [hl, RoundOk] at h
    rw [hl]
    cases answer <;> simp [RoundOk, left, Label.redirects, Label.ofLaunch] <;> omega
  | ownsKey answer r hl =>
    simp only [hl, RoundOk] at h
    rw [hl]
    by_cases hr : r = kLaunchRounds
    · cases answer <;> simp [hr, RoundOk, left, Label.redirects, Label.ofLaunch] <;> omega
    · cases answer <;> simp [hr, RoundOk, left, Label.redirects, Label.ofLaunch] <;> omega
  | redirect i r hl | reach r i x x' hl hx hs | lost result r i hl hr
  | redirectEnds result r i k hl hr =>
    simp only [hl, RoundOk] at h
    rw [hl]
    simp [RoundOk, left, Label.redirects, Label.ofLaunch]
    omega
  | readExiting gone r i result hl =>
    simp only [hl, RoundOk] at h
    rw [hl]
    rcases LaunchAt.after_cases r ⟨result, s.exitingAt i || gone⟩ with ⟨e, he⟩ | he | he <;>
      simp [he, RoundOk, left, Label.redirects, Label.ofLaunch] <;> omega

lemma exists_step (s : World) :
    (∃ r, s.launch = .ended r) ∨ ∃ a, a.ofLaunch = true ∧ (worldStep s a).isSome = true := by
  cases hl : s.launch with
  | asking r | askingAgain r =>
    exact .inr ⟨.updateInProgress false, rfl, by simp [worldStep, launchStep, hl]⟩
  | owning r => exact .inr ⟨.ownsKey false, rfl, by simp [worldStep, launchStep, hl]⟩
  | redirecting r => exact .inr ⟨.redirect 0, rfl, by simp [worldStep, launchStep, hl]⟩
  | redirected r h | taking r h i =>
    exact .inr ⟨.redirectEnds .timedOut, rfl, by simp [worldStep, launchStep, hl]⟩
  | reading r h result => exact .inr ⟨.readExiting false, rfl, by simp [worldStep, launchStep, hl]⟩
  | awaiting r => exact .inr ⟨.awaitHolderExit false, rfl, by simp [worldStep, launchStep, hl]⟩
  | registering r => exact .inr ⟨.register false, rfl, by simp [worldStep, launchStep, hl]⟩
  | ended r => exact .inl ⟨r, rfl⟩

/-! ### The answer of the gate -/

lemma World.Answers.step {h i : ℕ} {o : Outcome} (ho : s.Answers h i o) (hs : Stepped s a s') :
    s'.Answers h i o := by
  obtain ⟨x, c, id, hx, hi, hc⟩ := ho
  have hset (k : ℕ) (y y' : Holder) (b : Pick) (hy : s.holders[k]? = some y)
      (hs : Instance.step y b = some y') :
      ∃ x' c' id', (s.holders.set k y')[h]? = some x' ∧ x'.takes[i]? = some c' ∧
        c'.phase = .returned id' o := by
    by_cases hk : k = h
    · subst hk
      cases hx.symm.trans hy
      rw [List.getElem?_set_self (List.getElem?_eq_some_iff.1 hx).1]
      exact ⟨y', c, id, rfl, step_keeps hs hi hc, hc⟩
    · rw [List.getElem?_set_ne hk]
      exact ⟨x, c, id, hx, hi, hc⟩
  cases hs with
  | started =>
    refine ⟨x, c, id, ?_, hi, hc⟩
    rw [List.getElem?_append_left (List.getElem?_eq_some_iff.1 hx).1]
    exact hx
  | holder k b y y' hy hs => exact hset k y y' b hy hs
  | asked | askedAgain | ownsKey | redirect | lost | redirectEnds | readExiting
  | awaitHolderExit | register => exact ⟨x, c, id, hx, hi, hc⟩
  | reach r k y y' hl hy hs => exact hset k y y' _ hy hs

lemma World.Answers.unique {s : World} {h i : ℕ} {o o' : Outcome} (ho : s.Answers h i o)
    (ho' : s.Answers h i o') : o = o' := by
  obtain ⟨x, c, id, hx, hi, hc⟩ := ho
  obtain ⟨x', c', id', hx', hi', hc'⟩ := ho'
  cases hx.symm.trans hx'
  cases hi.symm.trans hi'
  exact (TakeAt.returned.inj (hc.symm.trans hc')).2

lemma exists_answers {s : World} {h i : ℕ} (hr : s.returned h i = true) : ∃ o, s.Answers h i o := by
  obtain ⟨x, hx, hr⟩ := (Option.any_eq_true _ _).1 hr
  obtain ⟨c, hc, hr⟩ := (Option.any_eq_true _ _).1 hr
  split at hr
  next id o hp => exact ⟨o, x, c, id, hx, hc, hp⟩
  next => exact absurd hr (by simp)

/-- Every instance is in a state its own threads can reach. -/
def World.HoldersOk (s : World) : Prop :=
  ∀ (h : ℕ) (x : Holder), s.holders[h]? = some x → HolderOk x

lemma World.HoldersOk.step (h : s.HoldersOk) (hs : Stepped s a s') : s'.HoldersOk := by
  have hset (k : ℕ) (y y' : Holder) (b : Pick) (hy : s.holders[k]? = some y)
      (hs : Instance.step y b = some y') (j : ℕ) (x : Holder)
      (hx : (s.holders.set k y')[j]? = some x) : HolderOk x := by
    by_cases hk : k = j
    · subst hk
      rw [List.getElem?_set_self (List.getElem?_eq_some_iff.1 hy).1] at hx
      cases hx
      exact ((h k y hy).step hs).2
    · rw [List.getElem?_set_ne hk] at hx
      exact h j x hx
  cases hs with
  | started =>
    intro j x hx
    have hx : (s.holders ++ [({} : Holder)])[j]? = some x := hx
    rcases Nat.lt_or_ge j s.holders.length with hlt | hge
    · rw [List.getElem?_append_left hlt] at hx
      exact h j x hx
    · rw [List.getElem?_append_right hge] at hx
      obtain rfl := List.mem_singleton.1 (List.mem_of_getElem? hx)
      exact HolderOk.init
  | holder k b y y' hy hs => exact hset k y y' b hy hs
  | asked => exact h
  | askedAgain => exact h
  | ownsKey => exact h
  | redirect => exact h
  | reach r k y y' hl hy hs => exact hset k y y' _ hy hs
  | lost => exact h
  | redirectEnds => exact h
  | readExiting => exact h
  | awaitHolderExit => exact h
  | register => exact h

lemma World.HoldersOk.exitingAt {s : World} (h : s.HoldersOk) {k i : ℕ}
    (hr : s.Answers k i .refused) : s.exitingAt k = true := by
  obtain ⟨x, c, id, hx, hi, hc⟩ := hr
  have hok := h k x hx
  have htake := hok.takes i c hi
  unfold TakeOk at htake
  rw [hc] at htake
  unfold World.exitingAt
  rw [hx, Option.any_some]
  apply hok.signal
  cases id with
  | none => exact htake.2
  | some id => exact htake.2.2

/-- What the launch knows of the `Take` its redirect became. -/
structure TargetOk (s : World) : Prop where
  taking : ∀ r h i, s.launch = .taking r h i → s.target = some (h, i)
  reading : ∀ r h, s.launch = .reading r h .taken → ∃ i o, s.target = some (h, i) ∧
    s.Answers h i o
  handedOver : s.launch = .ended .handedOver → ∃ h i o, s.target = some (h, i) ∧
    s.Answers h i o ∧ o ≠ .refused

lemma TargetOk.of_ne {s : World} (ht : ∀ r h i, s.launch ≠ .taking r h i)
    (hr : ∀ r h, s.launch ≠ .reading r h .taken) (he : s.launch ≠ .ended .handedOver) :
    TargetOk s :=
  ⟨fun r h i hl => absurd hl (ht r h i), fun r h hl => absurd hl (hr r h), fun hl => absurd hl he⟩

lemma TargetOk.of_eq (h : TargetOk s) (hs : Stepped s a s') (hlaunch : s'.launch = s.launch)
    (htarget : s'.target = s.target) : TargetOk s' := by
  constructor
  · rw [hlaunch, htarget]
    exact h.taking
  · intro r k hl
    rw [hlaunch] at hl
    obtain ⟨i, o, ht, ho⟩ := h.reading r k hl
    exact ⟨i, o, htarget.trans ht, ho.step hs⟩
  · intro hl
    rw [hlaunch] at hl
    obtain ⟨k, i, o, ht, ho, hne⟩ := h.handedOver hl
    exact ⟨k, i, o, htarget.trans ht, ho.step hs, hne⟩

lemma TargetOk.step (h : TargetOk s) (hok : s.HoldersOk) (hs : Stepped s a s') : TargetOk s' := by
  cases hs with
  | started => exact h.of_eq .started rfl rfl
  | holder k b x x' hx hs => exact h.of_eq (.holder k b x x' hx hs) rfl rfl
  | asked answer r hl | askedAgain answer r hl | awaitHolderExit answer r hl
  | register answer r hl => cases answer <;> exact .of_ne (by simp) (by simp) (by simp)
  | ownsKey answer r hl =>
    cases answer
    · by_cases hr : r = kLaunchRounds <;> exact .of_ne (by simp [hr]) (by simp [hr]) (by simp [hr])
    · exact .of_ne (by simp) (by simp) (by simp)
  | redirect k r hl => exact .of_ne (by simp) (by simp) (by simp)
  | reach r k x x' hl hx hs =>
    constructor
    · intro r' k' i hl'
      obtain ⟨-, rfl, rfl⟩ := LaunchAt.taking.inj hl'
      rfl
    · intro r' k' hl'
      exact absurd hl' (by simp)
    · intro hl'
      exact absurd hl' (by simp)
  | lost result r k hl hr =>
    refine .of_ne (by simp) ?_ (by simp)
    intro r' k' hl'
    exact hr (LaunchAt.reading.inj hl').2.2
  | redirectEnds result r k i hl hr =>
    constructor
    · intro r' k' i' hl'
      exact absurd hl' (by simp)
    · intro r' k' hl'
      obtain ⟨-, rfl, htaken⟩ := LaunchAt.reading.inj hl'
      obtain ⟨o, ho⟩ := exists_answers (hr htaken)
      exact ⟨i, o, h.taking r k i hl, ho⟩
    · intro hl'
      exact absurd hl' (by simp)
  | readExiting gone r k result hl =>
    have hcases := LaunchAt.after_cases r ⟨result, s.exitingAt k || gone⟩
    constructor
    · intro r' k' i hl'
      rcases hcases with ⟨e, he⟩ | he | he <;> exact absurd (he.symm.trans hl') (by simp)
    · intro r' k' hl'
      rcases hcases with ⟨e, he⟩ | he | he <;> exact absurd (he.symm.trans hl') (by simp)
    · intro hl'
      obtain ⟨rfl, hexiting⟩ := LaunchAt.after_eq_handedOver hl'
      obtain ⟨hsignal, -⟩ := Bool.or_eq_false_iff.1 hexiting
      obtain ⟨i, o, ht, ho⟩ := h.reading r k hl
      refine ⟨k, i, o, ht, ho, ?_⟩
      -- a refusal would have come after the signal
      rintro rfl
      rw [hok.exitingAt ho] at hsignal
      exact Bool.noConfusion hsignal

/-! ### The answers of the launcher -/

lemma Stepped.of_ended {r : LaunchResult} (hs : Stepped s a s') (hl : s.launch = .ended r) :
    s'.launch = .ended r ∧ a.ofLaunch = false := by
  cases hs with
  | started | holder => exact ⟨hl, rfl⟩
  | asked answer r' hl' | askedAgain answer r' hl' | ownsKey answer r' hl'
  | redirect h r' hl' | reach r' h x x' hl' | lost result r' h hl'
  | redirectEnds result r' h i hl' | readExiting gone r' h result hl'
  | awaitHolderExit answer r' hl' | register answer r' hl' =>
    exact absurd (hl.symm.trans hl') (by simp)

lemma Label.acts_of_not_ofLaunch (ha : a.ofLaunch = false) :
    a.acts = false ∧ a.updating? = none ∧ a.owns? = none := by
  cases a <;> first | exact ⟨rfl, rfl, rfl⟩ | exact absurd ha (by simp [Label.ofLaunch])

/-- What the launch was told last. -/
structure AnswersOk (es : List (Transition World Label)) (s : World) : Prop where
  owning : ∀ r, s.launch = .owning r → (es.filterMap (·.label.updating?)).getLast? = some false
  holder : s.launch = .ended .holder →
    (es.filterMap (·.label.updating?)).getLast? = some false ∧
      (es.filterMap (·.label.owns?)).getLast? = some true
  updating : ∀ es₁ t es₂, es = es₁ ++ t :: es₂ → t.label = .updateInProgress true →
    s.launch = .ended .updating ∧ ∀ e ∈ es₂, e.label.acts = false

lemma filterMap_snoc {β : Type*} (f : Label → Option β) (es : List (Transition World Label))
    (e : Transition World Label) (hf : f e.label = none) :
    ((es ++ [e]).filterMap fun t => f t.label) = es.filterMap fun t => f t.label := by
  rw [List.filterMap_append]
  simp [hf]

lemma getLast?_filterMap_snoc {β : Type*} (f : Label → Option β)
    (es : List (Transition World Label)) (e : Transition World Label) {b : β}
    (hf : f e.label = some b) : ((es ++ [e]).filterMap fun t => f t.label).getLast? = some b := by
  rw [List.filterMap_append]
  simp [hf]

lemma AnswersOk.step {es : List (Transition World Label)} (h : AnswersOk es s)
    (hs : Stepped s a s') : AnswersOk (es ++ [⟨s, a, s'⟩]) s' := by
  constructor
  · intro r hl'
    cases hs with
    | started | holder =>
      rw [filterMap_snoc Label.updating? es _ rfl]
      exact h.owning r hl'
    | asked answer r' hl =>
      cases answer with
      | false => exact getLast?_filterMap_snoc Label.updating? es _ rfl
      | true => exact absurd hl' (by simp)
    | askedAgain answer r' hl | awaitHolderExit answer r' hl | register answer r' hl =>
      cases answer <;> exact absurd hl' (by simp)
    | ownsKey answer r' hl =>
      cases answer
      · by_cases hr : r' = kLaunchRounds <;> exact absurd hl' (by simp [hr])
      · exact absurd hl' (by simp)
    | redirect k r' hl | reach r' k x x' hl | lost result r' k hl
    | redirectEnds result r' k i hl => exact absurd hl' (by simp)
    | readExiting gone r' k result hl =>
      rcases LaunchAt.after_cases r' ⟨result, s.exitingAt k || gone⟩ with ⟨e, he⟩ | he | he <;>
        exact absurd (he.symm.trans hl') (by simp)
  · intro hl'
    cases hs with
    | started | holder =>
      rw [filterMap_snoc Label.updating? es _ rfl, filterMap_snoc Label.owns? es _ rfl]
      exact h.holder hl'
    | asked answer r' hl | askedAgain answer r' hl | awaitHolderExit answer r' hl
    | register answer r' hl => cases answer <;> exact absurd hl' (by simp)
    | ownsKey answer r' hl =>
      cases answer with
      | true =>
        rw [filterMap_snoc Label.updating? es _ rfl]
        exact ⟨h.owning r' hl, getLast?_filterMap_snoc Label.owns? es _ rfl⟩
      | false => by_cases hr : r' = kLaunchRounds <;> exact absurd hl' (by simp [hr])
    | redirect k r' hl | reach r' k x x' hl | lost result r' k hl
    | redirectEnds result r' k i hl => exact absurd hl' (by simp)
    | readExiting gone r' k result hl => exact absurd hl' LaunchAt.after_ne_holder
  · intro es₁ t es₂ hes ht
    rcases eq_or_mem_of_snoc hes with ⟨rfl, -, rfl⟩ | ⟨mid, rfl, hes'⟩
    · refine ⟨?_, by simp⟩
      obtain rfl : a = .updateInProgress true := ht
      cases hs with
      | asked r hl => rfl
      | askedAgain r hl => rfl
    · obtain ⟨hl, hquiet⟩ := h.updating es₁ t mid hes' ht
      obtain ⟨hl', ha⟩ := hs.of_ended hl
      refine ⟨hl', ?_⟩
      intro e he
      rcases List.mem_append.1 he with he | he
      · exact hquiet e he
      · obtain rfl := List.mem_singleton.1 he
        exact (Label.acts_of_not_ofLaunch ha).1

/-! ### Every run -/

structure Joined (es : List (Transition World Label)) (s : World) : Prop where
  holders : s.HoldersOk
  round : s.launch.RoundOk (es.countP (·.label.redirects))
  left : es.countP (·.label.ofLaunch) + s.launch.left ≤ (LaunchAt.asking 0).left
  target : TargetOk s
  answers : AnswersOk es s

lemma Joined.of_run {es : List (Transition World Label)} {s : World} (h : World.Runs es s) :
    Joined es s := by
  apply h.invariant
  · rintro s ⟨request, rfl⟩
    constructor
    · intro k x hx
      exact absurd hx (by simp)
    · simp [LaunchAt.RoundOk]
    · simp
    · exact .of_ne (by simp) (by simp) (by simp)
    · constructor <;> simp
  · rintro es s a s' hjoined ⟨hs, -⟩
    have hs := stepped_of_worldStep hs
    obtain ⟨hround, hleft⟩ := hjoined.round.step hs
    constructor
    · exact hjoined.holders.step hs
    · rw [List.countP_append, List.countP_singleton]
      exact hround
    · have hprev := hjoined.left
      rw [List.countP_append, List.countP_singleton]
      show _ + (if a.ofLaunch = true then 1 else 0) + _ ≤ _
      omega
    · exact hjoined.target.step hjoined.holders hs
    · exact hjoined.answers.step hs

lemma LaunchAt.RoundOk.le {l : LaunchAt} {n : ℕ} (h : l.RoundOk n) : n ≤ kLaunchRounds := by
  cases l <;> simp only [RoundOk] at h <;> omega

theorem launch_agrees (es : List (Transition World Label)) (s : World) (h : World.Runs es s) :
    Agreed es s := by
  have hjoined := Joined.of_run h
  constructor
  · exact hjoined.round.le
  · exact ⟨hjoined.left, exists_step s⟩
  · intro k i ht hr hl
    obtain ⟨k', i', o, ht', ho, hne⟩ := hjoined.target.handedOver hl
    obtain ⟨rfl, rfl⟩ := Prod.mk.inj (Option.some.inj (ht.symm.trans ht'))
    exact hne (ho.unique hr)
  · intro hl
    obtain ⟨k, i, o, ht, ho, hne⟩ := hjoined.target.handedOver hl
    refine ⟨k, i, ht, ?_⟩
    cases o with
    | served => exact .inl ho
    | refused => exact absurd rfl hne
    | undecided => exact .inr ho
  · exact hjoined.answers.holder
  · intro es₁ t es₂ hes ht
    exact (hjoined.answers.updating es₁ t es₂ hes ht).2

/-- The launch is refused by an instance that exits, and is served by the next one. -/
def secondHolderLabels : List Label :=
  [.started, .updateInProgress false, .ownsKey false, .redirect 0, .reach, .holder 0 .close,
    .holder 0 (.closeStep 0), .holder 0 (.closeStep 0), .holder 0 (.takeStep 0 false),
    .redirectEnds .taken, .readExiting false, .updateInProgress false, .awaitHolderExit true,
    .register true, .started, .updateInProgress false, .ownsKey false, .redirect 1, .reach,
    .holder 1 (.takeStep 0 false), .holder 1 .openGate, .holder 1 (.takeStep 0 false),
    .redirectEnds .taken, .readExiting false]

theorem launch_agrees_second : ∃ es s, World.Runs es s ∧
    (s.launch = .ended .handedOver ∧ s.target = some (1, 0)) ∧ Agreed es s := by
  have hrun : ∃ es s, World.Runs es s ∧
      decide (s.launch = .ended .handedOver ∧ s.target = some (1, 0)) = true :=
    Run.exists_of_execute worldStep (fun _ _ => true) (fun _ _ _ _ _ hs => ⟨hs, trivial⟩)
      ⟨{}, rfl⟩ secondHolderLabels _ (by decide +kernel)
  obtain ⟨es, s, h, hgood⟩ := hrun
  exact ⟨es, s, h, of_decide_eq_true hgood, launch_agrees es s h⟩

end UrnetworkWindows.Instance.Handover
