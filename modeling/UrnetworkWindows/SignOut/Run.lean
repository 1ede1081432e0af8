/-
A sign-out on a thread of its own, and the sign-ins it orders after it (`SignOutRun.h`).

Every call holds `stateLock_` from its first access to its last, so it is one step.  The
callers are part of the state: what each sign-in attempt read of the epoch when it began,
and how many tails have still to call `Finish`, one for each `Begin` that returned true.

The invariant (`RunOk`) finds the running sign-out, the attempts that began after it and
the sign-ins accepted since it began in the history; `sign_out_and_sign_ins_apart` reads
the results off.
-/
import UrnetworkWindows.Lib.Trace

namespace UrnetworkWindows.SignOut

open Lib

/-! ### The run -/

/-- `SignOutRun`. -/
structure SignOutRun (SignIn : Type*) where
  running : Bool := false
  epoch : ℕ := 0
  deferred : Option SignIn := none
deriving DecidableEq, Repr

namespace SignOutRun

variable {SignIn : Type*}

/-- `SignOutRun::Begin`. -/
def begin (r : SignOutRun SignIn) : Bool × SignOutRun SignIn :=
  if r.running then (false, r)
  else (true, { r with running := true, epoch := r.epoch + 1 })

/-- `SignOutRun::Finish`. -/
def finish (r : SignOutRun SignIn) : Option SignIn × SignOutRun SignIn :=
  (r.deferred, { r with running := false, deferred := none })

/-- `SignOutRun::Defer`, with the one it replaced. -/
def defer (r : SignOutRun SignIn) (signIn : SignIn) (epoch : ℕ) :
    Bool × Option SignIn × SignOutRun SignIn :=
  if epoch ≠ r.epoch then (false, none, r)
  else if !r.running then (false, none, r)
  else (true, r.deferred, { r with deferred := some signIn })

/-- `SignOutRun::ApplyIfCurrent`: whether `apply` runs. -/
def applyIfCurrent (r : SignOutRun SignIn) (epoch : ℕ) : Bool := decide (epoch = r.epoch)

end SignOutRun

/-! ### The callers -/

/-- The run and its callers: what each attempt read of the epoch, and the tails that have
still to finish. -/
structure Callers (SignIn : Type*) where
  run : SignOutRun SignIn := {}
  attempts : List ℕ := []
  tails : ℕ := 0
deriving DecidableEq, Repr

/-- A call: `Begin`, a tail's `Finish`, an attempt that begins and reads `Epoch`, and an
attempt's `Defer` or `ApplyIfCurrent`. -/
inductive Call (SignIn : Type*)
  | begin
  | finish
  | epoch
  | defer (attempt : ℕ) (signIn : SignIn)
  | applyIfCurrent (attempt : ℕ)
deriving DecidableEq, Repr

section

variable {SignIn : Type*}

/-- One call. -/
def called (c : Callers SignIn) : Call SignIn → Option (Callers SignIn)
  | .begin =>
    some { c with run := c.run.begin.2, tails := c.tails + if c.run.begin.1 then 1 else 0 }
  | .finish =>
    if c.tails = 0 then none else some { c with run := c.run.finish.2, tails := c.tails - 1 }
  | .epoch => some { c with attempts := c.attempts ++ [c.run.epoch] }
  | .defer attempt signIn => (c.attempts[attempt]?).map fun epoch =>
    { c with run := (c.run.defer signIn epoch).2.2 }
  | .applyIfCurrent attempt => (c.attempts[attempt]?).map fun _ => c

/-- The runs. -/
abbrev Callers.Runs : List (Transition (Callers SignIn) (Call SignIn)) → Callers SignIn → Prop :=
  Run (· = {}) fun _ c call c' => called c call = some c'

/-- A `Begin` that returned true. -/
def began (t : Transition (Callers SignIn) (Call SignIn)) : Bool :=
  match t.label with
  | .begin => t.pre.run.begin.1
  | _ => false

/-- A `Finish`. -/
def finished (t : Transition (Callers SignIn) (Call SignIn)) : Bool :=
  match t.label with
  | .finish => true
  | _ => false

/-- The attempt begins, and reads the epoch. -/
def Reads (attempt : ℕ) (t : Transition (Callers SignIn) (Call SignIn)) : Prop :=
  t.label = .epoch ∧ t.pre.attempts.length = attempt

/-- The sign-in that a `Defer` accepted. -/
def accepted (t : Transition (Callers SignIn) (Call SignIn)) : Option SignIn :=
  match t.label with
  | .defer attempt signIn => (t.pre.attempts[attempt]?).bind fun epoch =>
    if (t.pre.run.defer signIn epoch).1 then some signIn else none
  | _ => none

/-- The sign-in handed out: the one that `Finish` returned, or that a `Defer` replaced. -/
def handedOut (t : Transition (Callers SignIn) (Call SignIn)) : Option SignIn :=
  match t.label with
  | .finish => t.pre.run.finish.1
  | .defer attempt signIn => (t.pre.attempts[attempt]?).bind fun epoch =>
    (t.pre.run.defer signIn epoch).2.1
  | _ => none

/-- The attempt's `ApplyIfCurrent` ran `apply`. -/
def Applies (attempt : ℕ) (t : Transition (Callers SignIn) (Call SignIn)) : Prop :=
  t.label = .applyIfCurrent attempt ∧
    ∃ epoch, t.pre.attempts[attempt]? = some epoch ∧ t.pre.run.applyIfCurrent epoch = true

/-- A sign-out runs, and this has happened since it began. -/
def Since (es since : List (Transition (Callers SignIn) (Call SignIn))) : Prop :=
  ∃ es₁ b, es = es₁ ++ b :: since ∧ began b = true ∧ ∀ t ∈ since, finished t = false

/-- A sign-out and the sign-ins of the other side of it. -/
structure Apart (es : List (Transition (Callers SignIn) (Call SignIn))) (c : Callers SignIn) :
    Prop where
  /-- At most one sign-out runs. -/
  one : es.countP began = es.countP finished + if c.run.running then 1 else 0
  alone : ∀ es₁ t es₂, es = es₁ ++ t :: es₂ → began t = true →
    es₁.countP began = es₁.countP finished
  /-- A sign-in waits only for a sign-out that began before its attempt. -/
  waits : ∀ es₁ t es₂ attempt signIn, es = es₁ ++ t :: es₂ → t.label = .defer attempt signIn →
    accepted t = some signIn → ∃ since, Since es₁ since ∧ ∃ u ∈ since, Reads attempt u
  /-- The accepted sign-ins, in order, are those handed out and the one that waits. -/
  handed : es.filterMap accepted = es.filterMap handedOut ++ c.run.deferred.toList
  idle : c.run.running = false → c.run.deferred = none
  /-- What is handed out is the last one accepted since the sign-out began. -/
  last : ∀ es₁ t es₂, es = es₁ ++ t :: es₂ → finished t = true ∨ (accepted t).isSome = true →
    ∃ since, Since es₁ since ∧ handedOut t = (since.filterMap accepted).getLast?
  /-- `apply` runs only where no sign-out has begun since the attempt. -/
  current : ∀ es₁ t es₂ attempt, es = es₁ ++ t :: es₂ → Applies attempt t →
    ∃ es₀ u mid, es₁ = es₀ ++ u :: mid ∧ Reads attempt u ∧ ∀ v ∈ mid, began v = false

/-! ### The invariant -/

/-- The state of the run and its callers, found in the history. -/
structure RunOk (es : List (Transition (Callers SignIn) (Call SignIn))) (c : Callers SignIn) :
    Prop where
  tails : c.tails = if c.run.running then 1 else 0
  counted : es.countP began = es.countP finished + c.tails
  idle : c.run.running = false → c.run.deferred = none
  read : ∀ attempt epoch, c.attempts[attempt]? = some epoch →
    ∃ es₀ u mid, es = es₀ ++ u :: mid ∧ Reads attempt u ∧ c.run.epoch = epoch + mid.countP began
  handed : es.filterMap accepted = es.filterMap handedOut ++ c.run.deferred.toList
  since : c.run.running = true → ∃ since, Since es since ∧
    c.run.deferred = (since.filterMap accepted).getLast? ∧
      ∀ attempt, c.attempts[attempt]? = some c.run.epoch → ∃ u ∈ since, Reads attempt u

variable {t : Transition (Callers SignIn) (Call SignIn)}

lemma Since.snoc {es since : List (Transition (Callers SignIn) (Call SignIn))}
    (h : Since es since) (ht : finished t = false) : Since (es ++ [t]) (since ++ [t]) := by
  obtain ⟨es₁, b, rfl, hb, hsince⟩ := h
  refine ⟨es₁, b, by simp, hb, ?_⟩
  exact List.forall_mem_append.2 ⟨hsince, List.forall_mem_singleton.2 ht⟩

lemma SignOutRun.defer_cases (r : SignOutRun SignIn) (signIn : SignIn) (epoch : ℕ) :
    r.defer signIn epoch = (false, none, r) ∨
      (epoch = r.epoch ∧ r.running = true ∧
        r.defer signIn epoch = (true, r.deferred, { r with deferred := some signIn })) := by
  unfold SignOutRun.defer
  split_ifs with hepoch hrunning
  · exact .inl rfl
  · exact .inl rfl
  · exact .inr ⟨not_ne_iff.1 hepoch, by simpa using hrunning, rfl⟩

namespace RunOk

variable {es : List (Transition (Callers SignIn) (Call SignIn))} {c c' : Callers SignIn}
  {call : Call SignIn}

lemma read_snoc (h : RunOk es c) (hepoch : c'.run.epoch = c.run.epoch)
    (hbegan : began ⟨c, call, c'⟩ = false)
    (hattempts : ∀ attempt epoch, c'.attempts[attempt]? = some epoch →
      c.attempts[attempt]? = some epoch ∨ Reads attempt ⟨c, call, c'⟩ ∧ epoch = c.run.epoch) :
    ∀ attempt epoch, c'.attempts[attempt]? = some epoch →
      ∃ es₀ u mid, es ++ [⟨c, call, c'⟩] = es₀ ++ u :: mid ∧ Reads attempt u ∧
        c'.run.epoch = epoch + mid.countP began := by
  intro attempt epoch hattempt
  rcases hattempts attempt epoch hattempt with hold | ⟨hreads, rfl⟩
  · obtain ⟨es₀, u, mid, rfl, hu, hcount⟩ := h.read attempt epoch hold
    refine ⟨es₀, u, mid ++ [⟨c, call, c'⟩], by simp, hu, ?_⟩
    rw [hepoch, hcount, List.countP_append, List.countP_singleton, hbegan]
    simp
  · exact ⟨es, _, [], rfl, hreads, by simpa using hepoch⟩

lemma quiet (h : RunOk es c) (hrun : c'.run = c.run) (htails : c'.tails = c.tails)
    (hbegan : began ⟨c, call, c'⟩ = false) (hfinished : finished ⟨c, call, c'⟩ = false)
    (haccepted : accepted ⟨c, call, c'⟩ = none) (hhanded : handedOut ⟨c, call, c'⟩ = none)
    (hattempts : ∀ attempt epoch, c'.attempts[attempt]? = some epoch →
      c.attempts[attempt]? = some epoch ∨ Reads attempt ⟨c, call, c'⟩ ∧ epoch = c.run.epoch) :
    RunOk (es ++ [⟨c, call, c'⟩]) c' where
  tails := by
    rw [htails, hrun]
    exact h.tails
  counted := by
    rw [List.countP_append, List.countP_append, List.countP_singleton, List.countP_singleton,
      hbegan, hfinished, htails]
    simpa using h.counted
  idle := by
    rw [hrun]
    exact h.idle
  read := h.read_snoc (by rw [hrun]) hbegan hattempts
  handed := by
    rw [filterMap_concat, filterMap_concat, hrun, h.handed, haccepted, hhanded]
    simp
  since := by
    intro hrunning
    rw [hrun] at hrunning ⊢
    obtain ⟨since, hsince, hdeferred, hreads⟩ := h.since hrunning
    refine ⟨since ++ [⟨c, call, c'⟩], hsince.snoc hfinished, ?_, ?_⟩
    · rw [filterMap_concat, hdeferred, haccepted, Option.toList_none, List.append_nil]
    · intro attempt hattempt
      rcases hattempts attempt _ hattempt with hold | ⟨hnew, -⟩
      · obtain ⟨u, hu, hread⟩ := hreads attempt hold
        exact ⟨u, List.mem_append_left _ hu, hread⟩
      · exact ⟨_, List.mem_concat_self, hnew⟩

lemma begin (h : RunOk es c) (hs : called c .begin = some c') :
    RunOk (es ++ [⟨c, .begin, c'⟩]) c' := by
  cases hs
  cases hrunning : c.run.running with
  | true =>
    have hbegin : c.run.begin = (false, c.run) := if_pos hrunning
    refine h.quiet ?_ ?_ ?_ rfl rfl rfl fun _ _ hat => .inl hat
    · exact congrArg Prod.snd hbegin
    · simp [hbegin]
    · exact congrArg Prod.fst hbegin
  | false =>
    have hbegin : c.run.begin = (true, { c.run with running := true, epoch := c.run.epoch + 1 }) :=
      if_neg (by simp [hrunning])
    have hbegan : ∀ c'', began ⟨c, .begin, c''⟩ = true := fun _ => congrArg Prod.fst hbegin
    have htails : c.tails = 0 := by simpa [hrunning] using h.tails
    simp only [hbegin]
    constructor
    case tails => simp [htails]
    case counted =>
      have hcounted := h.counted
      rw [List.countP_append, List.countP_append, List.countP_singleton, List.countP_singleton,
        hbegan, finished]
      simp only [if_true, Bool.false_eq_true, if_false]
      omega
    case idle => exact nofun
    case read =>
      intro attempt epoch hattempt
      obtain ⟨es₀, u, mid, rfl, hu, hcount⟩ := h.read attempt epoch hattempt
      refine ⟨es₀, u, mid ++ [_], List.append_assoc .., hu, ?_⟩
      rw [List.countP_append, List.countP_singleton, hbegan]
      simp only [if_true]
      omega
    case handed =>
      rw [filterMap_concat, filterMap_concat, h.handed]
      simp [accepted, handedOut]
    case since =>
      intro _
      refine ⟨[], ⟨es, _, rfl, hbegan _, nofun⟩, h.idle hrunning, ?_⟩
      -- an attempt that has read the epoch read an older one
      intro attempt hattempt
      obtain ⟨es₀, u, mid, -, -, hcount⟩ := h.read attempt _ hattempt
      simp only at hcount
      omega

lemma finish (h : RunOk es c) (hs : called c .finish = some c') :
    RunOk (es ++ [⟨c, .finish, c'⟩]) c' := by
  obtain ⟨htails, rfl⟩ := stop_eq_some.1 hs
  have hone : c.tails = 1 := by
    have := h.tails
    split at this <;> omega
  constructor
  case tails => simp [hone, SignOutRun.finish]
  case counted =>
    have hcounted := h.counted
    rw [List.countP_append, List.countP_append, List.countP_singleton, List.countP_singleton]
    simp only [began, finished, if_true]
    simp only [Bool.false_eq_true, if_false]
    omega
  case idle => exact fun _ => rfl
  case read => exact h.read_snoc rfl rfl fun _ _ hat => .inl hat
  case handed =>
    rw [filterMap_concat, filterMap_concat, h.handed]
    simp [accepted, handedOut, SignOutRun.finish]
  case since => exact nofun

lemma defer (h : RunOk es c) {attempt : ℕ} {signIn : SignIn}
    (hs : called c (.defer attempt signIn) = some c') :
    RunOk (es ++ [⟨c, .defer attempt signIn, c'⟩]) c' := by
  obtain ⟨epoch, hepoch, rfl⟩ := Option.map_eq_some_iff.1 hs
  have haccepted : ∀ c'', accepted ⟨c, .defer attempt signIn, c''⟩ =
      if (c.run.defer signIn epoch).1 then some signIn else none := by
    intro c''
    simp [accepted, hepoch]
  have hhanded : ∀ c'', handedOut ⟨c, .defer attempt signIn, c''⟩ =
      (c.run.defer signIn epoch).2.1 := by
    intro c''
    simp [handedOut, hepoch]
  rcases c.run.defer_cases signIn epoch with hdefer | ⟨rfl, hrunning, hdefer⟩
  · rw [hdefer] at haccepted hhanded ⊢
    exact h.quiet rfl rfl rfl rfl (haccepted _) (hhanded _) fun _ _ hat => .inl hat
  · rw [hdefer] at haccepted hhanded ⊢
    constructor
    case tails => exact h.tails
    case counted =>
      rw [List.countP_append, List.countP_append]
      simpa [began, finished] using h.counted
    case idle => exact fun hidle => absurd (hidle.symm.trans hrunning) nofun
    case read => exact h.read_snoc rfl rfl fun _ _ hat => .inl hat
    case handed =>
      rw [filterMap_concat, filterMap_concat, h.handed, haccepted, hhanded]
      rfl
    case since =>
      intro _
      obtain ⟨since, hsince, -, hreads⟩ := h.since hrunning
      refine ⟨since ++ [_], hsince.snoc rfl, ?_, ?_⟩
      · rw [filterMap_concat, haccepted]
        simp
      · intro attempt' hattempt
        obtain ⟨u, hu, hread⟩ := hreads attempt' hattempt
        exact ⟨u, List.mem_append_left _ hu, hread⟩

lemma step (h : RunOk es c) (hs : called c call = some c') : RunOk (es ++ [⟨c, call, c'⟩]) c' := by
  cases call with
  | begin => exact h.begin hs
  | finish => exact h.finish hs
  | defer attempt signIn => exact h.defer hs
  | applyIfCurrent attempt =>
    obtain ⟨epoch, -, rfl⟩ := Option.map_eq_some_iff.1 hs
    exact h.quiet rfl rfl rfl rfl rfl rfl fun _ _ hat => .inl hat
  | epoch =>
    cases hs
    refine h.quiet rfl rfl rfl rfl rfl rfl ?_
    intro attempt epoch hattempt
    rcases getElem?_snoc_cases hattempt with hold | ⟨rfl, rfl⟩
    · exact .inl hold
    · exact .inr ⟨⟨rfl, rfl⟩, rfl⟩

lemma of_run (h : Callers.Runs es c) : RunOk es c := by
  induction h with
  | nil h =>
    subst h
    exact ⟨rfl, rfl, fun _ => rfl, nofun, rfl, nofun⟩
  | snoc _ hs ih => exact ih.step hs

end RunOk

lemma exists_of_accepted {signIn : SignIn} (h : accepted t = some signIn) :
    ∃ attempt, t.label = .defer attempt signIn ∧ t.pre.attempts[attempt]? = some
    t.pre.run.epoch ∧ t.pre.run.running = true ∧ handedOut t = t.pre.run.deferred := by
  unfold accepted at h
  split at h
  next attempt signIn' hlabel =>
    obtain ⟨epoch, hepoch, h⟩ := Option.bind_eq_some_iff.1 h
    obtain ⟨hdefer, h⟩ := Option.ite_none_right_eq_some.1 h
    obtain rfl := Option.some.inj h
    rcases t.pre.run.defer_cases signIn' epoch with hno | ⟨rfl, hrunning, hyes⟩
    · exact absurd (hdefer.symm.trans (congrArg Prod.fst hno)) nofun
    · refine ⟨attempt, hlabel, hepoch, hrunning, ?_⟩
      rw [handedOut, hlabel]
      simp [hepoch, hyes]
  next => cases h

lemma RunOk.handedOut_of_finished {es : List (Transition (Callers SignIn) (Call SignIn))}
    (h : RunOk es t.pre) (hs : called t.pre t.label = some t.post) (hfinished : finished t = true) :
    t.pre.run.running = true ∧ handedOut t = t.pre.run.deferred := by
  unfold finished at hfinished
  split at hfinished
  next hlabel =>
    rw [hlabel] at hs
    obtain ⟨htails, -⟩ := Option.ite_none_left_eq_some.1 hs
    constructor
    · by_contra hidle
      exact htails (h.tails.trans (if_neg hidle))
    · rw [handedOut, hlabel]
      rfl
  next => cases hfinished

lemma idle_of_began (h : began t = true) : t.pre.run.running = false := by
  unfold began at h
  split at h
  next =>
    by_contra hrunning
    rw [SignOutRun.begin, if_pos (by simpa using hrunning)] at h
    cases h
  next => cases h

/-- **A sign-out never undoes, and is never undone by, a sign-in of the other side of it.** -/
theorem sign_out_and_sign_ins_apart {es : List (Transition (Callers SignIn) (Call SignIn))}
    {c : Callers SignIn} (h : Callers.Runs es c) : Apart es c where
  one := by
    have hok := RunOk.of_run h
    rw [hok.counted, hok.tails]
  alone := by
    intro es₁ t es₂ he hbegan
    have hok := RunOk.of_run (h.split he).1
    rw [hok.counted, hok.tails, idle_of_began hbegan]
    rfl
  waits := by
    intro es₁ t es₂ attempt signIn he hlabel haccepted
    obtain ⟨attempt', hlabel', hepoch, hrunning, -⟩ := exists_of_accepted haccepted
    obtain ⟨rfl, -⟩ := Call.defer.inj (hlabel.symm.trans hlabel')
    obtain ⟨since, hsince, -, hreads⟩ := (RunOk.of_run (h.split he).1).since hrunning
    exact ⟨since, hsince, hreads attempt hepoch⟩
  handed := (RunOk.of_run h).handed
  idle := (RunOk.of_run h).idle
  last := by
    intro es₁ t es₂ he ht
    obtain ⟨hrun, hstep⟩ := h.split he
    have hok := RunOk.of_run hrun
    have hboth : t.pre.run.running = true ∧ handedOut t = t.pre.run.deferred := by
      rcases ht with hfinished | haccepted
      · exact hok.handedOut_of_finished hstep hfinished
      · obtain ⟨signIn, haccepted⟩ := Option.isSome_iff_exists.1 haccepted
        obtain ⟨-, -, -, hrunning, hhanded⟩ := exists_of_accepted haccepted
        exact ⟨hrunning, hhanded⟩
    obtain ⟨since, hsince, hdeferred, -⟩ := hok.since hboth.1
    exact ⟨since, hsince, hboth.2.trans hdeferred⟩
  current := by
    rintro es₁ t es₂ attempt he ⟨-, epoch, hepoch, happly⟩
    obtain ⟨es₀, u, mid, rfl, hu, hcount⟩ := (RunOk.of_run (h.split he).1).read attempt epoch hepoch
    have heq : epoch = t.pre.run.epoch := of_decide_eq_true happly
    refine ⟨es₀, u, mid, rfl, hu, ?_⟩
    have hnone : mid.countP began = 0 := by omega
    intro v hv
    simpa using List.countP_eq_zero.1 hnone v hv

theorem sign_out_and_sign_ins_apart_replaced : ∃ (es : List (Transition (Callers ℕ) (Call ℕ)))
    (c : Callers ℕ), Apart es c ∧ es.filterMap handedOut = [7, 8] := by
  have h₀ : Callers.Runs [] ({} : Callers ℕ) := .nil rfl
  have h₁ := h₀.snoc (a := .begin) rfl
  have h₂ := h₁.snoc (a := .epoch) rfl
  have h₃ := h₂.snoc (a := .defer 0 7) rfl
  have h₄ := h₃.snoc (a := .defer 0 8) rfl
  have h₅ := h₄.snoc (a := .finish) rfl
  refine ⟨_, _, sign_out_and_sign_ins_apart h₅, ?_⟩
  decide

end

end UrnetworkWindows.SignOut
