/-
A worker thread that ends when there is nothing to do and is started again by the next
request.

One lock guards the work and two flags.  A request that finds no thread running joins the
old thread and starts a new one before it releases the lock; the thread looks for work
under the lock, and clears the flag there when it finds none, before it returns.  A stop
sets a flag under the lock and then joins the thread, outside it.

A step is one stretch of code under the lock, up to the join where a request waits with
the lock held, or one move of a thread outside it.  Requests come from any thread, the
jobs included.  What the work is, how a request adds to it, what a look takes of it and
what a stop leaves of it are parameters.
-/
import UrnetworkWindows.Lib.Trace

namespace UrnetworkWindows.Lib.Worker

/-- The work: how a request adds to it, what a look takes of it, given whether the worker
is stopped, and what a stop leaves. -/
structure Work (ρ ι ω : Type*) where
  put : ω → ρ → ω
  take : Bool → ω → Option (ι × ω)
  halt : ω → ω

/-- Where a thread is: about to look, in a job, past its last look, or returned. -/
inductive At (ι : Type*)
  | top
  | busy (job : ι)
  | leaving
  | done
deriving DecidableEq, Repr

/-- How far the stop is. -/
inductive Halt
  | no
  | joining
  | returned
deriving DecidableEq, Repr

/-- The worker.  `starting` says that a request holds the lock at the join; nothing else
holds it between two steps. -/
structure State (ι ω : Type*) where
  work : ω
  running : Bool := false
  stopped : Bool := false
  starting : Bool := false
  threads : List (At ι) := []
  halt : Halt := .no
deriving DecidableEq, Repr

/-- A request up to the join, the join and the start of a thread, the moves of a thread,
the stop under the lock, and the end of its join. -/
inductive Pick (ρ : Type*)
  | request (r : ρ)
  | start
  | look (thread : ℕ)
  | finish (thread : ℕ)
  | leave (thread : ℕ)
  | halt
  | halted
deriving DecidableEq, Repr

section

variable {ρ ι ω : Type*}

/-- The thread is in its loop: it may still take the lock. -/
def At.inLoop : At ι → Bool
  | .top => true
  | .busy _ => true
  | _ => false

/-- A join of the last thread returns at once. -/
def State.joined (s : State ι ω) : Bool :=
  match s.threads.getLast? with
  | none => true
  | some .done => true
  | _ => false

/-- One step. -/
def step (w : Work ρ ι ω) (s : State ι ω) : Pick ρ → Option (State ι ω)
  | .request r =>
    if s.starting then none
    else if s.stopped then some s
    else if s.running then some { s with work := w.put s.work r }
    else some { s with work := w.put s.work r, running := true, starting := true }
  | .start =>
    if s.starting ∧ s.joined then some { s with starting := false, threads := s.threads ++ [.top] }
    else none
  | .look thread =>
    if s.starting then none
    else
      match s.threads[thread]? with
      | some .top =>
        match w.take s.stopped s.work with
        | none => some { s with running := false, threads := s.threads.set thread .leaving }
        | some (job, work) =>
          some { s with work := work, threads := s.threads.set thread (.busy job) }
      | _ => none
  | .finish thread =>
    match s.threads[thread]? with
    | some (.busy _) => some { s with threads := s.threads.set thread .top }
    | _ => none
  | .leave thread =>
    match s.threads[thread]? with
    | some .leaving => some { s with threads := s.threads.set thread .done }
    | _ => none
  | .halt =>
    if s.starting ∨ s.halt ≠ .no then none
    else some { s with stopped := true, work := w.halt s.work, halt := .joining }
  | .halted => if s.halt = .joining ∧ s.joined then some { s with halt := .returned } else none

/-- The runs, from a worker with this work. -/
abbrev Runs (w : Work ρ ι ω) (work : ω) :
    List (Transition (State ι ω) (Pick ρ)) → State ι ω → Prop :=
  Run (· = { work }) fun _ s a s' => step w s a = some s'

/-- The request that was accepted. -/
def accepted (t : Transition (State ι ω) (Pick ρ)) : Option ρ :=
  match t.label with
  | .request r => if t.pre.stopped then none else some r
  | _ => none

/-- The job that was started. -/
def started (w : Work ρ ι ω) (t : Transition (State ι ω) (Pick ρ)) : Option ι :=
  match t.label with
  | .look _ => (w.take t.pre.stopped t.pre.work).map Prod.fst
  | _ => none

/-- A step of the worker's own: of its thread, or of the request that starts one. -/
def Pick.own : Pick ρ → Bool
  | .start => true
  | .look _ => true
  | .finish _ => true
  | .leave _ => true
  | _ => false

/-- What the worker needs of its work: a request gives something to do, and a stop leaves
nothing to do where there was nothing. -/
structure Work.Laws (w : Work ρ ι ω) : Prop where
  put : ∀ work r, (w.take false (w.put work r)).isSome = true
  halt : ∀ work, w.take false work = none → w.take true (w.halt work) = none

/-! ### The threads -/

/-- A thread that has not returned is the last one, where all the others have. -/
lemma exists_snoc {threads : List (At ι)} (hold : ∀ st ∈ threads.dropLast, st = .done) {k : ℕ}
    {st : At ι} (hk : threads[k]? = some st) (hst : st ≠ .done) :
    ∃ old, threads = old ++ [st] ∧ k = old.length ∧ ∀ st ∈ old, st = .done := by
  rcases List.eq_nil_or_concat threads with rfl | ⟨old, last, rfl⟩
  · exact absurd hk (by simp)
  · rw [List.concat_eq_append] at hold hk ⊢
    rw [List.dropLast_concat] at hold
    rcases getElem?_snoc_cases hk with hmem | ⟨rfl, rfl⟩
    · exact absurd (hold st (List.mem_of_getElem? hmem)) hst
    · exact ⟨old, rfl, rfl, hold⟩

/-- What holds of the worker between two steps. -/
structure Ok (w : Work ρ ι ω) (s : State ι ω) : Prop where
  old : ∀ st ∈ s.threads.dropLast, st = .done
  running : s.running = (s.starting || s.threads.getLast?.any At.inLoop)
  starting : s.starting = true → s.threads.getLast?.any At.inLoop = false ∧ s.stopped = false
  idle : s.running = false → w.take s.stopped s.work = none
  stopped : s.stopped = true ↔ s.halt ≠ .no
  returned : s.halt = .returned → s.joined = true

namespace Ok

variable {w : Work ρ ι ω} {s s' : State ι ω}

/-- A thread moves to another place of its loop, or on its way out of it. -/
lemma move (h : Ok w s) {old : List (At ι)} {st st' : At ι} (hthreads : s.threads = old ++ [st])
    (hst : st ≠ .done) (hold : ∀ st ∈ old, st = .done) {work : ω} {running : Bool}
    (hrunning : running = (s.starting || st'.inLoop))
    (hloop : st'.inLoop = true → st.inLoop = true)
    (hidle : running = false → w.take s.stopped work = none) :
    Ok w { s with work := work, running := running, threads := s.threads.set old.length st' } := by
  have hset : s.threads.set old.length st' = old ++ [st'] := by
    rw [hthreads]
    simp
  rw [hset]
  constructor
  case old => simpa using hold
  case running => simpa using hrunning
  case starting =>
    intro hstarting
    obtain ⟨hout, hstopped⟩ := h.starting hstarting
    rw [hthreads] at hout
    refine ⟨?_, hstopped⟩
    cases hin : st'.inLoop with
    | false => simpa using hin
    | true => exact absurd (hloop hin) (by simpa using hout)
  case idle => exact hidle
  case stopped => exact h.stopped
  case returned =>
    intro hreturned
    have hjoined := h.returned hreturned
    unfold State.joined at hjoined
    rw [hthreads, List.getLast?_concat] at hjoined
    cases st with
    | done => exact absurd rfl hst
    | _ => cases hjoined

lemma request (h : Ok w s) {r : ρ} (hs : step w s (.request r) = some s') : Ok w s' := by
  simp only [step] at hs
  split_ifs at hs with hstarting hstopped hrunning
  · cases hs
    exact h
  · cases hs
    exact ⟨h.old, h.running, h.starting, fun hidle => absurd (hidle.symm.trans hrunning) nofun,
      h.stopped, h.returned⟩
  · cases hs
    have hout := h.running
    simp only [Bool.not_eq_true] at hstarting hstopped hrunning
    rw [hrunning, hstarting, Bool.false_or] at hout
    exact ⟨h.old, rfl, fun _ => ⟨hout.symm, hstopped⟩, nofun, h.stopped, h.returned⟩

lemma start (h : Ok w s) (hs : step w s (.start : Pick ρ) = some s') : Ok w s' := by
  obtain ⟨⟨hstarting, hjoined⟩, rfl⟩ := guard_eq_some.1 hs
  obtain ⟨-, hstopped⟩ := h.starting hstarting
  have hrunning : s.running = true := by
    rw [h.running, hstarting, Bool.true_or]
  constructor
  case old =>
    rw [List.dropLast_concat]
    intro st hst
    rcases List.eq_nil_or_concat s.threads with hnil | ⟨old, last, hlast⟩
    · exact absurd (hnil ▸ hst) (by simp)
    · have hold := h.old
      unfold State.joined at hjoined
      rw [List.concat_eq_append] at hlast
      rw [hlast] at hold hst hjoined
      rw [List.dropLast_concat] at hold
      rw [List.getLast?_concat] at hjoined
      rcases List.mem_append.1 hst with hst | hst
      · exact hold st hst
      · obtain rfl := List.mem_singleton.1 hst
        cases st with
        | done => rfl
        | _ => cases hjoined
  case running => simpa [At.inLoop] using hrunning
  case starting => exact nofun
  case idle => exact fun hidle => absurd (hidle.symm.trans hrunning) nofun
  case stopped => exact h.stopped
  case returned =>
    intro hreturned
    have hyes := h.stopped.2 (by simp [show s.halt = .returned from hreturned])
    exact absurd (hstopped.symm.trans hyes) nofun

lemma look (h : Ok w s) {k : ℕ} (hs : step w s (.look k : Pick ρ) = some s') : Ok w s' := by
  simp only [step] at hs
  split_ifs at hs with hstarting
  rw [Bool.not_eq_true] at hstarting
  split at hs
  next hk =>
    obtain ⟨old, hthreads, rfl, hold⟩ := exists_snoc h.old hk nofun
    split at hs
    next htake =>
      cases hs
      exact h.move hthreads nofun hold (by simp [hstarting, At.inLoop]) nofun fun _ => htake
    next job work htake =>
      cases hs
      have hrunning : s.running = true := by
        rw [h.running, hthreads]
        simp [At.inLoop]
      refine h.move hthreads nofun hold ?_ (fun _ => rfl) ?_
      · simp [hrunning, At.inLoop]
      · exact fun hidle => absurd (hidle.symm.trans hrunning) nofun
  next => cases hs

lemma finish (h : Ok w s) {k : ℕ} (hs : step w s (.finish k : Pick ρ) = some s') : Ok w s' := by
  simp only [step] at hs
  split at hs
  next job hk =>
    cases hs
    obtain ⟨old, hthreads, rfl, hold⟩ := exists_snoc h.old hk nofun
    have hrunning : s.running = true := by
      rw [h.running, hthreads]
      simp [At.inLoop]
    refine h.move hthreads nofun hold ?_ (fun _ => rfl) h.idle
    simp [hrunning, At.inLoop]
  next => cases hs

lemma leave (h : Ok w s) {k : ℕ} (hs : step w s (.leave k : Pick ρ) = some s') : Ok w s' := by
  simp only [step] at hs
  split at hs
  next hk =>
    cases hs
    obtain ⟨old, hthreads, rfl, hold⟩ := exists_snoc h.old hk nofun
    refine h.move hthreads nofun hold ?_ nofun h.idle
    rw [h.running, hthreads]
    simp [At.inLoop]
  next => cases hs

lemma halt (hw : w.Laws) (h : Ok w s) (hs : step w s (.halt : Pick ρ) = some s') : Ok w s' := by
  obtain ⟨hfree, rfl⟩ := stop_eq_some.1 hs
  rw [not_or, not_not] at hfree
  have hstopped : s.stopped = false := by
    by_contra hyes
    exact h.stopped.1 (by simpa using hyes) hfree.2
  constructor
  case old => exact h.old
  case running => exact h.running
  case starting => exact fun hstarting => absurd hstarting hfree.1
  case idle =>
    intro hidle
    have hnone := h.idle hidle
    rw [hstopped] at hnone
    exact hw.halt _ hnone
  case stopped => simp
  case returned => exact nofun

lemma step (hw : w.Laws) (h : Ok w s) {a : Pick ρ} (hs : Worker.step w s a = some s') :
    Ok w s' := by
  cases a with
  | request r => exact h.request hs
  | start => exact h.start hs
  | look k => exact h.look hs
  | finish k => exact h.finish hs
  | leave k => exact h.leave hs
  | halt => exact h.halt hw hs
  | halted =>
    obtain ⟨⟨hjoining, hjoined⟩, rfl⟩ := guard_eq_some.1 hs
    refine ⟨h.old, h.running, h.starting, h.idle, ?_, fun _ => hjoined⟩
    exact iff_of_true (h.stopped.2 (by simp [hjoining])) nofun

lemma of_run (hw : w.Laws) {work : ω} (hidle : w.take false work = none)
    {es : List (Transition (State ι ω) (Pick ρ))} (h : Runs w work es s) : Ok w s := by
  induction h with
  | nil h =>
    subst h
    exact ⟨nofun, rfl, nofun, fun _ => hidle, by simp, nofun⟩
  | snoc _ hs ih => exact ih.step hw hs

end Ok

/-! ### One thread at a time -/

section OneThread

variable {w : Work ρ ι ω} {s s' : State ι ω}

/-- At most one thread has not returned. -/
lemma Ok.same (h : Ok w s) {k k' : ℕ} {st st' : At ι} (hk : s.threads[k]? = some st)
    (hst : st ≠ .done) (hk' : s.threads[k']? = some st') (hst' : st' ≠ .done) :
    k = k' ∧ st = st' := by
  obtain ⟨old, hthreads, rfl, -⟩ := exists_snoc h.old hk hst
  obtain ⟨old', hthreads', rfl, -⟩ := exists_snoc h.old hk' hst'
  have heq := hthreads.symm.trans hthreads'
  have hlast := congrArg List.getLast? heq
  rw [List.getLast?_concat, List.getLast?_concat] at hlast
  exact ⟨by simpa using congrArg List.length heq, Option.some.inj hlast⟩

/-- At most one job runs. -/
lemma Ok.one_job (h : Ok w s) {k k' : ℕ} {job job' : ι} (hk : s.threads[k]? = some (.busy job))
    (hk' : s.threads[k']? = some (.busy job')) : k = k' :=
  (h.same hk nofun hk' nofun).1

/-- A thread in its loop is the one the flag stands for. -/
lemma Ok.inLoop (h : Ok w s) {k : ℕ} {st : At ι} (hk : s.threads[k]? = some st)
    (hst : st.inLoop = true) : s.running = true ∧ s.starting = false := by
  obtain ⟨old, hthreads, rfl, -⟩ := exists_snoc h.old hk (by rintro rfl; exact absurd hst nofun)
  constructor
  · rw [h.running, hthreads]
    simp [hst]
  · by_contra hstarting
    obtain ⟨hout, -⟩ := h.starting (by simpa using hstarting)
    rw [hthreads] at hout
    simp [hst] at hout

/-- The flag stands for a thread in its loop, or for the one a request is starting. -/
lemma Ok.exists_inLoop (h : Ok w s) (hrunning : s.running = true) (hstarting : s.starting = false) :
    ∃ (k : ℕ) (st : At ι), s.threads[k]? = some st ∧ st.inLoop = true := by
  rw [h.running, hstarting, Bool.false_or] at hrunning
  obtain ⟨st, hlast, hst⟩ := (Option.any_eq_true _ _).1 hrunning
  rw [List.getLast?_eq_getElem?] at hlast
  exact ⟨_, st, hlast, hst⟩

lemma Ok.running_iff (h : Ok w s) : s.running = true ↔
    s.starting = true ∨ ∃ (k : ℕ) (st : At ι), s.threads[k]? = some st ∧ st.inLoop = true := by
  constructor
  · intro hrunning
    cases hstarting : s.starting with
    | true => exact .inl rfl
    | false => exact .inr (h.exists_inLoop hrunning hstarting)
  · rintro (hstarting | ⟨k, st, hk, hst⟩)
    · rw [h.running, hstarting, Bool.true_or]
    · exact (h.inLoop hk hst).1

/-- The join under the lock waits only for a thread that is past its last look. -/
lemma Ok.join_free (h : Ok w s) (hstarting : s.starting = true) {k : ℕ} {st : At ι}
    (hk : s.threads[k]? = some st) : st = .leaving ∨ st = .done := by
  cases st with
  | leaving => exact .inl rfl
  | done => exact .inr rfl
  | top | busy job => exact absurd ((h.inLoop hk rfl).2.symm.trans hstarting) nofun

/-- A job runs until it ends, and no other starts meanwhile. -/
lemma Ok.busy_step (h : Ok w s) {k : ℕ} {job : ι} (hk : s.threads[k]? = some (.busy job))
    {a : Pick ρ} (hs : Worker.step w s a = some s') (ha : ∀ k', a ≠ .finish k') :
    (∀ k', a ≠ .look k') ∧ s'.threads[k]? = some (.busy job) := by
  cases a with
  | request r =>
    simp only [Worker.step] at hs
    split_ifs at hs
    all_goals
      cases hs
      exact ⟨nofun, hk⟩
  | start =>
    obtain ⟨⟨hstarting, -⟩, -⟩ := Option.ite_none_right_eq_some.1 hs
    exact absurd ((h.inLoop hk rfl).2.symm.trans hstarting) nofun
  | look k' =>
    simp only [Worker.step] at hs
    split_ifs at hs
    split at hs
    next hk' => exact absurd (h.same hk nofun hk' nofun).2 nofun
    next => cases hs
  | finish k' => exact absurd rfl (ha k')
  | leave k' =>
    simp only [Worker.step] at hs
    split at hs
    next hk' => exact absurd (h.same hk nofun hk' nofun).2 nofun
    next => cases hs
  | halt =>
    obtain ⟨-, rfl⟩ := stop_eq_some.1 hs
    exact ⟨nofun, hk⟩
  | halted =>
    obtain ⟨-, rfl⟩ := guard_eq_some.1 hs
    exact ⟨nofun, hk⟩

/-- A look that finds work starts the job. -/
lemma busy_of_look {k : ℕ} (hs : step w s (.look k : Pick ρ) = some s') {job : ι} {work : ω}
    (htake : w.take s.stopped s.work = some (job, work)) :
    s'.threads[k]? = some (.busy job) := by
  simp only [step] at hs
  split_ifs at hs
  split at hs
  next hk =>
    rw [htake] at hs
    cases hs
    have hlt := (List.getElem?_eq_some_iff.1 hk).1
    exact List.getElem?_set_self hlt
  next => cases hs

/-- Once the stop has returned, every thread has. -/
lemma Ok.done_of_returned (h : Ok w s) (hreturned : s.halt = .returned) {k : ℕ} {st : At ι}
    (hk : s.threads[k]? = some st) : st = .done := by
  by_contra hst
  obtain ⟨old, hthreads, rfl, -⟩ := exists_snoc h.old hk hst
  have hjoined := h.returned hreturned
  unfold State.joined at hjoined
  rw [hthreads, List.getLast?_concat] at hjoined
  cases st with
  | done => exact hst rfl
  | _ => cases hjoined

lemma Ok.not_running_of_returned (h : Ok w s) (hreturned : s.halt = .returned) :
    s.running = false := by
  by_contra hrunning
  rcases h.running_iff.1 (by simpa using hrunning) with hstarting | ⟨k, st, hk, hst⟩
  · obtain ⟨-, hno⟩ := h.starting hstarting
    have hyes := h.stopped.2 (by simp [hreturned])
    exact absurd (hno.symm.trans hyes) nofun
  · rw [h.done_of_returned hreturned hk] at hst
    cases hst

end OneThread

/-! ### The work -/

/-- What one step does to the work: a request that is accepted adds to it, a look that
starts a job takes the job from it, a stop halts it, and nothing else changes it. -/
lemma step_cases {w : Work ρ ι ω} {s s' : State ι ω} {a : Pick ρ} (hs : step w s a = some s') :
    (∃ r, a = .request r ∧ accepted ⟨s, a, s'⟩ = some r ∧ started w ⟨s, a, s'⟩ = none ∧
      s'.work = w.put s.work r ∧ s'.stopped = s.stopped) ∨
    (∃ k job, a = .look k ∧ accepted ⟨s, a, s'⟩ = none ∧
      w.take s.stopped s.work = some (job, s'.work) ∧ s'.stopped = s.stopped) ∨
    (a = .halt ∧ accepted ⟨s, a, s'⟩ = none ∧ started w ⟨s, a, s'⟩ = none ∧
      s'.work = w.halt s.work ∧ s'.stopped = true) ∨
    (accepted ⟨s, a, s'⟩ = none ∧ started w ⟨s, a, s'⟩ = none ∧ a ≠ .halt ∧
      s'.work = s.work ∧ s'.stopped = s.stopped) := by
  cases a with
  | request r =>
    simp only [step] at hs
    split_ifs at hs with hstarting hstopped hrunning
    · cases hs
      exact .inr (.inr (.inr ⟨if_pos hstopped, rfl, nofun, rfl, rfl⟩))
    · cases hs
      exact .inl ⟨r, rfl, if_neg hstopped, rfl, rfl, rfl⟩
    · cases hs
      exact .inl ⟨r, rfl, if_neg hstopped, rfl, rfl, rfl⟩
  | look k =>
    simp only [step] at hs
    split_ifs at hs
    split at hs
    next =>
      split at hs
      next htake =>
        cases hs
        exact .inr (.inr (.inr ⟨rfl, congrArg (Option.map Prod.fst) htake, nofun, rfl, rfl⟩))
      next job rest htake =>
        cases hs
        exact .inr (.inl ⟨k, job, rfl, rfl, htake, rfl⟩)
    next => cases hs
  | halt =>
    obtain ⟨-, rfl⟩ := stop_eq_some.1 hs
    exact .inr (.inr (.inl ⟨rfl, rfl, rfl, rfl, rfl⟩))
  | start | halted =>
    obtain ⟨-, rfl⟩ := guard_eq_some.1 hs
    exact .inr (.inr (.inr ⟨rfl, rfl, nofun, rfl, rfl⟩))
  | finish k | leave k =>
    simp only [step] at hs
    split at hs
    next =>
      cases hs
      exact .inr (.inr (.inr ⟨rfl, rfl, nofun, rfl, rfl⟩))
    next => cases hs

/-! ### The stop -/

section Halting

variable {w : Work ρ ι ω} {work : ω} {es : List (Transition (State ι ω) (Pick ρ))}
  {s s' : State ι ω}

/-- The worker is stopped once a stop has begun. -/
lemma stopped_iff (h : Runs w work es s) : s.stopped = true ↔ ∃ t ∈ es, t.label = .halt := by
  induction h with
  | nil h =>
    subst h
    simp
  | @snoc es s a s' _ hs ih =>
    rcases step_cases hs with ⟨r, rfl, -, -, -, hstopped⟩ | ⟨k, job, rfl, -, -, hstopped⟩ |
      ⟨rfl, -, -, -, hstopped⟩ | ⟨-, -, ha, -, hstopped⟩
    · rw [hstopped, ih]
      simp
    · rw [hstopped, ih]
      simp
    · simp [hstopped]
    · rw [hstopped, ih]
      simp [ha]

end Halting

/-! ### Progress -/

section Progress

variable {w : Work ρ ι ω} {s s' : State ι ω}

/-- There is something to do. -/
def Due (w : Work ρ ι ω) (s : State ι ω) : Prop := (w.take s.stopped s.work).isSome = true

/-- How many steps of its own the worker is from the next job. -/
def toGo (s : State ι ω) : ℕ :=
  if s.starting then if s.joined then 2 else 3
  else
    match s.threads.getLast? with
    | some (.busy _) => 2
    | some .top => 1
    | _ => 0

lemma toGo_le (s : State ι ω) : toGo s ≤ 3 := by
  unfold toGo
  split
  · split <;> omega
  · split <;> omega

lemma Ok.running_of_due (h : Ok w s) (hdue : Due w s) : s.running = true := by
  by_contra hidle
  have hnone := h.idle (by simpa using hidle)
  unfold Due at hdue
  rw [hnone] at hdue
  cases hdue

lemma Ok.toGo_pos (h : Ok w s) (hdue : Due w s) : 0 < toGo s := by
  have hrunning := h.running_of_due hdue
  unfold toGo
  split
  · split <;> omega
  next hstarting =>
    rw [Bool.not_eq_true] at hstarting
    rw [h.running, hstarting, Bool.false_or] at hrunning
    obtain ⟨st, hlast, hst⟩ := (Option.any_eq_true _ _).1 hrunning
    rw [hlast]
    cases st with
    | top => simp
    | busy job => simp
    | _ => cases hst

/-- A step of the worker's own starts a job or comes nearer to the next. -/
lemma Ok.own_step (h : Ok w s) (hdue : Due w s) {a : Pick ρ} (ha : a.own = true)
    (hs : Worker.step w s a = some s') :
    (started w ⟨s, a, s'⟩).isSome = true ∨ Due w s' ∧ toGo s' < toGo s := by
  cases a with
  | start =>
    obtain ⟨⟨hstarting, hjoined⟩, rfl⟩ := guard_eq_some.1 hs
    right
    refine ⟨hdue, ?_⟩
    simp [toGo, hstarting, hjoined]
  | look k => exact .inl (by simpa [started, Due] using hdue)
  | finish k =>
    simp only [Worker.step] at hs
    split at hs
    next job hk =>
      cases hs
      obtain ⟨old, hthreads, rfl, -⟩ := exists_snoc h.old hk nofun
      right
      refine ⟨hdue, ?_⟩
      simp [toGo, hthreads, (h.inLoop hk rfl).2]
    next => cases hs
  | leave k =>
    simp only [Worker.step] at hs
    split at hs
    next hk =>
      cases hs
      obtain ⟨old, hthreads, rfl, -⟩ := exists_snoc h.old hk nofun
      have hstarting : s.starting = true := by
        have hrunning := h.running_of_due hdue
        rw [h.running, hthreads] at hrunning
        simpa [At.inLoop] using hrunning
      right
      refine ⟨hdue, ?_⟩
      simp [toGo, State.joined, hthreads, hstarting]
    next => cases hs
  | _ => cases ha

/-- Where there is something to do, the worker can take a step of its own. -/
lemma Ok.exists_own (h : Ok w s) (hdue : Due w s) :
    ∃ (a : Pick ρ) (s' : State ι ω), a.own = true ∧ Worker.step w s a = some s' := by
  have hrunning := h.running_of_due hdue
  cases hstarting : s.starting with
  | true =>
    rcases List.eq_nil_or_concat s.threads with hnil | ⟨old, st, hthreads⟩
    · exact ⟨.start, _, rfl, if_pos ⟨hstarting, by simp [State.joined, hnil]⟩⟩
    · rw [List.concat_eq_append] at hthreads
      have hk : s.threads[old.length]? = some st := by simp [hthreads]
      rcases h.join_free hstarting hk with rfl | rfl
      · exact ⟨.leave old.length, _, rfl, by simp only [Worker.step, hk]; rfl⟩
      · exact ⟨.start, _, rfl, if_pos ⟨hstarting, by simp [State.joined, hthreads]⟩⟩
  | false =>
    obtain ⟨k, st, hk, hst⟩ := h.exists_inLoop hrunning hstarting
    cases st with
    | top =>
      obtain ⟨⟨job, rest⟩, htake⟩ := Option.isSome_iff_exists.1 hdue
      exact ⟨.look k, _, rfl, by simp only [Worker.step, hstarting, hk, htake]; rfl⟩
    | busy job => exact ⟨.finish k, _, rfl, by simp only [Worker.step, hk]; rfl⟩
    | _ => cases hst

/-- The other steps, but for the stop, leave what is to do and how far it is. -/
lemma Ok.other_step (hw : w.Laws) (h : Ok w s) (hdue : Due w s) {a : Pick ρ} (ha : a.own = false)
    (hhalt : a ≠ .halt) (hs : Worker.step w s a = some s') : Due w s' ∧ toGo s' = toGo s := by
  cases a with
  | request r =>
    simp only [Worker.step] at hs
    split_ifs at hs with hstarting hstopped hrunning
    · cases hs
      exact ⟨hdue, rfl⟩
    · cases hs
      refine ⟨?_, rfl⟩
      unfold Due
      rw [Bool.not_eq_true] at hstopped
      simp only [hstopped]
      exact hw.put s.work r
    · exact absurd (h.running_of_due hdue) hrunning
  | halted =>
    obtain ⟨-, rfl⟩ := guard_eq_some.1 hs
    exact ⟨hdue, rfl⟩
  | halt => exact absurd rfl hhalt
  | _ => cases ha

/-- A request that is accepted leaves something to do. -/
lemma due_of_accepted (hw : w.Laws) {a : Pick ρ} (hs : step w s a = some s')
    (h : (accepted ⟨s, a, s'⟩).isSome = true) : Due w s' := by
  rcases step_cases hs with ⟨r, rfl, hacc, -, hwork, hstopped⟩ | ⟨k, job, rfl, hno, -⟩ |
    ⟨rfl, hno, -⟩ | ⟨hno, -⟩
  · have hopen : s.stopped = false := by
      rw [← Bool.not_eq_true]
      intro hyes
      exact absurd ((if_pos hyes).symm.trans hacc) nofun
    unfold Due
    rw [hwork, hstopped, hopen]
    exact hw.put s.work r
  · exact absurd (hno ▸ h) nofun
  · exact absurd (hno ▸ h) nofun
  · exact absurd (hno ▸ h) nofun

/-- After a request is accepted, a job starts, the stop intervenes, or the worker is on its
way to a job and can go on: it is at most so many steps of its own away. -/
theorem served (hw : w.Laws) {work : ω} (hidle : w.take false work = none)
    {es : List (Transition (State ι ω) (Pick ρ))} (h : Runs w work es s) :
    ∀ es₁ t es₂, es = es₁ ++ t :: es₂ → (accepted t).isSome = true →
      (∃ u ∈ es₂, (started w u).isSome = true) ∨ (∃ u ∈ es₂, u.label = .halt) ∨
        Due w s ∧ toGo s + es₂.countP (·.label.own) ≤ 3 := by
  induction h with
  | nil => exact fun es₁ t es₂ he => absurd he (by simp)
  | @snoc es s a s' hrun hs ih =>
    intro es₁ t es₂ he ht
    have hok := Ok.of_run hw hidle hrun
    have hok' := hok.step hw hs
    rcases eq_or_mem_of_snoc he with ⟨rfl, rfl, rfl⟩ | ⟨es₂', rfl, rfl⟩
    · refine .inr (.inr ⟨due_of_accepted hw hs ht, ?_⟩)
      rw [List.countP_nil, Nat.add_zero]
      exact toGo_le _
    · rcases ih es₁ t es₂' rfl ht with ⟨u, hu, hstarted⟩ | ⟨u, hu, hhalt⟩ | ⟨hdue, hcount⟩
      · exact .inl ⟨u, List.mem_append_left _ hu, hstarted⟩
      · exact .inr (.inl ⟨u, List.mem_append_left _ hu, hhalt⟩)
      · rw [List.countP_append, List.countP_singleton]
        by_cases hhalt : a = .halt
        · exact .inr (.inl ⟨_, List.mem_concat_self, hhalt⟩)
        cases hown : a.own with
        | true =>
          rcases hok.own_step hdue hown hs with hstarted | ⟨hdue', hlt⟩
          · exact .inl ⟨_, List.mem_concat_self, hstarted⟩
          · right
            right
            refine ⟨hdue', ?_⟩
            simp only [if_true]
            omega
        | false =>
          obtain ⟨hdue', heq⟩ := hok.other_step hw hdue hown hhalt hs
          right
          right
          refine ⟨hdue', ?_⟩
          simp only [Bool.false_eq_true, if_false]
          omega

end Progress

end

end UrnetworkWindows.Lib.Worker
