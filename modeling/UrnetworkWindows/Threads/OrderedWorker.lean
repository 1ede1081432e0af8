/-
A thread of its own that runs every posted job once, in order (`OrderedWorker.h`).

`Post` and `Loop` are a request and a look of the library's worker, with the queue `jobs_`
for its work: a post queues the job behind the others, a look takes the first, and a stop
leaves the queue as it is.  A job that throws ends like any other.

What was posted is what was started and what is still queued, in this order, and the queue
is empty wherever no thread is in `Loop`; so everything has run once `Stop` returns
(`posted_jobs_run_in_order`).
-/
import UrnetworkWindows.Lib.Worker

namespace UrnetworkWindows.Threads

open Lib Lib.Worker

section

variable {Job : Type*}

/-- The queue of an `OrderedWorker`. -/
def ordered : Work Job Job (List Job) where
  put jobs job := jobs ++ [job]
  take _ jobs :=
    match jobs with
    | [] => none
    | job :: rest => some (job, rest)
  halt jobs := jobs

/-- `OrderedWorker`, its callers' calls and its threads. -/
abbrev OrderedWorker (Job : Type*) := State Job (List Job)

/-- The runs of a new worker. -/
abbrev OrderedWorker.Runs : List (Transition (OrderedWorker Job) (Pick Job)) → OrderedWorker Job →
    Prop :=
  Worker.Runs ordered []

lemma ordered_laws : (ordered : Work Job Job (List Job)).Laws where
  put work r := by
    cases work with
    | nil => rfl
    | cons job rest => rfl
  halt work h := h

lemma take_eq_none {stopped : Bool} {jobs : List Job} (h : ordered.take stopped jobs = none) :
    jobs = [] := by
  cases jobs with
  | nil => rfl
  | cons job rest => cases h

/-- Every posted job runs once, in order. -/
structure RunInOrder (es : List (Transition (OrderedWorker Job) (Pick Job)))
    (s : OrderedWorker Job) : Prop where
  one : ∀ (k k' : ℕ) (job job' : Job), s.threads[k]? = some (.busy job) →
    s.threads[k']? = some (.busy job') → k = k'
  /-- The jobs whose `Post` took them, in the order of the lock, have been started or are
  queued. -/
  order : es.filterMap accepted = es.filterMap (started ordered) ++ s.work
  /-- All of them have been started, and have ended, when `Stop` returns. -/
  all : s.halt = .returned → es.filterMap accepted = es.filterMap (started ordered) ∧
    ∀ (k : ℕ) (st : At Job), s.threads[k]? = some st → st = .done
  refused : ∀ es₁ t es₂ job, es = es₁ ++ t :: es₂ → t.label = .request job → accepted t = none →
    ∃ u ∈ es₁, u.label = .halt
  /-- `running_` stands for a thread in `Loop`, or for the one the post that holds the lock
  is starting. -/
  running : s.running = true ↔
    s.starting = true ∨ ∃ (k : ℕ) (st : At Job), s.threads[k]? = some st ∧ st.inLoop = true
  idle : s.running = false → s.work = []
  /-- The join under the lock waits only for a thread past its last use of the lock. -/
  join : s.starting = true → ∀ (k : ℕ) (st : At Job), s.threads[k]? = some st →
    st = .leaving ∨ st = .done
  /-- While a job is queued the worker can go on, and it starts one within three steps. -/
  goes : s.work ≠ [] → (∃ (a : Pick Job) (s' : OrderedWorker Job), a.own = true ∧
      step ordered s a = some s') ∧ toGo s ≤ 3 ∧
    ∀ (a : Pick Job) (s' : OrderedWorker Job), a.own = true → step ordered s a = some s' →
      (started ordered ⟨s, a, s'⟩).isSome = true ∨ toGo s' < toGo s

lemma order_step {es : List (Transition (OrderedWorker Job) (Pick Job))} {s s' : OrderedWorker Job}
    (h : es.filterMap accepted = es.filterMap (started ordered) ++ s.work) {a : Pick Job}
    (hs : step ordered s a = some s') :
    List.filterMap accepted (es ++ [⟨s, a, s'⟩]) =
      List.filterMap (started ordered) (es ++ [⟨s, a, s'⟩]) ++ s'.work := by
  rw [filterMap_concat, filterMap_concat, h]
  rcases step_cases hs with ⟨job, -, hacc, hst, hwork, -⟩ | ⟨k, job, rfl, hacc, htake, -⟩ |
    ⟨-, hacc, hst, hwork, -⟩ | ⟨hacc, hst, -, hwork, -⟩
  · rw [hacc, hst, hwork]
    simp [ordered]
  · have hst : started ordered ⟨s, .look k, s'⟩ = some job := congrArg (Option.map Prod.fst) htake
    have hwork : s.work = job :: s'.work := by
      cases hjobs : s.work with
      | nil => exact absurd (hjobs ▸ htake) nofun
      | cons job' rest =>
        rw [hjobs] at htake
        obtain ⟨rfl, hrest⟩ := Prod.mk.inj (Option.some.inj htake)
        rw [hrest]
    rw [hacc, hst, hwork]
    simp
  · rw [hacc, hst, hwork]
    simp [ordered]
  · rw [hacc, hst, hwork]
    simp

/-- **Every posted job runs once, in order.** -/
theorem posted_jobs_run_in_order {es : List (Transition (OrderedWorker Job) (Pick Job))}
    {s : OrderedWorker Job} (h : OrderedWorker.Runs es s) : RunInOrder es s := by
  have hok : Ok ordered s := Ok.of_run ordered_laws rfl h
  have horder : es.filterMap accepted = es.filterMap (started ordered) ++ s.work := by
    clear hok
    induction h with
    | nil h =>
      subst h
      rfl
    | snoc _ hs ih => exact order_step ih hs
  have hidle : s.running = false → s.work = [] := fun hidle => take_eq_none (hok.idle hidle)
  constructor
  case one => exact fun k k' job job' hk hk' => hok.one_job hk hk'
  case order => exact horder
  case all =>
    intro hreturned
    refine ⟨?_, fun k st hk => hok.done_of_returned hreturned hk⟩
    rw [horder, hidle (hok.not_running_of_returned hreturned), List.append_nil]
  case refused =>
    intro es₁ t es₂ job he hlabel hacc
    obtain ⟨hrun, -⟩ := Run.split h he
    refine (stopped_iff hrun).1 ?_
    unfold accepted at hacc
    rw [hlabel] at hacc
    by_contra hstopped
    exact absurd ((if_neg hstopped).symm.trans hacc) nofun
  case running => exact hok.running_iff
  case idle => exact hidle
  case join => exact fun hstarting k st hk => hok.join_free hstarting hk
  case goes =>
    intro hwork
    have hdue : Due ordered s := by
      unfold Due
      cases hjobs : s.work with
      | nil => exact absurd hjobs hwork
      | cons job rest => rfl
    refine ⟨hok.exists_own hdue, toGo_le s, ?_⟩
    intro a s' hown hs
    rcases hok.own_step hdue hown hs with hstarted | ⟨-, hlt⟩
    · exact .inl hstarted
    · exact .inr hlt

/-- A stop while a job is queued, and a post after it. -/
theorem posted_jobs_run_in_order_stopped :
    ∃ (es : List (Transition (OrderedWorker ℕ) (Pick ℕ))) (s : OrderedWorker ℕ),
      RunInOrder es s ∧ s.halt = .returned ∧ es.filterMap accepted = [1, 2] := by
  have h₀ : OrderedWorker.Runs [] ({ work := [] } : OrderedWorker ℕ) := .nil rfl
  have h₁ := (h₀.snoc (a := .request 1) rfl).snoc (a := .start) rfl
  have h₂ := (h₁.snoc (a := .look 0) rfl).snoc (a := .request 2) rfl
  have h₃ := (h₂.snoc (a := .halt) rfl).snoc (a := .request 3) rfl
  have h₄ := (h₃.snoc (a := .finish 0) rfl).snoc (a := .look 0) rfl
  have h₅ := (h₄.snoc (a := .finish 0) rfl).snoc (a := .look 0) rfl
  have h₆ := (h₅.snoc (a := .leave 0) rfl).snoc (a := .halted) rfl
  exact ⟨_, _, posted_jobs_run_in_order h₆, rfl, rfl⟩

end

end UrnetworkWindows.Threads
