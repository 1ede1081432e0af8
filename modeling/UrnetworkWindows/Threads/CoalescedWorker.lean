/-
A thread of its own that runs one fixed job on request (`CoalescedWorker.h`).

`Request`, `Stop` and `Loop` are those of the library's worker, with the flag `dirty_` for
its work: a request sets it, a look takes it, and a stop clears it and lets no later look
take it.  A run is a job of the worker's; nothing is known of it.

However many requests land during a run, they set one flag, and the next look takes it:
one more run follows, which starts after all of them (`requests_coalesce`).
-/
import UrnetworkWindows.Lib.Worker

namespace UrnetworkWindows.Threads

open Lib Lib.Worker

/-- `dirty_` of a `CoalescedWorker`. -/
def coalesced : Work Unit Unit Bool where
  put _ _ := true
  take stopped dirty := if stopped || !dirty then none else some ((), false)
  halt _ := false

/-- `CoalescedWorker`, its callers' calls and its threads. -/
abbrev CoalescedWorker := State Unit Bool

/-- A step of the worker or its callers. -/
abbrev Event := Transition CoalescedWorker (Pick Unit)

/-- The runs of a new worker. -/
abbrev CoalescedWorker.Runs : List Event → CoalescedWorker → Prop := Worker.Runs coalesced false

lemma coalesced_laws : coalesced.Laws where
  put _ _ := rfl
  halt _ _ := rfl

/-- A run of the job starts. -/
def runStarts (t : Event) : Bool := (started coalesced t).isSome

/-- A run of the job ends. -/
def runEnds (t : Event) : Bool :=
  match t.label with
  | .finish _ => true
  | _ => false

/-- A request is accepted. -/
def requested (t : Event) : Bool := (accepted t).isSome

/-- The stop takes the lock. -/
def stops (t : Event) : Bool :=
  match t.label with
  | .halt => true
  | _ => false

/-- A burst of requests is never lost, and costs one more run. -/
structure Coalesces (es : List Event) (s : CoalescedWorker) : Prop where
  one : ∀ k k' : ℕ, s.threads[k]? = some (.busy ()) → s.threads[k']? = some (.busy ()) → k = k'
  /-- A run starts after the request, or the stop intervenes, or the worker is on its way to
  one, at most two steps of its own away, and can go on. -/
  served : ∀ es₁ t es₂, es = es₁ ++ t :: es₂ → requested t = true →
    (∃ u ∈ es₂, runStarts u = true) ∨ (∃ u ∈ es₂, stops u = true) ∨
      es₂.countP (·.label.own) ≤ 2 ∧
        ∃ (a : Pick Unit) (s' : CoalescedWorker), a.own = true ∧ step coalesced s a = some s'
  /-- `running_` stands for a thread in `Loop`, or for the one the request that holds the
  lock is starting. -/
  running : s.running = true ↔
    s.starting = true ∨ ∃ (k : ℕ) (st : At Unit), s.threads[k]? = some st ∧ st.inLoop = true
  idle : s.running = false → s.work = false ∨ s.stopped = true
  /-- Requests during one run, and none after it: one further run, or the stop intervenes, or
  it is still due. -/
  further : ∀ es₁ t during f after, es = es₁ ++ t :: during ++ f :: after → runStarts t = true →
    runEnds f = true → (∀ u ∈ during, runEnds u = false) → (∀ u ∈ after, requested u = false) →
      after.countP runStarts ≤ min 1 (during.countP requested) ∧
        ((∀ u ∈ during ++ f :: after, stops u = false) → s.running = false →
          after.countP runStarts = min 1 (during.countP requested))
  /-- Nothing starts once the stop has begun, and nothing runs once it has returned. -/
  stopped : ∀ es₁ t es₂, es = es₁ ++ t :: es₂ → stops t = true → ∀ u ∈ es₂, runStarts u = false
  returned : s.halt = .returned → ∀ (k : ℕ) (st : At Unit), s.threads[k]? = some st → st = .done
  /-- The join under the lock waits only for a thread past its last use of the lock. -/
  join : s.starting = true → ∀ (k : ℕ) (st : At Unit), s.threads[k]? = some st →
    st = .leaving ∨ st = .done

/-! ### The flag -/

section Flag

variable {s s' : CoalescedWorker} {a : Pick Unit}

lemma take_eq_some {stopped dirty dirty' : Bool} {job : Unit}
    (h : coalesced.take stopped dirty = some (job, dirty')) :
    stopped = false ∧ dirty = true ∧ dirty' = false := by
  obtain ⟨hno, hsome⟩ := Option.ite_none_left_eq_some.1 h
  rw [Bool.or_eq_true, not_or] at hno
  refine ⟨by simpa using hno.1, by simpa using hno.2, ?_⟩
  exact (Prod.mk.inj (Option.some.inj hsome)).2.symm

/-- A request sets the flag, a start clears it, the stop clears it, and nothing else changes
it. -/
lemma flag_cases (hs : step coalesced s a = some s') :
    (requested ⟨s, a, s'⟩ = true ∧ runStarts ⟨s, a, s'⟩ = false ∧ s'.work = true) ∨
    (requested ⟨s, a, s'⟩ = false ∧ runStarts ⟨s, a, s'⟩ = true ∧ s.work = true ∧
      s'.work = false ∧ s.stopped = false ∧
        ∃ (k : ℕ) (job : Unit), a = .look k ∧ s'.threads[k]? = some (.busy job)) ∨
    (requested ⟨s, a, s'⟩ = false ∧ runStarts ⟨s, a, s'⟩ = false ∧ stops ⟨s, a, s'⟩ = true ∧
      s'.work = false) ∨
    (requested ⟨s, a, s'⟩ = false ∧ runStarts ⟨s, a, s'⟩ = false ∧ s'.work = s.work) := by
  rcases step_cases hs with ⟨r, rfl, hacc, hst, hwork, -⟩ | ⟨k, job, rfl, hacc, htake, -⟩ |
    ⟨rfl, hacc, hst, hwork, -⟩ | ⟨hacc, hst, -, hwork, -⟩
  · left
    refine ⟨?_, ?_, hwork⟩
    · rw [requested, hacc]
      rfl
    · rw [runStarts, hst]
      rfl
  · right
    left
    obtain ⟨hstopped, hdirty, hclear⟩ := take_eq_some htake
    refine ⟨by rw [requested, hacc]; rfl, ?_, hdirty, hclear, hstopped, k, job, rfl,
      busy_of_look hs htake⟩
    have hst : started coalesced ⟨s, .look k, s'⟩ = some job := congrArg (Option.map Prod.fst) htake
    rw [runStarts, hst]
    rfl
  · right
    right
    left
    exact ⟨by rw [requested, hacc]; rfl, by rw [runStarts, hst]; rfl, rfl, hwork⟩
  · right
    right
    right
    exact ⟨by rw [requested, hacc]; rfl, by rw [runStarts, hst]; rfl, hwork⟩

lemma runEnds_of_ne {t : Event} (h : runEnds t = false) (k : ℕ) : t.label ≠ .finish k := by
  intro hlabel
  unfold runEnds at h
  rw [hlabel] at h
  cases h

end Flag

/-! ### One run and the requests during it -/

section Further

variable {s : CoalescedWorker} {es : List Event}

/-- During a run, the flag says whether a request has landed. -/
structure During (during : List Event) (s : CoalescedWorker) : Prop where
  busy : ∃ (k : ℕ) (job : Unit), s.threads[k]? = some (.busy job)
  landed : s.work = true → 0 < during.countP requested
  kept : (∀ u ∈ during, stops u = false) → 0 < during.countP requested → s.work = true

lemma During.start {s' : CoalescedWorker} {a : Pick Unit} (hs : step coalesced s a = some s')
    (ht : runStarts ⟨s, a, s'⟩ = true) : During [] s' := by
  rcases flag_cases hs with ⟨-, hno, -⟩ | ⟨-, -, -, hclear, -, k, job, -, hk⟩ | ⟨-, hno, -⟩ |
    ⟨-, hno, -⟩
  · exact absurd (hno.symm.trans ht) nofun
  · refine ⟨⟨k, job, hk⟩, ?_, nofun⟩
    exact fun hdirty => absurd (hclear.symm.trans hdirty) nofun
  · exact absurd (hno.symm.trans ht) nofun
  · exact absurd (hno.symm.trans ht) nofun

lemma During.snoc {during : List Event} {s' : CoalescedWorker} {a : Pick Unit}
    (h : During during s) (hok : Ok coalesced s) (hs : step coalesced s a = some s')
    (hend : runEnds ⟨s, a, s'⟩ = false) : During (during ++ [⟨s, a, s'⟩]) s' := by
  obtain ⟨k, job, hk⟩ := h.busy
  obtain ⟨hlook, hk'⟩ := hok.busy_step hk hs (runEnds_of_ne hend)
  have hcount : List.countP requested (during ++ [⟨s, a, s'⟩]) =
      during.countP requested + if requested ⟨s, a, s'⟩ then 1 else 0 := by
    rw [List.countP_append, List.countP_singleton]
  constructor
  case busy => exact ⟨k, job, hk'⟩
  case landed =>
    intro hdirty
    rw [hcount]
    rcases flag_cases hs with ⟨hreq, -⟩ | ⟨-, -, -, -, -, k', -, hk', -⟩ | ⟨-, -, -, hclear⟩ |
      ⟨-, -, hsame⟩
    · rw [if_pos hreq]
      omega
    · exact absurd hk' (hlook k')
    · exact absurd (hclear.symm.trans hdirty) nofun
    · have := h.landed (hsame.symm.trans hdirty)
      omega
  case kept =>
    intro hstops hpos
    rw [hcount] at hpos
    obtain ⟨hbefore, hstop'⟩ := List.forall_mem_append.1 hstops
    rcases flag_cases hs with ⟨-, -, hset⟩ | ⟨-, -, -, -, -, k', -, hk', -⟩ | ⟨-, -, hstop, -⟩ |
      ⟨hreq, -, hsame⟩
    · exact hset
    · exact absurd hk' (hlook k')
    · exact absurd ((List.forall_mem_singleton.1 hstop').symm.trans hstop) nofun
    · rw [hreq] at hpos
      exact hsame.trans (h.kept hbefore (by simpa using hpos))

lemma during_of_run (h : CoalescedWorker.Runs es s) : ∀ es₁ t during, es = es₁ ++ t :: during →
    runStarts t = true → (∀ u ∈ during, runEnds u = false) → During during s := by
  induction h with
  | nil => exact fun es₁ t during he => absurd he (by simp)
  | @snoc es s a s' hrun hs ih =>
    intro es₁ t during he ht hends
    rcases eq_or_mem_of_snoc he with ⟨rfl, rfl, rfl⟩ | ⟨during', rfl, rfl⟩
    · exact During.start hs ht
    · obtain ⟨hbefore, hend⟩ := List.forall_mem_append.1 hends
      exact (ih es₁ t during' rfl ht hbefore).snoc (Ok.of_run coalesced_laws rfl hrun) hs
        (hend _ (List.mem_singleton_self _))

/-- After a run, while no request lands, the starts and the flag are what the requests during
it make of them. -/
structure After (during : List Event) (f : Event) (after : List Event) (s : CoalescedWorker) :
    Prop where
  le : after.countP runStarts + s.work.toNat ≤ min 1 (during.countP requested)
  eq : (∀ u ∈ during ++ f :: after, stops u = false) →
    after.countP runStarts + s.work.toNat = min 1 (during.countP requested)

lemma work_of_runEnds {s' : CoalescedWorker} {a : Pick Unit} (hs : step coalesced s a = some s')
    (hf : runEnds ⟨s, a, s'⟩ = true) : s'.work = s.work := by
  cases a with
  | finish k =>
    rcases step_cases hs with ⟨r, hr, -⟩ | ⟨k', job, hk, -⟩ | ⟨hh, -⟩ | ⟨-, -, -, hwork, -⟩
    · cases hr
    · cases hk
    · cases hh
    · exact hwork
  | _ => cases hf

lemma During.ends {during : List Event} {f : Event} {s' : CoalescedWorker}
    (h : During during s) (hsame : s'.work = s.work) : After during f [] s' := by
  constructor
  case le =>
    rw [List.countP_nil, hsame]
    cases hdirty : s.work with
    | false => simp
    | true =>
      have := h.landed hdirty
      simp only [Bool.toNat_true]
      omega
  case eq =>
    intro hstops
    have hkept := h.kept (List.forall_mem_append.1 hstops).1
    rw [List.countP_nil, hsame]
    cases hdirty : s.work with
    | false =>
      have hzero : ¬ 0 < during.countP requested := fun hpos =>
        absurd (hdirty.symm.trans (hkept hpos)) nofun
      simp only [Bool.toNat_false]
      omega
    | true =>
      have := h.landed hdirty
      simp only [Bool.toNat_true]
      omega

lemma After.snoc {during after : List Event} {f : Event} {s' : CoalescedWorker} {a : Pick Unit}
    (h : After during f after s) (hs : step coalesced s a = some s')
    (hreq : requested ⟨s, a, s'⟩ = false) : After during f (after ++ [⟨s, a, s'⟩]) s' := by
  have hcount : List.countP runStarts (after ++ [⟨s, a, s'⟩]) =
      after.countP runStarts + if runStarts ⟨s, a, s'⟩ then 1 else 0 := by
    rw [List.countP_append, List.countP_singleton]
  constructor
  case le =>
    have hle := h.le
    rw [hcount]
    rcases flag_cases hs with ⟨hyes, -⟩ | ⟨-, hst, hdirty, hclear, -⟩ | ⟨-, hst, -, hclear⟩ |
      ⟨-, hst, hsame⟩
    · exact absurd (hreq.symm.trans hyes) nofun
    · rw [hdirty] at hle
      rw [hst, hclear]
      simpa using hle
    · rw [hst, hclear]
      simp only [Bool.false_eq_true, if_false, Bool.toNat_false]
      omega
    · rw [hst, hsame]
      simpa using hle
  case eq =>
    intro hstops
    rw [← List.cons_append, ← List.append_assoc] at hstops
    obtain ⟨hbefore, hstop'⟩ := List.forall_mem_append.1 hstops
    have heq := h.eq hbefore
    rw [hcount]
    rcases flag_cases hs with ⟨hyes, -⟩ | ⟨-, hst, hdirty, hclear, -⟩ | ⟨-, -, hstop, -⟩ |
      ⟨-, hst, hsame⟩
    · exact absurd (hreq.symm.trans hyes) nofun
    · rw [hdirty] at heq
      rw [hst, hclear]
      simpa using heq
    · exact absurd ((List.forall_mem_singleton.1 hstop').symm.trans hstop) nofun
    · rw [hst, hsame]
      simpa using heq

lemma after_of_run (h : CoalescedWorker.Runs es s) : ∀ es₁ t during f after,
    es = es₁ ++ t :: during ++ f :: after → runStarts t = true → runEnds f = true →
      (∀ u ∈ during, runEnds u = false) → (∀ u ∈ after, requested u = false) →
        After during f after s := by
  induction h with
  | nil => exact fun es₁ t during f after he => absurd he (by simp)
  | @snoc es s a s' hrun hs ih =>
    intro es₁ t during f after he ht hf hends hreqs
    rcases eq_or_mem_of_snoc he with ⟨rfl, rfl, rfl⟩ | ⟨after', rfl, rfl⟩
    · exact (during_of_run hrun es₁ t during rfl ht hends).ends (work_of_runEnds hs hf)
    · obtain ⟨hbefore, hreq⟩ := List.forall_mem_append.1 hreqs
      exact (ih es₁ t during f after' rfl ht hf hends hbefore).snoc hs
        (hreq _ (List.mem_singleton_self _))

end Further

/-! ### The result -/

lemma not_stopped_of_starts {s s' : CoalescedWorker} {a : Pick Unit}
    (hs : step coalesced s a = some s') (hst : runStarts ⟨s, a, s'⟩ = true) :
    s.stopped = false := by
  rcases flag_cases hs with ⟨-, hno, -⟩ | ⟨-, -, -, -, hstopped, -⟩ | ⟨-, hno, -⟩ | ⟨-, hno, -⟩
  · exact absurd (hno.symm.trans hst) nofun
  · exact hstopped
  · exact absurd (hno.symm.trans hst) nofun
  · exact absurd (hno.symm.trans hst) nofun

lemma stops_iff {t : Event} : stops t = true ↔ t.label = .halt := by
  unfold stops
  split
  next h => exact iff_of_true rfl h
  next h => exact iff_of_false nofun h

/-- **A burst of requests is never lost, and costs one more run.** -/
theorem requests_coalesce {es : List Event} {s : CoalescedWorker}
    (h : CoalescedWorker.Runs es s) : Coalesces es s := by
  have hok : Ok coalesced s := Ok.of_run coalesced_laws rfl h
  have hidle : s.running = false → s.work = false ∨ s.stopped = true := by
    intro hidle
    have hnone := hok.idle hidle
    cases hstopped : s.stopped with
    | true => exact .inr rfl
    | false =>
      cases hdirty : s.work with
      | false => exact .inl rfl
      | true =>
        rw [hstopped, hdirty] at hnone
        cases hnone
  constructor
  case one => exact fun k k' hk hk' => hok.one_job hk hk'
  case served =>
    intro es₁ t es₂ he hreq
    rcases Worker.served coalesced_laws rfl h es₁ t es₂ he hreq with hstart | ⟨u, hu, hstop⟩ |
      ⟨hdue, hcount⟩
    · exact .inl hstart
    · exact .inr (.inl ⟨u, hu, stops_iff.2 hstop⟩)
    · have hpos := hok.toGo_pos hdue
      have hle : toGo s + es₂.countP (·.label.own) ≤ 3 := hcount
      exact .inr (.inr ⟨by omega, hok.exists_own hdue⟩)
  case running => exact hok.running_iff
  case idle => exact hidle
  case further =>
    intro es₁ t during f after he ht hf hends hreqs
    have hafter := after_of_run h es₁ t during f after he ht hf hends hreqs
    refine ⟨Nat.le_of_add_right_le hafter.le, ?_⟩
    intro hstops hrunning
    have hclean : s.work = false := by
      rcases hidle hrunning with hclean | hstopped
      · exact hclean
      · -- the stop came after the start of the run, or that run had not started
        obtain ⟨u, hu, hhalt⟩ := (stopped_iff h).1 hstopped
        subst he
        rw [List.append_assoc] at hu
        rcases List.mem_append.1 hu with hu | hu
        · obtain ⟨hrun, hstep⟩ := Run.split h (List.append_assoc ..)
          have hyes := (stopped_iff hrun).2 ⟨u, hu, hhalt⟩
          exact absurd ((not_stopped_of_starts hstep ht).symm.trans hyes) nofun
        · rcases List.mem_cons.1 hu with rfl | hu
          · unfold runStarts started at ht
            rw [hhalt] at ht
            cases ht
          · exact absurd ((hstops u hu).symm.trans (stops_iff.2 hhalt)) nofun
    have heq := hafter.eq hstops
    rw [hclean] at heq
    simpa using heq
  case stopped =>
    intro es₁ t es₂ he hstop u hu
    obtain ⟨before, after, rfl⟩ := List.append_of_mem hu
    rw [← List.cons_append, ← List.append_assoc] at he
    obtain ⟨hrun, hstep⟩ := Run.split h he
    have hyes : u.pre.stopped = true :=
      (stopped_iff hrun).2 ⟨t, by simp, stops_iff.1 hstop⟩
    by_contra hst
    rw [Bool.not_eq_false] at hst
    exact absurd ((not_stopped_of_starts hstep hst).symm.trans hyes) nofun
  case returned => exact fun hreturned k st hk => hok.done_of_returned hreturned hk
  case join => exact fun hstarting k st hk => hok.join_free hstarting hk

theorem requests_coalesce_burst : ∃ (es : List Event) (s : CoalescedWorker), Coalesces es s ∧
    es.countP requested = 3 ∧ es.countP runStarts = 2 ∧ s.running = false := by
  have h₀ : CoalescedWorker.Runs [] { work := false } := .nil rfl
  have h₁ := (h₀.snoc (a := .request ()) rfl).snoc (a := .start) rfl
  have h₂ := (h₁.snoc (a := .look 0) rfl).snoc (a := .request ()) rfl
  have h₃ := (h₂.snoc (a := .request ()) rfl).snoc (a := .finish 0) rfl
  have h₄ := (h₃.snoc (a := .look 0) rfl).snoc (a := .finish 0) rfl
  have h₅ := (h₄.snoc (a := .look 0) rfl).snoc (a := .leave 0) rfl
  exact ⟨_, _, requests_coalesce h₅, rfl, rfl, rfl⟩

end UrnetworkWindows.Threads
