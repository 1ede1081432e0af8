/-
Threads over a shared state and one lock, and rely-guarantee reasoning about them.

A program is a tree of atomic actions, lock acquisitions and releases.  Threads
are spawned at any time and their steps interleave in any order; a step of a
thread that holds the lock is no more protected than any other, except that no
second thread gets past an acquisition.

`Rules` says what a proof about such a system consists of: what every step of a
thread may do, what the others do to the holder of the lock and to everyone
else, and what holds whenever the lock is free.  `Safe` is the obligation for one
program, by recursion on its tree, and `Rules.sound` says that when every thread's
program meets it, every run does.

History variables are kept beside the shared state and written by `note` only,
so that no program can read one.
-/
import UrnetworkWindows.Lib.Trace

namespace UrnetworkWindows.Lib

/-! ### Programs -/

/-- A program over the shared state `σ`, with names `ν` for its steps.  An action
is taken when it is enabled, and is told by a coin how it turns out.  An
acquisition may be given up where `giveUp` says so. -/
inductive Prog (σ ν α : Type) : Type 1
  | ret (a : α)
  | act {β : Type} (n : ν) (enabled : σ → Bool) (f : Bool → σ → β × σ) (next : β → Prog σ ν α)
  | lock (taken given : ν) (giveUp : σ → Bool) (next : Bool → Prog σ ν α)
  | unlock (n : ν) (next : Prog σ ν α)

namespace Prog

variable {σ ν α β : Type}

/-- One program after the other. -/
def bind : Prog σ ν α → (α → Prog σ ν β) → Prog σ ν β
  | ret a, k => k a
  | act n enabled f next, k => act n enabled f fun b => (next b).bind k
  | lock taken given giveUp next, k => lock taken given giveUp fun b => (next b).bind k
  | unlock n next, k => unlock n (next.bind k)

instance : Monad (Prog σ ν) where
  pure := ret
  bind := bind

lemma bind_def (p : Prog σ ν α) (k : α → Prog σ ν β) : (p >>= k) = p.bind k := rfl

lemma bind_ret (p : Prog σ ν α) : (p >>= ret) = p := by
  rw [bind_def]
  induction p with
  | ret a => rfl
  | act n enabled f next ih | lock taken given giveUp next ih | unlock n next ih =>
    simp only [bind, ih]

/-- An action that is always enabled. -/
def perform (n : ν) (f : Bool → σ → β × σ) : Prog σ ν β := act n (fun _ => true) f ret

/-- A read of the shared state. -/
def load (n : ν) (r : σ → β) : Prog σ ν β := perform n fun _ s => (r s, s)

/-- A write of the shared state. -/
def store (n : ν) (f : σ → σ) : Prog σ ν Unit := perform n fun _ s => ((), f s)

/-- An outcome nothing in the model decides. -/
def toss (n : ν) : Prog σ ν Bool := perform n fun coin s => (coin, s)

/-- The second test of a short-circuit conjunction. -/
def andThen (c : Bool) (p : Prog σ ν Bool) : Prog σ ν Bool := if c then p else ret false

/-- The second test of a short-circuit disjunction. -/
def orElse (c : Bool) (p : Prog σ ν Bool) : Prog σ ν Bool := if c then ret true else p

/-- The program has nothing left to do. -/
def finished : Prog σ ν α → Bool
  | ret _ => true
  | _ => false

end Prog

/-! ### Pools of threads -/

/-- A thread: its number and its kind. -/
structure Who (κ : Type) where
  id : ℕ
  kind : κ

/-- A step as the conditions and the history see it: who takes it, who holds the
lock, and its name. -/
structure Event (κ ν : Type) where
  self : Who κ
  holder : Option (Who κ)
  name : ν

/-- A system of threads: what each kind runs, when one may be spawned, and how a
step is remembered. -/
structure System (σ γ κ ν : Type) where
  body : κ → Prog σ ν Unit
  may : κ → σ → Bool
  note : Event κ ν → σ → γ → γ

/-- A thread of the pool. -/
structure Thread (σ κ ν : Type) where
  kind : κ
  prog : Prog σ ν Unit

/-- The state of a whole system. -/
structure Pool (σ γ κ ν : Type) where
  shared : σ
  log : γ
  owner : Option (Who κ)
  threads : List (Thread σ κ ν)

/-- What the scheduler picks: a new thread, the next step of a thread, or a thread
that gives its acquisition up. -/
inductive Label (κ : Type)
  | spawn (k : κ)
  | run (i : ℕ) (coin : Bool)
  | giveUp (i : ℕ)
deriving DecidableEq

section Step

variable {σ γ κ ν : Type} (S : System σ γ κ ν)

/-- The pool in which nothing has been started. -/
def Pool.start (s : σ) (g : γ) : Pool σ γ κ ν := ⟨s, g, none, []⟩

/-- The thread `i` takes a step of that name, to the shared state `s`, and goes on
with `q`. -/
def System.advance (p : Pool σ γ κ ν) (i : ℕ) (k : κ) (n : ν) (s : σ) (q : Prog σ ν Unit) :
    Pool σ γ κ ν :=
  { p with
    shared := s
    log := S.note ⟨⟨i, k⟩, p.owner, n⟩ p.shared p.log
    threads := p.threads.set i ⟨k, q⟩ }

/-- One step of the pool, if the label can be taken. -/
def System.step (p : Pool σ γ κ ν) : Label κ → Option (Pool σ γ κ ν)
  | .spawn k =>
    if S.may k p.shared then some { p with threads := p.threads ++ [⟨k, S.body k⟩] } else none
  | .run i coin =>
    match p.threads[i]? with
    | none => none
    | some ⟨_, .ret _⟩ => none
    | some ⟨k, .act n enabled f next⟩ =>
      if enabled p.shared then
        some (S.advance p i k n (f coin p.shared).2 (next (f coin p.shared).1))
      else none
    | some ⟨k, .lock taken _ _ next⟩ =>
      if p.owner.isNone then
        some { S.advance p i k taken p.shared (next true) with owner := some ⟨i, k⟩ }
      else none
    | some ⟨k, .unlock n next⟩ =>
      if p.owner.any (·.id == i) then some { S.advance p i k n p.shared next with owner := none }
      else none
  | .giveUp i =>
    match p.threads[i]? with
    | some ⟨k, .lock _ given giveUp next⟩ =>
      if giveUp p.shared then some (S.advance p i k given p.shared (next false)) else none
    | _ => none

/-- The step a label takes, as the conditions see it. -/
def Pool.event (p : Pool σ γ κ ν) : Label κ → Option (Event κ ν)
  | .spawn _ => none
  | .run i _ =>
    match p.threads[i]? with
    | some ⟨k, .act n _ _ _⟩ => some ⟨⟨i, k⟩, p.owner, n⟩
    | some ⟨k, .lock taken _ _ _⟩ => some ⟨⟨i, k⟩, p.owner, taken⟩
    | some ⟨k, .unlock n _⟩ => some ⟨⟨i, k⟩, p.owner, n⟩
    | _ => none
  | .giveUp i =>
    match p.threads[i]? with
    | some ⟨k, .lock _ given _ _⟩ => some ⟨⟨i, k⟩, p.owner, given⟩
    | _ => none

/-- The runs of a system whose steps all meet a condition on the state before
them. -/
abbrev System.Runs (cond : Event κ ν → σ × γ → Prop) (s : σ) (g : γ) :
    List (Transition (Pool σ γ κ ν) (Label κ)) → Pool σ γ κ ν → Prop :=
  Run (· = Pool.start s g) fun _ p a p' =>
    S.step p a = some p' ∧ ∀ e, p.event a = some e → cond e (p.shared, p.log)

variable {S} {p p' : Pool σ γ κ ν} {a : Label κ}

/-- A label that takes no step of a thread starts one, and changes nothing else. -/
lemma System.step_of_event_eq_none (h : S.step p a = some p') (he : p.event a = none) :
    p'.shared = p.shared ∧ p'.log = p.log := by
  cases a with
  | spawn k =>
    simp only [System.step, Option.ite_none_right_eq_some, Option.some.injEq] at h
    obtain ⟨-, rfl⟩ := h
    exact ⟨rfl, rfl⟩
  | run i coin | giveUp i =>
    simp only [System.step, Pool.event] at h he
    split at h <;> simp_all

section Runs

variable {cond : Event κ ν → σ × γ → Prop} {s : σ} {g : γ}
  {es : List (Transition (Pool σ γ κ ν) (Label κ))}

/-- In a run, only the steps of threads change what is shared. -/
lemma System.Runs.shared_eq (hrun : S.Runs cond s g es p) {t : Transition (Pool σ γ κ ν) (Label κ)}
    (ht : t ∈ es) (he : t.pre.event t.label = none) : t.post.shared = t.pre.shared := by
  obtain ⟨pre, post, rfl⟩ := List.append_of_mem ht
  obtain ⟨-, hstep, -⟩ := Run.split hrun rfl
  exact (System.step_of_event_eq_none hstep he).1

/-- What holds of the shared state at first and is kept by the steps of threads holds
at the end of the run. -/
lemma System.Runs.shared_of_kept {P : σ → Prop} (hrun : S.Runs cond s g es p) (hinit : P s)
    (hkept : ∀ t ∈ es, ∀ e, t.pre.event t.label = some e → P t.pre.shared → P t.post.shared) :
    P p.shared := by
  induction hrun with
  | nil h =>
    obtain rfl := h
    exact hinit
  | @snoc es p a p' hrun hs ih =>
    have hp : P p.shared := ih fun t ht => hkept t (List.mem_append_left _ ht)
    have hlast : ⟨p, a, p'⟩ ∈ es ++ [⟨p, a, p'⟩] := List.mem_concat_self
    cases he : p.event a with
    | none =>
      rw [(System.step_of_event_eq_none hs.1 he).1]
      exact hp
    | some e => exact hkept _ hlast e he hp

end Runs

/-- A step is taken by a thread of the pool. -/
lemma Pool.mem_of_event {e : Event κ ν} (h : p.event a = some e) :
    ∃ t ∈ p.threads, t.kind = e.self.kind := by
  cases a with
  | spawn k => exact absurd h (by simp [Pool.event])
  | run i coin | giveUp i =>
    simp only [Pool.event] at h
    split at h <;> simp_all
    all_goals
      next hi =>
      obtain rfl := h
      exact ⟨_, List.mem_of_getElem? hi, rfl⟩

/-- The threads after a step: those there were, and the one that was started. -/
lemma System.mem_of_step (h : S.step p a = some p') {t : Thread σ κ ν} (ht : t ∈ p'.threads) :
    (∃ t' ∈ p.threads, t'.kind = t.kind) ∨ a = .spawn t.kind := by
  have hset : ∀ {i k q}, p.threads[i]? = some ⟨k, q⟩ → ∀ {q'}, t ∈ p.threads.set i ⟨k, q'⟩ →
      ∃ t' ∈ p.threads, t'.kind = t.kind := by
    intro i k q hi q' ht
    rcases List.mem_or_eq_of_mem_set ht with ht | rfl
    · exact ⟨t, ht, rfl⟩
    · exact ⟨_, List.mem_of_getElem? hi, rfl⟩
  cases a with
  | spawn k =>
    simp only [System.step, Option.ite_none_right_eq_some, Option.some.injEq] at h
    obtain ⟨-, rfl⟩ := h
    rcases List.mem_append.1 ht with ht | ht
    · exact .inl ⟨t, ht, rfl⟩
    · obtain rfl := List.mem_singleton.1 ht
      exact .inr rfl
  | run i coin =>
    simp only [System.step] at h
    split at h
    · exact absurd h (by simp)
    · exact absurd h (by simp)
    all_goals
      next hi =>
      obtain ⟨-, rfl⟩ := guard_eq_some.1 h
      exact .inl (hset hi ht)
  | giveUp i =>
    simp only [System.step] at h
    split at h
    · next hi =>
      obtain ⟨-, rfl⟩ := guard_eq_some.1 h
      exact .inl (hset hi ht)
    · exact absurd h (by simp)

/-- Every thread of a run was started in it. -/
lemma System.Runs.spawned {P : Pool σ γ κ ν → Label κ → Prop} {s : σ} {g : γ}
    {es : List (Transition (Pool σ γ κ ν) (Label κ))}
    (h : Run (· = Pool.start s g) (fun _ p a p' => S.step p a = some p' ∧ P p a) es p) :
    ∀ t ∈ p.threads, ∃ x ∈ es, x.label = .spawn t.kind := by
  induction h with
  | nil h =>
    obtain rfl := h
    simp [Pool.start]
  | snoc _ hs ih =>
    intro t ht
    rcases System.mem_of_step hs.1 ht with ⟨t', ht', hk⟩ | rfl
    · obtain ⟨x, hx, hlabel⟩ := ih t' ht'
      exact ⟨x, by simp [hx], hk ▸ hlabel⟩
    · exact ⟨_, List.mem_concat_self, rfl⟩

variable (S) in
/-- The pool after a list of labels, if all of them can be taken and meet the
condition. -/
def System.exec (cond : Event κ ν → σ × γ → Prop) [∀ e s, Decidable (cond e s)] :
    Pool σ γ κ ν → List (Label κ) → Option (Pool σ γ κ ν)
  | p, [] => some p
  | p, a :: as =>
    if (p.event a).all fun e => decide (cond e (p.shared, p.log)) then
      (S.step p a).bind fun p' => exec cond p' as
    else none

section Exec

variable (cond : Event κ ν → σ × γ → Prop) [∀ e s, Decidable (cond e s)]

/-- What is executed is a run. -/
lemma System.Runs.exec {s : σ} {g : γ} (as : List (Label κ)) :
    ∀ {es : List (Transition (Pool σ γ κ ν) (Label κ))} {p : Pool σ γ κ ν}, S.Runs cond s g es p →
      S.exec cond p as = some p' → ∃ es', S.Runs cond s g es' p' := by
  induction as with
  | nil =>
    intro es p hrun hexec
    cases hexec
    exact ⟨es, hrun⟩
  | cons a as ih =>
    intro es p hrun hexec
    simp only [System.exec, Option.ite_none_right_eq_some, Option.all_eq_true,
      decide_eq_true_eq] at hexec
    obtain ⟨hcond, hexec⟩ := hexec
    obtain ⟨p₁, hstep, hexec⟩ := Option.bind_eq_some_iff.1 hexec
    exact ih (hrun.snoc ⟨hstep, hcond⟩) hexec

/-- A run that ends in a given step, from an execution of it. -/
theorem System.exists_run (s : σ) (g : γ) (as : List (Label κ)) (a : Label κ)
    (good : Pool σ γ κ ν → Pool σ γ κ ν → Bool)
    (h : ((S.exec cond (Pool.start s g) as).any fun p => (S.exec cond p [a]).any (good p)) = true) :
    ∃ es p p', S.Runs cond s g (es ++ [⟨p, a, p'⟩]) p' ∧ good p p' = true := by
  simp only [Option.any_eq_true] at h
  obtain ⟨p, hexec, p', hlast, hgood⟩ := h
  obtain ⟨es, hrun⟩ := System.Runs.exec cond as (.nil rfl) hexec
  simp only [System.exec, Option.ite_none_right_eq_some, Option.all_eq_true,
    decide_eq_true_eq] at hlast
  obtain ⟨hcond, hlast⟩ := hlast
  obtain ⟨p₁, hstep, rfl⟩ : ∃ p₁, S.step p a = some p₁ ∧ p₁ = p' := by
    simpa using hlast
  exact ⟨es, p, p₁, hrun.snoc ⟨hstep, hcond⟩, hgood⟩

end Exec

end Step

/-! ### Rules and obligations -/

/-- What a proof about a system says of its steps.  `cond` is assumed of every
step; `guar` is what each step of a thread does; `env` is what the others' steps
do while the lock is held by that holder, or free; `loose` is what any step does
to a thread without the lock; `inv` holds while the lock is free, and `locks` are
the kinds that take it. -/
structure Rules (σ γ κ ν : Type) where
  locks : κ → Prop
  cond : Event κ ν → σ × γ → Prop
  guar : Who κ → σ × γ → σ × γ → Prop
  env : Option (Who κ) → σ × γ → σ × γ → Prop
  loose : σ × γ → σ × γ → Prop
  inv : σ × γ → Prop

namespace Rules

variable {σ γ κ ν : Type} (R : Rules σ γ κ ν)

/-- A step of `w`, taken while `o` holds the lock, is within the rules. -/
structure Allows (w : Who κ) (o : Option (Who κ)) (s s' : σ × γ) : Prop where
  guar : R.guar w s s'
  loose : R.loose s s'
  env : o ≠ some w → R.env o s s'

/-- What happens to `w` between two of its own steps. -/
def rely (w : Who κ) : Bool → σ × γ → σ × γ → Prop
  | true => R.env (some w)
  | false => R.loose

/-- The laws of the rules: waiting is transitive, and the invariant of the free
lock outlasts what is done without it. -/
structure Laws : Prop where
  guar_refl : ∀ w s, R.guar w s s
  env_refl : ∀ o s, R.env o s s
  loose_refl : ∀ s, R.loose s s
  env_trans : ∀ w s s₁ s₂, R.env (some w) s s₁ → R.env (some w) s₁ s₂ → R.env (some w) s s₂
  loose_trans : ∀ s s₁ s₂, R.loose s s₁ → R.loose s₁ s₂ → R.loose s s₂
  inv_env : ∀ s s₁, R.inv s → R.env none s s₁ → R.inv s₁

variable {R}

lemma Laws.rely_refl (hR : R.Laws) (w : Who κ) (held : Bool) (s : σ × γ) :
    R.rely w held s s := by
  cases held
  · exact hR.loose_refl s
  · exact hR.env_refl (some w) s

lemma Laws.rely_trans (hR : R.Laws) {w : Who κ} {held : Bool} {s s₁ s₂ : σ × γ}
    (h : R.rely w held s s₁) (h' : R.rely w held s₁ s₂) : R.rely w held s s₂ := by
  cases held
  · exact hR.loose_trans _ _ _ h h'
  · exact hR.env_trans _ _ _ _ h h'

end Rules

section Safe

variable {σ γ κ ν : Type} (S : System σ γ κ ν) (R : Rules σ γ κ ν) (w : Who κ)

/-- The state after a step, with its history. -/
def System.after (o : Option (Who κ)) (n : ν) (s : σ × γ) (s' : σ) : σ × γ :=
  (s', S.note ⟨w, o, n⟩ s.1 s.2)

/-- The program of `w`, run from `s` with or without the lock, keeps to the rules
and ends with `Q`.  Before each of its steps the others may have taken any number
of theirs. -/
def Safe {α : Type} : Prog σ ν α → Bool → (Bool → α → σ × γ → Prop) → σ × γ → Prop
  | .ret a, held, Q, s => Q held a s
  | .act n enabled f next, held, Q, s =>
    ∀ s₁, R.rely w held s s₁ → enabled s₁.1 = true →
      ∀ o, (held = true ↔ o = some w) → R.cond ⟨w, o, n⟩ s₁ → ∀ coin,
        R.Allows w o s₁ (S.after w o n s₁ (f coin s₁.1).2) ∧
          Safe (next (f coin s₁.1).1) held Q (S.after w o n s₁ (f coin s₁.1).2)
  | .lock taken given giveUp next, held, Q, s =>
    (held = false ∧ R.locks w.kind) ∧ ∀ s₁, R.loose s s₁ →
      (R.inv s₁ → R.cond ⟨w, none, taken⟩ s₁ →
        R.Allows w none s₁ (S.after w none taken s₁ s₁.1) ∧
          Safe (next true) true Q (S.after w none taken s₁ s₁.1)) ∧
      (giveUp s₁.1 = true → ∀ o, o ≠ some w → R.cond ⟨w, o, given⟩ s₁ →
        R.Allows w o s₁ (S.after w o given s₁ s₁.1) ∧
          Safe (next false) false Q (S.after w o given s₁ s₁.1))
  | .unlock n next, held, Q, s =>
    held = true ∧ ∀ s₁, R.env (some w) s s₁ → R.cond ⟨w, some w, n⟩ s₁ →
      R.Allows w (some w) s₁ (S.after w (some w) n s₁ s₁.1) ∧
        R.inv (S.after w (some w) n s₁ s₁.1) ∧
          Safe next false Q (S.after w (some w) n s₁ s₁.1)

variable {S R w} {α β : Type} {held : Bool} {s s' : σ × γ} {Q : Bool → α → σ × γ → Prop}

/-- What follows a program is proved from what the program leaves. -/
lemma Safe.seq {p : Prog σ ν α} {k : α → Prog σ ν β} {Q' : Bool → β → σ × γ → Prop}
    (h : Safe S R w p held Q s) (hk : ∀ held a s, Q held a s → Safe S R w (k a) held Q' s) :
    Safe S R w (p >>= k) held Q' s := by
  rw [Prog.bind_def]
  induction p generalizing held s with
  | ret a => exact hk _ _ _ h
  | act n enabled f next ih =>
    intro s₁ hrely hen o ho hcond coin
    obtain ⟨hallows, hnext⟩ := h s₁ hrely hen o ho hcond coin
    exact ⟨hallows, ih _ hnext⟩
  | lock taken given giveUp next ih =>
    obtain ⟨hheld, h⟩ := h
    refine ⟨hheld, fun s₁ hrely => ⟨fun hinv hcond => ?_, fun hgive o ho hcond => ?_⟩⟩
    · obtain ⟨hallows, hnext⟩ := (h s₁ hrely).1 hinv hcond
      exact ⟨hallows, ih _ hnext⟩
    · obtain ⟨hallows, hnext⟩ := (h s₁ hrely).2 hgive o ho hcond
      exact ⟨hallows, ih _ hnext⟩
  | unlock n next ih =>
    obtain ⟨hheld, h⟩ := h
    refine ⟨hheld, fun s₁ hrely hcond => ?_⟩
    obtain ⟨hallows, hinv, hnext⟩ := h s₁ hrely hcond
    exact ⟨hallows, hinv, ih hnext⟩

/-- The rule of sequential composition. -/
theorem Safe.bind {p : Prog σ ν α} {k : α → Prog σ ν β} {Q : Bool → β → σ × γ → Prop}
    (h : Safe S R w p held (fun held a s => Safe S R w (k a) held Q s) s) :
    Safe S R w (p >>= k) held Q s :=
  h.seq fun _ _ _ hk => hk

/-- The rule of consequence. -/
theorem Safe.mono {p : Prog σ ν α} {Q Q' : Bool → α → σ × γ → Prop}
    (h : Safe S R w p held Q s) (hQ : ∀ held a s, Q held a s → Q' held a s) :
    Safe S R w p held Q' s := by
  rw [← Prog.bind_ret p]
  exact h.seq hQ

/-- The rule of a branch. -/
theorem Safe.ite {c : Prop} [Decidable c] {p q : Prog σ ν α} (hp : c → Safe S R w p held Q s)
    (hq : ¬ c → Safe S R w q held Q s) : Safe S R w (if c then p else q) held Q s := by
  split
  · next hc => exact hp hc
  · next hc => exact hq hc

/-- The rule of a short-circuit conjunction. -/
theorem Safe.andThen {c : Bool} {p : Prog σ ν Bool} {Q : Bool → Bool → σ × γ → Prop}
    (hp : c = true → Safe S R w p held Q s) (hq : c = false → Q held false s) :
    Safe S R w (.andThen c p) held Q s :=
  Safe.ite hp fun hc => hq (by simpa using hc)

/-- The rule of a short-circuit disjunction. -/
theorem Safe.orElse {c : Bool} {p : Prog σ ν Bool} {Q : Bool → Bool → σ × γ → Prop}
    (hp : c = true → Q held true s) (hq : c = false → Safe S R w p held Q s) :
    Safe S R w (.orElse c p) held Q s :=
  Safe.ite hp fun hc => hq (by simpa using hc)

/-- The rule of an action. -/
theorem Safe.perform {n : ν} {f : Bool → σ → α × σ}
    (h : ∀ s₁, R.rely w held s s₁ → ∀ o, (held = true ↔ o = some w) → R.cond ⟨w, o, n⟩ s₁ → ∀
    coin, R.Allows w o s₁ (S.after w o n s₁ (f coin s₁.1).2) ∧ Q held (f coin s₁.1).1 (S.after w
    o n s₁ (f coin s₁.1).2)) : Safe S R w (.perform n f) held Q s :=
  fun s₁ hrely _ o ho hcond coin => h s₁ hrely o ho hcond coin

/-- A step that changes nothing is within the rules. -/
lemma Rules.Laws.allows_refl (hR : R.Laws) (o : Option (Who κ)) (s : σ × γ) : R.Allows w o s s :=
  ⟨hR.guar_refl w s, hR.loose_refl s, fun _ => hR.env_refl o s⟩

/-- The rule of a read that the history does not remember. -/
theorem Safe.load (hR : R.Laws) {n : ν} {r : σ → α} (hnote : ∀ o s, S.after w o n s s.1 = s)
    (h : ∀ s₁, R.rely w held s s₁ → ∀ o, (held = true ↔ o = some w) → R.cond ⟨w, o, n⟩ s₁ → Q
    held (r s₁.1) s₁) : Safe S R w (.load n r) held Q s := by
  refine Safe.perform fun s₁ hrely o ho hcond _ => ?_
  show R.Allows w o s₁ (S.after w o n s₁ s₁.1) ∧ Q held (r s₁.1) (S.after w o n s₁ s₁.1)
  rw [hnote]
  exact ⟨hR.allows_refl o s₁, h s₁ hrely o ho hcond⟩

/-- The rule of an outcome nothing decides. -/
theorem Safe.toss (hR : R.Laws) {n : ν} {Q : Bool → Bool → σ × γ → Prop}
    (hnote : ∀ o s, S.after w o n s s.1 = s)
    (h : ∀ s₁, R.rely w held s s₁ → ∀ coin, Q held coin s₁) :
    Safe S R w (.toss n) held Q s := by
  refine Safe.perform fun s₁ hrely o _ _ coin => ?_
  show R.Allows w o s₁ (S.after w o n s₁ s₁.1) ∧ Q held coin (S.after w o n s₁ s₁.1)
  rw [hnote]
  exact ⟨hR.allows_refl o s₁, h s₁ hrely coin⟩

/-- What a thread of the pool owes: it ends without the lock. -/
abbrev Owes (S : System σ γ κ ν) (R : Rules σ γ κ ν) (w : Who κ) (p : Prog σ ν Unit) (held : Bool)
    (s : σ × γ) : Prop :=
  Safe S R w p held (fun held _ _ => held = false) s

/-- The obligation outlasts the steps of the others. -/
lemma Owes.rely (hR : R.Laws) {p : Prog σ ν Unit} (h : Owes S R w p held s)
    (hs : R.rely w held s s') : Owes S R w p held s' := by
  cases p with
  | ret _ => exact h
  | act n enabled f next => exact fun s₁ hrely => h s₁ (hR.rely_trans hs hrely)
  | lock taken given giveUp next =>
    obtain ⟨⟨rfl, hlocks⟩, h⟩ := h
    exact ⟨⟨rfl, hlocks⟩, fun s₁ hrely => h s₁ (hR.rely_trans hs hrely)⟩
  | unlock n next =>
    obtain ⟨rfl, h⟩ := h
    exact ⟨rfl, fun s₁ hrely => h s₁ (hR.rely_trans hs hrely)⟩

end Safe

/-! ### Soundness -/

section Sound

variable {σ γ κ ν : Type} {S : System σ γ κ ν} {R : Rules σ γ κ ν} {p p' : Pool σ γ κ ν}

/-- The shared state with its history. -/
def Pool.state (p : Pool σ γ κ ν) : σ × γ := (p.shared, p.log)

/-- The thread `i` holds the lock. -/
def Pool.holds (p : Pool σ γ κ ν) (i : ℕ) : Bool := p.owner.any (·.id == i)

/-- The invariant of a pool: the rules' own while the lock is free, a holder that
is one of the threads, and every thread's obligation. -/
structure PoolOk (S : System σ γ κ ν) (R : Rules σ γ κ ν) (p : Pool σ γ κ ν) : Prop where
  inv : p.owner = none → R.inv p.state
  locks : ∀ w, p.owner = some w → R.locks w.kind
  owner : ∀ w, p.owner = some w → ∃ q, p.threads[w.id]? = some ⟨w.kind, q⟩
  owes : ∀ i k q, p.threads[i]? = some ⟨k, q⟩ → Owes S R ⟨i, k⟩ q (p.holds i) p.state

namespace PoolOk

variable {i : ℕ} {k : κ} {q q' : Prog σ ν Unit} {s' : σ × γ}

lemma holds_iff (h : PoolOk S R p) (hi : p.threads[i]? = some ⟨k, q⟩) :
    p.holds i = true ↔ p.owner = some ⟨i, k⟩ := by
  constructor
  · intro hheld
    obtain ⟨⟨j, k₁⟩, hw, hid⟩ : ∃ w, p.owner = some w ∧ w.id = i := by
      simpa [Pool.holds, Option.any_eq_true] using hheld
    obtain rfl : j = i := hid
    obtain ⟨q₁, hq₁⟩ := h.owner _ hw
    rw [hi] at hq₁
    have hk : k = k₁ := congrArg Thread.kind (Option.some.inj hq₁)
    rw [hw, hk]
  · intro ho
    simp [Pool.holds, ho]

/-- A step of one thread leaves the others with their obligations. -/
lemma others (hR : R.Laws) (h : PoolOk S R p) (hallows : R.Allows ⟨i, k⟩ p.owner p.state s')
    {j : ℕ} (hj : j ≠ i) {k₁ : κ} {q₁ : Prog σ ν Unit} (hq : p.threads[j]? = some ⟨k₁, q₁⟩) :
    Owes S R ⟨j, k₁⟩ q₁ (p.holds j) s' := by
  refine (h.owes j k₁ q₁ hq).rely hR ?_
  cases hheld : p.holds j with
  | false => exact hallows.loose
  | true =>
    have ho := (h.holds_iff hq).1 hheld
    have hne : p.owner ≠ some ⟨i, k⟩ := by
      rw [ho]
      simp [hj]
    have henv := hallows.env hne
    rwa [ho] at henv

/-- The pool after a step of the thread `i`, whatever the step does to the lock. -/
lemma advance (hR : R.Laws) (h : PoolOk S R p) (hi : p.threads[i]? = some ⟨k, q⟩) {n : ν} {s : σ}
    {o : Option (Who κ)}
    (hallows : R.Allows ⟨i, k⟩ p.owner p.state (S.after ⟨i, k⟩ p.owner n p.state s))
    (ho : o = p.owner ∨ (R.locks k ∧ p.owner = none ∧ o = some ⟨i, k⟩) ∨
      p.owner = some ⟨i, k⟩ ∧ o = none)
    (hinv : o = none → R.inv (S.after ⟨i, k⟩ p.owner n p.state s))
    (howes : Owes S R ⟨i, k⟩ q' (o.any (·.id == i)) (S.after ⟨i, k⟩ p.owner n p.state s)) :
    PoolOk S R { S.advance p i k n s q' with owner := o } := by
  have hlt : i < p.threads.length := (List.getElem?_eq_some_iff.1 hi).1
  refine ⟨hinv, fun w hw => ?_, fun w hw => ?_, fun j k₁ q₁ hq => ?_⟩
  · rcases ho with rfl | ⟨hlocks, -, rfl⟩ | ⟨-, rfl⟩
    · exact h.locks w hw
    · cases hw
      exact hlocks
    · exact absurd hw (by simp)
  · rcases eq_or_ne w.id i with hid | hid
    · refine ⟨q', ?_⟩
      have hk : w.kind = k := by
        rcases ho with rfl | ⟨-, -, rfl⟩ | ⟨-, rfl⟩
        · obtain ⟨q₁, hq₁⟩ := h.owner w hw
          rw [hid, hi] at hq₁
          exact (congrArg Thread.kind (Option.some.inj hq₁)).symm
        · exact (congrArg Who.kind (Option.some.inj hw)).symm
        · exact absurd hw (by simp)
      simp [System.advance, hid, hlt, hk]
    · rcases ho with rfl | ⟨-, -, rfl⟩ | ⟨-, rfl⟩
      · obtain ⟨q₁, hq₁⟩ := h.owner w hw
        exact ⟨q₁, by simpa [System.advance, List.getElem?_set_ne (Ne.symm hid)] using hq₁⟩
      · exact absurd (congrArg Who.id (Option.some.inj hw)).symm hid
      · exact absurd hw (by simp)
  · rcases eq_or_ne j i with rfl | hj
    · obtain ⟨rfl, rfl⟩ : k = k₁ ∧ q' = q₁ := by
        simpa [System.advance, hlt] using hq
      exact howes
    · have hq₁ : p.threads[j]? = some ⟨k₁, q₁⟩ := by
        simpa [System.advance, List.getElem?_set_ne (Ne.symm hj)] using hq
      have hheld : o.any (·.id == j) = p.holds j := by
        rcases ho with rfl | ⟨-, hnone, rfl⟩ | ⟨hsome, rfl⟩
        · rfl
        · simp [Pool.holds, hnone, Ne.symm hj]
        · simp [Pool.holds, hsome, Ne.symm hj]
      show Owes S R ⟨j, k₁⟩ q₁ (o.any (·.id == j)) _
      rw [hheld]
      exact h.others hR hallows hj hq₁

/-- A new thread. -/
lemma spawn (h : PoolOk S R p) (howes : ∀ i, Owes S R ⟨i, k⟩ q false p.state) :
    PoolOk S R { p with threads := p.threads ++ [⟨k, q⟩] } := by
  refine ⟨h.inv, h.locks, fun w hw => ?_, fun i k₁ q₁ hi => ?_⟩
  · obtain ⟨q₁, hq₁⟩ := h.owner w hw
    have hlt : w.id < p.threads.length := (List.getElem?_eq_some_iff.1 hq₁).1
    exact ⟨q₁, by simpa [List.getElem?_append_left hlt] using hq₁⟩
  · rcases lt_or_ge i p.threads.length with hlt | hge
    · exact h.owes i k₁ q₁ (by simpa [List.getElem?_append_left hlt] using hi)
    · obtain ⟨rfl, rfl⟩ : k₁ = k ∧ q₁ = q := by
        rw [List.getElem?_append_right hge] at hi
        simpa using (List.mem_of_getElem? hi)
      -- nobody but a thread of the pool holds the lock, so the new one does not
      have hheld : p.holds i = false := by
        rw [← Bool.not_eq_true]
        intro hi
        obtain ⟨w, hw, rfl⟩ : ∃ w, p.owner = some w ∧ w.id = i := by
          simpa [Pool.holds, Option.any_eq_true] using hi
        obtain ⟨q₁, hq₁⟩ := h.owner w hw
        exact absurd (List.getElem?_eq_some_iff.1 hq₁).1 (by omega)
      show Owes S R ⟨i, k₁⟩ q₁ (p.holds i) p.state
      rw [hheld]
      exact howes i

/-- One step of a pool in which every kind's program meets its obligation. -/
theorem step (hR : R.Laws)
    (hbody : ∀ i k s, S.may k s.1 = true → Owes S R ⟨i, k⟩ (S.body k) false s)
    (h : PoolOk S R p) {a : Label κ} (hstep : S.step p a = some p')
    (hcond : ∀ e, p.event a = some e → R.cond e p.state) :
    PoolOk S R p' ∧ ∀ e, p.event a = some e → R.guar e.self p.state p'.state := by
  cases a with
  | spawn k =>
    simp only [System.step, Option.ite_none_right_eq_some, Option.some.injEq] at hstep
    obtain ⟨hmay, rfl⟩ := hstep
    exact ⟨h.spawn fun i => hbody i k p.state hmay, fun e he => absurd he (by simp [Pool.event])⟩
  | run i coin =>
    simp only [System.step] at hstep
    simp only [Pool.event] at hcond ⊢
    split at hstep
    · exact absurd hstep (by simp)
    · exact absurd hstep (by simp)
    · next k β n enabled f next hi =>
      simp only [hi, Option.some.injEq, forall_eq', Option.ite_none_right_eq_some] at hcond hstep ⊢
      obtain ⟨hen, rfl⟩ := hstep
      have howes := h.owes i k _ hi
      obtain ⟨hallows, hnext⟩ := howes p.state (hR.rely_refl _ _ _) hen p.owner (h.holds_iff hi)
        hcond coin
      refine ⟨h.advance hR hi hallows (.inl rfl) (fun hnone => ?_) hnext, hallows.guar⟩
      exact hR.inv_env _ _ (h.inv hnone) (hnone ▸ hallows.env (by simp [hnone]))
    · next k taken given giveUp next hi =>
      simp only [hi, Option.some.injEq, forall_eq', Option.ite_none_right_eq_some,
        Option.isNone_iff_eq_none] at hcond hstep ⊢
      obtain ⟨hnone, rfl⟩ := hstep
      obtain ⟨⟨-, hlocks⟩, howes⟩ := h.owes i k _ hi
      obtain ⟨hallows, hnext⟩ := (howes p.state (hR.rely_refl ⟨i, k⟩ false _)).1 (h.inv hnone)
        (hnone ▸ hcond)
      rw [← hnone] at hallows hnext
      refine ⟨h.advance hR hi hallows (.inr (.inl ⟨hlocks, hnone, rfl⟩)) (by simp) ?_,
        hallows.guar⟩
      simp only [Option.any_some, beq_self_eq_true]
      exact hnext
    · next k n next hi =>
      simp only [hi, Option.some.injEq, forall_eq', Option.ite_none_right_eq_some] at hcond hstep ⊢
      obtain ⟨hheld, rfl⟩ := hstep
      have hsome : p.owner = some ⟨i, k⟩ := (h.holds_iff hi).1 hheld
      obtain ⟨-, howes⟩ := h.owes i k _ hi
      obtain ⟨hallows, hinv, hnext⟩ := howes p.state (hR.rely_refl ⟨i, k⟩ true _) (hsome ▸ hcond)
      rw [← hsome] at hallows hnext hinv
      exact ⟨h.advance hR hi hallows (.inr (.inr ⟨hsome, rfl⟩)) (fun _ => hinv) hnext, hallows.guar⟩
  | giveUp i =>
    simp only [System.step] at hstep
    simp only [Pool.event] at hcond ⊢
    split at hstep
    · next k taken given giveUp next hi =>
      simp only [hi, Option.some.injEq, forall_eq', Option.ite_none_right_eq_some] at hcond hstep ⊢
      obtain ⟨hgive, rfl⟩ := hstep
      obtain ⟨⟨hfree, -⟩, howes⟩ := h.owes i k _ hi
      have hne : p.owner ≠ some ⟨i, k⟩ := by
        rw [← h.holds_iff hi |>.ne]
        simp [hfree]
      obtain ⟨hallows, hnext⟩ := (howes p.state (hR.rely_refl ⟨i, k⟩ false _)).2 hgive p.owner hne
        hcond
      refine ⟨h.advance hR hi hallows (.inl rfl) (fun hnone => ?_) ?_, hallows.guar⟩
      · exact hR.inv_env _ _ (h.inv hnone) (hnone ▸ hallows.env hne)
      · show Owes S R ⟨i, k⟩ _ (p.holds i) _
        rwa [hfree]
    · exact absurd hstep (by simp)

/-- The lock is free when every thread that takes it has finished. -/
lemma owner_eq_none (h : PoolOk S R p)
    (hdone : ∀ t ∈ p.threads, R.locks t.kind → t.prog.finished = true) : p.owner = none := by
  rw [Option.eq_none_iff_forall_ne_some]
  intro w hw
  obtain ⟨q, hq⟩ := h.owner w hw
  have hfin : q.finished = true := hdone _ (List.mem_of_getElem? hq) (h.locks w hw)
  cases q with
  | ret a =>
    -- a finished program owes that it ended without the lock
    have hheld : p.holds w.id = false := h.owes _ _ _ hq
    rw [Pool.holds, hw] at hheld
    simp at hheld
  | act | lock | unlock => exact absurd hfin (by simp [Prog.finished])

end PoolOk

/-- The rule of runs: when the program of every kind meets its obligation, the
pool's invariant holds along every run, and every step of it keeps to the
guarantee. -/
theorem Rules.sound (hR : R.Laws)
    (hbody : ∀ i k s, S.may k s.1 = true → Owes S R ⟨i, k⟩ (S.body k) false s) {s : σ} {g : γ}
    (hinv : R.inv (s, g)) {es : List (Transition (Pool σ γ κ ν) (Label κ))}
    (hrun : S.Runs R.cond s g es p) :
    PoolOk S R p ∧ ∀ t ∈ es, ∀ e, t.pre.event t.label = some e →
      R.guar e.self t.pre.state t.post.state := by
  induction hrun with
  | nil h =>
    obtain rfl := h
    refine ⟨⟨fun _ => hinv, ?_, ?_, ?_⟩, by simp⟩
    · simp [Pool.start]
    · simp [Pool.start]
    · simp [Pool.start]
  | snoc _ hs ih =>
    obtain ⟨hok, hguar⟩ := ih
    obtain ⟨hok', hguar'⟩ := hok.step hR hbody hs.1 hs.2
    refine ⟨hok', fun t ht => ?_⟩
    rcases List.mem_append.1 ht with ht | ht
    · exact hguar t ht
    · obtain rfl := List.mem_singleton.1 ht
      exact hguar'

end Sound

end UrnetworkWindows.Lib
