/-
Programs that ask their environment, and rules of pre- and postconditions for them.

A program makes calls, each with a type of answers, and the environment may give any answer.  What
the calls and answers so far have made of the world is kept beside the run by a function `note`,
which no program reads.  `wp` says what must hold of the world for every call of a program to be
allowed and for its end to meet a postcondition, whatever the answers; `wp_sound` says that then
every run does.
-/
import Mathlib.Logic.Basic

namespace UrnetworkWindows.Lib

/-- A program that makes calls and returns a value. -/
inductive Dialogue (Call : Type) (Answer : Call → Type) (α : Type) : Type
  | ret (a : α)
  | call (c : Call) (next : Answer c → Dialogue Call Answer α)

namespace Dialogue

variable {Call : Type} {Answer : Call → Type} {α β ω : Type}

/-- One program after the other. -/
def bind : Dialogue Call Answer α → (α → Dialogue Call Answer β) → Dialogue Call Answer β
  | ret a, k => k a
  | call c next, k => call c fun r => (next r).bind k

instance : Monad (Dialogue Call Answer) where
  pure := ret
  bind := bind

/-- A call. -/
def ask (c : Call) : Dialogue Call Answer (Answer c) := call c ret

/-- A call and its answer. -/
structure Exchange (Call : Type) (Answer : Call → Type) where
  call : Call
  answer : Answer call

/-- The runs of a program: the calls with the answers they were given, and the value returned. -/
inductive Runs : Dialogue Call Answer α → List (Exchange Call Answer) → α → Prop
  | ret (a : α) : Runs (ret a) [] a
  | call {c : Call} {next : Answer c → Dialogue Call Answer α} {r : Answer c}
      {es : List (Exchange Call Answer)} {a : α} (h : Runs (next r) es a) :
      Runs (call c next) (⟨c, r⟩ :: es) a

/-- The run in which the environment answers a call by a function of the calls so far. -/
def answered (answer : List (Exchange Call Answer) → (c : Call) → Answer c) :
    Dialogue Call Answer α → List (Exchange Call Answer) → List (Exchange Call Answer) × α
  | ret a, _ => ([], a)
  | call c next, past =>
    let e : Exchange Call Answer := ⟨c, answer past c⟩
    let rest := answered answer (next e.answer) (past ++ [e])
    (e :: rest.1, rest.2)

lemma runs_answered (answer : List (Exchange Call Answer) → (c : Call) → Answer c)
    (p : Dialogue Call Answer α) (past : List (Exchange Call Answer)) :
    Runs p (p.answered answer past).1 (p.answered answer past).2 := by
  induction p generalizing past with
  | ret a => exact .ret a
  | call c next ih => exact .call (ih _ _)

/-! ### Rules -/

section

variable (allowed : ω → Call → Prop) (note : ω → Exchange Call Answer → ω)

/-- The weakest precondition: every call is allowed where it is made, and the end meets the
postcondition. -/
def wp : Dialogue Call Answer α → (ω → α → Prop) → ω → Prop
  | ret a, Q, w => Q w a
  | call c next, Q, w => allowed w c ∧ ∀ r, wp (next r) Q (note w ⟨c, r⟩)

variable {allowed note} {Q Q' : ω → α → Prop} {w : ω} {p : Dialogue Call Answer α}

@[simp] lemma wp_pure {a : α} : wp allowed note (pure a) Q w ↔ Q w a := Iff.rfl

lemma wp_ask {c : Call} {Q : ω → Answer c → Prop} :
    wp allowed note (ask c) Q w ↔ allowed w c ∧ ∀ r, Q (note w ⟨c, r⟩) r := Iff.rfl

lemma wp_bind {k : α → Dialogue Call Answer β} {Q : ω → β → Prop} :
    wp allowed note (p >>= k) Q w ↔
      wp allowed note p (fun w a => wp allowed note (k a) Q w) w := by
  induction p generalizing w with
  | ret a => exact Iff.rfl
  | call c next ih => exact and_congr_right fun _ => forall_congr' fun r => ih r

/-- A call, then the rest for each of its answers. -/
lemma wp_call {c : Call} {k : Answer c → Dialogue Call Answer α} (hallowed : allowed w c)
    (h : ∀ r, wp allowed note (k r) Q (note w ⟨c, r⟩)) : wp allowed note (ask c >>= k) Q w :=
  ⟨hallowed, h⟩

/-- A call that leaves the world as it is. -/
lemma wp_quiet {c : Call} {k : Answer c → Dialogue Call Answer α}
    (hnote : ∀ r, note w ⟨c, r⟩ = w) (hallowed : allowed w c)
    (h : ∀ r, wp allowed note (k r) Q w) : wp allowed note (ask c >>= k) Q w :=
  wp_call hallowed fun r => (hnote r).symm ▸ h r

/-- A branch, with what its test tells. -/
lemma wp_ite {cond : Prop} [Decidable cond] {q : Dialogue Call Answer α}
    (hp : cond → wp allowed note p Q w) (hq : ¬cond → wp allowed note q Q w) :
    wp allowed note (if cond then p else q) Q w := by
  split
  · next h => exact hp h
  · next h => exact hq h

lemma wp_mono (h : wp allowed note p Q w) (hQ : ∀ w a, Q w a → Q' w a) :
    wp allowed note p Q' w := by
  induction p generalizing w with
  | ret a => exact hQ w a h
  | call c next ih => exact ⟨h.1, fun r => ih r (h.2 r)⟩

/-- In every run of a program whose precondition holds, each call is allowed where it is made and
the end meets the postcondition. -/
theorem wp_sound (h : wp allowed note p Q w) {es : List (Exchange Call Answer)} {a : α}
    (hrun : Runs p es a) :
    (∀ pre e post, es = pre ++ e :: post → allowed (pre.foldl note w) e.call) ∧
      Q (es.foldl note w) a := by
  induction hrun generalizing w with
  | ret a => exact ⟨fun pre e post he => absurd he (by simp), h⟩
  | @call c next r es a hrun ih =>
    obtain ⟨hallowed, hnext⟩ := ih (h.2 r)
    refine ⟨fun pre e post he => ?_, hnext⟩
    cases pre with
    | nil =>
      obtain ⟨rfl, -⟩ := List.cons.inj he
      exact h.1
    | cons e' pre =>
      obtain ⟨rfl, hrest⟩ := List.cons.inj he
      exact hallowed pre e post hrest

end

/-! ### Programs of one kind of calls -/

section

variable {kind : Call → Prop} {p q : Dialogue Call Answer α} {cond : Prop} [Decidable cond]

/-- Every call a program may make, whatever the answers, is of a kind. -/
def AllCalls (kind : Call → Prop) : Dialogue Call Answer α → Prop
  | ret _ => True
  | call c next => kind c ∧ ∀ r, AllCalls kind (next r)

namespace AllCalls

lemma bind {k : α → Dialogue Call Answer β} (h : AllCalls kind p)
    (hk : ∀ a, AllCalls kind (k a)) : AllCalls kind (p >>= k) := by
  induction p with
  | ret a => exact hk a
  | call c next ih => exact ⟨h.1, fun r => ih r (h.2 r)⟩

lemma ask {c : Call} (hc : kind c) : AllCalls kind (ask c : Dialogue Call Answer (Answer c)) :=
  ⟨hc, fun _ => trivial⟩

lemma call {c : Call} {k : Answer c → Dialogue Call Answer α} (hc : kind c)
    (hk : ∀ r, AllCalls kind (k r)) : AllCalls kind (Dialogue.ask c >>= k) := ⟨hc, hk⟩

lemma ite (hp : AllCalls kind p) (hq : AllCalls kind q) :
    AllCalls kind (if cond then p else q) := by
  split
  · exact hp
  · exact hq

variable {allowed : ω → Call → Prop} {note : ω → Exchange Call Answer → ω}

/-- A program whose calls are allowed anywhere and change nothing. -/
lemma wp {Q : ω → α → Prop} {w : ω} (h : AllCalls kind p)
    (hquiet : ∀ c, kind c → allowed w c ∧ ∀ r, note w ⟨c, r⟩ = w) (hQ : ∀ a, Q w a) :
    wp allowed note p Q w := by
  induction p with
  | ret a => exact hQ a
  | call c next ih =>
    refine ⟨(hquiet c h.1).1, fun r => ?_⟩
    rw [(hquiet c h.1).2 r]
    exact ih r (h.2 r)

end AllCalls

end

end Dialogue

end UrnetworkWindows.Lib
