/-
Marks on a history.

An event of a history is known by its place, and a kind of event by a predicate.  `Pending` events
wait for an answer, and a history is `Answered` where every answer has its event.  Where an event
comes after all the earlier answers, no two answers share one (`Answered.exists_own`).
-/
import UrnetworkWindows.Lib.Trace

namespace UrnetworkWindows.Lib

section Marks

variable {α : Type*} {es : List α} {e : α} {P Q : α → Prop} {R : α → α → Prop} {i k : ℕ}

/-- The event at a place is of a kind. -/
def Marked (es : List α) (P : α → Prop) (i : ℕ) : Prop := ∃ e, es[i]? = some e ∧ P e

/-- A place comes after every event of a kind. -/
def Beyond (es : List α) (P : α → Prop) (k : ℕ) : Prop := ∀ i, Marked es P i → i < k

/-- An event of the history stays where it is. -/
lemma getElem?_snoc {c : α} (h : es[k]? = some c) : (es ++ [e])[k]? = some c :=
  (List.getElem?_append_left (List.getElem?_eq_some_iff.1 h).1).trans h

namespace Marked

lemma lt (h : Marked es P i) : i < es.length := by
  obtain ⟨e, he, -⟩ := h
  exact (List.getElem?_eq_some_iff.1 he).1

lemma of_snoc (h : Marked (es ++ [e]) P i) : Marked es P i ∨ i = es.length ∧ P e := by
  obtain ⟨x, hx, hp⟩ := h
  rcases getElem?_snoc_cases hx with hx | ⟨rfl, rfl⟩
  · exact .inl ⟨x, hx, hp⟩
  · exact .inr ⟨rfl, hp⟩

end Marked

namespace Beyond

lemma length : Beyond es P es.length := fun _ hi => hi.lt

/-- An event of another kind leaves a place beyond. -/
lemma snoc (h : Beyond es P k) (he : ¬ P e) : Beyond (es ++ [e]) P k := by
  intro i hi
  exact h i (hi.of_snoc.resolve_right fun hlast => he hlast.2)

end Beyond

/-- An event waits to be answered: it came after every event of another kind. -/
def Pending (es : List α) (R Q : α → Prop) : Prop := ∃ k c, es[k]? = some c ∧ R c ∧ Beyond es Q k

/-- Every event of a kind answers one that had come after every earlier event of another. -/
def Answered (es : List α) (P : α → Prop) (R : α → α → Prop) (Q : α → Prop) : Prop :=
  ∀ i e, es[i]? = some e → P e → ∃ k c, k < i ∧ es[k]? = some c ∧ R c e ∧
    ∀ j < i, Marked es Q j → j < k

namespace Pending

variable {W W' : α → Prop}

lemma last (h : W e) (he : ¬ Q e) : Pending (es ++ [e]) W Q :=
  ⟨es.length, e, List.getElem?_concat_length, h, Beyond.length.snoc he⟩

lemma snoc (h : Pending es W Q) (he : ¬ Q e) : Pending (es ++ [e]) W Q := by
  obtain ⟨k, c, hc, hw, hbeyond⟩ := h
  exact ⟨k, c, getElem?_snoc hc, hw, hbeyond.snoc he⟩

lemma imp (h : Pending es W Q) (himp : ∀ c, W c → W' c) : Pending es W' Q := by
  obtain ⟨k, c, hc, hw, hbeyond⟩ := h
  exact ⟨k, c, hc, himp c hw, hbeyond⟩

end Pending

namespace Answered

lemma nil : Answered [] P R Q := fun _ _ he => absurd he nofun

/-- An event of another kind answers nothing. -/
lemma snoc_of_not (h : Answered es P R Q) (he : ¬ P e) : Answered (es ++ [e]) P R Q := by
  intro i x hx hp
  rcases getElem?_snoc_cases hx with hx | ⟨-, rfl⟩
  · obtain ⟨k, c, hk, hc, hr, hlast⟩ := h i x hx hp
    refine ⟨k, c, hk, getElem?_snoc hc, hr, fun j hj hq => hlast j hj (hq.of_snoc.resolve_right ?_)⟩
    rintro ⟨rfl, -⟩
    have hi := (List.getElem?_eq_some_iff.1 hx).1
    omega
  · exact absurd hp he

/-- An event answers what waits. -/
lemma snoc (h : Answered es P R Q) (hpending : Pending es (R · e) Q) :
    Answered (es ++ [e]) P R Q := by
  obtain ⟨k, c, hc, hr, hbeyond⟩ := hpending
  intro i x hx hp
  have hlt : i ≤ es.length := by
    have hi := (List.getElem?_eq_some_iff.1 hx).1
    rw [List.length_append, List.length_singleton] at hi
    omega
  have hold : ∀ j < i, Marked (es ++ [e]) Q j → Marked es Q j := by
    intro j hj hq
    refine hq.of_snoc.resolve_right ?_
    rintro ⟨rfl, -⟩
    omega
  rcases getElem?_snoc_cases hx with hx | ⟨rfl, rfl⟩
  · obtain ⟨k, c, hk, hc, hr, hlast⟩ := h i x hx hp
    exact ⟨k, c, hk, getElem?_snoc hc, hr, fun j hj hq => hlast j hj (hold j hj hq)⟩
  · exact ⟨k, c, (List.getElem?_eq_some_iff.1 hc).1, getElem?_snoc hc, hr,
      fun j hj hq => hbeyond j (hold j hj hq)⟩

/-- No two events answer the same one. -/
theorem exists_own (h : Answered es P R Q) (hpq : ∀ e, P e → Q e) :
    ∃ f : ℕ → ℕ, (∀ i e, es[i]? = some e → P e → f i < i ∧ ∃ c, es[f i]? = some c ∧ R c e) ∧
      Set.InjOn f {i | Marked es P i} := by
  have hplace : ∀ i, ∃ k, ∀ e, es[i]? = some e → P e → k < i ∧ (∃ c, es[k]? = some c ∧ R c e) ∧
      ∀ j < i, Marked es Q j → j < k := by
    intro i
    by_cases hi : Marked es P i
    · obtain ⟨e, he, hp⟩ := hi
      obtain ⟨k, c, hk, hc, hr, hlast⟩ := h i e he hp
      refine ⟨k, fun e' he' _ => ?_⟩
      cases he.symm.trans he'
      exact ⟨hk, ⟨c, hc, hr⟩, hlast⟩
    · exact ⟨0, fun e he hp => absurd ⟨e, he, hp⟩ hi⟩
  choose f hf using hplace
  refine ⟨f, fun i e he hp => ⟨(hf i e he hp).1, (hf i e he hp).2.1⟩, ?_⟩
  -- the earlier of two answers comes before what the later one answers
  have hlt : ∀ i j, Marked es P i → Marked es P j → i < j → f i < f j := by
    rintro i j ⟨x, hx, hpx⟩ ⟨y, hy, hpy⟩ hij
    have hi := (hf i x hx hpx).1
    have hj := (hf j y hy hpy).2.2 i hij ⟨x, hx, hpq x hpx⟩
    omega
  intro i hi j hj heq
  rcases Nat.lt_trichotomy i j with hij | hij | hij
  · exact absurd heq (hlt i j hi hj hij).ne
  · exact hij
  · exact absurd heq (hlt j i hj hi hij).ne'

end Answered

end Marks

/-! ### Executions that are written down -/

section Record

variable {σ α : Type*} (next : σ → α → Option σ) (ok : σ → α → Bool)

/-- The transitions of an execution, if all its labels are allowed and can be taken. -/
def record : σ → List α → Option (List (Transition σ α))
  | _, [] => some []
  | s, a :: as =>
    if ok s a then (next s a).bind fun s' => (record s' as).map fun es => ⟨s, a, s'⟩ :: es else none

variable {next ok} {init : σ → Prop} {step : List (Transition σ α) → σ → α → σ → Prop}

/-- What is written down is a run. -/
theorem Run.record (hstep : ∀ es s a s', ok s a = true → next s a = some s' → step es s a s')
    (as : List α) : ∀ {es es' : List (Transition σ α)} {s : σ}, Run init step es s →
      Lib.record next ok s as = some es' → ∃ s', Run init step (es ++ es') s' := by
  induction as with
  | nil =>
    intro es es' s h hrec
    cases hrec
    rw [List.append_nil]
    exact ⟨s, h⟩
  | cons a as ih =>
    intro es es' s h hrec
    simp only [Lib.record, Option.ite_none_right_eq_some] at hrec
    obtain ⟨hok, hrec⟩ := hrec
    obtain ⟨s₁, hs₁, hrec⟩ := Option.bind_eq_some_iff.1 hrec
    obtain ⟨rest, hrest, rfl⟩ := Option.map_eq_some_iff.1 hrec
    obtain ⟨s', hrun⟩ := ih (h.snoc (hstep es s a s₁ hok hs₁)) hrest
    rw [List.append_assoc, List.singleton_append] at hrun
    exact ⟨s', hrun⟩

/-- A run with a history of a given kind. -/
theorem Run.exists_of_record
    (hstep : ∀ es s a s', ok s a = true → next s a = some s' → step es s a s') {s₀ : σ}
    (hinit : init s₀) (as : List α) (good : List (Transition σ α) → Bool)
    (h : ((Lib.record next ok s₀ as).any good) = true) :
    ∃ es s, Run init step es s ∧ good es = true := by
  obtain ⟨es, hrec, hgood⟩ := (Option.any_eq_true _ _).1 h
  obtain ⟨s, hrun⟩ := Run.record hstep as (.nil hinit) hrec
  exact ⟨es, s, hrun, hgood⟩

end Record

end UrnetworkWindows.Lib
