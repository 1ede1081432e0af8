/-
Lists of parties, each known by its place in the list.

A step changes the entry at one place, or puts a new one at the end.  What is said of the
entries, place by place or by a sum over them, is moved across by the lemmas here.
-/
import Mathlib.Tactic

namespace UrnetworkWindows.Lib

variable {α : Type*} {l : List α} {i j : ℕ} {x y : α}

/-- An entry of the list after a change: the new one, or one of another place. -/
lemma getElem?_set_cases {z : α} (h : (l.set i y)[j]? = some z) :
    j = i ∧ z = y ∨ i ≠ j ∧ l[j]? = some z := by
  by_cases hij : i = j
  · subst hij
    have hlt : i < l.length := by
      have hlen := (List.getElem?_eq_some_iff.1 h).1
      rw [List.length_set] at hlen
      exact hlen
    rw [List.getElem?_set_self hlt] at h
    exact .inl ⟨rfl, (Option.some.inj h).symm⟩
  · rw [List.getElem?_set_ne hij] at h
    exact .inr ⟨hij, h⟩

/-- An entry of the list with a new one at its end: the new one, or one from before. -/
lemma getElem?_snoc_cases {z : α} (h : (l ++ [y])[j]? = some z) :
    l[j]? = some z ∨ j = l.length ∧ z = y := by
  rcases Nat.lt_or_ge j l.length with hlt | hge
  · rw [List.getElem?_append_left hlt] at h
    exact .inl h
  · rw [List.getElem?_append_right hge] at h
    obtain ⟨hj, hz⟩ := List.getElem?_eq_some_iff.1 h
    rw [List.length_singleton] at hj
    refine .inr ⟨by omega, ?_⟩
    rw [← hz, List.getElem_singleton]

/-- What some element of a list has is had by one after a change of an element that
keeps it. -/
lemma exists_mem_set {p : α → Prop} (h : ∃ a ∈ l, p a) (hi : l[i]? = some x)
    (hp : p x → p y) : ∃ a ∈ l.set i y, p a := by
  obtain ⟨a, ha, hpa⟩ := h
  obtain ⟨j, hj, rfl⟩ := List.mem_iff_getElem.1 ha
  by_cases hij : i = j
  · subst hij
    have hx : l[i] = x := by
      rw [List.getElem?_eq_getElem hj, Option.some.injEq] at hi
      exact hi
    rw [hx] at hpa
    exact ⟨y, List.mem_of_getElem? (List.getElem?_set_self hj), hp hpa⟩
  · refine ⟨l[j], List.mem_of_getElem? (i := j) ?_, hpa⟩
    rw [List.getElem?_set_ne hij, List.getElem?_eq_getElem hj]

lemma exists_mem_set_iff {p : α → Prop} (hi : l[i]? = some x) (hp : p y ↔ p x) :
    (∃ a ∈ l.set i y, p a) ↔ ∃ a ∈ l, p a := by
  constructor
  · rintro ⟨a, ha, hpa⟩
    rcases List.mem_or_eq_of_mem_set ha with ha | rfl
    · exact ⟨a, ha, hpa⟩
    · exact ⟨x, List.mem_of_getElem? hi, hp.1 hpa⟩
  · intro h
    exact exists_mem_set h hi hp.2

lemma any_set {p : α → Bool} (hi : l[i]? = some x) (k : ℕ) :
    (l.set i y)[k]?.any p = if i = k then p y else l[k]?.any p := by
  have hlt : i < l.length := (List.getElem?_eq_some_iff.1 hi).1
  split
  next h =>
    subst h
    rw [List.getElem?_set_self hlt, Option.any_some]
  next h => rw [List.getElem?_set_ne h]

/-- A change of an element that does not decide the predicate. -/
lemma any_set_eq {p : α → Bool} (hi : l[i]? = some x) (hp : p y = p x) (k : ℕ) :
    (l.set i y)[k]?.any p = l[k]?.any p := by
  rw [any_set hi]
  split
  next h =>
    subst h
    rw [hi, Option.any_some, hp]
  next => rfl

lemma any_snoc {p : α → Bool} (hp : p y = false) (k : ℕ) :
    (l ++ [y])[k]?.any p = l[k]?.any p := by
  rcases Nat.lt_trichotomy k l.length with h | rfl | h
  · rw [List.getElem?_append_left h]
  · simp [hp]
  · rw [List.getElem?_eq_none (by simp; omega), List.getElem?_eq_none (by omega)]

lemma sum_set (f : α → ℕ) (hj : l[j]? = some x) :
    ((l.set j y).map f).sum + f x = (l.map f).sum + f y := by
  induction l generalizing j with
  | nil => exact absurd hj (by simp)
  | cons a l ih =>
    cases j with
    | zero =>
      obtain rfl : a = x := by simpa using hj
      simp only [List.set_cons_zero, List.map_cons, List.sum_cons]
      omega
    | succ j =>
      have hl := ih (by simpa using hj)
      simp only [List.set_cons_succ, List.map_cons, List.sum_cons]
      omega

lemma filterMap_concat {β : Type*} (f : α → Option β) (l : List α) (a : α) :
    (l ++ [a]).filterMap f = l.filterMap f ++ (f a).toList := by
  rw [List.filterMap_append]
  cases h : f a with
  | none => rw [List.filterMap_cons_none h, List.filterMap_nil, Option.toList_none]
  | some b => rw [List.filterMap_cons_some h, List.filterMap_nil, Option.toList_some]

/-- A change of an entry that keeps its name keeps the names. -/
lemma map_set_of_eq {β : Type*} {f : α → β} (hi : l[i]? = some x) (hf : f y = f x) :
    (l.set i y).map f = l.map f := by
  obtain ⟨hlt, hx⟩ := List.getElem?_eq_some_iff.1 hi
  rw [List.map_set, hf, ← hx]
  refine List.ext_getElem? fun j => ?_
  by_cases hij : i = j
  · subst hij
    rw [List.getElem?_set_self (by simpa using hlt), List.getElem?_map,
      List.getElem?_eq_getElem hlt, Option.map_some]
  · rw [List.getElem?_set_ne hij]

/-- Where no two entries have the same name, the ones that are left have not got that of the one
taken out. -/
lemma map_ne_of_mem_eraseIdx {β : Type*} {f : α → β} (h : (l.map f).Nodup) (hi : l[i]? = some x)
    (hy : y ∈ l.eraseIdx i) : f y ≠ f x := by
  obtain ⟨hlt, hx⟩ := List.getElem?_eq_some_iff.1 hi
  have hcut : l = l.take i ++ x :: l.drop (i + 1) := by
    rw [← hx, List.getElem_cons_drop, List.take_append_drop]
  rw [List.eraseIdx_eq_take_drop_succ] at hy
  rw [hcut, List.map_append, List.map_cons, List.nodup_middle, List.nodup_cons,
    ← List.map_append] at h
  exact fun heq => h.1 (heq ▸ List.mem_map_of_mem hy)

end UrnetworkWindows.Lib
