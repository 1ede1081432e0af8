/-
Query strings: pairs joined by one separator, each a key and a value joined by another.

Nothing is decoded, so a list of pairs is read back from what it was written as exactly
where no key and no value has the first separator in it and no key the second.
-/
import Mathlib.Data.List.TakeWhile
import Mathlib.Tactic

namespace UrnetworkWindows.Lib

variable {α : Type*} [DecidableEq α] (amp eq : α)

/-- One pair as it is written. -/
def writePair (p : List α × List α) : List α := p.1 ++ eq :: p.2

/-- The pairs as they are written. -/
def writeQuery (ps : List (List α × List α)) : List α :=
  [amp].intercalate (ps.map (writePair eq))

/-- A part up to its first `eq`, and what follows it.  A part without one, or without a
key, is no pair. -/
def readPair (part : List α) : Option (List α × List α) :=
  let key := part.takeWhile (· ≠ eq)
  if key = part ∨ key = [] then none else some (key, part.drop (key.length + 1))

variable {amp eq}

lemma readPair_writePair {p : List α × List α} (hkey : p.1 ≠ []) (heq : eq ∉ p.1) :
    readPair eq (writePair eq p) = some p := by
  have htake : (writePair eq p).takeWhile (· ≠ eq) = p.1 := by
    rw [writePair, List.takeWhile_append_of_pos]
    · simp
    · intro x hx
      have hne : x ≠ eq := fun h => heq (h ▸ hx)
      simpa using hne
  have hdrop : (writePair eq p).drop (p.1.length + 1) = p.2 := by
    rw [writePair, List.drop_append]
    simp
  have hne : p.1 ≠ writePair eq p := by
    intro h
    have hlen := congrArg List.length h
    simp [writePair] at hlen
  simp only [readPair, htake, hdrop]
  rw [if_neg]
  rintro (h | h)
  · exact hne h
  · exact hkey h

/-- What is read as a pair is written as it. -/
lemma readPair_eq_some {part : List α} {p : List α × List α} (h : readPair eq part = some p) :
    part = writePair eq p ∧ p.1 ≠ [] ∧ eq ∉ p.1 := by
  by_cases hmem : eq ∈ part
  · obtain ⟨key, value, rfl, hkey⟩ := List.eq_append_cons_of_mem hmem
    by_cases hne : key = []
    · subst hne
      simp [readPair] at h
    · have hread := readPair_writePair (p := (key, value)) hne hkey
      cases hread.symm.trans h
      exact ⟨rfl, hne, hkey⟩
  · have htake : part.takeWhile (· ≠ eq) = part := by
      rw [List.takeWhile_eq_self_iff]
      intro x hx
      have hne : x ≠ eq := fun heq => hmem (heq ▸ hx)
      simpa using hne
    rw [readPair, htake, if_pos (.inl rfl)] at h
    exact absurd h (by simp)

omit [DecidableEq α] in
lemma mem_writePair {p : List α × List α} {x : α} :
    x ∈ writePair eq p ↔ x ∈ p.1 ∨ x = eq ∨ x ∈ p.2 := by
  rw [writePair, List.mem_append, List.mem_cons]

omit [DecidableEq α] in
lemma mem_writeQuery {ps : List (List α × List α)} {x : α} (h : x ∈ writeQuery amp eq ps) :
    x = amp ∨ ∃ p ∈ ps, x ∈ writePair eq p := by
  rw [writeQuery] at h
  induction ps with
  | nil => exact absurd h (by simp)
  | cons p ps ih =>
    cases ps with
    | nil =>
      rw [List.map_cons, List.map_nil, List.intercalate_singleton] at h
      exact .inr ⟨p, by simp, h⟩
    | cons q ps =>
      rw [List.map_cons, List.map_cons, List.intercalate_cons_cons, List.mem_append,
        List.mem_append, List.mem_singleton] at h
      rcases h with (h | h) | h
      · exact .inr ⟨p, by simp, h⟩
      · exact .inl h
      · rcases ih h with h | ⟨p', hp', h⟩
        · exact .inl h
        · exact .inr ⟨p', List.mem_cons_of_mem _ hp', h⟩

/-- The parts of a written query are its pairs, one by one. -/
lemma splitOn_writeQuery {ps : List (List α × List α)} (hps : ps ≠ [])
    (hamp : ∀ p ∈ ps, amp ∉ writePair eq p) :
    (writeQuery amp eq ps).splitOn amp = ps.map (writePair eq) := by
  refine List.splitOn_intercalate amp ?_ (by simpa using hps)
  intro part hpart
  obtain ⟨p, hp, rfl⟩ := List.mem_map.1 hpart
  exact hamp p hp

/-- No part has the separator in it. -/
lemma not_mem_of_mem_splitOn {xs part : List α} (h : part ∈ xs.splitOn amp) : amp ∉ part := by
  induction xs generalizing part with
  | nil =>
    obtain rfl : part = [] := by simpa using h
    exact List.not_mem_nil
  | cons x xs ih =>
    rw [List.splitOn_cons_eq_if_modifyHead] at h
    split_ifs at h with hx
    · rcases List.mem_cons.1 h with rfl | h
      · exact List.not_mem_nil
      · exact ih h
    · -- the first part of the rest begins with `x` now
      obtain ⟨first, parts, hparts⟩ := List.exists_cons_of_ne_nil (List.splitOn_ne_nil amp xs)
      rw [hparts] at h ih
      rcases List.mem_cons.1 h with rfl | h
      · have hne : x ≠ amp := by simpa using hx
        exact List.not_mem_cons_of_ne_of_not_mem hne.symm (ih (List.mem_cons_self ..))
      · exact ih (List.mem_cons_of_mem _ h)

/-! ### Lines -/

/-- The lines of a file whose every line is ended are read back, and an empty one follows
the last. -/
lemma splitOn_lines {ls : List (List α)} (h : ∀ l ∈ ls, amp ∉ l) :
    (ls.flatMap (· ++ [amp])).splitOn amp = ls ++ [[]] := by
  induction ls with
  | nil => simp
  | cons l ls ih =>
    have hl : amp ∉ l := h l (List.mem_cons_self ..)
    have hcut : (l ++ amp :: ls.flatMap (· ++ [amp])).splitOn amp =
        l :: (ls.flatMap (· ++ [amp])).splitOn amp := by
      refine List.splitOnP_append_cons_of_forall_mem ?_ amp (by simp) _
      intro x hx
      have hne : x ≠ amp := fun heq => hl (heq ▸ hx)
      simpa using hne
    rw [List.flatMap_cons, List.append_assoc, List.singleton_append, hcut,
      ih fun l' hl' => h l' (List.mem_cons_of_mem _ hl'), List.cons_append]

end UrnetworkWindows.Lib
