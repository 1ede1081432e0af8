/-
A value that is shown through copies of it.

Whoever changes the value takes a copy of it in the same section, and posts the copy later; the
posted copies wait in a queue and are shown one after the other.  `lastWord` is the copy that will
be shown last: it does not move while copies are posted in the order they were taken and shown in
the order they were posted, so a value whose last word is right is shown right in the end.
-/
import Mathlib.Tactic

namespace UrnetworkWindows.Lib

variable {ι α : Type*}

/-- What will be shown last. -/
def lastWord (shown : Option α) (queue : List α) (copies : List (ι × α)) : Option α :=
  (queue ++ copies.map Prod.snd).getLast?.or shown

namespace lastWord

variable {shown : Option α} {queue : List α} {copies : List (ι × α)} {i : ι} {x : α}

/-- Nothing is under way. -/
@[simp] lemma quiet : lastWord shown [] ([] : List (ι × α)) = shown := rfl

/-- The value is changed. -/
@[simp] lemma change : lastWord shown queue (copies ++ [(i, x)]) = some x := by
  rw [lastWord, List.map_append, ← List.append_assoc, List.map_singleton,
    List.getLast?_append]
  rfl

/-- The oldest copy is posted. -/
lemma post : lastWord shown (queue ++ [x]) copies = lastWord shown queue ((i, x) :: copies) := by
  rw [lastWord, lastWord, List.map_cons, List.append_assoc, List.singleton_append]

/-- The oldest copy is lost, where the copies taken after it are not. -/
lemma lose (h : copies ≠ []) :
    lastWord shown queue copies = lastWord shown queue ((i, x) :: copies) := by
  obtain ⟨copies, c, rfl⟩ := List.eq_nil_or_concat copies |>.resolve_left h
  rw [List.concat_eq_append, ← List.cons_append, change, change]

/-- The oldest of the posted copies is shown. -/
lemma show_next : lastWord (some x) queue copies = lastWord shown (x :: queue) copies := by
  rw [lastWord, lastWord, List.cons_append]
  rcases List.eq_nil_or_concat (queue ++ copies.map Prod.snd) with hnil | ⟨rest, y, heq⟩
  · rw [hnil]
    rfl
  · rw [heq, List.concat_eq_append, ← List.cons_append, List.getLast?_append, List.getLast?_append]
    rfl

/-- The value itself is shown: what copies are under way come after it. -/
lemma of_reshow {w : α} (h : lastWord (some x) queue copies = some w) :
    w = x ∨ lastWord shown queue copies = some w := by
  rw [lastWord] at h
  rw [lastWord]
  cases hlast : (queue ++ copies.map Prod.snd).getLast? with
  | none =>
    rw [hlast, Option.none_or] at h
    exact .inl (Option.some.inj h).symm
  | some y =>
    rw [hlast, Option.some_or] at h
    exact .inr (Option.some_or.trans h)

end lastWord

end UrnetworkWindows.Lib
