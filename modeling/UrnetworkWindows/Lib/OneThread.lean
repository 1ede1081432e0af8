/-
A thread that is started only where none runs.

The threads are a list of the places they are at, the ended ones included, and a flag says
whether one runs.  The lemmas move the fact that at most one does across the steps such a
system takes: the thread goes on, ends, is started, or all of them are changed alike.
-/
import UrnetworkWindows.Lib.Places

namespace UrnetworkWindows.Lib

variable {α : Type*} {runs : α → Bool}

/-- At most one thread runs, and the flag says whether one does. -/
structure OneThread (runs : α → Bool) (threads : List α) (alive : Bool) : Prop where
  one : ∀ (i j : ℕ) (x y : α), threads[i]? = some x → runs x = true → threads[j]? = some y →
    runs y = true → i = j
  alive : alive = true ↔ ∃ (i : ℕ) (x : α), threads[i]? = some x ∧ runs x = true

namespace OneThread

variable {threads : List α} {alive : Bool} {i : ℕ} {x y : α}

lemma nil : OneThread runs [] false where
  one i j x y hi := absurd hi (by simp)
  alive := by simp

lemma alive_of (h : OneThread runs threads alive) (hi : threads[i]? = some x)
    (hx : runs x = true) : alive = true :=
  h.alive.2 ⟨i, x, hi, hx⟩

/-- The thread that runs goes on. -/
lemma set (h : OneThread runs threads alive) (hi : threads[i]? = some x) (hx : runs x = true)
    (hy : runs y = true) : OneThread runs (threads.set i y) alive := by
  constructor
  · intro j k z w hj hz hk hw
    rcases getElem?_set_cases hj with ⟨rfl, rfl⟩ | ⟨-, hj'⟩
    · rcases getElem?_set_cases hk with ⟨rfl, rfl⟩ | ⟨-, hk'⟩
      · rfl
      · exact h.one _ _ _ _ hi hx hk' hw
    · rcases getElem?_set_cases hk with ⟨rfl, rfl⟩ | ⟨-, hk'⟩
      · exact h.one _ _ _ _ hj' hz hi hx
      · exact h.one _ _ _ _ hj' hz hk' hw
  · have hlt : i < threads.length := (List.getElem?_eq_some_iff.1 hi).1
    rw [h.alive_of hi hx]
    exact ⟨fun _ => ⟨i, y, by rw [List.getElem?_set_self hlt], hy⟩, fun _ => rfl⟩

/-- The thread that runs ends. -/
lemma leave (h : OneThread runs threads alive) (hi : threads[i]? = some x) (hx : runs x = true)
    (hy : runs y = false) : OneThread runs (threads.set i y) false := by
  have hnone : ∀ (j : ℕ) (z : α), (threads.set i y)[j]? = some z → runs z = false := by
    intro j z hj
    rcases getElem?_set_cases hj with ⟨rfl, rfl⟩ | ⟨hne, hj⟩
    · exact hy
    · rw [← Bool.not_eq_true]
      intro hz
      exact hne (h.one _ _ _ _ hi hx hj hz)
  constructor
  · intro j k z w hj hz
    exact absurd hz (by simp [hnone j z hj])
  · constructor
    · exact nofun
    · rintro ⟨j, z, hj, hz⟩
      exact absurd hz (by simp [hnone j z hj])

/-- A thread is started where none runs. -/
lemma start (h : OneThread runs threads false) (hx : runs x = true) :
    OneThread runs (threads ++ [x]) true := by
  have hold : ∀ (j : ℕ) (z : α), threads[j]? = some z → runs z = true → False :=
    fun j z hj hz => absurd (h.alive_of hj hz) nofun
  constructor
  · intro j k z w hj hz hk hw
    rcases getElem?_snoc_cases hj with hj | ⟨rfl, rfl⟩
    · exact (hold j z hj hz).elim
    · rcases getElem?_snoc_cases hk with hk | ⟨rfl, rfl⟩
      · exact (hold k w hk hw).elim
      · rfl
  · simp only [true_iff]
    exact ⟨threads.length, x, by simp, hx⟩

/-- A change of all of them that ends none and starts none. -/
lemma map (h : OneThread runs threads alive) {f : α → α} (hf : ∀ z, runs (f z) = runs z) :
    OneThread runs (threads.map f) alive := by
  have hback : ∀ (j : ℕ) (z : α), (threads.map f)[j]? = some z → runs z = true →
      ∃ w, threads[j]? = some w ∧ runs w = true := by
    intro j z hj hz
    rw [List.getElem?_map] at hj
    obtain ⟨w, hw, rfl⟩ := Option.map_eq_some_iff.1 hj
    exact ⟨w, hw, (hf w).symm.trans hz⟩
  constructor
  · intro j k z w hj hz hk hw
    obtain ⟨z', hj', hz'⟩ := hback j z hj hz
    obtain ⟨w', hk', hw'⟩ := hback k w hk hw
    exact h.one _ _ _ _ hj' hz' hk' hw'
  · rw [h.alive]
    constructor
    · rintro ⟨j, z, hj, hz⟩
      exact ⟨j, f z, by rw [List.getElem?_map, hj, Option.map_some], by rw [hf, hz]⟩
    · rintro ⟨j, z, hj, hz⟩
      obtain ⟨w, hw, hruns⟩ := hback j z hj hz
      exact ⟨j, w, hw, hruns⟩

end OneThread

end UrnetworkWindows.Lib
