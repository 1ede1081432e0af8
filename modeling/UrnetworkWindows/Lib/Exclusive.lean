/-
One lock and the parties that may hold it.

The state says who holds the lock, and each party has a place of its own that says whether it
is inside its section.  The lemmas move the fact that only the holder is inside across the
three things a step does: the lock stays where it is, is taken while it is free, or is given
back by its holder.
-/
import Mathlib.Tactic

namespace UrnetworkWindows.Lib

variable {ι : Type*}

/-- Whoever is inside holds the lock. -/
def Exclusive (holder : Option ι) (inside : ι → Prop) : Prop :=
  ∀ i, inside i → holder = some i

namespace Exclusive

variable {holder holder' : Option ι} {inside inside' : ι → Prop} {i j : ι}

/-- While the lock is free nobody is inside. -/
lemma not_inside (h : Exclusive none inside) : ¬ inside i := fun hi => absurd (h i hi) nofun

/-- Nobody but the holder is inside. -/
lemma eq_of_inside (h : Exclusive (some i) inside) (hj : inside j) : i = j :=
  Option.some.inj (h j hj)

/-- The lock stays where it is, and nobody has come in. -/
lemma stay (h : Exclusive holder inside) (hstay : ∀ j, inside' j → inside j) :
    Exclusive holder inside' :=
  fun j hj => h j (hstay j hj)

/-- The lock was free, and the one that took it is the only one to have come in. -/
lemma take (h : Exclusive none inside) (hothers : ∀ j, j ≠ i → inside' j → inside j) :
    Exclusive (some i) inside' := by
  intro j hj
  by_cases hij : j = i
  · rw [hij]
  · exact absurd (hothers j hij hj) h.not_inside

/-- The holder went out and gave the lock back. -/
lemma release (h : Exclusive (some i) inside) (hout : ¬ inside' i)
    (hothers : ∀ j, j ≠ i → inside' j → inside j) : Exclusive holder' inside' := by
  intro j hj
  have hij : j ≠ i := by
    rintro rfl
    exact hout hj
  exact absurd (h.eq_of_inside (hothers j hij hj)).symm hij

end Exclusive

end UrnetworkWindows.Lib
