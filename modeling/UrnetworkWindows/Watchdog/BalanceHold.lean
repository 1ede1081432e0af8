/-
The balance hold over a whole session (`OutOfBalanceHold`).

The generation a release is compared with moves with every refusal, also while the hold
is up, so the hold is described by its history: it is up when a refusal has been read and
nothing since then has shown a grant (`held_until_evidence`).

A reading that reports a refusal counts as one whatever else it reports, so only the
no-permission readings that report none leave the hold as it is
(`no_permission_raises_hold`).
-/
import UrnetworkWindows.Lib.Trace
import UrnetworkWindows.Watchdog.Verdict

namespace UrnetworkWindows.Watchdog

open Lib

/-- What the readings of a session did, and the hold after them. -/
def observeAll (readings : List BalanceReading) : List BalanceStep × OutOfBalanceHold :=
  readings.foldl (fun run reading =>
    (run.1 ++ [(run.2.observe reading).1], (run.2.observe reading).2)) ([], {})

lemma observeAll_snoc (readings : List BalanceReading) (r : BalanceReading) :
    observeAll (readings ++ [r]) =
      ((observeAll readings).1 ++ [((observeAll readings).2.observe r).1],
        ((observeAll readings).2.observe r).2) := by
  rw [observeAll, List.foldl_append]
  rfl

/-! ### What a reading says -/

/-- The reading reports insufficient balance. -/
def BalanceReading.Refuses (r : BalanceReading) : Prop :=
  r.sampled = true ∧ r.insufficientBalance = true

instance (r : BalanceReading) : Decidable r.Refuses := by
  unfold BalanceReading.Refuses
  infer_instance

/-- The latest refusal. -/
def lastRefusal (readings : List BalanceReading) : Option BalanceReading :=
  (readings.filter fun r => decide r.Refuses).getLast?

/-- After these readings, this one shows that contracts go through. -/
def Releases (before : List BalanceReading) (r : BalanceReading) : Prop :=
  r.sampled = true ∧ r.insufficientBalance = false ∧ r.noPermission = false ∧
    ((∃ last, lastRefusal before = some last ∧
        r.connectionGeneration ≤ last.connectionGeneration) ∨ r.providerAddedCount > 0)

/-- A refusal that nothing after it has released. -/
def Refused (readings : List BalanceReading) : Prop :=
  ∃ before r later, readings = before ++ r :: later ∧ r.Refuses ∧
    ∀ mid u rest, later = mid ++ u :: rest → ¬ Releases (before ++ r :: mid) u

lemma lastRefusal_snoc (readings : List BalanceReading) (r : BalanceReading) :
    lastRefusal (readings ++ [r]) = if r.Refuses then some r else lastRefusal readings := by
  unfold lastRefusal
  rw [List.filter_append]
  by_cases hr : r.Refuses
  · simp [hr]
  · simp [hr]

namespace Refused

variable {readings : List BalanceReading} {r : BalanceReading}

lemma of_refuses (hr : r.Refuses) : Refused (readings ++ [r]) :=
  ⟨readings, r, [], rfl, hr, fun _ _ _ he => absurd he (by simp)⟩

lemma snoc (h : Refused readings) (hr : ¬ Releases readings r) : Refused (readings ++ [r]) := by
  obtain ⟨before, r', later, rfl, hr', hlater⟩ := h
  refine ⟨before, r', later ++ [r], by simp, hr', ?_⟩
  intro mid u rest he
  rcases eq_or_mem_of_snoc he with ⟨-, rfl, rfl⟩ | ⟨rest', -, rfl⟩
  · exact hr
  · exact hlater mid u rest' rfl

lemma of_snoc (h : Refused (readings ++ [r])) (hr : ¬ r.Refuses) :
    Refused readings ∧ ¬ Releases readings r := by
  obtain ⟨before, r', later, he, hr', hlater⟩ := h
  rcases eq_or_mem_of_snoc he with ⟨-, -, rfl⟩ | ⟨later', rfl, rfl⟩
  · exact absurd hr' hr
  · constructor
    · refine ⟨before, r', later', rfl, hr', ?_⟩
      intro mid u rest hmid
      exact hlater mid u (rest ++ [r]) (by simp [hmid])
    · exact hlater later' r [] rfl

end Refused

/-! ### The hold and its history -/

/-- The hold knows the latest refusal, and is up as long as it stands. -/
structure HoldOk (readings : List BalanceReading) (h : OutOfBalanceHold) : Prop where
  held : h.held = true ↔ Refused readings
  refused : h.held = true → ∃ last, lastRefusal readings = some last ∧
    h.refusedGeneration = last.connectionGeneration

namespace HoldOk

variable {readings : List BalanceReading} {h : OutOfBalanceHold} {r : BalanceReading}

lemma quiet (hok : HoldOk readings h) (hr : ¬ r.Refuses)
    (hno : h.held = true → ¬ Releases readings r) : HoldOk (readings ++ [r]) h where
  held := by
    constructor
    · intro hheld
      exact (hok.held.1 hheld).snoc (hno hheld)
    · intro href
      exact hok.held.2 (href.of_snoc hr).1
  refused := by
    rw [lastRefusal_snoc, if_neg hr]
    exact hok.refused

lemma of_refuses (hr : r.Refuses) : HoldOk (readings ++ [r]) ⟨true, r.connectionGeneration⟩ where
  held := iff_of_true rfl (.of_refuses hr)
  refused := by
    intro _
    rw [lastRefusal_snoc, if_pos hr]
    exact ⟨r, rfl, rfl⟩

lemma observe (hok : HoldOk readings h) : HoldOk (readings ++ [r]) (h.observe r).2 := by
  unfold OutOfBalanceHold.observe
  split_ifs with hsampled hrefuses hheld hquiet hgrant
  · have hs : r.sampled = false := by simpa using hsampled
    refine hok.quiet (fun hr => ?_) (fun _ hr => ?_)
    · exact absurd (hs.symm.trans hr.1) nofun
    · exact absurd (hs.symm.trans hr.1) nofun
  · exact .of_refuses ⟨by simpa using hsampled, hrefuses⟩
  · exact .of_refuses ⟨by simpa using hsampled, hrefuses⟩
  · refine hok.quiet (fun hr => hrefuses hr.2) ?_
    intro hheld hr
    rw [hheld, hr.2.2.1] at hquiet
    cases hquiet
  · have hr : ¬ r.Refuses := fun hr => hrefuses hr.2
    simp only [Bool.or_eq_true, Bool.not_eq_true', not_or, Bool.not_eq_false,
      Bool.not_eq_true] at hquiet
    obtain ⟨last, hlast, hgen⟩ := hok.refused hquiet.1
    have hrel : Releases readings r := by
      refine ⟨by simpa using hsampled, by simpa using hrefuses, hquiet.2, ?_⟩
      rcases hgrant with hle | hadded
      · exact .inl ⟨last, hlast, hgen ▸ hle⟩
      · exact .inr hadded
    constructor
    · exact iff_of_false nofun fun href => (href.of_snoc hr).2 hrel
    · exact nofun
  · refine hok.quiet (fun hr => hrefuses hr.2) ?_
    intro hheld hr
    obtain ⟨last, hlast, hgen⟩ := hok.refused hheld
    obtain ⟨-, -, -, ⟨last', hlast', hle⟩ | hadded⟩ := hr
    · cases hlast.symm.trans hlast'
      exact hgrant (.inl (hgen ▸ hle))
    · exact hgrant (.inr hadded)

lemma of_readings (readings : List BalanceReading) :
    HoldOk readings (observeAll readings).2 := by
  induction readings using List.reverseRecOn with
  | nil => exact ⟨iff_of_false nofun fun ⟨_, _, _, he, _⟩ => absurd he (by simp), nofun⟩
  | append_singleton readings r ih =>
    rw [observeAll_snoc]
    exact ih.observe

end HoldOk

/-! ### Entered and released in turn -/

/-- The changes come in turn, and the hold is up after an odd number of them. -/
structure Alternating (changes : List BalanceStep) (h : OutOfBalanceHold) : Prop where
  held : h.held = true ↔ changes.length % 2 = 1
  steps : ∀ k step, changes[k]? = some step → step = if k % 2 = 0 then .entered else .released

lemma Alternating.observe {changes : List BalanceStep} {h : OutOfBalanceHold}
    (halt : Alternating changes h) (r : BalanceReading) :
    Alternating (changes ++ [(h.observe r).1].filter (· ≠ .none)) (h.observe r).2 := by
  have next : ∀ (step : BalanceStep) (held : Bool) (generation : ℤ), held = !h.held →
      step = (if held then .entered else .released) →
        Alternating (changes ++ [step]) ⟨held, generation⟩ := by
    intro step held generation hheld hstep
    have hodd := halt.held
    constructor
    · rw [List.length_append, List.length_singleton]
      cases hh : h.held <;> simp [hh] at hheld hodd <;> simp [hheld] <;> omega
    · intro k step' hk
      rcases getElem?_snoc_cases hk with hk' | ⟨rfl, rfl⟩
      · exact halt.steps k step' hk'
      · rw [hstep]
        cases hh : h.held <;> simp [hh] at hheld hodd <;> simp [hheld, hodd]
  unfold OutOfBalanceHold.observe
  split_ifs with hsampled hrefuses hheld hquiet hgrant
  · simpa using halt
  · refine ⟨?_, by simpa using halt.steps⟩
    simpa [hheld] using halt.held
  · exact next .entered true _ (by simp [hheld]) rfl
  · simpa using halt
  · have hup : h.held = true := by
      simp only [Bool.or_eq_true, Bool.not_eq_true', not_or, Bool.not_eq_false] at hquiet
      exact hquiet.1
    exact next .released false _ (by simp [hup]) rfl
  · simpa using halt

lemma alternating_of_readings (readings : List BalanceReading) :
    Alternating ((observeAll readings).1.filter (· ≠ .none)) (observeAll readings).2 := by
  induction readings using List.reverseRecOn with
  | nil => exact ⟨by decide, fun k step hk => absurd hk (by simp [observeAll])⟩
  | append_singleton readings r ih =>
    rw [observeAll_snoc, List.filter_append]
    exact ih.observe r

/-! ### The result -/

/-- Out of balance is kept until evidence says otherwise. -/
structure KeptUntilEvidence (readings : List BalanceReading) : Prop where
  held : (observeAll readings).2.held = true ↔ Refused readings
  alternate : ∀ k step, ((observeAll readings).1.filter (· ≠ .none))[k]? = some step →
    step = if k % 2 = 0 then .entered else .released
  silent : ∀ r : BalanceReading,
    r.sampled = false ∨ r.noPermission = true ∧ r.insufficientBalance = false →
      (observeAll readings).2.observe r = (.none, (observeAll readings).2)

/-- **Out of balance is kept until a reading shows that contracts go through.** -/
theorem held_until_evidence (readings : List BalanceReading) : KeptUntilEvidence readings where
  held := (HoldOk.of_readings readings).held
  alternate := (alternating_of_readings readings).steps
  silent := by
    intro r hr
    unfold OutOfBalanceHold.observe
    rcases hr with hr | ⟨hperm, hbalance⟩
    · simp [hr]
    · simp [hperm, hbalance]

/-- A reading of both raises the hold. -/
theorem no_permission_raises_hold :
    ∃ r : BalanceReading, r.sampled = true ∧ r.noPermission = true ∧
      (observeAll []).2.held = false ∧ (observeAll [r]).1 = [.entered] ∧
        (observeAll [r]).2.held = true :=
  ⟨{ sampled := true, insufficientBalance := true, noPermission := true }, by decide⟩

end UrnetworkWindows.Watchdog
