/-
The countdown the notice shows (`Evaluate`).

An armed verdict carries the milliseconds to the earliest deadline.  With the signals as
they are a rule that bears goes on bearing, and its countdown runs one millisecond a
millisecond (`Rule.elapsed_add`), so the number shown is exact: at its end there is a
verdict, and before it there is none, but for the SDK falling silent on the way, whose
countdown is not shown until it is overdue.
-/
import UrnetworkWindows.Watchdog.Notice

namespace UrnetworkWindows.Watchdog

variable {d : DeadTunnelSettings} {s : DeadTunnelSignals} {nowMillis : ℤ}

/-! ### The signals as time goes on -/

lemma ageSince_add (stampMillis upSinceMillis nowMillis later : ℤ) :
    ageSince stampMillis upSinceMillis (nowMillis + later) =
      ageSince stampMillis upSinceMillis nowMillis + later := by
  simp only [ageSince]
  omega

lemma Rule.elapsed_add (rule : Rule) (s : DeadTunnelSignals) (nowMillis later : ℤ) :
    rule.elapsed s (nowMillis + later) = rule.elapsed s nowMillis + later := by
  cases rule with
  | unresponsive | slow => exact ageSince_add _ _ _ _
  | fast =>
    simp only [elapsed, DeadTunnelSignals.inboundAge, ageSince_add]
    omega

lemma judgeable_add (h : s.judgeable d nowMillis = true) {later : ℤ} (hlater : 0 ≤ later) :
    s.judgeable d (nowMillis + later) = true := by
  simp only [DeadTunnelSignals.judgeable, DeadTunnelSignals.inboundAge, ageSince_add,
    Bool.and_eq_true, Bool.not_eq_true', Bool.and_eq_false_iff, decide_eq_true_eq,
    decide_eq_false_iff_not] at h ⊢
  refine ⟨h.1, ?_⟩
  rcases h.2 with hnever | hage
  · exact .inl hnever
  · have hout := of_decide_eq_false hage
    exact .inr (by omega)

lemma Rule.bears_add {rule : Rule} (h : rule.bears d s nowMillis = true) {later : ℤ}
    (hlater : 0 ≤ later) : rule.bears d s (nowMillis + later) = true := by
  cases rule with
  | unresponsive => exact judgeable_add h hlater
  | fast | slow =>
    simp only [bears, Bool.and_eq_true] at h ⊢
    exact ⟨judgeable_add h.1 hlater, h.2⟩

lemma Rule.bears_of_bears_add {rule : Rule} {later : ℤ}
    (hjudge : s.judgeable d nowMillis = true)
    (h : rule.bears d s (nowMillis + later) = true) : rule.bears d s nowMillis = true := by
  cases rule with
  | unresponsive => exact hjudge
  | fast | slow =>
    simp only [bears, Bool.and_eq_true] at h ⊢
    exact ⟨hjudge, h.2⟩

lemma reason_ne_none_iff : (evaluate d s nowMillis).reason ≠ .none ↔
    ∃ rule : Rule, rule.bears d s nowMillis = true ∧ rule.window d ≤ rule.elapsed s nowMillis := by
  refine ⟨exists_rule_of_reason, ?_⟩
  rintro ⟨rule, hbears, hout⟩
  rw [evaluate_of_judgeable (Rule.judgeable_of_bears hbears)]
  split
  · simp
  next hsdk =>
  split
  · simp
  next hfast =>
  split
  · simp
  next hslow =>
  exfalso
  cases rule with
  | unresponsive => exact hsdk hout
  | fast => exact hfast ⟨hbears, hout⟩
  | slow => exact hslow ⟨hbears, hout⟩

/-! ### The earliest deadline -/

/-- The earliest of the deadlines considered so far, -1 for none. -/
structure Soonest (considered : ℤ → Prop) (soonest : ℤ) : Prop where
  le : ∀ r, considered r → soonest ≤ max r 0
  attained : 0 ≤ soonest → ∃ r, considered r ∧ soonest = max r 0
  empty : soonest < 0 → ∀ r, ¬ considered r

namespace Soonest

variable {considered : ℤ → Prop} {soonest : ℤ}

lemma nil : Soonest (fun _ => False) (-1) where
  le _ h := absurd h id
  attained h := absurd h (by decide)
  empty _ _ := id

lemma consider_if (h : Soonest considered soonest) (applies : Prop) [Decidable applies]
    (remaining : ℤ) :
    Soonest (fun r => applies ∧ r = remaining ∨ considered r)
      (if applies then consider soonest remaining else soonest) := by
  by_cases happlies : applies
  · have hpos := consider_nonneg soonest remaining
    rw [if_pos happlies]
    refine ⟨?_, fun _ => ?_, by omega⟩
    · rintro r (⟨-, rfl⟩ | hr)
      · exact consider_le soonest r
      · have hold : 0 ≤ soonest := by
          by_contra hneg
          exact h.empty (by omega) r hr
        exact (consider_le_soonest hold remaining).trans (h.le r hr)
    · by_cases hnew : soonest < 0 ∨ max remaining 0 < soonest
      · refine ⟨remaining, .inl ⟨happlies, rfl⟩, ?_⟩
        simp only [consider]
        split_ifs <;> omega
      · obtain ⟨r, hr, hattained⟩ := h.attained (by omega)
        refine ⟨r, .inr hr, ?_⟩
        rw [← hattained]
        simp only [consider]
        split_ifs <;> omega
  · rw [if_neg happlies]
    refine ⟨?_, fun hpos => ?_, fun hneg r hr => ?_⟩
    · rintro r (⟨hyes, -⟩ | hr)
      · exact absurd hyes happlies
      · exact h.le r hr
    · obtain ⟨r, hr, hattained⟩ := h.attained hpos
      exact ⟨r, .inr hr, hattained⟩
    · rcases hr with ⟨hyes, -⟩ | hr
      · exact happlies hyes
      · exact h.empty hneg r hr

end Soonest

lemma exists_soonest (d : DeadTunnelSettings) (sampleAge provenAge inboundAge : ℤ)
    (fastApplies slowApplies : Bool) :
    ∃ soonest, Soonest (fun r =>
        slowApplies = true ∧ r = d.deadSlowMillis - provenAge ∨
        fastApplies = true ∧ r = d.deadFastMillis - min inboundAge provenAge ∨
        sampleAge ≥ d.sdkUnresponsiveArmMillis ∧ r = d.sdkUnresponsiveMillis - sampleAge ∨
        False) soonest ∧
      countdown d sampleAge provenAge inboundAge fastApplies slowApplies =
        if 0 ≤ soonest ∧ soonest ≤ d.failsafeNoticeMillis then ⟨.none, true, soonest⟩ else {} := by
  have hmin : (if inboundAge < provenAge then inboundAge else provenAge) =
      min inboundAge provenAge := by
    rw [min_def]
    split_ifs <;> omega
  refine ⟨_, ((Soonest.nil.consider_if (sampleAge ≥ d.sdkUnresponsiveArmMillis)
    (d.sdkUnresponsiveMillis - sampleAge)).consider_if (fastApplies = true)
    (d.deadFastMillis - min inboundAge provenAge)).consider_if (slowApplies = true)
    (d.deadSlowMillis - provenAge), ?_⟩
  simp only [countdown, hmin]

/-- What is left of a rule's countdown. -/
def Rule.left (d : DeadTunnelSettings) (s : DeadTunnelSignals) (nowMillis : ℤ) (rule : Rule) : ℤ :=
  rule.window d - rule.elapsed s nowMillis

/-- What an armed verdict says.  Nothing has run out, and the number is what is left to a
rule that bears; a rule that bears and has less left is one whose countdown is not shown
yet. -/
lemma armed_spec (harmed : (evaluate d s nowMillis).armed = true) :
    (∀ rule : Rule, rule.bears d s nowMillis = true → 0 < rule.left d s nowMillis) ∧
    (∃ rule : Rule, rule.bears d s nowMillis = true ∧
      (evaluate d s nowMillis).millisToFailsafe = rule.left d s nowMillis) ∧
    ∀ rule : Rule, rule ≠ .unresponsive → rule.bears d s nowMillis = true →
      (evaluate d s nowMillis).millisToFailsafe ≤ rule.left d s nowMillis := by
  have hjudge : s.judgeable d nowMillis = true := by
    by_contra hno
    rw [Bool.not_eq_true] at hno
    rw [evaluate_of_not_judgeable hno] at harmed
    exact absurd harmed (by simp)
  rw [evaluate_of_judgeable hjudge] at harmed ⊢
  split at harmed
  · exact absurd harmed (by simp)
  next hsdk =>
  split at harmed
  · exact absurd harmed (by simp)
  next hfast =>
  split at harmed
  · exact absurd harmed (by simp)
  next hslow =>
  rw [if_neg hsdk, if_neg hfast, if_neg hslow]
  have hleft : ∀ rule : Rule, rule.bears d s nowMillis = true → 0 < rule.left d s nowMillis := by
    intro rule hbears
    rw [Rule.left]
    cases rule with
    | unresponsive => exact sub_pos.2 (not_le.1 hsdk)
    | fast => exact sub_pos.2 (not_le.1 fun h => hfast ⟨hbears, h⟩)
    | slow => exact sub_pos.2 (not_le.1 fun h => hslow ⟨hbears, h⟩)
  obtain ⟨soonest, hsoonest, heq⟩ := exists_soonest d (Rule.unresponsive.elapsed s nowMillis)
    (Rule.slow.elapsed s nowMillis) (s.inboundAge nowMillis) (Rule.fast.bears d s nowMillis)
    (Rule.slow.bears d s nowMillis)
  rw [heq] at harmed ⊢
  split at harmed
  · next hshown =>
    rw [if_pos hshown]
    refine ⟨hleft, ?_, fun rule hne hbears => ?_⟩
    · obtain ⟨r, hr, hattained⟩ := hsoonest.attained hshown.1
      rcases hr with ⟨hbears, rfl⟩ | ⟨hbears, rfl⟩ | ⟨-, rfl⟩ | hno
      · exact ⟨.slow, hbears, hattained.trans (max_eq_left (hleft .slow hbears).le)⟩
      · exact ⟨.fast, hbears, hattained.trans (max_eq_left (hleft .fast hbears).le)⟩
      · exact ⟨.unresponsive, hjudge, hattained.trans (max_eq_left (hleft .unresponsive hjudge).le)⟩
      · exact hno.elim
    · have hle := hsoonest.le (rule.left d s nowMillis)
      rw [max_eq_left (hleft rule hbears).le] at hle
      cases rule with
      | unresponsive => exact absurd rfl hne
      | fast => exact hle (.inr (.inl ⟨hbears, rfl⟩))
      | slow => exact hle (.inl ⟨hbears, rfl⟩)
  · exact absurd harmed (by simp)

/-- **The countdown is exact.**  At the end of the countdown that is shown there is a verdict,
and before it there is none unless the SDK has been silent for too long by then; and a verdict
stays one while the signals do. -/
theorem failsafe_countdown_exact (settings : DeadTunnelSettings) (s : DeadTunnelSignals)
    (nowMillis : ℤ) :
    (∀ m, (evaluate settings s nowMillis).armed = true →
      (evaluate settings s nowMillis).millisToFailsafe = m →
        (evaluate settings s (nowMillis + m)).reason ≠ .none ∧
        ∀ later, 0 ≤ later → later < m →
          ageSince s.lastSampleMillis s.upSinceMillis (nowMillis + later) <
            settings.sdkUnresponsiveMillis →
          (evaluate settings s (nowMillis + later)).reason = .none) ∧
    ((evaluate settings s nowMillis).reason ≠ .none →
      ∀ later, nowMillis ≤ later → (evaluate settings s later).reason ≠ .none) := by
  refine ⟨?_, fun hreason later hlater => ?_⟩
  · rintro m harmed rfl
    obtain ⟨hleft, ⟨rule, hbears, hm⟩, hle⟩ := armed_spec harmed
    have hjudge := Rule.judgeable_of_bears hbears
    have hpos := hleft rule hbears
    refine ⟨?_, fun later hlater hbefore hsample => ?_⟩
    · -- the rule whose time is up
      rw [hm]
      refine reason_ne_none_iff.2 ⟨rule, Rule.bears_add hbears hpos.le, ?_⟩
      rw [Rule.elapsed_add, Rule.left]
      omega
    · by_contra hreason
      obtain ⟨rule', hbears', hout⟩ := reason_ne_none_iff.1 hreason
      have hbore := Rule.bears_of_bears_add hjudge hbears'
      cases rule' with
      | unresponsive => exact absurd hout (not_le.2 hsample)
      | fast | slow =>
        have hshown := hle _ (by simp) hbore
        rw [Rule.elapsed_add] at hout
        rw [Rule.left] at hshown
        omega
  · obtain ⟨rule, hbears, hout⟩ := reason_ne_none_iff.1 hreason
    obtain ⟨passed, rfl⟩ : ∃ passed, later = nowMillis + passed := ⟨later - nowMillis, by omega⟩
    refine reason_ne_none_iff.2 ⟨rule, Rule.bears_add hbears (by omega), ?_⟩
    rw [Rule.elapsed_add]
    omega

/-- A machine that has sent twenty packets into a tunnel without a proven exit: two seconds
before the verdict the notice says so. -/
theorem failsafe_countdown_exact_two_seconds :
    let s : DeadTunnelSignals :=
      { tunnelUp := true, routesInstalled := true, upSinceMillis := 1000, lastSampleMillis := 18500,
        outboundSinceInbound := 20 }
    (evaluate {} s 19000).armed = true ∧ (evaluate {} s 21000).reason ≠ .none ∧
      (evaluate {} s 20999).reason = .none := by
  intro s
  have hexact := (failsafe_countdown_exact {} s 19000).1 2000 (by decide) (by decide)
  exact ⟨by decide, hexact.1, hexact.2 1999 (by decide) (by decide) (by decide)⟩

end UrnetworkWindows.Watchdog
