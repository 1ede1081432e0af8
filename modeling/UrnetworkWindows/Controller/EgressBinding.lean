/-
The egress binding and those who follow it (`EgressMonitor::Update`,
`EgressChangeFilter`, `TunnelController::OnEgressChanged`).

A reading is one critical section of the monitor: it discovers the interfaces, binds
the SDK to them and compares what it saw with the last reading.  What it reports is
carried out after the lock is released, step by step and next to the reports of other
readings.  What the operating system answers is part of the label.

One monitor in its binding mode, from its start on, with its change handler set; the
split-tunnel driver is open all along or not at all.  The push to the app and the
network events are left out.
-/
import UrnetworkWindows.Lib.Trace
import UrnetworkWindows.SplitTunnel.Driver

namespace UrnetworkWindows.Controller.EgressBinding

open Lib SplitTunnel

/-! ### Readings -/

/-- `EgressInterfaces`. -/
structure EgressInterfaces where
  index4 : ℕ := 0
  index6 : ℕ := 0
deriving DecidableEq, Repr

/-- `EgressFamilySignature`; an address that is all zeros there is none here. -/
structure EgressFamilySignature where
  ifIndex : ℕ := 0
  usable : Bool := false
  source : Option ℕ := none
  network : Option ℕ := none
  gateway : Option ℕ := none
deriving DecidableEq, Repr

/-- `EgressSignature`. -/
structure EgressSignature where
  v4 : EgressFamilySignature := {}
  v6 : EgressFamilySignature := {}
deriving DecidableEq, Repr

/-- `EgressChange`. -/
structure EgressChange where
  network : Bool := false
  binding : Bool := false
deriving DecidableEq, Repr

/-- `NetworkMoved`. -/
def networkMoved (before after : EgressFamilySignature) : Bool :=
  before.ifIndex ≠ after.ifIndex || before.usable ≠ after.usable ||
    before.network ≠ after.network || before.gateway ≠ after.gateway

/-- `BindingMoved`. -/
def bindingMoved (before after : EgressFamilySignature) : Bool :=
  before.ifIndex ≠ after.ifIndex || before.source ≠ after.source

/-- `EgressChangeFilter::Observe`: the change, for a filter that may not be seeded. -/
def observeChange (last : Option EgressSignature) (signature : EgressSignature) : EgressChange :=
  match last with
  | none => { network := true, binding := true }
  | some l =>
    { network := networkMoved l.v4 signature.v4 || networkMoved l.v6 signature.v6
      binding := bindingMoved l.v4 signature.v4 || bindingMoved l.v6 signature.v6 }

/-- What the system answers to one reading: the elected interfaces, whether the two
bound ones still exist, and what a socket of each family would ride. -/
structure Answers where
  discovered : EgressInterfaces := {}
  exists4 : Bool := true
  exists6 : Bool := true
  v4 : EgressFamilySignature := {}
  v6 : EgressFamilySignature := {}
deriving DecidableEq, Repr

/-- `ObserveEgressFamily`. -/
def observeEgressFamily (answer : EgressFamilySignature) (ifIndex : ℕ) : EgressFamilySignature :=
  if ifIndex = 0 then {} else { answer with ifIndex }

/-- `ObserveEgress`. -/
def observeEgress (ans : Answers) (bound : EgressInterfaces) : EgressSignature where
  v4 := observeEgressFamily ans.v4 bound.index4
  v6 := observeEgressFamily ans.v6 bound.index6

/-- The interfaces a reading binds: a bound interface that still exists is kept while
there is no default route of its family. -/
def retain (current : EgressInterfaces) (ans : Answers) : EgressInterfaces where
  index4 := if ans.discovered.index4 = 0 ∧ current.index4 ≠ 0 ∧ ans.exists4 then current.index4
    else ans.discovered.index4
  index6 := if ans.discovered.index6 = 0 ∧ current.index6 ≠ 0 ∧ ans.exists6 then current.index6
    else ans.discovered.index6

/-! ### The model -/

/-- The next statement of a report. -/
inductive ReportAt
  | store4
  | store6
  | push
  | done
deriving DecidableEq, Repr

/-- A report of a reading on its way: `OnEgressChanged`, or the start's own stores of
`Current()`, which push nothing. -/
structure Report where
  egress : EgressInterfaces
  pushes : Bool
  next : ReportAt := .store4
deriving DecidableEq, Repr

/-- The monitor, the SDK's binding, the controller's two indices, what the driver was
last given, and the reports on their way. -/
structure Binding where
  available : Bool
  current : EgressInterfaces := {}
  sdk : EgressInterfaces := {}
  last : Option EgressSignature := none
  live4 : ℕ := 0
  live6 : ℕ := 0
  pushed : PhysicalAddrs := {}
  reports : List Report := []
deriving DecidableEq, Repr

/-- A reading, the start's own stores, or the next step of a report; a push asks the
system for the source address of each family. -/
inductive BindingLabel
  | update (ans : Answers)
  | startup
  | report (i : ℕ) (source4 source6 : Option ℕ)
deriving DecidableEq, Repr

/-- `PushPhysicalAddressesLocked`. -/
def physicalAddresses (egress : EgressInterfaces) (source4 source6 : Option ℕ) : PhysicalAddrs :=
  let has4 := egress.index4 ≠ 0 && source4.isSome
  let has6 := egress.index6 ≠ 0 && source6.isSome
  { index4 := if has4 then egress.index4 else 0
    index6 := if has6 then egress.index6 else 0
    address4 := if has4 then source4.getD 0 else 0
    address6 := if has6 then source6.getD 0 else 0 }

/-- The change a reading reports.  The first reading is the baseline: it seeds the
filter and reports an interface that moved. -/
def readingChange (s : Binding) (egress : EgressInterfaces) (signature : EgressSignature) :
    EgressChange :=
  let indexMoved : Bool :=
    egress.index4 ≠ s.current.index4 || egress.index6 ≠ s.current.index6
  match s.last with
  | none => { binding := indexMoved }
  | some l =>
    let change := observeChange (some l) signature
    { change with binding := change.binding || indexMoved }

/-- `EgressMonitor::Update`, up to the release of its lock. -/
def update (ans : Answers) (s : Binding) : Binding :=
  let egress := retain s.current ans
  let signature := observeEgress ans egress
  let change := readingChange s egress signature
  { s with
    current := egress
    sdk := egress
    last := some signature
    reports := if change.binding then s.reports ++ [{ egress, pushes := true }] else s.reports }

/-- The next step of a report. -/
def Report.step (r : Report) (source4 source6 : Option ℕ) (s : Binding) : Report × Binding :=
  match r.next with
  | .store4 => ({ r with next := .store6 }, { s with live4 := r.egress.index4 })
  | .store6 =>
    ({ r with next := if r.pushes && s.available then .push else .done },
      { s with live6 := r.egress.index6 })
  | .push =>
    ({ r with next := .done },
      { s with pushed := physicalAddresses r.egress source4 source6 })
  | .done => (r, s)

/-- One step of the whole. -/
def bindingStep (s : Binding) : BindingLabel → Option Binding
  | .update ans => some (update ans s)
  | .startup => some { s with reports := s.reports ++ [{ egress := s.current, pushes := false }] }
  | .report i source4 source6 =>
    match s.reports[i]? with
    | none => none
    | some r =>
      if r.next = .done then none
      else
        let (r', s') := r.step source4 source6 s
        some { s' with reports := s.reports.set i r' }

/-- The source addresses of the last reading. -/
def Binding.sources (s : Binding) : Option ℕ × Option ℕ :=
  (s.last.bind (·.v4.source), s.last.bind (·.v6.source))

/-- What is asked of a step: a report acts for the interfaces that are bound, and a
push reads the addresses the last reading saw. -/
def BindingKept (s : Binding) : BindingLabel → Prop
  | .report i source4 source6 => ∀ r ∈ s.reports[i]?, r.egress = s.current ∧
      (r.next = .push → (source4, source6) = s.sources)
  | .update _ | .startup => True

instance (s : Binding) (a : BindingLabel) : Decidable (BindingKept s a) :=
  match a with
  | .report i source4 source6 => inferInstanceAs (Decidable (∀ r ∈ s.reports[i]?,
      r.egress = s.current ∧ (r.next = .push → (source4, source6) = s.sources)))
  | .update _ | .startup => .isTrue trivial

/-- The runs in which every step meets a condition, from a monitor that has read
nothing. -/
abbrev BindingRuns (cond : Binding → BindingLabel → Prop) :
    List (Transition Binding BindingLabel) → Binding → Prop :=
  Run (fun s => ∃ available, s = { available }) fun _ s a s' => bindingStep s a = some s' ∧ cond s a

/-- No reading is being reported. -/
def Binding.Quiet (s : Binding) : Prop := ∀ r ∈ s.reports, r.next = .done

/-- Everyone follows the current binding. -/
structure Followed (s : Binding) : Prop where
  live4 : s.live4 = s.current.index4
  live6 : s.live6 = s.current.index6
  pushed : s.available = true → s.pushed = physicalAddresses s.current s.sources.1 s.sources.2
  sdk : s.sdk = s.current

/-! ### The invariant -/

section Invariant

variable {s s' : Binding}

/-- A report for the bound interfaces has not yet passed the given statements. -/
def Pending (s : Binding) (p : Report → Prop) : Prop := ∃ r ∈ s.reports, r.egress = s.current ∧ p r

/-- Whoever does not follow has a report before it. -/
structure BindingOk (s : Binding) : Prop where
  live4 : s.live4 = s.current.index4 ∨ Pending s fun r => r.next = .store4
  live6 : s.live6 = s.current.index6 ∨ Pending s fun r => r.next = .store4 ∨ r.next = .store6
  pushed : s.available = true →
    s.pushed = physicalAddresses s.current s.sources.1 s.sources.2 ∨
      Pending s fun r => r.pushes = true ∧ r.next ≠ .done
  sdk : s.sdk = s.current
  unread : s.last = none → s.current = {}

/-- A reading that reports nothing leaves the interfaces, and after the first reading
the addresses, as they were. -/
lemma eq_of_not_binding {egress : EgressInterfaces} {signature : EgressSignature}
    (h : (readingChange s egress signature).binding = false) :
    egress = s.current ∧ ∀ l ∈ s.last,
      signature.v4.source = l.v4.source ∧ signature.v6.source = l.v6.source := by
  obtain ⟨available, ⟨index4, index6⟩, sdk, last, live4, live6, pushed, reports⟩ := s
  obtain ⟨i4, i6⟩ := egress
  cases last with
  | none =>
    simp only [readingChange, Bool.or_eq_false_iff, decide_eq_false_iff_not, ne_eq,
      Decidable.not_not] at h
    obtain ⟨rfl, rfl⟩ := h
    exact ⟨rfl, by simp⟩
  | some l =>
    simp only [readingChange, observeChange, bindingMoved, Bool.or_eq_false_iff,
      decide_eq_false_iff_not, ne_eq, Decidable.not_not] at h
    obtain ⟨⟨⟨-, hv4⟩, -, hv6⟩, rfl, rfl⟩ := h
    refine ⟨rfl, fun l' hl' => ?_⟩
    cases hl'
    exact ⟨hv4.symm, hv6.symm⟩

lemma physicalAddresses_zero (source4 source6 : Option ℕ) :
    physicalAddresses {} source4 source6 = {} := by
  simp [physicalAddresses]

lemma BindingOk.update (h : BindingOk s) (ans : Answers) : BindingOk (update ans s) := by
  simp only [EgressBinding.update]
  cases hchange : (readingChange s (retain s.current ans)
      (observeEgress ans (retain s.current ans))).binding with
  | true =>
    -- the reading's own report is before everyone
    have hpending : ∀ p : Report → Prop, p ⟨retain s.current ans, true, .store4⟩ →
        Pending { s with
          current := retain s.current ans
          sdk := retain s.current ans
          last := some (observeEgress ans (retain s.current ans))
          reports := s.reports ++ [{ egress := retain s.current ans, pushes := true }] } p :=
      fun p hp => ⟨_, List.mem_concat_self, rfl, hp⟩
    exact ⟨.inr (hpending _ rfl), .inr (hpending _ (.inl rfl)),
      fun _ => .inr (hpending _ ⟨rfl, by simp⟩), rfl, fun hnone => absurd hnone (by simp)⟩
  | false =>
    obtain ⟨hsame, hsources⟩ := eq_of_not_binding hchange
    rw [hsame]
    refine ⟨h.live4, h.live6, fun havailable => ?_, rfl, fun hnone => absurd hnone (by simp)⟩
    rcases h.pushed havailable with hpushed | hpending
    · left
      cases hlast : s.last with
      | none =>
        have hcurrent := h.unread hlast
        rw [hcurrent, physicalAddresses_zero] at hpushed
        simp only [hcurrent, physicalAddresses_zero]
        exact hpushed
      | some l =>
        obtain ⟨hv4, hv6⟩ := hsources l hlast
        rw [hsame] at hv4 hv6
        rw [hpushed]
        simp only [Binding.sources, hlast, Option.bind_some, hv4, hv6]
    · exact .inr hpending

lemma Pending.set {i : ℕ} {r r' : Report} {p : Report → Prop} (h : Pending s p)
    (hi : s.reports[i]? = some r) (hcurrent : s'.current = s.current)
    (hreports : s'.reports = s.reports.set i r') (hegress : r'.egress = r.egress)
    (hp : p r → p r') : Pending s' p := by
  rw [Pending, hcurrent, hreports]
  exact exists_mem_set h hi fun hr => ⟨hegress.trans hr.1, hp hr.2⟩

lemma BindingOk.report {i : ℕ} {source4 source6 : Option ℕ} (h : BindingOk s)
    (hkept : BindingKept s (.report i source4 source6))
    (hs : bindingStep s (.report i source4 source6) = some s') : BindingOk s' := by
  simp only [bindingStep] at hs
  split at hs
  · exact absurd hs (by simp)
  next r hi =>
  obtain ⟨hcurrent, hsources⟩ := hkept r hi
  obtain ⟨hnext, hs⟩ := Option.ite_none_left_eq_some.1 hs
  obtain ⟨egress, pushes, next⟩ := r
  obtain rfl : egress = s.current := hcurrent
  cases next with
  | store4 =>
    cases hs
    refine ⟨.inl rfl, h.live6.imp_right fun hp => ?_,
      fun ha => (h.pushed ha).imp_right fun hp => ?_, h.sdk, h.unread⟩
    · exact hp.set hi rfl rfl rfl fun _ => .inr rfl
    · exact hp.set hi rfl rfl rfl fun hr => ⟨hr.1, by simp [Report.step]⟩
  | store6 =>
    cases hs
    refine ⟨h.live4.imp_right fun hp => ?_, .inl rfl,
      fun ha => (h.pushed ha).imp_right fun hp => ?_, h.sdk, h.unread⟩
    · exact hp.set hi rfl rfl rfl fun hr => absurd hr (by simp)
    · refine hp.set hi rfl rfl rfl fun hr => ⟨hr.1, ?_⟩
      replace ha : s.available = true := ha
      have hpushes : pushes = true := hr.1
      simp [Report.step, ha, hpushes]
  | push =>
    cases hs
    refine ⟨h.live4.imp_right fun hp => ?_, h.live6.imp_right fun hp => ?_, fun _ => .inl ?_,
      h.sdk, h.unread⟩
    · exact hp.set hi rfl rfl rfl fun hr => absurd hr (by simp)
    · exact hp.set hi rfl rfl rfl fun hr => absurd hr (by simp)
    · have hsrc := hsources rfl
      show physicalAddresses s.current source4 source6 =
        physicalAddresses s.current s.sources.1 s.sources.2
      rw [← hsrc]
  | done => exact absurd rfl hnext

lemma BindingOk.step {a : BindingLabel} (h : BindingOk s) (hkept : BindingKept s a)
    (hs : bindingStep s a = some s') : BindingOk s' := by
  cases a with
  | update ans =>
    cases hs
    exact h.update ans
  | startup =>
    cases hs
    have hmono : ∀ p, Pending s p → Pending { s with
        reports := s.reports ++ [{ egress := s.current, pushes := false }] } p := by
      rintro p ⟨r, hr, hegress, hp⟩
      exact ⟨r, List.mem_append_left _ hr, hegress, hp⟩
    exact ⟨h.live4.imp_right (hmono _), h.live6.imp_right (hmono _),
      fun ha => (h.pushed ha).imp_right (hmono _), h.sdk, h.unread⟩
  | report i source4 source6 => exact h.report hkept hs

lemma BindingOk.followed (h : BindingOk s) (hquiet : s.Quiet) : Followed s where
  live4 := h.live4.resolve_right fun ⟨r, hr, _, hnext⟩ => absurd (hquiet r hr) (by simp [hnext])
  live6 := h.live6.resolve_right fun ⟨r, hr, _, hnext⟩ => by
    rcases hnext with hnext | hnext <;> exact absurd (hquiet r hr) (by simp [hnext])
  pushed ha := (h.pushed ha).resolve_right fun ⟨r, hr, _, hnext⟩ => hnext.2 (hquiet r hr)
  sdk := h.sdk

/-- In every run in which a report acts only for the interfaces that are bound, and a
push reads the addresses the last reading saw, everyone follows the current binding
whenever no reading is being reported; the SDK's binding is the current one always. -/
theorem binding_followed {es : List (Transition Binding BindingLabel)} {s : Binding}
    (hrun : BindingRuns BindingKept es s) : s.sdk = s.current ∧ (s.Quiet → Followed s) := by
  have hok : BindingOk s := hrun.invariant (P := fun _ s => BindingOk s)
    (fun s hs => by
      obtain ⟨available, rfl⟩ := hs
      exact ⟨.inl rfl, .inl rfl, fun _ => .inl (physicalAddresses_zero _ _).symm, rfl,
        fun _ => rfl⟩)
    (fun _ _ _ _ ih hstep => ih.step hstep.2 hstep.1)
  exact ⟨hok.sdk, hok.followed⟩

end Invariant

lemma BindingRuns.exists_of_execute (cond : Binding → BindingLabel → Prop)
    [∀ s a, Decidable (cond s a)] (as : List BindingLabel) (good : Binding → Bool)
    (h : ((execute bindingStep (fun s a => decide (cond s a)) { available := true } as).any good) =
      true) : ∃ es s, BindingRuns cond es s ∧ good s = true := by
  refine Run.exists_of_execute _ _ ?_ ?_ as good h
  · intro _ s a s' hok hstep
    exact ⟨hstep, of_decide_eq_true hok⟩
  · exact ⟨true, rfl⟩

/-- A reading of one interface with an IPv4 address. -/
def readsInterface (index address : ℕ) : Answers where
  discovered := { index4 := index }
  v4 := { usable := true, source := some address, network := some address }

instance (s : Binding) : Decidable s.Quiet :=
  inferInstanceAs (Decidable (∀ r ∈ s.reports, r.next = .done))

/-- The start reads one interface and its report runs to its end. -/
theorem binding_followed_at_start :
    ∃ es s, BindingRuns BindingKept es s ∧ s.current.index4 = 7 ∧ Followed s := by
  obtain ⟨es, s, hrun, hgood⟩ := BindingRuns.exists_of_execute BindingKept
    [.update (readsInterface 7 0x0A01A8C0), .report 0 none none, .report 0 none none,
      .report 0 (some 0x0A01A8C0) none] (fun s => s.current.index4 = 7 && decide s.Quiet)
    (by decide +kernel)
  rw [Bool.and_eq_true, decide_eq_true_eq, decide_eq_true_eq] at hgood
  exact ⟨es, s, hrun, hgood.1, (binding_followed hrun).2 hgood.2⟩

/-- Two readings, and the report of the older one runs last: the app and the driver
are left at an interface that is no longer the bound one. -/
theorem binding_older_report_last :
    ∃ es s, BindingRuns (fun _ _ => True) es s ∧ s.Quiet ∧ ¬ Followed s := by
  obtain ⟨es, s, hrun, hgood⟩ := BindingRuns.exists_of_execute (fun _ _ => True)
    [.update (readsInterface 7 0x0A01A8C0), .update (readsInterface 9 0x1401A8C0),
      .report 1 none none, .report 1 none none, .report 1 (some 0x1401A8C0) none,
      .report 0 none none, .report 0 none none, .report 0 (some 0x0A01A8C0) none]
    (fun s => s.live4 = 7 && s.pushed.index4 = 7 && s.current.index4 = 9 && decide s.Quiet)
    (by decide +kernel)
  simp only [Bool.and_eq_true, decide_eq_true_eq] at hgood
  obtain ⟨⟨⟨hlive, -⟩, hcurrent⟩, hquiet⟩ := hgood
  refine ⟨es, s, hrun, hquiet, fun h => ?_⟩
  have hfollows := h.live4
  omega

end UrnetworkWindows.Controller.EgressBinding
