/-
A sign-out owed to the service (`SignOut.h`, `Obligation`).

The app is one thread here: `Obligation` is called under a lock.  A step is one access of
`owed_`, one write of the marker, or one thing asked of the service, with its answer; the
app may crash between any two of them, and then only the marker is left, which the next
launch loads.

`Begin` writes the marker before it asks anything of the service, and `Settle` clears
`owed_` before it clears the marker.  So a sign-out that was written down stays owed until
three requests in a row have succeeded (`sign_out_stays_owed`); one that crashed before the
write is lost (`sign_out_lost_before_write`).
-/
import UrnetworkWindows.Lib.Trace

namespace UrnetworkWindows.SignOut

open Lib

/-! ### The obligation -/

/-- `Request`. -/
inductive Request
  | stopTunnel
  | stopProvider
  | logout
deriving DecidableEq, Repr

/-- `kRequests`. -/
def kRequests : List Request := [.stopTunnel, .stopProvider, .logout]

/-- `Delivery`. -/
inductive Delivery
  | delivered
  | unreachable
  | refused
deriving DecidableEq, Repr

/-- The next statement of the app: it is not running, is in neither call, or in `Begin` or
`Settle`, with the requests still to send and whether those sent all succeeded. -/
inductive At
  | down
  | idle
  | recording
  | testing
  | reaching
  | sending (rest : List Request) (done : Bool)
  | clearing
deriving DecidableEq, Repr

/-- `Obligation`, its marker, and the app; `returned` is what the last call of this launch
returned. -/
structure Obligation where
  owed : Bool := false
  marker : Bool
  phase : At := .down
  returned : Option Delivery := none
deriving DecidableEq, Repr

/-- A launch that loads the marker, the two calls, the next statement of the one that runs,
with the service's answer, and a crash. -/
inductive Pick
  | load
  | beginCall
  | settleCall
  | next (ok : Bool)
  | crash
deriving DecidableEq, Repr

/-- One step. -/
def step (s : Obligation) : Pick → Option Obligation
  | .load => if s.phase = .down then some { s with owed := s.marker, phase := .idle } else none
  | .beginCall =>
    if s.phase = .idle then some { s with owed := true, phase := .recording } else none
  | .settleCall => if s.phase = .idle then some { s with phase := .testing } else none
  | .crash => if s.phase = .down then none else some { marker := s.marker }
  | .next ok =>
    match s.phase with
    | .down => none
    | .idle => none
    | .recording => some { s with marker := true, phase := .testing }
    | .testing =>
      if s.owed then some { s with phase := .reaching }
      else some { s with phase := .idle, returned := some .delivered }
    | .reaching =>
      if ok then some { s with phase := .sending kRequests true }
      else some { s with phase := .idle, returned := some .unreachable }
    | .sending (_ :: rest) done => some { s with phase := .sending rest (done && ok) }
    | .sending [] done =>
      if done then some { s with owed := false, phase := .clearing }
      else some { s with phase := .idle, returned := some .refused }
    | .clearing => some { s with marker := false, phase := .idle, returned := some .delivered }

/-- The runs, from any marker an earlier launch left. -/
abbrev Obligation.Runs : List (Transition Obligation Pick) → Obligation → Prop :=
  Run (fun s => ∃ marker, s = { marker }) fun _ s a s' => step s a = some s'

/-! ### What is asked of the service -/

/-- `Begin` writes its marker. -/
def Records (t : Transition Obligation Pick) : Prop :=
  t.pre.phase = .recording ∧ ∃ ok, t.label = .next ok

/-- A `Settle` finds the service up. -/
def Reaches (t : Transition Obligation Pick) : Prop :=
  t.pre.phase = .reaching ∧ t.label = .next true

/-- The request is sent, and this is the answer. -/
def Sends (r : Request) (ok : Bool) (t : Transition Obligation Pick) : Prop :=
  ∃ rest done, t.pre.phase = .sending (r :: rest) done ∧ t.label = .next ok

/-- A `Settle` that has reached the service has sent these and no others, and all of them
succeeded. -/
def Sent (rs : List Request) (es : List (Transition Obligation Pick)) : Prop :=
  ∃ before t ts, es = before ++ t :: ts ∧ Reaches t ∧ List.Forall₂ (Sends · true) rs ts

/-- One `Settle` reached the service, and all three requests succeeded in it. -/
def Done (es : List (Transition Obligation Pick)) : Prop :=
  ∃ during after, es = during ++ after ∧ Sent kRequests during

/-- From the marker of a `Begin` on, the sign-out is owed, and would be loaded as owed,
until it is done; nothing is sent while it is not; a `Settle` that reaches the service sends
all three, in order, unless the app crashes; and the launch after a `Begin` that crashed before
its write finds the marker as it was. -/
structure StaysOwed (es : List (Transition Obligation Pick)) (s : Obligation) : Prop where
  owed : ∀ es₁ t es₂, es = es₁ ++ t :: es₂ → Records t → s.phase ≠ .down → s.owed = false →
    Done es₂
  marker : ∀ es₁ t es₂, es = es₁ ++ t :: es₂ → Records t → ¬ Done es₂ →
    s.marker = true ∧ ∀ s', step s .load = some s' → s'.owed = true
  sends : ∀ es₁ t es₂ r ok, es = es₁ ++ t :: es₂ → Sends r ok t →
    t.pre.owed = true ∧ t.pre.marker = true
  order : ∀ es₁ t es₂, es = es₁ ++ t :: es₂ → Reaches t → t.pre.owed = true ∧
    ∀ (i : ℕ) (u : Transition Obligation Pick) (r : Request), es₂[i]? = some u →
      kRequests[i]? = some r → (∀ v ∈ es₂.take (i + 1), v.label ≠ .crash) → ∃ ok, Sends r ok u
  lost : ∀ es₁ t u es₂, es = es₁ ++ t :: u :: es₂ → t.label = .beginCall → u.label = .crash →
    ∀ s', step u.post .load = some s' → s'.owed = t.pre.marker ∧ s'.marker = t.pre.marker

/-! ### The flag and the marker -/

/-- What is owed has been written down, but for the `Begin` that is about to. -/
def MarkerOk (s : Obligation) : Prop :=
  match s.phase with
  | .down => True
  | .recording => s.owed = true
  | .reaching => s.owed = true ∧ s.marker = true
  | .sending _ _ => s.owed = true ∧ s.marker = true
  | .clearing => s.owed = false
  | _ => s.owed = true → s.marker = true

namespace MarkerOk

variable {s s' : Obligation}

lemma next (h : MarkerOk s) {ok : Bool} (hs : step s (.next ok) = some s') : MarkerOk s' := by
  simp only [step] at hs
  unfold MarkerOk at h
  split at hs
  next => cases hs
  next => cases hs
  next hphase =>
    cases hs
    exact fun _ => rfl
  next hphase =>
    rw [hphase] at h
    split at hs
    next howed =>
      cases hs
      exact ⟨howed, h howed⟩
    next =>
      cases hs
      exact h
  next hphase =>
    rw [hphase] at h
    split at hs
    next =>
      cases hs
      exact h
    next =>
      cases hs
      exact fun _ => h.2
  next r rest done hphase =>
    rw [hphase] at h
    cases hs
    exact h
  next done hphase =>
    rw [hphase] at h
    split at hs
    next =>
      cases hs
      rfl
    next =>
      cases hs
      exact fun _ => h.2
  next hphase =>
    rw [hphase] at h
    cases hs
    exact fun howed => absurd (h.symm.trans howed) nofun

lemma step (h : MarkerOk s) {a : Pick} (hs : SignOut.step s a = some s') : MarkerOk s' := by
  cases a with
  | next ok => exact h.next hs
  | load =>
    obtain ⟨-, rfl⟩ := guard_eq_some.1 hs
    exact id
  | beginCall =>
    obtain ⟨-, rfl⟩ := guard_eq_some.1 hs
    rfl
  | settleCall =>
    obtain ⟨hphase, rfl⟩ := guard_eq_some.1 hs
    unfold MarkerOk at h
    rw [hphase] at h
    exact h
  | crash =>
    obtain ⟨-, rfl⟩ := stop_eq_some.1 hs
    trivial

lemma of_run {es : List (Transition Obligation Pick)} (h : Obligation.Runs es s) : MarkerOk s :=
  h.invariant (P := fun _ s => MarkerOk s) (by rintro _ ⟨m, rfl⟩; trivial) fun _ _ _ _ h hs =>
    h.step hs

end MarkerOk

lemma Sends.owed {t : Transition Obligation Pick} {r : Request} {ok : Bool} (h : Sends r ok t)
    (hok : MarkerOk t.pre) : t.pre.owed = true ∧ t.pre.marker = true := by
  obtain ⟨rest, done, hphase, -⟩ := h
  unfold MarkerOk at hok
  rw [hphase] at hok
  exact hok

/-! ### From the marker on -/

lemma Sent.snoc {rs : List Request} {es : List (Transition Obligation Pick)} (h : Sent rs es)
    {r : Request} {t : Transition Obligation Pick} (ht : Sends r true t) :
    Sent (rs ++ [r]) (es ++ [t]) := by
  obtain ⟨before, t₀, ts, rfl, hreach, hall⟩ := h
  refine ⟨before, t₀, ts ++ [t], by simp, hreach, ?_⟩
  exact List.rel_append hall (.cons ht .nil)

lemma Done.append {es : List (Transition Obligation Pick)} (h : Done es)
    (es' : List (Transition Obligation Pick)) : Done (es ++ es') := by
  obtain ⟨during, after, rfl, hsent⟩ := h
  exact ⟨during, after ++ es', List.append_assoc .., hsent⟩

/-- The state after a `Begin` that has written its marker, while the sign-out is not done:
a `Settle` all of whose requests have succeeded so far has sent the ones before the rest. -/
structure Standing (es : List (Transition Obligation Pick)) (s : Obligation) : Prop where
  marker : s.marker = true
  owed : s.phase ≠ .down → s.owed = true
  sent : ∀ rest, s.phase = .sending rest true → ∃ rs, rs ++ rest = kRequests ∧ Sent rs es
  unsettled : s.phase ≠ .clearing

namespace Standing

variable {es : List (Transition Obligation Pick)} {s s' : Obligation}

lemma next (h : Standing es s) {ok : Bool} (hs : step s (.next ok) = some s') :
    Standing (es ++ [⟨s, .next ok, s'⟩]) s' ∨ Done (es ++ [⟨s, .next ok, s'⟩]) := by
  simp only [step] at hs
  split at hs
  next => cases hs
  next => cases hs
  next hphase =>
    cases hs
    exact .inl ⟨rfl, fun _ => h.owed (by simp [hphase]), nofun, nofun⟩
  next hphase =>
    have howed := h.owed (by simp [hphase])
    rw [if_pos howed] at hs
    cases hs
    exact .inl ⟨h.marker, fun _ => howed, nofun, nofun⟩
  next hphase =>
    have howed := h.owed (by simp [hphase])
    split at hs
    next hok =>
      subst hok
      cases hs
      left
      refine ⟨h.marker, fun _ => howed, ?_, nofun⟩
      rintro rest hrest
      obtain ⟨rfl, -⟩ := At.sending.inj hrest
      exact ⟨[], rfl, es, _, [], rfl, ⟨hphase, rfl⟩, .nil⟩
    next =>
      cases hs
      exact .inl ⟨h.marker, fun _ => howed, nofun, nofun⟩
  next r rest done hphase =>
    have howed := h.owed (by simp [hphase])
    cases hs
    left
    refine ⟨h.marker, fun _ => howed, ?_, nofun⟩
    rintro rest' hrest
    obtain ⟨rfl, hdone⟩ := At.sending.inj hrest
    obtain ⟨rfl, rfl⟩ := Bool.and_eq_true_iff.1 hdone
    obtain ⟨rs, hrs, hsent⟩ := h.sent _ hphase
    exact ⟨rs ++ [r], by simpa using hrs, hsent.snoc ⟨rest, true, hphase, rfl⟩⟩
  next done hphase =>
    have howed := h.owed (by simp [hphase])
    split at hs
    next hdone =>
      -- all three have succeeded
      subst hdone
      obtain ⟨rs, hrs, hsent⟩ := h.sent _ hphase
      rw [List.append_nil] at hrs
      subst hrs
      exact .inr ⟨es, _, rfl, hsent⟩
    next =>
      cases hs
      exact .inl ⟨h.marker, fun _ => howed, nofun, nofun⟩
  next hphase => exact absurd hphase h.unsettled

lemma step (h : Standing es s) {a : Pick} (hs : SignOut.step s a = some s') :
    Standing (es ++ [⟨s, a, s'⟩]) s' ∨ Done (es ++ [⟨s, a, s'⟩]) := by
  cases a with
  | next ok => exact h.next hs
  | load =>
    obtain ⟨-, rfl⟩ := guard_eq_some.1 hs
    exact .inl ⟨h.marker, fun _ => h.marker, nofun, nofun⟩
  | beginCall =>
    obtain ⟨-, rfl⟩ := guard_eq_some.1 hs
    exact .inl ⟨h.marker, fun _ => rfl, nofun, nofun⟩
  | settleCall =>
    obtain ⟨hphase, rfl⟩ := guard_eq_some.1 hs
    exact .inl ⟨h.marker, fun _ => h.owed (by simp [hphase]), nofun, nofun⟩
  | crash =>
    obtain ⟨-, rfl⟩ := stop_eq_some.1 hs
    exact .inl ⟨h.marker, fun hdown => absurd rfl hdown, nofun, nofun⟩

lemma of_records {t : Transition Obligation Pick} (ht : Records t) (hok : MarkerOk t.pre)
    (hs : SignOut.step t.pre t.label = some t.post) : Standing [] t.post := by
  obtain ⟨hphase, ok, hlabel⟩ := ht
  unfold MarkerOk at hok
  rw [hlabel] at hs
  simp only [SignOut.step, hphase] at hs hok
  rw [← Option.some.inj hs]
  exact ⟨rfl, fun _ => hok, nofun, nofun⟩

lemma of_run (h : Obligation.Runs es s) : ∀ es₁ t es₂, es = es₁ ++ t :: es₂ → Records t →
    Standing es₂ s ∨ Done es₂ := by
  induction h with
  | nil => exact fun es₁ t es₂ he => absurd he (by simp)
  | @snoc es s a s' hrun hs ih =>
    intro es₁ t es₂ he ht
    rcases eq_or_mem_of_snoc he with ⟨rfl, rfl, rfl⟩ | ⟨es₂', rfl, rfl⟩
    · exact .inl (of_records ht (MarkerOk.of_run hrun) hs)
    · rcases ih es₁ t es₂' rfl ht with hstand | hdone
      · exact hstand.step hs
      · exact .inr (hdone.append _)

end Standing

/-! ### The order of the requests -/

lemma sends_of_step {s s' : Obligation} {a : Pick} {r : Request} {rest : List Request}
    {done : Bool} (hphase : s.phase = .sending (r :: rest) done) (ha : a ≠ .crash)
    (hs : step s a = some s') :
    ∃ ok, Sends r ok ⟨s, a, s'⟩ ∧ s'.phase = .sending rest (done && ok) := by
  cases a with
  | crash => exact absurd rfl ha
  | next ok =>
    simp only [step, hphase] at hs
    rw [← Option.some.inj hs]
    exact ⟨ok, ⟨rest, done, hphase, rfl⟩, rfl⟩
  | _ =>
    obtain ⟨hidle, -⟩ := Option.ite_none_right_eq_some.1 hs
    exact absurd (hidle.symm.trans hphase) nofun

lemma phase_of_reaches {es : List (Transition Obligation Pick)} {s : Obligation}
    (h : Obligation.Runs es s) : ∀ es₁ t es₂, es = es₁ ++ t :: es₂ → Reaches t →
      (∀ v ∈ es₂, v.label ≠ .crash) → es₂.length ≤ kRequests.length →
        ∃ done, s.phase = .sending (kRequests.drop es₂.length) done := by
  induction h with
  | nil => exact fun es₁ t es₂ he => absurd he (by simp)
  | @snoc es s a s' hrun hs ih =>
    intro es₁ t es₂ he ht hcrash hlen
    rcases eq_or_mem_of_snoc he with ⟨rfl, rfl, rfl⟩ | ⟨es₂', rfl, rfl⟩
    · obtain ⟨hphase, hlabel⟩ := ht
      simp only at hphase hlabel
      subst hlabel
      simp only [step, hphase] at hs
      rw [← Option.some.inj hs]
      exact ⟨true, rfl⟩
    · rw [List.length_append, List.length_singleton] at hlen ⊢
      obtain ⟨done, hphase⟩ := ih es₁ t es₂' rfl ht
        (fun v hv => hcrash v (List.mem_append_left _ hv)) (by omega)
      rw [List.drop_eq_getElem_cons (by omega)] at hphase
      have ha : a ≠ .crash := hcrash ⟨s, a, s'⟩ (by simp)
      obtain ⟨ok, -, hphase'⟩ := sends_of_step hphase ha hs
      exact ⟨done && ok, hphase'⟩

lemma sends_of_reaches {es es₁ es₂ : List (Transition Obligation Pick)} {s : Obligation}
    {t u : Transition Obligation Pick} {r : Request} {i : ℕ} (h : Obligation.Runs es s)
    (he : es = es₁ ++ t :: es₂) (ht : Reaches t) (hu : es₂[i]? = some u)
    (hr : kRequests[i]? = some r) (hcrash : ∀ v ∈ es₂.take (i + 1), v.label ≠ .crash) :
    ∃ ok, Sends r ok u := by
  obtain ⟨hi, rfl⟩ := List.getElem?_eq_some_iff.1 hu
  obtain ⟨hi', rfl⟩ := List.getElem?_eq_some_iff.1 hr
  have hcut : es₂ = es₂.take i ++ es₂[i] :: es₂.drop (i + 1) := by simp
  have hlen : (es₂.take i).length = i := List.length_take_of_le hi.le
  rw [hcut, ← List.cons_append, ← List.append_assoc] at he
  obtain ⟨hrun, hstep⟩ := h.split he
  rw [List.take_succ_eq_append_getElem hi] at hcrash
  obtain ⟨hbefore, hlast⟩ := List.forall_mem_append.1 hcrash
  obtain ⟨done, hphase⟩ := phase_of_reaches hrun es₁ t _ rfl ht hbefore (by omega)
  rw [hlen, List.drop_eq_getElem_cons hi'] at hphase
  obtain ⟨ok, hsend, -⟩ :=
    sends_of_step hphase (hlast _ (List.mem_singleton_self _)) hstep
  exact ⟨ok, hsend⟩

/-! ### A `Begin` that is lost -/

lemma marker_of_lost {es es₁ es₂ : List (Transition Obligation Pick)} {s : Obligation}
    {t u : Transition Obligation Pick} (h : Obligation.Runs es s) (he : es = es₁ ++ t :: u :: es₂)
    (ht : t.label = .beginCall) (hu : u.label = .crash) : u.post.marker = t.pre.marker := by
  have he' : es = (es₁ ++ [t]) ++ u :: es₂ := by simp [he]
  obtain ⟨-, hbegin⟩ := h.split he
  obtain ⟨hrun, hcrash⟩ := h.split he'
  rw [ht] at hbegin
  rw [hu, ← hrun.post_eq] at hcrash
  obtain ⟨-, hbegin⟩ := Option.ite_none_right_eq_some.1 hbegin
  obtain ⟨-, hcrash⟩ := Option.ite_none_left_eq_some.1 hcrash
  rw [← Option.some.inj hcrash, ← Option.some.inj hbegin]

/-- **A sign-out that was written down stays owed until all of it is done.** -/
theorem sign_out_stays_owed {es : List (Transition Obligation Pick)} {s : Obligation}
    (h : Obligation.Runs es s) : StaysOwed es s where
  owed := by
    intro es₁ t es₂ he ht hphase howed
    rcases Standing.of_run h es₁ t es₂ he ht with hstand | hdone
    · exact absurd (hstand.owed hphase) (by simp [howed])
    · exact hdone
  marker := by
    intro es₁ t es₂ he ht hnot
    rcases Standing.of_run h es₁ t es₂ he ht with hstand | hdone
    · refine ⟨hstand.marker, ?_⟩
      intro s' hs
      obtain ⟨-, hs⟩ := Option.ite_none_right_eq_some.1 hs
      rw [← Option.some.inj hs]
      exact hstand.marker
    · exact absurd hdone hnot
  sends := by
    intro es₁ t es₂ r ok he hsend
    exact hsend.owed (MarkerOk.of_run (h.split he).1)
  order := by
    intro es₁ t es₂ he ht
    constructor
    · have hok := MarkerOk.of_run (h.split he).1
      unfold MarkerOk at hok
      rw [ht.1] at hok
      exact hok.1
    · intro i u r hu hr hcrash
      exact sends_of_reaches h he ht hu hr hcrash
  lost := by
    intro es₁ t u es₂ he ht hu s' hload
    have hmarker := marker_of_lost h he ht hu
    obtain ⟨-, hload⟩ := Option.ite_none_right_eq_some.1 hload
    rw [← Option.some.inj hload]
    exact ⟨hmarker, hmarker⟩

theorem sign_out_stays_owed_refused : ∃ es s, StaysOwed es s ∧ s.owed = true ∧
    s.returned = some .refused := by
  have hrun : ∃ es s, Obligation.Runs es s ∧
      decide (s.owed = true ∧ s.returned = some .refused) = true :=
    Run.exists_of_execute step (fun _ _ => true) (fun _ _ _ _ _ hs => hs) ⟨false, rfl⟩
      [.load, .beginCall, .next true, .next true, .next true, .next true, .next false,
        .next true, .next true] _ (by decide +kernel)
  obtain ⟨es, s, hrun, hgood⟩ := hrun
  exact ⟨es, s, sign_out_stays_owed hrun, of_decide_eq_true hgood⟩

/-- A `Begin` the app crashes in before the marker is written: the next launch owes
nothing, and nothing was sent. -/
theorem sign_out_lost_before_write :
    ∃ (es₁ : List (Transition Obligation Pick)) (t : Transition Obligation Pick)
      (es₂ : List (Transition Obligation Pick)) (s : Obligation),
      Obligation.Runs (es₁ ++ t :: es₂) s ∧ t.label = .beginCall ∧ s.phase = .idle ∧
        s.owed = false ∧ ¬ Done es₂ := by
  have h₀ : Obligation.Runs [] { marker := false } := .nil ⟨false, rfl⟩
  have h₁ := h₀.snoc (a := .load) (by rfl)
  have h₂ := h₁.snoc (a := .beginCall) (by rfl)
  have h₃ := h₂.snoc (a := .crash) (by rfl)
  have h₄ := h₃.snoc (a := .load) (by rfl)
  refine ⟨[_], _, [_, _], _, h₄, rfl, rfl, rfl, ?_⟩
  rintro ⟨during, after, he, before, t, ts, rfl, ⟨-, hlabel⟩, -⟩
  have hmem : t ∈ before ++ t :: ts ++ after := by simp
  rw [← he] at hmem
  rcases List.mem_cons.1 hmem with rfl | hmem
  · cases hlabel
  · obtain rfl := List.mem_singleton.1 hmem
    cases hlabel

end UrnetworkWindows.SignOut
