/-
One upload at a time (`LogUpload.h`, `Flight`).

An id is given an outcome only while it is the one in flight and has none, by `Finish` or
by the bound on a silent upload (`OutcomesOk`), and only a `Finish` that gave one runs the
hook (`HooksOk`).  With what holds of the threads and the devices, `OneAtATime` follows for
every run: it is what the service relies on.
-/
import UrnetworkWindows.LogUpload.Custody

namespace UrnetworkWindows.LogUpload

open Lib

/-- At most one thread is in the sdk's call; an upload is admitted only after the last one;
the call's device outlives the call and is released once; an id has one outcome, and its
hook runs once. -/
structure OneAtATime (es : List (Transition Service Pick)) (s : Service) : Prop where
  inCall : ∀ (i j : ℕ) (t u : UploadThread), s.threads[i]? = some t → s.threads[j]? = some u →
    t.phase = .calling → u.phase = .calling → i = j
  admits : ∀ es₁ e es₂ carrier nowMillis, es = es₁ ++ e :: es₂ →
    e.label = .request carrier nowMillis → (e.pre.flight.begin carrier nowMillis).1 ≠ 0 →
      (∀ t ∈ e.pre.threads, t.phase = .done) ∧
      (e.pre.flight.expireSilent nowMillis).reading.state ≠ .running
  kept : ∀ es₁ e es₂ deviceHandle, es = es₁ ++ e :: es₂ → e.label = .keep deviceHandle →
    deviceHandle ≠ 0 → ∀ (i : ℕ) (t : UploadThread), e.pre.threads[i]? = some t →
      t.phase = .calling → t.deviceHandle = deviceHandle →
      (e.pre.flight.keepUntilReturned deviceHandle e.pre.keeps.length).1 = none ∧
      ∃ t', s.threads[i]? = some t' ∧
        (e.pre.keeps.length ∈ s.released → t'.phase.away = false) ∧
        s.released.count e.pre.keeps.length ≤ 1 ∧
        (t'.phase = .done → s.released.count e.pre.keeps.length = 1)
  outcome : ∀ id, (s.outcomes.map Prod.fst).count id ≤ 1
  reading : isFinished s.flight.reading.state = true →
    (s.flight.reading.id, s.flight.reading.state) ∈ s.outcomes
  hook : ∀ id, s.hooks.count id ≤ 1

/-! ### The outcomes -/

/-- An outcome is of an upload that has begun; the one in flight has one when it is
finished, and the last it was given is what is read. -/
structure OutcomesOk (f : Flight) (outcomes : List (ℤ × FlightState)) : Prop where
  nodup : (outcomes.map Prod.fst).Nodup
  le : ∀ id ∈ outcomes.map Prod.fst, id ≤ f.reading.id
  current : f.reading.id ∈ outcomes.map Prod.fst → isFinished f.reading.state = true
  recorded : isFinished f.reading.state = true → (f.reading.id, f.reading.state) ∈ outcomes
  next : f.reading.id < f.nextId
  nonneg : 0 ≤ f.reading.id

namespace OutcomesOk

variable {f f' : Flight} {outcomes : List (ℤ × FlightState)}

lemma of_eq (h : OutcomesOk f outcomes) (hreading : f'.reading = f.reading)
    (hnext : f'.nextId = f.nextId) : OutcomesOk f' outcomes := by
  constructor
  · exact h.nodup
  · rw [hreading]
    exact h.le
  · rw [hreading]
    exact h.current
  · rw [hreading]
    exact h.recorded
  · rw [hreading, hnext]
    exact h.next
  · rw [hreading]
    exact h.nonneg

lemma give (h : OutcomesOk f outcomes) {state : FlightState}
    (hunfinished : isFinished f.reading.state = false) (hstate : isFinished state = true)
    (hreading : f'.reading = { f.reading with state }) (hnext : f'.nextId = f.nextId) :
    OutcomesOk f' (outcomes ++ [(f.reading.id, state)]) := by
  have hfresh : f.reading.id ∉ outcomes.map Prod.fst := by
    intro hmem
    rw [h.current hmem] at hunfinished
    exact Bool.noConfusion hunfinished
  constructor
  · rw [List.map_append, List.map_singleton, ← List.concat_eq_append]
    exact h.nodup.concat hfresh
  · intro id hid
    rw [hreading]
    rw [List.map_append, List.mem_append] at hid
    rcases hid with hid | hid
    · exact h.le id hid
    · rw [List.map_singleton, List.mem_singleton] at hid
      exact hid.le
  · intro _
    rw [hreading]
    exact hstate
  · intro _
    rw [hreading]
    exact List.mem_concat_self
  · rw [hreading, hnext]
    exact h.next
  · rw [hreading]
    exact h.nonneg

lemma expireSilent (h : OutcomesOk f outcomes) (nowMillis : ℤ) :
    OutcomesOk (f.expireSilent nowMillis) (outcomes ++ f.givenUp nowMillis) := by
  unfold Flight.expireSilent Flight.givenUp
  split
  next hsilent =>
    have hrunning : f.reading.state = .running := by
      rw [Flight.silent, Bool.and_eq_true] at hsilent
      exact of_decide_eq_true hsilent.1
    exact h.give (by rw [hrunning]; rfl) rfl rfl rfl
  next =>
    rw [List.append_nil]
    exact h

lemma begin (h : OutcomesOk f outcomes) (carrier : Carrier) (nowMillis : ℤ) :
    OutcomesOk (f.begin carrier nowMillis).2 (outcomes ++ f.givenUp nowMillis) := by
  have he := h.expireSilent nowMillis
  rcases begin_cases f carrier nowMillis with hb | ⟨-, -, -, hb⟩
  · rw [hb]
    exact he
  · have hlt := he.next
    rw [expireSilent_nextId] at hlt
    have hnonneg := he.nonneg
    rw [hb]
    constructor
    · exact he.nodup
    · intro id hid
      exact (he.le id hid).trans hlt.le
    · intro hmem
      have hle : f.nextId ≤ (f.expireSilent nowMillis).reading.id := he.le _ hmem
      omega
    · intro hfinished
      exact absurd hfinished (by simp [isFinished])
    · exact lt_add_one _
    · exact hnonneg.trans hlt.le

lemma takes_cases {id : ℤ} {state : FlightState} (h : f.takes id state = true) :
    f.reading.id = id ∧ isFinished f.reading.state = false ∧ isFinished state = true := by
  simpa [Flight.takes, and_assoc] using h

lemma fresh (h : OutcomesOk f outcomes) {id : ℤ} {state : FlightState}
    (htakes : f.takes id state = true) : id ∉ outcomes.map Prod.fst := by
  obtain ⟨rfl, hunfinished, -⟩ := takes_cases htakes
  intro hmem
  rw [h.current hmem] at hunfinished
  exact Bool.noConfusion hunfinished

lemma finish (h : OutcomesOk f outcomes) (id : ℤ) (state : FlightState) :
    OutcomesOk (f.finish id state).2
      (outcomes ++ if f.takes id state then [(id, state)] else []) := by
  unfold Flight.finish
  split
  next htakes =>
    obtain ⟨rfl, hunfinished, hstate⟩ := takes_cases htakes
    exact h.give hunfinished hstate rfl rfl
  next =>
    rw [List.append_nil]
    exact h

end OutcomesOk

theorem OutcomesOk.step {s s' : Service} {a : Pick} (h : OutcomesOk s.flight s.outcomes)
    (hs : LogUpload.step s a = some s') : OutcomesOk s'.flight s'.outcomes := by
  cases a with
  | request carrier nowMillis =>
    obtain ⟨-, rfl⟩ := guard_eq_some.1 hs
    exact h.begin carrier nowMillis
  | leave =>
    obtain ⟨id, -, rfl⟩ := leave_cases hs
    exact h
  | run deviceHandle =>
    obtain ⟨id, -, rfl⟩ := run_cases hs
    exact h.of_eq rfl rfl
  | spawn ok =>
    obtain ⟨id, deviceHandle, -, rfl⟩ := spawn_cases hs
    exact h
  | thread i throws =>
    obtain ⟨t, -, hcases⟩ := thread_cases hs
    rcases hcases with ⟨r, finishes, -, -, -, rfl⟩ | ⟨-, rfl⟩ | ⟨device, devices, -, rfl⟩ |
      ⟨-, rfl⟩
    · exact h
    · apply h.of_eq
      · show (s.flight.returned t.id).2.reading = _
        unfold Flight.returned
        split <;> rfl
      · show (s.flight.returned t.id).2.nextId = _
        unfold Flight.returned
        split <;> rfl
    · exact h
    · apply h.of_eq
      · show (s.flight.released t.id).reading = _
        unfold Flight.released
        split <;> rfl
      · show (s.flight.released t.id).nextId = _
        unfold Flight.released
        split <;> rfl
  | finish id state =>
    cases hs
    exact h
  | finishStep k =>
    obtain ⟨c, -, hcases⟩ := finishStep_cases hs
    rcases hcases with ⟨-, rfl⟩ | ⟨-, rfl⟩ | ⟨-, rfl⟩
    · exact h.finish c.id c.state
    · exact h
    · exact h.of_eq rfl rfl
  | keep deviceHandle =>
    cases hs
    apply h.of_eq
    · show (s.flight.keepUntilReturned deviceHandle s.keeps.length).2.reading = _
      unfold Flight.keepUntilReturned
      split <;> rfl
    · show (s.flight.keepUntilReturned deviceHandle s.keeps.length).2.nextId = _
      unfold Flight.keepUntilReturned
      split <;> rfl
  | read nowMillis =>
    cases hs
    exact h.expireSilent nowMillis
  | setOnFinished | clearOnFinished =>
    cases hs
    exact h.of_eq rfl rfl

/-! ### The hooks -/

/-- A `Finish` that is about to run the hook gave the outcome of its id, and the hook has
not run for that id. -/
structure HooksOk (s : Service) : Prop where
  nodup : s.hooks.Nodup
  given : ∀ id ∈ s.hooks, id ∈ s.outcomes.map Prod.fst
  pending : ∀ (k : ℕ) (c : FinishCall), s.finishes[k]? = some c → c.phase = .hook →
    c.id ∈ s.outcomes.map Prod.fst ∧ c.id ∉ s.hooks
  unique : ∀ (k l : ℕ) (c d : FinishCall), s.finishes[k]? = some c → s.finishes[l]? = some d →
    c.phase = .hook → d.phase = .hook → c.id = d.id → k = l

namespace HooksOk

variable {s s' : Service}

lemma grow (h : HooksOk s) {more : List (ℤ × FlightState)}
    (houtcomes : s'.outcomes = s.outcomes ++ more) (hhooks : s'.hooks = s.hooks)
    (hfinishes : ∀ (k : ℕ) (c : FinishCall), s'.finishes[k]? = some c → c.phase = .hook →
      s.finishes[k]? = some c) : HooksOk s' := by
  have hsub {id : ℤ} (hid : id ∈ s.outcomes.map Prod.fst) : id ∈ s'.outcomes.map Prod.fst := by
    rw [houtcomes, List.map_append]
    exact List.mem_append_left _ hid
  constructor
  · rw [hhooks]
    exact h.nodup
  · intro id hid
    rw [hhooks] at hid
    exact hsub (h.given id hid)
  · intro k c hk hc
    obtain ⟨hgiven, hnot⟩ := h.pending k c (hfinishes k c hk hc) hc
    rw [hhooks]
    exact ⟨hsub hgiven, hnot⟩
  · intro k l c d hk hl hc hd heq
    exact h.unique k l c d (hfinishes k c hk hc) (hfinishes l d hl hd) hc hd heq

lemma of_eq (h : HooksOk s) (houtcomes : s'.outcomes = s.outcomes) (hhooks : s'.hooks = s.hooks)
    (hfinishes : s'.finishes = s.finishes) : HooksOk s' := by
  apply h.grow (houtcomes.trans (List.append_nil _).symm) hhooks
  intro k c hk _
  rw [← hfinishes]
  exact hk

lemma called (h : HooksOk s) {id : ℤ} {state : FlightState} (houtcomes : s'.outcomes = s.outcomes)
    (hhooks : s'.hooks = s.hooks)
    (hfinishes : s'.finishes = s.finishes ++ [{ id := id, state := state }]) : HooksOk s' := by
  apply h.grow (houtcomes.trans (List.append_nil _).symm) hhooks
  intro k c hk hc
  rw [hfinishes] at hk
  rcases getElem?_snoc_cases hk with hk | ⟨-, rfl⟩
  · exact hk
  · exact absurd hc (by simp)

lemma finish (h : HooksOk s) (hout : OutcomesOk s.flight s.outcomes) {k : ℕ} {c : FinishCall}
    (hk : s.finishes[k]? = some c) {flight : Flight} {r : FinishAt}
    (hr : r = .hook → s.flight.takes c.id c.state = true) :
    HooksOk { s with
      flight
      outcomes := s.outcomes ++ if s.flight.takes c.id c.state then [(c.id, c.state)] else []
      finishes := s.finishes.set k { c with phase := r } } := by
  by_cases hhook : r = .hook
  · have htakes := hr hhook
    have hfresh := hout.fresh htakes
    rw [if_pos htakes]
    have hother (l : ℕ) (d : FinishCall) (hl : s.finishes[l]? = some d) (hd : d.phase = .hook) :
        d.id ≠ c.id := by
      intro heq
      have hgiven := (h.pending l d hl hd).1
      rw [heq] at hgiven
      exact hfresh hgiven
    constructor
    · exact h.nodup
    · intro id hid
      rw [List.map_append]
      exact List.mem_append_left _ (h.given id hid)
    · intro l d hl hd
      rw [List.map_append]
      rcases getElem?_set_cases hl with ⟨rfl, rfl⟩ | ⟨-, hl⟩
      · refine ⟨List.mem_concat_self, fun hmem => ?_⟩
        exact hfresh (h.given _ hmem)
      · obtain ⟨hgiven, hnot⟩ := h.pending l d hl hd
        exact ⟨List.mem_append_left _ hgiven, hnot⟩
    · intro l m d e hl hm hd he heq
      rcases getElem?_set_cases hl with ⟨hlk, hdc⟩ | ⟨-, hl'⟩
      · rcases getElem?_set_cases hm with ⟨hmk, -⟩ | ⟨-, hm'⟩
        · rw [hlk, hmk]
        · rw [hdc] at heq
          exact absurd heq.symm (hother m e hm' he)
      · rcases getElem?_set_cases hm with ⟨-, hec⟩ | ⟨-, hm'⟩
        · rw [hec] at heq
          exact absurd heq (hother l d hl' hd)
        · exact h.unique l m d e hl' hm' hd he heq
  · refine h.grow rfl rfl ?_
    intro l d hl hd
    rcases getElem?_set_cases hl with ⟨rfl, rfl⟩ | ⟨-, hl⟩
    · exact absurd hd hhook
    · exact hl

lemma hook (h : HooksOk s) {k : ℕ} {c : FinishCall} (hk : s.finishes[k]? = some c)
    (hc : c.phase = .hook) :
    HooksOk { s with
      hooks := s.hooks ++ [c.id]
      finishes := s.finishes.set k { c with phase := .leaving } } := by
  obtain ⟨hgiven, hnot⟩ := h.pending k c hk hc
  constructor
  · rw [← List.concat_eq_append]
    exact h.nodup.concat hnot
  · intro id hid
    rcases List.mem_append.1 hid with hid | hid
    · exact h.given id hid
    · rw [List.mem_singleton.1 hid]
      exact hgiven
  · intro l d hl hd
    rcases getElem?_set_cases hl with ⟨-, rfl⟩ | ⟨hkl, hl⟩
    · exact absurd hd (by simp)
    · obtain ⟨hgiven', hnot'⟩ := h.pending l d hl hd
      refine ⟨hgiven', fun hmem => ?_⟩
      rcases List.mem_append.1 hmem with hmem | hmem
      · exact hnot' hmem
      · exact hkl (h.unique k l c d hk hl hc hd (List.mem_singleton.1 hmem).symm)
  · intro l m d e hl hm hd he heq
    rcases getElem?_set_cases hl with ⟨-, rfl⟩ | ⟨-, hl⟩
    · exact absurd hd (by simp)
    · rcases getElem?_set_cases hm with ⟨-, rfl⟩ | ⟨-, hm⟩
      · exact absurd he (by simp)
      · exact h.unique l m d e hl hm hd he heq

lemma finishStep (h : HooksOk s) (hout : OutcomesOk s.flight s.outcomes) {k : ℕ}
    (hs : step s (.finishStep k) = some s') : HooksOk s' := by
  obtain ⟨c, hk, hcases⟩ := finishStep_cases hs
  rcases hcases with ⟨-, rfl⟩ | ⟨hc, rfl⟩ | ⟨-, rfl⟩
  · apply h.finish hout hk
    intro hhook
    by_contra htakes
    rw [Flight.finish, if_neg htakes] at hhook
    exact absurd hhook (by simp)
  · exact h.hook hk hc
  · refine h.grow (List.append_nil _).symm rfl ?_
    intro l d hl hd
    rcases getElem?_set_cases hl with ⟨-, rfl⟩ | ⟨-, hl⟩
    · exact absurd hd (by simp)
    · exact hl

theorem step (h : HooksOk s) (hout : OutcomesOk s.flight s.outcomes) {a : Pick}
    (hs : LogUpload.step s a = some s') : HooksOk s' := by
  cases a with
  | request carrier nowMillis =>
    obtain ⟨-, rfl⟩ := guard_eq_some.1 hs
    exact h.grow rfl rfl fun k c hk _ => hk
  | leave =>
    obtain ⟨id, -, rfl⟩ := leave_cases hs
    exact h.of_eq rfl rfl rfl
  | run deviceHandle =>
    obtain ⟨id, -, rfl⟩ := run_cases hs
    exact h.of_eq rfl rfl rfl
  | spawn ok =>
    obtain ⟨id, deviceHandle, -, rfl⟩ := spawn_cases hs
    exact h.of_eq rfl rfl rfl
  | thread i throws =>
    obtain ⟨t, -, hcases⟩ := thread_cases hs
    rcases hcases with ⟨r, finishes, -, -, hfinishes, rfl⟩ | ⟨-, rfl⟩ |
      ⟨device, devices, -, rfl⟩ | ⟨-, rfl⟩
    · rcases hfinishes with hf | hf
      · exact h.of_eq rfl rfl hf
      · exact h.called rfl rfl hf
    · exact h.of_eq rfl rfl rfl
    · exact h.of_eq rfl rfl rfl
    · exact h.of_eq rfl rfl rfl
  | finish id state =>
    cases hs
    exact h.called rfl rfl rfl
  | finishStep k => exact h.finishStep hout hs
  | keep deviceHandle | setOnFinished | clearOnFinished =>
    cases hs
    exact h.of_eq rfl rfl rfl
  | read nowMillis =>
    cases hs
    exact h.grow rfl rfl fun k c hk _ => hk

end HooksOk

/-! ### The whole -/

structure ServiceOk (s : Service) : Prop where
  threads : ThreadsOk s
  devices : DevicesOk s
  outcomes : OutcomesOk s.flight s.outcomes
  hooks : HooksOk s

lemma ServiceOk.of_run {es : List (Transition Service Pick)} {s : Service}
    (h : Service.Runs es s) : ServiceOk s := by
  refine Run.invariant (P := fun _ s => ServiceOk s) ?_ ?_ h
  · rintro s ⟨firstId, hpos, rfl⟩
    refine ⟨?_, ?_, ?_, ?_⟩
    · constructor <;> simp [SessionOk]
    · constructor <;> simp
    · refine ⟨List.nodup_nil, ?_, ?_, ?_, hpos, le_refl _⟩ <;> simp [isFinished]
    · constructor <;> simp
  · intro es s a s' h hs
    have hpos : 0 < s.flight.nextId := h.outcomes.nonneg.trans_lt h.outcomes.next
    exact ⟨h.threads.step hpos hs, h.devices.step h.threads hs, h.outcomes.step hs,
      h.hooks.step h.outcomes hs⟩

/-- What a run never takes back: a call of `KeepUntilReturned` has its answer, and a thread
its upload. -/
structure Later (s s' : Service) : Prop where
  keeps : s.keeps <+: s'.keeps
  threads : ∀ (i : ℕ) (t : UploadThread), s.threads[i]? = some t →
    ∃ t', s'.threads[i]? = some t' ∧ t'.id = t.id

namespace Later

variable {s s' : Service}

lemma refl (s : Service) : Later s s := ⟨List.prefix_refl _, fun _ t ht => ⟨t, ht, rfl⟩⟩

lemma trans {s₁ s₂ s₃ : Service} (h : Later s₁ s₂) (h' : Later s₂ s₃) : Later s₁ s₃ := by
  constructor
  · exact h.keeps.trans h'.keeps
  · intro i t ht
    obtain ⟨t', ht', hid⟩ := h.threads i t ht
    obtain ⟨t'', ht'', hid'⟩ := h'.threads i t' ht'
    exact ⟨t'', ht'', hid'.trans hid⟩

lemma of_eq (hkeeps : s'.keeps = s.keeps) (hthreads : s'.threads = s.threads) : Later s s' := by
  constructor
  · rw [hkeeps]
  · intro i t ht
    rw [hthreads]
    exact ⟨t, ht, rfl⟩

lemma of_thread {i : ℕ} {t : UploadThread} {r : ThreadAt} (hi : s.threads[i]? = some t)
    (hkeeps : s'.keeps = s.keeps) (hthreads : s'.threads = s.threads.set i { t with phase := r }) :
    Later s s' := by
  constructor
  · rw [hkeeps]
  · intro j u hu
    rw [hthreads]
    by_cases hij : i = j
    · subst hij
      cases hi.symm.trans hu
      exact ⟨_, List.getElem?_set_self (List.getElem?_eq_some_iff.1 hi).1, rfl⟩
    · rw [List.getElem?_set_ne hij]
      exact ⟨u, hu, rfl⟩

lemma step {a : Pick} (hs : LogUpload.step s a = some s') : Later s s' := by
  cases a with
  | request carrier nowMillis =>
    obtain ⟨-, rfl⟩ := guard_eq_some.1 hs
    exact of_eq rfl rfl
  | leave =>
    obtain ⟨id, -, rfl⟩ := leave_cases hs
    exact of_eq rfl rfl
  | run deviceHandle =>
    obtain ⟨id, -, rfl⟩ := run_cases hs
    exact of_eq rfl rfl
  | spawn ok =>
    obtain ⟨id, deviceHandle, -, rfl⟩ := spawn_cases hs
    cases ok with
    | false => exact of_eq rfl rfl
    | true =>
      refine ⟨List.prefix_refl _, fun i t ht => ⟨t, ?_, rfl⟩⟩
      show (s.threads ++ [_])[i]? = some t
      rw [List.getElem?_append_left (List.getElem?_eq_some_iff.1 ht).1]
      exact ht
  | thread i throws =>
    obtain ⟨t, hi, hcases⟩ := thread_cases hs
    rcases hcases with ⟨r, finishes, -, -, -, rfl⟩ | ⟨-, rfl⟩ | ⟨device, devices, -, rfl⟩ |
      ⟨-, rfl⟩
    · exact of_thread hi rfl rfl
    · exact of_thread hi rfl rfl
    · exact of_thread hi rfl rfl
    · exact of_thread hi rfl rfl
  | finish id state | read nowMillis | setOnFinished | clearOnFinished =>
    cases hs
    exact of_eq rfl rfl
  | finishStep k =>
    obtain ⟨c, -, hcases⟩ := finishStep_cases hs
    rcases hcases with ⟨-, rfl⟩ | ⟨-, rfl⟩ | ⟨-, rfl⟩
    · exact of_eq rfl rfl
    · exact of_eq rfl rfl
    · exact of_eq rfl rfl
  | keep deviceHandle =>
    cases hs
    exact ⟨List.prefix_append _ _, fun i t ht => ⟨t, ht, rfl⟩⟩

end Later

/-! ### One upload at a time -/

lemma ThreadsOk.keeps {s s' : Service} (h : ThreadsOk s) {deviceHandle : ℕ} (hne : deviceHandle ≠ 0)
    {i : ℕ} {t : UploadThread} (hi : s.threads[i]? = some t) (hcall : t.phase = .calling)
    (hhandle : t.deviceHandle = deviceHandle)
    (hs : LogUpload.step s (.keep deviceHandle) = some s') :
    (s.flight.keepUntilReturned deviceHandle s.keeps.length).1 = none ∧
      s'.keeps[s.keeps.length]? = some (some t.id) := by
  obtain ⟨hcalling, hid, hdevice⟩ := h.away i t hi (by rw [hcall]; rfl)
  have hkeeps : s.flight.keeps deviceHandle = true := by
    simp [Flight.keeps, hcalling, hdevice, hhandle, hne]
  have hkept : (s.flight.keepUntilReturned deviceHandle s.keeps.length).1 = none := by
    rw [Flight.keepUntilReturned, if_pos hkeeps]
  refine ⟨hkept, ?_⟩
  cases hs
  simp only [hkept, hid, Option.isSome_none, Bool.false_eq_true, if_false]
  exact List.getElem?_concat_length

lemma ServiceOk.device {s : Service} (h : ServiceOk s) {i d : ℕ} {t : UploadThread}
    (hi : s.threads[i]? = some t) (hk : s.keeps[d]? = some (some t.id)) :
    (d ∈ s.released → t.phase.away = false) ∧ s.released.count d ≤ 1 ∧
      (t.phase = .done → s.released.count d = 1) := by
  refine ⟨?_, List.nodup_iff_count_le_one.1 h.devices.releasedNodup d, ?_⟩
  · intro hd
    obtain ⟨j, u, hu, hua, hku⟩ := h.devices.released d hd
    have heq := Option.some.inj (Option.some.inj (hk.symm.trans hku))
    obtain rfl := h.threads.ids i j t u hi hu heq
    cases hi.symm.trans hu
    exact hua
  · intro hdone
    rcases h.devices.placed d t.id hk with hd | ⟨j, u, hu, hui, hd⟩ | hd
    · -- the record keeps devices for a call that has not returned
      obtain ⟨hkd, hcalling⟩ := h.devices.kept d hd
      have heq := Option.some.inj (Option.some.inj (hk.symm.trans hkd))
      have haway := h.threads.owner hcalling i t hi heq
      rw [hdone] at haway
      exact Bool.noConfusion haway
    · obtain rfl := h.threads.ids j i u t hu hi hui
      cases hi.symm.trans hu
      rw [hdone] at hd
      exact absurd hd List.not_mem_nil
    · exact List.count_eq_one_of_mem h.devices.releasedNodup hd

/-- One upload at a time, and its device outlives its call. -/
theorem one_upload_at_a_time (es : List (Transition Service Pick)) (s : Service)
    (h : Service.Runs es s) : OneAtATime es s := by
  have hok := ServiceOk.of_run h
  constructor
  · intro i j t u hi hj ht hu
    have hti := (hok.threads.away i t hi (by rw [ht]; rfl)).2.1
    have huj := (hok.threads.away j u hj (by rw [hu]; rfl)).2.1
    exact hok.threads.ids i j t u hi hj (hti.symm.trans huj)
  · intro es₁ e es₂ carrier nowMillis hes _ hadmitted
    obtain ⟨hpre, -⟩ := h.split hes
    have hokpre := ServiceOk.of_run hpre
    rcases begin_cases e.pre.flight carrier nowMillis with hb | ⟨hcalling, hreleasing, hrun, -⟩
    · rw [hb] at hadmitted
      exact absurd rfl hadmitted
    · refine ⟨?_, hrun⟩
      intro t ht
      obtain ⟨i, hi⟩ := List.mem_iff_getElem?.1 ht
      exact hokpre.threads.done hcalling hreleasing hi
  · intro es₁ e es₂ deviceHandle hes hlabel hne i t hi hcall hhandle
    obtain ⟨hpre, hstep⟩ := h.split hes
    have hokpre := ServiceOk.of_run hpre
    rw [hlabel] at hstep
    obtain ⟨hnone, hkept⟩ := hokpre.threads.keeps hne hi hcall hhandle hstep
    have hlater : Later e.post s :=
      h.related Later.refl (fun _ _ _ h₁ h₂ => h₁.trans h₂) (fun _ _ _ _ _ hs => Later.step hs) hes
    obtain ⟨t', ht', hid⟩ := ((Later.step hstep).trans hlater).threads i t hi
    obtain ⟨more, hmore⟩ := hlater.keeps
    have hk : s.keeps[e.pre.keeps.length]? = some (some t'.id) := by
      rw [← hmore, List.getElem?_append_left (List.getElem?_eq_some_iff.1 hkept).1, hid]
      exact hkept
    exact ⟨hnone, t', ht', hok.device ht' hk⟩
  · intro id
    exact List.nodup_iff_count_le_one.1 hok.outcomes.nodup id
  · exact hok.outcomes.recorded
  · intro id
    exact List.nodup_iff_count_le_one.1 hok.hooks.nodup id

/-- The upload's outcome comes while its call runs, its device is handed over, and the call
throws; then the next one is admitted. -/
def throwingLabels : List Pick :=
  [.setOnFinished, .request .tunnel 0, .run 7, .spawn true, .finish 1 .uploaded, .finishStep 0,
    .keep 7, .request .provider 1, .finishStep 0, .finishStep 0, .thread 0 true, .finishStep 1,
    .thread 0 false, .thread 0 false, .thread 0 false, .thread 0 false, .request .provider 2]

theorem one_upload_at_a_time_throwing : ∃ es s, Service.Runs es s ∧
    (s.outcomes = [(1, .uploaded)] ∧ s.hooks = [1] ∧ s.released = [0] ∧ s.session = .begun 2) ∧
    OneAtATime es s := by
  have hrun : ∃ es s, Service.Runs es s ∧ decide (s.outcomes = [(1, .uploaded)] ∧
      s.hooks = [1] ∧ s.released = [0] ∧ s.session = .begun 2) = true :=
    Run.exists_of_execute step (fun _ _ => true) (fun _ _ _ _ _ hs => hs)
      ⟨1, by decide, rfl⟩ throwingLabels _ (by decide +kernel)
  obtain ⟨es, s, h, hgood⟩ := hrun
  exact ⟨es, s, h, of_decide_eq_true hgood, one_upload_at_a_time es s h⟩

end UrnetworkWindows.LogUpload
