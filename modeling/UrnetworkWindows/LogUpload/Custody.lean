/-
Who holds what while an upload runs (`LogUpload.h`, `Flight`).

The record's four fields about the call say which thread is out on it, and in what part of
it: `ThreadsOk`.  A request that was admitted found no thread still at work, and holds the
session lock until the fields are written, so there is never a second one.  A device that
is kept is in the record while its thread is in the call, then with the thread, then
released, and never in two of these: `DevicesOk`.
-/
import UrnetworkWindows.LogUpload.Flight

namespace UrnetworkWindows.LogUpload

open Lib

/-! ### The threads -/

/-- The thread is in the sdk's call, or on its way from it to `Returned`. -/
def ThreadAt.away : ThreadAt → Bool
  | .calling => true
  | .catching _ => true
  | .returning => true
  | _ => false

/-- The thread is between `Returned` and `Released`. -/
def ThreadAt.releases : ThreadAt → Bool
  | .releasing _ => true
  | _ => false

/-- The devices a thread still has to release. -/
def ThreadAt.devices : ThreadAt → List ℕ
  | .releasing devices => devices
  | _ => []

/-- The fields about the call. -/
def Flight.call (f : Flight) : Bool × Bool × ℤ × ℕ :=
  (f.calling, f.releasing, f.callingId, f.callingDeviceHandle)

/-- A request that was admitted holds the lock while no thread is at work. -/
def SessionOk (s : Service) : Prop :=
  match s.session with
  | .free => True
  | .begun id => s.flight.calling = false ∧ s.flight.releasing = false ∧ id < s.flight.nextId ∧
      ∀ (i : ℕ) (t : UploadThread), s.threads[i]? = some t → t.id < id
  | .entered id deviceHandle => s.flight.calling = true ∧ s.flight.callingId = id ∧
      s.flight.callingDeviceHandle = deviceHandle ∧ id < s.flight.nextId ∧
      ∀ (i : ℕ) (t : UploadThread), s.threads[i]? = some t → t.id < id

structure ThreadsOk (s : Service) : Prop where
  away : ∀ (i : ℕ) (t : UploadThread), s.threads[i]? = some t → t.phase.away = true →
    s.flight.calling = true ∧ s.flight.callingId = t.id ∧
      s.flight.callingDeviceHandle = t.deviceHandle
  releases : ∀ (i : ℕ) (t : UploadThread), s.threads[i]? = some t → t.phase.releases = true →
    s.flight.releasing = true ∧ s.flight.callingId = t.id
  owner : s.flight.calling = true → ∀ (i : ℕ) (t : UploadThread), s.threads[i]? = some t →
    t.id = s.flight.callingId → t.phase.away = true
  exclusive : s.flight.calling = true → s.flight.releasing = false
  ids : ∀ (i j : ℕ) (t u : UploadThread), s.threads[i]? = some t → s.threads[j]? = some u →
    t.id = u.id → i = j
  bounded : ∀ (i : ℕ) (t : UploadThread), s.threads[i]? = some t → t.id < s.flight.nextId
  session : SessionOk s

namespace ThreadsOk

variable {s s' : Service}

lemma of_threads (h : ThreadsOk s) (hcall : s'.flight.call = s.flight.call)
    (hnext : s'.flight.nextId = s.flight.nextId) (hsession : s'.session = s.session)
    (hthreads : ∀ (j : ℕ) (u' : UploadThread), s'.threads[j]? = some u' →
      ∃ u, s.threads[j]? = some u ∧ u.id = u'.id ∧ u.deviceHandle = u'.deviceHandle ∧
        u.phase.away = u'.phase.away ∧ u.phase.releases = u'.phase.releases) :
    ThreadsOk s' := by
  obtain ⟨hcalling, hcall⟩ := Prod.mk.inj hcall
  obtain ⟨hreleasing, hcall⟩ := Prod.mk.inj hcall
  obtain ⟨hid, hhandle⟩ := Prod.mk.inj hcall
  have hlt {id : ℤ} (hs : ∀ (i : ℕ) (t : UploadThread), s.threads[i]? = some t → t.id < id)
      (i : ℕ) (t' : UploadThread) (ht' : s'.threads[i]? = some t') : t'.id < id := by
    obtain ⟨t, ht, hti, -⟩ := hthreads i t' ht'
    rw [← hti]
    exact hs i t ht
  constructor
  · intro j u' hu' ha
    obtain ⟨u, hu, hui, huh, hua, -⟩ := hthreads j u' hu'
    rw [hcalling, hid, hhandle, ← hui, ← huh]
    exact h.away j u hu (hua.trans ha)
  · intro j u' hu' hr
    obtain ⟨u, hu, hui, -, -, hur⟩ := hthreads j u' hu'
    rw [hreleasing, hid, ← hui]
    exact h.releases j u hu (hur.trans hr)
  · intro hc j u' hu' hi
    obtain ⟨u, hu, hui, -, hua, -⟩ := hthreads j u' hu'
    rw [← hua]
    exact h.owner (hcalling.symm.trans hc) j u hu (hui.trans (hi.trans hid))
  · rw [hcalling, hreleasing]
    exact h.exclusive
  · intro j k u' v' hu' hv' heq
    obtain ⟨u, hu, hui, -⟩ := hthreads j u' hu'
    obtain ⟨v, hv, hvi, -⟩ := hthreads k v' hv'
    exact h.ids j k u v hu hv (hui.trans (heq.trans hvi.symm))
  · rw [hnext]
    exact hlt h.bounded
  · have hs := h.session
    unfold SessionOk at hs ⊢
    rw [hsession]
    cases hsess : s.session with
    | free => trivial
    | begun id =>
      rw [hsess] at hs
      obtain ⟨hc, hr, hi, ht⟩ := hs
      exact ⟨hcalling.trans hc, hreleasing.trans hr, hnext ▸ hi, hlt ht⟩
    | entered id deviceHandle =>
      rw [hsess] at hs
      obtain ⟨hc, hci, hch, hi, ht⟩ := hs
      exact ⟨hcalling.trans hc, hid.trans hci, hhandle.trans hch, hnext ▸ hi, hlt ht⟩

lemma of_eq (h : ThreadsOk s) (hcall : s'.flight.call = s.flight.call)
    (hnext : s'.flight.nextId = s.flight.nextId) (hsession : s'.session = s.session)
    (hthreads : s'.threads = s.threads) : ThreadsOk s' := by
  apply h.of_threads hcall hnext hsession
  intro j u hu
  rw [hthreads] at hu
  exact ⟨u, hu, rfl, rfl, rfl, rfl⟩

lemma of_thread (h : ThreadsOk s) {i : ℕ} {t : UploadThread} {r : ThreadAt}
    (hi : s.threads[i]? = some t) (haway : t.phase.away = r.away)
    (hreleases : t.phase.releases = r.releases) (hflight : s'.flight = s.flight)
    (hsession : s'.session = s.session)
    (hthreads : s'.threads = s.threads.set i { t with phase := r }) : ThreadsOk s' := by
  apply h.of_threads (by rw [hflight]) (by rw [hflight]) hsession
  intro j u' hu'
  rw [hthreads] at hu'
  rcases getElem?_set_cases hu' with ⟨rfl, rfl⟩ | ⟨-, hj⟩
  · exact ⟨t, hi, rfl, rfl, haway, hreleases⟩
  · exact ⟨u', hj, rfl, rfl, rfl, rfl⟩

lemma done (h : ThreadsOk s) (hcalling : s.flight.calling = false)
    (hreleasing : s.flight.releasing = false) {i : ℕ} {t : UploadThread}
    (hi : s.threads[i]? = some t) : t.phase = .done := by
  have haway : t.phase.away ≠ true := by
    intro ha
    rw [(h.away i t hi ha).1] at hcalling
    exact Bool.noConfusion hcalling
  have hreleases : t.phase.releases ≠ true := by
    intro hr
    rw [(h.releases i t hi hr).1] at hreleasing
    exact Bool.noConfusion hreleasing
  cases hp : t.phase with
  | done => rfl
  | calling | catching k | returning => exact absurd (by rw [hp]; rfl) haway
  | releasing devices => exact absurd (by rw [hp]; rfl) hreleases

lemma free_of_away (h : ThreadsOk s) {i : ℕ} {t : UploadThread} (hi : s.threads[i]? = some t)
    (ha : t.phase.away = true) : s.session = .free := by
  obtain ⟨hcalling, hid, -⟩ := h.away i t hi ha
  have hs := h.session
  unfold SessionOk at hs
  cases hsess : s.session with
  | free => rfl
  | begun id =>
    rw [hsess] at hs
    rw [hcalling] at hs
    exact Bool.noConfusion hs.1
  | entered id deviceHandle =>
    rw [hsess] at hs
    obtain ⟨-, hci, -, -, ht⟩ := hs
    have hlt := ht i t hi
    omega

lemma free_of_releases (h : ThreadsOk s) {i : ℕ} {t : UploadThread}
    (hi : s.threads[i]? = some t) (hr : t.phase.releases = true) : s.session = .free := by
  obtain ⟨hreleasing, -⟩ := h.releases i t hi hr
  have hs := h.session
  unfold SessionOk at hs
  cases hsess : s.session with
  | free => rfl
  | begun id =>
    rw [hsess] at hs
    rw [hreleasing] at hs
    exact Bool.noConfusion hs.2.1
  | entered id deviceHandle =>
    rw [hsess] at hs
    have hexclusive := h.exclusive hs.1
    rw [hreleasing] at hexclusive
    exact Bool.noConfusion hexclusive

lemma set_id {i j : ℕ} {t u : UploadThread} {r : ThreadAt} (hi : s.threads[i]? = some t)
    (hu : (s.threads.set i { t with phase := r })[j]? = some u) :
    ∃ u₀, s.threads[j]? = some u₀ ∧ u₀.id = u.id := by
  rcases getElem?_set_cases hu with ⟨rfl, rfl⟩ | ⟨-, hj⟩
  · exact ⟨t, hi, rfl⟩
  · exact ⟨u, hj, rfl⟩

lemma set_ids (h : ThreadsOk s) {i : ℕ} {t : UploadThread} {r : ThreadAt}
    (hi : s.threads[i]? = some t) (j k : ℕ) (u v : UploadThread)
    (hu : (s.threads.set i { t with phase := r })[j]? = some u)
    (hv : (s.threads.set i { t with phase := r })[k]? = some v) (heq : u.id = v.id) : j = k := by
  obtain ⟨u₀, hu₀, hui⟩ := set_id hi hu
  obtain ⟨v₀, hv₀, hvi⟩ := set_id hi hv
  exact h.ids j k u₀ v₀ hu₀ hv₀ (hui.trans (heq.trans hvi.symm))

lemma set_bounded (h : ThreadsOk s) {i : ℕ} {t : UploadThread} {r : ThreadAt}
    (hi : s.threads[i]? = some t) (j : ℕ) (u : UploadThread)
    (hu : (s.threads.set i { t with phase := r })[j]? = some u) : u.id < s.flight.nextId := by
  obtain ⟨u₀, hu₀, hui⟩ := set_id hi hu
  rw [← hui]
  exact h.bounded j u₀ hu₀

lemma returned (h : ThreadsOk s) {i : ℕ} {t : UploadThread} (hi : s.threads[i]? = some t)
    (ha : t.phase.away = true) {devices : List ℕ} :
    ThreadsOk { s with
      flight := (s.flight.returned t.id).2
      threads := s.threads.set i { t with phase := .releasing devices } } := by
  have hfree := h.free_of_away hi ha
  obtain ⟨-, hid, -⟩ := h.away i t hi ha
  have hother (j : ℕ) (u : UploadThread) (hij : i ≠ j) (hj : s.threads[j]? = some u) :
      u.id ≠ t.id := fun heq => hij (h.ids i j t u hi hj heq.symm)
  rw [Flight.returned, if_neg (by rw [hid]; simp)]
  constructor
  · intro j u hu hua
    rcases getElem?_set_cases hu with ⟨-, rfl⟩ | ⟨hij, hj⟩
    · exact absurd hua (by simp [ThreadAt.away])
    · exact absurd ((h.away j u hj hua).2.1.symm.trans hid) (hother j u hij hj)
  · intro j u hu hur
    rcases getElem?_set_cases hu with ⟨-, rfl⟩ | ⟨hij, hj⟩
    · exact ⟨rfl, hid⟩
    · exact absurd ((h.releases j u hj hur).2.symm.trans hid) (hother j u hij hj)
  · intro hc
    exact absurd hc (by simp)
  · intro hc
    exact absurd hc (by simp)
  · exact h.set_ids hi
  · exact h.set_bounded hi
  · unfold SessionOk
    rw [hfree]
    trivial

lemma released (h : ThreadsOk s) {i : ℕ} {t : UploadThread} (hi : s.threads[i]? = some t)
    (hr : t.phase.releases = true) :
    ThreadsOk { s with
      flight := s.flight.released t.id
      threads := s.threads.set i { t with phase := .done } } := by
  have hfree := h.free_of_releases hi hr
  obtain ⟨hreleasing, hid⟩ := h.releases i t hi hr
  have hcalling : s.flight.calling ≠ true := by
    intro hc
    rw [h.exclusive hc] at hreleasing
    exact Bool.noConfusion hreleasing
  rw [Flight.released, if_neg (by rw [hid]; simp)]
  constructor
  · intro j u hu hua
    rcases getElem?_set_cases hu with ⟨-, rfl⟩ | ⟨hij, hj⟩
    · exact absurd hua (by simp [ThreadAt.away])
    · exact absurd (h.away j u hj hua).1 hcalling
  · intro j u hu hur
    rcases getElem?_set_cases hu with ⟨-, rfl⟩ | ⟨hij, hj⟩
    · exact absurd hur (by simp [ThreadAt.releases])
    · have heq : t.id = u.id := hid.symm.trans (h.releases j u hj hur).2
      exact absurd (h.ids i j t u hi hj heq) hij
  · exact fun hc => absurd hc hcalling
  · exact fun hc => absurd hc hcalling
  · exact h.set_ids hi
  · exact h.set_bounded hi
  · unfold SessionOk
    rw [hfree]
    trivial

end ThreadsOk

lemma leave_cases {s s' : Service} (hs : step s .leave = some s') :
    ∃ id, s.session = .begun id ∧ s' = { s with session := .free } := by
  simp only [step] at hs
  split at hs
  next id hsess => exact ⟨id, hsess, (Option.some.inj hs).symm⟩
  next => cases hs

lemma run_cases {s s' : Service} {deviceHandle : ℕ} (hs : step s (.run deviceHandle) = some s') :
    ∃ id, s.session = .begun id ∧ s' = { s with
      flight := s.flight.run id deviceHandle
      session := .entered id deviceHandle } := by
  simp only [step] at hs
  split at hs
  next id hsess => exact ⟨id, hsess, (Option.some.inj hs).symm⟩
  next => cases hs

lemma spawn_cases {s s' : Service} {ok : Bool} (hs : step s (.spawn ok) = some s') :
    ∃ id deviceHandle, s.session = .entered id deviceHandle ∧ s' = { s with
      session := .free
      threads := if ok then s.threads ++ [{ id, deviceHandle }] else s.threads } := by
  simp only [step] at hs
  split at hs
  next id deviceHandle hsess => exact ⟨id, deviceHandle, hsess, (Option.some.inj hs).symm⟩
  next => cases hs

lemma finishStep_cases {s s' : Service} {k : ℕ} (hs : step s (.finishStep k) = some s') :
    ∃ c, s.finishes[k]? = some c ∧
      ((c.phase = .locking ∧ s' = { s with
          flight := (s.flight.finish c.id c.state).2
          outcomes := s.outcomes ++ if s.flight.takes c.id c.state then [(c.id, c.state)] else []
          finishes := s.finishes.set k
            { c with phase := if (s.flight.finish c.id c.state).1 then .hook else .done } }) ∨
        (c.phase = .hook ∧ s' = { s with
          hooks := s.hooks ++ [c.id]
          finishes := s.finishes.set k { c with phase := .leaving } }) ∨
        c.phase = .leaving ∧ s' = { s with
          flight := s.flight.finished
          finishes := s.finishes.set k { c with phase := .done } }) := by
  simp only [step] at hs
  split at hs
  next => cases hs
  next c hk =>
    refine ⟨c, hk, ?_⟩
    obtain ⟨r, hr, rfl⟩ := Option.map_eq_some_iff.1 hs
    unfold finishStep at hr
    split at hr
    next hp =>
      cases hr
      exact .inl ⟨hp, rfl⟩
    next hp =>
      cases hr
      exact .inr (.inl ⟨hp, rfl⟩)
    next hp =>
      cases hr
      exact .inr (.inr ⟨hp, rfl⟩)
    next => cases hr

lemma thread_cases {s s' : Service} {i : ℕ} {throws : Bool}
    (hs : step s (.thread i throws) = some s') : ∃ t, s.threads[i]? = some t ∧
      ((∃ r finishes, t.phase.away = true ∧ r.away = true ∧
          (finishes = s.finishes ∨ finishes = s.finishes ++ [{ id := t.id, state := .failed }]) ∧
          s' = { s with finishes, threads := s.threads.set i { t with phase := r } }) ∨
        (t.phase = .returning ∧ s' = { s with
          flight := (s.flight.returned t.id).2
          threads := s.threads.set i
            { t with phase := .releasing (s.flight.returned t.id).1 } }) ∨
        (∃ device devices, t.phase = .releasing (device :: devices) ∧ s' = { s with
          released := s.released ++ [device]
          threads := s.threads.set i { t with phase := .releasing devices } }) ∨
        t.phase = .releasing [] ∧ s' = { s with
          flight := s.flight.released t.id
          threads := s.threads.set i { t with phase := .done } }) := by
  simp only [step] at hs
  split at hs
  next => cases hs
  next t hi =>
    refine ⟨t, hi, ?_⟩
    obtain ⟨r, hr, rfl⟩ := Option.map_eq_some_iff.1 hs
    unfold threadStep at hr
    split at hr
    next hp =>
      left
      split at hr
      next =>
        cases hr
        exact ⟨_, _, by rw [hp]; rfl, rfl, .inr rfl, rfl⟩
      next =>
        cases hr
        exact ⟨_, _, by rw [hp]; rfl, rfl, .inl rfl, rfl⟩
    next k hp =>
      left
      obtain ⟨-, rfl⟩ := guard_eq_some.1 hr
      exact ⟨_, _, by rw [hp]; rfl, rfl, .inl rfl, rfl⟩
    next hp =>
      cases hr
      exact .inr (.inl ⟨hp, rfl⟩)
    next device devices hp =>
      cases hr
      exact .inr (.inr (.inl ⟨device, devices, hp, rfl⟩))
    next hp =>
      cases hr
      exact .inr (.inr (.inr ⟨hp, rfl⟩))
    next => cases hr

lemma expireSilent_call (f : Flight) (nowMillis : ℤ) :
    (f.expireSilent nowMillis).call = f.call := by
  unfold Flight.expireSilent
  split <;> rfl

lemma expireSilent_nextId (f : Flight) (nowMillis : ℤ) :
    (f.expireSilent nowMillis).nextId = f.nextId := by
  unfold Flight.expireSilent
  split <;> rfl

lemma finish_call (f : Flight) (id : ℤ) (state : FlightState) :
    (f.finish id state).2.call = f.call ∧ (f.finish id state).2.nextId = f.nextId ∧
      (f.finish id state).2.keptDevices = f.keptDevices := by
  unfold Flight.finish
  split
  next => exact ⟨rfl, rfl, rfl⟩
  next => exact ⟨rfl, rfl, rfl⟩

lemma expireSilent_keptDevices (f : Flight) (nowMillis : ℤ) :
    (f.expireSilent nowMillis).keptDevices = f.keptDevices := by
  unfold Flight.expireSilent
  split <;> rfl

lemma callingId_of_call {f f' : Flight} (h : f'.call = f.call) :
    f'.callingId = f.callingId ∧ f'.calling = f.calling := by
  obtain ⟨hcalling, h⟩ := Prod.mk.inj h
  obtain ⟨-, h⟩ := Prod.mk.inj h
  exact ⟨(Prod.mk.inj h).1, hcalling⟩

lemma begin_cases (f : Flight) (carrier : Carrier) (nowMillis : ℤ) :
    f.begin carrier nowMillis = (0, f.expireSilent nowMillis) ∨
    f.calling = false ∧ f.releasing = false ∧ (f.expireSilent nowMillis).reading.state ≠ .running ∧
      f.begin carrier nowMillis = (f.nextId, { f.expireSilent nowMillis with
        nextId := f.nextId + 1
        reading := { id := f.nextId, state := .running, carrier }
        sinceMillis := nowMillis }) := by
  obtain ⟨hcalling, hcall⟩ := Prod.mk.inj (expireSilent_call f nowMillis)
  obtain ⟨hreleasing, -⟩ := Prod.mk.inj hcall
  simp only [Flight.begin]
  split
  next => exact .inl rfl
  next hbusy =>
    simp only [Flight.busy, hcalling, hreleasing, Bool.or_eq_true, decide_eq_true_eq, not_or,
      Bool.not_eq_true] at hbusy
    obtain ⟨⟨hc, hr⟩, hrun⟩ := hbusy
    refine .inr ⟨hc, hr, hrun, ?_⟩
    rw [expireSilent_nextId]

namespace ThreadsOk

variable {s s' : Service}

lemma request (h : ThreadsOk s) (hpos : 0 < s.flight.nextId) {carrier : Carrier} {nowMillis : ℤ}
    (hs : step s (.request carrier nowMillis) = some s') : ThreadsOk s' := by
  obtain ⟨hfree, rfl⟩ := guard_eq_some.1 hs
  rcases begin_cases s.flight carrier nowMillis with hb | ⟨hcalling, hreleasing, -, hb⟩
  · exact h.of_eq (by rw [hb]; exact expireSilent_call _ _)
      (by rw [hb]; exact expireSilent_nextId _ _) (by rw [hb, hfree]; rfl) rfl
  · obtain ⟨hcalling', hcall⟩ := Prod.mk.inj (expireSilent_call s.flight nowMillis)
    obtain ⟨hreleasing', -⟩ := Prod.mk.inj hcall
    have hdone (i : ℕ) (t : UploadThread) (hi : s.threads[i]? = some t) : t.phase = .done :=
      h.done hcalling hreleasing hi
    rw [hb]
    constructor
    · intro i t hi ha
      rw [hdone i t hi] at ha
      exact Bool.noConfusion ha
    · intro i t hi hr
      rw [hdone i t hi] at hr
      exact Bool.noConfusion hr
    · intro hc
      exact absurd (hcalling'.symm.trans hc) (by rw [hcalling]; simp)
    · intro hc
      exact absurd (hcalling'.symm.trans hc) (by rw [hcalling]; simp)
    · exact h.ids
    · intro i t hi
      exact (h.bounded i t hi).trans (lt_add_one _)
    · have hne : s.flight.nextId ≠ 0 := by omega
      show SessionOk _
      simp only [SessionOk, if_neg hne]
      exact ⟨hcalling'.trans hcalling, hreleasing'.trans hreleasing, lt_add_one _, h.bounded⟩

lemma leave (h : ThreadsOk s) (hs : step s .leave = some s') : ThreadsOk s' := by
  obtain ⟨id, hsess, rfl⟩ := leave_cases hs
  exact ⟨h.away, h.releases, h.owner, h.exclusive, h.ids, h.bounded, trivial⟩

lemma run (h : ThreadsOk s) {deviceHandle : ℕ} (hs : step s (.run deviceHandle) = some s') :
    ThreadsOk s' := by
  obtain ⟨id, hsess, rfl⟩ := run_cases hs
  have hsession := h.session
  simp only [SessionOk, hsess] at hsession
  obtain ⟨hcalling, hreleasing, hlt, hids⟩ := hsession
  have hdone (i : ℕ) (t : UploadThread) (hi : s.threads[i]? = some t) : t.phase = .done :=
    h.done hcalling hreleasing hi
  constructor
  · intro i t hi ha
    rw [hdone i t hi] at ha
    exact Bool.noConfusion ha
  · intro i t hi hr
    rw [hdone i t hi] at hr
    exact Bool.noConfusion hr
  · intro _ i t hi heq
    have hti : t.id < id := hids i t hi
    have heq : t.id = id := heq
    omega
  · exact fun _ => hreleasing
  · exact h.ids
  · exact h.bounded
  · exact ⟨rfl, rfl, rfl, hlt, hids⟩

lemma spawn (h : ThreadsOk s) {ok : Bool} (hs : step s (.spawn ok) = some s') : ThreadsOk s' := by
  obtain ⟨id, deviceHandle, hsess, rfl⟩ := spawn_cases hs
  have hsession := h.session
  simp only [SessionOk, hsess] at hsession
  obtain ⟨hcalling, hcid, hhandle, hlt, hids⟩ := hsession
  cases ok with
  | false => exact ⟨h.away, h.releases, h.owner, h.exclusive, h.ids, h.bounded, trivial⟩
  | true =>
    constructor
    · intro i t hi ha
      rcases getElem?_snoc_cases hi with hi | ⟨-, rfl⟩
      · exact h.away i t hi ha
      · exact ⟨hcalling, hcid, hhandle⟩
    · intro i t hi hr
      rcases getElem?_snoc_cases hi with hi | ⟨-, rfl⟩
      · exact h.releases i t hi hr
      · exact absurd hr (by simp [ThreadAt.releases])
    · intro hc i t hi heq
      rcases getElem?_snoc_cases hi with hi | ⟨-, rfl⟩
      · exact h.owner hc i t hi heq
      · rfl
    · exact h.exclusive
    · intro i j t u hi hj heq
      rcases getElem?_snoc_cases hi with hi | ⟨rfl, rfl⟩
      · rcases getElem?_snoc_cases hj with hj | ⟨rfl, rfl⟩
        · exact h.ids i j t u hi hj heq
        · exact absurd heq (hids i t hi).ne
      · rcases getElem?_snoc_cases hj with hj | ⟨rfl, rfl⟩
        · exact absurd heq.symm (hids j u hj).ne
        · rfl
    · intro i t hi
      rcases getElem?_snoc_cases hi with hi | ⟨-, rfl⟩
      · exact h.bounded i t hi
      · exact hlt
    · trivial

lemma thread (h : ThreadsOk s) {i : ℕ} {throws : Bool}
    (hs : step s (.thread i throws) = some s') : ThreadsOk s' := by
  obtain ⟨t, hi, hcases⟩ := thread_cases hs
  rcases hcases with ⟨r, finishes, ha, hra, -, rfl⟩ | ⟨hp, rfl⟩ | ⟨device, devices, hp, rfl⟩ |
    ⟨hp, rfl⟩
  · have hnot {p : ThreadAt} (hp : p.away = true) : p.releases = false := by
      cases p <;> first | rfl | exact absurd hp (by simp [ThreadAt.away])
    exact h.of_thread hi (ha.trans hra.symm) ((hnot ha).trans (hnot hra).symm) rfl rfl rfl
  · exact h.returned hi (by rw [hp]; rfl)
  · exact h.of_thread hi (by rw [hp]; rfl) (by rw [hp]; rfl) rfl rfl rfl
  · exact h.released hi (by rw [hp]; rfl)

lemma finishStep (h : ThreadsOk s) {k : ℕ} (hs : step s (.finishStep k) = some s') :
    ThreadsOk s' := by
  obtain ⟨c, -, hcases⟩ := finishStep_cases hs
  rcases hcases with ⟨-, rfl⟩ | ⟨-, rfl⟩ | ⟨-, rfl⟩
  · obtain ⟨hcall, hnext, -⟩ := finish_call s.flight c.id c.state
    exact h.of_eq hcall hnext rfl rfl
  · exact h.of_eq rfl rfl rfl rfl
  · exact h.of_eq rfl rfl rfl rfl

lemma keep (h : ThreadsOk s) {deviceHandle : ℕ} (hs : step s (.keep deviceHandle) = some s') :
    ThreadsOk s' := by
  cases hs
  have hkeep (device : ℕ) : (s.flight.keepUntilReturned deviceHandle device).2.call =
      s.flight.call ∧
        (s.flight.keepUntilReturned deviceHandle device).2.nextId = s.flight.nextId := by
    unfold Flight.keepUntilReturned
    split
    next => exact ⟨rfl, rfl⟩
    next => exact ⟨rfl, rfl⟩
  exact h.of_eq (hkeep _).1 (hkeep _).2 rfl rfl

theorem step (h : ThreadsOk s) (hpos : 0 < s.flight.nextId) {a : Pick}
    (hs : LogUpload.step s a = some s') : ThreadsOk s' := by
  cases a with
  | request carrier nowMillis => exact h.request hpos hs
  | leave => exact h.leave hs
  | run deviceHandle => exact h.run hs
  | spawn ok => exact h.spawn hs
  | thread i throws => exact h.thread hs
  | finish id state | setOnFinished | clearOnFinished =>
    cases hs
    exact h.of_eq rfl rfl rfl rfl
  | finishStep k => exact h.finishStep hs
  | keep deviceHandle => exact h.keep hs
  | read nowMillis =>
    cases hs
    exact h.of_eq (expireSilent_call _ _) (expireSilent_nextId _ _) rfl rfl

end ThreadsOk

/-! ### The devices -/

/-- A device is kept in the record while the call it is kept for runs, is then with that
call's thread, and then released. -/
structure DevicesOk (s : Service) : Prop where
  kept : ∀ d ∈ s.flight.keptDevices,
    s.keeps[d]? = some (some s.flight.callingId) ∧ s.flight.calling = true
  held : ∀ (i : ℕ) (t : UploadThread), s.threads[i]? = some t → ∀ d ∈ t.phase.devices,
    s.keeps[d]? = some (some t.id) ∧ d ∉ s.released
  released : ∀ d ∈ s.released, ∃ (i : ℕ) (t : UploadThread), s.threads[i]? = some t ∧
    t.phase.away = false ∧ s.keeps[d]? = some (some t.id)
  placed : ∀ (d : ℕ) (id : ℤ), s.keeps[d]? = some (some id) → d ∈ s.flight.keptDevices ∨
    (∃ (i : ℕ) (t : UploadThread), s.threads[i]? = some t ∧ t.id = id ∧ d ∈ t.phase.devices) ∨
    d ∈ s.released
  keptNodup : s.flight.keptDevices.Nodup
  heldNodup : ∀ (i : ℕ) (t : UploadThread), s.threads[i]? = some t → t.phase.devices.Nodup
  releasedNodup : s.released.Nodup

namespace DevicesOk

variable {s s' : Service}

lemma of_threads (h : DevicesOk s) (hkept : s'.flight.keptDevices = s.flight.keptDevices)
    (hcall : s.flight.keptDevices ≠ [] →
      s'.flight.callingId = s.flight.callingId ∧ s'.flight.calling = s.flight.calling)
    (hkeeps : s'.keeps = s.keeps) (hreleased : s'.released = s.released)
    (hback : ∀ (j : ℕ) (u' : UploadThread), s'.threads[j]? = some u' → u'.phase.devices = [] ∨
      ∃ u, s.threads[j]? = some u ∧ u.id = u'.id ∧ u.phase.devices = u'.phase.devices)
    (hforth : ∀ (j : ℕ) (u : UploadThread), s.threads[j]? = some u → ∃ u',
      s'.threads[j]? = some u' ∧ u'.id = u.id ∧ u'.phase.away = u.phase.away ∧
        u'.phase.devices = u.phase.devices) : DevicesOk s' := by
  constructor
  · intro d hd
    rw [hkept] at hd
    obtain ⟨hid, hcalling⟩ := hcall (List.ne_nil_of_mem hd)
    rw [hkeeps, hid, hcalling]
    exact h.kept d hd
  · intro j u' hu' d hd
    rw [hkeeps, hreleased]
    rcases hback j u' hu' with hnil | ⟨u, hu, hui, hud⟩
    · rw [hnil] at hd
      exact absurd hd List.not_mem_nil
    · rw [← hui]
      exact h.held j u hu d (hud ▸ hd)
  · intro d hd
    rw [hreleased] at hd
    obtain ⟨j, u, hu, hua, hk⟩ := h.released d hd
    obtain ⟨u', hu', hui, hua', -⟩ := hforth j u hu
    refine ⟨j, u', hu', hua'.trans hua, ?_⟩
    rw [hkeeps, hui]
    exact hk
  · intro d id hk
    rw [hkeeps] at hk
    rw [hkept, hreleased]
    rcases h.placed d id hk with hd | ⟨j, u, hu, hui, hd⟩ | hd
    · exact .inl hd
    · obtain ⟨u', hu', hui', -, hud⟩ := hforth j u hu
      exact .inr (.inl ⟨j, u', hu', hui'.trans hui, hud ▸ hd⟩)
    · exact .inr (.inr hd)
  · rw [hkept]
    exact h.keptNodup
  · intro j u' hu'
    rcases hback j u' hu' with hnil | ⟨u, hu, -, hud⟩
    · rw [hnil]
      exact List.nodup_nil
    · rw [← hud]
      exact h.heldNodup j u hu
  · rw [hreleased]
    exact h.releasedNodup

lemma of_eq (h : DevicesOk s) (hkept : s'.flight.keptDevices = s.flight.keptDevices)
    (hcall : s.flight.keptDevices ≠ [] →
      s'.flight.callingId = s.flight.callingId ∧ s'.flight.calling = s.flight.calling)
    (hkeeps : s'.keeps = s.keeps) (hreleased : s'.released = s.released)
    (hthreads : s'.threads = s.threads) : DevicesOk s' := by
  apply h.of_threads hkept hcall hkeeps hreleased
  · intro j u hu
    rw [hthreads] at hu
    exact .inr ⟨u, hu, rfl, rfl⟩
  · intro j u hu
    rw [← hthreads] at hu
    exact ⟨u, hu, rfl, rfl, rfl⟩

lemma of_thread (h : DevicesOk s) {i : ℕ} {t : UploadThread} {r : ThreadAt}
    (hi : s.threads[i]? = some t) (haway : r.away = t.phase.away)
    (hdevices : r.devices = t.phase.devices)
    (hkept : s'.flight.keptDevices = s.flight.keptDevices)
    (hcall : s'.flight.callingId = s.flight.callingId ∧ s'.flight.calling = s.flight.calling)
    (hkeeps : s'.keeps = s.keeps) (hreleased : s'.released = s.released)
    (hthreads : s'.threads = s.threads.set i { t with phase := r }) : DevicesOk s' := by
  have hlt := (List.getElem?_eq_some_iff.1 hi).1
  apply h.of_threads hkept (fun _ => hcall) hkeeps hreleased
  · intro j u' hu'
    rw [hthreads] at hu'
    rcases getElem?_set_cases hu' with ⟨rfl, rfl⟩ | ⟨-, hj⟩
    · exact .inr ⟨t, hi, rfl, hdevices.symm⟩
    · exact .inr ⟨u', hj, rfl, rfl⟩
  · intro j u hu
    rw [hthreads]
    by_cases hij : i = j
    · subst hij
      cases hi.symm.trans hu
      exact ⟨_, List.getElem?_set_self hlt, rfl, haway, hdevices⟩
    · rw [List.getElem?_set_ne hij]
      exact ⟨u, hu, rfl, rfl, rfl⟩

lemma returned (h : DevicesOk s) (hthreads : ThreadsOk s) {i : ℕ} {t : UploadThread}
    (hi : s.threads[i]? = some t) (ha : t.phase.away = true) :
    DevicesOk { s with
      flight := (s.flight.returned t.id).2
      threads := s.threads.set i { t with phase := .releasing (s.flight.returned t.id).1 } } := by
  have hlt := (List.getElem?_eq_some_iff.1 hi).1
  obtain ⟨-, hid, -⟩ := hthreads.away i t hi ha
  have hnone : t.phase.devices = [] := by
    cases hp : t.phase with
    | releasing devices =>
      rw [hp] at ha
      exact Bool.noConfusion ha
    | _ => rfl
  have hother (j : ℕ) (u : UploadThread) (hj : s.threads[j]? = some u) (hij : i ≠ j) :
      (s.threads.set i { t with phase := .releasing s.flight.keptDevices })[j]? = some u := by
    rw [List.getElem?_set_ne hij]
    exact hj
  have hself : (s.threads.set i { t with phase := .releasing s.flight.keptDevices })[i]? =
      some { t with phase := .releasing s.flight.keptDevices } := List.getElem?_set_self hlt
  rw [Flight.returned, if_neg (by rw [hid]; simp)]
  constructor
  · intro d hd
    exact absurd hd List.not_mem_nil
  · intro j u hu d hd
    rcases getElem?_set_cases hu with ⟨-, rfl⟩ | ⟨-, hj⟩
    · obtain ⟨hk, -⟩ := h.kept d hd
      rw [hid] at hk
      refine ⟨hk, ?_⟩
      -- what is released was kept for a call that has returned
      intro hreleased
      obtain ⟨k, v, hv, hva, hvk⟩ := h.released d hreleased
      have heq := Option.some.inj (Option.some.inj (hk.symm.trans hvk))
      obtain rfl := hthreads.ids i k t v hi hv heq
      cases hi.symm.trans hv
      rw [ha] at hva
      exact Bool.noConfusion hva
    · exact h.held j u hj d hd
  · intro d hd
    obtain ⟨j, u, hu, hua, hk⟩ := h.released d hd
    refine ⟨j, u, hother j u hu ?_, hua, hk⟩
    rintro rfl
    cases hi.symm.trans hu
    rw [ha] at hua
    exact Bool.noConfusion hua
  · intro d id hk
    right
    rcases h.placed d id hk with hd | ⟨j, u, hu, hui, hd⟩ | hd
    · left
      have heq := Option.some.inj (Option.some.inj ((h.kept d hd).1.symm.trans hk))
      exact ⟨i, _, hself, hid.symm.trans heq, hd⟩
    · left
      refine ⟨j, u, hother j u hu ?_, hui, hd⟩
      rintro rfl
      cases hi.symm.trans hu
      rw [hnone] at hd
      exact absurd hd List.not_mem_nil
    · exact .inr hd
  · exact List.nodup_nil
  · intro j u hu
    rcases getElem?_set_cases hu with ⟨-, rfl⟩ | ⟨-, hj⟩
    · exact h.keptNodup
    · exact h.heldNodup j u hj
  · exact h.releasedNodup

lemma release (h : DevicesOk s) (hthreads : ThreadsOk s) {i : ℕ} {t : UploadThread}
    {device : ℕ} {devices : List ℕ} (hi : s.threads[i]? = some t)
    (hp : t.phase = .releasing (device :: devices)) :
    DevicesOk { s with
      released := s.released ++ [device]
      threads := s.threads.set i { t with phase := .releasing devices } } := by
  have hlt := (List.getElem?_eq_some_iff.1 hi).1
  have hdevices : t.phase.devices = device :: devices := by rw [hp]; rfl
  have hfresh := h.held i t hi device (by rw [hdevices]; exact List.mem_cons_self)
  have hnodup := h.heldNodup i t hi
  rw [hdevices, List.nodup_cons] at hnodup
  have hself : (s.threads.set i { t with phase := .releasing devices })[i]? =
      some { t with phase := .releasing devices } := List.getElem?_set_self hlt
  constructor
  · exact h.kept
  · intro j u hu d hd
    rcases getElem?_set_cases hu with ⟨-, rfl⟩ | ⟨hij, hj⟩
    · have hmem : d ∈ t.phase.devices := by
        rw [hdevices]
        exact List.mem_cons_of_mem _ hd
      obtain ⟨hk, hnot⟩ := h.held i t hi d hmem
      refine ⟨hk, fun hr => ?_⟩
      rcases List.mem_append.1 hr with hr | hr
      · exact hnot hr
      · rw [List.mem_singleton.1 hr] at hd
        exact hnodup.1 hd
    · obtain ⟨hk, hnot⟩ := h.held j u hj d hd
      refine ⟨hk, fun hr => ?_⟩
      rcases List.mem_append.1 hr with hr | hr
      · exact hnot hr
      · -- another thread's device was kept for another call
        rw [List.mem_singleton.1 hr] at hk
        have heq := Option.some.inj (Option.some.inj (hfresh.1.symm.trans hk))
        exact hij (hthreads.ids i j t u hi hj heq)
  · intro d hd
    rcases List.mem_append.1 hd with hd | hd
    · obtain ⟨j, u, hu, hua, hk⟩ := h.released d hd
      by_cases hij : i = j
      · subst hij
        cases hi.symm.trans hu
        exact ⟨i, _, hself, rfl, hk⟩
      · exact ⟨j, u, by rw [List.getElem?_set_ne hij]; exact hu, hua, hk⟩
    · rw [List.mem_singleton.1 hd]
      exact ⟨i, _, hself, rfl, hfresh.1⟩
  · intro d id hk
    rcases h.placed d id hk with hd | ⟨j, u, hu, hui, hd⟩ | hd
    · exact .inl hd
    · right
      by_cases hij : i = j
      · subst hij
        cases hi.symm.trans hu
        rw [hdevices] at hd
        rcases List.mem_cons.1 hd with rfl | hd
        · exact .inr List.mem_concat_self
        · exact .inl ⟨i, _, hself, hui, hd⟩
      · exact .inl ⟨j, u, by rw [List.getElem?_set_ne hij]; exact hu, hui, hd⟩
    · exact .inr (.inr (List.mem_append_left _ hd))
  · exact h.keptNodup
  · intro j u hu
    rcases getElem?_set_cases hu with ⟨-, rfl⟩ | ⟨-, hj⟩
    · exact hnodup.2
    · exact h.heldNodup j u hj
  · rw [← List.concat_eq_append]
    exact h.releasedNodup.concat hfresh.2

lemma keep (h : DevicesOk s) {deviceHandle : ℕ} (hs : step s (.keep deviceHandle) = some s') :
    DevicesOk s' := by
  cases hs
  have hold {d : ℕ} {x y : Option ℤ} (hd : s.keeps[d]? = some x) :
      (s.keeps ++ [y])[d]? = some x := by
    rw [List.getElem?_append_left (List.getElem?_eq_some_iff.1 hd).1]
    exact hd
  have hheld {y : Option ℤ} (i : ℕ) (t : UploadThread) (hi : s.threads[i]? = some t) (d : ℕ)
      (hd : d ∈ t.phase.devices) : (s.keeps ++ [y])[d]? = some (some t.id) ∧ d ∉ s.released :=
    ⟨hold (h.held i t hi d hd).1, (h.held i t hi d hd).2⟩
  have hreleased {y : Option ℤ} (d : ℕ) (hd : d ∈ s.released) : ∃ (i : ℕ) (t : UploadThread),
      s.threads[i]? = some t ∧ t.phase.away = false ∧ (s.keeps ++ [y])[d]? = some (some t.id) := by
    obtain ⟨i, t, hi, ha, hk⟩ := h.released d hd
    exact ⟨i, t, hi, ha, hold hk⟩
  unfold Flight.keepUntilReturned
  split
  next hkeeps =>
    have hcalling : s.flight.calling = true := by
      simp only [Flight.keeps, Bool.not_eq_true', Bool.or_eq_false_iff] at hkeeps
      simpa using hkeeps.1.1
    constructor
    · intro d hd
      refine ⟨?_, hcalling⟩
      rcases List.mem_append.1 hd with hd | hd
      · exact hold (h.kept d hd).1
      · rw [List.mem_singleton.1 hd]
        exact List.getElem?_concat_length
    · exact hheld
    · exact hreleased
    · intro d id hk
      rcases getElem?_snoc_cases hk with hk | ⟨rfl, -⟩
      · rcases h.placed d id hk with hd | hd | hd
        · exact .inl (List.mem_append_left _ hd)
        · exact .inr (.inl hd)
        · exact .inr (.inr hd)
      · exact .inl List.mem_concat_self
    · show (s.flight.keptDevices ++ [s.keeps.length]).Nodup
      rw [← List.concat_eq_append]
      refine h.keptNodup.concat fun hd => ?_
      exact (List.getElem?_eq_some_iff.1 (h.kept _ hd).1).1.ne rfl
    · exact h.heldNodup
    · exact h.releasedNodup
  next =>
    constructor
    · intro d hd
      exact ⟨hold (h.kept d hd).1, (h.kept d hd).2⟩
    · exact hheld
    · exact hreleased
    · intro d id hk
      rcases getElem?_snoc_cases hk with hk | ⟨-, hid⟩
      · exact h.placed d id hk
      · cases hid
    · exact h.keptNodup
    · exact h.heldNodup
    · exact h.releasedNodup

lemma kept_nil (h : DevicesOk s) (hcalling : s.flight.calling = false) :
    s.flight.keptDevices = [] := by
  rw [List.eq_nil_iff_forall_not_mem]
  intro d hd
  rw [(h.kept d hd).2] at hcalling
  exact Bool.noConfusion hcalling

lemma thread (h : DevicesOk s) (hthreads : ThreadsOk s) {i : ℕ} {throws : Bool}
    (hs : step s (.thread i throws) = some s') : DevicesOk s' := by
  obtain ⟨t, hi, hcases⟩ := thread_cases hs
  rcases hcases with ⟨r, finishes, ha, hra, -, rfl⟩ | ⟨hp, rfl⟩ | ⟨device, devices, hp, rfl⟩ |
    ⟨hp, rfl⟩
  · have hnil {p : ThreadAt} (hp : p.away = true) : p.devices = [] := by
      cases p <;> first | rfl | exact absurd hp (by simp [ThreadAt.away])
    exact h.of_thread hi (hra.trans ha.symm) ((hnil hra).trans (hnil ha).symm) rfl ⟨rfl, rfl⟩ rfl
      rfl rfl
  · exact h.returned hthreads hi (by rw [hp]; rfl)
  · exact h.release hthreads hi hp
  · obtain ⟨hkept, hcall⟩ : (s.flight.released t.id).keptDevices = s.flight.keptDevices ∧
        (s.flight.released t.id).callingId = s.flight.callingId ∧
        (s.flight.released t.id).calling = s.flight.calling := by
      unfold Flight.released
      split
      next => exact ⟨rfl, rfl, rfl⟩
      next => exact ⟨rfl, rfl, rfl⟩
    exact h.of_thread (r := .done) hi (by rw [hp]; rfl) (by rw [hp]; rfl) hkept hcall rfl rfl rfl

lemma request (h : DevicesOk s) {carrier : Carrier} {nowMillis : ℤ}
    (hs : step s (.request carrier nowMillis) = some s') : DevicesOk s' := by
  obtain ⟨-, rfl⟩ := guard_eq_some.1 hs
  have hkept := expireSilent_keptDevices s.flight nowMillis
  have hcall := callingId_of_call (expireSilent_call s.flight nowMillis)
  rcases begin_cases s.flight carrier nowMillis with hb | ⟨-, -, -, hb⟩
  · rw [hb]
    exact h.of_eq hkept (fun _ => hcall) rfl rfl rfl
  · rw [hb]
    exact h.of_eq hkept (fun _ => hcall) rfl rfl rfl

lemma run (h : DevicesOk s) (hthreads : ThreadsOk s) {deviceHandle : ℕ}
    (hs : step s (.run deviceHandle) = some s') : DevicesOk s' := by
  obtain ⟨id, hsess, rfl⟩ := run_cases hs
  have hsession := hthreads.session
  simp only [SessionOk, hsess] at hsession
  have hnil := h.kept_nil hsession.1
  exact h.of_eq rfl (fun hne => absurd hnil hne) rfl rfl rfl

lemma spawn (h : DevicesOk s) {ok : Bool} (hs : step s (.spawn ok) = some s') :
    DevicesOk s' := by
  obtain ⟨id, deviceHandle, -, rfl⟩ := spawn_cases hs
  cases ok with
  | false => exact h.of_eq rfl (fun _ => ⟨rfl, rfl⟩) rfl rfl rfl
  | true =>
    refine h.of_threads rfl (fun _ => ⟨rfl, rfl⟩) rfl rfl ?_ ?_
    · intro j u hu
      rcases getElem?_snoc_cases hu with hu | ⟨-, rfl⟩
      · exact .inr ⟨u, hu, rfl, rfl⟩
      · exact .inl rfl
    · intro j u hu
      have hlt := (List.getElem?_eq_some_iff.1 hu).1
      refine ⟨u, ?_, rfl, rfl, rfl⟩
      show (s.threads ++ [_])[j]? = some u
      rw [List.getElem?_append_left hlt]
      exact hu

lemma finishStep (h : DevicesOk s) {k : ℕ} (hs : step s (.finishStep k) = some s') :
    DevicesOk s' := by
  obtain ⟨c, -, hcases⟩ := finishStep_cases hs
  rcases hcases with ⟨-, rfl⟩ | ⟨-, rfl⟩ | ⟨-, rfl⟩
  · obtain ⟨hcall, -, hkept⟩ := finish_call s.flight c.id c.state
    exact h.of_eq hkept (fun _ => callingId_of_call hcall) rfl rfl rfl
  · exact h.of_eq rfl (fun _ => ⟨rfl, rfl⟩) rfl rfl rfl
  · exact h.of_eq rfl (fun _ => ⟨rfl, rfl⟩) rfl rfl rfl

theorem step (h : DevicesOk s) (hthreads : ThreadsOk s) {a : Pick}
    (hs : LogUpload.step s a = some s') : DevicesOk s' := by
  cases a with
  | request carrier nowMillis => exact h.request hs
  | leave =>
    obtain ⟨id, -, rfl⟩ := leave_cases hs
    exact h.of_eq rfl (fun _ => ⟨rfl, rfl⟩) rfl rfl rfl
  | run deviceHandle => exact h.run hthreads hs
  | spawn ok => exact h.spawn hs
  | thread i throws => exact h.thread hthreads hs
  | finish id state | setOnFinished | clearOnFinished =>
    cases hs
    exact h.of_eq rfl (fun _ => ⟨rfl, rfl⟩) rfl rfl rfl
  | finishStep k => exact h.finishStep hs
  | keep deviceHandle => exact h.keep hs
  | read nowMillis =>
    cases hs
    have hcall := callingId_of_call (expireSilent_call s.flight nowMillis)
    exact h.of_eq (expireSilent_keptDevices _ _) (fun _ => hcall) rfl rfl rfl

end DevicesOk

end UrnetworkWindows.LogUpload
