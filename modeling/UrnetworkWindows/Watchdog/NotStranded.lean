/-
A network change is never stranded (`CaptureReadiness.h`, `TunnelWatchdog.cpp`).

While the session has a change the device was not told about, somebody is about to tell it:
the attached channel's window is open, its sampler has taken one for this change, the
handler that counted it is still to note it on this channel, or `Start` is still to replay
it there (`Covered`).  A handler that found an earlier channel has counted its change before
that one was detached, so the replay on the next one finds it; this is why `Start` publishes
the channel first.
-/
import UrnetworkWindows.Watchdog.NetworkEvents

namespace UrnetworkWindows.Watchdog.Network

open Lib Capture

/-! ### What holds of a run -/

/-- The sampler is between taking a window for the change of this count and
`NetworkEventHandled`. -/
def SamplerAt.between (revision : ℕ) : SamplerAt → Prop
  | .took => True
  | .loading (some event) => event.revision = revision
  | .calling event => event.revision = revision
  | .marking event => event.revision = revision
  | _ => False

/-- The sampler is in the device call for this event, or has come out of it. -/
def SamplerAt.inCall (event : CaptureNetworkEpoch) : SamplerAt → Prop
  | .calling e => e = event
  | .marking e => e = event
  | _ => False

/-- The handler has counted a change and not yet noted it. -/
def HandlerAt.midway : HandlerAt → Bool
  | .noting _ _ _ => true
  | _ => false

/-- `Start` has published its channel and not yet replayed on it. -/
def ControlAt.midway : ControlAt → Bool
  | .replaying _ => true
  | .asking _ => true
  | .noting _ _ _ => true
  | _ => false

/-- A sampler begins its call of the device. -/
def BeginsCall (t : Transition Service Pick) (i : ℕ) (event : CaptureNetworkEpoch) : Prop :=
  (∃ clock, t.label = .sampler i clock) ∧
    (∃ c, t.pre.channels[i]? = some c ∧ c.sampler = .loading (some event)) ∧
    ∃ c, t.post.channels[i]? = some c ∧ c.sampler = .calling event

/-- A pending change has an open window or a sampler with it; no more are handled than
there were; and a change is handled by a device call that began after it was counted. -/
structure NeverStranded (es : List (Transition Service Pick)) (s : Service) : Prop where
  pending : ∀ i, s.channel = some i → (∀ h ∈ s.handlers, h.midway = false) →
    s.control.midway = false → s.session.pendingNetworkEvent ≠ none →
    ∃ c, s.channels[i]? = some c ∧
      (c.coalescer.pending = true ∨ c.sampler.between s.session.networkRevision)
  handled_le : s.session.handledNetworkRevision ≤ s.session.networkRevision
  handled : ∀ es₁ t es₂, es = es₁ ++ t :: es₂ → ∀ revision,
    t.pre.session.handledNetworkRevision < revision →
    revision ≤ t.post.session.handledNetworkRevision →
    ∃ i event before begins during, es₁ = before ++ begins :: during ∧
      (∃ clock, t.label = .sampler i clock) ∧ BeginsCall begins i event ∧
      revision ≤ begins.pre.session.networkRevision ∧
      ∀ u ∈ during, ∃ c, u.post.channels[i]? = some c ∧ c.sampler.inCall event

/-! ### Who still has a pending change -/

/-- The session has a change to tell the device about. -/
def Pending (r : CaptureReadiness) : Prop :=
  r.cancelled = false ∧ r.networkRevision ≠ r.handledNetworkRevision

variable {r : CaptureReadiness}

lemma pendingNetworkEvent_of_pending (h : Pending r) :
    r.pendingNetworkEvent = some ⟨r.networkRevision, r.proofSinceMillis⟩ := by
  rw [CaptureReadiness.pendingNetworkEvent, if_neg]
  simp [h.1, h.2]

lemma pending_of_ne_none (h : r.pendingNetworkEvent ≠ none) : Pending r := by
  unfold CaptureReadiness.pendingNetworkEvent at h
  split at h
  next => exact absurd rfl h
  next hnot =>
    simp only [Bool.or_eq_true, beq_iff_eq, not_or, Bool.not_eq_true] at hnot
    exact hnot

/-- The note is still to be made on this channel. -/
def NoteAt.reaches (i : ℕ) : NoteAt → Prop
  | .reading => True
  | .checking j => j = i
  | .matching j => j = i
  | .locking j => j = i
  | .done => False

/-- The handler that counted to this is still to note it on this channel. -/
def HandlerAt.reaches (revision i : ℕ) : HandlerAt → Prop
  | .noting r _ note => r = revision ∧ note.reaches i
  | _ => False

/-- `Start` is still to replay on this channel. -/
def ControlAt.reaches (i : ℕ) : ControlAt → Prop
  | .replaying j => j = i
  | .asking j => j = i
  | .noting _ _ note => note.reaches i
  | _ => False

/-- Somebody is about to tell the device about the last change. -/
def Covered (s : Service) (i : ℕ) (c : WatchdogChannel) : Prop :=
  c.coalescer.pending = true ∨ c.sampler.between s.session.networkRevision ∨
    (∃ h ∈ s.handlers, h.reaches s.session.networkRevision i) ∨ s.control.reaches i

/-- The event a sampler has read. -/
def SamplerAt.event? : SamplerAt → Option CaptureNetworkEpoch
  | .loading event => event
  | .calling event => some event
  | .marking event => some event
  | _ => none

/-- From detaching to publishing there is no channel, and until its sampler is started the
one that was published is attached. -/
def ControlOk (s : Service) : Prop :=
  match s.control with
  | .idle => True
  | .detaching _ => True
  | .cancelling _ _ => s.channel = none
  | .clearing _ _ => s.channel = none
  | .attaching => s.channel = none
  | .replaying i => s.channel = some i ∧ ∀ c, s.channels[i]? = some c → c.sampler = .unstarted
  | .asking i => s.channel = some i ∧ ∀ c, s.channels[i]? = some c → c.sampler = .unstarted
  | .noting i _ _ => s.channel = some i ∧ ∀ c, s.channels[i]? = some c → c.sampler = .unstarted
  | .spawning i => s.channel = some i ∧ ∀ c, s.channels[i]? = some c → c.sampler = .unstarted

structure NetworkOk (s : Service) : Prop where
  handled_le : s.session.handledNetworkRevision ≤ s.session.networkRevision
  held : ∀ (i : ℕ) (c : WatchdogChannel) (event : CaptureNetworkEpoch), s.channels[i]? = some c →
    c.sampler.event? = some event → event.revision ≤ s.session.networkRevision
  attached : ∀ i, s.channel = some i → ∃ c, s.channels[i]? = some c ∧ c.cancelled = false ∧
    c.device = true
  control : ControlOk s
  covered : Pending s.session → ∀ (i : ℕ) (c : WatchdogChannel), s.channel = some i →
    s.channels[i]? = some c → Covered s i c

/-! ### The notes -/

/-- A note moves nothing but a window. -/
structure Kept (s s' : Service) : Prop where
  session : s'.session = s.session
  channel : s'.channel = s.channel
  handlers : s'.handlers = s.handlers
  control : s'.control = s.control
  forth : ∀ (i : ℕ) (c : WatchdogChannel), s.channels[i]? = some c →
    ∃ c', s'.channels[i]? = some c'
  back : ∀ (i : ℕ) (c' : WatchdogChannel), s'.channels[i]? = some c' → ∃ c,
    s.channels[i]? = some c ∧ c'.sampler = c.sampler ∧ c'.cancelled = c.cancelled ∧
      c'.device = c.device ∧ (c.coalescer.pending = true → c'.coalescer.pending = true)

lemma Kept.refl (s : Service) : Kept s s :=
  ⟨rfl, rfl, rfl, rfl, fun _ c hc => ⟨c, hc⟩, fun _ c hc => ⟨c, hc, rfl, rfl, rfl, fun h => h⟩⟩

lemma Kept.observe {s : Service} {j : ℕ} {c : WatchdogChannel} (hj : s.channels[j]? = some c)
    (eventMillis : ℤ) : Kept s { s with
      channels := s.channels.set j
        { c with coalescer := c.coalescer.observe eventMillis } } := by
  refine ⟨rfl, rfl, rfl, rfl, ?_, ?_⟩
  · intro i d hi
    have hlt : i < (s.channels.set j
        { c with coalescer := c.coalescer.observe eventMillis }).length := by
      rw [List.length_set]
      exact (List.getElem?_eq_some_iff.1 hi).1
    exact ⟨_, List.getElem?_eq_getElem hlt⟩
  · intro i c' hi
    rcases getElem?_set_cases hi with ⟨rfl, rfl⟩ | ⟨-, hi⟩
    · exact ⟨c, hj, rfl, rfl, rfl, fun _ => NotifyCoalescer.observe_pending _ _⟩
    · exact ⟨c', hi, rfl, rfl, rfl, fun h => h⟩

/-- A note that is still to be made on the attached channel is so after a step of it, or
has opened its window. -/
lemma note_spec {s s' : Service} {eventMillis : ℤ} {note n : NoteAt}
    (h : noteStep s eventMillis note = some (n, s')) : Kept s s' ∧
      ∀ (i : ℕ) (c : WatchdogChannel), s.channel = some i → s.channels[i]? = some c →
        c.cancelled = false → s.session.cancelled = false → note.reaches i →
        n.reaches i ∨ ∃ c', s'.channels[i]? = some c' ∧ c'.coalescer.pending = true := by
  cases note with
  | reading =>
    simp only [noteStep] at h
    split at h
    next hnone =>
      cases h
      refine ⟨Kept.refl s, fun i c hi => ?_⟩
      exact absurd (hnone.symm.trans hi) nofun
    next j hj =>
      cases h
      refine ⟨Kept.refl s, fun i c hi _ _ _ _ => .inl ?_⟩
      exact Option.some.inj (hj.symm.trans hi)
  | checking j =>
    simp only [noteStep] at h
    split at h
    next => cases h
    next d hd =>
      cases h
      refine ⟨Kept.refl s, ?_⟩
      rintro i c - hc hcancelled - rfl
      cases hd.symm.trans hc
      left
      rw [hcancelled]
      rfl
  | matching j =>
    cases h
    refine ⟨Kept.refl s, ?_⟩
    rintro i c - - - hcancelled rfl
    left
    rw [hcancelled]
    rfl
  | locking j =>
    simp only [noteStep] at h
    split at h
    next => cases h
    next d hd =>
      obtain ⟨-, h⟩ := Option.ite_none_left_eq_some.1 h
      split at h
      next hd' =>
        cases h
        refine ⟨Kept.refl s, ?_⟩
        rintro i c - hc hcancelled - rfl
        cases hd.symm.trans hc
        rw [hcancelled] at hd'
        exact Bool.noConfusion hd'
      next =>
        cases h
        refine ⟨Kept.observe hd eventMillis, ?_⟩
        rintro i c - - - - rfl
        right
        refine ⟨_, List.getElem?_set_self (List.getElem?_eq_some_iff.1 hd).1, ?_⟩
        exact NotifyCoalescer.observe_pending _ _
  | done => cases h

/-! ### The parties, one after the other -/

lemma handler_cases {s s' : Service} {k : ℕ} {clock : ℤ}
    (hs : step s (.handler k clock) = some s') : ∃ h h' s₁, s.handlers[k]? = some h ∧
      handlerStep clock s h = some (h', s₁) ∧
      s' = { s₁ with handlers := s.handlers.set k h' } := by
  simp only [step] at hs
  split at hs
  next => cases hs
  next h hk =>
    obtain ⟨⟨h', s₁⟩, hr, rfl⟩ := Option.map_eq_some_iff.1 hs
    exact ⟨h, h', s₁, hk, hr, rfl⟩

lemma sampler_cases {s s' : Service} {i : ℕ} {clock : ℤ}
    (hs : step s (.sampler i clock) = some s') : ∃ c c' r, s.channels[i]? = some c ∧
      samplerStep clock s.session c = some (c', r) ∧
      s' = { s with session := r, channels := s.channels.set i c' } := by
  simp only [step] at hs
  split at hs
  next => cases hs
  next c hi =>
    obtain ⟨⟨c', r⟩, hr, rfl⟩ := Option.map_eq_some_iff.1 hs
    exact ⟨c, c', r, hi, hr, rfl⟩

lemma ControlOk.of_eq {s s' : Service} (h : ControlOk s) (hcontrol : s'.control = s.control)
    (hchannel : s'.channel = s.channel)
    (hback : ∀ (i : ℕ) (c' : WatchdogChannel), s'.channels[i]? = some c' →
      ∃ c, s.channels[i]? = some c ∧ (c.sampler = .unstarted → c'.sampler = .unstarted)) :
    ControlOk s' := by
  have hunstarted {i : ℕ} (hi : ∀ c, s.channels[i]? = some c → c.sampler = .unstarted)
      (c' : WatchdogChannel) (hc' : s'.channels[i]? = some c') : c'.sampler = .unstarted := by
    obtain ⟨c, hc, hsampler⟩ := hback i c' hc'
    exact hsampler (hi c hc)
  unfold ControlOk at h ⊢
  rw [hcontrol, hchannel]
  cases hs : s.control with
  | idle => trivial
  | detaching start => trivial
  | cancelling i start | clearing i start | attaching =>
    rw [hs] at h
    exact h
  | replaying i | asking i | noting i eventMillis note | spawning i =>
    rw [hs] at h
    exact ⟨h.1, hunstarted h.2⟩

namespace NetworkOk

variable {s s' : Service}

/-- The channel that is attached is in force, and stays so where only its window or its
sampler changes. -/
lemma attached_eq (h : NetworkOk s) {i : ℕ} {c : WatchdogChannel} (hi : s.channel = some i)
    (hc : s.channels[i]? = some c) : c.cancelled = false ∧ c.device = true := by
  obtain ⟨d, hd, hcancelled, hdevice⟩ := h.attached i hi
  cases hc.symm.trans hd
  exact ⟨hcancelled, hdevice⟩

lemma attached_set (h : NetworkOk s) {j : ℕ} {c c' : WatchdogChannel}
    (hj : s.channels[j]? = some c) (hcancelled : c'.cancelled = c.cancelled)
    (hdevice : c'.device = c.device) (i : ℕ) (hi : s.channel = some i) :
    ∃ d, (s.channels.set j c')[i]? = some d ∧ d.cancelled = false ∧ d.device = true := by
  by_cases hij : j = i
  · subst hij
    obtain ⟨hdc, hdd⟩ := h.attached_eq hi hj
    exact ⟨c', List.getElem?_set_self (List.getElem?_eq_some_iff.1 hj).1, hcancelled.trans hdc,
      hdevice.trans hdd⟩
  · rw [List.getElem?_set_ne hij]
    exact h.attached i hi

/-- A step of a party that keeps the session and the channels as they are, or opens a
window.  The party may leave off covering a channel only where it opened its window. -/
lemma of_kept (h : NetworkOk s) {s₁ : Service} (hkept : Kept s s₁)
    (hsession : s'.session = s₁.session) (hchannel : s'.channel = s₁.channel)
    (hchannels : s'.channels = s₁.channels) (hcontrol : ControlOk s')
    (hcovers : Pending s.session → ∀ (i : ℕ) (c : WatchdogChannel), s.channel = some i →
      s.channels[i]? = some c → c.cancelled = false →
      ((∃ h ∈ s.handlers, h.reaches s.session.networkRevision i) ∨ s.control.reaches i) →
      (∃ c', s₁.channels[i]? = some c' ∧ c'.coalescer.pending = true) ∨
        (∃ h ∈ s'.handlers, h.reaches s.session.networkRevision i) ∨ s'.control.reaches i) :
    NetworkOk s' := by
  have hsession : s'.session = s.session := hsession.trans hkept.session
  have hchannel : s'.channel = s.channel := hchannel.trans hkept.channel
  constructor
  · rw [hsession]
    exact h.handled_le
  · intro i c' event hi hevent
    rw [hchannels] at hi
    obtain ⟨c, hc, hsampler, -⟩ := hkept.back i c' hi
    rw [hsession]
    rw [hsampler] at hevent
    exact h.held i c event hc hevent
  · intro i hi
    rw [hchannel] at hi
    obtain ⟨c, hc, hcancelled, hdevice⟩ := h.attached i hi
    obtain ⟨c', hc'⟩ := hkept.forth i c hc
    obtain ⟨d, hd, -, hdc, hdd, -⟩ := hkept.back i c' hc'
    cases hc.symm.trans hd
    rw [hchannels]
    exact ⟨c', hc', hdc.trans hcancelled, hdd.trans hdevice⟩
  · exact hcontrol
  · intro hpending i c' hi hc'
    rw [hsession] at hpending
    rw [hchannel] at hi
    rw [hchannels] at hc'
    obtain ⟨c, hc, hsampler, -, -, hwindow⟩ := hkept.back i c' hc'
    obtain ⟨hcancelled, -⟩ := h.attached_eq hi hc
    unfold Covered
    rw [hsession, hsampler]
    rcases h.covered hpending i c hi hc with hw | hb | hparty
    · exact .inl (hwindow hw)
    · exact .inr (.inl hb)
    · rcases hcovers hpending i c hi hc hcancelled hparty with ⟨d', hd', hw⟩ | hparty
      · cases hc'.symm.trans hd'
        exact .inl hw
      · exact .inr (.inr hparty)

lemma of_handler (h : NetworkOk s) {s₁ : Service} {k : ℕ} {hd hd' : HandlerAt}
    (hk : s.handlers[k]? = some hd) (hkept : Kept s s₁)
    (hreaches : ∀ (i : ℕ) (c : WatchdogChannel), s.channel = some i → s.channels[i]? = some c →
      c.cancelled = false → s.session.cancelled = false →
      hd.reaches s.session.networkRevision i → hd'.reaches s.session.networkRevision i ∨
        ∃ c', s₁.channels[i]? = some c' ∧ c'.coalescer.pending = true) :
    NetworkOk { s₁ with handlers := s.handlers.set k hd' } := by
  refine h.of_kept hkept rfl rfl rfl ?_ ?_
  · apply h.control.of_eq hkept.control hkept.channel
    intro i c' hi
    obtain ⟨c, hc, hsampler, -⟩ := hkept.back i c' hi
    exact ⟨c, hc, fun hu => hsampler.trans hu⟩
  · intro hpending i c hi hc hcancelled hparty
    rcases hparty with hex | hcontrol
    · by_cases hself : hd.reaches s.session.networkRevision i
      · rcases hreaches i c hi hc hcancelled hpending.1 hself with hr | hw
        · exact .inr (.inl ⟨hd', List.mem_of_getElem?
            (List.getElem?_set_self (List.getElem?_eq_some_iff.1 hk).1), hr⟩)
        · exact .inl hw
      · exact .inr (.inl (exists_mem_set hex hk fun hr => absurd hr hself))
    · right
      right
      show s₁.control.reaches i
      rw [hkept.control]
      exact hcontrol

lemma networkChanged (h : NetworkOk s) {k : ℕ} {hd : HandlerAt} (hk : s.handlers[k]? = some hd)
    (eventMillis : ℤ) :
    NetworkOk { s with
      session := s.session.networkChanged eventMillis
      handlers := s.handlers.set k
        (.noting (s.session.networkRevision + 1) eventMillis .reading) } := by
  constructor
  · exact h.handled_le.trans (Nat.le_succ _)
  · intro i c event hi hevent
    exact (h.held i c event hi hevent).trans (Nat.le_succ _)
  · exact h.attached
  · exact h.control.of_eq rfl rfl fun i c hi => ⟨c, hi, fun hu => hu⟩
  · intro _ i c _ _
    right
    right
    left
    exact ⟨_, List.mem_of_getElem? (List.getElem?_set_self (List.getElem?_eq_some_iff.1 hk).1),
      rfl, trivial⟩

lemma handler (h : NetworkOk s) {k : ℕ} {clock : ℤ}
    (hs : step s (.handler k clock) = some s') : NetworkOk s' := by
  obtain ⟨hd, hd', s₁, hk, hr, rfl⟩ := handler_cases hs
  cases hd with
  | entering =>
    cases hr
    exact h.of_handler hk (Kept.refl s) fun _ _ _ _ _ _ hreaches => hreaches.elim
  | recording eventMillis =>
    cases hr
    exact h.networkChanged hk eventMillis
  | noting revision eventMillis note =>
    obtain ⟨⟨n, s₂⟩, hn, hr⟩ := Option.map_eq_some_iff.1 hr
    obtain ⟨rfl, rfl⟩ := Prod.mk.inj hr
    obtain ⟨hkept, hnote⟩ := note_spec hn
    apply h.of_handler hk hkept
    rintro i c hi hc hcancelled hsession ⟨hrevision, hreaches⟩
    rcases hnote i c hi hc hcancelled hsession hreaches with hn' | hw
    · left
      split
      next hdone =>
        have hdone : n = .done := hdone
        rw [hdone] at hn'
        exact hn'.elim
      next => exact ⟨hrevision, hn'⟩
    · exact .inr hw
  | done => cases hr

lemma of_sampler (h : NetworkOk s) {j : ℕ} {c c' : WatchdogChannel} {r : CaptureReadiness}
    (hj : s.channels[j]? = some c) (hstarted : c.sampler ≠ .unstarted)
    (hcancelled : c'.cancelled = c.cancelled) (hdevice : c'.device = c.device)
    (hevent : ∀ event, c'.sampler.event? = some event →
      event.revision ≤ s.session.networkRevision)
    (hrevision : r.networkRevision = s.session.networkRevision)
    (hhandled : r.handledNetworkRevision ≤ s.session.networkRevision)
    (hpending : Pending r → Pending s.session)
    (hcovers : Pending r → c.cancelled = false → c.device = true →
      c.coalescer.pending = true ∨ c.sampler.between s.session.networkRevision →
      c'.coalescer.pending = true ∨ c'.sampler.between s.session.networkRevision) :
    NetworkOk { s with session := r, channels := s.channels.set j c' } := by
  constructor
  · exact hhandled.trans hrevision.ge
  · intro i d event hi hd
    show event.revision ≤ r.networkRevision
    rw [hrevision]
    rcases getElem?_set_cases hi with ⟨-, rfl⟩ | ⟨-, hi⟩
    · exact hevent event hd
    · exact h.held i d event hi hd
  · exact h.attached_set hj hcancelled hdevice
  · refine h.control.of_eq rfl rfl ?_
    intro i d hi
    rcases getElem?_set_cases hi with ⟨rfl, rfl⟩ | ⟨-, hi⟩
    · exact ⟨c, hj, fun hu => absurd hu hstarted⟩
    · exact ⟨d, hi, fun hu => hu⟩
  · intro hp i d hi hd
    have hp : Pending r := hp
    unfold Covered
    show d.coalescer.pending = true ∨ d.sampler.between r.networkRevision ∨
      (∃ x ∈ s.handlers, x.reaches r.networkRevision i) ∨ s.control.reaches i
    rw [hrevision]
    rcases getElem?_set_cases hd with ⟨rfl, rfl⟩ | ⟨-, hd⟩
    · obtain ⟨hdc, hdd⟩ := h.attached_eq hi hj
      rcases h.covered (hpending hp) i c hi hj with hw | hb | hparty
      · rcases hcovers hp hdc hdd (.inl hw) with hw' | hb'
        · exact .inl hw'
        · exact .inr (.inl hb')
      · rcases hcovers hp hdc hdd (.inr hb) with hw' | hb'
        · exact .inl hw'
        · exact .inr (.inl hb')
      · exact .inr (.inr hparty)
    · exact h.covered (hpending hp) i d hi hd

end NetworkOk

lemma networkEventHandled_spec (event : CaptureNetworkEpoch)
    (hle : r.handledNetworkRevision ≤ r.networkRevision) :
    (r.networkEventHandled event).networkRevision = r.networkRevision ∧
    (r.networkEventHandled event).handledNetworkRevision ≤ r.networkRevision ∧
    (Pending (r.networkEventHandled event) → Pending r ∧ event.revision ≠ r.networkRevision) := by
  unfold CaptureReadiness.networkEventHandled Pending
  split
  next h =>
    obtain ⟨hlt, hle'⟩ := h
    refine ⟨rfl, hle', ?_⟩
    rintro ⟨hcancelled, hne⟩
    have hne : r.networkRevision ≠ event.revision := hne
    exact ⟨⟨hcancelled, by omega⟩, hne.symm⟩
  next h =>
    refine ⟨rfl, hle, ?_⟩
    rintro ⟨hcancelled, hne⟩
    exact ⟨⟨hcancelled, hne⟩, by omega⟩

lemma takeDue_cases (c : NotifyCoalescer) (nowMillis : ℤ) :
    c.takeDue nowMillis = (false, c) ∨ (c.takeDue nowMillis).1 = true := by
  unfold NotifyCoalescer.takeDue
  split
  next => exact .inl rfl
  next => exact .inr rfl

lemma revision_of_pendingNetworkEvent {event : CaptureNetworkEpoch}
    (h : r.pendingNetworkEvent = some event) : event.revision = r.networkRevision := by
  unfold CaptureReadiness.pendingNetworkEvent at h
  split at h
  next => cases h
  next =>
    cases h
    rfl

namespace NetworkOk

variable {s s' : Service}

lemma sampler (h : NetworkOk s) {j : ℕ} {clock : ℤ}
    (hs : step s (.sampler j clock) = some s') : NetworkOk s' := by
  obtain ⟨c, c', r, hj, hr, rfl⟩ := sampler_cases hs
  have hheld := h.held j c
  unfold samplerStep at hr
  split at hr
  next => cases hr
  next hsampler =>
    split at hr
    next hcancelled =>
      cases hr
      refine h.of_sampler hj (by rw [hsampler]; simp) rfl rfl (fun _ he => absurd he nofun) rfl
        h.handled_le (fun hp => hp) ?_
      intro _ hnot
      exact absurd (hcancelled.symm.trans hnot) (by simp)
    next =>
      cases hr
      rcases takeDue_cases c.coalescer clock with hnot | hdue
      · refine h.of_sampler hj (by rw [hsampler]; simp) rfl rfl ?_ rfl h.handled_le
          (fun hp => hp) ?_
        · rw [hnot]
          exact fun _ he => absurd he nofun
        · rw [hnot, hsampler]
          exact fun _ _ _ hc => hc
      · refine h.of_sampler hj (by rw [hsampler]; simp) rfl rfl ?_ rfl h.handled_le
          (fun hp => hp) ?_
        · rw [hdue]
          exact fun _ he => absurd he nofun
        · rw [hdue]
          exact fun _ _ _ _ => .inr trivial
  next hsampler =>
    cases hr
    refine h.of_sampler hj (by rw [hsampler]; simp) rfl rfl ?_ rfl h.handled_le (fun hp => hp) ?_
    · intro event he
      exact (revision_of_pendingNetworkEvent he).le
    · intro hp _ _ _
      right
      -- what is read is the last change
      show SamplerAt.between _ (.loading s.session.pendingNetworkEvent)
      rw [pendingNetworkEvent_of_pending hp]
      rfl
  next event hsampler =>
    split at hr
    next hdevice =>
      cases hr
      refine h.of_sampler hj (by rw [hsampler]; simp) rfl rfl (fun _ he => absurd he nofun) rfl
        h.handled_le (fun hp => hp) ?_
      intro _ _ hd
      rw [hd] at hdevice
      exact absurd hdevice (by simp)
    next =>
      rw [hsampler] at hheld
      cases event with
      | some event =>
        cases hr
        refine h.of_sampler hj (by rw [hsampler]; simp) rfl rfl (fun e => hheld e hj) rfl
          h.handled_le (fun hp => hp) ?_
        rw [hsampler]
        exact fun _ _ _ hc => hc
      | none =>
        cases hr
        refine h.of_sampler hj (by rw [hsampler]; simp) rfl rfl (fun _ he => absurd he nofun)
          rfl h.handled_le (fun hp => hp) ?_
        rw [hsampler]
        exact fun _ _ _ hc => hc
  next event hsampler =>
    rw [hsampler] at hheld
    cases hr
    refine h.of_sampler hj (by rw [hsampler]; simp) rfl rfl (fun e => hheld e hj) rfl
      h.handled_le (fun hp => hp) ?_
    rw [hsampler]
    exact fun _ _ _ hc => hc
  next event hsampler =>
    cases hr
    obtain ⟨hrevision, hle, hpending⟩ := networkEventHandled_spec event h.handled_le
    refine h.of_sampler hj (by rw [hsampler]; simp) rfl rfl (fun _ he => absurd he nofun)
      hrevision hle (fun hp => (hpending hp).1) ?_
    rw [hsampler]
    rintro hp - - (hw | hb)
    · exact .inl hw
    · -- the call was for the last change
      exact absurd hb (hpending hp).2
  next hsampler =>
    cases hr
    refine h.of_sampler hj (by rw [hsampler]; simp) rfl rfl ?_ rfl h.handled_le
      (fun hp => hp) ?_
    · intro event he
      have hnone : (if c.cancelled || !c.device then SamplerAt.done
          else .waiting).event? = none := by
        split <;> rfl
      exact absurd (hnone.symm.trans he) nofun
    · rw [hsampler]
      rintro - - - (hw | hb)
      · exact .inl hw
      · exact hb.elim
  next => cases hr

lemma of_detached (h : NetworkOk s) (hsession : s'.session = s.session)
    (hchannel : s'.channel = none) (hcontrol : ControlOk s')
    (hback : ∀ (i : ℕ) (c' : WatchdogChannel), s'.channels[i]? = some c' →
      ∃ c, s.channels[i]? = some c ∧ c'.sampler = c.sampler) : NetworkOk s' := by
  constructor
  · rw [hsession]
    exact h.handled_le
  · intro i c' event hi hevent
    obtain ⟨c, hc, hsampler⟩ := hback i c' hi
    rw [hsampler] at hevent
    rw [hsession]
    exact h.held i c event hc hevent
  · intro i hi
    exact absurd (hchannel.symm.trans hi) nofun
  · exact hcontrol
  · intro _ i c hi
    exact absurd (hchannel.symm.trans hi) nofun

lemma attaching (h : NetworkOk s) (coalescer : NotifyCoalescer) : NetworkOk { s with
    channels := s.channels ++ [{ coalescer := coalescer }]
    channel := some s.channels.length
    control := .replaying s.channels.length } := by
  have hlast : (s.channels ++ [({ coalescer := coalescer } : WatchdogChannel)])[s.channels.length]?
      = some { coalescer := coalescer } := List.getElem?_concat_length
  constructor
  · exact h.handled_le
  · intro i c event hi hevent
    rcases getElem?_snoc_cases hi with hi | ⟨-, rfl⟩
    · exact h.held i c event hi hevent
    · cases hevent
  · intro i hi
    cases hi
    exact ⟨_, hlast, rfl, rfl⟩
  · refine ⟨rfl, ?_⟩
    intro c hc
    cases hlast.symm.trans hc
    rfl
  · intro _ i c hi _
    cases hi
    right
    right
    right
    rfl

lemma spawning (h : NetworkOk s) {j : ℕ} (hs : s.control = .spawning j) {c : WatchdogChannel}
    (hj : s.channels[j]? = some c) : NetworkOk { s with
      channels := s.channels.set j { c with sampler := .waiting }
      control := .idle } := by
  have hcontrol := h.control
  unfold ControlOk at hcontrol
  rw [hs] at hcontrol
  have hunstarted := hcontrol.2 c hj
  constructor
  · exact h.handled_le
  · intro i d event hi hevent
    rcases getElem?_set_cases hi with ⟨-, rfl⟩ | ⟨-, hi⟩
    · cases hevent
    · exact h.held i d event hi hevent
  · exact h.attached_set hj rfl rfl
  · trivial
  · intro hpending i d hi hd
    rcases getElem?_set_cases hd with ⟨rfl, rfl⟩ | ⟨-, hd⟩
    · -- the sampler was not started: a window is open or a handler is on its way
      rcases h.covered hpending i c hi hj with hw | hb | hhandler | hreaches
      · exact .inl hw
      · rw [hunstarted] at hb
        exact hb.elim
      · exact .inr (.inr (.inl hhandler))
      · rw [hs] at hreaches
        exact hreaches.elim
    · rcases h.covered hpending i d hi hd with hw | hb | hhandler | hreaches
      · exact .inl hw
      · exact .inr (.inl hb)
      · exact .inr (.inr (.inl hhandler))
      · rw [hs] at hreaches
        exact hreaches.elim

lemma of_control (h : NetworkOk s) {j : ℕ} (hok : s.channel = some j ∧
      ∀ c, s.channels[j]? = some c → c.sampler = .unstarted) {s₁ : Service} (hkept : Kept s s₁)
    {control : ControlAt}
    (hcontrol : ControlOk { s₁ with control := control })
    (hreaches : Pending s.session → ∀ c, s.channels[j]? = some c → c.cancelled = false →
      s.control.reaches j → control.reaches j ∨
        ∃ c', s₁.channels[j]? = some c' ∧ c'.coalescer.pending = true) :
    NetworkOk { s₁ with control := control } := by
  refine h.of_kept hkept rfl rfl rfl hcontrol ?_
  intro hpending i c hi hc hcancelled hparty
  obtain rfl := Option.some.inj (hi.symm.trans hok.1)
  rcases hparty with hhandler | hself
  · right
    left
    show ∃ x ∈ s₁.handlers, x.reaches s.session.networkRevision i
    rw [hkept.handlers]
    exact hhandler
  · rcases hreaches hpending c hc hcancelled hself with hr | hw
    · exact .inr (.inr hr)
    · exact .inl hw

lemma control_step (h : NetworkOk s) (hs : step s .control = some s') : NetworkOk s' := by
  have hok := h.control
  unfold ControlOk at hok
  simp only [Network.step, controlStep] at hs
  -- a published channel stays, with its sampler as it is
  have hpublished {j : ℕ} (hj : s.channel = some j ∧ ∀ c, s.channels[j]? = some c →
      c.sampler = .unstarted) {s₁ : Service} (hkept : Kept s s₁) : s₁.channel = some j ∧
      ∀ c, s₁.channels[j]? = some c → c.sampler = .unstarted := by
    refine ⟨hkept.channel.trans hj.1, ?_⟩
    intro c' hc'
    obtain ⟨c, hc, hsampler, -⟩ := hkept.back j c' hc'
    exact hsampler.trans (hj.2 c hc)
  split at hs
  next => cases hs
  next start hcontrol =>
    cases hs
    refine h.of_detached rfl rfl ?_ fun i c hi => ⟨c, hi, rfl⟩
    unfold ControlOk
    cases s.channel with
    | some i => exact rfl
    | none => cases start with
      | true => exact rfl
      | false => trivial
  next j start hcontrol =>
    rw [hcontrol] at hok
    obtain ⟨c, hj, rfl⟩ := Option.map_eq_some_iff.1 hs
    refine h.of_detached rfl hok hok ?_
    intro i d hi
    rcases getElem?_set_cases hi with ⟨rfl, rfl⟩ | ⟨-, hi⟩
    · exact ⟨c, hj, rfl⟩
    · exact ⟨d, hi, rfl⟩
  next j start hcontrol =>
    rw [hcontrol] at hok
    obtain ⟨c, hj, rfl⟩ := Option.map_eq_some_iff.1 hs
    refine h.of_detached rfl hok ?_ ?_
    · unfold ControlOk
      cases start with
      | true => exact hok
      | false => trivial
    · intro i d hi
      rcases getElem?_set_cases hi with ⟨rfl, rfl⟩ | ⟨-, hi⟩
      · exact ⟨c, hj, rfl⟩
      · exact ⟨d, hi, rfl⟩
  next hcontrol =>
    cases hs
    exact h.attaching _
  next j hcontrol =>
    rw [hcontrol] at hok
    cases hs
    refine h.of_control hok (Kept.refl s) ?_ ?_
    · unfold ControlOk
      cases s.session.cancelled with
      | true => exact hok
      | false => exact hok
    · intro hpending c _ _ _
      left
      rw [hpending.1]
      rfl
  next j hcontrol =>
    rw [hcontrol] at hok
    cases hs
    refine h.of_control hok (Kept.refl s) ?_ ?_
    · unfold ControlOk
      cases s.session.pendingNetworkEvent with
      | some event => exact hok
      | none => exact hok
    · intro hpending c _ _ _
      left
      rw [pendingNetworkEvent_of_pending hpending]
      trivial
  next j eventMillis note hcontrol =>
    rw [hcontrol] at hok
    obtain ⟨⟨n, s₁⟩, hn, rfl⟩ := Option.map_eq_some_iff.1 hs
    obtain ⟨hkept, hnote⟩ := note_spec hn
    refine h.of_control hok hkept ?_ ?_
    · have hpub := hpublished hok hkept
      unfold ControlOk
      by_cases hdone : n = .done
      · rw [if_pos hdone]
        exact hpub
      · rw [if_neg hdone]
        exact hpub
    · intro hpending c hc hcancelled hreaches
      rw [hcontrol] at hreaches
      rcases hnote j c hok.1 hc hcancelled hpending.1 hreaches with hn' | hw
      · left
        rw [if_neg]
        · exact hn'
        · intro hdone
          have hdone : n = .done := hdone
          rw [hdone] at hn'
          exact hn'
      · exact .inr hw
  next j hcontrol =>
    obtain ⟨c, hj, rfl⟩ := Option.map_eq_some_iff.1 hs
    exact h.spawning hcontrol hj

lemma call (h : NetworkOk s) (start : Bool) (hs : step s (.call start) = some s') :
    NetworkOk s' := by
  obtain ⟨hidle, rfl⟩ := guard_eq_some.1 hs
  refine h.of_kept (Kept.refl s) rfl rfl rfl trivial ?_
  intro _ i c _ _ _ hparty
  rw [hidle] at hparty
  rcases hparty with hhandler | hself
  · exact .inr (.inl hhandler)
  · exact hself.elim

lemma networkEvent (h : NetworkOk s) (hs : step s .networkEvent = some s') : NetworkOk s' := by
  cases hs
  refine h.of_kept (Kept.refl s) rfl rfl rfl ?_ ?_
  · exact h.control.of_eq rfl rfl fun i c hi => ⟨c, hi, fun hu => hu⟩
  · rintro - i c - - - (⟨x, hx, hreaches⟩ | hself)
    · exact .inr (.inl ⟨x, List.mem_append_left _ hx, hreaches⟩)
    · exact .inr (.inr hself)

end NetworkOk

/-- The count of the changes and of what was handled stays, and no cancellation is taken
back. -/
structure NetworkKept (r r' : CaptureReadiness) : Prop where
  networkRevision : r'.networkRevision = r.networkRevision
  handledNetworkRevision : r'.handledNetworkRevision = r.handledNetworkRevision
  cancelled : r.cancelled = true → r'.cancelled = true

lemma NetworkKept.pending {r r' : CaptureReadiness} (h : NetworkKept r r') (hp : Pending r') :
    Pending r := by
  obtain ⟨hnot, hne⟩ := hp
  rw [h.networkRevision, h.handledNetworkRevision] at hne
  refine ⟨?_, hne⟩
  cases hc : r.cancelled with
  | false => rfl
  | true => exact absurd ((h.cancelled hc).symm.trans hnot) nofun

lemma elsewhere_kept (settings : CaptureReadinessSettings) (r : CaptureReadiness) {call : Call}
    (h : Elsewhere call = true) : NetworkKept r (call.apply settings r) := by
  obtain ⟨op, clock⟩ := call
  cases op with
  | invalidate generation =>
    show NetworkKept r (r.invalidate generation)
    unfold CaptureReadiness.invalidate
    split
    next => exact ⟨rfl, rfl, fun hc => hc⟩
    next => exact ⟨rfl, rfl, fun hc => hc⟩
  | networkChanged nowMillis | networkEventHandled event => cases h
  | proofBarrier nowMillis | beginSample | ready | current ticket => exact ⟨rfl, rfl, fun hc => hc⟩
  | completeSample sample before after usableProven =>
    show NetworkKept r (r.completeSample settings clock sample before after usableProven)
    unfold CaptureReadiness.completeSample
    split
    next => exact ⟨rfl, rfl, fun hc => hc⟩
    next => exact ⟨rfl, rfl, fun hc => hc⟩
  | commit ticket =>
    show NetworkKept r (r.commit settings clock ticket).2
    unfold CaptureReadiness.commit
    split
    next => exact ⟨rfl, rfl, fun hc => hc⟩
    next => exact ⟨rfl, rfl, fun hc => hc⟩
  | cancel => exact ⟨rfl, rfl, fun _ => rfl⟩

namespace NetworkOk

variable {s s' : Service}

lemma session (h : NetworkOk s) {c : Call} (hs : step s (.session c) = some s') :
    NetworkOk s' := by
  obtain ⟨helse, rfl⟩ := guard_eq_some.1 hs
  have hkept := elsewhere_kept s.settings s.session helse
  constructor
  · show (c.apply s.settings s.session).handledNetworkRevision ≤ _
    rw [hkept.handledNetworkRevision, hkept.networkRevision]
    exact h.handled_le
  · intro i d event hi hevent
    show event.revision ≤ (c.apply s.settings s.session).networkRevision
    rw [hkept.networkRevision]
    exact h.held i d event hi hevent
  · exact h.attached
  · exact h.control.of_eq rfl rfl fun i c hi => ⟨c, hi, fun hu => hu⟩
  · intro hpending i d hi hd
    unfold Covered
    show d.coalescer.pending = true ∨
      d.sampler.between (c.apply s.settings s.session).networkRevision ∨
      (∃ x ∈ s.handlers, x.reaches (c.apply s.settings s.session).networkRevision i) ∨
      s.control.reaches i
    rw [hkept.networkRevision]
    exact h.covered (hkept.pending hpending) i d hi hd

lemma step (h : NetworkOk s) {a : Pick} (hs : Network.step s a = some s') : NetworkOk s' := by
  cases a with
  | networkEvent => exact h.networkEvent hs
  | handler k clock => exact h.handler hs
  | sampler i clock => exact h.sampler hs
  | call start => exact h.call start hs
  | control => exact h.control_step hs
  | session c => exact h.session hs

lemma of_run {es : List (Transition Service Pick)} (h : Service.Runs es s) : NetworkOk s := by
  refine Run.invariant (P := fun _ s => NetworkOk s) ?_ ?_ h
  · rintro s ⟨settings, windowMillis, rfl⟩
    exact ⟨le_rfl, fun i c _ hi => absurd hi (by simp), fun i hi => absurd hi nofun, trivial,
      fun _ i c hi => absurd hi nofun⟩
  · intro _ s a s' hok hs
    exact hok.step hs

end NetworkOk

/-! ### The calls of the device -/

/-- Nothing is handled, and no sampler has come into its call. -/
structure CallsKept (s s' : Service) : Prop where
  handled : s'.session.handledNetworkRevision = s.session.handledNetworkRevision
  inCall : ∀ (i : ℕ) (c' : WatchdogChannel) (event : CaptureNetworkEpoch),
    s'.channels[i]? = some c' → c'.sampler.inCall event →
      ∃ c, s.channels[i]? = some c ∧ c.sampler.inCall event

namespace CallsKept

variable {s s' : Service}

lemma of_channels (hhandled : s'.session.handledNetworkRevision = s.session.handledNetworkRevision)
    (hchannels : s'.channels = s.channels) : CallsKept s s' := by
  refine ⟨hhandled, fun i c event hi hc => ⟨c, ?_, hc⟩⟩
  rw [← hchannels]
  exact hi

lemma of_kept {s₁ : Service} (h : Kept s s₁) (hsession : s'.session = s₁.session)
    (hchannels : s'.channels = s₁.channels) : CallsKept s s' := by
  constructor
  · rw [hsession, h.session]
  · intro i c' event hi hc'
    rw [hchannels] at hi
    obtain ⟨c, hc, hsampler, -⟩ := h.back i c' hi
    rw [hsampler] at hc'
    exact ⟨c, hc, hc'⟩

lemma of_set {j : ℕ} {c c' : WatchdogChannel} (hj : s.channels[j]? = some c)
    (hc : ∀ event, c'.sampler.inCall event → c.sampler.inCall event)
    (hsession : s'.session = s.session) (hchannels : s'.channels = s.channels.set j c') :
    CallsKept s s' := by
  constructor
  · rw [hsession]
  · intro i d event hi hd
    rw [hchannels] at hi
    rcases getElem?_set_cases hi with ⟨rfl, rfl⟩ | ⟨-, hi⟩
    · exact ⟨c, hj, hc event hd⟩
    · exact ⟨d, hi, hd⟩

lemma of_handler {k : ℕ} {clock : ℤ} (hs : step s (.handler k clock) = some s') :
    CallsKept s s' := by
  obtain ⟨hd, hd', s₁, hk, hr, rfl⟩ := handler_cases hs
  cases hd with
  | entering | recording eventMillis =>
    cases hr
    exact of_channels rfl rfl
  | noting revision eventMillis note =>
    obtain ⟨⟨n, s₂⟩, hn, hr⟩ := Option.map_eq_some_iff.1 hr
    obtain ⟨rfl, rfl⟩ := Prod.mk.inj hr
    exact of_kept (note_spec hn).1 rfl rfl
  | done => cases hr

lemma of_control (hs : step s .control = some s') : CallsKept s s' := by
  simp only [step, controlStep] at hs
  split at hs
  next => cases hs
  next =>
    cases hs
    exact of_channels rfl rfl
  next =>
    obtain ⟨c, hj, rfl⟩ := Option.map_eq_some_iff.1 hs
    refine of_set hj ?_ rfl rfl
    exact fun _ h => h
  next =>
    obtain ⟨c, hj, rfl⟩ := Option.map_eq_some_iff.1 hs
    refine of_set hj ?_ rfl rfl
    exact fun _ h => h
  next =>
    cases hs
    refine ⟨rfl, ?_⟩
    intro i c event hi hc
    rcases getElem?_snoc_cases hi with hi | ⟨-, rfl⟩
    · exact ⟨c, hi, hc⟩
    · exact hc.elim
  next =>
    cases hs
    exact of_channels rfl rfl
  next =>
    cases hs
    exact of_channels rfl rfl
  next =>
    obtain ⟨⟨n, s₁⟩, hn, rfl⟩ := Option.map_eq_some_iff.1 hs
    exact of_kept (note_spec hn).1 rfl rfl
  next =>
    obtain ⟨c, hj, rfl⟩ := Option.map_eq_some_iff.1 hs
    refine of_set hj ?_ rfl rfl
    exact fun _ h => h.elim

end CallsKept

/-- A sampler comes into its call from what it has read, and only out of it is anything
handled. -/
lemma samplerStep_spec {clock : ℤ} {session r : CaptureReadiness} {c c' : WatchdogChannel}
    (h : samplerStep clock session c = some (c', r)) :
    (∀ event, c'.sampler.inCall event → c.sampler.inCall event ∨
      c.sampler = .loading (some event) ∧ c'.sampler = .calling event) ∧
    (r.handledNetworkRevision = session.handledNetworkRevision ∨
      ∃ event, c.sampler = .marking event ∧ r.handledNetworkRevision = event.revision) := by
  unfold samplerStep at h
  split at h
  next => cases h
  next hsampler =>
    split at h
    next =>
      cases h
      exact ⟨fun _ hc => hc.elim, .inl rfl⟩
    next =>
      cases h
      refine ⟨fun event hc => ?_, .inl rfl⟩
      cases hdue : (c.coalescer.takeDue clock).1 with
      | true | false =>
        rw [hdue] at hc
        exact hc.elim
  next =>
    cases h
    exact ⟨fun _ hc => hc.elim, .inl rfl⟩
  next event hsampler =>
    split at h
    next =>
      cases h
      exact ⟨fun _ hc => hc.elim, .inl rfl⟩
    next =>
      cases event with
      | some event =>
        cases h
        refine ⟨?_, .inl rfl⟩
        rintro e hc
        have hc : event = e := hc
        subst hc
        exact .inr ⟨hsampler, rfl⟩
      | none =>
        cases h
        exact ⟨fun _ hc => hc.elim, .inl rfl⟩
  next event hsampler =>
    cases h
    refine ⟨fun e hc => .inl ?_, .inl rfl⟩
    rw [hsampler]
    exact hc
  next event hsampler =>
    cases h
    refine ⟨fun _ hc => hc.elim, ?_⟩
    unfold CaptureReadiness.networkEventHandled
    split
    next => exact .inr ⟨event, hsampler, rfl⟩
    next => exact .inl rfl
  next =>
    cases h
    refine ⟨fun event hc => ?_, .inl rfl⟩
    cases hover : c.cancelled || !c.device with
    | true | false =>
      rw [hover] at hc
      exact hc.elim
  next => cases h

lemma inCall_step {s s' : Service} {a : Pick} (hs : step s a = some s') {i : ℕ}
    {c' : WatchdogChannel} {event : CaptureNetworkEpoch} (hi : s'.channels[i]? = some c')
    (hc' : c'.sampler.inCall event) :
    (∃ c, s.channels[i]? = some c ∧ c.sampler.inCall event) ∨ BeginsCall ⟨s, a, s'⟩ i event := by
  cases a with
  | networkEvent =>
    cases hs
    exact .inl ⟨c', hi, hc'⟩
  | handler k clock => exact .inl ((CallsKept.of_handler hs).inCall i c' event hi hc')
  | sampler j clock =>
    obtain ⟨c, d, r, hj, hr, rfl⟩ := sampler_cases hs
    have hpost : (s.channels.set j d)[j]? = some d :=
      List.getElem?_set_self (List.getElem?_eq_some_iff.1 hj).1
    rcases getElem?_set_cases hi with ⟨rfl, rfl⟩ | ⟨-, hi⟩
    · rcases (samplerStep_spec hr).1 event hc' with hc | ⟨hloading, hcalling⟩
      · exact .inl ⟨c, hj, hc⟩
      · exact .inr ⟨⟨clock, rfl⟩, ⟨c, hj, hloading⟩, c', hpost, hcalling⟩
    · exact .inl ⟨c', hi, hc'⟩
  | call start | session c =>
    obtain ⟨-, rfl⟩ := guard_eq_some.1 hs
    exact .inl ⟨c', hi, hc'⟩
  | control => exact .inl ((CallsKept.of_control hs).inCall i c' event hi hc')

lemma handled_step {s s' : Service} {a : Pick} (hs : step s a = some s')
    (hne : s'.session.handledNetworkRevision ≠ s.session.handledNetworkRevision) :
    ∃ i clock c event, a = .sampler i clock ∧ s.channels[i]? = some c ∧
      c.sampler = .marking event ∧ s'.session.handledNetworkRevision = event.revision := by
  cases a with
  | networkEvent =>
    cases hs
    exact absurd rfl hne
  | handler k clock => exact absurd (CallsKept.of_handler hs).handled hne
  | sampler j clock =>
    obtain ⟨c, d, r, hj, hr, rfl⟩ := sampler_cases hs
    rcases (samplerStep_spec hr).2 with heq | ⟨event, hmarking, hrevision⟩
    · exact absurd heq hne
    · exact ⟨j, clock, c, event, rfl, hj, hmarking, hrevision⟩
  | call start =>
    obtain ⟨-, rfl⟩ := guard_eq_some.1 hs
    exact absurd rfl hne
  | control => exact absurd (CallsKept.of_control hs).handled hne
  | session c =>
    obtain ⟨helse, rfl⟩ := guard_eq_some.1 hs
    exact absurd (elsewhere_kept s.settings s.session helse).handledNetworkRevision hne

/-- The call a sampler is in began after its change was counted, and it has been in it
since. -/
def CallsBegan (es : List (Transition Service Pick)) (s : Service) : Prop :=
  ∀ (i : ℕ) (c : WatchdogChannel) (event : CaptureNetworkEpoch), s.channels[i]? = some c →
    c.sampler.inCall event → ∃ before begins during, es = before ++ begins :: during ∧
      BeginsCall begins i event ∧ event.revision ≤ begins.pre.session.networkRevision ∧
      ∀ u ∈ during, ∃ c, u.post.channels[i]? = some c ∧ c.sampler.inCall event

lemma CallsBegan.step {es : List (Transition Service Pick)} {s s' : Service} {a : Pick}
    (h : CallsBegan es s) (hok : NetworkOk s) (hs : Network.step s a = some s') :
    CallsBegan (es ++ [⟨s, a, s'⟩]) s' := by
  intro i c' event hi hc'
  rcases inCall_step hs hi hc' with ⟨c, hc, hin⟩ | hbegins
  · obtain ⟨before, begins, during, rfl, hbegins, hle, hduring⟩ := h i c event hc hin
    refine ⟨before, begins, during ++ [⟨s, a, s'⟩], by simp, hbegins, hle, ?_⟩
    intro u hu
    rcases List.mem_append.1 hu with hu | hu
    · exact hduring u hu
    · obtain rfl := List.mem_singleton.1 hu
      exact ⟨c', hi, hc'⟩
  · refine ⟨es, ⟨s, a, s'⟩, [], rfl, hbegins, ?_, fun u hu => absurd hu List.not_mem_nil⟩
    obtain ⟨-, ⟨c, hc, hloading⟩, -⟩ := hbegins
    exact hok.held i c event hc (by rw [hloading]; rfl)

lemma CallsBegan.of_run {es : List (Transition Service Pick)} {s : Service}
    (h : Service.Runs es s) : CallsBegan es s := by
  have hboth : NetworkOk s ∧ CallsBegan es s := by
    refine Run.invariant (P := fun es s => NetworkOk s ∧ CallsBegan es s) ?_ ?_ h
    · intro s hs
      refine ⟨NetworkOk.of_run (.nil hs), ?_⟩
      obtain ⟨settings, windowMillis, rfl⟩ := hs
      exact fun i c _ hi => absurd hi (by simp)
    · intro _ s a s' ⟨hok, hbegan⟩ hs
      exact ⟨hok.step hs, hbegan.step hok hs⟩
  exact hboth.2

/-! ### The runs -/

lemma reaches_midway {h : HandlerAt} {revision i : ℕ} (hr : h.reaches revision i) :
    h.midway = true := by
  cases h with
  | noting r eventMillis note => rfl
  | _ => exact hr.elim

lemma control_reaches_midway {c : ControlAt} {i : ℕ} (hr : c.reaches i) : c.midway = true := by
  cases c with
  | replaying j => rfl
  | asking j => rfl
  | noting j eventMillis note => rfl
  | _ => exact hr.elim

/-- In every run a pending change is on its way to the device. -/
theorem network_change_never_stranded (es : List (Transition Service Pick)) (s : Service)
    (h : Service.Runs es s) : NeverStranded es s := by
  have hok := NetworkOk.of_run h
  constructor
  · intro i hi hhandlers hcontrol hpending
    obtain ⟨c, hc, -⟩ := hok.attached i hi
    refine ⟨c, hc, ?_⟩
    rcases hok.covered (pending_of_ne_none hpending) i c hi hc with hw | hb | ⟨x, hx, hr⟩ | hr
    · exact .inl hw
    · exact .inr hb
    · exact absurd ((hhandlers x hx).symm.trans (reaches_midway hr)) nofun
    · exact absurd (hcontrol.symm.trans (control_reaches_midway hr)) nofun
  · exact hok.handled_le
  · intro es₁ t es₂ hes revision hlt hle
    obtain ⟨hpre, hstep⟩ := h.split hes
    obtain ⟨i, clock, c, event, hlabel, hc, hmarking, hrevision⟩ :=
      handled_step hstep (by omega)
    have hin : c.sampler.inCall event := by
      rw [hmarking]
      rfl
    obtain ⟨before, begins, during, hes₁, hbegins, hcounted, hduring⟩ :=
      CallsBegan.of_run hpre i c event hc hin
    exact ⟨i, event, before, begins, during, hes₁, ⟨clock, hlabel⟩, hbegins, by omega, hduring⟩

/-- A change in the gap before the first channel is published is replayed on it; another,
counted while the device is told of that one, finds no channel and is replayed on the
next. -/
def gapLabels : List Pick :=
  [.call true, .networkEvent, .handler 0 10, .handler 0 10, .handler 0 10, .control, .control,
    .control, .control, .control, .control, .control, .control, .control, .sampler 0 800,
    .sampler 0 800, .sampler 0 800, .networkEvent, .handler 1 900, .handler 1 900, .call true,
    .control, .sampler 0 901, .sampler 0 901, .control, .control, .handler 1 902, .control,
    .control, .control, .control, .control, .control, .control, .control]

theorem network_change_never_stranded_in_gap : ∃ es s, Service.Runs es s ∧
    (s.session.pendingNetworkEvent = some ⟨2, 900⟩ ∧ s.session.handledNetworkRevision = 1 ∧
      s.channel = some 1 ∧ s.control = .idle ∧ s.handlers = [.done, .done]) ∧
    NeverStranded es s := by
  have hrun : ∃ es s, Service.Runs es s ∧ decide (
      s.session.pendingNetworkEvent = some ⟨2, 900⟩ ∧ s.session.handledNetworkRevision = 1 ∧
      s.channel = some 1 ∧ s.control = .idle ∧ s.handlers = [.done, .done]) = true :=
    Run.exists_of_execute step (fun _ _ => true) (fun _ _ _ _ _ hs => hs)
      ⟨{}, 750, rfl⟩ gapLabels _ (by decide +kernel)
  obtain ⟨es, s, h, hgood⟩ := hrun
  exact ⟨es, s, h, of_decide_eq_true hgood, network_change_never_stranded es s h⟩

end UrnetworkWindows.Watchdog.Network
