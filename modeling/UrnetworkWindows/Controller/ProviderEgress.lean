/-
The provider's egress monitor and the session's adapter (`TunnelController.cpp`).

The monitor of the provider-only device excludes no interface, so a tunnel must not
come up beside it.  `StartProvider` makes the monitor first, then the network space and
the device; `RetireProviderDeviceLocked` looks for the space and the device, and takes
the monitor with them.  The model has these members and those of a session they trade
places with, and every operation that moves one of them.  All of it happens with
`mutex_` held.

The coin of a step decides what the model does not: which calls throw, which requests
are for the same device, what the refusals ask about the firewall and about abandoned
teardowns, and whether a teardown gives a kept device back.
-/
import UrnetworkWindows.Controller.Firewall

namespace UrnetworkWindows.Controller.Provider

open Lib

/-! ### The model -/

/-- The members, each `true` while it is held; the device and the space a start took
from the provider, and those a disconnect kept. -/
structure Members where
  state : TunnelState := .stopped
  adapter : Bool := false
  egress : Bool := false
  networkSpace : Bool := false
  device : Bool := false
  providerEgress : Bool := false
  providerSpace : Bool := false
  providerDevice : Bool := false
  handedSpace : Bool := false
  handedDevice : Bool := false
  keptSpace : Bool := false
  keptDevice : Bool := false
deriving DecidableEq, Repr

/-- The operations. -/
inductive Op
  | start (rpcOnly : Bool)
  | stop
  | disconnect
  | logout
  | startProvider
  | stopProvider
deriving DecidableEq, Repr

/-- The names of the steps; a condition singles out the exception that `StartProvider`
throws while it has its monitor and no network space. -/
inductive Name
  | step
  | acquire
  | giveUp
  | release
  | throwWithoutSpace
deriving DecidableEq, Repr

/-- A part of an operation. -/
abbrev Act := Prog Members Name

/-- A write of the members. -/
def update (f : Members → Members) : Act Unit := .store .step f

/-- `SetStateLocked`. -/
def setStateLocked (t : TunnelState) : Act Unit := update fun m => { m with state := t }

/-- The provider's members are given up. -/
def Members.retire (m : Members) : Members :=
  { m with providerEgress := false, providerSpace := false, providerDevice := false }

/-- `RetireProviderDeviceLocked`. -/
def retireProviderDeviceLocked : Act Unit := do
  let held ← .load .step fun m => m.providerDevice || m.providerSpace
  if held then update Members.retire else pure ()

/-- The kept device and its space move into the provider's place. -/
def Members.adoptKept (m : Members) : Members :=
  { m with
    providerSpace := m.keptSpace, providerDevice := m.keptDevice
    keptSpace := false, keptDevice := false }

/-- The failure of `ResumeProvidingLocked`: the kept device is closed. -/
def closeKept : Act Unit := do
  update Members.adoptKept
  retireProviderDeviceLocked

/-- `ResumeProvidingLocked`.  The monitor may fail to be made, and to start. -/
def resumeProvidingLocked : Act Unit := do
  let threw ← .toss .step
  if threw then closeKept
  else do
    update fun m => { m with providerEgress := true }
    let threw ← .toss .step
    if threw then closeKept else update Members.adoptKept

/-- `TearDownSessionLocked`, with the device it gives back. -/
def tearDownSessionLocked (keep : Bool) : Act Unit :=
  .perform .step fun back m => ((), { m with
    adapter := false, egress := false, networkSpace := false, device := false
    keptDevice := keep && back, keptSpace := keep && back && m.networkSpace })

/-- `StopLocked`. -/
def stopLocked (disconnect : Bool) : Act Unit := do
  update fun m =>
    if m.state.isSessionLive ∨ m.state = .starting then { m with state := .stopping } else m
  retireProviderDeviceLocked
  let keep ← .perform .step fun provides m => (disconnect && m.device && provides, m)
  tearDownSessionLocked keep
  setStateLocked .stopped
  let back ← .load .step (·.keptDevice)
  if back then resumeProvidingLocked else pure ()

/-- `TakeProviderDeviceLocked`: the monitor is stopped before the device changes hands. -/
def takeProviderDeviceLocked : Act Unit := do
  let promotes ← .perform .step fun same m => (same && m.providerDevice, m)
  if promotes then do
    update fun m => { m with providerEgress := false }
    update fun m => { m with
      handedSpace := m.providerSpace, handedDevice := m.providerDevice
      providerSpace := false, providerDevice := false }
  else pure ()

/-- The `catch` of `StartLocked`. -/
def catchStart : Act Unit := do
  setStateLocked .error
  stopLocked false
  setStateLocked .error

/-- The stop point at the end of a step, and whether the start goes on. -/
def haltPoint : Act Bool := do
  let halted ← .toss .step
  if halted then do
    stopLocked false
    pure false
  else pure true

/-- A step of the bring-up, and whether the start goes on. -/
def makeStep (make : Members → Members) : Act Bool := do
  let threw ← .toss .step
  if threw then do
    catchStart
    pure false
  else do
    update make
    let threw ← .toss .step
    if threw then do
      catchStart
      pure false
    else haltPoint

/-- Step 1/8. -/
def adapterStep (rpcOnly : Bool) : Act Bool :=
  if rpcOnly then haltPoint else makeStep fun m => { m with adapter := true }

/-- The fence of `StartLocked`: the capture may have been cancelled, and the watchdog
may fail to start. -/
def fence (rpcOnly : Bool) : Act Unit := do
  let gone ← .toss .step
  if gone then stopLocked false
  else do
    setStateLocked (if rpcOnly then .rpcOnly else .preparing)
    let threw ← .toss .step
    if threw then catchStart else pure ()

/-- The steps of `StartLocked`.  A device and a space that were taken from the provider
become the session's. -/
def bringUp (rpcOnly : Bool) : Act Unit := do
  let go ← adapterStep rpcOnly
  let go ← .andThen go (makeStep fun m => { m with egress := true })
  let go ← .andThen go (makeStep fun m => { m with networkSpace := true, handedSpace := false })
  let go ← .andThen go (makeStep fun m => { m with device := true, handedDevice := false })
  let go ← .andThen go (makeStep id)
  if go then fence rpcOnly else pure ()

/-- `CloseHandedOffDeviceLocked`. -/
def closeHandedOffDeviceLocked : Act Unit :=
  update fun m => { m with handedSpace := false, handedDevice := false }

/-- What follows the teardown in `StartLocked`: it refuses while the process is to
restart or an abandoned teardown holds a device. -/
def startOver (rpcOnly : Bool) : Act Unit := do
  let refused ← .toss .step
  if refused then setStateLocked .error
  else do
    setStateLocked .starting
    bringUp rpcOnly

/-- `StartLocked`. -/
def startLocked (rpcOnly : Bool) : Act Unit := do
  takeProviderDeviceLocked
  stopLocked false
  startOver rpcOnly
  closeHandedOffDeviceLocked

/-- What `StartProvider` builds. -/
def buildProvider : Act Unit := do
  let threw ← .toss .step
  if threw then retireProviderDeviceLocked
  else do
    update fun m => { m with providerEgress := true }
    -- the monitor fails to start, or the network space to be imported
    let threw ← .toss .step
    if threw then do
      .store .throwWithoutSpace id
      retireProviderDeviceLocked
    else do
      update fun m => { m with providerSpace := true }
      let threw ← .toss .step
      if threw then retireProviderDeviceLocked
      else do
        update fun m => { m with providerDevice := true }
        let threw ← .toss .step
        if threw then retireProviderDeviceLocked else pure ()

/-- A trace of a tunnel session. -/
def Members.tunnelSession (m : Members) : Bool :=
  m.state = .starting || m.state.isSessionLive || m.state = .stopping || m.device || m.adapter ||
    m.egress

/-- `StartProvider`, with the lock.  A request for the device that runs changes that
device in place. -/
def startProviderLocked : Act Unit := do
  let session ← .load .step (·.tunnelSession)
  let refused ← .toss .step
  if session || refused then pure ()
  else do
    let same ← .perform .step fun same m => (same && m.providerDevice, m)
    if same then pure ()
    else do
      retireProviderDeviceLocked
      buildProvider

/-- An operation under `mutex_`; a timed acquisition may be given up, and then none of
the members is touched. -/
def locked (timed : Bool) (p : Act Unit) : Act Unit := do
  let got ← .lock .acquire .giveUp (fun _ => timed) .ret
  if got then do
    p
    .unlock .release (.ret ())
  else pure ()

/-- What each operation runs. -/
def body : Op → Act Unit
  | .start rpcOnly => locked false (startLocked rpcOnly)
  | .stop | .logout => locked true (stopLocked false)
  | .disconnect => locked true (stopLocked true)
  | .startProvider => locked true startProviderLocked
  | .stopProvider => locked true retireProviderDeviceLocked

/-- The controller. -/
def controller : System Members Unit Op Name where
  body := body
  may _ _ := true
  note _ _ _ := ()

/-! ### The rules -/

/-- The monitor is held with a device or a space. -/
def Members.Owned (m : Members) : Prop :=
  m.providerEgress = true → m.providerDevice = true ∨ m.providerSpace = true

/-- No tunnel beside the monitor. -/
def Members.Apart (m : Members) : Prop := ¬ (m.providerEgress = true ∧ m.adapter = true)

/-- What is asked of a step: `StartProvider` does not throw between its monitor and its
network space. -/
def spaceFollows (e : Event Op Name) (_ : Members × Unit) : Prop := e.name ≠ .throwWithoutSpace

instance (e : Event Op Name) (s : Members × Unit) : Decidable (spaceFollows e s) :=
  inferInstanceAs (Decidable (e.name ≠ .throwWithoutSpace))

/-- The rules of the monitor: nobody but the holder of the lock moves a member. -/
def rules : Rules Members Unit Op Name where
  locks _ := True
  cond := spaceFollows
  guar _ s s' := s.1.Apart → s'.1.Apart
  env _ s s' := s' = s
  loose _ _ := True
  inv s := s.1.Owned ∧ s.1.Apart

lemma rules_laws : rules.Laws where
  guar_refl _ _ := id
  env_refl _ _ := rfl
  loose_refl _ := trivial
  env_trans _ _ _ _ h h' := h'.trans h
  loose_trans _ _ _ _ _ := trivial
  inv_env _ _ h h' := h' ▸ h

section Held

variable {w : Who Op} {m : Members} {α : Type}

lemma Members.Owned.of_no_monitor (h : m.providerEgress = false) : m.Owned :=
  fun hm => absurd (h.symm.trans hm) (by simp)

lemma Members.Apart.of_no_monitor (h : m.providerEgress = false) : m.Apart :=
  fun hm => absurd (h.symm.trans hm.1) (by simp)

lemma Members.Apart.of_no_adapter (h : m.adapter = false) : m.Apart :=
  fun hm => absurd (h.symm.trans hm.2) (by simp)

lemma safe_own {n : Name} {enabled : Members → Bool} {f : Bool → Members → α × Members}
    {Q : Bool → α → Members × Unit → Prop}
    (hguar : ∀ coin, m.Apart → (f coin m).2.Apart)
    (h : ∀ coin, n ≠ .throwWithoutSpace → Q true (f coin m).1 ((f coin m).2, ())) :
    Safe controller rules w (.act n enabled f .ret) true Q (m, ()) := by
  intro s₁ hrely _ o ho hcond coin
  obtain rfl := ho.1 rfl
  obtain rfl : s₁ = (m, ()) := hrely
  exact ⟨⟨hguar coin, trivial, fun hne => absurd rfl hne⟩, h coin hcond⟩

variable {Q : Bool → Unit → Members × Unit → Prop}

lemma safe_update {f : Members → Members} (hguar : m.Apart → (f m).Apart)
    (h : Q true () (f m, ())) : Safe controller rules w (update f) true Q (m, ()) :=
  safe_own (fun _ => hguar) fun _ _ => h

lemma safe_load {r : Members → α} {Q : Bool → α → Members × Unit → Prop}
    (h : Q true (r m) (m, ())) : Safe controller rules w (.load .step r) true Q (m, ()) :=
  safe_own (fun _ => id) fun _ _ => h

lemma safe_toss {Q : Bool → Bool → Members × Unit → Prop} (h : ∀ coin, Q true coin (m, ())) :
    Safe controller rules w (.toss .step) true Q (m, ()) :=
  safe_own (fun _ => id) fun coin _ => h coin

lemma Members.retire_of_not_held (howned : m.Owned)
    (hnot : ¬ (m.providerDevice || m.providerSpace) = true) : m.retire = m := by
  simp only [Bool.or_eq_true, not_or, Bool.not_eq_true] at hnot
  obtain ⟨hdevice, hspace⟩ := hnot
  have hegress : m.providerEgress = false := by
    by_contra hm
    rcases howned (by simpa using hm) with h | h
    · exact absurd (hdevice.symm.trans h) (by simp)
    · exact absurd (hspace.symm.trans h) (by simp)
  cases m
  simp_all [Members.retire]

lemma safe_retire (howned : m.Owned) (h : Q true () (m.retire, ())) :
    Safe controller rules w retireProviderDeviceLocked true Q (m, ()) := by
  refine Safe.bind (safe_load ?_)
  refine Safe.ite (fun _ => safe_update (fun _ => .of_no_monitor rfl) h) fun hnot => ?_
  rw [Members.retire_of_not_held howned hnot] at h
  exact h

lemma safe_closeKept (hkept : m.keptDevice = true) (hadapter : m.adapter = false)
    (h : Q true () (m.adoptKept.retire, ())) :
    Safe controller rules w closeKept true Q (m, ()) := by
  refine Safe.bind (safe_update (fun _ => .of_no_adapter hadapter) ?_)
  exact safe_retire (fun _ => .inl hkept) h

/-- What a stop leaves: no adapter, and a monitor only for a device it kept. -/
structure Members.AtRest (disconnect : Bool) (m : Members) : Prop where
  adapter : m.adapter = false
  owned : m.Owned
  closed : disconnect = false → m.providerEgress = false

lemma safe_resumeProvidingLocked (hkept : m.keptDevice = true) (hadapter : m.adapter = false)
    (h : ∀ m', m'.AtRest true → Q true () (m', ())) :
    Safe controller rules w resumeProvidingLocked true Q (m, ()) := by
  have hclosed : ∀ m' : Members, m'.adapter = false → m'.adoptKept.retire.AtRest true :=
    fun m' hm' => ⟨hm', .of_no_monitor rfl, fun _ => rfl⟩
  refine Safe.bind (safe_toss fun threw => ?_)
  refine Safe.ite (fun _ => safe_closeKept hkept hadapter (h _ (hclosed m hadapter))) fun _ => ?_
  refine Safe.bind (safe_update (fun _ => .of_no_adapter hadapter) ?_)
  refine Safe.bind (safe_toss fun threw => ?_)
  refine Safe.ite (fun _ => safe_closeKept hkept hadapter (h _ (hclosed _ hadapter))) fun _ => ?_
  refine safe_update (fun _ => .of_no_adapter hadapter) (h _ ⟨hadapter, fun _ => .inl hkept, ?_⟩)
  exact fun hfalse => absurd hfalse (by simp)

lemma safe_stopLocked {disconnect : Bool} (howned : m.Owned)
    (h : ∀ m', m'.AtRest disconnect → Q true () (m', ())) :
    Safe controller rules w (stopLocked disconnect) true Q (m, ()) := by
  have hstate : ∃ t, (if m.state.isSessionLive ∨ m.state = .starting then
      { m with state := .stopping } else m) = { m with state := t } := by
    split
    · exact ⟨_, rfl⟩
    · exact ⟨m.state, rfl⟩
  obtain ⟨t, ht⟩ := hstate
  refine Safe.bind (safe_update (fun hapart => by rw [ht]; exact hapart) ?_)
  rw [ht]
  refine Safe.bind (safe_retire howned ?_)
  refine Safe.bind (safe_own (fun _ => id) fun provides _ => ?_)
  refine Safe.bind (safe_own (fun _ _ => .of_no_adapter rfl) fun back _ => ?_)
  refine Safe.bind (safe_update id ?_)
  refine Safe.bind (safe_load ?_)
  refine Safe.ite (fun hback => ?_) fun _ => h _ ⟨rfl, .of_no_monitor rfl, fun _ => rfl⟩
  -- only a disconnect keeps the device
  have hdisconnect : disconnect = true := by
    simp only [Bool.and_eq_true] at hback
    exact hback.1.1.1
  subst hdisconnect
  exact safe_resumeProvidingLocked hback rfl h

/-! ### Starting -/

/-- What is left when an operation is done with the lock. -/
def Gives {α : Type} (held : Bool) (_ : α) (s : Members × Unit) : Prop :=
  held = true ∧ s.1.Owned ∧ s.1.Apart

/-- A start goes on without a monitor. -/
def Without {α : Type} (held : Bool) (_ : α) (s : Members × Unit) : Prop :=
  held = true ∧ s.1.providerEgress = false

lemma safe_setStateLocked {t : TunnelState} (h : Q true () ({ m with state := t }, ())) :
    Safe controller rules w (setStateLocked t) true Q (m, ()) :=
  safe_update id h

lemma safe_catchStart (hm : m.providerEgress = false)
    (h : ∀ m', m'.providerEgress = false → Q true () (m', ())) :
    Safe controller rules w catchStart true Q (m, ()) := by
  refine Safe.bind (safe_setStateLocked ?_)
  refine Safe.bind (safe_stopLocked (.of_no_monitor hm) fun m₁ h₁ => ?_)
  exact safe_setStateLocked (h _ (h₁.closed rfl))

lemma safe_haltPoint (hm : m.providerEgress = false) :
    Safe controller rules w haltPoint true Without (m, ()) := by
  refine Safe.bind (safe_toss fun halted => ?_)
  refine Safe.ite (fun _ => ?_) fun _ => ⟨rfl, hm⟩
  exact Safe.bind (safe_stopLocked (.of_no_monitor hm) fun m₁ h₁ => ⟨rfl, h₁.closed rfl⟩)

lemma safe_makeStep {make : Members → Members} (hm : m.providerEgress = false)
    (hmake : ∀ m, (make m).providerEgress = m.providerEgress) :
    Safe controller rules w (makeStep make) true Without (m, ()) := by
  have hm' : (make m).providerEgress = false := (hmake m).trans hm
  refine Safe.bind (safe_toss fun threw => ?_)
  refine Safe.ite (fun _ => Safe.bind (safe_catchStart hm fun _ hm₁ => ⟨rfl, hm₁⟩)) fun _ => ?_
  refine Safe.bind (safe_update (fun _ => .of_no_monitor hm') ?_)
  refine Safe.bind (safe_toss fun threw => ?_)
  refine Safe.ite (fun _ => Safe.bind (safe_catchStart hm' fun _ hm₁ => ⟨rfl, hm₁⟩)) fun _ => ?_
  exact safe_haltPoint hm'

lemma safe_andStep {go : Bool} {make : Members → Members} {s : Members × Unit}
    (hm : s.1.providerEgress = false) (hmake : ∀ m, (make m).providerEgress = m.providerEgress) :
    Safe controller rules w (.andThen go (makeStep make)) true Without s :=
  Safe.andThen (fun _ => safe_makeStep hm hmake) fun _ => ⟨rfl, hm⟩

lemma safe_then {p : Act α} {k : α → Act Unit} {s : Members × Unit}
    (hp : Safe controller rules w p true Without s)
    (hk : ∀ a s', s'.1.providerEgress = false → Safe controller rules w (k a) true Without s') :
    Safe controller rules w (p >>= k) true Without s := by
  refine Safe.bind (hp.mono fun held a s' hwithout => ?_)
  obtain ⟨rfl, hm⟩ := hwithout
  exact hk a s' hm

lemma safe_fence {rpcOnly : Bool} {s : Members × Unit} (hm : s.1.providerEgress = false) :
    Safe controller rules w (fence rpcOnly) true Without s := by
  refine Safe.bind (safe_toss fun gone => ?_)
  refine Safe.ite (fun _ => ?_) fun _ => ?_
  · exact safe_stopLocked (.of_no_monitor hm) fun m₁ h₁ => ⟨rfl, h₁.closed rfl⟩
  refine Safe.bind (safe_setStateLocked ?_)
  refine Safe.bind (safe_toss fun threw => ?_)
  exact Safe.ite (fun _ => safe_catchStart hm fun _ hm₁ => ⟨rfl, hm₁⟩) fun _ => ⟨rfl, hm⟩

lemma safe_bringUp {rpcOnly : Bool} {s : Members × Unit} (hm : s.1.providerEgress = false) :
    Safe controller rules w (bringUp rpcOnly) true Without s := by
  have hfirst : Safe controller rules w (adapterStep rpcOnly) true Without s :=
    Safe.ite (fun _ => safe_haltPoint hm) fun _ => safe_makeStep hm fun _ => rfl
  refine safe_then hfirst fun go s₁ hm₁ => ?_
  refine safe_then (safe_andStep hm₁ fun _ => rfl) fun go s₂ hm₂ => ?_
  refine safe_then (safe_andStep hm₂ fun _ => rfl) fun go s₃ hm₃ => ?_
  refine safe_then (safe_andStep hm₃ fun _ => rfl) fun go s₄ hm₄ => ?_
  refine safe_then (safe_andStep hm₄ fun _ => rfl) fun go s₅ hm₅ => ?_
  exact Safe.ite (fun _ => safe_fence hm₅) fun _ => ⟨rfl, hm₅⟩

lemma safe_startLocked {rpcOnly : Bool} (howned : m.Owned) :
    Safe controller rules w (startLocked rpcOnly) true Without (m, ()) := by
  have hrest : ∀ m' : Members, m'.Owned → Safe controller rules w (stopLocked false >>= fun _ =>
      startOver rpcOnly >>= fun _ => closeHandedOffDeviceLocked) true Without (m', ()) := by
    intro m' howned'
    refine Safe.bind (safe_stopLocked howned' fun m₁ h₁ => ?_)
    have hm₁ := h₁.closed rfl
    refine safe_then (Safe.bind (safe_toss fun refused => ?_)) fun _ s₂ hm₂ => ?_
    · refine Safe.ite (fun _ => safe_setStateLocked ⟨rfl, hm₁⟩) fun _ => ?_
      exact Safe.bind (safe_setStateLocked (safe_bringUp hm₁))
    · exact safe_update id ⟨rfl, hm₂⟩
  refine Safe.bind (Safe.bind (safe_own (fun _ => id) fun same _ => ?_))
  refine Safe.ite (fun _ => ?_) fun _ => hrest m howned
  refine Safe.bind (safe_update (fun _ => .of_no_monitor rfl) ?_)
  exact safe_update (fun _ => .of_no_monitor rfl) (hrest _ (.of_no_monitor rfl))

/-! ### The provider -/

lemma safe_buildProvider (hm : m.providerEgress = false) (hadapter : m.adapter = false) :
    Safe controller rules w buildProvider true Gives (m, ()) := by
  have hretired : ∀ m' : Members, Gives true () (m'.retire, ()) :=
    fun m' => ⟨rfl, .of_no_monitor rfl, .of_no_monitor rfl⟩
  have happly : ∀ {m' : Members}, m'.adapter = false → m'.Apart := .of_no_adapter
  refine Safe.bind (safe_toss fun threw => ?_)
  refine Safe.ite (fun _ => safe_retire (.of_no_monitor hm) (hretired m)) fun _ => ?_
  refine Safe.bind (safe_update (fun _ => happly hadapter) ?_)
  refine Safe.bind (safe_toss fun threw => ?_)
  refine Safe.ite (fun _ => ?_) fun _ => ?_
  · exact Safe.bind (safe_own (fun _ => id) fun _ hne => absurd rfl hne)
  refine Safe.bind (safe_update (fun _ => happly hadapter) ?_)
  refine Safe.bind (safe_toss fun threw => ?_)
  refine Safe.ite (fun _ => safe_retire (fun _ => .inr rfl) (hretired _)) fun _ => ?_
  refine Safe.bind (safe_update (fun _ => happly hadapter) ?_)
  refine Safe.bind (safe_toss fun threw => ?_)
  refine Safe.ite (fun _ => safe_retire (fun _ => .inl rfl) (hretired _)) fun _ => ?_
  exact ⟨rfl, fun _ => .inl rfl, happly hadapter⟩

lemma safe_startProviderLocked (howned : m.Owned) (hapart : m.Apart) :
    Safe controller rules w startProviderLocked true Gives (m, ()) := by
  refine Safe.bind (safe_load ?_)
  refine Safe.bind (safe_toss fun refused => ?_)
  refine Safe.ite (fun _ => ⟨rfl, howned, hapart⟩) fun hgo => ?_
  have hadapter : m.adapter = false := by
    simp only [Members.tunnelSession, Bool.or_eq_true, not_or, Bool.not_eq_true] at hgo
    exact hgo.1.1.2
  refine Safe.bind (safe_own (fun _ => id) fun same _ => ?_)
  refine Safe.ite (fun _ => ⟨rfl, howned, hapart⟩) fun _ => ?_
  exact Safe.bind (safe_retire howned (safe_buildProvider rfl hadapter))

end Held

/-! ### Runs -/

lemma owes_locked {w : Who Op} {timed : Bool} {p : Act Unit} {s : Members × Unit}
    (h : ∀ m : Members, m.Owned → m.Apart → Safe controller rules w p true Gives (m, ())) :
    Owes controller rules w (locked timed p) false s := by
  refine Safe.bind ⟨⟨rfl, trivial⟩, fun s₁ _ => ⟨fun hinv _ => ?_, fun _ o _ _ => ?_⟩⟩
  · refine ⟨rules_laws.allows_refl none s₁, ?_⟩
    refine Safe.ite (fun _ => ?_) fun hc => absurd rfl hc
    refine Safe.bind ((h s₁.1 hinv.1 hinv.2).mono fun held _ s₂ hgives => ?_)
    obtain ⟨rfl, hgiven⟩ := hgives
    refine ⟨rfl, fun s₃ hrely _ => ?_⟩
    obtain rfl : s₃ = s₂ := hrely
    exact ⟨rules_laws.allows_refl _ s₃, hgiven, rfl⟩
  · exact ⟨rules_laws.allows_refl o s₁, Safe.ite (fun hc => absurd hc (by simp)) fun _ => rfl⟩

lemma owes_body (i : ℕ) (k : Op) (s : Members × Unit) :
    Owes controller rules ⟨i, k⟩ (body k) false s := by
  cases k with
  | start rpcOnly =>
    refine owes_locked fun m howned _ => (safe_startLocked howned).mono fun held _ s' hwithout => ?_
    exact ⟨hwithout.1, .of_no_monitor hwithout.2, .of_no_monitor hwithout.2⟩
  | stop | logout | disconnect =>
    refine owes_locked fun m howned _ => safe_stopLocked howned fun m' h' => ?_
    exact ⟨rfl, h'.owned, .of_no_adapter h'.adapter⟩
  | startProvider => exact owes_locked fun m howned hapart => safe_startProviderLocked howned hapart
  | stopProvider =>
    refine owes_locked fun m howned _ => safe_retire howned ?_
    exact ⟨rfl, .of_no_monitor rfl, .of_no_monitor rfl⟩

section Runs

variable {es : List (Transition (Pool Members Unit Op Name) (Label Op))}
  {p : Pool Members Unit Op Name}

lemma sound (hrun : controller.Runs spaceFollows {} () es p) :
    PoolOk controller rules p ∧ ∀ t ∈ es, ∀ e, t.pre.event t.label = some e →
      t.pre.shared.Apart → t.post.shared.Apart :=
  Rules.sound rules_laws (fun i k s _ => owes_body i k s)
    ⟨.of_no_monitor rfl, .of_no_monitor rfl⟩ hrun

/-- In every run in which no `StartProvider` throws between its monitor and its network
space: between the operations the provider's monitor is held with its device or its
space, and at no time beside the session's adapter. -/
theorem monitor_apart (hrun : controller.Runs spaceFollows {} () es p) :
    (p.owner = none → p.shared.Owned) ∧ p.shared.Apart := by
  obtain ⟨hok, hkept⟩ := sound hrun
  constructor
  · intro hfree
    exact (hok.inv hfree).1
  · exact System.Runs.shared_of_kept hrun (.of_no_monitor rfl) hkept

end Runs

/-- A provider that was started has its monitor, and a device or a space with it. -/
theorem monitor_apart_while_providing :
    ∃ es p, controller.Runs spaceFollows {} () es p ∧ p.shared.providerEgress = true ∧
      (p.shared.providerDevice = true ∨ p.shared.providerSpace = true) ∧ p.shared.Apart := by
  obtain ⟨es, q, p, hrun, hgood⟩ := System.exists_run (S := controller) spaceFollows {} ()
    (.spawn .startProvider :: List.replicate 12 (.run 0 false)) (.run 0 false)
    (fun _ p => p.owner.isNone && p.shared.providerEgress) (by decide +kernel)
  simp only [Bool.and_eq_true, Option.isNone_iff_eq_none] at hgood
  obtain ⟨hfree, hmonitor⟩ := hgood
  obtain ⟨howned, hapart⟩ := monitor_apart hrun
  exact ⟨_, p, hrun, hmonitor, howned hfree hmonitor, hapart⟩

/-- `StartProvider`, whose import of the network space throws. -/
def importThrows : List (Label Op) :=
  .spawn .startProvider ::
    [false, false, false, false, false, false, false, true, false, false].map (.run 0)

/-- The monitor that a failed import left runs on, without a device or a space; and the
next start makes its adapter beside it. -/
theorem monitor_left_running :
    (∃ es p, controller.Runs (fun _ _ => True) {} () es p ∧ p.owner = none ∧ ¬ p.shared.Owned) ∧
      ∃ es p, controller.Runs (fun _ _ => True) {} () es p ∧ ¬ p.shared.Apart := by
  constructor
  · obtain ⟨es, q, p, hrun, hgood⟩ := System.exists_run (S := controller) (fun _ _ => True) {} ()
      importThrows (.run 0 false)
      (fun _ p => p.owner.isNone && p.shared.providerEgress && !p.shared.providerDevice &&
        !p.shared.providerSpace) (by decide +kernel)
    simp only [Bool.and_eq_true, Option.isNone_iff_eq_none, Bool.not_eq_true', and_assoc] at hgood
    obtain ⟨hfree, hmonitor, hdevice, hspace⟩ := hgood
    refine ⟨_, p, hrun, hfree, fun howned => ?_⟩
    rcases howned hmonitor with h | h
    · exact absurd (hdevice.symm.trans h) (by simp)
    · exact absurd (hspace.symm.trans h) (by simp)
  · obtain ⟨es, q, p, hrun, hgood⟩ := System.exists_run (S := controller) (fun _ _ => True) {} ()
      (importThrows ++ Label.run 0 false :: .spawn (.start false) ::
       List.replicate 11 (.run 1 false))
      (.run 1 false) (fun _ p => p.shared.providerEgress && p.shared.adapter) (by decide +kernel)
    rw [Bool.and_eq_true] at hgood
    exact ⟨_, p, hrun, fun hapart => hapart hgood⟩

end UrnetworkWindows.Controller.Provider
