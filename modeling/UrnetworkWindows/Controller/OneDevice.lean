/-
One device at a time.

A device that has not closed is somewhere: in one of the controller's slots, or with
a worker (`Accounted`).  A construction is safe when no slot has one, and the workers
have given theirs up.  The slots are the business of whoever holds the lock, and
`Places` is what it knows of them; the workers are what a sweep asks about.

The sweep counts the workers that were left behind, and no others.  `deviceCond` says
where that is enough: a sweep that lets an operation go on finds no worker with a
device that nobody has left behind yet, no waiter hands a device to a worker between
such a sweep and the construction, the closes that `StartProvider` and `UploadLogs`
make in between return in time, and no construction throws its device away.
-/
import UrnetworkWindows.Controller.Devices

namespace UrnetworkWindows.Controller.Device

open Lib

/-- Every worker with a device was left behind, and the sweep counts it. -/
def Devices.counted (s : Devices) : Bool :=
  (List.range s.workers).all fun k =>
    (s.worker k).device.isNone || (s.held.contains k && !s.isDone k)

/-- Where a construction finds every earlier device closed. -/
def deviceCond (e : Event Op Name) (s : Devices × History) : Bool :=
  match e.self.kind, e.name with
  | op, .sweep => !goesOn op s.1 || s.1.counted
  | .waiter _, .take j => !s.2.swept || (s.1.slot j).isNone
  | _, .await true k => s.1.isDone k
  | _, .lose => false
  | _, _ => true

/-! ### Where the devices are -/

/-- The device is in one of the controller's slots. -/
def Placed (s : Devices) (d : ℕ) : Prop :=
  s.session = some d ∨ s.provider = some d ∨ s.handedOff = some d ∨ s.kept = some d ∨
    ∃ j, s.slot j = some d

/-- A worker has the device. -/
def Held (s : Devices) (d : ℕ) : Prop :=
  ∃ k < s.workers, (s.worker k).device = some d ∨ (s.worker k).kept = some d

/-- Every device is closed, or somewhere. -/
def Accounted (s : Devices) : Prop :=
  ∀ d < s.built, s.closed d = true ∨ Placed s d ∨ Held s d

/-- Every device is closed. -/
def AllClosed (s : Devices) : Prop := ∀ d < s.built, s.closed d = true

/-- What a worker has done for its phase: it gives nothing back before it ran, and
it leaves without its device. -/
def Worker.Sound (v : Worker) : Prop :=
  (v.phase = .running → v.kept = none) ∧ (v.phase = .leaving ∨ v.phase = .done → v.device = none)

/-- The worker has no device to give back, and will have none. -/
def Worker.Settled (v : Worker) : Prop :=
  v.kept = none ∧ (v.keep = true → v.abandoned = true ∨ v.phase ≠ .running)

/-- The worker closes that device. -/
def Closes (s : Devices) (k d : ℕ) : Prop :=
  k < s.workers ∧ (s.worker k).keep = false ∧
    (s.closed d = true ∨ (s.worker k).device = some d ∧ (s.worker k).Sound)

/-- What every step does: it constructs a device over closed ones only. -/
def Exclusive (_ : Who Op) (s s' : Devices × History) : Prop :=
  s'.1.built ≠ s.1.built → AllClosed s.1

/-- What the waiters and the workers do. -/
structure Calm (s s' : Devices × History) : Prop where
  built : s'.1.built = s.1.built
  session : s'.1.session = s.1.session
  provider : s'.1.provider = s.1.provider
  handedOff : s'.1.handedOff = s.1.handedOff
  kept : s'.1.kept = s.1.kept
  logUpload : s'.1.logUpload = s.1.logUpload
  swept : s'.2 = s.2
  closed : ∀ d, s.1.closed d = true → s'.1.closed d = true
  /-- A waiter takes a device out of its slot, but not after a sweep. -/
  slot : ∀ j, s'.1.slot j = s.1.slot j ∨ s'.1.slot j = none ∧ s.2.swept = false
  sound : (∀ k, (s.1.worker k).Sound) → ∀ k, (s'.1.worker k).Sound
  accounted : (∀ k, (s.1.worker k).Sound) → Accounted s.1 → Accounted s'.1
  settled : ∀ k, (s.1.worker k).Settled → (s'.1.worker k).Settled
  closes : ∀ k d, Closes s.1 k d → Closes s'.1 k d

/-- What the holder of the lock knows of the slots: what the single ones have, which
log-upload slot may have a device, and which worker may give one back. -/
structure Places where
  session : Option ℕ := none
  provider : Option ℕ := none
  handedOff : Option ℕ := none
  kept : Option ℕ := none
  logUpload : Option ℕ := none
  slot : Option ℕ := none
  handback : Option ℕ := none

/-- The slots are as the holder knows them. -/
structure Shows (l : Places) (s : Devices) : Prop where
  session : s.session = l.session
  provider : s.provider = l.provider
  handedOff : s.handedOff = l.handedOff
  kept : s.kept = l.kept
  logUpload : s.logUpload = l.logUpload
  slot : ∀ j d, s.slot j = some d → l.slot = some j

/-- The slots are as the holder knows them, and no device is lost. -/
structure Stands (l : Places) (s : Devices × History) : Prop extends Shows l s.1 where
  settled : ∀ k, l.handback ≠ some k → (s.1.worker k).Settled
  sound : ∀ k, (s.1.worker k).Sound
  accounted : Accounted s.1

/-- The invariant of the free lock: no operation is halfway. -/
def Given (s : Devices × History) : Prop :=
  ∃ se pr up, Stands { session := se, provider := pr, logUpload := up, slot := up } s

/-- A sweep has found no worker with a device: what has not closed is in a slot, but
perhaps for that one. -/
def Clear (but : Option ℕ) (s : Devices × History) : Prop :=
  s.2.swept = true ∧ ∀ d < s.1.built, s.1.closed d = true ∨ Placed s.1 d ∨ but = some d

/-- The rules of the one device. -/
def deviceRules : Rules Devices History Op Name where
  locks _ := True
  cond e s := deviceCond e s = true
  guar := Exclusive
  env _ := Calm
  loose _ _ := True
  inv := Given

section Waiting

variable {s s₁ s₂ : Devices × History} {l : Places} {but : Option ℕ} {k d : ℕ}

lemma Calm.refl (s : Devices × History) : Calm s s :=
  ⟨rfl, rfl, rfl, rfl, rfl, rfl, rfl, fun _ => id, fun _ => .inl rfl, id, fun _ => id, fun _ => id,
    fun _ _ => id⟩

lemma Calm.trans (h : Calm s s₁) (h' : Calm s₁ s₂) : Calm s s₂ where
  built := h'.built.trans h.built
  session := h'.session.trans h.session
  provider := h'.provider.trans h.provider
  handedOff := h'.handedOff.trans h.handedOff
  kept := h'.kept.trans h.kept
  logUpload := h'.logUpload.trans h.logUpload
  swept := h'.swept.trans h.swept
  closed d := h'.closed d ∘ h.closed d
  slot j := by
    rcases h'.slot j with hj' | ⟨hj', hswept⟩
    · rw [hj']
      exact h.slot j
    · exact .inr ⟨hj', h.swept ▸ hswept⟩
  sound hsound := h'.sound (h.sound hsound)
  accounted hsound hacc := h'.accounted (h.sound hsound) (h.accounted hsound hacc)
  settled k := h'.settled k ∘ h.settled k
  closes k d := h'.closes k d ∘ h.closes k d

lemma Calm.of_slot (hs : Calm s s₁) {j : ℕ} (h : s₁.1.slot j = some d) : s.1.slot j = some d := by
  rcases hs.slot j with hj | ⟨hj, -⟩
  · rw [← hj, h]
  · exact absurd (hj.symm.trans h) (by simp)

lemma Calm.placed (hs : Calm s s₁) (hswept : s.2.swept = true) (h : Placed s.1 d) :
    Placed s₁.1 d := by
  rcases h with h | h | h | h | ⟨j, h⟩
  · exact .inl (hs.session.trans h)
  · exact .inr (.inl (hs.provider.trans h))
  · exact .inr (.inr (.inl (hs.handedOff.trans h)))
  · exact .inr (.inr (.inr (.inl (hs.kept.trans h))))
  · rcases hs.slot j with hj | ⟨-, hfree⟩
    · exact .inr (.inr (.inr (.inr ⟨j, hj.trans h⟩)))
    · exact absurd (hfree.symm.trans hswept) (by simp)

lemma AllClosed.calm (h : AllClosed s.1) (hs : Calm s s₁) : AllClosed s₁.1 := by
  intro d hd
  rw [hs.built] at hd
  exact hs.closed d (h d hd)

lemma Clear.calm (h : Clear but s) (hs : Calm s s₁) : Clear but s₁ := by
  refine ⟨by rw [hs.swept, h.1], fun d hd => ?_⟩
  rw [hs.built] at hd
  rcases h.2 d hd with hd | hd | hd
  · exact .inl (hs.closed d hd)
  · exact .inr (.inl (hs.placed h.1 hd))
  · exact .inr (.inr hd)

lemma Stands.calm (h : Stands l s) (hs : Calm s s₁) : Stands l s₁ where
  session := hs.session.trans h.session
  provider := hs.provider.trans h.provider
  handedOff := hs.handedOff.trans h.handedOff
  kept := hs.kept.trans h.kept
  logUpload := hs.logUpload.trans h.logUpload
  slot j d hd := h.slot j d (hs.of_slot hd)
  settled k hk := hs.settled k (h.settled k hk)
  sound := hs.sound h.sound
  accounted := hs.accounted h.sound h.accounted

lemma deviceRules_laws : deviceRules.Laws where
  guar_refl _ _ hne := absurd rfl hne
  env_refl _ := Calm.refl
  loose_refl _ := trivial
  env_trans _ _ _ _ := Calm.trans
  loose_trans _ _ _ _ _ := trivial
  inv_env := by
    rintro s s₁ ⟨se, pr, up, h⟩ hs
    exact ⟨se, pr, up, h.calm hs⟩

lemma Clear.allClosed (h : Clear none s) (hs : Stands {} s) : AllClosed s.1 := by
  intro d hd
  rcases h.2 d hd with hd | hd | hd
  · exact hd
  · rcases hd with hd | hd | hd | hd | ⟨j, hd⟩
    · exact absurd (hs.session.symm.trans hd) (by simp)
    · exact absurd (hs.provider.symm.trans hd) (by simp)
    · exact absurd (hs.handedOff.symm.trans hd) (by simp)
    · exact absurd (hs.kept.symm.trans hd) (by simp)
    · exact absurd (hs.slot j d hd) (by simp)
  · exact absurd hd (by simp)

lemma Closes.closed_of_isDone (h : Closes s.1 k d) (hdone : s.1.isDone k = true) :
    s.1.closed d = true := by
  obtain ⟨-, -, h | ⟨hdev, hsound⟩⟩ := h
  · exact h
  · exact absurd ((hsound.2 (.inr (by simpa [Devices.isDone] using hdone))).symm.trans hdev)
      (by simp)

end Waiting

/-! ### Handing over -/

/-- The devices and the workers are as they were. -/
structure Keeps (s s' : Devices) : Prop where
  built : s'.built = s.built
  closed : s'.closed = s.closed
  workers : s'.workers = s.workers
  worker : s'.worker = s.worker

/-- A device leaves its slot, and nothing else happens. -/
structure Leaves (d : ℕ) (s s' : Devices) : Prop extends Keeps s s' where
  placed : ∀ x, Placed s x → x = d ∨ Placed s' x

section Hand

variable {s s' : Devices} {d x k : ℕ} {keep : Bool}

lemma hand_worker_of_ne (hk : k ≠ s.workers) : (s.hand d keep).worker k = s.worker k :=
  Function.update_of_ne hk _ _

lemma hand_worker_self : (s.hand d keep).worker s.workers = { device := some d, keep := keep } :=
  Function.update_self _ _ _

lemma held_hand (d : ℕ) (keep : Bool) : Held (s.hand d keep) d :=
  ⟨s.workers, Nat.lt_succ_self _, .inl (by rw [hand_worker_self])⟩

lemma Held.hand (h : Held s x) : Held (s.hand d keep) x := by
  obtain ⟨k, hk, h⟩ := h
  exact ⟨k, hk.trans (Nat.lt_succ_self _), by rwa [hand_worker_of_ne hk.ne]⟩

lemma sound_hand (h : ∀ k, (s.worker k).Sound) (k : ℕ) : ((s.hand d keep).worker k).Sound := by
  rcases eq_or_ne k s.workers with rfl | hk
  · rw [hand_worker_self]
    exact ⟨fun _ => rfl, by simp⟩
  · rw [hand_worker_of_ne hk]
    exact h k

lemma settled_hand (h : (s.worker k).Settled) (hk : keep = false ∨ k ≠ s.workers) :
    ((s.hand d keep).worker k).Settled := by
  rcases eq_or_ne k s.workers with rfl | hne
  · rw [hand_worker_self]
    exact ⟨rfl, by simpa using hk⟩
  · rwa [hand_worker_of_ne hne]

lemma closes_hand (d : ℕ) : Closes (s.hand d false) s.workers d := by
  refine ⟨Nat.lt_succ_self _, ?_, .inr ?_⟩
  · rw [hand_worker_self]
  · rw [hand_worker_self]
    exact ⟨rfl, fun _ => rfl, by simp⟩

lemma Closes.hand (h : Closes s k x) : Closes (s.hand d keep) k x := by
  obtain ⟨hk, h⟩ := h
  refine ⟨hk.trans (Nat.lt_succ_self _), ?_⟩
  rw [hand_worker_of_ne hk.ne]
  exact h

lemma Accounted.hand (h : Accounted s) (hs : Leaves d s s') : Accounted (s'.hand d keep) := by
  intro x hx
  rcases h x (hs.built ▸ hx) with hx | hx | hx
  · exact .inl (by simpa [Devices.hand, hs.closed] using hx)
  · rcases hs.placed x hx with rfl | hx
    · exact .inr (.inr (held_hand _ _))
    · exact .inr (.inl hx)
  · refine .inr (.inr (Held.hand ?_))
    simpa [Held, hs.workers, hs.worker] using hx

lemma leaves_session (hd : s.session = some d) : Leaves d s { s with session := none } := by
  refine ⟨⟨rfl, rfl, rfl, rfl⟩, fun x hx => ?_⟩
  rcases hx with hx | hx
  · exact .inl (Option.some.inj (hx.symm.trans hd))
  · exact .inr (.inr hx)

lemma leaves_provider (hd : s.provider = some d) : Leaves d s { s with provider := none } := by
  refine ⟨⟨rfl, rfl, rfl, rfl⟩, fun x hx => ?_⟩
  rcases hx with hx | hx | hx
  · exact .inr (.inl hx)
  · exact .inl (Option.some.inj (hx.symm.trans hd))
  · exact .inr (.inr (.inr hx))

lemma leaves_handedOff (hd : s.handedOff = some d) : Leaves d s { s with handedOff := none } := by
  refine ⟨⟨rfl, rfl, rfl, rfl⟩, fun x hx => ?_⟩
  rcases hx with hx | hx | hx | hx
  · exact .inr (.inl hx)
  · exact .inr (.inr (.inl hx))
  · exact .inl (Option.some.inj (hx.symm.trans hd))
  · exact .inr (.inr (.inr (.inr hx)))

lemma leaves_slot {j : ℕ} (hd : s.slot j = some d) :
    Leaves d s { s with slot := Function.update s.slot j none } := by
  refine ⟨⟨rfl, rfl, rfl, rfl⟩, fun x hx => ?_⟩
  rcases hx with hx | hx | hx | hx | ⟨i, hx⟩
  · exact .inr (.inl hx)
  · exact .inr (.inr (.inl hx))
  · exact .inr (.inr (.inr (.inl hx)))
  · exact .inr (.inr (.inr (.inr (.inl hx))))
  · rcases eq_or_ne i j with rfl | hne
    · exact .inl (Option.some.inj (hx.symm.trans hd))
    · exact .inr (.inr (.inr (.inr (.inr ⟨i, by simpa [Function.update_of_ne hne] using hx⟩))))

lemma calm_take {j : ℕ} {h : History} (hd : s.slot j = some d) (hfree : h.swept = false) :
    Calm (s, h) (({ s with slot := Function.update s.slot j none } : Devices).hand d false, h) where
  built := rfl
  session := rfl
  provider := rfl
  handedOff := rfl
  kept := rfl
  logUpload := rfl
  swept := rfl
  closed _ := id
  slot i := by
    rcases eq_or_ne i j with rfl | hne
    · exact .inr ⟨Function.update_self _ _ _, hfree⟩
    · exact .inl (Function.update_of_ne hne _ _)
  sound := sound_hand
  accounted _ hacc := hacc.hand (leaves_slot hd)
  settled k hk := settled_hand hk (.inl rfl)
  closes k x := Closes.hand

end Hand

/-! ### Workers -/

section Work

variable {s : Devices} {h : History} {k : ℕ} {v : Worker} {closed : ℕ → Bool}

lemma calm_update (hclosed : ∀ d, s.closed d = true → closed d = true)
    (hsound : (s.worker k).Sound → v.Sound) (hsettled : (s.worker k).Settled → v.Settled)
    (hkeep : v.keep = (s.worker k).keep)
    (hdevice : ∀ d, (s.worker k).device = some d → closed d = true ∨ v.device = some d ∨
      v.keep = true ∧ v.kept = some d)
    (hkept : (s.worker k).Sound → ∀ d, (s.worker k).kept = some d → v.kept = some d) :
    Calm (s, h) ({ s with closed := closed, worker := Function.update s.worker k v }, h) where
  built := rfl
  session := rfl
  provider := rfl
  handedOff := rfl
  kept := rfl
  logUpload := rfl
  swept := rfl
  closed := hclosed
  slot _ := .inl rfl
  sound hall i := by
    rcases eq_or_ne i k with rfl | hne
    · simpa using hsound (hall i)
    · simpa [Function.update_of_ne hne] using hall i
  accounted hall hacc d hlt := by
    rcases hacc d hlt with hd | hd | ⟨i, hi, hd⟩
    · exact .inl (hclosed d hd)
    · exact .inr (.inl hd)
    · rcases eq_or_ne i k with rfl | hne
      · rcases hd with hd | hd
        · rcases hdevice d hd with hd | hd | ⟨-, hd⟩
          · exact .inl hd
          · exact .inr (.inr ⟨i, hi, .inl (by simpa using hd)⟩)
          · exact .inr (.inr ⟨i, hi, .inr (by simpa using hd)⟩)
        · exact .inr (.inr ⟨i, hi, .inr (by simpa using hkept (hall i) d hd)⟩)
      · exact .inr (.inr ⟨i, hi, by simpa [Function.update_of_ne hne] using hd⟩)
  settled i hi := by
    rcases eq_or_ne i k with rfl | hne
    · simpa using hsettled hi
    · simpa [Function.update_of_ne hne] using hi
  closes i d := by
    rintro ⟨hi, hfree, hd⟩
    rcases eq_or_ne i k with rfl | hne
    · refine ⟨hi, by simpa [hkeep] using hfree, ?_⟩
      rcases hd with hd | ⟨hd, hs⟩
      · exact .inl (hclosed d hd)
      · rcases hdevice d hd with hd | hd | ⟨hv, -⟩
        · exact .inl hd
        · exact .inr (by simpa using ⟨hd, hsound hs⟩)
        · exact absurd (hkeep.symm.trans hv) (Bool.eq_false_iff.1 hfree)
    · refine ⟨hi, by simpa [Function.update_of_ne hne] using hfree, ?_⟩
      rcases hd with hd | hd
      · exact .inl (hclosed d hd)
      · exact .inr (by simpa [Function.update_of_ne hne] using hd)

lemma calm_work (k : ℕ) (cleared : Bool) : Calm (s, h) (s.work k cleared, h) := by
  simp only [Devices.work]
  split
  · next hphase =>
    split
    · next hback =>
      refine calm_update (fun _ => id) (fun hs => ⟨by simp, by simp⟩) (fun hs => ?_) rfl
        (fun d hd => .inr (.inr ⟨hback.1, hd⟩)) fun hs d hd => ?_
      · exact absurd hphase ((hs.2 hback.1).resolve_left hback.2.2)
      · exact absurd ((hs.1 hphase).symm.trans hd) (by simp)
    · exact calm_update (fun _ => id) (fun hs => ⟨by simp, by simp⟩)
        (fun hs => ⟨hs.1, fun _ => .inr (by simp)⟩) rfl (fun d hd => .inr (.inl hd))
        fun _ d => id
  · next d hphase hdevice =>
    refine calm_update (fun x hx => ?_) (fun hs => ⟨by simp, by simp⟩)
      (fun hs => ⟨hs.1, fun _ => .inr (by simp)⟩) rfl (fun x hx => .inl ?_) fun _ d => id
    · rw [Function.update_apply, hx, ite_self]
    · obtain rfl : d = x := Option.some.inj (hdevice.symm.trans hx)
      exact Function.update_self _ _ _
  · next hphase hdevice =>
    exact calm_update (fun _ => id) (fun hs => ⟨by simp, fun _ => hdevice⟩)
      (fun hs => ⟨hs.1, fun _ => .inr (by simp)⟩) rfl (fun d hd => .inr (.inl hd)) fun _ d => id
  · next hphase =>
    exact calm_update (fun _ => id) (fun hs => ⟨by simp, fun _ => hs.2 (.inl hphase)⟩)
      (fun hs => ⟨hs.1, fun _ => .inr (by simp)⟩) rfl (fun d hd => .inr (.inl hd)) fun _ d => id
  · exact Calm.refl _

lemma calm_held (held : List ℕ) : Calm (s, h) ({ s with held := held }, h) :=
  ⟨rfl, rfl, rfl, rfl, rfl, rfl, rfl, fun _ => id, fun _ => .inl rfl, id, fun _ => id, fun _ => id,
    fun _ _ => id⟩

end Work

/-! ### The holder of the lock -/

section Holder

variable {w : Who Op} {s : Devices × History} {l l' : Places} {n : Name} {early keep : Bool}
  {k d : ℕ} {α : Type}

lemma safe_perform {f : Bool → Devices → α × Devices} {Q : Bool → α → Devices × History → Prop}
    (hn : ∀ o s h, note ⟨w, o, n⟩ s h = h) (hbuilt : ∀ coin s, (f coin s).2.built = s.built)
    (h : ∀ s₁, Calm s s₁ → deviceCond ⟨w, some w, n⟩ s₁ = true → ∀ coin,
      Q true (f coin s₁.1).1 ((f coin s₁.1).2, s₁.2)) :
    Safe devices deviceRules w (.perform n f) true Q s := by
  refine Safe.perform fun s₁ hs₁ o ho hcond coin => ?_
  obtain rfl : o = some w := ho.1 rfl
  have hafter : devices.after w (some w) n s₁ (f coin s₁.1).2 = ((f coin s₁.1).2, s₁.2) :=
    Prod.ext rfl (hn _ _ _)
  rw [hafter]
  exact ⟨⟨fun hne => absurd (hbuilt _ _) hne, trivial, fun hne => absurd rfl hne⟩,
    h s₁ hs₁ hcond coin⟩

lemma safe_load {r : Devices → α} {Q : Bool → α → Devices × History → Prop}
    (h : ∀ s₁, Calm s s₁ → Q true (r s₁.1) s₁) :
    Safe devices deviceRules w (.load .step r) true Q s :=
  Safe.load deviceRules_laws (fun _ _ => rfl) fun s₁ hs₁ _ _ _ => h s₁ hs₁

lemma safe_toss {Q : Bool → Bool → Devices × History → Prop}
    (h : ∀ s₁, Calm s s₁ → ∀ coin, Q true coin s₁) :
    Safe devices deviceRules w (.toss .step) true Q s :=
  Safe.toss deviceRules_laws (fun _ _ => rfl) h

lemma Clear.hand {s' : Devices} (h : Clear none s) (hs : Leaves d s.1 s') :
    Clear (some d) (s'.hand d keep, s.2) := by
  refine ⟨h.1, fun x hx => ?_⟩
  rcases h.2 x (hs.built ▸ hx) with hx | hx | hx
  · exact .inl (by simpa [Devices.hand, hs.closed] using hx)
  · rcases hs.placed x hx with rfl | hx
    · exact .inr (.inr rfl)
    · exact .inr (.inl hx)
  · exact absurd hx (by simp)

lemma Stands.log {g : History} (h : Stands l s) : Stands l (s.1, g) :=
  ⟨h.toShows, h.settled, h.sound, h.accounted⟩

lemma Stands.move {s' : Devices} (h : Stands l s) (hs : Keeps s.1 s')
    (hplaced : ∀ x, Placed s.1 x → Placed s' x) (hshows : Shows l' s')
    (hback : l'.handback = l.handback) : Stands l' (s', s.2) := by
  refine ⟨hshows, fun i hi => ?_, fun i => ?_, fun x hx => ?_⟩
  · simpa [hs.worker] using h.settled i (hback ▸ hi)
  · simpa [hs.worker] using h.sound i
  · rcases h.accounted x (hs.built ▸ hx) with hx | hx | hx
    · exact .inl (by simpa [hs.closed] using hx)
    · exact .inr (.inl (hplaced x hx))
    · exact .inr (.inr (by simpa [Held, hs.workers, hs.worker] using hx))

lemma Stands.hand {s' : Devices} (h : Stands l s) (hs : Leaves d s.1 s') (hshows : Shows l' s')
    (hback : ∀ i, l'.handback ≠ some i → l.handback ≠ some i ∧ (keep = false ∨ i ≠ s.1.workers)) :
    Stands l' (s'.hand d keep, s.2) where
  session := hshows.session
  provider := hshows.provider
  handedOff := hshows.handedOff
  kept := hshows.kept
  logUpload := hshows.logUpload
  slot := hshows.slot
  settled i hi := by
    obtain ⟨hold, hi⟩ := hback i hi
    exact settled_hand (by simpa [hs.worker] using h.settled i hold) (by rwa [hs.workers])
  sound := sound_hand (by simpa [hs.worker] using h.sound)
  accounted := h.accounted.hand hs

variable {Q : Bool → Unit → Devices × History → Prop}

lemma safe_runBounded (h : Stands l s)
    (hQ : ∀ s', Stands l s' → (early = true → Closes s.1 k d → Clear (some d) s → Clear none s')
    → Q true () s') : Safe devices deviceRules w (runBounded early k) true Q s := by
  refine Safe.bind (safe_perform (fun _ _ _ => rfl) (fun _ _ => rfl) fun s₁ hs₁ hcond _ => ?_)
  refine Safe.ite (fun hdone => ?_) fun hdone => ?_
  · refine hQ _ (h.calm hs₁) fun _ hcloses hclear => ?_
    have hclosed := (hs₁.closes k d hcloses).closed_of_isDone hdone
    obtain ⟨hswept, hclear⟩ := hclear.calm hs₁
    refine ⟨hswept, fun x hx => ?_⟩
    rcases hclear x hx with hx | hx | hx
    · exact .inl hx
    · exact .inr (.inl hx)
    · exact .inl (Option.some.inj hx ▸ hclosed)
  · refine safe_perform (fun _ _ _ => rfl) (fun _ _ => rfl) fun s₂ hs₂ _ _ => ?_
    refine hQ _ (((h.calm hs₁).calm hs₂).calm (calm_held _)) fun hearly _ _ => ?_
    -- a wait that a construction follows is not given up
    subst hearly
    exact absurd (by simpa [deviceCond] using hcond) hdone

lemma safe_handOver {get : Devices → Option ℕ} {clear : Devices → Devices}
    (hn : ∀ o s h, note ⟨w, o, n⟩ s h = h) (hclear : ∀ s d, get s = some d → Leaves d s (clear s))
    (h : Stands l s) {Q : Bool → Option ℕ → Devices × History → Prop}
    (hnone : ∀ s₁, Calm s s₁ → Stands l s₁ → get s₁.1 = none → Q true none s₁)
    (hsome : ∀ s₁ d, Calm s s₁ → Stands l s₁ → get s₁.1 = some d →
      Q true (some s₁.1.workers) ((clear s₁.1).hand d keep, s₁.2)) :
    Safe devices deviceRules w (handOver n keep get clear) true Q s := by
  refine safe_perform hn (fun _ s => ?_) fun s₁ hs₁ _ _ => ?_
  · cases hd : get s with
    | none => rfl
    | some d => exact (hclear s d hd).built
  · cases hd : get s₁.1 with
    | none => exact hnone s₁ hs₁ (h.calm hs₁) hd
    | some d => exact hsome s₁ d hs₁ (h.calm hs₁) hd

lemma safe_retire (l' : Places) {get : Devices → Option ℕ} {clear : Devices → Devices}
    (hn : ∀ o s h, note ⟨w, o, n⟩ s h = h) (hclear : ∀ s d, get s = some d → Leaves d s (clear s))
    (h : Stands l s) (hempty : ∀ s₁, Shows l s₁ → get s₁ = none → Shows l' s₁)
    (hshows : ∀ s₁, Shows l s₁ → Shows l' (clear s₁)) (hback : l'.handback = l.handback)
    (hQ : ∀ s', Stands l' s' → (early = true → Clear none s → Clear none s') → Q true () s') :
    Safe devices deviceRules w (handOver n false get clear >>= awaitWorker early) true Q s := by
  refine Safe.bind (safe_handOver hn hclear h (fun s₁ hs₁ hstands hd => ?_)
    fun s₁ d hs₁ hstands hd => ?_)
  · refine hQ s₁ ⟨hempty s₁.1 hstands.toShows hd, ?_, hstands.sound, hstands.accounted⟩
      fun _ hclear => hclear.calm hs₁
    rw [hback]
    exact hstands.settled
  · have hleaves := hclear s₁.1 d hd
    refine safe_runBounded (d := d) (hstands.hand hleaves (hshows s₁.1 hstands.toShows) ?_)
      fun s' hs' hclosed => hQ s' hs' fun hearly hclear => ?_
    · intro i hi
      exact ⟨hback ▸ hi, .inl rfl⟩
    · refine hclosed hearly ?_ ((hclear.calm hs₁).hand hleaves)
      rw [← hleaves.workers]
      exact closes_hand d

lemma safe_retireProviderDeviceLocked (h : Stands l s)
    (hQ : ∀ s', Stands { l with provider := none } s' → (early = true → Clear none s → Clear none
    s') → Q true () s') :
    Safe devices deviceRules w (retireProviderDeviceLocked early) true Q s := by
  refine safe_retire { l with provider := none } (fun _ _ _ => rfl) (fun s d => leaves_provider) h
    (fun s₁ hs hd => ?_) (fun s₁ hs => ?_) rfl hQ
  · exact { hs with provider := hd }
  · exact ⟨hs.session, rfl, hs.handedOff, hs.kept, hs.logUpload, hs.slot⟩

lemma safe_closeHandedOffDeviceLocked (h : Stands l s)
    (hQ : ∀ s', Stands { l with handedOff := none } s' → Q true () s') :
    Safe devices deviceRules w closeHandedOffDeviceLocked true Q s := by
  refine safe_retire { l with handedOff := none } (fun _ _ _ => rfl) (fun s d => leaves_handedOff) h
    (fun s₁ hs hd => ?_) (fun s₁ hs => ?_) rfl fun s' hs' _ => hQ s' hs'
  · exact { hs with handedOff := hd }
  · exact ⟨hs.session, hs.provider, rfl, hs.kept, hs.logUpload, hs.slot⟩

lemma safe_closeLogUploadDevice {j : ℕ} (h : Stands l s) (hj : ∀ i, l.slot = some i → i = j)
    (hQ : ∀ s', Stands { l with slot := none } s' → (early = true → Clear none s → Clear none s')
    → Q true () s') : Safe devices deviceRules w (closeLogUploadDevice early j) true Q s := by
  have hother : ∀ {s₁ : Devices}, Shows l s₁ → ∀ i ≠ j, ∀ d, s₁.slot i ≠ some d :=
    fun hs i hi d hd => hi (hj i (hs.slot i d hd))
  refine safe_retire { l with slot := none } (fun _ _ _ => rfl) (fun s d => leaves_slot) h
    (fun s₁ hs hd => ?_) (fun s₁ hs => ?_) rfl hQ
  · refine { hs with slot := fun i x hx => ?_ }
    rcases eq_or_ne i j with rfl | hi
    · exact absurd (hd.symm.trans hx) (by simp)
    · exact absurd hx (hother hs i hi x)
  · refine ⟨hs.session, hs.provider, hs.handedOff, hs.kept, hs.logUpload, fun i x hx => ?_⟩
    rcases eq_or_ne i j with rfl | hi
    · exact absurd hx (by simp)
    · exact absurd (by simpa [Function.update_of_ne hi] using hx) (hother hs i hi x)

lemma safe_resetLogUpload (h : Stands l s)
    (hQ : ∀ s', Stands { l with logUpload := none } s' → (Clear none s → Clear none s') → Q true
    () s') : Safe devices deviceRules w resetLogUpload true Q s := by
  refine safe_perform (fun _ _ _ => rfl) (fun _ _ => rfl) fun s₁ hs₁ _ _ => ?_
  have h₁ := h.calm hs₁
  refine hQ _ (h₁.move ⟨rfl, rfl, rfl, rfl⟩ (fun _ => id)
    ⟨h₁.session, h₁.provider, h₁.handedOff, h₁.kept, rfl, h₁.slot⟩ rfl) fun hclear => ?_
  obtain ⟨hswept, hclear⟩ := hclear.calm hs₁
  exact ⟨hswept, hclear⟩

lemma safe_retireLogUploadDeviceLocked (h : Stands l s) (hl : l.slot = l.logUpload)
    (hQ : ∀ s', Stands { l with slot := none, logUpload := none } s' → (early = true → Clear none
    s → Clear none s') → Q true () s') :
    Safe devices deviceRules w (retireLogUploadDeviceLocked early) true Q s := by
  refine Safe.bind (safe_load fun s₁ hs₁ => ?_)
  have h₁ := h.calm hs₁
  cases hj : s₁.1.logUpload with
  | none =>
    have hnone : l.logUpload = none := h₁.logUpload.symm.trans hj
    refine hQ s₁ ?_ fun _ hclear => hclear.calm hs₁
    refine { h₁ with logUpload := hj, slot := fun i d hd => ?_ }
    exact absurd (h₁.slot i d hd) (by simp [hl, hnone])
  | some j =>
    have hsome : l.logUpload = some j := h₁.logUpload.symm.trans hj
    refine Safe.bind (safe_closeLogUploadDevice h₁ (fun i hi => ?_) fun s₂ h₂ hclear₂ => ?_)
    · rw [hl, hsome] at hi
      exact (Option.some.inj hi).symm
    · refine safe_resetLogUpload h₂ fun s₃ h₃ hclear₃ => hQ s₃ h₃ fun hearly hclear => ?_
      exact hclear₃ (hclear₂ hearly (hclear.calm hs₁))

/-! ### Stopping -/

/-- The handback ends: the worker that was told to keep its device has none left to
give. -/
lemma safe_takeBack (h : Stands { l with handback := some k } s) (hkept : l.kept = none)
    (hQ : ∀ s' d, Stands { l with kept := d } s' → Q true () s') :
    Safe devices deviceRules w (takeBack k) true Q s := by
  refine safe_perform (fun _ _ _ => rfl) (fun _ s => ?_) fun s₁ hs₁ _ _ => ?_
  · cases hd : (s.worker k).kept <;> simp [hd, Devices.setWorker]
  have h₁ := h.calm hs₁
  dsimp only
  split
  · next d hd =>
    refine hQ _ (some d) ⟨⟨h₁.session, h₁.provider, h₁.handedOff, rfl, h₁.logUpload, h₁.slot⟩,
      fun i _ => ?_, fun i => ?_, fun x hx => ?_⟩
    · rcases eq_or_ne i k with rfl | hi
      · have hran : (s₁.1.worker i).phase ≠ .running := fun hphase =>
          absurd (((h₁.sound i).1 hphase).symm.trans hd) (by simp)
        simp [Devices.setWorker, Worker.Settled, hran]
      · simpa [Devices.setWorker, Function.update_of_ne hi] using
          h₁.settled i (by simpa using Ne.symm hi)
    · rcases eq_or_ne i k with rfl | hi
      · simpa [Devices.setWorker, Worker.Sound] using (h₁.sound i).2
      · simpa [Devices.setWorker, Function.update_of_ne hi] using h₁.sound i
    · rcases h₁.accounted x hx with hx | hx | ⟨i, hi, hheld⟩
      · exact .inl hx
      · rcases hx with hx | hx | hx | hx | hx
        · exact .inr (.inl (.inl hx))
        · exact .inr (.inl (.inr (.inl hx)))
        · exact .inr (.inl (.inr (.inr (.inl hx))))
        · exact absurd ((h₁.kept.trans hkept).symm.trans hx) (by simp)
        · exact .inr (.inl (.inr (.inr (.inr (.inr hx)))))
      · rcases eq_or_ne i k with rfl | hne
        · rcases hheld with hheld | hheld
          · exact .inr (.inr ⟨i, hi, .inl (by simpa [Devices.setWorker] using hheld)⟩)
          · exact .inr (.inl (.inr (.inr (.inr (.inl (hd.symm.trans hheld))))))
        · refine .inr (.inr ⟨i, hi, ?_⟩)
          simpa [Devices.setWorker, Function.update_of_ne hne] using hheld
  · next hd =>
    have h₂ := h₁.calm (calm_update (k := k) (v := { s₁.1.worker k with abandoned := true })
      (fun _ => id) id (fun hs => ⟨hs.1, fun _ => .inl rfl⟩) rfl (fun x hx => .inr (.inl hx))
      fun _ _ => id)
    refine hQ _ none { h₂ with kept := h₂.kept.trans hkept, settled := fun i _ => ?_ }
    rcases eq_or_ne i k with rfl | hi
    · simpa [Devices.setWorker, Worker.Settled] using hd
    · exact h₂.settled i (by simpa using Ne.symm hi)

/-- The teardown leaves the session's slot empty, and a device comes back only where
it was to be kept. -/
lemma safe_tearDownSessionLocked (h : Stands l s) (hkept : l.kept = none)
    (hback : l.handback = none)
    (hQ : ∀ s' d, (keep = false → d = none) → Stands { l with session := none, kept := d } s' → Q
    true () s') : Safe devices deviceRules w (tearDownSessionLocked keep) true Q s := by
  refine Safe.bind (safe_handOver (fun _ _ _ => rfl) (fun s d => leaves_session) h
    (fun s₁ _ h₁ hd => ?_) fun s₁ d _ h₁ hd => ?_)
  · exact hQ s₁ none (fun _ => rfl) { h₁ with session := hd, kept := h₁.kept.trans hkept }
  have hleaves := leaves_session hd
  cases keep with
  | false =>
    have hshows : Shows { l with session := none } { s₁.1 with session := none } :=
      ⟨rfl, h₁.provider, h₁.handedOff, h₁.kept, h₁.logUpload, h₁.slot⟩
    refine Safe.bind (safe_runBounded (d := d) (h₁.hand hleaves hshows fun i hi => ⟨hi, .inl rfl⟩)
      fun s₂ h₂ _ => hQ s₂ none (fun _ => rfl) ?_)
    exact { h₂ with kept := h₂.kept.trans hkept }
  | true =>
    have hshows : Shows { l with session := none, handback := some s₁.1.workers }
        { s₁.1 with session := none } :=
      ⟨rfl, h₁.provider, h₁.handedOff, h₁.kept, h₁.logUpload, h₁.slot⟩
    have hsettled : ∀ i, some s₁.1.workers ≠ some i →
        l.handback ≠ some i ∧ (true = false ∨ i ≠ s₁.1.workers) := fun i hi =>
      ⟨by simp [hback], .inr fun heq => hi (congrArg some heq.symm)⟩
    refine Safe.bind (safe_runBounded (d := d) (h₁.hand hleaves hshows hsettled) fun s₂ h₂ _ => ?_)
    exact safe_takeBack (l := { l with session := none }) h₂ hkept fun s₃ x h₃ =>
      hQ s₃ x (by simp) h₃

lemma safe_resumeProvidingLocked (h : Stands l s) (hl : l.provider = none)
    (hQ : ∀ s' d, Stands { l with provider := d, kept := none } s' → Q true () s') :
    Safe devices deviceRules w resumeProvidingLocked true Q s := by
  refine Safe.bind (safe_toss fun s₁ hs₁ threw => ?_)
  refine Safe.bind (safe_perform (fun _ _ _ => rfl) (fun _ _ => rfl) fun s₂ hs₂ _ _ => ?_)
  have h₂ := (h.calm hs₁).calm hs₂
  have hmoved : Stands { l with provider := l.kept, kept := none }
      ({ s₂.1 with provider := s₂.1.kept, kept := none }, s₂.2) := by
    refine h₂.move ⟨rfl, rfl, rfl, rfl⟩ (fun x hx => ?_)
      ⟨h₂.session, h₂.kept, h₂.handedOff, rfl, h₂.logUpload, h₂.slot⟩ rfl
    rcases hx with hx | hx | hx | hx | hx
    · exact .inl hx
    · exact absurd ((h₂.provider.trans hl).symm.trans hx) (by simp)
    · exact .inr (.inr (.inl hx))
    · exact .inr (.inl hx)
    · exact .inr (.inr (.inr (.inr hx)))
  refine Safe.ite (fun _ => ?_) fun _ => hQ _ _ hmoved
  exact safe_retireProviderDeviceLocked hmoved fun s₃ h₃ _ => hQ s₃ none h₃

/-- A stop empties every slot but the one of a start that is under way; a disconnect
may keep the provider's. -/
lemma safe_stopLocked {disconnect : Bool} {se pr ha up : Option ℕ}
    (h : Stands { session := se, provider := pr, handedOff := ha, logUpload := up, slot := up } s)
    (hQ : ∀ s' d, (disconnect = false → d = none) → Stands { provider := d, handedOff := ha } s'
    → Q true () s') : Safe devices deviceRules w (stopLocked disconnect) true Q s := by
  refine Safe.bind (safe_retireProviderDeviceLocked h fun s₁ h₁ _ => ?_)
  refine Safe.bind (safe_retireLogUploadDeviceLocked h₁ rfl fun s₂ h₂ _ => ?_)
  refine Safe.bind (safe_perform (fun _ _ _ => rfl) (fun _ s => ?_) fun s₃ hs₃ _ provides => ?_)
  · dsimp only
    split <;> rfl
  have h₃ : Stands { session := se, handedOff := ha }
      (if disconnect && s₃.1.session.isSome then { s₃.1 with held := s₃.1.outstanding } else s₃.1,
        s₃.2) := by
    split
    · exact (h₂.calm hs₃).calm (calm_held _)
    · exact h₂.calm hs₃
  refine Safe.bind (safe_tearDownSessionLocked h₃ rfl rfl fun s₄ d hd h₄ => ?_)
  refine Safe.bind (safe_load fun s₅ hs₅ => ?_)
  have h₅ := h₄.calm hs₅
  refine Safe.ite (fun hback => ?_) fun hback => ?_
  · refine safe_resumeProvidingLocked h₅ rfl fun s₆ x h₆ => hQ s₆ x (fun hstop => ?_) h₆
    -- without a disconnect nothing is kept
    rw [h₅.kept, hd (by simp [hstop])] at hback
    exact absurd hback (by simp)
  · refine hQ s₅ none (fun _ => rfl) { h₅ with kept := ?_ }
    simpa using hback

/-! ### Constructing -/

lemma Stands.install {s' : Devices} {g : History} (h : Stands l s) (hall : AllClosed s.1)
    (hbuilt : s'.built = s.1.built + 1) (hclosed : s'.closed = s.1.closed)
    (hworker : s'.worker = s.1.worker) (hplaced : Placed s' s.1.built) (hshows : Shows l' s')
    (hback : l'.handback = l.handback) : Stands l' (s', g) := by
  refine ⟨hshows, fun i hi => ?_, fun i => ?_, fun x hx => ?_⟩
  · simpa [hworker] using h.settled i (hback ▸ hi)
  · simpa [hworker] using h.sound i
  · rcases Nat.lt_succ_iff_lt_or_eq.1 (hbuilt ▸ hx) with hx | rfl
    · exact .inl (by simpa [hclosed] using hall x hx)
    · exact .inr (.inl hplaced)

lemma safe_newDeviceLocked (l' : ℕ → Places) {install : ℕ → Devices → Devices} (h : Stands l s)
    (hall : AllClosed s.1)
    (hinstall : ∀ s₁, Stands l s₁ → AllClosed s₁.1 →
      Stands (l' s₁.1.built) (install s₁.1.built { s₁.1 with built := s₁.1.built + 1 }, {}))
    {Q : Bool → Bool → Devices × History → Prop} (hthrew : ∀ s', Stands l s' → Q true false s')
    (hok : ∀ s' d, Stands (l' d) s' → Q true true s') :
    Safe devices deviceRules w (newDeviceLocked install) true Q s := by
  refine Safe.bind (safe_toss fun s₁ hs₁ threw => ?_)
  refine Safe.ite (fun _ => hthrew s₁ (h.calm hs₁)) fun _ => ?_
  refine Safe.bind (safe_toss fun s₂ hs₂ lost => ?_)
  have h₂ := (h.calm hs₁).calm hs₂
  have hall₂ := (hall.calm hs₁).calm hs₂
  refine Safe.ite (fun _ => Safe.bind (Safe.perform fun s₃ _ o _ hcond _ => ?_)) fun _ => ?_
  · -- a construction whose device is thrown away is ruled out
    exact absurd hcond (by simp [deviceRules, deviceCond])
  refine Safe.bind (Safe.perform fun s₃ hs₃ o ho _ _ => ⟨?_, ?_⟩)
  · exact ⟨fun _ => hall₂.calm hs₃, trivial, fun hne => absurd (ho.1 rfl) hne⟩
  · exact hok _ s₃.1.built (hinstall s₃ (h₂.calm hs₃) (hall₂.calm hs₃))

lemma safe_sweep (h : Stands l s) (hback : l.handback = none)
    {Q : Bool → ℕ → Devices × History → Prop}
    (hQ : ∀ s' n, Stands l s' →
      (n = 0 → (w.kind = .startProvider → l.session = none) → Clear none s') → Q true n s') :
    Safe devices deviceRules w (sweep .sweep) true Q s := by
  refine Safe.perform fun s₁ hs₁ o ho hcond _ => ⟨?_, hQ _ _ ?_ fun hnone hfree => ?_⟩
  · exact ⟨fun hne => absurd rfl hne, trivial, fun hne => absurd (ho.1 rfl) hne⟩
  · exact ((h.calm hs₁).calm (calm_held s₁.1.outstanding)).log
  have h₁ := h.calm hs₁
  have hout : s₁.1.outstanding = [] := List.length_eq_zero_iff.1 hnone
  have hgoes : goesOn w.kind s₁.1 = true := by
    by_cases hw : w.kind = .startProvider
    · simp [goesOn, hout, h₁.session, hfree hw]
    · simp [goesOn, hout, hw]
  have hcounted : s₁.1.counted = true := by
    simpa [deviceRules, deviceCond, hgoes] using hcond
  -- a worker that was left behind is done, and the others have no device
  have hgone : ∀ k < s₁.1.workers, (s₁.1.worker k).device = none := by
    intro k hk
    have hor : (s₁.1.worker k).device = none ∨ k ∈ s₁.1.held ∧ s₁.1.isDone k = false := by
      simpa using List.all_eq_true.1 hcounted k (List.mem_range.2 hk)
    refine hor.resolve_right fun hheld => ?_
    have hmem : k ∈ s₁.1.outstanding := List.mem_filter.2 ⟨hheld.1, by simp [hheld.2]⟩
    exact absurd hmem (by simp [hout])
  refine ⟨hgoes, fun d hd => ?_⟩
  rcases h₁.accounted d hd with hd | hd | ⟨k, hk, hd | hd⟩
  · exact .inl hd
  · exact .inr (.inl hd)
  · exact absurd ((hgone k hk).symm.trans hd) (by simp)
  · exact absurd ((h₁.settled k (by simp [hback])).1.symm.trans hd) (by simp)

lemma safe_sessionDevice {ha : Option ℕ} (h : Stands { handedOff := ha } s)
    (hclear : Clear none s) (hQ : ∀ s' se, Stands { session := se } s' → Q true () s') :
    Safe devices deviceRules w sessionDevice true Q s := by
  have hend : ∀ {ok : Bool} {se : Option ℕ} {s : Devices × History}, Stands { session := se } s →
      Safe devices deviceRules w (do
        let fails ← .toss .step
        if ok && !fails then pure () else stopLocked false) true Q s := by
    intro ok se s h
    refine Safe.bind (safe_toss fun s₁ hs₁ fails => ?_)
    refine Safe.ite (fun _ => hQ s₁ se (h.calm hs₁)) fun _ => ?_
    refine safe_stopLocked (h.calm hs₁) fun s₂ d hd h₂ => hQ s₂ none ?_
    rwa [hd rfl] at h₂
  refine Safe.bind (safe_perform (fun _ _ _ => rfl) (fun _ s => ?_) fun s₁ hs₁ _ _ => ?_)
  · dsimp only
    split <;> rfl
  have h₁ := h.calm hs₁
  have hclear₁ := hclear.calm hs₁
  refine Safe.bind (Safe.orElse (fun htaken => ?_) fun htaken => ?_)
  · replace htaken : s₁.1.handedOff.isSome = true := htaken
    rw [if_pos htaken]
    refine hend (h₁.move ⟨rfl, rfl, rfl, rfl⟩ (fun x hx => ?_)
      ⟨h₁.handedOff, h₁.provider, rfl, h₁.kept, h₁.logUpload, h₁.slot⟩ rfl)
    rcases hx with hx | hx | hx | hx
    · exact absurd (h₁.session.symm.trans hx) (by simp)
    · exact .inr (.inl hx)
    · exact .inl hx
    · exact .inr (.inr (.inr hx))
  · replace htaken : s₁.1.handedOff.isSome = false := htaken
    rw [if_neg (by simp [htaken])]
    obtain rfl : ha = none := h₁.handedOff.symm.trans (by simpa using htaken)
    refine safe_newDeviceLocked (fun d => { session := some d }) h₁ (hclear₁.allClosed h₁)
      (fun s₂ h₂ hall => ?_) (fun s₂ h₂ => hend h₂) fun s₂ d h₂ => hend h₂
    exact h₂.install hall rfl rfl rfl (.inl rfl)
      ⟨rfl, h₂.provider, h₂.handedOff, h₂.kept, h₂.logUpload, h₂.slot⟩ rfl

lemma safe_startLocked (h : Given s) (hQ : ∀ s', Given s' → Q true () s') :
    Safe devices deviceRules w startLocked true Q s := by
  obtain ⟨se, pr, up, h⟩ := h
  refine Safe.bind (safe_perform (fun _ _ _ => rfl) (fun promotes s => ?_)
    fun s₁ hs₁ _ promotes => ?_)
  · dsimp only
    split <;> rfl
  have h₁ := h.calm hs₁
  -- the provider's device leaves its slot for the start's
  obtain ⟨pr', ha, hpromoted⟩ : ∃ pr' ha, Stands
      { session := se, provider := pr', handedOff := ha, logUpload := up, slot := up }
      (if promotes then { s₁.1 with handedOff := s₁.1.provider, provider := none } else s₁.1,
        s₁.2) := by
    cases promotes with
    | false => exact ⟨pr, none, h₁⟩
    | true =>
      refine ⟨none, pr, h₁.move ⟨rfl, rfl, rfl, rfl⟩ (fun x hx => ?_)
        ⟨h₁.session, rfl, h₁.provider, h₁.kept, h₁.logUpload, h₁.slot⟩ rfl⟩
      rcases hx with hx | hx | hx | hx
      · exact .inl hx
      · exact .inr (.inr (.inl hx))
      · exact absurd (h₁.handedOff.symm.trans hx) (by simp)
      · exact .inr (.inr (.inr hx))
  have hclose : ∀ {se ha : Option ℕ} {s : Devices × History},
      Stands { session := se, handedOff := ha } s →
      Safe devices deviceRules w closeHandedOffDeviceLocked true Q s := fun h =>
    safe_closeHandedOffDeviceLocked h fun s' h' => hQ s' ⟨_, _, _, h'⟩
  refine Safe.bind (safe_stopLocked hpromoted fun s₂ d hd h₂ => ?_)
  rw [hd rfl] at h₂
  refine Safe.bind (safe_toss fun s₃ hs₃ restarting => ?_)
  have h₃ := h₂.calm hs₃
  refine Safe.ite (fun _ => hclose h₃) fun _ => ?_
  refine Safe.bind (safe_sweep h₃ rfl fun s₄ n h₄ hclear => ?_)
  refine Safe.ite (fun _ => hclose h₄) fun hn => ?_
  refine Safe.bind (safe_toss fun s₅ hs₅ threw => ?_)
  have h₅ := h₄.calm hs₅
  refine Safe.ite (fun _ => ?_) fun _ => ?_
  · refine Safe.bind (safe_stopLocked h₅ fun s₆ d hd h₆ => ?_)
    rw [hd rfl] at h₆
    exact hclose h₆
  · have hclear₅ := (hclear (not_not.1 hn) fun _ => rfl).calm hs₅
    exact Safe.bind (safe_sessionDevice h₅ hclear₅ fun s₆ se h₆ => hclose h₆)

lemma safe_buildProvider (h : Stands {} s) (hclear : Clear none s)
    (hQ : ∀ s', Given s' → Q true () s') : Safe devices deviceRules w buildProvider true Q s := by
  have hretire : ∀ {pr : Option ℕ} {s : Devices × History}, Stands { provider := pr } s →
      Safe devices deviceRules w (retireProviderDeviceLocked false) true Q s := fun h =>
    safe_retireProviderDeviceLocked h fun s' h' _ => hQ s' ⟨_, _, _, h'⟩
  have hend : ∀ {ok : Bool} {pr : Option ℕ} {s : Devices × History}, Stands { provider := pr } s →
      Safe devices deviceRules w (do
        let fails ← .toss .step
        if ok && !fails then pure () else retireProviderDeviceLocked false) true Q s := by
    intro ok pr s h
    refine Safe.bind (safe_toss fun s₁ hs₁ fails => ?_)
    exact Safe.ite (fun _ => hQ s₁ ⟨_, _, _, h.calm hs₁⟩) fun _ => hretire (h.calm hs₁)
  refine Safe.bind (safe_toss fun s₁ hs₁ threw => ?_)
  have h₁ := h.calm hs₁
  refine Safe.ite (fun _ => hretire h₁) fun _ => ?_
  refine Safe.bind (safe_newDeviceLocked (fun d => { provider := some d }) h₁
    ((hclear.calm hs₁).allClosed h₁) (fun s₂ h₂ hall => ?_) (fun s₂ h₂ => hend h₂)
    fun s₂ d h₂ => hend h₂)
  exact h₂.install hall rfl rfl rfl (.inr (.inl rfl))
    ⟨h₂.session, rfl, h₂.handedOff, h₂.kept, h₂.logUpload, h₂.slot⟩ rfl

lemma safe_startProviderLocked (h : Given s) (hQ : ∀ s', Given s' → Q true () s') :
    Safe devices deviceRules w startProviderLocked true Q s := by
  obtain ⟨se, pr, up, h⟩ := h
  refine Safe.bind (safe_load fun s₁ hs₁ => ?_)
  have h₁ := h.calm hs₁
  refine Safe.bind (safe_sweep h₁ rfl fun s₂ n h₂ hclear => ?_)
  refine Safe.bind (safe_toss fun s₃ hs₃ refused => ?_)
  have h₃ := h₂.calm hs₃
  refine Safe.ite (fun _ => hQ s₃ ⟨_, _, _, h₃⟩) fun hgo => ?_
  obtain ⟨hsession, rfl⟩ : s₁.1.session = none ∧ n = 0 := by
    simp only [Bool.or_eq_true, decide_eq_true_eq, not_or] at hgo
    exact ⟨by simpa using hgo.1.1, by simpa using hgo.1.2⟩
  obtain rfl : se = none := h₁.session.symm.trans hsession
  refine Safe.bind (safe_perform (fun _ _ _ => rfl) (fun _ _ => rfl) fun s₄ hs₄ _ same => ?_)
  have h₄ := h₃.calm hs₄
  have hclear₄ := ((hclear rfl fun _ => rfl).calm hs₃).calm hs₄
  refine Safe.ite (fun _ => hQ s₄ ⟨_, _, _, h₄⟩) fun _ => ?_
  refine Safe.bind (safe_retireProviderDeviceLocked h₄ fun s₅ h₅ hclear₅ => ?_)
  refine Safe.bind (safe_retireLogUploadDeviceLocked h₅ rfl fun s₆ h₆ hclear₆ => ?_)
  exact safe_buildProvider h₆ (hclear₆ rfl (hclear₅ rfl hclear₄)) hQ

lemma safe_buildLogUpload (h : Stands {} s) (hclear : Clear none s)
    (hQ : ∀ s', Given s' → Q true () s') : Safe devices deviceRules w buildLogUpload true Q s := by
  refine Safe.bind (safe_toss fun s₁ hs₁ threw => ?_)
  have h₁ := h.calm hs₁
  have hall₁ := (hclear.calm hs₁).allClosed h₁
  refine Safe.ite (fun _ => ?_) fun _ => ?_
  · exact safe_resetLogUpload h₁ fun s₂ h₂ _ => hQ s₂ ⟨_, _, _, h₂⟩
  refine Safe.bind (safe_perform (fun _ _ _ => rfl) (fun _ _ => rfl) fun s₂ hs₂ _ _ => ?_)
  have h₂ := h₁.calm hs₂
  generalize s₂.1.slots = j
  dsimp only
  have hend : ∀ {ok : Bool} {up : Option ℕ} {s : Devices × History}, Stands { slot := up } s →
      (∀ i, up = some i → i = j) →
      Safe devices deviceRules w (do
        let fails ← .toss .step
        if ok && !fails then .store .step fun s => { s with logUpload := some j }
        else do
          closeLogUploadDevice false j
          resetLogUpload) true Q s := by
    intro ok up s h hj
    refine Safe.bind (safe_toss fun s₁ hs₁ fails => ?_)
    have h₁ := h.calm hs₁
    refine Safe.ite (fun _ => ?_) fun _ => ?_
    · refine safe_perform (fun _ _ _ => rfl) (fun _ _ => rfl) fun s₂ hs₂ _ _ => ?_
      have h₂ := h₁.calm hs₂
      refine hQ _ ⟨none, none, some j, h₂.move ⟨rfl, rfl, rfl, rfl⟩ (fun _ => id)
        ⟨h₂.session, h₂.provider, h₂.handedOff, h₂.kept, rfl, fun i d hd => ?_⟩ rfl⟩
      exact congrArg some (hj i (h₂.slot i d hd)).symm
    · refine Safe.bind (safe_closeLogUploadDevice h₁ hj fun s₂ h₂ _ => ?_)
      exact safe_resetLogUpload h₂ fun s₃ h₃ _ => hQ s₃ ⟨_, _, _, h₃⟩
  have hnext : Stands {} ({ s₂.1 with slots := j + 1 }, s₂.2) :=
    h₂.move ⟨rfl, rfl, rfl, rfl⟩ (fun _ => id)
      ⟨h₂.session, h₂.provider, h₂.handedOff, h₂.kept, h₂.logUpload, h₂.slot⟩ rfl
  have hall₂ := hall₁.calm hs₂
  refine Safe.bind (safe_newDeviceLocked (fun _ => { slot := some j }) hnext hall₂
    (fun s₃ h₃ hall => ?_) (fun s₃ h₃ => hend h₃ (by simp)) fun s₃ _ h₃ => hend h₃ (by simp))
  refine h₃.install hall rfl rfl rfl (.inr (.inr (.inr (.inr ⟨j, Function.update_self _ _ _⟩))))
    ⟨h₃.session, h₃.provider, h₃.handedOff, h₃.kept, h₃.logUpload, fun i d hd => ?_⟩ rfl
  rcases eq_or_ne i j with rfl | hne
  · rfl
  · exact absurd (h₃.slot i d (by simpa [Function.update_of_ne hne] using hd)) (by simp)

lemma safe_uploadLogsLocked (h : Given s) (hQ : ∀ s', Given s' → Q true () s') :
    Safe devices deviceRules w uploadLogsLocked true Q s := by
  obtain ⟨se, pr, up, h⟩ := h
  refine Safe.bind (safe_load fun s₁ hs₁ => ?_)
  have h₁ := h.calm hs₁
  refine Safe.bind (safe_toss fun s₂ hs₂ busy => ?_)
  have h₂ := h₁.calm hs₂
  refine Safe.ite (fun _ => hQ s₂ ⟨_, _, _, h₂⟩) fun hruns => ?_
  obtain ⟨hsession, hprovider⟩ : s₁.1.session = none ∧ s₁.1.provider = none := by
    simp only [Bool.or_eq_true, not_or] at hruns
    exact ⟨by simpa using hruns.1.1, by simpa using hruns.1.2⟩
  obtain rfl : se = none := h₁.session.symm.trans hsession
  obtain rfl : pr = none := h₁.provider.symm.trans hprovider
  refine Safe.bind (safe_sweep h₂ rfl fun s₃ n h₃ hclear => ?_)
  refine Safe.bind (safe_toss fun s₄ hs₄ refused => ?_)
  have h₄ := h₃.calm hs₄
  refine Safe.ite (fun _ => hQ s₄ ⟨_, _, _, h₄⟩) fun hgo => ?_
  obtain rfl : n = 0 := by
    simp only [Bool.or_eq_true, decide_eq_true_eq, not_or] at hgo
    simpa using hgo.1
  have hclear₄ := (hclear rfl fun _ => rfl).calm hs₄
  refine Safe.bind (safe_retireLogUploadDeviceLocked h₄ rfl fun s₅ h₅ hclear₅ => ?_)
  exact safe_buildLogUpload h₅ (hclear₅ rfl hclear₄) hQ

end Holder

/-! ### Every run -/

section Runs

variable {w : Who Op} {s : Devices × History}

lemma safe_locked {timed : Bool} {p : Act Unit}
    (h : ∀ s, Given s →
      Safe devices deviceRules w p true (fun held _ s => held = true ∧ Given s) s) :
    Owes devices deviceRules w (locked timed p) false s := by
  refine Safe.bind ⟨⟨rfl, trivial⟩, fun s₁ _ => ⟨fun hgiven _ => ?_, fun _ o _ _ => ?_⟩⟩
  · refine ⟨deviceRules_laws.allows_refl none s₁, Safe.ite (fun _ => ?_) (by simp)⟩
    refine Safe.bind ((h s₁ hgiven).mono ?_)
    rintro held _ s₂ ⟨rfl, se, pr, up, h₂⟩
    refine ⟨rfl, fun s₃ hs₃ _ => ⟨⟨fun hne => absurd rfl hne, trivial, fun hne => absurd rfl hne⟩,
      ⟨se, pr, up, (h₂.calm hs₃).log⟩, rfl⟩⟩
  · exact ⟨deviceRules_laws.allows_refl o s₁, Safe.ite (by simp) fun _ => rfl⟩

lemma safe_waiter {j : ℕ} (hw : w.kind = .waiter j) :
    Owes devices deviceRules w (closeLogUploadDevice false j) false s := by
  refine Safe.bind (Safe.perform fun s₁ _ o _ hcond _ => ?_)
  dsimp only
  split
  · exact ⟨deviceRules_laws.allows_refl o s₁, rfl⟩
  next d hd =>
  have hfree : s₁.2.swept = false := by
    simpa [deviceRules, deviceCond, hw, hd] using hcond
  refine ⟨⟨fun hne => absurd rfl hne, trivial, fun _ => calm_take hd hfree⟩, ?_⟩
  refine Safe.bind (Safe.load deviceRules_laws (fun _ _ => rfl) fun s₂ _ _ _ _ => ?_)
  refine Safe.ite (fun _ => rfl) fun _ => Safe.perform fun s₃ _ o _ _ _ => ⟨?_, rfl⟩
  exact ⟨fun hne => absurd rfl hne, trivial, fun _ => calm_held _⟩

theorem safe_body (i : ℕ) (op : Op) (s : Devices × History) (_ : devices.may op s.1 = true) :
    Owes devices deviceRules ⟨i, op⟩ (body op) false s := by
  cases op with
  | start => exact safe_locked fun s hs => safe_startLocked hs fun s' hs' => ⟨rfl, hs'⟩
  | stop disconnect =>
    refine safe_locked fun s ⟨se, pr, up, hs⟩ => safe_stopLocked hs fun s' d _ hs' => ?_
    exact ⟨rfl, none, d, none, hs'⟩
  | startProvider =>
    exact safe_locked fun s hs => safe_startProviderLocked hs fun s' hs' => ⟨rfl, hs'⟩
  | stopProvider =>
    refine safe_locked fun s ⟨se, pr, up, hs⟩ =>
      safe_retireProviderDeviceLocked hs fun s' hs' _ => ?_
    exact ⟨rfl, se, none, up, hs'⟩
  | uploadLogs => exact safe_locked fun s hs => safe_uploadLogsLocked hs fun s' hs' => ⟨rfl, hs'⟩
  | waiter j => exact safe_waiter rfl
  | worker k =>
    intro s₁ _ _ o _ _ cleared
    have hcalm : Calm s₁ (s₁.1.work k cleared, s₁.2) := calm_work k cleared
    exact ⟨⟨fun hne => absurd hcalm.built hne, trivial, fun _ => hcalm⟩, rfl⟩

/-- Whenever a device is constructed, every device constructed earlier is closed. -/
def OneDevice (es : List (Transition Machine (Label Op))) : Prop :=
  ∀ t ∈ es, t.post.shared.built ≠ t.pre.shared.built →
    ∀ d < t.pre.shared.built, t.pre.shared.closed d = true

/-- **At most one device runs under the identity**, in every run whose steps meet
`deviceCond`. -/
theorem one_device {es : List (Transition Machine (Label Op))} {p : Machine}
    (hrun : devices.Runs (deviceCond · · = true) {} {} es p) : OneDevice es := by
  intro t ht hne
  have hgiven : Given ({}, {}) := by
    refine ⟨none, none, none, ⟨rfl, rfl, rfl, rfl, rfl, by simp⟩, fun k _ => ?_, fun k => ?_, ?_⟩
    · exact ⟨rfl, by simp⟩
    · exact ⟨fun _ => rfl, by simp⟩
    · exact fun d hd => absurd hd (Nat.not_lt_zero d)
  obtain ⟨-, hguar⟩ := Rules.sound deviceRules_laws safe_body hgiven hrun
  cases he : t.pre.event t.label with
  | none =>
    exact absurd (by rw [System.Runs.shared_eq hrun ht he]) hne
  | some e => exact hguar t ht e he hne

/-- A provider is replaced: the old device closes in time, and the new one is built. -/
theorem one_device_replaced :
    ∃ es p p', devices.Runs (deviceCond · · = true) {} {} (es ++ [⟨p, .run 1 false, p'⟩]) p' ∧
      p.shared.built = 1 ∧ p'.shared.built = 2 ∧ OneDevice (es ++ [⟨p, .run 1 false, p'⟩]) := by
  obtain ⟨es, p, p', hrun, hgood⟩ := System.exists_run (S := devices) (deviceCond · · = true) {} {}
    (.spawn .startProvider :: (List.replicate 13 (Label.run 0 false) ++
      Label.spawn .startProvider :: (List.replicate 6 (Label.run 1 false) ++
        [Label.spawn (.worker 0), .run 2 false, .spawn (.worker 0), .run 3 false,
          .spawn (.worker 0), .run 4 false] ++ List.replicate 5 (Label.run 1 false))))
    (.run 1 false) (fun p p' => p.shared.built = 1 && p'.shared.built = 2) (by decide +kernel)
  simp only [Bool.and_eq_true, decide_eq_true_eq] at hgood
  exact ⟨es, p, p', hrun, hgood.1, hgood.2, one_device hrun⟩

/-- `StartProvider` for another device goes on when the old one does not close in
time, and builds a second device beside it. -/
theorem two_devices_after_expired_close :
    ¬ ∀ es p, devices.Runs (fun _ _ => True) {} {} es p → OneDevice es := by
  intro h
  obtain ⟨es, p, p', hrun, hgood⟩ := System.exists_run (S := devices) (fun _ _ => True) {} {}
    (.spawn .startProvider :: (List.replicate 13 (Label.run 0 false) ++
      Label.spawn .startProvider :: List.replicate 12 (Label.run 1 false))) (.run 1 false)
    (fun p p' => p.shared.built = 1 && p'.shared.built = 2 && !p.shared.closed 0)
    (by decide +kernel)
  simp only [Bool.and_eq_true, decide_eq_true_eq, Bool.not_eq_true'] at hgood
  obtain ⟨⟨hpre, hpost⟩, hopen⟩ := hgood
  have hclosed := h _ p' hrun ⟨p, .run 1 false, p'⟩ (by simp) (by simp [hpre, hpost]) 0
    (by simp [hpre])
  exact absurd (hopen.symm.trans hclosed) (by simp)

end Runs

end UrnetworkWindows.Controller.Device
