/-
The device handles of the split-tunnel client (`SplitTunnelClient.h`, `.cpp`), over the
sessions of the controller.

The controller has one client.  The prepare stage of a capture attempt opens it, a teardown
moves it out into a client of its own, which a worker closes, and the next session starts
with the empty client that is left.  `Open` writes its handle over the one the client holds,
and over that one it also writes the null handle when it fails.

The driver lets its device be opened any number of times.  `one_handle` says what holds of
the handles when no client is opened that holds one; `open_leaks`, that in any run a handle
that is written over stays open whatever follows.
-/
import Mathlib.Data.List.Nodup
import Mathlib.Data.List.Perm.Basic
import Mathlib.Tactic

namespace UrnetworkWindows.SplitTunnel

/-- A handle to the device: the session that opened it, and a number of its own. -/
structure Handle where
  session : ℕ
  id : ℕ
deriving DecidableEq, Repr

/-- The clients, and the handles that are open. -/
structure Handles where
  /-- The session of the controller's client. -/
  session : ℕ := 0
  /-- `device_` of the controller's client. -/
  device : Option Handle := none
  /-- The clients that were moved out and are not closed yet, each with its session. -/
  moved : List (ℕ × Option Handle) := []
  openHandles : List Handle := []
  /-- How many handles there were. -/
  opened : ℕ := 0
deriving DecidableEq, Repr

/-- What is done to the clients. -/
inductive HandleOp
  /-- `Open`: does the driver start, and does `CreateFileW` succeed? -/
  | openDevice (started created : Bool)
  /-- The teardown takes the client over. -/
  | moveOut
  /-- `Close` of the controller's client. -/
  | close
  /-- `Close` of a client that was moved out. -/
  | closeMoved (k : ℕ)
deriving DecidableEq, Repr

namespace Handles

/-- `CloseHandle`, for a client that is available. -/
def closeHandle (device : Option Handle) (openHandles : List Handle) : List Handle :=
  match device with
  | some h => openHandles.erase h
  | none => openHandles

/-- `SplitTunnelClient::Open`. -/
def openDevice (started created : Bool) (m : Handles) : Handles :=
  if !started then { m with device := none }
  else if !created then { m with device := none }
  else
    { m with
      device := some ⟨m.session, m.opened⟩
      openHandles := ⟨m.session, m.opened⟩ :: m.openHandles
      opened := m.opened + 1 }

/-- One operation.  The move assigns to an empty client, whose own `Close` finds no handle. -/
def step (m : Handles) : HandleOp → Handles
  | .openDevice started created => m.openDevice started created
  | .moveOut =>
      { m with session := m.session + 1, device := none, moved := (m.session, m.device) :: m.moved }
  | .close => { m with device := none, openHandles := closeHandle m.device m.openHandles }
  | .closeMoved k =>
      match m.moved[k]? with
      | some client =>
          { m with moved := m.moved.eraseIdx k, openHandles := closeHandle client.2 m.openHandles }
      | none => m

/-- One operation after another. -/
def run (m : Handles) (ops : List HandleOp) : Handles := ops.foldl step m

/-- The session whose client an operation closes. -/
def closes (m : Handles) : HandleOp → Option ℕ
  | .close => some m.session
  | .closeMoved k => (m.moved[k]?).map Prod.fst
  | _ => none

/-- The operation does not open a client that holds a handle. -/
def Careful (m : Handles) : HandleOp → Prop
  | .openDevice _ _ => m.device = none
  | _ => True

/-- Every handle that is open is held by the client of its session. -/
structure Held (m : Handles) : Prop where
  held : ∀ h ∈ m.openHandles, m.device = some h ∨ (h.session, some h) ∈ m.moved
  device : ∀ h, m.device = some h → h.session = m.session ∧ h ∈ m.openHandles
  moved : ∀ client ∈ m.moved, client.1 < m.session ∧ ∀ h, client.2 = some h → h.session = client.1
  sessions : (m.moved.map Prod.fst).Nodup
  nodup : m.openHandles.Nodup
  ids : ∀ h ∈ m.openHandles, h.id < m.opened

variable {m : Handles}

lemma Held.eq (hm : m.Held) {h h' : Handle} (hh : h ∈ m.openHandles) (hh' : h' ∈ m.openHandles)
    (hs : h.session = h'.session) : h = h' := by
  rcases hm.held h hh with hd | hd <;> rcases hm.held h' hh' with hd' | hd'
  · exact Option.some.inj (hd.symm.trans hd')
  · have hlt := (hm.moved _ hd').1
    have heq := (hm.device h hd).1
    omega
  · have hlt := (hm.moved _ hd).1
    have heq := (hm.device h' hd').1
    omega
  · rw [hs] at hd
    have hclient := List.inj_on_of_nodup_map hm.sessions hd hd' rfl
    exact Option.some.inj (Prod.mk.inj hclient).2

lemma Held.countP_le (hm : m.Held) (s : ℕ) :
    m.openHandles.countP (fun h => h.session = s) ≤ 1 := by
  rw [List.countP_eq_length_filter]
  by_contra hlt
  obtain ⟨h, h', l, hl⟩ : ∃ h h' l,
      m.openHandles.filter (fun h => h.session = s) = h :: h' :: l := by
    match hf : m.openHandles.filter (fun h => h.session = s) with
    | [] | [h] => simp [hf] at hlt
    | h :: h' :: l => exact ⟨h, h', l, hf⟩
  have hnodup := hm.nodup.filter fun h => decide (h.session = s)
  have hh : h ∈ m.openHandles.filter (fun h => h.session = s) := by simp [hl]
  have hh' : h' ∈ m.openHandles.filter (fun h => h.session = s) := by simp [hl]
  simp only [List.mem_filter, decide_eq_true_eq] at hh hh'
  have heq := hm.eq hh.1 hh'.1 (hh.2.trans hh'.2.symm)
  rw [hl, List.nodup_cons, heq] at hnodup
  exact hnodup.1 (by simp)

lemma mem_closeHandle {device : Option Handle} {h : Handle} {openHandles : List Handle}
    (hnodup : openHandles.Nodup) :
    h ∈ closeHandle device openHandles ↔ h ∈ openHandles ∧ device ≠ some h := by
  cases device with
  | none => simp [closeHandle]
  | some h' =>
    rw [closeHandle, hnodup.mem_erase_iff, and_comm]
    simp [eq_comm]

lemma nodup_closeHandle {device : Option Handle} {openHandles : List Handle}
    (hnodup : openHandles.Nodup) : (closeHandle device openHandles).Nodup := by
  cases device with
  | none => exact hnodup
  | some h => exact hnodup.erase h

lemma moved_perm {k : ℕ} {client : ℕ × Option Handle} (hk : m.moved[k]? = some client) :
    (client :: m.moved.eraseIdx k).Perm m.moved := by
  obtain ⟨hlt, rfl⟩ := List.getElem?_eq_some_iff.1 hk
  exact List.getElem_cons_eraseIdx_perm hlt

lemma Held.step (hm : m.Held) {op : HandleOp} (hop : Careful m op) : (m.step op).Held := by
  cases op with
  | openDevice started created =>
    have hnone : m.device = none := hop
    have hfailed : Held { m with device := none } := hnone ▸ hm
    show (m.openDevice started created).Held
    rw [openDevice]
    split_ifs
    · exact hfailed
    · exact hfailed
    · refine ⟨fun h hh => ?_, fun h hh => ?_, hm.moved, hm.sessions, ?_, fun h hh => ?_⟩
      · rcases List.mem_cons.1 hh with rfl | hh
        · exact .inl rfl
        · exact .inr ((hm.held h hh).resolve_left (by simp [hnone]))
      · rw [← Option.some.inj hh]
        exact ⟨rfl, List.mem_cons_self⟩
      · refine List.nodup_cons.2 ⟨fun hmem => ?_, hm.nodup⟩
        exact absurd (hm.ids _ hmem) (lt_irrefl _)
      · rcases List.mem_cons.1 hh with rfl | hh
        · exact Nat.lt_succ_self _
        · exact (hm.ids h hh).trans (Nat.lt_succ_self _)
  | moveOut =>
    refine ⟨fun h hh => .inr ?_, by simp [Handles.step], fun client hc => ?_, ?_, hm.nodup, hm.ids⟩
    · rcases hm.held h hh with hd | hd
      · have hs := (hm.device h hd).1
        show _ ∈ (m.session, m.device) :: m.moved
        rw [hd, hs]
        exact List.mem_cons_self
      · exact List.mem_cons_of_mem _ hd
    · show client.1 < m.session + 1 ∧ _
      rcases List.mem_cons.1 hc with rfl | hc
      · exact ⟨Nat.lt_succ_self _, fun h hh => (hm.device h hh).1⟩
      · exact (hm.moved client hc).imp_left fun hlt => hlt.trans (Nat.lt_succ_self _)
    · show ((m.session, m.device) :: m.moved).map Prod.fst |>.Nodup
      rw [List.map_cons, List.nodup_cons]
      refine ⟨fun hmem => ?_, hm.sessions⟩
      obtain ⟨client, hc, hs⟩ := List.mem_map.1 hmem
      exact absurd (hm.moved client hc).1 (by omega)
  | close =>
    refine ⟨fun h hh => ?_, by simp [Handles.step], hm.moved, hm.sessions,
      nodup_closeHandle hm.nodup, fun h hh => ?_⟩
    · obtain ⟨hin, hne⟩ := (mem_closeHandle hm.nodup).1 hh
      exact .inr ((hm.held h hin).resolve_left hne)
    · exact hm.ids h ((mem_closeHandle hm.nodup).1 hh).1
  | closeMoved k =>
    rw [Handles.step]
    cases hk : m.moved[k]? with
    | none => exact hm
    | some client =>
      have hperm := moved_perm hk
      have hclient : client ∈ m.moved := hperm.mem_iff.1 List.mem_cons_self
      refine ⟨fun h hh => ?_, fun h hh => ?_, fun c hc => ?_, ?_, nodup_closeHandle hm.nodup,
        fun h hh => ?_⟩
      · obtain ⟨hin, hne⟩ := (mem_closeHandle hm.nodup).1 hh
        refine (hm.held h hin).imp_right fun hmem => ?_
        rcases List.mem_cons.1 (hperm.mem_iff.2 hmem) with heq | hrest
        · exact absurd (congrArg Prod.snd heq).symm hne
        · exact hrest
      · obtain ⟨hs, hin⟩ := hm.device h hh
        refine ⟨hs, (mem_closeHandle hm.nodup).2 ⟨hin, fun heq => ?_⟩⟩
        obtain ⟨hlt, htag⟩ := hm.moved client hclient
        have := htag h heq
        omega
      · exact hm.moved c (hperm.mem_iff.1 (List.mem_cons_of_mem _ hc))
      · have hsessions := (hperm.map Prod.fst).nodup_iff.2 hm.sessions
        rw [List.map_cons, List.nodup_cons] at hsessions
        exact hsessions.2
      · exact hm.ids h ((mem_closeHandle hm.nodup).1 hh).1

lemma Held.not_mem_of_closes (hm : m.Held) {op : HandleOp} {s : ℕ} (hs : m.closes op = some s) :
    ∀ h ∈ (m.step op).openHandles, h.session ≠ s := by
  cases op with
  | openDevice started created | moveOut => exact absurd hs (by simp [closes])
  | close =>
    cases hs
    intro h hh heq
    obtain ⟨hin, hne⟩ := (mem_closeHandle hm.nodup).1 hh
    have hlt := (hm.moved _ ((hm.held h hin).resolve_left hne)).1
    omega
  | closeMoved k =>
    rw [closes] at hs
    rw [Handles.step]
    cases hk : m.moved[k]? with
    | none => simp [hk] at hs
    | some client =>
      obtain rfl : client.1 = s := by simpa [hk] using hs
      intro h hh heq
      obtain ⟨hin, hne⟩ := (mem_closeHandle hm.nodup).1 hh
      have hclient : client ∈ m.moved := (moved_perm hk).mem_iff.1 List.mem_cons_self
      rcases hm.held h hin with hd | hd
      · have hlt := (hm.moved client hclient).1
        have hses := (hm.device h hd).1
        omega
      · have hsame := List.inj_on_of_nodup_map hm.sessions hd hclient heq
        exact hne (congrArg Prod.snd hsame).symm

lemma held_run {ops : List HandleOp} (hm : m.Held)
    (hops : ∀ ops₁ op ops₂, ops = ops₁ ++ op :: ops₂ → Careful (m.run ops₁) op) :
    (m.run ops).Held := by
  induction ops generalizing m with
  | nil => exact hm
  | cons op ops ih =>
    refine ih (hm.step (hops [] op ops rfl)) fun ops₁ op' ops₂ heq => ?_
    exact hops (op :: ops₁) op' ops₂ (by rw [heq, List.cons_append])

lemma held_init : Held {} := by
  constructor <;> simp

/-- **At most one handle of a session is open, and none after its `Close`**, in every state of
a run in which no client is opened that holds a handle. -/
theorem one_handle (ops : List HandleOp)
    (hops : ∀ ops₁ op ops₂, ops = ops₁ ++ op :: ops₂ → Careful (run {} ops₁) op) :
    (∀ ops₁ ops₂, ops = ops₁ ++ ops₂ → ∀ s,
      (run {} ops₁).openHandles.countP (fun h => h.session = s) ≤ 1) ∧
    (∀ ops₁ op ops₂ s, ops = ops₁ ++ op :: ops₂ → (run {} ops₁).closes op = some s →
      ∀ h ∈ (run {} (ops₁ ++ [op])).openHandles, h.session ≠ s) := by
  have hheld : ∀ ops₁ ops₂, ops = ops₁ ++ ops₂ → (run {} ops₁).Held := by
    rintro ops₁ ops₂ rfl
    refine held_run held_init fun o op o' heq => hops o op (o' ++ ops₂) ?_
    rw [heq, List.append_assoc, List.cons_append]
  refine ⟨fun ops₁ ops₂ heq s => (hheld ops₁ ops₂ heq).countP_le s, ?_⟩
  intro ops₁ op ops₂ s heq hs
  rw [run, List.foldl_append]
  exact (hheld ops₁ (op :: ops₂) heq).not_mem_of_closes hs

/-- Two sessions, each with a failed attempt before the one that opens the device, and the
worker of the first behind the start of the second. -/
def twoSessions : List HandleOp :=
  [.openDevice true false, .openDevice true true, .moveOut, .openDevice false false,
    .openDevice true true, .closeMoved 0]

theorem one_handle_twoSessions :
    (∀ s, (run {} twoSessions).openHandles.countP (fun h => h.session = s) ≤ 1) ∧
      ∀ h ∈ (run {} twoSessions).openHandles, h.session ≠ 0 := by
  have hcareful : ∀ ops₁ op ops₂, twoSessions = ops₁ ++ op :: ops₂ → Careful (run {} ops₁) op := by
    intro ops₁ op ops₂ hops
    rcases ops₁ with _ | ⟨a, _ | ⟨b, _ | ⟨c, _ | ⟨d, _ | ⟨e, _ | ⟨f, ops₁⟩⟩⟩⟩⟩⟩ <;>
      simp only [twoSessions, List.nil_append, List.cons_append, List.cons.injEq] at hops
    · obtain ⟨rfl, -⟩ := hops
      rfl
    · obtain ⟨rfl, rfl, -⟩ := hops
      rfl
    · obtain ⟨rfl, rfl, rfl, -⟩ := hops
      trivial
    · obtain ⟨rfl, rfl, rfl, rfl, -⟩ := hops
      rfl
    · obtain ⟨rfl, rfl, rfl, rfl, rfl, -⟩ := hops
      rfl
    · obtain ⟨rfl, rfl, rfl, rfl, rfl, rfl, -⟩ := hops
      trivial
    · simp at hops
  obtain ⟨hone, hnone⟩ := one_handle twoSessions hcareful
  exact ⟨hone twoSessions [] rfl, hnone (twoSessions.dropLast) (.closeMoved 0) [] 0 rfl rfl⟩

/-- An attempt that is superseded after its prepare stage, and the one after it: the session
has two handles open, and after the close of its client it has one. -/
theorem retried_open_leaks :
    (run {} [.openDevice true true, .openDevice true true]).openHandles.countP
        (fun h => h.session = 0) = 2 ∧
      closes (run {} [.openDevice true true, .openDevice true true, .moveOut]) (.closeMoved 0) =
        some 0 ∧
      (run {} [.openDevice true true, .openDevice true true, .moveOut,
        .closeMoved 0]).openHandles = [⟨0, 0⟩] := by
  decide

/-! ### What is left behind -/

/-- A handle that is open and that no client holds. -/
structure Leaked (m : Handles) (h : Handle) : Prop where
  isOpen : h ∈ m.openHandles
  device : m.device ≠ some h
  moved : ∀ client ∈ m.moved, client.2 ≠ some h
  id_lt : h.id < m.opened

lemma mem_closeHandle_of_ne {device : Option Handle} {h : Handle} {openHandles : List Handle}
    (hin : h ∈ openHandles) (hne : device ≠ some h) : h ∈ closeHandle device openHandles := by
  cases device with
  | none => exact hin
  | some h' => exact (List.mem_erase_of_ne fun heq => hne (congrArg some heq.symm)).2 hin

lemma Leaked.step {h : Handle} (hl : m.Leaked h) (op : HandleOp) : (m.step op).Leaked h := by
  cases op with
  | openDevice started created =>
    show (m.openDevice started created).Leaked h
    rw [openDevice]
    split_ifs
    · exact ⟨hl.isOpen, by simp, hl.moved, hl.id_lt⟩
    · exact ⟨hl.isOpen, by simp, hl.moved, hl.id_lt⟩
    · refine ⟨List.mem_cons_of_mem _ hl.isOpen, fun heq => ?_, hl.moved,
        hl.id_lt.trans (Nat.lt_succ_self _)⟩
      have hid := congrArg Handle.id (Option.some.inj heq)
      exact absurd hl.id_lt (by rw [← hid]; exact lt_irrefl _)
  | moveOut =>
    refine ⟨hl.isOpen, by simp [Handles.step], fun client hc => ?_, hl.id_lt⟩
    rcases List.mem_cons.1 hc with rfl | hc
    · exact hl.device
    · exact hl.moved client hc
  | close =>
    exact ⟨mem_closeHandle_of_ne hl.isOpen hl.device, by simp [Handles.step], hl.moved, hl.id_lt⟩
  | closeMoved k =>
    rw [Handles.step]
    cases hk : m.moved[k]? with
    | none => exact hl
    | some client =>
      have hperm := moved_perm hk
      have hclient := hl.moved client (hperm.mem_iff.1 List.mem_cons_self)
      exact ⟨mem_closeHandle_of_ne hl.isOpen hclient, hl.device,
        fun c hc => hl.moved c (hperm.mem_iff.1 (List.mem_cons_of_mem _ hc)), hl.id_lt⟩

/-- The client's handle is open and no client's that was moved out, and no handle is of the
future. -/
structure Owned (m : Handles) : Prop where
  device : ∀ h, m.device = some h → h ∈ m.openHandles ∧ ∀ client ∈ m.moved, client.2 ≠ some h
  ids : ∀ h ∈ m.openHandles, h.id < m.opened
  moved : ∀ client ∈ m.moved, ∀ h, client.2 = some h → h.id < m.opened

lemma owned_init : Owned {} := by
  constructor <;> simp

lemma mem_of_mem_closeHandle {device : Option Handle} {h : Handle} {openHandles : List Handle}
    (hin : h ∈ closeHandle device openHandles) : h ∈ openHandles := by
  cases device with
  | none => exact hin
  | some h' => exact List.mem_of_mem_erase hin

lemma Owned.step (hm : m.Owned) (op : HandleOp) : (m.step op).Owned := by
  cases op with
  | openDevice started created =>
    show (m.openDevice started created).Owned
    have hfailed : Owned { m with device := none } := ⟨nofun, hm.ids, hm.moved⟩
    rw [openDevice]
    split_ifs
    · exact hfailed
    · exact hfailed
    · refine ⟨fun h hh => ?_, fun h hh => ?_, fun client hc h heq => ?_⟩
      · rw [← Option.some.inj hh]
        refine ⟨List.mem_cons_self, fun client hc heq => ?_⟩
        exact absurd (hm.moved client hc _ heq) (lt_irrefl _)
      · rcases List.mem_cons.1 hh with rfl | hh
        · exact Nat.lt_succ_self _
        · exact (hm.ids h hh).trans (Nat.lt_succ_self _)
      · exact (hm.moved client hc h heq).trans (Nat.lt_succ_self _)
  | moveOut =>
    refine ⟨nofun, hm.ids, fun client hc h heq => ?_⟩
    rcases List.mem_cons.1 hc with rfl | hc
    · exact hm.ids h (hm.device h heq).1
    · exact hm.moved client hc h heq
  | close => exact ⟨nofun, fun h hh => hm.ids h (mem_of_mem_closeHandle hh), hm.moved⟩
  | closeMoved k =>
    rw [Handles.step]
    cases hk : m.moved[k]? with
    | none => exact hm
    | some client =>
      have hperm := moved_perm hk
      have hclient := hperm.mem_iff.1 List.mem_cons_self
      have hrest : ∀ c ∈ m.moved.eraseIdx k, c ∈ m.moved := fun c hc =>
        hperm.mem_iff.1 (List.mem_cons_of_mem _ hc)
      refine ⟨fun h hh => ?_, fun h hh => hm.ids h (mem_of_mem_closeHandle hh),
        fun c hc => hm.moved c (hrest c hc)⟩
      obtain ⟨hin, hapart⟩ := hm.device h hh
      exact ⟨mem_closeHandle_of_ne hin (hapart client hclient), fun c hc => hapart c (hrest c hc)⟩

lemma owned_run (ops : List HandleOp) : (run {} ops).Owned := by
  induction ops using List.reverseRecOn with
  | nil => exact owned_init
  | append_singleton ops op ih =>
    rw [run, List.foldl_append]
    exact ih.step op

lemma Leaked.run {h : Handle} (hl : m.Leaked h) (ops : List HandleOp) : (m.run ops).Leaked h := by
  induction ops generalizing m with
  | nil => exact hl
  | cons op ops ih => exact ih (hl.step op)

/-- **An `Open` leaks the handle that its client holds.**  In any run an `Open` of a client that
holds a handle, whether it succeeds or not, leaves that handle open whatever follows, and no client
holds it any more. -/
theorem open_leaks (ops : List HandleOp) {h : Handle} (hd : (run {} ops).device = some h)
    (started created : Bool) (rest : List HandleOp) :
    (run {} (ops ++ .openDevice started created :: rest)).Leaked h := by
  obtain ⟨hin, hmoved⟩ := (owned_run ops).device h hd
  have hlt := (owned_run ops).ids h hin
  have hfailed : Leaked { run {} ops with device := none } h := ⟨hin, nofun, hmoved, hlt⟩
  have hleaked : ((run {} ops).step (.openDevice started created)).Leaked h := by
    show ((run {} ops).openDevice started created).Leaked h
    rw [openDevice]
    split_ifs
    · exact hfailed
    · exact hfailed
    · refine ⟨List.mem_cons_of_mem _ hin, fun heq => ?_, hmoved, hlt.trans (Nat.lt_succ_self _)⟩
      have hid := congrArg Handle.id (Option.some.inj heq)
      exact absurd hlt (by rw [← hid]; exact lt_irrefl _)
  have hrun : run {} (ops ++ .openDevice started created :: rest) =
      ((run {} ops).step (.openDevice started created)).run rest := List.foldl_append
  rw [hrun]
  exact hleaked.run rest

/-- A failed attempt over the handle of the one before it, and the teardown. -/
theorem open_leaks_failed :
    Leaked (run {} [.openDevice true true, .openDevice false false, .moveOut, .closeMoved 0])
      ⟨0, 0⟩ :=
  open_leaks [.openDevice true true] rfl false false [.moveOut, .closeMoved 0]

end Handles

end UrnetworkWindows.SplitTunnel
