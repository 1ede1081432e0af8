/-
The driver's tracked processes (`Driver.c`: `UrstTrackPid`, `UrstUntrackPid`,
`UrstCreateProcessNotify`).

The tracked ids stand in a block of `trackedCapacity` slots, of which the first
`trackedCount` are in use.  A block that is full is replaced by one of twice the size, an id
that leaves is overwritten by the last one in use, and a clear only sets the count to zero.
The counters are numbers: `Tracker.capacity_fits` says that the 32 bits of the source are
enough for the process ids there are.

`tracked_iff` is the history the block stands for: an id is tracked when it is alive, was
created since the clear, and at that moment its image was in the path set or its parent or
its creator was tracked.
-/
import Mathlib.Data.List.Nodup
import Mathlib.Data.List.Perm.Basic
import Mathlib.Tactic
import UrnetworkWindows.SplitTunnel.Driver

namespace UrnetworkWindows.SplitTunnel

open Lib

/-! ### The block -/

/-- What `URST_STATE` keeps of the path set and of the tracked processes. -/
structure Tracker where
  paths : List (List UInt16) := []
  trackedPids : List ℕ := []
  trackedCount : ℕ := 0
  trackedCapacity : ℕ := 0
deriving DecidableEq, Repr

/-- What `PsSetCreateProcessNotifyRoutineEx` reports.  A creation has an image name or none,
a parent, and the process of the creating thread. -/
inductive ProcessEvent
  | created (pid : ℕ) (imageFileName : Option (List UInt16)) (parent creator : ℕ)
  | exited (pid : ℕ)
deriving DecidableEq, Repr

namespace Tracker

/-- The index at which the two loops over the block stop. -/
def find (t : Tracker) (pid : ℕ) : Option ℕ :=
  (List.range t.trackedCount).find? fun i => t.trackedPids[i]? == some pid

/-- `UrstIsPidTracked`. -/
def urstIsPidTracked (t : Tracker) (pid : ℕ) : Bool := (t.find pid).isSome

/-- The block after growing: a fresh one, zeroed, with the slots in use copied. -/
def grow (t : Tracker) : Tracker :=
  let newCap := if t.trackedCapacity ≠ 0 then t.trackedCapacity * 2 else 32
  { t with
    trackedPids := t.trackedPids.take t.trackedCount ++ List.replicate (newCap - t.trackedCount) 0
    trackedCapacity := newCap }

/-- The write to the first slot that is not in use. -/
def put (t : Tracker) (pid : ℕ) : Tracker :=
  { t with
    trackedPids := t.trackedPids.set t.trackedCount pid
    trackedCount := t.trackedCount + 1 }

/-- `UrstTrackPid`; `alloc` tells whether an allocation of so many slots succeeds. -/
def urstTrackPid (alloc : ℕ → Bool) (t : Tracker) (pid : ℕ) : Tracker :=
  if t.urstIsPidTracked pid then t
  else if t.trackedCount = t.trackedCapacity then
    if alloc t.grow.trackedCapacity then t.grow.put pid else t
  else t.put pid

/-- The last id in use written over the one at `i`, and the count lowered. -/
def overwrite (t : Tracker) (i : ℕ) : Tracker :=
  { t with
    trackedPids := t.trackedPids.set i (t.trackedPids.getD (t.trackedCount - 1) 0)
    trackedCount := t.trackedCount - 1 }

/-- `UrstUntrackPid`. -/
def urstUntrackPid (t : Tracker) (pid : ℕ) : Tracker :=
  match t.find pid with
  | some i => t.overwrite i
  | none => t

/-- What `UrstClearExcluded` does to the tracker. -/
def urstClearExcluded (t : Tracker) : Tracker := { t with paths := [], trackedCount := 0 }

/-- The ids in use. -/
def tracked (t : Tracker) : List ℕ := t.trackedPids.take t.trackedCount

/-- The tracker inside the state of the driver. -/
def toDriver (t : Tracker) (d : Driver) : Driver :=
  { d with paths := t.paths, trackedPids := t.tracked }

/-- The block has the slots it is said to have, enough for the ids in use, and no id stands
in two of them. -/
structure WellFormed (t : Tracker) : Prop where
  length_eq : t.trackedPids.length = t.trackedCapacity
  le : t.trackedCount ≤ t.trackedCapacity
  nodup : t.tracked.Nodup

variable {t : Tracker} {pid : ℕ}

lemma WellFormed.length_tracked (h : t.WellFormed) : t.tracked.length = t.trackedCount := by
  rw [tracked, List.length_take, h.length_eq]
  exact min_eq_left h.le

lemma tracked_getElem? {i : ℕ} (hi : i < t.trackedCount) :
    t.tracked[i]? = t.trackedPids[i]? := by
  rw [tracked, List.getElem?_take_of_lt hi]

lemma find_some {i : ℕ} (hi : t.find pid = some i) :
    i < t.trackedCount ∧ t.tracked[i]? = some pid := by
  have hlt := List.mem_of_find?_eq_some hi
  have hpid := List.find?_some hi
  rw [List.mem_range] at hlt
  rw [tracked_getElem? hlt]
  exact ⟨hlt, by simpa using hpid⟩

lemma urstIsPidTracked_iff (h : t.WellFormed) : t.urstIsPidTracked pid ↔ pid ∈ t.tracked := by
  rw [urstIsPidTracked, find, List.find?_isSome]
  constructor
  · rintro ⟨i, hi, hpid⟩
    rw [List.mem_range] at hi
    rw [beq_iff_eq, ← tracked_getElem? hi] at hpid
    exact List.mem_of_getElem? hpid
  · intro hpid
    obtain ⟨i, hi, rfl⟩ := List.getElem_of_mem hpid
    have hi' : i < t.trackedCount := h.length_tracked ▸ hi
    refine ⟨i, List.mem_range.2 hi', ?_⟩
    rw [beq_iff_eq, ← tracked_getElem? hi', List.getElem?_eq_getElem hi]

lemma urstIsPidTracked_toDriver (h : t.WellFormed) (d : Driver) :
    SplitTunnel.urstIsPidTracked (t.toDriver d) pid = t.urstIsPidTracked pid := by
  rw [Bool.eq_iff_iff, urstIsPidTracked_iff h, SplitTunnel.urstIsPidTracked,
    List.contains_iff_mem]
  rfl

lemma toDriver_urstClearExcluded (t : Tracker) (d : Driver) :
    t.urstClearExcluded.toDriver (SplitTunnel.urstClearExcluded d) =
      SplitTunnel.urstClearExcluded (t.toDriver d) := by
  simp [toDriver, tracked, urstClearExcluded, SplitTunnel.urstClearExcluded]

/-! ### One step -/

lemma WellFormed.grow (h : t.WellFormed) : t.grow.WellFormed ∧ t.grow.tracked = t.tracked ∧
    (t.trackedCount = t.trackedCapacity → t.grow.trackedCount < t.grow.trackedCapacity) := by
  have hle := h.le
  have hlen : (t.trackedPids.take t.trackedCount).length = t.trackedCount := h.length_tracked
  have hcap : t.trackedCount ≤ t.grow.trackedCapacity := by
    simp only [Tracker.grow]
    split_ifs <;> omega
  have htracked : t.grow.tracked = t.tracked := by
    show (t.trackedPids.take t.trackedCount ++ _).take t.trackedCount = _
    rw [List.take_append_of_le_length hlen.ge, List.take_take, min_self]
    rfl
  refine ⟨⟨?_, hcap, by rw [htracked]; exact h.nodup⟩, htracked, fun hfull => ?_⟩
  · show (t.trackedPids.take t.trackedCount ++
      List.replicate (t.grow.trackedCapacity - t.trackedCount) 0).length = _
    rw [List.length_append, hlen, List.length_replicate]
    omega
  · show t.trackedCount < _
    simp only [Tracker.grow]
    split_ifs <;> omega

lemma WellFormed.put (h : t.WellFormed) (hroom : t.trackedCount < t.trackedCapacity)
    (hpid : pid ∉ t.tracked) :
    (t.put pid).WellFormed ∧ (t.put pid).tracked = t.tracked ++ [pid] := by
  have hlt : t.trackedCount < t.trackedPids.length := h.length_eq ▸ hroom
  have htracked : (t.put pid).tracked = t.tracked ++ [pid] := by
    show (t.trackedPids.set t.trackedCount pid).take (t.trackedCount + 1) = _
    rw [List.take_succ_eq_append_getElem (by simpa using hlt), List.getElem_set_self,
      List.take_set_of_le le_rfl]
    rfl
  refine ⟨⟨?_, hroom, ?_⟩, htracked⟩
  · show (t.trackedPids.set t.trackedCount pid).length = _
    rw [List.length_set]
    exact h.length_eq
  · rw [htracked, List.nodup_append]
    exact ⟨h.nodup, List.nodup_singleton pid, by
      rintro a ha b hb rfl
      exact hpid (List.mem_singleton.1 hb ▸ ha)⟩

lemma urstTrackPid_spec (alloc : ℕ → Bool) (h : t.WellFormed) (pid : ℕ) :
    (t.urstTrackPid alloc pid).WellFormed ∧ (t.urstTrackPid alloc pid).paths = t.paths ∧
      (∀ x, x ∈ (t.urstTrackPid alloc pid).tracked → x = pid ∨ x ∈ t.tracked) ∧
      ((∀ n, alloc n) →
        ∀ x, x ∈ (t.urstTrackPid alloc pid).tracked ↔ x = pid ∨ x ∈ t.tracked) := by
  rw [urstTrackPid]
  split_ifs with hin hfull halloc
  · have hmem := (urstIsPidTracked_iff h).1 hin
    refine ⟨h, rfl, fun x hx => .inr hx, fun _ x => ⟨.inr, ?_⟩⟩
    rintro (rfl | hx)
    · exact hmem
    · exact hx
  · obtain ⟨hgrow, htracked, hroom⟩ := h.grow
    have hpid : pid ∉ t.grow.tracked := by
      rw [htracked]
      exact fun hmem => hin ((urstIsPidTracked_iff h).2 hmem)
    obtain ⟨hput, hafter⟩ := hgrow.put (hroom hfull) hpid
    have hiff : ∀ x, x ∈ (t.grow.put pid).tracked ↔ x = pid ∨ x ∈ t.tracked := by
      intro x
      rw [hafter, htracked, List.mem_append, List.mem_singleton, or_comm]
    exact ⟨hput, rfl, fun x => (hiff x).1, fun _ => hiff⟩
  · refine ⟨h, rfl, fun x hx => .inr hx, fun hall => ?_⟩
    exact absurd (hall _) halloc
  · have hroom : t.trackedCount < t.trackedCapacity := lt_of_le_of_ne h.le hfull
    have hpid : pid ∉ t.tracked := fun hmem => hin ((urstIsPidTracked_iff h).2 hmem)
    obtain ⟨hput, hafter⟩ := h.put hroom hpid
    have hiff : ∀ x, x ∈ (t.put pid).tracked ↔ x = pid ∨ x ∈ t.tracked := by
      intro x
      rw [hafter, List.mem_append, List.mem_singleton, or_comm]
    exact ⟨hput, rfl, fun x => (hiff x).1, fun _ => hiff⟩

lemma take_set_perm {l : List ℕ} {i n : ℕ} (hn : n + 1 ≤ l.length) (hi : i < n + 1) :
    ((l.set i (l.getD n 0)).take n).Perm ((l.take (n + 1)).eraseIdx i) := by
  have hlast : l.getD n 0 = l[n] := by
    rw [List.getD_eq_getElem?_getD, List.getElem?_eq_getElem (by omega), Option.getD_some]
  have hsplit : l.take (n + 1) = l.take n ++ [l[n]] := List.take_succ_eq_append_getElem (by omega)
  have hlen : (l.take n).length = n := by
    rw [List.length_take]
    omega
  rw [hlast, List.take_set, hsplit]
  rcases Nat.lt_succ_iff_lt_or_eq.1 hi with hlt | rfl
  · rw [List.eraseIdx_append_of_lt_length (by omega)]
    exact (List.set_perm_cons_eraseIdx (by omega) _).trans
      (List.perm_append_singleton _ _).symm
  · rw [List.eraseIdx_append_of_length_le hlen.le, List.set_eq_of_length_le hlen.le, hlen]
    simp

lemma WellFormed.overwrite (h : t.WellFormed) {i : ℕ} (hi : i < t.trackedCount) :
    (t.overwrite i).WellFormed ∧ (t.overwrite i).tracked.Perm (t.tracked.eraseIdx i) := by
  have hle := h.le
  have hlen := h.length_eq
  have hperm : (t.overwrite i).tracked.Perm (t.tracked.eraseIdx i) := by
    obtain ⟨n, hn⟩ : ∃ n, t.trackedCount = n + 1 := ⟨t.trackedCount - 1, by omega⟩
    show ((t.trackedPids.set i (t.trackedPids.getD (t.trackedCount - 1) 0)).take
      (t.trackedCount - 1)).Perm _
    rw [tracked, hn]
    exact take_set_perm (by omega) (by omega)
  refine ⟨⟨?_, ?_, ?_⟩, hperm⟩
  · show (t.trackedPids.set i _).length = _
    rw [List.length_set]
    exact hlen
  · show t.trackedCount - 1 ≤ t.trackedCapacity
    omega
  · exact hperm.nodup_iff.2 (h.nodup.sublist (List.eraseIdx_sublist _ _))

lemma urstUntrackPid_spec (h : t.WellFormed) (pid : ℕ) :
    (t.urstUntrackPid pid).WellFormed ∧ (t.urstUntrackPid pid).paths = t.paths ∧
      ∀ x, x ∈ (t.urstUntrackPid pid).tracked ↔ x ∈ t.tracked ∧ x ≠ pid := by
  rw [urstUntrackPid]
  cases hfind : t.find pid with
  | none =>
    have hout : pid ∉ t.tracked := by
      rw [← urstIsPidTracked_iff h, urstIsPidTracked, hfind]
      simp
    refine ⟨h, rfl, fun x => ⟨fun hx => ⟨hx, ?_⟩, And.left⟩⟩
    rintro rfl
    exact hout hx
  | some i =>
    obtain ⟨hi, hpid⟩ := find_some hfind
    obtain ⟨hover, hperm⟩ := h.overwrite hi
    have hi' : i < t.tracked.length := by
      rw [h.length_tracked]
      exact hi
    have hrest := List.getElem_cons_eraseIdx_perm hi'
    rw [List.getElem?_eq_getElem hi', Option.some.injEq] at hpid
    rw [hpid] at hrest
    have hnot := (List.nodup_cons.1 (hrest.nodup_iff.2 h.nodup)).1
    refine ⟨hover, rfl, fun x => ?_⟩
    show x ∈ (t.overwrite i).tracked ↔ _
    rw [hperm.mem_iff, ← hrest.mem_iff, List.mem_cons]
    constructor
    · intro hx
      refine ⟨.inr hx, ?_⟩
      rintro rfl
      exact hnot hx
    · rintro ⟨rfl | hx, hne⟩
      · exact absurd rfl hne
      · exact hx

/-! ### Runs -/

section Runs

variable (upcase : UInt16 → UInt16) (alloc : ℕ → Bool)

/-- `UrstImageInSet`, of an image that may be missing. -/
def urstImageInSet (paths : List (List UInt16)) (imageFileName : Option (List UInt16)) : Bool :=
  match imageFileName with
  | some image => paths.any (equalUnicodeString upcase image)
  | none => false

/-- `UrstCreateProcessNotify`. -/
def urstCreateProcessNotify (t : Tracker) : ProcessEvent → Tracker
  | .created pid imageFileName parent creator =>
      if urstImageInSet upcase t.paths imageFileName ||
          (t.urstIsPidTracked parent || t.urstIsPidTracked creator) then
        t.urstTrackPid alloc pid
      else t
  | .exited pid => t.urstUntrackPid pid

/-- One report after another. -/
def run (t : Tracker) (es : List ProcessEvent) : Tracker :=
  es.foldl (urstCreateProcessNotify upcase alloc) t

/-- The trackers there can be: since the driver was loaded, processes were reported and the
path set was cleared and replaced, and an allocation may have failed. -/
inductive Reachable : Tracker → Prop
  | load : Reachable {}
  | notify {t : Tracker} (alloc : ℕ → Bool) (e : ProcessEvent) (h : Reachable t) :
      Reachable (t.urstCreateProcessNotify upcase alloc e)
  | setPaths {t : Tracker} (paths : List (List UInt16)) (h : Reachable t) :
      Reachable { t.urstClearExcluded with paths }

variable {upcase}

lemma WellFormed.cleared (h : t.WellFormed) (paths : List (List UInt16)) :
    WellFormed { t.urstClearExcluded with paths } where
  length_eq := h.length_eq
  le := Nat.zero_le _
  nodup := by simp [tracked, urstClearExcluded]

lemma notify_spec (upcase : UInt16 → UInt16) (alloc : ℕ → Bool) (h : t.WellFormed)
    (e : ProcessEvent) :
    (t.urstCreateProcessNotify upcase alloc e).WellFormed ∧
      (t.urstCreateProcessNotify upcase alloc e).paths = t.paths := by
  cases e with
  | created pid image parent creator =>
    rw [urstCreateProcessNotify]
    split_ifs
    · obtain ⟨hwf, hpaths, -⟩ := urstTrackPid_spec alloc h pid
      exact ⟨hwf, hpaths⟩
    · exact ⟨h, rfl⟩
  | exited pid =>
    obtain ⟨hwf, hpaths, -⟩ := urstUntrackPid_spec h pid
    exact ⟨hwf, hpaths⟩

lemma run_spec (upcase : UInt16 → UInt16) (alloc : ℕ → Bool) (h : t.WellFormed)
    (es : List ProcessEvent) :
    (t.run upcase alloc es).WellFormed ∧ (t.run upcase alloc es).paths = t.paths := by
  induction es generalizing t with
  | nil => exact ⟨h, rfl⟩
  | cons e es ih =>
    obtain ⟨hwf, hpaths⟩ := notify_spec upcase alloc h e
    obtain ⟨hrun, hsame⟩ := ih hwf
    exact ⟨hrun, hsame.trans hpaths⟩

theorem Reachable.wellFormed (h : Reachable upcase t) : t.WellFormed := by
  induction h with
  | load => exact ⟨rfl, le_rfl, by simp [tracked]⟩
  | notify alloc e _ ih => exact (notify_spec upcase alloc ih e).1
  | setPaths paths _ ih => exact ih.cleared paths

/-! ### The history of an id -/

end Runs

end Tracker

namespace ProcessEvent

/-- The process a report is about. -/
def pid : ProcessEvent → ℕ
  | created pid _ _ _ => pid
  | exited pid => pid

/-- The processes alive after a report. -/
def alive (live : Set ℕ) : ProcessEvent → Set ℕ
  | created pid _ _ _ => insert pid live
  | exited pid => live \ {pid}

/-- The processes alive after some reports. -/
def aliveAfter (live : Set ℕ) (es : List ProcessEvent) : Set ℕ := es.foldl alive live

/-- No process is created under the id of one that is alive. -/
def UniqueIds (live : Set ℕ) (es : List ProcessEvent) : Prop :=
  ∀ es₁ pid image parent creator es₂, es = es₁ ++ created pid image parent creator :: es₂ →
    pid ∉ aliveAfter live es₁

variable {live : Set ℕ} {es : List ProcessEvent} {p : ℕ}

lemma aliveAfter_append (live : Set ℕ) (es es' : List ProcessEvent) :
    aliveAfter live (es ++ es') = aliveAfter (aliveAfter live es) es' :=
  List.foldl_append

lemma UniqueIds.left {es' : List ProcessEvent} (h : UniqueIds live (es ++ es')) :
    UniqueIds live es := by
  rintro es₁ pid image parent creator es₂ rfl
  exact h es₁ pid image parent creator (es₂ ++ es') (by simp)

lemma UniqueIds.nil (live : Set ℕ) : UniqueIds live [] := by
  intro es₁ pid image parent creator es₂ hes
  exact absurd hes (by simp)

lemma UniqueIds.created {image : Option (List UInt16)} {parent creator : ℕ} (hp : p ∉ live)
    (h : UniqueIds (insert p live) es) :
    UniqueIds live (created p image parent creator :: es) := by
  intro es₁ pid image' parent' creator' es₂ hes
  cases es₁ with
  | nil =>
    obtain ⟨heq, -⟩ := List.cons.inj hes
    cases heq
    exact hp
  | cons e es₁ =>
    obtain ⟨rfl, htail⟩ := List.cons.inj hes
    exact h es₁ pid image' parent' creator' es₂ htail

lemma UniqueIds.exited (h : UniqueIds (live \ {p}) es) : UniqueIds live (exited p :: es) := by
  intro es₁ pid image parent creator es₂ hes
  cases es₁ with
  | nil => exact absurd (List.cons.inj hes).1 (by simp)
  | cons e es₁ =>
    obtain ⟨rfl, htail⟩ := List.cons.inj hes
    exact h es₁ pid image parent creator es₂ htail

lemma mem_aliveAfter (hp : p ∈ live) (hes : ∀ e ∈ es, e.pid ≠ p) : p ∈ aliveAfter live es := by
  induction es generalizing live with
  | nil => exact hp
  | cons e es ih =>
    refine ih ?_ fun e' he' => hes e' (by simp [he'])
    have hne := hes e (by simp)
    cases e with
    | created pid image parent creator => exact Set.mem_insert_of_mem _ hp
    | exited pid => exact ⟨hp, fun h => hne (Set.mem_singleton_iff.1 h).symm⟩

end ProcessEvent

namespace Tracker

open ProcessEvent

variable (upcase : UInt16 → UInt16)

/-- The process now under an id was created in these reports, and at that moment its image
was in the path set or its parent or its creator was tracked. -/
def CreatedExcluded (t : Tracker) (es : List ProcessEvent) (pid : ℕ) : Prop :=
  ∃ es₁ image parent creator es₂, es = es₁ ++ .created pid image parent creator :: es₂ ∧
    (∀ e ∈ es₂, e.pid ≠ pid) ∧
    (urstImageInSet upcase t.paths image ∨
      (t.run upcase (fun _ => true) es₁).urstIsPidTracked parent ∨
      (t.run upcase (fun _ => true) es₁).urstIsPidTracked creator)

variable {upcase} {t : Tracker} {live : Set ℕ} {es : List ProcessEvent} {pid : ℕ}

lemma CreatedExcluded.alive (h : CreatedExcluded upcase t es pid) : pid ∈ aliveAfter live es := by
  obtain ⟨es₁, image, parent, creator, es₂, rfl, hafter, -⟩ := h
  rw [aliveAfter_append]
  exact @mem_aliveAfter _ es₂ pid (Set.mem_insert pid _) hafter

lemma createdExcluded_append (e : ProcessEvent) :
    CreatedExcluded upcase t (es ++ [e]) pid ↔
      (pid ≠ e.pid ∧ CreatedExcluded upcase t es pid) ∨
      ∃ image parent creator, e = .created pid image parent creator ∧
        (urstImageInSet upcase t.paths image ∨
          (t.run upcase (fun _ => true) es).urstIsPidTracked parent ∨
          (t.run upcase (fun _ => true) es).urstIsPidTracked creator) := by
  constructor
  · rintro ⟨es₁, image, parent, creator, es₂, hes, hafter, hwhy⟩
    rcases List.eq_nil_or_concat es₂ with rfl | ⟨es₂, e', rfl⟩
    · obtain ⟨rfl, hlast⟩ := List.append_inj' hes rfl
      exact .inr ⟨image, parent, creator, List.singleton_inj.1 hlast, hwhy⟩
    · rw [List.concat_eq_append, ← List.cons_append, ← List.append_assoc] at hes
      obtain ⟨rfl, hlast⟩ := List.append_inj' hes rfl
      obtain rfl := List.singleton_inj.1 hlast
      refine .inl ⟨fun heq => hafter e (by simp) heq.symm, es₁, image, parent, creator, es₂, rfl,
        fun e' he' => hafter e' (by simp [he']), hwhy⟩
  · rintro (⟨hne, es₁, image, parent, creator, es₂, rfl, hafter, hwhy⟩ |
      ⟨image, parent, creator, rfl, hwhy⟩)
    · refine ⟨es₁, image, parent, creator, es₂ ++ [e], by simp, fun e' he' => ?_, hwhy⟩
      rcases List.mem_append.1 he' with he' | he'
      · exact hafter e' he'
      · rw [List.mem_singleton.1 he']
        exact hne.symm
    · exact ⟨es, image, parent, creator, [], rfl, by simp, hwhy⟩

lemma mem_tracked_run (h : t.WellFormed) (hempty : t.tracked = []) (hes : UniqueIds live es)
    (pid : ℕ) : pid ∈ (t.run upcase (fun _ => true) es).tracked ↔
      CreatedExcluded upcase t es pid := by
  induction es using List.reverseRecOn generalizing pid with
  | nil =>
    show pid ∈ t.tracked ↔ _
    rw [hempty]
    refine ⟨fun hx => absurd hx (by simp), ?_⟩
    rintro ⟨es₁, image, parent, creator, es₂, hnil, -⟩
    exact absurd hnil (by simp)
  | append_singleton es e ih =>
    have hprev := ih hes.left
    obtain ⟨hwf, hpaths⟩ := run_spec upcase (fun _ => true) h es
    rw [createdExcluded_append, ← hprev pid, run, List.foldl_append]
    show pid ∈ ((t.run upcase _ es).urstCreateProcessNotify upcase _ e).tracked ↔ _
    cases e with
    | created p image parent creator =>
      -- the new process is under an id that is not alive
      have hp : p ∉ (t.run upcase (fun _ => true) es).tracked := by
        rw [hprev p]
        exact fun hold => hes es p image parent creator [] rfl hold.alive
      have hne : ∀ x ∈ (t.run upcase (fun _ => true) es).tracked, x ≠ p := by
        rintro x hx rfl
        exact hp hx
      have hcreated : (∃ image' parent' creator', ProcessEvent.created p image parent creator =
            .created pid image' parent' creator' ∧
            (urstImageInSet upcase t.paths image' ∨
              (t.run upcase (fun _ => true) es).urstIsPidTracked parent' ∨
              (t.run upcase (fun _ => true) es).urstIsPidTracked creator')) ↔
          pid = p ∧ (urstImageInSet upcase t.paths image ∨
            (t.run upcase (fun _ => true) es).urstIsPidTracked parent ∨
            (t.run upcase (fun _ => true) es).urstIsPidTracked creator) := by
        constructor
        · rintro ⟨image', parent', creator', heq, hwhy⟩
          cases heq
          exact ⟨rfl, hwhy⟩
        · rintro ⟨rfl, hwhy⟩
          exact ⟨image, parent, creator, rfl, hwhy⟩
      rw [hcreated, urstCreateProcessNotify, hpaths]
      split_ifs with hwhy
      · obtain ⟨-, -, -, hiff⟩ := urstTrackPid_spec (fun _ => true) hwf p
        rw [hiff fun _ => rfl]
        rw [Bool.or_eq_true, Bool.or_eq_true] at hwhy
        constructor
        · rintro (rfl | hx)
          · exact .inr ⟨rfl, hwhy⟩
          · exact .inl ⟨hne pid hx, hx⟩
        · rintro (⟨-, hx⟩ | ⟨rfl, -⟩)
          · exact .inr hx
          · exact .inl rfl
      · rw [Bool.or_eq_true, Bool.or_eq_true] at hwhy
        constructor
        · intro hx
          exact .inl ⟨hne pid hx, hx⟩
        · rintro (⟨-, hx⟩ | ⟨-, hwhy'⟩)
          · exact hx
          · exact absurd hwhy' hwhy
    | exited p =>
      obtain ⟨-, -, hiff⟩ := urstUntrackPid_spec hwf p
      show pid ∈ ((t.run upcase _ es).urstUntrackPid p).tracked ↔ _
      rw [hiff]
      constructor
      · rintro ⟨hx, hne⟩
        exact .inl ⟨hne, hx⟩
      · rintro (⟨hne, hx⟩ | ⟨image, parent, creator, heq, -⟩)
        · exact ⟨hx, hne⟩
        · exact absurd heq (by simp)

/-- **The tracked set is the live closure of the excluded apps.**  From the last clear on,
with one path set and allocations that succeed: an id is tracked when it is alive, was
created, and its image was in the path set or its parent or creator was tracked then; the
block holds each tracked id once and has room for all of them. -/
theorem tracked_iff (t : Tracker) (ht : Reachable upcase t) (paths : List (List UInt16))
    (live : Set ℕ) (es : List ProcessEvent) (hes : UniqueIds live es) :
    let t₀ : Tracker := { t.urstClearExcluded with paths }
    let t' := t₀.run upcase (fun _ => true) es
    (∀ pid, t'.urstIsPidTracked pid ↔
      pid ∈ aliveAfter live es ∧ CreatedExcluded upcase t₀ es pid) ∧
    t'.tracked.Nodup ∧ t'.tracked.length = t'.trackedCount ∧
    t'.trackedCount ≤ t'.trackedCapacity ∧ t'.trackedPids.length = t'.trackedCapacity := by
  intro t₀ t'
  have hwf₀ : t₀.WellFormed := ht.wellFormed.cleared paths
  have hwf : t'.WellFormed := (run_spec upcase _ hwf₀ es).1
  have hempty : t₀.tracked = [] := by simp [t₀, tracked, urstClearExcluded]
  refine ⟨fun pid => ?_, hwf.nodup, hwf.length_tracked, hwf.le, hwf.length_eq⟩
  rw [urstIsPidTracked_iff hwf, mem_tracked_run hwf₀ hempty hes]
  exact ⟨fun h => ⟨h.alive, h⟩, And.right⟩

/-- An excluded app starts a child and exits, and its id goes to another process: the child
is tracked, the other process is not. -/
theorem tracked_iff_reused :
    let es : List ProcessEvent := [.created 8 (some [97]) 4 4, .created 12 (some [98]) 8 8,
      .exited 8, .created 8 (some [99]) 4 4]
    let t₀ : Tracker := { ({} : Tracker).urstClearExcluded with paths := [[97]] }
    let t' := t₀.run id (fun _ => true) es
    (t'.urstIsPidTracked 12 ∧ ¬ t'.urstIsPidTracked 8) ∧
    (∀ pid, t'.urstIsPidTracked pid ↔
      pid ∈ aliveAfter {4} es ∧ CreatedExcluded id t₀ es pid) ∧
    t'.tracked.Nodup ∧ t'.tracked.length = t'.trackedCount ∧
    t'.trackedCount ≤ t'.trackedCapacity ∧ t'.trackedPids.length = t'.trackedCapacity := by
  refine ⟨by decide, tracked_iff {} .load [[97]] {4} _ ?_⟩
  refine .created (by simp) (.created (by simp) (.exited (.created ?_ (.nil _))))
  simp

/-! ### The counters -/

/-- A process id of Windows: a multiple of four in 32 bits. -/
def IsProcessId (pid : ℕ) : Prop := 4 ∣ pid ∧ pid < 2 ^ 32

lemma length_le_of_nodup {l : List ℕ} (hl : l.Nodup) (h : ∀ pid ∈ l, IsProcessId pid) :
    l.length ≤ 2 ^ 30 := by
  rw [← List.toFinset_card_of_nodup hl]
  have hsub : l.toFinset ⊆ (Finset.range (2 ^ 30)).image fun k => 4 * k := by
    intro pid hpid
    obtain ⟨⟨k, rfl⟩, hlt⟩ := h pid (List.mem_toFinset.1 hpid)
    exact Finset.mem_image.2 ⟨k, Finset.mem_range.2 (by omega), rfl⟩
  calc l.toFinset.card ≤ ((Finset.range (2 ^ 30)).image fun k => 4 * k).card :=
        Finset.card_le_card hsub
    _ ≤ (Finset.range (2 ^ 30)).card := Finset.card_image_le
    _ = 2 ^ 30 := Finset.card_range _

/-- With process ids in it, a block is doubled only while the double fits 32 bits. -/
structure Fits (t : Tracker) : Prop where
  wellFormed : t.WellFormed
  ids : ∀ pid ∈ t.tracked, IsProcessId pid
  capacity_le : t.trackedCapacity ≤ 2 ^ 31

lemma Fits.notify (h : t.Fits) (alloc : ℕ → Bool) {e : ProcessEvent} (he : IsProcessId e.pid) :
    (t.urstCreateProcessNotify upcase alloc e).Fits := by
  have hwf := h.wellFormed
  refine ⟨(notify_spec upcase alloc hwf e).1, ?_, ?_⟩
  · cases e with
    | created p image parent creator =>
      rw [urstCreateProcessNotify]
      split_ifs
      · intro x hx
        obtain ⟨-, -, hmem, -⟩ := urstTrackPid_spec alloc hwf p
        rcases hmem x hx with rfl | hx
        · exact he
        · exact h.ids x hx
      · exact h.ids
    | exited p =>
      intro x hx
      exact h.ids x (((urstUntrackPid_spec hwf p).2.2 x).1 hx).1
  · have hcount : t.trackedCount ≤ 2 ^ 30 :=
      hwf.length_tracked ▸ length_le_of_nodup hwf.nodup h.ids
    have hcap := h.capacity_le
    cases e with
    | created p image parent creator =>
      rw [urstCreateProcessNotify, urstTrackPid]
      split_ifs with hwhy hin hfull halloc
      · exact hcap
      · show (if t.trackedCapacity ≠ 0 then t.trackedCapacity * 2 else 32) ≤ 2 ^ 31
        split_ifs <;> omega
      · exact hcap
      · exact hcap
      · exact hcap
    | exited p =>
      rw [urstCreateProcessNotify, urstUntrackPid]
      cases t.find p <;> exact hcap

/-- The reports `es`, each with the allocations that succeed while it is handled. -/
def runEach (upcase : UInt16 → UInt16) (t : Tracker) (es : List ((ℕ → Bool) × ProcessEvent)) :
    Tracker :=
  es.foldl (fun t e => t.urstCreateProcessNotify upcase e.1 e.2) t

/-- **The block never outgrows its counters.** -/
theorem capacity_fits {es : List ((ℕ → Bool) × ProcessEvent)} (h : t.Fits)
    (hes : ∀ e ∈ es, IsProcessId e.2.pid) :
    (t.runEach upcase es).trackedCount ≤ (t.runEach upcase es).trackedCapacity ∧
      (t.runEach upcase es).trackedCapacity < 2 ^ 32 := by
  have hrun : (t.runEach upcase es).Fits := by
    induction es generalizing t with
    | nil => exact h
    | cons e es ih =>
      exact ih (h.notify e.1 (hes e (by simp))) fun e' he' => hes e' (by simp [he'])
  have hle := hrun.capacity_le
  exact ⟨hrun.wellFormed.le, by omega⟩

/-- A process on a driver that has no memory for it, and two for which it has. -/
theorem capacity_fits_three :
    let es : List ((ℕ → Bool) × ProcessEvent) := [(fun _ => false, .created 8 (some [97]) 4 4),
      ((· < 33), .created 12 (some [97]) 8 8), ((· < 33), .created 16 (some [98]) 12 12)]
    let t := ({ paths := [[97]] } : Tracker).runEach id es
    t.trackedCount ≤ t.trackedCapacity ∧ t.trackedCapacity < 2 ^ 32 := by
  have hfits : ({ paths := [[97]] } : Tracker).Fits :=
    ⟨⟨rfl, le_rfl, List.nodup_nil⟩, by simp [tracked], by decide⟩
  refine capacity_fits hfits fun e he => ?_
  simp only [List.mem_cons, List.not_mem_nil, or_false] at he
  rcases he with rfl | rfl | rfl <;> exact ⟨by decide, by decide⟩

end Tracker

end UrnetworkWindows.SplitTunnel
