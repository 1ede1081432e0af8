/-
The capture routes and the crash floor (`NetworkConfig::Apply`, `Revert`,
`CrashRevert`).

One session's adapter has one LUID.  Its owner makes a `NetworkConfig`, applies it and
later reverts it, any number of times and under the session lock, so one call after the
other; the floor runs on any number of other threads at any time.  Every route call is
a step of its own and may fail.

Of the settings only their validity and whether they carry IPv6 are read here.  DNS,
the MTU, the addresses and the log are left out but for the failures they can end an
`Apply` with.
-/
import UrnetworkWindows.Lib.Trace
import UrnetworkWindows.Net.Policy

namespace UrnetworkWindows.Net

open Lib

/-! ### The model -/

/-- A capture route of the tun. -/
inductive TunRoute
  | v4 (p : V4Prefix)
  | v6 (p : V6Prefix)
deriving DecidableEq, Repr

def kIncludedV4Routes : List TunRoute := kTunCaptureV4.map .v4

def kIncludedV6Routes : List TunRoute := kTunCaptureV6.map .v6

/-- The routes of `DeleteTunnelRoutes`, in its order: both families, always. -/
def tunnelRoutes : List TunRoute := kIncludedV4Routes ++ kIncludedV6Routes

/-- What `Apply` reads of its settings: `IsValidTunnelSettings` and `HasIpv6`. -/
structure TunnelSettings where
  valid : Bool := true
  hasIpv6 : Bool := false
deriving DecidableEq, Repr

/-- The members of a `NetworkConfig`; `settings` is none while they are empty. -/
structure NetworkConfig where
  settings : Option TunnelSettings := none
  applied : Bool := false
  appliedIpv6 : Bool := false
deriving DecidableEq, Repr

/-- The next statement of the owner.  A `Revert` knows whether `Apply` called it. -/
inductive OwnerAt
  | idle
  | check (st : TunnelSettings)
  | arm (st : TunnelSettings)
  | configure (st : TunnelSettings)
  | disarm
  | address (st : TunnelSettings)
  | address6 (st : TunnelSettings)
  | addV4 (st : TunnelSettings) (rest : List TunRoute)
  | addV6 (st : TunnelSettings) (rest : List TunRoute)
  | finish (st : TunnelSettings)
  | revertTest (inApply : Bool)
  | revertRoutes (inApply : Bool) (rest : List TunRoute)
  | revertDisarm (inApply : Bool)
  | returned (ok : Bool)
deriving DecidableEq, Repr

/-- `g_armedTunLuid`, the installed routes, the owner's configuration and next
statement, and for each run of the floor the routes it has still to delete. -/
structure Floor where
  armed : ℕ := 0
  installed : List TunRoute := []
  config : NetworkConfig := {}
  owner : OwnerAt := .idle
  crash : List (List TunRoute) := []
deriving DecidableEq, Repr

/-- Who goes on: the owner begins an `Apply` or a `Revert` or takes its next step, the
floor is run by one more thread, or one of its runs goes on.  The coin says whether
the call succeeds. -/
inductive FloorLabel
  | apply (st : TunnelSettings)
  | revert
  | owner (coin : Bool)
  | crashRevert
  | delete (i : ℕ) (coin : Bool)
deriving DecidableEq, Repr

/-- `AddTunRoute`, when it succeeds: a route that is there already is none. -/
def Floor.add (r : TunRoute) (s : Floor) : Floor := { s with installed := s.installed.insert r }

/-- `DeleteTunRoute`: a failure leaves the route. -/
def Floor.delete (r : TunRoute) (coin : Bool) (s : Floor) : Floor :=
  { s with installed := if coin then s.installed.filter (· ≠ r) else s.installed }

section Step

variable (luid : ℕ)

/-- The next step of the owner. -/
def ownerStep (coin : Bool) (s : Floor) : Option Floor :=
  match s.owner with
  | .idle => none
  | .check st =>
    if st.valid then
      some { s with owner := .arm st, config := { s.config with settings := some st } }
    else some { s with owner := .returned false }
  | .arm st => some { s with owner := .configure st, armed := luid }
  | .configure st => some { s with owner := if coin then .address st else .disarm }
  | .disarm => some { s with owner := .returned false, armed := 0 }
  | .address st => some { s with
      owner := if !coin then .returned false
        else if st.hasIpv6 then .address6 st else .addV4 st kIncludedV4Routes }
  | .address6 st => some { s with
      owner := if coin then .addV4 st kIncludedV4Routes else .returned false }
  | .addV4 st (r :: rest) =>
    if coin then some { s.add r with owner := .addV4 st rest }
    else some { s with owner := .revertTest true }
  | .addV4 st [] => some { s with
      owner := if st.hasIpv6 then .addV6 st kIncludedV6Routes else .finish st }
  | .addV6 st (r :: rest) =>
    if coin then some { s.add r with owner := .addV6 st rest }
    else some { s with owner := .revertTest true }
  | .addV6 st [] => some { s with
      owner := .finish st, config := { s.config with appliedIpv6 := true } }
  | .finish _ => some { s with
      owner := .returned true, config := { s.config with applied := true } }
  | .revertTest inApply => some { s with
      owner := if !s.config.applied && s.config.settings.isNone then .revertDisarm inApply
        else .revertRoutes inApply tunnelRoutes }
  | .revertRoutes inApply (r :: rest) => some { s.delete r coin with
      owner := .revertRoutes inApply rest }
  | .revertRoutes inApply [] => some { s with
      owner := .revertDisarm inApply
      config := { s.config with applied := false, appliedIpv6 := false } }
  | .revertDisarm inApply => some { s with
      owner := if inApply then .returned false else .idle, armed := 0 }
  | .returned _ => none

/-- One step of the whole. -/
def floorStep (s : Floor) : FloorLabel → Option Floor
  | .apply st => if s.owner = .idle then some { s with owner := .check st, config := {} } else none
  | .revert =>
    match s.owner with
    | .returned _ => some { s with owner := .revertTest false }
    | _ => none
  | .owner coin => ownerStep luid coin s
  | .crashRevert => some { s with
      armed := 0
      crash := s.crash ++ [if s.armed = 0 then [] else tunnelRoutes] }
  | .delete i coin =>
    match s.crash[i]? with
    | some (r :: rest) => some { s.delete r coin with crash := s.crash.set i rest }
    | _ => none

/-- The next call of the owner adds a route. -/
def OwnerAt.adds : OwnerAt → Bool
  | addV4 _ (_ :: _) | addV6 _ (_ :: _) => true
  | _ => false

/-- The route the next call of the owner deletes. -/
def OwnerAt.deletes : OwnerAt → Option TunRoute
  | revertRoutes _ (r :: _) => some r
  | _ => none

/-- What is asked of a step: a route is added while the floor is armed, and a route
that is there is deleted. -/
def FloorKept (s : Floor) : FloorLabel → Prop
  | .owner coin =>
    (s.owner.adds = true → coin = true → s.armed = luid) ∧
      ∀ r ∈ s.owner.deletes, r ∈ s.installed → coin = true
  | .delete i coin => ∀ r ∈ s.crash[i]?.bind List.head?, r ∈ s.installed → coin = true
  | .apply _ | .revert | .crashRevert => True

instance (s : Floor) (a : FloorLabel) : Decidable (FloorKept luid s a) :=
  match a with
  | .owner _ => inferInstanceAs (Decidable (_ ∧ _))
  | .delete i coin =>
    inferInstanceAs (Decidable (∀ r ∈ s.crash[i]?.bind List.head?, r ∈ s.installed → coin = true))
  | .apply _ | .revert | .crashRevert => .isTrue trivial

/-- The runs in which every step meets a condition, from a machine without the tun. -/
abbrev FloorRuns (cond : Floor → FloorLabel → Prop) :
    List (Transition Floor FloorLabel) → Floor → Prop :=
  Run (· = {}) fun _ s a s' => floorStep luid s a = some s' ∧ cond s a

end Step

/-- The owner is within a `Revert`. -/
def OwnerAt.reverting : OwnerAt → Bool
  | revertTest _ | revertRoutes _ _ | revertDisarm _ => true
  | _ => false

/-- Some revert is part-way. -/
def Floor.PartWay (s : Floor) : Prop := s.owner.reverting = true ∨ ∃ rest ∈ s.crash, rest ≠ []

/-- The floor can take every installed route back: unless a revert is part-way the
LUID is armed while a route is installed, and no route is installed, or it is armed,
after an `Apply` that returned false and after a `Revert`. -/
structure TakesBack (luid : ℕ) (s : Floor) : Prop where
  armed : ¬ s.PartWay → s.installed ≠ [] → s.armed = luid
  failed : s.owner = .returned false → s.installed = [] ∨ s.armed = luid
  reverted : s.owner = .idle → s.installed = [] ∨ s.armed = luid

/-! ### The invariant -/

section Invariant

variable {luid : ℕ} {s s' : Floor}

/-- What holds at each statement of the owner. -/
def OwnerOk (s : Floor) : Prop :=
  match s.owner with
  | .idle | .check _ | .disarm | .revertDisarm _ | .returned false => s.installed = []
  | .arm _ | .configure _ | .address _ | .address6 _ =>
    s.installed = [] ∧ s.config.settings ≠ none
  | .addV4 _ rest | .addV6 _ rest =>
    s.config.settings ≠ none ∧ ∀ r ∈ rest, r ∈ tunnelRoutes
  | .finish _ | .returned true => s.config.settings ≠ none
  | .revertTest _ => s.config.settings = none → s.installed = []
  | .revertRoutes _ rest => ∀ r ∈ s.installed, r ∈ rest

/-- A run of the floor still has every installed route before it. -/
def Covered (s : Floor) : Prop := ∃ rest ∈ s.crash, ∀ r ∈ s.installed, r ∈ rest

/-- The invariant of the floor. -/
structure FloorOk (luid : ℕ) (s : Floor) : Prop where
  known : ∀ r ∈ s.installed, r ∈ tunnelRoutes
  armed : s.armed = luid ∨ s.armed = 0 ∧ (s.installed = [] ∨ Covered s)
  owner : OwnerOk s

variable {coin : Bool}

lemma mem_delete {r r' : TunRoute} (h : r' ∈ (s.delete r coin).installed) : r' ∈ s.installed := by
  cases coin
  · exact h
  · exact (List.mem_filter.1 h).1

lemma ne_of_mem_delete {r r' : TunRoute} (hcoin : r ∈ s.installed → coin = true)
    (h : r' ∈ (s.delete r coin).installed) : r' ≠ r := by
  rintro rfl
  obtain rfl := hcoin (mem_delete h)
  simp [Floor.delete] at h

lemma delete_eq_nil {r : TunRoute} (h : s.installed = []) : (s.delete r coin).installed = [] := by
  rw [List.eq_nil_iff_forall_not_mem]
  intro r' hr'
  have hmem := mem_delete hr'
  rw [h] at hmem
  exact absurd hmem (by simp)

lemma mem_tunnelRoutes_of_v4 : ∀ r ∈ kIncludedV4Routes, r ∈ tunnelRoutes :=
  fun _ h => List.mem_append_left _ h

lemma mem_tunnelRoutes_of_v6 : ∀ r ∈ kIncludedV6Routes, r ∈ tunnelRoutes :=
  fun _ h => List.mem_append_right _ h

/-- A step that changes neither the routes nor the LUID keeps what does not speak of
the owner. -/
lemma FloorOk.of_eq (h : FloorOk luid s) (hinst : s'.installed = s.installed)
    (harmed : s'.armed = s.armed) (hcrash : s'.crash = s.crash) (howner : OwnerOk s') :
    FloorOk luid s' := by
  refine ⟨by rw [hinst]; exact h.known, ?_, howner⟩
  rw [harmed, hinst, Covered, hinst, hcrash]
  exact h.armed

lemma FloorOk.add (h : FloorOk luid s) {r : TunRoute} {o : OwnerAt} (hr : r ∈ tunnelRoutes)
    (harmed : s.armed = luid) (howner : OwnerOk { s.add r with owner := o }) :
    FloorOk luid { s.add r with owner := o } := by
  refine ⟨fun r' hr' => ?_, .inl harmed, howner⟩
  rcases List.mem_insert_iff.1 hr' with rfl | hmem
  · exact hr
  · exact h.known r' hmem

/-- A deletion keeps the floor when every run of it that is part-way goes on covering
what is left. -/
lemma FloorOk.delete {r : TunRoute} {o : OwnerAt} {crash : List (List TunRoute)}
    (h : FloorOk luid s)
    (hcrash : ∀ rest ∈ s.crash, ∃ rest' ∈ crash, ∀ r' ∈ (s.delete r coin).installed, r' ∈ rest →
    r' ∈ rest') (howner : OwnerOk { s.delete r coin with owner := o, crash := crash }) :
    FloorOk luid { s.delete r coin with owner := o, crash := crash } := by
  have harmed : (s.delete r coin).armed = s.armed := rfl
  refine ⟨fun r' hr' => h.known r' (mem_delete hr'), ?_, howner⟩
  rcases h.armed with hluid | ⟨hzero, hnil | ⟨rest, hrest, hall⟩⟩
  · exact .inl (harmed.trans hluid)
  · exact .inr ⟨harmed.trans hzero, .inl (delete_eq_nil hnil)⟩
  · obtain ⟨rest', hrest', hsub⟩ := hcrash rest hrest
    refine .inr ⟨harmed.trans hzero, .inr ⟨rest', hrest', fun r' hr' => ?_⟩⟩
    exact hsub r' hr' (hall r' (mem_delete hr'))

lemma FloorOk.ownerStep (h : FloorOk luid s) (hkept : FloorKept luid s (.owner coin))
    (hs : ownerStep luid coin s = some s') : FloorOk luid s' := by
  have ho := h.owner
  obtain ⟨armed, installed, config, owner, crash⟩ := s
  cases owner with
  | idle | returned => exact absurd hs (by simp [Net.ownerStep])
  | check st =>
    simp only [Net.ownerStep] at hs
    split at hs
    · cases hs
      exact h.of_eq rfl rfl rfl ⟨ho, by simp⟩
    · cases hs
      exact h.of_eq rfl rfl rfl ho
  | arm st =>
    cases hs
    exact ⟨h.known, .inl rfl, ho⟩
  | configure st =>
    cases hs
    cases coin
    · exact h.of_eq rfl rfl rfl ho.1
    · exact h.of_eq rfl rfl rfl ho
  | disarm =>
    cases hs
    exact ⟨h.known, .inr ⟨rfl, .inl ho⟩, ho⟩
  | address st =>
    cases hs
    obtain ⟨valid, hasIpv6⟩ := st
    cases coin <;> cases hasIpv6
    · exact h.of_eq rfl rfl rfl ho.1
    · exact h.of_eq rfl rfl rfl ho.1
    · exact h.of_eq rfl rfl rfl ⟨ho.2, mem_tunnelRoutes_of_v4⟩
    · exact h.of_eq rfl rfl rfl ho
  | address6 st =>
    cases hs
    cases coin
    · exact h.of_eq rfl rfl rfl ho.1
    · exact h.of_eq rfl rfl rfl ⟨ho.2, mem_tunnelRoutes_of_v4⟩
  | addV4 st rest =>
    cases rest with
    | nil =>
      cases hs
      obtain ⟨valid, hasIpv6⟩ := st
      cases hasIpv6
      · exact h.of_eq rfl rfl rfl ho.1
      · exact h.of_eq rfl rfl rfl ⟨ho.1, mem_tunnelRoutes_of_v6⟩
    | cons r rest =>
      have hmem := List.forall_mem_cons.1 ho.2
      cases coin
      · cases hs
        exact h.of_eq rfl rfl rfl fun hnone => absurd hnone ho.1
      · cases hs
        exact h.add hmem.1 (hkept.1 rfl rfl) ⟨ho.1, hmem.2⟩
  | addV6 st rest =>
    cases rest with
    | nil =>
      cases hs
      exact h.of_eq rfl rfl rfl ho.1
    | cons r rest =>
      have hmem := List.forall_mem_cons.1 ho.2
      cases coin
      · cases hs
        exact h.of_eq rfl rfl rfl fun hnone => absurd hnone ho.1
      · cases hs
        exact h.add hmem.1 (hkept.1 rfl rfl) ⟨ho.1, hmem.2⟩
  | finish st =>
    cases hs
    exact h.of_eq rfl rfl rfl ho
  | revertTest inApply =>
    cases hs
    refine h.of_eq rfl rfl rfl ?_
    -- nothing can be installed by a configuration that never took any settings
    dsimp only
    split
    · next htest =>
      rw [Bool.and_eq_true, Option.isNone_iff_eq_none] at htest
      exact ho htest.2
    · exact h.known
  | revertRoutes inApply rest =>
    cases rest with
    | nil =>
      cases hs
      refine h.of_eq rfl rfl rfl (List.eq_nil_iff_forall_not_mem.2 fun r hr => ?_)
      exact absurd (ho r hr) (by simp)
    | cons r rest =>
      cases hs
      refine h.delete (fun rest' hrest' => ⟨rest', hrest', fun r' _ => id⟩) ?_
      intro r' hr'
      have hne : r' ≠ r := ne_of_mem_delete (hkept.2 r rfl) hr'
      rcases List.mem_cons.1 (ho r' (mem_delete hr')) with rfl | hmem
      · exact absurd rfl hne
      · exact hmem
  | revertDisarm inApply =>
    cases hs
    cases inApply
    · exact ⟨h.known, .inr ⟨rfl, .inl ho⟩, ho⟩
    · exact ⟨h.known, .inr ⟨rfl, .inl ho⟩, ho⟩

lemma OwnerOk.delete {r : TunRoute} {crash : List (List TunRoute)} (h : OwnerOk s) :
    OwnerOk { s.delete r coin with crash := crash } := by
  have hnil : s.installed = [] → (s.delete r coin).installed = [] := delete_eq_nil
  have hmem : ∀ r' ∈ (s.delete r coin).installed, r' ∈ s.installed := fun r' => mem_delete
  obtain ⟨armed, installed, config, owner, crash₀⟩ := s
  cases owner with
  | idle | check | disarm | revertDisarm => exact hnil h
  | arm | configure | address | address6 => exact ⟨hnil h.1, h.2⟩
  | addV4 | addV6 | finish => exact h
  | revertTest => exact fun hn => hnil (h hn)
  | revertRoutes b rest => exact fun r' hr' => h r' (hmem r' hr')
  | returned ok =>
    cases ok
    · exact hnil h
    · exact h

lemma FloorOk.step {a : FloorLabel} (h : FloorOk luid s) (hkept : FloorKept luid s a)
    (hs : floorStep luid s a = some s') : FloorOk luid s' := by
  cases a with
  | apply st =>
    simp only [floorStep, guard_eq_some] at hs
    obtain ⟨hidle, rfl⟩ := hs
    have ho := h.owner
    rw [OwnerOk, hidle] at ho
    exact h.of_eq rfl rfl rfl ho
  | revert =>
    simp only [floorStep] at hs
    split at hs
    · next ok hreturned =>
      cases hs
      have ho := h.owner
      rw [OwnerOk, hreturned] at ho
      refine h.of_eq rfl rfl rfl fun hnone => ?_
      cases ok
      · exact ho
      · exact absurd hnone ho
    · exact absurd hs (by simp)
  | owner coin => exact h.ownerStep hkept hs
  | crashRevert =>
    cases hs
    refine ⟨h.known, ?_, h.owner⟩
    by_cases hzero : s.armed = 0
    · rcases h.armed with hluid | ⟨-, hnil | ⟨rest, hrest, hall⟩⟩
      · exact .inl (hzero ▸ hluid)
      · exact .inr ⟨rfl, .inl hnil⟩
      · exact .inr ⟨rfl, .inr ⟨rest, List.mem_append_left _ hrest, hall⟩⟩
    · -- this run took the LUID, and all that is installed is before it
      refine .inr ⟨rfl, .inr ⟨tunnelRoutes, ?_, h.known⟩⟩
      simp [hzero]
  | delete i coin =>
    simp only [floorStep] at hs
    split at hs
    · next r rest hi =>
      cases hs
      replace hkept : r ∈ s.installed → coin = true := hkept r (by rw [hi]; rfl)
      refine h.delete (fun rest₀ hrest₀ => ?_) h.owner.delete
      refine exists_mem_set ⟨rest₀, hrest₀, fun r' _ => id⟩ hi fun hall r' hr' hmem => ?_
      -- the run that deletes has the others of its routes left
      rcases List.mem_cons.1 (hall r' hr' hmem) with rfl | hrest
      · exact absurd rfl (ne_of_mem_delete hkept hr')
      · exact hrest
    · exact absurd hs (by simp)

lemma FloorOk.takesBack (h : FloorOk luid s) : TakesBack luid s where
  armed hpart hne := by
    rcases h.armed with hluid | ⟨-, hnil | ⟨rest, hrest, hall⟩⟩
    · exact hluid
    · exact absurd hnil hne
    · -- the run that covers the routes would be part-way
      obtain ⟨r, hr⟩ := List.exists_mem_of_ne_nil _ hne
      exact absurd (.inr ⟨rest, hrest, List.ne_nil_of_mem (hall r hr)⟩) hpart
  failed hreturned := by
    have ho := h.owner
    rw [OwnerOk, hreturned] at ho
    exact .inl ho
  reverted hidle := by
    have ho := h.owner
    rw [OwnerOk, hidle] at ho
    exact .inl ho

/-- In every run in which a route is added only while the floor is armed, and no
deletion of an installed route fails, the floor can take every installed route back
in every state. -/
theorem floor_takes_back (luid : ℕ) {es : List (Transition Floor FloorLabel)} {s : Floor}
    (hrun : FloorRuns luid (FloorKept luid) es s) : TakesBack luid s := by
  have hok : FloorOk luid s := hrun.invariant (P := fun _ s => FloorOk luid s)
    (fun s hs => by
      obtain rfl := hs
      exact ⟨by simp, .inr ⟨rfl, .inl rfl⟩, rfl⟩)
    (fun _ _ _ _ ih hstep => ih.step hstep.2 hstep.1)
  exact hok.takesBack

end Invariant

/-- The labels of an `Apply` up to its second route. -/
def applyTwoRoutes : List FloorLabel := .apply {} :: List.replicate 6 (.owner true)

/-- After two routes of an `Apply` the floor is armed. -/
theorem floor_takes_back_two_routes :
    ∃ es s, FloorRuns 7 (FloorKept 7) es s ∧ s.installed.length = 2 ∧ ¬ s.PartWay ∧
      s.armed = 7 := by
  obtain ⟨es, s, hrun, hgood⟩ := Run.exists_of_cond (floorStep 7) (FloorKept 7) {} applyTwoRoutes
    (fun s => s.installed.length = 2 && !s.owner.reverting && s.crash = [])
    (by decide +kernel)
  simp only [Bool.and_eq_true, decide_eq_true_eq, Bool.not_eq_true'] at hgood
  obtain ⟨⟨hlen, howner⟩, hcrash⟩ := hgood
  have hpart : ¬ s.PartWay := by
    rintro (hreverting | ⟨rest, hrest, -⟩)
    · rw [howner] at hreverting
      exact absurd hreverting (by simp)
    · rw [hcrash] at hrest
      exact absurd hrest (by simp)
  have hne : s.installed ≠ [] := by
    rintro hnil
    rw [hnil] at hlen
    exact absurd hlen (by simp)
  exact ⟨es, s, hrun, hlen, hpart, (floor_takes_back 7 hrun).armed hpart hne⟩

/-- The floor runs to its end after the first route of an `Apply`, which goes on with
its second: that route stays, and the floor is no longer armed. -/
theorem floor_disarmed_within_apply :
    ∃ es s, FloorRuns 7 (fun _ _ => True) es s ∧ ¬ TakesBack 7 s := by
  obtain ⟨es, s, hrun, hgood⟩ := Run.exists_of_cond (floorStep 7) (fun _ _ => True) {}
    (.apply {} :: List.replicate 5 (FloorLabel.owner true) ++ [FloorLabel.crashRevert] ++
      List.replicate tunnelRoutes.length (FloorLabel.delete 0 true) ++ [FloorLabel.owner true])
    (fun s => s.armed = 0 && s.installed.length = 1 && !s.owner.reverting && s.crash = [[]])
    (by decide +kernel)
  simp only [Bool.and_eq_true, decide_eq_true_eq, Bool.not_eq_true'] at hgood
  obtain ⟨⟨⟨harmed, hlen⟩, howner⟩, hcrash⟩ := hgood
  refine ⟨es, s, hrun, fun h => ?_⟩
  have hluid := h.armed ?_ ?_
  · rw [harmed] at hluid
    exact absurd hluid (by decide)
  · rintro (hreverting | ⟨rest, hrest, hne⟩)
    · rw [howner] at hreverting
      exact absurd hreverting (by simp)
    · rw [hcrash] at hrest
      exact hne (List.mem_singleton.1 hrest)
  · rintro hnil
    rw [hnil] at hlen
    exact absurd hlen (by simp)

end UrnetworkWindows.Net
