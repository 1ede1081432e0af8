/-
The sweep of a tun that an earlier run left behind (`NetworkConfig::SweepOrphanedTunnel`).

Its candidates are leads of Windows, of which only what the IP stack still has is swept.  What a
sweep takes from the forward table is said exactly by `sweep_takes`; wherever a session was when
its process died, a sweep that finds its interface leaves no capture route on it
(`nothing_stranded`).
The DNS settings it clears are left out.
-/
import UrnetworkWindows.Net.CrashFloor

namespace UrnetworkWindows.Net

open Lib

/-! ### The sweep -/

/-- What is read of a `MIB_IF_ROW2`. -/
structure IfRow where
  interfaceLuid : ℕ
  ifAlias : String
  description : String
  type : ℕ
deriving DecidableEq, Repr

/-- What Windows answers to a sweep: the LUID bound to the GUID, its interfaces, whether the IP
stack has an interface in either family, and whether a route that is there is deleted. -/
structure SweepAnswers where
  byGuid : Option ℕ := none
  ifTable : Option (List IfRow) := none
  ipInterface4 : ℕ → Bool := fun _ => false
  ipInterface6 : ℕ → Bool := fun _ => false
  deletes : ℕ → TunRoute → Bool := fun _ _ => true

/-- A row of the forward table: a capture route on an interface. -/
abbrev Forward := ℕ × TunRoute

def IF_TYPE_PROP_VIRTUAL : ℕ := 53

def IF_TYPE_TUNNEL : ℕ := 131

/-- An interface of our name and of a tunnel's shape. -/
def IfRow.isTun (row : IfRow) (adapterName : String) : Bool :=
  row.ifAlias = adapterName &&
    (row.type = IF_TYPE_PROP_VIRTUAL || row.type = IF_TYPE_TUNNEL ||
      decide ("Wintun".toList <:+: row.description.toList))

/-- `add`, of the eight candidates there is room for. -/
def addCandidate (candidates : List ℕ) (luid : ℕ) : List ℕ :=
  if luid = 0 then candidates
  else if luid ∈ candidates then candidates
  else if candidates.length < 8 then candidates ++ [luid]
  else candidates

section Sweep

variable (ans : SweepAnswers) (adapterName : String)

/-- The LUIDs that are proposed, by the GUID and by the name. -/
def leads : List ℕ :=
  ans.byGuid.toList ++
    if adapterName = "" then []
    else ((ans.ifTable.getD []).filter (·.isTun adapterName)).map (·.interfaceLuid)

/-- `candidates`. -/
def sweepCandidates : List ℕ := (leads ans adapterName).foldl addCandidate []

/-- The evidence: the IP stack has the interface. -/
def SweepAnswers.live (luid : ℕ) : Bool := ans.ipInterface4 luid || ans.ipInterface6 luid

/-- `DeleteTunRoute`: a route that is not there is none. -/
def deleteTunRoute (luid : ℕ) (routes : List Forward) (r : TunRoute) : List Forward :=
  if ans.deletes luid r then routes.filter (· ≠ (luid, r)) else routes

/-- `DeleteTunnelRoutes`. -/
def deleteTunnelRoutes (luid : ℕ) (routes : List Forward) : List Forward :=
  tunnelRoutes.foldl (deleteTunRoute ans luid) routes

/-- `SweepOrphanedTunnel`, from a forward table: the orphans it confirms, and the table after
it. -/
def sweepOrphanedTunnel (remove : Bool) (routes : List Forward) : ℕ × List Forward :=
  (sweepCandidates ans adapterName).foldl (fun (confirmed, routes) luid =>
    if !ans.live luid then (confirmed, routes)
    else (confirmed + 1, if remove then deleteTunnelRoutes ans luid routes else routes)) (0, routes)

/-- The orphans: the candidates that the IP stack has. -/
def orphans : List ℕ := (sweepCandidates ans adapterName).filter ans.live

end Sweep

/-! ### What it takes -/

section Takes

variable {ans : SweepAnswers} {adapterName : String} {luid : ℕ}

lemma mem_deleteRoutes (rs : List TunRoute) (routes : List Forward) (e : Forward) :
    e ∈ rs.foldl (deleteTunRoute ans luid) routes ↔
      e ∈ routes ∧ ¬(e.1 = luid ∧ e.2 ∈ rs ∧ ans.deletes luid e.2 = true) := by
  induction rs generalizing routes with
  | nil => simp
  | cons r rs ih =>
    obtain ⟨luid', r'⟩ := e
    rw [List.foldl_cons, ih, deleteTunRoute]
    split_ifs with hdeletes
    · rw [List.mem_filter, List.mem_cons]
      simp only [ne_eq, Prod.mk.injEq, decide_not, Bool.not_eq_eq_eq_not, Bool.not_true,
        decide_eq_false_iff_not]
      constructor
      · rintro ⟨⟨hmem, hne⟩, hrest⟩
        refine ⟨hmem, fun ⟨hluid, hr, hd⟩ => ?_⟩
        rcases hr with rfl | hr
        · exact hne ⟨hluid, rfl⟩
        · exact hrest ⟨hluid, hr, hd⟩
      · rintro ⟨hmem, hnot⟩
        refine ⟨⟨hmem, ?_⟩, fun ⟨hluid, hr, hd⟩ => hnot ⟨hluid, .inr hr, hd⟩⟩
        rintro ⟨hluid, rfl⟩
        exact hnot ⟨hluid, .inl rfl, hdeletes⟩
    · refine and_congr_right fun _ => not_congr (and_congr_right fun _ => ?_)
      rw [List.mem_cons]
      constructor
      · exact fun ⟨hr, hd⟩ => ⟨.inr hr, hd⟩
      · rintro ⟨rfl | hr, hd⟩
        · exact absurd hd hdeletes
        · exact ⟨hr, hd⟩

lemma addCandidate_cases (candidates : List ℕ) (luid : ℕ) :
    addCandidate candidates luid = candidates ∨
      luid ≠ 0 ∧ luid ∉ candidates ∧ candidates.length < 8 ∧
        addCandidate candidates luid = candidates ++ [luid] := by
  rw [addCandidate]
  split_ifs with hzero hmem hroom
  · exact .inl rfl
  · exact .inl rfl
  · exact .inr ⟨hzero, hmem, hroom, rfl⟩
  · exact .inl rfl

/-- The candidates are leads, each of them once. -/
lemma candidates_of_leads (ls : List ℕ) :
    (ls.foldl addCandidate []).Nodup ∧ (ls.foldl addCandidate []).length ≤ 8 ∧
      ∀ luid ∈ ls.foldl addCandidate [], luid ∈ ls ∧ luid ≠ 0 := by
  induction ls using List.reverseRecOn with
  | nil => simp
  | append_singleton ls luid ih =>
    obtain ⟨hnodup, hlength, hleads⟩ := ih
    rw [List.foldl_append, List.foldl_cons, List.foldl_nil]
    rcases addCandidate_cases (ls.foldl addCandidate []) luid with h | ⟨hzero, hnew, hroom, h⟩
    · rw [h]
      exact ⟨hnodup, hlength, fun l hl => ⟨List.mem_append_left _ (hleads l hl).1, (hleads l hl).2⟩⟩
    · rw [h]
      refine ⟨List.nodup_append.2 ⟨hnodup, List.nodup_singleton _, ?_⟩, ?_, fun l hl => ?_⟩
      · rintro l hl l' hl' rfl
        exact hnew (List.mem_singleton.1 hl' ▸ hl)
      · rw [List.length_append, List.length_singleton]
        exact hroom
      · rcases List.mem_append.1 hl with hl | hl
        · exact ⟨List.mem_append_left _ (hleads l hl).1, (hleads l hl).2⟩
        · obtain rfl := List.mem_singleton.1 hl
          exact ⟨List.mem_concat_self, hzero⟩

lemma sweep_eq (ans : SweepAnswers) (adapterName : String) (remove : Bool)
    (routes : List Forward) :
    (sweepOrphanedTunnel ans adapterName remove routes).1 = (orphans ans adapterName).length ∧
      ∀ e, e ∈ (sweepOrphanedTunnel ans adapterName remove routes).2 ↔
        e ∈ routes ∧ ¬(remove = true ∧ e.1 ∈ orphans ans adapterName ∧ e.2 ∈ tunnelRoutes ∧
          ans.deletes e.1 e.2 = true) := by
  rw [sweepOrphanedTunnel, orphans]
  -- from the end: the last candidate finds the table that the others left
  induction sweepCandidates ans adapterName using List.reverseRecOn with
  | nil => simp
  | append_singleton ls luid ih =>
    rw [List.foldl_append, List.foldl_cons, List.foldl_nil, List.filter_append]
    generalize ls.foldl _ (0, routes) = swept at ih
    obtain ⟨confirmed, routes'⟩ := swept
    obtain ⟨hcount, hmem⟩ := ih
    cases hlive : ans.live luid with
    | false =>
      rw [List.filter_cons_of_neg (by simp [hlive]), List.filter_nil, List.append_nil]
      exact ⟨hcount, hmem⟩
    | true =>
      rw [List.filter_cons_of_pos hlive, List.filter_nil]
      refine ⟨by simpa using hcount, fun e => ?_⟩
      cases remove with
      | false => simpa using hmem e
      | true =>
        simp only [Bool.not_true, Bool.false_eq_true, if_false, if_true]
        rw [deleteTunnelRoutes, mem_deleteRoutes, hmem e]
        rw [List.mem_append, List.mem_singleton]
        by_cases hluid : e.1 = luid
        · simp only [hluid]
          tauto
        · simp only [hluid]
          tauto

/-- A sweep that removes takes exactly the capture routes of the orphans, where their deletion
succeeds; one that only looks takes nothing.  The orphans it counts are at most eight live
interfaces, each the GUID's or a tunnel of our name. -/
theorem sweep_takes (ans : SweepAnswers) (adapterName : String) (remove : Bool)
    (routes : List Forward) :
    (sweepOrphanedTunnel ans adapterName remove routes).1 = (orphans ans adapterName).length ∧
      (∀ e, e ∈ (sweepOrphanedTunnel ans adapterName remove routes).2 ↔
        e ∈ routes ∧ ¬(remove = true ∧ e.1 ∈ orphans ans adapterName ∧ e.2 ∈ tunnelRoutes ∧
          ans.deletes e.1 e.2 = true)) ∧
      (orphans ans adapterName).Nodup ∧ (orphans ans adapterName).length ≤ 8 ∧
      ∀ luid ∈ orphans ans adapterName, luid ≠ 0 ∧ ans.live luid = true ∧
        (ans.byGuid = some luid ∨ ∃ row ∈ ans.ifTable.getD [],
          row.isTun adapterName = true ∧ row.interfaceLuid = luid) := by
  obtain ⟨hnodup, hlength, hleads⟩ := candidates_of_leads (leads ans adapterName)
  refine ⟨(sweep_eq ans adapterName remove routes).1, (sweep_eq ans adapterName remove routes).2,
    hnodup.filter _, (List.length_filter_le ..).trans hlength, fun luid hluid => ?_⟩
  obtain ⟨hluid, hlive⟩ := List.mem_filter.1 hluid
  obtain ⟨hlead, hzero⟩ := hleads luid hluid
  refine ⟨hzero, hlive, ?_⟩
  rw [leads] at hlead
  rcases List.mem_append.1 hlead with hguid | hnamed
  · exact .inl (Option.mem_toList.1 hguid)
  · split_ifs at hnamed
    · exact absurd hnamed List.not_mem_nil
    · obtain ⟨row, hrow, rfl⟩ := List.mem_map.1 hnamed
      obtain ⟨hrow, htun⟩ := List.mem_filter.1 hrow
      exact .inr ⟨row, hrow, htun, rfl⟩

end Takes

/-! ### After a crash -/

section Crash

variable {luid : ℕ} {s s' : Floor}

/-- The routes the owner has still to add. -/
def OwnerAt.toAdd : OwnerAt → List TunRoute
  | addV4 _ rest | addV6 _ rest => rest
  | _ => []

/-- Every route that is there, or is to be added, is a capture route. -/
def Captures (s : Floor) : Prop :=
  (∀ r ∈ s.installed, r ∈ tunnelRoutes) ∧ ∀ r ∈ s.owner.toAdd, r ∈ tunnelRoutes

/-- A route is added, or the owner goes on to give everything back. -/
lemma Captures.add {coin : Bool} {r : TunRoute} {o : OwnerAt}
    (h : ∀ r ∈ s.installed, r ∈ tunnelRoutes) (hr : r ∈ tunnelRoutes)
    (ho : ∀ r ∈ o.toAdd, r ∈ tunnelRoutes)
    (hs : (if coin then some { s.add r with owner := o }
      else some { s with owner := .revertTest true }) = some s') : Captures s' := by
  cases coin with
  | false =>
    cases hs
    exact ⟨h, by simp [OwnerAt.toAdd]⟩
  | true =>
    cases hs
    refine ⟨fun r' hr' => ?_, ho⟩
    rcases List.mem_insert_iff.1 hr' with rfl | hmem
    · exact hr
    · exact h r' hmem

lemma Captures.ownerStep {coin : Bool} (h : Captures s) (hs : ownerStep luid coin s = some s') :
    Captures s' := by
  obtain ⟨armed, installed, config, owner, crash⟩ := s
  obtain ⟨hinst, hadd⟩ := h
  cases owner with
  | idle | returned => exact absurd hs (by simp [Net.ownerStep])
  | check st =>
    simp only [Net.ownerStep] at hs
    split at hs
    · cases hs
      exact ⟨hinst, hadd⟩
    · cases hs
      exact ⟨hinst, hadd⟩
  | arm | disarm | finish =>
    cases hs
    exact ⟨hinst, hadd⟩
  | configure | revertDisarm | revertTest =>
    cases hs
    refine ⟨hinst, ?_⟩
    dsimp only
    split_ifs
    · exact hadd
    · exact hadd
  -- the tables are what is to be added from here on
  | address st =>
    cases hs
    refine ⟨hinst, ?_⟩
    dsimp only
    split_ifs
    · exact hadd
    · exact hadd
    · exact mem_tunnelRoutes_of_v4
  | address6 st =>
    cases hs
    refine ⟨hinst, ?_⟩
    dsimp only
    split_ifs
    · exact mem_tunnelRoutes_of_v4
    · exact hadd
  | addV4 st rest =>
    cases rest with
    | nil =>
      cases hs
      refine ⟨hinst, ?_⟩
      dsimp only
      split_ifs
      · exact mem_tunnelRoutes_of_v6
      · exact hadd
    | cons r rest =>
      obtain ⟨hr, hrest⟩ := List.forall_mem_cons.1 hadd
      exact .add (o := .addV4 st rest) hinst hr hrest hs
  | addV6 st rest =>
    cases rest with
    | nil =>
      cases hs
      exact ⟨hinst, hadd⟩
    | cons r rest =>
      obtain ⟨hr, hrest⟩ := List.forall_mem_cons.1 hadd
      exact .add (o := .addV6 st rest) hinst hr hrest hs
  -- and only routes that were there are left after a revert
  | revertRoutes inApply rest =>
    cases rest with
    | nil =>
      cases hs
      exact ⟨hinst, hadd⟩
    | cons r rest =>
      cases hs
      exact ⟨fun r' hr' => hinst r' (mem_delete hr'), hadd⟩

lemma Captures.step {a : FloorLabel} (h : Captures s) (hs : floorStep luid s a = some s') :
    Captures s' := by
  cases a with
  | apply st =>
    simp only [floorStep, guard_eq_some] at hs
    obtain ⟨-, rfl⟩ := hs
    exact ⟨h.1, by simp [OwnerAt.toAdd]⟩
  | revert =>
    simp only [floorStep] at hs
    split at hs
    · cases hs
      exact ⟨h.1, by simp [OwnerAt.toAdd]⟩
    · exact absurd hs (by simp)
  | owner coin => exact h.ownerStep hs
  | crashRevert =>
    cases hs
    exact h
  | delete i coin =>
    simp only [floorStep] at hs
    split at hs
    · cases hs
      exact ⟨fun r hr => h.1 r (mem_delete hr), h.2⟩
    · exact absurd hs (by simp)

/-- The forward table of a machine: what a session's tun holds, among the routes of others. -/
def forwardTable (luid : ℕ) (s : Floor) (others : List Forward) : List Forward :=
  others ++ s.installed.map fun r => (luid, r)

/-- Wherever the session was when its process died, and whatever failed before, a sweep of the next
start that finds its interface leaves no capture route on it, if no deletion fails: none of the
session's, and none that anything else put there.  It leaves every route of an interface that is
no orphan, and every route that is no capture route. -/
theorem nothing_stranded (luid : ℕ) {es : List (Transition Floor FloorLabel)} {s : Floor}
    (hrun : FloorRuns luid (fun _ _ => True) es s) (ans : SweepAnswers) (adapterName : String)
    (hfound : luid ∈ orphans ans adapterName) (hdeletes : ∀ r, ans.deletes luid r = true)
    (others : List Forward) :
    (∀ r, r ∈ s.installed ∨ r ∈ tunnelRoutes → (luid, r) ∉
      (sweepOrphanedTunnel ans adapterName true (forwardTable luid s others)).2) ∧
    ∀ e ∈ others, e.1 ∉ orphans ans adapterName ∨ e.2 ∉ tunnelRoutes →
      e ∈ (sweepOrphanedTunnel ans adapterName true (forwardTable luid s others)).2 := by
  have hcaptures : Captures s := hrun.invariant (P := fun _ s => Captures s)
    (fun s hs => by
      obtain rfl := hs
      exact ⟨by simp, by simp [OwnerAt.toAdd]⟩)
    (fun _ _ _ _ ih hstep => ih.step hstep.1)
  have hmem := (sweep_eq ans adapterName true (forwardTable luid s others)).2
  constructor
  · intro r hr hleft
    obtain ⟨-, hkept⟩ := (hmem _).1 hleft
    exact hkept ⟨rfl, hfound, hr.elim (hcaptures.1 r) id, hdeletes r⟩
  · intro e he hnot
    refine (hmem e).2 ⟨List.mem_append_left _ he, fun h => ?_⟩
    exact hnot.elim (fun hno => hno h.2.1) fun hno => hno h.2.2.1

end Crash

/-- The process dies after two routes of an `Apply`; the routes of the tun are swept, the session's
and another's, and a neighbour's stays. -/
theorem nothing_stranded_two_routes :
    ∃ es s, FloorRuns 7 (fun _ _ => True) es s ∧ s.installed.length = 2 ∧
      ∃ ans others, others ≠ [] ∧
        (∀ r, r ∈ s.installed ∨ r ∈ tunnelRoutes →
          (7, r) ∉ (sweepOrphanedTunnel ans "URnetwork" true (forwardTable 7 s others)).2) ∧
        ∀ e ∈ others, e.1 ∉ orphans ans "URnetwork" ∨ e.2 ∉ tunnelRoutes →
          e ∈ (sweepOrphanedTunnel ans "URnetwork" true (forwardTable 7 s others)).2 := by
  obtain ⟨es, s, hrun, hgood⟩ := Run.exists_of_cond (floorStep 7) (fun _ _ => True) {}
    applyTwoRoutes (fun s => s.installed.length = 2) (by decide +kernel)
  refine ⟨es, s, hrun, of_decide_eq_true hgood,
    { byGuid := some 7, ipInterface4 := fun luid => luid = 7 },
    [(3, .v4 ⟨0, 0⟩), (7, .v4 ⟨0, 0⟩)], by simp, ?_⟩
  exact nothing_stranded 7 hrun _ _ (by decide) (fun _ => rfl) _

end UrnetworkWindows.Net
