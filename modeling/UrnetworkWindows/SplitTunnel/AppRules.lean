/-
The per-app rules of the app, from the user's writes to the driver's decision (`SdkHost.cpp`).

One list of overrides holds the app rules, each for the image path in its `AppIds`, and the host
rules.  A write edits the list; `ComputeAppSplit` turns it into the paths and the mode that the
service sends to the driver.  `Shaped` is what the writes keep, and `appRules` reads the rules of
such a list off.

The identifiers of new overrides are what the SDK hands out.  Left out are the fields of an
override that nothing here reads.
-/
import Mathlib.Data.List.Induction
import UrnetworkWindows.SplitTunnel.Push

namespace UrnetworkWindows.SplitTunnel

/-- `urnet::RouteOverride`, as far as it is read here. -/
structure RouteOverride where
  isLocal : Bool
deriving DecidableEq, Repr

/-- `urnet::BlockActionOverride`. -/
structure BlockActionOverride where
  overrideId : Option String := none
  appIds : Option (List String) := none
  hosts : Option (List String) := none
  blockOverride : Option Bool := none
  routeOverride : Option RouteOverride := none
deriving DecidableEq, Repr

namespace BlockActionOverride

/-- The path an app rule is keyed by: the front of `AppIds`, unless there is none. -/
def path? (ov : BlockActionOverride) : Option String := ov.appIds.bind List.head?

/-- An app rule names one path and says where it goes. -/
def IsRule (ov : BlockActionOverride) (path : String) (isLocal : Bool) : Prop :=
  ov.appIds = some [path] ∧ ov.routeOverride = some ⟨isLocal⟩

instance (ov : BlockActionOverride) (path : String) (isLocal : Bool) :
    Decidable (ov.IsRule path isLocal) :=
  inferInstanceAs (Decidable (_ ∧ _))

/-- The rule of an override, if it is an app rule. -/
def rule? (ov : BlockActionOverride) : Option (String × Bool) :=
  ov.path?.bind fun path => ov.routeOverride.map fun route => (path, route.isLocal)

end BlockActionOverride

open BlockActionOverride

/-! ### The list -/

/-- `UrstUpsertAppRule`, with the identifier a new rule gets. -/
def urstUpsertAppRule (newId : String) (imagePath : String) (includeInTunnel : Bool) :
    List BlockActionOverride → List BlockActionOverride
  | [] =>
    [{ overrideId := some newId
       appIds := some [imagePath]
       routeOverride := some ⟨!includeInTunnel⟩ }]
  | ov :: list =>
    if ov.path? = some imagePath then
      { ov with routeOverride := some ⟨!includeInTunnel⟩ } :: list
    else ov :: urstUpsertAppRule newId imagePath includeInTunnel list

/-- `UrstRemoveAppRule`. -/
def urstRemoveAppRule (imagePath : String) (list : List BlockActionOverride) :
    List BlockActionOverride :=
  list.filter fun ov => ov.path? ≠ some imagePath

/-- One round of the loop of `ComputeAppSplit`, with the lists `bypass` and `tunnel`. -/
def splitOne (s : List String × List String) (ov : BlockActionOverride) :
    List String × List String :=
  match ov.appIds with
  | none | some [] => s
  | some ids =>
    if ov.routeOverride.any RouteOverride.isLocal then (s.1 ++ ids, s.2) else (s.1, s.2 ++ ids)

/-- `ComputeAppSplit`: the paths, and whether they are an allowlist. -/
def computeAppSplit (overrides : List BlockActionOverride) : List String × Bool :=
  match overrides.foldl splitOne ([], []) with
  | (bypass, []) => (bypass, false)
  | (_, tunnel) => (tunnel, true)

/-- A write to the list: of a rule, with the identifier it gets if it is a new one, or of no
rule. -/
inductive Write
  | upsert (newId imagePath : String) (includeInTunnel : Bool)
  | remove (imagePath : String)
deriving DecidableEq, Repr

namespace Write

/-- The path a write is about. -/
def imagePath : Write → String
  | upsert _ imagePath _ => imagePath
  | remove imagePath => imagePath

/-- The rule a write asks for: whether the app bypasses the tunnel, or no rule. -/
def rule : Write → Option Bool
  | upsert _ _ includeInTunnel => some !includeInTunnel
  | remove _ => none

/-- The list after a write. -/
def apply (list : List BlockActionOverride) : Write → List BlockActionOverride
  | upsert newId imagePath includeInTunnel => urstUpsertAppRule newId imagePath includeInTunnel list
  | remove imagePath => urstRemoveAppRule imagePath list

end Write

/-- The list after some writes. -/
def written (list : List BlockActionOverride) (writes : List Write) : List BlockActionOverride :=
  writes.foldl Write.apply list

@[simp] lemma written_snoc (list : List BlockActionOverride) (writes : List Write) (w : Write) :
    written list (writes ++ [w]) = w.apply (written list writes) := by
  simp [written]

/-- What the last write to a path asked for. -/
def lastWrite (writes : List Write) (path : String) : Option (Option Bool) :=
  (writes.reverse.find? fun w => w.imagePath = path).map Write.rule

/-- The paths of the app rules. -/
def appPaths (list : List BlockActionOverride) : List String := list.filterMap path?

/-- The app rules, each with its path and whether the app bypasses the tunnel. -/
def appRules (list : List BlockActionOverride) : List (String × Bool) := list.filterMap rule?

/-- The host rules. -/
def hostRules (list : List BlockActionOverride) : List BlockActionOverride :=
  list.filter fun ov => ov.path?.isNone

/-- Every app rule names one path and carries a route, and no path comes twice. -/
structure Shaped (list : List BlockActionOverride) : Prop where
  rule : ∀ ov ∈ list, ∀ path, ov.path? = some path → ∃ isLocal, ov.IsRule path isLocal
  nodup : (appPaths list).Nodup

/-- The driver's rule, on the paths and the mode it was sent. -/
def bypasses (split : List String × Bool) (imagePath : String) : Bool :=
  !split.1.isEmpty && (split.1.contains imagePath != split.2)

/-! ### Rules of a list -/

variable {list : List BlockActionOverride} {ov : BlockActionOverride} {newId path : String}
  {includeInTunnel : Bool}

variable {isLocal : Bool}

lemma BlockActionOverride.IsRule.path?_eq (h : ov.IsRule path isLocal) : ov.path? = some path := by
  rw [path?, h.1]
  rfl

lemma BlockActionOverride.IsRule.rule?_eq (h : ov.IsRule path isLocal) :
    ov.rule? = some (path, isLocal) := by
  rw [rule?, h.path?_eq, h.2]
  rfl

lemma mem_appPaths : path ∈ appPaths list ↔ ∃ ov ∈ list, ov.path? = some path :=
  List.mem_filterMap

lemma mem_appRules :
    (path, isLocal) ∈ appRules list ↔ ∃ ov ∈ list, ov.rule? = some (path, isLocal) :=
  List.mem_filterMap

lemma path?_of_rule? (h : ov.rule? = some (path, isLocal)) : ov.path? = some path := by
  obtain ⟨p, hp, h⟩ := Option.bind_eq_some_iff.1 h
  obtain ⟨route, -, h⟩ := Option.map_eq_some_iff.1 h
  rw [hp, (Prod.mk.inj h).1]

lemma mem_appPaths_of_mem_appRules (h : (path, isLocal) ∈ appRules list) :
    path ∈ appPaths list := by
  obtain ⟨ov, hmem, hrule⟩ := mem_appRules.1 h
  exact mem_appPaths.2 ⟨ov, hmem, path?_of_rule? hrule⟩

lemma appPaths_cons (ov : BlockActionOverride) (list : List BlockActionOverride) :
    appPaths (ov :: list) = ov.path?.toList ++ appPaths list := by
  rw [appPaths, List.filterMap_cons]
  cases ov.path? <;> rfl

lemma appRules_cons (ov : BlockActionOverride) (list : List BlockActionOverride) :
    appRules (ov :: list) = ov.rule?.toList ++ appRules list := by
  rw [appRules, List.filterMap_cons]
  cases ov.rule? <;> rfl

lemma shaped_nil : Shaped [] := ⟨by simp, List.nodup_nil⟩

lemma shaped_cons :
    Shaped (ov :: list) ↔
      (∀ path, ov.path? = some path →
        (∃ isLocal, ov.IsRule path isLocal) ∧ path ∉ appPaths list) ∧ Shaped list := by
  constructor
  · rintro ⟨hrule, hnodup⟩
    rw [appPaths_cons] at hnodup
    refine ⟨fun path hpath => ⟨hrule ov List.mem_cons_self path hpath, ?_⟩,
      fun o ho => hrule o (List.mem_cons_of_mem _ ho), (List.nodup_append.1 hnodup).2.1⟩
    rw [hpath] at hnodup
    exact (List.nodup_cons.1 hnodup).1
  · rintro ⟨hhead, htail⟩
    refine ⟨fun o ho path hpath => ?_, ?_⟩
    · rcases List.mem_cons.1 ho with rfl | ho
      · exact (hhead path hpath).1
      · exact htail.rule o ho path hpath
    · rw [appPaths_cons]
      cases hpath : ov.path? with
      | none => exact htail.nodup
      | some path => exact List.nodup_cons.2 ⟨(hhead path hpath).2, htail.nodup⟩

lemma Shaped.exists_rule (h : Shaped list) (hpath : path ∈ appPaths list) :
    ∃ isLocal, (path, isLocal) ∈ appRules list := by
  obtain ⟨ov, hmem, hover⟩ := mem_appPaths.1 hpath
  obtain ⟨isLocal, hrule⟩ := h.rule ov hmem path hover
  exact ⟨isLocal, mem_appRules.2 ⟨ov, hmem, hrule.rule?_eq⟩⟩

lemma Shaped.rule_unique (h : Shaped list) {b b' : Bool} (hb : (path, b) ∈ appRules list)
    (hb' : (path, b') ∈ appRules list) : b = b' := by
  induction list with
  | nil => exact absurd hb List.not_mem_nil
  | cons ov list ih =>
    obtain ⟨hhead, htail⟩ := shaped_cons.1 h
    rw [appRules_cons, List.mem_append, Option.mem_toList] at hb hb'
    rcases hb with hb | hb <;> rcases hb' with hb' | hb'
    · exact (Prod.mk.inj (Option.some.inj (hb.symm.trans hb'))).2
    · exact absurd (mem_appPaths_of_mem_appRules hb') (hhead path (path?_of_rule? hb)).2
    · exact absurd (mem_appPaths_of_mem_appRules hb) (hhead path (path?_of_rule? hb')).2
    · exact ih htail hb hb'

/-! ### The writes -/

lemma mem_appPaths_upsert {q : String} :
    q ∈ appPaths (urstUpsertAppRule newId path includeInTunnel list) ↔
      q = path ∨ q ∈ appPaths list := by
  induction list with
  | nil => simp [urstUpsertAppRule, appPaths, path?]
  | cons ov list ih =>
    rw [urstUpsertAppRule]
    split_ifs with hover
    · have hpath : ({ ov with routeOverride := some ⟨!includeInTunnel⟩ } :
          BlockActionOverride).path? = some path := hover
      rw [appPaths_cons, appPaths_cons, hpath, hover]
      simp
    · rw [appPaths_cons, appPaths_cons, List.mem_append, ih, List.mem_append]
      tauto

lemma Shaped.upsert (h : Shaped list) :
    Shaped (urstUpsertAppRule newId path includeInTunnel list) := by
  induction list with
  | nil =>
    refine shaped_cons.2 ⟨fun q hq => ?_, shaped_nil⟩
    cases hq
    exact ⟨⟨!includeInTunnel, rfl, rfl⟩, List.not_mem_nil⟩
  | cons ov list ih =>
    obtain ⟨hhead, htail⟩ := shaped_cons.1 h
    rw [urstUpsertAppRule]
    split_ifs with hover
    · refine shaped_cons.2 ⟨fun q hq => ?_, htail⟩
      obtain ⟨⟨b, hids, -⟩, hnot⟩ := hhead q hq
      exact ⟨⟨!includeInTunnel, hids, rfl⟩, hnot⟩
    · refine shaped_cons.2 ⟨fun q hq => ⟨(hhead q hq).1, ?_⟩, ih htail⟩
      rw [mem_appPaths_upsert, not_or]
      exact ⟨fun heq => hover (heq ▸ hq), (hhead q hq).2⟩

lemma mem_appRules_upsert (h : Shaped list) {q : String} {b : Bool} :
    (q, b) ∈ appRules (urstUpsertAppRule newId path includeInTunnel list) ↔
      if q = path then b = !includeInTunnel else (q, b) ∈ appRules list := by
  induction list with
  | nil => split_ifs with hq <;> simp [urstUpsertAppRule, appRules, rule?, path?, hq]
  | cons ov list ih =>
    obtain ⟨hhead, htail⟩ := shaped_cons.1 h
    rw [urstUpsertAppRule]
    split_ifs with hover hq hq
    · -- the override of this path is found here, and no later one is of it
      subst hq
      have hrule : ({ ov with routeOverride := some ⟨!includeInTunnel⟩ } :
          BlockActionOverride).rule? = some (q, !includeInTunnel) := by
        exact Option.bind_eq_some_iff.2 ⟨q, hover, rfl⟩
      rw [appRules_cons, hrule, List.mem_append, Option.mem_toList,
        or_iff_left fun hmem => (hhead q hover).2 (mem_appPaths_of_mem_appRules hmem)]
      simp [eq_comm]
    · have hnew : ∀ r : Option RouteOverride,
          (q, b) ∉ ({ ov with routeOverride := r } : BlockActionOverride).rule?.toList := by
        intro r hmem
        have hpath := path?_of_rule? (Option.mem_toList.1 hmem)
        exact hq (Option.some.inj (hpath.symm.trans hover))
      rw [appRules_cons, appRules_cons, List.mem_append, List.mem_append, or_iff_right (hnew _),
        or_iff_right (hnew ov.routeOverride)]
    · rw [appRules_cons, List.mem_append, ih htail, if_pos hq, or_iff_right]
      intro hmem
      exact hover (hq ▸ path?_of_rule? (Option.mem_toList.1 hmem))
    · rw [appRules_cons, appRules_cons, List.mem_append, List.mem_append, ih htail, if_neg hq]

lemma hostRules_upsert :
    hostRules (urstUpsertAppRule newId path includeInTunnel list) = hostRules list := by
  induction list with
  | nil => rfl
  | cons ov list ih =>
    rw [urstUpsertAppRule]
    split_ifs with hover
    · have hpath : ({ ov with routeOverride := some ⟨!includeInTunnel⟩ } :
          BlockActionOverride).path? = some path := hover
      rw [hostRules, hostRules, List.filter_cons_of_neg (by simp [hpath]),
        List.filter_cons_of_neg (by simp [hover])]
    · rw [hostRules, hostRules, List.filter_cons, List.filter_cons]
      rw [hostRules, hostRules] at ih
      rw [ih]

lemma Shaped.remove (h : Shaped list) : Shaped (urstRemoveAppRule path list) where
  rule := fun ov hover => h.rule ov (List.mem_filter.1 hover).1
  nodup := h.nodup.sublist (List.filter_sublist.filterMap path?)

lemma mem_appRules_remove {q : String} {b : Bool} :
    (q, b) ∈ appRules (urstRemoveAppRule path list) ↔ q ≠ path ∧ (q, b) ∈ appRules list := by
  rw [mem_appRules, mem_appRules]
  constructor
  · rintro ⟨ov, hmem, hrule⟩
    obtain ⟨hmem, hne⟩ := List.mem_filter.1 hmem
    refine ⟨?_, ov, hmem, hrule⟩
    rintro rfl
    exact of_decide_eq_true hne (path?_of_rule? hrule)
  · rintro ⟨hne, ov, hmem, hrule⟩
    refine ⟨ov, List.mem_filter.2 ⟨hmem, decide_eq_true fun hpath => hne ?_⟩, hrule⟩
    exact Option.some.inj ((path?_of_rule? hrule).symm.trans hpath)

lemma hostRules_remove : hostRules (urstRemoveAppRule path list) = hostRules list := by
  rw [hostRules, hostRules, urstRemoveAppRule, List.filter_filter]
  refine List.filter_congr fun ov _ => ?_
  cases ov.path? <;> simp

lemma mem_appRules_apply (h : Shaped list) (w : Write) {q : String} {b : Bool} :
    (q, b) ∈ appRules (w.apply list) ↔
      if w.imagePath = q then w.rule = some b else (q, b) ∈ appRules list := by
  cases w with
  | upsert newId imagePath includeInTunnel =>
    refine (mem_appRules_upsert h).trans ?_
    rw [Write.imagePath, Write.rule, Option.some.injEq]
    split_ifs with hq hq' hq'
    · exact eq_comm
    · exact absurd hq.symm hq'
    · exact absurd hq'.symm hq
    · rfl
  | remove imagePath =>
    refine mem_appRules_remove.trans ?_
    rw [Write.imagePath, Write.rule]
    split_ifs with hq
    · exact iff_of_false (fun hmem => hmem.1 hq.symm) (by simp)
    · exact and_iff_right fun heq => hq heq.symm

lemma Shaped.apply (h : Shaped list) (w : Write) : Shaped (w.apply list) := by
  cases w with
  | upsert newId imagePath includeInTunnel => exact h.upsert
  | remove imagePath => exact h.remove

lemma hostRules_apply (w : Write) : hostRules (w.apply list) = hostRules list := by
  cases w with
  | upsert newId imagePath includeInTunnel => exact hostRules_upsert
  | remove imagePath => exact hostRules_remove

lemma lastWrite_snoc (writes : List Write) (w : Write) (path : String) :
    lastWrite (writes ++ [w]) path =
      if w.imagePath = path then some w.rule else lastWrite writes path := by
  rw [lastWrite, List.reverse_append, List.reverse_singleton, List.singleton_append,
    List.find?_cons]
  by_cases h : w.imagePath = path
  · rw [if_pos h, decide_eq_true h]
    rfl
  · rw [if_neg h, decide_eq_false h]
    rfl

lemma Shaped.written (h : Shaped list) (writes : List Write) : Shaped (written list writes) := by
  induction writes using List.reverseRecOn with
  | nil => exact h
  | append_singleton writes w ih =>
    rw [written_snoc]
    exact ih.apply w

lemma hostRules_written (writes : List Write) :
    hostRules (written list writes) = hostRules list := by
  induction writes using List.reverseRecOn with
  | nil => rfl
  | append_singleton writes w ih => rw [written_snoc, hostRules_apply, ih]

/-- After some writes a path has the rule its last write asked for, and one nobody wrote has the
rule it had. -/
lemma mem_appRules_written (h : Shaped list) (writes : List Write) {q : String} {b : Bool} :
    (q, b) ∈ appRules (written list writes) ↔
      match lastWrite writes q with
      | some rule => rule = some b
      | none => (q, b) ∈ appRules list := by
  induction writes using List.reverseRecOn with
  | nil => rfl
  | append_singleton writes w ih =>
    rw [written_snoc, mem_appRules_apply (h.written writes), lastWrite_snoc]
    split_ifs with hw
    · rfl
    · exact ih

/-! ### The split -/

/-- The paths with one answer. -/
def pathsOf (isLocal : Bool) (list : List BlockActionOverride) : List String :=
  ((appRules list).filter fun r => r.2 = isLocal).map Prod.fst

lemma mem_pathsOf : path ∈ pathsOf isLocal list ↔ (path, isLocal) ∈ appRules list := by
  rw [pathsOf, List.mem_map]
  constructor
  · rintro ⟨⟨p, b⟩, hmem, rfl⟩
    obtain ⟨hmem, hb⟩ := List.mem_filter.1 hmem
    rw [← of_decide_eq_true hb]
    exact hmem
  · exact fun hmem => ⟨(path, isLocal), List.mem_filter.2 ⟨hmem, decide_eq_true rfl⟩, rfl⟩

lemma splitOne_rule (s : List String × List String) (h : ov.IsRule path isLocal) :
    splitOne s ov = if isLocal then (s.1 ++ [path], s.2) else (s.1, s.2 ++ [path]) := by
  rw [splitOne, h.1, h.2]
  rfl

lemma splitOne_host (s : List String × List String) (h : ov.path? = none) :
    splitOne s ov = s := by
  rw [path?] at h
  rw [splitOne]
  split
  · rfl
  · rfl
  next ids hne hids =>
    rw [hids] at h
    cases ids with
    | nil => exact absurd rfl hne
    | cons id ids => exact absurd h (by simp)

lemma foldl_splitOne (h : Shaped list) (s : List String × List String) :
    list.foldl splitOne s = (s.1 ++ pathsOf true list, s.2 ++ pathsOf false list) := by
  induction list generalizing s with
  | nil => simp [pathsOf, appRules]
  | cons ov list ih =>
    obtain ⟨hhead, htail⟩ := shaped_cons.1 h
    rw [List.foldl_cons, ih htail]
    cases hpath : ov.path? with
    | none =>
      have hrule : ov.rule? = none := by rw [rule?, hpath, Option.bind_none]
      rw [splitOne_host s hpath, pathsOf, pathsOf, pathsOf, pathsOf, appRules_cons, hrule]
      rfl
    | some path =>
      obtain ⟨⟨isLocal, hrule⟩, -⟩ := hhead path hpath
      rw [splitOne_rule s hrule, pathsOf, pathsOf, pathsOf, pathsOf, appRules_cons,
        hrule.rule?_eq]
      cases isLocal <;> simp

lemma computeAppSplit_eq (h : Shaped list) :
    computeAppSplit list =
      if pathsOf false list = [] then (pathsOf true list, false)
      else (pathsOf false list, true) := by
  rw [computeAppSplit, foldl_splitOne h, List.nil_append, List.nil_append]
  cases pathsOf false list <;> rfl

lemma bypasses_denylist (paths : List String) (path : String) :
    bypasses (paths, false) path = true ↔ path ∈ paths := by
  cases paths with
  | nil | cons p paths => simp [bypasses]

lemma bypasses_allowlist {paths : List String} (h : paths ≠ []) (path : String) :
    bypasses (paths, true) path = true ↔ path ∉ paths := by
  cases paths with
  | nil => exact absurd rfl h
  | cons p paths => simp [bypasses]

/-- An app goes where its rule says, and one without a rule stays in the tunnel unless some app
is kept there. -/
theorem bypasses_iff (h : Shaped list) (path : String) :
    bypasses (computeAppSplit list) path = true ↔
      (path, true) ∈ appRules list ∨
        path ∉ appPaths list ∧ ∃ other, (other, false) ∈ appRules list := by
  have hexists : (∃ other, (other, false) ∈ appRules list) ↔ pathsOf false list ≠ [] := by
    constructor
    · rintro ⟨other, hmem⟩
      exact List.ne_nil_of_mem (mem_pathsOf.2 hmem)
    · intro hne
      obtain ⟨other, hmem⟩ := List.exists_mem_of_ne_nil _ hne
      exact ⟨other, mem_pathsOf.1 hmem⟩
  rw [computeAppSplit_eq h, hexists]
  by_cases htunnel : pathsOf false list = []
  · rw [if_pos htunnel, bypasses_denylist, mem_pathsOf, or_iff_left fun hno => hno.2 htunnel]
  · rw [if_neg htunnel, bypasses_allowlist htunnel, mem_pathsOf, and_iff_left htunnel]
    constructor
    · intro hnot
      by_cases hpath : path ∈ appPaths list
      · obtain ⟨isLocal, hrule⟩ := h.exists_rule hpath
        cases isLocal with
        | true => exact .inl hrule
        | false => exact absurd hrule hnot
      · exact .inr hpath
    · rintro (hrule | hpath) hother
      · exact absurd (h.rule_unique hrule hother) (by simp)
      · exact hpath (mem_appPaths_of_mem_appRules hother)

/-- Writes to a list of that shape keep it, leave the host rules and end with the last rule
written to each path; and every app goes where its rule says. -/
theorem apps_go_where_told (h : Shaped list) :
    (∀ writes, Shaped (written list writes) ∧ hostRules (written list writes) = hostRules list ∧
      ∀ path isLocal, (path, isLocal) ∈ appRules (written list writes) ↔
        match lastWrite writes path with
        | some rule => rule = some isLocal
        | none => (path, isLocal) ∈ appRules list) ∧
    (∀ path isLocal, (path, isLocal) ∈ appRules list →
      bypasses (computeAppSplit list) path = isLocal) ∧
    ∀ path, path ∉ appPaths list →
      (bypasses (computeAppSplit list) path = true ↔ ∃ other, (other, false) ∈ appRules list) := by
  refine ⟨fun writes => ⟨h.written writes, hostRules_written writes, fun path isLocal =>
    mem_appRules_written h writes⟩, fun path isLocal hrule => ?_, fun path hpath => ?_⟩
  · have hnot : ¬ (path ∉ appPaths list ∧ ∃ other, (other, false) ∈ appRules list) := fun hno =>
      hno.1 (mem_appPaths_of_mem_appRules hrule)
    rw [Bool.eq_iff_iff, bypasses_iff h, or_iff_left hnot]
    constructor
    · exact fun htrue => h.rule_unique hrule htrue
    · rintro rfl
      exact hrule
  · rw [bypasses_iff h, or_iff_right fun hrule => hpath (mem_appPaths_of_mem_appRules hrule),
      and_iff_right hpath]

/-- A host rule, an app that bypasses the tunnel and one that is kept in it. -/
def sampleList : List BlockActionOverride :=
  [{ hosts := some ["example.com"], routeOverride := some ⟨true⟩ },
    { appIds := some ["C:\\a.exe"], routeOverride := some ⟨true⟩ },
    { appIds := some ["C:\\b.exe"], routeOverride := some ⟨false⟩ }]

lemma shaped_sampleList : Shaped sampleList := by
  refine ⟨fun ov hover path hpath => ?_, by decide +kernel⟩
  rw [sampleList, List.mem_cons, List.mem_cons, List.mem_singleton] at hover
  rcases hover with rfl | rfl | rfl
  · exact absurd hpath (by simp [path?])
  · cases hpath
    exact ⟨true, rfl, rfl⟩
  · cases hpath
    exact ⟨false, rfl, rfl⟩

theorem apps_go_where_told_sample :
    bypasses (computeAppSplit sampleList) "C:\\a.exe" = true ∧
      ("C:\\b.exe", true) ∈ appRules (written sampleList
        [.remove "C:\\a.exe", .upsert "id" "C:\\b.exe" false]) :=
  ⟨(apps_go_where_told shaped_sampleList).2.1 _ _ (by decide +kernel),
    (((apps_go_where_told shaped_sampleList).1 _).2.2 _ _).2
      (by simp [lastWrite, Write.imagePath, Write.rule])⟩

/-! ### At the driver -/

end UrnetworkWindows.SplitTunnel
