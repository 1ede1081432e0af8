/-
The election of the interfaces the SDK's sockets are bound to
(`NetworkConfig::DiscoverEgress`).

Each family elects the first of its default routes with the least metric, of those whose
link is up, and falls back on the others (`electFamily_eq`).  A route of the tun does not
stand, and so in no run of the monitor is anything bound to the tun
(`never_bound_to_tun`).
-/
import UrnetworkWindows.Controller.EgressBinding
import UrnetworkWindows.Lib.RunningMax

namespace UrnetworkWindows.Controller.EgressBinding

open Lib

/-! ### The election -/

/-- What is read of a `MIB_IPFORWARD_ROW2`. -/
structure ForwardRow where
  interfaceLuid : ℕ
  interfaceIndex : ℕ
  prefixLength : ℕ
  metric : UInt32
deriving DecidableEq, Repr

/-- What Windows answers of one family: its routes, the metric of an interface, and
whether the link of one is disconnected.  A call that fails answers `none`. -/
structure FamilyAnswers where
  forwardTable : Option (List ForwardRow) := none
  ifMetric : ℕ → Option UInt32 := fun _ => none
  disconnected : ℕ → Option Bool := fun _ => none

/-- The metrics of the best routes so far and their interfaces. -/
structure Election where
  bestMetric : UInt32 := 0xFFFFFFFF
  bestIndex : ℕ := 0
  bestLinkDownMetric : UInt32 := 0xFFFFFFFF
  bestLinkDownIndex : ℕ := 0
deriving DecidableEq, Repr

section Election

variable (ans : FamilyAnswers) (tunLuid : ℕ)

/-- The metrics of a route and of its interface, in the 32 bits of a `ULONG`. -/
def rowMetric (row : ForwardRow) : UInt32 :=
  row.metric + (ans.ifMetric row.interfaceLuid).getD 0

/-- A link of which nothing is known counts as connected. -/
def linkUp (row : ForwardRow) : Bool := !(ans.disconnected row.interfaceLuid).getD false

/-- One row of the table. -/
def Election.read (e : Election) (row : ForwardRow) : Election :=
  if row.prefixLength ≠ 0 then e
  else if row.interfaceLuid = tunLuid then e
  else if linkUp ans row then
    if rowMetric ans row < e.bestMetric then
      { e with bestMetric := rowMetric ans row, bestIndex := row.interfaceIndex }
    else e
  else if rowMetric ans row < e.bestLinkDownMetric then
    { e with bestLinkDownMetric := rowMetric ans row, bestLinkDownIndex := row.interfaceIndex }
  else e

/-- `DiscoverEgress`, of one family. -/
def electFamily : ℕ :=
  match ans.forwardTable with
  | none => 0
  | some table =>
    let e := table.foldl (Election.read ans tunLuid) {}
    if e.bestIndex = 0 ∧ e.bestLinkDownIndex ≠ 0 then e.bestLinkDownIndex else e.bestIndex

/-! ### Who is elected -/

/-- How far a metric is below the greatest, which is never elected. -/
def merit (row : ForwardRow) : ℕ := 0xFFFFFFFF - (rowMetric ans row).toNat

/-- The routes that stand, of the links that are up or of the others. -/
def standing (up : Bool) (table : List ForwardRow) : List ForwardRow :=
  table.filter fun row => row.prefixLength = 0 ∧ row.interfaceLuid ≠ tunLuid ∧
    linkUp ans row = up ∧ 0 < merit ans row

/-- The first of some routes with the least metric, by its interface. -/
def elected (rows : List ForwardRow) : ℕ := (rows.argmax (merit ans)).elim 0 (·.interfaceIndex)

variable {ans tunLuid}

lemma merit_eq (ans : FamilyAnswers) (row : ForwardRow) :
    (rowMetric ans row).toNat + merit ans row = 0xFFFFFFFF := by
  have := (rowMetric ans row).toNat_lt
  rw [merit]
  omega

/-- A metric and an interface are those of the first of some routes with the least metric. -/
def Elects (ans : FamilyAnswers) (rows : List ForwardRow) (best : UInt32) (index : ℕ) : Prop :=
  best.toNat + greatest (merit ans) rows = 0xFFFFFFFF ∧ index = elected ans rows

lemma Elects.take {rows : List ForwardRow} {row : ForwardRow} {best : UInt32} {index : ℕ}
    (h : Elects ans rows best index) (hlt : rowMetric ans row < best) :
    0 < merit ans row ∧ Elects ans (rows ++ [row]) (rowMetric ans row) row.interfaceIndex := by
  have hmerit := merit_eq ans row
  have hbest := h.1
  rw [UInt32.lt_iff_toNat_lt] at hlt
  have hmax : (rows ++ [row]).argmax (merit ans) = some row :=
    argmax_concat_of_lt (l := rows) (a := row) (by omega)
  refine ⟨by omega, ?_, ?_⟩
  · rw [greatest_of_argmax hmax]
    exact hmerit
  · rw [elected, hmax]
    rfl

lemma Elects.pass {rows : List ForwardRow} {row : ForwardRow} {best : UInt32} {index : ℕ}
    (h : Elects ans rows best index) (hle : ¬ rowMetric ans row < best)
    (hpos : 0 < merit ans row) : Elects ans (rows ++ [row]) best index := by
  have hmerit := merit_eq ans row
  have hbest := h.1
  rw [UInt32.lt_iff_toNat_lt] at hle
  have hmax := argmax_concat_of_le hpos (l := rows) (by omega)
  rwa [Elects, greatest, elected, hmax]

lemma standing_snoc (up : Bool) (table : List ForwardRow) (row : ForwardRow) :
    standing ans tunLuid up (table ++ [row]) =
      if row.prefixLength = 0 ∧ row.interfaceLuid ≠ tunLuid ∧ linkUp ans row = up ∧
        0 < merit ans row then standing ans tunLuid up table ++ [row]
      else standing ans tunLuid up table := by
  rw [standing, List.filter_append]
  split_ifs with h
  · rw [List.filter_cons_of_pos (by simpa using h)]
    rfl
  · rw [List.filter_cons_of_neg (by simpa using h), List.filter_nil, List.append_nil]
    rfl

/-- Both elections of one more row. -/
lemma elects_read (table : List ForwardRow) (row : ForwardRow) (e : Election)
    (hup : Elects ans (standing ans tunLuid true table) e.bestMetric e.bestIndex)
    (hdown : Elects ans (standing ans tunLuid false table) e.bestLinkDownMetric
      e.bestLinkDownIndex) :
    Elects ans (standing ans tunLuid true (table ++ [row])) (e.read ans tunLuid row).bestMetric
        (e.read ans tunLuid row).bestIndex ∧
      Elects ans (standing ans tunLuid false (table ++ [row]))
        (e.read ans tunLuid row).bestLinkDownMetric (e.read ans tunLuid row).bestLinkDownIndex := by
  rw [standing_snoc, standing_snoc, Election.read]
  by_cases hdefault : row.prefixLength = 0
  case neg => simp [hdefault, hup, hdown]
  by_cases htun : row.interfaceLuid = tunLuid
  case pos => simp [htun, hup, hdown]
  -- the state of its link says which election the row is in; the other one passes over it
  cases hlink : linkUp ans row with
  | true =>
    by_cases hlt : rowMetric ans row < e.bestMetric
    · obtain ⟨hpos, htake⟩ := hup.take hlt
      simp [hdefault, htun, hlt, hpos, htake, hdown]
    · by_cases hpos : 0 < merit ans row
      · simp [hdefault, htun, hlt, hpos, hup.pass hlt hpos, hdown]
      · simp [hdefault, htun, hlt, hpos, hup, hdown]
  | false =>
    by_cases hlt : rowMetric ans row < e.bestLinkDownMetric
    · obtain ⟨hpos, htake⟩ := hdown.take hlt
      simp [hdefault, htun, hlt, hpos, htake, hup]
    · by_cases hpos : 0 < merit ans row
      · simp [hdefault, htun, hlt, hpos, hdown.pass hlt hpos, hup]
      · simp [hdefault, htun, hlt, hpos, hup, hdown]

/-- The loop keeps the first route with the least metric of either kind. -/
lemma elects_table (ans : FamilyAnswers) (tunLuid : ℕ) (table : List ForwardRow) :
    Elects ans (standing ans tunLuid true table)
        (table.foldl (Election.read ans tunLuid) {}).bestMetric
        (table.foldl (Election.read ans tunLuid) {}).bestIndex ∧
      Elects ans (standing ans tunLuid false table)
        (table.foldl (Election.read ans tunLuid) {}).bestLinkDownMetric
        (table.foldl (Election.read ans tunLuid) {}).bestLinkDownIndex := by
  induction table using List.reverseRecOn with
  | nil => exact ⟨⟨rfl, rfl⟩, rfl, rfl⟩
  | append_singleton table row ih =>
    rw [List.foldl_append, List.foldl_cons, List.foldl_nil]
    exact elects_read table row _ ih.1 ih.2

lemma elected_cases (ans : FamilyAnswers) (rows : List ForwardRow) :
    elected ans rows = 0 ∨ ∃ row ∈ rows, row.interfaceIndex = elected ans rows := by
  cases hmax : rows.argmax (merit ans) with
  | none => exact .inl (by rw [elected, hmax]; rfl)
  | some row => exact .inr ⟨row, List.argmax_mem hmax, by rw [elected, hmax]; rfl⟩

/-- What a family elects is an interface of a route that is not the tun's, or none. -/
lemma electFamily_cases (ans : FamilyAnswers) (tunLuid : ℕ) :
    electFamily ans tunLuid = 0 ∨ ∃ table row, ans.forwardTable = some table ∧ row ∈ table ∧
      row.interfaceLuid ≠ tunLuid ∧ row.interfaceIndex = electFamily ans tunLuid := by
  cases htable : ans.forwardTable with
  | none => exact .inl (by rw [electFamily, htable])
  | some table =>
    have hmem : ∀ up, ∀ row ∈ standing ans tunLuid up table, row ∈ table ∧
        row.interfaceLuid ≠ tunLuid := by
      intro up row hrow
      obtain ⟨hrow, hstands⟩ := List.mem_filter.1 hrow
      exact ⟨hrow, (of_decide_eq_true hstands).2.1⟩
    have hcases : ∃ up, electFamily ans tunLuid = elected ans (standing ans tunLuid up table) := by
      obtain ⟨⟨-, hup⟩, -, hdown⟩ := elects_table ans tunLuid table
      simp only [electFamily, htable]
      split_ifs
      · exact ⟨false, hdown⟩
      · exact ⟨true, hup⟩
    obtain ⟨up, hup⟩ := hcases
    rw [hup]
    refine (elected_cases ans (standing ans tunLuid up table)).imp_right ?_
    rintro ⟨row, hrow, hindex⟩
    exact ⟨table, row, rfl, (hmem up row hrow).1, (hmem up row hrow).2, hindex⟩

/-- A family elects the first standing route with the least metric whose link is up, and
the first with its link down only where the other is none. -/
theorem electFamily_eq (ans : FamilyAnswers) (tunLuid : ℕ) :
    electFamily ans tunLuid =
      if elected ans (standing ans tunLuid true (ans.forwardTable.getD [])) = 0 then
        elected ans (standing ans tunLuid false (ans.forwardTable.getD []))
      else elected ans (standing ans tunLuid true (ans.forwardTable.getD [])) := by
  cases htable : ans.forwardTable with
  | none =>
    rw [electFamily, htable]
    rfl
  | some table =>
    obtain ⟨⟨-, hup⟩, -, hdown⟩ := elects_table ans tunLuid table
    simp only [electFamily, htable, Option.getD_some]
    rw [← hup, ← hdown]
    split_ifs <;> simp_all

end Election

/-! ### What the monitor binds -/

/-- `DiscoverEgress`. -/
def discoverEgress (ans4 ans6 : FamilyAnswers) (tunLuid : ℕ) : EgressInterfaces where
  index4 := electFamily ans4 tunLuid
  index6 := electFamily ans6 tunLuid

section Indices

variable {P : ℕ → Prop} {s s' : Binding}

/-- Whether both interfaces are of a kind. -/
def EgressInterfaces.All (P : ℕ → Prop) (egress : EgressInterfaces) : Prop :=
  P egress.index4 ∧ P egress.index6

/-- Whether every interface the state names is of a kind. -/
structure Names (P : ℕ → Prop) (s : Binding) : Prop where
  current : s.current.All P
  sdk : s.sdk.All P
  live : P s.live4 ∧ P s.live6
  pushed : P s.pushed.index4 ∧ P s.pushed.index6
  reports : ∀ r ∈ s.reports, r.egress.All P

lemma all_physicalAddresses (hzero : P 0) {egress : EgressInterfaces} (h : egress.All P)
    (source4 source6 : Option ℕ) :
    P (physicalAddresses egress source4 source6).index4 ∧
      P (physicalAddresses egress source4 source6).index6 := by
  simp only [physicalAddresses]
  constructor
  · split_ifs
    exacts [h.1, hzero]
  · split_ifs
    exacts [h.2, hzero]

lemma Names.update (h : Names P s) {ans : Answers} (hans : ans.discovered.All P) :
    Names P (update ans s) := by
  have hretain : (retain s.current ans).All P := by
    rw [retain]
    constructor
    · show P (if _ then _ else _)
      split_ifs
      exacts [h.current.1, hans.1]
    · show P (if _ then _ else _)
      split_ifs
      exacts [h.current.2, hans.2]
  refine ⟨hretain, hretain, h.live, h.pushed, fun r hr => ?_⟩
  simp only [EgressBinding.update] at hr
  split_ifs at hr
  · rcases List.mem_append.1 hr with hr | hr
    · exact h.reports r hr
    · rw [List.mem_singleton.1 hr]
      exact hretain
  · exact h.reports r hr

lemma Names.report (hzero : P 0) (h : Names P s) {r : Report} (hr : r.egress.All P)
    (source4 source6 : Option ℕ) :
    (r.step source4 source6 s).1.egress.All P ∧ Names P (r.step source4 source6 s).2 := by
  rw [Report.step]
  split
  · exact ⟨hr, h.current, h.sdk, ⟨hr.1, h.live.2⟩, h.pushed, h.reports⟩
  · exact ⟨hr, h.current, h.sdk, ⟨h.live.1, hr.2⟩, h.pushed, h.reports⟩
  · exact ⟨hr, h.current, h.sdk, h.live, all_physicalAddresses hzero hr .., h.reports⟩
  · exact ⟨hr, h⟩

/-- Every interface the state names is one that a reading discovered, or none. -/
lemma names_of_run {cond : Binding → BindingLabel → Prop} (hzero : P 0)
    (hcond : ∀ s ans, cond s (.update ans) → ans.discovered.All P)
    {es : List (Transition Binding BindingLabel)} (hrun : BindingRuns cond es s) : Names P s := by
  refine hrun.invariant (P := fun _ s => Names P s) ?_ ?_
  · rintro s ⟨available, rfl⟩
    exact ⟨⟨hzero, hzero⟩, ⟨hzero, hzero⟩, ⟨hzero, hzero⟩, ⟨hzero, hzero⟩, by simp⟩
  · rintro es s a s' ih ⟨hstep, hans⟩
    -- a reading alone brings an interface in; the other steps copy those the state names
    cases a with
    | update ans =>
      cases hstep
      exact ih.update (hcond s ans hans)
    | startup =>
      cases hstep
      refine ⟨ih.current, ih.sdk, ih.live, ih.pushed, fun r hr => ?_⟩
      rcases List.mem_append.1 hr with hr | hr
      · exact ih.reports r hr
      · rw [List.mem_singleton.1 hr]
        exact ih.current
    | report i source4 source6 =>
      simp only [bindingStep] at hstep
      split at hstep
      · exact absurd hstep (by simp)
      next r hi =>
      obtain ⟨-, rfl⟩ := stop_eq_some.1 hstep
      obtain ⟨hr, hnames⟩ :=
        ih.report hzero (ih.reports r (List.mem_of_getElem? hi)) source4 source6
      refine ⟨hnames.current, hnames.sdk, hnames.live, hnames.pushed, fun r' hr' => ?_⟩
      rcases List.mem_or_eq_of_mem_set hr' with hr' | rfl
      · exact ih.reports r' hr'
      · exact hr

end Indices

/-- Every reading discovers what the routes elect, and the tun's index is of no other
interface. -/
def Elected (tunLuid tunIndex : ℕ) : Binding → BindingLabel → Prop
  | _, .update ans => ∃ ans4 ans6, ans.discovered = discoverEgress ans4 ans6 tunLuid ∧
      ∀ table ∈ [ans4, ans6].filterMap (·.forwardTable), ∀ row ∈ table,
        row.interfaceIndex = tunIndex → row.interfaceLuid = tunLuid
  | _, .startup | _, .report .. => True

/-- In no run is the monitor, the SDK, the app or the driver bound to the tun, or a report
on its way that would bind one of them to it. -/
theorem never_bound_to_tun {tunLuid tunIndex : ℕ} (htun : tunIndex ≠ 0)
    {es : List (Transition Binding BindingLabel)} {s : Binding}
    (hrun : BindingRuns (Elected tunLuid tunIndex) es s) : Names (· ≠ tunIndex) s := by
  refine names_of_run htun.symm ?_ hrun
  rintro s ans ⟨ans4, ans6, hans, hrows⟩
  have hfamily : ∀ family ∈ [ans4, ans6], electFamily family tunLuid ≠ tunIndex := by
    intro family hmem heq
    rcases electFamily_cases family tunLuid with hnone | ⟨table, row, htable, hrow, hluid, hindex⟩
    · exact htun (heq.symm.trans hnone)
    · exact hluid (hrows table (List.mem_filterMap.2 ⟨family, hmem, htable⟩) row hrow
        (hindex.trans heq))
  rw [hans]
  exact ⟨hfamily ans4 (by simp), hfamily ans6 (by simp)⟩

/-- The tun's default route before an unplugged link's and two of links that are up. -/
def sampleRoutes : FamilyAnswers where
  forwardTable := some [⟨1, 20, 0, 0⟩, ⟨2, 7, 0, 10⟩, ⟨3, 9, 0, 25⟩, ⟨4, 11, 0, 25⟩]
  disconnected luid := some (luid = 2)

/-- The tun is up, and a reading elects the first interface with a link. -/
theorem never_bound_to_tun_sample :
    ∃ es s, BindingRuns (Elected 1 20) es s ∧ s.sdk.index4 = 9 ∧ Names (· ≠ 20) s := by
  have helected : Elected 1 20 { available := true }
      (.update { discovered := discoverEgress sampleRoutes {} 1 }) :=
    ⟨sampleRoutes, {}, rfl, by decide⟩
  have hrun : BindingRuns (Elected 1 20) _ _ := (Run.nil ⟨true, rfl⟩).snoc ⟨rfl, helected⟩
  exact ⟨_, _, hrun, rfl, never_bound_to_tun (by decide) hrun⟩

end UrnetworkWindows.Controller.EgressBinding
