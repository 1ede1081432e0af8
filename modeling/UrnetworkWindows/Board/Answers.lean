/-
The protocol board's answers, read as plain values (`ProtocolBoardPresentation.h`).

The sdk answers a list request with a page of ranked rows and a card request with the caller's
own network.  Each member may be missing and then reads as its default; `δ` is the type of the
numbers with a point, which the board carries and compares nowhere in here.  A page that was
read is one snapshot's, and its rows are listed: their positions go up and lie in the top 400
(`topOutcomeFrom_spec`).
-/
import Mathlib.Data.List.Destutter
import Mathlib.Data.List.Sort
import UrnetworkWindows.CryptoPay.Rfc3339

namespace UrnetworkWindows.Board

variable {δ : Type*}

def kHeadSeats : ℤ := 200
def kListDepth : ℤ := 400
def kPageSize : ℤ := 50
def kSeekPageSize : ℤ := 200

/-! ### The sdk's results -/

structure ApiError where
  message : String := ""
deriving DecidableEq, Repr

structure SnTopSnapshot (δ : Type*) where
  id : Option String := none
  tempoIndex : Option ℤ := none
  computedAt : Option String := none
  totalRanked : Option ℤ := none
  headSeats : Option ℤ := none
  claimedFleets : Option ℤ := none
  openSeats : Option ℤ := none
  projectedCutoff : Option δ := none
  claimedCutoff : Option δ := none
  bindingOpen : Option Bool := none
  precisionAt200 : Option δ := none
  stale : Option Bool := none
deriving DecidableEq, Repr

structure SnTopFleet (δ : Type*) where
  uid : Option ℤ := none
  generation : Option ℤ := none
  validToEpoch : Option ℤ := none
  replicaScore : Option δ := none
  validatorScore : Option δ := none
  validatorRank : Option ℤ := none
  validatorRankOf : Option ℤ := none
  selected : Option Bool := none
  incentive : Option δ := none
  incentiveStale : Option Bool := none
deriving DecidableEq, Repr

structure SnTopRow (δ : Type*) where
  position : Option ℤ := none
  name : Option String := none
  tag : Option String := none
  projectedScore : Option δ := none
  margin : Option δ := none
  trend : Option ℤ := none
  prefixes : Option ℤ := none
  sharedPrefixes : Option ℤ := none
  label : Option String := none
  measurable : Option Bool := none
  claimPrompt : Option Bool := none
  isMe : Option Bool := none
  fleets : Option (List (SnTopFleet δ)) := none
deriving DecidableEq, Repr

structure SnTopResult (δ : Type*) where
  snapshot : Option (SnTopSnapshot δ) := none
  rows : Option (List (SnTopRow δ)) := none
  me : Option (SnTopRow δ) := none
  next : Option String := none
  error : Option ApiError := none
deriving DecidableEq, Repr

structure SnTopHistoryPoint (δ : Type*) where
  day : Option String := none
  rank : Option ℤ := none
  score : Option δ := none
deriving DecidableEq, Repr

structure SnTopMe (δ : Type*) where
  row : Option (SnTopRow δ) := none
  soloScore : Option δ := none
  distinctPrefixes : Option ℤ := none
  sharedPrefixes : Option ℤ := none
  sharedWithUnits : Option ℤ := none
  notMeasurableReason : Option String := none
  history : Option (List (SnTopHistoryPoint δ)) := none
deriving DecidableEq, Repr

structure SnTopMeResult (δ : Type*) where
  snapshot : Option (SnTopSnapshot δ) := none
  me : Option (SnTopMe δ) := none
  error : Option ApiError := none
deriving DecidableEq, Repr

/-! ### Plain values -/

inductive Label
  | none | estimate | likely | borderline | unlikely | notMeasurable
deriving DecidableEq, Repr

def labelFrom (wire : String) : Label :=
  if wire = "estimate" then .estimate
  else if wire = "likely" then .likely
  else if wire = "borderline" then .borderline
  else if wire = "unlikely" then .unlikely
  else if wire = "not_measurable" then .notMeasurable
  else .none

/-- Why the validator cannot score the network. -/
inductive Reason
  | none | notInCohort | sharedEgress | notProviding
deriving DecidableEq, Repr

def reasonFrom (wire : String) : Reason :=
  if wire = "not_in_cohort" then .notInCohort
  else if wire = "shared_egress" then .sharedEgress
  else if wire = "not_providing" then .notProviding
  else .none

structure Snapshot (δ : Type*) where
  id : String
  tempoIndex : ℤ
  computedAtMillis : ℤ
  totalRanked : ℤ
  headSeats : ℤ
  claimedFleets : ℤ
  openSeats : ℤ
  projectedCutoff : δ
  claimedCutoff : Option δ
  bindingOpen : Bool
  precisionAt200 : Option δ
  stale : Bool
deriving DecidableEq, Repr

structure Fleet (δ : Type*) where
  uid : ℤ
  generation : ℤ
  validToEpoch : ℤ
  replicaScore : δ
  validatorScore : Option δ
  validatorRank : Option ℤ
  validatorRankOf : Option ℤ
  selected : Option Bool
  incentive : Option δ
  incentiveStale : Bool
deriving DecidableEq, Repr

structure Row (δ : Type*) where
  position : ℤ
  name : String
  tag : String
  projectedScore : δ
  margin : δ
  trend : ℤ
  prefixes : ℤ
  sharedPrefixes : ℤ
  label : Label
  measurable : Bool
  claimPrompt : Bool
  isMe : Bool
  fleets : List (Fleet δ)
deriving DecidableEq, Repr

structure HistoryPoint (δ : Type*) where
  day : String
  rank : ℤ
  score : δ
deriving DecidableEq, Repr

structure Me (δ : Type*) where
  row : Option (Row δ)
  soloScore : δ
  distinctPrefixes : ℤ
  sharedPrefixes : ℤ
  sharedWithUnits : ℤ
  reason : Reason
  history : List (HistoryPoint δ)
deriving DecidableEq, Repr

/-- A finished `snTop`. -/
structure TopOutcome (δ : Type*) where
  ok : Bool := false
  snapshot : Option (Snapshot δ) := none
  rows : List (Row δ) := []
  me : Option (Row δ) := none
  /-- The next page's cursor, empty at the end. -/
  next : String := ""
  error : String := ""
deriving DecidableEq, Repr

/-- A finished `snTopMe`. -/
structure MeOutcome (δ : Type*) where
  ok : Bool := false
  snapshot : Option (Snapshot δ) := none
  me : Option (Me δ) := none
  error : String := ""
deriving DecidableEq, Repr

/-! ### The readers -/

def millis (rfc3339 : Option String) : ℤ :=
  match rfc3339.bind CryptoPay.parseRfc3339 with
  | none => 0
  | some seconds => if seconds ≤ 0 then 0 else seconds * 1000

section Readers

variable [Zero δ]

def snapshotFrom (s : SnTopSnapshot δ) : Snapshot δ :=
  let seats := s.headSeats.getD 0
  { id := s.id.getD ""
    tempoIndex := s.tempoIndex.getD 0
    computedAtMillis := millis s.computedAt
    totalRanked := max 0 (s.totalRanked.getD 0)
    headSeats := if 0 < seats then seats else kHeadSeats
    claimedFleets := s.claimedFleets.getD 0
    openSeats := s.openSeats.getD 0
    projectedCutoff := s.projectedCutoff.getD 0
    claimedCutoff := s.claimedCutoff
    bindingOpen := s.bindingOpen.getD false
    precisionAt200 := s.precisionAt200
    stale := s.stale.getD false }

def fleetFrom (f : SnTopFleet δ) : Fleet δ where
  uid := f.uid.getD 0
  generation := f.generation.getD 0
  validToEpoch := f.validToEpoch.getD 0
  replicaScore := f.replicaScore.getD 0
  validatorScore := f.validatorScore
  validatorRank := f.validatorRank
  validatorRankOf := f.validatorRankOf
  selected := f.selected
  incentive := f.incentive
  incentiveStale := f.incentiveStale.getD false

/-- A fleet with no uid names nothing on chain and is left out. -/
def rowFrom (r : SnTopRow δ) : Row δ where
  position := r.position.getD 0
  name := r.name.getD ""
  tag := r.tag.getD ""
  projectedScore := r.projectedScore.getD 0
  margin := r.margin.getD 0
  trend := r.trend.getD 0
  prefixes := r.prefixes.getD 0
  sharedPrefixes := r.sharedPrefixes.getD 0
  label := labelFrom (r.label.getD "")
  measurable := r.measurable.getD false
  claimPrompt := r.claimPrompt.getD false
  isMe := r.isMe.getD false
  fleets := ((r.fleets.getD []).map fleetFrom).filter fun fleet => 0 < fleet.uid

def historyPointFrom (point : SnTopHistoryPoint δ) : HistoryPoint δ where
  day := point.day.getD ""
  rank := point.rank.getD 0
  score := point.score.getD 0

def meFrom (me : SnTopMe δ) : Me δ where
  row := me.row.map fun row => { rowFrom row with isMe := true }
  soloScore := me.soloScore.getD 0
  distinctPrefixes := me.distinctPrefixes.getD 0
  sharedPrefixes := me.sharedPrefixes.getD 0
  sharedWithUnits := me.sharedWithUnits.getD 0
  reason := reasonFrom (me.notMeasurableReason.getD "")
  history := (me.history.getD []).map historyPointFrom

end Readers

/-- `FailureOf`, of a result with its error. -/
def failureOf (result : Option (Option ApiError)) (err : Option String) : Option String :=
  match err, result with
  | some e, _ => some (if e = "" then "error" else e)
  | none, none => some "no result"
  | none, some (some error) => some (if error.message = "" then "error" else error.message)
  | none, some none => none

/-- A page refused because its cursor's snapshot expired: the status, then a blank or a colon. -/
def isSnapshotExpired (error : String) : Bool :=
  let chars := error.toList
  chars.take 3 = ['4', '1', '0'] && (chars[3]? = some ' ' || chars[3]? = some ':')

/-- Inside the top 400, by position, and one row at each. -/
def normalizeRows (rows : List (Row δ)) : List (Row δ) :=
  ((rows.filter fun row => ¬ (row.position ≤ 0 ∨ kListDepth < row.position)).insertionSort
    fun a b => a.position ≤ b.position).destutter fun a b => a.position ≠ b.position

section Outcomes

variable [Zero δ]

def topOutcomeFrom (result : Option (SnTopResult δ)) (err : Option String) : TopOutcome δ :=
  match failureOf (result.map SnTopResult.error) err, result with
  | some failure, _ => { error := failure }
  -- `failureOf` is never absent without a result
  | none, none => {}
  | none, some result =>
    match result.snapshot with
    | none => { error := "no snapshot" }
    | some snapshot =>
      { ok := true
        snapshot := some (snapshotFrom snapshot)
        rows := normalizeRows ((result.rows.getD []).map rowFrom)
        me := (result.me.map rowFrom).bind fun row =>
          if 0 < row.position then some { row with isMe := true } else none
        next := result.next.getD "" }

def meOutcomeFrom (result : Option (SnTopMeResult δ)) (err : Option String) : MeOutcome δ :=
  match failureOf (result.map SnTopMeResult.error) err, result with
  | some failure, _ => { error := failure }
  | none, none => {}
  | none, some result =>
    { ok := true
      snapshot := result.snapshot.map snapshotFrom
      me := result.me.map meFrom }

end Outcomes

/-! ### Listed rows -/

/-- Positions that go up, in the top 400. -/
structure Listed (rows : List (Row δ)) : Prop where
  increasing : rows.Pairwise fun a b => a.position < b.position
  inside : ∀ row ∈ rows, 1 ≤ row.position ∧ row.position ≤ kListDepth

lemma Listed.nil : Listed ([] : List (Row δ)) := ⟨.nil, nofun⟩

lemma increasing_of_isChain {rows : List (Row δ)}
    (hle : rows.Pairwise fun a b => a.position ≤ b.position)
    (hne : rows.IsChain fun a b => a.position ≠ b.position) :
    rows.Pairwise fun a b => a.position < b.position := by
  have hlt : rows.IsChain fun a b => a.position < b.position := by
    have hle := List.isChain_iff_getElem.1 hle.isChain
    rw [List.isChain_iff_getElem] at hne ⊢
    exact fun i hi => lt_of_le_of_ne (hle i hi) (hne i hi)
  have : IsTrans (Row δ) fun a b => a.position < b.position := ⟨fun _ _ _ => lt_trans⟩
  exact hlt.pairwise

theorem listed_normalizeRows (rows : List (Row δ)) : Listed (normalizeRows rows) := by
  have : IsTrans (Row δ) fun a b => a.position ≤ b.position := ⟨fun _ _ _ => le_trans⟩
  have : Std.Total fun a b : Row δ => a.position ≤ b.position := ⟨fun a b => le_total _ _⟩
  refine ⟨increasing_of_isChain ?_ (List.isChain_destutter _ _), fun row h => ?_⟩
  · exact (List.pairwise_insertionSort _ _).sublist (List.destutter_sublist _ _)
  · have h := (List.destutter_sublist _ _).subset h
    rw [List.mem_insertionSort, List.mem_filter, decide_eq_true_eq] at h
    omega

theorem normalizeRows_eq_self {rows : List (Row δ)} (h : Listed rows) :
    normalizeRows rows = rows := by
  have hfilter : rows.filter (fun row => ¬ (row.position ≤ 0 ∨ kListDepth < row.position)) = rows :=
    List.filter_eq_self.2 fun row hrow => by
      have := h.inside row hrow
      rw [decide_eq_true_eq]
      omega
  rw [normalizeRows, hfilter, List.Pairwise.insertionSort_eq (h.increasing.imp le_of_lt)]
  exact List.destutter_of_isChain _ _ (h.increasing.isChain.imp fun _ _ => ne_of_lt)

lemma listed_append {rows more : List (Row δ)} (h : Listed rows) (h' : Listed more)
    (hlt : ∀ row ∈ rows, ∀ row' ∈ more, row.position < row'.position) : Listed (rows ++ more) := by
  refine ⟨List.pairwise_append.2 ⟨h.increasing, h'.increasing, hlt⟩, fun row hrow => ?_⟩
  exact (List.mem_append.1 hrow).elim (h.inside row) (h'.inside row)

lemma Listed.filter {rows : List (Row δ)} (h : Listed rows) (p : Row δ → Bool) :
    Listed (rows.filter p) :=
  ⟨h.increasing.filter p, fun row hrow => h.inside row (List.mem_filter.1 hrow).1⟩

/-! ### What a page says -/

section Outcomes

variable [Zero δ]

/-- A page that was read names its snapshot, and its rows are listed; one that was not is empty. -/
theorem topOutcomeFrom_spec (result : Option (SnTopResult δ)) (err : Option String) :
    Listed (topOutcomeFrom result err).rows ∧
      ((topOutcomeFrom result err).ok = true → (topOutcomeFrom result err).snapshot.isSome) ∧
      ((topOutcomeFrom result err).ok = false →
        (topOutcomeFrom result err).rows = [] ∧ (topOutcomeFrom result err).next = "") := by
  unfold topOutcomeFrom
  split
  · exact ⟨.nil, nofun, fun _ => ⟨rfl, rfl⟩⟩
  · exact ⟨.nil, nofun, fun _ => ⟨rfl, rfl⟩⟩
  · split
    · exact ⟨.nil, nofun, fun _ => ⟨rfl, rfl⟩⟩
    · exact ⟨listed_normalizeRows _, fun _ => rfl, nofun⟩

end Outcomes

end UrnetworkWindows.Board
