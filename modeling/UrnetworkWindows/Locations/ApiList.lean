/-
The provider list without a session (`SdkHost.cpp`, `EnsureApiLocationsLocked`).

An arming asks the active server's api for the query, unless a fetch for the query is in flight
or the answer held is to the query.  What the next arming may rest on is `Source`: no arming asks
which server a fetch or an answer is of.
-/
import Mathlib.Data.List.DropRight
import UrnetworkWindows.Lib.Trace

namespace UrnetworkWindows.Locations

open Lib

/-- `urnet::LocationsLoading`, `LocationsLoaded` and `LocationsError`; none before the first
fetch. -/
inductive LocationsState
  | empty
  | loading
  | loaded
  | error
deriving DecidableEq, Repr

/-- A fetch that has not been answered: the generation and the query its `done` holds, and the
space whose api it was sent to. -/
structure Fetch (Space : Type*) where
  generation : ℕ
  query : String
  space : Space
deriving DecidableEq, Repr

/-- The list and the space it is of.  `api` is the space whose api `api_` is; `loadedFrom`, which
the code does not keep, is the one that gave `apiLocations`. -/
structure ApiList (Space Result : Type*) where
  networkSpace : Option Space := none
  api : Option Space := none
  apiLocations : Option Result := none
  apiLocationsState : LocationsState := .empty
  apiLocationsQuery : String := ""
  apiLocationsLoadedQuery : String := ""
  apiLocationsPendingQuery : String := ""
  apiLocationsInFlight : Bool := false
  apiLocationsGeneration : ℕ := 0
  fetches : List (Fetch Space) := []
  loadedFrom : Option Space := none
deriving DecidableEq, Repr

/-- How a switch ends: refused, or thrown before the space was replaced; thrown with `api_` left
on the old server; done. -/
inductive Switch (Space : Type*)
  | kept
  | replaced (space : Space)
  | applied (space : Space)
deriving DecidableEq, Repr

/-- A step.  The answer is the `i`-th open fetch's. -/
inductive Op (Space Result : Type*)
  | setLocationFilter (query : String)
  | ensureApiLocations
  | done (i : ℕ) (result : Option Result) (err : Option String)
  | applyNetworkServer (switch : Switch Space)
deriving DecidableEq, Repr

/-- `std::isspace`. -/
def isSpace (c : Char) : Bool := c = ' ' || ('\t' ≤ c && c ≤ '\r')

/-- `TrimLocationQuery`. -/
def trimLocationQuery (query : String) : String :=
  String.ofList ((query.toList.dropWhile isSpace).rdropWhile isSpace)

section

variable {Space Result : Type*}

namespace ApiList

/-- The answer held is to the query. -/
def cacheAnswers (s : ApiList Space Result) : Bool :=
  s.apiLocations.isSome && s.apiLocationsState = .loaded &&
    s.apiLocationsLoadedQuery = s.apiLocationsQuery

/-- The fetch in flight is for the query. -/
def asked (s : ApiList Space Result) : Bool :=
  s.apiLocationsInFlight && s.apiLocationsPendingQuery = s.apiLocationsQuery

/-- `EnsureApiLocationsLocked`. -/
def ensureApiLocations (s : ApiList Space Result) : ApiList Space Result :=
  match s.api with
  | none => s
  | some space =>
    if s.asked then s
    else if s.cacheAnswers then s
    else
      { s with
        apiLocationsPendingQuery := s.apiLocationsQuery
        apiLocationsInFlight := true
        apiLocationsState := .loading
        apiLocationsGeneration := s.apiLocationsGeneration + 1
        fetches := s.fetches ++ [⟨s.apiLocationsGeneration + 1, s.apiLocationsQuery, space⟩] }

/-- The result of an answer: there is none with an error. -/
def given (result : Option Result) (err : Option String) : Option Result :=
  if err.getD "" = "" then result else none

/-- `done`, in `EnsureApiLocationsLocked`. -/
def done (s : ApiList Space Result) (fetch : Fetch Space) (result : Option Result)
    (err : Option String) : ApiList Space Result :=
  if fetch.generation ≠ s.apiLocationsGeneration then s
  else
    match given result err with
    | none => { s with apiLocationsInFlight := false, apiLocationsState := .error }
    | some r =>
      { s with
        apiLocationsInFlight := false
        apiLocations := some r
        apiLocationsLoadedQuery := fetch.query
        apiLocationsState := .loaded
        loadedFrom := some fetch.space }

/-- `SetLocationFilter`. -/
def setLocationFilter (s : ApiList Space Result) (query : String) : ApiList Space Result :=
  { s with apiLocationsQuery := trimLocationQuery query }

/-- `ApplyNetworkServer`, as far as the space and its api go. -/
def applyNetworkServer (s : ApiList Space Result) : Switch Space → ApiList Space Result
  | .kept => s
  | .replaced space => { s with networkSpace := some space }
  | .applied space => { s with networkSpace := some space, api := some space }

/-- The list after a step, if there is such a fetch. -/
def next (s : ApiList Space Result) : Op Space Result → Option (ApiList Space Result)
  | .setLocationFilter query => some (s.setLocationFilter query)
  | .ensureApiLocations => some s.ensureApiLocations
  | .done i result err =>
    s.fetches[i]?.map fun fetch =>
      { s with fetches := s.fetches.eraseIdx i }.done fetch result err
  | .applyNetworkServer switch => some (s.applyNetworkServer switch)

end ApiList

/-! ### Runs -/

/-- A step, with the list before and after it. -/
abbrev Step (Space Result : Type*) := Transition (ApiList Space Result) (Op Space Result)

/-- The list before the first step: `Initialize` has taken the space's api, or has thrown before
it could. -/
def Initial (s : ApiList Space Result) : Prop :=
  ∃ networkSpace api, s = { networkSpace, api } ∧ (api = none ∨ api = networkSpace)

/-- What a server's api may answer to a query. -/
abbrev Api (Space Result : Type*) := Space → String → Result → Prop

/-- An answer that is not an error is one of the api that was asked. -/
def Answered (answers : Api Space Result) (s : ApiList Space Result) : Op Space Result → Prop
  | .done i result err => ∀ fetch ∈ s.fetches[i]?, ∀ r ∈ ApiList.given result err,
    answers fetch.space fetch.query r
  | _ => True

/-- The arming rests on the active server: the fetch in flight was sent to it, or else the answer
held is its, or else `api_` is its. -/
def Source (s : ApiList Space Result) : Op Space Result → Prop
  | .ensureApiLocations =>
    if s.asked then ∀ fetch ∈ s.fetches, fetch.generation = s.apiLocationsGeneration →
      s.networkSpace = some fetch.space
    else if s.cacheAnswers then s.networkSpace = s.loadedFrom
    else s.networkSpace = s.api
  | _ => True

/-- The runs of a new list. -/
abbrev Runs (answers : Api Space Result) :
    List (Step Space Result) → ApiList Space Result → Prop :=
  Run Initial fun _ s op s' => s.next op = some s' ∧ Answered answers s op

/-- The step changes the query or the space. -/
def Changes (t : Step Space Result) : Prop :=
  t.pre.apiLocationsQuery ≠ t.post.apiLocationsQuery ∨
    ∃ switch, t.label = .applyNetworkServer switch ∧ switch ≠ .kept

/-- The last arming came after the last change of the query and the last switch. -/
def ArmedSince (es : List (Step Space Result)) : Prop :=
  ∃ pre t mid, es = pre ++ t :: mid ∧ t.label = .ensureApiLocations ∧ ∀ v ∈ mid, ¬ Changes v

/-! ### What is held, and what is asked -/

variable {answers : Api Space Result} {s s' : ApiList Space Result} {op : Op Space Result}
  {fetch : Fetch Space} {result : Option Result} {err : Option String} {i : ℕ}
  {es : List (Step Space Result)}

/-- The invariant of all runs: the fetches stand in the order they were sent, the one of the
current generation is in flight and for the pending query, a loaded list is not asked for, and
the answer held is one of its server to its query. -/
structure Held (answers : Api Space Result) (s : ApiList Space Result) : Prop where
  unasked : s.api = none → s.apiLocationsInFlight = false ∧ s.apiLocationsState ≠ .loaded
  order : s.fetches.Pairwise fun f g => f.generation < g.generation
  generation : ∀ fetch ∈ s.fetches, fetch.generation ≤ s.apiLocationsGeneration
  pending : ∀ fetch ∈ s.fetches, fetch.generation = s.apiLocationsGeneration →
    s.apiLocationsInFlight = true ∧ fetch.query = s.apiLocationsPendingQuery
  loading : s.apiLocationsInFlight = true → s.apiLocationsState ≠ .loaded
  loaded : s.apiLocationsState = .loaded → ∃ r space, s.apiLocations = some r ∧
    s.loadedFrom = some space ∧ answers space s.apiLocationsLoadedQuery r

/-- What the list holds or waits for is the answer of the active server to the query. -/
structure Current (s : ApiList Space Result) : Prop where
  pending : s.apiLocationsInFlight = true → s.apiLocationsPendingQuery = s.apiLocationsQuery
  space : ∀ fetch ∈ s.fetches, fetch.generation = s.apiLocationsGeneration →
    s.networkSpace = some fetch.space
  loaded : s.apiLocationsState = .loaded →
    s.networkSpace = s.loadedFrom ∧ s.apiLocationsLoadedQuery = s.apiLocationsQuery

/-! ### An arming -/

/-- What an arming can do. -/
inductive Ensured (s : ApiList Space Result) : ApiList Space Result → Prop
  | none (hapi : s.api = none) : Ensured s s
  | asked {space : Space} (hapi : s.api = some space) (hasked : s.asked = true) : Ensured s s
  | cached {space : Space} (hapi : s.api = some space) (hasked : s.asked = false)
      (hcached : s.cacheAnswers = true) : Ensured s s
  | sent {space : Space} (hapi : s.api = some space) (hasked : s.asked = false)
      (hcached : s.cacheAnswers = false) : Ensured s
        { s with
          apiLocationsPendingQuery := s.apiLocationsQuery
          apiLocationsInFlight := true
          apiLocationsState := .loading
          apiLocationsGeneration := s.apiLocationsGeneration + 1
          fetches := s.fetches ++ [⟨s.apiLocationsGeneration + 1, s.apiLocationsQuery, space⟩] }

lemma ensured (s : ApiList Space Result) : Ensured s s.ensureApiLocations := by
  rw [ApiList.ensureApiLocations]
  split
  next hapi => exact .none hapi
  next space hapi =>
    split_ifs with hasked hcached
    · exact .asked hapi hasked
    · exact .cached hapi (by simpa using hasked) hcached
    · exact .sent hapi (by simpa using hasked) (by simpa using hcached)

lemma Held.ensureApiLocations (h : Held answers s) : Held answers s.ensureApiLocations := by
  have he := ensured s
  generalize s.ensureApiLocations = s' at he ⊢
  cases he with
  | none | asked | cached => exact h
  | @sent space hapi hasked hcached =>
    have hlt : ∀ fetch ∈ s.fetches, fetch.generation < s.apiLocationsGeneration + 1 :=
      fun fetch hmem => Nat.lt_succ_of_le (h.generation fetch hmem)
    refine ⟨fun hnone => absurd (hapi.symm.trans hnone) (by simp), ?_, ?_, ?_, fun _ => by simp,
      fun hloaded => absurd hloaded (by simp)⟩
    · rw [List.pairwise_append]
      refine ⟨h.order, List.pairwise_singleton _ _, fun fetch hmem fetch' hmem' => ?_⟩
      obtain rfl := List.mem_singleton.1 hmem'
      exact hlt fetch hmem
    · exact List.forall_mem_append.2
        ⟨fun fetch hmem => (hlt fetch hmem).le, List.forall_mem_singleton.2 le_rfl⟩
    · refine List.forall_mem_append.2 ⟨fun fetch hmem heq => ?_,
        List.forall_mem_singleton.2 fun _ => ⟨rfl, rfl⟩⟩
      exact absurd heq (hlt fetch hmem).ne

lemma Held.current (h : Held answers s) (hsource : Source s .ensureApiLocations) :
    Current s.ensureApiLocations := by
  rw [Source] at hsource
  have he := ensured s
  generalize s.ensureApiLocations = s' at he ⊢
  cases he with
  | none hapi =>
    obtain ⟨hflight, hstate⟩ := h.unasked hapi
    refine ⟨fun hyes => absurd (hflight.symm.trans hyes) (by simp), fun fetch hmem heq => ?_,
      fun hloaded => absurd hloaded hstate⟩
    exact absurd (hflight.symm.trans (h.pending fetch hmem heq).1) (by simp)
  | asked hapi hasked =>
    rw [if_pos hasked] at hsource
    simp only [ApiList.asked, Bool.and_eq_true, decide_eq_true_eq] at hasked
    exact ⟨fun _ => hasked.2, hsource, fun hloaded => absurd hloaded (h.loading hasked.1)⟩
  | cached hapi hasked hcached =>
    rw [if_neg (by simp [hasked]), if_pos hcached] at hsource
    simp only [ApiList.cacheAnswers, Bool.and_eq_true, decide_eq_true_eq] at hcached
    have hflight : s.apiLocationsInFlight ≠ true := fun hyes => h.loading hyes hcached.1.2
    exact ⟨fun hyes => absurd hyes hflight,
      fun fetch hmem heq => absurd (h.pending fetch hmem heq).1 hflight,
      fun _ => ⟨hsource, hcached.2⟩⟩
  | @sent space hapi hasked hcached =>
    rw [if_neg (by simp [hasked]), if_neg (by simp [hcached])] at hsource
    refine ⟨fun _ => rfl, ?_, fun hloaded => absurd hloaded (by simp)⟩
    refine List.forall_mem_append.2 ⟨fun fetch hmem heq => ?_,
      List.forall_mem_singleton.2 fun _ => hsource.trans hapi⟩
    exact absurd heq (Nat.lt_succ_of_le (h.generation fetch hmem)).ne

/-! ### An answer -/

lemma Held.mem_eraseIdx (h : Held answers s) (hi : s.fetches[i]? = some fetch)
    {fetch' : Fetch Space} (hmem : fetch' ∈ s.fetches.eraseIdx i) :
    fetch' ∈ s.fetches ∧ fetch'.generation ≠ fetch.generation := by
  obtain ⟨j, hne, hj⟩ := List.mem_eraseIdx_iff_getElem?.1 hmem
  obtain ⟨hjlt, rfl⟩ := List.getElem?_eq_some_iff.1 hj
  obtain ⟨hilt, rfl⟩ := List.getElem?_eq_some_iff.1 hi
  have horder := List.pairwise_iff_getElem.1 h.order
  refine ⟨List.getElem_mem _, ?_⟩
  rcases Nat.lt_or_gt_of_ne hne with hlt | hlt
  · exact (horder j i hjlt hilt hlt).ne
  · exact (horder i j hilt hjlt hlt).ne'

/-- What an answer can do. -/
inductive Answer (s : ApiList Space Result) (i : ℕ) (fetch : Fetch Space)
    (result : Option Result) (err : Option String) : ApiList Space Result → Prop
  | overtaken (hne : fetch.generation ≠ s.apiLocationsGeneration) :
      Answer s i fetch result err { s with fetches := s.fetches.eraseIdx i }
  | failed (heq : fetch.generation = s.apiLocationsGeneration)
      (hgiven : ApiList.given result err = none) :
      Answer s i fetch result err
        { s with
          fetches := s.fetches.eraseIdx i
          apiLocationsInFlight := false
          apiLocationsState := .error }
  | loaded {r : Result} (heq : fetch.generation = s.apiLocationsGeneration)
      (hgiven : ApiList.given result err = some r) :
      Answer s i fetch result err
        { s with
          fetches := s.fetches.eraseIdx i
          apiLocationsInFlight := false
          apiLocations := some r
          apiLocationsLoadedQuery := fetch.query
          apiLocationsState := .loaded
          loadedFrom := some fetch.space }

lemma answer_of_next (hnext : s.next (.done i result err) = some s') :
    ∃ fetch, s.fetches[i]? = some fetch ∧ Answer s i fetch result err s' := by
  obtain ⟨fetch, hi, rfl⟩ := Option.map_eq_some_iff.1 hnext
  refine ⟨fetch, hi, ?_⟩
  rw [ApiList.done]
  split_ifs with hne
  · exact .overtaken hne
  · cases hgiven : ApiList.given result err with
    | none => exact .failed (not_not.1 hne) hgiven
    | some r => exact .loaded (not_not.1 hne) hgiven

lemma Held.answer (h : Held answers s) (hi : s.fetches[i]? = some fetch)
    (hanswered : Answered answers s (.done i result err)) (ha : Answer s i fetch result err s') :
    Held answers s' := by
  have hsub : s.fetches.eraseIdx i |>.Sublist s.fetches := List.eraseIdx_sublist ..
  have horder := h.order.sublist hsub
  have hgeneration : ∀ fetch' ∈ s.fetches.eraseIdx i,
      fetch'.generation ≤ s.apiLocationsGeneration := fun fetch' hmem =>
    h.generation fetch' (hsub.subset hmem)
  cases ha with
  | overtaken hne =>
    exact ⟨h.unasked, horder, hgeneration, fun fetch' hmem => h.pending fetch' (hsub.subset hmem),
      h.loading, h.loaded⟩
  | failed heq hgiven =>
    refine ⟨fun _ => ⟨rfl, by simp⟩, horder, hgeneration, fun fetch' hmem heq' => ?_,
      fun hyes => absurd hyes (by simp), fun hyes => absurd hyes (by simp)⟩
    exact absurd (heq'.trans heq.symm) (h.mem_eraseIdx hi hmem).2
  | @loaded r heq hgiven =>
    have hmem := List.mem_of_getElem? hi
    refine ⟨fun hapi => ?_, horder, hgeneration, fun fetch' hmem heq' => ?_,
      fun hyes => absurd hyes (by simp), fun _ => ⟨r, fetch.space, rfl, rfl, ?_⟩⟩
    · exact absurd ((h.unasked hapi).1.symm.trans (h.pending fetch hmem heq).1) (by simp)
    · exact absurd (heq'.trans heq.symm) (h.mem_eraseIdx hi hmem).2
    · exact hanswered fetch hi r hgiven

lemma Current.answer (hc : Current s) (h : Held answers s) (hi : s.fetches[i]? = some fetch)
    (ha : Answer s i fetch result err s') : Current s' := by
  have hspace : ∀ fetch' ∈ s.fetches.eraseIdx i,
      fetch'.generation = s.apiLocationsGeneration → s.networkSpace = some fetch'.space :=
    fun fetch' hmem => hc.space fetch' (h.mem_eraseIdx hi hmem).1
  cases ha with
  | overtaken hne => exact ⟨hc.pending, hspace, hc.loaded⟩
  | failed heq hgiven =>
    exact ⟨fun hyes => absurd hyes (by simp), hspace, fun hyes => absurd hyes (by simp)⟩
  | loaded heq hgiven =>
    have hmem := List.mem_of_getElem? hi
    obtain ⟨hflight, hquery⟩ := h.pending fetch hmem heq
    exact ⟨fun hyes => absurd hyes (by simp), hspace,
      fun _ => ⟨hc.space fetch hmem heq, hquery.trans (hc.pending hflight)⟩⟩

/-! ### Runs -/

lemma Held.next (h : Held answers s) (hnext : s.next op = some s')
    (hanswered : Answered answers s op) : Held answers s' := by
  cases op with
  | setLocationFilter query =>
    cases hnext
    exact ⟨h.unasked, h.order, h.generation, h.pending, h.loading, h.loaded⟩
  | ensureApiLocations =>
    cases hnext
    exact h.ensureApiLocations
  | done i result err =>
    obtain ⟨fetch, hi, ha⟩ := answer_of_next hnext
    exact h.answer hi hanswered ha
  | applyNetworkServer switch =>
    cases hnext
    cases switch with
    | kept => exact h
    | replaced space =>
      exact ⟨h.unasked, h.order, h.generation, h.pending, h.loading, h.loaded⟩
    | applied space =>
      exact ⟨fun hnone => absurd hnone (by simp [ApiList.applyNetworkServer]), h.order,
        h.generation, h.pending, h.loading, h.loaded⟩

lemma held_of_runs (hrun : Runs answers es s) : Held answers s := by
  refine hrun.invariant (P := fun _ s => Held answers s) ?_ fun _ _ _ _ h hstep =>
    h.next hstep.1 hstep.2
  rintro s ⟨networkSpace, api, rfl, -⟩
  exact ⟨fun _ => ⟨rfl, by simp⟩, .nil, by simp, by simp, by simp, by simp⟩

lemma Current.next (hc : Current s) (h : Held answers s) (hnext : s.next op = some s')
    (hchanges : ¬ Changes ⟨s, op, s'⟩) (hsource : Source s op) : Current s' := by
  cases op with
  | setLocationFilter query =>
    cases hnext
    have hquery : s.apiLocationsQuery = (s.setLocationFilter query).apiLocationsQuery :=
      not_not.1 fun hne => hchanges (.inl hne)
    refine ⟨fun hflight => ?_, hc.space, fun hloaded => ⟨(hc.loaded hloaded).1, ?_⟩⟩
    · rw [← hquery]
      exact hc.pending hflight
    · rw [← hquery]
      exact (hc.loaded hloaded).2
  | ensureApiLocations =>
    cases hnext
    exact h.current hsource
  | done i result err =>
    obtain ⟨fetch, hi, ha⟩ := answer_of_next hnext
    exact hc.answer h hi ha
  | applyNetworkServer switch =>
    cases hnext
    obtain rfl : switch = .kept := not_not.1 fun hne => hchanges (.inr ⟨switch, rfl, hne⟩)
    exact hc

/-- After the last arming, with no change of the query or the space since, the list is current. -/
lemma current_of_armed (hrun : Runs answers es s) (hsource : ∀ t ∈ es, Source t.pre t.label)
    (harmed : ArmedSince es) : Current s := by
  obtain ⟨pre, t, mid, rfl, hlabel, hmid⟩ := harmed
  obtain ⟨hpre, hnext, hanswered⟩ := hrun.split rfl
  have hheld := held_of_runs hpre
  have hcurrent : Current t.post := by
    have harm : Source t.pre t.label := hsource t (by simp)
    rw [hlabel] at hnext harm
    obtain hpost := Option.some.inj hnext
    rw [← hpost]
    exact hheld.current harm
  have hmid' : ∀ v ∈ mid, ¬ Changes v ∧ Source v.pre v.label := fun v hv =>
    ⟨hmid v hv, hsource v (List.mem_append_right _ (List.mem_cons_of_mem _ hv))⟩
  have hkept : Held answers s ∧ Current s := by
    refine Run.kept_since (R := fun s => Held answers s ∧ Current s) ?_ hrun
      ⟨hheld.next hnext hanswered, hcurrent⟩ hmid'
    exact fun _ _ _ _ hstep hok hs =>
      ⟨hs.1.next hstep.1 hstep.2, hs.2.next hs.1 hstep.1 hok.1 hok.2⟩
  exact hkept.2

/-- The list is the answer of the active server to the query. -/
def Right (answers : Api Space Result) (s : ApiList Space Result) : Prop :=
  s.apiLocationsLoadedQuery = s.apiLocationsQuery ∧ ∃ r space, s.apiLocations = some r ∧
    s.networkSpace = some space ∧ answers space s.apiLocationsQuery r

/-- The list answers the current question, in a run whose armings rest on the active server; and
in every run an answer to an overtaken fetch changes nothing, and a failed fetch keeps the last
answer. -/
theorem list_answers_question (hrun : Runs answers es s) :
    ((∀ t ∈ es, Source t.pre t.label) → ArmedSince es → s.apiLocationsInFlight = false →
      s.apiLocationsState = .loaded → Right answers s) ∧
    (∀ i fetch result err, s.fetches[i]? = some fetch →
      fetch.generation ≠ s.apiLocationsGeneration →
        s.next (.done i result err) = some { s with fetches := s.fetches.eraseIdx i }) ∧
    ∀ i result err s', ApiList.given result err = none → s.next (.done i result err) = some s' →
      s'.apiLocations = s.apiLocations ∧
        s'.apiLocationsLoadedQuery = s.apiLocationsLoadedQuery := by
  refine ⟨fun hsource harmed _ hloaded => ?_, fun i fetch result err hi hne => ?_,
    fun i result err s' hgiven hnext => ?_⟩
  · obtain ⟨r, space, hr, hfrom, hanswer⟩ := (held_of_runs hrun).loaded hloaded
    obtain ⟨hspace, hquery⟩ := (current_of_armed hrun hsource harmed).loaded hloaded
    exact ⟨hquery, r, space, hr, hspace.trans hfrom, hquery ▸ hanswer⟩
  · rw [ApiList.next, hi, Option.map_some, ApiList.done, if_pos hne]
  · obtain ⟨fetch, -, ha⟩ := answer_of_next hnext
    cases ha with
    | overtaken | failed => exact ⟨rfl, rfl⟩
    | loaded heq hsome => exact absurd (hgiven.symm.trans hsome) (by simp)

end

/-! ### The switch -/

/-- The servers answer every query with their own name. -/
def named : Api String String := fun space _ r => r = space

/-- A list that was asked for, of one server. -/
def asking : ApiList String String where
  networkSpace := some "old"
  api := some "old"
  apiLocationsState := .loading
  apiLocationsInFlight := true
  apiLocationsGeneration := 1
  fetches := [⟨1, "", "old"⟩]

/-- The list that was asked for. -/
def answered : ApiList String String where
  networkSpace := some "old"
  api := some "old"
  apiLocations := some "old"
  apiLocationsState := .loaded
  apiLocationsGeneration := 1
  loadedFrom := some "old"

/-- The steps that lead to it. -/
def answering : List (Step String String) :=
  [⟨{ networkSpace := some "old", api := some "old" }, .ensureApiLocations, asking⟩,
    ⟨asking, .done 0 (some "old") none, answered⟩]

lemma runs_answering : Runs named answering answered := by
  have h₀ : Runs named [] { networkSpace := some "old", api := some "old" } :=
    .nil ⟨_, _, rfl, .inr rfl⟩
  have hasked : ApiList.next { networkSpace := some "old", api := some "old" }
      (.ensureApiLocations : Op String String) = some asking := rfl
  have h₁ := h₀.snoc ⟨hasked, trivial⟩
  refine h₁.snoc (a := (.done 0 (some "old") none : Op String String)) ⟨rfl, ?_⟩
  intro fetch hfetch r hr
  cases hfetch
  exact (Option.some.inj hr).symm

theorem list_answers_question_answering : Right named answered := by
  refine (list_answers_question runs_answering).1 ?_ ⟨[], _, [_], rfl, rfl, ?_⟩ rfl rfl
  · exact List.forall_mem_cons.2 ⟨rfl, List.forall_mem_singleton.2 trivial⟩
  · refine List.forall_mem_singleton.2 ?_
    rintro (hne | ⟨switch, hlabel, -⟩)
    · exact hne rfl
    · cases hlabel

/-- After the switch the answer of the old server is held for the new one's. -/
theorem list_answers_question_fails :
    ¬ ∀ (es : List (Step String String)) (s : ApiList String String), Runs named es s →
      ArmedSince es → s.apiLocationsInFlight = false → s.apiLocationsState = .loaded →
        Right named s := by
  intro h
  have hswitch := runs_answering.snoc
    (a := (.applyNetworkServer (.applied "new") : Op String String)) ⟨rfl, trivial⟩
  have harmed := hswitch.snoc (a := (.ensureApiLocations : Op String String)) ⟨rfl, trivial⟩
  obtain ⟨-, r, space, hr, hspace, hanswer⟩ :=
    h _ _ harmed ⟨_, _, [], rfl, rfl, by simp⟩ rfl rfl
  cases hr
  cases hspace
  exact absurd hanswer (by simp [named])

end UrnetworkWindows.Locations
