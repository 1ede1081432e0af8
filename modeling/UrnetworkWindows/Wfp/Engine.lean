/-
The firewall's session with the filter engine (`WfpPolicy::Apply`, `Revert`,
`OpenEngine`, `CloseEngine`).

`Bfe` is the engine as far as one dynamic session goes.  Whether a call succeeds is
decided by `answers`, one for each call, which nothing constrains.  A transaction is
atomic: what it did is in force once it is committed, and an abort or a failed commit
leaves what was in force at its begin; an abort that fails leaves the transaction
open, and none can be begun while one is open.  Closing the session removes all it
added.

The texts of the errors, the log and the sweep of objects of dead processes are left
out.  The calls are made under the policy's own mutex, so they come one after the
other.
-/
import UrnetworkWindows.Wfp.Filters

namespace UrnetworkWindows.Wfp

/-! ### The engine -/

/-- The objects filters hang under. -/
inductive FwpObject
  | provider
  | sublayer (s : WfpSublayer)
deriving DecidableEq, Repr

/-- What is installed: the objects, and the filters with their run-time ids. -/
structure Store where
  objects : List FwpObject := []
  filters : List (ℕ × WfpFilterSpec) := []
deriving DecidableEq, Repr

/-- The filter engine: what is in force, the open transaction, the next id, the
answers to come and how many have been given. -/
structure Bfe where
  store : Store := {}
  txn : Option Store := none
  nextId : ℕ := 1
  answers : ℕ → Bool
  asked : ℕ := 0

/-- The code a deletion returns. -/
inductive DeleteResult
  | success
  | filterNotFound
  | failed
deriving DecidableEq, Repr

namespace Bfe

/-- The next answer. -/
def ask (b : Bfe) : Bool × Bfe := (b.answers b.asked, { b with asked := b.asked + 1 })

/-- A change of what is installed, within the transaction if one is open. -/
def edit (f : Store → Store) (b : Bfe) : Bfe :=
  match b.txn with
  | some t => { b with txn := some (f t) }
  | none => { b with store := f b.store }

/-- `FwpmEngineOpen0`: a new session, under which nothing is installed. -/
def engineOpen (b : Bfe) : Bool × Bfe := b.ask

/-- `FwpmEngineClose0`. -/
def engineClose (b : Bfe) : Bfe := { b with store := {}, txn := none }

/-- `FwpmTransactionBegin0`. -/
def transactionBegin (b : Bfe) : Bool × Bfe :=
  if b.ask.1 && b.txn.isNone then (true, { b.ask.2 with txn := some b.store }) else (false, b.ask.2)

/-- `FwpmTransactionCommit0`. -/
def transactionCommit (b : Bfe) : Bool × Bfe :=
  if b.ask.1 then (true, { b.ask.2 with store := b.txn.getD b.store, txn := none })
  else (false, { b.ask.2 with txn := none })

/-- `FwpmTransactionAbort0`: its result is not looked at. -/
def transactionAbort (b : Bfe) : Bfe :=
  if b.ask.1 then { b.ask.2 with txn := none } else b.ask.2

/-- `FwpmProviderAdd0` and `FwpmSubLayerAdd0`, as their callers see them: an object
that is there already is no failure. -/
def objectAdd (o : FwpObject) (b : Bfe) : Bool × Bfe :=
  if b.ask.1 then (true, b.ask.2.edit fun t => { t with objects := t.objects.insert o })
  else (false, b.ask.2)

/-- `FwpmProviderGetByKey0`: whether the provider was read back and is disabled. -/
def providerDisabled (b : Bfe) : Bool × Bfe :=
  if b.ask.1 then b.ask.2.ask else (false, b.ask.2)

/-- `FwpmFilterDeleteById0`. -/
def filterDeleteById (id : ℕ) (b : Bfe) : DeleteResult × Bfe :=
  if !b.ask.1 then (.failed, b.ask.2)
  else if id ∈ ((b.txn.getD b.store).filters.map Prod.fst) then
    (.success, b.ask.2.edit fun t => { t with filters := t.filters.filter (·.1 ≠ id) })
  else (.filterNotFound, b.ask.2)

/-- `FwpmFilterAdd0`: the id of the filter. -/
def filterAdd (spec : WfpFilterSpec) (b : Bfe) : Option ℕ × Bfe :=
  if b.ask.1 then
    (some b.nextId,
      { b.ask.2.edit fun t => { t with filters := t.filters ++ [(b.nextId, spec)] } with
      nextId := b.nextId + 1 })
  else (none, b.ask.2)

end Bfe

/-! ### The policy -/

/-- The members of `WfpPolicy`. -/
structure WfpPolicy where
  engine : Bool := false
  filterIds : List ℕ := []
  state : WfpState := .off
deriving DecidableEq, Repr

/-- The objects of `OpenEngine`, in its order; a failure aborts. -/
def addObjects : List FwpObject → Bfe → Bool × Bfe
  | [], b => (true, b)
  | o :: os, b =>
    let r := b.objectAdd o
    if r.1 then addObjects os r.2 else (false, r.2.transactionAbort)

/-- The transaction of `OpenEngine`. -/
def registerObjects (b : Bfe) : Bool × Bfe :=
  let begun := b.transactionBegin
  if !begun.1 then (false, begun.2)
  else
    let added := addObjects [.provider, .sublayer .baseline, .sublayer .dns] begun.2
    if !added.1 then (false, added.2) else added.2.transactionCommit

/-- `OpenEngine`, for a policy without an engine: every failure closes the session. -/
def openSession (b : Bfe) : Bool × Bfe :=
  let opened := b.engineOpen
  if !opened.1 then (false, opened.2)
  else
    let registered := registerObjects opened.2
    if !registered.1 then (false, registered.2.engineClose)
    else
      let disabled := registered.2.providerDisabled
      if disabled.1 then (false, disabled.2.engineClose) else (true, disabled.2)

/-- `WfpPolicy::OpenEngine`. -/
def openEngine (w : WfpPolicy) (b : Bfe) : Bool × WfpPolicy × Bfe :=
  if w.engine then (true, w, b)
  else
    let r := openSession b
    (r.1, { w with engine := r.1 }, r.2)

/-- `WfpPolicy::CloseEngine`. -/
def closeEngine (w : WfpPolicy) (b : Bfe) : WfpPolicy × Bfe :=
  if !w.engine then (w, b) else ({ engine := false, filterIds := [], state := .off }, b.engineClose)

/-- `WfpPolicy::RevertLocked`. -/
def revertLocked (w : WfpPolicy) (b : Bfe) : WfpPolicy × Bfe :=
  if !w.engine then ({ w with state := .off }, b) else closeEngine w b

/-- The deletions of `ApplyLocked`; a failure aborts. -/
def deleteFilters : List ℕ → Bfe → Bool × Bfe
  | [], b => (true, b)
  | id :: ids, b =>
    let r := b.filterDeleteById id
    if r.1 = .failed then (false, r.2.transactionAbort) else deleteFilters ids r.2

/-- `BuildConditions`: only the id of an image can fail. -/
def buildConditions : List WfpCondition → Bfe → Bool × Bfe
  | [], b => (true, b)
  | c :: cs, b =>
    if c.field = .appId then
      if b.ask.1 then buildConditions cs b.ask.2 else (false, b.ask.2)
    else buildConditions cs b

/-- The additions of `ApplyLocked`, with the ids; a failure aborts. -/
def addFilters : List WfpFilterSpec → Bfe → Option (List ℕ) × Bfe
  | [], b => (some [], b)
  | spec :: specs, b =>
    let built := buildConditions spec.conditions b
    if !built.1 then (none, built.2.transactionAbort)
    else
      let added := built.2.filterAdd spec
      match added.1 with
      | none => (none, added.2.transactionAbort)
      | some id =>
        let rest := addFilters specs added.2
        (rest.1.map (id :: ·), rest.2)

/-- The transaction of `ApplyLocked`: the ids of the new filters, if it was
committed. -/
def swapFilters (filterIds : List ℕ) (specs : List WfpFilterSpec) (b : Bfe) :
    Option (List ℕ) × Bfe :=
  let begun := b.transactionBegin
  if !begun.1 then (none, begun.2)
  else
    let deleted := deleteFilters filterIds begun.2
    if !deleted.1 then (none, deleted.2)
    else
      let added := addFilters specs deleted.2
      match added.1 with
      | none => (none, added.2)
      | some ids =>
        let committed := added.2.transactionCommit
        (if committed.1 then some ids else none, committed.2)

section Apply

variable (pton : InetPton)

/-- `WfpPolicy::Apply`. -/
def apply (state : WfpState) (cfg : WfpConfig) (w : WfpPolicy) (b : Bfe) :
    Bool × WfpPolicy × Bfe :=
  if state = .off then (true, revertLocked w b)
  else
    let opened := openEngine w b
    if !opened.1 then (false, opened.2)
    else
      let swapped := swapFilters opened.2.1.filterIds (buildFilterSet pton state cfg) opened.2.2
      match swapped.1 with
      | none => (false, opened.2.1, swapped.2)
      | some ids => (true, { opened.2.1 with filterIds := ids, state := state }, swapped.2)

/-- The calls on a policy. -/
inductive Call
  | apply (state : WfpState) (cfg : WfpConfig)
  | revert

/-- The policy and the engine after one call. -/
def Call.run (w : WfpPolicy) (b : Bfe) : Call → WfpPolicy × Bfe
  | .apply state cfg => (Wfp.apply pton state cfg w b).2
  | .revert => revertLocked w b

/-- The policy and the engine after a sequence of calls, from a process that has just
started. -/
def afterCalls (answers : ℕ → Bool) (calls : List Call) : WfpPolicy × Bfe :=
  calls.foldl (fun s c => c.run pton s.1 s.2) ({}, { answers })

end Apply

/-! ### What the calls do within a transaction -/

section Txn

variable {b : Bfe} {t : Store}

lemma store_transactionAbort : b.transactionAbort.store = b.store := by
  rw [Bfe.transactionAbort]
  split <;> rfl

lemma store_transactionBegin : b.transactionBegin.2.store = b.store := by
  rw [Bfe.transactionBegin]
  split <;> rfl

lemma txn_transactionBegin (h : b.transactionBegin.1 = true) :
    b.transactionBegin.2.txn = some b.store := by
  by_cases hbegin : (b.ask.1 && b.txn.isNone) = true
  · rw [Bfe.transactionBegin, if_pos hbegin]
  · rw [Bfe.transactionBegin, if_neg hbegin] at h
    exact absurd h (by simp)

lemma store_transactionCommit (ht : b.txn = some t) :
    b.transactionCommit.2.store = if b.transactionCommit.1 then t else b.store := by
  rw [Bfe.transactionCommit]
  split
  · simp [ht]
  · rfl

lemma objectAdd_spec (ht : b.txn = some t) (o : FwpObject) :
    (b.objectAdd o).2.store = b.store ∧
      ∃ t', (b.objectAdd o).2.txn = some t' ∧ t'.filters = t.filters := by
  rw [Bfe.objectAdd]
  split
  · simp [Bfe.edit, Bfe.ask, ht]
  · exact ⟨rfl, t, ht, rfl⟩

lemma addObjects_spec (os : List FwpObject) (ht : b.txn = some t) :
    (addObjects os b).2.store = b.store ∧ ((addObjects os b).1 = true →
      ∃ t', (addObjects os b).2.txn = some t' ∧ t'.filters = t.filters) := by
  induction os generalizing b t with
  | nil => exact ⟨rfl, fun _ => ⟨t, ht, rfl⟩⟩
  | cons o os ih =>
    obtain ⟨hstore, t', ht', hfilters⟩ := objectAdd_spec ht o
    simp only [addObjects]
    split
    · obtain ⟨hs, hok⟩ := ih ht'
      refine ⟨hs.trans hstore, fun h => ?_⟩
      obtain ⟨t'', ht'', hf⟩ := hok h
      exact ⟨t'', ht'', hf.trans hfilters⟩
    · exact ⟨store_transactionAbort.trans hstore, fun h => absurd h (by simp)⟩

lemma filterDeleteById_spec (ht : b.txn = some t) (id : ℕ) :
    (b.filterDeleteById id).2.store = b.store ∧ ((b.filterDeleteById id).1 ≠ .failed →
      (b.filterDeleteById id).2.txn =
        some { t with filters := t.filters.filter (·.1 ≠ id) }) := by
  rw [Bfe.filterDeleteById]
  split
  · exact ⟨rfl, fun h => absurd rfl h⟩
  split
  · simp [Bfe.edit, Bfe.ask, ht]
  next hid =>
  -- nothing goes when the id is not there
  have hall : t.filters.filter (·.1 ≠ id) = t.filters := by
    rw [List.filter_eq_self]
    rintro ⟨i, spec⟩ hmem
    rw [ht, Option.getD_some, List.mem_map] at hid
    simp only [ne_eq, decide_eq_true_eq]
    rintro rfl
    exact hid ⟨_, hmem, rfl⟩
  rw [hall]
  exact ⟨rfl, fun _ => ht⟩

lemma deleteFilters_spec (ids : List ℕ) (ht : b.txn = some t) :
    (deleteFilters ids b).2.store = b.store ∧ ((deleteFilters ids b).1 = true →
      (deleteFilters ids b).2.txn =
        some { t with filters := t.filters.filter (·.1 ∉ ids) }) := by
  induction ids generalizing b t with
  | nil => exact ⟨rfl, fun _ => by simp [deleteFilters, ht]⟩
  | cons id ids ih =>
    obtain ⟨hstore, hok⟩ := filterDeleteById_spec ht id
    simp only [deleteFilters]
    split
    · exact ⟨store_transactionAbort.trans hstore, fun h => absurd h (by simp)⟩
    next hdel =>
    obtain ⟨hs, hrest⟩ := ih (hok hdel)
    refine ⟨hs.trans hstore, fun h => ?_⟩
    rw [hrest h, List.filter_filter]
    simp [not_or, Bool.and_comm]

lemma buildConditions_spec (cs : List WfpCondition) :
    (buildConditions cs b).2.store = b.store ∧ (buildConditions cs b).2.txn = b.txn := by
  induction cs generalizing b with
  | nil => exact ⟨rfl, rfl⟩
  | cons c cs ih =>
    simp only [buildConditions]
    split
    · split
      · exact ih
      · exact ⟨rfl, rfl⟩
    · exact ih

lemma filterAdd_spec (ht : b.txn = some t) (spec : WfpFilterSpec) :
    (b.filterAdd spec).2.store = b.store ∧ ∀ id, (b.filterAdd spec).1 = some id →
      (b.filterAdd spec).2.txn = some { t with filters := t.filters ++ [(id, spec)] } := by
  rw [Bfe.filterAdd]
  split
  · simp [Bfe.edit, Bfe.ask, ht]
  · exact ⟨rfl, fun id h => absurd h (by simp)⟩

lemma addFilters_spec (specs : List WfpFilterSpec) (ht : b.txn = some t) :
    (addFilters specs b).2.store = b.store ∧ ∀ ids, (addFilters specs b).1 = some ids →
      ids.length = specs.length ∧
        (addFilters specs b).2.txn = some { t with filters := t.filters ++ ids.zip specs } := by
  induction specs generalizing b t with
  | nil =>
    refine ⟨rfl, fun ids h => ?_⟩
    cases h
    simp [addFilters, ht]
  | cons spec specs ih =>
    obtain ⟨hbuilt, htxn⟩ := buildConditions_spec (b := b) spec.conditions
    obtain ⟨hadd, hid⟩ := filterAdd_spec (htxn.trans ht) spec
    simp only [addFilters]
    split
    · exact ⟨store_transactionAbort.trans hbuilt, fun ids h => absurd h (by simp)⟩
    split
    · exact ⟨store_transactionAbort.trans (hadd.trans hbuilt), fun ids h => absurd h (by simp)⟩
    next id hsome =>
    obtain ⟨hs, hrest⟩ := ih (hid id hsome)
    refine ⟨hs.trans (hadd.trans hbuilt), fun ids h => ?_⟩
    obtain ⟨ids', hids', rfl⟩ := Option.map_eq_some_iff.1 h
    obtain ⟨hlen, htxn'⟩ := hrest ids' hids'
    simp [hlen, htxn']

lemma swapFilters_spec (filterIds : List ℕ) (specs : List WfpFilterSpec) :
    ((swapFilters filterIds specs b).1 = none →
      (swapFilters filterIds specs b).2.store = b.store) ∧
    ∀ ids, (swapFilters filterIds specs b).1 = some ids → ids.length = specs.length ∧
      (swapFilters filterIds specs b).2.store.filters =
        b.store.filters.filter (·.1 ∉ filterIds) ++ ids.zip specs := by
  simp only [swapFilters]
  split
  · exact ⟨fun _ => store_transactionBegin, fun ids h => absurd h (by simp)⟩
  next hbegun =>
  have hbegun' : b.transactionBegin.1 = true := by simpa using hbegun
  obtain ⟨hdel, htxn⟩ := deleteFilters_spec filterIds (txn_transactionBegin hbegun')
  rw [store_transactionBegin] at hdel
  split
  · exact ⟨fun _ => hdel, fun ids h => absurd h (by simp)⟩
  next hok =>
  obtain ⟨hadd, hids⟩ := addFilters_spec specs (htxn (by simpa using hok))
  rw [hdel] at hadd
  split
  · exact ⟨fun _ => hadd, fun ids h => absurd h (by simp)⟩
  next ids hsome =>
  obtain ⟨hlen, htxn'⟩ := hids ids hsome
  have hcommit := store_transactionCommit htxn'
  rw [hadd] at hcommit
  split
  · next hc =>
    rw [if_pos hc] at hcommit
    refine ⟨fun h => absurd h (by simp), fun ids' h => ?_⟩
    cases h
    exact ⟨hlen, by rw [hcommit]⟩
  · next hc =>
    rw [if_neg hc] at hcommit
    exact ⟨fun _ => hcommit, fun ids' h => absurd h (by simp)⟩

end Txn

/-! ### Opening and closing -/

lemma openSession_spec {b : Bfe} (hstore : b.store = {}) (htxn : b.txn = none) :
    (openSession b).2.store.filters = [] ∧ ((openSession b).1 = false →
      (openSession b).2.store = {} ∧ (openSession b).2.txn = none) := by
  simp only [openSession]
  split
  · exact ⟨by rw [Bfe.engineOpen, Bfe.ask, hstore], fun _ => ⟨hstore, htxn⟩⟩
  split
  · exact ⟨rfl, fun _ => ⟨rfl, rfl⟩⟩
  next hreg =>
  have hfilters : (registerObjects b.engineOpen.2).2.store.filters = [] := by
    have hopen : b.engineOpen.2.store = {} := hstore
    revert hreg
    simp only [registerObjects]
    split
    · simp
    next hbegun =>
    obtain ⟨hadd, hobj⟩ := addObjects_spec [.provider, .sublayer .baseline, .sublayer .dns]
      (txn_transactionBegin (by simpa using hbegun))
    split
    · simp
    next hok =>
    obtain ⟨t, ht, hnone⟩ := hobj (by simpa using hok)
    intro hcommit
    rw [store_transactionCommit ht, if_pos (by simpa using hcommit), hnone, hopen]
  have hkeep : (registerObjects b.engineOpen.2).2.providerDisabled.2.store =
      (registerObjects b.engineOpen.2).2.store := by
    rw [Bfe.providerDisabled]
    split <;> rfl
  split
  · exact ⟨rfl, fun _ => ⟨rfl, rfl⟩⟩
  · exact ⟨by rw [hkeep, hfilters], fun h => absurd h (by simp)⟩

section Policy

variable {pton : InetPton} {w : WfpPolicy} {b : Bfe}

/-- One policy is in force: the filters are those the ids name, and one call of
`BuildFilterSet` described them, or there are none and the state is off.  Without an
engine nothing is installed. -/
structure InForce (pton : InetPton) (w : WfpPolicy) (b : Bfe) : Prop where
  named : b.store.filters.map Prod.fst = w.filterIds
  built : (∃ cfg, b.store.filters.map Prod.snd = buildFilterSet pton w.state cfg) ∨
    b.store.filters = [] ∧ w.state = .off
  closed : w.engine = false → b.store = {} ∧ b.txn = none ∧ w.state = .off

lemma InForce.openEngine (h : InForce pton w b) :
    InForce pton (openEngine w b).2.1 (openEngine w b).2.2 ∧
      ((Wfp.openEngine w b).2.2.store.filters = b.store.filters ∧
        (Wfp.openEngine w b).2.1.filterIds = w.filterIds ∧
          (Wfp.openEngine w b).2.1.state = w.state) ∧
      ((Wfp.openEngine w b).1 = true → (Wfp.openEngine w b).2.1.engine = true) := by
  rw [Wfp.openEngine]
  split
  · next hengine => exact ⟨h, ⟨rfl, rfl, rfl⟩, fun _ => hengine⟩
  next hengine =>
  obtain ⟨hstore, htxn, hoff⟩ := h.closed (by simpa using hengine)
  obtain ⟨hfilters, hclosed⟩ := openSession_spec hstore htxn
  have hids : w.filterIds = [] := by
    rw [← h.named, hstore]
    rfl
  refine ⟨⟨by simp [hfilters, hids], .inr ⟨hfilters, hoff⟩, fun hfail => ?_⟩,
    ⟨by rw [hstore, hfilters], rfl, rfl⟩, id⟩
  obtain ⟨hs, ht⟩ := hclosed hfail
  exact ⟨hs, ht, hoff⟩

lemma InForce.revert (h : InForce pton w b) :
    InForce pton (revertLocked w b).1 (revertLocked w b).2 ∧
      (revertLocked w b).2.store.filters = [] ∧ (revertLocked w b).1.state = .off := by
  rw [revertLocked]
  split
  · next hengine =>
    obtain ⟨hstore, htxn, -⟩ := h.closed (by simpa using hengine)
    have hnone : b.store.filters = [] := by rw [hstore]
    exact ⟨⟨h.named, .inr ⟨hnone, rfl⟩, fun _ => ⟨hstore, htxn, rfl⟩⟩, hnone, rfl⟩
  · next hengine =>
    rw [closeEngine, if_neg hengine]
    exact ⟨⟨rfl, .inr ⟨rfl, rfl⟩, fun _ => ⟨rfl, rfl, rfl⟩⟩, rfl, rfl⟩

lemma InForce.filter_eq_nil (h : InForce pton w b) :
    b.store.filters.filter (·.1 ∉ w.filterIds) = [] := by
  rw [List.filter_eq_nil_iff]
  rintro ⟨id, spec⟩ hmem
  have hid : id ∈ w.filterIds := h.named ▸ List.mem_map.2 ⟨_, hmem, rfl⟩
  simpa using hid

lemma InForce.apply (h : InForce pton w b) (state : WfpState) (cfg : WfpConfig) :
    InForce pton (apply pton state cfg w b).2.1 (apply pton state cfg w b).2.2 ∧
      ((Wfp.apply pton state cfg w b).1 = false →
        (Wfp.apply pton state cfg w b).2.2.store.filters = b.store.filters ∧
          (Wfp.apply pton state cfg w b).2.1.filterIds = w.filterIds ∧
            (Wfp.apply pton state cfg w b).2.1.state = w.state) := by
  simp only [Wfp.apply]
  split
  · exact ⟨h.revert.1, fun hf => absurd hf (by simp)⟩
  obtain ⟨hopen, ⟨hfilters, hids, hstate⟩, hengine⟩ := h.openEngine
  split
  · exact ⟨hopen, fun _ => ⟨hfilters, hids, hstate⟩⟩
  next hok =>
  have heng := hengine (by simpa using hok)
  obtain ⟨hnone, hsome⟩ := swapFilters_spec (b := (Wfp.openEngine w b).2.2)
    (Wfp.openEngine w b).2.1.filterIds (buildFilterSet pton state cfg)
  split
  · next hswap =>
    have hkeep := hnone hswap
    refine ⟨⟨by rw [hkeep, hopen.named], by rw [hkeep]; exact hopen.built, fun hf => ?_⟩,
      fun _ => ⟨by rw [hkeep, hfilters], hids, hstate⟩⟩
    exact absurd hf (by simp [heng])
  · next ids hswap =>
    obtain ⟨hlen, hstore⟩ := hsome ids hswap
    rw [hopen.filter_eq_nil, List.nil_append] at hstore
    refine ⟨⟨?_, .inl ⟨cfg, ?_⟩, fun hf => ?_⟩, fun hf => absurd hf (by simp)⟩
    · rw [hstore, List.map_fst_zip hlen.le]
    · rw [hstore, List.map_snd_zip hlen.ge]
    · exact absurd hf (by simp [heng])

lemma inForce_afterCalls (pton : InetPton) (answers : ℕ → Bool) (calls : List Call) :
    InForce pton (afterCalls pton answers calls).1 (afterCalls pton answers calls).2 := by
  -- from the end of the sequence, so that the step is the last call
  induction calls using List.reverseRecOn with
  | nil => exact ⟨rfl, .inr ⟨rfl, rfl⟩, fun _ => ⟨rfl, rfl, rfl⟩⟩
  | append_singleton calls c ih =>
    rw [afterCalls, List.foldl_append]
    cases c with
    | apply state cfg => exact (ih.apply state cfg).1
    | revert => exact ih.revert.1

/-- After any calls, whichever of the engine's answers were failures: the installed
filters are those the policy names and come from one `BuildFilterSet` call for its
state, or there are none and it is off; an `Apply` that returns false changes neither
the filters nor the ids nor the state; and after a `Revert` there are none. -/
theorem swap_all_or_nothing (pton : InetPton) (answers : ℕ → Bool) (calls : List Call) :
    let w := (afterCalls pton answers calls).1
    let b := (afterCalls pton answers calls).2
    b.store.filters.map Prod.fst = w.filterIds ∧
    ((∃ cfg, b.store.filters.map Prod.snd = buildFilterSet pton w.state cfg) ∨
      b.store.filters = [] ∧ w.state = .off) ∧
    (∀ state cfg, (apply pton state cfg w b).1 = false →
      (apply pton state cfg w b).2.2.store.filters = b.store.filters ∧
        (apply pton state cfg w b).2.1.filterIds = w.filterIds ∧
          (apply pton state cfg w b).2.1.state = w.state) ∧
    (revertLocked w b).2.store.filters = [] ∧ (revertLocked w b).1.state = .off := by
  have h := inForce_afterCalls pton answers calls
  exact ⟨h.named, h.built, fun state cfg => (h.apply state cfg).2, h.revert.2⟩

/-- The session opens with a provider that is not disabled, and from the sixtieth call
on none succeeds. -/
def failingAnswers (n : ℕ) : Bool := n ≠ 7 && n < 60

/-- An `Apply` that fails at a deletion, over thirty-two installed filters. -/
theorem swap_all_or_nothing_failed_delete :
    (afterCalls ⟨fun _ => none, fun _ => none⟩ failingAnswers
        [.apply .armed {}]).2.store.filters.length = 32 ∧
      (apply ⟨fun _ => none, fun _ => none⟩ .connecting {}
        (afterCalls ⟨fun _ => none, fun _ => none⟩ failingAnswers [.apply .armed {}]).1
        (afterCalls ⟨fun _ => none, fun _ => none⟩ failingAnswers
          [.apply .armed {}]).2).2.2.store.filters =
      (afterCalls ⟨fun _ => none, fun _ => none⟩ failingAnswers
        [.apply .armed {}]).2.store.filters := by
  refine ⟨by decide +kernel, ?_⟩
  have hfail := (swap_all_or_nothing ⟨fun _ => none, fun _ => none⟩ failingAnswers
    [.apply .armed {}]).2.2.1 .connecting {} (by decide +kernel)
  exact hfail.1

end Policy

end UrnetworkWindows.Wfp
