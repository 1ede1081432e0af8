/-
A deleted key stays deleted (`ApiKeysPresentation.h`: `Model`).

The delete table forgets a delete that is out: a list without the key drops its entry, and so
does the next open.  Where a later list brings such a key back (`Forgets`), its row offers the
delete again, and the answer of the first one no longer takes the key off the list.  In a run
without such a list (`Remembers`) every listed key whose delete is out shows it (`Inv.shown`),
and that is what keeps a deleted key off the list and a delete from going out twice.

The list that a load asks for after a delete was answered has not got its key, and a load from
before is no longer the latest: the reload after the delete overtakes it (`Inv.fresh`).
-/
import UrnetworkWindows.ApiKeys.Page
import UrnetworkWindows.Lib.Text

namespace UrnetworkWindows.ApiKeys

open Lib

/-! ### Answers that change nothing -/

lemma applyList_of_stale {p : Page} {l : ListRequest}
    (h : p.model.admits l.generation = false ∨ l.load ≠ p.model.lastLoad) (outcome : ListOutcome) :
    p.applyList l.generation l.load outcome = p := by
  rw [Page.applyList]
  split_ifs with hadmits
  · rfl
  · have hload : l.load ≠ p.model.lastLoad := h.resolve_left (by simpa using hadmits)
    rw [Model.applyLoad, if_pos hload]

lemma applyDelete_of_stale {w : World} {d : DeleteRequest}
    (h : w.model.admits d.generation = false) (ok throws : Bool) :
    w.applyDelete d ok throws = w := by
  rw [World.applyDelete, h]
  rfl

/-! ### The invariant -/

/-- What holds of the page, the requests that are out and the history, between any two
statements of a step. -/
structure Base (w : World) : Prop where
  /-- An entry of the delete table names a listed key. -/
  named : ∀ id, w.model.state.deletes id ≠ none → w.model.listed id = true
  shown : ∀ d ∈ w.deletes, w.model.listed d.id = true →
    w.model.state.deletes d.id = some .pending
  one : (w.deletes.map DeleteRequest.id).Nodup
  unlisted : ∀ id, (w.model.current, id) ∈ w.applied → w.model.listed id = false
  load_le : ∀ l ∈ w.lists, l.load ≤ w.model.lastLoad
  open_le : w.model.current ≤ w.model.lastOpen
  isOpen : w.page.isOpen = true ↔ w.model.current ≠ 0
  session : ∀ d ∈ w.deletes, d.generation ≠ 0 ∧ d.generation ≤ w.model.lastOpen ∧
    (d.generation = w.model.current → w.page.session = true)
  applied_le : ∀ a ∈ w.applied, a.1 ≤ w.model.lastOpen ∧ a.1 ≠ 0
  applied_gone : ∀ a ∈ w.applied, a.2 ∈ w.gone
  answered : ∀ d ∈ w.deletes, d.answer = some true → d.id ∈ w.gone

/-- And between two steps: the latest load asked for its list after each delete applied in this
open was answered. -/
structure Inv (w : World) : Prop extends Base w where
  fresh : ∀ l ∈ w.lists, l.load = w.model.lastLoad →
    ∀ id, (w.model.current, id) ∈ w.applied → id ∈ l.gone

/-- A list is applied that has a key whose delete is out, and its row does not show it. -/
def Forgets (w : World) : Act → Prop
  | .applyList i outcome => ∃ l ∈ w.lists[i]?, w.model.admits l.generation = true ∧
      l.load = w.model.lastLoad ∧ outcome.ok = true ∧ ∃ key ∈ outcome.keys, ∃ d ∈ w.deletes,
        d.id = key.id ∧ w.model.state.deletes key.id ≠ some .pending
  | _ => False

/-! ### A load -/

/-- What a load changes: it is the latest, and what it asked for has the deletes of now. -/
structure Loaded (w w' : World) : Prop where
  keys : w'.model.state.keys = w.model.state.keys
  table : w'.model.state.deletes = w.model.state.deletes
  current : w'.model.current = w.model.current
  lastOpen : w'.model.lastOpen = w.model.lastOpen
  lastLoad : w'.model.lastLoad = w.model.lastLoad + 1
  isOpen : w'.page.isOpen = w.page.isOpen
  session : w'.page.session = w.page.session
  deletes : w'.deletes = w.deletes
  gone : w'.gone = w.gone
  applied : w'.applied = w.applied
  lists : ∀ l ∈ w'.lists, l ∈ w.lists ∨ l.load = w'.model.lastLoad ∧ l.gone = w.gone

lemma load_cases (w : World) (throws : Bool) :
    (w.load throws = w ∧ (w.page.isOpen = false ∨ w.page.session = false)) ∨
      Loaded w (w.load throws) := by
  rw [World.load]
  split_ifs with hguard hthrows
  · refine .inl ⟨rfl, ?_⟩
    simpa using hguard
  · refine .inr ?_
    have happly : ∀ p : Page, ∀ generation load,
        (p.applyList generation load {}).model.state.keys = p.model.state.keys ∧
        (p.applyList generation load {}).model.state.deletes = p.model.state.deletes ∧
        (p.applyList generation load {}).model.current = p.model.current ∧
        (p.applyList generation load {}).model.lastOpen = p.model.lastOpen ∧
        (p.applyList generation load {}).model.lastLoad = p.model.lastLoad ∧
        (p.applyList generation load {}).isOpen = p.isOpen ∧
        (p.applyList generation load {}).session = p.session := by
      intro p generation load
      rw [Page.applyList, Model.applyLoad]
      split_ifs with _ _ hok
      · exact ⟨rfl, rfl, rfl, rfl, rfl, rfl, rfl⟩
      · exact ⟨rfl, rfl, rfl, rfl, rfl, rfl, rfl⟩
      · exact ⟨rfl, rfl, rfl, rfl, rfl, rfl, rfl⟩
      · exact absurd rfl hok
    obtain ⟨hkeys, htable, hcurrent, hlastOpen, hlastLoad, hisOpen, hsession⟩ :=
      happly (w.setModel w.model.beginLoad).page w.model.current
        (w.setModel w.model.beginLoad).model.lastLoad
    exact ⟨hkeys, htable, hcurrent, hlastOpen, hlastLoad, hisOpen, hsession, rfl, rfl, rfl,
      fun l hl => .inl hl⟩
  · refine .inr ⟨rfl, rfl, rfl, rfl, rfl, rfl, rfl, rfl, rfl, rfl, fun l hl => ?_⟩
    rcases List.mem_append.1 hl with hl | hl
    · exact .inl hl
    · obtain rfl := List.mem_singleton.1 hl
      exact .inr ⟨rfl, rfl⟩

lemma Loaded.listed {w w' : World} (h : Loaded w w') (id : Bytes) :
    w'.model.listed id = w.model.listed id := by
  rw [Model.listed, Model.listed, h.keys]

lemma Base.loaded {w w' : World} (hbase : Base w) (h : Loaded w w') : Inv w' where
  named id := by
    rw [h.table, h.listed]
    exact hbase.named id
  shown := by
    rw [h.deletes, h.table]
    intro d hd
    rw [h.listed]
    exact hbase.shown d hd
  one := h.deletes ▸ hbase.one
  unlisted id := by
    rw [h.current, h.applied, h.listed]
    exact hbase.unlisted id
  load_le l hl := by
    rcases h.lists l hl with hl | ⟨hload, -⟩
    · rw [h.lastLoad]
      exact (hbase.load_le l hl).trans (Nat.le_succ _)
    · exact hload.le
  open_le := by
    rw [h.current, h.lastOpen]
    exact hbase.open_le
  isOpen := by
    rw [h.isOpen, h.current]
    exact hbase.isOpen
  session := by
    rw [h.deletes, h.lastOpen, h.current, h.session]
    exact hbase.session
  applied_le := by
    rw [h.applied, h.lastOpen]
    exact hbase.applied_le
  applied_gone := by
    rw [h.applied, h.gone]
    exact hbase.applied_gone
  answered := by
    rw [h.deletes, h.gone]
    exact hbase.answered
  fresh l hl hload id hid := by
    rw [h.current, h.applied] at hid
    rcases h.lists l hl with hl | ⟨-, hgone⟩
    · have hle := hbase.load_le l hl
      rw [hload, h.lastLoad] at hle
      omega
    · exact hgone ▸ hbase.applied_gone _ hid

lemma Base.load {w : World} (h : Base w) (hopen : w.page.isOpen = true)
    (hsession : w.page.session = true) (throws : Bool) : Inv (w.load throws) := by
  rcases load_cases w throws with ⟨-, hclosed | hclosed⟩ | hloaded
  · rw [hopen] at hclosed
    cases hclosed
  · rw [hsession] at hclosed
    cases hclosed
  · exact h.loaded hloaded

lemma Inv.load {w : World} (h : Inv w) (throws : Bool) : Inv (w.load throws) := by
  rcases load_cases w throws with ⟨heq, -⟩ | hloaded
  · rwa [heq]
  · exact h.toBase.loaded hloaded

/-! ### The steps -/

lemma listed_iff {m : Model} {id : Bytes} :
    m.listed id = true ↔ ∃ key ∈ m.state.keys, key.id = id := by
  simp [Model.listed]

lemma admits_iff {m : Model} {generation : ℕ} :
    m.admits generation = true ↔ generation ≠ 0 ∧ generation = m.current := by
  simp [Model.admits]

lemma Inv.fresh_page {w : World} (h : Inv w) {current lastOpen : ℕ} {isOpen session : Bool}
    (hlast : w.model.lastOpen ≤ lastOpen) (hle : current ≤ lastOpen)
    (hnew : current = 0 ∨ w.model.lastOpen < current) (hisOpen : isOpen = true ↔ current ≠ 0) :
    Inv { w with page := {
      model := { state := {}, lastLoad := w.model.lastLoad + 1, lastOpen, current }
      isOpen, session } } := by
  have happlied : ∀ id, (current, id) ∉ w.applied := by
    intro id hid
    obtain ⟨hid, hne⟩ := h.applied_le _ hid
    dsimp only at hid hne
    omega
  refine ⟨⟨fun id hid => absurd rfl hid, fun d _ hd => absurd hd Bool.false_ne_true, h.one,
    fun id hid => absurd hid (happlied id), ?_, hle, hisOpen, ?_, ?_, h.applied_gone, h.answered⟩,
      ?_⟩
  · exact fun l hl => (h.load_le l hl).trans (Nat.le_succ _)
  · intro d hd
    obtain ⟨hne, hd, -⟩ := h.session d hd
    refine ⟨hne, hd.trans hlast, fun heq => ?_⟩
    have heq : d.generation = current := heq
    omega
  · exact fun a ha => ⟨(h.applied_le a ha).1.trans hlast, (h.applied_le a ha).2⟩
  · exact fun l _ _ id hid => absurd hid (happlied id)

lemma Inv.opens {w : World} (h : Inv w) (session throws : Bool) : Inv (w.opens session throws) :=
  (h.fresh_page (Nat.le_succ _) le_rfl (.inr (Nat.lt_succ_self _)) (by simp)).load throws

lemma Inv.close {w : World} (h : Inv w) : Inv w.close :=
  h.fresh_page le_rfl (Nat.zero_le _) (.inl rfl) (by simp)

lemma Inv.applyList {w : World} (h : Inv w) {i : ℕ} {l : ListRequest} {outcome : ListOutcome}
    (hl : w.lists[i]? = some l) (hreflects : l.reflects outcome = true)
    (hremembers : ¬ Forgets w (.applyList i outcome)) :
    Inv { w with
      lists := w.lists.eraseIdx i
      page := w.page.applyList l.generation l.load outcome } := by
  have hsub : ∀ l' ∈ w.lists.eraseIdx i, l' ∈ w.lists := fun l' hl' => List.mem_of_mem_eraseIdx hl'
  by_cases hstale : w.model.admits l.generation = false ∨ l.load ≠ w.model.lastLoad
  · rw [applyList_of_stale hstale]
    exact ⟨⟨h.named, h.shown, h.one, h.unlisted, fun l' hl' => h.load_le l' (hsub l' hl'),
      h.open_le, h.isOpen, h.session, h.applied_le, h.applied_gone, h.answered⟩,
      fun l' hl' => h.fresh l' (hsub l' hl')⟩
  · obtain ⟨hadmits, hload⟩ := not_or.1 hstale
    have hadmits : w.model.admits l.generation = true := by simpa using hadmits
    have hload : l.load = w.model.lastLoad := not_not.1 hload
    have hpage : w.page.applyList l.generation l.load outcome =
        { w.page with model := w.model.applyLoad l.load outcome } := by
      rw [Page.applyList, if_neg]
      · rfl
      · rw [show w.page.model.admits l.generation = true from hadmits]
        exact Bool.false_ne_true
    rw [hpage, Model.applyLoad, if_neg (not_not.2 hload)]
    split_ifs with hok
    · exact ⟨⟨h.named, h.shown, h.one, h.unlisted, fun l' hl' => h.load_le l' (hsub l' hl'),
        h.open_le, h.isOpen, h.session, h.applied_le, h.applied_gone, h.answered⟩,
        fun l' hl' => h.fresh l' (hsub l' hl')⟩
    · refine ⟨⟨?_, ?_, h.one, ?_, fun l' hl' => h.load_le l' (hsub l' hl'),
        h.open_le, h.isOpen, h.session, h.applied_le, h.applied_gone, h.answered⟩,
        fun l' hl' => h.fresh l' (hsub l' hl')⟩
      · intro id hid
        by_contra hlisted
        exact hid (if_neg hlisted)
      · intro d hd hlisted
        obtain ⟨key, hkey, hid⟩ := listed_iff.1 hlisted
        refine (if_pos hlisted).trans ?_
        by_contra hpending
        exact hremembers ⟨l, hl, hadmits, hload, by simpa using hok, key, hkey, d, hd, hid.symm,
          hid ▸ hpending⟩
      · intro id hid
        rw [← Bool.not_eq_true, listed_iff]
        rintro ⟨key, hkey, rfl⟩
        have hgone := h.fresh l (List.mem_of_getElem? hl) hload _ hid
        have hkept := List.all_eq_true.1 hreflects key hkey
        rw [List.contains_iff_mem.2 hgone] at hkept
        exact Bool.false_ne_true hkept

lemma beginDelete_eq_some {m m' : Model} {id : Bytes} (h : m.beginDelete id = some m') :
    m.listed id = true ∧ m.state.deletes id ≠ some .pending ∧
      m' = { m with state := { m.state with
        deletes := Function.update m.state.deletes id (some .pending) } } := by
  rw [Model.beginDelete] at h
  split_ifs at h with hlisted hpending
  exact ⟨by simpa using hlisted, hpending, (Option.some.inj h).symm⟩

lemma Inv.delete {w : World} (h : Inv w) (id : Bytes) (generation : ℕ) (throws : Bool) :
    Inv (w.delete id generation throws) := by
  rw [World.delete]
  by_cases hguard : (!w.page.isOpen || !w.page.session || !w.model.admits generation) = true
  · rwa [if_pos hguard]
  rw [if_neg hguard]
  simp only [Bool.or_eq_true, Bool.not_eq_true', not_or, Bool.not_eq_false, admits_iff] at hguard
  obtain ⟨⟨-, hsession⟩, hne, hcurrent⟩ := hguard
  cases hbegin : w.model.beginDelete id with
  | none => exact h
  | some m =>
    obtain ⟨hlisted, hpending, rfl⟩ := beginDelete_eq_some hbegin
    -- no delete of this key is out: its row would show it
    have hout : ∀ d ∈ w.deletes, d.id ≠ id := by
      rintro d hd rfl
      exact hpending (h.shown d hd hlisted)
    have hnamed : ∀ (state : DeleteState) (id' : Bytes),
        Function.update w.model.state.deletes id (some state) id' ≠ none →
          w.model.listed id' = true := by
      intro state id' hid'
      by_cases heq : id' = id
      · exact heq ▸ hlisted
      · rw [Function.update_of_ne heq] at hid'
        exact h.named id' hid'
    have hshown : ∀ (state : DeleteState), ∀ d ∈ w.deletes, w.model.listed d.id = true →
        Function.update w.model.state.deletes id (some state) d.id = some .pending := by
      intro state d hd hd'
      rw [Function.update_of_ne (hout d hd)]
      exact h.shown d hd hd'
    dsimp only
    split_ifs
    · rw [Model.applyDelete, if_neg (by simp), if_pos Bool.not_false, Function.update_idem]
      exact ⟨⟨hnamed .failed, hshown .failed, h.one, h.unlisted, h.load_le, h.open_le, h.isOpen,
        h.session, h.applied_le, h.applied_gone, h.answered⟩, h.fresh⟩
    · refine ⟨⟨hnamed .pending, ?_, ?_, h.unlisted, h.load_le, h.open_le, h.isOpen, ?_,
        h.applied_le, h.applied_gone, ?_⟩, h.fresh⟩
      · intro d hd hd'
        rcases List.mem_append.1 hd with hd | hd
        · exact hshown .pending d hd hd'
        · obtain rfl := List.mem_singleton.1 hd
          exact Function.update_self ..
      · rw [List.map_append, List.nodup_append]
        refine ⟨h.one, List.nodup_singleton _, ?_⟩
        rintro a ha b hb rfl
        obtain ⟨d, hd, rfl⟩ := List.mem_map.1 ha
        exact hout d hd (List.mem_singleton.1 hb)
      · intro d hd
        rcases List.mem_append.1 hd with hd | hd
        · exact h.session d hd
        · obtain rfl := List.mem_singleton.1 hd
          exact ⟨hne, hcurrent ▸ h.open_le, fun _ => hsession⟩
      · intro d hd hanswer
        rcases List.mem_append.1 hd with hd | hd
        · exact h.answered d hd hanswer
        · obtain rfl := List.mem_singleton.1 hd
          cases hanswer

lemma Inv.answerDelete {w : World} (h : Inv w) {i : ℕ} {d : DeleteRequest} {ok : Bool}
    (hd : w.deletes[i]? = some d) :
    Inv { w with
      deletes := w.deletes.set i { d with answer := some ok }
      gone := if ok then d.id :: w.gone else w.gone } := by
  have hmem : d ∈ w.deletes := List.mem_of_getElem? hd
  have hids : (w.deletes.set i { d with answer := some ok }).map DeleteRequest.id =
      w.deletes.map DeleteRequest.id := map_set_of_eq hd rfl
  have hgone : ∀ id ∈ w.gone, id ∈ if ok then d.id :: w.gone else w.gone := by
    intro id hid
    split_ifs
    · exact List.mem_cons_of_mem _ hid
    · exact hid
  refine ⟨⟨h.named, ?_, hids ▸ h.one, h.unlisted, h.load_le, h.open_le, h.isOpen, ?_, h.applied_le,
    fun a ha => hgone _ (h.applied_gone a ha), ?_⟩, h.fresh⟩
  · intro d' hd'
    rcases List.mem_or_eq_of_mem_set hd' with hd' | rfl
    · exact h.shown d' hd'
    · exact h.shown d hmem
  · intro d' hd'
    rcases List.mem_or_eq_of_mem_set hd' with hd' | rfl
    · exact h.session d' hd'
    · exact h.session d hmem
  · intro d' hd' hanswer
    rcases List.mem_or_eq_of_mem_set hd' with hd' | rfl
    · exact hgone _ (h.answered d' hd' hanswer)
    · cases hanswer
      exact List.mem_cons_self ..

/-- What the answer to a delete does to the model. -/
structure Taken (m m' : Model) (id : Bytes) (ok : Bool) : Prop where
  current : m'.current = m.current
  lastOpen : m'.lastOpen = m.lastOpen
  lastLoad : m'.lastLoad = m.lastLoad
  other_table : ∀ id' ≠ id, m'.state.deletes id' = m.state.deletes id'
  other_listed : ∀ id' ≠ id, m'.listed id' = m.listed id'
  failed : ok = false → m'.listed id = m.listed id
  deleted : ok = true → m.state.deletes id = some .pending → m'.listed id = false
  entry : m'.state.deletes id ≠ none → m.state.deletes id ≠ none ∧ m'.listed id = m.listed id
  kept : m.listed id = false → m'.listed id = false

lemma taken_applyDelete (m : Model) (id : Bytes) (ok : Bool) :
    Taken m (m.applyDelete id ok) id ok := by
  rw [Model.applyDelete]
  split_ifs with hpending hok
  · exact ⟨rfl, rfl, rfl, fun _ _ => rfl, fun _ _ => rfl, fun _ => rfl,
      fun _ h => absurd h hpending, fun h => ⟨h, rfl⟩, fun h => h⟩
  · obtain rfl : ok = false := by simpa using hok
    have hpending : m.state.deletes id = some .pending := not_not.1 hpending
    exact ⟨rfl, rfl, rfl, fun id' hid => Function.update_of_ne hid .., fun _ _ => rfl, fun _ => rfl,
      nofun, fun _ => ⟨by simp [hpending], rfl⟩, fun h => h⟩
  · obtain rfl : ok = true := by simpa using hok
    have hgone : (m.state.keys.filter (·.id ≠ id)).any (·.id = id) = false := by simp
    refine ⟨rfl, rfl, rfl, fun id' hid => Function.update_of_ne hid .., ?_, nofun,
      fun _ _ => hgone, fun h => absurd (Function.update_self ..) h, fun _ => hgone⟩
    intro id' hid
    rw [Bool.eq_iff_iff, listed_iff, listed_iff]
    constructor
    · rintro ⟨key, hkey, rfl⟩
      exact ⟨key, (List.mem_filter.1 hkey).1, rfl⟩
    · rintro ⟨key, hkey, rfl⟩
      exact ⟨key, List.mem_filter.2 ⟨hkey, by simpa using hid⟩, rfl⟩

lemma Inv.taken {w : World} (h : Inv w) {i : ℕ} {d : DeleteRequest} {ok : Bool} {m : Model}
    (hd : w.deletes[i]? = some d) (hok : d.answer = some ok) (hne : d.generation ≠ 0)
    (hcurrent : d.generation = w.model.current) (hm : Taken w.model m d.id ok)
    {applied : List (ℕ × Bytes)}
    (happlied : ∀ a ∈ applied, (ok = true ∧ a = (w.model.current, d.id)) ∨ a ∈ w.applied) :
    Base { w with
      page := { w.page with model := m }
      deletes := w.deletes.eraseIdx i
      applied } := by
  have hmem : d ∈ w.deletes := List.mem_of_getElem? hd
  have hsub : ∀ d' ∈ w.deletes.eraseIdx i, d' ∈ w.deletes := fun d' => List.mem_of_mem_eraseIdx
  have hother : ∀ d' ∈ w.deletes.eraseIdx i, d'.id ≠ d.id := fun d' hd' =>
    map_ne_of_mem_eraseIdx h.one hd hd'
  constructor
  · intro id hid
    by_cases heq : id = d.id
    · subst heq
      obtain ⟨hentry, hlisted⟩ := hm.entry hid
      exact hlisted.trans (h.named d.id hentry)
    · exact (hm.other_listed id heq).trans (h.named id ((hm.other_table id heq).symm.trans_ne hid))
  · intro d' hd' hlisted
    have hlisted := (hm.other_listed _ (hother d' hd')).symm.trans hlisted
    exact (hm.other_table _ (hother d' hd')).trans (h.shown d' (hsub d' hd') hlisted)
  · exact h.one.sublist ((List.eraseIdx_sublist ..).map _)
  · intro id hid
    have hid : (m.current, id) ∈ applied := hid
    rw [hm.current] at hid
    rcases happlied _ hid with ⟨hsuccess, heq⟩ | hid
    · obtain rfl : id = d.id := congrArg Prod.snd heq
      -- a listed key whose delete is out shows it, and so it is taken off
      cases hlisted : w.model.listed d.id with
      | false => exact hm.kept hlisted
      | true => exact hm.deleted hsuccess (h.shown d hmem hlisted)
    · by_cases heq : id = d.id
      · exact heq ▸ hm.kept (heq ▸ h.unlisted id hid)
      · exact (hm.other_listed id heq).trans (h.unlisted id hid)
  · exact fun l hl => (h.load_le l hl).trans hm.lastLoad.ge
  · exact (hm.current.le.trans h.open_le).trans hm.lastOpen.ge
  · exact h.isOpen.trans (iff_of_eq (congrArg (· ≠ 0) hm.current.symm))
  · intro d' hd'
    obtain ⟨hne, hle, hsession⟩ := h.session d' (hsub d' hd')
    exact ⟨hne, hle.trans hm.lastOpen.ge, fun heq => hsession (heq.trans hm.current)⟩
  · intro a ha
    have hle : a.1 ≤ w.model.lastOpen ∧ a.1 ≠ 0 := by
      rcases happlied a ha with ⟨-, rfl⟩ | ha
      · exact ⟨h.open_le, hcurrent ▸ hne⟩
      · exact h.applied_le a ha
    exact ⟨hle.1.trans hm.lastOpen.ge, hle.2⟩
  · intro a ha
    rcases happlied a ha with ⟨rfl, rfl⟩ | ha
    · exact h.answered d hmem hok
    · exact h.applied_gone a ha
  · exact fun d' hd' => h.answered d' (hsub d' hd')

lemma Inv.applyDelete {w : World} (h : Inv w) {i : ℕ} {d : DeleteRequest} {ok throws : Bool}
    (hd : w.deletes[i]? = some d) (hok : d.answer = some ok) :
    Inv (World.applyDelete { w with deletes := w.deletes.eraseIdx i } d ok throws) := by
  have hmem : d ∈ w.deletes := List.mem_of_getElem? hd
  have hsub : ∀ d' ∈ w.deletes.eraseIdx i, d' ∈ w.deletes := fun d' => List.mem_of_mem_eraseIdx
  rw [World.applyDelete]
  split_ifs with hstale hsuccess
  · exact ⟨⟨h.named, fun d' hd' => h.shown d' (hsub d' hd'),
      h.one.sublist ((List.eraseIdx_sublist ..).map _), h.unlisted, h.load_le, h.open_le,
      h.isOpen, fun d' hd' => h.session d' (hsub d' hd'), h.applied_le, h.applied_gone,
      fun d' hd' => h.answered d' (hsub d' hd')⟩, h.fresh⟩
  all_goals
    obtain ⟨hne, hcurrent⟩ := admits_iff.1 (by simpa using hstale)
  · obtain rfl : ok = true := hsuccess
    have hm := taken_applyDelete w.model d.id true
    have hbase := h.taken hd hok hne hcurrent hm
      fun a (ha : a ∈ ((w.model.applyDelete d.id true).current, d.id) :: w.applied) =>
        (List.mem_cons.1 ha).imp_left fun heq => ⟨rfl, hm.current ▸ heq⟩
    -- the reload goes out, so that no list asked for before is applied any more
    exact hbase.load (h.isOpen.2 (hcurrent ▸ hne)) ((h.session d hmem).2.2 hcurrent) throws
  · obtain rfl : ok = false := by simpa using hsuccess
    have hm := taken_applyDelete w.model d.id false
    refine ⟨h.taken hd hok hne hcurrent hm fun a ha => .inr ha, ?_⟩
    intro l hl hload id hid
    exact h.fresh l hl (hload.trans hm.lastLoad) id (hm.current ▸ hid)

lemma Inv.next {w w' : World} {a : Act} (h : Inv w) (hstep : next w a = some w')
    (hremembers : ¬ Forgets w a) : Inv w' := by
  cases a with
  | opens session throws =>
    cases hstep
    exact h.opens session throws
  | close =>
    cases hstep
    exact h.close
  | refresh throws =>
    cases hstep
    exact h.load throws
  | created generation throws =>
    cases hstep
    rw [World.created]
    split_ifs
    · exact h
    · exact h.load throws
  | applyList i outcome =>
    obtain ⟨l, hl, hstep⟩ := Option.bind_eq_some_iff.1 hstep
    obtain ⟨⟨⟩, hreflects, hstep⟩ := Option.bind_eq_some_iff.1 hstep
    cases hstep
    exact h.applyList hl (by simpa using hreflects) hremembers
  | delete id generation throws =>
    cases hstep
    exact h.delete id generation throws
  | answerDelete i ok =>
    obtain ⟨d, hd, hstep⟩ := Option.bind_eq_some_iff.1 hstep
    obtain ⟨-, -, hstep⟩ := Option.bind_eq_some_iff.1 hstep
    cases hstep
    exact h.answerDelete hd
  | applyDelete i throws =>
    obtain ⟨d, hd, hstep⟩ := Option.bind_eq_some_iff.1 hstep
    obtain ⟨ok, hok, hstep⟩ := Option.bind_eq_some_iff.1 hstep
    cases hstep
    exact h.applyDelete hd hok

/-! ### The runs -/

/-- No list that is applied has a key whose delete is out and whose row does not show it. -/
def Remembers (w : World) (a : Act) : Prop := ¬ Forgets w a

instance (w : World) (a : Act) : Decidable (Remembers w a) :=
  match a with
  | .applyList i _ => inferInstanceAs (Decidable (¬ ∃ l ∈ w.lists[i]?, _ ∧ _ ∧ _ ∧ ∃ key ∈ _, _))
  | .opens .. | .close | .refresh _ | .created .. | .delete .. | .answerDelete ..
      | .applyDelete .. =>
    inferInstanceAs (Decidable ¬ False)

lemma inv_init : Inv {} :=
  ⟨⟨fun _ h => absurd rfl h, nofun, List.nodup_nil, nofun, nofun, le_rfl, by decide, nofun, nofun,
    nofun, nofun⟩, nofun⟩

lemma inv_of_runs {es : List (Transition World Act)} {w : World} (h : Runs Remembers es w) :
    Inv w := by
  refine h.invariant (P := fun _ w => Inv w) ?_ ?_
  · rintro _ rfl
    exact inv_init
  · rintro _ _ _ _ hinv ⟨hstep, hremembers⟩
    exact hinv.next hstep hremembers

/-- What the page promises of deletes. -/
structure StaysDeleted (w : World) : Prop where
  /-- No key is listed whose delete was applied with a success in this open. -/
  unlisted : ∀ id, (w.page.model.current, id) ∈ w.applied → w.page.model.listed id = false
  /-- An answer to a list of another open or of an overtaken load changes nothing. -/
  staleList : ∀ (i : ℕ) (l : ListRequest) (outcome : ListOutcome) (w' : World),
    w.lists[i]? = some l →
      (w.page.model.admits l.generation = false ∨ l.load ≠ w.page.model.lastLoad) →
        next w (.applyList i outcome) = some w' → w' = { w with lists := w.lists.eraseIdx i }
  /-- Nor does an answer to a delete of another open. -/
  staleDelete : ∀ (i : ℕ) (d : DeleteRequest) (throws : Bool) (w' : World),
    w.deletes[i]? = some d → w.page.model.admits d.generation = false →
      next w (.applyDelete i throws) = some w' → w' = { w with deletes := w.deletes.eraseIdx i }
  /-- At most one delete of a key is out. -/
  one : (w.deletes.map DeleteRequest.id).Nodup
  /-- An entry of the delete table names a listed key. -/
  named : ∀ id, w.page.model.state.deletes id ≠ none → w.page.model.listed id = true

/-- A deleted key stays deleted, in every run in which no list that is applied brings back a key
whose delete is out without its row showing it. -/
theorem stays_deleted {es : List (Transition World Act)} {w : World} (h : Runs Remembers es w) :
    StaysDeleted w where
  unlisted := (inv_of_runs h).unlisted
  staleList i l outcome w' hl hstale hstep := by
    obtain ⟨l', hl', hstep⟩ := Option.bind_eq_some_iff.1 hstep
    cases hl.symm.trans hl'
    obtain ⟨-, -, hstep⟩ := Option.bind_eq_some_iff.1 hstep
    cases hstep
    rw [applyList_of_stale hstale]
  staleDelete i d throws w' hd hstale hstep := by
    obtain ⟨d', hd', hstep⟩ := Option.bind_eq_some_iff.1 hstep
    cases hd.symm.trans hd'
    obtain ⟨ok, -, hstep⟩ := Option.bind_eq_some_iff.1 hstep
    cases hstep
    exact applyDelete_of_stale (w := { w with deletes := w.deletes.eraseIdx i }) hstale ok throws
  one := (inv_of_runs h).one
  named := (inv_of_runs h).named

/-! ### Samples -/

def sampleKey : Key := { id := narrow "k", name := narrow "home server" }

/-- The page opens with a session, and its list has the key, whose delete then goes out. -/
def deleteSent : List Act :=
  [.opens true false, .applyList 0 { ok := true, keys := [sampleKey] },
    .delete sampleKey.id 1 false]

/-- The server answers the delete, the answer is applied, and the reload confirms it. -/
theorem stays_deleted_confirmed : ∃ es w, Runs Remembers es w ∧ StaysDeleted w ∧
    (1, sampleKey.id) ∈ w.applied ∧ w.page.model.state.loaded = true := by
  obtain ⟨es, w, hrun, hgood⟩ := @Run.exists_of_cond _ _ next Remembers _ {}
    (deleteSent ++ [.refresh false, .answerDelete 0 true, .applyDelete 0 false,
      .applyList 1 { ok := true }])
    (fun w => decide ((1, sampleKey.id) ∈ w.applied ∧ w.page.model.state.loaded = true))
    (by decide +kernel)
  exact ⟨es, w, hrun, stays_deleted hrun, of_decide_eq_true hgood⟩

/-- A list leaves out the key whose delete is out and the next brings it back: the delete's
success leaves the key on the list.  And a page that is opened again while the delete is out sends
it a second time. -/
theorem stays_deleted_fails :
    (∃ es w, Runs (fun _ _ => True) es w ∧ (w.page.model.current, sampleKey.id) ∈ w.applied ∧
      w.page.model.listed sampleKey.id = true) ∧
    ∃ es w, Runs (fun _ _ => True) es w ∧ ¬ (w.deletes.map DeleteRequest.id).Nodup := by
  constructor
  · obtain ⟨es, w, hrun, hgood⟩ := @Run.exists_of_cond _ _ next (fun _ _ => True) _ {}
      (deleteSent ++ [.refresh false, .applyList 0 { ok := true },
        .refresh false, .applyList 0 { ok := true, keys := [sampleKey] },
        .answerDelete 0 true, .applyDelete 0 false])
      (fun w => decide ((w.page.model.current, sampleKey.id) ∈ w.applied ∧
        w.page.model.listed sampleKey.id = true))
      (by decide +kernel)
    exact ⟨es, w, hrun, of_decide_eq_true hgood⟩
  · obtain ⟨es, w, hrun, hgood⟩ := @Run.exists_of_cond _ _ next (fun _ _ => True) _ {}
      (deleteSent ++ [.close, .opens true false,
        .applyList 0 { ok := true, keys := [sampleKey] }, .delete sampleKey.id 2 false])
      (fun w => decide (¬ (w.deletes.map DeleteRequest.id).Nodup)) (by decide +kernel)
    exact ⟨es, w, hrun, of_decide_eq_true hgood⟩

end UrnetworkWindows.ApiKeys
