/-
Paging neither spins nor stalls where its steps are steady.

Between two steps the board is `Calm`: it has no expired cursor unless a reload is out, and
where two next pages in a row have not helped a seek, a request is out.  A next page is asked
for only while none is out, so that it is asked for neither with an expired cursor nor then.
Within the step of an answer there is less to hold on to (`Settling`), until the seek was gone
on with or given up.
-/
import UrnetworkWindows.Board.Paging

namespace UrnetworkWindows.Board.Paging

open Lib

variable {δ : Type*} {b b' b'' : ProtocolBoard δ} {host : Host}

/-! ### What an operation may do -/

/-- An operation asks for next pages only with a cursor that is not known to have expired, and not
in a seek that two in a row have not helped. -/
structure Goes (b b' : ProtocolBoard δ) : Prop where
  dead : b'.dead = b.dead
  idle : b'.idle = b.idle
  target : 0 < b'.state.seekTarget → 0 < b.state.seekTarget
  asked : ∃ more, b'.asked = b.asked ++ more ∧ ∀ request ∈ more, request.first = false →
    request.cursor ∉ b.dead ∧ (0 < b'.state.seekTarget → b.idle < 2)

namespace Goes

lemma quiet (hdead : b'.dead = b.dead) (hidle : b'.idle = b.idle) (hasked : b'.asked = b.asked)
    (htarget : 0 < b'.state.seekTarget → 0 < b.state.seekTarget) : Goes b b' :=
  ⟨hdead, hidle, htarget, [], hasked.trans (List.append_nil _).symm, nofun⟩

lemma refl (b : ProtocolBoard δ) : Goes b b := quiet rfl rfl rfl id

lemma trans (h : Goes b b') (h' : Goes b' b'') : Goes b b'' := by
  obtain ⟨more, hmore, hgood⟩ := h.asked
  obtain ⟨more', hmore', hgood'⟩ := h'.asked
  refine ⟨h'.dead.trans h.dead, h'.idle.trans h.idle, fun ht => h.target (h'.target ht),
    more ++ more', by rw [hmore', hmore, List.append_assoc], fun request hrequest hnext => ?_⟩
  rcases List.mem_append.1 hrequest with hmem | hmem
  · exact ⟨(hgood request hmem hnext).1, fun ht => (hgood request hmem hnext).2 (h'.target ht)⟩
  · rw [← h.dead, ← h.idle]
    exact hgood' request hmem hnext

lemma of_asked (h : Goes b' b'') (hasked : b'.asked = b.asked) :
    ∃ c, c.asked = b.asked ∧ Goes c b'' :=
  ⟨b', hasked, h⟩

end Goes

/-- What holds between two steps. -/
structure Calm (b : ProtocolBoard δ) : Prop where
  inv : Inv b.list
  cursor : b.state.next ∈ b.dead → b.state.listLoading = true
  loaded : b.state.next ≠ "" → b.state.listLoaded = true
  idle : 0 < b.state.seekTarget → 2 ≤ b.idle →
    b.state.listLoading = true ∨ b.state.pageLoading = true

/-- What holds once an answer was applied. -/
structure Settling (b : ProtocolBoard δ) : Prop where
  inv : Inv b.list
  cursor : b.state.next ∈ b.dead → b.state.listLoading = true
  loaded : b.state.next ≠ "" → b.state.listLoaded = true
  idle : 0 < b.state.seekTarget → 2 ≤ b.idle →
    b.state.listLoading = true ∨ b.state.pageLoading = true ∨ b.state.next = "" ∨
      b.state.seekTarget ≤ lastPosition b.state.rows

lemma Calm.settling (h : Calm b) : Settling b :=
  ⟨h.inv, h.cursor, h.loaded, fun ht hi => (h.idle ht hi).imp id .inl⟩

lemma Calm.congr (h : Calm b) (hlist : b'.list = b.list) (hdead : b'.dead = b.dead)
    (hidle : b'.idle = b.idle) : Calm b' := by
  have hstate : b'.state = b.state := by rw [ProtocolBoard.state, hlist]
  constructor
  · exact hlist ▸ h.inv
  · rw [hstate, hdead]
    exact h.cursor
  · rw [hstate]
    exact h.loaded
  · rw [hstate, hidle]
    exact h.idle

/-! ### Asking -/

lemma goes_reload (b : ProtocolBoard δ) (host : Host) : Goes b (b.reload host) := by
  rw [ProtocolBoard.reload]
  split_ifs
  · refine ⟨rfl, rfl, id, [b.list.model.beginReload.1], rfl, fun request hmem hnext => ?_⟩
    obtain rfl := List.mem_singleton.1 hmem
    cases hnext
  · exact .refl b

lemma calm_of_reload (hinv : Inv b.list) (hloaded : b.state.next ≠ "" → b.state.listLoaded = true)
    (hcan : host.canLoadList = true) : Calm (b.reload host) := by
  rw [ProtocolBoard.reload, if_pos hcan]
  exact ⟨hinv.beginReload, fun _ => rfl, hloaded, fun _ _ => .inl rfl⟩

lemma Calm.reload (h : Calm b) : Calm (b.reload host) := by
  cases hcan : host.canLoadList with
  | true => exact calm_of_reload h.inv h.loaded hcan
  | false => rwa [ProtocolBoard.reload, hcan, if_neg Bool.false_ne_true]

lemma loadNextPage_cases (b : ProtocolBoard δ) (host : Host) (limit : ℤ) :
    b.loadNextPage host limit = b ∨ ∃ request : PageRequest,
      (b.state.listLoading = false ∧ b.state.pageLoading = false) ∧
      request.first = false ∧ request.cursor = b.state.next ∧
      (b.loadNextPage host limit).list = b.list.beginNextPage limit ∧
      (b.loadNextPage host limit).state =
        { b.state with pageLoading := true, pageFailed := false } ∧
      (b.loadNextPage host limit).asked = b.asked ++ [request] ∧
      (b.loadNextPage host limit).dead = b.dead ∧ (b.loadNextPage host limit).idle = b.idle := by
  rw [ProtocolBoard.loadNextPage]
  split_ifs
  · split
    · exact .inl rfl
    · next request model hsome =>
      obtain ⟨⟨-, hlist, hpage, -⟩, hfirst, hcursor, -, rfl⟩ := beginNextPage_eq_some hsome
      refine .inr ⟨request, ⟨hlist, hpage⟩, hfirst, hcursor, rfl, ?_, rfl, rfl, rfl⟩
      change (b.list.beginNextPage limit).model.state = _
      rw [Tracked.beginNextPage, hsome]
  · exact .inl rfl

lemma goes_loadNextPage (h : Calm b) (limit : ℤ) : Goes b (b.loadNextPage host limit) := by
  rcases loadNextPage_cases b host limit with hsame |
    ⟨request, ⟨hlist, hpage⟩, -, hcursor, -, hstate, hasked, hdead, hidle⟩
  · exact hsame.symm ▸ .refl b
  · have htarget : (b.loadNextPage host limit).state.seekTarget = b.state.seekTarget := by
      rw [hstate]
    refine ⟨hdead, hidle, htarget ▸ id, [request], hasked, fun request' hmem _ => ?_⟩
    obtain rfl := List.mem_singleton.1 hmem
    constructor
    · rw [hcursor]
      exact fun hmem => absurd (hlist.symm.trans (h.cursor hmem)) nofun
    · intro ht
      by_contra hidle
      rcases h.idle (htarget ▸ ht) (Nat.le_of_not_lt hidle) with hout | hout
      · exact absurd (hlist.symm.trans hout) nofun
      · exact absurd (hpage.symm.trans hout) nofun

lemma Calm.loadNextPage (h : Calm b) (limit : ℤ) : Calm (b.loadNextPage host limit) := by
  rcases loadNextPage_cases b host limit with hsame |
    ⟨request, -, -, -, hlist, hstate, -, hdead, hidle⟩
  · rwa [hsame]
  · refine ⟨?_, ?_, ?_, fun _ _ => .inr ?_⟩
    · rw [hlist]
      exact h.inv.beginNextPage limit
    · rw [hstate, hdead]
      exact h.cursor
    · rw [hstate]
      exact h.loaded
    · rw [hstate]

/-! ### Going on with a seek -/

lemma Settling.calm (h : Settling b) (hwants : b.list.model.wantsSeekPage = true) : Calm b := by
  simp only [Model.wantsSeekPage, Bool.and_eq_true, Bool.or_eq_true, decide_eq_true_eq] at hwants
  obtain ⟨⟨⟨⟨htarget, hnext⟩, -⟩, -⟩, hshort⟩ := hwants
  refine ⟨h.inv, h.cursor, h.loaded, fun _ hi => ?_⟩
  have hlast : lastPosition b.state.rows < b.state.seekTarget := by
    rcases hshort with hempty | hlt
    · change lastPosition b.list.model.state.rows < _
      rw [hempty]
      exact htarget
    · exact hlt
  rcases h.idle htarget hi with hout | hout | hend | hreached
  · exact .inl hout
  · exact .inr hout
  · exact absurd hend (by simpa using hnext)
  · omega

lemma takeLandedSeek_cases (m : Model δ) :
    (m.takeLandedSeek.2 = m ∧ (0 < m.state.seekTarget →
      m.state.next ≠ "" ∧ m.state.pageFailed = false ∧ m.reached = false)) ∨
    m.takeLandedSeek.2 = { m with state := { m.state with seekTarget := 0 } } := by
  rw [Model.takeLandedSeek]
  by_cases htarget : m.state.seekTarget ≤ 0
  · rw [if_pos htarget]
    exact .inl ⟨rfl, fun h => absurd htarget (not_le.2 h)⟩
  rw [if_neg htarget]
  by_cases hstays : (!m.reached && m.state.next ≠ "" && !m.state.pageFailed) = true
  · rw [if_pos hstays]
    simp only [Bool.and_eq_true, Bool.not_eq_true', decide_eq_true_eq] at hstays
    exact .inl ⟨rfl, fun _ => ⟨hstays.1.2, hstays.2, hstays.1.1⟩⟩
  · rw [if_neg hstays]
    exact .inr rfl

lemma Settling.take (h : Settling b) :
    Calm { b with list := { b.list with model := b.list.model.takeLandedSeek.2 } } := by
  have hinv := h.inv.takeLandedSeek
  rcases takeLandedSeek_cases b.list.model with ⟨hsame, hstays⟩ | hgone
  · rw [hsame] at hinv ⊢
    refine ⟨hinv, h.cursor, h.loaded, fun ht hi => ?_⟩
    obtain ⟨hnext, -, hreached⟩ := hstays ht
    rcases h.idle ht hi with hout | hout | hend | hlast
    · exact .inl hout
    · exact .inr hout
    · exact absurd hend hnext
    · -- a position past none is past the last row of some
      have hrows : b.list.model.state.rows ≠ [] := fun hempty => by
        have hzero : lastPosition b.list.model.state.rows = 0 := by rw [hempty]; rfl
        exact absurd (hzero ▸ hlast) (not_le.2 ht)
      simp [Model.reached, hrows, hlast] at hreached
  · rw [hgone] at hinv ⊢
    exact ⟨hinv, h.cursor, h.loaded, fun ht => absurd ht (lt_irrefl 0)⟩

lemma Settling.continueSeek (h : Settling b) (host : Host) :
    Calm (b.continueSeek host) ∧ Goes b (b.continueSeek host) := by
  rw [ProtocolBoard.continueSeek]
  split_ifs with hwants
  · exact ⟨(h.calm hwants).loadNextPage _, goes_loadNextPage (h.calm hwants) _⟩
  · refine ⟨h.take, .quiet rfl rfl rfl fun ht => ?_⟩
    rcases takeLandedSeek_cases b.list.model with ⟨hsame, -⟩ | hgone
    · rwa [ProtocolBoard.state, hsame] at ht
    · rw [ProtocolBoard.state, hgone] at ht
      exact absurd ht (lt_irrefl 0)

/-! ### Answers -/

section Answers

variable {sent : Sent} {outcome : TopOutcome δ} {nowMillis : ℤ}

lemma length_applyPage {w : Tracked δ} (sent : Sent) (outcome : TopOutcome δ) (nowMillis : ℤ)
    (hrows : Listed w.model.state.rows) (hlisted : Listed outcome.rows)
    (hfirst : sent.request.first = false) :
    (w.applyPage sent outcome nowMillis).2.model.state.rows.length = w.model.state.rows.length ↔
      w.model.admits sent.generation = false ∨ brings w.model sent.request outcome = false := by
  rw [Tracked.applyPage]
  by_cases hadmits : w.model.admits sent.generation = true
  · rw [if_pos hadmits]
    have hstep := applyPage_step w.model sent.request outcome nowMillis
    generalize w.model.applyPage sent.request outcome nowMillis = r at hstep
    obtain ⟨told, model⟩ := r
    cases hstep with
    | dropped hload => simp [brings, Model.takes, hload]
    | first hload hfirst' => exact absurd (hfirst.symm.trans hfirst') Bool.false_ne_true
    | expired hload hfirst hok hexpired | failed hload hfirst hok hexpired =>
      simp [brings, Model.takes, hok]
    | other hload hfirst hok hother => simp [brings, Model.takes, hfirst, hother]
    | took hload hfirst hok hother =>
      change (w.model.extend outcome).rows.length = _ ↔ _
      rw [(rows_extend hrows hlisted).2, List.length_append]
      simp [brings, Model.takes, hload, hfirst, hok, hother, hadmits]
  · rw [if_neg hadmits]
    simp [hadmits]

lemma noted_idle (hrows : Listed b.state.rows) (hlisted : Listed outcome.rows) :
    (b.noted sent outcome nowMillis).idle = b.idleAfter sent outcome := by
  change (if b.ofNextPage sent = true then _ else _) = _
  rw [ProtocolBoard.idleAfter]
  by_cases hnext : b.ofNextPage sent = true
  · rw [if_pos hnext, if_pos hnext]
    simp only [ProtocolBoard.ofNextPage, Bool.and_eq_true, Bool.not_eq_true'] at hnext
    have hlength := length_applyPage sent outcome nowMillis hrows hlisted hnext.2
    rw [hnext.1] at hlength
    by_cases hbrings : brings b.list.model sent.request outcome = true
    · rw [if_pos hbrings, if_neg fun heq => by simpa [hbrings] using hlength.1 heq]
    · rw [if_neg hbrings, if_pos (hlength.2 (.inr (Bool.eq_false_iff.2 hbrings)))]
  · rw [if_neg hnext, if_neg hnext]

lemma noted_dead_of_ok (hok : outcome.ok = true) :
    (b.noted sent outcome nowMillis).dead = b.dead := by
  simp [ProtocolBoard.noted, hok]

lemma noted_dead_of_live (hexpired : isSnapshotExpired outcome.error = false) :
    (b.noted sent outcome nowMillis).dead = b.dead := by
  simp [ProtocolBoard.noted, hexpired]

lemma noted_dead_of_first (hfirst : sent.request.first = true) :
    (b.noted sent outcome nowMillis).dead = b.dead := by
  simp [ProtocolBoard.noted, ProtocolBoard.ofNextPage, hfirst]

lemma mem_noted_dead {cursor : String}
    (h : cursor ∈ (b.noted sent outcome nowMillis).dead) :
    cursor ∈ b.dead ∨ (sent.request.first = false ∧ outcome.ok = false ∧
      isSnapshotExpired outcome.error = true ∧ cursor = sent.request.cursor) := by
  change cursor ∈ (if _ then _ else _) at h
  split_ifs at h with hsaid
  · simp only [ProtocolBoard.ofNextPage, Bool.and_eq_true, Bool.not_eq_true'] at hsaid
    rcases List.mem_cons.1 h with rfl | h
    · exact .inr ⟨hsaid.1.1.2, hsaid.1.2, hsaid.2, rfl⟩
    · exact .inl h
  · exact .inl h

lemma helps_congr {pages : List Sent} (h : b.Helps host sent outcome) :
    ({ b with list := { b.list with pages } } : ProtocolBoard δ).Helps host sent outcome :=
  ⟨h.renews, h.fresh, h.reloads, h.late, h.overtaken, h.restart, h.ends⟩

section Applied

variable {c : ProtocolBoard δ} (hinv : Inv c.list) (hidle : c.idle = b.idleAfter sent outcome)
  (hhelps : b.Helps host sent outcome)
include hinv

lemma calm_of_restart (host : Host) (hloaded : c.state.next ≠ "" → c.state.listLoaded = true)
    (hcalm : host.canLoadList = false → Calm c) :
    Calm ((c.reload host).continueSeek host) ∧ Goes c ((c.reload host).continueSeek host) := by
  have hreload : Calm (c.reload host) := by
    cases hcan : host.canLoadList with
    | true => exact calm_of_reload hinv hloaded hcan
    | false => exact (hcalm hcan).reload
  obtain ⟨hcalm', hgoes⟩ := hreload.settling.continueSeek host
  exact ⟨hcalm', (goes_reload c host).trans hgoes⟩

include hhelps

include hidle in
/-- A first page: the list has a cursor that is not known to have expired, or keeps the one that
it had. -/
lemma settling_first (h : Calm b) (hstate : c.state = b.list.model.firstPage outcome nowMillis)
    (hdead : c.dead = b.dead) (hload : sent.request.load = b.list.model.lastLoad)
    (hfirst : sent.request.first = true) : Settling c := by
  rw [Model.firstPage] at hstate
  cases hok : outcome.ok with
  | true =>
    have htakes : b.list.model.takes sent.request outcome = true := by
      simp [Model.takes, hload, hok, hfirst]
    rw [hok, if_pos rfl] at hstate
    refine ⟨hinv, ?_, ?_, ?_⟩
    · rw [hstate, hdead]
      exact fun hmem => absurd hmem (hhelps.fresh htakes)
    · rw [hstate]
      exact fun _ => rfl
    · rw [hstate, hidle]
      exact fun ht hi => .inr (.inr ((hhelps.ends ht hi htakes).imp id And.right))
  | false =>
    rw [hok, if_neg Bool.false_ne_true] at hstate
    refine ⟨hinv, ?_, ?_, ?_⟩
    · rw [hstate, hdead]
      exact fun hmem => absurd hmem (hhelps.renews hload hfirst hok)
    · rw [hstate]
      exact h.loaded
    · rw [hstate]
      exact fun ht => absurd ht (lt_irrefl 0)

include hidle in
lemma settling_took (hstate : c.state = b.list.model.extend outcome) (hdead : c.dead = b.dead)
    (hload : sent.request.load = b.list.model.lastLoad) (hfirst : sent.request.first = false)
    (hok : outcome.ok = true)
    (hother : otherSnapshot b.state.snapshot outcome.snapshot = false)
    (hloaded : b.state.listLoaded = true) : Settling c := by
  have htakes : b.list.model.takes sent.request outcome = true := by
    simp [Model.takes, hload, hok, hother]
  refine ⟨hinv, ?_, ?_, ?_⟩
  · rw [hstate, hdead]
    exact fun hmem => absurd hmem (hhelps.fresh htakes)
  · rw [hstate]
    exact fun _ => hloaded
  · rw [hstate, hidle]
    intro ht hi
    rcases hhelps.ends ht hi htakes with hend | ⟨hfirst', -⟩
    · exact .inr (.inr (.inl hend))
    · exact absurd (hfirst.symm.trans hfirst') Bool.false_ne_true

end Applied

lemma Calm.settling_failed {c : ProtocolBoard δ} (h : Calm b) (hinv : Inv c.list)
    (hstate : c.state =
      { b.state with pageLoading := false, pageFailed := true, seekTarget := 0 })
    (hdead : c.dead = b.dead) : Settling c := by
  refine ⟨hinv, ?_, ?_, ?_⟩
  · rw [hstate, hdead]
    exact h.cursor
  · rw [hstate]
    exact h.loaded
  · rw [hstate]
    exact fun ht => absurd ht (lt_irrefl 0)

lemma tracked_applyPage (w : Tracked δ) (sent : Sent) (outcome : TopOutcome δ) (nowMillis : ℤ) :
    (w.model.admits sent.generation = false ∧
      w.applyPage sent outcome nowMillis = (.dropped, w)) ∨
    (w.model.admits sent.generation = true ∧ ∃ told model answers,
      PageStep w.model sent.request outcome nowMillis told model ∧
      w.applyPage sent outcome nowMillis = (told, { w with model, answers })) := by
  rw [Tracked.applyPage]
  by_cases hadmits : w.model.admits sent.generation = true
  · rw [if_pos hadmits]
    exact .inr ⟨hadmits, _, _, _, applyPage_step .., rfl⟩
  · rw [if_neg hadmits]
    exact .inl ⟨Bool.eq_false_iff.2 hadmits, rfl⟩

/-- The board has heard an answer: its list is another one. -/
structure Heard (b : ProtocolBoard δ) (list : Tracked δ) (c : ProtocolBoard δ) : Prop where
  list : c.list = list
  dead : c.dead = b.dead
  idle : c.idle = b.idle
  asked : c.asked = b.asked

variable {list : Tracked δ}

lemma Heard.state {c : ProtocolBoard δ} (h : Heard b list c) : c.state = list.model.state := by
  rw [ProtocolBoard.state, h.list]

lemma Heard.goes {c c' : ProtocolBoard δ} (h : Heard b list c) (h' : Goes c c')
    (htarget : 0 < list.model.state.seekTarget → 0 < b.state.seekTarget) : Goes b c' :=
  (Goes.quiet h.dead h.idle h.asked fun ht => htarget (h.state ▸ ht)).trans h'

lemma applyPage_dropped (host : Host)
    (h : b.list.applyPage sent outcome nowMillis = (.dropped, list)) :
    Heard b list (b.applyPage host sent outcome nowMillis) := by
  rw [ProtocolBoard.applyPage, h]
  exact ⟨rfl, rfl, rfl, rfl⟩

lemma applyPage_restart (host : Host)
    (h : b.list.applyPage sent outcome nowMillis = (.restart, list)) :
    ∃ c, Heard b list c ∧ b.applyPage host sent outcome nowMillis =
    (c.reload host).continueSeek host := by
  rw [ProtocolBoard.applyPage, h]
  exact ⟨{ b with list, fills := b.fills + 1 }, ⟨rfl, rfl, rfl, rfl⟩, rfl⟩

lemma applyPage_applied (host : Host)
    (h : b.list.applyPage sent outcome nowMillis = (.applied, list)) :
    ∃ c, Heard b list c ∧ b.applyPage host sent outcome nowMillis = c.continueSeek host := by
  rw [ProtocolBoard.applyPage, h]
  exact ⟨{ b with list, fills := b.fills + 1 }, ⟨rfl, rfl, rfl, rfl⟩, rfl⟩

lemma Calm.answer (h : Calm b) (host : Host)
    (hinv : Inv (b.list.applyPage sent outcome nowMillis).2)
    (hpinned : sent.request.first = false → sent.request.load = b.list.model.lastLoad →
      b.state.listLoaded = true)
    (hlisted : Listed outcome.rows)
    (hhelps : b.list.model.admits sent.generation = true → b.Helps host sent outcome) :
    Calm ((b.noted sent outcome nowMillis).applyPage host sent outcome nowMillis) ∧
      Goes (b.noted sent outcome nowMillis)
        ((b.noted sent outcome nowMillis).applyPage host sent outcome nowMillis) := by
  have hidle : (b.noted sent outcome nowMillis).idle = b.idleAfter sent outcome :=
    noted_idle h.inv.contents.listed hlisted
  rcases tracked_applyPage b.list sent outcome nowMillis with ⟨hadmits, heq⟩ |
    ⟨hadmits, told, model, answers, hstep, heq⟩
  · have hnext : b.ofNextPage sent = false := by rw [ProtocolBoard.ofNextPage, hadmits]; rfl
    have hsame : (b.noted sent outcome nowMillis).dead = b.dead := by
      simp [ProtocolBoard.noted, hnext]
    have hidle' : b.idleAfter sent outcome = b.idle := by
      rw [ProtocolBoard.idleAfter, hnext, if_neg Bool.false_ne_true]
    have hheard := applyPage_dropped host heq (b := b.noted sent outcome nowMillis)
    exact ⟨h.congr hheard.list (hheard.dead.trans hsame) (hheard.idle.trans (hidle.trans hidle')),
      hheard.goes (.refl _) id⟩
  have hhelps := hhelps hadmits
  rw [heq] at hinv
  cases hstep with
  | dropped hload =>
    have hheard := applyPage_dropped host heq (b := b.noted sent outcome nowMillis)
    refine ⟨⟨hheard.list ▸ hinv, ?_, ?_, ?_⟩, hheard.goes (.refl _) id⟩
    · rw [hheard.state, hheard.dead]
      intro hmem
      rcases mem_noted_dead hmem with hmem | ⟨hfirst, hok, hexpired, hcursor⟩
      · exact h.cursor hmem
      · exact hhelps.late hload hfirst hok hexpired hcursor
    · rw [hheard.state]
      exact h.loaded
    · rw [hheard.state, hheard.idle, hidle]
      exact fun ht hi => hhelps.overtaken ht hi hload
  | first hload hfirst =>
    obtain ⟨c, hheard, hc⟩ := applyPage_applied (b := b.noted sent outcome nowMillis)
      host heq
    obtain ⟨hcalm, hgoes⟩ := (settling_first (hheard.list ▸ hinv) (hheard.idle.trans hidle) hhelps h
      hheard.state (hheard.dead.trans (noted_dead_of_first hfirst)) hload hfirst).continueSeek host
    rw [hc]
    refine ⟨hcalm, hheard.goes hgoes fun ht => ?_⟩
    change 0 < (b.list.model.firstPage outcome nowMillis).seekTarget at ht
    rw [Model.firstPage] at ht
    split_ifs at ht
    · exact ht
    · exact absurd ht (lt_irrefl 0)
  | expired hload hfirst hok hexpired =>
    obtain ⟨c, hheard, hc⟩ := applyPage_restart (b := b.noted sent outcome nowMillis)
      host heq
    have hcan := hhelps.reloads hload hfirst hok hexpired
    obtain ⟨hcalm, hgoes⟩ := calm_of_restart (hheard.list ▸ hinv) host
      (by rw [hheard.state]; exact h.loaded) fun hcannot =>
       absurd (hcan.symm.trans hcannot) Bool.false_ne_true.symm
    exact hc ▸ ⟨hcalm, hheard.goes hgoes id⟩
  | failed hload hfirst hok hexpired =>
    obtain ⟨c, hheard, hc⟩ := applyPage_applied (b := b.noted sent outcome nowMillis)
      host heq
    obtain ⟨hcalm, hgoes⟩ := (h.settling_failed (hheard.list ▸ hinv) hheard.state
      (hheard.dead.trans (noted_dead_of_live hexpired))).continueSeek host
    exact hc ▸ ⟨hcalm, hheard.goes hgoes fun ht => absurd ht (lt_irrefl 0)⟩
  | other hload hfirst hok hother =>
    obtain ⟨c, hheard, hc⟩ := applyPage_restart (b := b.noted sent outcome nowMillis)
      host heq
    have hrestarts : b.restarts sent outcome = true := by
      simp [ProtocolBoard.restarts, hfirst, hok, hother]
    have hloaded : c.state.next ≠ "" → c.state.listLoaded = true := by
      rw [hheard.state]
      exact h.loaded
    obtain ⟨hcalm, hgoes⟩ := calm_of_restart (hheard.list ▸ hinv) host hloaded
      fun hcannot => by
        refine ⟨hheard.list ▸ hinv, ?_, hloaded, ?_⟩
        · rw [hheard.state, hheard.dead, noted_dead_of_ok hok]
          exact h.cursor
        · rw [hheard.state, hheard.idle, hidle]
          intro ht hi
          exact absurd ((hhelps.restart ht hi hload hrestarts).symm.trans hcannot)
            Bool.false_ne_true.symm
    exact hc ▸ ⟨hcalm, hheard.goes hgoes id⟩
  | took hload hfirst hok hother =>
    obtain ⟨c, hheard, hc⟩ := applyPage_applied (b := b.noted sent outcome nowMillis)
      host heq
    obtain ⟨hcalm, hgoes⟩ := (settling_took (hheard.list ▸ hinv) (hheard.idle.trans hidle) hhelps
      hheard.state (hheard.dead.trans (noted_dead_of_ok hok)) hload hfirst hok hother
      (hpinned hfirst hload)).continueSeek host
    exact hc ▸ ⟨hcalm, hheard.goes hgoes id⟩

end Answers

/-! ### Steps -/

lemma loadMe_cases (b : ProtocolBoard δ) (host : Host) :
    b.loadMe host = b ∨ b.loadMe host = { b with list := b.list.beginMe } := by
  rw [ProtocolBoard.loadMe]
  split_ifs
  · exact .inr rfl
  · exact .inl rfl

lemma goes_loadMe (b : ProtocolBoard δ) (host : Host) : Goes b (b.loadMe host) := by
  rcases loadMe_cases b host with h | h
  · exact h.symm ▸ .refl b
  · exact h.symm ▸ .quiet rfl rfl rfl id

lemma Calm.loadMe (h : Calm b) : Calm (b.loadMe host) := by
  rcases loadMe_cases b host with heq | heq
  · rwa [heq]
  · rw [heq]
    exact ⟨h.inv.beginMe, h.cursor, h.loaded, h.idle⟩

lemma Calm.setShowing (h : Calm b) (host : Host) (showing : Bool) (nowMillis : ℤ) :
    Calm (b.setShowing host showing nowMillis) ∧ Goes b (b.setShowing host showing nowMillis) := by
  have hcalm : Calm { b with showing } := h.congr rfl rfl rfl
  have hgoes : Goes b { b with showing } := .quiet rfl rfl rfl id
  have hme : ∀ c : ProtocolBoard δ, Calm c ∧ Goes b c →
      Calm (c.loadMe host) ∧ Goes b (c.loadMe host) :=
    fun c hc => ⟨hc.1.loadMe, hc.2.trans (goes_loadMe c host)⟩
  have hreload : Calm (ProtocolBoard.reload { b with showing } host) ∧
      Goes b (ProtocolBoard.reload { b with showing } host) :=
    ⟨hcalm.reload, hgoes.trans (goes_reload _ host)⟩
  rw [ProtocolBoard.setShowing]
  dsimp only
  split_ifs
  · exact hme _ hreload
  · exact hme _ ⟨hcalm, hgoes⟩
  · exact hreload
  · exact ⟨hcalm, hgoes⟩
  · exact ⟨hcalm, hgoes⟩

lemma Calm.seek (h : Calm b) (position : ℤ) :
    Calm (b.seek host position) ∧ ∃ c, c.asked = b.asked ∧ Goes c (b.seek host position) := by
  have hinv := h.inv.seek position
  rw [ProtocolBoard.seek]
  split_ifs with hempty hsought
  · exact ⟨h, b, rfl, .refl b⟩
  · obtain ⟨target, heq⟩ := seek_eq b.list.model position
    rw [heq] at hinv ⊢
    have hcalm : Calm { b with
        list := { b.list with model := { b.list.model with
          state := { b.state with seekTarget := target } } }
        idle := 0 } :=
      ⟨hinv, h.cursor, h.loaded, fun _ hi => absurd hi (Nat.not_succ_le_zero 1)⟩
    obtain ⟨hcalm', hgoes⟩ := hcalm.settling.continueSeek host
    exact ⟨hcalm', hgoes.of_asked rfl⟩
  · refine ⟨?_, (Goes.refl _).of_asked rfl⟩
    have hgone : (b.list.model.seek position).2 =
        { b.list.model with state := { b.state with seekTarget := 0 } } := by
      rw [Model.seek] at hsought ⊢
      split_ifs at hsought ⊢ <;> first | rfl | exact absurd rfl hsought
    rw [hgone] at hinv ⊢
    exact ⟨hinv, h.cursor, h.loaded, fun ht => absurd ht (lt_irrefl 0)⟩

lemma Calm.resetForSignOut (h : Calm b) : Calm b.resetForSignOut :=
  ⟨h.inv.close.reopen, fun hmem => absurd hmem List.not_mem_nil, fun hnext => absurd rfl hnext,
    fun ht => absurd ht (lt_irrefl 0)⟩

/-- A seek past the rows asks for a next page where the list can be loaded, has rows, and its last
next page did not fail. -/
lemma Calm.asks (h : Calm b) {position : ℤ} (hpast : b.Past position)
    (hcan : host.canLoadList = true) (hrows : b.state.rows ≠ [])
    (hfailed : b.state.pageFailed = false) :
    ∃ request, (b.seek host position).asked = b.asked ++ [request] ∧ request.first = false := by
  have hmem : b.state.rows.getLast hrows ∈ b.state.rows := List.getLast_mem hrows
  have hlast : lastPosition b.state.rows = (b.state.rows.getLast hrows).position := by
    rw [lastPosition, List.getLast?_eq_some_getLast hrows]
    rfl
  obtain ⟨hlt, hdepth⟩ := hpast.rows _ hmem
  rw [← hlast] at hlt hdepth
  have hone := lastPosition_nonneg h.inv.contents.listed
  have hshort : lastPosition b.state.rows < max 1 (min position kListDepth) := by omega
  have hsought : b.list.model.seek position = (true, { b.list.model with
      state := { b.state with seekTarget := max 1 (min position kListDepth) } }) := by
    rw [Model.seek, if_neg fun hle => absurd hle.2 (not_le.2 hshort), if_neg hpast.next]
  have hloaded := h.loaded hpast.next
  have hlist := hpast.list
  have hpage := hpast.page
  have hnext := hpast.next
  rw [ProtocolBoard.seek, if_neg hrows, hsought, if_pos rfl, ProtocolBoard.continueSeek]
  rw [if_pos (by
    simp only [Model.wantsSeekPage, hfailed, hpage, Bool.not_false, Bool.and_true, Bool.and_eq_true,
      decide_eq_true_eq, Bool.or_eq_true]
    exact ⟨⟨by omega, hnext⟩, .inr hshort⟩)]
  rw [ProtocolBoard.loadNextPage, if_pos hcan, Model.beginNextPage]
  rw [if_neg (by simp [hloaded, hlist, hpage, hnext]),
    if_neg fun hend => absurd hend.2 (not_le.2 hdepth)]
  exact ⟨_, rfl, rfl⟩

lemma calm_init : Calm ({} : ProtocolBoard δ) :=
  ⟨inv_init.reopen, fun h => absurd h List.not_mem_nil, fun h => absurd rfl h,
    fun ht => absurd ht (lt_irrefl 0)⟩

section Runs

variable [Zero δ] {a : BoardAct δ}

lemma Calm.step (h : Calm b) (hnext : next b a = some b') (hsteady : Steady b a) :
    Calm b' ∧ ∃ c, c.asked = b.asked ∧ Goes c b' := by
  cases a with
  | setShowing host showing nowMillis =>
    cases hnext
    obtain ⟨hcalm, hgoes⟩ := h.setShowing host showing nowMillis
    exact ⟨hcalm, b, rfl, hgoes⟩
  | retry host =>
    cases hnext
    rw [ProtocolBoard.retry]
    split_ifs
    · exact ⟨h.loadNextPage _, b, rfl, goes_loadNextPage h _⟩
    · exact ⟨h.reload, b, rfl, goes_reload b host⟩
  | scroll host nearEnd =>
    cases hnext
    rw [ProtocolBoard.onScroll]
    split_ifs
    · exact ⟨h, b, rfl, .refl b⟩
    · exact ⟨h.loadNextPage _, b, rfl, goes_loadNextPage h _⟩
    · exact ⟨h, b, rfl, .refl b⟩
  | fill host filled =>
    rw [next] at hnext
    split_ifs at hnext
    cases hnext
    have hcalm : Calm { b with fills := b.fills - 1 } := h.congr rfl rfl rfl
    rw [ProtocolBoard.fill]
    split_ifs
    · exact ⟨hcalm.loadNextPage _, (goes_loadNextPage hcalm _).of_asked rfl⟩
    · exact ⟨hcalm, (Goes.refl _).of_asked rfl⟩
  | answer host i answer nowMillis =>
    obtain ⟨sent, hsent, rfl⟩ := Option.map_eq_some_iff.1 hnext
    have hcalm : Calm { b with list := { b.list with pages := b.list.pages.eraseIdx i } } :=
      ⟨h.inv.erase i, h.cursor, h.loaded, h.idle⟩
    obtain ⟨hcalm', hgoes⟩ := hcalm.answer host (h.inv.applyPage hsent answer nowMillis)
      (h.inv.contents.pinned sent (List.mem_of_getElem? hsent)) answer.listed
      fun hadmits => helps_congr (hsteady sent hsent hadmits)
    exact ⟨hcalm', hgoes.of_asked rfl⟩
  | loadMe host =>
    cases hnext
    exact ⟨h.loadMe, b, rfl, goes_loadMe b host⟩
  | meAnswer i answer =>
    obtain ⟨card, -, rfl⟩ := Option.map_eq_some_iff.1 hnext
    have hinv := h.inv.applyMe i card.1 card.2 answer.outcome
    rw [Tracked.applyMe] at hinv ⊢
    split_ifs at hinv ⊢
    · obtain ⟨_, _, _, _, _, heq⟩ := applyMe_eq b.list.model card.2 answer.outcome
      simp only [heq] at hinv ⊢
      exact ⟨⟨hinv, h.cursor, h.loaded, h.idle⟩, b, rfl, .quiet rfl rfl rfl id⟩
    · exact ⟨⟨hinv, h.cursor, h.loaded, h.idle⟩, b, rfl, .quiet rfl rfl rfl id⟩
  | seek host position =>
    cases hnext
    exact h.seek position
  | nameChange host =>
    cases hnext
    rw [ProtocolBoard.reloadAfterNameChange]
    split_ifs
    · exact ⟨h.loadMe.reload, b, rfl, (goes_loadMe b host).trans (goes_reload _ host)⟩
    · exact ⟨h.loadMe, b, rfl, goes_loadMe b host⟩
  | signOut =>
    cases hnext
    exact ⟨h.resetForSignOut, b.resetForSignOut, rfl, .refl _⟩

lemma calm_of_runs {es : List (Transition (ProtocolBoard δ) (BoardAct δ))}
    (h : SteadyRuns es b) : Calm b :=
  h.invariant (P := fun _ b => Calm b) (by rintro b rfl; exact calm_init)
    fun _ _ _ _ hcalm hstep => (hcalm.step hstep.1 hstep.2).1

/-- Along a run whose steps are steady, paging neither spins nor stalls. -/
theorem neither_spins_nor_stalls {es : List (Transition (ProtocolBoard δ) (BoardAct δ))}
    (hrun : SteadyRuns es b) : ∀ e ∈ es, Paged e := by
  intro e he
  obtain ⟨pre, post, rfl⟩ := List.append_of_mem he
  obtain ⟨hpre, hnext, hsteady⟩ := hrun.split rfl
  have hcalm := calm_of_runs hpre
  obtain ⟨-, c, hasked, hgoes⟩ := hcalm.step hnext hsteady
  obtain ⟨more, hmore, hgood⟩ := hgoes.asked
  have hsends : sends e = more := by rw [sends, hmore, hasked, List.drop_left]
  refine ⟨fun request hmem hfirst => ?_, fun request hmem hfirst ht => ?_,
    fun host position hlabel hpast => ?_⟩
  · rw [hgoes.dead]
    exact (hgood request (hsends ▸ hmem) hfirst).1
  · rw [hgoes.idle]
    exact (hgood request (hsends ▸ hmem) hfirst).2 ht
  · rw [hlabel] at hnext hsteady
    obtain ⟨hcan, hrows, hfailed⟩ := hsteady hpast
    obtain ⟨request, hsent, hfirst⟩ := hcalm.asks hpast hcan hrows hfailed
    refine ⟨request, ?_, hfirst⟩
    rw [sends, ← Option.some.inj hnext, hsent, List.drop_left]
    exact List.mem_singleton_self _

end Runs

/-! ### Where it spins and stalls -/

/-- The board is shown, and its first page has one row and a cursor. -/
def sampleShown : List (BoardAct ℤ) :=
  [.setShowing {} true 0, .answer {} 0 (samplePage "s7" 1 "c2") 0]

/-- A seek is answered with nothing but the cursor. -/
def sampleIdle : BoardAct ℤ :=
  .answer {} 0 (.sdk (some { snapshot := some { id := some "s7" }, next := some "c2" }) none) 0

/-- The next page's cursor has expired, and the reload fails. -/
def sampleExpired : List (BoardAct ℤ) :=
  [.scroll {} true,
    .answer {} 0 (.sdk none (some "410 Gone: The snapshot expired. Reload from the top.")) 0,
    .answer {} 0 (.threw "timeout") 0]

/-- A seek past the rows asks for a next page, and lands. -/
theorem neither_spins_nor_stalls_seek :
    ∃ (es : List (Transition (ProtocolBoard ℤ) (BoardAct ℤ))) (b : ProtocolBoard ℤ),
      b.state.seekTarget = 0 ∧ b.state.rows.length = 2 ∧ ∀ e ∈ es, Paged e := by
  obtain ⟨es, b, hrun, hgood⟩ := @Run.exists_of_cond _ _ (next (δ := ℤ)) Steady _ {}
    (sampleShown ++ [.seek {} 2, .answer {} 0 (samplePage "s7" 2 "c3") 0])
    (fun b => decide (b.state.seekTarget = 0 ∧ b.state.rows.length = 2)) (by decide +kernel)
  obtain ⟨hseek, hrows⟩ := of_decide_eq_true hgood
  exact ⟨es, b, hseek, hrows, neither_spins_nor_stalls hrun⟩

lemma exists_step (as : List (BoardAct ℤ)) (a : BoardAct ℤ)
    (bad : ProtocolBoard ℤ → ProtocolBoard ℤ → Bool)
    (h : ((Lib.execute next (fun _ _ => true) {} as).any fun b =>
      (next b a).any fun b' => bad b b') = true) :
    ∃ es b b', Runs (es ++ [⟨b, a, b'⟩]) b' ∧ bad b b' = true := by
  obtain ⟨es, b, hrun, hgood⟩ : ∃ es b, Runs es b ∧
      ((next b a).any fun b' => bad b b') = true := by
    refine Run.exists_of_execute next (fun _ _ => true) (fun _ _ _ _ _ => id) ?_ as
      (fun b => (next b a).any fun b' => bad b b') h
    rfl
  obtain ⟨b', hnext, hbad⟩ := (Option.any_eq_true _ _).1 hgood
  exact ⟨es, b, b', hrun.snoc hnext, hbad⟩

/-- With an expired cursor, with pages that add nothing and after a page that failed. -/
theorem neither_spins_nor_stalls_fails :
    (¬ ∀ es (b : ProtocolBoard ℤ), Runs es b → ∀ e ∈ es, Alive e) ∧
    (¬ ∀ es (b : ProtocolBoard ℤ), Runs es b → ∀ e ∈ es, Busy e) ∧
    ¬ ∀ es (b : ProtocolBoard ℤ), Runs es b → ∀ e ∈ es, Seeks e := by
  refine ⟨fun h => ?_, fun h => ?_, fun h => ?_⟩
  · obtain ⟨es, b, b', hrun, hbad⟩ := exists_step (sampleShown ++ sampleExpired) (.scroll {} true)
      (fun b b' => (b'.asked.drop b.asked.length).any fun request =>
        !request.first && request.cursor ∈ b'.dead) (by decide +kernel)
    obtain ⟨request, hmem, hrequest⟩ := List.any_eq_true.1 hbad
    simp only [Bool.and_eq_true, Bool.not_eq_true', decide_eq_true_eq] at hrequest
    exact h _ _ hrun _ List.mem_concat_self request hmem
      hrequest.1 hrequest.2
  · obtain ⟨es, b, b', hrun, hbad⟩ := exists_step
      (sampleShown ++ [.seek {} 300, sampleIdle]) sampleIdle
      (fun b b' => (b'.asked.drop b.asked.length).any fun request =>
        !request.first && (decide (0 < b'.state.seekTarget) && decide (2 ≤ b'.idle)))
      (by decide +kernel)
    obtain ⟨request, hmem, hrequest⟩ := List.any_eq_true.1 hbad
    simp only [Bool.and_eq_true, Bool.not_eq_true', decide_eq_true_eq] at hrequest
    have hidle := h _ _ hrun _ List.mem_concat_self request hmem
      hrequest.1 hrequest.2.1
    exact absurd hidle (Nat.not_lt.2 hrequest.2.2)
  · obtain ⟨es, b, b', hrun, hbad⟩ := exists_step
      (sampleShown ++ [.scroll {} true, .answer {} 0 (.threw "timeout") 0]) (.seek {} 300)
      (fun b b' => decide ((∀ row ∈ b.state.rows, row.position < 300 ∧ row.position < kListDepth) ∧
        b.state.next ≠ "" ∧ b.state.listLoading = false ∧ b.state.pageLoading = false ∧
        b'.asked = b.asked)) (by decide +kernel)
    obtain ⟨hrows, hnext, hlist, hpage, hasked⟩ := of_decide_eq_true hbad
    obtain ⟨request, hmem, -⟩ := h _ _ hrun _
      List.mem_concat_self {} 300 rfl ⟨hrows, hnext, hlist, hpage⟩
    rw [sends, hasked, List.drop_length] at hmem
    cases hmem

end UrnetworkWindows.Board.Paging
