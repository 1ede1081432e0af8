/-
The window and the checker's snapshot.

The last copy under way is the snapshot, or a check is still to say what it left unsaid
(`Unsaid`): a check of a feed that has been left changes some fields and posts nothing, and then
another check is requested; and a refused request says when GitHub may be asked again a section
before the check says that it failed.  That holds in every run whose copies are handed over in the
order they were taken (`InOrder`).  The source does not keep them in that order.
-/
import UrnetworkWindows.Checker.Moves
import UrnetworkWindows.Lib.Posts

namespace UrnetworkWindows.Checker

open Update Lib

variable {cfg : Config} {s s' : State}

/-! ### The feed of the worker's job -/

/-- The generation a caller of a check works for. -/
def Caller.generations : Caller → List ℕ
  | .apply click | .helper click _ => [click.generation]
  | .loop | .reveal => []

/-- The generations the worker's job works for. -/
def Job.generations : Job → List ℕ
  | .check generation caller _ => generation :: caller.generations
  | .claim generation _ => [generation]
  | .judge click _ => [click.generation]
  | .noteReplaced click => [click.generation]
  | .close click => [click.generation]
  | .fail click _ => [click.generation]
  | .askHold click => [click.generation]
  | .begin click => [click.generation]
  | .download click => [click.generation]
  | .verify click => [click.generation]
  | .hash click => [click.generation]
  | .manualInstall click => [click.generation]
  | .reveal click => [click.generation]
  | .install click => [click.generation]
  | .launch click => [click.generation]
  | .launched click _ _ => [click.generation]
  | .await click _ => [click.generation]
  | .judgeReport click _ _ => [click.generation]
  | .report click _ => [click.generation]
  | .threw generation => [generation]
  | .look generation _ => [generation]
  | .unconfirmed generation => [generation]
  | .rehash generation _ _ => [generation]
  | .mismatch generation => [generation]
  | .revealAgain generation _ => [generation]
  | .start | .loop _ => []

/-- A check that will say what the snapshot is, if its feed stays. -/
def Job.tells (job : Job) (generation : ℕ) : Prop :=
  ∃ caller, job = .check generation caller .begin ∨ job = .check generation caller .ask ∨
    job = .check generation caller .failed

/-- The worker is in a check. -/
def Job.isCheck : Job → Bool
  | .check .. => true
  | _ => false

/-- A check is still to come, and will say what the snapshot is. -/
def Unsaid (s : State) : Prop := s.checkRequested = true ∨ s.job.tells s.feedGeneration

/-- The invariant. -/
structure Synced (s : State) : Prop where
  /-- The last copy is the snapshot. -/
  last : ∀ w, lastWord s.window s.queue s.copies = some w → w = s.snapshot ∨ Unsaid s
  /-- Whoever works for a feed that has been left has a check requested behind it. -/
  left : ∀ generation ∈ s.job.generations, generation ≠ s.feedGeneration →
    s.checkRequested = true
  /-- Nothing is posted or shown before a handler is bound. -/
  bound : s.handler = false → s.queue = [] ∧ s.window = none ∧ s.ui ≠ .binding

namespace Synced

lemma frame (h : Synced s) (hsnap : s'.snapshot = s.snapshot) (hcopies : s'.copies = s.copies)
    (hqueue : s'.queue = s.queue) (hwindow : s'.window = s.window)
    (hhandler : s'.handler = s.handler)
    (hui : s'.ui = .binding → s.ui = .binding) (hjob : s'.job = s.job)
    (hfeed : s'.feedGeneration = s.feedGeneration)
    (hreq : s.checkRequested = true → s'.checkRequested = true) : Synced s' := by
  refine ⟨fun w hw => ?_, ?_, ?_⟩
  · rw [hwindow, hqueue, hcopies] at hw
    rw [hsnap]
    refine (h.last w hw).imp_right ?_
    rintro (hr | hs)
    · exact .inl (hreq hr)
    · right
      rw [hjob, hfeed]
      exact hs
  · rw [hjob, hfeed]
    exact fun generation hmem hne => hreq (h.left generation hmem hne)
  · rw [hhandler, hqueue, hwindow]
    exact fun hh => ⟨(h.bound hh).1, (h.bound hh).2.1, fun hb => (h.bound hh).2.2 (hui hb)⟩

lemma goto {job : Job} (h : Synced s) (hjob : ∀ generation ∈ job.generations,
    generation ∈ s.job.generations) (htells : ¬ s.job.tells s.feedGeneration) :
    Synced (s.goto job) := by
  refine ⟨fun w hw => ?_, fun generation hmem => h.left generation (hjob generation hmem), h.bound⟩
  exact (h.last w hw).imp_right fun hu => .inl (hu.resolve_right htells)

lemma tell {generation : ℕ} {fn : Snapshot → Snapshot} {job : Job} (h : Synced s)
    (hmem : generation ∈ s.job.generations)
    (hjob : ∀ generation ∈ job.generations, generation ∈ s.job.generations) :
    Synced ((s.mutateFor generation fn).goto job) := by
  rcases mutateFor_cases s generation fn with ⟨hne, heq⟩ | ⟨-, heq⟩ <;> rw [heq]
  · exact ⟨fun _ _ => .inr (.inl (h.left generation hmem (Ne.symm hne))),
      fun generation hmem => h.left generation (hjob generation hmem), h.bound⟩
  · refine ⟨fun w hw => .inl ?_, fun generation hmem => h.left generation (hjob generation hmem),
      h.bound⟩
    rw [State.goto, State.mutate, lastWord.change] at hw
    exact (Option.some.inj hw).symm

lemma mutate_goto {fn : Snapshot → Snapshot} {job : Job} (h : Synced s)
    (hjob : ∀ generation ∈ job.generations, generation ∈ s.job.generations) :
    Synced ((s.mutate .worker fn).goto job) := by
  refine ⟨fun w hw => .inl ?_, fun generation hmem => h.left generation (hjob generation hmem),
    h.bound⟩
  rw [State.goto, State.mutate, lastWord.change] at hw
  exact (Option.some.inj hw).symm

end Synced

/-! ### The worker -/

lemma generations_resume {generation : ℕ} {caller : Caller} {stage : CheckStage} {checked : Bool} :
    ∀ g ∈ (resume generation caller checked).generations,
      g ∈ (Job.check generation caller stage).generations := by
  intro g hg
  cases caller with
  | loop => exact absurd hg List.not_mem_nil
  | apply click | helper click result => exact List.mem_cons_of_mem _ hg
  | reveal =>
    rw [resume] at hg
    split_ifs at hg <;> exact hg

lemma not_tells {job : Job} {g : ℕ} (h : job.isCheck = false) : ¬ job.tells g := by
  rintro ⟨caller, rfl | rfl | rfl⟩ <;> exact absurd h (Bool.false_ne_true).symm

/-- Work that throws leaves the worker with the feeds it had, and was not about to say
anything. -/
lemma onThrow_tells {job job' : Job} (h : job.onThrow = some job') :
    (∀ g ∈ job'.generations, g ∈ job.generations) ∧ ∀ g, ¬ job.tells g := by
  cases job with
  | check generation caller stage =>
    have hstage : stage ≠ .begin ∧ stage ≠ .ask ∧ stage ≠ .failed := by
      refine ⟨?_, ?_, ?_⟩ <;> rintro rfl <;> cases caller <;> cases h
    refine ⟨?_, ?_⟩
    · cases caller <;> cases stage <;> cases h <;> simp [Job.generations, Caller.generations]
    · rintro g ⟨_, he | he | he⟩
      · exact hstage.1 (Job.check.inj he).2.2
      · exact hstage.2.1 (Job.check.inj he).2.2
      · exact hstage.2.2 (Job.check.inj he).2.2
  | _ =>
    refine ⟨?_, fun g => not_tells rfl⟩
    cases h <;> simp [Job.generations]

namespace Synced

lemma dispatch (h : Synced s) {back : Back} (now : ℤ) (hjob : s.job = .loop back) :
    Synced (dispatch cfg s back now) := by
  have htells : ¬ s.job.tells s.feedGeneration := hjob ▸ not_tells rfl
  have hlast : ∀ w, lastWord s.window s.queue s.copies = some w →
      w = s.snapshot ∨ s.checkRequested = true :=
    fun w hw => (h.last w hw).imp_right fun hu => hu.resolve_right htells
  have hnew : ∀ g ∈ [s.feedGeneration], g ≠ s.feedGeneration → ∀ {p : Prop}, p :=
    fun g hg hne => absurd (List.mem_singleton.1 hg) hne
  unfold Checker.dispatch
  dsimp only
  split_ifs with hclick hreveal hcheck
  · exact ⟨fun w hw => (hlast w hw).imp_right .inl, fun g hg hne => hnew g hg hne, h.bound⟩
  · exact ⟨fun w hw => (hlast w hw).imp_right .inl, fun g hg hne => hnew g hg hne, h.bound⟩
  · exact ⟨fun w hw => (hlast w hw).imp_right fun _ => .inr ⟨.loop, .inl rfl⟩,
      fun g hg hne => hnew g hg hne, h.bound⟩
  · exact ⟨fun w hw => (hlast w hw).imp_right .inl, nofun, h.bound⟩

lemma publish (h : Synced s) {generation : ℕ} {caller : Caller}
    {succeeded serverUnixSeconds : ℤ} {releases : List Release}
    (hjob : s.job = .check generation caller (.publish succeeded serverUnixSeconds releases))
    (checked : Bool) (now : ℤ) :
    Synced ((publishCheck cfg s generation succeeded serverUnixSeconds releases now).goto
      (resume generation caller checked)) := by
  have hresume : ∀ g ∈ (resume generation caller checked).generations, g ∈ s.job.generations := by
    rw [hjob]
    exact generations_resume
  have hleaves := publishCheck_leaves cfg s generation succeeded serverUnixSeconds releases now
  have hsaid := publishCheck_copies cfg s generation succeeded serverUnixSeconds releases now
  generalize publishCheck cfg s generation succeeded serverUnixSeconds releases now = s' at *
  refine ⟨fun w hw => ?_, fun g hg hne => ?_, ?_⟩
  · by_cases hfeed : s.feedGeneration = generation
    · left
      change lastWord s'.window s'.queue s'.copies = some w at hw
      rw [hsaid hfeed, lastWord.change] at hw
      exact (Option.some.inj hw).symm
    · right
      left
      show s'.checkRequested = true
      rw [hleaves.checkRequested]
      exact h.left generation (by rw [hjob]; exact List.mem_cons_self) (Ne.symm hfeed)
  · show s'.checkRequested = true
    change g ≠ s'.feedGeneration at hne
    rw [hleaves.feedGeneration] at hne
    rw [hleaves.checkRequested]
    exact h.left g (hresume g hg) hne
  · show s'.handler = false → s'.queue = [] ∧ s'.window = none ∧ s'.ui ≠ .binding
    rw [hleaves.handler, hleaves.queue, hleaves.window, hleaves.ui]
    exact h.bound

lemma checkSection (h : Synced s) {generation : ℕ} {caller : Caller} {stage : CheckStage}
    (hjob : s.job = .check generation caller stage) (now nowUnix : ℤ)
    (hs : checkSection cfg s generation caller now nowUnix stage = some s') : Synced s' := by
  have hmem : generation ∈ s.job.generations := by
    rw [hjob]
    exact List.mem_cons_self
  have hstage : ∀ {stage' : CheckStage},
      ∀ g ∈ (Job.check generation caller stage').generations, g ∈ s.job.generations := by
    rw [hjob]
    exact fun g hg => hg
  have hresume : ∀ {checked : Bool},
      ∀ g ∈ (resume generation caller checked).generations, g ∈ s.job.generations := by
    rw [hjob]
    exact generations_resume
  -- a check that has not asked yet is to say what the snapshot is, if its feed stays
  have hearly : ∀ {stage' : CheckStage}, (Job.check generation caller stage').tells generation →
      ∀ w, lastWord s.window s.queue s.copies = some w →
        w = s.snapshot ∨ Unsaid (s.goto (.check generation caller stage')) := by
    intro stage' htells w hw
    by_cases hfeed : generation = s.feedGeneration
    · exact .inr (.inr (hfeed ▸ htells))
    · exact .inr (.inl (h.left generation hmem hfeed))
  cases stage with
  | begin =>
    cases hs
    refine ⟨hearly ?_, fun g hg => h.left g (hstage g hg), h.bound⟩
    refine ⟨caller, ?_⟩
    split_ifs
    · exact .inr (.inr rfl)
    · exact .inr (.inl rfl)
  | ask =>
    cases hs
    exact h.tell hmem hstage
  | fetch => cases hs
  | refused wait =>
    cases hs
    refine ⟨fun w hw => .inr ?_, fun g hg => h.left g (hstage g hg), h.bound⟩
    by_cases hfeed : generation = s.feedGeneration
    · exact .inr ⟨caller, .inr (.inr (by rw [hfeed]))⟩
    · exact .inl (h.left generation hmem hfeed)
  | failed =>
    cases hs
    exact h.tell hmem hresume
  | publish succeeded serverUnixSeconds releases =>
    cases hs
    exact h.publish hjob _ now

lemma lockedSection (h : Synced s) {now nowUnix : ℤ}
    (hs : lockedSection cfg s now nowUnix s.job = some s') : Synced s' := by
  have hmem : ∀ {job : Job} {generation : ℕ}, s.job = job → generation ∈ job.generations →
      generation ∈ s.job.generations := by
    rintro job generation rfl hg
    exact hg
  have htells : ∀ {job : Job}, s.job = job → job.isCheck = false →
      ¬ s.job.tells s.feedGeneration := by
    rintro job rfl hne
    exact not_tells hne
  cases hjob : s.job <;> rw [hjob] at hs
  case loop back =>
    cases hs
    exact h.dispatch now hjob
  case check generation caller stage => exact h.checkSection hjob now nowUnix hs
  case claim generation manual =>
    cases hs
    unfold claim
    split_ifs
    · exact h.goto nofun (htells hjob rfl)
    · exact h.goto nofun (htells hjob rfl)
    · refine h.mutate_goto fun g hg => hmem hjob ?_
      split_ifs at hg <;> simpa [Job.generations, Caller.generations] using hg
  case judge click checked =>
    cases hs
    suffices hnext : ∀ g ∈ (judge cfg s click checked).job.generations, g ∈ s.job.generations from
      (h.goto hnext (htells hjob rfl)).frame rfl rfl rfl rfl rfl id rfl rfl fun hr => hr
    intro g hg
    refine hmem hjob ?_
    unfold judge at hg
    dsimp only at hg
    split at hg <;> first | exact hg | exact absurd hg List.not_mem_nil
  case noteReplaced click =>
    cases hs
    exact h.tell (hmem hjob (List.mem_singleton_self _)) nofun
  case close click =>
    cases hs
    exact h.tell (hmem hjob (List.mem_singleton_self _)) nofun
  case fail click failure =>
    cases hs
    exact h.tell (hmem hjob (List.mem_singleton_self _)) nofun
  case askHold click =>
    cases hs
    refine h.goto (fun g hg => hmem hjob ?_) (htells hjob rfl)
    split_ifs at hg <;> exact hg
  case begin click =>
    cases hs
    exact h.tell (hmem hjob (List.mem_singleton_self _)) fun g hg => hmem hjob hg
  case verify click =>
    cases hs
    refine h.tell (hmem hjob (List.mem_singleton_self _)) fun g hg => hmem hjob ?_
    split_ifs at hg <;> first | exact hg | exact absurd hg List.not_mem_nil
  case manualInstall click =>
    cases hs
    refine h.tell (hmem hjob (List.mem_singleton_self _)) fun g hg => hmem hjob ?_
    split_ifs at hg <;> first | exact hg | exact absurd hg List.not_mem_nil
  case install click =>
    cases hs
    refine h.tell (hmem hjob (List.mem_singleton_self _)) fun g hg => hmem hjob ?_
    split_ifs at hg <;> first | exact hg | exact absurd hg List.not_mem_nil
  case launched click startedUnix process =>
    cases hs
    refine h.tell (hmem hjob (List.mem_singleton_self _)) fun g hg => hmem hjob ?_
    split_ifs at hg <;> first | exact hg | exact absurd hg List.not_mem_nil
  case judgeReport click result checked =>
    cases hs
    refine h.goto (fun g hg => hmem hjob ?_) (htells hjob rfl)
    split_ifs at hg <;> exact hg
  case report click result =>
    cases hs
    exact h.mutate_goto nofun
  case threw generation =>
    cases hs
    exact h.tell (hmem hjob (List.mem_singleton_self _)) nofun
  case look generation asked =>
    cases hs
    unfold look
    split_ifs
    · exact h.goto nofun (htells hjob rfl)
    · exact h.goto (fun g hg => hmem hjob hg) (htells hjob rfl)
    · exact h.goto (fun g hg => hmem hjob hg) (htells hjob rfl)
  case unconfirmed generation =>
    cases hs
    exact h.tell (hmem hjob (List.mem_singleton_self _)) nofun
  case mismatch generation =>
    cases hs
    exact h.tell (hmem hjob (List.mem_singleton_self _)) nofun
  all_goals exact absurd hs nofun

lemma outside (h : Synced s) {act : WorkerAct} {job : Job} (hs : Outside cfg s.job act job) :
    Synced (s.goto job) := by
  suffices hmoves : (∀ g ∈ job.generations, g ∈ s.job.generations) ∧
      ∀ g, ¬ s.job.tells g from h.goto hmoves.1 (hmoves.2 _)
  generalize s.job = job₀ at hs
  cases hs with
  | threw hthrow => exact onThrow_tells hthrow
  | fetched generation caller reply nowUnix =>
    refine ⟨fun g hg => hg, fun g => ?_⟩
    rintro ⟨_, he | he | he⟩ <;> cases he
  | downloaded | hashed | rehashed =>
    refine ⟨fun g hg => ?_, fun _ => not_tells rfl⟩
    split_ifs at hg <;> exact hg
  | ended click startedUnix exitCode file vpn =>
    refine ⟨fun g hg => ?_, fun _ => not_tells rfl⟩
    split_ifs at hg
    · simpa [Job.generations, Caller.generations] using hg
    · exact hg
  | refused | started => exact ⟨fun g hg => hg, fun _ => not_tells rfl⟩
  | revealed | revealedAgain => exact ⟨nofun, fun _ => not_tells rfl⟩

/-! ### The user interface -/

lemma changed (h : Synced s) (hcopies : s'.copies = s.copies ++ [(.ui, s'.snapshot)])
    (hqueue : s'.queue = s.queue) (hwindow : s'.window = s.window)
    (hhandler : s'.handler = s.handler) (hui : s'.ui ≠ .binding)
    (hleft : ∀ g ∈ s'.job.generations, g ≠ s'.feedGeneration → s'.checkRequested = true) :
    Synced s' := by
  refine ⟨fun w hw => .inl ?_, hleft, fun hh => ?_⟩
  · rw [hcopies, lastWord.change] at hw
    exact (Option.some.inj hw).symm
  · rw [hhandler] at hh
    rw [hqueue, hwindow]
    exact ⟨(h.bound hh).1, (h.bound hh).2.1, hui⟩

lemma ui (h : Synced s) {act : UiAct} (hs : UiMoves cfg s act s') : Synced s' := by
  have hidle : ∀ {task : UiTask}, s.ui = task → task ≠ .binding → s.ui ≠ .binding := by
    rintro task rfl hne
    exact hne
  cases hs with
  | dismissed hui | autoCheckSet hui nowUnix => exact h.changed rfl rfl rfl rfl nofun h.left
  | replay hui =>
    refine ⟨fun w hw => ?_, h.left, fun hhandler => absurd hui (h.bound hhandler).2.2⟩
    have hreshow : w = s.snapshot ∨ lastWord s.window s.queue s.copies = some w :=
      lastWord.of_reshow hw
    rcases hreshow with hshown | hlast
    · exact .inl hshown
    · exact h.last w hlast
  | checkNow hui => exact h.frame rfl rfl rfl rfl rfl id rfl rfl fun _ => rfl
  | later hui =>
    unfold Checker.later
    split_ifs <;> exact h.changed rfl rfl rfl rfl (hidle hui nofun) h.left
  | channelChanged hui =>
    exact h.changed rfl rfl rfl rfl (hidle hui nofun) fun _ _ _ => rfl
  | setHandler hui => exact ⟨h.last, h.left, nofun⟩
  | @runPosted hui snap queue hqueue =>
    refine ⟨fun w hw => h.last w ?_, h.left, fun hhandler => ?_⟩
    · rw [hqueue]
      exact lastWord.show_next.symm.trans hw
    · rw [(h.bound hhandler).1] at hqueue
      exact absurd hqueue (List.cons_ne_nil _ _).symm
  | dismissResult hui | setAutoCheckEnabled hui =>
    exact h.frame rfl rfl rfl rfl rfl nofun rfl rfl fun hr => hr
  | _ => exact h.frame rfl rfl rfl rfl rfl id rfl rfl fun hr => hr

end Synced

/-! ### The order of the copies -/

/-- A copy is handed over before any that was taken after it. -/
def InOrder (s : State) : Act → Prop
  | .post t => s.copies.head?.map Prod.fst = some t
  | _ => True

instance (s : State) : ∀ a, Decidable (InOrder s a)
  | .post _ => inferInstanceAs (Decidable (_ = _))
  | .worker _ | .ui _ => inferInstanceAs (Decidable True)

lemma Synced.step (h : Synced s) {a : Act} (horder : InOrder s a) (hs : Moves cfg s a s') :
    Synced s' := by
  cases hs with
  | worker hfree hmoves =>
    cases hmoves with
    | locked hlocked => exact h.lockedSection hlocked
    | reported hjob file seen restartedSince vpn =>
      have htells : ¬ s.job.tells s.feedGeneration := hjob ▸ not_tells rfl
      unfold showLastResult
      dsimp only
      split
      · exact h.goto nofun htells
      · split_ifs
        · exact h.goto nofun htells
        · exact h.mutate_goto nofun
    | outside houtside => exact h.outside houtside
  | ui hfree hmoves => exact h.ui hmoves
  | @post t snap hfind =>
    obtain ⟨⟨t', snap'⟩, hhead, rfl⟩ := Option.map_eq_some_iff.1 horder
    obtain ⟨copies, hcopies⟩ := List.head?_eq_some_iff.1 hhead
    have hself : (fun copy : Thread × Snapshot => decide (copy.1 = t')) (t', snap') = true :=
      decide_eq_true rfl
    rw [hcopies, List.find?_cons_of_pos (p := fun copy : Thread × Snapshot => copy.1 = t') hself]
      at hfind
    obtain rfl : snap' = snap := (Prod.mk.inj (Option.some.inj hfind)).2
    rw [hcopies, List.eraseP_cons_of_pos (p := fun copy : Thread × Snapshot => copy.1 = t') hself]
    refine ⟨fun w hw => h.last w ?_, h.left, fun hh => ?_⟩
    · rw [hcopies]
      dsimp only at hw
      split_ifs at hw with hhandler
      · exact lastWord.post.symm.trans hw
      · obtain ⟨hqueue, hwindow, -⟩ := h.bound (eq_false_of_ne_true hhandler)
        by_cases hrest : copies = []
        · rw [hrest, hqueue, hwindow, lastWord.quiet] at hw
          exact absurd hw (Option.some_ne_none w).symm
        · exact (lastWord.lose hrest).symm.trans hw
    · have hhandler : s.handler ≠ true := by
        rw [show s.handler = false from hh]
        exact Bool.false_ne_true
      dsimp only
      rw [if_neg hhandler]
      exact h.bound hh

lemma synced_init (h : Init cfg s) : Synced s := by
  obtain ⟨lastSuccessUnix, autoCheck, rfl⟩ := h
  exact ⟨fun w hw => absurd hw (Option.some_ne_none w).symm, nofun, fun _ => ⟨rfl, rfl, nofun⟩⟩

/-! ### What the window ends on -/

/-- Nobody is part-way, nothing is requested, and nothing waits for the window. -/
structure Quiet (s : State) : Prop where
  copies : s.copies = []
  queue : s.queue = []
  requests : s.checkRequested = false ∧ s.applyRequested = false ∧ s.manualRequested = false ∧
    s.revealRequested = false
  job : s.job.isCheck = false

instance (s : State) : Decidable (Quiet s) :=
  decidable_of_iff (s.copies = [] ∧ s.queue = [] ∧ (s.checkRequested = false ∧
    s.applyRequested = false ∧ s.manualRequested = false ∧ s.revealRequested = false) ∧
    s.job.isCheck = false)
    ⟨fun ⟨hcopies, hqueue, hrequests, hjob⟩ => ⟨hcopies, hqueue, hrequests, hjob⟩,
      fun ⟨hcopies, hqueue, hrequests, hjob⟩ => ⟨hcopies, hqueue, hrequests, hjob⟩⟩

/-- **The window ends on the latest snapshot**, where the copies are handed over in the order they
were taken. -/
theorem window_ends_on_snapshot (cfg : Config) (es : List (Transition State Act)) (s : State)
    (h : Run (Init cfg) (fun _ s a s' => step cfg s a = some s' ∧ InOrder s a) es s)
    (hquiet : Quiet s) (hbound : s.window ≠ none) : s.window = some s.snapshot := by
  have hnext : ∀ {s s' : State} {a : Act}, Synced s → step cfg s a = some s' ∧ InOrder s a →
      Synced s' := fun hsynced hs => hsynced.step hs.2 (moves_of_step hs.1)
  have hsynced : Synced s :=
    h.invariant (fun _ => synced_init) fun _ _ _ _ hsynced hs => hnext hsynced hs
  obtain ⟨w, hw⟩ := Option.ne_none_iff_exists'.1 hbound
  have hlast : lastWord s.window s.queue s.copies = some w := by
    rw [hquiet.queue, hquiet.copies, lastWord.quiet, hw]
  rcases hsynced.last w hlast with rfl | hreq | htells
  · exact hw
  · exact absurd (hquiet.requests.1.symm.trans hreq) Bool.false_ne_true
  · exact absurd htells (not_tells hquiet.job)

/-! ### Later, while a check hands over its copy -/

/-- The window is bound, and shows a release that a check offers. -/
def bindsWindow : List Act :=
  starts ++ [.ui .setHandler, .ui .replay, .ui .checkNow] ++ checks [earlierRelease] 0 ++
    [.ui .runPosted, .ui .runPosted]

/-- A second check up to its last section, after which its copy is still to be handed over. -/
def publishes : List Act :=
  [.ui .checkNow, .worker (.locked 0 0), .worker (.locked 0 0), .worker (.locked 0 0),
    .post .worker, .worker (.fetched (.list [earlierRelease] 1790380800) 1790380800),
    .worker (.locked 0 0)]

/-- The window offers a release that the user has put off: the copy of the check is handed over
after that of the press. -/
theorem window_ends_on_older_snapshot :
    ¬ ∀ (cfg : Config) (es : List (Transition State Act)) (s : State),
      Run (Init cfg) (fun _ s a s' => step cfg s a = some s') es s →
      Quiet s → s.window ≠ none → s.window = some s.snapshot := by
  intro h
  obtain ⟨es, s, hrun, hgood⟩ := exists_run true (fun _ _ => True)
    (bindsWindow ++ publishes ++ [.ui .later, .post .ui, .post .worker, .ui .runPosted,
      .ui .runPosted, .ui .runPosted])
    (fun s => Quiet s ∧ s.window.map Snapshot.phase = some .available ∧ s.snapshot.phase = .none)
    (by decide +kernel)
  obtain ⟨hquiet, hwindow, hphase⟩ := of_decide_eq_true hgood
  simp only [and_true] at hrun
  have hbound : s.window ≠ none := by
    intro hnone
    rw [hnone] at hwindow
    exact absurd hwindow (Option.some_ne_none _).symm
  rw [h _ es s hrun hquiet hbound, Option.map_some, hphase] at hwindow
  exact absurd hwindow (by decide)

/-- In the order they were taken, the copies leave the window without the release. -/
theorem window_ends_without_release :
    ∃ es s, Run (Init (copyOf true)) (fun _ s a s' =>
        step (copyOf true) s a = some s' ∧ InOrder s a) es s ∧
      s.snapshot.phase = .none ∧ s.window = some s.snapshot := by
  obtain ⟨es, s, hrun, hgood⟩ := exists_run true InOrder
    (bindsWindow ++ publishes ++ [.ui .later, .post .worker, .post .ui, .ui .runPosted,
      .ui .runPosted, .ui .runPosted])
    (fun s => Quiet s ∧ s.window.isSome ∧ s.snapshot.phase = .none) (by decide +kernel)
  obtain ⟨hquiet, hsome, hphase⟩ := of_decide_eq_true hgood
  have hbound : s.window ≠ none := Option.isSome_iff_ne_none.1 hsome
  exact ⟨es, s, hrun, hphase, window_ends_on_snapshot (copyOf true) es s hrun hquiet hbound⟩

end UrnetworkWindows.Checker
