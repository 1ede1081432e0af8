/-
The clicks that the worker answers.

A press of Update or of Show installer sets a flag, and the worker takes the flags between two
jobs.  Nothing but the check that an apply asks for drops a press made while that apply runs: it
is taken once the apply has ended.  The applies of a run answer presses of their own
(`applies_answer_presses`) where no press is made in the rest of an apply, and none is overtaken by
another release while it waits (`Heard`).
-/
import UrnetworkWindows.Checker.Moves

namespace UrnetworkWindows.Checker

open Update Lib

/-! ### Where the worker is -/

/-- Where the worker is, as a press sees it. -/
inductive Place
  | away | taken | asking | working | ending
deriving DecidableEq, Repr

/-- The place of a job: in no apply, before the gate of one, in its check, before the end of its
work, or after it. -/
def Job.place : Job → Place
  | .claim .. => .taken
  | .check _ (.apply _) _ | .judge .. => .asking
  | .askHold _ | .begin _ | .download _ | .verify _ | .hash _ | .install _ | .launch _ => .working
  | .check _ (.helper ..) _ | .noteReplaced _ | .close _ | .fail .. | .manualInstall _ | .reveal _
  | .launched .. | .await .. | .judgeReport .. | .report .. | .threw _ => .ending
  | _ => .away

/-- A press waits for the worker. -/
def Waits (s : State) : Prop := s.applyRequested = true ∨ s.manualRequested = true

instance (s : State) : Decidable (Waits s) := inferInstanceAs (Decidable (_ ∨ _))

/-- The gate of `RunApply` is open. -/
def State.takes (s : State) (manual : Bool) : Prop :=
  s.snapshot.phase.actionable manual = true ∧ s.offer.code ≠ 0 ∧ s.snapshot.code = s.offer.code

instance (s : State) (manual : Bool) : Decidable (s.takes manual) :=
  inferInstanceAs (Decidable (_ ∧ _))

/-- The check that is about to publish offers a release other than the one offered. -/
def Job.overtakes (cfg : Config) (s : State) : Job → Prop
  | .check generation _ (.publish _ serverUnixSeconds releases) =>
    let offer := offerOf (selectRelease releases cfg.kArch kOfficialFeed serverUnixSeconds)
    s.feedGeneration = generation ∧ cfg.kCode ≠ 0 ∧ cfg.kCode < offer.code ∧
      offer.code ≠ s.offer.code
  | _ => False

instance (cfg : Config) (s : State) : ∀ job : Job, Decidable (job.overtakes cfg s) := by
  intro job
  cases job with
  | check generation caller stage =>
    cases stage with
    | publish succeeded serverUnixSeconds releases => exact inferInstanceAs (Decidable (_ ∧ _))
    | _ => exact inferInstanceAs (Decidable False)
  | _ => exact inferInstanceAs (Decidable False)

/-! ### Moves between the places -/

/-- How a step of the worker moves between the places. -/
inductive Flow (s s' : State) : Prop
  | stays (hplace : s'.job.place = s.job.place) (hwaits : Waits s' ↔ Waits s)
      (hoffer : s.job.place = .away ∧ Waits s ∨ s.job.place = .taken →
        s'.offer.code = s.offer.code ∨ s'.offer.code = 0)
  | takes (hfrom : s.job.place = .away) (hto : s'.job.place = .taken) (hwaits : Waits s)
      (hclear : ¬ Waits s') (hoffer : s'.offer = s.offer)
  | refuses (hfrom : s.job.place = .taken) (hto : s'.job.place = .away)
      (hwaits : Waits s' ↔ Waits s)
  | passes (hfrom : s.job.place = .taken) (hto : s'.job.place = .asking ∨ s'.job.place = .working)
      (hwaits : Waits s' ↔ Waits s) (hpos : s.offer.code ≠ 0)
      (hcode : s'.snapshot.code = s.offer.code)
  | drops (hfrom : s.job.place = .asking) (hto : s'.job.place ≠ .taken) (hclear : ¬ Waits s')
  | ends (hfrom : s.job.place = .working ∨ s.job.place = .ending)
      (hto : s'.job.place = .ending ∨ s'.job.place = .away) (hwaits : Waits s' ↔ Waits s)

variable {cfg : Config} {s s' : State}

namespace Flow

lemma of_goto {job : Job} (hfrom : s.job.place = .working ∨ s.job.place = .ending)
    (hto : job.place = s.job.place ∨ job.place = .ending ∨ job.place = .away) {t : State}
    (ht : Waits t ↔ Waits s) : Flow s (t.goto job) := by
  rcases hto with hto | hto
  · refine .stays hto ht fun hor => ?_
    rcases hor with ⟨haway, -⟩ | htaken
    · rw [haway] at hfrom
      exact absurd hfrom (by decide)
    · rw [htaken] at hfrom
      exact absurd hfrom (by decide)
  · exact .ends hfrom hto ht

end Flow

lemma waits_mutateFor (generation : ℕ) (fn : Snapshot → Snapshot) :
    Waits (s.mutateFor generation fn) ↔ Waits s := by
  rcases mutateFor_cases s generation fn with ⟨-, heq⟩ | ⟨-, heq⟩ <;> rw [heq]
  rfl

lemma place_check (generation : ℕ) (caller : Caller) (stage stage' : CheckStage) :
    (Job.check generation caller stage').place = (Job.check generation caller stage).place := by
  cases caller <;> rfl

lemma place_resume (generation : ℕ) (caller : Caller) (checked : Bool) (stage : CheckStage) :
    (resume generation caller checked).place = (Job.check generation caller stage).place := by
  cases caller with
  | reveal =>
    rw [resume]
    split_ifs <;> rfl
  | _ => rfl

section Published

variable (generation : ℕ) (succeeded serverUnixSeconds : ℤ) (releases : List Release) (now : ℤ)

lemma waits_publishCheck :
    Waits (publishCheck cfg s generation succeeded serverUnixSeconds releases now) ↔ Waits s := by
  have hleaves := publishCheck_leaves cfg s generation succeeded serverUnixSeconds releases now
  rw [Waits, Waits, hleaves.applyRequested, hleaves.manualRequested]

lemma code_publishCheck (caller : Caller) (h : ¬ (Job.check generation caller
    (.publish succeeded serverUnixSeconds releases)).overtakes cfg s) :
    (publishCheck cfg s generation succeeded serverUnixSeconds releases now).offer.code =
        s.offer.code ∨
      (publishCheck cfg s generation succeeded serverUnixSeconds releases now).offer.code = 0 := by
  rw [offer_publishCheck]
  split_ifs with hleft hnewer
  · exact .inl rfl
  · left
    by_contra hne
    obtain ⟨hfeed, hdev⟩ := not_or.1 hleft
    exact h ⟨not_not.1 hfeed, hdev, hnewer, hne⟩
  · exact .inr rfl

end Published

lemma flow_of_locked {now nowUnix : ℤ}
    (h : lockedSection cfg s now nowUnix s.job = some s')
    (hheard : Waits s → s.job.place = .away → ¬ s.job.overtakes cfg s) : Flow s s' := by
  have hplace : ∀ {job : Job}, s.job = job → s.job.place = job.place := fun hjob => by rw [hjob]
  cases hjob : s.job <;> rw [hjob] at h
  case loop back =>
    cases h
    unfold dispatch
    dsimp only
    split_ifs with hclick hreveal hcheck
    · refine .takes (hplace hjob) rfl ?_ ?_ rfl
      · rwa [Bool.or_eq_true] at hclick
      · rintro (hw | hw) <;> exact absurd hw Bool.false_ne_true
    all_goals exact .stays (hplace hjob).symm Iff.rfl fun _ => .inl rfl
  case check generation caller stage =>
    cases stage with
    | begin | refused wait =>
      cases h
      exact .stays ((place_check _ _ _ _).trans (hplace hjob).symm) Iff.rfl fun _ => .inl rfl
    | ask =>
      cases h
      exact .stays ((place_check _ _ _ _).trans (hplace hjob).symm) (waits_mutateFor _ _)
        fun _ => .inl (congrArg Offer.code (offer_mutateFor _ _))
    | fetch => exact absurd h (Option.some_ne_none _).symm
    | failed =>
      cases h
      exact .stays ((place_resume _ _ _ _).trans (hplace hjob).symm) (waits_mutateFor _ _)
        fun _ => .inl (congrArg Offer.code (offer_mutateFor _ _))
    | publish succeeded serverUnixSeconds releases =>
      cases h
      refine .stays ((place_resume _ _ _ _).trans (hplace hjob).symm) (waits_publishCheck ..)
        fun hor => ?_
      rcases hor with ⟨haway, hwaits⟩ | htaken
      · exact code_publishCheck _ _ _ _ _ caller (hjob ▸ hheard hwaits haway)
      · rw [hplace hjob] at htaken
        cases caller <;> exact absurd htaken nofun
  case claim generation manual =>
    cases h
    have hfrom : s.job.place = .taken := hplace hjob
    unfold claim
    dsimp only
    split_ifs with hclosed hcode hstale
    · exact .refuses hfrom rfl Iff.rfl
    · exact .refuses hfrom rfl Iff.rfl
    all_goals
      refine .passes hfrom ?_ Iff.rfl ?_ rfl
      · first | exact .inl rfl | exact .inr rfl
      · intro hzero
        rw [hzero] at hclosed
        simp at hclosed
  case judge click checked =>
    cases h
    refine .drops (hplace hjob) ?_ ?_
    · unfold judge
      dsimp only
      split <;> exact nofun
    · rintro (hw | hw) <;> exact absurd hw Bool.false_ne_true
  case look generation asked =>
    cases h
    unfold look
    split_ifs <;> exact .stays (hplace hjob).symm Iff.rfl fun _ => .inl rfl
  case unconfirmed generation =>
    cases h
    exact .stays (hplace hjob).symm (waits_mutateFor _ _)
      fun _ => .inl (congrArg Offer.code (offer_mutateFor _ _))
  case mismatch generation =>
    cases h
    exact .stays (hplace hjob).symm (waits_mutateFor _ _)
      fun _ => .inl (congrArg Offer.code (offer_mutateFor _ _))
  case askHold click =>
    cases h
    refine .of_goto (.inl (hplace hjob)) ?_ Iff.rfl
    split_ifs
    · exact .inr (.inl rfl)
    · exact .inl (hplace hjob).symm
  case begin click =>
    cases h
    refine .of_goto (.inl (hplace hjob)) (.inl ?_) (waits_mutateFor _ _)
    exact (hplace hjob).symm
  case verify click =>
    cases h
    refine .of_goto (.inl (hplace hjob)) ?_ (waits_mutateFor _ _)
    split_ifs
    · exact .inl (hplace hjob).symm
    · exact .inr (.inr rfl)
  case install click =>
    cases h
    refine .of_goto (.inl (hplace hjob)) ?_ (waits_mutateFor _ _)
    split_ifs
    · exact .inl (hplace hjob).symm
    · exact .inr (.inr rfl)
  case manualInstall click =>
    cases h
    refine .of_goto (.inr (hplace hjob)) (.inr ?_) (waits_mutateFor _ _)
    split_ifs
    · exact .inl rfl
    · exact .inr rfl
  case launched click startedUnix process =>
    cases h
    refine .of_goto (.inr (hplace hjob)) (.inr ?_) (waits_mutateFor _ _)
    split_ifs
    · exact .inl rfl
    · exact .inr rfl
  case judgeReport click result checked =>
    cases h
    refine .of_goto (.inr (hplace hjob)) (.inr (.inl ?_)) Iff.rfl
    split_ifs <;> rfl
  case report click result =>
    cases h
    exact .of_goto (.inr (hplace hjob)) (.inr (.inr rfl)) Iff.rfl
  case noteReplaced | close | fail | threw =>
    cases h
    exact .of_goto (.inr (hplace hjob)) (.inr (.inr rfl)) (waits_mutateFor _ _)
  all_goals exact absurd h (Option.some_ne_none _).symm

lemma place_onThrow {job job' : Job} (h : job.onThrow = some job') :
    job.place = .away ∧ job'.place = .away ∨ job.place = .asking ∧ job'.place = .ending ∨
      (job.place = .working ∨ job.place = .ending) ∧ job'.place = .ending := by
  cases job with
  | check generation caller stage =>
    cases caller <;> cases stage <;> cases h
    all_goals first
      | exact .inl ⟨rfl, rfl⟩
      | exact .inr (.inl ⟨rfl, rfl⟩)
      | exact .inr (.inr ⟨.inr rfl, rfl⟩)
  | _ =>
    cases h
    all_goals first
      | exact .inl ⟨rfl, rfl⟩
      | exact .inr (.inr ⟨.inl rfl, rfl⟩)
      | exact .inr (.inr ⟨.inr rfl, rfl⟩)

lemma flow_of_outside {act : WorkerAct} {job : Job} (h : Outside cfg s.job act job)
    (hheard : act = .threw → Waits s → s.job.place ≠ .asking) : Flow s (s.goto job) := by
  generalize hjob : s.job = job₀ at h
  have hplace : s.job.place = job₀.place := by rw [hjob]
  have hstays : job.place = job₀.place → Flow s (s.goto job) := fun hto =>
    .stays (hto.trans hplace.symm) Iff.rfl fun _ => .inl rfl
  cases h with
  | fetched generation caller reply nowUnix => exact hstays (place_check _ _ _ _)
  | downloaded click kept ok =>
    refine .of_goto (.inl hplace) ?_ Iff.rfl
    split_ifs
    · exact .inl hplace.symm
    · exact .inr (.inl rfl)
  | hashed click bytes =>
    refine .of_goto (.inl hplace) ?_ Iff.rfl
    split_ifs
    · exact .inr (.inl rfl)
    · exact .inl hplace.symm
    · exact .inr (.inl rfl)
  | rehashed =>
    refine hstays ?_
    split_ifs <;> rfl
  | refused click unsigned startedUnix | started click process startedUnix =>
    exact .of_goto (.inl hplace) (.inr (.inl rfl)) Iff.rfl
  | ended click startedUnix exitCode file vpn =>
    refine .of_goto (.inr hplace) (.inr (.inl ?_)) Iff.rfl
    split_ifs <;> rfl
  | revealed click => exact .of_goto (.inr hplace) (.inr (.inr rfl)) Iff.rfl
  | revealedAgain => exact hstays rfl
  | threw hthrow =>
    rcases place_onThrow hthrow with ⟨hfrom, hto⟩ | ⟨hfrom, hto⟩ | ⟨hfrom, hto⟩
    · exact hstays (hto.trans hfrom.symm)
    · rw [← hplace] at hfrom
      exact .drops hfrom (by rw [State.goto, hto]; exact nofun) fun hw => hheard rfl hw hfrom
    · exact .of_goto (hplace ▸ hfrom) (.inr (.inl hto)) Iff.rfl

/-! ### Presses and what they bring up -/

/-- A call of `BeginApply` or `ShowInstaller` on a banner that offers its release for it, while no
`RunApply` is between its gate and its return. -/
def Asks (e : Transition State Act) : Prop :=
  (e.pre.job.place = .away ∨ e.pre.job.place = .taken) ∧
    (e.label = .ui .beginApply ∧ e.pre.snapshot.phase.actionable false = true ∨
      e.label = .ui .showInstaller ∧ e.pre.snapshot.phase.actionable true = true)

/-- A `RunApply` passes its gate. -/
def Passes (e : Transition State Act) : Prop :=
  e.pre.job.place = .taken ∧ (e.post.job.place = .asking ∨ e.post.job.place = .working)

/-- The start of the helper. -/
def Act.isLaunch : Act → Bool
  | .worker (.launched ..) => true
  | _ => false

/-- `LaunchUpdateHelper` is called, which asks for an administrator. -/
def Prompts (e : Transition State Act) : Prop := e.label.isLaunch = true

/-- An apply begins or asks for an administrator. -/
def Applies (e : Transition State Act) : Prop := Passes e ∨ Prompts e

instance : DecidablePred Asks := fun _ => inferInstanceAs (Decidable (_ ∧ _))

instance : DecidablePred Passes := fun _ => inferInstanceAs (Decidable (_ ∧ _))

instance : DecidablePred Prompts := fun _ => inferInstanceAs (Decidable (_ = _))

/-- A press is made where the worker can answer it, or in the check that drops it; a press that
waits is not overtaken by another release, and its check does not throw. -/
def Heard (cfg : Config) (s : State) : Act → Prop
  | .ui .beginApply => s.job.place = .asking ∨ s.job.place = .away ∧ s.takes false
  | .ui .showInstaller => s.job.place = .asking ∨ s.job.place = .away ∧ s.takes true
  | .worker (.locked ..) => Waits s → s.job.place = .away → ¬ s.job.overtakes cfg s
  | .worker .threw => Waits s → s.job.place ≠ .asking
  | _ => True

instance (cfg : Config) (s : State) : ∀ a, Decidable (Heard cfg s a)
  | .ui .beginApply => inferInstanceAs (Decidable (_ ∨ _))
  | .ui .showInstaller => inferInstanceAs (Decidable (_ ∨ _))
  | .worker (.locked ..) => inferInstanceAs (Decidable (_ → _))
  | .worker .threw => inferInstanceAs (Decidable (_ → _))
  | .worker (.reported ..) | .worker (.fetched ..) | .worker (.downloaded ..)
  | .worker (.hashed ..) | .worker (.launched ..) | .worker (.ended ..) | .worker .revealed
  | .ui .checkNow | .ui .revealInstaller | .ui .dismissResult | .ui .dismissed | .ui .later
  | .ui .channelChanged | .ui (.setAutoCheckEnabled ..) | .ui (.autoCheckSet _)
  | .ui .setHandler | .ui .replay | .ui .runPosted | .post _ => inferInstanceAs (Decidable True)

/-- Where the presses and the applies of a run stand. -/
structure Tracked (es : List (Transition State Act)) (s : State) : Prop where
  /-- No press waits for an apply to end. -/
  waits : Waits s → s.job.place = .away ∨ s.job.place = .asking
  /-- A press that waits was made on the release offered, after the last apply. -/
  pressed : s.job.place = .away ∧ Waits s ∨ s.job.place = .taken →
    Pending es (fun e => Asks e ∧ (s.offer.code = e.pre.snapshot.code ∨ s.offer.code = 0)) Applies
  /-- The apply of the moment has asked for no administrator. -/
  passed : s.job.place = .asking ∨ s.job.place = .working → Pending es Passes Prompts
  answers : Answered es Passes
    (fun e e' => Asks e ∧ e.pre.snapshot.code = e'.post.snapshot.code) Applies
  prompts : Answered es Prompts (fun e _ => Passes e) Prompts

lemma flow_of_worker {act : WorkerAct} (hheard : Heard cfg s (.worker act))
    (hs : WorkerMoves cfg s act s') : Flow s s' := by
  cases hs with
  | locked hlocked => exact flow_of_locked hlocked hheard
  | reported hjob file seen restartedSince vpn =>
    have hfrom : s.job.place = .away := by rw [hjob]; rfl
    have hsame : Waits (showLastResult cfg s file seen restartedSince vpn) ↔ Waits s := by
      unfold showLastResult
      dsimp only
      split
      · rfl
      · split_ifs <;> rfl
    have hoffer : (showLastResult cfg s file seen restartedSince vpn).offer = s.offer := by
      unfold showLastResult
      dsimp only
      split
      · rfl
      · split_ifs <;> rfl
    exact .stays hfrom.symm hsame fun _ => .inl (congrArg Offer.code hoffer)
  | outside houtside =>
    refine flow_of_outside houtside ?_
    rintro rfl
    exact hheard

lemma places_of_launch {act : WorkerAct} (hlaunch : (Act.worker act).isLaunch = true)
    (hs : WorkerMoves cfg s act s') : s.job.place = .working ∧ s'.job.place = .ending := by
  cases hs with
  | locked | reported => cases hlaunch
  | outside h =>
    generalize s.job = job at h
    cases h with
    | refused | started => exact ⟨rfl, rfl⟩
    | _ => cases hlaunch

namespace Tracked

variable {es : List (Transition State Act)}

lemma aside (h : Tracked es s) {a : Act} (happlies : ¬ Applies ⟨s, a, s'⟩)
    (hplace : s'.job.place = s.job.place) (hwaits : Waits s' → Waits s)
    (hoffer : s.job.place = .away ∧ Waits s ∨ s.job.place = .taken →
      s'.offer.code = s.offer.code ∨ s'.offer.code = 0) : Tracked (es ++ [⟨s, a, s'⟩]) s' := by
  have hpasses : ¬ Passes ⟨s, a, s'⟩ := fun hp => happlies (.inl hp)
  have hprompts : ¬ Prompts ⟨s, a, s'⟩ := fun hp => happlies (.inr hp)
  refine ⟨?_, fun hor => ?_, ?_, h.answers.snoc_of_not hpasses, h.prompts.snoc_of_not hprompts⟩
  · rw [hplace]
    exact fun hw => h.waits (hwaits hw)
  · rw [hplace] at hor
    have hor := hor.imp_left (And.imp_right hwaits)
    refine ((h.pressed hor).snoc happlies).imp fun e he => ⟨he.1, ?_⟩
    rcases hoffer hor with hcode | hcode <;> rw [hcode]
    · exact he.2
    · exact .inr rfl
  · rw [hplace]
    exact fun hor => (h.passed hor).snoc hprompts

lemma press (h : Tracked es s) {a : Act} {manual : Bool} (hui : ∃ act, a = .ui act)
    (hasks : s.job.place = .away → Asks ⟨s, a, s'⟩)
    (hheard : s.job.place = .asking ∨ s.job.place = .away ∧ s.takes manual)
    (hjob : s'.job = s.job) (hoffer : s'.offer = s.offer) :
    Tracked (es ++ [⟨s, a, s'⟩]) s' := by
  have hprompts : ¬ Prompts ⟨s, a, s'⟩ := by
    obtain ⟨act, rfl⟩ := hui
    exact nofun
  have hpasses : ¬ Passes ⟨s, a, s'⟩ := by
    rintro ⟨htaken, -⟩
    change s.job.place = .taken at htaken
    rw [htaken] at hheard
    exact absurd hheard (by simp)
  have happlies : ¬ Applies ⟨s, a, s'⟩ := not_or.2 ⟨hpasses, hprompts⟩
  refine ⟨?_, fun hor => ?_, ?_, h.answers.snoc_of_not hpasses, h.prompts.snoc_of_not hprompts⟩
  · rw [hjob]
    exact fun _ => hheard.symm.imp_left And.left
  · rw [hjob] at hor
    rcases hheard with hasking | ⟨haway, htakes⟩
    · rw [hasking] at hor
      exact absurd hor (by simp)
    · refine .last ⟨hasks haway, .inl ?_⟩ happlies
      rw [hoffer]
      exact htakes.2.2.symm
  · rw [hjob]
    exact fun hor => (h.passed hor).snoc hprompts

lemma worker (h : Tracked es s) {act : WorkerAct} (hflow : Flow s s')
    (hlaunch : (Act.worker act).isLaunch = true →
      s.job.place = .working ∧ s'.job.place = .ending) :
    Tracked (es ++ [⟨s, .worker act, s'⟩]) s' := by
  have hpasses : s.job.place ≠ .taken ∨ s'.job.place = .taken ∨ s'.job.place = .away →
      ¬ Passes ⟨s, .worker act, s'⟩ := by
    rintro hor ⟨htaken, hinside⟩
    rcases hor with hne | heq | heq
    · exact hne htaken
    · exact absurd (heq ▸ hinside) (by simp)
    · exact absurd (heq ▸ hinside) (by simp)
  have hprompts : s.job.place ≠ .working ∨ s'.job.place ≠ .ending →
      ¬ Prompts ⟨s, .worker act, s'⟩ := by
    intro hor hp
    obtain ⟨hfrom, hto⟩ := hlaunch hp
    exact hor.elim (fun hne => hne hfrom) fun hne => hne hto
  have hclear : s.job.place ≠ .away → s.job.place ≠ .asking → ¬ Waits s := fun haway hasking hw =>
    (h.waits hw).elim haway hasking
  cases hflow with
  | stays hplace hwaits hoffer =>
    refine h.aside (not_or.2 ⟨hpasses ?_, hprompts ?_⟩) hplace hwaits.1 hoffer
    · by_cases htaken : s.job.place = .taken
      · exact .inr (.inl (hplace.trans htaken))
      · exact .inl htaken
    · by_cases hworking : s.job.place = .working
      · exact .inr (by rw [hplace, hworking]; exact nofun)
      · exact .inl hworking
  | takes hfrom hto hwaits hclear hoffer =>
    have hp : ¬ Passes ⟨s, .worker act, s'⟩ := hpasses (.inl (by rw [hfrom]; exact nofun))
    have hq : ¬ Prompts ⟨s, .worker act, s'⟩ := hprompts (.inl (by rw [hfrom]; exact nofun))
    refine ⟨fun hw => absurd hw hclear, fun _ => ?_, fun hor => ?_, h.answers.snoc_of_not hp,
      h.prompts.snoc_of_not hq⟩
    · rw [hoffer]
      exact (h.pressed (.inl ⟨hfrom, hwaits⟩)).snoc (not_or.2 ⟨hp, hq⟩)
    · rw [hto] at hor
      exact absurd hor (by simp)
  | refuses hfrom hto hwaits =>
    have hp : ¬ Passes ⟨s, .worker act, s'⟩ := hpasses (.inr (.inr hto))
    have hq : ¬ Prompts ⟨s, .worker act, s'⟩ := hprompts (.inl (by rw [hfrom]; exact nofun))
    have hw : ¬ Waits s' := fun hw => hclear (by rw [hfrom]; exact nofun)
      (by rw [hfrom]; exact nofun) (hwaits.1 hw)
    refine ⟨fun hw' => absurd hw' hw, fun hor => ?_, fun hor => ?_, h.answers.snoc_of_not hp,
      h.prompts.snoc_of_not hq⟩
    · rcases hor with ⟨-, hw'⟩ | htaken
      · exact absurd hw' hw
      · exact absurd (hto.symm.trans htaken) nofun
    · rw [hto] at hor
      exact absurd hor (by simp)
  | passes hfrom hto hwaits hpos hcode =>
    have hp : Passes ⟨s, .worker act, s'⟩ := ⟨hfrom, hto⟩
    have hq : ¬ Prompts ⟨s, .worker act, s'⟩ := hprompts (.inl (by rw [hfrom]; exact nofun))
    have hw : ¬ Waits s' := fun hw => hclear (by rw [hfrom]; exact nofun)
      (by rw [hfrom]; exact nofun) (hwaits.1 hw)
    refine ⟨fun hw' => absurd hw' hw, fun hor => ?_, fun _ => .last hp hq, h.answers.snoc ?_,
      h.prompts.snoc_of_not hq⟩
    · rcases hor with ⟨-, hw'⟩ | htaken
      · exact absurd hw' hw
      · rw [htaken] at hto
        exact absurd hto (by simp)
    · refine (h.pressed (.inr hfrom)).imp fun e he => ⟨he.1, ?_⟩
      exact (he.2.resolve_right hpos).symm.trans hcode.symm
  | drops hfrom hto hclear =>
    have hp : ¬ Passes ⟨s, .worker act, s'⟩ := hpasses (.inl (by rw [hfrom]; exact nofun))
    have hq : ¬ Prompts ⟨s, .worker act, s'⟩ := hprompts (.inl (by rw [hfrom]; exact nofun))
    refine ⟨fun hw => absurd hw hclear, fun hor => ?_, fun _ => (h.passed (.inl hfrom)).snoc hq,
      h.answers.snoc_of_not hp, h.prompts.snoc_of_not hq⟩
    rcases hor with ⟨-, hw⟩ | htaken
    · exact absurd hw hclear
    · exact absurd htaken hto
  | ends hfrom hto hwaits =>
    have hp : ¬ Passes ⟨s, .worker act, s'⟩ := by
      refine hpasses (.inl fun htaken => ?_)
      rw [htaken] at hfrom
      exact absurd hfrom (by simp)
    have hw : ¬ Waits s' := by
      intro hw
      rcases hfrom with hfrom | hfrom <;> rcases h.waits (hwaits.1 hw) with hw | hw <;>
        exact absurd (hfrom.symm.trans hw) nofun
    refine ⟨fun hw' => absurd hw' hw, fun hor => ?_, fun hor => ?_, h.answers.snoc_of_not hp, ?_⟩
    · rcases hor with ⟨-, hw'⟩ | htaken
      · exact absurd hw' hw
      · rw [htaken] at hto
        exact absurd hto (by simp)
    · rcases hto with hto | hto <;> rw [hto] at hor <;> exact absurd hor (by simp)
    · by_cases hq : Prompts ⟨s, .worker act, s'⟩
      · exact h.prompts.snoc (h.passed (.inr (hlaunch hq).1))
      · exact h.prompts.snoc_of_not hq

lemma ui_aside (h : Tracked es s) {act : UiAct} (hjob : s'.job = s.job)
    (hwaits : Waits s' → Waits s) (hoffer : s'.offer.code = s.offer.code ∨ s'.offer.code = 0) :
    Tracked (es ++ [⟨s, .ui act, s'⟩]) s' := by
  refine h.aside (not_or.2 ⟨?_, nofun⟩) (congrArg Job.place hjob) hwaits fun _ => hoffer
  rintro ⟨htaken, hinside⟩
  change s.job.place = .taken at htaken
  change s'.job.place = .asking ∨ s'.job.place = .working at hinside
  rw [hjob, htaken] at hinside
  exact absurd hinside (by simp)

lemma ui (h : Tracked es s) {act : UiAct} (hheard : Heard cfg s (.ui act))
    (hs : UiMoves cfg s act s') : Tracked (es ++ [⟨s, .ui act, s'⟩]) s' := by
  cases hs with
  | beginApply hui =>
    refine h.press ⟨_, rfl⟩ (fun haway => ⟨.inl haway, .inl ⟨rfl, ?_⟩⟩) hheard rfl rfl
    rcases hheard with hasking | ⟨-, htakes⟩
    · exact absurd (haway.symm.trans hasking) nofun
    · exact htakes.1
  | showInstaller hui =>
    refine h.press ⟨_, rfl⟩ (fun haway => ⟨.inl haway, .inr ⟨rfl, ?_⟩⟩) hheard rfl rfl
    rcases hheard with hasking | ⟨-, htakes⟩
    · exact absurd (haway.symm.trans hasking) nofun
    · exact htakes.1
  | later hui =>
    unfold Checker.later
    split_ifs <;> exact h.ui_aside rfl id (.inl rfl)
  | channelChanged hui => exact h.ui_aside rfl id (.inr rfl)
  | _ => exact h.ui_aside rfl id (.inl rfl)

lemma step (h : Tracked es s) {a : Act} (hheard : Heard cfg s a) (hs : Moves cfg s a s') :
    Tracked (es ++ [⟨s, a, s'⟩]) s' := by
  cases hs with
  | worker hfree hmoves =>
    exact h.worker (flow_of_worker hheard hmoves) fun hlaunch => places_of_launch hlaunch hmoves
  | ui hfree hmoves => exact h.ui hheard hmoves
  | post hfind =>
    refine h.aside (not_or.2 ⟨?_, nofun⟩) rfl id fun _ => .inl rfl
    rintro ⟨htaken, hinside⟩
    change s.job.place = .taken at htaken
    change s.job.place = .asking ∨ s.job.place = .working at hinside
    rw [htaken] at hinside
    exact absurd hinside (by simp)

end Tracked

lemma tracked_init (h : Init cfg s) : Tracked [] s := by
  obtain ⟨lastSuccessUnix, autoCheck, rfl⟩ := h
  refine ⟨?_, ?_, ?_, .nil, .nil⟩
  · rintro (hw | hw) <;> exact absurd hw Bool.false_ne_true
  · rintro (⟨-, hw | hw⟩ | htaken)
    · exact absurd hw Bool.false_ne_true
    · exact absurd hw Bool.false_ne_true
    · cases htaken
  · rintro (hasking | hworking) <;> contradiction

/-! ### A press of its own -/

/-- Every apply has a press of its own, made on its release while no apply ran, and between two
administrator prompts there is such a press. -/
structure OwnPresses (es : List (Transition State Act)) : Prop where
  matched : ∃ call : ℕ → ℕ, (∀ i e, es[i]? = some e → Passes e → call i < i ∧
      ∃ c, es[call i]? = some c ∧ Asks c ∧ c.pre.snapshot.code = e.post.snapshot.code) ∧
    Set.InjOn call {i | Marked es Passes i}
  prompts : ∀ i j, i < j → Marked es Prompts i → Marked es Prompts j →
    ∃ k, i < k ∧ k < j ∧ Marked es Asks k

lemma Tracked.ownPresses {es : List (Transition State Act)} (h : Tracked es s) :
    OwnPresses es := by
  refine ⟨h.answers.exists_own fun e hp => .inl hp, ?_⟩
  rintro i j hij hi ⟨e, he, hp⟩
  obtain ⟨p, c, hpj, hc, hpasses, hlast⟩ := h.prompts j e he hp
  obtain ⟨k, b, hkp, hb, hasks, hbefore⟩ := h.answers p c hc hpasses
  have hip : i < p := hlast i hij hi
  obtain ⟨x, hx, hprompt⟩ := hi
  exact ⟨k, hbefore i hip ⟨x, hx, .inr hprompt⟩, hkp.trans hpj, b, hb, hasks.1⟩

/-- **Every apply answers a press of its own**, where the presses are heard as they were made. -/
theorem applies_answer_presses (cfg : Config) (es : List (Transition State Act)) (s : State)
    (h : Run (Init cfg) (fun _ s a s' => step cfg s a = some s' ∧ Heard cfg s a) es s) :
    OwnPresses es := by
  have hnext : ∀ {es : List (Transition State Act)} {s s' : State} {a : Act}, Tracked es s →
      step cfg s a = some s' ∧ Heard cfg s a → Tracked (es ++ [⟨s, a, s'⟩]) s' :=
    fun htracked hs => htracked.step hs.2 (moves_of_step hs.1)
  have htracked : Tracked es s :=
    h.invariant (fun _ => tracked_init) fun _ _ _ _ htracked hs => hnext htracked hs
  exact htracked.ownPresses

/-! ### A second press on one banner -/

/-- An apply on an installed copy, from its gate to the start of the helper, which is refused;
the user presses Update as the banner first shows that it is applied. -/
def launches (press : List Act) : List Act :=
  [.worker (.locked 0 0), .worker (.locked 0 0), .post .worker] ++ press ++
    [.worker (.locked 0 0), .worker (.locked 0 0), .post .worker, .worker (.downloaded none true),
      .worker (.locked 0 0), .post .worker, .worker (.hashed (some [])), .worker (.locked 0 0),
      .post .worker, .worker (.launched (.refused false) 0), .worker (.locked 0 0), .post .worker]

/-- The update is offered, and the user presses Update. -/
def pressesUpdate : List Act :=
  starts ++ [.ui .checkNow] ++ checks [earlierRelease] 0 ++ [.ui .beginApply]

/-- A `RunApply` passes its gate at a place of the history. -/
def passesAt (es : List (Transition State Act)) (i : ℕ) : Bool :=
  es[i]?.any fun e => decide (Passes e)

lemma marked_of_passesAt {es : List (Transition State Act)} {i : ℕ} (h : passesAt es i = true) :
    Marked es Passes i := by
  obtain ⟨e, he, hp⟩ := (Option.any_eq_true _ _).1 h
  exact ⟨e, he, of_decide_eq_true hp⟩

/-- The press made during the first apply brings up the second prompt. -/
theorem apply_without_press :
    ¬ ∀ (cfg : Config) (es : List (Transition State Act)) (s : State),
      Run (Init cfg) (fun _ s a s' => step cfg s a = some s') es s → OwnPresses es := by
  intro h
  obtain ⟨es, s, hrun, hgood⟩ := exists_recorded true (fun _ _ => True)
    (pressesUpdate ++ launches [.ui .beginApply] ++ launches [])
    (fun es => (passesAt es 11 && passesAt es 27) &&
      (List.range es.length).all fun k => es[k]?.all fun e => decide (Asks e → k = 9))
    (by decide +kernel)
  simp only [and_true] at hrun
  obtain ⟨hpasses, honly⟩ := Bool.and_eq_true_iff.1 hgood
  obtain ⟨hfirst, hsecond⟩ := Bool.and_eq_true_iff.1 hpasses
  have hfirst := marked_of_passesAt hfirst
  have hsecond := marked_of_passesAt hsecond
  have hone : ∀ k c, es[k]? = some c → Asks c → k = 9 := by
    intro k c hc hasks
    have hlt := (List.getElem?_eq_some_iff.1 hc).1
    have hk := List.all_eq_true.1 honly k (List.mem_range.2 hlt)
    rw [hc, Option.all_some] at hk
    exact of_decide_eq_true hk hasks
  obtain ⟨call, hcall, hown⟩ := (h _ es s hrun).matched
  have hnine : ∀ i, Marked es Passes i → call i = 9 := by
    rintro i ⟨e, he, hp⟩
    obtain ⟨-, c, hc, hasks, -⟩ := hcall i e he hp
    exact hone _ c hc hasks
  have heq := hown hfirst hsecond ((hnine 11 hfirst).trans (hnine 27 hsecond).symm)
  exact absurd heq (by decide)

/-- The user presses again once the first apply has failed. -/
theorem second_apply_answers_second_press :
    ∃ es s, Run (Init (copyOf true)) (fun _ s a s' =>
        step (copyOf true) s a = some s' ∧ Heard (copyOf true) s a) es s ∧
      Marked es Passes 11 ∧ Marked es Passes 27 ∧ OwnPresses es := by
  obtain ⟨es, s, hrun, hgood⟩ := exists_recorded true (Heard (copyOf true))
    (pressesUpdate ++ launches [] ++ [.ui .beginApply] ++ launches [])
    (fun es => passesAt es 11 && passesAt es 27) (by decide +kernel)
  obtain ⟨hfirst, hsecond⟩ := Bool.and_eq_true_iff.1 hgood
  exact ⟨es, s, hrun, marked_of_passesAt hfirst, marked_of_passesAt hsecond,
    applies_answer_presses (copyOf true) es s hrun⟩

end UrnetworkWindows.Checker
