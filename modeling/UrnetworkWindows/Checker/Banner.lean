/-
The banner names what is offered.

One section does not look at the banner that it writes: `RunReveal` says that the installer no
longer matches, whatever the banner has come to while the file was hashed (`Ignores`).  Without
that section every step keeps the invariant (`Kept.step`), and with it the banner of a failed
update names no release.
-/
import UrnetworkWindows.Checker.Names

namespace UrnetworkWindows.Checker

open Update Lib

variable {cfg : Config} {s s' : State}

/-! ### The condition -/

/-- The worker is where it comes to only when an apply threw, or a helper started without its
process. -/
def Job.lost : Job → Bool
  | .threw _ | .launched _ _ false => true
  | _ => false

/-- Nothing throws, and the helper's process is returned whenever the helper starts. -/
def Assumed (s : State) (a : Act) : Prop := a ≠ .worker .threw ∧ s.job.lost = false

instance (s : State) (a : Act) : Decidable (Assumed s a) :=
  inferInstanceAs (Decidable (_ ∧ _))

/-- The step is one of the worker's sections. -/
def Act.isLocked : Act → Bool
  | .worker (.locked ..) => true
  | _ => false

/-- `RunReveal` writes that the installer no longer matches over a banner that no longer
shows it. -/
def Ignores (s : State) (a : Act) : Prop :=
  a.isLocked = true ∧ s.job = .mismatch s.feedGeneration ∧ s.snapshot.phase ≠ .manualInstall

instance (s : State) (a : Act) : Decidable (Ignores s a) :=
  inferInstanceAs (Decidable (_ ∧ _ ∧ _))

lemma Kept.lockedSection (h : Kept cfg s) {now nowUnix : ℤ}
    (hassumed : Assumed s (.worker (.locked now nowUnix)))
    (hshown : s.job = .mismatch s.feedGeneration → s.snapshot.phase = .manualInstall)
    (hs : lockedSection cfg s now nowUnix s.job = some s') : Kept cfg s' := by
  have hfits := h.fits
  cases hjob : s.job <;> rw [hjob] at hs hfits
  case loop back =>
    cases hs
    exact h.dispatch hjob now
  case check generation caller stage => exact h.checkSection hjob now nowUnix hs
  case claim generation manual =>
    cases hs
    exact h.claim hjob now
  case judge click checked =>
    cases hs
    exact h.judge hjob
  case noteReplaced click =>
    cases hs
    exact h.noteReplaced hjob _
  case close click =>
    cases hs
    exact h.close hjob
  case fail click failure =>
    cases hs
    exact h.fail hjob
  case askHold click =>
    cases hs
    refine h.goto ?_
    split_ifs <;> exact hfits.next_inert rfl (fun _ he => he) (by rintro _ _ _ ⟨⟩) rfl rfl
  case begin click =>
    cases hs
    exact h.begin hjob
  case verify click =>
    cases hs
    exact h.stageFor (by rw [hjob]; rfl) rfl rfl
      (hfits.next_inert rfl (fun _ he => he) (by rintro _ _ _ ⟨⟩) rfl rfl)
  case manualInstall click =>
    cases hs
    exact h.manualInstall hjob
  case install click =>
    cases hs
    exact h.stageFor (by rw [hjob]; rfl) rfl rfl
      (hfits.next_inert rfl (fun _ he => he) (by rintro _ _ _ ⟨⟩) rfl rfl)
  case launched click startedUnix process =>
    cases hs
    cases process with
    | true =>
        exact h.mutateFor rfl rfl
          (hfits.next_inert rfl (fun _ he => he) (by rintro _ _ _ ⟨⟩) rfl rfl)
    | false => exact absurd hassumed.2 (by rw [hjob]; rintro ⟨⟩)
  case judgeReport click result checked =>
    cases hs
    refine h.goto ?_
    split_ifs with hreplaced
    · exact hfits.next rfl (fun _ he => absurd he (by simp [Job.held?])) (by rintro _ _ _ ⟨⟩)
        (fun _ => h.not_applying_of_replaced (by rw [hjob]; rfl) hreplaced) (by rintro _ ⟨⟩)
    · exact hfits.next rfl (fun _ he => absurd he (by simp [Job.held?])) (by rintro _ _ _ ⟨⟩)
        (by rintro ⟨⟩) hfits.result
  case report click result =>
    cases hs
    exact h.report hjob
  case look generation asked =>
    cases hs
    have hphase := h.not_applying (by rw [hjob]; rfl)
    unfold look
    split_ifs <;> exact h.goto_outside hphase rfl
  case unconfirmed generation =>
    cases hs
    exact h.unconfirmed hjob
  case mismatch generation =>
    cases hs
    refine h.mismatch hjob ?_
    rintro rfl
    exact hshown hjob
  case threw generation => exact absurd hassumed.2 (by rw [hjob]; rintro ⟨⟩)
  all_goals exact absurd hs (Option.some_ne_none s').symm

lemma Kept.reported (h : Kept cfg s) (hjob : s.job = .start) (file : Option UpdateResult)
    (seen : String) (restartedSince : Bool) (vpn : Option VpnAtStart) (hlater : s.laterCode = 0) :
    Kept cfg ((showLastResult cfg s file seen restartedSince vpn).goto (.loop .launch)) := by
  have hphase := h.not_applying (by rw [hjob]; rfl)
  unfold showLastResult
  split
  next => exact h.goto_outside hphase rfl
  next =>
    dsimp only
    split_ifs
    · exact h.goto_outside hphase rfl
    · refine Kept.of_goto (.of_result h.names.offered h.names.sound rfl ?_) (.outside nofun rfl)
      show hiddenByLater s.laterCode _ = false
      rw [hlater]
      exact hiddenByLater_zero _

lemma view_resultOf {click : Click} (h : Sound cfg click.offer) (startedUnix : ℤ)
    (exitCode : Option UInt32) (file : Option UpdateResult) (vpn : VpnAtStart) :
    (resultOf cfg click startedUnix exitCode file vpn).view ≠ .hidden := by
  unfold resultOf
  dsimp only
  split
  next report hreport =>
    obtain ⟨hread, hrun⟩ := Option.filter_eq_some_iff.1 hreport
    obtain ⟨-, hwell⟩ := Option.filter_eq_some_iff.1 hread
    have htag : report.tag = click.offer.tag := by
      simp only [isReportOfRun, decide_eq_true_eq] at hrun
      exact hrun.1
    refine viewOfReport_live ?_
    rw [← UpdateResult.code_eq hwell, htag, h.tag]
    exact h.newer
  next => exact viewOfReport_live h.newer

lemma Kept.outside (h : Kept cfg s) {act : WorkerAct} {job : Job} (hthrows : act ≠ .threw)
    (hs : Outside cfg s.job act job) : Kept cfg (s.goto job) := by
  have hfits := h.fits
  generalize hjob : s.job = job₀ at hs hfits
  cases hs with
  | fetched generation caller reply nowUnix => exact h.goto hfits.restage
  | downloaded click kept ok | hashed click bytes =>
    refine h.goto ?_
    split_ifs <;> exact hfits.next_inert rfl (fun _ he => he) (by rintro _ _ _ ⟨⟩) rfl rfl
  | rehashed generation installer digest bytes =>
    refine h.goto_outside (h.not_applying (by rw [hjob]; rfl)) ?_
    split_ifs <;> rfl
  | refused click unsigned startedUnix | started click process startedUnix =>
    exact h.goto (hfits.next_inert rfl (fun _ he => he) (by rintro _ _ _ ⟨⟩) rfl rfl)
  | ended click startedUnix exitCode file vpn =>
    have hview := view_resultOf (hfits.sound click rfl) startedUnix exitCode file vpn
    refine h.goto ?_
    split_ifs
    · refine hfits.next rfl (fun _ he => absurd he (by simp [Job.held?])) (by rintro _ _ _ ⟨⟩)
        (by rintro ⟨⟩) ?_
      rintro result ⟨⟩
      exact hview
    · refine hfits.next rfl (fun _ he => absurd he (by simp [Job.held?])) (by rintro _ _ _ ⟨⟩)
        (by rintro ⟨⟩) ?_
      rintro result ⟨⟩
      exact hview
  | revealed click => exact h.goto_outside (hfits.left rfl) rfl
  | revealedAgain generation installer =>
    exact h.goto_outside (h.not_applying (by rw [hjob]; rfl)) rfl
  | threw => exact absurd rfl hthrows

/-! ### The user interface -/

namespace Kept

lemma frame (h : Kept cfg s) (hsnap : s'.snapshot.banner = s.snapshot.banner)
    (hoffered : s'.snapshot.offeredCode = s.snapshot.offeredCode) (hoffer : s'.offer = s.offer)
    (hlater : s'.laterCode = s.laterCode) (hfeed : s'.feedGeneration = s.feedGeneration)
    (hjob : s'.job = s.job) : Kept cfg s' := by
  obtain ⟨hphase, hcode, -, -⟩ := Banner.mk.inj hsnap
  refine ⟨h.names.congr hoffer hsnap hoffered hlater, ?_⟩
  rw [hjob]
  exact h.fits.congr hphase hcode hfeed

lemma dismiss (h : Kept cfg s) : Kept cfg (dismiss cfg s) := by
  unfold Checker.dismiss
  by_cases hphase : s.snapshot.phase ≠ .result
  · refine h.frame ?_ ?_ rfl rfl rfl rfl <;> simp only [State.mutate, if_pos hphase]
  · have hnot : s.snapshot.phase ≠ .applying := by
      rw [not_not.1 hphase]
      decide
    simp only [State.mutate, if_neg hphase]
    split_ifs with hoffer
    · have hsound := h.names.sound (Nat.ne_of_gt (Nat.zero_lt_of_lt hoffer.1))
      exact ⟨.of_naming h.names.offered hsound hoffer.2 rfl rfl rfl hsound.version (by rintro ⟨⟩),
        h.fits.of_not_applying hnot (by rintro ⟨⟩) rfl⟩
    · exact ⟨.of_none h.names.offered h.names.sound rfl rfl rfl,
        h.fits.of_not_applying hnot (by rintro ⟨⟩) rfl⟩

lemma later (h : Kept cfg s) : Kept cfg (later s) := by
  unfold Checker.later
  split_ifs with hoffers
  · have hnot : s.snapshot.phase ≠ .applying := by
      intro hphase
      rw [offersLater, hphase] at hoffers
      simp at hoffers
    exact ⟨.of_none h.names.offered h.names.sound rfl rfl rfl,
      h.fits.of_not_applying hnot nofun rfl⟩
  · exact h.frame rfl rfl rfl rfl rfl rfl

lemma channelChanged (h : Kept cfg s) : Kept cfg (channelChanged cfg s) := by
  have hfits : ∀ snap : Snapshot, snap.phase ≠ .applying →
      Fits cfg { s with
        feedGeneration := s.feedGeneration + 1
        snapshot := snap } s.job := by
    intro snap hphase
    refine ⟨fun ha => absurd ha hphase, h.fits.sound, ?_, ?_, h.fits.asks, fun _ => hphase,
      h.fits.result⟩
    · exact fun click hclick => (h.fits.made click hclick).trans (Nat.le_succ _)
    · intro click hheld hfeed
      have hle := h.fits.made click (Job.click?_of_held? hheld)
      have hfeed : s.feedGeneration + 1 = click.generation := hfeed
      omega
  unfold Checker.channelChanged
  dsimp only
  by_cases hphase : s.snapshot.phase ≠ .result
  · rw [if_pos hphase]
    exact ⟨.of_none rfl (fun hne => absurd rfl hne) rfl rfl rfl, (hfits {} nofun).congr rfl rfl rfl⟩
  · rw [if_neg hphase]
    have hresult := not_not.1 hphase
    refine ⟨.of_result rfl (fun hne => absurd rfl hne) hresult (hiddenByLater_zero _), ?_⟩
    refine (hfits s.snapshot ?_).congr rfl rfl rfl
    rw [hresult]
    exact nofun

lemma checkNow (h : Kept cfg s) :
    Kept cfg { s with
      checkRequested := true
      laterCode := 0 } :=
  ⟨⟨h.names.offered, h.names.sound, hiddenByLater_zero _, h.names.names, h.names.path,
    h.names.none⟩, h.fits.congr rfl rfl rfl⟩

lemma ui (h : Kept cfg s) {act : UiAct} (hs : UiMoves cfg s act s') : Kept cfg s' := by
  cases hs with
  | dismissed hui => exact h.dismiss.frame rfl rfl rfl rfl rfl rfl
  | later hui => exact h.later
  | channelChanged hui => exact h.channelChanged
  | checkNow hui => exact h.checkNow
  | _ => exact h.frame rfl rfl rfl rfl rfl rfl

end Kept

/-! ### Runs -/

/-- Nothing has happened before the report of the last update is looked for. -/
def Fresh (s : State) : Prop := s.job = .start → s.snapshot.phase = .none ∧ s.laterCode = 0

lemma kept_init (h : Init cfg s) : Kept cfg s ∧ Fresh s := by
  obtain ⟨lastSuccessUnix, autoCheck, rfl⟩ := h
  exact ⟨⟨.of_none rfl (fun hne => absurd rfl hne) rfl rfl rfl, ⟨nofun, nofun, nofun, nofun, nofun,
    nofun, nofun⟩⟩, fun _ => ⟨rfl, rfl⟩⟩

lemma resume_ne_start (generation : ℕ) (caller : Caller) (checked : Bool) :
    resume generation caller checked ≠ .start := by
  cases caller with
  | reveal => cases checked <;> nofun
  | _ => nofun

lemma ne_start_of_locked {now nowUnix : ℤ} (h : lockedSection cfg s now nowUnix s.job = some s') :
    s'.job ≠ .start := by
  have hnone : (none : Option State) ≠ some s' := (Option.some_ne_none s').symm
  generalize s.job = job at h
  cases job <;> first | exact absurd h hnone | skip
  case check generation caller stage =>
    cases stage <;> first | exact absurd h hnone | obtain rfl := Option.some.inj h
    case failed | publish => exact resume_ne_start _ _ _
    all_goals rintro ⟨⟩
  all_goals obtain rfl := Option.some.inj h
  all_goals simp only [dispatch, claim, judge, stageFor, look, State.goto]
  all_goals repeat' split
  all_goals rintro ⟨⟩

lemma ne_start_of_outside {job job' : Job} {act : WorkerAct} (h : Outside cfg job act job') :
    job' ≠ .start := by
  cases h with
  | threw h =>
    unfold Job.onThrow at h
    split at h
    all_goals first | exact absurd h (Option.some_ne_none _).symm | obtain rfl := Option.some.inj h
    all_goals nofun
  | downloaded | hashed | rehashed | ended => split_ifs <;> nofun
  | _ => nofun

lemma fresh_step {a : Act} (h : Fresh s) (hs : Moves cfg s a s') : Fresh s' := by
  cases hs with
  | worker hfree hmoves =>
    cases hmoves with
    | locked hlocked => exact fun hjob => absurd hjob (ne_start_of_locked hlocked)
    | reported => exact nofun
    | outside houtside => exact fun hjob => absurd hjob (ne_start_of_outside houtside)
  | post => exact h
  | ui hfree hmoves =>
    cases hmoves with
    | dismissed hui =>
      intro hjob
      obtain ⟨hphase, hlater⟩ := h hjob
      have hnot : s.snapshot.phase ≠ .result := by
        rw [hphase]
        exact nofun
      simp only [dismiss, State.mutate, if_pos hnot]
      exact ⟨hphase, hlater⟩
    | later hui =>
      intro hjob
      have hstart : s.job = .start := by
        unfold later at hjob
        split_ifs at hjob <;> exact hjob
      have hoffers : offersLater s.snapshot = false := by simp [offersLater, (h hstart).1]
      simp only [later, hoffers]
      exact h hstart
    | channelChanged hui =>
      intro hjob
      have hphase : s.snapshot.phase ≠ .result := by
        rw [(h hjob).1]
        exact nofun
      simp only [channelChanged, State.mutate, if_pos hphase]
      exact ⟨trivial, trivial⟩
    | checkNow hui => exact fun hjob => ⟨(h hjob).1, rfl⟩
    | _ => exact h

/-- One step keeps the invariant, unless it writes over a banner that it does not look at. -/
lemma Kept.step (h : Kept cfg s) (hfresh : Fresh s) {a : Act} (hassumed : Assumed s a)
    (hshown : ¬ Ignores s a) (hs : Moves cfg s a s') : Kept cfg s' := by
  cases hs with
  | worker hfree hmoves =>
    cases hmoves with
    | @locked now nowUnix _ hlocked =>
      refine h.lockedSection hassumed (fun hjob => ?_) hlocked
      by_contra hphase
      exact hshown ⟨rfl, hjob, hphase⟩
    | reported hjob file seen restartedSince vpn =>
      exact h.reported hjob file seen restartedSince vpn (hfresh hjob).2
    | outside houtside => exact h.outside (fun he => hassumed.1 (he ▸ rfl)) houtside
  | ui hfree hmoves => exact h.ui hmoves
  | post hfind => exact h.frame rfl rfl rfl rfl rfl rfl

/-! ### The click that is worked on -/

/-- Since its gate let a click through on this code the worker has been inside of `RunApply`. -/
def InsideApply (es : List (Transition State Act)) (code : ℕ) : Prop :=
  ∃ pre e mid, es = pre ++ e :: mid ∧ (∃ generation manual, e.pre.job = .claim generation manual) ∧
    e.pre.snapshot.code = code ∧ ∀ e' ∈ e :: mid, ∃ click, e'.post.job.click? = some click

variable {es : List (Transition State Act)}

lemma InsideApply.snoc {code : ℕ} (h : InsideApply es code) {e : Transition State Act}
    (he : ∃ click, e.post.job.click? = some click) : InsideApply (es ++ [e]) code := by
  obtain ⟨pre, e₀, mid, rfl, hclaim, hcode, hmid⟩ := h
  refine ⟨pre, e₀, mid ++ [e], by simp, hclaim, hcode, ?_⟩
  intro e' hmem
  rw [← List.cons_append, List.mem_append, List.mem_singleton] at hmem
  rcases hmem with hmem | rfl
  · exact hmid e' hmem
  · exact he

lemma click_of_locked (h : Kept cfg s) {now nowUnix : ℤ} {click : Click}
    (hs : lockedSection cfg s now nowUnix s.job = some s') (hclick : s'.job.click? = some click) :
    (∃ click', s.job.click? = some click' ∧ click'.offer.code = click.offer.code) ∨
      ∃ generation manual, s.job = .claim generation manual ∧
        s.snapshot.code = click.offer.code := by
  have hnone : ∀ {p : Prop}, (none : Option Click) = some click → p := nofun
  have hsame : ∀ {click' : Click} {p : Prop}, some click' = some click →
      (∃ click₀, some click' = some click₀ ∧ click₀.offer.code = click.offer.code) ∨ p :=
    fun h => .inl ⟨_, rfl, congrArg (fun c => c.offer.code) (Option.some.inj h)⟩
  cases hjob : s.job <;> rw [hjob] at hs
  case judge click' checked =>
    cases hs
    simp only [Checker.judge] at hclick
    split at hclick
    next hstep =>
      obtain ⟨-, -, hholds, -⟩ := stepAfterCheck_proceed hstep
      simp only [Bool.and_eq_true, decide_eq_true_eq] at hholds
      cases hclick
      exact .inl ⟨click', rfl, (h.code_eq (by rw [hjob]; rfl) hholds.1).2.symm⟩
    all_goals first | exact hnone hclick | exact hsame hclick
  case claim generation manual =>
    cases hs
    simp only [Checker.claim, State.goto] at hclick
    split at hclick
    next => exact hnone hclick
    next =>
      split at hclick
      next => exact hnone hclick
      next hcode =>
        refine .inr ⟨generation, manual, rfl, ?_⟩
        split at hclick <;> obtain rfl := Option.some.inj hclick <;> exact not_not.1 hcode
  case check generation caller stage =>
    cases caller <;> cases stage
    all_goals first
      | exact absurd hs (Option.some_ne_none _).symm
      | obtain rfl := Option.some.inj hs
    all_goals first | exact hnone hclick | exact hsame hclick | skip
    simp only [State.goto, resume] at hclick
    split at hclick <;> exact hnone hclick
  all_goals first | exact absurd hs (Option.some_ne_none _).symm | obtain rfl := Option.some.inj hs
  all_goals simp only [Checker.dispatch, Checker.stageFor, look, State.goto] at hclick
  all_goals repeat' split at hclick
  all_goals first | exact hnone hclick | exact hsame hclick

lemma click_of_outside {job job' : Job} {act : WorkerAct} {click : Click} (hthrows : act ≠ .threw)
    (hs : Outside cfg job act job') (hclick : job'.click? = some click) :
    ∃ click', job.click? = some click' ∧ click'.offer.code = click.offer.code := by
  have hsame : ∀ {click' : Click}, some click' = some click →
      ∃ click₀, some click' = some click₀ ∧ click₀.offer.code = click.offer.code :=
    fun h => ⟨_, rfl, congrArg (fun c => c.offer.code) (Option.some.inj h)⟩
  cases hs with
  | threw => exact absurd rfl hthrows
  | fetched generation caller reply nowUnix =>
    cases caller <;> first | exact hsame hclick | exact absurd hclick (Option.some_ne_none _).symm
  | downloaded | hashed | ended => split_ifs at hclick <;> exact hsame hclick
  | refused | started => exact hsame hclick
  | rehashed => split_ifs at hclick <;> exact absurd hclick (Option.some_ne_none _).symm
  | revealed | revealedAgain => exact absurd hclick (Option.some_ne_none _).symm

lemma insideApply_step (h : Kept cfg s) {a : Act}
    (hinside : ∀ click, s.job.click? = some click → InsideApply es click.offer.code)
    (hassumed : Assumed s a) (hs : Moves cfg s a s') {click : Click}
    (hclick : s'.job.click? = some click) : InsideApply (es ++ [⟨s, a, s'⟩]) click.offer.code := by
  have hgo : (∃ click', s.job.click? = some click' ∧ click'.offer.code = click.offer.code) →
      InsideApply (es ++ [⟨s, a, s'⟩]) click.offer.code := by
    rintro ⟨click', hclick', hcode⟩
    rw [← hcode]
    exact (hinside click' hclick').snoc ⟨click, hclick⟩
  cases hs with
  | worker hfree hmoves =>
    cases hmoves with
    | locked hlocked =>
      rcases click_of_locked h hlocked hclick with hsame | ⟨generation, manual, hjob, hcode⟩
      · exact hgo hsame
      · refine ⟨es, _, [], rfl, ⟨generation, manual, hjob⟩, hcode, ?_⟩
        rintro e' hmem
        rw [List.mem_singleton.1 hmem]
        exact ⟨click, hclick⟩
    | reported => exact absurd hclick (Option.some_ne_none _).symm
    | outside houtside =>
      exact hgo (click_of_outside (fun he => hassumed.1 (he ▸ rfl)) houtside hclick)
  | ui hfree hmoves =>
    have hjob : s'.job = s.job := by
      cases hmoves with
      | later hui =>
        unfold later
        split_ifs <;> rfl
      | _ => rfl
    exact hgo ⟨click, hjob ▸ hclick, rfl⟩
  | post hfind => exact hgo ⟨click, hclick, rfl⟩

/-! ### While the installer is hashed -/

/-- The feed that `RunReveal` hashes the installer for. -/
def Job.hashing? : Job → Option ℕ
  | .rehash generation _ _ | .mismatch generation => some generation
  | _ => none

/-- While the installer is hashed the banner shows it, or closes. -/
def Looking (s : State) : Prop :=
  ∀ generation, s.job.hashing? = some generation → generation ≤ s.feedGeneration ∧
    (s.feedGeneration = generation →
      s.snapshot.phase = .manualInstall ∨ s.snapshot.phase = .none)

lemma looking_of_locked {now nowUnix : ℤ} (h : lockedSection cfg s now nowUnix s.job = some s') :
    Looking s' := by
  have hnone : ∀ {generation : ℕ} {p : Prop}, (none : Option ℕ) = some generation → p := nofun
  intro generation hhash
  cases hjob : s.job <;> rw [hjob] at h
  case look generation' asked =>
    cases h
    unfold look at hhash ⊢
    split_ifs at hhash ⊢ with hgone hstale
    · exact hnone hhash
    · exact hnone hhash
    · cases hhash
      simp only [not_or, not_not] at hgone
      exact ⟨hgone.2.2.1.ge, fun _ => .inl hgone.1⟩
  case check generation' caller stage =>
    cases caller <;> cases stage
    all_goals first | exact absurd h (Option.some_ne_none _).symm | obtain rfl := Option.some.inj h
    all_goals first | exact hnone hhash | skip
    simp only [State.goto, resume] at hhash
    split at hhash <;> exact hnone hhash
  all_goals first | exact absurd h (Option.some_ne_none _).symm | obtain rfl := Option.some.inj h
  all_goals simp only [dispatch, claim, judge, stageFor, State.goto] at hhash
  all_goals repeat' split at hhash
  all_goals exact hnone hhash

lemma hashing_of_outside {job job' : Job} {act : WorkerAct} {generation : ℕ}
    (h : Outside cfg job act job') (hhash : job'.hashing? = some generation) :
    job.hashing? = some generation := by
  have hnone : ∀ {p : Prop}, (none : Option ℕ) = some generation → p := nofun
  cases h with
  | rehashed generation' installer digest bytes =>
    split_ifs at hhash
    · exact hnone hhash
    · exact hhash
  | threw h =>
    unfold Job.onThrow at h
    split at h
    all_goals first | exact absurd h (Option.some_ne_none _).symm | obtain rfl := Option.some.inj h
    all_goals exact hnone hhash
  | downloaded | hashed | ended => split_ifs at hhash <;> exact hnone hhash
  | _ => exact hnone hhash

lemma looking_step {a : Act} (h : Looking s) (hs : Moves cfg s a s') : Looking s' := by
  cases hs with
  | worker hfree hmoves =>
    cases hmoves with
    | locked hlocked => exact looking_of_locked hlocked
    | reported => exact fun _ hhash => absurd hhash (Option.some_ne_none _).symm
    | outside houtside => exact fun _ hhash => h _ (hashing_of_outside houtside hhash)
  | post => exact h
  | ui hfree hmoves =>
    cases hmoves with
    | dismissed hui =>
      intro generation hhash
      obtain ⟨hle, hphase⟩ := h generation hhash
      refine ⟨hle, fun hfeed => ?_⟩
      have hnot : s.snapshot.phase ≠ .result := by
        rcases hphase hfeed with hp | hp <;> rw [hp] <;> nofun
      simp only [dismiss, State.mutate, if_pos hnot]
      exact hphase hfeed
    | later hui =>
      unfold later
      split_ifs
      · exact fun generation hhash => ⟨(h generation hhash).1, fun _ => .inr rfl⟩
      · exact h
    | channelChanged hui =>
      intro generation hhash
      obtain ⟨hle, -⟩ := h generation hhash
      refine ⟨hle.trans (Nat.le_succ _), fun hfeed => ?_⟩
      have hfeed : s.feedGeneration + 1 = generation := hfeed
      omega
    | _ => exact h

/-! ### What the banner names -/

/-- The banner names what it offers. -/
structure NamesOffer (cfg : Config) (es : List (Transition State Act)) (s : State) : Prop where
  offered : s.snapshot.offeredCode = s.offer.code
  names : s.snapshot.phase = .available ∨ s.snapshot.phase = .failed ∨
    s.snapshot.phase = .manualInstall →
    s.snapshot.code = s.offer.code ∧ s.snapshot.code ≠ 0 ∧ cfg.kCode < s.snapshot.code ∧
      hiddenByLater s.laterCode s.snapshot.code = false ∧ s.snapshot.version ≠ ""
  path : s.snapshot.phase = .manualInstall → s.snapshot.installerPath ≠ ""
  none : s.snapshot.phase = .none → s.snapshot.code = 0 ∧ s.snapshot.version = ""
  applying : s.snapshot.phase = .applying → InsideApply es s.snapshot.code

/-- What every run keeps. -/
structure Held (cfg : Config) (es : List (Transition State Act)) (s : State) : Prop where
  kept : Kept cfg s
  fresh : Fresh s
  looking : Looking s
  inside : ∀ click, s.job.click? = some click → InsideApply es click.offer.code

lemma held_init (h : Init cfg s) : Held cfg [] s := by
  obtain ⟨hkept, hfresh⟩ := kept_init h
  obtain ⟨lastSuccessUnix, autoCheck, rfl⟩ := h
  exact ⟨hkept, hfresh, fun _ hhash => absurd hhash (Option.some_ne_none _).symm,
    fun _ hclick => absurd hclick (Option.some_ne_none _).symm⟩

lemma Held.namesOffer (h : Held cfg es s) : NamesOffer cfg es s := by
  obtain ⟨⟨hnames, hfits⟩, -, -, hinside⟩ := h
  refine ⟨hnames.offered, fun hphase => ?_, hnames.path, hnames.none, fun hphase => ?_⟩
  · have hname : s.snapshot.phase.names = true := by
      rcases hphase with hp | hp | hp <;> rw [hp] <;> rfl
    obtain ⟨hcode, hpos, hversion⟩ := hnames.names hname
    refine ⟨hcode, hpos, ?_, hnames.shown, hversion⟩
    rw [hcode] at hpos ⊢
    exact (hnames.sound hpos).newer
  · obtain ⟨click, hclick, hcode, -⟩ := hfits.applying hphase
    rw [hcode]
    exact hinside click hclick

lemma Held.not_namesOffer (h : Held cfg es s) {a : Act} (hignores : Ignores s a)
    (hs : step cfg s a = some s') : ¬ NamesOffer cfg (es ++ [⟨s, a, s'⟩]) s' := by
  obtain ⟨hlocked, hjob, hphase⟩ := hignores
  obtain ⟨now, nowUnix, rfl⟩ : ∃ now nowUnix, a = .worker (.locked now nowUnix) := by
    unfold Act.isLocked at hlocked
    split at hlocked
    · exact ⟨_, _, rfl⟩
    · cases hlocked
  rintro ⟨-, hnames, -, -, -⟩
  have hnone : s.snapshot.phase = .none :=
    ((h.looking s.feedGeneration (by rw [hjob]; rfl)).2 rfl).resolve_left hphase
  have hcode := (h.kept.names.none hnone).1
  rw [step] at hs
  split_ifs at hs
  rw [workerStep, hjob] at hs
  cases hs
  rw [mutateFor_of_eq rfl] at hnames
  exact (hnames (.inr (.inl rfl))).2.1 hcode

/-- **The banner always names what it offers**, unless `RunReveal` writes over a banner that it
does not look at; and it never does then. -/
theorem banner_names_offer (cfg : Config) (es : List (Transition State Act)) (s : State)
    (h : Run (Init cfg)
      (fun _ s a s' => step cfg s a = some s' ∧ Assumed s a ∧ ¬ Ignores s a) es s) :
    NamesOffer cfg es s ∧ ∀ a s', step cfg s a = some s' → Assumed s a →
      (NamesOffer cfg (es ++ [⟨s, a, s'⟩]) s' ↔ ¬ Ignores s a) := by
  have hnext : ∀ {es : List (Transition State Act)} {s s' : State} {a : Act}, Held cfg es s →
      step cfg s a = some s' → Assumed s a → ¬ Ignores s a →
      Held cfg (es ++ [⟨s, a, s'⟩]) s' := by
    intro es s s' a hheld hs hassumed hshown
    have hmoves := moves_of_step hs
    exact ⟨hheld.kept.step hheld.fresh hassumed hshown hmoves, fresh_step hheld.fresh hmoves,
      looking_step hheld.looking hmoves,
      fun _ hclick => insideApply_step hheld.kept hheld.inside hassumed hmoves hclick⟩
  have hheld : Held cfg es s :=
    h.invariant (fun _ => held_init) fun _ _ _ _ hheld hs => hnext hheld hs.1 hs.2.1 hs.2.2
  refine ⟨hheld.namesOffer, fun a s' hs hassumed => ⟨?_, ?_⟩⟩
  · exact fun hnames hignores => hheld.not_namesOffer hignores hs hnames
  · exact fun hshown => (hnext hheld hs hassumed hshown).namesOffer

/-! ### Later, while the installer is hashed -/

/-- An apply on a copy that hands out the installer. -/
def showsInstaller : List Act :=
  [.worker (.locked 0 0), .worker (.locked 0 0), .post .worker, .worker (.locked 0 0),
    .worker (.locked 0 0), .post .worker, .worker (.downloaded none true), .worker (.locked 0 0),
    .post .worker, .worker (.hashed (some [])), .worker (.locked 0 0), .post .worker,
    .worker .revealed]

/-- The user looks at the installer again, presses Later, and the installer has been changed. -/
def presses : List Act :=
  starts ++ [.ui .checkNow] ++ checks [earlierRelease] 0 ++ [.ui .beginApply] ++ showsInstaller ++
    [.ui .revealInstaller, .worker (.locked 0 0), .worker (.locked 0 0), .ui .later, .post .ui,
      .worker (.hashed (some [0]))]

/-- The banner of a failed update names no release. -/
theorem banner_fails_without_release :
    ¬ ∀ (cfg : Config) (es : List (Transition State Act)) (s : State),
      Run (Init cfg) (fun _ s a s' => step cfg s a = some s' ∧ Assumed s a) es s →
      NamesOffer cfg es s := by
  intro h
  obtain ⟨es, s, hrun, hgood⟩ := exists_run false Assumed (presses ++ [.worker (.locked 0 0)])
    (fun s => s.snapshot.phase = .failed ∧ s.snapshot.code = 0) (by decide +kernel)
  obtain ⟨hphase, hcode⟩ := of_decide_eq_true hgood
  exact ((h _ es s hrun).names (.inr (.inl hphase))).2.1 hcode

/-- Up to that last section the banner names what it offers. -/
theorem banner_names_offer_until_ignored :
    ∃ es s s', Run (Init (copyOf false)) (fun _ s a s' =>
        step (copyOf false) s a = some s' ∧ Assumed s a ∧ ¬ Ignores s a) es s ∧
      NamesOffer (copyOf false) es s ∧
      ¬ NamesOffer (copyOf false) (es ++ [⟨s, .worker (.locked 0 0), s'⟩]) s' := by
  obtain ⟨es, s, hrun, hgood⟩ := exists_run false (fun s a => Assumed s a ∧ ¬ Ignores s a) presses
    (fun s => (step (copyOf false) s (.worker (.locked 0 0))).isSome ∧
      Assumed s (.worker (.locked 0 0)) ∧ Ignores s (.worker (.locked 0 0))) (by decide +kernel)
  obtain ⟨hnext, hassumed, hignores⟩ := of_decide_eq_true hgood
  obtain ⟨s', hs⟩ := Option.isSome_iff_exists.1 hnext
  obtain ⟨hnames, hexact⟩ := banner_names_offer (copyOf false) es s hrun
  exact ⟨es, s, s', hrun, hnames, fun hn => (hexact _ _ hs hassumed).1 hn hignores⟩

end UrnetworkWindows.Checker
