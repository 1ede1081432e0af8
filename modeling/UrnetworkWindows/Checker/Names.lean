/-
What the sections of the update checker keep of the banner.

The invariant is kept in two halves.  `Names` is what the snapshot, the offer and Later say of
each other, whatever the worker does.  `Fits` is what the worker's next job knows: that the banner
shows its release as being worked on, until the channel changes.  A section of the worker moves
both, and one of the user interface keeps the job.
-/
import UrnetworkWindows.Checker.Moves

namespace UrnetworkWindows.Checker

open Update

/-! ### What the worker is inside of -/

/-- The click of the apply that the worker is inside of, past its gate. -/
def Job.click? : Job → Option Click
  | .check _ (.apply click) _ => some click
  | .check _ (.helper click _) _ => some click
  | .judge click _ => some click
  | .noteReplaced click => some click
  | .close click => some click
  | .fail click _ => some click
  | .askHold click => some click
  | .begin click => some click
  | .download click => some click
  | .verify click => some click
  | .hash click => some click
  | .manualInstall click => some click
  | .reveal click => some click
  | .install click => some click
  | .launch click => some click
  | .launched click _ _ => some click
  | .await click _ => some click
  | .judgeReport click _ _ => some click
  | .report click _ => some click
  | _ => none

/-- The click of an apply that nothing has moved the banner away from, but for the channel. -/
def Job.held? : Job → Option Click
  | .check _ (.apply click) _ => some click
  | .fail click _ => some click
  | .askHold click => some click
  | .begin click => some click
  | .download click => some click
  | .verify click => some click
  | .hash click => some click
  | .manualInstall click => some click
  | .install click => some click
  | .launch click => some click
  | .launched click _ _ => some click
  | .await click _ => some click
  | _ => none

/-- What the banner will be told of the helper. -/
def Job.result? : Job → Option Result
  | .check _ (.helper _ result) _ => some result
  | .judgeReport _ result _ => some result
  | .report _ result => some result
  | _ => none

/-- The apply has moved the banner on. -/
def Job.left : Job → Bool
  | .noteReplaced _ | .reveal _ => true
  | _ => false

/-- The phases that name the offered release. -/
def Phase.names : Phase → Bool
  | .available | .failed | .manualInstall | .applying => true
  | _ => false

lemma Job.click?_of_held? {job : Job} {click : Click} (h : job.held? = some click) :
    job.click? = some click := by
  unfold held? at h
  split at h <;> first | exact h | exact absurd h (Option.some_ne_none _).symm

lemma Job.click?_of_result? {job : Job} {result : Result} (h : job.result? = some result) :
    ∃ click, job.click? = some click := by
  unfold result? at h
  split at h <;> first | exact ⟨_, rfl⟩ | exact absurd h (Option.some_ne_none _).symm

section Invariant

variable (cfg : Config) (s : State)

/-- What the snapshot, the offer and Later say of each other. -/
structure Names : Prop where
  offered : s.snapshot.offeredCode = s.offer.code
  sound : s.offer.code ≠ 0 → Sound cfg s.offer
  shown : hiddenByLater s.laterCode s.snapshot.code = false
  names : s.snapshot.phase.names = true →
    s.snapshot.code = s.offer.code ∧ s.snapshot.code ≠ 0 ∧ s.snapshot.version ≠ ""
  path : s.snapshot.phase = .manualInstall → s.snapshot.installerPath ≠ ""
  none : s.snapshot.phase = .none → s.snapshot.code = 0 ∧ s.snapshot.version = ""

/-- What the worker's next job knows. -/
structure Fits (job : Job) : Prop where
  applying : s.snapshot.phase = .applying → ∃ click, job.click? = some click ∧
    s.snapshot.code = click.offer.code ∧ s.feedGeneration = click.generation
  sound : ∀ click, job.click? = some click → Sound cfg click.offer
  made : ∀ click, job.click? = some click → click.generation ≤ s.feedGeneration
  held : ∀ click, job.held? = some click → s.feedGeneration = click.generation →
    s.snapshot.phase = .applying
  asks : ∀ generation click stage, job = .check generation (.apply click) stage →
    generation = click.generation
  left : job.left = true → s.snapshot.phase ≠ .applying
  result : ∀ result, job.result? = some result → result.view ≠ .hidden

/-- The invariant. -/
structure Kept : Prop where
  names : Names cfg s
  fits : Fits cfg s s.job

end Invariant

variable {cfg : Config} {s s' : State}

/-! ### The banner's half -/

namespace Names

lemma congr (h : Names cfg s) (hoffer : s'.offer = s.offer)
    (hbanner : s'.snapshot.banner = s.snapshot.banner)
    (hoffered : s'.snapshot.offeredCode = s.snapshot.offeredCode)
    (hlater : s'.laterCode = s.laterCode) : Names cfg s' := by
  obtain ⟨hphase, hcode, hversion, hpath⟩ := Banner.mk.inj hbanner
  constructor
  · rw [hoffered, hoffer]
    exact h.offered
  · rw [hoffer]
    exact h.sound
  · rw [hlater, hcode]
    exact h.shown
  · rw [hphase, hcode, hversion, hoffer]
    exact h.names
  · rw [hphase, hpath]
    exact h.path
  · rw [hphase, hcode, hversion]
    exact h.none

lemma rename (h : Names cfg s) (hphase : s.snapshot.phase.names = true)
    (hphase' : s'.snapshot.phase.names = true) (hoffer : s'.offer = s.offer)
    (hcode : s'.snapshot.code = s.snapshot.code) (hversion : s'.snapshot.version ≠ "")
    (hpath : s'.snapshot.phase = .manualInstall → s'.snapshot.installerPath ≠ "")
    (hoffered : s'.snapshot.offeredCode = s.snapshot.offeredCode)
    (hlater : s'.laterCode = s.laterCode) : Names cfg s' := by
  obtain ⟨hcode', hpos, -⟩ := h.names hphase
  refine ⟨?_, ?_, ?_, fun _ => ⟨?_, ?_, hversion⟩, hpath, fun hnone => ?_⟩
  · rw [hoffered, hoffer]
    exact h.offered
  · rw [hoffer]
    exact h.sound
  · rw [hlater, hcode]
    exact h.shown
  · rw [hcode, hoffer]
    exact hcode'
  · rw [hcode]
    exact hpos
  · rw [hnone] at hphase'
    cases hphase'

lemma reoffer (h : Names cfg s) (hbanner : s'.snapshot.banner = s.snapshot.banner)
    (hoffered : s'.snapshot.offeredCode = s'.offer.code)
    (hsound : s'.offer.code ≠ 0 → Sound cfg s'.offer)
    (hnames : s.snapshot.phase.names = true → s.snapshot.code = s'.offer.code)
    (hlater : s'.laterCode = s.laterCode) : Names cfg s' := by
  obtain ⟨hphase, hcode, hversion, hpath⟩ := Banner.mk.inj hbanner
  refine ⟨hoffered, hsound, ?_, ?_, ?_, ?_⟩
  · rw [hlater, hcode]
    exact h.shown
  · rw [hphase, hcode, hversion]
    exact fun hname => ⟨hnames hname, (h.names hname).2⟩
  · rw [hphase, hpath]
    exact h.path
  · rw [hphase, hcode, hversion]
    exact h.none

lemma of_none (hoffered : s'.snapshot.offeredCode = s'.offer.code)
    (hsound : s'.offer.code ≠ 0 → Sound cfg s'.offer) (hphase : s'.snapshot.phase = .none)
    (hcode : s'.snapshot.code = 0) (hversion : s'.snapshot.version = "") : Names cfg s' := by
  refine ⟨hoffered, hsound, ?_, ?_, ?_, fun _ => ⟨hcode, hversion⟩⟩
  · rw [hcode]
    simp only [hiddenByLater, decide_eq_false_iff_not]
    rintro ⟨hne, hzero⟩
    exact hne hzero.symm
  · rw [hphase]
    rintro ⟨⟩
  · rw [hphase]
    rintro ⟨⟩

lemma of_naming {phase : Phase} (hoffered : s'.snapshot.offeredCode = s'.offer.code)
    (hsound : Sound cfg s'.offer) (hshown : hiddenByLater s'.laterCode s'.offer.code = false)
    (hphase : s'.snapshot.phase = phase) (hnames : phase.names = true)
    (hcode : s'.snapshot.code = s'.offer.code) (hversion : s'.snapshot.version ≠ "")
    (hpath : phase = .manualInstall → s'.snapshot.installerPath ≠ "") : Names cfg s' := by
  refine ⟨hoffered, fun _ => hsound, ?_, fun _ => ⟨hcode, ?_, hversion⟩, ?_, fun hnone => ?_⟩
  · rw [hcode]
    exact hshown
  · rw [hcode]
    exact hsound.code_ne_zero
  · rw [hphase]
    exact hpath
  · rw [hphase] at hnone
    rw [hnone] at hnames
    cases hnames

lemma of_result (hoffered : s'.snapshot.offeredCode = s'.offer.code)
    (hsound : s'.offer.code ≠ 0 → Sound cfg s'.offer) (hphase : s'.snapshot.phase = .result)
    (hshown : hiddenByLater s'.laterCode s'.snapshot.code = false) : Names cfg s' := by
  refine ⟨hoffered, hsound, hshown, ?_, ?_, ?_⟩ <;> rw [hphase] <;> exact nofun

end Names

/-! ### The worker's half -/

namespace Fits

lemma outside {job : Job} (hphase : s.snapshot.phase ≠ .applying) (hclick : job.click? = none) :
    Fits cfg s job := by
  refine ⟨fun h => absurd h hphase, ?_, ?_, ?_, ?_, ?_, ?_⟩
  · rw [hclick]
    exact nofun
  · rw [hclick]
    exact nofun
  · intro click hheld
    rw [Job.click?_of_held? hheld] at hclick
    exact absurd hclick (Option.some_ne_none _)
  · rintro generation click stage rfl
    exact absurd hclick (Option.some_ne_none _)
  · exact fun _ => hphase
  · intro result hresult
    obtain ⟨click, hsome⟩ := Job.click?_of_result? hresult
    rw [hsome] at hclick
    exact absurd hclick (Option.some_ne_none _)

lemma congr {job : Job} (h : Fits cfg s job) (hphase : s'.snapshot.phase = s.snapshot.phase)
    (hcode : s'.snapshot.code = s.snapshot.code)
    (hfeed : s'.feedGeneration = s.feedGeneration) : Fits cfg s' job := by
  refine ⟨?_, h.sound, ?_, ?_, h.asks, ?_, h.result⟩
  · rw [hphase, hcode, hfeed]
    exact h.applying
  · rw [hfeed]
    exact h.made
  · rw [hphase, hfeed]
    exact h.held
  · rw [hphase]
    exact h.left

lemma of_not_applying {job : Job} (h : Fits cfg s job) (hphase : s.snapshot.phase ≠ .applying)
    (hphase' : s'.snapshot.phase ≠ .applying) (hfeed : s'.feedGeneration = s.feedGeneration) :
    Fits cfg s' job := by
  refine ⟨fun ha => absurd ha hphase', h.sound, ?_, ?_, h.asks, fun _ => hphase', h.result⟩
  · rw [hfeed]
    exact h.made
  · intro click hheld hgen
    rw [hfeed] at hgen
    exact absurd (h.held click hheld hgen) hphase

lemma next {job job' : Job} (h : Fits cfg s job) (hclick : job'.click? = job.click?)
    (hheld : ∀ click, job'.held? = some click → job.held? = some click)
    (hasks : ∀ generation click stage, job' = .check generation (.apply click) stage →
      generation = click.generation)
    (hleft : job'.left = true → s.snapshot.phase ≠ .applying)
    (hresult : ∀ result, job'.result? = some result → result.view ≠ .hidden) :
    Fits cfg s job' := by
  refine ⟨?_, ?_, ?_, fun click hc => h.held click (hheld click hc), hasks, hleft, hresult⟩
  · rw [hclick]
    exact h.applying
  · rw [hclick]
    exact h.sound
  · rw [hclick]
    exact h.made

lemma next_inert {job job' : Job} (h : Fits cfg s job) (hclick : job'.click? = job.click?)
    (hheld : ∀ click, job'.held? = some click → job.held? = some click)
    (hasks : ∀ generation click stage, job' ≠ .check generation (.apply click) stage)
    (hleft : job'.left = false) (hresult : job'.result? = none) : Fits cfg s job' := by
  refine h.next hclick hheld (fun g click stage he => absurd he (hasks g click stage)) ?_ ?_
  · intro hl
    exact absurd (hl.symm.trans hleft) Bool.false_ne_true.symm
  · intro result hr
    exact absurd (hr.symm.trans hresult) (Option.some_ne_none result)

lemma applies {job : Job} {click : Click} (hclick : job.click? = some click)
    (hphase : s.snapshot.phase = .applying) (hcode : s.snapshot.code = click.offer.code)
    (hfeed : s.feedGeneration = click.generation) (hsound : Sound cfg click.offer)
    (hasks : ∀ generation click stage, job = .check generation (.apply click) stage →
      generation = click.generation)
    (hleft : job.left = false) (hresult : job.result? = none) :
    Fits cfg s job := by
  refine ⟨fun _ => ⟨click, hclick, hcode, hfeed⟩, ?_, ?_, fun _ _ _ => hphase, hasks, ?_, ?_⟩
  · intro click' hclick'
    rw [hclick] at hclick'
    cases hclick'
    exact hsound
  · intro click' hclick'
    rw [hclick] at hclick'
    cases hclick'
    exact hfeed.ge
  · rw [hleft]
    exact nofun
  · rw [hresult]
    exact fun _ h => absurd h (Option.some_ne_none _).symm

lemma restage {generation : ℕ} {caller : Caller} {stage stage' : CheckStage}
    (h : Fits cfg s (.check generation caller stage)) :
    Fits cfg s (.check generation caller stage') := by
  refine h.next ?_ ?_ ?_ nofun ?_
  · cases caller <;> rfl
  · cases caller <;> exact fun _ hheld => hheld
  · rintro _ click _ ⟨⟩
    exact h.asks _ click _ rfl
  · cases caller <;> exact h.result

lemma held?_resume (generation : ℕ) (caller : Caller) (checked : Bool) :
    (Checker.resume generation caller checked).held? = none := by
  cases caller with
  | reveal => cases checked <;> rfl
  | _ => rfl

lemma not_held {generation : ℕ} {caller : Caller} {checked : Bool} {click : Click} {p : Prop}
    (h : (Checker.resume generation caller checked).held? = some click) : p := by
  rw [held?_resume] at h
  exact absurd h (Option.some_ne_none _).symm

lemma resume {generation : ℕ} {caller : Caller} {stage : CheckStage} {checked : Bool}
    (h : Fits cfg s (.check generation caller stage)) :
    Fits cfg s (resume generation caller checked) := by
  have hnone : (Job.check generation caller stage).click? = none →
      s.snapshot.phase ≠ .applying := by
    intro hclick hphase
    obtain ⟨click, hsome, -⟩ := h.applying hphase
    rw [hclick] at hsome
    exact absurd hsome (Option.some_ne_none _).symm
  cases caller with
  | loop => exact .outside (hnone rfl) rfl
  | apply click | helper click result =>
    exact h.next rfl (fun _ hheld => not_held hheld) nofun nofun h.result
  | reveal =>
    cases checked with
    | true | false => exact .outside (hnone rfl) rfl

lemma resume_away {generation : ℕ} {caller : Caller} {stage : CheckStage} {checked : Bool}
    (h : Fits cfg s (.check generation caller stage)) (hphase : s'.snapshot.phase ≠ .applying)
    (hfeed : s'.feedGeneration = s.feedGeneration) :
    Fits cfg s' (Checker.resume generation caller checked) := by
  cases caller with
  | loop => exact .outside hphase rfl
  | apply click | helper click result =>
    exact ⟨fun ha => absurd ha hphase, h.sound, hfeed ▸ h.made, fun _ hheld => not_held hheld,
      nofun, nofun, h.result⟩
  | reveal =>
    cases checked with
    | true | false => exact .outside hphase rfl

lemma away {job job' : Job} (h : Fits cfg s job) (hclick : job'.click? = job.click?)
    (hheld : job'.held? = none) (hphase : s'.snapshot.phase ≠ .applying)
    (hfeed : s'.feedGeneration = s.feedGeneration) (hresult : job'.result? = none)
    (hasks : ∀ generation click stage, job' ≠ .check generation (.apply click) stage) :
    Fits cfg s' job' := by
  refine ⟨fun ha => absurd ha hphase, ?_, ?_, ?_, fun _ _ _ he => absurd he (hasks _ _ _),
    fun _ => hphase, ?_⟩
  · rw [hclick]
    exact h.sound
  · rw [hclick, hfeed]
    exact h.made
  · rw [hheld]
    exact fun _ he => absurd he (Option.some_ne_none _).symm
  · rw [hresult]
    exact fun _ he => absurd he (Option.some_ne_none _).symm

end Fits

/-! ### The sections -/

namespace Kept

lemma of_goto {job : Job} (hnames : Names cfg (s.goto job)) (hfits : Fits cfg (s.goto job) job) :
    Kept cfg (s.goto job) :=
  ⟨hnames, hfits⟩

lemma not_applying (h : Kept cfg s) (hclick : s.job.click? = none) :
    s.snapshot.phase ≠ .applying := by
  intro hphase
  obtain ⟨click, hsome, -⟩ := h.fits.applying hphase
  rw [hclick] at hsome
  exact absurd hsome (Option.some_ne_none _).symm

lemma goto {job : Job} (h : Kept cfg s) (hfits : Fits cfg s job) : Kept cfg (s.goto job) :=
  ⟨h.names.congr rfl rfl rfl rfl, hfits.congr rfl rfl rfl⟩

lemma goto_outside {job : Job} (h : Kept cfg s) (hphase : s.snapshot.phase ≠ .applying)
    (hclick : job.click? = none) : Kept cfg (s.goto job) :=
  h.goto (.outside hphase hclick)

lemma mutateFor {generation : ℕ} {fn : Snapshot → Snapshot} {job : Job} (h : Kept cfg s)
    (hbanner : (fn s.snapshot).banner = s.snapshot.banner)
    (hoffered : (fn s.snapshot).offeredCode = s.snapshot.offeredCode) (hfits : Fits cfg s job) :
    Kept cfg ((s.mutateFor generation fn).goto job) := by
  rcases mutateFor_cases s generation fn with ⟨-, heq⟩ | ⟨-, heq⟩ <;> rw [heq]
  · exact h.goto hfits
  · obtain ⟨hphase, hcode, -, -⟩ := Banner.mk.inj hbanner
    exact ⟨h.names.congr rfl hbanner hoffered rfl, hfits.congr hphase hcode rfl⟩

lemma dispatch (h : Kept cfg s) {back : Back} (hjob : s.job = .loop back) (now : ℤ) :
    Kept cfg (dispatch cfg s back now) := by
  have hphase := h.not_applying (by rw [hjob]; rfl)
  unfold Checker.dispatch
  dsimp only
  split_ifs <;> exact ⟨h.names.congr rfl rfl rfl rfl, .outside hphase rfl⟩

lemma claim (h : Kept cfg s) {generation : ℕ} {manual : Bool}
    (hjob : s.job = .claim generation manual) (now : ℤ) :
    Kept cfg (claim s generation manual now) := by
  have hphase := h.not_applying (by rw [hjob]; rfl)
  unfold Checker.claim
  split_ifs with hgate hcode
  · exact h.goto_outside hphase rfl
  · exact h.goto_outside hphase rfl
  · simp only [Bool.or_eq_true, Bool.not_eq_true', decide_eq_true_eq, not_or] at hgate
    obtain ⟨⟨-, hoffer⟩, hgen⟩ := hgate
    have hsound := h.names.sound hoffer
    have hshown := h.names.shown
    rw [not_not.1 hcode] at hshown
    dsimp only
    refine of_goto (.of_naming h.names.offered hsound hshown rfl rfl rfl hsound.version nofun) ?_
    cases s.offerIsStale now with
    | true =>
      refine .applies rfl rfl rfl (not_not.1 hgen) hsound ?_ rfl rfl
      rintro generation click stage ⟨⟩
      rfl
    | false => exact .applies rfl rfl rfl (not_not.1 hgen) hsound nofun rfl rfl

lemma publish (h : Kept cfg s) {generation : ℕ} {caller : Caller}
    {succeeded serverUnixSeconds : ℤ} {releases : List Release}
    (hjob : s.job = .check generation caller (.publish succeeded serverUnixSeconds releases))
    (checked : Bool) (now : ℤ) :
    Kept cfg ((publishCheck cfg s generation succeeded serverUnixSeconds releases now).goto
      (resume generation caller checked)) := by
  have hfits := h.fits
  rw [hjob] at hfits
  have hleaves := publishCheck_leaves cfg s generation succeeded serverUnixSeconds releases now
  have hcases := publishCheck_cases cfg s generation succeeded serverUnixSeconds releases now
  generalize publishCheck cfg s generation succeeded serverUnixSeconds releases now = s' at *
  -- a banner that stays is known as before, and one that goes is not held
  have hstays : s'.snapshot.banner = s.snapshot.banner → Names cfg s' →
      Kept cfg (s'.goto (resume generation caller checked)) := by
    intro hbanner hnames
    obtain ⟨hphase, hcode, -, -⟩ := Banner.mk.inj hbanner
    exact of_goto (hnames.congr rfl rfl rfl rfl)
      (hfits.resume.congr hphase hcode hleaves.feedGeneration)
  have hgoes : s'.snapshot.phase ≠ .applying → Names cfg s' →
      Kept cfg (s'.goto (resume generation caller checked)) :=
    fun hphase hnames => of_goto (hnames.congr rfl rfl rfl rfl)
      (hfits.resume_away hphase hleaves.feedGeneration)
  cases hcases with
  | dropped hfeed hoffer hbanner hoffered =>
    exact hstays hbanner (h.names.congr hoffer hbanner hoffered hleaves.laterCode)
  | dev hfeed hdev hoffer hbanner hoffered =>
    rw [hoffer, ← h.names.offered] at hoffered
    exact hstays hbanner (h.names.congr hoffer hbanner hoffered hleaves.laterCode)
  | offers hfeed hsound hbanner hoffered =>
    unfold bannerOfOffer at hbanner
    split_ifs at hbanner with hhidden hother hnew
    · obtain ⟨hphase, hcode, hversion, -⟩ := Banner.mk.inj hbanner
      refine hgoes ?_ (.of_none hoffered (fun _ => hsound) hphase hcode hversion)
      rw [hphase]
      exact nofun
    · refine hstays hbanner
        (h.names.reoffer hbanner hoffered (fun _ => hsound) ?_ hleaves.laterCode)
      intro hname
      -- the banner names what Later hides, which it does not
      obtain ⟨-, hpos, -⟩ := h.names.names hname
      by_contra hne
      refine hother ⟨?_, hpos, hne⟩
      intro hresult
      rw [hresult] at hname
      cases hname
    · obtain ⟨hphase, hcode, hversion, -⟩ := Banner.mk.inj hbanner
      refine hgoes ?_ (.of_naming hoffered hsound ?_ hphase rfl hcode ?_ nofun)
      · rw [hphase]
        exact nofun
      · rw [hleaves.laterCode]
        exact eq_false_of_ne_true hhidden
      · rw [hversion]
        exact hsound.version
    · refine hstays hbanner
        (h.names.reoffer hbanner hoffered (fun _ => hsound) ?_ hleaves.laterCode)
      intro _
      by_contra hne
      exact hnew (.inr hne)
  | none hfeed hoffer hbanner hoffered =>
    have hzero : s'.offer.code ≠ 0 → Sound cfg s'.offer := by
      rw [hoffer]
      exact fun hne => absurd rfl hne
    unfold bannerOfNone at hbanner
    split_ifs at hbanner with hshown
    · obtain ⟨hphase, hcode, hversion, -⟩ := Banner.mk.inj hbanner
      refine hgoes ?_ (.of_none hoffered hzero hphase hcode hversion)
      rw [hphase]
      exact nofun
    · refine hstays hbanner (h.names.reoffer hbanner hoffered hzero ?_ hleaves.laterCode)
      intro hname
      refine absurd ⟨?_, ?_⟩ hshown <;> intro hphase <;> rw [hphase] at hname <;>
        cases hname

lemma checkSection (h : Kept cfg s) {generation : ℕ} {caller : Caller} {stage : CheckStage}
    (hjob : s.job = .check generation caller stage) (now nowUnix : ℤ)
    (hs : checkSection cfg s generation caller now nowUnix stage = some s') : Kept cfg s' := by
  have hfits := h.fits
  rw [hjob] at hfits
  cases stage with
  | begin =>
    cases hs
    exact h.goto hfits.restage
  | ask =>
    cases hs
    exact h.mutateFor rfl rfl hfits.restage
  | fetch => cases hs
  | refused wait =>
    cases hs
    exact ⟨h.names.congr rfl rfl rfl rfl, hfits.restage.congr rfl rfl rfl⟩
  | failed =>
    cases hs
    exact h.mutateFor rfl rfl hfits.resume
  | publish succeeded serverUnixSeconds releases =>
    cases hs
    exact h.publish hjob _ now

lemma not_applying_of_ne (h : Kept cfg s) {click : Click} (hclick : s.job.click? = some click)
    (hfeed : s.feedGeneration ≠ click.generation) : s.snapshot.phase ≠ .applying := by
  intro hphase
  obtain ⟨click', hsome, -, hgen⟩ := h.fits.applying hphase
  rw [hclick] at hsome
  cases hsome
  exact hfeed hgen

lemma code_eq (h : Kept cfg s) {click : Click} (hclick : s.job.click? = some click)
    (hphase : s.snapshot.phase = .applying) :
    s.snapshot.code = click.offer.code ∧ s.offer.code = click.offer.code := by
  obtain ⟨click', hsome, hcode, -⟩ := h.fits.applying hphase
  rw [hclick] at hsome
  cases hsome
  obtain ⟨hoffer, -⟩ := h.names.names (by rw [hphase]; rfl)
  exact ⟨hcode, hoffer ▸ hcode⟩

lemma not_applying_of_replaced (h : Kept cfg s) {click : Click} {checked viaHelper : Bool}
    (hclick : s.job.click? = some click) (hstep : clickStep s click checked viaHelper = .replaced) :
    s.snapshot.phase ≠ .applying := by
  intro hphase
  obtain ⟨-, -, hother⟩ := stepAfterCheck_replaced hstep
  exact hother (h.code_eq hclick hphase).2

lemma judge (h : Kept cfg s) {click : Click} {checked : Bool}
    (hjob : s.job = .judge click checked) : Kept cfg (judge cfg s click checked) := by
  have hfits := h.fits
  have hclick : s.job.click? = some click := by rw [hjob]; rfl
  rw [hjob] at hfits
  suffices hnext : Fits cfg s (Checker.judge cfg s click checked).job from
    ⟨h.names.congr rfl rfl rfl rfl, hnext.congr rfl rfl rfl⟩
  unfold Checker.judge
  dsimp only
  cases hstep : clickStep s click checked (cfg.viaHelper click) with
  | proceed =>
    obtain ⟨hfeed, -, hholds, -⟩ := stepAfterCheck_proceed hstep
    simp only [Bool.and_eq_true, decide_eq_true_eq] at hfeed hholds
    obtain ⟨hcode, hpos, -⟩ := h.names.names (by rw [hholds.1]; rfl)
    exact .applies rfl hholds.1 hcode hfeed (h.names.sound (hcode ▸ hpos)) nofun rfl rfl
  | replaced =>
    exact hfits.next rfl (fun _ he => absurd he (by simp [Job.held?])) nofun
      (fun _ => h.not_applying_of_replaced hclick hstep) nofun
  | withdrawn =>
    refine .outside (fun hphase => ?_) rfl
    obtain ⟨hcode, hpos, -⟩ := h.names.names (by rw [hphase]; rfl)
    exact hpos (hcode.trans (stepAfterCheck_withdrawn hstep))
  | unconfirmed =>
    have hholds := stepAfterCheck_unconfirmed hstep
    simp only [Bool.and_eq_true, decide_eq_true_eq] at hholds
    obtain ⟨click', hsome, -, hfeed⟩ := h.fits.applying hholds.1
    rw [hclick] at hsome
    cases hsome
    exact .applies rfl hholds.1 hholds.2 hfeed (hfits.sound click rfl) nofun rfl rfl
  | dropped =>
    exact hfits.next rfl (fun _ he => absurd he (by simp [Job.held?])) nofun nofun nofun

lemma noteReplaced (h : Kept cfg s) {click : Click} (hjob : s.job = .noteReplaced click)
    (replaced : String) :
    Kept cfg ((noteReplaced s click.generation replaced).goto (.loop .job)) := by
  have hfits := h.fits
  rw [hjob] at hfits
  refine h.mutateFor ?_ ?_ (.outside (hfits.left rfl) rfl) <;> split_ifs <;> rfl

lemma close (h : Kept cfg s) {click : Click} (hjob : s.job = .close click) :
    Kept cfg ((s.mutateFor click.generation fun snap => snap.dropped click.offer.code).goto
      (.loop .job)) := by
  have hclick : s.job.click? = some click := by rw [hjob]; rfl
  rcases mutateFor_cases s click.generation fun snap => snap.dropped click.offer.code with
    ⟨hne, heq⟩ | ⟨-, heq⟩ <;> rw [heq]
  · exact h.goto_outside (h.not_applying_of_ne hclick hne) rfl
  · by_cases hphase : s.snapshot.phase = .applying
    · have hdropped : s.snapshot.dropped click.offer.code =
          { s.snapshot with phase := .none, stage := .idle, version := "", code := 0 } :=
        if_neg (by simp [hphase, (h.code_eq hclick hphase).1])
      refine of_goto (.of_none ?_ h.names.sound ?_ ?_ ?_) (.outside ?_ rfl) <;>
        simp only [State.goto, State.mutate, hdropped]
      · exact h.names.offered
      · exact nofun
    · have hdropped : s.snapshot.dropped click.offer.code = s.snapshot := if_pos (.inl hphase)
      refine of_goto (h.names.congr rfl ?_ ?_ rfl) (.outside ?_ rfl) <;>
        simp only [State.goto, State.mutate, hdropped]
      exact hphase

lemma fail (h : Kept cfg s) {click : Click} {failure : Failure}
    (hjob : s.job = .fail click failure) :
    Kept cfg ((s.mutateFor click.generation fun snap => snap.failedFor failure).goto
      (.loop .job)) := by
  rcases mutateFor_cases s click.generation fun snap => snap.failedFor failure with
    ⟨hne, heq⟩ | ⟨hgen, heq⟩ <;> rw [heq]
  · exact h.goto_outside (h.not_applying_of_ne (by rw [hjob]; rfl) hne) rfl
  · have hphase := h.fits.held click (by rw [hjob]; rfl) hgen
    have hnames : s.snapshot.phase.names = true := by rw [hphase]; rfl
    exact of_goto (h.names.rename hnames rfl rfl rfl (h.names.names hnames).2.2 nofun rfl rfl)
      (.outside nofun rfl)

lemma begin (h : Kept cfg s) {click : Click} (hjob : s.job = .begin click) :
    Kept cfg ((s.mutateFor click.generation fun snap => snap.downloading click.offer).goto
      (.download click)) := by
  have hfits := h.fits
  have hclick : s.job.click? = some click := by rw [hjob]; rfl
  rw [hjob] at hfits
  have hsound := hfits.sound click rfl
  rcases mutateFor_cases s click.generation fun snap => snap.downloading click.offer with
    ⟨-, heq⟩ | ⟨hgen, heq⟩ <;> rw [heq]
  · exact h.goto (hfits.next rfl (fun _ he => he) nofun nofun nofun)
  · have hphase := hfits.held click rfl hgen
    have hnames : s.snapshot.phase.names = true := by rw [hphase]; rfl
    exact of_goto (h.names.rename hnames rfl rfl (h.code_eq hclick hphase).1.symm hsound.version
      nofun rfl rfl) (.applies rfl rfl rfl hgen hsound nofun rfl rfl)

lemma stageFor (h : Kept cfg s) {click : Click} {fn : Snapshot → Snapshot} {job : Job}
    (hclick : s.job.click? = some click) (hbanner : (fn s.snapshot).banner = s.snapshot.banner)
    (hoffered : (fn s.snapshot).offeredCode = s.snapshot.offeredCode) (hfits : Fits cfg s job) :
    Kept cfg (stageFor s click fn job) := by
  unfold Checker.stageFor
  by_cases hfeed : s.feedGeneration = click.generation
  · rw [if_pos hfeed]
    exact h.mutateFor hbanner hoffered hfits
  · rw [if_neg hfeed, mutateFor_of_ne hfeed]
    exact h.goto_outside (h.not_applying_of_ne hclick hfeed) rfl

lemma manualInstall (h : Kept cfg s) {click : Click} (hjob : s.job = .manualInstall click) :
    Kept cfg (Checker.stageFor s click (fun snap =>
      { snap with
        phase := .manualInstall
        stage := .idle
        installerPath := cfg.msiPath click.offer }) (.reveal click)) := by
  have hfits := h.fits
  rw [hjob] at hfits
  unfold Checker.stageFor
  by_cases hfeed : s.feedGeneration = click.generation
  · rw [if_pos hfeed, mutateFor_of_eq hfeed]
    have hphase := hfits.held click rfl hfeed
    have hnames : s.snapshot.phase.names = true := by rw [hphase]; rfl
    refine of_goto (h.names.rename hnames rfl rfl rfl (h.names.names hnames).2.2 ?_ rfl rfl)
      (hfits.away rfl rfl nofun rfl rfl nofun)
    intro _
    show cfg.msiPath click.offer ≠ ""
    simp [Config.msiPath]
  · rw [if_neg hfeed, mutateFor_of_ne hfeed]
    exact h.goto_outside (h.not_applying_of_ne (by rw [hjob]; rfl) hfeed) rfl

lemma report (h : Kept cfg s) {click : Click} {result : Result}
    (hjob : s.job = .report click result) :
    Kept cfg ((reportResult s result).goto (.loop .job)) := by
  have hview : result.view ≠ .hidden := h.fits.result result (by rw [hjob]; rfl)
  unfold reportResult
  dsimp only
  simp only [if_neg hview]
  exact of_goto (.of_result rfl h.names.sound rfl h.names.shown) (.outside nofun rfl)

lemma unconfirmed (h : Kept cfg s) {generation : ℕ} (hjob : s.job = .unconfirmed generation) :
    Kept cfg ((s.mutateFor generation fun snap =>
      if snap.phase ≠ .manualInstall then snap
      else { snap.failedFor .unconfirmed with installerPath := "" }).goto (.loop .job)) := by
  have hphase := h.not_applying (by rw [hjob]; rfl)
  by_cases hmanual : s.snapshot.phase ≠ .manualInstall
  · refine h.mutateFor ?_ ?_ (.outside hphase rfl) <;> rw [if_pos hmanual]
  · rcases mutateFor_cases s generation fun snap =>
      if snap.phase ≠ .manualInstall then snap
      else { snap.failedFor .unconfirmed with installerPath := "" } with ⟨-, heq⟩ | ⟨-, heq⟩ <;>
      rw [heq]
    · exact h.goto_outside hphase rfl
    · have hnames : s.snapshot.phase.names = true := by rw [not_not.1 hmanual]; rfl
      simp only [State.mutate, if_neg hmanual]
      exact of_goto (h.names.rename hnames rfl rfl rfl (h.names.names hnames).2.2 nofun rfl rfl)
        (.outside nofun rfl)

lemma mismatch (h : Kept cfg s) {generation : ℕ} (hjob : s.job = .mismatch generation)
    (hshown : s.feedGeneration = generation → s.snapshot.phase = .manualInstall) :
    Kept cfg ((s.mutateFor generation fun snap =>
      { snap.failedFor .checksum with installerPath := "" }).goto (.loop .job)) := by
  rcases mutateFor_cases s generation fun snap =>
    { snap.failedFor .checksum with installerPath := "" } with ⟨-, heq⟩ | ⟨hgen, heq⟩ <;> rw [heq]
  · exact h.goto_outside (h.not_applying (by rw [hjob]; rfl)) rfl
  · have hnames : s.snapshot.phase.names = true := by rw [hshown hgen]; rfl
    exact of_goto (h.names.rename hnames rfl rfl rfl (h.names.names hnames).2.2 nofun rfl rfl)
      (.outside nofun rfl)

end Kept

end UrnetworkWindows.Checker
