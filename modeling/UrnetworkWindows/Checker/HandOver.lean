/-
What the update checker hands over for a click.

`Ledger` is what the history says of the click that the worker is on: the feed it was taken under,
the release of the banner at its gate, the checks made since and the bytes hashed since, and what
the last section of the worker saw; and it keeps the clicks whose package was downloaded.  `Knows`
is what each job of the worker says of that ledger.  What is handed over is the release offered in
the last section before the call, and its bytes were hashed for that click; an installer that is
shown again is one that an earlier click on that release downloaded (`handed_over_as_offered`).
-/
import UrnetworkWindows.Checker.Banner

namespace UrnetworkWindows.Checker

open Update Lib

/-! ### The history of a click -/

/-- What the history says of the click that the worker is on. -/
structure Ledger where
  /-- The feed it was taken under. -/
  generation : ℕ := 0
  /-- The release that the banner showed at the gate. -/
  code : ℕ := 0
  /-- The offer was no older then than an offer may be. -/
  fresh : Bool := false
  /-- What a check made since offered. -/
  confirmed : Option ℕ := none
  /-- The bytes that were hashed last. -/
  hashed : Option (List UInt8) := none
  /-- The feed in the last section of the worker. -/
  feed : ℕ := 0
  /-- The offer in it. -/
  offer : Offer := {}
  /-- The clicks whose package was downloaded, or found downloaded, this one and the earlier. -/
  downloaded : List Click := []

namespace Ledger

/-- What a section of the worker adds. -/
def noted (ledger : Ledger) (s s' : State) (now : ℤ) : Ledger :=
  match s.job with
  -- whatever the worker takes next it takes in this section
  | .loop _ => { generation := s.feedGeneration, downloaded := ledger.downloaded }
  | .claim .. | .look _ false =>
    { ledger with
      code := s.snapshot.code
      fresh := !s.offerIsStale now }
  | .check generation _ (.publish ..) =>
    if s.feedGeneration = generation then { ledger with confirmed := some s'.offer.code }
    else ledger
  | _ => ledger

/-- The section is the last one. -/
def seen (ledger : Ledger) (s : State) : Ledger :=
  { ledger with
    feed := s.feedGeneration
    offer := s.offer }

/-- A download is over: a package that is there is checked next. -/
def fetched (ledger : Ledger) : Job → Ledger
  | .verify click => { ledger with downloaded := ledger.downloaded ++ [click] }
  | _ => ledger

/-- What a step adds. -/
def after (ledger : Ledger) (e : Transition State Act) : Ledger :=
  match e.label with
  | .worker (.locked now _) => (ledger.noted e.pre e.post now).seen e.pre
  | .worker (.downloaded ..) => ledger.fetched e.post.job
  | .worker (.hashed bytes) => { ledger with hashed := bytes }
  | _ => ledger

end Ledger

/-- The ledger of a history. -/
def ledger (es : List (Transition State Act)) : Ledger := es.foldl Ledger.after {}

lemma ledger_snoc (es : List (Transition State Act)) (e : Transition State Act) :
    ledger (es ++ [e]) = (ledger es).after e := by
  rw [ledger, List.foldl_append]
  rfl

/-! ### What a job knows of its click -/

section Jobs

variable (cfg : Config) (l : Ledger) (s : State)

/-- The offer was fresh at the gate, or a check made since offered the release. -/
def Ledger.Stands (code : ℕ) : Prop := l.fresh = true ∨ l.confirmed = some code

/-- The bytes hashed last match a digest. -/
def Ledger.Matches (digestHex : String) : Prop := cfg.matchesDigest l.hashed digestHex = true

/-- The ledger is on a click. -/
structure OnClick (click : Click) : Prop where
  generation : l.generation = click.generation
  made : click.generation ≤ s.feedGeneration
  code : l.code = click.offer.code

/-- The click is on the release offered. -/
structure OnOffer (click : Click) : Prop extends OnClick l s click where
  offer : s.feedGeneration = click.generation → s.offer = click.offer
  stands : cfg.viaHelper click = false → l.Stands click.offer.code

/-- The banner shows the release of the click as being worked on. -/
def Shows (click : Click) : Prop :=
  s.feedGeneration = click.generation →
    s.snapshot.phase = .applying ∧ s.snapshot.code = click.offer.code

/-- What the last section saw is the offer of the click. -/
structure Handing (click : Click) : Prop where
  generation : l.generation = click.generation
  code : l.code = click.offer.code
  feed : l.feed = click.generation
  offer : l.offer = click.offer
  hashed : l.Matches cfg click.offer.digestHex

/-- The installer was downloaded for a click on the release, this one or an earlier. -/
def Placed (code : ℕ) (installer : String) : Prop :=
  ∃ click ∈ l.downloaded, click.offer.code = code ∧ installer = cfg.msiPath click.offer

/-- The installer is still shown for the release that was clicked. -/
def ShownFor : Prop := s.snapshot.phase = .manualInstall → s.snapshot.code = l.code

/-- What the last section saw is the offer of the installer that is shown again. -/
structure Reshowing (g : ℕ) (installer : String) : Prop where
  generation : l.generation = g
  feed : l.feed = g
  code : l.offer.code = l.code
  stands : l.Stands l.code
  placed : Placed cfg l l.code installer

/-- What a job of the worker knows of its click. -/
def Knows : Job → Prop
  | .claim generation _ => l.generation = generation ∧ generation ≤ s.feedGeneration
  | .check generation (.apply click) _ =>
    generation = click.generation ∧ OnClick l s click ∧
      (s.feedGeneration = click.generation → s.offer = click.offer)
  | .judge click checked =>
    OnClick l s click ∧ (s.feedGeneration = click.generation →
      if checked then l.confirmed = some s.offer.code else s.offer = click.offer)
  | .askHold click | .begin click => OnOffer cfg l s click
  | .download click => OnOffer cfg l s click ∧ Shows s click
  | .verify click | .hash click =>
    OnOffer cfg l s click ∧ Shows s click ∧ click ∈ l.downloaded
  | .install click => OnOffer cfg l s click ∧ l.Matches cfg click.offer.digestHex
  | .manualInstall click =>
    OnOffer cfg l s click ∧ l.Matches cfg click.offer.digestHex ∧ Shows s click ∧
      cfg.viaHelper click = false ∧ click ∈ l.downloaded
  | .launch click => Handing cfg l click
  | .reveal click => Handing cfg l click ∧ l.Stands click.offer.code
  | .look generation asked =>
    l.generation = generation ∧ generation ≤ s.feedGeneration ∧
      (asked = true → s.feedGeneration = generation →
        l.confirmed = some s.offer.code ∧ ShownFor l s)
  | .check generation .reveal _ =>
    l.generation = generation ∧ generation ≤ s.feedGeneration ∧
      (s.feedGeneration = generation → ShownFor l s)
  | .rehash generation installer digest =>
    Reshowing cfg l generation installer ∧ l.offer.digestHex = digest
  | .revealAgain generation installer =>
    Reshowing cfg l generation installer ∧ l.Matches cfg l.offer.digestHex
  | _ => True

/-- What every run keeps. -/
structure Known : Prop where
  knows : Knows cfg l s s.job
  placed : s.snapshot.phase = .manualInstall →
    Placed cfg l s.snapshot.code s.snapshot.installerPath

end Jobs

variable {cfg : Config} {s s' : State} {l : Ledger}

/-! ### Steps that are not the worker's -/

/-- A snapshot shows an installer only where the one before it did, and the same one. -/
def Steady (snap snap' : Snapshot) : Prop :=
  snap'.phase = .manualInstall → snap.phase = .manualInstall ∧ snap'.code = snap.code ∧
    snap'.installerPath = snap.installerPath

namespace Steady

variable {snap snap' : Snapshot}

lemma refl : Steady snap snap := fun h => ⟨h, rfl, rfl⟩

lemma of_ne (h : snap'.phase ≠ .manualInstall) : Steady snap snap' := fun hp => absurd hp h

lemma of_banner (h : snap'.banner = snap.banner) : Steady snap snap' := by
  obtain ⟨hphase, hcode, -, hpath⟩ := Banner.mk.inj h
  exact fun hp => ⟨hphase.symm.trans hp, hcode, hpath⟩

end Steady

/-- What the user interface does under a job of the worker. -/
structure Calm (s s' : State) : Prop where
  le : s.feedGeneration ≤ s'.feedGeneration
  offer : s'.feedGeneration = s.feedGeneration → s'.offer = s.offer
  applying : s'.feedGeneration = s.feedGeneration → s.snapshot.phase = .applying →
    s'.snapshot.phase = .applying ∧ s'.snapshot.code = s.snapshot.code
  steady : Steady s.snapshot s'.snapshot

namespace Calm

lemma refl : Calm s s := ⟨le_rfl, fun _ => rfl, fun _ h => ⟨h, rfl⟩, .refl⟩

lemma same (h : Calm s s') {generation : ℕ} (hmade : generation ≤ s.feedGeneration)
    (hfeed : s'.feedGeneration = generation) :
    s.feedGeneration = generation ∧ s'.feedGeneration = s.feedGeneration := by
  have hle := h.le
  omega

lemma onClick (h : Calm s s') {click : Click} (hclick : OnClick l s click) :
    OnClick l s' click :=
  ⟨hclick.generation, hclick.made.trans h.le, hclick.code⟩

lemma onOffer (h : Calm s s') {click : Click} (hclick : OnOffer cfg l s click) :
    OnOffer cfg l s' click := by
  refine ⟨h.onClick hclick.toOnClick, fun hfeed => ?_, hclick.stands⟩
  obtain ⟨hfeed, hsame⟩ := h.same hclick.made hfeed
  exact (h.offer hsame).trans (hclick.offer hfeed)

lemma shows (h : Calm s s') {click : Click} (hmade : click.generation ≤ s.feedGeneration)
    (hshows : Shows s click) : Shows s' click := by
  intro hfeed
  obtain ⟨hfeed, hsame⟩ := h.same hmade hfeed
  obtain ⟨hphase, hcode⟩ := hshows hfeed
  obtain ⟨hphase', hcode'⟩ := h.applying hsame hphase
  exact ⟨hphase', hcode'.trans hcode⟩

lemma shownFor (h : Calm s s') (hshown : ShownFor l s) : ShownFor l s' := by
  intro hphase
  obtain ⟨hphase', hcode, -⟩ := h.steady hphase
  exact hcode.trans (hshown hphase')

lemma knows (h : Calm s s') {job : Job} (hknows : Knows cfg l s job) : Knows cfg l s' job := by
  cases job with
  | claim generation manual => exact ⟨hknows.1, hknows.2.trans h.le⟩
  | check generation caller stage =>
    cases caller with
    | apply click =>
      obtain ⟨hgen, hclick, hoffer⟩ := hknows
      refine ⟨hgen, h.onClick hclick, fun hfeed => ?_⟩
      obtain ⟨hfeed, hsame⟩ := h.same hclick.made hfeed
      exact (h.offer hsame).trans (hoffer hfeed)
    | reveal =>
      obtain ⟨hgen, hmade, hshown⟩ := hknows
      refine ⟨hgen, hmade.trans h.le, fun hfeed => h.shownFor (hshown (h.same hmade hfeed).1)⟩
    | _ => exact trivial
  | judge click checked =>
    obtain ⟨hclick, hoffer⟩ := hknows
    refine ⟨h.onClick hclick, fun hfeed => ?_⟩
    obtain ⟨hfeed, hsame⟩ := h.same hclick.made hfeed
    rw [h.offer hsame]
    exact hoffer hfeed
  | askHold | begin => exact h.onOffer hknows
  | download => exact ⟨h.onOffer hknows.1, h.shows hknows.1.made hknows.2⟩
  | verify | hash => exact ⟨h.onOffer hknows.1, h.shows hknows.1.made hknows.2.1, hknows.2.2⟩
  | install => exact ⟨h.onOffer hknows.1, hknows.2⟩
  | manualInstall =>
    obtain ⟨hclick, hmatches, hshows, hvia, hmem⟩ := hknows
    exact ⟨h.onOffer hclick, hmatches, h.shows hclick.made hshows, hvia, hmem⟩
  | look generation asked =>
    obtain ⟨hgen, hmade, hasked⟩ := hknows
    refine ⟨hgen, hmade.trans h.le, fun hask hfeed => ?_⟩
    obtain ⟨hfeed, hsame⟩ := h.same hmade hfeed
    obtain ⟨hconfirmed, hshown⟩ := hasked hask hfeed
    rw [h.offer hsame]
    exact ⟨hconfirmed, h.shownFor hshown⟩
  | _ => exact hknows

lemma known (h : Calm s s') (hknown : Known cfg l s) (hjob : s'.job = s.job) :
    Known cfg l s' := by
  refine ⟨?_, fun hphase => ?_⟩
  · rw [hjob]
    exact h.knows hknown.knows
  · obtain ⟨hphase', hcode, hpath⟩ := h.steady hphase
    rw [hcode, hpath]
    exact hknown.placed hphase'

end Calm

lemma calm_of_ui {act : UiAct} (hs : UiMoves cfg s act s') : Calm s s' ∧ s'.job = s.job := by
  cases hs with
  | dismissed hui =>
    refine ⟨⟨le_rfl, fun _ => rfl, fun _ hphase => ?_, ?_⟩, rfl⟩
    · have hnot : s.snapshot.phase ≠ .result := by
        rw [hphase]
        rintro ⟨⟩
      simp only [dismiss, State.mutate, if_pos hnot]
      exact ⟨hphase, trivial⟩
    · simp only [dismiss, State.mutate]
      split_ifs
      · exact .refl
      · exact .of_ne (by rintro ⟨⟩)
      · exact .of_ne (by rintro ⟨⟩)
  | later hui =>
    unfold later
    split_ifs with hoffers
    · refine ⟨⟨le_rfl, fun _ => rfl, fun _ hphase => ?_, .of_ne (by rintro ⟨⟩)⟩, rfl⟩
      rw [offersLater, hphase] at hoffers
      simp at hoffers
    · exact ⟨⟨le_rfl, fun _ => rfl, fun _ hphase => ⟨hphase, rfl⟩, .refl⟩, rfl⟩
  | channelChanged hui =>
    refine ⟨⟨Nat.le_succ _, fun hsame => absurd hsame (Nat.succ_ne_self _),
      fun hsame => absurd hsame (Nat.succ_ne_self _), .of_ne ?_⟩, rfl⟩
    simp only [channelChanged, State.mutate]
    split_ifs with hphase
    · rintro ⟨⟩
    · rw [not_not.1 hphase]
      rintro ⟨⟩
  | autoCheckSet hui nowUnix =>
    exact ⟨⟨le_rfl, fun _ => rfl, fun _ hphase => ⟨hphase, rfl⟩, .of_banner rfl⟩, rfl⟩
  | _ => exact ⟨⟨le_rfl, fun _ => rfl, fun _ hphase => ⟨hphase, rfl⟩, .refl⟩, rfl⟩

/-! ### Sections of the worker -/

section Seen

variable {t : State} {click : Click}

lemma OnClick.seen (h : OnClick l s click) : OnClick (l.seen t) s click :=
  ⟨h.generation, h.made, h.code⟩

lemma OnOffer.seen (h : OnOffer cfg l s click) : OnOffer cfg (l.seen t) s click :=
  ⟨h.toOnClick.seen, h.offer, h.stands⟩

lemma OnOffer.handing (h : OnOffer cfg l s click) (hfeed : s.feedGeneration = click.generation)
    (hmatches : l.Matches cfg click.offer.digestHex) : Handing cfg (l.seen s) click :=
  ⟨h.generation, h.code, hfeed, h.offer hfeed, hmatches⟩

lemma knows_check {generation : ℕ} {caller : Caller} {stage : CheckStage} (stage' : CheckStage)
    (h : Knows cfg l s (.check generation caller stage)) :
    Knows cfg (l.seen t) s (.check generation caller stage') := by
  cases caller with
  | apply click => exact ⟨h.1, h.2.1.seen, h.2.2⟩
  | _ => exact h

end Seen

lemma calm_goto (s : State) (job : Job) : Calm s (s.goto job) :=
  ⟨le_rfl, fun _ => rfl, fun _ hp => ⟨hp, rfl⟩, .refl⟩

lemma calm_mutate {fn : Snapshot → Snapshot} (h : (fn s.snapshot).banner = s.snapshot.banner) :
    Calm s (s.mutate .worker fn) := by
  obtain ⟨hphase, hcode, -, -⟩ := Banner.mk.inj h
  exact ⟨le_rfl, fun _ => rfl, fun _ hp => ⟨hphase.trans hp, hcode⟩, .of_banner h⟩

lemma calm_mutateFor {generation : ℕ} {fn : Snapshot → Snapshot}
    (h : ∀ snap, (fn snap).banner = snap.banner) : Calm s (s.mutateFor generation fn) := by
  rcases mutateFor_cases s generation fn with ⟨-, heq⟩ | ⟨-, heq⟩ <;> rw [heq]
  · exact .refl
  · exact calm_mutate (h s.snapshot)

lemma steady_mutateFor {generation : ℕ} {fn : Snapshot → Snapshot}
    (h : ∀ snap, Steady snap (fn snap)) :
    Steady s.snapshot (s.mutateFor generation fn).snapshot := by
  rcases mutateFor_cases s generation fn with ⟨-, heq⟩ | ⟨-, heq⟩ <;> rw [heq]
  · exact .refl
  · exact h s.snapshot

lemma steady_publishCheck (generation : ℕ) (succeeded serverUnixSeconds : ℤ)
    (releases : List Release) (now : ℤ) : Steady s.snapshot
      (publishCheck cfg s generation succeeded serverUnixSeconds releases now).snapshot := by
  have hoffer : ∀ offer, Steady s.snapshot (bannerOfOffer s.laterCode offer s.snapshot) := by
    intro offer
    unfold bannerOfOffer
    split_ifs
    · exact .of_ne (by rintro ⟨⟩)
    · exact .refl
    · exact .of_ne (by rintro ⟨⟩)
    · exact .refl
  have hnone : ∀ sel, Steady s.snapshot (bannerOfNone cfg succeeded sel s.snapshot) := by
    intro sel
    unfold bannerOfNone
    split_ifs
    · exact .of_ne (by rintro ⟨⟩)
    · exact .refl
  have hbanner : ∀ {snap snap' : Snapshot}, Steady s.snapshot snap → snap'.banner = snap.banner →
      Steady s.snapshot snap' := by
    intro snap snap' hsteady heq hphase
    obtain ⟨hphase', hcode, -, hpath⟩ := Banner.mk.inj heq
    obtain ⟨hphase₀, hcode₀, hpath₀⟩ := hsteady (hphase'.symm.trans hphase)
    exact ⟨hphase₀, hcode.trans hcode₀, hpath.trans hpath₀⟩
  rcases publishCheck_cases cfg s generation succeeded serverUnixSeconds releases now with
    ⟨-, -, heq, -⟩ | ⟨-, -, -, heq, -⟩ | ⟨-, -, heq, -⟩ | ⟨-, -, heq, -⟩
  · exact .of_banner heq
  · exact .of_banner heq
  · exact hbanner (hoffer _) heq
  · exact hbanner (hnone _) heq

namespace Known

variable {job : Job} {l' : Ledger}

lemma goto {t : State} (h : Known cfg l s) (hkept : l'.downloaded = l.downloaded)
    (hsteady : Steady s.snapshot t.snapshot) (hknows : Knows cfg l' t job) :
    Known cfg l' (t.goto job) := by
  refine ⟨(calm_goto t job).knows hknows, fun hphase => ?_⟩
  obtain ⟨hphase', hcode, hpath⟩ := hsteady hphase
  change Placed cfg l' t.snapshot.code t.snapshot.installerPath
  rw [Placed, hcode, hpath, hkept]
  exact h.placed hphase'

lemma dispatch (h : Known cfg l s) (back : Back) (now : ℤ) :
    Known cfg (({
      generation := s.feedGeneration
      downloaded := l.downloaded } : Ledger).seen s) (dispatch cfg s back now) := by
  unfold Checker.dispatch
  dsimp only
  split_ifs
  · exact ⟨⟨rfl, le_rfl⟩, h.placed⟩
  · exact ⟨⟨rfl, le_rfl, nofun⟩, h.placed⟩
  · exact ⟨trivial, h.placed⟩
  · exact ⟨trivial, h.placed⟩

lemma claim (h : Known cfg l s) {generation : ℕ} {manual : Bool}
    (hjob : s.job = .claim generation manual) (now : ℤ) :
    Known cfg (({ l with
      code := s.snapshot.code
      fresh := !s.offerIsStale now } : Ledger).seen s) (claim s generation manual now) := by
  have hknows := h.knows
  rw [hjob] at hknows
  obtain ⟨hgen, hmade⟩ := hknows
  unfold Checker.claim
  dsimp only
  split_ifs with hclosed hcode hstale
  · exact h.goto rfl .refl trivial
  · exact h.goto rfl .refl trivial
  · exact h.goto rfl (.of_ne (by rintro ⟨⟩)) ⟨rfl, ⟨hgen, hmade, not_not.1 hcode⟩, fun _ => rfl⟩
  · refine h.goto rfl (.of_ne (by rintro ⟨⟩))
      ⟨⟨hgen, hmade, not_not.1 hcode⟩, fun _ => rfl, fun _ => .inl ?_⟩
    exact Bool.not_eq_true' _ ▸ eq_false_of_ne_true hstale

lemma judge (h : Known cfg l s) {click : Click} {checked : Bool}
    (hjob : s.job = .judge click checked) :
    Known cfg (l.seen s) (judge cfg s click checked) := by
  have hknows := h.knows
  rw [hjob] at hknows
  obtain ⟨hclick, hoffer⟩ := hknows
  unfold Checker.judge
  dsimp only
  split
  next hstep =>
    refine ⟨?_, h.placed⟩
    obtain ⟨hfeed, hcode, hholds, hasked⟩ := stepAfterCheck_proceed hstep
    have hoffer := hoffer (of_decide_eq_true hfeed)
    have hsame : s.offer.code = click.offer.code := by
      cases checked with
      | true => exact hcode rfl
      | false => exact congrArg Offer.code hoffer
    refine ⟨⟨hclick.generation, hclick.made, hclick.code.trans hsame.symm⟩, fun _ => rfl,
      fun hvia => .inr ?_⟩
    have hchecked : checked = true := hasked.resolve_right (by
      have hvia : cfg.viaHelper click = false := hvia
      simp [hvia])
    rw [if_pos hchecked] at hoffer
    exact hoffer
  all_goals exact ⟨trivial, h.placed⟩

lemma publish (h : Known cfg l s) {generation : ℕ} {caller : Caller}
    {succeeded serverUnixSeconds : ℤ} {releases : List Release}
    (hjob : s.job = .check generation caller (.publish succeeded serverUnixSeconds releases))
    (now : ℤ) {s' : State}
    (hs : s' = (publishCheck cfg s generation succeeded serverUnixSeconds releases now).goto
      (resume generation caller (s.feedGeneration = generation))) :
    Known cfg ((l.noted s s' now).seen s) s' := by
  have hnoted : l.noted s s' now =
      if s.feedGeneration = generation then { l with confirmed := some s'.offer.code } else l := by
    rw [Ledger.noted, hjob]
  have hsteady := @steady_publishCheck cfg s generation succeeded serverUnixSeconds releases now
  have hfeed := (publishCheck_leaves cfg s generation succeeded serverUnixSeconds releases
    now).feedGeneration
  have hknows := h.knows
  rw [hjob] at hknows
  rw [hs] at hnoted ⊢
  rw [hnoted]
  generalize publishCheck cfg s generation succeeded serverUnixSeconds releases now = t at *
  refine h.goto ?_ hsteady ?_
  · split_ifs <;> rfl
  cases caller with
  | loop | helper => exact trivial
  | apply click =>
    obtain ⟨rfl, hclick, hoffer⟩ := hknows
    by_cases hsame : s.feedGeneration = click.generation
    · rw [if_pos hsame]
      refine ⟨⟨hclick.generation, hclick.made.trans hfeed.ge, hclick.code⟩, fun _ => ?_⟩
      rw [if_pos (decide_eq_true hsame)]
      rfl
    · rw [if_neg hsame]
      refine ⟨⟨hclick.generation, hclick.made.trans hfeed.ge, hclick.code⟩, fun heq => ?_⟩
      exact absurd (hfeed.symm.trans heq) hsame
  | reveal =>
    obtain ⟨hgen, hmade, hshown⟩ := hknows
    rw [resume]
    by_cases hsame : s.feedGeneration = generation
    · rw [if_pos hsame, if_pos (decide_eq_true hsame)]
      refine ⟨hgen, hmade.trans hfeed.ge, fun _ _ => ⟨rfl, fun hphase => ?_⟩⟩
      obtain ⟨hphase', hcode, -⟩ := hsteady hphase
      exact hcode.trans (hshown hsame hphase')
    · have hne : ¬ decide (s.feedGeneration = generation) = true := by simpa using hsame
      rw [if_neg hne]
      exact trivial

lemma checkSection (h : Known cfg l s) {generation : ℕ} {caller : Caller} {stage : CheckStage}
    (hjob : s.job = .check generation caller stage) {now nowUnix : ℤ}
    (hs : checkSection cfg s generation caller now nowUnix stage = some s') :
    Known cfg ((l.noted s s' now).seen s) s' := by
  have hknows := h.knows
  rw [hjob] at hknows
  cases stage with
  | begin =>
    have hnoted : l.noted s s' now = l := by rw [Ledger.noted, hjob]
    cases hs
    rw [hnoted]
    exact h.goto rfl .refl (knows_check _ hknows)
  | ask =>
    have hnoted : l.noted s s' now = l := by rw [Ledger.noted, hjob]
    cases hs
    rw [hnoted]
    have hcalm : Calm s (s.mutateFor generation fun snap => { snap with lastCheck := .inFlight }) :=
      calm_mutateFor fun _ => rfl
    exact h.goto rfl hcalm.steady (knows_check _ (hcalm.knows hknows))
  | fetch => exact absurd hs (Option.some_ne_none _).symm
  | refused wait =>
    have hnoted : l.noted s s' now = l := by rw [Ledger.noted, hjob]
    cases hs
    rw [hnoted]
    refine ⟨Calm.knows ?_ (knows_check .failed hknows), h.placed⟩
    exact ⟨le_rfl, fun _ => rfl, fun _ hp => ⟨hp, rfl⟩, .of_banner rfl⟩
  | failed =>
    have hnoted : l.noted s s' now = l := by rw [Ledger.noted, hjob]
    cases hs
    rw [hnoted]
    have hcalm : Calm s (checkFailed cfg s generation nowUnix) := calm_mutateFor fun _ => rfl
    refine h.goto rfl hcalm.steady ?_
    cases caller with
    | apply click =>
      obtain ⟨rfl, hclick, hoffer⟩ := hcalm.knows hknows
      exact ⟨hclick.seen, hoffer⟩
    | reveal | loop | helper => exact trivial
  | publish succeeded serverUnixSeconds releases =>
    cases hs
    exact h.publish hjob now rfl

lemma begin (h : Known cfg l s) {click : Click} (hjob : s.job = .begin click) :
    Known cfg (l.seen s)
      ((s.mutateFor click.generation fun snap => snap.downloading click.offer).goto
        (.download click)) := by
  have hknows : OnOffer cfg l s click := by
    have hknows := h.knows
    rw [hjob] at hknows
    exact hknows
  refine h.goto rfl (steady_mutateFor fun _ => .of_ne (by rintro ⟨⟩)) ?_
  rcases mutateFor_cases s click.generation fun snap => snap.downloading click.offer with
    ⟨hne, heq⟩ | ⟨-, heq⟩ <;> rw [heq]
  · exact ⟨hknows.seen, fun hfeed => absurd hfeed hne⟩
  · exact ⟨⟨⟨hknows.generation, hknows.made, hknows.code⟩, hknows.offer, hknows.stands⟩,
      fun _ => ⟨rfl, rfl⟩⟩

lemma manualInstall (h : Known cfg l s) {click : Click} (hjob : s.job = .manualInstall click) :
    Known cfg (l.seen s) (Checker.stageFor s click (fun snap =>
      { snap with
        phase := .manualInstall
        stage := .idle
        installerPath := cfg.msiPath click.offer }) (.reveal click)) := by
  have hknows := h.knows
  rw [hjob] at hknows
  obtain ⟨hoffer, hmatches, hshows, hvia, hmem⟩ := hknows
  unfold Checker.stageFor
  by_cases hfeed : s.feedGeneration = click.generation
  · rw [mutateFor_of_eq hfeed, if_pos hfeed]
    exact ⟨⟨hoffer.handing hfeed hmatches, hoffer.stands hvia⟩,
      fun _ => ⟨click, hmem, (hshows hfeed).2.symm, rfl⟩⟩
  · rw [mutateFor_of_ne hfeed, if_neg hfeed]
    exact h.goto rfl .refl trivial

lemma look (h : Known cfg l s) {generation : ℕ} {asked : Bool} {now : ℤ}
    (hjob : s.job = .look generation asked)
    (hs : some (look s generation asked now) = some s') :
    Known cfg ((l.noted s s' now).seen s) s' := by
  have hknows := h.knows
  rw [hjob] at hknows
  obtain ⟨hgen, hmade, hasked⟩ := hknows
  cases hs
  cases asked with
  | true =>
    have hnoted : ∀ t, l.noted s t now = l := by
      intro t
      rw [Ledger.noted, hjob]
    rw [hnoted]
    unfold Checker.look
    split_ifs with hgone hstale
    · exact h.goto rfl .refl trivial
    · exact absurd hstale Bool.false_ne_true
    · simp only [not_or, not_not] at hgone
      obtain ⟨hphase, -, hfeed, hcode⟩ := hgone
      obtain ⟨hconfirmed, hshown⟩ := hasked rfl hfeed
      have hcode' := hshown hphase
      refine h.goto rfl .refl ⟨⟨hgen, hfeed, hcode.trans hcode', .inr ?_, ?_⟩, rfl⟩
      · rw [hcode, hcode'] at hconfirmed
        exact hconfirmed
      · exact hcode' ▸ h.placed hphase
  | false =>
    have hnoted : ∀ t, l.noted s t now =
        { l with code := s.snapshot.code, fresh := !s.offerIsStale now } := by
      intro t
      rw [Ledger.noted, hjob]
    rw [hnoted]
    unfold Checker.look
    split_ifs with hgone hstale
    · exact h.goto rfl .refl trivial
    · exact h.goto rfl .refl ⟨hgen, hmade, fun _ _ => rfl⟩
    · simp only [not_or, not_not] at hgone
      obtain ⟨hphase, -, hfeed, hcode⟩ := hgone
      refine h.goto rfl .refl ⟨⟨hgen, hfeed, hcode, .inl ?_, h.placed hphase⟩, rfl⟩
      rw [Bool.not_false, Bool.true_and] at hstale
      exact Bool.not_eq_true' _ ▸ eq_false_of_ne_true hstale

lemma stageFor (h : Known cfg l s) {click : Click} {fn : Snapshot → Snapshot} {job : Job}
    (hsteady : ∀ snap, Steady snap (fn snap))
    (hnext : s.feedGeneration = click.generation →
      Knows cfg (l.seen s) (s.mutate .worker fn) job) :
    Known cfg (l.seen s) (stageFor s click fn job) := by
  unfold Checker.stageFor
  refine h.goto rfl (steady_mutateFor hsteady) ?_
  split_ifs with hfeed
  · rw [mutateFor_of_eq hfeed]
    exact hnext hfeed
  · exact trivial

lemma lockedSection (h : Known cfg l s) {now nowUnix : ℤ}
    (hs : lockedSection cfg s now nowUnix s.job = some s') :
    Known cfg ((l.noted s s' now).seen s) s' := by
  have hknows := h.knows
  cases hjob : s.job <;> rw [hjob] at hs hknows
  case loop back =>
    have hnoted : l.noted s s' now =
        { generation := s.feedGeneration, downloaded := l.downloaded } := by
      rw [Ledger.noted, hjob]
    cases hs
    rw [hnoted]
    exact h.dispatch back now
  case check generation caller stage => exact h.checkSection hjob hs
  case claim generation manual =>
    have hnoted : l.noted s s' now =
        { l with code := s.snapshot.code, fresh := !s.offerIsStale now } := by
      rw [Ledger.noted, hjob]
    cases hs
    rw [hnoted]
    exact h.claim hjob now
  case look generation asked => exact h.look hjob hs
  case judge click checked =>
    have hnoted : l.noted s s' now = l := by rw [Ledger.noted, hjob]
    cases hs
    rw [hnoted]
    exact h.judge hjob
  case askHold click =>
    have hnoted : l.noted s s' now = l := by rw [Ledger.noted, hjob]
    cases hs
    rw [hnoted]
    refine h.goto rfl .refl ?_
    split_ifs
    · exact trivial
    · exact hknows.seen
  all_goals have hnoted : l.noted s s' now = l := by rw [Ledger.noted, hjob]
  all_goals first
    | exact absurd hs (Option.some_ne_none _).symm
    | (obtain rfl := Option.some.inj hs; rw [hnoted])
  case begin click => exact h.begin hjob
  case verify click =>
    refine h.stageFor (fun _ => .of_banner rfl) fun hfeed => ?_
    have hcalm : Calm s (s.mutate .worker fun snap => { snap with stage := .verifying }) :=
      calm_mutate rfl
    exact ⟨(hcalm.onOffer hknows.1).seen, hcalm.shows hknows.1.made hknows.2.1, hknows.2.2⟩
  case install click =>
    exact h.stageFor (fun _ => .of_banner rfl) fun hfeed => hknows.1.handing hfeed hknows.2
  case manualInstall click => exact h.manualInstall hjob
  case noteReplaced click =>
    refine h.goto rfl (steady_mutateFor fun snap => ?_) trivial
    split_ifs
    · exact .refl
    · exact .of_banner rfl
  case close click =>
    refine h.goto rfl (steady_mutateFor fun snap => ?_) trivial
    unfold Snapshot.dropped
    split_ifs
    · exact .refl
    · exact .of_ne (by rintro ⟨⟩)
  case fail click failure =>
    exact h.goto rfl (steady_mutateFor fun _ => .of_ne (by rintro ⟨⟩)) trivial
  case launched click startedUnix process =>
    refine h.goto rfl (steady_mutateFor fun _ => .of_banner rfl) ?_
    split_ifs <;> exact trivial
  case judgeReport click result checked =>
    refine h.goto rfl .refl ?_
    split_ifs <;> exact trivial
  case report click result =>
    refine h.goto rfl ?_ trivial
    unfold reportResult
    simp only [State.mutate]
    split_ifs <;> exact .of_ne (by rintro ⟨⟩)
  case threw generation =>
    exact h.goto rfl (steady_mutateFor fun _ => .of_ne (by rintro ⟨⟩)) trivial
  case unconfirmed generation =>
    refine h.goto rfl (steady_mutateFor fun snap => ?_) trivial
    split_ifs
    · exact .refl
    · exact .of_ne (by rintro ⟨⟩)
  case mismatch generation =>
    exact h.goto rfl (steady_mutateFor fun _ => .of_ne (by rintro ⟨⟩)) trivial

end Known

/-! ### Work outside the lock -/

/-- What a piece of work adds to the ledger. -/
def WorkerAct.adds (act : WorkerAct) (job : Job) (l : Ledger) : Ledger :=
  match act with
  | .downloaded .. => l.fetched job
  | .hashed bytes => { l with hashed := bytes }
  | _ => l

lemma downloaded_adds (act : WorkerAct) (job : Job) (l : Ledger) :
    l.downloaded ⊆ (act.adds job l).downloaded := by
  unfold WorkerAct.adds Ledger.fetched
  split
  · split
    · exact List.subset_append_left _ _
    · exact fun _ => id
  · exact fun _ => id
  · exact fun _ => id

lemma knows_of_outside {act : WorkerAct} {job job' : Job} (h : Outside cfg job act job')
    (hknows : Knows cfg l s job) : Knows cfg (act.adds job' l) s job' := by
  cases h with
  | fetched generation caller reply nowUnix =>
    cases caller with
    | _ => exact hknows
  | downloaded click kept ok =>
    obtain ⟨hoffer, hshows⟩ := hknows
    split_ifs
    · exact ⟨⟨⟨hoffer.generation, hoffer.made, hoffer.code⟩, hoffer.offer, hoffer.stands⟩, hshows,
        List.mem_append_right _ (List.mem_singleton_self click)⟩
    · exact trivial
  | hashed click bytes =>
    obtain ⟨hoffer, hshows, hmem⟩ := hknows
    have hoffer' : OnOffer cfg { l with hashed := bytes } s click :=
      ⟨⟨hoffer.generation, hoffer.made, hoffer.code⟩, hoffer.offer, hoffer.stands⟩
    split_ifs with hdigest hvia
    · exact trivial
    · have hmatches : cfg.matchesDigest bytes click.offer.digestHex = true := by simpa using hdigest
      exact ⟨hoffer', hmatches⟩
    · have hmatches : cfg.matchesDigest bytes click.offer.digestHex = true := by simpa using hdigest
      exact ⟨hoffer', hmatches, hshows, eq_false_of_ne_true hvia, hmem⟩
  | rehashed generation installer digest bytes =>
    split_ifs with hdigest
    · obtain ⟨hshow, rfl⟩ := hknows
      exact ⟨⟨hshow.generation, hshow.feed, hshow.code, hshow.stands, hshow.placed⟩, hdigest⟩
    · exact trivial
  | ended => split_ifs <;> exact trivial
  | threw hthrow =>
    cases job with
    | check generation caller stage =>
      cases caller <;> cases stage <;> cases hthrow <;> exact trivial
    | _ => cases hthrow <;> exact trivial
  | _ => exact trivial

lemma after_outside {act : WorkerAct} {job job' : Job} {t : State} (h : Outside cfg job act job') :
    l.after ⟨s, .worker act, t.goto job'⟩ = act.adds job' l := by
  cases h <;> rfl

lemma known_init (h : Init cfg s) : Known cfg (ledger []) s := by
  obtain ⟨lastSuccessUnix, autoCheck, rfl⟩ := h
  exact ⟨trivial, nofun⟩

lemma Known.step {es : List (Transition State Act)} (h : Known cfg (ledger es) s) {a : Act}
    (hs : Moves cfg s a s') : Known cfg (ledger (es ++ [⟨s, a, s'⟩])) s' := by
  rw [ledger_snoc]
  cases hs with
  | worker hfree hmoves =>
    cases hmoves with
    | locked hlocked => exact h.lockedSection hlocked
    | reported hjob file seen restartedSince vpn =>
      refine h.goto rfl ?_ trivial
      unfold showLastResult
      dsimp only
      split
      · exact .refl
      · split_ifs
        · exact .refl
        · exact .of_ne (by rintro ⟨⟩)
    | outside houtside =>
      rw [after_outside houtside]
      have hknows := knows_of_outside houtside h.knows
      refine ⟨?_, fun hphase => ?_⟩
      · exact (calm_goto s _).knows hknows
      · obtain ⟨click, hmem, hplaced⟩ := h.placed hphase
        exact ⟨click, downloaded_adds _ _ _ hmem, hplaced⟩
  | ui hfree hmoves =>
    obtain ⟨hcalm, hjob⟩ := calm_of_ui hmoves
    exact hcalm.known h hjob
  | post hfind =>
    refine Calm.known ?_ h rfl
    exact ⟨le_rfl, fun _ => rfl, fun _ hp => ⟨hp, rfl⟩, .refl⟩

/-! ### What is handed over -/

/-- What is handed over: the release to the helper, the installer to the user, and the installer
once more. -/
inductive Handed
  | helper (tag : String)
  | installer (file : String)
  | again (file : String)
deriving DecidableEq, Repr

/-- `LaunchUpdateHelper` or `RevealInExplorer` is called. -/
def handed (cfg : Config) (e : Transition State Act) : Option Handed :=
  match e.label, e.pre.job with
  | .worker (.launched ..), .launch click => some (.helper click.offer.tag)
  | .worker .revealed, .reveal click => some (.installer (cfg.msiPath click.offer))
  | .worker .revealed, .revealAgain _ installer => some (.again installer)
  | _, _ => none

section Claim

variable (cfg : Config) (l : Ledger)

/-- In the last section of the worker the feed was the one of the click and its release the one
offered, and the bytes hashed for the click match the digest of that offer. -/
structure AsOffered : Prop where
  feed : l.feed = l.generation
  code : l.offer.code = l.code
  hashed : l.Matches cfg l.offer.digestHex

/-- What is handed over is the offer's. -/
def OfOffer : Handed → Prop
  | .helper tag => tag = l.offer.tag
  | .installer file | .again file => l.Stands l.code ∧ file = cfg.msiPath l.offer

/-- What is handed over is the offer's; an installer that is shown again was downloaded for a
click on the release. -/
def OfRelease : Handed → Prop
  | .helper tag => tag = l.offer.tag
  | .installer file => l.Stands l.code ∧ file = cfg.msiPath l.offer
  | .again file => l.Stands l.code ∧ Placed cfg l l.code file

end Claim

lemma Handing.asOffered {click : Click} (h : Handing cfg l click) : AsOffered cfg l := by
  refine ⟨h.feed.trans h.generation.symm, ?_, ?_⟩
  · rw [h.offer, h.code]
  · rw [h.offer]
    exact h.hashed

lemma of_handed {e : Transition State Act} {x : Handed}
    (h : Knows cfg l e.pre e.pre.job) (hx : handed cfg e = some x) :
    AsOffered cfg l ∧ OfRelease cfg l x := by
  unfold handed at hx
  split at hx
  next answer startedUnix click hlabel hjob =>
    cases hx
    rw [hjob] at h
    exact ⟨h.asOffered, congrArg Offer.tag h.offer.symm⟩
  next click hlabel hjob =>
    cases hx
    rw [hjob] at h
    obtain ⟨hhanding, hstands⟩ := h
    refine ⟨hhanding.asOffered, ?_, by rw [hhanding.offer]⟩
    rw [hhanding.code]
    exact hstands
  next generation installer hlabel hjob =>
    cases hx
    rw [hjob] at h
    obtain ⟨hshow, hmatches⟩ := h
    exact ⟨⟨hshow.feed.trans hshow.generation.symm, hshow.code, hmatches⟩, hshow.stands,
      hshow.placed⟩
  next => exact absurd hx (Option.some_ne_none _).symm

/-! ### What is left alone -/

/-- The feed that what the worker does was begun under. -/
def Job.begunUnder : Job → Option ℕ
  | .check generation .. | .claim generation _ | .threw generation | .look generation _
  | .unconfirmed generation | .rehash generation .. | .mismatch generation
  | .revealAgain generation _ => some generation
  | .judge click _ | .noteReplaced click | .close click | .fail click _ | .askHold click
  | .begin click | .download click | .verify click | .hash click | .manualInstall click
  | .reveal click | .install click | .launch click | .launched click .. | .await click _
  | .judgeReport click .. | .report click _ => some click.generation
  | .start | .loop _ => none

/-- The worker is about to report how the helper ended. -/
def Job.isReport : Job → Bool
  | .report .. => true
  | _ => false

/-- A snapshot without what it says of the checks themselves. -/
def Snapshot.shown (snap : Snapshot) : Snapshot :=
  { snap with
    lastSuccessUnix := 0
    checkStale := false
    holdUntilUnix := 0 }

/-- A step of the worker was begun under a feed that has been left. -/
def Late (e : Transition State Act) : Prop :=
  (∃ act, e.label = .worker act) ∧ ∃ g, e.pre.job.begunUnder = some g ∧ e.pre.feedGeneration ≠ g

lemma left_of_locked {now nowUnix : ℤ} {g : ℕ}
    (h : lockedSection cfg s now nowUnix s.job = some s') (hg : s.job.begunUnder = some g)
    (hfeed : s.feedGeneration ≠ g) : s'.offer = s.offer ∧
      (s.job.isReport = false → s'.snapshot.shown = s.snapshot.shown) := by
  cases hjob : s.job <;> rw [hjob] at h hg
  case loop => exact absurd hg (Option.some_ne_none _).symm
  case check generation caller stage =>
    cases hg
    cases stage with
    | publish succeeded serverUnixSeconds releases =>
      cases h
      unfold publishCheck
      dsimp only
      rw [if_pos hfeed]
      exact ⟨rfl, fun _ => rfl⟩
    | fetch => exact absurd h (Option.some_ne_none _).symm
    | ask =>
      cases h
      rw [mutateFor_of_ne hfeed]
      exact ⟨rfl, fun _ => rfl⟩
    | failed =>
      cases h
      rw [checkFailed, mutateFor_of_ne hfeed]
      exact ⟨rfl, fun _ => rfl⟩
    | begin | refused =>
      cases h
      exact ⟨rfl, fun _ => rfl⟩
  case claim generation manual =>
    cases hg
    cases h
    unfold claim
    rw [if_pos (by simp [hfeed])]
    exact ⟨rfl, fun _ => rfl⟩
  case look generation asked =>
    cases h
    unfold look
    split_ifs <;> exact ⟨rfl, fun _ => rfl⟩
  case report click result =>
    cases h
    exact ⟨rfl, fun hreport => absurd hreport Bool.false_ne_true.symm⟩
  all_goals first
    | exact absurd h (Option.some_ne_none _).symm
    | (obtain rfl := Option.some.inj h; obtain rfl := Option.some.inj hg)
  all_goals try simp only [stageFor, noteReplaced, mutateFor_of_ne hfeed]
  all_goals exact ⟨rfl, fun _ => rfl⟩

/-- **What is handed over is the release offered now**, and what was begun under a feed that has
been left moves neither the offer nor the banner, but for the report of a helper that ran. -/
theorem handed_over_as_offered (cfg : Config) (es : List (Transition State Act)) (s : State)
    (h : Run (Init cfg) (fun _ s a s' => step cfg s a = some s') es s)
    {pre post : List (Transition State Act)} {e : Transition State Act}
    (he : es = pre ++ e :: post) :
    (∀ x, handed cfg e = some x → AsOffered cfg (ledger pre) ∧ OfRelease cfg (ledger pre) x) ∧
      (Late e → e.post.offer = e.pre.offer ∧
        (e.pre.job.isReport = false → e.post.snapshot.shown = e.pre.snapshot.shown)) := by
  have hnext : ∀ {es : List (Transition State Act)} {s s' : State} {a : Act},
      Known cfg (ledger es) s → step cfg s a = some s' →
      Known cfg (ledger (es ++ [⟨s, a, s'⟩])) s' := fun hknown hs => hknown.step (moves_of_step hs)
  obtain ⟨hrun, hs⟩ := h.split he
  have hknown : Known cfg (ledger pre) e.pre :=
    hrun.invariant (P := fun es s => Known cfg (ledger es) s) (fun _ => known_init)
      fun _ _ _ _ hknown hs => hnext hknown hs
  refine ⟨fun x hx => of_handed hknown.knows hx, ?_⟩
  rintro ⟨⟨act, hlabel⟩, g, hg, hfeed⟩
  rw [hlabel] at hs
  have hmoves := moves_of_step hs
  generalize e.post = s' at hmoves ⊢
  cases hmoves with
  | worker hfree hworker =>
    cases hworker with
    | locked hlocked => exact left_of_locked hlocked hg hfeed
    | reported hjob =>
      rw [hjob] at hg
      exact absurd hg (Option.some_ne_none _).symm
    | outside => exact ⟨rfl, fun _ => rfl⟩

/-! ### A report after the channel has changed, and a release listed again -/

/-- The update is checked, and the helper is about to be started. -/
def beforeLaunch : List Act :=
  starts ++ [.ui .checkNow] ++ checks [earlierRelease] 0 ++ [.ui .beginApply] ++
    [.worker (.locked 0 0), .worker (.locked 0 0), .post .worker, .worker (.locked 0 0),
      .worker (.locked 0 0), .post .worker, .worker (.downloaded none true), .worker (.locked 0 0),
      .post .worker, .worker (.hashed (some [])), .worker (.locked 0 0), .post .worker]

/-- The helper has ended without installing, on a feed that the user has left. -/
def endsLate : List Act :=
  beforeLaunch ++ [.worker (.launched (.started true) 0), .worker (.locked 0 0), .post .worker,
    .ui .channelChanged, .post .ui, .worker (.ended (some 1603) none .notConnected)]

/-- The installer is shown, its release is listed again under another tag, and the installer is
shown once more. -/
def showsAgain : List Act :=
  starts ++ [.ui .checkNow] ++ checks [earlierRelease] 0 ++ [.ui .beginApply] ++ showsInstaller ++
    [.worker (.locked 0 0), .ui .checkNow] ++ checks [releaseOf "23" "1053244730"] 0 ++
    [.ui .revealInstaller, .worker (.locked 0 0), .worker (.locked 0 0),
      .worker (.hashed (some [])), .worker .revealed]

/-- The file that is shown first. -/
def firstInstaller : String :=
  "C:\\updates\\v2026.9.22-1053244730\\URnetwork-2026.9.22-1053244730-x64.msi"

/-- A banner that a late report changes, and an installer of another tag than the offer's. -/
theorem handed_over_otherwise :
    (¬ ∀ (cfg : Config) (es : List (Transition State Act)) (s : State),
      Run (Init cfg) (fun _ s a s' => step cfg s a = some s') es s →
      ∀ pre e post, es = pre ++ e :: post → Late e →
        e.post.offer = e.pre.offer ∧ e.post.snapshot.shown = e.pre.snapshot.shown) ∧
    ¬ ∀ (cfg : Config) (es : List (Transition State Act)) (s : State),
      Run (Init cfg) (fun _ s a s' => step cfg s a = some s') es s →
      ∀ pre e post, es = pre ++ e :: post → ∀ x, handed cfg e = some x →
        AsOffered cfg (ledger pre) ∧ OfOffer cfg (ledger pre) x := by
  constructor
  · intro h
    obtain ⟨es, s, hrun, hgood⟩ := exists_run true (fun _ _ => True) endsLate
      (fun s => (step (copyOf true) s (.worker (.locked 0 0))).any fun s' =>
        s.job.begunUnder = some 0 ∧ s.feedGeneration ≠ 0 ∧ s'.snapshot.phase ≠ s.snapshot.phase)
      (by decide +kernel)
    simp only [and_true] at hrun
    obtain ⟨s', hs, hlate⟩ := (Option.any_eq_true _ _).1 hgood
    obtain ⟨hg, hfeed, hphase⟩ := of_decide_eq_true hlate
    obtain ⟨-, hshown⟩ := h _ _ s' (hrun.snoc hs) es _ [] rfl ⟨⟨_, rfl⟩, 0, hg, hfeed⟩
    have hsame : s'.snapshot.shown.phase = s.snapshot.shown.phase := congrArg Snapshot.phase hshown
    exact hphase hsame
  · intro h
    obtain ⟨es, s, hrun, hgood⟩ := exists_recorded false (fun _ _ => True) showsAgain
      (fun es => es.getLast?.any fun e => (handed (copyOf false) e).any fun x =>
        x = .again firstInstaller ∧
          firstInstaller ≠ (copyOf false).msiPath (ledger es.dropLast).offer)
      (by decide +kernel)
    simp only [and_true] at hrun
    obtain ⟨e, he, hgood⟩ := (Option.any_eq_true _ _).1 hgood
    obtain ⟨x, hx, hgood⟩ := (Option.any_eq_true _ _).1 hgood
    obtain ⟨rfl, hne⟩ := of_decide_eq_true hgood
    have heq : es = es.dropLast ++ e :: [] := (List.dropLast_append_getLast? e he).symm
    obtain ⟨-, -, hfile⟩ := h _ es s hrun es.dropLast e [] heq _ hx
    exact hne hfile

/-- The helper is handed the release that is offered. -/
theorem release_handed_over :
    ∃ pre s s', Run (Init (copyOf true)) (fun _ s a s' => step (copyOf true) s a = some s')
        (pre ++ [⟨s, .worker (.launched (.started true) 0), s'⟩]) s' ∧
      handed (copyOf true) ⟨s, .worker (.launched (.started true) 0), s'⟩ =
        some (.helper "v2026.9.22-1053244730") ∧
      AsOffered (copyOf true) (ledger pre) ∧
      OfRelease (copyOf true) (ledger pre) (.helper "v2026.9.22-1053244730") := by
  obtain ⟨pre, s, hrun, hgood⟩ := exists_run true (fun _ _ => True) beforeLaunch
    (fun s => (step (copyOf true) s (.worker (.launched (.started true) 0))).any fun s' =>
      handed (copyOf true) ⟨s, .worker (.launched (.started true) 0), s'⟩ =
        some (.helper "v2026.9.22-1053244730"))
    (by decide +kernel)
  simp only [and_true] at hrun
  obtain ⟨s', hs, hx⟩ := (Option.any_eq_true _ _).1 hgood
  have hx := of_decide_eq_true hx
  have hrun := hrun.snoc hs
  exact ⟨pre, s, s', hrun, hx, (handed_over_as_offered (copyOf true) _ s' hrun rfl).1 _ hx⟩

end UrnetworkWindows.Checker
