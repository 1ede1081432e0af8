/-
What the steps of the update checker do to the banner and the offer.

The banner is what the snapshot shows of one release: its phase, its code, its version and the
installer.  `mutateFor_cases` says once what a section of the worker does that is gated by the
feed, and `publishCheck_cases` what a check can make of the offer and the banner.  A release that
a check offers is one of the release grammar, newer than this build (`sound_offerOf`).
-/
import UrnetworkWindows.Checker.Worker
import UrnetworkWindows.Lib.Marks
import UrnetworkWindows.Update.Grammar
import UrnetworkWindows.Update.Offer

namespace UrnetworkWindows.Checker

open Update

/-! ### Sections gated by the feed -/

section Sections

variable {s : State} {generation : ℕ} {fn : Snapshot → Snapshot}

lemma mutateFor_of_ne (h : s.feedGeneration ≠ generation) : s.mutateFor generation fn = s :=
  if_pos h

lemma mutateFor_of_eq (h : s.feedGeneration = generation) :
    s.mutateFor generation fn = s.mutate .worker fn :=
  if_neg (not_not_intro h)

lemma mutateFor_cases (s : State) (generation : ℕ) (fn : Snapshot → Snapshot) :
    (s.feedGeneration ≠ generation ∧ s.mutateFor generation fn = s) ∨
      (s.feedGeneration = generation ∧ s.mutateFor generation fn = s.mutate .worker fn) := by
  by_cases h : s.feedGeneration = generation
  · exact .inr ⟨h, mutateFor_of_eq h⟩
  · exact .inl ⟨h, mutateFor_of_ne h⟩

lemma offer_mutateFor (generation : ℕ) (fn : Snapshot → Snapshot) :
    (s.mutateFor generation fn).offer = s.offer := by
  rcases mutateFor_cases s generation fn with ⟨-, heq⟩ | ⟨-, heq⟩ <;> rw [heq]
  rfl

end Sections

/-! ### Steps of the worker -/

/-- Where the work outside the lock takes the worker. -/
inductive Outside (cfg : Config) : Job → WorkerAct → Job → Prop
  | fetched (generation : ℕ) (caller : Caller) (reply : Reply) (nowUnix : ℤ) :
    Outside cfg (.check generation caller .fetch) (.fetched reply nowUnix)
      (.check generation caller (stageOfReply nowUnix reply))
  | downloaded (click : Click) (kept : Option (List UInt8)) (ok : Bool) :
    Outside cfg (.download click) (.downloaded kept ok)
      (if cfg.matchesDigest kept click.offer.digestHex || ok then .verify click
        else .fail click .download)
  | hashed (click : Click) (bytes : Option (List UInt8)) :
    Outside cfg (.hash click) (.hashed bytes)
      (if !cfg.matchesDigest bytes click.offer.digestHex then .fail click .checksum
        else if cfg.viaHelper click then .install click else .manualInstall click)
  | rehashed (generation : ℕ) (installer digest : String) (bytes : Option (List UInt8)) :
    Outside cfg (.rehash generation installer digest) (.hashed bytes)
      (if cfg.matchesDigest bytes digest then .revealAgain generation installer
        else .mismatch generation)
  | refused (click : Click) (unsigned : Bool) (startedUnix : ℤ) :
    Outside cfg (.launch click) (.launched (.refused unsigned) startedUnix)
      (.fail click (if unsigned then .unsigned else .elevation))
  | started (click : Click) (process : Bool) (startedUnix : ℤ) :
    Outside cfg (.launch click) (.launched (.started process) startedUnix)
      (.launched click startedUnix process)
  | ended (click : Click) (startedUnix : ℤ) (exitCode : Option UInt32)
      (file : Option UpdateResult) (vpn : VpnAtStart) :
    Outside cfg (.await click startedUnix) (.ended exitCode file vpn)
      (if (resultOf cfg click startedUnix exitCode file vpn).exitCode = kNotOffered then
        .check click.generation
          (.helper click (resultOf cfg click startedUnix exitCode file vpn)) .begin
        else .report click (resultOf cfg click startedUnix exitCode file vpn))
  | revealed (click : Click) : Outside cfg (.reveal click) .revealed (.loop .job)
  | revealedAgain (generation : ℕ) (installer : String) :
    Outside cfg (.revealAgain generation installer) .revealed (.loop .job)
  | threw {job job' : Job} (h : job.onThrow = some job') : Outside cfg job .threw job'

/-- A step of the worker is a section, the report of the last update at its start, or work outside
the lock, after which only the worker is elsewhere. -/
inductive WorkerMoves (cfg : Config) (s : State) : WorkerAct → State → Prop
  | locked {now nowUnix : ℤ} {s' : State} (h : lockedSection cfg s now nowUnix s.job = some s') :
    WorkerMoves cfg s (.locked now nowUnix) s'
  | reported (hjob : s.job = .start) (file : Option UpdateResult) (seen : String)
      (restartedSince : Bool) (vpn : Option VpnAtStart) :
    WorkerMoves cfg s (.reported file seen restartedSince vpn)
      ((showLastResult cfg s file seen restartedSince vpn).goto (.loop .launch))
  | outside {act : WorkerAct} {job : Job} (h : Outside cfg s.job act job) :
    WorkerMoves cfg s act (s.goto job)

lemma moves_of_workerStep {cfg : Config} {s s' : State} {act : WorkerAct}
    (h : workerStep cfg s act = some s') : WorkerMoves cfg s act s' := by
  cases act with
  | locked now nowUnix => exact .locked h
  | reported file seen restartedSince vpn =>
    rw [workerStep, Option.ite_none_right_eq_some] at h
    obtain rfl := Option.some.inj h.2
    exact .reported h.1 ..
  | fetched reply nowUnix =>
    rw [workerStep] at h
    split at h
    next generation caller hjob =>
      cases h
      exact .outside (hjob ▸ .fetched ..)
    next => cases h
  | downloaded kept ok =>
    rw [workerStep] at h
    split at h
    next click hjob =>
      cases h
      exact .outside (hjob ▸ .downloaded ..)
    next => cases h
  | hashed bytes =>
    rw [workerStep] at h
    split at h
    next click hjob =>
      cases h
      exact .outside (hjob ▸ .hashed ..)
    next generation installer digest hjob =>
      cases h
      exact .outside (hjob ▸ .rehashed ..)
    next => cases h
  | launched answer startedUnix =>
    unfold workerStep at h
    dsimp only at h
    split at h
    next click unsigned hjob =>
      cases h
      exact .outside (hjob ▸ .refused ..)
    next click process hjob =>
      cases h
      exact .outside (hjob ▸ .started ..)
    next => cases h
  | ended exitCode file vpn =>
    rw [workerStep] at h
    split at h
    next click startedUnix hjob =>
      cases h
      exact .outside (hjob ▸ .ended ..)
    next => cases h
  | revealed =>
    rw [workerStep] at h
    split at h
    next click hjob =>
      cases h
      exact .outside (hjob ▸ .revealed _)
    next generation installer hjob =>
      cases h
      exact .outside (hjob ▸ .revealedAgain ..)
    next => cases h
  | threw =>
    rw [workerStep] at h
    obtain ⟨job, hjob, rfl⟩ := Option.map_eq_some_iff.1 h
    exact .outside (.threw hjob)

/-! ### Steps of the user interface -/

/-- The steps of the UI thread. -/
inductive UiMoves (cfg : Config) (s : State) : UiAct → State → Prop
  | dismissed (hui : s.ui = .dismissing) :
    UiMoves cfg s .dismissed { dismiss cfg s with ui := .idle }
  | autoCheckSet {on : Bool} (hui : s.ui = .settingAutoCheck on) (nowUnix : ℤ) :
    UiMoves cfg s (.autoCheckSet nowUnix) { s.mutate .ui fun snap =>
      { snap with
        checkStale := checkIsStale nowUnix snap.lastSuccessUnix (on && cfg.kCode ≠ 0) } with
      ui := .idle }
  | replay (hui : s.ui = .binding) :
    UiMoves cfg s .replay { s with window := some s.snapshot, ui := .idle }
  | checkNow (hui : s.ui = .idle) :
    UiMoves cfg s .checkNow { s with checkRequested := true, laterCode := 0 }
  | beginApply (hui : s.ui = .idle) : UiMoves cfg s .beginApply { s with applyRequested := true }
  | showInstaller (hui : s.ui = .idle) :
    UiMoves cfg s .showInstaller { s with manualRequested := true }
  | revealInstaller (hui : s.ui = .idle) :
    UiMoves cfg s .revealInstaller { s with revealRequested := true }
  | dismissResult (hui : s.ui = .idle) (hphase : s.snapshot.phase = .result) :
    UiMoves cfg s .dismissResult { s with ui := .dismissing }
  | dismissNone (hui : s.ui = .idle) (hphase : s.snapshot.phase ≠ .result) :
    UiMoves cfg s .dismissResult s
  | later (hui : s.ui = .idle) : UiMoves cfg s .later (later s)
  | channelChanged (hui : s.ui = .idle) : UiMoves cfg s .channelChanged (channelChanged cfg s)
  | setAutoCheckEnabled (hui : s.ui = .idle) (on : Bool) (now : ℤ) :
    UiMoves cfg s (.setAutoCheckEnabled on now)
      { s with
        autoCheck := on
        nextAuto := if on then now else s.nextAuto
        ui := .settingAutoCheck on }
  | setHandler (hui : s.ui = .idle) :
    UiMoves cfg s .setHandler { s with handler := true, ui := .binding }
  | runPosted (hui : s.ui = .idle) {snap : Snapshot} {queue : List Snapshot}
      (hqueue : s.queue = snap :: queue) :
    UiMoves cfg s .runPosted { s with window := some snap, queue }

lemma moves_of_uiStep {cfg : Config} {s s' : State} {act : UiAct}
    (h : uiStep cfg s act = some s') : UiMoves cfg s act s' := by
  have hidle : ∀ {next : Option State}, (if s.ui ≠ .idle then none else next) = some s' →
      s.ui = .idle ∧ next = some s' := by
    intro next hnext
    split_ifs at hnext with hui
    exact ⟨not_not.1 hui, hnext⟩
  cases act with
  | dismissed =>
    obtain ⟨hui, hs⟩ := Option.ite_none_right_eq_some.1 h
    cases hs
    exact .dismissed hui
  | autoCheckSet nowUnix =>
    unfold uiStep at h
    dsimp only at h
    split at h
    next on hui =>
      cases h
      exact .autoCheckSet hui nowUnix
    next => cases h
  | replay =>
    obtain ⟨hui, hs⟩ := Option.ite_none_right_eq_some.1 h
    cases hs
    exact .replay hui
  | checkNow =>
    obtain ⟨hui, hs⟩ := hidle h
    cases hs
    exact .checkNow hui
  | beginApply =>
    obtain ⟨hui, hs⟩ := hidle h
    cases hs
    exact .beginApply hui
  | showInstaller =>
    obtain ⟨hui, hs⟩ := hidle h
    cases hs
    exact .showInstaller hui
  | revealInstaller =>
    obtain ⟨hui, hs⟩ := hidle h
    cases hs
    exact .revealInstaller hui
  | dismissResult =>
    obtain ⟨hui, hs⟩ := hidle h
    cases hs
    split_ifs with hphase
    · exact .dismissResult hui hphase
    · exact .dismissNone hui hphase
  | later =>
    obtain ⟨hui, hs⟩ := hidle h
    cases hs
    exact .later hui
  | channelChanged =>
    obtain ⟨hui, hs⟩ := hidle h
    cases hs
    exact .channelChanged hui
  | setAutoCheckEnabled on now =>
    obtain ⟨hui, hs⟩ := hidle h
    cases hs
    exact .setAutoCheckEnabled hui on now
  | setHandler =>
    obtain ⟨hui, hs⟩ := hidle h
    cases hs
    exact .setHandler hui
  | runPosted =>
    obtain ⟨hui, hs⟩ := hidle h
    split at hs
    next => cases hs
    next snap queue hqueue =>
      cases hs
      exact .runPosted hui hqueue

/-- A step is one of the worker, of the UI thread, or the hand-over of a copy. -/
inductive Moves (cfg : Config) (s : State) : Act → State → Prop
  | worker {act : WorkerAct} {s' : State} (hfree : s.publishing .worker = false)
      (h : WorkerMoves cfg s act s') : Moves cfg s (.worker act) s'
  | ui {act : UiAct} {s' : State} (hfree : s.publishing .ui = false) (h : UiMoves cfg s act s') :
    Moves cfg s (.ui act) s'
  | post {t : Thread} {snap : Snapshot}
      (h : s.copies.find? (fun copy => copy.1 = t) = some (t, snap)) :
    Moves cfg s (.post t)
      { s with
        copies := s.copies.eraseP fun copy => copy.1 = t
        queue := if s.handler then s.queue ++ [snap] else s.queue }

lemma moves_of_step {cfg : Config} {s s' : State} {a : Act} (h : step cfg s a = some s') :
    Moves cfg s a s' := by
  cases a with
  | worker act =>
    rw [step] at h
    split_ifs at h with hfree
    exact .worker (eq_false_of_ne_true hfree) (moves_of_workerStep h)
  | ui act =>
    rw [step] at h
    split_ifs at h with hfree
    exact .ui (eq_false_of_ne_true hfree) (moves_of_uiStep h)
  | post t =>
    obtain ⟨⟨t', snap⟩, hfind, rfl⟩ := Option.map_eq_some_iff.1 h
    have ht := List.find?_some hfind
    obtain rfl : t' = t := of_decide_eq_true ht
    exact .post hfind

/-! ### The banner -/

/-- What the banner shows of a release. -/
structure Banner where
  phase : Phase
  code : ℕ
  version : String
  installerPath : String

/-- The banner of a snapshot. -/
def Snapshot.banner (snap : Snapshot) : Banner where
  phase := snap.phase
  code := snap.code
  version := snap.version
  installerPath := snap.installerPath

section Banners

variable {snap snap' : Snapshot} (cfg : Config) (laterCode : ℕ) (offer : Offer) (succeeded : ℤ)
  (sel : Selection)

lemma bannerOfOffer_congr (h : snap.banner = snap'.banner) :
    (bannerOfOffer laterCode offer snap).banner = (bannerOfOffer laterCode offer snap').banner := by
  obtain ⟨hphase, hcode, hversion, hpath⟩ := Banner.mk.inj h
  unfold bannerOfOffer
  rw [hphase, hcode]
  split_ifs <;> first | exact h | rfl

lemma bannerOfNone_congr (h : snap.banner = snap'.banner) :
    (bannerOfNone cfg succeeded sel snap).banner =
      (bannerOfNone cfg succeeded sel snap').banner := by
  obtain ⟨hphase, -, -, -⟩ := Banner.mk.inj h
  unfold bannerOfNone
  rw [hphase]
  split_ifs
  · rfl
  · exact h

end Banners

/-! ### What a check makes of the offer -/

/-- An offer that the release grammar reads, above this build. -/
structure Sound (cfg : Config) (offer : Offer) : Prop where
  newer : cfg.kCode < offer.code
  version : offer.version ≠ ""
  tag : parseReleaseCode offer.tag.toList = offer.code

lemma Sound.code_ne_zero {cfg : Config} {offer : Offer} (h : Sound cfg offer) : offer.code ≠ 0 :=
  Nat.ne_of_gt (Nat.zero_lt_of_lt h.newer)

lemma of_parseFeedTag {tag : String} {t : FeedTag} (h : parseFeedTag kOfficialFeed tag = some t) :
    parseReleaseCode tag.toList = t.code ∧ t.version ≠ "" := by
  have hprefix : kOfficialFeed.tagPrefix.toList = [] := by decide
  rw [parseFeedTag, hprefix, List.length_nil, List.take_zero, List.drop_zero,
    if_neg (not_not_intro rfl)] at h
  have hcode : parseReleaseCode tag.toList ≠ 0 := by
    intro hzero
    rw [if_pos hzero] at h
    exact absurd h (Option.some_ne_none t).symm
  rw [if_neg hcode] at h
  obtain ⟨text, htext, hversion⟩ := isReleaseTag_of_parse hcode
  cases h
  refine ⟨rfl, ?_⟩
  obtain ⟨⟨year, month, day, digits, beta, rfl, hyear, -⟩, -⟩ := hversion
  obtain ⟨c, year, rfl⟩ := List.exists_cons_of_ne_nil hyear.ne_nil
  have hv : c ≠ 'v' := by
    rintro rfl
    exact absurd (hyear.digits 'v' List.mem_cons_self) (by decide)
  rcases htext with htag | htag <;> rw [htag]
  · simp [hv]
  · simp

lemma sound_offerOf {cfg : Config} {releases : List Release} {serverUnixSeconds : ℤ}
    (h : cfg.kCode < (offerOf (selectRelease releases cfg.kArch kOfficialFeed
      serverUnixSeconds)).code) :
    Sound cfg (offerOf (selectRelease releases cfg.kArch kOfficialFeed serverUnixSeconds)) := by
  generalize hsel : selectRelease releases cfg.kArch kOfficialFeed serverUnixSeconds = sel at h ⊢
  unfold offerOf at h ⊢
  split_ifs at h ⊢ with hcode
  · obtain ⟨c, hmem, -, hoffer, -⟩ := exists_of_code_ne_zero (hsel.symm ▸ hcode.1)
    obtain ⟨htag, hversion⟩ := of_parseFeedTag (mem_counting.1 hmem).2.1.parsed
    rw [hsel] at hoffer
    obtain ⟨hcode', hversion', htag', -, -, -⟩ := Update.Offer.mk.inj hoffer
    refine ⟨h, ?_, ?_⟩
    · rw [hversion']
      exact hversion
    · rw [htag', hcode']
      exact htag
  · exact absurd h (by simp)

section Published

variable (cfg : Config) (s : State) (generation : ℕ) (succeeded serverUnixSeconds : ℤ)
  (releases : List Release) (now : ℤ)

/-- What a check does to the offer and the banner. -/
inductive Published : State → Prop
  | dropped {s' : State} (hfeed : s.feedGeneration ≠ generation) (hoffer : s'.offer = s.offer)
      (hbanner : s'.snapshot.banner = s.snapshot.banner)
      (hoffered : s'.snapshot.offeredCode = s.snapshot.offeredCode) : Published s'
  | dev {s' : State} (hfeed : s.feedGeneration = generation) (hdev : cfg.kCode = 0)
      (hoffer : s'.offer = s.offer) (hbanner : s'.snapshot.banner = s.snapshot.banner)
      (hoffered : s'.snapshot.offeredCode = s'.offer.code) : Published s'
  | offers {s' : State} (hfeed : s.feedGeneration = generation) (hsound : Sound cfg s'.offer)
      (hbanner : s'.snapshot.banner = (bannerOfOffer s.laterCode s'.offer s.snapshot).banner)
      (hoffered : s'.snapshot.offeredCode = s'.offer.code) : Published s'
  | none {s' : State} (hfeed : s.feedGeneration = generation) (hoffer : s'.offer = {})
      (hbanner : s'.snapshot.banner = (bannerOfNone cfg succeeded
        (selectRelease releases cfg.kArch kOfficialFeed serverUnixSeconds) s.snapshot).banner)
      (hoffered : s'.snapshot.offeredCode = s'.offer.code) : Published s'

lemma publishCheck_cases : Published cfg s generation succeeded serverUnixSeconds releases
    (publishCheck cfg s generation succeeded serverUnixSeconds releases now) := by
  unfold publishCheck
  dsimp only
  generalize hsel : selectRelease releases cfg.kArch kOfficialFeed serverUnixSeconds = sel
  by_cases hfeed : s.feedGeneration ≠ generation
  · rw [if_pos hfeed]
    exact .dropped hfeed rfl rfl rfl
  · rw [if_neg hfeed]
    have hfeed := not_not.1 hfeed
    unfold takeOffer
    dsimp only
    by_cases hdev : cfg.kCode = 0
    · rw [if_pos hdev]
      exact .dev hfeed hdev rfl rfl rfl
    rw [if_neg hdev]
    by_cases hoffer : (offerOf sel).code > cfg.kCode
    · rw [if_pos hoffer]
      refine .offers hfeed ?_ (bannerOfOffer_congr _ _ rfl) rfl
      rw [← hsel] at hoffer ⊢
      exact sound_offerOf hoffer
    · rw [if_neg hoffer]
      refine .none hfeed rfl ?_ rfl
      rw [hsel]
      exact bannerOfNone_congr _ _ _ rfl

/-- What a check leaves alone. -/
structure Leaves (s s' : State) : Prop where
  laterCode : s'.laterCode = s.laterCode
  feedGeneration : s'.feedGeneration = s.feedGeneration
  checkRequested : s'.checkRequested = s.checkRequested
  applyRequested : s'.applyRequested = s.applyRequested
  manualRequested : s'.manualRequested = s.manualRequested
  handler : s'.handler = s.handler
  queue : s'.queue = s.queue
  window : s'.window = s.window
  ui : s'.ui = s.ui

lemma publishCheck_leaves : Leaves s
    (publishCheck cfg s generation succeeded serverUnixSeconds releases now) := by
  unfold publishCheck takeOffer
  dsimp only
  split_ifs <;> exact ⟨rfl, rfl, rfl, rfl, rfl, rfl, rfl, rfl, rfl⟩

lemma offer_publishCheck :
    (publishCheck cfg s generation succeeded serverUnixSeconds releases now).offer =
      if s.feedGeneration ≠ generation ∨ cfg.kCode = 0 then s.offer
      else if cfg.kCode < (offerOf (selectRelease releases cfg.kArch kOfficialFeed
        serverUnixSeconds)).code then
        offerOf (selectRelease releases cfg.kArch kOfficialFeed serverUnixSeconds)
      else {} := by
  unfold publishCheck takeOffer
  dsimp only
  by_cases hfeed : s.feedGeneration ≠ generation
  · rw [if_pos hfeed, if_pos (Or.inl hfeed)]
  rw [if_neg hfeed]
  by_cases hdev : cfg.kCode = 0
  · rw [if_pos hdev, if_pos (Or.inr hdev)]
    rfl
  rw [if_neg hdev, if_neg (not_or.2 ⟨hfeed, hdev⟩)]
  by_cases hnewer : cfg.kCode < (offerOf (selectRelease releases cfg.kArch kOfficialFeed
    serverUnixSeconds)).code
  · rw [if_pos hnewer, if_pos hnewer]
    rfl
  · rw [if_neg hnewer, if_neg hnewer]
    rfl

lemma publishCheck_copies (h : s.feedGeneration = generation) :
    (publishCheck cfg s generation succeeded serverUnixSeconds releases now).copies =
      s.copies ++ [(.worker,
        (publishCheck cfg s generation succeeded serverUnixSeconds releases now).snapshot)] := by
  unfold publishCheck takeOffer
  dsimp only
  rw [if_neg (not_not_intro h)]
  split_ifs <;> rfl

end Published

/-! ### A copy and its release -/

/-- A hash that tells an empty file from any other. -/
def emptyOrNot (bytes : List UInt8) : String :=
  if bytes = [] then "e3b0c44298fc1c149afbf4c8996fb92427ae41e4649b934ca495991b7852b855"
  else "6e340b9cffb37a989ca544e6bb780a2c78901d3fb33738768511a30617afa01d"

/-- A copy older than every release. -/
def copyOf (installed : Bool) : Config where
  kCode := 1
  kArch := "x64"
  installed := installed
  installFolder := "C:\\Program Files\\URnetwork"
  updatesDir := "C:\\updates"
  sha256 := emptyOrNot

/-- A release whose package is an empty file. -/
def releaseOf (day code : String) : Release where
  tag := "v2026.9." ++ day ++ "-" ++ code
  immutable := true
  publishedAt := "2026-09-22T13:00:00Z"
  updatedAt := "2026-09-22T13:00:00Z"
  assets := [{
    name := "URnetwork-2026.9." ++ day ++ "-" ++ code ++ "-x64.msi"
    url := feedAssetUrl ("v2026.9." ++ day ++ "-" ++ code)
      ("URnetwork-2026.9." ++ day ++ "-" ++ code ++ "-x64.msi")
    digest := "sha256:e3b0c44298fc1c149afbf4c8996fb92427ae41e4649b934ca495991b7852b855"
    updatedAt := "2026-09-22T12:00:00Z" }]

/-- The release of 22 September. -/
def earlierRelease : Release := releaseOf "22" "1053244730"

/-- The worker's start, up to its loop. -/
def starts : List Act := [.worker (.reported none "" false none)]

/-- A check from its request to its publication, at the given second of the steady clock. -/
def checks (releases : List Release) (now : ℤ) : List Act :=
  [.worker (.locked now 0), .worker (.locked now 0), .worker (.locked now 0), .post .worker,
    .worker (.fetched (.list releases 1790380800) 1790380800), .worker (.locked now 0),
    .post .worker]

lemma exists_run (installed : Bool) (cond : State → Act → Prop) [∀ s a, Decidable (cond s a)]
    (as : List Act) (good : State → Bool)
    (h : ((Lib.execute (step (copyOf installed)) (fun s a => decide (cond s a))
      { snapshot := { installed, lastSuccessUnix := 1 } } as).any good) = true) :
    ∃ es s, Lib.Run (Init (copyOf installed))
      (fun _ s a s' => step (copyOf installed) s a = some s' ∧ cond s a) es s ∧ good s = true :=
  Lib.Run.exists_of_execute _ _ (fun _ _ _ _ hok hs => ⟨hs, of_decide_eq_true hok⟩)
    ⟨1, true, rfl⟩ as good h

lemma exists_recorded (installed : Bool) (cond : State → Act → Prop)
    [∀ s a, Decidable (cond s a)] (as : List Act)
    (good : List (Lib.Transition State Act) → Bool)
    (h : ((Lib.record (step (copyOf installed)) (fun s a => decide (cond s a))
      { snapshot := { installed, lastSuccessUnix := 1 } } as).any good) = true) :
    ∃ es s, Lib.Run (Init (copyOf installed))
      (fun _ s a s' => step (copyOf installed) s a = some s' ∧ cond s a) es s ∧ good es = true :=
  Lib.Run.exists_of_record (fun _ _ _ _ hok hs => ⟨hs, of_decide_eq_true hok⟩) ⟨1, true, rfl⟩ as
    good h

end UrnetworkWindows.Checker
