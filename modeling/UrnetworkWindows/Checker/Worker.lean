/-
The update checker (`UpdateChecker.h`, `UpdateChecker.cpp`) as the steps its threads take.

One worker owns every check and every apply.  A step of it is one section under `mutex_`, or the
work it does between two of them, of which only the outcome is kept: what GitHub answered, what
was in a file that was hashed, how the helper ended.  The user interface's calls are sections too,
between any two of the worker's.  Whoever changes the snapshot copies it in the same section and
hands the copy to the handler in a later step, which posts it to the window's queue.

The app's exit, which ends the worker, is no step.  A thread throws in the work it does outside
the lock, and nowhere else; of a check, only up to the section that publishes it: throws after
that section (in the handler's call, in the note of a report that the offer replaced and in the
removal of the other downloads) are left out.  Generations and codes are 64-bit in the source and
never wrap here; the steady clock counts nanoseconds and wall clocks seconds.
-/
import UrnetworkWindows.Checker.Report

namespace UrnetworkWindows.Checker

open Update

/-! ### What the window is shown -/

/-- `UpdateChecker::Phase`. -/
inductive Phase
  | none | available | applying | manualInstall | failed | result
deriving DecidableEq, Repr

/-- `UpdateChecker::Stage`. -/
inductive Stage
  | idle | checking | downloading | verifying | installing | helper
deriving DecidableEq, Repr

/-- `UpdateChecker::Failure`. -/
inductive Failure
  | none | download | checksum | elevation | held | unsigned | unconfirmed
deriving DecidableEq, Repr

/-- `UpdateChecker::CheckOutcome`. -/
inductive CheckOutcome
  | neverRan | inFlight | noUpdate | updateFound | devBuild | failed
deriving DecidableEq, Repr

/-- `VpnAtStart`. -/
inductive VpnAtStart
  | unknown | notConnected | connected
deriving DecidableEq, Repr

/-- `UpdateChecker::Result`. -/
structure Result where
  version : String := ""
  exitCode : ℤ := 0
  logPath : String := ""
  finishedUtc : String := ""
  view : ReportView := .hidden
  vpn : Option VpnAtStart := some .unknown
deriving DecidableEq, Repr

/-- `UpdateChecker::Snapshot`. -/
structure Snapshot where
  phase : Phase := .none
  stage : Stage := .idle
  failure : Failure := .none
  version : String := ""
  code : ℕ := 0
  installerPath : String := ""
  installed : Bool := false
  result : Result := {}
  offeredCode : ℕ := 0
  lastSuccessUnix : ℤ := 0
  checkStale : Bool := false
  holdUntilUnix : ℤ := 0
  lastCheck : CheckOutcome := .neverRan
  newestVersion : String := ""
  newestCode : ℕ := 0
  waitingVersion : String := ""
  waitingCode : ℕ := 0
  waitingFromUnix : ℤ := 0
  replacedVersion : String := ""
  replacedByCode : ℕ := 0
deriving DecidableEq, Repr

/-- `UpdateChecker::Offer`. -/
structure Offer where
  version : String := ""
  code : ℕ := 0
  tag : String := ""
  msiUrl : String := ""
  digestHex : String := ""
  msiName : String := ""
deriving DecidableEq, Repr

/-! ### The machine and this build -/

/-- What the checker finds at its start and never changes, and the hash that Windows computes. -/
structure Config where
  kCode : ℕ
  kArch : String
  installed : Bool
  installFolder : String
  updatesDir : String
  sha256 : List UInt8 → String

/-- `FeedAssetUrl` of the official feed. -/
def feedAssetUrl (tag asset : String) : String :=
  "https://github.com/" ++ "urnetwork" ++ "/" ++ "build" ++ "/releases/download/" ++ tag ++ "/" ++
    asset

/-- `Sha256File`: what was in the file, or nothing where it could not be read. -/
def Config.sha256File (cfg : Config) (bytes : Option (List UInt8)) : String :=
  (bytes.map cfg.sha256).getD ""

/-- A file matches a digest (`IsCheckedDownload`, and the checks of `RunApply` and `RunReveal`). -/
def Config.matchesDigest (cfg : Config) (bytes : Option (List UInt8)) (digestHex : String) : Bool :=
  digestHex ≠ "" ∧ cfg.sha256File bytes ≠ "" ∧ equalsAsciiCaseless digestHex (cfg.sha256File bytes)

/-- Where the package of an offer is downloaded to. -/
def Config.msiPath (cfg : Config) (offer : Offer) : String :=
  cfg.updatesDir ++ "\\" ++ offer.tag ++ "\\" ++ offer.msiName

/-- `ResultLogPath`. -/
def Config.resultLogPath (cfg : Config) (result : UpdateResult) : String :=
  cfg.installFolder ++ "\\updates\\" ++ result.tag ++ "\\" ++
    if outcomeOf result.exitCode = .refused then "update-helper.log" else "install.log"

/-- `VersionOfTag`. -/
def versionOfTag (tag : String) : String :=
  if tag.toList.head? = some 'v' then String.ofList (tag.toList.drop 1) else tag

/-- What a check offers of what it selected: nothing where the download is not its feed's. -/
def offerOf (sel : Selection) : Offer :=
  if sel.code ≠ 0 ∧ sel.assetUrl = feedAssetUrl sel.tag sel.assetName then
    { version := sel.version
      code := sel.code
      tag := sel.tag
      msiUrl := sel.assetUrl
      digestHex := sel.digestHex
      msiName := sel.assetName }
  else {}

/-! ### Where the threads are -/

/-- A click that `RunApply` took: its arguments and its own copy of the offer. -/
structure Click where
  generation : ℕ
  manual : Bool
  offer : Offer
deriving DecidableEq, Repr

/-- The helper installs; otherwise the user is handed the installer. -/
def Config.viaHelper (cfg : Config) (click : Click) : Bool := cfg.installed && !click.manual

/-- Who runs a check. -/
inductive Caller
  | loop
  | apply (click : Click)
  | helper (click : Click) (result : Result)
  | reveal
deriving DecidableEq, Repr

/-- The sections of `RunCheck`. -/
inductive CheckStage
  | begin
  | ask
  | fetch
  | refused (wait : ℤ)
  | failed
  | publish (succeeded serverUnixSeconds : ℤ) (releases : List Release)
deriving DecidableEq, Repr

/-- What the worker comes back to its loop from. -/
inductive Back
  | launch | job | check
deriving DecidableEq, Repr

/-- What the worker does next. -/
inductive Job
  | start
  | loop (back : Back)
  | check (generation : ℕ) (caller : Caller) (stage : CheckStage)
  -- `RunApply`
  | claim (generation : ℕ) (manual : Bool)
  | judge (click : Click) (checked : Bool)
  | noteReplaced (click : Click)
  | close (click : Click)
  | fail (click : Click) (failure : Failure)
  | askHold (click : Click)
  | begin (click : Click)
  | download (click : Click)
  | verify (click : Click)
  | hash (click : Click)
  | manualInstall (click : Click)
  | reveal (click : Click)
  | install (click : Click)
  | launch (click : Click)
  | launched (click : Click) (startedUnix : ℤ) (process : Bool)
  | await (click : Click) (startedUnix : ℤ)
  | judgeReport (click : Click) (result : Result) (checked : Bool)
  | report (click : Click) (result : Result)
  -- `RunApply` threw
  | threw (generation : ℕ)
  -- `RunReveal`
  | look (generation : ℕ) (asked : Bool)
  | unconfirmed (generation : ℕ)
  | rehash (generation : ℕ) (installer digest : String)
  | mismatch (generation : ℕ)
  | revealAgain (generation : ℕ) (installer : String)
deriving DecidableEq, Repr

/-- What the UI thread is in the middle of. -/
inductive UiTask
  | idle
  | dismissing
  | settingAutoCheck (on : Bool)
  | binding
deriving DecidableEq, Repr

/-- The two threads. -/
inductive Thread
  | worker | ui
deriving DecidableEq, Repr

/-- The members of `UpdateChecker`, the threads, the copies on their way to the handler in the
order of the changes, and the window. -/
structure State where
  snapshot : Snapshot := {}
  offer : Offer := {}
  offerServerUnix : ℤ := 0
  offerCheckedAt : ℤ := 0
  laterCode : ℕ := 0
  feedGeneration : ℕ := 0
  checkRequested : Bool := false
  applyRequested : Bool := false
  manualRequested : Bool := false
  revealRequested : Bool := false
  autoCheck : Bool := true
  nextAuto : ℤ := 0
  holdUntil : ℤ := 0
  holdUntilUnix : ℤ := 0
  job : Job := .start
  ui : UiTask := .idle
  copies : List (Thread × Snapshot) := []
  handler : Bool := false
  queue : List Snapshot := []
  window : Option Snapshot := none
deriving DecidableEq, Repr

/-- The steady clock's ticks in a second. -/
def kTicks : ℤ := 1000000000

/-- `kLaunchDelay`. -/
def kLaunchDelay : ℤ := 30 * kTicks

/-- `kCheckInterval`. -/
def kCheckInterval : ℤ := 6 * 60 * 60 * kTicks

namespace State

/-- `Mutate`, up to the call of the handler. -/
def mutate (s : State) (t : Thread) (fn : Snapshot → Snapshot) : State :=
  { s with
    snapshot := fn s.snapshot
    copies := s.copies ++ [(t, fn s.snapshot)] }

/-- `MutateFor`, up to the call of the handler. -/
def mutateFor (s : State) (generation : ℕ) (fn : Snapshot → Snapshot) : State :=
  if s.feedGeneration ≠ generation then s else s.mutate .worker fn

/-- The worker goes on to its next job. -/
def goto (s : State) (job : Job) : State := { s with job }

/-- The thread has a copy that it has not handed to the handler. -/
def publishing (s : State) (t : Thread) : Bool := s.copies.any fun copy => copy.1 = t

/-- The offer may have changed since the check that made it. -/
def offerIsStale (s : State) (now : ℤ) : Bool :=
  offerMayHaveChanged kOfficialFeed s.offerServerUnix ((now - s.offerCheckedAt).tdiv kTicks)

end State

/-! ### The check -/

section Check

variable (cfg : Config) (s : State)

/-- What the worker does once a check has returned. -/
def resume (generation : ℕ) (caller : Caller) (checked : Bool) : Job :=
  match caller with
  | .loop => .loop .check
  | .apply click => .judge click checked
  | .helper click result => .judgeReport click result checked
  | .reveal => if checked then .look generation true else .unconfirmed generation

/-- `CheckFailed`. -/
def checkFailed (generation : ℕ) (nowUnix : ℤ) : State :=
  s.mutateFor generation fun snap =>
    { snap with
      lastCheck := .failed
      checkStale := checkIsStale nowUnix snap.lastSuccessUnix (s.autoCheck && cfg.kCode ≠ 0) }

/-- The banner offers a release. -/
def Snapshot.offering (snap : Snapshot) (offer : Offer) : Snapshot :=
  { snap with
    phase := .available
    stage := .idle
    failure := .none
    version := offer.version
    code := offer.code
    installerPath := "" }

/-- The banner closes. -/
def Snapshot.closed (snap : Snapshot) : Snapshot :=
  { snap with
    phase := .none
    stage := .idle
    failure := .none
    version := ""
    code := 0
    installerPath := "" }

/-- The banner after a check that offers a release above this build. -/
def bannerOfOffer (laterCode : ℕ) (offer : Offer) (snap : Snapshot) : Snapshot :=
  if hiddenByLater laterCode offer.code then
    if snap.phase ≠ .result ∧ snap.code ≠ 0 ∧ snap.code ≠ offer.code then snap.closed else snap
  else if snap.phase = .none ∨ snap.code ≠ offer.code then snap.offering offer
  else snap

/-- The banner after a check that offers none. -/
def bannerOfNone (succeeded : ℤ) (sel : Selection) (snap : Snapshot) : Snapshot :=
  if snap.phase ≠ .none ∧ snap.phase ≠ .result then
    { installed := cfg.installed
      lastSuccessUnix := succeeded
      lastCheck := .noUpdate
      newestVersion := sel.newestVersion
      newestCode := sel.newestCode }
  else snap

/-- What a check sets the offer and the banner to, for the feed it was made of. -/
def takeOffer (succeeded serverUnixSeconds now : ℤ) (sel : Selection) (snap : Snapshot) : State :=
  let snap := { snap with newestCode := sel.newestCode, newestVersion := sel.newestVersion }
  if cfg.kCode = 0 then
    { s with
      snapshot :=
        { snap with lastCheck := if sel.newestCode ≠ 0 then .devBuild else .noUpdate } }
  else if (offerOf sel).code > cfg.kCode then
    { s with
      offer := offerOf sel
      offerServerUnix := serverUnixSeconds
      offerCheckedAt := now
      snapshot := bannerOfOffer s.laterCode (offerOf sel) { snap with lastCheck := .updateFound } }
  else
    { s with
      offer := {}
      snapshot := bannerOfNone cfg succeeded sel { snap with lastCheck := .noUpdate } }

/-- What a check names as waiting. -/
def Snapshot.naming (snap : Snapshot) (kCode offeredCode : ℕ) (sel : Selection) : Snapshot :=
  let waiting : Bool := kCode ≠ 0 ∧ sel.waitingCode > kCode ∧ sel.waitingCode > offeredCode
  { snap with
    offeredCode
    waitingCode := if waiting then sel.waitingCode else 0
    waitingVersion := if waiting then sel.waitingVersion else ""
    waitingFromUnix := if waiting then sel.waitingFromUnixSeconds else 0 }

/-- The last section of `RunCheck`. -/
def publishCheck (generation : ℕ) (succeeded serverUnixSeconds : ℤ) (releases : List Release)
    (now : ℤ) : State :=
  let sel := selectRelease releases cfg.kArch kOfficialFeed serverUnixSeconds
  let snap :=
    { s.snapshot with lastSuccessUnix := succeeded, checkStale := false, holdUntilUnix := 0 }
  if s.feedGeneration ≠ generation then { s with snapshot := snap }
  else
    let s := takeOffer cfg s succeeded serverUnixSeconds now sel snap
    s.mutate .worker fun snap => snap.naming cfg.kCode s.offer.code sel

/-- The sections of `RunCheck`, in their order. -/
def checkSection (generation : ℕ) (caller : Caller) (now nowUnix : ℤ) :
    CheckStage → Option State
  | .begin =>
    some (s.goto (.check generation caller (if now < s.holdUntil then .failed else .ask)))
  | .ask =>
    some ((s.mutateFor generation fun snap => { snap with lastCheck := .inFlight }).goto
      (.check generation caller .fetch))
  | .fetch => none
  | .refused wait =>
    some { s with
      holdUntil := now + wait * kTicks
      holdUntilUnix := nowUnix + wait
      snapshot := { s.snapshot with holdUntilUnix := nowUnix + wait }
      job := .check generation caller .failed }
  | .failed =>
    some ((checkFailed cfg s generation nowUnix).goto (resume generation caller false))
  | .publish succeeded serverUnixSeconds releases =>
    some ((publishCheck cfg s generation succeeded serverUnixSeconds releases now).goto
      (resume generation caller (s.feedGeneration = generation)))

/-- What GitHub answered a request for the release list. -/
inductive Reply
  | refused (limit : RateLimit)
  | unreadable
  | list (releases : List Release) (serverUnixSeconds : ℤ)
deriving DecidableEq, Repr

/-- What `RunCheck` makes of the answer. -/
def stageOfReply (nowUnix : ℤ) : Reply → CheckStage
  | .refused limit =>
    if nextCheckDelaySeconds 0 limit > 0 then .refused (nextCheckDelaySeconds 0 limit) else .failed
  | .unreadable => .failed
  | .list releases serverUnixSeconds =>
    if serverUnixSeconds = 0 then .failed else .publish nowUnix serverUnixSeconds releases

end Check

/-! ### The apply -/

section Apply

variable (cfg : Config) (s : State)

/-- The banner offers its release for an action: `ShowInstaller` also answers a report. -/
def Phase.actionable (phase : Phase) (manual : Bool) : Bool :=
  phase = .available || phase = .failed || phase = .manualInstall || (manual && phase = .result)

/-- The click is taken: the banner shows the release as being worked on. -/
def Snapshot.claimed (snap : Snapshot) (stale : Bool) (offer : Offer) : Snapshot :=
  { snap with
    phase := .applying
    stage := if stale then .checking else .downloading
    failure := .none
    version := offer.version
    code := offer.code
    installerPath := ""
    replacedVersion := ""
    replacedByCode := 0 }

/-- `RunApply` up to the first copy. -/
def claim (generation : ℕ) (manual : Bool) (now : ℤ) : State :=
  if !s.snapshot.phase.actionable manual || s.offer.code = 0 || s.feedGeneration ≠ generation then
    s.goto (.loop .job)
  else if s.snapshot.code ≠ s.offer.code then s.goto (.loop .job)
  else
    let stale := s.offerIsStale now
    let click : Click := { generation, manual, offer := s.offer }
    (s.mutate .worker fun snap => snap.claimed stale s.offer).goto
      (if stale then .check generation (.apply click) .begin else .askHold click)

/-- What a click has come to, from what stands once its check has returned. -/
def clickStep (click : Click) (checked viaHelper : Bool) : ClickStep :=
  stepAfterCheck
    { clickedCode := click.offer.code
      sameFeed := s.feedGeneration = click.generation
      checked
      offeredCode := s.offer.code
      bannerHolds := s.snapshot.phase = .applying && s.snapshot.code = click.offer.code
      laterCode := s.laterCode
      viaHelper }

/-- `RunApply` once its check has returned. -/
def judge (click : Click) (checked : Bool) : State :=
  let job := match clickStep s click checked (cfg.viaHelper click) with
    | .proceed => .askHold { click with offer := s.offer }
    | .replaced => .noteReplaced click
    | .withdrawn => .loop .job
    | .unconfirmed => .fail click .unconfirmed
    | .dropped => .close click
  { s with applyRequested := false, manualRequested := false, job }

/-- `NoteReplaced`. -/
def noteReplaced (generation : ℕ) (replaced : String) : State :=
  s.mutateFor generation fun snap =>
    if snap.phase ≠ .available ∨ snap.code = 0 ∨ snap.code ≠ s.offer.code then snap
    else { snap with replacedVersion := replaced, replacedByCode := snap.code }

/-- A banner still held for a dropped click closes. -/
def Snapshot.dropped (snap : Snapshot) (code : ℕ) : Snapshot :=
  if snap.phase ≠ .applying ∨ snap.code ≠ code then snap
  else { snap with phase := .none, stage := .idle, version := "", code := 0 }

/-- `fail` of `RunApply`, and what the loop does after an apply that threw. -/
def Snapshot.failedFor (snap : Snapshot) (failure : Failure) : Snapshot :=
  { snap with phase := .failed, stage := .idle, failure }

/-- The update begins. -/
def Snapshot.downloading (snap : Snapshot) (offer : Offer) : Snapshot :=
  { snap with
    phase := .applying
    stage := .downloading
    failure := .none
    version := offer.version
    code := offer.code
    installerPath := "" }

/-- The last section of `RunApply` after a helper that ended. -/
def reportResult (result : Result) : State :=
  s.mutate .worker fun snap =>
    let snap := { snap with stage := .idle, failure := .none, offeredCode := s.offer.code }
    if result.view = .hidden then { snap with phase := .none, result := {} }
    else { snap with phase := .result, version := result.version, result }

/-- What `RunApply` shows of a helper that ended. -/
def resultOf (click : Click) (startedUnix : ℤ) (exitCode : Option UInt32)
    (file : Option UpdateResult) (vpn : VpnAtStart) : Result :=
  let ended : ℤ := (exitCode.map fun code => (code.toNat : ℤ)).getD 1603
  let outcome : UpdateResult :=
    { tag := click.offer.tag, code := click.offer.code, exitCode := ended }
  match (readResult file).filter fun report =>
      isReportOfRun report outcome.tag ended startedUnix with
  | some report =>
    { version := click.offer.version
      exitCode := ended
      logPath := cfg.resultLogPath report
      finishedUtc := report.finishedUtc
      view := viewOfReport report cfg.kCode true false
      vpn := some vpn }
  | none =>
    { version := click.offer.version
      exitCode := ended
      view := viewOfReport outcome cfg.kCode true false
      vpn := some vpn }

end Apply

/-! ### The worker -/

/-- How the start of the helper went. -/
inductive LaunchAnswer
  | refused (unsigned : Bool)
  | started (process : Bool)
deriving DecidableEq, Repr

/-- A step of the worker, with what it read outside the checker. -/
inductive WorkerAct
  | locked (now nowUnix : ℤ)
  | reported (file : Option UpdateResult) (seen : String) (restartedSince : Bool)
      (vpn : Option VpnAtStart)
  | fetched (reply : Reply) (nowUnix : ℤ)
  | downloaded (kept : Option (List UInt8)) (ok : Bool)
  | hashed (bytes : Option (List UInt8))
  | launched (answer : LaunchAnswer) (startedUnix : ℤ)
  | ended (exitCode : Option UInt32) (file : Option UpdateResult) (vpn : VpnAtStart)
  | revealed
  | threw
deriving DecidableEq, Repr

section Worker

variable (cfg : Config) (s : State)

/-- `ShowLastResult`. -/
def showLastResult (file : Option UpdateResult) (seen : String) (restartedSince : Bool)
    (vpn : Option VpnAtStart) : State :=
  match readResult file with
  | none => s
  | some result =>
    let view := viewOfReport result cfg.kCode false restartedSince
    if !cfg.installed || seen = result.finishedUtc || view = .hidden then s
    else
      s.mutate .worker fun snap =>
        { snap with
          phase := .result
          stage := .idle
          failure := .none
          version := versionOfTag result.tag
          code := result.code
          installerPath := ""
          result :=
            { version := versionOfTag result.tag
              exitCode := result.exitCode
              logPath := cfg.resultLogPath result
              finishedUtc := result.finishedUtc
              view
              vpn } }

/-- When the next check is due, as the worker takes the lock again. -/
def cadence (now : ℤ) : Back → ℤ
  | .launch => now + kLaunchDelay
  | .job => s.nextAuto
  | .check => max (now + kCheckInterval) s.holdUntil

/-- `WorkerLoop`, from where it takes the lock to where it lets go of it. -/
def dispatch (back : Back) (now : ℤ) : State :=
  let s := { s with nextAuto := cadence s now back }
  if s.applyRequested || s.manualRequested then
    { s with
      applyRequested := false
      manualRequested := false
      job := .claim s.feedGeneration (s.manualRequested && !s.applyRequested) }
  else if s.revealRequested then
    { s with
      revealRequested := false
      job := .look s.feedGeneration false }
  else if s.checkRequested || (s.autoCheck && cfg.kCode ≠ 0 && s.nextAuto ≤ now) then
    { s with
      checkRequested := false
      job := .check s.feedGeneration .loop .begin }
  else s.goto (.loop .job)

/-- The section that `RunReveal` begins with, and comes back to after a check. -/
def look (generation : ℕ) (asked : Bool) (now : ℤ) : State :=
  if s.snapshot.phase ≠ .manualInstall ∨ s.snapshot.installerPath = "" ∨
      s.feedGeneration ≠ generation ∨ s.offer.code ≠ s.snapshot.code then
    s.goto (.loop .job)
  else if !asked && s.offerIsStale now then s.goto (.check generation .reveal .begin)
  else s.goto (.rehash generation s.snapshot.installerPath s.offer.digestHex)

/-- A section that a stage of `RunApply` starts with: it goes on only for the feed its offer
came from. -/
def stageFor (click : Click) (fn : Snapshot → Snapshot) (job : Job) : State :=
  (s.mutateFor click.generation fn).goto
    (if s.feedGeneration = click.generation then job else .loop .job)

/-- The worker's next section under `mutex_`. -/
def lockedSection (now nowUnix : ℤ) : Job → Option State
  | .loop back => some (dispatch cfg s back now)
  | .check generation caller stage => checkSection cfg s generation caller now nowUnix stage
  | .claim generation manual => some (claim s generation manual now)
  | .judge click checked => some (judge cfg s click checked)
  | .noteReplaced click =>
    some ((noteReplaced s click.generation click.offer.version).goto (.loop .job))
  | .close click =>
    some ((s.mutateFor click.generation fun snap => snap.dropped click.offer.code).goto
      (.loop .job))
  | .fail click failure =>
    some ((s.mutateFor click.generation fun snap => snap.failedFor failure).goto (.loop .job))
  | .askHold click =>
    some (s.goto (if cfg.viaHelper click && now < s.holdUntil then .fail click .held
      else .begin click))
  | .begin click =>
    some ((s.mutateFor click.generation fun snap => snap.downloading click.offer).goto
      (.download click))
  | .verify click =>
    some (stageFor s click (fun snap => { snap with stage := .verifying }) (.hash click))
  | .manualInstall click =>
    some (stageFor s click (fun snap =>
      { snap with
        phase := .manualInstall, stage := .idle, installerPath := cfg.msiPath click.offer })
      (.reveal click))
  | .install click =>
    some (stageFor s click (fun snap => { snap with stage := .installing }) (.launch click))
  | .launched click startedUnix process =>
    some ((s.mutateFor click.generation fun snap => { snap with stage := .helper }).goto
      (if process then .await click startedUnix else .loop .job))
  | .judgeReport click result checked =>
    some (s.goto (if clickStep s click checked true = .replaced then .noteReplaced click
      else .report click result))
  | .report _ result => some ((reportResult s result).goto (.loop .job))
  | .threw generation =>
    some ((s.mutateFor generation fun snap => snap.failedFor .download).goto (.loop .job))
  | .look generation asked => some (look s generation asked now)
  | .unconfirmed generation =>
    some ((s.mutateFor generation fun snap =>
      if snap.phase ≠ .manualInstall then snap
      else { snap.failedFor .unconfirmed with installerPath := "" }).goto (.loop .job))
  | .mismatch generation =>
    some ((s.mutateFor generation fun snap =>
      { snap.failedFor .checksum with installerPath := "" }).goto (.loop .job))
  | _ => none

/-- What the worker does when its work outside the lock throws. -/
def Job.onThrow : Job → Option Job
  | .start => some (.loop .launch)
  | .check generation .loop .fetch => some (.check generation .loop .failed)
  | .check generation .loop (.publish ..) => some (.check generation .loop .failed)
  | .check generation (.apply _) .fetch => some (.threw generation)
  | .check generation (.apply _) (.publish ..) => some (.threw generation)
  | .check generation (.helper ..) .fetch => some (.threw generation)
  | .check generation (.helper ..) (.publish ..) => some (.threw generation)
  | .check _ .reveal .fetch => some (.loop .job)
  | .check _ .reveal (.publish ..) => some (.loop .job)
  | .download click => some (.threw click.generation)
  | .hash click => some (.threw click.generation)
  | .reveal click => some (.threw click.generation)
  | .launch click => some (.threw click.generation)
  | .await click _ => some (.threw click.generation)
  | .rehash .. => some (.loop .job)
  | .revealAgain .. => some (.loop .job)
  | _ => none

/-- A step of the worker. -/
def workerStep : WorkerAct → Option State
  | .locked now nowUnix => lockedSection cfg s now nowUnix s.job
  | .reported file seen restartedSince vpn =>
    if s.job = .start then
      some ((showLastResult cfg s file seen restartedSince vpn).goto (.loop .launch))
    else none
  | .fetched reply nowUnix =>
    match s.job with
    | .check generation caller .fetch =>
      some (s.goto (.check generation caller (stageOfReply nowUnix reply)))
    | _ => none
  | .downloaded kept ok =>
    match s.job with
    | .download click =>
      some (s.goto (if cfg.matchesDigest kept click.offer.digestHex || ok then .verify click
        else .fail click .download))
    | _ => none
  | .hashed bytes =>
    match s.job with
    | .hash click =>
      some (s.goto (if !cfg.matchesDigest bytes click.offer.digestHex then .fail click .checksum
        else if cfg.viaHelper click then .install click else .manualInstall click))
    | .rehash generation installer digest =>
      some (s.goto (if cfg.matchesDigest bytes digest then .revealAgain generation installer
        else .mismatch generation))
    | _ => none
  | .launched answer startedUnix =>
    match s.job, answer with
    | .launch click, .refused unsigned =>
      some (s.goto (.fail click (if unsigned then .unsigned else .elevation)))
    | .launch click, .started process => some (s.goto (.launched click startedUnix process))
    | _, _ => none
  | .ended exitCode file vpn =>
    match s.job with
    | .await click startedUnix =>
      let result := resultOf cfg click startedUnix exitCode file vpn
      some (s.goto (if result.exitCode = kNotOffered then
        .check click.generation (.helper click result) .begin else .report click result))
    | _ => none
  | .revealed =>
    match s.job with
    | .reveal _ => some (s.goto (.loop .job))
    | .revealAgain .. => some (s.goto (.loop .job))
    | _ => none
  | .threw => (s.job.onThrow).map s.goto

end Worker

/-! ### The user interface -/

/-- A step of the UI thread. -/
inductive UiAct
  | checkNow
  | beginApply
  | showInstaller
  | revealInstaller
  | dismissResult
  | dismissed
  | later
  | channelChanged
  | setAutoCheckEnabled (on : Bool) (now : ℤ)
  | autoCheckSet (nowUnix : ℤ)
  | setHandler
  | replay
  | runPosted
deriving DecidableEq, Repr

/-- `OffersLater`. -/
def offersLater (snap : Snapshot) : Bool :=
  snap.code ≠ 0 && (snap.phase = .available || snap.phase = .failed || snap.phase = .manualInstall)

section Ui

variable (cfg : Config) (s : State)

/-- The second section of `DismissResult`. -/
def dismiss : State :=
  s.mutate .ui fun snap =>
    if snap.phase ≠ .result then snap
    else if s.offer.code > cfg.kCode ∧ hiddenByLater s.laterCode s.offer.code = false then
      { snap with
        result := {}
        phase := .available
        stage := .idle
        failure := .none
        version := s.offer.version
        code := s.offer.code }
    else { snap with result := {}, phase := .none, version := "", code := 0 }

/-- `Later`. -/
def later : State :=
  if offersLater s.snapshot then
    { s.mutate .ui fun snap => { snap.closed with replacedVersion := "", replacedByCode := 0 } with
      laterCode := s.snapshot.code }
  else s.mutate .ui id

/-- `ChannelChanged`. -/
def channelChanged : State :=
  let snap :=
    if s.snapshot.phase ≠ .result then
      { installed := cfg.installed
        lastSuccessUnix := s.snapshot.lastSuccessUnix
        checkStale := s.snapshot.checkStale
        holdUntilUnix := s.snapshot.holdUntilUnix }
    else s.snapshot
  { s with
    feedGeneration := s.feedGeneration + 1
    offer := {}
    laterCode := 0
    checkRequested := true }.mutate .ui fun _ => { snap with offeredCode := 0 }

/-- A step of the UI thread: a call it begins while it is in none, the second half of one, or a
post it runs. -/
def uiStep : UiAct → Option State
  | .dismissed =>
    if s.ui = .dismissing then some { dismiss cfg s with ui := .idle } else none
  | .autoCheckSet nowUnix =>
    match s.ui with
    | .settingAutoCheck on =>
      some { s.mutate .ui fun snap =>
        { snap with
          checkStale := checkIsStale nowUnix snap.lastSuccessUnix (on && cfg.kCode ≠ 0) } with
        ui := .idle }
    | _ => none
  | .replay =>
    if s.ui = .binding then some { s with window := some s.snapshot, ui := .idle } else none
  | act =>
    if s.ui ≠ .idle then none
    else match act with
    | .checkNow => some { s with checkRequested := true, laterCode := 0 }
    | .beginApply => some { s with applyRequested := true }
    | .showInstaller => some { s with manualRequested := true }
    | .revealInstaller => some { s with revealRequested := true }
    | .dismissResult =>
        some (if s.snapshot.phase = .result then { s with ui := .dismissing } else s)
    | .later => some (later s)
    | .channelChanged => some (channelChanged cfg s)
    | .setAutoCheckEnabled on now =>
      some { s with
        autoCheck := on
        nextAuto := if on then now else s.nextAuto
        ui := .settingAutoCheck on }
    | .setHandler => some { s with handler := true, ui := .binding }
    | .runPosted =>
      match s.queue with
      | [] => none
      | snap :: queue => some { s with window := some snap, queue }
    | _ => none

end Ui

/-! ### Steps -/

/-- A step. -/
inductive Act
  | worker (act : WorkerAct)
  | ui (act : UiAct)
  | post (t : Thread)
deriving DecidableEq, Repr

/-- The call of the handler with the thread's copy, which posts it where a handler is bound. -/
def post (s : State) (t : Thread) : Option State :=
  (s.copies.find? fun copy => copy.1 = t).map fun copy =>
    { s with
      copies := s.copies.eraseP fun copy => copy.1 = t
      queue := if s.handler then s.queue ++ [copy.2] else s.queue }

/-- A step of the system.  A thread that has a copy hands it over before it goes on. -/
def step (cfg : Config) (s : State) : Act → Option State
  | .worker act => if s.publishing .worker then none else workerStep cfg s act
  | .ui act => if s.publishing .ui then none else uiStep cfg s act
  | .post t => post s t

/-- The start of the checker. -/
def Init (cfg : Config) (s : State) : Prop :=
  ∃ lastSuccessUnix autoCheck, s =
    { snapshot := { installed := cfg.installed, lastSuccessUnix }
      autoCheck }

end UrnetworkWindows.Checker
