/-
What the update checker decides without its state (`UpdateSchedule.h`, `UpdateResult.h`,
`UpdateFormats.h`): what becomes of a click once its check has returned, how long a refused
request makes it wait, and what the banner says of the helper's report.

A report that this app waited for is never hidden while the release it is about is newer than the
app (`viewOfReport_live`): the release is told from the tag, which the report has to repeat
(`UpdateResult.code_eq`).
-/
import UrnetworkWindows.Update.FileNames
import UrnetworkWindows.Update.Selection

namespace UrnetworkWindows.Checker

open Update

/-! ### Digests -/

/-- `EqualsAsciiCaseless`, of texts in UTF-8. -/
def equalsAsciiCaseless (a b : String) : Bool :=
  Update.equalsAsciiCaseless a.toUTF8.data.toList b.toUTF8.data.toList

/-! ### When GitHub is asked again -/

/-- `kStaleAfterSeconds`. -/
def kStaleAfterSeconds : ℤ := 72 * 60 * 60

/-- `kMaxBackoffSeconds`. -/
def kMaxBackoffSeconds : ℤ := 24 * 60 * 60

/-- `RateLimit`. -/
structure RateLimit where
  retryAfterSeconds : ℤ := 0
  resetUnixSeconds : ℤ := 0
  exhausted : Bool := false
  serverUnixSeconds : ℤ := 0
deriving DecidableEq, Repr

/-- `NextCheckDelaySeconds`. -/
def nextCheckDelaySeconds (cadenceSeconds : ℤ) (limit : RateLimit) : ℤ :=
  let wait := if limit.retryAfterSeconds > 0 then limit.retryAfterSeconds else 0
  let wait :=
    if limit.exhausted ∧ limit.resetUnixSeconds > 0 ∧ limit.serverUnixSeconds > 0 then
      max wait (limit.resetUnixSeconds - limit.serverUnixSeconds)
    else wait
  max cadenceSeconds (min wait kMaxBackoffSeconds)

/-- `CheckIsStale`. -/
def checkIsStale (nowUnixSeconds lastSuccessUnixSeconds : ℤ) (checking : Bool) : Bool :=
  checking ∧ lastSuccessUnixSeconds > 0 ∧
    nowUnixSeconds - lastSuccessUnixSeconds > kStaleAfterSeconds

/-! ### What becomes of a click -/

/-- `HiddenByLater`. -/
def hiddenByLater (laterCode offeredCode : ℕ) : Bool := laterCode ≠ 0 ∧ offeredCode = laterCode

lemma hiddenByLater_zero (code : ℕ) : hiddenByLater 0 code = false := by
  simp [hiddenByLater]

/-- `ClickStep`. -/
inductive ClickStep
  | proceed | replaced | withdrawn | unconfirmed | dropped
deriving DecidableEq, Repr

/-- `ClickAfterCheck`. -/
structure ClickAfterCheck where
  clickedCode : ℕ := 0
  sameFeed : Bool := false
  checked : Bool := false
  offeredCode : ℕ := 0
  bannerHolds : Bool := false
  laterCode : ℕ := 0
  viaHelper : Bool := false
deriving DecidableEq, Repr

/-- `StepAfterCheck`. -/
def stepAfterCheck (click : ClickAfterCheck) : ClickStep :=
  if !click.sameFeed || click.clickedCode = 0 then .dropped
  else if click.checked && click.offeredCode = 0 then .withdrawn
  else if click.checked && click.offeredCode ≠ click.clickedCode then .replaced
  else if !click.bannerHolds || hiddenByLater click.laterCode click.clickedCode then .dropped
  else if !click.checked && !click.viaHelper then .unconfirmed
  else .proceed

variable {click : ClickAfterCheck}

lemma stepAfterCheck_proceed (h : stepAfterCheck click = .proceed) :
    click.sameFeed = true ∧ (click.checked = true → click.offeredCode = click.clickedCode) ∧
    click.bannerHolds = true ∧ (click.checked = true ∨ click.viaHelper = true) := by
  unfold stepAfterCheck at h
  split_ifs at h with hfeed hnone hother hheld hasked
  simp only [Bool.or_eq_true, Bool.and_eq_true, Bool.not_eq_true', decide_eq_true_eq, not_or,
    not_and, Bool.not_eq_false] at hfeed hother hheld hasked
  exact ⟨hfeed.1, fun hchecked => not_not.1 (hother hchecked), hheld.1,
    or_iff_not_imp_left.2 fun hchecked => hasked (by simpa using hchecked)⟩

/-- A click on a release that another took the place of is on a feed that is still the same. -/
lemma stepAfterCheck_replaced (h : stepAfterCheck click = .replaced) :
    click.sameFeed = true ∧ click.checked = true ∧ click.offeredCode ≠ click.clickedCode := by
  unfold stepAfterCheck at h
  split_ifs at h with hfeed hnone hother
  simp only [Bool.or_eq_true, Bool.and_eq_true, Bool.not_eq_true', decide_eq_true_eq, not_or,
    Bool.not_eq_false] at hfeed hother
  exact ⟨hfeed.1, hother.1, hother.2⟩

lemma stepAfterCheck_withdrawn (h : stepAfterCheck click = .withdrawn) : click.offeredCode = 0 := by
  unfold stepAfterCheck at h
  split_ifs at h with hfeed hnone
  simp only [Bool.and_eq_true, decide_eq_true_eq] at hnone
  exact hnone.2

lemma stepAfterCheck_unconfirmed (h : stepAfterCheck click = .unconfirmed) :
    click.bannerHolds = true := by
  unfold stepAfterCheck at h
  split_ifs at h with hfeed hnone hother hheld
  simp only [Bool.or_eq_true, Bool.not_eq_true', not_or, Bool.not_eq_false] at hheld
  exact hheld.1

/-! ### The helper's report -/

/-- `Refusal::NotOffered`. -/
def kNotOffered : ℕ := 0x20000007

/-- `kRefusalBit`. -/
def kRefusalBit : ℕ := 0x20000000

/-- `IsRefusal`. -/
def isRefusal (exitCode : ℤ) : Bool :=
  exitCode > 0 ∧ exitCode ≤ 0xFFFFFFFF ∧ exitCode.toNat &&& kRefusalBit ≠ 0

/-- `kRebootInitiated`. -/
def kRebootInitiated : ℤ := 1641

/-- `kRebootRequired`. -/
def kRebootRequired : ℤ := 3010

/-- `Outcome`. -/
inductive Outcome
  | installed | restartRequired | failed | refused
deriving DecidableEq, Repr

/-- `OutcomeOf`. -/
def outcomeOf (exitCode : ℤ) : Outcome :=
  if exitCode = 0 then .installed
  else if exitCode = kRebootRequired ∨ exitCode = kRebootInitiated then .restartRequired
  else if isRefusal exitCode then .refused
  else .failed

/-- `UpdateResult`. -/
structure UpdateResult where
  tag : String
  code : ℕ := 0
  exitCode : ℤ := 0
  finishedUtc : String := ""
deriving DecidableEq, Repr

/-- `IsWellFormed`, without the prefix of a runner's test feed. -/
def UpdateResult.isWellFormed (result : UpdateResult) : Bool :=
  result.code ≠ 0 ∧ parseReleaseCode result.tag.toList = result.code ∧
    0 ≤ result.exitCode ∧ result.exitCode ≤ 0xFFFFFFFF ∧ isUtcSecond result.finishedUtc.toList

lemma UpdateResult.code_eq {result : UpdateResult} (h : result.isWellFormed = true) :
    parseReleaseCode result.tag.toList = result.code := by
  rw [isWellFormed, decide_eq_true_eq] at h
  exact h.2.1

/-- What `ReadResult` makes of the fields in the file, if it holds any. -/
def readResult (file : Option UpdateResult) : Option UpdateResult :=
  file.filter UpdateResult.isWellFormed

/-- `kReportClockSlackSeconds`. -/
def kReportClockSlackSeconds : ℤ := 120

/-- `IsReportOfRun`. -/
def isReportOfRun (report : UpdateResult) (tag : String) (exitCode startedUnixSeconds : ℤ) : Bool :=
  report.tag = tag ∧ report.exitCode = exitCode ∧
    (parseUtcSecond report.finishedUtc).any
      (fun finished => startedUnixSeconds - kReportClockSlackSeconds ≤ finished)

/-- `ReportView`. -/
inductive ReportView
  | hidden | installed | restartApp | restartWindows | notInstalled
deriving DecidableEq, Repr

/-- `ViewOfReport`. -/
def viewOfReport (report : UpdateResult) (ownCode : ℕ) (live restartedSince : Bool) : ReportView :=
  match outcomeOf report.exitCode with
  | .installed =>
    if ownCode = report.code then .installed
    else if live && ownCode < report.code then .restartApp else .hidden
  | .restartRequired =>
    if ownCode > report.code then .hidden
    else if !restartedSince then .restartWindows
    else if ownCode = report.code then .installed else .hidden
  | .failed | .refused => if ownCode < report.code then .notInstalled else .hidden

lemma viewOfReport_live {report : UpdateResult} {ownCode : ℕ} (h : ownCode < report.code) :
    viewOfReport report ownCode true false ≠ .hidden := by
  unfold viewOfReport
  cases outcomeOf report.exitCode with
  | installed => simp [h, h.ne]
  | restartRequired => simp [not_lt.2 h.le]
  | failed => simp [h]
  | refused => simp [h]

end UrnetworkWindows.Checker
