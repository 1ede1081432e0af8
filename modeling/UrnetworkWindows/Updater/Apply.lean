/-
The elevated update helper (`Updater/ApplyUpdate.cpp`): one run of `ApplyUpdate`, as a program of
calls to Windows and the network.

Each call may be answered in any way its type allows, a failure among them.  What the source makes
only lines of its log of (the texts of its refusals, the error numbers) is not kept; which refusal
it returns, and every call it makes on the way out, is.  The handles still open where it returns
are closed by that return, and are no calls of it here.
-/
import UrnetworkWindows.Checker.Report
import UrnetworkWindows.Lib.Dialogue
import UrnetworkWindows.Update.MsiVersion
import UrnetworkWindows.Update.Offer
import UrnetworkWindows.Update.Redirect

namespace UrnetworkWindows.Updater

open Update Checker Lib

/-! ### What the helper is built with -/

/-- What the helper is built with: the feed of its channel, with the repository its releases are
in, its architecture, its code, and the two readings that are not this file's. -/
structure Build where
  feed : Feed
  numericRepoId : ℕ
  owner : String
  repo : String
  kArch : String
  kCode : ℕ
  /-- `ParseReleaseList`. -/
  parseReleaseList : String → Option (List Release)
  /-- The SHA-256 of some bytes, in lowercase hex. -/
  sha256 : List UInt8 → String

/-- `Refusal`, the helper's own exit codes. -/
inductive Refusal
  | notElevated | notInstalled | devBuild | badArguments | busy | releaseList | notOffered
  | download | digest | package | staging | installerNotStarted | rateLimited
deriving DecidableEq, Repr

/-- The exit code of a refusal. -/
def Refusal.exitCode : Refusal → ℤ
  | .notElevated => 0x20000001
  | .notInstalled => 0x20000002
  | .devBuild => 0x20000003
  | .badArguments => 0x20000004
  | .busy => 0x20000005
  | .releaseList => 0x20000006
  | .notOffered => 0x20000007
  | .download => 0x20000008
  | .digest => 0x20000009
  | .package => 0x2000000A
  | .staging => 0x2000000B
  | .installerNotStarted => 0x2000000C
  | .rateLimited => 0x2000000D

lemma outcomeOf_exitCode (refusal : Refusal) : outcomeOf refusal.exitCode = .refused := by
  cases refusal <;> decide

/-- `KeepsPackage`. -/
def keepsPackage (exitCode : ℤ) : Bool :=
  let outcome := outcomeOf exitCode
  outcome = .installed || outcome = .restartRequired

/-- The `int` of an exit code: the same 32 bits. -/
def asInt (exitCode : ℤ) : ℤ := exitCode.bmod (2 ^ 32)

lemma asInt_exitCode (refusal : Refusal) : asInt refusal.exitCode = refusal.exitCode := by
  cases refusal <;> decide

/-- `AsciiTag`, of the argument's UTF-16 units. -/
def asciiTag (tag : List UInt16) : String :=
  if tag.any (fun c => c < 0x21 || c > 0x7e) then ""
  else String.ofList (tag.map fun c => Char.ofNat c.toNat)

/-! ### The list, the download and the package -/

/-- `kReleaseListPageSize`. -/
def kReleaseListPageSize : ℕ := 30

/-- `ReleaseListUrl`. -/
def releaseListUrl (b : Build) : String :=
  "https://api.github.com/repositories/" ++ toString b.numericRepoId ++ "/releases?per_page=" ++
    toString kReleaseListPageSize

/-- `FeedAssetUrl`. -/
def feedAssetUrl (b : Build) (tag asset : String) : String :=
  "https://github.com/" ++ b.owner ++ "/" ++ b.repo ++ "/releases/download/" ++ tag ++ "/" ++ asset

/-- `IsFeedAssetUrl`. -/
def isFeedAssetUrl (b : Build) (tag asset url : String) : Bool := url = feedAssetUrl b tag asset

/-- `IsAllowedAssetRedirect`, of a URL in UTF-8. -/
def isAllowedAssetRedirect (url : String) : Bool :=
  Update.isAllowedAssetRedirect url.toUTF8.data.toList

/-- `kUpgradeCode`. -/
def kUpgradeCode : String := "\x7bA7C1E2D3-4B5F-6081-9C2D-3E4F50617283\x7d"

/-- `PackageMatches`. -/
def packageMatches (upgradeCode productVersion : String) (code : ℕ) : Bool :=
  let want := urMsiVersion code
  Checker.equalsAsciiCaseless upgradeCode kUpgradeCode && want ≠ "" && productVersion = want

/-! ### The calls -/

/-- A folder the helper prepares: `updates`, or the one of a tag below it. -/
inductive Folder
  | updates
  | ofTag (tag : String)
deriving DecidableEq, Repr

/-- A file it makes below `updates`, or moves its own image to. -/
inductive File
  | package (tag assetName : String)
  | installLog (tag : String)
deriving DecidableEq, Repr

/-- The security descriptors it builds. -/
inductive Sddl
  | adminOnlyFolder | adminOnlyFile | lockFile
deriving DecidableEq, Repr

/-- How `CreateDirectoryW` ends. -/
inductive Created
  | made | alreadyExists | failed
deriving DecidableEq, Repr

/-- How opening the lock file ends. -/
inductive LockOpened
  | created | alreadyExists | sharingViolation | failed
deriving DecidableEq, Repr

/-- What the source reads of a file's attributes. -/
structure Attributes where
  directory : Bool
  reparsePoint : Bool
deriving DecidableEq, Repr

/-- `FILE_ID_INFO`. -/
structure FileId where
  volumeSerialNumber : ℕ
  fileId : ℕ
deriving DecidableEq, Repr

/-- `HttpResponse`. -/
structure HttpResponse where
  status : ℕ := 0
  serverUnixSeconds : ℤ := 0
  location : String := ""
deriving DecidableEq, Repr

/-- The steps of `WriteResult` that call Windows. -/
inductive ResultStep
  | deleteNew | createNew | write | flush | replace
deriving DecidableEq, Repr

/-- The values it reads of the package's Property table. -/
inductive Property
  | upgradeCode | productVersion
deriving DecidableEq, Repr

/-- What `ApplyUpdate` asks of Windows and of the network. -/
inductive Call
  | isElevated
  | ownExecutablePath
  | adminOnlyLocation (executable : String)
  | buildSecurity (sddl : Sddl)
  /-- Its owner and DACL. -/
  | readSecurity (sddl : Sddl)
  | createDirectory (folder : Folder)
  | openFolder (folder : Folder)
  | folderInfo (folder : Folder)
  | setFolderSecurity (folder : Folder)
  | openLock
  | lockInfo
  | setLockSecurity
  | closeLock
  | runningImages
  | deleteImage (path : String)
  | now
  | writeResult (step : ResultStep) (result : UpdateResult)
  /-- `HttpGet` into a string. -/
  | getText (url : String)
  /-- `HttpGet` without a sink. -/
  | getHead (url : String)
  /-- `HttpGet` into the package file, each chunk written as it comes. -/
  | getPackage (url : String)
  | urlHostIsOneOf (url : String)
  | deleteFile (file : File)
  | createFile (file : File)
  | writtenId
  | flushWritten
  | closeWritten
  | openHeld (file : File)
  | heldId
  | heldInfo
  | hashHeld
  | closeHeld
  | openDatabase (file : File)
  | packageProperty (name : Property)
  | adminOnlyFolder (folder : Folder)
  | adminOnlyFile (file : File)
  | moveImageOut (tag : String)
  | moveImageBack (tag : String)
  | systemDirectory
  /-- msiexec, to install the file with its log in the other. -/
  | createProcess (package installLog : File)
  | waitInstaller
  | exitCodeProcess
  | folders
  | removeAll (folder : String)
  | imageMissing
  | startThroughShell

/-- What each may be answered: `false` and `none` are its failures. -/
abbrev Answer : Call → Type
  | .ownExecutablePath => String
  | .createDirectory _ => Created
  | .folderInfo _ | .lockInfo | .heldInfo => Option Attributes
  | .openLock => LockOpened
  | .runningImages | .folders => List String
  | .now => ℤ
  | .getText _ => Option (HttpResponse × String)
  | .getHead _ | .getPackage _ => Option HttpResponse
  | .writtenId | .heldId => Option FileId
  | .hashHeld => Option (List UInt8)
  | .packageProperty _ => Option String
  | .exitCodeProcess => Option UInt32
  | _ => Bool

/-- A program of the helper's. -/
abbrev Helper (α : Type) := Dialogue Call Answer α

/-- One call. -/
abbrev ask (c : Call) : Helper (Answer c) := Dialogue.ask c

/-- A call made only when something holds, and what stands for its answer when it is not made. -/
def askIf (made : Bool) (c : Call) (otherwise : Answer c) : Helper (Answer c) :=
  if made then ask c else return otherwise

/-! ### The folders and the lock -/

/-- `PrepareFolder`. -/
def prepareFolder (folder : Folder) : Helper Bool := do
  match ← ask (.createDirectory folder) with
  | .made => return true
  | .failed => return false
  | .alreadyExists =>
    unless ← ask (.openFolder folder) do return false
    let some info ← ask (.folderInfo folder) | return false
    if !info.directory || info.reparsePoint then return false
    unless ← ask (.readSecurity .adminOnlyFolder) do return false
    ask (.setFolderSecurity folder)

/-- `TakeHelperLock`: the refusal, if it takes none. -/
def takeHelperLock : Helper (Option Refusal) := do
  unless ← prepareFolder .updates do return some .staging
  unless ← ask (.buildSecurity .lockFile) do return some .staging
  let opened ← ask .openLock
  if opened = .sharingViolation then return some .busy
  if opened = .failed then return some .staging
  let info ← ask .lockInfo
  if info.all (fun i => i.directory || i.reparsePoint) then
    let _ ← ask .closeLock
    return some .staging
  -- a lock file that was already there is given its security again
  if opened = .alreadyExists then
    unless ← ask (.readSecurity .lockFile) do
      let _ ← ask .closeLock
      return some .staging
    unless ← ask .setLockSecurity do
      let _ ← ask .closeLock
      return some .staging
  return none

/-- Each of some paths. -/
def each (call : String → Call) : List String → Helper Unit
  | [] => return
  | path :: paths => do
    let _ ← ask (call path)
    each call paths

/-- `RemoveStaleImages`. -/
def removeStaleImages : Helper Unit := do
  each .deleteImage (← ask .runningImages)

/-! ### The report -/

/-- `WriteResult`. -/
def writeResult (result : UpdateResult) : Helper Bool := do
  let _ ← ask (.writeResult .deleteNew result)
  unless ← ask (.writeResult .createNew result) do return false
  unless ← ask (.writeResult .write result) do return false
  unless ← ask (.writeResult .flush result) do return false
  ask (.writeResult .replace result)

/-- `finish`: the report, and the code to return. -/
def finish (tag : String) (code : ℕ) (exitCode : ℤ) : Helper ℤ := do
  let finishedUtc := formatUtcSecond (← ask .now)
  let _ ← writeResult { tag, code, exitCode, finishedUtc }
  return asInt exitCode

/-- `refuse`. -/
def refuse (tag : String) (code : ℕ) (refusal : Refusal) : Helper ℤ :=
  finish tag code refusal.exitCode

/-! ### The release, its package and the installer -/

/-- Steps 2 to 4: the release list fetched here, and the release it offers. -/
def offeredRelease (b : Build) (tag : String) : Helper (Except Refusal Selection) := do
  let some (list, body) ← ask (.getText (releaseListUrl b)) | return .error .releaseList
  if list.status = 403 ∨ list.status = 429 then return .error .rateLimited
  if list.status ≠ 200 then return .error .releaseList
  if list.serverUnixSeconds = 0 then return .error .releaseList
  let some releases := b.parseReleaseList body | return .error .releaseList
  let selection := selectRelease releases b.kArch b.feed list.serverUnixSeconds
  if !selectionOffers selection tag b.kCode then return .error .notOffered
  if !isFeedAssetUrl b selection.tag selection.assetName selection.assetUrl then
    return .error .download
  return .ok selection

/-- Step 5: the redirect of the download, and the file it is written to. -/
def downloadPackage (tag : String) (selection : Selection) : Helper (Except Refusal FileId) := do
  let some redirect ← ask (.getHead selection.assetUrl) | return .error .download
  if redirect.status ≠ 302 ∨ !isAllowedAssetRedirect redirect.location then return .error .download
  unless ← ask (.urlHostIsOneOf redirect.location) do return .error .download
  let package := File.package tag selection.assetName
  let _ ← ask (.deleteFile package)
  unless ← ask (.createFile package) do return .error .staging
  -- a file whose id cannot be read is refused as it is, not deleted
  let some writtenId ← ask .writtenId | return .error .staging
  let fetched ← ask (.getPackage redirect.location)
  let flushed ← askIf fetched.isSome .flushWritten false
  let _ ← ask .closeWritten
  if fetched.all (·.status ≠ 200) || !flushed then
    let _ ← ask (.deleteFile package)
    return .error .download
  return .ok writtenId

/-- `held.Close()` and `DeleteFileW`, on the way to a refusal. -/
def dropPackage {α : Type} (package : File) (refusal : Refusal) : Helper (Except Refusal α) := do
  let _ ← ask .closeHeld
  let _ ← ask (.deleteFile package)
  return .error refusal

/-- Steps 6 and 7: the file is opened again, for nobody else to write, rename or delete, and what is
read through that handle is checked. -/
def checkPackage (b : Build) (package : File) (writtenId : FileId) (selection : Selection) :
    Helper (Except Refusal Unit) := do
  unless ← ask (.openHeld package) do
    let _ ← ask (.deleteFile package)
    return .error .staging
  let heldId ← ask .heldId
  if heldId ≠ some writtenId then return ← dropPackage package .staging
  let some heldInfo ← ask .heldInfo | dropPackage package .staging
  if heldInfo.reparsePoint then return ← dropPackage package .staging
  let actual := (← ask .hashHeld).elim "" b.sha256
  if actual = "" ∨ !Checker.equalsAsciiCaseless actual selection.digestHex then
    return ← dropPackage package .digest
  let opened ← ask (.openDatabase package)
  let upgradeCode ← askIf opened (.packageProperty .upgradeCode) none
  let productVersion ← askIf opened (.packageProperty .productVersion) none
  let some upgradeCode := upgradeCode | dropPackage package .package
  let some productVersion := productVersion | dropPackage package .package
  if !packageMatches upgradeCode productVersion selection.code then
    return ← dropPackage package .package
  return .ok ()

/-- `CheckAdminOnly`, of what msiexec uses. -/
def checkAdminOnly (tag : String) (package installLog : File) : Helper Bool := do
  unless ← ask (.adminOnlyFolder .updates) do return false
  unless ← ask (.adminOnlyFolder (.ofTag tag)) do return false
  unless ← ask (.adminOnlyFile package) do return false
  ask (.adminOnlyFile installLog)

/-- How an installer that was started ended. -/
structure Ended where
  /-- Whether this helper's image is out of the install folder. -/
  moved : Bool
  exitCode : ℤ

/-- msiexec was not started: the image goes back where it was. -/
def notStarted (tag : String) (package : File) (moved : Bool) : Helper (Except Refusal Ended) := do
  let _ ← askIf moved (.moveImageBack tag) true
  dropPackage package .installerNotStarted

/-- Step 8: msiexec, with this image out of its way. -/
def runInstaller (tag : String) (package : File) : Helper (Except Refusal Ended) := do
  let installLog := File.installLog tag
  let _ ← ask (.deleteFile installLog)
  let logCreated ← ask (.createFile installLog)
  if !logCreated then return ← dropPackage package .staging
  unless ← checkAdminOnly tag package installLog do return ← dropPackage package .staging
  let moved ← ask (.moveImageOut tag)
  unless ← ask .systemDirectory do return ← notStarted tag package moved
  unless ← ask (.createProcess package installLog) do return ← notStarted tag package moved
  let _ ← ask .waitInstaller
  let exitCode := ((← ask .exitCodeProcess).map UInt32.toNat).getD 1603
  let _ ← ask .closeHeld
  return .ok { moved, exitCode }

/-- Steps 9 and 10: the report, with only what the outcome needs kept, and the relaunch after an
install that failed. -/
def reportEnded (tag : String) (code : ℕ) (package : File) (ended : Ended) : Helper ℤ := do
  if keepsPackage ended.exitCode then
    let older := (← ask .folders).filter (· ≠ tag)
    each .removeAll older
    finish tag code ended.exitCode
  else
    let _ ← ask (.deleteFile package)
    let missing ← askIf ended.moved .imageMissing false
    let _ ← askIf missing (.moveImageBack tag) true
    let r ← finish tag code ended.exitCode
    let missing ← ask .imageMissing
    let _ ← askIf (!missing) .startThroughShell true
    return r

/-- What `ApplyUpdate` does from where every ending writes a report. -/
def applyTag (b : Build) (tag : String) (code : ℕ) : Helper ℤ := do
  match ← offeredRelease b tag with
  | .error refusal => refuse tag code refusal
  | .ok selection =>
    match ← downloadPackage tag selection with
    | .error refusal => refuse tag code refusal
    | .ok writtenId =>
      let package := File.package tag selection.assetName
      match ← checkPackage b package writtenId selection with
      | .error refusal => refuse tag code refusal
      | .ok () =>
        match ← runInstaller tag package with
        | .error refusal => refuse tag code refusal
        | .ok ended => reportEnded tag code package ended

/-- `ApplyUpdate`. -/
def applyUpdate (b : Build) (tagArgument : List UInt16) : Helper ℤ := do
  unless ← ask .isElevated do return asInt Refusal.notElevated.exitCode
  let executable ← ask .ownExecutablePath
  if executable = "" then return asInt Refusal.notInstalled.exitCode
  unless ← ask (.adminOnlyLocation executable) do return asInt Refusal.notInstalled.exitCode
  if b.kCode = 0 then return asInt Refusal.devBuild.exitCode
  let folderSecurity ← ask (.buildSecurity .adminOnlyFolder)
  let fileSecurity ← ask (.buildSecurity .adminOnlyFile)
  if !folderSecurity || !fileSecurity then return asInt Refusal.staging.exitCode
  if let some refusal ← takeHelperLock then return asInt refusal.exitCode
  let tag := asciiTag tagArgument
  if !isTagArgument b.feed tag then return asInt Refusal.badArguments.exitCode
  let code := ((parseFeedTag b.feed tag).map FeedTag.code).getD 0
  unless ← prepareFolder (.ofTag tag) do return asInt Refusal.staging.exitCode
  removeStaleImages
  applyTag b tag code

end UrnetworkWindows.Updater
