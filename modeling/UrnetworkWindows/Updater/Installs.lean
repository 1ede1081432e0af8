/-
What the helper installs, reports and leaves behind.
-/
import UrnetworkWindows.Updater.Apply

namespace UrnetworkWindows.Updater

open Update Checker Lib
open Lib.Dialogue (Exchange Runs wp wp_pure wp_ask wp_bind wp_call wp_quiet wp_mono wp_sound
  runs_answered)

/-! ### What a run has made of the machine -/

/-- How far msiexec is. -/
inductive Installer
  | notStarted | running | ended
deriving DecidableEq, Repr

/-- The handle no other process can write, rename or delete the package beside, with what was read
through it and of the file it holds. -/
structure Held where
  id : Option FileId := none
  bytes : Option (List UInt8) := none
  upgradeCode : Option String := none
  productVersion : Option String := none
deriving DecidableEq, Repr

/-- What the calls so far have made of the machine. -/
structure World where
  lockHeld : Bool := false
  /-- The folder of the tag is prepared. -/
  prepared : Bool := false
  /-- The attempts to report, with the exit code of each. -/
  results : List ℤ := []
  list : Option (HttpResponse × String) := none
  redirect : Option HttpResponse := none
  /-- A package file this run created is there. -/
  package : Bool := false
  written : Option FileId := none
  /-- Where what it holds was downloaded from. -/
  source : Option String := none
  held : Option Held := none
  imageOut : Bool := false
  installer : Installer := .notStarted
  exitCode : Option ℤ := none
  /-- The handle was closed while msiexec ran. -/
  closedEarly : Bool := false
  /-- A delete of that package file failed, or a move of the image back. -/
  stuck : Bool := false
  /-- The id of the package file could not be read, once it was created. -/
  idUnread : Bool := false
  waitFailed : Bool := false
deriving DecidableEq, Repr

/-- What a call and its answer make of it. -/
def note (w : World) : Exchange Call Answer → World
  | ⟨.openLock, opened⟩ =>
    { w with lockHeld := opened = .created || opened = .alreadyExists }
  | ⟨.closeLock, _⟩ => { w with lockHeld := false }
  | ⟨.createDirectory (.ofTag _), created⟩ => { w with prepared := w.prepared || created = .made }
  | ⟨.setFolderSecurity (.ofTag _), set⟩ => { w with prepared := w.prepared || set }
  | ⟨.writeResult .deleteNew result, _⟩ => { w with results := w.results ++ [result.exitCode] }
  | ⟨.getText _, list⟩ => { w with list }
  | ⟨.getHead _, redirect⟩ => { w with redirect }
  | ⟨.deleteFile (.package _ _), deleted⟩ =>
    { w with
      package := w.package && !deleted
      stuck := w.stuck || w.package && !deleted }
  | ⟨.createFile (.package _ _), created⟩ => { w with package := created }
  | ⟨.writtenId, written⟩ => { w with written, idUnread := written.isNone || w.idUnread }
  | ⟨.getPackage url, response⟩ =>
    { w with source := if response.any (·.status = 200) then some url else none }
  | ⟨.openHeld _, opened⟩ => { w with held := if opened then some {} else none }
  | ⟨.heldId, id⟩ => { w with held := w.held.map ({ · with id }) }
  | ⟨.hashHeld, bytes⟩ => { w with held := w.held.map ({ · with bytes }) }
  | ⟨.packageProperty .upgradeCode, value⟩ =>
    { w with held := w.held.map ({ · with upgradeCode := value }) }
  | ⟨.packageProperty .productVersion, value⟩ =>
    { w with held := w.held.map ({ · with productVersion := value }) }
  | ⟨.closeHeld, _⟩ =>
    { w with held := none, closedEarly := w.closedEarly || w.installer = .running }
  | ⟨.moveImageOut _, moved⟩ => { w with imageOut := moved }
  | ⟨.moveImageBack _, moved⟩ =>
    { w with imageOut := w.imageOut && !moved, stuck := w.stuck || !moved }
  | ⟨.createProcess _ _, started⟩ =>
    { w with installer := if started then .running else w.installer }
  | ⟨.waitInstaller, waited⟩ =>
    { w with
      installer := if waited then .ended else w.installer
      waitFailed := !waited || w.waitFailed }
  | ⟨.exitCodeProcess, code⟩ => { w with exitCode := some ((code.map UInt32.toNat).getD 1603) }
  | _ => w

/-- The machine once some calls have been made. -/
def world (es : List (Exchange Call Answer)) : World := es.foldl note {}

/-- What has to hold for the installer to be started on the package of a tag: the lock is held, the
list fetched in this run offers the tag, and the file is held that was written here from an allowed
redirect, with the bytes of the offer's digest and the properties of its release. -/
structure Cleared (b : Build) (tag : String) (package : File) (w : World) : Prop where
  lockHeld : w.lockHeld = true
  accepted : isTagArgument b.feed tag = true
  checked : ∃ list body releases, w.list = some (list, body) ∧
    b.parseReleaseList body = some releases ∧
    ∃ selection, selection = selectRelease releases b.kArch b.feed list.serverUnixSeconds ∧
      selectionOffers selection tag b.kCode = true ∧
      package = .package tag selection.assetName ∧
      (∃ redirect, w.redirect = some redirect ∧ redirect.status = 302 ∧
        isAllowedAssetRedirect redirect.location = true ∧ w.source = some redirect.location) ∧
      ∃ held id bytes upgradeCode productVersion, w.held = some held ∧
        w.written = some id ∧ held.id = some id ∧
        held.bytes = some bytes ∧
        equalsAsciiCaseless (b.sha256 bytes) selection.digestHex = true ∧
        held.upgradeCode = some upgradeCode ∧ held.productVersion = some productVersion ∧
        packageMatches upgradeCode productVersion selection.code = true

/-- msiexec is started on what is cleared only. -/
def Allowed (b : Build) (tag : String) (w : World) : Call → Prop
  | .createProcess package _ => Cleared b tag package w
  | _ => True

/-- When the deletes and moves it tried succeeded, a run leaves no package file behind that msiexec
did not install, and the image of the helper where it was unless msiexec was started. -/
def LeavesNothing (w : World) : Prop :=
  w.stuck = false →
    (w.package = true → ∃ code, w.exitCode = some code ∧ keepsPackage code = true) ∧
    (w.installer = .notStarted → w.imageOut = false)

/-! ### What each part of a run does -/

section

variable {b : Build} {tag : String} {w : World}

/-- The machine once a folder is prepared. -/
def World.prepare (w : World) : Folder → World
  | .updates => w
  | .ofTag _ => { w with prepared := true }

lemma wp_prepareFolder {folder : Folder} {Q : World → Bool → Prop} (hfalse : Q w false)
    (htrue : Q (w.prepare folder) true) : wp (Allowed b tag) note (prepareFolder folder) Q w := by
  have hnot (created : Created) (h : created ≠ .made) :
      note w ⟨.createDirectory folder, created⟩ = w := by
    cases folder <;> simp [note, h]
  refine wp_call trivial fun created => ?_
  cases created with
  | made => cases folder <;> simpa [note, World.prepare] using htrue
  | failed =>
    rw [hnot .failed (by decide)]
    exact hfalse
  | alreadyExists =>
    rw [hnot .alreadyExists (by decide)]
    refine wp_call trivial fun opened => ?_
    cases opened with
    | false => exact hfalse
    | true =>
      refine wp_call trivial fun info => ?_
      cases info with
      | none => exact hfalse
      | some info =>
        -- a plain folder is given its security again
        simp only
        split
        next => exact hfalse
        next =>
          refine wp_call trivial fun read => ?_
          cases read with
          | false => exact hfalse
          | true =>
            refine wp_ask.2 ⟨trivial, fun set => ?_⟩
            cases set with
            | false => cases folder <;> simpa [note] using hfalse
            | true => cases folder <;> simpa [note, World.prepare] using htrue

lemma wp_takeHelperLock {Q : World → Option Refusal → Prop}
    (hnone : Q { w with lockHeld := true } none)
    (hsome : ∀ lockHeld refusal, Q { w with lockHeld } (some refusal)) :
    wp (Allowed b tag) note takeHelperLock Q w := by
  refine wp_bind.2 (wp_prepareFolder (hsome w.lockHeld _) ?_)
  refine wp_call trivial fun built => ?_
  cases built with
  | false => exact hsome w.lockHeld _
  | true =>
    refine wp_call trivial fun opened => ?_
    cases opened with
    | sharingViolation | failed => exact hsome false _
    | created =>
      refine wp_call trivial fun info => ?_
      split
      next => exact wp_call trivial fun _ => hsome false _
      next => exact hnone
    | alreadyExists =>
      refine wp_call trivial fun info => ?_
      split
      next => exact wp_call trivial fun _ => hsome false _
      next =>
        refine wp_call trivial fun read => ?_
        cases read with
        | false => exact wp_call trivial fun _ => hsome false _
        | true =>
          refine wp_call trivial fun set => ?_
          cases set with
          | false => exact wp_call trivial fun _ => hsome false _
          | true => exact hnone

lemma wp_writeResult {result : UpdateResult} {Q : World → Bool → Prop}
    (h : ∀ written, Q { w with results := w.results ++ [result.exitCode] } written) :
    wp (Allowed b tag) note (writeResult result) Q w := by
  refine wp_call trivial fun deleted => wp_call trivial fun created => ?_
  cases created with
  | false => exact h false
  | true =>
    refine wp_call trivial fun wrote => ?_
    cases wrote with
    | false => exact h false
    | true =>
      refine wp_call trivial fun flushed => ?_
      cases flushed with
      | false => exact h false
      | true => exact wp_ask.2 ⟨trivial, fun replaced => h replaced⟩

/-- What is so where a run returns. -/
structure Settled (w : World) (r : ℤ) : Prop where
  reported : w.prepared = true → ∃ exitCode, w.results = [exitCode] ∧ r = asInt exitCode
  early : w.closedEarly = w.waitFailed
  left : LeavesNothing w ↔ w.idUnread = false

/-- What is so where a run goes on to report. -/
structure Unreported (w : World) : Prop where
  results : w.results = []
  early : w.closedEarly = w.waitFailed
  left : LeavesNothing w ↔ w.idUnread = false

lemma Unreported.of_undone (results : w.results = [])
    (closedEarly : w.closedEarly = false) (waitFailed : w.waitFailed = false)
    (idUnread : w.idUnread = false) (package : w.stuck = false → w.package = false)
    (imageOut : w.stuck = false → w.imageOut = false) : Unreported w where
  results := results
  early := closedEarly.trans waitFailed.symm
  left := by
    refine iff_of_true (fun hstuck => ⟨fun hpackage => ?_, fun _ => imageOut hstuck⟩) idUnread
    exact absurd hpackage (by simp [package hstuck])

lemma wp_finish {code : ℕ} {exitCode : ℤ} (h : Unreported w) :
    wp (Allowed b tag) note (finish tag code exitCode) Settled w := by
  refine wp_call trivial fun second => wp_bind.2 ?_
  refine wp_writeResult fun _ => ?_
  exact {
    reported := fun _ => ⟨exitCode, by simp [note, h.results], rfl⟩
    early := h.early
    left := h.left }

lemma wp_askIf {made : Bool} {c : Call} {otherwise : Answer c} {Q : World → Answer c → Prop}
    (hallowed : Allowed b tag w c) (hnot : made = false → Q w otherwise)
    (hmade : made = true → ∀ r, Q (note w ⟨c, r⟩) r) :
    wp (Allowed b tag) note (askIf made c otherwise) Q w := by
  cases made with
  | false => exact hnot rfl
  | true => exact wp_ask.2 ⟨hallowed, hmade rfl⟩

lemma wp_each {call : String → Call} {paths : List String} {Q : World → Unit → Prop}
    (hcall : ∀ path w, Allowed b tag w (call path) ∧ ∀ r, note w ⟨call path, r⟩ = w)
    (h : Q w ()) : wp (Allowed b tag) note (each call paths) Q w := by
  induction paths with
  | nil => exact h
  | cons path paths ih =>
    refine wp_call (hcall path w).1 fun r => ?_
    rw [(hcall path w).2 r]
    exact ih

lemma wp_offeredRelease {Q : World → Except Refusal Selection → Prop}
    (herror : ∀ list refusal, Q { w with list } (.error refusal))
    (hok : ∀ list body releases, b.parseReleaseList body = some releases →
      selectionOffers (selectRelease releases b.kArch b.feed list.serverUnixSeconds) tag b.kCode =
        true →
      Q { w with list := some (list, body) }
        (.ok (selectRelease releases b.kArch b.feed list.serverUnixSeconds))) :
    wp (Allowed b tag) note (offeredRelease b tag) Q w := by
  refine wp_call trivial fun answer => ?_
  cases answer with
  | none => exact herror none _
  | some answer =>
    obtain ⟨list, body⟩ := answer
    simp only
    split
    next => exact herror _ _
    next =>
      split
      next => exact herror _ _
      next =>
        split
        next => exact herror _ _
        next =>
          split
          next releases hreleases =>
            split
            next => exact herror _ _
            next hoffers =>
              split
              next => exact herror _ _
              next => exact hok list body releases hreleases (by simpa using hoffers)
          next => exact herror _ _

/-- Nothing is to be undone, but for the package where it is there. -/
structure Underway (w : World) (package : Bool) : Prop where
  results : w.results = []
  package_eq : w.package = package
  imageOut : w.imageOut = false
  installer : w.installer = .notStarted
  exitCode : w.exitCode = none
  closedEarly : w.closedEarly = false
  stuck : w.stuck = false
  idUnread : w.idUnread = false
  waitFailed : w.waitFailed = false

lemma Underway.unreported (h : Underway w false) : Unreported w :=
  .of_undone h.results h.closedEarly h.waitFailed h.idUnread (fun _ => h.package_eq)
    fun _ => h.imageOut

lemma Underway.deleted (h : Underway w true) (tag assetName : String) (deleted : Bool) :
    Unreported (note w ⟨.deleteFile (.package tag assetName), deleted⟩) :=
  .of_undone h.results h.closedEarly h.waitFailed h.idUnread
    (fun hstuck => by simpa [note, h.package_eq, h.stuck] using hstuck) fun _ => h.imageOut

lemma wp_downloadPackage {selection : Selection} {Q : World → Except Refusal FileId → Prop}
    (hw : Underway w false) (herror : ∀ w' refusal, Unreported w' → Q w' (.error refusal))
    (hok : ∀ redirect id, redirect.status = 302 → isAllowedAssetRedirect redirect.location = true →
      Q { w with
          redirect := some redirect, package := true, written := some id
          source := some redirect.location } (.ok id)) :
    wp (Allowed b tag) note (downloadPackage tag selection) Q w := by
  refine wp_call trivial fun answer => ?_
  have hw₁ : Underway (note w ⟨.getHead selection.assetUrl, answer⟩) false := { hw with }
  cases answer with
  | none => exact herror _ _ hw₁.unreported
  | some redirect =>
    simp only
    split
    next => exact herror _ _ hw₁.unreported
    next hredirect =>
      obtain ⟨hstatus, hallowed⟩ := not_or.1 hredirect
      refine wp_quiet (fun _ => rfl) trivial fun isHost => ?_
      cases isHost with
      | false => exact herror _ _ hw₁.unreported
      | true =>
        -- no package of this run is there yet
        refine wp_quiet (fun deleted => by simp [note, hw.package_eq]) trivial fun deleted => ?_
        refine wp_call trivial fun created => ?_
        cases created with
        | false => exact herror _ _ (Underway.unreported { hw₁ with package_eq := rfl })
        | true =>
          refine wp_call trivial fun writtenId => ?_
          cases writtenId with
          | none =>
            -- the file stays: this is what sets the runs apart that leave something behind
            refine herror _ _ ⟨hw.results, hw.closedEarly.trans hw.waitFailed.symm, ?_⟩
            simp [LeavesNothing, note, hw.stuck, hw.exitCode]
          | some id =>
            refine wp_call trivial fun fetched => ?_
            have hw₂ : Underway (note { w with
                redirect := some redirect, package := true, written := some id }
                ⟨.getPackage redirect.location, fetched⟩) true := { hw with package_eq := rfl }
            refine wp_bind.2 (wp_askIf trivial ?_ ?_)
            · intro hfetched
              refine wp_quiet (fun _ => rfl) trivial fun _ => ?_
              rw [if_pos (by simp)]
              exact wp_call trivial fun deleted => herror _ _ (hw₂.deleted _ _ _)
            · intro hfetched flushed
              refine wp_quiet (fun _ => rfl) trivial fun _ => ?_
              split
              next => exact wp_call trivial fun deleted => herror _ _ (hw₂.deleted _ _ _)
              next hfailed =>
                obtain ⟨response, rfl⟩ := Option.isSome_iff_exists.1 hfetched
                have hok' := hok redirect id (by simpa using hstatus) (by simpa using hallowed)
                have h200 : response.status = 200 ∧ flushed = true := by simpa using hfailed
                simpa [note, h200.1] using hok'

lemma wp_dropPackage {α : Type} {assetName : String} {refusal : Refusal}
    {Q : World → Except Refusal α → Prop} (hw : Underway w true)
    (herror : ∀ w', Unreported w' → Q w' (.error refusal)) :
    wp (Allowed b tag) note (dropPackage (.package tag assetName) refusal) Q w := by
  refine wp_call trivial fun closed => wp_call trivial fun deleted => herror _ ?_
  have hclosed : Underway (note w ⟨.closeHeld, closed⟩) true := {
    hw with
    closedEarly := by simp [note, hw.closedEarly, hw.installer] }
  exact hclosed.deleted _ _ _

lemma wp_checkPackage {assetName : String} {writtenId : FileId} {selection : Selection}
    {Q : World → Except Refusal Unit → Prop} (hw : Underway w true)
    (herror : ∀ w' refusal, Unreported w' → Q w' (.error refusal))
    (hok : ∀ bytes upgradeCode productVersion,
      equalsAsciiCaseless (b.sha256 bytes) selection.digestHex = true →
      packageMatches upgradeCode productVersion selection.code = true →
      Q { w with
          held := some {
            id := some writtenId, bytes := some bytes, upgradeCode := some upgradeCode
            productVersion := some productVersion } } (.ok ())) :
    wp (Allowed b tag) note (checkPackage b (.package tag assetName) writtenId selection) Q w := by
  have hheld (held : Option Held) : Underway { w with held } true := { hw with }
  have hdrop (held : Option Held) (refusal : Refusal) :
      wp (Allowed b tag) note (dropPackage (.package tag assetName) refusal) Q { w with held } :=
    wp_dropPackage (hheld held) fun w' h => herror w' refusal h
  refine wp_call trivial fun opened => ?_
  cases opened with
  | false => exact wp_call trivial fun deleted => herror _ _ ((hheld none).deleted _ _ _)
  | true =>
    refine wp_call trivial fun heldId => ?_
    split
    next => exact hdrop _ _
    next hid =>
      obtain rfl := not_not.1 hid
      refine wp_quiet (fun _ => rfl) trivial fun info => ?_
      cases info with
      | none => exact hdrop _ _
      | some info =>
        simp only
        split
        next => exact hdrop _ _
        next =>
          refine wp_call trivial fun bytes => ?_
          split
          next => exact hdrop _ _
          next hdigest =>
            obtain ⟨hread, hsame⟩ := not_or.1 hdigest
            cases bytes with
            | none => exact absurd rfl hread
            | some bytes =>
              refine wp_quiet (fun _ => rfl) trivial fun opened => ?_
              change wp _ _ _ Q { w with
                held := some { id := some writtenId, bytes := some bytes } }
              cases opened with
              | false =>
                -- of a database that does not open, no property is read
                refine wp_bind.2 (wp_askIf trivial (fun _ => ?_) nofun)
                refine wp_bind.2 (wp_askIf trivial (fun _ => ?_) nofun)
                exact hdrop _ _
              | true =>
                refine wp_bind.2 (wp_askIf trivial nofun fun _ upgradeCode => ?_)
                refine wp_bind.2 (wp_askIf trivial nofun fun _ productVersion => ?_)
                change wp _ _ _ Q { w with
                  held := some {
                    id := some writtenId, bytes := some bytes, upgradeCode, productVersion } }
                cases upgradeCode with
                | none => exact hdrop _ _
                | some upgradeCode =>
                  cases productVersion with
                  | none => exact hdrop _ _
                  | some productVersion =>
                    simp only
                    split
                    next => exact hdrop _ _
                    next hmatches =>
                      exact hok bytes upgradeCode productVersion (by simpa using hsame)
                        (by simpa using hmatches)

/-- How a run stands once msiexec was waited for. -/
structure Waited (w : World) (ended : Ended) : Prop where
  results : w.results = []
  package_eq : w.package = true
  installer : w.installer ≠ .notStarted
  exitCode : w.exitCode = some ended.exitCode
  early : w.closedEarly = w.waitFailed
  stuck : w.stuck = false
  idUnread : w.idUnread = false

lemma wp_notStarted {assetName : String} {moved : Bool} {Q : World → Except Refusal Ended → Prop}
    (hw : Underway w true) (herror : ∀ w' refusal, Unreported w' → Q w' (.error refusal)) :
    wp (Allowed b tag) note (notStarted tag (.package tag assetName) moved) Q
      { w with imageOut := moved } := by
  refine wp_bind.2 (wp_askIf trivial ?_ ?_)
  · rintro rfl
    exact wp_dropPackage { hw with imageOut := rfl } fun w' h => herror w' _ h
  · rintro rfl back
    refine wp_call trivial fun closed => wp_call trivial fun deleted => herror _ _ ?_
    refine .of_undone hw.results ?_ hw.waitFailed hw.idUnread ?_ ?_
    · simp [note, hw.closedEarly, hw.installer]
    all_goals
      cases back <;> simp [note, hw.package_eq, hw.stuck]

lemma wp_checkAdminOnly {package installLog : File} {Q : World → Bool → Prop} (h : ∀ r, Q w r) :
    wp (Allowed b tag) note (checkAdminOnly tag package installLog) Q w := by
  refine wp_quiet (fun _ => rfl) trivial fun updates => ?_
  cases updates with
  | false => exact h false
  | true =>
    refine wp_quiet (fun _ => rfl) trivial fun tagFolder => ?_
    cases tagFolder with
    | false => exact h false
    | true =>
      refine wp_quiet (fun _ => rfl) trivial fun packageFile => ?_
      cases packageFile with
      | false => exact h false
      | true => exact wp_ask.2 ⟨trivial, h⟩

lemma wp_runInstaller {assetName : String} {Q : World → Except Refusal Ended → Prop}
    (hw : Underway w true) (hcleared : Cleared b tag (.package tag assetName) w)
    (herror : ∀ w' refusal, Unreported w' → Q w' (.error refusal))
    (hok : ∀ w' ended, Waited w' ended → Q w' (.ok ended)) :
    wp (Allowed b tag) note (runInstaller tag (.package tag assetName)) Q w := by
  have hdrop (refusal : Refusal) :
      wp (Allowed b tag) note (dropPackage (.package tag assetName) refusal) Q w :=
    wp_dropPackage hw fun w' h => herror w' refusal h
  refine wp_quiet (fun _ => rfl) trivial fun deleted => ?_
  refine wp_quiet (fun _ => rfl) trivial fun logCreated => ?_
  cases logCreated with
  | false => exact hdrop _
  | true =>
    refine wp_bind.2 (wp_checkAdminOnly fun adminOnly => ?_)
    cases adminOnly with
    | false => exact hdrop _
    | true =>
      refine wp_call trivial fun moved => ?_
      change wp _ _ _ Q { w with imageOut := moved }
      refine wp_quiet (fun _ => rfl) trivial fun hasSystem => ?_
      cases hasSystem with
      | false => exact wp_notStarted (w := w) hw herror
      | true =>
        refine wp_call { hcleared with } fun started => ?_
        cases started with
        | false => exact wp_notStarted (w := w) hw herror
        | true =>
          refine wp_call trivial fun waited => ?_
          change wp _ _ _ Q { w with
            imageOut := moved
            installer := if waited then .ended else .running
            waitFailed := !waited || w.waitFailed }
          refine wp_call trivial fun code => wp_call trivial fun closed => hok _ _ ?_
          refine ⟨hw.results, hw.package_eq, ?_, rfl, ?_, hw.stuck, hw.idUnread⟩
          · cases waited <;> simp [note]
          · cases waited <;> simp [note, hw.closedEarly, hw.waitFailed]

lemma Unreported.of_started {exitCode : ℤ} (results : w.results = [])
    (early : w.closedEarly = w.waitFailed) (idUnread : w.idUnread = false)
    (installer : w.installer ≠ .notStarted) (hexit : w.exitCode = some exitCode)
    (hpackage : w.stuck = false → w.package = true → keepsPackage exitCode = true) :
    Unreported w where
  results := results
  early := early
  left := by
    refine iff_of_true (fun hstuck => ⟨fun hthere => ?_, fun h => absurd h installer⟩) idUnread
    exact ⟨exitCode, hexit, hpackage hstuck hthere⟩

lemma Waited.deleted {ended : Ended} (h : Waited w ended) (tag assetName : String)
    (deleted : Bool) : Unreported (note w ⟨.deleteFile (.package tag assetName), deleted⟩) := by
  refine .of_started h.results h.early h.idUnread h.installer h.exitCode fun hstuck hthere => ?_
  simp_all [note]

lemma Waited.movedBack {ended : Ended} (h : Waited w ended) (tag assetName : String)
    (deleted back : Bool) :
    Unreported (note (note w ⟨.deleteFile (.package tag assetName), deleted⟩)
      ⟨.moveImageBack tag, back⟩) := by
  refine .of_started h.results h.early h.idUnread h.installer h.exitCode fun hstuck hthere => ?_
  simp_all [note]

lemma wp_reportEnded {assetName : String} {code : ℕ} {ended : Ended} (hw : Waited w ended) :
    wp (Allowed b tag) note (reportEnded tag code (.package tag assetName) ended) Settled w := by
  rw [reportEnded]
  split
  next hkeeps =>
    refine wp_quiet (fun _ => rfl) trivial fun folders => ?_
    refine wp_bind.2 (wp_each (fun _ _ => ⟨trivial, fun _ => rfl⟩) ?_)
    exact wp_finish (.of_started hw.results hw.early hw.idUnread hw.installer hw.exitCode
      fun _ _ => hkeeps)
  next hkeeps =>
    -- what is left to do once it is reported changes nothing here
    have hrest {w' : World} (h : Unreported w') : wp (Allowed b tag) note (do
        let r ← finish tag code ended.exitCode
        let missing ← ask .imageMissing
        let _ ← askIf (!missing) .startThroughShell true
        return r) Settled w' := by
      refine wp_bind.2 (wp_mono (wp_finish h) fun w₁ r hsettled => ?_)
      refine wp_quiet (fun _ => rfl) trivial fun missing => wp_bind.2 ?_
      exact wp_askIf trivial (fun _ => hsettled) fun _ _ => hsettled
    refine wp_call trivial fun deleted => ?_
    refine wp_bind.2 (wp_askIf trivial ?_ ?_)
    · intro hmoved
      exact wp_bind.2 (wp_askIf trivial (fun _ => hrest (hw.deleted tag assetName deleted)) nofun)
    · intro hmoved missing
      refine wp_bind.2 (wp_askIf trivial ?_ fun _ back => ?_)
      · exact fun _ => hrest (hw.deleted tag assetName deleted)
      exact hrest (hw.movedBack tag assetName deleted back)

lemma wp_applyTag {code : ℕ} (hw : Underway w false) (hlock : w.lockHeld = true)
    (htag : isTagArgument b.feed tag = true) :
    wp (Allowed b tag) note (applyTag b tag code) Settled w := by
  have herror (w' : World) (refusal : Refusal) (h : Unreported w') :
      wp (Allowed b tag) note (refuse tag code refusal) Settled w' := wp_finish h
  refine wp_bind.2 (wp_offeredRelease (fun list refusal => ?_) ?_)
  · exact herror _ _ (Underway.unreported { hw with })
  intro list body releases hreleases hoffers
  refine wp_bind.2 (wp_downloadPackage { hw with } herror fun redirect id h302 hredirect => ?_)
  refine wp_bind.2 (wp_checkPackage { hw with package_eq := rfl } herror ?_)
  intro bytes upgradeCode productVersion hdigest hmatches
  refine wp_bind.2 (wp_runInstaller { hw with package_eq := rfl } ?_ herror ?_)
  · exact {
      lockHeld := hlock
      accepted := htag
      checked := ⟨list, body, releases, rfl, hreleases, _, rfl, hoffers, rfl,
        ⟨redirect, rfl, h302, hredirect, rfl⟩,
        ⟨_, id, bytes, upgradeCode, productVersion, rfl, rfl, rfl, rfl, hdigest, rfl, rfl,
          hmatches⟩⟩ }
  · exact fun w' ended hended => wp_reportEnded hended

end

lemma Underway.settled {w : World} (h : Underway w false) (hprepared : w.prepared = false) (r : ℤ) :
    Settled w r where
  reported := fun hthere => absurd hthere (by simp [hprepared])
  early := h.unreported.early
  left := h.unreported.left

lemma wp_applyUpdate (b : Build) (tagArgument : List UInt16) :
    wp (Allowed b (asciiTag tagArgument)) note (applyUpdate b tagArgument) Settled {} := by
  have hw (lockHeld prepared : Bool) : Underway { lockHeld, prepared } false := by
    constructor <;> rfl
  have hearly (lockHeld : Bool) (r : ℤ) : Settled { lockHeld } r :=
    (hw lockHeld false).settled rfl r
  refine wp_quiet (fun _ => rfl) trivial fun elevated => ?_
  cases elevated with
  | false => exact hearly _ _
  | true =>
    refine wp_quiet (fun _ => rfl) trivial fun executable => ?_
    split
    next => exact hearly _ _
    next =>
      refine wp_quiet (fun _ => rfl) trivial fun adminOnly => ?_
      cases adminOnly with
      | false => exact hearly _ _
      | true =>
        simp only [if_true]
        split
        next => exact hearly _ _
        next =>
          refine wp_quiet (fun _ => rfl) trivial fun folderSecurity => ?_
          refine wp_quiet (fun _ => rfl) trivial fun fileSecurity => ?_
          split
          next => exact hearly _ _
          next =>
            refine wp_bind.2 (wp_takeHelperLock ?_ fun lockHeld refusal => hearly lockHeld _)
            simp only
            split
            next => exact hearly _ _
            next htag =>
              refine wp_bind.2 (wp_prepareFolder (hearly _ _) ?_)
              refine wp_bind.2 (wp_quiet (fun _ => rfl) trivial fun images => ?_)
              refine wp_each (fun _ _ => ⟨trivial, fun _ => rfl⟩) ?_
              exact wp_applyTag (hw true true) rfl (by simpa using htag)

/-! ### The runs that meet what the helper is for -/

lemma note_idUnread (w : World) (e : Exchange Call Answer) :
    (note w e).idUnread = true ↔ w.idUnread = true ∨ e = ⟨.writtenId, none⟩ := by
  fun_cases note w e
  case case10 written =>
    rw [or_comm]
    simp
  case case23 =>
    refine ⟨.inl, ?_⟩
    rintro (h | rfl)
    · exact h
    · have hother : ∀ written,
          (⟨.writtenId, none⟩ : Exchange Call Answer) = ⟨.writtenId, written⟩ → False := by
        assumption
      exact (hother _ rfl).elim
  all_goals exact (or_iff_left nofun).symm

lemma note_waitFailed (w : World) (e : Exchange Call Answer) :
    (note w e).waitFailed = true ↔ w.waitFailed = true ∨ e = ⟨.waitInstaller, false⟩ := by
  fun_cases note w e
  case case21 waited =>
    rw [or_comm]
    simp
  case case23 =>
    refine ⟨.inl, ?_⟩
    rintro (h | rfl)
    · exact h
    · have hother : ∀ waited,
          (⟨.waitInstaller, false⟩ : Exchange Call Answer) = ⟨.waitInstaller, waited⟩ → False := by
        assumption
      exact (hother _ rfl).elim
  all_goals exact (or_iff_left nofun).symm

lemma foldl_note_iff {P : World → Prop} {e₀ : Exchange Call Answer}
    (hnote : ∀ w e, P (note w e) ↔ P w ∨ e = e₀) (w : World) (es : List (Exchange Call Answer)) :
    P (es.foldl note w) ↔ P w ∨ e₀ ∈ es := by
  induction es generalizing w with
  | nil => simp
  | cons e es ih => rw [List.foldl_cons, ih, hnote, or_assoc, List.mem_cons, eq_comm]

lemma world_idUnread (es : List (Exchange Call Answer)) :
    (world es).idUnread = true ↔ (⟨.writtenId, none⟩ : Exchange Call Answer) ∈ es := by
  rw [world, foldl_note_iff (P := fun w => w.idUnread = true) note_idUnread]
  simp

lemma world_waitFailed (es : List (Exchange Call Answer)) :
    (world es).waitFailed = true ↔ (⟨.waitInstaller, false⟩ : Exchange Call Answer) ∈ es := by
  rw [world, foldl_note_iff (P := fun w => w.waitFailed = true) note_waitFailed]
  simp

/-- What the helper is for: it starts msiexec on what is cleared only and holds the package until
msiexec has ended, it makes one attempt to report where the folder of the tag was prepared, with
the code it returns, and it leaves nothing half done. -/
structure Meets (b : Build) (tagArgument : List UInt16) (es : List (Exchange Call Answer)) (r : ℤ) :
    Prop where
  cleared : ∀ pre package installLog started post,
    es = pre ++ ⟨.createProcess package installLog, started⟩ :: post →
      Cleared b (asciiTag tagArgument) package (world pre)
  heldOn : (world es).closedEarly = false
  reported : (world es).prepared = true →
    ∃ exitCode, (world es).results = [exitCode] ∧ r = asInt exitCode
  left : LeavesNothing (world es)

/-- In every run msiexec is started on what is cleared only, and what was prepared is reported. -/
theorem starts_only_cleared (b : Build) (tagArgument : List UInt16)
    {es : List (Exchange Call Answer)} {r : ℤ} (hrun : Runs (applyUpdate b tagArgument) es r) :
    (∀ pre package installLog started post,
      es = pre ++ ⟨.createProcess package installLog, started⟩ :: post →
        Cleared b (asciiTag tagArgument) package (world pre)) ∧
    ((world es).prepared = true →
      ∃ exitCode, (world es).results = [exitCode] ∧ r = asInt exitCode) := by
  obtain ⟨hallowed, hsettled⟩ := wp_sound (wp_applyUpdate b tagArgument) hrun
  exact ⟨fun pre package installLog started post he => hallowed pre _ post he, hsettled.reported⟩

/-- A run meets it exactly when the id of the package file it created could be read, and the wait on
msiexec did not fail. -/
theorem installs_only_checked_iff (b : Build) (tagArgument : List UInt16)
    {es : List (Exchange Call Answer)} {r : ℤ} (hrun : Runs (applyUpdate b tagArgument) es r) :
    Meets b tagArgument es r ↔
      (⟨.writtenId, none⟩ : Exchange Call Answer) ∉ es ∧
        (⟨.waitInstaller, false⟩ : Exchange Call Answer) ∉ es := by
  obtain ⟨hcleared, hreported⟩ := starts_only_cleared b tagArgument hrun
  have hsettled := (wp_sound (wp_applyUpdate b tagArgument) hrun).2
  rw [← world_idUnread, ← world_waitFailed, Bool.not_eq_true, Bool.not_eq_true]
  constructor
  · intro h
    exact ⟨hsettled.left.1 h.left, hsettled.early.symm.trans h.heldOn⟩
  · rintro ⟨hid, hwait⟩
    exact {
      cleared := hcleared
      heldOn := hsettled.early.trans hwait
      reported := hreported
      left := hsettled.left.2 hid }

/-! ### A run -/

/-- The release of 22 September 2026, as its feed carries it. -/
def sampleRelease : Release :=
  { septemberRelease with
    assets := [{
      name := "URnetwork-2026.9.22-1053244730-x64.msi"
      url := "https://github.com/urnetwork/build/releases/download/" ++
        "v2026.9.22-1053244730/URnetwork-2026.9.22-1053244730-x64.msi"
      digest := digestOf 'A'
      updatedAt := "2026-09-22T12:00:00Z" }] }

/-- A helper of an older code, which finds that release in the list and its digest. -/
def sampleBuild : Build where
  feed := kOfficialFeed
  numericRepoId := 936244679
  owner := "urnetwork"
  repo := "build"
  kArch := "x64"
  kCode := 1
  parseReleaseList := fun _ => some [sampleRelease]
  sha256 := fun _ => String.ofList (List.replicate 64 'a')

/-- The tag of that release. -/
def sampleTag : List UInt16 := "v2026.9.22-1053244730".toList.map fun c => UInt16.ofNat c.toNat

/-- Everything goes well, but for the id of the package file where it is not read. -/
def sampleAnswer (writtenId : Option FileId) (_ : List (Exchange Call Answer)) :
    (c : Call) → Answer c
  | .ownExecutablePath => "URnetworkUpdate.exe"
  | .createDirectory _ => .made
  | .folderInfo _ | .lockInfo | .heldInfo => some ⟨false, false⟩
  | .openLock => .created
  | .runningImages | .folders => []
  | .now => 1790380860
  | .getText _ => some ({ status := 200, serverUnixSeconds := 1790380800 }, "[]")
  | .getHead _ => some { status := 302, location := "https://objects.githubusercontent.com/x" }
  | .getPackage _ => some { status := 200 }
  | .writtenId => writtenId
  | .heldId => some ⟨1, 2⟩
  | .hashHeld => some [0xd0, 0xcf]
  | .packageProperty .upgradeCode => some kUpgradeCode
  | .packageProperty .productVersion => some "26.9.45124"
  | .exitCodeProcess => some 0
  | .isElevated | .adminOnlyLocation _ | .buildSecurity _ | .readSecurity _ | .openFolder _
  | .setFolderSecurity _ | .setLockSecurity | .closeLock | .deleteImage _ | .writeResult _ _
  | .urlHostIsOneOf _ | .deleteFile _ | .createFile _ | .flushWritten | .closeWritten
  | .openHeld _ | .closeHeld | .openDatabase _ | .adminOnlyFolder _ | .adminOnlyFile _
  | .moveImageOut _ | .moveImageBack _ | .systemDirectory | .createProcess _ _ | .waitInstaller
  | .removeAll _ | .imageMissing | .startThroughShell => true

/-- The run with those answers. -/
def sampleRun (writtenId : Option FileId) : List (Exchange Call Answer) × ℤ :=
  (applyUpdate sampleBuild sampleTag).answered (sampleAnswer writtenId) []

lemma runs_sampleRun (writtenId : Option FileId) :
    Runs (applyUpdate sampleBuild sampleTag) (sampleRun writtenId).1 (sampleRun writtenId).2 :=
  runs_answered _ _ _

/-- Where the id is read, the release is installed. -/
theorem installs_only_checked_sample :
    (world (sampleRun (some ⟨1, 2⟩)).1).exitCode = some 0 ∧
      Meets sampleBuild sampleTag (sampleRun (some ⟨1, 2⟩)).1 (sampleRun (some ⟨1, 2⟩)).2 := by
  have hw : (world (sampleRun (some ⟨1, 2⟩)).1).exitCode = some 0 ∧
      (world (sampleRun (some ⟨1, 2⟩)).1).idUnread = false ∧
      (world (sampleRun (some ⟨1, 2⟩)).1).waitFailed = false := by decide +kernel
  refine ⟨hw.1, (installs_only_checked_iff _ _ (runs_sampleRun _)).2 ⟨?_, ?_⟩⟩
  · exact mt (world_idUnread _).2 (by simp [hw.2.1])
  · exact mt (world_waitFailed _).2 (by simp [hw.2.2])

/-- Where it is not, the run refuses, and leaves the file it has just created. -/
theorem unread_leaves_package :
    Runs (applyUpdate sampleBuild sampleTag) (sampleRun none).1 (sampleRun none).2 ∧
      ¬Meets sampleBuild sampleTag (sampleRun none).1 (sampleRun none).2 := by
  refine ⟨runs_sampleRun none, fun h => ?_⟩
  have hw : (world (sampleRun none).1).stuck = false ∧ (world (sampleRun none).1).package = true ∧
      (world (sampleRun none).1).exitCode = none := by decide +kernel
  obtain ⟨exitCode, hexit, -⟩ := (h.left hw.1).1 hw.2.1
  exact absurd hexit (by simp [hw.2.2])

end UrnetworkWindows.Updater
