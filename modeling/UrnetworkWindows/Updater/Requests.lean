/-
What the helper asks of the network: in every run at most its channel's release list, the
redirect of the package which that list offers, and the package where the redirect leads.
-/
import UrnetworkWindows.Updater.Installs

namespace UrnetworkWindows.Updater

open Update Checker Lib
open Lib.Dialogue (Exchange Runs AllCalls wp wp_bind wp_call wp_ite wp_sound)

/-! ### Requests -/

/-- The calls that go out on the network. -/
def Call.isRequest : Call → Bool
  | .getText _ | .getHead _ | .getPackage _ => true
  | _ => false

/-- The requests of a run, in order. -/
def requests (es : List (Exchange Call Answer)) : List (Exchange Call Answer) :=
  es.filter (·.call.isRequest)

/-- The list a run fetched, as the first of its requests, offers a release. -/
def Offers (b : Build) (tag : String) (asked : Exchange Call Answer) (selection : Selection) :
    Prop :=
  ∃ list body releases, asked = ⟨.getText (releaseListUrl b), some (list, body)⟩ ∧
    list.status = 200 ∧ b.parseReleaseList body = some releases ∧
    selection = selectRelease releases b.kArch b.feed list.serverUnixSeconds ∧
    selectionOffers selection tag b.kCode = true

/-- The request that may be next. -/
def MayAsk (b : Build) (tag : String) (asked : List (Exchange Call Answer)) : Call → Prop
  | .getText url => asked = [] ∧ url = releaseListUrl b
  | .getHead url => ∃ list selection, asked = [list] ∧ Offers b tag list selection ∧
      url = feedAssetUrl b selection.tag selection.assetName
  | .getPackage url => ∃ list head redirect, asked = [list, ⟨.getHead head, some redirect⟩] ∧
      redirect.status = 302 ∧ url = redirect.location ∧ isAllowedAssetRedirect url = true
  | _ => True

/-- What an exchange adds to the requests. -/
def noteRequest (asked : List (Exchange Call Answer)) (e : Exchange Call Answer) :
    List (Exchange Call Answer) :=
  if e.call.isRequest then asked ++ [e] else asked

lemma foldl_noteRequest (asked es : List (Exchange Call Answer)) :
    es.foldl noteRequest asked = asked ++ requests es := by
  induction es generalizing asked with
  | nil => exact (List.append_nil asked).symm
  | cons e es ih =>
    rw [List.foldl_cons, ih, noteRequest, requests, requests, List.filter_cons]
    split_ifs
    · rw [List.append_assoc, List.singleton_append]
    · rfl

/-! ### The parts that make no request -/

/-- A program that makes none. -/
abbrev Silent {α : Type} (p : Helper α) : Prop := AllCalls (fun c => c.isRequest = false) p

section

variable {b : Build} {tag : String}

lemma Silent.wp {α : Type} {p : Helper α} {Q : List (Exchange Call Answer) → α → Prop}
    {asked : List (Exchange Call Answer)} (h : Silent p) (hQ : ∀ a, Q asked a) :
    wp (MayAsk b tag) noteRequest p Q asked := by
  refine AllCalls.wp h (fun c hc => ⟨?_, fun r => ?_⟩) hQ
  · cases c <;> trivial
  · simp [noteRequest, hc]

lemma silent_askIf {made : Bool} {c : Call} {otherwise : Answer c} (hc : c.isRequest = false) :
    Silent (askIf made c otherwise) := by
  cases made with
  | false => exact trivial
  | true => exact ⟨hc, fun _ => trivial⟩

lemma silent_each {call : String → Call} (hcall : ∀ path, (call path).isRequest = false)
    (paths : List String) : Silent (each call paths) := by
  induction paths with
  | nil => exact trivial
  | cons path paths ih => exact ⟨hcall path, fun _ => ih⟩

lemma silent_prepareFolder (folder : Folder) : Silent (prepareFolder folder) := by
  refine .call rfl fun created => ?_
  cases created with
  | made | failed => exact trivial
  | alreadyExists =>
    refine .call rfl fun _ => .ite (.call rfl fun info => ?_) trivial
    cases info with
    | none => exact trivial
    | some info => exact .ite trivial (.call rfl fun _ => .ite (.ask rfl) trivial)

lemma silent_takeHelperLock : Silent takeHelperLock := by
  have hclose (refusal : Refusal) : Silent (do
      let _ ← ask .closeLock
      return some refusal) := .call rfl fun _ => trivial
  refine (silent_prepareFolder _).bind fun _ => .ite (.call rfl fun _ => .ite ?_ trivial) trivial
  refine .call rfl fun opened => .ite trivial (.ite trivial (.call rfl fun info => ?_))
  refine .ite (hclose _) (.ite (.call rfl fun _ => ?_) trivial)
  exact .ite (.call rfl fun _ => .ite trivial (hclose _)) (hclose _)

lemma silent_finish (tag : String) (code : ℕ) (exitCode : ℤ) :
    Silent (finish tag code exitCode) := by
  refine .call rfl fun second => .bind (.call rfl fun _ => .call rfl fun _ => ?_) fun _ => trivial
  refine .ite (.call rfl fun _ => .ite (.call rfl fun _ => ?_) trivial) trivial
  exact .ite (.ask rfl) trivial

lemma silent_dropPackage {α : Type} (package : File) (refusal : Refusal) :
    Silent (dropPackage package refusal : Helper (Except Refusal α)) :=
  .call rfl fun _ => .call rfl fun _ => trivial

lemma silent_checkPackage (package : File) (writtenId : FileId) (selection : Selection) :
    Silent (checkPackage b package writtenId selection) := by
  have hdrop (refusal : Refusal) :
      Silent (dropPackage package refusal : Helper (Except Refusal Unit)) := silent_dropPackage ..
  refine .call rfl fun _ => .ite (.call rfl fun _ => .ite (hdrop _) ?_) (.call rfl fun _ => trivial)
  refine .call rfl fun heldInfo => ?_
  split
  · refine .ite (hdrop _) (.call rfl fun bytes => .ite (hdrop _) (.call rfl fun opened => ?_))
    refine .bind (silent_askIf rfl) fun upgradeCode => .bind (silent_askIf rfl) fun version => ?_
    split
    · split
      · exact .ite (hdrop _) trivial
      · exact hdrop _
    · exact hdrop _
  · exact hdrop _

lemma silent_checkAdminOnly (tag : String) (package installLog : File) :
    Silent (checkAdminOnly tag package installLog) :=
  .call rfl fun _ => .ite (.call rfl fun _ => .ite (.call rfl fun _ => .ite (.ask rfl) trivial)
    trivial) trivial

lemma silent_runInstaller (tag : String) (package : File) : Silent (runInstaller tag package) := by
  have hdrop (refusal : Refusal) :
      Silent (dropPackage package refusal : Helper (Except Refusal Ended)) := silent_dropPackage ..
  have hnot (moved : Bool) : Silent (notStarted tag package moved) :=
    .bind (silent_askIf rfl) fun _ => hdrop _
  refine .call rfl fun _ => .call rfl fun _ => .ite (hdrop _) ?_
  refine (silent_checkAdminOnly ..).bind fun _ => .ite (.call rfl fun moved => ?_) (hdrop _)
  refine .call rfl fun _ => .ite (.call rfl fun _ => .ite ?_ (hnot moved)) (hnot moved)
  exact .call rfl fun _ => .call rfl fun _ => .call rfl fun _ => trivial

lemma silent_reportEnded (tag : String) (code : ℕ) (package : File) (ended : Ended) :
    Silent (reportEnded tag code package ended) := by
  refine .ite (.call rfl fun _ => ?_) (.call rfl fun _ => .bind (silent_askIf rfl) fun _ => ?_)
  · exact (silent_each (fun _ => rfl) _).bind fun _ => silent_finish ..
  · refine .bind (silent_askIf rfl) fun _ => (silent_finish ..).bind fun r => ?_
    exact .call rfl fun _ => .bind (silent_askIf rfl) fun _ => trivial

/-! ### The requests -/

lemma asks_offeredRelease {Q : List (Exchange Call Answer) → Except Refusal Selection → Prop}
    (herror : ∀ asked refusal, asked.length ≤ 1 → Q asked (.error refusal))
    (hok : ∀ asked selection, Offers b tag asked selection →
      selection.assetUrl = feedAssetUrl b selection.tag selection.assetName →
      Q [asked] (.ok selection)) :
    wp (MayAsk b tag) noteRequest (offeredRelease b tag) Q [] := by
  refine wp_call ⟨rfl, rfl⟩ fun answer => ?_
  have hrefused (refusal : Refusal) :
      Q (noteRequest [] ⟨.getText (releaseListUrl b), answer⟩) (.error refusal) :=
    herror _ _ le_rfl
  cases answer with
  | none => exact hrefused _
  | some answer =>
    obtain ⟨list, body⟩ := answer
    refine wp_ite (fun _ => hrefused _) fun _ => wp_ite (fun _ => hrefused _) fun hstatus => ?_
    refine wp_ite (fun _ => hrefused _) fun _ => ?_
    split
    · next releases hreleases =>
      refine wp_ite (fun _ => hrefused _) fun hoffers => wp_ite (fun _ => hrefused _) fun hurl => ?_
      refine hok _ _ ⟨list, body, releases, rfl, not_not.1 hstatus, hreleases, rfl, ?_⟩ ?_
      · simpa using hoffers
      · simpa [isFeedAssetUrl] using hurl
    · exact hrefused _

lemma asks_downloadPackage {selection : Selection} {asked : Exchange Call Answer}
    {Q : List (Exchange Call Answer) → Except Refusal FileId → Prop}
    (hoffers : Offers b tag asked selection)
    (hurl : selection.assetUrl = feedAssetUrl b selection.tag selection.assetName)
    (hQ : ∀ asked' answer, asked'.length ≤ 3 → Q asked' answer) :
    wp (MayAsk b tag) noteRequest (downloadPackage tag selection) Q [asked] := by
  refine wp_call ⟨asked, selection, rfl, hoffers, hurl⟩ fun answer => ?_
  have hrefused (refusal : Refusal) :
      Q (noteRequest [asked] ⟨.getHead selection.assetUrl, answer⟩) (.error refusal) :=
    hQ _ _ (Nat.le_succ 2)
  cases answer with
  | none => exact hrefused _
  | some redirect =>
    refine wp_ite (fun _ => hrefused _) fun hredirect => ?_
    obtain ⟨hstatus, hallowed⟩ := not_or.1 hredirect
    refine wp_call trivial fun _ => wp_ite (fun _ => ?_) fun _ => hrefused _
    refine wp_call trivial fun _ => wp_call trivial fun _ => wp_ite (fun _ => ?_) fun _ =>
      hrefused _
    refine wp_call trivial fun written => ?_
    cases written with
    | none => exact hrefused _
    | some id =>
      refine wp_call ⟨asked, selection.assetUrl, redirect, rfl, not_not.1 hstatus, rfl,
        by simpa using hallowed⟩ fun fetched => ?_
      -- nothing is asked of the network any more
      refine Silent.wp ?_ fun answer => hQ _ _ (Nat.le_refl 3)
      refine .bind (silent_askIf rfl) fun flushed => .call rfl fun _ => .ite ?_ trivial
      exact .call rfl fun _ => trivial

lemma asks_applyUpdate (b : Build) (tagArgument : List UInt16) :
    wp (MayAsk b (asciiTag tagArgument)) noteRequest (applyUpdate b tagArgument)
      (fun asked _ => asked.length ≤ 3) [] := by
  have hreturn (asked : List (Exchange Call Answer)) (h : asked.length ≤ 3) (refusal : Refusal)
      (code : ℕ) : wp (MayAsk b (asciiTag tagArgument)) noteRequest
        (refuse (asciiTag tagArgument) code refusal) (fun asked _ => asked.length ≤ 3) asked :=
    (silent_finish ..).wp fun _ => h
  have hnone : ([] : List (Exchange Call Answer)).length ≤ 3 := Nat.zero_le 3
  -- up to the folder of the packages nothing is asked of the network
  refine wp_call trivial fun _ => wp_ite (fun _ => wp_call trivial fun executable => ?_) fun _ =>
    hnone
  refine wp_ite (fun _ => hnone) fun _ => wp_call trivial fun _ =>
    wp_ite (fun _ => ?_) fun _ => hnone
  refine wp_ite (fun _ => hnone) fun _ => wp_call trivial fun _ => wp_call trivial fun _ => ?_
  refine wp_ite (fun _ => hnone) fun _ => wp_bind.2 (silent_takeHelperLock.wp fun refusal => ?_)
  cases refusal with
  | some refusal => exact hnone
  | none =>
    refine wp_ite (fun _ => hnone) fun _ => wp_bind.2 ((silent_prepareFolder _).wp fun _ => ?_)
    refine wp_ite (fun _ => ?_) fun _ => hnone
    have hstale : Silent removeStaleImages :=
      .call rfl fun images => silent_each (fun _ => rfl) images
    refine wp_bind.2 (hstale.wp fun _ => wp_bind.2 (asks_offeredRelease ?_ ?_))
    · exact fun asked refusal h => hreturn asked (h.trans (by decide)) refusal _
    intro asked selection hoffers hurl
    refine wp_bind.2 (asks_downloadPackage hoffers hurl fun asked' answer h => ?_)
    -- nor is anything once the package was fetched or refused
    cases answer with
    | error refusal => exact hreturn asked' h refusal _
    | ok writtenId =>
      refine wp_bind.2 ((silent_checkPackage ..).wp fun checked => ?_)
      cases checked with
      | error refusal => exact hreturn asked' h refusal _
      | ok =>
        refine wp_bind.2 ((silent_runInstaller ..).wp fun ended => ?_)
        cases ended with
        | error refusal => exact hreturn asked' h refusal _
        | ok ended => exact (silent_reportEnded ..).wp fun _ => h

end

/-- In every run, the helper makes at most three requests: the release list of its channel, then
the redirect of the package that this list offers for the tag, then the package, from the allowed
place that redirect names. -/
theorem asks_only_its_feed (b : Build) (tagArgument : List UInt16)
    {es : List (Exchange Call Answer)} {r : ℤ} (hrun : Runs (applyUpdate b tagArgument) es r) :
    (∀ pre e post, es = pre ++ e :: post → MayAsk b (asciiTag tagArgument) (requests pre) e.call) ∧
      (requests es).length ≤ 3 := by
  obtain ⟨hallowed, hend⟩ := wp_sound (asks_applyUpdate b tagArgument) hrun
  rw [foldl_noteRequest, List.nil_append] at hend
  refine ⟨fun pre e post he => ?_, hend⟩
  have hasked := hallowed pre e post he
  rwa [foldl_noteRequest, List.nil_append] at hasked

/-- Where all goes well it makes all three. -/
theorem asks_only_its_feed_sample :
    (requests (sampleRun (some ⟨1, 2⟩)).1).length = 3 ∧
      ∀ pre e post, (sampleRun (some ⟨1, 2⟩)).1 = pre ++ e :: post →
        MayAsk sampleBuild (asciiTag sampleTag) (requests pre) e.call :=
  ⟨by decide +kernel, (asks_only_its_feed sampleBuild sampleTag (runs_sampleRun _)).1⟩

end UrnetworkWindows.Updater
