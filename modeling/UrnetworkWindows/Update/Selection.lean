/-
The release to offer (`ReleaseSelection.h`), and the helper's own reading of it
(`UpdateApply.h`).

`SelectRelease` reads a release list once.  `judge` is what it makes of one release up to
its soak, in the order of the source; `selectStep` is what the loop then does to its three
running maxima.  A maximum that is only ever replaced by a greater code is the first
release of the greatest code, so the loop is described by three lists: the releases that
wait, those that count, and those that count with a usable digest.  `selectRelease_reads`
says that the selection holds the `List.argmax` of each.

Seconds are integers: the sources keep them in 64 bits, which hold every date a list can
be stamped with.
-/
import UrnetworkWindows.Lib.Places
import UrnetworkWindows.Lib.RunningMax
import UrnetworkWindows.Update.Formats

namespace UrnetworkWindows.Update

open Lib (greatest argmax_concat_of_lt argmax_concat_of_le filterMap_concat)

/-! ### The feed -/

/-- `Feed`, as far as the selection reads it. -/
structure Feed where
  acceptBetaPrereleases : Bool := false
  requireImmutable : Bool := false
  soakSeconds : ℤ := 0
  tagPrefix : String := ""
  acceptAnyPrerelease : Bool := false
deriving DecidableEq, Repr

/-- `kOfficialFeed`. -/
def kOfficialFeed : Feed where
  acceptBetaPrereleases := false
  requireImmutable := true
  soakSeconds := 24 * 60 * 60
  tagPrefix := ""
  acceptAnyPrerelease := false

/-- `kFutureCodeLimitSeconds`. -/
def kFutureCodeLimitSeconds : ℤ := 48 * 60 * 60

/-- `kCodeEpochUnixSeconds`. -/
def kCodeEpochUnixSeconds : ℤ := 1684800000

/-- `CodeUnixSeconds`. -/
def codeUnixSeconds (code : ℕ) : ℤ := kCodeEpochUnixSeconds + (code / 10 : ℕ)

/-- `kSecondsPerDay`. -/
def kSecondsPerDay : ℤ := 24 * 60 * 60

/-- `UtcDayStart`. -/
def utcDayStart (unixSeconds : ℤ) : ℤ :=
  let intoDay := unixSeconds.tmod kSecondsPerDay
  unixSeconds - (if intoDay < 0 then intoDay + kSecondsPerDay else intoDay)

lemma utcDayStart_le (unixSeconds : ℤ) : utcDayStart unixSeconds ≤ unixSeconds := by
  simp only [utcDayStart]
  split
  next h =>
    have := Int.lt_tmod_of_pos unixSeconds (b := kSecondsPerDay) (by decide)
    simp only [kSecondsPerDay] at *
    omega
  next h => omega

/-! ### The soak -/

/-- `SoakStart`. -/
structure SoakStart where
  unixSeconds : Option ℤ := none
  problem : String := ""
deriving DecidableEq, Repr

/-- `SoakStartOf`. -/
def soakStartOf (code : ℕ) (publishedAt updatedAt assetUpdatedAt : String) : SoakStart :=
  match parseUtcSecond publishedAt with
  | none => { problem := "has no publication time to judge its soak by" }
  | some published =>
    if published < codeUnixSeconds code - kFutureCodeLimitSeconds then
      { problem := "has a publication time before its own code's" }
    else
      match parseUtcSecond updatedAt with
      | none => { problem := "has no time of its last change to judge its soak by" }
      | some changed =>
        match parseUtcSecond assetUpdatedAt with
        | none => { problem := "has no upload time of its package to judge its soak by" }
        | some uploaded => { unixSeconds := some (max published (max changed uploaded)) }

lemma le_soakStartOf {code : ℕ} {publishedAt updatedAt assetUpdatedAt : String} {since : ℤ}
    (h : (soakStartOf code publishedAt updatedAt assetUpdatedAt).unixSeconds = some since) :
    codeUnixSeconds code - kFutureCodeLimitSeconds ≤ since := by
  revert h
  fun_cases soakStartOf code publishedAt updatedAt assetUpdatedAt
  case case5 published hpublished hnot changed hchanged uploaded huploaded =>
    intro h
    cases h
    exact le_trans (not_lt.1 hnot) (le_max_left _ _)
  -- the others have no second
  all_goals exact nofun

/-- `HasSoaked`. -/
def hasSoaked (feed : Feed) (sinceUnixSeconds : Option ℤ) (serverUnixSeconds : ℤ) : Bool :=
  if feed.soakSeconds ≤ 0 then true
  else
    match sinceUnixSeconds with
    | none => false
    | some since =>
      if serverUnixSeconds ≤ 0 then false
      else since + feed.soakSeconds ≤ utcDayStart serverUnixSeconds

/-- `SoakEndUnixSeconds`. -/
def soakEndUnixSeconds (feed : Feed) (sinceUnixSeconds : ℤ) : ℤ :=
  if feed.soakSeconds ≤ 0 then sinceUnixSeconds
  else
    let soaked := sinceUnixSeconds + feed.soakSeconds
    let day := utcDayStart soaked
    if day = soaked then soaked else day + kSecondsPerDay

/-- `kOfferFreshSeconds`. -/
def kOfferFreshSeconds : ℤ := 5 * 60

/-- `OfferMayHaveChanged`. -/
def offerMayHaveChanged (feed : Feed) (serverUnixSecondsAtCheck secondsSince : ℤ) : Bool :=
  if secondsSince < 0 ∨ secondsSince > kOfferFreshSeconds then true
  else if feed.soakSeconds ≤ 0 ∨ serverUnixSecondsAtCheck ≤ 0 then false
  else utcDayStart (serverUnixSecondsAtCheck + secondsSince) ≠
    utcDayStart serverUnixSecondsAtCheck

/-! ### The releases -/

/-- `ReleaseAsset`. -/
structure ReleaseAsset where
  name : String
  url : String
  digest : String
  updatedAt : String
deriving DecidableEq, Repr

/-- `Release`. -/
structure Release where
  tag : String
  draft : Bool := false
  prerelease : Bool := false
  immutable : Bool := false
  publishedAt : String
  updatedAt : String
  assets : List ReleaseAsset
deriving DecidableEq, Repr

/-- `Selection::Skip`. -/
structure Skip where
  tag : String
  reason : String
  soaking : Bool := false
deriving DecidableEq, Repr

/-- `Selection`. -/
structure Selection where
  newestCode : ℕ := 0
  newestVersion : String := ""
  waitingCode : ℕ := 0
  waitingVersion : String := ""
  waitingFromUnixSeconds : ℤ := 0
  code : ℕ := 0
  version : String := ""
  tag : String := ""
  assetName : String := ""
  assetUrl : String := ""
  digestHex : String := ""
  skipped : List Skip := []
deriving DecidableEq, Repr

/-- `InstallerAssetName`. -/
def installerAssetName (version arch : String) : String :=
  "URnetwork-" ++ version ++ "-" ++ arch ++ ".msi"

/-- `FeedTag`. -/
structure FeedTag where
  version : String
  code : ℕ
deriving DecidableEq, Repr

/-- `ParseFeedTag`. -/
def parseFeedTag (feed : Feed) (tag : String) : Option FeedTag :=
  let kPrefix := feed.tagPrefix.toList
  if tag.toList.take kPrefix.length ≠ kPrefix then none
  else
    let tag := tag.toList.drop kPrefix.length
    let code := parseReleaseCode tag
    if code = 0 then none
    else
      let version := if tag.head? = some 'v' then tag.drop 1 else tag
      some { version := String.ofList version, code }

lemma parseFeedTag_pos {feed : Feed} {tag : String} {t : FeedTag}
    (h : parseFeedTag feed tag = some t) : 0 < t.code := by
  simp only [parseFeedTag] at h
  split at h
  next => cases h
  next =>
    split at h
    next => cases h
    next hcode =>
      cases h
      exact Nat.pos_of_ne_zero hcode

/-- `EndsWith`. -/
def endsWith (text suffix : String) : Bool := suffix.toList.isSuffixOf text.toList

/-- The asset `SelectRelease` takes for the package: the last one of its name. -/
def lastNamed (name : String) (assets : List ReleaseAsset) : Option ReleaseAsset :=
  assets.foldl (fun found asset => if asset.name = name then some asset else found) none

lemma lastNamed_concat (name : String) (assets : List ReleaseAsset) (asset : ReleaseAsset) :
    lastNamed name (assets ++ [asset]) =
      if asset.name = name then some asset else lastNamed name assets := by
  rw [lastNamed, List.foldl_append]
  rfl

/-- The package of a release: its last asset of that name. -/
def IsLastNamed (name : String) (assets : List ReleaseAsset) (asset : ReleaseAsset) : Prop :=
  asset.name = name ∧
    ∃ earlier later, assets = earlier ++ asset :: later ∧ ∀ a ∈ later, a.name ≠ name

lemma isLastNamed_concat {name : String} {assets : List ReleaseAsset}
    {last asset : ReleaseAsset} : IsLastNamed name (assets ++ [last]) asset ↔
      if last.name = name then last = asset else IsLastNamed name assets asset := by
  constructor
  · rintro ⟨hname, earlier, later, h, hlater⟩
    rcases List.eq_nil_or_concat later with rfl | ⟨later, x, rfl⟩
    · obtain rfl := List.singleton_inj.1 (List.append_inj' h rfl).2
      rw [if_pos hname]
    · rw [List.concat_eq_append, ← List.cons_append, ← List.append_assoc] at h
      obtain ⟨rfl, hx⟩ := List.append_inj' h rfl
      obtain rfl := List.singleton_inj.1 hx
      rw [if_neg (hlater _ (by simp))]
      exact ⟨hname, earlier, later, rfl, fun a ha => hlater a (by simp [ha])⟩
  · split
    next hlast =>
      rintro rfl
      exact ⟨hlast, assets, [], rfl, by simp⟩
    next hlast =>
      rintro ⟨hname, earlier, later, rfl, hlater⟩
      refine ⟨hname, earlier, later ++ [last], by simp, ?_⟩
      intro a ha
      rcases List.mem_append.1 ha with ha | ha
      · exact hlater a ha
      · rw [List.mem_singleton.1 ha]
        exact hlast

lemma lastNamed_eq_some {name : String} {assets : List ReleaseAsset} {asset : ReleaseAsset} :
    lastNamed name assets = some asset ↔ IsLastNamed name assets asset := by
  induction assets using List.reverseRecOn with
  | nil =>
    constructor
    · intro h
      cases h
    · rintro ⟨-, earlier, later, h, -⟩
      exact absurd h (by simp)
  | append_singleton assets last ih =>
    rw [lastNamed_concat, isLastNamed_concat, ← ih]
    split
    next => exact Option.some_inj
    next => rfl

/-! ### One release -/

/-- What `SelectRelease` makes of a release, up to its soak: a `continue` with nothing said,
one with a reason, a release only its soak holds back, or one that counts. -/
inductive Judgment
  | ignored
  | skipped (reason : String)
  | waits (tag : FeedTag) (sinceUnixSeconds : ℤ)
  | counts (tag : FeedTag) (name : String) (asset : ReleaseAsset)
deriving DecidableEq, Repr

/-- The rule `SelectRelease` has for prereleases. -/
def skipsPrerelease (feed : Feed) (rel : Release) : Bool :=
  rel.prerelease && !feed.acceptAnyPrerelease &&
    !(feed.acceptBetaPrereleases && endsWith rel.tag "-beta")

/-- The body of the loop of `SelectRelease` before it writes to the selection. -/
def judge (arch : String) (feed : Feed) (serverUnixSeconds : ℤ) (rel : Release) : Judgment :=
  if rel.draft then .ignored
  else if skipsPrerelease feed rel then .ignored
  else
    match parseFeedTag feed rel.tag with
    | none => .ignored
    | some tag =>
      if feed.requireImmutable && !rel.immutable then .skipped "is not an immutable release"
      else if codeUnixSeconds tag.code > serverUnixSeconds + kFutureCodeLimitSeconds then
        .skipped "has a future code (more than 48 h after the server's date)"
      else
        let name := installerAssetName tag.version arch
        match lastNamed name rel.assets with
        | none => .skipped ("lacks " ++ name)
        | some asset =>
          if asset.url = "" then .skipped ("lacks " ++ name)
          else
            let since := soakStartOf tag.code rel.publishedAt rel.updatedAt asset.updatedAt
            if hasSoaked feed since.unixSeconds serverUnixSeconds then .counts tag name asset
            else
              match since.unixSeconds with
              | none => .skipped since.problem
              | some second => .waits tag second

/-- The rules of a feed, all of them met by the release of the code of `tag`, where `asset`
is the package its soak is judged by. -/
structure Rules (feed : Feed) (serverUnixSeconds : ℤ) (rel : Release) (tag : FeedTag)
    (asset : ReleaseAsset) : Prop where
  published : rel.draft = false
  prerelease : rel.prerelease = true → feed.acceptAnyPrerelease = true ∨
    feed.acceptBetaPrereleases = true ∧ endsWith rel.tag "-beta" = true
  parsed : parseFeedTag feed rel.tag = some tag
  immutable : feed.requireImmutable = true → rel.immutable = true
  future : codeUnixSeconds tag.code ≤ serverUnixSeconds + kFutureCodeLimitSeconds
  soaked : hasSoaked feed (soakStartOf tag.code rel.publishedAt rel.updatedAt
    asset.updatedAt).unixSeconds serverUnixSeconds = true

/-- `asset` is what `SelectRelease` takes for the package of a release. -/
structure IsPackage (arch : String) (rel : Release) (tag : FeedTag) (asset : ReleaseAsset) :
    Prop where
  last : IsLastNamed (installerAssetName tag.version arch) rel.assets asset
  url : asset.url ≠ ""

/-- A release that counts. -/
def Counts (arch : String) (feed : Feed) (serverUnixSeconds : ℤ) (rel : Release)
    (tag : FeedTag) (asset : ReleaseAsset) : Prop :=
  Rules feed serverUnixSeconds rel tag asset ∧ IsPackage arch rel tag asset

lemma skipsPrerelease_eq_false {feed : Feed} {rel : Release} :
    skipsPrerelease feed rel = false ↔ (rel.prerelease = true →
      feed.acceptAnyPrerelease = true ∨
        feed.acceptBetaPrereleases = true ∧ endsWith rel.tag "-beta" = true) := by
  unfold skipsPrerelease
  cases rel.prerelease <;> cases feed.acceptAnyPrerelease <;> simp

theorem judge_eq_counts {arch : String} {feed : Feed} {serverUnixSeconds : ℤ} {rel : Release}
    {tag : FeedTag} {name : String} {asset : ReleaseAsset} :
    judge arch feed serverUnixSeconds rel = .counts tag name asset ↔
      Counts arch feed serverUnixSeconds rel tag asset ∧
        name = installerAssetName tag.version arch := by
  constructor
  · fun_cases judge arch feed serverUnixSeconds rel
    case case8 hdraft hpre t ht himm hfuture package a ha hurl since hsoaked =>
      intro h
      obtain ⟨rfl, rfl, rfl⟩ := Judgment.counts.inj h
      refine ⟨⟨?_, lastNamed_eq_some.1 ha, hurl⟩, rfl⟩
      constructor
      · exact Bool.eq_false_of_not_eq_true hdraft
      · exact skipsPrerelease_eq_false.1 (Bool.eq_false_of_not_eq_true hpre)
      · exact ht
      · simpa using himm
      · exact not_lt.1 hfuture
      · exact hsoaked
    -- every other branch ends in a `continue`
    all_goals exact nofun
  · rintro ⟨⟨h, hpackage⟩, rfl⟩
    have himm : (feed.requireImmutable && !rel.immutable) = false := by
      have := h.immutable
      revert this
      cases feed.requireImmutable <;> cases rel.immutable <;> simp
    rw [judge, h.published, skipsPrerelease_eq_false.2 h.prerelease, h.parsed]
    simp only [himm, if_neg (not_lt.2 h.future), lastNamed_eq_some.2 hpackage.last,
      if_neg hpackage.url, h.soaked, Bool.false_eq_true, if_true, if_false]

/-! ### The list -/

/-- What the loop of `SelectRelease` does with a release only its soak holds back. -/
def Selection.takeWaiting (feed : Feed) (s : Selection) (rel : Release) (tag : FeedTag)
    (sinceUnixSeconds : ℤ) : Selection :=
  let reason := "had not been out, unchanged, for " ++ toString (feed.soakSeconds.tdiv 3600) ++
    " h when the server's day began"
  let s := { s with skipped := s.skipped ++ [{ tag := rel.tag, reason, soaking := true }] }
  if tag.code > s.waitingCode then
    { s with
      waitingCode := tag.code
      waitingVersion := tag.version
      waitingFromUnixSeconds := soakEndUnixSeconds feed sinceUnixSeconds }
  else s

/-- The newest release that counts. -/
def Selection.takeNewest (s : Selection) (tag : FeedTag) : Selection :=
  if tag.code > s.newestCode then
    { s with newestCode := tag.code, newestVersion := tag.version }
  else s

/-- The newest release that counts and has a digest to check. -/
def Selection.takeOffer (s : Selection) (rel : Release) (tag : FeedTag) (name : String)
    (asset : ReleaseAsset) : Selection :=
  if tag.code ≤ s.code then s
  else
    let digestHex := digestHexFromAssetDigest asset.digest
    if digestHex = "" then
      { s with
        skipped := s.skipped ++
          [{ tag := rel.tag, reason := "lacks a usable digest for " ++ name }] }
    else
      { s with
        code := tag.code
        version := tag.version
        tag := rel.tag
        assetName := name
        assetUrl := asset.url
        digestHex }

/-- The body of the loop of `SelectRelease`. -/
def selectStep (arch : String) (feed : Feed) (serverUnixSeconds : ℤ) (s : Selection)
    (rel : Release) : Selection :=
  match judge arch feed serverUnixSeconds rel with
  | .ignored => s
  | .skipped reason => { s with skipped := s.skipped ++ [{ tag := rel.tag, reason }] }
  | .waits tag sinceUnixSeconds => s.takeWaiting feed rel tag sinceUnixSeconds
  | .counts tag name asset => (s.takeNewest tag).takeOffer rel tag name asset

/-- `SelectRelease`. -/
def selectRelease (releases : List Release) (arch : String) (feed : Feed)
    (serverUnixSeconds : ℤ) : Selection :=
  releases.foldl (selectStep arch feed serverUnixSeconds) {}

/-! ### What the maxima are taken of -/

/-- A release that counts, with its tag read and its package. -/
structure Candidate where
  release : Release
  tag : FeedTag
  asset : ReleaseAsset
deriving DecidableEq, Repr

/-- The code a candidate is ranked by. -/
def Candidate.code (c : Candidate) : ℕ := c.tag.code

/-- The helper can check what it downloads. -/
def Candidate.usable (c : Candidate) : Bool := digestHexFromAssetDigest c.asset.digest ≠ ""

section Lists

variable (arch : String) (feed : Feed) (serverUnixSeconds : ℤ)

/-- The candidate a release is, if it counts. -/
def counting? (rel : Release) : Option Candidate :=
  match judge arch feed serverUnixSeconds rel with
  | .counts tag _ asset => some ⟨rel, tag, asset⟩
  | _ => none

/-- The releases of a list that count. -/
def counting (releases : List Release) : List Candidate :=
  releases.filterMap (counting? arch feed serverUnixSeconds)

/-- The tag of a release only its soak holds back, and the second that is counted from. -/
def waiting? (rel : Release) : Option (FeedTag × ℤ) :=
  match judge arch feed serverUnixSeconds rel with
  | .waits tag sinceUnixSeconds => some (tag, sinceUnixSeconds)
  | _ => none

/-- The releases of a list that only wait. -/
def waiting (releases : List Release) : List (FeedTag × ℤ) :=
  releases.filterMap (waiting? arch feed serverUnixSeconds)

end Lists

lemma counting?_eq_some {arch : String} {feed : Feed} {serverUnixSeconds : ℤ} {rel : Release}
    {c : Candidate} : counting? arch feed serverUnixSeconds rel = some c ↔
      c.release = rel ∧ Counts arch feed serverUnixSeconds rel c.tag c.asset := by
  constructor
  · intro h
    unfold counting? at h
    split at h
    next tag name asset hj =>
      cases h
      exact ⟨rfl, (judge_eq_counts.1 hj).1⟩
    next => cases h
  · rintro ⟨rfl, h⟩
    rw [counting?, judge_eq_counts.2 ⟨h, rfl⟩]

lemma mem_counting {arch : String} {feed : Feed} {serverUnixSeconds : ℤ}
    {releases : List Release} {c : Candidate} :
    c ∈ counting arch feed serverUnixSeconds releases ↔
      c.release ∈ releases ∧ Counts arch feed serverUnixSeconds c.release c.tag c.asset := by
  rw [counting, List.mem_filterMap]
  constructor
  · rintro ⟨rel, hmem, hrel⟩
    obtain ⟨rfl, h⟩ := counting?_eq_some.1 hrel
    exact ⟨hmem, h⟩
  · rintro ⟨hmem, h⟩
    exact ⟨c.release, hmem, counting?_eq_some.2 ⟨rfl, h⟩⟩

/-! ### What the selection holds -/

/-- What an offer is made of: `Selection` from its `code` on. -/
structure Offer where
  code : ℕ := 0
  version : String := ""
  tag : String := ""
  assetName : String := ""
  assetUrl : String := ""
  digestHex : String := ""
deriving DecidableEq, Repr

/-- The offer of a selection. -/
def Selection.offer (s : Selection) : Offer where
  code := s.code
  version := s.version
  tag := s.tag
  assetName := s.assetName
  assetUrl := s.assetUrl
  digestHex := s.digestHex

/-- The offer made of a candidate, or of none. -/
def offerOf (arch : String) : Option Candidate → Offer
  | none => {}
  | some c =>
    { code := c.code
      version := c.tag.version
      tag := c.release.tag
      assetName := installerAssetName c.tag.version arch
      assetUrl := c.asset.url
      digestHex := digestHexFromAssetDigest c.asset.digest }

/-- What is named the newest release. -/
def newestOf : Option Candidate → ℕ × String
  | none => (0, "")
  | some c => (c.code, c.tag.version)

/-- What is named the newest release held back. -/
def waitingOf (feed : Feed) : Option (FeedTag × ℤ) → ℕ × String × ℤ
  | none => (0, "", 0)
  | some w => (w.1.code, w.1.version, soakEndUnixSeconds feed w.2)

/-- The selection is what is read off the first ones of the greatest codes: of what counts,
of what can be offered, and of what waits. -/
structure Reads (arch : String) (feed : Feed) (s : Selection) (counting offerable : List Candidate)
    (waiting : List (FeedTag × ℤ)) : Prop where
  newest : (s.newestCode, s.newestVersion) = newestOf (counting.argmax Candidate.code)
  offer : s.offer = offerOf arch (offerable.argmax Candidate.code)
  waiting : (s.waitingCode, s.waitingVersion, s.waitingFromUnixSeconds) =
    waitingOf feed (waiting.argmax fun w => w.1.code)

namespace Reads

variable {arch : String} {feed : Feed} {s : Selection} {cs os : List Candidate}
  {ws : List (FeedTag × ℤ)}

lemma newestCode (h : Reads arch feed s cs os ws) :
    s.newestCode = greatest Candidate.code cs := by
  have hcode := congrArg Prod.fst h.newest
  rw [greatest]
  cases hm : cs.argmax Candidate.code with
  | none | some c => rwa [hm] at hcode

lemma code (h : Reads arch feed s cs os ws) : s.code = greatest Candidate.code os := by
  have hcode := congrArg Offer.code h.offer
  rw [greatest]
  cases hm : os.argmax Candidate.code with
  | none | some c => rwa [hm] at hcode

lemma waitingCode (h : Reads arch feed s cs os ws) :
    s.waitingCode = greatest (fun w => w.1.code) ws := by
  have hcode := congrArg Prod.fst h.waiting
  rw [greatest]
  cases hm : ws.argmax fun w => w.1.code with
  | none | some w => rwa [hm] at hcode

lemma skip (h : Reads arch feed s cs os ws) (skipped : List Skip) :
    Reads arch feed { s with skipped } cs os ws := ⟨h.newest, h.offer, h.waiting⟩

lemma takeWaiting (h : Reads arch feed s cs os ws) (rel : Release) {tag : FeedTag}
    (hpos : 0 < tag.code) (since : ℤ) :
    Reads arch feed (s.takeWaiting feed rel tag since) cs os (ws ++ [(tag, since)]) := by
  simp only [Selection.takeWaiting]
  split
  next hlt =>
    rw [gt_iff_lt, h.waitingCode] at hlt
    refine ⟨h.newest, h.offer, ?_⟩
    rw [argmax_concat_of_lt (a := (tag, since)) hlt]
    rfl
  next hle =>
    rw [gt_iff_lt, h.waitingCode, not_lt] at hle
    refine ⟨h.newest, h.offer, ?_⟩
    rw [argmax_concat_of_le (a := (tag, since)) hpos hle]
    exact h.waiting

lemma takeNewest (h : Reads arch feed s cs os ws) {c : Candidate} (hpos : 0 < c.code) :
    Reads arch feed (s.takeNewest c.tag) (cs ++ [c]) os ws := by
  unfold Selection.takeNewest
  split
  next hlt =>
    rw [gt_iff_lt, h.newestCode] at hlt
    refine ⟨?_, h.offer, h.waiting⟩
    rw [argmax_concat_of_lt hlt]
    rfl
  next hle =>
    rw [gt_iff_lt, h.newestCode, not_lt] at hle
    refine ⟨?_, h.offer, h.waiting⟩
    rw [argmax_concat_of_le hpos hle]
    exact h.newest

lemma takeOffer (h : Reads arch feed s cs os ws) {c : Candidate} (hpos : 0 < c.code)
    (husable : c.usable = true) :
    Reads arch feed
      (s.takeOffer c.release c.tag (installerAssetName c.tag.version arch) c.asset)
      cs (os ++ [c]) ws := by
  have hdigest := of_decide_eq_true husable
  simp only [Selection.takeOffer, if_neg hdigest]
  split
  next hle =>
    rw [h.code] at hle
    refine ⟨h.newest, ?_, h.waiting⟩
    rw [argmax_concat_of_le hpos hle]
    exact h.offer
  next hlt =>
    rw [h.code, not_le] at hlt
    refine ⟨h.newest, ?_, h.waiting⟩
    rw [argmax_concat_of_lt hlt]
    rfl

lemma leaveOffer (h : Reads arch feed s cs os ws) {c : Candidate} (husable : c.usable = false) :
    Reads arch feed
      (s.takeOffer c.release c.tag (installerAssetName c.tag.version arch) c.asset)
      cs os ws := by
  have hdigest := not_not.1 (of_decide_eq_false husable)
  simp only [Selection.takeOffer, if_pos hdigest]
  split
  next => exact h
  next => exact h.skip _

end Reads

lemma judge_waits_pos {arch : String} {feed : Feed} {serverUnixSeconds : ℤ} {rel : Release}
    {tag : FeedTag} {since : ℤ} (h : judge arch feed serverUnixSeconds rel = .waits tag since) :
    0 < tag.code := by
  revert h
  fun_cases judge arch feed serverUnixSeconds rel
  case case10 hdraft hpre t ht himm hfuture package a ha hurl soak hnot second hsecond =>
    intro h
    obtain ⟨rfl, rfl⟩ := Judgment.waits.inj h
    exact parseFeedTag_pos ht
  all_goals exact nofun

section Lists

variable {arch : String} {feed : Feed} {s : Selection} {cs os : List Candidate}
  {ws : List (FeedTag × ℤ)} (serverUnixSeconds : ℤ)

lemma Reads.step (h : Reads arch feed s cs os ws) (rel : Release) :
    Reads arch feed (selectStep arch feed serverUnixSeconds s rel)
      (cs ++ (counting? arch feed serverUnixSeconds rel).toList)
      (os ++ (counting? arch feed serverUnixSeconds rel).toList.filter Candidate.usable)
      (ws ++ (waiting? arch feed serverUnixSeconds rel).toList) := by
  simp only [selectStep, counting?, waiting?]
  cases hj : judge arch feed serverUnixSeconds rel with
  | ignored => simpa using h
  | skipped reason => simpa using h.skip _
  | waits tag since => simpa using h.takeWaiting rel (judge_waits_pos hj) since
  | counts tag name asset =>
    obtain ⟨hcounts, rfl⟩ := judge_eq_counts.1 hj
    have hpos : 0 < (Candidate.mk rel tag asset).code := parseFeedTag_pos hcounts.1.parsed
    cases husable : (Candidate.mk rel tag asset).usable with
    | true => simpa [husable] using (h.takeNewest hpos).takeOffer hpos husable
    | false => simpa [husable] using (h.takeNewest hpos).leaveOffer husable

variable (arch feed)

theorem selectRelease_reads (releases : List Release) :
    Reads arch feed (selectRelease releases arch feed serverUnixSeconds)
      (counting arch feed serverUnixSeconds releases)
      ((counting arch feed serverUnixSeconds releases).filter Candidate.usable)
      (waiting arch feed serverUnixSeconds releases) := by
  induction releases using List.reverseRecOn with
  | nil => exact ⟨rfl, rfl, rfl⟩
  | append_singleton releases rel ih =>
    have hstep := ih.step serverUnixSeconds rel
    rw [← List.filter_append] at hstep
    rw [selectRelease, List.foldl_append, counting, waiting, filterMap_concat, filterMap_concat]
    exact hstep

end Lists

end UrnetworkWindows.Update
