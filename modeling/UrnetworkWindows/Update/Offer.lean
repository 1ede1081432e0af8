/-
What an update check offers, and what the elevated helper installs (`ReleaseSelection.h`,
`UpdateApply.h`).

On a feed that soaks, a release that counts at one second of a UTC day counts at every
second of it.  The soak is read at the start of the day, the same for both; the future
limit is read at the second itself, but a release that has soaked was published before the
day began, and a code is at most two days ahead of its publication.  So a day has one
offer (`offer_same_all_day`).

The helper asks for the tag it was given.  What it installs is the package of the newest
release of the list that can be checked, whatever order the list came in
(`helper_installs_newest`).
-/
import UrnetworkWindows.Update.Selection

namespace UrnetworkWindows.Update

open Lib (greatest greatest_perm le_greatest)

/-! ### One offer a day -/

variable {feed : Feed}

lemma soaked_since (hsoak : 0 < feed.soakSeconds) {since : Option ℤ} {server : ℤ}
    (h : hasSoaked feed since server = true) :
    ∃ second, since = some second ∧ second + feed.soakSeconds ≤ utcDayStart server := by
  unfold hasSoaked at h
  rw [if_neg (not_le.2 hsoak)] at h
  cases since with
  | none => exact absurd h (by simp)
  | some second =>
    simp only at h
    split at h
    next => exact absurd h (by simp)
    next => exact ⟨second, rfl, of_decide_eq_true h⟩

lemma Rules.of_same_day (hsoak : 0 < feed.soakSeconds) {s₁ s₂ : ℤ} (h₂ : 0 < s₂)
    (hday : utcDayStart s₁ = utcDayStart s₂) {rel : Release} {tag : FeedTag}
    {asset : ReleaseAsset} (h : Rules feed s₁ rel tag asset) : Rules feed s₂ rel tag asset := by
  obtain ⟨second, hsince, hle⟩ := soaked_since hsoak h.soaked
  have hcode := le_soakStartOf hsince
  have hstart := utcDayStart_le s₂
  constructor
  · exact h.published
  · exact h.prerelease
  · exact h.parsed
  · exact h.immutable
  · -- published at most two days after its code says, and before this day
    omega
  · rw [hsince, hasSoaked, if_neg (not_le.2 hsoak)]
    simp only [if_neg (not_le.2 h₂), ← hday]
    exact decide_eq_true hle

lemma counting_of_same_day (arch : String) (hsoak : 0 < feed.soakSeconds) {s₁ s₂ : ℤ}
    (h₁ : 0 < s₁) (h₂ : 0 < s₂) (hday : utcDayStart s₁ = utcDayStart s₂) (releases : List Release) :
    counting arch feed s₁ releases = counting arch feed s₂ releases := by
  have hone : counting? arch feed s₁ = counting? arch feed s₂ := by
    funext rel
    ext c
    rw [counting?_eq_some, counting?_eq_some]
    constructor
    · rintro ⟨hrel, hrules, hpackage⟩
      exact ⟨hrel, hrules.of_same_day hsoak h₂ hday, hpackage⟩
    · rintro ⟨hrel, hrules, hpackage⟩
      exact ⟨hrel, hrules.of_same_day hsoak h₁ hday.symm, hpackage⟩
  rw [counting, counting, hone]

/-- Two selections offer the same release, and name the same one the newest. -/
structure SameOffer (a b : Selection) : Prop where
  code : a.code = b.code
  version : a.version = b.version
  tag : a.tag = b.tag
  assetName : a.assetName = b.assetName
  assetUrl : a.assetUrl = b.assetUrl
  digestHex : a.digestHex = b.digestHex
  newestCode : a.newestCode = b.newestCode
  newestVersion : a.newestVersion = b.newestVersion

lemma sameOffer_of_same_day (arch : String) (hsoak : 0 < feed.soakSeconds) {s₁ s₂ : ℤ}
    (h₁ : 0 < s₁) (h₂ : 0 < s₂) (hday : utcDayStart s₁ = utcDayStart s₂) (releases : List Release) :
    SameOffer (selectRelease releases arch feed s₁) (selectRelease releases arch feed s₂) := by
  have hr₁ := selectRelease_reads arch feed s₁ releases
  have hr₂ := selectRelease_reads arch feed s₂ releases
  rw [counting_of_same_day arch hsoak h₁ h₂ hday] at hr₁
  have hoffer := hr₁.offer.trans hr₂.offer.symm
  have hnewest := hr₁.newest.trans hr₂.newest.symm
  constructor
  · exact congrArg Offer.code hoffer
  · exact congrArg Offer.version hoffer
  · exact congrArg Offer.tag hoffer
  · exact congrArg Offer.assetName hoffer
  · exact congrArg Offer.assetUrl hoffer
  · exact congrArg Offer.digestHex hoffer
  · exact congrArg Prod.fst hnewest
  · exact congrArg Prod.snd hnewest

lemma same_day_of_unchanged (hsoak : 0 < feed.soakSeconds) {s d : ℤ} (hs : 0 < s)
    (h : offerMayHaveChanged feed s d = false) : utcDayStart (s + d) = utcDayStart s := by
  unfold offerMayHaveChanged at h
  split at h
  next => exact absurd h (by simp)
  next =>
    rw [if_neg (by omega)] at h
    exact not_not.1 (of_decide_eq_false h)

/-- One offer a UTC day on the official feed, so an offer that may not have changed is the
one a new check of the same list would make. -/
theorem offer_same_all_day (releases : List Release) (arch : String) :
    (∀ s₁ s₂, 0 < s₁ → 0 < s₂ → utcDayStart s₁ = utcDayStart s₂ →
      SameOffer (selectRelease releases arch kOfficialFeed s₁)
        (selectRelease releases arch kOfficialFeed s₂)) ∧
    ∀ s d, 0 < s → 0 ≤ d → offerMayHaveChanged kOfficialFeed s d = false →
      SameOffer (selectRelease releases arch kOfficialFeed (s + d))
        (selectRelease releases arch kOfficialFeed s) := by
  have hsoak : 0 < kOfficialFeed.soakSeconds := by decide
  constructor
  · intro s₁ s₂ h₁ h₂ hday
    exact sameOffer_of_same_day arch hsoak h₁ h₂ hday releases
  · intro s d hs hd h
    exact sameOffer_of_same_day arch hsoak (by omega) hs (same_day_of_unchanged hsoak hs h) releases

/-- A digest as GitHub gives it, of the digit `c` alone. -/
def digestOf (c : Char) : String := "sha256:" ++ String.ofList (List.replicate 64 c)

/-- The release of 22 September 2026, with one package. -/
def septemberRelease : Release where
  tag := "v2026.9.22-1053244730"
  immutable := true
  publishedAt := "2026-09-22T13:00:00Z"
  updatedAt := "2026-09-22T13:00:00Z"
  assets := [{
    name := "URnetwork-2026.9.22-1053244730-x64.msi"
    url := "https://github.com/urnetwork/build/releases/download/v2026.9.22-1053244730/x"
    digest := digestOf 'A'
    updatedAt := "2026-09-22T12:00:00Z" }]

theorem offer_same_all_day_september :
    (selectRelease [septemberRelease] "x64" kOfficialFeed 1790380800).code = 1053244730 ∧
    SameOffer (selectRelease [septemberRelease] "x64" kOfficialFeed 1790380800)
      (selectRelease [septemberRelease] "x64" kOfficialFeed 1790467199) ∧
    SameOffer (selectRelease [septemberRelease] "x64" kOfficialFeed (1790380800 + 60))
      (selectRelease [septemberRelease] "x64" kOfficialFeed 1790380800) := by
  have h := offer_same_all_day [septemberRelease] "x64"
  refine ⟨by decide +kernel, ?_, ?_⟩
  · exact h.1 _ _ (by decide) (by decide) (by decide)
  · exact h.2 _ _ (by decide) (by decide) (by decide)

/-! ### What the helper installs -/

/-- `kMaxTagLength`. -/
def kMaxTagLength : ℕ := 96

/-- A character `IsTagArgument` reads. -/
def isPlain (c : Char) : Bool :=
  ('0' ≤ c && c ≤ '9') || ('a' ≤ c && c ≤ 'z') || ('A' ≤ c && c ≤ 'Z') || c = '.' || c = '-'

/-- `IsTagArgument`. -/
def isTagArgument (feed : Feed) (tag : String) : Bool :=
  let chars := tag.toList
  if chars = [] ∨ chars.length > kMaxTagLength then false
  else if !chars.all isPlain then false
  else if chars.head? = some '.' ∨ chars.head? = some '-' then false
  else (parseFeedTag feed tag).isSome

/-- `SelectionOffers`. -/
def selectionOffers (selection : Selection) (tag : String) (ownCode : ℕ) : Bool :=
  selection.code ≠ 0 && selection.tag = tag && selection.code > ownCode &&
    selection.assetUrl ≠ "" && selection.assetName ≠ "" && selection.digestHex.length = 64

/-- The assets of a release that have the name of its package. -/
def Carries (arch : String) (rel : Release) (tag : FeedTag) (asset : ReleaseAsset) : Prop :=
  asset ∈ rel.assets ∧ asset.name = installerAssetName tag.version arch

lemma IsPackage.carries {arch : String} {rel : Release} {tag : FeedTag} {asset : ReleaseAsset}
    (h : IsPackage arch rel tag asset) : Carries arch rel tag asset := by
  obtain ⟨hname, earlier, later, hassets, -⟩ := h.last
  exact ⟨by simp [hassets], hname⟩

/-- What is offered is the newest release of the list for `tag`, read from one asset of it:
of the others that meet the rules and have a package to check, `package` says which assets
are taken for one, none has a greater code. -/
def InstallsNewest (package : Release → FeedTag → ReleaseAsset → Prop) (arch : String)
    (feed : Feed) (server : ℤ) (releases : List Release) (ownCode : ℕ) (tag : String) : Prop :=
  let s := selectRelease releases arch feed server
  ∃ rel ∈ releases, ∃ t asset, rel.tag = tag ∧ Rules feed server rel t asset ∧
    ownCode < t.code ∧ s.code = t.code ∧ s.version = t.version ∧
    Carries arch rel t asset ∧ s.assetName = installerAssetName t.version arch ∧
    s.assetUrl = asset.url ∧ s.digestHex = digestHexFromAssetDigest asset.digest ∧
    s.digestHex.length = 64 ∧ s.digestHex.toList.all isLowerHexDigit = true ∧
    ∀ other ∈ releases, ∀ t' asset', Rules feed server other t' asset' →
      package other t' asset' → digestHexFromAssetDigest asset'.digest ≠ "" → t'.code ≤ t.code

/-- An offer is the first candidate of the greatest code among those that can be checked. -/
lemma exists_of_code_ne_zero {arch : String} {server : ℤ} {releases : List Release}
    (h : (selectRelease releases arch feed server).code ≠ 0) :
    ∃ c ∈ counting arch feed server releases, c.usable = true ∧
    (selectRelease releases arch feed server).offer = offerOf arch (some c) ∧ ∀ c' ∈ counting
    arch feed server releases, c'.usable = true → c'.code ≤ c.code := by
  have hr := selectRelease_reads arch feed server releases
  cases hm : ((counting arch feed server releases).filter Candidate.usable).argmax
      Candidate.code with
  | none =>
    rw [hr.code, greatest, hm] at h
    exact absurd rfl h
  | some c =>
    obtain ⟨hmem, husable⟩ := List.mem_filter.1 (List.argmax_mem hm)
    refine ⟨c, hmem, husable, ?_, ?_⟩
    · rw [hr.offer, hm]
    · intro c' hmem' husable'
      exact List.le_of_mem_argmax (List.mem_filter.2 ⟨hmem', husable'⟩) hm

lemma selectionOffers_eq_true {selection : Selection} {tag : String} {ownCode : ℕ} :
    selectionOffers selection tag ownCode = true ↔ selection.code ≠ 0 ∧ selection.tag = tag ∧
      ownCode < selection.code ∧ selection.assetUrl ≠ "" ∧ selection.assetName ≠ "" ∧
      selection.digestHex.length = 64 := by
  simp only [selectionOffers, Bool.and_eq_true, decide_eq_true_eq, gt_iff_lt, ne_eq, and_assoc]

lemma installsNewest_of_offers {arch : String} {server : ℤ} {releases : List Release}
    {ownCode : ℕ} {tag : String}
    (h : selectionOffers (selectRelease releases arch feed server) tag ownCode = true) :
    InstallsNewest (IsPackage arch) arch feed server releases ownCode tag := by
  obtain ⟨hcode, htag, hown, -, -, -⟩ := selectionOffers_eq_true.1 h
  obtain ⟨c, hc, husable, hoffer, hbest⟩ := exists_of_code_ne_zero hcode
  obtain ⟨hmem, hrules, hpackage⟩ := mem_counting.1 hc
  have hcode : (selectRelease releases arch feed server).code = c.code :=
    congrArg Offer.code hoffer
  have hdigest : (selectRelease releases arch feed server).digestHex =
      digestHexFromAssetDigest c.asset.digest := congrArg Offer.digestHex hoffer
  obtain ⟨hlength, hhex⟩ := digestHex_spec (of_decide_eq_true husable)
  refine ⟨c.release, hmem, c.tag, c.asset, ?_, hrules, ?_, hcode, ?_, hpackage.carries, ?_, ?_,
    hdigest, ?_, ?_, ?_⟩
  · exact (congrArg Offer.tag hoffer).symm.trans htag
  · rw [hcode] at hown
    exact hown
  · exact congrArg Offer.version hoffer
  · exact congrArg Offer.assetName hoffer
  · exact congrArg Offer.assetUrl hoffer
  · rw [hdigest]
    exact hlength
  · rw [hdigest]
    exact hhex
  · intro other hother t' asset' hrules' hpackage' hdigest'
    exact hbest ⟨other, t', asset'⟩ (mem_counting.2 ⟨hother, hrules', hpackage'⟩)
      (decide_eq_true hdigest')

lemma codes_perm (arch : String) (feed : Feed) (server : ℤ) {releases releases' : List Release}
    (h : releases.Perm releases') :
    (selectRelease releases arch feed server).code =
        (selectRelease releases' arch feed server).code ∧
      (selectRelease releases arch feed server).newestCode =
        (selectRelease releases' arch feed server).newestCode ∧
      (selectRelease releases arch feed server).waitingCode =
        (selectRelease releases' arch feed server).waitingCode := by
  have hr := selectRelease_reads arch feed server releases
  have hr' := selectRelease_reads arch feed server releases'
  have hcounting : (counting arch feed server releases).Perm
      (counting arch feed server releases') := h.filterMap _
  have hwaiting : (waiting arch feed server releases).Perm
      (waiting arch feed server releases') := h.filterMap _
  refine ⟨?_, ?_, ?_⟩
  · rw [hr.code, hr'.code, greatest_perm (hcounting.filter _)]
  · rw [hr.newestCode, hr'.newestCode, greatest_perm hcounting]
  · rw [hr.waitingCode, hr'.waitingCode, greatest_perm hwaiting]

/-- The helper installs the newest release of the list whose package, its last asset of
that name, has a URL and a digest to check. -/
theorem helper_installs_newest (feed : Feed) (releases : List Release) (arch : String)
    (server : ℤ) :
    (∀ ownCode tag, isTagArgument feed tag = true →
      selectionOffers (selectRelease releases arch feed server) tag ownCode = true →
      InstallsNewest (IsPackage arch) arch feed server releases ownCode tag) ∧
    ∀ releases' : List Release, releases.Perm releases' →
      (selectRelease releases arch feed server).code =
          (selectRelease releases' arch feed server).code ∧
        (selectRelease releases arch feed server).newestCode =
          (selectRelease releases' arch feed server).newestCode ∧
        (selectRelease releases arch feed server).waitingCode =
          (selectRelease releases' arch feed server).waitingCode := by
  constructor
  · intro ownCode tag _ hoffers
    exact installsNewest_of_offers hoffers
  · intro releases' h
    exact codes_perm arch feed server h

/-- A release of a greater code, with these packages. -/
def laterRelease (packages : List ReleaseAsset) : Release where
  tag := "v2026.9.23-1053900000"
  immutable := true
  publishedAt := "2026-09-23T13:00:00Z"
  updatedAt := "2026-09-23T13:00:00Z"
  assets := packages

/-- A package of the later release. -/
def laterPackage (url digest : String) : ReleaseAsset where
  name := "URnetwork-2026.9.23-1053900000-x64.msi"
  url := url
  digest := digest
  updatedAt := "2026-09-23T12:00:00Z"

/-- The later release has no package, and the one before it is installed. -/
theorem helper_installs_newest_september :
    InstallsNewest (IsPackage "x64") "x64" kOfficialFeed 1790380800
      [laterRelease [], septemberRelease] 0 "v2026.9.22-1053244730" :=
  (helper_installs_newest kOfficialFeed [laterRelease [], septemberRelease] "x64" 1790380800).1 0
    "v2026.9.22-1053244730" (by decide +kernel) (by decide +kernel)

/-- The tag of the later release, as it is read. -/
def laterTag : FeedTag where
  version := "2026.9.23-1053900000"
  code := 1053900000

lemma laterRelease_rules (packages : List ReleaseAsset) (url digest : String) :
    Rules kOfficialFeed 1790380800 (laterRelease packages) laterTag (laterPackage url digest) := by
  constructor
  · rfl
  · exact nofun
  · show parseFeedTag kOfficialFeed "v2026.9.23-1053900000" = some laterTag
    decide +kernel
  · exact fun _ => rfl
  · decide
  · show hasSoaked kOfficialFeed (soakStartOf 1053900000 "2026-09-23T13:00:00Z"
      "2026-09-23T13:00:00Z" "2026-09-23T12:00:00Z").unixSeconds 1790380800 = true
    decide +kernel

/-- The later release meets every rule, so offering the earlier one is no offer of the newest
of those that carry a package to check. -/
lemma not_installsNewest {packages : List ReleaseAsset} {url digest : String}
    (hmem : laterPackage url digest ∈ packages) (hdigest : digestHexFromAssetDigest digest ≠ "")
    (hcode : (selectRelease [laterRelease packages, septemberRelease] "x64" kOfficialFeed
      1790380800).code = 1053244730) :
    ¬ InstallsNewest (Carries "x64") "x64" kOfficialFeed 1790380800
      [laterRelease packages, septemberRelease] 0 "v2026.9.22-1053244730" := by
  rintro ⟨rel, -, t, asset, -, -, -, hoffered, -, -, -, -, -, -, -, hbest⟩
  have hname : (laterPackage url digest).name = installerAssetName laterTag.version "x64" := by
    show "URnetwork-2026.9.23-1053900000-x64.msi" = installerAssetName "2026.9.23-1053900000" "x64"
    decide +kernel
  have hle : laterTag.code ≤ t.code := hbest _ (by simp) laterTag (laterPackage url digest)
    (laterRelease_rules packages url digest) ⟨hmem, hname⟩ hdigest
  rw [← hoffered, hcode] at hle
  exact absurd hle (by decide)

/-- A package without a URL, or one that another of its name comes after, has a usable
digest and is not what is read: the helper installs an older release. -/
theorem helper_installs_older :
    (isTagArgument kOfficialFeed "v2026.9.22-1053244730" = true ∧
      selectionOffers (selectRelease [laterRelease [laterPackage "" (digestOf 'B')],
        septemberRelease] "x64" kOfficialFeed 1790380800) "v2026.9.22-1053244730" 0 = true ∧
      ¬ InstallsNewest (Carries "x64") "x64" kOfficialFeed 1790380800
        [laterRelease [laterPackage "" (digestOf 'B')], septemberRelease] 0
        "v2026.9.22-1053244730") ∧
    selectionOffers (selectRelease [laterRelease [laterPackage "x" (digestOf 'B'),
      laterPackage "x" ""], septemberRelease] "x64" kOfficialFeed 1790380800)
      "v2026.9.22-1053244730" 0 = true ∧
    ¬ InstallsNewest (Carries "x64") "x64" kOfficialFeed 1790380800
      [laterRelease [laterPackage "x" (digestOf 'B'), laterPackage "x" ""], septemberRelease] 0
      "v2026.9.22-1053244730" := by
  have hdigest : digestHexFromAssetDigest (digestOf 'B') ≠ "" := by decide +kernel
  refine ⟨⟨by decide +kernel, by decide +kernel, ?_⟩, by decide +kernel, ?_⟩
  · exact not_installsNewest (List.mem_singleton_self _) hdigest (by decide +kernel)
  · exact not_installsNewest (List.mem_cons_self) hdigest (by decide +kernel)

end UrnetworkWindows.Update
