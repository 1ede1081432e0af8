/-
The end of a soak (`ReleaseSelection.h`: `HasSoaked`, `SoakEndUnixSeconds`, and what
`SelectRelease` says of the newest release that only its soak holds back).

A soak that has ended counts from the start of the next day on, unless it ends with a day
(`hasSoaked_iff`).  A release that waits is skipped as soaking at every date of the list's day
and at none from the second on that the selection names (`soak_end`).  At an earlier second of
the day its code can still be in the future, which is looked at first
(`future_code_comes_first`).
-/
import UrnetworkWindows.Update.Selection

namespace UrnetworkWindows.Update

lemma utcDayStart_eq (unixSeconds : ℤ) :
    utcDayStart unixSeconds = unixSeconds - unixSeconds % 86400 := by
  unfold utcDayStart kSecondsPerDay
  norm_num only
  rw [Int.tmod_eq_emod]
  split_ifs <;> omega

lemma hasSoaked_iff {feed : Feed} (hfeed : 0 < feed.soakSeconds) (since : ℤ)
    {serverUnixSeconds : ℤ} (hserver : 0 < serverUnixSeconds) :
    hasSoaked feed (some since) serverUnixSeconds = true ↔
      soakEndUnixSeconds feed since ≤ serverUnixSeconds := by
  unfold hasSoaked soakEndUnixSeconds
  rw [if_neg (not_le.2 hfeed), if_neg (not_le.2 hfeed)]
  dsimp only
  rw [if_neg (not_le.2 hserver), decide_eq_true_eq]
  simp only [utcDayStart_eq, kSecondsPerDay]
  split_ifs <;> omega

lemma le_soakEndUnixSeconds (feed : Feed) (since : ℤ) : since ≤ soakEndUnixSeconds feed since := by
  unfold soakEndUnixSeconds
  dsimp only
  simp only [utcDayStart_eq, kSecondsPerDay]
  split_ifs <;> omega

/-! ### A release that waits -/

section Waits

variable {arch : String} {feed : Feed} {serverUnixSeconds : ℤ} {rel : Release} {tag : FeedTag}
  {since : ℤ}

/-- Only its soak holds the release back. -/
structure HeldBack (arch : String) (feed : Feed) (rel : Release) (tag : FeedTag) (since : ℤ) :
    Prop where
  published : rel.draft = false
  prerelease : skipsPrerelease feed rel = false
  parsed : parseFeedTag feed rel.tag = some tag
  immutable : (feed.requireImmutable && !rel.immutable) = false
  package : ∃ asset, lastNamed (installerAssetName tag.version arch) rel.assets = some asset ∧
    asset.url ≠ "" ∧
    (soakStartOf tag.code rel.publishedAt rel.updatedAt asset.updatedAt).unixSeconds = some since

lemma judge_eq_waits : judge arch feed serverUnixSeconds rel = .waits tag since ↔
    HeldBack arch feed rel tag since ∧
      codeUnixSeconds tag.code ≤ serverUnixSeconds + kFutureCodeLimitSeconds ∧
      hasSoaked feed (some since) serverUnixSeconds = false := by
  constructor
  · fun_cases judge arch feed serverUnixSeconds rel
    case case10 hdraft hpre t ht himm hfuture package a ha hurl soak hnot second hsecond =>
      intro h
      obtain ⟨rfl, rfl⟩ := Judgment.waits.inj h
      refine ⟨⟨?_, ?_, ht, ?_, a, ha, hurl, hsecond⟩, not_lt.1 hfuture, ?_⟩
      · exact Bool.eq_false_of_not_eq_true hdraft
      · exact Bool.eq_false_of_not_eq_true hpre
      · exact Bool.eq_false_of_not_eq_true himm
      · rw [← hsecond]
        exact Bool.eq_false_of_not_eq_true hnot
    all_goals rintro ⟨⟩
  · rintro ⟨⟨hdraft, hpre, ht, himm, asset, hasset, hurl, hsince⟩, hfuture, hsoaked⟩
    rw [judge, hdraft, hpre, ht]
    simp only [himm, if_neg (not_lt.2 hfuture), hasset, if_neg hurl, hsince, hsoaked,
      Bool.false_eq_true, if_false]

variable (arch feed serverUnixSeconds rel)

/-- `SelectRelease` skips the release that follows `pre` in its list as soaking. -/
def SkipsAsSoaking (pre : List Release) : Prop :=
  ∃ reason, (selectRelease (pre ++ [rel]) arch feed serverUnixSeconds).skipped =
    (selectRelease pre arch feed serverUnixSeconds).skipped ++
      [{ tag := rel.tag, reason, soaking := true }]

lemma skipsAsSoaking_iff (pre : List Release) :
    SkipsAsSoaking arch feed serverUnixSeconds rel pre ↔
      ∃ tag since, judge arch feed serverUnixSeconds rel = .waits tag since := by
  unfold SkipsAsSoaking selectRelease
  rw [List.foldl_append]
  generalize pre.foldl (selectStep arch feed serverUnixSeconds) {} = s
  simp only [List.foldl_cons, List.foldl_nil, selectStep]
  cases hj : judge arch feed serverUnixSeconds rel with
  | ignored => simp
  | skipped reason => simp
  | waits tag since =>
    refine iff_of_true ?_ ⟨tag, since, rfl⟩
    unfold Selection.takeWaiting
    dsimp only
    split_ifs
    · exact ⟨_, rfl⟩
    · exact ⟨_, rfl⟩
  | counts tag name asset =>
    have hnewest : (s.takeNewest tag).skipped = s.skipped := by
      unfold Selection.takeNewest
      split_ifs <;> rfl
    refine iff_of_false ?_ (by simp)
    rintro ⟨reason, h⟩
    unfold Selection.takeOffer at h
    dsimp only at h
    split_ifs at h
    · simp [hnewest] at h
    · simp [hnewest] at h
    · simp [hnewest] at h

/-- The release is skipped as soaking at the dates of the list's day that are of a kind, and at
none from the second `w` on. -/
structure WaitsUntil (pre : List Release) (dates : ℤ → Prop) (w : ℤ) : Prop where
  waits : ∀ d, 0 < d → utcDayStart d = utcDayStart serverUnixSeconds → dates d →
    SkipsAsSoaking arch feed d rel pre
  counts : ∀ d, w ≤ d → ¬ SkipsAsSoaking arch feed d rel pre

end Waits

/-- **The soak's end is where it counts**, and a release that waits is skipped as soaking until
then, but at the dates for which its code is in the future. -/
theorem soak_end :
    (∀ (feed : Feed) (since s : ℤ), 0 < feed.soakSeconds → 0 < s →
      (hasSoaked feed (some since) s = true ↔ soakEndUnixSeconds feed since ≤ s)) ∧
    ∀ (releases : List Release) (arch : String) (feed : Feed) (s : ℤ), 0 < feed.soakSeconds →
      (selectRelease releases arch feed s).waitingCode ≠ 0 →
      ∃ pre rel post tag, releases = pre ++ rel :: post ∧ parseFeedTag feed rel.tag = some tag ∧
        tag.code = (selectRelease releases arch feed s).waitingCode ∧
        tag.version = (selectRelease releases arch feed s).waitingVersion ∧
        WaitsUntil arch feed s rel pre
          (fun d => codeUnixSeconds tag.code ≤ d + kFutureCodeLimitSeconds)
          (selectRelease releases arch feed s).waitingFromUnixSeconds := by
  refine ⟨fun feed since s hfeed hs => hasSoaked_iff hfeed since hs, ?_⟩
  intro releases arch feed s hfeed hcode
  have hreads := (selectRelease_reads arch feed s releases).waiting
  cases hmax : (waiting arch feed s releases).argmax fun w => w.1.code with
  | none =>
    rw [hmax] at hreads
    exact absurd (congrArg Prod.fst hreads) hcode
  | some w =>
    obtain ⟨tag, since⟩ := w
    obtain ⟨rel, hmem, hrel⟩ := List.mem_filterMap.1 (List.argmax_mem hmax)
    obtain ⟨pre, post, rfl⟩ := List.append_of_mem hmem
    have hjudge : judge arch feed s rel = .waits tag since := by
      unfold waiting? at hrel
      split at hrel
      next tag' since' hj =>
        cases hrel
        exact hj
      next => cases hrel
    obtain ⟨hheld, hfuture, hsoaked⟩ := judge_eq_waits.1 hjudge
    rw [hmax] at hreads
    obtain ⟨hcode', hrest⟩ := Prod.mk.inj hreads
    obtain ⟨hversion, hfrom⟩ := Prod.mk.inj hrest
    refine ⟨pre, rel, post, tag, rfl, hheld.parsed, hcode'.symm, hversion.symm, ?_, ?_⟩
    · intro d hd hday hcodeDay
      refine (skipsAsSoaking_iff ..).2 ⟨tag, since, judge_eq_waits.2 ⟨hheld, hcodeDay, ?_⟩⟩
      -- the soak is judged by the day
      have hs : 0 < s := by
        unfold codeUnixSeconds kCodeEpochUnixSeconds kFutureCodeLimitSeconds at hfuture
        omega
      unfold hasSoaked at hsoaked ⊢
      rw [if_neg (not_le.2 hfeed)] at hsoaked ⊢
      dsimp only at hsoaked ⊢
      rw [if_neg (not_le.2 hs)] at hsoaked
      rw [if_neg (not_le.2 hd), hday]
      exact hsoaked
    · intro d hd hskips
      obtain ⟨tag', since', hj⟩ := (skipsAsSoaking_iff ..).1 hskips
      obtain ⟨hheld', -, hsoaked'⟩ := judge_eq_waits.1 hj
      cases hheld.parsed.symm.trans hheld'.parsed
      obtain ⟨asset, hasset, -, hsince⟩ := hheld.package
      obtain ⟨asset', hasset', -, hsince'⟩ := hheld'.package
      cases hasset.symm.trans hasset'
      cases hsince.symm.trans hsince'
      rw [hfrom] at hd
      dsimp only at hd
      have hend := le_soakEndUnixSeconds feed since
      have hstart := le_soakStartOf hsince
      have hpos : 0 < d := by
        unfold codeUnixSeconds kCodeEpochUnixSeconds kFutureCodeLimitSeconds at hstart
        omega
      exact absurd (hsoaked'.symm.trans ((hasSoaked_iff hfeed since hpos).2 hd)) nofun

/-- A release built ahead of the server's clock, and published at noon. -/
def aheadRelease : Release where
  tag := "v2026.10.3-1062288000"
  immutable := true
  publishedAt := "2026-10-01T12:00:00Z"
  updatedAt := "2026-10-01T12:00:00Z"
  assets := [{
    name := "URnetwork-2026.10.3-1062288000-x64.msi"
    url := "https://github.com/urnetwork/build/releases/download"
    digest := ""
    updatedAt := "2026-10-01T12:00:00Z" }]

/-- It waits through the day, and from the end of its soak on it does no longer. -/
theorem soak_end_ahead : hasSoaked kOfficialFeed (some 1790856000) 1791072000 = true ∧
    ∃ pre rel post tag, [aheadRelease] = pre ++ rel :: post ∧
      parseFeedTag kOfficialFeed rel.tag = some tag ∧
      WaitsUntil "x64" kOfficialFeed 1790856000 rel pre
        (fun d => codeUnixSeconds tag.code ≤ d + kFutureCodeLimitSeconds)
        (selectRelease [aheadRelease] "x64" kOfficialFeed 1790856000).waitingFromUnixSeconds := by
  obtain ⟨hcounts, hwaits⟩ := soak_end
  refine ⟨(hcounts kOfficialFeed _ _ (by decide) (by decide)).2 (by decide), ?_⟩
  obtain ⟨pre, rel, post, tag, hlist, hparsed, -, -, huntil⟩ :=
    hwaits [aheadRelease] "x64" kOfficialFeed 1790856000 (by decide) (by decide +kernel)
  exact ⟨pre, rel, post, tag, hlist, hparsed, huntil⟩

/-- **A code in the future comes first.**  The release waits at noon, and at the first second of
that day it is skipped for its code. -/
theorem future_code_comes_first :
    ¬ ∀ (releases : List Release) (arch : String) (feed : Feed) (s : ℤ), 0 < feed.soakSeconds →
      (selectRelease releases arch feed s).waitingCode ≠ 0 →
      ∃ pre rel post, releases = pre ++ rel :: post ∧
        WaitsUntil arch feed s rel pre (fun _ => True)
          (selectRelease releases arch feed s).waitingFromUnixSeconds := by
  intro h
  have hwaiting : (selectRelease [aheadRelease] "x64" kOfficialFeed 1790856000).waitingCode =
      1062288000 := by
    decide +kernel
  obtain ⟨pre, rel, post, hlist, hwaits, -⟩ := h [aheadRelease] "x64" kOfficialFeed 1790856000
    (by decide) (by rw [hwaiting]; decide)
  obtain ⟨rfl, hrest⟩ : pre = [] ∧ rel :: post = [aheadRelease] := by
    cases pre with
    | nil => exact ⟨rfl, hlist.symm⟩
    | cons p pre => simp at hlist
  obtain ⟨rfl, -⟩ := List.cons.inj hrest
  have hmidnight := hwaits 1790812800 (by decide) (by decide) trivial
  obtain ⟨tag, since, hj⟩ := (skipsAsSoaking_iff ..).1 hmidnight
  have hjudge : judge "x64" kOfficialFeed 1790812800 aheadRelease =
      .skipped "has a future code (more than 48 h after the server's date)" := by
    decide +kernel
  rw [hjudge] at hj
  cases hj

end UrnetworkWindows.Update
