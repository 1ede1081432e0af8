/-
The marker of an update in progress (`UpdateMarker.h`).

A launch while an update's installer runs is refused, and the marker is what says so: a file that
any program of the user's may have written.  `IsMarker` is the grammar of its text.  What is too
old, too far in the future, of another form or of an installer that has ended is stale, so a launch
that finds it deletes it and starts.

The time is a 64-bit number of the file, so that its age wraps for a time from before
`now - 2 ^ 63`; it then comes out below zero, and the marker is stale all the same.
-/
import UrnetworkWindows.Lib.FromChars

namespace UrnetworkWindows.Update.Marker

open Lib

/-! ### The marker -/

/-- `VpnAtStart`. -/
inductive VpnAtStart
  | unknown | notConnected | connected
deriving DecidableEq, Repr

/-- `UpdateMarker`. -/
structure UpdateMarker where
  installerProcessId : UInt32 := 0
  installerCreationTime : UInt64 := 0
  writtenAt : Int64 := 0
  vpn : VpnAtStart := .unknown
deriving DecidableEq, Repr

/-- `kUpdateMarkerLifetime`, in seconds. -/
def kUpdateMarkerLifetime : Int64 := 20 * 60

/-- `kUpdateMarkerClockSkew`, in seconds. -/
def kUpdateMarkerClockSkew : Int64 := 5 * 60

/-- `std::to_string` of a signed number. -/
def signedNumeral (z : ℤ) : List UInt8 :=
  if z < 0 then '-'.toUInt8 :: numeral z.natAbs else numeral z.natAbs

/-- What a marker says of the VPN, after the time. -/
def vpnText : VpnAtStart → List UInt8
  | .unknown => []
  | .connected => narrow " 1"
  | .notConnected => narrow " 0"

/-- `FormatUpdateMarker`. -/
def formatUpdateMarker (marker : UpdateMarker) : List UInt8 :=
  numeral marker.installerProcessId.toNat ++ narrow " " ++
    numeral marker.installerCreationTime.toNat ++ narrow " " ++
    signedNumeral marker.writtenAt.toInt ++ vpnText marker.vpn ++ narrow "\n"

/-- A field of `ParseUpdateMarker` that another one follows. -/
def field (bound : ℕ) (at' : List UInt8) : Option (ℕ × List UInt8) :=
  match fromChars bound at' with
  | some (value, c :: rest) => if c = ' '.toUInt8 then some (value, rest) else none
  | _ => none

/-- The last field of `ParseUpdateMarker`, with the VPN's. -/
def lastField (at' : List UInt8) : Option (ℤ × VpnAtStart) :=
  match fromSignedChars (2 ^ 63) at' with
  | none => none
  | some (value, []) => some (value, .unknown)
  | some (value, rest) =>
    if rest = narrow " 1" then some (value, .connected)
    else if rest = narrow " 0" then some (value, .notConnected)
    else none

/-- The fields of `ParseUpdateMarker`, once the newline is gone. -/
def parseFields (text : List UInt8) : Option UpdateMarker := do
  let (processId, text) ← field (2 ^ 32) text
  let (creationTime, text) ← field (2 ^ 64) text
  let (writtenAt, vpn) ← lastField text
  if processId = 0 ∨ creationTime = 0 then none
  else some ⟨.ofNat processId, .ofNat creationTime, .ofInt writtenAt, vpn⟩

/-- `ParseUpdateMarker`. -/
def parseUpdateMarker (text : List UInt8) : Option UpdateMarker :=
  parseFields (if text.getLast? = some '\n'.toUInt8 then text.dropLast else text)

/-! ### What a launch makes of it -/

/-- `InstallerState`. -/
inductive InstallerState
  | running | ended | unknown
deriving DecidableEq, Repr

/-- `Verdict`. -/
inductive Verdict
  | none | updating | stale
deriving DecidableEq, Repr

/-- `Judge`. -/
def judge (marker : UpdateMarker) (installer : InstallerState) (now : Int64) : Verdict :=
  let age := now - marker.writtenAt
  if age > kUpdateMarkerLifetime ∨ age < -kUpdateMarkerClockSkew then .stale
  else if installer = .ended then .stale
  else .updating

/-- `Check`. -/
def check (text : Option (List UInt8)) (probe : UpdateMarker → InstallerState) (now : Int64) :
    Verdict :=
  match text with
  | none => .none
  | some text =>
    match parseUpdateMarker text with
    | none => .stale
    | some marker => judge marker (probe marker) now

/-! ### The grammar of a marker -/

/-- A marker's three numbers and what it says of the VPN, in their ranges. -/
structure IsBody (body : List UInt8) (m : UpdateMarker) : Prop where
  nonzero : m.installerProcessId ≠ 0 ∧ m.installerCreationTime ≠ 0
  text : ∃ processId creationTime writtenAt,
    body = processId ++ narrow " " ++ creationTime ++ narrow " " ++ writtenAt ++ vpnText m.vpn ∧
      IsNatural processId m.installerProcessId.toNat ∧
      IsNatural creationTime m.installerCreationTime.toNat ∧ IsInteger writtenAt m.writtenAt.toInt

/-- The text of a marker, with a newline behind it or without. -/
def IsMarker (text : List UInt8) (m : UpdateMarker) : Prop :=
  ∃ body, IsBody body m ∧ (text = body ∨ text = body ++ narrow "\n")

/-! ### Reading -/

lemma noDigit_cons {c : UInt8} (h : isDecimal c = false) (rest : List UInt8) :
    NoDigit (c :: rest) := by
  intro d hd
  cases hd
  exact h

lemma field_eq_some {bound n : ℕ} {text rest : List UInt8} :
    field bound text = some (n, rest) ↔
      ∃ ds, text = ds ++ narrow " " ++ rest ∧ IsNatural ds n ∧ n < bound := by
  constructor
  · intro h
    rw [field] at h
    split at h
    · next value c left hread =>
      obtain ⟨rfl, h⟩ := Option.ite_none_right_eq_some.1 h
      cases h
      obtain ⟨ds, rfl, hds, hlt, -⟩ := fromChars_eq_some.1 hread
      exact ⟨ds, by rw [List.append_assoc]; rfl, hds, hlt⟩
    · exact absurd h (Option.some_ne_none _).symm
  · rintro ⟨ds, rfl, hds, hlt⟩
    have hread : fromChars bound (ds ++ narrow " " ++ rest) = some (n, ' '.toUInt8 :: rest) := by
      refine fromChars_eq_some.2 ⟨ds, by rw [List.append_assoc]; rfl, hds, hlt, ?_⟩
      exact noDigit_cons (by decide) rest
    rw [field, hread]
    rfl

lemma noDigit_vpnText (vpn : VpnAtStart) : NoDigit (vpnText vpn) := by
  cases vpn with
  | unknown => exact fun c hc => absurd hc (Option.some_ne_none c).symm
  | notConnected | connected => exact noDigit_cons (by decide) _

lemma lastField_eq_some {z : ℤ} {vpn : VpnAtStart} {text : List UInt8} :
    lastField text = some (z, vpn) ↔
      ∃ ds, text = ds ++ vpnText vpn ∧ IsInteger ds z ∧ -2 ^ 63 ≤ z ∧ z < 2 ^ 63 := by
  have hpos : 0 < 2 ^ 63 := by decide
  constructor
  · intro h
    rw [lastField] at h
    split at h
    · exact absurd h (Option.some_ne_none _).symm
    · next value hread =>
      cases h
      obtain ⟨ds, rfl, hds, hlow, hhigh, -⟩ := (fromSignedChars_eq_some hpos).1 hread
      exact ⟨ds, rfl, hds, hlow, hhigh⟩
    · next value rest hread =>
      obtain ⟨ds, rfl, hds, hlow, hhigh, -⟩ := (fromSignedChars_eq_some hpos).1 hread
      split_ifs at h with hone hzero
      · cases h
        exact ⟨ds, by rw [hone]; rfl, hds, hlow, hhigh⟩
      · cases h
        exact ⟨ds, by rw [hzero]; rfl, hds, hlow, hhigh⟩
  · rintro ⟨ds, rfl, hds, hlow, hhigh⟩
    have hread := (fromSignedChars_eq_some hpos).2
      ⟨ds, rfl, hds, hlow, hhigh, noDigit_vpnText vpn⟩
    rw [lastField, hread]
    cases vpn <;> rfl

lemma body_iff {text : List UInt8} {p : List UInt8 → Prop}
    (hp : ∀ body, p body → body.getLast? ≠ some '\n'.toUInt8) :
    p (if text.getLast? = some '\n'.toUInt8 then text.dropLast else text) ↔
      ∃ body, p body ∧ (text = body ∨ text = body ++ narrow "\n") := by
  constructor
  · intro h
    split_ifs at h with hlast
    · exact ⟨_, h, .inr (List.dropLast_append_getLast? _ hlast).symm⟩
    · exact ⟨text, h, .inl rfl⟩
  · rintro ⟨body, hbody, rfl | rfl⟩
    · rw [if_neg (hp text hbody)]
      exact hbody
    · rw [if_pos (by rw [show narrow "\n" = ['\n'.toUInt8] from rfl, List.getLast?_concat])]
      rwa [show narrow "\n" = ['\n'.toUInt8] from rfl, List.dropLast_concat]

lemma parseFields_eq_some {body : List UInt8} {m : UpdateMarker} :
    parseFields body = some m ↔ IsBody body m := by
  constructor
  · intro h
    simp only [parseFields, Option.bind_eq_bind, Option.bind_eq_some_iff] at h
    obtain ⟨⟨processId, rest⟩, hprocess, ⟨creationTime, rest'⟩, hcreation, ⟨writtenAt, vpn⟩,
      hwritten, h⟩ := h
    obtain ⟨hnonzero, h⟩ := Option.ite_none_left_eq_some.1 h
    cases h
    rw [not_or] at hnonzero
    obtain ⟨p, rfl, hp, hplt⟩ := field_eq_some.1 hprocess
    obtain ⟨c, rfl, hc, hclt⟩ := field_eq_some.1 hcreation
    obtain ⟨w, rfl, hw, hlow, hhigh⟩ := lastField_eq_some.1 hwritten
    have hpid : (UInt32.ofNat processId).toNat = processId := UInt32.toNat_ofNat_of_lt' hplt
    have hctime : (UInt64.ofNat creationTime).toNat = creationTime := UInt64.toNat_ofNat_of_lt' hclt
    refine ⟨⟨?_, ?_⟩, p, c, w, by simp only [List.append_assoc], ?_, ?_, ?_⟩
    · exact fun hzero => hnonzero.1 (hpid.symm.trans (congrArg UInt32.toNat hzero))
    · exact fun hzero => hnonzero.2 (hctime.symm.trans (congrArg UInt64.toNat hzero))
    · rwa [hpid]
    · rwa [hctime]
    · rwa [Int64.toInt_ofInt_of_le hlow hhigh]
  · rintro ⟨⟨hp, hc⟩, p, c, w, rfl, hpid, hctime, hw⟩
    have hread₁ : field (2 ^ 32) (p ++ narrow " " ++ c ++ narrow " " ++ w ++ vpnText m.vpn) =
        some (m.installerProcessId.toNat, c ++ narrow " " ++ (w ++ vpnText m.vpn)) :=
      field_eq_some.2 ⟨p, by simp only [List.append_assoc], hpid, m.installerProcessId.toNat_lt⟩
    have hread₂ : field (2 ^ 64) (c ++ narrow " " ++ (w ++ vpnText m.vpn)) =
        some (m.installerCreationTime.toNat, w ++ vpnText m.vpn) :=
      field_eq_some.2 ⟨c, rfl, hctime, m.installerCreationTime.toNat_lt⟩
    have hread₃ : lastField (w ++ vpnText m.vpn) = some (m.writtenAt.toInt, m.vpn) :=
      lastField_eq_some.2 ⟨w, rfl, hw, m.writtenAt.le_toInt, m.writtenAt.toInt_lt⟩
    have hnonzero : ¬ (m.installerProcessId.toNat = 0 ∨ m.installerCreationTime.toNat = 0) := by
      rintro (hzero | hzero)
      · exact hp (UInt32.toNat_inj.1 hzero)
      · exact hc (UInt64.toNat_inj.1 hzero)
    simp only [parseFields, hread₁, hread₂, hread₃, Option.bind_eq_bind, Option.bind_some,
      if_neg hnonzero, UInt32.ofNat_toNat, UInt64.ofNat_toNat, Int64.ofInt_toInt]

lemma IsBody.not_mem_newline {body : List UInt8} {m : UpdateMarker} (h : IsBody body m) :
    '\n'.toUInt8 ∉ body := by
  have hnatural {ds : List UInt8} {n : ℕ} (hds : IsNatural ds n) : '\n'.toUInt8 ∉ ds :=
    fun hmem => absurd (hds.digits _ hmem) (by decide)
  obtain ⟨p, c, w, rfl, hp, hc, hw⟩ := h.text
  have hinteger : '\n'.toUInt8 ∉ w := by
    rcases hw with ⟨n, hw, -⟩ | ⟨ds, n, rfl, hds, -⟩
    · exact hnatural hw
    · exact List.not_mem_cons_of_ne_of_not_mem (by decide) (hnatural hds)
  have hvpn : '\n'.toUInt8 ∉ vpnText m.vpn := by cases m.vpn <;> decide
  simp only [List.mem_append, not_or]
  exact ⟨⟨⟨⟨⟨hnatural hp, by decide⟩, hnatural hc⟩, by decide⟩, hinteger⟩, hvpn⟩

theorem parseUpdateMarker_eq_some {text : List UInt8} {m : UpdateMarker} :
    parseUpdateMarker text = some m ↔ IsMarker text m := by
  rw [parseUpdateMarker, parseFields_eq_some, IsMarker]
  exact body_iff (p := fun body => IsBody body m) fun body hbody hlast =>
    hbody.not_mem_newline (List.mem_of_getLast? hlast)

/-! ### Writing -/

lemma isInteger_signedNumeral (z : ℤ) : IsInteger (signedNumeral z) z := by
  rw [signedNumeral]
  split_ifs with hneg
  · exact .inr ⟨_, z.natAbs, rfl, isNatural_numeral _, by omega⟩
  · exact .inl ⟨z.natAbs, isNatural_numeral _, by omega⟩

lemma isMarker_format {m : UpdateMarker} (hp : m.installerProcessId ≠ 0)
    (hc : m.installerCreationTime ≠ 0) : IsMarker (formatUpdateMarker m) m :=
  ⟨_, ⟨⟨hp, hc⟩, _, _, _, rfl, isNatural_numeral _, isNatural_numeral _,
    isInteger_signedNumeral _⟩, .inr rfl⟩

/-! ### The verdict -/

lemma age_iff {now writtenAt : Int64} (hlow : 0 ≤ now.toInt) (hhigh : now.toInt < 2 ^ 62) :
    ¬ (now - writtenAt > kUpdateMarkerLifetime ∨ now - writtenAt < -kUpdateMarkerClockSkew) ↔
      now.toInt - 1200 ≤ writtenAt.toInt ∧ writtenAt.toInt ≤ now.toInt + 300 := by
  have hmin := writtenAt.le_toInt
  have hmax := writtenAt.toInt_lt
  have hlifetime : kUpdateMarkerLifetime.toInt = 1200 := by decide
  have hskew : (-kUpdateMarkerClockSkew).toInt = -300 := by decide
  rw [gt_iff_lt, Int64.lt_iff_toInt_lt, Int64.lt_iff_toInt_lt, hlifetime, hskew, Int64.toInt_sub,
    Int.bmod_def]
  omega

theorem check_eq_updating {text : Option (List UInt8)} {probe : UpdateMarker → InstallerState}
    {now : Int64} (hlow : 0 ≤ now.toInt) (hhigh : now.toInt < 2 ^ 62) :
    check text probe now = .updating ↔ ∃ t m, text = some t ∧ parseUpdateMarker t = some m ∧
      now.toInt - 1200 ≤ m.writtenAt.toInt ∧ m.writtenAt.toInt ≤ now.toInt + 300 ∧
      probe m ≠ .ended := by
  cases text with
  | none =>
    refine iff_of_false (by rintro ⟨⟩) ?_
    rintro ⟨t, m, ht, -⟩
    exact Option.some_ne_none t ht.symm
  | some text =>
    rw [check]
    cases hparse : parseUpdateMarker text with
    | none =>
      refine iff_of_false (by rintro ⟨⟩) ?_
      rintro ⟨t, m, ht, hm, -⟩
      cases ht
      exact Option.some_ne_none m (hm.symm.trans hparse)
    | some marker =>
      have hage := @age_iff now marker.writtenAt hlow hhigh
      constructor
      · intro h
        refine ⟨text, marker, rfl, hparse, ?_⟩
        rw [← and_assoc, ← hage]
        dsimp only [judge] at h
        split_ifs at h with hstale hended
        exact ⟨hstale, hended⟩
      · rintro ⟨t, m, ht, hm, hwritten⟩
        cases ht
        cases hparse.symm.trans hm
        rw [← and_assoc, ← hage] at hwritten
        dsimp only [judge]
        rw [if_neg hwritten.1, if_neg hwritten.2]

/-- **The marker is read as it was written, its text is one grammar's, and it refuses a launch only
while it is young and its installer has not ended.** -/
theorem marker_clears_itself :
    (∀ m : UpdateMarker, m.installerProcessId ≠ 0 → m.installerCreationTime ≠ 0 →
      parseUpdateMarker (formatUpdateMarker m) = some m) ∧
    (∀ text m, parseUpdateMarker text = some m ↔ IsMarker text m) ∧
    ∀ (text : Option (List UInt8)) (probe : UpdateMarker → InstallerState) (now : Int64),
      0 ≤ now.toInt → now.toInt < 2 ^ 62 →
      (check text probe now = .updating ↔ ∃ t m, text = some t ∧ parseUpdateMarker t = some m ∧
        now.toInt - 1200 ≤ m.writtenAt.toInt ∧ m.writtenAt.toInt ≤ now.toInt + 300 ∧
        probe m ≠ .ended) :=
  ⟨fun _ hp hc => parseUpdateMarker_eq_some.2 (isMarker_format hp hc),
    fun _ _ => parseUpdateMarker_eq_some, fun _ _ _ hlow hhigh => check_eq_updating hlow hhigh⟩

/-- A marker of 200 seconds ago, whose installer still runs. -/
theorem marker_clears_itself_running :
    let m : UpdateMarker := ⟨7, 9, 1000, .connected⟩
    parseUpdateMarker (formatUpdateMarker m) = some m ∧
      check (some (formatUpdateMarker m)) (fun _ => .running) 1200 = .updating := by
  have hread := marker_clears_itself.1 ⟨7, 9, 1000, .connected⟩ (by decide) (by decide)
  refine ⟨hread, (marker_clears_itself.2.2 _ _ 1200 (by decide) (by decide)).2 ?_⟩
  exact ⟨_, _, rfl, hread, by decide, by decide, by decide⟩

end UrnetworkWindows.Update.Marker
