/-
Where a download may be redirected (`ReleaseSelection.h`).

A redirect is followed exactly where its host is one of the two that serve release assets
(`isAllowedAssetRedirect_iff`).  The authority is what stands before the first of `/`, `?` and `#`,
so that no delimiter can put a listed host where another one is named.
-/
import Mathlib.Data.List.TakeWhile
import UrnetworkWindows.Update.FileNames

namespace UrnetworkWindows.Update

open Lib

/-- `kAssetRedirectHosts`. -/
def kAssetRedirectHosts : List (List UInt8) :=
  [narrow "release-assets.githubusercontent.com", narrow "objects.githubusercontent.com"]

/-- Controls, spaces and the characters that a parser may treat as separators. -/
def isRefused (c : UInt8) : Bool :=
  c ≤ 0x20 || 0x7f ≤ c || c = '\\'.toUInt8 || c = '"'.toUInt8 || c = '<'.toUInt8 ||
    c = '>'.toUInt8 || c = '`'.toUInt8

/-- What ends an authority. -/
def isDelimiter (c : UInt8) : Bool := c = '/'.toUInt8 || c = '?'.toUInt8 || c = '#'.toUInt8

/-- The host of an authority, where its port is the default one. -/
def hostOf (authority : List UInt8) : Option (List UInt8) :=
  match authority.dropWhile (· ≠ ':'.toUInt8) with
  | [] => some authority
  | _ :: port =>
    if port = narrow "443" then some (authority.takeWhile (· ≠ ':'.toUInt8)) else none

/-- `IsAllowedAssetRedirect`. -/
def isAllowedAssetRedirect (url : List UInt8) : Bool :=
  let kScheme := narrow "https://"
  if url.take kScheme.length ≠ kScheme then false
  else if url.any isRefused then false
  else
    let rest := url.drop kScheme.length
    let authority := rest.takeWhile fun c => !isDelimiter c
    if (rest.drop authority.length).head? ≠ some '/'.toUInt8 then false
    else if authority.contains '@'.toUInt8 then false
    else
      match hostOf authority with
      | none => false
      | some host => kAssetRedirectHosts.any (equalsAsciiCaseless host)

/-! ### The shape -/

/-- Printable ASCII, and none of the characters that a parser may treat as separators. -/
def IsPlain (c : UInt8) : Prop :=
  0x20 < c ∧ c < 0x7f ∧ c ≠ '\\'.toUInt8 ∧ c ≠ '"'.toUInt8 ∧ c ≠ '<'.toUInt8 ∧ c ≠ '>'.toUInt8 ∧
    c ≠ '`'.toUInt8

/-- One of the hosts, in either case. -/
def IsAssetHost (host : List UInt8) : Prop :=
  ∃ listed ∈ kAssetRedirectHosts, host.map lowerNarrow = listed.map lowerNarrow

/-- A URL of the asset hosts. -/
structure IsAssetUrl (url : List UInt8) : Prop where
  plain : ∀ c ∈ url, IsPlain c
  shape : ∃ authority path, url = narrow "https://" ++ authority ++ '/'.toUInt8 :: path ∧
    (∀ c ∈ authority, c ≠ '/'.toUInt8 ∧ c ≠ '?'.toUInt8 ∧ c ≠ '#'.toUInt8 ∧ c ≠ '@'.toUInt8) ∧
    ∃ host, IsAssetHost host ∧ (authority = host ∨ authority = host ++ narrow ":443")

/-! ### The parser -/

lemma isRefused_eq_false {c : UInt8} : isRefused c = false ↔ IsPlain c := by
  simp only [isRefused, IsPlain, Bool.or_eq_false_iff, decide_eq_false_iff_not, and_assoc,
    UInt8.not_le, ne_eq]

lemma IsAssetHost.notMem {host : List UInt8} (h : IsAssetHost host) {c : UInt8}
    (hc : ∀ listed ∈ kAssetRedirectHosts, lowerNarrow c ∉ listed.map lowerNarrow) : c ∉ host := by
  obtain ⟨listed, hlisted, hmap⟩ := h
  intro hmem
  apply hc listed hlisted
  rw [← hmap]
  exact List.mem_map_of_mem hmem

lemma eq_of_hostOf {authority host : List UInt8} (h : hostOf authority = some host) :
    authority = host ∨ authority = host ++ narrow ":443" := by
  rw [hostOf] at h
  split at h
  · exact .inl (Option.some.inj h)
  · next c port hdrop =>
    split_ifs at h with hport
    have hsplit := eq_of_dropWhile_ne hdrop
    rw [Option.some.inj h, hport] at hsplit
    exact .inr hsplit

lemma hostOf_of_notMem {host : List UInt8} (h : ':'.toUInt8 ∉ host) :
    hostOf host = some host ∧ hostOf (host ++ narrow ":443") = some host := by
  have hne : ∀ c ∈ host, decide (c ≠ ':'.toUInt8) = true := by
    intro c hc
    exact decide_eq_true fun hcolon => h (hcolon ▸ hc)
  constructor
  · rw [hostOf, List.dropWhile_eq_nil_iff.2 hne]
  · have hdrop : (host ++ narrow ":443").dropWhile (· ≠ ':'.toUInt8) = narrow ":443" := by
      rw [List.dropWhile_append_of_pos hne]
      decide
    have htake : (host ++ narrow ":443").takeWhile (· ≠ ':'.toUInt8) = host := by
      have hport : narrow ":443" = ':'.toUInt8 :: narrow "443" := rfl
      rw [List.takeWhile_append_of_pos hne, hport, List.takeWhile_cons_of_neg (by decide),
        List.append_nil]
    rw [hostOf, hdrop, htake]
    exact if_pos rfl

lemma authority_eq {authority path : List UInt8}
    (h : ∀ c ∈ authority, isDelimiter c = false) :
    (authority ++ '/'.toUInt8 :: path).takeWhile (fun c => !isDelimiter c) = authority := by
  rw [List.takeWhile_append_of_pos fun c hc => by rw [h c hc]; rfl,
    List.takeWhile_cons_of_neg (by decide), List.append_nil]

lemma exists_of_head?_drop {rest : List UInt8} {p : UInt8 → Bool} {c : UInt8}
    (h : (rest.drop (rest.takeWhile p).length).head? = some c) :
    ∃ path, rest = rest.takeWhile p ++ c :: path := by
  rw [drop_takeWhile] at h
  cases hdrop : rest.dropWhile p with
  | nil =>
    rw [hdrop] at h
    cases h
  | cons d path =>
    rw [hdrop] at h
    cases h
    refine ⟨path, ?_⟩
    rw [← hdrop, List.takeWhile_append_dropWhile]

lemma isDelimiter_eq_false {c : UInt8} :
    isDelimiter c = false ↔ c ≠ '/'.toUInt8 ∧ c ≠ '?'.toUInt8 ∧ c ≠ '#'.toUInt8 := by
  simp only [isDelimiter, Bool.or_eq_false_iff, decide_eq_false_iff_not, and_assoc, ne_eq]

theorem isAllowedAssetRedirect_iff (url : List UInt8) :
    isAllowedAssetRedirect url = true ↔ IsAssetUrl url := by
  constructor
  · intro h
    rw [isAllowedAssetRedirect] at h
    dsimp only at h
    split_ifs at h with hscheme hrefused hslash huser
    split at h
    · cases h
    · next host hhost =>
      obtain ⟨listed, hlisted, heq⟩ := List.any_eq_true.1 h
      obtain ⟨path, hrest⟩ := exists_of_head?_drop (not_not.1 hslash)
      have hurl := List.take_append_drop (narrow "https://").length url
      rw [not_not.1 hscheme, hrest, ← List.append_assoc] at hurl
      refine ⟨fun c hc => ?_, _, path, hurl.symm, fun c hc => ?_, host,
        ⟨listed, hlisted, of_decide_eq_true heq⟩, eq_of_hostOf hhost⟩
      · refine isRefused_eq_false.1 (Bool.eq_false_iff.2 fun hrefuse => ?_)
        exact hrefused (List.any_eq_true.2 ⟨c, hc, hrefuse⟩)
      · have hdelimiter : isDelimiter c = false := by simpa using List.mem_takeWhile_imp hc
        obtain ⟨hslash, hquery, hfragment⟩ := isDelimiter_eq_false.1 hdelimiter
        refine ⟨hslash, hquery, hfragment, ?_⟩
        rintro rfl
        exact huser (List.contains_iff_mem.2 hc)
  · rintro ⟨hplain, authority, path, rfl, hauthority, host, hhost, heq⟩
    have hcolon : ':'.toUInt8 ∉ host := hhost.notMem (by decide)
    have hof : hostOf authority = some host := by
      rcases heq with rfl | rfl
      · exact (hostOf_of_notMem hcolon).1
      · exact (hostOf_of_notMem hcolon).2
    have hrefused :
        (narrow "https://" ++ authority ++ '/'.toUInt8 :: path).any isRefused = false := by
      rw [List.any_eq_false]
      intro c hc
      rw [isRefused_eq_false.2 (hplain c hc)]
      exact Bool.false_ne_true
    have huser : authority.contains '@'.toUInt8 = false :=
      Bool.eq_false_iff.2 fun hmem => (hauthority _ (List.contains_iff_mem.1 hmem)).2.2.2 rfl
    have hnone : ∀ c ∈ authority, isDelimiter c = false := fun c hc =>
      isDelimiter_eq_false.2 ⟨(hauthority c hc).1, (hauthority c hc).2.1, (hauthority c hc).2.2.1⟩
    have hend :
        (authority ++ '/'.toUInt8 :: path).takeWhile (fun c => !isDelimiter c) = authority :=
      authority_eq hnone
    rw [isAllowedAssetRedirect, hrefused]
    dsimp only
    rw [List.append_assoc, List.take_left, List.drop_left, hend, List.drop_left, huser, hof]
    obtain ⟨listed, hlisted, hmap⟩ := hhost
    exact List.any_eq_true.2 ⟨listed, hlisted, decide_eq_true hmap⟩

end UrnetworkWindows.Update
