/-
The kind of a user's system proxy (`DiagnosticLines.h`).

The app reduces a proxy setting to the parts that are there, in one order, and the service takes
such a kind and nothing else.  Both come down to the sublists of the parts: one is written from
any setting (`userProxyKind_eq`), and one is what the service finds between the pluses
(`accepted_iff`).
-/
import UrnetworkWindows.Lib.Scan
import UrnetworkWindows.Lib.Text

namespace UrnetworkWindows.ProxyKind

open Lib

def kProxyNone : List UInt8 := narrow "none"

def kProxyUnknown : List UInt8 := narrow "unknown"

def kProxyParts : List (List UInt8) :=
  [narrow "auto-detect", narrow "pac", narrow "manual-loopback", narrow "manual-private",
    narrow "manual-public", narrow "manual-name"]

inductive HostKind
  | loopback
  | «private»
  | «public»
  | name
deriving DecidableEq

/-! ### Hosts -/

def equalsIgnoreCase (a b : List UInt8) : Bool := decide (a.map lowerNarrow = b.map lowerNarrow)

/-- The loop of `Ipv4`: the octets so far, and the one that is being read. -/
def ipv4Loop : List UInt8 → List ℕ → Option ℕ → Option (List ℕ)
  | [], octets, value =>
    match value with
    | some v => if octets.length = 3 then some (octets ++ [v]) else none
    | none => none
  | c :: s, octets, value =>
    if c = '.'.toUInt8 then
      match value with
      | some v => if octets.length = 3 then none else ipv4Loop s (octets ++ [v]) none
      | none => none
    else if '0'.toUInt8 ≤ c ∧ c ≤ '9'.toUInt8 then
      let v := value.getD 0 * 10 + (c - '0'.toUInt8).toNat
      if 255 < v then none else ipv4Loop s octets (some v)
    else none

def ipv4 (s : List UInt8) : Option (List ℕ) := ipv4Loop s [] none

def isIpv6Literal (s : List UInt8) : Bool :=
  s.contains ':'.toUInt8 && s.all fun c =>
    let l := lowerNarrow c
    ('0'.toUInt8 ≤ l && l ≤ '9'.toUInt8) || ('a'.toUInt8 ≤ l && l ≤ 'f'.toUInt8) ||
      l = ':'.toUInt8 || l = '.'.toUInt8

/-- Private or link-local, of the first two octets of an address. -/
def isPrivate4 (o₀ o₁ : ℕ) : Bool :=
  o₀ = 10 || (o₀ = 172 && 16 ≤ o₁ && o₁ ≤ 31) || (o₀ = 192 && o₁ = 168) ||
    (o₀ = 169 && o₁ = 254) || (o₀ = 100 && 64 ≤ o₁ && o₁ ≤ 127)

/-- Private or link-local, of the first three characters of an address in lower case. -/
def isPrivate6 (a b c : UInt8) : Bool :=
  (a = 'f'.toUInt8 && (b = 'c'.toUInt8 || b = 'd'.toUInt8)) ||
    (a = 'f'.toUInt8 && b = 'e'.toUInt8 &&
      (c = '8'.toUInt8 || c = '9'.toUInt8 || c = 'a'.toUInt8 || c = 'b'.toUInt8))

/-- `HostKindFor`. -/
def hostKindFor (host : List UInt8) : HostKind :=
  if equalsIgnoreCase host (narrow "localhost") ||
      (10 < host.length && equalsIgnoreCase (host.drop (host.length - 10)) (narrow ".localhost"))
    then .loopback
  else
    match ipv4 host with
    | some o =>
      if o.getD 0 0 = 127 then .loopback
      else if isPrivate4 (o.getD 0 0) (o.getD 1 0) then .private
      else .public
    | none =>
      if isIpv6Literal host then
        if host = narrow "::1" ∨ host = narrow "0:0:0:0:0:0:0:1" then .loopback
        else if isPrivate6 (lowerNarrow (host.getD 0 0)) (lowerNarrow (host.getD 1 0))
            (lowerNarrow (host.getD 2 0)) then .private
        else .public
      else .name

/-- `ProxyEntryHost`, empty for none. -/
def proxyEntryHost (entry : List UInt8) : List UInt8 :=
  let entry :=
    match entry.dropWhile (· ≠ '='.toUInt8) with
    | [] => entry
    | _ :: rest => rest
  let entry :=
    match findSuffix (fun rest => (narrow "://").isPrefixOf rest) entry with
    | none => entry
    | some scheme => entry.drop (scheme + 3)
  let entry := entry.takeWhile (· ≠ '/'.toUInt8)
  let entry :=
    match rfind (narrow "@") entry with
    | none => entry
    | some user => entry.drop (user + 1)
  if entry.head? = some '['.toUInt8 then
    if entry.contains ']'.toUInt8 then (entry.drop 1).takeWhile (· ≠ ']'.toUInt8) else []
  else
    match entry.dropWhile (· ≠ ':'.toUInt8) with
    | [] => entry
    | _ :: port =>
      if port.contains ':'.toUInt8 then entry else entry.takeWhile (· ≠ ':'.toUInt8)

/-! ### Kinds -/

/-- Where a manual proxy is noted. -/
def HostKind.place : HostKind → ℕ
  | loopback => 2
  | «private» => 3
  | «public» => 4
  | name => 5

/-- What parts the entries of a proxy list are. -/
def isListSeparator (c : UInt8) : Bool :=
  c = ';'.toUInt8 || c = ' '.toUInt8 || c = '\t'.toUInt8 || c = '\r'.toUInt8 || c = '\n'.toUInt8

/-- One round of `UserProxyKind`: the entry's host is noted, if it has one. -/
def note (present : List Bool) (entry : List UInt8) : List Bool :=
  if proxyEntryHost entry = [] then present
  else present.set (hostKindFor (proxyEntryHost entry)).place true

/-- The loop of `UserProxyKind` over what is left of the list, in at most so many rounds. -/
def listLoop : ℕ → List UInt8 → List Bool → Option (List Bool)
  | _, [], present => some present
  | 0, _ :: _, _ => none
  | rounds + 1, rest, present =>
    let present := note present (rest.takeWhile fun c => !isListSeparator c)
    match rest.dropWhile fun c => !isListSeparator c with
    | [] => some present
    | _ :: rest => listLoop rounds rest present

/-- The kind with one more part, if it is there. -/
def join (kind : List UInt8) (part : List UInt8 × Bool) : List UInt8 :=
  if part.2 then if kind = [] then part.1 else kind ++ '+'.toUInt8 :: part.1 else kind

/-- The parts that are there, joined. -/
def kindOf (parts : List (List UInt8)) (present : List Bool) : List UInt8 :=
  (parts.zip present).foldl join []

/-- `UserProxyKind`. -/
def userProxyKind (autoDetect pacScript : Bool) (proxyList : List UInt8) : List UInt8 :=
  let present := (proxyList.splitOnP isListSeparator).foldl note
    [autoDetect, pacScript, false, false, false, false]
  let kind := kindOf kProxyParts present
  if kind = [] then kProxyNone else kind

/-- The texts are parts, in their order and once each: each is looked for after the last. -/
def accepted : List (List UInt8) → List (List UInt8) → Bool
  | [], _ => true
  | text :: texts, parts =>
    match parts.dropWhile (· ≠ text) with
    | [] => false
    | _ :: parts => accepted texts parts

/-- `ProxyKindOrUnknown`. -/
def proxyKindOrUnknown (kind : List UInt8) : List UInt8 :=
  if kind = kProxyNone then kProxyNone
  else if accepted (kind.splitOn '+'.toUInt8) kProxyParts then kind
  else kProxyUnknown

/-! ### The loop -/

theorem listLoop_eq {rounds : ℕ} {list : List UInt8} (h : list.length ≤ rounds)
    (present : List Bool) :
    listLoop rounds list present = some ((list.splitOnP isListSeparator).foldl note present) := by
  induction rounds generalizing list present with
  | zero =>
    obtain rfl := List.length_eq_zero_iff.1 (Nat.le_zero.1 h)
    rfl
  | succ rounds ih =>
    cases list with
    | nil => rfl
    | cons c cs =>
      rw [listLoop]
      split
      · next hdrop =>
        rw [splitOnP_of_dropWhile_nil hdrop]
        rfl
      · next d rest hdrop =>
        have hlen : rest.length < (c :: cs).length := by
          have hsuffix :=
            (List.dropWhile_suffix (fun c => !isListSeparator c) (l := c :: cs)).length_le
          rw [hdrop] at hsuffix
          exact hsuffix
        rw [ih (by omega), splitOnP_of_dropWhile_cons hdrop, List.foldl_cons]
      · exact List.cons_ne_nil c cs

/-! ### The parts that are there -/

/-- The parts of the flags that are set. -/
def chosen (parts : List (List UInt8)) (present : List Bool) : List (List UInt8) :=
  ((parts.zip present).filter Prod.snd).map Prod.fst

lemma intercalate_append (a b : List UInt8) (texts : List (List UInt8)) :
    ['+'.toUInt8].intercalate ((a ++ b) :: texts) =
      a ++ ['+'.toUInt8].intercalate (b :: texts) := by
  cases texts with
  | nil => rw [List.intercalate_singleton, List.intercalate_singleton]
  | cons text texts =>
    rw [List.intercalate_cons_cons, List.intercalate_cons_cons, List.append_assoc,
      List.append_assoc, List.append_assoc]

lemma foldl_join {kind : List UInt8} (hkind : kind ≠ []) (ps : List (List UInt8 × Bool)) :
    ps.foldl join kind =
      ['+'.toUInt8].intercalate (kind :: (ps.filter Prod.snd).map Prod.fst) := by
  induction ps generalizing kind with
  | nil => exact (List.intercalate_singleton ..).symm
  | cons p ps ih =>
    obtain ⟨part, here⟩ := p
    cases here with
    | false => exact ih hkind
    | true =>
      have hjoin : join kind (part, true) = (kind ++ ['+'.toUInt8]) ++ part := by
        rw [join, if_pos rfl, if_neg hkind, List.append_assoc]
        rfl
      rw [List.foldl_cons, hjoin, ih (by simp), intercalate_append]
      exact (List.intercalate_cons_cons ..).symm

lemma kindOf_eq {parts : List (List UInt8)} (h : [] ∉ parts) (present : List Bool) :
    kindOf parts present = ['+'.toUInt8].intercalate (chosen parts present) := by
  rw [kindOf, chosen]
  induction parts generalizing present with
  | nil => rfl
  | cons part parts ih =>
    obtain ⟨hpart, hparts⟩ := not_or.1 (mt List.mem_cons.2 h)
    cases present with
    | nil => rfl
    | cons here present =>
      cases here with
      | false => exact ih hparts present
      | true => exact foldl_join (Ne.symm hpart) _

lemma chosen_sublist (parts : List (List UInt8)) (present : List Bool) :
    (chosen parts present).Sublist parts := by
  induction parts generalizing present with
  | nil => exact List.Sublist.refl _
  | cons part parts ih =>
    cases present with
    | nil => exact List.nil_sublist _
    | cons here present =>
      cases here with
      | false => exact (ih present).cons part
      | true => exact (ih present).cons_cons part

lemma exists_chosen {texts parts : List (List UInt8)} (h : texts.Sublist parts) :
    ∃ present, present.length = parts.length ∧ chosen parts present = texts := by
  induction h with
  | slnil => exact ⟨[], rfl, rfl⟩
  | cons part _ ih =>
    obtain ⟨present, hlen, rfl⟩ := ih
    exact ⟨false :: present, congrArg (· + 1) hlen, rfl⟩
  | cons_cons part _ ih =>
    obtain ⟨present, hlen, rfl⟩ := ih
    exact ⟨true :: present, congrArg (· + 1) hlen, rfl⟩

lemma accepted_iff {texts parts : List (List UInt8)} :
    accepted texts parts = true ↔ texts.Sublist parts := by
  induction parts generalizing texts with
  | nil =>
    cases texts with
    | nil => exact iff_of_true rfl (List.Sublist.refl _)
    | cons text texts => exact iff_of_false Bool.false_ne_true (by simp)
  | cons part parts ih =>
    cases texts with
    | nil => exact iff_of_true rfl (List.nil_sublist _)
    | cons text texts =>
      rw [accepted]
      by_cases hpart : part = text
      · rw [List.dropWhile_cons_of_neg (by simpa using hpart), hpart, List.cons_sublist_cons]
        exact ih
      · have hskip : (text :: texts).Sublist (part :: parts) ↔ (text :: texts).Sublist parts := by
          rw [List.sublist_cons_iff]
          refine or_iff_left ?_
          rintro ⟨rest, heq, -⟩
          exact hpart (List.cons.inj heq).1.symm
        rw [List.dropWhile_cons_of_pos (by simpa using hpart), hskip, ← ih]
        rfl

/-! ### The two ends -/

lemma nil_notMem_parts : [] ∉ kProxyParts := by decide

lemma plus_notMem_parts {text : List UInt8} (h : text ∈ kProxyParts) : '+'.toUInt8 ∉ text := by
  have hall : ∀ text ∈ kProxyParts, '+'.toUInt8 ∉ text := by decide
  exact hall text h

lemma intercalate_ne_nil {texts : List (List UInt8)} (hsub : texts.Sublist kProxyParts)
    (hne : texts ≠ []) : ['+'.toUInt8].intercalate texts ≠ [] := by
  obtain ⟨text, rest, rfl⟩ := List.exists_cons_of_ne_nil hne
  have htext : text ≠ [] := by
    rintro rfl
    exact nil_notMem_parts (hsub.subset (List.mem_cons_self ..))
  cases rest with
  | nil => rwa [List.intercalate_singleton]
  | cons text' rest =>
    rw [List.intercalate_cons_cons, List.append_assoc]
    exact List.append_ne_nil_of_left_ne_nil htext _

lemma userProxyKind_eq (autoDetect pacScript : Bool) (list : List UInt8) :
    ∃ texts, texts.Sublist kProxyParts ∧
      (userProxyKind autoDetect pacScript list = kProxyNone ∨
        userProxyKind autoDetect pacScript list = ['+'.toUInt8].intercalate texts ∧
          texts ≠ []) := by
  rw [userProxyKind]
  generalize (list.splitOnP isListSeparator).foldl note _ = present
  refine ⟨chosen kProxyParts present, chosen_sublist .., ?_⟩
  rw [kindOf_eq nil_notMem_parts]
  by_cases hne : chosen kProxyParts present = []
  · rw [hne]
    exact .inl rfl
  · rw [if_neg (intercalate_ne_nil (chosen_sublist ..) hne)]
    exact .inr ⟨rfl, hne⟩

/-- A proxy list with the kinds of hosts that are asked for. -/
def listOf (loopback «private» «public» name : Bool) : List UInt8 :=
  (if loopback then narrow "localhost;" else []) ++
    (if «private» then narrow "10.0.0.1;" else []) ++
    (if «public» then narrow "8.8.8.8;" else []) ++ (if name then narrow "p;" else [])

lemma foldl_note_listOf (a b c d e f : Bool) :
    ((listOf c d e f).splitOnP isListSeparator).foldl note [a, b, false, false, false, false] =
      [a, b, c, d, e, f] := by
  revert a b c d e f
  decide +kernel

lemma exists_setting {texts : List (List UInt8)} (h : texts.Sublist kProxyParts)
    (hne : texts ≠ []) : ∃ autoDetect pacScript list,
      userProxyKind autoDetect pacScript list = ['+'.toUInt8].intercalate texts := by
  obtain ⟨present, hlen, rfl⟩ := exists_chosen h
  obtain ⟨a, b, c, d, e, f, rfl⟩ : ∃ a b c d e f, present = [a, b, c, d, e, f] := by
    match present, hlen with
    | [a, b, c, d, e, f], _ => exact ⟨a, b, c, d, e, f, rfl⟩
  refine ⟨a, b, listOf c d e f, ?_⟩
  rw [userProxyKind, foldl_note_listOf, kindOf_eq nil_notMem_parts,
    if_neg (intercalate_ne_nil h hne)]

/-- The service takes exactly what the app can send. -/
structure KindsAgree : Prop where
  kept : ∀ autoDetect pacScript list,
    proxyKindOrUnknown (userProxyKind autoDetect pacScript list) =
      userProxyKind autoDetect pacScript list
  known : ∀ kind, proxyKindOrUnknown kind = kProxyUnknown ∨
    proxyKindOrUnknown kind = kind ∧
      ∃ autoDetect pacScript list, userProxyKind autoDetect pacScript list = kind
  ended : ∀ list present, listLoop list.length list present =
    some ((list.splitOnP isListSeparator).foldl note present)
  fixed : ∀ autoDetect pacScript list, userProxyKind autoDetect pacScript list = kProxyNone ∨
    ∃ texts, texts.Sublist kProxyParts ∧
      userProxyKind autoDetect pacScript list = ['+'.toUInt8].intercalate texts

theorem kinds_agree : KindsAgree where
  kept autoDetect pacScript list := by
    obtain ⟨texts, hsub, h | ⟨h, hne⟩⟩ := userProxyKind_eq autoDetect pacScript list
    · rw [h]
      exact if_pos rfl
    · have hplus : ∀ text ∈ texts, '+'.toUInt8 ∉ text := fun text htext =>
        plus_notMem_parts (hsub.subset htext)
      rw [h, proxyKindOrUnknown, List.splitOn_intercalate _ hplus hne, accepted_iff.2 hsub]
      split_ifs with hnone hyes
      · exact hnone.symm
      · rfl
      · exact absurd rfl hyes
  known kind := by
    rw [proxyKindOrUnknown]
    split_ifs with hnone haccepted
    · exact .inr ⟨hnone.symm, false, false, [], hnone ▸ rfl⟩
    · obtain ⟨autoDetect, pacScript, list, h⟩ :=
        exists_setting (accepted_iff.1 haccepted) (List.splitOn_ne_nil _ _)
      rw [List.intercalate_splitOn] at h
      exact .inr ⟨rfl, autoDetect, pacScript, list, h⟩
    · exact .inl rfl
  ended list := listLoop_eq le_rfl
  fixed autoDetect pacScript list := by
    obtain ⟨texts, hsub, h | ⟨h, -⟩⟩ := userProxyKind_eq autoDetect pacScript list
    · exact .inl h
    · exact .inr ⟨texts, hsub, h⟩

end UrnetworkWindows.ProxyKind
