/-
The network a browser approval is for (`ApprovalNetwork.h`).

A host is valid where it is two labels or more joined by dots, and a port or none
(`isValidApiHost_iff`).  Of a url the host is read in small letters, without one slash at its end
and without https' own port; a url that holds anything else names no host, since none of it is in
the alphabet of a valid one (`inAlphabet_of_valid`).
-/
import UrnetworkWindows.Lib.Decimal

namespace UrnetworkWindows.SignIn

open Lib

def kMaxApiChars : ℕ := 200

def kMaxApiLabelChars : ℕ := 63

def kMaxApiPort : ℕ := 65535

def kHttpsPort : ℕ := 443

def isLowerOrDigit (c : UInt8) : Bool :=
  ('a'.toUInt8 ≤ c && c ≤ 'z'.toUInt8) || ('0'.toUInt8 ≤ c && c ≤ '9'.toUInt8)

def isAllDigits (text : List UInt8) : Bool := text.all isDecimal && !text.isEmpty

/-- `0x` and any number of hex digits. -/
def isHexNumber (text : List UInt8) : Bool :=
  text.take 2 == narrow "0x" && (text.drop 2).all fun c =>
    isDecimal c || ('a'.toUInt8 ≤ c && c ≤ 'f'.toUInt8)

def isApiLabel (label : List UInt8) : Bool :=
  !(label.isEmpty || kMaxApiLabelChars < label.length) &&
    (label.head?.any isLowerOrDigit && label.getLast?.any isLowerOrDigit) &&
    label.all fun c => isLowerOrDigit c || c == '-'.toUInt8

def isApiPort (port : List UInt8) : Bool :=
  !(!isAllDigits port || 5 < port.length || port.head? == some '0'.toUInt8) &&
    (decimalValue port ≤ kMaxApiPort && decimalValue port != kHttpsPort)

/-- The labels of a name, all of them labels and the last no number. -/
def isApiName (name : List UInt8) : Bool :=
  let labels := name.splitOn '.'.toUInt8
  let last := labels.getLastD []
  labels.all isApiLabel && 2 ≤ labels.length && !isAllDigits last && !isHexNumber last

def isValidApiHost (host : List UInt8) : Bool :=
  if host.isEmpty || kMaxApiChars < host.length then false
  else
    match host.dropWhile (· != ':'.toUInt8) with
    | [] => isApiName host
    | _ :: port => isApiPort port && isApiName (host.takeWhile (· != ':'.toUInt8))

def kScheme : List UInt8 := narrow "https://"

def kOwnPort : List UInt8 := narrow ":443"

/-- The host without https' own port, where that is the only port. -/
def stripOwnPort (host : List UInt8) : List UInt8 :=
  let name := host.take (host.length - kOwnPort.length)
  if kOwnPort.length < host.length && host.drop (host.length - kOwnPort.length) == kOwnPort &&
      !name.contains ':'.toUInt8 then name
  else host

/-- The host without one slash at its end. -/
def stripSlash (host : List UInt8) : List UInt8 :=
  if host.getLast? = some '/'.toUInt8 then host.dropLast else host

/-- What follows the scheme, as the host it names. -/
def hostAfterScheme (rest : List UInt8) : List UInt8 :=
  let host := stripOwnPort (stripSlash rest)
  if isValidApiHost host then host else []

def apiHostOfUrl (apiUrl : List UInt8) : List UInt8 :=
  let url := apiUrl.map lowerNarrow
  if url.take kScheme.length ≠ kScheme then [] else hostAfterScheme (url.drop kScheme.length)

inductive NetworkKind
  | none
  | official
  | custom
deriving DecidableEq, Repr

structure Network where
  kind : NetworkKind := .none
  api : List UInt8 := []
deriving DecidableEq, Repr

def networkOf (officialSpace : Bool) (liveApiUrl operatorHost : List UInt8) : Network :=
  let api := apiHostOfUrl liveApiUrl
  if api.isEmpty then {}
  else if officialSpace && api == narrow "api." ++ operatorHost then
    { kind := .official, api := [] }
  else { kind := .custom, api }

/-! ### The grammar -/

/-- 1 to 63 small letters, digits and hyphens, with a letter or a digit at both ends. -/
structure IsLabel (label : List UInt8) : Prop where
  length_pos : 1 ≤ label.length
  length_le : label.length ≤ 63
  alphabet : ∀ c ∈ label, isLowerOrDigit c = true ∨ c = '-'.toUInt8
  head : ∀ c ∈ label.head?, isLowerOrDigit c = true
  last : ∀ c ∈ label.getLast?, isLowerOrDigit c = true

/-- All digits, or `0x` and hex digits. -/
def IsNumber (label : List UInt8) : Prop :=
  (label ≠ [] ∧ ∀ c ∈ label, isDecimal c = true) ∨ ∃ digits, label = narrow "0x" ++ digits ∧
    ∀ c ∈ digits, isDecimal c = true ∨ 'a'.toUInt8 ≤ c ∧ c ≤ 'f'.toUInt8

/-- Two labels or more, joined by dots, of which the last is no number. -/
def IsApiName (name : List UInt8) : Prop :=
  ∃ labels : List (List UInt8), name = ['.'.toUInt8].intercalate labels ∧ 2 ≤ labels.length ∧
    (∀ label ∈ labels, IsLabel label) ∧ ∀ last ∈ labels.getLast?, ¬ IsNumber last

/-- A name, and a port other than https' own or none, in 200 characters. -/
def IsApiHost (host : List UInt8) : Prop :=
  host.length ≤ 200 ∧ ∃ name port, host = name ++ port ∧ IsApiName name ∧
    (port = [] ∨ ∃ n, 1 ≤ n ∧ n ≤ 65535 ∧ n ≠ 443 ∧ port = ':'.toUInt8 :: numeral n)

section

variable {label name port host text : List UInt8} {c : UInt8}

lemma isApiLabel_iff : isApiLabel label = true ↔ IsLabel label := by
  constructor
  · intro h
    simp only [isApiLabel, Bool.and_eq_true, Bool.not_eq_true',
      Bool.or_eq_false_iff, decide_eq_false_iff_not, not_lt, List.all_eq_true, Bool.or_eq_true,
      beq_iff_eq, Option.any_eq_true] at h
    obtain ⟨⟨⟨hne, hle⟩, ⟨first, hfirst, hhead⟩, last, hlast, hend⟩, halphabet⟩ := h
    refine ⟨List.length_pos_iff.2 (by simpa using hne), hle, halphabet, ?_, ?_⟩
    · intro c hc
      rwa [Option.mem_unique hc hfirst]
    · intro c hc
      rwa [Option.mem_unique hc hlast]
  · rintro ⟨hpos, hle, halphabet, hhead, hlast⟩
    have hne : label ≠ [] := List.length_pos_iff.1 hpos
    simp only [isApiLabel, Bool.and_eq_true, Bool.not_eq_true',
      Bool.or_eq_false_iff, decide_eq_false_iff_not, not_lt, List.all_eq_true, Bool.or_eq_true,
      beq_iff_eq, Option.any_eq_true]
    exact ⟨⟨⟨by simpa using hne, hle⟩, ⟨_, List.head?_eq_some_head hne,
      hhead _ (List.head?_eq_some_head hne)⟩, _, List.getLast?_eq_some_getLast hne,
      hlast _ (List.getLast?_eq_some_getLast hne)⟩, halphabet⟩

lemma isNumber_iff : (isAllDigits text || isHexNumber text) = true ↔ IsNumber text := by
  rw [Bool.or_eq_true, IsNumber]
  refine or_congr ?_ ?_
  · simp [isAllDigits, and_comm]
  · simp only [isHexNumber, Bool.and_eq_true, beq_iff_eq, List.all_eq_true, Bool.or_eq_true,
      decide_eq_true_eq]
    constructor
    · rintro ⟨htake, hdigits⟩
      exact ⟨text.drop 2, by rw [← htake, List.take_append_drop], hdigits⟩
    · rintro ⟨digits, rfl, hdigits⟩
      exact ⟨rfl, hdigits⟩

lemma range_of_isLowerOrDigit (h : isLowerOrDigit c = true) :
    48 ≤ c.toNat ∧ c.toNat ≤ 57 ∨ 97 ≤ c.toNat ∧ c.toNat ≤ 122 := by
  simp [isLowerOrDigit, Char.toUInt8, UInt8.le_iff_toNat_le] at h
  omega

lemma IsLabel.not_mem (h : IsLabel label) (hc : c.toNat = 46 ∨ c.toNat = 58) : c ∉ label := by
  intro hmem
  rcases h.alphabet c hmem with hletter | rfl
  · have hrange := range_of_isLowerOrDigit hletter
    omega
  · revert hc
    decide

lemma isApiName_iff : isApiName name = true ↔ IsApiName name := by
  have hlast : ∀ labels : List (List UInt8), labels ≠ [] →
      ((∀ last ∈ labels.getLast?, ¬ IsNumber last) ↔
        isAllDigits (labels.getLastD []) = false ∧ isHexNumber (labels.getLastD []) = false) := by
    intro labels hne
    rw [List.getLast?_eq_some_getLast hne, List.getLastD_eq_getLast?,
      List.getLast?_eq_some_getLast hne]
    simp only [Option.mem_def, Option.some.injEq, forall_eq', Option.getD_some, ← isNumber_iff,
      Bool.not_eq_true, Bool.or_eq_false_iff]
  constructor
  · intro h
    simp only [isApiName, Bool.and_eq_true, List.all_eq_true, decide_eq_true_eq,
      Bool.not_eq_true'] at h
    obtain ⟨⟨⟨hlabels, htwo⟩, hdigits⟩, hhex⟩ := h
    refine ⟨name.splitOn '.'.toUInt8, (List.intercalate_splitOn _).symm, htwo,
      fun label hlabel => isApiLabel_iff.1 (hlabels label hlabel), ?_⟩
    exact (hlast _ (List.length_pos_iff.1 (by omega))).2 ⟨hdigits, hhex⟩
  · rintro ⟨labels, rfl, htwo, hlabels, hnumber⟩
    have hne : labels ≠ [] := List.length_pos_iff.1 (by omega)
    have hsplit : (['.'.toUInt8].intercalate labels).splitOn '.'.toUInt8 = labels :=
      List.splitOn_intercalate _ (fun label hlabel => (hlabels label hlabel).not_mem (.inl rfl)) hne
    obtain ⟨hdigits, hhex⟩ := (hlast labels hne).1 hnumber
    simp only [isApiName, hsplit, Bool.and_eq_true, List.all_eq_true, decide_eq_true_eq,
      Bool.not_eq_true']
    exact ⟨⟨⟨fun label hlabel => isApiLabel_iff.2 (hlabels label hlabel), htwo⟩, hdigits⟩, hhex⟩

lemma isApiPort_iff : isApiPort port = true ↔
    ∃ n, 1 ≤ n ∧ n ≤ 65535 ∧ n ≠ 443 ∧ port = numeral n := by
  simp only [isApiPort, isAllDigits, Bool.and_eq_true, Bool.not_eq_true',
    Bool.or_eq_false_iff, Bool.not_eq_false', decide_eq_false_iff_not, not_lt, List.all_eq_true,
    beq_eq_false_iff_ne, decide_eq_true_eq, bne_iff_ne]
  constructor
  · rintro ⟨⟨⟨⟨hdigits, hne⟩, -⟩, hhead⟩, hle, hown⟩
    obtain ⟨hpos, heq⟩ := eq_numeral (by simpa using hne) hdigits hhead
    exact ⟨decimalValue port, hpos, hle, hown, heq⟩
  · rintro ⟨n, hpos, hle, hown, hport⟩
    obtain ⟨hne, hdigits, hhead, hvalue⟩ := (eq_numeral_iff hpos).1 hport
    have hlength : port.length ≤ 5 := by
      rw [hport]
      exact length_numeral_le (by decide) (by omega)
    rw [hvalue]
    exact ⟨⟨⟨⟨hdigits, by simpa using hne⟩, hlength⟩, hhead⟩, hle, hown⟩

/-! ### The host -/

lemma mem_intercalate {α : Type*} {x y : α} {ls : List (List α)} (h : y ∈ [x].intercalate ls) :
    y = x ∨ ∃ l ∈ ls, y ∈ l := by
  induction ls with
  | nil => cases h
  | cons l ls ih =>
    rcases eq_or_ne ls [] with rfl | hne
    · rw [List.intercalate_singleton] at h
      exact .inr ⟨l, List.mem_cons_self, h⟩
    · rw [List.intercalate_cons_of_ne_nil hne, List.append_assoc, List.mem_append, List.mem_append,
        List.mem_singleton] at h
      rcases h with h | h | h
      · exact .inr ⟨l, List.mem_cons_self, h⟩
      · exact .inl h
      · exact (ih h).imp_right fun ⟨l', hl', hy⟩ => ⟨l', List.mem_cons_of_mem _ hl', hy⟩

/-- The characters of a valid host. -/
def InAlphabet (c : UInt8) : Prop :=
  isLowerOrDigit c = true ∨ c = '-'.toUInt8 ∨ c = '.'.toUInt8 ∨ c = ':'.toUInt8

instance : DecidablePred InAlphabet := fun _ => inferInstanceAs (Decidable (_ ∨ _))

lemma IsApiName.mem (h : IsApiName name) (hc : c ∈ name) :
    isLowerOrDigit c = true ∨ c = '-'.toUInt8 ∨ c = '.'.toUInt8 := by
  obtain ⟨labels, rfl, -, hlabels, -⟩ := h
  rcases mem_intercalate hc with rfl | ⟨label, hlabel, hmem⟩
  · exact .inr (.inr rfl)
  · exact ((hlabels label hlabel).alphabet c hmem).imp_right .inl

lemma IsApiName.colon_not_mem (h : IsApiName name) : ':'.toUInt8 ∉ name := by
  intro hmem
  have hcases := h.mem hmem
  revert hcases
  decide

lemma IsApiName.ne_nil (h : IsApiName name) : name ≠ [] := by
  rintro rfl
  rw [← isApiName_iff] at h
  revert h
  decide

lemma isValidApiHost_iff : isValidApiHost host = true ↔ IsApiHost host := by
  have hcolon : (fun c : UInt8 => c != ':'.toUInt8) ':'.toUInt8 = false := rfl
  constructor
  · intro h
    unfold isValidApiHost at h
    split_ifs at h with hbound
    rw [Bool.or_eq_true, decide_eq_true_eq, not_or, not_lt] at hbound
    refine ⟨hbound.2, host.takeWhile (· != ':'.toUInt8), host.dropWhile (· != ':'.toUInt8),
      (List.takeWhile_append_dropWhile ..).symm, ?_⟩
    cases hport : host.dropWhile (· != ':'.toUInt8) with
    | nil =>
      have htake := List.takeWhile_append_dropWhile (l := host) (p := (· != ':'.toUInt8))
      rw [hport, List.append_nil] at htake
      simp only [hport] at h
      rw [htake]
      exact ⟨isApiName_iff.1 h, .inl rfl⟩
    | cons c port =>
      simp only [hport, Bool.and_eq_true] at h
      have hc : c = ':'.toUInt8 := by
        have hhead := List.head?_dropWhile_not (· != ':'.toUInt8) host
        rw [hport] at hhead
        simpa using hhead
      obtain ⟨n, hpos, hle, hown, rfl⟩ := isApiPort_iff.1 h.1
      exact ⟨isApiName_iff.1 h.2, .inr ⟨n, hpos, hle, hown, by rw [hc]⟩⟩
  · rintro ⟨hlength, name, port, rfl, hname, hport⟩
    have hall : ∀ c ∈ name, (c != ':'.toUInt8) = true := fun c hc =>
      bne_iff_ne.2 fun heq => hname.colon_not_mem (heq ▸ hc)
    have hbound :
        ¬ ((name ++ port).isEmpty || decide (kMaxApiChars < (name ++ port).length)) = true := by
      rw [Bool.or_eq_true, decide_eq_true_eq, not_or, not_lt]
      exact ⟨by simp [hname.ne_nil], hlength⟩
    rw [isValidApiHost, if_neg hbound, List.dropWhile_append_of_pos hall,
      List.takeWhile_append_of_pos hall]
    rcases hport with rfl | ⟨n, hpos, hle, hown, rfl⟩
    · simpa using isApiName_iff.2 hname
    · rw [List.dropWhile_cons_of_neg (by simp), List.takeWhile_cons_of_neg (by simp),
        List.append_nil, Bool.and_eq_true]
      exact ⟨isApiPort_iff.2 ⟨n, hpos, hle, hown, rfl⟩, isApiName_iff.2 hname⟩

lemma inAlphabet_of_valid (h : isValidApiHost host = true) (hc : c ∈ host) : InAlphabet c := by
  obtain ⟨-, name, port, rfl, hname, hport⟩ := isValidApiHost_iff.1 h
  rcases List.mem_append.1 hc with hc | hc
  · rcases hname.mem hc with hletter | hhyphen | hdot
    · exact .inl hletter
    · exact .inr (.inl hhyphen)
    · exact .inr (.inr (.inl hdot))
  · rcases hport with rfl | ⟨n, hpos, -, -, rfl⟩
    · cases hc
    · rcases List.mem_cons.1 hc with rfl | hc
      · exact .inr (.inr (.inr rfl))
      · have hdigit := (numeral_spec (n := n) hpos).1 c hc
        simp only [isDecimal] at hdigit
        exact .inl (by rw [isLowerOrDigit, hdigit, Bool.or_true])

lemma InAlphabet.lower (h : InAlphabet c) : lowerNarrow c = c := by
  have hrange : ¬ (65 ≤ c.toNat ∧ c.toNat ≤ 90) := by
    rcases h with hletter | rfl | rfl | rfl
    · have hrange := range_of_isLowerOrDigit hletter
      omega
    all_goals decide
  rw [← UInt8.toNat_inj, toNat_lowerNarrow, if_neg hrange]

lemma map_lower_of_valid (h : isValidApiHost host = true) : host.map lowerNarrow = host :=
  List.map_congr_left (fun _ hc => (inAlphabet_of_valid h hc).lower) |>.trans (List.map_id _)

/-! ### The url -/

variable {rest x y s : List UInt8} {b : UInt8}

lemma eq_append_of_drop_eq (h : host.drop (host.length - x.length) = x) :
    host = host.take (host.length - x.length) ++ x := by
  conv_lhs => rw [← List.take_append_drop (host.length - x.length) host, h]

lemma stripOwnPort_cases (host : List UInt8) : stripOwnPort host = host ∨
    ∃ name, name ≠ [] ∧ ':'.toUInt8 ∉ name ∧ host = name ++ kOwnPort ∧
      stripOwnPort host = name := by
  rw [stripOwnPort]
  split_ifs with h
  · simp only [Bool.and_eq_true, decide_eq_true_eq, beq_iff_eq, Bool.not_eq_true',
      List.contains_eq_mem, decide_eq_false_iff_not] at h
    obtain ⟨⟨hlt, hdrop⟩, hcolon⟩ := h
    refine .inr ⟨_, ?_, hcolon, eq_append_of_drop_eq hdrop, rfl⟩
    rw [← List.length_pos_iff, List.length_take]
    omega
  · exact .inl rfl

lemma stripOwnPort_append (hne : name ≠ []) (hcolon : ':'.toUInt8 ∉ name) :
    stripOwnPort (name ++ kOwnPort) = name := by
  have hpos := List.length_pos_iff.2 hne
  rw [stripOwnPort]
  simp only [List.length_append, Nat.add_sub_cancel, List.take_left, List.drop_left]
  rw [if_pos]
  simp [hcolon, hpos]

lemma stripOwnPort_of_valid (h : isValidApiHost host = true) : stripOwnPort host = host := by
  rcases stripOwnPort_cases host with heq | ⟨name, -, hcolon, rfl, -⟩
  · exact heq
  · obtain ⟨-, name', port, heq, hname, hport⟩ := isValidApiHost_iff.1 h
    rcases hport with rfl | ⟨n, hpos, -, hown, rfl⟩
    · rw [List.append_nil] at heq
      refine absurd ?_ hname.colon_not_mem
      rw [← heq]
      exact List.mem_append_right _ (by decide)
    · -- the port would be 443
      have hsplit : name' ++ ':'.toUInt8 :: numeral n = name ++ ':'.toUInt8 :: narrow "443" :=
        heq.symm
      have hdigits : ':'.toUInt8 ∉ numeral n := fun hmem =>
        absurd ((numeral_spec hpos).1 _ hmem) (by decide)
      obtain ⟨-, -, hnumeral⟩ :=
        (List.append_cons_inj_of_notMem hname.colon_not_mem hdigits).1 hsplit
      have hvalue := (numeral_spec hpos).2.2.2
      rw [hnumeral] at hvalue
      exact absurd hvalue.symm hown

lemma hostAfterScheme_of_valid (h : isValidApiHost host = true) : hostAfterScheme host = host := by
  have hslash : stripSlash host = host := by
    rw [stripSlash, if_neg]
    intro hlast
    have hmem := inAlphabet_of_valid h (List.mem_of_getLast? hlast)
    revert hmem
    decide
  rw [hostAfterScheme, hslash, stripOwnPort_of_valid h]
  rw [if_pos h]

lemma hostAfterScheme_cases (rest : List UInt8) :
    hostAfterScheme rest = [] ∨ isValidApiHost (hostAfterScheme rest) = true := by
  rw [hostAfterScheme]
  split_ifs with h
  · exact .inr h
  · exact .inl rfl

lemma inAlphabet_kOwnPort : ∀ b ∈ kOwnPort, InAlphabet b := by
  decide +kernel

lemma hostAfterScheme_eq_nil (hmem : b ∈ stripSlash rest) (hb : ¬ InAlphabet b) :
    hostAfterScheme rest = [] := by
  have hkept : b ∈ stripOwnPort (stripSlash rest) := by
    rcases stripOwnPort_cases (stripSlash rest) with heq | ⟨name, -, -, heq, hstrip⟩
    · rwa [heq]
    · rw [heq, List.mem_append] at hmem
      rw [hstrip]
      exact hmem.resolve_right fun hport => hb (inAlphabet_kOwnPort b hport)
  rw [hostAfterScheme]
  rw [if_neg fun h => hb (inAlphabet_of_valid h hkept)]

lemma mem_stripSlash (h : y ≠ [] ∨ b ≠ '/'.toUInt8) : b ∈ stripSlash (x ++ b :: y) := by
  rw [stripSlash]
  split_ifs with hlast
  · rcases eq_or_ne y [] with rfl | hne
    · rw [List.getLast?_append_of_ne_nil _ (by simp), List.getLast?_singleton] at hlast
      exact absurd (Option.some.inj hlast) (h.resolve_left (by simp))
    · rw [List.dropLast_append_of_ne_nil (by simp), List.dropLast_cons_of_ne_nil hne]
      simp
  · simp

lemma stripSlash_snoc : stripSlash (rest ++ ['/'.toUInt8]) = rest := by
  simp [stripSlash]

lemma stripSlash_of_ne (h : rest.getLast? ≠ some '/'.toUInt8) : stripSlash rest = rest :=
  if_neg h

lemma lowerNarrow_eq_iff (hb : b.toNat < 65) : lowerNarrow c = b ↔ c = b := by
  rw [← UInt8.toNat_inj, toNat_lowerNarrow, ← UInt8.toNat_inj]
  split_ifs <;> omega

lemma mem_map_lower (hb : b.toNat < 65) : b ∈ text.map lowerNarrow ↔ b ∈ text := by
  rw [List.mem_map]
  constructor
  · rintro ⟨c, hc, heq⟩
    rwa [← (lowerNarrow_eq_iff hb).1 heq]
  · exact fun h => ⟨b, h, (lowerNarrow_eq_iff hb).2 rfl⟩

lemma getLast?_map_lower (hb : b.toNat < 65) :
    (text.map lowerNarrow).getLast? = some b ↔ text.getLast? = some b := by
  rw [List.getLast?_map, Option.map_eq_some_iff]
  constructor
  · rintro ⟨c, hc, heq⟩
    rwa [← (lowerNarrow_eq_iff hb).1 heq]
  · exact fun h => ⟨b, h, (lowerNarrow_eq_iff hb).2 rfl⟩

lemma apiHostOfUrl_of_append (h : text.map lowerNarrow = kScheme ++ rest) :
    apiHostOfUrl text = hostAfterScheme rest := by
  rw [apiHostOfUrl, h]
  simp

lemma apiHostOfUrl_of_no_scheme (h : ¬ kScheme <+: text.map lowerNarrow) :
    apiHostOfUrl text = [] := by
  rw [apiHostOfUrl]
  exact if_pos fun htake => h (List.prefix_iff_eq_take.2 htake.symm)

lemma apiHostOfUrl_slash (h : text.getLast? ≠ some '/'.toUInt8) :
    apiHostOfUrl (text ++ ['/'.toUInt8]) = apiHostOfUrl text := by
  have hlast : (text.map lowerNarrow).getLast? ≠ some '/'.toUInt8 :=
    mt (getLast?_map_lower (by decide)).1 h
  have hmap : (text ++ ['/'.toUInt8]).map lowerNarrow = text.map lowerNarrow ++ ['/'.toUInt8] := by
    rw [List.map_append]
    rfl
  by_cases hprefix : kScheme <+: text.map lowerNarrow
  · obtain ⟨rest, hrest⟩ := hprefix
    have hslash : stripSlash rest = rest := by
      refine stripSlash_of_ne fun hslash => hlast ?_
      rw [← hrest, List.getLast?_append, hslash]
      rfl
    have happend : (text ++ ['/'.toUInt8]).map lowerNarrow =
        kScheme ++ (rest ++ ['/'.toUInt8]) := by
      rw [hmap, ← hrest, List.append_assoc]
    rw [apiHostOfUrl_of_append hrest.symm, apiHostOfUrl_of_append happend]
    rw [hostAfterScheme, hostAfterScheme, stripSlash_snoc, hslash]
  · rw [apiHostOfUrl_of_no_scheme hprefix, apiHostOfUrl_of_no_scheme]
    rw [hmap, List.prefix_concat_iff, not_or]
    refine ⟨fun heq => hlast ?_, hprefix⟩
    -- the scheme itself, without its last slash, ends in one
    have hscheme : narrow "https:/" ++ ['/'.toUInt8] = text.map lowerNarrow ++ ['/'.toUInt8] := heq
    rw [← (List.append_inj' hscheme rfl).1]
    rfl

lemma kScheme_prefix_iff (h : '/'.toUInt8 ∉ s) :
    kScheme <+: s ++ narrow "//" ++ rest ↔ s = narrow "https:" := by
  constructor
  · rintro ⟨after, heq⟩
    have hsplit : s ++ '/'.toUInt8 :: ('/'.toUInt8 :: rest) =
        narrow "https:" ++ '/'.toUInt8 :: ('/'.toUInt8 :: after) := by
      rw [List.append_assoc] at heq
      exact heq.symm
    have hall : ∀ c ∈ s, (c != '/'.toUInt8) = true := fun c hc =>
      bne_iff_ne.2 fun heq => h (heq ▸ hc)
    have htake := congrArg (List.takeWhile (· != '/'.toUInt8)) hsplit
    rw [List.takeWhile_append_of_pos hall, List.takeWhile_append_of_pos (by decide +kernel),
      List.takeWhile_cons_of_neg (by simp), List.takeWhile_cons_of_neg (by simp), List.append_nil,
      List.append_nil] at htake
    exact htake
  · rintro rfl
    exact ⟨rest, rfl⟩

lemma hostAfterScheme_port (hcolon : ':'.toUInt8 ∉ host) (hslash : '/'.toUInt8 ∉ host)
    (hrest : ∀ c ∈ rest.head?, c = '/'.toUInt8 ∨ c = '?'.toUInt8 ∨ c = '#'.toUInt8) :
    hostAfterScheme (host ++ kOwnPort ++ rest) = hostAfterScheme (host ++ rest) := by
  have hplain : stripSlash host = host :=
    stripSlash_of_ne fun hlast => hslash (List.mem_of_getLast? hlast)
  have hported : stripSlash (host ++ kOwnPort) = host ++ kOwnPort := by
    refine stripSlash_of_ne fun hlast => ?_
    rw [List.getLast?_append_of_ne_nil _ (by decide)] at hlast
    revert hlast
    decide
  -- the port is stripped of a host, and of no host nothing is named
  have hstrip : ∀ x y, stripSlash x = host ++ kOwnPort → stripSlash y = host →
      hostAfterScheme x = hostAfterScheme y := by
    intro x y hx hy
    have hnone : stripOwnPort host = host := by
      rcases stripOwnPort_cases host with heq | ⟨name, -, -, heq, -⟩
      · exact heq
      · refine absurd ?_ hcolon
        rw [heq]
        exact List.mem_append_right _ (by decide)
    rw [hostAfterScheme, hostAfterScheme, hx, hy, hnone]
    rcases eq_or_ne host [] with rfl | hne
    · decide
    · rw [stripOwnPort_append hne hcolon]
  cases rest with
  | nil =>
    rw [List.append_nil, List.append_nil]
    exact hstrip _ _ hported hplain
  | cons b rest =>
    have hb := hrest b rfl
    by_cases hend : rest = [] ∧ b = '/'.toUInt8
    · obtain ⟨rfl, rfl⟩ := hend
      exact hstrip _ _ stripSlash_snoc stripSlash_snoc
    · -- what begins a path, a query or a fragment is in no host
      have hout : ¬ InAlphabet b := by
        rcases hb with rfl | rfl | rfl <;> decide
      have hkept : rest ≠ [] ∨ b ≠ '/'.toUInt8 := by
        rwa [← not_and_or]
      rw [hostAfterScheme_eq_nil (mem_stripSlash hkept) hout,
        hostAfterScheme_eq_nil (mem_stripSlash hkept) hout]

lemma hostAfterScheme_user (h : '@'.toUInt8 ∈ host ∨ '['.toUInt8 ∈ host) :
    hostAfterScheme (host ++ rest) = [] := by
  have hnone : ∀ b, b ∈ host → ¬ InAlphabet b → b ≠ '/'.toUInt8 →
      hostAfterScheme (host ++ rest) = [] := by
    intro b hb hout hslash
    obtain ⟨x, y, rfl⟩ := List.append_of_mem hb
    refine hostAfterScheme_eq_nil (b := b) ?_ hout
    rw [List.append_assoc, List.cons_append]
    exact mem_stripSlash (.inr hslash)
  rcases h with h | h
  · exact hnone _ h (by decide) (by decide)
  · exact hnone _ h (by decide) (by decide)

lemma apiHostOfUrl_port (hs : '/'.toUInt8 ∉ s) (hslash : '/'.toUInt8 ∉ host)
    (hcolon : ':'.toUInt8 ∈ host → '@'.toUInt8 ∈ host ∨ '['.toUInt8 ∈ host)
    (hrest : ∀ c ∈ rest.head?, c = '/'.toUInt8 ∨ c = '?'.toUInt8 ∨ c = '#'.toUInt8) :
    apiHostOfUrl (s ++ narrow "//" ++ (host ++ kOwnPort ++ rest)) =
      apiHostOfUrl (s ++ narrow "//" ++ (host ++ rest)) := by
  have hmap : ∀ x, (s ++ narrow "//" ++ x).map lowerNarrow =
      s.map lowerNarrow ++ narrow "//" ++ x.map lowerNarrow := fun x => by
    rw [List.map_append, List.map_append]
    rfl
  have hs' : '/'.toUInt8 ∉ s.map lowerNarrow := mt (mem_map_lower (by decide)).1 hs
  by_cases hscheme : s.map lowerNarrow = narrow "https:"
  · have hafter : ∀ x, apiHostOfUrl (s ++ narrow "//" ++ x) =
        hostAfterScheme (x.map lowerNarrow) := fun x =>
      apiHostOfUrl_of_append (by rw [hmap, hscheme]; rfl)
    have hown : kOwnPort.map lowerNarrow = kOwnPort := by decide
    rw [hafter, hafter, List.map_append, List.map_append, List.map_append, hown]
    by_cases huser : ':'.toUInt8 ∈ host
    · have hout : '@'.toUInt8 ∈ host.map lowerNarrow ∨ '['.toUInt8 ∈ host.map lowerNarrow := by
        rcases hcolon huser with hat | hbracket
        · exact .inl ((mem_map_lower (by decide)).2 hat)
        · exact .inr (List.mem_map.2 ⟨_, hbracket, by decide⟩)
      rw [List.append_assoc, hostAfterScheme_user hout, hostAfterScheme_user hout]
    · refine hostAfterScheme_port (mt (mem_map_lower (by decide)).1 huser)
        (mt (mem_map_lower (by decide)).1 hslash) ?_
      intro c hc
      rw [List.head?_map, Option.mem_def, Option.map_eq_some_iff] at hc
      obtain ⟨c', hc', rfl⟩ := hc
      rcases hrest c' hc' with rfl | rfl | rfl <;> decide
  · rw [apiHostOfUrl_of_no_scheme, apiHostOfUrl_of_no_scheme]
    · rwa [hmap, kScheme_prefix_iff hs']
    · rwa [hmap, kScheme_prefix_iff hs']

lemma apiHostOfUrl_cases (url : List UInt8) :
    apiHostOfUrl url = [] ∨ isValidApiHost (apiHostOfUrl url) = true := by
  rw [apiHostOfUrl]
  split_ifs
  · exact .inl rfl
  · exact hostAfterScheme_cases _

lemma networkOf_api {official : Bool} {url operator : List UInt8} :
    ((networkOf official url operator).kind = .custom →
      isValidApiHost (networkOf official url operator).api = true) ∧
    ((networkOf official url operator).kind = .official →
      apiHostOfUrl url = narrow "api." ++ operator) := by
  unfold networkOf
  dsimp only
  split_ifs with hempty hofficial
  · exact ⟨by rintro ⟨⟩, by rintro ⟨⟩⟩
  · rw [Bool.and_eq_true, beq_iff_eq] at hofficial
    exact ⟨by rintro ⟨⟩, fun _ => hofficial.2⟩
  · refine ⟨fun _ => ?_, by rintro ⟨⟩⟩
    have hne : apiHostOfUrl url ≠ [] := fun heq => hempty (List.isEmpty_iff.2 heq)
    exact (apiHostOfUrl_cases url).resolve_left hne

end

/-- The approval names the server the client dials, in one spelling: `':443'` is put after a host
that holds no colon but those of a user or of an address in brackets. -/
theorem approval_names_the_server :
    (∀ host, isValidApiHost host = true ↔ IsApiHost host) ∧
    (∀ url, (apiHostOfUrl url = [] ∨ isValidApiHost (apiHostOfUrl url) = true) ∧
      apiHostOfUrl (narrow "https://" ++ apiHostOfUrl url) = apiHostOfUrl url) ∧
    (∀ url url', url'.map lowerNarrow = url.map lowerNarrow →
      apiHostOfUrl url' = apiHostOfUrl url) ∧
    (∀ url, url.getLast? ≠ some '/'.toUInt8 →
      apiHostOfUrl (url ++ ['/'.toUInt8]) = apiHostOfUrl url) ∧
    (∀ scheme host rest, '/'.toUInt8 ∉ scheme → '/'.toUInt8 ∉ host →
      (':'.toUInt8 ∈ host → '@'.toUInt8 ∈ host ∨ '['.toUInt8 ∈ host) →
      (∀ c ∈ rest.head?, c = '/'.toUInt8 ∨ c = '?'.toUInt8 ∨ c = '#'.toUInt8) →
      apiHostOfUrl (scheme ++ narrow "//" ++ (host ++ narrow ":443" ++ rest)) =
        apiHostOfUrl (scheme ++ narrow "//" ++ (host ++ rest))) ∧
    ∀ official url operator,
      ((networkOf official url operator).kind = .custom →
        isValidApiHost (networkOf official url operator).api = true) ∧
      ((networkOf official url operator).kind = .official →
        apiHostOfUrl url = narrow "api." ++ operator) := by
  refine ⟨fun _ => isValidApiHost_iff, fun url => ?_, fun url url' h => ?_,
    fun _ h => apiHostOfUrl_slash h, fun _ _ _ hs hslash hcolon hrest =>
      apiHostOfUrl_port hs hslash hcolon hrest, fun _ _ _ => networkOf_api⟩
  · refine ⟨apiHostOfUrl_cases url, ?_⟩
    rcases apiHostOfUrl_cases url with hnil | hvalid
    · rw [hnil]
      decide
    · have happend : (narrow "https://" ++ apiHostOfUrl url).map lowerNarrow =
          kScheme ++ apiHostOfUrl url := by
        rw [List.map_append, map_lower_of_valid hvalid]
        congr 1
      rw [apiHostOfUrl_of_append happend, hostAfterScheme_of_valid hvalid]
  · rw [apiHostOfUrl, apiHostOfUrl, h]

theorem approval_names_the_server_ported :
    apiHostOfUrl (narrow "HTTPS:" ++ narrow "//" ++ (narrow "Api.example.com" ++ narrow ":443" ++
        narrow "/")) =
      apiHostOfUrl (narrow "HTTPS:" ++ narrow "//" ++ (narrow "Api.example.com" ++ narrow "/")) ∧
    apiHostOfUrl (narrow "HTTPS://Api.example.com" ++ narrow "/") = narrow "api.example.com" :=
  ⟨approval_names_the_server.2.2.2.2.1 (narrow "HTTPS:") (narrow "Api.example.com") (narrow "/")
    (by decide) (by decide) (by decide) (by decide +kernel), by decide +kernel⟩

end UrnetworkWindows.SignIn
