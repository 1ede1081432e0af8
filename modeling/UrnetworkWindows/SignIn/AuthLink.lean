/-
The return of a sign-in approved in the browser, read strictly (`AuthLink.h`: `Parse`).

A link is refused with the first reason found, in the order the parser looks, and a refused
link carries no value.  Nothing is decoded.  The main result is the way back: the two
answers the page sends, spelled as it spells them, are read as what they are
(`parse_deniedUrl`, `parse_sealedUrl`).
-/
import UrnetworkWindows.Lib.Query
import UrnetworkWindows.Lib.Text

namespace UrnetworkWindows.SignIn.AuthLink

open Lib

/-- What differs between one version of the page's return and the next. -/
structure Contract where
  /-- Scheme and host, and nothing after them. -/
  urlPrefix : List UInt8
  /-- One slash between the host and the query. -/
  tolerateEmptyPath : Bool
  maxUrlBytes : ℕ
  maxValueBytes : ℕ
  maxPairs : ℕ

def kAuthPrefix : List UInt8 := narrow "urnetwork://auth"

def kApprovalV1 : Contract := ⟨kAuthPrefix, true, 4096, 2048, 6⟩

def kStateChars : ℕ := 43

def kDeniedValue : List UInt8 := narrow "access_denied"

inductive Kind
  | invalid
  | sealed
  | denied
deriving DecidableEq, Repr

/-- Why a link is invalid. -/
inductive Reject
  | none
  | notAuthHost
  | path
  | authority
  | delimiter
  | tooLong
  | control
  | unexpectedEscape
  | emptyPair
  | duplicate
  | unknownKey
  | mixedShapes
  | badState
  | badValue
  | badError
deriving DecidableEq, Repr

/-- A parsed link. -/
structure Return where
  kind : Kind := .invalid
  reject : Reject := .notAuthHost
  state : List UInt8 := []
  epk : List UInt8 := []
  nonce : List UInt8 := []
  data : List UInt8 := []
deriving DecidableEq, Repr

/-! ### Alphabets -/

def isBase64UrlChar (c : UInt8) : Bool :=
  ('A'.toUInt8 ≤ c && c ≤ 'Z'.toUInt8) || ('a'.toUInt8 ≤ c && c ≤ 'z'.toUInt8) ||
    ('0'.toUInt8 ≤ c && c ≤ '9'.toUInt8) || c == '-'.toUInt8 || c == '_'.toUInt8

/-- Bitcoin's alphabet: no 0, O, I or l. -/
def isBase58Char (c : UInt8) : Bool :=
  ('1'.toUInt8 ≤ c && c ≤ '9'.toUInt8) ||
    ('A'.toUInt8 ≤ c && c ≤ 'Z'.toUInt8 && c != 'I'.toUInt8 && c != 'O'.toUInt8) ||
    ('a'.toUInt8 ≤ c && c ≤ 'z'.toUInt8 && c != 'l'.toUInt8)

def isBase58 (value : List UInt8) (maxBytes : ℕ) : Bool :=
  !(value.isEmpty || maxBytes < value.length) && value.all isBase58Char

/-! ### The parser -/

/-- The pairs, as written. -/
def readPairs (c : Contract) :
    List (List UInt8) → ℕ → Except Reject (List (List UInt8 × List UInt8))
  | [], _ => .ok []
  | part :: parts, count =>
    match readPair '='.toUInt8 part with
    | none => .error .emptyPair
    | some pair =>
      if c.maxPairs < count + 1 then .error .tooLong
      else do
        let pairs ← readPairs c parts (count + 1)
        return pair :: pairs

/-- The values read so far: `has..` and what it stands for. -/
structure Fields where
  state : Option (List UInt8) := none
  epk : Option (List UInt8) := none
  nonce : Option (List UInt8) := none
  data : Option (List UInt8) := none
  error : Option (List UInt8) := none

/-- One value, under a key that may have come before. -/
def readValue (c : Contract) (seen : Option (List UInt8)) (value : List UInt8) :
    Except Reject (Option (List UInt8)) :=
  if seen.isSome then .error .duplicate
  else if c.maxValueBytes < value.length then .error .tooLong
  else .ok (some value)

def Fields.read (c : Contract) (f : Fields) (pair : List UInt8 × List UInt8) :
    Except Reject Fields := do
  let (key, value) := pair
  if key = narrow "state" then
    let state ← readValue c f.state value
    return { f with state }
  else if key = narrow "epk" then
    let epk ← readValue c f.epk value
    return { f with epk }
  else if key = narrow "n" then
    let nonce ← readValue c f.nonce value
    return { f with nonce }
  else if key = narrow "d" then
    let data ← readValue c f.data value
    return { f with data }
  else if key = narrow "error" then
    let error ← readValue c f.error value
    return { f with error }
  else .error .unknownKey

/-- The two shapes, and no others. -/
def Fields.judge (c : Contract) (f : Fields) : Except Reject Return :=
  match f.state with
  | none => .error .mixedShapes
  | some state =>
    if state.length ≠ kStateChars then .error .badState
    else if !state.all isBase64UrlChar then .error .badState
    else
      match f.epk, f.nonce, f.data, f.error with
      | some epk, some nonce, some data, none =>
        if !isBase58 epk 64 || !isBase58 nonce 64 || !isBase58 data c.maxValueBytes then
          .error .badValue
        else .ok { kind := .sealed, reject := .none, state, epk, nonce, data }
      | none, none, none, some error =>
        if error ≠ kDeniedValue then .error .badError
        else .ok { kind := .denied, reject := .none, state }
      | _, _, _, _ => .error .mixedShapes

/-- What follows the question mark. -/
def readQuery (c : Contract) (query : List UInt8) : Except Reject Return := do
  if '#'.toUInt8 ∈ query ∨ '?'.toUInt8 ∈ query then throw .delimiter
  let pairs ← readPairs c (query.splitOn '&'.toUInt8) 0
  let fields ← pairs.foldlM (Fields.read c) {}
  fields.judge c

/-- What follows the host. -/
def readRest (c : Contract) (rest : List UInt8) : Except Reject Return :=
  let strippedSlash := c.tolerateEmptyPath && rest.head? == some '/'.toUInt8
  match if strippedSlash then rest.tail else rest with
  | [] => .error .emptyPair
  | first :: query =>
    if first = '?'.toUInt8 then readQuery c query
    else if first = '#'.toUInt8 then .error .delimiter
    else if strippedSlash ∨ first = '/'.toUInt8 then .error .path
    else if first = ':'.toUInt8 ∨ first = '@'.toUInt8 then .error .authority
    else .error .notAuthHost

def readUrl (c : Contract) (url : List UInt8) : Except Reject Return :=
  if c.maxUrlBytes < url.length then .error .tooLong
  else if url.any fun byte => byte ≤ 0x20 || 0x7F ≤ byte then .error .control
  else if url.take c.urlPrefix.length ≠ c.urlPrefix then .error .notAuthHost
  else if '%'.toUInt8 ∈ url then .error .unexpectedEscape
  else readRest c (url.drop c.urlPrefix.length)

/-- `Parse`. -/
def parse (url : List UInt8) (c : Contract) : Return :=
  match readUrl c url with
  | .ok link => link
  | .error why => { reject := why }

/-! ### The way back -/

lemma isBase64UrlChar_of_isBase58Char {c : UInt8} (h : isBase58Char c) : isBase64UrlChar c := by
  simp [isBase58Char, isBase64UrlChar, Char.toUInt8, UInt8.le_iff_toNat_le,
    ← UInt8.toNat_inj] at h ⊢
  omega

lemma range_of_isBase64UrlChar {c : UInt8} (h : isBase64UrlChar c) :
    45 ≤ c.toNat ∧ c.toNat ≤ 122 ∧ c.toNat ≠ 61 ∧ c.toNat ≠ 63 := by
  simp [isBase64UrlChar, Char.toUInt8, UInt8.le_iff_toNat_le, ← UInt8.toNat_inj] at h
  omega

set_option maxRecDepth 2048 in
lemma range_of_mem_kAuthPrefix : ∀ b ∈ kAuthPrefix, 37 < b.toNat ∧ b.toNat ≤ 122 := by
  decide

abbrev query (ps : List (List UInt8 × List UInt8)) : List UInt8 :=
  writeQuery '&'.toUInt8 '='.toUInt8 ps

/-- Pairs of keys and values in the alphabet, as the page sends them. -/
def Plain (ps : List (List UInt8 × List UInt8)) : Prop :=
  ∀ p ∈ ps, p.1 ≠ [] ∧ p.1.all isBase64UrlChar ∧ p.2.all isBase64UrlChar

namespace Plain

variable {c : Contract} {ps : List (List UInt8 × List UInt8)}

lemma not_mem_key (h : Plain ps) {p : List UInt8 × List UInt8} (hp : p ∈ ps) :
    '='.toUInt8 ∉ p.1 := by
  intro hmem
  have hrange := range_of_isBase64UrlChar (List.all_eq_true.1 (h p hp).2.1 _ hmem)
  exact hrange.2.2.1 rfl

lemma mem_pair (h : Plain ps) {p : List UInt8 × List UInt8} (hp : p ∈ ps) {b : UInt8}
    (hb : b ∈ writePair '='.toUInt8 p) : b.toNat = 61 ∨ isBase64UrlChar b := by
  rcases mem_writePair.1 hb with hb | rfl | hb
  · exact .inr (List.all_eq_true.1 (h p hp).2.1 b hb)
  · exact .inl rfl
  · exact .inr (List.all_eq_true.1 (h p hp).2.2 b hb)

/-- What a query is written with holds no delimiter of the link, and nothing that the
parser would decode. -/
lemma range_of_mem (h : Plain ps) {b : UInt8} (hb : b ∈ query ps) :
    37 < b.toNat ∧ b.toNat ≤ 122 ∧ b.toNat ≠ 63 := by
  rcases mem_writeQuery hb with rfl | ⟨p, hp, hb⟩
  · decide
  · rcases h.mem_pair hp hb with hb | hb
    · omega
    · have hrange := range_of_isBase64UrlChar hb
      omega

lemma readPairs_eq (h : Plain ps) : ∀ count, count + ps.length ≤ c.maxPairs →
    readPairs c (ps.map (writePair '='.toUInt8)) count = .ok ps := by
  induction ps with
  | nil => intro _ _; rfl
  | cons p ps ih =>
    intro count hcount
    have hpair := readPair_writePair (h p (by simp)).1 (h.not_mem_key (p := p) (by simp))
    have hrest : Plain ps := fun q hq => h q (List.mem_cons_of_mem _ hq)
    rw [List.length_cons] at hcount
    rw [List.map_cons, readPairs, hpair]
    simp only [ih hrest (count + 1) (by omega)]
    rw [if_neg (by omega)]
    rfl

lemma readQuery_eq (h : Plain ps) (hne : ps ≠ []) (hcount : ps.length ≤ c.maxPairs) :
    readQuery c (query ps) = (ps.foldlM (Fields.read c) {}).bind (Fields.judge c) := by
  have hdelim : ¬ ('#'.toUInt8 ∈ query ps ∨ '?'.toUInt8 ∈ query ps) := by
    rintro (hmem | hmem)
    · exact absurd (h.range_of_mem hmem).1 (by decide)
    · exact (h.range_of_mem hmem).2.2 rfl
  have hsplit : (query ps).splitOn '&'.toUInt8 = ps.map (writePair '='.toUInt8) := by
    refine splitOn_writeQuery hne fun p hp hmem => ?_
    rcases h.mem_pair hp hmem with heq | hchar
    · exact absurd heq (by decide)
    · exact absurd (range_of_isBase64UrlChar hchar).1 (by decide)
  rw [readQuery, if_neg hdelim, hsplit, h.readPairs_eq 0 (by omega)]
  rfl

/-- A link to the auth host that carries the pairs, and is not too long, is read as they
are. -/
lemma parse_eq (h : Plain ps) (hne : ps ≠ []) (hcount : ps.length ≤ 6)
    (hlen : (query ps).length ≤ 4000) {link : Return}
    (hread : (ps.foldlM (Fields.read kApprovalV1) {}).bind (Fields.judge kApprovalV1) = .ok link) :
    parse (kAuthPrefix ++ '?'.toUInt8 :: query ps) kApprovalV1 = link := by
  have hlength : (kAuthPrefix ++ '?'.toUInt8 :: query ps).length = 17 + (query ps).length := by
    rw [List.length_append, List.length_cons, show kAuthPrefix.length = 16 from rfl]
    omega
  -- every byte of the link is printable, and none is a percent sign
  have hrange : ∀ b ∈ kAuthPrefix ++ '?'.toUInt8 :: query ps,
      37 < b.toNat ∧ b.toNat ≤ 122 := by
    intro b hb
    rw [List.mem_append, List.mem_cons] at hb
    rcases hb with hb | rfl | hb
    · exact range_of_mem_kAuthPrefix b hb
    · decide
    · exact ⟨(h.range_of_mem hb).1, (h.range_of_mem hb).2.1⟩
  have hcontrol : ¬ ((kAuthPrefix ++ '?'.toUInt8 :: query ps).any
      fun byte => byte ≤ 0x20 || 0x7F ≤ byte) = true := by
    intro hany
    obtain ⟨b, hb, hbad⟩ := List.any_eq_true.1 hany
    have hb := hrange b hb
    simp [UInt8.le_iff_toNat_le] at hbad
    omega
  have hescape : '%'.toUInt8 ∉ kAuthPrefix ++ '?'.toUInt8 :: query ps := by
    intro hmem
    exact absurd (hrange _ hmem).1 (by decide)
  have hshort : ¬ kApprovalV1.maxUrlBytes < (kAuthPrefix ++ '?'.toUInt8 :: query ps).length := by
    rw [hlength, show kApprovalV1.maxUrlBytes = 4096 from rfl]
    omega
  have hurl : readUrl kApprovalV1 (kAuthPrefix ++ '?'.toUInt8 :: query ps) = .ok link := by
    rw [readUrl, if_neg hshort, if_neg hcontrol, show kApprovalV1.urlPrefix = kAuthPrefix from rfl,
      List.take_left, if_neg (not_not_intro rfl), if_neg hescape, List.drop_left, ← hread,
      ← h.readQuery_eq (c := kApprovalV1) hne hcount]
    rfl
  rw [parse, hurl]

end Plain

/-! ### The answers of the page -/

/-- `urnetwork://auth?state=<s>&error=access_denied`. -/
def deniedUrl (state : List UInt8) : List UInt8 :=
  narrow "urnetwork://auth?state=" ++ state ++ narrow "&error=access_denied"

/-- `urnetwork://auth?state=<s>&epk=<k>&n=<n>&d=<d>`. -/
def sealedUrl (state epk nonce data : List UInt8) : List UInt8 :=
  narrow "urnetwork://auth?state=" ++ state ++ narrow "&epk=" ++ epk ++ narrow "&n=" ++ nonce ++
    narrow "&d=" ++ data

/-- A state as the app draws it. -/
structure IsState (state : List UInt8) : Prop where
  length_eq : state.length = kStateChars
  chars : state.all isBase64UrlChar

lemma deniedUrl_eq (state : List UInt8) :
    deniedUrl state = kAuthPrefix ++ '?'.toUInt8 ::
      query [(narrow "state", state), (narrow "error", kDeniedValue)] := by
  simp [deniedUrl, query, writeQuery, writePair, narrow, kAuthPrefix, kDeniedValue]

lemma sealedUrl_eq (state epk nonce data : List UInt8) :
    sealedUrl state epk nonce data = kAuthPrefix ++ '?'.toUInt8 ::
      query [(narrow "state", state), (narrow "epk", epk), (narrow "n", nonce),
        (narrow "d", data)] := by
  simp [sealedUrl, query, writeQuery, writePair, narrow, kAuthPrefix]

lemma plain_cons {key value : List UInt8} {ps : List (List UInt8 × List UInt8)}
    (hkey : key ≠ [] ∧ key.all isBase64UrlChar) (hval : value.all isBase64UrlChar)
    (h : Plain ps) : Plain ((key, value) :: ps) := by
  intro p hp
  rcases List.mem_cons.1 hp with rfl | hp
  · exact ⟨hkey.1, hkey.2, hval⟩
  · exact h p hp

lemma plain_nil : Plain [] := fun p hp => absurd hp (by simp)

lemma readValue_none {c : Contract} {value : List UInt8} (h : value.length ≤ c.maxValueBytes) :
    readValue c none value = .ok (some value) := by
  rw [readValue, if_neg (by simp), if_neg (by omega)]

lemma all_of_isBase58 {value : List UInt8} {n : ℕ} (h : isBase58 value n) :
    value.length ≤ n ∧ value.all isBase64UrlChar := by
  rw [isBase58, Bool.and_eq_true, List.all_eq_true] at h
  obtain ⟨hlen, hall⟩ := h
  constructor
  · by_contra hgt
    simp [show n < value.length by omega] at hlen
  · rw [List.all_eq_true]
    exact fun b hb => isBase64UrlChar_of_isBase58Char (hall b hb)

lemma read_state {c : Contract} {state : List UInt8} (h : state.length ≤ c.maxValueBytes) :
    Fields.read c {} (narrow "state", state) = .ok { state := some state } := by
  rw [Fields.read]
  simp [readValue_none h]

theorem parse_deniedUrl {state : List UInt8} (h : IsState state) :
    parse (deniedUrl state) kApprovalV1 = { kind := .denied, reject := .none, state } := by
  rw [deniedUrl_eq]
  have hplain : Plain [(narrow "state", state), (narrow "error", kDeniedValue)] :=
    plain_cons (by decide) h.chars (plain_cons (by decide) (by decide) plain_nil)
  have hlen : state.length = 43 := h.length_eq
  have hread : [(narrow "state", state), (narrow "error", kDeniedValue)].foldlM
      (Fields.read kApprovalV1) {} = .ok { state := some state, error := some kDeniedValue } := by
    rw [List.foldlM_cons, read_state (by rw [hlen]; decide)]
    rfl
  refine hplain.parse_eq (by simp) (by simp) ?_ ?_
  · simp [query, writeQuery, writePair, narrow, kDeniedValue, hlen]
  · rw [hread]
    simp [Except.bind, Fields.judge, h.length_eq, h.chars]

theorem parse_sealedUrl {state epk nonce data : List UInt8} (h : IsState state)
    (hepk : isBase58 epk 64) (hnonce : isBase58 nonce 64) (hdata : isBase58 data 2048) :
    parse (sealedUrl state epk nonce data) kApprovalV1 =
      { kind := .sealed, reject := .none, state, epk, nonce, data } := by
  rw [sealedUrl_eq]
  obtain ⟨hepkLen, hepkAll⟩ := all_of_isBase58 hepk
  obtain ⟨hnonceLen, hnonceAll⟩ := all_of_isBase58 hnonce
  obtain ⟨hdataLen, hdataAll⟩ := all_of_isBase58 hdata
  have hlen : state.length = 43 := h.length_eq
  have hplain : Plain [(narrow "state", state), (narrow "epk", epk), (narrow "n", nonce),
      (narrow "d", data)] :=
    plain_cons (by decide) h.chars (plain_cons (by decide) hepkAll
      (plain_cons (by decide) hnonceAll (plain_cons (by decide) hdataAll plain_nil)))
  have hread : [(narrow "state", state), (narrow "epk", epk), (narrow "n", nonce),
      (narrow "d", data)].foldlM (Fields.read kApprovalV1) {} =
        .ok { state := some state, epk := some epk, nonce := some nonce, data := some data } := by
    have hval {v : List UInt8} (hle : v.length ≤ 2048) :
        readValue kApprovalV1 none v = .ok (some v) := readValue_none hle
    have hsecond : Fields.read kApprovalV1 { state := some state } (narrow "epk", epk) =
        .ok { state := some state, epk := some epk } := by
      simp [Fields.read, narrow, hval (v := epk) (by omega)]
    have hthird : Fields.read kApprovalV1 { state := some state, epk := some epk }
        (narrow "n", nonce) =
          .ok { state := some state, epk := some epk, nonce := some nonce } := by
      simp [Fields.read, narrow, hval (v := nonce) (by omega)]
    have hfourth : Fields.read kApprovalV1
        { state := some state, epk := some epk, nonce := some nonce } (narrow "d", data) =
          .ok { state := some state, epk := some epk, nonce := some nonce,
                data := some data } := by
      simp [Fields.read, narrow, Char.toUInt8, hval hdataLen]
    rw [List.foldlM_cons, read_state (by rw [hlen]; decide)]
    show List.foldlM _ _ _ = _
    rw [List.foldlM_cons, hsecond]
    show List.foldlM _ _ _ = _
    rw [List.foldlM_cons, hthird]
    show List.foldlM _ _ _ = _
    rw [List.foldlM_cons, hfourth]
    rfl
  refine hplain.parse_eq (by simp) (by simp) ?_ ?_
  · simp [query, writeQuery, writePair, narrow, hlen]
    omega
  · rw [hread]
    simp [Except.bind, Fields.judge, h.length_eq, h.chars, hepk, hnonce, hdata, kApprovalV1]

end UrnetworkWindows.SignIn.AuthLink
