/-
The link that opens the sign screen with a binding in it (`Top200Binding.h`: `ParseSignLink`).

Any page can fire one.  The binding is read as base64url, bit by bit, and its bytes have to be
UTF-8.  The decoder is held to the bits of the characters (`Decodes`), and the scan of the bytes
to the grammar (`isUtf8_iff`).  The main result, `binding_link_reads_back`, has the links that
are read from both sides: what the page writes, and what any page may fire.
-/
import UrnetworkWindows.Lib.Bits
import UrnetworkWindows.Lib.Utf8
import UrnetworkWindows.SignIn.Approval

namespace UrnetworkWindows.Top200

open Lib SignIn SignIn.Approval SignIn.AuthLink

/-- The longest encoded binding a link may carry. -/
def kMaxLinkBindingLength : ℕ := 4096

def kSignLinkPrefix : List UInt8 := narrow "urnetwork://top200/sign"

/-- What a link says. -/
structure Link where
  sign : Bool := false
  ok : Bool := false
  binding : List UInt8 := []
deriving DecidableEq, Repr

/-! ### Base64url -/

/-- The value of one character, if it is of the alphabet. -/
def base64UrlValue (c : UInt8) : Option UInt32 :=
  if 'A'.toUInt8 ≤ c ∧ c ≤ 'Z'.toUInt8 then some (c - 'A'.toUInt8).toUInt32
  else if 'a'.toUInt8 ≤ c ∧ c ≤ 'z'.toUInt8 then some ((c - 'a'.toUInt8).toUInt32 + 26)
  else if '0'.toUInt8 ≤ c ∧ c ≤ '9'.toUInt8 then some ((c - '0'.toUInt8).toUInt32 + 52)
  else if c = '-'.toUInt8 then some 62
  else if c = '_'.toUInt8 then some 63
  else none

/-- The decoder between two characters. -/
structure Decoder where
  bits : UInt32 := 0
  count : ℕ := 0
  out : List UInt8 := []

def Decoder.push (d : Decoder) (v : UInt32) : Decoder :=
  let bits := d.bits <<< 6 ||| v
  let count := d.count + 6
  if 8 ≤ count then
    { bits, count := count - 8
      out := d.out ++ [(bits >>> (count - 8).toUInt32 &&& 0xFF).toUInt8] }
  else { d with bits, count }

/-- The decoder after the characters, if each is of the alphabet. -/
def Decoder.read (d : Decoder) : List UInt8 → Option Decoder
  | [] => some d
  | c :: s =>
    match base64UrlValue c with
    | none => none
    | some v => (d.push v).read s

def decodeBase64Url (s : List UInt8) : Option (List UInt8) :=
  if s.length % 4 = 1 then none else (({} : Decoder).read s).map Decoder.out

/-! ### UTF-8 -/

/-- How many octets follow the first of a character past ASCII, and its bits. -/
def leadOctet (c : UInt8) : Option (ℕ × UInt32) :=
  if 0xC2 ≤ c ∧ c ≤ 0xDF then some (1, (c &&& 0x1F).toUInt32)
  else if 0xE0 ≤ c ∧ c ≤ 0xEF then some (2, (c &&& 0x0F).toUInt32)
  else if 0xF0 ≤ c ∧ c ≤ 0xF4 then some (3, (c &&& 0x07).toUInt32)
  else none

/-- The code point with the bits of the octets that follow, if each is a continuation. -/
def continued (cp : UInt32) : List UInt8 → Option UInt32
  | [] => some cp
  | d :: ds =>
    if d &&& 0xC0 ≠ 0x80 then none else continued (cp <<< 6 ||| (d &&& 0x3F).toUInt32) ds

/-- Overlong, past the last code point, or a surrogate. -/
def isRefused (extra : ℕ) (cp : UInt32) : Bool :=
  (extra == 2 && cp < 0x800) || (extra == 3 && cp < 0x10000) || 0x10FFFF < cp ||
    (0xD800 ≤ cp && cp ≤ 0xDFFF)

/-- What follows the character that begins with `c`. -/
def afterChar (c : UInt8) (s : List UInt8) : Option (List UInt8) :=
  if c < 0x80 then some s
  else
    match leadOctet c with
    | none => none
    | some (extra, bits) =>
      -- `i + extra >= s.size()`, of the octets after `c`
      if s.length < extra then none
      else
        match continued bits (s.take extra) with
        | none => none
        | some cp => if isRefused extra cp then none else some (s.drop extra)

lemma length_le_of_afterChar {c : UInt8} {s rest : List UInt8} (h : afterChar c s = some rest) :
    rest.length ≤ s.length := by
  rw [afterChar] at h
  split_ifs at h with hascii
  · cases h
    exact le_rfl
  · split at h
    · cases h
    · split_ifs at h
      split at h
      · cases h
      · split_ifs at h
        cases h
        rw [List.length_drop]
        exact Nat.sub_le ..

def isUtf8 : List UInt8 → Bool
  | [] => true
  | c :: s =>
    match _h : afterChar c s with
    | none => false
    | some rest => isUtf8 rest
termination_by s => s.length
decreasing_by exact Nat.lt_succ_of_le (length_le_of_afterChar ‹_›)

/-! ### The link -/

/-- The value of the part, if it is a pair named `binding`. -/
def bindingValue (part : List UInt8) : Option (List UInt8) :=
  match readPair '='.toUInt8 part with
  | none => none
  | some (name, value) => if name = narrow "binding" then some value else none

/-- The value named `binding`, of the parts of the query, if it comes no more than once. -/
def readEncoded : List (List UInt8) → Option (List UInt8) → Option (Option (List UInt8))
  | [], encoded => some encoded
  | part :: parts, encoded =>
    match bindingValue part with
    | none => readEncoded parts encoded
    | some value => if encoded.isSome then none else readEncoded parts (some value)

/-- The link once its query has been read. -/
def readBindingValue (encoded : List UInt8) : Link :=
  let link : Link := { sign := true }
  if encoded = [] ∨ kMaxLinkBindingLength < encoded.length then link
  else
    match decodeBase64Url encoded with
    | none => link
    | some decoded => if isUtf8 decoded then { link with ok := true, binding := decoded } else link

def parseSignLink (url : List UInt8) : Link :=
  if url.take kSignLinkPrefix.length ≠ kSignLinkPrefix then {}
  else
    let rest := url.drop kSignLinkPrefix.length
    let rest := if rest.head? = some '/'.toUInt8 then rest.tail else rest
    match rest with
    | [] => { sign := true }
    | c :: query =>
      if c ≠ '?'.toUInt8 then {}
      else
        match readEncoded (query.splitOn '&'.toUInt8) none with
        | some (some encoded) => readBindingValue encoded
        | _ => { sign := true }

/-! ### UTF-8 by the grammar -/

lemma toNat_continuation {d : UInt8} (h : Utf8.Tail d) : (d &&& 0x3F).toNat = d.toNat - 128 := by
  rw [Utf8.tail_iff] at h
  revert h
  exact forall_byte (p := fun d => 128 ≤ d.toNat ∧ d.toNat ≤ 191 →
    (d &&& 0x3F).toNat = d.toNat - 128) (by decide +kernel) d

lemma leadOctet_spec (c : UInt8) :
    (leadOctet c = none ∧ (c.toNat < 194 ∨ 244 < c.toNat)) ∨
    (∃ bits, leadOctet c = some (1, bits) ∧ 194 ≤ c.toNat ∧ c.toNat ≤ 223 ∧
      bits.toNat = c.toNat - 192) ∨
    (∃ bits, leadOctet c = some (2, bits) ∧ 224 ≤ c.toNat ∧ c.toNat ≤ 239 ∧
      bits.toNat = c.toNat - 224) ∨
    (∃ bits, leadOctet c = some (3, bits) ∧ 240 ≤ c.toNat ∧ c.toNat ≤ 244 ∧
      bits.toNat = c.toNat - 240) := by
  have hbits : ∀ c : UInt8,
      (194 ≤ c.toNat ∧ c.toNat ≤ 223 → (c &&& 0x1F).toUInt32.toNat = c.toNat - 192) ∧
      (224 ≤ c.toNat ∧ c.toNat ≤ 239 → (c &&& 0x0F).toUInt32.toNat = c.toNat - 224) ∧
      (240 ≤ c.toNat ∧ c.toNat ≤ 244 → (c &&& 0x07).toUInt32.toNat = c.toNat - 240) :=
    forall_byte (by decide +kernel)
  obtain ⟨htwo, hthree, hfour⟩ := hbits c
  rw [leadOctet]
  simp only [UInt8.le_iff_toNat_le, UInt8.reduceToNat]
  split_ifs with h2 h3 h4
  · exact .inr (.inl ⟨_, rfl, h2.1, h2.2, htwo h2⟩)
  · exact .inr (.inr (.inl ⟨_, rfl, h3.1, h3.2, hthree h3⟩))
  · exact .inr (.inr (.inr ⟨_, rfl, h4.1, h4.2, hfour h4⟩))
  · exact .inl ⟨rfl, by omega⟩

lemma toNat_continued {cp : UInt32} {d : UInt8} {n : ℕ} (hcp : cp.toNat = n) (hn : n < 2 ^ 26)
    (hd : Utf8.Tail d) :
    (cp <<< 6 ||| (d &&& 0x3F).toUInt32).toNat = n * 64 + (d.toNat - 128) := by
  have hlow : d.toNat - 128 < 2 ^ 6 := by
    have := Utf8.tail_iff.1 hd
    omega
  have hshift : (cp <<< 6).toNat = n <<< 6 := by
    have hmod : n * 2 ^ 6 % 2 ^ 32 = n * 2 ^ 6 := by omega
    rw [UInt32.toNat_shiftLeft, hcp, show (6 : UInt32).toNat % 32 = 6 from rfl, Nat.shiftLeft_eq,
      hmod]
  rw [UInt32.toNat_or, UInt8.toNat_toUInt32, toNat_continuation hd, hshift,
    ← Nat.shiftLeft_add_eq_or_of_lt hlow, Nat.shiftLeft_eq]

@[simp] lemma continued_nil (cp : UInt32) : continued cp [] = some cp := rfl

lemma exists_continued_cons {cp : UInt32} {d : UInt8} {ds : List UInt8} {p : UInt32 → Prop} :
    (∃ cp', continued cp (d :: ds) = some cp' ∧ p cp') ↔
      Utf8.Tail d ∧ ∃ cp', continued (cp <<< 6 ||| (d &&& 0x3F).toUInt32) ds = some cp' ∧
        p cp' := by
  rw [continued]
  split_ifs with hd
  · rw [ne_eq, Utf8.tail_iff_bits] at hd
    simp [hd]
  · rw [not_not, Utf8.tail_iff_bits] at hd
    simp [hd]

lemma isRefused_eq_false_iff {extra : ℕ} {cp : UInt32} : isRefused extra cp = false ↔
    (extra = 2 → 0x800 ≤ cp.toNat) ∧ (extra = 3 → 0x10000 ≤ cp.toNat) ∧ cp.toNat ≤ 0x10FFFF ∧
      (cp.toNat < 0xD800 ∨ 0xDFFF < cp.toNat) := by
  simp only [isRefused, Bool.or_eq_false_iff, Bool.and_eq_false_iff, beq_eq_false_iff_ne,
    decide_eq_false_iff_not, UInt32.lt_iff_toNat_lt, UInt32.le_iff_toNat_le, UInt32.reduceToNat]
  omega

/-- The octets that a first one asks for make a character of it just where the scan takes them. -/
lemma char_iff_continued {c : UInt8} {extra : ℕ} {bits : UInt32} {ds : List UInt8}
    (hlead : leadOctet c = some (extra, bits)) (hlen : ds.length = extra) :
    Utf8.Char (c :: ds) ↔ ∃ cp, continued bits ds = some cp ∧ isRefused extra cp = false := by
  rcases leadOctet_spec c with ⟨hnone, -⟩ | ⟨b, h, hlow, hhigh, hb⟩ | ⟨b, h, hlow, hhigh, hb⟩ |
    ⟨b, h, hlow, hhigh, hb⟩
  · rw [hnone] at hlead
    cases hlead
  · obtain ⟨rfl, rfl⟩ : 1 = extra ∧ b = bits := by simpa using h.symm.trans hlead
    obtain ⟨d, rfl⟩ := List.length_eq_one_iff.1 hlen
    rw [exists_continued_cons, Utf8.char_two_iff]
    simp only [continued_nil, Option.some.injEq, exists_eq_left', isRefused_eq_false_iff]
    refine ⟨fun ⟨_, _, hd⟩ => ⟨hd, ?_⟩, fun ⟨hd, _⟩ => ⟨hlow, hhigh, hd⟩⟩
    have := Utf8.tail_iff.1 hd
    rw [toNat_continued hb (by omega) hd]
    omega
  · obtain ⟨rfl, rfl⟩ : 2 = extra ∧ b = bits := by simpa using h.symm.trans hlead
    obtain ⟨d, e, rfl⟩ := List.length_eq_two.1 hlen
    rw [exists_continued_cons, exists_continued_cons, Utf8.char_three_iff]
    simp only [continued_nil, Option.some.injEq, exists_eq_left', isRefused_eq_false_iff]
    constructor
    · rintro ⟨-, -, hd, he, hE0, hED⟩
      refine ⟨hd, he, ?_⟩
      have hd' := Utf8.tail_iff.1 hd
      have he' := Utf8.tail_iff.1 he
      have hfirst := toNat_continued hb (by omega) hd
      rw [toNat_continued hfirst (by omega) he]
      omega
    · rintro ⟨hd, he, hlong, -, -, hsurrogate⟩
      have hd' := Utf8.tail_iff.1 hd
      have he' := Utf8.tail_iff.1 he
      have hfirst := toNat_continued hb (by omega) hd
      have hlong := hlong trivial
      rw [toNat_continued hfirst (by omega) he] at hlong hsurrogate
      refine ⟨hlow, hhigh, hd, he, ?_, ?_⟩ <;> omega
  · obtain ⟨rfl, rfl⟩ : 3 = extra ∧ b = bits := by simpa using h.symm.trans hlead
    obtain ⟨d, e, f, rfl⟩ := List.length_eq_three.1 hlen
    rw [exists_continued_cons, exists_continued_cons, exists_continued_cons, Utf8.char_four_iff]
    simp only [continued_nil, Option.some.injEq, exists_eq_left', isRefused_eq_false_iff]
    constructor
    · rintro ⟨-, -, hd, he, hf, hF0, hF4⟩
      refine ⟨hd, he, hf, ?_⟩
      have hd' := Utf8.tail_iff.1 hd
      have he' := Utf8.tail_iff.1 he
      have hf' := Utf8.tail_iff.1 hf
      have hfirst := toNat_continued hb (by omega) hd
      have hsecond := toNat_continued hfirst (by omega) he
      rw [toNat_continued hsecond (by omega) hf]
      omega
    · rintro ⟨hd, he, hf, -, hlong, hlast, -⟩
      have hd' := Utf8.tail_iff.1 hd
      have he' := Utf8.tail_iff.1 he
      have hf' := Utf8.tail_iff.1 hf
      have hfirst := toNat_continued hb (by omega) hd
      have hsecond := toNat_continued hfirst (by omega) he
      have hlong := hlong trivial
      rw [toNat_continued hsecond (by omega) hf] at hlong hlast
      refine ⟨hlow, hhigh, hd, he, hf, ?_, ?_⟩ <;> omega

lemma length_eq_of_leadOctet {c : UInt8} {extra : ℕ} {bits : UInt32} {ds : List UInt8}
    (hlead : leadOctet c = some (extra, bits)) (hchar : Utf8.Char (c :: ds)) :
    ds.length = extra := by
  have hlen := hchar.length_eq
  rcases leadOctet_spec c with ⟨h, -⟩ | ⟨b, h, hlow, hhigh, -⟩ | ⟨b, h, hlow, hhigh, -⟩ |
    ⟨b, h, hlow, hhigh, -⟩
  · rw [h] at hlead
    cases hlead
  all_goals
    obtain ⟨rfl, -⟩ : _ = extra ∧ b = bits := by simpa using h.symm.trans hlead
    split_ifs at hlen <;> omega

lemma afterChar_eq_some_iff {c : UInt8} {s rest : List UInt8} :
    afterChar c s = some rest ↔ ∃ ds, Utf8.Char (c :: ds) ∧ s = ds ++ rest := by
  rw [afterChar]
  split_ifs with hascii
  · simp only [UInt8.lt_iff_toNat_lt, UInt8.reduceToNat] at hascii
    constructor
    · intro h
      cases h
      exact ⟨[], Utf8.char_one_iff.2 (by omega), rfl⟩
    · rintro ⟨ds, hchar, rfl⟩
      have hlen := hchar.length_eq
      rw [if_pos hascii] at hlen
      rw [List.eq_nil_of_length_eq_zero hlen, List.nil_append]
  · simp only [UInt8.lt_iff_toNat_lt, UInt8.reduceToNat] at hascii
    rcases hlead : leadOctet c with _ | ⟨extra, bits⟩
    · refine ⟨nofun, ?_⟩
      rintro ⟨ds, hchar, -⟩
      have hfirst := hchar.first
      have hspec := leadOctet_spec c
      simp only [hlead, reduceCtorEq, false_and, exists_false, or_false, true_and] at hspec
      omega
    · dsimp only
      constructor
      · intro h
        split_ifs at h with hshort
        have hchar := char_iff_continued hlead (List.length_take_of_le (not_lt.1 hshort))
        split at h
        · cases h
        · next cp hcp =>
          split_ifs at h with hrefused
          cases h
          exact ⟨s.take extra, hchar.2 ⟨cp, hcp, by simpa using hrefused⟩,
            (List.take_append_drop ..).symm⟩
      · rintro ⟨ds, hchar, rfl⟩
        have hlen := length_eq_of_leadOctet hlead hchar
        obtain ⟨cp, hcp, hok⟩ := (char_iff_continued hlead hlen).1 hchar
        rw [if_neg (by rw [List.length_append]; omega), List.take_left' hlen, hcp]
        dsimp only
        rw [hok, if_neg Bool.false_ne_true, List.drop_left' hlen]

lemma isUtf8_iff (s : List UInt8) : isUtf8 s = true ↔ Utf8.Octets s := by
  fun_induction isUtf8 s with
  | case1 => exact iff_of_true rfl .nil
  | case2 c s h =>
    refine iff_of_false Bool.false_ne_true fun hall => ?_
    obtain ⟨ds, rest, hchar, rfl, -⟩ := Utf8.octets_cons_iff.1 hall
    rw [afterChar_eq_some_iff.2 ⟨ds, hchar, rfl⟩] at h
    cases h
  | case3 c s rest h ih =>
    obtain ⟨ds, hchar, rfl⟩ := afterChar_eq_some_iff.1 h
    rw [ih, ← List.cons_append, Utf8.octets_append_iff hchar]

/-! ### Base64url by its bits -/

/-- The six bits a character stands for: its place in the alphabet. -/
def sextet (c : UInt8) : ℕ := kAlphabet.idxOf c

def sextetBits (s : List UInt8) : List Bool := s.flatMap fun c => lowBits 6 (sextet c)

/-- The characters decode to the bytes: they have the same bits, but for fewer than eight spare
ones at the end. -/
def Decodes (s b : List UInt8) : Prop :=
  ∃ spare : List Bool, spare.length < 8 ∧ sextetBits s = octetBits b ++ spare

@[simp] lemma sextetBits_nil : sextetBits [] = [] := rfl

lemma sextetBits_cons (c : UInt8) (s : List UInt8) :
    sextetBits (c :: s) = lowBits 6 (sextet c) ++ sextetBits s := rfl

lemma sextetBits_snoc (s : List UInt8) (c : UInt8) :
    sextetBits (s ++ [c]) = sextetBits s ++ lowBits 6 (sextet c) := by
  rw [sextetBits, List.flatMap_append, List.flatMap_singleton]
  rfl

lemma Decodes.unique {s b b' : List UInt8} (h : Decodes s b) (h' : Decodes s b') : b = b' := by
  obtain ⟨spare, hspare, hbits⟩ := h
  obtain ⟨spare', hspare', hbits'⟩ := h'
  have heq := hbits.symm.trans hbits'
  have hlen := congrArg List.length heq
  rw [List.length_append, List.length_append, length_octetBits, length_octetBits] at hlen
  refine octetBits_inj (List.append_inj heq ?_).1
  rw [length_octetBits, length_octetBits]
  omega

lemma base64UrlValue_spec (c : UInt8) :
    base64UrlValue c = (if isBase64UrlChar c then some (sextet c).toUInt32 else none) ∧
      (isBase64UrlChar c = true → sextet c < 64) := by
  revert c
  exact forall_byte (by decide +kernel)

lemma base64UrlValue_eq (c : UInt8) :
    base64UrlValue c = if isBase64UrlChar c then some (sextet c).toUInt32 else none :=
  (base64UrlValue_spec c).1

lemma sextet_lt {c : UInt8} (h : isBase64UrlChar c) : sextet c < 64 := (base64UrlValue_spec c).2 h

/-- The decoder after the characters: what it has put out, and the bits it still holds. -/
structure Decoder.After (d : Decoder) (s : List UInt8) : Prop where
  count_lt : d.count < 8
  bits_eq : sextetBits s = octetBits d.out ++ lowBits d.count d.bits.toNat

lemma Decoder.After.push {d : Decoder} {s : List UInt8} {c : UInt8} (h : d.After s)
    (hc : isBase64UrlChar c) : (d.push (sextet c).toUInt32).After (s ++ [c]) := by
  obtain ⟨hcount, hbits⟩ := h
  have hv : sextet c < 2 ^ 6 := sextet_lt hc
  -- the shift drops bits past the word, and none of them is held
  have hheld : lowBits (d.count + 6) (d.bits <<< 6 ||| (sextet c).toUInt32).toNat =
      lowBits d.count d.bits.toNat ++ lowBits 6 (sextet c) := by
    have hword : (d.bits <<< 6 ||| (sextet c).toUInt32).toNat =
        (d.bits.toNat <<< 6 ||| sextet c) % 2 ^ 32 := by
      rw [UInt32.toNat_or, UInt32.toNat_shiftLeft, Nat.or_mod_two_pow]
      rfl
    rw [hword, lowBits_mod (by omega), lowBits_shiftLeft_or hv]
  have hall : sextetBits (s ++ [c]) = octetBits d.out ++
      lowBits (d.count + 6) (d.bits <<< 6 ||| (sextet c).toUInt32).toNat := by
    rw [sextetBits_snoc, hbits, hheld, List.append_assoc]
  rw [Decoder.push]
  generalize d.bits <<< 6 ||| (sextet c).toUInt32 = word at hall ⊢
  split_ifs with hfull
  · refine ⟨by dsimp only; omega, ?_⟩
    dsimp only
    have hcut : d.count + 6 = 8 + (d.count + 6 - 8) := by omega
    have hshift : (word >>> (d.count + 6 - 8).toUInt32 &&& 0xFF).toUInt8.toNat =
        (word.toNat >>> (d.count + 6 - 8)) % 2 ^ 8 := by
      have hamount : (d.count + 6 - 8).toUInt32.toNat % 32 = d.count + 6 - 8 := by
        rw [Nat.toUInt32_eq, UInt32.toNat_ofNat']
        omega
      rw [UInt32.toNat_toUInt8, UInt32.toNat_and, UInt32.toNat_shiftRight, hamount,
        show (0xFF : UInt32).toNat = 2 ^ 8 - 1 from rfl, Nat.and_two_pow_sub_one_eq_mod,
          Nat.mod_mod]
    rw [hall, octetBits_append, octetBits_cons, octetBits_nil, List.append_nil, hshift,
      lowBits_mod le_rfl, List.append_assoc, ← lowBits_add, ← hcut]
  · exact ⟨by dsimp only; omega, hall⟩

lemma Decoder.After.read {d : Decoder} {s : List UInt8} (h : d.After s) (t : List UInt8) :
    (t.all isBase64UrlChar = true ∧ ∃ d', d.read t = some d' ∧ d'.After (s ++ t)) ∨
    (t.all isBase64UrlChar = false ∧ d.read t = none) := by
  induction t generalizing d s with
  | nil => exact .inl ⟨rfl, d, rfl, by rwa [List.append_nil]⟩
  | cons c t ih =>
    rw [Decoder.read, base64UrlValue_eq, List.all_cons]
    by_cases hc : isBase64UrlChar c = true
    · rw [if_pos hc, hc, Bool.true_and]
      have := ih (h.push hc)
      rwa [List.append_assoc, List.singleton_append] at this
    · rw [if_neg hc, Bool.eq_false_iff.2 hc, Bool.false_and]
      exact .inr ⟨rfl, rfl⟩

lemma decodeBase64Url_eq_some_iff {s b : List UInt8} : decodeBase64Url s = some b ↔
    s.length % 4 ≠ 1 ∧ s.all isBase64UrlChar = true ∧ Decodes s b := by
  have hstart : ({} : Decoder).After [] := ⟨by decide, rfl⟩
  rw [decodeBase64Url]
  split_ifs with hlen
  · exact iff_of_false nofun fun h => h.1 hlen
  · rcases hstart.read s with ⟨hall, d, hread, hafter⟩ | ⟨hall, hread⟩
    · rw [hread, Option.map_some, Option.some.injEq]
      have hdecodes : Decodes s d.out :=
        ⟨_, (length_lowBits ..).trans_lt hafter.count_lt, hafter.bits_eq⟩
      constructor
      · rintro rfl
        exact ⟨hlen, hall, hdecodes⟩
      · exact fun h => hdecodes.unique h.2.2
    · rw [hread, Option.map_none]
      refine iff_of_false nofun fun h => ?_
      rw [hall] at h
      exact Bool.false_ne_true h.2.1

/-! ### What the page writes -/

lemma sextet_base64Char (chunk shift : UInt32) :
    sextet (base64Char chunk shift) = (chunk >>> shift &&& 63).toNat := by
  have htable : ∀ n : Fin 64, sextet (kAlphabet.getD n 0) = n := by decide +kernel
  have hlt : (chunk >>> shift &&& 63).toNat < 64 := by
    rw [UInt32.toNat_and]
    exact Nat.and_lt_two_pow (n := 6) _ (by decide)
  exact htable ⟨_, hlt⟩

lemma lowBits_sextet {chunk shift : UInt32} {k : ℕ} (h : shift.toNat = k) (hk : k < 32) :
    lowBits 6 (sextet (base64Char chunk shift)) = lowBits 6 (chunk.toNat >>> k) := by
  rw [sextet_base64Char, UInt32.toNat_and, UInt32.toNat_shiftRight, h, Nat.mod_eq_of_lt hk,
    show (63 : UInt32).toNat = 2 ^ 6 - 1 from rfl, Nat.and_two_pow_sub_one_eq_mod,
    lowBits_mod le_rfl]

lemma lowBits_chunk (a b c : UInt8) :
    lowBits 24 (a.toUInt32 <<< 16 ||| b.toUInt32 <<< 8 ||| c.toUInt32).toNat =
      lowBits 8 a.toNat ++ lowBits 8 b.toNat ++ lowBits 8 c.toNat := by
  have ha := a.toNat_lt
  have hb := b.toNat_lt
  have hword : (a.toUInt32 <<< 16 ||| b.toUInt32 <<< 8 ||| c.toUInt32).toNat =
      (a.toNat <<< 8 ||| b.toNat) <<< 8 ||| c.toNat := by
    have hfst : (a.toUInt32 <<< 16).toNat = a.toNat <<< 8 <<< 8 := by
      have hmod : a.toNat * 2 ^ 16 % 2 ^ 32 = a.toNat * 2 ^ 16 := by omega
      rw [UInt32.toNat_shiftLeft, UInt8.toNat_toUInt32, ← Nat.shiftLeft_add, Nat.shiftLeft_eq,
        Nat.shiftLeft_eq]
      exact hmod
    have hsnd : (b.toUInt32 <<< 8).toNat = b.toNat <<< 8 := by
      have hmod : b.toNat * 2 ^ 8 % 2 ^ 32 = b.toNat * 2 ^ 8 := by omega
      rw [UInt32.toNat_shiftLeft, UInt8.toNat_toUInt32, Nat.shiftLeft_eq, Nat.shiftLeft_eq]
      exact hmod
    rw [UInt32.toNat_or, UInt32.toNat_or, hfst, hsnd, UInt8.toNat_toUInt32,
      Nat.shiftLeft_or_distrib]
  rw [hword, show (24 : ℕ) = 8 + 8 + 8 from rfl, lowBits_shiftLeft_or c.toNat_lt,
    lowBits_shiftLeft_or b.toNat_lt]

lemma sextetBits_chunk {a b c : UInt8} {chunk : UInt32}
    (h : chunk = a.toUInt32 <<< 16 ||| b.toUInt32 <<< 8 ||| c.toUInt32) :
    sextetBits [base64Char chunk 18, base64Char chunk 12, base64Char chunk 6, base64Char chunk 0] =
      octetBits [a, b, c] := by
  have hcut : lowBits 24 chunk.toNat = lowBits 6 (chunk.toNat >>> 18) ++
      (lowBits 6 (chunk.toNat >>> 12) ++
        (lowBits 6 (chunk.toNat >>> 6) ++ lowBits 6 (chunk.toNat >>> 0))) := by
    rw [Nat.shiftRight_zero, ← lowBits_add, ← lowBits_add, ← lowBits_add]
  simp only [sextetBits_cons, sextetBits_nil, octetBits_cons, octetBits_nil, List.append_nil]
  rw [lowBits_sextet rfl (by decide), lowBits_sextet rfl (by decide),
    lowBits_sextet rfl (by decide), lowBits_sextet rfl (by decide)]
  refine hcut.symm.trans ?_
  rw [h, lowBits_chunk, List.append_assoc]

lemma decodes_base64Url (b : List UInt8) : Decodes (base64Url b) b := by
  fun_induction base64Url b with
  | case1 => exact ⟨[], by decide, rfl⟩
  | case2 a chunk =>
    -- the chunk of `a, 0, 0`, of which two characters are written
    have hchunk :
        chunk = a.toUInt32 <<< 16 ||| (0 : UInt8).toUInt32 <<< 8 ||| (0 : UInt8).toUInt32 := by
      rw [show (0 : UInt8).toUInt32 = 0 from rfl, UInt32.zero_shiftLeft, UInt32.or_zero,
        UInt32.or_zero]
    have hbits : sextetBits [base64Char chunk 18, base64Char chunk 12] ++
        sextetBits [base64Char chunk 6, base64Char chunk 0] =
          (octetBits [a] ++ lowBits 4 0) ++ lowBits 12 0 := sextetBits_chunk hchunk
    exact ⟨lowBits 4 0, by decide, (List.append_inj hbits rfl).1⟩
  | case3 a b chunk =>
    have hchunk : chunk = a.toUInt32 <<< 16 ||| b.toUInt32 <<< 8 ||| (0 : UInt8).toUInt32 := by
      rw [show (0 : UInt8).toUInt32 = 0 from rfl, UInt32.or_zero]
    have hbits : sextetBits [base64Char chunk 18, base64Char chunk 12, base64Char chunk 6] ++
        sextetBits [base64Char chunk 0] =
          (octetBits [a, b] ++ lowBits 2 0) ++ lowBits 6 0 := sextetBits_chunk hchunk
    exact ⟨lowBits 2 0, by decide, (List.append_inj hbits rfl).1⟩
  | case4 a b c data chunk ih =>
    obtain ⟨spare, hspare, hbits⟩ := ih
    refine ⟨spare, hspare, ?_⟩
    have hchunk : sextetBits [base64Char chunk 18, base64Char chunk 12, base64Char chunk 6,
        base64Char chunk 0] = octetBits [a, b, c] := sextetBits_chunk rfl
    calc _ = sextetBits [base64Char chunk 18, base64Char chunk 12, base64Char chunk 6,
          base64Char chunk 0] ++ sextetBits (base64Url data) := rfl
      _ = octetBits [a, b, c] ++ (octetBits data ++ spare) := by rw [hchunk, hbits]
      _ = octetBits (a :: b :: c :: data) ++ spare := by
        rw [← List.append_assoc]
        rfl

/-! ### The pairs of the link -/

/-- A pair named `binding`, with the value. -/
def bindingPair (value : List UInt8) : List UInt8 := writePair '='.toUInt8 (narrow "binding", value)

/-- A link of the sign screen, with the parts of its query. -/
def signUrl (slash : Bool) (parts : List (List UInt8)) : List UInt8 :=
  kSignLinkPrefix ++ ((if slash then ['/'.toUInt8] else []) ++
    '?'.toUInt8 :: ['&'.toUInt8].intercalate parts)

/-- A part of a query that is no pair named `binding`. -/
structure Beside (part : List UInt8) : Prop where
  plain : '&'.toUInt8 ∉ part
  ne_binding : ∀ value, part ≠ bindingPair value

/-- A link of the sign screen in which one pair is named `binding`, with the value. -/
structure NamesOnce (url value : List UInt8) (slash : Bool) (before after : List (List UInt8)) :
    Prop where
  beside : ∀ part ∈ before ++ after, Beside part
  plain : '&'.toUInt8 ∉ value
  url_eq : url = signUrl slash (before ++ bindingPair value :: after)

lemma bindingValue_eq_some_iff {part value : List UInt8} :
    bindingValue part = some value ↔ part = bindingPair value := by
  rw [bindingValue]
  constructor
  · intro h
    split at h
    · cases h
    · next name value' hread =>
      split_ifs at h with hname
      cases h
      rw [(readPair_eq_some hread).1, hname]
      rfl
  · rintro rfl
    have hname : narrow "binding" ≠ [] := by decide
    have heq : '='.toUInt8 ∉ narrow "binding" := by decide
    rw [bindingPair, readPair_writePair hname heq]
    rfl

lemma bindingValue_eq_none_iff {part : List UInt8} :
    bindingValue part = none ↔ ∀ value, part ≠ bindingPair value := by
  simp only [Option.eq_none_iff_forall_ne_some, ne_eq, bindingValue_eq_some_iff]

lemma readEncoded_some_iff {parts : List (List UInt8)} {seen value : List UInt8} :
    readEncoded parts (some seen) = some (some value) ↔
      seen = value ∧ ∀ part ∈ parts, bindingValue part = none := by
  induction parts with
  | nil => simp [readEncoded]
  | cons part parts ih =>
    rw [readEncoded, List.forall_mem_cons]
    cases hpart : bindingValue part with
    | none => simpa using ih
    | some v => simp

lemma readEncoded_none_iff {parts : List (List UInt8)} {value : List UInt8} :
    readEncoded parts none = some (some value) ↔
      ∃ before after, parts = before ++ bindingPair value :: after ∧
        ∀ part ∈ before ++ after, bindingValue part = none := by
  induction parts with
  | nil => simp [readEncoded]
  | cons part parts ih =>
    rw [readEncoded]
    cases hpart : bindingValue part with
    | none =>
      dsimp only
      rw [ih]
      constructor
      · rintro ⟨before, after, rfl, hall⟩
        exact ⟨part :: before, after, rfl, List.forall_mem_cons.2 ⟨hpart, hall⟩⟩
      · rintro ⟨_ | ⟨first, before⟩, after, heq, hall⟩
        · obtain ⟨rfl, -⟩ := List.cons.inj heq
          rw [bindingValue_eq_some_iff.2 rfl] at hpart
          cases hpart
        · obtain ⟨rfl, rfl⟩ := List.cons.inj heq
          exact ⟨before, after, rfl, (List.forall_mem_cons.1 hall).2⟩
    | some v =>
      dsimp only
      rw [Option.isSome_none, if_neg Bool.false_ne_true, readEncoded_some_iff]
      obtain rfl := bindingValue_eq_some_iff.1 hpart
      constructor
      · rintro ⟨rfl, hall⟩
        exact ⟨[], parts, rfl, hall⟩
      · rintro ⟨_ | ⟨first, before⟩, after, heq, hall⟩
        · obtain ⟨hfirst, rfl⟩ := List.cons.inj heq
          have hvalue := bindingValue_eq_some_iff.2 hfirst
          rw [hpart] at hvalue
          exact ⟨Option.some.inj hvalue, hall⟩
        · obtain ⟨rfl, rfl⟩ := List.cons.inj heq
          rw [(List.forall_mem_cons.1 hall).1] at hpart
          cases hpart

lemma readBindingValue_ok_iff {encoded b : List UInt8} :
    readBindingValue encoded = { sign := true, ok := true, binding := b } ↔
      encoded ≠ [] ∧ encoded.length ≤ kMaxLinkBindingLength ∧ decodeBase64Url encoded = some b ∧
        isUtf8 b = true := by
  rw [readBindingValue]
  split_ifs with hlen
  · refine iff_of_false (by simp) ?_
    rintro ⟨hne, hle, -⟩
    exact hlen.elim hne (not_lt.2 hle)
  · obtain ⟨hne, hle⟩ := not_or.1 hlen
    cases hdecode : decodeBase64Url encoded with
    | none => simp
    | some decoded =>
      dsimp only
      split_ifs with hutf
      · simp only [Link.mk.injEq, true_and, Option.some.injEq]
        exact ⟨fun h => ⟨hne, not_lt.1 hle, h, h ▸ hutf⟩, fun h => h.2.2.1⟩
      · refine iff_of_false (by simp) ?_
        rintro ⟨-, -, hb, hb'⟩
        exact hutf (Option.some.inj hb ▸ hb')

lemma plain_bindingPair {value : List UInt8} :
    '&'.toUInt8 ∉ bindingPair value ↔ '&'.toUInt8 ∉ value := by
  have hname : '&'.toUInt8 ∉ narrow "binding" := by decide
  have heq : '&'.toUInt8 ≠ '='.toUInt8 := by decide
  rw [bindingPair, mem_writePair]
  simp only [hname, heq, false_or]

lemma readBindingValue_eq_of_ok {encoded : List UInt8} (h : (readBindingValue encoded).ok = true) :
    readBindingValue encoded =
      { sign := true, ok := true, binding := (readBindingValue encoded).binding } := by
  rw [readBindingValue] at h ⊢
  split_ifs at h ⊢ with hlen
  cases hdecode : decodeBase64Url encoded with
  | none =>
    rw [hdecode] at h
    cases h
  | some decoded =>
    rw [hdecode] at h
    dsimp only at h ⊢
    split_ifs at h ⊢ with hutf
    rfl

lemma NamesOnce.parseSignLink_eq {url value : List UInt8} {slash : Bool}
    {before after : List (List UInt8)} (h : NamesOnce url value slash before after) :
    parseSignLink url = readBindingValue value := by
  obtain ⟨hbeside, hvalue, rfl⟩ := h
  have hread : readEncoded ((['&'.toUInt8].intercalate
      (before ++ bindingPair value :: after)).splitOn '&'.toUInt8) none = some (some value) := by
    rw [List.splitOn_intercalate _ _ (by simp), readEncoded_none_iff]
    · exact ⟨before, after, rfl, fun part hpart =>
        bindingValue_eq_none_iff.2 (hbeside part hpart).ne_binding⟩
    · intro part hpart
      rcases List.mem_append.1 hpart with hpart | hpart
      · exact (hbeside part (List.mem_append_left _ hpart)).plain
      · rcases List.mem_cons.1 hpart with rfl | hpart
        · exact plain_bindingPair.2 hvalue
        · exact (hbeside part (List.mem_append_right _ hpart)).plain
  have hmark : '?'.toUInt8 ≠ '/'.toUInt8 := by decide
  rw [parseSignLink, signUrl, List.take_left, if_neg (by simp), List.drop_left]
  cases slash <;> simp [hread, hmark]

lemma namesOnce_of_ok {url : List UInt8} (h : (parseSignLink url).ok = true) :
    ∃ value slash before after, NamesOnce url value slash before after := by
  rw [parseSignLink] at h
  split_ifs at h with hprefix
  rw [not_not] at hprefix
  have hurl : url = kSignLinkPrefix ++ url.drop kSignLinkPrefix.length := by
    conv_lhs => rw [← List.take_append_drop kSignLinkPrefix.length url, hprefix]
  generalize url.drop kSignLinkPrefix.length = rest at h hurl
  dsimp only at h
  split at h
  · cases h
  · next c query hrest =>
    split_ifs at h with hc
    obtain rfl := not_not.1 hc
    split at h
    · next value hread =>
      obtain ⟨before, after, hparts, hnone⟩ := readEncoded_none_iff.1 hread
      have hplain : ∀ part ∈ before ++ bindingPair value :: after, '&'.toUInt8 ∉ part := by
        intro part hpart
        exact not_mem_of_mem_splitOn (hparts ▸ hpart)
      have hquery : query = ['&'.toUInt8].intercalate (before ++ bindingPair value :: after) := by
        rw [← hparts, List.intercalate_splitOn]
      refine ⟨value, rest.head? = some '/'.toUInt8, before, after, ⟨?_, ?_, ?_⟩⟩
      · intro part hpart
        refine ⟨hplain part ?_, bindingValue_eq_none_iff.1 (hnone part hpart)⟩
        rw [List.mem_append, List.mem_cons]
        exact (List.mem_append.1 hpart).imp_right .inr
      · exact plain_bindingPair.1 (hplain _ (by simp))
      · rw [hurl, signUrl, ← hquery, ← hrest]
        cases rest with
        | nil => rfl
        | cons first rest =>
          by_cases hslash : first = '/'.toUInt8
          · simp [hslash]
          · simp [hslash]
    · cases h

/-- The binding that a link carries.  The scan of the decoded bytes takes just the grammar of
UTF-8; the link the page writes around a binding is read back, whatever else is in its query;
and a link that is read has one pair named `binding`, of which the binding is the decoding. -/
theorem binding_link_reads_back :
    (∀ s, isUtf8 s = true ↔ Utf8.Octets s) ∧
    (∀ (b url : List UInt8) (slash : Bool) (before after : List (List UInt8)),
      b ≠ [] → Utf8.Octets b → (base64Url b).length ≤ 4096 →
        NamesOnce url (base64Url b) slash before after →
          parseSignLink url = { sign := true, ok := true, binding := b }) ∧
    (∀ url, (parseSignLink url).ok = true →
      ∃ value slash before after, NamesOnce url value slash before after ∧
        2 ≤ value.length ∧ value.length ≤ 4096 ∧ value.all isBase64UrlChar = true ∧
        value.length % 4 ≠ 1 ∧ Decodes value (parseSignLink url).binding ∧
        Utf8.Octets (parseSignLink url).binding) := by
  refine ⟨isUtf8_iff, ?_, ?_⟩
  · intro b url slash before after hne hutf hlen hurl
    rw [hurl.parseSignLink_eq, readBindingValue_ok_iff, decodeBase64Url_eq_some_iff,
      length_base64Url, isUtf8_iff]
    have hpos : 0 < b.length := List.length_pos_of_ne_nil hne
    have hencoded := length_base64Url b
    refine ⟨?_, hencoded ▸ hlen, ⟨by omega, all_base64Url b, decodes_base64Url b⟩, hutf⟩
    intro hnil
    rw [hnil, List.length_nil] at hencoded
    omega
  · intro url hok
    obtain ⟨value, slash, before, after, hurl⟩ := namesOnce_of_ok hok
    rw [hurl.parseSignLink_eq] at hok ⊢
    obtain ⟨hne, hlen, hdecode, hutf⟩ := readBindingValue_ok_iff.1 (readBindingValue_eq_of_ok hok)
    obtain ⟨hmod, hchars, hdecodes⟩ := decodeBase64Url_eq_some_iff.1 hdecode
    have hpos : 0 < value.length := List.length_pos_of_ne_nil hne
    exact ⟨value, slash, before, after, hurl, by omega, hlen, hchars, hmod, hdecodes,
      (isUtf8_iff _).1 hutf⟩

/-- A link with the slash and with another pair behind. -/
theorem binding_link_reads_back_hi :
    parseSignLink (signUrl true ([] ++ bindingPair (base64Url (narrow "hi")) :: [narrow "v=1"])) =
      { sign := true, ok := true, binding := narrow "hi" } := by
  have hutf : Utf8.Octets ([104] ++ ([105] ++ [])) :=
    .cons (.ascii (by decide)) (.cons (.ascii (by decide)) .nil)
  have hother : Beside (narrow "v=1") := by
    refine ⟨by decide, fun value h => ?_⟩
    have hlen := congrArg List.length h
    have hlong : (bindingPair value).length = 7 + (value.length + 1) := List.length_append ..
    have hshort : (narrow "v=1").length = 3 := rfl
    omega
  refine binding_link_reads_back.2.1 _ _ true [] [narrow "v=1"] (by decide) hutf (by decide) ?_
  exact ⟨by simpa using hother, by decide, rfl⟩

end UrnetworkWindows.Top200
