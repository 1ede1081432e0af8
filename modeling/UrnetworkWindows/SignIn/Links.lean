/-
Where a link begins in a text, and what becomes of one.

A spelling of the scheme is nine letters and a colon.  A place where none begins stays one
whatever the text goes on with, short of the next nine units; what `RedactUrl` writes has no
`u` outside the scheme and the host, so no link begins there.
-/
import UrnetworkWindows.SignIn.Redact

namespace UrnetworkWindows.SignIn.Redact

open Lib

/-! ### Schemes -/

/-- A spelling of the scheme, without its colon. -/
def IsScheme (s : Text) : Prop := s.map lower = units "urnetwork"

lemma letter_of_lower {c : ℕ} (h : 97 ≤ lower c ∧ lower c ≤ 122) :
    65 ≤ c ∧ c ≤ 90 ∨ 97 ≤ c ∧ c ≤ 122 := by
  rw [lower] at h
  split at h <;> omega

lemma lower_eq_colon {c : ℕ} (h : lower c = 58) : c = 58 := by
  rw [lower] at h
  split at h <;> omega

namespace IsScheme

variable {s : Text}

lemma length_eq (h : IsScheme s) : s.length = 9 := by
  have hlen := congrArg List.length h
  rw [List.length_map] at hlen
  exact hlen

lemma take_append (h : IsScheme s) (t : Text) : (s ++ t).take 9 = s := by
  rw [← h.length_eq, List.take_left]

lemma drop_append (h : IsScheme s) (t : Text) : (s ++ t).drop 9 = t := by
  rw [← h.length_eq, List.drop_left]

lemma drop_ten (h : IsScheme s) (t : Text) : (s ++ 58 :: t).drop 10 = t := by
  rw [show 10 = 9 + 1 from rfl, ← List.drop_drop, h.drop_append]
  rfl

lemma letter (h : IsScheme s) {c : ℕ} (hc : c ∈ s) : 65 ≤ c ∧ c ≤ 90 ∨ 97 ≤ c ∧ c ≤ 122 := by
  have hall : ∀ k ∈ units "urnetwork", 97 ≤ k ∧ k ≤ 122 := by decide
  refine letter_of_lower (hall _ ?_)
  rw [← h]
  exact List.mem_map_of_mem hc

lemma plain (h : IsScheme s) {c : ℕ} (hc : c ∈ s) : isPlain c = true := by
  rcases h.letter hc with ⟨hlo, hhi⟩ | ⟨hlo, hhi⟩ <;> simp [isPlain, hlo, hhi]

lemma exists_cons (h : IsScheme s) : ∃ c cs, s = c :: cs ∧ lower c = 117 := by
  cases s with
  | nil => exact absurd h.length_eq (by simp)
  | cons c cs =>
    refine ⟨c, cs, rfl, ?_⟩
    have hmap : lower c :: cs.map lower = 117 :: units "rnetwork" := h
    exact (List.cons.inj hmap).1

end IsScheme

lemma exists_of_slashes {b : Text} (h : b.take 2 = [47, 47]) : ∃ r, b = 47 :: 47 :: r := by
  refine ⟨b.drop 2, ?_⟩
  rw [← List.take_append_drop 2 b, h]
  rfl

/-- A link begins here. -/
abbrev Starts (t : Text) : Prop := startsIgnoringCase kScheme t = true

lemma starts_iff {t : Text} : Starts t ↔ ∃ s rest, t = s ++ 58 :: rest ∧ IsScheme s := by
  rw [Starts, startsIgnoringCase, equalsLower, decide_eq_true_eq]
  constructor
  · intro h
    have hsplit : (t.take 10).map lower = units "urnetwork" ++ [58] := h
    obtain ⟨s, e, hse, hs, he⟩ := List.map_eq_append_iff.1 hsplit
    obtain ⟨c, rfl, hc⟩ := List.map_eq_singleton_iff.1 he
    obtain rfl := lower_eq_colon hc
    refine ⟨s, t.drop 10, ?_, hs⟩
    calc t = t.take 10 ++ t.drop 10 := (List.take_append_drop 10 t).symm
      _ = s ++ 58 :: t.drop 10 := by rw [hse, List.append_assoc, List.singleton_append]
  · rintro ⟨s, rest, rfl, hs⟩
    have htake : (s ++ 58 :: rest).take 10 = s ++ [58] := by
      rw [List.take_append, hs.length_eq, List.take_of_length_le (by rw [hs.length_eq]; omega)]
      rfl
    show ((s ++ 58 :: rest).take 10).map lower = kScheme
    rw [htake, List.map_append, show s.map lower = units "urnetwork" from hs]
    rfl

lemma Starts.cases {t : Text} (h : Starts t) : ∃ s, IsScheme s ∧
    ((∃ r, t = s ++ 58 :: 47 :: 47 :: r) ∨ ∃ b, t = s ++ 58 :: b ∧ b.take 2 ≠ [47, 47]) := by
  obtain ⟨s, b, rfl, hs⟩ := starts_iff.1 h
  refine ⟨s, hs, ?_⟩
  by_cases hb : b.take 2 = [47, 47]
  · obtain ⟨r, rfl⟩ := exists_of_slashes hb
    exact .inl ⟨r, rfl⟩
  · exact .inr ⟨b, rfl, hb⟩

lemma starts_congr {t t' : Text} (h : t.take 10 = t'.take 10) : Starts t ↔ Starts t' := by
  rw [Starts, Starts, startsIgnoringCase, startsIgnoringCase, show kScheme.length = 10 from rfl, h]

lemma not_starts_cons {c : ℕ} {t : Text} (h : lower c ≠ 117) : ¬ Starts (c :: t) := by
  rw [starts_iff]
  rintro ⟨s, rest, heq, hs⟩
  obtain ⟨c', cs, rfl, hc'⟩ := hs.exists_cons
  obtain ⟨rfl, -⟩ := List.cons.inj heq
  exact h hc'

/-! ### Passing over what is no link -/

/-- No link begins within `w`, followed by `t`. -/
def Quiet (w t : Text) : Prop := ∀ i < w.length, ¬ Starts ((w ++ t).drop i)

namespace Quiet

variable {w w' t t' : Text}

lemma append (h : Quiet w (w' ++ t)) (h' : Quiet w' t) : Quiet (w ++ w') t := by
  intro i hi
  rw [List.append_assoc]
  by_cases hlt : i < w.length
  · exact h i hlt
  · rw [List.drop_append, List.drop_of_length_le (by omega), List.nil_append]
    rw [List.length_append] at hi
    exact h' (i - w.length) (by omega)

lemma congr (h : Quiet w t) (ht : t.take 9 = t'.take 9) : Quiet w t' := by
  intro i hi
  refine fun hstarts => h i hi ((starts_congr ?_).1 hstarts)
  rw [List.drop_append, List.drop_append, show i - w.length = 0 by omega, List.drop_zero,
    List.drop_zero, List.take_append, List.take_append]
  congr 1
  have hlen : (w.drop i).length = w.length - i := List.length_drop
  have hmin : 10 - (w.drop i).length ≤ 9 := by omega
  have h₁ := congrArg (List.take (10 - (w.drop i).length)) ht
  rwa [List.take_take, List.take_take, Nat.min_eq_left hmin, eq_comm] at h₁

lemma bracket (h : Quiet w t) : Quiet w (91 :: t') := by
  intro i hi hstarts
  obtain ⟨s, rest, heq, hs⟩ := starts_iff.1 hstarts
  rw [List.drop_append, show i - w.length = 0 by omega, List.drop_zero] at heq
  rcases List.append_eq_append_iff.1 heq with ⟨a, hsa, ha⟩ | ⟨a, hwa, ha⟩
  · -- the bracket would be one of the scheme's letters, or its colon
    cases a with
    | nil => exact absurd (List.cons.inj ha).1 (by decide)
    | cons c a =>
      obtain ⟨rfl, -⟩ := List.cons.inj ha
      have hletter := hs.letter (c := 91) (by simp [hsa])
      omega
  · cases a with
    | nil => exact absurd (List.cons.inj ha).1 (by decide)
    | cons c a =>
      -- the link begins and ends within `w`, whatever follows it
      obtain ⟨rfl, -⟩ := List.cons.inj ha
      refine h i hi (starts_iff.2 ⟨s, a ++ t, ?_, hs⟩)
      rw [List.drop_append, show i - w.length = 0 by omega, List.drop_zero, hwa]
      simp

lemma of_lower (h : ∀ c ∈ w, lower c ≠ 117) : Quiet w t := by
  intro i hi
  rw [List.drop_append, show i - w.length = 0 by omega, List.drop_zero,
    List.drop_eq_getElem_cons hi]
  exact not_starts_cons (h _ (List.getElem_mem hi))

end Quiet

/-! ### What becomes of one link -/

lemma lt_of_isPlain {c : ℕ} (h : isPlain c = true) :
    43 ≤ c ∧ c ≤ 122 ∧ c ≠ 58 ∧ c ≠ 47 ∧ c ≠ 63 ∧ c ≠ 64 := by
  simp [isPlain] at h
  omega

lemma eq_of_asciiUnit {c k : ℕ} (h : (if c < 0x80 then c else 126) = k) (hk : k ≠ 126) :
    c = k := by
  split at h
  · exact h
  · exact absurd h.symm hk

lemma asciiOnly_append (t t' : Text) : asciiOnly (t ++ t') = asciiOnly t ++ asciiOnly t' :=
  List.map_append

lemma asciiOnly_eq_self {t : Text} (h : ∀ c ∈ t, c < 0x80) : asciiOnly t = t := by
  rw [asciiOnly]
  refine (List.map_congr_left fun c hc => if_pos (h c hc)).trans ?_
  exact List.map_id' t

lemma append_of_asciiOnly {t w r : Text} (h : asciiOnly t = w ++ r) (hw : 126 ∉ w) :
    ∃ r', t = w ++ r' := by
  obtain ⟨t₁, t₂, rfl, hmap, -⟩ := List.map_eq_append_iff.1 h
  refine ⟨t₂, ?_⟩
  congr 1
  rw [← hmap]
  refine (List.map_id' t₁).symm.trans (List.map_congr_left fun c hc => ?_)
  refine eq_of_asciiUnit rfl fun hk => hw ?_
  have hmem : (if c < 0x80 then c else 126) ∈ w := hmap ▸ List.mem_map_of_mem hc
  rwa [hk] at hmem

lemma isPlain_asciiUnit (c : ℕ) : isPlain (if c < 0x80 then c else 126) = isPlain c := by
  split
  · rfl
  · next h =>
    have hc : ¬ isPlain c = true := fun hp => h (by have := lt_of_isPlain hp; omega)
    rw [Bool.not_eq_true] at hc
    rw [hc]
    rfl

lemma isPlainToken_asciiOnly (t : Text) (n : ℕ) :
    isPlainToken (asciiOnly t) n = isPlainToken t n := by
  rw [isPlainToken, isPlainToken, asciiOnly, List.length_map, List.all_map]
  congr 1
  exact congrArg (List.all t) (funext isPlain_asciiUnit)

lemma isPlainToken_iff {t : Text} {n : ℕ} :
    isPlainToken t n = true ↔ t.length ≤ n ∧ ∀ c ∈ t, isPlain c = true := by
  rw [isPlainToken, Bool.and_eq_true, decide_eq_true_eq, List.all_eq_true]

namespace IsScheme

variable {s : Text}

lemma not_mem_colon (h : IsScheme s) : 58 ∉ s := by
  intro hmem
  have hletter := h.letter hmem
  omega

lemma asciiOnly_eq (h : IsScheme s) : asciiOnly s = s := by
  refine asciiOnly_eq_self fun c hc => ?_
  have hletter := h.letter hc
  omega

lemma not_slashes_before (h : IsScheme s) (t : Text) {j : ℕ} (hj : j < 9) :
    (units "://").isPrefixOf ((s ++ t).drop j) = false := by
  have hjs : j < s.length := by rwa [h.length_eq]
  have hne : s[j] ≠ 58 := fun heq => h.not_mem_colon (heq ▸ List.getElem_mem hjs)
  rw [List.drop_append, show j - s.length = 0 by omega, List.drop_zero,
    List.drop_eq_getElem_cons hjs, show units "://" = 58 :: units "//" from rfl, List.cons_append,
    List.isPrefixOf_cons_cons, beq_eq_false_iff_ne.2 hne.symm, Bool.false_and]

lemma schemeEnd_slashes (h : IsScheme s) (rest : Text) :
    schemeEnd (s ++ 58 :: 47 :: 47 :: rest) = some 9 := by
  have hfind : findSuffix (fun r => (units "://").isPrefixOf r) (s ++ 58 :: 47 :: 47 :: rest) =
      some 9 := by
    rw [findSuffix_eq_some]
    refine ⟨by simp [h.length_eq], ?_, fun j hj => h.not_slashes_before _ hj⟩
    rw [h.drop_append]
    rfl
  have htoken : isPlainToken s 16 = true :=
    isPlainToken_iff.2 ⟨by rw [h.length_eq]; decide, fun c hc => h.plain hc⟩
  have htake : (s ++ 58 :: 47 :: 47 :: rest).take 9 = s := h.take_append _
  rw [schemeEnd, hfind]
  simp [Option.filter, htake, htoken]

lemma schemeEnd_none (h : IsScheme s) {b : Text} (hb : b.take 2 ≠ [47, 47]) :
    schemeEnd (s ++ 58 :: b) = none := by
  rw [schemeEnd, Option.filter_eq_none_iff]
  intro stop hstop
  obtain ⟨-, hhere, -⟩ := findSuffix_eq_some.1 hstop
  have hge : ¬ stop < 9 := fun hlt =>
    absurd (hhere.symm.trans (h.not_slashes_before _ hlt)) (by simp)
  have hne : stop ≠ 9 := by
    rintro rfl
    rw [h.drop_append] at hhere
    obtain ⟨r, hr⟩ := List.isPrefixOf_iff_prefix.1 hhere
    have hb' : b = 47 :: 47 :: r := (List.cons.inj hr).2.symm
    exact hb (by rw [hb']; rfl)
  -- the colon after the scheme is in what would be echoed
  have hcolon : 58 ∈ (s ++ 58 :: b).take stop := by
    have hmem : 58 ∈ (s ++ 58 :: b).take 10 := by
      rw [List.take_append, h.length_eq]
      simp
    exact List.take_subset_take_left _ (by omega) hmem
  have htoken : ¬ isPlainToken ((s ++ 58 :: b).take stop) 16 = true := fun htoken =>
    absurd ((isPlainToken_iff.1 htoken).2 58 hcolon) (by decide)
  simp [htoken]

end IsScheme

/-! ### Going on as redacted -/

/-- What follows the host in what `RedactUrl` writes, with these digits. -/
def mark (digits : Text) : Text := units " [redacted " ++ (digits ++ units " chars]")

/-- Digits that a window of 40 units has room for. -/
structure Digits (digits : Text) : Prop where
  nonempty : digits ≠ []
  digit : ∀ c ∈ digits, isDigit c = true
  length_le : digits.length ≤ 22

/-- The text goes on as redacted, as `RedactLinks` asks it. -/
def marked (after : Text) : Bool := goesOnRedacted (asciiOnly (after.take 40))

lemma goesOnRedacted_mark {digits rest : Text} (hne : digits ≠ [])
    (hd : ∀ c ∈ digits, isDigit c = true) : goesOnRedacted (mark digits ++ rest) = true := by
  have hdrop : (mark digits ++ rest).drop 11 = digits ++ (units " chars]" ++ rest) := by
    rw [mark, List.append_assoc, List.append_assoc]
    rfl
  have hdigits : (digits ++ (units " chars]" ++ rest)).takeWhile isDigit = digits := by
    rw [List.takeWhile_append_of_pos hd]
    simp [units, isDigit]
  have hafter : (mark digits ++ rest).drop (11 + digits.length) = units " chars]" ++ rest := by
    rw [← List.drop_drop, hdrop, List.drop_left]
  simp only [goesOnRedacted, hdrop, hdigits, hafter]
  have hempty : digits.isEmpty = false := by simpa using hne
  rw [hempty]
  rfl

lemma exists_of_goesOnRedacted {after : Text} (h : goesOnRedacted after = true) :
    ∃ digits rest, digits ≠ [] ∧ (∀ c ∈ digits, isDigit c = true) ∧
      after = mark digits ++ rest := by
  simp only [goesOnRedacted, Bool.and_eq_true, decide_eq_true_eq] at h
  obtain ⟨⟨hbefore, hdigits⟩, hafter⟩ := h
  have hspan : (after.drop 11).drop ((after.drop 11).takeWhile isDigit).length =
      (after.drop 11).dropWhile isDigit := drop_takeWhile _ _
  refine ⟨(after.drop 11).takeWhile isDigit,
    (after.drop (11 + ((after.drop 11).takeWhile isDigit).length)).drop 7, by simpa using hdigits,
    List.all_eq_true.1 List.all_takeWhile, ?_⟩
  calc after = after.take 11 ++ after.drop 11 := (List.take_append_drop 11 after).symm
    _ = units " [redacted " ++ ((after.drop 11).takeWhile isDigit ++
          (after.drop 11).drop ((after.drop 11).takeWhile isDigit).length) := by
      rw [hbefore, hspan, List.takeWhile_append_dropWhile]
    _ = units " [redacted " ++ ((after.drop 11).takeWhile isDigit ++
          (units " chars]" ++
            (after.drop (11 + ((after.drop 11).takeWhile isDigit).length)).drop 7)) := by
      rw [List.drop_drop, ← hafter, List.take_append_drop]
    _ = _ := by rw [mark, List.append_assoc, List.append_assoc]

lemma marked_iff {after : Text} :
    marked after = true ↔ ∃ digits rest, Digits digits ∧ after = mark digits ++ rest := by
  constructor
  · intro h
    obtain ⟨digits, rest, hne, hd, heq⟩ := exists_of_goesOnRedacted h
    have hplain : 126 ∉ mark digits := by
      rw [mark, List.mem_append, List.mem_append]
      rintro (hmem | hmem | hmem)
      · exact absurd hmem (by decide)
      · exact absurd (hd _ hmem) (by decide)
      · exact absurd hmem (by decide)
    obtain ⟨rest', heq'⟩ := append_of_asciiOnly heq hplain
    have hlen := congrArg List.length heq'
    simp only [List.length_take, List.length_append, mark,
      show (units " [redacted ").length = 11 from rfl,
      show (units " chars]").length = 7 from rfl] at hlen
    refine ⟨digits, rest' ++ after.drop 40, ⟨hne, hd, by omega⟩, ?_⟩
    calc after = after.take 40 ++ after.drop 40 := (List.take_append_drop 40 after).symm
      _ = mark digits ++ (rest' ++ after.drop 40) := by rw [heq', List.append_assoc]
  · rintro ⟨digits, rest, hdigits, rfl⟩
    have hlen : (mark digits).length ≤ 40 := by
      have hle := hdigits.length_le
      simp only [mark, List.length_append, show (units " [redacted ").length = 11 from rfl,
        show (units " chars]").length = 7 from rfl]
      omega
    have hascii : asciiOnly (mark digits) = mark digits := by
      refine asciiOnly_eq_self fun c hc => ?_
      rw [mark, List.mem_append, List.mem_append] at hc
      rcases hc with hc | hc | hc
      · exact (by decide : ∀ c ∈ units " [redacted ", c < 0x80) c hc
      · have hdigit := hdigits.digit c hc
        simp [isDigit] at hdigit
        omega
      · exact (by decide : ∀ c ∈ units " chars]", c < 0x80) c hc
    rw [marked, List.take_append, List.take_of_length_le hlen, asciiOnly_append, hascii]
    exact goesOnRedacted_mark hdigits.nonempty hdigits.digit

lemma lower_mark {digits : Text} (h : Digits digits) {c : ℕ} (hc : c ∈ mark digits) :
    lower c ≠ 117 := by
  rw [mark, List.mem_append, List.mem_append] at hc
  rcases hc with hc | hc | hc
  · exact (by decide : ∀ c ∈ units " [redacted ", lower c ≠ 117) c hc
  · have hdigit := h.digit c hc
    simp [isDigit] at hdigit
    rw [lower]
    split <;> omega
  · exact (by decide : ∀ c ∈ units " chars]", lower c ≠ 117) c hc

lemma digits_decimal (size : ℕ) : Digits (decimal size) where
  nonempty := by
    rw [decimal, Ne, List.map_eq_nil_iff]
    exact Nat.toDigits_ne_nil
  digit := by
    intro c hc
    obtain ⟨d, hd, rfl⟩ := List.mem_map.1 hc
    have hdigit := Nat.isDigit_of_mem_toDigits (by decide) (by decide) hd
    simp only [Char.isDigit, ge_iff_le, Bool.and_eq_true, decide_eq_true_eq,
      UInt32.le_iff_toNat_le] at hdigit
    rw [isDigit, Bool.and_eq_true, decide_eq_true_eq, decide_eq_true_eq]
    exact hdigit
  length_le := by
    rw [decimal, List.length_map]
    have hlt : size % 2 ^ 64 < 10 ^ 22 := lt_trans (Nat.mod_lt _ (by decide)) (by decide)
    exact (Nat.length_toDigits_le_iff (by decide) (by decide)).2 hlt

lemma space_append_tag (size : ℕ) : units " " ++ tag size = mark (decimal size) := rfl

/-! ### The host that is echoed -/

/-- What follows the slashes begins with this host: at most 32 plain units, directly
followed by a slash, a question mark, a hash or the end. -/
structure HasHost (rest host : Text) : Prop where
  plain : ∀ c ∈ host, isPlain c = true
  length_le : host.length ≤ 32
  follows : ∃ tail, rest = host ++ tail ∧ ∀ c ∈ tail.head?, c ∈ units "/?#"

lemma shownHost_of_hasHost {rest host : Text} (h : HasHost rest host) :
    shownHost rest = host := by
  obtain ⟨tail, rfl, htail⟩ := h.follows
  have hplain : ∀ c ∈ host, decide (c ∉ units "/?#:@") = true := by
    intro c hc
    have hlt := lt_of_isPlain (h.plain c hc)
    have hhash : c ≠ 35 := by omega
    simp [units]
    omega
  have htake : (host ++ tail).takeWhile (fun c => decide (c ∉ units "/?#:@")) = host := by
    rw [List.takeWhile_append_of_pos hplain]
    cases tail with
    | nil => simp
    | cons c tail =>
      have hsub : ∀ c ∈ units "/?#", ¬ decide (c ∉ units "/?#:@") = true := by decide
      have hstop : ¬ decide (c ∉ units "/?#:@") = true := hsub c (htail c rfl)
      simp only [List.takeWhile, hstop, List.append_nil]
  have htoken : isPlainToken host 32 = true := isPlainToken_iff.2 ⟨h.length_le, h.plain⟩
  simp only [shownHost, htake, List.drop_left, htoken, Bool.and_true]
  cases tail with
  | nil => rfl
  | cons c tail => rw [if_pos (decide_eq_true (htail c rfl))]

lemma shownHost_of_none {rest : Text} (h : ∀ host, ¬ HasHost rest host) :
    shownHost rest = units "*" := by
  simp only [shownHost]
  rw [if_neg]
  intro hshown
  rw [Bool.and_eq_true] at hshown
  obtain ⟨hstop, htoken⟩ := hshown
  obtain ⟨hlen, hplain⟩ := isPlainToken_iff.1 htoken
  refine h _ ⟨hplain, hlen,
    rest.drop (rest.takeWhile fun c => decide (c ∉ units "/?#:@")).length, ?_, ?_⟩
  · rw [drop_takeWhile, List.takeWhile_append_dropWhile]
  · intro c hc
    split at hstop
    · next hnil =>
      rw [hnil] at hc
      cases hc
    · next stop tail hcons =>
      rw [hcons] at hc
      cases hc
      exact of_decide_eq_true hstop

lemma hasHost_asciiOnly {rest host : Text} : HasHost (asciiOnly rest) host ↔ HasHost rest host := by
  have hdelim : ∀ k ∈ units "/?#", k < 0x80 ∧ k ≠ 126 := by decide
  constructor
  · rintro ⟨hplain, hlen, tail, heq, htail⟩
    have htilde : 126 ∉ host := fun hmem => by
      have hlt := lt_of_isPlain (hplain _ hmem)
      omega
    obtain ⟨tail', rfl⟩ := append_of_asciiOnly heq htilde
    refine ⟨hplain, hlen, tail', rfl, fun c hc => ?_⟩
    have hascii : asciiOnly host = host := asciiOnly_eq_self fun k hk => by
      have hlt := lt_of_isPlain (hplain k hk)
      omega
    rw [asciiOnly_append, hascii, List.append_cancel_left_eq] at heq
    have hmem := htail (if c < 0x80 then c else 126) (by
      rw [← heq, asciiOnly, List.head?_map, hc]
      rfl)
    rwa [← eq_of_asciiUnit rfl (hdelim _ hmem).2] at hmem
  · rintro ⟨hplain, hlen, tail, rfl, htail⟩
    have hascii : asciiOnly host = host := asciiOnly_eq_self fun k hk => by
      have hlt := lt_of_isPlain (hplain k hk)
      omega
    refine ⟨hplain, hlen, asciiOnly tail, by rw [asciiOnly_append, hascii], fun c hc => ?_⟩
    rw [asciiOnly, List.head?_map, Option.mem_def, Option.map_eq_some_iff] at hc
    obtain ⟨k, hk, rfl⟩ := hc
    have hmem := htail k hk
    rwa [if_pos (hdelim k hmem).1]

lemma shownHost_asciiOnly (rest : Text) : shownHost (asciiOnly rest) = shownHost rest := by
  by_cases h : ∃ host, HasHost rest host
  · obtain ⟨host, hhost⟩ := h
    rw [shownHost_of_hasHost hhost, shownHost_of_hasHost (hasHost_asciiOnly.2 hhost)]
  · have hnone : ∀ host, ¬ HasHost rest host := fun host hhost => h ⟨host, hhost⟩
    rw [shownHost_of_none hnone, shownHost_of_none fun host hhost =>
      hnone host (hasHost_asciiOnly.1 hhost)]

/-- What stands after the slashes of a link that `RedactUrl` wrote. -/
def IsShown (host : Text) : Prop := host = units "*" ∨ isPlainToken host 32 = true

lemma isShown_shownHost (rest : Text) : IsShown (shownHost rest) := by
  by_cases h : ∃ host, HasHost rest host
  · obtain ⟨host, hhost⟩ := h
    rw [shownHost_of_hasHost hhost]
    exact .inr (isPlainToken_iff.2 ⟨hhost.length_le, hhost.plain⟩)
  · exact .inl (shownHost_of_none fun host hhost => h ⟨host, hhost⟩)

lemma isShown_asciiOnly {host : Text} : IsShown (asciiOnly host) ↔ IsShown host := by
  rw [IsShown, IsShown, isPlainToken_asciiOnly]
  constructor
  · rintro (h | h)
    · obtain ⟨r, rfl⟩ := append_of_asciiOnly (t := host) (w := units "*") (r := [])
        (by rw [h, List.append_nil]) (by decide)
      rw [asciiOnly_append] at h
      have hr : asciiOnly r = [] := by
        have hlen := congrArg List.length h
        rw [List.length_append] at hlen
        exact List.eq_nil_of_length_eq_zero (by
          have hone : (asciiOnly (units "*")).length = 1 := rfl
          have hone' : (units "*").length = 1 := rfl
          omega)
      rw [asciiOnly, List.map_eq_nil_iff] at hr
      rw [hr]
      exact .inl (List.append_nil _)
    · exact .inr h
  · rintro (rfl | h)
    · exact .inl rfl
    · exact .inr h

/-! ### What becomes of a link -/

namespace IsScheme

variable {s : Text}

lemma asciiOnly_link (h : IsScheme s) (b : Text) :
    asciiOnly (s ++ 58 :: b) = s ++ 58 :: asciiOnly b := by
  rw [asciiOnly_append, h.asciiOnly_eq]
  rfl

/-- A link with its slashes is kept where it is what `RedactUrl` wrote, and reduced to
scheme, host and length otherwise. -/
lemma reduce_slashes (h : IsScheme s) {rest link : Text}
    (hlink : link = s ++ 58 :: 47 :: 47 :: rest) (after : Text) :
    (IsShown rest ∧ marked after = true ∧ reduce link after = link) ∨
    (¬ (IsShown rest ∧ marked after = true) ∧
      reduce link after =
        s ++ (58 :: 47 :: 47 :: (shownHost rest ++ mark (decimal link.length)))) := by
  have hascii : asciiOnly link = s ++ 58 :: 47 :: 47 :: asciiOnly rest := by
    rw [hlink, h.asciiOnly_link]
    rfl
  have hdrop : (s ++ 58 :: 47 :: 47 :: asciiOnly rest).drop 12 = asciiOnly rest := by
    rw [show 12 = 9 + 3 from rfl, ← List.drop_drop, h.drop_append]
    rfl
  have htake : (s ++ 58 :: 47 :: 47 :: asciiOnly rest).take 9 = s := h.take_append _
  have hkept : isRedactedAlready (asciiOnly link) (asciiOnly (after.take 40)) = true ↔
      IsShown rest ∧ marked after = true := by
    rw [isRedactedAlready, hascii, h.schemeEnd_slashes]
    show (_ && _) = true ↔ _
    rw [Bool.and_eq_true, Bool.or_eq_true, decide_eq_true_eq, hdrop]
    exact and_congr isShown_asciiOnly Iff.rfl
  by_cases hcond : IsShown rest ∧ marked after = true
  · exact .inl ⟨hcond.1, hcond.2, by rw [reduce, if_pos (hkept.2 hcond)]⟩
  · refine .inr ⟨hcond, ?_⟩
    have hlen : (asciiOnly link).length = link.length := List.length_map _
    rw [reduce, if_neg (fun hk => hcond (hkept.1 hk)), redactUrl, hlen, hascii,
      h.schemeEnd_slashes]
    show List.take 9 _ ++ _ = _
    rw [htake, hdrop, shownHost_asciiOnly, space_append_tag]
    rfl

lemma reduce_bare (h : IsScheme s) {b link : Text} (hb : b.take 2 ≠ [47, 47])
    (hlink : link = s ++ 58 :: b) (after : Text) : reduce link after = tag link.length := by
  have hb' : (asciiOnly b).take 2 ≠ [47, 47] := by
    intro heq
    have hsplit : asciiOnly b = [47, 47] ++ (asciiOnly b).drop 2 := by
      rw [← heq, List.take_append_drop]
    obtain ⟨r, rfl⟩ := append_of_asciiOnly hsplit (by decide)
    exact hb rfl
  have hend : schemeEnd (asciiOnly link) = none := by
    rw [hlink, h.asciiOnly_link]
    exact h.schemeEnd_none hb'
  have hlen : (asciiOnly link).length = link.length := List.length_map _
  rw [reduce, isRedactedAlready, redactUrl, hend, hlen]
  rfl

end IsScheme

end UrnetworkWindows.SignIn.Redact
