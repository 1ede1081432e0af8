/-
The percent encoding and the query parser (`UrlQuery.h`).

What is encoded is decoded to what it was, and a query that is written from pairs is parsed to the
map of them (`parameters_come_back`): no encoded value has a separator in it, so the parser cuts
the query where it was joined.
-/
import UrnetworkWindows.Browser.Bridge
import UrnetworkWindows.Lib.Query

namespace UrnetworkWindows.Browser

open Lib

/-- What stays as it is. -/
def isUnreserved (c : UInt8) : Bool :=
  ('A'.toUInt8 ≤ c && c ≤ 'Z'.toUInt8) || ('a'.toUInt8 ≤ c && c ≤ 'z'.toUInt8) ||
    ('0'.toUInt8 ≤ c && c ≤ '9'.toUInt8) || c = '-'.toUInt8 || c = '_'.toUInt8 ||
      c = '.'.toUInt8 || c = '~'.toUInt8

/-- One of `0123456789ABCDEF`. -/
def hexDigit (n : UInt8) : UInt8 := (narrow "0123456789ABCDEF").getD n.toNat 0

def percentByte (c : UInt8) : Bytes :=
  if isUnreserved c then [c] else ['%'.toUInt8, hexDigit (c >>> 4), hexDigit (c &&& 0xF)]

/-- `PercentEncode`. -/
def percentEncode (s : Bytes) : Bytes := s.flatMap percentByte

/-- `ParseUrlQuery`. -/
def parseUrlQuery (url : Bytes) : List (Bytes × Bytes) := parseQueryString (afterQuestion url)

/-- The loop of `ParseQueryString` over what is left of the query, in at most so many rounds. -/
def queryLoop : ℕ → Bytes → List (Bytes × Bytes) → Option (List (Bytes × Bytes))
  | _, [], out => some out
  | 0, _ :: _, _ => none
  | rounds + 1, rest, out =>
    let out := out ++ (readParam (rest.takeWhile (· ≠ '&'.toUInt8))).toList
    match rest.dropWhile (· ≠ '&'.toUInt8) with
    | [] => some out
    | _ :: rest => queryLoop rounds rest out

/-! ### The encoding -/

/-- Unreserved characters and escapes. -/
inductive Escaped : Bytes → Prop
  | nil : Escaped []
  | plain {c : UInt8} {s : Bytes} (hc : isUnreserved c = true) (hs : Escaped s) : Escaped (c :: s)
  | escape {x y : UInt8} {s : Bytes} (hx : x ∈ narrow "0123456789ABCDEF")
      (hy : y ∈ narrow "0123456789ABCDEF") (hs : Escaped s) : Escaped ('%'.toUInt8 :: x :: y :: s)

lemma percentDecode_plain {c : UInt8} (hc : c ≠ '%'.toUInt8) (rest : Bytes) :
    percentDecode (c :: rest) = plusToSpace c :: percentDecode rest := by
  match rest with
  | [] => rfl
  | [_] => rfl
  | _ :: _ :: _ =>
    rw [percentDecode, if_neg hc]

lemma percentDecode_escape {x y hi lo : UInt8} (hx : hexValue x = some hi)
    (hy : hexValue y = some lo) (rest : Bytes) :
    percentDecode ('%'.toUInt8 :: x :: y :: rest) = (hi <<< 4 ||| lo) :: percentDecode rest := by
  rw [percentDecode, if_pos rfl, hx, hy]

lemma byte_facts (c : UInt8) :
    (hexDigit (c >>> 4) ∈ narrow "0123456789ABCDEF" ∧
        hexDigit (c &&& 0xF) ∈ narrow "0123456789ABCDEF") ∧
      (hexValue (hexDigit (c >>> 4)) = some (c >>> 4) ∧
        hexValue (hexDigit (c &&& 0xF)) = some (c &&& 0xF) ∧
          (c >>> 4) <<< 4 ||| (c &&& 0xF) = c) ∧
        (isUnreserved c = true → c ≠ '%'.toUInt8 ∧ plusToSpace c = c ∧ c ≠ '&'.toUInt8) := by
  revert c
  exact forall_byte (by decide +kernel)

lemma hexDigit_mem (c : UInt8) :
    hexDigit (c >>> 4) ∈ narrow "0123456789ABCDEF" ∧
      hexDigit (c &&& 0xF) ∈ narrow "0123456789ABCDEF" := (byte_facts c).1

lemma hexValue_hexDigit (c : UInt8) :
    hexValue (hexDigit (c >>> 4)) = some (c >>> 4) ∧
      hexValue (hexDigit (c &&& 0xF)) = some (c &&& 0xF) ∧
        (c >>> 4) <<< 4 ||| (c &&& 0xF) = c := (byte_facts c).2.1

lemma unreserved_plain {c : UInt8} (h : isUnreserved c = true) :
    c ≠ '%'.toUInt8 ∧ plusToSpace c = c ∧ c ≠ '&'.toUInt8 := (byte_facts c).2.2 h

theorem percentDecode_percentEncode (s : Bytes) : percentDecode (percentEncode s) = s := by
  induction s with
  | nil => rfl
  | cons c s ih =>
    rw [percentEncode, List.flatMap_cons, percentByte]
    split_ifs with hc
    · obtain ⟨hpercent, hplus, -⟩ := unreserved_plain hc
      rw [List.singleton_append, percentDecode_plain hpercent, hplus]
      exact congrArg (c :: ·) ih
    · obtain ⟨hhigh, hlow, hbyte⟩ := hexValue_hexDigit c
      rw [List.cons_append, List.cons_append, List.singleton_append,
        percentDecode_escape hhigh hlow, hbyte]
      exact congrArg (c :: ·) ih

theorem escaped_percentEncode (s : Bytes) : Escaped (percentEncode s) := by
  induction s with
  | nil => exact .nil
  | cons c s ih =>
    rw [percentEncode, List.flatMap_cons, percentByte]
    split_ifs with hc
    · exact .plain hc ih
    · exact .escape (hexDigit_mem c).1 (hexDigit_mem c).2 ih

lemma Escaped.notMem_amp {s : Bytes} (h : Escaped s) : '&'.toUInt8 ∉ s := by
  induction h with
  | nil => exact List.not_mem_nil
  | plain hc _ ih => exact List.not_mem_cons_of_ne_of_not_mem (unreserved_plain hc).2.2.symm ih
  | escape hx hy _ ih =>
    have hdigits : '&'.toUInt8 ∉ narrow "0123456789ABCDEF" := by decide
    simp only [List.mem_cons, not_or]
    exact ⟨by decide, fun heq => hdigits (heq ▸ hx), fun heq => hdigits (heq ▸ hy), ih⟩

theorem length_percentDecode_le (s : Bytes) : (percentDecode s).length ≤ s.length := by
  fun_induction percentDecode s with
  | case1 => rfl
  | case2 => rfl
  | case3 => rfl
  | case4 c d e rest hi lo _ _ ih =>
    simp only [List.length_cons]
    omega
  | case5 c d e rest _ ih =>
    simp only [List.length_cons] at ih ⊢
    omega

/-! ### The query -/

lemma parseQueryString_nil : parseQueryString [] = [] := rfl

lemma parseQueryString_append {pair : Bytes} (h : '&'.toUInt8 ∉ pair) (rest : Bytes) :
    parseQueryString (pair ++ '&'.toUInt8 :: rest) =
      (readParam pair).toList ++ parseQueryString rest := by
  have hne : ∀ c ∈ pair, (c == '&'.toUInt8) = false := by
    intro c hc
    exact beq_eq_false_iff_ne.2 fun heq => h (heq ▸ hc)
  rw [parseQueryString, List.splitOn_eq_splitOnP,
    List.splitOnP_append_cons_of_forall_mem hne _ (beq_self_eq_true _), List.filterMap_cons]
  cases readParam pair <;> rfl

lemma parseQueryString_single {pair : Bytes} (h : '&'.toUInt8 ∉ pair) :
    parseQueryString pair = (readParam pair).toList := by
  have hne : ∀ c ∈ pair, (c == '&'.toUInt8) = false := by
    intro c hc
    exact beq_eq_false_iff_ne.2 fun heq => h (heq ▸ hc)
  rw [parseQueryString, List.splitOn_eq_splitOnP, List.splitOnP_eq_singleton hne,
    List.filterMap_cons]
  cases readParam pair <;> rfl

theorem queryLoop_eq {rounds : ℕ} {query : Bytes} (h : query.length ≤ rounds)
    (out : List (Bytes × Bytes)) :
    queryLoop rounds query out = some (out ++ parseQueryString query) := by
  induction rounds generalizing query out with
  | zero =>
    obtain rfl := List.length_eq_zero_iff.1 (Nat.le_zero.1 h)
    rw [queryLoop, parseQueryString_nil, List.append_nil]
  | succ rounds ih =>
    cases query with
    | nil => rw [queryLoop, parseQueryString_nil, List.append_nil]
    | cons c cs =>
      rw [queryLoop]
      have hpair : '&'.toUInt8 ∉ (c :: cs).takeWhile (· ≠ '&'.toUInt8) := by
        intro hmem
        simpa using List.mem_takeWhile_imp hmem
      split
      · next hdrop =>
        have hall : (c :: cs).takeWhile (· ≠ '&'.toUInt8) = c :: cs := by
          have happend := List.takeWhile_append_dropWhile (p := (· ≠ '&'.toUInt8)) (l := c :: cs)
          rwa [hdrop, List.append_nil] at happend
        rw [hall] at hpair ⊢
        rw [parseQueryString_single hpair]
      · next d rest hdrop =>
        have hquery := eq_of_dropWhile_ne hdrop
        have hlen := congrArg List.length hquery
        simp only [List.length_append, List.length_cons] at hlen h
        rw [ih (by omega), List.append_assoc, ← parseQueryString_append hpair, ← hquery]
      · exact List.cons_ne_nil c cs

lemma readParam_writePair {key : Bytes} (h : '='.toUInt8 ∉ key) (value : Bytes) :
    readParam (writePair '='.toUInt8 (key, percentEncode value)) = some (key, value) := by
  have hkey : ∀ c ∈ key, decide (c ≠ '='.toUInt8) = true := by
    intro c hc
    exact decide_eq_true fun heq => h (heq ▸ hc)
  have hmem : '='.toUInt8 ∈ key ++ '='.toUInt8 :: percentEncode value :=
    List.mem_append_right _ (List.mem_cons_self ..)
  rw [writePair, readParam, if_pos hmem, List.takeWhile_append_of_pos hkey,
    List.takeWhile_cons_of_neg (by decide), List.append_nil, List.dropWhile_append_of_pos hkey,
    List.dropWhile_cons_of_neg (by decide), List.drop_one, List.tail_cons,
    percentDecode_percentEncode]

lemma parseQueryString_writeQuery {ps : List (Bytes × Bytes)}
    (h : ∀ p ∈ ps, '&'.toUInt8 ∉ p.1 ∧ '='.toUInt8 ∉ p.1) :
    parseQueryString (writeQuery '&'.toUInt8 '='.toUInt8
      (ps.map fun p => (p.1, percentEncode p.2))) = ps := by
  cases ps with
  | nil => rfl
  | cons p ps =>
    have hamp : ∀ q ∈ (p :: ps).map (fun p => (p.1, percentEncode p.2)),
        '&'.toUInt8 ∉ writePair '='.toUInt8 q := by
      intro q hq
      obtain ⟨r, hr, rfl⟩ := List.mem_map.1 hq
      rw [mem_writePair]
      rintro (hmem | heq | hmem)
      · exact (h r hr).1 hmem
      · exact absurd heq (by decide)
      · exact (escaped_percentEncode r.2).notMem_amp hmem
    rw [parseQueryString, splitOn_writeQuery (by simp) hamp, List.map_map, List.filterMap_map]
    refine (List.filterMap_congr fun r hr => ?_).trans List.filterMap_some
    exact readParam_writePair (h r hr).2 r.2

lemma param_eq_some {ps : List (Bytes × Bytes)} (h : (ps.map Prod.fst).Nodup)
    {key value : Bytes} : param ps key = some value ↔ (key, value) ∈ ps := by
  rw [param, List.lookup_eq_some_iff]
  constructor
  · rintro ⟨before, after, hps, -⟩
    rw [← List.mem_reverse, hps]
    exact List.mem_append_right _ (List.mem_cons_self ..)
  · intro hmem
    obtain ⟨before, after, hps⟩ := List.append_of_mem (List.mem_reverse.2 hmem)
    refine ⟨before, after, hps, fun p hp => ?_⟩
    -- a second pair under the key would stand before this one
    have hnodup : (ps.reverse.map Prod.fst).Nodup := by
      rw [List.map_reverse]
      exact List.nodup_reverse.2 h
    rw [hps, List.map_append, List.nodup_append] at hnodup
    rw [bne_iff_ne]
    exact (hnodup.2.2 p.1 (List.mem_map_of_mem hp) key (by simp)).symm

lemma afterQuestion_append {front : Bytes} (h : '?'.toUInt8 ∉ front) (query : Bytes) :
    afterQuestion (front ++ '?'.toUInt8 :: query) = query := by
  have hne : ∀ c ∈ front, decide (c ≠ '?'.toUInt8) = true := by
    intro c hc
    exact decide_eq_true fun heq => h (heq ▸ hc)
  rw [afterQuestion, List.dropWhile_append_of_pos hne, List.dropWhile_cons_of_neg (by decide),
    List.drop_one, List.tail_cons]

/-! ### The result -/

/-- What goes out in a url's parameters comes back. -/
structure ComesBack : Prop where
  decoded : ∀ s, percentDecode (percentEncode s) = s
  escaped : ∀ s, Escaped (percentEncode s)
  parsed : ∀ (front : Bytes) (ps : List (Bytes × Bytes)), '?'.toUInt8 ∉ front →
    (ps.map Prod.fst).Nodup → (∀ p ∈ ps, '&'.toUInt8 ∉ p.1 ∧ '='.toUInt8 ∉ p.1) →
      ∀ key value, param (parseUrlQuery (front ++ '?'.toUInt8 ::
        writeQuery '&'.toUInt8 '='.toUInt8 (ps.map fun p => (p.1, percentEncode p.2)))) key =
          some value ↔ (key, value) ∈ ps
  ended : ∀ query, queryLoop query.length query [] = some (parseQueryString query)
  shrunk : ∀ s, (percentDecode s).length ≤ s.length

/-- **A url's parameters come back as they went in.** -/
theorem parameters_come_back : ComesBack where
  decoded := percentDecode_percentEncode
  escaped := escaped_percentEncode
  parsed front ps hfront hnodup hkeys key value := by
    rw [parseUrlQuery, afterQuestion_append hfront, parseQueryString_writeQuery hkeys]
    exact param_eq_some hnodup
  ended query := queryLoop_eq le_rfl []
  shrunk := length_percentDecode_le

/-- The address a sign-in opens, with the one parameter it asks back for. -/
theorem parameters_come_back_state :
    param (parseUrlQuery (narrow "https://ur.io/oauth" ++ '?'.toUInt8 ::
      writeQuery '&'.toUInt8 '='.toUInt8
        ([(narrow "state", narrow "a&b=c")].map fun p => (p.1, percentEncode p.2))))
      (narrow "state") = some (narrow "a&b=c") :=
  (parameters_come_back.parsed (narrow "https://ur.io/oauth")
    [(narrow "state", narrow "a&b=c")] (by decide) (by decide) (by decide) _ _).2
    (List.mem_singleton_self _)

end UrnetworkWindows.Browser
