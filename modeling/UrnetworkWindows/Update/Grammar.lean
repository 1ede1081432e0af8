/-
The release-tag parser accepts exactly its grammar (`VersionGrammar.h`: `ParseReleaseCode`;
`ReleaseSelection.h`: `ParseFeedTag`).

`TakeDigits` takes a whole run of digits or none (`takeDigits_append`, `exists_of_takeDigits`), so
that where a run ends is decided by the text and not by the parser, and a tag is read in one way
only.
-/
import Mathlib.Data.List.TakeWhile
import UrnetworkWindows.Update.Selection

namespace UrnetworkWindows.Update

/-- A number in at most `max` digits. -/
structure IsNumber (max : ℕ) (ds : List Char) : Prop where
  digits : ∀ c ∈ ds, isDigit c = true
  ne_nil : ds ≠ []
  length_le : ds.length ≤ max

/-- The grammar of a release tag after its `v`. -/
structure IsVersion (text : List Char) (code : ℕ) : Prop where
  parts : ∃ year month day digits beta : List Char,
    text = year ++ '.' :: (month ++ '.' :: (day ++ '-' :: (digits ++ beta))) ∧
    IsNumber 4 year ∧ year.length = 4 ∧
    IsNumber 2 month ∧ 1 ≤ digitsValue month ∧ digitsValue month ≤ 12 ∧
    IsNumber 2 day ∧ 1 ≤ digitsValue day ∧ digitsValue day ≤ 31 ∧
    IsNumber 18 digits ∧ digitsValue digits = code ∧
    (beta = [] ∨ beta = "-beta".toList)
  pos : 0 < code

/-- The grammar of a release tag. -/
def IsReleaseTag (tag : List Char) (code : ℕ) : Prop :=
  ∃ text, (tag = text ∨ tag = 'v' :: text) ∧ IsVersion text code

section Digits

variable {max : ℕ} {ds rest : List Char}

lemma takeDigits_append (h : IsNumber max ds) (hrest : ∀ c ∈ rest.head?, isDigit c = false) :
    takeDigits (ds ++ rest) max = ⟨digitsValue ds, ds.length⟩ := by
  have hrun : (ds ++ rest).takeWhile isDigit = ds := by
    rw [List.takeWhile_append_of_pos h.digits]
    cases rest with
    | nil => rw [List.takeWhile_nil, List.append_nil]
    | cons c rest =>
      rw [List.takeWhile_cons_of_neg (by simp [hrest c rfl]), List.append_nil]
  have hpos := List.length_pos_of_ne_nil h.ne_nil
  have hle := h.length_le
  unfold takeDigits
  rw [hrun]
  dsimp only
  rw [if_neg (by omega), List.take_left']
  rfl

lemma exists_of_takeDigits {cs : List Char} (h : (takeDigits cs max).length ≠ 0) :
    ∃ ds rest, cs = ds ++ rest ∧ IsNumber max ds ∧
      takeDigits cs max = ⟨digitsValue ds, ds.length⟩ := by
  have hsplit := (List.takeWhile_append_dropWhile (p := isDigit) (l := cs)).symm
  have htake := List.prefix_iff_eq_take.1 (List.takeWhile_prefix isDigit (l := cs))
  refine ⟨cs.takeWhile isDigit, cs.dropWhile isDigit, hsplit, ?_⟩
  unfold takeDigits at h ⊢
  dsimp only at h ⊢
  split_ifs at h ⊢ with hrun
  · exact absurd rfl h
  · refine ⟨⟨fun c hc => List.mem_takeWhile_imp hc, fun hnil => ?_, by omega⟩, ?_⟩
    · rw [hnil] at hrun
      exact hrun (.inl rfl)
    · rw [← htake]

end Digits

lemma head?_of_isNumber {max : ℕ} {ds rest : List Char} (h : IsNumber max ds) :
    ∃ c, (ds ++ rest).head? = some c ∧ isDigit c = true := by
  cases ds with
  | nil => exact absurd rfl h.ne_nil
  | cons c ds => exact ⟨c, rfl, h.digits c List.mem_cons_self⟩

lemma IsVersion.parse {text : List Char} {code : ℕ} (h : IsVersion text code) :
    parseReleaseCode text = code ∧ parseReleaseCode ('v' :: text) = code := by
  obtain ⟨⟨year, month, day, digits, beta, rfl, hyear, hfour, hmonth, hmonth₁, hmonth₁₂, hday,
    hday₁, hday₃₁, hdigits, rfl, hbeta⟩, hpos⟩ := h
  have hv : (year ++ '.' :: (month ++ '.' :: (day ++ '-' :: (digits ++ beta)))).head? ≠
      some 'v' := by
    obtain ⟨c, hc, hdigit⟩ : ∃ c, (year ++ '.' ::
        (month ++ '.' :: (day ++ '-' :: (digits ++ beta)))).head? = some c ∧ isDigit c = true :=
      head?_of_isNumber hyear
    rw [hc]
    rintro ⟨⟩
    exact absurd hdigit (by decide)
  have hend : ∀ c ∈ beta.head?, isDigit c = false := by
    rcases hbeta with rfl | rfl
    · exact nofun
    · intro c hc
      cases hc
      decide
  have hnot : ¬ (beta ≠ [] ∧ beta ≠ "-beta".toList) := fun h => hbeta.elim h.1 h.2
  have hmonth₀ := List.length_pos_of_ne_nil hmonth.ne_nil
  have hday₀ := List.length_pos_of_ne_nil hday.ne_nil
  have hdigits₀ := List.length_pos_of_ne_nil hdigits.ne_nil
  have hdot : ∀ text : List Char, ∀ c ∈ ('.' :: text).head?, isDigit c = false := by
    rintro text c ⟨⟩
    decide
  have hdash : ∀ text : List Char, ∀ c ∈ ('-' :: text).head?, isDigit c = false := by
    rintro text c ⟨⟩
    decide
  have hparse : ∀ tag : List Char,
      (if tag.head? = some 'v' then tag.drop 1 else tag) =
        year ++ '.' :: (month ++ '.' :: (day ++ '-' :: (digits ++ beta))) →
      parseReleaseCode tag = digitsValue digits := by
    intro tag htag
    unfold parseReleaseCode
    dsimp only
    rw [htag, takeDigits_append hyear (hdot _)]
    dsimp only
    rw [if_neg (not_not_intro hfour), List.drop_left, List.head?_cons, if_neg (not_not_intro rfl),
      List.drop_one, List.tail_cons, takeDigits_append hmonth (hdot _)]
    dsimp only
    rw [if_neg (by omega), List.drop_left, List.head?_cons, if_neg (not_not_intro rfl),
      List.drop_one, List.tail_cons, takeDigits_append hday (hdash _)]
    dsimp only
    rw [if_neg (by omega), List.drop_left, List.head?_cons, if_neg (not_not_intro rfl),
      List.drop_one, List.tail_cons, takeDigits_append hdigits hend]
    dsimp only
    rw [if_neg (by omega), List.drop_left, if_neg hnot]
  exact ⟨hparse _ (if_neg hv), hparse _ (if_pos rfl)⟩

lemma eq_cons_of_head? {cs : List Char} {c : Char} (h : ¬ cs.head? ≠ some c) :
    ∃ rest, cs = c :: rest := by
  cases cs with
  | nil => exact absurd (not_not.1 h) nofun
  | cons d rest =>
    cases not_not.1 h
    exact ⟨rest, rfl⟩

lemma not_of_ite_ne_zero {p : Prop} [Decidable p] {n : ℕ} (h : (if p then 0 else n) ≠ 0) : ¬ p :=
  fun hp => h (if_pos hp)

lemma exists_field {text : List Char} {max : ℕ} {sep : Char}
    (hlength : (takeDigits text max).length ≠ 0)
    (hsep : ¬ (text.drop (takeDigits text max).length).head? ≠ some sep) :
    ∃ ds rest, text = ds ++ sep :: rest ∧ IsNumber max ds ∧
      takeDigits text max = ⟨digitsValue ds, ds.length⟩ ∧
      (text.drop (takeDigits text max).length).drop 1 = rest := by
  obtain ⟨ds, rest, rfl, hds, htake⟩ := exists_of_takeDigits hlength
  rw [htake] at hsep ⊢
  dsimp only at hsep ⊢
  rw [List.drop_left] at hsep ⊢
  obtain ⟨rest, rfl⟩ := eq_cons_of_head? hsep
  exact ⟨ds, rest, rfl, hds, rfl, rfl⟩

lemma isReleaseTag_of_parse {tag : List Char} (h : parseReleaseCode tag ≠ 0) :
    IsReleaseTag tag (parseReleaseCode tag) := by
  obtain ⟨text, htext, htag⟩ : ∃ text, (if tag.head? = some 'v' then tag.drop 1 else tag) = text ∧
      (tag = text ∨ tag = 'v' :: text) := by
    split_ifs with hv
    · obtain ⟨text, rfl⟩ := eq_cons_of_head? (not_not_intro hv)
      exact ⟨text, rfl, .inr rfl⟩
    · exact ⟨tag, rfl, .inl rfl⟩
  refine ⟨text, htag, ?_⟩
  unfold parseReleaseCode at h ⊢
  dsimp only at h ⊢
  rw [htext] at h ⊢
  clear htext htag tag
  -- the year and its dot
  have hfour := not_of_ite_ne_zero h
  rw [if_neg hfour] at h ⊢
  have hdot := not_of_ite_ne_zero h
  rw [if_neg hdot] at h ⊢
  obtain ⟨year, text, rfl, hyear, htake, hrest⟩ := exists_field (by omega) hdot
  rw [hrest] at h ⊢
  rw [htake] at hfour
  clear hdot htake hrest
  -- the month and its dot
  have hmonth := not_of_ite_ne_zero h
  rw [if_neg hmonth] at h ⊢
  have hdot := not_of_ite_ne_zero h
  rw [if_neg hdot] at h ⊢
  obtain ⟨month, text, rfl, hmonth', htake, hrest⟩ := exists_field (by omega) hdot
  rw [hrest] at h ⊢
  rw [htake] at hmonth
  dsimp only at hmonth
  clear hdot htake hrest
  -- the day and its dash
  have hday := not_of_ite_ne_zero h
  rw [if_neg hday] at h ⊢
  have hdash := not_of_ite_ne_zero h
  rw [if_neg hdash] at h ⊢
  obtain ⟨day, text, rfl, hday', htake, hrest⟩ := exists_field (by omega) hdash
  rw [hrest] at h ⊢
  rw [htake] at hday
  dsimp only at hday
  clear hdash htake hrest
  -- the code and what follows it
  have hcode := not_of_ite_ne_zero h
  rw [if_neg hcode] at h ⊢
  obtain ⟨digits, beta, rfl, hdigits, htake⟩ := exists_of_takeDigits hcode
  rw [htake] at h ⊢
  dsimp only at h ⊢
  rw [List.drop_left] at h ⊢
  have hbeta := not_of_ite_ne_zero h
  rw [if_neg hbeta] at h ⊢
  exact ⟨⟨year, month, day, digits, beta, rfl, hyear, not_not.1 hfour, hmonth', by omega, by omega,
    hday', by omega, by omega, hdigits, rfl, by tauto⟩, Nat.pos_of_ne_zero h⟩

lemma IsReleaseTag.parse {tag : List Char} {code : ℕ} (h : IsReleaseTag tag code) :
    parseReleaseCode tag = code := by
  obtain ⟨text, rfl | rfl, htext⟩ := h
  · exact htext.parse.1
  · exact htext.parse.2

lemma IsReleaseTag.pos {tag : List Char} {code : ℕ} (h : IsReleaseTag tag code) : 0 < code := by
  obtain ⟨_, -, htext⟩ := h
  exact htext.pos

/-- A tag without its `v`. -/
def withoutV (tag : List Char) : List Char := if tag.head? = some 'v' then tag.drop 1 else tag

/-- **The parser of release tags accepts exactly its grammar**, and a feed's tags are its prefix
followed by one. -/
theorem release_tag_grammar :
    (∀ (tag : List Char) (code : ℕ),
      parseReleaseCode tag = code ∧ code ≠ 0 ↔ IsReleaseTag tag code) ∧
    (∀ (feed : Feed) (tag : String) (t : FeedTag), parseFeedTag feed tag = some t ↔
      ∃ rest, tag.toList = feed.tagPrefix.toList ++ rest ∧ IsReleaseTag rest t.code ∧
        t.version = String.ofList (withoutV rest)) := by
  refine ⟨fun tag code => ⟨?_, fun h => ⟨h.parse, Nat.pos_iff_ne_zero.1 h.pos⟩⟩,
    fun feed tag t => ⟨fun h => ?_, ?_⟩⟩
  · rintro ⟨rfl, hcode⟩
    exact isReleaseTag_of_parse hcode
  · have hprefix : ¬ tag.toList.take feed.tagPrefix.toList.length ≠ feed.tagPrefix.toList := by
      intro hne
      rw [parseFeedTag, if_pos hne] at h
      exact absurd h (Option.some_ne_none t).symm
    rw [parseFeedTag, if_neg hprefix] at h
    have hcode : ¬ parseReleaseCode (tag.toList.drop feed.tagPrefix.toList.length) = 0 := by
      intro hzero
      rw [if_pos hzero] at h
      exact absurd h (Option.some_ne_none t).symm
    rw [if_neg hcode] at h
    cases h
    refine ⟨tag.toList.drop feed.tagPrefix.toList.length, ?_, isReleaseTag_of_parse hcode, rfl⟩
    have hsplit := List.take_append_drop feed.tagPrefix.toList.length tag.toList
    rw [not_not.1 hprefix] at hsplit
    exact hsplit.symm
  · rintro ⟨rest, htag, hrest, hversion⟩
    have hcode : parseReleaseCode rest ≠ 0 := by
      rw [hrest.parse]
      exact Nat.pos_iff_ne_zero.1 hrest.pos
    simp only [parseFeedTag]
    rw [htag, List.take_left, List.drop_left, if_neg (not_not_intro rfl), if_neg hcode, hrest.parse]
    obtain ⟨version, code⟩ := t
    obtain rfl : version = String.ofList (withoutV rest) := hversion
    rfl

end UrnetworkWindows.Update
