/-
Nothing of a link reaches the log but its scheme, a plain host and its length.

A text is split into its links and what stands around them; the loop of `RedactLinks` goes
through these parts one by one.  What it writes for a link is no link any more, or a link
that the next redaction takes for its own, and it is the same for two links that agree on
what may be told of them.
-/
import UrnetworkWindows.SignIn.Links

namespace UrnetworkWindows.SignIn.Redact

open Lib

/-! ### The links of a text -/

/-- A link, with what stands between it and the one before. -/
structure Part where
  before : Text
  link : Text

/-- The text that the parts make up. -/
def join : List Part → Text → Text
  | [], tail => tail
  | part :: parts, tail => part.before ++ (part.link ++ join parts tail)

/-- The parts are those of a text: a link begins where the scheme first stands, in any
spelling and with or without its slashes, and goes on to the next ender. -/
inductive IsSplit (enders : Text) : List Part → Text → Prop
  | tail {tail : Text} (quiet : Quiet tail []) : IsSplit enders [] tail
  | part {part : Part} {parts : List Part} {tail : Text}
      (quiet : Quiet part.before (part.link ++ join parts tail)) (starts : Starts part.link)
      (inner : ∀ c ∈ part.link, c ∉ enders) (ends : ∀ c ∈ (join parts tail).head?, c ∈ enders)
      (rest : IsSplit enders parts tail) : IsSplit enders (part :: parts) tail

/-- A space ends a link, and nothing does that a scheme, its colon or a redacted host is
made of. -/
structure Enders (enders : Text) : Prop where
  space : 32 ∈ enders
  other : ∀ c ∈ enders, isPlain c = false ∧ c ∉ units ":/*"

lemma enders_line : Enders lineEnders := ⟨by decide, by decide⟩

lemma enders_log : Enders logEnders := ⟨by decide, by decide⟩

/-- What is logged of the text that the parts make up. -/
def weave : List Part → Text → Text
  | [], tail => tail
  | part :: parts, tail =>
    part.before ++ (reduce part.link (join parts tail) ++ weave parts tail)

lemma Starts.append {t : Text} (h : Starts t) (t' : Text) : Starts (t ++ t') := by
  obtain ⟨s, rest, rfl, hs⟩ := starts_iff.1 h
  exact starts_iff.2 ⟨s, rest ++ t', by rw [List.append_assoc, List.cons_append], hs⟩

lemma not_starts_nil : ¬ Starts [] := by decide

lemma Starts.length_pos {t : Text} (h : Starts t) : 0 < t.length := by
  cases t with
  | nil => exact absurd h not_starts_nil
  | cons c t => exact Nat.succ_pos _

lemma linkAt_append {enders link t : Text} (inner : ∀ c ∈ link, c ∉ enders)
    (ends : ∀ c ∈ t.head?, c ∈ enders) : linkAt enders (link ++ t) = link := by
  have hpos : ∀ c ∈ link, decide (c ∉ enders) = true := fun c hc => decide_eq_true (inner c hc)
  rw [linkAt, List.takeWhile_append_of_pos hpos]
  cases t with
  | nil => exact List.append_nil _
  | cons c t =>
    have hc : c ∈ enders := ends c rfl
    simp [hc]

lemma starts_linkAt {enders t : Text} (he : Enders enders) (h : Starts t) :
    Starts (linkAt enders t) := by
  obtain ⟨s, rest, rfl, hs⟩ := starts_iff.1 h
  have hpos : ∀ c ∈ s ++ [58], decide (c ∉ enders) = true := by
    intro c hc
    refine decide_eq_true fun hmem => ?_
    obtain ⟨hplain, hother⟩ := he.other c hmem
    rcases List.mem_append.1 hc with hc | hc
    · exact absurd (hs.plain hc) (by simp [hplain])
    · exact hother (List.mem_singleton.1 hc ▸ by decide)
  have hlink : linkAt enders (s ++ 58 :: rest) = s ++ 58 :: linkAt enders rest := by
    rw [linkAt, List.append_cons, List.takeWhile_append_of_pos hpos, List.append_assoc]
    rfl
  exact starts_iff.2 ⟨s, _, hlink, hs⟩

lemma findScheme_eq_none {t : Text} :
    findSchemeIgnoringCase kScheme t = none ↔ Quiet t [] := by
  rw [findSchemeIgnoringCase, findSuffix_eq_none]
  constructor
  · intro h i hi
    rw [List.append_nil]
    exact Bool.eq_false_iff.1 (h i hi.le)
  · intro h i hi
    rw [← Bool.not_eq_true]
    rcases Nat.lt_or_eq_of_le hi with hlt | rfl
    · have hquiet := h i hlt
      rwa [List.append_nil] at hquiet
    · rw [List.drop_length]
      exact not_starts_nil

lemma exists_split {enders : Text} (he : Enders enders) (t : Text) :
    ∃ parts tail, IsSplit enders parts tail ∧ join parts tail = t := by
  induction hn : t.length using Nat.strong_induction_on generalizing t with
  | _ n ih =>
    cases hfind : findSchemeIgnoringCase kScheme t with
    | none => exact ⟨[], t, .tail (findScheme_eq_none.1 hfind), rfl⟩
    | some found =>
      obtain ⟨hle, hstarts, hfirst⟩ := findSuffix_eq_some.1 hfind
      obtain ⟨here, hhere⟩ : ∃ here, t.drop found = here := ⟨_, rfl⟩
      rw [hhere] at hstarts
      have hlink : Starts (linkAt enders here) := starts_linkAt he hstarts
      have hspan : linkAt enders here ++ here.dropWhile (fun c => decide (c ∉ enders)) = here :=
        List.takeWhile_append_dropWhile
      have hlen : (here.dropWhile fun c => decide (c ∉ enders)).length < n := by
        have hsum := congrArg List.length hspan
        have hpos := hlink.length_pos
        rw [List.length_append, ← hhere, List.length_drop, hhere] at hsum
        omega
      obtain ⟨parts, tail, hsplit, hjoin⟩ := ih _ hlen _ rfl
      refine ⟨⟨t.take found, linkAt enders here⟩ :: parts, tail, ?_, ?_⟩
      · refine .part ?_ hlink ?_ ?_ hsplit
        · intro i hi
          rw [hjoin, hspan, ← hhere, List.take_append_drop]
          rw [List.length_take] at hi
          exact Bool.eq_false_iff.1 (hfirst i (by omega))
        · intro c hc
          exact of_decide_eq_true (List.all_eq_true.1 List.all_takeWhile c hc)
        · intro c hc
          rw [hjoin] at hc
          have hstop := List.head?_dropWhile_not (fun c => decide (c ∉ enders)) here
          rw [hc] at hstop
          simpa using hstop
      · show t.take found ++ (linkAt enders here ++ join parts tail) = t
        rw [hjoin, hspan, ← hhere, List.take_append_drop]

/-! ### The loop, part by part -/

section Loop

variable {enders : Text} {parts : List Part} {tail : Text}

lemma redactLoop_join (hs : IsSplit enders parts tail) {fuel : ℕ}
    (hfuel : (join parts tail).length ≤ fuel) :
    redactLoop kScheme enders fuel (join parts tail) = weave parts tail := by
  induction hs generalizing fuel with
  | tail quiet =>
    cases fuel with
    | zero => rfl
    | succ fuel =>
      rw [redactLoop, show findSchemeIgnoringCase kScheme (join [] _) = none from
        findScheme_eq_none.2 quiet]
      rfl
  | @part part parts tail quiet starts inner ends rest ih =>
    have hpos := starts.length_pos
    have hlen : (join (part :: parts) tail).length =
        part.before.length + (part.link.length + (join parts tail).length) := by
      rw [join, List.length_append, List.length_append]
    cases fuel with
    | zero => omega
    | succ fuel =>
      have hhere : findSchemeIgnoringCase kScheme (part.link ++ join parts tail) = some 0 := by
        rw [findSchemeIgnoringCase, findSuffix_eq_some]
        exact ⟨Nat.zero_le _, starts.append _, by omega⟩
      have hfind : findSchemeIgnoringCase kScheme (join (part :: parts) tail) =
          some part.before.length := by
        rw [join, findSchemeIgnoringCase, findSuffix_append fun i hi =>
          Bool.eq_false_iff.2 (quiet i hi), ← findSchemeIgnoringCase, hhere]
        rfl
      rw [redactLoop, hfind]
      simp only [join, weave, List.drop_left, List.take_left, linkAt_append inner ends]
      rw [ih (by omega)]

lemma redactLinks_join (hs : IsSplit enders parts tail) :
    redactLinks kScheme enders (join parts tail) = weave parts tail :=
  redactLoop_join hs le_rfl

lemma redactLinks_skip (he : Enders enders) {w t : Text} (h : Quiet w t) :
    redactLinks kScheme enders (w ++ t) = w ++ redactLinks kScheme enders t := by
  obtain ⟨parts, tail, hs, rfl⟩ := exists_split he t
  rw [redactLinks_join hs]
  cases hs with
  | tail quiet =>
    have hquiet : Quiet (w ++ tail) [] := Quiet.append (by rwa [List.append_nil]) quiet
    exact redactLinks_join (.tail hquiet)
  | @part part parts tail quiet starts inner ends rest =>
    have hsplit : IsSplit enders (⟨w ++ part.before, part.link⟩ :: parts) tail :=
      .part (h.append quiet) starts inner ends rest
    have hmore := redactLinks_join hsplit
    simpa only [join, weave, List.append_assoc] using hmore

lemma redactLinks_link (he : Enders enders) {link t : Text} (starts : Starts link)
    (inner : ∀ c ∈ link, c ∉ enders) (ends : ∀ c ∈ t.head?, c ∈ enders) :
    redactLinks kScheme enders (link ++ t) = reduce link t ++ redactLinks kScheme enders t := by
  obtain ⟨parts, tail, hs, rfl⟩ := exists_split he t
  rw [redactLinks_join hs]
  have hsplit : IsSplit enders (⟨[], link⟩ :: parts) tail :=
    .part (fun i hi => absurd hi (Nat.not_lt_zero i)) starts inner ends hs
  exact redactLinks_join hsplit

end Loop

/-! ### Redacting what is redacted -/

lemma marked_append {w : Text} (h : marked w = true) (t : Text) : marked (w ++ t) = true := by
  obtain ⟨digits, rest, hdigits, rfl⟩ := marked_iff.1 h
  exact marked_iff.2 ⟨digits, rest ++ t, hdigits, List.append_assoc _ _ _⟩

lemma marked_mark (size : ℕ) (t : Text) : marked (mark (decimal size) ++ t) = true :=
  marked_iff.2 ⟨_, t, digits_decimal size, rfl⟩

lemma head_of_marked {w : Text} (h : marked w = true) {c : ℕ} (hc : c ∈ w.head?) : c = 32 := by
  obtain ⟨digits, rest, -, rfl⟩ := marked_iff.1 h
  exact (Option.some.inj hc).symm

lemma marked_before {enders : Text} {part : Part} {parts : List Part} {tail : Text}
    (hs : IsSplit enders (part :: parts) tail) :
    marked (join (part :: parts) tail) = marked part.before := by
  cases hs with
  | part quiet starts inner ends rest =>
    refine Bool.eq_iff_iff.2 ⟨fun h => ?_, fun h => marked_append h _⟩
    obtain ⟨digits, after, hdigits, heq⟩ := marked_iff.1 h
    have hle : (mark digits).length ≤ part.before.length := by
      by_contra hlt
      -- the link would begin within the mark
      refine Quiet.of_lower (t := after) (fun c hc => lower_mark hdigits hc) part.before.length
        (by omega) ?_
      rw [← heq, join, List.drop_left]
      exact starts.append _
    have hpre : mark digits <+: part.before :=
      List.prefix_of_prefix_length_le ⟨after, heq.symm⟩ (List.prefix_append _ _) hle
    obtain ⟨rest, hrest⟩ := hpre
    exact marked_iff.2 ⟨digits, rest, hdigits, hrest.symm⟩

lemma marked_weave {enders : Text} {parts : List Part} {tail : Text}
    (hs : IsSplit enders parts tail) (h : marked (join parts tail) = true) :
    marked (weave parts tail) = true := by
  cases parts with
  | nil => exact h
  | cons part parts => exact marked_append (marked_before hs ▸ h) _

lemma IsShown.not_mem_enders {enders host : Text} (he : Enders enders) (h : IsShown host) {c : ℕ}
    (hc : c ∈ host) : c ∉ enders := by
  intro hmem
  obtain ⟨hplain, hother⟩ := he.other c hmem
  rcases h with rfl | h
  · exact hother (List.mem_singleton.1 hc ▸ by decide)
  · exact absurd ((isPlainToken_iff.1 h).2 c hc) (by simp [hplain])

section Again

variable {enders : Text} {parts : List Part} {tail : Text}

lemma redactLinks_shown (he : Enders enders) {s host : Text} (hs : IsScheme s) (h : IsShown host)
    {t : Text} (ht : marked t = true) :
    redactLinks kScheme enders (s ++ 58 :: 47 :: 47 :: host ++ t) =
      s ++ 58 :: 47 :: 47 :: host ++ redactLinks kScheme enders t := by
  have hinner : ∀ c ∈ s ++ 58 :: 47 :: 47 :: host, c ∉ enders := by
    intro c hc hmem
    obtain ⟨hplain, hother⟩ := he.other c hmem
    rw [List.mem_append, List.mem_cons, List.mem_cons, List.mem_cons] at hc
    rcases hc with hc | rfl | rfl | rfl | hc
    · exact absurd (hs.plain hc) (by simp [hplain])
    · exact hother (by decide)
    · exact hother (by decide)
    · exact hother (by decide)
    · exact h.not_mem_enders he hc hmem
  have hends : ∀ c ∈ t.head?, c ∈ enders := fun c hc => head_of_marked ht hc ▸ he.space
  rw [redactLinks_link he (starts_iff.2 ⟨s, _, rfl, hs⟩) hinner hends]
  rcases hs.reduce_slashes rfl t with ⟨-, -, hkept⟩ | ⟨hnot, -⟩
  · rw [hkept]
  · exact absurd ⟨h, ht⟩ hnot

lemma redactLinks_mark (he : Enders enders) (size : ℕ) (t : Text) :
    redactLinks kScheme enders (mark (decimal size) ++ t) =
      mark (decimal size) ++ redactLinks kScheme enders t :=
  redactLinks_skip he (Quiet.of_lower fun _ hc => lower_mark (digits_decimal size) hc)

lemma redactLinks_tag (he : Enders enders) (size : ℕ) (t : Text) :
    redactLinks kScheme enders (tag size ++ t) = tag size ++ redactLinks kScheme enders t := by
  refine redactLinks_skip he (Quiet.of_lower fun c hc => ?_)
  refine lower_mark (digits_decimal size) ?_
  rw [← space_append_tag]
  exact List.mem_append_right _ hc

lemma redactLinks_weave (he : Enders enders) (hs : IsSplit enders parts tail) :
    redactLinks kScheme enders (weave parts tail) = weave parts tail := by
  induction hs with
  | tail quiet => exact redactLinks_join (.tail quiet)
  | @part part parts tail quiet starts inner ends rest ih =>
    obtain ⟨s, hscheme, ⟨r, hlink⟩ | ⟨b, hlink, hb⟩⟩ := starts.cases
    · have hhead : (part.link ++ join parts tail).take 9 = s := by
        rw [hlink, List.append_assoc, hscheme.take_append]
      rcases hscheme.reduce_slashes hlink (join parts tail) with
        ⟨hshown, hmark, hred⟩ | ⟨-, hred⟩
      · -- the link is kept, and so is the mark after it
        have hmore := redactLinks_shown he hscheme hshown (marked_weave rest hmark)
        rw [← hlink, ih] at hmore
        rw [weave, hred, redactLinks_skip he (quiet.congr ?_), hmore]
        rw [hhead, hlink, List.append_assoc, hscheme.take_append]
      · -- the link is reduced, and the scheme and the host of it are kept from now on
        have hsplit : reduce part.link (join parts tail) ++ weave parts tail =
            s ++ 58 :: 47 :: 47 :: shownHost r ++
              (mark (decimal part.link.length) ++ weave parts tail) := by
          rw [hred]
          simp
        have hmore := redactLinks_shown he hscheme (isShown_shownHost r)
          (marked_mark part.link.length (weave parts tail))
        rw [redactLinks_mark he, ih, ← hsplit] at hmore
        rw [weave, redactLinks_skip he (quiet.congr ?_), hmore]
        rw [hhead, hsplit, List.append_assoc, hscheme.take_append]
    · -- nothing of the link is left, and a bracket is where it began
      have hred := hscheme.reduce_bare hb hlink (join parts tail)
      have hquiet : Quiet part.before (tag part.link.length ++ weave parts tail) := quiet.bracket
      rw [weave, hred, redactLinks_skip he hquiet, redactLinks_tag he, ih]

end Again

/-! ### What is told of a link -/

/-- The host of a link: plain units behind the scheme and its slashes, directly followed by a
slash, a question mark, a hash or the link's end. -/
def LinkHost (link host : Text) : Prop :=
  ∃ s rest, IsScheme s ∧ link = s ++ 58 :: 47 :: 47 :: rest ∧ HasHost rest host

lemma linkHost_iff {s rest host : Text} (hs : IsScheme s) :
    LinkHost (s ++ 58 :: 47 :: 47 :: rest) host ↔ HasHost rest host := by
  constructor
  · rintro ⟨s', rest', hs', heq, h⟩
    obtain ⟨-, hrest⟩ := List.append_inj heq (hs.length_eq.trans hs'.length_eq.symm)
    obtain rfl : rest = rest' := by simpa using hrest
    exact h
  · exact fun h => ⟨s, rest, hs, rfl, h⟩

/-- All that a log holds of a link: its length; the scheme, the host or a star, and the
length; or the link itself, where it is no more than a scheme and a host. -/
inductive Told (link : Text) : Text → Prop
  | length : Told link (tag link.length)
  | host {s host : Text} (scheme : IsScheme s) (spelled : s <+: link)
      (shown : host = units "*" ∨ LinkHost link host) :
      Told link (s ++ (units "://" ++ (host ++ (units " " ++ tag link.length))))
  | kept {s host : Text} (scheme : IsScheme s) (shown : IsShown host)
      (whole : link = s ++ (units "://" ++ host)) : Told link link

lemma told_reduce {link : Text} (starts : Starts link) (after : Text) :
    Told link (reduce link after) := by
  obtain ⟨s, hs, ⟨r, hlink⟩ | ⟨b, hlink, hb⟩⟩ := starts.cases
  · rcases hs.reduce_slashes hlink after with ⟨hshown, -, hred⟩ | ⟨-, hred⟩
    · rw [hred]
      exact .kept hs hshown hlink
    · rw [hred]
      refine .host hs ⟨_, hlink.symm⟩ ?_
      by_cases h : ∃ host, HasHost r host
      · obtain ⟨host, hhost⟩ := h
        rw [shownHost_of_hasHost hhost, hlink]
        exact .inr ((linkHost_iff hs).2 hhost)
      · exact .inl (shownHost_of_none fun host hhost => h ⟨host, hhost⟩)
  · rw [hs.reduce_bare hb hlink]
    exact .length

/-- What stands in the log for a part: all that is outside the link, and what is told of it. -/
structure Logged (part shown : Part) : Prop where
  before_eq : shown.before = part.before
  told : Told part.link shown.link

lemma weave_eq_join {enders : Text} {parts : List Part} {tail : Text}
    (hs : IsSplit enders parts tail) :
    ∃ shown, List.Forall₂ Logged parts shown ∧ weave parts tail = join shown tail := by
  induction hs with
  | tail quiet => exact ⟨[], .nil, rfl⟩
  | @part part parts tail quiet starts inner ends rest ih =>
    obtain ⟨shown, hlogged, heq⟩ := ih
    refine ⟨⟨part.before, reduce part.link (join parts tail)⟩ :: shown,
      .cons ⟨rfl, told_reduce starts _⟩ hlogged, ?_⟩
    rw [weave, heq]
    rfl

/-! ### What is not told -/

/-- Two links of one length, with one spelling of the scheme and with the same host or none. -/
structure Agree (link link' : Text) : Prop where
  length_eq : link.length = link'.length
  scheme : link.take 9 = link'.take 9
  host : ∀ host, LinkHost link host ↔ LinkHost link' host

/-- They also agree on whether slashes follow the scheme, and on whether a star is all that
follows these: a link with the star is what `RedactUrl` writes. -/
structure Alike (link link' : Text) : Prop extends Agree link link' where
  slashes : (link.drop 10).take 2 = units "//" ↔ (link'.drop 10).take 2 = units "//"
  star : link.drop 10 = units "//*" ↔ link'.drop 10 = units "//*"

lemma IsShown.eq_of_alike {r r' : Text} (h : IsShown r) (hlen : r.length = r'.length)
    (hstar : r = units "*" → r' = units "*") (hhost : ∀ host, HasHost r host → HasHost r' host) :
    r = r' := by
  rcases h with h | h
  · rw [h, hstar h]
  · obtain ⟨hle, hplain⟩ := isPlainToken_iff.1 h
    have hself : HasHost r r := ⟨hplain, hle, [], by rw [List.append_nil], nofun⟩
    obtain ⟨tail, rfl, -⟩ := (hhost r hself).follows
    have htail : tail = [] := by
      rw [List.length_append] at hlen
      exact List.eq_nil_of_length_eq_zero (by omega)
    rw [htail, List.append_nil]

lemma shownHost_congr {r r' : Text} (h : ∀ host, HasHost r host ↔ HasHost r' host) :
    shownHost r = shownHost r' := by
  by_cases hex : ∃ host, HasHost r host
  · obtain ⟨host, hhost⟩ := hex
    rw [shownHost_of_hasHost hhost, shownHost_of_hasHost ((h host).1 hhost)]
  · have hnone : ∀ host, ¬ HasHost r host := fun host hhost => hex ⟨host, hhost⟩
    rw [shownHost_of_none hnone, shownHost_of_none fun host hhost => hnone host ((h host).2 hhost)]

lemma reduce_alike {link link' after after' : Text} (starts : Starts link)
    (starts' : Starts link') (h : Alike link link') (hmark : marked after = marked after') :
    reduce link after = reduce link' after' := by
  obtain ⟨s, b, hlink, hs⟩ := starts_iff.1 starts
  obtain ⟨s', b', hlink', hs'⟩ := starts_iff.1 starts'
  obtain rfl : s = s' := by
    have hspell := h.scheme
    rwa [hlink, hlink', hs.take_append, hs'.take_append] at hspell
  have hlen : b.length = b'.length := by
    have hsum := h.length_eq
    rw [hlink, hlink', List.length_append, List.length_append, List.length_cons,
      List.length_cons] at hsum
    omega
  have hslashes := h.slashes
  have hstar := h.star
  rw [hlink, hlink', hs.drop_ten, hs.drop_ten] at hslashes hstar
  by_cases hb : b.take 2 = [47, 47]
  · have hb' : b'.take 2 = [47, 47] := hslashes.1 hb
    obtain ⟨r, rfl⟩ := exists_of_slashes hb
    obtain ⟨r', rfl⟩ := exists_of_slashes hb'
    have hhost : ∀ host, HasHost r host ↔ HasHost r' host := fun host => by
      have hiff := h.host host
      rwa [hlink, hlink', linkHost_iff hs, linkHost_iff hs] at hiff
    have hlen' : r.length = r'.length := by simpa using hlen
    have hstar' : r = units "*" ↔ r' = units "*" := by simpa [units] using hstar
    have hkept : IsShown r ∨ IsShown r' → r = r' := by
      rintro (hshown | hshown)
      · exact hshown.eq_of_alike hlen' hstar'.1 fun host => (hhost host).1
      · exact (hshown.eq_of_alike hlen'.symm hstar'.2 fun host => (hhost host).2).symm
    rcases hs.reduce_slashes hlink after with ⟨hshown, hm, hred⟩ | ⟨hnot, hred⟩
    · -- the one is kept, so it is the other
      obtain rfl := hkept (.inl hshown)
      rcases hs.reduce_slashes hlink' after' with ⟨-, -, hred'⟩ | ⟨hnot', -⟩
      · rw [hred, hred', hlink, hlink']
      · exact absurd ⟨hshown, hmark ▸ hm⟩ hnot'
    · rcases hs.reduce_slashes hlink' after' with ⟨hshown', hm', -⟩ | ⟨-, hred'⟩
      · obtain rfl := hkept (.inr hshown')
        exact absurd ⟨hshown', hmark ▸ hm'⟩ hnot
      · rw [hred, hred', shownHost_congr hhost, h.length_eq]
  · have hb' : b'.take 2 ≠ [47, 47] := fun heq => hb (hslashes.2 heq)
    rw [hs.reduce_bare hb hlink, hs.reduce_bare hb' hlink', h.length_eq]

/-- Two parts with the same before them, and links that agree. -/
structure SameButLink (part part' : Part) : Prop where
  before_eq : part.before = part'.before
  alike : Alike part.link part'.link

lemma marked_alike {enders : Text} {parts parts' : List Part} {tail : Text}
    (hs : IsSplit enders parts tail) (hs' : IsSplit enders parts' tail)
    (h : List.Forall₂ SameButLink parts parts') :
    marked (join parts tail) = marked (join parts' tail) := by
  cases h with
  | nil => rfl
  | cons hpart hparts => rw [marked_before hs, marked_before hs', hpart.before_eq]

lemma weave_alike {enders : Text} {parts parts' : List Part} {tail : Text}
    (hs : IsSplit enders parts tail) (hs' : IsSplit enders parts' tail)
    (h : List.Forall₂ SameButLink parts parts') : weave parts tail = weave parts' tail := by
  induction h with
  | nil => rfl
  | @cons part part' parts parts' hpart hparts ih =>
    cases hs with
    | part quiet starts inner ends rest =>
      cases hs' with
      | part quiet' starts' inner' ends' rest' =>
        rw [weave, weave, ih rest rest', hpart.before_eq,
          reduce_alike starts starts' hpart.alike (marked_alike rest rest' hparts)]

/-! ### The link that the app acts on -/

/-- What is found, at this place of the text that the parts make up, is the end of one of
their links. -/
def Within (parts : List Part) (first : ℕ) (found : Text) : Prop :=
  ∃ parts₁ part parts₂ w, parts = parts₁ ++ part :: parts₂ ∧ part.link = w ++ found ∧
    first = (join parts₁ part.before).length + w.length

lemma Within.cons {parts : List Part} {first : ℕ} {found : Text} (h : Within parts first found)
    (part : Part) :
    Within (part :: parts) (part.before.length + (part.link.length + first)) found := by
  obtain ⟨parts₁, p, parts₂, w, rfl, hlink, rfl⟩ := h
  refine ⟨part :: parts₁, p, parts₂, w, rfl, hlink, ?_⟩
  rw [join, List.length_append, List.length_append]
  omega

lemma within_of_starts {enders : Text} {parts : List Part} {tail : Text}
    (hs : IsSplit enders parts tail) {i : ℕ} (h : Starts ((join parts tail).drop i)) :
    Within parts i (linkAt enders ((join parts tail).drop i)) := by
  induction hs generalizing i with
  | @tail tail quiet =>
    have hlt : i < tail.length := by
      by_contra hge
      rw [join, List.drop_of_length_le (by omega)] at h
      exact not_starts_nil h
    refine absurd h ?_
    rw [join, ← List.append_nil tail]
    exact quiet i hlt
  | @part part parts tail quiet starts inner ends rest ih =>
    have hge : part.before.length ≤ i := by
      by_contra hlt
      exact quiet i (by omega) h
    obtain ⟨k, rfl⟩ := Nat.exists_eq_add_of_le hge
    rw [join, ← List.drop_drop, List.drop_left] at h ⊢
    by_cases hk : k < part.link.length
    · refine ⟨[], part, parts, part.link.take k, rfl, ?_, ?_⟩
      · have hdrop : (part.link ++ join parts tail).drop k =
            part.link.drop k ++ join parts tail := by
          rw [List.drop_append, show k - part.link.length = 0 by omega, List.drop_zero]
        have hinner : ∀ c ∈ part.link.drop k, c ∉ enders :=
          fun c hc => inner c (List.mem_of_mem_drop hc)
        rw [hdrop, linkAt_append hinner ends, List.take_append_drop]
      · rw [List.length_take, Nat.min_eq_left hk.le]
        rfl
    · obtain ⟨j, rfl⟩ := Nat.exists_eq_add_of_le (Nat.le_of_not_lt hk)
      rw [← List.drop_drop, List.drop_left] at h ⊢
      exact (ih h).cons part

lemma starts_of_slashed {t : Text} (h : startsIgnoringCase (units "urnetwork://") t = true) :
    Starts t := by
  rw [startsIgnoringCase, equalsLower, decide_eq_true_eq] at h
  rw [Starts, startsIgnoringCase, equalsLower, decide_eq_true_eq]
  have hten := congrArg (List.take 10) h
  rw [← List.map_take, List.take_take] at hten
  exact hten

lemma within_of_linkInCommandLine {parts : List Part} {tail link : Text} {first : ℕ}
    (hs : IsSplit lineEnders parts tail)
    (h : linkInCommandLine (join parts tail) = some (first, link)) : Within parts first link := by
  rw [linkInCommandLine, Option.map_eq_some_iff] at h
  obtain ⟨i, hi, heq⟩ := h
  obtain ⟨rfl, rfl⟩ := Prod.mk.inj heq
  exact within_of_starts hs (starts_of_slashed (findSuffix_eq_some.1 hi).2.1)

/-! ### The log -/

/-- What a redaction with these enders promises for every text: to redact its result changes
nothing; all outside the links is kept, in order, and no more than `Told` of each link; and
two texts with the same outside their links and with links that agree have one result. -/
structure LinkFree (enders : Text) (redact : Text → Text) : Prop where
  idempotent : ∀ text, redact (redact text) = redact text
  split : ∀ text, ∃ parts tail, IsSplit enders parts tail ∧ join parts tail = text
  outside : ∀ parts tail, IsSplit enders parts tail →
    ∃ shown, List.Forall₂ Logged parts shown ∧ redact (join parts tail) = join shown tail
  inside : ∀ parts parts' tail, IsSplit enders parts tail → IsSplit enders parts' tail →
    List.Forall₂ SameButLink parts parts' → redact (join parts tail) = redact (join parts' tail)

lemma linkFree {enders : Text} (he : Enders enders) :
    LinkFree enders (redactLinks kScheme enders) where
  idempotent := by
    intro text
    obtain ⟨parts, tail, hs, rfl⟩ := exists_split he text
    rw [redactLinks_join hs, redactLinks_weave he hs]
  split := exists_split he
  outside := by
    intro parts tail hs
    rw [redactLinks_join hs]
    exact weave_eq_join hs
  inside := by
    intro parts parts' tail hs hs' h
    rw [redactLinks_join hs, redactLinks_join hs', weave_alike hs hs' h]

theorem nothing_else_of_link_logged :
    LinkFree lineEnders redactCommandLine ∧ LinkFree logEnders redactLogText ∧
      ∀ parts tail first link, IsSplit lineEnders parts tail →
        linkInCommandLine (join parts tail) = some (first, link) → Within parts first link :=
  ⟨linkFree enders_line, linkFree enders_log, fun _ _ _ _ => within_of_linkInCommandLine⟩

/-! ### Two lines -/

lemma split_one {enders before link tail : Text} (quiet : ∀ c ∈ before, lower c ≠ 117)
    (starts : Starts link) (inner : ∀ c ∈ link, c ∉ enders) (ends : ∀ c ∈ tail.head?, c ∈ enders)
    (rest : ∀ c ∈ tail, lower c ≠ 117) : IsSplit enders [⟨before, link⟩] tail :=
  .part (Quiet.of_lower quiet) starts inner ends (.tail (Quiet.of_lower rest))

lemma LinkHost.iff_eq {link host host' : Text} (h : LinkHost link host) :
    LinkHost link host' ↔ host' = host := by
  obtain ⟨s, rest, hs, rfl, hhost⟩ := h
  rw [linkHost_iff hs]
  constructor
  · intro hhost'
    rw [← shownHost_of_hasHost hhost, shownHost_of_hasHost hhost']
  · rintro rfl
    exact hhost

/-- The lines of two sign-ins read the same, and the app acts on the link that was there. -/
theorem nothing_else_of_link_logged_sample :
    redactCommandLine (units "app.exe \"urnetwork://auth/?code=2717\"") =
        redactCommandLine (units "app.exe \"urnetwork://auth/?code=3141\"") ∧
      Within [⟨units "app.exe \"", units "urnetwork://auth/?code=2717"⟩] 9
        (units "urnetwork://auth/?code=2717") := by
  have hs₁ : IsSplit lineEnders [⟨units "app.exe \"", units "urnetwork://auth/?code=2717"⟩]
      (units "\"") := split_one (by decide) (by decide) (by decide) (by decide) (by decide)
  have hs₂ : IsSplit lineEnders [⟨units "app.exe \"", units "urnetwork://auth/?code=3141"⟩]
      (units "\"") := split_one (by decide) (by decide) (by decide) (by decide) (by decide)
  have hhost : ∀ code : Text,
      LinkHost (units "urnetwork://auth/?code=" ++ code) (units "auth") := fun code =>
    ⟨units "urnetwork", units "auth/?code=" ++ code, rfl, rfl, by decide, by decide,
      units "/?code=" ++ code, rfl, fun c hc => Option.some.inj hc ▸ by decide⟩
  have halike : Alike (units "urnetwork://auth/?code=2717")
      (units "urnetwork://auth/?code=3141") := by
    refine ⟨⟨by decide, by decide, fun host => ?_⟩, by decide, by decide⟩
    exact (hhost (units "2717")).iff_eq.trans (hhost (units "3141")).iff_eq.symm
  obtain ⟨hline, -, hfound⟩ := nothing_else_of_link_logged
  refine ⟨?_, hfound _ _ _ _ hs₁ (by decide)⟩
  have hsame := hline.inside _ _ _ hs₁ hs₂ (.cons ⟨rfl, halike⟩ .nil)
  have hjoin₁ : units "app.exe \"urnetwork://auth/?code=2717\"" =
      join [⟨units "app.exe \"", units "urnetwork://auth/?code=2717"⟩] (units "\"") := by decide
  have hjoin₂ : units "app.exe \"urnetwork://auth/?code=3141\"" =
      join [⟨units "app.exe \"", units "urnetwork://auth/?code=3141"⟩] (units "\"") := by decide
  rw [hjoin₁, hjoin₂, hsame]

lemma not_linkHost {s : Text} {c : ℕ} (hs : IsScheme s) (hplain : isPlain c = false)
    (hc : c ∉ units "/?#") (host : Text) : ¬ LinkHost (s ++ 58 :: 47 :: 47 :: [c]) host := by
  rw [linkHost_iff hs]
  rintro ⟨hhost, -, tail, heq, htail⟩
  cases host with
  | nil => exact hc (htail c (by rw [← List.nil_append tail, ← heq]; rfl))
  | cons k host =>
    obtain ⟨rfl, -⟩ := List.cons.inj heq
    exact absurd (hhost c (List.mem_cons_self)) (by simp [hplain])

/-- A star where a host would be is told apart from another unit that is none: before words
that `RedactUrl` writes, only the former is taken for what it wrote. -/
theorem star_told_apart : ¬ ∀ parts parts' tail,
    IsSplit lineEnders parts tail → IsSplit lineEnders parts' tail →
    List.Forall₂ (fun part part' => part.before = part'.before ∧ Agree part.link part'.link)
      parts parts' →
    redactCommandLine (join parts tail) = redactCommandLine (join parts' tail) := by
  intro h
  have heq := h [⟨[], units "urnetwork://*"⟩] [⟨[], units "urnetwork://@"⟩]
    (units " [redacted 5 chars]")
    (split_one (by decide) (by decide) (by decide) (by decide) (by decide))
    (split_one (by decide) (by decide) (by decide) (by decide) (by decide))
    (.cons ⟨rfl, by decide, by decide, fun host => ?_⟩ .nil)
  · exact absurd heq (by decide)
  · have hscheme : IsScheme (units "urnetwork") := rfl
    exact iff_of_false (not_linkHost (c := 42) hscheme (by decide) (by decide) host)
      (not_linkHost (c := 64) hscheme (by decide) (by decide) host)

-- so are a link without its slashes and one of the same length with them, and without a host
example : redactCommandLine (units "urnetwork:abc") ≠
    redactCommandLine (units "urnetwork://@") := by decide

end UrnetworkWindows.SignIn.Redact
