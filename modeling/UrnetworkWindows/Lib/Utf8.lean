/-
Well-formed UTF-8, as the grammar of RFC 3629 (section 4) has it.

The rules are named by their first octets.  `Utf8.Char` is one character and
`Utf8.Octets` a string of them.
-/
import UrnetworkWindows.Lib.Text

namespace UrnetworkWindows.Lib.Utf8

/-- `UTF8-tail`. -/
def Tail (d : UInt8) : Prop := 0x80 ≤ d ∧ d ≤ 0xBF

/-- `UTF8-char`. -/
inductive Char : List UInt8 → Prop
  | ascii {a} : a ≤ 0x7F → Char [a]
  | two {a b} : 0xC2 ≤ a → a ≤ 0xDF → Tail b → Char [a, b]
  | threeE0 {b c} : 0xA0 ≤ b → b ≤ 0xBF → Tail c → Char [0xE0, b, c]
  | threeE1EC {a b c} : 0xE1 ≤ a → a ≤ 0xEC → Tail b → Tail c → Char [a, b, c]
  | threeED {b c} : 0x80 ≤ b → b ≤ 0x9F → Tail c → Char [0xED, b, c]
  | threeEEEF {a b c} : 0xEE ≤ a → a ≤ 0xEF → Tail b → Tail c → Char [a, b, c]
  | fourF0 {b c d} : 0x90 ≤ b → b ≤ 0xBF → Tail c → Tail d → Char [0xF0, b, c, d]
  | fourF1F3 {a b c d} : 0xF1 ≤ a → a ≤ 0xF3 → Tail b → Tail c → Tail d → Char [a, b, c, d]
  | fourF4 {b c d} : 0x80 ≤ b → b ≤ 0x8F → Tail c → Tail d → Char [0xF4, b, c, d]

/-- `UTF8-octets`. -/
inductive Octets : List UInt8 → Prop
  | nil : Octets []
  | cons {char rest} : Char char → Octets rest → Octets (char ++ rest)

/-! ### In numbers -/

lemma tail_iff {d : UInt8} : Tail d ↔ 128 ≤ d.toNat ∧ d.toNat ≤ 191 := by
  rw [Tail, UInt8.le_iff_toNat_le, UInt8.le_iff_toNat_le]
  rfl

/-- A tail is known by its first two bits. -/
lemma tail_iff_bits (d : UInt8) : d &&& 0xC0 = 0x80 ↔ Tail d := by
  rw [tail_iff]
  exact forall_byte (p := fun d => d &&& 0xC0 = 0x80 ↔ 128 ≤ d.toNat ∧ d.toNat ≤ 191)
    (by decide +kernel) d

lemma char_one_iff {a : UInt8} : Char [a] ↔ a.toNat ≤ 127 := by
  constructor
  · rintro ⟨h⟩
    exact UInt8.le_iff_toNat_le.1 h
  · exact fun h => .ascii (UInt8.le_iff_toNat_le.2 h)

lemma char_two_iff {a b : UInt8} : Char [a, b] ↔ 194 ≤ a.toNat ∧ a.toNat ≤ 223 ∧ Tail b := by
  constructor
  · rintro (_ | ⟨hlow, hhigh, hb⟩)
    exact ⟨UInt8.le_iff_toNat_le.1 hlow, UInt8.le_iff_toNat_le.1 hhigh, hb⟩
  · rintro ⟨hlow, hhigh, hb⟩
    exact .two (UInt8.le_iff_toNat_le.2 hlow) (UInt8.le_iff_toNat_le.2 hhigh) hb

/-- Three octets: those of a code point of 16 bits, not of 11 and no surrogate. -/
lemma char_three_iff {a b c : UInt8} : Char [a, b, c] ↔
    224 ≤ a.toNat ∧ a.toNat ≤ 239 ∧ Tail b ∧ Tail c ∧
      (a.toNat = 224 → 160 ≤ b.toNat) ∧ (a.toNat = 237 → b.toNat ≤ 159) := by
  constructor
  · rintro (_ | _ | ⟨hb, hb', hc⟩ | ⟨ha, ha', hb, hc⟩ | ⟨hb, hb', hc⟩ | ⟨ha, ha', hb, hc⟩)
    all_goals
      simp only [tail_iff, UInt8.le_iff_toNat_le, UInt8.reduceToNat] at *
      omega
  · rintro ⟨ha, ha', hb, hc, hE0, hED⟩
    obtain h | h | h | h : a.toNat = 224 ∨ (225 ≤ a.toNat ∧ a.toNat ≤ 236) ∨ a.toNat = 237 ∨
        (238 ≤ a.toNat ∧ a.toNat ≤ 239) := by omega
    · obtain rfl : a = 0xE0 := UInt8.toNat_inj.1 h
      exact .threeE0 (UInt8.le_iff_toNat_le.2 (hE0 h)) hb.2 hc
    · exact .threeE1EC (UInt8.le_iff_toNat_le.2 h.1) (UInt8.le_iff_toNat_le.2 h.2) hb hc
    · obtain rfl : a = 0xED := UInt8.toNat_inj.1 h
      exact .threeED hb.1 (UInt8.le_iff_toNat_le.2 (hED h)) hc
    · exact .threeEEEF (UInt8.le_iff_toNat_le.2 h.1) (UInt8.le_iff_toNat_le.2 h.2) hb hc

/-- Four octets: those of a code point past 16 bits, up to U+10FFFF. -/
lemma char_four_iff {a b c d : UInt8} : Char [a, b, c, d] ↔
    240 ≤ a.toNat ∧ a.toNat ≤ 244 ∧ Tail b ∧ Tail c ∧ Tail d ∧
      (a.toNat = 240 → 144 ≤ b.toNat) ∧ (a.toNat = 244 → b.toNat ≤ 143) := by
  constructor
  · rintro (_ | _ | _ | _ | _ | _ | ⟨hb, hb', hc, hd⟩ | ⟨ha, ha', hb, hc, hd⟩ | ⟨hb, hb', hc, hd⟩)
    all_goals
      simp only [tail_iff, UInt8.le_iff_toNat_le, UInt8.reduceToNat] at *
      omega
  · rintro ⟨ha, ha', hb, hc, hd, hF0, hF4⟩
    obtain h | h | h : a.toNat = 240 ∨ (241 ≤ a.toNat ∧ a.toNat ≤ 243) ∨ a.toNat = 244 := by omega
    · obtain rfl : a = 0xF0 := UInt8.toNat_inj.1 h
      exact .fourF0 (UInt8.le_iff_toNat_le.2 (hF0 h)) hb.2 hc hd
    · exact .fourF1F3 (UInt8.le_iff_toNat_le.2 h.1) (UInt8.le_iff_toNat_le.2 h.2) hb hc hd
    · obtain rfl : a = 0xF4 := UInt8.toNat_inj.1 h
      exact .fourF4 hb.1 (UInt8.le_iff_toNat_le.2 (hF4 h)) hc hd

lemma Char.length_pos {char : List UInt8} (h : Char char) : 0 < char.length := by
  cases h <;> simp

/-- The first octet says how many there are. -/
lemma Char.length_eq {a : UInt8} {rest : List UInt8} (h : Char (a :: rest)) :
    rest.length = if a.toNat < 128 then 0 else if a.toNat < 224 then 1 else
      if a.toNat < 240 then 2 else 3 := by
  cases h
  all_goals
    simp only [UInt8.le_iff_toNat_le, UInt8.reduceToNat] at *
    simp only [List.length_cons, List.length_nil]
    split_ifs <;> omega

/-- The octets that characters begin with. -/
lemma Char.first {a : UInt8} {rest : List UInt8} (h : Char (a :: rest)) :
    a.toNat ≤ 127 ∨ (194 ≤ a.toNat ∧ a.toNat ≤ 244) := by
  cases h
  all_goals
    simp only [UInt8.le_iff_toNat_le, UInt8.reduceToNat] at *
    omega

/-- No character is the beginning of another. -/
lemma Char.append_inj {char char' rest rest' : List UInt8} (h : Char char) (h' : Char char')
    (heq : char ++ rest = char' ++ rest') : char = char' ∧ rest = rest' := by
  refine List.append_inj heq ?_
  obtain ⟨a, ds, rfl⟩ := List.exists_cons_of_length_pos h.length_pos
  obtain ⟨b, es, rfl⟩ := List.exists_cons_of_length_pos h'.length_pos
  obtain rfl : a = b := (List.cons.inj heq).1
  rw [List.length_cons, List.length_cons, h.length_eq, h'.length_eq]

lemma octets_cons_iff {a : UInt8} {s : List UInt8} :
    Octets (a :: s) ↔ ∃ ds rest, Char (a :: ds) ∧ s = ds ++ rest ∧ Octets rest := by
  constructor
  · generalize hs : a :: s = t
    rintro (_ | ⟨hchar, hrest⟩)
    · cases hs
    · obtain ⟨b, ds, rfl⟩ := List.exists_cons_of_length_pos hchar.length_pos
      obtain ⟨rfl, rfl⟩ := List.cons.inj hs
      exact ⟨ds, _, hchar, rfl, hrest⟩
  · rintro ⟨ds, rest, hchar, rfl, hrest⟩
    exact .cons hchar hrest

lemma octets_append_iff {char rest : List UInt8} (h : Char char) :
    Octets (char ++ rest) ↔ Octets rest := by
  refine ⟨fun hall => ?_, .cons h⟩
  generalize hs : char ++ rest = t at hall
  rcases hall with _ | ⟨hchar, hrest⟩
  · have hpos := h.length_pos
    rw [(List.append_eq_nil_iff.1 hs).1] at hpos
    exact absurd hpos (lt_irrefl 0)
  · exact (h.append_inj hchar hs).2 ▸ hrest

/-! ### Where characters end -/

/-- A character is one octet of ASCII, or begins with no tail and goes on with tails. -/
lemma Char.cases_ascii {char : List UInt8} (h : Char char) :
    (∃ a : UInt8, char = [a] ∧ a.toNat < 128) ∨
      ∃ a ds, char = a :: ds ∧ ds ≠ [] ∧ 194 ≤ a.toNat ∧ ∀ d ∈ ds, Tail d := by
  cases h with
  | ascii ha =>
    refine .inl ⟨_, rfl, ?_⟩
    exact Nat.lt_succ_of_le (UInt8.le_iff_toNat_le.1 ha)
  | _ =>
    right
    refine ⟨_, _, rfl, List.cons_ne_nil _ _, ?_, ?_⟩
    all_goals
      simp only [Tail, List.forall_mem_cons, List.not_mem_nil, false_imp_iff, implies_true,
        UInt8.le_iff_toNat_le, UInt8.reduceToNat, and_true] at *
      omega

lemma Octets.append_iff {s t : List UInt8} (h : Octets s) : Octets (s ++ t) ↔ Octets t := by
  induction h with
  | nil => rw [List.nil_append]
  | cons hchar _ ih => rw [List.append_assoc, octets_append_iff hchar, ih]

instance decidableForallMemLe (s : List UInt8) : Decidable (∀ c ∈ s, c ≤ 0x7F) :=
  List.decidableBAll _ s

lemma octets_of_ascii {s : List UInt8} (h : ∀ c ∈ s, c ≤ 0x7F) : Octets s := by
  induction s with
  | nil => exact .nil
  | cons c s ih =>
    obtain ⟨hc, hs⟩ := List.forall_mem_cons.1 h
    exact .cons (.ascii hc) (ih hs)

/-- The character that an octet belongs to. -/
lemma Octets.exists_char {t : List UInt8} (h : Octets t) {n : ℕ} (hn : n < t.length) :
    ∃ s char rest, t = s ++ (char ++ rest) ∧ Octets s ∧ Char char ∧
      s.length ≤ n ∧ n < s.length + char.length := by
  induction h generalizing n with
  | nil => exact absurd hn n.not_lt_zero
  | @cons char rest hchar _ ih =>
    rcases lt_or_ge n char.length with hlt | hle
    · exact ⟨[], char, rest, rfl, .nil, hchar, Nat.zero_le n, by simpa using hlt⟩
    · rw [List.length_append] at hn
      obtain ⟨s, char', rest', rfl, hs, hchar', hlow, hhigh⟩ := ih (n := n - char.length) (by omega)
      refine ⟨char ++ s, char', rest', (List.append_assoc ..).symm, .cons hchar hs, hchar', ?_, ?_⟩
      all_goals
        rw [List.length_append]
        omega

/-- An octet that begins a longer character is followed by a tail. -/
lemma Octets.tail_of_lead {a d : UInt8} {s : List UInt8} (h : Octets (a :: d :: s))
    (ha : 128 ≤ a.toNat) : Tail d := by
  obtain ⟨ds, rest, hchar, hs, -⟩ := octets_cons_iff.1 h
  rcases hchar.cases_ascii with ⟨b, heq, hb⟩ | ⟨b, es, heq, hne, -, htail⟩
  · obtain ⟨rfl, -⟩ := List.cons.inj heq
    omega
  · obtain ⟨rfl, rfl⟩ := List.cons.inj heq
    obtain ⟨e, es, rfl⟩ := List.exists_cons_of_ne_nil hne
    obtain ⟨rfl, -⟩ := List.cons.inj hs
    exact htail _ (List.mem_cons_self ..)

end UrnetworkWindows.Lib.Utf8
