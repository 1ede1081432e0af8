/-
The names of files that an update may touch (`UpdateFormats.h`).

A name is a leftover of the swap exactly where it is a stem with `.old`, or with `.old-` and
digits, and nothing after it.  The matcher looks at the last `.old` only: neither ending holds a
second dot, so where one of them fits there is no later one.
-/
import UrnetworkWindows.Lib.Scan
import UrnetworkWindows.Lib.Text

namespace UrnetworkWindows.Update

open Lib

/-- `EqualsAsciiCaseless`. -/
def equalsAsciiCaseless (a b : List UInt8) : Bool :=
  decide (a.map lowerNarrow = b.map lowerNarrow)

/-- `IsAllowedPayloadName`. -/
def isAllowedPayloadName (name : List UInt8) : Bool :=
  if name = [] ∨ name = narrow "." ∨ name = narrow ".." then false
  else if name.any fun c => c = '/'.toUInt8 ∨ c = '\\'.toUInt8 ∨ c = ':'.toUInt8 then false
  else
    match rfind (narrow ".") name with
    | none => false
    | some dot =>
      if dot = 0 then false
      else
        let ext := name.drop dot
        equalsAsciiCaseless ext (narrow ".exe") || equalsAsciiCaseless ext (narrow ".dll") ||
          equalsAsciiCaseless ext (narrow ".pri")

/-- What may follow the `.old` of a leftover. -/
def isStaleTail : List UInt8 → Bool
  | [] => true
  | c :: digits =>
    c = '-'.toUInt8 && digits ≠ [] && digits.all fun d => '0'.toUInt8 ≤ d ∧ d ≤ '9'.toUInt8

/-- `IsStaleRenamedName`. -/
def isStaleRenamedName (name : List UInt8) : Bool :=
  match rfind (narrow ".old") name with
  | none => false
  | some pos => if pos = 0 then false else isStaleTail (name.drop (pos + 4))

/-! ### The shapes -/

/-- A leftover of the swap. -/
def IsLeftover (name : List UInt8) : Prop :=
  ∃ stem, stem ≠ [] ∧
    (name = stem ++ narrow ".old" ∨
      ∃ digits, name = stem ++ narrow ".old-" ++ digits ∧ digits ≠ [] ∧
        ∀ d ∈ digits, '0'.toUInt8 ≤ d ∧ d ≤ '9'.toUInt8)

/-- An extension of the payload, in either case. -/
def IsPayloadExt (ext : List UInt8) : Prop :=
  ext.map lowerNarrow = narrow ".exe" ∨ ext.map lowerNarrow = narrow ".dll" ∨
    ext.map lowerNarrow = narrow ".pri"

/-- A plain file of the payload. -/
structure IsPayload (name : List UInt8) : Prop where
  plain : ∀ c ∈ name, c ≠ '/'.toUInt8 ∧ c ≠ '\\'.toUInt8 ∧ c ≠ ':'.toUInt8
  shape : ∃ stem ext, name = stem ++ ext ∧ stem ≠ [] ∧ IsPayloadExt ext

/-! ### The matchers -/

section Payload

variable {name stem ext : List UInt8}

lemma equalsAsciiCaseless_iff {a b : List UInt8} (hb : b.map lowerNarrow = b) :
    equalsAsciiCaseless a b = true ↔ a.map lowerNarrow = b := by
  rw [equalsAsciiCaseless, hb, decide_eq_true_iff]

lemma eq_dot_of_lowerNarrow {c : UInt8} (h : lowerNarrow c = '.'.toUInt8) : c = '.'.toUInt8 := by
  have hnat : (lowerNarrow c).toNat = 46 := congrArg UInt8.toNat h
  rw [toNat_lowerNarrow] at hnat
  apply UInt8.toNat_inj.1
  show c.toNat = 46
  split_ifs at hnat <;> omega

lemma IsPayloadExt.exists_letters (h : IsPayloadExt ext) :
    ∃ letters, ext = '.'.toUInt8 :: letters ∧ '.'.toUInt8 ∉ letters := by
  have hmap : ∃ letters, ext.map lowerNarrow = '.'.toUInt8 :: letters ∧ '.'.toUInt8 ∉ letters := by
    rcases h with h | h | h
    all_goals exact ⟨_, h, by decide⟩
  obtain ⟨letters, hmap, hdot⟩ := hmap
  obtain ⟨c, rest, rfl, hc, rfl⟩ := List.map_eq_cons_iff.1 hmap
  refine ⟨rest, by rw [eq_dot_of_lowerNarrow hc], fun hmem => hdot ?_⟩
  exact List.mem_map.2 ⟨'.'.toUInt8, hmem, rfl⟩

lemma IsPayloadExt.length_eq (h : IsPayloadExt ext) : ext.length = 4 := by
  rw [← List.length_map lowerNarrow]
  rcases h with h | h | h
  all_goals
    rw [h]
    rfl

lemma isPayloadExt_iff :
    (equalsAsciiCaseless ext (narrow ".exe") || equalsAsciiCaseless ext (narrow ".dll") ||
      equalsAsciiCaseless ext (narrow ".pri")) = true ↔ IsPayloadExt ext := by
  rw [Bool.or_eq_true, Bool.or_eq_true, equalsAsciiCaseless_iff (by decide),
    equalsAsciiCaseless_iff (by decide), equalsAsciiCaseless_iff (by decide), or_assoc]
  rfl

lemma any_separator_eq_false :
    (name.any fun c => c = '/'.toUInt8 ∨ c = '\\'.toUInt8 ∨ c = ':'.toUInt8) = false ↔
      ∀ c ∈ name, c ≠ '/'.toUInt8 ∧ c ≠ '\\'.toUInt8 ∧ c ≠ ':'.toUInt8 := by
  simp only [List.any_eq_false, decide_eq_true_eq, not_or]

theorem isAllowedPayloadName_iff : isAllowedPayloadName name = true ↔ IsPayload name := by
  constructor
  · intro h
    rw [isAllowedPayloadName] at h
    split_ifs at h with hdots hsep
    split at h
    · cases h
    · next dot hdot =>
      split_ifs at h with hzero
      obtain ⟨stem, tail, rfl, rfl⟩ := exists_of_rfind hdot
      have hstem : stem ≠ [] := fun hnil => hzero (by rw [hnil, List.length_nil])
      rw [List.drop_left] at h
      exact ⟨any_separator_eq_false.1 (Bool.eq_false_iff.2 hsep),
        stem, _, rfl, hstem, isPayloadExt_iff.1 h⟩
  · rintro ⟨hplain, stem, ext, rfl, hstem, hext⟩
    have hlen := hext.length_eq
    obtain ⟨letters, rfl, hdot⟩ := hext.exists_letters
    have hfind : rfind (narrow ".") (stem ++ '.'.toUInt8 :: letters) = some stem.length :=
      rfind_append (p := []) hdot
    have hdots : ¬(stem ++ '.'.toUInt8 :: letters = [] ∨
        stem ++ '.'.toUInt8 :: letters = narrow "." ∨
        stem ++ '.'.toUInt8 :: letters = narrow "..") := by
      rintro (h | h | h)
      all_goals
        have hname := congrArg List.length h
        simp [narrow, hlen] at hname
    rw [isAllowedPayloadName, if_neg hdots, any_separator_eq_false.2 hplain, hfind]
    simp only [Bool.false_eq_true, if_false, List.length_eq_zero_iff, hstem, List.drop_left]
    exact isPayloadExt_iff.2 hext

end Payload

section Stale

variable {name stem tail : List UInt8}

lemma isStaleTail_iff :
    isStaleTail tail = true ↔
      tail = [] ∨ ∃ digits, tail = '-'.toUInt8 :: digits ∧ digits ≠ [] ∧
        ∀ d ∈ digits, '0'.toUInt8 ≤ d ∧ d ≤ '9'.toUInt8 := by
  cases tail with
  | nil => exact ⟨fun _ => .inl rfl, fun _ => rfl⟩
  | cons c digits =>
    simp only [isStaleTail, Bool.and_eq_true, decide_eq_true_eq, List.all_eq_true, List.cons_ne_nil,
      false_or, List.cons.injEq]
    constructor
    · rintro ⟨⟨rfl, hne⟩, hdigits⟩
      exact ⟨digits, ⟨rfl, rfl⟩, hne, hdigits⟩
    · rintro ⟨_, ⟨rfl, rfl⟩, hne, hdigits⟩
      exact ⟨⟨rfl, hne⟩, hdigits⟩

lemma dot_notMem_of_isStaleTail (h : isStaleTail tail = true) :
    '.'.toUInt8 ∉ narrow "old" ++ tail := by
  rw [List.mem_append, not_or]
  refine ⟨by decide, ?_⟩
  rcases isStaleTail_iff.1 h with rfl | ⟨digits, rfl, -, hdigits⟩
  · exact List.not_mem_nil
  · rw [List.mem_cons, not_or]
    refine ⟨by decide, fun hmem => ?_⟩
    exact absurd (hdigits _ hmem).1 (by decide)

lemma drop_old : (stem ++ (narrow ".old" ++ tail)).drop (stem.length + 4) = tail := by
  rw [← List.append_assoc]
  exact List.drop_left' (by simp [narrow])

theorem isStaleRenamedName_iff_tail :
    isStaleRenamedName name = true ↔
      ∃ stem tail, name = stem ++ (narrow ".old" ++ tail) ∧ stem ≠ [] ∧
        isStaleTail tail = true := by
  constructor
  · intro h
    rw [isStaleRenamedName] at h
    split at h
    · cases h
    · next pos hpos =>
      obtain ⟨stem, tail, rfl, rfl⟩ := exists_of_rfind hpos
      split_ifs at h with hzero
      rw [drop_old] at h
      exact ⟨stem, tail, rfl, fun hnil => hzero (by rw [hnil, List.length_nil]), h⟩
  · rintro ⟨stem, tail, rfl, hstem, htail⟩
    have hpos : rfind (narrow ".old") (stem ++ (narrow ".old" ++ tail)) = some stem.length :=
      rfind_append (dot_notMem_of_isStaleTail htail)
    rw [isStaleRenamedName, hpos]
    dsimp only
    rw [if_neg (mt List.length_eq_zero_iff.1 hstem), drop_old]
    exact htail

theorem isStaleRenamedName_iff : isStaleRenamedName name = true ↔ IsLeftover name := by
  rw [isStaleRenamedName_iff_tail]
  constructor
  · rintro ⟨stem, tail, rfl, hstem, htail⟩
    refine ⟨stem, hstem, ?_⟩
    rcases isStaleTail_iff.1 htail with rfl | ⟨digits, rfl, hne, hdigits⟩
    · exact .inl (by rw [List.append_nil])
    · exact .inr ⟨digits, by simp [narrow], hne, hdigits⟩
  · rintro ⟨stem, hstem, rfl | ⟨digits, rfl, hne, hdigits⟩⟩
    · exact ⟨stem, [], by rw [List.append_nil], hstem, rfl⟩
    · exact ⟨stem, '-'.toUInt8 :: digits, by simp [narrow], hstem,
        isStaleTail_iff.2 (.inr ⟨digits, rfl, hne, hdigits⟩)⟩

end Stale

/-- What is deleted is a leftover, and what is swapped a plain file of the payload. -/
theorem names_exact (name : List UInt8) :
    (isStaleRenamedName name = true ↔ IsLeftover name) ∧
      (isAllowedPayloadName name = true ↔ IsPayload name) :=
  ⟨isStaleRenamedName_iff, isAllowedPayloadName_iff⟩

end UrnetworkWindows.Update
