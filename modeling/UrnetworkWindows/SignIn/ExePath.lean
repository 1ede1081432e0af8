/-
What a path that may be registered is (`ProtocolRegistration.h`).

`SafeExePath` looks for a parent between two backslashes, and for the file's name after the last
one.  Windows takes a slash for a separator as well: a path that has one beside a `.` or a `..`, or
right before its extension, is accepted all the same (`accepted_registrable_iff`).
-/
import UrnetworkWindows.Lib.Scan
import UrnetworkWindows.SignIn.Registration

namespace UrnetworkWindows.SignIn

open Lib

/-! ### Paths -/

/-- What separates the components of a path. -/
def isSeparator (c : UInt16) : Bool := c == 92 || c == 47

def components (exe : List UInt16) : List (List UInt16) := exe.splitOnP isSeparator

/-- What stands after the last separator. -/
def baseName (exe : List UInt16) : List UInt16 :=
  (exe.reverse.takeWhile fun c => !isSeparator c).reverse

def IsDriveLetter (c : UInt16) : Prop := (65 ≤ c ∧ c ≤ 90) ∨ (97 ≤ c ∧ c ≤ 122)

/-- A path that may be registered names no parent and stays one argument. -/
structure Registrable (exe : List UInt16) : Prop where
  drive : ∃ letter rest, exe = letter :: 58 :: 92 :: rest ∧ IsDriveLetter letter ∧ 58 ∉ rest
  plain : ∀ c ∈ exe, 0x20 ≤ c ∧ c ∉ wide "\"%<>|*?"
  parents : wide "." ∉ components exe ∧ wide ".." ∉ components exe
  extension : equalsIgnoreCase (exe.drop (exe.length - 4)) (wide ".exe") = true
  stem : 4 < (baseName exe).length
  command : exeOfCommand (openCommand exe) = some exe
  commands : ∀ command found, exeOfCommand command = some found → command = openCommand found

/-- No slash stands beside a `.` or a `..`, and none right before the extension. -/
structure Unslashed (exe : List UInt16) : Prop where
  parents : ∀ part ∈ ["/./", "/.\\", "\\./", "/../", "/..\\", "\\../"], ¬wide part <:+: exe
  extension : exe[exe.length - 5]? ≠ some 47

/-! ### The command -/

lemma openCommand_eq (exe : List UInt16) :
    openCommand exe = 34 :: (exe ++ wide "\" \"%1\"") := rfl

lemma exeOfCommand_openCommand {exe : List UInt16} (hne : exe ≠ []) (h : 34 ∉ exe) :
    exeOfCommand (openCommand exe) = some exe := by
  have hpos := List.length_pos_of_ne_nil hne
  have hlen : (openCommand exe).length = exe.length + 7 := by
    rw [openCommand_eq, List.length_cons, List.length_append]
    rfl
  have htail : (openCommand exe).drop (exe.length + 1) = wide "\" \"%1\"" := by
    rw [openCommand_eq, List.drop_succ_cons, List.drop_left]
  have hexe : ((openCommand exe).drop 1).take exe.length = exe := by
    rw [openCommand_eq, List.drop_one, List.tail_cons, List.take_left]
  have hshort : ¬(exe.length + 7 ≤ (wide "\" \"%1\"").length + 1 ∨
      (openCommand exe).head? ≠ some 34) := by
    rintro (hshort | hhead)
    · have hsix : (wide "\" \"%1\"").length = 6 := rfl
      omega
    · exact hhead rfl
  have hcut : exe.length + 7 - (wide "\" \"%1\"").length = exe.length + 1 := rfl
  have hwidth : exe.length + 7 - 1 - (wide "\" \"%1\"").length = exe.length := rfl
  rw [exeOfCommand, hlen]
  dsimp only
  rw [if_neg hshort, hcut, htail, if_neg (not_not.2 rfl), hwidth, hexe,
    if_neg (mt List.contains_iff_mem.1 h)]

lemma eq_openCommand {command exe : List UInt16} (h : exeOfCommand command = some exe) :
    command = openCommand exe := by
  rw [exeOfCommand] at h
  dsimp only at h
  split_ifs at h with hshort htail hquote
  obtain ⟨hlen, hhead⟩ := not_or.1 hshort
  cases command with
  | nil => cases not_not.1 hhead
  | cons c rest =>
    obtain rfl : c = 34 := Option.some.inj (not_not.1 hhead)
    have hsix : (wide "\" \"%1\"").length = 6 := rfl
    rw [List.length_cons, hsix] at hlen
    rw [not_not, List.length_cons, hsix, show rest.length + 1 - 6 = rest.length - 6 + 1 by omega,
      List.drop_succ_cons] at htail
    have hexe := Option.some.inj h
    rw [List.drop_one, List.tail_cons, List.length_cons, hsix,
      show rest.length + 1 - 1 - 6 = rest.length - 6 by omega] at hexe
    rw [openCommand_eq, ← hexe, ← htail, List.take_append_drop]

/-! ### What is accepted -/

/-- What `SafeExePath` has looked at. -/
structure Accepted (exe : List UInt16) : Prop where
  length : 8 ≤ exe.length
  drive : ∃ letter rest, exe = letter :: 58 :: 92 :: rest ∧ IsDriveLetter letter ∧ 58 ∉ rest
  plain : ∀ c ∈ exe, 0x20 ≤ c ∧ c ∉ wide "\"%<>|*?"
  parents : ¬wide "\\..\\" <:+: exe ∧ ¬wide "\\.\\" <:+: exe
  extension : equalsIgnoreCase (exe.drop (exe.length - 4)) (wide ".exe") = true
  name : 4 < (fileName exe).length

lemma unsafeUnit_eq_false {c : UInt16} :
    unsafeUnit c = false ↔ 0x20 ≤ c ∧ c ∉ wide "\"%<>|*?" := by
  rw [unsafeUnit, Bool.or_eq_false_iff, decide_eq_false_iff_not, UInt16.not_lt,
    ← Bool.not_eq_true, List.contains_iff_mem]

lemma accepted_of_safe {exe : List UInt16} (h : safeExePath exe = true) : Accepted exe := by
  unfold safeExePath at h
  split at h
  · cases h
  · next hlen =>
    split at h
    · next letter colon slash rest =>
      split_ifs at h with hdrive hunsafe hcolon hparents hextension
      simp only [Bool.not_eq_true', Bool.or_eq_true, bne_iff_ne, not_or, not_not,
        Bool.not_eq_false, Bool.and_eq_true, decide_eq_true_eq] at hdrive
      obtain ⟨⟨hletter, rfl⟩, rfl⟩ := hdrive
      refine ⟨Nat.le_of_not_lt (not_or.1 hlen).1,
        ⟨letter, rest, rfl, hletter, mt List.contains_iff_mem.2 hcolon⟩, fun c hc => ?_,
        not_or.1 hparents, by simpa using hextension, of_decide_eq_true h⟩
      refine unsafeUnit_eq_false.1 (Bool.eq_false_iff.2 fun hyes => ?_)
      exact hunsafe (List.any_eq_true.2 ⟨c, hc, hyes⟩)
    · cases h

/-- A path is what stands before its extension, one unit of it apart. -/
structure Ends (exe front ext : List UInt16) (c : UInt16) : Prop where
  eq : exe = front ++ c :: ext
  lower : ext.map lowerWide = wide ".exe"

namespace Ends

variable {exe front ext : List UInt16} {c : UInt16}

lemma length_ext (h : Ends exe front ext c) : ext.length = 4 := by
  rw [← List.length_map lowerWide, h.lower]
  rfl

lemma isSeparator_ext (h : Ends exe front ext c) {d : UInt16} (hd : d ∈ ext) :
    isSeparator d = false := by
  have hmem : lowerWide d ∈ wide ".exe" := h.lower ▸ List.mem_map_of_mem hd
  rw [isSeparator, Bool.or_eq_false_iff, beq_eq_false_iff_ne, beq_eq_false_iff_ne]
  constructor
  · rintro rfl
    exact absurd hmem (by decide)
  · rintro rfl
    exact absurd hmem (by decide)

lemma getElem?_eq (h : Ends exe front ext c) : exe[exe.length - 5]? = some c := by
  have hlen : exe.length - 5 = front.length := by
    rw [h.eq, List.length_append, List.length_cons, h.length_ext]
    rfl
  rw [hlen, h.eq, List.getElem?_append_right le_rfl, Nat.sub_self]
  rfl

/-- A scan from the end passes the extension, and goes on where the unit before it lets it. -/
lemma lt_length_takeWhile (h : Ends exe front ext c) {p : UInt16 → Bool}
    (hp : ∀ d ∈ ext, p d = true) :
    4 < (exe.reverse.takeWhile p).reverse.length ↔ p c = true := by
  have hreverse : exe.reverse = ext.reverse ++ c :: front.reverse := by
    rw [h.eq, List.reverse_append, List.reverse_cons, List.append_assoc]
    rfl
  rw [hreverse, List.takeWhile_append_of_pos fun d hd => hp d (List.mem_reverse.1 hd),
    List.length_reverse, List.length_append, List.length_reverse, h.length_ext]
  cases hc : p c with
  | true =>
    rw [List.takeWhile_cons_of_pos hc, List.length_cons]
    simp
  | false =>
    rw [List.takeWhile_cons_of_neg (by simp [hc])]
    simp

lemma notSuffix (h : Ends exe front ext c) {w : List UInt16} (hw : w.getLast? = some 46) :
    ¬w <:+ exe := by
  rintro ⟨front', hfront'⟩
  have hlast : exe.getLast? = some 46 := by
    rw [← hfront', List.getLast?_append, hw]
    rfl
  have hlower : (exe.map lowerWide).getLast? = some 101 := by
    rw [h.eq, List.map_append, List.map_cons, h.lower, List.getLast?_append]
    rfl
  rw [List.getLast?_map, hlast] at hlower
  exact absurd (Option.some.inj hlower) (by decide)

end Ends

namespace Accepted

variable {exe : List UInt16}

lemma exists_ends (h : Accepted exe) : ∃ front c ext, Ends exe front ext c := by
  have hlen := h.length
  have hfront : exe.take (exe.length - 4) ≠ [] := by
    intro hnil
    have hzero := congrArg List.length hnil
    rw [List.length_take, List.length_nil] at hzero
    omega
  obtain ⟨front, c, hc⟩ := (List.eq_nil_or_concat' _).resolve_left hfront
  refine ⟨front, c, exe.drop (exe.length - 4), ?_, ?_⟩
  · have hsplit := List.take_append_drop (exe.length - 4) exe
    rw [hc, List.append_assoc] at hsplit
    exact hsplit.symm
  · have hext := of_decide_eq_true h.extension
    rw [hext]
    decide

lemma notPrefix (h : Accepted exe) {w : List UInt16} (hw : w.head? = some 46) : ¬w <+: exe := by
  rintro ⟨rest, hrest⟩
  obtain ⟨letter, rest', hexe, hletter, -⟩ := h.drive
  have hhead : exe.head? = some 46 := by
    rw [← hrest, List.head?_append, hw]
    rfl
  rw [hexe] at hhead
  cases hhead
  rcases hletter with hletter | hletter
  · exact absurd hletter (by decide)
  · exact absurd hletter (by decide)

lemma notMem_components (h : Accepted exe) {w : List UInt16} (hhead : w.head? = some 46)
    (hlast : w.getLast? = some 46) (hw : ∀ d ∈ w, isSeparator d = false) :
    w ∉ components exe ↔ ∀ s ∈ [92, 47], ∀ s' ∈ [92, 47], ¬s :: (w ++ [s']) <:+: exe := by
  obtain ⟨front, c, ext, hends⟩ := h.exists_ends
  have hsep : ∀ s, isSeparator s = true ↔ s ∈ ([92, 47] : List UInt16) := by
    intro s
    simp [isSeparator]
  rw [components, mem_splitOnP_iff hw (h.notPrefix hhead) (hends.notSuffix hlast)]
  push Not
  simp only [hsep]
  exact ⟨fun hno s hs s' hs' => hno s s' hs hs', fun hno s s' hs hs' => hno s hs s' hs'⟩

lemma unslashed_parents (h : Accepted exe) :
    (wide "." ∉ components exe ∧ wide ".." ∉ components exe) ↔
      ∀ part ∈ ["/./", "/.\\", "\\./", "/../", "/..\\", "\\../"], ¬wide part <:+: exe := by
  have hdot : ∀ d ∈ wide ".", isSeparator d = false :=
    List.forall_mem_singleton.2 rfl
  have hdots : ∀ d ∈ wide "..", isSeparator d = false :=
    List.forall_mem_cons.2 ⟨rfl, List.forall_mem_singleton.2 rfl⟩
  rw [h.notMem_components rfl rfl hdot, h.notMem_components rfl rfl hdots]
  obtain ⟨htwo, hone⟩ := h.parents
  constructor
  · rintro ⟨hdot, hdots⟩
    simp only [List.forall_mem_cons]
    exact ⟨hdot 47 (by simp) 47 (by simp), hdot 47 (by simp) 92 (by simp),
      hdot 92 (by simp) 47 (by simp), hdots 47 (by simp) 47 (by simp),
      hdots 47 (by simp) 92 (by simp), hdots 92 (by simp) 47 (by simp), List.forall_mem_nil _⟩
  · intro hnone
    simp only [List.forall_mem_cons] at hnone ⊢
    obtain ⟨h₁, h₂, h₃, h₄, h₅, h₆, -⟩ := hnone
    exact ⟨⟨⟨hone, h₃, List.forall_mem_nil _⟩, ⟨h₂, h₁, List.forall_mem_nil _⟩,
      List.forall_mem_nil _⟩, ⟨htwo, h₆, List.forall_mem_nil _⟩,
      ⟨h₅, h₄, List.forall_mem_nil _⟩, List.forall_mem_nil _⟩

lemma unslashed_extension (h : Accepted exe) :
    4 < (baseName exe).length ↔ exe[exe.length - 5]? ≠ some 47 := by
  obtain ⟨front, c, ext, hends⟩ := h.exists_ends
  have hbackslash : c ≠ 92 := by
    have hname := h.name
    rw [fileName, hends.lt_length_takeWhile fun d hd => ?_] at hname
    · simpa using hname
    · have hd' := hends.isSeparator_ext hd
      rw [isSeparator, Bool.or_eq_false_iff] at hd'
      simpa using hd'.1
  rw [baseName, hends.lt_length_takeWhile fun d hd => by rw [hends.isSeparator_ext hd]; rfl,
    hends.getElem?_eq, isSeparator]
  simp [hbackslash]

end Accepted

/-! ### The result -/

/-- **An accepted path may be registered exactly where no slash stands for a separator beside a
parent or before the extension.** -/
theorem accepted_registrable_iff {exe : List UInt16} (h : safeExePath exe = true) :
    Registrable exe ↔ Unslashed exe := by
  have haccepted := accepted_of_safe h
  constructor
  · intro hregistrable
    exact ⟨haccepted.unslashed_parents.1 hregistrable.parents,
      haccepted.unslashed_extension.1 hregistrable.stem⟩
  · intro hunslashed
    refine ⟨haccepted.drive, haccepted.plain, haccepted.unslashed_parents.2 hunslashed.parents,
      haccepted.extension, haccepted.unslashed_extension.2 hunslashed.extension, ?_,
      fun _ _ => eq_openCommand⟩
    refine exeOfCommand_openCommand ?_ fun hquote => ?_
    · rintro rfl
      exact absurd haccepted.length (by decide)
    · exact (haccepted.plain 34 hquote).2 (by decide)

theorem accepted_registrable_iff_plain :
    Registrable (wide "C:\\a.exe") ↔ Unslashed (wide "C:\\a.exe") :=
  accepted_registrable_iff (by decide)

/-- `C:\a/../b.exe` is accepted, and names a parent. -/
theorem accepted_registrable_fails :
    safeExePath (wide "C:\\a/../b.exe") = true ∧ ¬Registrable (wide "C:\\a/../b.exe") := by
  refine ⟨by decide, fun h => ?_⟩
  exact h.parents.2 (by decide)

end UrnetworkWindows.SignIn
