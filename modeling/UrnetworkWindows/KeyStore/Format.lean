/-
The bytes of the payout key's store (`BittensorKeyStoreFormat.h`): the item that holds a
network's key, and the notes beside it.

An item is a first line that names the format, the address on a line of its own, and the
protected phrase, which may hold any bytes.  The notes are one line each, the name and the
value with a tab between them, in name order; they are kept in a map.

The writer bounds every part of what it writes, and the reader the whole: `decodeItem` and
`decodeNotes` read back what `encodeItem` and `encodeNotes` wrote as long as it is no longer
than `kMaxFileBytes` (`decodeItem_encodeItem`, `decodeNotes_encodeNotes`).
-/
import UrnetworkWindows.Lib.Maps
import UrnetworkWindows.Lib.Query
import UrnetworkWindows.Lib.Text

namespace UrnetworkWindows.KeyStore

open Lib Std

/-- The first line of an item. -/
def kItemMagic : List UInt8 := narrow "URNETBTKEY1\n"

def kMaxNetworkIdLength : ℕ := 64

def kMaxFileBytes : ℕ := 64 * 1024

def lineBreak : UInt8 := 10
def tabulator : UInt8 := 9

def isLetter (c : UInt8) : Bool :=
  ('a'.toUInt8 ≤ c && c ≤ 'z'.toUInt8) || ('A'.toUInt8 ≤ c && c ≤ 'Z'.toUInt8)

def isDigit (c : UInt8) : Bool := '0'.toUInt8 ≤ c && c ≤ '9'.toUInt8

/-- The name of a network's files, for an id that can name nothing else. -/
def fileStem (networkId : List UInt8) : Option (List UInt8) :=
  if networkId = [] ∨ kMaxNetworkIdLength < networkId.length then none
  else if networkId.all fun c => isLetter c || isDigit c || c == '-'.toUInt8 then some networkId
  else none

/-- The entropy a network's phrase is protected with. -/
def entropy (networkId : List UInt8) : List UInt8 :=
  narrow "URnetwork Windows Bittensor key v1" ++ 0 :: networkId

/-! ### The item -/

structure Item where
  address : List UInt8
  protectedPhrase : List UInt8
deriving DecidableEq

def addressFits (address : List UInt8) : Bool :=
  !(address.isEmpty || 128 < address.length) && address.all fun c => isLetter c || isDigit c

def encodeItem (item : Item) : Option (List UInt8) :=
  if !addressFits item.address || item.protectedPhrase.isEmpty then none
  else some (kItemMagic ++ (item.address ++ lineBreak :: item.protectedPhrase))

/-- The item in what follows the first line. -/
def readItem (rest : List UInt8) : Option Item :=
  let end' := rest.idxOf lineBreak
  let item : Item := { address := rest.take end', protectedPhrase := rest.drop (end' + 1) }
  if lineBreak ∉ rest then none
  else if !addressFits item.address || item.protectedPhrase.isEmpty then none
  else some item

def decodeItem (bytes : List UInt8) : Option Item :=
  if kMaxFileBytes < bytes.length ∨ ¬ kItemMagic <+: bytes then none
  else readItem (bytes.drop kItemMagic.length)

lemma lineBreak_notMem_of_addressFits {address : List UInt8} (h : addressFits address) :
    lineBreak ∉ address := by
  intro hmem
  rw [addressFits, Bool.and_eq_true, List.all_eq_true] at h
  exact absurd (h.2 _ hmem) (by decide)

lemma encodeItem_eq_some {item : Item} {bytes : List UInt8} :
    encodeItem item = some bytes ↔
      (addressFits item.address ∧ item.protectedPhrase ≠ []) ∧
        bytes = kItemMagic ++ (item.address ++ lineBreak :: item.protectedPhrase) := by
  rw [encodeItem]
  split_ifs with h
  · refine ⟨fun h => h.elim, ?_⟩
    rintro ⟨⟨haddress, hphrase⟩, -⟩
    simp [haddress, hphrase] at h
  · have hfits : addressFits item.address ∧ item.protectedPhrase ≠ [] := by simpa using h
    rw [Option.some.injEq]
    exact ⟨fun h => ⟨hfits, h.symm⟩, fun h => h.2.symm⟩

lemma length_of_encodeItem {item : Item} {bytes : List UInt8} (h : encodeItem item = some bytes) :
    bytes.length = 13 + item.address.length + item.protectedPhrase.length := by
  obtain ⟨-, rfl⟩ := encodeItem_eq_some.1 h
  have hmagic : kItemMagic.length = 12 := rfl
  rw [List.length_append, List.length_append, List.length_cons, hmagic]
  omega

lemma readItem_body {item : Item} (haddress : addressFits item.address)
    (hphrase : item.protectedPhrase ≠ []) :
    readItem (item.address ++ lineBreak :: item.protectedPhrase) = some item := by
  have hat : (item.address ++ lineBreak :: item.protectedPhrase).idxOf lineBreak =
      item.address.length := by
    rw [List.idxOf_append_of_notMem (lineBreak_notMem_of_addressFits haddress),
      List.idxOf_cons_self, Nat.add_zero]
  have hrest : (item.address ++ lineBreak :: item.protectedPhrase).drop
      (item.address.length + 1) = item.protectedPhrase := by
    rw [List.drop_length_add_append, List.drop_one, List.tail_cons]
  simp only [readItem, hat, hrest, List.take_left]
  rw [if_neg (by simp), if_neg (by simp [haddress, hphrase])]

theorem decodeItem_encodeItem {item : Item} {bytes : List UInt8}
    (h : encodeItem item = some bytes) (hlen : bytes.length ≤ kMaxFileBytes) :
    decodeItem bytes = some item := by
  obtain ⟨⟨haddress, hphrase⟩, rfl⟩ := encodeItem_eq_some.1 h
  rw [decodeItem, if_neg, List.drop_left, readItem_body haddress hphrase]
  rintro (hlong | hmagic)
  · exact absurd hlen (Nat.not_le.2 hlong)
  · exact hmagic (List.prefix_append ..)

theorem encodeItem_decodeItem {item : Item} {bytes : List UInt8}
    (h : decodeItem bytes = some item) : encodeItem item = some bytes := by
  rw [decodeItem] at h
  split_ifs at h with hfile
  obtain ⟨rest, rfl⟩ : kItemMagic <+: bytes := by
    by_contra hnot
    exact hfile (.inr hnot)
  simp only [List.drop_left, readItem] at h
  split_ifs at h with hbreak hfits
  cases h
  have hlt : rest.idxOf lineBreak < rest.length :=
    List.idxOf_lt_length_iff.2 (by simpa using hbreak)
  refine encodeItem_eq_some.2 ⟨by simpa using hfits, ?_⟩
  have hcut : rest.drop (rest.idxOf lineBreak) =
      lineBreak :: rest.drop (rest.idxOf lineBreak + 1) := by
    rw [List.drop_eq_getElem_cons hlt, List.getElem_idxOf]
  rw [← hcut, List.take_append_drop]

/-! ### The notes -/

/-- The notes by their name. -/
abbrev Notes : Type := ExtTreeMap (List UInt8) (List UInt8)

def noteFits (text : List UInt8) : Bool :=
  !(512 < text.length) &&
    text.all fun c => !(c == lineBreak || c == 13 || c == tabulator || c == 0)

/-- A note's line, without its end. -/
def noteLine (note : List UInt8 × List UInt8) : List UInt8 := writePair tabulator note

def encodeNotes (notes : Notes) : List UInt8 :=
  (notes.toList.map noteLine).flatMap (· ++ [lineBreak])

/-- The notes after one more line of the file. -/
def readLine (notes : Notes) (line : List UInt8) : Notes :=
  match readPair tabulator line with
  | none => notes
  | some (name, value) =>
    if value.isEmpty || !noteFits name || !noteFits value then notes
    else notes.insert name value

def decodeNotes (bytes : List UInt8) : Notes :=
  if kMaxFileBytes < bytes.length then ∅
  -- the part after the last line break is a line too, unless it is empty
  else (bytes.splitOn lineBreak).foldl readLine ∅

def writeNoteTo (notes : Notes) (name value : List UInt8) : Option Notes :=
  if name.isEmpty || !noteFits name || !noteFits value then none
  else if value.isEmpty then some (notes.erase name)
  else some (notes.insert name value)

/-- A note the file can hold. -/
structure IsNote (note : List UInt8 × List UInt8) : Prop where
  name_ne : note.1 ≠ []
  value_ne : note.2 ≠ []
  name_fits : noteFits note.1
  value_fits : noteFits note.2

/-- Notes the file can hold. -/
def Notes.Fits (notes : Notes) : Prop := ∀ note ∈ notes.toList, IsNote note

lemma notMem_of_noteFits {text : List UInt8} (h : noteFits text) :
    lineBreak ∉ text ∧ tabulator ∉ text := by
  rw [noteFits, Bool.and_eq_true, List.all_eq_true] at h
  exact ⟨fun hmem => absurd (h.2 _ hmem) (by decide), fun hmem => absurd (h.2 _ hmem) (by decide)⟩

lemma IsNote.lineBreak_notMem {note : List UInt8 × List UInt8} (h : IsNote note) :
    lineBreak ∉ noteLine note := by
  rw [noteLine, mem_writePair]
  rintro (hname | heq | hvalue)
  · exact (notMem_of_noteFits h.name_fits).1 hname
  · exact absurd heq (by decide)
  · exact (notMem_of_noteFits h.value_fits).1 hvalue

lemma readLine_noteLine {note : List UInt8 × List UInt8} (h : IsNote note) (notes : Notes) :
    readLine notes (noteLine note) = notes.insert note.1 note.2 := by
  rw [readLine, noteLine, readPair_writePair h.name_ne (notMem_of_noteFits h.name_fits).2]
  exact if_neg (by simp [h.value_ne, h.name_fits, h.value_fits])

lemma foldl_readLine {ns : List (List UInt8 × List UInt8)} (h : ∀ note ∈ ns, IsNote note)
    (notes : Notes) :
    (ns.map noteLine).foldl readLine notes =
      ns.foldl (fun acc note => acc.insert note.1 note.2) notes := by
  induction ns generalizing notes with
  | nil => rfl
  | cons note ns ih =>
    rw [List.map_cons, List.foldl_cons, List.foldl_cons,
      readLine_noteLine (h note (List.mem_cons_self ..)),
      ih fun n hn => h n (List.mem_cons_of_mem _ hn)]

/-- The notes that were written are read, if the file is no longer than the reader takes. -/
theorem decodeNotes_encodeNotes {notes : Notes} (h : notes.Fits)
    (hlen : (encodeNotes notes).length ≤ kMaxFileBytes) :
    decodeNotes (encodeNotes notes) = notes := by
  have hlines : ∀ line ∈ notes.toList.map noteLine, lineBreak ∉ line := by
    intro line hline
    obtain ⟨note, hnote, rfl⟩ := List.mem_map.1 hline
    exact (h note hnote).lineBreak_notMem
  have hend : ∀ notes : Notes, readLine notes [] = notes := fun _ => rfl
  rw [decodeNotes, if_neg (Nat.not_lt.2 hlen), encodeNotes, splitOn_lines hlines,
    List.foldl_append, foldl_readLine h, ← ExtTreeMap.ofList_eq_foldl, ofList_toList,
    List.foldl_cons, hend, List.foldl_nil]

lemma writeNoteTo_eq_none {notes : Notes} {name value : List UInt8} :
    writeNoteTo notes name value = none ↔ name = [] ∨ ¬ noteFits name ∨ ¬ noteFits value := by
  rw [writeNoteTo]
  split_ifs with hrefused hvalue
  · simpa [or_assoc] using hrefused
  · simpa [or_assoc] using hrefused
  · simpa [or_assoc] using hrefused

lemma fits_of_writeNoteTo {notes notes' : Notes} {name value : List UInt8}
    (h : writeNoteTo notes name value = some notes') :
    name ≠ [] ∧ noteFits name ∧ noteFits value := by
  have hnot : ¬ (name = [] ∨ ¬ noteFits name ∨ ¬ noteFits value) := by
    rw [← @writeNoteTo_eq_none notes, h]
    simp
  simpa [not_or] using hnot

/-- The length of a note's line. -/
def noteLength (note : List UInt8 × List UInt8) : ℕ := note.1.length + note.2.length + 2

lemma length_encodeNotes (notes : Notes) :
    (encodeNotes notes).length = (notes.toList.map noteLength).sum := by
  rw [encodeNotes, List.length_flatMap, List.map_map]
  congr 2
  ext note
  simp only [Function.comp_apply, noteLine, writePair, noteLength, List.length_append,
    List.length_cons, List.length_nil]
  omega

lemma length_encodeNotes_insert {notes : Notes} {name : List UInt8} (hname : name ∉ notes)
    (value : List UInt8) :
    (encodeNotes (notes.insert name value)).length =
      noteLength (name, value) + (encodeNotes notes).length := by
  rw [length_encodeNotes, length_encodeNotes,
    ((toList_insert_perm hname value).map noteLength).sum_eq, List.map_cons, List.sum_cons]

lemma getElem?_writeNoteTo {notes notes' : Notes} {name value : List UInt8}
    (h : writeNoteTo notes name value = some notes') (name' : List UInt8) :
    (notes'[name']?).getD [] = if name' = name then value else (notes[name']?).getD [] := by
  rw [writeNoteTo] at h
  split_ifs at h with hfits hvalue
  · cases h
    rw [ExtTreeMap.getElem?_erase]
    by_cases heq : name' = name
    · simp_all
    · rw [if_neg heq, if_neg fun h => heq (Std.compare_eq_iff_eq.1 h).symm]
  · cases h
    rw [ExtTreeMap.getElem?_insert]
    by_cases heq : name' = name
    · simp_all
    · rw [if_neg heq, if_neg fun h => heq (Std.compare_eq_iff_eq.1 h).symm]

lemma fits_writeNoteTo {notes notes' : Notes} {name value : List UInt8}
    (h : writeNoteTo notes name value = some notes') (hfits : notes.Fits) : notes'.Fits := by
  obtain ⟨hname, hnameFits, hvalueFits⟩ := fits_of_writeNoteTo h
  rw [writeNoteTo] at h
  rintro ⟨name', value'⟩ hmem
  rw [ExtTreeMap.mem_toList_iff_getElem?_eq_some] at hmem
  have hold : notes[name']? = some value' → IsNote (name', value') := fun hget =>
    hfits _ (ExtTreeMap.mem_toList_iff_getElem?_eq_some.2 hget)
  split_ifs at h with hrefused hvalue
  · cases h
    rw [ExtTreeMap.getElem?_erase] at hmem
    split_ifs at hmem
    exact hold hmem
  · cases h
    rw [ExtTreeMap.getElem?_insert] at hmem
    split_ifs at hmem with heq
    · obtain rfl := Std.compare_eq_iff_eq.1 heq
      cases hmem
      exact ⟨hname, by simpa using hvalue, hnameFits, hvalueFits⟩
    · exact hold hmem

end UrnetworkWindows.KeyStore
