/-
The payout key's store (`BittensorKeyStore.cpp`): its calls, on a folder in which every file
call succeeds.

A network has a file for its key and one for its notes.  `AddKey` never replaces a key;
every `WriteNote` reads the notes, changes one and writes them all.  The file system finds a
file by its name without the case of the letters.

The phrase is protected by the system, whose answer `AddKey` is given: `protectedAs` is what
`CryptProtectData` answered, and `cryptUnprotectData` what gives a phrase back from it and
the entropy.  `unavailable` is the text the sdk takes for a store that cannot answer.
-/
import UrnetworkWindows.KeyStore.Format

namespace UrnetworkWindows.KeyStore

open Lib Std

/-! ### The files -/

inductive Suffix
  | key
  | notes
deriving DecidableEq

/-- A file of the store, by what the file system finds it by. -/
structure Path where
  name : List UInt8
  suffix : Suffix
deriving DecidableEq

/-- What the file system finds a network's files by. -/
def fileName (networkId : List UInt8) : List UInt8 := networkId.map lowerNarrow

def filePath (networkId : List UInt8) (suffix : Suffix) : Option Path :=
  (fileStem networkId).map fun stem => { name := fileName stem, suffix }

/-- The files of the store's folder. -/
abbrev Folder : Type := Path → Option (List UInt8)

/-- The largest `DWORD`. -/
def maxDword : ℕ := 0xFFFFFFFF

inductive Read
  | ok (bytes : List UInt8)
  | missing
  | failed

def readBytes (folder : Folder) (path : Path) : Read :=
  match folder path with
  | none => .missing
  | some bytes => if kMaxFileBytes < bytes.length then .failed else .ok bytes

def writeBytes (folder : Folder) (path : Path) (bytes : List UInt8) (replace : Bool) :
    Bool × Folder :=
  if maxDword < bytes.length then (false, folder)
  -- the file is written beside, and the move fails onto a file it may not replace
  else if !replace && (folder path).isSome then (false, folder)
  else (true, Function.update folder path (some bytes))

def removeFile (folder : Folder) (path : Path) : Bool × Folder :=
  (true, Function.update folder path none)

/-! ### The phrase -/

def protect (phrase : List UInt8) (protectedAs : Option (List UInt8)) : Option (List UInt8) :=
  if phrase = [] ∨ maxDword < phrase.length then none else protectedAs

section Unprotect

variable (cryptUnprotectData : List UInt8 → List UInt8 → Option (List UInt8))

def unprotect (protectedPhrase entropyBytes : List UInt8) : Option (List UInt8) :=
  if maxDword < protectedPhrase.length then none
  else cryptUnprotectData protectedPhrase entropyBytes

end Unprotect

/-! ### The calls -/

def addKey (folder : Folder) (networkId mnemonic address : List UInt8)
    (protectedAs : Option (List UInt8)) : Bool × Folder :=
  match filePath networkId .key with
  | none => (false, folder)
  | some path =>
    if mnemonic = [] ∨ ¬ addressFits address then (false, folder)
    else if (folder path).isSome then (false, folder)
    else
      match protect mnemonic protectedAs with
      | none => (false, folder)
      | some protectedPhrase =>
        match encodeItem { address, protectedPhrase } with
        | none => (false, folder)
        | some bytes => writeBytes folder path bytes false

def keyPhrase (cryptUnprotectData : List UInt8 → List UInt8 → Option (List UInt8))
    (unavailable : List UInt8) (folder : Folder) (networkId : List UInt8) : List UInt8 :=
  match filePath networkId .key with
  | none => unavailable
  | some path =>
    match readBytes folder path with
    | .missing => []
    | .failed => unavailable
    | .ok bytes =>
      match decodeItem bytes with
      | none => unavailable
      | some item =>
        match unprotect cryptUnprotectData item.protectedPhrase (entropy networkId) with
        | none => unavailable
        | some phrase => if phrase = [] then unavailable else phrase

def keyAddress (unavailable : List UInt8) (folder : Folder) (networkId : List UInt8) :
    List UInt8 :=
  match filePath networkId .key with
  | none => unavailable
  | some path =>
    match readBytes folder path with
    | .missing => []
    | .failed => unavailable
    | .ok bytes =>
      match decodeItem bytes with
      | none => unavailable
      | some item => item.address

def deleteKey (folder : Folder) (networkId : List UInt8) : Bool × Folder :=
  match filePath networkId .key with
  | none => (false, folder)
  | some path => removeFile folder path

def readNote (folder : Folder) (networkId name : List UInt8) : List UInt8 :=
  match filePath networkId .notes with
  | none => []
  | some path =>
    match readBytes folder path with
    | .ok bytes => ((decodeNotes bytes)[name]?).getD []
    | _ => []

/-- What `WriteNote` does with the notes it has read. -/
def changeNotes (folder : Folder) (path : Path) (notes : Notes) (name value : List UInt8) :
    Folder :=
  match writeNoteTo notes name value with
  | none => folder
  | some notes =>
    if notes.isEmpty then (removeFile folder path).2
    else (writeBytes folder path (encodeNotes notes) true).2

def writeNote (folder : Folder) (networkId name value : List UInt8) : Folder :=
  match filePath networkId .notes with
  | none => folder
  | some path =>
    match readBytes folder path with
    -- writing over notes that could not be read would drop the others
    | .failed => folder
    | .ok bytes => changeNotes folder path (decodeNotes bytes) name value
    | .missing => changeNotes folder path ∅ name value

/-! ### What each call can do to the folder -/

variable {folder : Folder} {networkId : List UInt8} {path : Path}

lemma filePath_eq_some {suffix : Suffix} :
    filePath networkId suffix = some path ↔ (fileStem networkId).isSome ∧ path =
    ⟨fileName networkId, suffix⟩ := by
  have hstem : ∀ stem, fileStem networkId = some stem → stem = networkId := by
    intro stem h
    rw [fileStem] at h
    split_ifs at h
    exact (Option.some.inj h).symm
  rw [filePath, Option.map_eq_some_iff]
  constructor
  · rintro ⟨stem, h, rfl⟩
    rw [h, hstem stem h]
    exact ⟨rfl, rfl⟩
  · rintro ⟨hsome, rfl⟩
    obtain ⟨stem, h⟩ := Option.isSome_iff_exists.1 hsome
    obtain rfl := hstem stem h
    exact ⟨_, h, rfl⟩

lemma writeBytes_eq {bytes : List UInt8} {replace : Bool} (hlen : bytes.length ≤ maxDword)
    (hfree : replace = true ∨ folder path = none) :
    writeBytes folder path bytes replace = (true, Function.update folder path (some bytes)) := by
  rw [writeBytes, if_neg (Nat.not_lt.2 hlen), if_neg]
  rcases hfree with rfl | hfree
  · simp
  · simp [hfree]

/-- What a call that adds a key has found, and what it leaves. -/
structure Adds (folder : Folder) (networkId mnemonic address : List UInt8)
    (protectedAs : Option (List UInt8)) (path : Path) (protectedPhrase bytes : List UInt8) :
    Prop where
  path_eq : filePath networkId .key = some path
  mnemonic_ne : mnemonic ≠ []
  free : folder path = none
  answer : protectedAs = some protectedPhrase
  encoded : encodeItem { address, protectedPhrase } = some bytes

theorem addKey_cases (folder : Folder) (networkId mnemonic address : List UInt8)
    (protectedAs : Option (List UInt8)) :
    addKey folder networkId mnemonic address protectedAs = (false, folder) ∨
      ∃ path protectedPhrase bytes,
        Adds folder networkId mnemonic address protectedAs path protectedPhrase bytes ∧
        addKey folder networkId mnemonic address protectedAs =
          (true, Function.update folder path (some bytes)) := by
  rw [addKey]
  cases hpath : filePath networkId .key with
  | none => exact .inl rfl
  | some path =>
    simp only
    split_ifs with hrefused hthere
    · exact .inl rfl
    · exact .inl rfl
    cases hprotect : protect mnemonic protectedAs with
    | none => exact .inl rfl
    | some protectedPhrase =>
      cases hencode : encodeItem { address, protectedPhrase } with
      | none => exact .inl (by simp only [hencode])
      | some bytes =>
        have hfree : folder path = none := Option.not_isSome_iff_eq_none.1 hthere
        simp only [hencode]
        rcases Nat.lt_or_ge maxDword bytes.length with hlong | hshort
        · exact .inl (by rw [writeBytes, if_pos hlong])
        · rw [protect] at hprotect
          split_ifs at hprotect
          exact .inr ⟨path, protectedPhrase, bytes,
            ⟨hpath, fun h => hrefused (.inl h), hfree, hprotect, hencode⟩,
            writeBytes_eq hshort (.inr hfree)⟩

lemma addKey_eq {mnemonic address : List UInt8} {protectedAs : Option (List UInt8)}
    {protectedPhrase bytes : List UInt8}
    (h : Adds folder networkId mnemonic address protectedAs path protectedPhrase bytes)
    (hphrase : mnemonic.length ≤ maxDword) (hbytes : bytes.length ≤ maxDword) :
    addKey folder networkId mnemonic address protectedAs =
    (true, Function.update folder path (some bytes)) := by
  have haddress : addressFits address := (encodeItem_eq_some.1 h.encoded).1.1
  have hprotect : protect mnemonic protectedAs = some protectedPhrase := by
    rw [protect, if_neg (not_or.2 ⟨h.mnemonic_ne, Nat.not_lt.2 hphrase⟩), h.answer]
  rw [addKey, h.path_eq]
  simp only [h.mnemonic_ne, haddress, not_true_eq_false, or_self, if_false, h.free,
    Option.isSome_none, Bool.false_eq_true, hprotect, h.encoded]
  exact writeBytes_eq hbytes (.inr h.free)

lemma deleteKey_of_ne (h : path ≠ ⟨fileName networkId, .key⟩) :
    (deleteKey folder networkId).2 path = folder path := by
  rw [deleteKey]
  cases hpath : filePath networkId .key with
  | none => rfl
  | some path' =>
    obtain ⟨-, rfl⟩ := filePath_eq_some.1 hpath
    exact Function.update_of_ne h none folder

lemma deleteKey_self (hstem : (fileStem networkId).isSome) :
    (deleteKey folder networkId).2 ⟨fileName networkId, .key⟩ = none := by
  rw [deleteKey, filePath_eq_some.2 ⟨hstem, rfl⟩]
  exact Function.update_self ..

lemma addKey_of_ne {mnemonic address : List UInt8} {protectedAs : Option (List UInt8)}
    (h : path ≠ ⟨fileName networkId, .key⟩) :
    (addKey folder networkId mnemonic address protectedAs).2 path = folder path := by
  rcases addKey_cases folder networkId mnemonic address protectedAs with
    heq | ⟨path', protectedPhrase, bytes, hadds, heq⟩
  · rw [heq]
  · obtain ⟨-, rfl⟩ := filePath_eq_some.1 hadds.path_eq
    rw [heq]
    exact Function.update_of_ne h (some bytes) folder

lemma changeNotes_of_ne {path path' : Path} (h : path ≠ path') (notes : Notes)
    (name value : List UInt8) :
    changeNotes folder path' notes name value path = folder path := by
  rw [changeNotes]
  cases writeNoteTo notes name value with
  | none => rfl
  | some notes' =>
    simp only
    split_ifs with hempty
    · exact Function.update_of_ne h none folder
    · rw [writeBytes]
      split_ifs
      · rfl
      · rfl
      · exact Function.update_of_ne h _ folder

lemma writeNote_of_ne {name value : List UInt8} (h : path ≠ ⟨fileName networkId, .notes⟩) :
    writeNote folder networkId name value path = folder path := by
  rw [writeNote]
  cases hpath : filePath networkId .notes with
  | none => rfl
  | some path' =>
    obtain ⟨-, rfl⟩ := filePath_eq_some.1 hpath
    simp only
    cases readBytes folder ⟨fileName networkId, .notes⟩ with
    | failed => rfl
    | ok bytes | missing => exact changeNotes_of_ne h _ _ _

/-! ### The notes' file -/

/-- The file that holds these notes: none holds none. -/
def notesFile (notes : Notes) : Option (List UInt8) :=
  if notes.isEmpty then none else some (encodeNotes notes)

lemma changeNotes_self {notes : Notes} {name value : List UInt8}
    (hfile : folder path = notesFile notes)
    (hlen : (encodeNotes ((writeNoteTo notes name value).getD notes)).length ≤ maxDword) :
    changeNotes folder path notes name value path = notesFile
    ((writeNoteTo notes name value).getD notes) := by
  rw [changeNotes]
  cases hmade : writeNoteTo notes name value with
  | none => exact hfile
  | some notes' =>
    rw [hmade, Option.getD_some] at hlen
    simp only [Option.getD_some, notesFile]
    split_ifs with hempty
    · exact Function.update_self path none folder
    · rw [writeBytes_eq hlen (.inl rfl)]
      exact Function.update_self path _ folder

lemma readBytes_notesFile {notes : Notes} (hfile : folder path = notesFile notes)
    (hfits : notes.Fits) (hlen : (encodeNotes notes).length ≤ kMaxFileBytes) :
    (notes = ∅ ∧ readBytes folder path = .missing) ∨ ∃ bytes, readBytes folder path = .ok
    bytes ∧ decodeNotes bytes = notes := by
  rw [notesFile] at hfile
  rw [readBytes, hfile]
  split_ifs with hempty
  · exact .inl ⟨ExtTreeMap.isEmpty_iff.1 hempty, rfl⟩
  · refine .inr ⟨encodeNotes notes, ?_, decodeNotes_encodeNotes hfits hlen⟩
    exact if_neg (Nat.not_lt.2 hlen)

lemma writeNote_self {notes : Notes} {name value : List UInt8}
    (hstem : (fileStem networkId).isSome)
    (hfile : folder ⟨fileName networkId, .notes⟩ = notesFile notes) (hfits : notes.Fits)
    (hlen : (encodeNotes notes).length ≤ kMaxFileBytes)
    (hlen' : (encodeNotes ((writeNoteTo notes name value).getD notes)).length ≤ maxDword) :
    writeNote folder networkId name value ⟨fileName networkId, .notes⟩ =
      notesFile ((writeNoteTo notes name value).getD notes) := by
  rw [writeNote, filePath_eq_some.2 ⟨hstem, rfl⟩]
  rcases readBytes_notesFile hfile hfits hlen with ⟨rfl, hread⟩ | ⟨bytes, hread, rfl⟩
  · simp only [hread]
    exact changeNotes_self hfile hlen'
  · simp only [hread]
    exact changeNotes_self hfile hlen'

lemma readNote_notesFile {notes : Notes} (hstem : (fileStem networkId).isSome)
    (hfile : folder ⟨fileName networkId, .notes⟩ = notesFile notes) (hfits : notes.Fits)
    (hlen : (encodeNotes notes).length ≤ kMaxFileBytes) (name : List UInt8) :
    readNote folder networkId name = (notes[name]?).getD [] := by
  rw [readNote, filePath_eq_some.2 ⟨hstem, rfl⟩]
  rcases readBytes_notesFile hfile hfits hlen with ⟨rfl, hread⟩ | ⟨bytes, hread, rfl⟩
  · simp only [hread]
    simp
  · simp only [hread]

end UrnetworkWindows.KeyStore
