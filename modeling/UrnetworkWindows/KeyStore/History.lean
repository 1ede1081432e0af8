/-
What the payout key's store gives back after any history of calls.

`held` reads a network's key off the history, and `written` and `lastNote` its notes.  A
run keeps the files what the history says: `key_run` for the item, for any other calls in
between, and `notes_run` for the notes, as long as they fit the length that is read.
-/
import UrnetworkWindows.KeyStore.Store

namespace UrnetworkWindows.KeyStore

open Lib Std

/-! ### The runs -/

inductive Call
  | addKey (networkId mnemonic address : List UInt8) (protectedAs : Option (List UInt8))
  | deleteKey (networkId : List UInt8)
  | writeNote (networkId name value : List UInt8)

def Call.networkId : Call → List UInt8
  | addKey networkId _ _ _ => networkId
  | deleteKey networkId => networkId
  | writeNote networkId _ _ => networkId

/-- What a call answers, if it answers, and the folder it leaves. -/
def Call.make (folder : Folder) : Call → Option Bool × Folder
  | addKey networkId mnemonic address protectedAs =>
    let (added, folder) := KeyStore.addKey folder networkId mnemonic address protectedAs
    (some added, folder)
  | deleteKey networkId =>
    let (gone, folder) := KeyStore.deleteKey folder networkId
    (some gone, folder)
  | writeNote networkId name value => (none, KeyStore.writeNote folder networkId name value)

/-- The calls made, each with its answer, and the folder. -/
abbrev History : Type := List (Call × Option Bool) × Folder

def step (history : History) (call : Call) : History :=
  let (answer, folder) := call.make history.2
  (history.1 ++ [(call, answer)], folder)

def run (calls : List Call) : History := calls.foldl step ([], fun _ => none)

lemma run_snoc (calls : List Call) (call : Call) :
    run (calls ++ [call]) = step (run calls) call := by
  rw [run, List.foldl_append, List.foldl_cons, List.foldl_nil, run]

/-- `CryptUnprotectData` gives back every phrase that `CryptProtectData` protected in these
calls, under the same entropy. -/
def Inverts (cryptUnprotectData : List UInt8 → List UInt8 → Option (List UInt8))
    (calls : List Call) : Prop :=
  ∀ networkId mnemonic address blob, .addKey networkId mnemonic address (some blob) ∈ calls →
    cryptUnprotectData blob (entropy networkId) = some mnemonic

/-! ### What a history holds -/

/-- A key that was added: its phrase, and the item it is kept as. -/
structure Key where
  phrase : List UInt8
  item : Item
deriving DecidableEq

/-- The length of the file of an item. -/
def Item.fileLength (item : Item) : ℕ :=
  kItemMagic.length + item.address.length + 1 + item.protectedPhrase.length

def heldAfter (id : List UInt8) (held : Option Key) : Call × Option Bool → Option Key
  | (.addKey networkId mnemonic address protectedAs, some true) =>
    if networkId = id then
      -- a call that answered true had an answer of `CryptProtectData`
      some { phrase := mnemonic, item := { address, protectedPhrase := protectedAs.getD [] } }
    else held
  | (.deleteKey networkId, _) => if networkId = id then none else held
  | _ => held

/-- The key of the `AddKey` that answered true since the last `DeleteKey` of the network. -/
def held (id : List UInt8) (answered : List (Call × Option Bool)) : Option Key :=
  answered.foldl (heldAfter id) none

def lastNoteAfter (id name : List UInt8) (last : List UInt8) : Call → List UInt8
  | .writeNote networkId name' value =>
    if networkId = id ∧ name' = name ∧ noteFits name ∧ noteFits value then value else last
  | _ => last

/-- The value of the last `WriteNote` of the name that fits. -/
def lastNote (id name : List UInt8) (calls : List Call) : List UInt8 :=
  calls.foldl (lastNoteAfter id name) []

def writtenAfter (id : List UInt8) (notes : Notes) : Call → Notes
  | .writeNote networkId name value =>
    if networkId = id then (writeNoteTo notes name value).getD notes else notes
  | _ => notes

/-- The notes of a network that fit, one over the other. -/
def written (id : List UInt8) (calls : List Call) : Notes :=
  calls.foldl (writtenAfter id) ∅

/-- The notes of a network never take more than the length that is read. -/
def NotesFit (id : List UInt8) (calls : List Call) : Prop :=
  ∀ made, made <+: calls → (encodeNotes (written id made)).length ≤ kMaxFileBytes

instance (id : List UInt8) (calls : List Call) : Decidable (NotesFit id calls) :=
  decidable_of_iff
    (∀ made ∈ calls.inits, (encodeNotes (written id made)).length ≤ kMaxFileBytes) (by
      simp only [List.mem_inits, NotesFit])

lemma held_snoc (id : List UInt8) (answered : List (Call × Option Bool))
    (made : Call × Option Bool) :
    held id (answered ++ [made]) = heldAfter id (held id answered) made := by
  rw [held, List.foldl_append, List.foldl_cons, List.foldl_nil, held]

lemma written_snoc (id : List UInt8) (calls : List Call) (call : Call) :
    written id (calls ++ [call]) = writtenAfter id (written id calls) call := by
  rw [written, List.foldl_append, List.foldl_cons, List.foldl_nil, written]

lemma lastNote_snoc (id name : List UInt8) (calls : List Call) (call : Call) :
    lastNote id name (calls ++ [call]) = lastNoteAfter id name (lastNote id name calls) call := by
  rw [lastNote, List.foldl_append, List.foldl_cons, List.foldl_nil, lastNote]

/-- No call spells the network in another case of its letters. -/
def SpelledAlike (id : List UInt8) (calls : List Call) : Prop :=
  ∀ call ∈ calls, fileName call.networkId = fileName id → call.networkId = id

instance (id : List UInt8) (calls : List Call) : Decidable (SpelledAlike id calls) :=
  inferInstanceAs
    (Decidable (∀ call ∈ calls, fileName call.networkId = fileName id → call.networkId = id))

section Run

variable {id : List UInt8} {calls : List Call}

lemma path_ne {networkId : List UInt8} {suffix : Suffix}
    (halike : fileName networkId = fileName id → networkId = id) (h : networkId ≠ id) :
    (⟨fileName id, suffix⟩ : Path) ≠ ⟨fileName networkId, suffix⟩ := by
  intro heq
  exact h (halike (congrArg Path.name heq).symm)

/-! ### The key -/

variable {cryptUnprotectData : List UInt8 → List UInt8 → Option (List UInt8)}

/-- The file holds the key, and gives its phrase back. -/
inductive Stored (cryptUnprotectData : List UInt8 → List UInt8 → Option (List UInt8))
    (id : List UInt8) : Option Key → Option (List UInt8) → Prop
  | none : Stored cryptUnprotectData id none none
  | some {key : Key} {bytes : List UInt8} (encoded : encodeItem key.item = some bytes)
      (phrase_ne : key.phrase ≠ [])
      (unprotected : cryptUnprotectData key.item.protectedPhrase (entropy id) = some key.phrase) :
      Stored cryptUnprotectData id (some key) (some bytes)

lemma Stored.make {folder : Folder} {key : Option Key} {call : Call}
    (h : Stored cryptUnprotectData id key (folder ⟨fileName id, .key⟩))
    (hstem : (fileStem id).isSome)
    (halike : fileName call.networkId = fileName id → call.networkId = id)
    (hinverts : Inverts cryptUnprotectData [call]) :
    Stored cryptUnprotectData id (heldAfter id key (call, (call.make folder).1))
      ((call.make folder).2 ⟨fileName id, .key⟩) := by
  cases call with
  | addKey networkId mnemonic address protectedAs =>
    rcases addKey_cases folder networkId mnemonic address protectedAs with
      heq | ⟨path, protectedPhrase, bytes, hadds, heq⟩
    · simp only [Call.make, heq]
      exact h
    · simp only [Call.make, heq, heldAfter, Call.networkId] at halike ⊢
      obtain ⟨-, rfl⟩ := filePath_eq_some.1 hadds.path_eq
      split_ifs with hid
      · subst hid
        rw [Function.update_self, hadds.answer]
        refine .some hadds.encoded hadds.mnemonic_ne (hinverts networkId mnemonic address _ ?_)
        rw [hadds.answer, List.mem_singleton]
        rfl
      · rw [Function.update_of_ne (path_ne halike hid)]
        exact h
  | deleteKey networkId =>
    simp only [Call.make, heldAfter, Call.networkId] at halike ⊢
    split_ifs with hid
    · subst hid
      rw [deleteKey_self hstem]
      exact .none
    · rw [deleteKey_of_ne (path_ne halike hid)]
      exact h
  | writeNote networkId name value =>
    simp only [Call.make, heldAfter]
    rw [writeNote_of_ne (by simp)]
    exact h

theorem key_run (hstem : (fileStem id).isSome) (halike : SpelledAlike id calls)
    (hinverts : Inverts cryptUnprotectData calls) :
    Stored cryptUnprotectData id (held id (run calls).1)
      ((run calls).2 ⟨fileName id, .key⟩) := by
  induction calls using List.reverseRecOn with
  | nil => exact .none
  | append_singleton calls call ih =>
    have hcalls := ih (fun c hc => halike c (List.mem_append_left _ hc))
      (fun n m a b hmem => hinverts n m a b (List.mem_append_left _ hmem))
    rw [run_snoc, step, held_snoc]
    exact hcalls.make hstem (halike call (by simp))
      fun n m a b hmem => hinverts n m a b (List.mem_append_right _ hmem)

lemma readBytes_of_le {folder : Folder} {path : Path} {bytes : List UInt8}
    (hfile : folder path = some bytes) (hlen : bytes.length ≤ kMaxFileBytes) :
    readBytes folder path = .ok bytes := by
  rw [readBytes, hfile]
  exact if_neg (Nat.not_lt.2 hlen)

section Reads

variable {folder : Folder} (unavailable : List UInt8)

lemma reads_of_none (hstem : (fileStem id).isSome)
    (h : Stored cryptUnprotectData id none (folder ⟨fileName id, .key⟩)) :
    keyPhrase cryptUnprotectData unavailable folder id = [] ∧
      keyAddress unavailable folder id = [] := by
  have hread : readBytes folder ⟨fileName id, .key⟩ = .missing := by
    generalize hfile : folder ⟨fileName id, .key⟩ = file at h
    cases h
    rw [readBytes, hfile]
  rw [keyPhrase, keyAddress, filePath_eq_some.2 ⟨hstem, rfl⟩]
  simp only [hread, and_self]

lemma reads_of_some {key : Key} (hstem : (fileStem id).isSome)
    (h : Stored cryptUnprotectData id (some key) (folder ⟨fileName id, .key⟩))
    (hlen : key.item.fileLength ≤ kMaxFileBytes) :
    keyPhrase cryptUnprotectData unavailable folder id = key.phrase ∧
      keyAddress unavailable folder id = key.item.address := by
  generalize hfile : folder ⟨fileName id, .key⟩ = file at h
  cases h with
  | some encoded phrase_ne unprotected =>
    rename_i bytes
    have hbytes : bytes.length = key.item.fileLength := by
      rw [length_of_encodeItem encoded, Item.fileLength]
      have hmagic : kItemMagic.length = 12 := rfl
      omega
    have hshort : bytes.length ≤ kMaxFileBytes := hbytes ▸ hlen
    have hdword : ¬ maxDword < key.item.protectedPhrase.length := by
      rw [Item.fileLength] at hlen
      have hle : kMaxFileBytes ≤ maxDword := by decide
      omega
    rw [keyPhrase, keyAddress, filePath_eq_some.2 ⟨hstem, rfl⟩]
    simp only [readBytes_of_le hfile hshort, decodeItem_encodeItem encoded hshort]
    rw [unprotect, if_neg hdword, unprotected]
    exact ⟨if_neg phrase_ne, trivial⟩

end Reads

/-! ### The notes -/

lemma fits_written (id : List UInt8) (calls : List Call) : (written id calls).Fits := by
  induction calls using List.reverseRecOn with
  | nil =>
    intro note hnote
    rw [ExtTreeMap.mem_toList_iff_getElem?_eq_some] at hnote
    exact absurd hnote (by simp [written])
  | append_singleton calls call ih =>
    rw [written_snoc]
    cases call with
    | addKey => exact ih
    | deleteKey => exact ih
    | writeNote networkId name value =>
      rw [writtenAfter]
      split_ifs
      · cases hmade : writeNoteTo (written id calls) name value with
        | none => exact ih
        | some notes => exact fits_writeNoteTo hmade ih
      · exact ih

lemma getElem?_written {name : List UInt8} (hname : name ≠ []) (id : List UInt8)
    (calls : List Call) : ((written id calls)[name]?).getD [] = lastNote id name calls := by
  induction calls using List.reverseRecOn with
  | nil => simp [written, lastNote]
  | append_singleton calls call ih =>
    rw [written_snoc, lastNote_snoc]
    cases call with
    | addKey => exact ih
    | deleteKey => exact ih
    | writeNote networkId name' value =>
      rw [writtenAfter, lastNoteAfter]
      by_cases hid : networkId = id
      · rw [if_pos hid]
        cases hmade : writeNoteTo (written id calls) name' value with
        | some notes =>
          rw [Option.getD_some, getElem?_writeNoteTo hmade name, ih]
          obtain ⟨-, hfits, hfits'⟩ := fits_of_writeNoteTo hmade
          by_cases heq : name' = name
          · subst heq
            rw [if_pos rfl, if_pos ⟨hid, rfl, hfits, hfits'⟩]
          · rw [if_neg (Ne.symm heq), if_neg fun h => heq h.2.1]
        | none =>
          rw [Option.getD_none, ih, if_neg]
          rintro ⟨-, rfl, hfits, hfits'⟩
          rw [writeNoteTo_eq_none] at hmade
          rcases hmade with h | h | h
          · exact hname h
          · exact h hfits
          · exact h hfits'
      · rw [if_neg hid, if_neg fun h => hid h.1, ih]

lemma NotesFit.of_snoc {call : Call} (h : NotesFit id (calls ++ [call])) : NotesFit id calls :=
  fun made hmade => h made (hmade.trans (List.prefix_append ..))

lemma notes_make {folder : Folder} {notes : Notes} (hstem : (fileStem id).isSome) (call : Call)
    (halike : fileName call.networkId = fileName id → call.networkId = id)
    (hfile : folder ⟨fileName id, .notes⟩ = notesFile notes) (hfits : notes.Fits)
    (hlen : (encodeNotes notes).length ≤ kMaxFileBytes)
    (hlen' : (encodeNotes (writtenAfter id notes call)).length ≤ maxDword) :
    (call.make folder).2 ⟨fileName id, .notes⟩ = notesFile (writtenAfter id notes call) := by
  cases call with
  | addKey networkId mnemonic address protectedAs =>
    rw [Call.make, addKey_of_ne (by simp)]
    exact hfile
  | deleteKey networkId =>
    rw [Call.make, deleteKey_of_ne (by simp)]
    exact hfile
  | writeNote networkId name value =>
    simp only [Call.make, writtenAfter, Call.networkId] at halike hlen' ⊢
    by_cases hid : networkId = id
    · subst hid
      rw [if_pos rfl] at hlen' ⊢
      exact writeNote_self hstem hfile hfits hlen hlen'
    · rw [writeNote_of_ne (path_ne halike hid), if_neg hid]
      exact hfile

/-- After any calls whose notes fit, the network's notes file holds the notes the history
says. -/
theorem notes_run (hstem : (fileStem id).isSome) (halike : SpelledAlike id calls)
    (hfit : NotesFit id calls) :
    (run calls).2 ⟨fileName id, .notes⟩ = notesFile (written id calls) := by
  induction calls using List.reverseRecOn with
  | nil => rfl
  | append_singleton calls call ih =>
    have hfile := ih (fun c hc => halike c (List.mem_append_left _ hc)) hfit.of_snoc
    have hlen' := hfit _ (List.prefix_refl _)
    have hdword : kMaxFileBytes ≤ maxDword := by decide
    rw [written_snoc] at hlen'
    rw [run_snoc, step, written_snoc]
    exact notes_make hstem call (halike call (by simp)) hfile (fits_written id calls)
      (hfit _ (List.prefix_append calls [call])) (hlen'.trans hdword)

end Run

end UrnetworkWindows.KeyStore
