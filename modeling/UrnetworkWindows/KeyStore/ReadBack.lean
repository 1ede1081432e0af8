/-
What the payout key's store accepts it reads back, up to the length it reads.

`reads_back` is the store's promise to one network, over any history: `AddKey`, `WriteNote`
and the two codecs are given back, as long as the files stay within `kMaxFileBytes`.  The
histories after it go past each of its conditions.
-/
import UrnetworkWindows.KeyStore.History

namespace UrnetworkWindows.KeyStore

open Lib Std

/-- After any calls, a network whose id names its files alone has the phrase and the address
of the key it was given, and the value of every note that fits. -/
theorem reads_back (cryptUnprotectData : List UInt8 → List UInt8 → Option (List UInt8))
    (unavailable : List UInt8) {id : List UInt8} {calls : List Call}
    (hstem : (fileStem id).isSome) (halike : SpelledAlike id calls)
    (hinverts : Inverts cryptUnprotectData calls) :
    (held id (run calls).1 = none →
        keyPhrase cryptUnprotectData unavailable (run calls).2 id = [] ∧
        keyAddress unavailable (run calls).2 id = []) ∧
      (∀ key, held id (run calls).1 = some key → key.item.fileLength ≤ kMaxFileBytes →
        keyPhrase cryptUnprotectData unavailable (run calls).2 id = key.phrase ∧
        keyAddress unavailable (run calls).2 id = key.item.address) ∧
      (NotesFit id calls → ∀ name, name ≠ [] →
        readNote (run calls).2 id name = lastNote id name calls) ∧
      (∀ item bytes, encodeItem item = some bytes → bytes.length ≤ kMaxFileBytes →
        decodeItem bytes = some item) ∧
      ∀ item bytes, decodeItem bytes = some item → encodeItem item = some bytes := by
  have hkey := key_run hstem halike hinverts
  refine ⟨fun hnone => ?_, fun key hsome hlen => ?_, fun hfit name hname => ?_,
    fun _ _ => decodeItem_encodeItem, fun _ _ => encodeItem_decodeItem⟩
  · rw [hnone] at hkey
    exact reads_of_none unavailable hstem hkey
  · rw [hsome] at hkey
    exact reads_of_some unavailable hstem hkey hlen
  · rw [readNote_notesFile hstem (notes_run hstem halike hfit) (fits_written id calls)
      (hfit calls (List.prefix_refl _)), getElem?_written hname]

/-- A way to protect a phrase: the entropy it needs stands in front of it. -/
def sealUnder (phrase entropyBytes : List UInt8) : List UInt8 := entropyBytes ++ 0 :: phrase

def unsealUnder (blob entropyBytes : List UInt8) : Option (List UInt8) :=
  if entropyBytes ++ [0] <+: blob then some (blob.drop (entropyBytes.length + 1)) else none

lemma unsealUnder_sealUnder (phrase entropyBytes : List UInt8) :
    unsealUnder (sealUnder phrase entropyBytes) entropyBytes = some phrase := by
  have hsplit : sealUnder phrase entropyBytes = (entropyBytes ++ [0]) ++ phrase := by
    simp [sealUnder]
  rw [unsealUnder, hsplit, if_pos (List.prefix_append ..)]
  simp

/-- The call that adds a key with a phrase protected so. -/
def addSealed (networkId mnemonic address : List UInt8) : Call :=
  .addKey networkId mnemonic address (some (sealUnder mnemonic (entropy networkId)))

lemma inverts_addSealed {calls : List Call}
    (h : ∀ networkId mnemonic address protectedAs,
      .addKey networkId mnemonic address protectedAs ∈ calls →
      protectedAs = some (sealUnder mnemonic (entropy networkId))) :
    Inverts unsealUnder calls := by
  intro networkId mnemonic address blob hmem
  cases h networkId mnemonic address _ hmem
  exact unsealUnder_sealUnder mnemonic (entropy networkId)

/-- A key and a note, with a second key that is refused and the note written twice. -/
def shortHistory : List Call :=
  [addSealed (narrow "n-1") (narrow "alpha") (narrow "5F"),
    addSealed (narrow "n-1") (narrow "bravo") (narrow "5G"),
    .writeNote (narrow "n-1") (narrow "saved") (narrow "1"),
    .writeNote (narrow "N-2") (narrow "saved") (narrow "3"),
    .writeNote (narrow "n-1") (narrow "saved") (narrow "2")]

lemma inverts_shortHistory : Inverts unsealUnder shortHistory := by
  refine inverts_addSealed ?_
  intro networkId mnemonic address protectedAs hmem
  simp only [shortHistory, addSealed, List.mem_cons, Call.addKey.injEq, reduceCtorEq,
    List.not_mem_nil, or_false] at hmem
  rcases hmem with ⟨rfl, rfl, -, rfl⟩ | ⟨rfl, rfl, -, rfl⟩ <;> rfl

theorem reads_back_shortHistory :
    (keyPhrase unsealUnder [] (run shortHistory).2 (narrow "n-1") = narrow "alpha" ∧
        keyAddress [] (run shortHistory).2 (narrow "n-1") = narrow "5F") ∧
      readNote (run shortHistory).2 (narrow "n-1") (narrow "saved") = narrow "2" := by
  obtain ⟨-, hkey, hnote, -⟩ := @reads_back unsealUnder [] (narrow "n-1") shortHistory
    (by decide) (by decide) inverts_shortHistory
  have hheld : held (narrow "n-1") (run shortHistory).1 = some
      ⟨narrow "alpha", ⟨narrow "5F", sealUnder (narrow "alpha") (entropy (narrow "n-1"))⟩⟩ := by
    decide
  exact ⟨hkey _ hheld (by decide), hnote (by decide) _ (by decide)⟩

/-! ### Past the conditions -/

lemma readBytes_of_lt {folder : Folder} {path : Path} {bytes : List UInt8}
    (hfile : folder path = some bytes) (hlen : kMaxFileBytes < bytes.length) :
    readBytes folder path = .failed := by
  rw [readBytes, hfile]
  exact if_pos hlen

section LongPhrase

variable {phrase : List UInt8}

/-- The item of a phrase. -/
def sealedItem (phrase : List UInt8) : Item where
  address := narrow "5F"
  protectedPhrase := sealUnder phrase (entropy (narrow "n"))

def sealedBytes (phrase : List UInt8) : List UInt8 :=
  kItemMagic ++ (narrow "5F" ++ lineBreak :: sealUnder phrase (entropy (narrow "n")))

lemma length_sealedBytes : (sealedBytes phrase).length = phrase.length + 52 := by
  have hmagic : kItemMagic.length = 12 := rfl
  have haddress : (narrow "5F").length = 2 := rfl
  have hentropy : (entropy (narrow "n")).length = 36 := rfl
  rw [sealedBytes, sealUnder, List.length_append, List.length_append, List.length_cons,
    List.length_append, List.length_cons, hmagic, haddress, hentropy]
  omega

lemma encodeItem_sealedItem : encodeItem (sealedItem phrase) = some (sealedBytes phrase) := by
  refine encodeItem_eq_some.2 ⟨⟨(by decide : addressFits (narrow "5F") = true), ?_⟩, rfl⟩
  show sealUnder phrase (entropy (narrow "n")) ≠ []
  simp [sealUnder]

lemma run_addSealed (hne : phrase ≠ []) (hlen : phrase.length + 52 ≤ maxDword) :
    run [addSealed (narrow "n") phrase (narrow "5F")] =
      ([(addSealed (narrow "n") phrase (narrow "5F"), some true)],
        Function.update (fun _ => none) ⟨fileName (narrow "n"), .key⟩
          (some (sealedBytes phrase))) := by
  have hadds : Adds (fun _ => none) (narrow "n") phrase (narrow "5F")
      (some (sealUnder phrase (entropy (narrow "n")))) ⟨fileName (narrow "n"), .key⟩
      (sealUnder phrase (entropy (narrow "n"))) (sealedBytes phrase) :=
    ⟨by decide, hne, rfl, rfl, encodeItem_sealedItem⟩
  have hadd := addKey_eq hadds (by omega) (length_sealedBytes ▸ hlen)
  rw [run, List.foldl_cons, List.foldl_nil, step]
  simp only [addSealed, Call.make, hadd, List.nil_append]

lemma held_addSealed (hne : phrase ≠ []) (hlen : phrase.length + 52 ≤ maxDword) :
    held (narrow "n") (run [addSealed (narrow "n") phrase (narrow "5F")]).1 =
      some ⟨phrase, sealedItem phrase⟩ := by
  rw [run_addSealed hne hlen]
  rfl

lemma keyPhrase_addSealed (hne : phrase ≠ []) (hlen : phrase.length + 52 ≤ maxDword)
    (hlong : kMaxFileBytes < phrase.length + 52) (unavailable : List UInt8) :
    keyPhrase unsealUnder unavailable
      (run [addSealed (narrow "n") phrase (narrow "5F")]).2 (narrow "n") = unavailable := by
  have hfile : (run [addSealed (narrow "n") phrase (narrow "5F")]).2
      ⟨fileName (narrow "n"), .key⟩ = some (sealedBytes phrase) := by
    simp only [run_addSealed hne hlen, Function.update_self]
  rw [keyPhrase, filePath_eq_some.2 ⟨by decide, rfl⟩]
  simp only [readBytes_of_lt hfile (length_sealedBytes ▸ hlong)]

/-- A phrase that takes a whole file. -/
def longPhrase : List UInt8 := List.replicate kMaxFileBytes 'a'.toUInt8

lemma length_longPhrase : longPhrase.length = kMaxFileBytes := List.length_replicate ..

end LongPhrase

/-- The name of the note that is written after `i` others, and the value of each. -/
def noteName (i : ℕ) : List UInt8 := List.replicate (i + 1) 'a'.toUInt8

def noteValue : List UInt8 := List.replicate 512 'v'.toUInt8

/-- Notes of different names, all of the longest value. -/
def manyNotes (n : ℕ) : List Call :=
  (List.range n).map fun i => .writeNote (narrow "n") (noteName i) noteValue

lemma noteFits_noteName {i : ℕ} (h : i < 512) : noteFits (noteName i) := by
  rw [noteFits, noteName, List.length_replicate, Bool.and_eq_true, List.all_eq_true]
  refine ⟨by simpa using h, fun c hc => ?_⟩
  rw [List.eq_of_mem_replicate hc]
  decide

lemma noteFits_noteValue : noteFits noteValue := by
  rw [noteFits, noteValue, List.length_replicate, Bool.and_eq_true, List.all_eq_true]
  refine ⟨by decide, fun c hc => ?_⟩
  rw [List.eq_of_mem_replicate hc]
  decide

lemma manyNotes_succ (n : ℕ) :
    manyNotes (n + 1) = manyNotes n ++ [.writeNote (narrow "n") (noteName n) noteValue] := by
  rw [manyNotes, List.range_succ, List.map_append, List.map_singleton, manyNotes]

lemma written_succ {n : ℕ} (h : n < 512) :
    written (narrow "n") (manyNotes (n + 1)) =
      (written (narrow "n") (manyNotes n)).insert (noteName n) noteValue := by
  have hwrite : ∀ notes : Notes, writeNoteTo notes (noteName n) noteValue =
      some (notes.insert (noteName n) noteValue) := by
    intro notes
    rw [writeNoteTo, noteFits_noteName h, noteFits_noteValue]
    rfl
  rw [manyNotes_succ, written_snoc, writtenAfter, if_pos rfl, hwrite, Option.getD_some]

lemma getElem?_manyNotes {n : ℕ} (h : n ≤ 512) (i : ℕ) :
    (written (narrow "n") (manyNotes n))[noteName i]? = if i < n then some noteValue else none := by
  induction n with
  | zero => simp [manyNotes, written]
  | succ n ih =>
    rw [written_succ h, ExtTreeMap.getElem?_insert, ih (Nat.le_of_succ_le h)]
    by_cases heq : n = i
    · subst heq
      simp
    · have hne : compare (noteName n) (noteName i) ≠ .eq := by
        intro hcompare
        have hlen := congrArg List.length (Std.compare_eq_iff_eq.1 hcompare)
        rw [noteName, noteName, List.length_replicate, List.length_replicate] at hlen
        omega
      rw [if_neg hne]
      exact if_congr (by omega) rfl rfl

lemma length_manyNotes {n : ℕ} (h : n ≤ 512) :
    2 * (encodeNotes (written (narrow "n") (manyNotes n))).length = n * (n + 1029) := by
  induction n with
  | zero => rfl
  | succ n ih =>
    have hnew : noteName n ∉ written (narrow "n") (manyNotes n) := by
      rw [ExtTreeMap.mem_iff_isSome_getElem?, getElem?_manyNotes (Nat.le_of_succ_le h)]
      simp
    have hline : noteLength (noteName n, noteValue) = n + 515 := by
      rw [noteLength, noteName, noteValue, List.length_replicate, List.length_replicate]
    rw [written_succ h, length_encodeNotes_insert hnew, hline, Nat.mul_add,
      ih (Nat.le_of_succ_le h)]
    ring

lemma notesFit_manyNotes : NotesFit (narrow "n") (manyNotes 114) := by
  intro made hmade
  obtain ⟨k, rfl⟩ : ∃ k, made = manyNotes (min k 114) := by
    refine ⟨made.length, ?_⟩
    rw [List.prefix_iff_eq_take.1 hmade, manyNotes, ← List.map_take, List.take_range, manyNotes,
      List.length_map, List.length_range]
    simp
  have hk : min k 114 ≤ 114 := Nat.min_le_right ..
  have hlen := length_manyNotes (hk.trans (by decide : 114 ≤ 512))
  have hle : min k 114 * (min k 114 + 1029) ≤ 114 * (114 + 1029) :=
    Nat.mul_le_mul hk (Nat.add_le_add_right hk _)
  have hmax : kMaxFileBytes = 65536 := rfl
  omega

lemma readNote_manyNotes {n : ℕ} (hn : n < 512) (hfit : NotesFit (narrow "n") (manyNotes n))
    (hlong : kMaxFileBytes < (encodeNotes (written (narrow "n") (manyNotes (n + 1)))).length)
    (name : List UInt8) : readNote (run (manyNotes (n + 1))).2 (narrow "n") name = [] := by
  have hstem : (fileStem (narrow "n")).isSome := by decide
  have halike : SpelledAlike (narrow "n") (manyNotes n) := by
    intro call hcall _
    obtain ⟨i, -, rfl⟩ := List.mem_map.1 hcall
    rfl
  have hdword : (encodeNotes (written (narrow "n") (manyNotes (n + 1)))).length ≤ maxDword := by
    have hlen := @length_manyNotes (n + 1) hn
    have hle : (n + 1) * (n + 1 + 1029) ≤ 512 * (512 + 1029) := Nat.mul_le_mul hn (by omega)
    have hmax : 512 * (512 + 1029) ≤ maxDword := by decide
    omega
  have hwritten := written_snoc (narrow "n") (manyNotes n)
    (.writeNote (narrow "n") (noteName n) noteValue)
  rw [← manyNotes_succ] at hwritten
  have hfile : (run (manyNotes (n + 1))).2 ⟨fileName (narrow "n"), .notes⟩ =
      notesFile (written (narrow "n") (manyNotes (n + 1))) := by
    rw [hwritten] at hdword ⊢
    rw [manyNotes_succ, run_snoc, step]
    exact notes_make hstem _ (fun _ => rfl) (notes_run hstem halike hfit) (fits_written _ _)
      (hfit _ (List.prefix_refl _)) hdword
  have hread : readBytes (run (manyNotes (n + 1))).2 ⟨fileName (narrow "n"), .notes⟩ =
      .failed := by
    rw [notesFile, if_neg] at hfile
    · exact readBytes_of_lt hfile hlong
    · intro hempty
      rw [ExtTreeMap.isEmpty_iff.1 hempty] at hlong
      exact absurd hlong (by decide)
  rw [readNote, filePath_eq_some.2 ⟨hstem, rfl⟩]
  simp only [hread]

/-- The store refuses an id that is no file name and a note without a name, finds another
spelling of an id under the same name, and does not read a file that is too long. -/
theorem reads_back_fails :
    (held (narrow "n.1") (run []).1 = none ∧
      keyPhrase unsealUnder (narrow "unavailable") (run []).2 (narrow "n.1") ≠ []) ∧
    readNote (run [.writeNote (narrow "n") [] (narrow "1")]).2 (narrow "n") [] ≠
      lastNote (narrow "n") [] [.writeNote (narrow "n") [] (narrow "1")] ∧
    (∃ key, held (narrow "n")
        (run [addSealed (narrow "n") (narrow "alpha") (narrow "5F"), .deleteKey (narrow "N")]).1 =
          some key ∧
      keyPhrase unsealUnder (narrow "unavailable")
        (run [addSealed (narrow "n") (narrow "alpha") (narrow "5F"), .deleteKey (narrow "N")]).2
        (narrow "n") ≠ key.phrase) ∧
    (∃ key bytes,
      held (narrow "n") (run [addSealed (narrow "n") longPhrase (narrow "5F")]).1 = some key ∧
      keyPhrase unsealUnder (narrow "unavailable")
        (run [addSealed (narrow "n") longPhrase (narrow "5F")]).2 (narrow "n") ≠ key.phrase ∧
      encodeItem key.item = some bytes ∧ decodeItem bytes = none) ∧
    readNote (run (manyNotes 115)).2 (narrow "n") (noteName 0) ≠
      lastNote (narrow "n") (noteName 0) (manyNotes 115) := by
  have hpos : 0 < kMaxFileBytes := by decide
  have hne : longPhrase ≠ [] := List.ne_nil_of_length_pos (length_longPhrase ▸ hpos)
  have hlong : kMaxFileBytes < longPhrase.length + 52 := by
    rw [length_longPhrase]
    omega
  have hmax : longPhrase.length + 52 ≤ maxDword := by
    rw [length_longPhrase]
    decide
  refine ⟨by decide, by decide, ⟨⟨narrow "alpha", ⟨narrow "5F",
    sealUnder (narrow "alpha") (entropy (narrow "n"))⟩⟩, by decide, by decide⟩,
    ⟨⟨longPhrase, sealedItem longPhrase⟩, sealedBytes longPhrase,
      held_addSealed hne hmax, ?_, encodeItem_sealedItem, ?_⟩, ?_⟩
  · rw [keyPhrase_addSealed hne hmax hlong]
    intro heq
    have hlen : (narrow "unavailable").length = longPhrase.length := congrArg List.length heq
    rw [length_longPhrase] at hlen
    exact absurd hlen (by decide)
  · rw [decodeItem, if_pos (.inl (length_sealedBytes ▸ hlong))]
  · have hname : noteName 0 ≠ [] := by decide
    have hlast := getElem?_written hname (narrow "n") (manyNotes 115)
    have hlen := @length_manyNotes (114 + 1) (by decide)
    have hkmax : kMaxFileBytes = 65536 := rfl
    rw [getElem?_manyNotes (by decide) 0, if_pos (by decide), Option.getD_some] at hlast
    have hfull : kMaxFileBytes <
        (encodeNotes (written (narrow "n") (manyNotes (114 + 1)))).length := by
      rw [hkmax]
      omega
    rw [readNote_manyNotes (by decide) notesFit_manyNotes hfull, ← hlast]
    exact (List.cons_ne_nil _ _).symm

end UrnetworkWindows.KeyStore
