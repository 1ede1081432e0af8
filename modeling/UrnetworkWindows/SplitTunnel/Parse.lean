/-
The parser of the excluded paths in the kernel (`Driver.c`: `UrstSetExcludedPaths`), at the
level of its pointer, and the buffer of the service it is written for.

The pointer is an offset into the buffer, and every read goes through `readAt`, which fails
outside it.  An allocation may fail, the one of the array and the one of every string.
`parseAt_eq` says that the pointer computes the list `parsePaths` of the driver's model, and
`parsePaths_eq` that this list comes from the complete entries of the buffer, in order.

The size of the service's buffer is cut to 32 bits on its way: `setExcludedPaths_exact` says
which lists of paths arrive.
-/
import UrnetworkWindows.Lib.Frames
import UrnetworkWindows.SplitTunnel.Push

namespace UrnetworkWindows.SplitTunnel

open Lib

/-! ### The parser -/

/-- The status of `UrstSetExcludedPaths`. -/
inductive SetPathsStatus
  | success
  | bufferTooSmall
  | insufficientResources
deriving DecidableEq, Repr

/-- How the parser ends; `outside` is a read beyond the buffer. -/
inductive SetPaths
  | returned (status : SetPathsStatus) (d : Driver)
  | outside
deriving DecidableEq, Repr

/-- How its loop ends. -/
inductive Parsed
  | paths (paths : List (List UInt16))
  | outside
deriving DecidableEq, Repr

/-- So many bytes from `p` on, if they are inside the buffer. -/
def readAt (buf : List UInt8) (p n : ℕ) : Option (List UInt8) :=
  if p + n ≤ buf.length then some ((buf.drop p).take n) else none

/-- The `UNICODE_STRING` over a copy: its length of bytes is cut to sixteen bits. -/
def unicodeString (copy : List UInt8) : List UInt16 := toWide (copy.take (copy.length % 65536))

/-- The loop, with `n` entries to go and `parsed` behind it.  `alloc` tells of each allocation
whether it succeeds; the first is the array's. -/
def parseAt (alloc : ℕ → Bool) (buf : List UInt8) :
    ℕ → ℕ → ℕ → List (List UInt16) → Parsed
  | 0, _, _, paths => .paths paths
  | n + 1, parsed, p, paths =>
      if buf.length < p + 2 then .paths paths
      else
        match readAt buf p 2 with
        | none => .outside
        | some chars =>
            let bytes := 2 * ofBytes chars
            if buf.length < p + 2 + bytes then .paths paths
            else if alloc (parsed + 1) then
              match readAt buf (p + 2) bytes with
              | none => .outside
              | some copy =>
                  parseAt alloc buf n (parsed + 1) (p + 2 + bytes) (paths ++ [unicodeString copy])
            else .paths paths

/-- `UrstSetExcludedPaths` on its pointer. -/
def urstSetExcludedPathsAt (alloc : ℕ → Bool) (buf : List UInt8) (d : Driver) : SetPaths :=
  if buf.length < 4 then .returned .bufferTooSmall d
  else
    match readAt buf 0 4 with
    | none => .outside
    | some header =>
        let count := ofBytes header
        if count ≠ 0 ∧ alloc 0 = false then .returned .insufficientResources d
        else
          match parseAt alloc buf count 0 4 [] with
          | .outside => .outside
          | .paths paths => .returned .success { urstClearExcluded d with paths }

lemma readAt_of_le {buf : List UInt8} {p n : ℕ} (h : p + n ≤ buf.length) :
    readAt buf p n = some ((buf.drop p).take n) := if_pos h

/-- The loop on its pointer reads inside the buffer, and stores what the loop on a list
stores, up to the first allocation that fails. -/
lemma parseAt_eq (alloc : ℕ → Bool) (buf : List UInt8) :
    ∀ (n parsed p : ℕ) (paths : List (List UInt16)), p ≤ buf.length →
      ∃ stored, parseAt alloc buf n parsed p paths = .paths (paths ++ stored) ∧
        stored <+: parsePaths n (buf.drop p) ∧
        ((∀ k, alloc k) → stored = parsePaths n (buf.drop p)) := by
  intro n
  induction n with
  | zero =>
    intro parsed p paths _
    exact ⟨[], by simp [parseAt], List.nil_prefix, fun _ => rfl⟩
  | succ n ih =>
    intro parsed p paths hp
    have hlen : (buf.drop p).length = buf.length - p := List.length_drop
    rw [parseAt, parsePaths]
    by_cases hshort : buf.length < p + 2
    · have hshort' : (buf.drop p).length < 2 := by omega
      rw [if_pos hshort, if_pos hshort']
      exact ⟨[], by simp, List.prefix_rfl, fun _ => rfl⟩
    · have hshort' : ¬ (buf.drop p).length < 2 := by omega
      rw [if_neg hshort, if_neg hshort', readAt_of_le (by omega)]
      simp only [List.drop_drop]
      generalize hbytes : 2 * ofBytes ((buf.drop p).take 2) = bytes
      have hlen' : (buf.drop (p + 2)).length = buf.length - (p + 2) := List.length_drop
      by_cases hcut : buf.length < p + 2 + bytes
      · have hcut' : (buf.drop (p + 2)).length < bytes := by omega
        rw [if_pos hcut, if_pos hcut']
        exact ⟨[], by simp, List.prefix_rfl, fun _ => rfl⟩
      · have hcut' : ¬ (buf.drop (p + 2)).length < bytes := by omega
        rw [if_neg hcut, if_neg hcut', readAt_of_le (by omega)]
        have hcopy : ((buf.drop (p + 2)).take bytes).length = bytes := by
          rw [List.length_take]
          omega
        have hstring : toWide (((buf.drop (p + 2)).take bytes).take (bytes % 65536)) =
            unicodeString ((buf.drop (p + 2)).take bytes) := by
          rw [unicodeString, hcopy]
        rw [hstring]
        by_cases halloc : alloc (parsed + 1)
        · rw [if_pos halloc]
          obtain ⟨stored, hparse, hpre, hall⟩ := ih (parsed + 1) (p + 2 + bytes)
            (paths ++ [unicodeString ((buf.drop (p + 2)).take bytes)]) (by omega)
          refine ⟨_ :: stored, ?_, (List.prefix_cons_inj _).2 hpre, fun h => by rw [hall h]⟩
          rw [List.append_cons]
          exact hparse
        · rw [if_neg halloc]
          exact ⟨[], by simp, List.nil_prefix, fun h => absurd (h _) halloc⟩

theorem urstSetExcludedPathsAt_eq (buf : List UInt8) (d : Driver) :
    urstSetExcludedPathsAt (fun _ => true) buf d =
      .returned (if (urstSetExcludedPaths buf d).1 then .success else .bufferTooSmall)
        (urstSetExcludedPaths buf d).2 := by
  rw [urstSetExcludedPathsAt, urstSetExcludedPaths]
  by_cases hshort : buf.length < 4
  · rw [if_pos hshort, if_pos hshort]
    rfl
  · obtain ⟨stored, hparse, -, hall⟩ := parseAt_eq (fun _ => true) buf
      (ofBytes (buf.take 4)) 0 4 [] (by omega)
    rw [hall fun _ => rfl, List.nil_append] at hparse
    rw [if_neg hshort, if_neg hshort, readAt_of_le (by omega), List.drop_zero]
    simp [hparse]

/-! ### The entries of a buffer -/

/-- An entry is a number of characters in two bytes and after it twice as many bytes. -/
def entryCode : LengthCode UInt8 where
  width := 2
  valid := fun n => n % 2 = 0 ∧ n < 131072
  write := fun n => toBytes 2 (n / 2)
  read := fun h => 2 * ofBytes h
  width_pos := Nat.two_pos
  length_write := fun _ => length_toBytes 2 _
  read_write := by
    rintro n ⟨heven, hlt⟩
    rw [ofBytes_toBytes_of_lt (by omega)]
    omega
  write_read := by
    intro h hh
    have hhalf : 2 * ofBytes h / 2 = ofBytes h := by omega
    rw [hhalf, ← hh, toBytes_ofBytes]

lemma entryCode_valid {h : List UInt8} (hh : h.length = 2) :
    entryCode.valid (entryCode.read h) := by
  have hlt := ofBytes_lt h
  rw [hh] at hlt
  refine ⟨?_, ?_⟩ <;> simp only [entryCode] <;> omega

lemma parsePaths_eq {bs : List UInt8} {entries : List (List UInt8)}
    (h : entryCode.Longest bs entries) (count : ℕ) :
    parsePaths count bs = (entries.take count).map unicodeString := by
  induction count generalizing bs entries with
  | zero => simp [parsePaths]
  | succ count ih =>
    obtain ⟨hfits, tail, rfl, hstuck⟩ := h
    cases entries with
    | nil =>
      rw [LengthCode.encode_nil, List.nil_append, List.take_nil, List.map_nil, parsePaths]
      by_cases hshort : tail.length < 2
      · rw [if_pos hshort]
      · rw [if_neg hshort]
        refine if_pos ?_
        by_contra hcut
        -- an entry would stand at the front
        have hwidth : (tail.take 2).length = entryCode.width := by
          rw [List.length_take]
          show min 2 tail.length = 2
          omega
        obtain ⟨hfit, hframe⟩ := LengthCode.frame_take hwidth (entryCode_valid hwidth)
          (not_lt.1 hcut)
        rw [List.take_append_drop] at hframe
        exact absurd ⟨_, hframe.symm⟩ (hstuck _ hfit)
    | cons e entries =>
      obtain ⟨heven, hlt⟩ : entryCode.Fits e := hfits e (by simp)
      have hlen : ofBytes (toBytes 2 (e.length / 2)) = e.length / 2 :=
        ofBytes_toBytes_of_lt (by omega)
      have htwice : 2 * (e.length / 2) = e.length := by omega
      have hsplit : entryCode.encode (e :: entries) ++ tail =
          toBytes 2 (e.length / 2) ++ (e ++ (entryCode.encode entries ++ tail)) := by
        rw [LengthCode.encode_cons, LengthCode.frame, List.append_assoc, List.append_assoc]
        rfl
      have hrest : entryCode.Longest (entryCode.encode entries ++ tail) entries :=
        ⟨fun p hp => hfits p (by simp [hp]), tail, rfl, hstuck⟩
      have hlong : ¬ (toBytes 2 (e.length / 2) ++
          (e ++ (entryCode.encode entries ++ tail))).length < 2 := by
        rw [List.length_append, length_toBytes]
        omega
      rw [hsplit, parsePaths, List.take_left' (length_toBytes 2 _),
        List.drop_left' (length_toBytes 2 _),
        hlen, htwice, if_neg hlong, if_neg (by simp), List.take_left' rfl,
        List.drop_left' rfl, ih hrest]
      rfl

lemma unicodeString_eq {e : List UInt8} (h : e.length ≤ 2 * 0x7FFF) :
    unicodeString e = toWide e := by
  rw [unicodeString, Nat.mod_eq_of_lt (by omega), List.take_length]

lemma urstSetExcludedPathsAt_spec (alloc : ℕ → Bool) (buf : List UInt8) (d : Driver)
    {entries : List (List UInt8)} (h : entryCode.Longest (buf.drop 4) entries) :
    (∃ status, status ≠ .success ∧ urstSetExcludedPathsAt alloc buf d = .returned status d) ∨
      ∃ paths, urstSetExcludedPathsAt alloc buf d =
          .returned .success { urstClearExcluded d with paths } ∧
        paths <+: (entries.take (ofBytes (buf.take 4))).map unicodeString := by
  rw [urstSetExcludedPathsAt]
  by_cases hshort : buf.length < 4
  · rw [if_pos hshort]
    exact .inl ⟨.bufferTooSmall, by simp, rfl⟩
  · rw [if_neg hshort, readAt_of_le (by omega), List.drop_zero]
    simp only []
    by_cases hnone : ofBytes (buf.take 4) ≠ 0 ∧ alloc 0 = false
    · rw [if_pos hnone]
      exact .inl ⟨.insufficientResources, by simp, rfl⟩
    · obtain ⟨stored, hparse, hpre, -⟩ := parseAt_eq alloc buf (ofBytes (buf.take 4)) 0 4 []
        (by omega)
      rw [parsePaths_eq h] at hpre
      rw [if_neg hnone, hparse, List.nil_append]
      exact .inr ⟨stored, rfl, hpre⟩

/-! ### The service's buffer -/

lemma setPaths_sentAppIds_iff (ws : List AppId) (d : Driver) :
    urstSetExcludedPathsAt (fun _ => true) (sentAppIds ws) d =
        .returned .success { urstClearExcluded d with paths := ws.map AppId.chars } ↔
      4 + (ws.map fun w => entrySize w.chars).sum < 2 ^ 32 := by
  rw [urstSetExcludedPathsAt_eq, ← length_packAppIds, urstSetExcludedPaths]
  by_cases hshort : (sentAppIds ws).length < 4
  · rw [if_pos hshort]
    refine ⟨fun h => absurd h (by simp), fun hlen => ?_⟩
    have hfour := length_packAppIds ws
    rw [sentAppIds, Nat.mod_eq_of_lt hlen, List.take_length] at hshort
    omega
  · rw [if_neg hshort]
    constructor
    · intro h
      refine length_lt_of_parsePaths_sentAppIds ?_ (not_lt.1 hshort)
      simpa using h
    · intro hlen
      rw [parsePaths_sentAppIds hlen]
      rfl

/-- **The excluded paths arrive, and nothing else does harm.**  A list of app ids is read
back as it was, if and only if its buffer takes less than 4 GiB.  Of any buffer, and
whatever allocation fails, the handler reads only what is inside; it stores at most as many
strings as the header counts, each from the complete entry of its index, and exactly its
characters if they are at most 32767. -/
theorem setExcludedPaths_exact (ws : List AppId) (alloc : ℕ → Bool) (buf : List UInt8)
    (d : Driver) :
    (urstSetExcludedPathsAt (fun _ => true) (sentAppIds ws) d =
        .returned .success { urstClearExcluded d with paths := ws.map AppId.chars } ↔
      4 + (ws.map fun w => entrySize w.chars).sum < 2 ^ 32) ∧
    ∃ entries, entryCode.Longest (buf.drop 4) entries ∧
      ((∃ status, status ≠ .success ∧
          urstSetExcludedPathsAt alloc buf d = .returned status d) ∨
        ∃ paths, urstSetExcludedPathsAt alloc buf d =
            .returned .success { urstClearExcluded d with paths } ∧
          paths.length ≤ ofBytes (buf.take 4) ∧
          ∀ (i : ℕ) (hi : i < paths.length), ∃ e, entries[i]? = some e ∧
            paths[i] = unicodeString e ∧ (e.length ≤ 2 * 0x7FFF → paths[i] = toWide e)) := by
  refine ⟨setPaths_sentAppIds_iff ws d, ?_⟩
  obtain ⟨entries, hentries⟩ := LengthCode.exists_longest entryCode (buf.drop 4)
  refine ⟨entries, hentries, (urstSetExcludedPathsAt_spec alloc buf d hentries).imp_right ?_⟩
  rintro ⟨paths, hrun, hpre⟩
  refine ⟨paths, hrun, ?_, fun i hi => ?_⟩
  · have hle := hpre.length_le
    rw [List.length_map, List.length_take] at hle
    omega
  · have hget := hpre.getElem hi
    have hi' : i < ((entries.take (ofBytes (buf.take 4))).map unicodeString).length :=
      hi.trans_le hpre.length_le
    rw [List.length_map] at hi'
    have hin : i < entries.length := hi'.trans_le (List.length_take_le' _ _)
    rw [List.getElem_map, List.getElem_take] at hget
    refine ⟨entries[i], List.getElem?_eq_getElem hin, hget, fun hshort => ?_⟩
    rw [hget, unicodeString_eq hshort]

lemma length_packAppIds_replicate (n : ℕ) (w : AppId) :
    (packAppIds (List.replicate n w)).length = 4 + n * entrySize w.chars := by
  rw [length_packAppIds, List.map_replicate, List.sum_replicate, smul_eq_mul]

/-- An app id of the greatest length. -/
def longestAppId : AppId where
  chars := List.replicate 0x7FFF 97
  ne_nil := by
    rw [← List.length_pos_iff, List.length_replicate]
    decide
  length_le := by rw [List.length_replicate]

lemma length_longestAppId : longestAppId.chars.length = 0x7FFF := List.length_replicate ..

/-- 65536 of them take four bytes more than 4 GiB: the driver gets the header only, and
stores no path. -/
theorem setExcludedPaths_cut :
    urstSetExcludedPathsAt (fun _ => true) (sentAppIds (List.replicate 65536 longestAppId)) {} =
        .returned .success { urstClearExcluded {} with paths := [] } ∧
      ¬ urstSetExcludedPathsAt (fun _ => true) (sentAppIds (List.replicate 65536 longestAppId)) {} =
        .returned .success { urstClearExcluded {} with
          paths := (List.replicate 65536 longestAppId).map AppId.chars } := by
  have hsize : entrySize longestAppId.chars = 65536 := by
    rw [entrySize, length_longestAppId]
  have hlen : (packAppIds (List.replicate 65536 longestAppId)).length = 2 ^ 32 + 4 := by
    rw [length_packAppIds_replicate, hsize]
    norm_num
  have hcount : (List.replicate 65536 longestAppId).length = 65536 := List.length_replicate ..
  -- of the list, only its count and the size of its buffer matter
  generalize List.replicate 65536 longestAppId = ws at hlen hcount ⊢
  have hsent : sentAppIds ws = toBytes 4 65536 := by
    rw [sentAppIds, hlen, packAppIds, hcount]
    exact List.take_left' (length_toBytes 4 _)
  have hstored : urstSetExcludedPathsAt (fun _ => true) (toBytes 4 65536) {} =
      .returned .success { urstClearExcluded {} with paths := [] } := by
    rw [urstSetExcludedPathsAt_eq]
    decide
  rw [hsent, hstored]
  refine ⟨rfl, fun h => ?_⟩
  simp only [SetPaths.returned.injEq, Driver.mk.injEq] at h
  have hpaths := congrArg List.length h.2.2.2.2.2.1
  rw [List.length_nil, List.length_map, hcount] at hpaths
  omega

end UrnetworkWindows.SplitTunnel
