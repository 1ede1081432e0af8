/-
The language of the sign-in return (`AuthLink.h`: `Parse`).

`Written` says what a link looks like that carries some pairs, and `Reads` what the pairs of
an answer are: a permutation of the four of a sealed answer, or of the two of a denied one,
with values of the right form.  The fields that the loop over the pairs fills are a function
of the keys (`Fields.get`), and `foldlM_read_iff` says which pairs it takes.

`parse_iff` is the parser against the language, in both directions.
-/
import Mathlib.Data.List.Perm.Basic
import UrnetworkWindows.SignIn.AuthLink

namespace UrnetworkWindows.SignIn.AuthLink

open Lib

/-! ### The language -/

/-- A link that carries these pairs, with or without a slash before the query. -/
structure Written (url : List UInt8) (slash : Bool) (ps : List (List UInt8 × List UInt8)) :
    Prop where
  length_le : url.length ≤ 4096
  chars : ∀ b ∈ url, 0x21 ≤ b.toNat ∧ b.toNat ≤ 0x7E ∧ b ≠ '%'.toUInt8
  url_eq : url = kAuthPrefix ++ ((if slash then ['/'.toUInt8] else []) ++ '?'.toUInt8 :: query ps)

/-- The pairs of an answer, in any order, and the link they are read as. -/
inductive Reads (ps : List (List UInt8 × List UInt8)) : Return → Prop
  | sealed (state epk nonce data : List UInt8)
      (keys : ps.Perm [(narrow "state", state), (narrow "epk", epk), (narrow "n", nonce),
        (narrow "d", data)])
      (isState : IsState state) (isEpk : isBase58 epk 64) (isNonce : isBase58 nonce 64)
      (isData : isBase58 data 2048) :
      Reads ps { kind := .sealed, reject := .none, state, epk, nonce, data }
  | denied (state : List UInt8)
      (keys : ps.Perm [(narrow "state", state), (narrow "error", kDeniedValue)])
      (isState : IsState state) :
      Reads ps { kind := .denied, reject := .none, state }

variable {c : Contract} {ps : List (List UInt8 × List UInt8)} {link : Return}

lemma Reads.perm (h : Reads ps link) {ps' : List (List UInt8 × List UInt8)} (hps : ps.Perm ps') :
    Reads ps' link := by
  cases h with
  | sealed state epk nonce data keys isState isEpk isNonce isData =>
    exact .sealed state epk nonce data (hps.symm.trans keys) isState isEpk isNonce isData
  | denied state keys isState => exact .denied state (hps.symm.trans keys) isState

lemma Reads.kind_ne (h : Reads ps link) : link.kind ≠ .invalid := by
  cases h <;> simp

/-! ### The fields -/

/-- The keys the parser knows. -/
inductive Key
  | state
  | epk
  | nonce
  | data
  | error
deriving DecidableEq

def Key.name : Key → List UInt8
  | state => narrow "state"
  | epk => narrow "epk"
  | nonce => narrow "n"
  | data => narrow "d"
  | error => narrow "error"

/-- A key and its value, as they are written. -/
def Key.pair (kv : Key × List UInt8) : List UInt8 × List UInt8 := (kv.1.name, kv.2)

def Fields.get (f : Fields) : Key → Option (List UInt8)
  | .state => f.state
  | .epk => f.epk
  | .nonce => f.nonce
  | .data => f.data
  | .error => f.error

def Fields.set (f : Fields) (k : Key) (seen : Option (List UInt8)) : Fields :=
  match k with
  | .state => { f with state := seen }
  | .epk => { f with epk := seen }
  | .nonce => { f with nonce := seen }
  | .data => { f with data := seen }
  | .error => { f with error := seen }

lemma Fields.get_set (f : Fields) (k k' : Key) (seen : Option (List UInt8)) :
    (f.set k seen).get k' = if k' = k then seen else f.get k' := by
  cases k <;> cases k' <;> rfl

lemma Fields.ext_get {f f' : Fields} (h : ∀ k, f.get k = f'.get k) : f = f' := by
  obtain ⟨state, epk, nonce, data, error⟩ := f
  obtain ⟨state', epk', nonce', data', error'⟩ := f'
  obtain rfl : state = state' := h .state
  obtain rfl : epk = epk' := h .epk
  obtain rfl : nonce = nonce' := h .nonce
  obtain rfl : data = data' := h .data
  obtain rfl : error = error' := h .error
  rfl

lemma readValue_iff {seen seen' : Option (List UInt8)} {value : List UInt8} :
    readValue c seen value = .ok seen' ↔
      seen = none ∧ value.length ≤ c.maxValueBytes ∧ seen' = some value := by
  rw [readValue]
  cases seen with
  | none =>
    rw [if_neg (by simp)]
    split_ifs with hlong
    · simp
      omega
    · simp only [Except.ok.injEq, true_and]
      exact ⟨fun h => ⟨by omega, h.symm⟩, fun h => h.2.symm⟩
  | some v => simp

lemma bind_ok_iff {α β : Type} {x : Except Reject α} {f : α → Except Reject β} {b : β} :
    x >>= f = .ok b ↔ ∃ a, x = .ok a ∧ f a = .ok b := by
  cases x with
  | error e | ok a => simp [bind, Except.bind]

lemma Key.name_injective : Function.Injective Key.name := by
  intro k k' h
  cases k <;> cases k' <;> first | rfl | exact absurd h (by decide)

lemma read_pair (c : Contract) (f : Fields) (k : Key) (value : List UInt8) :
    Fields.read c f (Key.pair (k, value)) =
      readValue c (f.get k) value >>= fun seen => .ok (f.set k seen) := by
  have hne : ∀ k k' : Key, k ≠ k' → k.name ≠ k'.name := fun _ _ h => h ∘ (Key.name_injective ·)
  rw [Fields.read, Key.pair]
  cases k with
  | state => exact if_pos rfl
  | epk => exact (if_neg (hne .epk .state (by decide))).trans (if_pos rfl)
  | nonce =>
    exact (if_neg (hne .nonce .state (by decide))).trans
      ((if_neg (hne .nonce .epk (by decide))).trans (if_pos rfl))
  | data =>
    exact (if_neg (hne .data .state (by decide))).trans
      ((if_neg (hne .data .epk (by decide))).trans
        ((if_neg (hne .data .nonce (by decide))).trans (if_pos rfl)))
  | error =>
    exact (if_neg (hne .error .state (by decide))).trans
      ((if_neg (hne .error .epk (by decide))).trans
        ((if_neg (hne .error .nonce (by decide))).trans
          ((if_neg (hne .error .data (by decide))).trans (if_pos rfl))))

lemma read_iff {f f' : Fields} {pair : List UInt8 × List UInt8} :
    Fields.read c f pair = .ok f' ↔
      ∃ k value, pair = Key.pair (k, value) ∧ f.get k = none ∧ value.length ≤ c.maxValueBytes ∧
        f' = f.set k (some value) := by
  constructor
  · intro h
    obtain ⟨key, value⟩ := pair
    by_cases hkey : ∃ k : Key, key = k.name
    · obtain ⟨k, rfl⟩ := hkey
      have hpair := read_pair c f k value
      rw [Key.pair, h, eq_comm, bind_ok_iff] at hpair
      obtain ⟨seen, hseen, hset⟩ := hpair
      obtain ⟨hnone, hle, rfl⟩ := readValue_iff.1 hseen
      exact ⟨k, value, rfl, hnone, hle, (Except.ok.inj hset).symm⟩
    · have hne : ∀ k : Key, key ≠ k.name := fun k hk => hkey ⟨k, hk⟩
      have hread : Fields.read c f (key, value) = .error .unknownKey := by
        rw [Fields.read]
        exact (if_neg (hne .state)).trans ((if_neg (hne .epk)).trans ((if_neg (hne .nonce)).trans
          ((if_neg (hne .data)).trans (if_neg (hne .error)))))
      exact absurd (hread.symm.trans h) (by simp)
  · rintro ⟨k, value, rfl, hnone, hle, rfl⟩
    rw [read_pair, readValue_iff.2 ⟨hnone, hle, rfl⟩]
    rfl

/-- The values under the keys of a list of pairs, later ones over earlier ones. -/
def Fields.setAll (f : Fields) (kvs : List (Key × List UInt8)) : Fields :=
  kvs.foldl (fun f kv => f.set kv.1 (some kv.2)) f

lemma foldlM_read_iff {f f' : Fields} :
    ps.foldlM (Fields.read c) f = .ok f' ↔
      ∃ kvs : List (Key × List UInt8), ps = kvs.map Key.pair ∧ (kvs.map Prod.fst).Nodup ∧
        (∀ kv ∈ kvs, f.get kv.1 = none ∧ kv.2.length ≤ c.maxValueBytes) ∧ f' = f.setAll kvs := by
  induction ps generalizing f with
  | nil =>
    constructor
    · intro h
      exact ⟨[], rfl, List.nodup_nil, by simp, (Except.ok.inj h).symm⟩
    · rintro ⟨kvs, hmap, -, -, rfl⟩
      obtain rfl : kvs = [] := List.map_eq_nil_iff.1 hmap.symm
      rfl
  | cons pair ps ih =>
    rw [List.foldlM_cons, bind_ok_iff]
    constructor
    · rintro ⟨f₁, hread, hrest⟩
      obtain ⟨k, value, rfl, hnone, hle, rfl⟩ := read_iff.1 hread
      obtain ⟨kvs, rfl, hnodup, hall, rfl⟩ := ih.1 hrest
      have hfresh : ∀ kv ∈ kvs, kv.1 ≠ k ∧ f.get kv.1 = none := by
        intro kv hkv
        have hget := (hall kv hkv).1
        rw [Fields.get_set] at hget
        split_ifs at hget with heq
        exact ⟨heq, hget⟩
      refine ⟨(k, value) :: kvs, rfl, ?_, ?_, rfl⟩
      · rw [List.map_cons, List.nodup_cons]
        refine ⟨fun hmem => ?_, hnodup⟩
        obtain ⟨kv, hkv, heq⟩ := List.mem_map.1 hmem
        exact (hfresh kv hkv).1 heq
      · intro kv hkv
        rcases List.mem_cons.1 hkv with rfl | hkv
        · exact ⟨hnone, hle⟩
        · exact ⟨(hfresh kv hkv).2, (hall kv hkv).2⟩
    · rintro ⟨kvs, hmap, hnodup, hall, rfl⟩
      cases kvs with
      | nil => exact absurd hmap (by simp)
      | cons kv kvs =>
        obtain ⟨rfl, rfl⟩ := List.cons.inj hmap
        rw [List.map_cons, List.nodup_cons] at hnodup
        obtain ⟨hnone, hle⟩ := hall kv (by simp)
        refine ⟨f.set kv.1 (some kv.2), read_iff.2 ⟨kv.1, kv.2, rfl, hnone, hle, rfl⟩,
          ih.2 ⟨kvs, rfl, hnodup.2, fun kv' hkv' => ?_, rfl⟩⟩
        have hne : kv'.1 ≠ kv.1 := fun heq => hnodup.1 (heq ▸ List.mem_map_of_mem hkv')
        obtain ⟨hnone', hle'⟩ := hall kv' (by simp [hkv'])
        exact ⟨by rw [Fields.get_set, if_neg hne, hnone'], hle'⟩

lemma get_setAll_of {f : Fields} {kvs : List (Key × List UInt8)} (h : (kvs.map Prod.fst).Nodup)
    (k : Key) (value : List UInt8) :
    (f.setAll kvs).get k = some value ↔
      (k, value) ∈ kvs ∨ (k ∉ kvs.map Prod.fst ∧ f.get k = some value) := by
  induction kvs generalizing f with
  | nil => simp [Fields.setAll]
  | cons kv kvs ih =>
    obtain ⟨k', value'⟩ := kv
    rw [List.map_cons, List.nodup_cons] at h
    have hstep := @ih (f.set k' (some value')) h.2
    rw [show f.setAll ((k', value') :: kvs) = (f.set k' (some value')).setAll kvs from rfl, hstep,
      Fields.get_set, List.map_cons, List.mem_cons, List.mem_cons, Prod.mk.injEq]
    by_cases hk : k = k'
    · subst hk
      have hnot : (k, value) ∉ kvs := fun hmem => h.1 (List.mem_map.2 ⟨_, hmem, rfl⟩)
      simp only [hnot, if_true, false_or, or_false, true_and, not_true, false_and, h.1,
        not_false_eq_true, Option.some.injEq]
      exact eq_comm
    · simp only [hk, if_false, false_and, false_or]

lemma get_setAll {kvs : List (Key × List UInt8)} (h : (kvs.map Prod.fst).Nodup) (k : Key)
    (value : List UInt8) :
    ((({} : Fields).setAll kvs).get k = some value ↔ (k, value) ∈ kvs) := by
  rw [get_setAll_of h]
  have hnone : ({} : Fields).get k = none := by cases k <;> rfl
  simp [hnone]

lemma setAll_perm {kvs kvs' : List (Key × List UInt8)} (hperm : kvs.Perm kvs')
    (h : (kvs.map Prod.fst).Nodup) : ({} : Fields).setAll kvs = ({} : Fields).setAll kvs' := by
  have h' : (kvs'.map Prod.fst).Nodup := (hperm.map Prod.fst).nodup_iff.1 h
  refine Fields.ext_get fun k => Option.ext fun value => ?_
  rw [get_setAll h, get_setAll h', hperm.mem_iff]

/-! ### The two shapes -/

lemma judge_of_isState {f : Fields} {state : List UInt8} (h : f.state = some state)
    (hs : IsState state) : f.judge kApprovalV1 =
      match f.epk, f.nonce, f.data, f.error with
      | some epk, some nonce, some data, none =>
        if !isBase58 epk 64 || !isBase58 nonce 64 || !isBase58 data 2048 then .error .badValue
        else .ok { kind := .sealed, reject := .none, state, epk, nonce, data }
      | none, none, none, some error =>
        if error ≠ kDeniedValue then .error .badError
        else .ok { kind := .denied, reject := .none, state }
      | _, _, _, _ => .error .mixedShapes := by
  have hlen : ¬ state.length ≠ kStateChars := not_not_intro hs.length_eq
  have hchars : ¬ (!state.all isBase64UrlChar) = true := by simp [hs.chars]
  rw [Fields.judge, h]
  simp only []
  rw [if_neg hlen, if_neg hchars]
  rfl

lemma isState_of_judge {f : Fields} (h : f.judge kApprovalV1 = .ok link) :
    ∃ state, f.state = some state ∧ IsState state := by
  rw [Fields.judge] at h
  cases hstate : f.state with
  | none => simp [hstate] at h
  | some state =>
    simp only [hstate] at h
    split_ifs at h with hlen hchars
    exact ⟨state, rfl, not_not.1 hlen, by simpa using hchars⟩

lemma judge_iff {f : Fields} :
    f.judge kApprovalV1 = .ok link ↔
      (∃ state epk nonce data, f = ⟨some state, some epk, some nonce, some data, none⟩ ∧
        IsState state ∧ isBase58 epk 64 ∧ isBase58 nonce 64 ∧ isBase58 data 2048 ∧
        link = { kind := .sealed, reject := .none, state, epk, nonce, data }) ∨
      ∃ state, f = ⟨some state, none, none, none, some kDeniedValue⟩ ∧ IsState state ∧
        link = { kind := .denied, reject := .none, state } := by
  constructor
  · intro h
    obtain ⟨state, hstate, hs⟩ := isState_of_judge h
    rw [judge_of_isState hstate hs] at h
    obtain ⟨_, epk, nonce, data, error⟩ := f
    obtain rfl := hstate
    split at h
    next epk nonce data hepk hnonce hdata herror =>
      obtain rfl := hepk
      obtain rfl := hnonce
      obtain rfl := hdata
      obtain rfl := herror
      split_ifs at h with hvalues
      simp only [Bool.or_eq_true, Bool.not_eq_true', not_or, Bool.not_eq_false] at hvalues
      exact .inl ⟨state, epk, nonce, data, rfl, hs, hvalues.1.1, hvalues.1.2, hvalues.2,
        (Except.ok.inj h).symm⟩
    next error hepk hnonce hdata herror =>
      obtain rfl := hepk
      obtain rfl := hnonce
      obtain rfl := hdata
      obtain rfl := herror
      split_ifs at h with hdenied
      obtain rfl := not_not.1 hdenied
      exact .inr ⟨state, rfl, hs, (Except.ok.inj h).symm⟩
    next => exact absurd h (by simp)
  · rintro (⟨state, epk, nonce, data, rfl, hs, hepk, hnonce, hdata, rfl⟩ | ⟨state, rfl, hs, rfl⟩)
    · rw [judge_of_isState rfl hs]
      exact if_neg (by simp [hepk, hnonce, hdata])
    · rw [judge_of_isState rfl hs]
      exact if_neg (not_not_intro rfl)

lemma Key.pair_injective : Function.Injective Key.pair := by
  rintro ⟨k, value⟩ ⟨k', value'⟩ h
  obtain ⟨hname, rfl⟩ := Prod.mk.inj h
  obtain rfl := Key.name_injective hname
  rfl

lemma exists_kvs {kvs : List (Key × List UInt8)} (h : ps.Perm (kvs.map Key.pair)) :
    ∃ kvs' : List (Key × List UInt8), ps = kvs'.map Key.pair ∧ kvs'.Perm kvs := by
  have hrange : ps ∈ Set.range (List.map Key.pair) := by
    rw [Set.range_list_map]
    intro p hp
    obtain ⟨kv, -, rfl⟩ := List.mem_map.1 (h.mem_iff.1 hp)
    exact ⟨kv, rfl⟩
  obtain ⟨kvs', rfl⟩ := hrange
  exact ⟨kvs', rfl, (List.map_perm_map_iff Key.pair_injective).1 h⟩

/-- The pairs of a sealed answer, and of a denied one. -/
def sealedKvs (state epk nonce data : List UInt8) : List (Key × List UInt8) :=
  [(.state, state), (.epk, epk), (.nonce, nonce), (.data, data)]

def deniedKvs (state : List UInt8) : List (Key × List UInt8) :=
  [(.state, state), (.error, kDeniedValue)]

lemma perm_of_setAll_eq {kvs kvs' : List (Key × List UInt8)} (h : (kvs.map Prod.fst).Nodup)
    (h' : (kvs'.map Prod.fst).Nodup)
    (heq : ({} : Fields).setAll kvs = ({} : Fields).setAll kvs') : kvs.Perm kvs' := by
  rw [List.perm_ext_iff_of_nodup h.of_map h'.of_map]
  rintro ⟨k, value⟩
  rw [← get_setAll h, ← get_setAll h', heq]

lemma IsState.length_le {state : List UInt8} (h : IsState state) : state.length ≤ 2048 := by
  rw [h.length_eq, kStateChars]
  omega

lemma reads_iff :
    (ps.foldlM (Fields.read kApprovalV1) {}).bind (Fields.judge kApprovalV1) = .ok link ↔
      Reads ps link := by
  rw [show (ps.foldlM (Fields.read kApprovalV1) {}).bind (Fields.judge kApprovalV1) =
    ps.foldlM (Fields.read kApprovalV1) {} >>= Fields.judge kApprovalV1 from rfl, bind_ok_iff]
  have hempty : ∀ k, ({} : Fields).get k = none := by
    intro k
    cases k <;> rfl
  constructor
  · rintro ⟨f, hfields, hjudge⟩
    obtain ⟨kvs, rfl, hnodup, -, rfl⟩ := foldlM_read_iff.1 hfields
    rcases judge_iff.1 hjudge with
      ⟨state, epk, nonce, data, heq, hs, hepk, hnonce, hdata, rfl⟩ | ⟨state, heq, hs, rfl⟩
    · have hperm := perm_of_setAll_eq hnodup (by simp [sealedKvs])
        (show _ = ({} : Fields).setAll (sealedKvs state epk nonce data) from heq)
      exact .sealed state epk nonce data (hperm.map Key.pair) hs hepk hnonce hdata
    · have hperm := perm_of_setAll_eq hnodup (by simp [deniedKvs])
        (show _ = ({} : Fields).setAll (deniedKvs state) from heq)
      exact .denied state (hperm.map Key.pair) hs
  · intro h
    -- pairs with the keys of an answer fill its fields
    have hfill : ∀ {kvs : List (Key × List UInt8)}, ps.Perm (kvs.map Key.pair) →
        (kvs.map Prod.fst).Nodup → (∀ kv ∈ kvs, kv.2.length ≤ 2048) →
        ps.foldlM (Fields.read kApprovalV1) {} = .ok (({} : Fields).setAll kvs) := by
      intro kvs hps hnodup hlen
      obtain ⟨kvs', rfl, hperm⟩ := exists_kvs hps
      have hnodup' := (hperm.map Prod.fst).nodup_iff.2 hnodup
      exact foldlM_read_iff.2 ⟨kvs', rfl, hnodup',
        fun kv hkv => ⟨hempty kv.1, hlen kv (hperm.mem_iff.1 hkv)⟩,
          (setAll_perm hperm hnodup').symm⟩
    cases h with
    | sealed state epk nonce data keys isState isEpk isNonce isData =>
      refine ⟨_, @hfill (sealedKvs state epk nonce data) keys (by simp [sealedKvs]) ?_, ?_⟩
      · have hepk := (all_of_isBase58 isEpk).1
        have hnonce := (all_of_isBase58 isNonce).1
        have hdata := (all_of_isBase58 isData).1
        intro kv hkv
        simp only [sealedKvs, List.mem_cons, List.not_mem_nil, or_false] at hkv
        rcases hkv with rfl | rfl | rfl | rfl
        · exact isState.length_le
        · exact hepk.trans (by omega)
        · exact hnonce.trans (by omega)
        · exact hdata
      · exact judge_iff.2 (.inl ⟨state, epk, nonce, data, rfl, isState, isEpk, isNonce,
          isData, rfl⟩)
    | denied state keys isState =>
      refine ⟨_, @hfill (deniedKvs state) keys (by simp [deniedKvs]) ?_, ?_⟩
      · intro kv hkv
        simp only [deniedKvs, List.mem_cons, List.not_mem_nil, or_false] at hkv
        rcases hkv with rfl | rfl
        · exact isState.length_le
        · decide
      · exact judge_iff.2 (.inr ⟨state, rfl, isState, rfl⟩)

/-! ### The whole link -/

lemma Reads.plain (h : Reads ps link) : Plain ps ∧ ps ≠ [] ∧ ps.length ≤ 6 := by
  have hplain : ∀ {ps' : List (List UInt8 × List UInt8)}, ps.Perm ps' → Plain ps' → Plain ps :=
    fun hps hps' p hp => hps' p (hps.mem_iff.1 hp)
  cases h with
  | sealed state epk nonce data keys isState isEpk isNonce isData =>
    have hlen := keys.length_eq
    refine ⟨hplain keys (plain_cons (by decide) isState.chars
      (plain_cons (by decide) (all_of_isBase58 isEpk).2
        (plain_cons (by decide) (all_of_isBase58 isNonce).2
          (plain_cons (by decide) (all_of_isBase58 isData).2 plain_nil)))), ?_, ?_⟩
    · rintro rfl
      simp at hlen
    · rw [hlen]
      simp
  | denied state keys isState =>
    have hlen := keys.length_eq
    refine ⟨hplain keys (plain_cons (by decide) isState.chars
      (plain_cons (by decide) (by decide) plain_nil)), ?_, ?_⟩
    · rintro rfl
      simp at hlen
    · rw [hlen]
      simp

lemma readPairs_ok : ∀ {parts : List (List UInt8)} {count : ℕ}
    {ps : List (List UInt8 × List UInt8)}, readPairs c parts count = .ok ps →
      parts = ps.map (writePair '='.toUInt8) := by
  intro parts
  induction parts with
  | nil =>
    intro count ps h
    rw [← Except.ok.inj h]
    rfl
  | cons part parts ih =>
    intro count ps h
    rw [readPairs] at h
    cases hpair : readPair '='.toUInt8 part with
    | none => simp [hpair] at h
    | some pair =>
      simp only [hpair] at h
      split_ifs at h
      obtain ⟨rest, hrest, hps⟩ := bind_ok_iff.1 h
      obtain rfl := Except.ok.inj hps
      rw [List.map_cons, ← ih hrest, ← (readPair_eq_some hpair).1]

lemma readQuery_iff {q : List UInt8} :
    readQuery kApprovalV1 q = .ok link ↔ ∃ ps, q = query ps ∧ Reads ps link := by
  constructor
  · intro h
    rw [readQuery] at h
    split_ifs at h with hdelim
    · exact absurd h (by simp [throw, throwThe, MonadExceptOf.throw, bind, Except.bind])
    · obtain ⟨-, -, h⟩ := bind_ok_iff.1 h
      obtain ⟨ps, hps, hread⟩ := bind_ok_iff.1 h
      have hparts := readPairs_ok hps
      refine ⟨ps, ?_, reads_iff.1 hread⟩
      rw [query, writeQuery, ← hparts, List.intercalate_splitOn]
  · rintro ⟨ps, rfl, h⟩
    obtain ⟨hplain, hne, hcount⟩ := h.plain
    rw [hplain.readQuery_eq hne hcount]
    exact reads_iff.2 h

lemma readRest_slash (q : List UInt8) : readRest kApprovalV1 ('/'.toUInt8 :: q) =
    match q with
    | [] => .error .emptyPair
    | first :: q =>
      if first = '?'.toUInt8 then readQuery kApprovalV1 q
      else if first = '#'.toUInt8 then .error .delimiter
      else .error .path := by
  cases q with
  | nil => rfl
  | cons first q =>
    show (if first = '?'.toUInt8 then _ else if first = '#'.toUInt8 then _
      else if true = true ∨ first = '/'.toUInt8 then _ else _) = _
    rw [if_pos (c := true = true ∨ first = '/'.toUInt8) (.inl rfl)]

lemma readRest_iff {rest : List UInt8} :
    readRest kApprovalV1 rest = .ok link ↔ ∃ (slash : Bool) (ps : _),
      rest = (if slash then ['/'.toUInt8] else []) ++ '?'.toUInt8 :: query ps ∧ Reads ps link := by
  constructor
  · intro h
    cases rest with
    | nil => exact absurd h (by simp [readRest])
    | cons first rest =>
      by_cases hslash : first = '/'.toUInt8
      · subst hslash
        rw [readRest_slash] at h
        cases rest with
        | nil => exact absurd h (by simp)
        | cons first rest =>
          simp only [] at h
          split_ifs at h with hquery
          obtain ⟨ps, rfl, hread⟩ := readQuery_iff.1 h
          exact ⟨true, ps, by rw [hquery]; rfl, hread⟩
      · have hstripped : (kApprovalV1.tolerateEmptyPath &&
            (first :: rest).head? == some '/'.toUInt8) = false := by
          simp [hslash]
        simp only [readRest, hstripped, Bool.false_eq_true, if_false, false_or] at h
        split_ifs at h with hquery
        obtain ⟨ps, rfl, hread⟩ := readQuery_iff.1 h
        exact ⟨false, ps, by rw [hquery]; rfl, hread⟩
  · rintro ⟨slash, ps, rfl, hread⟩
    have hquery := readQuery_iff.2 ⟨ps, rfl, hread⟩
    cases slash with
    | true =>
      rw [if_pos rfl, List.singleton_append, readRest_slash]
      exact (if_pos rfl).trans hquery
    | false =>
      rw [if_neg (by simp), List.nil_append]
      exact hquery

lemma readUrl_iff {url : List UInt8} :
    readUrl kApprovalV1 url = .ok link ↔ ∃ slash ps, Written url slash ps ∧ Reads ps link := by
  have hcontrol : (url.any fun byte => byte ≤ 0x20 || 0x7F ≤ byte) = true ↔
      ¬ ∀ b ∈ url, 0x21 ≤ b.toNat ∧ b.toNat ≤ 0x7E := by
    simp only [List.any_eq_true, Bool.or_eq_true, decide_eq_true_eq, UInt8.le_iff_toNat_le,
      not_forall, not_and_or, not_le]
    refine exists_congr fun b => ?_
    rw [exists_prop]
    refine and_congr_right fun _ => ?_
    show b.toNat ≤ 32 ∨ 127 ≤ b.toNat ↔ _
    omega
  constructor
  · intro h
    rw [readUrl] at h
    split_ifs at h with hlong hbad hprefix hescape
    rw [hcontrol, not_not] at hbad
    obtain ⟨slash, ps, hrest, hread⟩ := readRest_iff.1 h
    refine ⟨slash, ps, ⟨not_lt.1 hlong, fun b hb => ⟨(hbad b hb).1, (hbad b hb).2, ?_⟩, ?_⟩, hread⟩
    · rintro rfl
      exact hescape hb
    · have hsplit := List.take_append_drop kApprovalV1.urlPrefix.length url
      rw [not_not.1 hprefix] at hsplit
      rw [← hrest]
      exact hsplit.symm
  · rintro ⟨slash, ps, hwritten, hread⟩
    have hlong : ¬ kApprovalV1.maxUrlBytes < url.length := not_lt.2 hwritten.length_le
    have hgood : ¬ (url.any fun byte => byte ≤ 0x20 || 0x7F ≤ byte) = true := by
      rw [hcontrol, not_not]
      exact fun b hb => ⟨(hwritten.chars b hb).1, (hwritten.chars b hb).2.1⟩
    have hescape : '%'.toUInt8 ∉ url := fun hb => (hwritten.chars _ hb).2.2 rfl
    have htake : url.take kApprovalV1.urlPrefix.length = kApprovalV1.urlPrefix := by
      rw [hwritten.url_eq]
      exact List.take_left
    have hdrop : url.drop kApprovalV1.urlPrefix.length =
        (if slash then ['/'.toUInt8] else []) ++ '?'.toUInt8 :: query ps := by
      rw [hwritten.url_eq]
      exact List.drop_left
    rw [readUrl, if_neg hlong, if_neg hgood, if_neg (not_not_intro htake), if_neg hescape, hdrop]
    exact readRest_iff.2 ⟨slash, ps, rfl, hread⟩

lemma parse_iff {url : List UInt8} (hkind : link.kind ≠ .invalid) :
    parse url kApprovalV1 = link ↔ ∃ slash ps, Written url slash ps ∧ Reads ps link := by
  rw [← readUrl_iff, parse]
  cases readUrl kApprovalV1 url with
  | ok link' => exact (Except.ok.injEq link' link).symm ▸ Iff.rfl
  | error why =>
    refine ⟨?_, fun h => absurd h (by simp)⟩
    rintro rfl
    exact absurd rfl hkind

/-- **The parser accepts exactly its two shapes.**  A link is read as an answer if and only if
it is one of the language; what it is read as are the values of its pairs, whatever their
order; and a link that is refused carries no value. -/
theorem parse_shapes (url : List UInt8) :
    ((parse url kApprovalV1).kind ≠ .invalid ↔
      ∃ slash ps link, Written url slash ps ∧ Reads ps link) ∧
    (∀ slash ps link, Written url slash ps → Reads ps link → parse url kApprovalV1 = link) ∧
    (∀ slash ps link, Written url slash ps → Reads ps link →
      ∀ url' slash' ps', Written url' slash' ps' → ps.Perm ps' →
        parse url' kApprovalV1 = parse url kApprovalV1) ∧
    ((parse url kApprovalV1).kind = .invalid →
      (parse url kApprovalV1).state = [] ∧ (parse url kApprovalV1).epk = [] ∧
        (parse url kApprovalV1).nonce = [] ∧ (parse url kApprovalV1).data = []) := by
  have hparse : ∀ url slash ps link, Written url slash ps → Reads ps link →
      parse url kApprovalV1 = link := fun url slash ps link hwritten hread =>
    (parse_iff hread.kind_ne).2 ⟨slash, ps, hwritten, hread⟩
  refine ⟨⟨fun hkind => ?_, ?_⟩, hparse url, ?_, fun hkind => ?_⟩
  · obtain ⟨slash, ps, hwritten, hread⟩ := (parse_iff hkind).1 rfl
    exact ⟨slash, ps, _, hwritten, hread⟩
  · rintro ⟨slash, ps, link, hwritten, hread⟩
    rw [hparse url slash ps link hwritten hread]
    exact hread.kind_ne
  · intro slash ps link hwritten hread url' slash' ps' hwritten' hperm
    rw [hparse url slash ps link hwritten hread,
      hparse url' slash' ps' link hwritten' (hread.perm hperm)]
  · rw [parse] at hkind ⊢
    cases hurl : readUrl kApprovalV1 url with
    | error why => exact ⟨rfl, rfl, rfl, rfl⟩
    | ok link =>
      obtain ⟨slash, ps, -, hread⟩ := readUrl_iff.1 hurl
      rw [hurl] at hkind
      exact absurd hkind hread.kind_ne

end UrnetworkWindows.SignIn.AuthLink
