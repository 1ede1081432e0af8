/-
The binding that is reviewed is the one that every reader of the text signs.

`Field` names the eleven fields once, so that a document with those names and no others is
one statement.  `readLast` is the other reader: it matches a name without the case of its
letters and lets the last pair win.  On a text that is valid, both readers see every field
alike (`readLast_of_binding`).

`WrittenAs` says what the two ways to write a client id are, and `clientIdHex_iff` that the
check reads both of them and nothing else.
-/
import UrnetworkWindows.Top200.Binding

namespace UrnetworkWindows.Top200

open Lib Std

/-! ### The fields -/

inductive Field
  | chainId
  | netuid
  | coordinator
  | fleetId
  | hotkey
  | clientId
  | clientKey
  | generation
  | validFromEpoch
  | validToEpoch
  | commitmentHash
deriving DecidableEq

namespace Field

def all : List Field :=
  [chainId, netuid, coordinator, fleetId, hotkey, clientId, clientKey, generation,
    validFromEpoch, validToEpoch, commitmentHash]

lemma mem_all (field : Field) : field ∈ all := by
  cases field <;> decide

def name : Field → List UInt8
  | chainId => narrow "chain_id"
  | netuid => narrow "netuid"
  | coordinator => narrow "coordinator"
  | fleetId => narrow "fleet_id"
  | hotkey => narrow "hotkey"
  | clientId => narrow "client_id"
  | clientKey => narrow "client_key"
  | generation => narrow "generation"
  | validFromEpoch => narrow "valid_from_epoch"
  | validToEpoch => narrow "valid_to_epoch"
  | commitmentHash => narrow "commitment_hash"

/-- The value is the field's of the binding. -/
def Holds (binding : Binding) (value : Json) : Field → Prop
  | chainId => whole value = some binding.chainId
  | netuid => whole value = some binding.netuid
  | coordinator => text value = some binding.coordinator
  | fleetId => text value = some binding.fleetId
  | hotkey => text value = some binding.hotkey
  | clientId => text value = some binding.clientId
  | clientKey => text value = some binding.clientKey
  | generation => whole value = some binding.generation
  | validFromEpoch => whole value = some binding.validFromEpoch
  | validToEpoch => whole value = some binding.validToEpoch
  | commitmentHash => text value = some binding.commitmentHash

lemma eq_of_lower_name : ∀ field ∈ all, ∀ field' ∈ all, lower field'.name = lower field.name →
    field' = field := by
  decide

end Field

/-- The names of the fields. -/
def fieldNames : List (List UInt8) := Field.all.map Field.name

lemma nodup_fieldNames : fieldNames.Nodup := by decide

/-- The member under the name of a field. -/
def NamedFields.of (members : NamedFields) : Field → Json
  | .chainId => members.chainId
  | .netuid => members.netuid
  | .coordinator => members.coordinator
  | .fleetId => members.fleetId
  | .hotkey => members.hotkey
  | .clientId => members.clientId
  | .clientKey => members.clientKey
  | .generation => members.generation
  | .validFromEpoch => members.validFrom
  | .validToEpoch => members.validTo
  | .commitmentHash => members.commitment

lemma named_of_namedFields {document : Document} {members : NamedFields}
    (h : namedFields document = some members) (field : Field) :
    document[field.name]? = some (members.of field) := by
  simp only [namedFields, named, Option.bind_eq_bind, Option.bind_eq_some_iff, Option.pure_def,
    Option.some.injEq] at h
  obtain ⟨_, h₁, _, h₂, _, h₃, _, h₄, _, h₅, _, h₆, _, h₇, _, h₈, _, h₉, _, h₁₀, _, h₁₁, rfl⟩ := h
  cases field with
  | chainId => exact h₁
  | netuid => exact h₂
  | coordinator => exact h₃
  | fleetId => exact h₄
  | hotkey => exact h₅
  | clientId => exact h₆
  | clientKey => exact h₇
  | generation => exact h₈
  | validFromEpoch => exact h₉
  | validToEpoch => exact h₁₀
  | commitmentHash => exact h₁₁

lemma holds_of_read {members : NamedFields} {numbers binding : Binding}
    (hnumbers : readNumbers members = some numbers)
    (htexts : readTexts members numbers = some binding) (field : Field) :
    field.Holds binding (members.of field) := by
  simp only [readNumbers, Option.bind_eq_bind, Option.bind_eq_some_iff] at hnumbers
  obtain ⟨_, h₁, _, h₂, _, h₃, _, h₄, _, h₅, hnumbers⟩ := hnumbers
  simp only [readTexts, Option.bind_eq_bind, Option.bind_eq_some_iff] at htexts
  obtain ⟨_, h₆, _, h₇, _, h₈, _, h₉, _, h₁₀, _, h₁₁, htexts⟩ := htexts
  split_ifs at hnumbers htexts
  cases hnumbers
  cases htexts
  cases field with
  | chainId => exact h₁
  | netuid => exact h₂
  | coordinator => exact h₆
  | fleetId => exact h₇
  | hotkey => exact h₈
  | clientId => exact h₉
  | clientKey => exact h₁₀
  | generation => exact h₃
  | validFromEpoch => exact h₄
  | validToEpoch => exact h₅
  | commitmentHash => exact h₁₁

lemma named_of_readBinding {document : Document} {binding : Binding}
    (h : readBinding document = some binding) (field : Field) :
    ∃ value, document[field.name]? = some value ∧ field.Holds binding value := by
  simp only [readBinding, Option.bind_eq_bind, Option.bind_eq_some_iff] at h
  obtain ⟨members, hmembers, numbers, hnumbers, htexts⟩ := h
  exact ⟨members.of field, named_of_namedFields hmembers field,
    holds_of_read hnumbers htexts field⟩

/-! ### The names -/

/-- The callback has seen every top-level name once, exactly where it counted none twice. -/
lemma duplicate_foldl (events : List KeyEvent) (seen : Seen) :
    (events.foldl onEvent seen).duplicate = false ↔
      seen.duplicate = false ∧
        ((events.filter (·.depth = 1)).map KeyEvent.key).Nodup ∧
        ∀ key ∈ (events.filter (·.depth = 1)).map KeyEvent.key, key ∉ seen.keys := by
  induction events generalizing seen with
  | nil => simp
  | cons event events ih =>
    rw [List.foldl_cons, ih, onEvent]
    by_cases hdepth : event.depth = 1
    · rw [if_pos hdepth, List.filter_cons_of_pos (by simpa using hdepth), List.map_cons,
        List.nodup_cons]
      by_cases hmem : event.key ∈ seen.keys
      · rw [if_pos hmem]
        refine ⟨fun h => absurd h.1 (by simp), fun h => ?_⟩
        exact absurd hmem (h.2.2 _ (List.mem_cons_self ..))
      · rw [if_neg hmem]
        simp only [ExtTreeSet.mem_insert, Std.compare_eq_iff_eq, not_or, List.forall_mem_cons]
        constructor
        · rintro ⟨hfirst, hnodup, hnew⟩
          exact ⟨hfirst, ⟨fun hin => (hnew _ hin).1 rfl, hnodup⟩, hmem,
            fun key hkey => (hnew key hkey).2⟩
        · rintro ⟨hfirst, ⟨hnotin, hnodup⟩, -, hnew⟩
          refine ⟨hfirst, hnodup, fun key hkey => ⟨?_, hnew key hkey⟩⟩
          rintro rfl
          exact hnotin hkey
    · rw [if_neg hdepth, List.filter_cons_of_neg (by simpa using hdepth)]

lemma nodup_keys_of_seen {report : Report} (h : report.seen.duplicate = false) :
    (report.pairs.map Prod.fst).Nodup := by
  rw [← report.topLevel]
  exact ((duplicate_foldl _ _).1 h).2.1

theorem perm_fieldNames {report : Report} {binding : Binding} (h : report.binding = some binding) :
    (report.pairs.map Prod.fst).Perm fieldNames := by
  rw [Report.binding] at h
  split_ifs at h with hdup hsize
  have hnodup := nodup_keys_of_seen (Bool.eq_false_iff.2 hdup)
  have hlen : (report.pairs.map Prod.fst).length = fieldNames.length := by
    rw [Report.document, ExtTreeMap.size_ofList (pairwise_cmp hnodup), Decidable.not_not] at hsize
    rw [List.length_map, hsize]
    rfl
  have hsub : fieldNames ⊆ report.pairs.map Prod.fst := by
    intro name hname
    obtain ⟨field, -, rfl⟩ := List.mem_map.1 hname
    obtain ⟨value, hvalue, -⟩ := named_of_readBinding h field
    exact List.mem_map_of_mem ((getElem?_ofList hnodup).1 hvalue)
  exact ((List.subperm_of_subset nodup_fieldNames hsub).perm_of_length_le hlen.le).symm

/-! ### The other reader -/

/-- What is read under a name without the case of its letters, where a later pair wins. -/
def readLast (pairs : List (List UInt8 × Json)) (name : List UInt8) : Option Json :=
  (pairs.reverse.find? fun pair => lower pair.1 = lower name).map Prod.snd

theorem readLast_of_binding {report : Report} {binding : Binding}
    (h : report.binding = some binding) (field : Field) :
    ∃ value, readLast report.pairs field.name = some value ∧ field.Holds binding value := by
  have hperm := perm_fieldNames h
  rw [Report.binding] at h
  split_ifs at h with hdup hsize
  have hnodup := nodup_keys_of_seen (Bool.eq_false_iff.2 hdup)
  obtain ⟨value, hvalue, hholds⟩ := named_of_readBinding h field
  have hpair : (field.name, value) ∈ report.pairs := (getElem?_ofList hnodup).1 hvalue
  refine ⟨value, ?_, hholds⟩
  -- the one pair whose name has these letters is the pair of the field
  have honly : ∀ pair ∈ report.pairs, lower pair.1 = lower field.name → pair.2 = value := by
    rintro ⟨name, value'⟩ hmem hlower
    have hname : name ∈ fieldNames := hperm.mem_iff.1 (List.mem_map_of_mem hmem)
    obtain ⟨field', hfield', rfl⟩ := List.mem_map.1 hname
    obtain rfl := Field.eq_of_lower_name field (Field.mem_all field) field' hfield' hlower
    have hvalue' : report.document[field'.name]? = some value' := (getElem?_ofList hnodup).2 hmem
    exact Option.some.inj (hvalue'.symm.trans hvalue)
  cases hfind : report.pairs.reverse.find? fun pair => lower pair.1 = lower field.name with
  | none =>
    have hnone := List.find?_eq_none.1 hfind _ (List.mem_reverse.2 hpair)
    exact absurd (decide_eq_true rfl) hnone
  | some pair =>
    have hlower : lower pair.1 = lower field.name := by simpa using List.find?_some hfind
    rw [readLast, hfind, Option.map_some,
      honly pair (List.mem_reverse.1 (List.mem_of_find?_eq_some hfind)) hlower]

/-! ### The client id -/

/-- So many hex digits of either case. -/
def HexDigits (n : ℕ) (s : List UInt8) : Prop := s.length = n ∧ s.all isHexDigit

/-- The two ways to write the digits of a client id. -/
inductive WrittenAs : List UInt8 → List UInt8 → Prop
  | prefixed {digits : List UInt8} (h : HexDigits 32 digits) :
      WrittenAs (narrow "0x" ++ digits) (lower digits)
  | uuid {a b c d e : List UInt8} (ha : HexDigits 8 a) (hb : HexDigits 4 b) (hc : HexDigits 4 c)
      (hd : HexDigits 4 d) (he : HexDigits 12 e) :
      WrittenAs (a ++ '-'.toUInt8 :: b ++ '-'.toUInt8 :: c ++ '-'.toUInt8 :: d ++ '-'.toUInt8 :: e)
        (lower (a ++ b ++ c ++ d ++ e))

lemma isPrefixedHex_iff {s : List UInt8} {n : ℕ} :
    isPrefixedHex s n ↔ ∃ digits, HexDigits n digits ∧ s = narrow "0x" ++ digits := by
  have htwo : (narrow "0x").length = 2 := rfl
  rw [isPrefixedHex, Bool.and_eq_true, Bool.and_eq_true, beq_iff_eq, beq_iff_eq]
  constructor
  · rintro ⟨⟨hlen, htake⟩, hall⟩
    refine ⟨s.drop 2, ⟨?_, hall⟩, ?_⟩
    · rw [List.length_drop, hlen]
      omega
    · rw [← htake, List.take_append_drop]
  · rintro ⟨digits, ⟨hlen, hall⟩, rfl⟩
    rw [List.length_append, htwo, hlen, List.take_left' htwo, List.drop_left' htwo]
    exact ⟨⟨rfl, rfl⟩, hall⟩

lemma uuidDigits_append {s : List UInt8} {i n : ℕ} (hs : HexDigits n s)
    (hplace : ∀ j, i ≤ j → j < i + n → isDash j = false) (rest : List UInt8) :
    uuidDigits i (s ++ rest) = (uuidDigits (i + n) rest).map (s ++ ·) := by
  obtain ⟨rfl, hall⟩ := hs
  induction s generalizing i with
  | nil => simp
  | cons c s ih =>
    rw [List.all_cons, Bool.and_eq_true] at hall
    rw [List.length_cons] at hplace ⊢
    rw [List.cons_append, uuidDigits, hplace i le_rfl (by omega), hall.1,
      ih hall.2 fun j hj hj' => hplace j (by omega) (by omega)]
    simp only [Bool.false_eq_true, Bool.not_true, if_false, Option.map_map]
    rw [Nat.add_right_comm, Nat.add_assoc]
    rfl

lemma uuidDigits_dash {i : ℕ} (hdash : isDash i = true) (rest : List UInt8) :
    uuidDigits i ('-'.toUInt8 :: rest) = uuidDigits (i + 1) rest := by
  rw [uuidDigits, if_pos hdash, if_neg (by simp)]

lemma uuidDigits_eq_some {n i : ℕ} {s hex : List UInt8}
    (hplace : ∀ j, i ≤ j → j < i + n → isDash j = false) (hlen : n ≤ s.length)
    (h : uuidDigits i s = some hex) :
    ∃ digits rest hex', HexDigits n digits ∧ s = digits ++ rest ∧
      uuidDigits (i + n) rest = some hex' ∧ hex = digits ++ hex' := by
  induction n generalizing i s hex with
  | zero => exact ⟨[], s, hex, ⟨rfl, rfl⟩, rfl, h, rfl⟩
  | succ n ih =>
    cases s with
    | nil => exact absurd hlen (by simp)
    | cons c s =>
      rw [uuidDigits, hplace i le_rfl (by omega)] at h
      simp only [Bool.false_eq_true, if_false] at h
      split_ifs at h with hc
      obtain ⟨hex₀, h₀, rfl⟩ := Option.map_eq_some_iff.1 h
      obtain ⟨digits, rest, hex', ⟨rfl, hall⟩, rfl, hrest, rfl⟩ :=
        ih (fun j hj hj' => hplace j (by omega) (by omega)) (Nat.le_of_succ_le_succ hlen) h₀
      refine ⟨c :: digits, rest, hex', ⟨rfl, ?_⟩, rfl, ?_, rfl⟩
      · rw [List.all_cons, hall]
        simpa using hc
      · rw [Nat.add_right_comm, Nat.add_assoc] at hrest
        exact hrest

lemma uuidDigits_group {n i : ℕ} {s hex : List UInt8}
    (hplace : ∀ j, i ≤ j → j < i + n → isDash j = false) (hdash : isDash (i + n) = true)
    (hlen : n < s.length) (h : uuidDigits i s = some hex) :
    ∃ digits rest hex', HexDigits n digits ∧ s = digits ++ '-'.toUInt8 :: rest ∧
      uuidDigits (i + n + 1) rest = some hex' ∧ hex = digits ++ hex' := by
  obtain ⟨digits, rest, hex', hdigits, rfl, hrest, rfl⟩ := uuidDigits_eq_some hplace hlen.le h
  cases rest with
  | nil =>
    rw [List.append_nil, hdigits.1] at hlen
    exact absurd hlen (lt_irrefl n)
  | cons c rest =>
    rw [uuidDigits, if_pos hdash] at hrest
    split_ifs at hrest with hc
    obtain rfl : c = '-'.toUInt8 := Decidable.not_not.1 hc
    exact ⟨digits, rest, hex', hdigits, rfl, hrest, rfl⟩

theorem clientIdHex_iff {id hex : List UInt8} : clientIdHex id = some hex ↔ WrittenAs id hex := by
  have htwo : (narrow "0x").length = 2 := rfl
  rw [clientIdHex]
  constructor
  · intro h
    split_ifs at h with hprefixed hlen
    · obtain ⟨digits, hdigits, rfl⟩ := isPrefixedHex_iff.1 hprefixed
      cases h
      rw [List.drop_left' htwo]
      exact .prefixed hdigits
    · rw [Decidable.not_not] at hlen
      obtain ⟨hex₀, h₀, rfl⟩ := Option.map_eq_some_iff.1 h
      obtain ⟨a, s₁, hex₁, ha, rfl, h₁, rfl⟩ := @uuidDigits_group 8 0 id hex₀
        (by decide) rfl (by omega) h₀
      have hlenA := ha.1
      simp only [List.length_append, List.length_cons] at hlen
      obtain ⟨b, s₂, hex₂, hb, rfl, h₂, rfl⟩ := @uuidDigits_group 4 9 s₁ hex₁
        (by decide) rfl (by omega) h₁
      have hlenB := hb.1
      simp only [List.length_append, List.length_cons] at hlen
      obtain ⟨c, s₃, hex₃, hc, rfl, h₃, rfl⟩ := @uuidDigits_group 4 14 s₂ hex₂
        (by decide) rfl (by omega) h₂
      have hlenC := hc.1
      simp only [List.length_append, List.length_cons] at hlen
      obtain ⟨d, s₄, hex₄, hd, rfl, h₄, rfl⟩ := @uuidDigits_group 4 19 s₃ hex₃
        (by decide) rfl (by omega) h₃
      have hlenD := hd.1
      simp only [List.length_append, List.length_cons] at hlen
      obtain ⟨e, s₅, hex₅, he, rfl, h₅, rfl⟩ := @uuidDigits_eq_some 12 24 s₄ hex₄
        (by decide) (by omega) h₄
      have hlenE := he.1
      simp only [List.length_append] at hlen
      obtain rfl : s₅ = [] := List.eq_nil_of_length_eq_zero (by omega)
      cases h₅
      have hwritten := WrittenAs.uuid ha hb hc hd he
      simpa using hwritten
  · rintro (hdigits | ⟨ha, hb, hc, hd, he⟩)
    · rw [if_pos (isPrefixedHex_iff.2 ⟨_, hdigits, rfl⟩), List.drop_left' htwo]
    · rename_i a b c d e
      have hlen : (a ++ '-'.toUInt8 :: b ++ '-'.toUInt8 :: c ++ '-'.toUInt8 :: d ++
          '-'.toUInt8 :: e).length = 36 := by
        simp only [List.length_append, List.length_cons, ha.1, hb.1, hc.1, hd.1, he.1]
      have hnot : ¬ isPrefixedHex (a ++ '-'.toUInt8 :: b ++ '-'.toUInt8 :: c ++ '-'.toUInt8 :: d ++
          '-'.toUInt8 :: e) 32 := by
        rw [isPrefixedHex, hlen]
        simp
      have hlast := uuidDigits_append he (by decide : ∀ j, 24 ≤ j → j < 24 + 12 → _) []
      rw [List.append_nil] at hlast
      rw [if_neg hnot, if_neg (Decidable.not_not.2 hlen)]
      simp only [List.append_assoc, List.cons_append]
      rw [uuidDigits_append ha (by decide), uuidDigits_dash rfl, uuidDigits_append hb (by decide),
        uuidDigits_dash rfl, uuidDigits_append hc (by decide), uuidDigits_dash rfl,
        uuidDigits_append hd (by decide), uuidDigits_dash rfl, hlast]
      simp [uuidDigits]

lemma isHexDigit_lowerNarrow {c : UInt8} (h : isHexDigit c) : isHexDigit (lowerNarrow c) := by
  have hletters : '0'.toUInt8.toNat = 48 ∧ '9'.toUInt8.toNat = 57 ∧ 'a'.toUInt8.toNat = 97 ∧
      'f'.toUInt8.toNat = 102 ∧ 'A'.toUInt8.toNat = 65 ∧ 'F'.toUInt8.toNat = 70 := by decide
  simp only [isHexDigit, Bool.or_eq_true, Bool.and_eq_true, decide_eq_true_eq,
    UInt8.le_iff_toNat_le] at h ⊢
  rw [toNat_lowerNarrow]
  split_ifs with hupper
  · omega
  · exact h

lemma HexDigits.lower {n : ℕ} {digits : List UInt8} (h : HexDigits n digits) :
    HexDigits n (Top200.lower digits) := by
  refine ⟨by rw [Top200.lower, List.length_map, h.1], ?_⟩
  rw [Top200.lower, List.all_map, List.all_eq_true]
  intro c hc
  exact isHexDigit_lowerNarrow (List.all_eq_true.1 h.2 c hc)

lemma WrittenAs.hexDigits {id hex : List UInt8} (h : WrittenAs id hex) : HexDigits 32 hex := by
  rcases h with hdigits | ⟨ha, hb, hc, hd, he⟩
  · exact hdigits.lower
  · refine HexDigits.lower ⟨?_, ?_⟩
    · simp only [List.length_append, ha.1, hb.1, hc.1, hd.1, he.1]
    · simp only [List.all_append, ha.2, hb.2, hc.2, hd.2, he.2, Bool.and_self]

/-! ### The check -/

section Validate

variable (parse : List UInt8 → Parsed) (pasted deviceClientId deviceClientKeyHex : List UInt8)

lemma validate_trimmed :
    (validate parse pasted deviceClientId deviceClientKeyHex).trimmed = trim pasted := by
  simp only [validate]
  split_ifs
  · rfl
  · rfl
  · rfl
  · cases parse (trim pasted) with
    | discarded => rfl
    | other => rfl
    | object report => cases hbinding : report.binding <;> simp only [hbinding]

variable {parse pasted deviceClientId deviceClientKeyHex}

lemma report_of_valid
    (h : (validate parse pasted deviceClientId deviceClientKeyHex).verdict = .valid) :
    ∃ report binding, parse (trim pasted) = .object report ∧ report.binding = some binding ∧
      (validate parse pasted deviceClientId deviceClientKeyHex).binding = some binding ∧
      deviceVerdict binding deviceClientId deviceClientKeyHex = .valid := by
  simp only [validate] at h ⊢
  split_ifs at h ⊢
  cases hparse : parse (trim pasted) with
  | discarded | other =>
    simp only [hparse] at h
    exact absurd h (by decide)
  | object report =>
    cases hbinding : report.binding with
    | none =>
      simp only [hparse, hbinding] at h
      exact absurd h (by decide)
    | some binding =>
      simp only [hparse, hbinding] at h
      exact ⟨report, binding, rfl, hbinding, by simp only [hbinding], h⟩

lemma device_of_valid {binding : Binding}
    (h : deviceVerdict binding deviceClientId deviceClientKeyHex = .valid) :
    (∃ hex, WrittenAs binding.clientId hex ∧ WrittenAs deviceClientId hex) ∧
      lower binding.clientKey = lower deviceClientKeyHex := by
  rw [deviceVerdict] at h
  split_ifs at h with hkey hother
  rw [not_or, not_or, Decidable.not_not, Decidable.not_not] at hother
  obtain ⟨hdevice, hsame, hlower⟩ := hother
  obtain ⟨hex, hhex⟩ := Option.ne_none_iff_exists'.1 hdevice
  exact ⟨⟨hex, clientIdHex_iff.1 (hsame.trans hhex), clientIdHex_iff.1 hhex⟩, hlower⟩

end Validate

/-! ### The signing -/

variable {σ : Type}

/-- A signer with the texts it was called with. -/
def recording (signer : List UInt8 → StateM σ Answer) (trimmed : List UInt8) :
    StateM (σ × List (List UInt8)) Answer := fun (s, calls) =>
  let (answer, s) := signer trimmed s
  (answer, (s, calls ++ [trimmed]))

lemma signChecked_recording (check : Check) (signer : List UInt8 → StateM σ Answer) (s : σ) :
    signChecked check (recording signer) (s, []) =
      if check.verdict = .valid then
        (finish check.trimmed (signer check.trimmed s).1,
          ((signer check.trimmed s).2, [check.trimmed]))
      else ({ ok := false, payload := [], detail := [] }, (s, [])) := by
  by_cases h : check.verdict = .valid
  · rcases hsign : signer check.trimmed s with ⟨answer, s'⟩
    simp [signChecked, recording, h, hsign, bind, StateT.bind, pure, StateT.pure]
  · simp [signChecked, h, pure, StateT.pure]

lemma finish_payload {trimmed : List UInt8} {answer : Answer}
    (h : (finish trimmed answer).payload ≠ []) :
    ∃ digits, HexDigits 128 digits ∧ answer = .signature (narrow "0x" ++ digits) ∧
      (finish trimmed answer).payload = payload trimmed (narrow "0x" ++ digits) := by
  cases answer with
  | exception | other => exact absurd rfl h
  | signature signature =>
    simp only [finish] at h ⊢
    split_ifs at h ⊢ with hempty hmalformed
    · exact absurd rfl h
    · exact absurd rfl h
    · obtain ⟨digits, hdigits, rfl⟩ :=
        isPrefixedHex_iff.1 (by simpa [isSignature] using hmalformed : isPrefixedHex signature 128)
      exact ⟨digits, hdigits, rfl, rfl⟩

/-- The binding that is reviewed is the one that every reader of the text signs: a valid text
has the fields and no other names, both readers see them alike, they are the device's, and
no signer is called with another text or makes a payload of another. -/
theorem reviewed_is_signed (parse : List UInt8 → Parsed)
    (pasted deviceClientId deviceClientKeyHex : List UInt8) :
    ((validate parse pasted deviceClientId deviceClientKeyHex).verdict = .valid →
      ∃ report binding, parse (trim pasted) = .object report ∧
        (validate parse pasted deviceClientId deviceClientKeyHex).binding = some binding ∧
        (report.pairs.map Prod.fst).Perm fieldNames ∧
        (∀ field : Field, ∃ value, readLast report.pairs field.name = some value ∧
          field.Holds binding value) ∧
        (∃ hex, HexDigits 32 hex ∧ WrittenAs binding.clientId hex ∧
          WrittenAs deviceClientId hex) ∧
        lower binding.clientKey = lower deviceClientKeyHex) ∧
    ∀ (σ : Type) (signer : List UInt8 → StateM σ Answer) (s : σ),
      let check := validate parse pasted deviceClientId deviceClientKeyHex
      let (result, (_, calls)) := signChecked check (recording signer) (s, [])
      (calls = [] ∨ check.verdict = .valid ∧ calls = [trim pasted]) ∧
      (result.payload ≠ [] → check.verdict = .valid ∧ calls = [trim pasted] ∧
        ∃ digits, HexDigits 128 digits ∧
          (signer (trim pasted) s).1 = .signature (narrow "0x" ++ digits) ∧
          result.payload = payload (trim pasted) (narrow "0x" ++ digits)) := by
  refine ⟨fun hvalid => ?_, fun σ signer s => ?_⟩
  · obtain ⟨report, binding, hparse, hreport, hbinding, hdevice⟩ := report_of_valid hvalid
    obtain ⟨⟨hex, hclient, hdeviceId⟩, hkey⟩ := device_of_valid hdevice
    exact ⟨report, binding, hparse, hbinding, perm_fieldNames hreport,
      readLast_of_binding hreport, ⟨hex, hclient.hexDigits, hclient, hdeviceId⟩, hkey⟩
  · simp only [signChecked_recording, validate_trimmed]
    by_cases hvalid : (validate parse pasted deviceClientId deviceClientKeyHex).verdict = .valid
    · simp only [if_pos hvalid]
      refine ⟨.inr ⟨hvalid, trivial⟩, fun hpayload => ⟨hvalid, trivial, ?_⟩⟩
      exact finish_payload hpayload
    · simp only [if_neg hvalid]
      exact ⟨.inl trivial, fun hpayload => absurd rfl hpayload⟩

/-- So many digits after `0x`. -/
def hexText (n : ℕ) (digit : Char) : List UInt8 :=
  narrow "0x" ++ List.replicate n digit.toUInt8

def stringOf (s : List UInt8) : Json := .string ⟨s.toArray⟩

/-- A binding's pairs. -/
def samplePairs : List (List UInt8 × Json) :=
  [(narrow "chain_id", .unsigned 945), (narrow "netuid", .unsigned 25),
    (narrow "coordinator", stringOf (hexText 40 '1')),
    (narrow "fleet_id", stringOf (hexText 64 '2')), (narrow "hotkey", stringOf (hexText 64 '3')),
    (narrow "client_id", stringOf (hexText 32 'C')),
    (narrow "client_key", stringOf (hexText 64 'D')), (narrow "generation", .unsigned 3),
    (narrow "valid_from_epoch", .unsigned 100), (narrow "valid_to_epoch", .unsigned 200),
    (narrow "commitment_hash", stringOf (hexText 64 '4'))]

def sampleReport : Report where
  events := samplePairs.map fun pair => { depth := 1, key := pair.1 }
  pairs := samplePairs
  topLevel := by decide

/-- A member as it is written. -/
def memberText (name : String) (value : List UInt8) : List UInt8 :=
  narrow "\"" ++ narrow name ++ narrow "\":" ++ value

def quoted (value : List UInt8) : List UInt8 := narrow "\"" ++ value ++ narrow "\""

/-- The text of these pairs, with a line break after it. -/
def sampleText : List UInt8 :=
  narrow "\x7b" ++ (narrow ",").intercalate
    [memberText "chain_id" (narrow "945"), memberText "netuid" (narrow "25"),
      memberText "coordinator" (quoted (hexText 40 '1')),
      memberText "fleet_id" (quoted (hexText 64 '2')),
      memberText "hotkey" (quoted (hexText 64 '3')),
      memberText "client_id" (quoted (hexText 32 'C')),
      memberText "client_key" (quoted (hexText 64 'D')), memberText "generation" (narrow "3"),
      memberText "valid_from_epoch" (narrow "100"), memberText "valid_to_epoch" (narrow "200"),
      memberText "commitment_hash" (quoted (hexText 64 '4'))] ++ narrow "\x7d\n"

/-- A parser of this text. -/
def sampleParse (trimmed : List UInt8) : Parsed :=
  if trimmed = trim sampleText then .object sampleReport else .discarded

/-- The device's id as a uuid, and its key in the other case. -/
def sampleId : List UInt8 := narrow "cccccccc-cccc-cccc-cccc-cccccccccccc"

def sampleKey : List UInt8 := hexText 64 'd'

theorem reviewed_is_signed_sample :
    ∃ report binding, sampleParse (trim sampleText) = .object report ∧
      (validate sampleParse sampleText sampleId sampleKey).binding = some binding ∧
      (report.pairs.map Prod.fst).Perm fieldNames ∧
      (∀ field : Field, ∃ value, readLast report.pairs field.name = some value ∧
        field.Holds binding value) ∧
      (∃ hex, HexDigits 32 hex ∧ WrittenAs binding.clientId hex ∧ WrittenAs sampleId hex) ∧
      lower binding.clientKey = lower sampleKey :=
  (reviewed_is_signed sampleParse sampleText sampleId sampleKey).1 (by decide +kernel)

end UrnetworkWindows.Top200
