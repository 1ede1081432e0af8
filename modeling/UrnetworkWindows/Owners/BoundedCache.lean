/-
The bounded cache of the flow owner (`FlowOwner.h`, `FlowOwner.cpp`).

A map with at most `capacity` entries and the queue of its keys.  `Put` drops the oldest key to
make room for a new one; `ReplaceAll` keeps the first keys it is given and counts the entries
it comes to once the cache is full.  The lock makes each call one step.

The invariant is `BoundedCache.Shape`.  Over it a cache that only `Put` has changed is the
window over the log of its insertions (`Lib.enterAll`), and a cache that `ReplaceAll` has made
is the beginning of the entries without their repeats.
-/
import Mathlib.Data.Finmap
import UrnetworkWindows.Lib.Trace
import UrnetworkWindows.Lib.Window

namespace UrnetworkWindows.Owners

open Lib

/-- `BoundedCache`. -/
structure BoundedCache (κ ν : Type*) where
  capacity : ℕ
  order : List κ := []
  map : Finmap fun _ : κ => ν := ∅

namespace BoundedCache

variable {κ ν : Type*} [DecidableEq κ]

/-- `Get`. -/
def get (c : BoundedCache κ ν) (key : κ) : Option ν := c.map.lookup key

/-- `Size`. -/
def size (c : BoundedCache κ ν) : ℕ := c.map.keys.card

/-- The oldest key leaves the queue and the map. -/
def evict (c : BoundedCache κ ν) : BoundedCache κ ν :=
  match c.order with
  | [] => c
  | oldest :: order => { c with order, map := c.map.erase oldest }

/-- `push_back` and `emplace`, of a key the map does not have. -/
def append (c : BoundedCache κ ν) (key : κ) (value : ν) : BoundedCache κ ν :=
  { c with order := c.order ++ [key], map := c.map.insert key value }

/-- `Put`. -/
def put (c : BoundedCache κ ν) (key : κ) (value : ν) : BoundedCache κ ν :=
  if key ∈ c.map then { c with map := c.map.insert key value }
  else if c.capacity = 0 then c
  else (if c.capacity ≤ c.order.length then c.evict else c).append key value

/-- One round of the loop of `ReplaceAll`, with the entries dropped so far. -/
def scan (s : ℕ × BoundedCache κ ν) (entry : κ × ν) : ℕ × BoundedCache κ ν :=
  if s.2.capacity ≤ s.2.size then (s.1 + 1, s.2)
  else if entry.1 ∈ s.2.map then s
  else (s.1, s.2.append entry.1 entry.2)

/-- `ReplaceAll`, with how many entries it dropped. -/
def replaceAll (c : BoundedCache κ ν) (entries : List (κ × ν)) : ℕ × BoundedCache κ ν :=
  entries.foldl scan (0, { c with order := [], map := ∅ })

/-- A call that changes the cache. -/
inductive Op (κ ν : Type*)
  | put (key : κ) (value : ν)
  | replaceAll (entries : List (κ × ν))

/-- The cache after a call. -/
def apply (c : BoundedCache κ ν) : Op κ ν → BoundedCache κ ν
  | .put key value => c.put key value
  | .replaceAll entries => (c.replaceAll entries).2

/-- A new cache after some calls. -/
def after (capacity : ℕ) (ops : List (Op κ ν)) : BoundedCache κ ν :=
  ops.foldl apply { capacity }

/-- A cache after it was put some entries. -/
def puts (c : BoundedCache κ ν) (entries : List (κ × ν)) : BoundedCache κ ν :=
  entries.foldl (fun c entry => c.put entry.1 entry.2) c

@[simp] lemma puts_snoc (c : BoundedCache κ ν) (entries : List (κ × ν)) (entry : κ × ν) :
    c.puts (entries ++ [entry]) = (c.puts entries).put entry.1 entry.2 := by
  simp [puts]

@[simp] lemma replaceAll_nil (c : BoundedCache κ ν) :
    c.replaceAll [] = (0, { c with order := [], map := ∅ }) := rfl

@[simp] lemma replaceAll_snoc (c : BoundedCache κ ν) (entries : List (κ × ν)) (entry : κ × ν) :
    c.replaceAll (entries ++ [entry]) = scan (c.replaceAll entries) entry := by
  simp [replaceAll]

/-! ### The shape -/

/-- The queue has no duplicates, holds exactly the map's keys, and is not too long. -/
structure Shape (c : BoundedCache κ ν) : Prop where
  nodup : c.order.Nodup
  mem_iff : ∀ key, key ∈ c.order ↔ key ∈ c.map
  length_le : c.order.length ≤ c.capacity

variable {c : BoundedCache κ ν} {key : κ} {value : ν}

lemma Shape.size_eq (h : c.Shape) : c.size = c.order.length := by
  rw [size, ← List.toFinset_card_of_nodup h.nodup]
  congr 1
  ext key
  rw [Finmap.mem_keys, List.mem_toFinset, h.mem_iff]

omit [DecidableEq κ] in
lemma shape_new (capacity : ℕ) : ({ capacity } : BoundedCache κ ν).Shape where
  nodup := List.nodup_nil
  mem_iff _ := iff_of_false List.not_mem_nil Finmap.notMem_empty
  length_le := Nat.zero_le _

lemma Shape.evict (h : c.Shape) : c.evict.Shape := by
  rw [BoundedCache.evict]
  split
  next => exact h
  next oldest order horder =>
    have hnodup := h.nodup
    have hlength := h.length_le
    rw [horder] at hnodup hlength
    obtain ⟨hnot, hnodup⟩ := List.nodup_cons.1 hnodup
    refine ⟨hnodup, fun key => ?_, (Nat.le_succ _).trans hlength⟩
    change key ∈ order ↔ key ∈ c.map.erase oldest
    rw [Finmap.mem_erase, ← h.mem_iff, horder, List.mem_cons]
    constructor
    · rintro hmem
      exact ⟨fun heq => hnot (heq ▸ hmem), .inr hmem⟩
    · rintro ⟨hne, heq | hmem⟩
      · exact absurd heq hne
      · exact hmem

lemma Shape.append (h : c.Shape) (hkey : key ∉ c.map) (hroom : c.order.length < c.capacity) :
    (c.append key value).Shape where
  nodup := by
    refine List.nodup_append.2 ⟨h.nodup, List.nodup_singleton key, fun a ha b hb heq => ?_⟩
    exact hkey ((h.mem_iff key).1 (List.mem_singleton.1 hb ▸ heq ▸ ha))
  mem_iff key' := by
    change key' ∈ c.order ++ [key] ↔ key' ∈ c.map.insert key value
    rw [List.mem_append, List.mem_singleton, Finmap.mem_insert, h.mem_iff, or_comm]
  length_le := by
    change (c.order ++ [key]).length ≤ c.capacity
    rw [List.length_append, List.length_singleton]
    exact hroom

@[simp] lemma evict_capacity (c : BoundedCache κ ν) : c.evict.capacity = c.capacity := by
  rw [evict]
  split <;> rfl

@[simp] lemma evict_order (c : BoundedCache κ ν) : c.evict.order = c.order.tail := by
  rw [evict]
  split
  next h => rw [h, List.tail_nil]
  next h => rw [h, List.tail_cons]

/-- What there is room for. -/
def makeRoom (c : BoundedCache κ ν) : BoundedCache κ ν :=
  if c.capacity ≤ c.order.length then c.evict else c

lemma put_of_mem (h : key ∈ c.map) :
    c.put key value = { c with map := c.map.insert key value } :=
  if_pos h

lemma put_of_zero (h : key ∉ c.map) (hzero : c.capacity = 0) : c.put key value = c := by
  rw [put, if_neg h, if_pos hzero]

lemma put_of_new (h : key ∉ c.map) (hpos : c.capacity ≠ 0) :
    c.put key value = c.makeRoom.append key value := by
  rw [put, if_neg h, if_neg hpos, makeRoom]

@[simp] lemma makeRoom_capacity (c : BoundedCache κ ν) : c.makeRoom.capacity = c.capacity := by
  rw [makeRoom]
  split_ifs
  · exact evict_capacity c
  · rfl

lemma Shape.makeRoom (h : c.Shape) : c.makeRoom.Shape := by
  rw [BoundedCache.makeRoom]
  split_ifs
  · exact h.evict
  · exact h

lemma makeRoom_order (c : BoundedCache κ ν) :
    c.makeRoom.order = if c.capacity ≤ c.order.length then c.order.tail else c.order := by
  rw [makeRoom]
  split_ifs
  · exact evict_order c
  · rfl

lemma makeRoom_length_lt (hpos : c.capacity ≠ 0) (hle : c.order.length ≤ c.capacity) :
    c.makeRoom.order.length < c.capacity := by
  rw [makeRoom_order]
  split_ifs with h
  · rw [List.length_tail]
    omega
  · omega

lemma makeRoom_lookup {key : κ} (h : key ∈ c.makeRoom.map) :
    c.makeRoom.map.lookup key = c.map.lookup key := by
  rw [makeRoom] at h ⊢
  split_ifs at h ⊢ with hfull
  · rw [evict] at h ⊢
    split at h
    next => rfl
    next => exact Finmap.lookup_erase_ne (Finmap.mem_erase.1 h).1
  · rfl

lemma not_mem_makeRoom (h : key ∉ c.map) : key ∉ c.makeRoom.map := by
  intro hmem
  obtain ⟨value, hvalue⟩ := Finmap.mem_iff.1 hmem
  exact h (Finmap.mem_of_lookup_eq_some (makeRoom_lookup hmem ▸ hvalue))

/-! ### The calls keep it -/

@[simp] lemma put_capacity (c : BoundedCache κ ν) (key : κ) (value : ν) :
    (c.put key value).capacity = c.capacity := by
  by_cases h : key ∈ c.map
  · rw [put_of_mem h]
  · by_cases hzero : c.capacity = 0
    · rw [put_of_zero h hzero]
    · rw [put_of_new h hzero]
      exact makeRoom_capacity c

lemma Shape.put (h : c.Shape) : (c.put key value).Shape := by
  by_cases hmem : key ∈ c.map
  · rw [put_of_mem hmem]
    refine ⟨h.nodup, fun key' => ?_, h.length_le⟩
    change key' ∈ c.order ↔ key' ∈ c.map.insert key value
    rw [Finmap.mem_insert, h.mem_iff, or_iff_right_of_imp]
    rintro rfl
    exact hmem
  · by_cases hzero : c.capacity = 0
    · rw [put_of_zero hmem hzero]
      exact h
    · rw [put_of_new hmem hzero]
      refine h.makeRoom.append (not_mem_makeRoom hmem) ?_
      rw [makeRoom_capacity]
      exact makeRoom_length_lt hzero h.length_le

lemma Shape.scan {dropped : ℕ} (h : c.Shape) (entry : κ × ν) :
    BoundedCache.scan (dropped, c) entry =
      if c.capacity ≤ c.order.length then (dropped + 1, c)
      else if entry.1 ∈ c.order then (dropped, c)
      else (dropped, c.append entry.1 entry.2) := by
  rw [BoundedCache.scan, h.size_eq]
  split_ifs with hfull hmap horder horder
  · rfl
  · rfl
  · exact absurd ((h.mem_iff _).2 hmap) horder
  · exact absurd ((h.mem_iff _).1 horder) hmap
  · rfl

lemma Shape.replaceAll (c : BoundedCache κ ν) (entries : List (κ × ν)) :
    (c.replaceAll entries).2.Shape ∧ (c.replaceAll entries).2.capacity = c.capacity := by
  induction entries using List.reverseRecOn with
  | nil => exact ⟨shape_new c.capacity, rfl⟩
  | append_singleton entries entry ih =>
    obtain ⟨hshape, hcapacity⟩ := ih
    rw [replaceAll_snoc, ← Prod.eta (c.replaceAll entries), hshape.scan]
    split_ifs with hfull hmem
    · exact ⟨hshape, hcapacity⟩
    · exact ⟨hshape, hcapacity⟩
    · exact ⟨hshape.append (mt (hshape.mem_iff _).2 hmem) (not_le.1 hfull), hcapacity⟩

@[simp] lemma replaceAll_capacity (c : BoundedCache κ ν) (entries : List (κ × ν)) :
    (c.replaceAll entries).2.capacity = c.capacity :=
  (Shape.replaceAll c entries).2

theorem shape_after (capacity : ℕ) (ops : List (Op κ ν)) : (after capacity ops).Shape := by
  rw [after]
  induction ops using List.reverseRecOn with
  | nil => exact shape_new capacity
  | append_singleton ops op ih =>
    rw [List.foldl_concat]
    cases op with
    | put key value => exact ih.put
    | replaceAll entries => exact (Shape.replaceAll _ entries).1

/-! ### Puts -/

/-- The value the last of some entries of a key gives it. -/
def latest (entries : List (κ × ν)) (key : κ) : Option ν := entries.reverse.lookup key

lemma latest_snoc (entries : List (κ × ν)) (entry : κ × ν) (key : κ) :
    latest (entries ++ [entry]) key =
      if key = entry.1 then some entry.2 else latest entries key := by
  rw [latest, List.reverse_append, List.reverse_singleton, List.singleton_append, List.lookup_cons]
  by_cases h : key = entry.1
  · rw [if_pos h, beq_iff_eq.2 h]
  · rw [if_neg h, beq_eq_false_iff_ne.2 h, latest]

/-- The cache after some puts is the window over the log of the keys that came in, each with its
latest value. -/
structure Fifo (c : BoundedCache κ ν) (entries : List (κ × ν)) : Prop where
  order : (c.puts entries).order =
    (enterAll c.capacity c.order (entries.map Prod.fst)).rtake c.capacity
  value : ∀ key, (c.puts entries).get key =
    if key ∈ (c.puts entries).order then (latest entries key).or (c.get key) else none

lemma puts_spec (h : c.Shape) (entries : List (κ × ν)) :
    (c.puts entries).Shape ∧ (c.puts entries).capacity = c.capacity := by
  induction entries using List.reverseRecOn with
  | nil => exact ⟨h, rfl⟩
  | append_singleton entries entry ih =>
    rw [puts_snoc]
    exact ⟨ih.1.put, (put_capacity _ _ _).trans ih.2⟩

lemma order_put {log : List κ} (h : c.Shape) (hlog : c.order = log.rtake c.capacity) :
    (c.put key value).order = (enter c.capacity log key).rtake c.capacity := by
  by_cases hmem : key ∈ c.map
  · rw [put_of_mem hmem, enter, if_pos (hlog ▸ (h.mem_iff key).2 hmem)]
    exact hlog
  · by_cases hzero : c.capacity = 0
    · rw [put_of_zero hmem hzero, hlog, hzero, List.rtake_zero, List.rtake_zero]
    · obtain ⟨n, hn⟩ := Nat.exists_eq_succ_of_ne_zero hzero
      rw [put_of_new hmem hzero]
      change c.makeRoom.order ++ [key] = _
      rw [hn] at hlog ⊢
      rw [rtake_enter (hlog ▸ mt (h.mem_iff key).1 hmem), ← hlog, makeRoom_order, hn]

lemma get_put (h : c.Shape) (key' : κ) :
    (c.put key value).get key' =
      if key' ∈ (c.put key value).order then if key' = key then some value else c.get key'
      else none := by
  have hiff : key' ∈ (c.put key value).order ↔ key' ∈ (c.put key value).map := h.put.mem_iff key'
  split_ifs with hin heq
  · subst heq
    by_cases hmem : key' ∈ c.map
    · rw [put_of_mem hmem]
      exact Finmap.lookup_insert _
    · by_cases hzero : c.capacity = 0
      · rw [put_of_zero hmem hzero] at hin
        exact absurd ((h.mem_iff _).1 hin) hmem
      · rw [put_of_new hmem hzero]
        exact Finmap.lookup_insert _
  · rw [hiff] at hin
    by_cases hmem : key ∈ c.map
    · rw [put_of_mem hmem]
      exact Finmap.lookup_insert_of_ne _ heq
    · by_cases hzero : c.capacity = 0
      · rw [put_of_zero hmem hzero]
      · rw [put_of_new hmem hzero] at hin ⊢
        have hleft : key' ∈ c.makeRoom.map :=
          (Finmap.mem_insert.1 hin).resolve_left heq
        exact (Finmap.lookup_insert_of_ne _ heq).trans (makeRoom_lookup hleft)
  · exact Finmap.lookup_eq_none.2 (mt hiff.2 hin)

lemma mem_of_mem_put (h : c.Shape) {key' : κ} (hin : key' ∈ (c.put key value).order)
    (hne : key' ≠ key) : key' ∈ c.order := by
  obtain ⟨v, hv⟩ := Finmap.mem_iff.1 ((h.put.mem_iff key').1 hin)
  have hget : (c.put key value).get key' = some v := hv
  rw [get_put h, if_pos hin, if_neg hne] at hget
  exact (h.mem_iff _).2 (Finmap.mem_of_lookup_eq_some hget)

omit [DecidableEq κ] in
lemma rtake_self (h : c.Shape) : c.order = c.order.rtake c.capacity := by
  rw [List.rtake, Nat.sub_eq_zero_of_le h.length_le, List.drop_zero]

theorem fifo (h : c.Shape) (entries : List (κ × ν)) : Fifo c entries := by
  induction entries using List.reverseRecOn with
  | nil =>
    refine ⟨rtake_self h, fun key => ?_⟩
    split_ifs with hin
    · rfl
    · exact Finmap.lookup_eq_none.2 (mt (h.mem_iff key).2 hin)
  | append_singleton entries entry ih =>
    obtain ⟨hshape, hcapacity⟩ := puts_spec h entries
    refine ⟨?_, fun key => ?_⟩
    · rw [puts_snoc, List.map_append, List.map_singleton, enterAll_snoc, ← hcapacity]
      exact order_put hshape (hcapacity ▸ ih.order)
    · rw [puts_snoc, get_put hshape, latest_snoc]
      split_ifs with hin heq
      · rfl
      · rw [ih.value, if_pos (mem_of_mem_put hshape hin heq)]
      · rfl

/-! ### Rebuilds -/

/-- The cache after a rebuild holds the first keys of the entries, each with its first value; and
what the rebuild returns says whether it came to an entry with the cache full. -/
structure Rebuilt (c : BoundedCache κ ν) (entries : List (κ × ν)) : Prop where
  order : (c.replaceAll entries).2.order = (entries.map Prod.fst).eraseDups.take c.capacity
  value : ∀ key, (c.replaceAll entries).2.get key =
    if key ∈ (c.replaceAll entries).2.order then entries.lookup key else none
  dropped : (c.replaceAll entries).1 = 0 ↔ ∀ pre entry post, entries = pre ++ entry :: post →
    (c.replaceAll pre).2.size < c.capacity
  complete : (c.replaceAll entries).1 = 0 →
    ∀ entry ∈ entries, entry.1 ∈ (c.replaceAll entries).2.order

lemma replaceAll_snoc_eq (c : BoundedCache κ ν) (entries : List (κ × ν)) (entry : κ × ν) :
    c.replaceAll (entries ++ [entry]) =
      if c.capacity ≤ (c.replaceAll entries).2.order.length then
        ((c.replaceAll entries).1 + 1, (c.replaceAll entries).2)
      else if entry.1 ∈ (c.replaceAll entries).2.order then c.replaceAll entries
      else ((c.replaceAll entries).1, (c.replaceAll entries).2.append entry.1 entry.2) := by
  obtain ⟨hshape, hcapacity⟩ := Shape.replaceAll c entries
  rw [replaceAll_snoc, ← Prod.eta (c.replaceAll entries), hshape.scan, hcapacity]

lemma order_replaceAll (c : BoundedCache κ ν) (entries : List (κ × ν)) :
    (c.replaceAll entries).2.order = (entries.map Prod.fst).eraseDups.take c.capacity := by
  induction entries using List.reverseRecOn with
  | nil => simp
  | append_singleton entries entry ih =>
    rw [replaceAll_snoc_eq, List.map_append, List.map_singleton, take_eraseDups_snoc, ← ih]
    by_cases hfull : c.capacity ≤ (c.replaceAll entries).2.order.length
    · rw [if_pos hfull, if_pos (.inl hfull)]
    · by_cases hmem : entry.1 ∈ (c.replaceAll entries).2.order
      · rw [if_neg hfull, if_pos hmem, if_pos (.inr hmem)]
      · rw [if_neg hfull, if_neg hmem, if_neg (not_or.2 ⟨hfull, hmem⟩)]
        rfl

lemma mem_of_mem_replaceAll {entries : List (κ × ν)}
    (h : key ∈ (c.replaceAll entries).2.order) : key ∈ entries.map Prod.fst := by
  rw [order_replaceAll] at h
  exact mem_eraseDups.1 (List.mem_of_mem_take h)

lemma mem_replaceAll_iff {entries : List (κ × ν)}
    (hroom : (c.replaceAll entries).2.order.length < c.capacity) :
    key ∈ (c.replaceAll entries).2.order ↔ key ∈ entries.map Prod.fst := by
  rw [order_replaceAll] at hroom ⊢
  rw [List.length_take] at hroom
  rw [List.take_of_length_le (by omega), mem_eraseDups]

lemma lookup_snoc (entries : List (κ × ν)) (entry : κ × ν) (key : κ) :
    (entries ++ [entry]).lookup key =
      if key ∈ entries.map Prod.fst then entries.lookup key
      else if key = entry.1 then some entry.2 else none := by
  rw [List.lookup_append]
  split_ifs with hmem heq
  · obtain ⟨e, he, rfl⟩ := List.mem_map.1 hmem
    exact Option.or_of_isSome (List.lookup_isSome_iff.2 ⟨e, he, beq_self_eq_true _⟩)
  · have hnone : entries.lookup key = none :=
      List.lookup_eq_none_iff.2 fun e he => bne_iff_ne.2 fun h =>
        hmem (h ▸ List.mem_map_of_mem he)
    rw [hnone, heq, Option.none_or]
    exact List.lookup_cons_self
  · have hnone : entries.lookup key = none :=
      List.lookup_eq_none_iff.2 fun e he => bne_iff_ne.2 fun h =>
        hmem (h ▸ List.mem_map_of_mem he)
    rw [hnone, Option.none_or, List.lookup_cons, beq_eq_false_iff_ne.2 heq, List.lookup_nil]

lemma get_replaceAll (c : BoundedCache κ ν) (entries : List (κ × ν)) (key : κ) :
    (c.replaceAll entries).2.get key =
      if key ∈ (c.replaceAll entries).2.order then entries.lookup key else none := by
  induction entries using List.reverseRecOn with
  | nil => rfl
  | append_singleton entries entry ih =>
    -- a cache that keeps its keys has the values the earlier entries gave it
    have hkept : (c.replaceAll entries).2.get key =
        if key ∈ (c.replaceAll entries).2.order then (entries ++ [entry]).lookup key
        else none := by
      rw [ih]
      split_ifs with hin
      · rw [lookup_snoc, if_pos (mem_of_mem_replaceAll hin)]
      · rfl
    rw [replaceAll_snoc_eq]
    by_cases hfull : c.capacity ≤ (c.replaceAll entries).2.order.length
    · rw [if_pos hfull]
      exact hkept
    · by_cases hmem : entry.1 ∈ (c.replaceAll entries).2.order
      · rw [if_neg hfull, if_pos hmem]
        exact hkept
      · rw [if_neg hfull, if_neg hmem]
        change ((c.replaceAll entries).2.map.insert entry.1 entry.2).lookup key =
          if key ∈ (c.replaceAll entries).2.order ++ [entry.1] then _ else _
        rw [mem_replaceAll_iff (not_le.1 hfull)] at hmem
        by_cases heq : key = entry.1
        · subst heq
          rw [Finmap.lookup_insert, if_pos List.mem_concat_self,
            lookup_snoc, if_neg hmem, if_pos rfl]
        · rw [Finmap.lookup_insert_of_ne _ heq]
          refine hkept.trans (if_congr ?_ rfl rfl)
          rw [List.mem_append, List.mem_singleton, or_iff_left heq]

lemma dropped_eq_zero_iff (c : BoundedCache κ ν) (entries : List (κ × ν)) :
    (c.replaceAll entries).1 = 0 ↔ ∀ pre entry post, entries = pre ++ entry :: post →
      (c.replaceAll pre).2.size < c.capacity := by
  induction entries using List.reverseRecOn with
  | nil => exact iff_of_true rfl fun pre entry post h => absurd h (by simp)
  | append_singleton entries entry ih =>
    have hsize := (Shape.replaceAll c entries).1.size_eq
    have hsplit : (∀ pre e post, entries ++ [entry] = pre ++ e :: post →
        (c.replaceAll pre).2.size < c.capacity) ↔
          (c.replaceAll entries).2.size < c.capacity ∧ (c.replaceAll entries).1 = 0 := by
      rw [ih]
      constructor
      · refine fun h => ⟨h entries entry [] rfl, fun pre e post he => ?_⟩
        exact h pre e (post ++ [entry]) (by rw [he, List.append_assoc, List.cons_append])
      · rintro ⟨hlast, hrest⟩ pre e post he
        rcases eq_or_mem_of_snoc he with ⟨-, rfl, -⟩ | ⟨post', -, he⟩
        · exact hlast
        · exact hrest pre e post' he
    rw [hsplit, replaceAll_snoc_eq, hsize]
    by_cases hfull : c.capacity ≤ (c.replaceAll entries).2.order.length
    · rw [if_pos hfull]
      exact iff_of_false (Nat.succ_ne_zero _) fun h => absurd h.1 (not_lt.2 hfull)
    · rw [if_neg hfull, and_iff_right (not_le.1 hfull)]
      split_ifs <;> rfl

lemma mem_of_dropped_eq_zero {entries : List (κ × ν)} (h : (c.replaceAll entries).1 = 0)
    {entry : κ × ν} (hmem : entry ∈ entries) : entry.1 ∈ (c.replaceAll entries).2.order := by
  have hroom := (dropped_eq_zero_iff c entries).1 h
  clear h
  induction entries using List.reverseRecOn with
  | nil => exact absurd hmem List.not_mem_nil
  | append_singleton entries last ih =>
    have hlast := hroom entries last [] rfl
    rw [(Shape.replaceAll c entries).1.size_eq] at hlast
    have hold : entry ∈ entries → entry.1 ∈ (c.replaceAll entries).2.order := fun hin =>
      ih hin fun pre e post he =>
        hroom pre e (post ++ [last]) (by rw [he, List.append_assoc, List.cons_append])
    rw [replaceAll_snoc_eq, if_neg (not_le.2 hlast)]
    rcases List.mem_append.1 hmem with hin | hin
    · split_ifs with hhas
      · exact hold hin
      · exact List.mem_append_left _ (hold hin)
    · obtain rfl := List.mem_singleton.1 hin
      split_ifs with hhas
      · exact hhas
      · exact List.mem_concat_self

theorem rebuilt (c : BoundedCache κ ν) (entries : List (κ × ν)) : Rebuilt c entries where
  order := order_replaceAll c entries
  value := get_replaceAll c entries
  dropped := dropped_eq_zero_iff c entries
  complete := fun h _ hmem => mem_of_dropped_eq_zero h hmem

/-- Whatever is called on a cache, its queue and its map stay in step; puts from there make it
the window over what came in, and a rebuild makes it the beginning of the entries. -/
theorem keeps_its_shape (capacity : ℕ) (ops : List (Op κ ν)) :
    (after capacity ops).Shape ∧ (after capacity ops).capacity = capacity ∧
      (after capacity ops).size = (after capacity ops).order.length ∧
      ∀ entries, Fifo (after capacity ops) entries ∧ Rebuilt (after capacity ops) entries := by
  have hcapacity : (after capacity ops).capacity = capacity := by
    rw [after]
    induction ops using List.reverseRecOn with
    | nil => rfl
    | append_singleton ops op ih =>
      rw [List.foldl_concat]
      cases op with
      | put key value => exact (put_capacity _ _ _).trans ih
      | replaceAll entries => exact (replaceAll_capacity _ _).trans ih
  have hshape := shape_after capacity ops
  exact ⟨hshape, hcapacity, hshape.size_eq, fun entries => ⟨fifo hshape entries, rebuilt _ _⟩⟩

end BoundedCache

/-! ### The flow owner -/

/-- `FlowKey`; an address is its bytes, and a destination nobody gave is zero. -/
structure FlowKey where
  v6 : Bool := false
  protocol : ℤ := 0
  sourceAddr : List UInt8 := List.replicate 16 0
  sourcePort : ℤ := 0
  destAddr : List UInt8 := List.replicate 16 0
  destPort : ℤ := 0
deriving DecidableEq, Repr

/-- `FlowOwner`: who owns a flow, and where a process's image is. -/
structure FlowOwner where
  flows : BoundedCache FlowKey ℕ := { capacity := 8192 }
  exePaths : BoundedCache ℕ String := { capacity := 4096 }
  refreshRequests : ℕ := 0

namespace FlowOwner

/-- `LookupCached`. -/
def lookupCached (o : FlowOwner) (key : FlowKey) : String × FlowOwner :=
  match (o.flows.get key).bind o.exePaths.get with
  | none => ("", { o with refreshRequests := o.refreshRequests + 1 })
  | some path => (path, o)

/-- The path of a process, unless it is known or cannot be resolved. -/
def resolveOne (resolve : ℕ → String) (paths : BoundedCache ℕ String) (pid : ℕ) :
    BoundedCache ℕ String :=
  if (paths.get pid).isSome then paths
  else if resolve pid = "" then paths
  else paths.put pid (resolve pid)

/-- `RefreshOnce`, on what the tables hold and their process ids in some order; with how many
entries did not fit. -/
def refreshOnce (resolve : ℕ → String) (entries : List (FlowKey × ℕ)) (pids : List ℕ)
    (o : FlowOwner) : ℕ × FlowOwner :=
  ((o.flows.replaceAll entries).1,
    { o with
      flows := (o.flows.replaceAll entries).2
      exePaths := pids.foldl (resolveOne resolve) o.exePaths })

variable {resolve : ℕ → String} {entries : List (FlowKey × ℕ)} {pids : List ℕ} {o : FlowOwner}
  {key : FlowKey}

theorem closed_after_refresh (h : key ∉ entries.map Prod.fst) :
    (refreshOnce resolve entries pids o).2.lookupCached key =
      ("", { (refreshOnce resolve entries pids o).2 with
        refreshRequests := o.refreshRequests + 1 }) := by
  have hnone : (o.flows.replaceAll entries).2.get key = none := by
    rw [BoundedCache.get_replaceAll, if_neg (mt BoundedCache.mem_of_mem_replaceAll h)]
  rw [lookupCached]
  simp [refreshOnce, hnone]

theorem owned_after_refresh (hfit : (refreshOnce resolve entries pids o).1 = 0)
    (h : key ∈ entries.map Prod.fst) :
    (refreshOnce resolve entries pids o).2.flows.get key = entries.lookup key := by
  obtain ⟨entry, hentry, rfl⟩ := List.mem_map.1 h
  exact (BoundedCache.get_replaceAll _ _ _).trans
    (if_pos (BoundedCache.mem_of_dropped_eq_zero hfit hentry))

end FlowOwner

end UrnetworkWindows.Owners
