/-
The local-bypass tables and the capture sets derived from them (`NetPolicy.h`).

One list of prefixes bypasses the tunnel; the prefixes the tun captures are
computed from it by prefix subtraction.  The loop of `ComplementV4` and
`ComplementV6` is `Splitting.loop` at the two representations of an address, a
32-bit word and two 64-bit halves.  The table is a parameter of the two loops:
the source runs them on `kLocalBypassV4` and `kLocalBypassV6`.

The main results are `countP_kTunCaptureV4` and `countP_kTunCaptureV6`: an
address lies in exactly one capture prefix if it does not bypass the tunnel, and
in none if it does.
-/
import UrnetworkWindows.Lib.Prefix

namespace UrnetworkWindows.Net

open Lib

/-! ### IPv4 -/

/-- `V4Prefix`: a network in host byte order and a prefix length. -/
structure V4Prefix where
  network : BitVec 32
  prefixLen : ℕ
deriving DecidableEq, Repr

/-- `kLocalBypassV4`: 10.0.0.0/8, 172.16.0.0/12 and 192.168.0.0/16. -/
def kLocalBypassV4 : List V4Prefix :=
  [⟨0x0A000000#32, 8⟩, ⟨0xAC100000#32, 12⟩, ⟨0xC0A80000#32, 16⟩]

/-- `detail::PrefixMask`. -/
def prefixMask (len : ℕ) : BitVec 32 :=
  if len = 0 then 0#32 else 0xFFFFFFFF#32 <<< (32 - len)

namespace V4Prefix

/-- `detail::Contains`: is `inner` entirely inside `outer`? -/
def contains (outer inner : V4Prefix) : Bool :=
  if outer.prefixLen > inner.prefixLen then false
  else inner.network &&& prefixMask outer.prefixLen == outer.network

/-- The address test every reader of a prefix makes. -/
def hasAddr (p : V4Prefix) (a : BitVec 32) : Bool :=
  a &&& prefixMask p.prefixLen == p.network

/-- A prefix of the header as a prefix of 32-bit words. -/
def toPrefix (p : V4Prefix) : Lib.Prefix 32 := ⟨p.network, p.prefixLen⟩

end V4Prefix

/-- The questions `ComplementV4` asks of a node, and its two halves. -/
def splittingV4 (table : List V4Prefix) : Splitting V4Prefix where
  covered := fun cur => table.any fun b => b.contains cur
  straddles := fun cur => table.any fun b => cur.contains b
  low := fun cur => ⟨cur.network, cur.prefixLen + 1⟩
  high := fun cur => ⟨cur.network + (1#32 <<< (32 - (cur.prefixLen + 1))), cur.prefixLen + 1⟩

/-- `ComplementV4`: the complement of `table` in 0.0.0.0/0, low to high.  The
fuel is the size of the whole prefix tree. -/
def complementV4 (table : List V4Prefix) : Option (List V4Prefix) :=
  (splittingV4 table).loop (2 ^ 33) [⟨0#32, 0⟩] []

/-- `kTunCaptureV4`: the tun's route set. -/
def kTunCaptureV4 : List V4Prefix := (complementV4 kLocalBypassV4).getD []

/-- `IsLocalBypassV4`: would this address leave by the physical adapter? -/
def isLocalBypassV4 (hostOrderAddr : BitVec 32) : Bool :=
  kLocalBypassV4.any fun b => b.hasAddr hostOrderAddr

lemma prefixMask_eq (len : ℕ) : prefixMask len = mask 32 len := by
  rw [prefixMask, mask]
  split_ifs with h
  · subst h
    decide
  · rfl

lemma V4Prefix.hasAddr_iff {p : V4Prefix} {a : BitVec 32} :
    p.hasAddr a = true ↔ p.toPrefix.Mem a := by
  simp [V4Prefix.hasAddr, prefixMask_eq, V4Prefix.toPrefix, Prefix.Mem]

lemma V4Prefix.contains_eq (p q : V4Prefix) :
    p.contains q = decide (p.toPrefix.Contains q.toPrefix) := by
  apply Bool.eq_iff_iff.2
  rw [V4Prefix.contains, prefixMask_eq, decide_eq_true_eq]
  split_ifs with h
  · have hnot : ¬ p.toPrefix.Contains q.toPrefix := fun hc =>
      absurd hc.1 (Nat.not_le_of_lt h)
    simp [hnot]
  · have hle : p.toPrefix.len ≤ q.toPrefix.len := Nat.le_of_not_lt h
    simp [Prefix.Contains, hle]
    rfl

/-- Subtracting a table of aligned IPv4 prefixes is prefix subtraction. -/
def splittingV4_sound {table : List V4Prefix} (htable : ∀ b ∈ table, b.toPrefix.Aligned) :
    (splittingV4 table).Sound (fun c a => c.hasAddr a = true)
      (fun a => table.any (fun b => b.hasAddr a) = true) :=
  (Prefix.splitting_sound (by
    intro b hb
    obtain ⟨p, hp, rfl⟩ := List.mem_map.1 hb
    exact htable p hp)).comap V4Prefix.toPrefix
    (fun _ _ => V4Prefix.hasAddr_iff)
    (fun a => by simp [V4Prefix.hasAddr_iff])
    (fun c => by
      simp only [splittingV4, Prefix.splitting, List.any_map, V4Prefix.contains_eq]
      rfl)
    (fun c => by
      simp only [splittingV4, Prefix.splitting, List.any_map, V4Prefix.contains_eq]
      rfl)
    (fun _ _ _ _ => rfl)
    (fun _ _ _ _ => rfl)

lemma exists_complementV4 {table : List V4Prefix} (htable : ∀ b ∈ table, b.toPrefix.Aligned) :
    ∃ res, complementV4 table = some res := by
  refine Splitting.loop_terminates (splittingV4_sound htable) _ _ _ ?_ ?_
  · intro c hc
    rw [List.mem_singleton.1 hc]
    exact ⟨by decide, by decide⟩
  · show (2 ^ (32 + 1 - 0) - 1) + 0 ≤ 2 ^ 33
    omega

lemma kLocalBypassV4_aligned : ∀ b ∈ kLocalBypassV4, b.toPrefix.Aligned := by
  intro b hb
  simp only [kLocalBypassV4, List.mem_cons, List.not_mem_nil, or_false] at hb
  rcases hb with rfl | rfl | rfl <;> exact ⟨by decide, by decide⟩

/-- **The IPv4 route set is the complement of the bypass table**: an address lies
in no capture prefix if it bypasses the tunnel, and in exactly one if not. -/
theorem countP_kTunCaptureV4 (a : BitVec 32) :
    kTunCaptureV4.countP (fun p => p.hasAddr a) = if isLocalBypassV4 a then 0 else 1 := by
  obtain ⟨res, hres⟩ := exists_complementV4 kLocalBypassV4_aligned
  have hcount := Splitting.loop_countP_root (splittingV4_sound kLocalBypassV4_aligned)
    ⟨0#32, 0⟩ ⟨by decide, by decide⟩ (fun a => by simp [V4Prefix.hasAddr, prefixMask])
    hres a
  rw [kTunCaptureV4, hres, Option.getD_some]
  simpa [isLocalBypassV4] using hcount

example : kTunCaptureV4.length = 31 := by decide +kernel

/-! ### IPv6 -/

/-- `V6Prefix`: an address as two host-order halves, and a prefix length. -/
structure V6Prefix where
  hi : BitVec 64
  lo : BitVec 64
  prefixLen : ℕ
deriving DecidableEq, Repr

/-- `kLocalBypassV6`: fc00::/7, fe80::/10 and ff00::/8. -/
def kLocalBypassV6 : List V6Prefix :=
  [⟨0xFC00000000000000#64, 0#64, 7⟩, ⟨0xFE80000000000000#64, 0#64, 10⟩,
    ⟨0xFF00000000000000#64, 0#64, 8⟩]

/-- `detail::MaskHi6`. -/
def maskHi6 (len : ℕ) : BitVec 64 :=
  if len = 0 then 0#64
  else if len ≥ 64 then BitVec.allOnes 64
  else BitVec.allOnes 64 <<< (64 - len)

/-- `detail::MaskLo6`. -/
def maskLo6 (len : ℕ) : BitVec 64 :=
  if len ≤ 64 then 0#64
  else if len ≥ 128 then BitVec.allOnes 64
  else BitVec.allOnes 64 <<< (128 - len)

namespace V6Prefix

/-- `V6Prefix::Bytes`: the sixteen bytes in network order, as one word. -/
def bytes (p : V6Prefix) : BitVec 128 := p.hi ++ p.lo

/-- `V6Prefix::FromBytes`. -/
def fromBytes (b : BitVec 128) (len : ℕ) : V6Prefix :=
  ⟨b.extractLsb' 64 64, b.extractLsb' 0 64, len⟩

/-- The overload of `detail::Contains` for 128-bit prefixes. -/
def contains (outer inner : V6Prefix) : Bool :=
  if outer.prefixLen > inner.prefixLen then false
  else inner.hi &&& maskHi6 outer.prefixLen == outer.hi &&
    inner.lo &&& maskLo6 outer.prefixLen == outer.lo

/-- The address test of `IsLocalBypassV6`, on the two halves. -/
def hasHalves (p : V6Prefix) (hi lo : BitVec 64) : Bool :=
  hi &&& maskHi6 p.prefixLen == p.hi && lo &&& maskLo6 p.prefixLen == p.lo

/-- The same test on an address in network order. -/
def hasAddr (p : V6Prefix) (a : BitVec 128) : Bool :=
  p.hasHalves (a.extractLsb' 64 64) (a.extractLsb' 0 64)

/-- A prefix of the header as a prefix of 128-bit words. -/
def toPrefix (p : V6Prefix) : Lib.Prefix 128 := ⟨p.bytes, p.prefixLen⟩

end V6Prefix

/-- The questions `ComplementV6` asks of a node, and its two halves: the split is
at bit `half`, in whichever 64-bit half holds it. -/
def splittingV6 (table : List V6Prefix) : Splitting V6Prefix where
  covered := fun cur => table.any fun b => b.contains cur
  straddles := fun cur => table.any fun b => cur.contains b
  low := fun cur => { cur with prefixLen := cur.prefixLen + 1 }
  high := fun cur =>
    let half := cur.prefixLen + 1
    if half ≤ 64 then { cur with hi := cur.hi + (1#64 <<< (64 - half)), prefixLen := half }
    else { cur with lo := cur.lo + (1#64 <<< (128 - half)), prefixLen := half }

/-- `ComplementV6`: the complement of `table` in ::/0, low to high. -/
def complementV6 (table : List V6Prefix) : Option (List V6Prefix) :=
  (splittingV6 table).loop (2 ^ 129) [⟨0#64, 0#64, 0⟩] []

/-- `kTunCaptureV6`: the tun's IPv6 route set. -/
def kTunCaptureV6 : List V6Prefix := (complementV6 kLocalBypassV6).getD []

/-- `IsLocalBypassV6` on two halves: the table, plus ::1. -/
def isLocalBypassV6Halves (hi lo : BitVec 64) : Bool :=
  if hi = 0#64 ∧ lo = 1#64 then true
  else kLocalBypassV6.any fun b => b.hasHalves hi lo

/-- `IsLocalBypassV6` on the sixteen bytes of an address. -/
def isLocalBypassV6 (addr : BitVec 128) : Bool :=
  isLocalBypassV6Halves (V6Prefix.fromBytes addr 128).hi (V6Prefix.fromBytes addr 128).lo

lemma maskHi6_append_maskLo6 (len : ℕ) : maskHi6 len ++ maskLo6 len = mask 128 len := by
  by_cases h : len ≤ 128
  · have hall : ∀ l : Fin 129, maskHi6 l ++ maskLo6 l = mask 128 l := by decide +kernel
    exact hall ⟨len, by omega⟩
  · have h0 : ¬ len = 0 := by omega
    have h64 : len ≥ 64 := by omega
    have h64' : ¬ len ≤ 64 := by omega
    have h128 : len ≥ 128 := by omega
    have hsub : 128 - len = 0 := by omega
    rw [maskHi6, maskLo6, if_neg h0, if_pos h64, if_neg h64', if_pos h128, mask, hsub]
    decide

lemma V6Prefix.hasAddr_iff {p : V6Prefix} {a : BitVec 128} :
    p.hasAddr a = true ↔ p.toPrefix.Mem a := by
  have ha : a = a.extractLsb' 64 64 ++ a.extractLsb' 0 64 :=
    (@BitVec.extractLsb'_append_extractLsb' 64 64 a).symm
  have hmem : p.toPrefix.Mem a ↔
      (a.extractLsb' 64 64 &&& maskHi6 p.prefixLen) ++ (a.extractLsb' 0 64 &&& maskLo6 p.prefixLen)
        = p.hi ++ p.lo := by
    rw [← BitVec.and_append, maskHi6_append_maskLo6, ← ha]
    rfl
  rw [hmem, append_eq_append_iff]
  simp [V6Prefix.hasAddr, V6Prefix.hasHalves]

lemma V6Prefix.contains_eq (p q : V6Prefix) :
    p.contains q = decide (p.toPrefix.Contains q.toPrefix) := by
  have hcont : p.toPrefix.Contains q.toPrefix ↔ p.prefixLen ≤ q.prefixLen ∧
      (q.hi &&& maskHi6 p.prefixLen) ++ (q.lo &&& maskLo6 p.prefixLen) = p.hi ++ p.lo := by
    rw [← BitVec.and_append, maskHi6_append_maskLo6]
    rfl
  apply Bool.eq_iff_iff.2
  rw [decide_eq_true_eq, hcont, append_eq_append_iff, V6Prefix.contains]
  split_ifs with h
  · simp [Nat.not_le_of_lt h]
  · simp [Nat.le_of_not_lt h]

lemma splittingV6_high {table : List V6Prefix} {c : V6Prefix} (hc : c.toPrefix.Aligned)
    (hlt : c.toPrefix.len < 128) : ((splittingV6 table).high c).toPrefix = c.toPrefix.high := by
  have hbit : (c.hi ++ c.lo).getLsbD (128 - (c.prefixLen + 1)) = false := hc.getLsbD_split hlt
  have hlt' : c.prefixLen < 128 := hlt
  have hhigh : c.toPrefix.high.network =
      c.hi ++ c.lo ||| BitVec.twoPow 128 (128 - (c.prefixLen + 1)) := Prefix.high_network hc hlt
  rw [BitVec.getLsbD_append] at hbit
  suffices hnet : ((splittingV6 table).high c).bytes = c.toPrefix.high.network by
    have hlen : ((splittingV6 table).high c).prefixLen = c.prefixLen + 1 := by
      simp only [splittingV6]
      split_ifs <;> rfl
    show (⟨_, _⟩ : Prefix 128) = ⟨_, _⟩
    rw [hnet, hlen]
    rfl
  rw [hhigh]
  by_cases hhalf : c.prefixLen + 1 ≤ 64
  · -- the bit is in the high half
    have hk : 128 - (c.prefixLen + 1) = 64 + (64 - (c.prefixLen + 1)) := by omega
    rw [hk] at hbit ⊢
    have hclear : c.hi.getLsbD (64 - (c.prefixLen + 1)) = false := by simpa using hbit
    have hset : c.hi + 1#64 <<< (64 - (c.prefixLen + 1)) =
        c.hi ||| BitVec.twoPow 64 (64 - (c.prefixLen + 1)) := add_twoPow_eq_or hclear
    simp only [splittingV6, hhalf, if_true, V6Prefix.bytes]
    rw [hset, ← twoPow_append_zero 64 64, BitVec.or_append, BitVec.or_zero]
  · -- the bit is in the low half
    have hk : 128 - (c.prefixLen + 1) < 64 := by omega
    have hclear : c.lo.getLsbD (128 - (c.prefixLen + 1)) = false := by
      rwa [if_pos hk] at hbit
    have hset : c.lo + 1#64 <<< (128 - (c.prefixLen + 1)) =
        c.lo ||| BitVec.twoPow 64 (128 - (c.prefixLen + 1)) := add_twoPow_eq_or hclear
    simp only [splittingV6, hhalf, if_false, V6Prefix.bytes]
    rw [hset, ← zero_append_twoPow (v := 64) hk, BitVec.or_append, BitVec.or_zero]

/-- Subtracting a table of aligned IPv6 prefixes is prefix subtraction. -/
def splittingV6_sound {table : List V6Prefix} (htable : ∀ b ∈ table, b.toPrefix.Aligned) :
    (splittingV6 table).Sound (fun c a => c.hasAddr a = true)
      (fun a => table.any (fun b => b.hasAddr a) = true) :=
  have haligned : ∀ b ∈ table.map V6Prefix.toPrefix, b.Aligned := by
    intro b hb
    obtain ⟨p, hp, rfl⟩ := List.mem_map.1 hb
    exact htable p hp
  (Prefix.splitting_sound haligned).comap V6Prefix.toPrefix
    (fun _ _ => V6Prefix.hasAddr_iff)
    (fun a => by simp [V6Prefix.hasAddr_iff])
    (fun c => by
      simp only [splittingV6, Prefix.splitting, List.any_map, V6Prefix.contains_eq]
      rfl)
    (fun c => by
      simp only [splittingV6, Prefix.splitting, List.any_map, V6Prefix.contains_eq]
      rfl)
    (fun _ _ _ _ => rfl)
    (fun c hc hcov hstr =>
      splittingV6_high hc (Prefix.len_lt_of_straddles haligned hc hcov hstr))

lemma exists_complementV6 {table : List V6Prefix} (htable : ∀ b ∈ table, b.toPrefix.Aligned) :
    ∃ res, complementV6 table = some res := by
  refine Splitting.loop_terminates (splittingV6_sound htable) _ _ _ ?_ ?_
  · intro c hc
    rw [List.mem_singleton.1 hc]
    exact ⟨by decide, by decide⟩
  · show (2 ^ (128 + 1 - 0) - 1) + 0 ≤ 2 ^ 129
    omega

lemma kLocalBypassV6_aligned : ∀ b ∈ kLocalBypassV6, b.toPrefix.Aligned := by
  intro b hb
  simp only [kLocalBypassV6, List.mem_cons, List.not_mem_nil, or_false] at hb
  rcases hb with rfl | rfl | rfl <;> exact ⟨by decide, by decide⟩

/-- **The IPv6 route set is the complement of the bypass table.** -/
theorem countP_kTunCaptureV6 (a : BitVec 128) :
    kTunCaptureV6.countP (fun p => p.hasAddr a) =
      if kLocalBypassV6.any (fun b => b.hasAddr a) then 0 else 1 := by
  obtain ⟨res, hres⟩ := exists_complementV6 kLocalBypassV6_aligned
  have hcount := Splitting.loop_countP_root (splittingV6_sound kLocalBypassV6_aligned)
    ⟨0#64, 0#64, 0⟩ ⟨by decide, by decide⟩
    (fun a => by simp [V6Prefix.hasAddr, V6Prefix.hasHalves, maskHi6, maskLo6]) hres a
  rw [kTunCaptureV6, hres, Option.getD_some]
  simpa using hcount

example : kTunCaptureV6.length = 8 := by decide +kernel

lemma isLocalBypassV6_of_ne {a : BitVec 128} (h : a ≠ 1#128) :
    isLocalBypassV6 a = kLocalBypassV6.any (fun b => b.hasAddr a) := by
  have hne : ¬ (a.extractLsb' 64 64 = 0#64 ∧ a.extractLsb' 0 64 = 1#64) := by
    rintro ⟨hhi, hlo⟩
    apply h
    have ha := @BitVec.extractLsb'_append_extractLsb' 64 64 a
    rw [hhi, hlo] at ha
    rw [← ha]
    decide
  simp only [isLocalBypassV6, isLocalBypassV6Halves, V6Prefix.fromBytes, hne, if_false]
  rfl

end UrnetworkWindows.Net
