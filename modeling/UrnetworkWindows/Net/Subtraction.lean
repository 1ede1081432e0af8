/-
The subtraction of any table in place of the bypass tables (`NetPolicy.h`: `ComplementV4`,
`ComplementV6`).

The two loops run as the source runs them: the stack is an array of 64, and of 260, a node
of full length has no halves to shift to, and a null output counts without writing.
`complement_exact` says of every table of aligned prefixes that both loops return, and what
they return.
-/
import UrnetworkWindows.Lib.Subtraction
import UrnetworkWindows.Net.Policy

namespace UrnetworkWindows.Net

open Lib

/-- An address without bits below the prefix, of a length that exists. -/
structure V4Prefix.Aligned (p : V4Prefix) : Prop where
  prefixLen_le : p.prefixLen ≤ 32
  network_eq : p.network &&& prefixMask p.prefixLen = p.network

/-- The same for 128-bit prefixes, on the two halves. -/
structure V6Prefix.Aligned (p : V6Prefix) : Prop where
  prefixLen_le : p.prefixLen ≤ 128
  hi_eq : p.hi &&& maskHi6 p.prefixLen = p.hi
  lo_eq : p.lo &&& maskLo6 p.prefixLen = p.lo

/-- `ComplementV4`, with an output or with a null one.  The fuel is that of
`complementV4`. -/
def runComplementV4 (table : List V4Prefix) (out : Bool) : Splitting.ArrayRun V4Prefix :=
  (splittingV4 table).arrayLoop (fun cur => decide (32 ≤ cur.prefixLen)) 64 out (2 ^ 33)
    [⟨0#32, 0⟩] [] 0

/-- `ComplementV6`. -/
def runComplementV6 (table : List V6Prefix) (out : Bool) : Splitting.ArrayRun V6Prefix :=
  (splittingV6 table).arrayLoop (fun cur => decide (128 ≤ cur.prefixLen)) 260 out (2 ^ 129)
    [⟨0#64, 0#64, 0⟩] [] 0

lemma V4Prefix.Aligned.toPrefix {p : V4Prefix} (h : p.Aligned) : p.toPrefix.Aligned where
  len_le := h.prefixLen_le
  network_eq := by
    rw [← prefixMask_eq]
    exact h.network_eq

lemma V6Prefix.Aligned.toPrefix {p : V6Prefix} (h : p.Aligned) : p.toPrefix.Aligned where
  len_le := h.prefixLen_le
  network_eq := by
    show p.hi ++ p.lo &&& mask 128 p.prefixLen = p.hi ++ p.lo
    rw [← maskHi6_append_maskLo6, BitVec.and_append, h.hi_eq, h.lo_eq]

/-! ### IPv4 -/

section V4

variable {table : List V4Prefix} (htable : ∀ b ∈ table, b.Aligned)

lemma splittingV4_covered (c : V4Prefix) : (splittingV4 table).covered c =
    (Prefix.splitting (table.map V4Prefix.toPrefix)).covered c.toPrefix := by
  simp only [splittingV4, Prefix.splitting, List.any_map, V4Prefix.contains_eq]
  rfl

lemma splittingV4_straddles (c : V4Prefix) : (splittingV4 table).straddles c =
    (Prefix.splitting (table.map V4Prefix.toPrefix)).straddles c.toPrefix := by
  simp only [splittingV4, Prefix.splitting, List.any_map, V4Prefix.contains_eq]
  rfl

lemma rootV4_aligned : ∀ c ∈ [(⟨0#32, 0⟩ : V4Prefix)], c.toPrefix.Aligned := by
  intro c hc
  rw [List.mem_singleton.1 hc]
  exact ⟨by decide, by decide⟩

include htable

lemma aligned_map_toPrefixV4 : ∀ b ∈ table.map V4Prefix.toPrefix, b.Aligned := by
  intro b hb
  obtain ⟨p, hp, rfl⟩ := List.mem_map.1 hb
  exact (htable p hp).toPrefix

lemma complements_of_complementV4 {res : List V4Prefix} (hres : complementV4 table = some res) :
    Prefix.Complements (table.map V4Prefix.toPrefix) (res.map V4Prefix.toPrefix) := by
  have haligned := aligned_map_toPrefixV4 htable
  have hmap := Splitting.loop_map (Prefix.splitting_sound haligned) V4Prefix.toPrefix
    splittingV4_covered splittingV4_straddles (fun _ _ _ _ => rfl) (fun _ _ _ _ => rfl)
    (2 ^ 33) [⟨0#32, 0⟩] [] rootV4_aligned
  rw [complementV4] at hres
  rw [hres] at hmap
  exact Prefix.complements_of_loop haligned hmap

lemma prefixLen_lt_of_straddlesV4 {c : V4Prefix} (hc : c.toPrefix.Aligned)
    (hcov : (splittingV4 table).covered c = false) (hstr : (splittingV4 table).straddles c) :
    c.prefixLen < 32 := by
  rw [splittingV4_covered] at hcov
  rw [splittingV4_straddles] at hstr
  exact Prefix.len_lt_of_straddles (aligned_map_toPrefixV4 htable) hc hcov hstr

lemma runComplementV4_eq {res : List V4Prefix} (hres : complementV4 table = some res)
    (out : Bool) : runComplementV4 table out = .returned (if out then res else []) res.length := by
  have hwhole : ∀ c : V4Prefix, c.toPrefix.Aligned → (splittingV4 table).covered c = false →
      (splittingV4 table).straddles c → decide (32 ≤ c.prefixLen) = false := by
    intro c hc hcov hstr
    have hlt := prefixLen_lt_of_straddlesV4 htable hc hcov hstr
    rw [decide_eq_false_iff_not]
    omega
  have hrun := Splitting.arrayLoop_eq (splittingV4_sound fun b hb => (htable b hb).toPrefix)
    V4Prefix.prefixLen (show 32 + 2 ≤ 64 by omega) (fun _ => rfl) (fun _ => rfl) hwhole
    (fun _ hc => hc.len_le) out (2 ^ 33) [⟨0#32, 0⟩] [] res rootV4_aligned
    ⟨by simp, by simp⟩ hres
  rw [ite_self] at hrun
  exact hrun

end V4

/-! ### IPv6 -/

section V6

variable {table : List V6Prefix} (htable : ∀ b ∈ table, b.Aligned)

lemma splittingV6_covered (c : V6Prefix) : (splittingV6 table).covered c =
    (Prefix.splitting (table.map V6Prefix.toPrefix)).covered c.toPrefix := by
  simp only [splittingV6, Prefix.splitting, List.any_map, V6Prefix.contains_eq]
  rfl

lemma splittingV6_straddles (c : V6Prefix) : (splittingV6 table).straddles c =
    (Prefix.splitting (table.map V6Prefix.toPrefix)).straddles c.toPrefix := by
  simp only [splittingV6, Prefix.splitting, List.any_map, V6Prefix.contains_eq]
  rfl

lemma splittingV6_high_prefixLen (c : V6Prefix) :
    ((splittingV6 table).high c).prefixLen = c.prefixLen + 1 := by
  simp only [splittingV6]
  split_ifs <;> rfl

lemma rootV6_aligned : ∀ c ∈ [(⟨0#64, 0#64, 0⟩ : V6Prefix)], c.toPrefix.Aligned := by
  intro c hc
  rw [List.mem_singleton.1 hc]
  exact ⟨by decide, by decide⟩

include htable

lemma aligned_map_toPrefixV6 : ∀ b ∈ table.map V6Prefix.toPrefix, b.Aligned := by
  intro b hb
  obtain ⟨p, hp, rfl⟩ := List.mem_map.1 hb
  exact (htable p hp).toPrefix

lemma complements_of_complementV6 {res : List V6Prefix} (hres : complementV6 table = some res) :
    Prefix.Complements (table.map V6Prefix.toPrefix) (res.map V6Prefix.toPrefix) := by
  have haligned := aligned_map_toPrefixV6 htable
  have hmap := Splitting.loop_map (Prefix.splitting_sound haligned) V6Prefix.toPrefix
    splittingV6_covered splittingV6_straddles (fun _ _ _ _ => rfl)
    (fun _ hc hcov hstr =>
      splittingV6_high hc (Prefix.len_lt_of_straddles haligned hc hcov hstr))
    (2 ^ 129) [⟨0#64, 0#64, 0⟩] [] rootV6_aligned
  rw [complementV6] at hres
  rw [hres] at hmap
  exact Prefix.complements_of_loop haligned hmap

lemma prefixLen_lt_of_straddlesV6 {c : V6Prefix} (hc : c.toPrefix.Aligned)
    (hcov : (splittingV6 table).covered c = false) (hstr : (splittingV6 table).straddles c) :
    c.prefixLen < 128 := by
  rw [splittingV6_covered] at hcov
  rw [splittingV6_straddles] at hstr
  exact Prefix.len_lt_of_straddles (aligned_map_toPrefixV6 htable) hc hcov hstr

lemma runComplementV6_eq {res : List V6Prefix} (hres : complementV6 table = some res)
    (out : Bool) : runComplementV6 table out = .returned (if out then res else []) res.length := by
  have hwhole : ∀ c : V6Prefix, c.toPrefix.Aligned → (splittingV6 table).covered c = false →
      (splittingV6 table).straddles c → decide (128 ≤ c.prefixLen) = false := by
    intro c hc hcov hstr
    have hlt := prefixLen_lt_of_straddlesV6 htable hc hcov hstr
    rw [decide_eq_false_iff_not]
    omega
  have hrun := Splitting.arrayLoop_eq (splittingV6_sound fun b hb => (htable b hb).toPrefix)
    V6Prefix.prefixLen (show 128 + 2 ≤ 260 by omega) (fun _ => rfl) splittingV6_high_prefixLen
    hwhole (fun _ hc => hc.len_le) out (2 ^ 129) [⟨0#64, 0#64, 0⟩] [] res rootV6_aligned
    ⟨by simp, by simp⟩ hres
  rw [ite_self] at hrun
  exact hrun

end V6

/-! ### Both families -/

/-- **Prefix subtraction is exact, minimal and in bounds**: for tables of aligned prefixes
both loops return, the stack never overflows and no full-length node is split, what they
write is the complement of the table, and a null output counts what would be written. -/
theorem complement_exact (table4 : List V4Prefix) (table6 : List V6Prefix)
    (h4 : ∀ b ∈ table4, b.Aligned) (h6 : ∀ b ∈ table6, b.Aligned) :
    (∃ res, runComplementV4 table4 true = .returned res res.length ∧
      runComplementV4 table4 false = .returned [] res.length ∧
      Prefix.Complements (table4.map V4Prefix.toPrefix) (res.map V4Prefix.toPrefix)) ∧
    (∃ res, runComplementV6 table6 true = .returned res res.length ∧
      runComplementV6 table6 false = .returned [] res.length ∧
      Prefix.Complements (table6.map V6Prefix.toPrefix) (res.map V6Prefix.toPrefix)) := by
  obtain ⟨res4, hres4⟩ := exists_complementV4 fun b hb => (h4 b hb).toPrefix
  obtain ⟨res6, hres6⟩ := exists_complementV6 fun b hb => (h6 b hb).toPrefix
  refine ⟨⟨res4, ?_, ?_, complements_of_complementV4 h4 hres4⟩,
    ⟨res6, ?_, ?_, complements_of_complementV6 h6 hres6⟩⟩
  · exact runComplementV4_eq h4 hres4 true
  · exact runComplementV4_eq h4 hres4 false
  · exact runComplementV6_eq h6 hres6 true
  · exact runComplementV6_eq h6 hres6 false

/-- A table of two full-length neighbours, and one that splits on both sides of bit 64. -/
theorem complement_exact_two_hosts :
    (∃ res, runComplementV4 [⟨0x01020304#32, 32⟩, ⟨0x01020305#32, 32⟩] true =
        .returned res res.length ∧
      runComplementV4 [⟨0x01020304#32, 32⟩, ⟨0x01020305#32, 32⟩] false =
        .returned [] res.length ∧
      Prefix.Complements ([⟨0x01020304#32, 32⟩, ⟨0x01020305#32, 32⟩].map V4Prefix.toPrefix)
        (res.map V4Prefix.toPrefix)) ∧
    (∃ res, runComplementV6 [⟨0xFC00000000000000#64, 0#64, 7⟩, ⟨0#64, 1#64, 128⟩] true =
        .returned res res.length ∧
      runComplementV6 [⟨0xFC00000000000000#64, 0#64, 7⟩, ⟨0#64, 1#64, 128⟩] false =
        .returned [] res.length ∧
      Prefix.Complements
        ([⟨0xFC00000000000000#64, 0#64, 7⟩, ⟨0#64, 1#64, 128⟩].map V6Prefix.toPrefix)
        (res.map V6Prefix.toPrefix)) := by
  refine complement_exact _ _ (fun b hb => ?_) (fun b hb => ?_)
  · simp only [List.mem_cons, List.not_mem_nil, or_false] at hb
    rcases hb with rfl | rfl <;> exact ⟨by decide, by decide⟩
  · simp only [List.mem_cons, List.not_mem_nil, or_false] at hb
    rcases hb with rfl | rfl <;> exact ⟨by decide, by decide, by decide⟩

end UrnetworkWindows.Net
