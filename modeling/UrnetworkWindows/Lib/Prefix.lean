/-
Address prefixes over words of any width, and the subtraction of a table of
prefixes from a region by splitting.

A prefix `network/len` is the set of the words that agree with `network` on
their `len` highest bits.  Two prefixes are either nested or disjoint, and a
prefix that is not a single word is the disjoint union of its two halves.
Prefix subtraction rests on these two facts alone: a node that a prefix of the
table covers is dropped, a node that meets no prefix of the table is kept, and
any other node is replaced by its halves.

The loop is stated over an arbitrary type of nodes (`Splitting`), so that words
held in one machine word and words held in two share it.  The main results are

* `Splitting.loop_terminates`: the loop ends within the summed weight of its
  stack;
* `Splitting.loop_countP`: a word of the region lies in exactly one emitted node
  if it avoids the table, and in none if it does not.
-/
import Mathlib.Data.BitVec
import Mathlib.Tactic

namespace UrnetworkWindows.Lib

/-! ### Words -/

/-- Adding a power of two whose bit is clear sets that bit. -/
lemma add_twoPow_eq_or {w k : ℕ} {x : BitVec w} (h : x.getLsbD k = false) :
    x + BitVec.twoPow w k = x ||| BitVec.twoPow w k := by
  apply BitVec.add_eq_or_of_and_eq_zero
  apply BitVec.eq_of_getLsbD_eq
  intro i hi
  simp only [BitVec.getLsbD_and, BitVec.getLsbD_twoPow, BitVec.getLsbD_zero]
  by_cases hs : k = i
  · subst hs
    simp [h]
  · simp [hs]

lemma append_eq_append_iff {v w : ℕ} {x x' : BitVec v} {y y' : BitVec w} :
    x ++ y = x' ++ y' ↔ x = x' ∧ y = y' := by
  constructor
  · intro h
    have hl := congrArg (fun z => z.extractLsb' w v) h
    have hr := congrArg (fun z => z.extractLsb' 0 w) h
    simp only [BitVec.extractLsb'_append_eq_left, BitVec.extractLsb'_append_eq_right] at hl hr
    exact ⟨hl, hr⟩
  · rintro ⟨rfl, rfl⟩
    rfl

lemma twoPow_append_zero (v w k : ℕ) :
    BitVec.twoPow v k ++ 0#w = BitVec.twoPow (v + w) (w + k) := by
  apply BitVec.eq_of_getLsbD_eq
  intro i hi
  simp only [BitVec.getLsbD_append, BitVec.getLsbD_twoPow, BitVec.getLsbD_zero]
  by_cases hiw : i < w
  · have hne : ¬ w + k = i := by omega
    simp [hiw, hne]
  · by_cases hk : w + k = i
    · subst hk
      have hkv : k < v := by omega
      simp [hkv, hi]
    · have hk' : ¬ k = i - w := by omega
      simp [hiw, hk, hk']

lemma zero_append_twoPow {v w k : ℕ} (h : k < w) :
    0#v ++ BitVec.twoPow w k = BitVec.twoPow (v + w) k := by
  apply BitVec.eq_of_getLsbD_eq
  intro i hi
  simp only [BitVec.getLsbD_append, BitVec.getLsbD_twoPow, BitVec.getLsbD_zero]
  by_cases hki : k = i
  · subst hki
    simp [h]
    omega
  · simp [hki]

/-! ### Prefixes -/

/-- The word whose `len` highest bits are set. -/
def mask (w len : ℕ) : BitVec w := BitVec.allOnes w <<< (w - len)

/-- A prefix of `w`-bit words. -/
structure Prefix (w : ℕ) where
  /-- The address of the prefix. -/
  network : BitVec w
  /-- How many of its highest bits count. -/
  len : ℕ
deriving DecidableEq, Repr

namespace Prefix

variable {w : ℕ}

/-- The words of a prefix. -/
def Mem (p : Prefix w) (a : BitVec w) : Prop := a &&& mask w p.len = p.network

instance (p : Prefix w) (a : BitVec w) : Decidable (p.Mem a) :=
  inferInstanceAs (Decidable (_ = _))

/-- A prefix is aligned when its address has no bit below its length. -/
structure Aligned (p : Prefix w) : Prop where
  len_le : p.len ≤ w
  network_eq : p.network &&& mask w p.len = p.network

/-- `p` contains `q`, decided on the two addresses. -/
def Contains (p q : Prefix w) : Prop := p.len ≤ q.len ∧ q.network &&& mask w p.len = p.network

/-- The lower half of a prefix. -/
def low (p : Prefix w) : Prefix w := ⟨p.network, p.len + 1⟩

/-- The upper half of a prefix. -/
def high (p : Prefix w) : Prefix w := ⟨p.network + BitVec.twoPow w (w - (p.len + 1)), p.len + 1⟩

/-- The number of nodes of the binary tree under a prefix, which bounds the
work of a subtraction that starts at it. -/
def weight (p : Prefix w) : ℕ := 2 ^ (w + 1 - p.len) - 1

lemma getLsbD_mask {len i : ℕ} :
    (mask w len).getLsbD i = (decide (i < w) && decide (w - len ≤ i)) := by
  rw [mask, BitVec.getLsbD_shiftLeft, BitVec.getLsbD_allOnes]
  by_cases hi : i < w
  · by_cases hl : i < w - len
    · have hnot : ¬ w - len ≤ i := by omega
      simp [hl, hnot]
    · have hsub : i - (w - len) < w := by omega
      simp [hi, hl, hsub, Nat.le_of_not_lt hl]
  · simp [hi]

/-- Masking with a longer prefix first changes nothing. -/
lemma and_mask_and_mask {l l' : ℕ} (h : l ≤ l') (a : BitVec w) :
    a &&& mask w l' &&& mask w l = a &&& mask w l := by
  apply BitVec.eq_of_getLsbD_eq
  intro i hi
  simp only [BitVec.getLsbD_and, getLsbD_mask]
  by_cases hl : w - l ≤ i
  · have hl' : w - l' ≤ i := by omega
    simp [hi, hl, hl']
  · simp [hl]

/-- A word of the contained prefix is a word of the containing one. -/
lemma Contains.mem {p q : Prefix w} (h : p.Contains q) {a : BitVec w} (ha : q.Mem a) :
    p.Mem a := by
  have hq : a &&& mask w q.len = q.network := ha
  show a &&& mask w p.len = p.network
  rw [← h.2, ← hq, and_mask_and_mask h.1]

/-- Two prefixes that share a word are nested. -/
lemma contains_of_mem {p q : Prefix w} {a : BitVec w} (hp : p.Mem a) (hq : q.Mem a)
    (hlen : p.len ≤ q.len) : p.Contains q := by
  have hp' : a &&& mask w p.len = p.network := hp
  have hq' : a &&& mask w q.len = q.network := hq
  exact ⟨hlen, by rw [← hq', and_mask_and_mask hlen, hp']⟩

variable {p : Prefix w}

/-- The bit at which a prefix splits is clear in its address. -/
lemma Aligned.getLsbD_split (h : p.Aligned) (hlt : p.len < w) :
    p.network.getLsbD (w - (p.len + 1)) = false := by
  rw [← h.network_eq, BitVec.getLsbD_and, getLsbD_mask]
  have : ¬ w - p.len ≤ w - (p.len + 1) := by omega
  simp [this]

lemma high_network (h : p.Aligned) (hlt : p.len < w) :
    p.high.network = p.network ||| BitVec.twoPow w (w - (p.len + 1)) :=
  add_twoPow_eq_or (h.getLsbD_split hlt)

/-- The lower half of a prefix: its words whose splitting bit is clear. -/
lemma mem_low (h : p.Aligned) (hlt : p.len < w) {a : BitVec w} :
    p.low.Mem a ↔ p.Mem a ∧ a.getLsbD (w - (p.len + 1)) = false := by
  have hsplit := h.getLsbD_split hlt
  constructor
  · intro ha
    have ha' : a &&& mask w (p.len + 1) = p.network := ha
    refine ⟨?_, ?_⟩
    · show a &&& mask w p.len = p.network
      rw [← and_mask_and_mask (Nat.le_succ p.len), ha', h.network_eq]
    · have hbit := congrArg (fun x => x.getLsbD (w - (p.len + 1))) ha'
      have hi : w - (p.len + 1) < w := by omega
      simpa only [BitVec.getLsbD_and, getLsbD_mask, hi, hsplit, decide_true, le_refl,
        Bool.and_true] using hbit
  · rintro ⟨ha, hbit⟩
    have ha' : a &&& mask w p.len = p.network := ha
    show a &&& mask w (p.len + 1) = p.network
    apply BitVec.eq_of_getLsbD_eq
    intro i hi
    have hold := congrArg (fun x => x.getLsbD i) ha'
    simp only [BitVec.getLsbD_and, getLsbD_mask, hi, decide_true, Bool.true_and] at hold ⊢
    by_cases hs : i = w - (p.len + 1)
    · subst hs
      simp [hbit, hsplit]
    · rw [← hold]
      have : (w - (p.len + 1) ≤ i) ↔ (w - p.len ≤ i) := by omega
      simp [this]

/-- The upper half of a prefix: its words whose splitting bit is set. -/
lemma mem_high (h : p.Aligned) (hlt : p.len < w) {a : BitVec w} :
    p.high.Mem a ↔ p.Mem a ∧ a.getLsbD (w - (p.len + 1)) = true := by
  have hsplit := h.getLsbD_split hlt
  have hi' : w - (p.len + 1) < w := by omega
  constructor
  · intro ha
    have ha' : a &&& mask w (p.len + 1) = p.high.network := ha
    rw [high_network h hlt] at ha'
    refine ⟨?_, ?_⟩
    · show a &&& mask w p.len = p.network
      apply BitVec.eq_of_getLsbD_eq
      intro i hi
      have hbit := congrArg (fun x => x.getLsbD i) ha'
      have hal := congrArg (fun x => x.getLsbD i) h.network_eq
      simp only [BitVec.getLsbD_and, BitVec.getLsbD_or, BitVec.getLsbD_twoPow, getLsbD_mask, hi,
        decide_true, Bool.true_and] at hbit hal ⊢
      by_cases hl : w - p.len ≤ i
      · have hl' : w - (p.len + 1) ≤ i := by omega
        have hne : ¬ w - (p.len + 1) = i := by omega
        simpa [hl, hl', hne] using hbit
      · simpa [hl] using hal
    · have hbit := congrArg (fun x => x.getLsbD (w - (p.len + 1))) ha'
      simpa only [BitVec.getLsbD_and, BitVec.getLsbD_or, BitVec.getLsbD_twoPow, getLsbD_mask,
        hi', hsplit, decide_true, le_refl, Bool.and_true, Bool.false_or] using hbit
  · rintro ⟨ha, hbit⟩
    have ha' : a &&& mask w p.len = p.network := ha
    show a &&& mask w (p.len + 1) = p.high.network
    rw [high_network h hlt]
    apply BitVec.eq_of_getLsbD_eq
    intro i hi
    have hold := congrArg (fun x => x.getLsbD i) ha'
    simp only [BitVec.getLsbD_and, BitVec.getLsbD_or, BitVec.getLsbD_twoPow, getLsbD_mask, hi,
      decide_true, Bool.true_and] at hold ⊢
    by_cases hs : i = w - (p.len + 1)
    · subst hs
      simp only [hbit, hi', decide_true, le_refl, Bool.and_true, Bool.or_true]
    · rw [← hold]
      have hiff : (w - (p.len + 1) ≤ i) ↔ (w - p.len ≤ i) := by omega
      have hne : ¬ w - (p.len + 1) = i := fun hh => hs hh.symm
      simp [hiff, hne]

lemma Aligned.low (h : p.Aligned) (hlt : p.len < w) : p.low.Aligned := by
  refine ⟨hlt, ?_⟩
  have hmem : p.low.Mem p.network := (mem_low h hlt).2 ⟨h.network_eq, h.getLsbD_split hlt⟩
  exact hmem

lemma Aligned.high (h : p.Aligned) (hlt : p.len < w) : p.high.Aligned := by
  have hi' : w - (p.len + 1) < w := by omega
  refine ⟨hlt, (mem_high h hlt).2 ⟨?_, ?_⟩⟩
  · show p.high.network &&& mask w p.len = p.network
    rw [high_network h hlt]
    apply BitVec.eq_of_getLsbD_eq
    intro i hi
    have hal := congrArg (fun x => x.getLsbD i) h.network_eq
    simp only [BitVec.getLsbD_and, BitVec.getLsbD_or, BitVec.getLsbD_twoPow, getLsbD_mask, hi,
      decide_true, Bool.true_and] at hal ⊢
    by_cases hl : w - p.len ≤ i
    · have hne : ¬ w - (p.len + 1) = i := by omega
      simp [hl, hne]
    · simpa [hl] using hal
  · rw [high_network h hlt]
    simp [hi']

lemma weight_low_add_weight_high (hlt : p.len < w) : p.low.weight + p.high.weight < p.weight := by
  have hexp : w + 1 - p.len = (w + 1 - (p.len + 1)) + 1 := by omega
  have hpos : 0 < 2 ^ (w + 1 - (p.len + 1)) := Nat.pow_pos (by omega)
  simp only [weight, low, high]
  rw [hexp, Nat.pow_succ]
  omega

lemma weight_pos (h : p.len ≤ w) : 0 < p.weight := by
  have hpow : 2 ^ 1 ≤ 2 ^ (w + 1 - p.len) := Nat.pow_le_pow_right (by omega) (by omega)
  simp only [weight]
  omega

end Prefix

/-! ### Subtraction by splitting -/

/-- The questions and the halves prefix subtraction asks of a node. -/
structure Splitting (α : Type*) where
  /-- A prefix of the table covers the node. -/
  covered : α → Bool
  /-- The node contains a prefix of the table. -/
  straddles : α → Bool
  /-- The two halves. -/
  low : α → α
  high : α → α

namespace Splitting

variable {α β : Type*}

/-- The subtraction loop, on an explicit stack whose top is the head of the
list.  The high half is pushed first, so that the low half pops first and the
output comes out in order.  `none` means that the fuel ran out. -/
def loop (S : Splitting α) : ℕ → List α → List α → Option (List α)
  | _, [], out => some out
  | 0, _ :: _, _ => none
  | n + 1, cur :: stack, out =>
      if S.covered cur then S.loop n stack out
      else if !S.straddles cur then S.loop n stack (out ++ [cur])
      else S.loop n (S.low cur :: S.high cur :: stack) out

/-- What makes a splitting subtract `table` from a region: on well-formed nodes
the two questions are answered by the sets of words, a node that is split is
the disjoint union of its halves, and splitting loses weight. -/
structure Sound (S : Splitting α) (mem : α → β → Prop) (table : β → Prop) where
  /-- The nodes the loop meets. -/
  wf : α → Prop
  /-- A bound on the work under a node. -/
  weight : α → ℕ
  weight_pos : ∀ {cur}, wf cur → 0 < weight cur
  mem_table : ∀ {cur a}, wf cur → S.covered cur → mem cur a → table a
  not_mem_table : ∀ {cur a}, wf cur → S.covered cur = false → S.straddles cur = false →
    mem cur a → ¬ table a
  wf_split : ∀ {cur}, wf cur → S.covered cur = false → S.straddles cur → wf (S.low cur) ∧
    wf (S.high cur)
  mem_split : ∀ {cur a}, wf cur → S.covered cur = false → S.straddles cur →
    (mem cur a ↔ mem (S.low cur) a ∨ mem (S.high cur) a)
  disjoint : ∀ {cur a}, wf cur → S.covered cur = false → S.straddles cur →
    ¬ (mem (S.low cur) a ∧ mem (S.high cur) a)
  weight_split : ∀ {cur}, wf cur → S.covered cur = false → S.straddles cur →
    weight (S.low cur) + weight (S.high cur) < weight cur

variable {S : Splitting α} {mem : α → β → Prop} {table : β → Prop}

/-- The loop ends within the summed weight of its stack. -/
theorem loop_terminates (h : S.Sound mem table) :
    ∀ (n : ℕ) (stack out : List α), (∀ c ∈ stack, h.wf c) → (stack.map h.weight).sum ≤ n →
      ∃ res, S.loop n stack out = some res := by
  intro n
  induction n with
  | zero =>
    intro stack out hwf hsum
    cases stack with
    | nil => exact ⟨out, rfl⟩
    | cons cur stack =>
      have hpos := h.weight_pos (hwf cur (by simp))
      simp only [List.map_cons, List.sum_cons] at hsum
      omega
  | succ n ih =>
    intro stack out hwf hsum
    cases stack with
    | nil => exact ⟨out, rfl⟩
    | cons cur stack =>
      have hcur : h.wf cur := hwf cur (by simp)
      have hstack : ∀ c ∈ stack, h.wf c := fun c hc => hwf c (by simp [hc])
      have hpos := h.weight_pos hcur
      simp only [List.map_cons, List.sum_cons] at hsum
      rw [loop]
      split_ifs with hcov hstr
      · exact ih stack out hstack (by omega)
      · exact ih stack (out ++ [cur]) hstack (by omega)
      · have hcov' : S.covered cur = false := by simpa using hcov
        have hstr' : S.straddles cur = true := by simpa using hstr
        have hlt := h.weight_split hcur hcov' hstr'
        obtain ⟨hl, hh⟩ := h.wf_split hcur hcov' hstr'
        refine ih (S.low cur :: S.high cur :: stack) out ?_ ?_
        · simpa using ⟨hl, hh, hstack⟩
        · simp only [List.map_cons, List.sum_cons]
          omega

/-- The loop's invariant.  A word of the table is never emitted, and for any
other word the emitted nodes and the nodes still on the stack that hold it do
not change in number. -/
theorem loop_countP [∀ c a, Decidable (mem c a)] [DecidablePred table]
    (h : S.Sound mem table) (a : β) :
    ∀ (n : ℕ) (stack out res : List α), (∀ c ∈ stack, h.wf c) →
      S.loop n stack out = some res →
      res.countP (fun c => mem c a) =
        out.countP (fun c => mem c a) +
          if table a then 0 else stack.countP (fun c => mem c a) := by
  intro n
  induction n with
  | zero =>
    intro stack out res hwf hres
    cases stack with
    | nil =>
      obtain rfl : out = res := by simpa [loop] using hres
      simp
    | cons cur stack => simp [loop] at hres
  | succ n ih =>
    intro stack out res hwf hres
    cases stack with
    | nil =>
      obtain rfl : out = res := by simpa [loop] using hres
      simp
    | cons cur stack =>
      have hcur : h.wf cur := hwf cur (by simp)
      have hstack : ∀ c ∈ stack, h.wf c := fun c hc => hwf c (by simp [hc])
      rw [loop] at hres
      split_ifs at hres with hcov hstr
      · -- a covered node: its words are all in the table
        rw [ih stack out res hstack hres]
        by_cases ht : table a
        · simp [ht]
        · have hna : ¬ mem cur a := fun hm => ht (h.mem_table hcur hcov hm)
          simp [ht, hna]
      · -- a node clear of the table moves from the stack to the output
        rw [ih stack (out ++ [cur]) res hstack hres]
        have hcov' : S.covered cur = false := by simpa using hcov
        have hstr' : S.straddles cur = false := by simpa using hstr
        by_cases ht : table a
        · have hna : ¬ mem cur a := fun hm => h.not_mem_table hcur hcov' hstr' hm ht
          simp [ht, hna]
        · simp only [ht, if_false, List.countP_append, List.countP_cons, List.countP_nil]
          omega
      · -- a straddling node is replaced by its halves
        have hcov' : S.covered cur = false := by simpa using hcov
        have hstr' : S.straddles cur = true := by simpa using hstr
        obtain ⟨hl, hh⟩ := h.wf_split hcur hcov' hstr'
        have hwf' : ∀ c ∈ S.low cur :: S.high cur :: stack, h.wf c := by
          simpa using ⟨hl, hh, hstack⟩
        rw [ih _ out res hwf' hres]
        have hsplit := h.mem_split (a := a) hcur hcov' hstr'
        have hdisj := h.disjoint (a := a) hcur hcov' hstr'
        simp only [List.countP_cons]
        by_cases hm₁ : mem (S.low cur) a <;> by_cases hm₂ : mem (S.high cur) a <;>
          simp_all

/-- Started at one node that holds every word, the loop emits exactly one node
for each word outside the table and none for a word of it. -/
theorem loop_countP_root [∀ c a, Decidable (mem c a)] [DecidablePred table]
    (h : S.Sound mem table) (root : α) (hwf : h.wf root) (hroot : ∀ a, mem root a)
    {n : ℕ} {res : List α} (hres : S.loop n [root] [] = some res) (a : β) :
    res.countP (fun c => mem c a) = if table a then 0 else 1 := by
  have hcount := loop_countP h a n [root] [] res (by simpa using hwf) hres
  simpa [hroot a] using hcount

/-- A splitting whose nodes are other names for the nodes of a sound splitting
is sound. -/
def Sound.comap {γ : Type*} {T : Splitting γ} {mem : γ → β → Prop} {table : β → Prop}
    (h : T.Sound mem table) (f : α → γ) {mem' : α → β → Prop} {table' : β → Prop}
    (hmem : ∀ c a, mem' c a ↔ mem (f c) a) (htable : ∀ a, table' a ↔ table a)
    (hcov : ∀ c, S.covered c = T.covered (f c))
    (hstr : ∀ c, S.straddles c = T.straddles (f c))
    (hlow : ∀ c, h.wf (f c) → T.covered (f c) = false → T.straddles (f c) →
      f (S.low c) = T.low (f c))
    (hhigh : ∀ c, h.wf (f c) → T.covered (f c) = false → T.straddles (f c) →
      f (S.high c) = T.high (f c)) :
    S.Sound mem' table' where
  wf := fun c => h.wf (f c)
  weight := fun c => h.weight (f c)
  weight_pos := fun hc => h.weight_pos hc
  mem_table := fun {c a} hc hs hm =>
    (htable a).2 (h.mem_table hc (by rw [← hcov c]; exact hs) ((hmem c a).1 hm))
  not_mem_table := fun {c a} hc hs hs' hm ht =>
    h.not_mem_table hc (by rw [← hcov c]; exact hs) (by rw [← hstr c]; exact hs')
      ((hmem c a).1 hm) ((htable a).1 ht)
  wf_split := fun {c} hc hs hs' => by
    rw [hcov c] at hs
    rw [hstr c] at hs'
    rw [hlow c hc hs hs', hhigh c hc hs hs']
    exact h.wf_split hc hs hs'
  mem_split := fun {c a} hc hs hs' => by
    rw [hcov c] at hs
    rw [hstr c] at hs'
    rw [hmem, hmem, hmem, hlow c hc hs hs', hhigh c hc hs hs']
    exact h.mem_split hc hs hs'
  disjoint := fun {c a} hc hs hs' => by
    rw [hcov c] at hs
    rw [hstr c] at hs'
    rw [hmem, hmem, hlow c hc hs hs', hhigh c hc hs hs']
    exact h.disjoint hc hs hs'
  weight_split := fun {c} hc hs hs' => by
    rw [hcov c] at hs
    rw [hstr c] at hs'
    rw [hlow c hc hs hs', hhigh c hc hs hs']
    exact h.weight_split hc hs hs'

end Splitting

/-! ### Subtraction of prefixes -/

namespace Prefix

variable {w : ℕ}

instance (p q : Prefix w) : Decidable (p.Contains q) :=
  inferInstanceAs (Decidable (_ ∧ _))

/-- The splitting that subtracts a table of prefixes. -/
def splitting (table : List (Prefix w)) : Splitting (Prefix w) where
  covered := fun cur => table.any fun b => b.Contains cur
  straddles := fun cur => table.any fun b => cur.Contains b
  low := Prefix.low
  high := Prefix.high

/-- A node that straddles a prefix of the table and is covered by none is not a
single word: a prefix of full length contains only itself. -/
lemma len_lt_of_straddles {table : List (Prefix w)} (htable : ∀ b ∈ table, b.Aligned)
    {cur : Prefix w} (hcur : cur.Aligned) (hcov : (splitting table).covered cur = false)
    (hstr : (splitting table).straddles cur) : cur.len < w := by
  simp only [splitting, List.any_eq_true, decide_eq_true_eq] at hstr
  obtain ⟨b, hb, hcont⟩ := hstr
  by_contra hge
  have hlen : cur.len = w := le_antisymm hcur.len_le (by omega)
  have hblen : b.len = w := le_antisymm (htable b hb).len_le (by have := hcont.1; omega)
  have hmem : cur.Mem b.network := hcont.2
  have hself : b.Mem b.network := (htable b hb).network_eq
  have : b.Contains cur := contains_of_mem hself hmem (by omega)
  simp only [splitting, List.any_eq_false, decide_eq_true_eq] at hcov
  exact hcov b hb this

/-- Prefix subtraction is sound for every table of aligned prefixes. -/
def splitting_sound {table : List (Prefix w)} (htable : ∀ b ∈ table, b.Aligned) :
    (splitting table).Sound Prefix.Mem (fun a => ∃ b ∈ table, b.Mem a) where
  wf := Aligned
  weight := weight
  weight_pos := fun h => weight_pos h.len_le
  mem_table := by
    intro cur a _ hcov hmem
    simp only [splitting, List.any_eq_true, decide_eq_true_eq] at hcov
    obtain ⟨b, hb, hcont⟩ := hcov
    exact ⟨b, hb, hcont.mem hmem⟩
  not_mem_table := by
    rintro cur a _ hcov hstr hmem ⟨b, hb, hbmem⟩
    simp only [splitting, List.any_eq_false, decide_eq_true_eq] at hcov hstr
    -- two prefixes with a common word are nested one way or the other
    rcases Nat.le_total b.len cur.len with hle | hle
    · exact hcov b hb (contains_of_mem hbmem hmem hle)
    · exact hstr b hb (contains_of_mem hmem hbmem hle)
  wf_split := fun hcur hcov hstr =>
    have hlt := len_lt_of_straddles htable hcur hcov hstr
    ⟨hcur.low hlt, hcur.high hlt⟩
  mem_split := by
    intro cur a hcur hcov hstr
    have hlt := len_lt_of_straddles htable hcur hcov hstr
    show cur.Mem a ↔ cur.low.Mem a ∨ cur.high.Mem a
    rw [mem_low hcur hlt, mem_high hcur hlt]
    cases a.getLsbD (w - (cur.len + 1)) <;> simp
  disjoint := by
    rintro cur a hcur hcov hstr ⟨hl, hh⟩
    have hlt := len_lt_of_straddles htable hcur hcov hstr
    have hl' := ((mem_low hcur hlt).1 hl).2
    rw [((mem_high hcur hlt).1 hh).2] at hl'
    exact absurd hl' (by simp)
  weight_split := fun hcur hcov hstr =>
    weight_low_add_weight_high (len_lt_of_straddles htable hcur hcov hstr)

end Prefix

end UrnetworkWindows.Lib
