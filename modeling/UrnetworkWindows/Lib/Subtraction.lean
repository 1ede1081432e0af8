/-
Prefix subtraction in order, without redundancy, and on a stack of fixed size.

`Splitting.loop` keeps its stack as a list.  Here the loop runs as a program does, with
the stack in an array of so many slots and an output that may be counted only
(`Splitting.arrayLoop`): a push past the last slot and the split of a node that has no
halves end it.  The nodes below the top of the stack get strictly coarser, so the stack
never holds more than two nodes beyond the greatest depth (`Stacked.length_le`), and
`Splitting.arrayLoop_eq` says that the array changes nothing.

`Prefix.complements_of_loop` is what the loop emits for a table of aligned prefixes: the
complement of the table in aligned prefixes, from low to high, no two of them the halves of
one prefix.
-/
import Mathlib.Data.Nat.Bitwise
import UrnetworkWindows.Lib.Prefix

namespace UrnetworkWindows.Lib

namespace Splitting

variable {α β γ : Type*}

/-! ### The invariant rule -/

/-- What the three steps of the loop keep holds of what it returns. -/
theorem loop_invariant {S : Splitting α} (inv : List α → List α → Prop)
    (hdrop : ∀ {cur stack out}, inv (cur :: stack) out → S.covered cur → inv stack out)
    (hkeep : ∀ {cur stack out}, inv (cur :: stack) out → S.covered cur = false →
      S.straddles cur = false → inv stack (out ++ [cur]))
    (hsplit : ∀ {cur stack out}, inv (cur :: stack) out → S.covered cur = false →
      S.straddles cur → inv (S.low cur :: S.high cur :: stack) out) :
    ∀ (n : ℕ) (stack out res : List α), inv stack out → S.loop n stack out = some res →
      inv [] res := by
  intro n
  induction n with
  | zero =>
    intro stack out res hinv hres
    cases stack with
    | nil =>
      obtain rfl : out = res := by simpa [loop] using hres
      exact hinv
    | cons cur stack => simp [loop] at hres
  | succ n ih =>
    intro stack out res hinv hres
    cases stack with
    | nil =>
      obtain rfl : out = res := by simpa [loop] using hres
      exact hinv
    | cons cur stack =>
      rw [loop] at hres
      split_ifs at hres with hcov hstr
      · exact ih _ _ _ (hdrop hinv hcov) hres
      · exact ih _ _ _ (hkeep hinv (by simpa using hcov) (by simpa using hstr)) hres
      · exact ih _ _ _ (hsplit hinv (by simpa using hcov) (by simpa using hstr)) hres

/-- A loop whose nodes are other names for the nodes of a sound splitting emits the same
nodes under other names. -/
theorem loop_map {S : Splitting α} {T : Splitting γ} {mem : γ → β → Prop} {table : β → Prop}
    (h : T.Sound mem table) (f : α → γ)
    (hcov : ∀ c, S.covered c = T.covered (f c))
    (hstr : ∀ c, S.straddles c = T.straddles (f c))
    (hlow : ∀ c, h.wf (f c) → T.covered (f c) = false → T.straddles (f c) →
      f (S.low c) = T.low (f c))
    (hhigh : ∀ c, h.wf (f c) → T.covered (f c) = false → T.straddles (f c) →
      f (S.high c) = T.high (f c)) :
    ∀ (n : ℕ) (stack out : List α), (∀ c ∈ stack, h.wf (f c)) →
      T.loop n (stack.map f) (out.map f) = (S.loop n stack out).map (List.map f) := by
  intro n
  induction n with
  | zero =>
    intro stack out _
    cases stack <;> rfl
  | succ n ih =>
    intro stack out hwf
    cases stack with
    | nil => rfl
    | cons cur stack =>
      have hcur : h.wf (f cur) := hwf cur (by simp)
      have hstack : ∀ c ∈ stack, h.wf (f c) := fun c hc => hwf c (by simp [hc])
      rw [List.map_cons, loop, loop, hcov cur, hstr cur]
      split_ifs with hc hs
      · exact ih stack out hstack
      · have hout : out.map f ++ [f cur] = (out ++ [cur]).map f := by simp
        rw [hout]
        exact ih stack (out ++ [cur]) hstack
      · have hc' : T.covered (f cur) = false := by simpa using hc
        have hs' : T.straddles (f cur) = true := by simpa using hs
        obtain ⟨hwl, hwh⟩ := h.wf_split hcur hc' hs'
        rw [← hlow cur hcur hc' hs'] at hwl
        rw [← hhigh cur hcur hc' hs'] at hwh
        have hnew : T.low (f cur) :: T.high (f cur) :: stack.map f =
            (S.low cur :: S.high cur :: stack).map f := by
          rw [← hlow cur hcur hc' hs', ← hhigh cur hcur hc' hs', List.map_cons, List.map_cons]
        rw [hnew]
        refine ih (S.low cur :: S.high cur :: stack) out fun c hcm => ?_
        rcases List.mem_cons.1 hcm with rfl | hcm
        · exact hwl
        · rcases List.mem_cons.1 hcm with rfl | hcm
          · exact hwh
          · exact hstack c hcm

/-! ### The stack as an array -/

/-- How a run of the loop ends. -/
inductive ArrayRun (α : Type*)
  /-- It returned: the nodes it wrote, and how many it counted. -/
  | returned (written : List α) (count : ℕ)
  /-- A node was pushed past the last slot. -/
  | overflowed
  /-- A node without halves was split. -/
  | splitWhole
  /-- It goes on. -/
  | running
deriving DecidableEq, Repr

/-- The loop with its stack in an array of `slots` places; `whole` are the nodes without
halves, and without an output the nodes are counted only. -/
def arrayLoop (S : Splitting α) (whole : α → Bool) (slots : ℕ) (writes : Bool) :
    ℕ → List α → List α → ℕ → ArrayRun α
  | _, [], out, count => .returned out count
  | 0, _ :: _, _, _ => .running
  | n + 1, cur :: stack, out, count =>
      if S.covered cur then S.arrayLoop whole slots writes n stack out count
      else if !S.straddles cur then
        S.arrayLoop whole slots writes n stack (if writes then out ++ [cur] else out) (count + 1)
      else if whole cur then .splitWhole
      else if slots < stack.length + 2 then .overflowed
      else S.arrayLoop whole slots writes n (S.low cur :: S.high cur :: stack) out count

/-- The depths of a stack, top first: they never grow, and below the top they fall. -/
structure Stacked (depths : List ℕ) : Prop where
  sorted : depths.Pairwise (· ≥ ·)
  strict : depths.tail.Pairwise (· > ·)

lemma length_le_of_pairwise_gt {depths : List ℕ} (h : depths.Pairwise (· > ·)) {bound : ℕ}
    (hbound : ∀ d ∈ depths, d ≤ bound) : depths.length ≤ bound + 1 := by
  induction depths generalizing bound with
  | nil => simp
  | cons d depths ih =>
    rw [List.pairwise_cons] at h
    have hd : d ≤ bound := hbound d (by simp)
    cases d with
    | zero =>
      have hnil : depths = [] := by
        rw [List.eq_nil_iff_forall_not_mem]
        intro e he
        exact absurd (h.1 e he) (by omega)
      simp [hnil]
    | succ d =>
      have hrest := @ih h.2 d (fun e he => by have := h.1 e he; omega)
      rw [List.length_cons]
      omega

namespace Stacked

variable {d bound : ℕ} {depths : List ℕ}

lemma pop (h : Stacked (d :: depths)) : Stacked depths where
  sorted := (List.pairwise_cons.1 h.sorted).2
  strict := List.Pairwise.sublist (List.tail_sublist depths) h.strict

lemma split (h : Stacked (d :: depths)) : Stacked ((d + 1) :: (d + 1) :: depths) := by
  obtain ⟨htop, hrest⟩ := List.pairwise_cons.1 h.sorted
  have hle : ∀ e ∈ depths, e ≤ d := htop
  refine ⟨?_, ?_⟩
  · refine List.pairwise_cons.2 ⟨fun e he => ?_, List.pairwise_cons.2 ⟨fun e he => ?_, hrest⟩⟩
    · rcases List.mem_cons.1 he with rfl | he
      · exact le_rfl
      · exact (hle e he).trans (Nat.le_succ d)
    · exact (hle e he).trans (Nat.le_succ d)
  · exact List.pairwise_cons.2 ⟨fun e he => Nat.lt_succ_of_le (hle e he), h.strict⟩

/-- A stack holds at most two nodes more than the greatest depth. -/
lemma length_le (h : Stacked depths) (hbound : ∀ e ∈ depths, e ≤ bound) :
    depths.length ≤ bound + 2 := by
  have htail := length_le_of_pairwise_gt h.strict fun e he =>
    hbound e (List.mem_of_mem_tail he)
  rw [List.length_tail] at htail
  omega

end Stacked

/-- The array changes nothing: with two slots more than the greatest depth the loop returns
what it returns on a list, and counts what it would write. -/
theorem arrayLoop_eq {S : Splitting α} {mem : α → β → Prop} {table : β → Prop}
    (h : S.Sound mem table) {whole : α → Bool} (depth : α → ℕ) {bound slots : ℕ}
    (hslots : bound + 2 ≤ slots)
    (hlow : ∀ c, depth (S.low c) = depth c + 1) (hhigh : ∀ c, depth (S.high c) = depth c + 1)
    (hwhole : ∀ c, h.wf c → S.covered c = false → S.straddles c → whole c = false)
    (hbound : ∀ c, h.wf c → depth c ≤ bound) (writes : Bool) :
    ∀ (n : ℕ) (stack out res : List α), (∀ c ∈ stack, h.wf c) → Stacked (stack.map depth) →
      S.loop n stack out = some res →
      S.arrayLoop whole slots writes n stack (if writes then out else []) out.length =
        .returned (if writes then res else []) res.length := by
  intro n
  induction n with
  | zero =>
    intro stack out res _ _ hres
    cases stack with
    | nil =>
      obtain rfl : out = res := by simpa [loop] using hres
      rfl
    | cons cur stack => simp [loop] at hres
  | succ n ih =>
    intro stack out res hwf hstacked hres
    cases stack with
    | nil =>
      obtain rfl : out = res := by simpa [loop] using hres
      rfl
    | cons cur stack =>
      have hcur : h.wf cur := hwf cur (by simp)
      have hstack : ∀ c ∈ stack, h.wf c := fun c hc => hwf c (by simp [hc])
      rw [List.map_cons] at hstacked
      rw [loop] at hres
      rw [arrayLoop]
      split_ifs at hres with hcov hstr
      · rw [if_pos hcov]
        exact ih stack out res hstack hstacked.pop hres
      · rw [if_neg hcov, if_pos hstr]
        have hnext := ih stack (out ++ [cur]) res hstack hstacked.pop hres
        rw [List.length_append, List.length_singleton] at hnext
        cases writes <;> exact hnext
      · have hcov' : S.covered cur = false := by simpa using hcov
        have hstr' : S.straddles cur = true := by simpa using hstr
        obtain ⟨hwl, hwh⟩ := h.wf_split hcur hcov' hstr'
        have hnew : ∀ c ∈ S.low cur :: S.high cur :: stack, h.wf c := by
          simpa using ⟨hwl, hwh, hstack⟩
        have hdepths : Stacked ((S.low cur :: S.high cur :: stack).map depth) := by
          rw [List.map_cons, List.map_cons, hlow, hhigh]
          exact hstacked.split
        -- the two new nodes have their slots
        have hdeep : ∀ e ∈ (S.low cur :: S.high cur :: stack).map depth, e ≤ bound := by
          intro e he
          obtain ⟨c, hc, rfl⟩ := List.mem_map.1 he
          exact hbound c (hnew c hc)
        have hroom := hdepths.length_le hdeep
        simp only [List.map_cons, List.length_cons, List.length_map] at hroom
        rw [if_neg hcov, if_neg hstr, hwhole cur hcur hcov' hstr', if_neg (by simp),
          if_neg (by omega)]
        exact ih _ out res hnew hdepths hres

end Splitting

/-! ### What is emitted -/

namespace Prefix

variable {w : ℕ}

/-- All words of `p` are below all words of `q`. -/
def Below (p q : Prefix w) : Prop := ∀ a b, p.Mem a → q.Mem b → a < b

/-- The prefix that `p` is a half of. -/
def parent (p : Prefix w) : Prefix w := ⟨p.network &&& mask w (p.len - 1), p.len - 1⟩

/-- The two halves of one prefix. -/
structure Siblings (p q : Prefix w) : Prop where
  ne : p ≠ q
  len_pos : 0 < p.len
  len_eq : q.len = p.len
  parent_eq : q.parent = p.parent

/-- The complement of a table: in aligned prefixes, disjoint and from low to high, and as
few as there can be. -/
structure Complements (table res : List (Prefix w)) : Prop where
  aligned : ∀ p ∈ res, p.Aligned
  ascending : res.Pairwise fun p q => p.network < q.network
  disjoint : res.Pairwise fun p q => ∀ a, ¬ (p.Mem a ∧ q.Mem a)
  mem_iff : ∀ a, (∃ p ∈ res, p.Mem a) ↔ ¬ ∃ b ∈ table, b.Mem a
  minimal : ∀ p ∈ res, ∀ q ∈ res, ¬ p.Siblings q

lemma Aligned.mem_network {p : Prefix w} (h : p.Aligned) : p.Mem p.network := h.network_eq

lemma parent_low {p : Prefix w} (h : p.Aligned) : p.low.parent = p := by
  have hnet : p.network &&& mask w p.len = p.network := h.network_eq
  show (⟨p.network &&& mask w p.len, p.len⟩ : Prefix w) = p
  rw [hnet]

lemma parent_high {p : Prefix w} (h : p.Aligned) (hlt : p.len < w) : p.high.parent = p := by
  have hmem : p.Mem p.high.network := ((mem_high h hlt).1 (h.high hlt).mem_network).1
  have hnet : p.high.network &&& mask w p.len = p.network := hmem
  show (⟨p.high.network &&& mask w p.len, p.len⟩ : Prefix w) = p
  rw [hnet]

/-- A word with a clear bit is below one with that bit set, if they agree above it. -/
lemma lt_of_getLsbD {a b : BitVec w} {k : ℕ} (ha : a.getLsbD k = false)
    (hb : b.getLsbD k = true) (hab : ∀ j, k < j → a.getLsbD j = b.getLsbD j) : a < b :=
  Nat.lt_of_testBit k ha hb hab

lemma low_below_high {p : Prefix w} (h : p.Aligned) (hlt : p.len < w) : p.low.Below p.high := by
  intro a b ha hb
  obtain ⟨hpa, hbitA⟩ := (mem_low h hlt).1 ha
  obtain ⟨hpb, hbitB⟩ := (mem_high h hlt).1 hb
  refine lt_of_getLsbD hbitA hbitB fun j hj => ?_
  by_cases hw : j < w
  · have hmask : a &&& mask w p.len = b &&& mask w p.len := Eq.trans hpa (Eq.symm hpb)
    have hbit := congrArg (fun x => x.getLsbD j) hmask
    have hin : w - p.len ≤ j := by omega
    simpa only [BitVec.getLsbD_and, getLsbD_mask, hw, hin, decide_true, Bool.and_true] using hbit
  · rw [BitVec.getLsbD_of_ge a j (by omega), BitVec.getLsbD_of_ge b j (by omega)]

/-- What the loop keeps of the nodes it holds and the nodes it has emitted. -/
structure Ordered (table : List (Prefix w)) (nodes : List (Prefix w)) : Prop where
  aligned : ∀ p ∈ nodes, p.Aligned
  below : nodes.Pairwise Below
  /-- A node other than the root is a half of one that straddles the table. -/
  parent : ∀ p ∈ nodes, p.len = 0 ∨ ∃ b ∈ table, p.parent.Contains b

lemma Ordered.sublist {table nodes nodes' : List (Prefix w)} (h : Ordered table nodes)
    (hsub : List.Sublist nodes' nodes) : Ordered table nodes' where
  aligned p hp := h.aligned p (hsub.subset hp)
  below := h.below.sublist hsub
  parent p hp := h.parent p (hsub.subset hp)

lemma Ordered.split {table out stack : List (Prefix w)} {cur : Prefix w}
    (htable : ∀ b ∈ table, b.Aligned) (h : Ordered table (out ++ cur :: stack))
    (hcov : (splitting table).covered cur = false) (hstr : (splitting table).straddles cur) :
    Ordered table (out ++ cur.low :: cur.high :: stack) := by
  have hcur : cur.Aligned := h.aligned cur (by simp)
  have hlt := len_lt_of_straddles htable hcur hcov hstr
  have hlow : ∀ {a}, cur.low.Mem a → cur.Mem a := fun ha => ((mem_low hcur hlt).1 ha).1
  have hhigh : ∀ {a}, cur.high.Mem a → cur.Mem a := fun ha => ((mem_high hcur hlt).1 ha).1
  obtain ⟨hout, hrest, hacross⟩ := List.pairwise_append.1 h.below
  obtain ⟨hafter, hstack⟩ := List.pairwise_cons.1 hrest
  have hstraddle : ∃ b ∈ table, cur.Contains b := by
    simpa only [splitting, List.any_eq_true, decide_eq_true_eq] using hstr
  refine ⟨fun p hp => ?_, ?_, fun p hp => ?_⟩
  · simp only [List.mem_append, List.mem_cons] at hp
    rcases hp with hp | rfl | rfl | hp
    · exact h.aligned p (by simp [hp])
    · exact hcur.low hlt
    · exact hcur.high hlt
    · exact h.aligned p (by simp [hp])
  · refine List.pairwise_append.2 ⟨hout, ?_, ?_⟩
    · refine List.pairwise_cons.2 ⟨fun q hq => ?_, List.pairwise_cons.2 ⟨fun q hq => ?_, hstack⟩⟩
      · rcases List.mem_cons.1 hq with rfl | hq
        · exact low_below_high hcur hlt
        · exact fun a b ha hb => hafter q hq a b (hlow ha) hb
      · exact fun a b ha hb => hafter q hq a b (hhigh ha) hb
    · intro p hp q hq
      have hbefore : p.Below cur := hacross p hp cur (by simp)
      simp only [List.mem_cons] at hq
      rcases hq with rfl | rfl | hq
      · exact fun a b ha hb => hbefore a b ha (hlow hb)
      · exact fun a b ha hb => hbefore a b ha (hhigh hb)
      · exact hacross p hp q (by simp [hq])
  · simp only [List.mem_append, List.mem_cons] at hp
    rcases hp with hp | rfl | rfl | hp
    · exact h.parent p (by simp [hp])
    · rw [parent_low hcur]
      exact .inr hstraddle
    · rw [parent_high hcur hlt]
      exact .inr hstraddle
    · exact h.parent p (by simp [hp])

lemma Ordered.root (table : List (Prefix w)) : Ordered table [⟨0#w, 0⟩] where
  aligned p hp := by
    rw [List.mem_singleton.1 hp]
    exact ⟨Nat.zero_le w, by simp⟩
  below := List.pairwise_singleton _ _
  parent p hp := .inl (by rw [List.mem_singleton.1 hp])

lemma Aligned.parent {p : Prefix w} (h : p.Aligned) : p.parent.Aligned where
  len_le := (Nat.sub_le _ _).trans h.len_le
  network_eq := and_mask_and_mask le_rfl p.network

/-- A prefix that is not the whole region is a half of its parent. -/
lemma eq_low_or_eq_high {p : Prefix w} (h : p.Aligned) (hpos : 0 < p.len) :
    p = p.parent.low ∨ p = p.parent.high := by
  have hlen : p.parent.len + 1 = p.len := Nat.sub_add_cancel hpos
  have hlt : p.parent.len < w := by have := h.len_le; omega
  have hmem : p.parent.Mem p.network := rfl
  have hnetwork : p.network &&& mask w (p.parent.len + 1) = p.network := by
    rw [hlen]
    exact h.network_eq
  have heq : ∀ {half : Prefix w}, half.len = p.parent.len + 1 → half.Mem p.network → p = half := by
    intro half hhalf hin
    have hin' : p.network &&& mask w half.len = half.network := hin
    rw [hhalf, hnetwork] at hin'
    cases half
    cases p
    simp only [Prefix.mk.injEq]
    exact ⟨hin', hlen.symm.trans hhalf.symm⟩
  cases hbit : p.network.getLsbD (w - (p.parent.len + 1)) with
  | false => exact .inl (heq rfl ((mem_low h.parent hlt).2 ⟨hmem, hbit⟩))
  | true => exact .inr (heq rfl ((mem_high h.parent hlt).2 ⟨hmem, hbit⟩))

/-- Two siblings share out the words of their parent. -/
lemma Siblings.mem {p q : Prefix w} (h : p.Siblings q) (hp : p.Aligned) (hq : q.Aligned)
    {a : BitVec w} (ha : p.parent.Mem a) : p.Mem a ∨ q.Mem a := by
  have hpos : 0 < q.len := h.len_eq ▸ h.len_pos
  have hlt : p.parent.len < w := by
    have hlen : p.parent.len + 1 = p.len := Nat.sub_add_cancel h.len_pos
    have := hp.len_le
    omega
  have hhalf : p.parent.low.Mem a ∨ p.parent.high.Mem a := by
    rw [mem_low hp.parent hlt, mem_high hp.parent hlt]
    cases a.getLsbD (w - (p.parent.len + 1)) <;> simp [ha]
  have hq' := eq_low_or_eq_high hq hpos
  rw [h.parent_eq] at hq'
  rcases eq_low_or_eq_high hp h.len_pos with hpl | hph <;> rcases hq' with hql | hqh
  · exact absurd (hpl.trans hql.symm) h.ne
  · exact hhalf.imp (fun hm => hpl ▸ hm) (fun hm => hqh ▸ hm)
  · exact (hhalf.imp (fun hm => hql ▸ hm) (fun hm => hph ▸ hm)).symm
  · exact absurd (hph.trans hqh.symm) h.ne

/-- **What the loop emits** for a table of aligned prefixes. -/
theorem complements_of_loop {table : List (Prefix w)} (htable : ∀ b ∈ table, b.Aligned) {n : ℕ}
    {res : List (Prefix w)} (hres : (splitting table).loop n [⟨0#w, 0⟩] [] = some res) :
    Complements table res := by
  have hordered : Ordered table res := by
    have hend := Splitting.loop_invariant (fun stack out => Ordered table (out ++ stack))
      (fun {cur stack out} h _ => h.sublist
        ((List.append_sublist_append_left out).2 (List.sublist_cons_self cur stack)))
      (fun {cur stack out} h _ _ => by simpa using h)
      (fun {cur stack out} h hcov hstr => h.split htable hcov hstr) n _ _ _
      (Ordered.root table) hres
    simpa using hend
  have hroot : ∀ a, Mem (⟨0#w, 0⟩ : Prefix w) a := by
    intro a
    show a &&& mask w 0 = 0#w
    simp [mask]
  have hcount := Splitting.loop_countP_root (splitting_sound htable) ⟨0#w, 0⟩
    ((Ordered.root table).aligned _ (by simp)) hroot hres
  have hmem : ∀ a, (∃ p ∈ res, p.Mem a) ↔ ¬ ∃ b ∈ table, b.Mem a := by
    intro a
    have hpos : (∃ p ∈ res, p.Mem a) ↔ 0 < res.countP (fun p => p.Mem a) := by
      rw [List.countP_pos_iff]
      simp
    rw [hpos, hcount a]
    split_ifs with htab
    · simp [htab]
    · simp [htab]
  refine ⟨hordered.aligned, ?_, ?_, hmem, fun p hp q hq hsib => ?_⟩
  · refine hordered.below.imp_of_mem fun {p q} hp hq hbelow => ?_
    exact hbelow _ _ (hordered.aligned p hp).mem_network (hordered.aligned q hq).mem_network
  · refine hordered.below.imp fun {p q} hbelow a hboth => ?_
    exact absurd (hbelow a a hboth.1 hboth.2) (BitVec.lt_irrefl a)
  · -- their parent straddles the table, and they hold all of its words
    rcases hordered.parent p hp with hzero | ⟨b, hb, hcont⟩
    · exact absurd hsib.len_pos (by omega)
    · have hbmem : b.Mem b.network := (htable b hb).mem_network
      have hin := hsib.mem (hordered.aligned p hp) (hordered.aligned q hq) (hcont.mem hbmem)
      refine (hmem b.network).1 ?_ ⟨b, hb, hbmem⟩
      exact hin.elim (fun hm => ⟨p, hp, hm⟩) (fun hm => ⟨q, hq, hm⟩)

end Prefix

end UrnetworkWindows.Lib
