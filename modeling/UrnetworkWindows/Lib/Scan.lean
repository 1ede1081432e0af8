/-
Scanning a list for the first place from which the rest of it satisfies a test, for the last place
of a pattern, and for the parts between its separators.
-/
import Mathlib.Data.List.TakeWhile
import Mathlib.Tactic

namespace UrnetworkWindows.Lib

variable {α : Type*} (p : List α → Bool)

/-- Where the first suffix that satisfies `p` begins. -/
def findSuffix : List α → Option ℕ
  | [] => if p [] then some 0 else none
  | c :: cs => if p (c :: cs) then some 0 else (findSuffix cs).map (· + 1)

variable {p}

lemma findSuffix_eq_none {t : List α} :
    findSuffix p t = none ↔ ∀ i ≤ t.length, p (t.drop i) = false := by
  induction t with
  | nil => simp [findSuffix]
  | cons c cs ih =>
    rw [findSuffix]
    constructor
    · intro h i hi
      split at h
      · exact absurd h (by simp)
      · next hp =>
        cases i with
        | zero => simpa using hp
        | succ i =>
          have hcs := ih.1 (Option.map_eq_none_iff.1 h)
          exact hcs i (by simpa using hi)
    · intro h
      have hp : ¬ p (c :: cs) = true := by simpa using h 0 (by simp)
      have hcs : findSuffix p cs = none := ih.2 fun i hi => h (i + 1) (by simpa using hi)
      rw [if_neg hp, hcs]
      rfl

lemma findSuffix_eq_some {t : List α} {i : ℕ} :
    findSuffix p t = some i ↔
      i ≤ t.length ∧ p (t.drop i) = true ∧ ∀ j < i, p (t.drop j) = false := by
  induction t generalizing i with
  | nil =>
    simp only [findSuffix, Option.ite_none_right_eq_some, Option.some.injEq, List.length_nil,
      Nat.le_zero, List.drop_nil]
    constructor
    · rintro ⟨hp, rfl⟩
      exact ⟨rfl, hp, by omega⟩
    · rintro ⟨rfl, hp, -⟩
      exact ⟨hp, rfl⟩
  | cons c cs ih =>
    rw [findSuffix]
    by_cases hp : p (c :: cs) = true
    · rw [if_pos hp, Option.some.injEq]
      constructor
      · rintro rfl
        exact ⟨by simp, hp, by omega⟩
      · rintro ⟨-, -, hfirst⟩
        by_contra hne
        have hzero := hfirst 0 (by omega)
        exact absurd (hp.symm.trans hzero) (by simp)
    · rw [if_neg hp, Option.map_eq_some_iff]
      constructor
      · rintro ⟨k, hk, rfl⟩
        obtain ⟨hle, hhere, hfirst⟩ := ih.1 hk
        refine ⟨by simpa using hle, hhere, fun j hj => ?_⟩
        cases j with
        | zero => simpa using hp
        | succ j => exact hfirst j (by omega)
      · rintro ⟨hle, hhere, hfirst⟩
        cases i with
        | zero => exact absurd hhere hp
        | succ i =>
          refine ⟨i, ih.2 ⟨by simpa using hle, hhere, fun j hj => ?_⟩, rfl⟩
          exact hfirst (j + 1) (by omega)

/-- A part from which nothing is found is passed over. -/
lemma findSuffix_append {w t : List α} (h : ∀ i < w.length, p ((w ++ t).drop i) = false) :
    findSuffix p (w ++ t) = (findSuffix p t).map (w.length + ·) := by
  induction w with
  | nil =>
    have hid : (fun n => ([] : List α).length + n) = id := by
      funext n
      simp
    rw [hid, Option.map_id]
    rfl
  | cons c w ih =>
    have hp : ¬ p (c :: (w ++ t)) = true := by simpa using h 0 (by simp)
    have hw : ∀ i < w.length, p ((w ++ t).drop i) = false :=
      fun i hi => h (i + 1) (by simpa using hi)
    rw [List.cons_append, findSuffix, if_neg hp, ih hw, Option.map_map]
    congr 1
    funext n
    simp only [Function.comp_apply, List.length_cons]
    omega

lemma drop_takeWhile (p : α → Bool) (t : List α) :
    t.drop (t.takeWhile p).length = t.dropWhile p := by
  have h : (t.takeWhile p ++ t.dropWhile p).drop (t.takeWhile p).length = t.dropWhile p :=
    List.drop_left
  rwa [List.takeWhile_append_dropWhile] at h

/-- A scan for `a` stops at it. -/
lemma eq_of_dropWhile_ne [DecidableEq α] {a c : α} {t rest : List α}
    (h : t.dropWhile (· ≠ a) = c :: rest) : t = t.takeWhile (· ≠ a) ++ a :: rest := by
  have hc : c = a := by
    have hhead := List.head?_dropWhile_not (· ≠ a) t
    rw [h] at hhead
    simpa using hhead
  subst hc
  rw [← h, List.takeWhile_append_dropWhile]

section Last

variable [DecidableEq α]

/-- Where the last occurrence of `p` begins. -/
def rfind (p : List α) : List α → Option ℕ
  | [] => if p.isPrefixOf [] then some 0 else none
  | c :: cs =>
    match rfind p cs with
    | some i => some (i + 1)
    | none => if p.isPrefixOf (c :: cs) then some 0 else none

/-- What is found stands there. -/
lemma exists_of_rfind {p t : List α} {i : ℕ} (h : rfind p t = some i) :
    ∃ stem tail, t = stem ++ (p ++ tail) ∧ stem.length = i := by
  induction t generalizing i with
  | nil =>
    rw [rfind] at h
    split_ifs at h with hp
    obtain ⟨tail, htail⟩ := List.isPrefixOf_iff_prefix.1 hp
    exact ⟨[], tail, htail.symm, Option.some.inj h⟩
  | cons c cs ih =>
    rw [rfind] at h
    split at h
    · next k hk =>
      obtain ⟨stem, tail, rfl, rfl⟩ := ih hk
      exact ⟨c :: stem, tail, rfl, Option.some.inj h⟩
    · split_ifs at h with hp
      obtain ⟨tail, htail⟩ := List.isPrefixOf_iff_prefix.1 hp
      exact ⟨[], tail, htail.symm, Option.some.inj h⟩

lemma rfind_eq_none_of_notMem {a : α} {p t : List α} (h : a ∉ t) : rfind (a :: p) t = none := by
  induction t with
  | nil => rfl
  | cons c cs ih =>
    have hhead : (a :: p).isPrefixOf (c :: cs) = false := by
      have hne : a ≠ c := fun hac => h (hac ▸ List.mem_cons_self)
      simp [List.isPrefixOf, hne]
    rw [rfind, ih fun hmem => h (List.mem_cons_of_mem c hmem)]
    dsimp only
    rw [hhead]
    rfl

/-- An occurrence with no later beginning is the last. -/
lemma rfind_append {a : α} {p stem tail : List α} (h : a ∉ p ++ tail) :
    rfind (a :: p) (stem ++ (a :: p ++ tail)) = some stem.length := by
  induction stem with
  | nil =>
    have hhere : (a :: p).isPrefixOf (a :: (p ++ tail)) = true :=
      List.isPrefixOf_iff_prefix.2 (List.prefix_append _ _)
    rw [List.nil_append, List.cons_append, rfind, rfind_eq_none_of_notMem h]
    exact if_pos hhere
  | cons c stem ih =>
    rw [List.cons_append, rfind, ih]
    rfl

end Last

/-! ### The parts between separators -/

section Parts

variable {p : α → Bool}

/-- The first part begins the list, and each other one stands after a separator. -/
lemma splitOnP_places {xs w : List α} {ws : List (List α)} (h : xs.splitOnP p = w :: ws) :
    (∃ after, xs = w ++ after ∧ ∀ s ∈ after.head?, p s = true) ∧
      ∀ v ∈ ws, ∃ front s after, p s = true ∧ xs = front ++ s :: (v ++ after) ∧
        ∀ s' ∈ after.head?, p s' = true := by
  induction xs generalizing w ws with
  | nil =>
    obtain ⟨rfl, rfl⟩ := List.cons.inj (h.symm.trans List.splitOnP_nil)
    exact ⟨⟨[], rfl, by rintro _ ⟨⟩⟩, fun _ hv => absurd hv List.not_mem_nil⟩
  | cons x xs ih =>
    obtain ⟨w', ws', hxs⟩ := List.exists_cons_of_ne_nil (List.splitOnP_ne_nil p xs)
    obtain ⟨⟨after, hafter, hhead⟩, hrest⟩ := ih hxs
    rw [List.splitOnP_cons_eq_if_modifyHead, hxs] at h
    split_ifs at h with hx
    · -- a part ends here, and the rest of them stand after it
      obtain ⟨rfl, rfl⟩ := List.cons.inj h
      refine ⟨⟨x :: xs, rfl, ?_⟩, ?_⟩
      · rintro s hs
        cases hs
        exact hx
      · intro v hv
        rcases List.mem_cons.1 hv with rfl | hv
        · exact ⟨[], x, after, hx, by rw [hafter]; rfl, hhead⟩
        · obtain ⟨front, s, after', hs, hxs', hhead'⟩ := hrest v hv
          exact ⟨x :: front, s, after', hs, by rw [hxs']; rfl, hhead'⟩
    · obtain ⟨rfl, rfl⟩ := List.cons.inj h
      refine ⟨⟨after, by rw [hafter]; rfl, hhead⟩, fun v hv => ?_⟩
      obtain ⟨front, s, after', hs, hxs', hhead'⟩ := hrest v hv
      exact ⟨x :: front, s, after', hs, by rw [hxs']; rfl, hhead'⟩

/-- A part that neither begins nor ends the list stands between two separators. -/
lemma mem_splitOnP_iff {xs w : List α} (hw : ∀ x ∈ w, p x = false) (hstart : ¬w <+: xs)
    (hend : ¬w <:+ xs) :
    w ∈ xs.splitOnP p ↔
      ∃ s s', p s = true ∧ p s' = true ∧ s :: (w ++ [s']) <:+: xs := by
  constructor
  · intro hmem
    obtain ⟨first, parts, hparts⟩ := List.exists_cons_of_ne_nil (List.splitOnP_ne_nil p xs)
    obtain ⟨⟨after, hafter, -⟩, hrest⟩ := splitOnP_places hparts
    rw [hparts] at hmem
    rcases List.mem_cons.1 hmem with rfl | hmem
    · exact absurd ⟨after, hafter.symm⟩ hstart
    · obtain ⟨front, s, after, hs, hxs, hhead⟩ := hrest w hmem
      cases after with
      | nil =>
        refine absurd ⟨front ++ [s], ?_⟩ hend
        rw [hxs, List.append_nil, List.append_assoc]
        rfl
      | cons s' rest =>
        refine ⟨s, s', hs, hhead s' rfl, front, rest, ?_⟩
        rw [hxs, List.append_assoc, List.cons_append, List.append_assoc]
        rfl
  · rintro ⟨s, s', hs, hs', front, rest, rfl⟩
    rw [List.append_assoc, List.cons_append, List.append_assoc, List.splitOnP_append_cons _ _ hs,
      List.singleton_append, List.splitOnP_append_cons_of_forall_mem hw s' hs']
    exact List.mem_append_right _ (List.mem_cons_self ..)

/-- What a scan for a separator passes is the first part, and the parts after it are of what
follows the separator. -/
lemma splitOnP_of_dropWhile_cons {xs rest : List α} {c : α}
    (h : xs.dropWhile (fun x => !p x) = c :: rest) :
    xs.splitOnP p = xs.takeWhile (fun x => !p x) :: rest.splitOnP p := by
  have hc : p c = true := by
    have hhead := List.head?_dropWhile_not (fun x => !p x) xs
    rw [h] at hhead
    simpa using hhead
  have hpart : ∀ x ∈ xs.takeWhile (fun x => !p x), p x = false := by
    intro x hx
    simpa using List.mem_takeWhile_imp hx
  conv_lhs => rw [← List.takeWhile_append_dropWhile (p := fun x => !p x) (l := xs), h]
  exact List.splitOnP_append_cons_of_forall_mem hpart c hc rest

lemma splitOnP_of_dropWhile_nil {xs : List α} (h : xs.dropWhile (fun x => !p x) = []) :
    xs.splitOnP p = [xs.takeWhile fun x => !p x] := by
  have hall : xs.takeWhile (fun x => !p x) = xs := by
    have happend := List.takeWhile_append_dropWhile (p := fun x => !p x) (l := xs)
    rwa [h, List.append_nil] at happend
  rw [hall]
  refine List.splitOnP_eq_singleton fun x hx => ?_
  rw [← hall] at hx
  simpa using List.mem_takeWhile_imp hx

end Parts

end UrnetworkWindows.Lib
