/-
Ordered maps as the lists of their entries.

A map is built from a list of pairs with a later pair over an earlier one.  Where the keys
come once, the list is the map: the entries of one are the pairs of the other, and as many.
-/
import Mathlib.Data.List.Perm.Basic
import Mathlib.Tactic

namespace UrnetworkWindows.Lib

open Std

variable {κ ν : Type*} {cmp : κ → κ → Ordering} [TransCmp cmp] [LawfulEqCmp cmp]

omit [TransCmp cmp] in
lemma pairwise_cmp {ps : List (κ × ν)} (h : (ps.map Prod.fst).Nodup) :
    ps.Pairwise fun p q => ¬ cmp p.1 q.1 = .eq := by
  rw [List.Nodup, List.pairwise_map] at h
  exact h.imp fun hne heq => hne (LawfulEqCmp.eq_of_compare heq)

/-- The entries of a map made of pairs whose keys come once are the pairs. -/
lemma getElem?_ofList {ps : List (κ × ν)} (h : (ps.map Prod.fst).Nodup) {k : κ} {v : ν} :
    (ExtTreeMap.ofList ps cmp)[k]? = some v ↔ (k, v) ∈ ps := by
  classical
  constructor
  · intro hget
    by_cases hmem : k ∈ ps.map Prod.fst
    · obtain ⟨⟨k', v'⟩, hp, rfl⟩ := List.mem_map.1 hmem
      rw [ExtTreeMap.getElem?_ofList_of_mem ReflCmp.compare_self (pairwise_cmp h) hp] at hget
      cases hget
      exact hp
    · have hnot : (ps.map Prod.fst).contains k = false := by
        rw [Bool.eq_false_iff]
        exact fun hc => hmem (List.contains_iff_mem.1 hc)
      rw [ExtTreeMap.getElem?_ofList_of_contains_eq_false hnot] at hget
      exact absurd hget (by simp)
  · exact ExtTreeMap.getElem?_ofList_of_mem ReflCmp.compare_self (pairwise_cmp h)

lemma nodup_toList (t : ExtTreeMap κ ν cmp) : t.toList.Nodup := by
  refine List.Pairwise.imp ?_ ExtTreeMap.distinct_keys_toList
  rintro p _ hne rfl
  exact hne ReflCmp.compare_self

lemma nodup_keys_toList (t : ExtTreeMap κ ν cmp) : (t.toList.map Prod.fst).Nodup := by
  rw [List.Nodup, List.pairwise_map]
  refine List.Pairwise.imp ?_ ExtTreeMap.distinct_keys_toList
  intro p q hne heq
  exact hne (heq ▸ ReflCmp.compare_self)

/-- A map is what its entries make. -/
lemma ofList_toList (t : ExtTreeMap κ ν cmp) : ExtTreeMap.ofList t.toList cmp = t := by
  refine ExtTreeMap.ext_getElem? fun k => ?_
  ext v
  rw [getElem?_ofList (nodup_keys_toList t), ExtTreeMap.mem_toList_iff_getElem?_eq_some]

/-- An entry of a new key comes to the others. -/
lemma toList_insert_perm {t : ExtTreeMap κ ν cmp} {k : κ} (h : k ∉ t) (v : ν) :
    (t.insert k v).toList.Perm ((k, v) :: t.toList) := by
  have hnone : t[k]? = none := ExtTreeMap.getElem?_eq_none h
  have hnew : (k, v) ∉ t.toList := by
    rw [ExtTreeMap.mem_toList_iff_getElem?_eq_some, hnone]
    simp
  refine (List.perm_ext_iff_of_nodup (nodup_toList _)
    (List.nodup_cons.2 ⟨hnew, nodup_toList t⟩)).2 ?_
  rintro ⟨k', v'⟩
  rw [ExtTreeMap.mem_toList_iff_getElem?_eq_some, ExtTreeMap.getElem?_insert, List.mem_cons,
    ExtTreeMap.mem_toList_iff_getElem?_eq_some]
  split_ifs with heq
  · obtain rfl := LawfulEqCmp.eq_of_compare heq
    simp [hnone, eq_comm]
  · have hne : k' ≠ k := by
      rintro rfl
      exact heq ReflCmp.compare_self
    simp [hne]

end UrnetworkWindows.Lib
