import Mathlib.Data.List.Nodup

/-! Maps with text keys, and lists of keyed entries read by `List.lookup`. -/
namespace AlzheimerVPN

open List

abbrev QMap (V : Type) := Std.ExtTreeMap String V compare

section

variable {V : Type} {l : List (String × V)} {key other : String} {v : V}

lemma lookup_eq_some_iff_mem (h : (l.map Prod.fst).Nodup) :
    l.lookup key = some v ↔ (key,v) ∈ l := by
  induction l with
  | nil => simp
  | cons e l ih =>
    obtain ⟨he,hl⟩ := nodup_cons.mp h
    rw [lookup_cons,mem_cons]
    by_cases hk : key = e.1
    · subst hk
      have hout : (e.1,v) ∉ l := fun hm => he (mem_map.mpr ⟨_,hm,rfl⟩)
      simp [hout,Prod.ext_iff,eq_comm]
    · rw [beq_eq_false_iff_ne.mpr hk]
      simp [ih hl,Prod.ext_iff,hk]

lemma lookup_eq_none_iff_not_mem : l.lookup key = none ↔ key ∉ l.map Prod.fst := by
  induction l with
  | nil => simp
  | cons e l ih =>
    rw [lookup_cons,map_cons,mem_cons]
    by_cases hk : key = e.1
    · simp [hk]
    · rw [beq_eq_false_iff_ne.mpr hk]
      simp [ih,hk]

variable (m : QMap V)

lemma nodup_keys_toList {W : Type} (f : V → W) :
    ((m.toList.map fun e => (e.1,f e.2)).map Prod.fst).Nodup := by
  rw [map_map,List.Nodup,pairwise_map]
  refine m.distinct_keys_toList.imp ?_
  intro a b hab heq
  exact hab (Std.LawfulEqCmp.compare_eq_iff_eq.mpr heq)

lemma lookup_toList_map {W : Type} (f : V → W) (key : String) :
    (m.toList.map fun e => (e.1,f e.2)).lookup key = m[key]?.map f := by
  ext w
  rw [lookup_eq_some_iff_mem (nodup_keys_toList m f)]
  simp only [mem_map,Prod.mk.injEq,Option.map_eq_some_iff]
  constructor
  · rintro ⟨e,he,rfl,rfl⟩
    exact ⟨e.2,Std.ExtTreeMap.mem_toList_iff_getElem?_eq_some.mp he,rfl⟩
  · rintro ⟨v,hv,rfl⟩
    exact ⟨(key,v),Std.ExtTreeMap.mem_toList_iff_getElem?_eq_some.mpr hv,rfl,rfl⟩

lemma getElem?_insert_eq (key other : String) (v : V) :
    (m.insert key v)[other]? = if other = key then some v else m[other]? := by
  simp only [Std.ExtTreeMap.getElem?_insert,Std.LawfulEqCmp.compare_eq_iff_eq,eq_comm (a := key)]

lemma getElem?_erase_eq (key other : String) :
    (m.erase key)[other]? = if other = key then none else m[other]? := by
  simp only [Std.ExtTreeMap.getElem?_erase,Std.LawfulEqCmp.compare_eq_iff_eq,eq_comm (a := key)]

lemma lookup_eraseP (h : (l.map Prod.fst).Nodup) :
    (l.eraseP (·.1 == key)).lookup other = if other = key then none else l.lookup other := by
  induction l with
  | nil => simp
  | cons e l ih =>
    obtain ⟨he,hl⟩ := nodup_cons.mp h
    by_cases hk : e.1 = key
    · rw [eraseP_cons_of_pos (by simpa using hk)]
      by_cases ho : other = key
      · subst ho
        rw [if_pos rfl]
        exact lookup_eq_none_iff_not_mem.mpr (hk ▸ he)
      · have hne : other ≠ e.1 := fun he => ho (he.trans hk)
        rw [if_neg ho,lookup_cons,beq_eq_false_iff_ne.mpr hne]
    · rw [eraseP_cons_of_neg (by simpa using hk),lookup_cons,lookup_cons,ih hl]
      by_cases ho : other = e.1
      · subst ho
        simp [hk]
      · rw [beq_eq_false_iff_ne.mpr ho]

end
end AlzheimerVPN
