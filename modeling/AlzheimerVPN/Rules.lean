import Mathlib.Data.List.Induction

/-! Ordered rules that keep or drop points: of the rules that hold of a point the
last decides, and a point that no rule holds of is dropped. -/
namespace AlzheimerVPN.Rules

open List

variable {ρ α : Type*} (holds : ρ → α → Bool) (keep : ρ → Bool)

def verdict (l : List ρ) (a : α) : Bool :=
  l.foldl (fun kept r => if holds r a then keep r else kept) false

/-- A rule that drops the point is followed by one that keeps it, and no later
rule drops it again. -/
def Reinstated (l : List ρ) (a : α) : Prop :=
  ∃ before r after, l = before++r::after ∧ keep r ∧ holds r a ∧
    (∃ e ∈ before, keep e = false ∧ holds e a) ∧
    ∀ e ∈ after, keep e = false → holds e a = false

variable {holds keep} {l m : List ρ} {a : α}

lemma verdict_concat (l : List ρ) (r : ρ) (a : α) :
    verdict holds keep (l++[r]) a = if holds r a then keep r else verdict holds keep l a := by
  simp [verdict]

lemma verdict_append_of_none (h : ∀ r ∈ m, holds r a = false) :
    verdict holds keep (l++m) a = verdict holds keep l a := by
  induction m using List.reverseRecOn with
  | nil => simp
  | append_singleton m r ih =>
    have hr : holds r a = false := h r (by simp)
    rw [← append_assoc,verdict_concat,hr]
    exact ih fun r' hr' => h r' (by simp [hr'])

/-- A rule after which none holds decides. -/
lemma verdict_of_last {r : ρ} (hr : holds r a) (hm : ∀ r' ∈ m, holds r' a = false) :
    verdict holds keep (l++r::m) a = keep r := by
  have hsplit : l++r::m = (l++[r])++m := by simp
  rw [hsplit,verdict_append_of_none hm,verdict_concat,hr]
  rfl

lemma exists_last (h : ∃ r ∈ l, holds r a) : ∃ before r after, l = before++r::after ∧ holds r a ∧
      ∀ r' ∈ after, holds r' a = false := by
  induction l using List.reverseRecOn with
  | nil => simp at h
  | append_singleton l r ih =>
    by_cases hr : holds r a
    · exact ⟨l,r,[],rfl,hr,by simp⟩
    · have hl : ∃ r' ∈ l, holds r' a := by
        obtain ⟨r',hmem,hr'⟩ := h
        rcases mem_append.mp hmem with hin | hin
        · exact ⟨r',hin,hr'⟩
        · rw [mem_singleton.mp hin] at hr'
          exact absurd hr' hr
      obtain ⟨before,r',after,rfl,hr',hafter⟩ := ih hl
      refine ⟨before,r',after++[r],by simp,hr',fun s hs => ?_⟩
      rcases mem_append.mp hs with hin | hin
      · exact hafter s hin
      · rw [mem_singleton.mp hin]
        simpa using hr

lemma verdict_eq_false_of_none (h : ∀ r ∈ l, holds r a = false) :
    verdict holds keep l a = false := by
  have hnil : verdict holds keep ([]++l) a = verdict holds keep [] a := verdict_append_of_none h
  exact hnil

/-- The rules of the second list decide as far as they hold. -/
lemma verdict_append_of_some (h : ∃ r ∈ m, holds r a) :
    verdict holds keep (l++m) a = verdict holds keep m a := by
  obtain ⟨before,r,after,rfl,hr,hafter⟩ := exists_last h
  rw [verdict_of_last hr hafter,← append_assoc,verdict_of_last hr hafter]

/-- Only the rules that hold of the point matter. -/
lemma verdict_filter (l : List ρ) (a : α) :
    verdict holds keep (l.filter fun r => holds r a) a = verdict holds keep l a := by
  induction l using List.reverseRecOn with
  | nil => rfl
  | append_singleton l r ih =>
    rw [filter_append,verdict_concat]
    cases hr : holds r a with
    | true => simp [hr,verdict_concat]
    | false => simpa [hr] using ih

lemma exists_keep_of_verdict (h : verdict holds keep l a) : ∃ r ∈ l, keep r ∧ holds r a := by
  by_cases hsome : ∃ r ∈ l, holds r a
  · obtain ⟨before,r,after,rfl,hr,hafter⟩ := exists_last hsome
    rw [verdict_of_last hr hafter] at h
    exact ⟨r,by simp,h,hr⟩
  · have hnone : ∀ r ∈ l, holds r a = false := by simpa using hsome
    rw [verdict_eq_false_of_none hnone] at h
    exact absurd h (by simp)

/-- Where a rule drops the point, it is kept only when it is reinstated. -/
lemma verdict_eq_true_iff_reinstated (h : ∃ e ∈ l, keep e = false ∧ holds e a) :
    verdict holds keep l a ↔ Reinstated holds keep l a := by
  obtain ⟨e,he,hdrop,hea⟩ := h
  constructor
  · intro hv
    obtain ⟨before,r,after,rfl,hr,hafter⟩ := exists_last ⟨e,he,hea⟩
    rw [verdict_of_last hr hafter] at hv
    refine ⟨before,r,after,rfl,hv,hr,⟨e,?_,hdrop,hea⟩,fun s hs _ => hafter s hs⟩
    -- the dropping rule is neither the last that holds nor after it
    rcases mem_append.mp he with hin | hin
    · exact hin
    · rcases mem_cons.mp hin with rfl | hin
      · rw [hdrop] at hv
        exact absurd hv (by simp)
      · rw [hafter e hin] at hea
        exact absurd hea (by simp)
  · rintro ⟨before,r,after,rfl,hkeep,hr,-,hafter⟩
    obtain ⟨b,s,t,hst,hs,ht⟩ := exists_last (l := r::after) ⟨r,by simp,hr⟩
    rw [hst,← append_assoc,verdict_of_last hs ht]
    have hmem : s ∈ r::after := by simp [hst]
    rcases mem_cons.mp hmem with rfl | hin
    · exact hkeep
    · by_contra hdropped
      rw [hafter s hin (by simpa using hdropped)] at hs
      exact absurd hs (by simp)

/-- Where no rule drops the point, it is kept when some rule keeps it. -/
lemma verdict_keeps_of_none_dropped (h : ∀ e ∈ l, keep e = false → holds e a = false) :
    verdict holds keep l a ↔ ∃ r ∈ l, keep r ∧ holds r a := by
  refine ⟨exists_keep_of_verdict,?_⟩
  rintro ⟨r,hr,-,hra⟩
  obtain ⟨before,s,after,rfl,hs,hafter⟩ := exists_last ⟨r,hr,hra⟩
  rw [verdict_of_last hs hafter]
  by_contra hdropped
  rw [h s (by simp) (by simpa using hdropped)] at hs
  exact absurd hs (by simp)

/-- Nothing is reinstated when the rules that keep come first. -/
lemma not_reinstated_append (hl : ∀ r ∈ l, keep r) (hm : ∀ r ∈ m, keep r = false) :
    ¬Reinstated holds keep (l++m) a := by
  rintro ⟨before,r,after,hsplit,hkeep,-,⟨e,he,hdrop,-⟩,-⟩
  rcases append_eq_append_iff.mp hsplit with ⟨t,hbefore,htail⟩ | ⟨t,hbefore,htail⟩
  · -- the keeping rule would be among the dropping ones
    have hmem : r ∈ m := by simp [htail]
    rw [hm r hmem] at hkeep
    exact absurd hkeep (by simp)
  · have hmem : e ∈ l := by simp [hbefore,he]
    rw [hl e hmem] at hdrop
    exact absurd hdrop (by simp)

end AlzheimerVPN.Rules
