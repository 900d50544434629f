import Mathlib.Data.List.Nodup

/-! Sets that keep the order in which their elements were first added. The order
is that of `List.eraseDups`: what is added again keeps its place. -/
namespace AlzheimerVPN

open List

section

variable {α : Type*} [BEq α] [LawfulBEq α]

lemma filter_eraseDups (p : α → Bool) (l : List α) :
    (l.filter p).eraseDups = l.eraseDups.filter p := by
  -- the recursion of `eraseDups` is on a filtered tail, so the induction is on the length
  induction hn : l.length using Nat.strongRecOn generalizing l with
  | ind n ih =>
    cases l with
    | nil => rfl
    | cons a l =>
      have hlen : (l.filter fun b => !b == a).length < n := by
        have := length_filter_le (fun b => !b == a) l
        simp only [length_cons] at hn
        omega
      have htail := ih _ hlen (l.filter fun b => !b == a) rfl
      rw [filter_filter] at htail
      by_cases ha : p a
      · rw [filter_cons_of_pos ha,eraseDups_cons,eraseDups_cons,
          filter_cons_of_pos ha,← htail,filter_filter]
        simp only [Bool.and_comm]
      · rw [filter_cons_of_neg ha,eraseDups_cons,filter_cons_of_neg ha,← htail]
        congr 1
        refine filter_congr fun b _ => ?_
        by_cases hb : b = a
        · simp [hb,ha]
        · simp [hb]

lemma eraseDups_of_nodup {l : List α} (h : l.Nodup) : l.eraseDups = l := by
  induction l with
  | nil => rfl
  | cons a l ih =>
    obtain ⟨ha,hl⟩ := nodup_cons.mp h
    have hfilter : (l.filter fun b => !b == a) = l := by
      refine filter_eq_self.mpr fun b hb => ?_
      have hne : b ≠ a := fun hba => ha (hba ▸ hb)
      simp [hne]
    rw [eraseDups_cons,hfilter,ih hl]

variable (l : List α)

lemma nodup_eraseDups : l.eraseDups.Nodup := by
  induction l with
  | nil => simp
  | cons a l ih =>
    rw [eraseDups_cons,filter_eraseDups]
    refine nodup_cons.mpr ⟨?_,ih.filter _⟩
    simp

lemma eraseDups_sublist : l.eraseDups.Sublist l := by
  induction l with
  | nil => exact List.Sublist.refl _
  | cons a l ih =>
    rw [eraseDups_cons,filter_eraseDups]
    exact (filter_sublist.trans ih).cons_cons a

/-- What the first list has is not added again. -/
lemma eraseDups_append_filter (m : List α) :
    (l++m).eraseDups = l.eraseDups++m.eraseDups.filter fun a => !decide (a ∈ l) := by
  have hremove : m.removeAll l = m.filter fun a => !decide (a ∈ l) := by
    simp [List.removeAll]
  rw [eraseDups_append,hremove,filter_eraseDups]

lemma eraseDups_append_congr {m m' : List α} (h : m.eraseDups = m'.eraseDups) :
    (l++m).eraseDups = (l++m').eraseDups := by
  rw [eraseDups_append_filter,eraseDups_append_filter,h]

lemma eraseDups_eraseDups_append (m : List α) :
    (l.eraseDups++m).eraseDups = (l++m).eraseDups := by
  rw [eraseDups_append_filter,eraseDups_append_filter,eraseDups_of_nodup (nodup_eraseDups l)]
  simp

lemma eraseDups_flatMap_congr {β : Type*} {f g : β → List α} {l : List β}
    (h : ∀ b ∈ l, (f b).eraseDups = (g b).eraseDups) :
    (l.flatMap f).eraseDups = (l.flatMap g).eraseDups := by
  induction l with
  | nil => rfl
  | cons b l ih =>
    obtain ⟨hb,hl⟩ := forall_mem_cons.mp h
    rw [flatMap_cons,flatMap_cons,← eraseDups_eraseDups_append,hb,eraseDups_eraseDups_append]
    exact eraseDups_append_congr _ (ih hl)

lemma eraseDups_append_of_subset {l m : List α} (h : ∀ a ∈ m, a ∈ l) :
    (l++m).eraseDups = l.eraseDups := by
  rw [eraseDups_append_filter,filter_eq_nil_iff.mpr,append_nil]
  intro a ha
  simp [h a (mem_eraseDups.mp ha)]

lemma eraseDups_append_append_of_subset {l m : List α} (n : List α) (h : ∀ a ∈ m, a ∈ l) :
    (l++m++n).eraseDups = (l++n).eraseDups := by
  rw [← eraseDups_eraseDups_append (l++m),eraseDups_append_of_subset h,eraseDups_eraseDups_append]

end

/-- A set of distinct elements in their order. -/
@[ext] structure LinkedSet (α : Type*) where
  toList : List α
  nodup : toList.Nodup

namespace LinkedSet

variable {α : Type*}

def empty : LinkedSet α := ⟨[],nodup_nil⟩

def removeIf (s : LinkedSet α) (p : α → Bool) : LinkedSet α :=
  ⟨s.toList.filter fun a => !p a,s.nodup.filter _⟩

variable (s : LinkedSet α)

@[simp] lemma toList_removeIf (p : α → Bool) :
    (s.removeIf p).toList = s.toList.filter fun a => !p a := rfl

variable [DecidableEq α]

instance : DecidableEq (LinkedSet α) := fun s t =>
  decidable_of_iff (s.toList = t.toList) LinkedSet.ext_iff.symm

def add (s : LinkedSet α) (a : α) : LinkedSet α :=
  if h : a ∈ s.toList then s
  else ⟨s.toList++[a],nodup_append.mpr ⟨s.nodup,nodup_singleton a,by
    intro b hb c hc hbc
    exact h (mem_singleton.mp hc ▸ hbc ▸ hb)⟩⟩

def addAll (s : LinkedSet α) (l : List α) : LinkedSet α := l.foldl add s

lemma toList_add (a : α) : (s.add a).toList = (s.toList++[a]).eraseDups := by
  rw [eraseDups_append_filter,eraseDups_of_nodup s.nodup]
  unfold add
  by_cases h : a ∈ s.toList
  · simp [h,eraseDups_cons]
  · simp [h,eraseDups_cons]

lemma toList_addAll (l : List α) : (s.addAll l).toList = (s.toList++l).eraseDups := by
  induction l generalizing s with
  | nil => simpa [addAll] using (eraseDups_of_nodup s.nodup).symm
  | cons a l ih =>
    have hstep : (s.addAll (a::l)) = (s.add a).addAll l := rfl
    rw [hstep,ih,toList_add,eraseDups_eraseDups_append,append_assoc,singleton_append]

end LinkedSet
end AlzheimerVPN
