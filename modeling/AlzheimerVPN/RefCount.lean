import Mathlib.Data.List.Count
import Mathlib.Logic.Function.Basic

/-! Reference counts: a count per key, raised and lowered one holder at a time.
A count that is lowered below zero stays at zero. -/
namespace AlzheimerVPN.RefCount

variable {α : Type*} [DecidableEq α] (counts : α → ℕ)

def raise (a : α) : α → ℕ := Function.update counts a (counts a+1)

def lower (a : α) : α → ℕ := Function.update counts a (counts a-1)

lemma raise_apply (a b : α) : raise counts a b = counts b+[a].count b := by
  by_cases h : b = a
  · simp [raise,h]
  · simp [raise,h,Ne.symm h]

lemma lower_apply (a b : α) : lower counts a b = counts b-[a].count b := by
  by_cases h : b = a
  · simp [lower,h]
  · simp [lower,h,Ne.symm h]

lemma count_cons_eq_add (a b : α) (xs : List α) : (a::xs).count b = [a].count b+xs.count b := by
  rw [← List.count_append]
  rfl

lemma foldl_raise_apply (xs : List α) (b : α) :
    xs.foldl raise counts b = counts b+xs.count b := by
  induction xs generalizing counts with
  | nil => rfl
  | cons a xs ih =>
    rw [List.foldl_cons,ih,raise_apply,count_cons_eq_add a b xs,Nat.add_assoc]

lemma foldl_lower_apply (xs : List α) (b : α) :
    xs.foldl lower counts b = counts b-xs.count b := by
  induction xs generalizing counts with
  | nil => rfl
  | cons a xs ih =>
    rw [List.foldl_cons,ih,lower_apply,count_cons_eq_add a b xs,Nat.sub_sub]

end AlzheimerVPN.RefCount
