import Mathlib.Logic.Function.Iterate
import Mathlib.Data.Nat.Basic

/-! A search that steps from element to element until it finds one that is not
busy. The number of steps is bounded; what is found with more steps is the same. -/
namespace AlzheimerVPN.Search

variable {α : Type*} (next : α → α) (busy : α → Bool)

/-- The first element after `a` that is not busy, within a number of steps. -/
def search : ℕ → α → Option α
  | 0, _ => none
  | fuel+1, a => if busy (next a) then search fuel (next a) else some (next a)

lemma search_isSome_iff (fuel : ℕ) (a : α) :
    (search next busy fuel a).isSome ↔ ∃ k < fuel, busy (next^[k+1] a) = false := by
  induction fuel generalizing a with
  | zero => simp [search]
  | succ fuel ih =>
    rw [search]
    cases hb : busy (next a) with
    | false =>
      have hfound : ∃ k < fuel+1, busy (next^[k+1] a) = false := ⟨0,by omega,hb⟩
      simpa using hfound
    | true =>
      rw [if_pos rfl,ih]
      constructor
      · rintro ⟨k,hk,hfree⟩
        exact ⟨k+1,by omega,hfree⟩
      · rintro ⟨k,hk,hfree⟩
        cases k with
        | zero => exact absurd hfree (by simp [hb])
        | succ k => exact ⟨k,by omega,hfree⟩

lemma search_eq_some {fuel : ℕ} {a b : α} (h : search next busy fuel a = some b) :
    busy b = false ∧ ∃ k, b = next^[k+1] a := by
  induction fuel generalizing a with
  | zero => cases h
  | succ fuel ih =>
    rw [search] at h
    split_ifs at h with hb
    · obtain ⟨hfree,k,hk⟩ := ih h
      exact ⟨hfree,k+1,hk⟩
    · cases h
      exact ⟨by simpa using hb,0,rfl⟩

end AlzheimerVPN.Search
