import Mathlib.Data.List.Basic

/-! Replacement of every occurrence of a list in another one, from left to right and without
overlaps, up to a comparison of single elements. -/
namespace AlzheimerVPN.Replacement

open List Bool

variable {α : Type*} (same : α → α → Bool) (sub new : List α)

def startsWith : List α → List α → Bool
  | [], _ => true
  | _::_, [] => false
  | p::ps, c::cs => same p c && startsWith ps cs

def contains : List α → Bool
  | [] => sub.isEmpty
  | c::cs => startsWith same sub (c::cs) || contains cs

/-- The elements that belong to the last occurrence are skipped. -/
def replace : ℕ → List α → List α
  | _, [] => []
  | skip+1, _::cs => replace skip cs
  | 0, c::cs =>
    if startsWith same sub (c::cs) then new++replace (sub.length-1) cs else c::replace 0 cs

variable {same sub new} {x y : List α} {sep : α}

lemma replace_skip (k : ℕ) (x : List α) :
    replace same sub new k x = replace same sub new 0 (x.drop k) := by
  induction x generalizing k with
  | nil => simp [replace]
  | cons c cs ih =>
    cases k with
    | zero => rfl
    | succ k => exact ih k

lemma replace_of_startsWith (hsub : sub ≠ []) (hx : x ≠ []) (h : startsWith same sub x) :
    replace same sub new 0 x = new++replace same sub new 0 (x.drop sub.length) := by
  obtain ⟨p,ps,rfl⟩ := exists_cons_of_ne_nil hsub
  obtain ⟨c,cs,rfl⟩ := exists_cons_of_ne_nil hx
  rw [replace,if_pos h,replace_skip]
  rfl

lemma replace_of_not {c : α} (h : startsWith same sub (c::x) = false) :
    replace same sub new 0 (c::x) = c::replace same sub new 0 x := by
  rw [replace,h]
  rfl

/-- Induction along a replacement: an occurrence is taken as a whole, any other element alone. -/
lemma replace_induction {P : List α → List α → Prop} (hsub : sub ≠ []) (nil : P [] [])
    (occurrence : ∀ x, x ≠ [] → startsWith same sub x →
      P (x.drop sub.length) (replace same sub new 0 (x.drop sub.length)) →
        P x (new++replace same sub new 0 (x.drop sub.length)))
    (other : ∀ c x, startsWith same sub (c::x) = false → P x (replace same sub new 0 x) →
      P (c::x) (c::replace same sub new 0 x)) (x : List α) : P x (replace same sub new 0 x) := by
  induction hn : x.length using Nat.strongRecOn generalizing x with
  | ind n ih =>
    subst hn
    cases x with
    | nil => exact nil
    | cons c cs =>
      cases hc : startsWith same sub (c::cs) with
      | true =>
        have hpos := length_pos_of_ne_nil hsub
        rw [replace_of_startsWith hsub (by simp) hc]
        exact occurrence _ (by simp) hc (ih _ (by simp; omega) _ rfl)
      | false =>
        rw [replace_of_not hc]
        exact other c cs hc (ih _ (by simp) _ rfl)

lemma length_le_of_startsWith (h : startsWith same sub x) : sub.length ≤ x.length := by
  induction sub generalizing x with
  | nil => simp
  | cons p ps ih =>
    cases x with
    | nil => simp [startsWith] at h
    | cons c cs =>
      have hcs := ih ((and_eq_true _ _ ▸ h).2)
      simpa using hcs

lemma startsWith_append (h : sub.length ≤ x.length) :
    startsWith same sub (x++y) = startsWith same sub x := by
  induction sub generalizing x with
  | nil => simp [startsWith]
  | cons p ps ih =>
    cases x with
    | nil => simp at h
    | cons c cs => rw [cons_append,startsWith,startsWith,ih (by simpa using h)]

lemma startsWith_append_sep (hsep : ∀ p ∈ sub, same p sep = false) :
    startsWith same sub (x++sep::y) = startsWith same sub x := by
  induction sub generalizing x with
  | nil => simp [startsWith]
  | cons p ps ih =>
    cases x with
    | nil => simp [startsWith,hsep p mem_cons_self]
    | cons c cs =>
      rw [cons_append,startsWith,startsWith,ih fun q hq => hsep q (mem_cons_of_mem _ hq)]

variable (new) in
/-- No occurrence reaches over an element that is in no occurrence. -/
lemma replace_append_sep (hsub : sub ≠ []) (hsep : ∀ p ∈ sub, same p sep = false)
    (x y : List α) : replace same sub new 0 (x++sep::y) =
      replace same sub new 0 x++sep::replace same sub new 0 y := by
  refine replace_induction (P := fun x r => replace same sub new 0 (x++sep::y) =
    r++sep::replace same sub new 0 y) hsub ?_ ?_ ?_ x
  · have hstart := startsWith_append_sep (x := []) (y := y) hsep
    obtain ⟨p,ps,rfl⟩ := exists_cons_of_ne_nil hsub
    exact replace_of_not hstart
  · intro x hx hstart ih
    rw [replace_of_startsWith hsub (by simp) (by rwa [startsWith_append_sep hsep]),
      drop_append_of_le_length (length_le_of_startsWith hstart),ih,append_assoc]
  · intro c x hstart ih
    rw [cons_append,replace_of_not (by rwa [← cons_append,startsWith_append_sep hsep]),ih,
      cons_append]

variable (new) in
/-- Nor over the place before such an element. -/
lemma replace_append (hsub : sub ≠ [])
    (hy : ∀ sep ∈ y.head?, ∀ p ∈ sub, same p sep = false) (x : List α) :
    replace same sub new 0 (x++y) = replace same sub new 0 x++replace same sub new 0 y := by
  cases y with
  | nil => simp [replace]
  | cons sep y =>
    have hsep := hy sep rfl
    have hy := replace_append_sep new hsub hsep [] y
    rw [replace_append_sep new hsub hsep]
    exact congrArg _ hy.symm

lemma startsWith_eq_false_of_mem {p : α} (hp : p ∈ sub) (h : ∀ c ∈ x, same p c = false) :
    startsWith same sub x = false := by
  induction sub generalizing x with
  | nil => simp at hp
  | cons q qs ih =>
    cases x with
    | nil => rfl
    | cons c cs =>
      rw [startsWith,and_eq_false_iff]
      rcases mem_cons.mp hp with rfl | hp
      · exact .inl (h c mem_cons_self)
      · exact .inr (ih hp fun d hd => h d (mem_cons_of_mem _ hd))

lemma contains_eq_false_of_mem {p : α} (hp : p ∈ sub) (h : ∀ c ∈ x, same p c = false) :
    contains same sub x = false := by
  induction x with
  | nil =>
    rw [contains,isEmpty_eq_false_iff]
    exact ne_nil_of_mem hp
  | cons c cs ih =>
    rw [contains,startsWith_eq_false_of_mem hp h,ih fun d hd => h d (mem_cons_of_mem _ hd)]
    rfl

lemma replace_eq_self (h : contains same sub x = false) : replace same sub new 0 x = x := by
  induction x with
  | nil => rfl
  | cons c cs ih =>
    obtain ⟨hstart,hcs⟩ := or_eq_false_iff.mp h
    rw [replace_of_not hstart,ih hcs]

section

variable [DecidableEq α]

lemma startsWith_decide_iff : startsWith (fun p c => decide (p = c)) sub x ↔ sub <+: x := by
  induction sub generalizing x with
  | nil => simp [startsWith]
  | cons p ps ih =>
    cases x with
    | nil => simp [startsWith]
    | cons c cs => simp [startsWith,ih,cons_prefix_cons]

lemma infix_of_contains (h : contains (fun p c => decide (p = c)) sub x) : sub <:+: x := by
  induction x with
  | nil =>
    rw [contains,List.isEmpty_iff] at h
    subst h
    exact List.infix_refl _
  | cons c cs ih =>
    rcases (or_eq_true _ _).mp h with hstart | hcs
    · exact (startsWith_decide_iff.mp hstart).isInfix
    · exact (ih hcs).trans (List.infix_cons (List.infix_refl _))

end

lemma startsWith_of_map_eq {β : Type*} [DecidableEq β] {f : α → β} (h : x.map f = sub.map f) :
    startsWith (fun p c => decide (f p = f c)) sub x := by
  induction sub generalizing x with
  | nil => rfl
  | cons p ps ih =>
    cases x with
    | nil => simp at h
    | cons c cs =>
      obtain ⟨hc,hcs⟩ := List.cons.inj h
      simp [startsWith,ih hcs,hc]

variable (same sub new) in
lemma length_replace_le (hsub : sub ≠ []) (hlen : new.length ≤ sub.length) (x : List α) :
    (replace same sub new 0 x).length ≤ x.length := by
  refine replace_induction (P := fun x r => r.length ≤ x.length) hsub (Nat.le_refl _) ?_ ?_ x
  · intro x _ hstart ih
    have hle := length_le_of_startsWith hstart
    simp only [length_append,length_drop] at ih ⊢
    omega
  · intro c x _ ih
    simpa using ih

variable (new) in
/-- A replacement by something shorter changes what contains an occurrence. -/
lemma length_replace_lt (hsub : sub ≠ []) (hlen : new.length < sub.length)
    (h : contains same sub x) : (replace same sub new 0 x).length < x.length := by
  induction x with
  | nil =>
    rw [contains,List.isEmpty_iff] at h
    exact absurd h hsub
  | cons c cs ih =>
    cases hstart : startsWith same sub (c::cs) with
    | true =>
      have hle := length_le_of_startsWith hstart
      have hrest := length_replace_le same sub new hsub (Nat.le_of_lt hlen)
        ((c::cs).drop sub.length)
      rw [replace_of_startsWith hsub (by simp) hstart]
      simp only [List.length_append,List.length_drop] at hrest ⊢
      omega
    | false =>
      rw [contains,hstart,Bool.false_or] at h
      rw [replace_of_not hstart]
      simpa using ih h

/-- A replacement by something else of the same length does, too. -/
lemma contains_eq_false_of_replace_eq (hsub : sub ≠ []) (hlen : new.length = sub.length)
    (hnew : startsWith same sub new = false) (h : replace same sub new 0 x = x) :
    contains same sub x = false := by
  induction x with
  | nil =>
    rw [contains,isEmpty_eq_false_iff]
    exact hsub
  | cons c cs ih =>
    cases hstart : startsWith same sub (c::cs) with
    | true =>
      rw [replace_of_startsWith hsub (by simp) hstart] at h
      rw [← h,startsWith_append (Nat.le_of_eq hlen.symm),hnew] at hstart
      cases hstart
    | false =>
      rw [replace_of_not hstart] at h
      rw [contains,hstart,Bool.false_or]
      exact ih (List.cons.inj h).2

lemma mem_replace {c : α} {skip : ℕ} (h : c ∈ replace same sub new skip x) : c ∈ new ∨ c ∈ x := by
  induction x generalizing skip with
  | nil => simp [replace] at h
  | cons d ds ih =>
    cases skip with
    | succ skip => exact (ih h).imp_right (mem_cons_of_mem d)
    | zero =>
      rw [replace] at h
      split at h
      · rcases mem_append.mp h with h | h
        · exact .inl h
        · exact (ih h).imp_right (mem_cons_of_mem d)
      · rcases mem_cons.mp h with rfl | h
        · exact .inr mem_cons_self
        · exact (ih h).imp_right (mem_cons_of_mem d)

variable (same sub new) in
lemma length_le_replace (hsub : sub ≠ []) (hlen : sub.length ≤ new.length) (x : List α) :
    x.length ≤ (replace same sub new 0 x).length := by
  refine replace_induction (P := fun x r => x.length ≤ r.length) hsub (Nat.le_refl _) ?_ ?_ x
  · intro x _ _ ih
    simp only [length_append,length_drop] at ih ⊢
    omega
  · intro c x _ ih
    simpa using ih

variable (new) in
/-- So does a replacement by something longer. -/
lemma length_lt_replace (hsub : sub ≠ []) (hlen : sub.length < new.length)
    (h : contains same sub x) : x.length < (replace same sub new 0 x).length := by
  induction x with
  | nil =>
    rw [contains,List.isEmpty_iff] at h
    exact absurd h hsub
  | cons c cs ih =>
    cases hstart : startsWith same sub (c::cs) with
    | true =>
      have hrest := length_le_replace same sub new hsub (Nat.le_of_lt hlen)
        ((c::cs).drop sub.length)
      rw [replace_of_startsWith hsub (by simp) hstart]
      simp only [List.length_append,List.length_drop] at hrest ⊢
      omega
    | false =>
      rw [contains,hstart,Bool.false_or] at h
      rw [replace_of_not hstart]
      simpa using ih h

end AlzheimerVPN.Replacement
