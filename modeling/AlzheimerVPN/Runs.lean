import Mathlib.Data.List.Basic

/-! Finite runs of a deterministic step function. A property of a run is read
off its prefixes: `Always` speaks about every state reached, `Guarded` about
every step together with the state in which it is taken. -/
namespace AlzheimerVPN.Runs

open List

variable {S I : Type*} (step : S → I → S)

/-- The state after a finite sequence of inputs. -/
def run (s : S) (is : List I) : S := is.foldl step s

@[simp] lemma run_nil (s : S) : run step s [] = s := rfl
@[simp] lemma run_cons (s : S) (i : I) (is : List I) :
    run step s (i::is) = run step (step s i) is := rfl
@[simp] lemma run_append (s : S) (is js : List I) :
    run step s (is++js) = run step (run step s is) js := foldl_append

/-- `P` holds in every state the run passes through, its first one included. -/
def Always (P : S → Prop) (s : S) (is : List I) : Prop :=
  ∀ pre, pre <+: is → P (run step s pre)

/-- Every step of the run meets `ok` in the state in which it is taken. -/
def Guarded (ok : S → I → Prop) (s : S) (is : List I) : Prop :=
  ∀ pre i, pre++[i] <+: is → ok (run step s pre) i

@[simp] lemma always_nil (P : S → Prop) (s : S) : Always step P s [] ↔ P s := by
  constructor
  · intro h
    exact h [] (prefix_refl _)
  · intro h pre hp
    rw [prefix_nil.mp hp]
    exact h

variable (ok : S → I → Prop)

@[simp] lemma guarded_nil (s : S) : Guarded step ok s [] := by
  intro pre i hp
  have hn := prefix_nil.mp hp
  simp at hn

lemma always_cons (P : S → Prop) (s : S) (i : I) (is : List I) :
    Always step P s (i::is) ↔ P s ∧ Always step P (step s i) is := by
  constructor
  · intro h
    refine ⟨h [] (List.nil_prefix),?_⟩
    intro pre hp
    exact h (i::pre) (cons_prefix_cons.mpr ⟨rfl,hp⟩)
  · rintro ⟨hs,h⟩ pre hp
    cases pre with
    | nil => exact hs
    | cons j pre =>
      obtain ⟨rfl,hp'⟩ := cons_prefix_cons.mp hp
      exact h pre hp'

lemma guarded_cons (s : S) (i : I) (is : List I) :
    Guarded step ok s (i::is) ↔ ok s i ∧ Guarded step ok (step s i) is := by
  constructor
  · intro h
    refine ⟨h [] i (cons_prefix_cons.mpr ⟨rfl,List.nil_prefix⟩),?_⟩
    intro pre j hp
    exact h (i::pre) j (cons_prefix_cons.mpr ⟨rfl,hp⟩)
  · rintro ⟨hs,h⟩ pre j hp
    cases pre with
    | nil =>
      obtain ⟨rfl,-⟩ := cons_prefix_cons.mp hp
      exact hs
    | cons k pre =>
      obtain ⟨rfl,hp'⟩ := cons_prefix_cons.mp hp
      exact h pre j hp'

instance decidableGuarded (ok : S → I → Prop) [∀ s i, Decidable (ok s i)] :
    (s : S) → (is : List I) → Decidable (Guarded step ok s is)
  | s,[] => isTrue (guarded_nil step ok s)
  | s,i::is =>
    have := decidableGuarded ok (step s i) is
    decidable_of_iff (ok s i ∧ Guarded step ok (step s i) is) (guarded_cons step ok s i is).symm

lemma guarded_append (s : S) (is js : List I) :
    Guarded step ok s (is++js) ↔ Guarded step ok s is ∧ Guarded step ok (run step s is) js := by
  induction is generalizing s with
  | nil => simp
  | cons i is ih => rw [cons_append,guarded_cons,guarded_cons,ih,run_cons,and_assoc]

/-- A second machine that reads the same inputs can be run beside the first. -/
lemma run_pair {T : Type*} (next : T → I → T) (s : S) (t : T) (is : List I) :
    run (fun (x : S × T) i => (step x.1 i,next x.2 i)) (s,t) is =
      (run step s is,run next t is) := by
  induction is generalizing s t with
  | nil => rfl
  | cons i is ih => simpa using ih (step s i) (next t i)

/-- A view of the state that evolves on its own can be run on its own. -/
lemma run_view {T : Type*} {step : S → I → S} {next : T → I → T} (view : S → T)
    (h : ∀ s i, view (step s i) = next (view s) i) (s : S) (is : List I) :
    view (run step s is) = run next (view s) is := by
  induction is generalizing s with
  | nil => rfl
  | cons i is ih =>
    have hi := ih (step s i)
    rw [h] at hi
    simpa using hi

variable {step} {P : S → Prop} {s : S} {is : List I}

/-- The invariant rule: what one guarded step keeps, a guarded run keeps. -/
lemma run_invariant {ok : S → I → Prop} (hstep : ∀ s i, P s → ok s i → P (step s i)) (hs : P s)
    (hg : Guarded step ok s is) : P (run step s is) := by
  induction is generalizing s with
  | nil => exact hs
  | cons i is ih =>
    obtain ⟨hi,hg'⟩ := (guarded_cons step ok s i is).mp hg
    exact ih (hstep s i hs hi) hg'

/-- The invariant rule for inputs that are admissible in every state. -/
lemma run_invariant_of_forall {ok : I → Prop} (hstep : ∀ s i, P s → ok i → P (step s i))
    (hs : P s) (hok : ∀ i ∈ is, ok i) : P (run step s is) := by
  have hg : Guarded step (fun _ i => ok i) s is := by
    intro pre i hp
    exact hok i (hp.subset (by simp))
  exact run_invariant hstep hs hg

/-- What every step keeps, every run keeps. -/
lemma run_invariant_of_step (hstep : ∀ s i, P s → P (step s i)) (hs : P s) (is : List I) :
    P (run step s is) := by
  have hok : ∀ i ∈ is, True := fun _ _ => trivial
  exact run_invariant_of_forall (fun s i h _ => hstep s i h) hs hok

/-- If `ok` is exactly what keeps `P` in a step from a state with the background
invariant `W`, then the guarded runs are exactly those that never lose `P`. The
inputs may be confined to a domain `D`. -/
lemma always_iff_guarded {W : S → Prop} {ok : S → I → Prop} {D : I → Prop}
    (hW : ∀ s i, D i → W s → W (step s i))
    (hstep : ∀ s i, D i → W s → P s → (P (step s i) ↔ ok s i)) (hws : W s) (hs : P s)
    (hD : ∀ i ∈ is, D i) : Always step P s is ↔ Guarded step ok s is := by
  induction is generalizing s with
  | nil => simpa using hs
  | cons i is ih =>
    have hi := hD i (by simp)
    have ht : ∀ j ∈ is, D j := fun j hj => hD j (mem_cons_of_mem _ hj)
    rw [always_cons,guarded_cons]
    constructor
    · intro h
      have hn : P (step s i) := h.2 [] List.nil_prefix
      exact ⟨(hstep s i hi hws hs).mp hn,(ih (hW s i hi hws) hn ht).mp h.2⟩
    · intro h
      have hn : P (step s i) := (hstep s i hi hws hs).mpr h.1
      exact ⟨hs,(ih (hW s i hi hws) hn ht).mpr h.2⟩

section

variable {f : S → I → Option S} {t : S}

/-- What every round keeps, a loop whose rounds may fail keeps. -/
lemma foldlM_invariant (hstep : ∀ s i t, f s i = some t → P s → P t)
    (h : is.foldlM f s = some t) (hs : P s) : P t := by
  induction is generalizing s with
  | nil =>
    obtain rfl := Option.some.inj h
    exact hs
  | cons i is ih =>
    simp only [foldlM_cons,Option.bind_eq_bind,Option.bind_eq_some_iff] at h
    obtain ⟨u,hu,h⟩ := h
    exact ih h (hstep s i u hu hs)

/-- What each round adds to a property, the loop adds for all inputs. -/
lemma foldlM_iff {A : I → Prop} (hstep : ∀ s i t, f s i = some t → (P t ↔ P s ∨ A i))
    (h : is.foldlM f s = some t) : P t ↔ P s ∨ ∃ i ∈ is, A i := by
  induction is generalizing s with
  | nil =>
    obtain rfl := Option.some.inj h
    simp
  | cons i is ih =>
    simp only [foldlM_cons,Option.bind_eq_bind,Option.bind_eq_some_iff] at h
    obtain ⟨u,hu,h⟩ := h
    rw [ih h,hstep s i u hu,or_assoc]
    simp only [mem_cons,exists_eq_or_imp]

end

end AlzheimerVPN.Runs
