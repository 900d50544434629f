import Mathlib.Data.List.Basic
import Mathlib.Order.Defs.Unbundled
import AlzheimerVPN.Runs

/-! Handlers of one object under a nested event loop. A handler that waits for an
answer stays on a stack; further events may be dispatched on top of it, and it goes
on with the state it finds once all of them are done. -/
namespace AlzheimerVPN.Reentrancy

variable {S W A E α β : Type}

/-- How far a handler gets: to its end, or to a wait that leaves the state `s` to
whatever is dispatched meanwhile. -/
inductive Res (S W A α : Type)
  | done (a : α) (s : S)
  | wait (w : W) (s : S) (resume : A → S → Res S W A α)

def Res.bind : Res S W A α → (α → S → Res S W A β) → Res S W A β
  | .done a s,f => f a s
  | .wait w s k,f => .wait w s fun answer t => (k answer t).bind f

def Handler (S W A α : Type) := S → Res S W A α

instance : Monad (Handler S W A) where
  pure a := fun s => .done a s
  bind p f := fun s => (p s).bind f

def read : Handler S W A S := fun s => .done s s
def update (f : S → S) : Handler S W A Unit := fun s => .done () (f s)
def waitFor (w : W) : Handler S W A A := fun s => .wait w s .done
def when (c : Bool) (p : Handler S W A Unit) : Handler S W A Unit := if c then p else pure ()

@[simp] lemma pure_apply (a : α) (s : S) : (pure a : Handler S W A α) s = .done a s := rfl
@[simp] lemma bind_apply (p : Handler S W A α) (f : α → Handler S W A β) (s : S) :
    (p >>= f) s = (p s).bind fun a t => f a t := rfl
@[simp] lemma read_apply (s : S) : (read : Handler S W A S) s = .done s s := rfl
@[simp] lemma update_apply (f : S → S) (s : S) :
    (update f : Handler S W A Unit) s = .done () (f s) := rfl
@[simp] lemma done_bind (a : α) (s : S) (f : α → S → Res S W A β) :
    (Res.done a s).bind f = f a s := rfl

section

variable (I : S → Prop) (R : W → S → S → Prop)

/-- The handler leaves the invariant `I` at each of its waits and returns with `Q`, if
what is dispatched in a wait keeps `I` and changes the state by `R` only. -/
def Res.Sat (Q : α → S → Prop) : Res S W A α → Prop
  | .done a s => Q a s
  | .wait w s k => I s ∧ ∀ answer t, I t → R w s t → (k answer t).Sat Q

def Handler.SatAt (Q : α → S → Prop) (s : S) (p : Handler S W A α) : Prop := (p s).Sat I R Q

/-- The handler returns with `Q`, if each wait changes the state by `R` only. -/
abbrev Handler.EndsAt (Q : S → Prop) (s : S) (p : Handler S W A α) : Prop :=
  p.SatAt (fun _ => True) R (fun _ t => Q t) s

variable {I R}

lemma Res.Sat.mono {Q Q' : α → S → Prop} (hQ : ∀ a s, Q a s → Q' a s) {x : Res S W A α}
    (h : x.Sat I R Q) : x.Sat I R Q' := by
  induction x with
  | done a s => exact hQ a s h
  | wait w s k ih => exact ⟨h.1,fun answer t ht hr => ih answer t (h.2 answer t ht hr)⟩

variable {Q : β → S → Prop}

lemma Res.Sat.bind {x : Res S W A α} {f : α → S → Res S W A β}
    (h : x.Sat I R fun a s => (f a s).Sat I R Q) : (x.bind f).Sat I R Q := by
  induction x with
  | done a s => exact h
  | wait w s k ih => exact ⟨h.1,fun answer t ht hr => ih answer t (h.2 answer t ht hr)⟩

variable {s : S}

lemma Handler.SatAt.mono {Q Q' : α → S → Prop} {p : Handler S W A α} (h : p.SatAt I R Q s)
    (hQ : ∀ a t, Q a t → Q' a t) : p.SatAt I R Q' s :=
  Res.Sat.mono hQ h

lemma Handler.SatAt.bind {P : α → S → Prop} {p : Handler S W A α} {f : α → Handler S W A β}
    (hp : p.SatAt I R P s) (hf : ∀ a t, P a t → (f a).SatAt I R Q t) : (p >>= f).SatAt I R Q s :=
  Res.Sat.bind (hp.mono hf)

lemma satAt_trivial (p : Handler S W A α) (s : S) :
    p.SatAt (fun _ => True) R (fun _ _ => True) s := by
  rw [Handler.SatAt]
  generalize p s = x
  induction x with
  | done a t => trivial
  | wait w t k ih => exact ⟨trivial,fun answer u _ _ => ih answer u⟩

lemma satAt_update {Q : Unit → S → Prop} {f : S → S} (h : Q () (f s)) :
    (update f : Handler S W A Unit).SatAt I R Q s := h

lemma satAt_update_bind {f : S → S} {p : Unit → Handler S W A β} (h : (p ()).SatAt I R Q (f s)) :
    (update f >>= p).SatAt I R Q s := h

lemma satAt_read_bind {f : S → Handler S W A β} (h : (f s).SatAt I R Q s) :
    (read >>= f).SatAt I R Q s := h

lemma satAt_waitFor_bind {w : W} {f : A → Handler S W A β} (hs : I s)
    (hf : ∀ answer t, I t → R w s t → (f answer).SatAt I R Q t) :
    (waitFor w >>= f).SatAt I R Q s := ⟨hs,hf⟩

end

section

variable (V : W → Prop) (G : S → S → Prop)

/-- The handler waits only for what `V` names, and each stretch of it between two waits
changes the state by `G` only. -/
def Res.Steps (s : S) : Res S W A α → Prop
  | .done _ t => G s t
  | .wait w t k => V w ∧ G s t ∧ ∀ answer u, (k answer u).Steps u

def Handler.StepsAt (s : S) (p : Handler S W A α) : Prop := (p s).Steps V G s

def Handler.Steps (p : Handler S W A α) : Prop := ∀ s, p.StepsAt V G s

variable {V G} {s : S} {x : Res S W A α}

/-- Stretches that keep a predicate `P` which also survives the waits make the whole
handler keep it. -/
lemma Res.Steps.sat {I P : S → Prop} {R : W → S → S → Prop} (h : x.Steps V G s) (hs : P s)
    (hI : ∀ s, P s → I s) (hwait : ∀ w s t, V w → P s → I t → R w s t → P t)
    (hstep : ∀ s t, P s → G s t → P t) : x.Sat I R fun _ t => P t := by
  induction x generalizing s with
  | done a t => exact hstep s t hs h
  | wait w t k ih =>
    have ht := hstep s t hs h.2.1
    exact ⟨hI t ht,fun answer u hu htu =>
      ih answer u (h.2.2 answer u) (hwait w t u h.1 ht hu htu)⟩

lemma steps_update {f : S → S} (hf : ∀ s, G s (f s)) :
    Handler.Steps V G (update f : Handler S W A Unit) := hf

/-- What is read is the state in which the rest goes on. -/
lemma steps_read_bind {f : S → Handler S W A β} (hf : ∀ s, (f s).StepsAt V G s) :
    Handler.Steps V G (read >>= f) := hf

variable [IsPreorder S G]

lemma Res.Steps.trans {t : S} (hst : G s t) (h : x.Steps V G t) : x.Steps V G s := by
  cases x with
  | done a u => exact trans_of G hst h
  | wait w u k => exact ⟨h.1,trans_of G hst h.2.1,h.2.2⟩

variable {f : α → Handler S W A β}

lemma Res.Steps.bind (hx : x.Steps V G s) (hf : ∀ a, (f a).Steps V G) :
    (x.bind f).Steps V G s := by
  induction x generalizing s with
  | done a t => exact (hf a t).trans hx
  | wait w t k ih => exact ⟨hx.1,hx.2.1,fun answer u => ih answer u (hx.2.2 answer u)⟩

lemma steps_pure (a : α) : Handler.Steps V G (pure a : Handler S W A α) :=
  fun s => refl_of G s

lemma steps_read : Handler.Steps V G (read : Handler S W A S) := fun s => refl_of G s

lemma steps_waitFor {w : W} (hw : V w) : Handler.Steps V G (waitFor w : Handler S W A A) :=
  fun s => ⟨hw,refl_of G s,fun _ u => refl_of G u⟩

variable {p : Handler S W A α}

lemma Handler.StepsAt.bind (hp : p.StepsAt V G s) (hf : ∀ a, (f a).Steps V G) :
    (p >>= f).StepsAt V G s :=
  Res.Steps.bind hp hf

lemma stepsAt_update_bind {f : S → S} {p : Unit → Handler S W A β} (hf : G s (f s))
    (hp : (p ()).StepsAt V G (f s)) : (update f >>= p).StepsAt V G s :=
  Res.Steps.trans hf hp

lemma Handler.Steps.bind (hp : p.Steps V G) (hf : ∀ a, (f a).Steps V G) : (p >>= f).Steps V G :=
  fun s => (hp s).bind hf

lemma Handler.Steps.discard (hp : p.Steps V G) : (discard p).Steps V G :=
  hp.bind fun _ => steps_pure _

lemma steps_when (c : Bool) {p : Handler S W A Unit} (hp : p.Steps V G) :
    (when c p).Steps V G := by
  cases c with
  | false => exact steps_pure _
  | true => exact hp

lemma steps_read_if {c : S → Prop} [DecidablePred c] {p : S → Handler S W A α} {a : S → α}
    (hp : ∀ s, (p s).Steps V G) : (read >>= fun s => if c s then p s else pure (a s)).Steps V G := by
  refine steps_read.bind fun s => ?_
  split
  · exact hp s
  · exact steps_pure _

end

/-- A handler on the stack with the event it handles. -/
abbrev Frame (S W A E : Type) := E × (A → S → Res S W A Unit)

structure Config (S W A E : Type) where
  state : S
  stack : List (Frame S W A E)

/-- The events whose handlers wait, the innermost first. -/
def Config.waiting (c : Config S W A E) : List E := c.stack.map Prod.fst

inductive Input (E A : Type)
  | dispatch (e : E)
  | answer (a : A)

def proceed (e : E) (rest : List (Frame S W A E)) : Res S W A Unit → Config S W A E
  | .done _ s => ⟨s,rest⟩
  | .wait _ s k => ⟨s,(e,k)::rest⟩

variable (handle : List E → E → Handler S W A Unit)

/-- An event runs on top of the handlers that wait; an answer is for the innermost. -/
def step (c : Config S W A E) : Input E A → Config S W A E
  | .dispatch e => proceed e c.stack (handle c.waiting e c.state)
  | .answer a =>
    match c.stack with
    | [] => c
    | (e,k)::rest => proceed e rest (k a c.state)

/-- The events that may be dispatched, by those whose handlers wait. -/
def Admits (allowed : List E → E → Prop) (c : Config S W A E) : Input E A → Prop
  | .dispatch e => allowed c.waiting e
  | .answer _ => True

instance (allowed : List E → E → Prop) [∀ waiting e, Decidable (allowed waiting e)]
    (c : Config S W A E) : (i : Input E A) → Decidable (Admits allowed c i)
  | .dispatch e => inferInstanceAs (Decidable (allowed c.waiting e))
  | .answer _ => isTrue trivial

/-- The same, by the state as well. -/
def AdmitsAt (allowed : S → List E → E → Prop) (c : Config S W A E) : Input E A → Prop
  | .dispatch e => allowed c.state c.waiting e
  | .answer _ => True

instance (allowed : S → List E → E → Prop) [∀ s waiting e, Decidable (allowed s waiting e)]
    (c : Config S W A E) : (i : Input E A) → Decidable (AdmitsAt allowed c i)
  | .dispatch e => inferInstanceAs (Decidable (allowed c.state c.waiting e))
  | .answer _ => isTrue trivial

section

variable {V : W → Prop} {G : S → S → Prop}

/-- The handlers on the stack wait only for what `V` names and go on by `G` only, whatever
they find. -/
def Stacked (V : W → Prop) (G : S → S → Prop) (stack : List (Frame S W A E)) : Prop :=
  ∀ frame ∈ stack, ∀ answer s, (frame.2 answer s).Steps V G s

lemma proceed_stacked {e : E} {s : S} {rest : List (Frame S W A E)} {x : Res S W A Unit}
    (h : x.Steps V G s) (hrest : Stacked V G rest) :
    G s (proceed e rest x).state ∧ Stacked V G (proceed e rest x).stack := by
  cases x with
  | done a t => exact ⟨h,hrest⟩
  | wait w t k => exact ⟨h.2.1,List.forall_mem_cons.mpr ⟨h.2.2,hrest⟩⟩

lemma dispatch_stacked {c : Config S W A E} {e : E} (h : (handle c.waiting e).Steps V G)
    (hc : Stacked V G c.stack) : G c.state (step handle c (.dispatch e)).state ∧
      Stacked V G (step handle c (.dispatch e)).stack :=
  proceed_stacked (h c.state) hc

lemma answer_stacked [IsPreorder S G] {c : Config S W A E} (hc : Stacked V G c.stack) (a : A) :
    G c.state (step handle c (.answer a)).state ∧
      Stacked V G (step handle c (.answer a)).stack := by
  obtain ⟨s,stack⟩ := c
  cases stack with
  | nil => exact ⟨refl_of G s,hc⟩
  | cons frame rest =>
    obtain ⟨hframe,hrest⟩ := List.forall_mem_cons.mp hc
    exact proceed_stacked (hframe a s) hrest

end

section

variable (I : List E → S → Prop) (R : List E → S → S → Prop)

/-- The stack below the state `s`: each frame still keeps its part, whatever it finds
that its wait allows. -/
inductive Suspended : S → List (Frame S W A E) → Prop
  | nil {s : S} (hs : I [] s) : Suspended s []
  | cons {s entry left : S} {e : E} {k : A → S → Res S W A Unit} {rest : List (Frame S W A E)}
      (hs : I (e::rest.map Prod.fst) s) (hleft : R (e::rest.map Prod.fst) left s)
      (hk : ∀ answer t, I (e::rest.map Prod.fst) t → R (e::rest.map Prod.fst) left t →
        (k answer t).Sat (I (e::rest.map Prod.fst)) (fun _ => R (e::rest.map Prod.fst)) fun _ u =>
          I (rest.map Prod.fst) u ∧ R (rest.map Prod.fst) entry u)
      (hrest : Suspended entry rest) : Suspended s ((e,k)::rest)

variable {I R}

lemma Suspended.holds {s : S} {stack : List (Frame S W A E)} (h : Suspended I R s stack) :
    I (stack.map Prod.fst) s := by
  cases h with
  | nil hs => exact hs
  | cons hs _ _ _ => exact hs

variable (hrefl : ∀ L s, R L s s) (htrans : ∀ L s t u, R L s t → R L t u → R L s u)

include htrans in
lemma Suspended.advance {s t : S} {stack : List (Frame S W A E)} (h : Suspended I R s stack)
    (ht : I (stack.map Prod.fst) t) (hst : R (stack.map Prod.fst) s t) : Suspended I R t stack := by
  cases h with
  | nil _ => exact .nil ht
  | cons hs hleft hk hrest => exact .cons ht (htrans _ _ _ _ hleft hst) hk hrest

include hrefl htrans in
lemma Suspended.proceed {entry : S} {e : E} {rest : List (Frame S W A E)}
    (h : Suspended I R entry rest) {x : Res S W A Unit}
    (hx : x.Sat (I (e::rest.map Prod.fst)) (fun _ => R (e::rest.map Prod.fst)) fun _ u =>
      I (rest.map Prod.fst) u ∧ R (rest.map Prod.fst) entry u) :
    Suspended I R (proceed e rest x).state (proceed e rest x).stack := by
  cases x with
  | done a t => exact h.advance htrans hx.1 hx.2
  | wait w t k => exact .cons hx.1 (hrefl _ _) hx.2 h

include hrefl htrans in
/-- The rule for nested handlers: if every handler keeps its part of `I` and `R` in the
company it is dispatched in, every run keeps `I`. -/
lemma Suspended.run {allowed : S → List E → E → Prop} (hhandle : ∀ L e s, allowed s L e → I L s →
      (handle L e).SatAt (I (e::L)) (fun _ => R (e::L)) (fun _ t => I L t ∧ R L s t) s)
    {c : Config S W A E} (hc : Suspended I R c.state c.stack) {inputs : List (Input E A)}
    (hg : Runs.Guarded (step handle) (AdmitsAt allowed) c inputs) :
    I (Runs.run (step handle) c inputs).waiting (Runs.run (step handle) c inputs).state := by
  have hstep : ∀ (c : Config S W A E) (i : Input E A), Suspended I R c.state c.stack →
      AdmitsAt allowed c i →
      Suspended I R (step handle c i).state (step handle c i).stack := by
    intro c i hc hi
    cases i with
    | dispatch e => exact hc.proceed hrefl htrans (hhandle _ _ _ hi hc.holds)
    | answer a =>
      obtain ⟨t,stack⟩ := c
      cases hc with
      | nil hs => exact .nil hs
      | cons hs hleft hk hrest => exact hrest.proceed hrefl htrans (hk a t hs hleft)
  exact (Runs.run_invariant (P := fun c => Suspended I R c.state c.stack) hstep hc hg).holds

include hrefl htrans in
/-- The rule for events that are admitted in every state. -/
lemma run_holds {allowed : List E → E → Prop} (hhandle : ∀ L e s, allowed L e → I L s →
      (handle L e).SatAt (I (e::L)) (fun _ => R (e::L)) (fun _ t => I L t ∧ R L s t) s)
    {s : S} (hs : I [] s) {inputs : List (Input E A)}
    (hg : Runs.Guarded (step handle) (Admits allowed) ⟨s,[]⟩ inputs) :
    I (Runs.run (step handle) ⟨s,[]⟩ inputs).waiting
      (Runs.run (step handle) ⟨s,[]⟩ inputs).state := by
  have hg' : Runs.Guarded (step handle) (AdmitsAt fun _ => allowed) ⟨s,[]⟩ inputs := by
    intro pre i hpre
    cases i with
    | dispatch e => exact hg pre (.dispatch e) hpre
    | answer a => trivial
  exact Suspended.run handle hrefl htrans hhandle (c := ⟨s,[]⟩) (.nil hs) hg'

end

section

variable (passes : W → S → S → Prop)

/-- The handler returns `a` in the state `u`, if in each of its waits only that is
dispatched which `passes` tells. -/
inductive Returns : Res S W A α → α → S → Prop
  | done (a : α) (s : S) : Returns (.done a s) a s
  | wait {w : W} {s t u : S} {k : A → S → Res S W A α} {a : α} (answer : A)
      (hw : passes w s t) (hk : Returns (k answer t) a u) : Returns (.wait w s k) a u

variable {passes}

lemma Returns.of_sat {x : Res S W A α} {a : α} {u : S} (h : Returns passes x a u)
    {Q : α → S → Prop} (hx : x.Sat (fun _ => True) passes Q) : Q a u := by
  induction h with
  | done a s => exact hx
  | wait answer hw _ ih => exact ih (hx.2 answer _ trivial hw)

lemma Returns.bind {x : Res S W A α} {f : α → S → Res S W A β} {a : α} {t : S} {b : β} {u : S}
    (hx : Returns passes x a t) (hf : Returns passes (f a t) b u) :
    Returns passes (x.bind f) b u := by
  induction hx with
  | done a s => exact hf
  | wait answer hw _ ih => exact .wait answer hw (ih hf)

lemma exists_returns [Nonempty A] (hpasses : ∀ w s, ∃ t, passes w s t) (x : Res S W A α) :
    ∃ a u, Returns passes x a u := by
  obtain ⟨answer⟩ := ‹Nonempty A›
  induction x with
  | done a s => exact ⟨a,s,.done a s⟩
  | wait w s k ih =>
    obtain ⟨t,ht⟩ := hpasses w s
    obtain ⟨a,u,hu⟩ := ih answer t
    exact ⟨a,u,.wait answer ht hu⟩

end

/-- Where the handler gets with these answers in their order, if they are just those it
waits for and nothing is dispatched meanwhile. -/
def Res.follow : Res S W A α → List A → Option (α × S)
  | .done a s,[] => some (a,s)
  | .done _ _,_::_ => none
  | .wait _ _ _,[] => none
  | .wait _ s k,answer::answers => (k answer s).follow answers

def Handler.Follows (answers : List A) (p : Handler S W A α) (s : S) (a : α) (t : S) : Prop :=
  (p s).follow answers = some (a,t)

lemma Res.follow_bind {x : Res S W A α} {f : α → S → Res S W A β} {answers : List A} {a : α}
    {t : S} (hx : x.follow answers = some (a,t)) (rest : List A) :
    (x.bind f).follow (answers++rest) = (f a t).follow rest := by
  induction x generalizing answers with
  | done b s =>
    cases answers with
    | nil =>
      cases hx
      rfl
    | cons answer answers => cases hx
  | wait w s k ih =>
    cases answers with
    | nil => cases hx
    | cons answer answers => exact ih answer s hx

lemma Handler.Follows.bind {p : Handler S W A α} {f : α → Handler S W A β}
    {answers rest : List A} {s t u : S} {a : α} {b : β} (hp : p.Follows answers s a t)
    (hf : (f a).Follows rest t b u) : (p >>= f).Follows (answers++rest) s b u :=
  (Res.follow_bind hp rest).trans hf

end AlzheimerVPN.Reentrancy
