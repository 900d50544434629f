import AlzheimerVPN.Replacement
import Mathlib.Data.List.Forall2

/-! Texts with holes between separators, all filled with the same word. Replacing the word
wherever it stands is filling the holes anew, if it stands nowhere else, and only then. -/
namespace AlzheimerVPN.Templates

open Replacement

variable {α : Type*} (sep : α)

/-- The pieces of a text, with a word between separators where two of them meet. -/
def fill (word : List α) : List α → List (List α) → List α
  | piece, [] => piece
  | piece, next::pieces => piece++sep::(word++sep::fill word next pieces)

/-- A text that depends on a word only through holes for it. -/
def Holed (text : List α → List α) : Prop :=
  ∃ piece pieces, ∀ word, text word = fill sep word piece pieces

section

variable {sep} {text text' : List α → List α} {word : List α}

lemma append_fill (x piece : List α) (pieces : List (List α)) :
    x++fill sep word piece pieces = fill sep word (x++piece) pieces := by
  cases pieces <;> simp [fill]

variable (sep) in
lemma fill_append_fill (piece piece' : List α) (pieces pieces' : List (List α)) :
    ∃ piece'' pieces'', ∀ word : List α, fill sep word piece pieces++fill sep word piece' pieces' =
      fill sep word piece'' pieces'' := by
  induction pieces generalizing piece with
  | nil => exact ⟨piece++piece',pieces',fun word => append_fill piece piece' pieces'⟩
  | cons next pieces ih =>
    obtain ⟨piece'',pieces'',h⟩ := ih next
    refine ⟨piece,piece''::pieces'',fun word => ?_⟩
    simp [fill,h word]

lemma holed_const (x : List α) : Holed sep fun _ => x := ⟨x,[],fun _ => rfl⟩

lemma holed_hole : Holed sep fun word => sep::(word++[sep]) := ⟨[],[[]],fun _ => rfl⟩

lemma Holed.append (h : Holed sep text) (h' : Holed sep text') :
    Holed sep fun word => text word++text' word := by
  obtain ⟨piece,pieces,htext⟩ := h
  obtain ⟨piece',pieces',htext'⟩ := h'
  obtain ⟨piece'',pieces'',hfill⟩ := fill_append_fill sep piece piece' pieces pieces'
  refine ⟨piece'',pieces'',fun word => ?_⟩
  simp only [htext,htext',hfill]

lemma Holed.cons (h : Holed sep text) (c : α) : Holed sep fun word => c::text word :=
  (holed_const [c]).append h

end

section

variable {sep} {word piece piece' : List α} {pieces pieces' : List (List α)}

variable (sep word) in
lemma length_fill_le (hpiece : piece'.length ≤ piece.length)
    (hpieces : List.Forall₂ (fun x' x => x'.length ≤ x.length) pieces' pieces) :
    (fill sep word piece' pieces').length ≤ (fill sep word piece pieces).length := by
  induction hpieces generalizing piece piece' with
  | nil => exact hpiece
  | cons hnext _ ih =>
    have hrest := ih hnext
    simp only [fill,List.length_append,List.length_cons]
    omega

/-- Pieces that are nowhere longer give the same text only if they are the same. -/
lemma fill_inj_of_le (hpiece : piece'.length ≤ piece.length)
    (hpieces : List.Forall₂ (fun x' x => x'.length ≤ x.length) pieces' pieces)
    (h : fill sep word piece' pieces' = fill sep word piece pieces) :
    piece' = piece ∧ pieces' = pieces := by
  induction hpieces generalizing piece piece' with
  | nil => exact ⟨h,rfl⟩
  | @cons next' next rest' rest hnext hrest ih =>
    have hlength := congrArg List.length h
    have hle := length_fill_le sep word hnext hrest
    simp only [fill,List.length_append,List.length_cons] at hlength
    obtain ⟨rfl,htail⟩ := List.append_inj h (by omega)
    have htail := List.append_cancel_left (List.cons.inj htail).2
    obtain ⟨rfl,rfl⟩ := ih hnext (List.cons.inj htail).2
    exact ⟨rfl,rfl⟩

end

section

variable {sep} {sub new : List α}

lemma contains_append_sep {same : α → α → Bool} (hsub : sub ≠ [])
    (hsep : ∀ p ∈ sub, same p sep = false) (x y : List α) :
    contains same sub (x++sep::y) = (contains same sub x || contains same sub y) := by
  induction x with
  | nil =>
    have hstart : startsWith same sub (sep::y) = startsWith same sub [] :=
      startsWith_append_sep (x := []) hsep
    rw [List.nil_append,contains,contains,hstart]
    obtain ⟨p,ps,rfl⟩ := List.exists_cons_of_ne_nil hsub
    rfl
  | cons c x ih =>
    have hstart : startsWith same sub (c::(x++sep::y)) = startsWith same sub (c::x) :=
      startsWith_append_sep (x := c::x) hsep
    rw [List.cons_append,contains,contains,hstart,ih,Bool.or_assoc]

lemma contains_fill_nil {same : α → α → Bool} (hsub : sub ≠ [])
    (hsep : ∀ p ∈ sub, same p sep = false) (piece : List α) (pieces : List (List α)) :
    contains same sub (fill sep [] piece pieces) = false ↔
      ∀ x ∈ piece::pieces, contains same sub x = false := by
  induction pieces generalizing piece with
  | nil => simp [fill]
  | cons next pieces ih =>
    have hnone : contains same sub [] = false := List.isEmpty_eq_false_iff.mpr hsub
    have hrest := contains_append_sep hsub hsep [] (fill sep [] next pieces)
    rw [List.nil_append,hnone,Bool.false_or] at hrest
    rw [fill,contains_append_sep hsub hsep,List.nil_append,hrest,Bool.or_eq_false_iff,ih]
    simp only [List.forall_mem_cons]

variable [DecidableEq α]

/-- A replacement leaves a text alone only if there is nothing to replace. -/
lemma replace_eq_self_iff (hsub : sub ≠ []) (hne : new ≠ sub) (x : List α) :
    replace (fun p c => decide (p = c)) sub new 0 x = x ↔
      contains (fun p c => decide (p = c)) sub x = false := by
  refine ⟨?_,replace_eq_self⟩
  intro h
  by_contra hcontains
  rw [Bool.not_eq_false] at hcontains
  have hlength := congrArg List.length h
  rcases Nat.lt_trichotomy new.length sub.length with hlt | heq | hgt
  · have hshort := length_replace_lt new hsub hlt hcontains
    omega
  · have hstart : startsWith (fun p c => decide (p = c)) sub new = false := by
      rw [Bool.eq_false_iff,ne_eq,startsWith_decide_iff]
      intro hpre
      exact hne (hpre.eq_of_length heq.symm).symm
    rw [contains_eq_false_of_replace_eq hsub heq hstart h] at hcontains
    cases hcontains
  · have hlong := length_lt_replace new hsub hgt hcontains
    omega

variable (hsub : sub ≠ []) (hsep : sep ∉ sub)

include hsub hsep

lemma replace_fill (piece : List α) (pieces : List (List α)) :
    replace (fun p c => decide (p = c)) sub new 0 (fill sep sub piece pieces) =
      fill sep new (replace (fun p c => decide (p = c)) sub new 0 piece)
        (pieces.map (replace (fun p c => decide (p = c)) sub new 0)) := by
  have happart : ∀ p ∈ sub, decide (p = sep) = false := by
    intro p hp
    exact decide_eq_false fun heq => hsep (heq ▸ hp)
  have hself : replace (fun p c => decide (p = c)) sub new 0 sub = new := by
    rw [replace_of_startsWith hsub hsub (startsWith_decide_iff.mpr (List.prefix_refl _)),
      List.drop_length]
    exact List.append_nil _
  induction pieces generalizing piece with
  | nil => rfl
  | cons next pieces ih =>
    rw [fill,replace_append_sep new hsub happart,replace_append_sep new hsub happart,hself,ih]
    rfl

/-- The word stands only in the holes. -/
lemma replace_fill_iff (hne : new ≠ sub) (piece : List α) (pieces : List (List α)) :
    replace (fun p c => decide (p = c)) sub new 0 (fill sep sub piece pieces) =
        fill sep new piece pieces ↔
      contains (fun p c => decide (p = c)) sub (fill sep [] piece pieces) = false := by
  have happart : ∀ p ∈ sub, decide (p = sep) = false := by
    intro p hp
    exact decide_eq_false fun heq => hsep (heq ▸ hp)
  rw [replace_fill hsub hsep,contains_fill_nil hsub happart]
  have hpieces : (∀ x ∈ piece::pieces, contains (fun p c => decide (p = c)) sub x = false) ↔
      replace (fun p c => decide (p = c)) sub new 0 piece = piece ∧
        pieces.map (replace (fun p c => decide (p = c)) sub new 0) = pieces := by
    rw [List.forall_mem_cons,← replace_eq_self_iff hsub hne]
    refine and_congr_right fun _ => ?_
    have hmap := List.map_inj_left (l := pieces)
      (f := replace (fun p c => decide (p = c)) sub new 0) (g := id)
    rw [List.map_id] at hmap
    rw [hmap]
    exact forall₂_congr fun x _ => (replace_eq_self_iff hsub hne x).symm
  rw [hpieces]
  constructor
  · intro h
    rcases Nat.le_total new.length sub.length with hle | hle
    · exact fill_inj_of_le (length_replace_le _ _ _ hsub hle _)
        (List.forall₂_map_left_iff.mpr (List.forall₂_same.mpr fun x _ =>
          length_replace_le _ _ _ hsub hle x)) h
    · have hinj := fill_inj_of_le (length_le_replace _ _ _ hsub hle _)
        (List.forall₂_map_right_iff.mpr (List.forall₂_same.mpr fun x _ =>
          length_le_replace _ _ _ hsub hle x)) h.symm
      exact ⟨hinj.1.symm,hinj.2.symm⟩
  · rintro ⟨hpiece,hrest⟩
    rw [hpiece,hrest]

end

end AlzheimerVPN.Templates
