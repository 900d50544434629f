import Mathlib.Data.List.Infix
import AlzheimerVPN.Text

/-! Searching a text. The matches of a pattern are found from left to right and do not overlap;
a text without a separator stands between two separators; a text that arrives in pieces with a
line feed after each of them keeps what no piece ends in. -/
namespace AlzheimerVPN.Scan

open Text List

section

variable {α : Type*} (pattern : List Char → Option (α × ℕ))

/-- The captures of the matches of a pattern, which gives what it captures at the start of a text
and how many characters it takes. The next `skip` characters belong to the match before. -/
def matchesFrom : ℕ → List Char → List α
  | _, [] => []
  | skip+1, _::cs => matchesFrom skip cs
  | 0, c::cs =>
    match pattern (c::cs) with
    | some (a,taken) => a::matchesFrom (taken-1) cs
    | none => matchesFrom 0 cs

/-- `QRegularExpression::globalMatch` -/
def globalMatch (cs : List Char) : List α := matchesFrom pattern 0 cs

variable {pattern} {skip : ℕ}

lemma exists_of_mem_matchesFrom {cs : List Char} {a : α} (h : a ∈ matchesFrom pattern skip cs) :
    ∃ s taken, s <:+ cs ∧ pattern s = some (a,taken) := by
  induction cs generalizing skip with
  | nil => simp [matchesFrom] at h
  | cons c cs ih =>
    have later : ∀ {skip}, a ∈ matchesFrom pattern skip cs →
        ∃ s taken, s <:+ c::cs ∧ pattern s = some (a,taken) := by
      intro skip hin
      obtain ⟨s,taken,hs,hp⟩ := ih hin
      exact ⟨s,taken,hs.trans (suffix_cons c cs),hp⟩
    cases skip with
    | succ skip => exact later h
    | zero =>
      rw [matchesFrom] at h
      cases hp : pattern (c::cs) with
      | none =>
        rw [hp] at h
        exact later h
      | some found =>
        rw [hp] at h
        rcases mem_cons.mp h with rfl | hin
        · exact ⟨c::cs,found.2,suffix_refl _,hp⟩
        · exact later hin

lemma matchesFrom_eq_nil {cs : List Char} (h : ∀ s, s <:+ cs → pattern s = none) :
    matchesFrom pattern skip cs = [] := by
  rw [eq_nil_iff_forall_not_mem]
  intro a ha
  obtain ⟨s,taken,hs,hp⟩ := exists_of_mem_matchesFrom ha
  rw [h s hs] at hp
  cases hp

/-- Matches that begin in `x` and end in `x` leave the matches of what follows as they are. -/
lemma matchesFrom_append {x y : List Char}
    (h : ∀ s, s <:+ x → s ≠ [] → ∀ a taken, pattern (s++y) = some (a,taken) → taken ≤ s.length)
    (hskip : skip ≤ x.length) :
    ∃ before, matchesFrom pattern skip (x++y) = before++matchesFrom pattern 0 y := by
  induction x generalizing skip with
  | nil =>
    obtain rfl : skip = 0 := by simpa using hskip
    exact ⟨[],rfl⟩
  | cons c cs ih =>
    have hcs : ∀ s, s <:+ cs → s ≠ [] → ∀ a taken, pattern (s++y) = some (a,taken) →
        taken ≤ s.length := fun s hs => h s (hs.trans (suffix_cons c cs))
    cases skip with
    | succ skip => exact ih hcs (by simpa using hskip)
    | zero =>
      rw [cons_append,matchesFrom]
      cases hp : pattern (c::(cs++y)) with
      | none => exact ih hcs (Nat.zero_le _)
      | some found =>
        have hle := h (c::cs) (suffix_refl _) (by simp) found.1 found.2 hp
        rw [length_cons] at hle
        obtain ⟨before,hb⟩ := ih hcs (by omega : found.2-1 ≤ cs.length)
        exact ⟨found.1::before,congrArg (found.1::·) hb⟩

/-- The last match is the one after which no match begins. -/
lemma getLast?_globalMatch {x cs : List Char} {c : Char} {a : α} {taken : ℕ}
    (h : ∀ s, s <:+ x → s ≠ [] → ∀ b n, pattern (s++c::cs) = some (b,n) → n ≤ s.length)
    (hfound : pattern (c::cs) = some (a,taken)) (hlast : ∀ s, s <:+ cs → pattern s = none) :
    (globalMatch pattern (x++c::cs)).getLast? = some a := by
  obtain ⟨before,hb⟩ := matchesFrom_append h (Nat.zero_le _)
  have hmatch : matchesFrom pattern 0 (c::cs) = [a] := by
    simp [matchesFrom,hfound,matchesFrom_eq_nil hlast]
  rw [globalMatch,hb,hmatch,List.getLast?_append]
  rfl

end

section

variable {k x y : List Char} {sep : Char}

lemma containsChars_iff (sub cs : List Char) : containsChars sub cs ↔ sub <:+: cs := by
  induction cs with
  | nil => simp [containsChars]
  | cons c cs ih =>
    rw [containsChars,Bool.or_eq_true,ih,List.isPrefixOf_iff_prefix,infix_cons_iff]

lemma infix_of_separated (hsep : sep ∉ k) (h : k <:+: x++sep::y) : k <:+: x ∨ k <:+: y := by
  have hnil : ∀ {l}, sep ∉ l → l <+: sep::y → l = [] := by
    intro l hl hpre
    cases l with
    | nil => rfl
    | cons c l =>
      obtain rfl := (cons_prefix_cons.mp hpre).1
      exact absurd mem_cons_self hl
  rcases infix_append_iff.mp h with hx | hy | ⟨l₁,l₂,rfl,hx,hy⟩
  · exact Or.inl hx
  · rcases infix_cons_iff.mp hy with hpre | hy
    · rw [hnil hsep hpre]
      exact Or.inl (List.nil_infix)
    · exact Or.inr hy
  · rw [mem_append,not_or] at hsep
    rw [hnil hsep.2 hy,append_nil]
    exact Or.inl hx.isInfix

lemma separated_inj {x' y' : List Char} (hx : sep ∉ x) (hx' : sep ∉ x')
    (h : x++sep::y = x'++sep::y') : x = x' ∧ y = y' := by
  have hsplit := congrArg (List.splitOn sep) h
  rw [splitOn_append_cons_self_of_not_mem hx,splitOn_append_cons_self_of_not_mem hx'] at hsplit
  obtain rfl := (List.cons.inj hsplit).1
  exact ⟨rfl,(List.cons.inj (append_cancel_left h)).2⟩

/-- A text without line feeds stands in one of the lines. -/
lemma infix_of_ended {parts : List (List Char)} (hk : k ≠ []) (hsep : sep ∉ k)
    (h : k <:+: parts.flatMap (·++[sep])) : ∃ part ∈ parts, k <:+: part := by
  induction parts with
  | nil => exact absurd (infix_nil.mp h) hk
  | cons part parts ih =>
    rw [flatMap_cons,append_assoc,singleton_append] at h
    rcases infix_of_separated hsep h with hpart | hrest
    · exact ⟨part,mem_cons_self,hpart⟩
    · obtain ⟨other,hin,hother⟩ := ih hrest
      exact ⟨other,mem_cons_of_mem _ hin,hother⟩

lemma infix_of_begun {parts : List (List Char)} (hk : k ≠ []) (hsep : sep ∉ k)
    (h : k <:+: parts.flatMap (sep::·)) : ∃ part ∈ parts, k <:+: part := by
  have hended : ∀ parts : List (List Char),
      parts.flatMap (sep::·)++[sep] = sep::parts.flatMap (·++[sep]) := by
    intro parts
    induction parts with
    | nil => rfl
    | cons part parts ih => simp [append_assoc,ih]
  have hwhole := h.trans (infix_append [] _ [sep])
  rw [nil_append,hended] at hwhole
  rcases infix_of_separated (x := []) hsep hwhole with hnil | hrest
  · exact absurd (infix_nil.mp hnil) hk
  · exact infix_of_ended hk hsep hrest

lemma infix_of_mem_splitOn {cs line : List Char} (h : line ∈ cs.splitOn sep) : line <:+: cs := by
  have hjoined : [sep].intercalate (cs.splitOn sep) = cs := intercalate_splitOn sep
  rw [← hjoined]
  generalize cs.splitOn sep = lines at h
  induction lines with
  | nil => cases h
  | cons first lines ih =>
    cases lines with
    | nil =>
      rw [mem_singleton.mp h]
      simp
    | cons second lines =>
      rw [intercalate_cons_cons]
      rcases mem_cons.mp h with rfl | hin
      · exact (prefix_append _ _).isInfix.trans (prefix_append _ _).isInfix
      · exact (ih hin).trans (suffix_append _ _).isInfix

end

section

/-- What a reader has that adds a line feed to each piece. -/
def received (pieces : List (List Char)) : List Char := pieces.flatMap (·++['\n'])

/-- No piece ends inside a text of `length` characters that `behind` characters follow. -/
def Unbroken (pieces : List (List Char)) (length behind : ℕ) : Prop :=
  ∀ rest ∈ pieces.tails, rest.flatten.length ≤ behind ∨ behind+length ≤ rest.flatten.length

instance (pieces : List (List Char)) (length behind : ℕ) :
    Decidable (Unbroken pieces length behind) :=
  inferInstanceAs (Decidable (∀ _ ∈ _, _))

variable {pieces : List (List Char)}

lemma infix_of_received {k : List Char} (hk : k ≠ []) (hline : '\n' ∉ k)
    (h : k <:+: received pieces) : k <:+: pieces.flatten := by
  obtain ⟨piece,hin,hpiece⟩ := infix_of_ended hk hline h
  exact hpiece.trans (infix_of_mem_flatten hin)

/-- What follows consists of the same characters and line feeds, and begins as before or with a
line feed. -/
structure Behind (z y : List Char) : Prop where
  mem : ∀ c ∈ y, c ∈ z ∨ c = '\n'
  head : y.head? = z.head? ∨ y.head? = some '\n'

lemma mem_received {c : Char} (h : c ∈ received pieces) : c ∈ pieces.flatten ∨ c = '\n' := by
  obtain ⟨piece,hin,hc⟩ := mem_flatMap.mp h
  rcases mem_append.mp hc with hc | hc
  · exact Or.inl (mem_flatten_of_mem hin hc)
  · exact Or.inr (mem_singleton.mp hc)

lemma exists_received {x entry z : List Char} (hentry : entry ≠ [])
    (h : pieces.flatten = x++(entry++z)) (hcut : Unbroken pieces entry.length z.length) :
    ∃ before y, received pieces = before++(entry++y) ∧ Behind z y := by
  induction pieces generalizing x with
  | nil =>
    have hnil : entry = [] := by
      have hlength := congrArg List.length h
      simp only [flatten_nil,length_nil,length_append] at hlength
      exact length_eq_zero_iff.mp (by omega)
    exact absurd hnil hentry
  | cons piece pieces ih =>
    have hpos := length_pos_of_ne_nil hentry
    have hrest := hcut pieces (mem_tails _ _ |>.mpr (suffix_cons piece pieces))
    have hlength := congrArg List.length h
    simp only [flatten_cons,length_append] at hlength
    rw [flatten_cons] at h
    have hlater : Unbroken pieces entry.length z.length := by
      intro rest hin
      have hsuffix := (mem_tails _ _).mp hin
      exact hcut rest ((mem_tails _ _).mpr (hsuffix.trans (suffix_cons piece pieces)))
    rcases hrest with hshort | hlong
    · -- the piece ends behind the text
      obtain ⟨z₁,hpiece,hz⟩ : ∃ z₁, piece = x++(entry++z₁) ∧ z = z₁++pieces.flatten := by
        rw [← append_assoc] at h
        rcases append_eq_append_iff.mp h with ⟨t,ht,hz⟩ | ⟨t,ht,hz⟩
        · have hlt := congrArg List.length ht
          simp only [length_append] at hlt
          obtain rfl : t = [] := length_eq_zero_iff.mp (by omega)
          exact ⟨[],by simpa using ht.symm,by simpa using hz.symm⟩
        · exact ⟨t,by simpa using ht,hz⟩
      refine ⟨x,z₁++ '\n'::received pieces,?_,?_,?_⟩
      · simp [received,hpiece,append_assoc]
      · intro c hc
        rw [hz,mem_append]
        rcases mem_append.mp hc with hc | hc
        · exact Or.inl (Or.inl hc)
        · rcases mem_cons.mp hc with hc | hc
          · exact Or.inr hc
          · rcases mem_received hc with hc | hc
            · exact Or.inl (Or.inr hc)
            · exact Or.inr hc
      · cases z₁ with
        | nil => exact Or.inr rfl
        | cons c z₁ =>
          left
          rw [hz]
          rfl
    · -- the piece ends before the text
      obtain ⟨x₁,hx⟩ : ∃ x₁, x = piece++x₁ := by
        rcases append_eq_append_iff.mp h with ⟨t,ht,-⟩ | ⟨t,ht,hz⟩
        · exact ⟨t,ht⟩
        · have hlt := congrArg List.length ht
          simp only [length_append] at hlt
          obtain rfl : t = [] := length_eq_zero_iff.mp (by omega)
          exact ⟨[],by simpa using ht.symm⟩
      rw [hx,append_assoc,append_cancel_left_eq] at h
      obtain ⟨before,y,hy,hbehind⟩ := ih h hlater
      refine ⟨piece++ '\n'::before,y,?_,hbehind⟩
      rw [received,flatMap_cons,← received,hy]
      simp [append_assoc]

end

end AlzheimerVPN.Scan
