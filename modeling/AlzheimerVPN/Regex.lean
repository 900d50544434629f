import Mathlib.Computability.RegularExpressions
import AlzheimerVPN.Text

/-! Character classes, bounded repetition and line anchors on top of the regular
expressions of Mathlib. -/
namespace AlzheimerVPN.Regex

open RegularExpression List

/-- A character class. -/
def oneOf (cs : List Char) : RegularExpression Char := cs.foldr (fun c r => char c + r) 0

def literal (cs : List Char) : RegularExpression Char := cs.foldr (fun c r => char c * r) 1

def optional (r : RegularExpression Char) : RegularExpression Char := 1 + r

/-- At most `n` repetitions. -/
def upTo (r : RegularExpression Char) : ℕ → RegularExpression Char
  | 0 => 1
  | n+1 => 1 + r * upTo r n

/-- At least `n` and at most `n+k` repetitions. -/
def repeated (r : RegularExpression Char) : ℕ → ℕ → RegularExpression Char
  | 0, k => upTo r k
  | n+1, k => r * repeated r n k

/-- Any characters but line feeds, then what `matcher` accepts: a pattern after `.*`. -/
def afterAny (matcher : List Char → Bool) : List Char → Bool
  | [] => matcher []
  | c::cs => matcher (c::cs) || (c != '\n' && afterAny matcher cs)

/-- A pattern before `$`, which also matches before a final line feed. -/
def beforeEnd (matcher : List Char → Bool) (cs : List Char) : Bool :=
  matcher cs || (cs.getLast? == some '\n' && matcher cs.dropLast)

/-- A pattern between `^` and `$`. -/
def matchesLine (r : RegularExpression Char) (cs : List Char) : Bool := beforeEnd r.rmatch cs

def digits : List Char := "0123456789".toList

lemma oneOf_rmatch_iff (cs x : List Char) : (oneOf cs).rmatch x ↔ ∃ c ∈ cs, x = [c] := by
  induction cs with
  | nil => simp [oneOf]
  | cons c cs ih =>
    change (char c + oneOf cs).rmatch x ↔ _
    rw [add_rmatch_iff,char_rmatch_iff,ih]
    simp

lemma literal_rmatch_iff (cs x : List Char) : (literal cs).rmatch x ↔ x = cs := by
  induction cs generalizing x with
  | nil => exact one_rmatch_iff x
  | cons c cs ih =>
    change (char c * literal cs).rmatch x ↔ _
    rw [mul_rmatch_iff]
    simp only [char_rmatch_iff,ih]
    constructor
    · rintro ⟨t,u,hx,rfl,rfl⟩
      simpa using hx
    · intro hx
      exact ⟨[c],cs,by simpa using hx,rfl,rfl⟩

lemma optional_rmatch_iff (r : RegularExpression Char) (x : List Char) :
    (optional r).rmatch x ↔ x = [] ∨ r.rmatch x := by
  rw [optional,add_rmatch_iff,one_rmatch_iff]

lemma upTo_oneOf_rmatch_iff (cs x : List Char) (n : ℕ) :
    (upTo (oneOf cs) n).rmatch x ↔ x.length ≤ n ∧ ∀ c ∈ x, c ∈ cs := by
  induction n generalizing x with
  | zero =>
    rw [upTo,one_rmatch_iff]
    cases x <;> simp
  | succ n ih =>
    rw [upTo,add_rmatch_iff,one_rmatch_iff,mul_rmatch_iff]
    simp only [oneOf_rmatch_iff,ih]
    cases x with
    | nil => simp
    | cons c x =>
      constructor
      · rintro (h | ⟨t,u,hx,⟨d,hd,rfl⟩,hl,hu⟩)
        · simp at h
        · simp only [singleton_append,List.cons.injEq] at hx
          obtain ⟨rfl,rfl⟩ := hx
          refine ⟨by simpa using hl,?_⟩
          simpa [hd] using hu
      · rintro ⟨hl,hm⟩
        have hc : c ∈ cs := hm c (by simp)
        have hx : ∀ d ∈ x, d ∈ cs := fun d hd => hm d (by simp [hd])
        exact Or.inr ⟨[c],x,rfl,⟨c,hc,rfl⟩,by simpa using hl,hx⟩

lemma repeated_oneOf_rmatch_iff (cs x : List Char) (n k : ℕ) :
    (repeated (oneOf cs) n k).rmatch x ↔ n ≤ x.length ∧ x.length ≤ n+k ∧ ∀ c ∈ x, c ∈ cs := by
  induction n generalizing x with
  | zero =>
    rw [repeated,upTo_oneOf_rmatch_iff]
    simp
  | succ n ih =>
    rw [repeated,mul_rmatch_iff]
    simp only [oneOf_rmatch_iff,ih]
    constructor
    · rintro ⟨t,u,rfl,⟨d,hd,rfl⟩,hlo,hhi,hu⟩
      refine ⟨by simpa using hlo,by simp; omega,?_⟩
      simpa [hd] using hu
    · rintro ⟨hlo,hhi,hm⟩
      cases x with
      | nil => simp at hlo
      | cons c x =>
        have hc : c ∈ cs := hm c (by simp)
        have hx : ∀ d ∈ x, d ∈ cs := fun d hd => hm d (by simp [hd])
        simp only [length_cons] at hlo hhi
        exact ⟨[c],x,rfl,⟨c,hc,rfl⟩,by omega,by omega,hx⟩

lemma matchesLine_iff (r : RegularExpression Char) (cs : List Char) :
    matchesLine r cs ↔ r.rmatch cs ∨ ∃ ds, cs = ds++['\n'] ∧ r.rmatch ds := by
  simp only [matchesLine,beforeEnd,Bool.or_eq_true,Bool.and_eq_true,beq_iff_eq]
  constructor
  · rintro (h | ⟨hl,h⟩)
    · exact Or.inl h
    · obtain ⟨ds,rfl⟩ := List.getLast?_eq_some_iff.mp hl
      exact Or.inr ⟨ds,rfl,by simpa using h⟩
  · rintro (h | ⟨ds,rfl,h⟩)
    · exact Or.inl h
    · exact Or.inr ⟨by simp,by simpa using h⟩

/-- Every character of every match satisfies `P`. -/
def Over (P : Char → Prop) (r : RegularExpression Char) : Prop :=
  ∀ x, r.rmatch x → ∀ c ∈ x, P c

section

variable {P : Char → Prop} {r q : RegularExpression Char}

lemma over_one : Over P 1 := by
  intro x hx
  rw [(one_rmatch_iff x).mp hx]
  simp

lemma over_char {c : Char} (h : P c) : Over P (char c) := by
  intro x hx
  rw [(char_rmatch_iff c x).mp hx]
  simpa using h

lemma over_oneOf {cs : List Char} (h : ∀ c ∈ cs, P c) : Over P (oneOf cs) := by
  intro x hx
  obtain ⟨c,hc,rfl⟩ := (oneOf_rmatch_iff cs x).mp hx
  simpa using h c hc

lemma over_literal {cs : List Char} (h : ∀ c ∈ cs, P c) : Over P (literal cs) := by
  intro x hx
  rwa [(literal_rmatch_iff cs x).mp hx]

lemma Over.add (hr : Over P r) (hq : Over P q) : Over P (r + q) := by
  intro x hx
  rcases (add_rmatch_iff r q x).mp hx with hx | hx
  · exact hr x hx
  · exact hq x hx

lemma Over.mul (hr : Over P r) (hq : Over P q) : Over P (r * q) := by
  intro x hx c hc
  obtain ⟨t,u,rfl,ht,hu⟩ := (mul_rmatch_iff r q x).mp hx
  rcases mem_append.mp hc with hc | hc
  · exact hr t ht c hc
  · exact hq u hu c hc

lemma Over.star (hr : Over P r) : Over P r.star := by
  intro x hx c hc
  obtain ⟨parts,rfl,hparts⟩ := (star_rmatch_iff r x).mp hx
  obtain ⟨t,ht,hc⟩ := mem_flatten.mp hc
  exact hr t (hparts t ht).2 c hc

lemma Over.optional (hr : Over P r) : Over P (optional r) := over_one.add hr

lemma Over.upTo (hr : Over P r) (n : ℕ) : Over P (upTo r n) := by
  induction n with
  | zero => exact over_one
  | succ n ih => exact over_one.add (hr.mul ih)

lemma Over.repeated (hr : Over P r) (n k : ℕ) : Over P (repeated r n k) := by
  induction n with
  | zero => exact hr.upTo k
  | succ n ih => exact hr.mul ih

end

lemma mem_digits_iff (c : Char) : c ∈ digits ↔ c.isDigit := by
  constructor
  · intro h
    have hall : ∀ d ∈ digits, d.isDigit := all_eq_true.mp (by decide)
    exact hall c h
  · intro h
    obtain ⟨hlo,hhi⟩ := Text.toNat_of_isDigit h
    have hc : c = Char.ofNat c.toNat := (Char.ofNat_toNat c).symm
    rw [hc]
    have hall : ∀ n, n < 58 → 48 ≤ n → Char.ofNat n ∈ digits := by decide
    exact hall c.toNat (by omega) hlo

end AlzheimerVPN.Regex
