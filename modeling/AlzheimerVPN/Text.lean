import Mathlib.Data.List.Basic
import Mathlib.Data.List.TakeWhile
import Mathlib.Data.Int.Notation

/-! Text operations with the documented behaviour of `QString`: white space is
that of `QChar::isSpace`, `toInt` reads a decimal 32-bit integer and ignores
surrounding white space, `split` keeps empty parts. -/
namespace AlzheimerVPN.Text

open List

/-- Decided along the list, whatever else is known of the type of characters. -/
instance decidableForallMem {p : Char → Prop} [DecidablePred p] (cs : List Char) :
    Decidable (∀ c ∈ cs, p c) :=
  List.decidableBAll p cs

/-- `QChar::isSpace`: the Unicode separators and the control characters 9 to 13 and 133. -/
def isSpace (c : Char) : Bool :=
  let n := c.toNat
  (9 ≤ n && n ≤ 13) || n == 32 || n == 133 || n == 160 || n == 5760 ||
    (8192 ≤ n && n ≤ 8202) || n == 8232 || n == 8233 || n == 8239 || n == 8287 || n == 12288

def trimChars (cs : List Char) : List Char :=
  ((cs.dropWhile isSpace).reverse.dropWhile isSpace).reverse

def trimmed (s : String) : String := String.ofList (trimChars s.toList)

def split (s : String) (sep : Char) : List String :=
  (s.toList.splitOn sep).map String.ofList

/-- `QString::contains` for a character sequence. -/
def containsChars (sub : List Char) : List Char → Bool
  | [] => sub.isEmpty
  | c::cs => sub.isPrefixOf (c::cs) || containsChars sub cs

def containsText (s sub : String) : Bool := containsChars sub.toList s.toList

def containsChar (s : String) (c : Char) : Bool := s.toList.contains c

/-- `QString::replace`: the next `skip` characters belong to an occurrence already replaced. -/
def replaceChars (sub new : List Char) : ℕ → List Char → List Char
  | _, [] => []
  | skip+1, _::cs => replaceChars sub new skip cs
  | 0, c::cs =>
    if sub.isPrefixOf (c::cs) then new++replaceChars sub new (sub.length-1) cs
    else c::replaceChars sub new 0 cs

def replaceText (s sub new : String) : String :=
  String.ofList (replaceChars sub.toList new.toList 0 s.toList)

/-- `QString::split` at a separator of several characters. -/
def splitChars (sep : List Char) : ℕ → List Char → List (List Char)
  | _, [] => [[]]
  | skip+1, _::cs => splitChars sep skip cs
  | 0, c::cs =>
    if sep.isPrefixOf (c::cs) then []::splitChars sep (sep.length-1) cs
    else
      match splitChars sep 0 cs with
      | [] => [[c]]
      | part::parts => (c::part)::parts

def splitText (s sep : String) : List String :=
  (splitChars sep.toList 0 s.toList).map String.ofList

/-- `QString::split` with `Qt::SkipEmptyParts`. -/
def splitSkipEmpty (s : String) (sep : Char) : List String :=
  (split s sep).filter fun part => !part.isEmpty

def decimal (cs : List Char) : Option ℕ :=
  if !cs.isEmpty && cs.all Char.isDigit then some (Nat.ofDigitChars 10 cs 0) else none

def signedDecimal : List Char → Option ℤ
  | '-'::cs => (decimal cs).map fun n => -(n : ℤ)
  | '+'::cs => (decimal cs).map fun n => (n : ℤ)
  | cs => (decimal cs).map fun n => (n : ℤ)

/-- `QString::toInt` with its success flag: `none` is `ok = false`. -/
def toInt (s : String) : Option ℤ :=
  (signedDecimal (trimChars s.toList)).filter fun i => -2147483648 ≤ i && i ≤ 2147483647

/-- `atoi` as `(int)strtol`: white space, a sign and the leading digits, saturated to
64 bits and then cut off to 32. -/
def atoi (s : String) : ℤ :=
  let cs := s.toList.dropWhile fun c => (9 ≤ c.toNat && c.toNat ≤ 13) || c.toNat == 32
  let leading (ds : List Char) : ℤ := Nat.ofDigitChars 10 (ds.takeWhile Char.isDigit) 0
  let value :=
    match cs with
    | '-'::ds => -leading ds
    | '+'::ds => leading ds
    | ds => leading ds
  (max (-9223372036854775808) (min value 9223372036854775807)).bmod 4294967296

lemma toNat_of_isDigit {c : Char} (h : c.isDigit) : 48 ≤ c.toNat ∧ c.toNat ≤ 57 := by
  simp only [Char.isDigit,Bool.and_eq_true,decide_eq_true_eq] at h
  exact ⟨UInt32.le_iff_toNat_le.mp h.1,UInt32.le_iff_toNat_le.mp h.2⟩

/-- `atoi` reads the digits a text begins with, if they are not too many. -/
lemma atoi_digits {p e : List Char} (hne : p ≠ []) (hp : ∀ c ∈ p, c.isDigit)
    (he : ∀ c ∈ e.head?, c.isDigit = false) (hsmall : Nat.ofDigitChars 10 p 0 ≤ 2147483647) :
    atoi (String.ofList (p++e)) = Nat.ofDigitChars 10 p 0 := by
  have htake : (p++e).takeWhile Char.isDigit = p := by
    rw [takeWhile_append_of_pos hp]
    cases e with
    | nil => simp
    | cons c cs => simp [he c (by simp)]
  cases p with
  | nil => exact absurd rfl hne
  | cons c cs =>
    have hc := hp c (by simp)
    have hb := toNat_of_isDigit hc
    have hdrop : ((c::cs)++e).dropWhile
        (fun c => (9 ≤ c.toNat && c.toNat ≤ 13) || c.toNat == 32) = (c::cs)++e := by
      rw [cons_append,dropWhile_cons_of_neg]
      simp only [Bool.or_eq_true,Bool.and_eq_true,decide_eq_true_eq,beq_iff_eq]
      omega
    have hm : c ≠ '-' := by
      rintro rfl
      exact absurd hc (by decide)
    have hq : c ≠ '+' := by
      rintro rfl
      exact absurd hc (by decide)
    simp only [atoi,String.toList_ofList,hdrop]
    split
    · next ds hd => exact absurd (List.cons.inj hd).1 hm
    · next ds hd => exact absurd (List.cons.inj hd).1 hq
    · rw [htake,Int.max_eq_right (by omega),Int.min_eq_left (by omega),
        Int.bmod_eq_of_le_mul_two (by omega) (by omega)]

lemma isSpace_of_isDigit {c : Char} (h : c.isDigit) : isSpace c = false := by
  have hb := toNat_of_isDigit h
  simp only [isSpace,Bool.or_eq_false_iff,Bool.and_eq_false_iff,decide_eq_false_iff_not,
    beq_eq_false_iff_ne]
  omega

variable {cs : List Char}

lemma trimChars_eq_self (h : ∀ c ∈ cs, isSpace c = false) : trimChars cs = cs := by
  have hl : cs.dropWhile isSpace = cs := by
    cases cs with
    | nil => rfl
    | cons c cs => simp [h c (by simp)]
  have hr : cs.reverse.dropWhile isSpace = cs.reverse := by
    cases hc : cs.reverse with
    | nil => rfl
    | cons c ds =>
      have hm : c ∈ cs := mem_reverse.mp (by simp [hc])
      simp [h c hm]
  simp [trimChars,hl,hr]

/-- White space around a text does not change its trimmed form. -/
lemma trimChars_pad {p q : List Char} (hp : ∀ c ∈ p, isSpace c)
    (hq : ∀ c ∈ q, isSpace c) (cs : List Char) : trimChars (p++cs++q) = trimChars cs := by
  have hd : p.dropWhile isSpace = [] := dropWhile_eq_nil_iff.mpr hp
  have he : q.dropWhile isSpace = [] := dropWhile_eq_nil_iff.mpr hq
  have hr : q.reverse.dropWhile isSpace = [] :=
    dropWhile_eq_nil_iff.mpr fun c hc => hq c (mem_reverse.mp hc)
  cases hc : cs.dropWhile isSpace with
  | nil => simp [trimChars,dropWhile_append,hd,he,hc]
  | cons c ds => simp [trimChars,dropWhile_append,hd,hr,hc]

/-- A text is its trimmed form with white space around it. -/
lemma exists_trimChars_pad (cs : List Char) :
    ∃ pre post, cs = pre++trimChars cs++post ∧ (∀ c ∈ pre, isSpace c) ∧ ∀ c ∈ post, isSpace c := by
  let rest := cs.dropWhile isSpace
  refine ⟨cs.takeWhile isSpace,(rest.reverse.takeWhile isSpace).reverse,?_,?_,?_⟩
  · have hrest : rest.reverse.takeWhile isSpace++rest.reverse.dropWhile isSpace = rest.reverse :=
      takeWhile_append_dropWhile
    have hrev : trimChars cs++(rest.reverse.takeWhile isSpace).reverse = rest := by
      rw [trimChars,← reverse_append,hrest,reverse_reverse]
    rw [append_assoc,hrev]
    exact takeWhile_append_dropWhile.symm
  · intro c hc
    exact mem_takeWhile_imp hc
  · intro c hc
    exact mem_takeWhile_imp (mem_reverse.mp hc)

lemma trimmed_trimmed (s : String) : trimmed (trimmed s) = trimmed s := by
  obtain ⟨pre,post,hs,hpre,hpost⟩ := exists_trimChars_pad s.toList
  have h := trimChars_pad hpre hpost (trimChars s.toList)
  rw [← hs] at h
  simp only [trimmed,String.toList_ofList]
  rw [← h]

lemma toInt_pad {p q : List Char} (hp : ∀ c ∈ p, isSpace c)
    (hq : ∀ c ∈ q, isSpace c) (cs : List Char) :
    toInt (String.ofList (p++cs++q)) = toInt (String.ofList cs) := by
  simp only [toInt,String.toList_ofList,trimChars_pad hp hq]

lemma signedDecimal_of_digits (h : ∀ c ∈ cs, c.isDigit) :
    signedDecimal cs = (decimal cs).map fun n => (n : ℤ) := by
  cases cs with
  | nil => rfl
  | cons c cs =>
    have hc : c.isDigit := h c (by simp)
    have hm : c ≠ '-' := by rintro rfl; exact absurd hc (by decide)
    have hp : c ≠ '+' := by rintro rfl; exact absurd hc (by decide)
    simp [signedDecimal,hm,hp]

lemma decimal_of_digits (hne : cs ≠ []) (h : ∀ c ∈ cs, c.isDigit) :
    decimal cs = some (Nat.ofDigitChars 10 cs 0) := by
  have hall : cs.all Char.isDigit := by simpa using h
  simp [decimal,hne,hall]

variable {sep : Char}

lemma split_eq_singleton {s : String} (h : sep ∉ s.toList) : split s sep = [s] := by
  simp [split,splitOn_eq_singleton h]

lemma split_of_toList_eq {s : String} {x y : List Char} (h : sep ∉ x) (hs : s.toList = x++sep::y) :
    split s sep = String.ofList x::split (String.ofList y) sep := by
  simp [split,hs,splitOn_append_cons_self_of_not_mem h]

lemma not_mem_of_mem_splitOn {part : List Char} (h : part ∈ cs.splitOn sep) : sep ∉ part := by
  induction cs generalizing part with
  | nil =>
    rw [splitOn_nil,mem_singleton] at h
    simp [h]
  | cons c cs ih =>
    rw [List.splitOn,splitOnP_cons_eq_if_modifyHead] at h
    split_ifs at h with hc
    · rcases mem_cons.mp h with rfl | h
      · simp
      · exact ih h
    · cases hs : cs.splitOnP (· == sep) with
      | nil => simp [hs] at h
      | cons q parts =>
        rw [hs,modifyHead_cons] at h
        have hcs : ∀ r ∈ q::parts, sep ∉ r := fun r hr => ih (by rw [List.splitOn,hs]; exact hr)
        rcases mem_cons.mp h with rfl | h
        · have hq := hcs q (by simp)
          have hne : sep ≠ c := fun he => hc (by simp [he])
          simp [hq,hne]
        · exact hcs part (by simp [h])

lemma not_mem_of_mem_split {s part : String} (h : part ∈ split s sep) : sep ∉ part.toList := by
  obtain ⟨cs,hcs,rfl⟩ := mem_map.mp h
  simpa using not_mem_of_mem_splitOn hcs

/-- Nothing is left between separators exactly when there is nothing else. -/
lemma splitSkipEmpty_eq_nil_iff (s : String) (sep : Char) :
    splitSkipEmpty s sep = [] ↔ ∀ c ∈ s.toList, c = sep := by
  have hparts : ∀ cs : List Char, (∀ part ∈ cs.splitOn sep, part = []) ↔ ∀ c ∈ cs, c = sep := by
    intro cs
    induction cs with
    | nil => simp
    | cons c cs ih =>
      rw [List.splitOn,splitOnP_cons_eq_if_modifyHead]
      split_ifs with hc
      · rw [List.splitOn] at ih
        simp [ih,beq_iff_eq.mp hc]
      · cases hs : cs.splitOnP (· == sep) with
        | nil => exact absurd hs (splitOnP_ne_nil _ _)
        | cons q parts =>
          have hne : c ≠ sep := by simpa using hc
          simp [hne]
  rw [← hparts]
  simp [splitSkipEmpty,split,filter_eq_nil_iff]

/-- Nothing is replaced in a text that lacks a character of the pattern. -/
lemma replaceText_eq_self {s sub new : String} {d : Char} (hd : d ∈ sub.toList)
    (hs : d ∉ s.toList) : replaceText s sub new = s := by
  have hchars : ∀ cs : List Char, d ∉ cs → replaceChars sub.toList new.toList 0 cs = cs := by
    intro cs hcs
    induction cs with
    | nil => rfl
    | cons c cs ih =>
      have hp : sub.toList.isPrefixOf (c::cs) = false := by
        cases hp : sub.toList.isPrefixOf (c::cs) with
        | false => rfl
        | true => exact absurd ((List.isPrefixOf_iff_prefix.mp hp).subset hd) hcs
      rw [replaceChars,hp,if_neg (by simp),ih fun hm => hcs (by simp [hm])]
  rw [replaceText,hchars _ hs,String.ofList_toList]

/-- The first run of characters other than the separator. -/
def firstRun (sep : Char) (cs : List Char) : List Char :=
  (cs.dropWhile (· == sep)).takeWhile (· != sep)

lemma head?_splitOn (sep : Char) (cs : List Char) :
    (cs.splitOn sep).head? = some (cs.takeWhile (· != sep)) := by
  induction cs with
  | nil => simp
  | cons c cs ih =>
    rw [List.splitOn] at ih ⊢
    rw [splitOnP_cons_eq_if_modifyHead]
    split_ifs with hc
    · simp [beq_iff_eq.mp hc]
    · have hne : (c != sep) := by simpa using hc
      rw [List.head?_modifyHead,ih,Option.map_some,takeWhile_cons,if_pos hne]

lemma headD_splitSkipEmpty (s : String) (sep : Char) :
    (splitSkipEmpty s sep).headD "" = String.ofList (firstRun sep s.toList) := by
  have hparts : ∀ cs : List Char,
      (((cs.splitOn sep).map String.ofList).filter fun part => !part.isEmpty).headD "" =
        String.ofList (firstRun sep cs) := by
    intro cs
    induction cs with
    | nil => rfl
    | cons c cs ih =>
      have hhead := head?_splitOn sep cs
      rw [List.splitOn] at ih hhead ⊢
      rw [splitOnP_cons_eq_if_modifyHead]
      split_ifs with hc
      · rw [firstRun,dropWhile_cons,if_pos hc]
        exact ih
      · cases hs : cs.splitOnP (· == sep) with
        | nil => exact absurd hs (splitOnP_ne_nil _ _)
        | cons q parts =>
          have hne : (c != sep) := by simpa using hc
          obtain rfl : q = cs.takeWhile (· != sep) := by simpa [hs] using hhead
          rw [firstRun,dropWhile_cons,if_neg hc,takeWhile_cons,if_pos hne]
          simp
  exact hparts s.toList

/-- Taking occurrences out of a text brings no new characters. -/
lemma mem_of_mem_replaceText {s sub : String} {c : Char} (h : c ∈ (replaceText s sub "").toList) :
    c ∈ s.toList := by
  have hchars : ∀ (cs : List Char) (skip : ℕ), c ∈ replaceChars sub.toList [] skip cs → c ∈ cs := by
    intro cs
    induction cs with
    | nil =>
      intro skip hc
      cases skip <;> simp [replaceChars] at hc
    | cons d cs ih =>
      intro skip hc
      cases skip with
      | succ skip => exact mem_cons_of_mem d (ih skip hc)
      | zero =>
        rw [replaceChars] at hc
        split_ifs at hc
        · exact mem_cons_of_mem d (ih _ hc)
        · rcases mem_cons.mp hc with rfl | hc
          · exact mem_cons_self
          · exact mem_cons_of_mem d (ih 0 hc)
  rw [replaceText,String.toList_ofList] at h
  exact hchars _ _ h

lemma trimChars_eq_self_iff (cs : List Char) :
    trimChars cs = cs ↔ ∀ c, c ∈ cs.head? ∨ c ∈ cs.getLast? → isSpace c = false := by
  constructor
  · intro h
    have hlength := congrArg List.length h
    have hdrop := (dropWhile_suffix isSpace (l := cs)).length_le
    have hback := (dropWhile_suffix isSpace (l := (cs.dropWhile isSpace).reverse)).length_le
    rw [trimChars,length_reverse] at hlength
    rw [length_reverse] at hback
    have hl : cs.dropWhile isSpace = cs := (dropWhile_suffix isSpace).eq_of_length (by omega)
    have hr : cs.reverse.dropWhile isSpace = cs.reverse := by
      rw [trimChars,hl] at h
      rw [← reverse_reverse (cs.reverse.dropWhile isSpace),h]
    rintro c (hc | hc)
    · have hhead := List.head?_dropWhile_not isSpace cs
      rw [hl,hc] at hhead
      simpa using hhead
    · have hhead := List.head?_dropWhile_not isSpace cs.reverse
      rw [hr,List.head?_reverse,hc] at hhead
      simpa using hhead
  · intro h
    have hl : cs.dropWhile isSpace = cs := by
      cases cs with
      | nil => rfl
      | cons c cs => simp [h c (Or.inl rfl)]
    have hr : cs.reverse.dropWhile isSpace = cs.reverse := by
      cases hc : cs.reverse with
      | nil => rfl
      | cons c ds =>
        have hlast : c ∈ cs.getLast? := by
          rw [← List.head?_reverse,hc]
          rfl
        simp [h c (Or.inr hlast)]
    rw [trimChars,hl,hr,reverse_reverse]

@[simp] lemma containsChar_iff (s : String) (c : Char) : containsChar s c ↔ c ∈ s.toList := by
  simp [containsChar]

end AlzheimerVPN.Text
