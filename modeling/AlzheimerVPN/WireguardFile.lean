import AlzheimerVPN.WireguardImport

/-! WireGuard files as they are written, and what `extractWireGuardConfig` takes from their texts.
A file is a list of settings, section headers, blank lines and comments; a setting may have any
blanks around its equals sign and stands anywhere. -/
namespace AlzheimerVPN.ImportController

open Text Address Scan IpText List

/-- `name = value` with blanks around the equals sign. -/
structure Setting where
  name : List Char
  before : List Char
  after : List Char
  value : List Char
  name_ne_nil : name ≠ []
  name_trimmed : trimChars name = name
  name_plain : '=' ∉ name ∧ '\n' ∉ name
  name_head : name.head? ≠ some '['
  blanks : ∀ c ∈ before++after, c = ' ' ∨ c = '\t'
  value_trimmed : trimChars value = value
  value_line : '\n' ∉ value

def Setting.text (s : Setting) : List Char := s.name++(s.before++ '='::(s.after++s.value))

/-- A line without a setting: nothing, a comment or the header of a section. -/
structure Remark where
  text : List Char
  text_line : '\n' ∉ text
  plain : trimChars text = [] ∨ (trimChars text).head? = some '#' ∨
    ((trimChars text).head? = some '[' ∧ (trimChars text).getLast? = some ']')

inductive Line
  | setting (s : Setting)
  | remark (r : Remark)

def Line.text : Line → List Char
  | .setting s => s.text
  | .remark r => r.text

/-- The setting of a line, when it has this name. -/
def Line.named (name : String) : Line → Option Setting
  | .setting s => if s.name = name.toList then some s else none
  | .remark _ => none

/-- The settings of a name, in their order. -/
def settingsOf (lines : List Line) (name : String) : List Setting := lines.filterMap (Line.named name)

/-- The values that a file gives for a name. -/
def valuesOf (lines : List Line) (name : String) : List (List Char) :=
  (settingsOf lines name).map Setting.value

section

lemma isSpace_of_blank {c : Char} (h : c = ' ' ∨ c = '\t') : isSpace c := by
  rcases h with rfl | rfl <;> decide

variable (s : Setting)

lemma isSpace_name_head {c : Char} (h : s.name.head? = some c) : isSpace c = false :=
  (trimChars_eq_self_iff _).mp s.name_trimmed c (Or.inl h)

lemma Setting.before_blank : ∀ c ∈ s.before, isSpace c :=
  fun c hc => isSpace_of_blank (s.blanks c (mem_append_left _ hc))

lemma Setting.after_blank : ∀ c ∈ s.after, isSpace c :=
  fun c hc => isSpace_of_blank (s.blanks c (mem_append_right _ hc))

/-- The trimmed line begins with the name and keeps the equals sign. -/
lemma trimChars_text :
    trimChars s.text = s.name++(s.before++ '='::(if s.value = [] then [] else s.after++s.value)) := by
  have hhead : ∀ rest c, (s.name++rest).head? = some c → isSpace c = false := by
    intro rest c hc
    rw [List.head?_append_of_ne_nil _ s.name_ne_nil] at hc
    exact isSpace_name_head s hc
  by_cases hvalue : s.value = []
  · have htext : s.text = []++(s.name++(s.before++['=']))++s.after := by
      simp [Setting.text,hvalue]
    rw [htext,trimChars_pad (by simp) s.after_blank,if_pos hvalue,trimChars_eq_self_iff]
    rintro c (hc | hc)
    · exact hhead _ c hc
    · obtain rfl : '=' = c := by simpa using hc
      decide
  · rw [if_neg hvalue,Setting.text,trimChars_eq_self_iff]
    rintro c (hc | hc)
    · exact hhead _ c hc
    · have hlast : s.value.getLast? = some c := by
        have htext : s.name++(s.before++ '='::(s.after++s.value)) =
            (s.name++(s.before++ '='::s.after))++s.value := by simp
        rw [htext,List.getLast?_append_of_ne_nil _ hvalue] at hc
        exact hc
      exact (trimChars_eq_self_iff _).mp s.value_trimmed c (Or.inr hlast)

variable (configMap : QMap String)

lemma readLine_setting : readLine configMap s.text =
      configMap.insert (String.ofList s.name) (String.ofList s.value) := by
  have hequals : ∀ c ∈ s.name++s.before, decide (c ≠ '=') := by
    intro c hc
    rw [decide_eq_true_eq]
    rintro rfl
    rcases mem_append.mp hc with hc | hc
    · exact s.name_plain.1 hc
    · exact absurd (s.before_blank '=' hc) (by decide)
  have hleft : (trimChars s.text).takeWhile (· ≠ '=') = s.name++s.before := by
    rw [trimChars_text,← append_assoc,takeWhile_append_of_pos hequals]
    simp
  have hdrop : (trimChars s.text).drop ((s.name++s.before).length+1) =
      if s.value = [] then [] else s.after++s.value := by
    rw [trimChars_text,← append_assoc,drop_append]
    simp
  have hname : trimChars (s.name++s.before) = s.name := by
    have hpad := trimChars_pad (p := []) (by simp) s.before_blank s.name
    rwa [nil_append,s.name_trimmed] at hpad
  have hvalue : trimChars (if s.value = [] then [] else s.after++s.value) = s.value := by
    split_ifs with hnil
    · rw [hnil]
      rfl
    · have hpad := trimChars_pad (q := []) s.after_blank (by simp) s.value
      rwa [append_nil,s.value_trimmed] at hpad
  have hhead : ¬((trimChars s.text).head? = some '[' ∧ (trimChars s.text).getLast? = some ']') := by
    rw [trimChars_text,List.head?_append_of_ne_nil _ s.name_ne_nil]
    exact fun h => s.name_head h.1
  have hmem : '=' ∈ trimChars s.text := by
    rw [trimChars_text]
    simp
  have hne : s.name++s.before ≠ [] := by simp [s.name_ne_nil]
  simp only [readLine]
  rw [if_neg hhead,hleft,if_pos ⟨hne,hmem⟩,hdrop,hname,hvalue]

lemma head?_trimChars {c : Char} (h : isSpace c = false) (cs : List Char) :
    (trimChars (c::cs)).head? = some c := by
  obtain ⟨pre,post,htext,hpre,hpost⟩ := exists_trimChars_pad (c::cs)
  have hspace : ∀ {l : List Char}, (∀ d ∈ l, isSpace d) → l.head? ≠ some c := by
    intro l hl hhead
    rw [hl c (mem_of_mem_head? hhead)] at h
    cases h
  cases pre with
  | cons d pre =>
    refine absurd ?_ (hspace hpre)
    simpa using (congrArg List.head? htext).symm
  | nil =>
    cases ht : trimChars (c::cs) with
    | nil =>
      refine absurd ?_ (hspace hpost)
      rw [ht] at htext
      simpa using (congrArg List.head? htext).symm
    | cons d trimmed =>
      rw [ht] at htext
      simpa using (congrArg List.head? htext).symm

variable {key : String}

/-- A line without a setting gives no value to a name that does not begin like a comment. -/
lemma getElem?_readLine_remark (r : Remark) (hkey : key.toList.head? ≠ some '#') :
    (readLine configMap r.text)[key]? = configMap[key]? := by
  simp only [readLine]
  split
  case isTrue => rfl
  case isFalse hheader =>
    split
    case isFalse => rfl
    case isTrue hgiven =>
      rw [getElem?_insert_eq,if_neg]
      intro heq
      rcases r.plain with hempty | hcomment | hbracket
      · rw [hempty] at hgiven
        exact absurd hgiven.2 (by simp)
      · have hleft : (trimChars ((trimChars r.text).takeWhile (· ≠ '='))).head? = some '#' := by
          obtain ⟨rest,hrest⟩ := List.head?_eq_some_iff.mp hcomment
          rw [hrest,takeWhile_cons_of_pos (by decide)]
          exact head?_trimChars (by decide) _
        rw [heq,String.toList_ofList] at hkey
        exact hkey hleft
      · exact hheader hbracket

lemma getElem?_readLine_other {s : Setting} (h : s.name ≠ key.toList) :
    (readLine configMap s.text)[key]? = configMap[key]? := by
  rw [readLine_setting,getElem?_insert_eq,if_neg]
  rintro rfl
  exact h (String.toList_ofList).symm

/-- The map holds the value of the last setting of a name. -/
lemma getElem?_readLines (lines : List Line) (hkey : key.toList.head? ≠ some '#') :
    (readLines (lines.map Line.text))[key]? = (valuesOf lines key).getLast?.map String.ofList := by
  have hfold : ∀ configMap : QMap String, ((lines.map Line.text).foldl readLine configMap)[key]? =
      ((valuesOf lines key).getLast?.map String.ofList).or configMap[key]? := by
    induction lines with
    | nil => simp [valuesOf,settingsOf]
    | cons line lines ih =>
      intro configMap
      rw [map_cons,foldl_cons,ih]
      cases line with
      | remark r =>
        rw [Line.text,getElem?_readLine_remark configMap r hkey]
        rfl
      | setting s =>
        by_cases hname : s.name = key.toList
        · have hvalues : valuesOf (.setting s::lines) key = s.value::valuesOf lines key := by
            simp [valuesOf,settingsOf,Line.named,hname]
          have hkeyText : key = String.ofList s.name := by rw [hname,String.ofList_toList]
          rw [Line.text,readLine_setting,getElem?_insert_eq,if_pos hkeyText,hvalues,
            List.getLast?_cons]
          cases (valuesOf lines key).getLast? <;> rfl
        · have hvalues : valuesOf (.setting s::lines) key = valuesOf lines key := by
            simp [valuesOf,settingsOf,Line.named,hname]
          rw [Line.text,getElem?_readLine_other configMap hname,hvalues]
  rw [readLines,hfold]
  simp

lemma valueOf_readLines (lines : List Line) (hkey : key.toList.head? ≠ some '#') :
    valueOf (readLines (lines.map Line.text)) key =
      String.ofList ((valuesOf lines key).getLast?.getD []) := by
  rw [valueOf,getElem?_readLines lines hkey]
  cases (valuesOf lines key).getLast? <;> rfl

end

section

variable {rest : List Char}

lemma group_toDigits {n : ℕ} (hn : n < 256) (h : ∀ c, rest.head? = some c → c.isDigit = false) :
    group (Nat.toDigits 10 n++rest) = some (Nat.toDigits 10 n,rest) := by
  have hlength := (Nat.length_toDigits_le_iff (b := 10) (n := n) (k := 3) (by decide)
    (by decide)).mpr (by omega)
  have hpos : 0 < (Nat.toDigits 10 n).length := Nat.length_toDigits_pos
  obtain ⟨htake,hdrop⟩ := takeWhile_toDigits n h
  simp only [group,htake,hdrop]
  rw [if_pos ⟨hpos,hlength⟩]

lemma quad_succ {n : ℕ} (hn : n < 256) (dots : ℕ) (rest : List Char) :
    quad (dots+1) (Nat.toDigits 10 n++ '.'::rest) =
      (quad dots rest).map fun later => (Nat.toDigits 10 n++ '.'::later.1,later.2) := by
  rw [quad,group_toDigits hn (by simp)]
  rfl

/-- A printed address is read when no word goes on behind it. -/
lemma quad_dotted (a : BitVec 32) (h : ∀ c, rest.head? = some c → isWord c = false) :
    quad 3 (dottedChars a++rest) = some (dottedChars a,rest) := by
  have hdigit : ∀ c, rest.head? = some c → c.isDigit = false := by
    intro c hc
    have hword := h c hc
    simp only [isWord,Char.isAlphanum,Bool.or_eq_false_iff] at hword
    exact hword.1.2
  have hlast : quad 0 (Nat.toDigits 10 (octet a 3)++rest) = some (Nat.toDigits 10 (octet a 3),rest) := by
    rw [quad,group_toDigits (octet_lt a 3) hdigit,Option.bind_some,if_neg]
    cases hhead : rest.head? with
    | none => simp
    | some c => simp [h c hhead]
  rw [dottedChars_eq]
  simp only [append_assoc,cons_append]
  rw [quad_succ (octet_lt a 0),quad_succ (octet_lt a 1),quad_succ (octet_lt a 2),hlast]
  rfl

lemma group_blank {c : Char} (h : c.isDigit = false) (cs : List Char) : group (c::cs) = none := by
  simp [group,h]

variable {cs : List Char}

/-- An address has three dots. -/
lemma quad_eq_none {dots : ℕ} (h : cs.count '.' < dots) : quad dots cs = none := by
  induction dots generalizing cs with
  | zero => omega
  | succ dots ih =>
    rw [quad]
    cases hgroup : group cs with
    | none => rfl
    | some found =>
      have hrest : found.2 <:+ cs := by
        simp only [group] at hgroup
        split_ifs at hgroup
        obtain rfl := Option.some.inj hgroup
        exact dropWhile_suffix _
      rw [Option.bind_some]
      split
      · rename_i rest hdot
        rw [hdot] at hrest
        have hcount := hrest.sublist.count_le '.'
        rw [count_cons_self] at hcount
        rw [ih (by omega)]
        rfl
      · rfl

lemma lastQuad_eq_none (h : cs.count '.' < 3) (prev : Char) : lastQuad prev cs = none := by
  induction cs generalizing prev with
  | nil => rfl
  | cons c cs ih =>
    have hcount : cs.count '.' ≤ (c::cs).count '.' := (sublist_cons_self c cs).count_le '.'
    rw [lastQuad,ih (by omega) c,quad_eq_none h]
    split_ifs <;> rfl

variable {prev : Char}

/-- No address begins inside the first number of another one. -/
lemma lastQuad_digits {d : List Char} (hd : ∀ c ∈ d, c.isDigit) (h : cs.count '.' < 3)
    (hprev : isWord prev) : lastQuad prev (d++ '.'::cs) = none := by
  induction d generalizing prev with
  | nil => rw [nil_append,lastQuad,lastQuad_eq_none h,if_pos hprev]
  | cons c d ih =>
    have hword : isWord c := by
      simp [isWord,Char.isAlphanum,hd c mem_cons_self]
    rw [cons_append,lastQuad,ih (fun e he => hd e (mem_cons_of_mem _ he)) hword,if_pos hprev]

lemma lastQuad_dotted (hprev : isWord prev = false) (b : BitVec 32) :
    lastQuad prev (dottedChars b) = some (dottedChars b) := by
  have hdigits : ∀ i, ∀ c ∈ Nat.toDigits 10 (octet b i), c.isDigit :=
    fun i c hc => toDigits_isDigit hc
  have hquad := quad_dotted b (by simp : ∀ c, ([] : List Char).head? = some c → isWord c = false)
  rw [append_nil] at hquad
  have hnone : ∀ i, (Nat.toDigits 10 (octet b i)).count '.' = 0 := by
    intro i
    rw [count_eq_zero]
    intro hin
    exact absurd (hdigits i '.' hin) (by decide)
  obtain ⟨c,d,hcons⟩ := exists_cons_of_ne_nil (Nat.toDigits_ne_nil (b := 10) (n := octet b 0))
  have hd := hdigits 0
  rw [hcons] at hd
  rw [dottedChars_eq,hcons,cons_append] at hquad ⊢
  have hword : isWord c := by
    simp [isWord,Char.isAlphanum,hd c mem_cons_self]
  have hlater : lastQuad c (d++ '.'::(Nat.toDigits 10 (octet b 1)++ '.'::(Nat.toDigits 10 (octet b 2)++
      '.'::Nat.toDigits 10 (octet b 3)))) = none := by
    apply lastQuad_digits (fun e he => hd e (mem_cons_of_mem _ he)) _ hword
    simp only [count_append,count_cons_self,hnone]
    omega
  rw [lastQuad,hlater,hquad,hprev]
  rfl

lemma lastQuad_append {x y found : List Char} (h : lastQuad (x.getLastD prev) y = some found) :
    lastQuad prev (x++y) = some found := by
  induction x generalizing prev with
  | nil => exact h
  | cons c x ih =>
    rw [getLastD_cons] at h
    rw [cons_append,lastQuad,ih h]

/-- One or two addresses of name servers, with blanks around the comma. -/
structure DnsListing where
  first : BitVec 32
  second : Option (List Char × List Char × BitVec 32)
  blanks : ∀ p ∈ second, ∀ c ∈ p.1++p.2.1, c = ' ' ∨ c = '\t'

def DnsListing.text (l : DnsListing) : List Char :=
  match l.second with
  | none => dottedChars l.first
  | some (before,after,b) => dottedChars l.first++(before++ ','::(after++dottedChars b))

def DnsListing.addresses (l : DnsListing) : List (BitVec 32) :=
  l.first::(l.second.map fun p => p.2.2).toList

lemma dnsInLine_eq_none (h : ¬dnsWord <:+: cs) : dnsInLine cs = none := by
  induction cs with
  | nil => rfl
  | cons c cs ih =>
    have hat : dnsAt (c::cs) = none := by
      rw [dnsAt,if_neg]
      intro hpre
      exact h (List.isPrefixOf_iff_prefix.mp hpre).isInfix
    rw [dnsInLine,hat,ih fun hin => h (infix_cons_iff.mpr (Or.inr hin))]
    rfl

variable {l : DnsListing}

lemma mem_listing {c : Char} (h : c ∈ l.text) :
    c.isDigit ∨ c = '.' ∨ c = ',' ∨ c = ' ' ∨ c = '\t' := by
  have hip : ∀ a, c ∈ dottedChars a → c.isDigit ∨ c = '.' ∨ c = ',' ∨ c = ' ' ∨ c = '\t' := by
    intro a hc
    rcases mem_dottedChars hc with h | h
    · exact Or.inl h
    · exact Or.inr (Or.inl h)
  rw [DnsListing.text] at h
  cases hsecond : l.second with
  | none =>
    rw [hsecond] at h
    exact hip _ h
  | some p =>
    rw [hsecond] at h
    simp only [mem_append,mem_cons] at h
    have hblank := l.blanks p hsecond c
    rw [mem_append] at hblank
    rcases h with h | h | h | h | h
    · exact hip _ h
    · exact Or.inr (Or.inr (Or.inr (hblank (Or.inl h))))
    · exact Or.inr (Or.inr (Or.inl h))
    · exact Or.inr (Or.inr (Or.inr (hblank (Or.inr h))))
    · exact hip _ h

/-- What the expression finds behind its keyword. -/
lemma dns_of_listing (l : DnsListing) : ((quad 3 l.text).bind fun first =>
      (lastQuad (first.1.getLastD ' ') first.2).map fun second => (first.1,second)) =
      l.second.map fun p => (dottedChars l.first,dottedChars p.2.2) := by
  cases hsecond : l.second with
  | none =>
    have htext : l.text = dottedChars l.first++[] := by simp [DnsListing.text,hsecond]
    rw [htext,quad_dotted l.first (by simp)]
    rfl
  | some p =>
    have hblank : ∀ c, c = ' ' ∨ c = '\t' → isWord c = false := by
      rintro c (rfl | rfl) <;> decide
    have hblanks := l.blanks p hsecond
    have htext : l.text = dottedChars l.first++((p.1++ ','::p.2.1)++dottedChars p.2.2) := by
      simp [DnsListing.text,hsecond]
    have hhead : ∀ c, ((p.1++ ','::p.2.1)++dottedChars p.2.2).head? = some c → isWord c = false := by
      intro c hc
      rcases p with ⟨_ | ⟨d,before⟩,after,b⟩
      · obtain rfl : ',' = c := by simpa using hc
        decide
      · obtain rfl : d = c := by simpa using hc
        exact hblank d (hblanks d (by simp))
    have hlast : isWord ((p.1++ ','::p.2.1).getLastD ((dottedChars l.first).getLastD ' ')) = false := by
      rw [getLastD_eq_getLast?,List.getLast?_append_of_ne_nil _ (by simp),List.getLast?_cons,
        Option.getD_some]
      cases hafter : p.2.1.getLast? with
      | none => decide
      | some c =>
        exact hblank c (hblanks c (mem_append_right _ (mem_of_getLast? hafter)))
    rw [htext,quad_dotted l.first hhead,Option.bind_some,lastQuad_append (lastQuad_dotted hlast _)]
    rfl

lemma listing_head (l : DnsListing) : ∃ d rest, l.text = d::rest ∧ d.isDigit := by
  obtain ⟨d,digits,hcons⟩ := exists_cons_of_ne_nil
    (Nat.toDigits_ne_nil (b := 10) (n := octet l.first 0))
  have hd : d.isDigit := toDigits_isDigit (hcons ▸ mem_cons_self)
  have hdotted : ∃ rest, dottedChars l.first = d::rest := by
    rw [dottedChars_eq,hcons]
    exact ⟨_,rfl⟩
  obtain ⟨rest,hrest⟩ := hdotted
  cases hsecond : l.second with
  | none => exact ⟨d,rest,by simp [DnsListing.text,hsecond,hrest],hd⟩
  | some p =>
    exact ⟨d,rest++(p.1++ ','::(p.2.1++dottedChars p.2.2)),by simp [DnsListing.text,hsecond,hrest],hd⟩

lemma quad_blank {c : Char} (h : c = ' ' ∨ c = '\t') (cs : List Char) : quad 3 (c::cs) = none := by
  have hdigit : c.isDigit = false := by rcases h with rfl | rfl <;> decide
  rw [quad,group_blank hdigit]
  rfl

/-- The keyword stands only at the start of the line of a listing. -/
lemma dnsInLine_eq_dnsAt {s : Setting} (hname : s.name = ['D','N','S'])
    (hvalue : s.value = l.text) : dnsInLine s.text = dnsAt s.text := by
  have hletter : 'D' ∉ 'N':: 'S'::(s.before++ '='::(s.after++s.value)) := by
    intro hin
    simp only [mem_cons,mem_append,hvalue] at hin
    rcases hin with h | h | h | h | h | h
    · exact absurd h (by decide)
    · exact absurd h (by decide)
    · exact absurd (s.before_blank _ h) (by decide)
    · exact absurd h (by decide)
    · exact absurd (s.after_blank _ h) (by decide)
    · exact absurd (mem_listing h) (by decide)
  have hnone : dnsInLine ('N':: 'S'::(s.before++ '='::(s.after++s.value))) = none := by
    apply dnsInLine_eq_none
    intro hin
    have hword : 'D' ∈ dnsWord := by decide
    exact hletter (hin.subset hword)
  rw [Setting.text,hname]
  simp only [cons_append,nil_append]
  rw [dnsInLine,hnone,Option.or_none]

/-- The keyword ends with one blank before the equals sign and one behind it. -/
lemma single_blanks (s : Setting) {d : Char} (hvalue : s.value = d::rest)
    (hdigit : d.isDigit) (h : [' ','=',' '] <+: s.before++ '='::(s.after++s.value)) :
    s.before = [' '] ∧ ∃ after, s.after = ' '::after := by
  cases hbefore : s.before with
  | nil =>
    rw [hbefore,nil_append,cons_prefix_cons] at h
    exact absurd h.1 (by decide)
  | cons b before =>
    rw [hbefore,cons_append,cons_prefix_cons] at h
    obtain ⟨rfl,h⟩ := h
    cases before with
    | nil =>
      rw [nil_append,cons_prefix_cons] at h
      refine ⟨rfl,?_⟩
      cases hafter : s.after with
      | nil =>
        rw [hafter,hvalue,nil_append,cons_prefix_cons] at h
        rw [← h.2.1] at hdigit
        exact absurd hdigit (by decide)
      | cons a after =>
        rw [hafter,cons_append,cons_prefix_cons] at h
        exact ⟨after,by rw [h.2.1]⟩
    | cons c before =>
      rw [cons_append,cons_prefix_cons] at h
      have hblank := s.before_blank c (by simp [hbefore])
      rw [← h.1] at hblank
      exact absurd hblank (by decide)

/-- The line of a listing is read by the expression only with one blank on each side of the
equals sign, and only when it has two addresses. -/
lemma dnsInLine_setting {s : Setting} (hname : s.name = ['D','N','S']) (hvalue : s.value = l.text) :
    dnsInLine s.text = if s.before = [' '] ∧ s.after = [' '] then
      l.second.map fun p => (dottedChars l.first,dottedChars p.2.2) else none := by
  have hword : dnsWord = ['D','N','S',' ','=',' '] := by decide
  have hlength : dnsWord.length = 6 := by rw [hword]; rfl
  obtain ⟨d,rest,hlisting,hdigit⟩ := listing_head l
  rw [dnsInLine_eq_dnsAt hname hvalue,dnsAt,hlength]
  have htext : s.text = 'D':: 'N':: 'S'::(s.before++ '='::(s.after++s.value)) := by
    rw [Setting.text,hname]
    rfl
  by_cases hpre : dnsWord <+: s.text
  · rw [if_pos (List.isPrefixOf_iff_prefix.mpr hpre)]
    rw [hword,htext] at hpre
    simp only [cons_prefix_cons,true_and] at hpre
    -- the keyword needs one blank before the equals sign and one behind it
    obtain ⟨hbefore,after,hafter⟩ := single_blanks s (hvalue.trans hlisting) hdigit hpre
    have hdrop : s.text.drop 6 = after++l.text := by
      rw [htext,hbefore,hafter,hvalue]
      rfl
    rw [hdrop]
    cases after with
    | nil =>
      rw [if_pos ⟨hbefore,hafter⟩,nil_append]
      exact dns_of_listing l
    | cons c after =>
      have hblank := s.blanks c (by simp [hafter])
      rw [if_neg (by simp [hafter]),cons_append,quad_blank hblank]
      rfl
  · rw [if_neg (mt List.isPrefixOf_iff_prefix.mp hpre),if_neg]
    rintro ⟨hbefore,hafter⟩
    apply hpre
    rw [hword,htext,hbefore,hafter]
    simp

end

end AlzheimerVPN.ImportController
