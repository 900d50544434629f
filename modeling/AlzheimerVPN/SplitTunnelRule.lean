import Mathlib.Data.Bool.AllAny
import AlzheimerVPN.AddressText

/-! Split tunnel rules: the host text a rule is reduced to, the three kinds of
rules and what they match. -/
namespace AlzheimerVPN

open Text Regex RegularExpression Address List

namespace NetworkUtilities

/-- `25[0-5]|2[0-4][0-9]|1[0-9][0-9]|[1-9][0-9]|[0-9]` -/
def octet : RegularExpression Char :=
  char '2' * (char '5' * oneOf "012345".toList) +
  (char '2' * (oneOf "01234".toList * oneOf digits) +
  (char '1' * (oneOf digits * oneOf digits) +
  (oneOf "123456789".toList * oneOf digits + oneOf digits)))

/-- `\/([0-9]|[1-2][0-9]|3[0-2])` -/
def subnet : RegularExpression Char :=
  char '/' * (oneOf digits + (oneOf "12".toList * oneOf digits + char '3' * oneOf "012".toList))

def ipAddressWithSubnetRegExp : RegularExpression Char :=
  octet * (char '.' * (octet * (char '.' * (octet * (char '.' * (octet * optional subnet))))))

def lowerOrDigit : List Char := "abcdefghijklmnopqrstuvwxyz0123456789".toList

/-- `((?!\-)(xn\-\-)?[a-z0-9\-_]{0,61}[a-z0-9]{1,1}\.)`; the lookahead says that
the label does not begin with a dash. -/
def label : RegularExpression Char :=
  (literal "xn--".toList * (upTo (oneOf ("-_".toList++lowerOrDigit)) 61 * oneOf lowerOrDigit) +
    (oneOf ("_".toList++lowerOrDigit) * (upTo (oneOf ("-_".toList++lowerOrDigit)) 60 * oneOf lowerOrDigit) +
      oneOf lowerOrDigit)) * char '.'

def domainRegExp : RegularExpression Char :=
  star label * (optional (literal "xn--".toList) *
    ((repeated (oneOf ("-".toList++lowerOrDigit)) 1 60 + repeated (oneOf ("-".toList++lowerOrDigit)) 1 29) *
      (char '.' * (oneOf "abcdefghijklmnopqrstuvwxyz".toList *
        (oneOf "abcdefghijklmnopqrstuvwxyz".toList *
          star (oneOf "abcdefghijklmnopqrstuvwxyz".toList))))))

def exactMatch (r : RegularExpression Char) (s : String) : Bool := r.rmatch s.toList

end NetworkUtilities

inductive RuleType
  | exactHost | wildcardHost | ipSubnet
  deriving DecidableEq, Repr

structure SplitTunnelRule where
  type : RuleType
  value : String
  normalizedText : String
  deriving DecidableEq, Repr

namespace SplitTunnelRule

open NetworkUtilities

/-- The pattern after escaping, with `.*` for each star. -/
def wildcard : List Char → List Char → Bool
  | [], cs => cs.isEmpty
  | p::ps, cs =>
    if p = '*' then afterAny (wildcard ps) cs
    else
      match cs with
      | [] => false
      | c::cs => c == p && wildcard ps cs

def wildcardToRegularExpression (pattern host : String) : Bool :=
  beforeEnd (wildcard pattern.toList) host.toList

section

variable [Qt]

/-- What is left of a text between its slashes; taking the first of no parts is an
error of the caller. -/
def hostParts (text : String) : List String :=
  let text := Qt.toLower (trimmed text)
  let text := replaceText text "https://" ""
  let text := replaceText text "http://" ""
  let text := replaceText text "ftp://" ""
  splitSkipEmpty text '/'

def normalizeHostText (text : String) : String := (hostParts text).headD ""

def fromText (text : String) : SplitTunnelRule :=
  let normalized := normalizeHostText text
  if exactMatch ipAddressWithSubnetRegExp normalized then ⟨.ipSubnet,normalized,normalized⟩
  else if containsChar normalized '*' then ⟨.wildcardHost,normalized,normalized⟩
  else ⟨.exactHost,normalized,normalized⟩

end

def isValid (rule : SplitTunnelRule) : Bool :=
  if rule.value.isEmpty then false
  else
    match rule.type with
    | .ipSubnet => exactMatch ipAddressWithSubnetRegExp rule.value
    | .wildcardHost =>
      containsChar rule.value '.' && exactMatch domainRegExp (replaceText rule.value "*" "a")
    | .exactHost => exactMatch domainRegExp rule.value

def isDynamicHostRule (rule : SplitTunnelRule) : Bool := rule.type = .wildcardHost

def matchesHost [Qt] (rule : SplitTunnelRule) (host : String) : Bool :=
  let normalizedHost := normalizeHostText host
  match rule.type with
  | .exactHost => normalizedHost == rule.value
  | .wildcardHost =>
    ("*.".toList.isPrefixOf rule.value.toList &&
      normalizedHost == String.ofList (rule.value.toList.drop 2)) ||
    wildcardToRegularExpression rule.value normalizedHost
  | .ipSubnet => false

/-- The characters a valid host is made of. -/
def hostChars : List Char := ".-_".toList++lowerOrDigit

lemma domainRegExp_over : Over (· ∈ hostChars) domainRegExp := by
  have hclass : ∀ cs : List Char, cs ⊆ hostChars → Over (· ∈ hostChars) (oneOf cs) := by
    intro cs h
    exact over_oneOf fun c hc => h hc
  have hletters := hclass ("abcdefghijklmnopqrstuvwxyz".toList) (by decide)
  have hlower := hclass (lowerOrDigit) (by decide)
  have hinner := hclass ("-_".toList++lowerOrDigit) (by decide)
  have hfirst := hclass ("_".toList++lowerOrDigit) (by decide)
  have hdash := hclass ("-".toList++lowerOrDigit) (by decide)
  have hxn : Over (· ∈ hostChars) (literal "xn--".toList) :=
    over_literal (all_iff_forall_prop.mp (by decide))
  have hdot : Over (· ∈ hostChars) (char '.') := over_char (by decide)
  have hlabel : Over (· ∈ hostChars) label :=
    (((hxn.mul ((hinner.upTo 61).mul hlower)).add
      ((hfirst.mul ((hinner.upTo 60).mul hlower)).add hlower)).mul hdot)
  exact hlabel.star.mul (hxn.optional.mul (((hdash.repeated 1 60).add (hdash.repeated 1 29)).mul
    (hdot.mul (hletters.mul (hletters.mul hletters.star)))))

/-- What holds of every pair of two lists is checked by going through them, not through all
characters. -/
lemma forall_mem_mem {α β : Type} {p : α → β → Prop} [∀ a b, Decidable (p a b)] {as : List α}
    {bs : List β} (h : (as.all fun a => bs.all fun b => decide (p a b))) :
    ∀ a ∈ as, ∀ b ∈ bs, p a b := by
  intro a ha
  have hbs := all_eq_true.mp h a ha
  exact all_iff_forall_prop.mp hbs

lemma octet_toDigits {x : List Char} (h : octet.rmatch x) :
    ∃ n, n < 256 ∧ x = Nat.toDigits 10 n := by
  have hread : ∀ x : List Char, Nat.ofDigitChars 10 x 0 < 256 ∧
      x = Nat.toDigits 10 (Nat.ofDigitChars 10 x 0) → ∃ n, n < 256 ∧ x = Nat.toDigits 10 n :=
    fun x hx => ⟨_,hx⟩
  simp only [octet,add_rmatch_iff,mul_rmatch_iff,char_rmatch_iff,oneOf_rmatch_iff] at h
  apply hread
  rcases h with ⟨_,_,rfl,rfl,_,_,rfl,rfl,c,hc,rfl⟩ | ⟨_,_,rfl,rfl,_,_,rfl,⟨c,hc,rfl⟩,d,hd,rfl⟩ |
    ⟨_,_,rfl,rfl,_,_,rfl,⟨c,hc,rfl⟩,d,hd,rfl⟩ | ⟨_,_,rfl,⟨c,hc,rfl⟩,d,hd,rfl⟩ | ⟨c,hc,rfl⟩
  · revert c
    exact all_iff_forall_prop.mp (by decide)
  · revert d c
    exact forall_mem_mem (by decide)
  · revert d c
    exact forall_mem_mem (by decide)
  · revert d c
    exact forall_mem_mem (by decide)
  · revert c
    exact all_iff_forall_prop.mp (by decide)

/-- Three octets, a last one and what may follow it. -/
lemma ipAddressWithSubnetRegExp_shape {x : List Char} (h : ipAddressWithSubnetRegExp.rmatch x) :
    ∃ (a : BitVec 32) (t : List Char), (t = [] ∨ '/' ∈ t) ∧ x = dottedChars a++t := by
  simp only [ipAddressWithSubnetRegExp,mul_rmatch_iff,char_rmatch_iff,optional_rmatch_iff] at h
  obtain ⟨p,_,rfl,hp,_,_,rfl,rfl,q,_,rfl,hq,_,_,rfl,rfl,r,_,rfl,hr,_,_,rfl,rfl,u,t,rfl,hu,ht⟩ := h
  obtain ⟨i,hi,rfl⟩ := octet_toDigits hp
  obtain ⟨j,hj,rfl⟩ := octet_toDigits hq
  obtain ⟨k,hk,rfl⟩ := octet_toDigits hr
  obtain ⟨l,hl,rfl⟩ := octet_toDigits hu
  refine ⟨ofOctets i j k l,t,?_,?_⟩
  · rcases ht with rfl | ht
    · exact Or.inl rfl
    · simp only [subnet,mul_rmatch_iff,char_rmatch_iff] at ht
      obtain ⟨_,_,rfl,rfl,-⟩ := ht
      exact Or.inr (by simp)
  · have h0 : (ofOctets i j k l).toNat / 16777216 % 256 = i := by
      simp only [ofOctets,BitVec.toNat_ofNat]
      omega
    have h1 : (ofOctets i j k l).toNat / 65536 % 256 = j := by
      simp only [ofOctets,BitVec.toNat_ofNat]
      omega
    have h2 : (ofOctets i j k l).toNat / 256 % 256 = k := by
      simp only [ofOctets,BitVec.toNat_ofNat]
      omega
    have h3 : (ofOctets i j k l).toNat % 256 = l := by
      simp only [ofOctets,BitVec.toNat_ofNat]
      omega
    simp [dottedChars,h0,h1,h2,h3]

/-- The name a pattern is checked by: its stars are taken for a letter. -/
def starless (c : Char) : Char := if c = '*' then 'a' else c

lemma replaceChars_star {pattern : List Char} :
    replaceChars ['*'] ['a'] 0 pattern = pattern.map starless := by
  induction pattern with
  | nil => rfl
  | cons c pattern ih =>
    by_cases hc : c = '*'
    · subst hc
      simp [replaceChars,starless,ih]
    · have hstarts : ['*'].isPrefixOf (c::pattern) = false := by
        simp [List.isPrefixOf,Ne.symm hc]
      rw [replaceChars,hstarts,map_cons,starless,if_neg hc,← ih]
      rfl

section

variable [Qt]

lemma slash_not_mem_normalizeHostText (text : String) :
    '/' ∉ (normalizeHostText text).toList := by
  rw [normalizeHostText]
  cases hparts : hostParts text with
  | nil => simp
  | cons part parts =>
    have hm : part ∈ hostParts text := by simp [hparts]
    simp only [hostParts,splitSkipEmpty,mem_filter] at hm
    exact not_mem_of_mem_split hm.1

variable {text : String}

/-- A rule for an address has lost its prefix length. -/
lemma ipSubnet_dotted (h : (fromText text).type = .ipSubnet) :
    ∃ a, (fromText text).normalizedText = dotted a := by
  simp only [fromText] at h ⊢
  split_ifs at h ⊢ with hm hs
  obtain ⟨a,t,ht,hx⟩ := ipAddressWithSubnetRegExp_shape hm
  have hslash := slash_not_mem_normalizeHostText text
  refine ⟨a,?_⟩
  rcases ht with rfl | ht
  · rw [dotted,← append_nil (dottedChars a),← hx,String.ofList_toList]
  · exact absurd (by simp [hx,ht]) hslash

/-- What is known of the text of a valid host rule. -/
lemma value_chars (hvalid : (fromText text).isValid) (htype : (fromText text).type ≠ .ipSubnet) :
    ∀ c ∈ (fromText text).value.toList, c ∈ hostChars ∨ c = '*' := by
  intro c hc
  simp only [isValid] at hvalid
  split_ifs at hvalid with he
  split at hvalid
  · rename_i h
    exact absurd h htype
  · obtain ⟨-,hdomain⟩ := Bool.and_eq_true_iff.mp hvalid
    by_cases hstar : c = '*'
    · exact Or.inr hstar
    · left
      have hover := domainRegExp_over _ hdomain c
      rw [replaceText,String.toList_ofList] at hover
      apply hover
      rw [show "*".toList = ['*'] from rfl,show "a".toList = ['a'] from rfl,replaceChars_star]
      exact mem_map.mpr ⟨c,hc,if_neg hstar⟩
  · exact Or.inl (domainRegExp_over _ hvalid c hc)

lemma normalizedText_eq_value (text : String) :
    (fromText text).normalizedText = (fromText text).value := by
  simp only [fromText]
  split_ifs <;> rfl

lemma value_eq_normalizeHostText (text : String) :
    (fromText text).value = normalizeHostText text := by
  simp only [fromText]
  split_ifs <;> simp only

lemma type_of_star (hstar : containsChar (normalizeHostText text) '*') :
    (fromText text).type = .ipSubnet ∨ (fromText text).type = .wildcardHost := by
  simp only [fromText,hstar,if_true]
  split_ifs
  · exact Or.inl rfl
  · exact Or.inr rfl

variable [LawfulQt]

/-- A text of host characters is its own normal form. -/
lemma normalizeHostText_of_hostChars {s : String} (h : ∀ c ∈ s.toList, c ∈ hostChars)
    (hne : s.isEmpty = false) : normalizeHostText s = s := by
  have hspace : ∀ c ∈ s.toList, isSpace c = false := by
    have hall : ∀ c ∈ hostChars, isSpace c = false := all_iff_forall_prop.mp (by decide)
    exact fun c hc => hall c (h c hc)
  have hlower : ∀ c ∈ s.toList, c.toNat < 128 ∧ c.isUpper = false := by
    have hall : ∀ c ∈ hostChars, c.toNat < 128 ∧ c.isUpper = false :=
      all_iff_forall_prop.mp (by decide)
    exact fun c hc => hall c (h c hc)
  have hslash : '/' ∉ s.toList := fun hc => absurd (h _ hc) (by decide)
  have htrim : trimmed s = s := by rw [trimmed,trimChars_eq_self hspace,String.ofList_toList]
  have hparts : hostParts s = [s] := by
    simp only [hostParts,htrim,LawfulQt.toLower_of_not_upper hlower]
    rw [replaceText_eq_self (by decide : '/' ∈ "https://".toList) hslash,
      replaceText_eq_self (by decide : '/' ∈ "http://".toList) hslash,
      replaceText_eq_self (by decide : '/' ∈ "ftp://".toList) hslash,
      splitSkipEmpty,split_eq_singleton hslash]
    simp [hne]
  rw [normalizeHostText,hparts]
  rfl

/-- The host of a valid exact rule matches the rule. -/
lemma exactHost_matches (htype : (fromText text).type = .exactHost)
    (hvalid : (fromText text).isValid) :
    (fromText text).matchesHost (fromText text).normalizedText := by
  have hvalue := normalizedText_eq_value text
  simp only [isValid,htype] at hvalid
  split_ifs at hvalid with he
  have hchars := domainRegExp_over _ hvalid
  have hn := normalizeHostText_of_hostChars hchars (by simpa using he)
  simp only [matchesHost,htype,hvalue,hn]
  simp

end

end SplitTunnelRule
end AlzheimerVPN
