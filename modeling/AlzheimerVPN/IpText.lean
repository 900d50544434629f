import AlzheimerVPN.Address
import AlzheimerVPN.Regex

/-! The address texts the service accepts: `isValidIpOrCidr` of the kill switch
and the format checks of `NetworkUtilities`. What Qt supplies and the
repository does not contain is the class `Qt`. -/
namespace AlzheimerVPN

open List Option

/-- A parsed `QHostAddress`. -/
inductive HostAddress
  | null | ipv4 (a : BitVec 32) | ipv6 (a : BitVec 128)
  deriving DecidableEq, Repr

/-- The library functions the program calls whose code is not in the repository. -/
class Qt where
  hostAddress : String → HostAddress
  ipv6Text : BitVec 128 → String
  toLower : String → String

def HostAddress.isIPv4 : HostAddress → Bool
  | .ipv4 _ => true
  | _ => false

def HostAddress.isIPv6 : HostAddress → Bool
  | .ipv6 _ => true
  | _ => false

def HostAddress.toString [Qt] : HostAddress → String
  | .null => ""
  | .ipv4 a => Address.dotted a
  | .ipv6 a => Qt.ipv6Text a

/-- What the documentation says of these functions: lower case letters and other
ASCII characters stay when a text is lowered, and dotted decimal texts are read
as the addresses they are. -/
class LawfulQt [Qt] : Prop where
  toLower_of_not_upper {s : String} :
    (∀ c ∈ s.toList, c.toNat < 128 ∧ c.isUpper = false) → Qt.toLower s = s
  hostAddress_empty : Qt.hostAddress "" = .null
  hostAddress_dotted (a : BitVec 32) : Qt.hostAddress (Address.dotted a) = .ipv4 a
  hostAddress_decimal {t : String} {a b : BitVec 32} :
    Address.addressOfText t = some a → Qt.hostAddress t = .ipv4 b → b = a

/-- Reads dotted decimal addresses without leading zeros, white space around them ignored. -/
def readDotted (t : String) : HostAddress :=
  match Address.addressOfText (Text.trimmed t) with
  | some a => if Address.dotted a == Text.trimmed t then .ipv4 a else .null
  | none => .null

/-- A library that knows dotted decimal addresses only, for runs on concrete inputs. -/
@[reducible] def dottedQt : Qt where
  hostAddress := readDotted
  ipv6Text _ := ""
  toLower s := String.ofList (s.toList.map Char.toLower)

namespace IpText

open Text Regex Address RegularExpression

def amneziaDnsIp : String := "172.29.172.254"

/-- `\d{1,3}\.` -/
def octetDot : RegularExpression Char := repeated (oneOf digits) 1 2 * char '.'

/-- `(\d{1,3}\.){3}\d{1,3}(/\d{1,2})?` -/
def ipOrCidr : RegularExpression Char :=
  octetDot * (octetDot * (octetDot * (repeated (oneOf digits) 1 2 *
    optional (char '/' * repeated (oneOf digits) 1 1))))

def isValidIpOrCidr (value : String) : Bool :=
  if !matchesLine ipOrCidr value.toList then false
  else
    let ipParts := split ((split value '/').headD "") '.'
    if !ipParts.all (fun part => (boundedOfText 255 part).isSome) then false
    else if containsChar value '/' then
      (boundedOfText 32 ((split value '/').getD 1 "")).isSome
    else true

lemma isValidIpOrCidr_iff (value : String) : isValidIpOrCidr value ↔
      matchesLine ipOrCidr value.toList ∧
      (∀ part ∈ split ((split value '/').headD "") '.', (boundedOfText 255 part).isSome) ∧
      ('/' ∈ value.toList → (boundedOfText 32 ((split value '/').getD 1 "")).isSome) := by
  have hall : ((split ((split value '/').headD "") '.').all fun part =>
      (boundedOfText 255 part).isSome) ↔
      ∀ part ∈ split ((split value '/').headD "") '.', (boundedOfText 255 part).isSome :=
    all_eq_true
  by_cases hm : matchesLine ipOrCidr value.toList
  · by_cases hp : ((split ((split value '/').headD "") '.').all fun part =>
        (boundedOfText 255 part).isSome)
    · by_cases hs : '/' ∈ value.toList
      · have hc : containsChar value '/' := (containsChar_iff value '/').mpr hs
        simp only [isValidIpOrCidr,hm,hp,hc,← hall,hs]
        simp
      · have hc : containsChar value '/' = false := by simpa [containsChar] using hs
        simp only [isValidIpOrCidr,hm,hp,hc,← hall,hs]
        simp
    · simp only [isValidIpOrCidr,hm,← hall,hp]
      simp
  · simp only [isValidIpOrCidr,hm]
    simp

lemma ne_empty_of_valid {value : String} (h : isValidIpOrCidr value) : value ≠ "" := by
  rintro rfl
  exact absurd h (by decide)

section

variable [Qt]

def checkIPv4Format (ip : String) : Bool :=
  if ip.isEmpty then false
  else if ip.toList.count '.' != 3 then false
  else (Qt.hostAddress ip).isIPv4

def checkIpSubnetFormat (ip : String) : Bool :=
  if !containsChar ip '/' then checkIPv4Format ip
  else
    let parts := split ip '/'
    if parts.length != 2 then false
    else
      match boundedOfText 32 (parts.getD 1 "") with
      | some _ => checkIPv4Format (parts.getD 0 "")
      | none => false

end

/-- A group of at least one and at most `n` digits. -/
structure DigitGroup (n : ℕ) (g : List Char) : Prop where
  digit : ∀ c ∈ g, c.isDigit
  pos : 1 ≤ g.length
  le : g.length ≤ n

lemma repeated_digits_iff (n : ℕ) (x : List Char) :
    (repeated (oneOf digits) 1 n).rmatch x ↔ DigitGroup (n+1) x := by
  rw [repeated_oneOf_rmatch_iff]
  constructor
  · intro h
    exact ⟨fun c hc => (mem_digits_iff c).mp (h.2.2 c hc),h.1,by omega⟩
  · intro h
    exact ⟨h.pos,by have := h.le; omega,fun c hc => (mem_digits_iff c).mpr (h.digit c hc)⟩

/-- What may follow the four octets. -/
def CidrTail (t : List Char) : Prop := t = [] ∨ ∃ p, DigitGroup 2 p ∧ t = '/'::p

lemma octetDot_mul_iff (r : RegularExpression Char) (x : List Char) : (octetDot * r).rmatch x ↔
      ∃ g y, DigitGroup 3 g ∧ r.rmatch y ∧ x = g++ '.'::y := by
  rw [mul_rmatch_iff]
  simp only [octetDot,mul_rmatch_iff,repeated_digits_iff,char_rmatch_iff]
  constructor
  · rintro ⟨t,u,rfl,⟨g,d,rfl,hg,rfl⟩,hu⟩
    exact ⟨g,u,hg,hu,by simp⟩
  · rintro ⟨g,y,hg,hy,rfl⟩
    exact ⟨g++['.'],y,by simp,⟨g,['.'],rfl,hg,rfl⟩,hy⟩

lemma last_octet_iff (x : List Char) : (repeated (oneOf digits) 1 2 *
      optional (char '/' * repeated (oneOf digits) 1 1)).rmatch x ↔
      ∃ g t, DigitGroup 3 g ∧ CidrTail t ∧ x = g++t := by
  rw [mul_rmatch_iff]
  simp only [repeated_digits_iff,optional_rmatch_iff,mul_rmatch_iff,char_rmatch_iff]
  constructor
  · rintro ⟨g,t,rfl,hg,rfl | ⟨s,p,rfl,rfl,hp⟩⟩
    · exact ⟨g,[],hg,Or.inl rfl,rfl⟩
    · exact ⟨g,'/'::p,hg,Or.inr ⟨p,hp,rfl⟩,rfl⟩
  · rintro ⟨g,t,hg,rfl | ⟨p,hp,rfl⟩,rfl⟩
    · exact ⟨g,[],rfl,hg,Or.inl rfl⟩
    · exact ⟨g,'/'::p,rfl,hg,Or.inr ⟨['/'],p,rfl,rfl,hp⟩⟩

/-- The characters of a text of the form `a.b.c.d` or `a.b.c.d/p`. -/
structure CidrShape (a b c d t cs : List Char) : Prop where
  first : DigitGroup 3 a
  second : DigitGroup 3 b
  third : DigitGroup 3 c
  fourth : DigitGroup 3 d
  tail : CidrTail t
  eq : cs = a++ '.'::(b++ '.'::(c++ '.'::(d++t)))

lemma ipOrCidr_iff (cs : List Char) :
    ipOrCidr.rmatch cs ↔ ∃ a b c d t, CidrShape a b c d t cs := by
  simp only [ipOrCidr,octetDot_mul_iff,last_octet_iff]
  constructor
  · rintro ⟨a,y,ha,⟨b,z,hb,⟨c,w,hc,⟨d,t,hd,ht,rfl⟩,rfl⟩,rfl⟩,rfl⟩
    exact ⟨a,b,c,d,t,ha,hb,hc,hd,ht,rfl⟩
  · rintro ⟨a,b,c,d,t,ha,hb,hc,hd,ht,rfl⟩
    exact ⟨a,_,ha,⟨b,_,hb,⟨c,_,hc,⟨d,t,hd,ht,rfl⟩,rfl⟩,rfl⟩,rfl⟩

lemma DigitGroup.not_mem {n : ℕ} {g : List Char} (h : DigitGroup n g) {c : Char}
    (hc : c.isDigit = false) : c ∉ g := by
  intro hm
  have hd := h.digit c hm
  simp [hc] at hd

/-- An optional final line feed. -/
def LineEnd (e : List Char) : Prop := e = [] ∨ e = ['\n']

lemma matchesLine_ipOrCidr_iff (cs : List Char) : matchesLine ipOrCidr cs ↔
      ∃ a b c d t e core, CidrShape a b c d t core ∧ LineEnd e ∧ cs = core++e := by
  rw [matchesLine_iff]
  constructor
  · rintro (h | ⟨ds,rfl,h⟩)
    · obtain ⟨a,b,c,d,t,hs⟩ := (ipOrCidr_iff cs).mp h
      exact ⟨a,b,c,d,t,[],cs,hs,Or.inl rfl,by simp⟩
    · obtain ⟨a,b,c,d,t,hs⟩ := (ipOrCidr_iff ds).mp h
      exact ⟨a,b,c,d,t,['\n'],ds,hs,Or.inr rfl,rfl⟩
  · rintro ⟨a,b,c,d,t,e,core,hs,rfl | rfl,rfl⟩
    · exact Or.inl (by simpa using (ipOrCidr_iff core).mpr ⟨a,b,c,d,t,hs⟩)
    · exact Or.inr ⟨core,rfl,(ipOrCidr_iff core).mpr ⟨a,b,c,d,t,hs⟩⟩

lemma LineEnd.not_mem {e : List Char} (h : LineEnd e) {c : Char} (hc : c ≠ '\n') : c ∉ e := by
  rcases h with rfl | rfl
  · simp
  · simpa using hc

/-- Splitting `a.b.c.d` followed by text without dots gives the four octets. -/
lemma split_octets {s : String} {a b c d : List Char} (ha : '.' ∉ a) (hb : '.' ∉ b)
    (hc : '.' ∉ c) (hd : '.' ∉ d) (hs : s.toList = a++ '.'::(b++ '.'::(c++ '.'::d))) :
    split s '.' = [String.ofList a,String.ofList b,String.ofList c,String.ofList d] := by
  rw [split_of_toList_eq ha hs,split_of_toList_eq hb String.toList_ofList,
    split_of_toList_eq hc String.toList_ofList,split_eq_singleton (by simpa using hd)]

lemma addressOfText_isSome_of_split {s : String} {p q r u : String}
    (hs : split s '.' = [p,q,r,u]) (h : ∀ x ∈ [p,q,r,u], (boundedOfText 255 x).isSome) :
    (addressOfText s).isSome := by
  obtain ⟨a,ha⟩ := isSome_iff_exists.mp (h p (by simp))
  obtain ⟨b,hb⟩ := isSome_iff_exists.mp (h q (by simp))
  obtain ⟨c,hc⟩ := isSome_iff_exists.mp (h r (by simp))
  obtain ⟨d,hd⟩ := isSome_iff_exists.mp (h u (by simp))
  simp [addressOfText,hs,ha,hb,hc,hd]

section

variable {a b c d t e core : List Char} {s : String}

lemma CidrShape.slash_not_mem_ip (h : CidrShape a b c d t core) :
    '/' ∉ a++ '.'::(b++ '.'::(c++ '.'::d)) := by
  have ha := h.first.not_mem (by decide : '/'.isDigit = false)
  have hb := h.second.not_mem (by decide : '/'.isDigit = false)
  have hc := h.third.not_mem (by decide : '/'.isDigit = false)
  have hd := h.fourth.not_mem (by decide : '/'.isDigit = false)
  simp [ha,hb,hc,hd]

/-- Without a prefix length the text is one part, with one it is two. -/
lemma CidrShape.split_slash (h : CidrShape a b c d t core) (he : LineEnd e)
    (hs : s.toList = core++e) :
    (t = [] ∧ split s '/' = [s]) ∨ ∃ p, t = '/'::p ∧ split s '/' =
        [String.ofList (a++ '.'::(b++ '.'::(c++ '.'::d))),String.ofList (p++e)] := by
  have hi := h.slash_not_mem_ip
  have hee : '/' ∉ e := he.not_mem (by decide)
  rcases h.tail with rfl | ⟨p,hp,rfl⟩
  · left
    refine ⟨rfl,split_eq_singleton ?_⟩
    rw [hs,h.eq]
    simpa [hee] using hi
  · right
    refine ⟨p,rfl,?_⟩
    have hpp : '/' ∉ p := hp.not_mem (by decide)
    have hq : s.toList = (a++ '.'::(b++ '.'::(c++ '.'::d)))++ '/'::(p++e) := by
      rw [hs,h.eq]
      simp
    rw [split_of_toList_eq hi hq,split_eq_singleton (by simp [hpp,hee])]

lemma CidrShape.split_dot (h : CidrShape a b c d [] core) (he : LineEnd e)
    (hs : s.toList = core++e) :
    split s '.' = [String.ofList a,String.ofList b,String.ofList c,String.ofList (d++e)] := by
  have hd := h.fourth.not_mem (by decide : '.'.isDigit = false)
  have hee : '.' ∉ e := he.not_mem (by decide)
  apply split_octets (h.first.not_mem (by decide)) (h.second.not_mem (by decide))
    (h.third.not_mem (by decide)) (by simp [hd,hee])
  rw [hs,h.eq]
  simp

lemma CidrShape.split_ip (h : CidrShape a b c d t core) :
    split (String.ofList (a++ '.'::(b++ '.'::(c++ '.'::d)))) '.' =
      [String.ofList a,String.ofList b,String.ofList c,String.ofList d] :=
  split_octets (h.first.not_mem (by decide)) (h.second.not_mem (by decide))
    (h.third.not_mem (by decide)) (h.fourth.not_mem (by decide)) String.toList_ofList

/-- Only digits, dots and at most one slash. -/
structure PlainChars (cs : List Char) : Prop where
  chars : ∀ x ∈ cs, x.isDigit ∨ x = '.' ∨ x = '/'
  slash : cs.count '/' ≤ 1

lemma CidrShape.plain (h : CidrShape a b c d t core) : PlainChars core := by
  have hz : ∀ {n : ℕ} {g : List Char}, DigitGroup n g → g.count '/' = 0 := by
    intro n g hg
    exact count_eq_zero.mpr (hg.not_mem (by decide))
  have ht : (∀ x ∈ t, x.isDigit ∨ x = '.' ∨ x = '/') ∧ t.count '/' ≤ 1 := by
    rcases h.tail with rfl | ⟨p,hp,rfl⟩
    · simp
    · refine ⟨?_,by simp [hz hp]⟩
      intro x hx
      rcases mem_cons.mp hx with rfl | hx
      · simp
      · exact Or.inl (hp.digit x hx)
  constructor
  · intro x hx
    rw [h.eq] at hx
    simp only [mem_append,mem_cons] at hx
    rcases hx with hx | hx | hx | hx | hx | hx | hx | hx
    · exact Or.inl (h.first.digit x hx)
    · exact Or.inr (Or.inl hx)
    · exact Or.inl (h.second.digit x hx)
    · exact Or.inr (Or.inl hx)
    · exact Or.inl (h.third.digit x hx)
    · exact Or.inr (Or.inl hx)
    · exact Or.inl (h.fourth.digit x hx)
    · exact ht.1 x hx
  · rw [h.eq]
    simp [hz h.first,hz h.second,hz h.third,hz h.fourth,ht.2]

end

/-- Every accepted text is a plain address, apart from an optional final line feed. -/
lemma isValidIpOrCidr_spec {s : String} (h : isValidIpOrCidr s) :
    ∃ core e, PlainChars core ∧ LineEnd e ∧ s.toList = core++e ∧ (rangeOfText s).isSome := by
  obtain ⟨hm,hparts,hlen⟩ := (isValidIpOrCidr_iff s).mp h
  obtain ⟨a,b,c,d,t,e,core,hshape,he,hs⟩ := (matchesLine_ipOrCidr_iff s.toList).mp hm
  refine ⟨core,e,hshape.plain,he,hs,?_⟩
  rcases hshape.split_slash he hs with ⟨rfl,hsp⟩ | ⟨p,rfl,hsp⟩
  · have hdot := hshape.split_dot he hs
    have ha : (addressOfText s).isSome := by
      apply addressOfText_isSome_of_split hdot
      simpa only [hsp,headD_cons,hdot] using hparts
    simpa [rangeOfText,hsp] using ha
  · have hdot := hshape.split_ip
    have ha : (addressOfText (String.ofList (a++ '.'::(b++ '.'::(c++ '.'::d))))).isSome := by
      apply addressOfText_isSome_of_split hdot
      simpa only [hsp,headD_cons,hdot] using hparts
    have hslash : '/' ∈ s.toList := by
      rw [hs,hshape.eq]
      simp
    have hl : (boundedOfText 32 (String.ofList (p++e))).isSome := by
      simpa only [hsp,getD_cons_succ,getD_cons_zero] using hlen hslash
    obtain ⟨x,hx⟩ := isSome_iff_exists.mp ha
    obtain ⟨n,hn⟩ := isSome_iff_exists.mp hl
    simp only [rangeOfText,hsp,hx,hn,bind_some,map_some,isSome_some]

end IpText
end AlzheimerVPN
