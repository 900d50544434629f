import AlzheimerVPN.IpText

/-! Printed addresses. What `QHostAddress` and `IPAddress` print is read back as
the address it was printed from, and passes the checks of the service. -/
namespace AlzheimerVPN.IpText

open Text Address List

/-- The decimal text of an integer. -/
def intChars : ℤ → List Char
  | .ofNat n => Nat.toDigits 10 n
  | .negSucc n => '-'::Nat.toDigits 10 (n+1)

lemma toDigits_isDigit {n : ℕ} {c : Char} (h : c ∈ Nat.toDigits 10 n) : c.isDigit :=
  Nat.isDigit_of_mem_toDigits (by omega) (by omega) h

lemma digitGroup_toDigits {n k : ℕ} (hk : 0 < k) (hn : n < 10^k) :
    DigitGroup k (Nat.toDigits 10 n) := by
  refine ⟨fun c hc => toDigits_isDigit hc,Nat.length_toDigits_pos,?_⟩
  exact (Nat.length_toDigits_le_iff (by omega) hk).mpr hn

lemma toInt_toDigits (n : ℕ) :
    toInt (String.ofList (Nat.toDigits 10 n)) = if n ≤ 2147483647 then some (n : ℤ) else none := by
  have hd : ∀ c ∈ Nat.toDigits 10 n, c.isDigit := fun c hc => toDigits_isDigit hc
  have ht : trimChars (Nat.toDigits 10 n) = Nat.toDigits 10 n :=
    trimChars_eq_self fun c hc => isSpace_of_isDigit (hd c hc)
  have hs : signedDecimal (Nat.toDigits 10 n) = some (n : ℤ) := by
    rw [signedDecimal_of_digits hd,decimal_of_digits Nat.toDigits_ne_nil hd,
      Nat.ofDigitChars_ten_toDigits]
    rfl
  by_cases hn : n ≤ 2147483647
  · have hb : -2147483648 ≤ (n : ℤ) ∧ (n : ℤ) ≤ 2147483647 := by omega
    simp [toInt,String.toList_ofList,ht,hs,Option.filter,hb,hn]
  · have hb : ¬(n : ℤ) ≤ 2147483647 := by omega
    simp [toInt,String.toList_ofList,ht,hs,Option.filter,hb,hn]

lemma boundedOfText_toDigits {top : ℕ} (ht : top ≤ 2147483647) (n : ℕ) :
    boundedOfText top (String.ofList (Nat.toDigits 10 n)) = if n ≤ top then some n else none := by
  by_cases hn : n ≤ top
  · have hm : n ≤ 2147483647 := by omega
    simp [boundedOfText,toInt_toDigits,hn,hm]
  · by_cases hm : n ≤ 2147483647 <;> simp [boundedOfText,toInt_toDigits,hn,hm]

variable (a : BitVec 32)

/-- The octets of an address, the leading one first. -/
def octet : Fin 4 → ℕ
  | 0 => a.toNat / 16777216 % 256
  | 1 => a.toNat / 65536 % 256
  | 2 => a.toNat / 256 % 256
  | 3 => a.toNat % 256

lemma octet_lt (i : Fin 4) : octet a i < 256 := by
  unfold octet
  split <;> omega

lemma ofOctets_octet : ofOctets (octet a 0) (octet a 1) (octet a 2) (octet a 3) = a := by
  apply BitVec.eq_of_toNat_eq
  have hlt := a.isLt
  simp only [ofOctets,octet,BitVec.toNat_ofNat]
  omega

lemma dotted_shape : CidrShape (Nat.toDigits 10 (octet a 0)) (Nat.toDigits 10 (octet a 1))
      (Nat.toDigits 10 (octet a 2)) (Nat.toDigits 10 (octet a 3)) [] (dottedChars a) := by
  have hg : ∀ i, DigitGroup 3 (Nat.toDigits 10 (octet a i)) := by
    intro i
    have hlt := octet_lt a i
    exact digitGroup_toDigits (by omega) (by omega)
  exact ⟨hg 0,hg 1,hg 2,hg 3,Or.inl rfl,by simp [dottedChars,octet]⟩

lemma split_dotted : split (dotted a) '.' = [String.ofList (Nat.toDigits 10 (octet a 0)),
      String.ofList (Nat.toDigits 10 (octet a 1)),String.ofList (Nat.toDigits 10 (octet a 2)),
      String.ofList (Nat.toDigits 10 (octet a 3))] := by
  have h := (dotted_shape a).split_dot (s := dotted a) (Or.inl rfl : LineEnd []) (by simp [dotted])
  simpa using h

/-- Reading a printed address gives it back. -/
lemma addressOfText_dotted : addressOfText (dotted a) = some a := by
  have hb : ∀ i, boundedOfText 255 (String.ofList (Nat.toDigits 10 (octet a i))) =
      some (octet a i) := by
    intro i
    have hle : octet a i ≤ 255 := Nat.le_of_lt_succ (octet_lt a i)
    rw [boundedOfText_toDigits (by omega),if_pos hle]
  rw [addressOfText,split_dotted]
  simp [hb,ofOctets_octet]

lemma dottedChars_eq : dottedChars a =
    Nat.toDigits 10 (octet a 0)++ '.'::(Nat.toDigits 10 (octet a 1)++ '.'::
      (Nat.toDigits 10 (octet a 2)++ '.'::Nat.toDigits 10 (octet a 3))) := rfl

lemma mem_dottedChars {a : BitVec 32} {c : Char} (h : c ∈ dottedChars a) :
    c.isDigit ∨ c = '.' := by
  have hdigit : ∀ n, c ∈ Nat.toDigits 10 n → c.isDigit ∨ c = '.' :=
    fun n hc => Or.inl (toDigits_isDigit hc)
  rw [dottedChars_eq] at h
  simp only [mem_append,mem_cons] at h
  rcases h with h | h | h | h | h | h | h
  · exact hdigit _ h
  · exact Or.inr h
  · exact hdigit _ h
  · exact Or.inr h
  · exact hdigit _ h
  · exact Or.inr h
  · exact hdigit _ h

lemma takeWhile_toDigits (n : ℕ) {rest : List Char} (h : ∀ c, rest.head? = some c → c.isDigit = false) :
    (Nat.toDigits 10 n++rest).takeWhile Char.isDigit = Nat.toDigits 10 n ∧
      (Nat.toDigits 10 n++rest).dropWhile Char.isDigit = rest := by
  have hd : ∀ c ∈ Nat.toDigits 10 n, c.isDigit := fun c hc => toDigits_isDigit hc
  rw [takeWhile_append_of_pos hd,dropWhile_append_of_pos hd]
  cases rest with
  | nil => simp
  | cons c cs => simp [h c rfl]

lemma not_mem_dottedChars {a : BitVec 32} {c : Char} (hdigit : c.isDigit = false) (hdot : c ≠ '.') :
    c ∉ dottedChars a := by
  intro hin
  rcases mem_dottedChars hin with h | h
  · rw [hdigit] at h
    cases h
  · exact hdot h

lemma length_dottedChars_le : (dottedChars a).length ≤ 15 := by
  have hle : ∀ i, (Nat.toDigits 10 (octet a i)).length ≤ 3 := by
    intro i
    have hlt := octet_lt a i
    exact (Nat.length_toDigits_le_iff (by omega) (by omega)).mpr (by omega)
  have h0 := hle 0
  have h1 := hle 1
  have h2 := hle 2
  have h3 := hle 3
  simp only [dottedChars_eq,length_append,length_cons]
  omega

lemma slash_not_mem_dotted : '/' ∉ dottedChars a := by
  have h := (dotted_shape a).slash_not_mem_ip
  simpa [dottedChars,octet] using h

lemma octets_bounded : ∀ part ∈ split (dotted a) '.', (boundedOfText 255 part).isSome := by
  intro part hp
  have hb : ∀ i, (boundedOfText 255 (String.ofList (Nat.toDigits 10 (octet a i)))).isSome := by
    intro i
    have hle : octet a i ≤ 255 := Nat.le_of_lt_succ (octet_lt a i)
    rw [boundedOfText_toDigits (by omega),if_pos hle]
    rfl
  rw [split_dotted] at hp
  simp only [mem_cons,not_mem_nil,or_false] at hp
  rcases hp with rfl | rfl | rfl | rfl
  · exact hb 0
  · exact hb 1
  · exact hb 2
  · exact hb 3

/-- A printed address passes the check of the kill switch. -/
lemma isValidIpOrCidr_dotted : isValidIpOrCidr (dotted a) := by
  have hn : '/' ∉ (dotted a).toList := by simpa [dotted] using slash_not_mem_dotted a
  refine (isValidIpOrCidr_iff _).mpr ⟨?_,?_,fun h => absurd h hn⟩
  · refine (matchesLine_ipOrCidr_iff _).mpr ⟨_,_,_,_,_,[],_,dotted_shape a,Or.inl rfl,?_⟩
    simp [dotted]
  · rw [split_eq_singleton hn]
    exact octets_bounded a

/-- The text `IPAddress` prints for a range. -/
def cidr (n : ℕ) : String :=
  String.ofList (dottedChars a ++ '/'::Nat.toDigits 10 n)

lemma split_cidr (n : ℕ) :
    split (cidr a n) '/' = [dotted a,String.ofList (Nat.toDigits 10 n)] := by
  have hd : '/' ∉ Nat.toDigits 10 n := fun h => absurd (toDigits_isDigit h) (by decide)
  have hs : (cidr a n).toList = dottedChars a ++ '/'::Nat.toDigits 10 n := String.toList_ofList
  rw [split_of_toList_eq (slash_not_mem_dotted a) hs,split_eq_singleton (by simpa using hd)]
  rfl

lemma rangeOfText_cidr (n : ℕ) :
    rangeOfText (cidr a n) = if n ≤ 32 then some ⟨a,n⟩ else none := by
  have hb := boundedOfText_toDigits (show 32 ≤ 2147483647 by omega) n
  by_cases hn : n ≤ 32 <;> simp [rangeOfText,split_cidr,addressOfText_dotted,hb,hn]

lemma cidr_shape {n : ℕ} (hn : n ≤ 32) :
    CidrShape (Nat.toDigits 10 (octet a 0)) (Nat.toDigits 10 (octet a 1))
      (Nat.toDigits 10 (octet a 2)) (Nat.toDigits 10 (octet a 3)) ('/'::Nat.toDigits 10 n)
      (dottedChars a ++ '/'::Nat.toDigits 10 n) := by
  have h := dotted_shape a
  have hg : DigitGroup 2 (Nat.toDigits 10 n) := digitGroup_toDigits (by omega) (by omega)
  exact ⟨h.first,h.second,h.third,h.fourth,Or.inr ⟨_,hg,rfl⟩,by simp [h.eq]⟩

lemma boundedOfText_pad (top : ℕ) {p q : List Char} (hp : ∀ c ∈ p, isSpace c)
    (hq : ∀ c ∈ q, isSpace c) (cs : List Char) :
    boundedOfText top (String.ofList (p++cs++q)) = boundedOfText top (String.ofList cs) := by
  rw [boundedOfText,toInt_pad hp hq,boundedOfText]

lemma boundedOfText_digits {top : ℕ} {p : List Char} {n : ℕ} (hne : p ≠ [])
    (hp : ∀ c ∈ p, c.isDigit) (h : boundedOfText top (String.ofList p) = some n) :
    Nat.ofDigitChars 10 p 0 = n ∧ n ≤ top := by
  have hspace : ∀ c ∈ p, isSpace c = false := fun c hc => isSpace_of_isDigit (hp c hc)
  have hs : signedDecimal p = some (Nat.ofDigitChars 10 p 0 : ℤ) := by
    rw [signedDecimal_of_digits hp,decimal_of_digits hne hp]
    rfl
  rw [boundedOfText,toInt,String.toList_ofList,trimChars_eq_self hspace,hs] at h
  obtain ⟨i,hi,hin⟩ := Option.bind_eq_some_iff.mp h
  have hv := (Option.filter_eq_some_iff.mp hi).1
  split_ifs at hin with hb
  have hc := Option.some.inj hv
  have hd := Option.some.inj hin
  omega

variable {t : String}

lemma addressOfText_eq_of_split {s p q r u p' u' : String} (hs : split s '.' = [p,q,r,u])
    (ht : split t '.' = [p',q,r,u']) (hp : boundedOfText 255 p = boundedOfText 255 p')
    (hu : boundedOfText 255 u = boundedOfText 255 u') : addressOfText s = addressOfText t := by
  simp only [addressOfText,hs,ht,map_cons,map_nil,hp,hu]

/-- White space around an address does not change what is read. -/
lemma addressOfText_of_trimmed {a : BitVec 32} (h : trimmed t = dotted a) :
    addressOfText t = some a := by
  obtain ⟨pre,post,ht,hpre,hpost⟩ := exists_trimChars_pad t.toList
  have hc : trimChars t.toList = dottedChars a := by
    simpa [trimmed,dotted] using congrArg String.toList h
  have hshape := dotted_shape a
  have hdot : ∀ cs : List Char, (∀ c ∈ cs, isSpace c) → '.' ∉ cs := by
    intro cs hcs hm
    exact absurd (hcs _ hm) (by decide)
  have hsplit := split_octets (s := t)
    (a := pre++Nat.toDigits 10 (octet a 0)) (b := Nat.toDigits 10 (octet a 1))
    (c := Nat.toDigits 10 (octet a 2)) (d := Nat.toDigits 10 (octet a 3)++post)
    (by simp [hdot pre hpre,hshape.first.not_mem (by decide : '.'.isDigit = false)])
    (hshape.second.not_mem (by decide)) (hshape.third.not_mem (by decide))
    (by simp [hdot post hpost,hshape.fourth.not_mem (by decide : '.'.isDigit = false)])
    (by rw [ht,hc,hshape.eq]; simp)
  have hfirst := boundedOfText_pad 255 hpre (q := []) (by simp) (Nat.toDigits 10 (octet a 0))
  have hlast := boundedOfText_pad 255 (p := []) (by simp) hpost (Nat.toDigits 10 (octet a 3))
  rw [append_nil] at hfirst
  rw [addressOfText_eq_of_split hsplit (split_dotted a) hfirst hlast,addressOfText_dotted]

lemma lineEnd_isSpace {e : List Char} (h : LineEnd e) : ∀ c ∈ e, isSpace c := by
  rcases h with rfl | rfl
  · simp
  · exact all_eq_true.mp (by decide)

lemma isSpace_of_plain {cs : List Char} (h : PlainChars cs) : ∀ c ∈ cs, isSpace c = false := by
  intro c hc
  rcases h.chars c hc with hd | rfl | rfl
  · exact isSpace_of_isDigit hd
  · decide
  · decide

/-- Trimming a valid text takes off at most its final line feed, which is not read anyway. -/
lemma rangeOfText_trimmed {s : String} (h : isValidIpOrCidr s) :
    rangeOfText (trimmed s) = rangeOfText s := by
  obtain ⟨hm,-,-⟩ := (isValidIpOrCidr_iff s).mp h
  obtain ⟨a,b,c,d,t,e,core,hshape,he,hs⟩ := (matchesLine_ipOrCidr_iff s.toList).mp hm
  have hcore : trimmed s = String.ofList core := by
    have hpad := trimChars_pad (p := []) (by simp) (lineEnd_isSpace he) core
    rw [nil_append] at hpad
    rw [trimmed,hs,hpad,trimChars_eq_self (isSpace_of_plain hshape.plain)]
  have hend : ∀ (top : ℕ) (cs : List Char),
      boundedOfText top (String.ofList (cs++e)) = boundedOfText top (String.ofList cs) := by
    intro top cs
    simpa using boundedOfText_pad top (p := []) (by simp) (lineEnd_isSpace he) cs
  have hnil : LineEnd [] := Or.inl rfl
  have hc' : (String.ofList core).toList = core++[] := by simp
  rw [hcore]
  rcases hshape.split_slash he hs with ⟨rfl,hsp⟩ | ⟨p,rfl,hsp⟩
  · rcases hshape.split_slash hnil hc' with ⟨-,hsp'⟩ | ⟨p,hp,-⟩
    · have ha := addressOfText_eq_of_split (hshape.split_dot he hs) (hshape.split_dot hnil hc')
        rfl (by rw [hend,append_nil])
      simp only [rangeOfText,hsp,hsp',ha]
    · simp at hp
  · rcases hshape.split_slash hnil hc' with ⟨ht,-⟩ | ⟨p',hp,hsp'⟩
    · simp at ht
    · obtain rfl : p = p' := by simpa using hp
      simp only [rangeOfText,hsp,hsp',hend,append_nil]

/-- An IPv4 address with an optional prefix length and not a character more. -/
structure PlainAddress (t : String) : Prop where
  plain : PlainChars t.toList
  range : (rangeOfText t).isSome

def EndsLine (t : String) : Prop := t.toList.getLast? = some '\n'

instance (t : String) : Decidable (EndsLine t) :=
  inferInstanceAs (Decidable (t.toList.getLast? = some '\n'))

lemma PlainAddress.not_endsLine (h : PlainAddress t) : ¬EndsLine t := by
  intro he
  have hm : '\n' ∈ t.toList := mem_of_getLast? he
  rcases h.plain.chars _ hm with hc | hc | hc
  · exact absurd hc (by decide)
  · exact absurd hc (by decide)
  · exact absurd hc (by decide)

/-- The check of the kill switch misses the final line feed and nothing else. -/
lemma plainAddress_iff_of_valid (h : isValidIpOrCidr t) : PlainAddress t ↔ ¬EndsLine t := by
  constructor
  · exact PlainAddress.not_endsLine
  · intro hn
    obtain ⟨core,e,hp,he,ht,hr⟩ := isValidIpOrCidr_spec h
    rcases he with rfl | rfl
    · rw [append_nil] at ht
      exact ⟨by rwa [ht],hr⟩
    · exact absurd (by simp [EndsLine,ht]) hn

lemma trimmed_dotted : trimmed (dotted a) = dotted a := by
  have hp := isSpace_of_plain (dotted_shape a).plain
  rw [trimmed,dotted,String.toList_ofList,trimChars_eq_self hp]

lemma readDotted_dotted : readDotted (dotted a) = .ipv4 a := by
  simp [readDotted,trimmed_dotted,addressOfText_dotted]

lemma trimmed_of_readDotted {b : BitVec 32} (h : readDotted t = .ipv4 b) :
    trimmed t = dotted b := by
  simp only [readDotted] at h
  split at h
  · split_ifs at h with ht
    cases h
    exact (beq_iff_eq.mp ht).symm
  · cases h

lemma map_toLower_eq_self {cs : List Char} (h : ∀ c ∈ cs, c.isUpper = false) :
    cs.map Char.toLower = cs := by
  induction cs with
  | nil => rfl
  | cons c cs ih =>
    have hu := h c (by simp)
    have hrange : ¬(c.val ≥ 'A'.val ∧ c.val ≤ 'Z'.val) := of_decide_eq_false hu
    have hc : c.toLower = c := dif_neg hrange
    rw [map_cons,hc,ih fun d hd => h d (by simp [hd])]

lemma checkIpSubnetFormat_dotted [Qt] [LawfulQt] : checkIpSubnetFormat (dotted a) := by
  have hslash : containsChar (dotted a) '/' = false := by
    simpa [containsChar,dotted] using slash_not_mem_dotted a
  have hdots : (dotted a).toList.count '.' = 3 := by
    have hz : ∀ i, (Nat.toDigits 10 (octet a i)).count '.' = 0 := by
      intro i
      exact count_eq_zero.mpr fun hm => absurd (toDigits_isDigit hm) (by decide)
    rw [dotted,String.toList_ofList,(dotted_shape a).eq]
    simp [hz]
  have hne : (dotted a).isEmpty = false := by
    cases he : (dotted a).isEmpty with
    | false => rfl
    | true =>
      rw [String.isEmpty_iff] at he
      rw [he] at hdots
      exact absurd hdots (by decide)
  simp [checkIpSubnetFormat,checkIPv4Format,hslash,hdots,hne,LawfulQt.hostAddress_dotted,
    HostAddress.isIPv4]

instance : @LawfulQt dottedQt :=
  @LawfulQt.mk dottedQt (by
      intro s hs
      have hmap := map_toLower_eq_self fun c hc => (hs c hc).2
      change String.ofList (s.toList.map Char.toLower) = s
      rw [hmap,String.ofList_toList])
    (by decide)
    readDotted_dotted
    (by
      intro t a b ha hb
      have hb' := addressOfText_of_trimmed (trimmed_of_readDotted hb)
      rw [ha] at hb'
      exact (Option.some.inj hb').symm)

end AlzheimerVPN.IpText
