import Mathlib

/-! Reading a name and a password from the authority of a URI, as RFC 3986 defines its parts:
the authority ends at a slash, a question mark or a number sign, the user information before an
at sign, the name before a colon, and percent signs stand for bytes of UTF-8. -/
namespace AlzheimerVPN.UriText

open List

def isUnreserved (c : Char) : Bool := c.isAlphanum || c ∈ ['-','.','_','~']

/-- The last one is the apostrophe. -/
def isSubDelim (c : Char) : Bool :=
  c ∈ ['!','$','&','(',')','*','+',',',';','='] || c.toNat = 39

/-- The characters of user information that stand for themselves, but for the colon. -/
def isUserChar (c : Char) : Bool := isUnreserved c || isSubDelim c

def isUserinfoChar (c : Char) : Bool := isUserChar c || c = ':'

def hexValue (c : Char) : Option ℕ :=
  if c.isDigit then some (c.toNat-48)
  else if 97 ≤ c.toNat ∧ c.toNat ≤ 102 then some (c.toNat-87)
  else if 65 ≤ c.toNat ∧ c.toNat ≤ 70 then some (c.toNat-55)
  else none

section

def utf8 (x : List Char) : List UInt8 := x.flatMap String.utf8EncodeChar

/-- The bytes of a part of user information, if it is one. -/
def pctDecode : List Char → Option (List UInt8)
  | [] => some []
  | c::rest =>
    if c = '%' then
      match rest with
      | high::low::rest =>
        match hexValue high, hexValue low, pctDecode rest with
        | some h, some l, some bytes => some (UInt8.ofNat (16*h+l)::bytes)
        | _, _, _ => none
      | _ => none
    else if isUserinfoChar c then (pctDecode rest).map (UInt8.ofNat c.toNat::·)
    else none

variable {c : Char}

lemma pctDecode_cons (h : c ≠ '%') (rest : List Char) : pctDecode (c::rest) =
      if isUserinfoChar c then (pctDecode rest).map (UInt8.ofNat c.toNat::·) else none := by
  rcases rest with _ | ⟨high,_ | ⟨low,rest⟩⟩ <;> simp [pctDecode,h]

variable {bytes : List UInt8}

lemma pctDecode_percent {rest : List Char} (h : pctDecode ('%'::rest) = some bytes) :
    ∃ high low rest' byte bytes', rest = high::low::rest' ∧ bytes = byte::bytes' ∧
      (hexValue high).isSome ∧ (hexValue low).isSome ∧ pctDecode rest' = some bytes' := by
  rcases rest with _ | ⟨high,_ | ⟨low,rest⟩⟩
  · simp [pctDecode] at h
  · simp [pctDecode] at h
  · rw [pctDecode,if_pos rfl] at h
    split at h
    case h_1 bytes' hhigh hlow hrest =>
      exact ⟨high,low,rest,_,bytes',rfl,(Option.some.inj h).symm,by rw [hhigh]; rfl,
        by rw [hlow]; rfl,hrest⟩
    case h_2 => cases h

variable {x : List Char}

/-- Induction along a decoding: an escape gives a byte, and so does any other character. -/
lemma pctDecode_induction {P : List Char → List UInt8 → Prop} (nil : P [] [])
    (escape : ∀ high low rest byte bytes, (hexValue high).isSome → (hexValue low).isSome →
      P rest bytes → P ('%'::high::low::rest) (byte::bytes))
    (char : ∀ c rest bytes, isUserinfoChar c → P rest bytes → P (c::rest) (UInt8.ofNat c.toNat::bytes))
    (h : pctDecode x = some bytes) : P x bytes := by
  induction hn : x.length using Nat.strongRecOn generalizing x bytes with
  | ind n ih =>
    subst hn
    cases x with
    | nil =>
      cases h
      exact nil
    | cons c rest =>
      by_cases hc : c = '%'
      · subst hc
        obtain ⟨high,low,rest',byte,bytes',rfl,rfl,hhigh,hlow,hrest⟩ := pctDecode_percent h
        exact escape high low rest' byte bytes' hhigh hlow (ih _ (by simp; omega) hrest rfl)
      · rw [pctDecode_cons hc] at h
        split at h
        case isTrue huser =>
          obtain ⟨bytes',hrest,rfl⟩ := Option.map_eq_some_iff.mp h
          exact char c rest bytes' huser (ih _ (by simp) hrest rfl)
        case isFalse => cases h

lemma utf8EncodeChar_of_ascii (h : c.toNat < 128) :
    String.utf8EncodeChar c = [UInt8.ofNat c.toNat] :=
  if_pos (Nat.le_of_lt_succ h)

lemma length_le_utf8 (x : List Char) : x.length ≤ (utf8 x).length := by
  induction x with
  | nil => rfl
  | cons c x ih =>
    have hpos := Char.utf8Size_pos c
    rw [utf8] at ih ⊢
    simp only [flatMap_cons,length_append,length_cons,String.length_utf8EncodeChar]
    omega

lemma toNat_lt_of_isAlphanum (h : c.isAlphanum) : c.toNat < 128 := by
  simp only [Char.isAlphanum,Char.isAlpha,Char.isUpper,Char.isLower,Char.isDigit,Bool.or_eq_true,
    Bool.and_eq_true,decide_eq_true_eq,ge_iff_le,UInt32.le_iff_toNat_le] at h
  rw [Char.toNat]
  rcases h with (⟨-,h⟩ | ⟨-,h⟩) | ⟨-,h⟩
  · exact Nat.lt_of_le_of_lt h (by decide)
  · exact Nat.lt_of_le_of_lt h (by decide)
  · exact Nat.lt_of_le_of_lt h (by decide)

lemma isUserinfoChar_ascii (h : isUserinfoChar c) : c.toNat < 128 ∧ c ≠ '%' := by
  constructor
  · have hmarks : ∀ c ∈ ['-','.','_','~','!','$','&','(',')','*','+',',',';','=',':'],
        decide (c.toNat < 128) := all_eq_true.mp (by decide)
    simp only [isUserinfoChar,isUserChar,isUnreserved,isSubDelim,Bool.or_eq_true,
      decide_eq_true_eq] at h
    rcases h with ((h | h) | h | h) | rfl
    · exact toNat_lt_of_isAlphanum h
    · exact of_decide_eq_true (hmarks c (mem_append_left ['!','$','&','(',')','*','+',',',';','=',':'] h))
    · exact of_decide_eq_true
        (hmarks c (mem_append_right ['-','.','_','~'] (mem_append_left [':'] h)))
    · omega
    · decide
  · rintro rfl
    exact absurd h (by decide)

/-- An escape takes three characters for one byte. -/
lemma pctDecode_length (h : pctDecode x = some bytes) :
    bytes.length ≤ x.length ∧ (bytes.length = x.length → ∀ c ∈ x, isUserinfoChar c) := by
  refine pctDecode_induction (P := fun x bytes => bytes.length ≤ x.length ∧
    (bytes.length = x.length → ∀ c ∈ x, isUserinfoChar c)) ?_ ?_ ?_ h
  · simp
  · intro high low rest byte bytes _ _ ih
    simp only [length_cons]
    omega
  · intro c rest bytes huser ih
    simp only [length_cons,Nat.add_le_add_iff_right,Nat.add_right_cancel_iff]
    exact ⟨ih.1,fun hlength => forall_mem_cons.mpr ⟨huser,ih.2 hlength⟩⟩

lemma isUserinfoChar_of_hexValue (h : (hexValue c).isSome) : isUserinfoChar c := by
  have hall : ∀ n < 128, (hexValue (Char.ofNat n)).isSome →
      isUserinfoChar (Char.ofNat n) := by decide
  have hlt : c.toNat < 128 := by
    rw [hexValue] at h
    split_ifs at h with hdigit hlower hupper
    · exact toNat_lt_of_isAlphanum (by rw [Char.isAlphanum,hdigit,Bool.or_true])
    · omega
    · omega
    · cases h
  have hc := hall c.toNat hlt
  rw [Char.ofNat_toNat] at hc
  exact hc h

lemma pctDecode_chars (h : pctDecode x = some bytes) : ∀ c ∈ x, isUserinfoChar c ∨ c = '%' := by
  refine pctDecode_induction (P := fun x _ => ∀ c ∈ x, isUserinfoChar c ∨ c = '%') (by simp) ?_ ?_ h
  · intro high low rest _ _ hhigh hlow ih
    rw [forall_mem_cons,forall_mem_cons,forall_mem_cons]
    exact ⟨.inr rfl,.inl (isUserinfoChar_of_hexValue hhigh),
      .inl (isUserinfoChar_of_hexValue hlow),ih⟩
  · intro c rest _ huser ih
    exact forall_mem_cons.mpr ⟨.inl huser,ih⟩

lemma pctDecode_of_chars (h : ∀ c ∈ x, isUserinfoChar c) : pctDecode x = some (utf8 x) := by
  induction x with
  | nil => rfl
  | cons c x ih =>
    obtain ⟨hc,hx⟩ := forall_mem_cons.mp h
    obtain ⟨hascii,hpercent⟩ := isUserinfoChar_ascii hc
    rw [pctDecode_cons hpercent,if_pos hc,ih hx,utf8,utf8,flatMap_cons,
      utf8EncodeChar_of_ascii hascii]
    rfl

/-- A text is what its percent-decoding gives exactly if all its characters stand for
themselves. -/
lemma pctDecode_eq_utf8_iff (x : List Char) :
    pctDecode x = some (utf8 x) ↔ ∀ c ∈ x, isUserinfoChar c := by
  refine ⟨?_,pctDecode_of_chars⟩
  intro h
  obtain ⟨hle,hall⟩ := pctDecode_length h
  exact hall (Nat.le_antisymm hle (length_le_utf8 x))

end

section

/-- The authority of a URI, up to its end. -/
def authorityOf (afterScheme : List Char) : List Char :=
  afterScheme.takeWhile fun c => c ≠ '/' && c ≠ '?' && c ≠ '#'

/-- The text before the first occurrence of a delimiter and the text after it. -/
def cut (delimiter : Char) (x : List Char) : Option (List Char × List Char) :=
  match x.dropWhile (· ≠ delimiter) with
  | _::rest => some (x.takeWhile (· ≠ delimiter),rest)
  | [] => none

structure Access where
  user : List UInt8
  password : List UInt8
  hostPort : List Char
  deriving DecidableEq

/-- The name and the password of an authority with user information, and what follows it. -/
def readAccess (afterScheme : List Char) : Option Access :=
  (cut '@' (authorityOf afterScheme)).bind fun (userinfo,hostPort) =>
    (cut ':' userinfo).bind fun (user,password) =>
      (pctDecode user).bind fun user => (pctDecode password).map fun password =>
        ⟨user,password,hostPort⟩

lemma cut_append {d : Char} {x : List Char} (h : d ∉ x) (y : List Char) :
    cut d (x++d::y) = some (x,y) := by
  have hall : ∀ c ∈ x, decide (c ≠ d) := by
    intro c hc
    exact decide_eq_true fun heq => h (heq ▸ hc)
  rw [cut,dropWhile_append_of_pos hall,takeWhile_append_of_pos hall]
  simp

lemma eq_of_cut {d : Char} {x before after : List Char} (h : cut d x = some (before,after)) :
    x = before++d::after ∧ d ∉ before := by
  induction x generalizing before with
  | nil => cases h
  | cons c x ih =>
    by_cases hc : c = d
    · subst hc
      simp only [cut,ne_eq,not_true_eq_false,decide_false,dropWhile_cons,
        takeWhile_cons,Bool.false_eq_true,if_false,Option.some.injEq,Prod.mk.injEq] at h
      obtain ⟨rfl,rfl⟩ := h
      simp
    · have htail : ∃ before', before = c::before' ∧ cut d x = some (before',after) := by
        simp only [cut,ne_eq,hc,not_false_eq_true,decide_true,dropWhile_cons,
          takeWhile_cons,if_true] at h ⊢
        split at h
        case h_1 hdrop =>
          obtain ⟨rfl,rfl⟩ := Prod.mk.inj (Option.some.inj h)
          exact ⟨_,rfl,rfl⟩
        case h_2 => cases h
      obtain ⟨before',rfl,hcut⟩ := htail
      obtain ⟨rfl,hnot⟩ := ih hcut
      refine ⟨rfl,?_⟩
      rw [mem_cons,not_or]
      exact ⟨Ne.symm hc,hnot⟩

/-- A text before a delimiter that is long enough ends at the first one. -/
lemma eq_of_starts {d : Char} {x y rest : List Char} (h : x <+: y++d::rest) (hd : d ∉ x)
    (hlength : y.length ≤ x.length) : x = y := by
  obtain ⟨z,rfl⟩ := prefix_of_prefix_length_le (prefix_append y _) h hlength
  cases z with
  | nil => exact append_nil y
  | cons c z =>
    have hz := (prefix_append_right_inj y).mp h
    obtain ⟨rfl,-⟩ := cons_prefix_cons.mp hz
    exact absurd (mem_append_right y mem_cons_self) hd

lemma ne_of_isUserinfoChar {c : Char} (h : isUserinfoChar c) :
    c ≠ '/' ∧ c ≠ '?' ∧ c ≠ '#' ∧ c ≠ '@' := by
  refine ⟨?_,?_,?_,?_⟩
  all_goals
    rintro rfl
    exact absurd h (by decide)

lemma isUserinfoChar_of_isUserChar {c : Char} (h : isUserChar c) :
    isUserinfoChar c ∧ c ≠ ':' := by
  refine ⟨by rw [isUserinfoChar,h,Bool.true_or],?_⟩
  rintro rfl
  exact absurd h (by decide)

variable {user password hostPort : List Char}
  (hhost : ∀ c ∈ hostPort, c ≠ '/' ∧ c ≠ '?' ∧ c ≠ '#')

include hhost

lemma readAccess_of_chars (huser : ∀ c ∈ user, isUserChar c)
    (hpassword : ∀ c ∈ password, isUserinfoChar c) :
    readAccess (user++ ':'::(password++ '@'::hostPort)) =
      some ⟨utf8 user,utf8 password,hostPort⟩ := by
  have huserinfo : ∀ c ∈ user++ ':'::password, isUserinfoChar c := by
    intro c hc
    rcases mem_append.mp hc with hc | hc
    · exact (isUserinfoChar_of_isUserChar (huser c hc)).1
    · rcases mem_cons.mp hc with rfl | hc
      · decide
      · exact hpassword c hc
  have hat : '@' ∉ user++ ':'::password := fun hmem =>
    (ne_of_isUserinfoChar (huserinfo _ hmem)).2.2.2 rfl
  have hcolon : ':' ∉ user := fun hmem => (isUserinfoChar_of_isUserChar (huser _ hmem)).2 rfl
  have hsplit : user++ ':'::(password++ '@'::hostPort) =
      (user++ ':'::password)++ '@'::hostPort := by simp
  have hauthority : authorityOf ((user++ ':'::password)++ '@'::hostPort) =
      (user++ ':'::password)++ '@'::hostPort := by
    rw [authorityOf,takeWhile_eq_self_iff]
    intro c hc
    rcases mem_append.mp hc with hc | hc
    · obtain ⟨h₁,h₂,h₃,-⟩ := ne_of_isUserinfoChar (huserinfo c hc)
      simp [h₁,h₂,h₃]
    · rcases mem_cons.mp hc with rfl | hc
      · decide
      · obtain ⟨h₁,h₂,h₃⟩ := hhost c hc
        simp [h₁,h₂,h₃]
  have hname := pctDecode_of_chars fun c hc => (isUserinfoChar_of_isUserChar (huser c hc)).1
  simp only [hsplit,readAccess,hauthority,cut_append hat,cut_append hcolon,hname,
    pctDecode_of_chars hpassword,Option.bind_some,Option.map_some]

omit hhost

/-- What is read stands between the delimiters. -/
lemma raw_of_readAccess {text : List Char} {access : Access} (h : readAccess text = some access) :
    ∃ name word, name++ ':'::(word++ '@'::access.hostPort) <+: text ∧ ':' ∉ name ∧ '@' ∉ word ∧
      pctDecode name = some access.user ∧ pctDecode word = some access.password := by
  obtain ⟨⟨userinfo,after⟩,hat,h⟩ := Option.bind_eq_some_iff.mp h
  obtain ⟨⟨name,word⟩,hcolon,h⟩ := Option.bind_eq_some_iff.mp h
  obtain ⟨bytes,hname,h⟩ := Option.bind_eq_some_iff.mp h
  obtain ⟨bytes',hword,rfl⟩ := Option.map_eq_some_iff.mp h
  obtain ⟨hauthority,hnoat⟩ := eq_of_cut hat
  obtain ⟨rfl,hnocolon⟩ := eq_of_cut hcolon
  have htake := List.takeWhile_prefix (l := text) (fun c => c ≠ '/' && c ≠ '?' && c ≠ '#')
  rw [authorityOf] at hauthority
  rw [hauthority] at htake
  exact ⟨name,word,by simpa using htake,hnocolon,
    fun hmem => hnoat (mem_append_right _ (mem_cons_of_mem _ hmem)),hname,hword⟩

end

section

/-- What a URI says about a proxy. -/
structure Proxy where
  user : List UInt8
  password : List UInt8
  host : List Char
  port : ℕ
  deriving DecidableEq

def readHostPort (hostPort : List Char) : Option (List Char × ℕ) :=
  (cut ':' hostPort).bind fun (host,port) =>
    if host.all isUserChar && port.all Char.isDigit then some (host,Nat.ofDigitChars 10 port 0)
    else none

def isSchemeChar (c : Char) : Bool := c.isAlphanum || c ∈ ['+','-','.']

def afterScheme (url : List Char) : Option (List Char) :=
  (cut ':' url).bind fun (scheme,rest) =>
    match rest with
    | '/':: '/'::rest => if scheme.all isSchemeChar then some rest else none
    | _ => none

def readProxy (url : List Char) : Option Proxy :=
  (afterScheme url).bind fun rest => (readAccess rest).bind fun access =>
    (readHostPort access.hostPort).map fun (host,port) =>
      ⟨access.user,access.password,host,port⟩

/-- The parts of a URI written one after the other. -/
def urlText (scheme user password host port : List Char) : List Char :=
  scheme++ ':':: '/':: '/'::(user++ ':'::(password++ '@'::(host++ ':'::port)))

variable {scheme user password host port : List Char}

lemma afterScheme_urlText (hscheme : ∀ c ∈ scheme, isSchemeChar c) :
    afterScheme (urlText scheme user password host port) =
      some (user++ ':'::(password++ '@'::(host++ ':'::port))) := by
  have hcolon : ':' ∉ scheme := fun hmem => absurd (hscheme _ hmem) (by decide)
  rw [afterScheme,urlText,cut_append hcolon,Option.bind_some]
  exact if_pos (all_eq_true.mpr hscheme)

lemma readHostPort_append (hhost : ∀ c ∈ host, isUserChar c) (hport : ∀ c ∈ port, c.isDigit) :
    readHostPort (host++ ':'::port) = some (host,Nat.ofDigitChars 10 port 0) := by
  have hcolon : ':' ∉ host := fun hmem => (isUserinfoChar_of_isUserChar (hhost _ hmem)).2 rfl
  rw [readHostPort,cut_append hcolon,Option.bind_some]
  refine if_pos ?_
  rw [Bool.and_eq_true,all_eq_true,all_eq_true]
  exact ⟨hhost,hport⟩

/-- A URI whose name and password need no escapes is read as it was written. -/
lemma readProxy_of_chars (hscheme : ∀ c ∈ scheme, isSchemeChar c)
    (huser : ∀ c ∈ user, isUserChar c) (hpassword : ∀ c ∈ password, isUserinfoChar c)
    (hhost : ∀ c ∈ host, isUserChar c) (hport : ∀ c ∈ port, c.isDigit) :
    readProxy (urlText scheme user password host port) =
      some ⟨utf8 user,utf8 password,host,Nat.ofDigitChars 10 port 0⟩ := by
  have hhostPort : ∀ c ∈ host++ ':'::port, c ≠ '/' ∧ c ≠ '?' ∧ c ≠ '#' := by
    intro c hc
    have hchar : isUserinfoChar c := by
      rcases mem_append.mp hc with hc | hc
      · exact (isUserinfoChar_of_isUserChar (hhost c hc)).1
      · rcases mem_cons.mp hc with rfl | hc
        · decide
        · simp [isUserinfoChar,isUserChar,isUnreserved,Char.isAlphanum,hport c hc]
    obtain ⟨h₁,h₂,h₃,-⟩ := ne_of_isUserinfoChar hchar
    exact ⟨h₁,h₂,h₃⟩
  simp only [readProxy,afterScheme_urlText hscheme,readAccess_of_chars hhostPort huser hpassword,
    readHostPort_append hhost hport,Option.bind_some,Option.map_some]

/-- What is read from a URI stands between its delimiters. -/
lemma raw_of_readProxy (hscheme : ∀ c ∈ scheme, isSchemeChar c) {proxy : Proxy}
    (h : readProxy (urlText scheme user password host port) = some proxy) :
    ∃ name word after,
      name++ ':'::(word++ '@'::after) <+: user++ ':'::(password++ '@'::(host++ ':'::port)) ∧
      ':' ∉ name ∧ '@' ∉ word ∧
      pctDecode name = some proxy.user ∧ pctDecode word = some proxy.password := by
  simp only [readProxy,afterScheme_urlText hscheme,Option.bind_some,Option.bind_eq_some_iff,
    Option.map_eq_some_iff] at h
  obtain ⟨access,haccess,hostPort,-,rfl⟩ := h
  obtain ⟨name,word,hstart,hname,hword,huser,hpassword⟩ := raw_of_readAccess haccess
  exact ⟨name,word,access.hostPort,hstart,hname,hword,huser,hpassword⟩

end

end AlzheimerVPN.UriText
