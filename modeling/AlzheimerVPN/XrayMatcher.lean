import AlzheimerVPN.SplitTunnelRule

/-! The direct routing of Xray: the matcher text that `xrayDomainMatcher` builds for a rule,
and the hosts that Xray accepts by it. -/
namespace AlzheimerVPN

open Text Regex List Bool

/-- `QRegularExpression::escape` -/
def escapeChar (c : Char) : List Char :=
  if c.isAlphanum || c == '_' then [c] else ['\\',c]

def escape (pattern : String) : String :=
  String.ofList (pattern.toList.flatMap escapeChar)

def xrayDomainMatcher (rule : SplitTunnelRule) : String :=
  match rule.type with
  | .exactHost => "full:" ++ rule.normalizedText
  | .wildcardHost =>
    let pattern := rule.normalizedText
    if "*.".toList.isPrefixOf pattern.toList then
      "domain:" ++ String.ofList (pattern.toList.drop 2)
    else "regexp:^" ++ replaceText (escape pattern) "\\*" ".*" ++ "$"
  | .ipSubnet => ""

namespace Xray

/-- A regular expression of escaped characters, `.*` and a final `$`, from a fixed place
on. -/
def matchHere : List Char → List Char → Bool
  | [],_ => true
  | ['$'],cs => cs.isEmpty
  | '.':: '*'::pattern,cs => afterAny (matchHere pattern) cs
  | '\\'::p::pattern,c::cs => c == p && matchHere pattern cs
  | '\\'::_::_,[] => false
  | p::pattern,c::cs => c == p && matchHere pattern cs
  | _::_,[] => false

/-- The search for a regular expression. -/
def search : List Char → List Char → Bool
  | '^'::pattern,cs => matchHere pattern cs
  | pattern,cs => cs.tails.any (matchHere pattern)

/-- The hosts that a matcher of Xray accepts. -/
def accepts (matcher host : String) : Bool :=
  let text := matcher.toList
  if "full:".toList.isPrefixOf text then host.toList == text.drop 5
  else if "domain:".toList.isPrefixOf text then
    host.toList == text.drop 7 || ('.'::text.drop 7).isSuffixOf host.toList
  else if "regexp:".toList.isPrefixOf text then search (text.drop 7) host.toList
  else false

end Xray

section

open SplitTunnelRule

variable {p : Char} {pattern rest cs : List Char}

/-- The regular expression of a pattern, a part for each character. -/
def globPart (c : Char) : List Char := if c = '*' then ['.','*'] else escapeChar c

lemma replaceChars_of_ne (h : '\\' ≠ p) : replaceChars ['\\','*'] ['.','*'] 0 (p::rest) =
      p::replaceChars ['\\','*'] ['.','*'] 0 rest := by
  have hstarts : ['\\','*'].isPrefixOf (p::rest) = false := by
    simp [List.isPrefixOf,h]
  simp only [replaceChars,hstarts]
  simp

lemma replaceChars_escape (h : '\\' ∉ pattern) :
    replaceChars ['\\','*'] ['.','*'] 0 (pattern.flatMap escapeChar) =
      pattern.flatMap globPart := by
  induction pattern with
  | nil => rfl
  | cons c pattern ih =>
    obtain ⟨hc,hpattern⟩ := not_or.mp (mem_cons.not.mp h)
    rw [flatMap_cons,flatMap_cons,globPart,escapeChar]
    by_cases hstar : c = '*'
    · subst hstar
      have hkind : (Char.isAlphanum '*' || '*' == '_') = false := by decide
      rw [hkind]
      simp [replaceChars,ih hpattern]
    · rw [if_neg hstar]
      split_ifs with hplain
      · show replaceChars _ _ 0 (c::pattern.flatMap escapeChar) = _
        rw [replaceChars_of_ne hc,ih hpattern]
        rfl
      · show replaceChars _ _ 0 ('\\'::c::pattern.flatMap escapeChar) = _
        have hstarts : ['\\','*'].isPrefixOf ('\\'::c::pattern.flatMap escapeChar) = false := by
          simp [List.isPrefixOf,Ne.symm hstar]
        rw [replaceChars,hstarts]
        show '\\'::replaceChars _ _ 0 (c::pattern.flatMap escapeChar) = _
        rw [replaceChars_of_ne hc,ih hpattern]
        rfl

lemma matchHere_plain (hp : p ≠ '$' ∧ p ≠ '.' ∧ p ≠ '\\') :
    Xray.matchHere (p::rest) cs = match cs with
      | [] => false
      | c::cs => c == p && Xray.matchHere rest cs := by
  obtain ⟨hend,hdot,hescape⟩ := hp
  cases cs with
  | nil => simp [Xray.matchHere,hend,hdot,hescape]
  | cons c cs => simp [Xray.matchHere,hend,hdot,hescape]

/-- The regular expression matches as the pattern does. -/
lemma matchHere_glob (h : ∀ c ∈ pattern, c ∈ hostChars ∨ c = '*') :
    Xray.matchHere (pattern.flatMap globPart++['$']) cs = wildcard pattern cs := by
  induction pattern generalizing cs with
  | nil => rfl
  | cons p pattern ih =>
    have ih' : Xray.matchHere (pattern.flatMap globPart++['$']) = wildcard pattern := by
      funext cs
      exact ih fun c hc => h c (mem_cons_of_mem p hc)
    rw [flatMap_cons,append_assoc,wildcard.eq_def]
    by_cases hstar : p = '*'
    · simp only [globPart,if_pos hstar,← ih']
      rfl
    · have hp : p ∈ hostChars := (h p mem_cons_self).resolve_right hstar
      simp only [globPart,if_neg hstar,escapeChar,← ih']
      split_ifs with hplain
      · have hall : ∀ c ∈ hostChars, (c.isAlphanum || c == '_') →
            c ≠ '$' ∧ c ≠ '.' ∧ c ≠ '\\' := all_iff_forall_prop.mp (by decide)
        exact matchHere_plain (hall p hp hplain)
      · cases cs with
        | nil => rfl
        | cons c cs => rfl

lemma afterAny_eq_true_iff {matcher : List Char → Bool} (h : '\n' ∉ cs) :
    afterAny matcher cs ↔ ∃ t u, cs = t++u ∧ matcher u := by
  induction cs with
  | nil =>
    constructor
    · intro hm
      exact ⟨[],[],rfl,hm⟩
    · rintro ⟨t,u,htu,hu⟩
      obtain ⟨-,rfl⟩ := append_eq_nil_iff.mp htu.symm
      exact hu
  | cons c cs ih =>
    obtain ⟨hc,hcs⟩ := not_or.mp (mem_cons.not.mp h)
    rw [afterAny,or_eq_true,and_eq_true,ih hcs]
    constructor
    · rintro (hm | ⟨-,t,u,rfl,hu⟩)
      · exact ⟨[],c::cs,rfl,hm⟩
      · exact ⟨c::t,u,rfl,hu⟩
    · rintro ⟨t,u,htu,hu⟩
      cases t with
      | nil =>
        left
        rwa [htu]
      | cons d t =>
        obtain ⟨rfl,rfl⟩ := List.cons.inj htu
        right
        exact ⟨by simpa using Ne.symm hc,t,u,rfl,hu⟩

lemma wildcard_of_no_star (h : '*' ∉ pattern) : wildcard pattern cs = (cs == pattern) := by
  induction pattern generalizing cs with
  | nil => cases cs <;> rfl
  | cons p pattern ih =>
    obtain ⟨hp,hpattern⟩ := not_or.mp (mem_cons.not.mp h)
    rw [wildcard.eq_def]
    simp only [if_neg (Ne.symm hp)]
    cases cs with
    | nil => rfl
    | cons c cs =>
      show (c == p && wildcard pattern cs) = (c == p && cs == pattern)
      rw [ih hpattern]

lemma wildcard_map_starless : wildcard pattern (pattern.map starless) := by
  induction pattern with
  | nil => rfl
  | cons p pattern ih =>
    rw [wildcard.eq_def,map_cons,starless]
    by_cases hp : p = '*'
    · -- the star takes the letter and the rest of the pattern goes on behind it
      have hrest : afterAny (wildcard pattern) (pattern.map starless) := by
        cases hm : pattern.map starless with
        | nil => rw [afterAny,← hm,ih]
        | cons c cs => rw [afterAny,← hm,ih,Bool.true_or]
      simp only [if_pos hp,afterAny,hrest]
      simp
    · simp only [if_neg hp,ih]
      simp

end

namespace Xray

lemma accepts_full (name host : String) : accepts ("full:"++name) host = (host == name) := by
  have htext : ("full:"++name).toList = 'f':: 'u':: 'l':: 'l':: ':'::name.toList := by
    rw [String.toList_append]
    rfl
  have hstarts : "full:".toList.isPrefixOf ('f':: 'u':: 'l':: 'l':: ':'::name.toList) := rfl
  simp only [accepts,htext,hstarts,if_true]
  rw [Bool.eq_iff_iff]
  simp [String.ext_iff]

lemma accepts_domain (name host : String) : accepts ("domain:"++name) host =
      (host.toList == name.toList || ('.'::name.toList).isSuffixOf host.toList) := by
  have htext : ("domain:"++name).toList = 'd':: 'o':: 'm':: 'a':: 'i':: 'n':: ':'::name.toList := by
    rw [String.toList_append]
    rfl
  simp only [accepts,htext]
  rfl

lemma accepts_regexp (pattern host : String) :
    accepts ("regexp:^"++pattern++"$") host = matchHere (pattern.toList++['$']) host.toList := by
  have htext : ("regexp:^"++pattern++"$").toList =
      'r':: 'e':: 'g':: 'e':: 'x':: 'p':: ':':: '^'::(pattern.toList++['$']) := by
    rw [String.toList_append,String.toList_append]
    rfl
  simp only [accepts,htext]
  rfl

end Xray

namespace SplitTunnelRule

open NetworkUtilities

/-- A valid host name in lower case. -/
def ValidHost (host : String) : Prop := exactMatch domainRegExp host

instance (host : String) : Decidable (ValidHost host) :=
  inferInstanceAs (Decidable (exactMatch domainRegExp host))

section

variable {host : String} (h : ValidHost host)
include h

lemma ValidHost.not_mem {c : Char} (hc : c ∉ hostChars) : c ∉ host.toList :=
  fun hmem => hc (domainRegExp_over _ h c hmem)

lemma ValidHost.normalized [Qt] [LawfulQt] : normalizeHostText host = host := by
  apply normalizeHostText_of_hostChars (domainRegExp_over _ h)
  by_contra hempty
  have hnil : host = "" := by simpa using hempty
  rw [hnil] at h
  exact absurd h (by decide)

lemma ValidHost.wildcardToRegularExpression (pattern : String) :
    wildcardToRegularExpression pattern host = wildcard pattern.toList host.toList := by
  have hlast : (host.toList.getLast? == some '\n') = false := by
    rw [beq_eq_false_iff_ne]
    intro hlast
    exact h.not_mem (by decide) (mem_of_getLast? hlast)
  rw [SplitTunnelRule.wildcardToRegularExpression,beforeEnd,hlast,Bool.false_and,Bool.or_false]

end

section

variable [Qt]

variable [LawfulQt] {text host : String}

lemma exactHost_accepts (htype : (fromText text).type = .exactHost) (hhost : ValidHost host) :
    Xray.accepts (xrayDomainMatcher (fromText text)) host = (fromText text).matchesHost host := by
  simp only [xrayDomainMatcher,matchesHost,htype]
  rw [Xray.accepts_full,normalizedText_eq_value,hhost.normalized]

lemma regexp_accepts (hvalid : (fromText text).isValid)
    (htype : (fromText text).type = .wildcardHost)
    (hapex : "*.".toList.isPrefixOf (fromText text).value.toList = false) (hhost : ValidHost host) :
    Xray.accepts (xrayDomainMatcher (fromText text)) host = (fromText text).matchesHost host := by
  have hchars := value_chars hvalid (by simp [htype])
  have hescape : '\\' ∉ (fromText text).value.toList := by
    intro hmem
    exact absurd (hchars _ hmem) (by decide)
  have hpattern : (replaceText (escape (fromText text).value) "\\*" ".*").toList =
      (fromText text).value.toList.flatMap globPart := by
    simp only [replaceText,escape,String.toList_ofList]
    exact replaceChars_escape hescape
  simp only [xrayDomainMatcher,matchesHost,htype,normalizedText_eq_value,hapex,Bool.false_eq_true,
    if_false]
  rw [Xray.accepts_regexp,hpattern,hhost.normalized,
    hhost.wildcardToRegularExpression,matchHere_glob hchars,Bool.false_and,Bool.false_or]

/-- A pattern below an apex accepts the apex and its subdomains as long as the apex is a
plain name. -/
lemma domain_accepts {apex : List Char} (htype : (fromText text).type = .wildcardHost)
    (hapex : (fromText text).value.toList = '*':: '.'::apex) (hplain : '*' ∉ apex)
    (hhost : ValidHost host) :
    Xray.accepts (xrayDomainMatcher (fromText text)) host = (fromText text).matchesHost host := by
  have hstarts : "*.".toList.isPrefixOf ('*':: '.'::apex) := rfl
  have hline : '\n' ∉ host.toList := hhost.not_mem (by decide)
  have hsuffix : afterAny (wildcard ('.'::apex)) host.toList =
      ('.'::apex).isSuffixOf host.toList := by
    rw [Bool.eq_iff_iff,afterAny_eq_true_iff hline,isSuffixOf_iff_suffix]
    have hdot : '*' ∉ '.'::apex := by simp [hplain]
    simp only [wildcard_of_no_star hdot,beq_iff_eq]
    constructor
    · rintro ⟨t,u,htu,rfl⟩
      exact ⟨t,htu.symm⟩
    · rintro ⟨t,ht⟩
      exact ⟨t,_,ht.symm,rfl⟩
  simp only [xrayDomainMatcher,matchesHost,htype,normalizedText_eq_value,hapex,hstarts]
  rw [if_pos trivial,hhost.normalized,hhost.wildcardToRegularExpression,hapex]
  show Xray.accepts ("domain:"++String.ofList apex) host =
    ((host == String.ofList apex) || wildcard ('*':: '.'::apex) host.toList)
  rw [Xray.accepts_domain,String.toList_ofList,wildcard.eq_def]
  simp only [if_true,hsuffix]
  rw [Bool.eq_iff_iff]
  simp [String.ext_iff]

lemma starless_host_differs {apex : List Char} (hvalid : (fromText text).isValid)
    (htype : (fromText text).type = .wildcardHost)
    (hapex : (fromText text).value.toList = '*':: '.'::apex) (hstar : '*' ∈ apex) :
    ∃ host, ValidHost host ∧
      Xray.accepts (xrayDomainMatcher (fromText text)) host ≠ (fromText text).matchesHost host := by
  have hmap : (replaceText (fromText text).value "*" "a").toList =
      (fromText text).value.toList.map starless := by
    rw [replaceText,String.toList_ofList]
    exact replaceChars_star
  have hhost : ValidHost (replaceText (fromText text).value "*" "a") := by
    simp only [isValid,htype] at hvalid
    split_ifs at hvalid
    exact (Bool.and_eq_true_iff.mp hvalid).2
  refine ⟨replaceText (fromText text).value "*" "a",hhost,?_⟩
  have hmatches : (fromText text).matchesHost (replaceText (fromText text).value "*" "a") := by
    simp only [matchesHost,htype,hhost.normalized,hhost.wildcardToRegularExpression,hmap]
    rw [wildcard_map_starless,Bool.or_true]
  have hfree : '*' ∉ (replaceText (fromText text).value "*" "a").toList := hhost.not_mem (by decide)
  have hstarts : "*.".toList.isPrefixOf ('*':: '.'::apex) := rfl
  rw [hmatches]
  simp only [xrayDomainMatcher,htype,normalizedText_eq_value,hapex,hstarts]
  rw [if_pos trivial]
  show Xray.accepts ("domain:"++String.ofList apex) _ ≠ true
  rw [Xray.accepts_domain,String.toList_ofList]
  intro haccepts
  rcases Bool.or_eq_true_iff.mp haccepts with heq | hsuffix
  · rw [beq_iff_eq.mp heq] at hfree
    exact hfree hstar
  · exact hfree ((isSuffixOf_iff_suffix.mp hsuffix).subset (mem_cons_of_mem _ hstar))

/-- Xray routes the hosts of a rule, unless a second star stands below the leading one:
`domain:` takes its name literally, so that star is never matched. -/
theorem xrayDomainMatcher_accepts_iff (text : String) (hvalid : (fromText text).isValid)
    (htype : (fromText text).type ≠ .ipSubnet) :
    (∀ host, ValidHost host →
      Xray.accepts (xrayDomainMatcher (fromText text)) host = (fromText text).matchesHost host) ↔
    ∀ apex, (fromText text).value.toList = '*':: '.'::apex → '*' ∉ apex := by
  constructor
  · intro hagree apex hapex hstar
    have hmem : '*' ∈ (normalizeHostText text).toList := by
      rw [← value_eq_normalizeHostText,hapex]
      exact mem_cons_self
    have hwild := (type_of_star ((containsChar_iff _ _).mpr hmem)).resolve_left htype
    obtain ⟨host,hhost,hdiff⟩ := starless_host_differs hvalid hwild hapex hstar
    exact hdiff (hagree host hhost)
  · intro hplain host hhost
    cases hkind : (fromText text).type with
    | ipSubnet => exact absurd hkind htype
    | exactHost => exact exactHost_accepts hkind hhost
    | wildcardHost =>
      cases hapex : "*.".toList.isPrefixOf (fromText text).value.toList with
      | false => exact regexp_accepts hvalid hkind hapex hhost
      | true =>
        obtain ⟨apex,hvalue⟩ := List.isPrefixOf_iff_prefix.mp hapex
        exact domain_accepts hkind hvalue.symm (hplain apex hvalue.symm) hhost

end

theorem subdomain_rule_accepted : (@fromText dottedQt "https://*.Ab.com/x").isValid ∧
      (@fromText dottedQt "https://*.Ab.com/x").type ≠ .ipSubnet ∧ ValidHost "c.ab.com" ∧
      Xray.accepts (xrayDomainMatcher (@fromText dottedQt "https://*.Ab.com/x")) "c.ab.com" =
        @matchesHost dottedQt (@fromText dottedQt "https://*.Ab.com/x") "c.ab.com" := by
  have hvalid : (@fromText dottedQt "https://*.Ab.com/x").isValid := by decide +kernel
  have htype : (@fromText dottedQt "https://*.Ab.com/x").type ≠ .ipSubnet := by decide +kernel
  have hhost : ValidHost "c.ab.com" := by decide +kernel
  have hvalue : (@fromText dottedQt "https://*.Ab.com/x").value.toList = "*.ab.com".toList := by
    decide +kernel
  refine ⟨hvalid,htype,hhost,?_⟩
  refine (@xrayDomainMatcher_accepts_iff dottedQt _ "https://*.Ab.com/x" hvalid htype).mpr ?_ _ hhost
  intro apex hapex
  rw [hvalue] at hapex
  obtain rfl : "ab.com".toList = apex := by simpa using hapex
  decide

/-- The second star of `*.a*.com` is lost to Xray. -/
theorem second_star_refused : (@fromText dottedQt "*.a*.com").isValid ∧
      (@fromText dottedQt "*.a*.com").type = .wildcardHost ∧ ValidHost "c.ab.com" ∧
      xrayDomainMatcher (@fromText dottedQt "*.a*.com") = "domain:a*.com" ∧
      Xray.accepts (xrayDomainMatcher (@fromText dottedQt "*.a*.com")) "c.ab.com" = false ∧
      @matchesHost dottedQt (@fromText dottedQt "*.a*.com") "c.ab.com" := by
  decide +kernel

end SplitTunnelRule

end AlzheimerVPN
