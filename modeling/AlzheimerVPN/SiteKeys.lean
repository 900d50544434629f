import AlzheimerVPN.SiteList

/-! The keys under which sites are stored. A text is reduced to its first part between
slashes, and its validity is that of the part reduced once more. -/
namespace AlzheimerVPN

open Text Std.ExtTreeMap List

/-- Letters that have been lowered stay when a text is lowered. -/
class LawfulLower [Qt] : Prop where
  toLower_of_lowered {s t : String} : (∀ c ∈ t.toList, c ∈ (Qt.toLower s).toList) → Qt.toLower t = t

lemma toLower_of_not_upper {c : Char} (h : ¬(c.val ≥ 'A'.val ∧ c.val ≤ 'Z'.val)) :
    c.toLower = c :=
  dif_neg h

lemma toLower_toLower (c : Char) : c.toLower.toLower = c.toLower := by
  apply toLower_of_not_upper
  by_cases hupper : c.val ≥ 'A'.val ∧ c.val ≤ 'Z'.val
  · have hval : c.toLower.val = c.val+32 := congrArg Char.val (dif_pos hupper)
    have hA : 'A'.val.toNat = 65 := rfl
    have hZ : 'Z'.val.toNat = 90 := rfl
    rw [hval]
    simp only [ge_iff_le,UInt32.le_iff_toNat_le,UInt32.toNat_add,hA,hZ] at hupper ⊢
    have h32 : (32 : UInt32).toNat = 32 := rfl
    omega
  · rwa [toLower_of_not_upper hupper]

instance : @LawfulLower dottedQt := by
  let := dottedQt
  constructor
  intro s t h
  have hlower : ∀ c ∈ t.toList, c.toLower = c := by
    intro c hc
    have hmem : c ∈ (String.ofList (s.toList.map Char.toLower)).toList := h c hc
    rw [String.toList_ofList] at hmem
    obtain ⟨d,-,rfl⟩ := mem_map.mp hmem
    exact toLower_toLower d
  have hmap : t.toList.map Char.toLower = t.toList := by
    rw [map_congr_left hlower,map_id']
  show String.ofList (t.toList.map Char.toLower) = t
  rw [hmap,String.ofList_toList]

namespace SplitTunnelRule

variable [Qt]

lemma normalizeHostText_eq_firstRun (text : String) :
    normalizeHostText text = String.ofList (firstRun '/' (reducedText text).toList) :=
  headD_splitSkipEmpty (reducedText text) '/'

variable {text : String}

lemma mem_of_mem_normalizeHostText {c : Char} (h : c ∈ (normalizeHostText text).toList) :
    c ∈ (Qt.toLower (trimmed text)).toList := by
  rw [normalizeHostText_eq_firstRun,String.toList_ofList,firstRun] at h
  have hdrop := (List.takeWhile_prefix _).subset h
  have hreduced := (dropWhile_suffix _).subset hdrop
  rw [reducedText] at hreduced
  have hhttp := mem_of_mem_replaceText hreduced
  have hhttps := mem_of_mem_replaceText hhttp
  exact mem_of_mem_replaceText hhttps

/-- The host part of a text has no blank at its ends; around the whole text there may be
some. -/
def PlainHost (text : String) : Prop :=
  ∀ c, c ∈ (firstRun '/' (reducedText text).toList).head? ∨
    c ∈ (firstRun '/' (reducedText text).toList).getLast? → isSpace c = false

lemma trimmed_normalizeHostText_iff (text : String) :
    trimmed (normalizeHostText text) = normalizeHostText text ↔ PlainHost text := by
  rw [normalizeHostText_eq_firstRun,trimmed,String.toList_ofList,String.ofList_inj]
  exact trimChars_eq_self_iff _

/-- Reducing the text gives the text back. -/
def InNormalForm (key : String) : Prop := (fromText? key).map (·.normalizedText) = some key

lemma inNormalForm_iff (key : String) :
    InNormalForm key ↔ hostParts key ≠ [] ∧ normalizeHostText key = key := by
  rw [InNormalForm,fromText?]
  by_cases hparts : hostParts key = []
  · simp [hparts]
  · simp [hparts,normalizedText_eq_value,value_eq_normalizeHostText]

lemma normalizeHostText_ne_empty (h : hostParts text ≠ []) : normalizeHostText text ≠ "" := by
  rw [normalizeHostText]
  cases hparts : hostParts text with
  | nil => exact absurd hparts h
  | cons part parts =>
    have hmem : part ∈ hostParts text := by simp [hparts]
    simp only [hostParts,splitSkipEmpty,mem_filter] at hmem
    simpa using hmem.2

lemma not_space_of_valid (h : (fromText text).isValid) :
    ∀ c ∈ (normalizeHostText text).toList, isSpace c = false := by
  rw [← value_eq_normalizeHostText]
  by_cases htype : (fromText text).type = .ipSubnet
  · obtain ⟨a,ha⟩ := ipSubnet_dotted htype
    rw [← normalizedText_eq_value,ha,Address.dotted,String.toList_ofList,Address.dottedChars]
    have hdigits : ∀ (n : ℕ) (c : Char), c ∈ Nat.toDigits 10 n → isSpace c = false :=
      fun n c hc => isSpace_of_isDigit (IpText.toDigits_isDigit hc)
    have hdot : isSpace '.' = false := by decide
    intro c hc
    simp only [mem_append,mem_cons] at hc
    rcases hc with hc | rfl | hc | rfl | hc | rfl | hc
    · exact hdigits _ c hc
    · exact hdot
    · exact hdigits _ c hc
    · exact hdot
    · exact hdigits _ c hc
    · exact hdot
    · exact hdigits _ c hc
  · intro c hc
    have hall : ∀ c ∈ hostChars, isSpace c = false := all_iff_forall_prop.mp (by decide)
    rcases value_chars h htype c hc with hc | rfl
    · exact hall c hc
    · rfl

variable [LawfulLower]

/-- A reduced text is in normal form unless blanks are left at its ends. -/
lemma inNormalForm_of_trimmed (hparts : hostParts text ≠ [])
    (h : trimmed (normalizeHostText text) = normalizeHostText text) :
    InNormalForm (normalizeHostText text) := by
  have hslash := slash_not_mem_normalizeHostText text
  have hlower : Qt.toLower (normalizeHostText text) = normalizeHostText text :=
    LawfulLower.toLower_of_lowered fun c => mem_of_mem_normalizeHostText
  have hsame : hostParts (normalizeHostText text) = [normalizeHostText text] := by
    simp only [hostParts,h,hlower]
    rw [replaceText_eq_self (by decide : '/' ∈ "https://".toList) hslash,
      replaceText_eq_self (by decide : '/' ∈ "http://".toList) hslash,
      replaceText_eq_self (by decide : '/' ∈ "ftp://".toList) hslash,
      splitSkipEmpty,split_eq_singleton hslash]
    simp [normalizeHostText_ne_empty hparts]
  have hhead : normalizeHostText (normalizeHostText text) =
      (hostParts (normalizeHostText text)).headD "" := by rw [normalizeHostText.eq_def]
  rw [inNormalForm_iff,hhead,hsame]
  exact ⟨cons_ne_nil _ _,headD_cons⟩

lemma inNormalForm_normalizeHostText_iff (hparts : hostParts text ≠ [])
    (hvalid : (fromText (normalizeHostText text)).isValid) :
    InNormalForm (normalizeHostText text) ↔ PlainHost text := by
  rw [← trimmed_normalizeHostText_iff]
  constructor
  · intro h
    have hspace := not_space_of_valid hvalid
    rw [((inNormalForm_iff _).mp h).2] at hspace
    rw [trimmed,trimChars_eq_self hspace,String.ofList_toList]
  · exact inNormalForm_of_trimmed hparts

end SplitTunnelRule

namespace IpSplitTunnelingController

open SplitTunnelRule

section

variable [Qt] {s t : IpSplitTunnelingController}

/-- The controller takes the text for a site. -/
def Accepted (text : String) : Prop := (fromText (normalizeHostText text)).isValid

instance (text : String) : Decidable (Accepted text) :=
  inferInstanceAs (Decidable (_ = true))

def KeysNormal (s : IpSplitTunnelingController) : Prop :=
  ∀ key : String, s.stored[key]? ≠ none → InNormalForm key

lemma fromText?_eq_some {text : String} {rule : SplitTunnelRule}
    (h : fromText? text = some rule) :
    hostParts text ≠ [] ∧ rule = fromText text ∧ rule.normalizedText = normalizeHostText text := by
  rw [fromText?] at h
  split_ifs at h with hparts
  obtain rfl := Option.some.inj h
  refine ⟨by simpa using hparts,rfl,?_⟩
  rw [normalizedText_eq_value,value_eq_normalizeHostText]

lemma validateHostname_eq_some {text : String} {valid : Bool}
    (h : validateHostname text = some valid) : valid = (fromText text).isValid := by
  obtain ⟨rule,hrule,rfl⟩ := Option.map_eq_some_iff.mp h
  rw [(fromText?_eq_some hrule).2.1]

/-- What a round of the normalisation does. -/
lemma normalizeEntry_cases {m m' : QMap (List String)} {entry : String × List String}
    (h : normalizeEntry m entry = some m') : hostParts entry.1 ≠ [] ∧
      (¬Accepted entry.1 ∧ m' = m ∨ Accepted entry.1 ∧ m' = m.insert (normalizeHostText entry.1)
        (mergeIps (m.getD (normalizeHostText entry.1) []) (entry.2.map trimmed))) := by
  simp only [normalizeEntry,Option.bind_eq_bind,Option.bind_eq_some_iff] at h
  obtain ⟨rule,hrule,valid,hvalid,h⟩ := h
  obtain ⟨hparts,-,htext⟩ := fromText?_eq_some hrule
  rw [htext] at h hvalid
  rw [Accepted,← validateHostname_eq_some hvalid]
  cases valid with
  | false => exact ⟨hparts,.inl ⟨by simp,(Option.some.inj h).symm⟩⟩
  | true => exact ⟨hparts,.inr ⟨rfl,(Option.some.inj h).symm⟩⟩

lemma normalizeEntry_key {m m' : QMap (List String)} {entry : String × List String}
    (h : normalizeEntry m entry = some m') (key : String) :
    m'[key]? ≠ none ↔ m[key]? ≠ none ∨ key = normalizeHostText entry.1 ∧ Accepted entry.1 := by
  obtain ⟨-,⟨hrefused,rfl⟩ | ⟨haccepted,rfl⟩⟩ := normalizeEntry_cases h
  · simp [hrefused]
  · rw [getElem?_insert_eq]
    by_cases hkey : key = normalizeHostText entry.1
    · simp [hkey,haccepted]
    · simp [hkey]

lemma normalized_key {entries : List (String × List String)} {m m' : QMap (List String)}
    (h : entries.foldlM normalizeEntry m = some m') (key : String) :
    m'[key]? ≠ none ↔ m[key]? ≠ none ∨ ∃ e ∈ entries, key = normalizeHostText e.1 ∧ Accepted e.1 :=
  Runs.foldlM_iff (P := fun m => m[key]? ≠ none) (fun _ _ _ hu => normalizeEntry_key hu key) h

lemma normalized_parts {entries : List (String × List String)} {m m' : QMap (List String)}
    (h : entries.foldlM normalizeEntry m = some m') : ∀ e ∈ entries, hostParts e.1 ≠ [] := by
  induction entries generalizing m with
  | nil => simp
  | cons e entries ih =>
    simp only [foldlM_cons,Option.bind_eq_bind,Option.bind_eq_some_iff] at h
    obtain ⟨m₁,h₁,h⟩ := h
    exact forall_mem_cons.mpr ⟨(normalizeEntry_cases h₁).1,ih h⟩

lemma addSites_key {sites : QMap (List String)} {replaceExisting : Bool}
    (h : s.addSites sites replaceExisting = some t) (key : String) :
    t.stored[key]? ≠ none ↔
      (if replaceExisting then ∅ else s.stored)[key]? ≠ none ∨
      ∃ text : String, sites[text]? ≠ none ∧ key = normalizeHostText text ∧ Accepted text := by
  obtain ⟨normalizedSites,hnormalized,h⟩ := Option.bind_eq_some_iff.mp h
  have hkey := normalized_key hnormalized key
  rw [(foldlM_checkSite_same h).2,mergeSites_stored,foldl_addEntry_key]
  apply or_congr_right
  have hmem : (∃ e ∈ normalizedSites.toList, key = e.1) ↔ normalizedSites[key]? ≠ none := by
    constructor
    · rintro ⟨e,he,rfl⟩
      rw [mem_toList_iff_getElem?_eq_some.mp he]
      simp
    · intro hsome
      obtain ⟨ips,hips⟩ := Option.ne_none_iff_exists'.mp hsome
      exact ⟨(key,ips),mem_toList_iff_getElem?_eq_some.mpr hips,rfl⟩
  rw [hmem,hkey,getElem?_empty]
  simp only [ne_eq,not_true_eq_false,false_or]
  constructor
  · rintro ⟨e,he,hk,haccepted⟩
    refine ⟨e.1,?_,hk,haccepted⟩
    rw [mem_toList_iff_getElem?_eq_some.mp he]
    simp
  · rintro ⟨text,htext,hk,haccepted⟩
    obtain ⟨ips,hips⟩ := Option.ne_none_iff_exists'.mp htext
    exact ⟨(text,ips),mem_toList_iff_getElem?_eq_some.mpr hips,hk,haccepted⟩

lemma addSites_parts {sites : QMap (List String)} {replaceExisting : Bool}
    (h : s.addSites sites replaceExisting = some t) :
    ∀ text : String, sites[text]? ≠ none → hostParts text ≠ [] := by
  obtain ⟨normalizedSites,hnormalized,-⟩ := Option.bind_eq_some_iff.mp h
  intro text htext
  obtain ⟨ips,hips⟩ := Option.ne_none_iff_exists'.mp htext
  exact normalized_parts hnormalized (text,ips) (mem_toList_iff_getElem?_eq_some.mpr hips)

lemma addSite_key {text : String} (hs : Shows s.sites s.stored)
    (h : s.addSite text = some (true,t)) :
    hostParts text ≠ [] ∧ Accepted text ∧
      ∀ key : String, t.stored[key]? ≠ none ↔ s.stored[key]? ≠ none ∨ key = normalizeHostText text := by
  simp only [addSite,Option.bind_eq_bind,Option.bind_eq_some_iff] at h
  obtain ⟨rule,hrule,valid,hvalid,h⟩ := h
  obtain ⟨hparts,-,htext⟩ := fromText?_eq_some hrule
  rw [htext] at h hvalid
  have haccepted := validateHostname_eq_some hvalid
  have hinternal := addSiteInternal_key hs (normalizeHostText text)
  split_ifs at h with hno haddress hadded
  · simp at h
  · obtain ⟨-,rfl⟩ := Prod.mk.inj (Option.some.inj h)
    exact ⟨hparts,by simpa [Accepted,← haccepted] using hno,hinternal⟩
  · simp only [Option.bind_eq_some_iff] at h
    obtain ⟨u,hu,h⟩ := h
    obtain ⟨-,rfl⟩ := Prod.mk.inj (Option.some.inj h)
    rw [(checkSite_same hu).2]
    exact ⟨hparts,by simpa [Accepted,← haccepted] using hno,hinternal⟩
  · simp at h

/-- A host of a site file is reduced before it is handed on, so it is valid as it is. -/
lemma importEntry_key {m m' : QMap (List String)} {jsonValue : Json}
    (h : importEntry m jsonValue = some m')
    (hm : ∀ key : String, m[key]? ≠ none → (fromText key).isValid) :
    ∀ key : String, m'[key]? ≠ none → (fromText key).isValid := by
  simp only [importEntry,Option.bind_eq_bind,Option.bind_eq_some_iff] at h
  obtain ⟨rule,-,valid,hvalid,h⟩ := h
  split_ifs at h with hno
  · obtain rfl := Option.some.inj h
    exact hm
  · obtain rfl := Option.some.inj h
    intro key hkey
    rw [getElem?_insert_eq] at hkey
    split_ifs at hkey with he
    · rw [he,← validateHostname_eq_some hvalid]
      simpa using hno
    · exact hm key hkey

lemma imported_key {entries : List Json} {m m' : QMap (List String)}
    (h : entries.foldlM importEntry m = some m')
    (hm : ∀ key : String, m[key]? ≠ none → (fromText key).isValid) :
    ∀ key : String, m'[key]? ≠ none → (fromText key).isValid :=
  Runs.foldlM_invariant
    (P := fun m => ∀ key : String, m[key]? ≠ none → (fromText key).isValid)
    (fun _ _ _ hu => importEntry_key hu) h hm

section

variable [LawfulLower]

lemma addSite_keysNormal_iff {text : String} (hs : Shows s.sites s.stored) (hkeys : s.KeysNormal)
    (h : s.addSite text = some (true,t)) : t.KeysNormal ↔ PlainHost text := by
  obtain ⟨hparts,haccepted,hkey⟩ := addSite_key hs h
  rw [← inNormalForm_normalizeHostText_iff hparts haccepted]
  constructor
  · intro ht
    exact ht (normalizeHostText text) ((hkey _).mpr (Or.inr rfl))
  · intro htext key hstored
    rcases (hkey key).mp hstored with hold | hnew
    · exact hkeys key hold
    · rw [hnew]
      exact htext

lemma addSites_keysNormal_iff {sites : QMap (List String)} {replaceExisting : Bool}
    (hkeys : s.KeysNormal) (h : s.addSites sites replaceExisting = some t) :
    t.KeysNormal ↔ ∀ text : String, sites[text]? ≠ none → Accepted text → PlainHost text := by
  have hparts := addSites_parts h
  constructor
  · intro ht text htext haccepted
    rw [← inNormalForm_normalizeHostText_iff (hparts text htext) haccepted]
    apply ht
    rw [addSites_key h]
    exact Or.inr ⟨text,htext,rfl,haccepted⟩
  · intro hplain key hstored
    rcases (addSites_key h key).mp hstored with hold | ⟨text,htext,hkey,haccepted⟩
    · cases replaceExisting with
      | true => exact absurd getElem?_empty hold
      | false => exact hkeys key hold
    · rw [hkey,inNormalForm_normalizeHostText_iff (hparts text htext) haccepted]
      exact hplain text htext haccepted

lemma importSitesFromJson_keysNormal {entries : List Json} {replaceExisting : Bool}
    (hkeys : s.KeysNormal)
    (h : s.importSitesFromJson (.ok (.arr entries)) replaceExisting = some (.ok t)) :
    t.KeysNormal := by
  simp only [importSitesFromJson,Option.bind_eq_bind,Option.bind_eq_some_iff] at h
  obtain ⟨sites,hsites,u,hu,h⟩ := h
  obtain rfl : u = t := Except.ok.inj (Option.some.inj h)
  have hempty : ∀ key : String, (∅ : QMap (List String))[key]? ≠ none → (fromText key).isValid := by
    intro key hkey
    exact absurd getElem?_empty hkey
  have hvalid := imported_key hsites hempty
  intro key hstored
  rcases (addSites_key hu key).mp hstored with hold | ⟨text,htext,hkey,-⟩
  · cases replaceExisting with
    | true => exact absurd getElem?_empty hold
    | false => exact hkeys key hold
  · rw [hkey]
    apply inNormalForm_of_trimmed (addSites_parts hu text htext)
    rw [trimmed,trimChars_eq_self (not_space_of_valid (hvalid text htext)),String.ofList_toList]

/-- The keys of accepted texts are in normal form exactly when no blank is left at an end of
the host part; a site file is reduced twice and has only keys in normal form. -/
theorem stored_keys_normal_iff (s : IpSplitTunnelingController) (hs : Shows s.sites s.stored)
    (hkeys : s.KeysNormal) :
    (∀ text t, s.addSite text = some (true,t) → (t.KeysNormal ↔ PlainHost text)) ∧
    (∀ sites replaceExisting t, s.addSites sites replaceExisting = some t →
      (t.KeysNormal ↔ ∀ text : String, sites[text]? ≠ none → Accepted text → PlainHost text)) ∧
    ∀ entries replaceExisting t,
      s.importSitesFromJson (.ok (.arr entries)) replaceExisting = some (.ok t) → t.KeysNormal := by
  refine ⟨?_,?_,?_⟩
  · intro text t h
    exact addSite_keysNormal_iff hs hkeys h
  · intro sites replaceExisting t h
    exact addSites_keysNormal_iff hkeys h
  · intro entries replaceExisting t h
    exact importSitesFromJson_keysNormal hkeys h

end

end

/-- A controller without sites. -/
def fresh : IpSplitTunnelingController where
  repository := ⟨.vpnOnlyForwardSites,fun _ => ∅⟩
  currentRouteMode := .vpnOnlyForwardSites
  sites := []
  siteChecks := ∅
  lookups := []

lemma fresh_keysNormal [Qt] : fresh.KeysNormal := by
  intro key hkey
  exact absurd getElem?_empty hkey

theorem padded_url_stored_plain :
    ∃ t, @addSite dottedQt fresh " HTTPS://Ab.com/x " = some (true,t) ∧
      t.sites = [("ab.com",[])] ∧ @KeysNormal dottedQt t := by
  have hadd : ((@addSite dottedQt fresh " HTTPS://Ab.com/x ").map fun r => (r.1,r.2.sites)) =
      some (true,[("ab.com",[])]) := by decide +kernel
  obtain ⟨⟨added,t⟩,hadd,heq⟩ := Option.map_eq_some_iff.mp hadd
  obtain ⟨rfl,hsites⟩ := Prod.mk.inj heq
  refine ⟨t,hadd,hsites,?_⟩
  have hall := @stored_keys_normal_iff dottedQt inferInstance fresh shows_empty
    (@fresh_keysNormal dottedQt)
  rw [hall.1 " HTTPS://Ab.com/x " t hadd]
  have hrun : firstRun '/' (@reducedText dottedQt " HTTPS://Ab.com/x ").toList = "ab.com".toList := by
    decide +kernel
  intro c hc
  rw [hrun] at hc
  rcases hc with hc | hc
  · obtain rfl : 'a' = c := by simpa using hc
    rfl
  · obtain rfl : 'm' = c := by simpa using hc
    rfl

/-- A blank before the path stays in the key, and the same host without it is another site. -/
theorem blank_before_path_stored :
    ((@addSite dottedQt fresh "ab.com /x").map fun r => (r.1,r.2.sites)) =
        some (true,[("ab.com ",[])]) ∧
      ((@fromText? dottedQt "ab.com ").map fun rule => rule.normalizedText) = some "ab.com" ∧
      ((@addSite dottedQt fresh "ab.com /x").bind fun r =>
        (@addSite dottedQt r.2 "ab.com").map fun r => (r.1,r.2.sites)) =
        some (true,[("ab.com ",[]),("ab.com",[])]) := by
  decide +kernel

end IpSplitTunnelingController

end AlzheimerVPN
