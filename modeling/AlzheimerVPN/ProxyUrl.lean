import AlzheimerVPN.UriText
import AlzheimerVPN.XrayHostName

/-! The address of the local proxy that tun2socks is given, with the credentials of the SOCKS
inbound in it as they are. What is read from it is compared with what Xray is given. -/
namespace AlzheimerVPN.ProxyUrl

open UriText Replacement Inbounds XrayConfig List Option

def scheme : List Char := "socks5".toList

def localHost : List Char := "127.0.0.1".toList

/-- `startTun2Socks` and `runTun2Socks` write the same URL. -/
def proxyUrl (creds : InboundCredentials) : List Char :=
  urlText scheme creds.username.toList creds.password.toList localHost (IpText.intChars creds.port)

/-- What tun2socks has to read for the credentials. -/
def proxyOf (user password : String) (port : ℕ) : Proxy :=
  ⟨utf8 user.toList,utf8 password.toList,localHost,port⟩

def credentialsProxy (creds : InboundCredentials) : Proxy :=
  proxyOf creds.username creds.password creds.port.toNat

/-- Credentials that need no escapes. -/
def NoEscapes (user password : String) : Prop :=
  (∀ c ∈ user.toList, isUserChar c) ∧ ∀ c ∈ password.toList, isUserinfoChar c

lemma scheme_chars : ∀ c ∈ scheme, isSchemeChar c := by decide

lemma localHost_chars : ∀ c ∈ localHost, isUserChar c := by decide

lemma readProxy_of_noEscapes {user password : String} (h : NoEscapes user password) (port : ℕ) :
    readProxy (proxyUrl ⟨user,password,port⟩) = some (proxyOf user password port) := by
  have hport : IpText.intChars (port : ℤ) = Nat.toDigits 10 port := rfl
  have hdigits : ∀ c ∈ Nat.toDigits 10 port, c.isDigit := fun c hc =>
    IpText.toDigits_isDigit hc
  rw [proxyUrl,hport,readProxy_of_chars scheme_chars h.1 h.2 localHost_chars hdigits,
    Nat.ofDigitChars_ten_toDigits,proxyOf]

section

/-- How a string of the prepared document stands in the text that Xray gets on the desktop. -/
def handedText (s : String) : List Char :=
  patchAddress (patchFingerprint (Json.escapedString s))

/-- Characters that are neither escaped nor replaced with others. -/
def IsPlain (c : Char) : Prop := isUserinfoChar c ∨ c = '%'

lemma isPlain_ne {c : Char} (h : IsPlain c) :
    c.toNat < 128 ∧ 32 ≤ c.toNat ∧ c ≠ '"' ∧ c ≠ '\\' ∧ sameFold '/' c = false := by
  have hlt : c.toNat < 128 := by
    rcases h with h | rfl
    · exact (isUserinfoChar_ascii h).1
    · decide
  have hall : ∀ n < 128, isUserinfoChar (Char.ofNat n) ∨ Char.ofNat n = '%' →
      32 ≤ (Char.ofNat n).toNat ∧ Char.ofNat n ≠ '"' ∧ Char.ofNat n ≠ '\\' ∧
        sameFold '/' (Char.ofNat n) = false := by
    decide
  have hc := hall c.toNat hlt
  rw [Char.ofNat_toNat] at hc
  exact ⟨hlt,hc h⟩

lemma flatMap_escapeChar_of_isPlain {x : List Char} (h : ∀ c ∈ x, IsPlain c) :
    x.flatMap Json.escapeChar = x := by
  have hchars : ∀ c ∈ x, Json.escapeChar c = [c] := by
    intro c hc
    obtain ⟨-,hlow,hquote,hslash,-⟩ := isPlain_ne (h c hc)
    rw [Json.escapeChar,if_neg hquote,if_neg hslash,if_neg (by omega),if_neg (by omega),
      if_neg (by omega),if_neg (by omega),if_neg (by omega),if_neg (by omega)]
  exact (flatMap_congr hchars).trans (flatMap_singleton' _)

/-- The patches keep the length of a plain text, and write no backslash. -/
lemma patch_of_isPlain {x : List Char} (h : ∀ c ∈ x, IsPlain c) :
    (patchAddress (patchFingerprint x)).length = x.length ∧
      ∀ c ∈ patchAddress (patchFingerprint x), c.toNat < 128 ∧ c ≠ '\\' := by
  have hfingerprint : patchFingerprint x = x := by
    rw [patchFingerprint_eq]
    exact replace_eq_self (contains_eq_false_of_mem (p := '/') (by decide)
      fun c hc => (isPlain_ne (h c hc)).2.2.2.2)
  rw [hfingerprint,patchAddress_eq]
  constructor
  · exact Nat.le_antisymm (length_replace_le _ _ _ (by decide) (by decide) x)
      (length_le_replace _ _ _ (by decide) (by decide) x)
  · intro c hc
    have hnew : ∀ c ∈ defaultLocalListenAddr.toList, c.toNat < 128 ∧ c ≠ '\\' := by decide
    rcases mem_replace hc with hc | hc
    · exact hnew c hc
    · obtain ⟨hlt,-,-,hslash,-⟩ := isPlain_ne (h c hc)
      exact ⟨hlt,hslash⟩

lemma escapeChar_cases (c : Char) :
    Json.escapeChar c = [c] ∨ ∃ rest, Json.escapeChar c = '\\'::rest := by
  rw [Json.escapeChar]
  split_ifs
  iterate 8 exact .inr ⟨_,rfl⟩
  exact .inl rfl

/-- Characters of the written text without a backslash are characters of the string. -/
lemma length_le_of_escaped {cs x : List Char} (h : cs.flatMap Json.escapeChar = x++rest)
    (hx : '\\' ∉ x) : x.length ≤ cs.length := by
  induction cs generalizing x with
  | nil =>
    have hnil := (append_eq_nil_iff.mp h.symm).1
    simp [hnil]
  | cons c cs ih =>
    cases x with
    | nil => simp
    | cons d x =>
      rw [flatMap_cons] at h
      rcases escapeChar_cases c with hc | ⟨tail,hc⟩
      · rw [hc] at h
        have hle := ih (List.cons.inj h).2 fun hmem => hx (mem_cons_of_mem d hmem)
        simpa using hle
      · rw [hc] at h
        exact absurd ((List.cons.inj h).1 ▸ mem_cons_self) hx

lemma escaped_eq_self {cs : List Char} (h : '\\' ∉ cs.flatMap Json.escapeChar) :
    cs.flatMap Json.escapeChar = cs := by
  have hchars : ∀ c ∈ cs, Json.escapeChar c = [c] := by
    intro c hc
    refine (escapeChar_cases c).resolve_right ?_
    rintro ⟨rest,hrest⟩
    exact h (mem_flatMap.mpr ⟨c,hc,hrest ▸ mem_cons_self⟩)
  exact (flatMap_congr hchars).trans (flatMap_singleton' _)

lemma patch_append_sep (hd : d = ':' ∨ d = '@') (x y : List Char) :
    patchAddress (patchFingerprint (x++d::y)) =
      patchAddress (patchFingerprint x)++d::patchAddress (patchFingerprint y) := by
  have hfingerprint : ∀ p ∈ legacyFingerprint.toList, sameFold p d = false := by
    rcases hd with rfl | rfl <;> decide
  have haddress : ∀ p ∈ defaultLocalAddr.toList, decide (p = d) = false := by
    rcases hd with rfl | rfl <;> decide
  simp only [patchAddress_eq,patchFingerprint_eq]
  rw [replace_append_sep _ (by decide) hfingerprint,replace_append_sep _ (by decide) haddress]

/-- ASCII texts are told apart by their bytes. -/
lemma utf8_inj {x y : List Char} (hx : ∀ c ∈ x, c.toNat < 128) (hy : ∀ c ∈ y, c.toNat < 128)
    (h : utf8 x = utf8 y) : x = y := by
  induction x generalizing y with
  | nil =>
    cases y with
    | nil => rfl
    | cons d y =>
      have hlength := length_le_utf8 (d::y)
      rw [← h] at hlength
      simp [utf8] at hlength
  | cons c x ih =>
    cases y with
    | nil =>
      have hlength := length_le_utf8 (c::x)
      rw [h] at hlength
      simp [utf8] at hlength
    | cons d y =>
      obtain ⟨hc,hxs⟩ := forall_mem_cons.mp hx
      obtain ⟨hd,hys⟩ := forall_mem_cons.mp hy
      simp only [utf8,flatMap_cons,utf8EncodeChar_of_ascii hc,utf8EncodeChar_of_ascii hd,
        singleton_append,List.cons.injEq] at h
      have hcode := congrArg UInt8.toNat h.1
      simp only [UInt8.toNat_ofNat'] at hcode
      have hnat : c.toNat = d.toNat := by omega
      obtain rfl : c = d := by rw [← Char.ofNat_toNat c,hnat,Char.ofNat_toNat]
      rw [ih hxs hys h.2]

variable {part u : String} {raw rest after : List Char} {d : Char} (hd : d = ':' ∨ d = '@')

include hd

/-- A part of the user information cannot end before the part that was written. -/
lemma not_starts_part (hdecode : pctDecode raw = some (utf8 u.toList))
    (hhanded : handedText part = Json.escapedString u) : ¬raw++[d] <+: part.toList := by
  rintro ⟨tail,htail⟩
  have hplain : ∀ c ∈ raw, IsPlain c := pctDecode_chars hdecode
  obtain ⟨hlength,hchars⟩ := patch_of_isPlain hplain
  have hescape : Json.escapeChar d = [d] := by rcases hd with rfl | rfl <;> decide
  have hwritten : Json.escapedString part = raw++d::tail.flatMap Json.escapeChar := by
    rw [Json.escapedString,← htail]
    simp [flatMap_escapeChar_of_isPlain hplain,hescape]
  rw [handedText,hwritten,patch_append_sep hd,append_cons] at hhanded
  have hback : '\\' ∉ patchAddress (patchFingerprint raw)++[d] := by
    intro hmem
    rcases mem_append.mp hmem with hmem | hmem
    · exact (hchars _ hmem).2 rfl
    · rcases hd with rfl | rfl <;> exact absurd hmem (by decide)
  have hlong := length_le_of_escaped hhanded.symm hback
  have hbytes := Nat.le_trans (length_le_utf8 u.toList) (pctDecode_length hdecode).1
  rw [length_append,hlength,length_singleton] at hlong
  omega

/-- A part that is read as it was handed over needs no escapes and is handed over unchanged. -/
lemma part_of_handed (hstart : raw++d::after <+: part.toList++d::rest) (hraw : d ∉ raw)
    (hdecode : pctDecode raw = some (utf8 u.toList))
    (hhanded : handedText part = Json.escapedString u) :
    raw = part.toList ∧ u = part ∧ ∀ c ∈ part.toList, isUserinfoChar c := by
  have hlength : part.toList.length ≤ raw.length := by
    by_contra hlt
    have hnext : raw++[d] <+: part.toList := by
      refine prefix_of_prefix_length_le ?_ (prefix_append part.toList (d::rest)) (by simp; omega)
      refine (prefix_append (raw++[d]) after).trans ?_
      simpa using hstart
    exact not_starts_part hd hdecode hhanded hnext
  have hsame : raw = part.toList := eq_of_starts ((prefix_append _ _).trans hstart) hraw hlength
  subst hsame
  have hplain : ∀ c ∈ part.toList, IsPlain c := pctDecode_chars hdecode
  obtain ⟨hkept,hchars⟩ := patch_of_isPlain hplain
  rw [handedText,Json.escapedString,flatMap_escapeChar_of_isPlain hplain,Json.escapedString]
    at hhanded
  have hback : '\\' ∉ u.toList.flatMap Json.escapeChar := by
    rw [← hhanded]
    exact fun hmem => (hchars _ hmem).2 rfl
  rw [escaped_eq_self hback] at hhanded
  have hcount : u.toList.length = part.toList.length := by rw [← hhanded,hkept]
  have hlong := length_le_utf8 u.toList
  rw [hcount] at hlong
  obtain ⟨hshort,hall⟩ := pctDecode_length hdecode
  have huser := hall (Nat.le_antisymm hshort hlong)
  have hbytes : utf8 u.toList = utf8 part.toList :=
    Option.some.inj (hdecode.symm.trans (pctDecode_of_chars huser))
  have hascii : ∀ c ∈ u.toList, c.toNat < 128 := by
    rw [← hhanded]
    exact fun c hc => (hchars c hc).1
  have hascii' : ∀ c ∈ part.toList, c.toNat < 128 := fun c hc => (isPlain_ne (hplain c hc)).1
  exact ⟨rfl,String.toList_inj.mp (utf8_inj hascii hascii' hbytes),huser⟩

omit hd

/-- tun2socks reads what Xray gets, if the credentials need no escapes and no patch touches them,
and only then. -/
lemma readProxy_handed_iff (user password : String) (port : ℕ) :
    (∃ u p, readProxy (proxyUrl ⟨user,password,port⟩) = some (proxyOf u p port) ∧
      handedText user = Json.escapedString u ∧ handedText password = Json.escapedString p) ↔
    NoEscapes user password ∧ ¬HoldsLegacy user ∧ ¬HoldsLegacy password := by
  constructor
  · rintro ⟨u,p,hread,huser,hpassword⟩
    obtain ⟨name,word,after,hstart,hname,hword,hnameBytes,hwordBytes⟩ :=
      raw_of_readProxy scheme_chars hread
    obtain ⟨rfl,rfl,hnameChars⟩ := part_of_handed (.inl rfl) hstart hname hnameBytes huser
    have hstart := (cons_prefix_cons.mp ((prefix_append_right_inj u.toList).mp hstart)).2
    obtain ⟨rfl,rfl,hwordChars⟩ := part_of_handed (.inr rfl) hstart hword hwordBytes hpassword
    refine ⟨⟨?_,hwordChars⟩,(not_holdsLegacy_iff _).mpr huser,(not_holdsLegacy_iff _).mpr hpassword⟩
    intro c hc
    have hchar := hnameChars c hc
    rw [isUserinfoChar,Bool.or_eq_true,decide_eq_true_eq] at hchar
    exact hchar.resolve_right fun heq => hname (heq ▸ hc)
  · rintro ⟨hchars,huser,hpassword⟩
    exact ⟨user,password,readProxy_of_noEscapes hchars port,(not_holdsLegacy_iff _).mp huser,
      (not_holdsLegacy_iff _).mp hpassword⟩

end

section

/-- Credentials that are read and handed over as they are. -/
def Unchanged (user password : String) : Prop :=
  NoEscapes user password ∧ ¬HoldsLegacy user ∧ ¬HoldsLegacy password

lemma mem_hexText {bytes : List UInt8} {c : Char} (h : c ∈ (hexText bytes).toList) :
    isUserChar c ∧ sameFold '/' c = false ∧ c ≠ '.' := by
  have hall : ∀ n < 16, isUserChar (Json.hexDigit n) ∧
      sameFold '/' (Json.hexDigit n) = false ∧ Json.hexDigit n ≠ '.' := by decide
  rw [hexText,String.toList_ofList] at h
  obtain ⟨b,-,hc⟩ := mem_flatMap.mp h
  have hb := b.toNat_lt
  simp only [mem_cons,not_mem_nil,or_false] at hc
  rcases hc with rfl | rfl
  · exact hall _ (by omega)
  · exact hall _ (by omega)

lemma not_holdsLegacy_hexText (bytes : List UInt8) : ¬HoldsLegacy (hexText bytes) := by
  have hplain : ∀ c ∈ (hexText bytes).toList, IsPlain c := fun c hc =>
    .inl (isUserinfoChar_of_isUserChar (mem_hexText hc).1).1
  rw [HoldsLegacy,Json.escapedString,flatMap_escapeChar_of_isPlain hplain,not_or,
    Bool.not_eq_true,Bool.not_eq_true]
  constructor
  · exact contains_eq_false_of_mem (p := '/') (by decide) fun c hc => (mem_hexText hc).2.1
  · exact contains_eq_false_of_mem (p := '.') (by decide) fun c hc =>
      decide_eq_false (Ne.symm (mem_hexText hc).2.2)

lemma unchanged_generated (h : Generated supply) : Unchanged supply.username supply.password := by
  obtain ⟨bytes,-,huser⟩ := h.username
  obtain ⟨bytes',-,hpassword⟩ := h.password
  rw [huser,hpassword]
  exact ⟨⟨fun c hc => (mem_hexText hc).1,
    fun c hc => (isUserinfoChar_of_isUserChar (mem_hexText hc).1).1⟩,
    not_holdsLegacy_hexText _,not_holdsLegacy_hexText _⟩

/-- The stored account of the first SOCKS inbound, as the desktop reads it. -/
def storedAccount (stored : JsonObject) (i : ℕ) : JsonObject :=
  account (settingsOf ((inboundsOf stored).getD i .undefined))

/-- A stored account that is used can be read and handed over as it is. -/
def DesktopSafe (stored : JsonObject) : Prop :=
  ∀ i, indexOfSocksInbound (inboundsOf stored) = some i →
    ((storedAccount stored i).value "user").toString ≠ "" →
    ((storedAccount stored i).value "pass").toString ≠ "" →
    Unchanged ((storedAccount stored i).value "user").toString
      ((storedAccount stored i).value "pass").toString

variable {supply : Supply} {stored config : JsonObject} {creds : InboundCredentials} {i : ℕ}

/-- The credentials are the stored ones, or made up. -/
lemma ensureInboundAuth_creds (hsocks : indexOfSocksInbound (inboundsOf stored) = some i)
    (h : ensureInboundAuth supply stored = some (config,creds)) :
    ∃ port, supply.port = some port ∧ (((storedAccount stored i).value "user").toString ≠ "" ∧
          ((storedAccount stored i).value "pass").toString ≠ "" ∧
          creds = ⟨((storedAccount stored i).value "user").toString,
            ((storedAccount stored i).value "pass").toString,port⟩ ∨
        ¬(((storedAccount stored i).value "user").toString ≠ "" ∧
          ((storedAccount stored i).value "pass").toString ≠ "") ∧
          creds = ⟨supply.username,supply.password,port⟩) := by
  rw [inboundsOf] at hsocks
  simp only [ensureInboundAuth,hsocks,map_eq_some_iff,Prod.mk.injEq] at h
  obtain ⟨port,hport,-,rfl⟩ := h
  refine ⟨port,hport,?_⟩
  have hsettings : account (((((stored.value "inbounds").toArray.getD i .undefined).toObject.insert
      "port" (.num port)).value "settings").toObject) = storedAccount stored i := by
    rw [JsonObject.value_insert,if_neg (by decide)]
    rfl
  rw [hsettings]
  split
  case isTrue hgiven =>
    rw [Bool.not_eq_true',Bool.or_eq_false_iff] at hgiven
    exact .inl ⟨by simpa using hgiven.1,by simpa using hgiven.2,rfl⟩
  case isFalse hgiven => exact .inr ⟨by simpa using hgiven,rfl⟩

/-- An inbound with sniffing. -/
def sniffed (inbound : Json) : Json := .obj (inbound.toObject.insert "sniffing" sniffing)

lemma inboundsOf_routeDirectly (config : JsonObject) (domains : List String) :
    inboundsOf (routeDirectly config domains) = (inboundsOf config).map sniffed := by
  simp only [inboundsOf,routeDirectly]
  rw [JsonObject.value_insert,if_neg (by decide)]
  split
  · rw [JsonObject.value_insert,if_pos rfl]
    rfl
  · rw [JsonObject.value_insert,if_neg (by decide),JsonObject.value_insert,if_pos rfl]
    rfl

lemma getInboundCredentials_routeDirectly (config : JsonObject) (domains : List String) :
    getInboundCredentials (routeDirectly config domains) = getInboundCredentials config := by
  have hinbounds := inboundsOf_routeDirectly config domains
  have hindex : indexOfSocksInbound ((inboundsOf config).map sniffed) =
      indexOfSocksInbound (inboundsOf config) := by
    rw [indexOfSocksInbound,indexOfSocksInbound,List.findIdx?_map]
    congr 1
    funext inbound
    simp [sniffed]
  rw [inboundsOf,inboundsOf] at hinbounds
  rw [inboundsOf] at hindex
  simp only [getInboundCredentials,hinbounds,hindex]
  cases hfirst : indexOfSocksInbound (config.value "inbounds").toArray with
  | none => rfl
  | some i =>
    have hlt := (List.findIdx?_eq_some_iff_getElem.mp hfirst).1
    have hinbound : ((config.value "inbounds").toArray.map sniffed).getD i .undefined =
        sniffed ((config.value "inbounds").toArray.getD i .undefined) := by
      rw [getD_of_lt (by simpa using hlt),getD_of_lt hlt,getElem_map]
    simp only [hinbound,sniffed,Json.toObject_obj,JsonObject.value_insert]
    rw [if_neg (by decide),if_neg (by decide)]

/-- Rules for direct hosts leave the credentials alone. -/
lemma getInboundCredentials_prepared [Qt] {rawConfig prepared : JsonObject}
    (h : ensureInboundAuth supply stored = some (config,creds))
    (hprepared : prepare supply stored rawConfig = some prepared) :
    getInboundCredentials prepared = getInboundCredentials config := by
  rw [prepare,h,bind_some,applyXraySplitTunnelDirectRouting] at hprepared
  split at hprepared
  case isTrue =>
    obtain rfl := Option.some.inj hprepared
    rfl
  case isFalse =>
    obtain ⟨domains,-,rfl⟩ := map_eq_some_iff.mp hprepared
    split
    · rfl
    · exact getInboundCredentials_routeDirectly config domains

/-- tun2socks reads the credentials that stand in the text for Xray. -/
def DesktopAgrees (prepared : JsonObject) (creds : InboundCredentials) : Prop :=
  ∃ user password port, readProxy (proxyUrl creds) = some (proxyOf user password port) ∧
    handedText (getInboundCredentials prepared).username = Json.escapedString user ∧
    handedText (getInboundCredentials prepared).password = Json.escapedString password ∧
    (getInboundCredentials prepared).port = port

lemma desktopAgrees_iff [Qt] (hgen : Generated supply)
    (hsocks : indexOfSocksInbound (inboundsOf stored) = some i) {rawConfig prepared : JsonObject}
    (h : ensureInboundAuth supply stored = some (config,creds))
    (hprepared : prepare supply stored rawConfig = some prepared) :
    DesktopAgrees prepared creds ↔ DesktopSafe stored := by
  have hcreds : getInboundCredentials prepared = creds := by
    obtain ⟨_,_,_,_,_,_,hcreds⟩ := ensureInboundAuth_patched hgen hsocks h
    rw [getInboundCredentials_prepared h hprepared,hcreds]
  obtain ⟨port,hport,hcases⟩ := ensureInboundAuth_creds hsocks h
  obtain ⟨user,password,rfl,hsafe⟩ : ∃ user password, creds = ⟨user,password,port⟩ ∧
      (Unchanged user password ↔ DesktopSafe stored) := by
    rcases hcases with ⟨huser,hpassword,hcreds⟩ | ⟨hnone,hcreds⟩
    · refine ⟨_,_,hcreds,?_⟩
      constructor
      · intro hunchanged i' hi' _ _
        obtain rfl : i = i' := Option.some.inj (hsocks.symm.trans hi')
        exact hunchanged
      · intro hsafe
        exact hsafe i hsocks huser hpassword
    · refine ⟨_,_,hcreds,iff_of_true (unchanged_generated hgen) ?_⟩
      intro i' hi' huser hpassword
      obtain rfl : i = i' := Option.some.inj (hsocks.symm.trans hi')
      exact absurd ⟨huser,hpassword⟩ hnone
  rw [← hsafe,Unchanged,← readProxy_handed_iff user password port,DesktopAgrees,hcreds]
  constructor
  · rintro ⟨u,p,port',hread,huser,hpassword,hport'⟩
    obtain rfl : port = port' := Int.ofNat.inj hport'
    exact ⟨u,p,hread,huser,hpassword⟩
  · rintro ⟨u,p,hread,huser,hpassword⟩
    exact ⟨u,p,port,hread,huser,hpassword,rfl⟩

end

section

variable {label : Json.Path → String → String}

mutual

/-- A part of a document whose strings keep their labels. -/
lemma relabel_eq_self {path : Json.Path}
    (h : ∀ inner s, label (inner++path) s = s) (v : Json) : Json.relabel label path v = v := by
  cases v with
  | undefined => rfl
  | null => rfl
  | bool b => rfl
  | num q => rfl
  | str s => exact congrArg Json.str (h [] s)
  | arr items => rw [Json.relabel,relabelItems_eq_self h items]
  | obj fields => rw [Json.relabel,relabelFields_eq_self h fields]

lemma relabelItems_eq_self {path : Json.Path}
    (h : ∀ inner s, label (inner++path) s = s) (items : List Json) :
    Json.relabelItems label path items = items := by
  cases items with
  | nil => rfl
  | cons v items =>
    have hitem : ∀ inner s, label (inner++.item::path) s = s := by
      intro inner s
      have hs := h (inner++[.item]) s
      rwa [append_assoc,singleton_append] at hs
    rw [Json.relabelItems,relabel_eq_self hitem v,relabelItems_eq_self h items]

lemma relabelFields_eq_self {path : Json.Path}
    (h : ∀ inner s, label (inner++path) s = s) (fields : List (String × Json)) :
    Json.relabelFields label path fields = fields := by
  cases fields with
  | nil => rfl
  | cons f fields =>
    obtain ⟨k,v⟩ := f
    have hfield : ∀ inner s, label (inner++.key k::path) s = s := by
      intro inner s
      have hs := h (inner++[.key k]) s
      rwa [append_assoc,singleton_append] at hs
    rw [Json.relabelFields,relabel_eq_self hfield v,relabelFields_eq_self h fields]

end

lemma value_relabelFields (path : Json.Path) (fields : JsonObject) (key : String) :
    JsonObject.value (Json.relabelFields label path fields) key =
      Json.relabel label (.key key::path) (fields.value key) := by
  induction fields with
  | nil => rfl
  | cons f fields ih =>
    obtain ⟨k,v⟩ := f
    by_cases hk : key = k
    · subst hk
      simp [Json.relabelFields,JsonObject.value]
    · have hne := beq_false_of_ne hk
      simpa [Json.relabelFields,JsonObject.value,lookup_cons,hne] using ih

end

section

open Android Android.Xray OrgJson

/-- The document with the addresses of its servers. -/
def handedConfig (hostName address : String) (config : JsonObject) : JsonObject :=
  Json.relabelFields (withAddress hostName address) [] config

/-- Addresses of servers stand in outbounds only. -/
lemma inbounds_handedConfig (hostName address : String) (config : JsonObject) :
    (handedConfig hostName address config).value "inbounds" = config.value "inbounds" := by
  rw [handedConfig,value_relabelFields]
  refine relabel_eq_self ?_ _
  intro inner s
  have hplace : inner++[.key "inbounds"] ∉ serverPaths := by
    intro hmem
    have hall : ∀ path ∈ serverPaths, path.getLast? = some (.key "outbounds") := by decide
    have hlast := hall _ hmem
    rw [List.getLast?_append] at hlast
    exact absurd hlast (by simp)
  exact if_neg fun hserver => hplace hserver.1

lemma getInboundCredentials_handedConfig (hostName address : String) (config : JsonObject) :
    getInboundCredentials (handedConfig hostName address config) =
      getInboundCredentials config := by
  rw [getInboundCredentials,getInboundCredentials,inbounds_handedConfig]

variable [JsonNumbers]

/-- A stored account that is used consists of texts that need no escapes. -/
def AndroidSafe (stored : JsonObject) : Prop :=
  ∀ i, indexOfSocksInbound (inboundsOf stored) = some i → ∀ account rest,
    (settingsOf ((inboundsOf stored).getD i .undefined)).value "accounts" =
      .arr (.obj account::rest) → userOf account ≠ "" → passOf account ≠ "" →
    ((JsonObject.value account "user").isString ∧
      (JsonObject.value account "pass").isString) ∧
      NoEscapes (userOf account) (passOf account)

/-- The text of another value begins with no delimiter. -/
lemma optString_head {v : Json} (hstring : v.isString = false) (htext : optString v ≠ "") :
    ∃ c x, (optString v).toList = c::x ∧ c ≠ ':' ∧ c ≠ '@' ∧ v.toString = "" := by
  cases v with
  | undefined => exact absurd rfl htext
  | null => exact ⟨'n',_,String.toList_ofList,by decide,by decide,rfl⟩
  | bool b =>
    cases b with
    | true => exact ⟨'t',_,String.toList_ofList,by decide,by decide,rfl⟩
    | false => exact ⟨'f',_,String.toList_ofList,by decide,by decide,rfl⟩
  | num q =>
    have hchars : (optString (.num q)).toList = JsonNumbers.text q := String.toList_ofList
    cases hq : JsonNumbers.text q with
    | nil => exact absurd (String.toList_eq_nil_iff.mp (hchars.trans hq)) htext
    | cons c x =>
      have hc := JsonNumbers.chars q c (by rw [hq]; exact mem_cons_self)
      refine ⟨c,x,hchars.trans hq,?_,?_,rfl⟩
      · rintro rfl
        exact absurd hc (by decide)
      · rintro rfl
        exact absurd hc (by decide)
  | str s => cases hstring
  | arr items => exact ⟨'[',_,String.toList_ofList,by decide,by decide,rfl⟩
  | obj fields => exact ⟨'{',_,String.toList_ofList,by decide,by decide,rfl⟩

omit [JsonNumbers] in
lemma eq_nil_of_pctDecode {x : List Char} (h : pctDecode x = some []) : x = [] := by
  have hnil := pctDecode_induction (P := fun x bytes => bytes = [] → x = []) (fun _ => rfl)
    (fun _ _ _ _ _ _ _ _ h => absurd h (by simp)) (fun _ _ _ _ _ h => absurd h (by simp)) h
  exact hnil rfl

/-- A part that is read as the text of a value is the text of a string. -/
lemma part_of_optString {v : Json} {raw after rest : List Char} {d : Char}
    (hd : d = ':' ∨ d = '@') (htext : optString v ≠ "")
    (hstart : raw++d::after <+: (optString v).toList++d::rest) (hraw : d ∉ raw)
    (hdecode : pctDecode raw = some (utf8 v.toString.toList)) :
    v.isString ∧ raw = (optString v).toList ∧ ∀ c ∈ (optString v).toList, isUserinfoChar c := by
  cases hstring : v.isString with
  | false =>
    obtain ⟨c,x,hchars,hcolon,hat,hempty⟩ := optString_head hstring htext
    rw [hempty] at hdecode
    obtain rfl := eq_nil_of_pctDecode hdecode
    rw [hchars,nil_append,cons_append] at hstart
    have heq := (cons_prefix_cons.mp hstart).1
    rcases hd with rfl | rfl
    · exact absurd heq.symm hcolon
    · exact absurd heq.symm hat
  | true =>
    have hsame : optString v = v.toString := by
      cases v with
      | str s => rfl
      | _ => cases hstring
    rw [hsame] at hstart ⊢
    have hlong := Nat.le_trans (length_le_utf8 _) (pctDecode_length hdecode).1
    obtain rfl := eq_of_starts ((prefix_append _ _).trans hstart) hraw hlong
    exact ⟨rfl,rfl,(pctDecode_eq_utf8_iff _).mp hdecode⟩

/-- tun2socks reads the credentials of an account exactly if they are texts without escapes. -/
lemma readProxy_account_iff {account : JsonObject} (huser : userOf account ≠ "")
    (hpass : passOf account ≠ "") (port : ℕ) :
    readProxy (proxyUrl ⟨userOf account,passOf account,port⟩) =
        some (proxyOf (account.value "user").toString (account.value "pass").toString port) ↔
      ((account.value "user").isString ∧ (account.value "pass").isString) ∧
        NoEscapes (userOf account) (passOf account) := by
  constructor
  · intro hread
    obtain ⟨name,word,after,hstart,hname,hword,hnameBytes,hwordBytes⟩ :=
      raw_of_readProxy scheme_chars hread
    obtain ⟨huserString,hnameEq,huserChars⟩ :=
      part_of_optString (.inl rfl) huser hstart hname hnameBytes
    rw [hnameEq] at hstart hname
    have hstart := (cons_prefix_cons.mp ((prefix_append_right_inj _).mp hstart)).2
    obtain ⟨hpassString,-,hpassChars⟩ := part_of_optString (.inr rfl) hpass hstart hword hwordBytes
    refine ⟨⟨huserString,hpassString⟩,?_,hpassChars⟩
    intro c hc
    have hchar := huserChars c hc
    rw [isUserinfoChar,Bool.or_eq_true,decide_eq_true_eq] at hchar
    exact hchar.resolve_right fun heq => hname (heq ▸ hc)
  · rintro ⟨hstrings,hchars⟩
    have htext : ∀ v : Json, v.isString → optString v = v.toString := by
      intro v hv
      cases v with
      | str s => rfl
      | _ => cases hv
    rw [readProxy_of_noEscapes hchars,userOf,passOf,htext _ hstrings.1,htext _ hstrings.2]

variable [Resolver] {supply : Supply} {stored config : JsonObject} {i : ℕ} {hostName : String}
  {started : Started}

lemma androidAgrees_iff (hgen : Generated supply)
    (hsocks : indexOfSocksInbound (inboundsOf stored) = some i)
    (hauth : Android.Xray.ensureInboundAuth supply stored = some config)
    (h : startVpn supply hostName stored = some started) :
    readProxy (proxyUrl started.access) =
        some (credentialsProxy (getInboundCredentials config)) ↔ AndroidSafe stored := by
  obtain ⟨port,inbound,settings,account,rest,hpatched,hlt,hstored,-⟩ :=
    ensureInboundAuth_socks hgen hsocks hauth
  have haccess : started.access = ⟨userOf account,passOf account,port⟩ := by
    simp only [startVpn,hauth,socksAccess_of_patched hpatched,bind_some,map_eq_some_iff] at h
    obtain ⟨_,-,rfl⟩ := h
    rfl
  have hcreds : getInboundCredentials config = ⟨(JsonObject.value account "user").toString,
      (JsonObject.value account "pass").toString,port⟩ := hpatched.credentials hlt
  rw [haccess,hcreds]
  rcases hstored with ⟨rest',haccounts,huser,hpass⟩ | ⟨rfl,hnone⟩
  · refine (readProxy_account_iff huser hpass port).trans ?_
    constructor
    · intro hsafe i' hi' account' rest'' haccounts' _ _
      obtain rfl : i = i' := Option.some.inj (hsocks.symm.trans hi')
      obtain ⟨rfl,-⟩ : account = account' ∧ rest' = rest'' := by
        simpa using haccounts.symm.trans haccounts'
      exact hsafe
    · intro hsafe
      exact hsafe i hsocks account rest' haccounts huser hpass
  · refine iff_of_true (readProxy_of_noEscapes (unchanged_generated hgen).1 port) ?_
    intro i' hi' account' rest' haccounts huser hpass
    obtain rfl : i = i' := Option.some.inj (hsocks.symm.trans hi')
    exact absurd ⟨huser,hpass⟩ (hnone account' rest' haccounts)

end

/-- tun2socks gets the credentials that Xray gets, if the stored account of the SOCKS inbound can be
read and handed over as it is, and only then; on Android as long as the host name stands only in
the addresses of servers. -/
theorem proxy_url_agrees_iff [Qt] [JsonNumbers] [Android.Xray.Resolver] {supply : Supply}
    (hgen : Generated supply) {stored : JsonObject} {i : ℕ}
    (hsocks : indexOfSocksInbound (inboundsOf stored) = some i) :
    (∀ config creds rawConfig prepared,
      ensureInboundAuth supply stored = some (config,creds) →
      prepare supply stored rawConfig = some prepared →
      xrayConfigStr supply stored rawConfig =
          some (Json.render handedText (fun _ => handedText) [] (.obj prepared)) ∧
        (DesktopAgrees prepared creds ↔ DesktopSafe stored)) ∧
    ∀ hostName address config started,
      Android.Xray.Resolver.ip hostName = some address →
      Android.Xray.ensureInboundAuth supply stored = some config →
      Android.Xray.startVpn supply hostName stored = some started →
      Android.Xray.OnlyAsServer hostName address config →
      started.configJson = OrgJson.text (.obj (handedConfig hostName address config)) ∧
        (readProxy (proxyUrl started.access) =
            some (credentialsProxy (getInboundCredentials (handedConfig hostName address config))) ↔
          AndroidSafe stored) := by
  constructor
  · intro config creds rawConfig prepared h hprepared
    refine ⟨?_,desktopAgrees_iff hgen hsocks h hprepared⟩
    rw [xrayConfigStr,hprepared,map_some,patch_toJson]
    rfl
  · intro hostName address config started hresolved hauth h hhost
    refine ⟨?_,?_⟩
    · rw [Android.Xray.configJson_of_startVpn hresolved hauth h]
      exact (Android.Xray.replaced_text_iff hresolved config).mpr hhost
    · rw [getInboundCredentials_handedConfig]
      exact androidAgrees_iff hgen hsocks hauth h

section

open Android.Xray

/-- A document with a SOCKS inbound that has an account. -/
def withAccount (user password : String) : JsonObject :=
  [("inbounds",.arr [.obj [("protocol",.str "socks"),("settings",.obj [("accounts",
    .arr [.obj [("user",.str user),("pass",.str password)]])])]])]

def androidStart (user password : String) : Option Started :=
  @startVpn integerNumbers oneName sampleSupply "vpn.example" (withAccount user password)

lemma socks_withAccount (user password : String) :
    indexOfSocksInbound (inboundsOf (withAccount user password)) = some 0 := by
  have hsocks : equalsFold "socks" "socks" := by decide
  simp [indexOfSocksInbound,inboundsOf,withAccount,JsonObject.value,hsocks]

/-- Letters, digits and a colon in the password. -/
theorem plain_password_agrees : (∃ config creds prepared,
      ensureInboundAuth sampleSupply (withAccount "me" "pass:1") = some (config,creds) ∧
      @prepare dottedQt sampleSupply (withAccount "me" "pass:1") [] = some prepared ∧
      DesktopAgrees prepared creds) ∧
    ∃ config started,
      @Android.Xray.ensureInboundAuth integerNumbers sampleSupply (withAccount "me" "pass:1") =
        some config ∧
      androidStart "me" "pass:1" = some started ∧
      readProxy (proxyUrl started.access) = some (credentialsProxy
        (getInboundCredentials (handedConfig "vpn.example" "203.0.113.7" config))) := by
  have hsafe : DesktopSafe (withAccount "me" "pass:1") := by
    intro i hi _ _
    obtain rfl : 0 = i := Option.some.inj ((socks_withAccount _ _).symm.trans hi)
    refine ⟨⟨?_,?_⟩,?_,?_⟩ <;> decide
  have hsafe' : @AndroidSafe integerNumbers (withAccount "me" "pass:1") := by
    intro i hi account rest haccounts _ _
    obtain rfl : 0 = i := Option.some.inj ((socks_withAccount _ _).symm.trans hi)
    obtain ⟨rfl,-⟩ : [("user",.str "me"),("pass",.str "pass:1")] = account ∧ [] = rest := by
      simpa using (show Json.arr [.obj [("user",.str "me"),("pass",.str "pass:1")]] =
        .arr (.obj account::rest) from haccounts)
    refine ⟨⟨rfl,rfl⟩,?_,?_⟩ <;> decide
  have hagrees := @proxy_url_agrees_iff dottedQt integerNumbers oneName _ generated_sampleSupply
    _ _ (socks_withAccount "me" "pass:1")
  constructor
  · exact ⟨_,_,_,rfl,rfl,(hagrees.1 _ _ [] _ rfl rfl).2.mpr hsafe⟩
  · refine ⟨_,_,rfl,rfl,(hagrees.2 "vpn.example" "203.0.113.7" _ _ rfl rfl rfl ?_).2.mpr hsafe'⟩
    exact .inr ⟨by decide,by decide⟩

/-- With an at sign in the password nothing can be read. -/
theorem at_sign_not_read : (∃ config creds prepared,
      ensureInboundAuth sampleSupply (withAccount "me" "a@b") = some (config,creds) ∧
      @prepare dottedQt sampleSupply (withAccount "me" "a@b") [] = some prepared ∧
      ¬DesktopAgrees prepared creds) ∧
    ∃ config started,
      @Android.Xray.ensureInboundAuth integerNumbers sampleSupply (withAccount "me" "a@b") =
        some config ∧
      androidStart "me" "a@b" = some started ∧
      started.configJson = @OrgJson.text integerNumbers
        (.obj (handedConfig "vpn.example" "203.0.113.7" config)) ∧
      readProxy (proxyUrl started.access) ≠ some (credentialsProxy
        (getInboundCredentials (handedConfig "vpn.example" "203.0.113.7" config))) := by
  have hnone : readProxy (proxyUrl ⟨"me","a@b",20000⟩) = none := by decide
  constructor
  · refine ⟨_,_,_,rfl,rfl,?_⟩
    rintro ⟨user,password,port,hread,-⟩
    exact absurd (hnone.symm.trans hread) (by simp)
  · refine ⟨_,_,rfl,rfl,by decide,?_⟩
    intro hread
    exact absurd (hnone.symm.trans hread) (by simp)

end

end AlzheimerVPN.ProxyUrl
