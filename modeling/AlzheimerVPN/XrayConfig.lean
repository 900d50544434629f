import AlzheimerVPN.AddressText
import AlzheimerVPN.JsonText
import AlzheimerVPN.SiteController
import AlzheimerVPN.XrayMatcher

/-! The configuration that `XrayProtocol::start` hands to Xray: credentials for the inbound and
rules for direct hosts are put into the stored document, its text is written, and legacy values
are replaced in the text. -/
namespace AlzheimerVPN

open Replacement

/-- Case folding, as far as texts are compared with ASCII ones: beside the capital letters only
the long s and the sign for kelvin fold into ASCII. -/
def caseFold (c : Char) : Char :=
  if c.toNat = 0x17f then 's' else if c.toNat = 0x212a then 'k' else c.toLower

def sameFold (p c : Char) : Bool := decide (caseFold p = caseFold c)

def equalsFold (s t : String) : Bool := s.toList.map caseFold == t.toList.map caseFold

/-- `QJsonValue::toInt` with a default. -/
def Json.toIntOr (default : ℤ) : Json → ℤ
  | .num q => if q.den = 1 ∧ -2147483648 ≤ q.num ∧ q.num ≤ 2147483647 then q.num else default
  | _ => default

namespace Inbounds

structure InboundCredentials where
  username : String
  password : String
  port : ℤ
  deriving DecidableEq, Repr

/-- What the system gives for a session: a free port, unless none can be bound, and random
texts for the credentials. -/
structure Supply where
  port : Option ℕ
  username : String
  password : String

def defaultPort : ℤ := 10808

def indexOfSocksInbound (inbounds : List Json) : Option ℕ :=
  inbounds.findIdx? fun inbound => equalsFold (inbound.toObject.value "protocol").toString "socks"

/-- The first account of the settings. -/
def account (settings : JsonObject) : JsonObject :=
  ((settings.value "accounts").toArray.headD .undefined).toObject

def getInboundCredentials (xrayConfig : JsonObject) : InboundCredentials :=
  let inbounds := (xrayConfig.value "inbounds").toArray
  match indexOfSocksInbound inbounds with
  | none => ⟨"","",defaultPort⟩
  | some i =>
    let inbound := (inbounds.getD i .undefined).toObject
    let account := account (inbound.value "settings").toObject
    ⟨(account.value "user").toString,(account.value "pass").toString,
      (inbound.value "port").toIntOr defaultPort⟩

/-- Throws if there is no free port. -/
def ensureInboundAuth (supply : Supply) (xrayConfig : JsonObject) :
    Option (JsonObject × InboundCredentials) :=
  let inbounds := (xrayConfig.value "inbounds").toArray
  match indexOfSocksInbound inbounds with
  | none => some (xrayConfig,getInboundCredentials xrayConfig)
  | some i => supply.port.map fun (port : ℕ) =>
    let inbound := (inbounds.getD i .undefined).toObject.insert "port" (.num port)
    let settings := (inbound.value "settings").toObject
    let username := ((account settings).value "user").toString
    let password := ((account settings).value "pass").toString
    let given := !(username.isEmpty || password.isEmpty)
    let creds : InboundCredentials :=
      if given then ⟨username,password,port⟩ else ⟨supply.username,supply.password,port⟩
    let settings := if given then settings else settings.insert "accounts"
      (.arr [.obj [("user",.str creds.username),("pass",.str creds.password)]])
    let settings := settings.insert "auth" (.str "password")
    let inbound := inbound.insert "settings" (.obj settings)
    (xrayConfig.insert "inbounds" (.arr (inbounds.set i (.obj inbound))),creds)

end Inbounds

namespace XrayConfig

section

variable [Qt]

def sniffing : Json :=
  .obj [("enabled",.bool true),("destOverride",.arr [.str "http",.str "tls",.str "quic"]),
    ("routeOnly",.bool true)]

/-- The matchers of the host rules, each once. A text without a host part ends the process. -/
def directDomains (rawConfig : JsonObject) : Option (List String) :=
  ((rawConfig.value "splitTunnelDnsRules").toArray.mapM fun value =>
      SplitTunnelRule.fromText? value.toString).map fun rules =>
    (((rules.filter fun rule => rule.isValid && rule.type ≠ .ipSubnet).map
      xrayDomainMatcher).filter (!·.isEmpty)).eraseDups

omit [Qt] in
def routeDirectly (xrayConfig : JsonObject) (domains : List String) : JsonObject :=
  let inbounds := (xrayConfig.value "inbounds").toArray.map fun inbound =>
    Json.obj (inbound.toObject.insert "sniffing" sniffing)
  let xrayConfig := xrayConfig.insert "inbounds" (.arr inbounds)
  let outbounds := (xrayConfig.value "outbounds").toArray
  let hasDirectOutbound := outbounds.any fun value =>
    (value.toObject.value "tag").toString == "direct"
  let xrayConfig := if hasDirectOutbound then xrayConfig else xrayConfig.insert "outbounds"
    (.arr (outbounds++[.obj [("tag",.str "direct"),("protocol",.str "freedom")]]))
  let routing := (xrayConfig.value "routing").toObject
  let rules := .obj [("type",.str "field"),("domain",.arr (domains.map .str)),
    ("outboundTag",.str "direct")]::(routing.value "rules").toArray
  xrayConfig.insert "routing"
    (.obj ((routing.insert "domainStrategy" (.str "AsIs")).insert "rules" (.arr rules)))

def applyXraySplitTunnelDirectRouting (xrayConfig rawConfig : JsonObject) : Option JsonObject :=
  if (rawConfig.value "splitTunnelType").toInt ≠ 2 then some xrayConfig
  else (directDomains rawConfig).map fun domains =>
    if domains.isEmpty then xrayConfig else routeDirectly xrayConfig domains

/-- The document before its text is written. -/
def prepare (supply : Inbounds.Supply) (xrayConfig rawConfig : JsonObject) : Option JsonObject :=
  (Inbounds.ensureInboundAuth supply xrayConfig).bind fun result =>
    applyXraySplitTunnelDirectRouting result.1 rawConfig

end

def legacyFingerprint : String := "Mozilla/5.0"

def defaultFingerprint : String := "chrome"

def defaultLocalAddr : String := "10.33.0.2"

def defaultLocalListenAddr : String := "127.0.0.1"

def patchFingerprint (text : List Char) : List Char :=
  if contains sameFold legacyFingerprint.toList text then
    replace sameFold legacyFingerprint.toList defaultFingerprint.toList 0 text
  else text

def patchAddress (text : List Char) : List Char :=
  if contains (fun p c => decide (p = c)) defaultLocalAddr.toList text then
    replace (fun p c => decide (p = c)) defaultLocalAddr.toList defaultLocalListenAddr.toList 0 text
  else text

/-- The text that `start` hands over, if it gets there. -/
def xrayConfigStr [Qt] [JsonNumbers] (supply : Inbounds.Supply) (xrayConfig rawConfig : JsonObject) :
    Option (List Char) :=
  (prepare supply xrayConfig rawConfig).map fun config =>
    patchAddress (patchFingerprint (Json.toJson (.obj config)))

section

/-- The place of the listen address of an inbound. -/
def AtListen (path : Json.Path) : Prop := path = [.key "listen",.item,.key "inbounds"]

/-- The place of a fingerprint. -/
def AtFingerprint (path : Json.Path) : Prop := path.head? = some (.key "fingerprint")

instance : DecidablePred AtListen := fun _ => inferInstanceAs (Decidable (_ = _))

instance : DecidablePred AtFingerprint := fun _ => inferInstanceAs (Decidable (_ = _))

/-- What the patches are for. -/
def patched (path : Json.Path) (s : String) : String :=
  if AtListen path ∧ s = defaultLocalAddr then defaultLocalListenAddr
  else if AtFingerprint path ∧ equalsFold s legacyFingerprint then defaultFingerprint
  else s

/-- A string that a patch is for. -/
def IsLegacy (path : Json.Path) (s : String) : Prop :=
  AtListen path ∧ s = defaultLocalAddr ∨ AtFingerprint path ∧ equalsFold s legacyFingerprint

/-- A string that is written with a legacy value somewhere in it. -/
def HoldsLegacy (s : String) : Prop :=
  contains sameFold legacyFingerprint.toList (Json.escapedString s) ∨
    contains (fun p c => decide (p = c)) defaultLocalAddr.toList (Json.escapedString s)

variable (text : List Char)

lemma patchFingerprint_eq : patchFingerprint text =
    replace sameFold legacyFingerprint.toList defaultFingerprint.toList 0 text := by
  rw [patchFingerprint]
  split_ifs with h
  · rfl
  · exact (replace_eq_self (Bool.eq_false_of_not_eq_true h)).symm

lemma patchAddress_eq : patchAddress text =
    replace (fun p c => decide (p = c)) defaultLocalAddr.toList defaultLocalListenAddr.toList 0
      text := by
  rw [patchAddress]
  split_ifs with h
  · rfl
  · exact (replace_eq_self (Bool.eq_false_of_not_eq_true h)).symm

section

variable [JsonNumbers]

lemma inert_fingerprint : Json.Inert sameFold legacyFingerprint.toList := by
  refine ⟨by decide,Json.apart_of_all (by decide),by decide,?_⟩
  intro q
  refine contains_eq_false_of_mem (p := 'z') (by decide) ?_
  intro c hc
  have hdigit : ∀ n < 58, sameFold 'z' (Char.ofNat n) = false := by decide
  rcases JsonNumbers.chars q c hc with h | rfl | rfl | rfl | rfl
  · have hlt : c.toNat < 58 := by
      simp only [Char.isDigit,Bool.and_eq_true,decide_eq_true_eq] at h
      have := UInt32.le_iff_toNat_le.mp h.2
      exact Nat.lt_succ_of_le this
    have hz := hdigit c.toNat hlt
    rwa [Char.ofNat_toNat] at hz
  · decide
  · decide
  · decide
  · decide

lemma inert_address : Json.Inert (fun p c => decide (p = c)) defaultLocalAddr.toList := by
  refine ⟨by decide,Json.apart_of_all (by decide),by decide,?_⟩
  intro q
  by_contra h
  have hcount := (infix_of_contains (Bool.eq_true_of_not_eq_false h)).sublist.count_le '.'
  have hpoints : defaultLocalAddr.toList.count '.' = 3 := by decide
  have hone := JsonNumbers.one_point q
  omega

end

/-- The patches leave a text alone exactly if it holds no legacy value. -/
lemma patch_eq_self_iff : patchAddress (patchFingerprint text) = text ↔
    contains sameFold legacyFingerprint.toList text = false ∧
      contains (fun p c => decide (p = c)) defaultLocalAddr.toList text = false := by
  rw [patchAddress_eq,patchFingerprint_eq]
  constructor
  · intro h
    have hfingerprint : contains sameFold legacyFingerprint.toList text = false := by
      by_contra hcontains
      have hshort := length_replace_lt defaultFingerprint.toList (by decide) (by decide)
        (Bool.eq_true_of_not_eq_false hcontains)
      have hle := length_replace_le (fun p c => decide (p = c)) defaultLocalAddr.toList
        defaultLocalListenAddr.toList (by decide) (by decide)
        (replace sameFold legacyFingerprint.toList defaultFingerprint.toList 0 text)
      rw [h] at hle
      omega
    rw [replace_eq_self hfingerprint] at h
    exact ⟨hfingerprint,contains_eq_false_of_replace_eq (by decide) (by decide) (by decide) h⟩
  · rintro ⟨hfingerprint,haddress⟩
    rw [replace_eq_self hfingerprint,replace_eq_self haddress]

lemma escapeChar_of_caseFold {c : Char} (h : caseFold c ∈ legacyFingerprint.toList.map caseFold) :
    Json.escapeChar c = [c] := by
  have hcontrol : ∀ n < 32, caseFold (Char.ofNat n) ∉ legacyFingerprint.toList.map caseFold := by
    decide
  have hlow : ¬c.toNat < 32 := by
    intro hlt
    have hc := hcontrol c.toNat hlt
    rw [Char.ofNat_toNat] at hc
    exact hc h
  have hquote : c ≠ '"' := by
    rintro rfl
    exact absurd h (by decide)
  have hslash : c ≠ '\\' := by
    rintro rfl
    exact absurd h (by decide)
  rw [Json.escapeChar,if_neg hquote,if_neg hslash,if_neg (by omega),if_neg (by omega),
    if_neg (by omega),if_neg (by omega),if_neg (by omega),if_neg hlow]

variable {s : String}

lemma patch_fingerprint (h : equalsFold s legacyFingerprint) :
    patchAddress (patchFingerprint (Json.escapedString s)) = Json.escapedString defaultFingerprint := by
  have hmap : s.toList.map caseFold = legacyFingerprint.toList.map caseFold := eq_of_beq h
  have hescaped : Json.escapedString s = s.toList := by
    have hchars : ∀ c ∈ s.toList, Json.escapeChar c = [c] := fun c hc =>
      escapeChar_of_caseFold (hmap ▸ List.mem_map_of_mem hc)
    rw [Json.escapedString]
    exact (List.flatMap_congr hchars).trans (List.flatMap_singleton' _)
  have hlength : s.toList.length = legacyFingerprint.toList.length := by
    simpa using congrArg List.length hmap
  have hne : s.toList ≠ [] := List.ne_nil_of_length_pos (hlength ▸ by decide)
  have hstart : startsWith sameFold legacyFingerprint.toList s.toList := startsWith_of_map_eq hmap
  have hreplaced : patchFingerprint s.toList = defaultFingerprint.toList := by
    rw [patchFingerprint_eq,replace_of_startsWith (by decide) hne hstart,← hlength,List.drop_length]
    rfl
  rw [hescaped,hreplaced]
  decide

lemma patch_of_isLegacy {path : Json.Path} (h : IsLegacy path s) :
    patchAddress (patchFingerprint (Json.escapedString s)) =
      Json.escapedString (patched path s) := by
  rcases h with ⟨hpath,rfl⟩ | ⟨hpath,hs⟩
  · rw [patched,if_pos ⟨hpath,rfl⟩]
    decide
  · have hlisten : ¬AtListen path := by
      rintro rfl
      exact absurd hpath (by decide)
    rw [patched,if_neg fun h => hlisten h.1,if_pos ⟨hpath,hs⟩]
    exact patch_fingerprint hs

lemma patched_of_not_isLegacy {path : Json.Path} (h : ¬IsLegacy path s) : patched path s = s := by
  rw [IsLegacy,not_or] at h
  rw [patched,if_neg h.1,if_neg h.2]

lemma not_holdsLegacy_iff (s : String) : ¬HoldsLegacy s ↔
    patchAddress (patchFingerprint (Json.escapedString s)) = Json.escapedString s := by
  rw [patch_eq_self_iff,HoldsLegacy,not_or,Bool.not_eq_true,Bool.not_eq_true]

/-- A string comes out as it should unless it is another one that holds a legacy value. -/
lemma patch_eq_patched_iff (path : Json.Path) (s : String) :
    patchAddress (patchFingerprint (Json.escapedString s)) =
      Json.escapedString (patched path s) ↔ IsLegacy path s ∨ ¬HoldsLegacy s := by
  by_cases h : IsLegacy path s
  · exact iff_of_true (patch_of_isLegacy h) (.inl h)
  · rw [patched_of_not_isLegacy h,not_holdsLegacy_iff,or_iff_right h]

variable [JsonNumbers]

lemma patch_toJson (v : Json) : patchAddress (patchFingerprint (Json.toJson v)) =
    Json.render (fun k => patchAddress (patchFingerprint (Json.escapedString k)))
      (fun _ s => patchAddress (patchFingerprint (Json.escapedString s))) [] v := by
  simp only [patchAddress_eq,patchFingerprint_eq]
  rw [Json.toJson,Json.replace_render inert_fingerprint,Json.replace_render inert_address]

lemma closed_patch (s : String) :
    Json.Closed false (patchAddress (patchFingerprint (Json.escapedString s))) := by
  rw [patchAddress_eq,patchFingerprint_eq]
  have hfingerprint := inert_fingerprint.closed_replace (List.all_iff_forall_prop.mp
    (show defaultFingerprint.toList.all _ = true by decide)) (Json.closed_escapedString s)
  exact inert_address.closed_replace (List.all_iff_forall_prop.mp
    (show defaultLocalListenAddr.toList.all _ = true by decide)) hfingerprint

/-- The handed text is that of the document with its legacy values replaced, if no other key or
string holds one, and only then. -/
theorem xrayConfigStr_frame_iff [Qt] {supply : Inbounds.Supply}
    {xrayConfig rawConfig config : JsonObject}
    (h : prepare supply xrayConfig rawConfig = some config) :
    xrayConfigStr supply xrayConfig rawConfig =
      some (Json.toJson (Json.relabel patched [] (.obj config))) ↔
    Json.AllStrings (fun key => ¬HoldsLegacy key)
      (fun path s => IsLegacy path s ∨ ¬HoldsLegacy s) [] (.obj config) := by
  have hleft : Json.ClosedParts
      (fun k => patchAddress (patchFingerprint (Json.escapedString k)))
      (fun _ s => patchAddress (patchFingerprint (Json.escapedString s))) :=
    ⟨closed_patch,fun _ => closed_patch⟩
  have hright : Json.ClosedParts Json.escapedString
      (fun path s => Json.escapedString (patched path s)) :=
    ⟨Json.closed_escapedString,fun _ _ => Json.closed_escapedString _⟩
  have hparts := Json.render_append_eq_iff hleft hright [] (.obj config) [] []
  simp only [List.append_nil,and_true,← not_holdsLegacy_iff,patch_eq_patched_iff] at hparts
  rw [xrayConfigStr,h,Option.map_some,Option.some.injEq,patch_toJson,← hparts,
    Json.toJson,Json.render_relabel]

end

instance : DecidablePred HoldsLegacy := fun _ => inferInstanceAs (Decidable (_ ∨ _))

instance (path : Json.Path) : DecidablePred (IsLegacy path) :=
  fun _ => inferInstanceAs (Decidable (_ ∨ _))

lemma intChars_cases {n : ℤ} {c : Char} (hc : c ∈ IpText.intChars n) : c.isDigit ∨ c = '-' := by
  cases n with
  | ofNat n => exact .inl (IpText.toDigits_isDigit hc)
  | negSucc n =>
    rcases List.mem_cons.mp hc with rfl | hc
    · exact .inr rfl
    · exact .inl (IpText.toDigits_isDigit hc)

/-- Numbers that are integers. -/
@[reducible] def integerNumbers : JsonNumbers where
  text q := IpText.intChars q.num
  chars q c hc := (intChars_cases hc).imp_right .inl
  one_point q := by
    have hnone : '.' ∉ IpText.intChars q.num := by
      intro hmem
      exact absurd (intChars_cases hmem) (by decide)
    rw [List.count_eq_zero.mpr hnone]
    exact Nat.zero_le _

/-- An old document with the legacy values and the given server. -/
def oldConfig (address : String) : JsonObject :=
  [("inbounds",.arr [.obj [("listen",.str "10.33.0.2"),("protocol",.str "socks")]]),
    ("outbounds",.arr [.obj [("address",.str address),("fingerprint",.str "Mozilla/5.0")]])]

/-- The same document with its credentials. -/
def oldPrepared (address : String) : JsonObject :=
  [("inbounds",.arr [.obj [("settings",.obj [("auth",.str "password"),
      ("accounts",.arr [.obj [("user",.str "u"),("pass",.str "p")]])]),("port",.num 20000),
      ("listen",.str "10.33.0.2"),("protocol",.str "socks")]]),
    ("outbounds",.arr [.obj [("address",.str address),("fingerprint",.str "Mozilla/5.0")]])]

/-- With another server the legacy values are all that changes. -/
theorem plain_server_unchanged :
    @prepare dottedQt ⟨some 20000,"u","p"⟩ (oldConfig "203.0.113.7") [] =
        some (oldPrepared "203.0.113.7") ∧
      @xrayConfigStr dottedQt integerNumbers ⟨some 20000,"u","p"⟩ (oldConfig "203.0.113.7") [] =
        some (@Json.toJson integerNumbers
          (Json.relabel patched [] (.obj (oldPrepared "203.0.113.7")))) := by
  refine ⟨rfl,(@xrayConfigStr_frame_iff integerNumbers dottedQt _ _ _
    (oldPrepared "203.0.113.7") rfl).mpr ?_⟩
  simp only [oldPrepared,Json.AllStrings,Json.AllItems,Json.AllFields]
  decide

/-- A server whose address begins with the legacy one is handed over with another address. -/
theorem longer_server_changed :
    @xrayConfigStr dottedQt integerNumbers ⟨some 20000,"u","p"⟩ (oldConfig "10.33.0.25") [] =
        some (@Json.toJson integerNumbers
          (Json.relabel patched [] (.obj (oldPrepared "127.0.0.15")))) ∧
      @xrayConfigStr dottedQt integerNumbers ⟨some 20000,"u","p"⟩ (oldConfig "10.33.0.25") [] ≠
        some (@Json.toJson integerNumbers
          (Json.relabel patched [] (.obj (oldPrepared "10.33.0.25")))) := by
  decide +kernel

end XrayConfig

end AlzheimerVPN
