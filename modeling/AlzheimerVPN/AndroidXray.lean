import AlzheimerVPN.XrayConfig

/-! `Xray` on Android: the stored document gets credentials for its SOCKS inbound, its text is
written, and the host name is replaced by the address it resolves to. The documents are those of
`org.json`, which keeps the fields of an object in the order in which they were put. -/
namespace AlzheimerVPN

open Replacement List

namespace OrgJson

section

variable (o : JsonObject)

/-- `JSONObject.put` leaves a field where it is. -/
def put (key : String) (v : Json) : JsonObject :=
  if (o.lookup key).isSome then o.map fun f => if f.1 = key then (f.1,v) else f else o++[(key,v)]

lemma lookup_replaced (key k : String) (v : Json) :
    (o.map fun f => if f.1 = key then (f.1,v) else f).lookup k =
      if k = key then (o.lookup key).map fun _ => v else o.lookup k := by
  induction o with
  | nil => simp
  | cons f o ih =>
    obtain ⟨name,w⟩ := f
    by_cases hname : name = key
    · subst hname
      by_cases hk : k = name
      · simp [hk]
      · simp [lookup_cons,beq_false_of_ne hk,hk,ih]
    · have hkey : (key == name) = false := beq_false_of_ne (Ne.symm hname)
      by_cases hk : k = name
      · subst hk
        simp [hname]
      · simp [lookup_cons,hname,beq_false_of_ne hk,hkey,ih]

lemma lookup_append_field (key k : String) (v : Json) (hnone : o.lookup key = none) :
    (o++[(key,v)]).lookup k = if k = key then some v else o.lookup k := by
  rw [lookup_append]
  by_cases hk : k = key
  · subst hk
    simp [hnone]
  · simp [lookup_cons,beq_false_of_ne hk,hk]

lemma lookup_put (key k : String) (v : Json) :
    (put o key v).lookup k = if k = key then some v else o.lookup k := by
  rw [put]
  split
  case isTrue hsome =>
    obtain ⟨w,hw⟩ := Option.isSome_iff_exists.mp hsome
    rw [lookup_replaced,hw,Option.map_some]
  case isFalse hnone =>
    exact lookup_append_field o key k v (Option.not_isSome_iff_eq_none.mp hnone)

@[simp] lemma value_put (key k : String) (v : Json) :
    (put o key v).value k = if k = key then v else o.value k := by
  rw [JsonObject.value,lookup_put]
  split <;> rfl

def optJSONArray (key : String) : Option (List Json) :=
  match o.value key with
  | .arr items => some items
  | _ => none

def optJSONObject (key : String) : Option JsonObject :=
  match o.value key with
  | .obj fields => some fields
  | _ => none

end

section

/-- The characters that `JSONStringer` writes for one. -/
def escapeChar (c : Char) : List Char :=
  if c = '"' ∨ c = '\\' ∨ c = '/' then ['\\',c]
  else if c.toNat = 9 then ['\\','t']
  else if c.toNat = 8 then ['\\','b']
  else if c.toNat = 10 then ['\\','n']
  else if c.toNat = 13 then ['\\','r']
  else if c.toNat = 12 then ['\\','f']
  else if c.toNat < 32 then ['\\','u','0','0',Json.hexDigit (c.toNat/16),Json.hexDigit (c.toNat%16)]
  else [c]

def escapedString (s : String) : List Char := s.toList.flatMap escapeChar

variable [JsonNumbers]

/-- `JSONObject.toString` -/
def text (v : Json) : List Char := Json.render escapedString (fun _ s => escapedString s) [] v

/-- `optString` gives a text for every value that is there. -/
def optString : Json → String
  | .undefined => ""
  | .str s => s
  | v => String.ofList (text v)

end

end OrgJson

namespace Android
namespace Xray

open OrgJson

variable [JsonNumbers]

def findSocksInboundIndex (inbounds : List Json) : Option ℕ :=
  inbounds.findIdx? fun inbound =>
    match inbound with
    | .obj fields => equalsFold (optString (JsonObject.value fields "protocol")) "socks"
    | _ => false

omit [JsonNumbers] in
/-- The document with its inbound replaced. -/
def withInbound (xrayConfig : JsonObject) (inbounds : List Json) (i : ℕ)
    (inbound settings : JsonObject) : JsonObject :=
  put xrayConfig "inbounds" (.arr (inbounds.set i (.obj (put inbound "settings" (.obj settings)))))

def userOf (account : JsonObject) : String := optString (account.value "user")

def passOf (account : JsonObject) : String := optString (account.value "pass")

/-- The settings of the inbound with credentials; none if the first account is no object. -/
def authenticate (supply : Inbounds.Supply) (settings : JsonObject) : Option JsonObject :=
  let generated := put (put settings "auth" (.str "password")) "accounts"
    (.arr [.obj [("user",.str supply.username),("pass",.str supply.password)]])
  match optJSONArray settings "accounts" with
  | some (.obj account::_) =>
    if userOf account ≠ "" ∧ passOf account ≠ "" then
      some (put settings "auth" (.str "password"))
    else some generated
  | some (_::_) => none
  | _ => some generated

/-- Nothing is returned if an exception is thrown. -/
def ensureInboundAuth (supply : Inbounds.Supply) (xrayConfig : JsonObject) : Option JsonObject :=
  match optJSONArray xrayConfig "inbounds" with
  | none => some xrayConfig
  | some inbounds =>
    match findSocksInboundIndex inbounds with
    | none => some xrayConfig
    | some i => supply.port.bind fun (port : ℕ) =>
      let inbound := put (inbounds.getD i .undefined).toObject "port" (.num port)
      (authenticate supply ((optJSONObject inbound "settings").getD [])).map
        (withInbound xrayConfig inbounds i inbound)

omit [JsonNumbers] in
def getInt : Json → Option ℤ
  | .num q => some (q.num.tdiv q.den)
  | _ => none

/-- The part of `parseConfig` that reads the SOCKS inbound. -/
def socksAccess (xrayConfig : JsonObject) : Option Inbounds.InboundCredentials :=
  (optJSONArray xrayConfig "inbounds").bind fun inbounds =>
    (findSocksInboundIndex inbounds).bind fun i =>
      let socksConfig := (inbounds.getD i .undefined).toObject
      (getInt (socksConfig.value "port")).bind fun port =>
        match (optJSONObject socksConfig "settings").bind fun settings =>
            optJSONArray settings "accounts" with
        | some (.obj account::_) =>
          some ⟨userOf account,passOf account,port⟩
        | some (_::_) => none
        | _ => some ⟨"","",port⟩

/-- The resolver of the system: `InetAddress.getByName` and the text of the address. A name that
resolves has no quote, no slash, no backslash and no control character in it. -/
class Resolver where
  ip : String → Option String
  host_chars : ∀ hostName address, ip hostName = some address →
    ∀ c ∈ hostName.toList, c ≠ '"' ∧ c ≠ '\\' ∧ c ≠ '/' ∧ 32 ≤ c.toNat
  address_chars : ∀ hostName address, ip hostName = some address →
    ∀ c ∈ address.toList, c.isAlphanum ∨ c ∈ ['.',':','%','-','_']
  address_ne : ∀ hostName address, ip hostName = some address → address ≠ ""

omit [JsonNumbers] in
/-- `String.replace`: an empty text stands before every character and at the end. -/
def replaceAll (old new text : List Char) : List Char :=
  if old = [] then text.flatMap (fun c => new++[c])++new
  else replace (fun p c => decide (p = c)) old new 0 text

/-- What `start` gets: the access to the SOCKS inbound for tun2socks, and the text for Xray. -/
structure Started where
  access : Inbounds.InboundCredentials
  configJson : List Char

/-- `startVpn` up to `start`; nothing if an exception is thrown. -/
def startVpn [Resolver] (supply : Inbounds.Supply) (hostName : String) (stored : JsonObject) :
    Option Started :=
  (ensureInboundAuth supply stored).bind fun xrayJsonConfig =>
    (socksAccess xrayJsonConfig).bind fun access =>
      (Resolver.ip hostName).map fun ipAddress =>
        let xrayJsonConfigString := text (.obj xrayJsonConfig)
        ⟨access,if hostName ≠ ipAddress then
          replaceAll hostName.toList ipAddress.toList xrayJsonConfigString
        else xrayJsonConfigString⟩

end Xray
end Android
end AlzheimerVPN
