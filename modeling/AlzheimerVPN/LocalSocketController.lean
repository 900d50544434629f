import AlzheimerVPN.IpText
import AlzheimerVPN.Json

/-! `LocalSocketController::activate`: the message the client sends to the
WireGuard daemon for a completed configuration. -/
namespace AlzheimerVPN.LocalSocketController

open Text IpText

def awgProtocolKeys : List String :=
  ["Jc","Jmin","Jmax","S1","S2","S3","S4","H1","H2","H3","H4","I1","I2","I3","I4","I5",
   "HeaderProtectionKey","ContentPaddingAddition","RekeyAfterTime","RekeyTimeout",
   "RejectAfterTime","KeepaliveTimeout","MaxHandshakeAttempts","RandomTrailers","DisableCookies"]

def rangeObject (address : String) (range : ℤ) (isIpv6 : Bool) : Json :=
  .obj (JsonObject.empty.insert "address" (.str address)
    |>.insert "range" (.num range)
    |>.insert "isIpv6" (.bool isIpv6))

/-- A range is cut at its first slash; its prefix length is whatever `atoi` makes of
the text after it. -/
def rangeOf (ipRange : String) : Json :=
  match split ipRange '/' with
  | address::range::_ => rangeObject address (atoi range) false
  | _ => rangeObject ipRange 32 false

section

variable (rawConfig : JsonObject)

def protocolName : String := (rawConfig.value "protocol").toString

def wgConfig : JsonObject := (rawConfig.value (protocolName rawConfig ++ "_config_data")).toObject

def splitTunnelType : ℤ := (rawConfig.value "splitTunnelType").toInt

def splitTunnelSites : List String := (rawConfig.value "splitTunnelSites").toArray.map Json.toString

def plainAllowedIP : List Json := ((wgConfig rawConfig).value "allowed_ips").toArray

def defaultAllowedIP : List String := ["0.0.0.0/0","::/0"]

/-- A list of allowed addresses other than the default one has priority over the
split tunnel. -/
def hasOwnAllowedIP : Bool :=
  !Json.equalsTexts (plainAllowedIP rawConfig) defaultAllowedIP && !(plainAllowedIP rawConfig).isEmpty

def allowedIPAddressRanges : List Json :=
  if hasOwnAllowedIP rawConfig then (plainAllowedIP rawConfig).map fun v => rangeOf v.toString
  else
    (if splitTunnelType rawConfig = 0 ∨ splitTunnelType rawConfig = 2 then
      [rangeObject "0.0.0.0" 0 false,rangeObject "::" 0 true] else [])++
    (if splitTunnelType rawConfig = 1 then (splitTunnelSites rawConfig).map rangeOf else [])

def excludedAddresses : List String :=
  trimmed ((wgConfig rawConfig).value "hostName").toString::(if splitTunnelType rawConfig = 2 then
      ((splitTunnelSites rawConfig).map trimmed).filter fun ipRange => !ipRange.isEmpty else [])

/-- The parameters of AmneziaWG that are there and not empty. -/
def insertAwg (wgConfig json : JsonObject) : List String → JsonObject
  | [] => json
  | key::keys =>
    if (wgConfig.value key).isString && !(wgConfig.value key).toString.isEmpty then
      insertAwg wgConfig (json.insert key (wgConfig.value key)) keys
    else insertAwg wgConfig json keys

/-- The secondary DNS is not sent if the primary one is AmneziaDNS. -/
def activate : JsonObject :=
  let wgConfig := wgConfig rawConfig
  let json := JsonObject.empty.insert "type" (.str "activate")
    |>.insert "protocol" (.str (protocolName rawConfig))
    |>.insert "privateKey" (wgConfig.value "client_priv_key")
    |>.insert "deviceIpv4Address" (wgConfig.value "client_ip")
    |>.insert "deviceIpv6Address" (.str "fd58:baa6:dead::1")
    |>.insert "serverPublicKey" (wgConfig.value "server_pub_key")
    |>.insert "serverPskKey" (wgConfig.value "psk_key")
    |>.insert "serverIpv4AddrIn" (wgConfig.value "hostName")
    |>.insert "deviceMTU" (wgConfig.value "mtu")
    |>.insert "serverPort" (.num (wgConfig.value "port").toInt)
    |>.insert "serverIpv4Gateway" (wgConfig.value "hostName")
  let json := if wgConfig.contains "persistent_keep_alive" then
      json.insert "persistentKeepalive" (.str (wgConfig.value "persistent_keep_alive").toString)
    else json
  let json := json.insert "primaryDnsServer" (rawConfig.value "dns1")
  let json := if containsText (rawConfig.value "dns1").toString amneziaDnsIp then json
    else json.insert "secondaryDnsServer" (rawConfig.value "dns2")
  let json := json.insert "allowedIPAddressRanges" (.arr (allowedIPAddressRanges rawConfig))
    |>.insert "excludedAddresses" (.arr ((excludedAddresses rawConfig).map .str))
    |>.insert "splitTunnelDnsRules" (.arr (rawConfig.value "splitTunnelDnsRules").toArray)
    |>.insert "vpnDisabledApps" (.arr (rawConfig.value "splitTunnelApps").toArray)
    |>.insert "allowedDnsServers" (.arr (rawConfig.value "allowedDnsServers").toArray)
    |>.insert "killSwitchOption" (rawConfig.value "killSwitchOption")
  insertAwg wgConfig json awgProtocolKeys

lemma insertAwg_value (wgConfig json : JsonObject) {keys : List String} {key : String}
    (h : key ∉ keys) : (insertAwg wgConfig json keys).value key = json.value key := by
  induction keys generalizing json with
  | nil => rfl
  | cons k keys ih =>
    have hk : key ≠ k := fun he => h (by simp [he])
    have hkeys : key ∉ keys := fun hm => h (by simp [hm])
    rw [insertAwg]
    split_ifs with hc
    · rw [ih _ hkeys,JsonObject.value_insert,if_neg hk]
    · exact ih json hkeys

lemma activate_primaryDnsServer :
    (activate rawConfig).value "primaryDnsServer" = rawConfig.value "dns1" := by
  rw [activate,insertAwg_value _ _ (by decide)]
  by_cases hc : containsText (rawConfig.value "dns1").toString amneziaDnsIp = true <;> simp [hc]

lemma activate_secondaryDnsServer : (activate rawConfig).value "secondaryDnsServer" =
      if containsText (rawConfig.value "dns1").toString amneziaDnsIp then .undefined
      else rawConfig.value "dns2" := by
  rw [activate,insertAwg_value _ _ (by decide)]
  by_cases hc : containsText (rawConfig.value "dns1").toString amneziaDnsIp
  · by_cases hk : (wgConfig rawConfig).contains "persistent_keep_alive" = true <;> simp [hc,hk]
  · simp [hc]

lemma activate_allowedIPAddressRanges : (activate rawConfig).value "allowedIPAddressRanges" =
      .arr (allowedIPAddressRanges rawConfig) := by
  rw [activate,insertAwg_value _ _ (by decide)]
  simp

lemma activate_excludedAddresses : (activate rawConfig).value "excludedAddresses" =
      .arr ((excludedAddresses rawConfig).map .str) := by
  rw [activate,insertAwg_value _ _ (by decide)]
  simp

lemma activate_splitTunnelDnsRules : (activate rawConfig).value "splitTunnelDnsRules" =
      .arr (rawConfig.value "splitTunnelDnsRules").toArray := by
  rw [activate,insertAwg_value _ _ (by decide)]
  simp

lemma activate_killSwitchOption :
    (activate rawConfig).value "killSwitchOption" = rawConfig.value "killSwitchOption" := by
  rw [activate,insertAwg_value _ _ (by decide)]
  simp

end
end AlzheimerVPN.LocalSocketController
