import AlzheimerVPN.Json
import AlzheimerVPN.SplitTunnelRule

/-! How `VpnConnection` completes the configuration of a server before it hands it
to the kill switch and to the protocol: the kill switch settings, the allowed
addresses of WireGuard and the split tunnel settings. -/
namespace AlzheimerVPN

open Text IpText List

inductive RouteMode
  | vpnAllSites | vpnOnlyForwardSites | vpnAllExceptSites
  deriving DecidableEq, Repr

inductive AppsRouteMode
  | vpnAllApps | vpnOnlyForwardApps | vpnAllExceptApps
  deriving DecidableEq, Repr

def RouteMode.toInt : RouteMode → ℤ
  | .vpnAllSites => 0
  | .vpnOnlyForwardSites => 1
  | .vpnAllExceptSites => 2

def AppsRouteMode.toInt : AppsRouteMode → ℤ
  | .vpnAllApps => 0
  | .vpnOnlyForwardApps => 1
  | .vpnAllExceptApps => 2

structure InstalledAppInfo where
  packageName : String
  appPath : String

/-- What the configuration takes from `SecureAppSettingsRepository`; a site map
gives for each rule text the addresses stored with it. -/
structure AppSettings where
  isKillSwitchEnabled : Bool
  getAllowedDnsServers : List String
  isSitesSplitTunnelingEnabled : Bool
  routeMode : RouteMode
  vpnSites : RouteMode → List (String × List String)
  useAmneziaDns : Bool
  isAppsSplitTunnelingEnabled : Bool
  appsRouteMode : AppsRouteMode
  vpnApps : AppsRouteMode → List InstalledAppInfo

/-- `SecureAppSettingsRepository::siteIpList` -/
def siteIpList (value : List String) : List String :=
  (value.filter fun ip => !ip.isEmpty).eraseDups

def texts (items : List String) : Json := .arr (items.map .str)

/-- `NetworkUtilities::getIPAddress`; `fromName` is the lookup of a host name. -/
def getIPAddress [Qt] (fromName : String → List HostAddress) (host : String) : String :=
  match Qt.hostAddress host with
  | .ipv4 _ => host
  | .ipv6 _ => host
  | .null =>
    match fromName host with
    | [] => ""
    | address::_ => address.toString

namespace VpnConnection

def appendKillSwitchConfig (settings : AppSettings) (config : JsonObject) : JsonObject :=
  config.insert "killSwitchOption" (.str (if settings.isKillSwitchEnabled then "true" else "false"))
    |>.insert "allowedDnsServers" (texts settings.getAllowedDnsServers)

section

variable (configData : JsonObject)

/-- The value of the first line `key = value` of a native configuration. -/
def nativeValue (key : String) : Option String :=
  (split (configData.value "config").toString '\n').findSome? fun line =>
    match split line '=' with
    | name::value::rest =>
      if trimmed name == key then some (trimmed ("=".intercalate (value::rest))) else none
    | _ => none

/-- The list of allowed addresses that is missing or still one text. -/
def newAllowedIps : Option Json :=
  if (configData.value "allowed_ips").isString then
    some (texts (splitText (configData.value "allowed_ips").toString ", "))
  else if (configData.value "allowed_ips").isUndefined then
    (nativeValue configData "AllowedIPs").map fun line => texts ((splitSkipEmpty line ',').map trimmed)
  else none

def newPersistentKeepAlive : Option Json :=
  if (configData.value "persistent_keep_alive").isUndefined then
    (nativeValue configData "PersistentKeepalive").map .str
  else none

/-- The protocol data with a key filled in. -/
def fill (key : String) (value : Option Json) : JsonObject :=
  match value with
  | some v => configData.insert key v
  | none => configData

/-- Old native and self-hosted configurations get their keys filled in; the data is
written back only if it has changed. -/
def completeConfigData (dataKey : String) (config : JsonObject) : JsonObject :=
  let configData := (config.value dataKey).toObject
  let allowedIps := newAllowedIps configData
  let withIps := fill configData "allowed_ips" allowedIps
  let keepAlive := newPersistentKeepAlive withIps
  if allowedIps.isSome || keepAlive.isSome then
    config.insert dataKey (.obj (fill withIps "persistent_keep_alive" keepAlive))
  else config

def containsText (items : List Json) (t : String) : Bool :=
  items.any fun i => i.isString && i.toString == t

/-- Sites are split only from a tunnel that takes all addresses. -/
def allowsSites : Bool :=
  containsText (configData.value "allowed_ips").toArray "0.0.0.0/0" &&
    containsText (configData.value "allowed_ips").toArray "::/0"

/-- Whether the list of allowed addresses of a server, once filled in, takes all. -/
def takesAllAddresses (protocolName : String) (config : JsonObject) : Bool :=
  let configData := (config.value (protocolName ++ "_config_data")).toObject
  allowsSites (fill configData "allowed_ips" (newAllowedIps configData))

end

section

variable [Qt] (settings : AppSettings)

/-- The addresses that one entry of the site map stands for. -/
def entrySites (entry : String × List String) : List String :=
  let rule := SplitTunnelRule.fromText entry.1
  if !rule.isValid then []
  else if rule.type = .ipSubnet then [rule.normalizedText]
  else (siteIpList entry.2).filter checkIpSubnetFormat

/-- Host rules are passed on to be resolved again and again. -/
def entryDnsRules (entry : String × List String) : List String :=
  let rule := SplitTunnelRule.fromText entry.1
  if !rule.isValid then [] else if rule.type = .ipSubnet then [] else [rule.normalizedText]

def entryIsDynamic (entry : String × List String) : Bool :=
  let rule := SplitTunnelRule.fromText entry.1
  rule.isValid && rule.type != .ipSubnet && rule.isDynamicHostRule

structure SplitTunneling where
  routeMode : RouteMode
  sites : List String
  dnsRules : List String

/-- The split tunnel of the site settings. -/
def siteSplitTunneling (allowSites : Bool) (dns1 dns2 : String) : SplitTunneling :=
  if !settings.isSitesSplitTunnelingEnabled then ⟨.vpnAllSites,[],[]⟩
  else if !allowSites then ⟨settings.routeMode,[],[]⟩
  else
    let entries := settings.vpnSites settings.routeMode
    let sites := (entries.flatMap entrySites).eraseDups
    let dnsRules := (entries.flatMap entryDnsRules).eraseDups
    if sites.isEmpty && !entries.any entryIsDynamic && dnsRules.isEmpty then
      ⟨.vpnAllSites,sites,dnsRules⟩
    else if settings.routeMode = .vpnOnlyForwardSites && settings.useAmneziaDns then
      ⟨settings.routeMode,sites++[dns1,dns2],dnsRules⟩
    else ⟨settings.routeMode,sites,dnsRules⟩

/-- Own DNS servers are reached past the tunnel. -/
def splitTunneling (allowSites : Bool) (dns1 dns2 : String) : SplitTunneling :=
  let split := siteSplitTunneling settings allowSites dns1 dns2
  if !settings.useAmneziaDns && split.routeMode != .vpnOnlyForwardSites then
    ⟨.vpnAllExceptSites,split.sites++[dns1,dns2],split.dnsRules⟩
  else split

end

def appSplitTunneling (settings : AppSettings) : AppsRouteMode × List String :=
  if !settings.isAppsSplitTunnelingEnabled then (.vpnAllApps,[])
  else
    let apps := (settings.vpnApps settings.appsRouteMode).map fun app =>
      if app.appPath.isEmpty then app.packageName else app.appPath
    (if apps.isEmpty then .vpnAllApps else settings.appsRouteMode,apps)

/-- `protocolName` is the protocol of the container that is connected to. -/
def appendSplitTunnelingConfig [Qt] (settings : AppSettings) (protocolName : String)
    (config : JsonObject) : JsonObject :=
  let isWireguard := protocolName == "awg" || protocolName == "wireguard"
  let dataKey := protocolName ++ "_config_data"
  let config := if isWireguard then completeConfigData dataKey config else config
  let allowSites := !isWireguard || allowsSites (config.value dataKey).toObject
  let split := splitTunneling settings allowSites (config.value "dns1").toString
    (config.value "dns2").toString
  let apps := appSplitTunneling settings
  config.insert "splitTunnelType" (.num split.routeMode.toInt)
    |>.insert "splitTunnelSites" (texts split.sites)
    |>.insert "splitTunnelDnsRules" (texts split.dnsRules)
    |>.insert "appSplitTunnelType" (.num apps.1.toInt)
    |>.insert "splitTunnelApps" (texts apps.2)

/-- The configuration `connectToVpn` starts the protocol with. -/
def vpnConfiguration [Qt] (settings : AppSettings) (protocolName : String) (config : JsonObject) :
    JsonObject :=
  appendSplitTunnelingConfig settings protocolName (appendKillSwitchConfig settings config)

/-- The configuration `connectToVpn` hands to the kill switch. -/
def firewallConfig [Qt] (settings : AppSettings) (protocolName : String)
    (fromName : String → List HostAddress) (config : JsonObject) : JsonObject :=
  (vpnConfiguration settings protocolName config).insert "vpnServer"
    (.str (getIPAddress fromName (config.value "hostName").toString))

section

variable (configData config : JsonObject) (dataKey : String)

lemma fill_value {key key' : String} (value : Option Json) (h : key' ≠ key) :
    (fill configData key value).value key' = configData.value key' := by
  cases value <;> simp [fill,h]

lemma completeConfigData_value {key : String} (h : key ≠ dataKey) :
    (completeConfigData dataKey config).value key = config.value key := by
  simp only [completeConfigData]
  split_ifs <;> simp [h]

lemma completeConfigData_hostName :
    ((completeConfigData dataKey config).value dataKey).toObject.value "hostName" =
      (config.value dataKey).toObject.value "hostName" := by
  simp only [completeConfigData]
  split_ifs
  · rw [JsonObject.value_insert,if_pos rfl,Json.toObject_obj,fill_value _ _ (by decide),
      fill_value _ _ (by decide)]
  · rfl

lemma allowsSites_completeConfigData :
    allowsSites ((completeConfigData dataKey config).value dataKey).toObject =
      allowsSites (fill (config.value dataKey).toObject "allowed_ips"
        (newAllowedIps (config.value dataKey).toObject)) := by
  simp only [completeConfigData]
  split_ifs with h
  · simp only [JsonObject.value_insert,if_pos,Json.toObject_obj,allowsSites]
    rw [fill_value _ _ (by decide)]
  · rw [Bool.or_eq_true,not_or] at h
    rw [Option.not_isSome_iff_eq_none.mp h.1,fill]

variable [Qt] (settings : AppSettings) {protocolName : String}
  (hw : protocolName = "awg" ∨ protocolName = "wireguard")

include hw

/-- The keys of the server that the settings leave alone. -/
lemma vpnConfiguration_server {key : String} (hkey : key ∈ ["dns1","dns2","protocol","hostName"]) :
    (vpnConfiguration settings protocolName config).value key = config.value key := by
  simp only [mem_cons,not_mem_nil,or_false] at hkey
  rcases hw with rfl | rfl <;> rcases hkey with rfl | rfl | rfl | rfl <;>
    simp [vpnConfiguration,appendSplitTunnelingConfig,appendKillSwitchConfig,
      completeConfigData_value]

lemma vpnConfiguration_hostName : ((vpnConfiguration settings protocolName config).value
      (protocolName ++ "_config_data")).toObject.value "hostName" =
      (config.value (protocolName ++ "_config_data")).toObject.value "hostName" := by
  rcases hw with rfl | rfl <;>
    simp [vpnConfiguration,appendSplitTunnelingConfig,completeConfigData_hostName,
      appendKillSwitchConfig]

lemma vpnConfiguration_killSwitchOption :
    (vpnConfiguration settings protocolName config).value "killSwitchOption" =
      .str (if settings.isKillSwitchEnabled then "true" else "false") := by
  rcases hw with rfl | rfl <;>
    simp [vpnConfiguration,appendSplitTunnelingConfig,appendKillSwitchConfig,
      completeConfigData_value]

/-- The split tunnel of a completed configuration is that of the settings. -/
lemma vpnConfiguration_splitTunneling :
    let split := splitTunneling settings (takesAllAddresses protocolName config)
      (config.value "dns1").toString (config.value "dns2").toString
    (vpnConfiguration settings protocolName config).value "splitTunnelType" =
        .num split.routeMode.toInt ∧
      (vpnConfiguration settings protocolName config).value "splitTunnelSites" = texts split.sites ∧
      (vpnConfiguration settings protocolName config).value "splitTunnelDnsRules" =
        texts split.dnsRules := by
  rcases hw with rfl | rfl <;>
    simp [vpnConfiguration,appendSplitTunnelingConfig,appendKillSwitchConfig,
      completeConfigData_value,allowsSites_completeConfigData,takesAllAddresses]

lemma vpnConfiguration_split : ∃ allowSites,
      (vpnConfiguration settings protocolName config).value "splitTunnelType" =
        .num (splitTunneling settings allowSites (config.value "dns1").toString
          (config.value "dns2").toString).routeMode.toInt ∧
      (vpnConfiguration settings protocolName config).value "splitTunnelSites" =
        texts (splitTunneling settings allowSites (config.value "dns1").toString
          (config.value "dns2").toString).sites := by
  obtain ⟨htype,hsites,-⟩ := vpnConfiguration_splitTunneling config settings hw
  exact ⟨_,htype,hsites⟩

end

section

variable [Qt] [LawfulQt] (settings : AppSettings)

lemma checkIpSubnetFormat_of_entrySites {entry : String × List String} {t : String}
    (h : t ∈ entrySites entry) : checkIpSubnetFormat t := by
  simp only [entrySites] at h
  split_ifs at h with hv ht
  · simp at h
  · obtain ⟨a,ha⟩ := SplitTunnelRule.ipSubnet_dotted ht
    rw [mem_singleton] at h
    rw [h,ha]
    exact checkIpSubnetFormat_dotted a
  · exact (mem_filter.mp h).2

/-- A site of the configuration is written as an address, or is one of the DNS servers. -/
lemma mem_sites {allowSites : Bool} {dns1 dns2 t : String}
    (h : t ∈ (splitTunneling settings allowSites dns1 dns2).sites) :
    checkIpSubnetFormat t ∨ t = dns1 ∨ t = dns2 := by
  have hentries : ∀ {t}, t ∈ ((settings.vpnSites settings.routeMode).flatMap
      entrySites).eraseDups → checkIpSubnetFormat t := by
    intro t ht
    obtain ⟨entry,-,he⟩ := mem_flatMap.mp (mem_eraseDups.mp ht)
    exact checkIpSubnetFormat_of_entrySites he
  have hsite : t ∈ (siteSplitTunneling settings allowSites dns1 dns2).sites →
      checkIpSubnetFormat t ∨ t = dns1 ∨ t = dns2 := by
    intro ht
    simp only [siteSplitTunneling] at ht
    split_ifs at ht
    · simp at ht
    · simp at ht
    · exact Or.inl (hentries ht)
    · simp only [mem_append,mem_cons,not_mem_nil,or_false] at ht
      exact ht.imp_left hentries
    · exact Or.inl (hentries ht)
  simp only [splitTunneling] at h
  split_ifs at h
  · simp only [mem_append,mem_cons,not_mem_nil,or_false] at h
    rcases h with h | h
    · exact hsite h
    · exact Or.inr h
  · exact hsite h

end

end VpnConnection
end AlzheimerVPN
