import AlzheimerVPN.DaemonConfig
import AlzheimerVPN.KillSwitch

/-! The firewall part of `WireguardUtilsMacos::addInterface`. The backend process
and its control socket are one answer: whether the interface was configured. -/
namespace AlzheimerVPN

/-- The items that the tables of a connection are filled with. -/
def FirewallParams.items (params : FirewallParams) : List String :=
  (if params.allowNets then params.allowAddrs else [])++
    (if params.blockNets then params.blockAddrs else [])++params.dnsServers

namespace WireguardUtilsMacos

/-- `IPAddress("0.0.0.0/0")` -/
def anyAddress : IPAddress := ⟨.ipv4 0,0⟩

/-- The primary server is taken even if it is empty. -/
def dnsServers (config : InterfaceConfig) : List String :=
  config.primaryDnsServer::
    (if config.secondaryDnsServer.isEmpty then [] else [config.secondaryDnsServer])

def firewallParams [Qt] (config : InterfaceConfig) : FirewallParams :=
  if config.allowedIPAddressRanges.contains anyAddress then
    { dnsServers := dnsServers config
      blockAll := true
      allowNets := !config.excludedAddresses.isEmpty
      blockNets := false
      allowAddrs := config.excludedAddresses
      blockAddrs := [] }
  else
    { dnsServers := dnsServers config
      blockAll := false
      allowNets := false
      blockNets := true
      allowAddrs := []
      blockAddrs := config.allowedIPAddressRanges.map IPAddress.toString }

lemma items_of_any [Qt] {config : InterfaceConfig}
    (h : anyAddress ∈ config.allowedIPAddressRanges) :
    (firewallParams config).items = config.excludedAddresses++dnsServers config := by
  cases he : config.excludedAddresses <;> simp [firewallParams,FirewallParams.items,h,he]

lemma items_of_not_any [Qt] {config : InterfaceConfig}
    (h : anyAddress ∉ config.allowedIPAddressRanges) :
    (firewallParams config).items =
      config.allowedIPAddressRanges.map IPAddress.toString++dnsServers config := by
  simp [firewallParams,FirewallParams.items,h]

def applyFirewallRules (params : FirewallParams) (fw : MacOSFirewall) : MacOSFirewall :=
  fw.applyParams params

/-- The IPv6 leak protection, set with or without a kill switch. -/
def protectIPv6 (s : KillSwitch) : KillSwitch :=
  { s with firewall := s.firewall.ensureInstalled.ensureRootAnchorPriority
      |>.setAnchorEnabled .blockIPv6 true }

/-- The rules of the connection, with the excluded addresses as the allow list. -/
def setRules (s : KillSwitch) (params : FirewallParams) : KillSwitch :=
  let s := if params.allowNets then (s.resetAllowedRange params.allowAddrs).1 else s
  { s with firewall := applyFirewallRules params s.firewall }

def addInterface [Qt] (s : KillSwitch) (config : InterfaceConfig) (configured : Bool) :
    KillSwitch × Bool :=
  if !configured then (s,false)
  else
    let s := protectIPv6 s
    if !s.firewall.isInstalled || !s.firewall.isAnchorEnabled .blockIPv6 then
      (s.disableKillSwitch.1,false)
    else if config.killSwitchEnabled then (setRules s (firewallParams config),true)
    else (s,true)

/-- A configured interface always gets its rules. -/
lemma addInterface_configured [Qt] (s : KillSwitch) (config : InterfaceConfig) :
    addInterface s config true =
      (if config.killSwitchEnabled then setRules (protectIPv6 s) (firewallParams config)
        else protectIPv6 s,true) := by
  have hi : (protectIPv6 s).firewall.isInstalled := by
    simp [protectIPv6,MacOSFirewall.isInstalled]
  have h6 : (protectIPv6 s).firewall.isAnchorEnabled .blockIPv6 := by
    simp [protectIPv6,MacOSFirewall.isAnchorEnabled]
  cases hk : config.killSwitchEnabled <;> simp [addInterface,hi,h6,hk]

section

variable (s : KillSwitch) (params : FirewallParams)

@[simp] lemma protectIPv6_joined : (protectIPv6 s).firewall.joined = s.firewall.joined := by
  simp [protectIPv6]
@[simp] lemma protectIPv6_installed : (protectIPv6 s).firewall.installed := by
  simp [protectIPv6]
lemma protectIPv6_enabled {a : Anchor} (h : a ≠ .blockIPv6) :
    (protectIPv6 s).firewall.enabled a = (s.firewall.installed && s.firewall.enabled a) := by
  simp [protectIPv6,h]
@[simp] lemma setRules_sites : (setRules s params).alwaysBlockedSites = s.alwaysBlockedSites := by
  simp only [setRules,KillSwitch.resetAllowedRange]
  split_ifs <;> rfl

lemma setRules_allowedRanges : (setRules s params).allowedRanges =
      if params.allowNets && params.allowAddrs.all IpText.isValidIpOrCidr then params.allowAddrs
      else s.allowedRanges := by
  cases hn : params.allowNets <;> cases hv : params.allowAddrs.all IpText.isValidIpOrCidr <;>
    simp [setRules,KillSwitch.resetAllowedRange,hn,hv]

/-- The anchors that no rule of a connection names stay as they are. -/
lemma setRules_enabled (a : Anchor) : (setRules s params).firewall.enabled a = match a with
    | .blockAll => params.blockAll
    | .allowNets => params.allowNets
    | .blockNets => params.blockNets
    | .allowExcludedApps | .allowHnsd | .allowPIA => s.firewall.installed && s.firewall.enabled a
    | _ => true := by
  cases hn : params.allowNets <;> cases hv : params.allowAddrs.all IpText.isValidIpOrCidr <;>
    cases a <;> simp [setRules,KillSwitch.resetAllowedRange,applyFirewallRules,hn,hv]

@[simp] lemma setRules_installed : (setRules s params).firewall.installed := by
  simp [setRules,applyFirewallRules]
@[simp] lemma setRules_allownets : (setRules s params).firewall.tables .allowNets .allownets =
    if params.allowNets then params.allowAddrs else [] := by
  simp [setRules,applyFirewallRules]
@[simp] lemma setRules_blocknets : (setRules s params).firewall.tables .blockNets .blocknets =
    if params.blockNets then params.blockAddrs else [] := by
  simp [setRules,applyFirewallRules]
@[simp] lemma setRules_dnsaddr :
    (setRules s params).firewall.tables .blockDNS .dnsaddr = params.dnsServers := by
  simp [setRules,applyFirewallRules]

/-- The items handed over are those of the tables, some of them twice. -/
lemma mem_setRules_joined (t : String) :
    t ∈ (setRules s params).firewall.joined ↔ t ∈ s.firewall.joined ∨ t ∈ params.items := by
  cases hn : params.allowNets <;> cases hv : params.allowAddrs.all IpText.isValidIpOrCidr <;>
    simp [setRules,KillSwitch.resetAllowedRange,applyFirewallRules,FirewallParams.items,hn,hv]

end
end WireguardUtilsMacos
end AlzheimerVPN
