import AlzheimerVPN.LocalSocketController
import AlzheimerVPN.VpnConnection
import AlzheimerVPN.WireguardUtilsMacos

/-! The rules of a WireGuard connection are written twice: by the kill switch from
the split tunnel settings, and by the daemon from the allowed ranges and the
excluded addresses that the client derives from them. -/
namespace AlzheimerVPN.RuleWriters

open IpText Address Text WireguardUtilsMacos LocalSocketController List

lemma inText_congr {t u : String} (h : rangeOfText t = rangeOfText u) (a : Address) :
    inText t a = inText u a := by
  cases a with
  | v4 a => simp only [inText,h]
  | v6 a => rfl

lemma inText_of_none {t : String} (h : rangeOfText t = none) (a : Address) :
    inText t a = false := by
  cases a with
  | v4 a => simp [inText,h]
  | v6 a => rfl

/-- Tables describe the same set if each text of one has a text for the same range in
the other, texts without a range aside. -/
lemma inTable_eq {items items' : List String}
    (h : ∀ t ∈ items, rangeOfText t = none ∨ ∃ u ∈ items', rangeOfText u = rangeOfText t)
    (h' : ∀ u ∈ items', rangeOfText u = none ∨ ∃ t ∈ items, rangeOfText t = rangeOfText u)
    (a : Address) : inTable items a = inTable items' a := by
  have hsub : ∀ {xs ys : List String},
      (∀ t ∈ xs, rangeOfText t = none ∨ ∃ u ∈ ys, rangeOfText u = rangeOfText t) →
      inTable xs a → inTable ys a := by
    intro xs ys hxy hx
    obtain ⟨t,ht,hta⟩ := (inTable_iff xs a).mp hx
    rcases hxy t ht with hn | ⟨u,hu,he⟩
    · simp [inText_of_none hn] at hta
    · exact (inTable_iff ys a).mpr ⟨u,hu,by rwa [inText_congr he]⟩
  exact Bool.eq_iff_iff.mpr ⟨hsub h,hsub h'⟩

/-- On the prefix length of a valid text `atoi` reads what the check has read. -/
lemma atoi_of_bounded {p e : List Char} {n : ℕ} (hp : DigitGroup 2 p) (he : LineEnd e)
    (h : boundedOfText 32 (String.ofList (p++e)) = some n) :
    atoi (String.ofList (p++e)) = n ∧ n ≤ 32 := by
  have hne : p ≠ [] := by
    rintro rfl
    exact absurd hp.pos (by simp)
  have hpad := boundedOfText_pad 32 (p := []) (by simp) (lineEnd_isSpace he) p
  rw [nil_append] at hpad
  rw [hpad] at h
  obtain ⟨hn,hle⟩ := boundedOfText_digits hne hp.digit h
  have hend : ∀ c ∈ e.head?, c.isDigit = false := by
    rcases he with rfl | rfl
    · simp
    · simp
  rw [atoi_digits hne hp.digit hend (by omega),hn]
  exact ⟨rfl,hle⟩

section

variable [Qt]

lemma parseRange_rangeObject (address : String) {n : ℤ} (b : Bool) (hlo : -2147483648 ≤ n)
    (hhi : n ≤ 2147483647) :
    Daemon.parseRange (rangeObject address n b) =
      .ok (if (Qt.hostAddress address).isIPv6 then none else some ⟨Qt.hostAddress address,n⟩) := by
  by_cases h6 : (Qt.hostAddress address).isIPv6 = true <;>
    simp [Daemon.parseRange,rangeObject,Json.isObject,Json.isString,
      Json.isDouble,Json.isBool,Json.toInt_num hlo hhi,h6]

lemma hostAddress_of_format {t : String} (h : checkIPv4Format t) :
    ∃ b, Qt.hostAddress t = .ipv4 b := by
  simp only [checkIPv4Format] at h
  split_ifs at h
  cases ha : Qt.hostAddress t with
  | null => simp [ha,HostAddress.isIPv4] at h
  | ipv4 b => exact ⟨b,rfl⟩
  | ipv6 b => simp [ha,HostAddress.isIPv4] at h

variable [LawfulQt]

/-- The range the daemon reads from a checked site is the range of the site. -/
lemma parseRange_rangeOf {t : String} (hf : checkIpSubnetFormat t) (hv : isValidIpOrCidr t) :
    ∃ (a : BitVec 32) (n : ℕ), n ≤ 32 ∧ rangeOfText t = some ⟨a,n⟩ ∧
      Daemon.parseRange (rangeOf t) = .ok (some ⟨.ipv4 a,n⟩) := by
  obtain ⟨-,-,-,-,-,hsome⟩ := isValidIpOrCidr_spec hv
  obtain ⟨r,hr⟩ := Option.isSome_iff_exists.mp hsome
  obtain ⟨hm,-,hlen⟩ := (isValidIpOrCidr_iff t).mp hv
  obtain ⟨a,b,c,d,u,e,core,hshape,he,hs⟩ := (matchesLine_ipOrCidr_iff t.toList).mp hm
  rcases hshape.split_slash he hs with ⟨rfl,hsp⟩ | ⟨p,rfl,hsp⟩
  · have hmem : t ∈ split t '/' := by simp [hsp]
    have hns : '/' ∉ t.toList := not_mem_of_mem_split hmem
    have hc : containsChar t '/' = false := by simpa [containsChar] using hns
    simp only [checkIpSubnetFormat,hc,Bool.not_false,if_true] at hf
    obtain ⟨x,hx⟩ := hostAddress_of_format hf
    simp only [rangeOfText,hsp] at hr
    obtain ⟨y,hy,rfl⟩ := Option.map_eq_some_iff.mp hr
    obtain rfl := LawfulQt.hostAddress_decimal hy hx
    refine ⟨x,32,le_rfl,by simp [rangeOfText,hsp,hy],?_⟩
    simp only [rangeOf,hsp]
    rw [parseRange_rangeObject t false (by omega) (by omega),hx]
    rfl
  · have hslash : '/' ∈ t.toList := by
      rw [hs,hshape.eq]
      simp
    have hc : containsChar t '/' := (containsChar_iff t '/').mpr hslash
    simp only [checkIpSubnetFormat,hc,hsp] at hf
    simp only [rangeOfText,hsp] at hr
    obtain ⟨y,hy,hr⟩ := Option.bind_eq_some_iff.mp hr
    obtain ⟨n,hn,rfl⟩ := Option.map_eq_some_iff.mp hr
    have hp : DigitGroup 2 p := by
      rcases hshape.tail with ht | ⟨q,hq,ht⟩
      · simp at ht
      · obtain rfl : p = q := by simpa using ht
        exact hq
    obtain ⟨hatoi,hle⟩ := atoi_of_bounded hp he hn
    have hf' : checkIPv4Format (String.ofList (a++ '.'::(b++ '.'::(c++ '.'::d)))) := by
      simpa only [Bool.not_true,Bool.false_eq_true,if_false,length_cons,length_nil,
        Nat.reduceAdd,bne_self_eq_false,getD_cons_succ,getD_cons_zero,hn] using hf
    obtain ⟨x,hx⟩ := hostAddress_of_format hf'
    obtain rfl := LawfulQt.hostAddress_decimal hy hx
    refine ⟨x,n,hle,by simp only [rangeOfText,hsp,hy,hn,Option.bind_some,Option.map_some],?_⟩
    simp only [rangeOf,hsp,hatoi]
    rw [parseRange_rangeObject _ false (by omega) (by omega),hx]
    rfl

lemma parseRange_empty : Daemon.parseRange (rangeOf "") = .ok (some ⟨.null,32⟩) := by
  have hr : rangeOf "" = rangeObject "" 32 false := rfl
  rw [hr,parseRange_rangeObject _ false (by omega) (by omega),LawfulQt.hostAddress_empty]
  rfl

omit [LawfulQt] in
lemma toString_ipv4 (a : BitVec 32) (n : ℕ) : (⟨.ipv4 a,n⟩ : IPAddress).toString = cidr a n := by
  simp [IPAddress.toString,HostAddress.toString,cidr,dotted,intChars]

end

/-- The same anchors in force over the same sets of addresses. -/
structure SameRules (fw fw' : MacOSFirewall) : Prop where
  installed : fw.installed = fw'.installed
  enabled : ∀ a, fw.enabled a = fw'.enabled a
  allownets : ∀ a, inTable (fw.tables .allowNets .allownets) a =
    inTable (fw'.tables .allowNets .allownets) a
  blocknets : ∀ a, inTable (fw.tables .blockNets .blocknets) a =
    inTable (fw'.tables .blockNets .blocknets) a

/-- The same DNS servers let through. -/
def SameDns (fw fw' : MacOSFirewall) : Prop :=
  ∀ a, inTable (fw.tables .blockDNS .dnsaddr) a = inTable (fw'.tables .blockDNS .dnsaddr) a

/-- What the two writers ask for, compared. -/
structure Agree [Qt] (f : JsonObject) (params : FirewallParams) : Prop where
  blockAll : KillSwitch.blockAll f = params.blockAll
  allowNets : KillSwitch.allowNets f = params.allowNets
  blockNets : KillSwitch.blockNets f = params.blockNets
  allownets : params.allowNets →
    ∀ a, inTable (KillSwitch.allownets f) a = inTable params.allowAddrs a
  blocknets : params.blockNets →
    ∀ a, inTable (KillSwitch.blocknets f) a = inTable params.blockAddrs a

lemma Agree.sameRules [Qt] {f : JsonObject} {params : FirewallParams} (h : Agree f params)
    (s : KillSwitch) :
    SameRules (KillSwitch.connectionRules f s.firewall)
      (setRules (protectIPv6 s) params).firewall := by
  refine ⟨by simp,?_,?_,?_⟩
  · intro a
    cases a <;> simp [setRules_enabled,protectIPv6_enabled,h.blockAll,h.allowNets,h.blockNets]
  · intro a
    rw [KillSwitch.connectionRules_allownets,setRules_allownets,h.allowNets]
    split_ifs with hn
    · exact h.allownets hn a
    · rfl
  · intro a
    rw [KillSwitch.connectionRules_blocknets,setRules_blocknets,h.blockNets]
    split_ifs with hn
    · exact h.blocknets hn a
    · rfl

/-- A WireGuard connection with the kill switch on to a server with an IPv4 address. -/
structure Connection [Qt] where
  settings : AppSettings
  protocolName : String
  config : JsonObject
  server : String
  fromName : String → List HostAddress
  killSwitch : settings.isKillSwitchEnabled
  wireguard : protocolName = "awg" ∨ protocolName = "wireguard"
  protocol : (config.value "protocol").toString = protocolName
  hostName : (config.value "hostName").toString = server
  endpoint :
    ((config.value (protocolName ++ "_config_data")).toObject.value "hostName").toString = server
  ipv4 : checkIPv4Format server

namespace Connection

open LocalSocketController

variable [Qt] (c : Connection)

def vpnConfiguration : JsonObject :=
  VpnConnection.vpnConfiguration c.settings c.protocolName c.config

def firewallConfig : JsonObject :=
  VpnConnection.firewallConfig c.settings c.protocolName c.fromName c.config

lemma firewallConfig_eq :
    c.firewallConfig = c.vpnConfiguration.insert "vpnServer" (.str c.server) := by
  obtain ⟨b,hb⟩ := hostAddress_of_format c.ipv4
  simp [firewallConfig,vpnConfiguration,VpnConnection.firewallConfig,getIPAddress,c.hostName,hb]

lemma splitTunnelType_eq :
    KillSwitch.splitTunnelType c.firewallConfig = splitTunnelType c.vpnConfiguration := by
  simp [KillSwitch.splitTunnelType,splitTunnelType,firewallConfig_eq]

lemma siteRanges_eq : KillSwitch.siteRanges c.firewallConfig =
    (splitTunnelSites c.vpnConfiguration).filter checkIpSubnetFormat := by
  simp [KillSwitch.siteRanges,splitTunnelSites,firewallConfig_eq]

lemma vpnServer_eq : KillSwitch.vpnServer c.firewallConfig = c.server := by
  simp [KillSwitch.vpnServer,firewallConfig_eq]

lemma endpoint_eq : ((wgConfig c.vpnConfiguration).value "hostName").toString = c.server := by
  have hp : LocalSocketController.protocolName c.vpnConfiguration = c.protocolName := by
    rw [LocalSocketController.protocolName,vpnConfiguration,
      VpnConnection.vpnConfiguration_server _ _ c.wireguard (by decide),c.protocol]
  rw [wgConfig,hp,vpnConfiguration,VpnConnection.vpnConfiguration_hostName _ _ c.wireguard,
    c.endpoint]

/-- The DNS texts are empty or written as the site texts are. -/
def PlainDns : Prop :=
  ∀ key ∈ ["dns1","dns2"], (c.config.value key).toString = "" ∨
    checkIpSubnetFormat (c.config.value key).toString

instance : Decidable c.PlainDns :=
  inferInstanceAs (Decidable (∀ key ∈ ["dns1","dns2"], (c.config.value key).toString = "" ∨
    checkIpSubnetFormat (c.config.value key).toString))

lemma mem_splitTunnelSites [LawfulQt] (hdns : c.PlainDns) {t : String}
    (ht : t ∈ splitTunnelSites c.vpnConfiguration) : t = "" ∨ checkIpSubnetFormat t := by
  obtain ⟨allowSites,-,hsites⟩ :=
    VpnConnection.vpnConfiguration_split c.config c.settings c.wireguard
  have hmem : t ∈ (VpnConnection.splitTunneling c.settings allowSites
      (c.config.value "dns1").toString (c.config.value "dns2").toString).sites := by
    simpa [splitTunnelSites,vpnConfiguration,hsites,texts] using ht
  rcases VpnConnection.mem_sites c.settings hmem with h | rfl | rfl
  · exact Or.inr h
  · exact hdns "dns1" (by decide)
  · exact hdns "dns2" (by decide)

lemma splitTunnelType_cases :
    splitTunnelType c.vpnConfiguration = 0 ∨ splitTunnelType c.vpnConfiguration = 1 ∨
      splitTunnelType c.vpnConfiguration = 2 := by
  obtain ⟨allowSites,htype,-⟩ :=
    VpnConnection.vpnConfiguration_split c.config c.settings c.wireguard
  rw [splitTunnelType,vpnConfiguration,htype]
  cases (VpnConnection.splitTunneling c.settings allowSites (c.config.value "dns1").toString
    (c.config.value "dns2").toString).routeMode <;> simp [RouteMode.toInt,Json.toInt]

variable {c} {config : InterfaceConfig}
  (hread : Daemon.Read (activate c.vpnConfiguration) config)

include hread

lemma ranges_iff (r : IPAddress) : r ∈ config.allowedIPAddressRanges ↔
      ∃ i ∈ allowedIPAddressRanges c.vpnConfiguration, Daemon.parseRange i = .ok (some r) := by
  rw [hread.ranges,Daemon.rangesKey,activate_allowedIPAddressRanges,Json.toArray_arr]

lemma excludedAddresses_eq : config.excludedAddresses = excludedAddresses c.vpnConfiguration := by
  rw [hread.excluded,activate_excludedAddresses,Json.toArray_arr,map_map]
  exact map_id _

omit hread in
/-- The sites that one writer takes as they are and the other one trims. -/
lemma excluded_sites_eq [LawfulQt] (hdns : c.PlainDns)
    (hv : ∀ t ∈ splitTunnelSites c.vpnConfiguration, checkIpSubnetFormat t →
      isValidIpOrCidr t) (hserver : isValidIpOrCidr c.server) (a : Address) :
    inTable (c.server::(splitTunnelSites c.vpnConfiguration).filter checkIpSubnetFormat) a =
      inTable (trimmed c.server::((splitTunnelSites c.vpnConfiguration).map trimmed).filter
        fun ipRange => !ipRange.isEmpty) a := by
  have hnone : rangeOfText "" = none := by decide
  refine inTable_eq ?_ ?_ a
  · intro t ht
    rcases mem_cons.mp ht with rfl | ht
    · exact Or.inr ⟨trimmed c.server,by simp,rangeOfText_trimmed hserver⟩
    · obtain ⟨hmem,hf⟩ := mem_filter.mp ht
      have hvalid := hv t hmem hf
      have hrange := rangeOfText_trimmed hvalid
      obtain ⟨-,-,-,-,-,hsome⟩ := isValidIpOrCidr_spec hvalid
      have hne : (trimmed t).isEmpty = false := by
        cases he : (trimmed t).isEmpty with
        | false => rfl
        | true =>
          rw [String.isEmpty_iff.mp he,hnone] at hrange
          simp [← hrange] at hsome
      refine Or.inr ⟨trimmed t,?_,hrange⟩
      exact mem_cons_of_mem _ (mem_filter.mpr ⟨mem_map.mpr ⟨t,hmem,rfl⟩,by simp [hne]⟩)
  · intro u hu
    rcases mem_cons.mp hu with rfl | hu
    · exact Or.inr ⟨c.server,by simp,(rangeOfText_trimmed hserver).symm⟩
    · obtain ⟨hmem,-⟩ := mem_filter.mp hu
      obtain ⟨t,ht,rfl⟩ := mem_map.mp hmem
      rcases c.mem_splitTunnelSites hdns ht with rfl | hf
      · exact Or.inl (by decide)
      · refine Or.inr ⟨t,?_,(rangeOfText_trimmed (hv t ht hf)).symm⟩
        exact mem_cons_of_mem _ (mem_filter.mpr ⟨ht,hf⟩)

/-- A tunnel for everything, listed sites excepted. -/
lemma agree_of_all [LawfulQt] (hown : hasOwnAllowedIP c.vpnConfiguration = false) (hdns : c.PlainDns)
    (hvalid : (KillSwitch.allownets c.firewallConfig).all isValidIpOrCidr)
    (htype : splitTunnelType c.vpnConfiguration = 0 ∨ splitTunnelType c.vpnConfiguration = 2) :
    Agree c.firewallConfig (firewallParams config) := by
  have hzero : dotted 0 = "0.0.0.0" := by decide
  have hany : anyAddress ∈ config.allowedIPAddressRanges := by
    refine (ranges_iff hread _).mpr ⟨rangeObject "0.0.0.0" 0 false,?_,?_⟩
    · simp [allowedIPAddressRanges,hown,htype]
    · rw [parseRange_rangeObject _ false (by omega) (by omega),← hzero,LawfulQt.hostAddress_dotted]
      rfl
  have hexcluded := excludedAddresses_eq hread
  have hparams : firewallParams config = ⟨dnsServers config,true,true,false,
        excludedAddresses c.vpnConfiguration,[]⟩ := by
    simp [firewallParams,hany,hexcluded,excludedAddresses]
  have hk := c.splitTunnelType_eq
  have hallow : KillSwitch.allowNets c.firewallConfig := by
    rcases htype with h | h <;> simp [KillSwitch.allowNets,hk,h]
  rw [hparams]
  refine ⟨hallow,hallow,?_,fun _ a => ?_,by simp⟩
  · rcases htype with h | h <;> simp [KillSwitch.blockNets,hk,h]
  · simp only [all_eq_true] at hvalid
    have hserver : isValidIpOrCidr c.server := by
      apply hvalid
      rcases htype with h | h <;> simp [KillSwitch.allownets,hk,h,vpnServer_eq]
    rcases htype with h | h
    · have hsame : inTable [c.server] a = inTable [trimmed c.server] a := by
        simp only [inTable,any_cons,any_nil,inText_congr (rangeOfText_trimmed hserver)]
      simpa [KillSwitch.allownets,excludedAddresses,hk,h,vpnServer_eq,endpoint_eq] using hsame
    · have hsites : ∀ t ∈ splitTunnelSites c.vpnConfiguration, checkIpSubnetFormat t →
          isValidIpOrCidr t := by
        intro t ht hf
        apply hvalid
        simp [KillSwitch.allownets,hk,h,siteRanges_eq,ht,hf]
      have hsame := excluded_sites_eq hdns hsites hserver a
      simpa [KillSwitch.allownets,excludedAddresses,hk,h,vpnServer_eq,endpoint_eq,
        siteRanges_eq] using hsame

/-- With listed sites the daemon reads their ranges, and a range without an address from an
empty text. -/
lemma mem_ranges_of_sites [LawfulQt] (hown : hasOwnAllowedIP c.vpnConfiguration = false) (hdns : c.PlainDns)
    (hvalid : ∀ t ∈ (splitTunnelSites c.vpnConfiguration).filter checkIpSubnetFormat,
      isValidIpOrCidr t) (htype : splitTunnelType c.vpnConfiguration = 1) (r : IPAddress) :
    r ∈ config.allowedIPAddressRanges ↔
      "" ∈ splitTunnelSites c.vpnConfiguration ∧ r = ⟨.null,32⟩ ∨
      ∃ t ∈ (splitTunnelSites c.vpnConfiguration).filter checkIpSubnetFormat,
        ∃ (a : BitVec 32) (n : ℕ), n ≤ 32 ∧ rangeOfText t = some ⟨a,n⟩ ∧ r = ⟨.ipv4 a,n⟩ := by
  have hranges : r ∈ config.allowedIPAddressRanges ↔
      ∃ t ∈ splitTunnelSites c.vpnConfiguration, Daemon.parseRange (rangeOf t) = .ok (some r) := by
    rw [ranges_iff hread]
    simp [allowedIPAddressRanges,hown,htype]
  rw [hranges]
  constructor
  · rintro ⟨t,ht,hp⟩
    rcases c.mem_splitTunnelSites hdns ht with rfl | hf
    · rw [parseRange_empty] at hp
      cases hp
      exact Or.inl ⟨ht,rfl⟩
    · have hm := mem_filter.mpr ⟨ht,hf⟩
      obtain ⟨a,n,hn,hr,hq⟩ := parseRange_rangeOf hf (hvalid t hm)
      rw [hq] at hp
      cases hp
      exact Or.inr ⟨t,hm,a,n,hn,hr,rfl⟩
  · rintro (⟨ht,rfl⟩ | ⟨t,hm,a,n,-,hr,rfl⟩)
    · exact ⟨"",ht,parseRange_empty⟩
    · obtain ⟨ht,hf⟩ := mem_filter.mp hm
      obtain ⟨a',n',-,hr',hq⟩ := parseRange_rangeOf hf (hvalid t hm)
      cases hr.symm.trans hr'
      exact ⟨t,ht,hq⟩

/-- A tunnel for listed sites only, as long as they are not everything. -/
lemma agree_of_sites [LawfulQt] (hown : hasOwnAllowedIP c.vpnConfiguration = false) (hdns : c.PlainDns)
    (hvalid : (KillSwitch.blocknets c.firewallConfig).all isValidIpOrCidr)
    (htype : splitTunnelType c.vpnConfiguration = 1)
    (hsome : ∀ t ∈ splitTunnelSites c.vpnConfiguration, rangeOfText t ≠ some ⟨0,0⟩) :
    Agree c.firewallConfig (firewallParams config) := by
  have hk := c.splitTunnelType_eq
  have hnets : KillSwitch.blocknets c.firewallConfig =
      (splitTunnelSites c.vpnConfiguration).filter checkIpSubnetFormat := by
    simp [KillSwitch.blocknets,hk,htype,siteRanges_eq]
  rw [hnets,all_eq_true] at hvalid
  have hranges := mem_ranges_of_sites hread hown hdns hvalid htype
  have hany : anyAddress ∉ config.allowedIPAddressRanges := by
    intro hm
    rcases (hranges _).mp hm with ⟨-,he⟩ | ⟨t,ht,a,n,-,hr,he⟩
    · cases he
    · have hzero : 0 = a ∧ (0 : ℤ) = n := by
        simpa [anyAddress] using he
      have hn : n = 0 := by omega
      exact hsome t (mem_filter.mp ht).1 (by rw [hr,← hzero.1,hn])
  have hparams : firewallParams config = ⟨dnsServers config,false,false,true,[],
        config.allowedIPAddressRanges.map IPAddress.toString⟩ := by
    simp [firewallParams,hany]
  rw [hparams]
  refine ⟨by simp [KillSwitch.blockAll,hk,htype],by simp [KillSwitch.allowNets,hk,htype],
    by simp [KillSwitch.blockNets,hk,htype],by simp,fun _ a => ?_⟩
  rw [hnets]
  refine inTable_eq ?_ ?_ a
  · intro t ht
    obtain ⟨-,hf⟩ := mem_filter.mp ht
    obtain ⟨x,n,hn,hr,-⟩ := parseRange_rangeOf hf (hvalid t ht)
    have hm := (hranges ⟨.ipv4 x,n⟩).mpr (Or.inr ⟨t,ht,x,n,hn,hr,rfl⟩)
    refine Or.inr ⟨_,mem_map.mpr ⟨_,hm,rfl⟩,?_⟩
    rw [toString_ipv4,rangeOfText_cidr,if_pos hn,hr]
  · intro u hu
    obtain ⟨r,hr,rfl⟩ := mem_map.mp hu
    rcases (hranges r).mp hr with ⟨-,rfl⟩ | ⟨t,ht,x,n,hn,hrange,rfl⟩
    · left
      change rangeOfText (String.ofList ("".toList++ '/'::intChars 32)) = none
      decide
    · refine Or.inr ⟨t,ht,?_⟩
      rw [toString_ipv4,rangeOfText_cidr,if_pos hn,hrange]

/-- Without further DNS servers both writers let the same ones through. -/
lemma dnsServers_eq (hdns : KillSwitch.allowedDnsServers c.firewallConfig = []) (a : Address) :
    inTable (KillSwitch.dnsServers c.firewallConfig) a = inTable (dnsServers config) a := by
  have hempty : inText "" a = false := inText_of_none (by decide) a
  have h1 : KillSwitch.dns1 c.firewallConfig = config.primaryDnsServer := by
    rw [hread.primary,activate_primaryDnsServer]
    simp [KillSwitch.dns1,firewallConfig_eq]
  have h2 : KillSwitch.dns2 c.firewallConfig = config.secondaryDnsServer := by
    rw [hread.secondary,activate_secondaryDnsServer]
    simp only [KillSwitch.dns2,KillSwitch.dns1,firewallConfig_eq,JsonObject.value_insert]
    split_ifs <;> first | rfl | simp_all
  rw [KillSwitch.dnsServers,dnsServers,hdns,h1,h2,append_nil]
  cases hp : config.primaryDnsServer.isEmpty with
  | false => simp [inTable]
  | true =>
    have he := String.isEmpty_iff.mp hp
    simp [inTable,he,hempty]

/-- The daemon reads the kill switch as enabled. -/
lemma killSwitchEnabled_eq [LawfulQt] : config.killSwitchEnabled := by
  have hlower : Qt.toLower "true" = "true" :=
    LawfulQt.toLower_of_not_upper (all_iff_forall_prop.mp (by decide))
  rw [hread.killSwitch,activate_killSwitchOption,vpnConfiguration,
    VpnConnection.vpnConfiguration_killSwitchOption _ _ c.wireguard,c.killSwitch,if_pos rfl,
    Json.toString_str,Daemon.textToBool,hlower]
  decide

end Connection

section

variable [Qt]

/-- The firewall as the kill switch leaves it. -/
def byKillSwitch (c : Connection) (s : KillSwitch) : MacOSFirewall :=
  (s.enableKillSwitch c.firewallConfig 0).1.firewall

/-- The firewall as the daemon leaves it for a configured interface. -/
def byDaemon (config : InterfaceConfig) (s : KillSwitch) : MacOSFirewall :=
  (addInterface s config true).1.firewall

end

/-- Settings with the kill switch on, sites of one rule text, and no applications. -/
def sampleSettings (dnsServers : List String) (useAmneziaDns : Bool) (mode : RouteMode)
    (sites : List (String × List String)) : AppSettings where
  isKillSwitchEnabled := true
  getAllowedDnsServers := dnsServers
  isSitesSplitTunnelingEnabled := !sites.isEmpty
  routeMode := mode
  vpnSites _ := sites
  useAmneziaDns := useAmneziaDns
  isAppsSplitTunnelingEnabled := false
  appsRouteMode := .vpnAllApps
  vpnApps _ := []

def sampleConfig (dns : String) (allowedIps : List String) : JsonObject :=
  [("protocol",.str "wireguard"),("hostName",.str "203.0.113.10"),("dns1",.str dns),
   ("dns2",.str ""),
   ("wireguard_config_data",.obj [("hostName",.str "203.0.113.10"),
     ("client_priv_key",.str "a"),("client_ip",.str "10.8.0.2"),("server_pub_key",.str "b"),
     ("port",.num 51820),("allowed_ips",texts allowedIps)])]

def sample (dnsServers : List String) (useAmneziaDns : Bool) (mode : RouteMode)
    (sites : List (String × List String)) (dns : String) (allowedIps : List String) :
    @Connection dottedQt :=
  @Connection.mk dottedQt (sampleSettings dnsServers useAmneziaDns mode sites) "wireguard"
    (sampleConfig dns allowedIps) "203.0.113.10" (fun _ => []) rfl (Or.inr rfl) rfl rfl rfl
    (by decide)

def defaultIps : List String := ["0.0.0.0/0","::/0"]

lemma exists_ok {α : Type} {x : Except String α} (h : x.isOk) : ∃ a, x = .ok a := by
  cases x with
  | error e => cases h
  | ok a => exact ⟨a,rfl⟩

/-- A tunnel for one listed address. -/
def listedSite : @Connection dottedQt :=
  sample [] true .vpnOnlyForwardSites [("198.51.100.7",[])] "1.1.1.1" defaultIps

/-- Whether everything is blocked, whether an address is allowed, whether it may be
asked for names. -/
def seen (fw : MacOSFirewall) (a : Address) : List Bool :=
  [fw.enabled .blockAll,inTable (fw.tables .allowNets .allownets) a,
   inTable (fw.tables .blockDNS .dnsaddr) a]

/-- The daemon reads the configuration and leaves other rules than the kill switch. -/
def Differ (c : @Connection dottedQt) : Prop :=
  ∃ config, @Daemon.parseConfig dottedQt (activate
      (@Connection.vpnConfiguration dottedQt c)) = .ok config ∧
    ¬(SameRules (@byKillSwitch dottedQt c (.fresh false)) (@byDaemon dottedQt config (.fresh false)) ∧
      SameDns (@byKillSwitch dottedQt c (.fresh false)) (@byDaemon dottedQt config (.fresh false)))

lemma differ_of_seen {c : @Connection dottedQt} (a : Address) (view : List Bool)
    (hdaemon : (@Daemon.parseConfig dottedQt (activate
      (@Connection.vpnConfiguration dottedQt c))).toOption.map
        (fun config => seen (@byDaemon dottedQt config (.fresh false)) a) = some view)
    (hkill : seen (@byKillSwitch dottedQt c (.fresh false)) a ≠ view) : Differ c := by
  cases hp : @Daemon.parseConfig dottedQt (activate (@Connection.vpnConfiguration dottedQt c)) with
  | error e => simp [hp,Except.toOption] at hdaemon
  | ok config =>
    refine ⟨config,hp,?_⟩
    rintro ⟨hrules,hdns⟩
    have hview : seen (@byDaemon dottedQt config (.fresh false)) a = view := by
      simpa [hp,Except.toOption] using hdaemon
    apply hkill
    rw [← hview,seen,seen,hrules.enabled,hrules.allownets,hdns]

end AlzheimerVPN.RuleWriters
