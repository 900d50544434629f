import AlzheimerVPN.ConnectionLifecycle
import AlzheimerVPN.DaemonConfig
import AlzheimerVPN.RouteTable
import AlzheimerVPN.RouterMac

/-! The routes of an Xray connection on macOS: those of `setupRouting`, of the handling of
`Connected` and of the site list, as `RouterMac` adds them to the table of the kernel. -/
namespace AlzheimerVPN

open Text IpText Address VpnConnection NetworkUtilities List

/-- The mask, as the number of its leading ones. -/
def NetworkUtilities.netMaskFromIpWithSubnet (ip : String) : ℕ :=
  (boundedOfText 32 ((split ip '/').getD 1 "")).getD 32

/-- The table of the kernel. -/
abbrev KernelRoutes := RouteTable 32 String

namespace KernelRoutes

section

variable [Qt]

/-- The destination of a route command; the command reads the address that was checked. -/
def destination (ipWithSubnet : String) : Option (AddressRange 32) :=
  let ip := ipAddressFromIpWithSubnet ipWithSubnet
  if checkIPv4Format ip then
    match Qt.hostAddress ip with
    | .ipv4 a => some ⟨a,netMaskFromIpWithSubnet ipWithSubnet⟩
    | _ => none
  else none

/-- `RouterMac::routeAdd`; the answer `EEXIST` of the command counts as success. -/
def routeAdd (ipWithSubnet gw : String) (table : KernelRoutes) : Bool × KernelRoutes :=
  if checkIPv4Format gw then
    match destination ipWithSubnet with
    | some range => (true,table.add ⟨range,gw⟩)
    | none => (false,table)
  else (false,table)

def routeAddList (gw : String) : List String → KernelRoutes → ℕ × KernelRoutes
  | [],table => (0,table)
  | ip::ips,table =>
    let added := routeAdd ip gw table
    let rest := routeAddList gw ips added.2
    ((if added.1 then 1 else 0)+rest.1,rest.2)

/-- The route to all addresses is never deleted. -/
def routeDelete (ipWithSubnet gw : String) (table : KernelRoutes) : KernelRoutes :=
  if checkIPv4Format gw then
    match destination ipWithSubnet with
    | some range => if ipWithSubnet == "0.0.0.0/0" then table else table.delete range
    | none => table
  else table

def routeDeleteList (gw : String) (ips : List String) (table : KernelRoutes) : KernelRoutes :=
  ips.foldl (fun table ip => routeDelete ip gw table) table

end

end KernelRoutes

/-- The table, and whether each request so far was answered with the number of its
addresses. -/
structure RouteRequests where
  table : KernelRoutes
  accepted : Bool
  deriving DecidableEq

namespace RouteRequests

variable [Qt] (s : RouteRequests)

def empty : RouteRequests := ⟨[],true⟩

def routeAddList (gw : String) (ips : List String) : ℕ × RouteRequests :=
  let reply := KernelRoutes.routeAddList gw ips s.table
  (reply.1,⟨reply.2,s.accepted && reply.1 == ips.length⟩)

def routeDeleteList (gw : String) (ips : List String) : RouteRequests :=
  {s with table := KernelRoutes.routeDeleteList gw ips s.table}

end RouteRequests

structure XrayProtocol where
  vpnGateway : String
  routeGateway : String
  routeMode : ℤ
  rawConfig : JsonObject
  stopRequested : Bool

/-- Whether each other request of `setupRouting` is answered in time and with success,
and nobody has asked to stop meanwhile. -/
structure SetupReplies where
  reached : Bool
  createTun : Bool
  updateResolvers : Bool
  enableKillSwitch : Bool
  stopRoutingIpv6 : Bool

namespace XrayProtocol

open Lifecycle

def defaultLocalAddr : String := "10.33.0.2"

/-- A new object; `gateway` is what `getGatewayAndIface` finds. -/
def new (configuration : JsonObject) (gateway : String) : XrayProtocol where
  vpnGateway := defaultLocalAddr
  routeGateway := gateway
  routeMode := (configuration.value "splitTunnelType").toInt
  rawConfig := configuration
  stopRequested := false

def subnets : List String :=
  ["1.0.0.0/8","2.0.0.0/7","4.0.0.0/6","8.0.0.0/5","16.0.0.0/4","32.0.0.0/3","64.0.0.0/2",
    "128.0.0.0/1"]

def setupRouting [Qt] (p : XrayProtocol) (replies : SetupReplies) (s : RouteRequests) :
    ErrorCode × RouteRequests :=
  let killSwitchEnabled := Daemon.textToBool (p.rawConfig.value "killSwitchOption").toString
  if !replies.reached then (.amneziaServiceConnectionFailed,s)
  else if p.stopRequested then (.noError,s)
  else if !replies.createTun then (.internalError,s)
  else if !replies.updateResolvers then (.internalError,s)
  else if killSwitchEnabled && !replies.enableKillSwitch then (.internalError,s)
  else if p.routeMode == RouteMode.vpnAllSites.toInt then
    let reply := s.routeAddList p.vpnGateway subnets
    if reply.1 != subnets.length then (.internalError,reply.2)
    else if !replies.stopRoutingIpv6 then (.internalError,reply.2)
    else (.noError,reply.2)
  else if !replies.stopRoutingIpv6 then (.internalError,s)
  else (.noError,s)

end XrayProtocol

namespace VpnConnection

section

open Lifecycle

variable [Qt] (settings : AppSettings) (resolved : RouteMode → List String)

/-- `addSitesRoutes`, with the request of `addSplitTunnelRoutes`. -/
def addSitesRoutes (gw : String) (mode : RouteMode) (s : RouteRequests) : RouteRequests :=
  let ips := ((settings.vpnSites mode).flatMap entrySites).eraseDups
  if ips.isEmpty then s else (s.routeAddList gw ips).2

/-- The routes the service adds once it is told the host rules, to the addresses these
have resolved to; without a gateway it adds none. -/
def configureDnsSplitTunnel (gw : String) (mode : RouteMode) (s : RouteRequests) : RouteRequests :=
  if gw.isEmpty then s
  else {s with table := (KernelRoutes.routeAddList gw (resolved mode) s.table).2}

/-- The routes of `Connected`, with the single shot that routes the forwarded sites. -/
def connectedRoutes (container : DockerContainer) (p : XrayProtocol)
    (dns1 dns2 remoteAddress : String) (s : RouteRequests) : RouteRequests :=
  if isAwgContainer container || container == .wireGuard then s
  else
    let s :=
      if !settings.isSitesSplitTunnelingEnabled || settings.routeMode != .vpnAllExceptSites then
        (s.routeAddList p.vpnGateway [dns1,dns2]).2
      else s
    if settings.isSitesSplitTunnelingEnabled then
      let s := s.routeDeleteList p.vpnGateway ["0.0.0.0"]
      match settings.routeMode with
      | .vpnOnlyForwardSites =>
        addSitesRoutes settings p.vpnGateway .vpnOnlyForwardSites
          (configureDnsSplitTunnel resolved p.vpnGateway .vpnOnlyForwardSites s)
      | .vpnAllExceptSites =>
        let s := (s.routeAddList p.vpnGateway ["0.0.0.0/1"]).2
        let s := (s.routeAddList p.vpnGateway ["128.0.0.0/1"]).2
        let s := (s.routeAddList p.routeGateway [remoteAddress]).2
        let s := (s.routeAddList p.routeGateway [dns1,dns2]).2
        addSitesRoutes settings p.routeGateway .vpnAllExceptSites
          (configureDnsSplitTunnel resolved p.routeGateway .vpnAllExceptSites s)
      | .vpnAllSites => s
    else configureDnsSplitTunnel resolved "" .vpnAllSites s

/-- The routes of a connection that has come up, with `configuration` the one the protocol
was started with. -/
def xrayRoutes (container : DockerContainer) (configuration : JsonObject) (routeGateway : String)
    (fromName : String → List HostAddress) (replies : SetupReplies) : RouteRequests :=
  let p := XrayProtocol.new configuration routeGateway
  connectedRoutes settings resolved container p (configuration.value "dns1").toString
    (configuration.value "dns2").toString
    (getIPAddress fromName (configuration.value "hostName").toString)
    (p.setupRouting replies .empty).2

end

end VpnConnection

namespace KernelRoutes

section

variable [Qt] {gw t : String} {ips : List String} {table : KernelRoutes} {r : Route 32 String}
  {range : AddressRange 32}

lemma mem_routeAdd (h : r ∈ (routeAdd t gw table).2) :
    r ∈ table ∨ r.gateway = gw ∧ destination t = some r.destination := by
  rw [routeAdd] at h
  split at h
  · split at h
    · rename_i range hrange
      rcases RouteTable.mem_add h with h | rfl
      · exact .inl h
      · exact .inr ⟨rfl,hrange⟩
    · exact .inl h
  · exact .inl h

lemma mem_routeAdd_of_mem (h : r ∈ table) : r ∈ (routeAdd t gw table).2 := by
  rw [routeAdd]
  split
  · split
    · exact RouteTable.mem_add_of_mem _ h
    · exact h
  · exact h

/-- Every route is an old one or one of the request. -/
lemma mem_routeAddList (h : r ∈ (routeAddList gw ips table).2) :
    r ∈ table ∨ r.gateway = gw ∧ ∃ t ∈ ips, destination t = some r.destination := by
  induction ips generalizing table with
  | nil => exact .inl h
  | cons t ips ih =>
    rcases ih h with h | ⟨hg,u,hu,hrange⟩
    · rcases mem_routeAdd h with h | ⟨hg,hrange⟩
      · exact .inl h
      · exact .inr ⟨hg,t,mem_cons_self,hrange⟩
    · exact .inr ⟨hg,u,mem_cons_of_mem t hu,hrange⟩

lemma mem_routeAddList_of_mem (h : r ∈ table) : r ∈ (routeAddList gw ips table).2 := by
  induction ips generalizing table with
  | nil => exact h
  | cons t ips ih => exact ih (mem_routeAdd_of_mem h)

variable (table) in
/-- Every destination of the request is routed afterwards. -/
lemma exists_mem_routeAddList (hgw : checkIPv4Format gw) (ht : t ∈ ips)
    (hrange : destination t = some range) :
    ∃ r ∈ (routeAddList gw ips table).2, r.destination.same range := by
  induction ips generalizing table with
  | nil => simp at ht
  | cons u ips ih =>
    rcases mem_cons.mp ht with rfl | ht
    · obtain ⟨r,hr,hsame⟩ := RouteTable.exists_mem_add table ⟨range,gw⟩
      have hadd : routeAdd t gw table = (true,table.add ⟨range,gw⟩) := by
        rw [routeAdd,if_pos hgw,hrange]
      refine ⟨r,?_,hsame⟩
      rw [routeAddList,hadd]
      exact mem_routeAddList_of_mem hr
    · exact ih _ ht

lemma routeAddList_count (gw : String) (ips : List String) (table : KernelRoutes) :
    (routeAddList gw ips table).1 =
      ips.countP fun t => checkIPv4Format gw && (destination t).isSome := by
  induction ips generalizing table with
  | nil => rfl
  | cons t ips ih =>
    have hadd : (routeAdd t gw table).1 = (checkIPv4Format gw && (destination t).isSome) := by
      rw [routeAdd]
      split
      · rename_i hgw
        cases hrange : destination t <;> simp [hgw]
      · rename_i hgw
        simp [hgw]
    rw [routeAddList,countP_cons,ih,hadd,add_comm]

end

section

variable {table : KernelRoutes} {a : BitVec 32} {g : String}

def Hosts (a : BitVec 32) (table : KernelRoutes) : Prop :=
  ∃ r ∈ table, r.destination = ⟨a,32⟩

/-- No host is routed past the gateway. -/
def HostsVia (g : String) (table : KernelRoutes) : Prop :=
  ∀ r ∈ table, 32 ≤ r.destination.prefixLength → r.gateway = g

/-- A host that is routed takes its own route. -/
lemma Hosts.lookup (h : Hosts a table) (hvia : HostsVia g table) : table.lookup a = some g := by
  obtain ⟨r,hr,hrange⟩ := h
  have ha : r.destination.contains a := by
    rw [hrange,AddressRange.contains_host]
  have hlen : r.destination.prefixLength = 32 := by rw [hrange]
  exact RouteTable.lookup_eq_some hr ha fun q hq _ hle => hvia q hq (hlen.ge.trans hle)

variable [Qt] {gw dns : String} {ips : List String}

/-- The text of a DNS server; a text with a slash is no address. -/
structure IsServer (dns : String) (a : BitVec 32) : Prop where
  address : Qt.hostAddress dns = .ipv4 a
  plain : '/' ∉ dns.toList

lemma IsServer.destination (h : IsServer dns a) (hd : (destination dns).isSome) :
    KernelRoutes.destination dns = some ⟨a,32⟩ := by
  have hsplit : split dns '/' = [dns] := split_eq_singleton h.plain
  have hmask : netMaskFromIpWithSubnet dns = 32 := by
    rw [netMaskFromIpWithSubnet,hsplit]
    rfl
  by_cases hcount : dns.toList.count '.' = 3
  · have hip : ipAddressFromIpWithSubnet dns = dns := by
      simp [ipAddressFromIpWithSubnet,hcount,hsplit]
    have hcheck : checkIPv4Format dns := by
      by_contra hcheck
      simp [KernelRoutes.destination,hip,hcheck] at hd
    simp [KernelRoutes.destination,hip,hcheck,h.address,hmask]
  · have hip : ipAddressFromIpWithSubnet dns = "" := by
      simp [ipAddressFromIpWithSubnet,hcount]
    simp [KernelRoutes.destination,hip,checkIPv4Format] at hd

end

section

variable [Qt] [LawfulQt]

lemma checkIPv4Format_dotted (a : BitVec 32) : checkIPv4Format (dotted a) := by
  have hslash : containsChar (dotted a) '/' = false := by
    simpa [containsChar,dotted] using slash_not_mem_dotted a
  simpa [checkIpSubnetFormat,hslash] using checkIpSubnetFormat_dotted a

lemma destination_of_dotted {t : String} {a : BitVec 32}
    (ht : ipAddressFromIpWithSubnet t = dotted a) :
    destination t = some ⟨a,netMaskFromIpWithSubnet t⟩ := by
  rw [destination,ht,if_pos (checkIPv4Format_dotted a),LawfulQt.hostAddress_dotted]

lemma destination_unspecified : destination "0.0.0.0" = some ⟨0,32⟩ :=
  destination_of_dotted (by decide +kernel)

lemma routeDeleteList_unspecified {gw : String} (hgw : checkIPv4Format gw)
    (table : KernelRoutes) : routeDeleteList gw ["0.0.0.0"] table = table.delete ⟨0,32⟩ := by
  simp [routeDeleteList,routeDelete,hgw,destination_unspecified]

lemma checkIPv4Format_defaultLocalAddr : checkIPv4Format XrayProtocol.defaultLocalAddr := by
  have hlocal : XrayProtocol.defaultLocalAddr = dotted (ofOctets 10 33 0 2) := by decide +kernel
  rw [hlocal]
  exact checkIPv4Format_dotted _

/-- The subnets of the tunnel leave out the addresses that begin with zero. -/
lemma subnets_unspecified {t : String} (ht : t ∈ XrayProtocol.subnets)
    {range : AddressRange 32} (hrange : destination t = some range) : range.contains 0 = false := by
  have hbase : ∀ t ∈ XrayProtocol.subnets, ∃ n < 8,
      ipAddressFromIpWithSubnet t = dotted (BitVec.ofNat 32 (2^(24+n))) ∧
      (⟨BitVec.ofNat 32 (2^(24+n)),netMaskFromIpWithSubnet t⟩ :
        AddressRange 32).contains 0 = false := by decide +kernel
  obtain ⟨n,-,hip,hzero⟩ := hbase t ht
  rw [destination_of_dotted hip,Option.some.injEq] at hrange
  exact hrange ▸ hzero

end

lemma subnets_length {t : String} (ht : t ∈ XrayProtocol.subnets) :
    netMaskFromIpWithSubnet t < 32 := by
  revert t
  decide +kernel

lemma destination_length [Qt] {t : String} {range : AddressRange 32}
    (h : destination t = some range) : range.prefixLength = netMaskFromIpWithSubnet t := by
  simp only [destination] at h
  split_ifs at h
  split at h
  · rw [← Option.some.inj h]
  · cases h

end KernelRoutes

namespace RouteRequests

variable [Qt] {s : RouteRequests} {gw : String} {ips : List String}

lemma accepted_routeAddList (h : (s.routeAddList gw ips).2.accepted) : s.accepted ∧ ∀ t ∈ ips,
      checkIPv4Format gw ∧ (KernelRoutes.destination t).isSome := by
  simp only [routeAddList,Bool.and_eq_true,beq_iff_eq,KernelRoutes.routeAddList_count,
    countP_eq_length] at h
  exact h

end RouteRequests

namespace VpnConnection

open KernelRoutes

section

variable [Qt] (settings : AppSettings) (resolved : RouteMode → List String)

/-- The texts that are routed for a list of sites. -/
def siteTexts (mode : RouteMode) : List String :=
  (settings.vpnSites mode).flatMap entrySites++resolved mode

/-- The address is covered by an entry of the list. -/
def Listed (mode : RouteMode) (a : BitVec 32) : Prop :=
  ∃ t ∈ siteTexts settings resolved mode, (destination t).any (fun range => range.contains a)

instance (mode : RouteMode) (a : BitVec 32) : Decidable (Listed settings resolved mode a) :=
  inferInstanceAs (Decidable (∃ t ∈ siteTexts settings resolved mode, _))

abbrev routedSites (gw : String) (mode : RouteMode) (s : RouteRequests) : RouteRequests :=
  addSitesRoutes settings gw mode (configureDnsSplitTunnel resolved gw mode s)

lemma addSitesRoutes_table (gw : String) (mode : RouteMode) (s : RouteRequests) :
    (addSitesRoutes settings gw mode s).table =
      (routeAddList gw ((settings.vpnSites mode).flatMap entrySites).eraseDups s.table).2 := by
  rw [addSitesRoutes]
  split_ifs with hnone
  · rw [isEmpty_iff.mp hnone]
    rfl
  · rfl

variable {settings resolved} {gw t : String} {mode : RouteMode} {s : RouteRequests}
  {r : Route 32 String}

lemma accepted_siteRoutes (h : (routedSites settings resolved gw mode s).accepted) :
    s.accepted := by
  have hconfigured (s : RouteRequests) :
      (configureDnsSplitTunnel resolved gw mode s).accepted = s.accepted := by
    rw [configureDnsSplitTunnel]
    split <;> rfl
  rw [routedSites,addSitesRoutes] at h
  split at h
  · exact hconfigured s ▸ h
  · exact hconfigured s ▸ (RouteRequests.accepted_routeAddList h).1

lemma mem_siteRoutes (h : r ∈ (routedSites settings resolved gw mode s).table) :
    r ∈ s.table ∨ r.gateway = gw ∧ ∃ t ∈ siteTexts settings resolved mode,
      destination t = some r.destination := by
  have hconfigured (h : r ∈ (configureDnsSplitTunnel resolved gw mode s).table) :
      r ∈ s.table ∨ r.gateway = gw ∧ ∃ t ∈ siteTexts settings resolved mode,
        destination t = some r.destination := by
    rw [configureDnsSplitTunnel] at h
    split at h
    · exact .inl h
    · exact (mem_routeAddList h).imp_right fun ⟨hg,t,ht,hrange⟩ =>
        ⟨hg,t,mem_append_right _ ht,hrange⟩
  rw [addSitesRoutes_table] at h
  rcases mem_routeAddList h with h | ⟨hg,t,ht,hrange⟩
  · exact hconfigured h
  · exact .inr ⟨hg,t,mem_append_left _ (mem_eraseDups.mp ht),hrange⟩

lemma mem_siteRoutes_of_mem (h : r ∈ s.table) :
    r ∈ (routedSites settings resolved gw mode s).table := by
  rw [addSitesRoutes_table,configureDnsSplitTunnel]
  split
  · exact mem_routeAddList_of_mem h
  · exact mem_routeAddList_of_mem (mem_routeAddList_of_mem h)

/-- Every address of the list is routed. -/
lemma exists_mem_siteRoutes (hgw : checkIPv4Format gw) {a : BitVec 32}
    (h : Listed settings resolved mode a) : ∃ r ∈ (routedSites settings resolved gw mode s).table,
      r.destination.contains a := by
  obtain ⟨t,ht,hcontains⟩ := h
  obtain ⟨range,hrange,ha⟩ := (Option.any_eq_true _ _).mp hcontains
  have hne : gw.isEmpty = false := by
    cases hempty : gw.isEmpty with
    | false => rfl
    | true => simp [checkIPv4Format,hempty] at hgw
  rw [addSitesRoutes_table]
  rcases mem_append.mp ht with ht | ht
  · obtain ⟨r,hr,hsame⟩ := exists_mem_routeAddList _ hgw (mem_eraseDups.mpr ht) hrange
    exact ⟨r,hr,(AddressRange.contains_of_same hsame a).trans ha⟩
  · obtain ⟨r,hr,hsame⟩ := exists_mem_routeAddList s.table hgw ht hrange
    refine ⟨r,mem_routeAddList_of_mem ?_,(AddressRange.contains_of_same hsame a).trans ha⟩
    rwa [configureDnsSplitTunnel,if_neg (by simp [hne])]

end

section

open Lifecycle

variable [Qt] {settings : AppSettings} {resolved : RouteMode → List String}

/-- The routes are those of `setupRouting`. -/
def IsSetup (p : XrayProtocol) (s : RouteRequests) : Prop :=
  ∀ r ∈ s.table, r.gateway = p.vpnGateway ∧
    ∃ t ∈ XrayProtocol.subnets, destination t = some r.destination

/-- The routes of `setupRouting` lead into the tunnel. -/
lemma isSetup_setupRouting {p : XrayProtocol} : IsSetup p (p.setupRouting replies .empty).2 := by
  have hnone : IsSetup p .empty := fun r hr => by simp [RouteRequests.empty] at hr
  have hrouted : IsSetup p (RouteRequests.empty.routeAddList p.vpnGateway XrayProtocol.subnets).2 :=
    fun r hr => (mem_routeAddList hr).resolve_left (by simp [RouteRequests.empty])
  simp only [XrayProtocol.setupRouting]
  split_ifs <;> first | exact hnone | exact hrouted

variable (settings resolved) in
/-- When a server is reached through the tunnel: not in the mode that excludes sites,
and not if it is the address whose route is deleted. -/
def Tunnelled (routeGateway : String) (a : BitVec 32) : Prop :=
  settings.isSitesSplitTunnelingEnabled →
    match settings.routeMode with
    | .vpnAllSites => a ≠ 0
    | .vpnOnlyForwardSites => a = 0 → Listed settings resolved .vpnOnlyForwardSites a
    | .vpnAllExceptSites => routeGateway = XrayProtocol.defaultLocalAddr

section

variable {s : RouteRequests} {gw dns dns1 dns2 : String} {a b c : BitVec 32}
  (ha : IsServer dns1 a) (hb : IsServer dns2 b)

include ha hb in
/-- Both servers are routed by an accepted request. -/
lemma hosts_servers (h : (s.routeAddList gw [dns1,dns2]).2.accepted) (hc : c ∈ [a,b]) :
    Hosts c (s.routeAddList gw [dns1,dns2]).2.table := by
  have hvalid := (RouteRequests.accepted_routeAddList h).2
  have hhost {dns : String} {d : BitVec 32} (hm : dns ∈ [dns1,dns2]) (hd : IsServer dns d) :
      Hosts d (s.routeAddList gw [dns1,dns2]).2.table := by
    obtain ⟨hgw,hsome⟩ := hvalid dns hm
    obtain ⟨r,hr,hsame⟩ := exists_mem_routeAddList s.table hgw hm (hd.destination hsome)
    exact ⟨r,hr,AddressRange.same_host.mp hsame⟩
  rcases mem_pair.mp hc with rfl | rfl
  · exact hhost (by simp) ha
  · exact hhost (by simp) hb

include ha hb in
lemma mem_servers (h : (s.routeAddList gw [dns1,dns2]).2.accepted) {r : Route 32 String}
    (hr : r ∈ (s.routeAddList gw [dns1,dns2]).2.table) :
    r ∈ s.table ∨ r.gateway = gw ∧ (r.destination = ⟨a,32⟩ ∨ r.destination = ⟨b,32⟩) := by
  have hvalid := (RouteRequests.accepted_routeAddList h).2
  rcases mem_routeAddList hr with hr | ⟨hg,t,ht,hrange⟩
  · exact .inl hr
  · refine .inr ⟨hg,?_⟩
    rcases mem_pair.mp ht with rfl | rfl
    · rw [ha.destination (hvalid t ht).2,Option.some.injEq] at hrange
      exact .inl hrange.symm
    · rw [hb.destination (hvalid t ht).2,Option.some.injEq] at hrange
      exact .inr hrange.symm

end

section

variable {container : DockerContainer} {p : XrayProtocol} {s : RouteRequests}
  {dns1 dns2 remoteAddress : String} {a b c : BitVec 32} {routes : RouteRequests}

variable (ha : IsServer dns1 a) (hb : IsServer dns2 b) (hs : IsSetup p s)
  (hx : container = .xray ∨ container = .ssXray) (hc : c ∈ [a,b])
  (hroutes : routes = connectedRoutes settings resolved container p dns1 dns2 remoteAddress s)
  (haccepted : routes.accepted)

include hs ha hb in
lemma servers_via (h : (s.routeAddList p.vpnGateway [dns1,dns2]).2.accepted)
    {r : Route 32 String} (hr : r ∈ (s.routeAddList p.vpnGateway [dns1,dns2]).2.table) :
    r.gateway = p.vpnGateway := by
  rcases mem_servers ha hb h hr with hr | hr
  · exact (hs r hr).1
  · exact hr.1

include ha hb hs hx hc hroutes haccepted in
lemma lookup_unsplit (hsplit : settings.isSitesSplitTunnelingEnabled = false) :
    routes.table.lookup c = some p.vpnGateway := by
  have hrouted : routes = (s.routeAddList p.vpnGateway [dns1,dns2]).2 := by
    rcases hx with rfl | rfl <;>
      simp [hroutes,connectedRoutes,isAwgContainer,hsplit,configureDnsSplitTunnel]
  rw [hrouted] at haccepted ⊢
  exact (hosts_servers ha hb haccepted hc).lookup fun r hr _ => servers_via ha hb hs haccepted hr

variable [LawfulQt]

/-- The servers without the address whose route is deleted. -/
def servers (p : XrayProtocol) (dns1 dns2 : String) (s : RouteRequests) : RouteRequests :=
  (s.routeAddList p.vpnGateway [dns1,dns2]).2.routeDeleteList p.vpnGateway ["0.0.0.0"]

section

variable (hgw : checkIPv4Format p.vpnGateway)
  (h : (servers p dns1 dns2 s).accepted)

include hgw in
lemma mem_deleted {r : Route 32 String} : r ∈ (servers p dns1 dns2 s).table ↔
    r ∈ (s.routeAddList p.vpnGateway [dns1,dns2]).2.table ∧ r.destination ≠ ⟨0,32⟩ := by
  have hsame : r.destination.same ⟨0,32⟩ = false ↔ r.destination ≠ ⟨0,32⟩ := by
    rw [Ne,← AddressRange.same_host,Bool.not_eq_true]
  rw [servers,RouteRequests.routeDeleteList,routeDeleteList_unspecified hgw,RouteTable.mem_delete,
    hsame]

include ha hb hgw hc h in
lemma hosts_deleted (hne : c ≠ 0) : Hosts c (servers p dns1 dns2 s).table := by
  obtain ⟨r,hr,hrange⟩ := hosts_servers ha hb h hc
  refine ⟨r,(mem_deleted hgw).mpr ⟨hr,fun hzero => hne ?_⟩,hrange⟩
  exact congrArg AddressRange.base (hrange.symm.trans hzero)

include ha hb hs hgw h in
lemma unspecified_deleted {r : Route 32 String} (hr : r ∈ (servers p dns1 dns2 s).table) :
    r.destination.contains 0 = false := by
  obtain ⟨hmem,hne⟩ := (mem_deleted hgw).mp hr
  have hhost {d : BitVec 32} (hd : r.destination = ⟨d,32⟩) : r.destination.contains 0 = false := by
    rw [hd] at hne ⊢
    refine Bool.eq_false_iff.mpr fun hzero => hne ?_
    rw [AddressRange.contains_host.mp hzero]
  rcases mem_servers ha hb h hmem with hmem | ⟨-,hd | hd⟩
  · obtain ⟨-,t,ht,hrange⟩ := hs r hmem
    exact subnets_unspecified ht hrange
  · exact hhost hd
  · exact hhost hd

end

variable (hgw : checkIPv4Format p.vpnGateway)
  (hsplit : settings.isSitesSplitTunnelingEnabled)

include ha hb hs hx hc hroutes haccepted hgw hsplit in
lemma lookup_allSites (hmode : settings.routeMode = .vpnAllSites) :
    routes.table.lookup c = some p.vpnGateway ↔ c ≠ 0 := by
  have hrouted : routes = servers p dns1 dns2 s := by
    rcases hx with rfl | rfl <;> simp [hroutes,connectedRoutes,isAwgContainer,hsplit,hmode,servers]
  rw [hrouted] at haccepted ⊢
  constructor
  · rintro hlookup rfl
    obtain ⟨r,hr,hzero,-⟩ := RouteTable.exists_of_lookup hlookup
    rw [unspecified_deleted ha hb hs hgw haccepted hr] at hzero
    cases hzero
  · intro hne
    exact (hosts_deleted ha hb hc hgw haccepted hne).lookup fun r hr _ =>
      servers_via ha hb hs haccepted ((mem_deleted hgw).mp hr).1

include ha hb hs hx hc hroutes haccepted hgw hsplit in
lemma lookup_forward (hmode : settings.routeMode = .vpnOnlyForwardSites) :
    routes.table.lookup c = some p.vpnGateway ↔
      (c = 0 → Listed settings resolved .vpnOnlyForwardSites c) := by
  have hrouted : routes =
      routedSites settings resolved p.vpnGateway .vpnOnlyForwardSites (servers p dns1 dns2 s) := by
    rcases hx with rfl | rfl <;> simp [hroutes,connectedRoutes,isAwgContainer,hsplit,hmode,servers]
  rw [hrouted] at haccepted ⊢
  have hservers := accepted_siteRoutes haccepted
  have hvia : ∀ r ∈ (routedSites settings resolved p.vpnGateway .vpnOnlyForwardSites
      (servers p dns1 dns2 s)).table, r.gateway = p.vpnGateway := by
    intro r hr
    rcases mem_siteRoutes hr with hr | hr
    · exact servers_via ha hb hs hservers ((mem_deleted hgw).mp hr).1
    · exact hr.1
  constructor
  · rintro hlookup rfl
    obtain ⟨r,hr,hzero,-⟩ := RouteTable.exists_of_lookup hlookup
    rcases mem_siteRoutes hr with hr | ⟨-,t,ht,hrange⟩
    · rw [unspecified_deleted ha hb hs hgw hservers hr] at hzero
      cases hzero
    · exact ⟨t,ht,by rw [hrange]; exact hzero⟩
  · intro hlisted
    by_cases hzero : c = 0
    · obtain ⟨r,hr,hcontains⟩ := exists_mem_siteRoutes hgw (hlisted hzero)
      exact RouteTable.lookup_eq_some hr hcontains fun q hq _ _ => hvia q hq
    · obtain ⟨r,hr,hrange⟩ := hosts_deleted ha hb hc hgw hservers hzero
      exact Hosts.lookup ⟨r,mem_siteRoutes_of_mem hr,hrange⟩ fun r hr _ => hvia r hr

/-- The routes of the mode that excludes sites before the servers are routed. -/
def halves (p : XrayProtocol) (remoteAddress : String) (s : RouteRequests) : RouteRequests :=
  let s := s.routeDeleteList p.vpnGateway ["0.0.0.0"]
  let s := (s.routeAddList p.vpnGateway ["0.0.0.0/1"]).2
  let s := (s.routeAddList p.vpnGateway ["128.0.0.0/1"]).2
  (s.routeAddList p.routeGateway [remoteAddress]).2

include hs hgw in
lemma halves_via : HostsVia p.routeGateway (halves p remoteAddress s).table := by
  have hshort {t : String} {r : Route 32 String} (ht : destination t = some r.destination)
      (hlen : netMaskFromIpWithSubnet t < 32)
      (hr : 32 ≤ r.destination.prefixLength) : r.gateway = p.routeGateway := by
    rw [destination_length ht] at hr
    omega
  intro r hr hlen
  rcases mem_routeAddList hr with hr | hr
  · rcases mem_routeAddList hr with hr | ⟨-,t,ht,hrange⟩
    · rcases mem_routeAddList hr with hr | ⟨-,t,ht,hrange⟩
      · rw [RouteRequests.routeDeleteList,routeDeleteList_unspecified hgw,
          RouteTable.mem_delete] at hr
        obtain ⟨-,t,ht,hrange⟩ := hs r hr.1
        exact hshort hrange (subnets_length ht) hlen
      · rw [mem_singleton] at ht
        exact hshort hrange (ht ▸ by decide +kernel) hlen
    · rw [mem_singleton] at ht
      exact hshort hrange (ht ▸ by decide +kernel) hlen
  · exact hr.1

include ha hb hs hx hc hroutes haccepted hgw hsplit in
/-- In the mode that excludes sites the servers are reached past the tunnel. -/
lemma lookup_except (hmode : settings.routeMode = .vpnAllExceptSites) :
    routes.table.lookup c = some p.routeGateway := by
  have hrouted : routes = routedSites settings resolved p.routeGateway .vpnAllExceptSites
        ((halves p remoteAddress s).routeAddList p.routeGateway [dns1,dns2]).2 := by
    rcases hx with rfl | rfl <;> simp [hroutes,connectedRoutes,isAwgContainer,hsplit,hmode,halves]
  rw [hrouted] at haccepted ⊢
  have hservers := accepted_siteRoutes haccepted
  obtain ⟨r,hr,hrange⟩ := hosts_servers ha hb hservers hc
  refine Hosts.lookup ⟨r,mem_siteRoutes_of_mem hr,hrange⟩ fun q hq hlen => ?_
  rcases mem_siteRoutes hq with hq | hq
  · rcases mem_routeAddList hq with hq | hq
    · exact halves_via hs hgw q hq hlen
    · exact hq.1
  · exact hq.1

end

variable [LawfulQt] {container : DockerContainer} {configuration : JsonObject}
  {routeGateway : String} {fromName : String → List HostAddress} {replies : SetupReplies}
  {a b c : BitVec 32}

/-- A DNS server is reached through the tunnel exactly as `Tunnelled` says. -/
lemma lookup_server_iff (hx : container = .xray ∨ container = .ssXray)
    (haccepted : (xrayRoutes settings resolved container configuration routeGateway fromName
      replies).accepted)
    (ha : IsServer (configuration.value "dns1").toString a)
    (hb : IsServer (configuration.value "dns2").toString b) (hc : c ∈ [a,b]) :
    (xrayRoutes settings resolved container configuration routeGateway fromName
      replies).table.lookup c = some XrayProtocol.defaultLocalAddr ↔
      Tunnelled settings resolved routeGateway c := by
  have hs := @isSetup_setupRouting _ replies (XrayProtocol.new configuration routeGateway)
  have hgw : checkIPv4Format (XrayProtocol.new configuration routeGateway).vpnGateway :=
    checkIPv4Format_defaultLocalAddr
  cases hsplit : settings.isSitesSplitTunnelingEnabled with
  | false =>
    have htunnelled : Tunnelled settings resolved routeGateway c := by simp [Tunnelled,hsplit]
    exact iff_of_true (lookup_unsplit ha hb hs hx hc rfl haccepted hsplit) htunnelled
  | true =>
    cases hmode : settings.routeMode with
    | vpnAllSites =>
      have htunnelled : Tunnelled settings resolved routeGateway c ↔ c ≠ 0 := by
        simp [Tunnelled,hsplit,hmode]
      exact (lookup_allSites ha hb hs hx hc rfl haccepted hgw hsplit hmode).trans htunnelled.symm
    | vpnOnlyForwardSites =>
      have htunnelled : Tunnelled settings resolved routeGateway c ↔
          (c = 0 → Listed settings resolved .vpnOnlyForwardSites c) := by
        simp [Tunnelled,hsplit,hmode]
      exact (lookup_forward ha hb hs hx hc rfl haccepted hgw hsplit hmode).trans htunnelled.symm
    | vpnAllExceptSites =>
      have hlookup := lookup_except ha hb hs hx hc rfl haccepted hgw hsplit hmode
      rw [xrayRoutes,hlookup]
      simp [Tunnelled,hsplit,hmode,XrayProtocol.new]

/-- The DNS servers that no excluded site covers are reached through the tunnel, unless
sites are excluded from it or the server has the address whose route is deleted. -/
theorem dns_servers_tunnelled_iff (hx : container = .xray ∨ container = .ssXray)
    (haccepted : (xrayRoutes settings resolved container configuration routeGateway fromName
      replies).accepted)
    (ha : IsServer (configuration.value "dns1").toString a)
    (hb : IsServer (configuration.value "dns2").toString b) :
    (∀ c ∈ [a,b], Listed settings resolved .vpnAllExceptSites c ∨
      (xrayRoutes settings resolved container configuration routeGateway fromName
        replies).table.lookup c = some XrayProtocol.defaultLocalAddr) ↔
      ∀ c ∈ [a,b], Listed settings resolved .vpnAllExceptSites c ∨
        Tunnelled settings resolved routeGateway c := by
  refine forall₂_congr fun c hc => or_congr_right ?_
  exact lookup_server_iff hx haccepted ha hb hc

end

section

open Lifecycle

/-- The settings with one site in each list. -/
def siteSettings (mode : RouteMode) : AppSettings where
  isKillSwitchEnabled := true
  getAllowedDnsServers := []
  isSitesSplitTunnelingEnabled := true
  routeMode := mode
  vpnSites _ := [("203.0.113.0/24",[])]
  useAmneziaDns := true
  isAppsSplitTunnelingEnabled := false
  appsRouteMode := .vpnAllApps
  vpnApps _ := []

def xrayConfig (mode : RouteMode) : JsonObject :=
  @vpnConfiguration dottedQt (siteSettings mode) "xray"
    [("hostName",.str "198.51.100.7"),("dns1",.str "100.64.0.1"),("dns2",.str "1.1.1.1")]

def siteRoutes (mode : RouteMode) : RouteRequests :=
  @xrayRoutes dottedQt (siteSettings mode) (fun _ => []) .xray (xrayConfig mode) "192.168.1.1"
    (fun _ => []) ⟨true,true,true,true,true⟩

abbrev forwarding : AppSettings := siteSettings .vpnOnlyForwardSites

lemma dns1_isServer : @IsServer dottedQt
    ((xrayConfig .vpnOnlyForwardSites).value "dns1").toString 0x64400001#32 :=
  @IsServer.mk dottedQt _ _ (by decide +kernel) (by decide +kernel)

lemma dns2_isServer : @IsServer dottedQt
    ((xrayConfig .vpnOnlyForwardSites).value "dns2").toString 0x01010101#32 :=
  @IsServer.mk dottedQt _ _ (by decide +kernel) (by decide +kernel)

theorem forwarded_servers_tunnelled : (siteRoutes .vpnOnlyForwardSites).accepted ∧
      ((∀ c ∈ [0x64400001#32,0x01010101#32],
        @Listed dottedQt forwarding (fun _ => []) .vpnAllExceptSites c ∨
          (siteRoutes .vpnOnlyForwardSites).table.lookup c = some XrayProtocol.defaultLocalAddr) ↔
        ∀ c ∈ [0x64400001#32,0x01010101#32],
          @Listed dottedQt forwarding (fun _ => []) .vpnAllExceptSites c ∨
            @Tunnelled dottedQt forwarding (fun _ => []) "192.168.1.1" c) := by
  have haccepted : (siteRoutes .vpnOnlyForwardSites).accepted := by decide +kernel
  refine ⟨haccepted,?_⟩
  exact @dns_servers_tunnelled_iff dottedQt forwarding (fun _ => []) _ .xray
    (xrayConfig .vpnOnlyForwardSites) "192.168.1.1" (fun _ => []) ⟨true,true,true,true,true⟩
    0x64400001#32 0x01010101#32 (.inl rfl) haccepted dns1_isServer dns2_isServer

/-- The servers of a connection that excludes a site are routed to the gateway of the
local network. -/
theorem excluding_servers_leave_tunnel : (siteRoutes .vpnAllExceptSites).accepted ∧
      (siteRoutes .vpnAllExceptSites).table.lookup 0x64400001#32 = some "192.168.1.1" ∧
      (siteRoutes .vpnAllExceptSites).table.lookup 0x01010101#32 = some "192.168.1.1" ∧
      ¬@Listed dottedQt (siteSettings .vpnAllExceptSites) (fun _ => []) .vpnAllExceptSites
        0x64400001#32 := by
  decide +kernel

end

end VpnConnection
end AlzheimerVPN
