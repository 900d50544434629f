import AlzheimerVPN.ExclusionRoutes
import AlzheimerVPN.SplitTunnelRule
import AlzheimerVPN.WireguardUtilsMacos

/-! The WireGuard daemon as a state machine: activation, server switches, the
handshake poll, the hosts resolved for the split tunnel and deactivation. What
the system answers is part of an event; the poll may come at any time. -/
namespace AlzheimerVPN

open Text

structure ConnectionState where
  config : InterfaceConfig
  /-- Whether the date of the handshake is valid. -/
  date : Bool

deriving instance DecidableEq for InterfaceConfig
deriving instance DecidableEq for ConnectionState

structure PeerStatus where
  pubkey : String
  handshake : ℤ

structure Daemon where
  connections : HopType → Option ConnectionState
  routes : Routes
  splitTunnelDnsResolveHosts : List String
  splitTunnelDnsRoutes : List IPAddress
  splitTunnelDnsGeneration : ℕ
  splitTunnelDnsKillSwitchEnabled : Bool
  /-- The rules given to the DNS observer. -/
  dnsRules : List String
  /-- The lookups under way, each with the generation it was started in. -/
  lookups : List (String × ℕ)
  /-- The hosts whose queries matched a rule of the observer when they arrived. -/
  matchedHosts : List String
  killSwitch : KillSwitch

namespace Daemon

/-- What the system answers in the course of an activation. -/
structure Answers where
  /-- The backend runs and has told its interface. -/
  started : Bool
  configured : Bool
  defaultIpv4 : Bool
  defaultIpv6 : Bool
  addressed : Bool
  peerUpdated : Bool
  resolversUpdated : Bool
  routesUpdated : Bool
  peerDeleted : Bool

inductive Event
  | activate (config : InterfaceConfig) (answers : Answers)
  | deactivate
  | checkHandshake (peers : List PeerStatus)
  | lookupFinished (host : String) (generation : ℕ) (addresses : List HostAddress)
  | query (host : String)
  | answered (host : String) (ips : List String)
  | defaultRoutes (ipv4 ipv6 : Bool)
  | tunnelFinished

/-- The daemon before its first activation. -/
def initial (killSwitch : KillSwitch) : Daemon where
  connections _ := none
  routes := ⟨fun _ => 0,false,none,0⟩
  splitTunnelDnsResolveHosts := []
  splitTunnelDnsRoutes := []
  splitTunnelDnsGeneration := 0
  splitTunnelDnsKillSwitchEnabled := false
  dnsRules := []
  lookups := []
  matchedHosts := []
  killSwitch := killSwitch

section

variable [Qt] [QtNetwork]

/-- The entries of a list of excluded addresses, blank ones passed over. -/
def listed (addresses : List String) : List String :=
  (addresses.map trimmed).filter fun address => !address.isEmpty

/-- The prefixes an entry is excluded under. -/
def entries (addresses : List String) : List IPAddress := (listed addresses).map IPAddress.ofText

/-- The prefixes an entry is released under: here it is read as a single address. -/
def releases (addresses : List String) : List IPAddress :=
  (listed addresses).map fun address => IPAddress.ofAddress (Qt.hostAddress address)

def peerKeysMatch (lhs rhs : String) : Bool :=
  (QtNetwork.fromBase64 lhs).length == 32 && QtNetwork.fromBase64 lhs == QtNetwork.fromBase64 rhs

def hostRules (rules : List String) : List SplitTunnelRule :=
  (rules.map SplitTunnelRule.fromText).filter fun rule => rule.isValid && rule.type ≠ .ipSubnet

end

/-- A configuration of one server, for runs on concrete inputs. -/
def sampleConfig (publicKey endpoint : String) (hopType : HopType) (excludedAddresses : List String) :
    InterfaceConfig where
  hopType := hopType
  protocolName := "awg"
  privateKey := "AAAAAAAAAAAAAAAAAAAAAAAAAAAAAAAAAAAAAAAAAAA="
  deviceIpv4Address := "10.8.1.2/32"
  serverIpv4Gateway := "203.0.113.7"
  serverIpv6Gateway := ""
  serverPublicKey := publicKey
  serverIpv4AddrIn := endpoint
  serverPskKey := ""
  serverIpv6AddrIn := ""
  primaryDnsServer := "1.1.1.1"
  secondaryDnsServer := ""
  serverPort := 51820
  deviceMTU := 1420
  persistentKeepalive := ""
  allowedIPAddressRanges := [WireguardUtilsMacos.anyAddress]
  excludedAddresses := excludedAddresses
  splitTunnelDnsRules := []
  vpnDisabledApps := []
  allowedDnsServers := []
  killSwitchEnabled := true

def firstKey : String := "AQEBAQEBAQEBAQEBAQEBAQEBAQEBAQEBAQEBAQEBAQE="
def secondKey : String := "AgICAgICAgICAgICAgICAgICAgICAgICAgICAgICAgI="

/-- Everything the daemon asks for is done; no default route is known yet. -/
def allDone : Answers := ⟨true,true,false,false,true,true,true,true,true⟩

variable [Qt] [QtNetwork] (kernel : ℕ → Bool) (s : Daemon)

/-- The kill switch keeps what was opened for these routes. -/
def clearSplitTunnelDnsRoutes : Daemon :=
  { s with
    routes := s.routes.giveUpRoutes s.splitTunnelDnsRoutes
    splitTunnelDnsRoutes := [] }

def configureSplitTunnelDnsRoutes (config : InterfaceConfig) : Daemon :=
  let rules := hostRules config.splitTunnelDnsRules
  { { s with
      splitTunnelDnsGeneration := s.splitTunnelDnsGeneration+1
      splitTunnelDnsKillSwitchEnabled := config.killSwitchEnabled }.clearSplitTunnelDnsRoutes with
    splitTunnelDnsResolveHosts :=
      ((rules.filter fun rule => rule.type = .exactHost).map (·.normalizedText)).eraseDups
    dnsRules := (rules.map (·.normalizedText)).eraseDups }

def refreshSplitTunnelStaticRoutes (addresses : List String) : Daemon :=
  { s with routes := s.routes.addExclusionRoutes kernel (entries addresses) }

def refreshSplitTunnelDnsRoutes : Daemon :=
  { s with lookups := s.lookups++
      s.splitTunnelDnsResolveHosts.map fun host => (host,s.splitTunnelDnsGeneration) }

/-- The routes, the learned prefixes and the routed addresses after one address more. -/
def learn (state : Routes × List IPAddress × List String) (ip : String) :
    Routes × List IPAddress × List String :=
  let route := IPAddress.ofText ip
  if route ∈ state.2.1 then state
  else
    let added := state.1.addExclusionRoute kernel route
    if added.2 then (added.1,state.2.1++[route],state.2.2++[ip]) else (added.1,state.2)

def learnAll (ips : List String) : Routes × List IPAddress × List String :=
  ips.foldl (learn kernel) (s.routes,s.splitTunnelDnsRoutes,[])

def onSplitTunnelHostResolved (ips : List String) : Daemon :=
  let learned := s.learnAll kernel ips
  { s with
    routes := learned.1
    splitTunnelDnsRoutes := learned.2.1
    killSwitch :=
      if s.splitTunnelDnsKillSwitchEnabled && !learned.2.2.isEmpty then
        (s.killSwitch.addAllowedRange learned.2.2).1
      else s.killSwitch }

/-- Only the addresses of IPv4 that a lookup has found are used. -/
def foundIps (addresses : List HostAddress) : List String :=
  ((addresses.filter HostAddress.isIPv4).map HostAddress.toString).eraseDups

/-- An answer to a lookup of an earlier generation is dropped. -/
def lookupFinished (host : String) (generation : ℕ) (addresses : List HostAddress) : Daemon :=
  if (host,generation) ∈ s.lookups then
    let s := { s with lookups := s.lookups.erase (host,generation) }
    if generation ≠ s.splitTunnelDnsGeneration then s
    else if (foundIps addresses).isEmpty then s
    else s.onSplitTunnelHostResolved kernel (foundIps addresses)
  else s

def matchesRules (host : String) : Bool :=
  (hostRules s.dnsRules).any fun rule => rule.matchesHost host

/-- The addresses that an event hands over as those of a host of the split tunnel. -/
def resolved : Event → List String
  | .lookupFinished host generation addresses =>
    if (host,generation) ∈ s.lookups ∧ generation = s.splitTunnelDnsGeneration then foundIps addresses
    else []
  | .answered host ips => if host ∈ s.matchedHosts then ips else []
  | _ => []

/-- What a completed handshake of one hop sets off. -/
def completeHandshake (hop : HopType) (config : InterfaceConfig) : Daemon :=
  let s := { s with connections := Function.update s.connections hop (some ⟨config,true⟩) }
  (s.configureSplitTunnelDnsRoutes config).refreshSplitTunnelStaticRoutes kernel
    config.excludedAddresses |>.refreshSplitTunnelDnsRoutes

/-- The peers are gone through once for a connection that waits for its handshake. -/
def pollConnection (peers : List PeerStatus) (s : Daemon) (hop : HopType) : Daemon :=
  match s.connections hop with
  | none => s
  | some connection =>
    if connection.date then s
    else peers.foldl (fun s status =>
      if peerKeysMatch connection.config.serverPublicKey status.pubkey && status.handshake ≠ 0 then
        s.completeHandshake kernel hop connection.config
      else s) s

def checkHandshake (peers : List PeerStatus) : Daemon :=
  [HopType.singleHop,.multiHopEntry,.multiHopExit].foldl (pollConnection kernel peers) s

section

/-- The monitor is deleted with its list, the rules of the kill switch only with a tunnel. -/
def deleteInterface : Daemon × Bool :=
  let s' := { s with routes := { s.routes with rtmonitor := none, tunnelRunning := false } }
  if s.routes.tunnelRunning then ({ s' with killSwitch := s.killSwitch.disableKillSwitch.1 },true)
  else (s',false)

/-- `Daemon::deactivate`; the excluded prefixes are forgotten with their counts. -/
def deactivate : Daemon × Bool :=
  let s := { s with
    splitTunnelDnsKillSwitchEnabled := false
    splitTunnelDnsGeneration := s.splitTunnelDnsGeneration+1 }.clearSplitTunnelDnsRoutes
  { s with
    splitTunnelDnsResolveHosts := []
    dnsRules := []
    routes := { s.routes with excludedAddrSet := fun _ => 0 }
    connections := fun _ => none }.deleteInterface

variable (config : InterfaceConfig)

/-- The rules of the firewall are set when the interface is configured; they are
never refused then, `WireguardUtilsMacos.addInterface_configured`. -/
def addInterface (answers : Answers) : Daemon × Bool :=
  if !answers.started then (s,false)
  else
    let added := WireguardUtilsMacos.addInterface s.killSwitch config answers.configured
    ({ s with
        routes := { s.routes with
          tunnelRunning := true
          rtmonitor := some ⟨[],answers.defaultIpv4,answers.defaultIpv6⟩ }
        killSwitch := added.1 },added.2)

/-- The interface is brought up if there is none. -/
def ensureInterface (answers : Answers) : Daemon × Bool :=
  if s.routes.tunnelRunning then (s,true) else s.addInterface config answers

/-- An activation while the hop has no connection. -/
def activateNew (answers : Answers) : Daemon × Bool :=
  let up := s.ensureInterface config answers
  if !up.2 || !answers.addressed then (up.1,false)
  else
    let s := { up.1 with routes := up.1.routes.updatePeer kernel config }
    if answers.peerUpdated && answers.resolversUpdated && answers.routesUpdated then
      ({ s with connections := Function.update s.connections config.hopType (some ⟨config,false⟩) },
        true)
    else (s,false)

def supportServerSwitching (current config : InterfaceConfig) : Bool :=
  current.privateKey == config.privateKey &&
    current.deviceIpv4Address == config.deviceIpv4Address &&
    current.serverIpv4Gateway == config.serverIpv4Gateway &&
    current.serverIpv6Gateway == config.serverIpv6Gateway

/-- The routes after the new peer is set up. -/
def switchedTo : Routes :=
  (s.routes.addExclusionRoutes kernel (entries config.excludedAddresses)).updatePeer kernel config

/-- The routes after the old peer is given up. -/
def switchedFrom (lastConfig config : InterfaceConfig) : Routes :=
  let routes := (s.switchedTo kernel config).delExclusionRoutes (releases lastConfig.excludedAddresses)
  if config.serverPublicKey ≠ lastConfig.serverPublicKey then routes.deletePeer lastConfig else routes

def switchServer (lastConfig config : InterfaceConfig) (answers : Answers) : Daemon × Bool :=
  if !answers.peerUpdated then ({ s with routes := s.switchedTo kernel config },false)
  else if config.serverPublicKey ≠ lastConfig.serverPublicKey && !answers.peerDeleted then
    ({ s with routes := s.switchedFrom kernel lastConfig config },false)
  else
    ({ s with
        routes := s.switchedFrom kernel lastConfig config
        connections := Function.update s.connections config.hopType (some ⟨config,false⟩) },true)

def activate (answers : Answers) : Daemon × Bool :=
  match s.connections config.hopType with
  | none => s.activateNew kernel config answers
  | some current =>
    if supportServerSwitching current.config config then
      let switched := s.switchServer kernel current.config config answers
      (switched.1,switched.2 && answers.resolversUpdated)
    else
      let down := s.deactivate
      if down.2 then down.1.activateNew kernel config answers else (down.1,false)

end

def step (s : Daemon) : Event → Daemon
  | .activate config answers => (s.activate kernel config answers).1
  | .deactivate => s.deactivate.1
  | .checkHandshake peers => s.checkHandshake kernel peers
  | .lookupFinished host generation addresses => s.lookupFinished kernel host generation addresses
  | .query host => if s.matchesRules host then { s with matchedHosts := s.matchedHosts++[host] } else s
  | .answered host ips => if host ∈ s.matchedHosts then s.onSplitTunnelHostResolved kernel ips else s
  | .defaultRoutes ipv4 ipv6 =>
    { s with routes := { s.routes with
        rtmonitor := s.routes.rtmonitor.map fun m =>
          { m with defaultIpv4 := ipv4, defaultIpv6 := ipv6 } } }
  | .tunnelFinished => { s with routes := { s.routes with tunnelRunning := false } }

/-- Steps on concrete inputs, with a kernel that takes every route. -/
def dottedStep : Daemon → Event → Daemon := @step dottedQt dottedNetwork fun _ => true

end Daemon
end AlzheimerVPN
