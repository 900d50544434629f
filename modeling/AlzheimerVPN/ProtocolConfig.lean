import AlzheimerVPN.IpRangeSet
import AlzheimerVPN.LinkedSet

/-! The Android client's configuration builder and the starts of the protocols
that fill it. Routes are kept in the order in which they are first added. -/
namespace AlzheimerVPN.Android

structure Route where
  inetNetwork : InetNetwork
  included : Bool
  deriving DecidableEq, Repr

def Route.contains (r : Route) (a : Address) : Bool := r.inetNetwork.contains a

/-- The IPv4 default route `0.0.0.0/0`. -/
def ipv4Default : InetNetwork := ⟨.v4 0,0⟩

/-- The IPv6 default route `::/0`. -/
def ipv6Default : InetNetwork := ⟨.v6 0,0⟩

/-- The global unicast addresses `2000::/3`. -/
def ipv6Global : InetNetwork := ⟨.v6 (0x2000 <<< 112),3⟩

/-- `127.0.0.0/8`. -/
def ipv4Loopback : InetNetwork := ⟨.v4 (127 <<< 24),8⟩

/-- `::1/128`. -/
def ipv6Loopback : InetNetwork := ⟨.v6 1,128⟩

/-- The parts of the builder that the routes and the checks of a build depend on.
The hash sets of the source are iterated in the order of these sets; every result
is for all orders. -/
structure Builder where
  addresses : LinkedSet InetNetwork
  routes : LinkedSet Route
  includedAddresses : LinkedSet InetNetwork
  excludedAddresses : LinkedSet InetNetwork
  allowSplitTunneling : Bool
  mtu : ℕ

namespace Builder

/-- A builder with the protocol's default MTU. -/
def new (mtu : ℕ) : Builder :=
  ⟨LinkedSet.empty,LinkedSet.empty,LinkedSet.empty,LinkedSet.empty,true,mtu⟩

variable (b : Builder)

def addAddress (addr : InetNetwork) : Builder :=
  { b with addresses := b.addresses.add addr }

def clearAddresses : Builder := { b with addresses := LinkedSet.empty }

def addRoute (route : InetNetwork) : Builder :=
  { b with routes := b.routes.add ⟨route,true⟩ }

def addRoutes (routes : List InetNetwork) : Builder :=
  { b with routes := b.routes.addAll (routes.map fun n => ⟨n,true⟩) }

def excludeRoute (route : InetNetwork) : Builder :=
  { b with routes := b.routes.add ⟨route,false⟩ }

def excludeRoutes (routes : List InetNetwork) : Builder :=
  { b with routes := b.routes.addAll (routes.map fun n => ⟨n,false⟩) }

def removeRoute (route : InetNetwork) : Builder :=
  { b with routes := b.routes.removeIf fun r => r.inetNetwork == route }

def clearRoutes : Builder := { b with routes := LinkedSet.empty }

def prependRoutes (block : Builder → Builder) : Builder :=
  let prepended := block b.clearRoutes
  { prepended with routes := prepended.routes.addAll b.routes.toList }

def includeAddress (addr : InetNetwork) : Builder :=
  { b with includedAddresses := b.includedAddresses.add addr }

def excludeAddress (addr : InetNetwork) : Builder :=
  { b with excludedAddresses := b.excludedAddresses.add addr }

def disableSplitTunneling : Builder := { b with allowSplitTunneling := false }

def setMtu (mtu : ℕ) : Builder := { b with mtu := mtu }

def processSplitTunneling : Except String Builder :=
  if b.includedAddresses.toList ≠ [] ∧ b.excludedAddresses.toList ≠ [] then
    .error ("Config contains addresses for inclusive and exclusive split tunneling " ++
      "at the same time")
  else if b.includedAddresses.toList ≠ [] then
    .ok ((((b.removeRoute ipv4Default).removeRoute ipv6Default).removeRoute
      ipv6Global).prependRoutes fun b' => b'.addRoutes b.includedAddresses.toList)
  else if b.excludedAddresses.toList ≠ [] then
    .ok (b.prependRoutes fun b' =>
      ((b'.addRoute ipv4Default).addRoute ipv6Global).excludeRoutes b.excludedAddresses.toList)
  else .ok b

/-- The first step of `processRoutes`: `::/0` gives way to the global addresses. -/
def replaceIpv6Default : Builder :=
  if (⟨ipv6Default,true⟩ : Route) ∈ b.routes.toList then
    let removed : Builder :=
      { b with routes := b.routes.removeIf fun r => r.included && r.inetNetwork == ipv6Default }
    removed.prependRoutes fun b' => b'.addRoute ipv6Global
  else b

/-- The ranges of the routes, folded in their order, without the loopback
addresses. -/
def routeRanges (routes : List Route) : IpRangeSet :=
  ((routes.foldl (fun s r => if r.included then s.add (IpRange.ofNetwork r.inetNetwork)
    else s.remove (IpRange.ofNetwork r.inetNetwork)) IpRangeSet.empty).remove
      (IpRange.ofNetwork ipv4Loopback)).remove (IpRange.ofNetwork ipv6Loopback)

/-- The second step: before API 33 excluded routes are cut out of the others. -/
def buildSubnets (sdk : ℕ) (b : Builder) : Builder :=
  if sdk < 33 ∧ b.routes.toList.any (fun r => !r.included) then
    (routeRanges b.routes.toList).subnets.foldl addRoute b.clearRoutes
  else b

/-- An included route to loopback, by the first byte or by the whole network. -/
def isLoopbackRoute (r : Route) : Bool :=
  r.included &&
    match r.inetNetwork.address with
    | .v4 a => a >>> 24 == 127
    | .v6 _ => r.inetNetwork == ipv6Loopback

def filterLoopback : Builder :=
  { b with routes := b.routes.removeIf isLoopbackRoute }

def processRoutes (sdk : ℕ) (b : Builder) : Builder :=
  ((b.replaceIpv6Default).buildSubnets sdk).filterLoopback

def validate : Except String Unit :=
  let errorMessage :=
    (if b.addresses.toList = [] then "VPN interface network address not specified.\n" else "") ++
    (if b.routes.toList = [] then "VPN interface route not specified.\n" else "") ++
    (if b.mtu = 0 then "MTU not set.\n" else "")
  if errorMessage = "" then .ok () else .error errorMessage

/-- `configBuild`: a build that succeeds leaves the builder with the routes of the
configuration. -/
def configBuild (sdk : ℕ) (b : Builder) : Except String Builder := do
  let b ← b.processSplitTunneling
  let b := b.processRoutes sdk
  b.validate
  return b

end Builder

/-- The setting of address split tunneling, with the listed networks. -/
inductive SplitTunneling
  | disabled | included (sites : List InetNetwork) | excluded (sites : List InetNetwork)

namespace Builder

def configSplitTunneling (b : Builder) (split : SplitTunneling) : Builder :=
  if b.allowSplitTunneling then
    match split with
    | .disabled => b
    | .included sites => sites.foldl includeAddress b
    | .excluded sites => sites.foldl excludeAddress b
  else b

end Builder

/-- The callbacks of the OpenVPN core that reach the builder's routes, addresses
and MTU; `none` is the route address `remote_host`. -/
inductive TunCallback
  | new | setMtu (mtu : ℕ) | addAddress (address : InetNetwork)
  | addRoute (address : Option Address) (prefixLength : ℕ)
  | excludeRoute (address : Address) (prefixLength : ℕ)
  | rerouteGw (ipv4 ipv6 : Bool) (flags : ℕ)

namespace OpenVpn

/-- The routes that a callback adds, in order; redirecting the gateway adds none
when the core emulates excluded routes (bit 16 of the flags). -/
def routesOf : TunCallback → List Route
  | .addRoute (some address) prefixLength => [⟨⟨address,prefixLength⟩,true⟩]
  | .excludeRoute address prefixLength => [⟨⟨address,prefixLength⟩,false⟩]
  | .rerouteGw ipv4 ipv6 flags =>
    if flags.testBit 16 then []
    else (if ipv4 then [⟨ipv4Default,true⟩] else [])++if ipv6 then [⟨ipv6Default,true⟩] else []
  | _ => []

def onCallback (b : Builder) : TunCallback → Builder
  | .new => b.clearAddresses
  | .setMtu mtu => b.setMtu mtu
  | .addAddress address => b.addAddress address
  | .addRoute none _ => b
  | .addRoute (some address) prefixLength => b.addRoute ⟨address,prefixLength⟩
  | .excludeRoute address prefixLength => b.excludeRoute ⟨address,prefixLength⟩
  | .rerouteGw ipv4 ipv6 flags =>
    if flags.testBit 16 then b
    else
      let b := if ipv4 then b.addRoute ipv4Default else b
      if ipv6 then b.addRoute ipv6Default else b

/-- `startVpn` up to `connect`: the remote server's address is excluded first. -/
def startVpn (remote : Address) (split : SplitTunneling) : Builder :=
  ((Builder.new 1500).excludeRoute (InetNetwork.ofAddress remote)).configSplitTunneling split

/-- The callbacks of a session, up to `tun_builder_establish`. -/
def session (b : Builder) (callbacks : List TunCallback) : Builder :=
  callbacks.foldl onCallback (onCallback b .new)

end OpenVpn

namespace Wireguard

/-- `configWireguard` and `configSplitTunneling`: any allowed network besides the
default routes turns split tunneling off. -/
def parseConfig (clientIps allowedIps : List InetNetwork) (mtu : Option ℕ)
    (split : SplitTunneling) : Builder :=
  let b := clientIps.foldl Builder.addAddress (Builder.new 1280)
  let b := if allowedIps.any (fun n => n != ipv4Default && n != ipv6Default) then
    b.disableSplitTunneling else b
  let b := b.addRoutes allowedIps
  (mtu.elim b b.setMtu).configSplitTunneling split

end Wireguard

namespace Xray

/-- The interface address `10.0.42.2/30`. -/
def defaultIpv4Address : InetNetwork := ⟨.v4 (Address.ofOctets 10 0 42 2),30⟩

/-- The server is excluded with the prefix length 32, whatever its family. -/
def parseConfig (host : Address) (mtu : Option ℕ) (split : SplitTunneling) : Builder :=
  let b := (((Builder.new 1500).addAddress defaultIpv4Address).addRoute ipv4Default).addRoute
    ipv6Global
  let b := b.excludeRoute ⟨host,32⟩
  (mtu.elim b b.setMtu).configSplitTunneling split

end Xray
end AlzheimerVPN.Android
