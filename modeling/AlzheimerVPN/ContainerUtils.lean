import AlzheimerVPN.ConnectionLifecycle

/-! `ContainerUtils` and `ProtocolUtils`: the names of the containers and what each one serves. -/
namespace AlzheimerVPN

open Lifecycle

inductive Proto
  | unknown | openVpn | wireGuard | awg | ikev2 | xray | ssXray | torWebSite | dns | sftp
  | socks5Proxy | mtProxy | telemt | tProxy
  deriving DecidableEq, Repr

inductive ServiceType
  | none | vpn | other
  deriving DecidableEq, Repr

namespace ContainerUtils

/-- In the order of the enumeration, which is that of the keys of a `QMap`. -/
def allContainers : List DockerContainer :=
  [.none,.awg,.awg2,.wireGuard,.openVpn,.cloak,.shadowSocks,.ipsec,.xray,.ssXray,.torWebSite,.dns,
    .sftp,.socks5Proxy,.mtProxy,.telemt,.tProxy]

def containerToString : DockerContainer → String
  | .none => "none"
  | .awg => "amnezia-awg"
  | .awg2 => "amnezia-awg2"
  | .wireGuard => "amnezia-wireguard"
  | .openVpn => "amnezia-openvpn"
  | .cloak => "amnezia-openvpn-cloak"
  | .shadowSocks => "amnezia-shadowsocks"
  | .ipsec => "amnezia-ipsec"
  | .xray => "amnezia-xray"
  | .ssXray => "amnezia-ssxray"
  | .torWebSite => "amnezia-torwebsite"
  | .dns => "amnezia-dns"
  | .sftp => "amnezia-sftp"
  | .socks5Proxy => "amnezia-socks5proxy"
  | .mtProxy => "amnezia-mtproxy"
  | .telemt => "amnezia-telemt"
  | .tProxy => "amnezia-tproxy"

def containerFromString (container : String) : DockerContainer :=
  (allContainers.find? fun c => container == containerToString c).getD .none

def defaultProtocol : DockerContainer → Proto
  | .openVpn => .openVpn
  | .wireGuard => .wireGuard
  | .awg2 | .awg => .awg
  | .xray => .xray
  | .ipsec => .ikev2
  | .ssXray => .ssXray
  | .torWebSite => .torWebSite
  | .dns => .dns
  | .sftp => .sftp
  | .socks5Proxy => .socks5Proxy
  | .mtProxy => .mtProxy
  | .telemt => .telemt
  | .tProxy => .tProxy
  | .none | .cloak | .shadowSocks => .unknown

def protoToString : Proto → String
  | .unknown => ""
  | .openVpn => "openvpn"
  | .wireGuard => "wireguard"
  | .awg => "awg"
  | .ikev2 => "ikev2"
  | .xray => "xray"
  | .ssXray => "ssxray"
  | .torWebSite => "torwebsite"
  | .dns => "dns"
  | .sftp => "sftp"
  | .socks5Proxy => "socks5proxy"
  | .mtProxy => "mtproxy"
  | .telemt => "telemt"
  | .tProxy => "tproxy"

def containerTypeToProtocolString (c : DockerContainer) : String :=
  if c = .none then "none" else protoToString (defaultProtocol c)

def protocolService : Proto → ServiceType
  | .unknown | .ssXray => .none
  | .openVpn | .wireGuard | .awg | .ikev2 | .xray => .vpn
  | _ => .other

def isUnsupportedContainer (container : DockerContainer) : Bool :=
  container == .cloak || container == .shadowSocks

def containerService (c : DockerContainer) : ServiceType :=
  if isUnsupportedContainer c then .vpn else protocolService (defaultProtocol c)

@[simp] lemma containerFromString_containerToString (c : DockerContainer) :
    containerFromString (containerToString c) = c := by
  cases c <;> decide

end ContainerUtils
end AlzheimerVPN
