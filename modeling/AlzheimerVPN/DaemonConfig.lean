import Mathlib.Data.List.Sort
import AlzheimerVPN.AddressText
import AlzheimerVPN.Json

/-! The configuration of the WireGuard daemon and `Daemon::parseConfig` as built
for macOS. A rejected configuration is the text that is logged for it. The
texts of AmneziaWG are copied without a check and read by no other function
here; they are left out. -/
namespace AlzheimerVPN

open IpText

structure IPAddress where
  address : HostAddress
  prefixLength : ℤ
  deriving DecidableEq, Repr

def IPAddress.toString [Qt] (ip : IPAddress) : String :=
  String.ofList (ip.address.toString.toList ++ '/'::intChars ip.prefixLength)

inductive HopType
  | singleHop | multiHopEntry | multiHopExit
  deriving DecidableEq, Repr

structure InterfaceConfig where
  hopType : HopType
  protocolName : String
  privateKey : String
  deviceIpv4Address : String
  serverIpv4Gateway : String
  serverIpv6Gateway : String
  serverPublicKey : String
  serverIpv4AddrIn : String
  serverPskKey : String
  serverIpv6AddrIn : String
  primaryDnsServer : String
  secondaryDnsServer : String
  serverPort : ℤ
  deviceMTU : ℤ
  persistentKeepalive : String
  allowedIPAddressRanges : List IPAddress
  excludedAddresses : List String
  splitTunnelDnsRules : List String
  vpnDisabledApps : List String
  allowedDnsServers : List String
  killSwitchEnabled : Bool

namespace Daemon

/-- The logger writes a blank after each piece. -/
def logLine (pieces : List String) : String := String.join (pieces.map (· ++ " "))

section

variable (obj : JsonObject) (name : String)

/-- The macro `GETVALUE`: the key must be there and its value of the given kind. -/
def getValue (kind : String) (isKind : Json → Bool) : Except String Json :=
  if !obj.contains name then .error (logLine [name," missing in the jsonConfig input"])
  else if !isKind (obj.value name) then .error (logLine [name," is not a " ++ kind])
  else .ok (obj.value name)

def getString : Except String String := (getValue obj name "String" Json.isString).map Json.toString

/-- A number, cut off to an integer. -/
def getDouble : Except String ℤ :=
  (getValue obj name "Double" Json.isDouble).map fun v =>
    match v with
    | .num q => q.num.tdiv q.den
    | _ => 0

def optionalString (complaint : String) : Except String String :=
  if !obj.contains name then .ok ""
  else if !(obj.value name).isString then .error (logLine [complaint])
  else .ok (obj.value name).toString

def parseStrings : List Json → Except String (List String)
  | [] => .ok []
  | i::items =>
    if !i.isString then .error (logLine [name,"must contain only strings"])
    else (parseStrings items).map fun list => i.toString::list

def parseStringList : Except String (List String) :=
  if !obj.contains name then .ok []
  else if !(obj.value name).isArray then .error (logLine [name,"is not an array"])
  else parseStrings name (obj.value name).toArray

end

def HopType.keyToValue : String → Option HopType
  | "SingleHop" => some .singleHop
  | "MultiHopEntry" => some .multiHopEntry
  | "MultiHopExit" => some .multiHopExit
  | _ => none

def parseHopType (obj : JsonObject) : Except String HopType :=
  if !obj.contains "hopType" then .ok .singleHop
  else if !(obj.value "hopType").isString then .error (logLine ["hopType is not a string"])
  else
    match HopType.keyToValue (obj.value "hopType").toString with
    | some hop => .ok hop
    | none => .error (logLine ["hopType",(obj.value "hopType").toString,"is not valid"])

lemma bind_eq_ok {α β : Type} {x : Except String α} {f : α → Except String β} {b : β} :
    (x >>= f) = .ok b ↔ ∃ a, x = .ok a ∧ f a = .ok b := by
  cases x with
  | error e => simp [bind,Except.bind]
  | ok a => simp [bind,Except.bind]

lemma map_eq_ok {α β : Type} {x : Except String α} {f : α → β} {b : β} :
    x.map f = .ok b ↔ ∃ a, x = .ok a ∧ f a = b := by
  cases x with
  | error e => simp [Except.map]
  | ok a => simp [Except.map]

variable {obj : JsonObject}

lemma optionalString_ok {name complaint t : String}
    (h : optionalString obj name complaint = .ok t) : t = (obj.value name).toString := by
  simp only [optionalString] at h
  split_ifs at h with hc hs
  · cases h
    rw [JsonObject.value_of_not_contains (by simpa using hc)]
    rfl
  · cases h
    rfl

lemma parseStrings_ok {name : String} {items : List Json} {list : List String}
    (h : parseStrings name items = .ok list) : list = items.map Json.toString := by
  induction items generalizing list with
  | nil =>
    cases h
    rfl
  | cons i items ih =>
    simp only [parseStrings] at h
    split_ifs at h with hi
    obtain ⟨rest,hrest,rfl⟩ := map_eq_ok.mp h
    simp [ih hrest]

lemma parseStringList_ok {name : String} {list : List String}
    (h : parseStringList obj name = .ok list) :
    list = (obj.value name).toArray.map Json.toString := by
  simp only [parseStringList] at h
  split_ifs at h with hc ha
  · cases h
    rw [JsonObject.value_of_not_contains (by simpa using hc)]
    rfl
  · exact parseStrings_ok h

def rangesKey : String := "allowedIPAddressRanges"

variable [Qt]

/-- One allowed range; a range of IPv6 is checked and then passed over. -/
def parseRange (i : Json) : Except String (Option IPAddress) :=
  if !i.isObject then .error (logLine [rangesKey,"must contain only objects"])
  else if !(i.toObject.value "address").isString then
    .error (logLine [rangesKey,"objects must have a string address"])
  else if !(i.toObject.value "range").isDouble then
    .error (logLine [rangesKey,"object must have a numberic range"])
  else if !(i.toObject.value "isIpv6").isBool then
    .error (logLine [rangesKey,"object must have a boolean isIpv6"])
  else
    let hostAddress := Qt.hostAddress (i.toObject.value "address").toString
    if hostAddress.isIPv6 then .ok none
    else .ok (some ⟨hostAddress,(i.toObject.value "range").toInt⟩)

def parseRanges : List Json → Except String (List IPAddress)
  | [] => .ok []
  | i::items =>
    (parseRange i).bind fun range => (parseRanges items).map fun ranges => range.toList++ranges

/-- The ranges by decreasing prefix length. -/
def sortRanges (ranges : List IPAddress) : List IPAddress :=
  ranges.insertionSort fun a b => b.prefixLength ≤ a.prefixLength

def parseAllowedRanges (obj : JsonObject) : Except String (List IPAddress) :=
  if !obj.contains rangesKey then .error (logLine [rangesKey,"missing in the jsonconfig input"])
  else if !(obj.value rangesKey).isArray then .error (logLine [rangesKey,"is not an array"])
  else (parseRanges (obj.value rangesKey).toArray).map sortRanges

/-- `QVariant::toBool` of a text. -/
def textToBool (s : String) : Bool :=
  !(s.isEmpty || Qt.toLower s == "0" || Qt.toLower s == "false")

/-- The text read as an integer, or the default when there is none or it is zero. -/
def deviceMTU (obj : JsonObject) : ℤ :=
  let mtu := (Text.toInt (obj.value "deviceMTU").toString).getD 0
  if mtu = 0 then 1420 else mtu

def require (ok : Bool) (complaint : String) : Except String Unit :=
  if ok then .ok () else .error (logLine [complaint])

/-- A text is null when the key holds no text. -/
def isNullText (obj : JsonObject) (name : String) : Bool := !(obj.value name).isString

def parseConfig (obj : JsonObject) : Except String InterfaceConfig := do
  let privateKey ← getString obj "privateKey"
  let serverPublicKey ← getString obj "serverPublicKey"
  let serverPort ← getDouble obj "serverPort"
  require (!isNullText obj "deviceIpv4Address") "no device addresses found in jsonConfig input"
  require (!(isNullText obj "serverIpv4AddrIn" && isNullText obj "serverIpv6AddrIn"))
    "no server addresses found in jsonConfig input"
  let primaryDnsServer ← optionalString obj "primaryDnsServer" "dnsServer is not a string"
  let secondaryDnsServer ← optionalString obj "secondaryDnsServer" "dnsServer is not a string"
  let protocolName ← getString obj "protocol"
  let hopType ← parseHopType obj
  let allowedIPAddressRanges ← parseAllowedRanges obj
  let excludedAddresses ← parseStringList obj "excludedAddresses"
  let splitTunnelDnsRules ← parseStringList obj "splitTunnelDnsRules"
  let vpnDisabledApps ← parseStringList obj "vpnDisabledApps"
  let allowedDnsServers ← parseStringList obj "allowedDnsServers"
  pure {
    hopType, protocolName, privateKey, serverPublicKey, serverPort, primaryDnsServer,
    secondaryDnsServer, allowedIPAddressRanges, excludedAddresses, splitTunnelDnsRules,
    vpnDisabledApps, allowedDnsServers
    deviceIpv4Address := (obj.value "deviceIpv4Address").toString
    serverIpv4Gateway := (obj.value "serverIpv4Gateway").toString
    serverIpv6Gateway := (obj.value "serverIpv6Gateway").toString
    serverIpv4AddrIn := (obj.value "serverIpv4AddrIn").toString
    serverIpv6AddrIn := (obj.value "serverIpv6AddrIn").toString
    serverPskKey := (obj.value "serverPskKey").toString
    deviceMTU := deviceMTU obj
    persistentKeepalive := (obj.value "persistentKeepalive").toString
    killSwitchEnabled := textToBool (obj.value "killSwitchOption").toString }

/-- No range of IPv6 gets past the parser. -/
lemma parseRange_not_ipv6 {i : Json} {r : IPAddress} (h : parseRange i = .ok (some r)) :
    r.address.isIPv6 = false := by
  simp only [parseRange] at h
  split_ifs at h with h1 h2 h3 h4 h6
  · cases h
  · cases h
    simpa using h6

/-- The ranges are those of the items, sorted. -/
lemma mem_parseRanges {items : List Json} {ranges : List IPAddress}
    (h : parseRanges items = .ok ranges) (r : IPAddress) :
    r ∈ ranges ↔ ∃ i ∈ items, parseRange i = .ok (some r) := by
  induction items generalizing ranges with
  | nil =>
    cases h
    simp
  | cons i items ih =>
    obtain ⟨range,hrange,h⟩ := bind_eq_ok.mp (h : (parseRange i >>= _) = _)
    obtain ⟨rest,hrest,rfl⟩ := map_eq_ok.mp h
    rw [List.mem_append,ih hrest]
    simp [hrange]

/-- What an accepted configuration takes from the message. -/
structure Read (obj : JsonObject) (config : InterfaceConfig) : Prop where
  primary : config.primaryDnsServer = (obj.value "primaryDnsServer").toString
  secondary : config.secondaryDnsServer = (obj.value "secondaryDnsServer").toString
  excluded : config.excludedAddresses = (obj.value "excludedAddresses").toArray.map Json.toString
  killSwitch : config.killSwitchEnabled = textToBool (obj.value "killSwitchOption").toString
  ranges : ∀ r, r ∈ config.allowedIPAddressRanges ↔
    ∃ i ∈ (obj.value rangesKey).toArray, parseRange i = .ok (some r)

variable {config : InterfaceConfig}

lemma parseConfig_read (h : parseConfig obj = .ok config) : Read obj config := by
  simp only [parseConfig,bind_eq_ok] at h
  obtain ⟨_,_,_,_,_,_,_,_,_,_,_,hp,_,hs,_,_,_,_,_,hr,_,he,_,_,_,_,_,_,h⟩ := h
  cases h
  refine ⟨optionalString_ok hp,optionalString_ok hs,parseStringList_ok he,rfl,?_⟩
  intro r
  simp only [parseAllowedRanges] at hr
  split_ifs at hr with h1 h2
  obtain ⟨ranges,hranges,rfl⟩ := map_eq_ok.mp hr
  rw [sortRanges,List.mem_insertionSort,mem_parseRanges hranges]

lemma parseConfig_splitTunnelDnsRules (h : parseConfig obj = .ok config) :
    config.splitTunnelDnsRules = (obj.value "splitTunnelDnsRules").toArray.map Json.toString := by
  simp only [parseConfig,bind_eq_ok] at h
  obtain ⟨_,_,_,_,_,_,_,_,_,_,_,_,_,_,_,_,_,_,_,_,_,_,_,hr,_,_,_,_,h⟩ := h
  cases h
  exact parseStringList_ok hr

/-- Every allowed range of an accepted configuration is of IPv4 or of no address at all. -/
lemma parseConfig_not_ipv6 (h : parseConfig obj = .ok config) :
    ∀ r ∈ config.allowedIPAddressRanges, r.address.isIPv6 = false := by
  intro r hr
  obtain ⟨i,-,hi⟩ := ((parseConfig_read h).ranges r).mp hr
  exact parseRange_not_ipv6 hi

end Daemon
end AlzheimerVPN
