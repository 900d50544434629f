import AlzheimerVPN.AddressText
import AlzheimerVPN.Json
import AlzheimerVPN.Keyed
import AlzheimerVPN.Scan

/-! `ImportController::extractWireGuardConfig`: a WireGuard file as a text becomes a server of the
client. The text is read line by line into a map, and once more by a regular expression for the
name servers. `QUrl::fromUserInput` and the text of a JSON document are not in the repository. -/
namespace AlzheimerVPN

/-- What the import takes from a `QUrl`. -/
structure Url where
  host : String
  port : Option (Fin 65536)

class Urls where
  fromUserInput : String → Url

namespace ImportController

open Text Address Scan IpText

/-- A line of the form `name = value`. -/
def readLine (configMap : QMap String) (line : List Char) : QMap String :=
  let trimmedLine := trimChars line
  if trimmedLine.head? = some '[' ∧ trimmedLine.getLast? = some ']' then configMap
  else
    let left := trimmedLine.takeWhile (· ≠ '=')
    if left ≠ [] ∧ '=' ∈ trimmedLine then
      configMap.insert (String.ofList (trimChars left))
        (String.ofList (trimChars (trimmedLine.drop (left.length+1))))
    else configMap

def readLines (lines : List (List Char)) : QMap String := lines.foldl readLine ∅

/-- `QMap::value` -/
def valueOf (configMap : QMap String) (key : String) : String := (configMap[key]?).getD ""

/-- `\s` of the regular expressions. -/
def isBlank (c : Char) : Bool := (9 ≤ c.toNat && c.toNat ≤ 13) || c == ' '

def stripLeft (part : List Char) : List Char := part.dropWhile isBlank

def stripRight (part : List Char) : List Char := (part.reverse.dropWhile isBlank).reverse

/-- The parts behind a separator; the last one keeps the blanks at its end. -/
def behindSeparator : List (List Char) → List (List Char)
  | [] => []
  | [part] => [stripLeft part]
  | part::parts => stripRight (stripLeft part)::behindSeparator parts

/-- `split(QRegularExpression("\\s*,\\s*"), Qt::SkipEmptyParts)` -/
def splitCommas (value : List Char) : List (List Char) :=
  let parts :=
    match value.splitOn ',' with
    | part::next::parts => stripRight part::behindSeparator (next::parts)
    | parts => parts
  parts.filter fun part => !part.isEmpty

/-- `\w` of the regular expressions. -/
def isWord (c : Char) : Bool := c.isAlphanum || c == '_'

/-- `\d{1,3}` where no digit can follow. -/
def group (cs : List Char) : Option (List Char × List Char) :=
  let digits := cs.takeWhile Char.isDigit
  if 1 ≤ digits.length ∧ digits.length ≤ 3 then some (digits,cs.dropWhile Char.isDigit) else none

/-- `\d{1,3}\.\d{1,3}\.\d{1,3}\.\d{1,3}\b` with so many dots, and what follows. -/
def quad : ℕ → List Char → Option (List Char × List Char)
  | 0, cs => (group cs).bind fun found =>
      if found.2.head?.any isWord then none else some found
  | dots+1, cs => (group cs).bind fun found =>
      match found.2 with
      | '.'::rest => (quad dots rest).map fun later => (found.1++ '.'::later.1,later.2)
      | _ => none

/-- `.*(\b\d{1,3}\.\d{1,3}\.\d{1,3}\.\d{1,3}\b)` behind the character `prev`: the last address of
the line that no word character precedes. -/
def lastQuad : Char → List Char → Option (List Char)
  | _, [] => none
  | prev, c::cs =>
    match lastQuad c cs with
    | some found => some found
    | none => if isWord prev then none else (quad 3 (c::cs)).map Prod.fst

def dnsWord : List Char := "DNS = ".toList

/-- The expression for the name servers at the start of a text. -/
def dnsAt (cs : List Char) : Option (List Char × List Char) :=
  if dnsWord.isPrefixOf cs then
    (quad 3 (cs.drop dnsWord.length)).bind fun first =>
      (lastQuad (first.1.getLastD ' ') first.2).map fun second => (first.1,second)
  else none

def dnsInLine : List Char → Option (List Char × List Char)
  | [] => none
  | c::cs => (dnsAt (c::cs)).or (dnsInLine cs)

/-- No part of the expression matches a line feed, so a match lies in one line. -/
def dnsMatch (lines : List (List Char)) : Option (List Char × List Char) :=
  lines.findSome? dnsInLine

section

def awgProtocolKeys : List String :=
  ["Jc","Jmin","Jmax","S1","S2","S3","S4","H1","H2","H3","H4","I1","I2","I3","I4","I5",
   "HeaderProtectionKey","ContentPaddingAddition","RekeyAfterTime","RekeyTimeout",
   "RejectAfterTime","KeepaliveTimeout","MaxHandshakeAttempts","RandomTrailers","DisableCookies"]

def defaultPort : String := "51820"

/-- The configuration of the server, and the object that it contains as a text. -/
structure Extracted where
  config : JsonObject
  lastConfig : JsonObject

/-- `object[key] = value` for a value of the map that is not empty. -/
def insertGiven (configMap : QMap String) (object : JsonObject) (name key : String) : JsonObject :=
  if valueOf configMap name = "" then object else object.insert key (.str (valueOf configMap name))

def presharedKey (configMap : QMap String) (object : JsonObject) : JsonObject :=
  if valueOf configMap "PresharedKey" ≠ "" then
    object.insert "psk_key" (.str (valueOf configMap "PresharedKey"))
  else insertGiven configMap object "PreSharedKey" "psk_key"

variable [Urls] (description defaultMtu : String) (toJson : JsonObject → String)

def extractWireGuardConfig (data : List Char) : Option Extracted :=
  let lines := data.splitOn '\n'
  let configMap := readLines lines
  let url := Urls.fromUserInput (valueOf configMap "Endpoint")
  if url.host = "" then none
  else
    let port :=
      match url.port with
      | some port => String.ofList (Nat.toDigits 10 port)
      | none => defaultPort
    if valueOf configMap "PrivateKey" = "" ∨ valueOf configMap "Address" = "" ∨
        valueOf configMap "PublicKey" = "" then none
    else
      let lastConfig := JsonObject.empty.insert "config" (.str (String.ofList data))
      let lastConfig := lastConfig.insert "hostName" (.str url.host)
      let lastConfig := lastConfig.insert "port" (.num ((toInt port).getD 0))
      let lastConfig := lastConfig.insert "client_priv_key" (.str (valueOf configMap "PrivateKey"))
      let lastConfig := lastConfig.insert "client_ip" (.str (valueOf configMap "Address"))
      let lastConfig := presharedKey configMap lastConfig
      let lastConfig := lastConfig.insert "server_pub_key" (.str (valueOf configMap "PublicKey"))
      let lastConfig := insertGiven configMap lastConfig "MTU" "mtu"
      let lastConfig := insertGiven configMap lastConfig "PersistentKeepalive" "persistent_keep_alive"
      let allowedIps := splitCommas (valueOf configMap "AllowedIPs").toList
      let lastConfig := lastConfig.insert "allowed_ips"
        (.arr (allowedIps.map fun entry => .str (String.ofList entry)))
      let isAwg := awgProtocolKeys.any fun key => valueOf configMap key ≠ ""
      let lastConfig := awgProtocolKeys.foldl (fun object key => insertGiven configMap object key key)
        lastConfig
      let lastConfig :=
        if valueOf configMap "MTU" = "" then lastConfig.insert "mtu" (.str defaultMtu)
        else lastConfig.insert "mtu" (.str (valueOf configMap "MTU"))
      let protocolName := if isAwg then "awg" else "wireguard"
      let containerName := if isAwg then "amnezia-awg" else "amnezia-wireguard"
      let wireguardConfig := (((JsonObject.empty.insert "last_config" (.str (toJson lastConfig))).insert
        "isThirdPartyConfig" (.bool true)).insert "port" (.str port)).insert "transport_proto" (.str "udp")
      let containers := (JsonObject.empty.insert "container" (.str containerName)).insert protocolName
        (.obj wireguardConfig)
      let config := ((JsonObject.empty.insert "containers" (.arr [.obj containers])).insert
        "defaultContainer" (.str containerName)).insert "description" (.str description)
      let config :=
        match dnsMatch lines with
        | some (first,second) => (config.insert "dns1" (.str (String.ofList first))).insert "dns2"
            (.str (String.ofList second))
        | none => config
      some ⟨config.insert "hostName" (.str url.host),lastConfig⟩

end

end ImportController
end AlzheimerVPN
