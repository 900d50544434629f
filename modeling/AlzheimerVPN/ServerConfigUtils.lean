import AlzheimerVPN.Json
import AlzheimerVPN.Text

/-! `serverConfigUtils`: the format version of a server's configuration and its kind, both read
off its JSON object. -/
namespace AlzheimerVPN

open Text

/-- The endpoints that a build has in `FREE_V2_ENDPOINT` and `PREM_V1_ENDPOINT`. -/
class ApiEndpoints where
  freeV2Endpoint : String
  premV1Endpoint : String

namespace ServerConfigUtils

inductive ConfigType
  | amneziaFreeV2 | amneziaFreeV3 | amneziaPremiumV1 | amneziaPremiumV2 | selfHosted
  | externalPremium | selfHostedAdmin | selfHostedUser | native | invalid
  deriving DecidableEq, Repr

def currentConfigFormatVersion : ℤ := 1

def configFormatVersion (json : JsonObject) : ℤ := (json.value "format_version").toInt

def isConfigFormatVersionSupported (json : JsonObject) : Bool :=
  configFormatVersion json ≤ currentConfigFormatVersion

def isThirdPartyProtocol (field : String × Json) : Bool :=
  field.1 != "container" &&
    let protocolObj := field.2.toObject
    protocolObj.contains "isThirdPartyConfig" && (protocolObj.value "isThirdPartyConfig").toBool

def hasThirdPartyConfig (json : JsonObject) : Bool :=
  (json.value "containers").toArray.any fun val => val.toObject.any isThirdPartyProtocol

/-- `SelfHostedAdminServerConfig::hasCredentials` of the configuration that `fromJson` reads. -/
def hasCredentials (json : JsonObject) : Bool :=
  let port := if json.contains "port" then (json.value "port").toInt else 0
  !(json.value "userName").toString.isEmpty && !(json.value "password").toString.isEmpty && 0 < port

/-- The cases for `ConfigSource::AmneziaGateway`. -/
def gatewayType (json : JsonObject) : Option ConfigType :=
  let serviceType := ((json.value "api_config").toObject.value "service_type").toString
  if serviceType = "amnezia-premium" then some .amneziaPremiumV2
  else if serviceType = "amnezia-free" then some .amneziaFreeV3
  else if serviceType = "external-premium" then some .externalPremium
  else none

/-- The cases for `ConfigSource::Telegram`, which fall through to those of the gateway. -/
def telegramType [ApiEndpoints] (json : JsonObject) : Option ConfigType :=
  let apiEndpointValue := (json.value "api_endpoint").toString
  if containsText apiEndpointValue ApiEndpoints.premV1Endpoint then some .amneziaPremiumV1
  else if containsText apiEndpointValue ApiEndpoints.freeV2Endpoint then some .amneziaFreeV2
  else gatewayType json

def configTypeFromJson [ApiEndpoints] (json : JsonObject) : ConfigType :=
  let configVersion := (json.value "config_version").toInt
  let fromApi :=
    if configVersion = 1 then telegramType json
    else if configVersion = 2 then gatewayType json
    else none
  fromApi.getD <|
    if hasThirdPartyConfig json then .native
    else if hasCredentials json then .selfHostedAdmin
    else .selfHostedUser

variable (json : JsonObject)

lemma gatewayType_ne_invalid : gatewayType json ≠ some .invalid := by
  simp only [gatewayType]
  split_ifs <;> simp

lemma telegramType_ne_invalid [ApiEndpoints] : telegramType json ≠ some .invalid := by
  simp only [telegramType]
  split_ifs
  · simp
  · simp
  · exact gatewayType_ne_invalid json

/-- Every object is given a kind: one that no API case takes is self-hosted or native. -/
lemma configTypeFromJson_ne_invalid [ApiEndpoints] : configTypeFromJson json ≠ .invalid := by
  intro h
  simp only [configTypeFromJson] at h
  rw [Option.getD_eq_iff] at h
  rcases h with h | ⟨-,h⟩
  · split_ifs at h
    · exact telegramType_ne_invalid json h
    · exact gatewayType_ne_invalid json h
  · split_ifs at h

end ServerConfigUtils
end AlzheimerVPN
