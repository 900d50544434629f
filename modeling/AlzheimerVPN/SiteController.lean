import AlzheimerVPN.Runs
import AlzheimerVPN.Keyed
import AlzheimerVPN.DnsSplitRouteObserver
import AlzheimerVPN.VpnConnection

/-! `IpSplitTunnelingController` and the site maps of `SecureAppSettingsRepository`: the list
of sites the user sees, the map that is stored for each route mode, and the lookups that add
addresses to both. A text without a host part ends the process, since its first part is asked
for; such a call has no result. -/
namespace AlzheimerVPN

open Text

namespace SplitTunnelRule

/-- `fromText` with its only fault: a text without parts has no first part. -/
def fromText? [Qt] (text : String) : Option SplitTunnelRule :=
  if (hostParts text).isEmpty then none else some (fromText text)

end SplitTunnelRule

/-- A stored `QVariant`, by what `toStringList` makes of it. -/
inductive QVariant
  | invalid | string (s : String) | stringList (items : List String)
  | variantList (items : List String)
  deriving DecidableEq, Repr

def QVariant.toStringList : QVariant → List String
  | .invalid => []
  | .string s => [s]
  | .stringList items => items
  | .variantList items => items

/-- `SecureAppSettingsRepository::siteIpList` of a stored value. -/
def QVariant.siteIpList (value : QVariant) : List String := AlzheimerVPN.siteIpList value.toStringList

/-- The addresses of `ips` are appended, except empty ones and those already there. -/
def mergeIps (previous ips : List String) : List String :=
  ips.foldl (fun merged ip => if !ip.isEmpty && !merged.contains ip then merged++[ip] else merged)
    previous

structure SecureAppSettingsRepository where
  routeMode : RouteMode
  vpnSites : RouteMode → QMap QVariant

namespace SecureAppSettingsRepository

variable (r : SecureAppSettingsRepository) (mode : RouteMode)

def setVpnSites (sites : QMap QVariant) : SecureAppSettingsRepository :=
  { r with vpnSites := Function.update r.vpnSites mode sites }

def addVpnSite (site : String) (ips : List String) : SecureAppSettingsRepository :=
  let sites := r.vpnSites mode
  let siteExisted := sites.contains site
  if siteExisted && ips.isEmpty then r
  else
    let previousIps := (sites.getD site .invalid).siteIpList
    let mergedIps := mergeIps previousIps ips
    if siteExisted && mergedIps == previousIps then r
    else r.setVpnSites mode (sites.insert site (.stringList mergedIps))

/-- One round of `addVpnSites`, with the flag that says whether anything has changed. -/
def addEntry (allSites : QMap QVariant × Bool) (entry : String × List String) :
    QMap QVariant × Bool :=
  let previousIps := (allSites.1.getD entry.1 .invalid).siteIpList
  let mergedIps := mergeIps previousIps entry.2
  if !allSites.1.contains entry.1 || mergedIps != previousIps then
    (allSites.1.insert entry.1 (.stringList mergedIps),true)
  else allSites

def addVpnSites (sites : QMap (List String)) : SecureAppSettingsRepository :=
  let allSites := sites.toList.foldl addEntry (r.vpnSites mode,false)
  if allSites.2 then r.setVpnSites mode allSites.1 else r

def removeVpnSite (site : String) : SecureAppSettingsRepository :=
  let sites := r.vpnSites mode
  if !sites.contains site then r else r.setVpnSites mode (sites.erase site)

def removeAllVpnSites : SecureAppSettingsRepository := r.setVpnSites mode ∅

end SecureAppSettingsRepository

inductive CheckState
  | unchecked | resolving | resolved | failed | dynamic | address
  deriving DecidableEq, Repr

structure SiteCheck where
  state : CheckState := .unchecked
  error : String := ""
  lookupId : ℤ := -1
  deriving DecidableEq, Repr

/-- `QHostInfo`, the answer to a lookup. -/
structure HostInfo where
  lookupId : ℤ
  /-- `error() == QHostInfo::NoError` -/
  noError : Bool
  errorString : String
  addresses : List HostAddress
  deriving DecidableEq, Repr

structure IpSplitTunnelingController where
  repository : SecureAppSettingsRepository
  currentRouteMode : RouteMode
  sites : List (String × List String)
  siteChecks : QMap SiteCheck
  /-- The hosts of all lookups so far; a lookup's id is its place here. -/
  lookups : List String

namespace IpSplitTunnelingController

variable [Qt]

open SplitTunnelRule

def validateHostname (hostname : String) : Option Bool :=
  (fromText? hostname).map SplitTunnelRule.isValid

/-- The entry of the list that has the host, if there is one, is changed. -/
def updateSite (hostname : String) (f : List String → List String) :
    List (String × List String) → List (String × List String)
  | [] => []
  | site::sites =>
    if site.1 = hostname then (site.1,f site.2)::sites else site::updateSite hostname f sites

section

variable (s : IpSplitTunnelingController)

/-- The stored sites of the mode in use. -/
def stored : QMap QVariant := s.repository.vpnSites s.currentRouteMode

def clearChecks : IpSplitTunnelingController := { s with siteChecks := ∅ }

def checkSite (hostname : String) : Option IpSplitTunnelingController := do
  let rule ← fromText? hostname
  let host := rule.normalizedText
  if rule.type != .exactHost || !s.stored.contains host then return s
  if (s.siteChecks.getD host {}).state = .resolving then return s
  -- `lookupHost` gives the next id
  return { s with
    siteChecks := s.siteChecks.insert host ⟨.resolving,"",s.lookups.length⟩
    lookups := s.lookups++[host] }

def addSiteInternal (hostname : String) (ips : List String) : Bool × IpSplitTunnelingController :=
  if s.stored.contains hostname && ips.isEmpty then (false,s)
  else
    match s.sites.lookup hostname with
    | some previousIps =>
      if mergeIps previousIps ips == previousIps then (false,s)
      else (true,{ s with
        sites := updateSite hostname (mergeIps · ips) s.sites
        repository := s.repository.addVpnSite s.currentRouteMode hostname ips })
    | none => (true,{ s with
        sites := s.sites++[(hostname,ips)]
        repository := s.repository.addVpnSite s.currentRouteMode hostname ips })

/-- One round of the loop that normalises the sites to add. -/
def normalizeEntry (normalizedSites : QMap (List String)) (entry : String × List String) :
    Option (QMap (List String)) := do
  let rule ← fromText? entry.1
  let hostname := rule.normalizedText
  if !(← validateHostname hostname) then return normalizedSites
  return normalizedSites.insert hostname
    (mergeIps (normalizedSites.getD hostname []) (entry.2.map trimmed))

/-- One round of the loop that merges the sites to add with the list. -/
def showEntry (sites : List (String × List String)) (entry : String × List String) :
    List (String × List String) :=
  if (sites.lookup entry.1).isSome then updateSite entry.1 (mergeIps · entry.2) sites
  else sites++[entry]

/-- The sites to add go into the list and into the map, in place of the old ones or beside
them. -/
def mergeSites (normalizedSites : QMap (List String)) (replaceExisting : Bool) :
    IpSplitTunnelingController :=
  let s := if replaceExisting then { s.clearChecks with sites := [] } else s
  let repository :=
    if replaceExisting then s.repository.removeAllVpnSites s.currentRouteMode else s.repository
  { s with
    sites := normalizedSites.toList.foldl showEntry s.sites
    repository := repository.addVpnSites s.currentRouteMode normalizedSites }

def addSites (sites : QMap (List String)) (replaceExisting : Bool) :
    Option IpSplitTunnelingController := do
  let normalizedSites ← sites.toList.foldlM normalizeEntry ∅
  (normalizedSites.toList.filter fun entry => entry.2.isEmpty).foldlM
    (fun s entry => checkSite s entry.1) (s.mergeSites normalizedSites replaceExisting)

def addSite (hostname : String) : Option (Bool × IpSplitTunnelingController) := do
  let rule ← fromText? hostname
  let normalizedHostname := rule.normalizedText
  if !(← validateHostname normalizedHostname) then return (false,s)
  let added := s.addSiteInternal normalizedHostname []
  if rule.type == .ipSubnet || rule.isDynamicHostRule then return (true,added.2)
  if added.1 then return (true,← added.2.checkSite normalizedHostname)
  return (false,added.2)

def removeSite (hostname : String) : Bool × IpSplitTunnelingController :=
  if (s.sites.lookup hostname).isSome then
    (true,{ s with
      siteChecks := s.siteChecks.erase hostname
      sites := s.sites.eraseP (·.1 == hostname)
      repository := s.repository.removeVpnSite s.currentRouteMode hostname })
  else (false,s)

def removeSites : IpSplitTunnelingController :=
  { s.clearChecks with
    sites := []
    repository := s.repository.removeAllVpnSites s.currentRouteMode }

/-- One round of the loop that normalises the stored sites. -/
def fillEntry (normalizedSitesMap : QMap QVariant) (entry : String × QVariant) :
    Option (QMap QVariant) := do
  let rule ← fromText? entry.1
  let hostname := rule.normalizedText
  if !(← validateHostname hostname) then return normalizedSitesMap
  return normalizedSitesMap.insert hostname (.stringList
    (mergeIps (normalizedSitesMap.getD hostname .invalid).siteIpList
      (entry.2.siteIpList.map trimmed)))

def fillSites : Option IpSplitTunnelingController := do
  let sitesMap := s.stored
  let normalizedSitesMap ← sitesMap.toList.foldlM fillEntry ∅
  let s := { s with
    sites := normalizedSitesMap.toList.map fun entry => (entry.1,entry.2.siteIpList) }
  if normalizedSitesMap = sitesMap then return s
  let repository := s.repository.removeAllVpnSites s.currentRouteMode
  return { s with
    repository := repository.addVpnSites s.currentRouteMode
      (normalizedSitesMap.map fun _ value => value.siteIpList) }

def setRouteMode (routeMode : RouteMode) : Option IpSplitTunnelingController := do
  let s ← fillSites { s.clearChecks with currentRouteMode := routeMode }
  return { s with repository := { s.repository with routeMode := routeMode } }

def processSiteAfterResolve (hostname : String) (ips : List String) : IpSplitTunnelingController :=
  { s with
    sites := updateSite hostname (mergeIps · ips) s.sites
    repository := s.repository.addVpnSite s.currentRouteMode hostname ips }

def onHostResolved (hostname : String) (hostInfo : HostInfo) : IpSplitTunnelingController :=
  match s.siteChecks[hostname]? with
  | none => s
  | some check =>
    if check.state ≠ .resolving ∨ check.lookupId ≠ hostInfo.lookupId then s
    else
      let allIpv4 := ((hostInfo.addresses.filter HostAddress.isIPv4).map HostAddress.toString).eraseDups
      if hostInfo.noError && !allIpv4.isEmpty then
        { s with siteChecks := s.siteChecks.insert hostname ⟨.resolved,"",-1⟩ }.processSiteAfterResolve
          hostname allIpv4
      else
        let error :=
          if hostInfo.noError then "No IPv4 addresses returned" else hostInfo.errorString
        { s with siteChecks := s.siteChecks.insert hostname ⟨.failed,error,-1⟩ }

end

/-- The constructor; the old mode of all sites is not used any more. -/
def new (repository : SecureAppSettingsRepository) : Option IpSplitTunnelingController :=
  let repository :=
    if repository.routeMode = .vpnAllSites then { repository with routeMode := .vpnOnlyForwardSites }
    else repository
  fillSites
    { repository
      currentRouteMode := repository.routeMode
      sites := []
      siteChecks := ∅
      lookups := [] }

/-- The addresses an entry of a site file lists. -/
def listedIps (entry : JsonObject) : List String :=
  let ips := if (entry.value "ips").isArray then (entry.value "ips").toArray.map Json.toString else []
  let singleIp := (entry.value "ip").toString
  siteIpList (if singleIp.isEmpty then ips else ips++[singleIp])

def importEntry (sites : QMap (List String)) (jsonValue : Json) : Option (QMap (List String)) := do
  let jsonObject := jsonValue.toObject
  let hostname := trimmed (jsonObject.value "hostname").toString
  let rule ← fromText? hostname
  let normalizedHostname := rule.normalizedText
  if !(← validateHostname normalizedHostname) then return sites
  return sites.insert normalizedHostname (listedIps jsonObject)

/-- `importSitesFromJson` of a parsed document; the text of a parse error is Qt's. -/
def importSitesFromJson (s : IpSplitTunnelingController) (document : Except String Json)
    (replaceExisting : Bool) : Option (Except String IpSplitTunnelingController) :=
  match document with
  | .error errorString => some (.error ("Failed to parse JSON data: "++errorString))
  | .ok (.arr jsonArray) => do
    let sites ← jsonArray.foldlM importEntry ∅
    return .ok (← s.addSites sites replaceExisting)
  | .ok _ => some (.error "The JSON data is not an array")

end IpSplitTunnelingController

end AlzheimerVPN
