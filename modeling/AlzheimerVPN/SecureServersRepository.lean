import AlzheimerVPN.Runs
import AlzheimerVPN.Keyed
import AlzheimerVPN.ServerConfigUtils

/-! `SecureServersRepository`: the servers in memory, their order and the default one, beside the
part of the settings store that they are loaded from and written to. The stored list stands
here as the array that its text parses to, which is empty when the text is no array; signals
are left out. -/
namespace AlzheimerVPN

open Text ServerConfigUtils

/-- What `QUuid::createUuid` gives as a text: digits and hyphens, so neither empty nor with
blanks around it. -/
def Uuid := { s : String // s ≠ "" ∧ trimmed s = s }

def readStorageServerId (json : JsonObject) : String :=
  trimmed (json.value "storageServerId").toString

def withoutStorageServerId (json : JsonObject) : JsonObject := json.remove "storageServerId"

def embedStorageServerId (serverId : String) (payloadSansId : JsonObject) : JsonObject :=
  payloadSansId.insert "storageServerId" (.str serverId)

variable (serverId : String)

@[simp] lemma withoutStorageServerId_embed (json : JsonObject) :
    withoutStorageServerId (embedStorageServerId serverId json) = withoutStorageServerId json :=
  json.remove_insert _ _

@[simp] lemma embedStorageServerId_without (json : JsonObject) :
    embedStorageServerId serverId (withoutStorageServerId json) =
      embedStorageServerId serverId json :=
  json.insert_remove _ _

@[simp] lemma readStorageServerId_embed (json : JsonObject) :
    readStorageServerId (embedStorageServerId serverId json) = trimmed serverId := by
  simp [readStorageServerId,embedStorageServerId]

/-- The keys `Servers/serversList`, `Servers/defaultServerId` and `Servers/defaultServerIndex`. -/
structure ServersSettings where
  serversList : List Json
  defaultServerId : String
  defaultServerIndex : ℤ

structure SecureServersRepository where
  settings : ServersSettings
  serverJsonById : QMap JsonObject
  orderedServerIds : List String
  defaultServerId : String
  unsupportedFormatConfigsCount : ℕ

namespace SecureServersRepository

variable [ApiEndpoints] (r : SecureServersRepository)

def clearServerStateMaps : SecureServersRepository :=
  { r with serverJsonById := ∅, orderedServerIds := [] }

/-- The text of a new UUID is taken when the candidate is blank or already in use. -/
def normalizedOrGeneratedServerId (uuid : Uuid) (candidateId : String) : String :=
  let trimmed := trimmed candidateId
  if !trimmed.isEmpty && !r.serverJsonById.contains trimmed then trimmed else uuid.1

def updateDefaultServerFromStorage : SecureServersRepository :=
  let storedDefaultId := r.settings.defaultServerId
  let storedDefaultIndex := r.settings.defaultServerIndex
  if !storedDefaultId.isEmpty && r.serverJsonById.contains storedDefaultId then
    { r with defaultServerId := storedDefaultId }
  else if 0 ≤ storedDefaultIndex ∧ storedDefaultIndex < r.orderedServerIds.length then
    { r with defaultServerId := r.orderedServerIds.getD storedDefaultIndex.toNat "" }
  else { r with defaultServerId := r.orderedServerIds.headD "" }

def persistDefaultServerFields : SecureServersRepository :=
  let defaultServerId :=
    if r.orderedServerIds.isEmpty then ""
    else if !r.orderedServerIds.contains r.defaultServerId then r.orderedServerIds.headD ""
    else r.defaultServerId
  { r with
    defaultServerId := defaultServerId
    settings := { r.settings with defaultServerId := defaultServerId } }

/-- One round of the loop of `loadFromStorage`, with the UUID it would create. -/
def loadEntry (uuid : Uuid) (entry : Json) : SecureServersRepository :=
  let json := entry.toObject
  let serverId := r.normalizedOrGeneratedServerId uuid (readStorageServerId json)
  let strippedJson := withoutStorageServerId json
  if !isConfigFormatVersionSupported strippedJson then
    { r with unsupportedFormatConfigsCount := r.unsupportedFormatConfigsCount+1 }
  else if r.serverJsonById.contains serverId || configTypeFromJson strippedJson = .invalid then r
  else
    { r with
      serverJsonById := r.serverJsonById.insert serverId (embedStorageServerId serverId strippedJson)
      orderedServerIds := r.orderedServerIds++[serverId] }

/-- The loop over the stored entries; `uuids i` is the UUID of the `i`-th one. -/
def loadEntries (uuids : ℕ → Uuid) (entries : List Json) : SecureServersRepository :=
  entries.zipIdx.foldl (fun r entry => r.loadEntry (uuids entry.2) entry.1) r

def loadFromStorage (uuids : ℕ → Uuid) : SecureServersRepository :=
  let cleared := { r.clearServerStateMaps with unsupportedFormatConfigsCount := 0 }
  (cleared.loadEntries uuids r.settings.serversList).updateDefaultServerFromStorage

/-- The constructor. -/
def new (uuids : ℕ → Uuid) (settings : ServersSettings) : SecureServersRepository :=
  let empty : SecureServersRepository := ⟨settings,∅,[],"",0⟩
  (empty.loadFromStorage uuids).persistDefaultServerFields

def syncToStorage : SecureServersRepository :=
  let serversArray := r.orderedServerIds.filterMap fun serverId => r.serverJsonById[serverId]?
  { r with
    settings := { r.settings with serversList := serversArray.map .obj } }.persistDefaultServerFields

def invalidateCache (uuids : ℕ → Uuid) : SecureServersRepository := r.loadFromStorage uuids

def clearServers : SecureServersRepository :=
  { r.clearServerStateMaps with defaultServerId := "" }.syncToStorage

def addServer (uuid : Uuid) (serverId : String) (serverJson : JsonObject) (kind : ConfigType) :
    String × SecureServersRepository :=
  let id := r.normalizedOrGeneratedServerId uuid serverId
  let strippedJson := withoutStorageServerId serverJson
  if r.serverJsonById.contains id || kind = .invalid then (id,r)
  else if !isConfigFormatVersionSupported strippedJson || configTypeFromJson strippedJson ≠ kind then
    (id,r)
  else
    (id,{ r with
      serverJsonById := r.serverJsonById.insert id (embedStorageServerId id strippedJson)
      orderedServerIds := r.orderedServerIds++[id]
      defaultServerId := if r.defaultServerId.isEmpty then id else r.defaultServerId }.syncToStorage)

/-- The old configuration is taken out first and put back when the new one has another kind. -/
def editServer (serverId : String) (serverJson : JsonObject) (kind : ConfigType) :
    SecureServersRepository :=
  if !r.orderedServerIds.contains serverId || kind = .invalid then r
  else match r.serverJsonById[serverId]? with
  | none => r
  | some oldJson =>
    let oldKind := configTypeFromJson (withoutStorageServerId oldJson)
    let removed := r.serverJsonById.erase serverId
    let strippedNew := withoutStorageServerId serverJson
    if configTypeFromJson strippedNew ≠ kind then
      let strippedOld := withoutStorageServerId oldJson
      if oldKind ≠ .invalid ∧ configTypeFromJson strippedOld = oldKind then
        { r with serverJsonById := removed.insert serverId (embedStorageServerId serverId strippedOld) }
      else { r with serverJsonById := removed }
    else
      { r with serverJsonById :=
          removed.insert serverId (embedStorageServerId serverId strippedNew) }.syncToStorage

def removeServer (serverId : String) : SecureServersRepository :=
  let removedIndex := r.orderedServerIds.idxOf serverId
  if !r.orderedServerIds.contains serverId then r
  else if !r.serverJsonById.contains serverId then r
  else
    let orderedServerIds := r.orderedServerIds.eraseIdx removedIndex
    let defaultServerId :=
      if orderedServerIds.isEmpty then ""
      else if r.defaultServerId = serverId then
        orderedServerIds.getD (min removedIndex (orderedServerIds.length-1)) ""
      else if !orderedServerIds.contains r.defaultServerId then orderedServerIds.headD ""
      else r.defaultServerId
    { r with
      serverJsonById := r.serverJsonById.erase serverId
      orderedServerIds := orderedServerIds
      defaultServerId := defaultServerId }.syncToStorage

def setDefaultServer (serverId : String) : SecureServersRepository :=
  if r.orderedServerIds.isEmpty then r
  else if !r.serverJsonById.contains serverId then r
  else if !r.orderedServerIds.contains serverId then r
  else if r.defaultServerId = serverId then r
  else { r with defaultServerId := serverId }.persistDefaultServerFields

def serverKind (serverId : String) : ConfigType :=
  match r.serverJsonById[serverId]? with
  | none => .invalid
  | some json => configTypeFromJson (withoutStorageServerId json)

def defaultServerIndex : ℕ :=
  if r.orderedServerIds.isEmpty then 0
  else if r.orderedServerIds.contains r.defaultServerId then
    r.orderedServerIds.idxOf r.defaultServerId
  else 0

/-- The operations that change the servers. -/
inductive Change
  | addServer (uuid : Uuid) (serverId : String) (serverJson : JsonObject) (kind : ConfigType)
  | editServer (serverId : String) (serverJson : JsonObject) (kind : ConfigType)
  | removeServer (serverId : String)
  | setDefaultServer (serverId : String)
  | clearServers

def apply : Change → SecureServersRepository
  | .addServer uuid serverId serverJson kind => (r.addServer uuid serverId serverJson kind).2
  | .editServer serverId serverJson kind => r.editServer serverId serverJson kind
  | .removeServer serverId => r.removeServer serverId
  | .setDefaultServer serverId => r.setDefaultServer serverId
  | .clearServers => r.clearServers

/-- Everything that can be called, a new start from the stored settings included. -/
inductive Call
  | load (uuids : ℕ → Uuid) | invalidateCache (uuids : ℕ → Uuid) | change (c : Change)

def call : Call → SecureServersRepository
  | .load uuids => new uuids r.settings
  | .invalidateCache uuids => r.invalidateCache uuids
  | .change c => r.apply c

end SecureServersRepository
end AlzheimerVPN
