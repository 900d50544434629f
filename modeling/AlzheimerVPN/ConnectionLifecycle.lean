import Mathlib.Data.List.Basic
import AlzheimerVPN.Reentrancy
import AlzheimerVPN.VpnConnection

/-! The life cycle of `VpnConnection` on macOS: its state setter, the timers, the
recovery of a connected tunnel, and the slots that connect, reconnect and disconnect.
A synchronous call of the service or of the protocol object is a wait, in which the
event loop may dispatch any other slot. Texts of the log are left out, and so is the
timer `m_dnsFlushDebounce`, which nothing starts. -/
namespace AlzheimerVPN.Lifecycle

open Reentrancy

/-- `Vpn::ConnectionState` -/
inductive ConnectionState
  | unknown | disconnected | preparing | connecting | connected | disconnecting | reconnecting
  | error
  deriving DecidableEq, Repr

inductive ConnectionHealth
  | unknown | idle | preparingConfig | checkingLocalNetwork | checkingApi | checkingLocalService
  | startingProtocol | checkingTunnelInterface | waitingHandshake | applyingRoutes
  | checkingFirewall | checkingDns | checkingTraffic | connecting | checking | healthy
  | backendFailed | localNetworkUnavailable | apiUnavailable | apiSslError | apiDecryptionFailed
  | localServiceUnavailable | protocolStartFailed | tunnelInterfaceMissing | handshakeTimeout
  | routeMismatch | firewallBlocked | dnsFailed | noTraffic | recovering | unknownFailure
  deriving DecidableEq, Repr

def connectionHealthProblem : ConnectionHealth → Bool
  | .backendFailed | .localNetworkUnavailable | .apiUnavailable | .apiSslError
  | .apiDecryptionFailed | .localServiceUnavailable | .protocolStartFailed
  | .tunnelInterfaceMissing | .handshakeTimeout | .routeMismatch | .firewallBlocked
  | .dnsFailed | .noTraffic | .unknownFailure => true
  | _ => false

/-- The codes that `VpnConnection` names; a protocol may report others. -/
inductive ErrorCode
  | noError | unknownError | internalError | amneziaServiceConnectionFailed | vpnBackendFailure
  | vpnHandshakeTimeout | vpnNoTrafficError
  | other (code : ℕ)
  deriving DecidableEq, Repr

def connectionHealthForError : ErrorCode → ConnectionHealth
  | .amneziaServiceConnectionFailed | .vpnBackendFailure => .localServiceUnavailable
  | .vpnHandshakeTimeout => .handshakeTimeout
  | .vpnNoTrafficError => .noTraffic
  | _ => .unknownFailure

def recoverableProtocolError : ErrorCode → Bool
  | .amneziaServiceConnectionFailed | .vpnBackendFailure | .vpnHandshakeTimeout
  | .vpnNoTrafficError => true
  | _ => false

inductive DockerContainer
  | none | awg | awg2 | wireGuard | openVpn | cloak | shadowSocks | ipsec | xray | ssXray
  | torWebSite | dns | sftp | socks5Proxy | mtProxy | telemt | tProxy
  deriving DecidableEq, Repr

def isAwgContainer (container : DockerContainer) : Bool :=
  container == .awg || container == .awg2

/-- Whether `VpnProtocol::factory` knows the container on macOS. -/
def factorySupports : DockerContainer → Bool
  | .openVpn | .wireGuard | .awg2 | .awg | .xray | .ssXray => true
  | _ => false

inductive PendingNetworkAction
  | none | startConnection | requestReconnect | startSilentReconnect
  deriving DecidableEq, Repr

/-- A protocol object: which one it is, what it was made for, its own `lastError()`, and
whether its signals `connectionStateChanged` and `protocolError` are connected. -/
structure Protocol where
  id : ℕ
  container : DockerContainer
  lastError : ErrorCode
  stateSignals : Bool
  errorSignals : Bool
  deriving DecidableEq, Repr

/-- What the two repositories say; `sitesWithRoutes` are the modes whose sites give
`addSitesRoutes` an address to route. -/
structure Settings where
  defaultContainer : DockerContainer
  isSitesSplitTunnelingEnabled : Bool
  routeMode : RouteMode
  isKillSwitchEnabled : Bool
  sitesWithRoutes : List RouteMode
  deriving DecidableEq, Repr

def Settings.legacyRouting (settings : Settings) : Bool :=
  !isAwgContainer settings.defaultContainer && settings.defaultContainer != .wireGuard

/-- `requestStatus()`, which only the WireGuard protocol answers. -/
def Protocol.requestStatus (protocol : Protocol) : Bool :=
  isAwgContainer protocol.container || protocol.container == .wireGuard

/-- What the object does that a disconnect has to end. -/
inductive Action
  | connectToVpn | disconnectFromVpn | create | start | nullDereference
  deriving DecidableEq, Repr

/-- The signals of `VpnConnection`. -/
inductive Emission
  | connectionStateChanged (state : ConnectionState)
  | connectionHealthChanged (health : ConnectionHealth)
  | vpnProtocolError (error : ErrorCode)
  deriving DecidableEq, Repr

/-- The members of `VpnConnection`. A timer is the flag of its being active, `settings`
is missing while the repositories are null, `siteRouteTimers` counts the single shots
armed for the site routes, `created` the protocol objects made so far and `replaced` those
replaced by a silent reconnect; `actions` lists what has been done and `emitted` what has
been emitted, the latest first. -/
structure Connection where
  connectionState : ConnectionState
  connectionHealth : ConnectionHealth
  lastError : ErrorCode
  vpnProtocol : Option Protocol
  settings : Option Settings
  currentServerId : String
  currentContainer : DockerContainer
  pendingNetworkAction : PendingNetworkAction
  connectingTimer : Bool
  healthTimer : Bool
  connectedRecoveryTimer : Bool
  pendingNetworkTimer : Bool
  pendingNetworkDeadlineTimer : Bool
  siteRouteTimers : ℕ
  connectivityProbe : Bool
  healthChecksWithoutTraffic : ℕ
  connectedRecoveryAttempts : ℕ
  noTrafficRecoveryAttempted : Bool
  silentReconnectInProgress : Bool
  stoppingAfterFailure : Bool
  created : ℕ
  replaced : ℕ
  actions : List Action
  emitted : List Emission
  deriving DecidableEq, Repr

def initial (settings : Option Settings) : Connection where
  connectionState := .disconnected
  connectionHealth := .idle
  lastError := .noError
  vpnProtocol := none
  settings := settings
  currentServerId := ""
  currentContainer := .none
  pendingNetworkAction := .none
  connectingTimer := false
  healthTimer := false
  connectedRecoveryTimer := false
  pendingNetworkTimer := false
  pendingNetworkDeadlineTimer := false
  siteRouteTimers := 0
  connectivityProbe := false
  healthChecksWithoutTraffic := 0
  connectedRecoveryAttempts := 0
  noTrafficRecoveryAttempted := false
  silentReconnectInProgress := false
  stoppingAfterFailure := false
  created := 0
  replaced := 0
  actions := []
  emitted := []

def kMaxConnectedRecoveryAttempts : ℕ := 3

namespace Connection

variable (s : Connection)

def record (action : Action) : Connection := {s with actions := action::s.actions}

def emit (emission : Emission) : Connection := {s with emitted := emission::s.emitted}

def setRepositories (settings : Option Settings) : Connection := {s with settings := settings}

def setState (state : ConnectionState) : Connection := {s with connectionState := state}

def setProtocol (protocol : Option Protocol) : Connection := {s with vpnProtocol := protocol}

def setProtocolError (error : ErrorCode) : Connection :=
  s.setProtocol (s.vpnProtocol.map fun protocol => {protocol with lastError := error})

/-- A new protocol object for the current container becomes `m_vpnProtocol`. -/
def adoptProtocol : Connection :=
  {s.record .create with
    vpnProtocol := some ⟨s.created,s.currentContainer,.noError,false,false⟩,
    created := s.created+1}

def createProtocolConnections : Connection :=
  s.setProtocol (s.vpnProtocol.map fun protocol =>
    {protocol with stateSignals := true,errorSignals := true})

def disconnectErrors : Connection :=
  s.setProtocol (s.vpnProtocol.map fun protocol => {protocol with errorSignals := false})

def disconnectSignals : Connection :=
  s.setProtocol (s.vpnProtocol.map fun protocol =>
    {protocol with stateSignals := false,errorSignals := false})

def countReplacement : Connection := {s with replaced := s.replaced+1}

def setSilentReconnect (active : Bool) : Connection :=
  {s with silentReconnectInProgress := active}

def setStoppingAfterFailure (active : Bool) : Connection :=
  {s with stoppingAfterFailure := active}

def setRecoveryAttempts (attempts : ℕ) : Connection :=
  {s with connectedRecoveryAttempts := attempts}

def setRecoveryAttempted (attempted : Bool) : Connection :=
  {s with noTrafficRecoveryAttempted := attempted}

def setSiteRouteTimers (timers : ℕ) : Connection := {s with siteRouteTimers := timers}

def markLastError (error : ErrorCode) : Connection := {s with lastError := error}

def shouldPublishConnectionHealth (health : ConnectionHealth) : Bool :=
  match s.connectionState with
  | .disconnected =>
    health == .idle || (s.lastError != .noError && connectionHealthProblem health)
  | .error => connectionHealthProblem health
  | _ => true

def publish (health : ConnectionHealth) : Connection :=
  {s with connectionHealth := health,emitted := .connectionHealthChanged health::s.emitted}

def setConnectionHealth (health : ConnectionHealth) : Connection :=
  if s.shouldPublishConnectionHealth health && s.connectionHealth != health then s.publish health
  else s

def startConnectingWatchdog : Connection := {s with connectingTimer := true}

def stopConnectingWatchdog : Connection := {s with connectingTimer := false}

def stopConnectedRecovery : Connection := {s with connectedRecoveryTimer := false}

def startConnectedRecovery : Connection := {s with connectedRecoveryTimer := true}

def stopConnectivityProbe : Connection := {s with connectivityProbe := false}

def startConnectivityProbe : Connection := {s with connectivityProbe := true}

def stopConnectedHealthCheck : Connection :=
  {s with healthTimer := false,healthChecksWithoutTraffic := 0}

/-- `onBytesChanged` -/
def countTraffic (received : ℕ) : Connection :=
  if s.connectionState = .connected ∧ 0 < received then {s with healthChecksWithoutTraffic := 0}
  else s

def countHealthCheck : Connection :=
  {s with healthChecksWithoutTraffic := s.healthChecksWithoutTraffic+1}

def reportChecking : Connection :=
  if connectionHealthProblem s.connectionHealth then s
  else s.setConnectionHealth .checkingTraffic

def startConnectedHealthCheck : Connection :=
  {s.reportChecking with healthTimer := true,healthChecksWithoutTraffic := 0}

def stopPendingNetworkAction : Connection :=
  {s with pendingNetworkAction := .none,pendingNetworkTimer := false,
          pendingNetworkDeadlineTimer := false}

/-- A `Disconnected` forgets the error, unless the health still shows a problem. -/
def forgetError : Connection :=
  if connectionHealthProblem s.connectionHealth then s else s.markLastError .noError

def reportFailure : Connection :=
  if connectionHealthProblem s.connectionHealth then s
  else s.setConnectionHealth .unknownFailure

def stopDeadline : Connection := {s with pendingNetworkDeadlineTimer := false}

def stopTimers : Connection :=
  s.stopConnectingWatchdog.stopConnectivityProbe.stopConnectedHealthCheck.stopConnectedRecovery

def awaitConnection : Connection :=
  s.stopConnectedRecovery.startConnectingWatchdog.stopConnectivityProbe.stopConnectedHealthCheck

/-- The first switch of `onConnectionStateChanged`. -/
def enterState : ConnectionState → Connection
  | .connecting =>
    (s.setConnectionHealth
      (if s.silentReconnectInProgress then .recovering else .startingProtocol)).awaitConnection
  | .reconnecting => (s.setConnectionHealth .recovering).awaitConnection
  | .connected => s.stopConnectingWatchdog.setConnectionHealth .applyingRoutes
  | .disconnected => s.stopTimers.forgetError.setConnectionHealth .idle
  | .error => s.stopTimers.reportFailure
  | .preparing => s.setConnectionHealth .preparingConfig
  | .disconnecting | .unknown => s.stopTimers

/-- What `setConnectionState` changes before the state itself. -/
def admitState : ConnectionState → Connection
  | .connected => s.setSilentReconnect false
  | .error =>
    if s.lastError = .noError ∧ s.vpnProtocol.all (fun p => p.lastError = .noError) then
      s.markLastError .unknownError
    else s
  | _ => s

/-- What `setConnectionState` does after the state has been handled. -/
def leaveState (previousState state : ConnectionState) : Connection :=
  if state = .disconnected ∧ previousState = .reconnecting then s.setState previousState
  else s.emit (.connectionStateChanged state)

/-- The members `connectToVpn` sets before it calls the service. -/
def beginConnection (serverId : String) (container : DockerContainer) : Connection :=
  {s.stopConnectedRecovery.stopPendingNetworkAction with
    lastError := .noError,connectedRecoveryAttempts := 0,noTrafficRecoveryAttempted := false,
    stoppingAfterFailure := false,currentServerId := serverId,currentContainer := container}

/-- The members `disconnectFromVpn` resets before it stops the protocol. -/
def cancelConnection : Connection :=
  {s.stopPendingNetworkAction.stopConnectedRecovery.stopConnectingWatchdog with
    silentReconnectInProgress := false,stoppingAfterFailure := false,
    connectedRecoveryAttempts := 0,noTrafficRecoveryAttempted := false}

/-- `deferUntilPhysicalNetworkReady` once the network is known not to be ready. -/
def defer (action : PendingNetworkAction) (health : ConnectionHealth) : Connection :=
  let s := {s with pendingNetworkAction := action,pendingNetworkTimer := true,
                   pendingNetworkDeadlineTimer :=
                     s.pendingNetworkDeadlineTimer || action == PendingNetworkAction.startConnection}
  (s.stopConnectingWatchdog.stopConnectedRecovery.stopConnectivityProbe).setConnectionHealth health

def canRecover : Bool :=
  s.connectionState == .connected && !s.silentReconnectInProgress && s.vpnProtocol.isSome &&
    !s.currentServerId.isEmpty

def startRecovery : Connection :=
  ((s.setRecoveryAttempts (s.connectedRecoveryAttempts+1)).setRecoveryAttempted true)
    |>.stopConnectedHealthCheck |>.stopConnectivityProbe |>.startConnectedRecovery

/-- `recoverConnectedTunnel` after it has set the error and the health. -/
def scheduleRecovery : Bool × Connection :=
  if !s.canRecover then (false,s.stopConnectedHealthCheck)
  else if s.connectedRecoveryTimer || s.pendingNetworkAction != .none then (true,s)
  else if kMaxConnectedRecoveryAttempts ≤ s.connectedRecoveryAttempts then
    (false,s.stopConnectedHealthCheck)
  else (true,s.startRecovery)

def recoverConnectedTunnel (health : ConnectionHealth) (error : ErrorCode) : Bool × Connection :=
  ((s.markLastError error).setConnectionHealth health).scheduleRecovery

end Connection

/-- The calls that wait: for the service, or inside a method of the protocol object. -/
inductive Wait
  | service | prepare | start | stop
  deriving DecidableEq, Repr

/-- What such a call gives: whether it succeeded, and the code of `start()`. -/
structure Answer where
  success : Bool
  error : ErrorCode

abbrev Slot (α : Type) := Handler Connection Wait Answer α

def ipc : Slot Bool := do
  return (← waitFor .service).success

/-- `m_vpnProtocol->…` -/
def dereference : Slot Unit :=
  update fun s => if s.vpnProtocol.isNone then s.record .nullDereference else s

def stopProtocol : Slot Unit := do
  dereference
  discard (waitFor .stop)

def configureDnsSplitTunnel : Slot Unit := do
  match (← read).settings with
  | none => pure ()
  | some settings =>
    if settings.legacyRouting then
      update (·.setConnectionHealth .checkingDns)
      discard ipc

def addSplitTunnelRoutes (mode : RouteMode) : Slot Unit := do
  update (·.setConnectionHealth .applyingRoutes)
  if ← ipc then
    when (!(← ipc)) (update (·.setConnectionHealth .routeMismatch))
    if mode == .vpnAllExceptSites && (← read).settings.any (·.isKillSwitchEnabled) then
      update (·.setConnectionHealth .checkingFirewall)
      when (!(← ipc)) (update (·.setConnectionHealth .firewallBlocked))

def addSitesRoutes (mode : RouteMode) : Slot Unit := do
  match (← read).settings with
  | none => pure ()
  | some settings =>
    if settings.legacyRouting && settings.sitesWithRoutes.contains mode then
      addSplitTunnelRoutes mode

/-- The routes `0.0.0.0/1` and `128.0.0.0/1`; the second is waited for only after the
first. -/
def addHalves : Slot Bool := do
  if ← ipc then ipc else return false

/-- The routes around the tunnel of a connection that excludes sites. -/
def addExceptionRoutes : Slot Unit := do
  update (·.setConnectionHealth .applyingRoutes)
  dereference
  when (!(← addHalves)) (update (·.setConnectionHealth .routeMismatch))
  dereference
  when (!(← ipc)) (update (·.setConnectionHealth .routeMismatch))
  update (·.setConnectionHealth .checkingDns)
  dereference
  when (!(← ipc)) (update (·.setConnectionHealth .dnsFailed))
  dereference
  configureDnsSplitTunnel
  dereference
  addSitesRoutes .vpnAllExceptSites

/-- The legacy routes of a connection that came up; `known` are the settings it was
called with, should the repositories be gone meanwhile. -/
def addLegacyRoutes (known : Settings) : Slot Unit := do
  update (·.setConnectionHealth .checkingDns)
  when (!(← ipc)) (update (·.setConnectionHealth .dnsFailed))
  let settings := (← read).settings.getD known
  when (!settings.isSitesSplitTunnelingEnabled || settings.routeMode != .vpnAllExceptSites)
    dereference
  if settings.isSitesSplitTunnelingEnabled then
    dereference
    match settings.routeMode with
    | .vpnOnlyForwardSites => update fun s => s.setSiteRouteTimers (s.siteRouteTimers+1)
    | .vpnAllExceptSites => addExceptionRoutes
    | .vpnAllSites => pure ()
  else
    configureDnsSplitTunnel

/-- The service's part of `onConnectionStateChanged`. -/
def legacyRouting (state : ConnectionState) : Slot Unit := do
  match (← read).settings with
  | none => pure ()
  | some settings =>
    if settings.legacyRouting then
      if ← ipc then
        match state with
        | .connected => addLegacyRoutes settings
        | .disconnected | .error => configureDnsSplitTunnel
        | _ => pure ()

def onConnectionStateChanged (state : ConnectionState) : Slot Unit := do
  update (·.enterState state)
  legacyRouting state
  when (state == .connected) (update (·.startConnectedHealthCheck))

/-- `setConnectionState` below its test for a silent reconnect. -/
def changeState (state : ConnectionState) : Slot Unit := do
  let previousState := (← read).connectionState
  if (← read).stoppingAfterFailure && state == .disconnected then
    pure ()
  else if previousState == .error && state == .disconnected && (← read).lastError != .noError then
    pure ()
  else
    update (·.admitState state)
    update (·.setState state)
    onConnectionStateChanged state
    update (·.leaveState previousState state)

/-- `stop()` of the object there is, with its `Disconnected` ignored. -/
def stopAfterFailure : Slot Unit := do
  if (← read).vpnProtocol.isSome then
    update (·.setStoppingAfterFailure true)
    stopProtocol

def emitError (error : ErrorCode) : Slot Unit :=
  update (·.emit (.vpnProtocolError error))

/-- The error it ends in is no `Disconnected`, so `setConnectionState` goes straight on
to `changeState`. -/
def handleSilentReconnectFailure (health : ConnectionHealth) (error : ErrorCode) : Slot Bool := do
  update fun s => s.stopConnectingWatchdog.setSilentReconnect false
  update (·.disconnectSignals)
  let stops := (← read).vpnProtocol.isSome
  stopAfterFailure
  when stops (update (·.setStoppingAfterFailure false))
  let recovers := ((← read).recoverConnectedTunnel health error).1
  update fun s => (s.recoverConnectedTunnel health error).2
  if recovers then
    return true
  else
    changeState .error
    emitError error
    return false

def setConnectionState (state : ConnectionState) : Slot Unit := do
  let s ← read
  if s.silentReconnectInProgress && state == .disconnected && s.connectionState == .connected then
    discard (handleSilentReconnectFailure .localServiceUnavailable .amneziaServiceConnectionFailed)
  else
    changeState state

def onProtocolError (error : ErrorCode) : Slot Unit := do
  if (← read).silentReconnectInProgress && recoverableProtocolError error then
    discard (handleSilentReconnectFailure (connectionHealthForError error) error)
  else
    update (·.markLastError error)
    when (error == .amneziaServiceConnectionFailed || error == .vpnBackendFailure)
      (update (·.setConnectionHealth .localServiceUnavailable))
    let s ← read
    when (s.connectionState != .disconnected && s.connectionState != .disconnecting) do
      update (·.setSilentReconnect false)
      setConnectionState .error
    emitError error

def onConnectingTimedOut : Slot Unit := do
  let s ← read
  if s.silentReconnectInProgress && s.connectionState == .connected then
    discard (handleSilentReconnectFailure .handshakeTimeout .vpnHandshakeTimeout)
  else if s.connectionState == .connecting || s.connectionState == .reconnecting then
    update fun s => (s.markLastError .vpnHandshakeTimeout).setConnectionHealth .handshakeTimeout
    stopAfterFailure
    setConnectionState .error
    update (·.setStoppingAfterFailure false)
    emitError .vpnHandshakeTimeout

def checkConnectedHealth : Slot Unit := do
  let s ← read
  if s.connectionState != .connected then
    update (·.stopConnectedHealthCheck)
  else if s.silentReconnectInProgress || s.connectionHealth == .dnsFailed then
    pure ()
  else if s.connectionHealth == .healthy || s.vpnProtocol.isNone then
    update (·.startConnectivityProbe)
  else
    dereference
    if s.vpnProtocol.any (·.requestStatus) then
      update (·.countHealthCheck)
      if 5 ≤ (← read).healthChecksWithoutTraffic then
        update (·.startConnectivityProbe)
    else
      update (·.startConnectivityProbe)

def onConnectivityProbeSucceeded : Slot Unit := do
  update (·.stopConnectivityProbe)
  if (← read).connectionState == .connected then
    update fun s => ((s.markLastError .noError).setRecoveryAttempts 0).setRecoveryAttempted false
    if (← read).connectionHealth != .dnsFailed then
      update (·.setConnectionHealth .healthy)

def onConnectivityProbeFailed : Slot Unit := do
  update (·.stopConnectivityProbe)
  let s ← read
  if s.connectionState == .connected && !s.silentReconnectInProgress then
    update fun s => (s.recoverConnectedTunnel .noTraffic .vpnNoTrafficError).2

/-- The answer to the lookup of `checkDnsHealth`. -/
def onDnsHealth (resolved : Bool) : Slot Unit := do
  let s ← read
  if s.connectionState == .connected && !s.silentReconnectInProgress then
    if !resolved then
      update fun s => (s.recoverConnectedTunnel .dnsFailed .vpnNoTrafficError).2
    else if s.connectionHealth == .dnsFailed then
      update fun s => (s.markLastError .noError).setConnectionHealth .healthy

def deferUntilPhysicalNetworkReady (action : PendingNetworkAction)
    (health : ConnectionHealth) : Slot Bool := do
  if ← ipc then
    return false
  else
    update (·.defer action health)
    return true

/-- `VpnProtocol::factory` for a container it knows, assigned to `m_vpnProtocol`. -/
def createProtocol : Slot ℕ := do
  let s ← read
  update (·.adoptProtocol)
  return s.created

def startProtocol : Slot ErrorCode := do
  update (·.record .start)
  return (← waitFor .start).error

def isCurrent (id : ℕ) : Slot Bool := do
  return (← read).vpnProtocol.any (·.id == id)

def startConfiguredConnection : Slot Unit := do
  update fun s => s.stopPendingNetworkAction.startConnectingWatchdog
  let container := (← read).currentContainer
  if factorySupports container then
    let id ← createProtocol
    when (container == .openVpn) (discard (waitFor .prepare))
    update (·.createProtocolConnections)
    let error ← startProtocol
    if ← isCurrent id then
      if error != .noError then
        update fun s => (s.markLastError error).setConnectionHealth .protocolStartFailed
        setConnectionState .error
        emitError error
      else if !(← read).silentReconnectInProgress then
        update (·.setConnectionHealth .waitingHandshake)
  else
    update fun s => (s.setProtocol none).markLastError .internalError
    setConnectionState .error
    emitError .internalError

/-- `startSilentReconnect` from the new object on. -/
def replaceProtocol : Slot Unit := do
  if factorySupports (← read).currentContainer then
    let id ← createProtocol
    update fun s => s.createProtocolConnections.startConnectingWatchdog
    let error ← startProtocol
    if ← isCurrent id then
      if error == .noError then
        if (← read).silentReconnectInProgress then
          update (·.setConnectionHealth .recovering)
      else if recoverableProtocolError error then
        discard (handleSilentReconnectFailure (connectionHealthForError error) error)
      else
        update fun s => s.stopConnectingWatchdog.setSilentReconnect false
        update fun s => (s.markLastError error).setConnectionHealth .protocolStartFailed
        setConnectionState .error
        emitError error
  else
    update fun s => (s.setProtocol none).setSilentReconnect false
    update fun s => (s.markLastError .internalError).setConnectionHealth .protocolStartFailed
    setConnectionState .error
    emitError .internalError

def startSilentReconnect : Slot Unit := do
  if (← read).silentReconnectInProgress then
    pure ()
  else if ← deferUntilPhysicalNetworkReady .startSilentReconnect .recovering then
    pure ()
  else
    update fun s =>
      s.stopPendingNetworkAction.stopConnectingWatchdog.stopConnectedRecovery.setSilentReconnect true
    update (·.setConnectionHealth .recovering)
    update (·.disconnectSignals)
    stopProtocol
    update (·.countReplacement)
    replaceProtocol

def reconnectToVpn : Slot Unit := do
  let s ← read
  if s.vpnProtocol.isNone then
    pure ()
  else if s.silentReconnectInProgress || s.connectedRecoveryTimer ||
      s.pendingNetworkAction != .none then
    pure ()
  else if s.connectionState != .connected then
    pure ()
  else if ← deferUntilPhysicalNetworkReady .requestReconnect .recovering then
    pure ()
  else
    when (!(← read).silentReconnectInProgress) (update (·.setRecoveryAttempts 0))
    if (← read).connectedRecoveryAttempts < kMaxConnectedRecoveryAttempts then
      update fun s =>
        (s.setRecoveryAttempts (s.connectedRecoveryAttempts+1)).setRecoveryAttempted true
      startSilentReconnect

/-- `resumePendingNetworkAction` once the network is ready. -/
def resumeAction (action : PendingNetworkAction) (state : ConnectionState) : Slot Unit :=
  match action with
  | .startConnection => if state == .connecting then startConfiguredConnection else pure ()
  | .requestReconnect => if state == .connected then reconnectToVpn else pure ()
  | .startSilentReconnect => if state == .connected then startSilentReconnect else pure ()
  | .none => pure ()

def resumePendingNetworkAction : Slot Unit := do
  if (← read).pendingNetworkAction != .none then
    if ← ipc then
      let s ← read
      update (·.stopPendingNetworkAction)
      resumeAction s.pendingNetworkAction s.connectionState

/-- The end of the object an earlier connection left behind. -/
def dropProtocol : Slot Unit := do
  if (← read).vpnProtocol.isSome then
    update (·.disconnectErrors)
    stopProtocol
    update (·.setProtocol none)

/-- What `connectToVpn` does once it has been entered. -/
def openConnection (serverId : String) (container : DockerContainer) : Slot Unit := do
  if (← read).settings.isNone then
    setConnectionState .error
  else
    update (·.beginConnection serverId container)
    discard ipc
    setConnectionState .connecting
    if !(← ipc) then
      update fun s => (s.markLastError .amneziaServiceConnectionFailed).setConnectionHealth
        .localServiceUnavailable
      setConnectionState .error
      emitError .amneziaServiceConnectionFailed
    else
      dropProtocol
      if !(← deferUntilPhysicalNetworkReady .startConnection .checkingLocalNetwork) then
        startConfiguredConnection

def connectToVpn (serverId : String) (container : DockerContainer) : Slot Unit := do
  update (·.record .connectToVpn)
  openConnection serverId container

/-- What `disconnectFromVpn` does once it has been entered. -/
def closeConnection : Slot Unit := do
  discard ipc
  update (·.cancelConnection)
  if (← read).vpnProtocol.isNone then
    setConnectionState .disconnected
  else
    setConnectionState .disconnecting
    stopProtocol
    update (·.setProtocol none)
    if (← read).connectionState == .disconnecting then
      setConnectionState .disconnected

def disconnectFromVpn : Slot Unit := do
  update (·.record .disconnectFromVpn)
  closeConnection

/-- What the event loop may dispatch: the slots called by the application, the signals
of the service and of a protocol object, the timers and the answers to calls that do
not wait. -/
inductive Event
  | connectToVpn (serverId : String) (container : DockerContainer)
  | disconnectFromVpn
  | networkChanged
  | wakeup
  | physicalNetworkReadyChanged (ready : Bool)
  | resumePendingNetworkAction
  | pendingNetworkTimer
  | pendingNetworkDeadlineTimer
  | connectingTimer
  | healthTimer
  | firstHealthCheck
  | connectedRecoveryTimer
  | siteRouteTimer
  | dnsHealth (resolved : Bool)
  | connectivityProbe (success : Bool)
  | dnsSplitTunnelConfigured (success : Bool)
  | protocolStateChanged (state : ConnectionState) (error : ErrorCode)
  | protocolError (error : ErrorCode)
  | bytesChanged (received : ℕ)
  | refreshSiteSplitTunnelRoutes
  | killSwitchModeChanged
  | syncAlwaysBlockedSites
  | setConnectionDiagnostic (health : ConnectionHealth)
  | setRepositories (settings : Option Settings)
  deriving DecidableEq, Repr

/-- The events whose slots may go on to start a protocol object that replaces the one
there is. -/
def Event.reconnects : Event → Bool
  | .networkChanged | .wakeup | .physicalNetworkReadyChanged _ | .resumePendingNetworkAction
  | .pendingNetworkTimer | .connectedRecoveryTimer => true
  | _ => false

/-- The events whose slots keep a protocol object alive while they wait for its
`prepare()` or `start()`. -/
def Event.holdsProtocol : Event → Bool
  | .connectToVpn _ _ => true
  | e => e.reconnects

/-- A signal reaches the connection only while there may be an object that emits it and
is still connected. -/
def fromProtocol (connected : Protocol → Bool) (waiting : List Event) (slot : Slot Unit) :
    Slot Unit := do
  if (← read).vpnProtocol.any connected || waiting.any Event.holdsProtocol then
    slot

/-- The signal of a protocol object whose `lastError()` is `error` by then. -/
def onProtocolStateChanged (state : ConnectionState) (error : ErrorCode) : Slot Unit := do
  update (·.setProtocolError error)
  setConnectionState state

def onSiteRouteTimer : Slot Unit := do
  if (← read).siteRouteTimers ≠ 0 then
    update fun s => s.setSiteRouteTimers (s.siteRouteTimers-1)
    dereference
    configureDnsSplitTunnel
    dereference
    addSitesRoutes .vpnOnlyForwardSites

def refreshSiteSplitTunnelRoutes : Slot Unit := do
  let s ← read
  match s.settings with
  | none => pure ()
  | some settings =>
    if s.connectionState == .connected then
      configureDnsSplitTunnel
      addSitesRoutes settings.routeMode

/-- What a dispatched event calls, on top of the slots that wait. A timer that has been
stopped does not fire. -/
def handle (waiting : List Event) : Event → Slot Unit
  | .connectToVpn serverId container => connectToVpn serverId container
  | .disconnectFromVpn => disconnectFromVpn
  | .networkChanged | .wakeup => reconnectToVpn
  | .physicalNetworkReadyChanged ready => if ready then resumePendingNetworkAction else pure ()
  | .resumePendingNetworkAction => resumePendingNetworkAction
  | .pendingNetworkTimer => do
    if (← read).pendingNetworkTimer then
      resumePendingNetworkAction
  | .pendingNetworkDeadlineTimer => do
    if (← read).pendingNetworkDeadlineTimer then
      update (·.stopDeadline)
      if (← read).pendingNetworkAction == .startConnection then
        update (·.stopPendingNetworkAction)
        onConnectingTimedOut
  | .connectingTimer => do
    if (← read).connectingTimer then
      update (·.stopConnectingWatchdog)
      onConnectingTimedOut
  | .healthTimer => do
    if (← read).healthTimer then
      checkConnectedHealth
  | .firstHealthCheck => do
    checkConnectedHealth
    update (·.startConnectivityProbe)
  | .connectedRecoveryTimer => do
    if (← read).connectedRecoveryTimer then
      update (·.stopConnectedRecovery)
      if (← read).canRecover then
        startSilentReconnect
  | .siteRouteTimer => fromProtocol (fun _ => true) waiting onSiteRouteTimer
  | .dnsHealth resolved => onDnsHealth resolved
  | .connectivityProbe success => do
    if (← read).connectivityProbe then
      if success then onConnectivityProbeSucceeded else onConnectivityProbeFailed
  | .dnsSplitTunnelConfigured success =>
    if success then pure () else update (·.setConnectionHealth .dnsFailed)
  | .protocolStateChanged state error =>
    fromProtocol Protocol.stateSignals waiting (onProtocolStateChanged state error)
  | .protocolError error => fromProtocol Protocol.errorSignals waiting (onProtocolError error)
  | .bytesChanged received => update (·.countTraffic received)
  | .refreshSiteSplitTunnelRoutes => refreshSiteSplitTunnelRoutes
  | .killSwitchModeChanged => do
    discard ipc
    discard ipc
  | .syncAlwaysBlockedSites => discard ipc
  | .setConnectionDiagnostic health => update (·.setConnectionHealth health)
  | .setRepositories settings => update (·.setRepositories settings)

abbrev Machine := Config Connection Wait Answer Event

abbrev step : Machine → Input Event Answer → Machine := Reentrancy.step handle

def start (settings : Option Settings) : Machine := ⟨initial settings,[]⟩

/-- The settings of an application whose default server runs AmneziaWG. -/
def awgSettings : Settings where
  defaultContainer := .awg
  isSitesSplitTunnelingEnabled := false
  routeMode := .vpnAllSites
  isKillSwitchEnabled := true
  sitesWithRoutes := []

abbrev success : Input Event Answer := .answer ⟨true,.noError⟩

/-- A connection that has come up. -/
def connected : List (Input Event Answer) :=
  [.dispatch (.connectToVpn "server" .awg),success,success,success,success,
    .dispatch (.protocolStateChanged .connected .noError)]

example : (Runs.run step (start (some awgSettings)) connected).state.connectionState =
    .connected := by decide

end AlzheimerVPN.Lifecycle
