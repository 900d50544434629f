import AlzheimerVPN.Reentrancy
import AlzheimerVPN.Text

/-! `XrayProtocol`: the life of one protocol object that is started once. Its slots wait for the
service with a nested event loop, in which everything else may be dispatched: signals of the
tun2socks processes that have been posted, the retry timer, `stop()` and the destructor. The
object is taken together with the processes it has created, the events that are posted for it
and a record of what it has asked for and reported, the last first. -/
namespace AlzheimerVPN

open Reentrancy

namespace XrayLifecycle

inductive ErrorCode
  | noError | internalError | xrayExecutableCrashed | amneziaServiceConnectionFailed
  | tun2SockExecutableCrashed
  deriving DecidableEq, Repr

inductive ConnectionState
  | unknown | connected | disconnected | error
  deriving DecidableEq, Repr

inductive Request
  | xrayStart | deleteTun | createPrivilegedProcess | createTun | updateResolvers
  | enableKillSwitch | routeAddList | stopRoutingIpv6 | disableKillSwitch | startRoutingIpv6
  | restoreResolvers | xrayStop
  deriving DecidableEq, Repr

/-- A queued signal of a process. -/
inductive Posted
  | output (process : ℕ) | exit (process : ℕ)
  deriving DecidableEq, Repr

inductive Action
  | stopEntered
  | report (state : ConnectionState)
  | startProcess (process : ℕ)
  | setupRouting (process : ℕ)
  | retry
  | request (request : Request)
  deriving DecidableEq, Repr

structure Object where
  stopRequested : Bool
  routingSetupStarted : Bool
  tun2socksProcess : Option ℕ
  tun2socksRetryCount : ℕ
  connectionState : ConnectionState
  /-- The destructor has run; every `QPointer` to the object is null. -/
  deleted : Bool
  started : Bool
  /-- The number of processes that have been created. -/
  processes : ℕ
  /-- Whether `readyReadStandardError` of a process is connected. -/
  outputConnected : ℕ → Bool
  /-- Whether `finished` of a process is connected. -/
  exitConnected : ℕ → Bool
  exited : ℕ → Bool
  posted : List Posted
  /-- The retry timers that have not fired. -/
  timers : ℕ
  actions : List Action

def maxTun2SocksRetries : ℕ := 5

/-- What `setupRouting` depends on. -/
structure Settings where
  killSwitchEnabled : Bool
  /-- The route mode is `VpnAllSites`. -/
  allSites : Bool

inductive Wait
  | interface | processSource | standardError | standardOutput
  | reply (request : Request)
  /-- The slots that are connected to `connectionStateChanged`. -/
  | slots
  deriving DecidableEq, Repr

/-- What a wait ends with. The value of a reply says whether it is the one that is asked for. -/
structure Reply where
  finished : Bool
  returnValue : Bool
  output : String

abbrev Slot (α : Type) := Handler Object Wait Reply α

namespace Object

def initial : Object where
  stopRequested := true
  routingSetupStarted := false
  tun2socksProcess := none
  tun2socksRetryCount := 0
  connectionState := .unknown
  deleted := false
  started := false
  processes := 0
  outputConnected _ := false
  exitConnected _ := false
  exited _ := false
  posted := []
  timers := 0
  actions := []

variable (s : Object)

/-- `!self || m_stopRequested` -/
def gone : Bool := s.deleted || s.stopRequested

def record (a : Action) : Object := { s with actions := a::s.actions }

def request (r : Request) : Object := s.record (.request r)

def enterStart : Object := { s with stopRequested := false,started := true }

def enterStop : Object := { s with stopRequested := true }.record .stopEntered

/-- The requests of `stop`, which it does not wait for. -/
def requestCleanup : Object :=
  (((s.request .disableKillSwitch).request .startRoutingIpv6).request .restoreResolvers).request
    .xrayStop

/-- All signals of the process are disconnected before it is killed and let go. -/
def dropProcess : Object :=
  match s.tun2socksProcess with
  | none => s
  | some p =>
    { s with
      tun2socksProcess := none
      outputConnected := Function.update s.outputConnected p false
      exitConnected := Function.update s.exitConnected p false }

def setState (state : ConnectionState) : Object :=
  { s with connectionState := state }.record (.report state)

def resetRouting : Object := { s with routingSetupStarted := false }

def setProcess (process : Option ℕ) : Object := { s with tun2socksProcess := process }

def createProcess : Object := { s with processes := s.processes+1 }

/-- The signals of the process are connected and it is started. -/
def launch : Object :=
  match s.tun2socksProcess with
  | none => s
  | some p =>
    { s with
      outputConnected := Function.update s.outputConnected p true
      exitConnected := Function.update s.exitConnected p true }.record (.startProcess p)

/-- The output of the process has told that its stack is up. -/
def beginRouting (p : ℕ) : Object :=
  { s with
    routingSetupStarted := true
    outputConnected := Function.update s.outputConnected p false }.record (.setupRouting p)

def scheduleRetry : Object :=
  { s with
    tun2socksRetryCount := s.tun2socksRetryCount+1
    timers := s.timers+1 }.record .retry

def resetRetries : Object := { s with tun2socksRetryCount := 0 }

def fireTimer : Object := { s with timers := s.timers-1 }

def destroy : Object := { s with deleted := true }

def post (item : Posted) : Object :=
  { s with
    posted := s.posted++[item]
    exited :=
      match item with
      | .output _ => s.exited
      | .exit p => Function.update s.exited p true }

def take (item : Posted) : Object := { s with posted := s.posted.erase item }

end Object

def setConnectionState (state : ConnectionState) : Slot Unit := do
  if (← read).connectionState = state then pure ()
  else
    update (·.setState state)
    discard (waitFor .slots)

def setLastError (error : ErrorCode) : Slot Unit := do
  if error = .noError then pure () else setConnectionState .error

def withInterface {α : Type} (onSuccess onFailure : Slot α) : Slot α := do
  let reply ← waitFor .interface
  if reply.returnValue then onSuccess else onFailure

/-- The object may be gone when the interface has been waited for; `stop` goes on. -/
def stop : Slot Unit := do
  if (← read).stopRequested then pure ()
  else
    update Object.enterStop
    let interface ← waitFor .interface
    when interface.returnValue (update Object.requestCleanup)
    update Object.dropProcess
    setConnectionState .disconnected

/-- `stop(); if (self) setLastError(error);` -/
def fail (error : ErrorCode) : Slot Unit := do
  stop
  if (← read).deleted then pure () else setLastError error

def freeTun : Slot Bool :=
  withInterface (do
    update (·.request .deleteTun)
    let reply ← waitFor (.reply .deleteTun)
    return reply.finished && reply.returnValue) (return false)

def createPrivilegedProcess : Slot (Option ℕ) :=
  withInterface (do
    update (·.request .createPrivilegedProcess)
    let reply ← waitFor (.reply .createPrivilegedProcess)
    if !(reply.finished && reply.returnValue) then return none
    else
      let source ← waitFor .processSource
      if !source.returnValue then return none
      else
        let s ← read
        update Object.createProcess
        return some s.processes) (return none)

def startTun2Socks : Slot ErrorCode := do
  if (← read).stopRequested then return .noError
  else
    update Object.resetRouting
    let cleanupOk ← freeTun
    if (← read).gone then return .noError
    else if !cleanupOk then return .amneziaServiceConnectionFailed
    else
      let process ← createPrivilegedProcess
      if (← read).gone then return .noError
      else
        update (·.setProcess process)
        if process.isNone then return .amneziaServiceConnectionFailed
        else
          let source ← waitFor .processSource
          if (← read).gone then return .noError
          else if !source.returnValue then
            update (·.setProcess none)
            return .amneziaServiceConnectionFailed
          else
            update Object.launch
            return .noError

/-- A request of `setupRouting`; its reply does not count if the object is gone by then. -/
def ask (r : Request) : Slot Bool := do
  update (·.request r)
  let reply ← waitFor (.reply r)
  let s ← read
  return !s.gone && reply.finished && reply.returnValue

/-- The requests are made one after the other until one of them fails. -/
def askAll : List Request → Slot Bool
  | [] => return true
  | r::rs => do
    if ← ask r then askAll rs else return false

def routingRequests (settings : Settings) : List Request :=
  [.createTun,.updateResolvers]++(if settings.killSwitchEnabled then [.enableKillSwitch] else [])++
    (if settings.allSites then [.routeAddList] else [])++[.stopRoutingIpv6]

def setupRouting (settings : Settings) : Slot ErrorCode :=
  withInterface (do
    if (← read).gone then return .noError
    else if ← askAll (routingRequests settings) then return .noError
    else return .internalError) (return .amneziaServiceConnectionFailed)

def stackIsUp (line : String) : Bool :=
  Text.containsText line "[STACK] tun://" && Text.containsText line "<-> socks5://"

def onReadyReadStandardError (settings : Settings) (sender : ℕ) : Slot Unit := do
  let s ← read
  if s.stopRequested || s.routingSetupStarted || s.tun2socksProcess ≠ some sender then pure ()
  else
    let reply ← waitFor .standardError
    let s ← read
    if s.gone || s.routingSetupStarted || s.tun2socksProcess ≠ some sender then pure ()
    else if !reply.finished then pure ()
    else if stackIsUp reply.output then
      update (·.beginRouting sender)
      let res ← setupRouting settings
      if (← read).gone then pure ()
      else if res ≠ .noError then fail res
      else setConnectionState .connected

def onFinished (sender : ℕ) : Slot Unit := do
  let s ← read
  if s.stopRequested || s.tun2socksProcess ≠ some sender then pure ()
  else
    let reply ← waitFor .standardOutput
    let s ← read
    if s.gone || s.tun2socksProcess ≠ some sender then pure ()
    else if (reply.finished && Text.containsText reply.output "resource busy") ∧
        s.tun2socksRetryCount < maxTun2SocksRetries then
      update Object.scheduleRetry
    else
      update Object.resetRetries
      fail .tun2SockExecutableCrashed

def onRetry : Slot Unit := do
  update Object.fireTimer
  let error ← startTun2Socks
  if error = .noError then pure ()
  else if (← read).gone then pure ()
  else fail error

/-- `configured` says whether the text for Xray could be made. -/
def start (configured : Bool) : Slot ErrorCode := do
  update Object.enterStart
  if !configured then return .internalError
  else
    withInterface (do
      if (← read).gone then return .noError
      else
        update (·.request .xrayStart)
        let reply ← waitFor (.reply .xrayStart)
        if (← read).gone then return .noError
        else if !(reply.finished && reply.returnValue) then return .xrayExecutableCrashed
        else startTun2Socks) (return .amneziaServiceConnectionFailed)

def destructor : Slot Unit := do
  stop
  update Object.destroy

inductive Event
  | start (configured : Bool) | stop | destructor | post (item : Posted) | deliver (item : Posted)
  | retry
  deriving DecidableEq, Repr

def handle (settings : Settings) (_ : List Event) : Event → Slot Unit
  | .start configured => discard (start configured)
  | .stop => stop
  | .destructor => destructor
  | .post item => update (·.post item)
  | .deliver (.output p) => do
    update (·.take (.output p))
    onReadyReadStandardError settings p
  | .deliver (.exit p) => do
    update (·.take (.exit p))
    onFinished p
  | .retry => onRetry

/-- The connection by which an event has been posted is still there. -/
def Object.Connected (s : Object) : Posted → Prop
  | .output p => s.outputConnected p
  | .exit p => s.exitConnected p

instance (s : Object) : DecidablePred s.Connected
  | .output p => inferInstanceAs (Decidable (s.outputConnected p))
  | .exit p => inferInstanceAs (Decidable (s.exitConnected p))

/-- What can be dispatched. A deleted object gets no events. The event loop sends what has been
posted before it activates a timer: what is left when a timer fires was posted since, by signals
that are still connected. -/
def Allowed (s : Object) (waiting : List Event) : Event → Prop
  | .start _ => s.started = false
  | .stop => s.started ∧ s.deleted = false
  | .destructor => s.started ∧ s.deleted = false ∧ .destructor ∉ waiting
  | .post (.output p) => s.deleted = false ∧ s.outputConnected p
  | .post (.exit p) => s.deleted = false ∧ s.exitConnected p ∧ s.exited p = false
  | .deliver item => s.deleted = false ∧ item ∈ s.posted
  | .retry => s.deleted = false ∧ 0 < s.timers ∧ ∀ item ∈ s.posted, s.Connected item

instance (s : Object) (waiting : List Event) : (e : Event) → Decidable (Allowed s waiting e)
  | .start _ => inferInstanceAs (Decidable (_ = _))
  | .stop => inferInstanceAs (Decidable (_ ∧ _))
  | .destructor => inferInstanceAs (Decidable (_ ∧ _ ∧ _))
  | .post (.output _) => inferInstanceAs (Decidable (_ ∧ _))
  | .post (.exit _) => inferInstanceAs (Decidable (_ ∧ _ ∧ _))
  | .deliver _ => inferInstanceAs (Decidable (_ ∧ _))
  | .retry => inferInstanceAs (Decidable (_ ∧ _ ∧ _))

end XrayLifecycle

end AlzheimerVPN
