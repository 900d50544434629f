import AlzheimerVPN.ConnectionLifecycle

/-! What the slots of the connection can change between two waits. Most of them are
routine: they leave the protocol object and the record of actions alone, put no network
action off, do not call the connection healthy and spend no more on its recovery than it
has; the rest records actions, but no disconnect. -/
namespace AlzheimerVPN.Lifecycle

open Reentrancy Connection

/-- The change says nothing about the protocol object and puts no action off. -/
structure Neutral (s t : Connection) : Prop where
  actions : t.actions = s.actions
  protocol : t.vpnProtocol.isSome = s.vpnProtocol.isSome
  pending : s.pendingNetworkAction = .none → t.pendingNetworkAction = .none

instance : IsPreorder Connection Neutral where
  refl _ := ⟨rfl,rfl,id⟩
  trans _ _ _ h k := ⟨k.actions.trans h.actions,k.protocol.trans h.protocol,k.pending ∘ h.pending⟩

/-- What the recovery of a connected tunnel has used and may still use without a new
reason: the objects replaced, the attempts left and those already scheduled. -/
def Connection.budget (s : Connection) : ℕ :=
  s.replaced+(kMaxConnectedRecoveryAttempts-s.connectedRecoveryAttempts)+
    s.connectedRecoveryTimer.toNat+(s.pendingNetworkAction == .startSilentReconnect).toNat

/-- A neutral change that makes no connection healthy and no recovery possible. -/
structure Routine (s t : Connection) : Prop where
  neutral : Neutral s t
  health : t.connectionHealth = .healthy → s.connectionHealth = .healthy
  budget : t.budget ≤ s.budget
  pends : t.pendingNetworkAction = s.pendingNetworkAction ∨ t.pendingNetworkAction = .none

instance : IsPreorder Connection Routine where
  refl s := ⟨refl_of Neutral s,id,le_rfl,.inl rfl⟩
  trans _ _ _ h k := by
    refine ⟨trans_of Neutral h.neutral k.neutral,h.health ∘ k.health,k.budget.trans h.budget,?_⟩
    rcases k.pends with hk | hk
    · rw [hk]
      exact h.pends
    · exact .inr hk

lemma Routine.of_eq {s t : Connection} (h : (t.actions,t.vpnProtocol.isSome,t.connectionHealth,
    t.budget,t.pendingNetworkAction) = (s.actions,s.vpnProtocol.isSome,s.connectionHealth,s.budget,
      s.pendingNetworkAction)) : Routine s t := by
  simp only [Prod.mk.injEq] at h
  obtain ⟨hactions,hprotocol,hhealth,hbudget,hpends⟩ := h
  exact ⟨⟨hactions,hprotocol,hpends ▸ id⟩,hhealth ▸ id,hbudget.le,.inl hpends⟩

section

variable (s : Connection)

/-- A change that has nothing to do with the recovery and its health. -/
lemma routine_of_neutral {t : Connection} (h : Neutral s t)
    (hh : t.connectionHealth = .healthy → s.connectionHealth = .healthy)
    (hr : t.replaced = s.replaced) (ha : t.connectedRecoveryAttempts = s.connectedRecoveryAttempts)
    (ht : t.connectedRecoveryTimer = s.connectedRecoveryTimer ∨ t.connectedRecoveryTimer = false)
    (hp : t.pendingNetworkAction = s.pendingNetworkAction) : Routine s t := by
  refine ⟨h,hh,?_,.inl hp⟩
  rw [budget,budget,hr,ha,hp]
  rcases ht with ht | ht
  · rw [ht]
  · simp [ht]

lemma neutral_setConnectionHealth (health : ConnectionHealth) :
    Neutral s (s.setConnectionHealth health) := by
  rw [setConnectionHealth]
  split
  · exact ⟨rfl,rfl,id⟩
  · exact ⟨rfl,rfl,id⟩

variable {health : ConnectionHealth}

lemma routine_setConnectionHealth (hh : health ≠ .healthy) :
    Routine s (s.setConnectionHealth health) := by
  rw [setConnectionHealth]
  split
  · exact ⟨⟨rfl,rfl,id⟩,fun h => absurd h hh,le_rfl,.inl rfl⟩
  · exact refl_of Routine s

lemma routine_startConnectedHealthCheck : Routine s s.startConnectedHealthCheck := by
  have h : Routine s s.reportChecking := by
    rw [reportChecking]
    split
    · exact refl_of Routine s
    · exact routine_setConnectionHealth s (by simp)
  exact { h with neutral := { h.neutral with } }

lemma routine_stopPendingNetworkAction : Routine s s.stopPendingNetworkAction := by
  refine ⟨⟨rfl,rfl,fun _ => rfl⟩,id,?_,.inr rfl⟩
  have hn : (PendingNetworkAction.none == .startSilentReconnect) = false := rfl
  simp [budget,stopPendingNetworkAction,hn]

lemma routine_startConnectingWatchdog : Routine s s.startConnectingWatchdog :=
  .of_eq rfl

lemma routine_stopConnectedRecovery : Routine s s.stopConnectedRecovery :=
  routine_of_neutral s ⟨rfl,rfl,id⟩ id rfl rfl (.inr rfl) rfl

lemma routine_stopTimers : Routine s s.stopTimers :=
  routine_of_neutral s ⟨rfl,rfl,id⟩ id rfl rfl (.inr rfl) rfl

lemma routine_awaitConnection : Routine s s.awaitConnection :=
  routine_of_neutral s ⟨rfl,rfl,id⟩ id rfl rfl (.inr rfl) rfl

lemma startRecovery_eq : s.startRecovery =
    {s with
      connectedRecoveryAttempts := s.connectedRecoveryAttempts+1
      noTrafficRecoveryAttempted := true
      healthTimer := false
      healthChecksWithoutTraffic := 0
      connectivityProbe := false
      connectedRecoveryTimer := true} := by
  simp only [startRecovery,setRecoveryAttempts,setRecoveryAttempted,stopConnectedHealthCheck,
    stopConnectivityProbe,startConnectedRecovery]

/-- A recovery is scheduled out of the attempts that are left. -/
lemma routine_startRecovery (ht : s.connectedRecoveryTimer = false)
    (ha : s.connectedRecoveryAttempts < kMaxConnectedRecoveryAttempts) :
    Routine s s.startRecovery := by
  rw [startRecovery_eq]
  refine ⟨⟨rfl,rfl,id⟩,id,?_,.inl rfl⟩
  simp only [budget,ht,Bool.toNat_false,Bool.toNat_true]
  omega

lemma routine_forgetError : Routine s s.forgetError := by
  rw [forgetError]
  split
  · exact refl_of Routine s
  · exact .of_eq rfl

lemma routine_reportFailure : Routine s s.reportFailure := by
  rw [reportFailure]
  split
  · exact refl_of Routine s
  · exact routine_setConnectionHealth s (by simp)

lemma routine_enterState (state : ConnectionState) : Routine s (s.enterState state) := by
  have hstop := routine_stopTimers s
  unfold enterState
  cases state with
  | unknown => exact hstop
  | disconnecting => exact hstop
  | preparing =>
    exact routine_setConnectionHealth s (by simp)
  | connecting =>
    refine trans_of Routine (routine_setConnectionHealth s ?_) (routine_awaitConnection _)
    split
    · simp
    · simp
  | reconnecting =>
    exact trans_of Routine (routine_setConnectionHealth s (by simp)) (routine_awaitConnection _)
  | connected =>
    have hwatchdog : Routine s s.stopConnectingWatchdog := .of_eq rfl
    exact trans_of Routine hwatchdog (routine_setConnectionHealth _ (by simp))
  | disconnected =>
    have hforget := trans_of Routine hstop (routine_forgetError _)
    exact trans_of Routine hforget (routine_setConnectionHealth _ (by simp))
  | error =>
    exact trans_of Routine hstop (routine_reportFailure _)

lemma routine_admitState (state : ConnectionState) : Routine s (s.admitState state) := by
  cases state with
  | error =>
    rw [admitState]
    split
    · exact .of_eq rfl
    · exact refl_of Routine s
  | _ => exact .of_eq rfl

lemma routine_leaveState (previousState state : ConnectionState) :
    Routine s (s.leaveState previousState state) := by
  rw [leaveState]
  split
  · exact .of_eq rfl
  · exact .of_eq rfl

/-- Connecting and disconnecting signals leaves the object itself. -/
lemma routine_mapProtocol (f : Protocol → Protocol) :
    Routine s (s.setProtocol (s.vpnProtocol.map f)) :=
  ⟨⟨rfl,Option.isSome_map,id⟩,id,le_rfl,.inl rfl⟩

lemma routine_scheduleRecovery : Routine s s.scheduleRecovery.2 := by
  have hstop : Routine s s.stopConnectedHealthCheck := .of_eq rfl
  rw [scheduleRecovery]
  split
  · exact hstop
  · split
    · exact refl_of Routine s
    · rename_i hscheduled
      split
      · exact hstop
      · rename_i hattempts
        exact routine_startRecovery s (by simp_all) (Nat.lt_of_not_le hattempts)

lemma routine_failure (error : ErrorCode) (hh : health ≠ .healthy) :
    Routine s ((s.markLastError error).setConnectionHealth health) := by
  have herror : Routine s (s.markLastError error) := .of_eq rfl
  exact trans_of Routine herror (routine_setConnectionHealth _ hh)

lemma routine_recoverConnectedTunnel (hh : health ≠ .healthy) (error : ErrorCode) :
    Routine s (s.recoverConnectedTunnel health error).2 :=
  trans_of Routine (routine_failure s error hh) (routine_scheduleRecovery _)

end

/-- The change leaves alone what the connecting watchdog and the network deadline watch. -/
structure Aside (s t : Connection) : Prop where
  state : t.connectionState = s.connectionState
  silent : t.silentReconnectInProgress = s.silentReconnectInProgress
  watchdog : t.connectingTimer = s.connectingTimer
  deadline : t.pendingNetworkDeadlineTimer = s.pendingNetworkDeadlineTimer
  pending : t.pendingNetworkAction = s.pendingNetworkAction
  protocol : t.vpnProtocol = s.vpnProtocol

instance : IsPreorder Connection Aside where
  refl _ := ⟨rfl,rfl,rfl,rfl,rfl,rfl⟩
  trans _ _ _ h k :=
    ⟨k.1.trans h.1,k.2.trans h.2,k.3.trans h.3,k.4.trans h.4,k.5.trans h.5,k.6.trans h.6⟩

section

variable (s : Connection)

lemma aside_setConnectionHealth (health : ConnectionHealth) :
    Aside s (s.setConnectionHealth health) := by
  rw [setConnectionHealth]
  split
  · exact ⟨rfl,rfl,rfl,rfl,rfl,rfl⟩
  · exact refl_of Aside s

lemma aside_startConnectedHealthCheck : Aside s s.startConnectedHealthCheck := by
  have h : Aside s s.reportChecking := by
    rw [reportChecking]
    split
    · exact refl_of Aside s
    · exact aside_setConnectionHealth s _
  exact { h with }

lemma aside_countTraffic (received : ℕ) : Aside s (s.countTraffic received) := by
  rw [countTraffic]
  split
  · exact ⟨rfl,rfl,rfl,rfl,rfl,rfl⟩
  · exact refl_of Aside s

lemma aside_scheduleRecovery : Aside s s.scheduleRecovery.2 := by
  rw [scheduleRecovery]
  split
  · exact ⟨rfl,rfl,rfl,rfl,rfl,rfl⟩
  · split
    · exact refl_of Aside s
    · split
      · exact ⟨rfl,rfl,rfl,rfl,rfl,rfl⟩
      · rw [startRecovery_eq]
        exact ⟨rfl,rfl,rfl,rfl,rfl,rfl⟩

lemma aside_recoverConnectedTunnel (health : ConnectionHealth) (error : ErrorCode) :
    Aside s (s.recoverConnectedTunnel health error).2 := by
  have herror : Aside s (s.markLastError error) := ⟨rfl,rfl,rfl,rfl,rfl,rfl⟩
  exact trans_of Aside (trans_of Aside herror (aside_setConnectionHealth _ health))
    (aside_scheduleRecovery _)

end

variable {V : Wait → Prop} {G : Connection → Connection → Prop}

/-- A preorder that the changes of the routing slots meet, which only wait for the
service. -/
class Routable (V : Wait → Prop) (G : Connection → Connection → Prop) : Prop
    extends IsPreorder Connection G where
  service : V .service
  health : ∀ s health, health ≠ .healthy → G s (setConnectionHealth s health)
  timers : ∀ s timers, G s (setSiteRouteTimers s timers)

/-- A preorder that the slots meet which only watch the connection. -/
class Monitored (V : Wait → Prop) (G : Connection → Connection → Prop) : Prop
    extends IsPreorder Connection G where
  waits : ∀ w, V w
  aside : ∀ s t, Routine s t → Aside s t → G s t

/-- A preorder that every routine change meets, whatever is waited for. -/
class Framed (V : Wait → Prop) (G : Connection → Connection → Prop) : Prop
    extends IsPreorder Connection G where
  waits : ∀ w, V w
  routine : ∀ s t, Routine s t → G s t

instance [h : Monitored V G] :
    Routable V G where
  service := h.waits .service
  health s _ hh := h.aside _ _ (routine_setConnectionHealth s hh) (aside_setConnectionHealth s _)
  timers _ _ := h.aside _ _ (.of_eq rfl) ⟨rfl,rfl,rfl,rfl,rfl,rfl⟩

instance [h : Framed V G] :
    Monitored V G where
  waits := h.waits
  aside s t hr _ := h.routine s t hr

abbrev anyWait (_ : Wait) : Prop := True

instance : Framed anyWait Neutral where
  waits _ := trivial
  routine _ _ h := h.neutral

section

variable [Routable V G]

lemma ipc_steps : ipc.Steps V G :=
  (steps_waitFor (Routable.service G)).bind fun _ => steps_pure _

lemma health_steps {health : ConnectionHealth} (hh : health ≠ .healthy) :
    (update (·.setConnectionHealth health) : Slot Unit).Steps V G :=
  steps_update fun s => Routable.health V s health hh

lemma siteRouteTimers_steps (timers : Connection → ℕ) :
    (update fun s => s.setSiteRouteTimers (timers s) : Slot Unit).Steps V G :=
  steps_update fun s => Routable.timers V s (timers s)

lemma configureDnsSplitTunnel_steps : configureDnsSplitTunnel.Steps V G := by
  refine steps_read.bind fun s => ?_
  cases s.settings with
  | none => exact steps_pure _
  | some settings =>
    dsimp only
    split
    · exact (health_steps (by simp)).bind fun _ => ipc_steps.discard
    · exact steps_pure _

lemma addSplitTunnelRoutes_steps (mode : RouteMode) : (addSplitTunnelRoutes mode).Steps V G := by
  refine (health_steps (by simp)).bind fun _ => ipc_steps.bind fun reached => ?_
  split
  · refine ipc_steps.bind fun ok => (steps_when _ (health_steps (by simp))).bind fun _ =>
      steps_read.bind fun s => ?_
    split
    · exact (health_steps (by simp)).bind fun _ => ipc_steps.bind fun ok =>
        steps_when _ (health_steps (by simp))
    · exact steps_pure _
  · exact steps_pure _

lemma addSitesRoutes_steps (mode : RouteMode) : (addSitesRoutes mode).Steps V G := by
  refine steps_read.bind fun s => ?_
  cases s.settings with
  | none => exact steps_pure _
  | some settings =>
    dsimp only
    split
    · exact addSplitTunnelRoutes_steps mode
    · exact steps_pure _

lemma addHalves_steps : addHalves.Steps V G := by
  refine ipc_steps.bind fun first => ?_
  split
  · exact ipc_steps
  · exact steps_pure _

section

variable (hderef : dereference.Steps V G)

include hderef

lemma addExceptionRoutes_steps : addExceptionRoutes.Steps V G :=
  (health_steps (by simp)).bind fun _ => hderef.bind fun _ =>
  addHalves_steps.bind fun _ => (steps_when _ (health_steps (by simp))).bind fun _ => hderef.bind fun _ =>
  ipc_steps.bind fun _ => (steps_when _ (health_steps (by simp))).bind fun _ =>
  (health_steps (by simp)).bind fun _ =>
  hderef.bind fun _ => ipc_steps.bind fun _ => (steps_when _ (health_steps (by simp))).bind fun _ =>
  hderef.bind fun _ => configureDnsSplitTunnel_steps.bind fun _ => hderef.bind fun _ =>
  addSitesRoutes_steps _

lemma addLegacyRoutes_steps (known : Settings) : (addLegacyRoutes known).Steps V G := by
  refine (health_steps (by simp)).bind fun _ => ipc_steps.bind fun _ =>
    (steps_when _ (health_steps (by simp))).bind fun _ =>
    steps_read.bind fun s => (steps_when _ hderef).bind fun _ => ?_
  split
  · refine hderef.bind fun _ => ?_
    split
    · exact siteRouteTimers_steps fun s => s.siteRouteTimers+1
    · exact addExceptionRoutes_steps hderef
    · exact steps_pure _
  · exact configureDnsSplitTunnel_steps

lemma onSiteRouteTimer_steps : onSiteRouteTimer.Steps V G := by
  refine steps_read.bind fun s => ?_
  split
  · exact (siteRouteTimers_steps fun s => s.siteRouteTimers-1).bind fun _ => hderef.bind fun _ =>
      configureDnsSplitTunnel_steps.bind fun _ => hderef.bind fun _ => addSitesRoutes_steps _
  · exact steps_pure _

end

lemma legacyRouting_steps {state : ConnectionState}
    (hderef : state = .connected → dereference.Steps V G) : (legacyRouting state).Steps V G := by
  refine steps_read.bind fun s => ?_
  cases s.settings with
  | none => exact steps_pure _
  | some settings =>
    dsimp only
    split
    · refine ipc_steps.bind fun reached => ?_
      split
      · split
        · exact addLegacyRoutes_steps (hderef rfl) settings
        · exact configureDnsSplitTunnel_steps
        · exact configureDnsSplitTunnel_steps
        · exact steps_pure _
      · exact steps_pure _
    · exact steps_pure _

end

section

variable [Monitored V G]

lemma steps_aside {f : Connection → Connection} (hr : ∀ s, Routine s (f s))
    (ha : ∀ s, Aside s (f s)) : (update f : Slot Unit).Steps V G :=
  steps_update fun s => Monitored.aside V s (f s) (hr s) (ha s)

omit [Monitored V G] in
lemma dereference_present {s : Connection} (hs : s.vpnProtocol.isSome) :
    (if s.vpnProtocol.isNone then s.record .nullDereference else s) = s := by
  have hn : s.vpnProtocol.isNone = false := by simpa using hs
  simp [hn]

lemma dereference_stepsAt {s : Connection} (hs : s.vpnProtocol.isSome) :
    dereference.StepsAt V G s := by
  change G s (if s.vpnProtocol.isNone then s.record .nullDereference else s)
  rw [dereference_present hs]
  exact refl_of G s

lemma probe_steps : (update (·.startConnectivityProbe) : Slot Unit).Steps V G :=
  steps_aside (fun _ => .of_eq rfl) fun _ => ⟨rfl,rfl,rfl,rfl,rfl,rfl⟩

lemma recover_steps {health : ConnectionHealth} (hh : health ≠ .healthy) (error : ErrorCode) :
    (update fun s => (s.recoverConnectedTunnel health error).2 : Slot Unit).Steps V G :=
  steps_aside (fun s => routine_recoverConnectedTunnel s hh error)
    fun s => aside_recoverConnectedTunnel s health error

lemma checkConnectedHealth_steps : checkConnectedHealth.Steps V G := by
  have hprobe : (update (·.startConnectivityProbe) : Slot Unit).Steps V G := probe_steps
  have hstop : (update (·.stopConnectedHealthCheck) : Slot Unit).Steps V G :=
    steps_aside (fun _ => .of_eq rfl) fun _ => ⟨rfl,rfl,rfl,rfl,rfl,rfl⟩
  refine steps_read_bind fun s => ?_
  split
  · exact hstop s
  · split
    · exact steps_pure _ s
    · split
      · exact hprobe s
      · rename_i hs
        have hp : s.vpnProtocol.isSome := by
          cases hv : s.vpnProtocol with
          | none => simp [hv] at hs
          | some protocol => rfl
        refine (dereference_stepsAt hp).bind fun _ => ?_
        split
        · refine .bind (steps_aside (fun _ => .of_eq rfl)
            fun _ => ⟨rfl,rfl,rfl,rfl,rfl,rfl⟩) fun _ => steps_read.bind fun s' => ?_
          split
          · exact hprobe
          · exact steps_pure _
        · exact hprobe

lemma onConnectivityProbeFailed_steps : onConnectivityProbeFailed.Steps V G := by
  refine .bind (steps_aside (fun _ => .of_eq rfl)
    fun _ => ⟨rfl,rfl,rfl,rfl,rfl,rfl⟩) fun _ => steps_read.bind fun s => ?_
  split
  · exact recover_steps (by simp) _
  · exact steps_pure _

lemma onDnsHealth_steps : (onDnsHealth false).Steps V G :=
  steps_read_if fun _ => recover_steps (by simp) _

lemma refreshSiteSplitTunnelRoutes_steps : refreshSiteSplitTunnelRoutes.Steps V G := by
  refine steps_read.bind fun s => ?_
  cases s.settings with
  | none => exact steps_pure _
  | some settings =>
    dsimp only
    split
    · exact configureDnsSplitTunnel_steps.bind fun _ => addSitesRoutes_steps _
    · exact steps_pure _

lemma fromProtocol_steps (connected : Protocol → Bool) (waiting : List Event) {slot : Slot Unit}
    (h : slot.Steps V G) : (fromProtocol connected waiting slot).Steps V G :=
  steps_read_if fun _ => h

end

section

variable [Framed V G]

lemma steps_routine {f : Connection → Connection} (hf : ∀ s, Routine s (f s)) :
    (update f : Slot Unit).Steps V G :=
  steps_update fun s => Framed.routine V s (f s) (hf s)

omit [Framed V G] in
lemma connectionHealthForError_ne (error : ErrorCode) :
    connectionHealthForError error ≠ .healthy := by
  cases error <;> simp [connectionHealthForError]

section

variable {state : ConnectionState} (hderef : state = .connected → dereference.Steps V G)

include hderef

lemma onConnectionStateChanged_steps : (onConnectionStateChanged state).Steps V G :=
  (steps_routine fun s => routine_enterState s state).bind fun _ =>
  (legacyRouting_steps hderef).bind fun _ =>
  steps_when _ (steps_routine routine_startConnectedHealthCheck)

lemma changeState_steps : (changeState state).Steps V G := by
  refine steps_read.bind fun s => steps_read.bind fun s' => ?_
  split
  · exact steps_pure _
  · refine steps_read.bind fun s'' => ?_
    split
    · exact steps_pure _
    · exact .bind (steps_routine fun s => routine_admitState s state) fun _ =>
        .bind (steps_routine fun _ => .of_eq rfl) fun _ =>
        (onConnectionStateChanged_steps hderef).bind fun _ =>
        steps_routine fun s => routine_leaveState s _ state

end

lemma stopProtocol_stepsAt {s : Connection} (hs : s.vpnProtocol.isSome) :
    stopProtocol.StepsAt V G s :=
  (dereference_stepsAt hs).bind fun _ => (steps_waitFor (Framed.waits G _)).discard

/-- The null check stands right before the call. -/
lemma stopAfterFailure_steps : stopAfterFailure.Steps V G := by
  refine steps_read_bind fun s => ?_
  split
  · rename_i hs
    exact stepsAt_update_bind (Framed.routine V _ _ (.of_eq rfl)) (stopProtocol_stepsAt hs)
  · exact steps_pure _ s

variable (error : ErrorCode)

lemma emitError_steps : (emitError error).Steps V G :=
  steps_routine fun _ => .of_eq rfl

lemma handleSilentReconnectFailure_steps {health : ConnectionHealth} (hh : health ≠ .healthy)
    (error : ErrorCode) : (handleSilentReconnectFailure health error).Steps V G := by
  refine .bind (steps_routine fun _ => .of_eq rfl) fun _ =>
    .bind (steps_routine fun s => routine_mapProtocol s _) fun _ =>
    steps_read.bind fun s => stopAfterFailure_steps.bind fun _ =>
    .bind (steps_when _ (steps_routine fun _ => .of_eq rfl)) fun _ =>
    steps_read.bind fun s' =>
    .bind (steps_routine fun s => routine_recoverConnectedTunnel s hh error) fun _ => ?_
  split
  · exact steps_pure _
  · exact (changeState_steps (by simp)).bind fun _ => (emitError_steps error).bind fun _ => steps_pure _

lemma setConnectionState_steps {state : ConnectionState}
    (hderef : state = .connected → dereference.Steps V G) : (setConnectionState state).Steps V G := by
  refine steps_read.bind fun s => ?_
  split
  · exact (handleSilentReconnectFailure_steps (by simp) _).discard
  · exact changeState_steps hderef

lemma setError_steps : (setConnectionState .error).Steps V G := setConnectionState_steps (by simp)

lemma reportError_steps : (do setConnectionState .error; emitError error : Slot Unit).Steps V G :=
  setError_steps.bind fun _ => emitError_steps error

lemma onProtocolError_steps : (onProtocolError error).Steps V G := by
  refine steps_read.bind fun s => ?_
  split
  · exact (handleSilentReconnectFailure_steps (connectionHealthForError_ne _) _).discard
  · refine .bind (steps_routine fun _ => .of_eq rfl) fun _ =>
      (steps_when _ (health_steps (by simp))).bind fun _ => steps_read.bind fun s' =>
      .bind (steps_when _ ?_) fun _ => emitError_steps error
    exact .bind (steps_routine fun _ => .of_eq rfl) fun _ => setError_steps

lemma onConnectingTimedOut_steps : onConnectingTimedOut.Steps V G := by
  refine steps_read.bind fun s => ?_
  split
  · exact (handleSilentReconnectFailure_steps (by simp) _).discard
  · split
    · exact .bind (steps_routine fun s => routine_failure s _ (by simp)) fun _ =>
        stopAfterFailure_steps.bind fun _ => setError_steps.bind fun _ =>
        .bind (steps_routine fun _ => .of_eq rfl) fun _ => emitError_steps _
    · exact steps_pure _

lemma onProtocolStateChanged_steps {state : ConnectionState}
    (hderef : state = .connected → dereference.Steps V G) (error : ErrorCode) :
    (onProtocolStateChanged state error).Steps V G :=
  .bind (steps_routine fun s => routine_mapProtocol s _) fun _ => setConnectionState_steps hderef

end

/-- The events whose slots create, start or use a protocol object after a wait. -/
def Event.usesProtocol : Event → Bool
  | .disconnectFromVpn | .siteRouteTimer | .protocolStateChanged .connected _ => true
  | e => e.holdsProtocol

variable {e : Event}

lemma Event.holdsProtocol_of_reconnects (h : e.reconnects) : e.holdsProtocol := by
  cases e with
  | connectToVpn serverId container => rfl
  | _ => exact h

lemma Event.reconnects_of_holdsProtocol (h : e.holdsProtocol)
    (hc : ∀ serverId container, e ≠ .connectToVpn serverId container) : e.reconnects := by
  cases e with
  | connectToVpn serverId container => exact absurd rfl (hc serverId container)
  | _ => exact h

lemma Event.usesProtocol_of_holdsProtocol (h : e.holdsProtocol) : e.usesProtocol := by
  cases e with
  | protocolStateChanged state error => cases h
  | _ => first | rfl | exact h

/-- The events that may call the connection healthy, or give its recovery new attempts. -/
def Event.judges : Event → Bool
  | .connectivityProbe true | .dnsHealth true | .setConnectionDiagnostic _ => true
  | _ => false

/-- The events whose slots only watch the connection or tell the service about it. -/
def Event.watches : Event → Bool
  | .healthTimer | .firstHealthCheck | .dnsHealth _ | .connectivityProbe _
  | .dnsSplitTunnelConfigured _ | .bytesChanged _ | .refreshSiteSplitTunnelRoutes
  | .killSwitchModeChanged | .syncAlwaysBlockedSites | .setConnectionDiagnostic _
  | .setRepositories _ => true
  | _ => false

variable (waiting : List Event)

lemma handle_watches [Monitored V G]
    (e : Event) (hw : e.watches) (hj : e.judges = false) : (handle waiting e).Steps V G := by
  cases e with
  | setConnectionDiagnostic health => cases hj
  | healthTimer =>
    exact steps_read_if fun _ => checkConnectedHealth_steps
  | firstHealthCheck => exact checkConnectedHealth_steps.bind fun _ => probe_steps
  | dnsHealth resolved =>
    cases resolved with
    | true => cases hj
    | false => exact onDnsHealth_steps
  | connectivityProbe success =>
    cases success with
    | true => cases hj
    | false =>
      exact steps_read_if fun _ => onConnectivityProbeFailed_steps
  | dnsSplitTunnelConfigured success =>
    rw [handle]
    split
    · exact steps_pure _
    · exact health_steps (by simp)
  | bytesChanged received =>
    refine steps_aside (fun s => ?_) fun s => aside_countTraffic s received
    rw [countTraffic]
    split
    · exact .of_eq rfl
    · exact refl_of Routine s
  | refreshSiteSplitTunnelRoutes => exact refreshSiteSplitTunnelRoutes_steps
  | killSwitchModeChanged => exact ipc_steps.discard.bind fun _ => ipc_steps.discard
  | syncAlwaysBlockedSites => exact ipc_steps.discard
  | setRepositories settings =>
    exact steps_aside (fun _ => .of_eq rfl) fun _ => ⟨rfl,rfl,rfl,rfl,rfl,rfl⟩
  | _ => cases hw

lemma handle_routine [Framed V G]
    (e : Event) (he : e.usesProtocol = false) (hj : e.judges = false) :
    (handle waiting e).Steps V G := by
  cases hw : e.watches with
  | true => exact handle_watches waiting e hw hj
  | false =>
    cases e with
    | pendingNetworkDeadlineTimer =>
      refine steps_read.bind fun s => ?_
      split
      · refine .bind (steps_routine fun _ => .of_eq rfl) fun _ =>
          steps_read.bind fun s' => ?_
        split
        · exact .bind (steps_routine routine_stopPendingNetworkAction) fun _ =>
            onConnectingTimedOut_steps
        · exact steps_pure _
      · exact steps_pure _
    | connectingTimer =>
      refine steps_read.bind fun s => ?_
      split
      · exact .bind (steps_routine fun _ => .of_eq rfl) fun _ =>
          onConnectingTimedOut_steps
      · exact steps_pure _
    | protocolStateChanged state error =>
      have hstate : state ≠ .connected := by
        rintro rfl
        cases he
      exact fromProtocol_steps _ waiting
        (onProtocolStateChanged_steps (fun h => absurd h hstate) error)
    | protocolError error => exact fromProtocol_steps _ waiting (onProtocolError_steps error)
    | _ => first | (cases hw; done) | cases he

/-- What a successful traffic probe of a connected tunnel resets. -/
def Connection.probed (s : Connection) : Connection :=
  ((s.stopConnectivityProbe.markLastError .noError).setRecoveryAttempts 0).setRecoveryAttempted false

section

variable (waiting : List Event) {s : Connection}

lemma handle_probe_absent (success : Bool) (hp : s.connectivityProbe = false) :
    handle waiting (.connectivityProbe success) s = .done () s := by
  simp [handle,hp]

lemma handle_probe_elsewhere (hp : s.connectivityProbe) (hc : s.connectionState ≠ .connected) :
    handle waiting (.connectivityProbe true) s = .done () s.stopConnectivityProbe := by
  simp [handle,hp,onConnectivityProbeSucceeded,stopConnectivityProbe,hc]

lemma handle_probe_connected (hp : s.connectivityProbe) (hc : s.connectionState = .connected) :
    handle waiting (.connectivityProbe true) s = .done ()
      (if s.connectionHealth = .dnsFailed then s.probed else s.probed.setConnectionHealth .healthy) := by
  by_cases hd : s.connectionHealth = .dnsFailed <;>
    simp [handle,hp,onConnectivityProbeSucceeded,probed,stopConnectivityProbe,hc,markLastError,
      setRecoveryAttempts,setRecoveryAttempted,hd]

end

/-- The slots that judge the connection do not wait, and change nothing else. -/
lemma handle_judges (e : Event) (hj : e.judges) (s : Connection) :
    ∃ t, handle waiting e s = .done () t ∧ Neutral s t ∧ Aside s t := by
  have hs : Neutral s s ∧ Aside s s := ⟨refl_of Neutral s,refl_of Aside s⟩
  have hhealth {t : Connection} (health : ConnectionHealth) (ht : Neutral s t ∧ Aside s t) :
      Neutral s (t.setConnectionHealth health) ∧ Aside s (t.setConnectionHealth health) :=
    ⟨trans_of Neutral ht.1 (neutral_setConnectionHealth t health),
      trans_of Aside ht.2 (aside_setConnectionHealth t health)⟩
  cases e with
  | setConnectionDiagnostic health => exact ⟨_,rfl,hhealth health hs⟩
  | dnsHealth resolved =>
    cases resolved with
    | false => cases hj
    | true =>
      have herror : Neutral s (s.markLastError .noError) ∧ Aside s (s.markLastError .noError) :=
        ⟨⟨rfl,rfl,id⟩,rfl,rfl,rfl,rfl,rfl,rfl⟩
      by_cases hc : s.connectionState = .connected ∧ s.silentReconnectInProgress = false
      · by_cases hd : s.connectionHealth = .dnsFailed
        · exact ⟨_,by simp [handle,onDnsHealth,hc,hd],hhealth .healthy herror⟩
        · exact ⟨s,by simp [handle,onDnsHealth,hc,hd],hs⟩
      · exact ⟨s,by simp [handle,onDnsHealth,hc],hs⟩
  | connectivityProbe success =>
    cases success with
    | false => cases hj
    | true =>
      cases hp : s.connectivityProbe with
      | false => exact ⟨s,handle_probe_absent waiting true hp,hs⟩
      | true =>
        have hprobed : Neutral s s.probed ∧ Aside s s.probed :=
          ⟨⟨rfl,rfl,id⟩,rfl,rfl,rfl,rfl,rfl,rfl⟩
        by_cases hc : s.connectionState = .connected
        · refine ⟨_,handle_probe_connected waiting hp hc,?_⟩
          split
          · exact hprobed
          · exact hhealth .healthy hprobed
        · exact ⟨_,handle_probe_elsewhere waiting hp hc,⟨rfl,rfl,id⟩,rfl,rfl,rfl,rfl,rfl,rfl⟩
  | _ => cases hj

lemma handle_neutral (e : Event) (he : e.usesProtocol = false) :
    (handle waiting e).Steps anyWait Neutral := by
  cases hj : e.judges with
  | false => exact handle_routine waiting e he hj
  | true =>
    intro s
    obtain ⟨t,ht,hn,-⟩ := handle_judges waiting e hj s
    rw [Handler.StepsAt,ht]
    exact hn

/-- The change records actions, but no disconnect. -/
def Progress (s t : Connection) : Prop :=
  ∃ new, t.actions = new++s.actions ∧ Action.disconnectFromVpn ∉ new

instance : Framed anyWait Progress where
  waits _ := trivial
  refl _ := ⟨[],rfl,by simp⟩
  trans s t u := by
    rintro ⟨new,hnew,hn⟩ ⟨newer,hnewer,hr⟩
    exact ⟨newer++new,by rw [hnewer,hnew,List.append_assoc],by simp [hn,hr]⟩
  routine s t h := ⟨[],h.neutral.actions,by simp⟩

/-- Progress that calls no connection healthy. -/
structure Advance (s t : Connection) : Prop where
  progress : Progress s t
  health : t.connectionHealth = .healthy → s.connectionHealth = .healthy

/-- Progress that spends nothing on the recovery and puts no action off. -/
structure Started (s t : Connection) : Prop extends Advance s t where
  budget : t.budget ≤ s.budget
  pends : t.pendingNetworkAction = s.pendingNetworkAction ∨ t.pendingNetworkAction = .none

lemma Routine.started {s t : Connection} (h : Routine s t) : Started s t :=
  ⟨⟨Framed.routine anyWait s t h,h.health⟩,h.budget,h.pends⟩

/-- A preorder that the slots meet which make and start a protocol object. -/
class Starting (V : Wait → Prop) (G : Connection → Connection → Prop) : Prop
    extends IsPreorder Connection G where
  waits : ∀ w, V w
  started : ∀ s t, Started s t → G s t

/-- A preorder that the slots meet which connect, reconnect and disconnect. -/
class Driving (V : Wait → Prop) (G : Connection → Connection → Prop) : Prop
    extends IsPreorder Connection G where
  waits : ∀ w, V w
  advance : ∀ s t, Advance s t → G s t

instance [h : Starting V G] :
    Framed V G where
  waits := h.waits
  routine s t hst := h.started s t hst.started

instance [h : Driving V G] :
    Starting V G where
  waits := h.waits
  started s t hst := h.advance s t hst.toAdvance

instance : Driving anyWait Progress where
  waits _ := trivial
  advance _ _ h := h.progress

section

variable [Starting V G]

omit [Starting V G] in
lemma started_record (s : Connection) {action : Action} (h : action ≠ .disconnectFromVpn) :
    Started s (s.record action) :=
  ⟨⟨⟨[action],rfl,by simpa using h.symm⟩,id⟩,le_rfl,.inl rfl⟩

lemma record_steps {action : Action} (h : action ≠ .disconnectFromVpn) :
    (update (·.record action) : Slot Unit).Steps V G :=
  steps_update fun s => Starting.started V s _ (started_record s h)

lemma dereference_steps : dereference.Steps V G := by
  refine steps_update fun s => ?_
  split
  · exact Starting.started V s _ (started_record s (by simp))
  · exact refl_of G s

lemma waitFor_steps (w : Wait) : (waitFor w : Slot Answer).Steps V G :=
  steps_waitFor (Starting.waits G w)

lemma stopProtocol_steps : stopProtocol.Steps V G :=
  dereference_steps.bind fun _ => (waitFor_steps _).discard

lemma createProtocol_steps : createProtocol.Steps V G := by
  refine steps_read.bind fun s => .bind (steps_update fun s => ?_) fun _ => steps_pure _
  exact Starting.started V s _ ⟨⟨⟨[.create],rfl,by simp⟩,id⟩,le_rfl,.inl rfl⟩

lemma startProtocol_steps : startProtocol.Steps V G :=
  (record_steps (by simp)).bind fun _ => (waitFor_steps _).bind fun _ => steps_pure _

lemma isCurrent_steps (id : ℕ) : (isCurrent id).Steps V G :=
  steps_read.bind fun _ => steps_pure _

lemma failure_steps (error : ErrorCode) {health : ConnectionHealth} (hh : health ≠ .healthy) :
    (update fun s => (s.markLastError error).setConnectionHealth health : Slot Unit).Steps V G :=
  steps_routine fun s => routine_failure s error hh

lemma createProtocolConnections_steps :
    (update (·.createProtocolConnections) : Slot Unit).Steps V G :=
  steps_routine fun s => routine_mapProtocol s _

/-- The object is given up, and nothing else changes that the recovery looks at. -/
lemma release_steps {f : Connection → Connection}
    (hf : ∀ s, Started s (f s)) : (update f : Slot Unit).Steps V G :=
  steps_update fun s => Starting.started V s (f s) (hf s)

lemma startConfiguredConnection_steps : startConfiguredConnection.Steps V G := by
  have hbegin : ∀ s : Connection, Routine s s.stopPendingNetworkAction.startConnectingWatchdog :=
    fun s => trans_of Routine (routine_stopPendingNetworkAction s)
      (routine_startConnectingWatchdog _)
  refine .bind (steps_routine hbegin) fun _ => steps_read.bind fun s => ?_
  dsimp only
  split
  · refine createProtocol_steps.bind fun id =>
      .bind (steps_when _ (waitFor_steps _).discard) fun _ =>
      createProtocolConnections_steps.bind fun _ => startProtocol_steps.bind fun error =>
      (isCurrent_steps id).bind fun current => ?_
    split
    · split
      · exact (failure_steps _ (by simp)).bind fun _ => reportError_steps _
      · exact steps_read_if fun _ => health_steps (by simp)
    · exact steps_pure _
  · refine .bind (release_steps fun s => ?_) fun _ => reportError_steps _
    exact ⟨⟨⟨[],rfl,by simp⟩,id⟩,le_rfl,.inl rfl⟩

lemma replaceProtocol_steps : replaceProtocol.Steps V G := by
  have hconnect : ∀ s : Connection, Routine s s.createProtocolConnections.startConnectingWatchdog :=
    fun s => trans_of Routine (routine_mapProtocol s _) (routine_startConnectingWatchdog _)
  refine steps_read.bind fun s => ?_
  split
  · refine createProtocol_steps.bind fun id => .bind (steps_routine hconnect) fun _ =>
      startProtocol_steps.bind fun error => (isCurrent_steps id).bind fun current => ?_
    split
    · split
      · exact steps_read_if fun _ => health_steps (by simp)
      · split
        · exact (handleSilentReconnectFailure_steps (connectionHealthForError_ne _) _).discard
        · exact .bind (steps_routine fun _ => ⟨⟨rfl,rfl,fun h => h⟩,fun h => h,le_rfl,.inl rfl⟩)
            fun _ => (failure_steps _ (by simp)).bind fun _ => reportError_steps _
    · exact steps_pure _
  · refine .bind (release_steps fun s => ?_) fun _ => (failure_steps _ (by simp)).bind fun _ =>
      reportError_steps _
    exact ⟨⟨⟨[],rfl,by simp⟩,id⟩,le_rfl,.inl rfl⟩

lemma dropProtocol_steps : dropProtocol.Steps V G := by
  refine steps_read.bind fun s => ?_
  split
  · refine .bind (steps_routine fun s => routine_mapProtocol s _) fun _ =>
      stopProtocol_steps.bind fun _ => release_steps fun s => ?_
    exact ⟨⟨⟨[],rfl,by simp⟩,id⟩,le_rfl,.inl rfl⟩
  · exact steps_pure _

end

section

variable [Driving V G]

/-- An update that records nothing and leaves the health is one, whatever else it
changes. -/
lemma steps_advance {f : Connection → Connection} (hf : ∀ s, (f s).actions = s.actions)
    (hh : ∀ s, (f s).connectionHealth = .healthy → s.connectionHealth = .healthy) :
    (update f : Slot Unit).Steps V G :=
  steps_update fun s => Driving.advance V s _ ⟨⟨[],hf s,by simp⟩,hh s⟩

lemma deferUntilPhysicalNetworkReady_steps (action : PendingNetworkAction)
    {health : ConnectionHealth} (hh : health ≠ .healthy) :
    (deferUntilPhysicalNetworkReady action health).Steps V G := by
  refine ipc_steps.bind fun ready => ?_
  split
  · exact steps_pure _
  · refine .bind (steps_advance (fun s => ?_) fun s => ?_) fun _ => steps_pure _
    · exact (routine_setConnectionHealth _ hh).neutral.actions
    · exact (routine_setConnectionHealth _ hh).health

lemma startSilentReconnect_steps : startSilentReconnect.Steps V G := by
  refine steps_read.bind fun s => ?_
  split
  · exact steps_pure _
  · refine (deferUntilPhysicalNetworkReady_steps _ (by simp)).bind fun deferred => ?_
    split
    · exact steps_pure _
    · exact .bind (steps_advance (fun _ => rfl) fun _ => id) fun _ =>
        (health_steps (by simp)).bind fun _ =>
        .bind (steps_routine fun s => routine_mapProtocol s _) fun _ =>
        stopProtocol_steps.bind fun _ =>
        .bind (steps_advance (fun _ => rfl) fun _ => id) fun _ => replaceProtocol_steps

lemma reconnectToVpn_steps : reconnectToVpn.Steps V G := by
  refine steps_read.bind fun s => ?_
  split
  · exact steps_pure _
  · split
    · exact steps_pure _
    · split
      · exact steps_pure _
      · refine (deferUntilPhysicalNetworkReady_steps _ (by simp)).bind fun deferred => ?_
        split
        · exact steps_pure _
        · refine steps_read.bind fun s' =>
            .bind (steps_when _ (steps_advance (fun _ => rfl) fun _ h => h)) fun _ =>
            steps_read.bind fun s'' => ?_
          split
          · exact .bind (steps_advance (fun _ => rfl) fun _ h => h) fun _ => startSilentReconnect_steps
          · exact steps_pure _

lemma resumeAction_steps (action : PendingNetworkAction) (state : ConnectionState) :
    (resumeAction action state).Steps V G := by
  cases action with
  | none => exact steps_pure _
  | startConnection =>
    rw [resumeAction]
    split
    · exact startConfiguredConnection_steps
    · exact steps_pure _
  | requestReconnect =>
    rw [resumeAction]
    split
    · exact reconnectToVpn_steps
    · exact steps_pure _
  | startSilentReconnect =>
    rw [resumeAction]
    split
    · exact startSilentReconnect_steps
    · exact steps_pure _

lemma resumePendingNetworkAction_steps : resumePendingNetworkAction.Steps V G := by
  refine steps_read.bind fun s => ?_
  split
  · refine ipc_steps.bind fun ready => ?_
    split
    · exact steps_read.bind fun s' => .bind (steps_advance (fun _ => rfl) fun _ h => h) fun _ =>
        resumeAction_steps _ _
    · exact steps_pure _
  · exact steps_pure _

lemma openConnection_steps (serverId : String) (container : DockerContainer) :
    (openConnection serverId container).Steps V G := by
  refine steps_read.bind fun s => ?_
  split
  · exact setError_steps
  · refine .bind (steps_advance (fun _ => rfl) fun _ h => h) fun _ => ipc_steps.discard.bind fun _ =>
      (setConnectionState_steps (by simp)).bind fun _ => ipc_steps.bind fun guarded => ?_
    split
    · exact (failure_steps _ (by simp)).bind fun _ => reportError_steps _
    · refine dropProtocol_steps.bind fun _ =>
        (deferUntilPhysicalNetworkReady_steps _ (by simp)).bind fun deferred => ?_
      split
      · exact startConfiguredConnection_steps
      · exact steps_pure _

lemma handle_reconnects (e : Event) (he : e.reconnects) : (handle waiting e).Steps V G := by
  cases e with
  | networkChanged => exact reconnectToVpn_steps
  | wakeup => exact reconnectToVpn_steps
  | physicalNetworkReadyChanged ready =>
    rw [handle]
    split
    · exact resumePendingNetworkAction_steps
    · exact steps_pure _
  | resumePendingNetworkAction => exact resumePendingNetworkAction_steps
  | pendingNetworkTimer =>
    exact steps_read_if fun _ => resumePendingNetworkAction_steps
  | connectedRecoveryTimer =>
    refine steps_read.bind fun s => ?_
    split
    · refine .bind (steps_advance (fun _ => rfl) fun _ h => h) fun _ => steps_read.bind fun s' => ?_
      split
      · exact startSilentReconnect_steps
      · exact steps_pure _
    · exact steps_pure _
  | _ => cases he

lemma closeConnection_steps : closeConnection.Steps V G := by
  have hset : ∀ {state : ConnectionState}, (setConnectionState state).Steps V G :=
    setConnectionState_steps fun _ => dereference_steps
  refine ipc_steps.discard.bind fun _ => .bind (steps_advance (fun _ => rfl) fun _ h => h) fun _ =>
    steps_read.bind fun s => ?_
  split
  · exact hset
  · refine hset.bind fun _ => stopProtocol_steps.bind fun _ =>
      .bind (steps_advance (fun _ => rfl) fun _ h => h) fun _ => steps_read.bind fun s' => ?_
    split
    · exact hset
    · exact steps_pure _

end

/-- Progress that is neutral while there is a protocol object. -/
def Held (s t : Connection) : Prop :=
  Progress s t ∧ (s.vpnProtocol.isSome → Neutral s t)

instance : Framed anyWait Held where
  waits _ := trivial
  refl s := ⟨refl_of Progress s,fun _ => refl_of Neutral s⟩
  trans s t u h k := by
    refine ⟨trans_of Progress h.1 k.1,fun hs => ?_⟩
    have hst := h.2 hs
    exact trans_of Neutral hst (k.2 (hst.protocol.trans hs))
  routine s t h := ⟨Framed.routine anyWait s t h,fun _ => h.neutral⟩

lemma dereference_held : dereference.Steps anyWait Held :=
  fun s => ⟨dereference_steps (V := anyWait) (G := Progress) s,
    fun hs => dereference_stepsAt (V := anyWait) hs⟩

lemma handle_held (e : Event) (he : e.usesProtocol) (hh : e.holdsProtocol = false)
    (hd : e ≠ .disconnectFromVpn) : (handle waiting e).Steps anyWait Held := by
  cases e with
  | disconnectFromVpn => exact absurd rfl hd
  | siteRouteTimer => exact fromProtocol_steps _ waiting (onSiteRouteTimer_steps dereference_held)
  | protocolStateChanged state error =>
    exact fromProtocol_steps _ waiting (onProtocolStateChanged_steps (fun _ => dereference_held) error)
  | _ => simp [Event.usesProtocol,hh] at he

end AlzheimerVPN.Lifecycle
