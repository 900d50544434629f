import AlzheimerVPN.LifecycleSteps

/-! The state in which `disconnectFromVpn` returns when nothing else is dispatched
meanwhile but the state signals of the protocol's `stop()`. The state setter ignores a
`Disconnected` after a recorded error and while reconnecting, so it is not always
`Disconnected`. -/
namespace AlzheimerVPN.Lifecycle

open Reentrancy Runs Connection List

/-- The members that the state setter and the disconnect look at are the same. -/
structure Same (s t : Connection) : Prop where
  connectionState : t.connectionState = s.connectionState
  lastError : t.lastError = s.lastError
  vpnProtocol : t.vpnProtocol = s.vpnProtocol
  silentReconnectInProgress : t.silentReconnectInProgress = s.silentReconnectInProgress
  stoppingAfterFailure : t.stoppingAfterFailure = s.stoppingAfterFailure
  pendingNetworkAction : t.pendingNetworkAction = s.pendingNetworkAction
  pendingNetworkTimer : t.pendingNetworkTimer = s.pendingNetworkTimer
  pendingNetworkDeadlineTimer : t.pendingNetworkDeadlineTimer = s.pendingNetworkDeadlineTimer
  connectedRecoveryTimer : t.connectedRecoveryTimer = s.connectedRecoveryTimer
  connectingTimer : t.connectingTimer = s.connectingTimer

instance : IsPreorder Connection Same where
  refl _ := ⟨rfl,rfl,rfl,rfl,rfl,rfl,rfl,rfl,rfl,rfl⟩
  trans _ _ _ h k :=
    ⟨k.1.trans h.1,k.2.trans h.2,k.3.trans h.3,k.4.trans h.4,k.5.trans h.5,k.6.trans h.6,
      k.7.trans h.7,k.8.trans h.8,k.9.trans h.9,k.10.trans h.10⟩

variable (s : Connection)

lemma same_setConnectionHealth (health : ConnectionHealth) :
    Same s (s.setConnectionHealth health) := by
  rw [setConnectionHealth]
  split
  · exact ⟨rfl,rfl,rfl,rfl,rfl,rfl,rfl,rfl,rfl,rfl⟩
  · exact refl_of Same s

lemma same_reportFailure : Same s s.reportFailure := by
  rw [reportFailure]
  split
  · exact refl_of Same s
  · exact same_setConnectionHealth s _

lemma same_startConnectedHealthCheck : Same s s.startConnectedHealthCheck := by
  have h : Same s s.reportChecking := by
    rw [reportChecking]
    split
    · exact refl_of Same s
    · exact same_setConnectionHealth s _
  exact { h with }

abbrev serviceWait (w : Wait) : Prop := w = .service

instance : Routable serviceWait Same where
  service := rfl
  health s health _ := same_setConnectionHealth s health
  timers _ _ := ⟨rfl,rfl,rfl,rfl,rfl,rfl,rfl,rfl,rfl,rfl⟩

lemma dereference_same : dereference.Steps serviceWait Same := by
  refine steps_update fun s => ?_
  split
  · exact ⟨rfl,rfl,rfl,rfl,rfl,rfl,rfl,rfl,rfl,rfl⟩
  · exact refl_of Same s

/-- A connection that is being left: nothing is pending, nothing recovers, and in the
states that end it the watchdog is off. -/
structure Quitting (s : Connection) : Prop where
  silent : s.silentReconnectInProgress = false
  stopping : s.stoppingAfterFailure = false
  pending : s.pendingNetworkAction = .none
  pendingTimer : s.pendingNetworkTimer = false
  deadlineTimer : s.pendingNetworkDeadlineTimer = false
  recovery : s.connectedRecoveryTimer = false
  watchdog : s.connectionState = .disconnected ∨ s.connectionState = .disconnecting →
    s.connectingTimer = false

/-- The state in which a manual disconnect should return. -/
structure Finalized (s : Connection) : Prop where
  state : s.connectionState = .disconnected
  pending : s.pendingNetworkAction = .none
  silent : s.silentReconnectInProgress = false
  connectingTimer : s.connectingTimer = false
  recoveryTimer : s.connectedRecoveryTimer = false
  pendingTimer : s.pendingNetworkTimer = false
  deadlineTimer : s.pendingNetworkDeadlineTimer = false

lemma Quitting.finalized {s : Connection} (h : Quitting s)
    (hs : s.connectionState = .disconnected) : Finalized s :=
  ⟨hs,h.pending,h.silent,h.watchdog (.inl hs),h.recovery,h.pendingTimer,h.deadlineTimer⟩

section

/-- What the first switch of `onConnectionStateChanged` leaves of a connection. -/
structure Entered (s : Connection) (state : ConnectionState) (t : Connection) : Prop where
  connectionState : t.connectionState = s.connectionState
  vpnProtocol : t.vpnProtocol = s.vpnProtocol
  silent : t.silentReconnectInProgress = s.silentReconnectInProgress
  stopping : t.stoppingAfterFailure = s.stoppingAfterFailure
  pending : t.pendingNetworkAction = s.pendingNetworkAction
  pendingTimer : t.pendingNetworkTimer = s.pendingNetworkTimer
  deadlineTimer : t.pendingNetworkDeadlineTimer = s.pendingNetworkDeadlineTimer
  recovery : s.connectedRecoveryTimer = false → t.connectedRecoveryTimer = false
  watchdog : state = .disconnected ∨ state = .disconnecting → t.connectingTimer = false
  lastError : state ≠ .disconnected → t.lastError = s.lastError

variable (s : Connection) {state : ConnectionState}

lemma entered_refl (hstate : state ≠ .disconnected ∧ state ≠ .disconnecting) :
    Entered s state s := by
  constructor <;> simp [hstate]

lemma entered_stopTimers (state : ConnectionState) : Entered s state s.stopTimers := by
  constructor <;> simp [stopTimers,stopConnectingWatchdog,
    stopConnectivityProbe,stopConnectedHealthCheck,
    stopConnectedRecovery]

lemma entered_awaitConnection (hstate : state ≠ .disconnected ∧ state ≠ .disconnecting) :
    Entered s state s.awaitConnection := by
  constructor <;> simp [awaitConnection,startConnectingWatchdog,
    stopConnectivityProbe,stopConnectedHealthCheck,
    stopConnectedRecovery,hstate]

lemma entered_forgetError {t : Connection} (h : Entered s .disconnected t) :
    Entered s .disconnected t.forgetError := by
  rw [forgetError]
  split
  · exact h
  · exact ⟨h.1,h.2,h.3,h.4,h.5,h.6,h.7,h.8,h.9,fun hs => absurd rfl hs⟩

lemma Entered.same {s t u : Connection} (h : Entered s state t) (k : Same t u) :
    Entered s state u where
  connectionState := k.connectionState.trans h.connectionState
  vpnProtocol := k.vpnProtocol.trans h.vpnProtocol
  silent := k.silentReconnectInProgress.trans h.silent
  stopping := k.stoppingAfterFailure.trans h.stopping
  pending := k.pendingNetworkAction.trans h.pending
  pendingTimer := k.pendingNetworkTimer.trans h.pendingTimer
  deadlineTimer := k.pendingNetworkDeadlineTimer.trans h.deadlineTimer
  recovery := fun hs => k.connectedRecoveryTimer.trans (h.recovery hs)
  watchdog := fun hs => k.connectingTimer.trans (h.watchdog hs)
  lastError := fun hs => k.lastError.trans (h.lastError hs)

lemma Same.entered {s t u : Connection} (h : Same s t) (k : Entered t state u) :
    Entered s state u where
  connectionState := k.connectionState.trans h.connectionState
  vpnProtocol := k.vpnProtocol.trans h.vpnProtocol
  silent := k.silent.trans h.silentReconnectInProgress
  stopping := k.stopping.trans h.stoppingAfterFailure
  pending := k.pending.trans h.pendingNetworkAction
  pendingTimer := k.pendingTimer.trans h.pendingNetworkTimer
  deadlineTimer := k.deadlineTimer.trans h.pendingNetworkDeadlineTimer
  recovery := fun hs => k.recovery (h.connectedRecoveryTimer.trans hs)
  watchdog := k.watchdog
  lastError := fun hs => (k.lastError hs).trans h.lastError

lemma entered_enterState (state : ConnectionState) : Entered s state (s.enterState state) := by
  unfold enterState
  cases state with
  | unknown => exact entered_stopTimers s _
  | disconnecting => exact entered_stopTimers s _
  | preparing => exact (same_setConnectionHealth s _).entered (entered_refl _ (by simp))
  | connecting => exact (same_setConnectionHealth s _).entered (entered_awaitConnection _ (by simp))
  | reconnecting => exact (same_setConnectionHealth s _).entered (entered_awaitConnection _ (by simp))
  | connected =>
    have hwatchdog : Entered s .connected s.stopConnectingWatchdog := by
      constructor <;> simp [stopConnectingWatchdog]
    exact hwatchdog.same (same_setConnectionHealth _ _)
  | disconnected =>
    exact (entered_forgetError s (entered_stopTimers s _)).same (same_setConnectionHealth _ _)
  | error => exact (entered_stopTimers s _).same (same_reportFailure _)

/-- Entering a new state keeps a connection on its way out. -/
lemma Entered.quitting {s t : Connection} (hs : Quitting s)
    (h : Entered (s.setState state) state t) : Quitting t where
  silent := h.silent.trans hs.silent
  stopping := h.stopping.trans hs.stopping
  pending := h.pending.trans hs.pending
  pendingTimer := h.pendingTimer.trans hs.pendingTimer
  deadlineTimer := h.deadlineTimer.trans hs.deadlineTimer
  recovery := h.recovery hs.recovery
  watchdog := by
    rw [h.connectionState]
    exact h.watchdog

lemma Quitting.admitState {s : Connection} (h : Quitting s) (state : ConnectionState) :
    Quitting (s.admitState state) := by
  cases state with
  | connected => exact ⟨rfl,h.2,h.3,h.4,h.5,h.6,h.7⟩
  | error =>
    rw [Connection.admitState]
    split
    · exact { h with }
    · exact h
  | _ => exact h

lemma admitState_vpnProtocol (state : ConnectionState) :
    (s.admitState state).vpnProtocol = s.vpnProtocol := by
  cases state with
  | error =>
    rw [admitState]
    split
    · rfl
    · rfl
  | _ => rfl

lemma admitState_error_ne (h : ∀ p ∈ s.vpnProtocol,p.lastError = .noError) :
    (s.admitState .error).lastError ≠ .noError := by
  rw [admitState]
  split
  · simp [markLastError]
  · rename_i hn
    intro he
    exact hn ⟨he,by simpa [Option.all_eq_true] using h⟩

end

section

variable {R : Wait → Connection → Connection → Prop} (hR : ∀ s t, R .service s t → t = s)

/-- The setter keeps the state it finds and ignores the new one. -/
def Kept (s : Connection) (state : ConnectionState) : Prop :=
  state = .disconnected ∧
    (s.connectionState = .reconnecting ∨ s.connectionState = .error ∧ s.lastError ≠ .noError)

/-- The setter returns at once. -/
def Ignored (s : Connection) (state : ConnectionState) : Prop :=
  state = .disconnected ∧
    (s.stoppingAfterFailure ∨ s.connectionState = .error ∧ s.lastError ≠ .noError)

/-- What `setConnectionState` makes of a connection that is being left. -/
structure Settles (s : Connection) (state : ConnectionState) (t : Connection) : Prop where
  quitting : Quitting t
  protocol : t.vpnProtocol = s.vpnProtocol
  kept : Kept s state → t.connectionState = s.connectionState ∧
    (s.connectionState = .error → t.lastError = s.lastError)
  reached : ¬Kept s state → t.connectionState = state
  recorded : state = .error → (∀ p ∈ s.vpnProtocol,p.lastError = .noError) → t.lastError ≠ .noError

include hR

lemma onConnectionStateChanged_same (s : Connection) (state : ConnectionState) :
    (onConnectionStateChanged state).EndsAt R (fun t => Same (s.enterState state) t) s := by
  have hsteps : (legacyRouting state).Steps serviceWait Same :=
    legacyRouting_steps fun _ => dereference_same
  have hrouting : (legacyRouting state).EndsAt R
    (fun t => Same (s.enterState state) t) (s.enterState state) := by
    refine (hsteps (s.enterState state)).sat (refl_of Same _) (fun _ _ => trivial) ?_
      fun t u ht htu => trans_of Same ht htu
    rintro w t u rfl ht - hu
    rw [hR t u hu]
    exact ht
  refine satAt_update_bind (hrouting.bind fun _ t ht => ?_)
  rw [when]
  split
  · exact trans_of Same ht (same_startConnectedHealthCheck t)
  · exact ht

omit hR in
/-- A `Disconnected` after a recorded error changes nothing. -/
lemma settles_error {s : Connection} (hs : Quitting s) (he : s.connectionState = .error)
    (hl : s.lastError ≠ .noError) : Settles s .disconnected s where
  quitting := hs
  protocol := rfl
  kept := fun _ => ⟨rfl,fun _ => rfl⟩
  reached := fun hk => absurd ⟨rfl,.inr ⟨he,hl⟩⟩ hk
  recorded := fun h => by cases h

omit hR in
/-- A `Disconnected` while reconnecting is handled, but the state is put back. -/
lemma settles_reconnecting {s t : Connection} (hs : Quitting s)
    (hr : s.connectionState = .reconnecting)
    (ht : Entered ((s.admitState .disconnected).setState .disconnected) .disconnected t) :
    Settles s .disconnected (t.setState s.connectionState) where
  quitting := by
    have hq := ht.quitting (hs.admitState _)
    exact ⟨hq.1,hq.2,hq.3,hq.4,hq.5,hq.6,by simp [setState,hr]⟩
  protocol := ht.vpnProtocol
  kept := fun _ => ⟨rfl,fun he => by cases hr.symm.trans he⟩
  reached := fun hk => absurd ⟨rfl,.inl hr⟩ hk
  recorded := fun h => by cases h

omit hR in
lemma settles_entered {s t : Connection} {state : ConnectionState} (hs : Quitting s)
    (hk : ¬Kept s state) (ht : Entered ((s.admitState state).setState state) state t) :
    Settles s state t where
  quitting := ht.quitting (hs.admitState _)
  protocol := ht.vpnProtocol.trans (admitState_vpnProtocol s state)
  kept := fun h => absurd h hk
  reached := fun _ => ht.connectionState
  recorded := by
    rintro rfl hp
    rw [ht.lastError (by simp)]
    exact admitState_error_ne s hp

omit hR in
lemma Settles.emit {s t : Connection} {state : ConnectionState} (h : Settles s state t)
    (emission : Emission) : Settles s state (t.emit emission) := by
  exact { h with quitting := { h.quitting with } }

/-- The setter ignores the state, or goes through the switch and back to a reconnect. -/
lemma changeState_outcome (s : Connection) (state : ConnectionState) :
    (changeState state).EndsAt R (fun t => Ignored s state ∧ t = s ∨ ¬Ignored s state ∧ ∃ u, Same
      (((s.admitState state).setState state).enterState state) u ∧ t = u.leaveState
      s.connectionState state) s := by
  refine satAt_read_bind (satAt_read_bind ?_)
  split
  · rename_i hstop
    simp only [Bool.and_eq_true,beq_iff_eq] at hstop
    exact .inl ⟨⟨hstop.2,.inl hstop.1⟩,rfl⟩
  · rename_i hstop
    refine satAt_read_bind ?_
    split
    · rename_i herror
      simp only [Bool.and_eq_true,beq_iff_eq,bne_iff_ne] at herror
      exact .inl ⟨⟨herror.1.2,.inr ⟨herror.1.1,herror.2⟩⟩,rfl⟩
    · rename_i herror
      refine satAt_update_bind (satAt_update_bind ?_)
      refine (onConnectionStateChanged_same hR _ state).bind fun _ t ht => ?_
      refine satAt_update (.inr ⟨?_,t,ht,rfl⟩)
      rintro ⟨rfl,hs | ⟨he,hl⟩⟩
      · simp [hs] at hstop
      · simp [he,hl] at herror

lemma changeState_settles {s : Connection} (hs : Quitting s) (state : ConnectionState) :
    (changeState state).EndsAt R (Settles s state) s := by
  refine (changeState_outcome hR s state).mono fun _ t ht => ?_
  rcases ht with ⟨⟨rfl,hignored⟩,rfl⟩ | ⟨hignored,u,hu,rfl⟩
  · obtain ⟨he,hl⟩ := hignored.resolve_left (by simp [hs.stopping])
    exact settles_error hs he hl
  · have hentered := (entered_enterState ((s.admitState state).setState state) state).same hu
    rw [leaveState]
    split
    · rename_i hr
      obtain ⟨rfl,hr⟩ := hr
      exact settles_reconnecting hs hr hentered
    · rename_i hr
      refine (settles_entered hs ?_ hentered).emit _
      rintro ⟨rfl,hrec | herror⟩
      · exact hr ⟨rfl,hrec⟩
      · exact hignored ⟨rfl,.inr herror⟩

lemma setConnectionState_settles {s : Connection} (hs : Quitting s) (state : ConnectionState) :
    (setConnectionState state).EndsAt R (Settles s state) s := by
  refine satAt_read_bind ?_
  split
  · rename_i hsilent
    simp [hs.silent] at hsilent
  · exact changeState_settles hR hs state

end

section

/-- A state that `stop()` emits, and the `lastError()` of the protocol by then. -/
structure Signal where
  state : ConnectionState
  error : ErrorCode
  deriving DecidableEq, Repr

/-- Nothing is dispatched while the service is called. -/
def quiet (_ : Wait) (s t : Connection) : Prop := t = s

def Emits : List Signal → Connection → Connection → Prop
  | [],s,t => t = s
  | signal::signals,s,u =>
    ∃ t, Returns quiet (onProtocolStateChanged signal.state signal.error s) () t ∧ Emits signals t u

/-- Nothing is dispatched but the signals of `stop()`. -/
def passes (signals : List Signal) : Wait → Connection → Connection → Prop
  | .stop,s,t => Emits signals s t
  | _,s,t => t = s

lemma emits_concat (signals : List Signal) (signal : Signal) (s u : Connection) :
    Emits (signals++[signal]) s u ↔ ∃ t, Emits signals s t ∧
      Returns quiet (onProtocolStateChanged signal.state signal.error t) () u := by
  induction signals generalizing s with
  | nil => simp [Emits]
  | cons first signals ih =>
    simp only [cons_append,Emits,ih]
    constructor
    · rintro ⟨t,ht,v,hv,hu⟩
      exact ⟨v,⟨t,ht,hv⟩,hu⟩
    · rintro ⟨v,⟨t,ht,hv⟩,hu⟩
      exact ⟨t,ht,v,hv,hu⟩

instance : Nonempty Answer := ⟨⟨true,.noError⟩⟩

lemma exists_quiet (w : Wait) (s : Connection) : ∃ t, quiet w s t := ⟨s,rfl⟩

lemma exists_emits (signals : List Signal) (s : Connection) : ∃ t, Emits signals s t := by
  induction signals generalizing s with
  | nil => exact ⟨s,rfl⟩
  | cons signal signals ih =>
    obtain ⟨_,t,ht⟩ := exists_returns exists_quiet (onProtocolStateChanged signal.state signal.error s)
    obtain ⟨u,hu⟩ := ih t
    exact ⟨u,t,ht,hu⟩

/-- The last state other than `Disconnected`. -/
def lastOther (states : List ConnectionState) : Option ConnectionState :=
  (states.filter (· ≠ .disconnected)).getLast?

lemma lastOther_concat (states : List ConnectionState) (state : ConnectionState) :
    lastOther (states++[state]) =
      if state = .disconnected then lastOther states else some state := by
  split
  · rename_i h
    simp [lastOther,h]
  · rename_i h
    simp [lastOther,h]

lemma lastOther_of_last {states : List ConnectionState} {state : ConnectionState}
    (h : states.getLast?.getD .disconnecting = state) (hstate : state ≠ .disconnected)
    (hdefault : state ≠ .disconnecting) : lastOther states = some state := by
  induction states using List.reverseRecOn with
  | nil => exact absurd h.symm hdefault
  | append_singleton states last _ =>
    have hlast : last = state := by simpa using h
    rw [lastOther_concat,hlast,if_neg hstate]

/-- The states end the connection: the last of them is `Disconnecting` or `Disconnected`,
and no error or reconnect stands before the last `Disconnected`s. -/
def Quits (states : List ConnectionState) : Prop :=
  (∀ state ∈ states.getLast?,state = .disconnecting ∨ state = .disconnected) ∧
    lastOther states ≠ some .error ∧ lastOther states ≠ some .reconnecting

variable {s t u : Connection} {signals : List Signal}

lemma signal_settles {signal : Signal} (hs : Quitting s)
    (h : Returns quiet (onProtocolStateChanged signal.state signal.error s) () t) :
    Settles (s.setProtocolError signal.error) signal.state t := by
  have hs' : Quitting (s.setProtocolError signal.error) := { hs with }
  have hsat : (onProtocolStateChanged signal.state signal.error).EndsAt quiet
    (fun t => Settles (s.setProtocolError signal.error) signal.state t) s :=
    satAt_update_bind (setConnectionState_settles (fun _ _ h => h) hs' _)
  exact h.of_sat hsat

lemma emits_quitting (hs : Quitting s) (h : Emits signals s t) : Quitting t := by
  induction signals generalizing s with
  | nil => exact h ▸ hs
  | cons signal signals ih =>
    obtain ⟨u,hu,ht⟩ := h
    exact ih (signal_settles hs hu).quitting ht

/-- Unless an error or a reconnect came last, the connection is where the last signal put
it. -/
lemma emits_state (hs : Quitting s) (hd : s.connectionState = .disconnecting)
    (h : Emits signals s t) (he : lastOther (signals.map Signal.state) ≠ some .error)
    (hr : lastOther (signals.map Signal.state) ≠ some .reconnecting) :
    t.connectionState = ((signals.map Signal.state).getLast?).getD .disconnecting := by
  induction signals using List.reverseRecOn generalizing t with
  | nil => exact h ▸ hd
  | append_singleton signals signal ih =>
    obtain ⟨u,hu,ht⟩ := (emits_concat signals signal s t).mp h
    have hsettles := signal_settles (emits_quitting hs hu) ht
    rw [map_append,map_singleton,lastOther_concat] at he hr
    have hlast : ((signals++[signal]).map Signal.state).getLast?.getD .disconnecting =
        signal.state := by simp
    rw [hlast]
    refine hsettles.reached ?_
    rintro ⟨hstate,hkept⟩
    rw [if_pos hstate] at he hr
    have hprev := (ih hu he hr).symm
    rcases hkept with hrec | ⟨herr,-⟩
    · exact hr (lastOther_of_last (hprev.trans hrec) (by simp) (by simp))
    · exact he (lastOther_of_last (hprev.trans herr) (by simp) (by simp))

/-- With no error of its own to report, a protocol that signals an error last leaves it
recorded, and one that reconnects last leaves the connection reconnecting. -/
lemma emits_stuck (hs : Quitting s) (h : Emits signals s t)
    (hnone : ∀ signal ∈ signals,signal.error = .noError) :
    (lastOther (signals.map Signal.state) = some .error →
      t.connectionState = .error ∧ t.lastError ≠ .noError) ∧
    (lastOther (signals.map Signal.state) = some .reconnecting →
      t.connectionState = .reconnecting) := by
  induction signals using List.reverseRecOn generalizing t with
  | nil => simp [lastOther]
  | append_singleton signals signal ih =>
    obtain ⟨u,hu,ht⟩ := (emits_concat signals signal s t).mp h
    have hsettles := signal_settles (emits_quitting hs hu) ht
    obtain ⟨herror,hreconnecting⟩ := ih hu fun signal hm => hnone signal (by simp [hm])
    rw [map_append,map_singleton,lastOther_concat]
    split
    · rename_i hstate
      constructor
      · intro hlast
        obtain ⟨hue,hul⟩ := herror hlast
        obtain ⟨hte,htl⟩ := hsettles.kept ⟨hstate,.inr ⟨hue,hul⟩⟩
        exact ⟨hte.trans hue,fun hl => hul ((htl hue).symm.trans hl)⟩
      · intro hlast
        have hur := hreconnecting hlast
        exact (hsettles.kept ⟨hstate,.inl hur⟩).1.trans hur
    · rename_i hstate
      have hreached := hsettles.reached fun hk => hstate hk.1
      constructor
      · intro hlast
        have hsignal := Option.some.inj hlast
        refine ⟨hreached.trans hsignal,hsettles.recorded hsignal ?_⟩
        simp [setProtocolError,setProtocol,hnone signal (by simp)]
      · intro hlast
        exact hreached.trans (Option.some.inj hlast)

end

section

variable {s t u : Connection} {signals : List Signal}

lemma passes_service (signals : List Signal) (s t : Connection)
    (h : passes signals .service s t) : t = s := h

lemma cancelConnection_connectionState (s : Connection) :
    s.cancelConnection.connectionState = s.connectionState := by
  simp only [cancelConnection,stopConnectingWatchdog,stopConnectedRecovery,stopPendingNetworkAction]

lemma cancelConnection_lastError (s : Connection) :
    s.cancelConnection.lastError = s.lastError := by
  simp only [cancelConnection,stopConnectingWatchdog,stopConnectedRecovery,stopPendingNetworkAction]

lemma kept_cancelConnection {state : ConnectionState} :
    Kept s.cancelConnection state ↔ Kept s state := by
  rw [Kept,Kept,cancelConnection_connectionState,cancelConnection_lastError]

lemma quitting_cancelConnection (s : Connection) : Quitting s.cancelConnection :=
  ⟨rfl,rfl,rfl,rfl,rfl,rfl,fun _ => rfl⟩

/-- How a disconnect with a protocol object returns: `stop()` leads from `u` to `v`, and a
state still `Disconnecting` becomes `Disconnected`. -/
structure Stopped (s : Connection) (signals : List Signal) (u v t : Connection) : Prop where
  disconnecting : Settles s.cancelConnection .disconnecting u
  emits : Emits signals u v
  finishes : v.connectionState = .disconnecting → Settles (v.setProtocol none) .disconnected t
  stays : v.connectionState ≠ .disconnecting → t = v.setProtocol none

lemma ipc_quiet (signals : List Signal) (s : Connection) :
    (discard ipc : Slot Unit).EndsAt (passes signals) (· = s) s :=
  ⟨trivial,fun _ _ _ ht => ht⟩

lemma closeConnection_absent (hs : s.vpnProtocol = none) : closeConnection.EndsAt (passes signals)
      (fun t => Settles s.cancelConnection .disconnected t) s := by
  refine (ipc_quiet signals s).bind fun _ t ht => satAt_update_bind (satAt_read_bind ?_)
  subst ht
  have hp : t.cancelConnection.vpnProtocol = none := hs
  rw [if_pos (by simp [hp])]
  exact setConnectionState_settles (passes_service signals) (quitting_cancelConnection t) _

lemma stopProtocol_emits (hs : s.vpnProtocol.isSome) :
    stopProtocol.EndsAt (passes signals) (Emits signals s) s := by
  refine satAt_update_bind ?_
  rw [dereference_present hs]
  exact ⟨trivial,fun _ _ _ ht => ht⟩

lemma closeConnection_present (hs : s.vpnProtocol.isSome) :
    closeConnection.EndsAt (passes signals) (fun t => ∃ u v, Stopped s signals u v t) s := by
  have hset : ∀ {t : Connection} (_ : Quitting t) (state : ConnectionState),
      (setConnectionState state).SatAt (fun _ => True) (passes signals)
        (fun _ u => Settles t state u) t :=
    fun ht state => setConnectionState_settles (passes_service signals) ht state
  refine (ipc_quiet signals s).bind fun _ t ht => satAt_update_bind (satAt_read_bind ?_)
  subst ht
  have hp : t.cancelConnection.vpnProtocol.isSome := hs
  rw [if_neg (by simpa [Option.isSome_iff_ne_none] using hp)]
  refine (hset (quitting_cancelConnection t) .disconnecting).bind fun _ u hu => ?_
  have hup : u.vpnProtocol.isSome := (congrArg Option.isSome hu.protocol).trans hp
  refine (stopProtocol_emits hup).bind fun _ v hv => satAt_update_bind (satAt_read_bind ?_)
  have hq := emits_quitting hu.quitting hv
  have hq' : Quitting (v.setProtocol none) := { hq with }
  split
  · rename_i hd
    have hvd : v.connectionState = .disconnecting := beq_iff_eq.mp hd
    exact (hset hq' .disconnected).mono fun _ w hw =>
      ⟨u,v,hu,hv,fun _ => hw,fun h => absurd hvd h⟩
  · rename_i hd
    have hvd : v.connectionState ≠ .disconnecting := fun h => hd (beq_iff_eq.mpr h)
    exact ⟨u,v,hu,hv,fun h => absurd h hvd,fun _ => rfl⟩

/-- `disconnectFromVpn` returns in `t` with nothing dispatched but what `stop()` emits. -/
def DisconnectReturns (s : Connection) (signals : List Signal) (t : Connection) : Prop :=
  Returns (passes signals) (disconnectFromVpn s) () t

lemma exists_disconnectReturns (s : Connection) (signals : List Signal) :
    ∃ t, DisconnectReturns s signals t := by
  have hpasses : ∀ w s, ∃ t, passes signals w s t := by
    intro w s
    cases w with
    | stop => exact exists_emits signals s
    | _ => exact ⟨s,rfl⟩
  obtain ⟨_,t,ht⟩ := exists_returns hpasses (disconnectFromVpn s)
  exact ⟨t,ht⟩

lemma absent_finalized_iff (hs : s.vpnProtocol = none) (h : DisconnectReturns s signals t) :
    Finalized t ↔ ¬Kept s .disconnected := by
  have hsettles : Settles (s.record .disconnectFromVpn).cancelConnection .disconnected t := by
    refine h.of_sat (Q := fun _ t => Settles _ .disconnected t) ?_
    exact satAt_update_bind (closeConnection_absent (s := s.record .disconnectFromVpn) hs)
  constructor
  · intro hfinal hkept
    have hsame := (hsettles.kept (kept_cancelConnection.mpr hkept)).1
    rw [hfinal.state,cancelConnection_connectionState] at hsame
    have hs' : s.connectionState = .disconnected := hsame.symm
    simp [Kept,hs'] at hkept
  · intro hkept
    exact hsettles.quitting.finalized (hsettles.reached fun h => hkept (kept_cancelConnection.mp h))

lemma present_stopped (hs : s.vpnProtocol.isSome) (h : DisconnectReturns s signals t) :
    ∃ u v, Stopped (s.record .disconnectFromVpn) signals u v t := by
  refine h.of_sat (Q := fun _ t => ∃ u v, Stopped (s.record .disconnectFromVpn) signals u v t) ?_
  exact satAt_update_bind (closeConnection_present (s := s.record .disconnectFromVpn) hs)

lemma Stopped.start {v : Connection} (h : Stopped s signals u v t) :
    u.connectionState = .disconnecting :=
  h.disconnecting.reached fun hk => by cases hk.1

lemma Stopped.finalized {v : Connection} (h : Stopped s signals u v t)
    (hv : v.connectionState = .disconnecting ∨ v.connectionState = .disconnected) :
    Finalized t := by
  rcases hv with hv | hv
  · have ht := h.finishes hv
    have hkept : ¬Kept (v.setProtocol none) .disconnected := by
      rintro ⟨-,hk⟩
      simp [setProtocol,hv] at hk
    exact ht.quitting.finalized (ht.reached hkept)
  · have ht := h.stays (by simp [hv])
    have hq := emits_quitting h.disconnecting.quitting h.emits
    subst ht
    exact { hq.finalized hv with }

lemma Stopped.not_finalized {v : Connection} (h : Stopped s signals u v t)
    (hv : v.connectionState ≠ .disconnecting) (hv' : v.connectionState ≠ .disconnected) :
    ¬Finalized t := by
  intro hfinal
  rw [h.stays hv] at hfinal
  exact hv' hfinal.state

lemma present_finalized (hs : s.vpnProtocol.isSome)
    (hquits : Quits (signals.map Signal.state)) (h : DisconnectReturns s signals t) :
    Finalized t := by
  obtain ⟨u,v,hstop⟩ := present_stopped hs h
  obtain ⟨hlast,he,hr⟩ := hquits
  have hv := emits_state hstop.disconnecting.quitting hstop.start hstop.emits he hr
  refine hstop.finalized ?_
  rw [hv]
  cases hg : (signals.map Signal.state).getLast? with
  | none => exact .inl rfl
  | some last => exact hlast last hg

lemma present_not_finalized (hs : s.vpnProtocol.isSome)
    (hquits : ¬Quits (signals.map Signal.state))
    (hnone : ∀ signal ∈ signals,signal.error = .noError) (h : DisconnectReturns s signals t) :
    ¬Finalized t := by
  obtain ⟨u,v,hstop⟩ := present_stopped hs h
  have hquitting := hstop.disconnecting.quitting
  obtain ⟨herror,hreconnecting⟩ := emits_stuck hquitting hstop.emits hnone
  by_cases he : lastOther (signals.map Signal.state) = some .error
  · exact hstop.not_finalized (by simp [(herror he).1]) (by simp [(herror he).1])
  · by_cases hr : lastOther (signals.map Signal.state) = some .reconnecting
    · exact hstop.not_finalized (by simp [hreconnecting hr]) (by simp [hreconnecting hr])
    · have hv := emits_state hquitting hstop.start hstop.emits he hr
      have hlast : ¬∀ state ∈ (signals.map Signal.state).getLast?,
          state = .disconnecting ∨ state = .disconnected := fun hl => hquits ⟨hl,he,hr⟩
      cases hg : (signals.map Signal.state).getLast? with
      | none => simp [hg] at hlast
      | some last =>
        have hvl : v.connectionState = last := by rw [hv,hg]; rfl
        rw [hg] at hlast
        obtain ⟨hd,hd'⟩ : last ≠ .disconnecting ∧ last ≠ .disconnected := by simpa using hlast
        exact hstop.not_finalized (hvl ▸ hd) (hvl ▸ hd')

/-- The disconnect ends in `Disconnected`: with a protocol object, because the states
that `stop()` emits end the connection, and without one, because the connection is
neither reconnecting nor in an error that has been recorded. -/
def Finalizes (s : Connection) (states : List ConnectionState) : Prop :=
  (s.vpnProtocol.isSome → Quits states) ∧
  (s.vpnProtocol = none → s.connectionState ≠ .reconnecting ∧
    (s.connectionState = .error → s.lastError = .noError))

/-- Whatever error the protocol reports of its own, a manual disconnect is finalized
exactly under that condition. -/
theorem manual_disconnect_finalized_iff (s : Connection) (states : List ConnectionState) :
    (∀ signals t, signals.map Signal.state = states → DisconnectReturns s signals t →
      Finalized t) ↔ Finalizes s states := by
  have hstates : (states.map fun state => Signal.mk state .noError).map Signal.state = states := by
    simp [Function.comp_def]
  obtain ⟨t,ht⟩ := exists_disconnectReturns s (states.map fun state => Signal.mk state .noError)
  cases hp : s.vpnProtocol with
  | none =>
    have hkept : ¬Kept s .disconnected ↔ Finalizes s states := by
      simp [Kept,Finalizes,hp]
    constructor
    · intro h
      exact hkept.mp ((absent_finalized_iff hp ht).mp (h _ t hstates ht))
    · intro h signals t _ ht
      exact (absent_finalized_iff hp ht).mpr (hkept.mpr h)
  | some protocol =>
    have hs : s.vpnProtocol.isSome := by simp [hp]
    constructor
    · intro h
      refine ⟨fun _ => ?_,fun hn => by simp [hp] at hn⟩
      by_contra hquits
      refine present_not_finalized hs (hstates.symm ▸ hquits) ?_ ht (h _ t hstates ht)
      simp
    · rintro ⟨hquits,-⟩ signals t rfl ht
      exact present_finalized hs (hquits hs) ht

/-- The service does not answer `connectToVpn`, which leaves a recorded error. -/
def failedConnection : List (Input Event Answer) :=
  [.dispatch (.connectToVpn "server" .awg),success,.answer ⟨false,.noError⟩]

/-- After a failed connection the disconnect leaves the error, and so it does where
`stop()` signals an error. -/
theorem error_outlasts_disconnect :
    (∃ t, DisconnectReturns (run step (start (some awgSettings)) failedConnection).state [] t ∧
      ¬Finalized t) ∧
    (run step (start (some awgSettings))
      (failedConnection++[.dispatch .disconnectFromVpn,success])).state.connectionState = .error ∧
    ∃ t, DisconnectReturns (run step (start (some awgSettings)) connected).state
      [⟨.error,.noError⟩] t ∧ ¬Finalized t := by
  refine ⟨?_,by decide,?_⟩
  · obtain ⟨t,ht⟩ := exists_disconnectReturns
      (run step (start (some awgSettings)) failedConnection).state []
    refine ⟨t,ht,fun hfinal => (absent_finalized_iff (by decide) ht).mp hfinal ?_⟩
    exact ⟨rfl,.inr (by decide)⟩
  · obtain ⟨t,ht⟩ := exists_disconnectReturns
      (run step (start (some awgSettings)) connected).state [⟨.error,.noError⟩]
    refine ⟨t,ht,present_not_finalized (by decide) ?_ (by simp) ht⟩
    exact fun hquits => hquits.2.1 rfl

end

end AlzheimerVPN.Lifecycle
