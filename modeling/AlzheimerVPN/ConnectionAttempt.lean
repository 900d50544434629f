import AlzheimerVPN.FailureReport
import AlzheimerVPN.SilentReconnect

/-! What becomes of a connection attempt. `connectToVpn` enters `Connecting` before it stops
the object an earlier connection left behind, whose state signals still reach the setter. -/
namespace AlzheimerVPN.Lifecycle

open Reentrancy Runs Connection Signal List

def Signal.event (signal : Signal) : Event := .protocolStateChanged signal.state signal.error

/-- Nothing is dispatched but the signals of the old object's `stop()` and of the new
object's `start()`. -/
def attempts (drop starts : List Signal) : Wait → Connection → Connection → Prop
  | .stop,s,t => Delivered (drop.map event) s t
  | .start,s,t => Delivered (starts.map event) s t
  | _,s,t => t = s

/-- `lastError()` -/
def Connection.lastErrorCode (s : Connection) : ErrorCode :=
  if s.lastError ≠ .noError then s.lastError
  else match s.vpnProtocol.map Protocol.lastError with
    | some .noError | none => if s.connectionState = .error then .unknownError else .noError
    | some error => error

/-- The attempt has failed, and a signal or the last error says why. -/
def Reported (s t : Connection) : Prop :=
  t.connectionState = .error ∧
    (t.lastErrorCode ≠ .noError ∨ protocolErrors t.emitted ≠ protocolErrors s.emitted)

/-- A notification that the network is ready starts the protocol, once the service confirms
it. -/
def Resumes (s : Connection) : Prop :=
  ∃ resume, handle [] (.physicalNetworkReadyChanged true) s = .wait .service s resume ∧
    ∀ error, resume ⟨true,error⟩ s = startConfiguredConnection s.stopPendingNetworkAction

/-- The attempt is alive: in `Connecting`, with a start that was put off still to come, or
in a state that `start()` has signalled. -/
def Alive (starts : List Signal) (t : Connection) : Prop :=
  t.connectionState = .connecting ∧ (t.pendingNetworkAction ≠ .none → Resumes t) ∨
    t.pendingNetworkAction = .none ∧ t.connectionState ∈ starts.map state

section

variable {s t u : Connection} {signal : Signal} {signals : List Signal}

/-- A silent reconnect is over once `Connected` has been signalled. -/
structure Underway (s : Connection) : Prop where
  silent : s.connectionState = .connected → s.silentReconnectInProgress = false
  stopping : s.stoppingAfterFailure = false

/-- What a state signal makes of a connection attempt. -/
structure Moved (signal : Signal) (s t : Connection) : Prop where
  underway : Underway t
  pending : t.pendingNetworkAction = s.pendingNetworkAction
  listens : t.vpnProtocol.any Protocol.stateSignals = s.vpnProtocol.any Protocol.stateSignals
  state : t.connectionState = signal.state ∨
    signal.state = .disconnected ∧ t.connectionState = s.connectionState ∧
      (s.connectionState = .reconnecting ∨ s.connectionState = .error ∧ s.lastError ≠ .noError)
  lastError : signal.error ≠ .noError → s.lastError = .noError → t.lastError = .noError

lemma listens_setProtocolError (s : Connection) (error : ErrorCode) :
    (s.setProtocolError error).vpnProtocol.any Protocol.stateSignals =
      s.vpnProtocol.any Protocol.stateSignals := by
  cases hp : s.vpnProtocol with
  | none => simp [setProtocolError,setProtocol,hp]
  | some p => simp [setProtocolError,setProtocol,hp]

/-- With an error of the object's own the setter records none. -/
lemma admitState_lastError (hs : s.vpnProtocol.isSome) {error : ErrorCode}
    (he : error ≠ .noError) (state : ConnectionState) :
    ((s.setProtocolError error).admitState state).lastError = s.lastError := by
  obtain ⟨p,hp⟩ := Option.isSome_iff_exists.mp hs
  cases state with
  | error =>
    have hall : ¬((s.setProtocolError error).lastError = .noError ∧
        (s.setProtocolError error).vpnProtocol.all (fun p => p.lastError = .noError)) := by
      simp [setProtocolError,setProtocol,hp,he]
    rw [admitState,if_neg hall]
    rfl
  | _ => rfl

lemma enterState_lastError (hs : s.lastError = .noError) (state : ConnectionState) :
    (s.enterState state).lastError = .noError := by
  by_cases hd : state = .disconnected
  · subst hd
    have hforget : s.stopTimers.forgetError.lastError = .noError := by
      rw [forgetError]
      split
      · exact hs
      · rfl
    exact (same_setConnectionHealth _ _).lastError.trans hforget
  · exact ((entered_enterState s state).lastError hd).trans hs

lemma admitState_pending (state : ConnectionState) :
    (s.admitState state).pendingNetworkAction = s.pendingNetworkAction ∧
      (s.admitState state).stoppingAfterFailure = s.stoppingAfterFailure := by
  cases state with
  | error =>
    rw [admitState]
    split
    · exact ⟨rfl,rfl⟩
    · exact ⟨rfl,rfl⟩
  | _ => exact ⟨rfl,rfl⟩

/-- The signal is handled by the switch of the setter. -/
lemma moved_entered (hs : Underway s) (hp : s.vpnProtocol.isSome)
    (hu : Same (((s.setProtocolError signal.error).admitState signal.state).setState
      signal.state |>.enterState signal.state) u) :
    Moved signal s (u.leaveState s.connectionState signal.state) := by
  have hentered := (entered_enterState _ signal.state).same hu
  have hfields := admitState_pending (s := s.setProtocolError signal.error) signal.state
  have hunderway : Underway u := by
    refine ⟨fun hc => ?_,hentered.stopping.trans (hfields.2.trans hs.stopping)⟩
    have hstate : signal.state = .connected := hentered.connectionState.symm.trans hc
    rw [hentered.silent,hstate]
    rfl
  have hpending := hentered.pending.trans hfields.1
  have hlistens : u.vpnProtocol.any Protocol.stateSignals =
      s.vpnProtocol.any Protocol.stateSignals := by
    rw [hentered.vpnProtocol]
    exact (congrArg _ (admitState_vpnProtocol _ _)).trans (listens_setProtocolError s signal.error)
  have hlast (he : signal.error ≠ .noError) (hl : s.lastError = .noError) :
      u.lastError = .noError := by
    have hadmitted : (((s.setProtocolError signal.error).admitState signal.state).setState
        signal.state).lastError = .noError := (admitState_lastError hp he signal.state).trans hl
    exact hu.lastError.trans (enterState_lastError hadmitted _)
  rw [leaveState]
  split
  · rename_i hr
    refine ⟨⟨fun hc => ?_,hunderway.stopping⟩,hpending,hlistens,.inr ⟨hr.1,rfl,.inl hr.2⟩,hlast⟩
    simp [setState,hr.2] at hc
  · exact ⟨⟨hunderway.silent,hunderway.stopping⟩,hpending,hlistens,
      .inl hentered.connectionState,hlast⟩

lemma signal_moved (hs : Underway s) (hl : s.vpnProtocol.any Protocol.stateSignals) :
    (handle [] signal.event).EndsAt quiet (Moved signal s) s := by
  refine fromProtocol_quiet (fun _ => satAt_update_bind (satAt_read_bind ?_))
    fun hlost => by simp [hl] at hlost
  have hp : s.vpnProtocol.isSome := by
    cases hv : s.vpnProtocol with
    | none => simp [hv] at hl
    | some p => rfl
  split
  · rename_i hsilent
    simp only [Bool.and_eq_true,beq_iff_eq] at hsilent
    exact absurd (hs.silent hsilent.2) (Bool.eq_false_iff.not.mpr (not_not.mpr hsilent.1.1))
  · refine (changeState_outcome quiet_service _ signal.state).mono fun _ t ht => ?_
    rcases ht with ⟨⟨hd,hignored⟩,rfl⟩ | ⟨-,u,hu,rfl⟩
    · have herror := hignored.resolve_left (by simp [setProtocolError,setProtocol,hs.stopping])
      exact ⟨⟨hs.silent,hs.stopping⟩,rfl,listens_setProtocolError s signal.error,
        .inr ⟨hd,rfl,.inr herror⟩,fun _ hl => hl⟩
    · exact moved_entered hs hp hu

/-- What a list of state signals makes of a connection attempt. -/
structure MovedBy (signals : List Signal) (s t : Connection) : Prop where
  underway : Underway t
  pending : t.pendingNetworkAction = s.pendingNetworkAction
  state : t.connectionState = s.connectionState ∨ t.connectionState ∈ signals.map state
  reached : ∀ signal ∈ signals.getLast?, signal.state ≠ .disconnected →
    t.connectionState = signal.state
  ended : (∀ signal ∈ signals, signal.error ≠ .noError) → s.lastError = .noError →
    ∀ signal ∈ signals.getLast?, signal.state = .disconnected →
      t.connectionState = .disconnected ∨ t.connectionState = .reconnecting

lemma Moved.movedBy (h : Moved signal s t) : MovedBy [signal] s t where
  underway := h.underway
  pending := h.pending
  state := by
    rcases h.state with hstate | ⟨-,hstate,-⟩
    · exact .inr (by simp [hstate])
    · exact .inl hstate
  reached := by
    rintro _ hlast hne
    obtain rfl := Option.mem_some.mp hlast
    exact h.state.resolve_right fun hkept => hne hkept.1
  ended := by
    rintro - hl _ hlast hd
    obtain rfl := Option.mem_some.mp hlast
    rcases h.state with hstate | ⟨-,hstate,hr | ⟨-,he⟩⟩
    · exact .inl (hstate.trans hd)
    · exact .inr (hstate.trans hr)
    · exact absurd hl he

lemma MovedBy.cons {last : Signal} (h : Moved signal s t)
    (k : MovedBy (last::signals) t u) : MovedBy (signal::last::signals) s u where
  underway := k.underway
  pending := k.pending.trans h.pending
  state := by
    rcases k.state with hstate | hstate
    · rw [hstate]
      exact (h.movedBy.state).imp_right fun hm => mem_append_left _ hm
    · exact .inr (mem_cons_of_mem _ hstate)
  reached := by
    intro signal hlast
    exact k.reached signal (by simpa using hlast)
  ended := by
    intro he hl signal hlast
    obtain ⟨hfirst,hrest⟩ := forall_mem_cons.mp he
    exact k.ended hrest (h.lastError hfirst hl) signal (by simpa using hlast)

lemma delivered_movedBy (h : Delivered (signals.map event) s u) (hs : Underway s)
    (hl : s.vpnProtocol.any Protocol.stateSignals) (hne : signals ≠ []) : MovedBy signals s u := by
  induction signals generalizing s with
  | nil => exact absurd rfl hne
  | cons signal signals ih =>
    obtain ⟨t,ht,hu⟩ := h
    have hmoved := ht.of_sat (signal_moved hs hl)
    cases signals with
    | nil => exact hu ▸ hmoved.movedBy
    | cons next signals =>
      exact .cons hmoved (ih hu hmoved.underway (hmoved.listens.trans hl) (by simp))

/-- The signals of an object that is not connected are lost. -/
lemma delivered_lost (hl : s.vpnProtocol.any Protocol.stateSignals = false)
    (h : Delivered (signals.map event) s u) : u = s := by
  induction signals with
  | nil => exact h
  | cons signal signals ih =>
    obtain ⟨t,ht,hu⟩ := h
    have hlost : t = s := ht.of_sat (Q := fun _ t => t = s)
      (fromProtocol_quiet (fun hany => by simp [hl] at hany) fun _ => rfl)
    exact ih (hlost ▸ hu)

end

section

variable {s t u v : Connection} {drop starts : List Signal}

/-- The attempt is not lost. -/
def AttemptKept (s : Connection) (starts : List Signal) (t : Connection) : Prop :=
  Reported s t ∨ Alive starts t

lemma attempts_service (s t : Connection) (h : attempts drop starts .service s t) : t = s := h

lemma lastErrorCode_error (ht : t.connectionState = .error) : t.lastErrorCode ≠ .noError := by
  rw [lastErrorCode]
  split
  · assumption
  · split
    · simp
    · simp
    · rename_i hne _
      exact fun h => hne h

lemma reported_error (s : Connection) (ht : t.connectionState = .error) : Reported s t :=
  ⟨ht,.inl (lastErrorCode_error ht)⟩

lemma reportError_reported (s : Connection) (error : ErrorCode) (u : Connection) :
    (do setConnectionState .error; emitError error : Slot Unit).EndsAt (attempts drop starts)
      (AttemptKept s starts) u := by
  refine (setConnectionState_entered attempts_service (by simp) u).bind fun _ t ht => ?_
  exact satAt_update (.inl (reported_error s ht.connectionState))

/-- The attempt goes on, or has failed. -/
def Pursued (s : Connection) : Prop :=
  s.connectionState = .connecting ∨ s.connectionState = .error

/-- The new object is there, and nothing but its own signals has moved the state. -/
structure Launched (starts : List Signal) (t : Connection) : Prop where
  pending : t.pendingNetworkAction = .none
  state : Pursued t ∨ t.connectionState ∈ starts.map state

lemma Launched.kept (h : Launched starts t) (s : Connection) : AttemptKept s starts t := by
  rcases h.state with (hs | hs) | hs
  · exact .inr (.inl ⟨hs,fun hne => absurd h.pending hne⟩)
  · exact .inl (reported_error s hs)
  · exact .inr (.inr ⟨h.pending,hs⟩)

lemma Launched.health (h : Launched starts t) (health : ConnectionHealth) :
    Launched starts (t.setConnectionHealth health) := by
  have hsame := same_setConnectionHealth t health
  refine ⟨hsame.pendingNetworkAction.trans h.pending,?_⟩
  rw [Pursued,hsame.connectionState]
  exact h.state

lemma delivered_launched (h : Delivered (starts.map event) v t) (hv : Underway v)
    (hc : Pursued v) (hp : v.pendingNetworkAction = .none)
    (hl : v.vpnProtocol.any Protocol.stateSignals) : Launched starts t := by
  by_cases hne : starts = []
  · subst hne
    exact h ▸ ⟨hp,.inl hc⟩
  · have hmoved := delivered_movedBy h hv hl hne
    refine ⟨hmoved.pending.trans hp,hmoved.state.imp_left fun hstate => ?_⟩
    rw [Pursued,hstate]
    exact hc

lemma prepare_quiet (c : Bool) (s : Connection) :
    (when c (discard (waitFor .prepare)) : Slot Unit).EndsAt (attempts drop starts)
      (fun t => t = s) s := by
  cases c with
  | false => exact rfl
  | true => exact ⟨trivial,fun _ _ _ ht => ht⟩

lemma startProtocol_delivered (s : Connection) : startProtocol.EndsAt (attempts drop starts)
      (Delivered (starts.map event) (s.record .start)) s :=
  ⟨trivial,fun _ _ _ ht => ht⟩

lemma createProtocol_adopts (s : Connection) :
    createProtocol.EndsAt (attempts drop starts) (· = s.adoptProtocol) s := rfl

lemma isCurrent_quiet (id : ℕ) (s : Connection) :
    (isCurrent id).EndsAt (attempts drop starts) (· = s) s := rfl

/-- A start in `Connecting` is kept whatever the new object does. -/
lemma startConfiguredConnection_kept (s : Connection) (hv : Underway v) (hc : Pursued v) :
    startConfiguredConnection.EndsAt (attempts drop starts) (AttemptKept s starts) v := by
  refine satAt_update_bind (satAt_read_bind ?_)
  dsimp only
  split
  · refine (createProtocol_adopts _).bind fun id t ht => ?_
    refine (prepare_quiet _ t).bind fun _ t' ht' => satAt_update_bind ?_
    subst ht' ht
    refine (startProtocol_delivered _).bind fun error t ht => ?_
    have hlaunched : Launched starts t := delivered_launched ht ⟨hv.silent,hv.stopping⟩ hc rfl rfl
    refine (isCurrent_quiet id t).bind fun current t' ht' => ?_
    subst ht'
    split
    · split
      · exact satAt_update_bind (reportError_reported s _ _)
      · refine satAt_read_bind ?_
        split
        · exact satAt_update ((hlaunched.health _).kept s)
        · exact hlaunched.kept s
    · exact hlaunched.kept s
  · exact satAt_update_bind (reportError_reported s _ _)

/-- A start that is put off in `Connecting` is resumed once the network is ready. -/
lemma defer_kept (s : Connection) (hc : Pursued v) (health : ConnectionHealth) :
    AttemptKept s starts (v.defer .startConnection health) := by
  have hsame : (v.defer .startConnection health).connectionState = v.connectionState :=
    (same_setConnectionHealth _ _).connectionState
  have hpending : (v.defer .startConnection health).pendingNetworkAction = .startConnection :=
    (same_setConnectionHealth _ _).pendingNetworkAction
  rcases hc with hc | hc
  · have hstate := hsame.trans hc
    refine .inr (.inl ⟨hstate,fun _ => ?_⟩)
    simp [Resumes,handle,resumePendingNetworkAction,hpending,ipc,waitFor,Res.bind,resumeAction,
      hstate]
  · exact .inl (reported_error s (hsame.trans hc))

lemma stopProtocol_delivered (hs : s.vpnProtocol.isSome) :
    stopProtocol.EndsAt (attempts drop starts) (Delivered (drop.map event) s) s := by
  refine satAt_update_bind ?_
  rw [dereference_present hs]
  exact ⟨trivial,fun _ _ _ ht => ht⟩

lemma disconnectErrors_isSome (s : Connection) :
    s.disconnectErrors.vpnProtocol.isSome = s.vpnProtocol.isSome := by
  simp [disconnectErrors,setProtocol]

lemma disconnectErrors_listens (s : Connection) :
    s.disconnectErrors.vpnProtocol.any Protocol.stateSignals =
      s.vpnProtocol.any Protocol.stateSignals := by
  cases hp : s.vpnProtocol with
  | none => simp [disconnectErrors,setProtocol,hp]
  | some p => simp [disconnectErrors,setProtocol,hp]

/-- The old object leaves the attempt in `Connecting`, or in an `Error`: nothing of it is
connected, it signals nothing, or it signals one of the two last. -/
def Unmoved (s : Connection) (states : List ConnectionState) : Prop :=
  s.vpnProtocol.any Protocol.stateSignals = false ∨
    ∀ state ∈ states.getLast?, state = .connecting ∨ state = .error

lemma delivered_unmoved (hu : Underway u) (hc : u.connectionState = .connecting)
    (hunmoved : Unmoved u (drop.map state)) (h : Delivered (drop.map event) u.disconnectErrors v) :
    Underway v ∧ Pursued v := by
  by_cases hl : u.vpnProtocol.any Protocol.stateSignals
  · have hstates := hunmoved.resolve_left (by simp [hl])
    by_cases hne : drop = []
    · subst hne
      exact h ▸ ⟨⟨hu.silent,hu.stopping⟩,.inl hc⟩
    · have hmoved := delivered_movedBy h ⟨hu.silent,hu.stopping⟩
        ((disconnectErrors_listens u).trans hl) hne
      obtain ⟨last,hlast⟩ := Option.ne_none_iff_exists'.mp (mt List.getLast?_eq_none_iff.mp hne)
      have hlast' := hstates last.state (by simp [hlast])
      have hreached := hmoved.reached last hlast (by rcases hlast' with h | h <;> simp [h])
      refine ⟨hmoved.underway,?_⟩
      rw [Pursued,hreached]
      exact hlast'
  · have hlost := delivered_lost ((disconnectErrors_listens u).trans (Bool.eq_false_iff.mpr hl)) h
    exact hlost ▸ ⟨⟨hu.silent,hu.stopping⟩,.inl hc⟩

/-- How the old object is dropped: its `stop()` signals what is still connected. -/
lemma dropProtocol_unmoved (hu : Underway u) (hc : u.connectionState = .connecting)
    (hunmoved : Unmoved u (drop.map state)) :
    dropProtocol.SatAt (fun _ => True) (attempts drop starts)
      (fun _ v => Underway v ∧ Pursued v) u := by
  refine satAt_read_bind ?_
  split
  · rename_i hp
    refine satAt_update_bind ?_
    refine (stopProtocol_delivered ((disconnectErrors_isSome u).trans hp)).bind fun _ v hv => ?_
    have hv' := delivered_unmoved hu hc hunmoved hv
    exact satAt_update ⟨⟨hv'.1.silent,hv'.1.stopping⟩,hv'.2⟩
  · exact ⟨hu,.inl hc⟩

lemma underway_connecting (s : Connection) (serverId : String) (container : DockerContainer)
    (h : Entered ((((s.beginConnection serverId container).admitState .connecting)).setState
      .connecting) .connecting u) : Underway u ∧ u.connectionState = .connecting := by
  have hc : u.connectionState = .connecting := h.connectionState
  refine ⟨⟨fun hconnected => ?_,h.stopping⟩,hc⟩
  cases hc.symm.trans hconnected

lemma call_quiet (s : Connection) : ipc.EndsAt (attempts drop starts) (· = s) s :=
  ⟨trivial,fun _ _ _ ht => ht⟩

/-- `connectToVpn` once the service has granted its protection. -/
lemma launch_kept (s : Connection) (hu : Underway u) (hc : u.connectionState = .connecting)
    (hunmoved : Unmoved u (drop.map state)) :
    (do
      dropProtocol
      if !(← deferUntilPhysicalNetworkReady .startConnection .checkingLocalNetwork) then
        startConfiguredConnection : Slot Unit).EndsAt (attempts drop starts) (AttemptKept s starts)
          u := by
  refine (dropProtocol_unmoved hu hc hunmoved).bind ?_
  rintro - v ⟨hv,hpursued⟩
  refine Handler.SatAt.bind (P := fun deferred t =>
    t = if deferred then v.defer .startConnection .checkingLocalNetwork else v) ?_ ?_
  · refine (call_quiet v).bind fun ready t ht => ?_
    subst ht
    cases ready with
    | false => exact satAt_update_bind rfl
    | true => exact rfl
  · rintro deferred t rfl
    cases deferred with
    | false => exact startConfiguredConnection_kept s hv hpursued
    | true => exact defer_kept s hpursued _

lemma openConnection_kept (serverId : String) (container : DockerContainer)
    (hunmoved : s.settings.isSome → Unmoved s (drop.map state)) :
    (openConnection serverId container).EndsAt (attempts drop starts) (AttemptKept s starts) s := by
  refine satAt_read_bind ?_
  split
  · refine (setConnectionState_entered attempts_service (by simp) s).mono fun _ t ht => ?_
    exact .inl (reported_error s ht.connectionState)
  · rename_i hs
    have hunmoved' := hunmoved (by simpa [Option.isSome_iff_ne_none] using hs)
    have hcall : (discard ipc : Slot Unit).EndsAt (attempts drop starts)
      (fun t => t = s.beginConnection serverId container)
        (s.beginConnection serverId container) := ⟨trivial,fun _ _ _ ht => ht⟩
    refine satAt_update_bind (hcall.bind ?_)
    rintro - _ rfl
    refine (setConnectionState_entered attempts_service (by simp) _).bind fun _ u hu => ?_
    obtain ⟨hunderway,hc⟩ := underway_connecting s serverId container hu
    have hu' : Unmoved u (drop.map state) := by
      rw [Unmoved,hu.vpnProtocol]
      exact hunmoved'
    refine (call_quiet u).bind fun granted t ht => ?_
    subst ht
    cases granted with
    | false => exact satAt_update_bind (reportError_reported s _ _)
    | true => exact launch_kept s hunderway hc hu'

end

section

variable {s u v : Connection} {drop starts : List Signal}

lemma exists_attempts (drop starts : List Signal) (w : Wait) (s : Connection) :
    ∃ t, attempts drop starts w s t := by
  cases w with
  | stop => exact exists_delivered _ s
  | start => exact exists_delivered _ s
  | _ => exact ⟨s,rfl⟩

lemma dropProtocol_returns (hu : u.disconnectErrors.vpnProtocol.isSome)
    (hv : Delivered (drop.map event) u.disconnectErrors v) :
    Returns (attempts drop starts) (dropProtocol u) () (v.setProtocol none) := by
  rw [dropProtocol,bind_apply,read_apply,done_bind,if_pos ((disconnectErrors_isSome u).symm.trans hu),
    bind_apply,update_apply,done_bind]
  refine .bind (x := stopProtocol u.disconnectErrors) (a := ()) (t := v) ?_ (.done () _)
  rw [stopProtocol,bind_apply,dereference,update_apply,dereference_present hu]
  exact .wait ⟨true,.noError⟩ hv (.done () v)

/-- The service grants the protection, and the physical network is not ready. -/
lemma openConnection_deferred (drop starts : List Signal) (serverId : String)
    (container : DockerContainer) (hs : s.settings.isSome) (hp : s.vpnProtocol.isSome) :
    ∃ u v, Entered (((s.beginConnection serverId container).admitState .connecting).setState
        .connecting) .connecting u ∧
      Delivered (drop.map event) u.disconnectErrors v ∧
      Returns (attempts drop starts) (openConnection serverId container s) ()
        ((v.setProtocol none).defer .startConnection .checkingLocalNetwork) := by
  obtain ⟨_,u,hu⟩ := exists_returns (exists_attempts drop starts)
    (setConnectionState .connecting (s.beginConnection serverId container))
  have hentered := hu.of_sat (Q := fun _ u => Entered (((s.beginConnection serverId
    container).admitState .connecting).setState .connecting) .connecting u)
    (setConnectionState_entered attempts_service (by simp) _)
  have hup : u.disconnectErrors.vpnProtocol.isSome := by
    rw [disconnectErrors_isSome,hentered.vpnProtocol]
    exact hp
  obtain ⟨v,hv⟩ := exists_delivered (drop.map event) u.disconnectErrors
  refine ⟨u,v,hentered,hv,?_⟩
  have hsettings : ¬s.settings.isNone := by simpa [Option.isSome_iff_ne_none] using hs
  rw [openConnection,bind_apply,read_apply,done_bind,if_neg hsettings,bind_apply,update_apply,
    done_bind]
  refine .bind (x := discard ipc (s.beginConnection serverId container))
    (.wait ⟨true,.noError⟩ rfl (.done () _)) (.bind hu ?_)
  refine .bind (x := ipc u) (.wait ⟨true,.noError⟩ rfl (.done true u)) ?_
  rw [if_neg (by simp)]
  refine .bind (dropProtocol_returns hup hv) ?_
  refine .bind (x := deferUntilPhysicalNetworkReady _ _ (v.setProtocol none)) (a := true) ?_
    (.done () _)
  exact .bind (x := ipc (v.setProtocol none)) (.wait ⟨false,.noError⟩ rfl (.done false _))
    (.done true _)

/-- Otherwise the attempt is lost if its start has to be put off. -/
lemma delivered_moves {states : List ConnectionState}
    (hu : Underway u) (he : u.lastError = .noError) (hmoves : ¬Unmoved u states)
    (h : Delivered ((states.map fun state => mk state .unknownError).map event)
      u.disconnectErrors v) : ¬Pursued v := by
  simp only [Unmoved,not_or,Bool.not_eq_false,not_forall] at hmoves
  obtain ⟨hl,last,hlast,hc,herror⟩ := hmoves
  have hne : (states.map fun state => mk state .unknownError) ≠ [] := by
    rintro hnil
    simp [map_eq_nil_iff.mp hnil] at hlast
  have hmoved := delivered_movedBy h ⟨hu.silent,hu.stopping⟩
    ((disconnectErrors_listens u).trans hl) hne
  have hlast' : mk last .unknownError ∈
      (states.map fun state => mk state .unknownError).getLast? := by
    simp [Option.mem_def.mp hlast]
  by_cases hd : last = .disconnected
  · have hended := hmoved.ended (by simp) he _ hlast' hd
    rcases hended with hended | hended <;> simp [Pursued,hended]
  · have hreached := hmoved.reached _ hlast' hd
    simp [Pursued,hreached,hc,herror]

lemma not_kept_deferred (s : Connection) (hv : ¬Pursued v) (health : ConnectionHealth) :
    ¬AttemptKept s starts (v.defer .startConnection health) := by
  have hstate : (v.defer .startConnection health).connectionState = v.connectionState :=
    (same_setConnectionHealth _ _).connectionState
  have hpending : (v.defer .startConnection health).pendingNetworkAction = .startConnection :=
    (same_setConnectionHealth _ _).pendingNetworkAction
  rintro (hreported | ⟨hc,-⟩ | ⟨hnone,-⟩)
  · exact hv (.inr (hstate.symm.trans hreported.1))
  · exact hv (.inl (hstate.symm.trans hc))
  · cases hpending.symm.trans hnone

end

/-- An attempt is kept whatever the service replies, and whatever error the old object has
of its own, exactly if the states that the old object's `stop()` signals leave it in
`Connecting` or report an error. -/
theorem connection_attempt_kept_iff (s : Connection) (serverId : String)
    (container : DockerContainer) (states : List ConnectionState) (starts : List Signal) :
    (∀ drop t, drop.map state = states →
      Returns (attempts drop starts) (connectToVpn serverId container s) () t →
        AttemptKept s starts t) ↔ (s.settings.isSome → Unmoved s states) := by
  constructor
  · intro h hs
    by_contra hmoves
    have hp : s.vpnProtocol.isSome := by
      by_contra hnone
      refine hmoves (.inl ?_)
      simp [Option.not_isSome_iff_eq_none.mp hnone]
    obtain ⟨u,v,hu,hv,hreturns⟩ := openConnection_deferred (s := s.record .connectToVpn)
      (states.map fun state => mk state .unknownError) starts serverId container hs hp
    obtain ⟨hunderway,-⟩ := underway_connecting _ serverId container hu
    have hv' : ¬Pursued v := by
      refine delivered_moves hunderway (hu.lastError (by simp)) ?_ hv
      rw [Unmoved,hu.vpnProtocol]
      exact hmoves
    refine not_kept_deferred s (v := v.setProtocol none) hv' _ (h _ _ ?_ hreturns)
    simp [Function.comp_def]
  · rintro h drop t rfl hreturns
    exact hreturns.of_sat (Q := fun _ t => AttemptKept s starts t)
      (satAt_update_bind (openConnection_kept (s := s.record .connectToVpn) serverId container h))

/-- A connection whose AmneziaWG backend has failed; its object is still there. -/
def backendError : List (Input Event Answer) :=
  connected++[.dispatch (.protocolStateChanged .error .vpnBackendFailure),
    .dispatch (.protocolError .vpnBackendFailure)]

/-- The next attempt: the old object's `stop()` signals `Disconnected`, and the physical
network is not ready. -/
def lostAttempt : Machine :=
  run step (start (some awgSettings)) (backendError++
    [.dispatch (.connectToVpn "server" .awg),success,success,
      .dispatch (.protocolStateChanged .disconnected .vpnBackendFailure),success,
      .answer ⟨false,.noError⟩])

/-- `connectToVpn` returns in `Disconnected` with no error, and the network coming back
starts nothing. -/
theorem attempt_lost : lostAttempt.stack.length = 0 ∧
    lostAttempt.state.connectionState = .disconnected ∧
    lostAttempt.state.lastErrorCode = .noError ∧
    lostAttempt.state.pendingNetworkAction = .startConnection ∧
    lostAttempt.state.actions.count .start = 1 ∧
    (run step lostAttempt [.dispatch (.physicalNetworkReadyChanged true),
      success]).state.actions.count .start = 1 ∧
    (run step lostAttempt [.dispatch (.physicalNetworkReadyChanged true),
      success]).state.pendingNetworkAction = .none := by
  decide

end AlzheimerVPN.Lifecycle
