import AlzheimerVPN.ManualDisconnect

/-! The timers of a connection that waits: while it connects, reconnects or replaces its
protocol object silently, the connecting watchdog or the deadline of the network is to be
running whenever no slot is. -/
namespace AlzheimerVPN.Lifecycle

open Reentrancy Runs

/-- The tunnel is being replaced silently. -/
def Replaces (s : Connection) : Prop :=
  s.connectionState = .connected ∧ s.silentReconnectInProgress

/-- The connection waits for its protocol object. -/
def Waits (s : Connection) : Prop :=
  s.connectionState = .connecting ∨ s.connectionState = .reconnecting ∨ Replaces s

/-- A waiting connection has its timer; the deadline of the network counts while the start
is put off, and a reconnect has an object. -/
structure Timed (s : Connection) : Prop where
  connecting : s.connectionState = .connecting → s.connectingTimer ∨
    s.pendingNetworkDeadlineTimer ∧ s.pendingNetworkAction = .startConnection
  reconnecting : s.connectionState = .reconnecting → s.connectingTimer ∧ s.vpnProtocol.isSome
  replaces : Replaces s → s.connectingTimer

/-- A change that keeps the timers and does not make the connection wait. -/
structure Calm (s t : Connection) : Prop where
  timed : Timed s → Timed t
  waits : Waits t → Waits s
  reconnecting : t.connectionState = .reconnecting → s.connectionState = .reconnecting
  replaces : Replaces t → Replaces s

abbrev calm (_ : Wait) : Connection → Connection → Prop := Calm

instance : IsPreorder Connection Calm where
  refl _ := ⟨id,id,id,id⟩
  trans _ _ _ h k := ⟨k.timed ∘ h.timed,h.waits ∘ k.waits,h.reconnecting ∘ k.reconnecting,
    h.replaces ∘ k.replaces⟩

section

variable {s t : Connection}

lemma timed_of_not_waits (h : ¬Waits t) : Timed t where
  connecting := fun hc => absurd (.inl hc) h
  reconnecting := fun hr => absurd (.inr (.inl hr)) h
  replaces := fun hs => absurd (.inr (.inr hs)) h

/-- A connection that does not wait needs no timer. -/
lemma calm_of_not_waits (s : Connection) (h : ¬Waits t) : Calm s t where
  timed := fun _ => timed_of_not_waits h
  waits := fun hw => absurd hw h
  reconnecting := fun hr => absurd (.inr (.inl hr)) h
  replaces := fun hs => absurd (.inr (.inr hs)) h

lemma waits_congr (hstate : t.connectionState = s.connectionState)
    (hsilent : t.silentReconnectInProgress = s.silentReconnectInProgress) : Waits t ↔ Waits s := by
  rw [Waits,Waits,Replaces,Replaces,hstate,hsilent]

lemma Aside.timed (h : Aside s t) (hs : Timed s) : Timed t := by
  have hreplaces : Replaces t ↔ Replaces s := by
    rw [Replaces,Replaces,h.state,h.silent]
  refine ⟨fun hc => ?_,fun hr => ?_,fun hr => ?_⟩
  · rw [h.watchdog,h.deadline,h.pending]
    exact hs.connecting (h.state.symm.trans hc)
  · rw [h.watchdog,h.protocol]
    exact hs.reconnecting (h.state.symm.trans hr)
  · rw [h.watchdog]
    exact hs.replaces (hreplaces.mp hr)

lemma Aside.calm (h : Aside s t) : Calm s t where
  timed := h.timed
  waits := (waits_congr h.state h.silent).mp
  reconnecting := fun hr => h.state.symm.trans hr
  replaces := fun hr => ⟨h.state.symm.trans hr.1,h.silent.symm.trans hr.2⟩

instance : Monitored anyWait Calm where
  waits _ := trivial
  aside _ _ _ h := h.calm

lemma dereference_calm : dereference.Steps anyWait Calm := by
  refine steps_update fun s => ?_
  split
  · exact Aside.calm ⟨rfl,rfl,rfl,rfl,rfl,rfl⟩
  · exact refl_of Calm s

end

section

/-- The slot ends with a connection that does not wait. -/
abbrev EndsIdle {α : Type} (p : Slot α) (s : Connection) : Prop := p.EndsAt calm (¬Waits ·) s

variable {α : Type} {s : Connection} {P : Connection → Prop}
  (hP : ∀ s t, P s → Calm s t → P t)

include hP in
/-- What a calm change keeps, a slot of calm steps keeps. -/
lemma calm_satAt {p : Slot α} (hp : p.StepsAt anyWait Calm s) (hs : P s) : p.EndsAt calm P s :=
  Res.Steps.sat hp hs (fun _ _ => trivial) (fun _ s t _ hs _ h => hP s t hs h) hP

lemma EndsIdle.timed {p : Slot α} (h : EndsIdle p s) : p.EndsAt calm Timed s :=
  h.mono fun _ _ => timed_of_not_waits

lemma EndsIdle.calm {p : Slot α} {t : Connection} (h : EndsIdle p t) : p.EndsAt calm (Calm s) t :=
  h.mono fun _ _ => calm_of_not_waits s

lemma not_waits_calm (s t : Connection) (hs : ¬Waits s) (h : Calm s t) : ¬Waits t :=
  fun ht => hs (h.waits ht)

include hP in
lemma onConnectionStateChanged_keeps {state : ConnectionState} (hs : P (s.enterState state)) :
    (onConnectionStateChanged state).EndsAt calm P s := by
  refine satAt_update_bind (Handler.SatAt.bind (calm_satAt hP
    (legacyRouting_steps (fun _ => dereference_calm) _) hs) fun _ t ht => ?_)
  exact calm_satAt hP (steps_when _ (steps_update fun s =>
    (aside_startConnectedHealthCheck s).calm) t) ht

variable {state : ConnectionState}

lemma not_waits_enterState (hs : ¬Waits s) : ¬Waits (s.enterState state) := by
  have hentered := entered_enterState s state
  exact fun h => hs ((waits_congr hentered.connectionState hentered.silent).mp h)

lemma admitState_silent (s : Connection) :
    ¬Replaces ((s.admitState .connected).setState .connected) := by
  simp [Replaces,Connection.admitState,Connection.setState,Connection.setSilentReconnect]

/-- A state in which the connection does not wait is entered, unless a `Disconnected` is
ignored or comes to a reconnecting connection. -/
lemma changeState_idle (hc : state ≠ .connecting) (hr : state ≠ .reconnecting) (s : Connection) :
    (changeState state).EndsAt calm (fun t => ¬Waits t ∨ Ignored s state ∧ t = s ∨ state =
      .disconnected ∧ s.connectionState = .reconnecting ∧ s.stoppingAfterFailure = false ∧
      t.connectionState = .reconnecting) s := by
  refine satAt_read_bind (satAt_read_bind ?_)
  split
  · rename_i hstop
    simp only [Bool.and_eq_true,beq_iff_eq] at hstop
    exact .inr (.inl ⟨⟨hstop.2,.inl hstop.1⟩,rfl⟩)
  · rename_i hstop
    refine satAt_read_bind ?_
    split
    · rename_i herror
      simp only [Bool.and_eq_true,beq_iff_eq,bne_iff_ne] at herror
      exact .inr (.inl ⟨⟨herror.1.2,.inr ⟨herror.1.1,herror.2⟩⟩,rfl⟩)
    · refine satAt_update_bind (satAt_update_bind ?_)
      have hs : ¬Waits ((s.admitState state).setState state) := by
        rintro (h | h | h)
        · exact hc h
        · exact hr h
        · have hstate : state = .connected := h.1
          subst hstate
          exact admitState_silent s h
      refine (onConnectionStateChanged_keeps not_waits_calm (not_waits_enterState hs)).bind
        fun _ t ht => satAt_update ?_
      rw [Connection.leaveState]
      split
      · rename_i hprevious
        obtain ⟨rfl,hprevious⟩ := hprevious
        refine .inr (.inr ⟨rfl,hprevious,?_,hprevious⟩)
        simpa using hstop
      · exact .inl fun h => ht ((waits_congr rfl rfl).mp h)

lemma changeState_quiet (hc : state ≠ .connecting) (hr : state ≠ .reconnecting)
    (hd : state ≠ .disconnected) (s : Connection) : EndsIdle (changeState state) s :=
  (changeState_idle hc hr s).mono fun _ _ ht => ht.resolve_right fun h =>
    h.elim (fun h => hd h.1.1) fun h => hd h.1

lemma setConnectionState_quiet (hc : state ≠ .connecting) (hr : state ≠ .reconnecting)
    (hd : state ≠ .disconnected) (s : Connection) : EndsIdle (setConnectionState state) s := by
  refine satAt_read_bind ?_
  rw [if_neg (by simp [hd])]
  exact changeState_quiet hc hr hd s

variable (error : ErrorCode)

lemma emitError_idle (hs : ¬Waits s) : EndsIdle (emitError error) s :=
  satAt_update fun h => hs ((waits_congr rfl rfl).mp h)

lemma reportError_idle (s : Connection) :
    EndsIdle (do setConnectionState .error; emitError error : Slot Unit) s :=
  (setConnectionState_quiet (by simp) (by simp) (by simp) s).bind fun _ _ ht =>
    emitError_idle error ht

lemma canRecover_not_waits (hs : s.canRecover) : ¬Waits s := by
  simp only [Connection.canRecover,Bool.and_eq_true,beq_iff_eq,Bool.not_eq_true'] at hs
  rintro (h | h | h)
  · cases hs.1.1.1.symm.trans h
  · cases hs.1.1.1.symm.trans h
  · cases hs.1.1.2.symm.trans h.2

lemma recoverConnectedTunnel_idle {health : ConnectionHealth} {error : ErrorCode}
    (h : (s.recoverConnectedTunnel health error).1) :
    ¬Waits (s.recoverConnectedTunnel health error).2 := by
  have hcan : ((s.markLastError error).setConnectionHealth health).canRecover := by
    by_contra hcan
    rw [Connection.recoverConnectedTunnel,Connection.scheduleRecovery,
      if_pos (by simpa using hcan)] at h
    cases h
  have haside := aside_scheduleRecovery ((s.markLastError error).setConnectionHealth health)
  exact fun hw => canRecover_not_waits hcan ((waits_congr haside.state haside.silent).mp hw)

/-- A failed silent reconnect is over, whatever has happened meanwhile. -/
lemma handleSilentReconnectFailure_idle (health : ConnectionHealth) (error : ErrorCode)
    (s : Connection) : EndsIdle (handleSilentReconnectFailure health error) s := by
  refine satAt_update_bind (satAt_update_bind (satAt_read_bind ?_))
  refine (satAt_trivial stopAfterFailure _).bind fun _ t _ => ?_
  refine (satAt_trivial (when _ _) t).bind fun _ u _ => satAt_read_bind (satAt_update_bind ?_)
  split
  · rename_i hrecovers
    exact recoverConnectedTunnel_idle hrecovers
  · refine (changeState_quiet (by simp) (by simp) (by simp) _).bind fun _ v hv => ?_
    exact (emitError_idle error hv).bind fun _ _ hw => hw

/-- After a timeout the connection does not wait any more. -/
lemma onConnectingTimedOut_idle (s : Connection) : EndsIdle onConnectingTimedOut s := by
  refine satAt_read_bind ?_
  split
  · exact (handleSilentReconnectFailure_idle _ _ s).bind fun _ _ ht => ht
  · rename_i hsilent
    split
    · refine satAt_update_bind ((satAt_trivial stopAfterFailure _).bind fun _ t _ => ?_)
      refine (setConnectionState_quiet (by simp) (by simp) (by simp) t).bind fun _ u hu => ?_
      exact satAt_update_bind (emitError_idle _ fun h => hu ((waits_congr rfl rfl).mp h))
    · rename_i hwaits
      simp only [Bool.and_eq_true,beq_iff_eq,Bool.or_eq_true,not_or] at hsilent hwaits
      rintro (h | h | h)
      · exact hwaits.1 h
      · exact hwaits.2 h
      · exact hsilent ⟨h.2,h.1⟩

lemma onProtocolError_idle (s : Connection) : EndsIdle (onProtocolError error) s := by
  refine satAt_read_bind ?_
  split
  · exact (handleSilentReconnectFailure_idle _ _ s).bind fun _ _ ht => ht
  · refine satAt_update_bind ((satAt_trivial (when _ _) _).bind fun _ t _ => satAt_read_bind ?_)
    refine Handler.SatAt.bind (P := fun _ t => ¬Waits t) ?_ fun _ u hu => emitError_idle error hu
    rw [when]
    split
    · exact satAt_update_bind (setConnectionState_quiet (by simp) (by simp) (by simp) _)
    · rename_i hended
      simp only [Bool.and_eq_true,bne_iff_ne,not_and_or,not_not] at hended
      rintro (h | h | h)
      · rcases hended with hd | hd <;> cases hd.symm.trans h
      · rcases hended with hd | hd <;> cases hd.symm.trans h
      · rcases hended with hd | hd <;> cases hd.symm.trans h.1

end

section

variable {s t : Connection}

lemma calm_mapProtocol (s : Connection) (f : Protocol → Protocol) :
    Calm s (s.setProtocol (s.vpnProtocol.map f)) := by
  refine ⟨fun hs => ⟨hs.connecting,fun hr => ?_,hs.replaces⟩,id,id,id⟩
  exact ⟨(hs.reconnecting hr).1,Option.isSome_map.trans (hs.reconnecting hr).2⟩

/-- A connection attempt with its timer. -/
structure Attempting (s : Connection) : Prop where
  timed : Timed s
  reconnecting : s.connectionState ≠ .reconnecting
  replaces : ¬Replaces s

lemma attempting_calm (s t : Connection) (hs : Attempting s) (h : Calm s t) : Attempting t :=
  ⟨h.timed hs.timed,fun hr => hs.reconnecting (h.reconnecting hr),
    fun hr => hs.replaces (h.replaces hr)⟩

lemma timed_calm (s t : Connection) (hs : Timed s) (h : Calm s t) : Timed t := h.timed hs

/-- The setter's work on a state that is waited in. -/
lemma changeState_waits {state : ConnectionState} (hd : state ≠ .disconnected)
    {P : Connection → Prop} (hP : ∀ s t, P s → Calm s t → P t) (s : Connection)
    (hs : P (((s.admitState state).setState state).enterState state)) :
    (changeState state).EndsAt calm P s := by
  refine satAt_read_bind (satAt_read_bind ?_)
  rw [if_neg (by simp [hd])]
  refine satAt_read_bind ?_
  rw [if_neg (by simp [hd])]
  refine satAt_update_bind (satAt_update_bind ?_)
  refine (onConnectionStateChanged_keeps hP hs).bind fun _ t ht => satAt_update (hP t _ ht ?_)
  rw [Connection.leaveState,if_neg (by simp [hd])]
  exact Aside.calm ⟨rfl,rfl,rfl,rfl,rfl,rfl⟩

lemma setConnecting_attempting (s : Connection) :
    (setConnectionState .connecting).EndsAt calm Attempting s := by
  refine satAt_read_bind ?_
  rw [if_neg (by simp)]
  refine changeState_waits (by simp) attempting_calm s ?_
  have hstate := (entered_enterState ((s.admitState .connecting).setState .connecting)
    .connecting).connectionState
  have hstate' : (((s.admitState .connecting).setState .connecting).enterState
    .connecting).connectionState = .connecting := hstate
  refine ⟨⟨fun _ => .inl rfl,fun hr => ?_,fun hr => ?_⟩,?_,fun hr => ?_⟩
  · cases hstate'.symm.trans hr
  · cases hstate'.symm.trans hr.1
  · simp [hstate']
  · cases hstate'.symm.trans hr.1

lemma setReconnecting_timed (hp : s.vpnProtocol.isSome) :
    (setConnectionState .reconnecting).EndsAt calm Timed s := by
  refine satAt_read_bind ?_
  rw [if_neg (by simp)]
  refine changeState_waits (by simp) timed_calm s ?_
  have hentered := entered_enterState ((s.admitState .reconnecting).setState .reconnecting)
    .reconnecting
  have hstate : (((s.admitState .reconnecting).setState .reconnecting).enterState
    .reconnecting).connectionState = .reconnecting := hentered.connectionState
  refine ⟨fun hc => ?_,fun _ => ⟨rfl,?_⟩,fun hr => ?_⟩
  · cases hstate.symm.trans hc
  · rw [hentered.vpnProtocol]
    exact hp
  · cases hstate.symm.trans hr.1

/-- What a signal may do while a slot waits: it does not make the connection reconnect, and
makes it connect or disconnect only if it waits already or does not reconnect. -/
lemma onProtocolStateChanged_calm {state : ConnectionState} (error : ErrorCode)
    (hr : state ≠ .reconnecting) (hc : state = .connecting → Waits s)
    (hd : state = .disconnected → s.connectionState = .reconnecting → s.stoppingAfterFailure) :
    (onProtocolStateChanged state error).EndsAt calm (Calm s) s := by
  have hcalm : Calm s (s.setProtocolError error) := calm_mapProtocol s _
  refine satAt_update_bind ?_
  by_cases hconnecting : state = .connecting
  · subst hconnecting
    refine (setConnecting_attempting _).mono fun _ t ht => ?_
    exact ⟨fun _ => ht.timed,fun _ => hc rfl,fun h => absurd h ht.reconnecting,
      fun h => absurd h ht.replaces⟩
  · refine satAt_read_bind ?_
    split
    · exact (handleSilentReconnectFailure_idle _ _ _).bind fun _ t ht => calm_of_not_waits s ht
    · refine (changeState_idle hconnecting hr _).mono fun _ t ht => ?_
      rcases ht with ht | ⟨-,rfl⟩ | ⟨rfl,hrec,hstop,-⟩
      · exact calm_of_not_waits s ht
      · exact hcalm
      · cases (hd rfl hrec).symm.trans hstop

end

section

variable {s : Connection}

lemma stopProtocol_calm : stopProtocol.Steps anyWait Calm :=
  dereference_calm.bind fun _ => (steps_waitFor (V := anyWait) trivial).discard

/-- A reconnecting connection without an object stays as it is. -/
lemma calm_absent {t u : Connection} (h : Calm s t) (hp : t.vpnProtocol = none)
    (ht : t.connectionState = .reconnecting) (hu : u.connectionState = .reconnecting) :
    Calm s u where
  timed := by
    intro hs
    have hsome := ((h.timed hs).reconnecting ht).2
    simp [hp] at hsome
  waits := fun _ => h.waits (.inr (.inl ht))
  reconnecting := fun _ => h.reconnecting ht
  replaces := fun hr => by cases hu.symm.trans hr.1

lemma closeConnection_calm (s : Connection) : closeConnection.EndsAt calm (Calm s) s := by
  have hcall : (discard ipc : Slot Unit).EndsAt calm (Calm s) s := ⟨trivial,fun _ _ _ ht => ht⟩
  refine hcall.bind fun _ t ht => satAt_update_bind (satAt_read_bind ?_)
  split
  · rename_i hp
    have hnone : t.vpnProtocol = none := Option.isNone_iff_eq_none.mp hp
    refine satAt_read_bind ?_
    rw [if_neg (by simp [Connection.cancelConnection])]
    refine (changeState_idle (by simp) (by simp) _).mono fun _ u hu => ?_
    rcases hu with hu | ⟨⟨-,hignored⟩,rfl⟩ | ⟨-,hrec,-,hu⟩
    · exact calm_of_not_waits s hu
    · obtain ⟨herror,-⟩ := hignored.resolve_left (by simp [Connection.cancelConnection])
      exact calm_of_not_waits s (by simp [Waits,Replaces,herror])
    · exact calm_absent ht hnone hrec hu
  · refine (setConnectionState_quiet (by simp) (by simp) (by simp) _).bind fun _ u hu => ?_
    refine (calm_satAt not_waits_calm (stopProtocol_calm u) hu).bind fun _ v hv => ?_
    have hv' : ¬Waits (v.setProtocol none) := fun h => hv ((waits_congr rfl rfl).mp h)
    refine satAt_update_bind (satAt_read_bind ?_)
    split
    · rename_i hdisconnecting
      have hstate : (v.setProtocol none).connectionState = .disconnecting :=
        beq_iff_eq.mp hdisconnecting
      refine satAt_read_bind ?_
      rw [if_neg (by simp [hstate])]
      refine (changeState_idle (by simp) (by simp) _).mono fun _ w hw => ?_
      rcases hw with hw | ⟨-,rfl⟩ | ⟨-,hrec,-⟩
      · exact calm_of_not_waits s hw
      · exact calm_of_not_waits s hv'
      · cases hstate.symm.trans hrec
    · exact calm_of_not_waits s hv'

lemma deadline_calm (waiting : List Event) (s : Connection) :
    (handle waiting .pendingNetworkDeadlineTimer).EndsAt calm (Calm s) s := by
  refine satAt_read_bind ?_
  split
  · refine satAt_update_bind (satAt_read_bind ?_)
    split
    · exact satAt_update_bind ((onConnectingTimedOut_idle _).calm)
    · rename_i hpending
      have hpending' : s.pendingNetworkAction ≠ .startConnection :=
        fun h => hpending (beq_iff_eq.mpr h)
      refine ⟨fun hs => ⟨fun hc => .inl ?_,hs.reconnecting,hs.replaces⟩,id,id,id⟩
      exact (hs.connecting hc).resolve_right fun h => hpending' h.2
  · exact refl_of Calm s

/-- What may be dispatched: the slots that begin to wait run only while no other slot
waits, as does the signal of a reconnect, while that of an attempt may come to a
connection that waits already; and `Disconnected` does not come to a reconnecting
connection, unless it is being stopped after a failure. -/
def Timely (s : Connection) (waiting : List Event) : Event → Prop
  | .protocolStateChanged .reconnecting _ => waiting = []
  | .protocolStateChanged .connecting _ => waiting = [] ∨ Waits s
  | .protocolStateChanged .disconnected _ =>
    s.connectionState = .reconnecting → s.stoppingAfterFailure
  | e => e.holdsProtocol → waiting = []

instance (s : Connection) : Decidable (Replaces s) := inferInstanceAs (Decidable (_ ∧ _))

instance (s : Connection) : Decidable (Waits s) := inferInstanceAs (Decidable (_ ∨ _))

instance (s : Connection) (waiting : List Event) (e : Event) : Decidable (Timely s waiting e) := by
  unfold Timely
  split <;> infer_instance

/-- Every other event is calm in whatever company it is dispatched. -/
lemma handle_calm (waiting : List Event) {e : Event} (he : e.holdsProtocol = false)
    (hr : ∀ error, e ≠ .protocolStateChanged .reconnecting error)
    (hc : ∀ error, e = .protocolStateChanged .connecting error → Waits s)
    (hd : ∀ error, e = .protocolStateChanged .disconnected error →
      s.connectionState = .reconnecting → s.stoppingAfterFailure) :
    (handle waiting e).EndsAt calm (Calm s) s := by
  have hcalm : ∀ t u, Calm s t → Calm t u → Calm s u := fun _ _ => trans_of Calm
  have hidle {p : Slot Unit} (hp : EndsIdle p s) : p.EndsAt calm (Calm s) s :=
    hp.mono fun _ _ ht => calm_of_not_waits s ht
  cases hw : e.watches with
  | true =>
    cases hj : e.judges with
    | false => exact calm_satAt hcalm (handle_watches waiting e hw hj s) (refl_of Calm s)
    | true =>
      obtain ⟨t,ht,-,haside⟩ := handle_judges waiting e hj s
      rw [Handler.EndsAt,Handler.SatAt,ht]
      exact haside.calm
  | false =>
    cases e with
    | disconnectFromVpn =>
      have hrecord : Calm s (s.record .disconnectFromVpn) := Aside.calm ⟨rfl,rfl,rfl,rfl,rfl,rfl⟩
      exact satAt_update_bind ((closeConnection_calm _).mono fun _ t ht => trans_of Calm hrecord ht)
    | pendingNetworkDeadlineTimer => exact deadline_calm waiting s
    | connectingTimer =>
      refine satAt_read_bind ?_
      split
      · exact satAt_update_bind ((onConnectingTimedOut_idle _).calm)
      · exact refl_of Calm s
    | siteRouteTimer =>
      exact calm_satAt hcalm (fromProtocol_steps _ waiting
        (onSiteRouteTimer_steps dereference_calm) s) (refl_of Calm s)
    | protocolStateChanged state error =>
      refine satAt_read_bind ?_
      split
      · refine onProtocolStateChanged_calm error ?_ ?_ ?_
        · rintro rfl
          exact hr error rfl
        · rintro rfl
          exact hc error rfl
        · rintro rfl
          exact hd error rfl
      · exact refl_of Calm s
    | protocolError error =>
      refine satAt_read_bind ?_
      split
      · exact hidle (onProtocolError_idle error s)
      · exact refl_of Calm s
    | _ => first | (cases hw; done) | cases he

end

section

variable {s t u : Connection}

lemma timed_watched (hw : s.connectingTimer) (hp : s.vpnProtocol.isSome) :
    Timed s := ⟨fun _ => .inl hw,fun _ => ⟨hw,hp⟩,fun _ => hw⟩

lemma ipc_keeps {P : Connection → Prop} (hP : ∀ s t, P s → Calm s t → P t) (hs : P s) :
    ipc.EndsAt calm P s :=
  ⟨trivial,fun _ t _ h => hP s t hs h⟩

lemma startProtocol_calm : startProtocol.Steps anyWait Calm := by
  have hrecord (s : Connection) : Calm s (s.record .start) := Aside.calm ⟨rfl,rfl,rfl,rfl,rfl,rfl⟩
  exact (steps_update hrecord).bind fun _ =>
    (steps_waitFor (V := anyWait) trivial).bind fun _ => steps_pure _

lemma createProtocol_keeps (s : Connection) :
    createProtocol.EndsAt calm (· = s.adoptProtocol) s := rfl

/-- The new object comes with the watchdog, whatever state it finds. -/
lemma startConfiguredConnection_timed (s : Connection) :
    startConfiguredConnection.EndsAt calm Timed s := by
  refine satAt_update_bind (satAt_read_bind ?_)
  dsimp only
  split
  · refine (createProtocol_keeps _).bind fun id t ht => ?_
    have htimed : Timed t := ht ▸ timed_watched rfl rfl
    refine (calm_satAt timed_calm (steps_when _ (steps_waitFor (V := anyWait) trivial).discard t)
      htimed).bind fun _ u hu => satAt_update_bind ?_
    refine (calm_satAt timed_calm (startProtocol_calm _)
      ((calm_mapProtocol u _).timed hu)).bind fun error v hv => satAt_read_bind ?_
    split
    · split
      · exact satAt_update_bind ((reportError_idle _ _).timed)
      · refine satAt_read_bind ?_
        split
        · exact satAt_update ((aside_setConnectionHealth v _).timed hv)
        · exact hv
    · exact hv
  · exact satAt_update_bind ((reportError_idle _ _).timed)

lemma replaceProtocol_timed (s : Connection) : replaceProtocol.EndsAt calm Timed s := by
  refine satAt_read_bind ?_
  split
  · refine (createProtocol_keeps _).bind fun id t ht => satAt_update_bind ?_
    have htimed : Timed t.createProtocolConnections.startConnectingWatchdog :=
      ht ▸ timed_watched rfl rfl
    refine (calm_satAt timed_calm (startProtocol_calm _) htimed).bind
      fun error v hv => satAt_read_bind ?_
    split
    · split
      · refine satAt_read_bind ?_
        split
        · exact satAt_update ((aside_setConnectionHealth v _).timed hv)
        · exact hv
      · split
        · exact (handleSilentReconnectFailure_idle _ _ v).bind fun _ _ h => timed_of_not_waits h
        · exact satAt_update_bind (satAt_update_bind ((reportError_idle _ _).timed))
    · exact hv
  · exact satAt_update_bind (satAt_update_bind ((reportError_idle _ _).timed))

lemma defer_state (s : Connection) (action : PendingNetworkAction) (health : ConnectionHealth) :
    (s.defer action health).connectionState = s.connectionState :=
  (aside_setConnectionHealth _ _).state

lemma defer_silent (s : Connection) (action : PendingNetworkAction) (health : ConnectionHealth) :
    (s.defer action health).silentReconnectInProgress = s.silentReconnectInProgress :=
  (aside_setConnectionHealth _ _).silent

lemma not_waits_defer (hs : ¬Waits s) (action : PendingNetworkAction)
    (health : ConnectionHealth) : ¬Waits (s.defer action health) :=
  fun h => hs ((waits_congr (defer_state s action health) (defer_silent s action health)).mp h)

/-- An attempt that is put off has its deadline. -/
lemma defer_timed (hs : Attempting s) (health : ConnectionHealth) :
    Timed (s.defer .startConnection health) := by
  have hdeadline : (s.defer .startConnection health).pendingNetworkDeadlineTimer :=
    (aside_setConnectionHealth _ _).deadline.trans (Bool.or_true _)
  have hpending : (s.defer .startConnection health).pendingNetworkAction = .startConnection :=
    (aside_setConnectionHealth _ _).pending
  refine ⟨fun _ => .inr ⟨hdeadline,hpending⟩,fun hr => ?_,fun hr => ?_⟩
  · exact absurd ((defer_state s _ health).symm.trans hr) hs.reconnecting
  · exact absurd ⟨(defer_state s _ health).symm.trans hr.1,
      (defer_silent s _ health).symm.trans hr.2⟩ hs.replaces

lemma dropProtocol_attempting (hs : Attempting s) : dropProtocol.EndsAt calm Attempting s := by
  refine satAt_read_bind ?_
  split
  · refine satAt_update_bind ?_
    refine (calm_satAt attempting_calm (stopProtocol_calm _)
      (attempting_calm _ _ hs (calm_mapProtocol s _))).bind fun _ t ht => satAt_update ?_
    exact ⟨⟨ht.timed.connecting,fun hr => absurd hr ht.reconnecting,ht.timed.replaces⟩,
      ht.reconnecting,ht.replaces⟩
  · exact hs

lemma openConnection_timed (serverId : String) (container : DockerContainer) (s : Connection) :
    (openConnection serverId container).EndsAt calm Timed s := by
  refine satAt_read_bind ?_
  split
  · exact (setConnectionState_quiet (by simp) (by simp) (by simp) s).timed
  · refine satAt_update_bind ((satAt_trivial (discard ipc) _).bind fun _ t _ => ?_)
    refine (setConnecting_attempting t).bind fun _ u hu => ?_
    refine (ipc_keeps attempting_calm hu).bind fun granted v hv => ?_
    split
    · exact satAt_update_bind ((reportError_idle _ _).timed)
    · refine (dropProtocol_attempting hv).bind fun _ w hw => ?_
      refine Handler.SatAt.bind (P := fun deferred x => deferred = true → Timed x) ?_ ?_
      · refine (ipc_keeps attempting_calm hw).bind fun ready x hx => ?_
        split
        · exact fun h => by cases h
        · exact satAt_update_bind fun _ => defer_timed hx _
      · intro deferred x hx
        split
        · exact startConfiguredConnection_timed x
        · rename_i hdeferred
          exact hx (by simpa using hdeferred)

/-- The network is waited for, or the connection still does not wait. -/
lemma deferUntilPhysicalNetworkReady_idle (action : PendingNetworkAction)
    (health : ConnectionHealth) (hs : ¬Waits s) :
    EndsIdle (deferUntilPhysicalNetworkReady action health) s := by
  refine (ipc_keeps not_waits_calm hs).bind fun ready t ht => ?_
  split
  · exact ht
  · exact satAt_update_bind (not_waits_defer ht action health)

lemma startSilentReconnect_timed (hs : Timed s)
    (hidle : s.silentReconnectInProgress = false → ¬Waits s) :
    startSilentReconnect.EndsAt calm Timed s := by
  refine satAt_read_bind ?_
  split
  · exact hs
  · rename_i hsilent
    refine (deferUntilPhysicalNetworkReady_idle _ _ (hidle (Bool.eq_false_iff.mpr hsilent))).bind
      fun deferred t ht => ?_
    split
    · exact timed_of_not_waits ht
    · refine satAt_update_bind (satAt_update_bind (satAt_update_bind ?_))
      refine (satAt_trivial stopProtocol _).bind fun _ u _ => satAt_update_bind ?_
      exact replaceProtocol_timed _

lemma not_waits_connected (hc : s.connectionState = .connected)
    (hsilent : s.silentReconnectInProgress = false) : ¬Waits s := by
  simp [Waits,Replaces,hc,hsilent]

lemma reconnectToVpn_timed (hs : Timed s) : reconnectToVpn.EndsAt calm Timed s := by
  refine satAt_read_bind ?_
  split
  · exact hs
  · split
    · exact hs
    · rename_i hbusy
      split
      · exact hs
      · rename_i hstate
        have hidle : ¬Waits s := by
          simp only [Bool.or_eq_true,not_or,Bool.not_eq_true] at hbusy
          exact not_waits_connected (by simpa using hstate) hbusy.1.1
        refine (deferUntilPhysicalNetworkReady_idle _ _ hidle).bind fun deferred t ht => ?_
        split
        · exact timed_of_not_waits ht
        · refine satAt_read_bind ?_
          have hwhen : (when (!t.silentReconnectInProgress) (update (·.setRecoveryAttempts 0)) :
              Slot Unit).EndsAt calm (¬Waits ·) t := by
            rw [when]
            split
            · exact fun h => ht ((waits_congr rfl rfl).mp h)
            · exact ht
          refine hwhen.bind fun _ u hu => satAt_read_bind ?_
          split
          · have hu' : ¬Waits ((u.setRecoveryAttempts
                (u.connectedRecoveryAttempts+1)).setRecoveryAttempted true) :=
              fun h => hu ((waits_congr rfl rfl).mp h)
            exact satAt_update_bind
              (startSilentReconnect_timed (timed_of_not_waits hu') fun _ => hu')
          · exact timed_of_not_waits hu

lemma stopPendingNetworkAction_timed (hs : Timed s)
    (hstart : s.pendingNetworkAction = .startConnection → s.connectionState ≠ .connecting) :
    Timed s.stopPendingNetworkAction := by
  refine ⟨fun hc => .inl ?_,hs.reconnecting,hs.replaces⟩
  exact (hs.connecting hc).resolve_right fun h => hstart h.2 hc

lemma resumePendingNetworkAction_timed (hs : Timed s) :
    resumePendingNetworkAction.EndsAt calm Timed s := by
  refine satAt_read_bind ?_
  split
  · refine (ipc_keeps timed_calm hs).bind fun ready t ht => ?_
    split
    · refine satAt_read_bind (satAt_update_bind ?_)
      cases haction : t.pendingNetworkAction with
      | startConnection =>
        rw [resumeAction]
        split
        · exact startConfiguredConnection_timed _
        · rename_i hstate
          exact stopPendingNetworkAction_timed ht fun _ h => hstate (beq_iff_eq.mpr h)
      | requestReconnect =>
        have hstopped := stopPendingNetworkAction_timed ht (by simp [haction])
        rw [resumeAction]
        split
        · exact reconnectToVpn_timed hstopped
        · exact hstopped
      | startSilentReconnect =>
        have hstopped := stopPendingNetworkAction_timed ht (by simp [haction])
        rw [resumeAction]
        split
        · rename_i hstate
          exact startSilentReconnect_timed hstopped
            (not_waits_connected (s := t.stopPendingNetworkAction) (beq_iff_eq.mp hstate))
        · exact hstopped
      | none => exact stopPendingNetworkAction_timed ht (by simp [haction])
    · exact ht
  · exact hs

lemma onConnectedRecoveryTimer_timed (hs : Timed s) :
    (handle [] .connectedRecoveryTimer).EndsAt calm Timed s := by
  refine satAt_read_bind ?_
  split
  · have hstopped : Timed s.stopConnectedRecovery :=
      Aside.timed (s := s) ⟨rfl,rfl,rfl,rfl,rfl,rfl⟩ hs
    refine satAt_update_bind (satAt_read_bind ?_)
    split
    · rename_i hrecover
      exact startSilentReconnect_timed hstopped fun _ => canRecover_not_waits hrecover
    · exact hstopped
  · exact hs

lemma reconnecting_timed (error : ErrorCode) (hs : Timed s) :
    (handle [] (.protocolStateChanged .reconnecting error)).EndsAt calm Timed s := by
  refine satAt_read_bind ?_
  split
  · rename_i hsignals
    have hp : s.vpnProtocol.isSome := by
      cases hprotocol : s.vpnProtocol with
      | none => simp [hprotocol] at hsignals
      | some p => rfl
    exact satAt_update_bind (setReconnecting_timed (Option.isSome_map.trans hp))
  · exact hs

lemma connecting_timed (error : ErrorCode) (hs : Timed s) :
    (handle [] (.protocolStateChanged .connecting error)).EndsAt calm Timed s := by
  refine satAt_read_bind ?_
  split
  · exact satAt_update_bind ((setConnecting_attempting _).mono fun _ _ h => h.timed)
  · exact hs

lemma handle_timed {e : Event} (he : Timely s [] e) (hs : Timed s) :
    (handle [] e).EndsAt calm Timed s := by
  have hother (hh : e.holdsProtocol = false)
      (hr : ∀ error, e ≠ .protocolStateChanged .reconnecting error)
      (hc : ∀ error, e ≠ .protocolStateChanged .connecting error) :
      (handle [] e).EndsAt calm Timed s := by
    refine (handle_calm [] hh hr (fun error h => absurd h (hc error)) ?_).mono
      fun _ t ht => ht.timed hs
    rintro error rfl
    exact he
  cases e with
  | connectToVpn serverId container =>
    exact satAt_update_bind (openConnection_timed serverId container _)
  | networkChanged => exact reconnectToVpn_timed hs
  | wakeup => exact reconnectToVpn_timed hs
  | physicalNetworkReadyChanged ready =>
    cases ready with
    | false => exact hs
    | true => exact resumePendingNetworkAction_timed hs
  | resumePendingNetworkAction => exact resumePendingNetworkAction_timed hs
  | pendingNetworkTimer =>
    refine satAt_read_bind ?_
    split
    · exact resumePendingNetworkAction_timed hs
    · exact hs
  | connectedRecoveryTimer => exact onConnectedRecoveryTimer_timed hs
  | protocolStateChanged state error =>
    cases state with
    | connecting => exact connecting_timed error hs
    | reconnecting => exact reconnecting_timed error hs
    | _ => exact hother rfl (by simp) (by simp)
  | _ => exact hother rfl (by simp) (by simp)

end

/-- What a suspended slot may rely on: the slots on top of it are calm. -/
def RestsCalm : List Event → Connection → Connection → Prop
  | [],_,_ => True
  | _::_,s,t => Calm s t

/-- The timers are looked at while no slot waits. -/
def TimedAtRest : List Event → Connection → Prop
  | [],s => Timed s
  | _::_,_ => True

lemma handle_timely (waiting : List Event) (e : Event) (s : Connection)
    (he : Timely s waiting e) (hs : TimedAtRest waiting s) :
    (handle waiting e).SatAt (TimedAtRest (e::waiting)) (fun _ => RestsCalm (e::waiting))
      (fun _ t => TimedAtRest waiting t ∧ RestsCalm waiting s t) s := by
  cases waiting with
  | nil => exact (handle_timed he hs).mono fun _ _ h => ⟨h,trivial⟩
  | cons f rest =>
    have hcalm : (handle (f::rest) e).EndsAt calm (Calm s) s := by
      refine handle_calm (f::rest) ?_ ?_ ?_ ?_
      · cases hh : e.holdsProtocol with
        | false => rfl
        | true => cases e <;> first | (cases hh; done) | cases he rfl
      · rintro error rfl
        cases he
      · rintro error rfl
        exact he.resolve_left (List.cons_ne_nil f rest)
      · rintro error rfl
        exact he
    exact hcalm.mono fun _ _ h => ⟨trivial,h⟩

lemma Timed.running {s : Connection} (hs : Timed s) (hw : Waits s) :
    s.connectingTimer ∨ s.pendingNetworkDeadlineTimer := by
  rcases hw with hc | hr | hr
  · exact (hs.connecting hc).imp_right And.left
  · exact .inl (hs.reconnecting hr).1
  · exact .inl (hs.replaces hr)

/-- In a timely run no waiting state is left without its timer. -/
theorem waiting_connection_timed (settings : Option Settings) (inputs : List (Input Event Answer))
    (h : Guarded step (AdmitsAt Timely) (start settings) inputs) :
    Always step (fun c => c.stack = [] → Waits c.state →
      c.state.connectingTimer ∨ c.state.pendingNetworkDeadlineTimer) (start settings) inputs := by
  intro pre hpre hrest hwaits
  have hg : Guarded step (AdmitsAt Timely) (start settings) pre :=
    fun before i hi => h before i (hi.trans hpre)
  have hinitial : Timed (initial settings) := timed_of_not_waits (by simp [Waits,Replaces,initial])
  have hrefl (L : List Event) (s : Connection) : RestsCalm L s s := by
    cases L with
    | nil => trivial
    | cons e rest => exact refl_of Calm s
  have htrans (L : List Event) (s t u : Connection) (hst : RestsCalm L s t)
      (htu : RestsCalm L t u) : RestsCalm L s u := by
    cases L with
    | nil => trivial
    | cons e rest => exact trans_of Calm hst htu
  have htimed := Suspended.run handle hrefl htrans handle_timely
    (c := start settings) (.nil hinitial) hg
  rw [Config.waiting,hrest] at htimed
  exact htimed.running hwaits

/-- A connection that comes up, is replaced after a network change and is retried once the
watchdog has run out. -/
def timedRun : List (Input Event Answer) :=
  connected++[.dispatch .networkChanged,success,success,success,success,
    .dispatch .connectingTimer,success,.dispatch .connectedRecoveryTimer,success,success,success]

theorem replaced_connection_timed :
    Guarded step (AdmitsAt Timely) (start (some awgSettings)) timedRun ∧
      Waits (run step (start (some awgSettings)) timedRun).state ∧
      Always step (fun c => c.stack = [] → Waits c.state →
        c.state.connectingTimer ∨ c.state.pendingNetworkDeadlineTimer)
        (start (some awgSettings)) timedRun := by
  have htimely : Guarded step (AdmitsAt Timely) (start (some awgSettings)) timedRun := by
    decide
  exact ⟨htimely,by decide,waiting_connection_timed _ _ htimely⟩

/-- An OpenVPN connection comes up, its management interface reports a reconnect and then
its process ends. -/
def finishedWhileReconnecting : List (Input Event Answer) :=
  [.dispatch (.connectToVpn "server" .openVpn),success,success,success,success,success,
    .dispatch (.protocolStateChanged .connecting .noError),success,success,
    .dispatch (.protocolStateChanged .connected .noError),success,success,success,
    .dispatch (.protocolStateChanged .reconnecting .noError),success,
    .dispatch (.protocolStateChanged .disconnected .noError),success,success]

def finished : Machine :=
  run step (start (some {awgSettings with defaultContainer := .openVpn})) finishedWhileReconnecting

/-- The connection stays in `Reconnecting` without a timer. -/
theorem reconnecting_left_untimed : finished.stack.length = 0 ∧
    finished.state.connectionState = .reconnecting ∧ Waits finished.state ∧
    finished.state.connectingTimer = false ∧
    finished.state.pendingNetworkDeadlineTimer = false := by
  decide

end AlzheimerVPN.Lifecycle
