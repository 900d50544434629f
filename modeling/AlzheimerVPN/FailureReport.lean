import AlzheimerVPN.ManualDisconnect

/-! What is reported of a connection that has failed. A handshake timeout is reported as
such whatever `stop()` signals meanwhile. -/
namespace AlzheimerVPN.Lifecycle

open Reentrancy Runs Connection

/-- The connection is over, by a disconnect or by a failure. -/
def Connection.Ended (s : Connection) : Prop :=
  s.connectionState = .disconnected ∨ s.connectionState = .error

/-- No progress is published of a connection that is over. -/
lemma setConnectionHealth_ended {s : Connection} (hs : s.Ended) {health : ConnectionHealth}
    (hp : connectionHealthProblem health = false) (hi : health ≠ .idle) :
    s.setConnectionHealth health = s := by
  have hfilter : s.shouldPublishConnectionHealth health = false := by
    rcases hs with hs | hs
    · simp [shouldPublishConnectionHealth,hs,hp,hi]
    · simp [shouldPublishConnectionHealth,hs,hp]
  simp [setConnectionHealth,hfilter]

/-- A change that a connection on its way out, or one that is over, does not see. -/
def Unchanged (state : ConnectionState) (s t : Connection) : Prop :=
  state = .disconnecting ∨ s.Ended → t = s

instance (state : ConnectionState) : IsPreorder Connection (Unchanged state) where
  refl _ _ := rfl
  trans s t u h k hs := by
    have ht := h hs
    subst ht
    exact k hs

section

variable {s : Connection} {state : ConnectionState}
  (hstate : state = .disconnecting ∨ state = .error ∨ state = .disconnected)

lemma ipc_unchanged : ipc.Steps serviceWait (Unchanged state) :=
  (steps_waitFor (V := serviceWait) rfl).bind fun _ => steps_pure _

lemma configureDnsSplitTunnel_unchanged (hne : state ≠ .disconnecting) :
    configureDnsSplitTunnel.Steps serviceWait (Unchanged state) := by
  refine steps_read.bind fun s => ?_
  cases s.settings with
  | none => exact steps_pure _
  | some settings =>
    dsimp only
    split
    · refine .bind (steps_update fun t ht => ?_) fun _ => ipc_unchanged.discard
      exact setConnectionHealth_ended (ht.resolve_left hne) rfl (by simp)
    · exact steps_pure _

include hstate

/-- The cleanup in the service touches nothing of the connection itself, whatever is
dispatched while it waits, as long as the connection is over. -/
lemma legacyRouting_unchanged : (legacyRouting state).Steps serviceWait (Unchanged state) := by
  refine steps_read.bind fun s => ?_
  cases s.settings with
  | none => exact steps_pure _
  | some settings =>
    dsimp only
    split
    · refine ipc_unchanged.bind fun reached => ?_
      split
      · rcases hstate with rfl | rfl | rfl
        · exact steps_pure _
        · exact configureDnsSplitTunnel_unchanged (by simp)
        · exact configureDnsSplitTunnel_unchanged (by simp)
      · exact steps_pure _
    · exact steps_pure _

lemma legacyRouting_quiet {R : Wait → Connection → Connection → Prop}
    (hR : ∀ s t, R .service s t → t = s) (hs : state = .disconnecting ∨ s.Ended) :
    (legacyRouting state).EndsAt R (· = s) s := by
  refine (legacyRouting_unchanged hstate s).sat rfl (fun _ _ => trivial) ?_ ?_
  · rintro w t u rfl rfl - hu
    exact hR t u hu
  · rintro t u rfl htu
    exact htu hs

end

section

/-- The errors reported by `vpnProtocolError`, the latest first. -/
def protocolErrors (emitted : List Emission) : List ErrorCode :=
  emitted.filterMap fun
    | .vpnProtocolError error => some error
    | _ => none

/-- A connection attempt whose handshake has timed out; `errors` have been reported. -/
structure TimedOut (errors : List ErrorCode) (s : Connection) : Prop where
  connecting : s.connectionState ≠ .connected
  lastError : s.lastError = .vpnHandshakeTimeout
  health : s.connectionHealth = .handshakeTimeout
  errors : protocolErrors s.emitted = errors

variable {R : Wait → Connection → Connection → Prop} (hR : ∀ s t, R .service s t → t = s)
  {errors : List ErrorCode} {s t : Connection} {state : ConnectionState}

lemma TimedOut.stopTimers (h : TimedOut errors s) : TimedOut errors s.stopTimers :=
  { h with }

lemma TimedOut.enterState (h : TimedOut errors s)
    (hstate : state = .disconnecting ∨ state = .error) : s.enterState state = s.stopTimers := by
  rcases hstate with rfl | rfl
  · rfl
  · rw [enterState,reportFailure,h.stopTimers.health]
    rfl

include hR

/-- Neither a `Disconnecting` nor an `Error` touches what is reported. -/
lemma changeState_timedOut (h : TimedOut errors s)
    (hstate : state = .disconnecting ∨ state = .error) :
    (changeState state).EndsAt R (fun t => TimedOut errors t ∧ t.connectionState = state ∧
      t.stoppingAfterFailure = s.stoppingAfterFailure) s := by
  have hne : state ≠ .disconnected := by rcases hstate with rfl | rfl <;> simp
  have hadmitted : s.admitState state = s := by
    rcases hstate with rfl | rfl
    · rfl
    · simp [admitState,h.lastError]
  have hset : TimedOut errors (s.setState state) := by
    refine ⟨?_,h.lastError,h.health,h.errors⟩
    rcases hstate with rfl | rfl <;> simp [setState]
  refine satAt_read_bind (satAt_read_bind ?_)
  rw [if_neg (by simp [hne])]
  refine satAt_read_bind ?_
  rw [if_neg (by simp [hne])]
  refine satAt_update_bind (satAt_update_bind ?_)
  rw [hadmitted]
  refine Handler.SatAt.bind (P := fun _ t => t = (s.setState state).stopTimers) ?_ ?_
  · refine satAt_update_bind ?_
    rw [hset.enterState hstate]
    refine (legacyRouting_quiet (hstate.imp_right .inl) hR ?_).bind fun _ t ht => ?_
    · exact hstate.imp_right .inr
    · subst ht
      rcases hstate with rfl | rfl <;> exact rfl
  · rintro - t rfl
    refine satAt_update ?_
    rw [leaveState,if_neg (by simp [hne])]
    have ht := hset.stopTimers
    exact ⟨{ ht with },rfl,rfl⟩

lemma setConnectionState_timedOut (h : TimedOut errors s)
    (hstate : state = .disconnecting ∨ state = .error) :
    (setConnectionState state).EndsAt R (fun t => TimedOut errors t ∧ t.connectionState = state ∧
      t.stoppingAfterFailure = s.stoppingAfterFailure) s := by
  refine satAt_read_bind ?_
  rw [if_neg (by simp [h.connecting])]
  exact changeState_timedOut hR h hstate

abbrev Signal.Ends (signal : Signal) : Prop :=
  signal.state = .disconnecting ∨ signal.state = .disconnected ∨ signal.state = .error

omit hR in
/-- Its `Disconnected` is ignored while the failed protocol is stopped. -/
lemma signal_timedOut {signal : Signal} (h : TimedOut errors s)
    (hstop : s.stoppingAfterFailure)
    (hsignal : signal.Ends)
    (ht : Returns quiet (onProtocolStateChanged signal.state signal.error s) () t) :
    TimedOut errors t ∧ t.stoppingAfterFailure := by
  have h' : TimedOut errors (s.setProtocolError signal.error) := { h with }
  refine ht.of_sat (Q := fun _ t => TimedOut errors t ∧ t.stoppingAfterFailure) ?_
  refine satAt_update_bind ?_
  by_cases hd : signal.state = .disconnected
  · rw [hd]
    refine satAt_read_bind ?_
    rw [if_neg (by simp [h'.connecting])]
    refine satAt_read_bind (satAt_read_bind ?_)
    have hstop' : (s.setProtocolError signal.error).stoppingAfterFailure := hstop
    rw [if_pos (by simp [hstop'])]
    exact ⟨h',hstop⟩
  · have hstate : signal.state = .disconnecting ∨ signal.state = .error := by
      rcases hsignal with hs | hs | hs
      · exact .inl hs
      · exact absurd hs hd
      · exact .inr hs
    exact (setConnectionState_timedOut (fun _ _ h => h) h' hstate).mono
      fun _ _ hu => ⟨hu.1,hu.2.2.trans hstop⟩

omit hR in
lemma emits_timedOut {signals : List Signal} (h : TimedOut errors s)
    (hstop : s.stoppingAfterFailure)
    (hsignals : ∀ signal ∈ signals, signal.Ends) (ht : Emits signals s t) : TimedOut errors t := by
  induction signals generalizing s with
  | nil => exact ht ▸ h
  | cons signal signals ih =>
    obtain ⟨u,hu,ht⟩ := ht
    obtain ⟨hu,hstop⟩ := signal_timedOut h hstop (hsignals signal List.mem_cons_self) hu
    exact ih hu hstop (fun signal hm => hsignals signal (List.mem_cons_of_mem _ hm)) ht

omit hR in
lemma timedOut_failure
    (hstate : s.connectionState = .connecting ∨ s.connectionState = .reconnecting) :
    TimedOut (protocolErrors s.emitted)
      ((s.markLastError .vpnHandshakeTimeout).setConnectionHealth .handshakeTimeout) := by
  have hconnecting : s.connectionState ≠ .connected := by
    rcases hstate with hs | hs <;> simp [hs]
  have hpublish : (s.markLastError .vpnHandshakeTimeout).shouldPublishConnectionHealth
      .handshakeTimeout := by
    rcases hstate with hs | hs <;> simp [shouldPublishConnectionHealth,markLastError,hs]
  rw [setConnectionHealth,hpublish,Bool.true_and]
  split
  · exact ⟨hconnecting,rfl,rfl,rfl⟩
  · rename_i hsame
    exact ⟨hconnecting,rfl,by simpa using hsame,rfl⟩

omit hR in
lemma stopAfterFailure_timedOut {signals : List Signal} (h : TimedOut errors s)
    (hsignals : ∀ signal ∈ signals, signal.Ends) :
    stopAfterFailure.EndsAt (passes signals) (TimedOut errors) s := by
  refine satAt_read_bind ?_
  split
  · rename_i hp
    have h' : TimedOut errors (s.setStoppingAfterFailure true) := { h with }
    have hp' : (s.setStoppingAfterFailure true).vpnProtocol.isSome := hp
    exact satAt_update_bind ((stopProtocol_emits hp').mono fun _ t ht =>
      emits_timedOut h' rfl hsignals ht)
  · exact h

/-- What a handshake timeout reports: the state, the error, the health and one signal. -/
structure TimeoutReported (s t : Connection) : Prop where
  state : t.connectionState = .error
  lastError : t.lastError = .vpnHandshakeTimeout
  health : t.connectionHealth = .handshakeTimeout
  errors : protocolErrors t.emitted = .vpnHandshakeTimeout::protocolErrors s.emitted

omit hR in
lemma onConnectingTimedOut_reported {signals : List Signal}
    (hstate : s.connectionState = .connecting ∨ s.connectionState = .reconnecting)
    (hsignals : ∀ signal ∈ signals, signal.Ends) :
    onConnectingTimedOut.EndsAt (passes signals) (TimeoutReported s) s := by
  refine satAt_read_bind ?_
  rw [if_neg (by rcases hstate with hs | hs <;> simp [hs]),
    if_pos (by rcases hstate with hs | hs <;> simp [hs])]
  refine satAt_update_bind ?_
  refine (stopAfterFailure_timedOut (timedOut_failure hstate) hsignals).bind fun _ t ht => ?_
  refine (setConnectionState_timedOut (passes_service signals) ht (.inr rfl)).bind ?_
  rintro - u ⟨hu,hstate,-⟩
  refine satAt_update_bind (satAt_update ?_)
  exact ⟨hstate,hu.lastError,hu.health,congrArg (_::·) hu.errors⟩

omit hR in
lemma exists_passes (signals : List Signal) (w : Wait) (s : Connection) :
    ∃ t, passes signals w s t := by
  cases w with
  | stop => exact exists_emits signals s
  | _ => exact ⟨s,rfl⟩

end

/-- A handshake that times out while connecting or reconnecting is reported as such and
exactly once, whatever `stop()` signals on the way out. -/
theorem handshake_timeout_reported (s : Connection) (signals : List Signal)
    (hstate : s.connectionState = .connecting ∨ s.connectionState = .reconnecting)
    (hsignals : ∀ signal ∈ signals, signal.state = .disconnecting ∨
      signal.state = .disconnected ∨ signal.state = .error) :
    (∃ t, Returns (passes signals) (onConnectingTimedOut s) () t) ∧
    ∀ t, Returns (passes signals) (onConnectingTimedOut s) () t → TimeoutReported s t := by
  constructor
  · obtain ⟨_,t,ht⟩ := exists_returns (exists_passes signals) (onConnectingTimedOut s)
    exact ⟨t,ht⟩
  · intro t ht
    exact ht.of_sat (Q := fun _ t => TimeoutReported s t)
      (onConnectingTimedOut_reported hstate hsignals)

/-- The settings of an application whose default server runs Xray. -/
def xraySettings : Settings := {awgSettings with defaultContainer := .xray}

/-- A connection attempt that waits for its handshake. -/
def attempt (container : DockerContainer) : List (Input Event Answer) :=
  [.dispatch (.connectToVpn "server" container),success,success,success,success,success]

theorem attempt_timeout_reported :
    (run step (start (some xraySettings)) (attempt .xray)).state.connectionState = .connecting ∧
    (run step (start (some xraySettings)) (attempt .xray)).stack.length = 0 ∧
    ∃ t, Returns (passes [⟨.disconnecting,.noError⟩,⟨.disconnected,.noError⟩,
        ⟨.error,.internalError⟩])
        (onConnectingTimedOut (run step (start (some xraySettings)) (attempt .xray)).state) () t ∧
      TimeoutReported (run step (start (some xraySettings)) (attempt .xray)).state t := by
  have hstate : (run step (start (some xraySettings)) (attempt .xray)).state.connectionState =
      .connecting := by decide
  obtain ⟨⟨t,ht⟩,hreported⟩ := handshake_timeout_reported _
    [⟨.disconnecting,.noError⟩,⟨.disconnected,.noError⟩,⟨.error,.internalError⟩] (.inl hstate)
    (by simp)
  exact ⟨hstate,by decide,t,ht,hreported t ht⟩

section

/-- What happens after a connection has ended: the service answers the slot that cleans
up, the reply to its `configureDnsSplitTunnel` arrives, or something else has run and left
the connection in another state. -/
inductive CleanupInput
  | answer (answer : Answer)
  | reply (success : Bool)
  | other (s : Connection)

def cleanupStep (c : Machine) : CleanupInput → Machine
  | .answer a => step c (.answer a)
  | .reply success => step c (.dispatch (.dnsSplitTunnelConfigured success))
  | .other s => {c with state := s}

/-- The cleanup of `onConnectionStateChanged`, called for the event `e`. -/
def cleanup (e : Event) (state : ConnectionState) (s : Connection) : Machine :=
  proceed e [] (legacyRouting state s)

/-- The reply has nothing new to publish. -/
def HarmlessReply (success : Bool) (s : Connection) : Prop :=
  success ∨ s.connectionHealth = .dnsFailed ∨
    s.connectionState = .disconnected ∧ s.lastError = .noError

/-- The slot finds the connection still over, and a reply has nothing new to publish. -/
def Harmless (c : Machine) : CleanupInput → Prop
  | .answer _ => c.state.Ended
  | .reply success => HarmlessReply success c.state
  | .other _ => True

instance (s : Connection) : Decidable s.Ended := inferInstanceAs (Decidable (_ ∨ _))

instance (success : Bool) (s : Connection) : Decidable (HarmlessReply success s) :=
  inferInstanceAs (Decidable (_ ∨ _))

instance (c : Machine) : (i : CleanupInput) → Decidable (Harmless c i)
  | .answer _ => inferInstanceAs (Decidable c.state.Ended)
  | .reply success => inferInstanceAs (Decidable (HarmlessReply success c.state))
  | .other _ => isTrue trivial

lemma reply_keeps_iff (success : Bool) (s : Connection) :
    (if success then s else s.setConnectionHealth .dnsFailed).connectionHealth =
      s.connectionHealth ↔ HarmlessReply success s := by
  cases success with
  | true => simp [HarmlessReply]
  | false =>
    have hpublish : s.shouldPublishConnectionHealth .dnsFailed = false ↔
        s.connectionState = .disconnected ∧ s.lastError = .noError := by
      rw [shouldPublishConnectionHealth]
      split
      · rename_i hs
        simp [hs,connectionHealthProblem]
      · rename_i hs
        simp [hs,connectionHealthProblem]
      · rename_i hs _
        simpa using fun h => absurd h hs
    rw [HarmlessReply,← hpublish]
    simp only [Bool.false_eq_true,if_false,false_or]
    rw [setConnectionHealth]
    split
    · rename_i h
      simp only [Bool.and_eq_true,bne_iff_ne] at h
      simp [publish,h.1,h.2,h.2.symm]
    · rename_i h
      simp only [Bool.and_eq_true,bne_iff_ne,not_and_or,Bool.not_eq_true,not_not] at h
      simpa [or_comm] using h

lemma reply_step (c : Machine) (success : Bool) : cleanupStep c (.reply success) =
      {c with state := if success then c.state else c.state.setConnectionHealth .dnsFailed} := by
  cases success with
  | true => rfl
  | false => rfl

/-- The slot on the stack still leaves alone what it finds over. -/
abbrev Cleaning (state : ConnectionState) (c : Machine) : Prop :=
  Stacked serviceWait (Unchanged state) c.stack

variable {state : ConnectionState}

lemma cleanupStep_cleaning {c : Machine} (h : Cleaning state c) (i : CleanupInput) :
    Cleaning state (cleanupStep c i) := by
  cases i with
  | answer a => exact (answer_stacked handle h a).2
  | reply success =>
    rw [reply_step]
    exact h
  | other s => exact h

/-- A step of the cleanup itself leaves the published health. -/
def KeepsHealth (c : Machine) (i : CleanupInput) : Prop :=
  (∃ s, i = .other s) ∨ (cleanupStep c i).state.connectionHealth = c.state.connectionHealth

lemma harmless_keepsHealth {c : Machine} (h : Cleaning state c) {i : CleanupInput}
    (hi : Harmless c i) : KeepsHealth c i := by
  cases i with
  | answer a =>
    have hsame := (answer_stacked handle h a).1 (.inr hi)
    exact .inr (congrArg connectionHealth hsame)
  | reply success =>
    refine .inr ?_
    rw [reply_step]
    exact (reply_keeps_iff success c.state).mpr hi
  | other s => exact .inl ⟨s,rfl⟩

lemma enterState_ended {s : Connection} (hs : s.connectionState = state)
    (hstate : state = .error ∨ state = .disconnected) : (s.enterState state).Ended := by
  have hentered := (entered_enterState s state).connectionState.trans hs
  rcases hstate with rfl | rfl
  · exact .inr hentered
  · exact .inl hentered

lemma enterState_error_health {s : Connection} (hp : connectionHealthProblem s.connectionHealth) :
    (s.enterState .error).connectionHealth = s.connectionHealth := by
  have hp' : connectionHealthProblem s.stopTimers.connectionHealth := hp
  rw [enterState,reportFailure,if_pos hp']
  rfl

/-- The cleanup of a connection that has ended never changes the published health, if its
slot finds the connection still over and the reply of the DNS split tunnel, whenever it
arrives, has nothing new to publish. A failure that was published before an `Error` is
still there when its cleanup begins. -/
theorem cleanup_keeps_health (e : Event) (s : Connection) (state : ConnectionState)
    (hstate : state = .error ∨ state = .disconnected) (hs : s.connectionState = state)
    (inputs : List CleanupInput)
    (h : Guarded cleanupStep Harmless (cleanup e state (s.enterState state)) inputs) :
    (state = .error → connectionHealthProblem s.connectionHealth →
      (s.enterState state).connectionHealth = s.connectionHealth) ∧
    (cleanup e state (s.enterState state)).state.connectionHealth =
      (s.enterState state).connectionHealth ∧
    Guarded cleanupStep KeepsHealth (cleanup e state (s.enterState state)) inputs := by
  obtain ⟨hunchanged,hcleaning⟩ : Unchanged state (s.enterState state)
      (cleanup e state (s.enterState state)).state ∧
      Cleaning state (cleanup e state (s.enterState state)) :=
    proceed_stacked (legacyRouting_unchanged (.inr hstate) (s.enterState state)) (by simp [Stacked])
  refine ⟨?_,?_,?_⟩
  · rintro rfl hp
    exact enterState_error_health hp
  · exact congrArg connectionHealth (hunchanged (.inr (enterState_ended hs hstate)))
  · intro pre i hpre
    have hrun : Cleaning state (run cleanupStep (cleanup e state (s.enterState state)) pre) :=
      run_invariant_of_step (P := Cleaning state) (fun _ i hc => cleanupStep_cleaning hc i)
        hcleaning pre
    exact harmless_keepsHealth hrun (h pre i hpre)

/-- A connection that has just timed out, and the cleanup of its `Error`. -/
def timedOut : Connection :=
  {initial (some xraySettings) with
    connectionState := .error,connectionHealth := .handshakeTimeout,
    lastError := .vpnHandshakeTimeout}

def calmCleanup : List CleanupInput :=
  [.answer ⟨true,.noError⟩,.reply true,.answer ⟨true,.noError⟩,
    .other (timedOut.markLastError .internalError),.reply true]

theorem calm_cleanup_keeps_health :
    Guarded cleanupStep Harmless (cleanup .connectingTimer .error (timedOut.enterState .error))
      calmCleanup ∧
    (timedOut.enterState .error).connectionHealth = .handshakeTimeout ∧
    Guarded cleanupStep KeepsHealth (cleanup .connectingTimer .error (timedOut.enterState .error))
      calmCleanup := by
  have hcalm : Guarded cleanupStep Harmless
      (cleanup .connectingTimer .error (timedOut.enterState .error)) calmCleanup := by
    decide
  obtain ⟨hhealth,-,hkeeps⟩ :=
    cleanup_keeps_health .connectingTimer timedOut .error (.inl rfl) rfl calmCleanup hcalm
  exact ⟨hcalm,hhealth rfl rfl,hkeeps⟩

/-- The handshake of an Xray connection times out, its object is stopped, and the service
is told to take the DNS split tunnel back. -/
def handshakeTimeout : List (Input Event Answer) :=
  attempt .xray++[.dispatch .connectingTimer,success,success,success]

/-- The service does not manage to, and that is what the failure looks like from then on. -/
theorem failed_reply_replaces_timeout :
    (run step (start (some xraySettings)) handshakeTimeout).stack.length = 0 ∧
    (run step (start (some xraySettings)) handshakeTimeout).state.connectionState = .error ∧
    (run step (start (some xraySettings)) handshakeTimeout).state.connectionHealth =
      .handshakeTimeout ∧
    (run step (start (some xraySettings))
      (handshakeTimeout++[.dispatch (.dnsSplitTunnelConfigured false)])).state.connectionState =
      .error ∧
    (run step (start (some xraySettings))
      (handshakeTimeout++[.dispatch (.dnsSplitTunnelConfigured false)])).state.connectionHealth =
      .dnsFailed := by decide

end

end AlzheimerVPN.Lifecycle
