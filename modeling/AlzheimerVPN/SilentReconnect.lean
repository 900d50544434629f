import AlzheimerVPN.ManualDisconnect

/-! What becomes of a silent reconnect whose new protocol object fails with an error that
could be retried. The object may return it from `start()` or signal it, and each signal is
handled by itself. -/
namespace AlzheimerVPN.Lifecycle

open Reentrancy Runs Connection

/-- The ways in which a new WireGuard, AmneziaWG or Xray object fails: `start()` returns an
error, the WireGuard backend reports one, its controller is gone, or Xray stops itself and
sets an error. -/
inductive Failure
  | start (error : ErrorCode)
  | backendFailure
  | disconnected
  | stopped (error : ErrorCode)
  deriving DecidableEq, Repr

/-- What the object signals, in its order: `setLastError` changes the state before
`protocolError` is emitted, and Xray's `stop()` comes before its `setLastError`. -/
def Failure.signals : Failure → List Event
  | .start _ => []
  | .backendFailure =>
    [.protocolStateChanged .error .vpnBackendFailure,.protocolError .vpnBackendFailure]
  | .disconnected => [.protocolStateChanged .disconnected .noError]
  | .stopped error =>
    [.protocolStateChanged .disconnected .noError,.protocolStateChanged .error error]

/-- A failure with an error of its own can be retried if that error can. -/
def Failure.recoverable : Failure → Bool
  | .start error | .stopped error => recoverableProtocolError error
  | .backendFailure | .disconnected => true

namespace Connection

/-- A silent reconnect with attempts left, whose new object is connected. -/
structure Replacing (s : Connection) : Prop where
  silent : s.silentReconnectInProgress
  connected : s.connectionState = .connected
  attempts : s.connectedRecoveryAttempts < kMaxConnectedRecoveryAttempts
  protocol : s.vpnProtocol.any (fun p => p.stateSignals && p.errorSignals)

/-- What `handleSilentReconnectFailure` leaves once the failed object is stopped. -/
def failed (s : Connection) : Connection :=
  (s.stopConnectingWatchdog.setSilentReconnect false).disconnectSignals.setStoppingAfterFailure false

/-- How often `Error` has been reported. -/
def errorReports (s : Connection) : ℕ := s.emitted.count (.connectionStateChanged .error)

end Connection

open Connection

section

variable {s : Connection}

lemma canRecover_failure (s : Connection) (health : ConnectionHealth) (error : ErrorCode) :
    ((s.markLastError error).setConnectionHealth health).canRecover = s.canRecover := by
  rw [setConnectionHealth]
  split
  · rfl
  · rfl

lemma attempts_failure (s : Connection) (health : ConnectionHealth) (error : ErrorCode) :
    ((s.markLastError error).setConnectionHealth health).connectedRecoveryAttempts =
      s.connectedRecoveryAttempts := by
  rw [setConnectionHealth]
  split
  · rfl
  · rfl

lemma errorReports_failure (s : Connection) (health : ConnectionHealth) (error : ErrorCode) :
    ((s.markLastError error).setConnectionHealth health).errorReports = s.errorReports := by
  rw [setConnectionHealth]
  split
  · exact List.count_cons_of_ne (by simp)
  · rfl

/-- The tunnel stays connected, and its recovery is under way or put off. -/
structure Scheduled (s t : Connection) : Prop where
  connected : t.connectionState = .connected
  protocol : t.vpnProtocol = s.vpnProtocol
  reports : t.errorReports = s.errorReports
  scheduled : t.connectedRecoveryTimer ∨ t.pendingNetworkAction ≠ .none

lemma scheduleRecovery_scheduled (hs : s.canRecover)
    (ha : s.connectedRecoveryAttempts < kMaxConnectedRecoveryAttempts) :
    s.scheduleRecovery.1 ∧ Scheduled s s.scheduleRecovery.2 := by
  have hc : s.connectionState = .connected := by
    simp only [canRecover,Bool.and_eq_true,beq_iff_eq] at hs
    exact hs.1.1.1
  rw [scheduleRecovery,if_neg (by simp [hs])]
  split
  · rename_i hscheduled
    exact ⟨rfl,⟨hc,rfl,rfl,by simpa using hscheduled⟩⟩
  · rw [if_neg (Nat.not_le_of_lt ha)]
    have hsimp : Scheduled s s.startRecovery := by
      constructor <;> simp [startRecovery,setRecoveryAttempts,
        setRecoveryAttempted,stopConnectedHealthCheck,
        stopConnectivityProbe,startConnectedRecovery,
        errorReports,hc]
    exact ⟨rfl,hsimp⟩

lemma recoverConnectedTunnel_scheduled (hs : s.canRecover)
    (ha : s.connectedRecoveryAttempts < kMaxConnectedRecoveryAttempts) (health : ConnectionHealth)
    (error : ErrorCode) :
    (s.recoverConnectedTunnel health error).1 ∧
      Scheduled s (s.recoverConnectedTunnel health error).2 := by
  have h := scheduleRecovery_scheduled ((canRecover_failure s health error).trans hs)
    ((attempts_failure s health error).trans_lt ha)
  have hsame := same_setConnectionHealth (s.markLastError error) health
  exact ⟨h.1,⟨h.2.connected,h.2.protocol.trans hsame.vpnProtocol,
    h.2.reports.trans (errorReports_failure s health error),h.2.scheduled⟩⟩

lemma recoverConnectedTunnel_refused (hs : s.canRecover = false) (health : ConnectionHealth)
    (error : ErrorCode) : (s.recoverConnectedTunnel health error).1 = false := by
  have h := (canRecover_failure s health error).trans hs
  rw [recoverConnectedTunnel,scheduleRecovery,if_pos (by simp [h])]

end

section

variable {R : Wait → Connection → Connection → Prop} (hR : ∀ s t, R .service s t → t = s)
  {state : ConnectionState} (hne : state ≠ .disconnected)

lemma Entered.emit {s t : Connection} (h : Entered s state t) (emission : Emission) :
    Entered s state (t.emit emission) :=
  { h with }

include hR hne

/-- A state other than `Disconnected` is always entered. -/
lemma changeState_entered (s : Connection) : (changeState state).EndsAt R
      (fun t => Entered ((s.admitState state).setState state) state t) s := by
  refine (changeState_outcome hR s state).mono fun _ t ht => ?_
  rcases ht with ⟨hignored,-⟩ | ⟨-,u,hu,rfl⟩
  · exact absurd hignored.1 hne
  · rw [leaveState,if_neg (by simp [hne])]
    exact ((entered_enterState _ state).same hu).emit _

lemma setConnectionState_entered (s : Connection) : (setConnectionState state).EndsAt R
      (fun t => Entered ((s.admitState state).setState state) state t) s := by
  refine satAt_read_bind ?_
  rw [if_neg (by simp [hne])]
  exact changeState_entered hR hne s

end

section

variable {s t : Connection}

lemma quiet_service (s t : Connection) (h : quiet .service s t) : t = s := h

lemma stopAfterFailure_quiet (hs : s.vpnProtocol.isSome) :
    stopAfterFailure.EndsAt quiet (fun t => t = s.setStoppingAfterFailure true) s := by
  have hs' : (s.setStoppingAfterFailure true).vpnProtocol.isSome := hs
  refine satAt_read_bind ?_
  rw [if_pos hs]
  refine satAt_update_bind (satAt_update_bind ?_)
  rw [dereference_present hs']
  exact ⟨trivial,fun _ t _ ht => ht⟩

/-- What a failed silent reconnect comes to. -/
structure Outcome (s : Connection) (health : ConnectionHealth) (error : ErrorCode)
    (result : Bool) (t : Connection) : Prop where
  result_eq : result = (s.failed.recoverConnectedTunnel health error).1
  recovered : result → t = (s.failed.recoverConnectedTunnel health error).2
  refused : result = false → t.connectionState = .error

lemma handleSilentReconnectFailure_quiet (hs : s.vpnProtocol.isSome)
    (health : ConnectionHealth) (error : ErrorCode) :
    (handleSilentReconnectFailure health error).SatAt (fun _ => True) quiet
      (Outcome s health error) s := by
  have hp : (s.stopConnectingWatchdog.setSilentReconnect false).disconnectSignals.vpnProtocol.isSome =
      true := by
    simpa [disconnectSignals,setProtocol,setSilentReconnect,stopConnectingWatchdog] using hs
  refine satAt_update_bind (satAt_update_bind (satAt_read_bind ?_))
  refine (stopAfterFailure_quiet hp).bind fun _ t ht => ?_
  subst ht
  rw [hp]
  refine satAt_update_bind (satAt_read_bind (satAt_update_bind ?_))
  split
  · rename_i hr
    exact ⟨hr.symm,fun _ => rfl,fun h => by cases h⟩
  · rename_i hr
    refine (changeState_entered quiet_service (by simp) _).bind fun _ u hu => satAt_update_bind ?_
    exact ⟨(Bool.eq_false_iff.mpr hr).symm,fun h => (by cases h),fun _ => hu.connectionState⟩

lemma Outcome.error {health : ConnectionHealth} {error : ErrorCode} {result : Bool}
    (h : Outcome s health error result t) (hs : s.failed.canRecover = false) :
    t.connectionState = .error :=
  h.refused (h.result_eq.trans (recoverConnectedTunnel_refused hs health error))

lemma Outcome.scheduled {health : ConnectionHealth} {error : ErrorCode} {result : Bool}
    (h : Outcome s health error result t) (hs : s.failed.canRecover)
    (ha : s.connectedRecoveryAttempts < kMaxConnectedRecoveryAttempts) : Scheduled s.failed t := by
  obtain ⟨hrecovers,hscheduled⟩ := recoverConnectedTunnel_scheduled hs ha health error
  rw [h.recovered (h.result_eq.trans hrecovers)]
  exact hscheduled

end

section

variable {s t : Connection}

/-- The signals of the object are handled one after the other, with nothing else dispatched
meanwhile. A signal that is no longer connected is lost. -/
def Delivered : List Event → Connection → Connection → Prop
  | [],s,t => t = s
  | e::signals,s,u => ∃ t, Returns quiet (handle [] e s) () t ∧ Delivered signals t u

/-- The connection `s` with the new object handles its failure and is `t` afterwards: the
slot goes on with what `start()` returned, or the signals are delivered. -/
def Handled (s : Connection) : Failure → Connection → Prop
  | .start error,t => ∃ before atStart resume answer,
      factorySupports before.currentContainer ∧
      replaceProtocol before = .wait .start atStart resume ∧ answer.error = error ∧
      s.vpnProtocol.any (·.id == before.created) ∧
      Returns quiet (resume answer s) () t
  | failure,t => Delivered failure.signals s t

/-- The failure is retried: `Error` is neither reached nor reported, and the recovery
timer is running or a network action is pending. -/
structure Retried (s t : Connection) : Prop where
  state : t.connectionState ≠ .error
  reports : t.errorReports = s.errorReports
  scheduled : t.connectedRecoveryTimer ∨ t.pendingNetworkAction ≠ .none

lemma Scheduled.retried (h : Scheduled s.failed t) : Retried s t :=
  ⟨by simp [h.connected],h.reports,h.scheduled⟩

lemma Connection.Replacing.object (hs : s.Replacing) :
    ∃ p, s.vpnProtocol = some p ∧ p.stateSignals ∧ p.errorSignals := by
  have h := hs.protocol
  cases hp : s.vpnProtocol with
  | none => simp [hp] at h
  | some p => exact ⟨p,rfl,by simpa [hp] using h⟩

lemma canRecover_failed (hs : s.Replacing) :
    s.failed.canRecover = !s.currentServerId.isEmpty := by
  obtain ⟨p,hp,-⟩ := hs.object
  simp [canRecover,failed,disconnectSignals,
    setProtocol,setSilentReconnect,setStoppingAfterFailure,
    stopConnectingWatchdog,hs.connected,hp]

lemma Connection.Replacing.signalled (hs : s.Replacing) (error : ErrorCode) :
    (s.setProtocolError error).Replacing := by
  obtain ⟨p,hp,hstate,herror⟩ := hs.object
  refine ⟨hs.silent,hs.connected,hs.attempts,?_⟩
  simp [setProtocolError,setProtocol,hp,hstate,herror]

lemma Connection.Replacing.isSome (hs : s.Replacing) : s.vpnProtocol.isSome := by
  obtain ⟨p,hp,-⟩ := hs.object
  simp [hp]

/-- A failed silent reconnect is retried unless no server is known. -/
lemma Outcome.retried_iff {health : ConnectionHealth} {error : ErrorCode} {result : Bool}
    (hs : s.Replacing) (h : Outcome s health error result t) :
    Retried s t ↔ s.currentServerId ≠ "" := by
  have hcan := canRecover_failed hs
  constructor
  · intro hr hid
    exact hr.state (h.error (by simp [hcan,hid]))
  · intro hid
    exact (h.scheduled (by simp [hcan,hid]) hs.attempts).retried

section

variable {connected : Protocol → Bool} {slot : Slot Unit} {Q : Unit → Connection → Prop}

lemma fromProtocol_quiet (hslot : s.vpnProtocol.any connected →
      slot.SatAt (fun _ => True) quiet Q s) (hlost : s.vpnProtocol.any connected = false → Q () s) :
    (fromProtocol connected [] slot).SatAt (fun _ => True) quiet Q s := by
  refine satAt_read_bind ?_
  cases hany : s.vpnProtocol.any connected with
  | false => exact hlost hany
  | true => exact hslot hany

lemma setConnectionState_error (s : Connection) :
    (setConnectionState .error).EndsAt quiet (fun t => t.connectionState = .error) s :=
  (setConnectionState_entered quiet_service (by simp) s).mono fun _ _ ht => ht.connectionState

/-- The state signal of an error leads to `Error` if it is still connected. -/
lemma errorState_quiet (error : ErrorCode)
    (hs : s.vpnProtocol.any Protocol.stateSignals ∨ s.connectionState = .error) :
    (handle [] (.protocolStateChanged .error error)).EndsAt quiet
      (fun t => t.connectionState = .error) s := by
  refine fromProtocol_quiet (fun _ => ?_) fun hlost => ?_
  · exact satAt_update_bind (setConnectionState_error _)
  · exact hs.resolve_left (by simp [hlost])

/-- Nothing leads out of `Error` again, the error signal that comes second in particular. -/
lemma protocolError_quiet (error : ErrorCode) (hs : s.connectionState = .error) :
    (handle [] (.protocolError error)).EndsAt quiet (fun t => t.connectionState = .error) s := by
  refine fromProtocol_quiet (fun hconnected => satAt_read_bind ?_) fun _ => hs
  have hsome : s.vpnProtocol.isSome := by
    cases hp : s.vpnProtocol with
    | none => simp [hp] at hconnected
    | some p => rfl
  split
  · refine (handleSilentReconnectFailure_quiet hsome _ error).bind fun _ t ht => ?_
    exact ht.error (by simp [canRecover,failed,disconnectSignals,
      setProtocol,setSilentReconnect,setStoppingAfterFailure,
      stopConnectingWatchdog,hs])
  · refine satAt_update_bind ?_
    have hhealth : (when (error == .amneziaServiceConnectionFailed || error == .vpnBackendFailure)
        (update (·.setConnectionHealth .localServiceUnavailable)) : Slot Unit).EndsAt quiet
          (fun t => t.connectionState = .error) (s.markLastError error) := by
      rw [when]
      split
      · exact (same_setConnectionHealth _ _).connectionState.trans hs
      · exact hs
    refine hhealth.bind fun _ t ht => satAt_read_bind ?_
    rw [ht,when,if_pos (by decide)]
    refine Handler.SatAt.bind (satAt_update_bind (setConnectionState_error _)) fun _ u hu => ?_
    exact satAt_update hu

/-- A `Disconnected` of the new object ends the silent reconnect. -/
lemma disconnected_quiet (error : ErrorCode) (hs : s.Replacing) :
    (handle [] (.protocolStateChanged .disconnected error)).EndsAt quiet (fun t => ∃ result,
      Outcome (s.setProtocolError error) .localServiceUnavailable .amneziaServiceConnectionFailed
      result t) s := by
  have hs' := hs.signalled error
  obtain ⟨p,hp,hstate,-⟩ := hs.object
  refine fromProtocol_quiet (fun _ => ?_) fun hlost => by simp [hp,hstate] at hlost
  refine satAt_update_bind (satAt_read_bind ?_)
  rw [if_pos (by simp [hs'.silent,hs'.connected])]
  exact (handleSilentReconnectFailure_quiet hs'.isSome _ _).bind fun result t ht => ⟨result,ht⟩

end

/-- What the slot that called `start()` does with an error that can be retried. -/
lemma resume_start {before atStart : Connection} {resume : Answer → Connection → Res Connection
  Wait Answer Unit}
    {answer : Answer} (hc : factorySupports before.currentContainer)
    (h : replaceProtocol before = .wait .start atStart resume)
    (hcurrent : s.vpnProtocol.any (·.id == before.created))
    (hr : recoverableProtocolError answer.error) :
    resume answer s = discard (handleSilentReconnectFailure
      (connectionHealthForError answer.error) answer.error) s := by
  have hne : answer.error ≠ .noError := by
    intro he
    simp [he,recoverableProtocolError] at hr
  simp only [replaceProtocol,bind_apply,read_apply,done_bind,hc,if_true,createProtocol,
    update_apply,pure_apply,startProtocol,waitFor,Res.bind] at h
  injection h with _ _ hresume
  subst hresume
  simp [isCurrent,hcurrent,hne,hr]

lemma start_retried_iff {error : ErrorCode} (hs : s.Replacing)
    (hr : recoverableProtocolError error) (h : Handled s (.start error) t) :
    Retried s t ↔ s.currentServerId ≠ "" := by
  obtain ⟨before,atStart,resume,answer,hc,hstart,rfl,hcurrent,hreturns⟩ := h
  rw [resume_start hc hstart hcurrent hr] at hreturns
  have hsat : (discard (handleSilentReconnectFailure (connectionHealthForError answer.error)
      answer.error)).EndsAt quiet (fun t => Retried s t ↔ s.currentServerId ≠ "")
      s := by
    refine (handleSilentReconnectFailure_quiet hs.isSome _ _).bind fun result t ht => ?_
    exact ht.retried_iff hs
  exact hreturns.of_sat hsat

lemma disconnected_retried_iff {error : ErrorCode} (hs : s.Replacing)
    (h : Returns quiet (handle [] (.protocolStateChanged .disconnected error) s) () t) :
    Retried s t ↔ s.currentServerId ≠ "" := by
  obtain ⟨result,hresult⟩ := h.of_sat (disconnected_quiet error hs)
  have hretried := hresult.retried_iff (hs.signalled error)
  constructor
  · intro h
    exact hretried.mp { h with }
  · intro hid
    have h := hretried.mpr hid
    exact { h with }

/-- The `Disconnected` of `stop()` comes first; the error state is lost, or changes nothing
any more. -/
lemma stopped_retried_iff {error : ErrorCode} (hs : s.Replacing)
    (h : Handled s (.stopped error) t) : Retried s t ↔ s.currentServerId ≠ "" := by
  obtain ⟨u,hu,v,hv,rfl⟩ := h
  obtain ⟨result,hresult⟩ := hu.of_sat (disconnected_quiet .noError hs)
  have hs' := hs.signalled .noError
  have hcan : (s.setProtocolError .noError).failed.canRecover = !s.currentServerId.isEmpty :=
    canRecover_failed hs'
  by_cases hid : s.currentServerId = ""
  · have herror := hresult.error (hcan.trans (by simpa using hid))
    have hagain := hv.of_sat (errorState_quiet error (.inr herror))
    exact ⟨fun hretried => absurd hagain hretried.state,fun hne => absurd hid hne⟩
  · have hscheduled := hresult.scheduled (hcan.trans (by simpa using hid)) hs'.attempts
    have hcut : u.vpnProtocol.any Protocol.stateSignals = false := by
      rw [hscheduled.protocol]
      simp [failed,disconnectSignals,setStoppingAfterFailure,setProtocol,Option.any_map]
    have hlost : t = u := hv.of_sat (Q := fun _ t => t = u)
      (fromProtocol_quiet (fun hany => by simp [hcut] at hany) fun _ => rfl)
    rw [hlost]
    have hretried := hscheduled.retried
    exact ⟨fun _ => hid,fun _ => { hretried with }⟩

/-- The first signal of a backend failure already leads to `Error`. -/
lemma backendFailure_not_retried (hs : s.Replacing) (h : Handled s .backendFailure t) :
    ¬Retried s t := by
  obtain ⟨u,hu,v,hv,rfl⟩ := h
  obtain ⟨p,hp,hstate,-⟩ := hs.object
  have herror := hu.of_sat (errorState_quiet .vpnBackendFailure (.inl (by simp [hp,hstate])))
  have hagain := hv.of_sat (protocolError_quiet .vpnBackendFailure herror)
  exact fun hretried => hretried.state hagain

lemma exists_delivered (signals : List Event) (s : Connection) : ∃ t, Delivered signals s t := by
  induction signals generalizing s with
  | nil => exact ⟨s,rfl⟩
  | cons e signals ih =>
    obtain ⟨_,t,ht⟩ := exists_returns exists_quiet (handle [] e s)
    obtain ⟨u,hu⟩ := ih t
    exact ⟨u,t,ht,hu⟩

lemma exists_handled (hs : s.Replacing) (failure : Failure) : ∃ t, Handled s failure t := by
  cases failure with
  | start error =>
    obtain ⟨p,hp,-⟩ := hs.object
    let before := {s with currentContainer := .xray,created := p.id}
    obtain ⟨atStart,resume,hstart⟩ : ∃ atStart resume,
        replaceProtocol before = .wait .start atStart resume := ⟨_,_,rfl⟩
    obtain ⟨_,t,ht⟩ := exists_returns exists_quiet (resume ⟨true,error⟩ s)
    exact ⟨t,before,atStart,resume,⟨true,error⟩,rfl,hstart,rfl,by simp [hp,before],ht⟩
  | backendFailure => exact exists_delivered _ s
  | disconnected => exact exists_delivered _ s
  | stopped error => exact exists_delivered _ s

end

/-- Every recoverable failure of the new object is handled, and it is retried exactly if
a server is known and it is not the WireGuard backend that fails. -/
theorem silent_failure_retried_iff {s : Connection} (hs : s.Replacing) (failure : Failure)
    (hf : failure.recoverable) :
    (∃ t, Handled s failure t) ∧ ∀ t, Handled s failure t →
      (Retried s t ↔ s.currentServerId ≠ "" ∧ failure ≠ .backendFailure) := by
  refine ⟨exists_handled hs failure,fun t h => ?_⟩
  cases failure with
  | start error => simpa using start_retried_iff hs hf h
  | backendFailure => simpa using backendFailure_not_retried hs h
  | disconnected =>
    obtain ⟨u,hu,rfl⟩ := h
    simpa using disconnected_retried_iff hs hu
  | stopped error => simpa using stopped_retried_iff hs h

/-- A connection that has come up and replaces its protocol object after a network change. -/
def replacing : List (Input Event Answer) :=
  connected++[.dispatch .networkChanged,success,success,success,success]

def replacement : Machine := run step (start (some awgSettings)) replacing

lemma replacement_replacing : replacement.state.Replacing :=
  ⟨by decide,by decide,by decide,by decide⟩

theorem disconnected_replacement_retried : replacement.state.Replacing ∧
    (∃ t, Handled replacement.state .disconnected t) ∧
      ∀ t, Handled replacement.state .disconnected t → (Retried replacement.state t ↔
        replacement.state.currentServerId ≠ "" ∧ Failure.disconnected ≠ .backendFailure) :=
  ⟨replacement_replacing,silent_failure_retried_iff replacement_replacing .disconnected rfl⟩

/-- The signals of a backend failure, and the end of the `stop()` that follows. -/
def backendFailed : Machine :=
  run step replacement (Failure.backendFailure.signals.map .dispatch++[success])

/-- The daemon reports a failure of the new object: `Error` is reported and nothing is left
that would try again. -/
theorem backend_failure_reported : replacement.state.Replacing ∧ replacement.stack.length = 0 ∧
    replacement.state.errorReports = 0 ∧ backendFailed.stack.length = 0 ∧
    backendFailed.state.connectionState = .error ∧ backendFailed.state.errorReports = 2 ∧
    backendFailed.state.connectedRecoveryTimer = false ∧
    backendFailed.state.pendingNetworkAction = .none :=
  ⟨replacement_replacing,by decide⟩

end AlzheimerVPN.Lifecycle
