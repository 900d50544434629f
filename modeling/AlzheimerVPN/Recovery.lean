import AlzheimerVPN.LifecycleSteps

/-! The automatic recovery of a connected tunnel. Every replacement of the protocol object
is paid for by an attempt, and attempts come back only by a user, by the network or by a
traffic probe that succeeds, whether or not the resolver still fails. -/
namespace AlzheimerVPN.Lifecycle

open Reentrancy Runs Connection

/-- The change spends no more than there was and asks for no reconnect. -/
def Thrifty (s t : Connection) : Prop :=
  t.budget ≤ s.budget ∧
    (s.pendingNetworkAction ≠ .requestReconnect → t.pendingNetworkAction ≠ .requestReconnect)

instance : Starting anyWait Thrifty where
  refl _ := ⟨le_rfl,id⟩
  trans _ _ _ h k := ⟨k.1.trans h.1,k.2 ∘ h.2⟩
  waits _ := trivial
  started s t h := by
    refine ⟨h.budget,fun hs => ?_⟩
    rcases h.pends with ht | ht
    · rwa [ht]
    · simp [ht]

namespace Connection

/-- At most `b` is spent with what has been scheduled, and no reconnect is asked for. -/
structure Saved (b : ℕ) (s : Connection) : Prop where
  budget : s.budget ≤ b
  pending : s.pendingNetworkAction ≠ .requestReconnect

end Connection

open Connection

section

variable {b B : ℕ} {s : Connection}

/-- What a slot needs of those that run while it waits. -/
abbrev spends (_ : Wait) (s t : Connection) : Prop := t.budget ≤ s.budget

lemma replaced_le_budget (s : Connection) : s.replaced ≤ s.budget := by
  rw [budget]
  omega

lemma thrifty_satAt {α : Type} {p : Slot α} (hp : p.StepsAt anyWait Thrifty s) (hb : b ≤ B)
    (hs : Saved b s) : p.SatAt (Saved B) spends (fun _ t => Saved b t) s := by
  refine hp.sat hs (fun _ h => ⟨h.budget.trans hb,h.pending⟩) ?_ ?_
  · intro _ t u _ ht hu htu
    exact ⟨htu.trans ht.budget,hu.pending⟩
  · intro t u ht htu
    exact ⟨htu.1.trans ht.budget,htu.2 ht.pending⟩

lemma budget_defer (action : PendingNetworkAction) (health : ConnectionHealth)
    (hh : health ≠ .healthy) :
    (s.defer action health).budget ≤
      s.replaced+(kMaxConnectedRecoveryAttempts-s.connectedRecoveryAttempts)+
        (action == .startSilentReconnect).toNat := by
  have h := (routine_setConnectionHealth (({s with
    pendingNetworkAction := action,pendingNetworkTimer := true,
    pendingNetworkDeadlineTimer := s.pendingNetworkDeadlineTimer ||
      action == PendingNetworkAction.startConnection} : Connection)
      |>.stopConnectingWatchdog |>.stopConnectedRecovery |>.stopConnectivityProbe) hh).budget
  exact h

lemma defer_pending (action : PendingNetworkAction) (health : ConnectionHealth) :
    (s.defer action health).pendingNetworkAction = action := by
  rw [defer,setConnectionHealth]
  split
  · rfl
  · rfl

/-- What has been taken off the schedule pays for the new object, or for waiting on. -/
lemma startSilentReconnect_satAt (hb : b+1 ≤ B) (hs : Saved b s) :
    startSilentReconnect.SatAt (Saved B) spends (fun _ t => Saved (b+1) t) s := by
  have hkept : ∀ {t : Connection}, Saved b t → Saved (b+1) t := fun h =>
    ⟨h.budget.trans (Nat.le_succ b),h.pending⟩
  have hready : ipc.SatAt (Saved B) spends (fun _ t => Saved b t) s :=
    thrifty_satAt (ipc_steps _) (Nat.le_of_succ_le hb) hs
  refine satAt_read_bind ?_
  split
  · exact hkept hs
  · refine Handler.SatAt.bind (P := fun deferred t => if deferred then Saved (b+1) t else Saved b t)
      ?_ fun deferred t ht => ?_
    · refine hready.bind fun ready t ht => ?_
      split
      · exact ht
      · refine satAt_update_bind ?_
        have hdefer := budget_defer (s := t) .startSilentReconnect .recovering (by simp)
        have hbudget := ht.budget
        rw [budget] at hbudget
        refine ⟨?_,by simp [defer_pending]⟩
        simp only [beq_self_eq_true,Bool.toNat_true] at hdefer
        omega
    · split
      · rename_i hd
        rw [if_pos hd] at ht
        exact ht
      · rename_i hd
        rw [if_neg hd] at ht
        have hstop : Thrifty t (t.stopPendingNetworkAction.stopConnectingWatchdog
            |>.stopConnectedRecovery |>.setSilentReconnect true) := by
          have h := trans_of Routine (routine_stopPendingNetworkAction t)
            (routine_stopConnectedRecovery _)
          exact Starting.started anyWait _ _ ⟨⟨⟨[],rfl,by simp⟩,id⟩,h.budget,.inr rfl⟩
        refine Handler.SatAt.bind (p := update _) (P := fun _ u => Saved b u)
          (satAt_update ⟨hstop.1.trans ht.budget,hstop.2 ht.pending⟩) fun _ u hu => ?_
        refine (thrifty_satAt (health_steps (by simp) _) (Nat.le_of_succ_le hb) hu).bind
          fun _ v hv => ?_
        refine (thrifty_satAt (steps_routine (fun s => routine_mapProtocol s _) _)
          (Nat.le_of_succ_le hb) hv).bind fun _ w hw => ?_
        refine (thrifty_satAt (stopProtocol_steps _) (Nat.le_of_succ_le hb) hw).bind fun _ x hx => ?_
        refine satAt_update_bind (thrifty_satAt (replaceProtocol_steps _) hb ⟨?_,hx.pending⟩)
        have hcount : x.countReplacement.budget = x.budget+1 := by
          simp only [budget,countReplacement]
          omega
        rw [hcount]
        exact Nat.succ_le_succ hx.budget

/-- A silent reconnect for which one attempt has been taken off the schedule. -/
lemma startSilentReconnect_paid (hpaid : s.budget+1 ≤ b) (hb : b ≤ B)
    (hpending : s.pendingNetworkAction ≠ .requestReconnect) :
    startSilentReconnect.SatAt (Saved B) spends (fun _ t => Saved b t) s := by
  refine (startSilentReconnect_satAt (hpaid.trans hb) ⟨le_rfl,hpending⟩).mono ?_
  intro _ t ht
  exact ⟨ht.budget.trans hpaid,ht.pending⟩

/-- A pending silent reconnect has been paid for when it was put off. -/
lemma resumePendingNetworkAction_satAt (hb : b ≤ B) (hs : Saved b s) :
    resumePendingNetworkAction.SatAt (Saved B) spends (fun _ t => Saved b t) s := by
  refine satAt_read_bind ?_
  split
  · refine (thrifty_satAt (ipc_steps _) hb hs).bind fun ready t ht => ?_
    split
    · refine satAt_read_bind (satAt_update_bind ?_)
      have hstop := routine_stopPendingNetworkAction t
      have hstopped : Saved b t.stopPendingNetworkAction :=
        ⟨hstop.budget.trans ht.budget,by simp [stopPendingNetworkAction]⟩
      cases hp : t.pendingNetworkAction with
      | none => exact hstopped
      | requestReconnect => exact absurd hp ht.pending
      | startConnection =>
        rw [resumeAction]
        split
        · exact thrifty_satAt (startConfiguredConnection_steps _) hb hstopped
        · exact hstopped
      | startSilentReconnect =>
        rw [resumeAction]
        split
        · have hpaid : t.stopPendingNetworkAction.budget+1 = t.budget := by
            have hn : (PendingNetworkAction.none == .startSilentReconnect) = false := rfl
            simp [budget,stopPendingNetworkAction,hp,hn]
          exact startSilentReconnect_paid (hpaid.trans_le ht.budget) hb hstopped.pending
        · exact hstopped
    · exact ht
  · exact hs

/-- The recovery timer has been paid for when it was started. -/
lemma connectedRecoveryTimer_satAt (waiting : List Event) (hb : b ≤ B) (hs : Saved b s) :
    (handle waiting .connectedRecoveryTimer).SatAt (Saved B) spends (fun _ t => Saved b t) s := by
  refine satAt_read_bind ?_
  split
  · rename_i htimer
    have hpaid : s.stopConnectedRecovery.budget+1 = s.budget := by
      simp only [budget,stopConnectedRecovery,htimer,Bool.toNat_false,Bool.toNat_true]
      omega
    have hpaid' : s.stopConnectedRecovery.budget+1 ≤ b := hpaid.trans_le hs.budget
    refine satAt_update_bind (satAt_read_bind ?_)
    split
    · exact startSilentReconnect_paid hpaid' hb hs.pending
    · exact ⟨Nat.le_of_succ_le hpaid',hs.pending⟩
  · exact hs

end

/-- The events that give the recovery new attempts: what the user does, what the network
does, and a probe that reaches its host through the connected tunnel. -/
def renews (s : Connection) : Event → Bool
  | .connectToVpn _ _ | .disconnectFromVpn | .networkChanged | .wakeup => true
  | .connectivityProbe true => s.connectivityProbe && s.connectionState == .connected
  | _ => false

/-- Nothing happens that would give the recovery new attempts. -/
def Unattended (s : Connection) (_ : List Event) (e : Event) : Prop := renews s e = false

instance (s : Connection) (waiting : List Event) (e : Event) : Decidable (Unattended s waiting e) :=
  inferInstanceAs (Decidable (renews s e = false))

section

variable {B : ℕ} {s : Connection} {waiting : List Event}

lemma thrifty_setConnectionHealth (s : Connection) (health : ConnectionHealth) :
    Thrifty s (s.setConnectionHealth health) := by
  rw [setConnectionHealth]
  split
  · exact ⟨le_rfl,id⟩
  · exact refl_of Thrifty s

lemma handle_judges_thrifty {e : Event} (hj : e.judges) (he : renews s e = false) :
    (handle waiting e).StepsAt anyWait Thrifty s := by
  cases e with
  | setConnectionDiagnostic health => exact thrifty_setConnectionHealth s health
  | dnsHealth resolved =>
    cases resolved with
    | false => cases hj
    | true =>
      have hsteps : (onDnsHealth true).Steps anyWait Thrifty := by
        refine steps_read.bind fun s => ?_
        split
        · rw [if_neg (by simp)]
          split
          · refine steps_update fun s => ?_
            have herror : Thrifty s (s.markLastError .noError) := ⟨le_rfl,id⟩
            exact trans_of Thrifty herror (thrifty_setConnectionHealth _ _)
          · exact steps_pure _
        · exact steps_pure _
      exact hsteps s
  | connectivityProbe success =>
    cases success with
    | false => cases hj
    | true =>
      cases hp : s.connectivityProbe with
      | false =>
        rw [Handler.StepsAt,handle_probe_absent waiting true hp]
        exact refl_of Thrifty s
      | true =>
        have hc : s.connectionState ≠ .connected := by simpa [renews,hp] using he
        rw [Handler.StepsAt,handle_probe_elsewhere waiting hp hc]
        exact ⟨le_rfl,id⟩
  | _ => cases hj

/-- Every slot spends what has been scheduled and no more. -/
lemma handle_saved {e : Event} (he : renews s e = false) (hs : Saved B s) :
    (handle waiting e).SatAt (Saved B) spends (fun _ t => Saved B t ∧ t.budget ≤ s.budget) s := by
  have hsaved : Saved s.budget s := ⟨le_rfl,hs.pending⟩
  have hmono : ∀ {p : Slot Unit}, p.SatAt (Saved B) spends (fun _ t => Saved s.budget t) s →
      p.SatAt (Saved B) spends (fun _ t => Saved B t ∧ t.budget ≤ s.budget) s := fun h =>
    h.mono fun _ t ht => ⟨⟨ht.budget.trans hs.budget,ht.pending⟩,ht.budget⟩
  have hsteps : ∀ {p : Slot Unit}, p.StepsAt anyWait Thrifty s →
      p.SatAt (Saved B) spends (fun _ t => Saved B t ∧ t.budget ≤ s.budget) s := fun h =>
    hmono (thrifty_satAt h hs.budget hsaved)
  have hresume := hmono (resumePendingNetworkAction_satAt hs.budget hsaved)
  cases hj : e.judges with
  | true => exact hsteps (handle_judges_thrifty hj he)
  | false =>
    cases hu : e.usesProtocol with
    | false => exact hsteps (handle_routine waiting e hu hj s)
    | true =>
      cases e with
      | connectToVpn serverId container => cases he
      | disconnectFromVpn => cases he
      | networkChanged => cases he
      | wakeup => cases he
      | siteRouteTimer =>
        exact hsteps (fromProtocol_steps _ waiting (onSiteRouteTimer_steps dereference_steps) s)
      | protocolStateChanged state error =>
        exact hsteps (fromProtocol_steps _ waiting
          (onProtocolStateChanged_steps (fun _ => dereference_steps) error) s)
      | physicalNetworkReadyChanged ready =>
        cases ready with
        | false => exact ⟨hs,le_rfl⟩
        | true => exact hresume
      | resumePendingNetworkAction => exact hresume
      | pendingNetworkTimer =>
        refine satAt_read_bind ?_
        split
        · exact hresume
        · exact ⟨hs,le_rfl⟩
      | connectedRecoveryTimer =>
        exact hmono (connectedRecoveryTimer_satAt waiting hs.budget hsaved)
      | _ => cases hu

end

section

variable {s : Connection} (serverId : String) (container : DockerContainer)

/-- A connection begins with all its attempts. -/
lemma saved_beginConnection (s : Connection) :
    Saved (s.replaced+kMaxConnectedRecoveryAttempts) (s.beginConnection serverId container) ∧
      (s.beginConnection serverId container).budget = s.replaced+kMaxConnectedRecoveryAttempts := by
  have hn : (PendingNetworkAction.none == .startSilentReconnect) = false := rfl
  have hbudget : (s.beginConnection serverId container).budget =
      s.replaced+kMaxConnectedRecoveryAttempts := by
    simp [budget,beginConnection,stopPendingNetworkAction,stopConnectedRecovery,hn]
  refine ⟨⟨hbudget.le,?_⟩,hbudget⟩
  simp [beginConnection,stopPendingNetworkAction]

lemma deferStart_thrifty :
    (deferUntilPhysicalNetworkReady .startConnection .checkingLocalNetwork).Steps anyWait
      Thrifty := by
  refine ipc_steps.bind fun ready => ?_
  split
  · exact steps_pure _
  · refine .bind (steps_update fun s => ⟨?_,by simp [defer_pending]⟩) fun _ => steps_pure _
    have hdefer := budget_defer (s := s) .startConnection .checkingLocalNetwork (by simp)
    have hn : (PendingNetworkAction.startConnection == .startSilentReconnect) = false := rfl
    simp only [hn,Bool.toNat_false] at hdefer
    refine hdefer.trans ?_
    rw [budget]
    omega

lemma connectToVpn_satAt {B : ℕ} (hs : s.settings.isSome)
    (hB : s.replaced+kMaxConnectedRecoveryAttempts = B) :
    (connectToVpn serverId container).SatAt (Saved B) spends (fun _ t => Saved B t) s := by
  have hsettings : (s.record .connectToVpn).settings.isNone = false := by
    simpa [record,Option.isSome_iff_ne_none] using hs
  have hbegin := (saved_beginConnection serverId container (s.record .connectToVpn)).1
  refine satAt_update_bind (satAt_read_bind ?_)
  rw [if_neg (by simp [hsettings])]
  subst hB
  refine satAt_update_bind (thrifty_satAt ?_ le_rfl hbegin)
  refine (ipc_steps.discard.bind fun _ => (setConnectionState_steps (by simp)).bind fun _ =>
    ipc_steps.bind fun guarded => ?_) _
  split
  · exact (failure_steps _ (by simp)).bind fun _ => reportError_steps _
  · refine dropProtocol_steps.bind fun _ => deferStart_thrifty.bind fun deferred => ?_
    split
    · exact startConfiguredConnection_steps
    · exact steps_pure _

end

abbrev saved (B : ℕ) (_ : List Event) : Connection → Prop := Saved B

abbrev spending (_ : List Event) (s t : Connection) : Prop := t.budget ≤ s.budget

lemma spending_refl (waiting : List Event) (s : Connection) : spending waiting s s := le_rfl

lemma spending_trans (waiting : List Event) (s t u : Connection) (hst : spending waiting s t)
    (htu : spending waiting t u) : spending waiting s u := htu.trans hst

/-- Left to itself from `connectToVpn` on, a connection whose probes do not succeed replaces
its protocol object at most three times. -/
theorem unattended_recovery_bounded (c : Machine) (hc : c.stack = [])
    (hs : c.state.settings.isSome) (serverId : String) (container : DockerContainer)
    (inputs : List (Input Event Answer))
    (h : Guarded step (AdmitsAt Unattended) (step c (.dispatch (.connectToVpn serverId container)))
      inputs) :
    Always step (fun d => d.state.replaced ≤ c.state.replaced+kMaxConnectedRecoveryAttempts)
      (step c (.dispatch (.connectToVpn serverId container))) inputs := by
  intro pre hpre
  obtain ⟨s,stack⟩ := c
  subst hc
  obtain ⟨hbegin,hbudget⟩ := saved_beginConnection serverId container s
  have hg : Guarded step (AdmitsAt Unattended)
      (step ⟨s,[]⟩ (.dispatch (.connectToVpn serverId container))) pre :=
    fun before i hi => h before i (hi.trans hpre)
  have hfirst : Suspended (saved (s.replaced+kMaxConnectedRecoveryAttempts)) spending
      (step ⟨s,[]⟩ (.dispatch (.connectToVpn serverId container))).state
      (step ⟨s,[]⟩ (.dispatch (.connectToVpn serverId container))).stack := by
    have hbelow : Suspended (saved (s.replaced+kMaxConnectedRecoveryAttempts)) spending
        (s.beginConnection serverId container) ([] : List (Frame Connection Wait Answer Event)) :=
      .nil hbegin
    have hconnect := connectToVpn_satAt serverId container hs rfl
    exact hbelow.proceed spending_refl spending_trans
      (hconnect.mono fun _ u hu => ⟨hu,hu.budget.trans hbudget.ge⟩)
  have hsaved := Suspended.run handle spending_refl spending_trans
    (by exact fun _ _ _ he hs => handle_saved he hs) hfirst hg
  exact (replaced_le_budget _).trans hsaved.budget

/-- The resolver fails, the tunnel is replaced, and the probe of the new one succeeds. -/
def recoveryCycle : List (Input Event Answer) :=
  [.dispatch (.dnsHealth false),.dispatch .connectedRecoveryTimer,success,success,success,
    .dispatch (.protocolStateChanged .connected .noError),.dispatch .firstHealthCheck,
    .dispatch (.connectivityProbe true)]

theorem probes_renew_recovery : (run step (start (some awgSettings))
      (connected++recoveryCycle++recoveryCycle++recoveryCycle++recoveryCycle)).state.replaced =
        kMaxConnectedRecoveryAttempts+1 := by decide +kernel

/-- The probes fail, too. -/
def failedCycle : List (Input Event Answer) :=
  [.dispatch (.dnsHealth false),.dispatch .connectedRecoveryTimer,success,success,success,
    .dispatch (.protocolStateChanged .connected .noError),.dispatch .firstHealthCheck,
    .dispatch (.connectivityProbe false)]

theorem failed_probes_bounded : Guarded step (AdmitsAt Unattended)
      (step (start (some awgSettings)) (.dispatch (.connectToVpn "server" .awg)))
      (connected.tail++failedCycle++failedCycle++failedCycle++failedCycle) ∧
    (run step (step (start (some awgSettings)) (.dispatch (.connectToVpn "server" .awg)))
      (connected.tail++failedCycle++failedCycle++failedCycle++failedCycle)).state.replaced = 3 ∧
    Always step (fun d => d.state.replaced ≤ 0+kMaxConnectedRecoveryAttempts)
      (step (start (some awgSettings)) (.dispatch (.connectToVpn "server" .awg)))
      (connected.tail++failedCycle++failedCycle++failedCycle++failedCycle) := by
  have hg : Guarded step (AdmitsAt Unattended)
      (step (start (some awgSettings)) (.dispatch (.connectToVpn "server" .awg)))
      (connected.tail++failedCycle++failedCycle++failedCycle++failedCycle) := by decide +kernel
  exact ⟨hg,by decide +kernel,
    unattended_recovery_bounded (start (some awgSettings)) rfl rfl "server" .awg _ hg⟩

end AlzheimerVPN.Lifecycle
