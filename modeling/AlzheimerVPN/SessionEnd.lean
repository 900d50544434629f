import AlzheimerVPN.Holes

/-! What is left of the firewall once a WireGuard session has ended. The rules are taken back
with the backend process; a process that has exited on its own leaves them in place. -/
namespace AlzheimerVPN.Daemon

open Runs WireguardUtilsMacos

/-- No connection is protected, strict mode is off and no site is always blocked. -/
def Unguarded (s : KillSwitch) : Prop :=
  s.connectionProtection = false ∧ s.strictKillSwitchEnabled = false ∧ s.alwaysBlockedSites = []

section

variable {ks : KillSwitch}

lemma Unguarded.disableKillSwitch (h : Unguarded ks) :
    ks.disableKillSwitch.1 = { ks with firewall := ks.firewall.uninstall, allowedRanges := [] } := by
  simp [KillSwitch.disableKillSwitch,KillSwitch.isStrictKillSwitchEnabled,h.1,h.2.1,h.2.2]

lemma Unguarded.resetAllowedRange (h : Unguarded ks) (ranges : List String) :
    Unguarded (ks.resetAllowedRange ranges).1 := by
  rw [KillSwitch.resetAllowedRange]
  split <;> exact h

lemma Unguarded.addAllowedRange (h : Unguarded ks) (ranges : List String) :
    Unguarded (ks.addAllowedRange ranges).1 := by
  simp only [KillSwitch.addAllowedRange,KillSwitch.resetAllowedRange]
  split_ifs <;> exact h

variable {s : Daemon}

lemma Unguarded.deactivate (h : Unguarded s.killSwitch) : s.deactivate.1.killSwitch =
      if s.routes.tunnelRunning then
        { s.killSwitch with firewall := s.killSwitch.firewall.uninstall, allowedRanges := [] }
      else s.killSwitch := by
  have hroutes : (s.routes.giveUpRoutes s.splitTunnelDnsRoutes).tunnelRunning =
      s.routes.tunnelRunning := congrArg Prod.fst (Routes.giveUpRoutes_tunnel _ _)
  simp only [Daemon.deactivate,deleteInterface,clearSplitTunnelDnsRoutes,hroutes]
  split
  · exact h.disableKillSwitch
  · rfl

lemma Unguarded.deactivated (h : Unguarded s.killSwitch) :
    Unguarded s.deactivate.1.killSwitch := by
  rw [h.deactivate]
  split <;> exact h

variable [Qt] [QtNetwork] (kernel : ℕ → Bool)

lemma Unguarded.activateNew (h : Unguarded s.killSwitch) (config : InterfaceConfig)
    (answers : Answers) : Unguarded (s.activateNew kernel config answers).1.killSwitch := by
  have hup : (s.activateNew kernel config answers).1.killSwitch =
      (s.ensureInterface config answers).1.killSwitch := by
    simp only [Daemon.activateNew]
    split_ifs <;> rfl
  have hrules (params : FirewallParams) : Unguarded (setRules (protectIPv6 s.killSwitch) params) := by
    have hv6 : Unguarded (protectIPv6 s.killSwitch) := h
    rw [setRules]
    split
    · exact hv6.resetAllowedRange _
    · exact hv6
  rw [hup,ensureInterface]
  split
  · exact h
  · rw [addInterface]
    split
    · exact h
    · cases hc : answers.configured with
      | false => exact h
      | true =>
        simp only [addInterface_configured]
        split
        · exact hrules _
        · exact h

lemma Unguarded.resolved (h : Unguarded s.killSwitch) (ips : List String) :
    Unguarded (s.onSplitTunnelHostResolved kernel ips).killSwitch := by
  simp only [onSplitTunnelHostResolved]
  split
  · exact h.addAllowedRange _
  · exact h

lemma unguarded_step (s : Daemon) (e : Event) (h : Unguarded s.killSwitch) :
    Unguarded (step kernel s e).killSwitch := by
  cases e with
  | activate config answers =>
    refine activate_induct (P := fun t => Unguarded t.killSwitch) kernel
      (fun _ => h.activateNew kernel config answers) (fun current _ _ => ?_)
      fun _ _ _ => ⟨h.deactivated,h.deactivated.activateNew kernel config answers⟩
    simp only [switchServer]
    split_ifs <;> exact h
  | deactivate => exact h.deactivated
  | checkHandshake peers => rwa [step,checkHandshake_killSwitch]
  | lookupFinished host generation addresses =>
    rw [lookupFinished_eq]
    exact Unguarded.resolved kernel (s := { s with lookups := _ }) h _
  | query host =>
    rw [step]
    split <;> exact h
  | answered host ips =>
    rw [answered_eq]
    exact h.resolved kernel _
  | defaultRoutes ipv4 ipv6 => exact h
  | tunnelFinished => exact h

/-- Whatever has happened before, a deactivation leaves the firewall uninstalled exactly when the
backend process still runs or no rules are in place. -/
theorem deactivate_uninstalls_iff (h : Unguarded ks) (events : List Event) :
    (run (step kernel) (initial ks) (events++[.deactivate])).killSwitch.firewall.installed = false ↔
      ((run (step kernel) (initial ks) events).killSwitch.firewall.installed →
        (run (step kernel) (initial ks) events).routes.tunnelRunning) := by
  have hguard : Unguarded (run (step kernel) (initial ks) events).killSwitch :=
    run_invariant_of_step (P := fun s : Daemon => Unguarded s.killSwitch) (unguarded_step kernel) h events
  rw [run_append,run_cons,run_nil,step,hguard.deactivate]
  split
  · next hrunning => exact iff_of_true rfl fun _ => hrunning
  · next hexited => simp [hexited]

end

def sessionEnd (exits : List Event) : KillSwitch :=
  (run dottedStep (initial (.fresh false)) ([.activate (sampleConfig firstKey "203.0.113.7"
    .singleHop []) allDone]++exits++[.deactivate])).killSwitch

theorem running_session_uninstalled : (sessionEnd []).firewall.installed = false := by
  refine (@deactivate_uninstalls_iff _ dottedQt dottedNetwork _ ⟨rfl,rfl,rfl⟩ _).mpr fun _ => ?_
  decide +kernel

/-- The backend has exited before the session is ended. -/
theorem exited_session_blocks_ipv6 : (sessionEnd [.tunnelFinished]).firewall.installed ∧
    (sessionEnd [.tunnelFinished]).firewall.isAnchorEnabled .blockIPv6 := by
  decide +kernel

end AlzheimerVPN.Daemon
