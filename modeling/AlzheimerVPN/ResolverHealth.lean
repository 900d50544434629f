import AlzheimerVPN.LifecycleSteps

/-! A resolver that fails beside a traffic probe that succeeds. The probe leaves
`DnsFailed` alone, but nothing else remembers the failed lookup. -/
namespace AlzheimerVPN.Lifecycle

open Reentrancy Runs

/-- The change does not make the connection healthy. -/
def Unhealed (s t : Connection) : Prop :=
  t.connectionHealth = .healthy → s.connectionHealth = .healthy

instance : Driving anyWait Unhealed where
  refl _ := id
  trans _ _ _ h k := h ∘ k
  waits _ := trivial
  advance _ _ h := h.health

lemma disconnectFromVpn_unhealed : disconnectFromVpn.Steps anyWait Unhealed :=
  .bind (steps_update fun _ => id) fun _ => closeConnection_steps

lemma connectToVpn_unhealed (serverId : String) (container : DockerContainer) :
    (connectToVpn serverId container).Steps anyWait Unhealed :=
  (record_steps (by simp)).bind fun _ => openConnection_steps serverId container

/-- No slot heals the connection but those that judge it. -/
lemma handle_unhealed (waiting : List Event) (e : Event) (hj : e.judges = false) :
    (handle waiting e).Steps anyWait Unhealed := by
  cases hu : e.usesProtocol with
  | false => exact handle_routine waiting e hu hj
  | true =>
    cases e with
    | connectToVpn serverId container => exact connectToVpn_unhealed serverId container
    | disconnectFromVpn => exact disconnectFromVpn_unhealed
    | siteRouteTimer =>
      exact fromProtocol_steps _ waiting (onSiteRouteTimer_steps dereference_steps)
    | protocolStateChanged state error =>
      exact fromProtocol_steps _ waiting
        (onProtocolStateChanged_steps (fun _ => dereference_steps) error)
    | _ => first | exact handle_reconnects waiting _ rfl | cases hu

/-- Whether the last lookup that counted has failed: one that failed counts while the
tunnel is connected and not being replaced, and a user's action begins anew. -/
def lookup (c : Machine) (failing : Bool) : Input Event Answer → Bool
  | .dispatch (.dnsHealth false) =>
    failing || (c.state.connectionState == .connected && !c.state.silentReconnectInProgress)
  | .dispatch (.dnsHealth true) | .dispatch (.connectToVpn _ _) | .dispatch .disconnectFromVpn =>
    false
  | _ => failing

/-- The machine with that flag beside it. -/
def observe (x : Machine × Bool) (i : Input Event Answer) : Machine × Bool :=
  (step x.1 i,lookup x.1 x.2 i)

/-- A resolver that fails is not published as healthy. -/
def NotMasked (x : Machine × Bool) : Prop :=
  x.2 → x.1.state.connectionHealth ≠ .healthy

/-- While lookups fail, a successful traffic probe of the connected tunnel finds
`DnsFailed` published, and nobody else calls the tunnel healthy. -/
def Vouched (x : Machine × Bool) : Input Event Answer → Prop
  | .dispatch (.connectivityProbe true) =>
    x.2 → x.1.state.connectivityProbe → x.1.state.connectionState = .connected →
      x.1.state.connectionHealth = .dnsFailed
  | .dispatch (.setConnectionDiagnostic health) =>
    x.2 → health = .healthy → x.1.state.shouldPublishConnectionHealth .healthy = false
  | _ => True

section

variable {x : Machine × Bool}

lemma judges_stack (c : Machine) {e : Event} (hj : e.judges) :
    (step c (.dispatch e)).stack = c.stack := by
  obtain ⟨t,ht,-⟩ := handle_judges c.waiting e hj c.state
  rw [step,Reentrancy.step,ht]
  rfl

lemma step_stacked {c : Machine} (hc : Stacked anyWait Unhealed c.stack)
    (i : Input Event Answer) : Stacked anyWait Unhealed (step c i).stack := by
  cases i with
  | answer a => exact (answer_stacked handle hc a).2
  | dispatch e =>
    cases hj : e.judges with
    | false => exact (dispatch_stacked handle (handle_unhealed _ _ hj) hc).2
    | true =>
      rw [judges_stack c hj]
      exact hc

/-- A step that neither heals the connection nor makes a lookup count keeps the resolver
unmasked. -/
lemma unhealed_step (hx : NotMasked x) {i : Input Event Answer}
    (hstep : Unhealed x.1.state (step x.1 i).state) (hlookup : lookup x.1 x.2 i → x.2) :
    NotMasked (observe x i) :=
  fun hf hh => hx (hlookup hf) (hstep hh)

lemma scheduleRecovery_health (s : Connection) :
    s.scheduleRecovery.2.connectionHealth = s.connectionHealth := by
  rw [Connection.scheduleRecovery]
  split
  · rfl
  · split
    · rfl
    · split
      · rfl
      · simp [Connection.startRecovery,Connection.setRecoveryAttempts,
          Connection.setRecoveryAttempted,Connection.stopConnectedHealthCheck,
          Connection.stopConnectivityProbe,Connection.startConnectedRecovery]

lemma setConnectionHealth_health {s : Connection} {health : ConnectionHealth}
    (h : s.shouldPublishConnectionHealth health) :
    (s.setConnectionHealth health).connectionHealth = health := by
  rw [Connection.setConnectionHealth,h,Bool.true_and]
  split
  · rfl
  · rename_i hsame
    simpa using hsame

lemma shouldPublish_connected {s : Connection} (hs : s.connectionState = .connected)
    (health : ConnectionHealth) : s.shouldPublishConnectionHealth health := by
  simp [Connection.shouldPublishConnectionHealth,hs]

/-- A lookup that fails and counts is published. -/
lemma failed_lookup_published {c : Machine} (hs : c.state.connectionState = .connected)
    (hn : c.state.silentReconnectInProgress = false) :
    (step c (.dispatch (.dnsHealth false))).state.connectionHealth = .dnsFailed := by
  have hstep : (step c (.dispatch (.dnsHealth false))).state =
      (c.state.recoverConnectedTunnel .dnsFailed .vpnNoTrafficError).2 := by
    simp [step,Reentrancy.step,handle,onDnsHealth,hs,hn,proceed]
  have hs' : (c.state.markLastError .vpnNoTrafficError).connectionState = .connected := hs
  rw [hstep,Connection.recoverConnectedTunnel,scheduleRecovery_health]
  exact setConnectionHealth_health (shouldPublish_connected hs' _)

lemma dnsHealth_step (hc : Stacked anyWait Unhealed x.1.stack) (hx : NotMasked x) :
    NotMasked (observe x (.dispatch (.dnsHealth false))) := by
  by_cases hs : x.1.state.connectionState = .connected ∧ x.1.state.silentReconnectInProgress = false
  · intro _
    rw [observe,failed_lookup_published hs.1 hs.2]
    simp
  · refine unhealed_step hx (dispatch_stacked handle (handle_unhealed _ _ rfl) hc).1 fun hf => ?_
    have hcounts : (x.1.state.connectionState == .connected &&
        !x.1.state.silentReconnectInProgress) = false := by simpa using hs
    simpa [lookup,hcounts] using hf

/-- The probe of a connected tunnel heals it unless `DnsFailed` is published. -/
lemma probe_step (hx : NotMasked x) :
    NotMasked (observe x (.dispatch (.connectivityProbe true))) ↔
      Vouched x (.dispatch (.connectivityProbe true)) := by
  have hlookup : lookup x.1 x.2 (.dispatch (.connectivityProbe true)) = x.2 := rfl
  rw [NotMasked,observe,hlookup,Vouched]
  refine forall_congr' fun hf => ?_
  have hh := hx hf
  cases hp : x.1.state.connectivityProbe with
  | false =>
    rw [step,Reentrancy.step,handle_probe_absent _ true hp]
    exact iff_of_true hh fun hn => by cases hn
  | true =>
    by_cases hc : x.1.state.connectionState = .connected
    · have hc' : x.1.state.probed.connectionState = .connected := hc
      rw [step,Reentrancy.step,handle_probe_connected _ hp hc]
      split
      · rename_i hd
        exact iff_of_true hh fun _ _ => hd
      · rename_i hd
        have hhealthy := setConnectionHealth_health (shouldPublish_connected hc' .healthy)
        exact iff_of_false (fun hn => hn hhealthy) fun hn => hd (hn rfl hc)
    · rw [step,Reentrancy.step,handle_probe_elsewhere _ hp hc]
      exact iff_of_true hh fun _ hconnected => absurd hconnected hc

lemma diagnostic_step (hx : NotMasked x) (health : ConnectionHealth) :
    NotMasked (observe x (.dispatch (.setConnectionDiagnostic health))) ↔
      Vouched x (.dispatch (.setConnectionDiagnostic health)) := by
  have hlookup : lookup x.1 x.2 (.dispatch (.setConnectionDiagnostic health)) = x.2 := rfl
  have hstep : (step x.1 (.dispatch (.setConnectionDiagnostic health))).state =
      x.1.state.setConnectionHealth health := rfl
  rw [NotMasked,observe,hlookup,hstep,Vouched]
  refine forall_congr' fun hf => ?_
  have hh := hx hf
  cases hp : x.1.state.shouldPublishConnectionHealth health with
  | true =>
    rw [setConnectionHealth_health hp]
    constructor
    · exact fun hne heq => absurd heq hne
    · rintro hn rfl
      exact absurd (hn rfl) (by simp [hp])
  | false =>
    have hsame : x.1.state.setConnectionHealth health = x.1.state := by
      simp [Connection.setConnectionHealth,hp]
    rw [hsame]
    refine iff_of_true hh ?_
    rintro rfl
    exact hp

lemma notMasked_step (hc : Stacked anyWait Unhealed x.1.stack) (hx : NotMasked x)
    (i : Input Event Answer) : NotMasked (observe x i) ↔ Vouched x i := by
  cases i with
  | answer a => exact iff_of_true (unhealed_step hx (answer_stacked handle hc a).1 id) trivial
  | dispatch e =>
    have hkeep : e.judges = false → (lookup x.1 x.2 (.dispatch e) → x.2) →
        NotMasked (observe x (.dispatch e)) := fun hj =>
      unhealed_step hx (dispatch_stacked handle (handle_unhealed _ _ hj) hc).1
    cases e with
    | setConnectionDiagnostic health => exact diagnostic_step hx health
    | connectivityProbe success =>
      cases success with
      | true => exact probe_step hx
      | false => exact iff_of_true (hkeep rfl id) trivial
    | dnsHealth resolved =>
      cases resolved with
      | true => exact iff_of_true (fun hf => by cases hf) trivial
      | false => exact iff_of_true (dnsHealth_step hc hx) trivial
    | connectToVpn serverId container => exact iff_of_true (fun hf => by cases hf) trivial
    | disconnectFromVpn => exact iff_of_true (fun hf => by cases hf) trivial
    | _ => exact iff_of_true (hkeep rfl id) trivial

end

/-- A failing resolver is never published as healthy exactly in the runs in which every
successful probe that arrives meanwhile finds `DnsFailed` published. -/
theorem failing_resolver_unmasked_iff (settings : Option Settings)
    (inputs : List (Input Event Answer)) :
    Always observe NotMasked (start settings,false) inputs ↔
      Guarded observe Vouched (start settings,false) inputs := by
  have hstart : NotMasked (start settings,false) := fun hf => by cases hf
  refine always_iff_guarded (W := fun x => Stacked anyWait Unhealed x.1.stack)
    (D := fun _ => True) (fun x i _ hx => step_stacked hx i)
    (fun x i _ hc hx => notMasked_step hc hx i) ?_ hstart fun _ _ => trivial
  simp [start,Stacked]

/-- The lookup of a connected tunnel fails, the tunnel is replaced, and the probe of the new
one succeeds. -/
def maskedFailure : List (Input Event Answer) :=
  connected++[.dispatch (.dnsHealth false),.dispatch .connectedRecoveryTimer,success,success,success,
    .dispatch (.protocolStateChanged .connected .noError),.dispatch .firstHealthCheck,
    .dispatch (.connectivityProbe true)]

theorem failing_resolver_masked : (run observe (start (some awgSettings),false)
      (connected++[.dispatch (.dnsHealth false)])).2 ∧
    (run observe (start (some awgSettings),false) maskedFailure).2 ∧
    (run observe (start (some awgSettings),false) maskedFailure).1.stack.length = 0 ∧
    (run observe (start (some awgSettings),false) maskedFailure).1.state.connectionHealth =
      .healthy := by decide

end AlzheimerVPN.Lifecycle
