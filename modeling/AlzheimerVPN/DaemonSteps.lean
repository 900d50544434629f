import AlzheimerVPN.Daemon

/-! What the operations of the daemon leave alone, a rule for each of its loops, and
the tunnel that stands behind every connection. -/
namespace AlzheimerVPN.Daemon

section

lemma deactivate_eq (s : Daemon) : ∃ ks generation, s.deactivate.1 =
      { s with
        connections := fun _ => none
        routes := ⟨fun _ => 0,false,none,(s.routes.giveUpRoutes s.splitTunnelDnsRoutes).asked⟩
        splitTunnelDnsResolveHosts := []
        splitTunnelDnsRoutes := []
        splitTunnelDnsGeneration := generation
        splitTunnelDnsKillSwitchEnabled := false
        dnsRules := []
        killSwitch := ks } := by
  refine ⟨s.deactivate.1.killSwitch,s.splitTunnelDnsGeneration+1,?_⟩
  simp only [deactivate,deleteInterface]
  split_ifs <;> rfl

@[simp] lemma deactivate_connections (s : Daemon) (hop : HopType) :
    s.deactivate.1.connections hop = none := by
  obtain ⟨ks,generation,hs⟩ := deactivate_eq s
  rw [hs]

variable [Qt] [QtNetwork] (kernel : ℕ → Bool) (s : Daemon)

/-- The rule for resolved addresses: what one address keeps of the routes, the learned
prefixes and the routed addresses. -/
lemma learnAll_induct {P : Routes → List IPAddress → List String → Prop} (ips : List String)
    (h0 : P s.routes s.splitTunnelDnsRoutes [])
    (hlearn : ∀ r l out ip, P r l out →
      (r.addExclusionRoute kernel (IPAddress.ofText ip)).2 →
      P (r.addExclusionRoute kernel (IPAddress.ofText ip)).1 (l++[IPAddress.ofText ip]) (out++[ip]))
    (hrefuse : ∀ r l out p, P r l out → (r.addExclusionRoute kernel p).2 = false →
      P (r.addExclusionRoute kernel p).1 l out) :
    P (s.learnAll kernel ips).1 (s.learnAll kernel ips).2.1 (s.learnAll kernel ips).2.2 := by
  have hfold : ∀ (ips : List String) (state : Routes × List IPAddress × List String),
      P state.1 state.2.1 state.2.2 →
      P (ips.foldl (learn kernel) state).1 (ips.foldl (learn kernel) state).2.1
        (ips.foldl (learn kernel) state).2.2 := by
    intro ips
    induction ips with
    | nil => exact fun _ h => h
    | cons ip ips ih =>
      intro state h
      refine ih _ ?_
      simp only [learn]
      split_ifs with hm ha
      · exact h
      · exact hlearn _ _ _ _ h ha
      · exact hrefuse _ _ _ _ h (by simpa using ha)
  exact hfold ips _ h0

lemma onSplitTunnelHostResolved_nil : s.onSplitTunnelHostResolved kernel [] = s := by
  simp [onSplitTunnelHostResolved,learnAll]

/-- A finished lookup is dropped or taken like an observed answer. -/
lemma lookupFinished_eq (host : String) (generation : ℕ) (addresses : List HostAddress) :
    step kernel s (.lookupFinished host generation addresses) =
      { s with lookups := s.lookups.erase (host,generation) }.onSplitTunnelHostResolved kernel
        (s.resolved (.lookupFinished host generation addresses)) := by
  simp only [step,lookupFinished,resolved]
  by_cases hm : (host,generation) ∈ s.lookups
  · by_cases hg : generation = s.splitTunnelDnsGeneration
    · subst hg
      cases hf : foundIps addresses <;> simp [hm,onSplitTunnelHostResolved_nil]
    · simp [hm,hg,onSplitTunnelHostResolved_nil]
  · simp [hm,onSplitTunnelHostResolved_nil,List.erase_of_not_mem]

lemma answered_eq (host : String) (ips : List String) : step kernel s (.answered host ips) =
      s.onSplitTunnelHostResolved kernel (s.resolved (.answered host ips)) := by
  by_cases hm : host ∈ s.matchedHosts
  · simp [step,resolved,hm]
  · simp [step,resolved,hm,onSplitTunnelHostResolved_nil]

/-- The rule for a poll: what a completed handshake of a hop with a connection keeps. -/
lemma checkHandshake_induct {P : Daemon → Prop} (peers : List PeerStatus)
    (hdone : ∀ s hop c, P s → s.connections hop = some c →
      P (s.completeHandshake kernel hop c.config)) {s : Daemon} (h : P s) :
    P (s.checkHandshake kernel peers) := by
  have hpeers : ∀ (peers : List PeerStatus) (s : Daemon) (hop : HopType) (config : InterfaceConfig)
      (ready : PeerStatus → Bool), P s → (∃ c, s.connections hop = some c ∧ c.config = config) →
      P (peers.foldl (fun s status =>
        if ready status then s.completeHandshake kernel hop config else s) s) := by
    intro peers
    induction peers with
    | nil => exact fun _ _ _ _ h _ => h
    | cons status peers ih =>
      intro s hop config ready h hc
      obtain ⟨c,hc,rfl⟩ := hc
      rw [List.foldl_cons]
      cases ready status with
      | false => exact ih s hop c.config ready h ⟨c,hc,rfl⟩
      | true =>
        refine ih _ hop c.config ready (hdone s hop c h hc) ⟨⟨c.config,true⟩,?_,rfl⟩
        simp [completeHandshake,refreshSplitTunnelDnsRoutes,refreshSplitTunnelStaticRoutes,
          configureSplitTunnelDnsRoutes,clearSplitTunnelDnsRoutes]
  have hhops : ∀ (hops : List HopType) (s : Daemon), P s →
      P (hops.foldl (pollConnection kernel peers) s) := by
    intro hops
    induction hops with
    | nil => exact fun _ h => h
    | cons hop hops ih =>
      intro s h
      refine ih _ ?_
      simp only [pollConnection]
      split
      · exact h
      · rename_i c hc
        split_ifs
        · exact h
        · exact hpeers peers s hop c.config (fun status =>
            peerKeysMatch c.config.serverPublicKey status.pubkey && status.handshake ≠ 0) h
            ⟨c,hc,rfl⟩
  exact hhops _ s h

omit [QtNetwork] in
lemma ensureInterface_cases (config : InterfaceConfig) (answers : Answers)
    (hrun : s.routes.tunnelRunning → s.routes.rtmonitor.isSome) :
    ∃ routes ks, (s.ensureInterface config answers).1 =
        { s with routes := routes, killSwitch := ks } ∧
      routes.excludedAddrSet = s.routes.excludedAddrSet ∧
      (routes.tunnelRunning → routes.rtmonitor.isSome) ∧
      (s.routes.rtmonitor.isSome → routes.rtmonitor.isSome) ∧
      ((s.ensureInterface config answers).2 → routes.rtmonitor.isSome) := by
  simp only [ensureInterface]
  split_ifs with hr
  · exact ⟨s.routes,s.killSwitch,rfl,rfl,hrun,id,fun _ => hrun hr⟩
  · simp only [addInterface]
    split_ifs
    · exact ⟨s.routes,s.killSwitch,rfl,rfl,hrun,id,by simp⟩
    · exact ⟨_,_,rfl,rfl,fun _ => rfl,fun _ => rfl,fun _ => rfl⟩

/-- What an activation without a connection does: it may bring up the tunnel and the
peer, and only then it connects. -/
lemma activateNew_cases (config : InterfaceConfig) (answers : Answers)
    (hrun : s.routes.tunnelRunning → s.routes.rtmonitor.isSome) :
    ∃ routes ks connections, (s.activateNew kernel config answers).1 =
        { s with routes := routes, killSwitch := ks, connections := connections } ∧
      routes.excludedAddrSet = s.routes.excludedAddrSet ∧
      (routes.tunnelRunning → routes.rtmonitor.isSome) ∧
      (s.routes.rtmonitor.isSome → routes.rtmonitor.isSome) ∧
      (connections = s.connections ∨
        connections = Function.update s.connections config.hopType (some ⟨config,false⟩) ∧
          routes.rtmonitor.isSome) := by
  obtain ⟨routes,ks,hs,hset,hr,hm,hok⟩ := s.ensureInterface_cases config answers hrun
  have ht := Routes.updatePeer_tunnel kernel routes config
  simp only [Routes.tunnel,Prod.mk.injEq] at ht
  have hset' : (routes.updatePeer kernel config).excludedAddrSet = s.routes.excludedAddrSet := by
    rw [Routes.updatePeer_excludedAddrSet,hset]
  rw [← ht.1,← ht.2] at hr
  rw [← ht.2] at hm hok
  simp only [activateNew,hs]
  split_ifs with hfail
  · rw [ht.1,ht.2] at hr
    rw [ht.2] at hm
    exact ⟨routes,ks,s.connections,rfl,hset,hr,hm,Or.inl rfl⟩
  · have hup : (s.ensureInterface config answers).2 := by
      by_contra hn
      simp [hn] at hfail
    exact ⟨_,ks,_,rfl,hset',hr,hm,Or.inr ⟨rfl,hok hup⟩⟩
  · exact ⟨_,ks,s.connections,rfl,hset',hr,hm,Or.inl rfl⟩

end

section

/-- A running tunnel and a connection have a monitor, and a connection is kept under its hop. -/
structure Wired (s : Daemon) : Prop where
  running : s.routes.tunnelRunning → s.routes.rtmonitor.isSome
  connected : ∀ hop c, s.connections hop = some c →
    c.config.hopType = hop ∧ s.routes.rtmonitor.isSome

lemma Wired.frame {s s' : Daemon} (h : Wired s) (ht : s'.routes.tunnel = s.routes.tunnel)
    (hc : s'.connections = s.connections) : Wired s' := by
  simp only [Routes.tunnel,Prod.mk.injEq] at ht
  constructor
  · rw [ht.1,ht.2]
    exact h.running
  · rw [hc,ht.2]
    exact h.connected

/-- A connection is entered under its own hop while there is a monitor. -/
lemma Wired.connect {s s' : Daemon} (h : Wired s) (c : ConnectionState)
    (hm : s'.routes.rtmonitor.isSome)
    (hc : s'.connections = Function.update s.connections c.config.hopType (some c)) : Wired s' := by
  refine ⟨fun _ => hm,fun hop c' hc' => ⟨?_,hm⟩⟩
  rw [hc] at hc'
  by_cases hhop : hop = c.config.hopType
  · subst hhop
    rw [Function.update_self] at hc'
    cases hc'
    rfl
  · rw [Function.update_of_ne hhop] at hc'
    exact (h.connected hop c' hc').1

lemma wired_initial (ks : KillSwitch) : Wired (initial ks) :=
  ⟨by simp [initial],by simp [initial]⟩

lemma wired_deactivate (s : Daemon) : Wired s.deactivate.1 := by
  obtain ⟨ks,generation,hs⟩ := deactivate_eq s
  rw [hs]
  exact ⟨by simp,by simp⟩

variable [Qt] [QtNetwork] (kernel : ℕ → Bool) {s : Daemon}

lemma Wired.activateNew (h : Wired s) (config : InterfaceConfig) (answers : Answers) :
    Wired (s.activateNew kernel config answers).1 := by
  obtain ⟨routes,ks,connections,hs,-,hr,hm,hc⟩ :=
    s.activateNew_cases kernel config answers h.running
  rw [hs]
  rcases hc with rfl | ⟨rfl,hsome⟩
  · exact ⟨hr,fun hop c hc => ⟨(h.connected hop c hc).1,hm (h.connected hop c hc).2⟩⟩
  · exact h.connect ⟨config,false⟩ hsome rfl

@[simp] lemma switchedTo_tunnel (config : InterfaceConfig) :
    (s.switchedTo kernel config).tunnel = s.routes.tunnel := by
  simp [switchedTo]

@[simp] lemma switchedFrom_tunnel (lastConfig config : InterfaceConfig) :
    (s.switchedFrom kernel lastConfig config).tunnel = s.routes.tunnel := by
  simp only [switchedFrom]
  split_ifs <;> simp

lemma Wired.switchServer (h : Wired s) {current : ConnectionState} {config : InterfaceConfig}
    (hcur : s.connections config.hopType = some current) (answers : Answers) :
    Wired (s.switchServer kernel current.config config answers).1 := by
  have hm := (h.connected _ _ hcur).2
  simp only [Daemon.switchServer]
  split_ifs
  · exact h.frame (by simp) rfl
  · exact h.frame (by simp) rfl
  · have ht := switchedFrom_tunnel kernel (s := s) current.config config
    exact h.connect ⟨config,false⟩ ((congrArg Prod.snd ht).trans hm) rfl

lemma Wired.completeHandshake (h : Wired s) {hop : HopType} {c : ConnectionState}
    (hc : s.connections hop = some c) : Wired (s.completeHandshake kernel hop c.config) := by
  obtain ⟨rfl,hm⟩ := h.connected hop c hc
  have ht : (s.completeHandshake kernel c.config.hopType c.config).routes.tunnel =
      s.routes.tunnel := by
    simp [Daemon.completeHandshake,refreshSplitTunnelDnsRoutes,refreshSplitTunnelStaticRoutes,
      configureSplitTunnelDnsRoutes,clearSplitTunnelDnsRoutes]
  exact h.connect ⟨c.config,true⟩ ((congrArg Prod.snd ht).trans hm) rfl

lemma Wired.onSplitTunnelHostResolved (h : Wired s) (ips : List String) :
    Wired (s.onSplitTunnelHostResolved kernel ips) := by
  refine h.frame ?_ rfl
  exact learnAll_induct kernel s (P := fun r _ _ => r.tunnel = s.routes.tunnel) ips rfl
    (fun r _ _ _ hr _ => (Routes.addExclusionRoute_tunnel kernel r _).trans hr)
    (fun r _ _ p hr _ => (Routes.addExclusionRoute_tunnel kernel r p).trans hr)

/-- The ways an activation can go. -/
lemma activate_induct {P : Daemon → Prop} {config : InterfaceConfig} {answers : Answers}
    (hnew : s.connections config.hopType = none → P (s.activateNew kernel config answers).1)
    (hswitch : ∀ current, s.connections config.hopType = some current →
      supportServerSwitching current.config config →
      P (s.switchServer kernel current.config config answers).1)
    (hagain : ∀ current, s.connections config.hopType = some current →
      supportServerSwitching current.config config = false →
      P s.deactivate.1 ∧ P (s.deactivate.1.activateNew kernel config answers).1) :
    P (step kernel s (.activate config answers)) := by
  simp only [step,activate]
  cases hc : s.connections config.hopType with
  | none => exact hnew hc
  | some current =>
    cases hs : supportServerSwitching current.config config with
    | true => simpa [hs] using hswitch current hc hs
    | false =>
      obtain ⟨hdown,hup⟩ := hagain current hc hs
      cases hd : s.deactivate.2 with
      | true => simpa [hs] using hup
      | false => simpa [hs] using hdown

lemma wired_step (h : Wired s) (e : Event) : Wired (step kernel s e) := by
  cases e with
  | activate config answers =>
    exact activate_induct kernel (fun _ => h.activateNew kernel config answers)
      (fun current hc _ => h.switchServer kernel hc answers)
      fun _ _ _ => ⟨wired_deactivate s,(wired_deactivate s).activateNew kernel config answers⟩
  | deactivate => exact wired_deactivate s
  | checkHandshake peers =>
    exact checkHandshake_induct kernel peers (fun s hop c h hc => h.completeHandshake kernel hc) h
  | lookupFinished host generation addresses =>
    have hl : Wired { s with lookups := s.lookups.erase (host,generation) } := h.frame rfl rfl
    rw [lookupFinished_eq]
    exact hl.onSplitTunnelHostResolved kernel _
  | query host =>
    simp only [step]
    split_ifs
    · exact h.frame rfl rfl
    · exact h
  | answered host ips =>
    rw [answered_eq]
    exact h.onSplitTunnelHostResolved kernel _
  | defaultRoutes ipv4 ipv6 => exact h.frame (by simp [step,Routes.tunnel]) rfl
  | tunnelFinished => exact ⟨by simp [step],h.connected⟩

end

end AlzheimerVPN.Daemon
