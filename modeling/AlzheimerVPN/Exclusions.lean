import AlzheimerVPN.DaemonSteps

/-! The exclusion routes over whole runs of the daemon: what the counts hold after
a handshake, and what becomes of the route to the server when the server is
switched. -/
namespace AlzheimerVPN.Daemon

open Runs Routes RefCount IPAddress List

section

variable [Qt] [QtNetwork] (kernel : ℕ → Bool) {s : Daemon} {hop : HopType}

/-- The prefixes the current configuration of a hop excludes. -/
def currentEntries (hop : HopType) (s : Daemon) : List IPAddress :=
  match s.connections hop with
  | some c => entries c.config.excludedAddresses
  | none => []

/-- The counts of a daemon with one hop: a prefix that the current configuration does not
exclude is held by the learned routes alone, and after the handshake every
prefix of the configuration and every learned one is held. -/
structure Even (hop : HopType) (s : Daemon) : Prop where
  wired : Wired s
  alone : ∀ hop', hop' ≠ hop → s.connections hop' = none
  spare : ∀ p ∉ currentEntries hop s, s.routes.excludedAddrSet p ≤ s.splitTunnelDnsRoutes.count p
  held : ∀ c, s.connections hop = some c → c.date → ∀ p,
    p ∈ entries c.config.excludedAddresses ∨ p ∈ s.splitTunnelDnsRoutes →
      0 < s.routes.excludedAddrSet p

/-- After the handshake the counted prefixes are those of the configuration and the learned ones. -/
lemma Even.counted_iff (h : Even hop s) {c : ConnectionState} (hc : s.connections hop = some c)
    (hd : c.date) (p : IPAddress) :
    0 < s.routes.excludedAddrSet p ↔
      p ∈ entries c.config.excludedAddresses ∨ p ∈ s.splitTunnelDnsRoutes := by
  refine ⟨fun hp => ?_,h.held c hc hd p⟩
  by_contra hn
  obtain ⟨he,hl⟩ := not_or.mp hn
  have hle := h.spare p (by simpa [currentEntries,hc] using he)
  rw [count_eq_zero.mpr hl] at hle
  omega

lemma even_initial (ks : KillSwitch) : Even hop (initial ks) :=
  ⟨wired_initial ks,fun _ _ => rfl,fun _ _ => Nat.zero_le _,by simp [initial]⟩

lemma Even.frame {s' : Daemon} (h : Even hop s) (hw : Wired s')
    (hset : s'.routes.excludedAddrSet = s.routes.excludedAddrSet)
    (hl : s'.splitTunnelDnsRoutes = s.splitTunnelDnsRoutes)
    (hc : s'.connections = s.connections) : Even hop s' := by
  refine ⟨hw,?_,?_,?_⟩
  · rw [hc]
    exact h.alone
  · rw [hset,hl,currentEntries,hc]
    exact h.spare
  · rw [hset,hl,hc]
    exact h.held

/-- A hop that connects anew has no handshake yet. -/
lemma Even.connect {s' : Daemon} {config : InterfaceConfig} (h : Even config.hopType s)
    (hw : Wired s')
    (hc : s'.connections = Function.update s.connections config.hopType (some ⟨config,false⟩))
    (hspare : ∀ p ∉ entries config.excludedAddresses,
      s'.routes.excludedAddrSet p ≤ s'.splitTunnelDnsRoutes.count p) : Even config.hopType s' := by
  refine ⟨hw,?_,?_,?_⟩
  · intro hop' hne
    rw [hc,Function.update_of_ne hne]
    exact h.alone hop' hne
  · simpa [currentEntries,hc] using hspare
  · intro c hc' hd
    rw [hc,Function.update_self] at hc'
    cases hc'
    simp at hd

lemma even_deactivate (s : Daemon) : Even hop s.deactivate.1 := by
  have hw := wired_deactivate s
  obtain ⟨ks,generation,hs⟩ := deactivate_eq s
  rw [hs] at hw ⊢
  exact ⟨hw,fun _ _ => rfl,fun _ _ => Nat.zero_le _,by simp⟩

lemma Even.activateNew {config : InterfaceConfig} (h : Even config.hopType s)
    (hnone : s.connections config.hopType = none) (answers : Answers) :
    Even config.hopType (s.activateNew kernel config answers).1 := by
  have hw := h.wired.activateNew kernel config answers
  obtain ⟨routes,ks,connections,hs,hset,-,-,hc⟩ :=
    s.activateNew_cases kernel config answers h.wired.running
  rw [hs] at hw ⊢
  rcases hc with rfl | ⟨rfl,-⟩
  · exact h.frame hw hset rfl rfl
  · refine h.connect hw rfl fun p _ => ?_
    have hle := h.spare p (by simp [currentEntries,hnone])
    simpa [hset] using hle

/-- The counts after a switch: raised by the new entries, lowered by the old ones as
they are read for their release. -/
lemma switchedFrom_excludedAddrSet (hk : ∀ n, kernel n)
    (hm : s.routes.rtmonitor.isSome) (lastConfig config : InterfaceConfig) (p : IPAddress) :
    (s.switchedFrom kernel lastConfig config).excludedAddrSet p =
      s.routes.excludedAddrSet p+(entries config.excludedAddresses).count p-
        (releases lastConfig.excludedAddresses).count p := by
  have hto : (s.switchedTo kernel config).excludedAddrSet =
      (entries config.excludedAddresses).foldl raise s.routes.excludedAddrSet := by
    rw [switchedTo,updatePeer_excludedAddrSet,addExclusionRoutes_excludedAddrSet kernel _ _ hk hm]
  have hfrom : (s.switchedFrom kernel lastConfig config).excludedAddrSet =
      (releases lastConfig.excludedAddresses).foldl lower
        (s.switchedTo kernel config).excludedAddrSet := by
    simp only [switchedFrom]
    split_ifs <;> simp [delExclusionRoutes_excludedAddrSet]
  rw [hfrom,foldl_lower_apply,hto,foldl_raise_apply]

/-- A switch is even if it completes and every prefix that the new configuration does not
exclude is released as often as it is counted, once less if it is learned. -/
def SwitchEven (s : Daemon) (current : ConnectionState) (config : InterfaceConfig)
    (answers : Answers) : Prop :=
  answers.peerUpdated ∧
    (config.serverPublicKey ≠ current.config.serverPublicKey → answers.peerDeleted) ∧
    ∀ p ∉ entries config.excludedAddresses, s.routes.excludedAddrSet p ≤
      (releases current.config.excludedAddresses).count p+s.splitTunnelDnsRoutes.count p

lemma Even.switchServer (hk : ∀ n, kernel n) {config : InterfaceConfig}
    (h : Even config.hopType s) {current : ConnectionState}
    (hc : s.connections config.hopType = some current) {answers : Answers}
    (hok : SwitchEven s current config answers) :
    Even config.hopType (s.switchServer kernel current.config config answers).1 := by
  obtain ⟨hup,hdel,hrel⟩ := hok
  have hw := h.wired.switchServer kernel hc answers
  have hfail : ¬(decide (config.serverPublicKey ≠ current.config.serverPublicKey) &&
      !answers.peerDeleted) := by
    intro hn
    simp only [Bool.and_eq_true,decide_eq_true_eq,Bool.not_eq_true'] at hn
    simp [hdel hn.1] at hn
  simp only [Daemon.switchServer,hup,Bool.not_true,Bool.false_eq_true,if_false,if_neg hfail] at hw ⊢
  refine h.connect hw rfl fun p hp => ?_
  have hle := hrel p hp
  rw [switchedFrom_excludedAddrSet kernel hk (h.wired.connected _ _ hc).2,count_eq_zero.mpr hp]
  exact Nat.sub_le_of_le_add (by simpa [Nat.add_comm] using hle)

lemma completeHandshake_excludedAddrSet (hk : ∀ n, kernel n)
    (hm : s.routes.rtmonitor.isSome) (hop : HopType) (config : InterfaceConfig) (p : IPAddress) :
    (s.completeHandshake kernel hop config).routes.excludedAddrSet p =
      s.routes.excludedAddrSet p-s.splitTunnelDnsRoutes.count p+
        (entries config.excludedAddresses).count p := by
  have hm' : (s.routes.giveUpRoutes s.splitTunnelDnsRoutes).rtmonitor.isSome :=
    (congrArg Prod.snd (giveUpRoutes_tunnel _ _)).trans hm
  have hset : (s.completeHandshake kernel hop config).routes.excludedAddrSet =
      (entries config.excludedAddresses).foldl raise
        (s.splitTunnelDnsRoutes.foldl lower s.routes.excludedAddrSet) := by
    rw [← giveUpRoutes_excludedAddrSet,← addExclusionRoutes_excludedAddrSet kernel _ _ hk hm']
    rfl
  rw [hset,foldl_raise_apply,foldl_lower_apply]

lemma Even.completeHandshake (hk : ∀ n, kernel n) (h : Even hop s) {hop' : HopType}
    {c : ConnectionState} (hc : s.connections hop' = some c) :
    Even hop (s.completeHandshake kernel hop' c.config) := by
  have hhop : hop' = hop := by
    by_contra hne
    rw [h.alone hop' hne] at hc
    cases hc
  subst hhop
  have hm := (h.wired.connected _ _ hc).2
  have hcs : (s.completeHandshake kernel hop' c.config).connections =
      Function.update s.connections hop' (some ⟨c.config,true⟩) := rfl
  have hl : (s.completeHandshake kernel hop' c.config).splitTunnelDnsRoutes = [] := rfl
  refine ⟨h.wired.completeHandshake kernel hc,?_,?_,?_⟩
  · intro hop'' hne
    rw [hcs,Function.update_of_ne hne]
    exact h.alone hop'' hne
  · intro p hp
    have hp' : p ∉ entries c.config.excludedAddresses := by simpa [currentEntries,hcs] using hp
    have hle := h.spare p (by simpa [currentEntries,hc] using hp')
    rw [completeHandshake_excludedAddrSet kernel hk hm,count_eq_zero.mpr hp']
    omega
  · intro c' hc' _ p hp
    rw [hcs,Function.update_self] at hc'
    cases hc'
    rw [hl] at hp
    have hpos := count_pos_iff.mpr (hp.resolve_right (by simp))
    rw [completeHandshake_excludedAddrSet kernel hk hm]
    exact Nat.add_pos_right _ hpos

lemma Even.onSplitTunnelHostResolved (h : Even hop s) (ips : List String) :
    Even hop (s.onSplitTunnelHostResolved kernel ips) := by
  have hw := h.wired.onSplitTunnelHostResolved kernel ips
  have hind := learnAll_induct kernel s (P := fun r l _ =>
    (∀ p ∉ currentEntries hop s, r.excludedAddrSet p ≤ l.count p) ∧
    (∀ c, s.connections hop = some c → c.date → ∀ p,
      p ∈ entries c.config.excludedAddresses ∨ p ∈ l → 0 < r.excludedAddrSet p))
    ips ⟨h.spare,h.held⟩ ?_ ?_
  · exact ⟨hw,h.alone,hind.1,hind.2⟩
  · rintro r l out q ⟨hspare,hheld⟩ hadd
    rw [addExclusionRoute_excludedAddrSet,if_pos hadd]
    refine ⟨fun p hp => ?_,fun c hc hd p hp => ?_⟩
    · rw [raise_apply,count_append]
      exact Nat.add_le_add_right (hspare p hp) _
    · rw [raise_apply]
      rw [mem_append,← or_assoc] at hp
      rcases hp with hp | hp
      · exact Nat.add_pos_left (hheld c hc hd p hp) _
      · exact Nat.add_pos_right _ (count_pos_iff.mpr hp)
  · rintro r l out q hP hadd
    rw [addExclusionRoute_excludedAddrSet,if_neg (by simp [hadd])]
    exact hP

/-- The events of one hop. -/
def OneHop (hop : HopType) : Event → Prop
  | .activate config _ => config.hopType = hop
  | _ => True

/-- Every server switch is even. -/
def EvenSwitches (s : Daemon) : Event → Prop
  | .activate config answers => ∀ current, s.connections config.hopType = some current →
      supportServerSwitching current.config config → SwitchEven s current config answers
  | _ => True

lemma even_step (hk : ∀ n, kernel n) (h : Even hop s) {e : Event} (hop1 : OneHop hop e)
    (hok : EvenSwitches s e) : Even hop (step kernel s e) := by
  cases e with
  | activate config answers =>
    cases hop1
    exact activate_induct kernel (fun hn => h.activateNew kernel hn answers)
      (fun current hc hs => h.switchServer kernel hk hc (hok current hc hs))
      fun _ _ _ => ⟨even_deactivate s,(even_deactivate s).activateNew kernel (by simp) answers⟩
  | deactivate => exact even_deactivate s
  | checkHandshake peers =>
    exact checkHandshake_induct kernel peers (fun s hop' c h hc => h.completeHandshake kernel hk hc) h
  | lookupFinished host generation addresses =>
    have hl : Even hop { s with lookups := s.lookups.erase (host,generation) } :=
      h.frame (h.wired.frame rfl rfl) rfl rfl rfl
    rw [lookupFinished_eq]
    exact hl.onSplitTunnelHostResolved kernel _
  | query host =>
    have hw := wired_step kernel h.wired (.query host)
    simp only [step] at hw ⊢
    split_ifs at hw ⊢
    · exact h.frame hw rfl rfl rfl
    · exact h
  | answered host ips =>
    rw [answered_eq]
    exact h.onSplitTunnelHostResolved kernel _
  | defaultRoutes ipv4 ipv6 =>
    exact h.frame (wired_step kernel h.wired (.defaultRoutes ipv4 ipv6)) rfl rfl rfl
  | tunnelFinished => exact h.frame (wired_step kernel h.wired .tunnelFinished) rfl rfl rfl

/-- In a run of one hop whose server switches are even, the prefixes held after a handshake
are those of the current configuration and the learned ones. -/
theorem excluded_prefixes_of_even_switches (hk : ∀ n, kernel n) (ks : KillSwitch)
    (hop : HopType) (events : List Event) (hhop : ∀ e ∈ events, OneHop hop e)
    (hok : Guarded (step kernel) EvenSwitches (initial ks) events) :
    Always (step kernel) (fun s => ∀ c, s.connections hop = some c → c.date →
      ∀ p, 0 < s.routes.excludedAddrSet p ↔
        p ∈ entries c.config.excludedAddresses ∨ p ∈ s.splitTunnelDnsRoutes)
      (initial ks) events := by
  intro pre hpre c hc hd p
  have hstep : ∀ s e, Even hop s → (OneHop hop e ∧ EvenSwitches s e) → Even hop (step kernel s e) :=
    fun s e h ho => even_step kernel hk h ho.1 ho.2
  have hg : Guarded (step kernel) (fun s e => OneHop hop e ∧ EvenSwitches s e) (initial ks) pre := by
    intro pre' e hp
    exact ⟨hhop e ((hp.trans hpre).subset (by simp)),hok pre' e (hp.trans hpre)⟩
  exact (run_invariant hstep (even_initial ks) hg).counted_iff hc hd p

/-- One server with changing lists of excluded addresses; the handshake follows each time. -/
def switchedLists (lists : List (List String)) : List Event :=
  lists.flatMap fun list =>
    [.activate (sampleConfig firstKey "203.0.113.7" .singleHop list) allDone,
      .checkHandshake [⟨firstKey,1⟩]]

omit [Qt] [QtNetwork] in
lemma switchedLists_oneHop (lists : List (List String)) :
    ∀ e ∈ switchedLists lists, OneHop .singleHop e := by
  intro e he
  simp only [switchedLists,mem_flatMap,mem_cons,not_mem_nil,or_false] at he
  obtain ⟨list,-,rfl | rfl⟩ := he
  · rfl
  · trivial

omit [Qt] [QtNetwork] in
/-- The first switch to a longer list is even, and the new list is excluded after it. -/
theorem first_switch_excludes_list :
    let s := run dottedStep (initial (.fresh false))
      (switchedLists [["203.0.113.7"],["203.0.113.7","198.51.100.7"]])
    0 < s.routes.excludedAddrSet ⟨.ipv4 0xc6336407,32⟩ ∧
      ¬0 < s.routes.excludedAddrSet ⟨.ipv4 0,32⟩ := by
  have hfirst : Guarded dottedStep (@EvenSwitches dottedQt dottedNetwork) (initial (.fresh false))
      (switchedLists [["203.0.113.7"]]) := by
    refine (guarded_cons _ _ _ _ _).mpr ⟨?_,(guarded_cons _ _ _ _ _).mpr ⟨trivial,guarded_nil _ _ _⟩⟩
    intro current hc
    simp [initial] at hc
  have hcur : (run dottedStep (initial (.fresh false)) (switchedLists [["203.0.113.7"]])).connections
      .singleHop = some ⟨sampleConfig firstKey "203.0.113.7" .singleHop ["203.0.113.7"],true⟩ := by
    decide +kernel
  have hlearned : (run dottedStep (initial (.fresh false))
      (switchedLists [["203.0.113.7"]])).splitTunnelDnsRoutes = [] := by
    decide +kernel
  have hcounts := @excluded_prefixes_of_even_switches dottedQt dottedNetwork (fun _ => true)
    (fun _ => rfl) (.fresh false) .singleHop (switchedLists [["203.0.113.7"]])
    (switchedLists_oneHop _) hfirst _ (prefix_refl _) _ hcur rfl
  have hboth : Guarded dottedStep (@EvenSwitches dottedQt dottedNetwork) (initial (.fresh false))
      (switchedLists [["203.0.113.7"]]++switchedLists [["203.0.113.7","198.51.100.7"]]) := by
    refine (guarded_append _ _ _ _ _).mpr ⟨hfirst,(guarded_cons _ _ _ _ _).mpr
      ⟨?_,(guarded_cons _ _ _ _ _).mpr ⟨trivial,guarded_nil _ _ _⟩⟩⟩
    intro current hc _
    obtain rfl := Option.some.inj (hcur.symm.trans hc)
    refine ⟨rfl,fun _ => rfl,fun p hp => ?_⟩
    have hnot : ¬(p ∈ @entries dottedQt dottedNetwork ["203.0.113.7"] ∨ p ∈ []) := by
      rintro (he | hl)
      · exact hp (mem_cons.mpr (Or.inl (mem_singleton.mp he)))
      · cases hl
    rw [← hlearned] at hnot
    exact (Nat.eq_zero_of_not_pos (mt (hcounts p).mp hnot)).le.trans (Nat.zero_le _)
  have hcur' : (run dottedStep (initial (.fresh false))
      (switchedLists [["203.0.113.7"],["203.0.113.7","198.51.100.7"]])).connections .singleHop =
      some ⟨sampleConfig firstKey "203.0.113.7" .singleHop ["203.0.113.7","198.51.100.7"],true⟩ := by
    decide +kernel
  have h := @excluded_prefixes_of_even_switches dottedQt dottedNetwork (fun _ => true) (fun _ => rfl)
    (.fresh false) .singleHop _
    (switchedLists_oneHop [["203.0.113.7"],["203.0.113.7","198.51.100.7"]]) hboth _
    (prefix_refl _) _ hcur' rfl
  exact ⟨(h _).mpr (by decide +kernel),fun hz => absurd ((h _).mp hz) (by decide +kernel)⟩

omit [Qt] [QtNetwork] in
/-- After two switches the prefix of the second list is still excluded: its count was raised by
the switch and by the handshake, and lowered once. -/
theorem second_switch_leaves_prefix :
    let s := run dottedStep (initial (.fresh false))
      (switchedLists [["203.0.113.7"],["203.0.113.7","198.51.100.7"],["203.0.113.7"]])
    s.connections .singleHop =
        some ⟨sampleConfig firstKey "203.0.113.7" .singleHop ["203.0.113.7"],true⟩ ∧
      s.splitTunnelDnsRoutes = [] ∧ s.routes.excludedAddrSet ⟨.ipv4 0xc6336407,32⟩ = 1 ∧
      @entries dottedQt dottedNetwork ["203.0.113.7"] = [⟨.ipv4 0xcb007107,32⟩] := by
  decide +kernel

end

section

variable [Qt] [QtNetwork] (kernel : ℕ → Bool) {s : Daemon} {q : IPAddress}

/-- A route that is not a learned one outlasts a poll. -/
lemma mem_exclusionRoutes_checkHandshake (hq : q ∈ s.routes.exclusionRoutes)
    (hl : q ∉ s.splitTunnelDnsRoutes) (peers : List PeerStatus) :
    q ∈ (s.checkHandshake kernel peers).routes.exclusionRoutes := by
  have hdone : ∀ (s : Daemon) (hop : HopType) (c : ConnectionState),
      (q ∈ s.routes.exclusionRoutes ∧ q ∉ s.splitTunnelDnsRoutes) → s.connections hop = some c →
      q ∈ (s.completeHandshake kernel hop c.config).routes.exclusionRoutes ∧
        q ∉ (s.completeHandshake kernel hop c.config).splitTunnelDnsRoutes := by
    rintro s hop c ⟨hq,hl⟩ -
    have hkept := mem_giveUpRoutes_of_mem s.routes s.splitTunnelDnsRoutes hq hl
    exact ⟨mem_addExclusionRoutes_of_mem kernel _ _ hkept,by
      simp [completeHandshake,refreshSplitTunnelDnsRoutes,refreshSplitTunnelStaticRoutes,
        configureSplitTunnelDnsRoutes,clearSplitTunnelDnsRoutes]⟩
  exact (checkHandshake_induct kernel peers hdone ⟨hq,hl⟩).1

lemma mem_switchedTo (hk : ∀ n, kernel n) (hm : s.routes.rtmonitor.isSome)
    {config : InterfaceConfig} (hq : q ∈ endpoints config) :
    q ∈ (s.switchedTo kernel config).exclusionRoutes := by
  have hm' : (s.routes.addExclusionRoutes kernel (entries config.excludedAddresses)).rtmonitor.isSome =
      true := (congrArg Prod.snd (addExclusionRoutes_tunnel kernel _ _)).trans hm
  exact mem_foldl_monitorAdd kernel _ (endpoints config) hk hm' (Or.inr hq)

/-- A route of the new peer is kept when the old one is given up, unless the old peer has the
same endpoint or the release of the old entries takes away its last holder. -/
lemma mem_switchedFrom (hk : ∀ n, kernel n) (hm : s.routes.rtmonitor.isSome)
    {lastConfig config : InterfaceConfig} (hq : q ∈ endpoints config)
    (hkey : config.serverPublicKey = lastConfig.serverPublicKey ∨ q ∉ endpoints lastConfig)
    (hrel : q ∈ releases lastConfig.excludedAddresses →
      (releases lastConfig.excludedAddresses).count q <
        s.routes.excludedAddrSet q+(entries config.excludedAddresses).count q) :
    q ∈ (s.switchedFrom kernel lastConfig config).exclusionRoutes := by
  have hset : (s.switchedTo kernel config).excludedAddrSet q =
      s.routes.excludedAddrSet q+(entries config.excludedAddresses).count q := by
    rw [switchedTo,updatePeer_excludedAddrSet,
      addExclusionRoutes_excludedAddrSet kernel _ _ hk hm,foldl_raise_apply]
  have hdel : q ∈ ((s.switchedTo kernel config).delExclusionRoutes
      (releases lastConfig.excludedAddresses)).exclusionRoutes := by
    rw [mem_delExclusionRoutes,hset]
    exact ⟨mem_switchedTo kernel hk hm hq,hrel⟩
  simp only [switchedFrom]
  split_ifs with hne
  · rw [mem_deletePeer]
    exact ⟨hdel,hkey.resolve_left hne⟩
  · exact hdel

end

end AlzheimerVPN.Daemon
