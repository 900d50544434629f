import AlzheimerVPN.DaemonSteps

/-! The holes that the daemon opens in the kill switch for the hosts of the split
tunnel, over whole runs. The history of a run says which addresses were allowed
because a host resolved to them, and what the last configuration excludes. -/
namespace AlzheimerVPN.Daemon

open Runs IpText IPAddress List

section

variable (s : Daemon)

/-- A deactivation switches the kill switch off. -/
def Releases : Prop :=
  s.routes.tunnelRunning ∧ s.killSwitch.connectionProtection = false

lemma mem_deactivate_allowedRanges {ip : String}
    (h : ip ∈ s.deactivate.1.killSwitch.allowedRanges) :
    ip ∈ s.killSwitch.allowedRanges ∧ ¬s.Releases := by
  have hrun : (s.routes.giveUpRoutes s.splitTunnelDnsRoutes).tunnelRunning = s.routes.tunnelRunning :=
    congrArg Prod.fst (Routes.giveUpRoutes_tunnel _ _)
  simp only [deactivate,deleteInterface,clearSplitTunnelDnsRoutes,hrun] at h
  split_ifs at h with hr
  · rw [KillSwitch.disableKillSwitch_allowedRanges] at h
    split_ifs at h with hp
    · exact ⟨h,fun hrel => by simp [hrel.2] at hp⟩
    · simp at h
  · exact ⟨h,fun hrel => hr hrel.1⟩

variable [Qt] [QtNetwork] (kernel : ℕ → Bool)

/-- The list of a connection replaces the allowed addresses or leaves them alone. -/
lemma mem_activateNew_allowedRanges {config : InterfaceConfig} {answers : Answers} {ip : String}
    (h : ip ∈ (s.activateNew kernel config answers).1.killSwitch.allowedRanges) :
    ip ∈ s.killSwitch.allowedRanges ∨ ip ∈ config.excludedAddresses := by
  have hup : (s.activateNew kernel config answers).1.killSwitch =
      (s.ensureInterface config answers).1.killSwitch := by
    simp only [activateNew]
    split_ifs <;> rfl
  rw [hup] at h
  simp only [ensureInterface,addInterface] at h
  split_ifs at h
  · exact Or.inl h
  · exact Or.inl h
  · cases hc : answers.configured with
    | false => exact Or.inl (by simpa [WireguardUtilsMacos.addInterface,hc] using h)
    | true =>
      rw [hc,WireguardUtilsMacos.addInterface_configured] at h
      split_ifs at h
      · rw [WireguardUtilsMacos.setRules_allowedRanges] at h
        split_ifs at h
        · refine Or.inr ?_
          simp only [WireguardUtilsMacos.firewallParams] at h
          split_ifs at h
          · exact h
          · simp at h
        · exact Or.inl h
      · exact Or.inl h

end

section

variable [Qt] [QtNetwork] (kernel : ℕ → Bool)

/-- The daemon with what its history says of the allow list. -/
structure Traced where
  daemon : Daemon
  /-- The addresses allowed because a host resolved to them. -/
  opened : List String
  /-- The addresses that the last configuration excludes. -/
  configured : List String

/-- The addresses that an event adds to the allow list because a host resolved to them. -/
def opens (s : Daemon) (e : Event) : List String :=
  let routed := (s.learnAll kernel (s.resolved e)).2.2
  if s.splitTunnelDnsKillSwitchEnabled && routed.all isValidIpOrCidr then routed else []

namespace Traced

def start (ks : KillSwitch) : Traced := ⟨initial ks,[],[]⟩

def next (t : Traced) (e : Event) : Traced where
  daemon := step kernel t.daemon e
  opened := t.opened++opens kernel t.daemon e
  configured :=
    match e with
    | .activate config _ => config.excludedAddresses
    | _ => t.configured

/-- An address is still allowed after a host resolved to it. -/
def Open (t : Traced) (ip : String) : Prop :=
  ip ∈ t.opened ∧ ip ∈ t.daemon.killSwitch.allowedRanges

end Traced

/-- An address that a list excludes, as a text or as a prefix. -/
def Excludes (addresses : List String) (ip : String) : Prop :=
  ip ∈ addresses ∨ ofText ip ∈ entries addresses

/-- Every hole is a learned route or excluded by the configuration. -/
def Traced.Accounted (t : Traced) : Prop :=
  ∀ ip, t.Open ip → ofText ip ∈ t.daemon.splitTunnelDnsRoutes ∨ Excludes t.configured ip

/-- A poll finds a handshake that a connection waits for. -/
def Completes (s : Daemon) (peers : List PeerStatus) : Prop :=
  ∃ hop c, s.connections hop = some c ∧ c.date = false ∧ ∃ status ∈ peers,
    peerKeysMatch c.config.serverPublicKey status.pubkey ∧ status.handshake ≠ 0

/-- What a step that replaces the configuration or drops the learned routes must find: every
hole is excluded by the configuration in force after it, or stays a learned
route in a step that keeps those, or is closed with the kill switch. -/
def Traced.Accountable (t : Traced) : Event → Prop
  | .activate config _ => ∀ ip, t.Open ip → Excludes config.excludedAddresses ip ∨
      match t.daemon.connections config.hopType with
      | none => ofText ip ∈ t.daemon.splitTunnelDnsRoutes
      | some current =>
        if supportServerSwitching current.config config then
          ofText ip ∈ t.daemon.splitTunnelDnsRoutes
        else t.daemon.Releases
  | .deactivate => ∀ ip, t.Open ip → Excludes t.configured ip ∨ t.daemon.Releases
  | .checkHandshake peers => Completes t.daemon peers → ∀ ip, t.Open ip → Excludes t.configured ip
  | _ => True

/-- The learned prefixes only grow while a host is resolved, and hold every routed address. -/
lemma learnAll_learned (s : Daemon) (ips : List String) :
    (∀ p ∈ s.splitTunnelDnsRoutes, p ∈ (s.learnAll kernel ips).2.1) ∧
      ∀ ip ∈ (s.learnAll kernel ips).2.2, ofText ip ∈ (s.learnAll kernel ips).2.1 := by
  refine learnAll_induct kernel s (P := fun _ l out =>
    (∀ p ∈ s.splitTunnelDnsRoutes, p ∈ l) ∧ ∀ ip ∈ out, ofText ip ∈ l) ips
    ⟨fun _ h => h,by simp⟩ ?_ (fun _ _ _ _ h _ => h)
  rintro r l out ip ⟨hl,hout⟩ -
  refine ⟨fun p hp => mem_append_left _ (hl p hp),fun ip' hip => ?_⟩
  rcases mem_append.mp hip with hip | hip
  · exact mem_append_left _ (hout ip' hip)
  · rw [mem_singleton.mp hip]
    exact mem_append_right _ (by simp)

/-- The addresses allowed after a host is resolved. -/
lemma mem_resolved_allowedRanges (s : Daemon) (ips : List String) {ip : String}
    (h : ip ∈ (s.onSplitTunnelHostResolved kernel ips).killSwitch.allowedRanges) :
    ip ∈ s.killSwitch.allowedRanges ∨ ip ∈ (s.learnAll kernel ips).2.2 := by
  simp only [onSplitTunnelHostResolved] at h
  split_ifs at h
  · rw [KillSwitch.addAllowedRange_allowedRanges] at h
    split_ifs at h
    · exact ((KillSwitch.mem_appendRanges _ _ _).mp h).imp id And.left
    · exact Or.inl h
  · exact Or.inl h

variable {t : Traced} {s : Daemon}

/-- Resolved addresses are accounted for by the learned routes. -/
lemma Traced.Accounted.resolved (h : t.Accounted) {ips : List String}
    (hks : s.killSwitch = t.daemon.killSwitch)
    (hl : s.splitTunnelDnsRoutes = t.daemon.splitTunnelDnsRoutes) {opened : List String}
    (hopened : ∀ ip ∈ opened, ip ∈ (s.learnAll kernel ips).2.2) :
    Traced.Accounted ⟨s.onSplitTunnelHostResolved kernel ips,t.opened++opened,t.configured⟩ := by
  obtain ⟨hgrow,hrouted⟩ := learnAll_learned kernel s ips
  rintro ip ⟨ho,ha⟩
  rcases mem_resolved_allowedRanges kernel s ips ha with ha | ha
  · rcases mem_append.mp ho with ho | ho
    · rw [hks] at ha
      exact (h ip ⟨ho,ha⟩).imp (fun hm => hgrow _ (hl ▸ hm)) id
    · exact Or.inl (hrouted ip (hopened ip ho))
  · exact Or.inl (hrouted ip ha)

variable {e : Event}

lemma mem_routed_of_mem_opens :
    ∀ ip ∈ opens kernel s e, ip ∈ (s.learnAll kernel (s.resolved e)).2.2 := by
  intro ip hip
  simp only [opens] at hip
  split_ifs at hip
  · exact hip
  · cases hip

/-- Nothing is opened but for a resolved host. -/
lemma opens_of_resolved_nil (h : s.resolved e = []) : opens kernel s e = [] := by
  simp [opens,h,learnAll]

@[simp] lemma checkHandshake_killSwitch (s : Daemon) (peers : List PeerStatus) :
    (s.checkHandshake kernel peers).killSwitch = s.killSwitch :=
  checkHandshake_induct kernel peers (P := fun s' => s'.killSwitch = s.killSwitch)
    (fun _ _ _ h _ => h) rfl

/-- A poll without a handshake changes nothing. -/
lemma checkHandshake_of_not_completes {peers : List PeerStatus} (h : ¬Completes s peers) :
    s.checkHandshake kernel peers = s := by
  have hfold : ∀ (ready : PeerStatus → Bool) (done : Daemon → Daemon) (peers : List PeerStatus),
      (∀ status ∈ peers, ready status = false) →
      peers.foldl (fun s status => if ready status then done s else s) s = s := by
    intro ready done peers
    induction peers with
    | nil => exact fun _ => rfl
    | cons status peers ih =>
      intro hready
      rw [foldl_cons,hready status (by simp)]
      exact ih fun status' hs => hready status' (mem_cons_of_mem _ hs)
  have hpoll : ∀ hop, pollConnection kernel peers s hop = s := by
    intro hop
    simp only [pollConnection]
    split
    · rfl
    · rename_i c hc
      split_ifs with hd
      · rfl
      · refine hfold (fun status => peerKeysMatch c.config.serverPublicKey status.pubkey &&
          status.handshake ≠ 0) (fun s => s.completeHandshake kernel hop c.config) peers ?_
        intro status hs
        by_contra hn
        rw [Bool.not_eq_false,Bool.and_eq_true,decide_eq_true_eq] at hn
        exact h ⟨hop,c,hc,by simpa using hd,status,hs,hn⟩
  simp [checkHandshake,hpoll]

lemma Traced.next_opened (hr : t.daemon.resolved e = []) :
    (t.next kernel e).opened = t.opened := by
  simp [Traced.next,opens_of_resolved_nil kernel hr]

/-- A step that resolves no host has only to account for the holes that stay. -/
lemma Traced.accounted_next (hr : t.daemon.resolved e = [])
    (h : ∀ ip, ip ∈ t.opened → ip ∈ (step kernel t.daemon e).killSwitch.allowedRanges →
      ofText ip ∈ (step kernel t.daemon e).splitTunnelDnsRoutes ∨
        Excludes (t.next kernel e).configured ip) :
    (t.next kernel e).Accounted := by
  rintro ip ⟨ho,ha⟩
  rw [Traced.next_opened kernel hr] at ho
  exact h ip ho ha

/-- An activation closes the holes or keeps them accounted for. -/
lemma Traced.accounted_activate {config : InterfaceConfig} {answers : Answers}
    (hok : t.Accountable (.activate config answers)) :
    (t.next kernel (.activate config answers)).Accounted := by
  refine Traced.accounted_next kernel rfl fun ip ho => ?_
  refine activate_induct (P := fun u => ip ∈ u.killSwitch.allowedRanges →
    ofText ip ∈ u.splitTunnelDnsRoutes ∨ Excludes config.excludedAddresses ip) kernel
    (fun hn ha => ?_) (fun current hc hs ha => ?_) fun current hc hs => ?_
  · have hlearned : (t.daemon.activateNew kernel config answers).1.splitTunnelDnsRoutes =
        t.daemon.splitTunnelDnsRoutes := by
      simp only [activateNew,ensureInterface,addInterface]
      split_ifs <;> rfl
    rw [hlearned]
    rcases mem_activateNew_allowedRanges t.daemon kernel ha with ha | ha
    · have hip := hok ip ⟨ho,ha⟩
      simp only [hn] at hip
      exact hip.symm
    · exact Or.inr (Or.inl ha)
  · have hkept : (t.daemon.switchServer kernel current.config config answers).1.killSwitch =
          t.daemon.killSwitch ∧
        (t.daemon.switchServer kernel current.config config answers).1.splitTunnelDnsRoutes =
          t.daemon.splitTunnelDnsRoutes := by
      simp only [switchServer]
      split_ifs <;> exact ⟨rfl,rfl⟩
    rw [hkept.1] at ha
    rw [hkept.2]
    have hip := hok ip ⟨ho,ha⟩
    simp only [hc,hs,if_true] at hip
    exact hip.symm
  · have hip : ip ∈ t.daemon.deactivate.1.killSwitch.allowedRanges →
        Excludes config.excludedAddresses ip := by
      intro hd
      obtain ⟨hallowed,hnot⟩ := mem_deactivate_allowedRanges t.daemon hd
      have hip := hok ip ⟨ho,hallowed⟩
      simp only [hc,hs,Bool.false_eq_true,if_false] at hip
      exact hip.resolve_right hnot
    refine ⟨fun ha => Or.inr (hip ha),fun ha => ?_⟩
    rcases mem_activateNew_allowedRanges _ kernel ha with ha | ha
    · exact Or.inr (hip ha)
    · exact Or.inr (Or.inl ha)

lemma Traced.Accounted.next (h : t.Accounted) (hok : t.Accountable e) :
    (t.next kernel e).Accounted := by
  cases e with
  | activate config answers => exact Traced.accounted_activate kernel hok
  | deactivate =>
    refine Traced.accounted_next kernel rfl fun ip ho ha => ?_
    obtain ⟨hallowed,hnot⟩ := mem_deactivate_allowedRanges t.daemon ha
    exact Or.inr ((hok ip ⟨ho,hallowed⟩).resolve_right hnot)
  | checkHandshake peers =>
    refine Traced.accounted_next kernel rfl fun ip ho ha => ?_
    rw [step] at ha ⊢
    by_cases hc : Completes t.daemon peers
    · exact Or.inr (hok hc ip ⟨ho,by simpa using ha⟩)
    · rw [checkHandshake_of_not_completes kernel hc] at ha ⊢
      exact h ip ⟨ho,ha⟩
  | lookupFinished host generation addresses =>
    simp only [Traced.next,lookupFinished_eq]
    exact h.resolved kernel rfl rfl (mem_routed_of_mem_opens kernel)
  | query host =>
    refine Traced.accounted_next kernel rfl fun ip ho ha => ?_
    simp only [step] at ha ⊢
    split_ifs at ha ⊢ <;> exact h ip ⟨ho,ha⟩
  | answered host ips =>
    simp only [Traced.next,answered_eq]
    exact h.resolved kernel rfl rfl (mem_routed_of_mem_opens kernel)
  | defaultRoutes ipv4 ipv6 =>
    exact Traced.accounted_next kernel rfl fun ip ho ha => h ip ⟨ho,ha⟩
  | tunnelFinished => exact Traced.accounted_next kernel rfl fun ip ho ha => h ip ⟨ho,ha⟩

/-- In a run whose steps find every hole accountable, an address that was allowed because a host
resolved to it stays allowed only as a learned route or excluded by the
configuration. -/
theorem holes_accounted_of_accountable (ks : KillSwitch) (events : List Event)
    (hok : Guarded (Traced.next kernel) Traced.Accountable (Traced.start ks) events) :
    Always (Traced.next kernel) Traced.Accounted (Traced.start ks) events := by
  intro pre hpre
  have hstep : ∀ (t : Traced) (e : Event), t.Accounted → t.Accountable e →
      (t.next kernel e).Accounted := fun t e h ho => h.next kernel ho
  have hg : Guarded (Traced.next kernel) Traced.Accountable (Traced.start ks) pre :=
    fun pre' e hp => hok pre' e (hp.trans hpre)
  exact run_invariant hstep (fun ip h => absurd h.1 (by simp [Traced.start])) hg

end

/-- A host is resolved, then the server is switched to a list without rules for hosts. -/
def resolvedThenSwitched (list : List String) : List Event :=
  [.activate { sampleConfig firstKey "203.0.113.7" .singleHop ["203.0.113.7"] with
      splitTunnelDnsRules := ["a.ru"] } allDone,
    .checkHandshake [⟨firstKey,1⟩],
    .lookupFinished "a.ru" 1 [.ipv4 0xc6336407],
    .activate (sampleConfig firstKey "203.0.113.7" .singleHop list) allDone,
    .checkHandshake [⟨firstKey,1⟩]]

def dottedNext : Traced → Event → Traced := @Traced.next dottedQt dottedNetwork fun _ => true

/-- The new list excludes the resolved address, which stays allowed. -/
theorem listed_hole_accounted :
    let t := run dottedNext (.start (.fresh false))
      (resolvedThenSwitched ["203.0.113.7","198.51.100.7"])
    t.Open "198.51.100.7" ∧ @Excludes dottedQt dottedNetwork t.configured "198.51.100.7" := by
  have hnil : ∀ (t : Traced) (P : String → Prop), t.opened = [] → ∀ ip, t.Open ip → P ip := by
    intro t P hopened ip hip
    have hmem := hip.1
    rw [hopened] at hmem
    cases hmem
  have hone : ∀ (t : Traced) (P : String → Prop), t.opened = ["198.51.100.7"] →
      P "198.51.100.7" → ∀ ip, t.Open ip → P ip := by
    intro t P hopened hP ip hip
    have hmem := hip.1
    rw [hopened,mem_singleton] at hmem
    rw [hmem]
    exact hP
  have hkeep : ∀ (t : Traced) (e : Event), @resolved dottedQt t.daemon e = [] →
      (dottedNext t e).opened = t.opened :=
    fun t e hr => @Traced.next_opened dottedQt dottedNetwork (fun _ => true) t e hr
  have hresolved : (run dottedNext (.start (.fresh false)) ((resolvedThenSwitched
      ["203.0.113.7","198.51.100.7"]).take 3)).opened = ["198.51.100.7"] := by
    decide +kernel
  have hswitched := (hkeep _ (.activate (sampleConfig firstKey "203.0.113.7" .singleHop
    ["203.0.113.7","198.51.100.7"]) allDone) rfl).trans hresolved
  have hlast := (hkeep _ (.checkHandshake [⟨firstKey,1⟩]) rfl).trans hswitched
  have hok : Guarded dottedNext (@Traced.Accountable dottedQt dottedNetwork) (.start (.fresh false))
      (resolvedThenSwitched ["203.0.113.7","198.51.100.7"]) := by
    refine (guarded_cons _ _ _ _ _).mpr ⟨hnil _ _ rfl,(guarded_cons _ _ _ _ _).mpr
      ⟨fun _ => hnil _ _ (hkeep _ _ rfl),(guarded_cons _ _ _ _ _).mpr ⟨trivial,
        (guarded_cons _ _ _ _ _).mpr ⟨hone _ _ hresolved (Or.inl (Or.inl (by decide))),
          (guarded_cons _ _ _ _ _).mpr
            ⟨fun _ => hone _ _ hswitched (Or.inl (by decide)),guarded_nil _ _ _⟩⟩⟩⟩⟩
  have hend :
      let t := run dottedNext (.start (.fresh false))
        (resolvedThenSwitched ["203.0.113.7","198.51.100.7"])
      "198.51.100.7" ∈ t.daemon.killSwitch.allowedRanges ∧ t.daemon.splitTunnelDnsRoutes = [] := by
    decide +kernel
  have hopen : (run dottedNext (.start (.fresh false))
      (resolvedThenSwitched ["203.0.113.7","198.51.100.7"])).Open "198.51.100.7" :=
    ⟨hlast ▸ mem_singleton_self _,hend.1⟩
  have h := @holes_accounted_of_accountable dottedQt dottedNetwork (fun _ => true) (.fresh false) _
    hok _ (prefix_refl _) _ hopen
  refine ⟨hopen,h.resolve_left fun hl => ?_⟩
  have hl' := hend.2 ▸ hl
  cases hl'

/-- The learned route is gone and nothing excludes the address, which stays allowed. -/
theorem cleared_hole_stays_open :
    ¬@Traced.Accounted dottedQt dottedNetwork (run dottedNext (.start (.fresh false))
      (resolvedThenSwitched ["203.0.113.7"])) := by
  have hend :
      let t := run dottedNext (.start (.fresh false)) (resolvedThenSwitched ["203.0.113.7"])
      ("198.51.100.7" ∈ t.opened ∧ "198.51.100.7" ∈ t.daemon.killSwitch.allowedRanges) ∧
        ¬(@IPAddress.ofText dottedQt dottedNetwork "198.51.100.7" ∈ t.daemon.splitTunnelDnsRoutes ∨
          "198.51.100.7" ∈ t.configured ∨ @IPAddress.ofText dottedQt dottedNetwork "198.51.100.7" ∈
            @entries dottedQt dottedNetwork t.configured) := by
    decide +kernel
  exact fun h => hend.2 (h _ hend.1)

end AlzheimerVPN.Daemon
