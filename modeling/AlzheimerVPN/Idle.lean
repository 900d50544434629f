import AlzheimerVPN.Leak

/-! The firewall while no connection is protected: the listed sites are blocked
outside strict mode, and strict mode blocks everything. -/
namespace AlzheimerVPN.KillSwitch

open MacOSFirewall IpText

/-- The calls that settings and connections make; the allow list is not among them. -/
def Call.OfService : Call → Prop
  | .init | .refresh _ | .disableKillSwitch | .setConnectionProtection _ _
  | .setAlwaysBlockedSites _ => True
  | _ => False

/-- The argument of the last accepted `setAlwaysBlockedSites`. -/
def lastBlockedSites (calls : List Call) : List String := Runs.run Call.sitesAfter [] calls

lemma Requested.not_ofService {s : KillSwitch} {call : Call} {items : List String}
    (h : Requested s call items) : ¬call.OfService := by
  cases h <;> exact id

/-- Nothing but the block of the listed sites is in force. -/
structure IdleRules (sites : List String) (fw : MacOSFirewall) : Prop where
  installed : fw.installed
  anchors : fw.OnlyOn [.allowLoopback,.blockNets,.allowVPN]
  table : fw.tables .blockNets .blocknets = sites

lemma idleRules_idle {fw : MacOSFirewall} (h : NoExtras fw) (sites : List String) :
    IdleRules sites (idleRules sites fw) := by
  refine ⟨idleRules_installed fw sites,?_,idleRules_tables fw sites⟩
  intro a
  have hx := h a
  rw [idleRules_enabled]
  cases a <;> simp_all [extraAnchors]

/-- What holds outside strict mode while no connection is protected. -/
structure Regime (s : KillSwitch) : Prop where
  extras : NoExtras s.firewall
  released : s.connectionProtection = false → s.strictKillSwitchEnabled = false →
    s.alwaysBlockedSites = [] → s.firewall.installed = false
  idle : s.connectionProtection = false → s.strictKillSwitchEnabled = false →
    s.alwaysBlockedSites ≠ [] → IdleRules s.alwaysBlockedSites s.firewall

lemma regime_fresh (strict : Bool) : Regime (fresh strict) := by
  refine ⟨noExtras_empty,fun _ _ _ => rfl,?_⟩
  intro hp hs hl
  exact absurd rfl hl

section

variable [Qt]

/-- A call of the service that ends outside strict mode without protection has changed
nothing or has released the kill switch. -/
lemma step_unprotected {s : KillSwitch} {call : Call} (hc : call.OfService)
    (hp : (s.step call).connectionProtection = false)
    (hs : (s.step call).strictKillSwitchEnabled = false) :
    s.step call = s ∨
      (s.step call).firewall = releasedRules false (s.step call).alwaysBlockedSites s.firewall := by
  cases step_outcome s call with
  | keep hk _ hr hf =>
    rcases hk with hk | hk | hk
    · exact Or.inl hk
    · simp [hp] at hk
    · simp [hs] at hk
  | release hg _ hr hf =>
    rw [hs] at hf
    exact Or.inr hf
  | lockdown hg _ hr hf =>
    rcases hg with rfl | rfl | ⟨rfl,hb⟩
    · exact hc.elim
    · cases hs
    · simp [step_strict,Call.strictAfter,hb] at hs
  | allow items hv hq _ hr hf => exact absurd hc hq.not_ofService
  | refuse items hv hq hn _ hr hf => exact absurd hc hq.not_ofService
  | connect c ha hg hr hf =>
    rcases hg with ⟨i,rfl,-⟩ | ⟨-,hg⟩
    · exact hc.elim
    · simp [hp] at hg

lemma step_regime (s : KillSwitch) (call : Call) (h : Regime s) (hc : call.OfService) :
    Regime (s.step call) := by
  refine ⟨step_noExtras s call h.extras,?_,?_⟩
  · intro hp hs hl
    rcases step_unprotected hc hp hs with he | hf
    · rw [he] at hp hs hl ⊢
      exact h.released hp hs hl
    · rw [hf,hl]
      rfl
  · intro hp hs hl
    rcases step_unprotected hc hp hs with he | hf
    · rw [he] at hp hs hl ⊢
      exact h.idle hp hs hl
    · have hi : (s.step call).firewall = idleRules (s.step call).alwaysBlockedSites s.firewall := by
        simpa [releasedRules,hl] using hf
      rw [hi]
      exact idleRules_idle h.extras _

/-- While no connection is protected and strict mode is off, exactly the packets to listed
sites are blocked that use neither loopback nor one of the tunnel interfaces; with no
site listed the firewall is uninstalled. -/
theorem idle_blocks_exactly_listed_sites (strict : Bool) (calls : List Call)
    (hcalls : ∀ call ∈ calls, call.OfService) :
    let s := (fresh strict).after calls
    s.alwaysBlockedSites = lastBlockedSites calls ∧
      (s.connectionProtection = false → s.strictKillSwitchEnabled = false →
        (s.alwaysBlockedSites = [] → s.firewall.isInstalled = false) ∧
        (s.alwaysBlockedSites ≠ [] → ∀ p, s.firewall.blocks p ↔
          Address.inTable s.alwaysBlockedSites p.destination ∧ p.interface ≠ .lo0 ∧
            ¬∃ n ≤ 30, p.interface = .utun n)) := by
  intro s
  have hsites : s.alwaysBlockedSites = lastBlockedSites calls :=
    Runs.run_view alwaysBlockedSites step_sites (fresh strict) calls
  have hreg : Regime s := Runs.run_invariant_of_forall step_regime (regime_fresh strict) hcalls
  refine ⟨hsites,?_⟩
  intro hp hs
  refine ⟨hreg.released hp hs,?_⟩
  intro hl p
  have hidle := hreg.idle hp hs hl
  rw [blocks_idle hidle.installed hidle.anchors,hidle.table,mem_utunInterfaces]
  tauto

end

def listedSite : String := "203.0.113.77"

/-- A packet to the listed site over the given interface. -/
def sitePacket (i : Interface) : Packet :=
  ⟨i,.tcp,50000,.v4 (Address.ofOctets 203 0 113 77),443,"staff"⟩

theorem idle_blocks_listed_site :
    let s := @after dottedQt (fresh false) [.setAlwaysBlockedSites [listedSite]]
    s.alwaysBlockedSites = [listedSite] ∧ s.firewall.blocks (sitePacket (.other "en0")) := by
  have h := @idle_blocks_exactly_listed_sites dottedQt false
    [.setAlwaysBlockedSites [listedSite]] (by simp [Call.OfService])
  have hp := (h.2 (by decide) (by decide)).2 (by decide) (sitePacket (.other "en0"))
  exact ⟨by decide,hp.mpr ⟨by decide,by decide,by simp [sitePacket]⟩⟩

/-- The rule file of `200.allowVPN` ends at `utun30`: a tunnel beyond it is blocked. -/
theorem idle_blocks_late_tunnel :
    let s := @after dottedQt (fresh false) [.setAlwaysBlockedSites [listedSite]]
    s.connectionProtection = false ∧ s.strictKillSwitchEnabled = false ∧
      s.alwaysBlockedSites = [listedSite] ∧ s.firewall.blocks (sitePacket (.utun 31)) := by
  decide

/-- The anchors of the lockdown. -/
def lockdownAnchors : List Anchor := [.allowLoopback,.blockAll,.blockIPv6]

section

variable {fw : MacOSFirewall}

lemma strictRules_onlyOn (h : NoExtras fw) : (strictRules fw).OnlyOn lockdownAnchors := by
  intro a
  have hx := h a
  rw [strictRules_enabled]
  cases a <;> simp_all [extraAnchors,lockdownAnchors]

lemma allTrafficRules_onlyOn_of_uninstalled (hi : fw.installed = false) :
    (allTrafficRules fw).OnlyOn lockdownAnchors := by
  intro a
  rw [allTrafficRules_enabled]
  cases a <;> simp [hi,lockdownAnchors]

lemma allTrafficRules_onlyOn_of_idle {sites : List String} (h : IdleRules sites fw) :
    (allTrafficRules fw).OnlyOn (.allowLoopback::mixedAnchors) := by
  intro a
  have ho := h.anchors a
  have hi := h.installed
  rw [allTrafficRules_enabled]
  cases a <;> simp_all [mixedAnchors]

/-- A lockdown under way is not changed by another one. -/
lemma allTrafficRules_onlyOn {on : List Anchor} (hi : fw.installed) (h : fw.OnlyOn on)
    (hsub : ∀ a ∈ lockdownAnchors, a ∈ on) : (allTrafficRules fw).OnlyOn on := by
  intro a
  have ho := h a
  have hs := hsub a
  rw [allTrafficRules_enabled]
  cases a <;> simp_all [lockdownAnchors]

end

/-- Strict mode without a protected connection lets nothing out. -/
def StrictBlocks (s : KillSwitch) : Prop :=
  s.strictKillSwitchEnabled → s.connectionProtection = false →
    ∀ p : Packet, p.interface ≠ .lo0 → s.firewall.blocks p

/-- Strict mode is not switched on over the block of the listed sites. -/
def EntersClean (s : KillSwitch) (call : Call) : Prop :=
  call = .refresh true → s.connectionProtection ∨ s.strictKillSwitchEnabled ∨
    s.alwaysBlockedSites = []

/-- What holds in strict mode, however it was entered. -/
structure StrictRegime (s : KillSwitch) : Prop where
  installed : s.strictKillSwitchEnabled → s.firewall.installed
  locked : s.strictKillSwitchEnabled → s.connectionProtection = false →
    s.firewall.OnlyOn lockdownAnchors ∨ s.firewall.OnlyOn (.allowLoopback::mixedAnchors)

/-- In strict mode everything is blocked exactly when the lockdown is all there is. -/
lemma strictBlocks_iff {s : KillSwitch} (h : StrictRegime s) :
    StrictBlocks s ↔ (s.strictKillSwitchEnabled → s.connectionProtection = false →
      s.firewall.OnlyOn lockdownAnchors) := by
  constructor
  · intro hb hs hp
    rcases h.locked hs hp with ho | ho
    · exact ho
    · have hn := not_blocks_mixed (h.installed hs) ho (p := sitePacket (.utun 0)) rfl (by decide)
      exact absurd (hb hs hp _ (by simp [sitePacket])) hn
  · intro ho hs hp p hl
    exact (blocks_lockdown (h.installed hs) (ho hs hp) p).mpr hl

section

variable [Qt]

/-- What a call does that ends in strict mode without having switched it on. -/
lemma step_in_strict {s : KillSwitch} {call : Call} (hc : call.OfService)
    (hs : (s.step call).strictKillSwitchEnabled) (hne : call ≠ .refresh true) :
    s.strictKillSwitchEnabled ∧ ((s.step call).firewall = strictRules s.firewall ∨
        ((s.step call).connectionProtection = s.connectionProtection ∧
          ((s.step call).firewall = s.firewall ∨
            (s.step call).firewall = allTrafficRules s.firewall)) ∨
        (s.step call).connectionProtection ∧ (s.step call).firewall.installed) := by
  have hbefore : s.strictKillSwitchEnabled := by
    rw [step_strict] at hs
    cases call with
    | refresh enabled =>
      have he : enabled := hs
      exact absurd (by rw [he]) hne
    | _ => exact hs
  refine ⟨hbefore,?_⟩
  cases step_outcome s call with
  | keep hk hp hr hf => exact Or.inr (Or.inl ⟨hp,Or.inl hf⟩)
  | release hg hp hr hf =>
    left
    rw [hf,hs]
    rfl
  | lockdown hg hp hr hf => exact Or.inr (Or.inl ⟨hp,Or.inr hf⟩)
  | allow items hv hq hp hr hf => exact absurd hc hq.not_ofService
  | refuse items hv hq hn hp hr hf => exact absurd hc hq.not_ofService
  | connect c ha hg hr hf =>
    rcases hg with ⟨i,rfl,-⟩ | ⟨-,hp⟩
    · exact hc.elim
    · refine Or.inr (Or.inr ⟨hp,?_⟩)
      rw [hf,connectionRules_installed]

lemma step_strictRegime {s : KillSwitch} {call : Call} (hc : call.OfService) (hreg : Regime s)
    (h : StrictRegime s) : StrictRegime (s.step call) := by
  by_cases hne : call = .refresh true
  · subst hne
    have hf : (s.step (.refresh true)).firewall = allTrafficRules s.firewall := rfl
    have hp : (s.step (.refresh true)).connectionProtection = s.connectionProtection := rfl
    refine ⟨fun _ => by rw [hf,allTrafficRules_installed],?_⟩
    intro _ hun
    rw [hp] at hun
    rw [hf]
    cases hs : s.strictKillSwitchEnabled with
    | true =>
      rcases h.locked hs hun with ho | ho
      · exact Or.inl (allTrafficRules_onlyOn (h.installed hs) ho (fun _ => id))
      · exact Or.inr (allTrafficRules_onlyOn (h.installed hs) ho (by decide))
    | false =>
      by_cases hl : s.alwaysBlockedSites = []
      · exact Or.inl (allTrafficRules_onlyOn_of_uninstalled (hreg.released hun hs hl))
      · exact Or.inr (allTrafficRules_onlyOn_of_idle (hreg.idle hun hs hl))
  · constructor
    · intro hs
      obtain ⟨hb,hf | ⟨-,hf | hf⟩ | ⟨-,hi⟩⟩ := step_in_strict hc hs hne
      · rw [hf,strictRules_installed,h.installed hb]
      · rw [hf,h.installed hb]
      · rw [hf,allTrafficRules_installed]
      · exact hi
    · intro hs hun
      obtain ⟨hb,hf | ⟨hp,hf | hf⟩ | ⟨hp,-⟩⟩ := step_in_strict hc hs hne
      · rw [hf]
        exact Or.inl (strictRules_onlyOn hreg.extras)
      · rw [hf]
        exact h.locked hb (hp.symm.trans hun)
      · rw [hf]
        rcases h.locked hb (hp.symm.trans hun) with ho | ho
        · exact Or.inl (allTrafficRules_onlyOn (h.installed hb) ho (fun _ => id))
        · exact Or.inr (allTrafficRules_onlyOn (h.installed hb) ho (by decide))
      · simp [hun] at hp

/-- A step keeps strict mode tight exactly when it does not enter it over the block of the
listed sites. -/
lemma step_strictBlocks_iff {s : KillSwitch} {call : Call} (hc : call.OfService)
    (hreg : Regime s) (h : StrictRegime s) (hb : StrictBlocks s) :
    StrictBlocks (s.step call) ↔ EntersClean s call := by
  rw [strictBlocks_iff h] at hb
  rw [strictBlocks_iff (step_strictRegime hc hreg h)]
  by_cases hne : call = .refresh true
  · subst hne
    have hf : (s.step (.refresh true)).firewall = allTrafficRules s.firewall := rfl
    have hp : (s.step (.refresh true)).connectionProtection = s.connectionProtection := rfl
    have hs : (s.step (.refresh true)).strictKillSwitchEnabled := rfl
    simp only [hf,hp,hs,EntersClean,forall_const]
    constructor
    · intro ho
      by_contra hn
      simp only [not_or,Bool.not_eq_true] at hn
      obtain ⟨hun,hst,hl⟩ := hn
      have hmix := allTrafficRules_onlyOn_of_idle (hreg.idle hun hst hl) .blockNets
      rw [ho hun .blockNets] at hmix
      exact absurd hmix (by decide)
    · intro hclean hun
      rcases hclean with hx | hst | hl
      · simp [hun] at hx
      · exact allTrafficRules_onlyOn (h.installed hst) (hb hst hun) (fun _ => id)
      · cases hst : s.strictKillSwitchEnabled with
        | true => exact allTrafficRules_onlyOn (h.installed hst) (hb hst hun) (fun _ => id)
        | false => exact allTrafficRules_onlyOn_of_uninstalled (hreg.released hun hst hl)
  · have hok : EntersClean s call := fun he => absurd he hne
    simp only [hok,iff_true]
    intro hs hun
    obtain ⟨hst,hf | ⟨hp,hf | hf⟩ | ⟨hp,-⟩⟩ := step_in_strict hc hs hne
    · rw [hf]
      exact strictRules_onlyOn hreg.extras
    · rw [hf]
      exact hb hst (hp.symm.trans hun)
    · rw [hf]
      exact allTrafficRules_onlyOn (h.installed hst) (hb hst (hp.symm.trans hun)) (fun _ => id)
    · simp [hun] at hp

lemma locked_init {strict : Bool} (hs : ((fresh strict).step .init).strictKillSwitchEnabled) :
    ((fresh strict).step .init).firewall.installed ∧
      ((fresh strict).step .init).firewall.OnlyOn lockdownAnchors := by
  cases strict with
  | false => cases hs
  | true =>
    have hf : ((fresh true).step .init).firewall = allTrafficRules .empty := rfl
    rw [hf]
    exact ⟨allTrafficRules_installed _,allTrafficRules_onlyOn_of_uninstalled rfl⟩

lemma strictRegime_init (strict : Bool) : StrictRegime ((fresh strict).step .init) :=
  ⟨fun hs => (locked_init hs).1,fun hs _ => Or.inl (locked_init hs).2⟩

lemma strictBlocks_init (strict : Bool) : StrictBlocks ((fresh strict).step .init) := by
  rw [strictBlocks_iff (strictRegime_init strict)]
  intro hs _
  exact (locked_init hs).2

/-- The service begins with `init`, which opens the settings. From there on strict mode
blocks everything in every state without a protected connection exactly in those runs
that never switch it on over the block of the listed sites. -/
theorem strict_mode_always_blocks_iff (strict : Bool) (calls : List Call)
    (hcalls : ∀ call ∈ calls, call.OfService) :
    Runs.Always step StrictBlocks ((fresh strict).step .init) calls ↔
      Runs.Guarded step EntersClean ((fresh strict).step .init) calls := by
  have hreg : Regime ((fresh strict).step .init) := step_regime _ _ (regime_fresh strict) trivial
  apply Runs.always_iff_guarded (W := fun s => Regime s ∧ StrictRegime s) (D := Call.OfService)
  · intro s call hc hw
    exact ⟨step_regime s call hw.1 hc,step_strictRegime hc hw.1 hw.2⟩
  · intro s call hc hw hb
    exact step_strictBlocks_iff hc hw.1 hw.2 hb
  · exact ⟨hreg,strictRegime_init strict⟩
  · exact strictBlocks_init strict
  · exact hcalls

end

theorem strict_mode_blocks_after_disconnect :
    Runs.Always (@step dottedQt) StrictBlocks (@step dottedQt (fresh false) .init)
      [.setAlwaysBlockedSites [listedSite],.setConnectionProtection true tunnelConfig,
       .refresh true,.setConnectionProtection false []] := by
  apply (@strict_mode_always_blocks_iff dottedQt false _ ?_).mpr
  · simp only [Runs.guarded_cons,Runs.guarded_nil,EntersClean,reduceCtorEq,false_implies,
      true_and,and_true,forall_const]
    decide
  · simp [Call.OfService]

/-- Strict mode switched on over the block of the listed sites leaves the tunnels open. -/
theorem strict_mode_over_listed_sites_passes_tunnel :
    let s := @after dottedQt (@step dottedQt (fresh false) .init)
      [.setAlwaysBlockedSites [listedSite],.refresh true]
    s.strictKillSwitchEnabled ∧ s.connectionProtection = false ∧
      ¬s.firewall.blocks (sitePacket (.utun 0)) := by
  decide

end AlzheimerVPN.KillSwitch
