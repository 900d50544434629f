import AlzheimerVPN.Protection

/-! The allow list is kept twice, as `allowedRanges` and as the table of
`110.allowNets`. The two agree in exactly those runs in which no lockdown meets
an allow list in use. Strict mode switched on and off again is such a lockdown: the
release that follows leaves a protected connection alone. -/
namespace AlzheimerVPN.KillSwitch

open IpText

/-- The table of `110.allowNets`. -/
def allowTable (s : KillSwitch) : List String := s.firewall.tables .allowNets .allownets

/-- The firewall holds the recorded list, and an addition takes nothing away from it. -/
structure Linked (s : KillSwitch) : Prop where
  table : s.firewall.isAnchorEnabled .allowNets → s.allowTable = s.allowedRanges
  kept : s.firewall.isAnchorEnabled .allowNets →
    ∀ ranges, ∀ r ∈ s.allowTable, r ∈ (s.addAllowedRange ranges).1.allowTable

/-- No lockdown clears a recorded list that the firewall uses. -/
def KeepsAllowList (s : KillSwitch) (call : Call) : Prop :=
  Locks s call → s.firewall.isInstalled →
    s.firewall.isAnchorEnabled .allowNets → s.allowedRanges = []

lemma addAllowedRange_allowTable {s : KillSwitch} (h : Checked s) {ranges : List String}
    (hv : ranges.all isValidIpOrCidr) :
    (s.addAllowedRange ranges).1.allowTable = appendRanges s.allowedRanges ranges := by
  have hall := appendRanges_valid h.allowed hv
  simp [addAllowedRange,resetAllowedRange,allowTable,hv,hall]

/-- Additions keep the table once the two lists agree. -/
lemma linked_iff {s : KillSwitch} (h : Checked s) :
    Linked s ↔ (s.firewall.isAnchorEnabled .allowNets → s.allowTable = s.allowedRanges) := by
  constructor
  · exact Linked.table
  · intro ht
    refine ⟨ht,?_⟩
    intro hon ranges r hr
    by_cases hv : ranges.all isValidIpOrCidr
    · rw [addAllowedRange_allowTable h hv,mem_appendRanges]
      rw [ht hon] at hr
      exact Or.inl hr
    · have hs : (s.addAllowedRange ranges).1 = s := by simp [addAllowedRange,hv]
      rw [hs]
      exact hr

section

variable [Qt]

lemma step_linked_of_locks {s : KillSwitch} {call : Call} (hl : Locks s call) (h : Linked s) :
    ((s.step call).firewall.isAnchorEnabled .allowNets →
      (s.step call).allowTable = (s.step call).allowedRanges) ↔
    (s.firewall.isInstalled → s.firewall.isAnchorEnabled .allowNets → s.allowedRanges = []) := by
  obtain ⟨hf,hr⟩ := step_of_locks hl
  have htab : (s.step call).allowTable = if s.firewall.installed then s.allowTable else [] := by
    rw [allowTable,hf,allTrafficRules_tables _ _ _ (by decide)]
    rfl
  have hon : (s.step call).firewall.isAnchorEnabled .allowNets =
      (s.firewall.isInstalled && s.firewall.isAnchorEnabled .allowNets) := by
    rw [hf]
    exact allTrafficRules_enabled _ _
  rw [htab,hr,hon,Bool.and_eq_true,and_imp]
  constructor
  · intro ht hi ha
    have he := ht hi ha
    rw [MacOSFirewall.isInstalled] at hi
    rwa [if_pos hi,h.table ha] at he
  · intro ht hi ha
    have he := ht hi ha
    rw [MacOSFirewall.isInstalled] at hi
    rwa [if_pos hi,h.table ha]

/-- Every other call leaves the two lists alone, writes both or switches the anchor off. -/
lemma step_linked_of_not_locks {s : KillSwitch} {call : Call} (hc : Checked s)
    (hl : ¬Locks s call) (h : Linked s) (hon : (s.step call).firewall.isAnchorEnabled .allowNets) :
    (s.step call).allowTable = (s.step call).allowedRanges := by
  have heq : (s.step call).firewall = s.firewall →
      (s.step call).allowedRanges = s.allowedRanges →
      (s.step call).allowTable = (s.step call).allowedRanges := by
    intro hf hr
    rw [allowTable,hf,hr]
    exact h.table (by rwa [hf] at hon)
  cases step_outcome s call with
  | keep hs hp hr hf => exact heq hf hr
  | release hg hp hr hf =>
    have hoff : ∀ strict sites, (releasedRules strict sites s.firewall).isAnchorEnabled .allowNets =
        false := by
      intro strict sites
      cases strict <;> cases sites <;> simp [releasedRules,MacOSFirewall.isAnchorEnabled]
    simp [hf,hoff] at hon
  | lockdown hg hp hr hf => exact absurd hg hl
  | allow items hv hg hp hr hf => rw [allowTable,hf,hr,allowRules_tables_allowNets]
  | refuse items hv hg hn hp hr hf => simp [hc.requested hg hn] at hv
  | connect c ha hg hr hf =>
    have hn : allowNets c := by
      rw [hf] at hon
      simpa [MacOSFirewall.isAnchorEnabled] using hon
    rw [allowTable,hf,hr,connectionRules_allownets,if_pos hn]

/-- Over any sequence of calls the firewall's allow list is the recorded one, in every state
reached, exactly when no lockdown comes while the firewall uses a list that is not empty. -/
theorem allow_list_always_linked_iff (strict : Bool) (calls : List Call) :
    Runs.Always step Linked (fresh strict) calls ↔
      Runs.Guarded step KeepsAllowList (fresh strict) calls := by
  apply Runs.always_iff_guarded (W := Checked) (D := fun _ => True)
  · intro s call _ hc
    exact step_checked s call hc
  · intro s call _ hc h
    rw [linked_iff (step_checked s call hc)]
    by_cases hl : Locks s call
    · simpa [KeepsAllowList,hl] using step_linked_of_locks hl h
    · have hok : KeepsAllowList s call := fun hl' => absurd hl' hl
      simpa [hok] using step_linked_of_not_locks hc hl h
  · exact checked_fresh strict
  · rw [linked_iff (checked_fresh strict)]
    intro hon
    cases hon
  · simp

end

/-- A lockdown during a connection forgets the endpoint, and the next addition takes it out
of the firewall. -/
theorem lockdown_drops_endpoint :
    let s := @after dottedQt (fresh false) [.setConnectionProtection true tunnelConfig,.refresh true]
    s.firewall.isAnchorEnabled .allowNets ∧ s.allowTable = ["203.0.113.10"] ∧
      s.allowedRanges = [] ∧
      (s.addAllowedRange ["198.51.100.3"]).1.allowTable = ["198.51.100.3"] := by
  decide

/-- A protected connection, by whether its rules block all traffic. -/
structure Established (blocking : Bool) (s : KillSwitch) : Prop where
  flag : s.connectionProtection
  installed : s.firewall.installed
  loopback : s.firewall.enabled .allowLoopback
  ipv6 : s.firewall.enabled .blockIPv6
  all : s.firewall.enabled .blockAll = blocking

def Call.ChangesRanges (call : Call) : Prop :=
  ∃ ranges, call = .addAllowedRange ranges ∨ call = .removeAllowedRange ranges

section

variable {s : KillSwitch} {blocking : Bool}

lemma Established.of_firewall (h : Established blocking s) {t : KillSwitch}
    (hp : t.connectionProtection = s.connectionProtection)
    (hf : t.firewall = s.firewall ∨ ∃ items, t.firewall = allowRules items s.firewall) :
    Established blocking t := by
  rcases hf with hf | ⟨items,hf⟩
  · refine ⟨hp.trans h.flag,?_,?_,?_,?_⟩ <;> rw [hf]
    · exact h.installed
    · exact h.loopback
    · exact h.ipv6
    · exact h.all
  · refine ⟨hp.trans h.flag,?_,?_,?_,?_⟩ <;> rw [hf]
    · simp [h.installed]
    · simp [h.loopback]
    · simp [h.ipv6]
    · simp [h.all]

/-- A lockdown of a connection that blocks all traffic writes no rule. -/
lemma Established.allTrafficRules_eq (h : Established true s) :
    allTrafficRules s.firewall = s.firewall := by
  simp [allTrafficRules,MacOSFirewall.ensureInstalled,MacOSFirewall.isInstalled,
    MacOSFirewall.setAnchorEnabled,MacOSFirewall.enableAnchor,h.installed,h.loopback,h.ipv6,h.all]

variable [Qt]

lemma step_established (s : KillSwitch) (call : Call) (h : Established blocking s)
    (hc : call.ChangesRanges) : Established blocking (s.step call) := by
  obtain ⟨ranges,hc⟩ := hc
  cases step_outcome s call with
  | keep hs hp hr hf => exact h.of_firewall hp (.inl hf)
  | refuse items hv hg hn hp hr hf => exact h.of_firewall hp (.inl hf)
  | allow items hv hg hp hr hf => exact h.of_firewall hp (.inr ⟨items,hf⟩)
  | release hg hp hr hf =>
    rcases hg with hg | ⟨c,rfl⟩
    · simp [h.flag] at hg
    · simp at hc
  | lockdown hg hp hr hf =>
    rcases hg with rfl | rfl | ⟨rfl,-⟩ <;> simp at hc
  | connect c ha hg hr hf =>
    rcases hg with ⟨i,rfl,-⟩ | ⟨rfl,-⟩ <;> simp at hc

lemma established_of_accepted (s : KillSwitch) {config : JsonObject}
    (hon : (s.setConnectionProtection true config).2) :
    KnownType config ∧ Established (blockAll config) (s.setConnectionProtection true config).1 := by
  cases ha : accepts config with
  | false => simp [setConnectionProtection,enableKillSwitch,ha] at hon
  | true =>
    rw [setConnectionProtection_returns s ha,decide_eq_true_eq] at hon
    refine ⟨hon,?_,?_,?_,?_,?_⟩ <;> simp [setConnectionProtection,enableKillSwitch,ha]

/-- The lockdown stays, since the release that follows finds a protected connection. -/
lemma Established.toggle (h : Established blocking s) : s.after [.refresh true,.refresh false] =
      { s with
        strictKillSwitchEnabled := false
        allowedRanges := []
        firewall := allTrafficRules s.firewall } := by
  simp [after,step,perform,refresh,isStrictKillSwitchEnabled,disableAllTraffic,disableKillSwitch,
    h.flag]

/-- Strict mode switched on and off again during a protected connection leaves anchors, tables
and the recorded list as they were exactly when the connection blocks all traffic and nothing is
recorded any more. -/
theorem strict_mode_toggle_restores_iff (s : KillSwitch) (config : JsonObject) (calls : List Call)
    (hon : (s.setConnectionProtection true config).2)
    (hcalls : ∀ call ∈ calls, call.ChangesRanges) :
    let t := (s.setConnectionProtection true config).1.after calls
    let u := t.after [.refresh true,.refresh false]
    ((∀ a, u.firewall.isAnchorEnabled a = t.firewall.isAnchorEnabled a) ∧
        (∀ a table, u.firewall.tables a table = t.firewall.tables a table) ∧
        u.allowedRanges = t.allowedRanges) ↔ splitTunnelType config ≠ 1 ∧ t.allowedRanges = [] := by
  intro t u
  obtain ⟨hk,hstart⟩ := established_of_accepted s hon
  have ht : Established (blockAll config) t :=
    Runs.run_invariant_of_forall step_established hstart hcalls
  have hu : u = { t with
      strictKillSwitchEnabled := false
      allowedRanges := []
      firewall := allTrafficRules t.firewall } := ht.toggle
  have hblock : blockAll config ↔ splitTunnelType config ≠ 1 := by
    rcases hk with h | h | h <;> simp [blockAll,h]
  rw [hu,← hblock]
  constructor
  · rintro ⟨hanchors,-,hranges⟩
    have hall := hanchors .blockAll
    rw [MacOSFirewall.isAnchorEnabled,allTrafficRules_enabled,MacOSFirewall.isAnchorEnabled,
      ht.all] at hall
    exact ⟨hall.symm,hranges.symm⟩
  · rintro ⟨hb,hranges⟩
    rw [hb] at ht
    rw [ht.allTrafficRules_eq,hranges]
    exact ⟨fun _ => rfl,fun _ _ => rfl,rfl⟩

end

/-- A connection that only tunnels listed sites. -/
def siteConfig : JsonObject :=
  [("vpnServer",.str "203.0.113.10"),("dns1",.str "1.1.1.1"),("splitTunnelType",.num 1),
   ("splitTunnelSites",.arr [.str "198.51.100.0/24"])]

theorem emptied_list_restored :
    let t := @after dottedQt (@setConnectionProtection dottedQt (fresh false) true tunnelConfig).1
      [.removeAllowedRange ["203.0.113.10"]]
    let u := @after dottedQt t [.refresh true,.refresh false]
    (∀ a, u.firewall.isAnchorEnabled a = t.firewall.isAnchorEnabled a) ∧
      (∀ a table, u.firewall.tables a table = t.firewall.tables a table) ∧
      u.allowedRanges = t.allowedRanges := by
  refine (@strict_mode_toggle_restores_iff dottedQt _ _ _ (by decide) ?_).mpr (by decide)
  intro call hcall
  exact ⟨["203.0.113.10"],.inr (List.mem_singleton.mp hcall)⟩

/-- After strict mode was on, all traffic around the tunnel stays blocked, and the endpoint of a
full tunnel is not recorded any more. -/
theorem toggle_leaves_lockdown :
    let t := @after dottedQt (fresh false) [.setConnectionProtection true siteConfig]
    let u := @after dottedQt t [.refresh true,.refresh false]
    let v := @after dottedQt (fresh false) [.setConnectionProtection true tunnelConfig]
    let w := @after dottedQt v [.refresh true,.refresh false]
    t.firewall.isAnchorEnabled .blockAll = false ∧ u.firewall.isAnchorEnabled .blockAll ∧
      u.strictKillSwitchEnabled = false ∧ v.allowedRanges = ["203.0.113.10"] ∧
      w.allowedRanges = [] := by
  decide

end AlzheimerVPN.KillSwitch
