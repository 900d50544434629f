import AlzheimerVPN.DaemonSteps
import AlzheimerVPN.Holes
import AlzheimerVPN.LocalSocketController
import AlzheimerVPN.VpnConnection

/-! The mode in which only the listed sites go through the tunnel, from the settings
of the client to the routes and the allow list of the daemon. A configuration
without rules for hosts leaves the daemon deaf to whatever names resolve to. -/
namespace AlzheimerVPN

open Text Routes List

namespace VpnConnection

variable [Qt] {settings : AppSettings} {allowSites : Bool} {dns1 dns2 : String}

/-- No rule for a host is passed on when there is none or when sites are not split. -/
lemma splitTunneling_dnsRules_nil
    (h : allowSites = false ∨ ∀ entry ∈ settings.vpnSites settings.routeMode,
      entryDnsRules entry = []) : (splitTunneling settings allowSites dns1 dns2).dnsRules = [] := by
  have hsite : (siteSplitTunneling settings allowSites dns1 dns2).dnsRules = [] := by
    rcases h with rfl | h
    · simp only [siteSplitTunneling]
      split_ifs <;> simp_all
    · have hrules : (settings.vpnSites settings.routeMode).flatMap entryDnsRules = [] :=
        flatMap_eq_nil_iff.mpr h
      simp only [siteSplitTunneling,hrules]
      split_ifs <;> rfl
  simp only [splitTunneling]
  split_ifs <;> exact hsite

/-- Listed sites are not excluded where only they are forwarded. -/
lemma splitTunneling_excluded (hon : settings.isSitesSplitTunnelingEnabled)
    (hmode : settings.routeMode = .vpnOnlyForwardSites)
    (h : (splitTunneling settings allowSites dns1 dns2).routeMode = .vpnAllExceptSites) :
    (splitTunneling settings allowSites dns1 dns2).sites = [dns1,dns2] := by
  have hsite : (siteSplitTunneling settings allowSites dns1 dns2).routeMode = .vpnOnlyForwardSites ∨
      (siteSplitTunneling settings allowSites dns1 dns2).routeMode = .vpnAllSites ∧
        (siteSplitTunneling settings allowSites dns1 dns2).sites = [] := by
    simp only [siteSplitTunneling,hon,hmode,Bool.not_true,Bool.false_eq_true,if_false]
    split_ifs with ha hempty
    · exact Or.inl rfl
    · simp only [Bool.and_eq_true,List.isEmpty_iff] at hempty
      exact Or.inr ⟨rfl,hempty.1.1⟩
    · exact Or.inl rfl
    · exact Or.inl rfl
  simp only [splitTunneling] at h ⊢
  split_ifs at h ⊢ with hdns
  · rcases hsite with hs | ⟨-,hs⟩
    · simp [hs] at hdns
    · simp [hs]
  · rcases hsite with hs | ⟨hs,-⟩ <;> simp [hs] at h

/-- A rule that is resolved again and again is passed on. -/
lemma dnsRules_ne_nil_of_dynamic {entries : List (String × List String)}
    (h : entries.any entryIsDynamic) : (entries.flatMap entryDnsRules).eraseDups ≠ [] := by
  obtain ⟨entry,hentry,hdynamic⟩ := any_eq_true.mp h
  simp only [entryIsDynamic,Bool.and_eq_true,bne_iff_ne] at hdynamic
  have hrules : entryDnsRules entry = [(SplitTunnelRule.fromText entry.1).normalizedText] := by
    simp [entryDnsRules,hdynamic.1.1,hdynamic.1.2]
  apply ne_nil_of_mem (a := (SplitTunnelRule.fromText entry.1).normalizedText)
  rw [mem_eraseDups,mem_flatMap]
  exact ⟨entry,hentry,by rw [hrules]; exact mem_singleton_self _⟩

/-- Where sites may be split, the mode is left when nothing is listed. -/
lemma splitTunneling_carries
    (h : (splitTunneling settings true dns1 dns2).routeMode = .vpnOnlyForwardSites) :
    (splitTunneling settings true dns1 dns2).sites ≠ [] ∨
      (splitTunneling settings true dns1 dns2).dnsRules ≠ [] := by
  have hsite : (siteSplitTunneling settings true dns1 dns2).routeMode = .vpnOnlyForwardSites →
      (siteSplitTunneling settings true dns1 dns2).sites ≠ [] ∨
        (siteSplitTunneling settings true dns1 dns2).dnsRules ≠ [] := by
    intro hmode
    simp only [siteSplitTunneling,Bool.not_true,Bool.false_eq_true,if_false] at hmode ⊢
    split_ifs at hmode ⊢ with hoff hempty hdns
    · exact Or.inl (by simp)
    · by_contra hnil
      simp only [not_or,Classical.not_not] at hnil
      apply hempty
      have hdynamic : (settings.vpnSites settings.routeMode).any entryIsDynamic = false := by
        by_contra hany
        exact dnsRules_ne_nil_of_dynamic (Bool.not_eq_false _ |>.mp hany) hnil.2
      simp [hnil.1,hnil.2,hdynamic]
  simp only [splitTunneling] at h ⊢
  split_ifs at h ⊢
  · exact hsite h

/-- Where sites may not be split, the mode of the settings is kept all the same. -/
lemma splitTunneling_refused :
    (splitTunneling settings false dns1 dns2).routeMode = .vpnOnlyForwardSites ↔
      settings.isSitesSplitTunnelingEnabled ∧ settings.routeMode = .vpnOnlyForwardSites := by
  cases hon : settings.isSitesSplitTunnelingEnabled with
  | false =>
    simp only [splitTunneling,siteSplitTunneling,hon,Bool.not_false,if_true]
    split_ifs <;> simp
  | true =>
    simp only [splitTunneling,siteSplitTunneling,hon,Bool.not_true,Bool.false_eq_true,if_false,
      Bool.not_false,if_true,true_and]
    by_cases hmode : settings.routeMode = .vpnOnlyForwardSites
    · simp [hmode]
    · split_ifs <;> simp [hmode]

/-- What `allowSiteBasedSplitTunneling` is set to. -/
def allowsSiteBasedSplitTunneling (protocolName : String) (config : JsonObject) : Bool :=
  !(protocolName == "awg" || protocolName == "wireguard") || takesAllAddresses protocolName config

/-- The split tunnel that is written for any protocol. -/
lemma appendSplitTunnelingConfig_value (settings : AppSettings) (protocolName : String)
    (config : JsonObject) : ∃ dns1 dns2,
    let split := splitTunneling settings (allowsSiteBasedSplitTunneling protocolName config) dns1 dns2
    let written := appendSplitTunnelingConfig settings protocolName config
    written.value "splitTunnelType" = .num split.routeMode.toInt ∧
      written.value "splitTunnelSites" = texts split.sites ∧
      written.value "splitTunnelDnsRules" = texts split.dnsRules := by
  cases hw : protocolName == "awg" || protocolName == "wireguard" with
  | false =>
    exact ⟨(config.value "dns1").toString,(config.value "dns2").toString,
      by simp [appendSplitTunnelingConfig,allowsSiteBasedSplitTunneling,hw]⟩
  | true =>
    refine ⟨((completeConfigData (protocolName ++ "_config_data") config).value "dns1").toString,
      ((completeConfigData (protocolName ++ "_config_data") config).value "dns2").toString,?_⟩
    simp [appendSplitTunnelingConfig,allowsSiteBasedSplitTunneling,hw,
      allowsSites_completeConfigData,takesAllAddresses]

omit [Qt] in
lemma toInt_routeMode (mode : RouteMode) : (Json.num mode.toInt).toInt = mode.toInt := by
  cases mode <;> exact Json.toInt_num (by decide) (by decide)

/-- A tunnel for listed sites only has a site or a host to carry, and is asked for only where
sites may be split, exactly when the settings do not ask for one where they may not. -/
theorem forward_tunnel_carries_iff (settings : AppSettings) (protocolName : String)
    (config : JsonObject) :
    (((appendSplitTunnelingConfig settings protocolName config).value "splitTunnelType").toInt =
          RouteMode.vpnOnlyForwardSites.toInt →
        ((appendSplitTunnelingConfig settings protocolName config).value
            "splitTunnelSites").toArray ≠ [] ∨
          ((appendSplitTunnelingConfig settings protocolName config).value
            "splitTunnelDnsRules").toArray ≠ []) ∧
      (allowsSiteBasedSplitTunneling protocolName config = false →
        ((appendSplitTunnelingConfig settings protocolName config).value "splitTunnelType").toInt ≠
          RouteMode.vpnOnlyForwardSites.toInt) ↔
    (settings.isSitesSplitTunnelingEnabled →
      settings.routeMode = .vpnOnlyForwardSites →
      allowsSiteBasedSplitTunneling protocolName config) := by
  obtain ⟨dns1,dns2,htype,hsites,hrules⟩ :=
    appendSplitTunnelingConfig_value settings protocolName config
  have hmode : ∀ mode : RouteMode, mode.toInt = RouteMode.vpnOnlyForwardSites.toInt ↔
      mode = .vpnOnlyForwardSites := by
    intro mode
    cases mode <;> decide
  rw [htype,hsites,hrules,toInt_routeMode]
  simp only [hmode,texts,Json.toArray_arr,Ne,map_eq_nil_iff]
  cases hallow : allowsSiteBasedSplitTunneling protocolName config with
  | true =>
    refine iff_of_true ⟨?_,fun h => absurd h (by decide)⟩ (fun _ _ => rfl)
    intro h
    exact splitTunneling_carries h
  | false =>
    simp only [splitTunneling_refused]
    constructor
    · rintro ⟨-,h⟩ hon hroute
      exact absurd ⟨hon,hroute⟩ (h trivial)
    · intro h
      have hnot : ¬(settings.isSitesSplitTunnelingEnabled ∧
          settings.routeMode = .vpnOnlyForwardSites) := by
        rintro ⟨hon,hroute⟩
        exact absurd (h hon hroute) (by decide)
      exact ⟨fun hboth => absurd hboth hnot,fun _ => hnot⟩

end VpnConnection

namespace Daemon

open Runs VpnConnection

section

variable [Qt]

/-- A rule for a host is listed and the server takes all addresses. -/
def PassesHostRules (settings : AppSettings) (protocolName : String) (config : JsonObject) : Prop :=
  takesAllAddresses protocolName config ∧
    ∃ entry ∈ settings.vpnSites .vpnOnlyForwardSites, entryDnsRules entry ≠ []

/-- A configuration that the client builds where only listed sites go through the tunnel. -/
structure Forwards (settings : AppSettings) (protocolName : String) (json : JsonObject)
    (config : InterfaceConfig) : Prop where
  wireguard : protocolName = "awg" ∨ protocolName = "wireguard"
  enabled : settings.isSitesSplitTunnelingEnabled
  mode : settings.routeMode = .vpnOnlyForwardSites
  parsed : parseConfig (LocalSocketController.activate
    (vpnConfiguration settings protocolName json)) = .ok config

variable {settings : AppSettings} {protocolName : String} {json : JsonObject}
  {config : InterfaceConfig}

lemma Forwards.splitTunnelDnsRules (h : Forwards settings protocolName json config)
    (hpass : ¬PassesHostRules settings protocolName json) : config.splitTunnelDnsRules = [] := by
  have hnone : takesAllAddresses protocolName json = false ∨
      ∀ entry ∈ settings.vpnSites settings.routeMode, entryDnsRules entry = [] := by
    rw [h.mode]
    by_contra hn
    rw [not_or,Bool.not_eq_false] at hn
    push Not at hn
    exact hpass hn
  obtain ⟨-,-,hrules⟩ := vpnConfiguration_splitTunneling json settings h.wireguard
  rw [parseConfig_splitTunnelDnsRules h.parsed,LocalSocketController.activate_splitTunnelDnsRules,
    hrules,splitTunneling_dnsRules_nil hnone]
  rfl

/-- The texts of the server and of its DNS servers. -/
def serverTexts (settings : AppSettings) (protocolName : String) (json : JsonObject) : List String :=
  [trimmed ((LocalSocketController.wgConfig
      (vpnConfiguration settings protocolName json)).value "hostName").toString,
    trimmed (json.value "dns1").toString,trimmed (json.value "dns2").toString]

lemma Forwards.excludedAddresses (h : Forwards settings protocolName json config) :
    ∀ ip ∈ config.excludedAddresses, ip ∈ serverTexts settings protocolName json := by
  intro ip hip
  simp only [serverTexts,mem_cons,not_mem_nil,or_false]
  obtain ⟨htype,hsites,-⟩ := vpnConfiguration_splitTunneling json settings h.wireguard
  rw [(parseConfig_read h.parsed).excluded,LocalSocketController.activate_excludedAddresses] at hip
  simp only [Json.toArray_arr,map_map,Function.comp_def,Json.toString_str,map_id',
    LocalSocketController.excludedAddresses,mem_cons] at hip
  refine hip.imp id fun hip => ?_
  split_ifs at hip with ht
  · have hmode : (splitTunneling settings (takesAllAddresses protocolName json)
        (json.value "dns1").toString (json.value "dns2").toString).routeMode =
        .vpnAllExceptSites := by
      rw [LocalSocketController.splitTunnelType,htype] at ht
      revert ht
      cases (splitTunneling settings (takesAllAddresses protocolName json)
        (json.value "dns1").toString (json.value "dns2").toString).routeMode <;> decide
    rw [LocalSocketController.splitTunnelSites,hsites,
      splitTunneling_excluded h.enabled h.mode hmode] at hip
    have hip' := (mem_filter.mp hip).1
    simpa [texts] using hip'
  · cases hip

end

section

variable [Qt] [QtNetwork]

/-- A configuration without rules for hosts that names only own addresses. -/
structure Plain (Own : IPAddress → Prop) (Allowed : String → Prop) (config : InterfaceConfig) :
    Prop where
  rules : config.splitTunnelDnsRules = []
  endpoints : ∀ p ∈ endpoints config, Own p
  entries : ∀ p ∈ entries config.excludedAddresses, Own p
  excluded : ∀ ip ∈ config.excludedAddresses, Allowed ip

/-- The daemon looks up no host and observes none, and its routes and its allow list are own
addresses. -/
structure Deaf (Own : IPAddress → Prop) (Allowed : String → Prop) (s : Daemon) : Prop where
  hosts : s.splitTunnelDnsResolveHosts = []
  rules : s.dnsRules = []
  lookups : s.lookups = []
  matched : s.matchedHosts = []
  learned : s.splitTunnelDnsRoutes = []
  configs : ∀ hop c, s.connections hop = some c → Plain Own Allowed c.config
  routes : ∀ p ∈ s.routes.exclusionRoutes, Own p
  allowed : ∀ ip ∈ s.killSwitch.allowedRanges, Allowed ip

variable {Own : IPAddress → Prop} {Allowed : String → Prop} {s : Daemon}

/-- An event hands a deaf daemon no address of a host. -/
lemma Deaf.resolved (h : Deaf Own Allowed s) (e : Event) : s.resolved e = [] := by
  cases e <;> simp [Daemon.resolved,h.lookups,h.matched]

lemma Deaf.connect (h : Deaf Own Allowed s) {hop : HopType} {c : ConnectionState}
    (hc : Plain Own Allowed c.config) :
    ∀ hop' c', Function.update s.connections hop (some c) hop' = some c' →
      Plain Own Allowed c'.config := by
  intro hop' c' hc'
  by_cases hhop : hop' = hop
  · subst hhop
    rw [Function.update_self] at hc'
    cases hc'
    exact hc
  · rw [Function.update_of_ne hhop] at hc'
    exact h.configs hop' c' hc'

lemma Deaf.deactivate (h : Deaf Own Allowed s) : Deaf Own Allowed s.deactivate.1 := by
  have hallowed : ∀ ip ∈ s.deactivate.1.killSwitch.allowedRanges, _ := fun ip hip =>
    h.allowed ip (mem_deactivate_allowedRanges s hip).1
  obtain ⟨ks,generation,hs⟩ := deactivate_eq s
  rw [hs] at hallowed ⊢
  exact ⟨rfl,rfl,h.lookups,h.matched,rfl,by simp,by simp [exclusionRoutes],hallowed⟩

variable (kernel : ℕ → Bool)

lemma Deaf.activateNew (h : Deaf Own Allowed s) {config : InterfaceConfig}
    (hc : Plain Own Allowed config) (answers : Answers) :
    Deaf Own Allowed (s.activateNew kernel config answers).1 := by
  have hallowed : ∀ ip ∈ (s.activateNew kernel config answers).1.killSwitch.allowedRanges,
      Allowed ip := by
    intro ip hip
    rcases mem_activateNew_allowedRanges s kernel hip with hip | hip
    · exact h.allowed ip hip
    · exact hc.excluded ip hip
  have hup : ∀ p ∈ (s.ensureInterface config answers).1.routes.exclusionRoutes, Own p := by
    simp only [ensureInterface,addInterface]
    split_ifs
    · exact h.routes
    · exact h.routes
    · simp [exclusionRoutes]
  have hpeer : ∀ p ∈ ((s.ensureInterface config answers).1.routes.updatePeer kernel
      config).exclusionRoutes, Own p := by
    intro p hp
    rcases mem_of_mem_updatePeer kernel _ config hp with hp | hp
    · exact hup p hp
    · exact hc.endpoints p hp
  obtain ⟨routes,ks,hs⟩ : ∃ routes ks, (s.ensureInterface config answers).1 =
      { s with routes := routes, killSwitch := ks } := by
    simp only [ensureInterface,addInterface]
    split_ifs <;> exact ⟨_,_,rfl⟩
  simp only [Daemon.activateNew,hs] at hallowed hup hpeer ⊢
  split_ifs at hallowed ⊢
  · exact { h with routes := hup, allowed := hallowed }
  · exact { h with configs := h.connect hc, routes := hpeer, allowed := hallowed }
  · exact { h with routes := hpeer, allowed := hallowed }

lemma Deaf.switchServer (h : Deaf Own Allowed s) {config : InterfaceConfig}
    (hc : Plain Own Allowed config) (lastConfig : InterfaceConfig) (answers : Answers) :
    Deaf Own Allowed (s.switchServer kernel lastConfig config answers).1 := by
  have hto : ∀ p ∈ (s.switchedTo kernel config).exclusionRoutes, Own p := by
    intro p hp
    rcases mem_of_mem_updatePeer kernel _ config hp with hp | hp
    · rcases mem_of_mem_addExclusionRoutes kernel _ _ hp with hp | hp
      · exact h.routes p hp
      · exact hc.entries p hp
    · exact hc.endpoints p hp
  have hfrom : ∀ p ∈ (s.switchedFrom kernel lastConfig config).exclusionRoutes, Own p := by
    intro p hp
    simp only [switchedFrom] at hp
    split_ifs at hp
    · exact hto p ((mem_delExclusionRoutes _ _ p).mp ((mem_deletePeer _ lastConfig p).mp hp).1).1
    · exact hto p ((mem_delExclusionRoutes _ _ p).mp hp).1
  simp only [Daemon.switchServer]
  split_ifs
  · exact { h with routes := hto }
  · exact { h with routes := hfrom }
  · exact { h with configs := h.connect hc, routes := hfrom }

lemma Deaf.completeHandshake (h : Deaf Own Allowed s) {hop : HopType} {c : ConnectionState}
    (hc : s.connections hop = some c) :
    Deaf Own Allowed (s.completeHandshake kernel hop c.config) := by
  have hplain := h.configs hop c hc
  have hrules : hostRules c.config.splitTunnelDnsRules = [] := by simp [hplain.rules,hostRules]
  refine ⟨?_,?_,?_,h.matched,rfl,h.connect hplain,?_,h.allowed⟩
  · simp [Daemon.completeHandshake,refreshSplitTunnelDnsRoutes,refreshSplitTunnelStaticRoutes,
      configureSplitTunnelDnsRoutes,hrules]
  · simp [Daemon.completeHandshake,refreshSplitTunnelDnsRoutes,refreshSplitTunnelStaticRoutes,
      configureSplitTunnelDnsRoutes,hrules]
  · simp [Daemon.completeHandshake,refreshSplitTunnelDnsRoutes,refreshSplitTunnelStaticRoutes,
      configureSplitTunnelDnsRoutes,clearSplitTunnelDnsRoutes,hrules,h.lookups]
  · intro p hp
    have hp' : p ∈ ((s.routes.giveUpRoutes s.splitTunnelDnsRoutes).addExclusionRoutes kernel
      (entries c.config.excludedAddresses)).exclusionRoutes := hp
    rw [h.learned] at hp'
    rcases mem_of_mem_addExclusionRoutes kernel _ _ hp' with hp' | hp'
    · exact h.routes p hp'
    · exact hplain.entries p hp'

/-- What a host resolves to leaves a deaf daemon as it is. -/
lemma Deaf.step_eq (h : Deaf Own Allowed s) {e : Event}
    (he : (∃ host generation addresses, e = .lookupFinished host generation addresses) ∨
      ∃ host ips, e = .answered host ips) : step kernel s e = s := by
  rcases he with ⟨host,generation,addresses,rfl⟩ | ⟨host,ips,rfl⟩
  · have hnot : (host,generation) ∉ s.lookups := by simp [h.lookups]
    rw [lookupFinished_eq,h.resolved,onSplitTunnelHostResolved_nil,erase_of_not_mem hnot]
  · rw [answered_eq,h.resolved,onSplitTunnelHostResolved_nil]

lemma deaf_step (h : Deaf Own Allowed s) {e : Event}
    (hc : ∀ config answers, e = .activate config answers → Plain Own Allowed config) :
    Deaf Own Allowed (step kernel s e) := by
  cases e with
  | activate config answers =>
    have hplain := hc config answers rfl
    exact activate_induct kernel (fun _ => h.activateNew kernel hplain answers)
      (fun current _ _ => h.switchServer kernel hplain current.config answers)
      fun _ _ _ => ⟨h.deactivate,h.deactivate.activateNew kernel hplain answers⟩
  | deactivate => exact h.deactivate
  | checkHandshake peers =>
    exact checkHandshake_induct kernel peers (fun s hop c h hc => h.completeHandshake kernel hc) h
  | lookupFinished host generation addresses =>
    rw [h.step_eq kernel (Or.inl ⟨_,_,_,rfl⟩)]
    exact h
  | query host =>
    have hnot : s.matchesRules host = false := by simp [matchesRules,h.rules,hostRules]
    rw [step,hnot]
    exact h
  | answered host ips =>
    rw [h.step_eq kernel (Or.inr ⟨_,_,rfl⟩)]
    exact h
  | defaultRoutes ipv4 ipv6 =>
    refine { h with routes := ?_ }
    intro p hp
    refine h.routes p ?_
    cases hm : s.routes.rtmonitor with
    | none => simp [step,exclusionRoutes,hm] at hp
    | some m => simpa [step,exclusionRoutes,hm] using hp
  | tunnelFinished =>
    exact { h with }

end

section

variable [Qt] [QtNetwork] (kernel : ℕ → Bool)

/-- The addresses that an event reports for a host. -/
def reported : Event → List String
  | .lookupFinished _ _ addresses => addresses.map HostAddress.toString
  | .answered _ ips => ips
  | _ => []

/-- No reported address becomes an exclusion route or an allowed address. -/
def StaysInside (s : Daemon) (e : Event) : Prop :=
  ∀ ip ∈ reported e, (IPAddress.ofText ip ∈ (step kernel s e).routes.exclusionRoutes →
      IPAddress.ofText ip ∈ s.routes.exclusionRoutes) ∧
    (ip ∈ (step kernel s e).killSwitch.allowedRanges → ip ∈ s.killSwitch.allowedRanges)

/-- A connection without host rules does not listen to what is reported. -/
lemma Deaf.step_reported {Own : IPAddress → Prop} {Allowed : String → Prop} {s : Daemon}
    {e : Event} {ip : String} (h : Deaf Own Allowed s) (hip : ip ∈ reported e) :
    step kernel s e = s := by
  refine h.step_eq kernel ?_
  cases e with
  | lookupFinished host generation addresses => exact Or.inl ⟨_,_,_,rfl⟩
  | answered host ips => exact Or.inr ⟨_,_,rfl⟩
  | _ => simp [reported] at hip

lemma deaf_run {Own : IPAddress → Prop} {Allowed : String → Prop} {s : Daemon}
    {events pre : List Event} (hs : Deaf Own Allowed s)
    (hplain : ∀ e ∈ events, ∀ config answers, e = .activate config answers →
      Plain Own Allowed config) (hpre : pre <+: events) :
    Deaf Own Allowed (run (step kernel) s pre) := by
  have hstep : ∀ s e, Deaf Own Allowed s → (∀ config answers, e = .activate config answers →
      Plain Own Allowed config) → Deaf Own Allowed (step kernel s e) :=
    fun s e h hc => deaf_step kernel h hc
  exact run_invariant_of_forall hstep hs fun e he => hplain e (hpre.subset he)

/-- The configurations that a run activates. -/
def activated (events : List Event) (config : InterfaceConfig) : Prop :=
  ∃ answers, .activate config answers ∈ events

/-- Where only listed sites go through the tunnel and no rule for a host is passed on, no lookup
and no observed answer opens a way around the tunnel; every exclusion route and every
address added to the allow list is one that a configuration names itself, and these
are the addresses of the server and of its DNS servers. -/
theorem listed_hosts_stay_inside (ks : KillSwitch) (events : List Event)
    (hbuilt : ∀ config, activated events config → ∃ settings protocolName json,
      Forwards settings protocolName json config ∧ ¬PassesHostRules settings protocolName json) :
    Guarded (step kernel) (StaysInside kernel) (initial ks) events ∧ Always (step kernel) (fun s =>
        (∀ p ∈ s.routes.exclusionRoutes, ∃ config, activated events config ∧
          (p ∈ endpoints config ∨ p ∈ entries config.excludedAddresses)) ∧
        ∀ ip ∈ s.killSwitch.allowedRanges, ip ∈ ks.allowedRanges ∨
          ∃ config, activated events config ∧ ip ∈ config.excludedAddresses)
        (initial ks) events ∧
      ∀ config, activated events config → ∃ settings protocolName json,
        Forwards settings protocolName json config ∧
          ∀ ip ∈ config.excludedAddresses, ip ∈ serverTexts settings protocolName json := by
  let Own := fun p => ∃ config, activated events config ∧
    (p ∈ endpoints config ∨ p ∈ entries config.excludedAddresses)
  let Allowed := fun ip => ip ∈ ks.allowedRanges ∨
    ∃ config, activated events config ∧ ip ∈ config.excludedAddresses
  have hplain : ∀ e ∈ events, ∀ config answers, e = .activate config answers →
      Plain Own Allowed config := by
    rintro e he config answers rfl
    obtain ⟨settings,protocolName,json,hf,hpass⟩ := hbuilt config ⟨answers,he⟩
    exact ⟨hf.splitTunnelDnsRules hpass,fun p hp => ⟨config,⟨answers,he⟩,Or.inl hp⟩,
      fun p hp => ⟨config,⟨answers,he⟩,Or.inr hp⟩,fun ip hip => Or.inr ⟨config,⟨answers,he⟩,hip⟩⟩
  have hinitial : Deaf Own Allowed (initial ks) :=
    ⟨rfl,rfl,rfl,rfl,rfl,by simp [initial],by simp [initial,exclusionRoutes],
      fun ip hip => Or.inl hip⟩
  have hdeaf : ∀ pre, pre <+: events → Deaf Own Allowed (run (step kernel) (initial ks) pre) :=
    fun pre hpre => deaf_run kernel hinitial hplain hpre
  refine ⟨?_,?_,?_⟩
  · intro pre e hpre ip hip
    have h := hdeaf pre ((prefix_append pre [e]).trans hpre)
    rw [h.step_reported kernel hip]
    exact ⟨id,id⟩
  · intro pre hpre
    exact ⟨(hdeaf pre hpre).routes,(hdeaf pre hpre).allowed⟩
  · intro config hconfig
    obtain ⟨settings,protocolName,json,hf,-⟩ := hbuilt config hconfig
    exact ⟨settings,protocolName,json,hf,hf.excludedAddresses⟩

end

/-- Sites of one list, where only they go through the tunnel. -/
def siteSettings (sites : List (String × List String)) : AppSettings where
  isKillSwitchEnabled := true
  getAllowedDnsServers := []
  isSitesSplitTunnelingEnabled := true
  routeMode := .vpnOnlyForwardSites
  vpnSites _ := sites
  useAmneziaDns := true
  isAppsSplitTunnelingEnabled := false
  appsRouteMode := .vpnAllApps
  vpnApps _ := []

def siteServer (allowedIps : List String) : JsonObject :=
  [("protocol",.str "wireguard"),("hostName",.str "203.0.113.7"),("dns1",.str "1.1.1.1"),
   ("dns2",.str ""),
   ("wireguard_config_data",.obj [("hostName",.str "203.0.113.7"),
     ("client_priv_key",.str "a"),("client_ip",.str "10.8.0.2"),("server_pub_key",.str firstKey),
     ("port",.num 51820),("allowed_ips",texts allowedIps)])]

/-- A server with allowed addresses of its own gets the mode of the settings and none of their
sites. -/
theorem refused_sites_carry_nothing :
    ¬ ((((@appendSplitTunnelingConfig dottedQt (siteSettings [("a.ru",[])]) "wireguard"
            (siteServer ["10.0.0.0/8"])).value "splitTunnelType").toInt =
          RouteMode.vpnOnlyForwardSites.toInt →
        ((@appendSplitTunnelingConfig dottedQt (siteSettings [("a.ru",[])]) "wireguard"
            (siteServer ["10.0.0.0/8"])).value "splitTunnelSites").toArray ≠ [] ∨
          ((@appendSplitTunnelingConfig dottedQt (siteSettings [("a.ru",[])]) "wireguard"
            (siteServer ["10.0.0.0/8"])).value "splitTunnelDnsRules").toArray ≠ []) ∧
      (allowsSiteBasedSplitTunneling "wireguard" (siteServer ["10.0.0.0/8"]) = false →
        ((@appendSplitTunnelingConfig dottedQt (siteSettings [("a.ru",[])]) "wireguard"
            (siteServer ["10.0.0.0/8"])).value "splitTunnelType").toInt ≠
          RouteMode.vpnOnlyForwardSites.toInt)) := by
  rintro ⟨-,h⟩
  exact absurd (by decide +kernel) (h (by decide +kernel))

/-- The configuration that the daemon reads from the client. -/
def siteConfig (sites : List (String × List String)) (allowedIps : List String) :
    Except String InterfaceConfig :=
  @parseConfig dottedQt (LocalSocketController.activate
    (@vpnConfiguration dottedQt (siteSettings sites) "wireguard" (siteServer allowedIps)))

/-- An activation, its handshake and the answer to a lookup. -/
def resolvedSite (config : InterfaceConfig) : List Event :=
  [.activate config allDone,.checkHandshake [⟨firstKey,1⟩],
    .lookupFinished "a.ru" 1 [.ipv4 0xc6336407]]

/-- A listed host that the server's own allowed addresses keep from being passed on. -/
theorem unpassed_host_stays_inside :
    ∃ config, siteConfig [("a.ru",[])] ["10.0.0.0/8"] = .ok config ∧
      Guarded dottedStep (@StaysInside dottedQt dottedNetwork fun _ => true)
        (initial (.fresh false)) (resolvedSite config) := by
  have hok : (siteConfig [("a.ru",[])] ["10.0.0.0/8"]).isOk := by decide +kernel
  cases hc : siteConfig [("a.ru",[])] ["10.0.0.0/8"] with
  | error e =>
    rw [hc] at hok
    cases hok
  | ok config =>
    refine ⟨config,rfl,(@listed_hosts_stay_inside dottedQt dottedNetwork (fun _ => true) _ _ ?_).1⟩
    rintro config' ⟨answers,hmem⟩
    simp only [resolvedSite,mem_cons,not_mem_nil,or_false,Event.activate.injEq,reduceCtorEq] at hmem
    rw [hmem.1]
    exact ⟨_,_,_,@Forwards.mk dottedQt _ _ _ _ (Or.inr rfl) rfl rfl hc,
      fun hpass => absurd hpass.1 (by decide +kernel)⟩

/-- A listed host is passed on, and the address it resolves to is excluded and allowed. -/
theorem listed_host_goes_around :
    ∃ config, siteConfig [("a.ru",[])] ["0.0.0.0/0","::/0"] = .ok config ∧
      let s := run dottedStep (initial (.fresh false)) (resolvedSite config)
      @IPAddress.ofText dottedQt dottedNetwork "198.51.100.7" ∈ s.routes.exclusionRoutes ∧
        "198.51.100.7" ∈ s.killSwitch.allowedRanges ∧
        ¬Guarded dottedStep (@StaysInside dottedQt dottedNetwork fun _ => true)
          (initial (.fresh false)) (resolvedSite config) := by
  have hview : (siteConfig [("a.ru",[])] ["0.0.0.0/0","::/0"]).toOption.map (fun config =>
      let s := run dottedStep (initial (.fresh false)) ((resolvedSite config).take 2)
      let s' := run dottedStep (initial (.fresh false)) (resolvedSite config)
      (decide (@IPAddress.ofText dottedQt dottedNetwork "198.51.100.7" ∈ s.routes.exclusionRoutes),
        decide (@IPAddress.ofText dottedQt dottedNetwork "198.51.100.7" ∈ s'.routes.exclusionRoutes),
        decide ("198.51.100.7" ∈ s'.killSwitch.allowedRanges))) = some (false,true,true) := by
    decide +kernel
  cases hc : siteConfig [("a.ru",[])] ["0.0.0.0/0","::/0"] with
  | error e => simp [hc,Except.toOption] at hview
  | ok config =>
    simp only [hc,Except.toOption,Option.map_some,Option.some.injEq,Prod.mk.injEq,
      decide_eq_true_eq,decide_eq_false_iff_not] at hview
    obtain ⟨hbefore,hafter,hallowed⟩ := hview
    refine ⟨config,rfl,hafter,hallowed,fun h => ?_⟩
    have hlast := h ((resolvedSite config).take 2) _ (prefix_refl _)
    exact hbefore ((hlast "198.51.100.7" (by decide +kernel)).1 hafter)

end Daemon
end AlzheimerVPN
