import AlzheimerVPN.AddressText
import AlzheimerVPN.Protection
import AlzheimerVPN.Retention

/-! The bypass routes of the router and the allow list of the kill switch. The
router pushes differences of its own set only, so the two stay together in
exactly those runs in which nobody else takes an address of the set off the
list and no configuration starts to ask for the synchronisation too late. -/
namespace AlzheimerVPN

open IpText List

namespace KillSwitch

variable (s : KillSwitch)

@[simp] lemma removeAllowedRange_allowedRanges (ranges : List String) :
    (s.removeAllowedRange ranges).1.allowedRanges =
      s.allowedRanges.filter fun r => !ranges.contains r := by
  simp only [removeAllowedRange,resetAllowedRange]
  split_ifs <;> rfl

/-- The calls that empty the allow list in the state in which they are made. -/
def Clears : Call → Prop
  | .init => s.strictKillSwitchEnabled
  | .refresh enabled => enabled ∨ s.connectionProtection = false
  | .disableKillSwitch => s.connectionProtection = false
  | .setConnectionProtection enabled _ => enabled = false
  | .disableAllTraffic => True
  | .setAlwaysBlockedSites ranges =>
    ranges.all isValidIpOrCidr ∧ s.strictKillSwitchEnabled = false ∧
      s.connectionProtection = false ∧
      ¬(ranges = s.alwaysBlockedSites ∧ (ranges = [] ∨ s.firewall.isAnchorEnabled .blockNets))
  | _ => False

lemma setAlwaysBlockedSites_allowedRanges (ranges : List String) :
    s.Clears (.setAlwaysBlockedSites ranges) ∧
        (s.setAlwaysBlockedSites ranges).1.allowedRanges = [] ∨
      ¬s.Clears (.setAlwaysBlockedSites ranges) ∧
        (s.setAlwaysBlockedSites ranges).1.allowedRanges = s.allowedRanges := by
  simp only [setAlwaysBlockedSites,isStrictKillSwitchEnabled,Clears]
  split_ifs with hv hs hu hp
  · exact Or.inr ⟨fun h => by simp [h.1] at hv,rfl⟩
  · exact Or.inr ⟨fun h => by simp [h.2.1] at hs,rfl⟩
  · refine Or.inr ⟨fun h => h.2.2.2 ?_,rfl⟩
    simpa using hu
  · exact Or.inr ⟨fun h => by simp [h.2.2.1] at hp,rfl⟩
  · refine Or.inl ⟨⟨by simpa using hv,by simpa using hs,by simpa using hp,?_⟩,by simp [hp]⟩
    simpa using hu

variable [Qt]

/-- A call leaves the addresses on the allow list. -/
def Spares (ips : List String) (call : Call) : Prop :=
  (s.Clears call → ips = []) ∧
  match call with
  | .enableKillSwitch config _ => accepts config → ∀ ip ∈ ips, ip ∈ allownets config
  | .setConnectionProtection enabled config =>
    enabled → accepts config → ∀ ip ∈ ips, ip ∈ allownets config
  | .resetAllowedRange ranges => ranges.all isValidIpOrCidr → ∀ ip ∈ ips, ip ∈ ranges
  | .removeAllowedRange ranges => ∀ ip ∈ ips, ip ∉ ranges
  | _ => True

variable {s} {ips : List String}

/-- Condition and effect agree for each call. -/
lemma spares_iff (h : ∀ ip ∈ ips, ip ∈ s.allowedRanges) (call : Call) :
    (∀ ip ∈ ips, ip ∈ (s.step call).allowedRanges) ↔ s.Spares ips call := by
  cases call with
  | init =>
    by_cases hs : s.strictKillSwitchEnabled
    · simp [step,perform,init,isStrictKillSwitchEnabled,disableAllTraffic,Spares,Clears,hs,
        eq_nil_iff_forall_not_mem]
    · simpa [step,perform,init,isStrictKillSwitchEnabled,Spares,Clears,hs] using h
  | refresh enabled =>
    cases enabled with
    | true =>
      simp [step,perform,refresh,isStrictKillSwitchEnabled,disableAllTraffic,Spares,Clears,
        eq_nil_iff_forall_not_mem]
    | false =>
      cases hp : s.connectionProtection with
      | true => simpa [step,perform,refresh,isStrictKillSwitchEnabled,Spares,Clears,hp] using h
      | false =>
        simp [step,perform,refresh,isStrictKillSwitchEnabled,Spares,Clears,hp,
          eq_nil_iff_forall_not_mem]
  | disableKillSwitch =>
    cases hp : s.connectionProtection with
    | true => simpa [step,perform,Spares,Clears,hp] using h
    | false => simp [step,perform,Spares,Clears,hp,eq_nil_iff_forall_not_mem]
  | setConnectionProtection enabled config =>
    cases enabled with
    | false =>
      simp [step,perform,setConnectionProtection,Spares,Clears,eq_nil_iff_forall_not_mem]
    | true =>
      by_cases ha : accepts config
      · simp [step,perform,setConnectionProtection,enableKillSwitch,Spares,Clears,ha]
      · simpa [step,perform,setConnectionProtection,enableKillSwitch,Spares,Clears,ha] using h
  | disableAllTraffic =>
    simp [step,perform,disableAllTraffic,Spares,Clears,eq_nil_iff_forall_not_mem]
  | enablePeerTraffic config => simpa [step,perform,enablePeerTraffic,Spares,Clears] using h
  | enableKillSwitch config index =>
    by_cases ha : accepts config
    · simp [step,perform,enableKillSwitch,Spares,Clears,ha]
    · simpa [step,perform,enableKillSwitch,Spares,Clears,ha] using h
  | resetAllowedRange ranges =>
    by_cases hv : ranges.all isValidIpOrCidr
    · simp [step,perform,resetAllowedRange,Spares,Clears,hv]
    · simpa [step,perform,resetAllowedRange,Spares,Clears,hv] using h
  | addAllowedRange ranges =>
    have hkeep : ∀ ip ∈ ips, ip ∈ (s.addAllowedRange ranges).1.allowedRanges := by
      intro ip hip
      rw [addAllowedRange_allowedRanges]
      split_ifs
      · exact (mem_appendRanges _ _ _).mpr (Or.inl (h ip hip))
      · exact h ip hip
    simpa [step,perform,Spares,Clears] using hkeep
  | removeAllowedRange ranges =>
    simp only [step,perform,removeAllowedRange_allowedRanges,Spares,Clears]
    constructor
    · intro hr
      exact ⟨by simp,fun ip hip => by simpa using (mem_filter.mp (hr ip hip)).2⟩
    · intro hr ip hip
      exact mem_filter.mpr ⟨h ip hip,by simpa using hr.2 ip hip⟩
  | setAlwaysBlockedSites ranges =>
    rcases setAlwaysBlockedSites_allowedRanges s ranges with ⟨hc,hr⟩ | ⟨hc,hr⟩
    · simp [step,perform,hr,hc,Spares,eq_nil_iff_forall_not_mem]
    · simpa [step,perform,hr,hc,Spares] using h

end KillSwitch

namespace RouterMac

/-- Cached addresses are such that the kill switch accepts them. -/
def Printed (r : RouterMac) : Prop :=
  ∀ host answers, r.hostCache.lookup host = some answers →
    ∀ ip ∈ answers.map DnsIpv4Answer.address, isValidIpOrCidr ip

variable [Qt] {r r' : RouterMac}

lemma learn_printed {host : String} {answers : List DnsIpv4Answer} {now : ℤ} (h : r.Printed)
    (hanswers : ∀ ip ∈ answers.map DnsIpv4Answer.address, isValidIpOrCidr ip)
    (hl : r.learn host answers now = some r') : r'.Printed := by
  simp only [learn] at hl
  split_ifs at hl
  obtain rfl := Option.some.inj hl
  intro other cached ho ip hip
  rcases lookup_insert_cases ho with ⟨rfl,rfl⟩ | ⟨-,ho⟩
  · rcases mem_cacheAnswers.mp hip with hip | hip
    · cases hc : r.hostCache.lookup other with
      | none => simp [hc] at hip
      | some old => exact h other old hc ip (by simpa [hc] using hip)
    · exact hanswers ip hip.2
  · exact h other cached ho ip hip

lemma active_valid (hk : r.Kept) (hp : r.Printed) {ip : String}
    (hip : ip ∈ r.activeDnsSplitTunnelIps) : isValidIpOrCidr ip := by
  obtain ⟨host,leases,hl,hm⟩ := mem_active.mp hip
  obtain ⟨answers,hc,hsub⟩ := hk.cached hl
  exact hp host answers hc ip (hsub ip hm)

end RouterMac

namespace Service

open RouterMac

/-- The routed addresses are on the allow list. -/
def Listed (s : Service) : Prop := ∀ ip ∈ s.router.ips, ip ∈ s.killSwitch.allowedRanges

/-- They are whenever the last configuration asks for it. -/
def Together (s : Service) : Prop := s.router.killSwitchEnabled → s.Listed

/-- Valid answers are cached, and with the synchronisation on, the addresses are listed after
the operation exactly if they were before it. -/
structure Pushes (s s' : Service) : Prop where
  printed : s'.router.Printed
  listed : s.router.killSwitchEnabled → (s'.Listed ↔ s.Listed)

lemma pumpDnsSplitTunnelPrewarm_pushes {s' : Service} (h : Pushes s s') :
    Pushes s s'.pumpDnsSplitTunnelPrewarm := by
  obtain ⟨prewarm,lookups,he,-⟩ :=
    pump_frame s'.router.prewarm.generation s'.router.prewarm.queue s'
  rw [pumpDnsSplitTunnelPrewarm,he]
  exact ⟨h.printed,h.listed⟩

lemma printAnswers_valid (answers : List (BitVec 32 × ℤ)) :
    ∀ ip ∈ (printAnswers answers).map DnsIpv4Answer.address, isValidIpOrCidr ip := by
  intro ip hip
  simp only [printAnswers,map_map,mem_map] at hip
  obtain ⟨answer,-,rfl⟩ := hip
  exact isValidIpOrCidr_dotted answer.1

lemma reconfigured_printed {s : Service} (rules : List String) (gw : String) (killSwitchEnabled : Bool)
    (h : s.router.Printed) : (s.reconfigured rules gw killSwitchEnabled).router.Printed := by
  simpa [Printed] using h

lemma Pushes.together {s' : Service} (h : Pushes s s')
    (hflag : s'.router.killSwitchEnabled = s.router.killSwitchEnabled) (ht : s.Together) :
    s'.Together := by
  intro he
  have he' := hflag.symm.trans he
  exact (h.listed he').mpr (ht he')

variable [Qt] {s : Service}

/-- A synchronisation pushes exactly what it adds. -/
lemma mem_synced_allowedRanges {now : ℤ} (hk : s.router.Kept) (hp : s.router.Printed)
    (he : s.router.killSwitchEnabled) (ip : String) :
    ip ∈ (s.synced s.router.ips now).killSwitch.allowedRanges ↔
      ip ∈ s.killSwitch.allowedRanges ∨ ip ∈ s.router.activeDnsSplitTunnelIps ∧
        ip ∉ s.router.ips ∧ routeAccepted ip s.router.gateway := by
  set added := s.router.activeDnsSplitTunnelIps.filter fun ip =>
    !s.router.ips.contains ip && routeAddTransient ip s.router.gateway with hadded
  have hremoved : (s.router.ips.filter fun ip => !s.router.activeDnsSplitTunnelIps.contains ip &&
      routeDelete ip s.router.gateway) = [] := by
    rw [filter_eq_nil_iff]
    intro ip hip
    simp [hk.leased ip hip]
  have hvalid : ∀ ip ∈ added, isValidIpOrCidr ip := by
    intro ip hip
    exact active_valid hk hp (mem_filter.mp hip).1
  have hmem : ip ∈ added ↔ ip ∈ s.router.activeDnsSplitTunnelIps ∧
      ip ∉ s.router.ips ∧ routeAccepted ip s.router.gateway := by
    simp [hadded,routeAddTransient]
  rw [← hmem]
  simp only [synced,syncDnsSplitTunnelIps,← hadded,hremoved,he]
  cases hn : added.isEmpty with
  | true => simp [isEmpty_iff.mp hn]
  | false =>
    have hall : added.all isValidIpOrCidr := all_eq_true.mpr hvalid
    have happend : ip ∈ KillSwitch.appendRanges s.killSwitch.allowedRanges added ↔
        ip ∈ s.killSwitch.allowedRanges ∨ ip ∈ added := by
      rw [KillSwitch.mem_appendRanges]
      exact or_congr_right ⟨And.left,fun hip => ⟨hip,by simpa using ne_empty_of_valid (hvalid ip hip)⟩⟩
    simpa [hall] using happend

lemma synced_listed (now : ℤ) (hk : s.router.Kept) (hp : s.router.Printed)
    (he : s.router.killSwitchEnabled) : (s.synced s.router.ips now).Listed ↔ s.Listed := by
  constructor
  · intro h ip hip
    have hs := h ip ((mem_synced_ips hk now ip).mpr (Or.inl hip))
    rcases (mem_synced_allowedRanges hk hp he ip).mp hs with hs | hs
    · exact hs
    · exact absurd hip hs.2.1
  · intro h ip hip
    rw [mem_synced_allowedRanges hk hp he ip]
    by_cases ho : ip ∈ s.router.ips
    · exact Or.inl (h ip ho)
    · rcases (mem_synced_ips hk now ip).mp hip with hip | hip
      · exact absurd hip ho
      · exact Or.inr ⟨hip.1,ho,hip.2⟩

lemma updateDnsSplitTunnelHostLeases_pushes (host : String) {answers : List DnsIpv4Answer}
    (now : ℤ) (hk : s.router.Kept) (hp : s.router.Printed)
    (hanswers : ∀ ip ∈ answers.map DnsIpv4Answer.address, isValidIpOrCidr ip) :
    Pushes s (s.updateDnsSplitTunnelHostLeases host answers now) := by
  simp only [updateDnsSplitTunnelHostLeases]
  cases hl : s.router.learn host answers now with
  | none => exact ⟨hp,fun _ => Iff.rfl⟩
  | some r =>
    obtain ⟨hg,hips⟩ := learn_grows hk hl
    have hr := learn_printed hp hanswers hl
    refine ⟨hr,fun he => ?_⟩
    have hs := synced_listed (s := { s with router := r }) now hg.kept hr
      (hg.killSwitchEnabled.trans he)
    simp only [hips] at hs
    rw [hs]
    simp only [Listed,hips]

lemma seedDnsSplitTunnelLeasesFromCache_pushes (rules : List String) (now : ℤ)
    (hk : s.router.Kept) (hp : s.router.Printed) :
    Pushes s (s.seedDnsSplitTunnelLeasesFromCache rules now) := by
  simp only [seedDnsSplitTunnelLeasesFromCache]
  split_ifs
  · exact ⟨hp,fun _ => Iff.rfl⟩
  · exact ⟨hp,fun _ => Iff.rfl⟩
  · exact ⟨hp,fun he => synced_listed now (seeded_grows hk).kept hp he⟩

lemma lookupAnswers_valid (addresses : List HostAddress) :
    ∀ ip ∈ (lookupAnswers addresses).map DnsIpv4Answer.address, isValidIpOrCidr ip := by
  intro ip hip
  simp only [lookupAnswers,map_map,mem_map,mem_filter] at hip
  obtain ⟨address,⟨-,hv⟩,rfl⟩ := hip
  cases address with
  | ipv4 a => exact isValidIpOrCidr_dotted a
  | _ => simp [HostAddress.isIPv4] at hv

lemma finishDnsSplitTunnelPrewarmHost_pushes (generation : ℕ) (host : String)
    (addresses : List HostAddress) (now : ℤ) (hk : s.router.Kept) (hp : s.router.Printed) :
    Pushes s (s.finishDnsSplitTunnelPrewarmHost generation host addresses now) := by
  simp only [finishDnsSplitTunnelPrewarmHost]
  split_ifs
  · exact ⟨hp,fun _ => Iff.rfl⟩
  · exact pumpDnsSplitTunnelPrewarm_pushes ⟨hp,fun _ => Iff.rfl⟩
  · have hk' := (setPrewarm_grows { s.router.prewarm with
      pending := s.router.prewarm.pending-1
      finished := s.router.prewarm.finished+1
      succeeded := s.router.prewarm.succeeded+1 } s.lookups (Grows.refl (fun _ => False) hk)).kept
    have hu := updateDnsSplitTunnelHostLeases_pushes host now hk' hp (lookupAnswers_valid addresses)
    exact pumpDnsSplitTunnelPrewarm_pushes ⟨hu.printed,hu.listed⟩

/-- The steps that keep routes and allow list together: a configuration that begins to ask for
it and keeps the leases finds the addresses on the list, and a call to the kill switch leaves
them there while it is asked for. -/
def KeepsTogether (s : Service) : Event → Prop
  | .configureDnsSplitTunnel rules gw killSwitchEnabled _ =>
    killSwitchEnabled → s.router.killSwitchEnabled = false → s.clears rules gw = false → s.Listed
  | .call call => s.router.killSwitchEnabled → s.killSwitch.Spares s.router.ips call
  | _ => True

/-- A configuration that asks for the synchronisation leaves the addresses listed exactly if
it clears them or they were listed before. -/
lemma configureDnsSplitTunnel_listed (rules : List String) (gw : String) (now : ℤ)
    (hk : s.router.Kept) (hp : s.router.Printed) :
    (s.configureDnsSplitTunnel rules gw true now).Listed ↔
      (s.clears rules gw = false → s.Listed) := by
  obtain ⟨prewarm,lookups,he,-⟩ := configureDnsSplitTunnel_frame rules gw true now s
  have hpush := seedDnsSplitTunnelLeasesFromCache_pushes rules now
    (reconfigured_kept rules gw true hk) (reconfigured_printed rules gw true hp)
  have hlisted : (s.configureDnsSplitTunnel rules gw true now).Listed ↔
      (s.reconfigured rules gw true).Listed := by
    rw [he]
    exact hpush.listed rfl
  rw [hlisted]
  cases hc : s.clears rules gw with
  | true => simp [Listed,hc]
  | false => simp [Listed,hc,reconfigured]

/-- What the equivalence rests on in every state. -/
def Sound (s : Service) : Prop := s.router.Kept ∧ s.router.Printed

lemma step_sound (s : Service) (e : Event) (h : s.Sound) : (s.step e).Sound := by
  obtain ⟨hk,hp⟩ := h
  refine ⟨step_kept s e hk,?_⟩
  cases e with
  | configureDnsSplitTunnel rules gw killSwitchEnabled now =>
    obtain ⟨prewarm,lookups,he,-⟩ := configureDnsSplitTunnel_frame rules gw killSwitchEnabled now s
    rw [step,he]
    exact (seedDnsSplitTunnelLeasesFromCache_pushes rules now
      (reconfigured_kept rules gw killSwitchEnabled hk)
      (reconfigured_printed rules gw killSwitchEnabled hp)).printed
  | hostResolved host answers now =>
    exact (updateDnsSplitTunnelHostLeases_pushes host now hk hp (printAnswers_valid answers)).printed
  | lookupFinished generation host addresses now =>
    exact (finishDnsSplitTunnelPrewarmHost_pushes
      (s := { s with lookups := s.lookups.erase (generation,host) }) generation host addresses now
      hk hp).printed
  | leaseTimeout => exact hp
  | call call => exact hp

lemma step_together_iff (s : Service) (e : Event) (h : s.Sound) (ht : s.Together) :
    (s.step e).Together ↔ s.KeepsTogether e := by
  obtain ⟨hk,hp⟩ := h
  cases e with
  | configureDnsSplitTunnel rules gw killSwitchEnabled now =>
    have hflag : (s.configureDnsSplitTunnel rules gw killSwitchEnabled
        now).router.killSwitchEnabled = killSwitchEnabled :=
      (configureDnsSplitTunnel_grows rules gw killSwitchEnabled now hk).killSwitchEnabled
    cases killSwitchEnabled with
    | false => simp [Together,step,hflag,KeepsTogether]
    | true =>
      simp only [Together,step,hflag,KeepsTogether,true_implies,
        configureDnsSplitTunnel_listed rules gw now hk hp]
      constructor
      · exact fun hl _ => hl
      · intro hl hc
        cases hs : s.router.killSwitchEnabled with
        | true => exact ht hs
        | false => exact hl hs hc
  | hostResolved host answers now =>
    have hg := updateDnsSplitTunnelHostLeases_grows host (printAnswers answers) now hk
    have hu := updateDnsSplitTunnelHostLeases_pushes host now hk hp (printAnswers_valid answers)
    simp only [KeepsTogether,iff_true]
    exact hu.together hg.killSwitchEnabled ht
  | lookupFinished generation host addresses now =>
    have hg := step_grows (e := .lookupFinished generation host addresses now) id hk
    have hu := finishDnsSplitTunnelPrewarmHost_pushes
      (s := { s with lookups := s.lookups.erase (generation,host) }) generation host addresses now
      hk hp
    simp only [KeepsTogether,iff_true]
    exact hu.together hg.killSwitchEnabled ht
  | leaseTimeout =>
    simp only [KeepsTogether,iff_true]
    exact ht
  | call call =>
    exact forall_congr' fun he => KillSwitch.spares_iff (ht he) call

/-- Routes and allow list stay together in exactly those runs all of whose steps keep them so. -/
theorem routes_and_allow_list_together_iff (strict : Bool) (events : List Event) :
    Runs.Always step Together (fresh strict) events ↔
      Runs.Guarded step KeepsTogether (fresh strict) events := by
  have hsound : (fresh strict).Sound := ⟨(fresh_matched strict).kept,by simp [Printed,fresh]⟩
  have htogether : (fresh strict).Together := by simp [Together,fresh]
  exact Runs.always_iff_guarded (D := fun _ => True) (fun s e _ => step_sound s e)
    (fun s e _ => step_together_iff s e) hsound htogether (fun _ _ => trivial)

/-- A tunnel for everything but listed sites. -/
def exceptSitesConfig : JsonObject :=
  [("vpnServer",.str "203.0.113.10"),("dns1",.str "1.1.1.1"),("splitTunnelType",.num 2),
    ("splitTunnelSites",.arr [])]

/-- A site is resolved, and then the connection is made again. -/
def reconnected : List Event :=
  resolvedSite++[.call (.enableKillSwitch exceptSitesConfig 0),
    .configureDnsSplitTunnel ["a.ru"] "192.168.1.1" true 2000]

omit [Qt] in
/-- The kill switch has forgotten the address of the site, and the router does not push it
again. -/
theorem reconnect_forgets_bypass :
    let s := Runs.run (@step dottedQt) (fresh false) reconnected
    s.router.ips = ["198.51.100.7"] ∧ s.killSwitch.allowedRanges = ["203.0.113.10"] ∧
      ¬s.Together := by
  have hstate : (Runs.run (@step dottedQt) (fresh false) reconnected).router.ips =
        ["198.51.100.7"] ∧
      (Runs.run (@step dottedQt) (fresh false) reconnected).router.killSwitchEnabled ∧
      (Runs.run (@step dottedQt) (fresh false) reconnected).killSwitch.allowedRanges =
        ["203.0.113.10"] := by
    decide +kernel
  obtain ⟨hips,henabled,hranges⟩ := hstate
  refine ⟨hips,hranges,?_⟩
  intro htogether
  have hlisted := htogether henabled "198.51.100.7" (by simp [hips])
  rw [hranges] at hlisted
  exact absurd hlisted (by decide)

end Service
end AlzheimerVPN
