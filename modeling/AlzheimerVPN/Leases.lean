import AlzheimerVPN.RouterMac

/-! What the operations of the router do to its leases. Routed addresses are
leased and leased addresses are cached, so that no operation but clearing loses
an address, and the cache gives back what clearing has dropped. -/
namespace AlzheimerVPN

open IpText List

namespace RouterMac

variable [Qt]

/-- Routed addresses are leased, and leased addresses are cached. -/
structure Kept (r : RouterMac) : Prop where
  leased : ∀ ip ∈ r.ips, ip ∈ r.activeDnsSplitTunnelIps
  accepted : ∀ ip ∈ r.ips, routeAccepted ip r.gateway
  format : ∀ {host leases}, r.hostLeases.lookup host = some leases →
    ∀ ip ∈ leases, checkIPv4Format ip
  cached : ∀ {host leases}, r.hostLeases.lookup host = some leases →
    ∃ answers, r.hostCache.lookup host = some answers ∧
      ∀ ip ∈ leases, ip ∈ answers.map DnsIpv4Answer.address

/-- A router with the same configuration that has lost no address; new leases are for
allowed hosts. -/
structure Grows (allowed : String → Prop) (r r' : RouterMac) : Prop where
  kept : r'.Kept
  gateway : r'.gateway = r.gateway
  killSwitchEnabled : r'.killSwitchEnabled = r.killSwitchEnabled
  rulesKey : r'.rulesKey = r.rulesKey
  observerRules : r'.observerRules = r.observerRules
  ips : ∀ ip ∈ r.ips, ip ∈ r'.ips
  hosts : ∀ {host leases}, r'.hostLeases.lookup host = some leases →
    allowed host ∨ ∃ old, r.hostLeases.lookup host = some old

variable {r r' : RouterMac}

lemma Grows.refl (allowed : String → Prop) (h : r.Kept) : Grows allowed r r :=
  ⟨h,rfl,rfl,rfl,rfl,fun _ => id,fun hl => Or.inr ⟨_,hl⟩⟩

omit [Qt] in
lemma active_mono (h : ∀ {host leases}, r.hostLeases.lookup host = some leases →
      ∃ renewed, r'.hostLeases.lookup host = some renewed ∧ ∀ ip ∈ leases, ip ∈ renewed)
    {ip : String} (hip : ip ∈ r.activeDnsSplitTunnelIps) : ip ∈ r'.activeDnsSplitTunnelIps := by
  obtain ⟨host,leases,hl,hm⟩ := mem_active.mp hip
  obtain ⟨renewed,hr,hsub⟩ := h hl
  exact mem_active.mpr ⟨host,renewed,hr,hsub ip hm⟩

omit [Qt] in
lemma lookup_insert_cases {β : Type} {entries : AList fun _ : String => β} {key other : String}
    {new found : β} (h : (entries.insert key new).lookup other = some found) :
    other = key ∧ found = new ∨ other ≠ key ∧ entries.lookup other = some found := by
  by_cases he : other = key
  · subst he
    rw [AList.lookup_insert] at h
    exact Or.inl ⟨rfl,(Option.some.inj h).symm⟩
  · rw [AList.lookup_insert_ne he] at h
    exact Or.inr ⟨he,h⟩

variable {now : ℤ}

/-- Learned answers add to the leases of their host. -/
lemma learn_grows {host : String} {answers : List DnsIpv4Answer} (h : r.Kept)
    (hl : r.learn host answers now = some r') : Grows (· = host) r r' ∧ r'.ips = r.ips := by
  simp only [learn] at hl
  split_ifs at hl
  obtain rfl := Option.some.inj hl
  have hold : ∀ ip ∈ (r.hostLeases.lookup host).getD ∅,
      ∃ leases, r.hostLeases.lookup host = some leases ∧ ip ∈ leases := by
    intro ip hip
    cases hh : r.hostLeases.lookup host with
    | none => simp [hh] at hip
    | some leases => exact ⟨leases,rfl,by simpa [hh] using hip⟩
  refine ⟨⟨⟨?_,h.accepted,?_,?_⟩,rfl,rfl,rfl,rfl,fun _ => id,?_⟩,rfl⟩
  · intro ip hip
    refine active_mono ?_ (h.leased ip hip)
    intro other leases ho
    by_cases he : other = host
    · subst he
      exact ⟨_,AList.lookup_insert _,fun ip hip => mem_leaseAnswers.mpr (Or.inl (by simpa [ho]))⟩
    · exact ⟨leases,by rw [AList.lookup_insert_ne he,ho],fun _ => id⟩
  · intro other leases ho ip hip
    rcases lookup_insert_cases ho with ⟨rfl,rfl⟩ | ⟨-,ho⟩
    · rcases mem_leaseAnswers.mp hip with hip | hip
      · obtain ⟨leases,hh,hm⟩ := hold ip hip
        exact h.format hh ip hm
      · exact hip.1
    · exact h.format ho ip hip
  · intro other leases ho
    rcases lookup_insert_cases ho with ⟨rfl,rfl⟩ | ⟨hne,ho⟩
    · refine ⟨_,AList.lookup_insert _,?_⟩
      intro ip hip
      rw [mem_cacheAnswers]
      rcases mem_leaseAnswers.mp hip with hip | hip
      · obtain ⟨leases,hh,hm⟩ := hold ip hip
        obtain ⟨cached,hc,hsub⟩ := h.cached hh
        exact Or.inl (by simpa [hc] using hsub ip hm)
      · exact Or.inr hip
    · obtain ⟨cached,hc,hsub⟩ := h.cached ho
      exact ⟨cached,by rw [AList.lookup_insert_ne hne,hc],hsub⟩
  · intro other leases ho
    rcases lookup_insert_cases ho with ⟨rfl,-⟩ | ⟨-,ho⟩
    · exact Or.inl rfl
    · exact Or.inr ⟨leases,ho⟩

variable {rules : List String}

/-- A lease of a seeded router is an old one or one for all cached addresses of the host. -/
lemma seeded_cases {host : String} {leases : Leases}
    (hl : (seeded (r.seeds rules now) r.hostLeases).lookup host = some leases) :
    r.hostLeases.lookup host = some leases ∨ ∃ answers, r.hostCache.lookup host = some answers ∧
        dnsSplitTunnelHostMatchesRules host rules ∧
        ∀ ip, ip ∈ leases ↔ checkIPv4Format ip ∧ ip ∈ answers.map DnsIpv4Answer.address := by
  rcases lookup_seeded host (r.seeds rules now) r.hostLeases with ⟨-,hs⟩ | ⟨renewed,hm,hs⟩
  · exact Or.inl (hs.symm.trans hl)
  · obtain ⟨answers,hc,hmatch,-,rfl⟩ := mem_seeds.mp hm
    obtain rfl := Option.some.inj (hs.symm.trans hl)
    exact Or.inr ⟨answers,hc,hmatch,fun ip => by simp [mem_leaseAnswers]⟩

/-- A cached address of a host that matches is leased after seeding. -/
lemma seeded_leases {host ip : String} (now : ℤ) {answers : List DnsIpv4Answer}
    (hc : r.hostCache.lookup host = some answers)
    (hmatch : dnsSplitTunnelHostMatchesRules host rules)
    (hformat : checkIPv4Format ip) (hip : ip ∈ answers.map DnsIpv4Answer.address) :
    (host,leaseAnswers now answers ∅) ∈ r.seeds rules now ∧
      ∃ leases, (seeded (r.seeds rules now) r.hostLeases).lookup host = some leases ∧
        ip ∈ leases := by
  have hl : ip ∈ leaseAnswers now answers ∅ := mem_leaseAnswers.mpr (Or.inr ⟨hformat,hip⟩)
  have hne : (leaseAnswers now answers ∅).entries.isEmpty = false := by
    rw [isEmpty_eq_false_iff]
    intro hnil
    simp [AList.mem_keys,AList.keys,hnil] at hl
  have hm : (host,leaseAnswers now answers ∅) ∈ r.seeds rules now :=
    mem_seeds.mpr ⟨answers,hc,hmatch,hne,rfl⟩
  refine ⟨hm,?_⟩
  rcases lookup_seeded host (r.seeds rules now) r.hostLeases with ⟨hnot,-⟩ | ⟨renewed,hr,hs⟩
  · exact absurd hm (hnot _)
  · obtain ⟨answers',hc',-,-,rfl⟩ := mem_seeds.mp hr
    obtain rfl := Option.some.inj (hc.symm.trans hc')
    exact ⟨_,hs,hl⟩

/-- Seeding renews leases from the cache. -/
lemma seeded_grows (h : r.Kept) : Grows (dnsSplitTunnelHostMatchesRules · rules) r
      { r with hostLeases := seeded (r.seeds rules now) r.hostLeases } := by
  refine ⟨⟨?_,h.accepted,?_,?_⟩,rfl,rfl,rfl,rfl,fun _ => id,?_⟩
  · intro ip hip
    refine active_mono ?_ (h.leased ip hip)
    intro host leases hl
    obtain ⟨cached,hc,hsub⟩ := h.cached hl
    rcases lookup_seeded host (r.seeds rules now) r.hostLeases with ⟨-,hs⟩ | ⟨renewed,-,hs⟩
    · exact ⟨leases,hs.trans hl,fun _ => id⟩
    · refine ⟨renewed,hs,?_⟩
      rcases seeded_cases hs with ho | ⟨answers,hc',-,hmem⟩
      · rw [Option.some.inj (ho.symm.trans hl)]
        exact fun _ => id
      · obtain rfl := Option.some.inj (hc.symm.trans hc')
        exact fun ip hip => (hmem ip).mpr ⟨h.format hl ip hip,hsub ip hip⟩
  · intro host leases hl ip hip
    rcases seeded_cases hl with hl | ⟨answers,-,-,hmem⟩
    · exact h.format hl ip hip
    · exact ((hmem ip).mp hip).1
  · intro host leases hl
    rcases seeded_cases hl with hl | ⟨answers,hc,-,hmem⟩
    · exact h.cached hl
    · exact ⟨answers,hc,fun ip hip => ((hmem ip).mp hip).2⟩
  · intro host leases hl
    rcases seeded_cases hl with hl | ⟨-,-,hmatch,-⟩
    · exact Or.inr ⟨leases,hl⟩
    · exact Or.inl hmatch

/-- The rules count as a set. -/
lemma dnsSplitTunnelHostMatchesRules_congr {rules' : List String} (host : String)
    (h : ∀ rule, rule ∈ rules ↔ rule ∈ rules') :
    dnsSplitTunnelHostMatchesRules host rules = dnsSplitTunnelHostMatchesRules host rules' := by
  rw [Bool.eq_iff_iff]
  simp only [dnsSplitTunnelHostMatchesRules,any_eq_true,h]

omit [Qt] in
lemma mem_of_sortedRules {rules rules' : List String} (h : sortedRules rules = sortedRules rules')
    (rule : String) : rule ∈ rules ↔ rule ∈ rules' := by
  rw [← (perm_insertionSort (· ≤ ·) rules).mem_iff,← (perm_insertionSort (· ≤ ·) rules').mem_iff]
  exact iff_of_eq (congrArg (rule ∈ ·) h)

end RouterMac

namespace Service

open RouterMac

/-- The prewarm has only started lookups of its queue. -/
structure Pumped (s s' : Service) : Prop where
  generation : s'.router.prewarm.generation = s.router.prewarm.generation
  queue : ∀ host ∈ s'.router.prewarm.queue, host ∈ s.router.prewarm.queue
  lookups : ∀ lookup ∈ s'.lookups, lookup ∈ s.lookups ∨
    lookup.1 = s.router.prewarm.generation ∧ lookup.2 ∈ s.router.prewarm.queue

lemma Pumped.refl (s : Service) : Pumped s s := ⟨rfl,fun _ => id,fun _ => Or.inl⟩

lemma pumpDnsSplitTunnelPrewarm_pumped (s : Service) : Pumped s s.pumpDnsSplitTunnelPrewarm := by
  obtain ⟨prewarm,lookups,h,hg,hq,hl⟩ :=
    pump_frame s.router.prewarm.generation s.router.prewarm.queue s
  rw [pumpDnsSplitTunnelPrewarm,h]
  exact ⟨hg,fun host hm => (hq host hm).elim id id,hl⟩

section

variable (s : Service) (rules : List String) (gw : String) (killSwitchEnabled : Bool)

/-- The service with its new configuration, before the cache is read. -/
def reconfigured : Service :=
  let s' := if s.clears rules gw then s.clearDnsSplitTunnelLeases else s
  { s' with router := { s'.router with
    gateway := gw
    killSwitchEnabled := killSwitchEnabled
    rulesKey := sortedRules rules
    observerRules := rules } }

@[simp] lemma reconfigured_gateway :
    (s.reconfigured rules gw killSwitchEnabled).router.gateway = gw := rfl
@[simp] lemma reconfigured_prewarm :
    (s.reconfigured rules gw killSwitchEnabled).router.prewarm = s.router.prewarm := by
  simp only [reconfigured]
  split_ifs <;> rfl
@[simp] lemma reconfigured_lookups :
    (s.reconfigured rules gw killSwitchEnabled).lookups = s.lookups := by
  simp only [reconfigured]
  split_ifs <;> rfl
@[simp] lemma reconfigured_hostCache :
    (s.reconfigured rules gw killSwitchEnabled).router.hostCache = s.router.hostCache := by
  simp only [reconfigured]
  split_ifs <;> rfl
@[simp] lemma reconfigured_hostLeases :
    (s.reconfigured rules gw killSwitchEnabled).router.hostLeases =
      if s.clears rules gw then ∅ else s.router.hostLeases := by
  simp only [reconfigured]
  split_ifs <;> rfl
@[simp] lemma reconfigured_ips : (s.reconfigured rules gw killSwitchEnabled).router.ips =
      if s.clears rules gw then [] else s.router.ips := by
  simp only [reconfigured]
  split_ifs <;> rfl

/-- What has not been cleared belongs to the same gateway and the same rules. -/
lemma clears_eq_false {s : Service} {rules : List String} {gw : String}
    (h : s.clears rules gw = false) :
    s.router.gateway = gw ∧ s.router.rulesKey = sortedRules rules ∧ rules ≠ [] := by
  simpa [clears,and_assoc] using h

end

variable [Qt] {s : Service}

lemma mem_synced_ips (h : s.router.Kept) (now : ℤ) (ip : String) :
    ip ∈ (s.synced s.router.ips now).router.ips ↔
      ip ∈ s.router.ips ∨ ip ∈ s.router.activeDnsSplitTunnelIps ∧
        routeAccepted ip s.router.gateway := by
  have hsync : ip ∈ (s.synced s.router.ips now).router.ips ↔
    ip ∈ (s.syncDnsSplitTunnelIps s.router.ips).router.ips := Iff.rfl
  rw [hsync,mem_syncDnsSplitTunnelIps]
  constructor
  · rintro ⟨hip | ⟨ha,-,hr⟩,-⟩
    · exact Or.inl hip
    · exact Or.inr ⟨ha,hr⟩
  · rintro (hip | ⟨ha,hr⟩)
    · exact ⟨Or.inl hip,fun hn => hn.2.1 (h.leased ip hip)⟩
    · refine ⟨?_,fun hn => hn.2.1 ha⟩
      by_cases hip : ip ∈ s.router.ips
      · exact Or.inl hip
      · exact Or.inr ⟨ha,hip,hr⟩

variable {allowed : String → Prop} {r : RouterMac} {now : ℤ}

/-- A synchronisation with the addresses of the router itself loses none of them. -/
lemma synced_grows (h : Grows allowed r s.router) (hips : s.router.ips = r.ips) :
    Grows allowed r (s.synced r.ips now).router := by
  have hmem := mem_synced_ips h.kept now
  rw [hips] at hmem
  refine { h with kept := { h.kept with leased := ?_, accepted := ?_ }, ips := ?_ }
  · intro ip hip
    rcases (hmem ip).mp hip with hip | hip
    · exact h.kept.leased ip (hips ▸ hip)
    · exact hip.1
  · intro ip hip
    rcases (hmem ip).mp hip with hip | hip
    · exact h.kept.accepted ip (hips ▸ hip)
    · exact hip.2
  · intro ip hip
    exact (hmem ip).mpr (Or.inl hip)

lemma updateDnsSplitTunnelHostLeases_grows (host : String) (answers : List DnsIpv4Answer)
    (now : ℤ) (h : s.router.Kept) :
    Grows (· = host) s.router (s.updateDnsSplitTunnelHostLeases host answers now).router := by
  simp only [updateDnsSplitTunnelHostLeases]
  cases hl : s.router.learn host answers now with
  | none => exact Grows.refl _ h
  | some r =>
    obtain ⟨hg,hips⟩ := learn_grows h hl
    exact synced_grows hg hips

lemma seedDnsSplitTunnelLeasesFromCache_grows {rules : List String} (h : s.router.Kept) :
    Grows (dnsSplitTunnelHostMatchesRules · rules) s.router
      (s.seedDnsSplitTunnelLeasesFromCache rules now).router := by
  simp only [seedDnsSplitTunnelLeasesFromCache]
  split_ifs
  · exact Grows.refl _ h
  · exact Grows.refl _ h
  · exact synced_grows (seeded_grows h) rfl

lemma updateDnsSplitTunnelHostLeases_frame (host : String) (answers : List DnsIpv4Answer)
    (now : ℤ) :
    (s.updateDnsSplitTunnelHostLeases host answers now).router.prewarm = s.router.prewarm ∧
      (s.updateDnsSplitTunnelHostLeases host answers now).lookups = s.lookups := by
  simp only [updateDnsSplitTunnelHostLeases]
  cases hl : s.router.learn host answers now with
  | none => exact ⟨rfl,rfl⟩
  | some r =>
    refine ⟨?_,rfl⟩
    simp only [learn] at hl
    split_ifs at hl
    obtain rfl := Option.some.inj hl
    rfl

lemma seedDnsSplitTunnelLeasesFromCache_frame (rules : List String) (now : ℤ) :
    (s.seedDnsSplitTunnelLeasesFromCache rules now).router.prewarm = s.router.prewarm ∧
      (s.seedDnsSplitTunnelLeasesFromCache rules now).lookups = s.lookups := by
  simp only [seedDnsSplitTunnelLeasesFromCache]
  split_ifs <;> exact ⟨rfl,rfl⟩

/-- The bookkeeping of the prewarm has no part in the leases. -/
lemma setPrewarm_grows (prewarm : Prewarm) (lookups : List (ℕ × String))
    (h : Grows allowed r s.router) : Grows allowed r (s.setPrewarm prewarm lookups).router :=
  { h with kept := { h.kept with } }

lemma pumpDnsSplitTunnelPrewarm_grows (h : Grows allowed r s.router) :
    Grows allowed r s.pumpDnsSplitTunnelPrewarm.router := by
  obtain ⟨prewarm,lookups,he,-⟩ := pump_frame s.router.prewarm.generation s.router.prewarm.queue s
  rw [pumpDnsSplitTunnelPrewarm,he]
  exact setPrewarm_grows prewarm lookups h

section

variable (generation : ℕ) (host : String) (addresses : List HostAddress) (now : ℤ)

lemma finishDnsSplitTunnelPrewarmHost_pumped :
    Pumped s (s.finishDnsSplitTunnelPrewarmHost generation host addresses now) := by
  simp only [finishDnsSplitTunnelPrewarmHost]
  split_ifs
  · exact Pumped.refl s
  · exact { pumpDnsSplitTunnelPrewarm_pumped _ with }
  · set s' := s.setPrewarm { s.router.prewarm with
      pending := s.router.prewarm.pending-1
      finished := s.router.prewarm.finished+1
      succeeded := s.router.prewarm.succeeded+1 } s.lookups with hs'
    obtain ⟨hprewarm,hlookups⟩ :=
      updateDnsSplitTunnelHostLeases_frame (s := s') host (lookupAnswers addresses) now
    obtain ⟨hg,hq,hl⟩ := pumpDnsSplitTunnelPrewarm_pumped
      (s'.updateDnsSplitTunnelHostLeases host (lookupAnswers addresses) now)
    rw [hprewarm] at hg hq hl
    rw [hlookups] at hl
    exact ⟨hg,hq,hl⟩

/-- A lookup of the current prewarm teaches the addresses of its host, any other nothing. -/
lemma finishDnsSplitTunnelPrewarmHost_grows (h : s.router.Kept) :
    Grows (fun other => generation = s.router.prewarm.generation ∧ other = host) s.router
      (s.finishDnsSplitTunnelPrewarmHost generation host addresses now).router := by
  simp only [finishDnsSplitTunnelPrewarmHost]
  split_ifs with hg
  · exact Grows.refl _ h
  · exact pumpDnsSplitTunnelPrewarm_grows (setPrewarm_grows _ _ (Grows.refl _ h))
  · have hl (prewarm : Prewarm) := updateDnsSplitTunnelHostLeases_grows host
      (lookupAnswers addresses) now
      (setPrewarm_grows prewarm s.lookups (Grows.refl (fun _ => False) h)).kept
    refine pumpDnsSplitTunnelPrewarm_grows { hl _ with hosts := ?_ }
    intro other leases ho
    exact ((hl _).hosts ho).imp (fun he => ⟨not_not.mp hg,he⟩) id

end

/-- The cache gives back every address of a cleared router. -/
lemma seedDnsSplitTunnelLeasesFromCache_regains {rules : List String} (h : r.Kept)
    (hmatch : ∀ {host leases}, r.hostLeases.lookup host = some leases →
      dnsSplitTunnelHostMatchesRules host rules)
    (hrules : rules ≠ []) (hcache : s.router.hostCache = r.hostCache)
    (hgateway : s.router.gateway = r.gateway) (hips : s.router.ips = []) {ip : String}
    (hip : ip ∈ r.ips) : ip ∈ (s.seedDnsSplitTunnelLeasesFromCache rules now).router.ips := by
  obtain ⟨host,leases,hl,hm⟩ := mem_active.mp (h.leased ip hip)
  obtain ⟨answers,hc,hsub⟩ := h.cached hl
  have haccepted := h.accepted ip hip
  obtain ⟨hseed,leases',hl',hm'⟩ := seeded_leases (r := s.router) now (hcache ▸ hc)
    (hmatch hl) (h.format hl ip hm) (hsub ip hm)
  have hgw : s.router.gateway.isEmpty = false := by
    rw [hgateway]
    by_contra hne
    simp_all [routeAccepted,checkIPv4Format]
  have hentries : s.router.hostCache.entries.isEmpty = false := by
    rw [isEmpty_eq_false_iff,hcache]
    exact ne_nil_of_mem (AList.mem_lookup_iff.mp hc)
  have hseeds : (s.router.seeds rules now).isEmpty = false := by
    rw [isEmpty_eq_false_iff]
    exact ne_nil_of_mem hseed
  have hrules' : rules.isEmpty = false := isEmpty_eq_false_iff.mpr hrules
  have hactive : ip ∈ { s.router with
      hostLeases := seeded (s.router.seeds rules now) s.router.hostLeases }.activeDnsSplitTunnelIps :=
    mem_active.mpr ⟨host,leases',hl',hm'⟩
  simp only [seedDnsSplitTunnelLeasesFromCache,hgw,hentries,hseeds,hrules',
    Bool.false_eq_true,Bool.or_false,if_false]
  refine mem_syncDnsSplitTunnelIps.mpr ⟨Or.inr ⟨hactive,by simp [hips],?_⟩,by simp [hips]⟩
  exact hgateway ▸ haccepted

section

variable (rules : List String) (gw : String) (killSwitchEnabled : Bool) (now : ℤ)

lemma reconfigured_kept (h : s.router.Kept) :
    (s.reconfigured rules gw killSwitchEnabled).router.Kept := by
  cases hc : s.clears rules gw with
  | true => constructor <;> simp [hc]
  | false =>
    obtain ⟨rfl,-⟩ := clears_eq_false hc
    refine ⟨?_,?_,?_,?_⟩
    · intro ip hip
      refine active_mono ?_ (h.leased ip (by simpa [hc] using hip))
      exact fun hl => ⟨_,by simpa [hc] using hl,fun _ => id⟩
    · simpa [hc] using h.accepted
    · intro host leases hl
      exact h.format (by simpa [hc] using hl)
    · intro host leases hl
      simpa using h.cached (by simpa [hc] using hl)

/-- A configuration is a reconfiguration, a look into the cache and a new prewarm. -/
lemma configureDnsSplitTunnel_frame (s : Service) :
    ∃ prewarm lookups, s.configureDnsSplitTunnel rules gw killSwitchEnabled now =
        ((s.reconfigured rules gw killSwitchEnabled).seedDnsSplitTunnelLeasesFromCache
          rules now).setPrewarm prewarm lookups ∧
      prewarm.generation = s.router.prewarm.generation+1 ∧
      (∀ host ∈ prewarm.queue, host ∈ prewarmHosts rules) ∧
      ∀ lookup ∈ lookups, lookup ∈ s.lookups ∨
        lookup.1 = s.router.prewarm.generation+1 ∧ lookup.2 ∈ prewarmHosts rules := by
  obtain ⟨prewarm,lookups,he,hg,hq,hl⟩ := startDnsSplitTunnelPrewarm_frame
    ((s.reconfigured rules gw killSwitchEnabled).seedDnsSplitTunnelLeasesFromCache rules now) rules
  obtain ⟨hprewarm,hlookups⟩ := seedDnsSplitTunnelLeasesFromCache_frame
    (s := s.reconfigured rules gw killSwitchEnabled) rules now
  rw [hprewarm,reconfigured_prewarm] at hg hl
  rw [hlookups,reconfigured_lookups] at hl
  exact ⟨prewarm,lookups,he,hg,hq,hl⟩

lemma configureDnsSplitTunnel_grows (h : s.router.Kept) :
    Grows (dnsSplitTunnelHostMatchesRules · rules)
      (s.reconfigured rules gw killSwitchEnabled).router
      (s.configureDnsSplitTunnel rules gw killSwitchEnabled now).router := by
  obtain ⟨prewarm,lookups,he,-⟩ := configureDnsSplitTunnel_frame rules gw killSwitchEnabled now s
  rw [he]
  exact setPrewarm_grows _ _ (seedDnsSplitTunnelLeasesFromCache_grows
    (reconfigured_kept rules gw killSwitchEnabled h))

end

end Service
end AlzheimerVPN
