import Mathlib.Data.List.AList
import Mathlib.Data.List.Sort
import AlzheimerVPN.DnsMessageParser
import AlzheimerVPN.KillSwitch
import AlzheimerVPN.SplitTunnelRule

/-! The DNS split tunnel of `RouterMac` beside the kill switch. Addresses that a
host with a rule resolves to are leased, cached, routed past the tunnel and
pushed to the allow list. Route commands are taken to succeed; the fields of
the router lack their common prefix `m_dnsSplitTunnel`. -/
namespace AlzheimerVPN

open Text IpText DnsIpv4Answer List

/-- Leased addresses with the time in milliseconds at which each lease runs out. -/
abbrev Leases := AList fun _ : String => ℤ

/-- The bookkeeping of the lookups that are started for exact rules. -/
structure Prewarm where
  queue : List String
  generation : ℕ
  total : ℕ
  started : ℕ
  finished : ℕ
  succeeded : ℕ
  failed : ℕ
  pending : ℤ

structure RouterMac where
  gateway : String
  killSwitchEnabled : Bool
  ips : List String
  rulesKey : List String
  hostLeases : AList fun _ : String => Leases
  hostCache : AList fun _ : String => List DnsIpv4Answer
  leaseTimer : Option ℤ
  /-- The rules of the DNS observer, set through `m_dnsUtil`. -/
  observerRules : List String
  prewarm : Prewarm

/-- The router and the kill switch of the service, with the lookups that are under way. -/
structure Service where
  router : RouterMac
  killSwitch : KillSwitch
  lookups : List (ℕ × String)

def NetworkUtilities.ipAddressFromIpWithSubnet (ip : String) : String :=
  if ip.toList.count '.' != 3 then "" else (split ip '/').headD ""

namespace RouterMac

def prewarmConcurrency : ℤ := 8

/-- The sorted rules. -/
def sortedRules (rules : List String) : List String := rules.insertionSort (· ≤ ·)

section

variable [Qt]

/-- The checks in front of every route command. -/
def routeAccepted (ipWithSubnet gw : String) : Bool :=
  checkIPv4Format (NetworkUtilities.ipAddressFromIpWithSubnet ipWithSubnet) && checkIPv4Format gw

def routeAddTransient (ipWithSubnet gw : String) : Bool := routeAccepted ipWithSubnet gw

def routeDelete (ipWithSubnet gw : String) : Bool := routeAccepted ipWithSubnet gw

def dnsSplitTunnelHostMatchesRules (host : String) (rules : List String) : Bool :=
  rules.any fun ruleText =>
    (SplitTunnelRule.fromText ruleText).isValid &&
      (SplitTunnelRule.fromText ruleText).matchesHost host

/-- The leases with those of the answers, each for one second to one day. -/
def leaseAnswers (now : ℤ) : List DnsIpv4Answer → Leases → Leases
  | [], leases => leases
  | answer::answers, leases =>
    leaseAnswers now answers (if !checkIPv4Format answer.address then leases
        else leases.insert answer.address (now + 1000 * max 1 (min answer.ttlSeconds 86400)))

/-- The cached answers with those for new addresses. -/
def cacheAnswers : List DnsIpv4Answer → List DnsIpv4Answer → List DnsIpv4Answer
  | [], cached => cached
  | answer::answers, cached =>
    cacheAnswers answers (if !checkIPv4Format answer.address then cached
        else if (cached.map address).contains answer.address then cached
        else cached++[answer])

variable (s : RouterMac)

def activeDnsSplitTunnelIps : List String :=
  (s.hostLeases.entries.flatMap fun e => e.2.keys).eraseDups

/-- The router with the answers for a host leased and cached, or nothing to do. -/
def learn (host : String) (answers : List DnsIpv4Answer) (now : ℤ) : Option RouterMac :=
  if s.gateway.isEmpty || answers.isEmpty then none
  else
    let leases := leaseAnswers now answers ((s.hostLeases.lookup host).getD ∅)
    let cached := cacheAnswers answers ((s.hostCache.lookup host).getD [])
    if leases.entries.isEmpty then none
    else some { s with hostLeases := s.hostLeases.insert host leases
                       hostCache := s.hostCache.insert host cached }

/-- The cached hosts that match a rule, with their leases renewed. -/
def seeds (rules : List String) (now : ℤ) : List (String × Leases) :=
  s.hostCache.entries.filterMap fun e =>
    if !dnsSplitTunnelHostMatchesRules e.1 rules then none
    else if (leaseAnswers now e.2 ∅).entries.isEmpty then none
    else some (e.1,leaseAnswers now e.2 ∅)

def seeded : List (String × Leases) → (AList fun _ : String => Leases) →
    AList fun _ : String => Leases
  | [], leases => leases
  | seed::rest, leases => seeded rest (leases.insert seed.1 seed.2)

/-- The timer runs until the next lease is due. -/
def scheduleDnsSplitTunnelLeaseTimer (now : ℤ) : RouterMac :=
  let due := (s.hostLeases.entries.flatMap fun e => e.2.entries.map Sigma.snd).filter (now < ·)
  { s with leaseTimer := due.min?.map fun next => max 1 (next - now) }

def expireDnsSplitTunnelLeases : RouterMac := { s with leaseTimer := none }

omit [Qt] in
lemma mem_active {s : RouterMac} {ip : String} :
    ip ∈ s.activeDnsSplitTunnelIps ↔ ∃ host leases, s.hostLeases.lookup host = some leases ∧
      ip ∈ leases := by
  simp only [activeDnsSplitTunnelIps,mem_eraseDups,mem_flatMap]
  constructor
  · rintro ⟨⟨host,leases⟩,he,hip⟩
    exact ⟨host,leases,AList.mem_lookup_iff.mpr he,hip⟩
  · rintro ⟨host,leases,he,hip⟩
    exact ⟨⟨host,leases⟩,AList.mem_lookup_iff.mp he,hip⟩

lemma mem_leaseAnswers {now : ℤ} {answers : List DnsIpv4Answer} {leases : Leases} {ip : String} :
    ip ∈ leaseAnswers now answers leases ↔
      ip ∈ leases ∨ checkIPv4Format ip ∧ ip ∈ answers.map address := by
  induction answers generalizing leases with
  | nil => simp [leaseAnswers]
  | cons answer answers ih =>
    rw [leaseAnswers,ih]
    by_cases hf : checkIPv4Format answer.address
    · by_cases hip : ip = answer.address
      · simp [hf,hip]
      · simp [hf,hip]
    · by_cases hip : ip = answer.address
      · simp [hf,hip]
      · simp [hf,hip]

lemma mem_cacheAnswers {answers cached : List DnsIpv4Answer} {ip : String} :
    ip ∈ (cacheAnswers answers cached).map address ↔
      ip ∈ cached.map address ∨ checkIPv4Format ip ∧ ip ∈ answers.map address := by
  induction answers generalizing cached with
  | nil => simp [cacheAnswers]
  | cons answer answers ih =>
    rw [cacheAnswers,ih]
    by_cases hip : ip = answer.address
    · subst hip
      by_cases hf : checkIPv4Format answer.address
      · by_cases hc : answer.address ∈ cached.map address
        · simp [hf,hc]
        · simp [hf,hc]
      · simp [hf]
    · split_ifs <;> simp [hip]

lemma mem_seeds {s : RouterMac} {rules : List String} {now : ℤ} {host : String}
    {leases : Leases} :
    (host,leases) ∈ s.seeds rules now ↔ ∃ answers, s.hostCache.lookup host = some answers ∧
      dnsSplitTunnelHostMatchesRules host rules ∧
      (leaseAnswers now answers ∅).entries.isEmpty = false ∧
      leases = leaseAnswers now answers ∅ := by
  simp only [seeds,mem_filterMap]
  constructor
  · rintro ⟨⟨host',answers⟩,he,h⟩
    split_ifs at h with hm hn
    obtain ⟨rfl,rfl⟩ := Prod.mk.inj (Option.some.inj h)
    exact ⟨answers,AList.mem_lookup_iff.mpr he,by simpa using hm,by simpa using hn,rfl⟩
  · rintro ⟨answers,he,hm,hn,rfl⟩
    exact ⟨⟨host,answers⟩,AList.mem_lookup_iff.mp he,by simp [hm,hn]⟩

omit [Qt] in
/-- A host keeps its leases unless it is seeded. -/
lemma lookup_seeded (host : String) (hits : List (String × Leases))
    (leases : AList fun _ : String => Leases) :
    ((∀ renewed, (host,renewed) ∉ hits) ∧ (seeded hits leases).lookup host = leases.lookup host) ∨
    ∃ renewed, (host,renewed) ∈ hits ∧ (seeded hits leases).lookup host = some renewed := by
  induction hits generalizing leases with
  | nil => exact Or.inl ⟨by simp,rfl⟩
  | cons hit hits ih =>
    rcases hit with ⟨host',renewed'⟩
    rcases ih (leases.insert host' renewed') with ⟨hnot,hl⟩ | ⟨renewed,hm,hl⟩
    · by_cases he : host = host'
      · subst he
        exact Or.inr ⟨renewed',by simp,by rw [seeded,hl,AList.lookup_insert]⟩
      · refine Or.inl ⟨?_,by rw [seeded,hl,AList.lookup_insert_ne he]⟩
        intro renewed hm
        rcases mem_cons.mp hm with hm | hm
        · exact he (Prod.mk.inj hm).1
        · exact hnot renewed hm
    · exact Or.inr ⟨renewed,mem_cons_of_mem _ hm,hl⟩

end
end RouterMac

namespace Service

open RouterMac

def setPrewarm (s : Service) (prewarm : Prewarm) (lookups : List (ℕ × String)) : Service :=
  { s with router := { s.router with prewarm := prewarm }, lookups := lookups }

section

variable [Qt] (s : Service)

/-- Only the differences between two sets of addresses are pushed to the kill switch. -/
def syncDnsSplitTunnelIps (before : List String) : Service :=
  let desired := s.router.activeDnsSplitTunnelIps
  let added := desired.filter fun ip =>
    !before.contains ip && routeAddTransient ip s.router.gateway
  let removed := before.filter fun ip => !desired.contains ip && routeDelete ip s.router.gateway
  let ips := (s.router.ips++added.filter fun ip => !s.router.ips.contains ip).filter fun ip =>
    !removed.contains ip
  let k := if !added.isEmpty && s.router.killSwitchEnabled then
      (s.killSwitch.addAllowedRange added).1 else s.killSwitch
  let k := if !removed.isEmpty && s.router.killSwitchEnabled then
      (k.removeAllowedRange removed).1 else k
  { s with router := { s.router with ips := ips }, killSwitch := k }

/-- The leases have changed from those that gave `before`. -/
def synced (before : List String) (now : ℤ) : Service :=
  let s' := s.syncDnsSplitTunnelIps before
  { s' with router := s'.router.scheduleDnsSplitTunnelLeaseTimer now }

def updateDnsSplitTunnelHostLeases (host : String) (answers : List DnsIpv4Answer) (now : ℤ) :
    Service :=
  match s.router.learn host answers now with
  | none => s
  | some router => { s with router := router }.synced s.router.ips now

def clearDnsSplitTunnelLeases : Service :=
  let k := if !s.router.ips.isEmpty && !s.router.gateway.isEmpty && s.router.killSwitchEnabled then
      (s.killSwitch.removeAllowedRange s.router.ips).1 else s.killSwitch
  { s with router := { s.router with leaseTimer := none, ips := [], hostLeases := ∅ }
           killSwitch := k }

def seedDnsSplitTunnelLeasesFromCache (rules : List String) (now : ℤ) : Service :=
  if s.router.gateway.isEmpty || rules.isEmpty || s.router.hostCache.entries.isEmpty then s
  else if (s.router.seeds rules now).isEmpty then s
  else
    { s with router := { s.router with
      hostLeases := seeded (s.router.seeds rules now) s.router.hostLeases } }.synced s.router.ips now

/-- Starts lookups from the queue while fewer than eight are pending. -/
def pump (generation : ℕ) : List String → Service → Service
  | [], s => s
  | host::queue, s =>
    if s.router.prewarm.pending < prewarmConcurrency then
      pump generation queue (s.setPrewarm { s.router.prewarm with
            queue := queue
            started := s.router.prewarm.started+1
            pending := s.router.prewarm.pending+1 }
          (s.lookups++[(generation,host)]))
    else s

def pumpDnsSplitTunnelPrewarm : Service :=
  pump s.router.prewarm.generation s.router.prewarm.queue s

/-- The hosts of the valid exact rules. -/
def prewarmHosts (rules : List String) : List String :=
  (rules.filterMap fun ruleText =>
    let rule := SplitTunnelRule.fromText ruleText
    if rule.isValid && rule.type = .exactHost then some rule.normalizedText else none).eraseDups

def startDnsSplitTunnelPrewarm (rules : List String) : Service :=
  let generation := s.router.prewarm.generation+1
  if s.router.gateway.isEmpty || rules.isEmpty then
    s.setPrewarm ⟨[],generation,0,0,0,0,0,0⟩ s.lookups
  else
    let hosts := prewarmHosts rules
    let s' := s.setPrewarm ⟨hosts,generation,hosts.length,0,0,0,0,0⟩ s.lookups
    if hosts.isEmpty then s' else s'.pumpDnsSplitTunnelPrewarm

/-- A changed gateway, changed rules or no rules drop what has been learned. -/
def clears (rules : List String) (gw : String) : Bool :=
  s.router.gateway != gw || s.router.rulesKey != sortedRules rules || rules.isEmpty

def configureDnsSplitTunnel (rules : List String) (gw : String) (killSwitchEnabled : Bool)
    (now : ℤ) : Service :=
  let s' := if s.clears rules gw then s.clearDnsSplitTunnelLeases else s
  let s' := { s' with router := { s'.router with
    gateway := gw
    killSwitchEnabled := killSwitchEnabled
    rulesKey := sortedRules rules
    observerRules := rules } }
  (s'.seedDnsSplitTunnelLeasesFromCache rules now).startDnsSplitTunnelPrewarm rules

/-- The IPv4 addresses a lookup has found, each good for an hour. -/
def lookupAnswers (addresses : List HostAddress) : List DnsIpv4Answer :=
  (addresses.filter HostAddress.isIPv4).map fun address => ⟨address.toString,3600⟩

def finishDnsSplitTunnelPrewarmHost (generation : ℕ) (host : String)
    (addresses : List HostAddress) (now : ℤ) : Service :=
  if generation ≠ s.router.prewarm.generation then s
  else
    let prewarm := { s.router.prewarm with
      pending := s.router.prewarm.pending-1
      finished := s.router.prewarm.finished+1 }
    let answers := lookupAnswers addresses
    let s' :=
      if answers.isEmpty then s.setPrewarm { prewarm with failed := prewarm.failed+1 } s.lookups
      else
        (s.setPrewarm { prewarm with succeeded := prewarm.succeeded+1 } s.lookups)
          |>.updateDnsSplitTunnelHostLeases host answers now
    s'.pumpDnsSplitTunnelPrewarm

/-- What happens to the service. The answers of the observer and of the lookups carry
addresses, which their senders print. -/
inductive Event
  | configureDnsSplitTunnel (rules : List String) (gw : String) (killSwitchEnabled : Bool) (now : ℤ)
  | hostResolved (host : String) (answers : List (BitVec 32 × ℤ)) (now : ℤ)
  | lookupFinished (generation : ℕ) (host : String) (addresses : List HostAddress) (now : ℤ)
  | leaseTimeout
  | call (call : KillSwitch.Call)

def printAnswers (answers : List (BitVec 32 × ℤ)) : List DnsIpv4Answer :=
  answers.map fun answer => ⟨Address.dotted answer.1,answer.2⟩

def step : Event → Service
  | .configureDnsSplitTunnel rules gw killSwitchEnabled now =>
    s.configureDnsSplitTunnel rules gw killSwitchEnabled now
  | .hostResolved host answers now => s.updateDnsSplitTunnelHostLeases host (printAnswers answers) now
  | .lookupFinished generation host addresses now =>
    { s with lookups := s.lookups.erase (generation,host) }.finishDnsSplitTunnelPrewarmHost
      generation host addresses now
  | .leaseTimeout => { s with router := s.router.expireDnsSplitTunnelLeases }
  | .call call => { s with killSwitch := s.killSwitch.step call }

variable {s}

lemma mem_syncDnsSplitTunnelIps {before : List String} {ip : String} :
    ip ∈ (s.syncDnsSplitTunnelIps before).router.ips ↔
      (ip ∈ s.router.ips ∨ ip ∈ s.router.activeDnsSplitTunnelIps ∧ ip ∉ before ∧
        routeAccepted ip s.router.gateway) ∧
      ¬(ip ∈ before ∧ ip ∉ s.router.activeDnsSplitTunnelIps ∧
        routeAccepted ip s.router.gateway) := by
  by_cases hip : ip ∈ s.router.ips <;> by_cases hb : ip ∈ before <;>
    by_cases ha : ip ∈ s.router.activeDnsSplitTunnelIps <;>
    simp [syncDnsSplitTunnelIps,routeAddTransient,routeDelete,hip,hb,ha]

omit [Qt] in
/-- Pumping touches nothing but the bookkeeping of the prewarm; each new lookup is for a
host of the queue. -/
lemma pump_frame (generation : ℕ) (queue : List String) (s : Service) :
    ∃ prewarm lookups, pump generation queue s = s.setPrewarm prewarm lookups ∧
      prewarm.generation = s.router.prewarm.generation ∧
      (∀ host ∈ prewarm.queue, host ∈ s.router.prewarm.queue ∨ host ∈ queue) ∧
      ∀ lookup ∈ lookups, lookup ∈ s.lookups ∨ lookup.1 = generation ∧ lookup.2 ∈ queue := by
  induction queue generalizing s with
  | nil => exact ⟨s.router.prewarm,s.lookups,rfl,rfl,fun _ => Or.inl,fun _ => Or.inl⟩
  | cons host queue ih =>
    rw [pump]
    split_ifs with hp
    · obtain ⟨prewarm,lookups,h,hg,hq,hl⟩ := ih (s.setPrewarm { s.router.prewarm with
            queue := queue
            started := s.router.prewarm.started+1
            pending := s.router.prewarm.pending+1 }
          (s.lookups++[(generation,host)]))
      refine ⟨prewarm,lookups,h,hg,?_,?_⟩
      · intro x hx
        rcases hq x hx with hx | hx <;> exact Or.inr (mem_cons_of_mem _ hx)
      · intro lookup hm
        rcases hl lookup hm with hm | ⟨he,hm⟩
        · rcases mem_append.mp hm with hm | hm
          · exact Or.inl hm
          · rw [mem_singleton.mp hm]
            exact Or.inr ⟨rfl,mem_cons_self⟩
        · exact Or.inr ⟨he,mem_cons_of_mem _ hm⟩
    · exact ⟨s.router.prewarm,s.lookups,rfl,rfl,fun _ => Or.inl,fun _ => Or.inl⟩

/-- A new prewarm has a generation of its own and looks up hosts of exact rules. -/
lemma startDnsSplitTunnelPrewarm_frame (s : Service) (rules : List String) :
    ∃ prewarm lookups, s.startDnsSplitTunnelPrewarm rules = s.setPrewarm prewarm lookups ∧
      prewarm.generation = s.router.prewarm.generation+1 ∧
      (∀ host ∈ prewarm.queue, host ∈ prewarmHosts rules) ∧
      ∀ lookup ∈ lookups, lookup ∈ s.lookups ∨
        lookup.1 = s.router.prewarm.generation+1 ∧ lookup.2 ∈ prewarmHosts rules := by
  simp only [startDnsSplitTunnelPrewarm]
  split_ifs
  · exact ⟨_,_,rfl,rfl,by simp,fun _ => Or.inl⟩
  · exact ⟨_,_,rfl,rfl,fun _ h => h,fun _ => Or.inl⟩
  · obtain ⟨prewarm,lookups,h,hg,hq,hl⟩ := pump_frame (s.router.prewarm.generation+1)
      (prewarmHosts rules) (s.setPrewarm ⟨prewarmHosts rules,s.router.prewarm.generation+1,
        (prewarmHosts rules).length,0,0,0,0,0⟩ s.lookups)
    refine ⟨prewarm,lookups,h,hg,?_,hl⟩
    intro host hm
    rcases hq host hm with hm | hm <;> exact hm

end

/-- A service that has just started. -/
def fresh (strict : Bool) : Service where
  router :=
    { gateway := "", killSwitchEnabled := false, ips := [], rulesKey := [], hostLeases := ∅
      hostCache := ∅, leaseTimer := none, observerRules := [], prewarm := ⟨[],0,0,0,0,0,0,0⟩ }
  killSwitch := .fresh strict
  lookups := []

end Service
end AlzheimerVPN
