import AlzheimerVPN.IpText
import AlzheimerVPN.Json
import AlzheimerVPN.MacOSFirewall
import AlzheimerVPN.Runs

/-! The macOS kill switch of the service. A call maps a state to the state after
it together with the value it returns; the firewall commands are taken to
succeed. -/
namespace AlzheimerVPN

open IpText

structure KillSwitch where
  allowedRanges : List String
  alwaysBlockedSites : List String
  connectionProtection : Bool
  /-- `Conf/strictKillSwitchEnabled` in the settings store. -/
  strictKillSwitchEnabled : Bool
  firewall : MacOSFirewall

namespace KillSwitch

section

variable [Qt] (configStr : JsonObject)

def splitTunnelType : ℤ := (configStr.value "splitTunnelType").toInt

def dns1 : String := (configStr.value "dns1").toString

/-- The secondary DNS is not used if the primary one is AmneziaDNS. -/
def dns2 : String :=
  if Text.containsText (dns1 configStr) amneziaDnsIp then ""
  else (configStr.value "dns2").toString

/-- The loop over the extra DNS servers stops at the first entry that is not a
text and skips texts that are not addresses. -/
def allowedDnsServers : List String :=
  (((configStr.value "allowedDnsServers").toArray.takeWhile Json.isString).map
    Json.toString).filter isValidIpOrCidr

/-- The sites that are written as an address or a subnet. -/
def siteRanges : List String :=
  ((configStr.value "splitTunnelSites").toArray.map Json.toString).filter checkIpSubnetFormat

def vpnServer : String := (configStr.value "vpnServer").toString

def blockAll : Bool := splitTunnelType configStr == 0 || splitTunnelType configStr == 2

def allowNets : Bool := splitTunnelType configStr == 0 || splitTunnelType configStr == 2

def blockNets : Bool := splitTunnelType configStr == 1

def allownets : List String :=
  if splitTunnelType configStr = 0 then [vpnServer configStr]
  else if splitTunnelType configStr = 2 then vpnServer configStr::siteRanges configStr
  else []

def blocknets : List String :=
  if splitTunnelType configStr = 1 then siteRanges configStr else []

def dnsServers : List String :=
  (if (dns1 configStr).isEmpty then [] else [dns1 configStr]) ++
    (if (dns2 configStr).isEmpty then [] else [dns2 configStr])++allowedDnsServers configStr

lemma allowNets_of_mem {configStr : JsonObject} {x : String} (h : x ∈ allownets configStr) :
    allowNets configStr := by
  simp only [allownets] at h
  split_ifs at h with h0 h2
  · simp [allowNets,h0]
  · simp [allowNets,h2]
  · simp at h

lemma blockNets_of_mem {configStr : JsonObject} {x : String} (h : x ∈ blocknets configStr) :
    blockNets configStr := by
  simp only [blocknets] at h
  split_ifs at h with h1
  · simp [blockNets,h1]
  · simp at h

/-- The two rejections of `enableKillSwitch`: DNS texts, then address lists. -/
def accepts : Bool :=
  !((!(dns1 configStr).isEmpty && !isValidIpOrCidr (dns1 configStr)) ||
    (!(dns2 configStr).isEmpty && !isValidIpOrCidr (dns2 configStr))) &&
  !(!(allownets configStr).all isValidIpOrCidr || !(blocknets configStr).all isValidIpOrCidr)

/-- Every text of an accepted configuration that ends up in a table is valid. -/
lemma accepts_valid {c : JsonObject} (h : accepts c) :
    (allownets c).all isValidIpOrCidr ∧ (blocknets c).all isValidIpOrCidr ∧
      (dnsServers c).all isValidIpOrCidr := by
  simp only [accepts,Bool.and_eq_true,Bool.not_eq_true',Bool.or_eq_false_iff,
    Bool.and_eq_false_iff,Bool.not_eq_false'] at h
  obtain ⟨⟨h1,h2⟩,hallow,hblock⟩ := h
  refine ⟨hallow,hblock,?_⟩
  have hextra : (allowedDnsServers c).all isValidIpOrCidr := by
    simp [allowedDnsServers]
  simp only [dnsServers,List.all_append,Bool.and_eq_true,hextra,and_true]
  constructor
  · split_ifs with he
    · rfl
    · simpa [he] using h1
  · split_ifs with he
    · rfl
    · simpa [he] using h2

end

section

/-- The rules that block the listed sites and nothing else. -/
def idleRules (sites : List String) (fw : MacOSFirewall) : MacOSFirewall :=
  fw.ensureInstalled.ensureRootAnchorPriority
    |>.setAnchorEnabled .allowLoopback true
    |>.setAnchorEnabled .blockAll false
    |>.setAnchorEnabled .allowNets false
    |>.setAnchorEnabled .blockNets true
    |>.setAnchorTable .blockNets true .blocknets sites
    |>.setAnchorEnabled .allowVPN true
    |>.setAnchorEnabled .blockIPv6 false
    |>.setAnchorEnabled .allowDHCP false
    |>.setAnchorEnabled .allowLAN false
    |>.setAnchorEnabled .blockDNS false
    |>.setAnchorEnabled .allowPIA false

/-- The rules `disableKillSwitch` sets in strict mode. -/
def strictRules (fw : MacOSFirewall) : MacOSFirewall :=
  fw |>.setAnchorEnabled .allowLoopback true
    |>.setAnchorEnabled .blockAll true
    |>.setAnchorEnabled .allowNets false
    |>.setAnchorEnabled .blockNets false
    |>.setAnchorEnabled .allowVPN false
    |>.setAnchorEnabled .blockIPv6 true
    |>.setAnchorEnabled .allowDHCP false
    |>.setAnchorEnabled .allowLAN false
    |>.setAnchorEnabled .blockDNS false
    |>.setAnchorEnabled .allowPIA false

/-- The rules `disableAllTraffic` sets; all other anchors stay as they are. -/
def allTrafficRules (fw : MacOSFirewall) : MacOSFirewall :=
  fw.ensureInstalled.ensureRootAnchorPriority
    |>.setAnchorEnabled .blockAll true
    |>.setAnchorEnabled .allowLoopback true
    |>.setAnchorEnabled .blockIPv6 true

/-- The allow list as it is written to the firewall. -/
def allowRules (ranges : List String) (fw : MacOSFirewall) : MacOSFirewall :=
  fw.setAnchorEnabled .allowNets true |>.setAnchorTable .allowNets true .allownets ranges

/-- The firewall after the kill switch is released, by mode and blocked list. -/
def releasedRules (strict : Bool) (sites : List String) (fw : MacOSFirewall) : MacOSFirewall :=
  if strict then strictRules fw else if !sites.isEmpty then idleRules sites fw else fw.uninstall

variable (fw : MacOSFirewall) (a : Anchor) (t : Table) (sites items : List String)

@[simp] lemma allowRules_installed : (allowRules items fw).installed = fw.installed := by
  simp [allowRules]
@[simp] lemma allowRules_enabled :
    (allowRules items fw).enabled a = (decide (a = .allowNets) || fw.enabled a) := by
  by_cases h : a = .allowNets <;> simp [allowRules,h]
@[simp] lemma allowRules_tables_allowNets :
    (allowRules items fw).tables .allowNets .allownets = items := by
  simp [allowRules]
lemma allowRules_tables_of_ne (h : a ≠ .allowNets) :
    (allowRules items fw).tables a t = fw.tables a t := by
  simp [allowRules,h]
@[simp] lemma allowRules_joined : (allowRules items fw).joined = fw.joined++items := by
  simp [allowRules]

@[simp] lemma allTrafficRules_installed : (allTrafficRules fw).installed := by
  simp [allTrafficRules]
@[simp] lemma allTrafficRules_joined : (allTrafficRules fw).joined = fw.joined := by
  simp [allTrafficRules]
@[simp] lemma allTrafficRules_enabled : (allTrafficRules fw).enabled a = match a with
    | .allowLoopback | .blockAll | .blockIPv6 => true
    | a => fw.installed && fw.enabled a := by
  cases a <;> simp [allTrafficRules]
lemma allTrafficRules_tables (h : a ≠ .allowLoopback ∧ a ≠ .blockAll ∧ a ≠ .blockIPv6) :
    (allTrafficRules fw).tables a t = if fw.installed then fw.tables a t else [] := by
  simp [allTrafficRules,h]

@[simp] lemma strictRules_installed : (strictRules fw).installed = fw.installed := by
  simp [strictRules]
@[simp] lemma strictRules_joined : (strictRules fw).joined = fw.joined := by
  simp [strictRules]
@[simp] lemma strictRules_enabled : (strictRules fw).enabled a = match a with
    | .allowLoopback | .blockAll | .blockIPv6 => true
    | .allowExcludedApps | .allowHnsd => fw.enabled a
    | _ => false := by
  cases a <;> simp [strictRules]

@[simp] lemma idleRules_installed : (idleRules sites fw).installed := by
  simp [idleRules]
@[simp] lemma idleRules_joined : (idleRules sites fw).joined = fw.joined++sites := by
  simp [idleRules]
@[simp] lemma idleRules_enabled : (idleRules sites fw).enabled a = match a with
    | .allowLoopback | .blockNets | .allowVPN => true
    | .allowExcludedApps | .allowHnsd => fw.installed && fw.enabled a
    | _ => false := by
  cases a <;> simp [idleRules]
@[simp] lemma idleRules_tables : (idleRules sites fw).tables .blockNets .blocknets = sites := by
  simp [idleRules]

lemma mem_releasedRules_joined {strict : Bool} {x : String}
    (h : x ∈ (releasedRules strict sites fw).joined) : x ∈ fw.joined ∨ x ∈ sites := by
  cases strict with
  | true => exact Or.inl (by simpa [releasedRules] using h)
  | false =>
    cases sites with
    | nil => exact Or.inl (by simpa [releasedRules] using h)
    | cons site sites => simpa [releasedRules] using h

end

section

variable [Qt]

/-- The rules of an accepted configuration. -/
def connectionRules (configStr : JsonObject) (fw : MacOSFirewall) : MacOSFirewall :=
  fw.applyParams
      { dnsServers := dnsServers configStr
        blockAll := blockAll configStr
        allowNets := allowNets configStr
        blockNets := blockNets configStr
        allowAddrs := allownets configStr
        blockAddrs := blocknets configStr }
    |>.setAnchorEnabled .allowPIA true

variable (fw : MacOSFirewall) (a : Anchor) (c : JsonObject)

@[simp] lemma connectionRules_installed : (connectionRules c fw).installed := by
  simp [connectionRules]
@[simp] lemma connectionRules_joined : (connectionRules c fw).joined =
    fw.joined++(if allowNets c then allownets c else [])++(if blockNets c then blocknets c else [])
      ++dnsServers c := by
  simp [connectionRules]
@[simp] lemma connectionRules_enabled : (connectionRules c fw).enabled a = match a with
    | .blockAll => blockAll c
    | .allowNets => allowNets c
    | .blockNets => blockNets c
    | .allowExcludedApps | .allowHnsd | .allowPIA => fw.installed && fw.enabled a
    | _ => true := by
  cases a <;> simp [connectionRules]
@[simp] lemma connectionRules_allownets : (connectionRules c fw).tables .allowNets .allownets =
      if allowNets c then allownets c else [] := by
  simp [connectionRules]
@[simp] lemma connectionRules_blocknets : (connectionRules c fw).tables .blockNets .blocknets =
      if blockNets c then blocknets c else [] := by
  simp [connectionRules]
@[simp] lemma connectionRules_dnsaddr :
    (connectionRules c fw).tables .blockDNS .dnsaddr = dnsServers c := by
  simp [connectionRules]

end

section

variable (s : KillSwitch)

def isStrictKillSwitchEnabled : Bool := s.strictKillSwitchEnabled

def applyAlwaysBlockedSites : KillSwitch :=
  { s with
    firewall := idleRules s.alwaysBlockedSites s.firewall
    allowedRanges := [] }

def disableKillSwitch : KillSwitch × Bool :=
  if s.connectionProtection then (s,true)
  else
    let s' :=
      if s.isStrictKillSwitchEnabled then { s with firewall := strictRules s.firewall }
      else if !s.alwaysBlockedSites.isEmpty then s.applyAlwaysBlockedSites
      else { s with firewall := s.firewall.uninstall }
    ({ s' with allowedRanges := [] },true)

def disableAllTraffic : KillSwitch × Bool :=
  ({ s with firewall := allTrafficRules s.firewall, allowedRanges := [] },true)

def init : KillSwitch × Bool :=
  if s.isStrictKillSwitchEnabled then s.disableAllTraffic else (s,true)

def refresh (enabled : Bool) : KillSwitch × Bool :=
  let s' := { s with strictKillSwitchEnabled := enabled }
  if s'.isStrictKillSwitchEnabled then s'.disableAllTraffic else s'.disableKillSwitch

variable (ranges : List String)

def setAlwaysBlockedSites : KillSwitch × Bool :=
  if !ranges.all isValidIpOrCidr then (s,false)
  else
    let unchanged := ranges == s.alwaysBlockedSites
    let s' := { s with alwaysBlockedSites := ranges }
    if s'.isStrictKillSwitchEnabled then (s',true)
    else if unchanged && (ranges.isEmpty || s'.firewall.isAnchorEnabled .blockNets) then (s',true)
    else if s'.connectionProtection then (s',true)
    else s'.disableKillSwitch

def resetAllowedRange : KillSwitch × Bool :=
  if !ranges.all isValidIpOrCidr then (s,false)
  else
    ({ s with allowedRanges := ranges, firewall := allowRules ranges s.firewall },true)

/-- The ranges recorded by `addAllowedRange`, duplicates and empty texts left out. -/
def appendRanges : List String → List String → List String
  | recorded, [] => recorded
  | recorded, range::ranges =>
    appendRanges (if !range.isEmpty && !recorded.contains range then recorded++[range]
      else recorded) ranges

lemma mem_appendRanges (recorded ranges : List String) (x : String) :
    x ∈ appendRanges recorded ranges ↔ x ∈ recorded ∨ x ∈ ranges ∧ x.isEmpty = false := by
  induction ranges generalizing recorded with
  | nil => simp [appendRanges]
  | cons range ranges ih =>
    rw [appendRanges,ih]
    by_cases hx : x = range
    · subst hx
      by_cases he : x.isEmpty = true <;> by_cases hm : x ∈ recorded <;> simp [he,hm]
    · split_ifs <;> simp [hx]

def addAllowedRange : KillSwitch × Bool :=
  if !ranges.all isValidIpOrCidr then (s,false)
  else
    let s' := { s with allowedRanges := appendRanges s.allowedRanges ranges }
    s'.resetAllowedRange s'.allowedRanges

def removeAllowedRange : KillSwitch × Bool :=
  let s' := { s with allowedRanges := s.allowedRanges.filter fun r => !ranges.contains r }
  s'.resetAllowedRange s'.allowedRanges

/-- Only Windows has work to do here. -/
def enablePeerTraffic (_configStr : JsonObject) : KillSwitch × Bool := (s,true)

@[simp] lemma disableKillSwitch_strict :
    s.disableKillSwitch.1.strictKillSwitchEnabled = s.strictKillSwitchEnabled := by
  simp only [disableKillSwitch,applyAlwaysBlockedSites]
  split_ifs <;> rfl
@[simp] lemma disableKillSwitch_sites :
    s.disableKillSwitch.1.alwaysBlockedSites = s.alwaysBlockedSites := by
  simp only [disableKillSwitch,applyAlwaysBlockedSites]
  split_ifs <;> rfl
@[simp] lemma disableKillSwitch_returns : s.disableKillSwitch.2 := by
  simp only [disableKillSwitch]
  split_ifs <;> rfl
@[simp] lemma disableKillSwitch_allowedRanges : s.disableKillSwitch.1.allowedRanges =
    if s.connectionProtection then s.allowedRanges else [] := by
  simp only [disableKillSwitch]
  split_ifs <;> rfl
@[simp] lemma addAllowedRange_allowedRanges : (s.addAllowedRange ranges).1.allowedRanges =
      if ranges.all isValidIpOrCidr then appendRanges s.allowedRanges ranges
      else s.allowedRanges := by
  simp only [addAllowedRange,resetAllowedRange]
  split_ifs <;> simp_all

end

section

variable [Qt] (s : KillSwitch)

def enableKillSwitch (configStr : JsonObject) (_vpnAdapterIndex : ℤ) : KillSwitch × Bool :=
  if !accepts configStr then (s,false)
  else
    ({ s with
       allowedRanges := allownets configStr
       firewall := connectionRules configStr s.firewall },true)

def setConnectionProtection (enabled : Bool) (config : JsonObject) : KillSwitch × Bool :=
  if !enabled then { s with connectionProtection := false }.disableKillSwitch
  else
    let r := s.enableKillSwitch config 0
    if !r.2 then (r.1,false)
    else
      let s' := { r.1 with connectionProtection := true }
      (s',s'.firewall.isInstalled && s'.firewall.isAnchorEnabled .blockIPv6 &&
        s'.firewall.isAnchorEnabled (if splitTunnelType config = 1 then .blockNets else .blockAll))

/-- The public operations, as the service receives them. -/
inductive Call
  | init
  | refresh (enabled : Bool)
  | disableKillSwitch
  | setConnectionProtection (enabled : Bool) (config : JsonObject)
  | disableAllTraffic
  | enablePeerTraffic (configStr : JsonObject)
  | enableKillSwitch (configStr : JsonObject) (vpnAdapterIndex : ℤ)
  | resetAllowedRange (ranges : List String)
  | addAllowedRange (ranges : List String)
  | removeAllowedRange (ranges : List String)
  | setAlwaysBlockedSites (ranges : List String)

def perform : Call → KillSwitch × Bool
  | .init => s.init
  | .refresh enabled => s.refresh enabled
  | .disableKillSwitch => s.disableKillSwitch
  | .setConnectionProtection enabled config => s.setConnectionProtection enabled config
  | .disableAllTraffic => s.disableAllTraffic
  | .enablePeerTraffic configStr => s.enablePeerTraffic configStr
  | .enableKillSwitch configStr vpnAdapterIndex => s.enableKillSwitch configStr vpnAdapterIndex
  | .resetAllowedRange ranges => s.resetAllowedRange ranges
  | .addAllowedRange ranges => s.addAllowedRange ranges
  | .removeAllowedRange ranges => s.removeAllowedRange ranges
  | .setAlwaysBlockedSites ranges => s.setAlwaysBlockedSites ranges

def step (call : Call) : KillSwitch := (s.perform call).1

/-- The state after a sequence of calls. -/
def after (calls : List Call) : KillSwitch := Runs.run step s calls

/-- A new object over a firewall with nothing loaded; only the stored setting survives. -/
def fresh (strict : Bool) : KillSwitch := ⟨[],[],false,strict,.empty⟩

/-- The allow list a call asks for. -/
inductive Requested (s : KillSwitch) : Call → List String → Prop
  | reset (ranges : List String) : Requested s (.resetAllowedRange ranges) ranges
  | add (ranges : List String) (hv : ranges.all isValidIpOrCidr) :
    Requested s (.addAllowedRange ranges) (appendRanges s.allowedRanges ranges)
  | remove (ranges : List String) :
    Requested s (.removeAllowedRange ranges) (s.allowedRanges.filter fun r => !ranges.contains r)

variable (s : KillSwitch)

/-- The calls that lock everything down. -/
def Locks (call : Call) : Prop :=
  call = .disableAllTraffic ∨ call = .refresh true ∨ call = .init ∧ s.strictKillSwitchEnabled

/-- Everything a call can do to the firewall, the allow list and the protection flag. -/
inductive Outcome (s : KillSwitch) (call : Call) (s' : KillSwitch) : Prop
  | keep (hs : s' = s ∨ s'.connectionProtection ∨
        s.strictKillSwitchEnabled ∧ s'.strictKillSwitchEnabled)
      (hp : s'.connectionProtection = s.connectionProtection)
      (hr : s'.allowedRanges = s.allowedRanges) (hf : s'.firewall = s.firewall)
  | release (hg : s.connectionProtection = false ∨ ∃ c, call = .setConnectionProtection false c)
      (hp : s'.connectionProtection = false) (hr : s'.allowedRanges = [])
      (hf : s'.firewall = releasedRules s'.strictKillSwitchEnabled s'.alwaysBlockedSites s.firewall)
  | lockdown (hg : Locks s call)
      (hp : s'.connectionProtection = s.connectionProtection)
      (hr : s'.allowedRanges = []) (hf : s'.firewall = allTrafficRules s.firewall)
  | allow (items : List String) (hv : items.all isValidIpOrCidr)
      (hg : Requested s call items)
      (hp : s'.connectionProtection = s.connectionProtection)
      (hr : s'.allowedRanges = items) (hf : s'.firewall = allowRules items s.firewall)
  | refuse (items : List String) (hv : items.all isValidIpOrCidr = false)
      (hg : Requested s call items) (hn : ∀ ranges, call ≠ .resetAllowedRange ranges)
      (hp : s'.connectionProtection = s.connectionProtection)
      (hr : s'.allowedRanges = items) (hf : s'.firewall = s.firewall)
  | connect (c : JsonObject) (ha : accepts c)
      (hg : (∃ i, call = .enableKillSwitch c i ∧ s'.connectionProtection = s.connectionProtection) ∨
        call = .setConnectionProtection true c ∧ s'.connectionProtection)
      (hr : s'.allowedRanges = allownets c) (hf : s'.firewall = connectionRules c s.firewall)

variable {call : Call}

/-- Releasing the kill switch, seen from a state that differs in the settings only
or from one whose protection was just given up. -/
lemma disableKillSwitch_outcome {s₀ s : KillSwitch}
    (hp₀ : s.connectionProtection = s₀.connectionProtection ∨
      s.connectionProtection = false ∧ ∃ c, call = .setConnectionProtection false c)
    (hr₀ : s.allowedRanges = s₀.allowedRanges) (hf₀ : s.firewall = s₀.firewall) :
    Outcome s₀ call s.disableKillSwitch.1 := by
  by_cases hp : s.connectionProtection
  · have hp' : s.connectionProtection = s₀.connectionProtection := by simpa [hp] using hp₀
    have hd : s.disableKillSwitch.1 = s := by simp [disableKillSwitch,hp]
    rw [hd]
    exact .keep (Or.inr (Or.inl hp)) hp' hr₀ hf₀
  · have hg : s₀.connectionProtection = false ∨ ∃ c, call = .setConnectionProtection false c := by
      rcases hp₀ with h | ⟨-,h⟩
      · exact Or.inl (by simpa [← h] using hp)
      · exact Or.inr h
    by_cases hs : s.strictKillSwitchEnabled
    · refine .release hg ?_ ?_ ?_ <;>
        simp [disableKillSwitch,isStrictKillSwitchEnabled,releasedRules,hp,hs,hf₀]
    · by_cases hl : s.alwaysBlockedSites = []
      · refine .release hg ?_ ?_ ?_ <;>
          simp [disableKillSwitch,isStrictKillSwitchEnabled,releasedRules,hp,hs,hl,hf₀]
      · refine .release hg ?_ ?_ ?_ <;>
          simp [disableKillSwitch,isStrictKillSwitchEnabled,applyAlwaysBlockedSites,
            releasedRules,hp,hs,hl,hf₀]

lemma Outcome.of_eq {s s' : KillSwitch} (h : s' = s) : Outcome s call s' := by
  subst h
  exact .keep (Or.inl rfl) rfl rfl rfl

lemma recorded_outcome {s : KillSwitch} {items : List String} (hg : Requested s call items)
    (hn : ∀ ranges, call ≠ .resetAllowedRange ranges) :
    Outcome s call ({ s with allowedRanges := items }.resetAllowedRange items).1 := by
  cases hv : items.all isValidIpOrCidr with
  | true => refine .allow items hv hg ?_ ?_ ?_ <;> simp [resetAllowedRange,hv]
  | false => refine .refuse items hv hg hn ?_ ?_ ?_ <;> simp [resetAllowedRange,hv]

/-- One inversion for every call; the invariants below are read off it. -/
lemma step_outcome (call : Call) : Outcome s call (s.step call) := by
  cases call with
  | init =>
    by_cases hs : s.strictKillSwitchEnabled
    · refine .lockdown (Or.inr (Or.inr ⟨rfl,hs⟩)) ?_ ?_ ?_ <;>
        simp [step,perform,init,isStrictKillSwitchEnabled,disableAllTraffic,hs]
    · exact .of_eq (by simp [step,perform,init,isStrictKillSwitchEnabled,hs])
  | refresh enabled =>
    cases enabled with
    | true =>
      refine .lockdown (Or.inr (Or.inl rfl)) ?_ ?_ ?_ <;>
        simp [step,perform,refresh,isStrictKillSwitchEnabled,disableAllTraffic]
    | false => exact disableKillSwitch_outcome (Or.inl rfl) rfl rfl
  | disableKillSwitch => exact disableKillSwitch_outcome (Or.inl rfl) rfl rfl
  | setConnectionProtection enabled config =>
    cases enabled with
    | false =>
      exact disableKillSwitch_outcome (s := { s with connectionProtection := false })
        (Or.inr ⟨rfl,config,rfl⟩) rfl rfl
    | true =>
      cases ha : accepts config with
      | true =>
        refine .connect config ha (Or.inr ⟨rfl,?_⟩) ?_ ?_ <;>
          simp [step,perform,setConnectionProtection,enableKillSwitch,ha]
      | false =>
        exact .of_eq (by simp [step,perform,setConnectionProtection,enableKillSwitch,ha])
  | disableAllTraffic => exact .lockdown (Or.inl rfl) rfl rfl rfl
  | enablePeerTraffic configStr => exact .of_eq rfl
  | enableKillSwitch configStr vpnAdapterIndex =>
    cases ha : accepts configStr with
    | true =>
      refine .connect configStr ha (Or.inl ⟨vpnAdapterIndex,rfl,?_⟩) ?_ ?_ <;>
        simp [step,perform,enableKillSwitch,ha]
    | false => exact .of_eq (by simp [step,perform,enableKillSwitch,ha])
  | resetAllowedRange ranges =>
    cases hv : ranges.all isValidIpOrCidr with
    | true =>
      refine .allow ranges hv (.reset ranges) ?_ ?_ ?_ <;> simp [step,perform,resetAllowedRange,hv]
    | false => exact .of_eq (by simp [step,perform,resetAllowedRange,hv])
  | addAllowedRange ranges =>
    cases hv : ranges.all isValidIpOrCidr with
    | true =>
      have h := recorded_outcome (.add ranges hv : Requested s _ _) (by simp)
      simpa [step,perform,addAllowedRange,hv] using h
    | false => exact .of_eq (by simp [step,perform,addAllowedRange,hv])
  | removeAllowedRange ranges => exact recorded_outcome (.remove ranges) (by simp)
  | setAlwaysBlockedSites ranges =>
    simp only [step,perform,setAlwaysBlockedSites,isStrictKillSwitchEnabled]
    split_ifs with hv hs hu hp
    · exact .of_eq rfl
    · exact .keep (Or.inr (Or.inr ⟨hs,hs⟩)) rfl rfl rfl
    · have he : ranges = s.alwaysBlockedSites := by
        simp only [Bool.and_eq_true,beq_iff_eq] at hu
        exact hu.1
      exact .of_eq (by rw [he])
    · exact .keep (Or.inr (Or.inl hp)) rfl rfl rfl
    · exact disableKillSwitch_outcome (Or.inl rfl) rfl rfl

lemma step_of_locks {s : KillSwitch} (h : Locks s call) :
    (s.step call).firewall = allTrafficRules s.firewall ∧ (s.step call).allowedRanges = [] := by
  rcases h with rfl | rfl | ⟨rfl,hs⟩
  · exact ⟨rfl,rfl⟩
  · exact ⟨rfl,rfl⟩
  · simp [step,perform,init,isStrictKillSwitchEnabled,disableAllTraffic,hs]

/-- Strict mode changes in `refresh` only. -/
def Call.strictAfter (strict : Bool) : Call → Bool
  | .refresh enabled => enabled
  | _ => strict

/-- An accepted list, and nothing else, replaces the stored one. -/
def Call.sitesAfter (sites : List String) : Call → List String
  | .setAlwaysBlockedSites ranges => if ranges.all isValidIpOrCidr then ranges else sites
  | _ => sites

lemma step_settings (call : Call) :
    (s.step call).strictKillSwitchEnabled = call.strictAfter s.strictKillSwitchEnabled ∧
      (s.step call).alwaysBlockedSites = call.sitesAfter s.alwaysBlockedSites := by
  cases call with
  | refresh enabled =>
    cases enabled <;> simp [step,perform,refresh,isStrictKillSwitchEnabled,disableAllTraffic,
      Call.strictAfter,Call.sitesAfter]
  | setConnectionProtection enabled config =>
    cases enabled with
    | false => simp [step,perform,setConnectionProtection,Call.strictAfter,Call.sitesAfter]
    | true =>
      cases ha : accepts config <;>
        simp [step,perform,setConnectionProtection,enableKillSwitch,ha,Call.strictAfter,
          Call.sitesAfter]
  | setAlwaysBlockedSites ranges =>
    cases hv : ranges.all isValidIpOrCidr with
    | false => simp [step,perform,setAlwaysBlockedSites,hv,Call.strictAfter,Call.sitesAfter]
    | true =>
      simp only [step,perform,setAlwaysBlockedSites,hv,Call.strictAfter,Call.sitesAfter]
      split_ifs <;> simp_all
  | disableKillSwitch => simp [step,perform,Call.strictAfter,Call.sitesAfter]
  | disableAllTraffic => exact ⟨rfl,rfl⟩
  | enablePeerTraffic configStr => exact ⟨rfl,rfl⟩
  | _ =>
    simp only [step,perform,init,disableAllTraffic,enableKillSwitch,addAllowedRange,
      removeAllowedRange,resetAllowedRange]
    split_ifs <;> exact ⟨rfl,rfl⟩

lemma step_strict (call : Call) :
    (s.step call).strictKillSwitchEnabled = call.strictAfter s.strictKillSwitchEnabled :=
  (step_settings s call).1

lemma step_sites (call : Call) :
    (s.step call).alwaysBlockedSites = call.sitesAfter s.alwaysBlockedSites :=
  (step_settings s call).2

end
end KillSwitch
end AlzheimerVPN
