import AlzheimerVPN.Leak
import AlzheimerVPN.WireguardUtilsMacos

/-! What reaches the root shell. Every table item is joined into a command line,
so a text that is no plain address is a command. Kill switch calls check their
texts, and miss a final line feed; activations of the daemon check nothing. -/
namespace AlzheimerVPN

open IpText KillSwitch WireguardUtilsMacos List

/-- What the service receives: kill switch calls and configurations to activate. -/
inductive Request
  | call (call : KillSwitch.Call)
  | activate (obj : JsonObject) (configured : Bool)

namespace ShellText

lemma not_plainAddress_null (n : ℤ) : ¬PlainAddress (String.ofList ('/'::intChars n)) := by
  intro h
  have hs : Text.split (String.ofList ('/'::intChars n)) '/' =
      String.ofList []::Text.split (String.ofList (intChars n)) '/' :=
    Text.split_of_toList_eq (by simp) (by simp)
  have hr := h.range
  have ha : Address.addressOfText (String.ofList []) = none := by decide
  simp only [Address.rangeOfText,hs] at hr
  split at hr <;> simp_all

lemma plainAddress_cidr_iff (a : BitVec 32) (n : ℕ) : PlainAddress (cidr a n) ↔ n ≤ 32 := by
  constructor
  · intro h
    by_contra hn
    have hr := h.range
    simp [rangeOfText_cidr,hn] at hr
  · intro hn
    have hp := (cidr_shape a hn).plain
    exact ⟨by simpa [cidr] using hp,by simp [rangeOfText_cidr,hn]⟩

/-- Plain addresses are all the service keeps and all the shell has seen. -/
structure AllPlain (s : KillSwitch) : Prop where
  checked : s.Checked
  allowed : ∀ t ∈ s.allowedRanges, PlainAddress t
  blocked : ∀ t ∈ s.alwaysBlockedSites, PlainAddress t
  joined : ∀ t ∈ s.firewall.joined, PlainAddress t

lemma allPlain_fresh (strict : Bool) : AllPlain (.fresh strict) := by
  refine ⟨checked_fresh strict,?_,?_,?_⟩ <;> simp [fresh,MacOSFirewall.empty]

lemma setRules_allPlain {s : KillSwitch} {params : FirewallParams} (h : AllPlain s)
    (hitems : ∀ t ∈ params.items, PlainAddress t) : AllPlain (setRules s params) := by
  have hallow : params.allowNets → ∀ t ∈ params.allowAddrs, PlainAddress t := by
    intro hn t ht
    exact hitems t (by simp [FirewallParams.items,hn,ht])
  have hranges := setRules_allowedRanges s params
  refine ⟨⟨?_,?_⟩,?_,?_,?_⟩
  · rw [hranges]
    split_ifs with hc
    · exact ((Bool.and_eq_true _ _).mp hc).2
    · exact h.checked.allowed
  · rw [setRules_sites]
    exact h.checked.blocked
  · rw [hranges]
    split_ifs with hc
    · exact hallow ((Bool.and_eq_true _ _).mp hc).1
    · exact h.allowed
  · rw [setRules_sites]
    exact h.blocked
  · intro t ht
    rcases (mem_setRules_joined s params t).mp ht with hj | hm
    · exact h.joined t hj
    · exact hitems t hm

section

variable [Qt]

/-- A range that is not of IPv6 prints as a plain address exactly when it is one of IPv4 with
a prefix length in bounds. -/
lemma plainAddress_toString_iff {r : IPAddress} (h6 : r.address.isIPv6 = false) :
    PlainAddress r.toString ↔ r.address.isIPv4 ∧ 0 ≤ r.prefixLength ∧ r.prefixLength ≤ 32 := by
  obtain ⟨address,n⟩ := r
  cases address with
  | null =>
    have hn := not_plainAddress_null n
    simpa [IPAddress.toString,HostAddress.toString,HostAddress.isIPv4] using hn
  | ipv6 a => simp [HostAddress.isIPv6] at h6
  | ipv4 a =>
    cases n with
    | ofNat n =>
      have hc : IPAddress.toString ⟨.ipv4 a,.ofNat n⟩ = cidr a n := by
        simp [IPAddress.toString,HostAddress.toString,Address.dotted,cidr,intChars]
      rw [hc,plainAddress_cidr_iff]
      simp only [HostAddress.isIPv4,Int.ofNat_eq_natCast,true_and]
      omega
    | negSucc n =>
      have hn : ¬PlainAddress (IPAddress.toString ⟨.ipv4 a,.negSucc n⟩) := by
        intro h
        have hc := h.plain.chars '-' (by simp [IPAddress.toString,intChars])
        exact absurd hc (by decide)
      simp [hn]

/-- What a configuration to activate must hold so that its texts can be joined. -/
structure CleanConfig (config : InterfaceConfig) : Prop where
  servers : ∀ t ∈ dnsServers config, PlainAddress t
  excluded : anyAddress ∈ config.allowedIPAddressRanges →
    ∀ t ∈ config.excludedAddresses, PlainAddress t
  ranges : anyAddress ∉ config.allowedIPAddressRanges → ∀ r ∈ config.allowedIPAddressRanges,
      r.address.isIPv4 ∧ 0 ≤ r.prefixLength ∧ r.prefixLength ≤ 32

/-- The condition says no more than it must. -/
lemma cleanConfig_iff {config : InterfaceConfig}
    (h6 : ∀ r ∈ config.allowedIPAddressRanges, r.address.isIPv6 = false) :
    CleanConfig config ↔ ∀ t ∈ (firewallParams config).items, PlainAddress t := by
  by_cases hany : anyAddress ∈ config.allowedIPAddressRanges
  · rw [items_of_any hany]
    simp only [forall_mem_append]
    constructor
    · intro h
      exact ⟨h.excluded hany,h.servers⟩
    · intro h
      exact ⟨h.2,fun _ => h.1,fun hn => absurd hany hn⟩
  · rw [items_of_not_any hany]
    simp only [forall_mem_append,forall_mem_map]
    constructor
    · intro h
      exact ⟨fun r hr => (plainAddress_toString_iff (h6 r hr)).mpr (h.ranges hany r hr),h.servers⟩
    · intro h
      exact ⟨h.2,fun hn => absurd hn hany,
        fun _ r hr => (plainAddress_toString_iff (h6 r hr)).mp (h.1 r hr)⟩

/-- The texts that an accepted call hands over, now or when its list is put to use. -/
def handed : KillSwitch.Call → List String
  | .setConnectionProtection true c | .enableKillSwitch c _ =>
    if accepts c then
      allownets c++blocknets c++dnsServers c
    else []
  | .resetAllowedRange ranges | .addAllowedRange ranges | .setAlwaysBlockedSites ranges =>
    if ranges.all isValidIpOrCidr then ranges else []
  | _ => []

/-- The requests after which only plain addresses reach the shell. -/
def Clean : Request → Prop
  | .call call => ∀ t ∈ handed call, ¬EndsLine t
  | .activate obj configured => configured → ∀ config,
    Daemon.parseConfig obj = .ok config → config.killSwitchEnabled → CleanConfig config

/-- A request as the service carries it out. -/
def handle (s : KillSwitch) : Request → KillSwitch
  | .call call => s.step call
  | .activate obj configured =>
    match Daemon.parseConfig obj with
    | .ok config => (addInterface s config configured).1
    | .error _ => s

variable {call : KillSwitch.Call} {t : String}

/-- The texts come from an accepted configuration or are the ranges of an accepted list. -/
lemma handed_cases (h : t ∈ handed call) :
    (∃ c, (call = .setConnectionProtection true c ∨ ∃ i, call = .enableKillSwitch c i) ∧
      accepts c ∧
      t ∈ allownets c++blocknets c++dnsServers c) ∨
    ∃ ranges : List String, (call = .resetAllowedRange ranges ∨ call = .addAllowedRange ranges ∨
      call = .setAlwaysBlockedSites ranges) ∧ ranges.all isValidIpOrCidr ∧ t ∈ ranges := by
  cases call with
  | setConnectionProtection enabled c =>
    cases enabled with
    | false => simp [handed] at h
    | true => exact Or.inl ⟨c,Or.inl rfl,mem_ite_nil_right.mp h⟩
  | enableKillSwitch c i => exact Or.inl ⟨c,Or.inr ⟨i,rfl⟩,mem_ite_nil_right.mp h⟩
  | resetAllowedRange ranges =>
    exact Or.inr ⟨ranges,Or.inl rfl,mem_ite_nil_right.mp h⟩
  | addAllowedRange ranges =>
    exact Or.inr ⟨ranges,Or.inr (Or.inl rfl),mem_ite_nil_right.mp h⟩
  | setAlwaysBlockedSites ranges =>
    exact Or.inr ⟨ranges,Or.inr (Or.inr rfl),mem_ite_nil_right.mp h⟩
  | _ => simp [handed] at h

lemma handed_valid (h : t ∈ handed call) : isValidIpOrCidr t := by
  rcases handed_cases h with ⟨c,-,ha,hm⟩ | ⟨ranges,-,hv,hm⟩
  · obtain ⟨h1,h2,h3⟩ := accepts_valid ha
    rcases mem_append.mp hm with hm | hm
    · rcases mem_append.mp hm with hm | hm
      · exact all_eq_true.mp h1 t hm
      · exact all_eq_true.mp h2 t hm
    · exact all_eq_true.mp h3 t hm
  · exact all_eq_true.mp hv t hm

lemma handed_plain (hc : Clean (.call call)) (h : t ∈ handed call) : PlainAddress t :=
  (plainAddress_iff_of_valid (handed_valid h)).mpr (hc t h)

variable {s : KillSwitch}

/-- A list that is written to the firewall was recorded before or is handed over now. -/
lemma requested_handed {items : List String} (h : KillSwitch.Requested s call items)
    (hv : items.all isValidIpOrCidr) (ht : t ∈ items) : t ∈ s.allowedRanges ∨ t ∈ handed call := by
  rcases h.subset ht with hr | hp
  · exact Or.inl hr
  · cases h with
    | reset => exact Or.inr (by simpa only [handed,hv,if_true] using ht)
    | add ranges hv' => exact Or.inr (by simpa only [handed,hv',if_true,KillSwitch.Call.passed] using hp)
    | remove ranges => simp [KillSwitch.Call.passed] at hp

lemma step_blocked_plain (h : AllPlain s) (hc : Clean (.call call)) :
    ∀ t ∈ (s.step call).alwaysBlockedSites, PlainAddress t := by
  intro t ht
  rw [step_sites] at ht
  cases call with
  | setAlwaysBlockedSites ranges =>
    simp only [KillSwitch.Call.sitesAfter] at ht
    split_ifs at ht with hv
    · exact handed_plain hc (by simpa only [handed,hv,if_true] using ht)
    · exact h.blocked t ht
  | _ => exact h.blocked t ht

lemma step_allPlain (h : AllPlain s) (hc : Clean (.call call)) : AllPlain (s.step call) := by
  have hblocked := step_blocked_plain h hc
  have hchecked := step_checked s call h.checked
  cases step_outcome s call with
  | keep hs hp hr hf =>
    exact ⟨hchecked,by rw [hr]; exact h.allowed,hblocked,by rw [hf]; exact h.joined⟩
  | release hg hp hr hf =>
    refine ⟨hchecked,by simp [hr],hblocked,?_⟩
    intro t ht
    rw [hf] at ht
    rcases mem_releasedRules_joined _ _ ht with hj | hs
    · exact h.joined t hj
    · exact hblocked t hs
  | lockdown hg hp hr hf =>
    refine ⟨hchecked,by simp [hr],hblocked,?_⟩
    rw [hf,allTrafficRules_joined]
    exact h.joined
  | allow items hv hg hp hr hf =>
    have hitems : ∀ t ∈ items, PlainAddress t := by
      intro t ht
      rcases requested_handed hg hv ht with hm | hm
      · exact h.allowed t hm
      · exact handed_plain hc hm
    refine ⟨hchecked,by rw [hr]; exact hitems,hblocked,?_⟩
    rw [hf,allowRules_joined]
    exact forall_mem_append.mpr ⟨h.joined,hitems⟩
  | refuse items hv hg hn hp hr hf => simp [h.checked.requested hg hn] at hv
  | connect c ha hg hr hf =>
    have hhanded : handed call = allownets c++blocknets c++dnsServers c := by
      rcases hg with ⟨i,rfl,-⟩ | ⟨rfl,-⟩ <;> simp [handed,ha]
    have hall : ∀ t ∈ allownets c++blocknets c++dnsServers c,PlainAddress t :=
      fun t ht => handed_plain hc (by rwa [hhanded])
    simp only [forall_mem_append] at hall
    refine ⟨hchecked,by rw [hr]; exact hall.1.1,hblocked,?_⟩
    rw [hf,connectionRules_joined]
    simp only [forall_mem_append]
    refine ⟨⟨⟨h.joined,?_⟩,?_⟩,hall.2⟩
    · split_ifs
      · exact hall.1.1
      · simp
    · split_ifs
      · exact hall.1.2
      · simp

/-- The texts of a configuration are joined when its rules are set. -/
lemma mem_connectionRules_joined {c : JsonObject} (fw : MacOSFirewall)
    (h : t ∈ allownets c++blocknets c++dnsServers c) : t ∈ (connectionRules c fw).joined := by
  rw [connectionRules_joined]
  simp only [mem_append] at h ⊢
  rcases h with (hm | hm) | hm
  · exact Or.inl (Or.inl (Or.inr (by rwa [if_pos (allowNets_of_mem hm)])))
  · exact Or.inl (Or.inr (by rwa [if_pos (blockNets_of_mem hm)]))
  · exact Or.inr hm

/-- Straight after the start every text handed over is joined at once. -/
lemma handed_joined (h : t ∈ handed call) : t ∈ ((fresh false).step call).firewall.joined := by
  rcases handed_cases h with ⟨c,hcall,ha,hm⟩ | ⟨ranges,hcall,hv,hm⟩
  · have hj := mem_connectionRules_joined MacOSFirewall.empty hm
    rcases hcall with rfl | ⟨i,rfl⟩
    · simpa [step,perform,setConnectionProtection,enableKillSwitch,ha,fresh] using hj
    · simpa [step,perform,enableKillSwitch,ha,fresh] using hj
  · rcases hcall with rfl | rfl | rfl
    · simpa [step,perform,resetAllowedRange,hv,fresh,MacOSFirewall.empty] using hm
    · have hnil : ([] : List String).all isValidIpOrCidr := rfl
      have hall := appendRanges_valid hnil hv
      have hne : t.isEmpty = false := by simpa using ne_empty_of_valid (handed_valid h)
      have hin := (mem_appendRanges [] ranges t).mpr (Or.inr ⟨hm,hne⟩)
      simpa [step,perform,addAllowedRange,
        resetAllowedRange,hv,hall,fresh,MacOSFirewall.empty] using hin
    · have hl : ranges ≠ [] := ne_nil_of_mem hm
      simpa [step,perform,setAlwaysBlockedSites,hv,
        isStrictKillSwitchEnabled,disableKillSwitch,
        applyAlwaysBlockedSites,fresh,MacOSFirewall.empty,hl] using hm

lemma handle_allPlain (s : KillSwitch) (r : Request) (h : AllPlain s) (hc : Clean r) :
    AllPlain (handle s r) := by
  cases r with
  | call call => exact step_allPlain h hc
  | activate obj configured =>
    cases hparse : Daemon.parseConfig obj with
    | error e => simpa only [handle,hparse] using h
    | ok config =>
      simp only [handle,hparse]
      cases configured with
      | false => exact h
      | true =>
        rw [addInterface_configured]
        have hp : AllPlain (protectIPv6 s) :=
          ⟨⟨h.checked.allowed,h.checked.blocked⟩,h.allowed,h.blocked,by simpa using h.joined⟩
        split_ifs with hk
        · have hitems := (cleanConfig_iff (Daemon.parseConfig_not_ipv6 hparse)).mp
            (hc rfl config hparse hk)
          exact setRules_allPlain hp hitems
        · exact hp

/-- Over any sequence of kill switch calls and activations in which every request is clean,
every item that was joined into a command is a plain address; and a request that is not
clean hands over another text already when it is the first one. -/
theorem joined_items_are_plain_addresses :
    (∀ (strict : Bool) (requests : List Request), (∀ r ∈ requests, Clean r) →
      ∀ t ∈ (Runs.run handle (.fresh strict) requests).firewall.joined, PlainAddress t) ∧
    ∀ r, ¬Clean r → ∃ t ∈ (handle (.fresh false) r).firewall.joined, ¬PlainAddress t := by
  constructor
  · intro strict requests hc
    exact (Runs.run_invariant_of_forall handle_allPlain (allPlain_fresh strict) hc).joined
  · intro r hr
    cases r with
    | call call =>
      obtain ⟨t,ht,hl⟩ : ∃ t ∈ handed call, EndsLine t := by
        simpa only [Clean,not_forall,not_not,exists_prop] using hr
      exact ⟨t,handed_joined ht,fun hp => hp.not_endsLine hl⟩
    | activate obj configured =>
      simp only [Clean,not_forall,exists_prop] at hr
      obtain ⟨hconf,config,hparse,hk,hn⟩ := hr
      rw [cleanConfig_iff (Daemon.parseConfig_not_ipv6 hparse)] at hn
      simp only [not_forall,exists_prop] at hn
      obtain ⟨t,ht,hp⟩ := hn
      refine ⟨t,?_,hp⟩
      simp only [handle,hparse,hconf]
      rw [addInterface_configured,if_pos hk]
      exact (mem_setRules_joined _ _ t).mpr (Or.inr ht)

end

/-- A configuration whose DNS server is a command. -/
def commandConfig : JsonObject :=
  [("privateKey",.str "k"),("serverPublicKey",.str "p"),("serverPort",.num 51820),
   ("deviceIpv4Address",.str "10.8.1.2"),("serverIpv4AddrIn",.str "203.0.113.10"),
   ("primaryDnsServer",.str "1.1.1.1;reboot"),("protocol",.str "wireguard"),
   ("allowedIPAddressRanges",.arr [.obj [("address",.str "0.0.0.0"),("range",.num 0),
     ("isIpv6",.bool false)]]),
   ("excludedAddresses",.arr [.str "203.0.113.10"]),("killSwitchOption",.str "true")]

theorem command_reaches_shell :
    "1.1.1.1;reboot" ∈ (@handle dottedQt (.fresh false) (.activate commandConfig true)).firewall.joined ∧
      "198.51.100.3\n" ∈ (@handle dottedQt (.fresh false)
        (.call (.addAllowedRange ["198.51.100.3\n"]))).firewall.joined ∧
      ¬PlainAddress "1.1.1.1;reboot" ∧ ¬PlainAddress "198.51.100.3\n" := by
  refine ⟨by decide,by decide,?_,?_⟩
  · intro h
    exact absurd (h.plain.chars ';' (by decide)) (by decide)
  · intro h
    exact absurd (h.plain.chars '\n' (by decide)) (by decide)

end ShellText
end AlzheimerVPN
