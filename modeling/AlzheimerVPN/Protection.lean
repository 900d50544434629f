import AlzheimerVPN.KillSwitch

/-! What the kill switch promises its callers: the lists it stores hold checked
texts only, a rejected call changes nothing, and the rules of a protected
connection stay in place until the connection is given up. -/
namespace AlzheimerVPN.KillSwitch

open IpText

/-- Every stored text has passed `isValidIpOrCidr`. -/
structure Checked (s : KillSwitch) : Prop where
  allowed : s.allowedRanges.all isValidIpOrCidr
  blocked : s.alwaysBlockedSites.all isValidIpOrCidr

lemma appendRanges_valid {recorded ranges : List String}
    (hl : recorded.all isValidIpOrCidr) (hr : ranges.all isValidIpOrCidr) :
    (appendRanges recorded ranges).all isValidIpOrCidr := by
  rw [List.all_eq_true] at hl hr ⊢
  intro x hx
  rcases (mem_appendRanges recorded ranges x).mp hx with h | h
  · exact hl x h
  · exact hr x h.1

lemma filter_valid {recorded : List String} (p : String → Bool)
    (hl : recorded.all isValidIpOrCidr) : (recorded.filter p).all isValidIpOrCidr := by
  rw [List.all_eq_true] at hl ⊢
  intro x hx
  exact hl x (List.mem_of_mem_filter hx)

lemma checked_fresh (strict : Bool) : Checked (fresh strict) := ⟨rfl,rfl⟩

/-- A list asked for by `addAllowedRange` or `removeAllowedRange` is never refused. -/
lemma Checked.requested {s : KillSwitch} {call : Call} {items : List String} (h : Checked s)
    (hq : Requested s call items) (hn : ∀ ranges, call ≠ .resetAllowedRange ranges) :
    items.all isValidIpOrCidr := by
  cases hq with
  | reset => exact absurd rfl (hn items)
  | add ranges hv => exact appendRanges_valid h.allowed hv
  | remove ranges => exact filter_valid _ h.allowed

/-- The record of a state that a rejected call must leave alone. -/
structure Unchanged (s s' : KillSwitch) : Prop where
  flag : s'.connectionProtection = s.connectionProtection
  allowed : s'.allowedRanges = s.allowedRanges
  blocked : s'.alwaysBlockedSites = s.alwaysBlockedSites
  installed : s'.firewall.isInstalled = s.firewall.isInstalled
  anchors : ∀ a, s'.firewall.isAnchorEnabled a = s.firewall.isAnchorEnabled a
  tables : ∀ a t, s'.firewall.tables a t = s.firewall.tables a t

lemma Unchanged.of_eq {s s' : KillSwitch} (h : s' = s) : Unchanged s s' := by
  subst h
  exact ⟨rfl,rfl,rfl,rfl,fun _ => rfl,fun _ _ => rfl⟩

lemma resetAllowedRange_returns (s : KillSwitch) (ranges : List String) :
    (s.resetAllowedRange ranges).2 = ranges.all isValidIpOrCidr := by
  cases hv : ranges.all isValidIpOrCidr <;> simp [resetAllowedRange,hv]

section

variable [Qt] (s : KillSwitch)

lemma step_checked (call : Call) (h : Checked s) : Checked (s.step call) := by
  constructor
  · cases step_outcome s call with
    | keep hs hp hr hf => simpa only [hr] using h.allowed
    | release hg hp hr hf => simp [hr]
    | lockdown hg hp hr hf => simp [hr]
    | allow items hv hg hp hr hf => simpa only [hr] using hv
    | refuse items hv hg hn hp hr hf => simp [h.requested hg hn] at hv
    | connect c ha hg hr hf => simpa only [hr] using (accepts_valid ha).1
  · rw [step_sites]
    cases call with
    | setAlwaysBlockedSites ranges =>
      simp only [Call.sitesAfter]
      split_ifs with hv
      · exact hv
      · exact h.blocked
    | _ => exact h.blocked

/-- The split tunnel types the client knows. -/
def KnownType (c : JsonObject) : Prop :=
  splitTunnelType c = 0 ∨ splitTunnelType c = 1 ∨ splitTunnelType c = 2

instance (c : JsonObject) : Decidable (KnownType c) :=
  inferInstanceAs (Decidable (_ ∨ _ ∨ _))

/-- The final check of `setConnectionProtection` succeeds exactly for the known types. -/
lemma setConnectionProtection_returns {c : JsonObject} (ha : accepts c) :
    (s.setConnectionProtection true c).2 = decide (KnownType c) := by
  have hr : (s.setConnectionProtection true c).2 =
      if splitTunnelType c = 1 then blockNets c else blockAll c := by
    simp only [setConnectionProtection,enableKillSwitch,ha]
    split_ifs <;> simp_all [MacOSFirewall.isInstalled,MacOSFirewall.isAnchorEnabled]
  rw [hr]
  by_cases h1 : splitTunnelType c = 1
  · simp [KnownType,blockNets,h1]
  · apply Bool.eq_iff_iff.mpr
    simp [KnownType,blockAll,h1]

/-- A call that returns false has done nothing, unless it is an enabling call with a
configuration that is accepted and then found to be of no known type. -/
lemma step_of_returns_false {s : KillSwitch} {call : Call} (hs : Checked s)
    (hk : ∀ c, call = .setConnectionProtection true c → accepts c → KnownType c)
    (hf : (s.perform call).2 = false) : s.step call = s := by
  cases call with
  | init =>
    simp only [perform,init,disableAllTraffic] at hf
    split_ifs at hf
  | refresh enabled =>
    cases enabled <;> simp [perform,refresh,isStrictKillSwitchEnabled,disableAllTraffic] at hf
  | disableKillSwitch => simp [perform] at hf
  | setConnectionProtection enabled config =>
    cases enabled with
    | false => simp [perform,setConnectionProtection] at hf
    | true =>
      cases ha : accepts config with
      | false => simp [step,perform,setConnectionProtection,enableKillSwitch,ha]
      | true =>
        have hr := setConnectionProtection_returns s ha
        simp [show (s.setConnectionProtection true config).2 = false from hf,hk config rfl ha] at hr
  | disableAllTraffic => simp [perform,disableAllTraffic] at hf
  | enablePeerTraffic configStr => rfl
  | enableKillSwitch configStr vpnAdapterIndex =>
    cases ha : accepts configStr <;> simp_all [step,perform,enableKillSwitch]
  | resetAllowedRange ranges =>
    have hv : ranges.all isValidIpOrCidr = false := by
      rw [← resetAllowedRange_returns s ranges]
      exact hf
    simp [step,perform,resetAllowedRange,hv]
  | addAllowedRange ranges =>
    cases hv : ranges.all isValidIpOrCidr with
    | false => simp [step,perform,addAllowedRange,hv]
    | true =>
      have hall := appendRanges_valid hs.allowed hv
      simp [perform,addAllowedRange,hv,resetAllowedRange_returns,hall] at hf
  | removeAllowedRange ranges =>
    have hall := filter_valid (fun r => !ranges.contains r) hs.allowed
    simp only [perform,removeAllowedRange,resetAllowedRange_returns,hall] at hf
    cases hf
  | setAlwaysBlockedSites ranges =>
    cases hv : ranges.all isValidIpOrCidr with
    | false => simp [step,perform,setAlwaysBlockedSites,hv]
    | true =>
      simp only [perform,setAlwaysBlockedSites,hv] at hf
      split_ifs at hf <;> simp_all

/-- Every call that returns false changes nothing, whatever the state, exactly when it is
no enabling call for an accepted configuration of an unknown type. -/
theorem rejected_call_changes_nothing_iff (call : Call) :
    (∀ s, Checked s → (s.perform call).2 = false → Unchanged s (s.step call)) ↔
      ∀ c, call = .setConnectionProtection true c → accepts c → KnownType c := by
  constructor
  · rintro h c rfl ha
    by_contra hk
    have hf : ((fresh false).setConnectionProtection true c).2 = false := by
      rw [setConnectionProtection_returns _ ha,decide_eq_false hk]
    have hflag := (h (fresh false) (checked_fresh false) hf).flag
    simp [step,perform,setConnectionProtection,enableKillSwitch,ha,fresh] at hflag
  · intro hk s hs hf
    exact Unchanged.of_eq (step_of_returns_false hs hk hf)

end

/-- A configuration of a type the client does not know. -/
def strayConfig : JsonObject :=
  [("vpnServer",.str "203.0.113.10"),("dns1",.str "1.1.1.1"),("splitTunnelType",.num 3)]

/-- A full tunnel configuration. -/
def tunnelConfig : JsonObject :=
  [("vpnServer",.str "203.0.113.10"),("dns1",.str "1.1.1.1"),("splitTunnelType",.num 0)]

/-- The call of an unknown type returns false and yet releases a protected connection. -/
theorem stray_call_opens_protected_connection :
    let s := (@setConnectionProtection dottedQt (fresh false) true tunnelConfig).1
    let r := @setConnectionProtection dottedQt s true strayConfig
    s.firewall.isAnchorEnabled .blockAll ∧ r.2 = false ∧
      r.1.firewall.isAnchorEnabled .blockAll = false ∧ r.1.allowedRanges ≠ s.allowedRanges := by
  decide

/-- The rules that keep a connection of type `t` protected. -/
structure Shielded (t : ℤ) (s : KillSwitch) : Prop where
  flag : s.connectionProtection
  installed : s.firewall.isInstalled
  ipv6 : s.firewall.isAnchorEnabled .blockIPv6
  rules : s.firewall.isAnchorEnabled (if t = 1 then .blockNets else .blockAll)

/-- The calls that may come while a connection of type `t` is protected. -/
def Call.KeepsConnection (t : ℤ) : Call → Prop
  | .setConnectionProtection false _ => False
  | .setConnectionProtection true c => splitTunnelType c = t
  | .enableKillSwitch c _ => splitTunnelType c = t
  | _ => True

/-- Neither installing, locking down nor a change of the allow list takes a rule away. -/
lemma Shielded.of_firewall {t : ℤ} {s s' : KillSwitch} (h : Shielded t s)
    (hp : s'.connectionProtection = s.connectionProtection)
    (hf : s'.firewall = s.firewall ∨ s'.firewall = allTrafficRules s.firewall ∨
      ∃ items, s'.firewall = allowRules items s.firewall) : Shielded t s' := by
  have hi : s.firewall.installed := h.installed
  have h6 : s.firewall.enabled .blockIPv6 := h.ipv6
  have hr : s.firewall.enabled (if t = 1 then .blockNets else .blockAll) := h.rules
  have hflag : s'.connectionProtection := by rw [hp,h.flag]
  rcases hf with hf | hf | ⟨items,hf⟩
  · refine ⟨hflag,?_,?_,?_⟩ <;> rw [hf]
    · exact hi
    · exact h6
    · exact hr
  · refine ⟨hflag,?_,?_,?_⟩ <;> rw [hf]
    · exact allTrafficRules_installed _
    · exact allTrafficRules_enabled _ _
    · by_cases ht : t = 1
      · simp_all [MacOSFirewall.isAnchorEnabled]
      · simp [MacOSFirewall.isAnchorEnabled,ht]
  · refine ⟨hflag,?_,?_,?_⟩ <;> rw [hf]
    · simpa [MacOSFirewall.isInstalled] using hi
    · simpa [MacOSFirewall.isAnchorEnabled] using h6
    · simp [MacOSFirewall.isAnchorEnabled,hr]

section

variable [Qt] {t : ℤ}

/-- The rules of an accepted configuration of a known type are a shield. -/
lemma shielded_of_connect {s : KillSwitch} {fw : MacOSFirewall} {c : JsonObject}
    (hk : KnownType c) (hp : s.connectionProtection)
    (hf : s.firewall = connectionRules c fw) : Shielded (splitTunnelType c) s := by
  refine ⟨hp,?_,?_,?_⟩ <;> rw [hf]
  · exact connectionRules_installed fw c
  · exact connectionRules_enabled fw _ c
  · by_cases h1 : splitTunnelType c = 1
    · simp [MacOSFirewall.isAnchorEnabled,h1,blockNets]
    · have h02 : splitTunnelType c = 0 ∨ splitTunnelType c = 2 := by
        simpa [KnownType,h1] using hk
      simpa [MacOSFirewall.isAnchorEnabled,h1,blockAll] using h02

lemma step_shielded (ht : t = 0 ∨ t = 1 ∨ t = 2) (s : KillSwitch) (call : Call)
    (h : Shielded t s) (hc : call.KeepsConnection t) : Shielded t (s.step call) := by
  cases step_outcome s call with
  | keep hs hp hr hf => exact h.of_firewall hp (Or.inl hf)
  | release hg hp hr hf =>
    rcases hg with hg | ⟨c,rfl⟩
    · simp [h.flag] at hg
    · exact hc.elim
  | lockdown hg hp hr hf => exact h.of_firewall hp (Or.inr (Or.inl hf))
  | allow items hv hg hp hr hf => exact h.of_firewall hp (Or.inr (Or.inr ⟨items,hf⟩))
  | refuse items hv hg hn hp hr hf => exact h.of_firewall hp (Or.inl hf)
  | connect c ha hg hr hf =>
    have hct : splitTunnelType c = t := by
      rcases hg with ⟨i,rfl,-⟩ | ⟨rfl,-⟩
      · exact hc
      · exact hc
    have hflag : (s.step call).connectionProtection := by
      rcases hg with ⟨i,-,hp⟩ | ⟨-,hp⟩
      · rw [hp,h.flag]
      · exact hp
    subst hct
    exact shielded_of_connect ht hflag hf

/-- Once protection was granted, no call but the one that gives it up takes the rules of
the connection away, however the calls are ordered. -/
theorem connection_stays_shielded (s : KillSwitch) (config : JsonObject) (calls : List Call)
    (ht : KnownType config) (hon : (s.setConnectionProtection true config).2)
    (hcalls : ∀ call ∈ calls, call.KeepsConnection (splitTunnelType config)) :
    Shielded (splitTunnelType config) ((s.setConnectionProtection true config).1.after calls) := by
  have hstart : Shielded (splitTunnelType config) (s.setConnectionProtection true config).1 := by
    cases ha : accepts config with
    | false => simp [setConnectionProtection,enableKillSwitch,ha] at hon
    | true =>
      have hflag : (s.setConnectionProtection true config).1.connectionProtection := by
        simp [setConnectionProtection,enableKillSwitch,ha]
      have hf : (s.setConnectionProtection true config).1.firewall =
          connectionRules config s.firewall := by
        simp [setConnectionProtection,enableKillSwitch,ha]
      exact shielded_of_connect ht hflag hf
  exact Runs.run_invariant_of_forall (step_shielded ht) hstart hcalls

end

theorem tunnel_connection_stays_shielded :
    let s := @setConnectionProtection dottedQt (fresh false) true tunnelConfig
    s.2 ∧ Shielded (splitTunnelType tunnelConfig) (@after dottedQt s.1
      [.disableKillSwitch,.refresh true,.addAllowedRange ["198.51.100.3"],.refresh false,
       .enableKillSwitch tunnelConfig 0,.disableAllTraffic]) := by
  refine ⟨by decide,?_⟩
  apply @connection_stays_shielded dottedQt
  · decide
  · decide
  · simp [Call.KeepsConnection]

end AlzheimerVPN.KillSwitch
