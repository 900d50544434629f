import AlzheimerVPN.PacketVerdict
import AlzheimerVPN.Protection

/-! No packet leaves a protected connection but through its exceptions. Which
exceptions there are is read off the calls: the last accepted configuration
and the ranges passed since. -/
namespace AlzheimerVPN.KillSwitch

open MacOSFirewall IpText List

/-- The anchors that no call switches on. -/
def extraAnchors : List Anchor := [.allowExcludedApps,.allowHnsd,.allowPIA]

def NoExtras (fw : MacOSFirewall) : Prop := ∀ a ∈ extraAnchors, fw.enabled a = false

lemma noExtras_empty : NoExtras .empty := fun _ _ => rfl

/-- The rules a released kill switch leaves do not switch on what was off. -/
lemma noExtras_released {fw : MacOSFirewall} (h : NoExtras fw) (strict : Bool)
    (sites : List String) : NoExtras (releasedRules strict sites fw) := by
  intro a ha
  have hf := h a ha
  cases strict with
  | true => cases a <;> simp_all [releasedRules,extraAnchors]
  | false =>
    cases sites with
    | nil => simp [releasedRules]
    | cons site sites => cases a <;> simp_all [releasedRules,extraAnchors]

/-- The configuration a call asks to enable. -/
def Call.enabling : Call → Option JsonObject
  | .setConnectionProtection true c => some c
  | .enableKillSwitch c _ => some c
  | _ => none

/-- The ranges a call passes to the allow list. -/
def Call.passed : Call → List String
  | .addAllowedRange ranges => ranges
  | .resetAllowedRange ranges => ranges
  | _ => []

/-- An accepted configuration and the ranges it allows or that were passed since. -/
structure Grant where
  config : JsonObject
  ranges : List String

/-- Every list asked for consists of recorded and of passed ranges. -/
lemma Requested.subset {s : KillSwitch} {call : Call} {items : List String}
    (h : Requested s call items) {r : String} (hr : r ∈ items) :
    r ∈ s.allowedRanges ∨ r ∈ call.passed := by
  cases h with
  | reset => exact Or.inr hr
  | add ranges hv =>
    rcases (mem_appendRanges _ _ r).mp hr with h | h
    · exact Or.inl h
    · exact Or.inr h.1
  | remove ranges => exact Or.inl (mem_of_mem_filter hr)

lemma blockNets_of_blockAll {c : JsonObject} (h : blockAll c) :
    allowNets c ∧ blockNets c = false := by
  refine ⟨h,?_⟩
  have ht : splitTunnelType c = 0 ∨ splitTunnelType c = 2 := by simpa [blockAll] using h
  rcases ht with ht | ht <;> simp [blockNets,ht]

/-- The state of a protected connection agrees with what was granted to it. -/
structure Covered (s : KillSwitch) (g : Grant) : Prop where
  installed : s.firewall.installed
  anchors : s.firewall.OnlyOn (.allowLoopback::connectionAnchors)
  servers : s.firewall.tables .blockDNS .dnsaddr = dnsServers g.config
  table : ∀ r ∈ s.firewall.tables .allowNets .allownets, r ∈ g.ranges
  recorded : ∀ r ∈ s.allowedRanges, r ∈ g.ranges

section

variable {s s' : KillSwitch} {g : Grant} (h : Covered s g) (extra : List String)

include h

lemma Covered.granted {r : String} (hm : r ∈ s.allowedRanges ∨ r ∈ extra) :
    r ∈ g.ranges++extra := by
  rcases hm with hm | hm
  · exact mem_append_left _ (h.recorded r hm)
  · exact mem_append_right _ hm

lemma Covered.of_firewall_eq (hf : s'.firewall = s.firewall)
    (hr : ∀ r ∈ s'.allowedRanges, r ∈ s.allowedRanges ∨ r ∈ extra) :
    Covered s' ⟨g.config,g.ranges++extra⟩ := by
  refine ⟨?_,?_,?_,?_,?_⟩
  · rw [hf,h.installed]
  · rw [hf]
    exact h.anchors
  · rw [hf,h.servers]
  · intro r hm
    rw [hf] at hm
    exact mem_append_left _ (h.table r hm)
  · intro r hm
    exact h.granted extra (hr r hm)

lemma Covered.lockdown (hf : s'.firewall = allTrafficRules s.firewall)
    (hr : s'.allowedRanges = []) : Covered s' ⟨g.config,g.ranges++extra⟩ := by
  have hi := h.installed
  refine ⟨?_,?_,?_,?_,?_⟩
  · rw [hf,allTrafficRules_installed]
  · intro a
    have ho := h.anchors a
    rw [hf,allTrafficRules_enabled]
    cases a <;> simp_all [connectionAnchors]
  · rw [hf,allTrafficRules_tables _ _ _ (by decide),if_pos hi,h.servers]
  · intro r hm
    rw [hf,allTrafficRules_tables _ _ _ (by decide),if_pos hi] at hm
    exact mem_append_left _ (h.table r hm)
  · simp [hr]

lemma Covered.allow {items : List String}
    (hi : ∀ r ∈ items, r ∈ s.allowedRanges ∨ r ∈ extra)
    (hf : s'.firewall = allowRules items s.firewall) (hr : s'.allowedRanges = items) :
    Covered s' ⟨g.config,g.ranges++extra⟩ := by
  refine ⟨?_,?_,?_,?_,?_⟩
  · rw [hf,allowRules_installed,h.installed]
  · intro a
    have ho := h.anchors a
    rw [hf,allowRules_enabled]
    cases a <;> simp_all [connectionAnchors]
  · rw [hf,allowRules_tables_of_ne _ _ _ _ (by decide),h.servers]
  · intro r hm
    rw [hf,allowRules_tables_allowNets] at hm
    exact h.granted extra (hi r hm)
  · intro r hm
    rw [hr] at hm
    exact h.granted extra (hi r hm)

end

section

variable [Qt]

lemma step_noExtras (s : KillSwitch) (call : Call) (h : NoExtras s.firewall) :
    NoExtras (s.step call).firewall := by
  cases step_outcome s call with
  | keep hs hp hr hf => simpa only [hf] using h
  | release hg hp hr hf =>
    rw [hf]
    exact noExtras_released h _ _
  | lockdown hg hp hr hf =>
    intro a ha
    have ho := h a ha
    rw [hf,allTrafficRules_enabled]
    cases a <;> simp_all [extraAnchors]
  | allow items hv hg hp hr hf =>
    intro a ha
    have ho := h a ha
    rw [hf,allowRules_enabled]
    cases a <;> simp_all [extraAnchors]
  | refuse items hv hg hn hp hr hf => simpa only [hf] using h
  | connect c ha hg hr hf =>
    intro a ha
    have ho := h a ha
    rw [hf,connectionRules_enabled]
    cases a <;> simp_all [extraAnchors]

def Call.accepted (call : Call) : Option JsonObject := call.enabling.filter accepts

/-- The grant in force after a call. -/
def grantAfter (g : Option Grant) (call : Call) : Option Grant :=
  match call.accepted with
  | some c => some ⟨c,allownets c⟩
  | none => g.map fun g => ⟨g.config,g.ranges++call.passed⟩

def lastGrant (calls : List Call) : Option Grant := Runs.run grantAfter none calls

variable {c : JsonObject}

/-- An accepted configuration replaces the rules and the allow list. -/
lemma step_accepted (s : KillSwitch) {call : Call} (h : call.accepted = some c) :
    (s.step call).firewall = connectionRules c s.firewall ∧
      (s.step call).allowedRanges = allownets c := by
  obtain ⟨hc,ha⟩ := Option.filter_eq_some_iff.mp h
  cases call with
  | setConnectionProtection enabled config =>
    cases enabled with
    | false => simp [Call.enabling] at hc
    | true =>
      have he : config = c := by simpa [Call.enabling] using hc
      simp [step,perform,setConnectionProtection,enableKillSwitch,he,ha]
  | enableKillSwitch config i =>
    have he : config = c := by simpa [Call.enabling] using hc
    simp [step,perform,enableKillSwitch,he,ha]
  | _ => simp [Call.enabling] at hc

/-- While a connection is protected its last accepted configuration is known, and if that
blocks everything the state is covered. -/
structure Guarding (x : KillSwitch × Option Grant) : Prop where
  extras : NoExtras x.1.firewall
  covered : x.1.connectionProtection → ∃ g, x.2 = some g ∧ (blockAll g.config → Covered x.1 g)

lemma covered_of_connect {s : KillSwitch} {fw : MacOSFirewall} (he : NoExtras fw)
    (hb : blockAll c) (hf : s.firewall = connectionRules c fw)
    (hr : s.allowedRanges = allownets c) : Covered s ⟨c,allownets c⟩ := by
  obtain ⟨ha,hn⟩ := blockNets_of_blockAll hb
  have honly : (connectionRules c fw).OnlyOn (.allowLoopback::connectionAnchors) := by
    intro a
    have hx := he a
    rw [connectionRules_enabled]
    cases a <;> simp_all [connectionAnchors,extraAnchors]
  refine ⟨?_,?_,?_,?_,?_⟩
  · rw [hf,connectionRules_installed]
  · rw [hf]
    exact honly
  · rw [hf,connectionRules_dnsaddr]
  · intro r hm
    rw [hf,connectionRules_allownets,if_pos ha] at hm
    exact hm
  · intro r hm
    rw [hr] at hm
    exact hm

lemma step_guarding (x : KillSwitch × Option Grant) (call : Call) (h : Guarding x) :
    Guarding (x.1.step call,grantAfter x.2 call) := by
  obtain ⟨s,og⟩ := x
  refine ⟨step_noExtras s call h.extras,?_⟩
  intro hflag
  cases hacc : call.accepted with
  | some c =>
    obtain ⟨hf,hr⟩ := step_accepted s hacc
    refine ⟨⟨c,allownets c⟩,by simp [grantAfter,hacc],?_⟩
    intro hb
    exact covered_of_connect h.extras hb hf hr
  | none =>
    have hgrant : ∀ g, og = some g →
        grantAfter og call = some ⟨g.config,g.ranges++call.passed⟩ := by
      intro g hg
      simp [grantAfter,hacc,hg]
    have hkept : ∀ hp : (s.step call).connectionProtection = s.connectionProtection,
        ∃ g, og = some g ∧ (blockAll g.config → Covered s g) := by
      intro hp
      exact h.covered (hp.symm.trans hflag)
    cases step_outcome s call with
    | keep hs hp hr hf =>
      obtain ⟨g,hg,hc⟩ := hkept hp
      refine ⟨_,hgrant g hg,?_⟩
      intro hb
      exact (hc hb).of_firewall_eq _ hf (fun r hm => Or.inl (by simpa [hr] using hm))
    | release hg hp hr hf => simp [hp] at hflag
    | lockdown hg hp hr hf =>
      obtain ⟨g,hg,hc⟩ := hkept hp
      refine ⟨_,hgrant g hg,?_⟩
      intro hb
      exact (hc hb).lockdown _ hf hr
    | allow items hv hq hp hr hf =>
      obtain ⟨g,hg,hc⟩ := hkept hp
      refine ⟨_,hgrant g hg,?_⟩
      intro hb
      exact (hc hb).allow _ (fun r => hq.subset) hf hr
    | refuse items hv hq hn hp hr hf =>
      obtain ⟨g,hg,hc⟩ := hkept hp
      refine ⟨_,hgrant g hg,?_⟩
      intro hb
      exact (hc hb).of_firewall_eq _ hf (fun r hm => hq.subset (by simpa [hr] using hm))
    | connect c ha hg hr hf =>
      rcases hg with ⟨i,rfl,-⟩ | ⟨rfl,-⟩ <;>
        simp [Call.accepted,Call.enabling,Option.filter,ha] at hacc

lemma guarding_after (strict : Bool) (calls : List Call) :
    Guarding ((fresh strict).after calls,lastGrant calls) := by
  have hstart : Guarding (fresh strict,none) := by
    refine ⟨noExtras_empty,?_⟩
    intro hflag
    simp [fresh] at hflag
  have hrun := Runs.run_invariant_of_step step_guarding hstart calls
  rw [Runs.run_pair] at hrun
  exact hrun

end

/-- A packet to a range that was added to a protected connection. -/
def addedPacket : Packet := ⟨.other "en0",.tcp,50000,.v4 (Address.ofOctets 198 51 100 3),443,"staff"⟩

end AlzheimerVPN.KillSwitch
