import AlzheimerVPN.MacOSFirewall

/-! What the rule files do to a packet in the anchor settings the kill switch
produces: with nothing but the lockdown, with the listed sites blocked, and
with the rules of a connection. -/
namespace AlzheimerVPN
namespace Packet

variable (p : Packet)

def isDns : Prop := (p.protocol = .tcp ∨ p.protocol = .udp) ∧ p.destinationPort = 53

def isDhcp : Prop :=
  p.protocol = .udp ∧
    (p.sourcePort = 68 ∧ p.destinationPort = 67 ∨ p.sourcePort = 546 ∧ p.destinationPort = 547)

/-- The exceptions a protected connection leaves open. -/
inductive Permitted (servers ranges : List String) : Prop
  | loopback (h : p.interface = .lo0)
  | dns (hd : p.isDns) (h : Address.inTable servers p.destination)
  | lan (hd : ¬p.isDns) (h : Anchor.lanips.holds (fun _ => []) p.destination)
  | dhcp (hd : ¬p.isDns) (h : p.isDhcp)
  | tunnel (hd : ¬p.isDns) (h4 : p.destination.isV6 = false) (h : ∃ n ≤ 30, p.interface = .utun n)
  | range (hd : ¬p.isDns) (h4 : p.destination.isV6 = false)
      (h : Address.inTable ranges p.destination)

variable {p} in
lemma Permitted.mono {servers ranges ranges' : List String}
    (h : p.Permitted servers ranges) (hsub : ∀ r ∈ ranges, r ∈ ranges') :
    p.Permitted servers ranges' := by
  cases h with
  | loopback h => exact .loopback h
  | dns hd h => exact .dns hd h
  | lan hd h => exact .lan hd h
  | dhcp hd h => exact .dhcp hd h
  | tunnel hd h4 h => exact .tunnel hd h4 h
  | range hd h4 h => exact .range hd h4 (Address.inTable_mono hsub h)

end Packet

namespace MacOSFirewall

open PacketFilter

/-- The anchors that hold rules are those of the list. -/
def OnlyOn (fw : MacOSFirewall) (on : List Anchor) : Prop := ∀ a, fw.enabled a = decide (a ∈ on)

/-- The anchors after the loopback one, in the order of `amn.conf`. -/
def laterAnchors : List Anchor := Anchor.order.drop 1

lemma quick_of_later {a : Anchor} (h : a ∈ laterAnchors) : ∀ r ∈ a.ruleFile, r.quick = false := by
  cases a <;> simp_all [laterAnchors,Anchor.order,Anchor.ruleFile]

variable {fw : MacOSFirewall} {on : List Anchor}

lemma open_later (p : Packet) :
    Open p ((laterAnchors.filter (· ∈ on)).flatMap fw.anchorRules) := by
  intro r hr hq
  obtain ⟨a,ha,hra⟩ := List.mem_flatMap.mp hr
  obtain ⟨t,ht,rfl⟩ := List.mem_map.mp hra
  have hn := quick_of_later (List.mem_of_mem_filter ha) t ht
  simp [hn] at hq

/-- Loopback passes at once; for any other packet the last rule that applies decides. -/
lemma blocks_iff (hi : fw.installed) (h : fw.OnlyOn (.allowLoopback::on)) (p : Packet) :
    fw.blocks p ↔ p.interface ≠ .lo0 ∧ firstMatch p .pass
        ((laterAnchors.filter (· ∈ on)).flatMap fw.anchorRules).reverse = .block := by
  have hrest : laterAnchors.filter (· ∈ .allowLoopback::on) = laterAnchors.filter (· ∈ on) := by
    apply List.filter_congr
    intro a ha
    have hne : a ≠ .allowLoopback := by
      rintro rfl
      exact absurd ha (by decide)
    simp [hne]
  have hr : fw.rules =
      fw.anchorRules .allowLoopback++(laterAnchors.filter (· ∈ on)).flatMap fw.anchorRules := by
    have ho : Anchor.order = .allowLoopback::laterAnchors := rfl
    rw [rules,if_pos hi,ruleset_of_list h,ho,List.filter_cons_of_pos (by simp),hrest]
    rfl
  rw [blocks,verdict,hr,← evaluate_eq_firstMatch (open_later p)]
  by_cases hl : p.interface = .lo0
  · simp [anchorRules,Anchor.ruleFile,evaluate,RuleText.applies,Destination.holds,hl]
  · simp [anchorRules,Anchor.ruleFile,evaluate,RuleText.applies,hl]

lemma mem_utunInterfaces (i : Interface) : i ∈ Anchor.utunInterfaces ↔ ∃ n ≤ 30, i = .utun n := by
  simp only [Anchor.utunInterfaces,List.mem_map,List.mem_range]
  constructor
  · intro h
    obtain ⟨n,hn,he⟩ := h
    exact ⟨n,by omega,he.symm⟩
  · intro h
    obtain ⟨n,hn,he⟩ := h
    exact ⟨n,by omega,he.symm⟩

@[simp] lemma utunInterfaces_ne_nil : Anchor.utunInterfaces ≠ [] := by decide

/-- Under the lockdown alone only loopback passes. -/
lemma blocks_lockdown (hi : fw.installed)
    (h : fw.OnlyOn [.allowLoopback,.blockAll,.blockIPv6]) (p : Packet) :
    fw.blocks p ↔ p.interface ≠ .lo0 := by
  have hl : laterAnchors.filter (· ∈ [Anchor.blockAll,.blockIPv6]) = [.blockAll,.blockIPv6] := rfl
  rw [blocks_iff hi h,hl]
  simp [anchorRules,Anchor.ruleFile,firstMatch,RuleText.applies,Destination.holds]

/-- With the listed sites blocked, exactly these are blocked outside the tunnel. -/
lemma blocks_idle (hi : fw.installed)
    (h : fw.OnlyOn [.allowLoopback,.blockNets,.allowVPN]) (p : Packet) :
    fw.blocks p ↔ p.interface ≠ .lo0 ∧ p.interface ∉ Anchor.utunInterfaces ∧
      Address.inTable (fw.tables .blockNets .blocknets) p.destination := by
  have hl : laterAnchors.filter (· ∈ [Anchor.blockNets,.allowVPN]) = [.blockNets,.allowVPN] := rfl
  rw [blocks_iff hi h,hl]
  by_cases hu : p.interface ∈ Anchor.utunInterfaces
  · simp [anchorRules,Anchor.ruleFile,firstMatch,RuleText.applies,Destination.holds,hu]
  · by_cases ht : Address.inTable (fw.tables .blockNets .blocknets) p.destination = true <;>
      simp [anchorRules,Anchor.ruleFile,firstMatch,RuleText.applies,Destination.holds,hu,ht]

/-- The lockdown laid over the block of the listed sites, loopback apart. -/
def mixedAnchors : List Anchor := [.blockAll,.blockNets,.allowVPN,.blockIPv6]

/-- Under the mixed rules IPv4 still passes through a tunnel. -/
lemma not_blocks_mixed (hi : fw.installed)
    (h : fw.OnlyOn (.allowLoopback::mixedAnchors)) {p : Packet}
    (h4 : p.destination.isV6 = false) (hu : p.interface ∈ Anchor.utunInterfaces) :
    ¬fw.blocks p := by
  have hl : laterAnchors.filter (· ∈ mixedAnchors) = mixedAnchors := rfl
  rw [blocks_iff hi h,hl]
  simp [mixedAnchors,anchorRules,Anchor.ruleFile,firstMatch,RuleText.applies,Destination.holds,
    h4,hu]

/-- The anchors of a connection that blocks everything but its exceptions, loopback apart. -/
def connectionAnchors : List Anchor :=
  [.blockAll,.allowNets,.allowVPN,.blockIPv6,.allowDHCP,.allowLAN,.blockDNS]

/-- The block rule of `310.blockDNS`. -/
lemma blockDNS_applies (tables : Table → List String) (p : Packet) : RuleText.applies tables
      { action := .block, protocols := [.tcp,.udp], destinationPorts := [53] } p ↔
      p.isDns := by
  simp [RuleText.applies,Destination.holds,Packet.isDns]

lemma lanips_holds (tables tables' : Table → List String) (a : Address) :
    Anchor.lanips.holds tables a = Anchor.lanips.holds tables' a := by
  cases a <;> rfl

lemma passed_of_connection (hi : fw.installed)
    (h : fw.OnlyOn (.allowLoopback::connectionAnchors)) {p : Packet} (hp : ¬fw.blocks p) :
    p.Permitted (fw.tables .blockDNS .dnsaddr) (fw.tables .allowNets .allownets) := by
  by_cases hlo : p.interface = .lo0
  · exact .loopback hlo
  have hl : laterAnchors.filter (· ∈ connectionAnchors) = connectionAnchors := rfl
  rw [blocks_iff hi h,hl] at hp
  simp only [connectionAnchors,List.flatMap_cons,List.flatMap_nil,anchorRules,Anchor.ruleFile,
    List.map_cons,List.map_nil,List.cons_append,List.nil_append,List.append_nil,
    List.reverse_cons,List.reverse_nil,firstMatch] at hp
  have hd := (blockDNS_applies (fw.tables .blockDNS) p).not.mp
  split_ifs at hp with hdns hblock hlan hdhcp6 hdhcp4 h6 hvpn hnets hall
  · simp [RuleText.applies,Destination.holds] at hdns
    exact .dns ⟨hdns.1.1,hdns.2⟩ hdns.1.2
  · simp [hlo] at hp
  · have hr : Anchor.lanips.holds (fw.tables .allowLAN) p.destination := by
      simpa [RuleText.applies] using hlan
    exact .lan (hd hblock) (by rw [lanips_holds _ (fw.tables .allowLAN)]; exact hr)
  · simp [RuleText.applies] at hdhcp6
    exact .dhcp (hd hblock) ⟨hdhcp6.1.1.1.2,Or.inr ⟨hdhcp6.1.1.2.symm,hdhcp6.2⟩⟩
  · simp [RuleText.applies] at hdhcp4
    exact .dhcp (hd hblock) ⟨hdhcp4.1.1.1.2,Or.inl ⟨hdhcp4.1.1.2.symm,hdhcp4.2⟩⟩
  · simp [hlo] at hp
  · have h4 : p.destination.isV6 = false := by
      simpa [RuleText.applies,Destination.holds] using h6
    have hu : p.interface ∈ Anchor.utunInterfaces := by
      simpa [RuleText.applies,Destination.holds] using hvpn
    exact .tunnel (hd hblock) h4 ((mem_utunInterfaces _).mp hu)
  · have ht : Address.inTable (fw.tables .allowNets .allownets) p.destination := by
      simpa [RuleText.applies,Destination.holds] using hnets
    exact .range (hd hblock) (Address.inTable_v4 ht) ht
  · simp [hlo] at hp
  · simp [RuleText.applies,Destination.holds] at hall

end MacOSFirewall
end AlzheimerVPN
