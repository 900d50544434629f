import Mathlib.Logic.Function.Basic
import AlzheimerVPN.Address
import AlzheimerVPN.PacketFilter

/-! The macOS packet filter as the service sees it: the rule files below
`deploy/data/macos/pf`, and `MacOSFirewall` as a store of the installed flag,
the anchors that hold rules, the tables and the texts handed to the shell. -/
namespace AlzheimerVPN

inductive Interface
  | lo0 | utun (n : ℕ) | other (name : String)
  deriving DecidableEq, Repr

inductive Protocol
  | tcp | udp | other (n : ℕ)
  deriving DecidableEq, Repr

/-- An outgoing packet; `group` is the group of the process that sends it. -/
structure Packet where
  interface : Interface
  protocol : Protocol
  sourcePort : ℕ
  destination : Address
  destinationPort : ℕ
  group : String
  deriving DecidableEq, Repr

/-- The sub-anchors of `amn.conf`. -/
inductive Anchor
  | allowLoopback | blockAll | allowNets | blockNets | allowExcludedApps | allowVPN
  | blockIPv6 | allowDHCP | allowLAN | blockDNS | allowHnsd | allowPIA
  deriving DecidableEq, Repr

inductive Table
  | allownets | blocknets | dnsaddr
  deriving DecidableEq, Repr

inductive Destination
  | any | table (t : Table)
  | ranges (v4 : List (AddressRange 32)) (v6 : List (AddressRange 128))

/-- One line of a rule file; an empty list or `none` is a criterion left out. -/
structure RuleText where
  action : PacketFilter.Action
  quick : Bool := false
  interfaces : List Interface := []
  inet6 : Option Bool := none
  protocols : List Protocol := []
  sourcePort : Option ℕ := none
  destination : Destination := .any
  destinationPorts : List ℕ := []
  group : Option String := none

def Destination.holds (tables : Table → List String) : Destination → Address → Bool
  | .any, _ => true
  | .table t, a => Address.inTable (tables t) a
  | .ranges v4 _, .v4 a => v4.any fun r => r.contains a
  | .ranges _ v6, .v6 a => v6.any fun r => r.contains a

def RuleText.applies (tables : Table → List String) (r : RuleText) (p : Packet) : Bool :=
  (r.interfaces.isEmpty || r.interfaces.contains p.interface) &&
  (r.inet6.isNone || r.inet6 == some p.destination.isV6) &&
  (r.protocols.isEmpty || r.protocols.contains p.protocol) &&
  (r.sourcePort.isNone || r.sourcePort == some p.sourcePort) &&
  r.destination.holds tables p.destination &&
  (r.destinationPorts.isEmpty || r.destinationPorts.contains p.destinationPort) &&
  (r.group.isNone || r.group == some p.group)

namespace Anchor

open Address

def utunInterfaces : List Interface := (List.range 31).map .utun

def lanips : Destination :=
  .ranges [⟨ofOctets 10 0 0 0,8⟩,⟨ofOctets 169 254 0 0,16⟩,⟨ofOctets 172 16 0 0,12⟩,
      ⟨ofOctets 192 168 0 0,16⟩,⟨ofOctets 224 0 0 0,4⟩,⟨ofOctets 255 255 255 255,32⟩]
    [⟨0xfc00#128 <<< 112,7⟩,⟨0xfe80#128 <<< 112,10⟩,⟨0xff00#128 <<< 112,8⟩]

/-- The rules of `amn.<anchor>.conf`. The file of `150.allowExcludedApps` has no
rule and `400.allowPIA` has no file. -/
def ruleFile : Anchor → List RuleText
  | .allowLoopback => [{ action := .pass, quick := true, interfaces := [.lo0] }]
  | .blockAll => [{ action := .block }]
  | .allowNets => [{ action := .pass, destination := .table .allownets }]
  | .blockNets => [{ action := .block, destination := .table .blocknets }]
  | .allowExcludedApps => []
  | .allowVPN => [{ action := .pass, interfaces := utunInterfaces }]
  | .blockIPv6 => [{ action := .block, inet6 := some true }]
  | .allowDHCP =>
    [{ action := .pass, inet6 := some false, protocols := [.udp], sourcePort := some 68,
       destination := .ranges [⟨ofOctets 255 255 255 255,32⟩] [], destinationPorts := [67] },
     { action := .pass, inet6 := some true, protocols := [.udp], sourcePort := some 546,
       destination := .ranges [] [⟨0xff00#128 <<< 112,8⟩], destinationPorts := [547] }]
  | .allowLAN => [{ action := .pass, destination := lanips }]
  | .blockDNS =>
    [{ action := .block, protocols := [.tcp,.udp], destinationPorts := [53] },
     { action := .pass, protocols := [.tcp,.udp], destination := .table .dnsaddr,
       destinationPorts := [53] }]
  | .allowHnsd =>
    [{ action := .block, group := some "amnhnsd" },
     { action := .pass, interfaces := utunInterfaces, protocols := [.tcp,.udp],
       destinationPorts := [53,13038], group := some "amnhnsd" }]
  | .allowPIA => []

/-- The order of `amn.conf`. -/
def order : List Anchor :=
  [.allowLoopback,.blockAll,.allowNets,.blockNets,.allowExcludedApps,.allowVPN,.blockIPv6,
   .allowDHCP,.allowLAN,.blockDNS,.allowHnsd,.allowPIA]

def hasRules (a : Anchor) : Bool := !(ruleFile a).isEmpty

@[simp] lemma hasRules_eq (a : Anchor) : a.hasRules = decide (a ∉ [.allowExcludedApps,.allowPIA]) := by
  cases a <;> rfl

end Anchor

/-- What a connection asks of the firewall. -/
structure FirewallParams where
  dnsServers : List String
  blockAll : Bool
  allowNets : Bool
  blockNets : Bool
  allowAddrs : List String
  blockAddrs : List String

structure MacOSFirewall where
  installed : Bool
  enabled : Anchor → Bool
  tables : Anchor → Table → List String
  joined : List String

namespace MacOSFirewall

variable (fw : MacOSFirewall)

/-- Nothing loaded and nothing handed to the shell yet. -/
def empty : MacOSFirewall := ⟨false,fun _ => false,fun _ _ => [],[]⟩

/-- `pfctl -F all` on the root anchor empties everything below it. -/
def uninstall : MacOSFirewall :=
  { fw with installed := false, enabled := fun _ => false, tables := fun _ _ => [] }

/-- Clears what is loaded, then loads the root anchor and enables the filter. -/
def install : MacOSFirewall := { fw.uninstall with installed := true }

def isInstalled : Bool := fw.installed

/-- Moves the root anchor to the end of the main rules; the anchor itself is unchanged. -/
def ensureRootAnchorPriority : MacOSFirewall := fw

/-- The guard in front of every rule change: install unless already installed. -/
def ensureInstalled : MacOSFirewall := if !fw.isInstalled then fw.install else fw

variable (a : Anchor)

def flush : MacOSFirewall :=
  { fw with enabled := Function.update fw.enabled a false
            tables := Function.update fw.tables a fun _ => [] }

def enableAnchor : MacOSFirewall :=
  if fw.enabled a then fw
  else { fw.flush a with enabled := Function.update fw.enabled a a.hasRules }

def disableAnchor : MacOSFirewall := if fw.enabled a then fw.flush a else fw

def isAnchorEnabled : Bool := fw.enabled a

def setAnchorEnabled (enabled : Bool) : MacOSFirewall :=
  if enabled then fw.enableAnchor a else fw.disableAnchor a

/-- Replaces the table by the joined items, or kills it. -/
def setAnchorTable (enabled : Bool) (t : Table) (items : List String) : MacOSFirewall :=
  if enabled then
    { fw with tables := Function.update fw.tables a (Function.update (fw.tables a) t items)
              joined := fw.joined++items }
  else { fw with tables := Function.update fw.tables a (Function.update (fw.tables a) t []) }

section

variable (a b : Anchor) (on : Bool) (t t' : Table) (items : List String)

@[simp] lemma uninstall_installed : fw.uninstall.installed = false := rfl
@[simp] lemma uninstall_enabled : fw.uninstall.enabled a = false := rfl
@[simp] lemma uninstall_tables : fw.uninstall.tables a t = [] := rfl
@[simp] lemma uninstall_joined : fw.uninstall.joined = fw.joined := rfl
@[simp] lemma install_installed : fw.install.installed := rfl
@[simp] lemma install_enabled : fw.install.enabled a = false := rfl
@[simp] lemma install_tables : fw.install.tables a t = [] := rfl
@[simp] lemma install_joined : fw.install.joined = fw.joined := rfl
@[simp] lemma ensureRootAnchorPriority_eq : fw.ensureRootAnchorPriority = fw := rfl

@[simp] lemma ensureInstalled_installed : fw.ensureInstalled.installed := by
  by_cases h : fw.installed = true <;> simp [ensureInstalled,isInstalled,h]

@[simp] lemma ensureInstalled_joined : fw.ensureInstalled.joined = fw.joined := by
  by_cases h : fw.installed = true <;> simp [ensureInstalled,isInstalled,h]

@[simp] lemma ensureInstalled_enabled :
    fw.ensureInstalled.enabled a = (fw.installed && fw.enabled a) := by
  by_cases h : fw.installed = true <;> simp [ensureInstalled,isInstalled,h]

@[simp] lemma ensureInstalled_tables :
    fw.ensureInstalled.tables a t = if fw.installed then fw.tables a t else [] := by
  by_cases h : fw.installed = true <;> simp [ensureInstalled,isInstalled,h]

@[simp] lemma setAnchorEnabled_installed :
    (fw.setAnchorEnabled a on).installed = fw.installed := by
  cases on <;> simp only [setAnchorEnabled,enableAnchor,disableAnchor,flush] <;> split_ifs <;> rfl

@[simp] lemma setAnchorEnabled_joined : (fw.setAnchorEnabled a on).joined = fw.joined := by
  cases on <;> simp only [setAnchorEnabled,enableAnchor,disableAnchor,flush] <;> split_ifs <;> rfl

@[simp] lemma setAnchorEnabled_enabled : (fw.setAnchorEnabled a on).enabled b =
      if b = a then on && (fw.enabled a || a.hasRules) else fw.enabled b := by
  by_cases hb : b = a <;> by_cases he : fw.enabled a = true <;> cases on <;>
    simp [setAnchorEnabled,enableAnchor,disableAnchor,flush,he,hb]

/-- Loading or flushing an anchor empties its table; setting it to what it is does not. -/
@[simp] lemma setAnchorEnabled_tables : (fw.setAnchorEnabled a on).tables b t =
      if b = a ∧ on ≠ fw.enabled a then [] else fw.tables b t := by
  by_cases hb : b = a <;> by_cases he : fw.enabled a = true <;> cases on <;>
    simp [setAnchorEnabled,enableAnchor,disableAnchor,flush,he,hb]

@[simp] lemma setAnchorTable_installed :
    (fw.setAnchorTable a on t items).installed = fw.installed := by
  cases on <;> rfl

@[simp] lemma setAnchorTable_enabled :
    (fw.setAnchorTable a on t items).enabled b = fw.enabled b := by
  cases on <;> rfl

@[simp] lemma setAnchorTable_joined :
    (fw.setAnchorTable a on t items).joined = fw.joined++(if on then items else []) := by
  cases on <;> simp [setAnchorTable]

@[simp] lemma setAnchorTable_tables : (fw.setAnchorTable a on t items).tables b t' =
      if b = a ∧ t' = t then (if on then items else []) else fw.tables b t' := by
  by_cases hb : b = a
  · subst hb
    by_cases ht : t' = t <;> cases on <;> simp [setAnchorTable,ht]
  · cases on <;> simp [setAnchorTable,hb]

end

/-- The rules of a connection, as both writers set them. -/
def applyParams (params : FirewallParams) : MacOSFirewall :=
  fw.ensureInstalled.ensureRootAnchorPriority
    |>.setAnchorEnabled .allowLoopback true
    |>.setAnchorEnabled .blockAll params.blockAll
    |>.setAnchorEnabled .allowNets params.allowNets
    |>.setAnchorTable .allowNets params.allowNets .allownets params.allowAddrs
    |>.setAnchorEnabled .blockNets params.blockNets
    |>.setAnchorTable .blockNets params.blockNets .blocknets params.blockAddrs
    |>.setAnchorEnabled .allowVPN true
    |>.setAnchorEnabled .blockIPv6 true
    |>.setAnchorEnabled .allowDHCP true
    |>.setAnchorEnabled .allowLAN true
    |>.setAnchorEnabled .blockDNS true
    |>.setAnchorTable .blockDNS true .dnsaddr params.dnsServers

section

variable (params : FirewallParams) (a : Anchor)

@[simp] lemma applyParams_installed : (fw.applyParams params).installed := by
  simp [applyParams]
@[simp] lemma applyParams_joined : (fw.applyParams params).joined =
    fw.joined++(if params.allowNets then params.allowAddrs else [])
      ++(if params.blockNets then params.blockAddrs else [])++params.dnsServers := by
  simp [applyParams]
@[simp] lemma applyParams_enabled : (fw.applyParams params).enabled a = match a with
    | .blockAll => params.blockAll
    | .allowNets => params.allowNets
    | .blockNets => params.blockNets
    | .allowExcludedApps | .allowHnsd | .allowPIA => fw.installed && fw.enabled a
    | _ => true := by
  cases a <;> simp [applyParams]
@[simp] lemma applyParams_allownets : (fw.applyParams params).tables .allowNets .allownets =
    if params.allowNets then params.allowAddrs else [] := by
  simp [applyParams]
@[simp] lemma applyParams_blocknets : (fw.applyParams params).tables .blockNets .blocknets =
    if params.blockNets then params.blockAddrs else [] := by
  simp [applyParams]
@[simp] lemma applyParams_dnsaddr :
    (fw.applyParams params).tables .blockDNS .dnsaddr = params.dnsServers := by
  simp [applyParams]

end

/-- The rules of an anchor over its own tables. -/
def anchorRules : List (PacketFilter.Rule Packet) :=
  (Anchor.ruleFile a).map fun r => ⟨r.action,r.quick,r.applies (fw.tables a)⟩

/-- The filter rules in force. -/
def rules : List (PacketFilter.Rule Packet) :=
  if fw.installed then PacketFilter.ruleset Anchor.order fw.enabled fw.anchorRules else []

def blocks (p : Packet) : Prop := PacketFilter.verdict fw.rules p = .block

instance (p : Packet) : Decidable (fw.blocks p) :=
  inferInstanceAs (Decidable (PacketFilter.verdict fw.rules p = .block))

end MacOSFirewall
end AlzheimerVPN
