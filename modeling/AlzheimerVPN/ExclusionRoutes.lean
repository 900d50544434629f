import AlzheimerVPN.DaemonConfig
import AlzheimerVPN.RefCount

/-! The routes around the tunnel: the list of the route monitor, and the counts
the daemon keeps of the prefixes it has asked for. The kernel is an oracle that
answers the messages to it one after the other; what it answers to the removal
of a route is only logged. -/
namespace AlzheimerVPN

open Text RefCount List

/-- Library functions of the network module whose code is not in the repository. -/
class QtNetwork where
  parseSubnet : String → HostAddress × ℤ
  fromBase64 : String → List UInt8

def base64Value (c : Char) : Option ℕ :=
  if c.isUpper then some (c.toNat-65)
  else if c.isLower then some (c.toNat-71)
  else if c.isDigit then some (c.toNat+4)
  else if c = '+' then some 62
  else if c = '/' then some 63
  else none

/-- The bytes of a base64 text, other characters passed over; `rest` holds the bits that
do not yet make up a byte. -/
def base64Bytes (rest bits : ℕ) : List Char → List UInt8
  | [] => []
  | c::cs =>
    match base64Value c with
    | none => base64Bytes rest bits cs
    | some v =>
      if bits < 2 then base64Bytes (rest*64+v) (bits+6) cs
      else UInt8.ofNat ((rest*64+v)/2^(bits-2))::base64Bytes ((rest*64+v)%2^(bits-2)) (bits-2) cs

/-- A library that knows dotted decimal addresses only, for runs on concrete inputs. -/
@[reducible] def dottedNetwork : QtNetwork where
  parseSubnet t :=
    match split t '/' with
    | [address,range] => (readDotted address,((decimal range.toList).map (↑·)).getD (-1))
    | _ => (.null,-1)
  fromBase64 t := base64Bytes 0 0 t.toList

namespace IPAddress

/-- The constructor from a text; without a slash the prefix is cut down to its widest. -/
def ofText [Qt] [QtNetwork] (ip : String) : IPAddress :=
  let p := if containsChar ip '/' then QtNetwork.parseSubnet ip else (Qt.hostAddress ip,999999)
  match p.1 with
  | .ipv4 _ => ⟨p.1,min p.2 32⟩
  | .ipv6 _ => ⟨p.1,min p.2 128⟩
  | .null => ⟨p.1,p.2⟩

/-- The constructor from an address, also of one that was not understood. -/
def ofAddress (address : HostAddress) : IPAddress :=
  ⟨address,if address.isIPv4 then 32 else 128⟩

end IPAddress

structure MacosRouteMonitor where
  exclusionRoutes : List IPAddress
  /-- Whether the default route of each family is known. -/
  defaultIpv4 : Bool
  defaultIpv6 : Bool

namespace MacosRouteMonitor

variable (m : MacosRouteMonitor) (p : IPAddress)

def knowsDefaultRoute : Bool :=
  match p.address with
  | .ipv4 _ => m.defaultIpv4
  | .ipv6 _ => m.defaultIpv6
  | .null => false

def append : MacosRouteMonitor := { m with exclusionRoutes := m.exclusionRoutes++[p] }

def removeAll : MacosRouteMonitor :=
  { m with exclusionRoutes := m.exclusionRoutes.filter fun q => q ≠ p }

/-- The kernel is told of the route if the default route is known. -/
def addExclusionRoute (kernelAccepts : Bool) : MacosRouteMonitor × Bool :=
  if p ∈ m.exclusionRoutes then (m,true)
  else if m.knowsDefaultRoute p && !kernelAccepts then ((m.append p).removeAll p,false)
  else (m.append p,true)

def deleteExclusionRoute : MacosRouteMonitor := m.removeAll p

lemma mem_addExclusionRoute (ok : Bool) (q : IPAddress) :
    q ∈ (m.addExclusionRoute p ok).1.exclusionRoutes ↔
      q ∈ m.exclusionRoutes ∨ q = p ∧ (m.addExclusionRoute p ok).2 := by
  simp only [addExclusionRoute]
  split_ifs with hp hk
  · constructor
    · exact Or.inl
    · rintro (h | ⟨rfl,-⟩)
      · exact h
      · exact hp
  · have hne : q ∈ m.exclusionRoutes → q ≠ p := fun hq he => hp (he ▸ hq)
    simp only [removeAll,append,filter_append,mem_append,mem_filter]
    simpa using hne
  · simp [append]

lemma addExclusionRoute_true : (m.addExclusionRoute p true).2 := by
  simp only [addExclusionRoute]
  split_ifs <;> simp_all

lemma mem_deleteExclusionRoute (q : IPAddress) :
    q ∈ (m.deleteExclusionRoute p).exclusionRoutes ↔ q ∈ m.exclusionRoutes ∧ q ≠ p := by
  simp [deleteExclusionRoute,removeAll]

end MacosRouteMonitor

/-- The routes around the tunnel as the daemon and its WireGuard tools keep them. -/
structure Routes where
  excludedAddrSet : IPAddress → ℕ
  tunnelRunning : Bool
  rtmonitor : Option MacosRouteMonitor
  /-- How many routes the kernel has been asked for. -/
  asked : ℕ

namespace Routes

section

variable (kernel : ℕ → Bool) (r : Routes) (p : IPAddress)

def exclusionRoutes : List IPAddress :=
  match r.rtmonitor with
  | some m => m.exclusionRoutes
  | none => []

/-- Whether the tunnel runs and whether there is a monitor; the routes change neither. -/
def tunnel : Bool × Bool := (r.tunnelRunning,r.rtmonitor.isSome)

/-- `WireguardUtilsMacos::addExclusionRoute` -/
def monitorAdd : Routes × Bool :=
  match r.rtmonitor with
  | none => (r,false)
  | some m =>
    ({ r with
        rtmonitor := some (m.addExclusionRoute p (kernel r.asked)).1
        asked := r.asked+1 },
      (m.addExclusionRoute p (kernel r.asked)).2)

/-- `WireguardUtilsMacos::deleteExclusionRoute` -/
def monitorDelete : Routes := { r with rtmonitor := r.rtmonitor.map fun m => m.deleteExclusionRoute p }

@[simp] lemma monitorAdd_excludedAddrSet :
    (r.monitorAdd kernel p).1.excludedAddrSet = r.excludedAddrSet := by
  simp only [monitorAdd]
  split <;> rfl
@[simp] lemma monitorAdd_tunnel : (r.monitorAdd kernel p).1.tunnel = r.tunnel := by
  cases h : r.rtmonitor <;> simp [monitorAdd,tunnel,h]
@[simp] lemma monitorDelete_tunnel : (r.monitorDelete p).tunnel = r.tunnel := by
  simp [monitorDelete,tunnel]

lemma monitorAdd_accepted (hk : ∀ n, kernel n) (hm : r.rtmonitor.isSome) :
    (r.monitorAdd kernel p).2 := by
  obtain ⟨m,hm⟩ := Option.isSome_iff_exists.mp hm
  simp [monitorAdd,hm,hk,MacosRouteMonitor.addExclusionRoute_true]

lemma mem_monitorAdd (q : IPAddress) : q ∈ (r.monitorAdd kernel p).1.exclusionRoutes ↔
      q ∈ r.exclusionRoutes ∨ q = p ∧ (r.monitorAdd kernel p).2 := by
  cases h : r.rtmonitor with
  | none => simp [monitorAdd,exclusionRoutes,h]
  | some m =>
    simpa [monitorAdd,exclusionRoutes,h] using m.mem_addExclusionRoute p (kernel r.asked) q

lemma mem_monitorDelete (q : IPAddress) :
    q ∈ (r.monitorDelete p).exclusionRoutes ↔ q ∈ r.exclusionRoutes ∧ q ≠ p := by
  cases h : r.rtmonitor with
  | none => simp [monitorDelete,exclusionRoutes,h]
  | some m => simpa [monitorDelete,exclusionRoutes,h] using m.mem_deleteExclusionRoute p q

end

/-- What no step changes is kept. -/
lemma foldl_frame {α : Type} (view : Routes → α) {f : Routes → IPAddress → Routes}
    (hf : ∀ r p, view (f r p) = view r) (ps : List IPAddress) (r : Routes) :
    view (ps.foldl f r) = view r :=
  List.foldlRecOn (motive := fun u => view u = view r) ps f rfl fun u hu p _ => (hf u p).trans hu

/-- Steps that each add their own route at most add no other. -/
lemma mem_of_mem_foldl {f : Routes → IPAddress → Routes}
    (hf : ∀ r p q, q ∈ (f r p).exclusionRoutes → q ∈ r.exclusionRoutes ∨ q = p) {r : Routes}
    {ps : List IPAddress} {q : IPAddress} (h : q ∈ (ps.foldl f r).exclusionRoutes) :
    q ∈ r.exclusionRoutes ∨ q ∈ ps := by
  induction ps generalizing r with
  | nil => exact Or.inl h
  | cons p ps ih =>
    rcases ih h with h | h
    · exact (hf r p q h).imp id fun he => by simp [he]
    · exact Or.inr (mem_cons_of_mem _ h)

section

variable (kernel : ℕ → Bool) (r : Routes) (p : IPAddress) (ps : List IPAddress)

/-- `Daemon::addExclusionRoute`: only the first holder of a prefix asks for the route. -/
def addExclusionRoute : Routes × Bool :=
  if 0 < r.excludedAddrSet p then
    ({ r with excludedAddrSet := raise r.excludedAddrSet p },true)
  else
    let added := r.monitorAdd kernel p
    if !added.2 then (added.1,false)
    else ({ added.1 with excludedAddrSet := Function.update added.1.excludedAddrSet p 1 },true)

/-- `Daemon::delExclusionRoute`; a prefix without a count is removed like one with one holder. -/
def delExclusionRoute : Routes :=
  if 1 < r.excludedAddrSet p then
    { r with excludedAddrSet := lower r.excludedAddrSet p }
  else
    { r with excludedAddrSet := Function.update r.excludedAddrSet p 0 }.monitorDelete p

/-- Only a prefix with a count is given up here. -/
def giveUp : Routes := if 0 < r.excludedAddrSet p then r.delExclusionRoute p else r

def addExclusionRoutes : Routes := ps.foldl (fun r p => (r.addExclusionRoute kernel p).1) r

def delExclusionRoutes : Routes := ps.foldl delExclusionRoute r

def giveUpRoutes : Routes := ps.foldl giveUp r

lemma addExclusionRoute_excludedAddrSet : (r.addExclusionRoute kernel p).1.excludedAddrSet =
      if (r.addExclusionRoute kernel p).2 then raise r.excludedAddrSet p
      else r.excludedAddrSet := by
  simp only [addExclusionRoute]
  by_cases hp : 0 < r.excludedAddrSet p
  · simp [hp]
  · have hz : r.excludedAddrSet p = 0 := by omega
    cases ha : (r.monitorAdd kernel p).2 <;> simp [hz,raise]

@[simp] lemma addExclusionRoute_tunnel : (r.addExclusionRoute kernel p).1.tunnel = r.tunnel := by
  have hadd := monitorAdd_tunnel kernel r p
  simp only [addExclusionRoute]
  split_ifs
  · rfl
  · exact hadd
  · exact hadd

lemma addExclusionRoute_accepted (hk : ∀ n, kernel n) (hm : r.rtmonitor.isSome) :
    (r.addExclusionRoute kernel p).2 := by
  simp only [addExclusionRoute]
  split_ifs with hp ha
  · rfl
  · exact absurd (monitorAdd_accepted kernel r p hk hm) (by simpa using ha)
  · rfl

variable {q : IPAddress}

lemma mem_addExclusionRoute_of_mem (h : q ∈ r.exclusionRoutes) :
    q ∈ (r.addExclusionRoute kernel p).1.exclusionRoutes := by
  have hadd := (mem_monitorAdd kernel r p q).mpr (Or.inl h)
  simp only [addExclusionRoute]
  split_ifs
  · exact h
  · exact hadd
  · exact hadd

lemma mem_of_mem_addExclusionRoute
    (h : q ∈ (r.addExclusionRoute kernel p).1.exclusionRoutes) : q ∈ r.exclusionRoutes ∨ q = p := by
  have hadd := fun hq => ((mem_monitorAdd kernel r p q).mp hq).imp id And.left
  simp only [addExclusionRoute] at h
  split_ifs at h
  · exact Or.inl h
  · exact hadd h
  · exact hadd h

lemma delExclusionRoute_excludedAddrSet :
    (r.delExclusionRoute p).excludedAddrSet = lower r.excludedAddrSet p := by
  simp only [delExclusionRoute]
  split_ifs with hp
  · rfl
  · have hz : r.excludedAddrSet p-1 = 0 := by omega
    simp [monitorDelete,lower,hz]

@[simp] lemma delExclusionRoute_tunnel : (r.delExclusionRoute p).tunnel = r.tunnel := by
  simp only [delExclusionRoute]
  split_ifs
  · rfl
  · exact monitorDelete_tunnel _ p

lemma mem_delExclusionRoute (q : IPAddress) : q ∈ (r.delExclusionRoute p).exclusionRoutes ↔
      q ∈ r.exclusionRoutes ∧ (q = p → 1 < r.excludedAddrSet p) := by
  simp only [delExclusionRoute]
  split_ifs with hp
  · simp [exclusionRoutes,hp]
  · rw [mem_monitorDelete]
    simp [exclusionRoutes,hp]

lemma giveUp_excludedAddrSet : (r.giveUp p).excludedAddrSet = lower r.excludedAddrSet p := by
  simp only [giveUp]
  split_ifs with hp
  · exact delExclusionRoute_excludedAddrSet r p
  · have hz : r.excludedAddrSet p = 0 := by omega
    simp [lower,hz]

@[simp] lemma giveUp_tunnel : (r.giveUp p).tunnel = r.tunnel := by
  simp only [giveUp]
  split_ifs <;> simp

lemma mem_giveUp_of_mem (h : q ∈ r.exclusionRoutes)
    (hp : q = p → r.excludedAddrSet p ≠ 1) : q ∈ (r.giveUp p).exclusionRoutes := by
  simp only [giveUp]
  split_ifs with h0
  · rw [mem_delExclusionRoute]
    refine ⟨h,fun he => ?_⟩
    have hne := hp he
    omega
  · exact h

@[simp] lemma addExclusionRoutes_tunnel : (r.addExclusionRoutes kernel ps).tunnel = r.tunnel :=
  foldl_frame tunnel (addExclusionRoute_tunnel kernel) ps r

lemma addExclusionRoutes_excludedAddrSet (hk : ∀ n, kernel n) (hm : r.rtmonitor.isSome) :
    (r.addExclusionRoutes kernel ps).excludedAddrSet = ps.foldl raise r.excludedAddrSet := by
  induction ps generalizing r with
  | nil => rfl
  | cons p ps ih =>
    have hstep : (r.addExclusionRoute kernel p).1.excludedAddrSet = raise r.excludedAddrSet p := by
      rw [addExclusionRoute_excludedAddrSet,addExclusionRoute_accepted kernel r p hk hm,if_pos rfl]
    rw [addExclusionRoutes,foldl_cons,foldl_cons,← hstep]
    exact ih _ ((congrArg Prod.snd (addExclusionRoute_tunnel kernel r p)).trans hm)

lemma mem_addExclusionRoutes_of_mem (h : q ∈ r.exclusionRoutes) :
    q ∈ (r.addExclusionRoutes kernel ps).exclusionRoutes :=
  List.foldlRecOn (motive := fun u : Routes => q ∈ u.exclusionRoutes) ps _ h
    fun u hu p _ => mem_addExclusionRoute_of_mem kernel u p hu

lemma mem_of_mem_addExclusionRoutes
    (h : q ∈ (r.addExclusionRoutes kernel ps).exclusionRoutes) : q ∈ r.exclusionRoutes ∨ q ∈ ps :=
  mem_of_mem_foldl (fun r p _ => mem_of_mem_addExclusionRoute kernel r p) h

lemma delExclusionRoutes_excludedAddrSet :
    (r.delExclusionRoutes ps).excludedAddrSet = ps.foldl lower r.excludedAddrSet :=
  (foldl_hom excludedAddrSet fun u p => (delExclusionRoute_excludedAddrSet u p).symm).symm

@[simp] lemma delExclusionRoutes_tunnel : (r.delExclusionRoutes ps).tunnel = r.tunnel :=
  foldl_frame tunnel delExclusionRoute_tunnel ps r

/-- A route survives as long as it has more holders than are released. -/
lemma mem_delExclusionRoutes (q : IPAddress) : q ∈ (r.delExclusionRoutes ps).exclusionRoutes ↔
      q ∈ r.exclusionRoutes ∧ (q ∈ ps → ps.count q < r.excludedAddrSet q) := by
  induction ps generalizing r with
  | nil => simp [delExclusionRoutes]
  | cons p ps ih =>
    have hi := ih (r.delExclusionRoute p)
    rw [mem_delExclusionRoute,delExclusionRoute_excludedAddrSet,lower_apply] at hi
    refine hi.trans ?_
    by_cases hq : q = p
    · subst hq
      by_cases hm : q ∈ ps
      · have hc : 0 < ps.count q := count_pos_iff.mpr hm
        simp only [hm,mem_cons,true_or,count_cons_self,count_nil,true_imp_iff]
        constructor
        · rintro ⟨⟨h,-⟩,h2⟩
          exact ⟨h,by omega⟩
        · rintro ⟨h,h1⟩
          exact ⟨⟨h,by omega⟩,by omega⟩
      · have hc : ps.count q = 0 := count_eq_zero.mpr hm
        simp [hm,hc]
    · have hp : p ≠ q := Ne.symm hq
      simp [hq,hp]

lemma giveUpRoutes_excludedAddrSet :
    (r.giveUpRoutes ps).excludedAddrSet = ps.foldl lower r.excludedAddrSet :=
  (foldl_hom excludedAddrSet fun u p => (giveUp_excludedAddrSet u p).symm).symm

@[simp] lemma giveUpRoutes_tunnel : (r.giveUpRoutes ps).tunnel = r.tunnel :=
  foldl_frame tunnel giveUp_tunnel ps r

lemma mem_giveUpRoutes_of_mem (h : q ∈ r.exclusionRoutes) (hq : q ∉ ps) :
    q ∈ (r.giveUpRoutes ps).exclusionRoutes :=
  List.foldlRecOn (motive := fun u => q ∈ u.exclusionRoutes) ps giveUp h fun u hu p hp =>
    mem_giveUp_of_mem u p hu fun he => absurd (he ▸ hp) hq

end

section

variable [Qt] [QtNetwork] (kernel : ℕ → Bool) (r : Routes) (config : InterfaceConfig)

/-- The addresses of the server, except for multihop exit servers. -/
def endpoints : List IPAddress :=
  if config.hopType = .multiHopExit then []
  else
    (if config.serverIpv4AddrIn.isEmpty then [] else [IPAddress.ofText config.serverIpv4AddrIn])++
      (if config.serverIpv6AddrIn.isEmpty then [] else [IPAddress.ofText config.serverIpv6AddrIn])

/-- `WireguardUtilsMacos::updatePeer`; whether a route was added makes no difference to it. -/
def updatePeer : Routes := (endpoints config).foldl (fun r p => (r.monitorAdd kernel p).1) r

/-- `WireguardUtilsMacos::deletePeer` -/
def deletePeer : Routes := (endpoints config).foldl monitorDelete r

variable (ps : List IPAddress)

omit [Qt] [QtNetwork] in
lemma mem_foldl_monitorAdd (hk : ∀ n, kernel n)
    (hm : r.rtmonitor.isSome) {q : IPAddress} (hq : q ∈ r.exclusionRoutes ∨ q ∈ ps) :
    q ∈ (ps.foldl (fun r p => (r.monitorAdd kernel p).1) r).exclusionRoutes := by
  induction ps generalizing r with
  | nil => exact hq.resolve_right (by simp)
  | cons p ps ih =>
    refine ih _ ((congrArg Prod.snd (monitorAdd_tunnel kernel r p)).trans hm) ?_
    rw [mem_monitorAdd,monitorAdd_accepted kernel r p hk hm]
    rcases hq with hq | hq
    · exact Or.inl (Or.inl hq)
    · exact (mem_cons.mp hq).imp (fun he => Or.inr ⟨he,rfl⟩) id

omit [Qt] [QtNetwork] in
lemma mem_of_mem_foldl_monitorAdd {q : IPAddress}
    (h : q ∈ (ps.foldl (fun r p => (r.monitorAdd kernel p).1) r).exclusionRoutes) :
    q ∈ r.exclusionRoutes ∨ q ∈ ps :=
  mem_of_mem_foldl (fun r p q hq => ((mem_monitorAdd kernel r p q).mp hq).imp id And.left) h

omit [Qt] [QtNetwork] in
lemma mem_foldl_monitorDelete (q : IPAddress) :
    q ∈ (ps.foldl monitorDelete r).exclusionRoutes ↔ q ∈ r.exclusionRoutes ∧ q ∉ ps := by
  induction ps generalizing r with
  | nil => simp
  | cons p ps ih =>
    rw [foldl_cons,ih,mem_monitorDelete,mem_cons,not_or,and_assoc]

@[simp] lemma updatePeer_excludedAddrSet :
    (r.updatePeer kernel config).excludedAddrSet = r.excludedAddrSet :=
  foldl_frame excludedAddrSet (monitorAdd_excludedAddrSet kernel) _ r
@[simp] lemma updatePeer_tunnel : (r.updatePeer kernel config).tunnel = r.tunnel :=
  foldl_frame tunnel (monitorAdd_tunnel kernel) _ r
@[simp] lemma deletePeer_excludedAddrSet :
    (r.deletePeer config).excludedAddrSet = r.excludedAddrSet :=
  foldl_frame excludedAddrSet (f := monitorDelete) (fun _ _ => rfl) _ r
@[simp] lemma deletePeer_tunnel : (r.deletePeer config).tunnel = r.tunnel :=
  foldl_frame tunnel monitorDelete_tunnel _ r
lemma mem_of_mem_updatePeer {q : IPAddress}
    (h : q ∈ (r.updatePeer kernel config).exclusionRoutes) :
    q ∈ r.exclusionRoutes ∨ q ∈ endpoints config :=
  mem_of_mem_foldl_monitorAdd kernel r (endpoints config) h
lemma mem_deletePeer (q : IPAddress) :
    q ∈ (r.deletePeer config).exclusionRoutes ↔ q ∈ r.exclusionRoutes ∧ q ∉ endpoints config :=
  mem_foldl_monitorDelete r (endpoints config) q

end

end Routes
end AlzheimerVPN
