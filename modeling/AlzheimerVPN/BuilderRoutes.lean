import AlzheimerVPN.ProtocolConfig

/-! What a build makes of the builder's routes: the order in which it reads them,
and the addresses that the built routes contain. -/
namespace AlzheimerVPN.Android

open Builder OpenVpn LinkedSet List

def isLoopback (a : Address) : Bool := ipv4Loopback.contains a || ipv6Loopback.contains a

/-- Whether the last of the routes that contain an address is an included one. -/
abbrev verdict (routes : List Route) (a : Address) : Bool :=
  Rules.verdict Route.contains Route.included routes a

def IncludesSome (routes : List Route) (a : Address) : Prop :=
  ∃ r ∈ routes, r.included ∧ r.contains a

def ExcludesSome (routes : List Route) (a : Address) : Prop :=
  ∃ r ∈ routes, r.included = false ∧ r.contains a

def ipv6DefaultRoute : Route := ⟨ipv6Default,true⟩

def ipv6GlobalRoute : Route := ⟨ipv6Global,true⟩

/-- `::/0` gives way to the global addresses at the front. -/
def withoutIpv6Default (routes : List Route) : List Route :=
  (if ipv6DefaultRoute ∈ routes then [ipv6GlobalRoute] else []) ++
    routes.filter fun r => r != ipv6DefaultRoute

/-- The routes of a build, from the routes in the order in which it reads them. -/
def finalRoutes (sdk : ℕ) (routes : List Route) : List Route :=
  (if sdk < 33 ∧ routes.any (fun r => !r.included) then
    ((routeRanges routes).subnets.map fun n => (⟨n,true⟩ : Route)).eraseDups
  else routes).filter fun r => !isLoopbackRoute r

namespace Builder

/-- The routes that split tunneling puts in front. -/
def front (b : Builder) : List Route :=
  if b.includedAddresses.toList ≠ [] then b.includedAddresses.toList.map fun n => ⟨n,true⟩
  else if b.excludedAddresses.toList ≠ [] then
    [⟨ipv4Default,true⟩,ipv6GlobalRoute]++b.excludedAddresses.toList.map fun n => ⟨n,false⟩
  else []

/-- Inclusive split tunneling removes the default routes. -/
def keepsRoute (b : Builder) (r : Route) : Bool :=
  decide (b.includedAddresses.toList = []) ||
    (r.inetNetwork != ipv4Default && r.inetNetwork != ipv6Default && r.inetNetwork != ipv6Global)

/-- The order in which the build reads the routes, each at its first place. -/
def order (b : Builder) : List Route :=
  (withoutIpv6Default (b.front++b.routes.toList.filter b.keepsRoute)).eraseDups

end Builder

section

variable (b : Builder)

lemma withoutIpv6Default_eq_self {routes : List Route} (h : ipv6DefaultRoute ∉ routes) :
    withoutIpv6Default routes = routes := by
  rw [withoutIpv6Default,if_neg h,nil_append]
  refine filter_eq_self.mpr fun r hr => ?_
  have hne : r ≠ ipv6DefaultRoute := fun heq => h (heq ▸ hr)
  simpa using hne

lemma toList_prependRoutes (block : Builder → Builder) : (b.prependRoutes block).routes.toList =
      ((block b.clearRoutes).routes.toList++b.routes.toList).eraseDups := by
  simp [prependRoutes,toList_addAll]

lemma processSplitTunneling_ok {b b' : Builder} (h : b.processSplitTunneling = .ok b') :
    b' = { b with routes := b'.routes } ∧
      b'.routes.toList = (b.front++b.routes.toList.filter b.keepsRoute).eraseDups := by
  unfold processSplitTunneling at h
  split at h
  case isTrue => cases h
  case isFalse =>
    split at h
    case isTrue hincluded =>
      cases h
      refine ⟨rfl,?_⟩
      rw [toList_prependRoutes]
      have hfilter : (((b.removeRoute ipv4Default).removeRoute ipv6Default).removeRoute
          ipv6Global).routes.toList = b.routes.toList.filter b.keepsRoute := by
        simp only [removeRoute,toList_removeIf,filter_filter]
        refine filter_congr fun r _ => ?_
        rw [keepsRoute,decide_eq_false hincluded,Bool.false_or]
        simp only [bne]
        ac_rfl
      rw [hfilter,front,if_pos hincluded]
      simp only [addRoutes,toList_addAll,clearRoutes,empty,nil_append]
      exact eraseDups_eraseDups_append _ _
    case isFalse hincluded =>
      have hkeeps : b.routes.toList.filter b.keepsRoute = b.routes.toList := by
        have hnone : b.includedAddresses.toList = [] := not_not.mp hincluded
        refine filter_eq_self.mpr fun r _ => ?_
        simp [keepsRoute,hnone]
      split at h
      case isTrue hexcluded =>
        cases h
        refine ⟨rfl,?_⟩
        rw [toList_prependRoutes,hkeeps,front,if_neg hincluded,if_pos hexcluded]
        simp only [excludeRoutes,addRoute,toList_addAll,
          toList_add,clearRoutes,empty,nil_append,
          eraseDups_eraseDups_append]
        rfl
      case isFalse hexcluded =>
        cases h
        refine ⟨rfl,?_⟩
        rw [hkeeps,front,if_neg hincluded,if_neg hexcluded,nil_append,
          eraseDups_of_nodup b.routes.nodup]

lemma replaceIpv6Default_eq :
    b.replaceIpv6Default = { b with routes := b.replaceIpv6Default.routes } ∧
      b.replaceIpv6Default.routes.toList = (withoutIpv6Default b.routes.toList).eraseDups := by
  have hsame : (fun r : Route => !(r.included && r.inetNetwork == ipv6Default)) =
      fun r => r != ipv6DefaultRoute := by
    funext r
    obtain ⟨n,included⟩ := r
    cases included <;> simp [ipv6DefaultRoute,bne,Bool.beq_eq_decide_eq]
  unfold replaceIpv6Default
  split
  case isTrue hmem =>
    have hdefault : ipv6DefaultRoute ∈ b.routes.toList := hmem
    refine ⟨rfl,?_⟩
    rw [toList_prependRoutes,withoutIpv6Default,if_pos hdefault]
    simp only [addRoute,toList_add,clearRoutes,empty,
      nil_append,toList_removeIf,hsame,eraseDups_eraseDups_append]
    rfl
  case isFalse hmem =>
    have hdefault : ipv6DefaultRoute ∉ b.routes.toList := hmem
    refine ⟨rfl,?_⟩
    rw [withoutIpv6Default_eq_self hdefault,eraseDups_of_nodup b.routes.nodup]

lemma withoutIpv6Default_eraseDups (routes : List Route) :
    (withoutIpv6Default routes.eraseDups).eraseDups = (withoutIpv6Default routes).eraseDups := by
  have htail : (routes.eraseDups.filter fun r => r != ipv6DefaultRoute).eraseDups =
      (routes.filter fun r => r != ipv6DefaultRoute).eraseDups := by
    rw [filter_eraseDups,filter_eraseDups,eraseDups_of_nodup (nodup_eraseDups routes)]
  unfold withoutIpv6Default
  simp only [mem_eraseDups]
  exact eraseDups_append_congr _ htail

/-- `::/0` is never read as an included route. -/
lemma ipv6Default_not_mem (routes : List Route) :
    ipv6DefaultRoute ∉ withoutIpv6Default routes := by
  unfold withoutIpv6Default
  have hne : ipv6DefaultRoute ≠ ipv6GlobalRoute := by decide
  split <;> simp [hne]

end

section

variable {b b' : Builder} {sdk : ℕ}

lemma processSplitTunneling_error {e : String} (h : b.processSplitTunneling = .error e) :
    b.includedAddresses.toList ≠ [] ∧ b.excludedAddresses.toList ≠ [] := by
  unfold processSplitTunneling at h
  split at h
  case isTrue hmixed => exact hmixed
  case isFalse =>
    split at h
    case isTrue => cases h
    case isFalse => split at h <;> cases h

lemma not_mixed_of_processSplitTunneling (h : b.processSplitTunneling = .ok b') :
    b.includedAddresses.toList = [] ∨ b.excludedAddresses.toList = [] := by
  unfold processSplitTunneling at h
  split at h
  case isTrue => cases h
  case isFalse hmixed => tauto

lemma toList_foldl_addRoute (l : List InetNetwork) (b : Builder) : l.foldl addRoute b =
      { b with routes := b.routes.addAll (l.map fun n => (⟨n,true⟩ : Route)) } := by
  rw [LinkedSet.addAll,foldl_map]
  exact @List.foldl_hom _ _ _ (fun routes => { b with routes }) _ addRoute l b.routes fun _ _ => rfl

/-- Without the routes of split tunneling, the rest of a build. -/
lemma processRoutes_eq (b : Builder) (sdk : ℕ) :
    b.processRoutes sdk = { b with routes := (b.processRoutes sdk).routes } ∧
      (b.processRoutes sdk).routes.toList =
        finalRoutes sdk (withoutIpv6Default b.routes.toList).eraseDups := by
  obtain ⟨hother,hroutes⟩ := replaceIpv6Default_eq b
  unfold processRoutes filterLoopback buildSubnets finalRoutes
  rw [← hroutes]
  split
  case isTrue =>
    rw [toList_foldl_addRoute,hother]
    refine ⟨rfl,?_⟩
    simp only [toList_removeIf,toList_addAll,clearRoutes,empty,nil_append]
  case isFalse =>
    rw [hother]
    exact ⟨rfl,rfl⟩

lemma validate_ok_iff (b : Builder) :
    b.validate = .ok () ↔ b.addresses.toList ≠ [] ∧ b.routes.toList ≠ [] ∧ b.mtu ≠ 0 := by
  unfold validate
  by_cases ha : b.addresses.toList = [] <;> by_cases hr : b.routes.toList = [] <;>
    by_cases hm : b.mtu = 0 <;> simp [ha,hr,hm]

/-- A build succeeds when the lists are not mixed and the checks pass; it changes
only the routes, to the final ones. -/
lemma configBuild_ok_iff : b.configBuild sdk = .ok b' ↔
      (b.includedAddresses.toList = [] ∨ b.excludedAddresses.toList = []) ∧
        b' = { b with routes := b'.routes } ∧ b'.routes.toList = finalRoutes sdk b.order ∧
        b.addresses.toList ≠ [] ∧ b'.routes.toList ≠ [] ∧ b.mtu ≠ 0 := by
  have hbind : b.configBuild sdk = (b.processSplitTunneling.bind fun b₁ =>
    (b₁.processRoutes sdk).validate.bind fun _ => .ok (b₁.processRoutes sdk)) := rfl
  cases hsplit : b.processSplitTunneling with
  | error e =>
    obtain ⟨hincluded,hexcluded⟩ := processSplitTunneling_error hsplit
    rw [hbind,hsplit]
    simp [Except.bind,hincluded,hexcluded]
  | ok b₁ =>
    obtain ⟨hother,hroutes⟩ := processSplitTunneling_ok hsplit
    obtain ⟨hother',hroutes'⟩ := processRoutes_eq b₁ sdk
    have hfinal : (b₁.processRoutes sdk).routes.toList = finalRoutes sdk b.order := by
      rw [hroutes',hroutes,withoutIpv6Default_eraseDups]
      rfl
    have hbuilt : b₁.processRoutes sdk = { b with routes := (b₁.processRoutes sdk).routes } := by
      rw [hother',hother]
    have hvalid : (b₁.processRoutes sdk).validate = .ok () ↔ b.addresses.toList ≠ [] ∧
        (b₁.processRoutes sdk).routes.toList ≠ [] ∧ b.mtu ≠ 0 := by
      rw [validate_ok_iff,hbuilt]
    have hresult : b.configBuild sdk = .ok b' ↔
        (b₁.processRoutes sdk).validate = .ok () ∧ b₁.processRoutes sdk = b' := by
      rw [hbind,hsplit]
      simp only [Except.bind]
      cases (b₁.processRoutes sdk).validate <;> simp
    rw [hresult,hvalid]
    constructor
    · rintro ⟨⟨ha,hr,hm⟩,rfl⟩
      exact ⟨not_mixed_of_processSplitTunneling hsplit,hbuilt,hfinal,ha,hr,hm⟩
    · rintro ⟨-,hb',hr',ha,hne,hm⟩
      have hsame : (b₁.processRoutes sdk).routes = b'.routes := LinkedSet.ext (hfinal.trans hr'.symm)
      refine ⟨⟨ha,by rw [hsame]; exact hne,hm⟩,?_⟩
      rw [hbuilt,hb',hsame]

end

section

variable {sdk : ℕ} {routes : List Route} {a : Address}

lemma contains_self (n : InetNetwork) : n.contains n.address := by
  obtain ⟨base,mask⟩ := n
  cases base <;> simp [InetNetwork.contains,AddressRange.contains]

lemma contains_ofAddress (a b : Address) : (InetNetwork.ofAddress b).contains a ↔ b = a := by
  cases a <;> cases b <;>
    simp [InetNetwork.ofAddress,InetNetwork.contains,AddressRange.contains,Address.maxMask]

/-- Folding the routes in order leaves the addresses whose last route includes
them. -/
lemma covers_foldl (routes : List Route) (a : Address) :
    (routes.foldl (fun s r => if r.included then s.add (IpRange.ofNetwork r.inetNetwork)
      else s.remove (IpRange.ofNetwork r.inetNetwork)) IpRangeSet.empty).Covers a ↔
      verdict routes a := by
  rw [IpRangeSet.covers_foldl a (fun r : Route => IpRange.ofNetwork r.inetNetwork) Route.included]
  have hcontains (r : Route) (a : Address) :
      decide ((IpRange.ofNetwork r.inetNetwork).Covers a) = r.contains a := by
    rw [Bool.eq_iff_iff,decide_eq_true_iff]
    exact (IpRange.contains_iff r.inetNetwork a).symm
  simp only [hcontains]

lemma covers_routeRanges (routes : List Route) (a : Address) :
    (routeRanges routes).Covers a ↔ verdict routes a ∧ isLoopback a = false := by
  rw [routeRanges,IpRangeSet.covers_remove,IpRangeSet.covers_remove,covers_foldl,
    ← IpRange.contains_iff,← IpRange.contains_iff,isLoopback,Bool.or_eq_false_iff,and_assoc,
    Bool.not_eq_true,Bool.not_eq_true]

/-- A route that is filtered as loopback is at a loopback address. -/
lemma isLoopback_of_isLoopbackRoute {r : Route} (h : isLoopbackRoute r) :
    isLoopback r.inetNetwork.address := by
  obtain ⟨⟨base,mask⟩,included⟩ := r
  cases base with
  | v4 x =>
    have hbyte : x >>> 24 = 127 := by
      simp only [isLoopbackRoute,Bool.and_eq_true,beq_iff_eq] at h
      exact h.2
    simp [isLoopback,ipv4Loopback,InetNetwork.contains,AddressRange.contains,hbyte]
  | v6 x =>
    have hnet : (⟨.v6 x,mask⟩ : InetNetwork) = ipv6Loopback := by
      simp only [isLoopbackRoute,Bool.and_eq_true,beq_iff_eq] at h
      exact h.2
    have hself := contains_self ipv6Loopback
    rw [← hnet] at hself
    simp only [isLoopback,← hnet,hself,Bool.or_true]

lemma isLoopback_v6_of_isLoopbackRoute {r : Route} {x : BitVec 128}
    (h : isLoopbackRoute r) (hx : r.contains (.v6 x)) : isLoopback (.v6 x) := by
  obtain ⟨⟨base,mask⟩,included⟩ := r
  cases base with
  | v4 y => simp [Route.contains,InetNetwork.contains] at hx
  | v6 y =>
    have hnet : (⟨.v6 y,mask⟩ : InetNetwork) = ipv6Loopback := by
      simp only [isLoopbackRoute,Bool.and_eq_true,beq_iff_eq] at h
      exact h.2
    rw [Route.contains,hnet] at hx
    rw [isLoopback,hx,Bool.or_true]

lemma mem_subnets_not_loopback {n : InetNetwork}
    (h : n ∈ (routeRanges routes).subnets) (hn : n.contains a) :
    verdict routes a ∧ isLoopback a = false :=
  (covers_routeRanges routes a).mp ((IpRangeSet.contains_subnets _ a).mp ⟨n,h,hn⟩)

/-- Before API 33, with an excluded route, the final routes are networks of
addresses that are included and not loopback. -/
lemma finalRoutes_of_excluded (hsdk : sdk < 33) (h : ∃ r ∈ routes, r.included = false) :
    finalRoutes sdk routes =
      ((routeRanges routes).subnets.map fun n => (⟨n,true⟩ : Route)).eraseDups := by
  have hany : (routes.any fun r => !r.included) := by simpa using h
  rw [finalRoutes,if_pos ⟨hsdk,hany⟩]
  refine filter_eq_self.mpr fun r hr => ?_
  obtain ⟨n,hn,rfl⟩ := mem_map.mp (mem_eraseDups.mp hr)
  have hclear := (mem_subnets_not_loopback hn (contains_self n)).2
  cases hloop : isLoopbackRoute ⟨n,true⟩ with
  | false => rfl
  | true =>
    rw [isLoopback_of_isLoopbackRoute hloop] at hclear
    exact absurd hclear (by simp)

lemma includesSome_of_excluded (hsdk : sdk < 33) (h : ∃ r ∈ routes, r.included = false) :
    IncludesSome (finalRoutes sdk routes) a ↔ verdict routes a ∧ isLoopback a = false := by
  rw [finalRoutes_of_excluded hsdk h,← covers_routeRanges,← IpRangeSet.contains_subnets]
  constructor
  · rintro ⟨r,hr,-,hra⟩
    obtain ⟨n,hn,rfl⟩ := mem_map.mp (mem_eraseDups.mp hr)
    exact ⟨n,hn,hra⟩
  · rintro ⟨n,hn,hna⟩
    exact ⟨⟨n,true⟩,mem_eraseDups.mpr (mem_map_of_mem hn),rfl,hna⟩

lemma nodup_finalRoutes (sdk : ℕ) (h : routes.Nodup) : (finalRoutes sdk routes).Nodup := by
  unfold finalRoutes
  split
  · exact (nodup_eraseDups _).filter _
  · exact h.filter _

lemma finalRoutes_of_included (h : ∀ r ∈ routes, r.included) :
    finalRoutes sdk routes = routes.filter fun r => !isLoopbackRoute r := by
  have hany : (routes.any fun r => !r.included) = false := by simpa using h
  rw [finalRoutes,hany,if_neg (by simp)]

lemma finalRoutes_of_api33 (hsdk : 33 ≤ sdk) :
    finalRoutes sdk routes = routes.filter fun r => !isLoopbackRoute r := by
  rw [finalRoutes,if_neg (by omega)]

end

section

/-- The routes that a session's callbacks add, in order. -/
def pushed (callbacks : List TunCallback) : List Route := callbacks.flatMap routesOf

variable (b : Builder)

lemma toList_onCallback (callback : TunCallback) :
    (onCallback b callback).routes.toList = (b.routes.toList++routesOf callback).eraseDups := by
  have hself : b.routes.toList = (b.routes.toList++[]).eraseDups := by
    rw [append_nil,eraseDups_of_nodup b.routes.nodup]
  cases callback with
  | new => exact hself
  | setMtu mtu => exact hself
  | addAddress address => exact hself
  | addRoute address len =>
    cases address with
    | none => exact hself
    | some address => exact toList_add _ _
  | excludeRoute address len => exact toList_add _ _
  | rerouteGw ipv4 ipv6 flags =>
    simp only [onCallback,routesOf]
    split
    case isTrue => exact hself
    case isFalse =>
      cases ipv4 <;> cases ipv6
      · exact hself
      · exact toList_add _ _
      · exact toList_add _ _
      · simp only [↓reduceIte,addRoute,toList_add,eraseDups_eraseDups_append,append_assoc]

/-- The callbacks leave the setting of split tunneling as it is. -/
lemma split_onCallback (callback : TunCallback) :
    (onCallback b callback).includedAddresses = b.includedAddresses ∧
      (onCallback b callback).excludedAddresses = b.excludedAddresses := by
  cases callback with
  | addRoute address len => cases address <;> exact ⟨rfl,rfl⟩
  | rerouteGw ipv4 ipv6 flags =>
    simp only [onCallback]
    split
    · exact ⟨rfl,rfl⟩
    · cases ipv4 <;> cases ipv6 <;> exact ⟨rfl,rfl⟩
  | _ => exact ⟨rfl,rfl⟩

lemma foldl_onCallback (callbacks : List TunCallback) :
    (callbacks.foldl onCallback b).routes.toList = (b.routes.toList++pushed callbacks).eraseDups ∧
      (callbacks.foldl onCallback b).includedAddresses = b.includedAddresses ∧
      (callbacks.foldl onCallback b).excludedAddresses = b.excludedAddresses := by
  induction callbacks generalizing b with
  | nil =>
    refine ⟨?_,rfl,rfl⟩
    simp only [pushed,flatMap_nil,append_nil]
    exact (eraseDups_of_nodup b.routes.nodup).symm
  | cons c cs ih =>
    obtain ⟨hroutes,hincluded,hexcluded⟩ := ih (onCallback b c)
    obtain ⟨hi,he⟩ := split_onCallback b c
    refine ⟨?_,hincluded.trans hi,hexcluded.trans he⟩
    rw [foldl_cons,hroutes,toList_onCallback,eraseDups_eraseDups_append,append_assoc]
    rfl

lemma session_routes (callbacks : List TunCallback) : (session b callbacks).routes.toList =
        (b.routes.toList++pushed callbacks).eraseDups ∧
      (session b callbacks).includedAddresses = b.includedAddresses ∧
      (session b callbacks).excludedAddresses = b.excludedAddresses :=
  foldl_onCallback (onCallback b .new) callbacks

lemma foldl_addAddress (addresses : List InetNetwork) : addresses.foldl addAddress b =
      { b with addresses := b.addresses.addAll addresses } :=
  @List.foldl_hom _ _ _ (fun addresses => { b with addresses }) _ addAddress _ _ fun _ _ => rfl

lemma foldl_includeAddress (sites : List InetNetwork) : sites.foldl includeAddress b =
      { b with includedAddresses := b.includedAddresses.addAll sites } :=
  @List.foldl_hom _ _ _ (fun includedAddresses => { b with includedAddresses }) _
    includeAddress _ _ fun _ _ => rfl

lemma foldl_excludeAddress (sites : List InetNetwork) : sites.foldl excludeAddress b =
      { b with excludedAddresses := b.excludedAddresses.addAll sites } :=
  @List.foldl_hom _ _ _ (fun excludedAddresses => { b with excludedAddresses }) _
    excludeAddress _ _ fun _ _ => rfl

end

end AlzheimerVPN.Android
