import AlzheimerVPN.BuilderRoutes

/-! What the routes of an OpenVPN, WireGuard or Xray start leave out before API 33.
The excluded networks are cut out in the order in which the routes were added, so
that a route added later puts back what an earlier one excluded. -/
namespace AlzheimerVPN.Android

open Address Builder LinkedSet List

/-- The addresses that a tunnel is to carry: IPv4 and global IPv6. -/
def Routed (a : Address) : Prop := a.isV6 = false ∨ ipv6Global.contains a

def Reinstated (routes : List Route) (a : Address) : Prop :=
  Rules.Reinstated Route.contains Route.included routes a

section

variable {b : Builder} {sdk : ℕ} {a : Address}

lemma mem_order (b : Builder) (r : Route) :
    r ∈ b.order ↔ (ipv6DefaultRoute ∈ b.front++b.routes.toList.filter b.keepsRoute ∧
        r = ipv6GlobalRoute) ∨
      (r ∈ b.front++b.routes.toList.filter b.keepsRoute ∧ r ≠ ipv6DefaultRoute) := by
  rw [order,mem_eraseDups,withoutIpv6Default,mem_append,mem_filter,bne_iff_ne]
  split
  case isTrue h => simp [h]
  case isFalse h => simp [h]

lemma excludesSome_order :
    ExcludesSome b.order a ↔ ExcludesSome (b.front++b.routes.toList.filter b.keepsRoute) a := by
  constructor
  · rintro ⟨r,hr,hexcluded,hra⟩
    rcases (mem_order b r).mp hr with ⟨-,rfl⟩ | ⟨hmem,-⟩
    · simp [ipv6GlobalRoute] at hexcluded
    · exact ⟨r,hmem,hexcluded,hra⟩
  · rintro ⟨r,hmem,hexcluded,hra⟩
    refine ⟨r,(mem_order b r).mpr (Or.inr ⟨hmem,?_⟩),hexcluded,hra⟩
    rintro rfl
    simp [ipv6DefaultRoute] at hexcluded

/-- `::/0` gives way to the global addresses, which are all that count. -/
lemma includesSome_order (hrouted : Routed a)
    (h : IncludesSome (b.front++b.routes.toList.filter b.keepsRoute) a) :
    IncludesSome b.order a := by
  obtain ⟨r,hmem,hincluded,hra⟩ := h
  by_cases hdefault : r = ipv6DefaultRoute
  · refine ⟨ipv6GlobalRoute,(mem_order b _).mpr (Or.inl ⟨hdefault ▸ hmem,rfl⟩),rfl,?_⟩
    rcases hrouted with hv4 | hglobal
    · -- no IPv4 address is in `::/0`
      cases a with
      | v4 x => simp [hdefault,ipv6DefaultRoute,Route.contains,ipv6Default,
          InetNetwork.contains] at hra
      | v6 x => simp [isV6] at hv4
    · exact hglobal
  · exact ⟨r,(mem_order b r).mpr (Or.inr ⟨hmem,hdefault⟩),hincluded,hra⟩

/-- An address is left out when it is loopback, or excluded and not put back. -/
lemma outside_iff (hsdk : sdk < 33) (hexcluded : ∃ r ∈ b.order, r.included = false)
    (hincluded : IncludesSome b.order a) :
    ¬IncludesSome (finalRoutes sdk b.order) a ↔
      isLoopback a ∨ (ExcludesSome b.order a ∧ ¬Reinstated b.order a) := by
  rw [includesSome_of_excluded hsdk hexcluded]
  cases hloop : isLoopback a with
  | true => simp
  | false =>
    by_cases hdropped : ExcludesSome b.order a
    · have hverdict : verdict b.order a ↔ Reinstated b.order a :=
        Rules.verdict_eq_true_iff_reinstated hdropped
      simp [hverdict,hdropped]
    · have hnone : ∀ r ∈ b.order, r.included = false → r.contains a = false := by
        intro r hr hex
        by_contra hra
        exact hdropped ⟨r,hr,hex,by simpa using hra⟩
      have hverdict : verdict b.order a := (Rules.verdict_keeps_of_none_dropped hnone).mpr hincluded
      simp [hverdict,hdropped]

/-- Nothing is put back when the included routes come first. -/
lemma not_reinstated_of_split {l m : List Route} (hl : ∀ r ∈ l, r.included)
    (hm : ∀ r ∈ m, r.included = false) (h : b.order = (l++m).eraseDups) :
    ¬Reinstated b.order a := by
  rw [h,eraseDups_append_filter]
  refine Rules.not_reinstated_append (fun r hr => hl r (mem_eraseDups.mp hr)) fun r hr => ?_
  exact hm r (mem_eraseDups.mp (mem_filter.mp hr).1)

end

/-- A start of one of the protocols, with what it reads from the configuration
and, for OpenVPN, the callbacks of the core. -/
inductive Start
  | openVpn (remote : Address) (callbacks : List TunCallback)
  | wireguard (clientIps allowedIps : List InetNetwork) (mtu : Option ℕ)
  | xray (host : Address) (mtu : Option ℕ)

/-- No split tunneling, or exclusive split tunneling with the listed networks. -/
def splitOf : Option (List InetNetwork) → SplitTunneling
  | none => .disabled
  | some sites => .excluded sites

namespace Start

def builder (listed : Option (List InetNetwork)) : Start → Builder
  | .openVpn remote callbacks =>
    OpenVpn.session (OpenVpn.startVpn remote (splitOf listed)) callbacks
  | .wireguard clientIps allowedIps mtu =>
    Wireguard.parseConfig clientIps allowedIps mtu (splitOf listed)
  | .xray host mtu => Xray.parseConfig host mtu (splitOf listed)

/-- The listed networks that count: none for a WireGuard configuration with other
allowed networks than the default routes. -/
def sites (listed : Option (List InetNetwork)) : Start → List InetNetwork
  | .wireguard _ allowedIps _ =>
    if allowedIps.any (fun n => n != ipv4Default && n != ipv6Default) then [] else listed.getD []
  | _ => listed.getD []

/-- The routes that the protocol adds, in order. -/
def added : Start → List Route
  | .openVpn remote callbacks => ⟨InetNetwork.ofAddress remote,false⟩::pushed callbacks
  | .wireguard _ allowedIps _ => allowedIps.map fun n => ⟨n,true⟩
  | .xray host _ => [⟨ipv4Default,true⟩,ipv6GlobalRoute,⟨⟨host,32⟩,false⟩]

def RoutesEverything : Start → Prop
  | .openVpn _ callbacks => ∀ a, Routed a → IncludesSome (pushed callbacks) a
  | .wireguard _ allowedIps _ => ipv4Default ∈ allowedIps ∧ ipv6Default ∈ allowedIps
  | .xray _ _ => True

/-- What the protocol excludes: the server's address where it does so, and the
pushed excluded routes. -/
def ProtocolExcludes : Start → Address → Prop
  | .openVpn remote callbacks,a => a = remote ∨ ExcludesSome (pushed callbacks) a
  | .wireguard _ _ _,_ => False
  | .xray host _,a => a = host

/-- The addresses that the routes are to leave out. -/
def ToBeExcluded (start : Start) (listed : Option (List InetNetwork)) (a : Address) : Prop :=
  isLoopback a ∨ (∃ n ∈ start.sites listed, n.contains a) ∨ start.ProtocolExcludes a

/-- OpenVPN: no address is included again after it was excluded. WireGuard: some
network is listed. Xray: what is excluded with the server is to be excluded. -/
def ExcludesInOrder (start : Start) (listed : Option (List InetNetwork)) : Prop :=
  match start with
  | .openVpn _ _ =>
    ∀ a, Routed a → isLoopback a = false → ¬Reinstated (start.builder listed).order a
  | .wireguard _ _ _ => start.sites listed ≠ []
  | .xray host _ =>
    ∀ a, Routed a → (⟨host,32⟩ : InetNetwork).contains a → start.ToBeExcluded listed a

end Start

section

variable (start : Start) (listed : Option (List InetNetwork)) {a : Address}

lemma configSplitTunneling_splitOf (b : Builder) (listed : Option (List InetNetwork)) :
    b.configSplitTunneling (splitOf listed) =
      { b with excludedAddresses := b.excludedAddresses.addAll
                (if b.allowSplitTunneling then listed.getD [] else []) } := by
  unfold configSplitTunneling
  split
  case isTrue =>
    cases listed with
    | none => rfl
    | some sites => exact foldl_excludeAddress b sites
  case isFalse => rfl

/-- The builder of a start before the build. -/
lemma builder_routes : (start.builder listed).includedAddresses.toList = [] ∧
      (start.builder listed).excludedAddresses.toList = (start.sites listed).eraseDups ∧
      (start.builder listed).routes.toList = start.added.eraseDups := by
  cases start with
  | openVpn remote callbacks =>
    obtain ⟨hroutes,hincluded,hexcluded⟩ :=
      session_routes (OpenVpn.startVpn remote (splitOf listed)) callbacks
    have hstart : OpenVpn.startVpn remote (splitOf listed) =
        { (new 1500).excludeRoute (InetNetwork.ofAddress remote) with
          excludedAddresses := empty.addAll (listed.getD []) } :=
      configSplitTunneling_splitOf _ listed
    refine ⟨?_,?_,?_⟩
    · rw [Start.builder,hincluded,hstart]
      rfl
    · rw [Start.builder,hexcluded,hstart]
      exact toList_addAll _ _
    · rw [Start.builder,hroutes,hstart]
      rfl
  | wireguard clientIps allowedIps mtu =>
    have hnew : clientIps.foldl addAddress (new 1280) =
        { new 1280 with addresses := empty.addAll clientIps } :=
      foldl_addAddress _ clientIps
    simp only [Start.builder,Wireguard.parseConfig,Start.sites,Start.added,hnew]
    rw [configSplitTunneling_splitOf]
    cases mtu <;> split <;> exact ⟨rfl,toList_addAll _ _,toList_addAll _ _⟩
  | xray host mtu =>
    simp only [Start.builder,Xray.parseConfig]
    rw [configSplitTunneling_splitOf]
    have hroutes : (((((new 1500).addAddress Xray.defaultIpv4Address).addRoute
        ipv4Default).addRoute ipv6Global).excludeRoute ⟨host,32⟩).routes.toList =
        (Start.xray host mtu).added.eraseDups := by
      simp only [addRoute,excludeRoute,toList_add,eraseDups_eraseDups_append]
      rfl
    cases mtu with
    | none => exact ⟨rfl,toList_addAll _ _,hroutes⟩
    | some mtu => exact ⟨rfl,toList_addAll _ _,hroutes⟩

lemma filter_keepsRoute :
    (start.builder listed).routes.toList.filter (start.builder listed).keepsRoute =
      start.added.eraseDups := by
  obtain ⟨hincluded,-,hroutes⟩ := builder_routes start listed
  rw [hroutes]
  refine filter_eq_self.mpr fun r _ => ?_
  simp [keepsRoute,hincluded]

/-- The routes that exclusive split tunneling includes. -/
def defaults : List Route := [⟨ipv4Default,true⟩,ipv6GlobalRoute]

lemma front_eq : (start.builder listed).front = if start.sites listed = [] then [] else
      defaults++(start.sites listed).eraseDups.map fun n => ⟨n,false⟩ := by
  obtain ⟨hincluded,hexcluded,-⟩ := builder_routes start listed
  have hempty : (start.sites listed).eraseDups = [] ↔ start.sites listed = [] := by
    simp only [eq_nil_iff_forall_not_mem,mem_eraseDups]
  rw [front,hincluded,hexcluded,if_neg (by simp)]
  by_cases hsites : start.sites listed = []
  · rw [if_neg (by simpa [hempty] using hsites),if_pos hsites]
  · rw [if_pos (by simpa [hempty] using hsites),if_neg hsites]
    rfl

lemma excludesSome_iff : ExcludesSome (start.builder listed).order a ↔
      (∃ n ∈ start.sites listed, n.contains a) ∨ ExcludesSome start.added a := by
  rw [excludesSome_order,filter_keepsRoute,front_eq]
  constructor
  · rintro ⟨r,hr,hexcluded,hra⟩
    rcases mem_append.mp hr with hfront | hadded
    · split at hfront
      case isTrue => cases hfront
      case isFalse =>
        rcases mem_append.mp hfront with hdefault | hlisted
        · simp only [defaults,mem_cons,not_mem_nil,or_false] at hdefault
          rcases hdefault with rfl | rfl <;> simp [ipv6GlobalRoute] at hexcluded
        · obtain ⟨n,hn,rfl⟩ := mem_map.mp hlisted
          exact Or.inl ⟨n,mem_eraseDups.mp hn,hra⟩
    · exact Or.inr ⟨r,mem_eraseDups.mp hadded,hexcluded,hra⟩
  · rintro (⟨n,hn,hna⟩ | ⟨r,hr,hexcluded,hra⟩)
    · have hne : start.sites listed ≠ [] := ne_nil_of_mem hn
      refine ⟨⟨n,false⟩,?_,rfl,hna⟩
      rw [if_neg hne]
      simp [hn]
    · exact ⟨r,by simp [hr],hexcluded,hra⟩

lemma includesSome_builder (hrouted : Routed a) (h : IncludesSome start.added a) :
    IncludesSome (start.builder listed).order a := by
  obtain ⟨r,hr,hincluded,hra⟩ := h
  refine includesSome_order hrouted ⟨r,?_,hincluded,hra⟩
  rw [filter_keepsRoute]
  simp [hr]

/-- What a start leaves out, when it excludes anything. -/
lemma start_outside_iff {sdk : ℕ} (hsdk : sdk < 33)
    (hexcluded : ∃ r ∈ (start.builder listed).order, r.included = false) (hrouted : Routed a)
    (hall : IncludesSome start.added a) :
    ¬IncludesSome (finalRoutes sdk (start.builder listed).order) a ↔
      isLoopback a ∨ (((∃ n ∈ start.sites listed, n.contains a) ∨
        ExcludesSome start.added a) ∧ ¬Reinstated (start.builder listed).order a) := by
  rw [outside_iff hsdk hexcluded (includesSome_builder start listed hrouted hall),excludesSome_iff]

end

section

variable {listed : Option (List InetNetwork)} {sdk : ℕ} {a : Address}

/-- The order of a start whose own included routes are default routes: the
included routes, then the excluded ones. -/
lemma not_reinstated_of_defaults {start : Start} (own excluded : List Route)
    (hadded : start.added = own++excluded)
    (hown : ∀ r ∈ own, r ∈ ipv6DefaultRoute::defaults)
    (hexcluded : ∀ r ∈ excluded, r.included = false) (hsites : start.sites listed ≠ []) :
    ¬Reinstated (start.builder listed).order a := by
  have hdefaults : ∀ r ∈ defaults, r.included ∧ r ≠ ipv6DefaultRoute := by decide
  have hdrop : ∀ r : Route, r.included = false → r ≠ ipv6DefaultRoute := by
    rintro r hr rfl
    simp [ipv6DefaultRoute] at hr
  have hself : ∀ l : List Route, (∀ r ∈ l, r ≠ ipv6DefaultRoute) →
      (l.filter fun r => r != ipv6DefaultRoute) = l :=
    fun l hl => filter_eq_self.mpr fun r hr => by simpa using hl r hr
  let lead : List Route := if ipv6DefaultRoute ∈ (start.builder listed).front ++
    start.added.eraseDups then [ipv6GlobalRoute] else []
  let sites : List Route := (start.sites listed).eraseDups.map fun n => ⟨n,false⟩
  have hsitesDrop : ∀ r ∈ sites, r.included = false := by
    intro r hr
    obtain ⟨n,-,rfl⟩ := mem_map.mp hr
    rfl
  have hleadKeep : ∀ r ∈ lead, r.included := by
    intro r hr
    simp only [lead] at hr
    split at hr
    · rw [mem_singleton.mp hr]
      rfl
    · cases hr
  have horder : (start.builder listed).order =
      ((lead++defaults++sites)++(own.filter fun r => r != ipv6DefaultRoute) ++
        excluded).eraseDups := by
    rw [order,filter_keepsRoute,withoutIpv6Default]
    have htail : (List.filter (fun r => r != ipv6DefaultRoute) start.added.eraseDups).eraseDups =
        ((own.filter fun r => r != ipv6DefaultRoute)++excluded).eraseDups := by
      rw [← filter_eraseDups,eraseDups_of_nodup (nodup_eraseDups _),hadded,filter_append,
        hself excluded fun r hr => hdrop r (hexcluded r hr)]
    have hfront : List.filter (fun r => r != ipv6DefaultRoute) (start.builder listed).front =
        defaults++sites := by
      rw [front_eq,if_neg hsites,filter_append,hself defaults fun r hr => (hdefaults r hr).2,
        hself _ fun r hr => hdrop r (hsitesDrop r hr)]
    rw [filter_append,hfront,← append_assoc,eraseDups_append_congr _ htail]
    simp only [append_assoc,lead]
  have hcut : (start.builder listed).order = ((lead++defaults)++(sites++excluded)).eraseDups := by
    rw [horder,eraseDups_append_append_of_subset,append_assoc]
    intro r hr
    obtain ⟨hmem,hne⟩ := mem_filter.mp hr
    rcases mem_cons.mp (hown r hmem) with rfl | hin
    · simp at hne
    · simp [hin]
  refine not_reinstated_of_split ?_ ?_ hcut
  · intro r hr
    rcases mem_append.mp hr with hin | hin
    · exact hleadKeep r hin
    · exact (hdefaults r hin).1
  · intro r hr
    rcases mem_append.mp hr with hin | hin
    · exact hsitesDrop r hin
    · exact hexcluded r hin

lemma contains_ipv4Default (x : BitVec 32) : ipv4Default.contains (.v4 x) := by
  simp [ipv4Default,InetNetwork.contains,AddressRange.contains,BitVec.ushiftRight_eq_zero]

lemma contains_ipv6Default (x : BitVec 128) : ipv6Default.contains (.v6 x) := by
  simp [ipv6Default,InetNetwork.contains,AddressRange.contains,BitVec.ushiftRight_eq_zero]

lemma exists_excluded (listed : Option (List InetNetwork)) {start : Start} (h : (start.sites listed ≠ []) ∨
    ∃ a, ExcludesSome start.added a) : ∃ r ∈ (start.builder listed).order, r.included = false := by
  have hsome : ∃ a, ExcludesSome (start.builder listed).order a := by
    rcases h with hsites | ⟨a,ha⟩
    · obtain ⟨n,hn⟩ := exists_mem_of_ne_nil _ hsites
      exact ⟨n.address,(excludesSome_iff start listed).mpr (Or.inl ⟨n,hn,contains_self n⟩)⟩
    · exact ⟨a,(excludesSome_iff start listed).mpr (Or.inr ha)⟩
  obtain ⟨a,r,hr,hdrop,-⟩ := hsome
  exact ⟨r,hr,hdrop⟩

/-- OpenVPN excludes the server's address and then adds what the core pushes. -/
lemma openVpn_outside_iff {remote : Address} {callbacks : List TunCallback} (hsdk : sdk < 33)
    (hall : (Start.openVpn remote callbacks).RoutesEverything) :
    (∀ a, Routed a → (¬IncludesSome (finalRoutes sdk
        ((Start.openVpn remote callbacks).builder listed).order) a ↔
        (Start.openVpn remote callbacks).ToBeExcluded listed a)) ↔
      (Start.openVpn remote callbacks).ExcludesInOrder listed := by
  have hremote : ∀ a, ExcludesSome (Start.openVpn remote callbacks).added a ↔
      (Start.openVpn remote callbacks).ProtocolExcludes a := by
    intro a
    simp only [ExcludesSome,Start.added,mem_cons,exists_eq_or_imp,Route.contains,
      contains_ofAddress,true_and,Start.ProtocolExcludes]
    rw [eq_comm]
  have hexcluded := exists_excluded listed (Or.inr ⟨remote,(hremote remote).mpr (Or.inl rfl)⟩)
  have houtside : ∀ a, Routed a → _ := fun a ha =>
    start_outside_iff (Start.openVpn remote callbacks) listed hsdk hexcluded ha (by
      obtain ⟨r,hr,hincluded,hra⟩ := hall a ha
      exact ⟨r,mem_cons_of_mem _ hr,hincluded,hra⟩)
  constructor
  · intro hexact a ha hclear hagain
    have hdropped : ExcludesSome ((Start.openVpn remote callbacks).builder listed).order a := by
      obtain ⟨before,r,after,hsplit,-,-,⟨e,he,hdrop,hea⟩,-⟩ := hagain
      exact ⟨e,by simp [hsplit,he],hdrop,hea⟩
    have hto : (Start.openVpn remote callbacks).ToBeExcluded listed a := by
      rw [excludesSome_iff,hremote] at hdropped
      exact Or.inr hdropped
    rcases (houtside a ha).mp ((hexact a ha).mpr hto) with hloop | ⟨-,hnot⟩
    · rw [hclear] at hloop
      exact absurd hloop (by simp)
    · exact hnot hagain
  · intro hkept a ha
    have hnot := hkept a ha
    rw [houtside a ha,hremote,Start.ToBeExcluded]
    cases hclear : isLoopback a with
    | true => simp
    | false => simp [hnot hclear]

/-- WireGuard excludes nothing of its own; without a list its default route keeps
the loopback addresses. -/
lemma wireguard_outside_iff {clientIps allowedIps : List InetNetwork} {mtu : Option ℕ}
    (hsdk : sdk < 33) (hall : (Start.wireguard clientIps allowedIps mtu).RoutesEverything) :
    (∀ a, Routed a → (¬IncludesSome (finalRoutes sdk
        ((Start.wireguard clientIps allowedIps mtu).builder listed).order) a ↔
        (Start.wireguard clientIps allowedIps mtu).ToBeExcluded listed a)) ↔
      (Start.wireguard clientIps allowedIps mtu).ExcludesInOrder listed := by
  obtain ⟨hipv4,hipv6⟩ := hall
  have hkeep : ∀ {n : InetNetwork}, n ∈ allowedIps →
      (⟨n,true⟩ : Route) ∈ (Start.wireguard clientIps allowedIps mtu).added :=
    fun hn => mem_map_of_mem hn
  constructor
  · intro hexact hsites
    have hincluded : ∀ r ∈ ((Start.wireguard clientIps allowedIps mtu).builder listed).order,
        r.included := by
      intro r hr
      rcases (mem_order _ r).mp hr with ⟨-,rfl⟩ | ⟨hmem,-⟩
      · rfl
      · rw [filter_keepsRoute,front_eq,if_pos hsites,nil_append,mem_eraseDups] at hmem
        obtain ⟨n,-,rfl⟩ := mem_map.mp hmem
        rfl
    refine (hexact (.v4 (127 <<< 24)) (Or.inl rfl)).mpr (Or.inl (by decide)) ?_
    rw [finalRoutes_of_included hincluded]
    refine ⟨⟨ipv4Default,true⟩,mem_filter.mpr ⟨?_,by decide⟩,rfl,contains_ipv4Default _⟩
    refine (mem_order _ _).mpr (Or.inr ⟨?_,by decide⟩)
    rw [filter_keepsRoute]
    simp [hkeep hipv4]
  · intro hsites a ha
    have hdefault : ∀ n ∈ allowedIps, n = ipv4Default ∨ n = ipv6Default := by
      by_contra hother
      refine hsites ?_
      rw [Start.sites,if_pos]
      simpa using hother
    have hnone : ¬ExcludesSome (Start.wireguard clientIps allowedIps mtu).added a := by
      rintro ⟨r,hr,hdrop,-⟩
      obtain ⟨n,-,rfl⟩ := mem_map.mp hr
      simp at hdrop
    have hnot : ¬Reinstated
        ((Start.wireguard clientIps allowedIps mtu).builder listed).order a := by
      refine not_reinstated_of_defaults _ [] (append_nil _).symm ?_ (by simp) hsites
      intro r hr
      obtain ⟨n,hn,rfl⟩ := mem_map.mp hr
      rcases hdefault n hn with rfl | rfl
      · simp [defaults]
      · simp [ipv6DefaultRoute]
    have hadded : IncludesSome (Start.wireguard clientIps allowedIps mtu).added a := by
      cases a with
      | v4 x => exact ⟨_,hkeep hipv4,rfl,contains_ipv4Default x⟩
      | v6 x => exact ⟨_,hkeep hipv6,rfl,contains_ipv6Default x⟩
    rw [start_outside_iff _ listed hsdk (exists_excluded listed (Or.inl hsites)) ha hadded]
    simp [Start.ToBeExcluded,Start.ProtocolExcludes,hnot,hnone]

/-- Xray adds the default routes before it excludes the server's network. -/
lemma xray_outside_iff {host : Address} {mtu : Option ℕ} (hsdk : sdk < 33) :
    (∀ a, Routed a → (¬IncludesSome (finalRoutes sdk
        ((Start.xray host mtu).builder listed).order) a ↔
        (Start.xray host mtu).ToBeExcluded listed a)) ↔
      (Start.xray host mtu).ExcludesInOrder listed := by
  have hserver : ∀ a, ExcludesSome (Start.xray host mtu).added a ↔
      (⟨host,32⟩ : InetNetwork).contains a := by
    intro a
    simp [ExcludesSome,Start.added,Route.contains,ipv6GlobalRoute]
  have hexcluded := exists_excluded listed (Or.inr ⟨host,(hserver host).mpr (contains_self _)⟩)
  have hnot : ∀ a, ¬Reinstated ((Start.xray host mtu).builder listed).order a := by
    intro a
    by_cases hsites : (Start.xray host mtu).sites listed = []
    · refine not_reinstated_of_split (l := defaults) (m := [⟨⟨host,32⟩,false⟩])
        (by decide) (by simp) ?_
      rw [order,filter_keepsRoute,front_eq,if_pos hsites,nil_append,
        withoutIpv6Default_eraseDups,withoutIpv6Default_eq_self]
      · rfl
      · have hne : ipv6DefaultRoute ≠ ⟨ipv4Default,true⟩ ∧ ipv6DefaultRoute ≠ ipv6GlobalRoute := by
          decide
        have hserverRoute : ipv6DefaultRoute ≠ ⟨⟨host,32⟩,false⟩ := by simp [ipv6DefaultRoute]
        simp [Start.added,hne.1,hne.2,hserverRoute]
    · exact not_reinstated_of_defaults defaults [⟨⟨host,32⟩,false⟩] rfl
        (fun r hr => mem_cons_of_mem _ hr) (by simp) hsites
  have houtside : ∀ a, Routed a → _ := fun a ha =>
    start_outside_iff (Start.xray host mtu) listed hsdk hexcluded ha (by
      cases a with
      | v4 x => exact ⟨⟨ipv4Default,true⟩,by simp [Start.added],rfl,contains_ipv4Default x⟩
      | v6 x =>
        rcases ha with hv4 | hglobal
        · simp [isV6] at hv4
        · exact ⟨ipv6GlobalRoute,by simp [Start.added],rfl,hglobal⟩)
  constructor
  · intro hexact a ha hin
    refine (hexact a ha).mp ((houtside a ha).mpr (Or.inr ⟨Or.inr ((hserver a).mpr hin),hnot a⟩))
  · intro hkept a ha
    rw [houtside a ha,hserver]
    constructor
    · rintro (hloop | ⟨hlisted | hin,-⟩)
      · exact Or.inl hloop
      · exact Or.inr (Or.inl hlisted)
      · exact hkept a ha hin
    · rintro (hloop | hlisted | rfl)
      · exact Or.inl hloop
      · exact Or.inr ⟨Or.inl hlisted,hnot a⟩
      · exact Or.inr ⟨Or.inr (contains_self _),hnot _⟩

end

/-- Before API 33 a start that routes everything leaves out exactly what it is to
exclude if and only if it excludes in order. -/
theorem routes_exclude_exactly_iff (start : Start) (listed : Option (List InetNetwork)) {sdk : ℕ}
    {built : Builder} (hsdk : sdk < 33) (hall : start.RoutesEverything)
    (hbuild : (start.builder listed).configBuild sdk = .ok built) :
    (∀ a, Routed a → (¬IncludesSome built.routes.toList a ↔ start.ToBeExcluded listed a)) ↔
      start.ExcludesInOrder listed := by
  obtain ⟨-,-,hroutes,-⟩ := configBuild_ok_iff.mp hbuild
  rw [hroutes]
  cases start with
  | openVpn remote callbacks => exact openVpn_outside_iff hsdk hall
  | wireguard clientIps allowedIps mtu => exact wireguard_outside_iff hsdk hall
  | xray host mtu => exact xray_outside_iff hsdk

/-- A WireGuard start with the default routes and the network `10.0.0.0/8` listed. -/
def listedWireguard : Start :=
  .wireguard [⟨.v4 (ofOctets 10 8 0 2),32⟩] [ipv4Default,ipv6Default] none

def listedNetwork : List InetNetwork := [⟨.v4 (ofOctets 10 0 0 0),8⟩]

theorem listed_network_left_out :
    ∃ built, (listedWireguard.builder (some listedNetwork)).configBuild 30 = .ok built ∧
      ∀ a, Routed a → (¬IncludesSome built.routes.toList a ↔
        listedWireguard.ToBeExcluded (some listedNetwork) a) := by
  have hok : ((listedWireguard.builder (some listedNetwork)).configBuild 30).isOk := by
    decide +kernel
  cases hbuild : (listedWireguard.builder (some listedNetwork)).configBuild 30 with
  | error e =>
    rw [hbuild] at hok
    cases hok
  | ok built =>
    have hsites : listedWireguard.ExcludesInOrder (some listedNetwork) := by
      show listedWireguard.sites (some listedNetwork) ≠ []
      decide
    have hall : listedWireguard.RoutesEverything := by
      show ipv4Default ∈ [ipv4Default,ipv6Default] ∧ ipv6Default ∈ [ipv4Default,ipv6Default]
      decide
    exact ⟨built,rfl,(routes_exclude_exactly_iff listedWireguard (some listedNetwork)
      (by decide) hall hbuild).mpr hsites⟩

/-- The server `1.2.3.4`, whose core redirects the gateway for both families. -/
def redirectedOpenVpn : Start :=
  .openVpn (.v4 (ofOctets 1 2 3 4))
    [.addAddress ⟨.v4 (ofOctets 10 8 0 2),24⟩,.rerouteGw true true 0]

/-- Without split tunneling the redirected gateway comes after the server's
exclusion, and the server's own address is routed into the tunnel. -/
theorem server_put_back : redirectedOpenVpn.RoutesEverything ∧
      ∃ built, (redirectedOpenVpn.builder none).configBuild 30 = .ok built ∧
        Routed (.v4 (ofOctets 1 2 3 4)) ∧
        redirectedOpenVpn.ToBeExcluded none (.v4 (ofOctets 1 2 3 4)) ∧
        IncludesSome built.routes.toList (.v4 (ofOctets 1 2 3 4)) := by
  have hok : ((redirectedOpenVpn.builder none).configBuild 30).isOk := by decide +kernel
  have hverdict : verdict (redirectedOpenVpn.builder none).order
      (.v4 (ofOctets 1 2 3 4)) ∧
      isLoopback (.v4 (ofOctets 1 2 3 4)) = false := by decide
  have hpushed : (⟨ipv4Default,true⟩ : Route) ∈ pushed [.addAddress
      ⟨.v4 (ofOctets 10 8 0 2),24⟩,.rerouteGw true true 0] ∧
      ipv6DefaultRoute ∈ pushed [.addAddress
        ⟨.v4 (ofOctets 10 8 0 2),24⟩,.rerouteGw true true 0] := by decide
  have hall : redirectedOpenVpn.RoutesEverything := by
    intro a ha
    cases a with
    | v4 x => exact ⟨_,hpushed.1,rfl,contains_ipv4Default x⟩
    | v6 x => exact ⟨_,hpushed.2,rfl,contains_ipv6Default x⟩
  cases hbuild : (redirectedOpenVpn.builder none).configBuild 30 with
  | error e =>
    rw [hbuild] at hok
    cases hok
  | ok built =>
    obtain ⟨-,-,hroutes,-⟩ := configBuild_ok_iff.mp hbuild
    refine ⟨hall,built,rfl,Or.inl rfl,Or.inr (Or.inr (Or.inl rfl)),?_⟩
    have hexcluded : ∃ r ∈ (redirectedOpenVpn.builder none).order, r.included = false := by
      decide
    rw [hroutes,includesSome_of_excluded (by decide) hexcluded]
    exact hverdict

end AlzheimerVPN.Android
