import AlzheimerVPN.BuilderRoutes

/-! Rebuilding the OpenVPN interface. A build leaves its routes in the builder, and
a new session clears only the addresses, so that the second build reads the first
build's routes in front of the callbacks' routes. -/
namespace AlzheimerVPN.Android

open OpenVpn Builder List

/-- The order in which a build reads the routes of split tunneling and of the
callbacks alone. -/
def pushedOrder (b : Builder) (callbacks : List TunCallback) : List Route :=
  (withoutIpv6Default (b.front++(pushed callbacks).filter b.keepsRoute)).eraseDups

/-- No included route after an excluded one that it overlaps, unless it reaches
the loopback addresses. -/
def NoLateInclude (routes : List Route) : Prop :=
  routes.Pairwise fun e i => e.included = false → i.included →
    (∃ a, e.contains a ∧ i.contains a) →
    ∃ a, isLoopback a ∧ i.contains a

/-- A route that the build does not drop as a loopback route contains the
address. -/
def Lasting (routes : List Route) (a : Address) : Prop :=
  ∃ r ∈ routes, isLoopbackRoute r = false ∧ r.contains a

section

variable {front own : List Route} {server : Route} {kept : List Route} {a : Address}

lemma filter_contains_eraseDups (l : List Route) (a : Address) :
    (l.eraseDups.filter fun r => r.contains a) = (l.filter fun r => r.contains a).eraseDups :=
  (filter_eraseDups _ l).symm

lemma verdict_congr {l m : List Route}
    (h : (l.filter fun r => r.contains a) = m.filter fun r => r.contains a) :
    verdict l a = verdict m a := by
  have hl : verdict (l.filter fun r => r.contains a) a = verdict l a := Rules.verdict_filter l a
  have hm : verdict (m.filter fun r => r.contains a) a = verdict m a := Rules.verdict_filter m a
  rw [← hl,← hm,h]

/-- Routes in the middle that do not contain the address do not matter. -/
lemma verdict_without_middle (hmiddle : ∀ r ∈ kept, r.contains a = false) :
    verdict (front++kept++own).eraseDups a = verdict (front++own).eraseDups a := by
  refine verdict_congr ?_
  have hnil : (kept.filter fun r => r.contains a) = [] := by
    refine filter_eq_nil_iff.mpr fun r hr => ?_
    simp [hmiddle r hr]
  rw [filter_contains_eraseDups,filter_contains_eraseDups,filter_append,filter_append,
    filter_append,hnil,append_nil]

/-- The order behind the routes in front. -/
def behind (front own : List Route) : List Route :=
  own.eraseDups.filter fun r => !decide (r ∈ front)

lemma eraseDups_eq_behind (front own : List Route) :
    (front++own).eraseDups = front.eraseDups++behind front own :=
  eraseDups_append_filter front own

lemma behind_append (front kept own : List Route) :
    behind (front++kept) own = (behind front own).filter fun r => !decide (r ∈ kept) := by
  rw [behind,behind,filter_filter]
  refine filter_congr fun r _ => ?_
  by_cases hr : r ∈ front <;> by_cases hr' : r ∈ kept <;> simp [hr,hr']

lemma mem_behind {r : Route} : r ∈ behind front own ↔ r ∈ own ∧ r ∉ front := by
  simp [behind]

lemma order_eq_behind (front kept own : List Route) :
    (front++kept++own).eraseDups = front.eraseDups ++
      (behind front kept++(behind front own).filter fun r => !decide (r ∈ kept)) := by
  rw [eraseDups_eq_behind,eraseDups_eq_behind,behind_append,append_assoc]

/-- Where no callback's route contains the address, the server's exclusion comes
after split tunneling's routes. -/
lemma verdict_front (hserver : server.included = false)
    (hown : ∀ r ∈ behind front own, r.contains a = false)
    (h : verdict (front++[server]++own).eraseDups a) : verdict front.eraseDups a := by
  have hlast : ∀ r ∈ (behind front own).filter fun r => !decide (r ∈ [server]),
      r.contains a = false := fun r hr => hown r (mem_filter.mp hr).1
  rw [order_eq_behind,← append_assoc] at h
  have hfront : verdict (front.eraseDups++behind front [server]) a :=
    (Rules.verdict_append_of_none hlast).symm.trans h
  by_cases hsome : ∃ r ∈ behind front [server], r.contains a
  · -- the server's exclusion would decide
    have hdecides : verdict (behind front [server]) a :=
      (Rules.verdict_append_of_some hsome).symm.trans hfront
    obtain ⟨r,hr,hkeep,-⟩ := Rules.exists_keep_of_verdict hdecides
    rw [mem_singleton.mp (mem_behind.mp hr).1,hserver] at hkeep
    exact absurd hkeep (by simp)
  · have hnone : ∀ r ∈ behind front [server], r.contains a = false := by simpa using hsome
    exact (Rules.verdict_append_of_none hnone).symm.trans hfront

lemma verdict_kept {l : List Route} (hfront : verdict front a)
    (hl : ∀ r ∈ l, r.included = false → r.contains a = false) : verdict (front++l) a := by
  by_cases hsome : ∃ r ∈ l, r.contains a
  · refine (Rules.verdict_append_of_some hsome).trans
      ((Rules.verdict_keeps_of_none_dropped hl).mpr ?_)
    obtain ⟨r,hr,hra⟩ := hsome
    refine ⟨r,hr,?_,hra⟩
    by_contra hdrop
    rw [hl r hr (by simpa using hdrop)] at hra
    exact absurd hra (by simp)
  · have hnone : ∀ r ∈ l, r.contains a = false := by simpa using hsome
    exact (Rules.verdict_append_of_none hnone).trans hfront

/-- A first build's routes between split tunneling's and the callbacks' routes
change no verdict: where they contain the address it is included either way. -/
lemma verdict_with_kept (server : Route) (hserver : server.included = false)
    (hkept : ∀ r ∈ kept, r.included)
    (hbuilt : ∀ r ∈ kept, r.contains a → verdict (front++[server]++own).eraseDups a)
    (hlate : (behind front own).Pairwise fun e i => e.included = false → i ∈ kept →
      ¬(e.contains a ∧ i.contains a)) :
    verdict (front++kept++own).eraseDups a = verdict (front++own).eraseDups a := by
  by_cases hsome : ∃ q ∈ kept, q.contains a
  case neg => exact verdict_without_middle (by simpa using hsome)
  obtain ⟨q,hq,hqa⟩ := hsome
  rw [order_eq_behind,eraseDups_eq_behind]
  have hkeptBehind : ∀ r ∈ behind front kept, r.included := fun r hr => hkept r (mem_behind.mp hr).1
  by_cases hown : ∃ r ∈ behind front own, r.contains a
  case neg =>
    have hnone : ∀ r ∈ behind front own, r.contains a = false := by simpa using hown
    have hfront := verdict_front hserver hnone (hbuilt q hq hqa)
    have hwithout : verdict (front.eraseDups++behind front own) a :=
      verdict_kept hfront fun r hr _ => hnone r hr
    rw [hwithout]
    refine verdict_kept hfront fun r hr hdrop => ?_
    rcases mem_append.mp hr with hin | hin
    · rw [hkeptBehind r hin] at hdrop
      exact absurd hdrop (by simp)
    · exact hnone r (mem_filter.mp hin).1
  -- the last route of the callbacks that contains the address decides without the
  -- first build's routes; with them it does so unless it is one of them
  obtain ⟨before,c,after,hsplit,hca,hafter⟩ := Rules.exists_last hown
  have hwithout : verdict (front.eraseDups++behind front own) a = c.included := by
    rw [hsplit,← append_assoc]
    exact Rules.verdict_of_last hca hafter
  rw [hwithout]
  have hfilterAfter : ∀ r ∈ after.filter fun r => !decide (r ∈ kept), r.contains a = false :=
    fun r hr => hafter r (mem_filter.mp hr).1
  by_cases hc : c ∈ kept
  · have hcBehind : c ∈ behind front kept := by
      have hmem : c ∈ behind front own := by simp [hsplit]
      exact mem_behind.mpr ⟨hc,(mem_behind.mp hmem).2⟩
    rw [hkept c hc]
    refine (Rules.verdict_append_of_some ⟨c,by simp [hcBehind],hca⟩).trans
      ((Rules.verdict_keeps_of_none_dropped ?_).mpr ⟨c,by simp [hcBehind],hkept c hc,hca⟩)
    intro e he hdrop
    rcases mem_append.mp he with hin | hin
    · rw [hkeptBehind e hin] at hdrop
      exact absurd hdrop (by simp)
    · have hmem : e ∈ before++c::after := hsplit ▸ (mem_filter.mp hin).1
      rw [hsplit] at hlate
      by_contra hea
      have hea' : e.contains a := by simpa using hea
      rcases mem_append.mp hmem with hb | hb
      · exact (pairwise_append.mp hlate).2.2 e hb c (by simp) hdrop hc ⟨hea',hca⟩
      · rcases mem_cons.mp hb with rfl | hb
        · rw [hkept e hc] at hdrop
          exact absurd hdrop (by simp)
        · exact hea (hafter e hb)
  · rw [hsplit,filter_append,filter_cons_of_pos (by simpa using hc),← append_assoc,← append_assoc]
    exact Rules.verdict_of_last hca hfilterAfter

end

section

variable (b : Builder) (callbacks : List TunCallback)

/-- The routes in front of the callbacks' routes. -/
def leading : List Route :=
  (if ipv6DefaultRoute ∈ b.front++(pushed callbacks).filter b.keepsRoute then [ipv6GlobalRoute]
    else [])++b.front.filter fun r => r != ipv6DefaultRoute

/-- The callbacks' routes that a build reads. -/
def ownRoutes : List Route :=
  ((pushed callbacks).filter b.keepsRoute).filter fun r => r != ipv6DefaultRoute

lemma pushedOrder_eq :
    pushedOrder b callbacks = (leading b callbacks++ownRoutes b callbacks).eraseDups := by
  rw [pushedOrder,withoutIpv6Default,filter_append,← append_assoc]
  rfl

variable {b callbacks}

/-- The order of a builder that has other routes before the callbacks' routes. -/
lemma order_of_routes {b' : Builder} {routes : List Route}
    (hincluded : b'.includedAddresses = b.includedAddresses)
    (hexcluded : b'.excludedAddresses = b.excludedAddresses)
    (hroutes : b'.routes.toList = (routes++pushed callbacks).eraseDups)
    (hnone : ipv6DefaultRoute ∉ routes) :
    b'.order = (leading b callbacks++routes.filter b.keepsRoute ++
      ownRoutes b callbacks).eraseDups := by
  have hfront : b'.front = b.front := by rw [front,hincluded,hexcluded,front]
  have hkeeps : b'.keepsRoute = b.keepsRoute := by
    funext r
    rw [keepsRoute,hincluded,keepsRoute]
  have hnone' : ipv6DefaultRoute ∉ routes.filter b.keepsRoute :=
    fun hmem => hnone (mem_filter.mp hmem).1
  have hself : ((routes.filter b.keepsRoute).filter fun r => r != ipv6DefaultRoute) =
      routes.filter b.keepsRoute := by
    refine filter_eq_self.mpr fun r hr => ?_
    have hne : r ≠ ipv6DefaultRoute := fun heq => hnone' (heq ▸ hr)
    simpa using hne
  have hdefault : ipv6DefaultRoute ∈ b.front++(routes++pushed callbacks).filter b.keepsRoute ↔
      ipv6DefaultRoute ∈ b.front++(pushed callbacks).filter b.keepsRoute := by
    simp only [filter_append,mem_append,hnone',false_or]
  -- the duplicates go at the end as well as at once
  have horder : b'.order = (withoutIpv6Default (b.front ++
      (routes++pushed callbacks).filter b.keepsRoute)).eraseDups := by
    rw [order,hfront,hkeeps,hroutes,← filter_eraseDups,← withoutIpv6Default_eraseDups,
      eraseDups_append_congr b.front (eraseDups_of_nodup (nodup_eraseDups _)),
      withoutIpv6Default_eraseDups]
  rw [horder,withoutIpv6Default,filter_append,filter_append,filter_append,hself,leading,ownRoutes]
  simp only [← filter_append,hdefault,append_assoc]

end

section

variable (b : Builder) (callbacks : List TunCallback)

def mtuOf : TunCallback → Option ℕ
  | .setMtu mtu => some mtu
  | _ => none

lemma mtu_onCallback (callback : TunCallback) :
    (onCallback b callback).mtu = (mtuOf callback).getD b.mtu := by
  cases callback with
  | addRoute address len => cases address <;> rfl
  | rerouteGw ipv4 ipv6 flags =>
    simp only [onCallback]
    split
    · rfl
    · cases ipv4 <;> cases ipv6 <;> rfl
  | _ => rfl

/-- The last MTU of the callbacks counts. -/
lemma mtu_foldl :
    (callbacks.foldl onCallback b).mtu = (callbacks.filterMap mtuOf).getLast?.getD b.mtu := by
  induction callbacks using List.reverseRecOn with
  | nil => rfl
  | append_singleton callbacks c ih =>
    rw [foldl_append,foldl_cons,foldl_nil,mtu_onCallback,ih,filterMap_append]
    cases hc : mtuOf c with
    | none => simp [hc]
    | some mtu => simp [hc]

lemma addresses_onCallback {b b' : Builder} (h : b.addresses = b'.addresses)
    (callback : TunCallback) :
    (onCallback b callback).addresses = (onCallback b' callback).addresses := by
  cases callback with
  | new => rfl
  | addAddress address => exact congrArg (·.add address) h
  | addRoute address len => cases address <;> exact h
  | rerouteGw ipv4 ipv6 flags =>
    simp only [onCallback]
    split
    · exact h
    · cases ipv4 <;> cases ipv6 <;> exact h
  | setMtu mtu => exact h
  | excludeRoute address len => exact h

lemma addresses_foldl {b b' : Builder} (h : b.addresses = b'.addresses) :
    (callbacks.foldl onCallback b).addresses = (callbacks.foldl onCallback b').addresses := by
  induction callbacks generalizing b b' with
  | nil => exact h
  | cons c cs ih => exact ih (addresses_onCallback h c)

/-- The same callbacks leave the same addresses and the same MTU. -/
lemma session_again {again : Builder} (hagain : again.mtu = (session b callbacks).mtu) :
    (session again callbacks).addresses = (session b callbacks).addresses ∧
      (session again callbacks).mtu = (session b callbacks).mtu := by
  have hmtu : ∀ b, (session b callbacks).mtu = (callbacks.filterMap mtuOf).getLast?.getD b.mtu :=
    fun b => mtu_foldl (onCallback b .new) callbacks
  refine ⟨addresses_foldl callbacks rfl,?_⟩
  rw [hmtu again,hagain,hmtu b]
  cases (callbacks.filterMap mtuOf).getLast? <;> rfl

def serverRoute (remote : Address) : Route := ⟨InetNetwork.ofAddress remote,false⟩

lemma startVpn_routes (remote : Address) (split : SplitTunneling) :
    (startVpn remote split).routes.toList = [serverRoute remote] := by
  cases split with
  | disabled => rfl
  | included sites =>
    have hsplit := foldl_includeAddress
      ((new 1500).excludeRoute (InetNetwork.ofAddress remote)) sites
    exact congrArg (·.routes.toList) hsplit
  | excluded sites =>
    have hsplit := foldl_excludeAddress
      ((new 1500).excludeRoute (InetNetwork.ofAddress remote)) sites
    exact congrArg (·.routes.toList) hsplit

lemma keepsRoute_server (remote : Address) : b.keepsRoute (serverRoute remote) := by
  cases remote <;> simp [keepsRoute,serverRoute,InetNetwork.ofAddress,Address.maxMask,
    ipv4Default,ipv6Default,ipv6Global]

end

/-- Adding what a filtered order kept, and then the same routes again, gives the
same filtered order. -/
lemma filter_order_again {front own : List Route} {server : Route} {keep stay : Route → Bool}
    (hserver : keep server ∧ stay server) (hown : ∀ r ∈ own, keep r) :
    (front++((front++[server]++own).eraseDups.filter stay).filter keep ++
        own).eraseDups.filter stay = (front++[server]++own).eraseDups.filter stay := by
  have hpush : ∀ l : List Route, (l++[server]++own).eraseDups.filter stay =
      (l.filter stay++[server]++own.filter stay).eraseDups := by
    intro l
    rw [← filter_eraseDups,filter_append,filter_append,filter_cons_of_pos hserver.2,filter_nil]
  have hkeep : ((front++[server]++own).eraseDups.filter stay).filter keep =
      ((front.filter stay).filter keep++[server]++own.filter stay).eraseDups := by
    have hownKeep : (own.filter stay).filter keep = own.filter stay :=
      filter_eq_self.mpr fun r hr => hown r (mem_filter.mp hr).1
    rw [hpush,← filter_eraseDups,filter_append,filter_append,hownKeep,
      filter_cons_of_pos hserver.1,filter_nil]
  have hstay : (((front.filter stay).filter keep++[server]++own.filter stay).eraseDups).filter
      stay = ((front.filter stay).filter keep++[server]++own.filter stay).eraseDups := by
    refine filter_eq_self.mpr fun r hr => ?_
    rcases mem_append.mp (mem_eraseDups.mp hr) with hin | hin
    · rcases mem_append.mp hin with hin | hin
      · exact (mem_filter.mp (mem_filter.mp hin).1).2
      · rw [mem_singleton.mp hin]
        exact hserver.2
    · exact (mem_filter.mp hin).2
  set A := front.filter stay
  set B := own.filter stay
  calc (front++((front++[server]++own).eraseDups.filter stay).filter keep ++
        own).eraseDups.filter stay
      = (A++((A.filter keep++[server]++B).eraseDups++B)).eraseDups := by
        rw [← filter_eraseDups,filter_append,filter_append,hkeep,hstay,append_assoc]
    _ = (A++A.filter keep++([server]++B++B)).eraseDups := by
        rw [eraseDups_append_congr A (eraseDups_eraseDups_append _ _)]
        simp only [append_assoc]
    _ = (A++([server]++B++B)).eraseDups :=
        eraseDups_append_append_of_subset _ fun r hr => (mem_filter.mp hr).1
    _ = (A++[server]++B).eraseDups := by
        rw [← append_assoc,← append_assoc]
        exact eraseDups_append_of_subset fun r hr => mem_append_right _ hr
    _ = (front++[server]++own).eraseDups.filter stay := (hpush front).symm

section

variable {b first : Builder} {remote : Address} {callbacks : List TunCallback} {sdk : ℕ}

section

variable (hfirst : (session b callbacks).configBuild sdk =
  .ok first)

include hfirst

/-- The order of the second build: the first build's routes come in the place of
the server's exclusion. -/
lemma second_order (hnone : ipv6DefaultRoute ∉ first.routes.toList) :
    (session first callbacks).order = (leading b callbacks ++
        first.routes.toList.filter b.keepsRoute++ownRoutes b callbacks).eraseDups := by
  obtain ⟨-,hother,-⟩ := configBuild_ok_iff.mp hfirst
  obtain ⟨-,hincluded,hexcluded⟩ := session_routes b callbacks
  obtain ⟨hroutes,hincluded',hexcluded'⟩ := session_routes first callbacks
  refine order_of_routes ?_ ?_ hroutes hnone
  · rw [hincluded',hother]
    exact hincluded
  · rw [hexcluded',hother]
    exact hexcluded

lemma first_routes : first.routes.toList = finalRoutes sdk (session b callbacks).order :=
  (configBuild_ok_iff.mp hfirst).2.2.1

/-- The second build succeeds when it has a route. -/
lemma second_build_iff (P : List Route → Prop) :
    (∃ second, (session first callbacks).configBuild sdk = .ok second ∧ P second.routes.toList) ↔
      finalRoutes sdk (session first callbacks).order ≠ [] ∧
        P (finalRoutes sdk (session first callbacks).order) := by
  obtain ⟨hmixed,hother,-,haddresses,-,hmtu⟩ := configBuild_ok_iff.mp hfirst
  obtain ⟨-,hincluded,hexcluded⟩ := session_routes first callbacks
  have hagain : first.mtu = (session b callbacks).mtu := by
    rw [hother]
  obtain ⟨haddresses',hmtu'⟩ := session_again b callbacks hagain
  constructor
  · rintro ⟨second,hsecond,hP⟩
    obtain ⟨-,-,hroutes,-,hne,-⟩ := configBuild_ok_iff.mp hsecond
    rw [hroutes] at hne hP
    exact ⟨hne,hP⟩
  · rintro ⟨hne,hP⟩
    let second : Builder := { session first callbacks with
      routes := ⟨finalRoutes sdk (session first callbacks).order,
        nodup_finalRoutes sdk (nodup_eraseDups _)⟩ }
    refine ⟨second,configBuild_ok_iff.mpr ⟨?_,rfl,rfl,?_,hne,?_⟩,hP⟩
    · rw [hincluded,hexcluded,hother]
      exact hmixed
    · rw [haddresses']
      exact haddresses
    · rw [hmtu']
      exact hmtu

end

variable (hb : b.routes.toList = [serverRoute remote])

include hb

/-- The order of the first build: the server's exclusion comes before the
callbacks' routes. -/
lemma first_order (callbacks : List TunCallback) : (session b callbacks).order =
      (leading b callbacks++[serverRoute remote]++ownRoutes b callbacks).eraseDups := by
  obtain ⟨hroutes,hincluded,hexcluded⟩ := session_routes b callbacks
  rw [hb] at hroutes
  rw [order_of_routes hincluded hexcluded hroutes (by simp [serverRoute,ipv6DefaultRoute]),
    filter_cons_of_pos (keepsRoute_server _ remote),filter_nil]

lemma server_excluded (callbacks : List TunCallback) :
    ∃ r ∈ (session b callbacks).order, r.included = false := by
  refine ⟨serverRoute remote,?_,rfl⟩
  rw [first_order hb]
  simp

variable (hfirst : (session b callbacks).configBuild sdk =
  .ok first)

include hfirst

/-- From API 33 on the second build has the same routes in the same order. -/
lemma second_routes_api33 (hsdk : 33 ≤ sdk) :
    finalRoutes sdk (session first callbacks).order = first.routes.toList := by
  have hroutes := first_routes hfirst
  rw [finalRoutes_of_api33 hsdk] at hroutes
  have hnone : ipv6DefaultRoute ∉ first.routes.toList := by
    rw [hroutes]
    exact fun hmem => ipv6Default_not_mem _ (mem_eraseDups.mp (mem_filter.mp hmem).1)
  rw [finalRoutes_of_api33 hsdk,second_order hfirst hnone,hroutes,first_order hb]
  refine filter_order_again ⟨keepsRoute_server _ remote,?_⟩ fun r hr => ?_
  · simp [isLoopbackRoute,serverRoute]
  · exact (mem_filter.mp (mem_filter.mp hr).1).2

variable (hsdk : sdk < 33)

include hsdk

variable {r : Route}

lemma first_mem (hr : r ∈ first.routes.toList) : r.included ∧ ∀ a, r.contains a →
      verdict (session b callbacks).order a ∧ isLoopback a = false := by
  rw [first_routes hfirst,finalRoutes_of_excluded hsdk (server_excluded hb callbacks),
    mem_eraseDups] at hr
  obtain ⟨n,hn,rfl⟩ := mem_map.mp hr
  exact ⟨rfl,fun a hna => mem_subnets_not_loopback hn hna⟩

lemma first_includesSome (a : Address) : IncludesSome first.routes.toList a ↔
      verdict (session b callbacks).order a ∧ isLoopback a = false := by
  rw [first_routes hfirst]
  exact includesSome_of_excluded hsdk (server_excluded hb callbacks)

lemma first_no_ipv6Default : ipv6DefaultRoute ∉ first.routes.toList := by
  intro hmem
  have hloop : ipv6DefaultRoute.contains (.v6 1) ∧ isLoopback (.v6 1) := by
    decide
  have hclear := ((first_mem hb hfirst hsdk hmem).2 _ hloop.1).2
  rw [hloop.2] at hclear
  exact absurd hclear (by simp)

lemma second_order_old : (session first callbacks).order = (leading b callbacks ++
        first.routes.toList.filter b.keepsRoute++ownRoutes b callbacks).eraseDups :=
  second_order hfirst (first_no_ipv6Default hb hfirst hsdk)

/-- Before API 33 the second build decides as if the server had not been
excluded. -/
lemma second_verdict (hlate : NoLateInclude (pushed callbacks)) (a : Address) :
    verdict (session first callbacks).order a = verdict (pushedOrder b callbacks) a := by
  rw [second_order_old hb hfirst hsdk,pushedOrder_eq]
  refine verdict_with_kept (serverRoute remote) rfl ?_ ?_ ?_
  · exact fun r hr => (first_mem hb hfirst hsdk (mem_filter.mp hr).1).1
  · intro r hr hra
    rw [← first_order hb]
    exact ((first_mem hb hfirst hsdk (mem_filter.mp hr).1).2 a hra).1
  · have hsub : (behind (leading b callbacks) (ownRoutes b callbacks)).Sublist (pushed callbacks) :=
      filter_sublist.trans ((eraseDups_sublist _).trans (filter_sublist.trans filter_sublist))
    refine (List.Pairwise.sublist hsub hlate).imp fun {e i} hei hdrop hi hboth => ?_
    obtain ⟨hincluded,hclear⟩ := first_mem hb hfirst hsdk (mem_filter.mp hi).1
    obtain ⟨x,hx,hix⟩ := hei hdrop hincluded ⟨a,hboth⟩
    rw [(hclear x hix).2] at hx
    exact absurd hx (by simp)

omit hfirst hsdk in
/-- The server's exclusion only matters for the server's address. -/
lemma first_verdict {a : Address} (h : a ≠ remote) :
    verdict (session b callbacks).order a = verdict (pushedOrder b callbacks) a := by
  rw [first_order hb,pushedOrder_eq]
  refine verdict_without_middle fun r hr => ?_
  rw [mem_singleton.mp hr]
  by_contra hra
  have hra' : (serverRoute remote).contains a := by simpa using hra
  exact h ((contains_ofAddress a remote).mp hra').symm

lemma mem_second : r ∈ (session first callbacks).order ↔
      r ∈ pushedOrder b callbacks ∨ r ∈ first.routes.toList.filter b.keepsRoute := by
  rw [second_order_old hb hfirst hsdk,pushedOrder_eq]
  simp only [mem_eraseDups,mem_append]
  tauto

/-- With an excluded route besides the server's, the second build cuts ranges
again, and only the server's address can change. -/
lemma same_iff_of_excluded (hlate : NoLateInclude (pushed callbacks))
    (hexcluded : ∃ r ∈ pushedOrder b callbacks, r.included = false) :
    (∀ a, IncludesSome (finalRoutes sdk (session first callbacks).order) a ↔
        IncludesSome first.routes.toList a) ↔
      isLoopback remote ∨
        verdict (session b callbacks).order remote = verdict (pushedOrder b callbacks) remote := by
  have hexcluded' : ∃ r ∈ (session first callbacks).order, r.included = false := by
    obtain ⟨r,hr,hdrop⟩ := hexcluded
    exact ⟨r,(mem_second hb hfirst hsdk).mpr (Or.inl hr),hdrop⟩
  have hcompare : ∀ a, (IncludesSome (finalRoutes sdk (session first callbacks).order) a ↔
      IncludesSome first.routes.toList a) ↔ isLoopback a ∨ verdict (session b callbacks).order a =
          verdict (pushedOrder b callbacks) a := by
    intro a
    rw [includesSome_of_excluded hsdk hexcluded',first_includesSome hb hfirst hsdk,
      second_verdict hb hfirst hsdk hlate]
    cases isLoopback a with
    | true => simp
    | false =>
      simp only [and_true,Bool.false_eq_true,false_or]
      exact ⟨fun h => Bool.eq_iff_iff.mpr h.symm,fun h => by rw [h]⟩
  constructor
  · intro hsame
    exact (hcompare remote).mp (hsame remote)
  · intro hremote a
    refine (hcompare a).mpr ?_
    by_cases ha : a = remote
    · rw [ha]
      exact hremote
    · exact Or.inr (first_verdict hb ha)

omit hfirst hsdk in
/-- The first build's included routes are routes of split tunneling and of the
callbacks. -/
lemma mem_pushedOrder (hincluded : r.included) (hr : r ∈ (session b callbacks).order) :
    r ∈ pushedOrder b callbacks := by
  rw [first_order hb,mem_eraseDups,mem_append,mem_append,mem_singleton] at hr
  rw [pushedOrder_eq,mem_eraseDups,mem_append]
  rcases hr with (hin | rfl) | hin
  · exact Or.inl hin
  · simp [serverRoute] at hincluded
  · exact Or.inr hin

/-- A network that inclusive split tunneling would remove from the first build's
routes is the network of the global addresses. -/
lemma first_removed (hr : r ∈ first.routes.toList)
    (hremoved : b.keepsRoute r = false) : r.inetNetwork = ipv6Global := by
  have hclear := (first_mem hb hfirst hsdk hr).2
  have hloop4 : ipv4Default.contains (.v4 (127 <<< 24)) ∧ isLoopback (.v4 (127 <<< 24)) := by decide
  have hloop6 : ipv6Default.contains (.v6 1) ∧ isLoopback (.v6 1) := by
    decide
  have hne4 : r.inetNetwork ≠ ipv4Default := by
    intro heq
    have hnot := (hclear (.v4 (127 <<< 24)) (by rw [Route.contains,heq]; exact hloop4.1)).2
    rw [hloop4.2] at hnot
    exact absurd hnot (by simp)
  have hne6 : r.inetNetwork ≠ ipv6Default := by
    intro heq
    have hnot := (hclear (.v6 1) (by rw [Route.contains,heq]; exact hloop6.1)).2
    rw [hloop6.2] at hnot
    exact absurd hnot (by simp)
  simp only [keepsRoute,Bool.or_eq_false_iff,Bool.and_eq_false_iff,bne_eq_false_iff_eq] at hremoved
  rcases hremoved.2 with (heq | heq) | heq
  · exact absurd heq hne4
  · exact absurd heq hne6
  · exact heq

/-- Without one the second build leaves the routes as they are. -/
lemma second_includesSome (hincluded : ∀ r ∈ pushedOrder b callbacks, r.included) (a : Address) :
    IncludesSome (finalRoutes sdk (session first callbacks).order) a ↔
      Lasting (pushedOrder b callbacks) a ∨ IncludesSome first.routes.toList a := by
  have hall : ∀ r ∈ (session first callbacks).order, r.included := by
    intro r hr
    rcases (mem_second hb hfirst hsdk).mp hr with hin | hin
    · exact hincluded r hin
    · exact (first_mem hb hfirst hsdk (mem_filter.mp hin).1).1
  rw [finalRoutes_of_included hall]
  constructor
  · rintro ⟨r,hr,hkeep,hra⟩
    obtain ⟨hmem,hlasting⟩ := mem_filter.mp hr
    rcases (mem_second hb hfirst hsdk).mp hmem with hin | hin
    · exact Or.inl ⟨r,hin,by simpa using hlasting,hra⟩
    · exact Or.inr ⟨r,(mem_filter.mp hin).1,hkeep,hra⟩
  · have hstays : ∀ r ∈ (session first callbacks).order,
        isLoopbackRoute r = false → r.contains a →
        IncludesSome ((session first callbacks).order.filter fun r => !isLoopbackRoute r) a :=
      fun r hr hlasting hra =>
        ⟨r,mem_filter.mpr ⟨hr,by simp [hlasting]⟩,hall r hr,hra⟩
    rintro (⟨r,hr,hlasting,hra⟩ | ⟨r,hr,hkeep,hra⟩)
    · exact hstays r ((mem_second hb hfirst hsdk).mpr (Or.inl hr)) hlasting hra
    obtain ⟨-,hclear⟩ := first_mem hb hfirst hsdk hr
    cases hremoved : b.keepsRoute r with
    | true =>
      refine hstays r ((mem_second hb hfirst hsdk).mpr (Or.inr (mem_filter.mpr
        ⟨hr,hremoved⟩))) ?_ hra
      by_contra hloop
      have hself := isLoopback_of_isLoopbackRoute (r := r) (by simpa using hloop)
      rw [(hclear r.inetNetwork.address (contains_self _)).2] at hself
      exact absurd hself (by simp)
    | false =>
      -- a route of split tunneling or of the callbacks has the address
      have hglobal := first_removed hb hfirst hsdk hr hremoved
      obtain ⟨hverdict,hnot⟩ := hclear a hra
      obtain ⟨r',hr',hkeep',hra'⟩ := Rules.exists_keep_of_verdict hverdict
      refine hstays r' ((mem_second hb hfirst hsdk).mpr (Or.inl (mem_pushedOrder hb hkeep' hr'))) ?_ hra'
      by_contra hloop
      rw [Route.contains,hglobal] at hra
      cases a with
      | v4 x => simp [ipv6Global,InetNetwork.contains] at hra
      | v6 x =>
        rw [isLoopback_v6_of_isLoopbackRoute (by simpa using hloop) hra'] at hnot
        exact absurd hnot (by simp)

/-- Only the loopback addresses and the server's address can then change. -/
lemma same_iff_of_included (hincluded : ∀ r ∈ pushedOrder b callbacks, r.included) :
    (∀ a, IncludesSome (finalRoutes sdk (session first callbacks).order) a ↔
        IncludesSome first.routes.toList a) ↔
      (∀ a, isLoopback a → ¬Lasting (pushedOrder b callbacks) a) ∧
        (Lasting (pushedOrder b callbacks) remote →
          verdict (session b callbacks).order remote) := by
  have hcompare : ∀ a, (IncludesSome (finalRoutes sdk (session first callbacks).order) a ↔
      IncludesSome first.routes.toList a) ↔ (Lasting (pushedOrder b callbacks) a →
          verdict (session b callbacks).order a ∧ isLoopback a = false) := by
    intro a
    rw [second_includesSome hb hfirst hsdk hincluded,first_includesSome hb hfirst hsdk]
    tauto
  constructor
  · intro hsame
    refine ⟨fun a hloop hlasting => ?_,fun hlasting => ((hcompare remote).mp (hsame remote)
      hlasting).1⟩
    have hclear := ((hcompare a).mp (hsame a) hlasting).2
    rw [hloop] at hclear
    exact absurd hclear (by simp)
  · rintro ⟨hloopback,hremote⟩ a
    refine (hcompare a).mpr fun hlasting => ?_
    have hclear : isLoopback a = false := by
      by_contra hloop
      exact hloopback a (by simpa using hloop) hlasting
    refine ⟨?_,hclear⟩
    by_cases ha : a = remote
    · rw [ha] at hlasting ⊢
      exact hremote hlasting
    · obtain ⟨r,hr,-,hra⟩ := hlasting
      rw [first_verdict hb ha]
      refine (Rules.verdict_keeps_of_none_dropped fun e he hdrop => ?_).mpr
        ⟨r,hr,hincluded r hr,hra⟩
      rw [hincluded e he] at hdrop
      exact absurd hdrop (by simp)

end

/-- The addresses that go through the tunnel. Before API 33 only included routes
reach the platform; from then on the platform weighs the routes it is given. -/
def Covers (platform : List Route → Address → Prop) (sdk : ℕ) (b : Builder) (a : Address) : Prop :=
  if sdk < 33 then IncludesSome b.routes.toList a else platform b.routes.toList a

/-- The start's exclusion of the server makes no difference: with another excluded
route, none for the server's address; without one, the other routes leave out the
loopback addresses, and the server's address unless a callback includes it. -/
def SameWithoutServer (remote : Address) (split : SplitTunneling)
    (callbacks : List TunCallback) : Prop :=
  let first := (session (startVpn remote split) callbacks).order
  let own := pushedOrder (startVpn remote split) callbacks
  ((∃ r ∈ own, r.included = false) ∧
      (isLoopback remote ∨ verdict first remote = verdict own remote)) ∨
    ((∀ r ∈ own, r.included) ∧ (∀ a, isLoopback a → ¬Lasting own a) ∧
      (Lasting own remote → verdict first remote))

section

variable {remote : Address} {split : SplitTunneling} {callbacks : List TunCallback} {sdk : ℕ}
  {first : Builder}

lemma same_iff (hsdk : sdk < 33) (hlate : NoLateInclude (pushed callbacks))
    (hfirst : (session (startVpn remote split) callbacks).configBuild sdk = .ok first) :
    (∀ a, IncludesSome (finalRoutes sdk (session first callbacks).order) a ↔
        IncludesSome first.routes.toList a) ↔ SameWithoutServer remote split callbacks := by
  by_cases hexcluded : ∃ r ∈ pushedOrder (startVpn remote split) callbacks, r.included = false
  · have hnot : ¬∀ r ∈ pushedOrder (startVpn remote split) callbacks, r.included := by
      obtain ⟨r,hr,hdrop⟩ := hexcluded
      intro hall
      rw [hall r hr] at hdrop
      exact absurd hdrop (by simp)
    rw [same_iff_of_excluded (startVpn_routes _ _) hfirst hsdk hlate hexcluded]
    exact ⟨fun h => Or.inl ⟨hexcluded,h⟩,fun h => (h.resolve_right fun hr => hnot hr.1).2⟩
  · have hincluded : ∀ r ∈ pushedOrder (startVpn remote split) callbacks,
        r.included := by simpa using hexcluded
    rw [same_iff_of_included (startVpn_routes _ _) hfirst hsdk hincluded]
    exact ⟨fun h => Or.inr ⟨hincluded,h⟩,fun h => (h.resolve_left fun hl => hexcluded hl.1).2⟩

/-- The same callbacks in a later session of the client give routes that cover the
same addresses from API 33 on; before it, where no callback's route puts back what
an earlier one excluded, they do so exactly when the server's exclusion, which is
not repeated, makes no difference. -/
theorem rebuild_same_iff (platform : List Route → Address → Prop)
    (hlate : 33 ≤ sdk ∨ NoLateInclude (pushed callbacks))
    (hfirst : (session (startVpn remote split) callbacks).configBuild sdk = .ok first) :
    (∃ second, (session first callbacks).configBuild sdk = .ok second ∧
        ∀ a, Covers platform sdk second a ↔ Covers platform sdk first a) ↔
      33 ≤ sdk ∨ SameWithoutServer remote split callbacks := by
  obtain ⟨-,-,-,-,hne,-⟩ := configBuild_ok_iff.mp hfirst
  by_cases hsdk : 33 ≤ sdk
  · have hold : ¬sdk < 33 := by omega
    have hroutes := second_routes_api33 (startVpn_routes _ _) hfirst hsdk
    have hsecond := (second_build_iff hfirst fun routes => ∀ a, platform routes a ↔
      platform first.routes.toList a).mpr (by rw [hroutes]; exact ⟨hne,fun a => Iff.rfl⟩)
    simp only [Covers,if_neg hold,hsdk,true_or,iff_true]
    exact hsecond
  · have hold : sdk < 33 := by omega
    have hsame := same_iff hold (hlate.resolve_left hsdk) hfirst
    simp only [Covers,if_pos hold,hsdk,false_or]
    rw [second_build_iff hfirst fun routes => ∀ a, IncludesSome routes a ↔
      IncludesSome first.routes.toList a,hsame]
    refine ⟨And.right,fun h => ⟨?_,h⟩⟩
    -- a route of the first build has its own address, which the second then has
    obtain ⟨r,hr⟩ := exists_mem_of_ne_nil _ hne
    have hown : IncludesSome first.routes.toList r.inetNetwork.address :=
      ⟨r,hr,(first_mem (startVpn_routes _ _) hfirst hold hr).1,contains_self _⟩
    obtain ⟨r',hr',-⟩ := ((hsame.mpr h) _).mpr hown
    exact ne_nil_of_mem hr'

end

def sampleServer : Address := .v4 (Address.ofOctets 1 2 3 4)

/-- Exclusive split tunneling with the server's address listed. -/
def serverListed : SplitTunneling := .excluded [InetNetwork.ofAddress sampleServer]

/-- Exclusive split tunneling with `10.0.0.0/8` listed. -/
def privateListed : SplitTunneling := .excluded [⟨.v4 (Address.ofOctets 10 0 0 0),8⟩]

/-- A session in which the core redirects the gateway for both families. -/
def redirecting : List TunCallback :=
  [.addAddress ⟨.v4 (Address.ofOctets 10 8 0 2),24⟩,.rerouteGw true true 0]

lemma redirecting_noLateInclude : NoLateInclude (pushed redirecting) := by
  have hpushed : pushed redirecting = [⟨ipv4Default,true⟩,ipv6DefaultRoute] := rfl
  rw [NoLateInclude,hpushed]
  simp [ipv6DefaultRoute]

theorem listed_server_rebuilt : ∃ first, (session (startVpn sampleServer serverListed)
        redirecting).configBuild 30 = .ok first ∧
      ∃ second, (session first redirecting).configBuild 30 = .ok second ∧
        ∀ a, Covers IncludesSome 30 second a ↔ Covers IncludesSome 30 first a := by
  have hok : ((session (startVpn sampleServer serverListed)
      redirecting).configBuild 30).isOk := by decide +kernel
  have hsame : SameWithoutServer sampleServer serverListed redirecting := by
    refine Or.inl ⟨?_,Or.inr ?_⟩ <;> decide
  cases hfirst : (session (startVpn sampleServer serverListed) redirecting).configBuild 30 with
  | error e =>
    rw [hfirst] at hok
    cases hok
  | ok first =>
    exact ⟨first,rfl,(rebuild_same_iff IncludesSome (Or.inr redirecting_noLateInclude)
      hfirst).mpr (Or.inr hsame)⟩

/-- With exclusive split tunneling the first build leaves the server's address out
and the second routes it into the tunnel. -/
theorem server_routed_on_reconnect : ∃ first second, (session (startVpn sampleServer privateListed)
        redirecting).configBuild 30 = .ok first ∧
      (session first redirecting).configBuild 30 = .ok second ∧
      ¬Covers IncludesSome 30 first sampleServer ∧ Covers IncludesSome 30 second sampleServer := by
  have hok : ((session (startVpn sampleServer privateListed)
      redirecting).configBuild 30).isOk := by decide +kernel
  have hverdicts : verdict (session (startVpn sampleServer privateListed)
        redirecting).order sampleServer = false ∧
      verdict (pushedOrder (startVpn sampleServer privateListed) redirecting)
        sampleServer ∧ isLoopback sampleServer = false := by decide
  have hexcluded : ∃ r ∈ pushedOrder (startVpn sampleServer privateListed) redirecting,
      r.included = false := by decide
  have hsdk : 30 < 33 := by decide
  cases hfirst : (session (startVpn sampleServer privateListed) redirecting).configBuild 30 with
  | error e =>
    rw [hfirst] at hok
    cases hok
  | ok first =>
    have hexcluded' : ∃ r ∈ (session first redirecting).order, r.included = false := by
      obtain ⟨r,hr,hdrop⟩ := hexcluded
      exact ⟨r,(mem_second (startVpn_routes _ _) hfirst hsdk).mpr (Or.inl hr),hdrop⟩
    have hsecond : IncludesSome (finalRoutes 30 (session first redirecting).order)
        sampleServer := by
      rw [includesSome_of_excluded hsdk hexcluded',
        second_verdict (startVpn_routes _ _) hfirst hsdk redirecting_noLateInclude]
      exact hverdicts.2
    have hne : finalRoutes 30 (session first redirecting).order ≠ [] := by
      obtain ⟨r,hr,-⟩ := hsecond
      exact ne_nil_of_mem hr
    obtain ⟨second,hbuild,hcovers⟩ := (second_build_iff hfirst fun routes =>
      IncludesSome routes sampleServer).mpr ⟨hne,hsecond⟩
    refine ⟨first,second,rfl,hbuild,fun hcovered => ?_,hcovers⟩
    have hin := (first_includesSome (startVpn_routes _ _) hfirst hsdk sampleServer).mp hcovered
    rw [hverdicts.1] at hin
    exact absurd hin.1 (by simp)

end AlzheimerVPN.Android
