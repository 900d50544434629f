import AlzheimerVPN.DnsSession

/-! The two resolver managers of the service. The router and the daemon have each an object of
their own, and both write to the store of the system. -/
namespace AlzheimerVPN

open Runs DnsUtilsMacos List Option

inductive Manager
  | router | daemon
  deriving DecidableEq, Repr

inductive ResolverRequest
  | updateResolvers (resolvers : List HostAddress) (bound : Bool)
  | configureSplitTunnelRules (rules : List String) (bound : Bool)
  | restoreResolvers

structure ResolverManagers where
  store : SystemStore
  utils : Manager → DnsUtilsMacos
  /-- Those between an update and their restore, each with the entry it has written last; who
  wrote last comes first. -/
  sessions : List (Manager × DnsConfig)

namespace ResolverManagers

section

variable [Qt] (serviceName : String)

/-- Both objects are constructed before the first request. -/
def new (store : SystemStore) : ResolverManagers :=
  let router := DnsUtilsMacos.new serviceName store
  let daemon := DnsUtilsMacos.new serviceName router.2
  { store := daemon.2
    utils := fun
      | .router => router.1
      | .daemon => daemon.1
    sessions := [] }

def others (s : ResolverManagers) (who : Manager) : List (Manager × DnsConfig) :=
  s.sessions.filter fun e => e.1 ≠ who

def call (s : ResolverManagers) (who : Manager) (c : Call) : Option ResolverManagers :=
  (DnsUtilsMacos.call serviceName (s.utils who,s.store) c).map fun t =>
    { store := t.2
      utils := Function.update s.utils who t.1
      sessions :=
        match writtenConfig serviceName (s.utils who) c with
        | none => s.sessions
        | some config => (who,config)::s.others who }

def restore (s : ResolverManagers) (who : Manager) : ResolverManagers :=
  let t := (s.utils who).restoreResolvers serviceName s.store
  { store := t.2
    utils := Function.update s.utils who t.1
    sessions := s.others who }

def act (s : ResolverManagers) (who : Manager) : ResolverRequest → Option ResolverManagers
  | .updateResolvers resolvers bound => s.call serviceName who (.updateResolvers resolvers bound)
  | .configureSplitTunnelRules rules bound =>
    s.call serviceName who (.configureSplitTunnelRules rules bound)
  | .restoreResolvers => some (s.restore serviceName who)

def step (s : Option ResolverManagers) (request : Manager × ResolverRequest) :
    Option ResolverManagers :=
  s.bind (act serviceName · request.1 request.2)

/-- A manager may write if it wrote last, or has not written and will find what it saves again
after its own sweep. -/
def MayWrite (s : ResolverManagers) (who : Manager) : Prop :=
  match s.sessions with
  | [] => True
  | top::_ => top.1 = who ∨ who ∉ s.sessions.map Prod.fst ∧
      isAmneziaLocalResolverConfig serviceName top.2 = false

instance (s : ResolverManagers) (who : Manager) : Decidable (s.MayWrite serviceName who) :=
  match h : s.sessions with
  | [] => isTrue (by rw [MayWrite,h]; trivial)
  | top::rest => decidable_of_iff (top.1 = who ∨ who ∉ (top::rest).map Prod.fst ∧
      isAmneziaLocalResolverConfig serviceName top.2 = false) (by rw [MayWrite,h])

def Allowed (s : ResolverManagers) (who : Manager) : ResolverRequest → Prop
  | .updateResolvers .. => s.MayWrite serviceName who
  | .configureSplitTunnelRules .. =>
    (s.utils who).currentResolvers = [] ∨ s.MayWrite serviceName who
  | .restoreResolvers => s.MayWrite serviceName who

instance (s : ResolverManagers) (who : Manager) :
    (request : ResolverRequest) → Decidable (s.Allowed serviceName who request)
  | .updateResolvers .. => inferInstanceAs (Decidable (s.MayWrite serviceName who))
  | .configureSplitTunnelRules .. => inferInstanceAs (Decidable (_ ∨ _))
  | .restoreResolvers => inferInstanceAs (Decidable (s.MayWrite serviceName who))

def AllowedIn (s : Option ResolverManagers) (request : Manager × ResolverRequest) : Prop :=
  match s with
  | none => True
  | some s => s.Allowed serviceName request.1 request.2

instance (request : Manager × ResolverRequest) :
    (s : Option ResolverManagers) → Decidable (AllowedIn serviceName s request)
  | none => isTrue trivial
  | some s => inferInstanceAs (Decidable (s.Allowed serviceName request.1 request.2))

end

section

variable {serviceName : String} {start : SystemStore} {s t : ResolverManagers} {who : Manager}
  {sessions rest : List (Manager × DnsConfig)} {uuid : String}

/-- What the store shows for a service under these sessions. -/
def shown (start : SystemStore) (sessions : List (Manager × DnsConfig)) (uuid : String) :
    DnsConfig :=
  match sessions with
  | [] => dnsFields (start.setup uuid)
  | top::_ => if Named start.services uuid then top.2 else dnsFields (start.setup uuid)

/-- No entry is the local override. -/
def Swept (serviceName : String) (store : SystemStore) : Prop :=
  ∀ uuid, isAmneziaLocalResolverConfig serviceName (dnsFields (store.setup uuid)) = false

/-- Each session lies over the ones that were there when it began, and has saved what they
showed. -/
def Stacked (serviceName : String) (start : SystemStore) (utils : Manager → DnsUtilsMacos) :
    List (Manager × DnsConfig) → Prop
  | [] => True
  | top::rest =>
    (∀ uuid, (utils top.1).prevServices[uuid]? =
      if Named start.services uuid then some (shown start rest uuid) else none) ∧
    top.2.domain = localResolverDomain serviceName ∧ top.1 ∉ rest.map Prod.fst ∧
    (∀ e ∈ rest, isAmneziaLocalResolverConfig serviceName e.2 = false) ∧
    Stacked serviceName start utils rest

structure Layered (serviceName : String) (start : SystemStore) (s : ResolverManagers) :
    Prop where
  services_eq : s.store.services = start.services
  shown_eq : ∀ uuid, dnsFields (s.store.setup uuid) = shown start s.sessions uuid
  prev_eq : ∀ who, who ∉ s.sessions.map Prod.fst → (s.utils who).prevServices = ∅
  stacked : Stacked serviceName start s.utils s.sessions

lemma dnsFields_filter {entry : Option DnsConfig}
    (h : isAmneziaLocalResolverConfig serviceName (dnsFields entry) = false) :
    dnsFields (entry.filter (!isAmneziaLocalResolverConfig serviceName ·)) = dnsFields entry := by
  cases entry with
  | none => rfl
  | some config =>
    have hconfig : isAmneziaLocalResolverConfig serviceName config = false := h
    rw [filter_some,hconfig]
    rfl

lemma shown_of_not_named (h : ¬Named start.services uuid) :
    shown start sessions uuid = dnsFields (start.setup uuid) := by
  cases sessions with
  | nil => rfl
  | cons top rest => exact if_neg h

variable (uuid) in
lemma shown_not_local (hstart : Swept serviceName start)
    (h : ∀ e ∈ sessions, isAmneziaLocalResolverConfig serviceName e.2 = false) :
    isAmneziaLocalResolverConfig serviceName (shown start sessions uuid) = false := by
  cases sessions with
  | nil => exact hstart uuid
  | cons top rest =>
    rw [shown]
    split_ifs
    · exact h top mem_cons_self
    · exact hstart uuid

lemma Stacked.congr {utils utils' : Manager → DnsUtilsMacos}
    (hsame : ∀ e ∈ sessions, (utils' e.1).prevServices = (utils e.1).prevServices)
    (h : Stacked serviceName start utils sessions) : Stacked serviceName start utils' sessions := by
  induction sessions with
  | nil => trivial
  | cons top rest ih =>
    obtain ⟨hsaved,hdomain,htop,hlocal,hrest⟩ := h
    refine ⟨?_,hdomain,htop,hlocal,ih (fun e he => hsame e (mem_cons_of_mem _ he)) hrest⟩
    intro uuid
    rw [hsame top mem_cons_self]
    exact hsaved uuid

lemma mem_others {e : Manager × DnsConfig} : e ∈ s.others who ↔ e ∈ s.sessions ∧ e.1 ≠ who := by
  simp [others]

lemma not_mem_others : who ∉ (s.others who).map Prod.fst := by
  intro hmem
  obtain ⟨e,he,hwho⟩ := mem_map.mp hmem
  exact (mem_others.mp he).2 hwho

/-- What a manager that may write finds: under its own session, or without one, are sessions
that its sweep leaves alone, and its object has saved what they show. -/
structure Beneath (serviceName : String) (start : SystemStore) (s : ResolverManagers)
    (who : Manager) : Prop where
  stacked : Stacked serviceName start s.utils (s.others who)
  not_local : ∀ e ∈ s.others who, isAmneziaLocalResolverConfig serviceName e.2 = false
  saves : ∀ uuid, (s.utils who).prevServices[uuid]?.or
      (if Named start.services uuid then some (dnsFields (s.store.setup uuid)) else none) =
    if Named start.services uuid then some (shown start (s.others who) uuid) else none
  puts_back : ∀ uuid, dnsFields (((s.utils who).prevServices[uuid]?.map putBack).getD
    (s.store.setup uuid)) = shown start (s.others who) uuid

lemma Layered.beneath_of_top (h : Layered serviceName start s) {config : DnsConfig}
    (hs : s.sessions = (who,config)::rest) : Beneath serviceName start s who := by
  obtain ⟨hsaved,-,hwho,hlocal,hrest⟩ := hs ▸ h.stacked
  have hothers : s.others who = rest := by
    have hne : ∀ e ∈ rest, e.1 ≠ who := fun e he heq => hwho (mem_map.mpr ⟨e,he,heq⟩)
    rw [others,hs,filter_cons_of_neg (by simp)]
    exact filter_eq_self.mpr fun e he => by simpa using hne e he
  refine ⟨hothers ▸ hrest,hothers ▸ hlocal,?_,?_⟩
  · intro uuid
    rw [hsaved,hothers]
    split_ifs
    · rfl
    · rfl
  · intro uuid
    rw [hsaved,hothers]
    split_ifs with hnamed
    · exact dnsFields_putBack _
    · rw [map_none,getD_none,h.shown_eq,shown_of_not_named hnamed,shown_of_not_named hnamed]

lemma Layered.beneath_of_not_mem (h : Layered serviceName start s)
    (hwho : who ∉ s.sessions.map Prod.fst)
    (hlocal : ∀ e ∈ s.sessions, isAmneziaLocalResolverConfig serviceName e.2 = false) :
    Beneath serviceName start s who := by
  have hothers : s.others who = s.sessions := by
    refine filter_eq_self.mpr fun e he => ?_
    simpa using fun heq : e.1 = who => hwho (mem_map.mpr ⟨e,he,heq⟩)
  have hprev : ∀ uuid : String, (s.utils who).prevServices[uuid]? = none := by
    intro uuid
    rw [h.prev_eq who hwho]
    rfl
  refine ⟨hothers ▸ h.stacked,hothers ▸ hlocal,?_,?_⟩
  · intro uuid
    rw [hprev,hothers,none_or,h.shown_eq]
  · intro uuid
    rw [hprev,hothers]
    exact h.shown_eq uuid

lemma Layered.beneath (h : Layered serviceName start s) (hmay : s.MayWrite serviceName who) :
    Beneath serviceName start s who := by
  rw [MayWrite] at hmay
  cases hs : s.sessions with
  | nil => exact h.beneath_of_not_mem (by simp [hs]) (by simp [hs])
  | cons top rest =>
    rw [hs] at hmay
    obtain ⟨-,-,-,hrest,-⟩ := hs ▸ h.stacked
    rcases hmay with rfl | ⟨hwho,htop⟩
    · exact h.beneath_of_top hs
    · refine h.beneath_of_not_mem (hs ▸ hwho) ?_
      rw [hs]
      exact forall_mem_cons.mpr ⟨htop,hrest⟩

lemma Layered.prev_other {other : Manager} (h : Layered serviceName start s) (u : DnsUtilsMacos)
    (hne : other ≠ who) (hother : other ∉ (s.others who).map Prod.fst) :
    (Function.update s.utils who u other).prevServices = ∅ := by
  have hold : other ∉ s.sessions.map Prod.fst := by
    intro hmem
    obtain ⟨e,he,rfl⟩ := mem_map.mp hmem
    exact hother (mem_map.mpr ⟨e,mem_others.mpr ⟨he,hne⟩,rfl⟩)
  rw [Function.update_of_ne hne]
  exact h.prev_eq other hold

lemma Beneath.stacked_update (h : Beneath serviceName start s who) (u : DnsUtilsMacos) :
    Stacked serviceName start (Function.update s.utils who u) (s.others who) := by
  refine h.stacked.congr fun e he => ?_
  rw [Function.update_of_ne (mem_others.mp he).2]

lemma Layered.restore (h : Layered serviceName start s) (hstart : Swept serviceName start)
    (hmay : s.MayWrite serviceName who) :
    Layered serviceName start (s.restore serviceName who) := by
  have hb := h.beneath hmay
  refine ⟨?_,?_,?_,hb.stacked_update _⟩
  · rw [ResolverManagers.restore,restoreResolvers_store]
    exact h.services_eq
  · intro uuid
    have hshown := hb.puts_back uuid
    have hlocal := shown_not_local uuid hstart hb.not_local
    rw [ResolverManagers.restore,restoreResolvers_setup]
    rw [← hshown] at hlocal ⊢
    exact dnsFields_filter hlocal
  · intro other hother
    by_cases hwho : other = who
    · subst hwho
      simp only [ResolverManagers.restore,Function.update_self]
      rfl
    · exact h.prev_other _ hwho hother

/-- A request that only changes the rules of an observer. -/
lemma Layered.update_utils (h : Layered serviceName start s) {u : DnsUtilsMacos}
    (hu : u.prevServices = (s.utils who).prevServices) :
    Layered serviceName start { s with utils := Function.update s.utils who u } := by
  have hsame : ∀ other, (Function.update s.utils who u other).prevServices =
      (s.utils other).prevServices := by
    intro other
    by_cases hwho : other = who
    · rw [hwho,Function.update_self,hu]
    · rw [Function.update_of_ne hwho]
  refine ⟨h.services_eq,h.shown_eq,?_,h.stacked.congr fun e _ => hsame e.1⟩
  intro other hother
  exact (hsame other).trans (h.prev_eq other hother)

end

section

variable [Qt] {serviceName : String} {start : SystemStore} {s t : ResolverManagers}
  {who : Manager} {c : Call}

lemma Layered.update (h : Layered serviceName start s) (hmay : s.MayWrite serviceName who)
    {u : DnsUtilsMacos} (hu : u.prevServices = (s.utils who).prevServices)
    (resolvers : List HostAddress) (bound : Bool) :
    Layered serviceName start
      { store := (u.updateResolvers serviceName s.store resolvers bound).2
        utils := Function.update s.utils who
          (u.updateResolvers serviceName s.store resolvers bound).1
        sessions := (who,u.dnsConfig serviceName resolvers bound)::s.others who } := by
  have hb := h.beneath hmay
  refine ⟨?_,?_,?_,?_,rfl,not_mem_others,hb.not_local,hb.stacked_update _⟩
  · rw [updateResolvers_store]
    exact h.services_eq
  · intro uuid
    simp only [updateResolvers_store,h.services_eq,shown]
    split_ifs with hnamed
    · rfl
    · exact (h.shown_eq uuid).trans (shown_of_not_named hnamed)
  · intro other hother
    rw [map_cons,mem_cons,not_or] at hother
    exact h.prev_other _ hother.1 hother.2
  · intro uuid
    simp only [Function.update_self]
    rw [updateResolvers_prevServices,hu,h.services_eq]
    exact hb.saves uuid

lemma Layered.call (h : Layered serviceName start s)
    (hcall : s.call serviceName who c = some t) (hc : ∀ store, withoutOverrides store c = store)
    (hmay : writtenConfig serviceName (s.utils who) c = none ∨ s.MayWrite serviceName who) :
    Layered serviceName start t := by
  obtain ⟨r,hr,rfl⟩ := map_eq_some_iff.mp hcall
  rcases call_cases hr with ⟨u,resolvers,bound,hu,-,hwritten,rfl⟩ | ⟨hnone,hprev,-,hstore⟩
  · have hmay := hmay.resolve_left (by simp [hwritten])
    have hupdate := h.update hmay hu resolvers bound
    simpa only [hwritten] using hupdate
  · have hupdate := h.update_utils hprev
    rw [hc] at hstore
    simpa only [hnone,hstore] using hupdate

lemma Layered.act (h : Layered serviceName start s) (hstart : Swept serviceName start)
    {request : ResolverRequest} (hact : s.act serviceName who request = some t)
    (hallowed : s.Allowed serviceName who request) : Layered serviceName start t := by
  cases request with
  | updateResolvers resolvers bound =>
    exact h.call (c := .updateResolvers resolvers bound) hact (fun _ => rfl) (.inr hallowed)
  | configureSplitTunnelRules rules bound =>
    have hmay := hallowed.imp_left fun hnone => show writtenConfig serviceName (s.utils who)
      (.configureSplitTunnelRules rules bound) = none by simp [writtenConfig,hnone]
    exact h.call (c := .configureSplitTunnelRules rules bound) hact (fun _ => rfl) hmay
  | restoreResolvers =>
    cases hact
    exact h.restore hstart hallowed

omit [Qt] in
lemma new_swept (store : SystemStore) : Swept serviceName (new serviceName store).store := by
  intro uuid
  simp only [new,DnsUtilsMacos.new,removeStale_removeStale]
  simp only [SystemStore.removeStaleLocalResolverOverrides]
  cases hentry : (store.setup uuid).filter (!isAmneziaLocalResolverConfig serviceName ·) with
  | none => simp [dnsFields,isAmneziaLocalResolverConfig,DnsConfig.empty]
  | some config =>
    have hkept := (filter_eq_some_iff.mp hentry).2
    exact Bool.not_eq_true' _ ▸ hkept

omit [Qt] in
lemma new_layered (store : SystemStore) :
    Layered serviceName (new serviceName store).store (new serviceName store) := by
  refine ⟨rfl,fun _ => rfl,?_,trivial⟩
  intro who _
  cases who with
  | router => rfl
  | daemon => rfl

lemma layered_run {store : SystemStore} {requests : List (Manager × ResolverRequest)}
    (hg : Guarded (step serviceName) (AllowedIn serviceName) (some (new serviceName store)) requests)
    (hrun : run (step serviceName) (some (new serviceName store)) requests = some t) :
    Layered serviceName (new serviceName store).store t := by
  let start := (new serviceName store).store
  have hstep : ∀ (p : Option ResolverManagers) (request : Manager × ResolverRequest),
      (∀ t, p = some t → Layered serviceName start t) → AllowedIn serviceName p request →
        ∀ t, step serviceName p request = some t → Layered serviceName start t := by
    intro p request h hallowed t ht
    obtain ⟨s,rfl,hact⟩ := bind_eq_some_iff.mp ht
    exact (h s rfl).act (new_swept store) hact hallowed
  have hfirst : ∀ t, some (new serviceName store) = some t → Layered serviceName start t := by
    rintro t ⟨rfl⟩
    exact new_layered store
  exact run_invariant hstep hfirst hg t hrun

omit [Qt] in
/-- With two managers one session is left beside that of the other, if any. -/
lemma Stacked.eq_singleton {utils : Manager → DnsUtilsMacos}
    {sessions : List (Manager × DnsConfig)} (h : Stacked serviceName start utils sessions)
    (hne : ∀ e ∈ sessions, e.1 ≠ who) {e : Manager × DnsConfig} (he : e ∈ sessions) :
    sessions = [e] := by
  have htwo : ∀ a b c : Manager, a ≠ c → b ≠ c → a = b := by
    intro a b c
    cases a <;> cases b <;> cases c <;> simp
  match sessions with
  | [top] => rw [mem_singleton.mp he]
  | top::next::rest =>
    have hsame := htwo top.1 next.1 who (hne top (by simp)) (hne next (by simp))
    exact absurd (by simp [hsame]) h.2.2.1

omit [Qt] in
lemma eq_some_of_dnsFields {entry : Option DnsConfig} {config : DnsConfig}
    (h : dnsFields entry = config) (hdomain : config.domain = localResolverDomain serviceName) :
    entry = some config := by
  cases entry with
  | some other => exact congrArg some h
  | none =>
    have hempty : localResolverDomain serviceName = "" := by
      rw [← hdomain,← h]
      rfl
    rw [localResolverDomain] at hempty
    split_ifs at hempty
    · exact absurd hempty (by decide)
    · exact absurd hempty (by decide)

/-- In a run whose requests are allowed, a restore leaves the entries of the other manager's
session, and after the last restore every service has what it had at first. -/
theorem managers_undisturbed {store : SystemStore} {requests : List (Manager × ResolverRequest)}
    (hg : Guarded (step serviceName) (AllowedIn serviceName) (some (new serviceName store))
      requests) :
    (∀ pre t, pre <+: requests →
      run (step serviceName) (some (new serviceName store)) pre = some t → t.sessions = [] →
        ∀ uuid, dnsFields (t.store.setup uuid) =
          dnsFields ((new serviceName store).store.setup uuid)) ∧
    ∀ pre who t, pre++[(who,.restoreResolvers)] <+: requests →
      run (step serviceName) (some (new serviceName store)) (pre++[(who,.restoreResolvers)]) =
        some t → ∀ e ∈ t.sessions, ∀ uuid, Named t.store.services uuid →
          t.store.setup uuid = some e.2 := by
  have hlayered : ∀ pre t, pre <+: requests →
      run (step serviceName) (some (new serviceName store)) pre = some t →
        Layered serviceName (new serviceName store).store t := by
    rintro pre t ⟨rest,rfl⟩ hrun
    exact layered_run ((guarded_append _ _ _ _ _).mp hg).1 hrun
  constructor
  · intro pre t hp hrun hnone uuid
    rw [(hlayered pre t hp hrun).shown_eq,hnone]
    rfl
  · intro pre who t hp hrun e he uuid hnamed
    have ht := hlayered _ t hp hrun
    have hothers : ∀ e ∈ t.sessions, e.1 ≠ who := by
      rw [run_append,run_cons,run_nil] at hrun
      obtain ⟨s,-,hact⟩ := bind_eq_some_iff.mp hrun
      cases hact
      exact fun e he => (mem_others.mp he).2
    have hone := ht.stacked.eq_singleton hothers he
    have hshown := ht.shown_eq uuid
    rw [hone,shown,if_pos (ht.services_eq ▸ hnamed)] at hshown
    exact eq_some_of_dnsFields hshown (hone ▸ ht.stacked).2.1

end

/-- The router and the daemon write their own resolvers, the daemon over those of the router. -/
def bothUpdate : List (Manager × ResolverRequest) :=
  [(.router,.updateResolvers [.ipv4 0x0a000001] true),
    (.daemon,.updateResolvers [.ipv4 0x0a000002] true)]

theorem nested_sessions_undisturbed : ∃ t, run (@step dottedQt "AlzheimerVPN-service")
        (some (new "AlzheimerVPN-service" homeStore))
        (bothUpdate++[(.daemon,.restoreResolvers),(.router,.restoreResolvers)]) = some t ∧
      ∀ uuid, dnsFields (t.store.setup uuid) =
        dnsFields ((new "AlzheimerVPN-service" homeStore).store.setup uuid) := by
  have hsome : ((run (@step dottedQt "AlzheimerVPN-service")
      (some (new "AlzheimerVPN-service" homeStore))
      (bothUpdate++[(.daemon,.restoreResolvers),(.router,.restoreResolvers)])).map
        fun t => t.sessions) = some [] := by decide +kernel
  obtain ⟨t,ht,hsessions⟩ := map_eq_some_iff.mp hsome
  have hg : Guarded (@step dottedQt "AlzheimerVPN-service") (AllowedIn "AlzheimerVPN-service")
      (some (new "AlzheimerVPN-service" homeStore))
      (bothUpdate++[(.daemon,.restoreResolvers),(.router,.restoreResolvers)]) := by decide +kernel
  exact ⟨t,ht,(@managers_undisturbed dottedQt _ _ _ hg).1 _ t (prefix_refl _) ht hsessions⟩

/-- The daemon puts its resolvers behind its observer. -/
def daemonObserves : List (Manager × ResolverRequest) :=
  [(.daemon,.configureSplitTunnelRules ["example.com"] true),
    (.daemon,.updateResolvers [.ipv4 0x0a000002] true)]

/-- The router restores first: the entry of the daemon is gone, and in the end that of the
router comes back. A restore of a router that has written nothing sweeps away the override of
the daemon's observer. -/
theorem crossed_sessions_disturbed :
    ((run (@step dottedQt "AlzheimerVPN-service") (some (new "AlzheimerVPN-service" homeStore))
        bothUpdate).map fun t => t.store.setup "A") =
      some (some ⟨"alzheimervpn.lan",[],["10.0.0.2"],[]⟩) ∧
    ((run (@step dottedQt "AlzheimerVPN-service") (some (new "AlzheimerVPN-service" homeStore))
        (bothUpdate++[(.router,.restoreResolvers)])).map fun t => (t.sessions,t.store.setup "A")) =
      some ([(.daemon,⟨"alzheimervpn.lan",[],["10.0.0.2"],[]⟩)],homeStore.setup "A") ∧
    ((run (@step dottedQt "AlzheimerVPN-service") (some (new "AlzheimerVPN-service" homeStore))
        (bothUpdate++[(.router,.restoreResolvers),(.daemon,.restoreResolvers)])).map
          fun t => (t.sessions,t.store.setup "A")) =
      some ([],some ⟨"alzheimervpn.lan",[],["10.0.0.1"],[]⟩) ∧
    homeStore.setup "A" = some ⟨"home.lan",["home.lan"],["192.0.2.1"],[]⟩ ∧
    ((run (@step dottedQt "AlzheimerVPN-service") (some (new "AlzheimerVPN-service" homeStore))
        daemonObserves).map fun t => t.store.setup "A") =
      some (some ⟨"alzheimervpn.lan",[],["127.0.0.1"],[]⟩) ∧
    ((run (@step dottedQt "AlzheimerVPN-service") (some (new "AlzheimerVPN-service" homeStore))
        (daemonObserves++[(.router,.restoreResolvers)])).map
          fun t => (t.sessions,t.store.setup "A")) =
      some ([(.daemon,⟨"alzheimervpn.lan",[],["127.0.0.1"],[]⟩)],none) := by
  decide +kernel

end ResolverManagers

end AlzheimerVPN
