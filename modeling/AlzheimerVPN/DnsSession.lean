import AlzheimerVPN.DnsUtilsMacos
import AlzheimerVPN.Runs

/-! Sessions of one `DnsUtilsMacos` object. Updates of the resolvers and of the rules come in
any order, services are added between them, and either `restoreResolvers` ends the session or
the process dies somewhere in it and another one is started. -/
namespace AlzheimerVPN

open List

/-- A service that was not there before comes with an entry of its own, or without one. -/
def SystemStore.addService (store : SystemStore) (uuid : String) (entry : Option DnsConfig) :
    SystemStore :=
  if uuid ∈ store.services then store
  else { store.setDns uuid entry with services := store.services++[uuid] }

namespace DnsUtilsMacos

open Runs

inductive Call
  | updateResolvers (resolvers : List HostAddress) (bound : Bool)
  | configureSplitTunnelRules (rules : List String) (bound : Bool)
  | addService (uuid : String) (entry : Option DnsConfig)

variable [Qt] (serviceName : String)

def call (s : DnsUtilsMacos × SystemStore) : Call → Option (DnsUtilsMacos × SystemStore)
  | .updateResolvers resolvers bound => some (s.1.updateResolvers serviceName s.2 resolvers bound)
  | .configureSplitTunnelRules rules bound =>
    s.1.configureSplitTunnelRules serviceName s.2 rules bound
  | .addService uuid entry => some (s.1,s.2.addService uuid entry)

def step (s : Option (DnsUtilsMacos × SystemStore)) (c : Call) :
    Option (DnsUtilsMacos × SystemStore) :=
  s.bind (call serviceName · c)

/-- The entry that a call writes for the services, if it gets to write one. -/
def writtenConfig (u : DnsUtilsMacos) : Call → Option DnsConfig
  | .updateResolvers resolvers bound => some (u.dnsConfig serviceName resolvers bound)
  | .configureSplitTunnelRules rules bound =>
    let outcome := u.splitRouteObserver.setRules rules
    if outcome.fault.isSome || u.currentResolvers.isEmpty then none
    else some (dnsConfig serviceName { u with splitRouteObserver := outcome.observer }
      u.currentResolvers bound)
  | .addService .. => none

/-- The store without the overrides: only the services that are added change it. -/
def withoutOverrides (store : SystemStore) : Call → SystemStore
  | .updateResolvers .. => store
  | .configureSplitTunnelRules .. => store
  | .addService uuid entry => store.addService uuid entry

section

variable {serviceName} {s t : DnsUtilsMacos × SystemStore} {c : Call}

/-- What a call can do. -/
lemma call_cases (hcall : call serviceName s c = some t) :
    (∃ (u : DnsUtilsMacos) (resolvers : List HostAddress) (bound : Bool),
      u.prevServices = s.1.prevServices ∧ (∀ store, withoutOverrides store c = store) ∧
      writtenConfig serviceName s.1 c = some (u.dnsConfig serviceName resolvers bound) ∧
      t = u.updateResolvers serviceName s.2 resolvers bound) ∨
    writtenConfig serviceName s.1 c = none ∧ t.1.prevServices = s.1.prevServices ∧
      t.1.currentResolvers = s.1.currentResolvers ∧ t.2 = withoutOverrides s.2 c := by
  cases c with
  | updateResolvers resolvers bound =>
    cases hcall
    exact .inl ⟨s.1,resolvers,bound,rfl,fun _ => rfl,rfl,rfl⟩
  | addService uuid entry =>
    cases hcall
    exact .inr ⟨rfl,rfl,rfl,rfl⟩
  | configureSplitTunnelRules rules bound =>
    simp only [call,configureSplitTunnelRules] at hcall
    split_ifs at hcall with hfault hnone
    · cases hcall
      exact .inr ⟨by simp [writtenConfig,hnone],rfl,rfl,rfl⟩
    · cases hcall
      let observer := (s.1.splitRouteObserver.setRules rules).observer
      exact .inl ⟨{ s.1 with splitRouteObserver := observer },s.1.currentResolvers,bound,rfl,
        fun _ => rfl,by simp [writtenConfig,hfault,hnone,observer],rfl⟩

end

section

/-- How an entry has to look after the session, by how it looked before. -/
def Restored (original final : Option DnsConfig) : Prop :=
  match original with
  | none => final = none
  | some config =>
    if isAmneziaLocalResolverConfig serviceName config then final = none
    else dnsFields final = config

/-- What is saved is what the store had, and what is not saved has not been replaced. -/
structure Saves (original : SystemStore) (s : DnsUtilsMacos × SystemStore) : Prop where
  services_eq : s.2.services = original.services
  mem_of_saved : ∀ {uuid saved}, s.1.prevServices[uuid]? = some saved → uuid ∈ original.services
  saved_eq : ∀ {uuid saved}, s.1.prevServices[uuid]? = some saved →
    saved = dnsFields (original.setup uuid)
  setup_eq : ∀ {uuid}, s.1.prevServices[uuid]? = none → s.2.setup uuid = original.setup uuid

variable {serviceName} {original : SystemStore} {s t : DnsUtilsMacos × SystemStore}

omit [Qt] in
lemma Saves.congr {u : DnsUtilsMacos} (h : Saves original s)
    (hu : u.prevServices = s.1.prevServices) : Saves original (u,s.2) := by
  refine ⟨h.services_eq,?_,?_,?_⟩
  · intro uuid saved hsaved
    exact h.mem_of_saved (hu ▸ hsaved)
  · intro uuid saved hsaved
    exact h.saved_eq (hu ▸ hsaved)
  · intro uuid hnone
    exact h.setup_eq (hu ▸ hnone)

lemma Saves.updateResolvers (h : Saves original s) (resolvers : List HostAddress)
    (bound : Bool) : Saves original (s.1.updateResolvers serviceName s.2 resolvers bound) := by
  have hcases : ∀ {uuid saved},
      (s.1.updateResolvers serviceName s.2 resolvers bound).1.prevServices[uuid]? = some saved →
        s.1.prevServices[uuid]? = some saved ∨ s.1.prevServices[uuid]? = none ∧
          Named s.2.services uuid ∧ saved = dnsFields (s.2.setup uuid) := by
    intro uuid saved hsaved
    rw [updateResolvers_prevServices] at hsaved
    cases hprev : s.1.prevServices[uuid]? with
    | some old => simpa [hprev] using hsaved
    | none =>
      rw [hprev,Option.none_or] at hsaved
      split_ifs at hsaved with hnamed
      exact .inr ⟨rfl,hnamed,(Option.some.inj hsaved).symm⟩
  refine ⟨?_,?_,?_,?_⟩
  · rw [updateResolvers_store]
    exact h.services_eq
  · intro uuid saved hsaved
    rcases hcases hsaved with hold | ⟨-,hnamed,-⟩
    · exact h.mem_of_saved hold
    · exact h.services_eq ▸ hnamed.1
  · intro uuid saved hsaved
    rcases hcases hsaved with hold | ⟨hnone,-,hsaved⟩
    · exact h.saved_eq hold
    · rw [hsaved,h.setup_eq hnone]
  · intro uuid hnone
    rw [updateResolvers_prevServices,Option.or_eq_none_iff] at hnone
    have hunnamed : ¬Named s.2.services uuid := by simpa using hnone.2
    rw [updateResolvers_store]
    exact (if_neg hunnamed).trans (h.setup_eq hnone.1)

omit [Qt] in
lemma Saves.addService (h : Saves original s) (uuid : String) (entry : Option DnsConfig) :
    Saves (original.addService uuid entry) (s.1,s.2.addService uuid entry) := by
  rw [SystemStore.addService,SystemStore.addService,h.services_eq]
  split_ifs with hmem
  · exact h
  · refine ⟨rfl,?_,?_,?_⟩
    · intro other saved hsaved
      exact mem_append_left _ (h.mem_of_saved hsaved)
    · intro other saved hsaved
      have hne : other ≠ uuid := fun he => hmem (he ▸ h.mem_of_saved hsaved)
      simpa [SystemStore.setDns,hne] using h.saved_eq hsaved
    · intro other hnone
      by_cases he : other = uuid
      · subst he
        simp [SystemStore.setDns]
      · simpa [SystemStore.setDns,he] using h.setup_eq hnone

omit [Qt] in
lemma Saves.framed (h : Saves original s) (c : Call) :
    Saves (withoutOverrides original c) (s.1,withoutOverrides s.2 c) := by
  cases c with
  | updateResolvers resolvers bound => exact h
  | configureSplitTunnelRules rules bound => exact h
  | addService uuid entry => exact h.addService uuid entry

lemma Saves.call {c : Call} (h : Saves original s) (hcall : call serviceName s c = some t) :
    Saves (withoutOverrides original c) t := by
  rcases call_cases hcall with ⟨u,resolvers,bound,hu,hsame,-,rfl⟩ | ⟨-,hprev,-,hstore⟩
  · rw [hsame]
    have hu : Saves original (u,s.2) := h.congr hu
    exact hu.updateResolvers resolvers bound
  · have ht := (h.framed c).congr hprev
    rwa [← hstore] at ht

omit [Qt] in
/-- The sweep at the end of a restore takes away the local overrides and nothing else. -/
lemma restored_filter {original entry : Option DnsConfig}
    (h : dnsFields entry = dnsFields original) (hnone : original = none → entry = none) :
    Restored serviceName original (entry.filter (!isAmneziaLocalResolverConfig serviceName ·)) := by
  cases original with
  | none => rw [hnone rfl,Restored,Option.filter_none]
  | some config =>
    have hconfig : dnsFields entry = config := h
    simp only [Restored]
    cases entry with
    | none =>
      split_ifs
      · rfl
      · exact hconfig
    | some saved =>
      obtain rfl : saved = config := hconfig
      split_ifs with hlocal
      · simp [Option.filter_some,hlocal]
      · simp [Option.filter_some,hlocal,dnsFields]

omit [Qt] in
/-- What a restore makes of a service. -/
lemma Saves.restored (h : Saves original s) (uuid : String) :
    Restored serviceName (original.setup uuid)
      ((s.1.restoreResolvers serviceName s.2).2.setup uuid) := by
  rw [restoreResolvers_setup]
  cases hprev : s.1.prevServices[uuid]? with
  | none =>
    have hsame := h.setup_eq hprev
    rw [Option.map_none,Option.getD_none,hsame]
    exact restored_filter rfl id
  | some saved =>
    have hsaved := h.saved_eq hprev
    rw [Option.map_some,Option.getD_some]
    refine restored_filter ((dnsFields_putBack saved).trans hsaved) ?_
    intro hnone
    rw [hsaved,hnone]
    rfl

lemma run_step_none (calls : List Call) : run (step serviceName) none calls = none := by
  induction calls with
  | nil => rfl
  | cons c calls ih => exact ih

lemma Saves.run {calls : List Call} (h : Saves original s)
    (hrun : run (step serviceName) (some s) calls = some t) :
    Saves (Runs.run withoutOverrides original calls) t := by
  induction calls generalizing original s with
  | nil =>
    cases hrun
    exact h
  | cons c calls ih =>
    rw [run_cons,step,Option.bind_some] at hrun
    cases hcall : DnsUtilsMacos.call serviceName s c with
    | none =>
      rw [hcall,run_step_none] at hrun
      cases hrun
    | some next =>
      rw [hcall] at hrun
      exact ih (h.call hcall) hrun

/-- At the end of a session each service has what it had before its first override, apart from
leftovers of the local resolver, and the restore can be repeated. -/
theorem restoreResolvers_ends_session {u : DnsUtilsMacos} {store : SystemStore} {calls : List Call}
    (hu : u.prevServices = ∅) (hrun : Runs.run (step serviceName) (some (u,store)) calls = some t) :
    (∀ uuid, Restored serviceName ((Runs.run withoutOverrides store calls).setup uuid)
      ((t.1.restoreResolvers serviceName t.2).2.setup uuid)) ∧
    (t.1.restoreResolvers serviceName t.2).1.restoreResolvers serviceName
      (t.1.restoreResolvers serviceName t.2).2 = t.1.restoreResolvers serviceName t.2 := by
  have hstart : Saves store (u,store) := by
    refine ⟨rfl,?_,?_,?_⟩
    · intro uuid saved hsaved
      simp [hu] at hsaved
    · intro uuid saved hsaved
      simp [hu] at hsaved
    · intro uuid _
      rfl
  exact ⟨(hstart.run hrun).restored,restoreResolvers_restoreResolvers⟩

/-- One service with an entry of its own. -/
def homeStore : SystemStore where
  services := ["A"]
  setup uuid := if uuid = "A" then some ⟨"home.lan",["home.lan"],["192.0.2.1"],[]⟩ else none
  state _ := none

/-- The observer is started, and stopped again by a second set of rules. -/
def busySession : List Call :=
  [.configureSplitTunnelRules ["example.com"] true,.updateResolvers [.ipv4 0x0a000001] true,
    .addService "B" none,.configureSplitTunnelRules [] true]

omit [Qt] in
theorem busy_session_restored :
    ∃ t, Runs.run (@step dottedQt "AlzheimerVPN-service") (some (⟨∅,[],.initial⟩,homeStore))
        busySession = some t ∧
      t.2.setup "A" = some ⟨"alzheimervpn.lan",[],["10.0.0.1"],[]⟩ ∧
      t.2.setup "B" = some ⟨"alzheimervpn.lan",[],["10.0.0.1"],[]⟩ ∧
      dnsFields ((t.1.restoreResolvers "AlzheimerVPN-service" t.2).2.setup "A") =
        ⟨"home.lan",["home.lan"],["192.0.2.1"],[]⟩ ∧
      (t.1.restoreResolvers "AlzheimerVPN-service" t.2).2.setup "B" = none := by
  have hsome : ((Runs.run (@step dottedQt "AlzheimerVPN-service")
      (some (⟨∅,[],.initial⟩,homeStore)) busySession).map fun t => (t.2.setup "A",t.2.setup "B")) =
        some (some ⟨"alzheimervpn.lan",[],["10.0.0.1"],[]⟩,
          some ⟨"alzheimervpn.lan",[],["10.0.0.1"],[]⟩) := by decide
  obtain ⟨t,ht,hsetup⟩ := Option.map_eq_some_iff.mp hsome
  obtain ⟨hA,hB⟩ := Prod.mk.inj hsetup
  have hend := (@restoreResolvers_ends_session dottedQt _ _ _ _ _ rfl ht).1
  exact ⟨t,ht,hA,hB,hend "A",hend "B"⟩

end

section

variable (s : DnsUtilsMacos × SystemStore)

/-- The store that is left by a process that dies in a call, after `k` rounds of its loop. -/
def cutOff (c : Call) (k : ℕ) : SystemStore :=
  match writtenConfig serviceName s.1 c with
  | none => s.2
  | some config =>
    ((s.2.services.take k).foldl (overrideService config) (s.1.prevServices,s.2)).2

/-- The entries that the call has written by then. -/
def writes (c : Call) (k : ℕ) : List (String × DnsConfig) :=
  match writtenConfig serviceName s.1 c with
  | none => []
  | some config => ((s.2.services.take k).filter fun uuid => !uuid.isEmpty).map (·,config)

/-- A process and the store, with the entries that it has written so far. -/
abbrev Logged := (DnsUtilsMacos × SystemStore) × List (String × DnsConfig)

def logStep (p : Option Logged) (c : Call) : Option Logged :=
  p.bind fun p => (call serviceName p.1 c).map
    (·,p.2++writes serviceName p.1 c p.1.2.services.length)

/-- After the start of another process no entry is left that the dead one wrote. -/
def Clean (store : SystemStore) (written : List (String × DnsConfig)) : Prop :=
  ∀ uuid config, (new serviceName store).2.setup uuid = some config → (uuid,config) ∉ written

/-- The rules that the observer takes from a list of texts. -/
def hostRules (rules : List String) : List SplitTunnelRule :=
  (rules.map SplitTunnelRule.fromText).filter fun rule => rule.isValid && rule.type ≠ .ipSubnet

/-- The resolvers are put behind the observer, or they are its address from the start. -/
def Hidden (rules : List SplitTunnelRule) (resolvers : List HostAddress) (bound : Bool) : Prop :=
  Observes rules resolvers bound ∨ resolvers.map HostAddress.toString = ["127.0.0.1"]

/-- When a call writes nothing that a later sweep would pass over. -/
def Recognised (c : Call) : Prop :=
  (∀ uuid ∈ s.2.services, uuid.isEmpty) ∨
  match c with
  | .updateResolvers resolvers bound => Hidden s.1.splitRouteObserver.rules resolvers bound
  | .configureSplitTunnelRules rules bound =>
    (∃ text ∈ rules, SplitTunnelRule.hostParts text = []) ∨ s.1.currentResolvers = [] ∨
      Hidden (hostRules rules) s.1.currentResolvers bound
  | .addService .. => True

variable {serviceName} {s t : DnsUtilsMacos × SystemStore} {c : Call}

lemma setRules_fault_iff {observer : DnsSplitRouteObserver} {rules : List String} :
    (observer.setRules rules).fault.isSome ↔
      ∃ text ∈ rules, SplitTunnelRule.hostParts text = [] := by
  rw [DnsSplitRouteObserver.setRules]
  split_ifs with h
  · simpa using h
  · simpa using h

lemma setRules_rules {observer : DnsSplitRouteObserver} {rules : List String}
    (h : ¬(observer.setRules rules).fault.isSome) :
    (observer.setRules rules).observer.rules = hostRules rules := by
  rw [DnsSplitRouteObserver.setRules] at h ⊢
  split_ifs at h ⊢ with hparts
  · exact absurd rfl h
  · rfl

variable (serviceName) in
/-- The condition of a call speaks about the entry that the call writes. -/
lemma recognised_iff : Recognised s c ↔ (∀ uuid ∈ s.2.services, uuid.isEmpty) ∨
      ∀ config, writtenConfig serviceName s.1 c = some config →
        isAmneziaLocalResolverConfig serviceName config := by
  refine or_congr_right ?_
  cases c with
  | updateResolvers resolvers bound =>
    simp only [writtenConfig,Option.some.injEq,forall_eq',dnsConfig_override]
    rfl
  | addService uuid entry => simp [writtenConfig]
  | configureSplitTunnelRules rules bound =>
    by_cases hskip : (s.1.splitRouteObserver.setRules rules).fault.isSome ∨
        s.1.currentResolvers.isEmpty
    · have hnone : writtenConfig serviceName s.1 (.configureSplitTunnelRules rules bound) = none :=
        if_pos (by simpa using hskip)
      rw [setRules_fault_iff,List.isEmpty_iff] at hskip
      simp only [hnone,reduceCtorEq,false_implies,implies_true,iff_true]
      exact or_assoc.mp (.inl hskip)
    · have hsome : writtenConfig serviceName s.1 (.configureSplitTunnelRules rules bound) = _ :=
        if_neg (by simpa using hskip)
      have hrules := setRules_rules (fun h => hskip (.inl h))
      rw [hsome]
      simp only [Option.some.injEq,forall_eq',dnsConfig_override,hrules]
      rw [setRules_fault_iff,List.isEmpty_iff,not_or] at hskip
      rw [or_iff_right hskip.1,or_iff_right hskip.2]
      rfl

lemma mem_writes {k : ℕ} {uuid : String} {config : DnsConfig} :
    (uuid,config) ∈ writes serviceName s c k ↔
      writtenConfig serviceName s.1 c = some config ∧ Named (s.2.services.take k) uuid := by
  rw [writes]
  cases writtenConfig serviceName s.1 c with
  | none => simp
  | some written =>
    simp only [mem_map,mem_filter,Bool.not_eq_true',Prod.mk.injEq,Option.some.injEq]
    constructor
    · rintro ⟨uuid,hnamed,rfl,rfl⟩
      exact ⟨rfl,hnamed⟩
    · rintro ⟨rfl,hnamed⟩
      exact ⟨uuid,hnamed,rfl,rfl⟩

lemma Recognised.writes (h : Recognised s c) {k : ℕ} {e : String × DnsConfig}
    (he : e ∈ DnsUtilsMacos.writes serviceName s c k) :
    isAmneziaLocalResolverConfig serviceName e.2 := by
  obtain ⟨hwritten,hmem,hempty⟩ := mem_writes.mp he
  rcases (recognised_iff serviceName).mp h with hnone | hlocal
  · have := hnone e.1 (mem_of_mem_take hmem)
    simp [hempty] at this
  · exact hlocal e.2 hwritten

lemma recognised_of_clean {written : List (String × DnsConfig)}
    (h : Clean serviceName (cutOff serviceName s c s.2.services.length)
      (written++writes serviceName s c s.2.services.length)) : Recognised s c := by
  refine (recognised_iff serviceName).mpr (or_iff_not_imp_left.mpr ?_)
  intro hservice config hwritten
  push Not at hservice
  obtain ⟨uuid,hmem,hempty⟩ := hservice
  have hnamed : Named s.2.services uuid := ⟨hmem,Bool.eq_false_of_not_eq_true hempty⟩
  by_contra hlocal
  -- The sweep passes over the entry that the whole loop has left.
  refine h uuid config ?_ (mem_append_right _ (mem_writes.mpr ⟨hwritten,?_⟩))
  · simp only [new,SystemStore.removeStaleLocalResolverOverrides,cutOff,hwritten,take_length]
    rw [(foldl_overrideService _ _ s.2.services).1]
    simp only [if_pos hnamed]
    simp [Option.filter_some,hlocal]
  · rw [take_length]
    exact hnamed

omit [Qt] in
lemma clean_of_local {store : SystemStore} {written : List (String × DnsConfig)}
    (h : ∀ e ∈ written, isAmneziaLocalResolverConfig serviceName e.2) :
    Clean serviceName store written := by
  intro uuid config hleft hmem
  have hlocal := h _ hmem
  obtain ⟨-,hkept⟩ := Option.filter_eq_some_iff.mp hleft
  simp [hlocal] at hkept

/-- The condition on each call of a run. -/
def RecognisedIn (p : Option Logged) (c : Call) : Prop :=
  ∀ q, p = some q → Recognised q.1 c

/-- All that has been written can be told from the entries of others. -/
def AllLocal (serviceName : String) (p : Option Logged) : Prop :=
  ∀ q, p = some q → ∀ e ∈ q.2, isAmneziaLocalResolverConfig serviceName e.2

variable (serviceName) in
lemma AllLocal.logStep (p : Option Logged) (c : Call) (h : AllLocal serviceName p)
    (hc : RecognisedIn p c) : AllLocal serviceName (DnsUtilsMacos.logStep serviceName p c) := by
  intro q hq e he
  obtain ⟨p,rfl,hp⟩ := Option.bind_eq_some_iff.mp hq
  obtain ⟨t,-,rfl⟩ := Option.map_eq_some_iff.mp hp
  rcases mem_append.mp he with hold | hnew
  · exact h p rfl e hold
  · exact (hc p rfl).writes hnew

variable (s) in
/-- Wherever the process dies, the next one removes what it wrote: this holds if every call
puts its resolvers behind the observer, and only then. -/
theorem crash_leaves_no_override_iff (serviceName : String) (calls : List Call) :
    (∀ pre c k p, pre++[c] <+: calls → run (logStep serviceName) (some (s,[])) pre = some p →
      Clean serviceName (cutOff serviceName p.1 c k) (p.2++writes serviceName p.1 c k)) ↔
    Guarded (logStep serviceName) RecognisedIn (some (s,[])) calls := by
  constructor
  · intro h pre c hp q hq
    exact recognised_of_clean (h pre c _ q hp hq)
  · intro h pre c k p hp hrun
    obtain ⟨rest,rfl⟩ := hp
    have hpre := ((guarded_append _ _ _ _ _).mp ((guarded_append _ _ _ _ _).mp h).1).1
    have hlocal := run_invariant (AllLocal.logStep serviceName) (s := some (s,[]))
      (by simp [AllLocal]) hpre
    refine clean_of_local fun e he => ?_
    rcases mem_append.mp he with hold | hnew
    · exact hlocal p hrun e hold
    · exact (h pre c (prefix_append _ _) p hrun).writes hnew

omit [Qt] in
/-- Without rules the resolvers are written as they are, and the next process keeps them. -/
theorem direct_resolvers_left :
    let s : DnsUtilsMacos × SystemStore := (⟨∅,[],.initial⟩,homeStore)
    let update : Call := .updateResolvers [.ipv4 0x0a000001] true
    let written : DnsConfig := ⟨"alzheimervpn.lan",[],["10.0.0.1"],[]⟩
    (new "AlzheimerVPN-service" (@cutOff dottedQt "AlzheimerVPN-service" s update 1)).2.setup "A" =
        some written ∧
      ("A",written) ∈ @writes dottedQt "AlzheimerVPN-service" s update 1 ∧
      ¬Clean "AlzheimerVPN-service" (@cutOff dottedQt "AlzheimerVPN-service" s update 1)
        (@writes dottedQt "AlzheimerVPN-service" s update 1) := by
  intro s update written
  have hleft : (new "AlzheimerVPN-service"
      (@cutOff dottedQt "AlzheimerVPN-service" s update 1)).2.setup "A" = some written := by
    decide
  have hwritten : ("A",written) ∈ @writes dottedQt "AlzheimerVPN-service" s update 1 := by
    decide
  exact ⟨hleft,hwritten,fun h => h _ _ hleft hwritten⟩

end

end DnsUtilsMacos

end AlzheimerVPN
