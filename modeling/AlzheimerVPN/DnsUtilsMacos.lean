import AlzheimerVPN.SiteList

/-! `DnsUtilsMacos`: the DNS entries of the network services are replaced for a session and
put back at its end. The store of the system keeps for each service the entry of its setup
and that of its state; an empty field of an entry and a missing one are the same here. The
services are those whose id has the form `[0-9A-F-]+` that both key patterns ask for. -/
namespace AlzheimerVPN

open List

structure DnsConfig where
  domain : String
  search : List String
  servers : List String
  sortlist : List String
  deriving DecidableEq, Repr

/-- The entry without any field, and what is saved of a service that has no entry. -/
def DnsConfig.empty : DnsConfig := ⟨"",[],[],[]⟩

def DnsConfig.isValid (config : DnsConfig) : Bool :=
  !config.domain.isEmpty || !config.search.isEmpty || !config.servers.isEmpty ||
    !config.sortlist.isEmpty

/-- The fields of an entry that may be missing. -/
def dnsFields (entry : Option DnsConfig) : DnsConfig := entry.getD .empty

def localResolverDomain (serviceName : String) : String :=
  if serviceName = "AmneziaVPN-service" then "lan" else "alzheimervpn.lan"

def isAmneziaLocalResolverConfig (serviceName : String) (config : DnsConfig) : Bool :=
  config.servers == ["127.0.0.1"] && config.domain == localResolverDomain serviceName

structure SystemStore where
  /-- The services with a key of their own in the setup. -/
  services : List String
  setup : String → Option DnsConfig
  state : String → Option DnsConfig

namespace SystemStore

def setDns (store : SystemStore) (uuid : String) (entry : Option DnsConfig) : SystemStore :=
  { store with setup := Function.update store.setup uuid entry }

def removeStaleLocalResolverOverrides (serviceName : String) (store : SystemStore) : SystemStore :=
  { store with
    setup := fun uuid => (store.setup uuid).filter (!isAmneziaLocalResolverConfig serviceName ·)
    state := fun uuid => (store.state uuid).filter (!isAmneziaLocalResolverConfig serviceName ·) }

end SystemStore

lemma DnsSplitRouteObserver.start_isActive (observer : DnsSplitRouteObserver)
    (upstreamServers matchedUpstreamServers : List HostAddress) (bound : Bool) :
    (observer.start upstreamServers matchedUpstreamServers bound).isActive =
      (!observer.rules.isEmpty && !(appendUsableServers upstreamServers).isEmpty && bound) := by
  rw [← Bool.not_or]
  rw [start]
  split
  · next h =>
    have hnone : (observer.rules.isEmpty || (appendUsableServers upstreamServers).isEmpty) := h
    rw [hnone]
    rfl
  · next h =>
    have hsome : (observer.rules.isEmpty || (appendUsableServers upstreamServers).isEmpty) = false :=
      Bool.eq_false_of_not_eq_true h
    rw [hsome]
    cases bound with
    | true => rfl
    | false => rfl

structure DnsUtilsMacos where
  prevServices : QMap DnsConfig
  currentResolvers : List HostAddress
  splitRouteObserver : DnsSplitRouteObserver

namespace DnsUtilsMacos

variable (serviceName : String)

/-- The constructor. -/
def new (store : SystemStore) : DnsUtilsMacos × SystemStore :=
  (⟨∅,[],.initial⟩,store.removeStaleLocalResolverOverrides serviceName)

def backupService (store : SystemStore) (prevServices : QMap DnsConfig) (uuid : String) :
    QMap DnsConfig :=
  if prevServices.contains uuid then prevServices
  else prevServices.insert uuid (dnsFields (store.setup uuid))

/-- One round of the loop over the services. -/
def overrideService (dnsConfig : DnsConfig) (s : QMap DnsConfig × SystemStore) (uuid : String) :
    QMap DnsConfig × SystemStore :=
  if uuid.isEmpty then s
  else (backupService s.2 s.1 uuid,s.2.setDns uuid (some dnsConfig))

section

variable [Qt] (u : DnsUtilsMacos) (store : SystemStore)

def backedUpResolvers : List HostAddress :=
  DnsSplitRouteObserver.appendUsableServers
    (u.prevServices.toList.flatMap fun entry => entry.2.servers.map Qt.hostAddress)

/-- The observer after it has been asked to start; it is active if it could be. -/
def startedObserver (resolvers : List HostAddress) (bound : Bool) : DnsSplitRouteObserver :=
  let observer := u.splitRouteObserver.start resolvers u.backedUpResolvers bound
  if observer.isActive then observer else observer.stop

def dnsConfig (resolvers : List HostAddress) (bound : Bool) : DnsConfig where
  domain := localResolverDomain serviceName
  search := []
  servers :=
    if (u.startedObserver resolvers bound).isActive then ["127.0.0.1"]
    else resolvers.map HostAddress.toString
  sortlist := []

def updateResolvers (resolvers : List HostAddress) (bound : Bool) : DnsUtilsMacos × SystemStore :=
  let services := store.services.foldl (overrideService (u.dnsConfig serviceName resolvers bound))
    (u.prevServices,store)
  (⟨services.1,resolvers,u.startedObserver resolvers bound⟩,services.2)

/-- A rule text without a host part ends the process. -/
def configureSplitTunnelRules (rules : List String) (bound : Bool) :
    Option (DnsUtilsMacos × SystemStore) :=
  let outcome := u.splitRouteObserver.setRules rules
  if outcome.fault.isSome then none
  else
    let u := { u with splitRouteObserver := outcome.observer }
    if u.currentResolvers.isEmpty then some (u,store)
    else some (u.updateResolvers serviceName store u.currentResolvers bound)

omit [Qt] in
def restoreService (store : SystemStore) (entry : String × DnsConfig) : SystemStore :=
  store.setDns entry.1 (if entry.2.isValid then some entry.2 else none)

def restoreResolvers : DnsUtilsMacos × SystemStore :=
  (⟨∅,[],u.splitRouteObserver.stop⟩,
    (u.prevServices.toList.foldl restoreService store).removeStaleLocalResolverOverrides serviceName)

end

section

variable {serviceName : String} {u : DnsUtilsMacos} {store : SystemStore}
  {prevServices : QMap DnsConfig} {config : DnsConfig} {uuid other : String}

/-- The services that a loop over these ids gets to. -/
def Named (services : List String) (uuid : String) : Prop :=
  uuid ∈ services ∧ uuid.isEmpty = false

instance (services : List String) : DecidablePred (Named services) :=
  fun _ => inferInstanceAs (Decidable (_ ∧ _))

lemma named_cons {services : List String} :
    Named (other::services) uuid ↔ uuid = other ∧ other.isEmpty = false ∨ Named services uuid := by
  rw [Named,Named,mem_cons,or_and_right]
  refine or_congr_left (and_congr_right fun h => ?_)
  rw [h]

lemma backupService_getElem? : (backupService store prevServices other)[uuid]? =
      prevServices[uuid]?.or
        (if uuid = other then some (dnsFields (store.setup uuid)) else none) := by
  rw [backupService,Std.ExtTreeMap.contains_eq_isSome_getElem?]
  by_cases hk : uuid = other
  · subst hk
    cases h : prevServices[uuid]? with
    | none => simp
    | some saved => simp [h]
  · split_ifs
    · rw [Option.or_none]
    · rw [getElem?_insert_eq,if_neg hk,Option.or_none]

variable (store prevServices) in
/-- The loop over the services: each entry is saved before it is first replaced. -/
lemma foldl_overrideService (services : List String) :
    (services.foldl (overrideService config) (prevServices,store)).2 =
      { store with
        setup := fun uuid => if Named services uuid then some config else store.setup uuid } ∧
    ∀ uuid, (services.foldl (overrideService config) (prevServices,store)).1[uuid]? =
      prevServices[uuid]?.or
        (if Named services uuid then some (dnsFields (store.setup uuid)) else none) := by
  induction services generalizing prevServices store with
  | nil => simp [Named]
  | cons e services ih =>
    rw [foldl_cons,overrideService]
    split_ifs with he
    · simpa [named_cons,he] using ih store prevServices
    · obtain ⟨hstore,hprev⟩ :=
        ih (store.setDns e (some config)) (backupService store prevServices e)
      refine ⟨hstore.trans ?_,fun uuid => (hprev uuid).trans ?_⟩
      · simp only [SystemStore.setDns,SystemStore.mk.injEq,true_and,and_true]
        funext uuid
        by_cases hk : uuid = e <;> simp [named_cons,hk,he,Function.update_of_ne]
      · rw [backupService_getElem?]
        by_cases hk : uuid = e
        · subst hk
          simp [named_cons,he]
        · simp [named_cons,hk,SystemStore.setDns,Function.update_of_ne]

variable [Qt] {resolvers : List HostAddress} {bound : Bool}

lemma updateResolvers_store : (u.updateResolvers serviceName store resolvers bound).2 =
      { store with
        setup := fun uuid =>
          if Named store.services uuid then some (u.dnsConfig serviceName resolvers bound)
          else store.setup uuid } :=
  (foldl_overrideService _ _ store.services).1

lemma updateResolvers_prevServices :
    (u.updateResolvers serviceName store resolvers bound).1.prevServices[uuid]? =
      u.prevServices[uuid]?.or
        (if Named store.services uuid then some (dnsFields (store.setup uuid)) else none) :=
  (foldl_overrideService _ _ store.services).2 uuid

/-- Whether the observer can be started, by what it needs for that. -/
def Observes (rules : List SplitTunnelRule) (resolvers : List HostAddress) (bound : Bool) : Prop :=
  rules ≠ [] ∧
    (∃ server ∈ resolvers, server.isIPv4 ∧ server ≠ DnsSplitRouteObserver.localHost) ∧ bound

omit [Qt] in
lemma appendUsableServers_isEmpty :
    (DnsSplitRouteObserver.appendUsableServers resolvers).isEmpty = false ↔
      ∃ server ∈ resolvers, server.isIPv4 ∧ server ≠ DnsSplitRouteObserver.localHost := by
  rw [isEmpty_eq_false_iff_exists_mem]
  simp [DnsSplitRouteObserver.appendUsableServers,mem_eraseDups]

lemma startedObserver_isActive : (u.startedObserver resolvers bound).isActive ↔
      Observes u.splitRouteObserver.rules resolvers bound := by
  have hstarted : (u.startedObserver resolvers bound).isActive =
      (u.splitRouteObserver.start resolvers u.backedUpResolvers bound).isActive := by
    rw [startedObserver]
    cases h : (u.splitRouteObserver.start resolvers u.backedUpResolvers bound).isActive with
    | true => exact h
    | false => rfl
  rw [hstarted,DnsSplitRouteObserver.start_isActive,Observes,← appendUsableServers_isEmpty,
    ← isEmpty_eq_false_iff]
  simp [and_assoc]

/-- The form of the entries that a call writes. -/
lemma dnsConfig_override :
    isAmneziaLocalResolverConfig serviceName (u.dnsConfig serviceName resolvers bound) ↔
      Observes u.splitRouteObserver.rules resolvers bound ∨
        resolvers.map HostAddress.toString = ["127.0.0.1"] := by
  rw [← startedObserver_isActive]
  by_cases h : (u.startedObserver resolvers bound).isActive = true <;>
    simp [isAmneziaLocalResolverConfig,dnsConfig,h]

end

section

variable {serviceName : String} {u : DnsUtilsMacos} {store : SystemStore} {uuid : String}

/-- The entry of a service as it is saved and put back: one without fields is removed. -/
def putBack (saved : DnsConfig) : Option DnsConfig := if saved.isValid then some saved else none

lemma dnsFields_putBack (saved : DnsConfig) : dnsFields (putBack saved) = saved := by
  rw [putBack]
  split_ifs with hvalid
  · rfl
  · obtain ⟨domain,search,servers,sortlist⟩ := saved
    simp only [DnsConfig.isValid,Bool.or_eq_true,Bool.not_eq_true',not_or,Bool.not_eq_false,
      List.isEmpty_iff,String.isEmpty_iff] at hvalid
    obtain ⟨⟨⟨rfl,rfl⟩,rfl⟩,rfl⟩ := hvalid
    rfl

variable (store uuid) in
lemma foldl_restoreService {entries : List (String × DnsConfig)}
    (h : (entries.map Prod.fst).Nodup) :
    (entries.foldl restoreService store).setup uuid =
      ((entries.lookup uuid).map putBack).getD (store.setup uuid) ∧
    (entries.foldl restoreService store).state = store.state ∧
    (entries.foldl restoreService store).services = store.services := by
  induction entries generalizing store with
  | nil => exact ⟨rfl,rfl,rfl⟩
  | cons e entries ih =>
    obtain ⟨he,hrest⟩ := nodup_cons.mp h
    obtain ⟨hsetup,hstate,hservices⟩ := ih (restoreService store e) hrest
    refine ⟨?_,hstate,hservices⟩
    rw [foldl_cons,hsetup,lookup_cons]
    by_cases hk : uuid = e.1
    · subst hk
      rw [lookup_eq_none_iff_not_mem.mpr he,beq_self_eq_true]
      exact Function.update_self ..
    · rw [beq_eq_false_iff_ne.mpr hk]
      cases entries.lookup uuid with
      | some saved => rfl
      | none => exact Function.update_of_ne hk ..

lemma restoreResolvers_store : (u.restoreResolvers serviceName store).2 = ({ store with
          setup := fun uuid => (u.prevServices[uuid]?.map putBack).getD (store.setup uuid) } :
        SystemStore).removeStaleLocalResolverOverrides serviceName := by
  have hnodup := nodup_keys_toList u.prevServices id
  have hlookup := lookup_toList_map u.prevServices id
  simp only [id_eq,Prod.mk.eta,map_id',Option.map_id_fun] at hnodup hlookup
  have hfold := fun uuid => foldl_restoreService store uuid hnodup
  simp only [hlookup] at hfold
  rw [restoreResolvers,SystemStore.removeStaleLocalResolverOverrides,(hfold "").2.1,(hfold "").2.2]
  simp only [(hfold _).1]
  rfl

/-- What a restore leaves of the entry of a service. -/
lemma restoreResolvers_setup : (u.restoreResolvers serviceName store).2.setup uuid =
      ((u.prevServices[uuid]?.map putBack).getD (store.setup uuid)).filter
        (!isAmneziaLocalResolverConfig serviceName ·) := by
  rw [restoreResolvers_store]
  rfl

lemma removeStale_removeStale :
    (store.removeStaleLocalResolverOverrides serviceName).removeStaleLocalResolverOverrides
      serviceName = store.removeStaleLocalResolverOverrides serviceName := by
  simp only [SystemStore.removeStaleLocalResolverOverrides,Option.filter_filter,Bool.and_self]

/-- A second restore finds nothing to put back, and nothing to remove. -/
lemma restoreResolvers_restoreResolvers :
    (u.restoreResolvers serviceName store).1.restoreResolvers serviceName
      (u.restoreResolvers serviceName store).2 = u.restoreResolvers serviceName store := by
  refine Prod.ext rfl ?_
  calc ((u.restoreResolvers serviceName store).1.restoreResolvers serviceName
        (u.restoreResolvers serviceName store).2).2
      = (u.restoreResolvers serviceName store).2.removeStaleLocalResolverOverrides serviceName := by
        rw [restoreResolvers_store]
        simp only [restoreResolvers,Std.ExtTreeMap.getElem?_empty,Option.map_none,Option.getD_none]
    _ = (u.restoreResolvers serviceName store).2 := removeStale_removeStale

end

end DnsUtilsMacos

end AlzheimerVPN
