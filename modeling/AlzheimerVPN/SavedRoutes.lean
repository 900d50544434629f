import AlzheimerVPN.XrayRouting

/-! The routes that `RouterMac` records while it adds them, and what is left of the kernel's
table once the recorded routes are deleted. -/
namespace AlzheimerVPN

open IpText KernelRoutes List

/-- `m_addedRoutes`, each with its gateway, beside the table of the kernel. -/
structure SavedRoutes where
  addedRoutes : List (String × String)
  table : KernelRoutes

namespace SavedRoutes

section

variable [Qt] (s : SavedRoutes)

/-- A route that is there already is recorded like a new one. -/
def routeAdd (ipWithSubnet gw : String) : SavedRoutes :=
  let added := KernelRoutes.routeAdd ipWithSubnet gw s.table
  ⟨if added.1 then s.addedRoutes++[(ipWithSubnet,gw)] else s.addedRoutes,added.2⟩

def routeAddList (gw : String) (ips : List String) : SavedRoutes :=
  ips.foldl (fun s ip => s.routeAdd ip gw) s

def clearSavedRoutes : SavedRoutes :=
  ⟨[],s.addedRoutes.foldl (fun table r => routeDelete r.1 r.2 table) s.table⟩

inductive Call
  | routeAdd (ipWithSubnet gw : String)
  | routeAddList (gw : String) (ips : List String)

def call : Call → SavedRoutes
  | .routeAdd ipWithSubnet gw => s.routeAdd ipWithSubnet gw
  | .routeAddList gw ips => s.routeAddList gw ips

/-- The requests of a call, each a destination and a gateway. -/
def Call.requests : Call → List (String × String)
  | .routeAdd ipWithSubnet gw => [(ipWithSubnet,gw)]
  | .routeAddList gw ips => ips.map (·,gw)

/-- The route of a request that is not refused. -/
def route (r : String × String) : Option (Route 32 String) :=
  if checkIPv4Format r.2 then (destination r.1).map (⟨·,r.2⟩) else none

/-- What deleting a recorded route takes out of the table. -/
def cleared (r : String × String) : Option (AddressRange 32) :=
  if r.1 = "0.0.0.0/0" then none else (route r).map Route.destination

lemma routeAdd_eq (r : String × String) : s.routeAdd r.1 r.2 =
    ⟨s.addedRoutes++[r].filter fun r => (route r).isSome,
      ([r].filterMap route).foldl RouteTable.add s.table⟩ := by
  rw [routeAdd,KernelRoutes.routeAdd]
  by_cases hgw : checkIPv4Format r.2
  · cases hrange : destination r.1 <;> simp [route,hgw,hrange]
  · simp [route,hgw]

lemma foldl_routeAdd (requests : List (String × String)) :
    requests.foldl (fun s r => s.routeAdd r.1 r.2) s =
      ⟨s.addedRoutes++requests.filter fun r => (route r).isSome,
        (requests.filterMap route).foldl RouteTable.add s.table⟩ := by
  induction requests generalizing s with
  | nil => simp
  | cons r requests ih =>
    have hcons : r::requests = [r]++requests := rfl
    rw [foldl_cons,ih,routeAdd_eq,hcons,filter_append,filterMap_append,foldl_append,append_assoc]

lemma foldl_call (calls : List Call) : calls.foldl call s =
    (calls.flatMap Call.requests).foldl (fun s r => s.routeAdd r.1 r.2) s := by
  induction calls generalizing s with
  | nil => rfl
  | cons c calls ih =>
    rw [foldl_cons,ih,flatMap_cons,foldl_append]
    cases c with
    | routeAdd ipWithSubnet gw => rfl
    | routeAddList gw ips => rw [call,routeAddList,Call.requests,foldl_map]

lemma clearSavedRoutes_table : s.clearSavedRoutes.table =
    (s.addedRoutes.filterMap cleared).foldl RouteTable.delete s.table := by
  rw [clearSavedRoutes,foldl_filterMap]
  refine congrArg (List.foldl · s.table s.addedRoutes) (funext₂ fun table r => ?_)
  rw [routeDelete,cleared,route]
  by_cases hgw : checkIPv4Format r.2
  · cases hrange : destination r.1 <;> by_cases hr : r.1 = "0.0.0.0/0" <;> simp [hgw,hr]
  · by_cases hr : r.1 = "0.0.0.0/0" <;> simp [hgw,hr]

/-- Clearing gives the table back exactly when it deletes the destinations of the accepted
requests that were not routed before: none that was, and the default route is never deleted
under its own name. -/
theorem clearSavedRoutes_restores_iff (table : KernelRoutes) (calls : List Call) :
    (calls.foldl call ⟨[],table⟩).clearSavedRoutes.table = table ↔
      ∀ r ∈ (calls.flatMap Call.requests).filterMap route, table.Routed r.destination ↔
        ∀ d ∈ (calls.flatMap Call.requests).filterMap cleared, r.destination.same d = false := by
  have hcleared : ((calls.flatMap Call.requests).filter fun r => (route r).isSome).filterMap
      cleared = (calls.flatMap Call.requests).filterMap cleared := by
    rw [filterMap_filter]
    refine filterMap_congr fun r _ => ?_
    cases hr : route r <;> simp [cleared,hr]
  rw [clearSavedRoutes_table,foldl_call,foldl_routeAdd,nil_append,hcleared]
  refine RouteTable.foldl_delete_foldl_add_iff (fun d hd => ?_) table
  obtain ⟨r,hr,hd⟩ := mem_filterMap.mp hd
  rw [cleared] at hd
  split at hd
  · cases hd
  · obtain ⟨q,hq,rfl⟩ := Option.map_eq_some_iff.mp hd
    exact ⟨q,mem_filterMap.mpr ⟨r,hr,hq⟩,rfl⟩

end

/-- A route of the user that a request repeats is gone afterwards. -/
theorem repeated_route_deleted :
    (@clearSavedRoutes dottedQt ([.routeAdd "198.51.100.0/24" "10.8.0.1"].foldl (@call dottedQt)
      ⟨[],[⟨⟨0xc6336400#32,24⟩,"192.168.1.1"⟩]⟩)).table = [] := by
  decide +kernel

end SavedRoutes
end AlzheimerVPN
