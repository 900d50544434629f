import Mathlib.Data.List.MinMax
import AlzheimerVPN.Address

/-! Routing tables. A destination is routed once, the first route for it stays, and an
address takes the route with the longest prefix that contains it. -/
namespace AlzheimerVPN

open List

/-- Two ranges are one destination when they have the same leading bits. -/
def AddressRange.same {w : ℕ} (r q : AddressRange w) : Bool :=
  r.prefixLength == q.prefixLength && r.contains q.base

namespace AddressRange

variable {w : ℕ} {r q : AddressRange w}

lemma same_iff : r.same q ↔ r.prefixLength = q.prefixLength ∧
    r.base >>> (w - r.prefixLength) = q.base >>> (w - r.prefixLength) := by
  simp [same,contains]

lemma contains_of_same (h : r.same q) (a : BitVec w) : r.contains a = q.contains a := by
  obtain ⟨hlen,hbase⟩ := same_iff.mp h
  rw [contains,contains,← hlen,hbase]

lemma same_refl (r : AddressRange w) : r.same r := same_iff.mpr ⟨rfl,rfl⟩

lemma same_comm : r.same q = q.same r := by
  rw [Bool.eq_iff_iff,same_iff,same_iff]
  constructor
  · rintro ⟨hlen,hbase⟩
    exact ⟨hlen.symm,hlen ▸ hbase.symm⟩
  · rintro ⟨hlen,hbase⟩
    exact ⟨hlen.symm,hlen ▸ hbase.symm⟩

lemma same_congr (h : r.same q) (p : AddressRange w) : r.same p = q.same p := by
  rw [same,same,(same_iff.mp h).1,contains_of_same h]

lemma contains_host {a b : BitVec w} : (⟨a,w⟩ : AddressRange w).contains b ↔ a = b := by
  simp [contains]

/-- A host is a destination of its own. -/
lemma same_host {a : BitVec w} : r.same ⟨a,w⟩ ↔ r = ⟨a,w⟩ := by
  constructor
  · intro h
    obtain ⟨base,len⟩ := r
    obtain ⟨hlen,hbase⟩ := same_iff.mp h
    simp only at hlen hbase
    subst hlen
    simpa using hbase
  · rintro rfl
    exact same_refl _

end AddressRange

structure Route (w : ℕ) (G : Type*) where
  destination : AddressRange w
  gateway : G
  deriving DecidableEq, Repr

abbrev RouteTable (w : ℕ) (G : Type*) := List (Route w G)

namespace RouteTable

variable {w : ℕ} {G : Type*}

def add (table : RouteTable w G) (route : Route w G) : RouteTable w G :=
  if table.any fun r => r.destination.same route.destination then table else table++[route]

def delete (table : RouteTable w G) (destination : AddressRange w) : RouteTable w G :=
  table.filter fun r => !r.destination.same destination

/-- The gateway of the most specific route for an address. -/
def lookup (table : RouteTable w G) (a : BitVec w) : Option G :=
  ((table.filter fun r => r.destination.contains a).argmax fun r =>
    r.destination.prefixLength).map Route.gateway

variable {table : RouteTable w G} {a : BitVec w} {r : Route w G}

lemma mem_add {route : Route w G} (h : r ∈ table.add route) : r ∈ table ∨ r = route := by
  rw [add] at h
  split at h
  · exact .inl h
  · simpa using h

lemma mem_add_of_mem (route : Route w G) (h : r ∈ table) : r ∈ table.add route := by
  rw [add]
  split
  · exact h
  · exact mem_append_left _ h

/-- The destination is routed afterwards, by the new route or the one that was there. -/
lemma exists_mem_add (table : RouteTable w G) (route : Route w G) :
    ∃ r ∈ table.add route, r.destination.same route.destination := by
  rw [add]
  split
  · rename_i h
    exact any_eq_true.mp h
  · exact ⟨route,by simp,AddressRange.same_refl _⟩

lemma mem_delete {destination : AddressRange w} :
    r ∈ table.delete destination ↔ r ∈ table ∧ r.destination.same destination = false := by
  simp [delete]

/-- The gateway to which every route leads that is at least as specific as some route. -/
lemma lookup_eq_some {g : G} (hr : r ∈ table) (ha : r.destination.contains a)
    (hother : ∀ q ∈ table, q.destination.contains a →
      r.destination.prefixLength ≤ q.destination.prefixLength → q.gateway = g) :
    table.lookup a = some g := by
  have hmem : r ∈ table.filter fun r => r.destination.contains a := mem_filter.mpr ⟨hr,ha⟩
  cases hmax : (table.filter fun r => r.destination.contains a).argmax fun r =>
      r.destination.prefixLength with
  | none =>
    rw [argmax_eq_none] at hmax
    simp [hmax] at hmem
  | some q =>
    obtain ⟨hq,hqa⟩ := mem_filter.mp (argmax_mem hmax)
    have hle := le_of_mem_argmax hmem hmax
    rw [lookup,hmax,Option.map_some,hother q hq hqa hle]

lemma exists_of_lookup {g : G} (h : table.lookup a = some g) :
    ∃ r ∈ table, r.destination.contains a ∧ r.gateway = g := by
  obtain ⟨r,hr,hg⟩ := Option.map_eq_some_iff.mp h
  obtain ⟨hmem,ha⟩ := mem_filter.mp (argmax_mem hr)
  exact ⟨r,hmem,ha,hg⟩

def Routed (table : RouteTable w G) (destination : AddressRange w) : Prop :=
  ∃ r ∈ table, r.destination.same destination

/-- The routes that are new come after the table, and every destination is routed. -/
lemma foldl_add (routes : List (Route w G)) (table : RouteTable w G) :
    ∃ new, routes.foldl add table = table++new ∧
      (∀ r ∈ new, r ∈ routes ∧ ¬Routed table r.destination) ∧
      ∀ r ∈ routes, Routed (table++new) r.destination := by
  induction routes generalizing table with
  | nil => exact ⟨[],by simp⟩
  | cons q routes ih =>
    rw [foldl_cons,add]
    split
    · rename_i hrouted
      obtain ⟨new,heq,hnew,hall⟩ := ih table
      obtain ⟨r,hr,hsame⟩ := any_eq_true.mp hrouted
      refine ⟨new,heq,fun r hr => ⟨mem_cons_of_mem q (hnew r hr).1,(hnew r hr).2⟩,?_⟩
      exact forall_mem_cons.mpr ⟨⟨r,mem_append_left new hr,hsame⟩,hall⟩
    · rename_i hfree
      obtain ⟨new,heq,hnew,hall⟩ := ih (table++[q])
      have hq : ¬Routed table q.destination := by simpa [Routed] using hfree
      rw [append_assoc] at heq hall
      refine ⟨q::new,heq,forall_mem_cons.mpr ⟨⟨mem_cons_self,hq⟩,fun r hr => ?_⟩,?_⟩
      · obtain ⟨hmem,hr'⟩ := hnew r hr
        refine ⟨mem_cons_of_mem q hmem,fun ⟨p,hp,hsame⟩ => hr' ⟨p,?_,hsame⟩⟩
        exact mem_append_left [q] hp
      · exact forall_mem_cons.mpr ⟨⟨q,by simp,AddressRange.same_refl _⟩,hall⟩

lemma foldl_delete (ranges : List (AddressRange w)) (table : RouteTable w G) :
    ranges.foldl delete table =
      table.filter fun r => ranges.all fun d => !r.destination.same d := by
  induction ranges generalizing table with
  | nil => simp
  | cons d ranges ih =>
    rw [foldl_cons,ih,delete,filter_filter]
    simp only [all_cons,Bool.and_comm]

/-- Deleting some of the routes that were added gives the table back exactly when these are
the destinations that were not routed before. -/
lemma foldl_delete_foldl_add_iff {routes : List (Route w G)} {ranges : List (AddressRange w)}
    (hranges : ∀ d ∈ ranges, ∃ r ∈ routes, r.destination = d) (table : RouteTable w G) :
    ranges.foldl delete (routes.foldl add table) = table ↔
      ∀ r ∈ routes, Routed table r.destination ↔ ∀ d ∈ ranges, r.destination.same d = false := by
  obtain ⟨new,heq,hnew,hall⟩ := foldl_add routes table
  rw [foldl_delete,heq,filter_append]
  constructor
  · intro h r hr
    -- no new route is one of the table, so none of them is left
    have hnone : new.filter (fun r => ranges.all fun d => !r.destination.same d) = [] := by
      refine eq_nil_iff_forall_not_mem.mpr fun q hq => ?_
      refine (hnew q (mem_of_mem_filter hq)).2 ⟨q,?_,AddressRange.same_refl _⟩
      rw [← h]
      exact mem_append_right _ hq
    rw [hnone,append_nil,filter_eq_self] at h
    obtain ⟨q,hq,hsame⟩ := hall r hr
    have hcongr : (ranges.all fun d => !q.destination.same d) ↔
        ∀ d ∈ ranges, r.destination.same d = false := by
      simp [AddressRange.same_congr hsame]
    constructor
    · rintro ⟨p,hp,hpr⟩ d hd
      simpa [AddressRange.same_congr hpr] using all_eq_true.mp (h p hp) d hd
    · intro hkept
      rcases mem_append.mp hq with hq | hq
      · exact ⟨q,hq,hsame⟩
      · exact absurd (hcongr.mpr hkept) (by simpa using filter_eq_nil_iff.mp hnone q hq)
  · intro h
    have htable : ∀ r ∈ table, (ranges.all fun d => !r.destination.same d) := by
      intro r hr
      refine all_eq_true.mpr fun d hd => ?_
      obtain ⟨q,hq,rfl⟩ := hranges d hd
      by_contra hsame
      have hfree := (h q hq).mp ⟨r,hr,by simpa using hsame⟩ _ hd
      rw [AddressRange.same_refl] at hfree
      cases hfree
    have hnone : ∀ r ∈ new, ¬(ranges.all fun d => !r.destination.same d) := by
      intro r hr hkept
      refine (hnew r hr).2 ((h r (hnew r hr).1).mpr ?_)
      simpa using hkept
    rw [filter_eq_self.mpr htable,filter_eq_nil_iff.mpr hnone,append_nil]

end RouteTable
end AlzheimerVPN
