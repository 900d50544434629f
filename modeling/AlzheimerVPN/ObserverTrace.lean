import AlzheimerVPN.DnsSplitRouteObserver
import AlzheimerVPN.Runs

/-! Whole runs of the DNS observer. The history of a run keeps the queries received and
the replies written since the last start, and every datagram passed on; an
invariant of the pending table relates it to them. -/
namespace AlzheimerVPN.DnsSplitRouteObserver

open DnsMessageParser Runs List

/-- A query as it came in; `matched` says whether a rule matched it then. -/
structure Received where
  address : HostAddress
  port : UInt16
  request : Bytes
  matched : Bool

/-- What a client tells its queries apart by: address, port, id and the rest of the bytes. -/
abbrev Key := HostAddress × UInt16 × UInt16 × Bytes

def Received.key (q : Received) : Key :=
  (q.address,q.port,messageId q.request,setMessageId q.request 0)

def PendingQuery.key (p : PendingQuery) : Key :=
  (p.clientAddress,p.clientPort,p.originalId,p.requestKey)

lemma sameQuery_iff (other pending : PendingQuery) :
    sameQuery other pending ↔ PendingQuery.key other = PendingQuery.key pending := by
  simp only [sameQuery,PendingQuery.key,Bool.and_eq_true,beq_iff_eq,Prod.mk.injEq]
  tauto

def forwarded (outputs : List Output) : List Bytes :=
  outputs.filterMap fun
    | .forward datagram _ => some datagram
    | _ => none

def answered (outputs : List Output) : List PendingQuery :=
  outputs.filterMap fun
    | .reply _ pending => some pending
    | _ => none

/-- The observer with its history. After a fault nothing happens any more. -/
structure Traced where
  observer : DnsSplitRouteObserver
  fault : Option Fault
  /-- The queries received since the last start. -/
  received : List Received
  /-- The queries replied to since the last start. -/
  written : List PendingQuery
  /-- Every datagram passed on to an upstream server, the newest first. -/
  passed : List Bytes

section

variable [Qt]

/-- The query under which a request is kept. -/
def Received.pending (q : Received) : PendingQuery where
  clientAddress := q.address
  clientPort := q.port
  originalId := messageId q.request
  host := queryHost q.request
  requestKey := setMessageId q.request 0
  matched := q.matched

@[simp] lemma Received.pending_key (q : Received) : PendingQuery.key q.pending = q.key := rfl

namespace Traced

def start : Traced := ⟨initial,none,[],[],[]⟩

def outputs (t : Traced) (e : Event) : List Output :=
  if t.fault.isSome then [] else (t.observer.handle e).outputs

/-- The queries that an event brings in. -/
def arrives (t : Traced) : Event → List Received
  | .client address port request =>
    if t.observer.isActive then
      [⟨address,port,request,t.observer.matchesRules (queryHost request) == some true⟩]
    else []
  | _ => []

def restarts : Event → Bool
  | .start .. => true
  | _ => false

def next (t : Traced) (e : Event) : Traced :=
  if t.fault.isSome then t
  else
    { observer := (t.observer.handle e).observer
      fault := (t.observer.handle e).fault
      received := (if restarts e then [] else t.received)++t.arrives e
      written := (if restarts e then [] else t.written)++answered (t.outputs e)
      passed := (forwarded (t.outputs e)).reverse++t.passed }

variable {t : Traced}

lemma next_of_fault (h : t.fault.isSome) (e : Event) : t.next e = t :=
  if_pos h

/-- A step in which nothing is put out. -/
lemma next_of_silent {e : Event} (hf : t.fault = none) (ho : (t.observer.handle e).outputs = []) :
    t.next e = ⟨(t.observer.handle e).observer,(t.observer.handle e).fault,
        (if restarts e then [] else t.received)++t.arrives e,
        if restarts e then [] else t.written,t.passed⟩ := by
  simp [next,outputs,hf,ho,answered,forwarded]

/-- An event that is ignored. -/
lemma next_of_ignored {e : Event} (hf : t.fault = none)
    (hh : t.observer.handle e = ⟨t.observer,[],none⟩) (hr : restarts e = false)
    (ha : t.arrives e = []) : t.next e = t := by
  rw [next_of_silent hf (by rw [hh])]
  simp [hh,hr,ha,← hf]

end Traced

end

/-- A query that is pending under an id and then under more ids is pending under all. -/
lemma pending_update (queries : UInt16 → Option PendingQuery) (pending : PendingQuery)
    (id : UInt16) (ids : List UInt16) :
    (fun id' => if id' ∈ ids then some pending else
      Function.update queries id (some pending) id') =
      fun id' => if id' ∈ id::ids then some pending else queries id' := by
  funext id'
  by_cases hm : id' ∈ ids
  · simp [hm]
  · by_cases he : id' = id
    · subst he
      simp [hm]
    · simp [hm,he]

/-- What passing on a request does: it takes free ids other than zero for the pending query,
and puts out the request under each of them. -/
lemma forwardTo_cases (request : Bytes) (pending : PendingQuery) (servers : List HostAddress)
    (s : DnsSplitRouteObserver) :
    ∃ (ids : List UInt16) (last : UInt16),
      (∀ id ∈ ids, id ≠ 0 ∧ s.pendingQueries id = none) ∧
      (forwardTo request pending servers s).observer =
        { s with
          lastQueryId := last
          pendingQueries := fun id => if id ∈ ids then some pending else s.pendingQueries id } ∧
      forwarded (forwardTo request pending servers s).outputs = ids.map (setMessageId request) ∧
      ∀ output ∈ (forwardTo request pending servers s).outputs,
        ∃ datagram server, output = .forward datagram server := by
  induction servers generalizing s with
  | nil => exact ⟨[],s.lastQueryId,by simp,by simp [forwardTo],rfl,by simp [forwardTo]⟩
  | cons server servers ih =>
    rw [forwardTo]
    cases hid : s.nextQueryId 65535 with
    | none => exact ⟨[],s.lastQueryId,by simp,by simp,rfl,by simp⟩
    | some id =>
      obtain ⟨hbusy,k,hk⟩ := Search.search_eq_some _ _ hid
      have hfree : s.pendingQueries id = none := by simpa using hbusy
      have hzero : id ≠ 0 := hk ▸ iterate_increment_ne_zero _ _
      obtain ⟨ids,last,hids,hobserver,hforwarded,houtputs⟩ := ih { s with
        lastQueryId := id
        pendingQueries := Function.update s.pendingQueries id (some pending) }
      refine ⟨id::ids,last,?_,?_,?_,?_⟩
      · rintro id' hid'
        rcases mem_cons.mp hid' with rfl | hid'
        · exact ⟨hzero,hfree⟩
        · obtain ⟨hne,hnone⟩ := hids id' hid'
          have hdiff : id' ≠ id := by
            rintro rfl
            simp at hnone
          exact ⟨hne,by simpa [Function.update_of_ne hdiff] using hnone⟩
      · rw [← pending_update]
        exact hobserver
      · simpa [forwarded] using hforwarded
      · intro output ho
        rcases mem_cons.mp ho with rfl | ho
        · exact ⟨_,_,rfl⟩
        · exact houtputs output ho

section

variable [Qt]

/-- What a query does: it is passed on under free ids or not at all. -/
lemma readClientDatagram_cases (s : DnsSplitRouteObserver) (address : HostAddress) (port : UInt16)
    (request : Bytes) :
    ∃ (ids : List UInt16) (last : UInt16),
      (∀ id ∈ ids, id ≠ 0 ∧ s.pendingQueries id = none) ∧ (ids ≠ [] → 2 ≤ request.length) ∧
      (s.readClientDatagram address port request).observer =
        { s with
          lastQueryId := last
          pendingQueries := fun id =>
            if id ∈ ids then
              some (Received.pending
                ⟨address,port,request,s.matchesRules (queryHost request) == some true⟩)
            else s.pendingQueries id } ∧
      forwarded (s.readClientDatagram address port request).outputs =
        ids.map (setMessageId request) ∧
      ∀ output ∈ (s.readClientDatagram address port request).outputs,
        ∃ datagram server, output = .forward datagram server := by
  rw [readClientDatagram]
  split_ifs with hskip
  · exact ⟨[],s.lastQueryId,by simp,by simp,by simp,rfl,by simp⟩
  · have hlength : 2 ≤ request.length := by
      by_contra hshort
      have hhost : queryHost request = "" := if_pos (Or.inl (by omega))
      simp [hhost] at hskip
    cases hm : s.matchesRules (queryHost request) with
    | none => exact ⟨[],s.lastQueryId,by simp,by simp,by simp,rfl,by simp⟩
    | some matched =>
      have hmatched : ((some matched : Option Bool) == some true) = matched := by
        cases matched <;> rfl
      rw [hmatched]
      obtain ⟨ids,last,hids,hrest⟩ := forwardTo_cases request
        (Received.pending ⟨address,port,request,matched⟩)
        (if matched && !s.matchedUpstreamServers.isEmpty then s.matchedUpstreamServers
          else s.upstreamServers) s
      exact ⟨ids,last,hids,fun _ => hlength,hrest⟩

end

section

variable [Qt]

/-- What the pending table knows of the history. -/
structure Sound (t : Traced) : Prop where
  zero : t.observer.pendingQueries 0 = none
  asked : ∀ id p, t.observer.pendingQueries id = some p → ∃ q ∈ t.received, q.pending = p
  counted : ∀ key, (t.written.map PendingQuery.key).count key ≤ (t.received.map Received.key).count key
  waiting : ∀ id p, t.observer.pendingQueries id = some p →
    (t.written.map PendingQuery.key).count (PendingQuery.key p) <
      (t.received.map Received.key).count (PendingQuery.key p)
  latest : ∀ id p, t.observer.pendingQueries id = some p →
    ∃ f, t.passed.find? (fun f => messageId f == id) = some f ∧ setMessageId f 0 = p.requestKey

lemma sound_start : Sound Traced.start :=
  ⟨rfl,by simp [Traced.start,initial],by simp [Traced.start],by simp [Traced.start,initial],
    by simp [Traced.start,initial]⟩

/-- A response that answers a query has an id. -/
lemma Sound.two_le {t : Traced} (h : Sound t) {response : Bytes} {p : PendingQuery}
    (hp : t.observer.pendingQueries (messageId response) = some p) : 2 ≤ response.length := by
  refine two_le_of_messageId_ne_zero fun hz => ?_
  rw [hz,h.zero] at hp
  cases hp

omit [Qt] in
/-- The newest datagram under an id. -/
lemma find_passed {request : Bytes} {ids : List UInt16} (h : ids ≠ [] → 2 ≤ request.length)
    (passed : List Bytes) (id : UInt16) :
    ((ids.map (setMessageId request)).reverse++passed).find? (fun f => messageId f == id) =
      if id ∈ ids then some (setMessageId request id)
      else passed.find? (fun f => messageId f == id) := by
  rw [List.find?_append]
  split_ifs with hid
  · have hlength := h (ne_nil_of_mem hid)
    obtain ⟨f,hf⟩ : ∃ f, ((ids.map (setMessageId request)).reverse).find?
        (fun f => messageId f == id) = some f := by
      rw [← Option.isSome_iff_exists,List.find?_isSome]
      exact ⟨setMessageId request id,by simpa using ⟨id,hid,rfl⟩,
        by simp [messageId_setMessageId hlength]⟩
    obtain ⟨id',-,rfl⟩ : ∃ id' ∈ ids, setMessageId request id' = f := by
      simpa using mem_of_find?_eq_some hf
    have hsame : messageId (setMessageId request id') = id := by
      simpa using List.find?_some hf
    rw [messageId_setMessageId hlength] at hsame
    rw [hf,hsame]
    rfl
  · have hnone : ((ids.map (setMessageId request)).reverse).find? (fun f => messageId f == id) =
        none := by
      rw [List.find?_eq_none]
      intro f hf
      obtain ⟨id',hid',rfl⟩ : ∃ id' ∈ ids, setMessageId request id' = f := by simpa using hf
      rw [messageId_setMessageId (h (ne_nil_of_mem hid'))]
      intro he
      exact hid (beq_iff_eq.mp he ▸ hid')
    rw [hnone,Option.none_or]

variable {t : Traced}

/-- A query that arrives is counted before it waits. -/
lemma Sound.client (h : Sound t) (q : Received) {ids : List UInt16} {observer : DnsSplitRouteObserver}
    {fault : Option Fault} (hids : ∀ id ∈ ids, id ≠ 0 ∧ t.observer.pendingQueries id = none)
    (hlength : ids ≠ [] → 2 ≤ q.request.length)
    (hp : observer.pendingQueries = fun id =>
      if id ∈ ids then some q.pending else t.observer.pendingQueries id) :
    Sound ⟨observer,fault,t.received++[q],t.written,
      (ids.map (setMessageId q.request)).reverse++t.passed⟩ := by
  have hgrow : ∀ key, (t.received.map Received.key).count key ≤
      ((t.received++[q]).map Received.key).count key := by
    intro key
    rw [map_append,count_append]
    exact Nat.le_add_right _ _
  have hself : (t.received.map Received.key).count q.key <
      ((t.received++[q]).map Received.key).count q.key := by
    rw [map_append,count_append]
    simp
  have hold : ∀ id p, observer.pendingQueries id = some p →
      id ∈ ids ∧ p = q.pending ∨ id ∉ ids ∧ t.observer.pendingQueries id = some p := by
    intro id p hid
    rw [hp] at hid
    by_cases hm : id ∈ ids
    · simp only [hm,if_true,Option.some.injEq] at hid
      exact Or.inl ⟨hm,hid.symm⟩
    · simp only [hm,if_false] at hid
      exact Or.inr ⟨hm,hid⟩
  refine ⟨?_,?_,fun key => (h.counted key).trans (hgrow key),?_,?_⟩
  · have hz : (0 : UInt16) ∉ ids := fun hm => (hids 0 hm).1 rfl
    simp [hp,hz,h.zero]
  · intro id p hid
    rcases hold id p hid with ⟨-,rfl⟩ | ⟨-,hid⟩
    · exact ⟨q,by simp,rfl⟩
    · obtain ⟨q',hq',he⟩ := h.asked id p hid
      exact ⟨q',by simp [hq'],he⟩
  · intro id p hid
    rcases hold id p hid with ⟨-,rfl⟩ | ⟨-,hid⟩
    · exact (h.counted q.key).trans_lt hself
    · exact (h.waiting id p hid).trans_le (hgrow _)
  · intro id p hid
    simp only [find_passed hlength]
    rcases hold id p hid with ⟨hm,rfl⟩ | ⟨hm,hid⟩
    · exact ⟨_,if_pos hm,by simp [Received.pending]⟩
    · rw [if_neg hm]
      exact h.latest id p hid

/-- An answer takes the query and all that were passed on with it out of the table. -/
lemma Sound.upstream (h : Sound t) {id : UInt16} {p : PendingQuery}
    (hid : t.observer.pendingQueries id = some p) {observer : DnsSplitRouteObserver}
    {fault : Option Fault} (hp : observer.pendingQueries = fun id' =>
      if id' = id then none
      else (t.observer.pendingQueries id').filter fun other => !sameQuery other p) :
    Sound ⟨observer,fault,t.received,t.written++[p],t.passed⟩ := by
  have hold : ∀ id' p', observer.pendingQueries id' = some p' →
      t.observer.pendingQueries id' = some p' ∧ PendingQuery.key p' ≠ PendingQuery.key p := by
    intro id' p' hid'
    rw [hp] at hid'
    by_cases he : id' = id
    · simp [he] at hid'
    · simp only [he,if_false,Option.filter_eq_some_iff,Bool.not_eq_true'] at hid'
      refine ⟨hid'.1,fun hk => ?_⟩
      rw [(sameQuery_iff p' p).mpr hk] at hid'
      exact absurd hid'.2 (by simp)
  have hcount : ∀ key, ((t.written++[p]).map PendingQuery.key).count key =
      (t.written.map PendingQuery.key).count key+if PendingQuery.key p = key then 1 else 0 := by
    intro key
    rw [map_append,count_append,map_singleton,count_singleton]
    simp
  refine ⟨?_,fun id' p' hid' => h.asked id' p' (hold id' p' hid').1,?_,?_,
    fun id' p' hid' => h.latest id' p' (hold id' p' hid').1⟩
  · cases hz : observer.pendingQueries 0 with
    | none => rfl
    | some p' => exact absurd (hold 0 p' hz).1 (by simp [h.zero])
  · intro key
    simp only [hcount]
    split_ifs with he
    · subst he
      exact h.waiting id p hid
    · exact h.counted key
  · intro id' p' hid'
    obtain ⟨hid',hne⟩ := hold id' p' hid'
    simp only [hcount,if_neg (Ne.symm hne)]
    exact h.waiting id' p' hid'

/-- The table is emptied, and what was counted is kept or forgotten as a whole. -/
lemma Sound.emptied (h : Sound t) {observer : DnsSplitRouteObserver} {fault : Option Fault}
    (hp : observer.pendingQueries = fun _ => none) {received : List Received}
    {written : List PendingQuery}
    (hh : received = t.received ∧ written = t.written ∨ received = [] ∧ written = []) :
    Sound ⟨observer,fault,received,written,t.passed⟩ := by
  refine ⟨by simp [hp],by simp [hp],?_,by simp [hp],by simp [hp]⟩
  rcases hh with ⟨rfl,rfl⟩ | ⟨rfl,rfl⟩
  · exact h.counted
  · simp

omit [Qt] in
lemma start_pendingQueries (s : DnsSplitRouteObserver) (upstreamServers matched : List HostAddress)
    (bound : Bool) : (s.start upstreamServers matched bound).pendingQueries = fun _ => none := by
  simp only [DnsSplitRouteObserver.start]
  split_ifs <;> rfl

/-- A query that is received, with or without a fault. -/
lemma Sound.received (h : Sound t) (hf : t.fault = none) (hactive : t.observer.isActive)
    (address : HostAddress) (port : UInt16) (request : Bytes) :
    Sound (t.next (.client address port request)) := by
  obtain ⟨ids,last,hids,hlength,hobserver,hforwarded,houtputs⟩ :=
    readClientDatagram_cases t.observer address port request
  have hanswered : answered (t.observer.readClientDatagram address port request).outputs = [] := by
    rw [answered,filterMap_eq_nil_iff]
    intro output ho
    obtain ⟨datagram,server,rfl⟩ := houtputs output ho
    rfl
  have hnext : t.next (.client address port request) =
      ⟨(t.observer.readClientDatagram address port request).observer,
        (t.observer.readClientDatagram address port request).fault,
        t.received++[⟨address,port,request,t.observer.matchesRules (queryHost request) == some true⟩],
        t.written,(ids.map (setMessageId request)).reverse++t.passed⟩ := by
    simp [Traced.next,Traced.outputs,Traced.arrives,Traced.restarts,handle,hf,hactive,hanswered,
      hforwarded]
  rw [hnext]
  exact h.client _ hids hlength (by rw [hobserver])

/-- A response is dropped or answers the query that is pending under its id. -/
lemma next_upstream (hf : t.fault = none) (hactive : t.observer.isActive) (response : Bytes) :
    t.observer.pendingQueries (messageId response) = none ∧ t.next (.upstream response) = t ∨
    ∃ p, t.observer.pendingQueries (messageId response) = some p ∧ t.next (.upstream response) =
        ⟨(t.observer.readUpstreamDatagram response).observer,none,t.received,t.written++[p],t.passed⟩ := by
  cases hp : t.observer.pendingQueries (messageId response) with
  | none =>
    refine Or.inl ⟨rfl,?_⟩
    exact Traced.next_of_ignored hf (by simp [handle,hactive,readUpstreamDatagram,hp]) rfl rfl
  | some p =>
    refine Or.inr ⟨p,rfl,?_⟩
    have hanswered : answered (t.observer.readUpstreamDatagram response).outputs = [p] := by
      simp only [readUpstreamDatagram,hp]
      split_ifs <;> rfl
    have hforwarded : forwarded (t.observer.readUpstreamDatagram response).outputs = [] := by
      simp only [readUpstreamDatagram,hp]
      split_ifs <;> rfl
    have hfault : (t.observer.readUpstreamDatagram response).fault = none := by
      simp [readUpstreamDatagram,hp]
    simp [Traced.next,Traced.outputs,Traced.arrives,Traced.restarts,handle,hf,hactive,hanswered,
      hforwarded,hfault]

lemma sound_next (h : Sound t) (e : Event) : Sound (t.next e) := by
  cases hf : t.fault with
  | some fault =>
    rw [Traced.next_of_fault (by simp [hf])]
    exact h
  | none =>
    cases e with
    | setRules rules =>
      have hp : (t.observer.setRules rules).observer.pendingQueries = t.observer.pendingQueries ∧
          (t.observer.setRules rules).outputs = [] := by
        simp only [setRules]
        split_ifs <;> exact ⟨rfl,rfl⟩
      have ho : (t.observer.handle (.setRules rules)).outputs = [] := hp.2
      rw [Traced.next_of_silent hf ho]
      simp only [handle,Traced.restarts,Traced.arrives,Bool.false_eq_true,if_false,append_nil]
      exact ⟨hp.1 ▸ h.zero,hp.1 ▸ h.asked,h.counted,hp.1 ▸ h.waiting,hp.1 ▸ h.latest⟩
    | start upstreamServers matched bound =>
      have ho : (t.observer.handle (.start upstreamServers matched bound)).outputs = [] := rfl
      rw [Traced.next_of_silent hf ho]
      exact h.emptied (start_pendingQueries t.observer upstreamServers matched bound)
        (Or.inr ⟨rfl,rfl⟩)
    | stop =>
      have hstop : t.observer.stop.pendingQueries = fun _ => none := rfl
      have ho : (t.observer.handle .stop).outputs = [] := rfl
      rw [Traced.next_of_silent hf ho]
      exact h.emptied hstop (Or.inl ⟨append_nil _,rfl⟩)
    | client address port request =>
      cases hactive : t.observer.isActive with
      | true => exact h.received hf hactive address port request
      | false =>
        rw [Traced.next_of_ignored hf (by simp [handle,hactive]) rfl (by simp [Traced.arrives,hactive])]
        exact h
    | upstream response =>
      cases hactive : t.observer.isActive with
      | true =>
        rcases next_upstream hf hactive response with ⟨-,hsame⟩ | ⟨p,hp,hnext⟩
        · rw [hsame]
          exact h
        · rw [hnext]
          exact h.upstream hp (by simp [readUpstreamDatagram,hp])
      | false =>
        rw [Traced.next_of_ignored hf (by simp [handle,hactive]) rfl rfl]
        exact h

end

section

variable [Qt]

/-- Where an output comes from. -/
lemma outputs_cases {t : Traced} {e : Event} {output : Output} (h : output ∈ t.outputs e) :
    (∃ datagram server, output = .forward datagram server) ∨
    ∃ response p, e = .upstream response ∧
      t.observer.pendingQueries (messageId response) = some p ∧
      (output = .reply (setMessageId response p.originalId) p ∨
        p.matched ∧ output = .hostResolved p.host (responseIpv4Answers response)) := by
  simp only [Traced.outputs] at h
  split_ifs at h with hf
  · cases h
  · cases e with
    | setRules rules =>
      simp only [handle,setRules] at h
      split_ifs at h <;> cases h
    | start upstreamServers matched bound => cases h
    | stop => cases h
    | client address port request =>
      simp only [handle] at h
      split_ifs at h
      · obtain ⟨-,-,-,-,-,-,houtputs⟩ := readClientDatagram_cases t.observer address port request
        exact Or.inl (houtputs output h)
      · cases h
    | upstream response =>
      simp only [handle] at h
      split_ifs at h
      · cases hp : t.observer.pendingQueries (messageId response) with
        | none => simp [readUpstreamDatagram,hp] at h
        | some p =>
          refine Or.inr ⟨response,p,rfl,hp,?_⟩
          simp only [readUpstreamDatagram,hp,mem_append,mem_singleton] at h
          rcases h with h | h
          · split_ifs at h with hm
            · simp only [Bool.and_eq_true] at hm
              exact Or.inr ⟨hm.1,mem_singleton.mp h⟩
            · cases h
          · exact Or.inl h
      · cases h

lemma sound_run (events : List Event) : Sound (run Traced.next Traced.start events) := by
  have hstep : ∀ (t : Traced) (e : Event), Sound t → Sound (t.next e) := fun _ e h => sound_next h e
  exact run_invariant_of_step hstep sound_start events

/-- A reply goes to a client that asked, under the id of its query and with the bytes of the
response; a host is resolved only if its query matched. -/
def AnswersAsker (t : Traced) (e : Event) : Prop :=
  ∀ output ∈ t.outputs e,
    match output with
    | .forward .. => True
    | .reply datagram pending => ∃ q ∈ t.received, q.key = PendingQuery.key pending ∧
        messageId datagram = messageId q.request ∧
        ∃ response, e = .upstream response ∧ datagram.length = response.length ∧
          datagram.drop 2 = response.drop 2
    | .hostResolved host _ => ∃ q ∈ t.received, queryHost q.request = host ∧ q.matched

/-- In every run the observer answers only clients that asked, each query at most once. -/
theorem observer_answers_only_askers (events : List Event) :
    Guarded Traced.next AnswersAsker Traced.start events ∧
      Always Traced.next (fun t => ∀ key, (t.written.map PendingQuery.key).count key ≤
        (t.received.map Received.key).count key) Traced.start events := by
  refine ⟨?_,fun pre _ => (sound_run pre).counted⟩
  intro pre e _ output ho
  have hs := sound_run pre
  rcases outputs_cases ho with ⟨datagram,server,rfl⟩ | ⟨response,p,rfl,hp,hout⟩
  · trivial
  · have hlength := hs.two_le hp
    obtain ⟨q,hq,rfl⟩ := hs.asked _ _ hp
    rcases hout with rfl | ⟨hm,rfl⟩
    · exact ⟨q,hq,rfl,messageId_setMessageId hlength _,response,rfl,length_setMessageId _ _,
        drop_setMessageId _ _⟩
    · exact ⟨q,hq,rfl,hm⟩

variable (Answers : Bytes → Bytes → Prop)

/-- A response answers the question of the datagram that was last passed on under its id. -/
def AnswersLatest (t : Traced) (e : Event) : Prop :=
  ∀ response, e = .upstream response →
    ∃ f, t.passed.find? (fun f => messageId f == messageId response) = some f ∧
      Answers (setMessageId f 0) response

/-- A client is sent a response to the question it asked under that id, and a host is resolved
to addresses that a server gave for it. -/
def RelaysAnswers (t : Traced) (e : Event) : Prop :=
  ∀ output ∈ t.outputs e,
    match output with
    | .forward .. => True
    | .reply datagram pending => ∃ q ∈ t.received, q.address = pending.clientAddress ∧
        q.port = pending.clientPort ∧ messageId q.request = messageId datagram ∧
        ∃ response, e = .upstream response ∧ Answers (setMessageId q.request 0) response
    | .hostResolved host answers => ∃ q ∈ t.received, queryHost q.request = host ∧
        ∃ response, e = .upstream response ∧ answers = responseIpv4Answers response ∧
          Answers (setMessageId q.request 0) response

/-- If a response comes only as long as its id has not been given again, every client gets a
response to its own question. -/
theorem answers_belong_to_question (events : List Event)
    (hok : Guarded Traced.next (AnswersLatest Answers) Traced.start events) :
    Guarded Traced.next (RelaysAnswers Answers) Traced.start events := by
  intro pre e hpre output ho
  have hs := sound_run pre
  rcases outputs_cases ho with ⟨datagram,server,rfl⟩ | ⟨response,p,rfl,hp,hout⟩
  · trivial
  · have hlength := hs.two_le hp
    obtain ⟨f,hf,ha⟩ := hok pre _ hpre response rfl
    obtain ⟨f',hf',hkey⟩ := hs.latest _ _ hp
    rw [hf] at hf'
    cases hf'
    obtain ⟨q,hq,rfl⟩ := hs.asked _ _ hp
    rw [hkey] at ha
    rcases hout with rfl | ⟨hm,rfl⟩
    · exact ⟨q,hq,rfl,rfl,(messageId_setMessageId hlength _).symm,response,rfl,ha⟩
    · exact ⟨q,hq,rfl,response,rfl,rfl,ha⟩

end

end AlzheimerVPN.DnsSplitRouteObserver
