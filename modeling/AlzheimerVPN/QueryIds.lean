import AlzheimerVPN.ObserverTrace
import Mathlib.Data.FinEnum

/-! The ids of the datagrams that the DNS observer passes on. There are 65535 of them:
the search for the next one ends as long as one is free, and an id comes up again
after as many datagrams. -/
namespace AlzheimerVPN.DnsSplitRouteObserver

open DnsMessageParser Runs Search Traced List

section

variable (s : DnsSplitRouteObserver)

def pendingIds : Finset UInt16 := Finset.univ.filter fun id => (s.pendingQueries id).isSome

def pendingCount : ℕ := s.pendingIds.card

@[simp] lemma mem_pendingIds (id : UInt16) :
    id ∈ s.pendingIds ↔ (s.pendingQueries id).isSome := by
  simp [pendingIds]

lemma card_ids : (Finset.univ.erase (0 : UInt16)).card = 65535 := by
  rw [Finset.card_erase_of_mem (Finset.mem_univ _),Finset.card_univ,← FinEnum.card_eq_fintypeCard]
  rfl

variable {s}

lemma exists_free_iff (h : s.pendingQueries 0 = none) :
    (∃ id, id ≠ 0 ∧ s.pendingQueries id = none) ↔ s.pendingCount < 65535 := by
  constructor
  · rintro ⟨id,hid,hfree⟩
    have hsub : s.pendingIds ⊂ Finset.univ.erase 0 := by
      refine Finset.ssubset_iff_subset_ne.mpr ⟨?_,fun he => ?_⟩
      · intro x hx
        refine Finset.mem_erase.mpr ⟨?_,Finset.mem_univ _⟩
        rintro rfl
        simp [h] at hx
      · have hmem : id ∈ s.pendingIds := he ▸ Finset.mem_erase.mpr ⟨hid,Finset.mem_univ _⟩
        simp [hfree] at hmem
    exact (Finset.card_lt_card hsub).trans_eq card_ids
  · intro hcount
    obtain ⟨id,hid,hnot⟩ := Finset.exists_mem_notMem_of_card_lt_card (hcount.trans_eq card_ids.symm)
    exact ⟨id,(Finset.mem_erase.mp hid).1,by simpa using hnot⟩

/-- A free id is found within one round. -/
lemma exists_nextQueryId {id : UInt16} (hid : id ≠ 0) (hfree : s.pendingQueries id = none) :
    ∃ id', s.nextQueryId 65535 = some id' ∧ id' ≠ 0 ∧ s.pendingQueries id' = none := by
  obtain ⟨k,hk,rfl⟩ := exists_iterate_increment s.lastQueryId hid
  have hsome : (s.nextQueryId 65535).isSome :=
    (search_isSome_iff _ _ _ _).mpr ⟨k,hk,congrArg Option.isSome hfree⟩
  obtain ⟨id',hid'⟩ := Option.isSome_iff_exists.mp hsome
  obtain ⟨hbusy,j,rfl⟩ := search_eq_some _ _ hid'
  exact ⟨_,hid',iterate_increment_ne_zero _ _,by simpa using hbusy⟩

/-- In every state of a run the search for an id ends with a free one, and not with zero, exactly
when fewer than 65535 queries are pending. -/
theorem next_query_id_ends_iff [Qt] (events : List Event) :
    let s := (run Traced.next Traced.start events).observer
    (∃ fuel id, s.nextQueryId fuel = some id ∧ id ≠ 0 ∧ s.pendingQueries id = none) ↔
      s.pendingCount < 65535 := by
  intro s
  rw [← exists_free_iff (sound_run events).zero]
  constructor
  · rintro ⟨fuel,id,-,hid,hfree⟩
    exact ⟨id,hid,hfree⟩
  · rintro ⟨id,hid,hfree⟩
    exact ⟨65535,exists_nextQueryId hid hfree⟩

end

section

variable [Qt] {server : HostAddress} {rules : List SplitTunnelRule}

/-- A running observer with one server and so many pending queries. -/
structure Filled (server : HostAddress) (rules : List SplitTunnelRule) (n : ℕ) (t : Traced) : Prop where
  fault : t.fault = none
  active : t.observer.isActive
  servers : t.observer.upstreamServers = [server]
  matched : t.observer.matchedUpstreamServers = []
  rules : t.observer.rules = rules
  zero : t.observer.pendingQueries 0 = none
  count : t.observer.pendingCount = n

omit [Qt] in
lemma pendingCount_update {s : DnsSplitRouteObserver} {id : UInt16} {p : PendingQuery}
    (h : s.pendingQueries id = none) (last : UInt16) :
    pendingCount { s with
      lastQueryId := last
      pendingQueries := Function.update s.pendingQueries id (some p) } = s.pendingCount+1 := by
  have hids : pendingIds { s with
      lastQueryId := last
      pendingQueries := Function.update s.pendingQueries id (some p) } = insert id s.pendingIds := by
    ext id'
    by_cases he : id' = id
    · subst he
      simp
    · simp [he]
  rw [pendingCount,hids,Finset.card_insert_of_notMem (by simp [h]),pendingCount]

/-- With one server a query is passed on under one id. -/
lemma readClientDatagram_single {s : DnsSplitRouteObserver} (hs : s.upstreamServers = [server])
    (hms : s.matchedUpstreamServers = []) {request : Bytes} (hhost : queryHost request ≠ "")
    {matched : Bool} (hm : s.matchesRules (queryHost request) = some matched) {id : UInt16}
    (hid : s.nextQueryId 65535 = some id) (address : HostAddress) (port : UInt16) :
    s.readClientDatagram address port request = ⟨{ s with
          lastQueryId := id
          pendingQueries := Function.update s.pendingQueries id
            (some (Received.pending ⟨address,port,request,matched⟩)) },
        [.forward (setMessageId request id) server],none⟩ := by
  simp [readClientDatagram,hhost,hs,hms,hm,forwardTo,hid,Received.pending]

/-- A query that is not answered takes an id for good. -/
lemma Filled.client {n : ℕ} {t : Traced} (h : Filled server rules n t) (hn : n < 65535)
    {address : HostAddress} {port : UInt16} {request : Bytes} (hhost : queryHost request ≠ "")
    {matched : Bool} (hm : matchesAny (queryHost request) rules = some matched) :
    Filled server rules (n+1) (t.next (.client address port request)) := by
  obtain ⟨free,hfree0,hfree⟩ := (exists_free_iff h.zero).mpr (h.count ▸ hn)
  obtain ⟨id,hid,hzero,hnone⟩ := exists_nextQueryId hfree0 hfree
  have hrules : t.observer.matchesRules (queryHost request) = some matched := by
    rw [matchesRules,h.rules,hm]
  have hread := readClientDatagram_single h.servers h.matched hhost hrules hid address port
  have hobserver : (t.next (.client address port request)).observer =
      { t.observer with
        lastQueryId := id
        pendingQueries := Function.update t.observer.pendingQueries id
          (some (Received.pending ⟨address,port,request,matched⟩)) } := by
    simp [Traced.next,h.fault,handle,h.active,hread]
  have hfault : (t.next (.client address port request)).fault = none := by
    simp [Traced.next,h.fault,handle,h.active,hread]
  refine ⟨hfault,?_,?_,?_,?_,?_,?_⟩
  · rw [hobserver,h.active]
  · rw [hobserver,h.servers]
  · rw [hobserver,h.matched]
  · rw [hobserver,h.rules]
  · rw [hobserver]
    exact (Function.update_of_ne (Ne.symm hzero) _ _).trans h.zero
  · rw [hobserver,pendingCount_update hnone,h.count]

/-- Queries that no server answers fill the table. -/
lemma filled_replicate {t : Traced} (h : Filled server rules 0 t) {address : HostAddress}
    {port : UInt16} {request : Bytes} (hhost : queryHost request ≠ "") {matched : Bool}
    (hm : matchesAny (queryHost request) rules = some matched) {n : ℕ} (hn : n ≤ 65535) :
    Filled server rules n (run Traced.next t (List.replicate n (.client address port request))) := by
  induction n with
  | zero => exact h
  | succ n ih =>
    rw [replicate_succ',run_append]
    exact (ih (by omega)).client (by omega) hhost hm

omit [Qt] in
/-- A full table lets the search go on for ever. -/
lemma Filled.hangs {t : Traced} (h : Filled server rules 65535 t) (fuel : ℕ) :
    t.observer.nextQueryId fuel = none := by
  cases hid : t.observer.nextQueryId fuel with
  | none => rfl
  | some id =>
    obtain ⟨hbusy,k,hk⟩ := search_eq_some _ _ hid
    have hlt := (exists_free_iff h.zero).mp ⟨id,hk ▸ iterate_increment_ne_zero _ _,by simpa using hbusy⟩
    rw [h.count] at hlt
    exact absurd hlt (lt_irrefl _)

end

section

variable [Qt] {server : HostAddress} {rules : List SplitTunnelRule}

/-- A running observer with one server and no pending query. -/
def ready (server : HostAddress) (rules : List SplitTunnelRule) (last : UInt16) :
    DnsSplitRouteObserver :=
  ⟨true,[server],[],rules,fun _ => none,last⟩

omit [Qt] in
lemma ready_nextQueryId (last : UInt16) :
    (ready server rules last).nextQueryId 65535 = some (increment last) := rfl

variable {t : Traced} {last : UInt16} {address : HostAddress} {port : UInt16} {request : Bytes}
  {matched : Bool}

/-- The query of a client is passed on under the next id. -/
lemma ready_client (hf : t.fault = none) (ho : t.observer = ready server rules last)
    (hhost : queryHost request ≠ "") (hm : matchesAny (queryHost request) rules = some matched) :
    t.next (.client address port request) = ⟨{ ready server rules (increment last) with
          pendingQueries := Function.update (fun _ => none) (increment last)
            (some (Received.pending ⟨address,port,request,matched⟩)) },none,
        t.received++[⟨address,port,request,matched⟩],t.written,
        setMessageId request (increment last)::t.passed⟩ := by
  have hrules : (ready server rules last).matchesRules (queryHost request) = some matched := hm
  have hread := readClientDatagram_single (s := ready server rules last) rfl rfl hhost hrules
    (ready_nextQueryId last) address port
  have hactive : (ready server rules last).isActive := rfl
  simp [Traced.next,outputs,arrives,restarts,handle,hf,ho,hactive,hread,hrules,answered,forwarded]
  exact ⟨rfl,rfl,rfl,rfl,rfl,rfl⟩

/-- The answer leaves the table empty again. -/
lemma asked_upstream {p : PendingQuery} (hf : t.fault = none)
    (ho : t.observer = { ready server rules last with
      pendingQueries := Function.update (fun _ => none) last (some p) })
    {response : Bytes} (hid : messageId response = last) :
    t.next (.upstream response) = ⟨ready server rules last,none,t.received,t.written++[p],t.passed⟩ := by
  have hactive : t.observer.isActive := by rw [ho]; rfl
  have hp : t.observer.pendingQueries (messageId response) = some p := by
    simp [ho,hid]
  obtain ⟨hnone,-⟩ | ⟨p',hp',hnext⟩ := next_upstream hf hactive response
  · rw [hp] at hnone
    cases hnone
  · rw [hp] at hp'
    cases hp'
    have hobserver : (t.observer.readUpstreamDatagram response).observer = ready server rules last := by
      simp only [readUpstreamDatagram,hp]
      rw [ho,hid]
      congr 1
      funext id
      by_cases he : id = last <;> simp [he]
    rw [hnext,hobserver]

lemma reply_mem_outputs {p : PendingQuery} {response : Bytes} (hf : t.fault = none)
    (hactive : t.observer.isActive) (hp : t.observer.pendingQueries (messageId response) = some p) :
    .reply (setMessageId response p.originalId) p ∈ t.outputs (.upstream response) := by
  simp [outputs,hf,handle,hactive,readUpstreamDatagram,hp]

/-- A query and the answer of a server that sends the question back. -/
def exchange (address : HostAddress) (port : UInt16) (request : Bytes) (id : UInt16) : List Event :=
  [.client address port request,.upstream (setMessageId request id)]

/-- So many exchanges one after the other, under the ids after the last one. -/
def exchanges (address : HostAddress) (port : UInt16) (request : Bytes) : ℕ → UInt16 → List Event
  | 0, _ => []
  | n+1, last => exchange address port request (increment last)++
      exchanges address port request n (increment last)

section

variable (hf : t.fault = none) (ho : t.observer = ready server rules last)
  (hlength : 2 ≤ request.length) (hhost : queryHost request ≠ "")
  (hm : matchesAny (queryHost request) rules = some matched)

include hf ho hlength hhost hm

lemma run_exchange : run Traced.next t (exchange address port request (increment last)) =
      ⟨ready server rules (increment last),none,t.received++[⟨address,port,request,matched⟩],
        t.written++[Received.pending ⟨address,port,request,matched⟩],
        setMessageId request (increment last)::t.passed⟩ := by
  rw [exchange,run_cons,ready_client hf ho hhost hm,run_cons,run_nil,
    asked_upstream rfl rfl (messageId_setMessageId hlength _)]

/-- What is left after so many exchanges. -/
lemma run_exchanges (n : ℕ) :
    let t' := run Traced.next t (exchanges address port request n last)
    t'.fault = none ∧ t'.observer = ready server rules (increment^[n] last) ∧
      t'.received = t.received++List.replicate n ⟨address,port,request,matched⟩ ∧
      (∀ f ∈ t.passed, f ∈ t'.passed) ∧
      ∀ k < n, setMessageId request (increment^[k+1] last) ∈ t'.passed := by
  induction n generalizing t last with
  | zero => exact ⟨hf,ho,(append_nil _).symm,fun _ h => h,fun _ h => absurd h (by omega)⟩
  | succ n ih =>
    rw [exchanges,run_append,run_exchange hf ho hlength hhost hm]
    obtain ⟨hf',ho',hr',hkeep,hnew⟩ := ih (t := ⟨ready server rules (increment last),none,
      t.received++[⟨address,port,request,matched⟩],
      t.written++[Received.pending ⟨address,port,request,matched⟩],
      setMessageId request (increment last)::t.passed⟩) rfl rfl
    refine ⟨hf',ho',?_,fun f hfm => hkeep f (mem_cons_of_mem _ hfm),fun k hk => ?_⟩
    · rw [hr',replicate_succ,append_assoc,singleton_append]
    · cases k with
      | zero => exact hkeep _ (mem_cons_self ..)
      | succ k => exact hnew k (by omega)

/-- Once the ids have come round, another query waits under the id of the first one. -/
lemma round_then_other {other : Bytes} {matched' : Bool} (hhost' : queryHost other ≠ "")
    (hm' : matchesAny (queryHost other) rules = some matched') (port' : UInt16) {n : ℕ} (hn : 0 < n)
    (hround : increment (increment^[n] last) = increment last) {t' : Traced}
    (ht' : t' = (run Traced.next t (exchanges address port request n last)).next
      (.client address port' other)) :
    t'.fault = none ∧ t'.observer.isActive ∧ t'.observer.pendingQueries (increment last) =
        some (Received.pending ⟨address,port',other,matched'⟩) ∧
      t'.received = t.received++List.replicate n ⟨address,port,request,matched⟩++
        [⟨address,port',other,matched'⟩] ∧ setMessageId request (increment last) ∈ t'.passed := by
  obtain ⟨hf',ho',hr,-,hnew⟩ :=
    @run_exchanges _ server rules t last address port request matched hf ho hlength hhost hm n
  rw [ready_client hf' ho' hhost' hm',hround,hr] at ht'
  rw [ht']
  exact ⟨rfl,rfl,by simp,rfl,mem_cons_of_mem _ (hnew 0 hn)⟩

/-- A server that sends the question back answers the datagram that was last passed on. -/
lemma exchanges_answersLatest {Answers : Bytes → Bytes → Prop}
    (hback : ∀ id, Answers (setMessageId request 0) (setMessageId request id)) (n : ℕ) :
    Guarded next (AnswersLatest Answers) t (exchanges address port request n last) := by
  induction n generalizing t last with
  | zero => exact guarded_nil _ _ _
  | succ n ih =>
    rw [exchanges,guarded_append,run_exchange hf ho hlength hhost hm]
    refine ⟨?_,ih rfl rfl⟩
    rw [exchange,guarded_cons,guarded_cons,ready_client hf ho hhost hm]
    refine ⟨fun response he => (by cases he),?_,guarded_nil _ _ _⟩
    intro response he
    cases he
    refine ⟨setMessageId request (increment last),?_,by simpa using hback _⟩
    simp

end

end

/-- A query for `x.ru`, where `x` is one letter. -/
def siteQuery (letter : UInt8) : Bytes :=
  [0,7,1,0,0,1,0,0,0,0,0,0,1,letter,2,0x72,0x75,0,0,1,0,1]

/-- The observer is started with one rule and one server. -/
def started : List Event := [.setRules ["a.ru"],.start [.ipv4 0x01010101] [] true]

abbrev dottedNext : Traced → Event → Traced := @Traced.next dottedQt

lemma filled_started :
    Filled (.ipv4 0x01010101) [⟨.exactHost,"a.ru","a.ru"⟩] 0 (run dottedNext Traced.start started) := by
  have hcount : (run dottedNext Traced.start started).observer.pendingCount = 0 := by
    have hnone : (run dottedNext Traced.start started).observer.pendingQueries = fun _ => none := by
      exact start_pendingQueries _ _ _ _
    simp [pendingCount,pendingIds,hnone]
  exact ⟨by decide +kernel,by decide +kernel,by decide +kernel,by decide +kernel,by decide +kernel,
    by decide +kernel,hcount⟩

lemma siteQuery_matches :
    @matchesAny dottedQt (@queryHost dottedQt (siteQuery 0x61)) [⟨.exactHost,"a.ru","a.ru"⟩] =
      some true := by
  decide +kernel

/-- After 65535 queries that no server has answered, the next one finds no id. -/
theorem unanswered_queries_hang :
    ¬∃ fuel id, (run dottedNext Traced.start (started++List.replicate 65535
      (.client (.ipv4 0x7f000001) 5000 (siteQuery 0x61)))).observer.nextQueryId fuel = some id := by
  rintro ⟨fuel,id,hid⟩
  rw [run_append] at hid
  have hnone := Filled.hangs (@filled_replicate dottedQt _ _ _ filled_started (.ipv4 0x7f000001) 5000
    (siteQuery 0x61) (by decide +kernel) _ siteQuery_matches 65535 le_rfl) fuel
  exact Option.some_ne_none id (hid.symm.trans hnone)

/-- A response answers the question of some datagram that was passed on under its id. -/
def AnswersPassed (Answers : Bytes → Bytes → Prop) (t : Traced) (e : Event) : Prop :=
  ∀ response, e = .upstream response →
    ∃ f ∈ t.passed, messageId f = messageId response ∧ Answers (setMessageId f 0) response

/-- A response that carries the question of a request. -/
def CarriesQuestion (request response : Bytes) : Prop := request.drop 12 <+: response.drop 12

instance (request response : Bytes) : Decidable (CarriesQuestion request response) :=
  inferInstanceAs (Decidable (_ <+: _))

lemma carriesQuestion_setMessageId (request : Bytes) (a b : UInt16) :
    CarriesQuestion (setMessageId request a) (setMessageId request b) := by
  have hdrop : ∀ id, (setMessageId request id).drop 12 = request.drop 12 := by
    intro id
    have h := congrArg (List.drop 10) (drop_setMessageId request id)
    rw [drop_drop,drop_drop] at h
    exact h
  rw [CarriesQuestion,hdrop,hdrop]

lemma AnswersLatest.passed {Answers : Bytes → Bytes → Prop} {t : Traced} {e : Event}
    (h : AnswersLatest Answers t e) : AnswersPassed Answers t e := by
  intro response he
  obtain ⟨f,hf,ha⟩ := h response he
  exact ⟨f,mem_of_find?_eq_some hf,by simpa using List.find?_some hf,ha⟩

lemma ready_started : (run dottedNext Traced.start started).observer =
      ready (.ipv4 0x01010101) [⟨.exactHost,"a.ru","a.ru"⟩] 1 := by
  have hready : ∀ {s : DnsSplitRouteObserver} {server rules last}, s.isActive →
      s.upstreamServers = [server] → s.matchedUpstreamServers = [] → s.rules = rules →
      s.pendingQueries = (fun _ => none) → s.lastQueryId = last → s = ready server rules last := by
    rintro ⟨_,_,_,_,_,_⟩ server rules last rfl rfl rfl rfl rfl rfl
    rfl
  exact hready filled_started.active filled_started.servers filled_started.matched
    filled_started.rules (start_pendingQueries _ _ _ _) (by decide +kernel)

/-- Nothing is answered while the observer is started. -/
lemma started_guarded (Answers : Bytes → Bytes → Prop) :
    Guarded dottedNext (AnswersLatest Answers) Traced.start started :=
  (guarded_cons _ _ _ _ _).mpr ⟨fun _ he => (by cases he),
    (guarded_cons _ _ _ _ _).mpr ⟨fun _ he => (by cases he),guarded_nil _ _ _⟩⟩

lemma exchanges_guarded (n : ℕ) : Guarded dottedNext (AnswersLatest CarriesQuestion) Traced.start
      (started++exchanges (.ipv4 0x7f000001) 5000 (siteQuery 0x61) n 1) :=
  (guarded_append _ _ _ _ _).mpr ⟨started_guarded _,
    @exchanges_answersLatest dottedQt _ _ _ _ _ _ _ _ filled_started.fault ready_started
      (by decide) (by decide +kernel) siteQuery_matches _ (carriesQuestion_setMessageId _ _) n⟩

/-- Answers that come at once are relayed to the client that asked. -/
theorem prompt_answers_relayed :
    Guarded dottedNext (@RelaysAnswers dottedQt CarriesQuestion) Traced.start
      (started++exchanges (.ipv4 0x7f000001) 5000 (siteQuery 0x61) 3 1) :=
  @answers_belong_to_question dottedQt CarriesQuestion _ (exchanges_guarded 3)

/-- All ids are used once for answered queries, and then the first one for another query. -/
def roundThenOther : List Event :=
  started++exchanges (.ipv4 0x7f000001) 5000 (siteQuery 0x61) 65535 1++
    [.client (.ipv4 0x7f000001) 6000 (siteQuery 0x62)]

/-- The other query waits under the id of the first one. -/
lemma other_waits {t : Traced} (ht : t = run dottedNext Traced.start roundThenOther) :
    t.fault = none ∧ t.observer.isActive ∧
      t.observer.pendingQueries 2 = some (@Received.pending dottedQt
        ⟨.ipv4 0x7f000001,6000,siteQuery 0x62,false⟩) ∧
      (∀ q ∈ t.received, q.port = 6000 → q.request = siteQuery 0x62) ∧
      setMessageId (siteQuery 0x61) 2 ∈ t.passed := by
  have hround : increment (increment^[65535] 1) = increment 1 :=
    UInt16.toNat_inj.mp ((congrArg UInt16.toNat
      (Function.iterate_succ_apply' increment 65535 1)).symm.trans (toNat_iterate_increment 1 65535))
  have hother : @matchesAny dottedQt (@queryHost dottedQt (siteQuery 0x62))
      [⟨.exactHost,"a.ru","a.ru"⟩] = some false := by
    decide +kernel
  have hnone : (run dottedNext Traced.start started).received = [] := by rfl
  rw [roundThenOther,run_append,run_append,run_cons,run_nil] at ht
  obtain ⟨hf,hactive,hpending,hreceived,hpassed⟩ := @round_then_other dottedQt _ _ _ 1
    (.ipv4 0x7f000001) 5000 (siteQuery 0x61) true filled_started.fault ready_started (by decide)
    (by decide +kernel) siteQuery_matches (siteQuery 0x62) false (by decide +kernel) hother 6000 65535
    (by omega) hround t ht
  refine ⟨hf,hactive,hpending,?_,hpassed⟩
  intro q hq hport
  rw [hreceived,hnone,nil_append,mem_append,mem_singleton] at hq
  rcases hq with hq | rfl
  · rw [eq_of_mem_replicate hq] at hport
    cases hport
  · rfl

/-- A copy of the first answer comes after its id has been given again, and goes to the client of
the other query. -/
theorem late_answer_goes_astray : Guarded dottedNext (AnswersPassed CarriesQuestion) Traced.start
        (roundThenOther++[.upstream (setMessageId (siteQuery 0x61) 2)]) ∧
      ¬Guarded dottedNext (@RelaysAnswers dottedQt CarriesQuestion) Traced.start
        (roundThenOther++[.upstream (setMessageId (siteQuery 0x61) 2)]) := by
  have hid : messageId (setMessageId (siteQuery 0x61) 2) = 2 := messageId_setMessageId (by decide) 2
  obtain ⟨hf,hactive,hpending,hport,hpassed⟩ := other_waits rfl
  constructor
  · rw [guarded_append,roundThenOther,guarded_append]
    refine ⟨⟨fun pre e hp => (exchanges_guarded 65535 pre e hp).passed,?_⟩,?_⟩
    · exact (guarded_cons _ _ _ _ _).mpr ⟨fun _ he => (by cases he),guarded_nil _ _ _⟩
    · refine (guarded_cons _ _ _ _ _).mpr ⟨?_,guarded_nil _ _ _⟩
      intro response he
      cases he
      exact ⟨_,hpassed,rfl,by simpa using carriesQuestion_setMessageId (siteQuery 0x61) 0 2⟩
  · intro h
    obtain ⟨q,hq,-,hp,-,response,he,ha⟩ := h roundThenOther _ (prefix_refl _) _
      (@reply_mem_outputs dottedQt _ _ _ hf hactive (hid ▸ hpending))
    cases he
    rw [hport q hq hp] at ha
    exact absurd ha (by decide)

end AlzheimerVPN.DnsSplitRouteObserver
