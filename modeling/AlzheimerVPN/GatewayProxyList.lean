import AlzheimerVPN.GatewayBypass

/-! The list of proxies that `getProxyUrls` and `getProxyUrlsAsync` find and save. The first asks
the storages one after another and takes the first reply that it can decrypt; the second asks all
at once and takes the first reply that lists a proxy. -/
namespace AlzheimerVPN.GatewayController

open Runs Thread List Option

section

/-- The payloads that have been saved. -/
def savedPayloads (outputs : List Output) : List Body :=
  outputs.filterMap fun output =>
    match output with
    | .saved payload => some payload
    | _ => none

/-- The lists that have been handed over. -/
def handedLists (outputs : List Output) : List (List String) :=
  outputs.filterMap fun output =>
    match output with
    | .proxyUrls urls => some urls
    | _ => none

@[simp] lemma savedPayloads_append (x y : List Output) :
    savedPayloads (x++y) = savedPayloads x++savedPayloads y := filterMap_append

@[simp] lemma handedLists_append (x y : List Output) :
    handedLists (x++y) = handedLists x++handedLists y := filterMap_append

/-- The call has its list. -/
def Beyond : Phase → Prop
  | .direct => False
  | .storage _ _ _ => False
  | .search _ _ => False
  | _ => True

/-- A step of a call that has its list. -/
structure Quiet (cache : String → Body) (r : Step) : Prop where
  cache : r.1.cache = cache
  saved : savedPayloads r.2.2 = []
  handed : handedLists r.2.2 = []
  beyond : Beyond r.2.1

/-- A step with which a call gets its list. -/
structure HandsOver (call : Call) (s : Shared) (r : Step) (saves : List Body)
    (urls : List String) : Prop where
  cache : r.1.cache = (saves.foldl (cacheWith call) s).cache
  saved : savedPayloads r.2.2 = saves
  handed : handedLists r.2.2 = [urls]
  beyond : Beyond r.2.1

variable [Platform] {cfg : Config} {call : Call} {s : Shared} {seen : Seen}

omit [Platform] in
lemma quiet_finish (result : ErrorCode × Body) : Quiet s.cache (finish s result) :=
  ⟨rfl,rfl,rfl,trivial⟩

lemma quiet_attemptFrom (remembered : Bool) (candidates : List String) (index : ℕ) :
    Quiet s.cache (attemptFrom s remembered candidates index seen) := by
  rw [attemptFrom]
  split
  · exact ⟨rfl,rfl,rfl,trivial⟩
  · exact quiet_finish _

variable (proxyUrls : List String)

lemma quiet_attempts : Quiet s.cache (attempts s proxyUrls seen) := by
  rw [attempts]
  split_ifs <;> exact quiet_attemptFrom _ _ _

lemma quiet_probeFrom (index : ℕ) : Quiet s.cache (probeFrom s proxyUrls index seen) := by
  rw [probeFrom]
  split
  · exact ⟨rfl,rfl,rfl,trivial⟩
  · exact quiet_attempts _

lemma quiet_getProxyUrlAsync (index : ℕ) :
    Quiet s.cache (getProxyUrlAsync s proxyUrls index) := by
  rw [getProxyUrlAsync]
  split
  · exact ⟨rfl,rfl,rfl,trivial⟩
  · exact quiet_finish _

omit [Platform] in
lemma Quiet.handsOver {r : Step} (h : Quiet s.cache r) (urls : List String) :
    HandsOver call s (emit (.proxyUrls urls) r) [] urls := by
  refine ⟨h.cache,h.saved,?_,h.beyond⟩
  rw [emit,← singleton_append,handedLists_append,h.handed]
  rfl

lemma handsOver_bypass : HandsOver call s (bypass call s proxyUrls seen) [] proxyUrls := by
  simp only [bypass]
  refine Quiet.handsOver ?_ proxyUrls
  split_ifs
  · exact quiet_probeFrom _ _
  · exact quiet_attempts _

lemma handsOver_onProxyUrls :
    HandsOver call s (onProxyUrls call s proxyUrls) [] (call.shuffle 2 proxyUrls) :=
  (quiet_getProxyUrlAsync _ 0).handsOver _

omit [Platform] in
lemma handsOver_write {encrypted : Body} {next : Shared → Step} {urls : List String}
    (h : HandsOver call (cacheWith call s encrypted) (next (cacheWith call s encrypted)) [] urls) :
    HandsOver call s (writeGatewayProxyUrls call s encrypted next) [encrypted] urls := by
  refine ⟨h.cache,?_,h.handed,h.beyond⟩
  rw [writeGatewayProxyUrls,emit,← singleton_append,savedPayloads_append,h.saved]
  rfl

variable (cfg call s) in
lemma quiet_step {phase : Phase} (h : Beyond phase) (event : Event) :
    Quiet s.cache (step cfg call s phase event) := by
  have hsame : Quiet s.cache (s,phase,[]) := ⟨rfl,rfl,rfl,h⟩
  cases phase with
  | direct => exact h.elim
  | storage cached index seen => exact h.elim
  | search pending finishedCount => exact h.elim
  | probe proxyUrls index seen => cases event with
    | probe i reply =>
      simp only [step]
      split_ifs
      · exact hsame
      · exact quiet_probeFrom _ _
      · exact quiet_probeFrom (s := { s with proxyUrl := proxyUrls.getD index "" }) _ _
      · exact quiet_attempts (s := { s with proxyUrl := proxyUrls.getD index "" }) _
    | _ => exact hsame
  | attempt remembered candidates index seen => cases event with
    | attempt i reply =>
      simp only [step]
      split
      · exact hsame
      · split
        · split_ifs
          · exact quiet_finish _
          · exact ⟨rfl,rfl,rfl,trivial⟩
        · exact quiet_attemptFrom _ _ _
    | _ => exact hsame
  | probeAsync proxyUrls index => cases event with
    | probe i reply =>
      simp only [step]
      split_ifs
      · exact hsame
      · exact quiet_getProxyUrlAsync _ _
      · exact ⟨rfl,rfl,rfl,trivial⟩
      · exact ⟨rfl,rfl,rfl,trivial⟩
    | _ => exact hsame
  | attemptAsync => cases event with
    | attempt i reply => exact ⟨rfl,rfl,rfl,trivial⟩
    | _ => exact hsame
  | finished => cases event <;> exact hsame

/-- Once a call has its list, nothing is saved and no list is handed over. -/
lemma run_beyond (cfg : Config) (call : Call) {t : Thread} (h : Beyond t.phase)
    (events : List Event) :
    (run (feed cfg call) t events).shared.cache = t.shared.cache ∧
      savedPayloads (run (feed cfg call) t events).outputs = savedPayloads t.outputs ∧
      handedLists (run (feed cfg call) t events).outputs = handedLists t.outputs := by
  have hstep : ∀ t' event, (Beyond t'.phase ∧ t'.shared.cache = t.shared.cache ∧
      savedPayloads t'.outputs = savedPayloads t.outputs ∧
      handedLists t'.outputs = handedLists t.outputs) →
      Beyond (feed cfg call t' event).phase ∧
        (feed cfg call t' event).shared.cache = t.shared.cache ∧
        savedPayloads (feed cfg call t' event).outputs = savedPayloads t.outputs ∧
        handedLists (feed cfg call t' event).outputs = handedLists t.outputs := by
    rintro t' event ⟨hbeyond,hcache,hsaved,hhanded⟩
    have hquiet := quiet_step cfg call t'.shared hbeyond event
    refine ⟨hquiet.beyond,hquiet.cache.trans hcache,?_,?_⟩
    · simp only [feed,savedPayloads_append,hquiet.saved,append_nil,hsaved]
    · simp only [feed,handedLists_append,hquiet.handed,append_nil,hhanded]
  exact (run_invariant_of_step hstep ⟨h,rfl,rfl,rfl⟩ events).2

lemma beyond_run {t : Thread} (h : Beyond t.phase) (events : List Event) :
    Beyond (run (feed cfg call) t events).phase :=
  run_invariant_of_step (P := fun t : Thread => Beyond t.phase)
    (fun t event ht => (quiet_step cfg call t.shared ht event).beyond) h events

end

section

variable [Platform] (cfg : Config) (call : Call) (s : Shared) (replies : ℕ → Reply)

/-- The list is saved only from a reply that lists a proxy, and one list is handed over, that of
such a reply if there is one and the cached list otherwise. -/
structure Handled (members : List ℕ) (t : Thread) : Prop where
  saves : (savedPayloads t.outputs = [] ∧ t.shared.cache = s.cache) ∨
    ∃ i ∈ members, (usefulList cfg (replies i)).isSome ∧
      savedPayloads t.outputs = [(replies i).body] ∧
      t.shared.cache = (cacheWith call s (replies i).body).cache
  hands : ∃ urls, handedLists t.outputs = [urls] ∧
    ((∃ i ∈ members, ∃ list, usefulList cfg (replies i) = some list ∧ urls.Perm list) ∨
      (∀ i ∈ members, usefulList cfg (replies i) = none) ∧
        urls.Perm (readCachedProxyUrls cfg (s.cache (proxyUrlsCacheKey call))))

variable {cfg call s replies} {members : List ℕ}

lemma Handled.after {t : Thread} (h : Handled cfg call s replies members t)
    (hbeyond : Beyond t.phase) (events : List Event) :
    Handled cfg call s replies members (run (feed cfg call) t events) := by
  obtain ⟨hcache,hsaved,hhanded⟩ := run_beyond cfg call hbeyond events
  refine ⟨?_,?_⟩
  · rw [hcache,hsaved]
    exact h.saves
  · rw [hhanded]
    exact h.hands

/-- A call that has done a step. -/
def Thread.of (outputs : List Output) (r : Step) : Thread := ⟨r.1,r.2.1,outputs++r.2.2⟩

/-- Nothing has been saved or handed over. -/
def Silent (outputs : List Output) : Prop :=
  savedPayloads outputs = [] ∧ handedLists outputs = []

omit [Platform] in
lemma Silent.append_requests {outputs : List Output} (h : Silent outputs)
    (requests : List Request) : Silent (outputs++requests.map .request) := by
  have hnone : ∀ requests : List Request, Silent (requests.map .request) := by
    intro requests
    induction requests with
    | nil => exact ⟨rfl,rfl⟩
    | cons request requests ih => exact ih
  obtain ⟨hsaved,hhanded⟩ := hnone requests
  exact ⟨by rw [savedPayloads_append,h.1,hsaved]; rfl,by rw [handedLists_append,h.2,hhanded]; rfl⟩

lemma handled_cached {outputs : List Output} (hsilent : Silent outputs)
    (hnone : ∀ i ∈ members, usefulList cfg (replies i) = none) {r : Step} {urls : List String}
    (h : HandsOver call s r [] urls)
    (hperm : urls.Perm (readCachedProxyUrls cfg (s.cache (proxyUrlsCacheKey call)))) :
    Handled cfg call s replies members (of outputs r) := by
  refine ⟨.inl ⟨?_,h.cache⟩,urls,?_,.inr ⟨hnone,hperm⟩⟩
  · rw [of,savedPayloads_append,hsilent.1,h.saved]
    rfl
  · rw [of,handedLists_append,hsilent.2,h.handed]
    rfl

lemma handled_useful {outputs : List Output} (hsilent : Silent outputs) {i : ℕ} (hi : i ∈ members)
    {list : List String} (hlist : usefulList cfg (replies i) = some list) {r : Step}
    {urls : List String} (h : HandsOver call s r [(replies i).body] urls) (hperm : urls.Perm list) :
    Handled cfg call s replies members (of outputs r) := by
  refine ⟨.inr ⟨i,hi,by rw [hlist]; rfl,?_,h.cache⟩,urls,?_,.inl ⟨i,hi,list,hlist,hperm⟩⟩
  · rw [of,savedPayloads_append,hsilent.1,h.saved]
    rfl
  · rw [of,handedLists_append,hsilent.2,h.handed]
    rfl

end

section

variable [Platform] {cfg : Config} {call : Call} {s : Shared} {replies : ℕ → Reply} {seen : Seen}

/-- A reply that `getProxyUrls` takes. -/
def Accepted (cfg : Config) (reply : Reply) : Prop :=
  reply.error = .noError ∧ (decryptProxyUrlsPayload cfg reply.body).isSome

def storageEvents (replies : ℕ → Reply) (first count : ℕ) : List Event :=
  (List.range' first count).map fun i => .storage i (replies i)

lemma accepted_of_useful {reply : Reply} {list : List String}
    (h : usefulList cfg reply = some list) : Accepted cfg reply := by
  rw [usefulList] at h
  split_ifs at h with hreply
  refine ⟨hreply.1,?_⟩
  cases hpayload : decryptProxyUrlsPayload cfg reply.body with
  | none => simp [hpayload] at h
  | some payload => rfl

/-- How `getProxyUrls` ends: with the first reply that it takes, or with the cached list. -/
inductive Sequential (cfg : Config) (call : Call) (s : Shared) (replies : ℕ → Reply)
    (cached : Body) (first count : ℕ) (outputs : List Output) (seen : Seen) (t : Thread) : Prop
  | taken (i : ℕ) (payload : Body) (more : List Output) (hmem : i ∈ List.range' first count)
      (hbefore : ∀ j ∈ List.range' first count, j < i → ¬Accepted cfg (replies j))
      (herror : (replies i).error = .noError)
      (hpayload : decryptProxyUrlsPayload cfg (replies i).body = some payload)
      (hsilent : Silent more)
      (ht : ∃ events, t = run (feed cfg call) (of (outputs++more)
        (writeGatewayProxyUrls call s (replies i).body fun s =>
          bypass call s (endpointsOf payload) seen)) events)
  | cached (more : List Output) (hnone : ∀ j ∈ List.range' first count, ¬Accepted cfg (replies j))
      (hsilent : Silent more)
      (ht : t = of (outputs++more) (bypass call s (readCachedProxyUrls cfg cached) seen))

lemma run_storage (cfg : Config) (call : Call) (s : Shared) (replies : ℕ → Reply)
    (cached : Body) (seen : Seen) (outputs : List Output) {count first : ℕ}
    (hcount : first+count = (proxyStorageUrls cfg call).length) :
    Sequential cfg call s replies cached first count outputs seen
      (run (feed cfg call) (of outputs (storageFrom cfg call s cached first seen))
        (storageEvents replies first count)) := by
  induction count generalizing first outputs with
  | zero =>
    have hend : (proxyStorageUrls cfg call)[first]? = none := List.getElem?_eq_none (by omega)
    refine .cached [] (by simp) ⟨rfl,rfl⟩ ?_
    simp [storageFrom,hend,storageEvents]
  | succ count ih =>
    obtain ⟨url,hurl⟩ : ∃ url, (proxyStorageUrls cfg call)[first]? = some url :=
      ⟨_,List.getElem?_eq_getElem (by omega)⟩
    have hevents : storageEvents replies first (count+1) =
        .storage first (replies first)::storageEvents replies (first+1) count := rfl
    have hstart : storageFrom cfg call s cached first seen =
        (s,.storage cached first seen,[.request (.storage url)]) := by
      rw [storageFrom,hurl]
    have hsilent : Silent [.request (.storage url)] := ⟨rfl,rfl⟩
    rw [hevents,run_cons,hstart]
    by_cases haccepted : Accepted cfg (replies first)
    · obtain ⟨payload,hpayload⟩ := isSome_iff_exists.mp haccepted.2
      refine .taken first payload [.request (.storage url)] (by simp) ?_ haccepted.1 hpayload
        hsilent ⟨storageEvents replies (first+1) count,?_⟩
      · intro j hj hlt
        have hle := (mem_range'_1.mp hj).1
        omega
      · simp [feed,step,of,haccepted.1,hpayload]
    · -- The next storage is asked, with one more request behind.
      have hfeed : feed cfg call (of outputs (s,.storage cached first seen,
          [.request (.storage url)])) (.storage first (replies first)) =
          of (outputs++[.request (.storage url)])
            (storageFrom cfg call s cached (first+1) seen) := by
        by_cases herror : (replies first).error = .noError
        · have hpayload : decryptProxyUrlsPayload cfg (replies first).body = none := by
            by_contra hsome
            exact haccepted ⟨herror,isSome_iff_ne_none.mpr hsome⟩
          simp [feed,step,of,herror,hpayload]
        · simp [feed,step,of,herror]
      rw [hfeed]
      have hlater : ∀ j ∈ List.range' first (count+1),
          j = first ∨ j ∈ List.range' (first+1) count := by
        intro j hj
        simpa [List.range'_succ] using hj
      cases ih (outputs++[.request (.storage url)]) (by omega : (first+1)+count = _) with
      | taken i payload more hmem hbefore herror hpayload hmore ht =>
        refine .taken i payload ([.request (.storage url)]++more) ?_ ?_ herror hpayload ?_ ?_
        · rw [List.range'_succ]
          exact mem_cons_of_mem _ hmem
        · intro j hj hlt
          rcases hlater j hj with rfl | hj
          · exact haccepted
          · exact hbefore j hj hlt
        · exact ⟨by simpa [savedPayloads] using hmore.1,by simpa [handedLists] using hmore.2⟩
        · simpa [append_assoc] using ht
      | cached more hnone hmore ht =>
        refine .cached ([.request (.storage url)]++more) ?_ ?_ ?_
        · intro j hj
          rcases hlater j hj with rfl | hj
          · exact haccepted
          · exact hnone j hj
        · exact ⟨by simpa [savedPayloads] using hmore.1,by simpa [handedLists] using hmore.2⟩
        · simpa [append_assoc] using ht

/-- Replies with the same error and the same body list the same. -/
lemma usefulList_congr {a b : Reply} (herror : a.error = b.error) (hbody : a.body = b.body) :
    usefulList cfg a = usefulList cfg b := by
  rw [usefulList,usefulList,herror,hbody]

lemma usefulList_of_payload {reply : Reply} {payload : Body} {list : List String}
    (hpayload : decryptProxyUrlsPayload cfg reply.body = some payload)
    (h : usefulList cfg reply = some list) : list = endpointsOf payload := by
  rw [usefulList,hpayload,map_some] at h
  split_ifs at h
  exact (Option.some.inj (filter_eq_some_iff.mp h).1).symm

/-- `getProxyUrls` is as it should be exactly if the first reply that it takes lists a proxy. -/
lemma sequential_handled_iff (cfg : Config) (call : Call) (s : Shared) (seen : Seen)
    (replies : ℕ → Reply) (later : List Event) :
    Handled cfg call s replies (List.range (proxyStorageUrls cfg call).length)
        (run (feed cfg call) (of [] (getProxyUrls cfg call s seen))
          (storageEvents replies 0 (proxyStorageUrls cfg call).length++later)) ↔
      ∀ i < (proxyStorageUrls cfg call).length, Accepted cfg (replies i) →
        (∀ j < i, ¬Accepted cfg (replies j)) → (usefulList cfg (replies i)).isSome := by
  have hrun := run_storage cfg call s replies (s.cache (proxyUrlsCacheKey call)) seen []
    (Nat.zero_add (proxyStorageUrls cfg call).length)
  rw [run_append,getProxyUrls]
  cases hrun with
  | taken i payload more hmem hbefore herror hpayload hsilent ht =>
    rw [← range_eq_range',mem_range] at hmem
    have hfirst : ∀ j < i, ¬Accepted cfg (replies j) := fun j hj =>
      hbefore j (by rw [← range_eq_range',mem_range]; omega) hj
    have haccepted : Accepted cfg (replies i) := ⟨herror,by rw [hpayload]; rfl⟩
    have hover : HandsOver call s (writeGatewayProxyUrls call s (replies i).body fun s =>
        bypass call s (endpointsOf payload) seen) [(replies i).body] (endpointsOf payload) :=
      handsOver_write (handsOver_bypass _)
    obtain ⟨events,ht⟩ := ht
    rw [ht,← run_append]
    constructor
    · intro hhandled k hk hkaccepted hkfirst
      obtain rfl : k = i := by
        rcases Nat.lt_trichotomy k i with hlt | heq | hgt
        · exact absurd hkaccepted (hfirst k hlt)
        · exact heq
        · exact absurd haccepted (hkfirst i hgt)
      have hsaved : savedPayloads (run (feed cfg call) (of ([]++more)
          (writeGatewayProxyUrls call s (replies k).body fun s =>
            bypass call s (endpointsOf payload) seen)) (events++later)).outputs =
              [(replies k).body] := by
        rw [(run_beyond cfg call hover.beyond _).2.1,of,savedPayloads_append,
          hover.saved,nil_append,hsilent.1]
        rfl
      -- What has been saved is the body of a reply that lists a proxy.
      rcases hhandled.saves with ⟨hnone,-⟩ | ⟨m,-,huseful,hbody,-⟩
      · rw [hsaved] at hnone
        cases hnone
      · rw [hsaved] at hbody
        obtain ⟨list,hlist⟩ := isSome_iff_exists.mp huseful
        have hsame := (accepted_of_useful hlist).1.trans herror.symm
        rwa [usefulList_congr hsame (List.cons.inj hbody).1.symm] at huseful
    · intro hcond
      obtain ⟨list,hlist⟩ := isSome_iff_exists.mp (hcond i hmem haccepted hfirst)
      refine (handled_useful hsilent (mem_range.mpr hmem) hlist hover ?_).after hover.beyond _
      rw [usefulList_of_payload hpayload hlist]
  | cached more hnone hsilent ht =>
    have hover : HandsOver call s (bypass call s (readCachedProxyUrls cfg
        (s.cache (proxyUrlsCacheKey call))) seen) [] _ := handsOver_bypass _
    rw [ht]
    refine iff_of_true ?_ ?_
    · refine (handled_cached hsilent ?_ hover (List.Perm.refl _)).after hover.beyond _
      intro i hi
      cases hlist : usefulList cfg (replies i) with
      | none => rfl
      | some list =>
        rw [range_eq_range'] at hi
        exact absurd (accepted_of_useful hlist) (hnone i hi)
    · intro i hi haccepted
      refine absurd haccepted (hnone i ?_)
      rw [← range_eq_range',mem_range]
      exact hi

end

section

variable [Platform] {cfg : Config} {call : Call} {s : Shared} {replies : ℕ → Reply}

lemma Handled.congr {a b : List ℕ} (h : ∀ i, i ∈ a ↔ i ∈ b) {t : Thread}
    (ht : Handled cfg call s replies a t) : Handled cfg call s replies b t :=
  ⟨by simpa only [h] using ht.saves,by simpa only [h] using ht.hands⟩

/-- A reply without a list changes nothing. -/
lemma Handled.cons {members : List ℕ} {t : Thread} (ht : Handled cfg call s replies members t)
    {i : ℕ} (hi : usefulList cfg (replies i) = none) :
    Handled cfg call s replies (i::members) t := by
  refine ⟨ht.saves.imp_right ?_,?_⟩
  · rintro ⟨k,hk,hsaved⟩
    exact ⟨k,mem_cons_of_mem i hk,hsaved⟩
  · obtain ⟨urls,hurls,⟨k,hk,hlist⟩ | ⟨hnone,hperm⟩⟩ := ht.hands
    · exact ⟨urls,hurls,.inl ⟨k,mem_cons_of_mem i hk,hlist⟩⟩
    · exact ⟨urls,hurls,.inr ⟨forall_mem_cons.mpr ⟨hi,hnone⟩,hperm⟩⟩

/-- The replies in the order in which they come. -/
def arrivals (replies : ℕ → Reply) (order : List ℕ) : List Event :=
  order.map fun i => .storage i (replies i)

variable (s replies) in
lemma run_search {order pending : List ℕ} {finishedCount : ℕ} {outputs : List Output}
    (hsilent : Silent outputs) (hnodup : order.Nodup) (hpending : ∀ i ∈ order, i ∈ pending)
    (hcount : finishedCount+order.length = (proxyStorageUrls cfg call).length) (hne : order ≠ []) :
    Handled cfg call s replies order (run (feed cfg call) ⟨s,.search pending finishedCount,outputs⟩
        (arrivals replies order)) ∧
      Beyond (run (feed cfg call) ⟨s,.search pending finishedCount,outputs⟩
        (arrivals replies order)).phase := by
  induction order generalizing pending finishedCount with
  | nil => exact absurd rfl hne
  | cons i order ih =>
    obtain ⟨hi,hrest⟩ := forall_mem_cons.mp hpending
    obtain ⟨hnot,hnodup⟩ := nodup_cons.mp hnodup
    have hevents : arrivals replies (i::order) =
        .storage i (replies i)::arrivals replies order := rfl
    have hfeed : feed cfg call ⟨s,.search pending finishedCount,outputs⟩ (.storage i (replies i)) =
        of outputs (onStorageReply cfg call s pending finishedCount i (replies i)) := by
      simp only [feed,step,hi,if_true,of]
    rw [hevents,run_cons,hfeed]
    cases hlist : usefulList cfg (replies i) with
    | some endpoints =>
      have hover : HandsOver call s (onStorageReply cfg call s pending finishedCount i (replies i))
          [(replies i).body] (call.shuffle 2 endpoints) := by
        rw [onStorageReply,hlist]
        exact handsOver_write (handsOver_onProxyUrls endpoints)
      have hhandled := handled_useful hsilent (mem_cons_self : i ∈ i::order) hlist hover
        (call.shuffle_perm 2 endpoints)
      exact ⟨hhandled.after hover.beyond _,beyond_run hover.beyond _⟩
    | none =>
      cases order with
      | nil =>
        have hlast : (proxyStorageUrls cfg call).length ≤ finishedCount+1 := by
          simpa using hcount.ge
        have hover : HandsOver call s
            (onStorageReply cfg call s pending finishedCount i (replies i)) []
            (call.shuffle 2 (readCachedProxyUrls cfg (s.cache (proxyUrlsCacheKey call)))) := by
          rw [onStorageReply,hlist]
          simp only [hlast,if_true]
          exact handsOver_onProxyUrls _
        exact ⟨handled_cached hsilent (by simpa using hlist) hover (call.shuffle_perm 2 _),
          hover.beyond⟩
      | cons k order =>
        have hmore : ¬(proxyStorageUrls cfg call).length ≤ finishedCount+1 := by
          simp only [length_cons] at hcount
          omega
        have hstep : of outputs
            (onStorageReply cfg call s pending finishedCount i (replies i)) =
            ⟨s,.search (pending.erase i) (finishedCount+1),outputs⟩ := by
          rw [onStorageReply,hlist]
          simp only [hmore,if_false,of,append_nil]
        have hleft : ∀ j ∈ k::order, j ∈ pending.erase i := by
          intro j hj
          refine (mem_erase_of_ne ?_).mpr (hrest j hj)
          rintro rfl
          exact hnot hj
        have hcount' : finishedCount+1+(k::order).length = (proxyStorageUrls cfg call).length := by
          rw [← hcount,length_cons (a := i)]
          omega
        rw [hstep]
        obtain ⟨hhandled,hbeyond⟩ := ih hnodup hleft hcount' (by simp)
        exact ⟨hhandled.cons hlist,hbeyond⟩

/-- `getProxyUrlsAsync` is as it should be in every order of the replies. -/
lemma parallel_handled (cfg : Config) (call : Call) (s : Shared) (replies : ℕ → Reply)
    {order : List ℕ} (horder : order.Perm (List.range (proxyStorageUrls cfg call).length))
    (later : List Event) :
    Handled cfg call s replies (List.range (proxyStorageUrls cfg call).length)
      (run (feed cfg call) (of [] (getProxyUrlsAsync cfg call s))
        (arrivals replies order++later)) := by
  have hlength : order.length = (proxyStorageUrls cfg call).length := by
    rw [horder.length_eq,List.length_range]
  rw [run_append]
  by_cases hempty : proxyStorageUrls cfg call = []
  · have hover : HandsOver call s (getProxyUrlsAsync cfg call s) []
        (call.shuffle 2 (readCachedProxyUrls cfg (s.cache (proxyUrlsCacheKey call)))) := by
      simp only [getProxyUrlsAsync,hempty,List.isEmpty_nil,if_true]
      exact handsOver_onProxyUrls _
    have hnil : order = [] := List.length_eq_zero_iff.mp (by rw [hlength,hempty]; rfl)
    rw [hnil,hempty]
    exact (handled_cached ⟨rfl,rfl⟩ (by simp) hover (call.shuffle_perm 2 _)).after hover.beyond _
  · have hstart : of [] (getProxyUrlsAsync cfg call s) =
        ⟨s,.search (List.range (proxyStorageUrls cfg call).length) 0,
          []++((proxyStorageUrls cfg call).map Request.storage).map .request⟩ := by
      simp only [getProxyUrlsAsync,List.isEmpty_iff,hempty,if_false,of,List.map_map]
      rfl
    have hne : order ≠ [] := by
      rw [← List.length_pos_iff,hlength]
      exact List.length_pos_of_ne_nil hempty
    have hsilent : Silent ([]++((proxyStorageUrls cfg call).map Request.storage).map .request) :=
      Silent.append_requests ⟨rfl,rfl⟩ _
    rw [hstart]
    obtain ⟨hhandled,hbeyond⟩ := run_search s replies hsilent
      (horder.nodup_iff.mpr List.nodup_range) (fun i hi => horder.mem_iff.mp hi)
      (by rw [Nat.zero_add,hlength]) hne
    exact (hhandled.congr fun i => horder.mem_iff).after hbeyond later

/-- Neither search saves or hands over a useless list, whatever the replies and their order,
provided that the first reply that `getProxyUrls` can decrypt lists a proxy. -/
theorem saved_list_useful_iff (cfg : Config) (call : Call) (s : Shared) (seen : Seen)
    (replies : ℕ → Reply) {order : List ℕ}
    (horder : order.Perm (List.range (proxyStorageUrls cfg call).length))
    (later later' : List Event) :
    Handled cfg call s replies (List.range (proxyStorageUrls cfg call).length)
        (run (feed cfg call) (of [] (getProxyUrlsAsync cfg call s))
          (arrivals replies order++later)) ∧
      (Handled cfg call s replies (List.range (proxyStorageUrls cfg call).length)
          (run (feed cfg call) (of [] (getProxyUrls cfg call s seen))
            (storageEvents replies 0 (proxyStorageUrls cfg call).length++later')) ↔
        ∀ i < (proxyStorageUrls cfg call).length, Accepted cfg (replies i) →
          (∀ j < i, ¬Accepted cfg (replies j)) → (usefulList cfg (replies i)).isSome) :=
  ⟨parallel_handled cfg call s replies horder later,
    sequential_handled_iff cfg call s seen replies later'⟩

end

def twoStorages : Config := ⟨"https://gateway/",false,["https://s1/","https://s2/"],[]⟩

/-- A list of three proxies has been cached. -/
def cachedShared : Shared := ⟨"",fun _ => [1]⟩

def unseen : Seen := ⟨[],.timeoutError,⟨[],false⟩⟩

/-- The second storage lists three proxies. -/
def repliesAfter (first : Reply) : ℕ → Reply
  | 1 => ⟨[],.noError,[1]⟩
  | _ => first

/-- A storage that is not there is passed over in both searches. -/
theorem absent_storage_skipped :
    [1,0].Perm (List.range (@proxyStorageUrls samplePlatform twoStorages samplePost).length) ∧
      @Handled samplePlatform twoStorages samplePost cachedShared (repliesAfter noReply)
        (List.range (@proxyStorageUrls samplePlatform twoStorages samplePost).length)
        (run (@feed samplePlatform twoStorages samplePost)
          (of [] (@getProxyUrlsAsync samplePlatform twoStorages samplePost cachedShared))
          (arrivals (repliesAfter noReply) [1,0]++[])) ∧
      @Handled samplePlatform twoStorages samplePost cachedShared (repliesAfter noReply)
        (List.range (@proxyStorageUrls samplePlatform twoStorages samplePost).length)
        (run (@feed samplePlatform twoStorages samplePost)
          (of [] (@getProxyUrls samplePlatform twoStorages samplePost cachedShared unseen))
          (storageEvents (repliesAfter noReply) 0
            (@proxyStorageUrls samplePlatform twoStorages samplePost).length++[])) := by
  have horder : [1,0].Perm
      (List.range (@proxyStorageUrls samplePlatform twoStorages samplePost).length) := by
    have hlength : (@proxyStorageUrls samplePlatform twoStorages samplePost).length = 2 := rfl
    rw [hlength]
    decide
  have hboth := @saved_list_useful_iff samplePlatform twoStorages samplePost cachedShared unseen
    (repliesAfter noReply) [1,0] horder [] []
  refine ⟨horder,hboth.1,hboth.2.mpr ?_⟩
  intro i hi haccepted _
  match i, hi, haccepted with
  | 0, _, haccepted => exact absurd haccepted.1 (by decide)
  | 1, _, _ => decide
  | _+2, hi, _ => exact absurd hi (by simp +arith [show (@proxyStorageUrls samplePlatform twoStorages
      samplePost).length = 2 from rfl])

/-- A payload without a list replaces the cached list, although the next storage has one. -/
theorem useless_payload_saved : savedPayloads (run (@feed samplePlatform twoStorages samplePost)
        (of [] (@getProxyUrls samplePlatform twoStorages samplePost cachedShared unseen))
        (storageEvents (repliesAfter ⟨[],.noError,[2]⟩) 0 2)).outputs = [[2]] ∧
      handedLists (run (@feed samplePlatform twoStorages samplePost)
        (of [] (@getProxyUrls samplePlatform twoStorages samplePost cachedShared unseen))
        (storageEvents (repliesAfter ⟨[],.noError,[2]⟩) 0 2)).outputs = [[]] ∧
      @usefulList samplePlatform twoStorages (repliesAfter ⟨[],.noError,[2]⟩ 0) = none ∧
      @usefulList samplePlatform twoStorages (repliesAfter ⟨[],.noError,[2]⟩ 1) =
        some ["a","b","c"] ∧
      ¬@Handled samplePlatform twoStorages samplePost cachedShared
        (repliesAfter ⟨[],.noError,[2]⟩) (List.range 2)
        (run (@feed samplePlatform twoStorages samplePost)
          (of [] (@getProxyUrls samplePlatform twoStorages samplePost cachedShared unseen))
          (storageEvents (repliesAfter ⟨[],.noError,[2]⟩) 0 2)) := by
  have hsaved : savedPayloads (run (@feed samplePlatform twoStorages samplePost)
      (of [] (@getProxyUrls samplePlatform twoStorages samplePost cachedShared unseen))
      (storageEvents (repliesAfter ⟨[],.noError,[2]⟩) 0 2)).outputs = [[2]] := by decide
  have huseless : ∀ i ∈ List.range 2, ¬((@usefulList samplePlatform twoStorages
      (repliesAfter ⟨[],.noError,[2]⟩ i)).isSome ∧
        [[2]] = [(repliesAfter ⟨[],.noError,[2]⟩ i).body]) := by decide
  refine ⟨hsaved,by decide,by decide,by decide,?_⟩
  intro hhandled
  rcases @Handled.saves samplePlatform _ _ _ _ _ _ hhandled with ⟨hnone,-⟩ | ⟨i,hi,huseful,hbody,-⟩
  · rw [hsaved] at hnone
    cases hnone
  · rw [hsaved] at hbody
    exact huseless i hi ⟨huseful,hbody⟩

end AlzheimerVPN.GatewayController
