import AlzheimerVPN.GatewayController
import AlzheimerVPN.Runs

/-! The answers of the proxies that `bypassProxy` asks for `post`. An answer ends the search by
the SSL errors of the answer before it, which the reply processing has captured. -/
namespace AlzheimerVPN.GatewayController

open Runs List

/-- The proxies that have been sent the call. -/
def proxyRequests (outputs : List Output) : List String :=
  outputs.filterMap fun output =>
    match output with
    | .request (.proxy url) => some url
    | _ => none

@[simp] lemma proxyRequests_nil : proxyRequests [] = [] := rfl

@[simp] lemma proxyRequests_append (x y : List Output) :
    proxyRequests (x++y) = proxyRequests x++proxyRequests y := filterMap_append

section

/-- What holds of `post` before it asks the first proxy and while it asks them. -/
def Orderly (phase : Phase) (outputs : List Output) : Prop :=
  match phase with
  | .direct => proxyRequests outputs = []
  | .storage _ _ seen => proxyRequests outputs = [] ∧ seen.sslErrors = []
  | .probe _ _ seen => proxyRequests outputs = [] ∧ seen.sslErrors = []
  | .attempt _ candidates index seen =>
    proxyRequests outputs = candidates.take (index+1) ∧ index < candidates.length ∧
      (index = 0 → seen.sslErrors = [])
  | _ => True

variable [Platform] {cfg : Config} {call : Call} {s : Shared} {seen : Seen}
  {before : List Output}

lemma orderly_attemptFrom {remembered : Bool} {candidates : List String} {index : ℕ}
    (hreq : proxyRequests before = candidates.take index) (hssl : index = 0 → seen.sslErrors = []) :
    Orderly (attemptFrom s remembered candidates index seen).2.1
      (before++(attemptFrom s remembered candidates index seen).2.2) := by
  rw [attemptFrom]
  split
  case h_1 url hurl =>
    have hlt := (List.getElem?_eq_some_iff.mp hurl).1
    refine ⟨?_,hlt,hssl⟩
    rw [proxyRequests_append,hreq,take_add_one,hurl]
    rfl
  case h_2 => trivial

variable (hreq : proxyRequests before = []) (hssl : seen.sslErrors = [])

include hreq hssl

variable (proxyUrls : List String)

lemma orderly_attempts :
    Orderly (attempts s proxyUrls seen).2.1 (before++(attempts s proxyUrls seen).2.2) := by
  rw [attempts]
  split_ifs <;> exact orderly_attemptFrom hreq fun _ => hssl

lemma orderly_probeFrom (index : ℕ) : Orderly (probeFrom s proxyUrls index seen).2.1
      (before++(probeFrom s proxyUrls index seen).2.2) := by
  rw [probeFrom]
  split
  case h_1 => exact ⟨by rw [proxyRequests_append,hreq]; rfl,hssl⟩
  case h_2 => exact orderly_attempts hreq hssl proxyUrls

lemma orderly_bypass :
    Orderly (bypass call s proxyUrls seen).2.1 (before++(bypass call s proxyUrls seen).2.2) := by
  have hlisted : proxyRequests (before++[.proxyUrls proxyUrls]) = [] := by
    rw [proxyRequests_append,hreq]
    rfl
  simp only [bypass,emit]
  rw [append_cons]
  split_ifs
  · exact orderly_probeFrom hlisted hssl _ 0
  · exact orderly_attempts hlisted hssl _

lemma orderly_write (encrypted : Body) (proxyUrls : List String) :
    Orderly (writeGatewayProxyUrls call s encrypted fun s => bypass call s proxyUrls seen).2.1
      (before++(writeGatewayProxyUrls call s encrypted fun s =>
        bypass call s proxyUrls seen).2.2) := by
  have hsaved : proxyRequests (before++[.saved encrypted]) = [] := by
    rw [proxyRequests_append,hreq]
    rfl
  simp only [writeGatewayProxyUrls,emit]
  rw [append_cons]
  exact orderly_bypass hsaved hssl proxyUrls

lemma orderly_storageFrom (cached : Body) (index : ℕ) :
    Orderly (storageFrom cfg call s cached index seen).2.1
      (before++(storageFrom cfg call s cached index seen).2.2) := by
  rw [storageFrom]
  split
  case h_1 => exact ⟨by rw [proxyRequests_append,hreq]; rfl,hssl⟩
  case h_2 => exact orderly_bypass hreq hssl _

omit hreq hssl

lemma orderly_getProxyUrlAsync (index : ℕ) (outputs : List Output) :
    Orderly (getProxyUrlAsync s proxyUrls index).2.1 outputs := by
  rw [getProxyUrlAsync]
  split <;> trivial

lemma orderly_getProxyUrlsAsync (outputs : List Output) :
    Orderly (getProxyUrlsAsync cfg call s).2.1 outputs := by
  simp only [getProxyUrlsAsync]
  split_ifs
  · exact orderly_getProxyUrlAsync _ _ _
  · trivial

lemma orderly_onStorageReply (pending : List ℕ) (finishedCount index : ℕ) (reply : Reply)
    (outputs : List Output) :
    Orderly (onStorageReply cfg call s pending finishedCount index reply).2.1 outputs := by
  rw [onStorageReply]
  split
  case h_1 => exact orderly_getProxyUrlAsync _ _ _
  case h_2 =>
    split_ifs
    · exact orderly_getProxyUrlAsync _ _ _
    · trivial

lemma orderly_onDirectReply (h : proxyRequests before = []) (reply : Reply) :
    Orderly (onDirectReply cfg call s reply).2.1
      (before++(onDirectReply cfg call s reply).2.2) := by
  simp only [onDirectReply]
  split
  case h_1 _ hneeds =>
    rw [Seen.needsProxy,Bool.and_eq_true] at hneeds
    exact orderly_storageFrom h (isEmpty_iff.mp hneeds.1) _ _
  case h_2 => trivial
  case h_3 => exact orderly_getProxyUrlsAsync _
  case h_4 => trivial

lemma orderly_feed {t : Thread} (h : Orderly t.phase t.outputs) (event : Event) :
    Orderly (feed cfg call t event).phase (feed cfg call t event).outputs := by
  obtain ⟨s,phase,outputs⟩ := t
  simp only [feed]
  cases phase with
  | direct => cases event with
    | direct reply => exact orderly_onDirectReply h reply
    | _ => simpa [step] using h
  | storage cached index seen => cases event with
    | storage i reply =>
      simp only [step]
      split_ifs
      · simpa using h
      · exact orderly_storageFrom h.1 h.2 _ _
      · split
        · exact orderly_storageFrom h.1 h.2 _ _
        · exact orderly_write h.1 h.2 _ _
    | _ => simpa [step] using h
  | probe proxyUrls index seen => cases event with
    | probe i reply =>
      simp only [step]
      split_ifs
      · simpa using h
      · exact orderly_probeFrom h.1 h.2 _ _
      · exact orderly_probeFrom h.1 h.2 _ _
      · exact orderly_attempts h.1 h.2 _
    | _ => simpa [step] using h
  | attempt remembered candidates index seen => cases event with
    | attempt i reply =>
      simp only [step]
      split
      · simpa using h
      · split
        · trivial
        · exact orderly_attemptFrom h.1 fun hzero => absurd hzero (by omega)
    | _ => simpa [step] using h
  | search pending finishedCount => cases event with
    | storage i reply =>
      simp only [step]
      split_ifs
      · exact orderly_onStorageReply _ _ _ _ _
      · trivial
    | _ => trivial
  | probeAsync proxyUrls index => cases event with
    | probe i reply =>
      simp only [step]
      split_ifs
      · trivial
      · exact orderly_getProxyUrlAsync _ _ _
      · trivial
      · trivial
    | _ => trivial
  | attemptAsync => cases event <;> trivial
  | finished => cases event <;> trivial

omit [Platform] in
lemma orderly_begin (s : Shared) :
    Orderly (begin cfg call s).phase (begin cfg call s).outputs := by
  simp only [begin,start]
  split
  · rfl
  · trivial
  · trivial

lemma orderly_run (cfg : Config) (call : Call) (s : Shared) (events : List Event) :
    Orderly (run (feed cfg call) (begin cfg call s) events).phase
      (run (feed cfg call) (begin cfg call s) events).outputs :=
  run_invariant_of_step (P := fun t : Thread => Orderly t.phase t.outputs)
    (fun _ event h => orderly_feed h event) (orderly_begin s) events

end

section

variable [Platform] (cfg : Config) (call : Call) (answers : ℕ → Reply)

/-- An answer without SSL errors that need not be asked for again. -/
def Usable (k : ℕ) : Prop :=
  (answers k).sslErrors = [] ∧ shouldBypassProxy (answers k).error
      (tryDecryptResponseBody call.key call.iv (answers k).body) = false

/-- The SSL errors of the answer before. -/
def sslErrorsBefore : ℕ → List String
  | 0 => []
  | k+1 => (answers k).sslErrors

/-- The answer is the last that is asked for, whatever candidates are left. -/
def EndsSearch (k : ℕ) : Prop :=
  sslErrorsBefore answers k = [] ∧ shouldBypassProxy (answers k).error
      (tryDecryptResponseBody call.key call.iv (answers k).body) = false

/-- The answers of the candidates from one number up to another. -/
def attemptEvents (first count : ℕ) : List Event :=
  (List.range' first count).map fun k => .attempt k (answers k)

variable {cfg call answers} {remembered : Bool} {candidates : List String}

lemma replyProcessing_of_ends {seen : Seen} {k : ℕ}
    (hssl : seen.sslErrors = sslErrorsBefore answers k) (h : EndsSearch call answers k) :
    replyProcessing call.key call.iv seen (answers k) =
      ({ seenOf call.key call.iv (answers k) with sslErrors := [] },true) := by
  have hnone : seen.sslErrors = [] := hssl.trans h.1
  simp [replyProcessing,seenOf,hnone,h.2]

lemma replyProcessing_of_not_ends {seen : Seen} {k : ℕ}
    (hssl : seen.sslErrors = sslErrorsBefore answers k) (h : ¬EndsSearch call answers k) :
    replyProcessing call.key call.iv seen (answers k) =
      (seenOf call.key call.iv (answers k),false) := by
  have htest : (!seen.sslErrors.isEmpty || shouldBypassProxy (answers k).error
      (tryDecryptResponseBody call.key call.iv (answers k).body)) := by
    rw [EndsSearch,not_and] at h
    rw [Bool.or_eq_true,Bool.not_eq_true',isEmpty_eq_false_iff,hssl]
    by_cases hnone : sslErrorsBefore answers k = []
    · exact .inr (Bool.eq_true_of_not_eq_false (h hnone))
    · exact .inl hnone
  exact if_pos htest

/-- Replies that are not waited for change nothing. -/
lemma run_finished {t : Thread} (h : t.phase = .finished) (events : List Event) :
    run (feed cfg call) t events = t := by
  induction events with
  | nil => rfl
  | cons event events ih =>
    have hfeed : feed cfg call t event = t := by
      obtain ⟨s,phase,outputs⟩ := t
      subst h
      cases event <;> simp [feed,step]
    rw [run_cons,hfeed,ih]

/-- `post` returns the result of what it has seen. -/
def Returns (t : Thread) (seen : Seen) : Prop :=
  t.outputs.getLast? = some (.result (postResult seen).1 (postResult seen).2)

/-- The result is made from an answer, with or without its SSL errors. -/
def ReturnsAnswer (call : Call) (answers : ℕ → Reply) (t : Thread) (last : ℕ) : Prop :=
  ∃ seen, (seen = seenOf call.key call.iv (answers last) ∨
    seen = { seenOf call.key call.iv (answers last) with sslErrors := [] }) ∧ Returns t seen

/-- The search goes on to the first answer that ends it, or to the last candidate. -/
structure Searched (call : Call) (answers : ℕ → Reply) (candidates : List String) (index : ℕ)
    (t t' : Thread) (last : ℕ) : Prop where
  le : index ≤ last
  lt : last < candidates.length
  before : ∀ k, index ≤ k → k < last → ¬EndsSearch call answers k
  ends : EndsSearch call answers last ∨ last+1 = candidates.length
  sent : proxyRequests t'.outputs =
    proxyRequests t.outputs++(candidates.drop (index+1)).take (last-index)
  returns : ReturnsAnswer call answers t' last

variable (cfg) in
lemma feed_of_ends {t : Thread} {seen : Seen} {index : ℕ}
    (hphase : t.phase = .attempt remembered candidates index seen)
    (hssl : seen.sslErrors = sslErrorsBefore answers index)
    (hends : EndsSearch call answers index) (hlt : index < candidates.length) :
    (feed cfg call t (.attempt index (answers index))).phase = .finished ∧
      Searched call answers candidates index t (feed cfg call t (.attempt index (answers index)))
        index := by
  obtain ⟨s,phase,outputs⟩ := t
  subst hphase
  have hreply := replyProcessing_of_ends hssl hends
  simp only [feed,step,ne_eq,not_true_eq_false,if_false,hreply]
  refine ⟨rfl,le_rfl,hlt,?_,.inl hends,?_,_,.inr rfl,?_⟩
  · intro k hk hlt
    omega
  · simp [finish,proxyRequests]
  · simp [finish,Returns]

variable (cfg) in
lemma feed_of_not_ends {t : Thread} {seen : Seen} {index : ℕ}
    (hphase : t.phase = .attempt remembered candidates index seen)
    (hssl : seen.sslErrors = sslErrorsBefore answers index)
    (hends : ¬EndsSearch call answers index) :
    feed cfg call t (.attempt index (answers index)) =
      let next := attemptFrom t.shared remembered candidates (index+1)
        (seenOf call.key call.iv (answers index))
      ⟨next.1,next.2.1,t.outputs++next.2.2⟩ := by
  obtain ⟨s,phase,outputs⟩ := t
  subst hphase
  have hreply := replyProcessing_of_not_ends hssl hends
  simp only [feed,step,ne_eq,not_true_eq_false,if_false,hreply]

variable (cfg call answers) in
lemma run_attempts {count index : ℕ} {t : Thread} {seen : Seen}
    (hphase : t.phase = .attempt remembered candidates index seen)
    (hssl : seen.sslErrors = sslErrorsBefore answers index)
    (hcount : index+(count+1) = candidates.length) :
    ∃ last, Searched call answers candidates index t
      (run (feed cfg call) t (attemptEvents answers index (count+1))) last := by
  induction count generalizing index t seen with
  | zero =>
    have hevents : attemptEvents answers index 1 = [.attempt index (answers index)] := rfl
    rw [hevents,run_cons,run_nil]
    by_cases hends : EndsSearch call answers index
    · exact ⟨index,(feed_of_ends cfg hphase hssl hends (by omega)).2⟩
    · refine ⟨index,le_rfl,by omega,fun k hk hlt => absurd hlt (by omega),.inr (by omega),?_,
        _,.inl rfl,?_⟩
      all_goals
        rw [feed_of_not_ends cfg hphase hssl hends]
        simp only [attemptFrom,List.getElem?_eq_none (show candidates.length ≤ index+1 by omega)]
      · simp [finish,proxyRequests]
      · simp [finish,Returns]
  | succ count ih =>
    have hevents : attemptEvents answers index (count+2) =
        .attempt index (answers index)::attemptEvents answers (index+1) (count+1) := rfl
    rw [hevents,run_cons]
    by_cases hends : EndsSearch call answers index
    · have hfinal := feed_of_ends cfg hphase hssl hends (by omega)
      rw [run_finished hfinal.1]
      exact ⟨index,hfinal.2⟩
    · have hnext : index+1 < candidates.length := by omega
      have hfeed := feed_of_not_ends cfg hphase hssl hends
      simp only [attemptFrom,List.getElem?_eq_getElem hnext] at hfeed
      rw [hfeed]
      have hasked : (⟨t.shared,.attempt remembered candidates (index+1)
          (seenOf call.key call.iv (answers index)),
          t.outputs++[.request (.proxy candidates[index+1])]⟩ : Thread).phase =
          .attempt remembered candidates (index+1) (seenOf call.key call.iv (answers index)) := rfl
      obtain ⟨last,hlast⟩ := ih hasked rfl (by omega)
      refine ⟨last,Nat.le_of_succ_le hlast.le,hlast.lt,?_,hlast.ends,?_,hlast.returns⟩
      · intro k hk hlt
        rcases Nat.eq_or_lt_of_le hk with rfl | hk
        · exact hends
        · exact hlast.before k hk hlt
      · have hle := hlast.le
        have htake : last-index = (last-(index+1))+1 := by omega
        rw [hlast.sent,htake,drop_eq_getElem_cons hnext,take_succ_cons]
        simp [proxyRequests]

/-- The call after the answers of all candidates; those not asked for are left out of account. -/
def afterAnswers (cfg : Config) (call : Call) (t : Thread) (answers : ℕ → Reply)
    (candidates : List String) : Thread :=
  run (feed cfg call) t (attemptEvents answers 0 candidates.length)

/-- Usable answers end the search and are the result. -/
def UsableAnswerWins (call : Call) (answers : ℕ → Reply) (t : Thread) : Prop :=
  ∀ k < (proxyRequests t.outputs).length, Usable call answers k →
    k+1 = (proxyRequests t.outputs).length ∧ Returns t (seenOf call.key call.iv (answers k))

/-- A usable answer is the result, unless SSL errors of the answer before it are held against it
while candidates are left. -/
theorem first_usable_answer_wins_iff (cfg : Config) (call : Call) (s : Shared)
    (before : List Event) (answers : ℕ → Reply) {remembered : Bool} {candidates : List String}
    {seen : Seen} (h : (run (feed cfg call) (begin cfg call s) before).phase =
      .attempt remembered candidates 0 seen) :
    UsableAnswerWins call answers (afterAnswers cfg call
        (run (feed cfg call) (begin cfg call s) before) answers candidates) ↔
      ∀ k < candidates.length, Usable call answers k → (∀ j < k, ¬EndsSearch call answers j) →
        k+1 = candidates.length ∨ sslErrorsBefore answers k = [] := by
  have horderly := orderly_run cfg call s before
  rw [h] at horderly
  obtain ⟨hsent,hlt,hssl⟩ := horderly
  obtain ⟨count,hcount⟩ := Nat.exists_eq_add_of_lt hlt
  have hlength : candidates.length = count+1 := by omega
  obtain ⟨last,hlast⟩ := run_attempts cfg call answers h (hssl rfl)
    (show 0+(count+1) = candidates.length by omega)
  rw [← hlength] at hlast
  have hasked : (proxyRequests (afterAnswers cfg call (run (feed cfg call) (begin cfg call s)
      before) answers candidates).outputs).length = last+1 := by
    have hbound := hlast.lt
    rw [afterAnswers,hlast.sent,hsent]
    simp only [length_append,length_take,length_drop]
    omega
  rw [UsableAnswerWins,hasked]
  constructor
  · intro hwins k hk husable hbefore
    have hle : k ≤ last := by
      by_contra hgt
      rcases hlast.ends with hends | hend
      · exact hbefore last (by omega) hends
      · omega
    obtain rfl : k = last := by
      have hlast := (hwins k (by omega) husable).1
      omega
    exact hlast.ends.symm.imp_right And.left
  · intro hcond k hk husable
    have hbefore : ∀ j < k, ¬EndsSearch call answers j := fun j hj =>
      hlast.before j (Nat.zero_le _) (by omega)
    obtain rfl : k = last := by
      by_contra hne
      rcases hcond k (by have := hlast.lt; omega) husable hbefore with hend | hnone
      · have := hlast.lt
        omega
      · exact hlast.before k (Nat.zero_le _) (by omega) ⟨hnone,husable.2⟩
    refine ⟨rfl,?_⟩
    obtain ⟨seen',hseen,hreturns⟩ := hlast.returns
    have hsame : seen' = seenOf call.key call.iv (answers k) := by
      rcases hseen with hseen | hseen
      · exact hseen
      · rw [hseen,seenOf,husable.1]
    rw [← hsame]
    exact hreturns

end

/-- Bodies of one number: 1 lists three proxies, 7 is encrypted. -/
@[reducible] def samplePlatform : Platform where
  fromJson body := if body = [1] then some (.arr [.str "a",.str "b",.str "c"]) else none
  decryptAes256Cbc body _ _ := if body = [7] then body else []
  decryptStorage body := body
  toBase64Url text := text

def sampleConfig : Config := ⟨"https://gateway/",false,["https://storage/"],[]⟩

def samplePost : Call where
  isAsync := false
  serviceType := ""
  userCountryCode := ""
  key := []
  iv := []
  preparation := .ready
  shuffle _ urls := urls
  shuffle_perm _ _ := List.Perm.refl _

def freshShared : Shared := ⟨"",fun _ => []⟩

/-- The reply of a host that is not there. -/
def noReply : Reply := ⟨[],.timeoutError,[]⟩

/-- The gateway is not there, a storage lists three proxies, and no proxy says it is well. -/
def untilAttempts : List Event :=
  [.direct noReply,.storage 0 ⟨[],.noError,[1]⟩,.probe 0 noReply,.probe 1 noReply,.probe 2 noReply]

def selfSigned : Reply := ⟨["self-signed certificate"],.other 6,[]⟩

def goodAnswer : Reply := ⟨[],.noError,[7]⟩

/-- The first proxy fails, the second answers. -/
def answersAfter (first : Reply) : ℕ → Reply
  | 0 => first
  | 1 => goodAnswer
  | _ => noReply

/-- After a time-out the second proxy's answer is the result. -/
theorem answer_after_timeout : @UsableAnswerWins samplePlatform samplePost (answersAfter noReply)
      (@afterAnswers samplePlatform sampleConfig samplePost
        (run (@feed samplePlatform sampleConfig samplePost)
          (begin sampleConfig samplePost freshShared) untilAttempts)
        (answersAfter noReply) ["a","b","c"]) := by
  refine (@first_usable_answer_wins_iff samplePlatform sampleConfig samplePost freshShared
    untilAttempts (answersAfter noReply) false ["a","b","c"] _ rfl).mpr ?_
  intro k _ _ _
  refine .inr ?_
  match k with
  | 0 => rfl
  | 1 => rfl
  | 2 => rfl
  | _+3 => rfl

/-- After SSL errors it is not: the third proxy is asked, and its time-out is the result. -/
theorem answer_after_ssl_errors :
    ¬@UsableAnswerWins samplePlatform samplePost (answersAfter selfSigned)
      (@afterAnswers samplePlatform sampleConfig samplePost
        (run (@feed samplePlatform sampleConfig samplePost)
          (begin sampleConfig samplePost freshShared) untilAttempts)
        (answersAfter selfSigned) ["a","b","c"]) ∧
    (@afterAnswers samplePlatform sampleConfig samplePost
        (run (@feed samplePlatform sampleConfig samplePost)
          (begin sampleConfig samplePost freshShared) untilAttempts)
        (answersAfter selfSigned) ["a","b","c"]).outputs.getLast? =
      some (.result .apiConfigTimeoutError []) := by
  refine ⟨?_,by decide⟩
  intro hwins
  have hsecond := (hwins 1 (by decide) (by
    refine ⟨rfl,?_⟩
    decide)).1
  revert hsecond
  decide

end AlzheimerVPN.GatewayController
