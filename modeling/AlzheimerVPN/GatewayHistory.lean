import AlzheimerVPN.GatewayBypass

/-! Sequences of calls on one controller. Calls may overlap, since a call goes on whenever one of
its replies comes. A proxy that has been found well or has answered is remembered for all later
calls. -/
namespace AlzheimerVPN.GatewayController

open Runs List

section

/-- The calls made on a controller and their first requests. -/
structure Pool where
  shared : Shared
  calls : List (Call × Phase)
  firstRequests : List Request

/-- A call is made, or the call with a number gets a reply. -/
inductive PoolEvent
  | call (call : Call) | reply (number : ℕ) (event : Event)

def requestsOf (outputs : List Output) : List Request :=
  outputs.filterMap fun output =>
    match output with
    | .request request => some request
    | _ => none

variable [Platform] (cfg : Config)

def poolStep (p : Pool) : PoolEvent → Pool
  | .call call =>
    let first := start cfg call p.shared
    ⟨first.1,p.calls++[(call,first.2.1)],p.firstRequests++requestsOf first.2.2⟩
  | .reply number event =>
    match p.calls[number]? with
    | none => p
    | some (call,phase) =>
      let next := step cfg call p.shared phase event
      ⟨next.1,p.calls.set number (call,next.2.1),p.firstRequests⟩

/-- Every call so far has gone to the gateway first. -/
def AllDirect (p : Pool) : Prop :=
  ∀ request ∈ p.firstRequests, request = .gateway cfg.gatewayEndpoint

/-- No proxy is remembered. -/
def Clean (s : Shared) : Prop := s.proxyUrl = "" ∨ s.proxyUrl = cfg.gatewayEndpoint

/-- A call that sends a request is made while no proxy is remembered. -/
def CalledClean (p : Pool) : PoolEvent → Prop
  | .call call => call.preparation = .ready → Clean cfg p.shared
  | .reply _ _ => True

/-- The reply makes a call remember the proxy: the proxy is found well, or its answer is taken. -/
def Remembers (call : Call) (url : String) : Phase → Event → Prop
  | .probe proxyUrls index _, .probe i reply =>
    i = index ∧ reply.error = .noError ∧ url = proxyUrls.getD index ""
  | .probeAsync proxyUrls index, .probe i reply =>
    i = index ∧ reply.error = .noError ∧ url = proxyUrls.getD index ""
  | .attempt _ candidates index seen, .attempt i reply =>
    i = index ∧ (replyProcessing call.key call.iv seen reply).2 ∧ url = candidates.getD index ""
  | _, _ => False

/-- No reply makes a call remember a proxy. -/
def Forgetful (p : Pool) : PoolEvent → Prop
  | .call _ => True
  | .reply number event =>
    ∀ call phase, p.calls[number]? = some (call,phase) →
      ∀ url, url ≠ "" → url ≠ cfg.gatewayEndpoint → ¬Remembers call url phase event

variable {cfg}

/-- What a reply does to the remembered proxy. -/
lemma proxyUrl_step (cfg : Config) (call : Call) (s : Shared) (phase : Phase) (event : Event) :
    (step cfg call s phase event).1.proxyUrl = s.proxyUrl ∨
      Remembers call (step cfg call s phase event).1.proxyUrl phase event := by
  cases phase with
  | direct => cases event with
    | direct reply => exact .inl (congrArg _ (onDirectReply_shared s reply))
    | _ => exact .inl rfl
  | storage cached index seen => cases event with
    | storage i reply =>
      refine .inl ?_
      simp only [step]
      split_ifs
      · rfl
      · rw [storageFrom_shared]
      · split
        · rw [storageFrom_shared]
        · simp only [writeGatewayProxyUrls,emit,bypass_shared,cacheWith]
    | _ => exact .inl rfl
  | probe proxyUrls index seen => cases event with
    | probe i reply =>
      by_cases hi : i = index
      · by_cases herror : reply.error = .noError
        · refine .inr ⟨hi,herror,?_⟩
          simp only [step,hi,herror,ne_eq,not_true_eq_false,if_false]
          split_ifs
          · rw [probeFrom_shared]
          · rw [attempts_shared]
        · refine .inl ?_
          simp only [step,hi,herror,ne_eq,not_true_eq_false,not_false_eq_true,if_true,if_false]
          rw [probeFrom_shared]
      · refine .inl ?_
        simp only [step,ne_eq,hi,not_false_eq_true,if_true]
    | _ => exact .inl rfl
  | attempt remembered candidates index seen => cases event with
    | attempt i reply =>
      by_cases hi : i = index
      · cases htaken : replyProcessing call.key call.iv seen reply with
        | mk seen' taken =>
          cases taken with
          | false =>
            refine .inl ?_
            simp only [step,hi,ne_eq,not_true_eq_false,if_false,htaken]
            rw [attemptFrom_shared]
          | true =>
            simp only [step,hi,ne_eq,not_true_eq_false,if_false,htaken,finish]
            split_ifs
            · exact .inl rfl
            · exact .inr ⟨rfl,by rw [htaken],rfl⟩
      · refine .inl ?_
        simp only [step,ne_eq,hi,not_false_eq_true,if_true]
    | _ => exact .inl rfl
  | search pending finishedCount => cases event with
    | storage i reply =>
      refine .inl ?_
      simp only [step]
      split_ifs
      · rw [onStorageReply]
        split
        · simp only [writeGatewayProxyUrls,emit,onProxyUrls_shared,cacheWith]
        · split_ifs
          · rw [onProxyUrls_shared]
          · rfl
      · rfl
    | _ => exact .inl rfl
  | probeAsync proxyUrls index => cases event with
    | probe i reply =>
      by_cases hi : i = index
      · by_cases herror : reply.error = .noError
        · refine .inr ⟨hi,herror,?_⟩
          simp only [step,hi,herror,ne_eq,not_true_eq_false,if_false]
          split_ifs <;> rfl
        · refine .inl ?_
          simp only [step,hi,herror,ne_eq,not_true_eq_false,not_false_eq_true,if_true,if_false]
          rw [getProxyUrlAsync_shared]
      · refine .inl ?_
        simp only [step,ne_eq,hi,not_false_eq_true,if_true]
    | _ => exact .inl rfl
  | attemptAsync => cases event <;> exact .inl rfl
  | finished => cases event <;> exact .inl rfl

omit [Platform] in
lemma start_requests (call : Call) (s : Shared) : requestsOf (start cfg call s).2.2 =
    if call.preparation = .ready then
      [.gateway (if s.proxyUrl.isEmpty then cfg.gatewayEndpoint else s.proxyUrl)] else [] := by
  rw [start]
  split <;> simp_all [requestsOf,finish]

/-- A step keeps the calls direct exactly if it is no call with a remembered proxy. -/
lemma allDirect_step_iff (p : Pool) (event : PoolEvent) (h : AllDirect cfg p) :
    AllDirect cfg (poolStep cfg p event) ↔ CalledClean cfg p event := by
  cases event with
  | reply number event =>
    refine iff_of_true ?_ trivial
    rw [poolStep]
    split <;> exact h
  | call call =>
    have hsplit : AllDirect cfg (poolStep cfg p (.call call)) ↔
        ∀ request ∈ requestsOf (start cfg call p.shared).2.2,
          request = .gateway cfg.gatewayEndpoint := by
      simp only [AllDirect,poolStep,forall_mem_append]
      exact and_iff_right h
    rw [hsplit,start_requests,CalledClean]
    by_cases hready : call.preparation = .ready
    · rw [if_pos hready,forall_mem_singleton,Request.gateway.injEq,forall_prop_of_true hready,Clean]
      split_ifs with hempty
      · exact iff_of_true rfl (.inl (String.isEmpty_iff.mp hempty))
      · rw [or_iff_right (fun hnil => hempty (String.isEmpty_iff.mpr hnil))]
    · rw [if_neg hready]
      exact iff_of_true (by simp) fun h => absurd h hready

lemma clean_step {p : Pool} {event : PoolEvent} (h : Clean cfg p.shared)
    (hforgetful : Forgetful cfg p event) : Clean cfg (poolStep cfg p event).shared := by
  cases event with
  | call call =>
    have hshared : (poolStep cfg p (.call call)).shared = p.shared := start_shared p.shared
    rwa [hshared]
  | reply number event =>
    simp only [poolStep]
    split
    · exact h
    · next call phase hcall =>
      rcases proxyUrl_step cfg call p.shared phase event with hsame | hnew
      · rw [Clean,hsame]
        exact h
      · by_contra hdirty
        rw [Clean,not_or] at hdirty
        exact hforgetful call phase hcall _ hdirty.1 hdirty.2 hnew

/-- In every history the first requests all go to the gateway exactly if calls are made only
while no proxy is remembered, and so they do if no reply makes a call remember one. -/
theorem first_requests_direct_iff (cfg : Config) (p : Pool) (h : AllDirect cfg p)
    (events : List PoolEvent) :
    (Always (poolStep cfg) (AllDirect cfg) p events ↔
      Guarded (poolStep cfg) (CalledClean cfg) p events) ∧
    (Clean cfg p.shared → Guarded (poolStep cfg) (Forgetful cfg) p events →
      Always (poolStep cfg) (AllDirect cfg) p events) := by
  have hiff : Always (poolStep cfg) (AllDirect cfg) p events ↔
      Guarded (poolStep cfg) (CalledClean cfg) p events :=
    always_iff_guarded (W := fun _ => True) (D := fun _ => True) (fun _ _ _ _ => trivial)
      (fun p event _ _ hp => allDirect_step_iff p event hp) trivial h fun _ _ => trivial
  refine ⟨hiff,fun hclean hforgetful => hiff.mpr ?_⟩
  intro pre event hpre
  have hpast : Guarded (poolStep cfg) (Forgetful cfg) p pre := by
    intro pre' event' hpre'
    exact hforgetful pre' event' (hpre'.trans ((prefix_append _ _).trans hpre))
  have hstill : Clean cfg (run (poolStep cfg) p pre).shared :=
    run_invariant (P := fun p : Pool => Clean cfg p.shared) (fun _ _ => clean_step) hclean hpast
  cases event with
  | call call => exact fun _ => hstill
  | reply number event => trivial

end

def freshPool : Pool := ⟨freshShared,[],[]⟩

/-- Two calls, both answered by the gateway. -/
def answeredCalls : List PoolEvent :=
  [.call samplePost,.reply 0 (.direct goodAnswer),.call samplePost,.reply 1 (.direct goodAnswer)]

/-- Two calls, the first answered by a proxy. -/
def proxiedCalls : List PoolEvent :=
  [.call samplePost,.reply 0 (.direct noReply),.reply 0 (.storage 0 ⟨[],.noError,[1]⟩),
    .reply 0 (.probe 0 ⟨[],.noError,[]⟩),.reply 0 (.attempt 0 goodAnswer),.call samplePost]

instance (p : Pool) (event : PoolEvent) : Decidable (CalledClean sampleConfig p event) :=
  match event with
  | .call _ => inferInstanceAs (Decidable (_ → _ ∨ _))
  | .reply _ _ => inferInstanceAs (Decidable True)

theorem answered_calls_direct : AllDirect sampleConfig freshPool ∧
      Always (@poolStep samplePlatform sampleConfig) (AllDirect sampleConfig) freshPool
        answeredCalls := by
  have hfresh : AllDirect sampleConfig freshPool := by simp [AllDirect,freshPool]
  refine ⟨hfresh,(@first_requests_direct_iff samplePlatform sampleConfig freshPool hfresh
    answeredCalls).1.mpr ?_⟩
  decide

/-- The second call goes to the proxy that was found for the first. -/
theorem second_call_to_proxy :
    (run (@poolStep samplePlatform sampleConfig) freshPool proxiedCalls).firstRequests =
        [.gateway "https://gateway/",.gateway "a"] ∧
      ¬Always (@poolStep samplePlatform sampleConfig) (AllDirect sampleConfig) freshPool
        proxiedCalls := by
  have hrequests : (run (@poolStep samplePlatform sampleConfig) freshPool
      proxiedCalls).firstRequests = [.gateway "https://gateway/",.gateway "a"] := by
    decide
  refine ⟨hrequests,?_⟩
  intro hdirect
  have hproxy := hdirect proxiedCalls (prefix_refl _) (.gateway "a") (by rw [hrequests]; decide)
  exact absurd hproxy (by decide)

end AlzheimerVPN.GatewayController
