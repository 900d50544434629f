import AlzheimerVPN.GatewayBypass

/-! The refresh of a subscription when a connection is made:
`SubscriptionController::validateAndUpdateConfigAsync` asks the gateway for a new configuration,
the reply races a deadline, and errors of the transport fall back to the saved one. What a
decrypted response does to the server is left open. -/
namespace AlzheimerVPN.SubscriptionController

open Runs GatewayController List

section

/-- The part of a stored API server that a refresh reads; the rest is `content`. -/
structure ApiV2ServerConfig where
  defaultContainer : Option String
  /-- the containers, and whether they hold a client's configuration -/
  containers : List (String × Bool)
  isInAppPurchase : Bool
  subscriptionExpiredByServer : Bool
  content : String
  deriving DecidableEq, Repr

structure CaptchaInfo where
  captchaId : String := ""
  captchaImageBase64 : String := ""
  hint : String := ""
  isRequired : Bool := false
  deriving DecidableEq, Repr

/-- The keys of a request, as one text. -/
abbrev ProtocolData := String

def isConfigRefreshTransportError : ErrorCode → Bool
  | .apiConfigDownloadError | .apiConfigTimeoutError | .apiConfigSslError
  | .apiConfigDecryptionError => true
  | _ => false

def hasUsableCachedConfig (apiV2 : ApiV2ServerConfig) : Bool :=
  match apiV2.defaultContainer with
  | none => false
  | some container => (apiV2.containers.lookup container).getD false

variable [Platform]

def fillCaptchaInfoFromResponse (responseBody : Body) : Option CaptchaInfo :=
  match bodyObject responseBody with
  | some object =>
    if object.contains "captcha_id" && object.contains "captcha_image" then
      some ⟨(object.value "captcha_id").toString,(object.value "captcha_image").toString,
        (object.value "hint").toString,true⟩
    else none
  | none => none

/-- What a decrypted response makes of the server. -/
abbrev Update := ProtocolData → Body → ApiV2ServerConfig → ErrorCode × ApiV2ServerConfig

/-- A call of the completion. -/
abbrev Completion := ErrorCode × CaptchaInfo × ProtocolData

variable (update : Update) (protocolData : ProtocolData)

/-- `finishUpdateRequest` of a connect event: the stored server and the arguments of the
completion. -/
def finishUpdateRequest (server : Option ApiV2ServerConfig) (errorCode : ErrorCode)
    (responseBody : Body) : Option ApiV2ServerConfig × Completion :=
  match server with
  | none => (none,.internalError,{},"")
  | some apiV2 =>
    if errorCode ≠ .noError then
      let (captchaInfo,usedProtocolData) :=
        if errorCode = .apiCaptchaRequiredError then
          match fillCaptchaInfoFromResponse responseBody with
          | some captchaInfo => (captchaInfo,protocolData)
          | none => ({},"")
        else ({},"")
      -- `markSubscriptionExpiredByServer`
      let stored :=
        if errorCode = .apiSubscriptionExpiredError ∧ apiV2.isInAppPurchase = false then
          { apiV2 with subscriptionExpiredByServer := true }
        else apiV2
      if isConfigRefreshTransportError errorCode && hasUsableCachedConfig apiV2 then
        (some stored,.noError,captchaInfo,usedProtocolData)
      else (some stored,errorCode,captchaInfo,usedProtocolData)
    else
      let updated := update protocolData responseBody apiV2
      (some updated.2,updated.1,{},"")

/-- A refresh under way: `finished` is the flag that the reply and the deadline share. -/
structure Refresh where
  server : Option ApiV2ServerConfig
  thread : Option Thread
  finished : Bool
  completions : List Completion

/-- A reply to the gateway call, the result of its future, or the deadline. -/
inductive RefreshEvent
  | gateway (event : Event) | watcher | deadline

/-- The result of a call, once there is one. -/
def resultOf (outputs : List Output) : Option (ErrorCode × Body) :=
  outputs.findSome? fun output =>
    match output with
    | .result errorCode responseBody => some (errorCode,responseBody)
    | _ => none

/-- `finish` of `executeRequestAsync`: the first to come wins. -/
def finishOnce (r : Refresh) (errorCode : ErrorCode) (responseBody : Body) : Refresh :=
  if r.finished then r
  else
    let (server,completion) :=
      finishUpdateRequest update protocolData r.server errorCode responseBody
    { r with server := server, finished := true, completions := r.completions++[completion] }

variable (cfg : Config) (call : Call)

/-- The call of a refresh. -/
def refreshCall : Call := { call with isAsync := true }

/-- `validateAndUpdateConfigAsync` up to the first reply. -/
def validateAndUpdateConfigAsync (server : Option ApiV2ServerConfig)
    (hasInstalledContainers isApiKeyExpired : Bool) (shared : Shared) : Refresh :=
  if server.isSome && (!hasInstalledContainers || isApiKeyExpired) then
    ⟨server,some (begin cfg (refreshCall call) shared),false,[]⟩
  else ⟨server,none,true,[(.noError,{},"")]⟩

def refreshStep (r : Refresh) : RefreshEvent → Refresh
  | .gateway event =>
    -- the deleted controller gets no more replies
    if r.finished then r
    else { r with thread := r.thread.map fun t => feed cfg (refreshCall call) t event }
  | .watcher =>
    match r.thread.bind fun t => resultOf t.outputs with
    | some (errorCode,responseBody) => finishOnce update protocolData r errorCode responseBody
    | none => r
  | .deadline => finishOnce update protocolData r .apiConfigTimeoutError []

end

section

/-- The phases of `postAsync`. -/
def IsAsync : Phase → Prop
  | .storage .. | .probe .. | .attempt .. => False
  | _ => True

/-- A result of a call is an error of the transport. -/
def Transport (output : Output) : Prop :=
  ∀ errorCode responseBody, output = .result errorCode responseBody →
    isConfigRefreshTransportError errorCode

/-- A step of a call that gives no other result than an error of the transport. -/
def Dark (next : Step) : Prop := IsAsync next.2.1 ∧ ∀ output ∈ next.2.2, Transport output

variable {s : Shared}

lemma dark_finish {result : ErrorCode × Body}
    (h : isConfigRefreshTransportError result.1) : Dark (finish s result) := by
  refine ⟨trivial,?_⟩
  intro output houtput errorCode responseBody heq
  rw [mem_singleton.mp houtput] at heq
  injection heq with hcode
  rwa [← hcode]

lemma dark_emit {output : Output} {next : Step} (houtput : Transport output) (h : Dark next) :
    Dark (emit output next) :=
  ⟨h.1,forall_mem_cons.mpr ⟨houtput,h.2⟩⟩

lemma dark_requests {phase : Phase} (hphase : IsAsync phase)
    (requests : List GatewayController.Request) : Dark (s,phase,requests.map .request) := by
  refine ⟨hphase,?_⟩
  intro output houtput errorCode responseBody heq
  obtain ⟨request,-,rfl⟩ := mem_map.mp houtput
  exact absurd heq (by simp)

end

section

variable [Platform]

/-- The gateway and the proxies send nothing that can be decrypted. -/
def Undecryptable (call : Call) : RefreshEvent → Prop
  | .gateway (.direct reply) =>
    (tryDecryptResponseBody call.key call.iv reply.body).isDecryptionSuccessful = false
  | .gateway (.attempt _ reply) =>
    (tryDecryptResponseBody call.key call.iv reply.body).isDecryptionSuccessful = false
  | _ => True

/-- Statuses in a plain body that are taken for the gateway's verdict. -/
def verdictStatuses : List ℤ := [429,409,404,501,402]

/-- An object that is not taken for a verdict of the gateway. -/
def NoVerdict (object : JsonObject) : Prop :=
  httpStatus object ∉ verdictStatuses ∧
    ¬(httpStatus object = 422 ∧ apiErrorMessage object = unprocessableSubscriptionMessage)

/-- A plain reply that is not taken for a verdict of the gateway. -/
def Harmless (reply : Reply) : Prop :=
  reply.sslErrors ≠ [] ∨ reply.error = .operationCanceledError ∨ reply.error = .timeoutError ∨
    reply.error ≠ .operationNotImplementedError ∧
      ∀ object, bodyObject reply.body = some object → NoVerdict object

/-- The answers of proxies are no verdicts. -/
def HarmlessAnswer : RefreshEvent → Prop
  | .gateway (.attempt _ reply) => Harmless reply
  | _ => True

omit [Platform] in
lemma captchaError_not_transport (object : JsonObject) : captchaError object ≠ .noError ∧
      isConfigRefreshTransportError (captchaError object) = false := by
  rw [captchaError]
  refine ⟨?_,?_⟩
  · repeat' split
    all_goals simp
  · repeat' split
    all_goals rfl

omit [Platform] in
lemma statusError_transport_iff (object : JsonObject) :
    (∀ error, statusError object = some error → isConfigRefreshTransportError error) ↔
      NoVerdict object := by
  have hcaptcha := (captchaError_not_transport object).2
  rw [statusError,NoVerdict,verdictStatuses]
  generalize captchaError object = captcha at hcaptcha ⊢
  generalize apiErrorMessage object = message
  generalize httpStatus object = status
  repeat' split
  all_goals simp_all [isConfigRefreshTransportError]

omit [Platform] in
lemma statusError_ne_noError {object : JsonObject} {error : ErrorCode}
    (h : statusError object = some error) : error ≠ .noError := by
  rintro rfl
  have hcaptcha := (captchaError_not_transport object).1
  rw [statusError] at h
  repeat' split at h
  all_goals simp_all

variable {cfg : Config} {call : Call} {s : Shared} {reply : Reply}

lemma decryptedBody_of_plain {key iv body : Body}
    (h : (tryDecryptResponseBody key iv body).isDecryptionSuccessful = false) :
    tryDecryptResponseBody key iv body = ⟨body,false⟩ := by
  simp only [tryDecryptResponseBody] at h ⊢
  split at h
  case isTrue hnone => exact if_pos hnone
  case isFalse => exact absurd h (by simp)

/-- A reply with a status in its body, or none: only the status can be a verdict. -/
lemma checkNetworkReplyErrors_transport_iff (sslErrors : List String) (error : NetworkError)
    (body : Body) :
    (checkNetworkReplyErrors sslErrors error body = .noError ∨
      isConfigRefreshTransportError (checkNetworkReplyErrors sslErrors error body)) ↔
      Harmless ⟨sslErrors,error,body⟩ := by
  rw [checkNetworkReplyErrors,Harmless]
  split
  case isTrue hssl =>
    have hssl' : sslErrors ≠ [] := by simpa using hssl
    simp [isConfigRefreshTransportError,hssl']
  case isFalse hssl =>
    have hssl' : sslErrors = [] := by simpa using hssl
    split
    case isTrue herror => simp [isConfigRefreshTransportError,or_assoc.symm,herror]
    case isFalse herror =>
      rw [not_or] at herror
      split
      case isTrue hnot => simp [isConfigRefreshTransportError,hssl',hnot]
      case isFalse hnot =>
        simp only [hssl',herror.1,herror.2,hnot,ne_eq,not_true_eq_false,not_false_eq_true,
          false_or,true_and]
        cases hobject : bodyObject body with
        | none =>
          simp only [Option.bind_none,reduceCtorEq,false_imp_iff,implies_true,iff_true]
          split
          · exact .inl rfl
          · exact .inr rfl
        | some object =>
          simp only [Option.bind_some,Option.some.injEq,forall_eq']
          rw [← statusError_transport_iff object]
          cases hstatus : statusError object with
          | none =>
            simp only [reduceCtorEq,false_imp_iff,implies_true,iff_true]
            split
            · exact .inl rfl
            · exact .inr rfl
          | some verdict =>
            simp only [Option.some.injEq,forall_eq']
            exact or_iff_right (statusError_ne_noError hstatus)

/-- The result of a plain reply is an error of the transport exactly if the reply is harmless. -/
lemma transportError_iff_harmless
    (hplain : (tryDecryptResponseBody call.key call.iv reply.body).isDecryptionSuccessful = false) :
    isConfigRefreshTransportError (processResponse (seenOf call.key call.iv reply)).1 ↔
      Harmless reply := by
  have hbody := decryptedBody_of_plain hplain
  rw [← checkNetworkReplyErrors_transport_iff reply.sslErrors reply.error reply.body]
  simp only [processResponse,seenOf,hbody]
  by_cases hnone : checkNetworkReplyErrors reply.sslErrors reply.error reply.body = .noError
  · simp [hnone,isConfigRefreshTransportError]
  · simp [hnone]

variable (hempty : Platform.fromJson [] = none)

include hempty

lemma transportError_emptyProxyUrl :
    isConfigRefreshTransportError (processResponse emptyProxyUrl).1 := by
  simp [processResponse,emptyProxyUrl,checkNetworkReplyErrors,bodyObject,hempty,
    isConfigRefreshTransportError]

lemma dark_getProxyUrlAsync (proxyUrls : List String) (index : ℕ) :
    Dark (getProxyUrlAsync s proxyUrls index) := by
  rw [getProxyUrlAsync]
  split
  case h_1 url _ =>
    exact dark_requests (show IsAsync (.probeAsync proxyUrls index) from trivial) [.health url]
  case h_2 => exact dark_finish (transportError_emptyProxyUrl hempty)

lemma dark_onProxyUrls (proxyUrls : List String) : Dark (onProxyUrls call s proxyUrls) :=
  dark_emit (by simp [Transport]) (dark_getProxyUrlAsync hempty _ _)

lemma dark_getProxyUrlsAsync : Dark (getProxyUrlsAsync cfg call s) := by
  simp only [getProxyUrlsAsync]
  split
  · exact dark_onProxyUrls hempty _
  · have hrequests := dark_requests (s := s)
      (show IsAsync (.search (List.range (proxyStorageUrls cfg call).length) 0) from trivial)
      ((proxyStorageUrls cfg call).map .storage)
    rwa [map_map] at hrequests

lemma dark_onStorageReply (pending : List ℕ) (finishedCount index : ℕ) (reply : Reply) :
    Dark (onStorageReply cfg call s pending finishedCount index reply) := by
  rw [onStorageReply]
  split
  case h_1 => exact dark_emit (by simp [Transport]) (dark_onProxyUrls hempty _)
  case h_2 =>
    split
    · exact dark_onProxyUrls hempty _
    · exact ⟨trivial,by simp⟩

/-- Without SSL errors a plain reply of the gateway is followed by a search for a proxy. -/
lemma dark_onDirectReply
    (hplain : (tryDecryptResponseBody call.key call.iv reply.body).isDecryptionSuccessful = false) :
    Dark (onDirectReply cfg (refreshCall call) s reply) := by
  have hbypass : (seenOf call.key call.iv reply).needsProxy = reply.sslErrors.isEmpty := by
    simp [Seen.needsProxy,seenOf,shouldBypassProxy,hplain]
  simp only [onDirectReply,refreshCall]
  rw [hbypass]
  cases hssl : reply.sslErrors.isEmpty with
  | true => exact dark_getProxyUrlsAsync hempty
  | false =>
    have hharmless : Harmless reply := .inl (isEmpty_eq_false_iff.mp hssl)
    exact dark_finish ((transportError_iff_harmless hplain).mpr hharmless)

lemma dark_step {phase : Phase} (hphase : IsAsync phase) {event : Event}
    (hplain : Undecryptable call (.gateway event)) (hanswer : HarmlessAnswer (.gateway event)) :
    Dark (step cfg (refreshCall call) s phase event) := by
  have hstays : Dark (s,phase,[]) := ⟨hphase,by simp⟩
  cases phase with
  | direct => cases event with
    | direct reply => exact dark_onDirectReply hempty hplain
    | _ => exact hstays
  | search pending finishedCount => cases event with
    | storage i reply =>
      simp only [step]
      split
      · exact dark_onStorageReply hempty _ _ _ _
      · exact hstays
    | _ => exact hstays
  | probeAsync proxyUrls index => cases event with
    | probe i reply =>
      simp only [step]
      split_ifs
      · exact hstays
      · exact dark_getProxyUrlAsync hempty _ _
      · exact dark_finish (transportError_emptyProxyUrl hempty)
      · exact dark_requests (show IsAsync .attemptAsync from trivial)
          [.proxy (proxyUrls.getD index "")]
    | _ => exact hstays
  | attemptAsync => cases event with
    | attempt i reply => exact dark_finish ((transportError_iff_harmless hplain).mpr hanswer)
    | _ => exact hstays
  | finished => cases event <;> exact hstays
  | _ => exact hphase.elim

omit hempty

omit [Platform] in
lemma dark_start (h : call.preparation ≠ .missingPublicKey) :
    Dark (start cfg (refreshCall call) s) := by
  simp only [start,refreshCall]
  split
  case h_1 => exact dark_requests (show IsAsync .direct from trivial) [.gateway _]
  case h_2 hmissing => exact absurd hmissing h
  case h_3 => exact dark_finish rfl

end

section

variable [Platform] (update : Update) (protocolData : ProtocolData)

omit [Platform] in
lemma resultOf_transport {outputs : List Output} (h : ∀ output ∈ outputs, Transport output)
    {errorCode : ErrorCode} {responseBody : Body}
    (hresult : resultOf outputs = some (errorCode,responseBody)) :
    isConfigRefreshTransportError errorCode := by
  obtain ⟨output,hmem,houtput⟩ := exists_of_findSome?_eq_some hresult
  split at houtput
  case h_1 code body =>
    cases houtput
    exact h _ hmem _ _ rfl
  case h_2 => exact absurd houtput (by simp)

/-- The completion of a refresh that changes nothing. -/
def connectAnyway : Completion := (.noError,{},"")

lemma finishUpdateRequest_of_transport (husable : hasUsableCachedConfig apiV2)
    {errorCode : ErrorCode} (h : isConfigRefreshTransportError errorCode) (responseBody : Body) :
    finishUpdateRequest update protocolData (some apiV2) errorCode responseBody =
      (some apiV2,connectAnyway) := by
  have hcodes : errorCode ≠ .noError ∧ errorCode ≠ .apiCaptchaRequiredError ∧
      errorCode ≠ .apiSubscriptionExpiredError := by
    refine ⟨?_,?_,?_⟩ <;>
    · rintro rfl
      exact absurd h (by decide)
  simp [finishUpdateRequest,hcodes.1,hcodes.2.1,hcodes.2.2,h,husable,connectAnyway]

/-- A refresh during an outage: it has not touched the server, and it completes once. -/
structure Undisturbed (apiV2 : ApiV2ServerConfig) (r : Refresh) : Prop where
  server : r.server = some apiV2
  completions : r.completions = if r.finished then [connectAnyway] else []
  waits : ∀ t, r.thread = some t → IsAsync t.phase
  results : ∀ t, r.thread = some t → ∀ output ∈ t.outputs, Transport output

variable {update protocolData} {cfg : Config} {call : Call} {apiV2 : ApiV2ServerConfig}
  {r : Refresh}

lemma Undisturbed.finishOnce (h : Undisturbed apiV2 r)
    (husable : hasUsableCachedConfig apiV2) {errorCode : ErrorCode}
    (hcode : isConfigRefreshTransportError errorCode) (responseBody : Body) :
    Undisturbed apiV2 (finishOnce update protocolData r errorCode responseBody) := by
  rw [SubscriptionController.finishOnce]
  split
  case isTrue => exact h
  case isFalse hfinished =>
    have hnone : r.completions = [] := by rw [h.completions,if_neg hfinished]
    rw [h.server,finishUpdateRequest_of_transport update protocolData husable hcode]
    exact ⟨rfl,by simp [hnone],h.waits,h.results⟩

lemma Undisturbed.step (hempty : Platform.fromJson [] = none) (h : Undisturbed apiV2 r)
    (husable : hasUsableCachedConfig apiV2) {event : RefreshEvent}
    (hplain : Undecryptable call event) (hanswer : HarmlessAnswer event) :
    Undisturbed apiV2 (refreshStep update protocolData cfg call r event) := by
  cases event with
  | gateway event =>
    rw [refreshStep]
    split
    case isTrue => exact h
    case isFalse hfinished =>
      have hthread : ∀ t', r.thread.map (fun t => feed cfg (refreshCall call) t event) = some t' →
          IsAsync t'.phase ∧ ∀ output ∈ t'.outputs, Transport output := by
        intro t' ht'
        obtain ⟨t,ht,rfl⟩ := Option.map_eq_some_iff.mp ht'
        have hdark : Dark (GatewayController.step cfg (refreshCall call) t.shared t.phase event) :=
          dark_step hempty (h.waits t ht) hplain hanswer
        exact ⟨hdark.1,fun output houtput => (mem_append.mp houtput).elim
          (h.results t ht output) (hdark.2 output)⟩
      exact ⟨h.server,h.completions,fun t ht => (hthread t ht).1,fun t ht => (hthread t ht).2⟩
  | watcher =>
    rw [refreshStep]
    split
    case h_1 errorCode responseBody hresult =>
      obtain ⟨t,ht,hresult⟩ := Option.bind_eq_some_iff.mp hresult
      exact h.finishOnce husable (resultOf_transport (h.results t ht) hresult) responseBody
    case h_2 => exact h
  | deadline => exact h.finishOnce husable rfl []

omit [Platform] in
lemma undisturbed_validateAndUpdateConfigAsync (hready : call.preparation ≠ .missingPublicKey)
    (hasInstalledContainers isApiKeyExpired : Bool) (shared : Shared) :
    Undisturbed apiV2 (validateAndUpdateConfigAsync cfg call (some apiV2) hasInstalledContainers
      isApiKeyExpired shared) := by
  have hdark : Dark (start cfg (refreshCall call) shared) := dark_start hready
  rw [validateAndUpdateConfigAsync]
  split
  · refine ⟨rfl,rfl,?_,?_⟩
    · rintro t ⟨⟩
      exact hdark.1
    · rintro t ⟨⟩
      exact hdark.2
  · exact ⟨rfl,rfl,by simp,by simp⟩

lemma finishOnce_finished (errorCode : ErrorCode) (responseBody : Body) :
    (finishOnce update protocolData r errorCode responseBody).finished := by
  rw [finishOnce]
  split
  case isTrue h => exact h
  case isFalse => rfl

lemma finished_step (h : r.finished) (event : RefreshEvent) :
    (refreshStep update protocolData cfg call r event).finished := by
  cases event with
  | gateway event => rwa [refreshStep,if_pos h]
  | watcher =>
    rw [refreshStep]
    split
    · exact finishOnce_finished _ _
    · exact h
  | deadline => exact finishOnce_finished _ _

lemma finished_of_deadline {events : List RefreshEvent} (h : .deadline ∈ events) :
    (run (refreshStep update protocolData cfg call) r events).finished := by
  obtain ⟨before,after,rfl⟩ := append_of_mem h
  rw [run_append,run_cons]
  exact run_invariant_of_step (P := fun r : Refresh => r.finished)
    (fun _ event h => finished_step h event) (finishOnce_finished _ _) after

/-- Neither the server nor the connection suffers from an outage. -/
def Unharmed (apiV2 : ApiV2ServerConfig) (r : Refresh) : Prop :=
  r.server = some apiV2 ∧ (r.completions = [] ∨ r.completions = [connectAnyway])

/-- While nothing can be decrypted, a refresh completes once and connects with the saved
configuration, if no proxy's plain answer is taken for a verdict of the gateway. -/
theorem outage_keeps_subscription (update : Update) (protocolData : ProtocolData) (cfg : Config)
    (call : Call) (apiV2 : ApiV2ServerConfig) (hasInstalledContainers isApiKeyExpired : Bool)
    (shared : Shared) (events : List RefreshEvent) (hempty : Platform.fromJson [] = none)
    (husable : hasUsableCachedConfig apiV2)
    (hplain : ∀ event ∈ events, Undecryptable call event)
    (hready : call.preparation ≠ .missingPublicKey)
    (hanswer : ∀ event ∈ events, HarmlessAnswer event) :
    Always (refreshStep update protocolData cfg call) (Unharmed apiV2)
        (validateAndUpdateConfigAsync cfg call (some apiV2) hasInstalledContainers isApiKeyExpired
          shared) events ∧
      (.deadline ∈ events → (run (refreshStep update protocolData cfg call)
          (validateAndUpdateConfigAsync cfg call (some apiV2) hasInstalledContainers
            isApiKeyExpired shared) events).completions = [connectAnyway]) ∧
      ∀ reply : Reply,
        (tryDecryptResponseBody call.key call.iv reply.body).isDecryptionSuccessful = false →
        (isConfigRefreshTransportError (processResponse (seenOf call.key call.iv reply)).1 ↔
          Harmless reply) := by
  have hrun : ∀ pre, pre <+: events → Undisturbed apiV2
      (run (refreshStep update protocolData cfg call) (validateAndUpdateConfigAsync cfg call
        (some apiV2) hasInstalledContainers isApiKeyExpired shared) pre) := by
    intro pre hpre
    have hstep : ∀ r event, Undisturbed apiV2 r →
        (Undecryptable call event ∧ HarmlessAnswer event) →
        Undisturbed apiV2 (refreshStep update protocolData cfg call r event) :=
      fun r event h hok => h.step hempty husable hok.1 hok.2
    refine run_invariant_of_forall hstep (undisturbed_validateAndUpdateConfigAsync hready _ _ _) ?_
    intro event hevent
    have hmem := hpre.subset hevent
    exact ⟨hplain event hmem,hanswer event hmem⟩
  refine ⟨?_,?_,fun reply hreply => transportError_iff_harmless hreply⟩
  · intro pre hpre
    refine ⟨(hrun pre hpre).server,?_⟩
    rw [(hrun pre hpre).completions]
    split
    · exact .inr rfl
    · exact .inl rfl
  · intro hdeadline
    rw [(hrun events (prefix_refl _)).completions,finished_of_deadline hdeadline]
    rfl

end

/-- Bodies of one number: 1 lists a proxy, 2 says in plain text that a subscription has ended. -/
@[reducible] def plainPlatform : Platform where
  fromJson body :=
    if body = [1] then some (.arr [.str "a"])
    else if body = [2] then
      some (.obj [("http_status",.num 422),("message",.str unprocessableSubscriptionMessage)])
    else none
  decryptAes256Cbc _ _ _ := []
  decryptStorage body := body
  toBase64Url text := text

def savedServer : ApiV2ServerConfig := ⟨some "awg",[("awg",true)],false,false,""⟩

def keepsServer : Update := fun _ _ apiV2 => (.noError,apiV2)

/-- The gateway is not there, and a proxy that is well answers with the given body. -/
def answeredBy (body : Body) : List RefreshEvent :=
  [.gateway (.direct noReply),.gateway (.storage 0 ⟨[],.noError,[1]⟩),
   .gateway (.probe 0 ⟨[],.noError,[]⟩),.gateway (.attempt 0 ⟨[],.noError,body⟩),.watcher,.deadline]

def refreshAnsweredBy (body : Body) : Refresh :=
  run (@refreshStep plainPlatform keepsServer "" sampleConfig samplePost)
    (validateAndUpdateConfigAsync sampleConfig samplePost (some savedServer) false false
      freshShared) (answeredBy body)

lemma answeredBy_undecryptable (body : Body) :
    ∀ event ∈ answeredBy body, @Undecryptable plainPlatform samplePost event := by
  have hplain : ∀ key iv body : Body,
      (@tryDecryptResponseBody plainPlatform key iv body).isDecryptionSuccessful = false :=
    fun _ _ _ => rfl
  simp [answeredBy,Undecryptable,hplain]

/-- A page that is no JSON text. -/
theorem page_answer_ignored : (refreshAnsweredBy [3]).completions = [connectAnyway] := by
  have hanswer : ∀ event ∈ answeredBy [3], @HarmlessAnswer plainPlatform event := by
    have hnone : @bodyObject plainPlatform [3] = none := rfl
    simp [answeredBy,HarmlessAnswer,Harmless,hnone]
  exact (@outage_keeps_subscription plainPlatform keepsServer "" sampleConfig samplePost savedServer
    false false freshShared (answeredBy [3]) rfl rfl (answeredBy_undecryptable [3]) (by decide)
    hanswer).2.1 (by simp [answeredBy])

/-- A plain answer of a proxy marks the saved server as expired and refuses the connection. -/
theorem plain_answer_expires_server : hasUsableCachedConfig savedServer ∧
      (∀ event ∈ answeredBy [2], @Undecryptable plainPlatform samplePost event) ∧
      (refreshAnsweredBy [2]).server =
        some { savedServer with subscriptionExpiredByServer := true } ∧
      (refreshAnsweredBy [2]).completions = [(.apiSubscriptionExpiredError,{},"")] := by
  refine ⟨rfl,answeredBy_undecryptable [2],?_,?_⟩
  · decide
  · decide

end AlzheimerVPN.SubscriptionController
