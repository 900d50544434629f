import AlzheimerVPN.XrayConfig

/-! `GatewayController`: a call goes to the gateway, and if its reply is of no use, through a proxy.
The proxies are listed in storages, probed for their health and then tried. A call is a machine
that waits in a phase for the replies to its requests: `post` inside nested event loops,
`postAsync` in handlers; between two replies it runs without interruption, and other calls may go
on while it waits. Encryption, the text of a JSON document and the order after a shuffle are not
in the repository; what only goes into logs is left out. -/
namespace AlzheimerVPN.GatewayController

abbrev Body := List UInt8

/-- The code outside the repository. -/
class Platform where
  /-- `QJsonDocument::fromJson`, if the text is a document. -/
  fromJson : Body → Option Json
  /-- `CryptoUtils::decryptAes256Cbc` with a key and an initial vector; empty if it fails. -/
  decryptAes256Cbc : Body → Body → Body → Body
  /-- A storage payload, decrypted with the key of the build. -/
  decryptStorage : Body → Body
  /-- The name of a storage file for a service: Base64 of its UTF-8 text. -/
  toBase64Url : String → String

inductive NetworkError
  | noError | operationCanceledError | timeoutError | operationNotImplementedError
  | internalServerError | other (code : ℕ)
  deriving DecidableEq, Repr

/-- A finished `QNetworkReply`. -/
structure Reply where
  sslErrors : List String
  error : NetworkError
  body : Body
  deriving DecidableEq, Repr

inductive ErrorCode
  | noError | internalError | apiMissingAgwPublicKey | apiConfigSslError | apiConfigTimeoutError
  | apiConfigDownloadError | apiConfigDecryptionError | apiUpdateRequestError | apiRateLimitError
  | apiTrialAlreadyUsedError | apiConfigLimitError | apiNotFoundError
  | apiSubscriptionExpiredError | apiSubscriptionNotActiveError | apiCaptchaRefreshError
  | apiCaptchaInvalidError | apiCaptchaRequiredError | other (code : ℕ)
  deriving DecidableEq, Repr

section

variable [Platform]

/-- The bytes of an ASCII text. -/
def ascii (text : String) : Body := text.toList.map fun c => UInt8.ofNat c.toNat

def contains (body : Body) (text : String) : Bool := decide (ascii text <:+: body)

/-- The object that a body is the text of. -/
def bodyObject (body : Body) : Option JsonObject :=
  match Platform.fromJson body with
  | some (.obj fields) => some fields
  | _ => none

def httpStatus (object : JsonObject) : ℤ := (object.value "http_status").toIntOr (-1)

def apiErrorMessage (object : JsonObject) : String := Text.trimmed (object.value "message").toString

def unprocessableSubscriptionMessage : String :=
  "Failed to retrieve subscription information. Is it activated?"

def notFoundPatterns : List String :=
  ["No active configuration found for","No non-revoked public key found for","Account not found.",
   "QR session not found","Session not found"]

def updateRequestResponsePattern : String := "client version update is required"

structure DecryptionResult where
  decryptedBody : Body
  isDecryptionSuccessful : Bool
  deriving DecidableEq, Repr

def tryDecryptResponseBody (key iv encryptedResponseBody : Body) : DecryptionResult :=
  let decrypted := Platform.decryptAes256Cbc encryptedResponseBody key iv
  if decrypted.isEmpty then ⟨encryptedResponseBody,false⟩ else ⟨decrypted,true⟩

/-- The reply is of no use, and a proxy has to be asked. -/
def shouldBypassProxy (replyError : NetworkError) (result : DecryptionResult) : Bool :=
  let object := (bodyObject result.decryptedBody).getD []
  let apiHttpStatus := httpStatus object
  if !result.isDecryptionSuccessful then true
  else if replyError = .operationCanceledError ∨ replyError = .timeoutError then true
  else if contains result.decryptedBody "html" then true
  else if apiHttpStatus = 408 then false
  else if apiHttpStatus = 404 then !notFoundPatterns.any (contains result.decryptedBody)
  else if apiHttpStatus = 501 then !contains result.decryptedBody updateRequestResponsePattern
  else if apiHttpStatus = 409 then false
  else if apiHttpStatus = 402 then false
  else if apiHttpStatus = 422 then apiErrorMessage object ≠ unprocessableSubscriptionMessage
  else replyError ≠ .noError

/-- `QString::contains` with `Qt::CaseInsensitive`. -/
def mentions (message part : String) : Bool :=
  Replacement.contains sameFold part.toList message.toList

def captchaError (object : JsonObject) : ErrorCode :=
  let message := apiErrorMessage object
  if mentions message "refresh_captcha" then .apiCaptchaRefreshError
  else if mentions message "invalid_captcha" then .apiCaptchaInvalidError
  else if object.contains "captcha_id" || object.contains "captcha_image" ||
      mentions message "rate_limit_exceeded" then .apiCaptchaRequiredError
  else .apiSubscriptionNotActiveError

/-- The error that the object of a body stands for, if any. -/
def statusError (object : JsonObject) : Option ErrorCode :=
  let httpStatusFromBody := httpStatus object
  if httpStatusFromBody = 429 then some .apiRateLimitError
  else if httpStatusFromBody = 409 then
    if mentions (apiErrorMessage object) "trial subscription already used" then
      some .apiTrialAlreadyUsedError
    else some .apiConfigLimitError
  else if httpStatusFromBody = 404 then some .apiNotFoundError
  else if httpStatusFromBody = 408 then some .apiConfigTimeoutError
  else if httpStatusFromBody = 501 then some .apiUpdateRequestError
  else if httpStatusFromBody = 422 then
    if apiErrorMessage object = unprocessableSubscriptionMessage then
      some .apiSubscriptionExpiredError
    else some .apiConfigDownloadError
  else if httpStatusFromBody = 402 then some (captchaError object)
  else if 300 ≤ httpStatusFromBody then some .apiConfigDownloadError
  else none

/-- `apiUtils::checkNetworkReplyErrors` -/
def checkNetworkReplyErrors (sslErrors : List String) (replyError : NetworkError)
    (responseBody : Body) : ErrorCode :=
  if !sslErrors.isEmpty then .apiConfigSslError
  else if replyError = .operationCanceledError ∨ replyError = .timeoutError then
    .apiConfigTimeoutError
  else if replyError = .operationNotImplementedError then .apiUpdateRequestError
  else
    match (bodyObject responseBody).bind statusError with
    | some error => error
    | none => if replyError = .noError then .noError else .apiConfigDownloadError

/-- What a call has seen last; its result is made from this. -/
structure Seen where
  sslErrors : List String
  replyError : NetworkError
  decryptionResult : DecryptionResult
  deriving DecidableEq, Repr

def seenOf (key iv : Body) (reply : Reply) : Seen :=
  ⟨reply.sslErrors,reply.error,tryDecryptResponseBody key iv reply.body⟩

def Seen.needsProxy (seen : Seen) : Bool :=
  seen.sslErrors.isEmpty && shouldBypassProxy seen.replyError seen.decryptionResult

/-- The end of `post`. -/
def postResult (seen : Seen) : ErrorCode × Body :=
  let responseBody := seen.decryptionResult.decryptedBody
  let errorCode := checkNetworkReplyErrors seen.sslErrors seen.replyError responseBody
  if errorCode ≠ .noError then (errorCode,responseBody)
  else if !seen.decryptionResult.isDecryptionSuccessful then
    (.apiConfigDecryptionError,responseBody)
  else (.noError,responseBody)

/-- The end of `postAsync`. -/
def processResponse (seen : Seen) : ErrorCode × Body :=
  let responseBody := seen.decryptionResult.decryptedBody
  let errorCode := checkNetworkReplyErrors seen.sslErrors seen.replyError responseBody
  if errorCode ≠ .noError then (errorCode,responseBody)
  else if !seen.decryptionResult.isDecryptionSuccessful then (.apiConfigDecryptionError,[])
  else (.noError,responseBody)

/-- The `replyProcessingFunction` of `post`: the new state of its captured variables, and whether
the answer is taken. The SSL errors tested are those captured before. -/
def replyProcessing (key iv : Body) (seen : Seen) (reply : Reply) : Seen × Bool :=
  let next := seenOf key iv reply
  if !seen.sslErrors.isEmpty || shouldBypassProxy next.replyError next.decryptionResult then
    (next,false)
  else ({ next with sslErrors := seen.sslErrors },true)

end

section

structure Config where
  gatewayEndpoint : String
  isDevEnvironment : Bool
  primaryBaseUrls : List String
  fallbackBaseUrls : List String

/-- What all calls share: `m_proxyUrl` and the repository's proxy lists. -/
structure Shared where
  proxyUrl : String
  cache : String → Body

/-- How `prepareRequest` ends. -/
inductive Preparation
  | ready | missingPublicKey | notEncrypted
  deriving DecidableEq, Repr

/-- A call, with its random key and orders. -/
structure Call where
  isAsync : Bool
  serviceType : String
  userCountryCode : String
  key : Body
  iv : Body
  preparation : Preparation
  shuffle : ℕ → List String → List String
  shuffle_perm : ∀ n urls, (shuffle n urls).Perm urls

inductive Request
  | gateway (base : String) | storage (url : String) | health (proxyUrl : String)
  | proxy (proxyUrl : String)
  deriving DecidableEq, Repr

/-- The reply to the request of a kind with the given number. -/
inductive Event
  | direct (reply : Reply) | storage (index : ℕ) (reply : Reply) | probe (index : ℕ) (reply : Reply)
  | attempt (index : ℕ) (reply : Reply)

/-- What a step does: it sends requests, saves a list of proxies and hands it over, and ends the
call. -/
inductive Output
  | request (request : Request) | saved (payload : Body) | proxyUrls (urls : List String)
  | result (errorCode : ErrorCode) (responseBody : Body)
  deriving DecidableEq, Repr

/-- Where a call waits. -/
inductive Phase
  | direct
  /-- `getProxyUrls` for the storage with this number, with the list cached before -/
  | storage (cached : Body) (index : ℕ) (seen : Seen)
  /-- `bypassProxy` for the health of a proxy -/
  | probe (proxyUrls : List String) (index : ℕ) (seen : Seen)
  /-- `bypassProxy` for an answer; the first candidate may be the remembered one -/
  | attempt (remembered : Bool) (candidates : List String) (index : ℕ) (seen : Seen)
  /-- `getProxyUrlsAsync` for the storages that have not replied -/
  | search (pending : List ℕ) (finishedCount : ℕ)
  | probeAsync (proxyUrls : List String) (index : ℕ)
  | attemptAsync
  | finished
  deriving DecidableEq, Repr

abbrev Step := Shared × Phase × List Output

variable [Platform] (cfg : Config) (call : Call)

def proxyUrlsCacheKey : String :=
  "service_"++call.serviceType++"_country_"++call.userCountryCode

def appendStorageUrls (baseUrls : List String) : List String :=
  let path := Platform.toBase64Url ("endpoints-"++call.serviceType++"-"++call.userCountryCode)
  (if call.serviceType.isEmpty then [] else baseUrls.map fun baseUrl => baseUrl++path++".json")++
    baseUrls.map fun baseUrl => baseUrl++"endpoints.json"

def proxyStorageUrls : List String :=
  appendStorageUrls call (call.shuffle 0 cfg.primaryBaseUrls)++
    appendStorageUrls call (if cfg.isDevEnvironment then [] else call.shuffle 1 cfg.fallbackBaseUrls)

def decryptProxyUrlsPayload (encryptedPayload : Body) : Option Body :=
  if cfg.isDevEnvironment then some encryptedPayload
  else
    let decryptedPayload := Platform.decryptStorage encryptedPayload
    if decryptedPayload.isEmpty then none else some decryptedPayload

def endpointsOf (payload : Body) : List String :=
  match Platform.fromJson payload with
  | some (.arr items) => items.map Json.toString
  | _ => []

def readCachedProxyUrls (cached : Body) : List String :=
  if cached.isEmpty then []
  else
    match decryptProxyUrlsPayload cfg cached with
    | some payload => endpointsOf payload
    | none => []

variable (s : Shared)

def finish (result : ErrorCode × Body) : Step :=
  (s,.finished,[.result result.1 result.2])

def emit (output : Output) (step : Step) : Step := (step.1,step.2.1,output::step.2.2)

def cacheWith (encrypted : Body) : Shared :=
  { s with cache := fun key => if key = proxyUrlsCacheKey call then encrypted else s.cache key }

/-- `writeGatewayProxyUrls`, and what is done then. -/
def writeGatewayProxyUrls (encrypted : Body) (next : Shared → Step) : Step :=
  emit (.saved encrypted) (next (cacheWith call s encrypted))

/-- The loop over the candidates from a number on. -/
def attemptFrom (remembered : Bool) (candidates : List String) (index : ℕ) (seen : Seen) : Step :=
  match candidates[index]? with
  | some url => (s,.attempt remembered candidates index seen,[.request (.proxy url)])
  | none => finish s (postResult seen)

variable (proxyUrls : List String)

def attempts (seen : Seen) : Step :=
  if s.proxyUrl.isEmpty then attemptFrom s false proxyUrls 0 seen
  else attemptFrom s true (s.proxyUrl::proxyUrls) 0 seen

def probeFrom (index : ℕ) (seen : Seen) : Step :=
  match proxyUrls[index]? with
  | some url => (s,.probe proxyUrls index seen,[.request (.health url)])
  | none => attempts s proxyUrls seen

/-- `bypassProxy` once it has the list. -/
def bypass (seen : Seen) : Step :=
  let shuffled := call.shuffle 2 proxyUrls
  emit (.proxyUrls proxyUrls)
    (if s.proxyUrl.isEmpty then probeFrom s shuffled 0 seen else attempts s shuffled seen)

def storageFrom (cached : Body) (index : ℕ) (seen : Seen) : Step :=
  match (proxyStorageUrls cfg call)[index]? with
  | some url => (s,.storage cached index seen,[.request (.storage url)])
  | none => bypass call s (readCachedProxyUrls cfg cached) seen

def getProxyUrls (seen : Seen) : Step :=
  storageFrom cfg call s (s.cache (proxyUrlsCacheKey call)) 0 seen

/-- `bypassProxyAsync` without a proxy. -/
def emptyProxyUrl : Seen := ⟨[],.internalServerError,⟨[],false⟩⟩

def getProxyUrlAsync (index : ℕ) : Step :=
  match proxyUrls[index]? with
  | some url => (s,.probeAsync proxyUrls index,[.request (.health url)])
  | none => finish s (processResponse emptyProxyUrl)

/-- The completion of `getProxyUrlsAsync`. -/
def onProxyUrls : Step :=
  let shuffled := call.shuffle 2 proxyUrls
  emit (.proxyUrls shuffled) (getProxyUrlAsync s shuffled 0)

def getProxyUrlsAsync : Step :=
  let urls := proxyStorageUrls cfg call
  if urls.isEmpty then
    onProxyUrls call s (readCachedProxyUrls cfg (s.cache (proxyUrlsCacheKey call)))
  else (s,.search (List.range urls.length) 0,urls.map fun url => .request (.storage url))

/-- The list in a storage's reply, if `getProxyUrlsAsync` takes it. -/
def usefulList (reply : Reply) : Option (List String) :=
  if reply.error = .noError ∧ reply.body ≠ [] then
    ((decryptProxyUrlsPayload cfg reply.body).map endpointsOf).filter (!·.isEmpty)
  else none

/-- The handler of a storage's reply. A decision aborts the other requests. -/
def onStorageReply (pending : List ℕ) (finishedCount index : ℕ) (reply : Reply) : Step :=
  match usefulList cfg reply with
  | some endpoints =>
    writeGatewayProxyUrls call s reply.body fun s => onProxyUrls call s endpoints
  | none =>
    if (proxyStorageUrls cfg call).length ≤ finishedCount+1 then
      onProxyUrls call s (readCachedProxyUrls cfg (s.cache (proxyUrlsCacheKey call)))
    else (s,.search (pending.erase index) (finishedCount+1),[])

/-- `post` and `postAsync` up to their first request. -/
def start : Step :=
  match call.preparation with
  | .ready => (s,.direct,
      [.request (.gateway (if s.proxyUrl.isEmpty then cfg.gatewayEndpoint else s.proxyUrl))])
  | .missingPublicKey => finish s (.apiMissingAgwPublicKey,[])
  | .notEncrypted => finish s (.apiConfigDecryptionError,[])

def onDirectReply (reply : Reply) : Step :=
  let seen := seenOf call.key call.iv reply
  match call.isAsync, seen.needsProxy with
  | false, true => getProxyUrls cfg call s seen
  | false, false => finish s (postResult seen)
  | true, true => getProxyUrlsAsync cfg call s
  | true, false => finish s (processResponse seen)

section

variable {cfg call} (s : Shared)

@[simp] lemma attemptFrom_shared (remembered : Bool) (candidates : List String)
    (index : ℕ) (seen : Seen) : (attemptFrom s remembered candidates index seen).1 = s := by
  rw [attemptFrom]
  split <;> rfl

variable (proxyUrls : List String)

@[simp] lemma attempts_shared (seen : Seen) : (attempts s proxyUrls seen).1 = s := by
  rw [attempts]
  split <;> exact attemptFrom_shared _ _ _ _ _

@[simp] lemma probeFrom_shared (index : ℕ) (seen : Seen) :
    (probeFrom s proxyUrls index seen).1 = s := by
  rw [probeFrom]
  split
  · rfl
  · exact attempts_shared _ _ _

@[simp] lemma bypass_shared (seen : Seen) : (bypass call s proxyUrls seen).1 = s := by
  simp only [bypass,emit]
  split <;> simp

@[simp] lemma storageFrom_shared (cached : Body) (index : ℕ) (seen : Seen) :
    (storageFrom cfg call s cached index seen).1 = s := by
  rw [storageFrom]
  split <;> simp

@[simp] lemma getProxyUrlAsync_shared (index : ℕ) :
    (getProxyUrlAsync s proxyUrls index).1 = s := by
  rw [getProxyUrlAsync]
  split <;> rfl

@[simp] lemma onProxyUrls_shared : (onProxyUrls call s proxyUrls).1 = s := by
  simp only [onProxyUrls,emit,getProxyUrlAsync_shared]

@[simp] lemma getProxyUrlsAsync_shared : (getProxyUrlsAsync cfg call s).1 = s := by
  simp only [getProxyUrlsAsync]
  split <;> simp

@[simp] lemma onDirectReply_shared (reply : Reply) : (onDirectReply cfg call s reply).1 = s := by
  simp only [onDirectReply]
  split <;> simp [getProxyUrls,finish]

omit [Platform] in
lemma start_shared : (start cfg call s).1 = s := by
  rw [start]
  split <;> rfl

end

/-- One reply. A reply that is not waited for changes nothing. -/
def step (phase : Phase) (event : Event) : Step :=
  match phase, event with
  | .direct, .direct reply => onDirectReply cfg call s reply
  | .storage cached index seen, .storage i reply =>
    if i ≠ index then (s,phase,[])
    else if reply.error ≠ .noError then storageFrom cfg call s cached (index+1) seen
    else
      match decryptProxyUrlsPayload cfg reply.body with
      | none => storageFrom cfg call s cached (index+1) seen
      | some payload =>
        writeGatewayProxyUrls call s reply.body fun s => bypass call s (endpointsOf payload) seen
  | .probe proxyUrls index seen, .probe i reply =>
    if i ≠ index then (s,phase,[])
    else if reply.error ≠ .noError then probeFrom s proxyUrls (index+1) seen
    else
      let url := proxyUrls.getD index ""
      let s := { s with proxyUrl := url }
      if url.isEmpty then probeFrom s proxyUrls (index+1) seen else attempts s proxyUrls seen
  | .attempt remembered candidates index seen, .attempt i reply =>
    if i ≠ index then (s,phase,[])
    else
      match replyProcessing call.key call.iv seen reply with
      | (seen,true) =>
        let s := if remembered && index == 0 then s
          else { s with proxyUrl := candidates.getD index "" }
        finish s (postResult seen)
      | (seen,false) => attemptFrom s remembered candidates (index+1) seen
  | .search pending finishedCount, .storage i reply =>
    if i ∈ pending then onStorageReply cfg call s pending finishedCount i reply else (s,phase,[])
  | .probeAsync proxyUrls index, .probe i reply =>
    if i ≠ index then (s,phase,[])
    else if reply.error ≠ .noError then getProxyUrlAsync s proxyUrls (index+1)
    else
      let url := proxyUrls.getD index ""
      let s := { s with proxyUrl := url }
      if url.isEmpty then finish s (processResponse emptyProxyUrl)
      else (s,.attemptAsync,[.request (.proxy url)])
  | .attemptAsync, .attempt _ reply => finish s (processResponse (seenOf call.key call.iv reply))
  | _, _ => (s,phase,[])

/-- A call under way, with all that it has done. -/
structure Thread where
  shared : Shared
  phase : Phase
  outputs : List Output

def begin : Thread :=
  let first := start cfg call s
  ⟨first.1,first.2.1,first.2.2⟩

def feed (t : Thread) (event : Event) : Thread :=
  let next := step cfg call t.shared t.phase event
  ⟨next.1,next.2.1,t.outputs++next.2.2⟩

end

end AlzheimerVPN.GatewayController
