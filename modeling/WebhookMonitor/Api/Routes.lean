import WebhookMonitor.Services.Webhooks

/-!
# The webhook route

`POST /webhook/github`: the header checks, the bounded reading of the body, the
ingestion, and the mapping of its errors to HTTP answers.

* `requireNonEmptyHeader`, `requirePositiveIntegerHeader`,
  `validateContentLength`, `validateInstallationTarget` — the header checks;
* `readBoundedBody` — the streaming loop;
* `admission` — everything the route does before it calls `ingest`;
* `receiveWebhook` — `admission` and `ingest`, with the errors as they are raised;
* `githubWebhook` — the route up to its answer: the rendering of `event.to_dict()`, which
  comes after the attempt is stored, is in `Application.githubWebhook`.
-/

namespace WebhookMonitor

open Python

/-- A request header: the server decodes its bytes as Latin-1. -/
abbrev HeaderValue := {s : Str // isLatin1 s = true}

/-- The headers the route reads.  One that is sent more than once counts with its
first value. -/
structure WebhookHeaders where
  contentType : Option HeaderValue
  contentLength : Option HeaderValue
  xGithubEvent : Option HeaderValue
  xGithubDelivery : Option HeaderValue
  xGithubHookId : Option HeaderValue
  xGithubHookInstallationTargetId : Option HeaderValue
  xGithubHookInstallationTargetType : Option HeaderValue
  xHubSignature256 : Option HeaderValue

/-! ## The checks -/

/-- The loop over the stream, with the size so far. -/
def readChunks (maxBodyBytes : ℕ) : ℕ → List Bytes → Except AppError Bytes
  | _, [] => .ok []
  | totalSize, chunk :: rest =>
      if maxBodyBytes < totalSize + chunk.length then
        .error (.httpException 413 "Payload too large")
      else (readChunks maxBodyBytes (totalSize + chunk.length) rest).map (chunk ++ ·)

def readBoundedBody (maxBodyBytes : ℕ) (chunks : List Bytes) : Except AppError Bytes :=
  readChunks maxBodyBytes 0 chunks

def isJsonContentType (contentType : Option HeaderValue) : Bool :=
  match contentType with
  | none => false
  | some contentType =>
      lower (strip (splitAt ';' contentType.val).1) = Str.lit "application/json"

def requireNonEmptyHeader (value : Option HeaderValue) (detail : String) :
    Except AppError HeaderValue :=
  match value with
  | none => .error (.httpException 400 detail)
  | some value => if strip value.val = [] then .error (.httpException 400 detail) else .ok value

def requirePositiveIntegerHeader (value : Option HeaderValue) (detail : String) :
    Except AppError HeaderValue := do
  let headerValue ← requireNonEmptyHeader value detail
  match readInt headerValue.val with
  | none => .error (.httpException 400 detail)
  | some parsedValue =>
      if parsedValue ≤ 0 then .error (.httpException 400 detail) else .ok headerValue

def validateContentLength (contentLength : Option HeaderValue) (maxBodyBytes : ℕ) :
    Except AppError Unit :=
  match contentLength with
  | none => .ok ()
  | some contentLength =>
      match readInt contentLength.val with
      | none => .error (.httpException 400 "Invalid Content-Length")
      | some declaredLength =>
          if declaredLength < 0 then .error (.httpException 400 "Invalid Content-Length")
          else if (maxBodyBytes : ℤ) < declaredLength then
            .error (.httpException 413 "Payload too large")
          else .ok ()

def installationTargetDetail : String := "Invalid GitHub installation target metadata"

def validateInstallationTarget (installationTargetId installationTargetType : Option HeaderValue) :
    Except AppError (Option HeaderValue × Option HeaderValue) :=
  if installationTargetId = none ∧ installationTargetType = none then .ok (none, none)
  else if installationTargetId = none ∨ installationTargetType = none then
    .error (.httpException 400 installationTargetDetail)
  else do
    let targetId ← requirePositiveIntegerHeader installationTargetId installationTargetDetail
    let targetType ← requireNonEmptyHeader installationTargetType installationTargetDetail
    return (some targetId, some targetType)

/-! ## The route -/

/-- What the route does before it calls `ingest`: the arguments of the call, or an
HTTP answer. -/
def admission (maxWebhookBodyBytes : ℕ) (headers : WebhookHeaders) (chunks : List Bytes) :
    Except AppError IngestRequest := do
  if !isJsonContentType headers.contentType then
    throw (.httpException 415 "Unsupported media type")
  let githubEvent ← requireNonEmptyHeader headers.xGithubEvent "Missing GitHub event"
  let githubDelivery ←
    requireNonEmptyHeader headers.xGithubDelivery "Missing GitHub delivery ID"
  let githubHookId ← requirePositiveIntegerHeader headers.xGithubHookId "Invalid GitHub hook ID"
  let installationTarget ← validateInstallationTarget headers.xGithubHookInstallationTargetId
    headers.xGithubHookInstallationTargetType
  validateContentLength headers.contentLength maxWebhookBodyBytes
  let rawBody ← readBoundedBody maxWebhookBodyBytes chunks
  return { rawBody
           signature := headers.xHubSignature256.map (·.val)
           githubEvent := githubEvent.val
           githubDelivery := githubDelivery.val
           githubHookId := githubHookId.val
           installationTargetId := installationTarget.1.map (·.val)
           installationTargetType := installationTarget.2.map (·.val) }

/-- What the `except` clauses of the route make of an error. -/
def webhookAnswer : AppError → AppError
  | .invalidWebhookSignature => .httpException 401 "Invalid webhook signature"
  | .malformedWebhookPayload => .httpException 400 "Invalid JSON payload"
  | .deliveryStore _ => .httpException 503 "Service unavailable"
  | e => e

section Route

variable {σ : Type} (store : DeliveryStore σ) (service : WebhookIngestionService)
  (maxWebhookBodyBytes : ℕ) (headers : WebhookHeaders) (chunks : List Bytes) (attemptId : UUID)
  (now : Wall) (s : σ)

/-- The header checks and the ingestion. -/
def receiveWebhook : Except AppError DeliveryAttempt × σ :=
  match admission maxWebhookBodyBytes headers chunks with
  | .error e => (.error e, s)
  | .ok request => service.ingest store request attemptId now s

/-- `github_webhook`, up to the rendering of the stored attempt. -/
def githubWebhook : Except AppError DeliveryAttempt × σ :=
  let received :=
    receiveWebhook store service maxWebhookBodyBytes headers chunks attemptId now s
  (received.1.mapError webhookAnswer, received.2)

end Route

/-! ## The size of the body -/

/-- The loop stops exactly when the whole is too large, however it is cut. -/
theorem readChunks_eq (maxBodyBytes totalSize : ℕ) (chunks : List Bytes)
    (within : totalSize ≤ maxBodyBytes) :
    readChunks maxBodyBytes totalSize chunks =
      if totalSize + chunks.flatten.length ≤ maxBodyBytes then .ok chunks.flatten
      else .error (.httpException 413 "Payload too large") := by
  induction chunks generalizing totalSize with
  | nil =>
      rw [List.flatten_nil, List.length_nil, Nat.add_zero, if_pos within]
      rfl
  | cons chunk rest ih =>
      rw [readChunks, List.flatten_cons, List.length_append]
      by_cases hchunk : maxBodyBytes < totalSize + chunk.length
      · rw [if_pos hchunk, if_neg (by omega)]
      · rw [if_neg hchunk, ih _ (Nat.le_of_not_lt hchunk), ← Nat.add_assoc]
        split_ifs
        · rfl
        · rfl

/-- The body is the concatenation of the chunks when it is within the bound. -/
theorem readBoundedBody_eq (maxBodyBytes : ℕ) (chunks : List Bytes) :
    readBoundedBody maxBodyBytes chunks =
      if chunks.flatten.length ≤ maxBodyBytes then .ok chunks.flatten
      else .error (.httpException 413 "Payload too large") := by
  rw [readBoundedBody, readChunks_eq _ _ _ (Nat.zero_le _), Nat.zero_add]

/-- What is admitted depends on the bytes of the body alone. -/
theorem admission_of_flatten_eq (maxWebhookBodyBytes : ℕ) (headers : WebhookHeaders)
    {chunks chunks' : List Bytes} (same : chunks'.flatten = chunks.flatten) :
    admission maxWebhookBodyBytes headers chunks' =
      admission maxWebhookBodyBytes headers chunks := by
  unfold admission
  rw [readBoundedBody_eq, readBoundedBody_eq, same]

end WebhookMonitor
