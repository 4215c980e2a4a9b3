import WebhookMonitor.Python.Json
import WebhookMonitor.Security.Signature
import WebhookMonitor.Storage.Deliveries

/-!
# Webhook ingestion

`WebhookIngestionService.ingest`: check the signature, read the payload, build
the attempt, add it to the store.  Everything before the last step is a function
of the request, of the identifier `uuid4` gives and of the time, so it is a
definition of its own (`newAttempt`); only the last step touches the store.
-/

namespace WebhookMonitor

open Python

/-- `WebhookIngestionService`, apart from its store.  The settings refuse an empty
secret and one without a UTF-8 form. -/
structure WebhookIngestionService where
  webhookSecret : Str
  limit : RecursionLimit
  secret_nonempty : webhookSecret ≠ []
  secret_scalar : isScalar webhookSecret = true

/-- The arguments of `ingest`. -/
structure IngestRequest where
  rawBody : Bytes
  signature : Option Str
  githubEvent : Str
  githubDelivery : Str
  githubHookId : Str
  installationTargetId : Option Str
  installationTargetType : Option Str

/-- The payload: `json.loads(raw_body.decode("utf-8"))`, of which only the
`JSONDecodeError` is handled.  A payload that is no object counts as an empty one. -/
def parsePayload (limit : RecursionLimit) (rawBody : Bytes) : Except AppError Members :=
  match decodeUtf8 .strict rawBody with
  | none => .error (.python .unicodeDecodeError)
  | some text =>
      match loads limit text with
      | .ok payload => .ok (payload.dict?.getD [])
      | .error .jsonDecodeError => .error .malformedWebhookPayload
      | .error e => .error (.python e)

/-- `value.get(key) if isinstance(value, dict) else None`. -/
def memberOf (value : Json) (key : Str) : Json :=
  match value.dict? with
  | some members => Members.get members key
  | none => .null

/-- The attempt of a request with this payload. -/
def attemptOf (request : IngestRequest) (payload : Members) (attemptId : UUID) (now : Wall) :
    Except AppError DeliveryAttempt := do
  let hookId ← uncaught (orRaise .valueError (readInt request.githubHookId))
  let deliveryIdentity ← GitHubDeliveryIdentity.new request.githubDelivery hookId
  DeliveryAttempt.new attemptId deliveryIdentity ⟨now, some Offset.utc⟩
    (hexdigest (sha256 request.rawBody)) request.githubEvent
    (Members.get payload "action")
    (memberOf (Members.get payload "repository") "full_name")
    (memberOf (Members.get payload "sender") "login")
    request.installationTargetId request.installationTargetType

namespace WebhookIngestionService

variable {σ : Type} (service : WebhookIngestionService)

/-- What `ingest` does before it adds the attempt. -/
def newAttempt (request : IngestRequest) (attemptId : UUID) (now : Wall) :
    Except AppError DeliveryAttempt := do
  let verified ← uncaught
    (verifyGithubSignature request.rawBody request.signature service.webhookSecret)
  if !verified then throw .invalidWebhookSignature
  let payload ← parsePayload service.limit request.rawBody
  attemptOf request payload attemptId now

/-- `ingest`, with the identifier `uuid4` gives and the time. -/
def ingest (store : DeliveryStore σ) (request : IngestRequest) (attemptId : UUID) (now : Wall)
    (s : σ) : Except AppError DeliveryAttempt × σ :=
  match service.newAttempt request attemptId now with
  | .error e => (.error e, s)
  | .ok attempt =>
      match store.add attempt s with
      | (.ok (), s') => (.ok attempt, s')
      | (.error e, s') => (.error e, s')

end WebhookIngestionService

end WebhookMonitor
