import WebhookMonitor.Api.Answers
import WebhookMonitor.Api.DeliveryAttempts
import WebhookMonitor.Api.Management
import WebhookMonitor.Api.Routes
import WebhookMonitor.Application.Calls
import WebhookMonitor.Services.GitHubRedelivery

/-!
# The routes as programs

Every route of `create_router` and `create_delivery_attempts_router`, as the program of
one request: its dependency, its checks, the calls of its service, and the HTTP answer
each error becomes.

* `Application` — what `create_app` hands to the routers;
* `authorize` — the dependency of a management route;
* `githubWebhook` — the webhook, with the identifier and the time drawn where the source
  draws them;
* `listDeliveryAttempts`, `getDeliveryAttempt`, `reconcileGithubDeliveries`,
  `requestGithubRedelivery`, `listRecoveryActions`, `getRecoveryAction`, `getEvents` —
  the management routes;
* `Request`, `Answer`, `Application.handle` — all of them.

`create_app` always passes the three services, so the answer 404 of a router without
them does not occur.  A response model is sent as `render` says, a `dict` as the framework
makes JSON of it (`renderJson`); either can fail after the work of the route is done.
-/

namespace WebhookMonitor

open Python Interaction ApplicationCall

/-- What `create_app` hands to the routers. -/
structure Application (κ : Type) where
  gate : ManagementGate κ
  webhookService : WebhookIngestionService
  maxWebhookBodyBytes : ℕ
  addAttempt : AddAttempt
  reconciliationService : GitHubReconciliationService
  redeliveryService : GitHubRedeliveryService
  recursionLimit : RecursionLimit
  /-- What the framework raises when it sends a `dict` as JSON. -/
  renderJson : Json → Except BuiltinError Unit

/-! ## Response models -/

/-- The body of an acknowledgement. -/
def webhookReceivedBody (event : DeliveryAttempt) : Json :=
  .dict [("message", .str "Webhook received"), ("event", event.toDict)]

/-- The body of `/events`. -/
def eventsBody (recentEvents : List DeliveryAttempt) : Json :=
  .dict [("count", .int recentEvents.length), ("events", .list (recentEvents.map (·.toDict)))]

/-- `GitHubDeliveriesReconciliationResponse`; a summary is copied field by field. -/
structure GitHubDeliveriesReconciliationResponse where
  attemptId : UUID
  deliveryGuid : Str
  hookId : ℤ
  repository : Str
  matching : List GitHubDeliverySummary
  searchComplete : Bool
  nextCursor : Option Str

/-- `GitHubRedeliveryResponse`. -/
structure GitHubRedeliveryResponse where
  actionId : UUID
  attemptId : UUID
  deliveryGuid : Str
  hookId : ℤ
  githubDeliveryId : ℤ
  status : Str

def GitHubRedeliveryResponse.texts (response : GitHubRedeliveryResponse) : List Str :=
  [response.deliveryGuid, response.status]

/-- `RecoveryActionsListResponse`; an action is copied field by field. -/
structure RecoveryActionsListResponse where
  items : List RecoveryAction
  nextCursor : Option Str

/-- The texts of `RecoveryActionResponse` that are not of a fixed list. -/
def RecoveryAction.texts (action : RecoveryAction) : List Str :=
  [action.deliveryGuid, action.repository] ++ action.principalIssuer.toList ++
    action.principalSubject.toList ++ action.principalClientId.toList ++
    action.authorizationScope.toList ++ action.failureCategory.toList

def RecoveryActionsListResponse.texts (response : RecoveryActionsListResponse) : List Str :=
  response.items.flatMap RecoveryAction.texts ++ response.nextCursor.toList

/-! ## Requests and answers -/

/-- A request, with what its route reads of it. -/
inductive Request where
  | githubWebhook (headers : WebhookHeaders) (chunks : List Bytes)
  | listDeliveryAttempts (credentials : Option RequestCredentials) (limit cursor : Option Str)
  | getDeliveryAttempt (credentials : Option RequestCredentials) (attemptId : Str)
  | reconcileGithubDeliveries (credentials : Option RequestCredentials) (attemptId : Str)
      (cursor : Option Str)
  | requestGithubRedelivery (credentials : Option RequestCredentials)
      (attemptId githubDeliveryId : Str)
  | listRecoveryActions (credentials : Option RequestCredentials) (limit cursor : Option Str)
  | getRecoveryAction (credentials : Option RequestCredentials) (actionId : Str)
  | getEvents (credentials : Option RequestCredentials)
  | health
  | ready

/-- What a route returns. -/
inductive Answer where
  | webhookReceived (event : DeliveryAttempt)
  | deliveryAttempts (response : DeliveryAttemptsListResponse)
  | deliveryAttempt (response : DeliveryAttemptResponse)
  | githubDeliveries (response : GitHubDeliveriesReconciliationResponse)
  | githubRedelivery (response : GitHubRedeliveryResponse)
  | recoveryActions (response : RecoveryActionsListResponse)
  | recoveryAction (response : RecoveryAction)
  | events (recentEvents : List DeliveryAttempt)
  | health
  | ready

namespace Application

variable {κ : Type} (self : Application κ)

/-- `except` clauses that turn every error they name into an HTTP answer. -/
def answering {α : Type} (answer : AppError → AppError) (p : Handler κ α) : Handler κ α :=
  tryCatch p fun e => throw (answer e)

/-- `Depends(require_management_capability(…))`. -/
def authorize (capability : ManagementCapability) (credentials : Option RequestCredentials) :
    Handler κ ManagementAuthorization :=
  (authentication κ).lift
    (self.gate.requireManagementCapability capability (credentials.map (·.val)))

/-- `UUID(value)`, of which the `ValueError` becomes an answer. -/
def parseUuid (value : Str) (detail : String) : Handler κ UUID :=
  match UUID.parse value with
  | none => throw (.httpException 422 detail)
  | some id => return id

/-! ## The webhook -/

/-- The body of `ingest` up to the identifier. -/
def verifyWebhook (request : IngestRequest) :
    Except AppError (Members × GitHubDeliveryIdentity) := do
  let verified ← uncaught (verifyGithubSignature request.rawBody request.signature
    self.webhookService.webhookSecret)
  if !verified then throw .invalidWebhookSignature
  let payload ← parsePayload self.webhookService.limit request.rawBody
  let hookId ← uncaught (orRaise .valueError (readInt request.githubHookId))
  let deliveryIdentity ← GitHubDeliveryIdentity.new request.githubDelivery hookId
  return (payload, deliveryIdentity)

/-- `ingest`. -/
def ingest (request : IngestRequest) : Handler κ DeliveryAttempt := do
  let (payload, deliveryIdentity) ← Program.ofExcept (self.verifyWebhook request)
  let attemptId ← ask (.service .uuid4)
  let now ← ask (.service .now)
  let attempt ← Program.ofExcept <|
    DeliveryAttempt.new attemptId deliveryIdentity ⟨now, some Offset.utc⟩
      (hexdigest (sha256 request.rawBody)) request.githubEvent
      (Members.get payload "action")
      (memberOf (Members.get payload "repository") "full_name")
      (memberOf (Members.get payload "sender") "login")
      request.installationTargetId request.installationTargetType
  (storage κ).lift (self.addAttempt attempt)
  return attempt

/-- The acknowledgement of a stored attempt, if it can be rendered. -/
def acknowledgement (event : DeliveryAttempt) : Except AppError DeliveryAttempt :=
  (uncaught (self.renderJson (webhookReceivedBody event))).map fun _ => event

def githubWebhook (headers : WebhookHeaders) (chunks : List Bytes) : Handler κ DeliveryAttempt := do
  let request ← Program.ofExcept (admission self.maxWebhookBodyBytes headers chunks)
  let event ← answering webhookAnswer (self.ingest request)
  Program.ofExcept (self.acknowledgement event)

/-! ## Delivery attempts -/

/-- `list_attempts` and `list_actions` over a query of their store. -/
def listPage {α : Type} (listing : KeysetListing α)
    (fetch : ℕ → Option (AwareDatetime × UUID) → Handler κ (List α)) (limit : ℕ)
    (cursor : Option Str) : Handler κ (KeysetPage α) := do
  let after ← Program.ofExcept (listing.decodeOptional self.recursionLimit cursor)
  let found ← fetch (limit + 1) after
  let nextCursor ← Program.ofExcept (listing.nextCursor limit found)
  return ⟨found.take limit, nextCursor⟩

/-- A query whose answer is what it returns or raises. -/
def query {α : Type} (c : ApplicationCall κ) (result : c.Answer → Except AppError α) :
    Handler κ α := do
  let answer ← ask c
  Program.ofExcept (result answer)

/-- `get_attempt` of the query service, and `get_local_attempt` of the other two. -/
def getAttempt (attemptId : UUID) : Handler κ (Option DeliveryAttempt) :=
  query (.store (.getAttempt attemptId)) id

/-- What becomes of a `DeliveryStoreError`. -/
def storeAnswer : AppError → AppError
  | .deliveryStore _ => .httpException 503 "Service unavailable"
  | e => e

/-- The lookup of a local attempt by the routes that are about one. -/
def localAttempt (attemptId : UUID) : Handler κ DeliveryAttempt := do
  let attempt ← answering storeAnswer (getAttempt attemptId)
  match attempt with
  | none => throw (.httpException 404 "Delivery attempt not found")
  | some attempt => return attempt

def listDeliveryAttempts (credentials : Option RequestCredentials) (limit cursor : Option Str) :
    Handler κ DeliveryAttemptsListResponse := do
  let _authorization ← self.authorize .diagnosticsRead credentials
  let page ← answering deliveryAttemptsAnswer do
    let parsedLimit ← Program.ofExcept (parseDeliveryAttemptsLimit limit)
    self.listPage deliveryAttemptsListing (fun n after =>
      query (.store (.listAttemptsPage n (after.map fun k => ⟨k.1, k.2⟩))) id) parsedLimit cursor
  Program.ofExcept do
    let items ← page.items.mapM deliveryAttemptToResponse
    render DeliveryAttemptsListResponse.texts { items, nextCursor := page.nextCursor }

def getDeliveryAttempt (credentials : Option RequestCredentials) (attemptId : Str) :
    Handler κ DeliveryAttemptResponse := do
  let _authorization ← self.authorize .diagnosticsRead credentials
  let parsedAttemptId ← parseUuid attemptId "Invalid attempt_id"
  let attempt ← localAttempt parsedAttemptId
  Program.ofExcept do
    let response ← deliveryAttemptToResponse attempt
    render DeliveryAttemptResponse.texts response

/-! ## GitHub's history -/

/-- The response of a reconciliation; `attempt.repository or ""`. -/
def reconciliationResponse (result : GitHubReconciliationResult) :
    Except AppError GitHubDeliveriesReconciliationResponse := do
  let repository ← validateNullableStr result.attempt.repository
  return { attemptId := result.attempt.attemptId
           deliveryGuid := result.attempt.deliveryIdentity.deliveryGuid
           hookId := result.attempt.deliveryIdentity.hookId
           repository := repository.getD []
           matching := result.matching
           searchComplete := result.searchComplete
           nextCursor := result.nextCursor }

def reconcileGithubDeliveries (credentials : Option RequestCredentials) (attemptId : Str)
    (cursor : Option Str) : Handler κ GitHubDeliveriesReconciliationResponse := do
  let _authorization ← self.authorize .diagnosticsRead credentials
  if !self.reconciliationService.enabled then throw (.httpException 404 "Not found")
  let parsedAttemptId ← parseUuid attemptId "Invalid attempt_id"
  let attempt ← localAttempt parsedAttemptId
  let result ← answering reconciliationAnswer <|
    (services κ).lift (self.reconciliationService.reconcile attempt cursor)
  Program.ofExcept (reconciliationResponse result)

/-- The check of `github_delivery_id`. -/
def parseGithubDeliveryId (githubDeliveryId : Str) : Except AppError ℤ :=
  match readInt githubDeliveryId with
  | none => .error (.httpException 422 "Invalid github_delivery_id")
  | some parsedGithubDeliveryId =>
      if parsedGithubDeliveryId ≤ 0 then .error (.httpException 422 "Invalid github_delivery_id")
      else .ok parsedGithubDeliveryId

/-- The response of a redelivery. -/
def redeliveryResponse (result : GitHubRedeliveryResult) : GitHubRedeliveryResponse where
  actionId := result.actionId
  attemptId := result.attempt.attemptId
  deliveryGuid := result.attempt.deliveryIdentity.deliveryGuid
  hookId := result.attempt.deliveryIdentity.hookId
  githubDeliveryId := result.githubDeliveryId
  status := result.status

/-- The rest of `request_github_redelivery`, once the attempt is found. -/
def submitRedelivery (request : RedeliveryRequest) : Handler κ GitHubRedeliveryResponse := do
  let result ← answering redeliveryAnswer <|
    (services κ).lift (self.redeliveryService.requestRedelivery request)
  Program.ofExcept (render GitHubRedeliveryResponse.texts (redeliveryResponse result))

def requestGithubRedelivery (credentials : Option RequestCredentials)
    (attemptId githubDeliveryId : Str) : Handler κ GitHubRedeliveryResponse := do
  let authorization ← self.authorize .recoveryExecute credentials
  if !self.redeliveryService.enabled then throw (.httpException 404 "Not found")
  let parsedAttemptId ← parseUuid attemptId "Invalid attempt_id"
  let githubDeliveryId ← Program.ofExcept (parseGithubDeliveryId githubDeliveryId)
  let attempt ← localAttempt parsedAttemptId
  self.submitRedelivery { attempt, githubDeliveryId, authorization }

/-! ## The journal -/

/-- `parse_recovery_actions_limit`. -/
def parseRecoveryActionsLimit (value : Option Str) : Except AppError ℕ :=
  match value with
  | none => .ok 50
  | some value =>
      match readInt value with
      | none => .error (.invalidRecoveryActionsLimit "limit must be an integer")
      | some limit =>
          if 1 ≤ limit ∧ limit ≤ 100 then .ok limit.toNat
          else .error (.invalidRecoveryActionsLimit "limit must be between 1 and 100")

/-- What becomes of a `RecoveryActionStoreError`. -/
def journalAnswer : AppError → AppError
  | .recoveryActionStore _ => .httpException 503 "Service unavailable"
  | e => e

def listRecoveryActions (credentials : Option RequestCredentials) (limit cursor : Option Str) :
    Handler κ RecoveryActionsListResponse := do
  let _authorization ← self.authorize .recoveryRead credentials
  let page ← answering recoveryActionsAnswer do
    let parsedLimit ← Program.ofExcept (parseRecoveryActionsLimit limit)
    self.listPage recoveryActionsListing (fun n after =>
      query (.journal (.listRecent n (after.map fun k => ⟨k.1, k.2⟩))) id) parsedLimit cursor
  Program.ofExcept (render RecoveryActionsListResponse.texts ⟨page.items, page.nextCursor⟩)

def getRecoveryAction (credentials : Option RequestCredentials) (actionId : Str) :
    Handler κ RecoveryAction := do
  let _authorization ← self.authorize .recoveryRead credentials
  let parsedActionId ← parseUuid actionId "Invalid action_id"
  let action ← answering journalAnswer (query (.journal (.get parsedActionId)) id)
  match action with
  | none => throw (.httpException 404 "Recovery action not found")
  | some action => Program.ofExcept (render RecoveryAction.texts action)

/-! ## The other routes -/

def getEvents (credentials : Option RequestCredentials) : Handler κ (List DeliveryAttempt) := do
  let _authorization ← self.authorize .diagnosticsRead credentials
  let recentEvents ← answering storeAnswer (query (.store .listRecent) id)
  Program.ofExcept
    ((uncaught (self.renderJson (eventsBody recentEvents))).map fun _ => recentEvents)

/-- What the `except` clause of `ready` makes of a failed check. -/
def readyAnswer : Except ReadinessFailure Unit → Except AppError Unit
  | .ok u => .ok u
  | .error .deliveryStoreReadinessError => .error (.httpException 503 "Service unavailable")
  | .error (.other e) => .error e

def ready : Handler κ Unit := query .readinessCheck readyAnswer

/-- The program of a request. -/
def handle : Request → Handler κ Answer
  | .githubWebhook headers chunks => do
      let event ← self.githubWebhook headers chunks
      return .webhookReceived event
  | .listDeliveryAttempts credentials limit cursor => do
      let response ← self.listDeliveryAttempts credentials limit cursor
      return .deliveryAttempts response
  | .getDeliveryAttempt credentials attemptId => do
      let response ← self.getDeliveryAttempt credentials attemptId
      return .deliveryAttempt response
  | .reconcileGithubDeliveries credentials attemptId cursor => do
      let response ← self.reconcileGithubDeliveries credentials attemptId cursor
      return .githubDeliveries response
  | .requestGithubRedelivery credentials attemptId githubDeliveryId => do
      let response ← self.requestGithubRedelivery credentials attemptId githubDeliveryId
      return .githubRedelivery response
  | .listRecoveryActions credentials limit cursor => do
      let response ← self.listRecoveryActions credentials limit cursor
      return .recoveryActions response
  | .getRecoveryAction credentials actionId => do
      let response ← self.getRecoveryAction credentials actionId
      return .recoveryAction response
  | .getEvents credentials => do
      let recentEvents ← self.getEvents credentials
      return .events recentEvents
  | .health => return .health
  | .ready => do
      ready
      return .ready

end Application

end WebhookMonitor
