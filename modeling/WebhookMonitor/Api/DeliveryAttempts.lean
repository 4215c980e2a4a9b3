import WebhookMonitor.Python.Integer
import WebhookMonitor.Python.Uuid
import WebhookMonitor.Services.Queries

/-!
# The delivery-attempt routes

`GET /api/v1/delivery-attempts` and `GET /api/v1/delivery-attempts/{attempt_id}` over
the in-memory store, behind their authorization.

* `DeliveryAttemptResponse`, `deliveryAttemptToResponse` — the response model; its
  fields `str | None` take text and null only, whatever the attempt holds;
* `render` — the body of an answer is UTF-8, so its text has no lone surrogates;
* `parseDeliveryAttemptsLimit`, `listDeliveryAttempts` — a page;
* `getDeliveryAttempt` — a lookup.
-/

namespace WebhookMonitor

open Python

/-! ## Response models -/

/-- `DeliveryAttemptResponse`. -/
structure DeliveryAttemptResponse where
  attemptId : UUID
  deliveryGuid : Str
  hookId : ℤ
  receivedAt : AwareDatetime
  payloadSha256 : Str
  eventType : Str
  action : Option Str
  repository : Option Str
  sender : Option Str
  installationTargetId : Option Str
  installationTargetType : Option Str

/-- `DeliveryAttemptsListResponse`. -/
structure DeliveryAttemptsListResponse where
  items : List DeliveryAttemptResponse
  nextCursor : Option Str

/-- The validation of a field `str | None`. -/
def validateNullableStr : Json → Except AppError (Option Str)
  | .null => .ok none
  | .str s => .ok (some s)
  | _ => .error .responseValidation

/-- `delivery_attempt_to_response`. -/
def deliveryAttemptToResponse (attempt : DeliveryAttempt) :
    Except AppError DeliveryAttemptResponse := do
  let action ← validateNullableStr attempt.action
  let repository ← validateNullableStr attempt.repository
  let sender ← validateNullableStr attempt.sender
  return { attemptId := attempt.attemptId
           deliveryGuid := attempt.deliveryIdentity.deliveryGuid
           hookId := attempt.deliveryIdentity.hookId
           receivedAt := attempt.receivedAt
           payloadSha256 := attempt.payloadSha256
           eventType := attempt.eventType
           action
           repository
           sender
           installationTargetId := attempt.installationTargetId
           installationTargetType := attempt.installationTargetType }

/-- The texts of an answer. -/
def DeliveryAttemptResponse.texts (response : DeliveryAttemptResponse) : List Str :=
  [response.deliveryGuid, response.payloadSha256, response.eventType] ++ response.action.toList ++
    response.repository.toList ++ response.sender.toList ++
    response.installationTargetId.toList ++ response.installationTargetType.toList

def DeliveryAttemptsListResponse.texts (response : DeliveryAttemptsListResponse) : List Str :=
  response.items.flatMap DeliveryAttemptResponse.texts ++ response.nextCursor.toList

/-- The answer is sent as JSON in UTF-8. -/
def render {α : Type} (texts : α → List Str) (response : α) : Except AppError α :=
  if (texts response).all isScalar then .ok response else .error (.python .unicodeEncodeError)

/-! ## A page -/

def defaultDeliveryAttemptsLimit : ℕ := 50
def minDeliveryAttemptsLimit : ℕ := 1
def maxDeliveryAttemptsLimit : ℕ := 100

def parseDeliveryAttemptsLimit (value : Option Str) : Except AppError ℕ :=
  match value with
  | none => .ok defaultDeliveryAttemptsLimit
  | some value =>
      match readInt value with
      | none => .error (.invalidDeliveryAttemptsLimit "limit must be an integer")
      | some limit =>
          if minDeliveryAttemptsLimit ≤ limit ∧ limit ≤ maxDeliveryAttemptsLimit then
            .ok limit.toNat
          else .error (.invalidDeliveryAttemptsLimit "limit must be between 1 and 100")

/-- What the `except` clauses of the two routes make of an error. -/
def deliveryAttemptsAnswer : AppError → AppError
  | .invalidDeliveryAttemptsLimit _ => .httpException 422 "Invalid limit"
  | .invalidDeliveryAttemptsCursor _ => .httpException 400 "Invalid or expired cursor"
  | .deliveryStore _ => .httpException 503 "Service unavailable"
  | e => e

section Routes

variable (recursionLimit : RecursionLimit) (store : InMemoryDeliveryStore)

/-- The `try` block of `list_delivery_attempts`. -/
def queryDeliveryAttempts (limit cursor : Option Str) :
    Except AppError (KeysetPage DeliveryAttempt) := do
  let parsedLimit ← parseDeliveryAttemptsLimit limit
  listAttempts recursionLimit (fun n after => .ok (store.listAttemptsPage n after)) parsedLimit
    cursor

/-- `list_delivery_attempts`. -/
def listDeliveryAttempts (limit cursor : Option Str) :
    Except AppError DeliveryAttemptsListResponse := do
  let page ← (queryDeliveryAttempts recursionLimit store limit cursor).mapError
    deliveryAttemptsAnswer
  let items ← page.items.mapM deliveryAttemptToResponse
  render DeliveryAttemptsListResponse.texts { items, nextCursor := page.nextCursor }

/-! ## A lookup -/

/-- `get_delivery_attempt`. -/
def getDeliveryAttempt (attemptId : Str) : Except AppError DeliveryAttemptResponse :=
  match UUID.parse attemptId with
  | none => .error (.httpException 422 "Invalid attempt_id")
  | some parsedAttemptId =>
      match store.getAttempt parsedAttemptId with
      | none => .error (.httpException 404 "Delivery attempt not found")
      | some attempt => do
          let response ← deliveryAttemptToResponse attempt
          render DeliveryAttemptResponse.texts response

end Routes

end WebhookMonitor
