import WebhookMonitor.Effects
import WebhookMonitor.Python.Url

/-!
# The GitHub clients

The client that lists the deliveries of a repository webhook and the client that
requests a redelivery.  Each sends one HTTP request; everything else is a pure
reading of the response:

* `pageOfResponse` — a page of the delivery history, or the listing error;
* `extractNextCursor` — the cursor of the next page, from the `Link` header;
* `parseDeliverySummary` and the field parsers — one record of the history;
* `redeliveryOutcome` — the classification of the answer to the POST.
-/

namespace WebhookMonitor

open Python Interaction

/-! ## Delivery records -/

/-- `GitHubDeliverySummary`. -/
structure GitHubDeliverySummary where
  githubDeliveryId : ℤ
  deliveryGuid : Str
  deliveredAt : AwareDatetime
  redelivery : Bool
  duration : Option PyFloat
  status : Option Str
  statusCode : Option ℤ
  event : Option Str
  action : Option Str
  installationId : Option ℤ
  repositoryId : Option ℤ
  throttledAt : Option AwareDatetime
  deriving DecidableEq

/-- `GitHubDeliveryPage`. -/
structure GitHubDeliveryPage where
  deliveries : List GitHubDeliverySummary
  nextCursor : Option Str
  deriving DecidableEq

/-- `value[key]` of a `dict`. -/
def requireKey (value : Members) (key : Str) : Except BuiltinError Json :=
  orRaise .keyError (Members.lookup value key)

def requireInt (value : Members) (key : Str) : Except BuiltinError ℤ := do
  let item ← requireKey value key
  orRaise .valueError item.int?

def requireStr (value : Members) (key : Str) : Except BuiltinError Str := do
  let item ← requireKey value key
  orRaise .valueError item.str?

def requireBool (value : Members) (key : Str) : Except BuiltinError Bool := do
  let item ← requireKey value key
  orRaise .valueError item.bool?

/-- What the optional parsers share: `None` stays, anything else is parsed. -/
def optional {α : Type} (parse : Json → Except BuiltinError α) (value : Json) :
    Except BuiltinError (Option α) :=
  if value.isNone then .ok none else (parse value).map some

def optionalInt : Json → Except BuiltinError (Option ℤ) :=
  optional fun value => orRaise .valueError value.int?

/-- `float(value)` of an integer or a float. -/
def optionalNumber : Json → Except BuiltinError (Option PyFloat) :=
  optional fun value =>
    match value with
    | .float x => .ok x
    | _ => do
        let n ← orRaise .valueError value.int?
        orRaise .overflowError (floatOfInt n)

def optionalStr : Json → Except BuiltinError (Option Str) :=
  optional fun value => orRaise .valueError value.str?

def parseDatetime (value : Json) : Except BuiltinError AwareDatetime := do
  let text ← orRaise .valueError value.str?
  let parsed ← orRaise .valueError (fromisoformat (replace text "Z" "+00:00"))
  orRaise .valueError parsed.aware?

def parseRequiredDatetime (value : Members) (key : Str) : Except BuiltinError AwareDatetime := do
  let item ← requireKey value key
  parseDatetime item

def parseOptionalDatetime : Json → Except BuiltinError (Option AwareDatetime) :=
  optional parseDatetime

def parseDeliverySummary : Json → Except BuiltinError GitHubDeliverySummary
  | .dict value => do
      let githubDeliveryId ← requireInt value "id"
      let deliveryGuid ← requireStr value "guid"
      let deliveredAt ← parseRequiredDatetime value "delivered_at"
      let redelivery ← requireBool value "redelivery"
      let duration ← optionalNumber (Members.get value "duration")
      let status ← optionalStr (Members.get value "status")
      let statusCode ← optionalInt (Members.get value "status_code")
      let event ← optionalStr (Members.get value "event")
      let action ← optionalStr (Members.get value "action")
      let installationId ← optionalInt (Members.get value "installation_id")
      let repositoryId ← optionalInt (Members.get value "repository_id")
      let throttledAt ← parseOptionalDatetime (Members.get value "throttled_at")
      return { githubDeliveryId, deliveryGuid, deliveredAt, redelivery, duration, status,
               statusCode, event, action, installationId, repositoryId, throttledAt }
  | _ => .error .valueError

/-! ## Paths -/

def repositoryDeliveriesPath (owner repository : Str) (hookId : ℤ) : Except BuiltinError Str := do
  let owner ← orRaise .unicodeEncodeError (quote owner)
  let repository ← orRaise .unicodeEncodeError (quote repository)
  return Str.lit "/repos/" ++ owner ++ Str.lit "/" ++ repository ++ Str.lit "/hooks/" ++
    strInt hookId ++ Str.lit "/deliveries"

def repositoryRedeliveryPath (owner repository : Str) (hookId githubDeliveryId : ℤ) :
    Except BuiltinError Str := do
  let owner ← orRaise .unicodeEncodeError (quote owner)
  let repository ← orRaise .unicodeEncodeError (quote repository)
  return Str.lit "/repos/" ++ owner ++ Str.lit "/" ++ repository ++ Str.lit "/hooks/" ++
    strInt hookId ++ Str.lit "/deliveries/" ++ strInt githubDeliveryId ++ Str.lit "/attempts"

/-! ## The `Link` header -/

/-- The loop of `extract_next_cursor` over the comma-separated parts. -/
def nextCursorOfParts (expectedPath : Str) : List Str → Except BuiltinError (Option Str)
  | [] => .ok none
  | linkPart :: rest =>
      let pieces := linkPart.splitOn (CodePoint.ofChar ';')
      let target := strip (pieces.headD [])
      if !pieces.tail.any fun part => strip part = Str.lit "rel=\"next\"" then
        nextCursorOfParts expectedPath rest
      else if !startsWith target "<" || !endsWith target ">" then
        nextCursorOfParts expectedPath rest
      else
        match urlparse (target.drop 1).dropLast with
        | none => .error .valueError
        | some parsed =>
            if parsed.scheme ≠ Str.lit "https" ∨ parsed.netloc ≠ Str.lit "api.github.com" ∨
                parsed.path ≠ expectedPath then
              .ok none
            else .ok (queryValues parsed.query "cursor").head?

def extractNextCursor (linkHeader : Option HeaderText) (expectedPath : Str) :
    Except BuiltinError (Option Str) :=
  match linkHeader with
  | none => .ok none
  | some header =>
      if header.val = [] then .ok none
      else nextCursorOfParts expectedPath (header.val.splitOn (CodePoint.ofChar ','))

/-! ## Responses -/

/-- `_is_rate_limited`. -/
def isRateLimited (response : HttpResponse) : Bool :=
  if response.statusCode ≠ 403 then false
  else if response.retryAfter.isSome then true
  else match response.xRatelimitRemaining with
    | some remaining => strip remaining.val = Str.lit "0"
    | none => false

/-- An upstream error without a status or category. -/
def upstreamError (message : String) : GitHubUpstreamError := ⟨message, none, none⟩

/-- The records of a response body. -/
def deliveriesOfContent (limit : RecursionLimit) (content : Bytes) :
    Except BuiltinError (List GitHubDeliverySummary) := do
  let payload ← loadsBytes limit content
  let items ← orRaise .valueError payload.list?
  items.mapM parseDeliverySummary

/-- `except (KeyError, TypeError, ValueError)`. -/
def isMalformed (e : BuiltinError) : Bool := e = .keyError || e = .typeError || e.isValueError

/-- What `list_repository_webhook_deliveries` makes of a response. -/
def pageOfResponse (limit : RecursionLimit) (path : Str) (response : HttpResponse) :
    Except AppError GitHubDeliveryPage :=
  if response.statusCode = 429 ∨ response.statusCode ≥ 500 ∨ isRateLimited response = true then
    .error (.gitHubUpstreamUnavailable (upstreamError "GitHub upstream unavailable"))
  else if response.statusCode ≠ 200 then
    .error (.gitHubUpstreamProtocol (upstreamError "GitHub upstream request failed"))
  else match deliveriesOfContent limit response.content with
    | .error e =>
        if isMalformed e then
          .error (.gitHubUpstreamProtocol (upstreamError "GitHub upstream response was invalid"))
        else .error (.python e)
    | .ok deliveries => do
        -- outside the `try` of the source
        let nextCursor ← uncaught (extractNextCursor response.link path)
        return { deliveries, nextCursor }

def redeliveryProtocolFailureCategory (statusCode : ℤ) : Str :=
  if statusCode = 401 then "upstream_auth"
  else if statusCode = 403 then "upstream_permission"
  else "upstream_protocol"

/-- What `request_repository_webhook_redelivery` makes of a response. -/
def redeliveryOutcome (response : HttpResponse) : Except AppError Unit :=
  let status := response.statusCode
  if status = 202 then .ok ()
  else if status = 429 ∨ isRateLimited response = true then
    .error (.gitHubUpstreamUnavailable
      ⟨"GitHub upstream unavailable", some status, some "upstream_throttled"⟩)
  else if status ≥ 500 then
    .error (.gitHubUpstreamUnavailable
      ⟨"GitHub upstream unavailable", some status, some "upstream_unavailable"⟩)
  else
    .error (.gitHubUpstreamProtocol
      ⟨"GitHub upstream request failed", some status,
        some (redeliveryProtocolFailureCategory status)⟩)

/-! ## The two clients -/

def repositoryDeliveriesPerPage : ℕ := 100

/-- What `list_repository_webhook_deliveries` makes of the answer to its GET. -/
def listingOutcome (limit : RecursionLimit) (path : Str) :
    Except HttpClientError HttpResponse → Except AppError GitHubDeliveryPage
  | .error e =>
      if e.isRequestError then
        .error (.gitHubUpstreamUnavailable (upstreamError "GitHub upstream unavailable"))
      else .error .httpClient
  | .ok response => pageOfResponse limit path response

/-- What `request_repository_webhook_redelivery` makes of the answer to its POST. -/
def submissionOutcome : Except HttpClientError HttpResponse → Except AppError Unit
  | .error e =>
      if e.isConnectFailure then
        .error (.gitHubUpstreamUnavailable (upstreamError "GitHub upstream unavailable"))
      else if e.isRequestError then
        .error (.gitHubRedeliveryOutcomeUnknown
          (upstreamError "GitHub redelivery outcome could not be confirmed"))
      else .error .httpClient
  | .ok response => redeliveryOutcome response

def listRepositoryWebhookDeliveries (limit : RecursionLimit) (owner repository : Str)
    (hookId : ℤ) (cursor : Option Str) : Action GitHubDeliveryPage := do
  let path ← Program.ofExcept (uncaught (repositoryDeliveriesPath owner repository hookId))
  let answer ← invoke (.httpGet path repositoryDeliveriesPerPage cursor)
  Program.ofExcept (listingOutcome limit path answer)

def requestRepositoryWebhookRedelivery (owner repository : Str) (hookId githubDeliveryId : ℤ) :
    Action Unit := do
  let path ← Program.ofExcept
    (uncaught (repositoryRedeliveryPath owner repository hookId githubDeliveryId))
  let answer ← invoke (.httpPost path)
  Program.ofExcept (submissionOutcome answer)

end WebhookMonitor
