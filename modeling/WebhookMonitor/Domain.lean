import Mathlib.Data.Finset.Dedup
import WebhookMonitor.Errors
import WebhookMonitor.Python.Datetime
import WebhookMonitor.Python.Json
import WebhookMonitor.Python.Uuid

/-!
# Domain objects

Delivery attempts, management authorizations and recovery actions.

The two dataclasses with a `__post_init__` carry what it checks as fields, and
their `new` is the constructor that checks and raises.  `DeliveryAttempt` checks
neither `action` nor `repository` nor `sender`: these hold whatever the payload
had under their keys, so they are JSON values here, not optional text.
-/

namespace WebhookMonitor

open Python

/-! ## Delivery attempts -/

/-- `SHA256_HEX_PATTERN.fullmatch`. -/
def isSha256Hex (s : Str) : Bool :=
  s.length = 64 && s.all fun c => isDigit c || (0x61 ≤ c.val && c.val ≤ 0x66)

/-- `GitHubDeliveryIdentity`. -/
structure GitHubDeliveryIdentity where
  deliveryGuid : Str
  hookId : ℤ
  guid_nonblank : strip deliveryGuid ≠ []
  hookId_pos : 0 < hookId

namespace GitHubDeliveryIdentity

/-- The constructor, with its `__post_init__`. -/
def new (deliveryGuid : Str) (hookId : ℤ) : Except AppError GitHubDeliveryIdentity :=
  if guid : strip deliveryGuid = [] then .error (.python .valueError)
  else if hook : hookId ≤ 0 then .error (.python .valueError)
  else .ok ⟨deliveryGuid, hookId, guid, not_le.mp hook⟩

end GitHubDeliveryIdentity

/-- `DeliveryAttempt`. -/
structure DeliveryAttempt where
  attemptId : UUID
  deliveryIdentity : GitHubDeliveryIdentity
  receivedAt : AwareDatetime
  payloadSha256 : Str
  eventType : Str
  action : Json
  repository : Json
  sender : Json
  installationTargetId : Option Str
  installationTargetType : Option Str
  digest_wellFormed : isSha256Hex payloadSha256 = true

namespace DeliveryAttempt

/-- The constructor, with its `__post_init__`. -/
def new (attemptId : UUID) (deliveryIdentity : GitHubDeliveryIdentity) (receivedAt : Datetime)
    (payloadSha256 eventType : Str) (action repository sender : Json)
    (installationTargetId installationTargetType : Option Str) :
    Except AppError DeliveryAttempt :=
  match receivedAt.aware? with
  | none => .error (.python .valueError)
  | some receivedAt =>
      if digest : isSha256Hex payloadSha256 = true then
        .ok { attemptId, deliveryIdentity, receivedAt, payloadSha256, eventType, action,
              repository, sender, installationTargetId, installationTargetType,
              digest_wellFormed := digest }
      else .error (.python .valueError)

/-- A field `str | None`. -/
def optionalText : Option Str → Json
  | none => .null
  | some s => .str s

/-- `to_dict`. -/
def toDict (attempt : DeliveryAttempt) : Json :=
  .dict [("attempt_id", .str attempt.attemptId.str),
    ("received_at", .str attempt.receivedAt.isoformat),
    ("event", .str attempt.eventType),
    ("delivery_id", .str attempt.deliveryIdentity.deliveryGuid),
    ("hook_id", .str (strInt attempt.deliveryIdentity.hookId)),
    ("installation_target_id", optionalText attempt.installationTargetId),
    ("installation_target_type", optionalText attempt.installationTargetType),
    ("payload_sha256", .str attempt.payloadSha256),
    ("repository", attempt.repository),
    ("sender", attempt.sender),
    ("action", attempt.action)]

end DeliveryAttempt

/-- An attempt for the repository `o/r`, for runs on fixed inputs. -/
def sampleAttempt : DeliveryAttempt where
  attemptId := ⟨1, by decide⟩
  deliveryIdentity := ⟨"g", 3, by decide, by decide⟩
  receivedAt := AwareDatetime.utc 0
  payloadSha256 := List.replicate 64 (CodePoint.ofChar '0')
  eventType := "push"
  action := .null
  repository := .str "o/r"
  sender := .null
  installationTargetId := none
  installationTargetType := none
  digest_wellFormed := by decide

/-- The recursion limit in runs on fixed inputs. -/
def sampleLimit : RecursionLimit := ⟨1000, by decide⟩

/-- The time of the clock in runs on fixed inputs. -/
def sampleNow : Wall := 0

/-- The next reading of the clock. -/
def laterNow : Wall := ⟨1, by decide⟩

/-- The identifier the generator yields in runs on fixed inputs. -/
def sampleActionId : UUID := ⟨2, by decide⟩

/-! ## Management identities -/

/-- `AUTHENTICATION_METHOD_*`. -/
inductive AuthenticationMethod where
  | managementBearer
  | oidcJwt
  deriving DecidableEq, Repr

/-- `AUTHORIZATION_METHOD_*`. -/
inductive AuthorizationMethod where
  | oidcScope
  | sharedManagementToken
  deriving DecidableEq, Repr

/-- `MANAGEMENT_CAPABILITIES`. -/
inductive ManagementCapability where
  | diagnosticsRead
  | recoveryRead
  | recoveryExecute
  deriving DecidableEq, Repr

/-- `ManagementPrincipal`. -/
structure ManagementPrincipal where
  authenticationMethod : AuthenticationMethod
  issuer : Option Str
  subject : Option Str
  clientId : Option Str
  scopes : Finset Str
  deriving DecidableEq

/-- `ManagementAuthorization`. -/
structure ManagementAuthorization where
  principal : ManagementPrincipal
  capability : ManagementCapability
  authorizationMethod : AuthorizationMethod
  matchedScope : Option Str
  deriving DecidableEq

/-! ## Recovery actions -/

/-- `RECOVERY_ACTION_TYPES`. -/
inductive RecoveryActionType where
  | githubRepositoryWebhookRedelivery
  deriving DecidableEq, Repr

/-- `RECOVERY_ACTION_STATES`. -/
inductive RecoveryActionState where
  | initiated
  | accepted
  | failed
  | outcomeUnknown
  deriving DecidableEq, Repr

namespace RecoveryActionState

/-- The text of a state. -/
def text : RecoveryActionState → Str
  | .initiated => "initiated"
  | .accepted => "accepted"
  | .failed => "failed"
  | .outcomeUnknown => "outcome_unknown"

/-- Membership in `RECOVERY_ACTION_TERMINAL_STATES`. -/
def isTerminal : RecoveryActionState → Bool
  | .initiated => false
  | .accepted | .failed | .outcomeUnknown => true

/-- The terminal state a text names, if it names one. -/
def terminalOfText (s : Str) : Option RecoveryActionState :=
  [accepted, failed, outcomeUnknown].find? fun state => state.text = s

theorem terminalOfText_text {state : RecoveryActionState} (terminal : state.isTerminal = true) :
    terminalOfText state.text = some state := by
  cases state <;> first | rfl | cases terminal

theorem isTerminal_of_terminalOfText {s : Str} {state : RecoveryActionState}
    (h : terminalOfText s = some state) : state.isTerminal = true := by
  have := List.mem_of_find?_eq_some h
  simp only [List.mem_cons, List.not_mem_nil, or_false] at this
  rcases this with rfl | rfl | rfl <;> rfl

end RecoveryActionState

/-- `RecoveryAction`. -/
structure RecoveryAction where
  actionId : UUID
  actionType : RecoveryActionType
  requestedAt : AwareDatetime
  completedAt : Option AwareDatetime
  attemptId : UUID
  deliveryGuid : Str
  hookId : ℤ
  repository : Str
  githubDeliveryId : ℤ
  authenticationMethod : AuthenticationMethod
  principalIssuer : Option Str
  principalSubject : Option Str
  principalClientId : Option Str
  authorizationCapability : Option ManagementCapability
  authorizationScope : Option Str
  state : RecoveryActionState
  upstreamStatusCode : Option ℤ
  failureCategory : Option Str
  deriving DecidableEq

end WebhookMonitor
