import WebhookMonitor.Python.Errors
import WebhookMonitor.Python.Text

/-!
# The application's exceptions

One constructor for each exception class the modelled code raises.  Constructors
carry what a handler reads from the exception (the upstream status and failure
category, an HTTP status with its detail) and the message where the source gives
one.  Built-in and library exceptions that no handler of the application wraps
are `python` and the last two constructors.
-/

namespace WebhookMonitor

open Python

/-- The attributes of `GitHubUpstreamError` and its three subclasses. -/
structure GitHubUpstreamError where
  message : String
  statusCode : Option ℤ
  failureCategory : Option Str
  deriving DecidableEq

/-- An exception that leaves a function of the application. -/
inductive AppError where
  | gitHubUpstreamUnavailable (error : GitHubUpstreamError)
  | gitHubUpstreamProtocol (error : GitHubUpstreamError)
  | gitHubRedeliveryOutcomeUnknown (error : GitHubUpstreamError)
  | gitHubReconciliationDisabled
  | invalidGitHubReconciliationCursor (message : String)
  | unsupportedGitHubReconciliationTarget
  | gitHubRedeliveryDisabled
  | unverifiedGitHubRedeliveryTarget
  | gitHubRedeliveryJournalUnavailable (message : String)
  | recoveryActionStore (message : String)
  | recoveryActionNotFound (message : String)
  | invalidRecoveryActionTransition (message : String)
  | invalidDeliveryAttemptsLimit (message : String)
  | invalidDeliveryAttemptsCursor (message : String)
  | invalidRecoveryActionsLimit (message : String)
  | invalidRecoveryActionsCursor (message : String)
  | deliveryStore (message : String)
  | invalidWebhookSignature
  | malformedWebhookPayload
  | httpException (statusCode : ℕ) (detail : String)
  | invalidManagementToken (message : String)
  | insufficientManagementScope (message : String)
  | managementIdentityProviderUnavailable (message : String)
  /-- An `HTTPException` with a `WWW-Authenticate` header. -/
  | httpChallenge (statusCode : ℕ) (detail : String) (challenge : Str)
  /-- A built-in exception, or one of the standard library. -/
  | python (error : BuiltinError)
  /-- An exception of the HTTP client outside its `RequestError` family. -/
  | httpClient
  /-- `pydantic.ValidationError`, on building a response model. -/
  | responseValidation
  deriving DecidableEq

/-- A library call inside application code that handles no exception there. -/
def uncaught {α : Type} : Except BuiltinError α → Except AppError α
  | .ok a => .ok a
  | .error e => .error (.python e)

@[simp] theorem uncaught_ok {α : Type} (a : α) : uncaught (.ok a) = .ok a := rfl

@[simp] theorem uncaught_error {α : Type} (e : BuiltinError) :
    (uncaught (.error e) : Except AppError α) = .error (.python e) := rfl

theorem uncaught_eq_ok {α : Type} {r : Except BuiltinError α} {a : α} :
    uncaught r = .ok a ↔ r = .ok a := by
  cases r with
  | ok b => rw [uncaught_ok, Except.ok.injEq, Except.ok.injEq]
  | error e =>
      constructor
      · intro h
        cases h
      · intro h
        cases h

end WebhookMonitor
