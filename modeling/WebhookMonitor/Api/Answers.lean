import WebhookMonitor.Errors

/-!
# Answers of the GitHub and journal routes

What the `except` clauses of `list_recovery_actions`, `reconcile_github_deliveries`
and `request_github_redelivery` make of an error of their services.  An error
without a clause leaves the route as it is.
-/

namespace WebhookMonitor

def recoveryActionsAnswer : AppError → AppError
  | .invalidRecoveryActionsLimit _ => .httpException 422 "Invalid limit"
  | .invalidRecoveryActionsCursor _ => .httpException 400 "Invalid or expired cursor"
  | .recoveryActionStore _ => .httpException 503 "Service unavailable"
  | e => e

def reconciliationAnswer : AppError → AppError
  | .gitHubReconciliationDisabled => .httpException 404 "Not found"
  | .invalidGitHubReconciliationCursor _ =>
      .httpException 400 "Invalid or expired reconciliation cursor"
  | .unsupportedGitHubReconciliationTarget =>
      .httpException 409 "Delivery attempt is not eligible for repository webhook reconciliation"
  | .gitHubUpstreamUnavailable _ => .httpException 503 "Service unavailable"
  | .gitHubUpstreamProtocol _ => .httpException 502 "Upstream service unavailable"
  | e => e

def redeliveryAnswer : AppError → AppError
  | .gitHubRedeliveryDisabled => .httpException 404 "Not found"
  | .gitHubRedeliveryJournalUnavailable _ => .httpException 503 "Service unavailable"
  | .unsupportedGitHubReconciliationTarget =>
      .httpException 409 "Delivery attempt is not eligible for repository webhook redelivery"
  | .unverifiedGitHubRedeliveryTarget =>
      .httpException 409 "GitHub delivery could not be verified for this local attempt"
  | .gitHubRedeliveryOutcomeUnknown _ =>
      .httpException 503
        "GitHub redelivery submission outcome could not be confirmed; reconcile before retrying"
  | .gitHubUpstreamUnavailable _ => .httpException 503 "Service unavailable"
  | .gitHubUpstreamProtocol _ => .httpException 502 "Upstream service unavailable"
  | e => e

end WebhookMonitor
