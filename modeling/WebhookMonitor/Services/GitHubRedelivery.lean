import WebhookMonitor.Services.GitHubReconciliation
import WebhookMonitor.Storage.RecoveryActions

/-!
# Redelivery requests

`GitHubRedeliveryService`: request a redelivery of one record of GitHub's
history, after finding that record by a reconciliation of the same call and
after journalling the intent; the journal entry is finalized with what became of
the request.
-/

namespace WebhookMonitor

open Python Interaction

/-- `GitHubRedeliveryResult`. -/
structure GitHubRedeliveryResult where
  actionId : UUID
  attempt : DeliveryAttempt
  githubDeliveryId : ℤ
  status : Str

/-- The arguments of `request_redelivery`. -/
structure RedeliveryRequest where
  attempt : DeliveryAttempt
  githubDeliveryId : ℤ
  authorization : ManagementAuthorization

/-- `GitHubRedeliveryService`. -/
structure GitHubRedeliveryService where
  enabled : Bool
  hasGithubRedeliveryClient : Bool
  reconciliationService : GitHubReconciliationService
  recoveryActionStore : RecoveryActionStore

namespace GitHubRedeliveryService

variable (service : GitHubRedeliveryService)

/-- What `except RecoveryActionStoreError` raises instead. -/
def asUnavailable : AppError → AppError
  | .recoveryActionStore _ =>
      .gitHubRedeliveryJournalUnavailable "Recovery action journal unavailable"
  | e => e

/-- A journal operation under `except RecoveryActionStoreError`. -/
def journalUnavailable {α : Type} (p : Action α) : Action α :=
  tryCatch p fun e => throw (asUnavailable e)

/-- `_finalize_action`. -/
def finalizeAction (actionId : UUID) (state : RecoveryActionState)
    (upstreamStatusCode : Option ℤ) (failureCategory : Option Str) : Action Unit :=
  journalUnavailable do
    let completedAt ← nowUtc
    let _ ← service.recoveryActionStore.finalize
      ⟨actionId, state.text, completedAt, upstreamStatusCode, failureCategory⟩
    return ()

/-- `category or default`: an empty text counts as none. -/
def categoryOr (category : Option Str) (default : Str) : Str :=
  match category with
  | some c => if c = [] then default else c
  | none => default

/-- The three `except` clauses around the POST: finalize, then raise again. -/
def finalizeFailure (actionId : UUID) : AppError → Action Unit
  | .gitHubRedeliveryOutcomeUnknown e => do
      service.finalizeAction actionId .outcomeUnknown none (some "outcome_unknown")
      throw (.gitHubRedeliveryOutcomeUnknown e)
  | .gitHubUpstreamProtocol e => do
      service.finalizeAction actionId .failed e.statusCode
        (some (categoryOr e.failureCategory "upstream_protocol"))
      throw (.gitHubUpstreamProtocol e)
  | .gitHubUpstreamUnavailable e => do
      service.finalizeAction actionId .failed e.statusCode
        (some (categoryOr e.failureCategory "upstream_unavailable"))
      throw (.gitHubUpstreamUnavailable e)
  | e => throw e

/-- The arguments of the journal entry. -/
def createRequest (request : RedeliveryRequest) (owner repository : Str)
    (requestedAt : AwareDatetime) : CreateRequest where
  attempt := request.attempt
  repository := owner ++ Str.lit "/" ++ repository
  githubDeliveryId := request.githubDeliveryId
  requestedAt := requestedAt
  principal := request.authorization.principal
  authorization := some request.authorization

/-- The rest of `request_redelivery`, once the target is verified: journal,
submit, finalize. -/
def submitVerified (request : RedeliveryRequest) (owner repository : Str) :
    Action GitHubRedeliveryResult := do
  let recoveryAction ← journalUnavailable do
    let requestedAt ← nowUtc
    service.recoveryActionStore.createInitiatedGithubRedelivery
      (createRequest request owner repository requestedAt)
  tryCatch
    (requestRepositoryWebhookRedelivery owner repository
      request.attempt.deliveryIdentity.hookId request.githubDeliveryId)
    (service.finalizeFailure recoveryAction.actionId)
  service.finalizeAction recoveryAction.actionId .accepted (some 202) none
  return { actionId := recoveryAction.actionId, attempt := request.attempt,
           githubDeliveryId := request.githubDeliveryId, status := "accepted" }

def requestRedelivery (request : RedeliveryRequest) : Action GitHubRedeliveryResult :=
  if !service.enabled || !service.hasGithubRedeliveryClient then
    throw .gitHubRedeliveryDisabled
  else if request.authorization.capability ≠ .recoveryExecute then
    throw .gitHubRedeliveryDisabled
  else do
    let (owner, repository) ← Program.ofExcept (repositoryCoordinates request.attempt)
    let reconciliationResult ← service.reconciliationService.reconcile request.attempt none
    if reconciliationResult.matching.any (·.githubDeliveryId = request.githubDeliveryId) then
      service.submitVerified request owner repository
    else throw .unverifiedGitHubRedeliveryTarget

end GitHubRedeliveryService

end WebhookMonitor
