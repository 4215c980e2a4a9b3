import Mathlib.Data.Finset.Empty
import WebhookMonitor.Redelivery.Specification

/-!
# One POST, and only after verification and journalling

`requestRedelivery_safe` is the safety statement of a redelivery request: along
every run, ended or not, at most one POST is sent, and whatever came before it
shows the checks, the search that found the record, and the journal entry.
-/

namespace WebhookMonitor

open Python Interaction

variable {service : GitHubRedeliveryService} {request : RedeliveryRequest}
  {owner repository : Str}

/-! ## The entry of a request -/

/-- An initiated journal entry for exactly this request. -/
structure EntryFor (request : RedeliveryRequest) (entry : RecoveryAction) : Prop where
  initiated : entry.state = .initiated
  attemptId : entry.attemptId = request.attempt.attemptId
  deliveryGuid : entry.deliveryGuid = request.attempt.deliveryIdentity.deliveryGuid
  hookId : entry.hookId = request.attempt.deliveryIdentity.hookId
  repository : request.attempt.repository = .str entry.repository
  githubDeliveryId : entry.githubDeliveryId = request.githubDeliveryId
  authenticationMethod :
    entry.authenticationMethod = request.authorization.principal.authenticationMethod
  issuer : entry.principalIssuer = request.authorization.principal.issuer
  subject : entry.principalSubject = request.authorization.principal.subject
  clientId : entry.principalClientId = request.authorization.principal.clientId
  capability : entry.authorizationCapability = some request.authorization.capability
  scope : entry.authorizationScope = request.authorization.matchedScope

/-- The coordinates are the two halves of the repository of the attempt. -/
theorem eq_of_repositoryCoordinates {attempt : DeliveryAttempt}
    (coordinates : repositoryCoordinates attempt = .ok (owner, repository)) :
    attempt.repository = .str (owner ++ Str.lit "/" ++ repository) := by
  rw [repositoryCoordinates] at coordinates
  split_ifs at coordinates with htarget
  cases hrepository : attempt.repository with
  | str name =>
      rw [hrepository] at coordinates
      dsimp only at coordinates
      split_ifs at coordinates with hname
      cases hsplit : splitAt '/' name with
      | mk left right =>
          cases right with
          | none => simp [isRepositoryFullName, hsplit] at hname
          | some right =>
              rw [hsplit] at coordinates
              cases coordinates
              rw [splitAt_eq_some hsplit]
              simp [Str.lit]
  | null | bool | int | float | list | dict => rw [hrepository] at coordinates; cases coordinates

theorem entryFor_initiatedAction (id : UUID) (requestedAt : AwareDatetime)
    (coordinates : repositoryCoordinates request.attempt = .ok (owner, repository)) :
    EntryFor request (initiatedAction id
      (GitHubRedeliveryService.createRequest request owner repository requestedAt)) where
  initiated := rfl
  attemptId := rfl
  deliveryGuid := rfl
  hookId := rfl
  repository := eq_of_repositoryCoordinates coordinates
  githubDeliveryId := rfl
  authenticationMethod := rfl
  issuer := rfl
  subject := rfl
  clientId := rfl
  capability := rfl
  scope := rfl

/-! ## Submissions of a history -/

/-- A history without submissions, or one that can be cut at one of them. -/
theorem submissions_cases (h : History) :
    submissions h = [] ∨
      ∃ before path answer after, h = before ++ ⟨.httpPost path, answer⟩ :: after := by
  induction h with
  | nil => exact .inl rfl
  | cons e rest ih =>
      obtain ⟨c, answer⟩ := e
      cases c with
      | httpPost path => exact .inr ⟨[], path, answer, rest, rfl⟩
      | now | uuid4 | httpGet | appendLeft | finalizeEntry | insert | updateInitiated
      | selectState =>
          rcases ih with none | ⟨before, path, answer', after, rfl⟩
          · exact .inl none
          · exact .inr ⟨_ :: before, path, answer', after, rfl⟩

/-- Where a run may submit only with nothing submitted before, it submits at most
once. -/
theorem submissions_after_eq_nil {p rest : Action GitHubRedeliveryResult}
    {before after : History} {path : Str} {answer : Except HttpClientError HttpResponse}
    (single : ∀ {before after : History} {path : Str} {answer},
      Trace p (before ++ ⟨.httpPost path, answer⟩ :: after) rest → submissions before = [])
    (run : Trace p (before ++ ⟨.httpPost path, answer⟩ :: after) rest) :
    submissions after = [] := by
  rcases submissions_cases after with none | ⟨between, path', answer', last, rfl⟩
  · exact none
  · have again : submissions (before ++ ⟨.httpPost path, answer⟩ :: between) = [] :=
      single (by simpa using run)
    rw [submissions_append] at again
    exact absurd (List.append_eq_nil_iff.mp again).2 (List.cons_ne_nil _ _)

/-! ## Safety -/

/-- All that has happened when a redelivery is submitted under `path`. -/
def Submittable (service : GitHubRedeliveryService) (request : RedeliveryRequest)
    (before : History) (path : Str) : Prop :=
  ∃ owner repository,
    Verified service request owner repository (listings before) ∧
    (∃ journalled, stored before = [journalled] ∧ EntryFor request journalled.entry) ∧
    repositoryRedeliveryPath owner repository request.attempt.deliveryIdentity.hookId
      request.githubDeliveryId = .ok path

/-- What `MayCall` says of a POST, at the POST of a run. -/
theorem submittable_of_trace {before after : History} {path : Str}
    {answer : Except HttpClientError HttpResponse} {rest : Action GitHubRedeliveryResult}
    (run : Trace (service.requestRedelivery request)
      (before ++ ⟨.httpPost path, answer⟩ :: after) rest) :
    submissions before = [] ∧ finalizations before = [] ∧
      Submittable service request before path := by
  obtain ⟨-, owner, repository, returned, verified, ⟨id, -, requestedAt, one⟩, none_sent,
    none_finalized, hpath⟩ := (requestRedelivery_meets service request).allowed_of_trace run
  exact ⟨none_sent, none_finalized, owner, repository, verified,
    ⟨_, one, entryFor_initiatedAction id requestedAt verified.coordinates⟩, hpath⟩

/-- **Mutation safety.**  A run of one request, whatever the pages, the journal,
the clock and GitHub answered: at most one POST is sent, and before it this very
call has passed the checks, found the record under the GUID of the attempt on a
page of its own search, and stored the initiated entry of this request; the POST
names the same repository, hook and record. -/
theorem requestRedelivery_safe {h : History} {rest : Action GitHubRedeliveryResult}
    (run : Trace (service.requestRedelivery request) h rest) :
    (submissions h).length ≤ 1 ∧
      ∀ before path answer after, h = before ++ ⟨.httpPost path, answer⟩ :: after →
        Submittable service request before path := by
  constructor
  · rcases submissions_cases h with none | ⟨before, path, answer, after, rfl⟩
    · rw [none]
      exact Nat.zero_le _
    · have earlier := (submittable_of_trace run).1
      have later := submissions_after_eq_nil (fun run => (submittable_of_trace run).1) run
      rw [submissions_append, earlier]
      change (_ :: submissions after).length ≤ 1
      rw [later]
      exact le_rfl
  · rintro before path answer after rfl
    exact (submittable_of_trace run).2.2

/-! ## A run that submits -/

/-- A request for the record 7. -/
def sampleRequest : RedeliveryRequest where
  attempt := sampleAttempt
  githubDeliveryId := 7
  authorization :=
    { principal :=
        { authenticationMethod := .managementBearer, issuer := none, subject := none,
          clientId := none, scopes := ∅ }
      capability := .recoveryExecute
      authorizationMethod := .sharedManagementToken
      matchedScope := none }

/-- A service over an in-memory journal that fetches one page. -/
def sampleService : GitHubRedeliveryService where
  enabled := true
  hasGithubRedeliveryClient := true
  reconciliationService := onePageService
  recoveryActionStore := inMemoryRecoveryActionStore

/-- A page with the record 7 under the GUID of the attempt. -/
def sampleListing : HttpResponse where
  statusCode := 200
  link := none
  retryAfter := none
  xRatelimitRemaining := none
  content := (Str.lit ("[\x7b\"id\":7,\"guid\":\"g\",\"redelivery\":false," ++
    "\"delivered_at\":\"2024-01-01T00:00:00Z\"\x7d]")).map fun c => UInt8.ofNat c.val

/-- The answer 202. -/
def sampleAccepted : HttpResponse := { sampleListing with statusCode := 202 }

/-- A world in which everything succeeds. -/
def sampleOutside : (c : Call) → c.Answer
  | .now => sampleNow
  | .uuid4 => sampleActionId
  | .httpGet .. => Except.ok sampleListing
  | .httpPost _ => Except.ok sampleAccepted
  | .appendLeft _ => ()
  | .finalizeEntry _ => Except.ok (initiatedAction sampleActionId
      (GitHubRedeliveryService.createRequest sampleRequest "o" "r" (AwareDatetime.utc sampleNow)))
  | .insert entry => Except.ok entry
  | .updateInitiated .. => Except.ok none
  | .selectState _ => Except.ok none

theorem requestRedelivery_safe_sample :
    ∃ before path, Submittable sampleService sampleRequest before path := by
  obtain ⟨rest, run, -⟩ :=
    Program.trace_run sampleOutside (sampleService.requestRedelivery sampleRequest)
  have posted : (submissions ((sampleService.requestRedelivery sampleRequest).run
      sampleOutside).1).length = 1 := by decide +kernel
  rcases submissions_cases ((sampleService.requestRedelivery sampleRequest).run
      sampleOutside).1 with none | ⟨before, path, answer, after, split⟩
  · rw [none] at posted
    cases posted
  · exact ⟨before, path, (requestRedelivery_safe run).2 before path answer after split⟩

end WebhookMonitor
