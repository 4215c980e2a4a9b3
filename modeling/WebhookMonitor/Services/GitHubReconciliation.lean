import WebhookMonitor.GitHub.Client
import WebhookMonitor.Services.Cursor

/-!
# Reconciliation with GitHub's delivery history

`GitHubReconciliationService`: the records of a repository webhook's delivery
history that carry the GUID of a stored attempt, at most `maxPages` pages at a
time, with a continuation cursor bound to the attempt.
-/

namespace WebhookMonitor

open Python Interaction

def reconciliationCursorVersion : ℤ := 1

/-- `GitHubReconciliationResult`. -/
structure GitHubReconciliationResult where
  attempt : DeliveryAttempt
  matching : List GitHubDeliverySummary
  searchComplete : Bool
  nextCursor : Option Str

/-! ## The target -/

/-- `REPOSITORY_FULL_NAME_PATTERN.fullmatch`: two parts around one slash, neither
empty, without white space. -/
def isRepositoryFullName (s : Str) : Bool :=
  match splitAt '/' s with
  | (owner, some repository) =>
      owner ≠ [] && repository ≠ [] &&
        (owner ++ repository).all fun c => !isSpace c && c ≠ CodePoint.ofChar '/'
  | (_, none) => false

/-- `repository_coordinates`.  The pattern raises `TypeError` on a repository that
is not text. -/
def repositoryCoordinates (attempt : DeliveryAttempt) : Except AppError (Str × Str) :=
  if attempt.installationTargetType.any (· ≠ Str.lit "repository") then
    .error .unsupportedGitHubReconciliationTarget
  else match attempt.repository with
    | .null => .error .unsupportedGitHubReconciliationTarget
    | .str name =>
        if isRepositoryFullName name then
          .ok ((splitAt '/' name).1, (splitAt '/' name).2.getD [])
        else .error .unsupportedGitHubReconciliationTarget
    | _ => .error (.python .typeError)

/-! ## Continuation cursors -/

/-- The payload of a continuation cursor. -/
def reconciliationMembers (attemptId : UUID) (upstreamCursor : Option Str) :
    List (Str × Scalar) :=
  [(Str.lit "v", .int reconciliationCursorVersion),
    (Str.lit "attempt_id", .str (UUID.str attemptId)),
    (Str.lit "github_cursor", match upstreamCursor with | some c => .str c | none => .null)]

def encodeReconciliationCursor (attemptId : UUID) (upstreamCursor : Option Str) :
    Except BuiltinError Str :=
  encodeCursor (reconciliationMembers attemptId upstreamCursor)

/-- The `try` block of `decode_reconciliation_cursor`. -/
def readReconciliationCursor (limit : RecursionLimit) (cursor : Str) (attemptId : UUID) :
    Except BuiltinError Str := do
  let payload ← cursorPayload limit reconciliationCursorVersion cursor
  let member ← requireMember payload "attempt_id"
  let cursorAttemptId ← UUID.ofJson member
  let upstreamCursor ← requireMember payload "github_cursor"
  match upstreamCursor.str? with
  | some upstreamCursor =>
      if cursorAttemptId ≠ attemptId ∨ upstreamCursor = [] then .error .valueError
      else .ok upstreamCursor
  | none => .error .valueError

def decodeReconciliationCursor (limit : RecursionLimit) (cursor : Str) (attemptId : UUID) :
    Except AppError Str :=
  match readReconciliationCursor limit cursor attemptId with
  | .ok upstreamCursor => .ok upstreamCursor
  | .error e =>
      if isCursorFault e then
        .error (.invalidGitHubReconciliationCursor "Invalid or expired reconciliation cursor")
      else .error (.python e)

theorem isAscii_reconciliationMembers (attemptId : UUID) (upstreamCursor : Option Str) :
    ∀ m ∈ reconciliationMembers attemptId upstreamCursor, isAscii m.2.dumps = true := by
  intro m hm
  simp only [reconciliationMembers, List.mem_cons, List.not_mem_nil, or_false] at hm
  rcases hm with rfl | rfl | rfl
  · rfl
  · exact isAscii_dumpsStr _
  · cases upstreamCursor with
    | none => rfl
    | some c => exact isAscii_dumpsStr c

/-- Writing a continuation cursor does not fail. -/
theorem encodeReconciliationCursor_ne_error (attemptId : UUID) (upstreamCursor : Option Str)
    (e : BuiltinError) : encodeReconciliationCursor attemptId upstreamCursor ≠ .error e := by
  rw [encodeReconciliationCursor,
    encodeCursor_eq (isAscii_reconciliationMembers attemptId upstreamCursor)]
  exact nofun

/-- A continuation cursor reads back as the upstream cursor it was written from. -/
theorem decodeReconciliationCursor_encode {limit : RecursionLimit} {attemptId : UUID}
    {upstreamCursor cursor : Str} (scalar : isScalar upstreamCursor = true)
    (nonempty : upstreamCursor ≠ [])
    (encoded : encodeReconciliationCursor attemptId (some upstreamCursor) = .ok cursor) :
    decodeReconciliationCursor limit cursor attemptId = .ok upstreamCursor := by
  have keys : ∀ m ∈ reconciliationMembers attemptId (some upstreamCursor),
      isScalar m.1 = true := by
    intro m hm
    simp only [reconciliationMembers, List.mem_cons, List.not_mem_nil, or_false] at hm
    rcases hm with rfl | rfl | rfl <;> rfl
  have values : ∀ m ∈ reconciliationMembers attemptId (some upstreamCursor), m.2.Readable := by
    intro m hm
    simp only [reconciliationMembers, List.mem_cons, List.not_mem_nil, or_false] at hm
    rcases hm with rfl | rfl | rfl
    · exact readable_one
    · exact readable_str (isScalar_of_isAscii (UUID.isAscii_str attemptId))
    · exact readable_str scalar
  have payload : cursorPayload limit reconciliationCursorVersion cursor =
      .ok (payloadOf (reconciliationMembers attemptId (some upstreamCursor))) :=
    cursorPayload_encodeCursor (List.cons_ne_nil _ _) keys values rfl encoded
  have read : readReconciliationCursor limit cursor attemptId = .ok upstreamCursor := by
    rw [readReconciliationCursor, payload]
    have id : requireMember (payloadOf (reconciliationMembers attemptId (some upstreamCursor)))
        "attempt_id" = .ok (.str (UUID.str attemptId)) := rfl
    have upstream : requireMember (payloadOf (reconciliationMembers attemptId
        (some upstreamCursor))) "github_cursor" = .ok (.str upstreamCursor) := rfl
    simp only [bind, Except.bind, id, upstream, UUID.ofJson_str, Json.str?, ne_eq,
      not_true_eq_false, nonempty, or_self, if_false]
  rw [decodeReconciliationCursor, read]

/-! ## The service -/

/-- The records of a page that carry the GUID of the attempt. -/
def DeliveryAttempt.matchesOn (attempt : DeliveryAttempt) (page : GitHubDeliveryPage) :
    List GitHubDeliverySummary :=
  page.deliveries.filter fun delivery =>
    delivery.deliveryGuid = attempt.deliveryIdentity.deliveryGuid

/-- `GitHubReconciliationService`, without the query service behind
`get_local_attempt`.  Of the client only whether there is one matters: its token
goes into the request headers. -/
structure GitHubReconciliationService where
  enabled : Bool
  hasGithubClient : Bool
  maxPages : ℕ
  limit : RecursionLimit

namespace GitHubReconciliationService

variable (service : GitHubReconciliationService)

/-- The `while` loop, with the pages that may still be fetched. -/
def fetchPages (attempt : DeliveryAttempt) (owner repository : Str) :
    ℕ → Option Str → List GitHubDeliverySummary → Action GitHubReconciliationResult
  | 0, upstreamCursor, matching => do
      let nextCursor ← Program.ofExcept
        (uncaught (encodeReconciliationCursor attempt.attemptId upstreamCursor))
      return { attempt, matching, searchComplete := false, nextCursor := some nextCursor }
  | remaining + 1, upstreamCursor, matching => do
      let page ← listRepositoryWebhookDeliveries service.limit owner repository
        attempt.deliveryIdentity.hookId upstreamCursor
      match page.nextCursor with
      | none =>
          return { attempt, matching := matching ++ attempt.matchesOn page, searchComplete := true,
                   nextCursor := none }
      | some cursor =>
          fetchPages attempt owner repository remaining (some cursor)
            (matching ++ attempt.matchesOn page)

/-- The upstream cursor a continuation starts from. -/
def resumeAt (attempt : DeliveryAttempt) : Option Str → Except AppError (Option Str)
  | none => .ok none
  | some cursor =>
      (decodeReconciliationCursor service.limit cursor attempt.attemptId).map some

def reconcile (attempt : DeliveryAttempt) (cursor : Option Str) :
    Action GitHubReconciliationResult :=
  if !service.enabled || !service.hasGithubClient then
    throw .gitHubReconciliationDisabled
  else do
    let (owner, repository) ← Program.ofExcept (repositoryCoordinates attempt)
    let upstreamCursor ← Program.ofExcept (service.resumeAt attempt cursor)
    service.fetchPages attempt owner repository service.maxPages upstreamCursor []

end GitHubReconciliationService

/-- A service that fetches one page, for runs on fixed inputs. -/
def onePageService : GitHubReconciliationService where
  enabled := true
  hasGithubClient := true
  maxPages := 1
  limit := sampleLimit

end WebhookMonitor
