import WebhookMonitor.Domain
import WebhookMonitor.Interaction.Program

/-!
# What the services call

The calls the reconciliation and redelivery services make to the world outside
the process: the clock, the generator of UUIDs, the HTTP client, and the two
implementations of the recovery-action journal.  Each call is one atomic step:
the in-memory journal does its work without awaiting, the PostgreSQL journal
sends one statement at a time.

The HTTP client is a third-party library.  A response is what the services read
of it; a failure is told apart only as far as some `except` clause does.
-/

namespace WebhookMonitor

open Python Interaction

/-! ## HTTP -/

/-- A header value decoded from the wire, which yields no surrogates. -/
abbrev HeaderText := {s : Str // isScalar s = true}

/-- What the GitHub clients read of an `httpx2.Response`. -/
structure HttpResponse where
  statusCode : ℤ
  link : Option HeaderText
  retryAfter : Option HeaderText
  xRatelimitRemaining : Option HeaderText
  content : Bytes

/-- An exception of the HTTP client.  The first five are the `RequestError`
family: `ConnectError` is a `NetworkError` and `ConnectTimeout` a
`TimeoutException`.  `other` is any exception outside it. -/
inductive HttpClientError where
  | connectError
  | connectTimeout
  | timeoutException
  | networkError
  | requestError
  | other
  deriving DecidableEq, Repr

/-- `isinstance(e, RequestError)`. -/
def HttpClientError.isRequestError : HttpClientError → Bool
  | .other => false
  | _ => true

/-- `isinstance(e, (ConnectError, ConnectTimeout))`. -/
def HttpClientError.isConnectFailure : HttpClientError → Bool
  | .connectError | .connectTimeout => true
  | _ => false

/-! ## The journal -/

/-- The arguments of `create_initiated_github_redelivery`. -/
structure CreateRequest where
  attempt : DeliveryAttempt
  repository : Str
  githubDeliveryId : ℤ
  requestedAt : AwareDatetime
  principal : ManagementPrincipal
  authorization : Option ManagementAuthorization

/-- The arguments of `finalize`. -/
structure FinalizeRequest where
  actionId : UUID
  state : Str
  completedAt : AwareDatetime
  upstreamStatusCode : Option ℤ
  failureCategory : Option Str
  deriving DecidableEq

/-! ## The interface -/

/-- The calls.  The statements name what they insert, set or look for. -/
inductive Call where
  | now
  | uuid4
  | httpGet (path : Str) (perPage : ℕ) (cursor : Option Str)
  | httpPost (path : Str)
  /-- `self._actions.appendleft(action)`. -/
  | appendLeft (action : RecoveryAction)
  /-- The whole of `InMemoryRecoveryActionStore.finalize`. -/
  | finalizeEntry (request : FinalizeRequest)
  /-- `INSERT … RETURNING`. -/
  | insert (action : RecoveryAction)
  /-- `UPDATE … WHERE action_id = … AND state = 'initiated' RETURNING`. -/
  | updateInitiated (request : FinalizeRequest) (state : RecoveryActionState)
  /-- `SELECT action_id, state … WHERE action_id = …`. -/
  | selectState (actionId : UUID)

/-- A failed statement: `SQLAlchemyError`. -/
inductive SqlError where
  | sqlAlchemyError
  deriving DecidableEq, Repr

/-- The answer to each call. -/
@[reducible] def Call.Answer : Call → Type
  | .now => Wall
  | .uuid4 => UUID
  | .httpGet .. | .httpPost .. => Except HttpClientError HttpResponse
  | .appendLeft _ => Unit
  | .finalizeEntry _ => Except AppError RecoveryAction
  | .insert _ => Except SqlError RecoveryAction
  | .updateInitiated .. => Except SqlError (Option RecoveryAction)
  | .selectState _ => Except SqlError (Option (UUID × RecoveryActionState))

/-- The interface of the services. -/
@[reducible] def Effects : Interface := ⟨Call, Call.Answer⟩

/-- A program of the services. -/
abbrev Action (α : Type) := Program Effects AppError α

/-- Make a call. -/
def invoke (c : Call) : Action c.Answer := Program.perform (I := Effects) c

/-- `datetime.now(timezone.utc)`. -/
def nowUtc : Action AwareDatetime := do
  let wall ← invoke .now
  return AwareDatetime.utc wall

theorem nowUtc_bind {α : Type} (f : AwareDatetime → Action α) :
    nowUtc >>= f = (.call Call.now fun wall => f (AwareDatetime.utc wall) : Action α) := rfl

theorem invoke_bind {α : Type} (c : Call) (f : c.Answer → Action α) :
    invoke c >>= f = (.call c f : Action α) := rfl

end WebhookMonitor
