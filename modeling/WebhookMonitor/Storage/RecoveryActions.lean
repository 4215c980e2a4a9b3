import Mathlib.Data.Int.Order.Basic
import Mathlib.Data.Prod.Lex
import Mathlib.Order.Fin.Basic
import WebhookMonitor.History

/-!
# The recovery-action journal

The in-memory journal and the protocol both journals implement.

* `initiatedAction` — the entry a journal creates;
* `RecoveryAction.finalized` — the entry a journal leaves after finalizing;
* `InMemoryRecoveryActionStore` — a bounded deque, newest first.  Creating an
  entry in a full deque drops the oldest one, whatever its state;
* `RecoveryActionStore` — the protocol: its two writing methods as programs, with
  the contract the services rely on;
* `inMemoryRecoveryActionStore` — the in-memory journal as such programs.
-/

namespace WebhookMonitor

open Python Interaction

/-! ## Entries -/

/-- The entry for a request, under a new identifier. -/
def initiatedAction (actionId : UUID) (request : CreateRequest) : RecoveryAction where
  actionId := actionId
  actionType := .githubRepositoryWebhookRedelivery
  requestedAt := request.requestedAt
  completedAt := none
  attemptId := request.attempt.attemptId
  deliveryGuid := request.attempt.deliveryIdentity.deliveryGuid
  hookId := request.attempt.deliveryIdentity.hookId
  repository := request.repository
  githubDeliveryId := request.githubDeliveryId
  authenticationMethod := request.principal.authenticationMethod
  principalIssuer := request.principal.issuer
  principalSubject := request.principal.subject
  principalClientId := request.principal.clientId
  authorizationCapability := request.authorization.map (·.capability)
  authorizationScope := request.authorization.bind (·.matchedScope)
  state := .initiated
  upstreamStatusCode := none
  failureCategory := none

/-- An entry finalized in `state`: everything but the outcome stays. -/
def RecoveryAction.finalized (action : RecoveryAction) (request : FinalizeRequest)
    (state : RecoveryActionState) : RecoveryAction :=
  { action with
    completedAt := some request.completedAt
    state := state
    upstreamStatusCode := request.upstreamStatusCode
    failureCategory := request.failureCategory }

@[simp] theorem initiatedAction_actionId (id : UUID) (r : CreateRequest) :
    (initiatedAction id r).actionId = id := rfl

@[simp] theorem initiatedAction_state (id : UUID) (r : CreateRequest) :
    (initiatedAction id r).state = .initiated := rfl

@[simp] theorem RecoveryAction.finalized_actionId (a : RecoveryAction) (r : FinalizeRequest)
    (state : RecoveryActionState) : (a.finalized r state).actionId = a.actionId := rfl

@[simp] theorem RecoveryAction.finalized_state (a : RecoveryAction) (r : FinalizeRequest)
    (state : RecoveryActionState) : (a.finalized r state).state = state := rfl

/-! ## The in-memory journal -/

/-- `InMemoryRecoveryActionStore`: a deque of at most `maxActions` entries. -/
structure InMemoryRecoveryActionStore where
  maxActions : ℕ
  actions : List RecoveryAction
  maxActions_pos : 0 < maxActions
  bounded : actions.length ≤ maxActions

/-- `RecoveryActionKeyset`. -/
structure RecoveryActionKeyset where
  requestedAt : AwareDatetime
  actionId : UUID

/-- The order of the listing: by instant, then by identifier. -/
def RecoveryActionKeyset.key (k : RecoveryActionKeyset) : ℤ ×ₗ UUID :=
  toLex (k.requestedAt.instant, k.actionId)

/-- The place of an entry in the listing. -/
def RecoveryAction.keyset (action : RecoveryAction) : RecoveryActionKeyset :=
  ⟨action.requestedAt, action.actionId⟩

namespace InMemoryRecoveryActionStore

/-- A new journal. -/
def empty (maxActions : ℕ) (pos : 0 < maxActions) : InMemoryRecoveryActionStore :=
  ⟨maxActions, [], pos, by simp⟩

/-- `self._actions.appendleft(action)`. -/
def appendLeft (store : InMemoryRecoveryActionStore) (action : RecoveryAction) :
    InMemoryRecoveryActionStore :=
  { store with
    actions := (action :: store.actions).take store.maxActions
    bounded := List.length_take_le _ _ }

/-- `create_initiated_github_redelivery`, with the identifier `uuid4` gave. -/
def createInitiatedGithubRedelivery (store : InMemoryRecoveryActionStore) (actionId : UUID)
    (request : CreateRequest) : RecoveryAction × InMemoryRecoveryActionStore :=
  (initiatedAction actionId request, store.appendLeft (initiatedAction actionId request))

/-- The loop of `finalize`: the first entry with the identifier is replaced. -/
def finalizeIn (request : FinalizeRequest) :
    List RecoveryAction → Except AppError (RecoveryAction × List RecoveryAction)
  | [] => .error (.recoveryActionNotFound "Recovery action not found")
  | action :: rest =>
      if action.actionId ≠ request.actionId then
        (finalizeIn request rest).map fun r => (r.1, action :: r.2)
      else match action.state.isTerminal, RecoveryActionState.terminalOfText request.state with
        | false, some state =>
            .ok (action.finalized request state, action.finalized request state :: rest)
        | _, _ =>
            .error (.invalidRecoveryActionTransition "Invalid recovery action transition")

theorem finalizeIn_length {request : FinalizeRequest} {actions actions' : List RecoveryAction}
    {action : RecoveryAction} (h : finalizeIn request actions = .ok (action, actions')) :
    actions'.length = actions.length := by
  induction actions generalizing actions' with
  | nil => cases h
  | cons head rest ih =>
      rw [finalizeIn] at h
      split at h
      · cases hrest : finalizeIn request rest with
        | error e => rw [hrest] at h; cases h
        | ok r =>
            rw [hrest] at h
            cases h
            simp [ih hrest]
      · split at h
        · cases h; rfl
        · cases h

/-- `finalize`: the finalized entry and the journal after it. -/
def finalize (store : InMemoryRecoveryActionStore) (request : FinalizeRequest) :
    Except AppError (RecoveryAction × InMemoryRecoveryActionStore) :=
  match h : finalizeIn request store.actions with
  | .error e => .error e
  | .ok (action, actions) =>
      .ok (action, { store with
        actions := actions
        bounded := (finalizeIn_length h).le.trans store.bounded })

/-- `get`. -/
def get (store : InMemoryRecoveryActionStore) (actionId : UUID) : Option RecoveryAction :=
  store.actions.find? fun action => action.actionId = actionId

/-- `list_recent`: `sorted(…, reverse=True)` keeps the order of equal keys. -/
def listRecent (store : InMemoryRecoveryActionStore) (limit : ℕ)
    (after : Option RecoveryActionKeyset) : List RecoveryAction :=
  let ordered := store.actions.mergeSort fun a b => decide (b.keyset.key ≤ a.keyset.key)
  let remaining := match after with
    | none => ordered
    | some k => ordered.filter fun a => decide (a.keyset.key < k.key)
  remaining.take limit

@[simp] theorem appendLeft_actions (store : InMemoryRecoveryActionStore)
    (action : RecoveryAction) :
    (store.appendLeft action).actions = (action :: store.actions).take store.maxActions := rfl

@[simp] theorem appendLeft_maxActions (store : InMemoryRecoveryActionStore)
    (action : RecoveryAction) : (store.appendLeft action).maxActions = store.maxActions := rfl

theorem finalize_eq_ok {store store' : InMemoryRecoveryActionStore} {request : FinalizeRequest}
    {action : RecoveryAction} (h : store.finalize request = .ok (action, store')) :
    finalizeIn request store.actions = .ok (action, store'.actions) ∧
      store'.maxActions = store.maxActions := by
  unfold finalize at h
  split at h
  · cases h
  · next heq => cases h; exact ⟨heq, rfl⟩

theorem finalize_eq_error {store : InMemoryRecoveryActionStore} {request : FinalizeRequest}
    {e : AppError} (h : store.finalize request = .error e) :
    finalizeIn request store.actions = .error e := by
  unfold finalize at h
  split at h
  · next heq => cases h; exact heq
  · cases h

end InMemoryRecoveryActionStore

/-! ## The protocol -/

/-- A call `create_initiated_github_redelivery` may make: an identifier, and the
entry of the request under an identifier it got. -/
def MayCreate (request : CreateRequest) (h₀ h : History) (c : Call) : Prop :=
  SameExchanges h₀ h ∧ stored h = stored h₀ ∧
    match c with
    | .uuid4 => True
    | .appendLeft entry | .insert entry => ∃ id ∈ issued h, entry = initiatedAction id request
    | _ => False

/-- How creating may end: with the one entry stored, or with the store error and
nothing stored. -/
def Created (request : CreateRequest) (h₀ h : History) (r : Except AppError RecoveryAction) :
    Prop :=
  SameExchanges h₀ h ∧
    match r with
    | .ok returned =>
        ∃ id ∈ issued h, stored h = stored h₀ ++ [⟨initiatedAction id request, returned⟩]
    | .error e => stored h = stored h₀ ∧ ∃ message, e = .recoveryActionStore message

/-- A call `finalize` may make. -/
def MayFinalize (request : FinalizeRequest) (h₀ h : History) (c : Call) : Prop :=
  SameEntries h₀ h ∧ finalizations h = finalizations h₀ ∧ faults h = faults h₀ ∧
    match c with
    | .finalizeEntry r => r = request
    | .updateInitiated r state =>
        r = request ∧ RecoveryActionState.terminalOfText request.state = some state
    | .selectState id => id = request.actionId
    | _ => False

/-- `finalize` refused an entry with `e`: the in-memory journal raised it, or the
guarded statement matched no row. -/
def Refused (request : FinalizeRequest) (h : History) (e : AppError) : Prop :=
  ⟨.finalizeEntry request, .error e⟩ ∈ h ∨ ∃ state, ⟨.updateInitiated request state, .ok none⟩ ∈ h

/-- How finalizing may end: with the entry finalized, with the store error when a
statement failed, refused, or rejected because the state asked for is not
terminal. -/
def Finalized (request : FinalizeRequest) (h₀ h : History) (r : Except AppError RecoveryAction) :
    Prop :=
  SameEntries h₀ h ∧
    match r with
    | .ok _ => finalizations h = finalizations h₀ ++ [request] ∧ faults h = faults h₀
    | .error e => finalizations h = finalizations h₀ ∧
        ((∃ message, e = .recoveryActionStore message) ∨
          (faults h = faults h₀ ∧
            (Refused request h e ∨ RecoveryActionState.terminalOfText request.state = none)))

/-- `RecoveryActionStore`: the two methods that write, for every answer to their
calls. -/
structure RecoveryActionStore where
  createInitiatedGithubRedelivery : CreateRequest → Action RecoveryAction
  finalize : FinalizeRequest → Action RecoveryAction
  create_meets : ∀ request h₀,
    Meets (MayCreate request h₀) (Created request h₀) (createInitiatedGithubRedelivery request) h₀
  finalize_meets : ∀ request h₀,
    Meets (MayFinalize request h₀) (Finalized request h₀) (finalize request) h₀

/-- The in-memory journal.  Neither method awaits, so `finalize` is one step; that
creating is two only adds interleavings. -/
def inMemoryRecoveryActionStore : RecoveryActionStore where
  createInitiatedGithubRedelivery request := do
    let actionId ← invoke .uuid4
    let action := initiatedAction actionId request
    invoke (.appendLeft action)
    return action
  finalize request := do
    let result ← invoke (.finalizeEntry request)
    Program.ofExcept result
  create_meets request h₀ := by
    refine ⟨⟨.refl h₀, rfl, trivial⟩, fun id => ?_⟩
    have issued : id ∈ issued (h₀ ++ [⟨.uuid4, id⟩]) := by
      rw [issued_append]
      exact List.mem_append_right _ (List.mem_singleton_self id)
    refine ⟨⟨(SameExchanges.refl h₀).snoc rfl rfl rfl rfl, shown_of_none storedOf rfl h₀,
        id, issued, rfl⟩,
      fun _ => ⟨((SameExchanges.refl h₀).snoc rfl rfl rfl rfl).snoc rfl rfl rfl rfl, id, ?_, ?_⟩⟩
    · rw [issued_append]
      exact List.mem_append_left _ issued
    · exact (shown_of_some storedOf rfl _).trans
        (congrArg (· ++ _) (shown_of_none storedOf rfl h₀))
  finalize_meets request h₀ := by
    refine ⟨⟨.refl h₀, rfl, rfl, rfl⟩, fun result =>
      meets_ofExcept.mpr ⟨(SameEntries.refl h₀).snoc rfl rfl rfl, ?_⟩⟩
    cases result with
    | ok action => exact ⟨shown_of_some finalizationOf rfl h₀, shown_of_none faultOf rfl h₀⟩
    | error e =>
        exact ⟨shown_of_none finalizationOf rfl h₀,
          .inr ⟨shown_of_none faultOf rfl h₀, .inl (.inl (by simp))⟩⟩

end WebhookMonitor
