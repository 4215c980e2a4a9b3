import WebhookMonitor.Records.Lifecycle
import WebhookMonitor.Storage.RecoveryActions

/-!
# Calls of a journal

The four methods of `RecoveryActionStore` as calls, and the life of an entry.

* `JournalCall`, `JournalAnswer` — the calls and what they return;
* `RecoveryAction.IsInitiated`, `RecoveryAction.IsFinalization` — how an entry
  starts, and the only way in which it changes;
* `JournalCall.Does` — what a call that writes does to the entries;
* `journalEntries` — these as a `Lifecycle`;
* `InMemoryRecoveryActionStore.exec` — the in-memory journal, call by call.
-/

namespace WebhookMonitor

open Python

/-- A call; creating is given the identifier `uuid4` gives it. -/
inductive JournalCall where
  | create (actionId : UUID) (request : CreateRequest)
  | finalize (request : FinalizeRequest)
  | get (actionId : UUID)
  | listRecent (limit : ℕ) (after : Option RecoveryActionKeyset)

/-- What a call returns. -/
inductive JournalAnswer where
  | action (action : RecoveryAction)
  | found (action : Option RecoveryAction)
  | page (actions : List RecoveryAction)

/-! ## The life of an entry -/

namespace RecoveryAction

/-- An entry without an outcome. -/
structure IsInitiated (action : RecoveryAction) : Prop where
  state : action.state = .initiated
  completedAt : action.completedAt = none
  upstreamStatusCode : action.upstreamStatusCode = none
  failureCategory : action.failureCategory = none

/-- An entry without an outcome is given one: one of the three terminal states, and a
time.  Nothing else changes. -/
def IsFinalization (old new : RecoveryAction) : Prop :=
  old.IsInitiated ∧ ∃ (request : FinalizeRequest) (state : RecoveryActionState),
    RecoveryActionState.terminalOfText request.state = some state ∧
      new = old.finalized request state

theorem isInitiated_initiatedAction (actionId : UUID) (request : CreateRequest) :
    (initiatedAction actionId request).IsInitiated := ⟨rfl, rfl, rfl, rfl⟩

theorem IsFinalization.isTerminal {old new : RecoveryAction} (final : IsFinalization old new) :
    new.state.isTerminal = true := by
  obtain ⟨-, request, state, terminal, rfl⟩ := final
  exact RecoveryActionState.isTerminal_of_terminalOfText terminal

end RecoveryAction

/-! ## What calls write -/

/-- The columns an outcome fills. -/
structure Outcome where
  state : RecoveryActionState
  completedAt : Option AwareDatetime
  upstreamStatusCode : Option ℤ
  failureCategory : Option Str

def RecoveryAction.outcome (action : RecoveryAction) : Outcome where
  state := action.state
  completedAt := action.completedAt
  upstreamStatusCode := action.upstreamStatusCode
  failureCategory := action.failureCategory

/-- The outcome a call asks for. -/
def FinalizeRequest.outcome (request : FinalizeRequest) (state : RecoveryActionState) :
    Outcome where
  state := state
  completedAt := some request.completedAt
  upstreamStatusCode := request.upstreamStatusCode
  failureCategory := request.failureCategory

/-- Only the outcome changes, so it says what the new entry is. -/
theorem RecoveryAction.IsFinalization.eq_finalized {old new : RecoveryAction}
    (final : old.IsFinalization new) {request : FinalizeRequest} {state : RecoveryActionState}
    (outcome : new.outcome = request.outcome state) : new = old.finalized request state := by
  obtain ⟨-, request', state', -, rfl⟩ := final
  injection outcome with hstate completedAt upstreamStatusCode failureCategory
  unfold finalized
  rw [← hstate, ← completedAt, ← upstreamStatusCode, ← failureCategory]
  rfl

/-- What a call that writes does to the entries: a new one comes to the front, or the
one entry it names is given the outcome it asks for. -/
def JournalCall.Does (rows rows' : List RecoveryAction) : JournalCall → Prop
  | .create actionId request => rows' = initiatedAction actionId request :: rows
  | .finalize request => ∃ old ∈ rows, ∃ state, old.actionId = request.actionId ∧
      old.IsInitiated ∧ RecoveryActionState.terminalOfText request.state = some state ∧
      rows' = Records.replace RecoveryAction.actionId request.actionId
        (old.finalized request state) rows
  | _ => False

/-- Entries as records that are opened and closed once. -/
def journalEntries : Records.Lifecycle RecoveryAction UUID where
  key := RecoveryAction.actionId
  Opens := RecoveryAction.IsInitiated
  Closes := RecoveryAction.IsFinalization
  key_of_closes final := by
    obtain ⟨-, request, state, -, rfl⟩ := final
    rfl
  opens_of_closes final := final.1
  not_opens_of_closes final initiated := by
    have terminal := final.isTerminal
    rw [initiated.state] at terminal
    cases terminal

/-- An entry without an outcome, by its state alone. -/
theorem isInitiated_of_state {b : Records.Book RecoveryAction UUID} {row : RecoveryAction}
    (sound : Records.Sound journalEntries b) (mem : row ∈ b.rows)
    (initiated : row.state = .initiated) : row.IsInitiated := by
  rcases sound.born row mem with opened | ⟨old, final⟩
  · exact opened
  · have closed := RecoveryAction.IsFinalization.isTerminal final
    rw [initiated] at closed
    cases closed

/-! ## The in-memory journal -/

namespace InMemoryRecoveryActionStore

/-- One call: what it returns or raises, and the journal after it. -/
def exec (store : InMemoryRecoveryActionStore) :
    JournalCall → Except AppError JournalAnswer × InMemoryRecoveryActionStore
  | .create actionId request =>
      let created := store.createInitiatedGithubRedelivery actionId request
      (.ok (.action created.1), created.2)
  | .finalize request =>
      match store.finalize request with
      | .ok (action, store') => (.ok (.action action), store')
      | .error e => (.error e, store)
  | .get actionId => (.ok (.found (store.get actionId)), store)
  | .listRecent limit after => (.ok (.page (store.listRecent limit after)), store)

end InMemoryRecoveryActionStore

end WebhookMonitor
