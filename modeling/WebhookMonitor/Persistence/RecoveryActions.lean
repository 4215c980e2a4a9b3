import WebhookMonitor.Database.LockedTable
import WebhookMonitor.Journal.Calls
import WebhookMonitor.Persistence.Deliveries

/-!
# The PostgreSQL journal and its transactions

`PostgresRecoveryActionStore` by its statements, over the table `recovery_actions`
with its row locks.  `Persistence.Postgres` has the same statements without the
transactions around them.

* `Driver.bindAction`, `Driver.bindOutcome` — what the driver and the columns take;
* `isStorable` — the check constraints;
* `JournalDatabase.respond` — what the database makes of a statement that neither
  waits nor fails for reasons outside it;
* `JournalDatabase.Waits` — when a statement waits for another transaction;
* `PostgresRecoveryActionStore.program` — the program of each call.

A row is kept as the entry that was bound to it; reading it gives the timestamps in
the time zone of the session, from their instants alone.

Of the server it is assumed that a `COMMIT` is carried out and answered, or fails and is
rolled back: that it is carried out and its answer is lost, is left out.  So is the limit on
the size of an index entry.
-/

namespace WebhookMonitor

open Python Interaction Database

/-! ## Values and columns -/

/-- The columns of an outcome, as the driver binds them. -/
def Driver.bindOutcome (upstreamStatusCode : Option ℤ) (failureCategory : Option Str) :
    Except StatementError Unit := do
  let _ ← failureCategory.mapM bindText
  if upstreamStatusCode.all isBigint then return () else throw .sqlAlchemyError

/-- The columns of an entry, as the driver binds them. -/
def Driver.bindAction (row : RecoveryAction) : Except StatementError Unit := do
  let _ ← bindText row.deliveryGuid
  let _ ← bindText row.repository
  let _ ← row.principalIssuer.mapM bindText
  let _ ← row.principalSubject.mapM bindText
  let _ ← row.principalClientId.mapM bindText
  let _ ← row.authorizationScope.mapM bindText
  Driver.bindOutcome row.upstreamStatusCode row.failureCategory
  if isBigint row.hookId && isBigint row.githubDeliveryId then return ()
  else throw .sqlAlchemyError

/-- `ck_recovery_actions_state_completion`. -/
def isStateCompletion (row : RecoveryAction) : Bool :=
  if row.state.isTerminal then row.completedAt.isSome
  else row.completedAt.isNone && row.upstreamStatusCode.isNone && row.failureCategory.isNone

/-- The check constraints of `recovery_actions`, apart from those every entry meets by
its type. -/
def isStorable (row : RecoveryAction) : Bool :=
  notBlank row.deliveryGuid && 0 < row.hookId && notBlank row.repository &&
    0 < row.githubDeliveryId && row.upstreamStatusCode.all (fun n => 100 ≤ n && n ≤ 599) &&
    isStateCompletion row

/-- `row_to_recovery_action`, with the reading of the timestamps before it. -/
def Driver.showAction (driver : Driver) (row : RecoveryAction) :
    Except StatementError RecoveryAction :=
  match driver.shown row.requestedAt.instant,
      row.completedAt.map fun t => driver.shown t.instant with
  | some requestedAt, none => .ok { row with requestedAt, completedAt := none }
  | some requestedAt, some (some completedAt) =>
      .ok { row with requestedAt, completedAt := some completedAt }
  | _, _ => .error .sqlAlchemyError

/-! ## Statements -/

/-- The statements, those that write each in its transaction. -/
inductive JournalStatement where
  | begin
  /-- `INSERT … RETURNING`. -/
  | insertAction (tx : ℕ) (row : RecoveryAction)
  /-- `UPDATE … WHERE action_id = … AND state = 'initiated' RETURNING`. -/
  | updateInitiated (tx : ℕ) (request : FinalizeRequest) (state : RecoveryActionState)
  /-- `SELECT action_id, state … WHERE action_id = …`. -/
  | selectState (tx : ℕ) (actionId : UUID)
  | commit (tx : ℕ)
  | rollback (tx : ℕ)
  /-- `SELECT … WHERE action_id = …`. -/
  | selectAction (actionId : UUID)
  /-- `SELECT … ORDER BY requested_at DESC, action_id DESC LIMIT …`. -/
  | selectPage (limit : ℕ) (after : Option RecoveryActionKeyset)

@[reducible] def JournalStatement.Answer : JournalStatement → Type
  | .begin => Except StatementError ℕ
  | .insertAction .. => Except StatementError RecoveryAction
  | .updateInitiated .. => Except StatementError (Option RecoveryAction)
  | .selectState .. => Except StatementError (Option RecoveryActionState)
  | .commit _ => Except StatementError Unit
  | .rollback _ => Unit
  | .selectAction _ => Except StatementError (Option RecoveryAction)
  | .selectPage .. => Except StatementError (List RecoveryAction)

@[reducible] def JournalSql : Interface := ⟨JournalStatement, JournalStatement.Answer⟩

/-- The table, and the number of transactions so far. -/
structure JournalDatabase where
  actions : LockedTable RecoveryAction
  started : ℕ

namespace JournalDatabase

/-- A new table. -/
def empty : JournalDatabase := ⟨.empty, 0⟩

/-- The rows a statement of a transaction sees. -/
def visible (db : JournalDatabase) (tx : ℕ) : List RecoveryAction :=
  db.actions.visible RecoveryAction.actionId tx

/-- An insert waits for another transaction that has inserted its identifier, a
guarded update for one that has written the row it would write. -/
def Waits (db : JournalDatabase) : JournalStatement → Prop
  | .insertAction tx row =>
      LockedTable.Locked RecoveryAction.actionId db.actions tx row.actionId
  | .updateInitiated tx request _ =>
      LockedTable.Locked RecoveryAction.actionId db.actions tx request.actionId ∧
        ∃ row ∈ db.visible tx, row.actionId = request.actionId ∧ row.state = .initiated
  | _ => False

instance (db : JournalDatabase) (c : JournalStatement) : Decidable (db.Waits c) := by
  unfold Waits
  cases c <;> infer_instance

/-- A write of a transaction. -/
def write (db : JournalDatabase) (tx : ℕ) (v : Version RecoveryAction) : JournalDatabase :=
  { db with actions := db.actions.write tx v }

/-- The table after the end of a transaction. -/
def commit (db : JournalDatabase) (tx : ℕ) : JournalDatabase :=
  { db with actions := db.actions.commit RecoveryAction.actionId tx }

def rollback (db : JournalDatabase) (tx : ℕ) : JournalDatabase :=
  { db with actions := db.actions.rollback tx }

/-- The `WHERE` clause of the page. -/
def isAfter (after : RecoveryActionKeyset) (row : RecoveryAction) : Bool :=
  row.requestedAt.instant < after.requestedAt.instant ||
    (row.requestedAt.instant = after.requestedAt.instant && row.actionId < after.actionId)

/-- The rows of a page. -/
def pageRows (rows : List RecoveryAction) (limit : ℕ) (after : Option RecoveryActionKeyset) :
    List RecoveryAction :=
  let statement := match after with
    | none => rows
    | some after => rows.filter (isAfter after)
  (Pagination.newestFirst (fun row => row.keyset.key) statement).take limit

/-- The answer to a statement and the table after it. -/
def respond (driver : Driver) (db : JournalDatabase) :
    (c : JournalStatement) → c.Answer × JournalDatabase
  | .begin => (.ok (db.started + 1), { db with started := db.started + 1 })
  | .insertAction tx row =>
      match Driver.bindAction row, driver.showAction row with
      | .error e, _ => (.error e, db)
      | .ok (), returned =>
          if !isStorable row || (db.visible tx).any fun other => other.actionId = row.actionId then
            (.error .sqlAlchemyError, db)
          else
            match returned with
            | .error e => (.error e, db)
            | .ok returned => (.ok returned, db.write tx (.inserted row))
  | .updateInitiated tx request state =>
      match Driver.bindOutcome request.upstreamStatusCode request.failureCategory with
      | .error e => (.error e, db)
      | .ok () =>
          match (db.visible tx).find? fun row =>
              row.actionId = request.actionId && row.state = .initiated with
          | none => (.ok none, db)
          | some row =>
              let row := row.finalized request state
              if isStorable row then
                match driver.showAction row with
                | .error e => (.error e, db)
                | .ok returned => (.ok (some returned), db.write tx (.updated row))
              else (.error .sqlAlchemyError, db)
  | .selectState tx actionId =>
      (.ok (((db.visible tx).find? fun row => row.actionId = actionId).map RecoveryAction.state),
        db)
  | .commit tx => (.ok (), db.commit tx)
  | .rollback tx => ((), db.rollback tx)
  | .selectAction actionId =>
      match db.actions.committed.find? fun row => row.actionId = actionId with
      | none => (.ok none, db)
      | some row => ((driver.showAction row).map some, db)
  | .selectPage limit after =>
      if limit ≤ driver.maxLimit then
        ((pageRows db.actions.committed limit after).mapM driver.showAction, db)
      else (.error .sqlAlchemyError, db)

end JournalDatabase

/-! ## The store -/

namespace PostgresRecoveryActionStore

/-- A program of the store. -/
abbrev Transaction (α : Type) := Program JournalSql AppError α

def storeError : AppError := .recoveryActionStore "Recovery action store operation failed"

/-- Send a statement. -/
def send (c : JournalStatement) : Transaction c.Answer := Program.perform (I := JournalSql) c

/-- Only the exceptions of the database library are turned into the store error. -/
def storeFailure : StatementError → AppError
  | .sqlAlchemyError => storeError
  | .other e => .python e

/-- The answer of a statement. -/
def orStoreFailure {α : Type} : Except StatementError α → Transaction α
  | .ok a => .ret a
  | .error e => .raise (storeFailure e)

/-- The end of a block under `with self._engine.begin()`. -/
def commit (tx : ℕ) : Transaction Unit := do
  let committed ← send (.commit tx)
  orStoreFailure committed

/-- What leaving the block with an exception does. -/
def rollback {α : Type} (tx : ℕ) (e : AppError) : Transaction α := do
  send (.rollback tx)
  throw e

/-- A block under `with self._engine.begin()`. -/
def transaction {α : Type} (block : ℕ → Transaction α) : Transaction α := do
  let begun ← send .begin
  let tx ← orStoreFailure begun
  tryCatch (block tx) (rollback tx)

/-- The block of `create_initiated_github_redelivery`. -/
def insertAction (row : RecoveryAction) (tx : ℕ) : Transaction RecoveryAction := do
  let inserted ← send (.insertAction tx row)
  let returned ← orStoreFailure inserted
  commit tx
  return returned

def createInitiatedGithubRedelivery (actionId : UUID) (request : CreateRequest) :
    Transaction RecoveryAction :=
  transaction (insertAction (initiatedAction actionId request))

/-- The block of `finalize`: the updated row, or the state of the one there. -/
def updateAction (request : FinalizeRequest) (state : RecoveryActionState) (tx : ℕ) :
    Transaction (RecoveryAction ⊕ Option RecoveryActionState) := do
  let updated ← send (.updateInitiated tx request state)
  let row ← orStoreFailure updated
  match row with
  | some row =>
      commit tx
      return .inl row
  | none =>
      let selected ← send (.selectState tx request.actionId)
      let existing ← orStoreFailure selected
      commit tx
      return .inr existing

/-- What `finalize` makes of the block. -/
def concluded : RecoveryAction ⊕ Option RecoveryActionState → Transaction RecoveryAction
  | .inl row => .ret row
  | .inr none => .raise (.recoveryActionNotFound "Recovery action not found")
  | .inr (some _) =>
      .raise (.invalidRecoveryActionTransition "Invalid recovery action transition")

def finalize (request : FinalizeRequest) : Transaction RecoveryAction :=
  match RecoveryActionState.terminalOfText request.state with
  | none => throw (.invalidRecoveryActionTransition "Invalid recovery action transition")
  | some state => do
      let row ← transaction (updateAction request state)
      concluded row

def get (actionId : UUID) : Transaction (Option RecoveryAction) := do
  let selected ← send (.selectAction actionId)
  orStoreFailure selected

def listRecent (limit : ℕ) (after : Option RecoveryActionKeyset) :
    Transaction (List RecoveryAction) := do
  let selected ← send (.selectPage limit after)
  orStoreFailure selected

/-- The program of each call. -/
def program : JournalCall → Transaction JournalAnswer
  | .create actionId request => do
      let action ← createInitiatedGithubRedelivery actionId request
      return .action action
  | .finalize request => do
      let action ← finalize request
      return .action action
  | .get actionId => do
      let found ← get actionId
      return .found found
  | .listRecent limit after => do
      let actions ← listRecent limit after
      return .page actions

end PostgresRecoveryActionStore

end WebhookMonitor
