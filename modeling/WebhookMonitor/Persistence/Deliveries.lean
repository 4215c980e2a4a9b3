import WebhookMonitor.Database.Table
import WebhookMonitor.Interaction.Program
import WebhookMonitor.Pagination.Keyset
import WebhookMonitor.Python.Integer
import WebhookMonitor.Storage.Deliveries

/-!
# The PostgreSQL delivery store

`PostgresDeliveryStore` by its statements, over the tables `github_deliveries` and
`delivery_attempts`.

* `AttemptColumns` — the columns of an attempt: as bound, as stored, as read back;
* `Driver` — what the store relies on in the driver and the server;
* `DeliveryDatabase.respond` — what the database makes of a statement that neither
  waits nor fails for reasons outside it; constraints are checked here;
* `DeliveryDatabase.Waits` — when an insert waits for another transaction;
* `PostgresDeliveryStore.add` — one transaction of two or three statements;
* `listRecent`, `listAttemptsPage`, `getAttempt` — queries over the committed rows.

Three things are assumed of the server.  `respond` carries out a `COMMIT` and says so: a
`COMMIT` answered by an error is left to the modules on runs, where it is a rollback or, in
`DeliveryDatabase.LossyAnswers`, a lost acknowledgement.  Every value that its column takes
fits an index entry: the limit on their size is none of the schema.  And identifiers and
transactions are never used up.
-/

namespace WebhookMonitor

open Python Interaction Database

/-! ## Values and columns -/

/-- How a statement fails: with an exception of the database library, or with
another one. -/
inductive StatementError where
  | sqlAlchemyError
  | other (e : BuiltinError)
  deriving DecidableEq, Repr

/-- The columns of `github_deliveries`. -/
structure DeliveryColumns where
  deliveryGuid : Str
  hookId : ℤ
  deriving DecidableEq

/-- The columns of `delivery_attempts`.  A parameter is a Python value, a stored
timestamp an instant and a stored text a text or null. -/
structure AttemptColumns (text timestamp : Type) where
  attemptId : UUID
  githubDeliveryId : ℕ
  receivedAt : timestamp
  payloadSha256 : Str
  eventType : Str
  action : text
  repository : text
  sender : text
  installationTargetId : Option ℤ
  installationTargetType : Option Str

/-- The columns as the statement binds them. -/
abbrev AttemptParameters := AttemptColumns Json AwareDatetime

/-- The columns as the table keeps them. -/
abbrev StoredAttempt := AttemptColumns (Option Str) ℤ

def deliveryIdentityValues (attempt : DeliveryAttempt) : DeliveryColumns where
  deliveryGuid := attempt.deliveryIdentity.deliveryGuid
  hookId := attempt.deliveryIdentity.hookId

/-- `_installation_target_id_to_db`. -/
def installationTargetIdToDb : Option Str → Except BuiltinError (Option ℤ)
  | none => .ok none
  | some value => (orRaise .valueError (readInt value)).map some

/-- `_installation_target_id_from_db`. -/
def installationTargetIdFromDb (value : Option ℤ) : Option Str := value.map strInt

def deliveryAttemptValues (attempt : DeliveryAttempt) (githubDeliveryId : ℕ) :
    Except BuiltinError AttemptParameters := do
  let installationTargetId ← installationTargetIdToDb attempt.installationTargetId
  return { attemptId := attempt.attemptId
           githubDeliveryId
           receivedAt := attempt.receivedAt
           payloadSha256 := attempt.payloadSha256
           eventType := attempt.eventType
           action := attempt.action
           repository := attempt.repository
           sender := attempt.sender
           installationTargetId
           installationTargetType := attempt.installationTargetType }

/-! ## The driver and the server -/

/-- What the store relies on in the driver and the server: the time zone of the
session, what a text column keeps of a value that is neither text nor null, and
the greatest `LIMIT`. -/
structure Driver where
  timeZone : ℤ → Offset
  textOf : Json → Except StatementError (Option Str)
  maxLimit : ℕ

/-- A driver whose sessions are in UTC, for runs on fixed inputs. -/
def sampleDriver : Driver where
  timeZone _ := Offset.utc
  textOf _ := .error .sqlAlchemyError
  maxLimit := 2 ^ 31 - 1

/-- Text is sent as UTF-8; a column holds no zero character. -/
def bindText (s : Str) : Except StatementError Str :=
  if !isScalar s then .error (.other .unicodeEncodeError)
  else if s.any fun c => c.val = 0 then .error .sqlAlchemyError
  else .ok s

/-- A value of a nullable text column. -/
def Driver.bindNullableText (driver : Driver) : Json → Except StatementError (Option Str)
  | .null => .ok none
  | .str s => (bindText s).map some
  | value => driver.textOf value

/-- `BIGINT`. -/
def isBigint (n : ℤ) : Bool := -2 ^ 63 ≤ n && n < 2 ^ 63

/-- `length(btrim(s)) > 0`: `btrim` removes blanks only. -/
def notBlank (s : Str) : Bool := stripOf (fun c => c.val = 0x20) s ≠ []

/-- A timestamp in the time zone of the session; the driver refuses one outside
the years 1 to 9999. -/
def Driver.shown (driver : Driver) (instant : ℤ) : Option AwareDatetime :=
  let wall := instant + (driver.timeZone instant).val
  if h : 0 ≤ wall ∧ wall < 3652059 * 86400000000 then
    some ⟨⟨wall.toNat, by omega⟩, driver.timeZone instant⟩
  else none

/-- A shown timestamp denotes the stored instant. -/
theorem Driver.instant_of_shown {driver : Driver} {instant : ℤ} {t : AwareDatetime}
    (shown : driver.shown instant = some t) : t.instant = instant := by
  rw [Driver.shown] at shown
  split_ifs at shown with within
  · obtain rfl := Option.some.inj shown
    simp only [AwareDatetime.instant]
    omega

/-- A row of `github_deliveries` as the driver binds it and the check constraints
accept it. -/
def bindDelivery (values : DeliveryColumns) : Except StatementError DeliveryColumns := do
  let deliveryGuid ← bindText values.deliveryGuid
  if isBigint values.hookId && notBlank deliveryGuid && 0 < values.hookId then
    return { values with deliveryGuid }
  else throw .sqlAlchemyError

/-- `ck_delivery_attempts_installation_target_pair`. -/
def isTargetPair : Option ℤ → Option Str → Bool
  | none, none => true
  | some targetId, some targetType => 0 < targetId && notBlank targetType
  | _, _ => false

/-- A row of `delivery_attempts` as the driver binds it and the check constraints
accept it. -/
def Driver.bindAttempt (driver : Driver) (values : AttemptParameters) :
    Except StatementError StoredAttempt := do
  let payloadSha256 ← bindText values.payloadSha256
  let eventType ← bindText values.eventType
  let action ← driver.bindNullableText values.action
  let repository ← driver.bindNullableText values.repository
  let sender ← driver.bindNullableText values.sender
  let installationTargetType ← values.installationTargetType.mapM bindText
  if payloadSha256.length = 64 && values.installationTargetId.all isBigint &&
      isTargetPair values.installationTargetId installationTargetType then
    return { values with
      receivedAt := values.receivedAt.instant
      payloadSha256, eventType, action, repository, sender, installationTargetType }
  else throw .sqlAlchemyError

/-! ## Statements -/

/-- The statements of `add`, each in its transaction. -/
inductive SqlCall where
  | begin
  /-- `INSERT … ON CONFLICT DO NOTHING RETURNING id`. -/
  | insertDelivery (tx : ℕ) (values : DeliveryColumns)
  /-- `SELECT id … WHERE delivery_guid = … AND hook_id = …`. -/
  | selectDelivery (tx : ℕ) (values : DeliveryColumns)
  | insertAttempt (tx : ℕ) (values : AttemptParameters)
  | commit (tx : ℕ)
  | rollback (tx : ℕ)

@[reducible] def SqlCall.Answer : SqlCall → Type
  | .begin => Except StatementError ℕ
  | .insertDelivery .. => Except StatementError (Option ℕ)
  | .selectDelivery .. => Except StatementError (List ℕ)
  | .insertAttempt .. => Except StatementError Unit
  | .commit _ => Except StatementError Unit
  | .rollback _ => Unit

@[reducible] def Sql : Interface := ⟨SqlCall, SqlCall.Answer⟩

/-- The tables of the delivery store, and the number of transactions so far. -/
structure DeliveryDatabase where
  deliveries : Table DeliveryColumns
  attempts : Table StoredAttempt
  started : ℕ

namespace DeliveryDatabase

/-- New tables. -/
def empty : DeliveryDatabase := ⟨.empty, .empty, 0⟩

/-- The insert waits for another transaction that has inserted a row with the same
unique key. -/
def Waits (db : DeliveryDatabase) : SqlCall → Prop
  | .insertDelivery tx values => Table.Blocked id db.deliveries tx values
  | .insertAttempt tx values =>
      Table.Blocked AttemptColumns.attemptId db.attempts tx values.attemptId
  | _ => False

instance (db : DeliveryDatabase) (c : SqlCall) : Decidable (db.Waits c) := by
  unfold Waits Table.Blocked
  cases c <;> infer_instance

/-- The tables after the end of a transaction. -/
def commit (db : DeliveryDatabase) (tx : ℕ) : DeliveryDatabase :=
  { db with deliveries := db.deliveries.commit tx, attempts := db.attempts.commit tx }

def rollback (db : DeliveryDatabase) (tx : ℕ) : DeliveryDatabase :=
  { db with deliveries := db.deliveries.rollback tx, attempts := db.attempts.rollback tx }

/-- The answer to a statement and the tables after it.  The key of a new row is
generated before its constraints are checked. -/
def respond (driver : Driver) (db : DeliveryDatabase) : (c : SqlCall) → c.Answer × DeliveryDatabase
  | .begin => (.ok (db.started + 1), { db with started := db.started + 1 })
  | .insertDelivery tx values =>
      match bindDelivery values with
      | .error e => (.error e, db)
      | .ok values =>
          if (db.deliveries.visible tx).any fun row => row.values = values then
            (.ok none, { db with deliveries := db.deliveries.generate })
          else
            (.ok (some (db.deliveries.lastId + 1)),
              { db with deliveries := db.deliveries.insert tx values })
  | .selectDelivery tx values =>
      match bindDelivery values with
      | .error e => (.error e, db)
      | .ok values =>
          (.ok (((db.deliveries.visible tx).filter fun row => row.values = values).map Row.id), db)
  | .insertAttempt tx values =>
      match driver.bindAttempt values with
      | .error e => (.error e, db)
      | .ok row =>
          -- the unique constraint, and the foreign key
          if ((db.attempts.visible tx).any fun other => other.values.attemptId = row.attemptId) ||
              !(db.deliveries.visible tx).any fun delivery =>
                delivery.id = row.githubDeliveryId then
            (.error .sqlAlchemyError, { db with attempts := db.attempts.generate })
          else (.ok (), { db with attempts := db.attempts.insert tx row })
  | .commit tx => (.ok (), db.commit tx)
  | .rollback tx => ((), db.rollback tx)

end DeliveryDatabase

/-! ## The store -/

namespace PostgresDeliveryStore

/-- A program of the store. -/
abbrev Transaction (α : Type) := Program Sql AppError α

def storeError : AppError := .deliveryStore "Delivery store operation failed"

/-- Send a statement. -/
def send (c : SqlCall) : Transaction c.Answer := Program.perform (I := Sql) c

/-- Only the exceptions of the database library are turned into the store error. -/
def storeFailure : StatementError → AppError
  | .sqlAlchemyError => storeError
  | .other e => .python e

/-- The answer of a statement.  On the way from a failed one to the handler nothing
but the rollback happens. -/
def orStoreFailure {α : Type} : Except StatementError α → Transaction α
  | .ok a => .ret a
  | .error e => .raise (storeFailure e)

/-- `scalar_one`. -/
def scalarOne : List ℕ → Transaction ℕ
  | [id] => .ret id
  | _ => .raise storeError

/-- The surrogate key of the identity: of the inserted row, or of the one there. -/
def deliveryIdOf (tx : ℕ) (attempt : DeliveryAttempt) : Option ℕ → Transaction ℕ
  | some githubDeliveryId => .ret githubDeliveryId
  | none => do
      let found ← send (.selectDelivery tx (deliveryIdentityValues attempt))
      let ids ← orStoreFailure found
      scalarOne ids

/-- The end of the block under `with self._engine.begin()`. -/
def commit (tx : ℕ) : Transaction Unit := do
  let committed ← send (.commit tx)
  orStoreFailure committed

/-- The last statement of the block, and its end. -/
def insertAttempt (tx : ℕ) (attempt : DeliveryAttempt) (githubDeliveryId : ℕ) :
    Transaction Unit := do
  let values ← Program.ofExcept (uncaught (deliveryAttemptValues attempt githubDeliveryId))
  let inserted ← send (.insertAttempt tx values)
  orStoreFailure inserted
  commit tx

/-- The block under `with self._engine.begin()`. -/
def insertRows (tx : ℕ) (attempt : DeliveryAttempt) : Transaction Unit := do
  let inserted ← send (.insertDelivery tx (deliveryIdentityValues attempt))
  let inserted ← orStoreFailure inserted
  let githubDeliveryId ← deliveryIdOf tx attempt inserted
  insertAttempt tx attempt githubDeliveryId

/-- What leaving the block with an exception does. -/
def rollback (tx : ℕ) (e : AppError) : Transaction Unit := do
  send (.rollback tx)
  throw e

def add (attempt : DeliveryAttempt) : Transaction Unit := do
  let begun ← send .begin
  let tx ← orStoreFailure begun
  tryCatch (insertRows tx attempt) (rollback tx)

/-- `add` with no other transaction under way. -/
def addAlone (driver : Driver) (attempt : DeliveryAttempt) (db : DeliveryDatabase) :
    Except AppError Unit × DeliveryDatabase :=
  (add attempt).runWith (DeliveryDatabase.respond driver) db

/-! ## Queries -/

/-- A joined row. -/
structure JoinedRow where
  id : ℕ
  deliveryGuid : Str
  hookId : ℤ
  attempt : StoredAttempt

/-- The order of `_recent_attempts_statement`. -/
def JoinedRow.recentKey (row : JoinedRow) : ℤ ×ₗ ℕ := toLex (row.attempt.receivedAt, row.id)

/-- The order of `_attempts_page_statement`. -/
def JoinedRow.pageKey (row : JoinedRow) : ℤ ×ₗ UUID :=
  toLex (row.attempt.receivedAt, row.attempt.attemptId)

/-- `_base_attempts_statement`. -/
def baseAttempts (db : DeliveryDatabase) : List JoinedRow :=
  db.attempts.committed.flatMap fun attempt =>
    (db.deliveries.committed.filter fun delivery =>
      delivery.id = attempt.values.githubDeliveryId).map fun delivery =>
        ⟨attempt.id, delivery.values.deliveryGuid, delivery.values.hookId, attempt.values⟩

/-- `row_to_delivery_attempt`, with the reading of the timestamp before it. -/
def rowToDeliveryAttempt (driver : Driver) (row : JoinedRow) : Except AppError DeliveryAttempt := do
  let receivedAt ← match driver.shown row.attempt.receivedAt with
    | some receivedAt => .ok receivedAt
    | none => .error storeError
  let deliveryIdentity ← GitHubDeliveryIdentity.new row.deliveryGuid row.hookId
  DeliveryAttempt.new row.attempt.attemptId deliveryIdentity
    ⟨receivedAt.wall, some receivedAt.offset⟩ row.attempt.payloadSha256 row.attempt.eventType
    (nullable row.attempt.action) (nullable row.attempt.repository) (nullable row.attempt.sender)
    (installationTargetIdFromDb row.attempt.installationTargetId)
    row.attempt.installationTargetType
where
  /-- The value of a nullable text column. -/
  nullable : Option Str → Json
    | none => .null
    | some s => .str s

/-- `ORDER BY … LIMIT`, and the reading of the rows. -/
def fetchAll (driver : Driver) (limit : ℕ) (ordered : List JoinedRow) :
    Except AppError (List DeliveryAttempt) :=
  if limit ≤ driver.maxLimit then (ordered.take limit).mapM (rowToDeliveryAttempt driver)
  else .error storeError

def listRecent (driver : Driver) (listLimit : ℕ) (db : DeliveryDatabase) :
    Except AppError (List DeliveryAttempt) :=
  fetchAll driver listLimit (Pagination.newestFirst JoinedRow.recentKey (baseAttempts db))

/-- The `WHERE` clause of `_attempts_page_statement`. -/
def isAfter (after : DeliveryAttemptKeyset) (row : JoinedRow) : Bool :=
  row.attempt.receivedAt < after.receivedAt.instant ||
    (row.attempt.receivedAt = after.receivedAt.instant && row.attempt.attemptId < after.attemptId)

def listAttemptsPage (driver : Driver) (limit : ℕ) (after : Option DeliveryAttemptKeyset)
    (db : DeliveryDatabase) : Except AppError (List DeliveryAttempt) :=
  let statement := match after with
    | none => baseAttempts db
    | some after => (baseAttempts db).filter (isAfter after)
  fetchAll driver limit (Pagination.newestFirst JoinedRow.pageKey statement)

def getAttempt (driver : Driver) (attemptId : UUID) (db : DeliveryDatabase) :
    Except AppError (Option DeliveryAttempt) :=
  match (baseAttempts db).filter fun row => row.attempt.attemptId = attemptId with
  | [] => .ok none
  | [row] => (rowToDeliveryAttempt driver row).map some
  | _ => .error storeError

end PostgresDeliveryStore

end WebhookMonitor
