import WebhookMonitor.Deliveries.SchemaFit
import WebhookMonitor.Journal.Backends
import WebhookMonitor.Python.UrlPath
import WebhookMonitor.Redelivery.Safety

/-!
# Redeliveries and the schema of the journal

What the redelivery service writes to `recovery_actions`, once the target of a request
is verified, against the constraints of that table.

* `RecoveryAction.FitsSchema` — the check constraints and the ranges of the columns;
* `conclusionOf` — what the service finalizes its entry with, by the answer to the POST;
* `RedeliveryWorld` — a database that is available: a statement fails only for what the
  driver does not bind and the table does not take;
* `JournalHolds` — every row fits, the journal is never reported unavailable, and a
  completed POST ends in a terminal entry;
* `journalHolds_iff` — when that is so.

An identifier of a GitHub delivery is any integer here, the column has 64 bits; a status
is any the client got, the column takes those from 100 to 599.
-/

namespace WebhookMonitor

open Python Interaction Database

/-! ## The schema -/

/-- The check constraints of `recovery_actions`, and the ranges of its columns. -/
structure RecoveryAction.FitsSchema (row : RecoveryAction) : Prop where
  constraints : isStorable row = true
  hookId : isBigint row.hookId = true
  githubDeliveryId : isBigint row.githubDeliveryId = true
  upstreamStatusCode : row.upstreamStatusCode.all isBigint = true

/-! ## Conclusions -/

/-- What `_finalize_action` is called with, apart from the identifier. -/
structure Conclusion where
  state : RecoveryActionState
  upstreamStatusCode : Option ℤ
  failureCategory : Option Str

/-- The arguments of `finalize`. -/
def Conclusion.request (conclusion : Conclusion) (actionId : UUID) (completedAt : AwareDatetime) :
    FinalizeRequest :=
  ⟨actionId, conclusion.state.text, completedAt, conclusion.upstreamStatusCode,
    conclusion.failureCategory⟩

/-- What the service finalizes its entry with after an answer to the POST; nothing after
an exception that no clause names. -/
def conclusionOf (answer : Except HttpClientError HttpResponse) : Option Conclusion :=
  match submissionOutcome answer with
  | .ok () => some ⟨.accepted, some 202, none⟩
  | .error (.gitHubRedeliveryOutcomeUnknown _) =>
      some ⟨.outcomeUnknown, none, some "outcome_unknown"⟩
  | .error (.gitHubUpstreamProtocol e) =>
      some ⟨.failed, e.statusCode,
        some (GitHubRedeliveryService.categoryOr e.failureCategory "upstream_protocol")⟩
  | .error (.gitHubUpstreamUnavailable e) =>
      some ⟨.failed, e.statusCode,
        some (GitHubRedeliveryService.categoryOr e.failureCategory "upstream_unavailable")⟩
  | .error _ => none

/-- The POST got a response, or ended in an error of the transport. -/
def IsCompleted (answer : Except HttpClientError HttpResponse) : Prop :=
  ∀ e, answer = .error e → e.isRequestError = true

section Conclusions

variable {service : GitHubRedeliveryService} {answer : Except HttpClientError HttpResponse}

/-- What is left of a request after the POST. -/
def conclude (service : GitHubRedeliveryService) (answer : Except HttpClientError HttpResponse)
    (actionId : UUID) (result : GitHubRedeliveryResult) : Action GitHubRedeliveryResult :=
  match conclusionOf answer with
  | some c => do
      service.finalizeAction actionId c.state c.upstreamStatusCode c.failureCategory
      Program.ofExcept ((submissionOutcome answer).map fun _ => result)
  | none => Program.ofExcept ((submissionOutcome answer).map fun _ => result)

/-- After the POST the entry is finalized with the conclusion, and the outcome of the POST
is returned or raised. -/
theorem conclude_eq (actionId : UUID) (result : GitHubRedeliveryResult) :
    (do
      tryCatch (Program.ofExcept (submissionOutcome answer)) (service.finalizeFailure actionId)
      service.finalizeAction actionId .accepted (some 202) none
      return result : Action GitHubRedeliveryResult) = conclude service answer actionId result := by
  rw [conclude, conclusionOf]
  cases submissionOutcome answer with
  | ok u => rfl
  | error e =>
      cases e with
      | gitHubRedeliveryOutcomeUnknown | gitHubUpstreamProtocol | gitHubUpstreamUnavailable =>
          exact Program.bind_bind _ _ _
      | _ => rfl

end Conclusions

/-! ## A database that is available -/

/-- What is outside the service and its database: the answers of the clock, of the
generator of identifiers and of GitHub, by what has happened so far, and what other calls
make of the database while the POST is awaited. -/
structure Outside where
  answer : History → (c : Call) → c.Answer
  meanwhile : JournalDatabase → JournalDatabase

/-- The events of a call so far, and the database. -/
structure RedeliveryWorld where
  history : History
  db : JournalDatabase

namespace PostgresRecoveryActionStore

/-- The guarded update, in a transaction of its own. -/
def updateInitiated (request : FinalizeRequest) (state : RecoveryActionState) :
    Transaction (Option RecoveryAction) :=
  transaction fun tx => do
    let updated ← send (.updateInitiated tx request state)
    let row ← orStoreFailure updated
    commit tx
    return row

/-- The query after a guarded update that found no row. -/
def selectState (actionId : UUID) : Transaction (Option (UUID × RecoveryActionState)) :=
  transaction fun tx => do
    let selected ← send (.selectState tx actionId)
    let state ← orStoreFailure selected
    commit tx
    return state.map fun state => (actionId, state)

end PostgresRecoveryActionStore

namespace RedeliveryWorld

/-- The exceptions of the database library are answers; any other leaves the call. -/
def sqlAnswer {α : Type} : Except AppError α → Except AppError (Except SqlError α)
  | .ok a => .ok (.ok a)
  | .error (.recoveryActionStore _) => .ok (.error .sqlAlchemyError)
  | .error e => .error e

/-- The world after a statement. -/
def settle {α : Type} (w : RedeliveryWorld) (event : Except SqlError α → Event Effects)
    (ran : Except AppError α × JournalDatabase) :
    Except AppError (Except SqlError α) × RedeliveryWorld :=
  match sqlAnswer ran.1 with
  | .ok a => (.ok a, ⟨w.history ++ [event a], ran.2⟩)
  | .error e => (.error e, ⟨w.history, ran.2⟩)

section Settle

variable {α : Type} {w : RedeliveryWorld} {event : Except SqlError α → Event Effects}
  {ran : Except AppError α × JournalDatabase}

theorem settle_ok {a : α} (returned : ran.1 = .ok a) :
    w.settle event ran = (.ok (.ok a), ⟨w.history ++ [event (.ok a)], ran.2⟩) := by
  rw [settle, returned]
  rfl

theorem settle_refused {message : String}
    (refused : ran.1 = .error (.recoveryActionStore message)) :
    w.settle event ran =
      (.ok (.error .sqlAlchemyError), ⟨w.history ++ [event (.error .sqlAlchemyError)], ran.2⟩) := by
  rw [settle, refused]
  rfl

theorem settle_raised {e : BuiltinError} (raised : ran.1 = .error (.python e)) :
    w.settle event ran = (.error (.python e), ⟨w.history, ran.2⟩) := by
  rw [settle, raised]
  rfl

end Settle

/-- The answer to a call, and the world after it. -/
def respond (driver : Driver) (outside : Outside) (w : RedeliveryWorld) :
    (c : Call) → Except AppError c.Answer × RedeliveryWorld
  | .insert entry => w.settle (fun a => ⟨.insert entry, a⟩)
      ((PostgresRecoveryActionStore.transaction
        (PostgresRecoveryActionStore.insertAction entry)).runWith
          (JournalDatabase.respond driver) w.db)
  | .updateInitiated request state => w.settle (fun a => ⟨.updateInitiated request state, a⟩)
      ((PostgresRecoveryActionStore.updateInitiated request state).runWith
        (JournalDatabase.respond driver) w.db)
  | .selectState actionId => w.settle (fun a => ⟨.selectState actionId, a⟩)
      ((PostgresRecoveryActionStore.selectState actionId).runWith
        (JournalDatabase.respond driver) w.db)
  | .httpPost path =>
      (.ok (outside.answer w.history (.httpPost path)),
        ⟨w.history ++ [⟨.httpPost path, outside.answer w.history (.httpPost path)⟩],
          outside.meanwhile w.db⟩)
  | c => (.ok (outside.answer w.history c), ⟨w.history ++ [⟨c, outside.answer w.history c⟩], w.db⟩)

end RedeliveryWorld

/-- The database is available: no transaction is under way and the table is within its
schema, the identifiers of the call are new, the session can show the times of the clock,
and other calls leave the entry of this one alone. -/
structure Available (driver : Driver) (outside : Outside) (actions : List RecoveryAction)
    (db : JournalDatabase) : Prop where
  same : SameJournal driver actions db
  fresh : ∀ h, outside.answer h .uuid4 ∉ actions.map RecoveryAction.actionId
  shown : ∀ h, (driver.shown (AwareDatetime.utc (outside.answer h .now)).instant).isSome = true
  spares : ∀ {actions db}, SameJournal driver actions db →
    ∃ actions', SameJournal driver actions' (outside.meanwhile db) ∧
      ∀ row ∈ actions, (∃ h, row.actionId = outside.answer h .uuid4) → row ∈ actions'

/-! ### Statements by themselves -/

section Statements

variable {driver : Driver} {actions : List RecoveryAction} {db : JournalDatabase}

open PostgresRecoveryActionStore

/-- A row that the driver does not bind is not inserted. -/
theorem insertAction_unbound {entry : RecoveryAction} {e : StatementError}
    (unbound : Driver.bindAction entry = .error e) :
    ((transaction (insertAction entry)).runWith (JournalDatabase.respond driver) db).1 =
      .error (storeFailure e) := by
  have responded : db.begun.respond driver (.insertAction (db.started + 1) entry) =
      (.error e, db.begun) := by
    rw [JournalDatabase.respond, unbound]
  rw [runWith_transaction, insertAction, send, Program.perform_bind, Program.runWith_call,
    responded]
  rfl

/-- A new row within the schema is inserted. -/
theorem insertAction_ok (same : SameJournal driver actions db) {entry : RecoveryAction}
    (bound : Driver.bindAction entry = .ok ()) (storable : isStorable entry = true)
    (fresh : entry.actionId ∉ actions.map RecoveryAction.actionId)
    (shown : entry.IsShown driver) :
    ∃ row db', (transaction (insertAction entry)).runWith (JournalDatabase.respond driver) db =
        (.ok row, db') ∧ row.Denotes entry ∧ SameJournal driver (entry :: actions) db' := by
  obtain ⟨row, read, denotes⟩ := showAction_of_isShown shown
  have absent : ((db.begun.visible (db.started + 1)).any fun other =>
      other.actionId = entry.actionId) = false := by
    rw [same.begun.visible, List.any_eq_false]
    intro other mem named
    exact fresh (List.mem_map.mpr ⟨other, mem, of_decide_eq_true named⟩)
  have responded : db.begun.respond driver (.insertAction (db.started + 1) entry) =
      (.ok row, db.begun.write (db.started + 1) (.inserted entry)) := by
    rw [JournalDatabase.respond, bound]
    dsimp only
    rw [storable, absent, read]
    rfl
  refine ⟨row, _, ?_, denotes, same.begun.inserted fresh storable shown (db.started + 1)⟩
  rw [runWith_transaction, insertAction, send, Program.perform_bind, Program.runWith_call,
    responded]
  rfl

/-- An initiated entry is finalized with an outcome within the schema. -/
theorem updateInitiated_ok (same : SameJournal driver actions db) {entry : RecoveryAction}
    {request : FinalizeRequest} {state : RecoveryActionState} (mem : entry ∈ actions)
    (named : entry.actionId = request.actionId) (initiated : entry.state = .initiated)
    (bound : Driver.bindOutcome request.upstreamStatusCode request.failureCategory = .ok ())
    (storable : isStorable (entry.finalized request state) = true)
    (shown : (entry.finalized request state).IsShown driver) :
    ∃ row db', (updateInitiated request state).runWith (JournalDatabase.respond driver) db =
        (.ok (some row), db') ∧
      SameJournal driver
        (Records.replace RecoveryAction.actionId entry.actionId (entry.finalized request state)
          actions) db' := by
  obtain ⟨row, read, -⟩ := showAction_of_isShown shown
  have found : ((db.begun.visible (db.started + 1)).find? fun row =>
      row.actionId = request.actionId && row.state = .initiated) = some entry := by
    rw [same.begun.visible, find?_initiated same.distinct, ← List.head?_filter,
      filter_eq_singleton same.distinct mem named, List.head?_cons, Option.filter_some,
      if_pos (decide_eq_true initiated)]
  have responded : db.begun.respond driver (.updateInitiated (db.started + 1) request state) =
      (.ok (some row), db.begun.write (db.started + 1)
        (.updated (entry.finalized request state))) := by
    rw [JournalDatabase.respond, bound]
    dsimp only
    rw [found]
    dsimp only
    rw [if_pos storable, read]
  refine ⟨row, _, ?_, same.begun.updated storable shown (db.started + 1)⟩
  rw [updateInitiated, runWith_transaction, send, Program.perform_bind, Program.runWith_call,
    responded]
  rfl

end Statements

/-! ## The property -/

/-- The run of a request from its verified target on. -/
def submission (driver : Driver) (outside : Outside) (service : GitHubRedeliveryService)
    (request : RedeliveryRequest) (owner repository : Str) (db : JournalDatabase) :
    Except AppError GitHubRedeliveryResult × RedeliveryWorld :=
  (service.submitVerified request owner repository).runRaising
    (RedeliveryWorld.respond driver outside) ⟨[], db⟩

/-- An available database at which the POST is answered in this way. -/
structure Submits (driver : Driver) (outside : Outside) (actions : List RecoveryAction)
    (db : JournalDatabase) (service : GitHubRedeliveryService)
    (answer : Except HttpClientError HttpResponse) : Prop extends
    Available driver outside actions db where
  store : service.recoveryActionStore = postgresRecoveryActionStore
  answered : ∀ h path, outside.answer h (.httpPost path) = answer

/-- What is asked of the journal for a request and an answer to its POST. -/
structure JournalHolds (driver : Driver) (request : RedeliveryRequest) (owner repository : Str)
    (answer : Except HttpClientError HttpResponse) : Prop where
  created : ∀ actionId requestedAt, (initiatedAction actionId
    (GitHubRedeliveryService.createRequest request owner repository requestedAt)).FitsSchema
  finalized : ∀ actionId requestedAt completedAt c, conclusionOf answer = some c →
    ((initiatedAction actionId (GitHubRedeliveryService.createRequest request owner repository
      requestedAt)).finalized (c.request actionId completedAt) c.state).FitsSchema
  available : ∀ {outside actions db service}, Submits driver outside actions db service answer →
    ∀ message, (submission driver outside service request owner repository db).1 ≠
      .error (.gitHubRedeliveryJournalUnavailable message)
  terminal : ∀ {outside actions db service}, Submits driver outside actions db service answer →
    IsCompleted answer →
    submissions (submission driver outside service request owner repository db).2.history ≠ [] →
    ∃ id ∈ issued (submission driver outside service request owner repository db).2.history,
      ∃ row ∈
          (submission driver outside service request owner repository db).2.db.actions.committed,
        row.actionId = id ∧ row.state.isTerminal = true

/-- The texts of an authorization, as the driver binds them. -/
def bindAuthorization (authorization : ManagementAuthorization) : Except StatementError Unit := do
  let _ ← authorization.principal.issuer.mapM bindText
  let _ ← authorization.principal.subject.mapM bindText
  let _ ← authorization.principal.clientId.mapM bindText
  let _ ← authorization.matchedScope.mapM bindText
  return ()

/-- An attempt that the database has stored. -/
structure DeliveryAttempt.IsStored (driver : Driver) (attempt : DeliveryAttempt) : Prop where
  fits : attempt.RowsFit
  kept : attempt.KeepsText driver

/-! ### Rows -/

section Rows

variable {driver : Driver} {request : RedeliveryRequest} {owner repository : Str}
  {answer : Except HttpClientError HttpResponse}

/-- The status of a response is within the constraint of the journal. -/
def HasJournalStatus (answer : Except HttpClientError HttpResponse) : Prop :=
  ∀ response, answer = .ok response → 100 ≤ response.statusCode ∧ response.statusCode ≤ 599

/-- What the journal records as the status is the status of the response. -/
theorem conclusionOf_status {c : Conclusion} (concluded : conclusionOf answer = some c) :
    c.state.isTerminal = true ∧
      c.upstreamStatusCode = answer.toOption.map HttpResponse.statusCode := by
  rw [conclusionOf] at concluded
  cases answer with
  | error e =>
      rw [submissionOutcome] at concluded
      split_ifs at concluded
      · cases concluded
        exact ⟨rfl, rfl⟩
      · cases concluded
        exact ⟨rfl, rfl⟩
  | ok response =>
      rw [submissionOutcome, redeliveryOutcome] at concluded
      split_ifs at concluded with accepted
      · cases concluded
        exact ⟨rfl, congrArg some accepted.symm⟩
      · cases concluded
        exact ⟨rfl, rfl⟩
      · cases concluded
        exact ⟨rfl, rfl⟩
      · cases concluded
        exact ⟨rfl, rfl⟩

/-- The category of a conclusion is one of a few texts. -/
theorem conclusionOf_category {c : Conclusion} (concluded : conclusionOf answer = some c) :
    ∃ column, c.failureCategory.mapM bindText = .ok column := by
  rw [conclusionOf] at concluded
  cases answer with
  | error e =>
      rw [submissionOutcome] at concluded
      split_ifs at concluded
      · cases concluded
        exact ⟨_, rfl⟩
      · cases concluded
        exact ⟨_, rfl⟩
  | ok response =>
      rw [submissionOutcome, redeliveryOutcome] at concluded
      split_ifs at concluded
      · cases concluded
        exact ⟨_, rfl⟩
      · cases concluded
        exact ⟨_, rfl⟩
      · cases concluded
        exact ⟨_, rfl⟩
      · cases concluded
        dsimp only
        rw [redeliveryProtocolFailureCategory]
        split_ifs
        · exact ⟨_, rfl⟩
        · exact ⟨_, rfl⟩
        · exact ⟨_, rfl⟩

/-- A conclusion with such a status is bound. -/
theorem bindOutcome_conclusion {c : Conclusion} (concluded : conclusionOf answer = some c)
    (range : c.upstreamStatusCode.all isBigint = true) :
    Driver.bindOutcome c.upstreamStatusCode c.failureCategory = .ok () := by
  obtain ⟨column, bound⟩ := conclusionOf_category concluded
  rw [Driver.bindOutcome, bound, ok_bind, if_pos range]
  rfl

/-- A POST that is completed has a conclusion. -/
theorem exists_conclusion (completed : IsCompleted answer) : ∃ c, conclusionOf answer = some c := by
  rw [conclusionOf]
  cases answer with
  | error e =>
      rw [submissionOutcome]
      split_ifs with connect transport
      · exact ⟨_, rfl⟩
      · exact ⟨_, rfl⟩
      · exact absurd (completed e rfl) transport
  | ok response =>
      rw [submissionOutcome, redeliveryOutcome]
      split_ifs
      · exact ⟨_, rfl⟩
      · exact ⟨_, rfl⟩
      · exact ⟨_, rfl⟩
      · exact ⟨_, rfl⟩

/-- The entry of a stored attempt fits exactly when the identifier of the delivery is
within 64 bits. -/
theorem fitsSchema_initiated_iff (stored : request.attempt.IsStored driver)
    (positive : 0 < request.githubDeliveryId) (actionId : UUID) (requestedAt : AwareDatetime) :
    (initiatedAction actionId (GitHubRedeliveryService.createRequest request owner repository
      requestedAt)).FitsSchema ↔ request.githubDeliveryId < 2 ^ 63 := by
  constructor
  · intro fits
    exact (isBigint_iff_of_pos positive).mp fits.githubDeliveryId
  · intro within
    have nonblank : notBlank (owner ++ Str.lit "/" ++ repository) = true := by
      refine notBlank_of_strip fun blank => ?_
      have slash : CodePoint.ofChar '/' ∈ owner ++ Str.lit "/" ++ repository := by
        rw [List.mem_append, List.mem_append]
        exact .inl (.inr (List.mem_singleton_self _))
      exact absurd (stripOf_eq_nil_iff.mp blank _ slash) (by decide)
    refine ⟨?_, stored.fits.delivery.range, (isBigint_iff_of_pos positive).mpr within, rfl⟩
    have guid := notBlank_of_strip request.attempt.deliveryIdentity.guid_nonblank
    have hook := request.attempt.deliveryIdentity.hookId_pos
    simp only [isStorable, Bool.and_eq_true, decide_eq_true_eq]
    exact ⟨⟨⟨⟨⟨guid, hook⟩, nonblank⟩, positive⟩, rfl⟩, rfl⟩

/-- With an outcome it still fits exactly when the status is within the constraint. -/
theorem fitsSchema_finalized_iff {entry : RecoveryAction} (fits : entry.FitsSchema)
    {c : Conclusion} (concluded : conclusionOf answer = some c) (actionId : UUID)
    (completedAt : AwareDatetime) :
    (entry.finalized (c.request actionId completedAt) c.state).FitsSchema ↔
      HasJournalStatus answer := by
  obtain ⟨terminal, status⟩ := conclusionOf_status concluded
  have terminal : RecoveryActionState.terminalOfText (c.request actionId completedAt).state =
      some c.state := RecoveryActionState.terminalOfText_text terminal
  -- the check on the status is the only one that the answer decides
  have within : c.upstreamStatusCode.all (fun n => 100 ≤ n && n ≤ 599) = true ↔
      HasJournalStatus answer := by
    rw [status]
    cases answer with
    | error e => exact iff_of_true rfl fun response given => by cases given
    | ok response =>
        simp only [Except.toOption, Option.map_some, Option.all_some, Bool.and_eq_true,
          decide_eq_true_eq]
        constructor
        · rintro within response' given
          cases given
          exact within
        · exact fun within => within response rfl
  rw [← within]
  constructor
  · intro fits'
    have constraints := fits'.constraints
    simp only [isStorable, Bool.and_eq_true] at constraints
    exact constraints.1.2
  · intro proper
    refine ⟨isStorable_finalized fits.constraints terminal proper, fits.hookId,
      fits.githubDeliveryId, ?_⟩
    change c.upstreamStatusCode.all isBigint = true
    cases code : c.upstreamStatusCode with
    | none => rfl
    | some n =>
        rw [code, Option.all_some, Bool.and_eq_true, decide_eq_true_eq, decide_eq_true_eq] at proper
        rw [Option.all_some, isBigint_iff_of_pos (by omega)]
        omega

/-- The repository of a stored attempt is text that a column keeps. -/
theorem bindText_repository (stored : request.attempt.IsStored driver)
    (coordinates : repositoryCoordinates request.attempt = .ok (owner, repository)) :
    bindText (owner ++ Str.lit "/" ++ repository) = .ok (owner ++ Str.lit "/" ++ repository) := by
  obtain ⟨column, bound⟩ := stored.kept.repository
  rw [eq_of_repositoryCoordinates coordinates] at bound
  obtain ⟨text, kept, -⟩ := map_eq_ok.mp bound
  exact isOk_bindText_iff.mp ⟨text, kept⟩

/-- Of the row of an entry within the schema only the texts of the authorization can fail
to be bound. -/
theorem bindAction_eq (stored : request.attempt.IsStored driver)
    (coordinates : repositoryCoordinates request.attempt = .ok (owner, repository))
    (positive : 0 < request.githubDeliveryId) (within : request.githubDeliveryId < 2 ^ 63)
    (actionId : UUID) (requestedAt : AwareDatetime) :
    Driver.bindAction (initiatedAction actionId (GitHubRedeliveryService.createRequest request
      owner repository requestedAt)) = bindAuthorization request.authorization := by
  have fits : (initiatedAction actionId (GitHubRedeliveryService.createRequest request owner
      repository requestedAt)).FitsSchema :=
    (fitsSchema_initiated_iff stored positive actionId requestedAt).mpr within
  have ranges : (isBigint request.attempt.deliveryIdentity.hookId &&
      isBigint request.githubDeliveryId) = true :=
    Bool.and_eq_true _ _ ▸ ⟨fits.hookId, fits.githubDeliveryId⟩
  rw [Driver.bindAction, bindAuthorization]
  change (bindText request.attempt.deliveryIdentity.deliveryGuid >>= fun _ =>
    bindText (owner ++ Str.lit "/" ++ repository) >>= fun _ => _) = _
  rw [stored.kept.guid, ok_bind, bindText_repository stored coordinates, ok_bind]
  change (request.authorization.principal.issuer.mapM bindText >>= fun _ =>
    request.authorization.principal.subject.mapM bindText >>= fun _ =>
    request.authorization.principal.clientId.mapM bindText >>= fun _ =>
    request.authorization.matchedScope.mapM bindText >>= fun _ => _) = _
  cases request.authorization.principal.issuer.mapM bindText with
  | error e => rfl
  | ok _ =>
  cases request.authorization.principal.subject.mapM bindText with
  | error e => rfl
  | ok _ =>
  cases request.authorization.principal.clientId.mapM bindText with
  | error e => rfl
  | ok _ =>
  cases request.authorization.matchedScope.mapM bindText with
  | error e => rfl
  | ok _ => exact if_pos ranges

/-- The path of the POST can be built. -/
theorem exists_redeliveryPath (stored : request.attempt.IsStored driver)
    (coordinates : repositoryCoordinates request.attempt = .ok (owner, repository))
    (hookId githubDeliveryId : ℤ) :
    ∃ path, repositoryRedeliveryPath owner repository hookId githubDeliveryId = .ok path := by
  have kept := bindText_repository stored coordinates
  have scalar : isScalar (owner ++ Str.lit "/" ++ repository) = true := by
    rw [bindText] at kept
    split_ifs at kept with foreign
    simpa using foreign
  have first : isScalar owner = true := isScalar_of_subset (fun c mem => by simp [mem]) scalar
  have second : isScalar repository = true := isScalar_of_subset (fun c mem => by simp [mem]) scalar
  obtain ⟨owner', quoted⟩ := quote_eq_some_iff.mpr first
  obtain ⟨repository', quoted'⟩ := quote_eq_some_iff.mpr second
  rw [repositoryRedeliveryPath, quoted, quoted']
  exact ⟨_, rfl⟩

end Rows

/-! ### Runs -/

/-- The result of a request that is accepted. -/
def acceptedResult (request : RedeliveryRequest) (actionId : UUID) : GitHubRedeliveryResult :=
  { actionId, attempt := request.attempt, githubDeliveryId := request.githubDeliveryId,
    status := "accepted" }

/-- What is left of a request after the answer to its INSERT. -/
def afterInsert (service : GitHubRedeliveryService) (request : RedeliveryRequest)
    (owner repository : Str) : Except SqlError RecoveryAction → Action GitHubRedeliveryResult
  | .error _ => .raise (.gitHubRedeliveryJournalUnavailable "Recovery action journal unavailable")
  | .ok row => do
      tryCatch (requestRepositoryWebhookRedelivery owner repository
        request.attempt.deliveryIdentity.hookId request.githubDeliveryId)
        (service.finalizeFailure row.actionId)
      service.finalizeAction row.actionId .accepted (some 202) none
      return acceptedResult request row.actionId

section Runs

variable {driver : Driver} {outside : Outside} {actions : List RecoveryAction}
  {db : JournalDatabase} {service : GitHubRedeliveryService} {request : RedeliveryRequest}
  {owner repository : Str} {answer : Except HttpClientError HttpResponse}

/-- A request from its verified target on, by its first calls. -/
theorem submitVerified_eq (store : service.recoveryActionStore = postgresRecoveryActionStore) :
    service.submitVerified request owner repository =
      (.call .now fun wall => .call .uuid4 fun actionId =>
        .call (.insert (initiatedAction actionId (GitHubRedeliveryService.createRequest request
          owner repository (AwareDatetime.utc wall))))
          (afterInsert service request owner repository) :
        Action GitHubRedeliveryResult) := by
  rw [GitHubRedeliveryService.submitVerified, store, nowUtc_bind]
  change (Program.call Call.now _ : Action GitHubRedeliveryResult) = _
  congr 1
  funext wall
  change (Program.call Call.uuid4 _ : Action GitHubRedeliveryResult) = _
  congr 1
  funext actionId
  change (Program.call (Call.insert _) _ : Action GitHubRedeliveryResult) = _
  congr 1
  funext inserted
  cases inserted with
  | error e => rfl
  | ok row => rfl

/-- `finalize` begins with the guarded update, and returns the row that it finds. -/
theorem finalize_eq_call {finalization : FinalizeRequest} {state : RecoveryActionState}
    (terminal : RecoveryActionState.terminalOfText finalization.state = some state) :
    ∃ k, postgresRecoveryActionStore.finalize finalization =
        (.call (.updateInitiated finalization state) k : Action RecoveryAction) ∧
      ∀ row, k (.ok (some row)) = .ret row := by
  unfold postgresRecoveryActionStore
  dsimp only
  rw [terminal]
  exact ⟨_, rfl, fun row => rfl⟩

/-- Finalizing an entry, when the guarded update finds it. -/
theorem finalizeAction_run (store : service.recoveryActionStore = postgresRecoveryActionStore)
    {state : RecoveryActionState} (terminal : state.isTerminal = true) {actionId : UUID}
    {status : Option ℤ} {category : Option Str} {w w' : RedeliveryWorld} {row : RecoveryAction}
    (updated : RedeliveryWorld.respond driver outside
      ⟨w.history ++ [⟨.now, outside.answer w.history .now⟩], w.db⟩
      (.updateInitiated ⟨actionId, state.text,
        AwareDatetime.utc (outside.answer w.history .now), status, category⟩ state) =
        (.ok (.ok (some row)), w')) :
    (service.finalizeAction actionId state status category).runRaising
      (RedeliveryWorld.respond driver outside) w = (.ok (), w') := by
  obtain ⟨k, called, returned⟩ := @finalize_eq_call ⟨actionId, state.text,
    AwareDatetime.utc (outside.answer w.history .now), status, category⟩ state
    (RecoveryActionState.terminalOfText_text terminal)
  rw [GitHubRedeliveryService.finalizeAction, store, GitHubRedeliveryService.journalUnavailable,
    nowUtc_bind]
  change (Program.call Call.now _ : Action Unit).runRaising _ _ = _
  rw [Program.runRaising_call _ rfl]
  dsimp only
  rw [called]
  change (Program.call (Call.updateInitiated _ _) _ : Action Unit).runRaising _ _ = _
  rw [Program.runRaising_call _ updated]
  dsimp only
  rw [returned]
  rfl

/-- The outcome of the POST is never that the journal is unavailable. -/
theorem submissionOutcome_ne {message : String} {result : GitHubRedeliveryResult} :
    ((submissionOutcome answer).map fun _ => result) ≠
      .error (.gitHubRedeliveryJournalUnavailable message) := by
  intro raised
  rw [map_eq_error] at raised
  cases answer with
  | error e =>
      rw [submissionOutcome] at raised
      split_ifs at raised
      · cases raised
      · cases raised
      · cases raised
  | ok response =>
      rw [submissionOutcome, redeliveryOutcome] at raised
      split_ifs at raised
      · cases raised
      · cases raised
      · cases raised

/-- The time, the identifier and the entry of a request. -/
def Outside.requestedAt (outside : Outside) : AwareDatetime :=
  AwareDatetime.utc (outside.answer [] .now)

def Outside.actionId (outside : Outside) : UUID :=
  outside.answer [⟨.now, outside.answer [] .now⟩] .uuid4

def Outside.entry (outside : Outside) (request : RedeliveryRequest) (owner repository : Str) :
    RecoveryAction :=
  initiatedAction outside.actionId
    (GitHubRedeliveryService.createRequest request owner repository outside.requestedAt)

/-- The world when the entry is to be inserted. -/
def Outside.journalling (outside : Outside) (db : JournalDatabase) : RedeliveryWorld :=
  ⟨[⟨.now, outside.answer [] .now⟩, ⟨.uuid4, outside.actionId⟩], db⟩

/-- The run of a request, up to its INSERT. -/
theorem submission_eq (store : service.recoveryActionStore = postgresRecoveryActionStore) :
    submission driver outside service request owner repository db =
      (Program.call (Call.insert (outside.entry request owner repository))
        (afterInsert service request owner repository) : Action GitHubRedeliveryResult).runRaising
          (RedeliveryWorld.respond driver outside) (outside.journalling db) := by
  rw [submission, submitVerified_eq store, Program.runRaising_call _ rfl,
    Program.runRaising_call _ rfl]
  rfl

/-- A row that the library refuses: the journal is reported unavailable, and nothing is
submitted. -/
theorem submission_refused (store : service.recoveryActionStore = postgresRecoveryActionStore)
    (unbound : Driver.bindAction (outside.entry request owner repository) =
      .error .sqlAlchemyError) :
    (submission driver outside service request owner repository db).1 =
      .error (.gitHubRedeliveryJournalUnavailable "Recovery action journal unavailable") := by
  have refused := @insertAction_unbound driver db _ _ unbound
  rw [submission_eq store, Program.runRaising_call _ (RedeliveryWorld.settle_refused refused)]
  rfl

/-- A row whose text has no UTF-8 form: the exception leaves the request, and nothing is
submitted. -/
theorem submission_raised (store : service.recoveryActionStore = postgresRecoveryActionStore)
    {e : BuiltinError} (unbound : Driver.bindAction (outside.entry request owner repository) =
      .error (.other e)) :
    (submission driver outside service request owner repository db).1 = .error (.python e) ∧
      submissions (submission driver outside service request owner repository db).2.history =
        [] := by
  have raised := @insertAction_unbound driver db _ _ unbound
  rw [submission_eq store, Program.runRaising_call_raised _ (RedeliveryWorld.settle_raised raised)]
  exact ⟨rfl, rfl⟩

/-- After the INSERT the POST is sent, and its answer concluded. -/
theorem afterInsert_run {path : Str} {row : RecoveryAction}
    (built : repositoryRedeliveryPath owner repository request.attempt.deliveryIdentity.hookId
      request.githubDeliveryId = .ok path)
    (answered : ∀ h path, outside.answer h (.httpPost path) = answer) (w : RedeliveryWorld) :
    (afterInsert service request owner repository (.ok row)).runRaising
        (RedeliveryWorld.respond driver outside) w =
      (conclude service answer row.actionId (acceptedResult request row.actionId)).runRaising
        (RedeliveryWorld.respond driver outside)
        ⟨w.history ++ [⟨.httpPost path, answer⟩], outside.meanwhile w.db⟩ := by
  have posted : RedeliveryWorld.respond driver outside w (.httpPost path) =
      (.ok answer, ⟨w.history ++ [⟨.httpPost path, answer⟩], outside.meanwhile w.db⟩) := by
    rw [RedeliveryWorld.respond, answered]
  rw [← conclude_eq, afterInsert, requestRepositoryWebhookRedelivery, built, uncaught_ok,
    Program.ofExcept_ok, Program.ret_bind, invoke_bind]
  change (Program.call (Call.httpPost path) _ : Action GitHubRedeliveryResult).runRaising _ _ = _
  rw [Program.runRaising_call _ posted]
  rfl

/-- An entry that is still initiated is finalized with the conclusion, and the outcome of
the POST is returned or raised. -/
theorem conclude_run (submits : Submits driver outside actions db service answer)
    (status : HasJournalStatus answer) {entry : RecoveryAction} (fits : entry.FitsSchema)
    (initiated : entry.state = .initiated) (requestedAt : entry.IsShown driver)
    {result : GitHubRedeliveryResult} {w : RedeliveryWorld} {actions' : List RecoveryAction}
    (same : SameJournal driver actions' w.db) (mem : entry ∈ actions') :
    ∃ w', (conclude service answer entry.actionId result).runRaising
        (RedeliveryWorld.respond driver outside) w =
          ((submissionOutcome answer).map fun _ => result, w') ∧
      w.history <+: w'.history ∧
      (IsCompleted answer → ∃ row ∈ w'.db.actions.committed,
        row.actionId = entry.actionId ∧ row.state.isTerminal = true) := by
  rw [conclude]
  cases concluded : conclusionOf answer with
  -- an answer that raises something else leaves the entry initiated
  | none =>
      refine ⟨w, Program.runRaising_ofExcept _ _ _, List.prefix_rfl, fun completed => ?_⟩
      obtain ⟨c, some⟩ := exists_conclusion completed
      rw [concluded] at some
      cases some
  | some c =>
      obtain ⟨terminal, -⟩ := conclusionOf_status concluded
      generalize hnow : outside.answer w.history .now = wall
      have fits' := (fitsSchema_finalized_iff fits concluded entry.actionId
        (AwareDatetime.utc wall)).mpr status
      have shown : (entry.finalized (c.request entry.actionId (AwareDatetime.utc wall))
          c.state).IsShown driver := by
        refine ⟨requestedAt.requestedAt, ?_⟩
        rintro t completed
        cases completed
        exact hnow ▸ submits.shown w.history
      have outcome := bindOutcome_conclusion concluded fits'.upstreamStatusCode
      obtain ⟨row, db', updated, same'⟩ := updateInitiated_ok same mem
        (rfl : entry.actionId = (c.request entry.actionId (AwareDatetime.utc wall)).actionId)
        initiated outcome fits'.constraints shown
      -- the one statement, after the clock
      have answered : RedeliveryWorld.respond driver outside
          ⟨w.history ++ [⟨.now, outside.answer w.history .now⟩], w.db⟩
          (.updateInitiated (c.request entry.actionId
            (AwareDatetime.utc (outside.answer w.history .now))) c.state) =
          (.ok (.ok (some row)), ⟨w.history ++ [⟨.now, outside.answer w.history .now⟩] ++
            [⟨.updateInitiated (c.request entry.actionId
              (AwareDatetime.utc (outside.answer w.history .now))) c.state, .ok (some row)⟩],
            db'⟩) := by
        rw [hnow, RedeliveryWorld.respond, RedeliveryWorld.settle_ok (congrArg Prod.fst updated),
          updated]
      dsimp only
      rw [Program.runRaising_bind _ (finalizeAction_run submits.store terminal answered),
        Program.runRaising_ofExcept]
      refine ⟨_, rfl, (List.prefix_append _ _).trans (List.prefix_append _ _), fun _ =>
        ⟨entry.finalized (c.request entry.actionId (AwareDatetime.utc wall)) c.state, ?_, rfl,
          terminal⟩⟩
      change _ ∈ db'.actions.committed
      rw [same'.rows]
      exact Records.mem_replace_self mem rfl

/-- A row within the schema: the request is submitted, its entry finalized with the
conclusion, and the outcome of the POST returned or raised. -/
theorem submission_ok (submits : Submits driver outside actions db service answer)
    (stored : request.attempt.IsStored driver)
    (coordinates : repositoryCoordinates request.attempt = .ok (owner, repository))
    (fits : (outside.entry request owner repository).FitsSchema)
    (bound : Driver.bindAction (outside.entry request owner repository) = .ok ())
    (status : HasJournalStatus answer) :
    ∃ result w, submission driver outside service request owner repository db =
        ((submissionOutcome answer).map fun _ => result, w) ∧
      outside.actionId ∈ issued w.history ∧
      (IsCompleted answer → ∃ row ∈ w.db.actions.committed,
        row.actionId = outside.actionId ∧ row.state.isTerminal = true) := by
  have shown : (outside.entry request owner repository).IsShown driver :=
    isShown_initiatedAction.mpr (submits.shown [])
  obtain ⟨row, db₁, inserted, denotes, same⟩ := insertAction_ok submits.same bound
    fits.constraints (submits.fresh _) shown
  obtain ⟨path, built⟩ := exists_redeliveryPath stored coordinates
    request.attempt.deliveryIdentity.hookId request.githubDeliveryId
  -- other calls leave the entry alone while the POST is awaited
  obtain ⟨actions', same', spared⟩ := submits.spares same
  have mem := spared _ List.mem_cons_self ⟨_, rfl⟩
  rw [submission_eq submits.store,
    Program.runRaising_call _ (RedeliveryWorld.settle_ok (congrArg Prod.fst inserted)), inserted,
    afterInsert_run built submits.answered, denotes.actionId]
  obtain ⟨w, run, earlier, terminal⟩ :=
    conclude_run submits status fits rfl shown (w := ⟨_, outside.meanwhile db₁⟩) same' mem
  refine ⟨_, w, run, List.mem_filterMap.mpr ⟨⟨.uuid4, outside.actionId⟩, ?_, rfl⟩, terminal⟩
  refine earlier.subset ?_
  dsimp only [Outside.journalling]
  simp only [List.cons_append, List.mem_cons, true_or, or_true]

end Runs

/-! ## The condition -/

/-- Surroundings in which the clock stands still. -/
def Outside.still (wall : Wall) (answer : Except HttpClientError HttpResponse) : Outside where
  answer _
    | .now => wall
    | .uuid4 => sampleActionId
    | .httpGet .. => .error .other
    | .httpPost _ => answer
    | .appendLeft _ => ()
    | .finalizeEntry _ => .error .httpClient
    | .insert entry => .ok entry
    | .updateInitiated .. => .ok none
    | .selectState _ => .ok none
  meanwhile := id

/-- Every session can show some time. -/
theorem exists_shown (driver : Driver) :
    ∃ wall : Wall, (driver.shown (AwareDatetime.utc wall).instant).isSome = true := by
  have instant : (AwareDatetime.utc ⟨86400000000, by decide⟩).instant = 86400000000 := rfl
  refine ⟨⟨86400000000, by decide⟩, ?_⟩
  have offset := (driver.timeZone 86400000000).property
  rw [instant, Driver.shown, dif_pos (by omega)]
  rfl

/-- An empty table in such surroundings. -/
theorem submits_still {driver : Driver} {wall : Wall}
    (shown : (driver.shown (AwareDatetime.utc wall).instant).isSome = true)
    (answer : Except HttpClientError HttpResponse) (service : GitHubRedeliveryService)
    (store : service.recoveryActionStore = postgresRecoveryActionStore) :
    Submits driver (.still wall answer) [] .empty service answer where
  same := .empty
  fresh _ := List.not_mem_nil
  shown _ := shown
  spares same := ⟨_, same, fun _ mem _ => mem⟩
  store := store
  answered _ _ := rfl

section Condition

variable {driver : Driver} {request : RedeliveryRequest} {owner repository : Str}

/-- **Redeliveries and the schema of the journal.**  For a request for a stored attempt
and a verified delivery, and an answer to its POST: everything that is written fits the
schema, the journal is not reported unavailable while the database is available, and a
completed POST ends in a terminal entry, exactly when the identifier of the delivery is
below 2^63, the status of a response is from 100 to 599, and the database library does not
refuse the texts of the authorization. -/
theorem journalHolds_iff (stored : request.attempt.IsStored driver)
    (coordinates : repositoryCoordinates request.attempt = .ok (owner, repository))
    (positive : 0 < request.githubDeliveryId) (answer : Except HttpClientError HttpResponse) :
    JournalHolds driver request owner repository answer ↔
      request.githubDeliveryId < 2 ^ 63 ∧ HasJournalStatus answer ∧
        bindAuthorization request.authorization ≠ .error .sqlAlchemyError := by
  constructor
  · intro holds
    have within := (fitsSchema_initiated_iff stored positive sampleActionId
      (AwareDatetime.utc sampleNow)).mp (holds.created _ _)
    refine ⟨within, ?_, ?_⟩
    · intro response given
      have completed : IsCompleted answer := fun e failed => by
        rw [given] at failed
        cases failed
      obtain ⟨c, concluded⟩ := exists_conclusion completed
      exact (fitsSchema_finalized_iff (holds.created sampleActionId (AwareDatetime.utc sampleNow))
        concluded sampleActionId (AwareDatetime.utc sampleNow)).mp
          (holds.finalized _ _ _ c concluded) response given
    · intro refused
      obtain ⟨wall, shown⟩ := exists_shown driver
      -- were the authorization refused, the insertion would raise
      have store : ({ sampleService with
          recoveryActionStore := postgresRecoveryActionStore } :
            GitHubRedeliveryService).recoveryActionStore = postgresRecoveryActionStore := rfl
      refine holds.available (submits_still shown answer _ store) _ (submission_refused store ?_)
      rw [← refused]
      exact bindAction_eq stored coordinates positive within _ _
  · rintro ⟨within, status, authorized⟩
    have fits : ∀ actionId requestedAt, (initiatedAction actionId
        (GitHubRedeliveryService.createRequest request owner repository requestedAt)).FitsSchema :=
      fun actionId requestedAt => (fitsSchema_initiated_iff stored positive _ _).mpr within
    -- a submission runs to its end, or raises before the POST
    have ends : ∀ {outside actions db service}, Submits driver outside actions db service answer →
        (∀ message, (submission driver outside service request owner repository db).1 ≠
          .error (.gitHubRedeliveryJournalUnavailable message)) ∧
        (IsCompleted answer →
          submissions (submission driver outside service request owner repository db).2.history ≠
            [] →
          ∃ id ∈ issued
              (submission driver outside service request owner repository db).2.history,
            ∃ row ∈ (submission driver outside service request owner
                repository db).2.db.actions.committed,
              row.actionId = id ∧ row.state.isTerminal = true) := by
      intro outside actions db service submits
      have bound : Driver.bindAction (outside.entry request owner repository) =
          bindAuthorization request.authorization :=
        bindAction_eq stored coordinates positive within _ _
      cases authorization : bindAuthorization request.authorization with
      | ok u =>
          obtain ⟨result, w, run, known, terminal⟩ := submission_ok submits stored coordinates
            (fits _ _) (bound.trans authorization) status
          rw [run]
          exact ⟨fun message => submissionOutcome_ne, fun completed _ => ⟨_, known,
            terminal completed⟩⟩
      | error e =>
          cases e with
          | sqlAlchemyError => exact absurd authorization authorized
          | other e =>
              obtain ⟨raised, none⟩ := @submission_raised driver outside db service request owner
                repository submits.store e (bound.trans authorization)
              refine ⟨fun message unavailable => ?_, fun _ some => absurd none some⟩
              rw [raised] at unavailable
              cases unavailable
    exact ⟨fits, fun actionId requestedAt completedAt c concluded =>
      (fitsSchema_finalized_iff (fits _ _) concluded _ _).mpr status,
      fun submits => (ends submits).1, fun submits => (ends submits).2⟩

end Condition

theorem isStored_sampleAttempt : sampleAttempt.IsStored sampleDriver where
  fits := (rowsFit_iff (.inl ⟨rfl, rfl⟩)).mpr ⟨by decide, fun s n given => by cases given⟩
  kept := ⟨rfl, rfl, ⟨_, rfl⟩, ⟨_, rfl⟩, ⟨_, rfl⟩, fun s given => by cases given⟩

theorem journalHolds_iff_sample :
    JournalHolds sampleDriver sampleRequest "o" "r" (.ok sampleAccepted) ↔
      (7 : ℤ) < 2 ^ 63 ∧ HasJournalStatus (.ok sampleAccepted) ∧
        bindAuthorization sampleRequest.authorization ≠ .error .sqlAlchemyError :=
  journalHolds_iff isStored_sampleAttempt rfl (by decide) (.ok sampleAccepted)

/-! ## A status of three digits -/

/-- A service over the journal of the database. -/
def databaseService : GitHubRedeliveryService :=
  { sampleService with recoveryActionStore := postgresRecoveryActionStore }

/-- The answer 600. -/
def answer600 : Except HttpClientError HttpResponse := .ok { sampleListing with statusCode := 600 }

/-- The POST is answered 600: the entry is not finalized, and the journal reported
unavailable, though the database takes every statement within its schema. -/
theorem status600_unrecorded :
    (submission sampleDriver (.still sampleNow answer600) databaseService sampleRequest "o" "r"
        .empty).1 =
      .error (.gitHubRedeliveryJournalUnavailable "Recovery action journal unavailable") ∧
    (submissions (submission sampleDriver (.still sampleNow answer600) databaseService
      sampleRequest "o" "r" .empty).2.history).length = 1 ∧
    (submission sampleDriver (.still sampleNow answer600) databaseService sampleRequest "o" "r"
      .empty).2.db.actions.committed.map RecoveryAction.state = [.initiated] ∧
    ¬ JournalHolds sampleDriver sampleRequest "o" "r" answer600 := by
  have unavailable : (submission sampleDriver (.still sampleNow answer600) databaseService
      sampleRequest "o" "r" .empty).1 =
        .error (.gitHubRedeliveryJournalUnavailable "Recovery action journal unavailable") := by rfl
  refine ⟨unavailable, by rfl, by rfl, fun holds => ?_⟩
  exact holds.available (submits_still (by rfl) answer600 databaseService rfl) _ unavailable

end WebhookMonitor
