import WebhookMonitor.Journal.OneWay
import WebhookMonitor.Pagination.Keyset

/-!
# The two journals side by side

The same calls, one after the other, of the in-memory journal and of the PostgreSQL
journal.

* `SameJournal` — the table holds the entries of the memory, in the order in which
  they were created, and each of them can be read;
* `exec_create`, `exec_finalize`, … — what a call by itself makes of a table;
* `JournaledInBoth` — runs of calls of both journals;
* `journals_agree` — when a call returns the same from both, or raises the same.

The journals check the arguments of `finalize` in different orders, so they differ on
an unknown entry with a state that is no outcome.  Neither writes anything then.
-/

namespace WebhookMonitor

open Python Interaction Database

/-! ## Reading rows -/

/-- The session can show the timestamps of the entry. -/
structure RecoveryAction.IsShown (driver : Driver) (action : RecoveryAction) : Prop where
  requestedAt : (driver.shown action.requestedAt.instant).isSome = true
  completedAt : ∀ t ∈ action.completedAt, (driver.shown t.instant).isSome = true

section Reading

variable {driver : Driver} {action found : RecoveryAction}

/-- An entry that can be shown is read, with its timestamps in another time zone. -/
theorem showAction_of_isShown (shown : action.IsShown driver) :
    ∃ found, driver.showAction action = .ok found ∧ found.Denotes action := by
  obtain ⟨requestedAt, hrequested⟩ := Option.isSome_iff_exists.mp shown.requestedAt
  have sameRequested := Driver.instant_of_shown hrequested
  unfold Driver.showAction
  rw [hrequested]
  cases completed : action.completedAt with
  | none => exact ⟨_, rfl, requestedAt, none, rfl, sameRequested, completed ▸ rfl⟩
  | some t =>
      obtain ⟨completedAt, hcompleted⟩ :=
        Option.isSome_iff_exists.mp (shown.completedAt t completed)
      rw [Option.map_some, hcompleted]
      refine ⟨_, rfl, requestedAt, some completedAt, rfl, sameRequested, ?_⟩
      rw [completed, Option.map_some, Option.map_some, Driver.instant_of_shown hcompleted]

/-- One that cannot is not. -/
theorem isShown_of_showAction (read : driver.showAction action = .ok found) :
    action.IsShown driver := by
  unfold Driver.showAction at read
  cases hrequested : driver.shown action.requestedAt.instant with
  | none =>
      rw [hrequested] at read
      cases read
  | some requestedAt =>
      rw [hrequested] at read
      refine ⟨hrequested ▸ rfl, ?_⟩
      rintro t completed
      rw [Option.mem_def.mp completed, Option.map_some] at read
      cases hcompleted : driver.shown t.instant with
      | none =>
          rw [hcompleted] at read
          cases read
      | some completedAt => rfl

/-- A page of entries that can be shown. -/
theorem mapM_showAction {actions : List RecoveryAction}
    (shown : ∀ action ∈ actions, action.IsShown driver) :
    ∃ found, actions.mapM driver.showAction = .ok found ∧
      List.Forall₂ RecoveryAction.Denotes found actions := by
  induction actions with
  | nil => exact ⟨[], rfl, .nil⟩
  | cons action rest ih =>
      obtain ⟨first, hfirst, denotes⟩ := showAction_of_isShown (shown action List.mem_cons_self)
      obtain ⟨found, hfound, all⟩ := ih fun a mem => shown a (List.mem_cons_of_mem _ mem)
      refine ⟨first :: found, ?_, .cons denotes all⟩
      rw [List.mapM_cons, hfirst, hfound]
      rfl

end Reading

/-! ## Calls by themselves -/

namespace JournalDatabase

/-- The database with the next transaction begun. -/
def begun (db : JournalDatabase) : JournalDatabase := { db with started := db.started + 1 }

end JournalDatabase

namespace PostgresRecoveryActionStore

/-- One call by itself: what it returns or raises, and the database after it. -/
def exec (driver : Driver) (db : JournalDatabase) (c : JournalCall) :
    Except AppError JournalAnswer × JournalDatabase :=
  (program c).runWith (JournalDatabase.respond driver) db

variable {driver : Driver} {db : JournalDatabase}

/-- A block that raises is rolled back. -/
theorem runWith_transaction {α : Type} (block : ℕ → Transaction α) :
    (transaction block).runWith (JournalDatabase.respond driver) db =
      match (block (db.started + 1)).runWith (JournalDatabase.respond driver) db.begun with
      | (.ok a, db') => (.ok a, db')
      | (.error e, db') => (.error e, db'.rollback (db.started + 1)) := by
  rw [transaction, send, Program.perform_bind, Program.runWith_call]
  refine (Program.runWith_tryCatch (JournalDatabase.respond driver) (block (db.started + 1))
    (rollback (db.started + 1)) db.begun).trans ?_
  generalize (block (db.started + 1)).runWith (JournalDatabase.respond driver) db.begun = r
  obtain ⟨result, db'⟩ := r
  cases result <;> rfl

theorem exec_create (actionId : UUID) (request : CreateRequest) :
    exec driver db (.create actionId request) =
      match db.begun.respond driver
          (.insertAction (db.started + 1) (initiatedAction actionId request)) with
      | (.ok returned, db') => (.ok (.action returned), db'.commit (db.started + 1))
      | (.error e, db') => (.error (storeFailure e), db'.rollback (db.started + 1)) := by
  rw [exec, program, Program.runWith_bind, createInitiatedGithubRedelivery, runWith_transaction,
    insertAction, send, Program.perform_bind, Program.runWith_call]
  generalize db.begun.respond driver
    (.insertAction (db.started + 1) (initiatedAction actionId request)) = responded
  obtain ⟨inserted, db'⟩ := responded
  cases inserted <;> rfl

theorem exec_finalize (request : FinalizeRequest) :
    exec driver db (.finalize request) =
      match RecoveryActionState.terminalOfText request.state with
      | none =>
          (.error (.invalidRecoveryActionTransition "Invalid recovery action transition"), db)
      | some state =>
          match db.begun.respond driver (.updateInitiated (db.started + 1) request state) with
          | (.ok (some row), db') => (.ok (.action row), db'.commit (db.started + 1))
          | (.ok none, db') =>
              (.error (match (db'.visible (db.started + 1)).find? fun row =>
                  row.actionId = request.actionId with
                | none => .recoveryActionNotFound "Recovery action not found"
                | some _ => .invalidRecoveryActionTransition "Invalid recovery action transition"),
                db'.commit (db.started + 1))
          | (.error e, db') => (.error (storeFailure e), db'.rollback (db.started + 1)) := by
  rw [exec, program, Program.runWith_bind, finalize]
  cases RecoveryActionState.terminalOfText request.state with
  -- no row was updated: a second statement tells why
  | none => rfl
  | some state =>
      dsimp only
      rw [Program.runWith_bind, runWith_transaction, updateAction, send, Program.perform_bind,
        Program.runWith_call]
      generalize db.begun.respond driver (.updateInitiated (db.started + 1) request state) =
        responded
      obtain ⟨updated, db'⟩ := responded
      cases updated with
      | error e => rfl
      | ok row =>
          cases row with
          | some row => rfl
          | none =>
              rw [orStoreFailure, Program.ret_bind]
              dsimp only
              rw [send, Program.perform_bind, Program.runWith_call, JournalDatabase.respond]
              cases (db'.visible (db.started + 1)).find? fun row =>
                row.actionId = request.actionId <;> rfl

theorem exec_get (actionId : UUID) :
    exec driver db (.get actionId) =
      match db.respond driver (.selectAction actionId) with
      | (.ok row, db') => (.ok (.found row), db')
      | (.error e, db') => (.error (storeFailure e), db') := by
  rw [exec, program, Program.runWith_bind, get, send, Program.perform_bind, Program.runWith_call]
  generalize db.respond driver (.selectAction actionId) = responded
  obtain ⟨selected, db'⟩ := responded
  cases selected <;> rfl

theorem exec_listRecent (limit : ℕ) (after : Option RecoveryActionKeyset) :
    exec driver db (.listRecent limit after) =
      match db.respond driver (.selectPage limit after) with
      | (.ok rows, db') => (.ok (.page rows), db')
      | (.error e, db') => (.error (storeFailure e), db') := by
  rw [exec, program, Program.runWith_bind, listRecent, send, Program.perform_bind,
    Program.runWith_call]
  generalize db.respond driver (.selectPage limit after) = responded
  obtain ⟨selected, db'⟩ := responded
  cases selected <;> rfl

end PostgresRecoveryActionStore

/-! ## The same entries -/

/-- The table holds the entries, newest first, and each of them can be read. -/
structure SameJournal (driver : Driver) (actions : List RecoveryAction) (db : JournalDatabase) :
    Prop where
  rows : db.actions = ⟨actions, []⟩
  distinct : (actions.map RecoveryAction.actionId).Nodup
  storable : ∀ action ∈ actions, isStorable action = true
  shown : ∀ action ∈ actions, action.IsShown driver

namespace SameJournal

variable {driver : Driver} {actions : List RecoveryAction} {db : JournalDatabase}

theorem empty : SameJournal driver [] .empty :=
  ⟨rfl, List.nodup_nil, fun _ mem => absurd mem List.not_mem_nil,
    fun _ mem => absurd mem List.not_mem_nil⟩

theorem begun (same : SameJournal driver actions db) : SameJournal driver actions db.begun :=
  ⟨same.rows, same.distinct, same.storable, same.shown⟩

theorem visible (same : SameJournal driver actions db) (tx : ℕ) : db.visible tx = actions := by
  rw [JournalDatabase.visible, same.rows]
  rfl

/-- The end of a transaction that has written nothing. -/
theorem commit (same : SameJournal driver actions db) (tx : ℕ) :
    SameJournal driver actions (db.commit tx) := by
  refine ⟨?_, same.distinct, same.storable, same.shown⟩
  rw [JournalDatabase.commit, same.rows]
  rfl

theorem rollback (same : SameJournal driver actions db) (tx : ℕ) :
    SameJournal driver actions (db.rollback tx) := by
  refine ⟨?_, same.distinct, same.storable, same.shown⟩
  rw [JournalDatabase.rollback, same.rows]
  rfl

/-- A transaction that enters a new entry. -/
theorem inserted (same : SameJournal driver actions db) {action : RecoveryAction}
    (fresh : action.actionId ∉ actions.map RecoveryAction.actionId)
    (storable : isStorable action = true) (shown : action.IsShown driver) (tx : ℕ) :
    SameJournal driver (action :: actions) ((db.write tx (.inserted action)).commit tx) := by
  refine ⟨?_, ?_, List.forall_mem_cons.mpr ⟨storable, same.storable⟩,
    List.forall_mem_cons.mpr ⟨shown, same.shown⟩⟩
  · rw [JournalDatabase.write, JournalDatabase.commit, same.rows]
    exact LockedTable.commit_write_alone
  · rw [List.map_cons, List.nodup_cons]
    exact ⟨fresh, same.distinct⟩

/-- A transaction that changes an entry. -/
theorem updated (same : SameJournal driver actions db) {action : RecoveryAction}
    (storable : isStorable action = true) (shown : action.IsShown driver) (tx : ℕ) :
    SameJournal driver (Records.replace RecoveryAction.actionId action.actionId action actions)
      ((db.write tx (.updated action)).commit tx) := by
  refine ⟨?_, ?_, ?_, ?_⟩
  · rw [JournalDatabase.write, JournalDatabase.commit, same.rows]
    exact LockedTable.commit_write_alone
  · rw [Records.map_key_replace rfl]
    exact same.distinct
  · intro other mem
    rcases Records.mem_replace mem with rfl | ⟨mem, -⟩
    · exact storable
    · exact same.storable other mem
  · intro other mem
    rcases Records.mem_replace mem with rfl | ⟨mem, -⟩
    · exact shown
    · exact same.shown other mem

end SameJournal

/-! ## Agreement -/

/-- The same class of exception. -/
def AppError.SameClass (e e' : AppError) : Prop := e.ctorIdx = e'.ctorIdx

/-- Equal answers: the entries of the table denote those of the memory. -/
def JournalAnswer.Equals : JournalAnswer → JournalAnswer → Prop
  | .action row, .action entry => row.Denotes entry
  | .found row, .found entry => Option.Rel RecoveryAction.Denotes row entry
  | .page rows, .page entries => List.Forall₂ RecoveryAction.Denotes rows entries
  | _, _ => False

/-- A call returns the same, or raises the same class of exception. -/
def ResultsAgree : Except AppError JournalAnswer → Except AppError JournalAnswer → Prop
  | .ok found, .ok answer => found.Equals answer
  | .error e, .error e' => e.SameClass e'
  | _, _ => False

/-- A call within the bounds of both journals: a new identifier, room in the memory,
arguments that satisfy the check constraints, and a positive limit. -/
def JournalCall.IsProper (memory : InMemoryRecoveryActionStore) : JournalCall → Prop
  | .create actionId request =>
      actionId ∉ memory.actions.map RecoveryAction.actionId ∧
        memory.actions.length < memory.maxActions ∧
        isStorable (initiatedAction actionId request) = true
  | .finalize request => request.upstreamStatusCode.all (fun n => 100 ≤ n && n ≤ 599) = true
  | .get _ => True
  | .listRecent limit _ => 0 < limit

/-- The table keeps what the call writes: the driver and the columns take it, and the
session can show it. -/
def JournalCall.IsKept (driver : Driver) (actions : List RecoveryAction) : JournalCall → Prop
  | .create actionId request =>
      Driver.bindAction (initiatedAction actionId request) = .ok () ∧
        (driver.shown request.requestedAt.instant).isSome = true
  | .finalize request => ∀ state, RecoveryActionState.terminalOfText request.state = some state →
      Driver.bindOutcome request.upstreamStatusCode request.failureCategory = .ok () ∧
        ((∃ action ∈ actions, action.actionId = request.actionId ∧ action.state = .initiated) →
          (driver.shown request.completedAt.instant).isSome = true)
  | _ => True

/-- The journals treat the call alike: they keep it, a state that is no outcome is
asked for only of a known entry, and the driver takes the limit. -/
def JournalCall.IsAlike (driver : Driver) (actions : List RecoveryAction) (c : JournalCall) :
    Prop :=
  c.IsKept driver actions ∧
    match c with
    | .finalize request => RecoveryActionState.terminalOfText request.state = none →
        request.actionId ∈ actions.map RecoveryAction.actionId
    | .listRecent limit _ => limit ≤ driver.maxLimit
    | _ => True

/-- An error of the database is none of the journal's own. -/
theorem not_sameClass_storeFailure {e : StatementError} {e' : AppError}
    (own : (∃ message, e' = .recoveryActionNotFound message) ∨
      ∃ message, e' = .invalidRecoveryActionTransition message) :
    ¬ (PostgresRecoveryActionStore.storeFailure e).SameClass e' := by
  intro same
  rcases own with ⟨message, rfl⟩ | ⟨message, rfl⟩ <;> cases e <;> cases same

/-! ### Creating -/

section Create

variable {driver : Driver} {memory : InMemoryRecoveryActionStore} {db : JournalDatabase}
  {actionId : UUID} {request : CreateRequest}

theorem isShown_initiatedAction :
    (initiatedAction actionId request).IsShown driver ↔
      (driver.shown request.requestedAt.instant).isSome = true :=
  ⟨fun shown => shown.requestedAt, fun shown => ⟨shown, fun _ none => by cases none⟩⟩

/-- Creating an entry that the table keeps. -/
theorem create_kept (same : SameJournal driver memory.actions db)
    (proper : (JournalCall.create actionId request).IsProper memory)
    (kept : (JournalCall.create actionId request).IsKept driver memory.actions) :
    ResultsAgree (PostgresRecoveryActionStore.exec driver db (.create actionId request)).1
        (memory.exec (.create actionId request)).1 ∧
      SameJournal driver (memory.exec (.create actionId request)).2.actions
        (PostgresRecoveryActionStore.exec driver db (.create actionId request)).2 := by
  obtain ⟨fresh, room, storable⟩ := proper
  obtain ⟨bound, shown⟩ := kept
  have shown : (initiatedAction actionId request).IsShown driver :=
    isShown_initiatedAction.mpr shown
  obtain ⟨returned, read, denotes⟩ := showAction_of_isShown shown
  have absent : ((db.begun.visible (db.started + 1)).any fun other =>
      other.actionId = (initiatedAction actionId request).actionId) = false := by
    rw [same.begun.visible, List.any_eq_false]
    intro other mem named
    exact fresh (List.mem_map.mpr ⟨other, mem, of_decide_eq_true named⟩)
  have responded : db.begun.respond driver
      (.insertAction (db.started + 1) (initiatedAction actionId request)) =
        (.ok returned, db.begun.write (db.started + 1)
          (.inserted (initiatedAction actionId request))) := by
    rw [JournalDatabase.respond, bound]
    dsimp only
    rw [storable, absent, read]
    rfl
  have held : (memory.exec (.create actionId request)).2.actions =
      initiatedAction actionId request :: memory.actions := by
    change (initiatedAction actionId request :: memory.actions).take memory.maxActions = _
    exact List.take_of_length_le room
  rw [PostgresRecoveryActionStore.exec_create, responded, held]
  exact ⟨denotes, same.begun.inserted fresh storable shown _⟩

/-- An entry that the table does not keep is refused, and the memory enters it. -/
theorem create_agrees (agree : ResultsAgree
      (PostgresRecoveryActionStore.exec driver db (.create actionId request)).1
      (memory.exec (.create actionId request)).1) :
    (JournalCall.create actionId request).IsKept driver memory.actions := by
  rw [PostgresRecoveryActionStore.exec_create, JournalDatabase.respond] at agree
  cases bound : Driver.bindAction (initiatedAction actionId request) with
  | error e =>
      rw [bound] at agree
      exact agree.elim
  | ok u =>
      rw [bound] at agree
      dsimp only at agree
      split_ifs at agree
      · exact agree.elim
      · cases read : driver.showAction (initiatedAction actionId request) with
        | error e =>
            rw [read] at agree
            exact agree.elim
        | ok returned => exact ⟨bound, isShown_initiatedAction.mp (isShown_of_showAction read)⟩

end Create

/-! ### Finalizing -/

namespace InMemoryRecoveryActionStore

/-- What the loop of `finalize` returns or raises, by the entry it finds. -/
theorem finalizeIn_fst (request : FinalizeRequest) (actions : List RecoveryAction) :
    (finalizeIn request actions).map Prod.fst =
      match actions.find? fun action => action.actionId = request.actionId with
      | none => .error (.recoveryActionNotFound "Recovery action not found")
      | some action =>
          match action.state.isTerminal, RecoveryActionState.terminalOfText request.state with
          | false, some state => .ok (action.finalized request state)
          | _, _ =>
              .error (.invalidRecoveryActionTransition "Invalid recovery action transition") := by
  induction actions with
  | nil => rfl
  | cons action rest ih =>
      rw [finalizeIn, List.find?_cons]
      by_cases named : action.actionId = request.actionId
      · rw [if_neg (not_not.mpr named), decide_eq_true named]
        dsimp only
        cases action.state.isTerminal <;>
          cases RecoveryActionState.terminalOfText request.state <;> rfl
      · rw [if_pos named, decide_eq_false named, ← ih]
        cases finalizeIn request rest <;> rfl

theorem exec_finalize_fst (store : InMemoryRecoveryActionStore) (request : FinalizeRequest) :
    (store.exec (.finalize request)).1 =
      ((finalizeIn request store.actions).map Prod.fst).map JournalAnswer.action := by
  rw [exec]
  cases result : store.finalize request with
  | error e =>
      rw [finalize_eq_error result]
      rfl
  | ok r =>
      obtain ⟨action, store'⟩ := r
      rw [(finalize_eq_ok result).1]
      rfl

theorem exec_finalize_refused (store : InMemoryRecoveryActionStore) {request : FinalizeRequest}
    (refused : RecoveryActionState.terminalOfText request.state = none) :
    ∃ e, (store.exec (.finalize request)).1 = .error e := by
  rw [exec_finalize_fst, finalizeIn_fst, refused]
  cases store.actions.find? fun action => action.actionId = request.actionId with
  | none => exact ⟨_, rfl⟩
  | some action =>
      dsimp only
      cases action.state.isTerminal <;> exact ⟨_, rfl⟩

theorem exec_finalize_error {store : InMemoryRecoveryActionStore} {request : FinalizeRequest}
    {e : AppError} (raised : (store.exec (.finalize request)).1 = .error e) :
    (∃ message, e = .recoveryActionNotFound message) ∨
      ∃ message, e = .invalidRecoveryActionTransition message := by
  rw [exec_finalize_fst, finalizeIn_fst] at raised
  split at raised
  · cases raised
    exact .inl ⟨_, rfl⟩
  · split at raised
    · cases raised
    · cases raised
      exact .inr ⟨_, rfl⟩

end InMemoryRecoveryActionStore

/-- The guarded update finds the entry of the identifier if it has no outcome. -/
theorem find?_initiated {actions : List RecoveryAction} {actionId : UUID}
    (distinct : (actions.map RecoveryAction.actionId).Nodup) :
    (actions.find? fun action => action.actionId = actionId && action.state = .initiated) =
      (actions.find? fun action => action.actionId = actionId).filter
        fun action => action.state = .initiated := by
  cases found : actions.find? fun action => action.actionId = actionId with
  | none =>
      rw [List.find?_eq_none] at found
      rw [Option.filter_none, List.find?_eq_none]
      intro action mem matched
      exact found action mem (Bool.and_eq_true _ _ ▸ matched).1
  | some action =>
      have mem := List.mem_of_find?_eq_some found
      have matched := List.find?_some found
      have named : action.actionId = actionId := of_decide_eq_true matched
      have both : (fun action : RecoveryAction =>
          action.actionId = actionId && action.state = .initiated) =
          fun action => decide (decide (action.actionId = actionId) = true ∧
            decide (action.state = .initiated) = true) := by
        funext action
        simp
      rw [both, ← List.find?_filter, filter_eq_singleton distinct mem named, List.find?_singleton]
      rfl

theorem isStorable_finalized {action : RecoveryAction} {request : FinalizeRequest}
    {state : RecoveryActionState} (storable : isStorable action = true)
    (terminal : RecoveryActionState.terminalOfText request.state = some state)
    (proper : request.upstreamStatusCode.all (fun n => 100 ≤ n && n ≤ 599) = true) :
    isStorable (action.finalized request state) = true := by
  have completed : isStateCompletion (action.finalized request state) = true := by
    unfold isStateCompletion
    rw [RecoveryAction.finalized_state, RecoveryActionState.isTerminal_of_terminalOfText terminal]
    rfl
  unfold isStorable at storable ⊢
  simp only [Bool.and_eq_true] at storable ⊢
  exact ⟨⟨storable.1.1, proper⟩, completed⟩

section Finalize

variable {driver : Driver} {memory : InMemoryRecoveryActionStore} {db : JournalDatabase}
  {request : FinalizeRequest} {state : RecoveryActionState}

/-- A state that is no outcome is refused by both, in different words for an unknown
entry. -/
theorem finalize_refused (refused : RecoveryActionState.terminalOfText request.state = none) :
    ResultsAgree (PostgresRecoveryActionStore.exec driver db (.finalize request)).1
        (memory.exec (.finalize request)).1 ↔
      request.actionId ∈ memory.actions.map RecoveryAction.actionId := by
  rw [PostgresRecoveryActionStore.exec_finalize, refused,
    InMemoryRecoveryActionStore.exec_finalize_fst, InMemoryRecoveryActionStore.finalizeIn_fst,
    refused]
  cases found : memory.actions.find? fun action => action.actionId = request.actionId with
  | none =>
      rw [List.find?_eq_none] at found
      constructor
      · intro same
        cases same
      · intro mem
        obtain ⟨action, mem, named⟩ := List.mem_map.mp mem
        exact absurd (decide_eq_true named) (found action mem)
  | some action =>
      have matched := List.find?_some found
      have named : action.actionId = request.actionId := of_decide_eq_true matched
      have mem := List.mem_map_of_mem (f := RecoveryAction.actionId)
        (List.mem_of_find?_eq_some found)
      refine iff_of_true ?_ (named ▸ mem)
      dsimp only
      cases action.state.isTerminal <;> exact rfl

/-- What the guarded update does for an outcome the table takes. -/
theorem respond_updateInitiated (same : SameJournal driver memory.actions db)
    (terminal : RecoveryActionState.terminalOfText request.state = some state)
    (proper : (JournalCall.finalize request).IsProper memory)
    (bound : Driver.bindOutcome request.upstreamStatusCode request.failureCategory = .ok ())
    (tx : ℕ) :
    db.respond driver (.updateInitiated tx request state) =
      match (memory.actions.find? fun action => action.actionId = request.actionId).filter
          fun action => action.state = .initiated with
      | none => (.ok none, db)
      | some action =>
          match driver.showAction (action.finalized request state) with
          | .error e => (.error e, db)
          | .ok returned =>
              (.ok (some returned), db.write tx (.updated (action.finalized request state))) := by
  rw [JournalDatabase.respond, bound]
  dsimp only
  rw [same.visible, find?_initiated same.distinct]
  cases found : (memory.actions.find? fun action => action.actionId = request.actionId).filter
      fun action => action.state = .initiated with
  | none => rfl
  | some action =>
      have mem := List.mem_of_find?_eq_some (Option.filter_eq_some_iff.mp found).1
      dsimp only
      refine (if_pos (isStorable_finalized (same.storable action mem) terminal proper)).trans ?_
      cases driver.showAction (action.finalized request state) <;> rfl

/-- Finalizing an entry there is not, or one with an outcome. -/
theorem finalize_errors (same : SameJournal driver memory.actions db)
    (terminal : RecoveryActionState.terminalOfText request.state = some state)
    (proper : (JournalCall.finalize request).IsProper memory)
    (bound : Driver.bindOutcome request.upstreamStatusCode request.failureCategory = .ok ())
    (absent : (memory.actions.find? fun action => action.actionId = request.actionId).filter
      (fun action => action.state = .initiated) = none) :
    ∃ e, (memory.exec (.finalize request)).1 = .error e ∧
      PostgresRecoveryActionStore.exec driver db (.finalize request) =
        (.error e, db.begun.commit (db.started + 1)) := by
  rw [PostgresRecoveryActionStore.exec_finalize, terminal]
  dsimp only
  rw [respond_updateInitiated same.begun terminal proper bound, absent]
  dsimp only
  rw [same.begun.visible, InMemoryRecoveryActionStore.exec_finalize_fst,
    InMemoryRecoveryActionStore.finalizeIn_fst, terminal]
  cases found : memory.actions.find? fun action => action.actionId = request.actionId with
  | none => exact ⟨_, rfl, rfl⟩
  | some action =>
      rw [found, Option.filter_eq_none_iff] at absent
      have closed : action.state.isTerminal = true := by
        have other := absent action rfl
        cases state : action.state with
        | initiated => exact absurd (decide_eq_true state) other
        | accepted | failed | outcomeUnknown => rfl
      refine ⟨_, ?_, rfl⟩
      dsimp only
      rw [closed]
      rfl

/-- Finalizing an entry without an outcome. -/
theorem finalize_found (same : SameJournal driver memory.actions db)
    (terminal : RecoveryActionState.terminalOfText request.state = some state)
    (proper : (JournalCall.finalize request).IsProper memory)
    (bound : Driver.bindOutcome request.upstreamStatusCode request.failureCategory = .ok ())
    {action : RecoveryAction} (mem : action ∈ memory.actions)
    (named : action.actionId = request.actionId) (initiated : action.state = .initiated) :
    (memory.exec (.finalize request)).1 = .ok (.action (action.finalized request state)) ∧
      (memory.exec (.finalize request)).2.actions =
        Records.replace RecoveryAction.actionId request.actionId (action.finalized request state)
          memory.actions ∧
      PostgresRecoveryActionStore.exec driver db (.finalize request) =
        match driver.showAction (action.finalized request state) with
        | .error e =>
            (.error (PostgresRecoveryActionStore.storeFailure e),
              db.begun.rollback (db.started + 1))
        | .ok returned =>
            (.ok (.action returned),
              (db.begun.write (db.started + 1) (.updated (action.finalized request state))).commit
                (db.started + 1)) := by
  have found : (memory.actions.find? fun action => action.actionId = request.actionId) =
      some action := by
    rw [← List.head?_filter, filter_eq_singleton same.distinct mem named, List.head?_cons]
  have returned : (memory.exec (.finalize request)).1 =
      .ok (.action (action.finalized request state)) := by
    rw [InMemoryRecoveryActionStore.exec_finalize_fst, InMemoryRecoveryActionStore.finalizeIn_fst,
      found, terminal]
    dsimp only
    rw [initiated]
    rfl
  refine ⟨returned, ?_, ?_⟩
  · obtain ⟨old, hold, state', hnamed, -, hterminal, -, actions⟩ :=
      InMemoryRecoveryActionStore.exec_finalize_ok same.distinct (Prod.ext returned rfl)
    obtain rfl := List.inj_on_of_nodup_map same.distinct hold mem (hnamed.trans named.symm)
    obtain rfl := Option.some.inj (terminal.symm.trans hterminal)
    exact actions
  · rw [PostgresRecoveryActionStore.exec_finalize, terminal]
    dsimp only
    rw [respond_updateInitiated same.begun terminal proper bound, found, Option.filter_some,
      if_pos (decide_eq_true initiated)]
    dsimp only
    cases driver.showAction (action.finalized request state) <;> rfl

end Finalize

/-! ### Each call -/

section Calls

variable {driver : Driver} {memory : InMemoryRecoveryActionStore} {db : JournalDatabase}
  {c : JournalCall}

/-- Finalizing with an outcome that the table keeps. -/
theorem finalize_kept {request : FinalizeRequest} {state : RecoveryActionState}
    (same : SameJournal driver memory.actions db)
    (proper : (JournalCall.finalize request).IsProper memory)
    (terminal : RecoveryActionState.terminalOfText request.state = some state)
    (kept : (JournalCall.finalize request).IsKept driver memory.actions) :
    ResultsAgree (PostgresRecoveryActionStore.exec driver db (.finalize request)).1
        (memory.exec (.finalize request)).1 ∧
      SameJournal driver (memory.exec (.finalize request)).2.actions
        (PostgresRecoveryActionStore.exec driver db (.finalize request)).2 := by
  obtain ⟨bound, completedAt⟩ := kept state terminal
  cases found : (memory.actions.find? fun action => action.actionId = request.actionId).filter
      fun action => action.state = .initiated with
  -- there is no initiated entry: both raise, and change nothing
  | none =>
      obtain ⟨e, raised, result⟩ := finalize_errors same terminal proper bound found
      have unchanged := InMemoryRecoveryActionStore.exec_unchanged
        fun action returned => by rw [raised] at returned; cases returned
      rw [result, raised, unchanged]
      exact ⟨rfl, same.begun.commit _⟩
  | some action =>
      obtain ⟨there, initiated⟩ := Option.filter_eq_some_iff.mp found
      have mem := List.mem_of_find?_eq_some there
      have matched := List.find?_some there
      have named : action.actionId = request.actionId := of_decide_eq_true matched
      have initiated := of_decide_eq_true initiated
      obtain ⟨returned, actions, result⟩ :=
        finalize_found same terminal proper bound mem named initiated
      have shown : (action.finalized request state).IsShown driver := by
        refine ⟨(same.shown action mem).requestedAt, ?_⟩
        rintro t completed
        cases completed
        exact completedAt ⟨action, mem, named, initiated⟩
      obtain ⟨row, read, denotes⟩ := showAction_of_isShown shown
      rw [result, returned, actions, read, ← named]
      refine ⟨denotes, ?_⟩
      exact same.begun.updated (isStorable_finalized (same.storable action mem) terminal proper)
        shown _

/-- With one that it does not keep the table refuses what the memory does not. -/
theorem finalize_agrees {request : FinalizeRequest} {state : RecoveryActionState}
    (same : SameJournal driver memory.actions db)
    (proper : (JournalCall.finalize request).IsProper memory)
    (terminal : RecoveryActionState.terminalOfText request.state = some state)
    (agree : ResultsAgree (PostgresRecoveryActionStore.exec driver db (.finalize request)).1
      (memory.exec (.finalize request)).1) :
    (JournalCall.finalize request).IsKept driver memory.actions := by
  intro state' terminal'
  obtain rfl := Option.some.inj (terminal.symm.trans terminal')
  cases bound : Driver.bindOutcome request.upstreamStatusCode request.failureCategory with
  | error e =>
      rw [PostgresRecoveryActionStore.exec_finalize, terminal] at agree
      dsimp only at agree
      rw [JournalDatabase.respond, bound] at agree
      cases raised : (memory.exec (.finalize request)).1 with
      | error e' =>
          rw [raised] at agree
          exact absurd agree (not_sameClass_storeFailure
            (InMemoryRecoveryActionStore.exec_finalize_error raised))
      | ok answer =>
          rw [raised] at agree
          exact agree.elim
  | ok u =>
      refine ⟨rfl, ?_⟩
      rintro ⟨action, mem, named, initiated⟩
      obtain ⟨returned, -, result⟩ := finalize_found same terminal proper bound mem named initiated
      rw [result, returned] at agree
      cases read : driver.showAction (action.finalized request state) with
      | error e =>
          rw [read] at agree
          exact agree.elim
      | ok row => exact (isShown_of_showAction read).completedAt _ rfl

/-- A lookup finds the entry, and changes nothing. -/
theorem get_quiet (same : SameJournal driver memory.actions db) (actionId : UUID) :
    ∃ found, PostgresRecoveryActionStore.exec driver db (.get actionId) = (.ok (.found found), db) ∧
      Option.Rel RecoveryAction.Denotes found (memory.get actionId) := by
  rw [PostgresRecoveryActionStore.exec_get, JournalDatabase.respond, same.rows,
    InMemoryRecoveryActionStore.get]
  cases found : memory.actions.find? fun action => action.actionId = actionId with
  | none => exact ⟨none, rfl, .none⟩
  | some action =>
      obtain ⟨row, read, denotes⟩ :=
        showAction_of_isShown (same.shown action (List.mem_of_find?_eq_some found))
      refine ⟨some row, ?_, .some denotes⟩
      dsimp only
      rw [read]
      rfl

/-- Both journals list the entries by instant and identifier, newest first. -/
theorem pageRows_eq_listRecent
    (distinct : (memory.actions.map RecoveryAction.actionId).Nodup) (limit : ℕ)
    (after : Option RecoveryActionKeyset) :
    JournalDatabase.pageRows memory.actions limit after = memory.listRecent limit after := by
  have keys : (memory.actions.map fun action => action.keyset.key).Nodup := by
    refine List.Nodup.of_map (fun key => (ofLex key).2) ?_
    rw [List.map_map]
    exact distinct
  have listed : memory.listRecent limit after =
      Pagination.page (fun action => action.keyset.key) limit (after.map RecoveryActionKeyset.key)
        memory.actions := by
    rw [Pagination.page_eq_match]
    cases after <;> rfl
  rw [listed, Pagination.page_eq_where keys]
  cases after with
  | none => rfl
  | some after =>
      have where_eq : JournalDatabase.isAfter after =
          fun action => decide (action.keyset.key < after.key) := by
        funext action
        unfold JournalDatabase.isAfter
        rw [Bool.eq_iff_iff, decide_eq_true_eq, RecoveryActionKeyset.key, RecoveryActionKeyset.key,
          Prod.Lex.toLex_lt_toLex, Bool.or_eq_true, Bool.and_eq_true, decide_eq_true_eq,
          decide_eq_true_eq, decide_eq_true_eq]
        exact Iff.rfl
      rw [JournalDatabase.pageRows, where_eq]

/-- A listing changes nothing. -/
theorem listRecent_quiet (same : SameJournal driver memory.actions db) (limit : ℕ)
    (after : Option RecoveryActionKeyset) :
    ∃ found, PostgresRecoveryActionStore.exec driver db (.listRecent limit after) = (found, db) ∧
      (ResultsAgree found (.ok (.page (memory.listRecent limit after))) ↔
        limit ≤ driver.maxLimit) := by
  rw [PostgresRecoveryActionStore.exec_listRecent, JournalDatabase.respond, same.rows]
  by_cases within : limit ≤ driver.maxLimit
  · have shown : ∀ action ∈ memory.listRecent limit after, action.IsShown driver := by
      intro action mem
      refine same.shown action ?_
      unfold InMemoryRecoveryActionStore.listRecent at mem
      have mem := List.mem_of_mem_take mem
      cases after with
      | none => exact List.mem_mergeSort.mp mem
      | some after => exact List.mem_mergeSort.mp (List.mem_filter.mp mem).1
    obtain ⟨rows, read, all⟩ := mapM_showAction shown
    refine ⟨.ok (.page rows), ?_, iff_of_true all within⟩
    rw [if_pos within, pageRows_eq_listRecent same.distinct, read]
  · refine ⟨.error PostgresRecoveryActionStore.storeError, ?_, iff_of_false ?_ within⟩
    · rw [if_neg within]
      rfl
    · exact id

/-- What both keep they keep alike. -/
theorem SameJournal.call (same : SameJournal driver memory.actions db) (proper : c.IsProper memory)
    (kept : c.IsKept driver memory.actions) :
    SameJournal driver (memory.exec c).2.actions
      (PostgresRecoveryActionStore.exec driver db c).2 := by
  cases c with
  | create actionId request => exact (create_kept same proper kept).2
  | finalize request =>
      cases terminal : RecoveryActionState.terminalOfText request.state with
      | none =>
          have unchanged : (memory.exec (.finalize request)).2 = memory := by
            obtain ⟨e, raised⟩ := InMemoryRecoveryActionStore.exec_finalize_refused memory terminal
            exact InMemoryRecoveryActionStore.exec_unchanged
              fun action returned => by rw [raised] at returned; cases returned
          rw [unchanged, PostgresRecoveryActionStore.exec_finalize, terminal]
          exact same
      | some state => exact (finalize_kept same proper terminal kept).2
  | get actionId =>
      obtain ⟨found, result, -⟩ := get_quiet same actionId
      rw [result]
      exact same
  | listRecent limit after =>
      obtain ⟨found, result, -⟩ := listRecent_quiet same limit after
      rw [result]
      exact same

/-- A call agrees exactly when the journals treat it alike. -/
theorem SameJournal.agrees_iff (same : SameJournal driver memory.actions db)
    (proper : c.IsProper memory) :
    ResultsAgree (PostgresRecoveryActionStore.exec driver db c).1 (memory.exec c).1 ↔
      c.IsAlike driver memory.actions := by
  cases c with
  | create actionId request =>
      constructor
      · exact fun agree => ⟨create_agrees agree, trivial⟩
      · exact fun alike => (create_kept same proper alike.1).1
  | finalize request =>
      -- a state that is not terminal is refused before the journal is read
      cases terminal : RecoveryActionState.terminalOfText request.state with
      | none =>
          rw [finalize_refused terminal]
          constructor
          · intro known
            refine ⟨fun state some => ?_, fun _ => known⟩
            rw [terminal] at some
            cases some
          · exact fun alike => alike.2 terminal
      | some state =>
          constructor
          · intro agree
            refine ⟨finalize_agrees same proper terminal agree, fun none => ?_⟩
            rw [terminal] at none
            cases none
          · exact fun alike => (finalize_kept same proper terminal alike.1).1
  | get actionId =>
      obtain ⟨found, result, denotes⟩ := get_quiet same actionId
      rw [result]
      exact iff_of_true denotes ⟨trivial, trivial⟩
  | listRecent limit after =>
      obtain ⟨found, result, agree⟩ := listRecent_quiet same limit after
      rw [result]
      refine agree.trans ?_
      exact ⟨fun within => ⟨trivial, within⟩, And.right⟩

end Calls

/-! ## Runs -/

/-- Calls of both journals, last first.  What is written fits both. -/
inductive JournaledInBoth (driver : Driver) (maxActions : ℕ) (pos : 0 < maxActions) :
    List JournalCall → InMemoryRecoveryActionStore → JournalDatabase → Prop where
  | start : JournaledInBoth driver maxActions pos [] (.empty maxActions pos) .empty
  | call {calls : List JournalCall} {memory : InMemoryRecoveryActionStore} {db : JournalDatabase}
      {c : JournalCall} (run : JournaledInBoth driver maxActions pos calls memory db)
      (proper : c.IsProper memory) (kept : c.IsKept driver memory.actions) :
      JournaledInBoth driver maxActions pos (c :: calls) (memory.exec c).2
        (PostgresRecoveryActionStore.exec driver db c).2

section Runs

variable {driver : Driver} {maxActions : ℕ} {pos : 0 < maxActions} {calls : List JournalCall}
  {memory : InMemoryRecoveryActionStore} {db : JournalDatabase}

theorem JournaledInBoth.same (run : JournaledInBoth driver maxActions pos calls memory db) :
    SameJournal driver memory.actions db := by
  induction run with
  | start => exact .empty
  | call _ proper kept ih => exact ih.call proper kept

/-- After any calls that both journals keep, the next call returns the same from both,
or raises the same, exactly when the journals treat it alike. -/
theorem journals_agree (run : JournaledInBoth driver maxActions pos calls memory db)
    {c : JournalCall} (proper : c.IsProper memory) :
    ResultsAgree (PostgresRecoveryActionStore.exec driver db c).1 (memory.exec c).1 ↔
      c.IsAlike driver memory.actions :=
  run.same.agrees_iff proper

end Runs

/-- A redelivery of the sample attempt. -/
def journalRequest : CreateRequest where
  attempt := sampleAttempt
  repository := "o/r"
  githubDeliveryId := 7
  requestedAt := AwareDatetime.utc sampleNow
  principal :=
    { authenticationMethod := .managementBearer, issuer := none, subject := none,
      clientId := none, scopes := ∅ }
  authorization := none

/-- The end of the entry of `sampleActionId`. -/
def finalizeRequest (state : Str) : FinalizeRequest where
  actionId := sampleActionId
  state := state
  completedAt := AwareDatetime.utc sampleNow
  upstreamStatusCode := none
  failureCategory := none

/-- Two entries of one instant, one of them finalized; then a page of both. -/
theorem journals_agree_sample : ∃ memory db,
    JournaledInBoth sampleDriver 2 Nat.two_pos
      [.finalize (finalizeRequest "accepted"), .create ⟨3, by decide⟩ journalRequest,
        .create sampleActionId journalRequest] memory db ∧
      ResultsAgree (PostgresRecoveryActionStore.exec sampleDriver db (.listRecent 2 none)).1
        (memory.exec (.listRecent 2 none)).1 := by
  have begun : JournaledInBoth sampleDriver 2 Nat.two_pos [] (.empty 2 Nat.two_pos) .empty := .start
  have first := begun.call (c := .create sampleActionId journalRequest)
    ⟨List.not_mem_nil, Nat.two_pos, by decide⟩ ⟨rfl, by decide⟩
  have second := first.call (c := .create ⟨3, by decide⟩ journalRequest)
    ⟨by decide, by decide, by decide⟩ ⟨rfl, by decide⟩
  have run := second.call (c := .finalize (finalizeRequest "accepted")) rfl
    fun state _ => ⟨rfl, fun _ => by decide⟩
  refine ⟨_, _, run, (journals_agree run (c := .listRecent 2 none) Nat.two_pos).mpr ?_⟩
  exact ⟨trivial, show 2 ≤ sampleDriver.maxLimit by decide⟩

/-- With another state PostgreSQL refuses the state and the memory misses the entry. -/
theorem unknown_action_disagrees :
    JournaledInBoth sampleDriver 1 Nat.one_pos [] (.empty 1 Nat.one_pos) .empty ∧
      (JournalCall.finalize (finalizeRequest "initiated")).IsProper (.empty 1 Nat.one_pos) ∧
      ¬ ResultsAgree
        (PostgresRecoveryActionStore.exec sampleDriver .empty
          (.finalize (finalizeRequest "initiated"))).1
        ((InMemoryRecoveryActionStore.empty 1 Nat.one_pos).exec
          (.finalize (finalizeRequest "initiated"))).1 := by
  refine ⟨.start, rfl, fun same => ?_⟩
  cases same

end WebhookMonitor
