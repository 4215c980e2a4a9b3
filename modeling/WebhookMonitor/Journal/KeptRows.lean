import WebhookMonitor.Deliveries.SchemaFit
import WebhookMonitor.Journal.Concurrent

/-!
# The rows of the journal

What every row of the journal has, whatever calls have run, in whatever order.

* `BoundEntry` — the driver and the columns take the values of an entry;
* `KeptEntry` — so do the check constraints;
* `JournalDatabase.Answers.kept` — a statement leaves such rows only;
* `JournalReachable.kept` — so does every run.
-/

namespace WebhookMonitor

open Python Interaction Database

/-! ## Entries that are kept -/

/-- The driver and the columns take the values of the entry. -/
structure BoundEntry (action : RecoveryAction) : Prop where
  guid : bindText action.deliveryGuid = .ok action.deliveryGuid
  repository : bindText action.repository = .ok action.repository
  issuer : ∀ s, action.principalIssuer = some s → bindText s = .ok s
  subject : ∀ s, action.principalSubject = some s → bindText s = .ok s
  clientId : ∀ s, action.principalClientId = some s → bindText s = .ok s
  scope : ∀ s, action.authorizationScope = some s → bindText s = .ok s
  category : ∀ s, action.failureCategory = some s → bindText s = .ok s
  status : ∀ n, action.upstreamStatusCode = some n → isBigint n = true
  hookId : isBigint action.hookId = true
  deliveryId : isBigint action.githubDeliveryId = true

/-- The table takes the entry. -/
structure KeptEntry (action : RecoveryAction) : Prop where
  bound : BoundEntry action
  storable : isStorable action = true

/-- The values of an outcome that the driver binds. -/
theorem Driver.bindOutcome_eq_ok {status : Option ℤ} {category : Option Str}
    (bound : Driver.bindOutcome status category = .ok ()) :
    (∀ s, category = some s → bindText s = .ok s) ∧ ∀ n, status = some n → isBigint n = true := by
  obtain ⟨column, texts, range⟩ := bind_eq_ok.mp bound
  split at range
  next numbers => exact ⟨mapM_bindText_iff.mp ⟨column, texts⟩, Option.all_eq_true _ _ |>.mp numbers⟩
  next => cases range

section Entries

variable {action : RecoveryAction} {request : FinalizeRequest} {state : RecoveryActionState}

theorem boundEntry_of_bindAction (bound : Driver.bindAction action = .ok ()) :
    BoundEntry action := by
  simp only [Driver.bindAction, bind_eq_ok] at bound
  obtain ⟨_, guid, _, repository, _, issuer, _, subject, _, clientId, _, scope, _, outcome,
    ids⟩ := bound
  obtain ⟨category, status⟩ := Driver.bindOutcome_eq_ok outcome
  split at ids
  next numbers =>
    rw [Bool.and_eq_true] at numbers
    exact
      { guid := isOk_bindText_iff.mp ⟨_, guid⟩
        repository := isOk_bindText_iff.mp ⟨_, repository⟩
        issuer := mapM_bindText_iff.mp ⟨_, issuer⟩
        subject := mapM_bindText_iff.mp ⟨_, subject⟩
        clientId := mapM_bindText_iff.mp ⟨_, clientId⟩
        scope := mapM_bindText_iff.mp ⟨_, scope⟩
        category := category
        status := status
        hookId := numbers.1
        deliveryId := numbers.2 }
  next => cases ids

/-- An outcome that is bound leaves the rest of the entry as it is. -/
theorem BoundEntry.finalized (bound : BoundEntry action)
    (outcome : Driver.bindOutcome request.upstreamStatusCode request.failureCategory = .ok ()) :
    BoundEntry (action.finalized request state) :=
  { bound with
    category := (Driver.bindOutcome_eq_ok outcome).1
    status := (Driver.bindOutcome_eq_ok outcome).2 }

end Entries

/-! ## Statements -/

namespace JournalDatabase

variable {driver : Driver} {db db' : JournalDatabase}

/-- What an insert leaves. -/
theorem respond_insertAction {tx : ℕ} {row : RecoveryAction} :
    (db.respond driver (.insertAction tx row)).2 = db ∨
      KeptEntry row ∧
        (db.respond driver (.insertAction tx row)).2 = db.write tx (.inserted row) := by
  rw [respond]
  cases bound : Driver.bindAction row with
  | error e => exact .inl rfl
  | ok u =>
      dsimp only
      split_ifs with refused
      · exact .inl rfl
      · cases driver.showAction row with
        | error e => exact .inl rfl
        | ok returned =>
            rw [Bool.or_eq_true, not_or, Bool.not_eq_true, Bool.not_eq_false'] at refused
            exact .inr ⟨⟨boundEntry_of_bindAction bound, refused.1⟩, rfl⟩

/-- What a guarded update leaves. -/
theorem respond_updateInitiated {tx : ℕ} {request : FinalizeRequest} {state : RecoveryActionState}
    (seen : ∀ row ∈ db.visible tx, KeptEntry row) :
    (db.respond driver (.updateInitiated tx request state)).2 = db ∨
      ∃ row, KeptEntry row ∧
        (db.respond driver (.updateInitiated tx request state)).2 =
          db.write tx (.updated row) := by
  rw [respond]
  cases bound : Driver.bindOutcome request.upstreamStatusCode request.failureCategory with
  | error e => exact .inl rfl
  | ok u =>
      dsimp only
      cases found : (db.visible tx).find? fun row =>
          row.actionId = request.actionId && row.state = .initiated with
      | none => exact .inl rfl
      | some row =>
          dsimp only
          split_ifs with storable
          · cases driver.showAction (row.finalized request state) with
            | error e => exact .inl rfl
            | ok returned =>
                have kept := seen row (List.mem_of_find?_eq_some found)
                exact .inr ⟨row.finalized request state,
                  ⟨kept.bound.finalized bound, storable⟩, rfl⟩
          · exact .inl rfl

/-- A statement leaves rows that the table takes. -/
theorem Answers.kept {c : JournalStatement} {a : c.Answer}
    (answered : db.Answers driver c a db') (all : db.actions.All KeptEntry) :
    db'.actions.All KeptEntry := by
  rcases answered with ⟨-, responded⟩ | failed
  · have after : db' = (db.respond driver c).2 := congrArg Prod.snd responded
    cases c with
    | insertAction tx row =>
        rcases @respond_insertAction driver db tx row with same | ⟨kept, written⟩
        · rwa [after, same]
        · rw [after, written]
          exact LockedTable.All.write (v := .inserted row) all kept tx
    | updateInitiated tx request state =>
        have seen : ∀ row ∈ db.visible tx, KeptEntry row := all.visible tx
        rcases @respond_updateInitiated driver db tx request state seen with
          same | ⟨row, kept, written⟩
        · rwa [after, same]
        · rw [after, written]
          exact LockedTable.All.write (v := .updated row) all kept tx
    | commit tx =>
        rw [after]
        exact all.commit tx
    | rollback tx =>
        rw [after]
        exact all.rollback tx
    | begin | selectState =>
        rw [after]
        exact all
    | selectAction actionId =>
        have same : (db.respond driver (.selectAction actionId)).2 = db := by
          rw [respond]
          split <;> rfl
        rwa [after, same]
    | selectPage limit after' =>
        have same : (db.respond driver (.selectPage limit after')).2 = db := by
          rw [respond]
          split_ifs <;> rfl
        rwa [after, same]
  · -- a statement that fails ends its transaction or changes nothing
    cases c with
    | commit tx =>
        cases a with
        | ok value => exact failed.elim
        | error e =>
            obtain rfl : db' = db.rollback tx := failed
            exact all.rollback tx
    | rollback tx => exact failed.elim
    | begin | insertAction | updateInitiated | selectState | selectAction | selectPage =>
        cases a with
        | ok value => exact failed.elim
        | error e =>
            obtain rfl : db' = db := failed
            exact all

end JournalDatabase

/-! ## Runs -/

/-- Whatever calls have run, the table takes every row that is there. -/
theorem JournalReachable.kept {driver : Driver} {cfg : JournalConfig}
    (reachable : JournalReachable driver cfg) : cfg.world.actions.All KeptEntry := by
  refine System.Reachable.invariant (P := fun cfg => cfg.world.actions.All KeptEntry)
    LockedTable.All.empty ?_ reachable
  intro cfg l cfg' _ all step _
  cases step with
  | spawn call free => exact all
  | answer pending answered => exact answered.kept all

end WebhookMonitor
