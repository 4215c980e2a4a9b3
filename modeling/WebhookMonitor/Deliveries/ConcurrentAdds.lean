import WebhookMonitor.Interaction.Schedule
import WebhookMonitor.Persistence.Deliveries

/-!
# Concurrent adds to the PostgreSQL delivery store

Any number of `add` calls, their statements interleaved in any order, any of them
failing at any statement.

* `DeliveryDatabase.Answers` — what the database may answer: an insert that
  would collide with a pending row has no answer until the other transaction has
  ended, and every statement may fail;
* `DeliveryDatabase.LossyAnswers` — the same when the answer to a `COMMIT` may be lost on
  its way: the client sees an error, and the rows are committed;
* `Effect` — both, case by case;
* `Stage` — how far a call has come; the program that is left of it is
  `Stage.program`, what it has left in the tables is `Stage.Holds`, and what it has
  been told of its `COMMIT` is `Stage.Told`;
* `Consistent` — the invariant of the whole system;
* `Consistent.settles` — what the answer to a `COMMIT` says of the rows;
* `adds_keep_one_delivery` — what the invariant says about the committed rows.

By `Answers` alone a transaction whose `COMMIT` fails has been rolled back, which is what
`addSystem` and `adds_keep_one_delivery` assume.  `lossyAddSystem` does not; what is left
out there too is a `COMMIT` that is carried out only after the client has seen the error.
-/

namespace WebhookMonitor

open Python Interaction Database

/-! ## What the database may answer -/

namespace DeliveryDatabase

/-- A statement fails.  What it has written disappears with its transaction. -/
def Fails (db : DeliveryDatabase) : (c : SqlCall) → c.Answer → DeliveryDatabase → Prop
  | .begin, .error _, db' => db' = db
  | .insertDelivery .., .error _, db' => db' = db
  | .selectDelivery .., .error _, db' => db' = db
  | .insertAttempt .., .error _, db' => db' = db
  | .commit tx, .error _, db' => db' = db.rollback tx
  | _, _, _ => False

/-- The answers the database may give. -/
def Answers (driver : Driver) (db : DeliveryDatabase) (c : SqlCall) (a : c.Answer)
    (db' : DeliveryDatabase) : Prop :=
  (¬ db.Waits c ∧ (a, db') = db.respond driver c) ∨ db.Fails c a db'

/-- A `COMMIT` is carried out, and its answer is lost. -/
def Loses (db : DeliveryDatabase) : (c : SqlCall) → c.Answer → DeliveryDatabase → Prop
  | .commit tx, .error _, db' => db' = db.commit tx
  | _, _, _ => False

/-- The answers a client may get whose connection can break. -/
def LossyAnswers (driver : Driver) (db : DeliveryDatabase) (c : SqlCall) (a : c.Answer)
    (db' : DeliveryDatabase) : Prop :=
  db.Answers driver c a db' ∨ db.Loses c a db'

/-- The answers case by case; `lost` says whether the one to a `COMMIT` may be lost. -/
inductive Effect (driver : Driver) (lost : Prop) (db : DeliveryDatabase) :
    (c : SqlCall) → c.Answer → DeliveryDatabase → Prop where
  | begun :
      Effect driver lost db .begin (.ok (db.started + 1)) { db with started := db.started + 1 }
  | inserted {tx : ℕ} {values : DeliveryColumns}
      (free : ¬ Table.Blocked id db.deliveries tx values)
      (new : ∀ row ∈ db.deliveries.visible tx, row.values ≠ values) :
      Effect driver lost db (.insertDelivery tx values) (.ok (some (db.deliveries.lastId + 1)))
        { db with deliveries := db.deliveries.insert tx values }
  | present {tx : ℕ} {values : DeliveryColumns} {row : Row DeliveryColumns}
      (there : row ∈ db.deliveries.visible tx) (same : row.values = values) :
      Effect driver lost db (.insertDelivery tx values) (.ok none)
        { db with deliveries := db.deliveries.generate }
  | selected {tx : ℕ} {values : DeliveryColumns} :
      Effect driver lost db (.selectDelivery tx values)
        (.ok (((db.deliveries.visible tx).filter fun row => row.values = values).map Row.id)) db
  | attemptInserted {tx : ℕ} {values : AttemptParameters} {row : StoredAttempt}
      (bound : driver.bindAttempt values = .ok row)
      (free : ¬ Table.Blocked AttemptColumns.attemptId db.attempts tx row.attemptId)
      (new : ∀ other ∈ db.attempts.visible tx, other.values.attemptId ≠ row.attemptId) :
      Effect driver lost db (.insertAttempt tx values) (.ok ())
        { db with attempts := db.attempts.insert tx row }
  | committed {tx : ℕ} : Effect driver lost db (.commit tx) (.ok ()) (db.commit tx)
  | rolledBack {tx : ℕ} : Effect driver lost db (.rollback tx) () (db.rollback tx)
  | beginFailed {e : StatementError} : Effect driver lost db .begin (.error e) db
  | insertFailed {tx : ℕ} {values : DeliveryColumns} {e : StatementError} :
      Effect driver lost db (.insertDelivery tx values) (.error e) db
  | selectFailed {tx : ℕ} {values : DeliveryColumns} {e : StatementError} :
      Effect driver lost db (.selectDelivery tx values) (.error e) db
  | attemptFailed {tx : ℕ} {values : AttemptParameters} {e : StatementError}
      {attempts : Table StoredAttempt}
      (unused : attempts = db.attempts ∨ attempts = db.attempts.generate) :
      Effect driver lost db (.insertAttempt tx values) (.error e) { db with attempts }
  | commitFailed {tx : ℕ} {e : StatementError} :
      Effect driver lost db (.commit tx) (.error e) (db.rollback tx)
  | commitLost {tx : ℕ} {e : StatementError} (may : lost) :
      Effect driver lost db (.commit tx) (.error e) (db.commit tx)

end DeliveryDatabase

/-- Binding an identity changes nothing in it. -/
theorem bindDelivery_eq_ok {values values' : DeliveryColumns}
    (bound : bindDelivery values = .ok values') : values' = values := by
  rw [bindDelivery] at bound
  obtain ⟨guid, hguid, rest⟩ := bind_eq_ok.mp bound
  have same : guid = values.deliveryGuid := by
    rw [bindText] at hguid
    split_ifs at hguid
    cases hguid
    rfl
  split_ifs at rest
  cases rest
  rw [same]

/-- Binding an attempt keeps its identifier and its delivery. -/
theorem Driver.bindAttempt_eq_ok {driver : Driver} {values : AttemptParameters}
    {row : StoredAttempt} (bound : driver.bindAttempt values = .ok row) :
    row.attemptId = values.attemptId ∧ row.githubDeliveryId = values.githubDeliveryId := by
  rw [bindAttempt] at bound
  obtain ⟨_, -, bound⟩ := bind_eq_ok.mp bound
  obtain ⟨_, -, bound⟩ := bind_eq_ok.mp bound
  obtain ⟨_, -, bound⟩ := bind_eq_ok.mp bound
  obtain ⟨_, -, bound⟩ := bind_eq_ok.mp bound
  obtain ⟨_, -, bound⟩ := bind_eq_ok.mp bound
  obtain ⟨_, -, bound⟩ := bind_eq_ok.mp bound
  split_ifs at bound
  cases bound
  exact ⟨rfl, rfl⟩

namespace DeliveryDatabase

variable {driver : Driver} {lost : Prop} {db db' : DeliveryDatabase} {c : SqlCall} {a : c.Answer}

/-- The answer of a statement that runs. -/
theorem effect_of_responded (free : ¬ db.Waits c) (responded : (a, db') = db.respond driver c) :
    Effect driver lost db c a db' := by
  cases c with
  | begin =>
      cases responded
      exact .begun
  | insertDelivery tx values =>
      rw [respond] at responded
      cases bound : bindDelivery values with
      | error e =>
          rw [bound] at responded
          cases responded
          exact .insertFailed
      | ok values' =>
          obtain rfl := bindDelivery_eq_ok bound
          rw [bound] at responded
          dsimp only at responded
          split_ifs at responded with there
          · cases responded
            obtain ⟨row, mem, same⟩ := List.any_eq_true.mp there
            exact .present mem (of_decide_eq_true same)
          · cases responded
            refine .inserted free fun row mem same => there ?_
            exact List.any_eq_true.mpr ⟨row, mem, decide_eq_true same⟩
  | selectDelivery tx values =>
      rw [respond] at responded
      cases bound : bindDelivery values with
      | error e =>
          rw [bound] at responded
          cases responded
          exact .selectFailed
      | ok values' =>
          obtain rfl := bindDelivery_eq_ok bound
          rw [bound] at responded
          cases responded
          exact .selected
  | insertAttempt tx values =>
      rw [respond] at responded
      cases bound : driver.bindAttempt values with
      | error e =>
          rw [bound] at responded
          cases responded
          exact .attemptFailed (.inl rfl)
      | ok row =>
          rw [bound] at responded
          dsimp only at responded
          split_ifs at responded with violated
          · cases responded
            exact .attemptFailed (.inr rfl)
          · cases responded
            rw [Bool.not_eq_true, Bool.or_eq_false_iff] at violated
            have same := (Driver.bindAttempt_eq_ok bound).1
            refine .attemptInserted bound (same ▸ free) fun other mem equal => ?_
            have := List.any_eq_false.mp violated.1 other mem
            exact this (decide_eq_true equal)
  | commit tx =>
      cases responded
      exact .committed
  | rollback tx =>
      cases responded
      exact .rolledBack

/-- The answer of a statement that fails. -/
theorem effect_of_fails (failed : db.Fails c a db') : Effect driver lost db c a db' := by
  cases c with
  | begin =>
      cases a with
      | ok tx => exact failed.elim
      | error e =>
          obtain rfl : db' = db := failed
          exact .beginFailed
  | insertDelivery tx values =>
      cases a with
      | ok id => exact failed.elim
      | error e =>
          obtain rfl : db' = db := failed
          exact .insertFailed
  | selectDelivery tx values =>
      cases a with
      | ok ids => exact failed.elim
      | error e =>
          obtain rfl : db' = db := failed
          exact .selectFailed
  | insertAttempt tx values =>
      cases a with
      | ok u => exact failed.elim
      | error e =>
          obtain rfl : db' = db := failed
          exact .attemptFailed (.inl rfl)
  | commit tx =>
      cases a with
      | ok u => exact failed.elim
      | error e =>
          obtain rfl : db' = db.rollback tx := failed
          exact .commitFailed
  | rollback tx => exact failed.elim

/-- Every answer is one of the cases. -/
theorem effect_of_answers (answered : db.Answers driver c a db') :
    Effect driver lost db c a db' := by
  rcases answered with ⟨free, responded⟩ | failed
  · exact effect_of_responded free responded
  · exact effect_of_fails failed

theorem effect_of_lossyAnswers (answered : db.LossyAnswers driver c a db') :
    Effect driver True db c a db' := by
  rcases answered with answered | lost
  · exact effect_of_answers answered
  · cases c with
    | commit tx =>
        cases a with
        | ok u => exact lost.elim
        | error e =>
            obtain rfl : db' = db.commit tx := lost
            exact .commitLost trivial
    | begin | insertDelivery | selectDelivery | insertAttempt | rollback => exact lost.elim

/-! ## What a statement keeps -/

/-- The constraints of the two tables, and no row of a transaction to come. -/
structure Sound (db : DeliveryDatabase) : Prop where
  deliveries : Table.Sound id db.deliveries
  attempts : Table.Sound AttemptColumns.attemptId db.attempts
  delivery_started : ∀ row ∈ db.deliveries.committed ++ db.deliveries.pending,
    row.xmin ≤ db.started
  attempt_started : ∀ row ∈ db.attempts.committed ++ db.attempts.pending, row.xmin ≤ db.started

/-- What a statement of one transaction leaves alone. -/
structure Frame (tx : ℕ) (db db' : DeliveryDatabase) : Prop where
  deliveries : Table.Frame tx db.deliveries db'.deliveries
  attempts : Table.Frame tx db.attempts db'.attempts
  started : db.started ≤ db'.started

end DeliveryDatabase

/-- The transaction of a statement. -/
def SqlCall.tx? : SqlCall → Option ℕ
  | .begin => none
  | .insertDelivery tx _ | .selectDelivery tx _ | .insertAttempt tx _ | .commit tx
  | .rollback tx => some tx

namespace DeliveryDatabase

variable {driver : Driver} {lost : Prop} {db db' : DeliveryDatabase} {c : SqlCall} {a : c.Answer}

theorem Frame.refl (tx : ℕ) (db : DeliveryDatabase) : Frame tx db db :=
  ⟨.refl _ _, .refl _ _, Nat.le_refl _⟩

theorem Frame.rollback (tx : ℕ) (db : DeliveryDatabase) : Frame tx db (db.rollback tx) :=
  ⟨.rollback _ _, .rollback _ _, Nat.le_refl _⟩

/-- A statement touches the rows of its own transaction only. -/
theorem Effect.frame {tx : ℕ} (effect : Effect driver lost db c a db') (own : c.tx? = some tx) :
    Frame tx db db' := by
  cases effect with
  | begun | beginFailed => cases own
  | inserted => cases own; exact ⟨.insert _ _ _, .refl _ _, Nat.le_refl _⟩
  | present => cases own; exact ⟨.generate _ _, .refl _ _, Nat.le_refl _⟩
  | attemptInserted => cases own; exact ⟨.refl _ _, .insert _ _ _, Nat.le_refl _⟩
  | committed | commitLost => cases own; exact ⟨.commit _ _, .commit _ _, Nat.le_refl _⟩
  | rolledBack | commitFailed => cases own; exact .rollback _ _
  | selected | insertFailed | selectFailed => exact .refl _ _
  | attemptFailed unused =>
      rcases unused with rfl | rfl
      · exact .refl _ _
      · exact ⟨.refl _ _, .generate _ _, Nat.le_refl _⟩

/-- A transaction begins with its number and nothing else. -/
theorem Effect.begin {a : SqlCall.begin.Answer} (effect : Effect driver lost db .begin a db') :
    (a = .ok (db.started + 1) ∧ db' = { db with started := db.started + 1 }) ∨
      ((∃ e, a = .error e) ∧ db' = db) := by
  cases effect with
  | begun => exact .inl ⟨rfl, rfl⟩
  | beginFailed => exact .inr ⟨⟨_, rfl⟩, rfl⟩

theorem Sound.rollback (sound : Sound db) (tx : ℕ) : Sound (db.rollback tx) := by
  refine ⟨sound.deliveries.rollback, sound.attempts.rollback, ?_, ?_⟩
  · intro row mem
    refine sound.delivery_started row ?_
    rcases List.mem_append.mp mem with mem | mem
    · exact List.mem_append_left _ mem
    · exact List.mem_append_right _ (Table.mem_rollback_pending.mp mem).1
  · intro row mem
    refine sound.attempt_started row ?_
    rcases List.mem_append.mp mem with mem | mem
    · exact List.mem_append_left _ mem
    · exact List.mem_append_right _ (Table.mem_rollback_pending.mp mem).1

/-- Every statement keeps the constraints. -/
theorem Effect.sound (effect : Effect driver lost db c a db') (sound : Sound db)
    (begun : ∀ tx, c.tx? = some tx → tx ≤ db.started) : Sound db' := by
  have deliveryStarted : ∀ {tx}, c.tx? = some tx →
      ∀ row ∈ db'.deliveries.committed ++ db'.deliveries.pending, row.xmin ≤ db'.started := by
    intro tx own row mem
    have frame := effect.frame own
    refine Nat.le_trans ?_ frame.started
    rcases frame.deliveries.of_mem mem with mem | rfl
    · exact sound.delivery_started row mem
    · exact begun _ own
  have attemptStarted : ∀ {tx}, c.tx? = some tx →
      ∀ row ∈ db'.attempts.committed ++ db'.attempts.pending, row.xmin ≤ db'.started := by
    intro tx own row mem
    have frame := effect.frame own
    refine Nat.le_trans ?_ frame.started
    rcases frame.attempts.of_mem mem with mem | rfl
    · exact sound.attempt_started row mem
    · exact begun _ own
  cases effect with
  | begun =>
      exact ⟨sound.deliveries, sound.attempts,
        fun row mem => Nat.le_succ_of_le (sound.delivery_started row mem),
        fun row mem => Nat.le_succ_of_le (sound.attempt_started row mem)⟩
  | inserted free new =>
      exact ⟨sound.deliveries.insert free new, sound.attempts, deliveryStarted rfl,
        attemptStarted rfl⟩
  | present =>
      exact ⟨sound.deliveries.generate, sound.attempts, deliveryStarted rfl, attemptStarted rfl⟩
  | attemptInserted _ free new =>
      exact ⟨sound.deliveries, sound.attempts.insert free new, deliveryStarted rfl,
        attemptStarted rfl⟩
  | committed | commitLost =>
      exact ⟨sound.deliveries.commit, sound.attempts.commit, deliveryStarted rfl,
        attemptStarted rfl⟩
  | rolledBack | commitFailed => exact sound.rollback _
  | beginFailed | selected | insertFailed | selectFailed => exact sound
  | attemptFailed unused =>
      rcases unused with rfl | rfl
      · exact sound
      · exact ⟨sound.deliveries, sound.attempts.generate, deliveryStarted rfl, attemptStarted rfl⟩

end DeliveryDatabase

/-! ## The stages of a call -/

/-- The row of an attempt: its values as bound. -/
def DeliveryAttempt.HasRow (driver : Driver) (attempt : DeliveryAttempt) (row : StoredAttempt) :
    Prop :=
  ∃ values, deliveryAttemptValues attempt row.githubDeliveryId = .ok values ∧
    driver.bindAttempt values = .ok row

/-- How far a call of `add` has come. -/
inductive Stage where
  | start
  | begun (tx : ℕ)
  | selecting (tx : ℕ)
  | inserting (tx : ℕ) (values : AttemptParameters)
  | committing (tx : ℕ)
  | rollingBack (tx : ℕ) (e : AppError)
  | returned (tx : ℕ)
  | raised (tx : Option ℕ) (e : AppError)
  /-- The `COMMIT` was carried out, and the call is about to roll back. -/
  | unanswered (tx : ℕ) (e : AppError)
  /-- It was carried out, and the call has raised. -/
  | doubtful (tx : ℕ) (e : AppError)

/-- The answer to a `COMMIT`. -/
def commitAnswer : Event Sql → Option (Except StatementError Unit)
  | ⟨.commit _, answer⟩ => some answer
  | _ => none

/-- What a call has been told of its `COMMIT`. -/
def toldOf (h : List (Event Sql)) : Option (Except StatementError Unit) := h.findSome? commitAnswer

namespace Stage

open PostgresDeliveryStore

/-- The transaction of the call. -/
def tx? : Stage → Option ℕ
  | .start => none
  | .begun tx | .selecting tx | .inserting tx _ | .committing tx | .rollingBack tx _
  | .returned tx | .unanswered tx _ | .doubtful tx _ => some tx
  | .raised tx _ => tx

/-- What is left of the call. -/
def program (attempt : DeliveryAttempt) : Stage → Transaction Unit
  | .start => add attempt
  | .begun tx => tryCatch (insertRows tx attempt) (PostgresDeliveryStore.rollback tx)
  | .selecting tx =>
      tryCatch (deliveryIdOf tx attempt none >>= insertAttempt tx attempt)
        (PostgresDeliveryStore.rollback tx)
  | .inserting tx values =>
      .call (.insertAttempt tx values) fun inserted =>
        tryCatch (orStoreFailure inserted >>= fun _ => PostgresDeliveryStore.commit tx)
          (PostgresDeliveryStore.rollback tx)
  | .committing tx => tryCatch (PostgresDeliveryStore.commit tx) (PostgresDeliveryStore.rollback tx)
  | .rollingBack tx e | .unanswered tx e => PostgresDeliveryStore.rollback tx e
  | .returned _ => .ret ()
  | .raised _ e | .doubtful _ e => .raise e

/-- What the call has been told of its `COMMIT`. -/
def Told : Stage → Option (Except StatementError Unit) → Prop
  | .start, told | .begun _, told | .selecting _, told | .inserting .., told
  | .committing _, told => told = none
  | .returned _, told => told = some (.ok ())
  | .rollingBack .., told | .raised .., told => told ≠ some (.ok ())
  | .unanswered .., told | .doubtful .., told => ∃ e, told = some (.error e)

/-- Nothing of the transaction is in the table. -/
def Untouched {ρ : Type} (t : Table ρ) (tx : ℕ) : Prop :=
  t.committedOf tx = [] ∧ t.pendingOf tx = []

/-- The identity of the attempt has the surrogate key `id`. -/
def Identified (attempt : DeliveryAttempt) (id : ℕ) (rows : List (Row DeliveryColumns)) : Prop :=
  ∃ delivery ∈ rows, delivery.id = id ∧ delivery.values = deliveryIdentityValues attempt

/-- No row of the transaction is committed. -/
def Uncommitted (db : DeliveryDatabase) (tx : ℕ) : Prop :=
  db.deliveries.committedOf tx = [] ∧ db.attempts.committedOf tx = []

/-- The transaction has committed the row of the attempt, and has nothing pending. -/
def Recorded (driver : Driver) (attempt : DeliveryAttempt) (db : DeliveryDatabase) (tx : ℕ) :
    Prop :=
  db.deliveries.pendingOf tx = [] ∧ db.attempts.pendingOf tx = [] ∧
    ∃ row, db.attempts.committedOf tx = [row] ∧ attempt.HasRow driver row.values ∧
      Identified attempt row.values.githubDeliveryId db.deliveries.committed

/-- What the call has left in the tables. -/
def Holds (driver : Driver) (lost : Prop) (attempt : DeliveryAttempt) (db : DeliveryDatabase) :
    Stage → Prop
  | .start => True
  | .begun tx => Untouched db.deliveries tx ∧ Untouched db.attempts tx
  | .selecting tx =>
      Untouched db.deliveries tx ∧ Untouched db.attempts tx ∧
        ∃ delivery ∈ db.deliveries.committed, delivery.values = deliveryIdentityValues attempt
  | .inserting tx values =>
      db.deliveries.committedOf tx = [] ∧ Untouched db.attempts tx ∧
        deliveryAttemptValues attempt values.githubDeliveryId = .ok values ∧
        Identified attempt values.githubDeliveryId (db.deliveries.visible tx)
  | .committing tx =>
      db.deliveries.committedOf tx = [] ∧ db.attempts.committedOf tx = [] ∧
        ∃ row, db.attempts.pendingOf tx = [row] ∧ attempt.HasRow driver row.values ∧
          Identified attempt row.values.githubDeliveryId (db.deliveries.visible tx)
  | .rollingBack tx _ => Uncommitted db tx
  | .returned tx => Recorded driver attempt db tx
  | .raised none _ => True
  | .raised (some tx) _ => Untouched db.deliveries tx ∧ Untouched db.attempts tx
  | .unanswered tx _ | .doubtful tx _ => lost ∧ Recorded driver attempt db tx

variable {driver : Driver} {lost : Prop} {attempt : DeliveryAttempt} {db db' : DeliveryDatabase}

theorem Untouched.frame {ρ : Type} {t t' : Table ρ} {tx other : ℕ} (untouched : Untouched t tx)
    (frame : Table.Frame other t t') (different : tx ≠ other) : Untouched t' tx :=
  ⟨(frame.committedOf different).trans untouched.1, (frame.pendingOf _ different).trans untouched.2⟩

theorem Identified.mono {id : ℕ} {rows rows' : List (Row DeliveryColumns)}
    (identified : Identified attempt id rows) (more : ∀ row ∈ rows, row ∈ rows') :
    Identified attempt id rows' := by
  obtain ⟨delivery, mem, named, same⟩ := identified
  exact ⟨delivery, more delivery mem, named, same⟩

/-- What a transaction sees stays when another one takes a step. -/
theorem visible_frame {tx other : ℕ} (frame : DeliveryDatabase.Frame other db db')
    (different : tx ≠ other) :
    ∀ row ∈ db.deliveries.visible tx, row ∈ db'.deliveries.visible tx := by
  intro row mem
  rcases List.mem_append.mp mem with mem | mem
  · exact List.mem_append_left _ (frame.deliveries.mem_committed mem)
  · rw [Table.visible, frame.deliveries.pendingOf _ different]
    exact List.mem_append_right _ mem

/-- The one committed row of the transaction is the one of the attempt. -/
theorem Recorded.isRow {row : Row StoredAttempt} (recorded : Recorded driver attempt db row.xmin)
    (mem : row ∈ db.attempts.committed) :
    attempt.HasRow driver row.values ∧
      Identified attempt row.values.githubDeliveryId db.deliveries.committed := by
  obtain ⟨-, -, row', committed, isRow⟩ := recorded
  have same : row ∈ db.attempts.committedOf row.xmin := Table.mem_committedOf.mpr ⟨mem, rfl⟩
  rw [committed] at same
  obtain rfl := List.mem_singleton.mp same
  exact isRow

/-- A step of another transaction keeps a committed row. -/
theorem Recorded.frame {tx other : ℕ} (recorded : Recorded driver attempt db tx)
    (frame : DeliveryDatabase.Frame other db db') (different : tx ≠ other) :
    Recorded driver attempt db' tx := by
  obtain ⟨deliveries, attempts, row, committed, hasRow, identified⟩ := recorded
  exact ⟨(frame.deliveries.pendingOf _ different).trans deliveries,
    (frame.attempts.pendingOf _ different).trans attempts, row,
    (frame.attempts.committedOf different).trans committed, hasRow,
    identified.mono fun _ => frame.deliveries.mem_committed⟩

/-- So does a rollback of its own. -/
theorem Recorded.rollback {tx : ℕ} (recorded : Recorded driver attempt db tx) :
    Recorded driver attempt (db.rollback tx) tx :=
  ⟨Table.pendingOf_rollback _ _, Table.pendingOf_rollback _ _, recorded.2.2⟩

/-- A step of another transaction keeps what a call has left in the tables. -/
theorem Holds.frame {stage : Stage} {other : ℕ} (holds : stage.Holds driver lost attempt db)
    (frame : DeliveryDatabase.Frame other db db') (different : stage.tx? ≠ some other) :
    stage.Holds driver lost attempt db' := by
  have ne : ∀ tx, stage.tx? = some tx → tx ≠ other := by
    rintro tx own rfl
    exact different own
  cases stage with
  | start => trivial
  | begun tx =>
      exact ⟨holds.1.frame frame.deliveries (ne tx rfl), holds.2.frame frame.attempts (ne tx rfl)⟩
  | selecting tx =>
      obtain ⟨deliveries, attempts, delivery, mem, same⟩ := holds
      exact ⟨deliveries.frame frame.deliveries (ne tx rfl),
        attempts.frame frame.attempts (ne tx rfl), delivery,
        frame.deliveries.mem_committed mem, same⟩
  | inserting tx values =>
      obtain ⟨deliveries, attempts, bound, identified⟩ := holds
      exact ⟨(frame.deliveries.committedOf (ne tx rfl)).trans deliveries,
        attempts.frame frame.attempts (ne tx rfl), bound,
        identified.mono (visible_frame frame (ne tx rfl))⟩
  | committing tx =>
      obtain ⟨deliveries, attempts, row, pending, hasRow, identified⟩ := holds
      exact ⟨(frame.deliveries.committedOf (ne tx rfl)).trans deliveries,
        (frame.attempts.committedOf (ne tx rfl)).trans attempts, row,
        (frame.attempts.pendingOf _ (ne tx rfl)).trans pending, hasRow,
        identified.mono (visible_frame frame (ne tx rfl))⟩
  | rollingBack tx e =>
      exact ⟨(frame.deliveries.committedOf (ne tx rfl)).trans holds.1,
        (frame.attempts.committedOf (ne tx rfl)).trans holds.2⟩
  | returned tx => exact Recorded.frame holds frame (ne tx rfl)
  | unanswered tx e | doubtful tx e => exact ⟨holds.1, holds.2.frame frame (ne tx rfl)⟩
  | raised tx e =>
      cases tx with
      | none => trivial
      | some tx =>
          exact ⟨holds.1.frame frame.deliveries (ne tx rfl),
            holds.2.frame frame.attempts (ne tx rfl)⟩

/-! ### One answer -/

/-- The call is in some stage with transaction `tx`, has been `told` of its `COMMIT`, and has
`rest` left to do. -/
def Reaches (driver : Driver) (lost : Prop) (attempt : DeliveryAttempt) (db : DeliveryDatabase)
    (tx : Option ℕ) (told : Option (Except StatementError Unit)) (rest : Transaction Unit) : Prop :=
  ∃ stage : Stage, rest = stage.program attempt ∧ stage.tx? = tx ∧ stage.Told told ∧
    stage.Holds driver lost attempt db

/-- An exception leads to the rollback. -/
theorem reaches_rollback {tx : ℕ} {e : AppError} {told : Option (Except StatementError Unit)}
    (deliveries : db.deliveries.committedOf tx = []) (attempts : db.attempts.committedOf tx = [])
    (failed : told ≠ some (.ok ())) :
    Reaches driver lost attempt db (some tx) told
      (tryCatch (.raise e) (PostgresDeliveryStore.rollback tx)) :=
  ⟨.rollingBack tx e, rfl, rfl, failed, deliveries, attempts⟩

/-- With the surrogate key the attempt can be inserted, unless it has no columns. -/
theorem reaches_insertAttempt {tx githubDeliveryId : ℕ}
    (deliveries : db.deliveries.committedOf tx = []) (attempts : Untouched db.attempts tx)
    (identified : Identified attempt githubDeliveryId (db.deliveries.visible tx)) :
    Reaches driver lost attempt db (some tx) none
      (tryCatch (insertAttempt tx attempt githubDeliveryId)
        (PostgresDeliveryStore.rollback tx)) := by
  cases bound : deliveryAttemptValues attempt githubDeliveryId with
  | error e =>
      rw [insertAttempt, bound]
      exact reaches_rollback deliveries attempts.1 (by simp)
  | ok values =>
      have key : values.githubDeliveryId = githubDeliveryId := by
        obtain ⟨_, -, built⟩ := bind_eq_ok.mp bound
        cases built
        rfl
      refine ⟨.inserting tx values, ?_, rfl, rfl, deliveries, attempts, key ▸ bound,
        key ▸ identified⟩
      rw [insertAttempt, bound]
      rfl

theorem start_next {a : SqlCall.begin.Answer} (sound : db.Sound)
    (effect : db.Effect driver lost .begin a db') :
    Reaches driver lost attempt db' a.toOption none
      (orStoreFailure a >>= fun tx =>
        tryCatch (insertRows tx attempt) (PostgresDeliveryStore.rollback tx)) := by
  obtain ⟨rfl, rfl⟩ | ⟨⟨e, rfl⟩, rfl⟩ := effect.begin
  · refine ⟨.begun (db.started + 1), rfl, rfl, rfl, ⟨?_, ?_⟩, ⟨?_, ?_⟩⟩
    -- no row can be of a transaction that begins only now
    · refine List.eq_nil_iff_forall_not_mem.mpr fun row mem => ?_
      obtain ⟨mem, own⟩ := Table.mem_committedOf.mp mem
      have := sound.delivery_started row (List.mem_append_left _ mem)
      omega
    · refine List.eq_nil_iff_forall_not_mem.mpr fun row mem => ?_
      obtain ⟨mem, own⟩ := Table.mem_pendingOf.mp mem
      have := sound.delivery_started row (List.mem_append_right _ mem)
      omega
    · refine List.eq_nil_iff_forall_not_mem.mpr fun row mem => ?_
      obtain ⟨mem, own⟩ := Table.mem_committedOf.mp mem
      have := sound.attempt_started row (List.mem_append_left _ mem)
      omega
    · refine List.eq_nil_iff_forall_not_mem.mpr fun row mem => ?_
      obtain ⟨mem, own⟩ := Table.mem_pendingOf.mp mem
      have := sound.attempt_started row (List.mem_append_right _ mem)
      omega
  · exact ⟨.raised none (storeFailure e), rfl, rfl, (fun told => by cases told), trivial⟩

theorem begun_next {tx : ℕ} {a : Except StatementError (Option ℕ)}
    (holds : (begun tx).Holds driver lost attempt db)
    (effect : db.Effect driver lost (.insertDelivery tx (deliveryIdentityValues attempt)) a db') :
    Reaches driver lost attempt db' (some tx) none
      (tryCatch (orStoreFailure a >>= fun inserted =>
        deliveryIdOf tx attempt inserted >>= insertAttempt tx attempt)
          (PostgresDeliveryStore.rollback tx)) := by
  obtain ⟨deliveries, attempts⟩ := holds
  cases effect with
  | inserted free new =>
      have identified : Identified attempt (db.deliveries.lastId + 1)
          ((db.deliveries.insert tx (deliveryIdentityValues attempt)).visible tx) := by
        refine ⟨⟨db.deliveries.lastId + 1, tx, deliveryIdentityValues attempt⟩, ?_, rfl, rfl⟩
        rw [Table.visible, Table.pendingOf_insert]
        exact List.mem_append_right _ (List.mem_append_right _ (List.mem_singleton_self _))
      exact reaches_insertAttempt deliveries.1 attempts identified
  | @present _ _ row there same =>
      refine ⟨.selecting tx, rfl, rfl, rfl, deliveries, attempts, row, ?_, same⟩
      rw [Table.visible, deliveries.2, List.append_nil] at there
      exact there
  | insertFailed => exact reaches_rollback deliveries.1 attempts.1 (by simp)

theorem selecting_next {tx : ℕ} {a : Except StatementError (List ℕ)} (sound : db.Sound)
    (holds : (selecting tx).Holds driver lost attempt db)
    (effect : db.Effect driver lost (.selectDelivery tx (deliveryIdentityValues attempt)) a db') :
    (∀ ids, a = .ok ids → ids.length = 1) ∧
    Reaches driver lost attempt db' (some tx) none
      (tryCatch ((orStoreFailure a >>= scalarOne) >>= insertAttempt tx attempt)
          (PostgresDeliveryStore.rollback tx)) := by
  obtain ⟨deliveries, attempts, delivery, mem, same⟩ := holds
  cases effect with
  | selected =>
      have one : (db.deliveries.visible tx).filter
          (fun row => row.values = deliveryIdentityValues attempt) = [delivery] := by
        have distinct : ((db.deliveries.visible tx).map fun row => row.values).Nodup := by
          rw [Table.visible, deliveries.2, List.append_nil]
          exact sound.deliveries.unique.sublist ((List.sublist_append_left _ _).map _)
        have visible : delivery ∈ db.deliveries.visible tx := List.mem_append_left _ mem
        exact filter_eq_singleton distinct visible same
      rw [one]
      refine ⟨fun ids heq => ?_, ?_⟩
      · cases heq
        rfl
      · exact reaches_insertAttempt deliveries.1 attempts
          ⟨delivery, List.mem_append_left _ mem, rfl, same⟩
  | selectFailed =>
      exact ⟨fun _ heq => absurd heq (by simp), reaches_rollback deliveries.1 attempts.1 (by simp)⟩

theorem inserting_next {tx : ℕ} {values : AttemptParameters} {a : Except StatementError Unit}
    (holds : (inserting tx values).Holds driver lost attempt db)
    (effect : db.Effect driver lost (.insertAttempt tx values) a db') :
    Reaches driver lost attempt db' (some tx) none
      (tryCatch (orStoreFailure a >>= fun _ => PostgresDeliveryStore.commit tx)
        (PostgresDeliveryStore.rollback tx)) := by
  obtain ⟨deliveries, attempts, bound, identified⟩ := holds
  cases effect with
  | @attemptInserted _ _ row stored free new =>
      have key := (Driver.bindAttempt_eq_ok stored).2
      refine ⟨.committing tx, rfl, rfl, rfl, deliveries, attempts.1,
        ⟨db.attempts.lastId + 1, tx, row⟩, ?_, ⟨values, ?_, stored⟩, ?_⟩
      · rw [Table.pendingOf_insert, attempts.2, List.nil_append]
      · rw [key]
        exact bound
      · rw [key]
        exact identified
  | attemptFailed unused =>
      rcases unused with rfl | rfl
      · exact reaches_rollback deliveries attempts.1 (by simp)
      · exact reaches_rollback deliveries attempts.1 (by simp)

theorem committing_next {tx : ℕ} {a : Except StatementError Unit}
    (holds : (committing tx).Holds driver lost attempt db)
    (effect : db.Effect driver lost (.commit tx) a db') :
    Reaches driver lost attempt db' (some tx) (some a)
      (tryCatch (orStoreFailure a) (PostgresDeliveryStore.rollback tx)) := by
  obtain ⟨deliveries, attempts, row, pending, hasRow, identified⟩ := holds
  have recorded : Recorded driver attempt (db.commit tx) tx := by
    refine ⟨Table.pendingOf_commit _ _, Table.pendingOf_commit _ _, row, ?_, hasRow, identified⟩
    change (db.attempts.commit tx).committedOf tx = _
    rw [Table.committedOf_commit, attempts, pending, List.nil_append]
  cases effect with
  | committed => exact ⟨.returned tx, rfl, rfl, rfl, recorded⟩
  | commitFailed => exact reaches_rollback deliveries attempts (by simp)
  | @commitLost _ e may =>
      exact ⟨.unanswered tx (storeFailure e), rfl, rfl, ⟨e, rfl⟩, may, recorded⟩

theorem rollingBack_next {tx : ℕ} {e : AppError} {a : Unit}
    {told : Option (Except StatementError Unit)} (failed : told ≠ some (.ok ()))
    (holds : (rollingBack tx e).Holds driver lost attempt db)
    (effect : db.Effect driver lost (.rollback tx) a db') :
    Reaches driver lost attempt db' (some tx) told (.raise e) := by
  cases effect with
  | rolledBack =>
      exact ⟨.raised (some tx) e, rfl, rfl, failed, ⟨holds.1, Table.pendingOf_rollback _ _⟩,
        holds.2, Table.pendingOf_rollback _ _⟩

theorem unanswered_next {tx : ℕ} {e : AppError} {a : Unit}
    {told : Option (Except StatementError Unit)} (failed : ∃ e, told = some (.error e))
    (holds : (unanswered tx e).Holds driver lost attempt db)
    (effect : db.Effect driver lost (.rollback tx) a db') :
    Reaches driver lost attempt db' (some tx) told (.raise e) := by
  cases effect with
  | rolledBack => exact ⟨.doubtful tx e, rfl, rfl, failed, holds.1, holds.2.rollback⟩

end Stage

/-- The transaction that an answer begins. -/
def beginsTransaction : Event Sql → Option ℕ
  | ⟨.begin, .ok tx⟩ => some tx
  | _ => none

/-- The transaction of a call, from what it has seen. -/
def transactionOf (h : List (Event Sql)) : Option ℕ := h.findSome? beginsTransaction

/-- What the fallback query of a call found. -/
def selectedIds : Event Sql → Option (List ℕ)
  | ⟨.selectDelivery _ _, .ok ids⟩ => some ids
  | _ => none

/-- One answer takes a call from stage to stage. -/
theorem Stage.next {driver : Driver} {lost : Prop} {attempt : DeliveryAttempt}
    {db db' : DeliveryDatabase} {stage : Stage} {told : Option (Except StatementError Unit)}
    {c : SqlCall} {k : c.Answer → PostgresDeliveryStore.Transaction Unit} {a : c.Answer}
    (sound : db.Sound) (heard : stage.Told told) (holds : stage.Holds driver lost attempt db)
    (pending : stage.program attempt = .call c k) (effect : db.Effect driver lost c a db') :
    (∀ ids, selectedIds ⟨c, a⟩ = some ids → ids.length = 1) ∧
      ∃ tx, Reaches driver lost attempt db' tx (told.or (commitAnswer ⟨c, a⟩)) (k a) ∧
        ((stage.tx? = none ∧ tx = beginsTransaction ⟨c, a⟩ ∧ c = .begin) ∨
          (stage.tx? = tx ∧ c.tx? = tx ∧ tx ≠ none)) := by
  cases stage with
  | start =>
      cases pending
      cases heard
      refine ⟨fun _ shown => (by cases shown), _, start_next sound effect, .inl ⟨rfl, ?_, rfl⟩⟩
      cases a with
      | ok tx => rfl
      | error e => rfl
  | begun tx =>
      cases pending
      cases heard
      exact ⟨fun _ shown => (by cases shown), _, begun_next holds effect,
        .inr ⟨rfl, rfl, Option.some_ne_none tx⟩⟩
  | selecting tx =>
      cases pending
      cases heard
      obtain ⟨one, reaches⟩ := selecting_next sound holds effect
      refine ⟨fun ids shown => ?_, _, reaches, .inr ⟨rfl, rfl, Option.some_ne_none tx⟩⟩
      cases a with
      | ok found =>
          cases shown
          exact one _ rfl
      | error e => cases shown
  | inserting tx values =>
      cases pending
      cases heard
      exact ⟨fun _ shown => (by cases shown), _, inserting_next holds effect,
        .inr ⟨rfl, rfl, Option.some_ne_none tx⟩⟩
  | committing tx =>
      cases pending
      cases heard
      exact ⟨fun _ shown => (by cases shown), _, committing_next holds effect,
        .inr ⟨rfl, rfl, Option.some_ne_none tx⟩⟩
  | rollingBack tx e =>
      cases pending
      rw [show commitAnswer ⟨.rollback tx, a⟩ = none from rfl, Option.or_none]
      exact ⟨fun _ shown => (by cases shown), _, rollingBack_next heard holds effect,
        .inr ⟨rfl, rfl, Option.some_ne_none tx⟩⟩
  | unanswered tx e =>
      cases pending
      rw [show commitAnswer ⟨.rollback tx, a⟩ = none from rfl, Option.or_none]
      exact ⟨fun _ shown => (by cases shown), _, unanswered_next heard holds effect,
        .inr ⟨rfl, rfl, Option.some_ne_none tx⟩⟩
  | returned tx => cases pending
  | raised tx e | doubtful tx e => cases pending

/-! ## The whole system -/

/-- Calls of `add` that share the tables. -/
def addSystem (driver : Driver) : System Sql AppError Unit DeliveryAttempt DeliveryDatabase :=
  ⟨PostgresDeliveryStore.add, DeliveryDatabase.Answers driver⟩

/-- The same when the answer to a `COMMIT` may be lost. -/
def lossyAddSystem (driver : Driver) : System Sql AppError Unit DeliveryAttempt DeliveryDatabase :=
  ⟨PostgresDeliveryStore.add, DeliveryDatabase.LossyAnswers driver⟩

abbrev AddConfig := Config Sql AppError Unit DeliveryAttempt DeliveryDatabase

/-- A system of `add` calls, whose database answers as `Effect` says. -/
structure Adds (driver : Driver) (lost : Prop)
    (S : System Sql AppError Unit DeliveryAttempt DeliveryDatabase) : Prop where
  program : S.program = PostgresDeliveryStore.add
  effect : ∀ {db db' : DeliveryDatabase} {c : SqlCall} {a : c.Answer}, S.answers db c a db' →
    db.Effect driver lost c a db'

theorem addSystem_adds (driver : Driver) : Adds driver False (addSystem driver) :=
  ⟨rfl, DeliveryDatabase.effect_of_answers⟩

theorem lossyAddSystem_adds (driver : Driver) : Adds driver True (lossyAddSystem driver) :=
  ⟨rfl, DeliveryDatabase.effect_of_lossyAnswers⟩

/-- Every call is in some stage of its own transaction, and every row of
`delivery_attempts` is of some call. -/
structure Consistent (driver : Driver) (lost : Prop) (cfg : AddConfig) : Prop where
  sound : cfg.world.Sound
  stage : ∀ i t, cfg.threads i = some t →
    Stage.Reaches driver lost t.request cfg.world (transactionOf t.history)
      (toldOf t.history) t.rest
  started : ∀ i t tx, cfg.threads i = some t → transactionOf t.history = some tx →
    tx ≤ cfg.world.started
  distinct : ∀ i j t t' tx, cfg.threads i = some t → cfg.threads j = some t' →
    transactionOf t.history = some tx → transactionOf t'.history = some tx → i = j
  owned : ∀ row ∈ cfg.world.attempts.committed ++ cfg.world.attempts.pending, ∃ i t,
    cfg.threads i = some t ∧ transactionOf t.history = some row.xmin

theorem transactionOf_snoc (h : List (Event Sql)) (e : Event Sql) :
    transactionOf (h ++ [e]) = (transactionOf h).or (beginsTransaction e) := by
  rw [transactionOf, List.findSome?_append, ← transactionOf]
  congr 1
  cases hb : beginsTransaction e <;> simp [hb]

theorem toldOf_snoc (h : List (Event Sql)) (e : Event Sql) :
    toldOf (h ++ [e]) = (toldOf h).or (commitAnswer e) := by
  rw [toldOf, List.findSome?_append, ← toldOf]
  congr 1
  cases answered : commitAnswer e <;> simp [answered]

namespace Consistent

variable {driver : Driver} {lost : Prop} {cfg : AddConfig}

theorem initial : Consistent driver lost (Config.initial .empty) := by
  refine ⟨⟨Table.sound_empty, Table.sound_empty, ?_, ?_⟩, ?_, ?_, ?_, ?_⟩
  · exact fun row mem => absurd mem List.not_mem_nil
  · exact fun row mem => absurd mem List.not_mem_nil
  · exact fun i t running => by cases running
  · exact fun i t tx running => by cases running
  · exact fun i j t t' tx running => by cases running
  · exact fun row mem => absurd mem List.not_mem_nil

/-- A new call changes nothing in the tables. -/
theorem spawn (consistent : Consistent driver lost cfg) {i : ℕ} (attempt : DeliveryAttempt)
    (free : cfg.threads i = none) :
    Consistent driver lost
      (cfg.set cfg.world i ⟨attempt, [], PostgresDeliveryStore.add attempt⟩) := by
  have none_yet : transactionOf [] = none := rfl
  refine ⟨consistent.sound, ?_, ?_, ?_, ?_⟩
  · intro j t running
    obtain ⟨rfl, rfl⟩ | ⟨-, running⟩ := Config.set_cases running
    · exact ⟨.start, rfl, rfl, rfl, trivial⟩
    · exact consistent.stage j t running
  · intro j t tx running own
    obtain ⟨rfl, rfl⟩ | ⟨-, running⟩ := Config.set_cases running
    · cases own
    · exact consistent.started j t tx running own
  · intro j j' t t' tx running running' own own'
    obtain ⟨rfl, rfl⟩ | ⟨-, running⟩ := Config.set_cases running
    · cases own
    · obtain ⟨rfl, rfl⟩ | ⟨-, running'⟩ := Config.set_cases running'
      · cases own'
      · exact consistent.distinct j j' t t' tx running running' own own'
  · intro row mem
    obtain ⟨j, t, running, own⟩ := consistent.owned row mem
    have other : j ≠ i := by
      rintro rfl
      rw [free] at running
      cases running
    exact ⟨j, t, (Config.set_of_ne _ _ _ other).trans running, own⟩

/-- What an answer to call `i` changes stays within transaction `n`.  No other call has
it, and call `i` has `own` afterwards. -/
structure Within (cfg : AddConfig) (i : ℕ) (own : Option ℕ) (db' : DeliveryDatabase) (n : ℕ) :
    Prop where
  frame : DeliveryDatabase.Frame n cfg.world db'
  others : ∀ j t, j ≠ i → cfg.threads j = some t → transactionOf t.history ≠ some n
  named : ∀ m, own = some m → m = n ∧ m ≤ db'.started
  rows : ∀ row ∈ db'.attempts.committed ++ db'.attempts.pending,
    row ∈ cfg.world.attempts.committed ++ cfg.world.attempts.pending ∨ own = some row.xmin

/-- A transaction that begins is one that no call has. -/
theorem within_begin (consistent : Consistent driver lost cfg) (i : ℕ)
    {a : Except StatementError ℕ} {db' : DeliveryDatabase}
    (effect : cfg.world.Effect driver lost .begin a db') :
    Within cfg i (beginsTransaction ⟨.begin, a⟩) db' (cfg.world.started + 1) := by
  refine ⟨?_, ?_, ?_, ?_⟩
  · obtain ⟨-, rfl⟩ | ⟨-, rfl⟩ := effect.begin
    · exact ⟨.refl _ _, .refl _ _, Nat.le_succ _⟩
    · exact .refl _ _
  · intro j t _ running named
    have := consistent.started j t _ running named
    omega
  · intro m new
    obtain ⟨rfl, rfl⟩ | ⟨⟨e, rfl⟩, rfl⟩ := effect.begin
    · cases new
      exact ⟨rfl, Nat.le_refl _⟩
    · cases new
  · intro row mem
    obtain ⟨-, rfl⟩ | ⟨-, rfl⟩ := effect.begin
    · exact .inl mem
    · exact .inl mem

/-- A statement of a call stays within the transaction of the call. -/
theorem within_own (consistent : Consistent driver lost cfg) {i : ℕ}
    {t : Thread Sql AppError Unit DeliveryAttempt} (pending : cfg.threads i = some t) {n : ℕ}
    (own : transactionOf t.history = some n) {c : SqlCall} {a : c.Answer} {db' : DeliveryDatabase}
    (effect : cfg.world.Effect driver lost c a db') (named : c.tx? = some n) :
    Within cfg i (some n) db' n := by
  have frame := effect.frame named
  refine ⟨frame, ?_, ?_, ?_⟩
  · intro j t' different running own'
    exact different (consistent.distinct j i t' t n running pending own' own)
  · intro m heq
    obtain rfl := Option.some.inj heq
    exact ⟨rfl, Nat.le_trans (consistent.started i t n pending own) frame.started⟩
  · intro row mem
    rcases frame.attempts.of_mem mem with mem | new
    · exact .inl mem
    · exact .inr (congrArg some new.symm)

/-- An answer moves one call, within its own transaction. -/
theorem answer (consistent : Consistent driver lost cfg) {i : ℕ} {attempt : DeliveryAttempt}
    {h : List (Event Sql)} {c : SqlCall}
    {k : c.Answer → PostgresDeliveryStore.Transaction Unit} {a : c.Answer}
    {db' : DeliveryDatabase} (pending : cfg.threads i = some ⟨attempt, h, .call c k⟩)
    (effect : cfg.world.Effect driver lost c a db') :
    Consistent driver lost (cfg.set db' i ⟨attempt, h ++ [⟨c, a⟩], k a⟩) := by
  obtain ⟨stage, rest, own, heard, holds⟩ := consistent.stage i _ pending
  obtain ⟨-, tx', reaches, moved⟩ := Stage.next consistent.sound heard holds rest.symm effect
  -- the transaction of the call afterwards, and what the answer leaves alone
  have own' : transactionOf (h ++ [⟨c, a⟩]) = tx' := by
    rw [transactionOf_snoc, ← own]
    rcases moved with ⟨fresh, begins, -⟩ | ⟨same, -, begun⟩
    · rw [fresh, begins]
      rfl
    · rw [same]
      obtain ⟨tx, rfl⟩ := Option.ne_none_iff_exists'.mp begun
      rfl
  obtain ⟨n, within⟩ : ∃ n, Within cfg i tx' db' n := by
    rcases moved with ⟨-, begins, rfl⟩ | ⟨same, named, begun⟩
    · rw [begins]
      exact ⟨_, consistent.within_begin i effect⟩
    · obtain ⟨n, rfl⟩ := Option.ne_none_iff_exists'.mp begun
      exact ⟨n, consistent.within_own pending (own ▸ same) effect named⟩
  refine ⟨?_, ?_, ?_, ?_, ?_⟩
  · refine effect.sound consistent.sound fun tx named => ?_
    rcases moved with ⟨-, -, rfl⟩ | ⟨same, named', -⟩
    · cases named
    · exact consistent.started i _ tx pending (own ▸ same.trans (named'.symm.trans named))
  · intro j t running
    obtain ⟨rfl, rfl⟩ | ⟨different, running⟩ := Config.set_cases running
    · rw [own', toldOf_snoc]
      exact reaches
    · obtain ⟨other, rest, named, heard, holds⟩ := consistent.stage j t running
      exact ⟨other, rest, named, heard,
        holds.frame within.frame (named ▸ within.others j t different running)⟩
  · intro j t tx running named
    obtain ⟨rfl, rfl⟩ | ⟨-, running⟩ := Config.set_cases running
    · exact (within.named tx (own'.symm.trans named)).2
    · exact Nat.le_trans (consistent.started j t tx running named) within.frame.started
  · intro j j' t t' tx running running' named named'
    obtain ⟨rfl, rfl⟩ | ⟨different, before⟩ := Config.set_cases running
    · obtain ⟨rfl, rfl⟩ | ⟨different', running'⟩ := Config.set_cases running'
      · rfl
      · obtain rfl := (within.named tx (own'.symm.trans named)).1
        exact absurd named' (within.others j' t' different' running')
    · obtain ⟨rfl, rfl⟩ | ⟨different', before'⟩ := Config.set_cases running'
      · obtain rfl := (within.named tx (own'.symm.trans named')).1
        exact absurd named (within.others j t different before)
      · exact consistent.distinct j j' t t' tx before before' named named'
  · intro row mem
    rcases within.rows row mem with mem | new
    · obtain ⟨j, t, running, named⟩ := consistent.owned row mem
      by_cases same : j = i
      · subst same
        cases pending.symm.trans running
        refine ⟨j, _, Config.set_self .., ?_⟩
        rw [transactionOf_snoc, named]
        rfl
      · exact ⟨j, t, (Config.set_of_ne _ _ _ same).trans running, named⟩
    · exact ⟨i, _, Config.set_self .., own'.trans new⟩

theorem of_reachable {S : System Sql AppError Unit DeliveryAttempt DeliveryDatabase}
    (adds : Adds driver lost S) {ok : AddConfig → Label Sql DeliveryAttempt → Prop}
    (reachable : S.Reachable ok .empty cfg) : Consistent driver lost cfg := by
  refine System.Reachable.invariant (P := Consistent driver lost) initial ?_ reachable
  intro cfg l cfg' _ consistent step _
  cases step with
  | spawn attempt free =>
      rw [adds.program]
      exact consistent.spawn attempt free
  | answer pending answered => exact consistent.answer pending (adds.effect answered)

end Consistent

/-! ## What a call is told -/

/-- What the answer to its `COMMIT` says of the rows of a transaction: nothing is committed
before it, and an error leaves open whether the row is. -/
def Settles (driver : Driver) (attempt : DeliveryAttempt) (db : DeliveryDatabase) (tx : ℕ) :
    Option (Except StatementError Unit) → Prop
  | none => Stage.Uncommitted db tx
  | some (.ok ()) => Stage.Recorded driver attempt db tx
  | some (.error _) => Stage.Uncommitted db tx ∨ Stage.Recorded driver attempt db tx

theorem settles_of_uncommitted {driver : Driver} {attempt : DeliveryAttempt}
    {db : DeliveryDatabase} {tx : ℕ} {told : Option (Except StatementError Unit)}
    (uncommitted : Stage.Uncommitted db tx) (failed : told ≠ some (.ok ())) :
    Settles driver attempt db tx told := by
  cases told with
  | none => exact uncommitted
  | some answer =>
      cases answer with
      | error e => exact .inl uncommitted
      | ok u => exact absurd rfl failed

theorem Stage.settles {driver : Driver} {lost : Prop} {attempt : DeliveryAttempt}
    {db : DeliveryDatabase} {stage : Stage} {told : Option (Except StatementError Unit)} {tx : ℕ}
    (holds : stage.Holds driver lost attempt db) (heard : stage.Told told)
    (own : stage.tx? = some tx) : Settles driver attempt db tx told := by
  have early : told = none → Uncommitted db tx → Settles driver attempt db tx told := by
    rintro rfl uncommitted
    exact uncommitted
  cases stage with
  | start => cases own
  | begun tx => cases own; exact early heard ⟨holds.1.1, holds.2.1⟩
  | selecting tx => cases own; exact early heard ⟨holds.1.1, holds.2.1.1⟩
  | inserting tx values => cases own; exact early heard ⟨holds.1, holds.2.1.1⟩
  | committing tx => cases own; exact early heard ⟨holds.1, holds.2.1⟩
  | rollingBack tx e => cases own; exact settles_of_uncommitted holds heard
  | returned tx =>
      cases own
      obtain rfl : told = some (.ok ()) := heard
      exact holds
  | raised tx e =>
      obtain rfl : tx = some _ := own
      exact settles_of_uncommitted ⟨holds.1.1, holds.2.1⟩ heard
  | unanswered tx e | doubtful tx e =>
      cases own
      obtain ⟨e', rfl⟩ := heard
      exact .inr holds.2

/-- In every run the answer to its `COMMIT` says so of every call. -/
theorem Consistent.settles {driver : Driver} {lost : Prop} {cfg : AddConfig}
    (consistent : Consistent driver lost cfg) {i tx : ℕ}
    {t : Thread Sql AppError Unit DeliveryAttempt} (running : cfg.threads i = some t)
    (own : transactionOf t.history = some tx) :
    Settles driver t.request cfg.world tx (toldOf t.history) := by
  obtain ⟨stage, -, named, heard, holds⟩ := consistent.stage i t running
  exact Stage.settles holds heard (named.trans own)

/-! ## What is committed -/

/-- The committed rows keep one logical delivery for each identity and one attempt
for each `add` that returned. -/
structure KeepsOneDelivery (driver : Driver) (cfg : AddConfig) : Prop where
  one_delivery : (cfg.world.deliveries.committed.map Row.values).Nodup
  returned : ∀ i t, cfg.threads i = some t → t.rest = .ret () →
    ∃ tx row, transactionOf t.history = some tx ∧ cfg.world.attempts.committedOf tx = [row] ∧
      t.request.HasRow driver row.values ∧
      Stage.Identified t.request row.values.githubDeliveryId cfg.world.deliveries.committed
  raised : ∀ i t e tx, cfg.threads i = some t → t.rest = .raise e →
    transactionOf t.history = some tx →
      cfg.world.deliveries.committedOf tx = [] ∧ cfg.world.attempts.committedOf tx = []
  accounted : ∀ row ∈ cfg.world.attempts.committed, ∃ i t, cfg.threads i = some t ∧
    t.rest = .ret () ∧ transactionOf t.history = some row.xmin ∧
      Stage.Identified t.request row.values.githubDeliveryId cfg.world.deliveries.committed
  distinct : ∀ i j t t' tx, cfg.threads i = some t → cfg.threads j = some t' →
    transactionOf t.history = some tx → transactionOf t'.history = some tx → i = j
  selected : ∀ i t, cfg.threads i = some t → ∀ e ∈ t.history, ∀ ids,
    selectedIds e = some ids → ids.length = 1

namespace Stage

open PostgresDeliveryStore

/-- Only a returned call has nothing left to do and has not raised. -/
theorem eq_returned_of_program {attempt : DeliveryAttempt} {stage : Stage}
    (ended : stage.program attempt = .ret ()) : ∃ tx, stage = .returned tx := by
  cases stage with
  | returned tx => exact ⟨tx, rfl⟩
  | start | begun tx | selecting tx | inserting tx values | committing tx | rollingBack tx e
  | raised tx e | unanswered tx e | doubtful tx e => cases ended

theorem eq_raised_of_program {attempt : DeliveryAttempt} {stage : Stage} {e : AppError}
    (ended : stage.program attempt = .raise e) :
    (∃ tx, stage = .raised tx e) ∨ ∃ tx, stage = .doubtful tx e := by
  cases stage with
  | raised tx e' =>
      cases ended
      exact .inl ⟨tx, rfl⟩
  | doubtful tx e' =>
      cases ended
      exact .inr ⟨tx, rfl⟩
  | start | begun tx | selecting tx | inserting tx values | committing tx | rollingBack tx e
  | returned tx | unanswered tx e => cases ended

/-- Only a call that has returned has a committed row, or one whose `COMMIT` was not answered. -/
theorem returned_of_committed {driver : Driver} {lost : Prop} {attempt : DeliveryAttempt}
    {db : DeliveryDatabase} {stage : Stage} {row : Row StoredAttempt}
    (holds : stage.Holds driver lost attempt db) (own : stage.tx? = some row.xmin)
    (mem : row ∈ db.attempts.committed) :
    stage = .returned row.xmin ∨
      lost ∧ ∃ e, stage = .unanswered row.xmin e ∨ stage = .doubtful row.xmin e := by
  have present : row ∈ db.attempts.committedOf row.xmin := Table.mem_committedOf.mpr ⟨mem, rfl⟩
  have absurd_of_nil : db.attempts.committedOf row.xmin = [] → False := by
    intro nil
    rw [nil] at present
    cases present
  cases stage with
  | start => cases own
  | begun tx => cases own; exact (absurd_of_nil holds.2.1).elim
  | selecting tx => cases own; exact (absurd_of_nil holds.2.1.1).elim
  | inserting tx values => cases own; exact (absurd_of_nil holds.2.1.1).elim
  | committing tx => cases own; exact (absurd_of_nil holds.2.1).elim
  | rollingBack tx e => cases own; exact (absurd_of_nil holds.2).elim
  | returned tx => cases own; exact .inl rfl
  | unanswered tx e => cases own; exact .inr ⟨holds.1, e, .inl rfl⟩
  | doubtful tx e => cases own; exact .inr ⟨holds.1, e, .inr rfl⟩
  | raised tx e =>
      cases tx with
      | none => cases own
      | some tx => cases own; exact (absurd_of_nil holds.2.1).elim

end Stage

/-- In every state that concurrent adds reach, whatever fails and wherever. -/
theorem adds_keep_one_delivery (driver : Driver) {cfg : AddConfig}
    (reachable : (addSystem driver).Reachable (fun _ _ => True) .empty cfg) :
    KeepsOneDelivery driver cfg := by
  have consistent := Consistent.of_reachable (addSystem_adds driver) reachable
  constructor
  · exact consistent.sound.deliveries.unique.sublist ((List.sublist_append_left _ _).map _)
  · intro i t running ended
    obtain ⟨stage, rest, own, -, holds⟩ := consistent.stage i t running
    obtain ⟨tx, rfl⟩ := Stage.eq_returned_of_program (rest.symm.trans ended)
    obtain ⟨-, -, row, committed, hasRow, identified⟩ := holds
    exact ⟨tx, row, own.symm, committed, hasRow, identified⟩
  · intro i t e tx running ended named
    obtain ⟨stage, rest, own, -, holds⟩ := consistent.stage i t running
    rcases Stage.eq_raised_of_program (rest.symm.trans ended) with ⟨tx', rfl⟩ | ⟨tx', rfl⟩
    · obtain rfl : tx' = some tx := own.trans named
      exact ⟨holds.1.1, holds.2.1⟩
    · exact holds.1.elim
  · intro row mem
    obtain ⟨i, t, running, named⟩ := consistent.owned row (List.mem_append_left _ mem)
    obtain ⟨stage, rest, own, -, holds⟩ := consistent.stage i t running
    rcases Stage.returned_of_committed holds (own.trans named) mem with rfl | ⟨lost, -⟩
    · have identified := (Stage.Recorded.isRow holds mem).2
      exact ⟨i, t, running, rest, named, identified⟩
    · exact lost.elim
  · exact consistent.distinct
  · intro i t running
    refine System.Reachable.event (Q := fun e => ∀ ids, selectedIds e = some ids → ids.length = 1)
      ?_ reachable running
    intro cfg i attempt h c k a db' reachable pending _ answered
    have consistent := Consistent.of_reachable (addSystem_adds driver) reachable
    obtain ⟨stage, rest, -, heard, holds⟩ := consistent.stage i _ pending
    exact (Stage.next consistent.sound heard holds rest.symm
      (DeliveryDatabase.effect_of_answers answered)).1

/-- The answers of a database that never fails. -/
def DeliveryDatabase.choose (driver : Driver) (db : DeliveryDatabase) (c : SqlCall) :
    Option (c.Answer × DeliveryDatabase) :=
  if db.Waits c then none else some (db.respond driver c)

theorem DeliveryDatabase.choose_sound {driver : Driver} {db db' : DeliveryDatabase} {c : SqlCall}
    {a : c.Answer} (chosen : db.choose driver c = some (a, db')) : db.Answers driver c a db' := by
  rw [choose] at chosen
  split_ifs at chosen with waits
  exact .inl ⟨waits, (Option.some.inj chosen).symm⟩

/-- The numbers of committed rows. -/
def DeliveryDatabase.counts (db : DeliveryDatabase) : ℕ × ℕ :=
  (db.deliveries.committed.length, db.attempts.committed.length)

/-- Two attempts of one delivery whose adds overlap. -/
theorem adds_keep_one_delivery_sample :
    ∃ cfg : AddConfig, cfg.world.counts = (1, 2) ∧ KeepsOneDelivery sampleDriver cfg := by
  have overlapping : ((addSystem sampleDriver).play (DeliveryDatabase.choose sampleDriver)
      (fun _ _ => true) (Config.initial .empty)
      [.start 0 sampleAttempt, .start 1 { sampleAttempt with attemptId := sampleActionId },
        .go 0, .go 1, .go 0, .go 0, .go 0, .go 1, .go 1, .go 1, .go 1]).map
          (·.world.counts) = some (1, 2) := by decide +kernel
  obtain ⟨cfg, played, counts⟩ := Option.map_eq_some_iff.mp overlapping
  exact ⟨cfg, counts, adds_keep_one_delivery sampleDriver
    (System.reachable_of_play DeliveryDatabase.choose_sound (fun _ => trivial) .initial played)⟩

end WebhookMonitor
