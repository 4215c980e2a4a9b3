import WebhookMonitor.Interaction.Schedule
import WebhookMonitor.Persistence.RecoveryActions

/-!
# Concurrent calls of the PostgreSQL journal

Any number of calls, their statements interleaved in any order, any of them failing
at any statement.

* `JournalDatabase.Answers` — what the database may answer: a statement that would
  write a row another transaction has written has no answer until that one has ended,
  and every statement may fail;
* `Progress` — what a call has written so far, and what of it is permanent, as its own
  history shows it;
* `program_meets` — what the program of a call does at each point of its history: it
  writes once, and makes no further call once its write is permanent;
* `Consistent` — the invariant of the whole system, which ties the pending versions of
  the table to the histories;
* `Consistent.of_reachable` and `journal_step` — it holds of every run, so each step
  is one change of the book of committed rows.

A transaction whose `COMMIT` fails has been rolled back.
-/

namespace WebhookMonitor

open Python Interaction Database

/-! ## What the database may answer -/

namespace JournalDatabase

/-- A statement fails.  What it has written disappears with its transaction. -/
def Fails (db : JournalDatabase) : (c : JournalStatement) → c.Answer → JournalDatabase → Prop
  | .begin, .error _, db' => db' = db
  | .insertAction .., .error _, db' => db' = db
  | .updateInitiated .., .error _, db' => db' = db
  | .selectState .., .error _, db' => db' = db
  | .commit tx, .error _, db' => db' = db.rollback tx
  | .selectAction _, .error _, db' => db' = db
  | .selectPage .., .error _, db' => db' = db
  | _, _, _ => False

/-- The answers the database may give. -/
def Answers (driver : Driver) (db : JournalDatabase) (c : JournalStatement) (a : c.Answer)
    (db' : JournalDatabase) : Prop :=
  (¬ db.Waits c ∧ (a, db') = db.respond driver c) ∨ db.Fails c a db'

end JournalDatabase

/-! ## What a call has written -/

/-- A write: an entry, or the outcome of one. -/
inductive JournalWrite where
  | create (row : RecoveryAction)
  | finalize (actionId : UUID) (outcome : Outcome)

/-- The entry a write closes. -/
def JournalWrite.closes : JournalWrite → Option UUID
  | .create _ => none
  | .finalize actionId _ => some actionId

/-- What a write does once it is permanent. -/
def JournalWrite.Does (rows rows' : List RecoveryAction) : JournalWrite → Prop
  | .create row => rows' = row :: rows
  | .finalize actionId outcome => ∃ old ∈ rows, ∃ new, old.actionId = actionId ∧
      old.IsFinalization new ∧ new.outcome = outcome ∧
      rows' = Records.replace RecoveryAction.actionId actionId new rows

/-- The write a statement has made. -/
def writeOf : Event JournalSql → Option JournalWrite
  | ⟨.insertAction _ row, .ok _⟩ => some (.create row)
  | ⟨.updateInitiated _ request state, .ok (some _)⟩ =>
      some (.finalize request.actionId (request.outcome state))
  | _ => none

/-- The write a pending version is of. -/
def writeOfVersion : Version RecoveryAction → JournalWrite
  | .inserted row => .create row
  | .updated row => .finalize row.actionId row.outcome

/-- The transaction of a call, what it has written in it, and what is permanent. -/
structure Progress where
  tx : Option ℕ
  written : List JournalWrite
  lasting : List JournalWrite

/-- The progress after one more answer. -/
def Progress.after (p : Progress) : Event JournalSql → Progress
  | ⟨.begin, .ok tx⟩ => { p with tx := some tx }
  | ⟨.commit _, .ok ()⟩ => { p with written := [], lasting := p.lasting ++ p.written }
  | ⟨.commit _, .error _⟩ => { p with written := [] }
  | ⟨.rollback _, ()⟩ => { p with written := [] }
  | e => { p with written := p.written ++ (writeOf e).toList }

/-- The call has finalized the entry for good. -/
def Progress.HasFinalized (p : Progress) (id : UUID) : Prop := ∃ w ∈ p.lasting, w.closes = some id

def progress (h : List (Event JournalSql)) : Progress := h.foldl Progress.after ⟨none, [], []⟩

@[simp] theorem progress_snoc (h : List (Event JournalSql)) (e : Event JournalSql) :
    progress (h ++ [e]) = (progress h).after e := by
  rw [progress, List.foldl_append]
  rfl

/-! ## The programs -/

/-- A statement a call may send after a history: nothing after its write is permanent,
and nothing but the end of the transaction after a write. -/
def MaySend (h : List (Event JournalSql)) (c : JournalStatement) : Prop :=
  (progress h).lasting = [] ∧
    match c with
    | .begin => (progress h).tx = none ∧ (progress h).written = []
    | .insertAction tx row =>
        (progress h).tx = some tx ∧ (progress h).written = [] ∧ row.IsInitiated
    | .updateInitiated tx request state =>
        (progress h).tx = some tx ∧ (progress h).written = [] ∧
          RecoveryActionState.terminalOfText request.state = some state
    | .selectState tx _ => (progress h).tx = some tx
    | .commit tx => (progress h).tx = some tx ∧ (progress h).written.length ≤ 1
    | .rollback tx => (progress h).tx = some tx
    | .selectAction _ | .selectPage .. => True

/-- How a call may end: returning with its one write permanent, or raising with none. -/
def MayEnd (call : JournalCall) (h : List (Event JournalSql)) : Except AppError JournalAnswer → Prop
  | .error _ => (progress h).lasting = []
  | .ok answer =>
      match call, answer with
      | .create actionId request, .action _ =>
          (progress h).lasting = [.create (initiatedAction actionId request)]
      | .finalize request, .action _ => ∃ state,
          RecoveryActionState.terminalOfText request.state = some state ∧
            (progress h).lasting = [.finalize request.actionId (request.outcome state)]
      | .get _, .found _ | .listRecent .., .page _ => (progress h).lasting = []
      | _, _ => False

namespace PostgresRecoveryActionStore

/-- The program of creating. -/
theorem create_meets (actionId : UUID) (request : CreateRequest) :
    Meets MaySend (MayEnd (.create actionId request)) (program (.create actionId request)) [] := by
  refine ⟨⟨rfl, rfl, rfl⟩, fun begun => ?_⟩
  cases begun with
  | error e => exact rfl
  | ok tx =>
      refine ⟨⟨rfl, rfl, rfl, RecoveryAction.isInitiated_initiatedAction _ _⟩, fun inserted => ?_⟩
      cases inserted with
      | error e => exact ⟨⟨rfl, rfl⟩, fun _ => rfl⟩
      | ok returned =>
          refine ⟨⟨rfl, rfl, Nat.le_refl 1⟩, fun committed => ?_⟩
          cases committed with
          | error e => exact ⟨⟨rfl, rfl⟩, fun _ => rfl⟩
          | ok _ => exact rfl

/-- The program of finalizing. -/
theorem finalize_meets (request : FinalizeRequest) :
    Meets MaySend (MayEnd (.finalize request)) (program (.finalize request)) [] := by
  rw [program, finalize]
  cases terminal : RecoveryActionState.terminalOfText request.state with
  | none => exact rfl
  | some state =>
      refine ⟨⟨rfl, rfl, rfl⟩, fun begun => ?_⟩
      cases begun with
      | error e => exact rfl
      | ok tx =>
          refine ⟨⟨rfl, rfl, rfl, terminal⟩, fun updated => ?_⟩
          cases updated with
          | error e => exact ⟨⟨rfl, rfl⟩, fun _ => rfl⟩
          | ok row =>
              cases row with
              | some row =>
                  refine ⟨⟨rfl, rfl, Nat.le_refl 1⟩, fun committed => ?_⟩
                  cases committed with
                  | error e => exact ⟨⟨rfl, rfl⟩, fun _ => rfl⟩
                  | ok _ => exact ⟨state, terminal, rfl⟩
              | none =>
                  -- no row was updated, so there is nothing to make permanent
                  refine ⟨⟨rfl, rfl⟩, fun selected => ?_⟩
                  cases selected with
                  | error e => exact ⟨⟨rfl, rfl⟩, fun _ => rfl⟩
                  | ok existing =>
                      refine ⟨⟨rfl, rfl, Nat.zero_le 1⟩, fun committed => ?_⟩
                      cases committed with
                      | error e => exact ⟨⟨rfl, rfl⟩, fun _ => rfl⟩
                      | ok _ => cases existing <;> exact rfl

/-- The program of every call. -/
theorem program_meets (call : JournalCall) : Meets MaySend (MayEnd call) (program call) [] := by
  cases call with
  | create actionId request => exact create_meets actionId request
  | finalize request => exact finalize_meets request
  | get actionId =>
      refine ⟨⟨rfl, trivial⟩, fun selected => ?_⟩
      cases selected <;> exact rfl
  | listRecent limit after =>
      refine ⟨⟨rfl, trivial⟩, fun selected => ?_⟩
      cases selected <;> exact rfl

end PostgresRecoveryActionStore

/-! ## The answers case by case -/

namespace JournalDatabase

/-- What an answer does to the table. -/
inductive Effect (driver : Driver) (db : JournalDatabase) :
    (c : JournalStatement) → c.Answer → JournalDatabase → Prop where
  | begun : Effect driver db .begin (.ok (db.started + 1)) { db with started := db.started + 1 }
  | inserted {tx : ℕ} {row returned : RecoveryAction}
      (new : row.actionId ∉ (db.visible tx).map RecoveryAction.actionId)
      (free : ¬ LockedTable.Locked RecoveryAction.actionId db.actions tx row.actionId)
      (shown : driver.showAction row = .ok returned) :
      Effect driver db (.insertAction tx row) (.ok returned) (db.write tx (.inserted row))
  | updated {tx : ℕ} {request : FinalizeRequest} {state : RecoveryActionState}
      {row returned : RecoveryAction} (present : row ∈ db.visible tx)
      (named : row.actionId = request.actionId) (initiated : row.state = .initiated)
      (free : ¬ LockedTable.Locked RecoveryAction.actionId db.actions tx request.actionId)
      (shown : driver.showAction (row.finalized request state) = .ok returned) :
      Effect driver db (.updateInitiated tx request state) (.ok (some returned))
        (db.write tx (.updated (row.finalized request state)))
  | committed {tx : ℕ} : Effect driver db (.commit tx) (.ok ()) (db.commit tx)
  | commitFailed {tx : ℕ} {e : StatementError} :
      Effect driver db (.commit tx) (.error e) (db.rollback tx)
  | rolledBack {tx : ℕ} : Effect driver db (.rollback tx) () (db.rollback tx)
  | idle {c : JournalStatement} {a : c.Answer} (nothing : ∀ p, Progress.after p ⟨c, a⟩ = p) :
      Effect driver db c a db

variable {driver : Driver} {db db' : JournalDatabase}

/-- An answer that writes nothing and ends nothing. -/
theorem after_of_error {c : JournalStatement} {a : c.Answer} (nothing : writeOf ⟨c, a⟩ = none)
    (p : Progress) : { p with written := p.written ++ (writeOf ⟨c, a⟩).toList } = p := by
  rw [nothing, Option.toList_none, List.append_nil]

theorem effect_of_insert {tx : ℕ} {row : RecoveryAction}
    {a : JournalStatement.Answer (.insertAction tx row)} (free : ¬ db.Waits (.insertAction tx row))
    (responded : (a, db') = db.respond driver (.insertAction tx row)) :
    Effect driver db (.insertAction tx row) a db' := by
  have failed : ∀ e : StatementError, Effect driver db (.insertAction tx row) (.error e) db :=
    fun e => .idle fun p => after_of_error rfl p
  rw [respond] at responded
  cases bound : Driver.bindAction row with
  | error e =>
      rw [bound] at responded
      cases responded
      exact failed e
  | ok u =>
      rw [bound] at responded
      dsimp only at responded
      split_ifs at responded with refused
      · cases responded
        exact failed _
      · cases shown : driver.showAction row with
        | error e =>
            rw [shown] at responded
            cases responded
            exact failed e
        | ok returned =>
            rw [shown] at responded
            cases responded
            refine .inserted ?_ free shown
            intro mem
            obtain ⟨other, hother, same⟩ := List.mem_map.mp mem
            refine refused ?_
            rw [Bool.or_eq_true]
            exact .inr (List.any_eq_true.mpr ⟨other, hother, decide_eq_true same⟩)

theorem effect_of_update {tx : ℕ} {request : FinalizeRequest} {state : RecoveryActionState}
    {a : JournalStatement.Answer (.updateInitiated tx request state)}
    (free : ¬ db.Waits (.updateInitiated tx request state))
    (responded : (a, db') = db.respond driver (.updateInitiated tx request state)) :
    Effect driver db (.updateInitiated tx request state) a db' := by
  have failed : ∀ e : StatementError,
      Effect driver db (.updateInitiated tx request state) (.error e) db :=
    fun e => .idle fun p => after_of_error rfl p
  rw [respond] at responded
  cases bound : Driver.bindOutcome request.upstreamStatusCode request.failureCategory with
  | error e =>
      rw [bound] at responded
      cases responded
      exact failed e
  | ok u =>
      rw [bound] at responded
      dsimp only at responded
      -- the row that the `WHERE` clause finds is initiated, and not locked
      cases found : (db.visible tx).find? fun row =>
          row.actionId = request.actionId && row.state = .initiated with
      | none =>
          rw [found] at responded
          cases responded
          exact .idle fun p => after_of_error rfl p
      | some row =>
          rw [found] at responded
          dsimp only at responded
          have present := List.mem_of_find?_eq_some found
          have matched := List.find?_some found
          rw [Bool.and_eq_true, decide_eq_true_eq, decide_eq_true_eq] at matched
          split_ifs at responded with storable
          · cases shown : driver.showAction (row.finalized request state) with
            | error e =>
                rw [shown] at responded
                cases responded
                exact failed e
            | ok returned =>
                rw [shown] at responded
                cases responded
                refine .updated present matched.1 matched.2 (fun locked => ?_) shown
                exact free ⟨locked, row, present, matched⟩
          · cases responded
            exact failed _

/-- Every answer is one of the cases. -/
theorem effect_of_answers {c : JournalStatement} {a : c.Answer}
    (answered : db.Answers driver c a db') : Effect driver db c a db' := by
  rcases answered with ⟨free, responded⟩ | failed
  · cases c with
    | begin =>
        cases responded
        exact .begun
    | insertAction tx row => exact effect_of_insert free responded
    | updateInitiated tx request state => exact effect_of_update free responded
    | selectState tx actionId =>
        cases responded
        exact .idle fun p => after_of_error rfl p
    | commit tx =>
        cases responded
        exact .committed
    | rollback tx =>
        cases responded
        exact .rolledBack
    | selectAction actionId =>
        have same : db' = db := by
          rw [respond] at responded
          split at responded <;> cases responded <;> rfl
        subst same
        exact .idle fun p => after_of_error rfl p
    | selectPage limit after =>
        have same : db' = db := by
          rw [respond] at responded
          split_ifs at responded <;> cases responded <;> rfl
        subst same
        exact .idle fun p => after_of_error rfl p
  · -- a statement that fails
    cases c with
    | begin | insertAction | updateInitiated | selectState | selectAction | selectPage =>
        cases a with
        | error e =>
            obtain rfl : db' = db := failed
            exact .idle fun p => after_of_error rfl p
        | ok value => exact failed.elim
    | commit tx =>
        cases a with
        | error e =>
            obtain rfl : db' = db.rollback tx := failed
            exact .commitFailed
        | ok value => exact failed.elim
    | rollback tx => exact failed.elim

end JournalDatabase

/-! ## One answer -/

/-- What an answered statement does, seen from the call that sent it. -/
structure Moves (db db' : JournalDatabase) (p p' : Progress) : Prop where
  sound : db'.actions.Sound journalEntries
  begun : ∀ v ∈ db'.actions.pending, v.1 ≤ db'.started
  started : db.started ≤ db'.started
  frame : ∀ tx, p'.tx ≠ some tx → db'.actions.versionsOf tx = db.actions.versionsOf tx
  own : ∀ tx, p'.tx = some tx → tx ≤ db'.started ∧
    (db'.actions.versionsOf tx).map writeOfVersion = p'.written
  tx : ∀ tx, p'.tx = some tx → p.tx = some tx ∨ db.started < tx
  change : ∃ k, Records.Step journalEntries (db.actions.book journalEntries) k
      (db'.actions.book journalEntries) ∧
    (∀ w ∈ p'.lasting, w ∈ p.lasting ∨
      (k = w.closes ∧ w.Does db.actions.committed db'.actions.committed)) ∧
    (p'.lasting = p.lasting → db'.actions.committed = db.actions.committed)

section Moves

variable {driver : Driver} {db db' : JournalDatabase} {h : List (Event JournalSql)}

/-- A pending write is no change of the committed rows. -/
theorem moves_write {v : Version RecoveryAction} {tx : ℕ} {p p' : Progress}
    (sound : db.actions.Sound journalEntries) (begun : ∀ v ∈ db.actions.pending, v.1 ≤ db.started)
    (bound : tx ≤ db.started) (own : p.tx = some tx) (nothing : db.actions.versionsOf tx = [])
    (free : ¬ LockedTable.Locked RecoveryAction.actionId db.actions tx v.row.actionId)
    (change : LockedTable.IsChange journalEntries db.actions.committed v)
    (after : p' = { p with written := [writeOfVersion v] }) : Moves db (db.write tx v) p p' := by
  subst after
  refine ⟨sound.write change (LockedTable.key_free nothing free) tx, ?_, Nat.le_refl _, ?_, ?_,
    fun _ own => .inl own, none, .skipped, fun _ mem => .inl mem, fun _ => rfl⟩
  · intro w mem
    rcases List.mem_append.mp mem with mem | mem
    · exact begun w mem
    · obtain rfl := List.mem_singleton.mp mem
      exact bound
  · intro tx' other
    refine LockedTable.versionsOf_write_of_ne fun same => other ?_
    rw [same]
    exact own
  · intro tx' own'
    obtain rfl : tx = tx' := Option.some.inj (own.symm.trans own')
    refine ⟨bound, ?_⟩
    rw [JournalDatabase.write, LockedTable.versionsOf_write_self, nothing]
    rfl

/-- Neither is a rollback. -/
theorem moves_rollback {tx : ℕ} {p p' : Progress} (sound : db.actions.Sound journalEntries)
    (begun : ∀ v ∈ db.actions.pending, v.1 ≤ db.started) (bound : tx ≤ db.started)
    (own : p.tx = some tx) (after : p' = { p with written := [] }) :
    Moves db (db.rollback tx) p p' := by
  subst after
  refine ⟨sound.rollback tx, fun v mem => begun v (List.mem_filter.mp mem).1, Nat.le_refl _, ?_, ?_,
    fun _ own => .inl own, none, .skipped, fun _ mem => .inl mem, fun _ => rfl⟩
  · intro tx' other
    refine LockedTable.versionsOf_rollback_of_ne fun same => other ?_
    rw [same]
    exact own
  · intro tx' own'
    obtain rfl : tx = tx' := Option.some.inj (own.symm.trans own')
    refine ⟨bound, ?_⟩
    rw [JournalDatabase.rollback, LockedTable.versionsOf_rollback_self]
    rfl

/-- A commit makes the one write of the transaction permanent. -/
theorem moves_commit {tx : ℕ} {p p' : Progress} (sound : db.actions.Sound journalEntries)
    (begun : ∀ v ∈ db.actions.pending, v.1 ≤ db.started) (bound : tx ≤ db.started)
    (own : p.tx = some tx) (versions : (db.actions.versionsOf tx).map writeOfVersion = p.written)
    (one : p.written.length ≤ 1) (nothing : p.lasting = [])
    (after : p' = { p with written := [], lasting := p.lasting ++ p.written }) :
    Moves db (db.commit tx) p p' := by
  subst after
  have short : (db.actions.versionsOf tx).length ≤ 1 := by
    rw [← versions, List.length_map] at one
    exact one
  refine ⟨sound.commit short, fun v mem => begun v (List.mem_filter.mp mem).1, Nat.le_refl _, ?_,
    ?_, fun _ own => .inl own, ?_⟩
  · intro tx' other
    refine LockedTable.versionsOf_commit_of_ne fun same => other ?_
    rw [same]
    exact own
  · intro tx' own'
    obtain rfl : tx = tx' := Option.some.inj (own.symm.trans own')
    refine ⟨bound, ?_⟩
    rw [JournalDatabase.commit, LockedTable.versionsOf_commit_self]
    rfl
  · rw [nothing, List.nil_append, ← versions]
    cases hversions : db.actions.versionsOf tx with
    -- nothing was written: the rows stay
    | nil =>
        have same : (db.commit tx).actions.committed = db.actions.committed :=
          LockedTable.visible_of_none hversions
        refine ⟨none, ?_, fun _ mem => .inl mem, fun _ => same⟩
        unfold LockedTable.book
        rw [same]
        exact .skipped
    | cons v rest =>
        rw [hversions, List.length_cons] at short
        obtain rfl : rest = [] := List.length_eq_zero_iff.mp (by omega)
        have pending : (tx, v) ∈ db.actions.pending := by
          rw [← LockedTable.mem_versionsOf, hversions]
          exact List.mem_singleton_self v
        have after : (db.commit tx).actions.committed =
            LockedTable.apply RecoveryAction.actionId db.actions.committed v :=
          LockedTable.visible_of_one hversions
        -- the one version becomes a step of the book
        refine ⟨_, sound.commit_step hversions, fun w mem => .inr ?_, fun same => ?_⟩
        · obtain rfl := List.mem_singleton.mp mem
          cases v with
          | inserted row => exact ⟨rfl, after⟩
          | updated row =>
              obtain ⟨old, present, closes⟩ := sound.changes _ pending
              exact ⟨rfl, old, present, row, (journalEntries.key_of_closes closes).symm, closes,
                rfl, after⟩
        · cases same

/-- What an answer does, from the point of its call. -/
theorem moves_of_effect {c : JournalStatement} {a : c.Answer}
    (sound : db.actions.Sound journalEntries) (begun : ∀ v ∈ db.actions.pending, v.1 ≤ db.started)
    (own : ∀ tx, (progress h).tx = some tx → tx ≤ db.started ∧
      (db.actions.versionsOf tx).map writeOfVersion = (progress h).written)
    (may : MaySend h c) (effect : db.Effect driver c a db') :
    Moves db db' (progress h) ((progress h).after ⟨c, a⟩) := by
  obtain ⟨nothing, may⟩ := may
  -- a transaction that has written nothing has no pending version
  have unwritten : ∀ tx, (progress h).tx = some tx → (progress h).written = [] →
      db.actions.versionsOf tx = [] := fun tx named empty =>
    List.map_eq_nil_iff.mp ((own tx named).2.trans empty)
  cases effect with
  | begun =>
      obtain ⟨_, empty⟩ := may
      refine ⟨sound, fun v mem => Nat.le_succ_of_le (begun v mem), Nat.le_succ _, fun _ _ => rfl,
        fun tx named => ?_, fun tx named => ?_, none, .skipped, fun _ mem => .inl mem, fun _ => rfl⟩
      · cases named
        refine ⟨Nat.le_refl _, ?_⟩
        -- nothing is pending in a transaction that begins only now
        have new : db.actions.versionsOf (db.started + 1) = [] := by
          refine List.eq_nil_iff_forall_not_mem.mpr fun v mem => ?_
          have := begun _ (LockedTable.mem_versionsOf.mp mem)
          exact Nat.not_succ_le_self _ this
        change (db.actions.versionsOf (db.started + 1)).map writeOfVersion = (progress h).written
        rw [new, empty, List.map_nil]
      · cases named
        exact .inr (Nat.lt_succ_self _)
  | @inserted tx row returned new free shown =>
      obtain ⟨named, empty, initiated⟩ := may
      have unwritten := unwritten tx named empty
      refine moves_write sound begun (own tx named).1 named unwritten free ⟨initiated, ?_⟩ ?_
      · rw [JournalDatabase.visible, LockedTable.visible_of_none unwritten] at new
        exact new
      · change ({ progress h with
          written := (progress h).written ++ [.create row] } : Progress) = _
        rw [empty]
        rfl
  | @updated tx request state row returned present same initiated free shown =>
      obtain ⟨named, empty, terminal⟩ := may
      have unwritten := unwritten tx named empty
      rw [JournalDatabase.visible, LockedTable.visible_of_none unwritten] at present
      have opened := isInitiated_of_state sound.book present initiated
      refine moves_write sound begun (own tx named).1 named unwritten (same ▸ free)
        ⟨row, present, opened, request, state, terminal, rfl⟩ ?_
      change ({ progress h with
        written := (progress h).written ++
          [.finalize request.actionId (request.outcome state)] } : Progress) = _
      rw [empty, ← same]
      rfl
  | @committed tx =>
      obtain ⟨named, one⟩ := may
      exact moves_commit sound begun (own tx named).1 named (own tx named).2 one nothing rfl
  | @commitFailed tx e =>
      exact moves_rollback sound begun (own tx may.1).1 may.1 rfl
  | @rolledBack tx =>
      exact moves_rollback sound begun (own tx may).1 may rfl
  | idle unchanged =>
      rw [unchanged]
      exact ⟨sound, begun, Nat.le_refl _, fun _ _ => rfl, own, fun _ named => .inl named, none,
        .skipped, fun _ mem => .inl mem, fun _ => rfl⟩

end Moves

/-! ## The system -/

/-- The calls over the shared table. -/
def journalSystem (driver : Driver) :
    System JournalSql AppError JournalAnswer JournalCall JournalDatabase where
  program := PostgresRecoveryActionStore.program
  answers := JournalDatabase.Answers driver

abbrev JournalConfig := Config JournalSql AppError JournalAnswer JournalCall JournalDatabase

/-- The committed rows as a book. -/
def journalBook (cfg : JournalConfig) : Records.Book RecoveryAction UUID :=
  cfg.world.actions.book journalEntries

/-- The invariant: the pending versions of a transaction are what its call has
written, and what a call has made permanent stays so. -/
structure JournalConsistent (cfg : JournalConfig) : Prop where
  sound : cfg.world.actions.Sound journalEntries
  begun : ∀ v ∈ cfg.world.actions.pending, v.1 ≤ cfg.world.started
  own : ∀ i t, cfg.threads i = some t → ∀ tx, (progress t.history).tx = some tx →
    tx ≤ cfg.world.started ∧
      (cfg.world.actions.versionsOf tx).map writeOfVersion = (progress t.history).written
  distinct : ∀ i j t t' tx, cfg.threads i = some t → cfg.threads j = some t' →
    (progress t.history).tx = some tx → (progress t'.history).tx = some tx → i = j
  closed : ∀ i t id, cfg.threads i = some t → (progress t.history).HasFinalized id →
    id ∈ (journalBook cfg).used ∧
      ∀ row ∈ (journalBook cfg).rows, row.actionId = id → ¬ row.IsInitiated
  once : ∀ i j t t' id, cfg.threads i = some t → cfg.threads j = some t' →
    (progress t.history).HasFinalized id → (progress t'.history).HasFinalized id → i = j

namespace JournalConsistent

variable {cfg : JournalConfig}

theorem initial : JournalConsistent (Config.initial .empty) := by
  refine ⟨LockedTable.sound_empty, fun _ mem => absurd mem List.not_mem_nil, ?_, ?_, ?_, ?_⟩
  · intro i t running
    cases running
  · intro i j t t' tx running
    cases running
  · intro i t id running
    cases running
  · intro i j t t' id running
    cases running

/-- A new call has written nothing. -/
theorem spawn (consistent : JournalConsistent cfg) {i : ℕ} {call : JournalCall}
    {p : PostgresRecoveryActionStore.Transaction JournalAnswer} :
    JournalConsistent (cfg.set cfg.world i ⟨call, [], p⟩) := by
  refine ⟨consistent.sound, consistent.begun, ?_, ?_, ?_, ?_⟩
  · intro j t running tx named
    obtain ⟨-, rfl⟩ | ⟨-, running⟩ := Config.set_cases running
    · cases named
    · exact consistent.own j t running tx named
  · intro j k t t' tx running running' named named'
    obtain ⟨-, rfl⟩ | ⟨-, running⟩ := Config.set_cases running
    · cases named
    · obtain ⟨-, rfl⟩ | ⟨-, running'⟩ := Config.set_cases running'
      · cases named'
      · exact consistent.distinct j k t t' tx running running' named named'
  · intro j t id running mem
    obtain ⟨-, rfl⟩ | ⟨-, running⟩ := Config.set_cases running
    · obtain ⟨w, none, -⟩ := mem
      cases none
    · exact consistent.closed j t id running mem
  · intro j k t t' id running running' mem mem'
    obtain ⟨-, rfl⟩ | ⟨-, running⟩ := Config.set_cases running
    · obtain ⟨w, none, -⟩ := mem
      cases none
    · obtain ⟨-, rfl⟩ | ⟨-, running'⟩ := Config.set_cases running'
      · obtain ⟨w, none, -⟩ := mem'
        cases none
      · exact consistent.once j k t t' id running running' mem mem'

/-- An answered statement keeps the invariant. -/
theorem answer (consistent : JournalConsistent cfg) {i : ℕ} {call : JournalCall}
    {h : List (Event JournalSql)} {e : Event JournalSql} {db' : JournalDatabase}
    {p q : PostgresRecoveryActionStore.Transaction JournalAnswer}
    (pending : cfg.threads i = some ⟨call, h, p⟩)
    (moves : Moves cfg.world db' (progress h) ((progress h).after e)) :
    JournalConsistent (cfg.set db' i ⟨call, h ++ [e], q⟩) := by
  obtain ⟨key, step, lasting, -⟩ := moves.change
  have permanent : ∀ id, ((progress h).after e).HasFinalized id →
      (progress h).HasFinalized id ∨ key = some id := by
    rintro id ⟨w, mem, closes⟩
    rcases lasting w mem with mem | ⟨new, -⟩
    · exact .inl ⟨w, mem, closes⟩
    · exact .inr (new.trans closes)
  -- the transaction of another call is not the one the step is about
  have other : ∀ j t tx, j ≠ i → cfg.threads j = some t → (progress t.history).tx = some tx →
      ((progress h).after e).tx ≠ some tx := by
    intro j t tx hij running named own
    rcases moves.tx tx own with old | new
    · exact hij (consistent.distinct j i t _ tx running pending named old)
    · have := (consistent.own j t running tx named).1
      omega
  -- a step about an entry finalizes it for good
  have closes : ∀ id, key = some id →
      (∃ row ∈ (journalBook cfg).rows, row.actionId = id ∧ row.IsInitiated) ∧
        id ∈ (journalBook cfg).used ∧
        ∀ row ∈ (db'.actions.book journalEntries).rows, row.actionId = id → ¬ row.IsInitiated := by
    rintro id rfl
    exact step.closes_key consistent.sound.book
  -- an entry that an earlier call finalized is not finalized again
  have first : ∀ j t id, cfg.threads j = some t → (progress t.history).HasFinalized id →
      key ≠ some id := by
    intro j t id running mem same
    obtain ⟨⟨row, present, named, opened⟩, -⟩ := closes id same
    exact (consistent.closed j t id running mem).2 row present named opened
  refine ⟨moves.sound, moves.begun, ?_, ?_, ?_, ?_⟩
  · intro j t running tx named
    obtain ⟨-, rfl⟩ | ⟨hij, running⟩ := Config.set_cases running
    · rw [progress_snoc] at named ⊢
      exact moves.own tx named
    · obtain ⟨bound, versions⟩ := consistent.own j t running tx named
      refine ⟨bound.trans moves.started, ?_⟩
      rw [Config.set_world, moves.frame tx (other j t tx hij running named), versions]
  · intro j k t t' tx running running' named named'
    obtain ⟨rfl, rfl⟩ | ⟨hij, was⟩ := Config.set_cases running
    · obtain ⟨rfl, -⟩ | ⟨hik, running'⟩ := Config.set_cases running'
      · rfl
      · rw [progress_snoc] at named
        exact absurd named (other k t' tx hik running' named')
    · obtain ⟨rfl, rfl⟩ | ⟨-, running'⟩ := Config.set_cases running'
      · rw [progress_snoc] at named'
        exact absurd named' (other j t tx hij was named)
      · exact consistent.distinct j k t t' tx was running' named named'
  · intro j t id running mem
    have old : ∀ j t, cfg.threads j = some t → (progress t.history).HasFinalized id →
        id ∈ (db'.actions.book journalEntries).used ∧
          ∀ row ∈ (db'.actions.book journalEntries).rows, row.actionId = id →
            ¬ row.IsInitiated := by
      intro j t running mem
      obtain ⟨used, closed⟩ := consistent.closed j t id running mem
      exact ⟨step.used_subset used, step.stays_closed used closed⟩
    obtain ⟨rfl, rfl⟩ | ⟨-, running⟩ := Config.set_cases running
    · rw [progress_snoc] at mem
      rcases permanent id mem with mem | new
      · exact old j _ pending mem
      · obtain ⟨-, used, closed⟩ := closes id new
        exact ⟨step.used_subset used, closed⟩
    · exact old j t running mem
  · intro j k t t' id running running' mem mem'
    obtain ⟨rfl, rfl⟩ | ⟨-, was⟩ := Config.set_cases running
    · obtain ⟨rfl, -⟩ | ⟨hik, running'⟩ := Config.set_cases running'
      · rfl
      · rw [progress_snoc] at mem
        rcases permanent id mem with mem | new
        · exact consistent.once j k _ t' id pending running' mem mem'
        · exact absurd new (first k t' id running' mem')
    · obtain ⟨rfl, rfl⟩ | ⟨-, running'⟩ := Config.set_cases running'
      · rw [progress_snoc] at mem'
        rcases permanent id mem' with mem' | new
        · exact consistent.once j k t _ id was pending mem mem'
        · exact absurd new (first j t id was mem)
      · exact consistent.once j k t t' id was running' mem mem'

end JournalConsistent

/-! ## Runs -/

section Runs

variable {driver : Driver} {cfg cfg' : JournalConfig}

/-- The configurations any calls reach. -/
def JournalReachable (driver : Driver) : JournalConfig → Prop :=
  (journalSystem driver).Reachable (fun _ _ => True) .empty

/-- What is left of a call does what its program does. -/
theorem JournalReachable.meets (reachable : JournalReachable driver cfg) {i : ℕ}
    {t : Thread JournalSql AppError JournalAnswer JournalCall} (running : cfg.threads i = some t) :
    Meets MaySend (MayEnd t.request) t.rest t.history :=
  by
  have meets := (PostgresRecoveryActionStore.program_meets t.request).of_trace
    (System.Reachable.trace reachable running)
  rwa [List.nil_append] at meets

/-- What a pending call's answer does. -/
theorem JournalReachable.moves (reachable : JournalReachable driver cfg)
    (consistent : JournalConsistent cfg) {i : ℕ} {call : JournalCall} {h : List (Event JournalSql)}
    {c : JournalStatement} {k : c.Answer → PostgresRecoveryActionStore.Transaction JournalAnswer}
    {a : c.Answer} {db' : JournalDatabase} (pending : cfg.threads i = some ⟨call, h, .call c k⟩)
    (answered : cfg.world.Answers driver c a db') :
    Moves cfg.world db' (progress h) ((progress h).after ⟨c, a⟩) :=
  moves_of_effect consistent.sound consistent.begun (consistent.own i _ pending)
    (reachable.meets pending).1 (JournalDatabase.effect_of_answers answered)

theorem JournalReachable.consistent (reachable : JournalReachable driver cfg) :
    JournalConsistent cfg := by
  refine System.Reachable.invariant (P := JournalConsistent) .initial ?_ reachable
  intro cfg l cfg' reachable consistent step _
  cases step with
  | spawn call free => exact consistent.spawn
  | answer pending answered =>
      exact consistent.answer pending (JournalReachable.moves reachable consistent pending answered)

/-- Every step is one change of the book of committed rows. -/
theorem JournalReachable.step (reachable : JournalReachable driver cfg)
    {l : Label JournalSql JournalCall} (step : (journalSystem driver).Step cfg l cfg') :
    JournalReachable driver cfg' ∧
      ∃ k, Records.Step journalEntries (journalBook cfg) k (journalBook cfg') := by
  have reachable' : JournalReachable driver cfg' := System.Reachable.step reachable step trivial
  refine ⟨reachable', ?_⟩
  cases step with
  | spawn call free => exact ⟨none, .skipped⟩
  | answer pending answered =>
      obtain ⟨key, change, -⟩ := (reachable.moves reachable.consistent pending answered).change
      exact ⟨key, change⟩

/-- A call that writes has written when it returns. -/
theorem JournalReachable.does (reachable : JournalReachable driver cfg) {i : ℕ}
    {e : Event JournalSql} (step : (journalSystem driver).Step cfg (.answer i e) cfg')
    {t : Thread JournalSql AppError JournalAnswer JournalCall} (running : cfg'.threads i = some t)
    {action : RecoveryAction} (returned : t.rest = .ret (.action action)) :
    t.request.Does cfg.world.actions.committed cfg'.world.actions.committed := by
  have reachable' : JournalReachable driver cfg' := System.Reachable.step reachable step trivial
  have meets := reachable'.meets running
  cases step with
  | @answer i call h c k a db' pending answered =>
      obtain ⟨_, -, lasting, -⟩ := (reachable.moves reachable.consistent pending answered).change
      have nothing : (progress h).lasting = [] := (reachable.meets pending).1.1
      rw [Config.set_self] at running
      cases running
      -- what is permanent now was not before this answer
      have does : ∀ w, (progress (h ++ [⟨c, a⟩])).lasting = [w] →
          w.Does cfg.world.actions.committed db'.actions.committed := by
        intro w one
        rw [progress_snoc] at one
        rcases lasting w (one ▸ List.mem_singleton_self w) with old | ⟨-, does⟩
        · rw [nothing] at old
          cases old
        · exact does
      change k a = .ret (.action action) at returned
      rw [returned] at meets
      cases call with
      | create actionId request => exact does _ meets
      | finalize request =>
          obtain ⟨state, terminal, one⟩ := meets
          obtain ⟨old, mem, new, named, final, outcome, rows⟩ := does _ one
          obtain rfl := final.eq_finalized outcome
          exact ⟨old, mem, state, named, final.1, terminal, rows⟩
      | get | listRecent => exact meets.elim

/-- Nothing else changes the committed rows. -/
theorem JournalReachable.quiet (reachable : JournalReachable driver cfg)
    {l : Label JournalSql JournalCall} (step : (journalSystem driver).Step cfg l cfg')
    (unfinished : ∀ i e t action, l = .answer i e → cfg'.threads i = some t →
      t.rest ≠ .ret (.action action)) :
    cfg'.world.actions.committed = cfg.world.actions.committed := by
  have reachable' : JournalReachable driver cfg' := System.Reachable.step reachable step trivial
  cases step with
  | spawn call free => rfl
  | @answer i call h c k a db' pending answered =>
      obtain ⟨_, -, -, same⟩ := (reachable.moves reachable.consistent pending answered).change
      have nothing : (progress h).lasting = [] := (reachable.meets pending).1.1
      have running : (cfg.set db' i ⟨call, h ++ [⟨c, a⟩], k a⟩).threads i =
          some ⟨call, h ++ [⟨c, a⟩], k a⟩ := Config.set_self ..
      have meets := reachable'.meets running
      have unfinished := fun action => unfinished i _ _ action rfl running
      refine same (Eq.trans ?_ nothing.symm)
      rw [← progress_snoc]
      generalize k a = rest at running meets unfinished
      cases rest with
      | call c' k' => exact meets.1.1
      | raise e => exact meets
      | ret answer =>
          cases answer with
          | action action => exact absurd rfl (unfinished action)
          | found | page => cases call <;> first | exact meets | exact meets.elim

end Runs

end WebhookMonitor
