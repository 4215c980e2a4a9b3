import Mathlib.Logic.Relation
import WebhookMonitor.Journal.Concurrent
import WebhookMonitor.Redelivery.Journals

/-!
# The journal is a one-way state machine

An entry starts without an outcome, is given one at most once, and keeps it.

* `KeepsEntries` — this, for the rows of anything that takes steps;
* `keepsEntries_of_book` — it holds where every step is one change of a sound book;
* `MemoryJournalRun` — calls of the in-memory journal one after the other;
* `MemoryJournalLaws`, `PostgresJournalLaws` — what the calls of each journal do;
* `recovery_journal_one_way` — both journals.

For PostgreSQL the calls run side by side, statement by statement, and any statement
may fail.
-/

namespace WebhookMonitor

open Python Interaction Database Relation

/-! ## Entries over steps -/

/-- Every entry starts without an outcome; over any number of steps it stays as it was
or is given its outcome; and one step changes one entry. -/
structure KeepsEntries {σ : Type} (rows : σ → List RecoveryAction) (Reached : σ → Prop)
    (Step : σ → σ → Prop) : Prop where
  starts : ∀ s s', Reached s → Step s s' → ∀ row ∈ rows s',
    row.IsInitiated ∨ ∃ old ∈ rows s, old.actionId = row.actionId
  follows : ∀ s s', Reached s → ReflTransGen Step s s' → ∀ row ∈ rows s, ∀ row' ∈ rows s',
    row'.actionId = row.actionId → row' = row ∨ row.IsFinalization row'
  single : ∀ s s', Reached s → Step s s' → ∀ row₁ ∈ rows s, ∀ row₁' ∈ rows s', ∀ row₂ ∈ rows s,
    ∀ row₂' ∈ rows s', row₁'.actionId = row₁.actionId → row₂'.actionId = row₂.actionId →
      row₁' ≠ row₁ → row₂' ≠ row₂ → row₁.actionId = row₂.actionId

section Books

variable {σ : Type} {book : σ → Records.Book RecoveryAction UUID} {Reached : σ → Prop}
  {Step : σ → σ → Prop}

/-- Steps that are changes of a book, one after the other. -/
theorem run_of_steps (changes : ∀ s s', Reached s → Step s s' → Reached s' ∧
      ∃ k, Records.Step journalEntries (book s) k (book s')) {s s' : σ} (reached : Reached s)
    (steps : ReflTransGen Step s s') :
    Reached s' ∧ ∃ keys, Records.Run journalEntries (book s) keys (book s') := by
  induction steps with
  | refl => exact ⟨reached, [], .refl _⟩
  | tail _ step ih =>
      obtain ⟨reached', keys, run⟩ := ih
      obtain ⟨reached'', k, change⟩ := changes _ _ reached' step
      exact ⟨reached'', _, run.snoc change⟩

theorem keepsEntries_of_book (sound : ∀ s, Reached s → Records.Sound journalEntries (book s))
    (changes : ∀ s s', Reached s → Step s s' → Reached s' ∧
      ∃ k, Records.Step journalEntries (book s) k (book s')) :
    KeepsEntries (fun s => (book s).rows) Reached Step := by
  constructor
  · intro s s' reached step row mem
    obtain ⟨-, k, change⟩ := changes s s' reached step
    rcases change.row mem with ⟨opened, -⟩ | old | ⟨old, hold, final, -⟩
    · exact .inl opened
    · exact .inr ⟨row, old, rfl⟩
    · exact .inr ⟨old, hold, (journalEntries.key_of_closes final).symm⟩
  · intro s s' reached steps row mem row' mem' same
    obtain ⟨-, keys, run⟩ := run_of_steps changes reached steps
    exact run.follows (sound s reached) mem mem' same
  · intro s s' reached step row₁ mem₁ row₁' mem₁' row₂ mem₂ row₂' mem₂' same₁ same₂
      changed₁ changed₂
    obtain ⟨-, k, change⟩ := changes s s' reached step
    have first := change.changed (sound s reached) mem₁ mem₁' same₁ changed₁
    have second := change.changed (sound s reached) mem₂ mem₂' same₂ changed₂
    exact Option.some.inj (first.symm.trans second)

end Books

/-! ## The in-memory journal -/

/-- The world after a call. -/
def MemoryWorld.afterCall (w : MemoryWorld) (c : JournalCall) : MemoryWorld where
  store := (w.store.exec c).2
  issued := match c with
    | .create actionId _ => insert actionId w.issued
    | _ => w.issued

theorem MemoryWorld.afterCall_finalize (w : MemoryWorld) (request : FinalizeRequest) :
    w.afterCall (.finalize request) =
      { w with store := (w.store.exec (.finalize request)).2 } := rfl

/-- `uuid4` gives a new identifier. -/
def JournalCall.IsFresh (c : JournalCall) (issued : Finset UUID) : Prop :=
  match c with
  | .create actionId _ => actionId ∉ issued
  | _ => True

/-- One call. -/
inductive MemoryWorld.Calls : MemoryWorld → MemoryWorld → Prop where
  | call {w : MemoryWorld} {c : JournalCall} (fresh : c.IsFresh w.issued) :
      Calls w (w.afterCall c)

/-- Calls with what they returned or raised, last first. -/
inductive MemoryJournalRun (maxActions : ℕ) (pos : 0 < maxActions) :
    List (JournalCall × Except AppError JournalAnswer) → MemoryWorld → Prop where
  | start : MemoryJournalRun maxActions pos [] (.empty maxActions pos)
  | call {log : List (JournalCall × Except AppError JournalAnswer)} {w : MemoryWorld}
      {c : JournalCall} (run : MemoryJournalRun maxActions pos log w) (fresh : c.IsFresh w.issued) :
      MemoryJournalRun maxActions pos ((c, (w.store.exec c).1) :: log) (w.afterCall c)

/-- The entries created, last first. -/
def createdIds (log : List (JournalCall × Except AppError JournalAnswer)) : List UUID :=
  log.filterMap fun entry => match entry.1 with
    | .create actionId _ => some actionId
    | _ => none

/-- The entry a call finalized. -/
def finalizedId : JournalCall → Except AppError JournalAnswer → Option UUID
  | .finalize request, .ok _ => some request.actionId
  | _, _ => none

def finalizedIds (log : List (JournalCall × Except AppError JournalAnswer)) : List UUID :=
  log.filterMap fun entry => finalizedId entry.1 entry.2

/-- The entries as a book. -/
def MemoryWorld.book (w : MemoryWorld) : Records.Book RecoveryAction UUID :=
  ⟨w.store.actions, {id | id ∈ w.issued}⟩

namespace InMemoryRecoveryActionStore

/-- What a successful `finalize` does. -/
theorem exec_finalize_ok {store store' : InMemoryRecoveryActionStore} {request : FinalizeRequest}
    {answer : JournalAnswer} (distinct : (store.actions.map RecoveryAction.actionId).Nodup)
    (finalized : store.exec (.finalize request) = (.ok answer, store')) :
    ∃ old ∈ store.actions, ∃ state, old.actionId = request.actionId ∧ old.state = .initiated ∧
      RecoveryActionState.terminalOfText request.state = some state ∧
      answer = .action (old.finalized request state) ∧
      store'.actions = replaceRow request.actionId (old.finalized request state) store.actions := by
  rw [exec] at finalized
  cases result : store.finalize request with
  | error e =>
      rw [result] at finalized
      cases finalized
  | ok r =>
      obtain ⟨action, store''⟩ := r
      rw [result] at finalized
      cases finalized
      obtain ⟨old, mem, state, named, initiated, terminal, rfl, actions⟩ :=
        finalizeIn_eq_ok distinct (finalize_eq_ok result).1
      exact ⟨old, mem, state, named, initiated, terminal, rfl, actions⟩

/-- A call that does not return the entry it has written leaves the journal alone. -/
theorem exec_unchanged {store : InMemoryRecoveryActionStore} {c : JournalCall}
    (unwritten : ∀ action, (store.exec c).1 ≠ .ok (.action action)) :
    (store.exec c).2 = store := by
  cases c with
  | create actionId request => exact absurd rfl (unwritten (initiatedAction actionId request))
  | finalize request =>
      rw [exec] at unwritten ⊢
      cases result : store.finalize request with
      | error e => rfl
      | ok r =>
          rw [result] at unwritten
          exact absurd rfl (unwritten r.1)
  | get actionId => rfl
  | listRecent limit after => rfl

end InMemoryRecoveryActionStore

/-- A call is one change of the book. -/
theorem MemoryWorld.step_book {w : MemoryWorld} {c : JournalCall}
    (sound : Records.Sound journalEntries w.book) (fresh : c.IsFresh w.issued) :
    Records.Step journalEntries w.book (finalizedId c (w.store.exec c).1) (w.afterCall c).book := by
  cases c with
  | create actionId request =>
      -- the new entry opens a record; what the capacity drops only leaves
      have opened := Records.Step.opened (L := journalEntries) (b := w.book)
        (RecoveryAction.isInitiated_initiatedAction actionId request) fresh
        (List.take_sublist w.store.maxActions _)
      have used : insert actionId w.book.used = {id | id ∈ insert actionId w.issued} := by
        ext id
        exact Finset.mem_insert.symm
      unfold MemoryWorld.book
      exact used ▸ opened
  | finalize request =>
      cases result : w.store.exec (.finalize request) with
      | mk answer store' =>
          have after : w.afterCall (.finalize request) = { w with store := store' } := by
            rw [afterCall_finalize, result]
          rw [after]
          cases answer with
          | error e =>
              have same : (w.store.exec (.finalize request)).2 = w.store := by
                refine InMemoryRecoveryActionStore.exec_unchanged fun action returned => ?_
                rw [result] at returned
                cases returned
              rw [result] at same
              obtain rfl : store' = w.store := same
              exact .skipped
          | ok answer =>
              -- the entry was initiated, and is closed in its place
              obtain ⟨old, mem, state, named, initiated, terminal, -, actions⟩ :=
                InMemoryRecoveryActionStore.exec_finalize_ok sound.distinct result
              have opened := isInitiated_of_state sound mem initiated
              have closed := Records.Step.closed (L := journalEntries) (b := w.book) mem
                (⟨opened, request, state, terminal, rfl⟩ :
                  old.IsFinalization (old.finalized request state))
              have key : journalEntries.key old = request.actionId := named
              rw [key] at closed
              unfold MemoryWorld.book
              rw [actions]
              exact closed
  | get actionId => exact .skipped
  | listRecent limit after => exact .skipped

namespace MemoryJournalRun

variable {maxActions : ℕ} {pos : 0 < maxActions}
  {log : List (JournalCall × Except AppError JournalAnswer)} {w : MemoryWorld}

theorem sound_start : Records.Sound journalEntries (MemoryWorld.empty maxActions pos).book :=
  ⟨List.nodup_nil, fun _ mem => absurd mem List.not_mem_nil,
    fun _ mem => absurd mem List.not_mem_nil⟩

/-- A run is a run of the book, which closes what the calls finalize. -/
theorem run_book (run : MemoryJournalRun maxActions pos log w) :
    Records.Run journalEntries (MemoryWorld.empty maxActions pos).book (finalizedIds log).reverse
      w.book := by
  induction run with
  | start => exact .refl _
  | @call log w c run fresh ih =>
      have step := MemoryWorld.step_book (ih.sound sound_start) fresh
      have keys : (finalizedIds ((c, (w.store.exec c).1) :: log)).reverse =
          (finalizedIds log).reverse ++ (finalizedId c (w.store.exec c).1).toList := by
        unfold finalizedIds
        rw [List.filterMap_cons]
        cases finalizedId c (w.store.exec c).1 with
        | none => simp
        | some id => simp
      rw [keys]
      exact ih.snoc step

theorem sound (run : MemoryJournalRun maxActions pos log w) :
    Records.Sound journalEntries w.book := run.run_book.sound sound_start

/-- The journal holds the last entries created, newest first. -/
theorem holds_last (run : MemoryJournalRun maxActions pos log w) :
    w.store.maxActions = maxActions ∧
      w.store.actions.map RecoveryAction.actionId = (createdIds log).take maxActions := by
  induction run with
  | start => exact ⟨rfl, List.take_nil.symm⟩
  | @call log w c run fresh ih =>
      obtain ⟨capacity, held⟩ := ih
      cases c with
      | create actionId request =>
          refine ⟨capacity, ?_⟩
          change ((initiatedAction actionId request :: w.store.actions).take
            w.store.maxActions).map RecoveryAction.actionId = (actionId :: createdIds log).take _
          rw [List.map_take, List.map_cons, held, capacity, initiatedAction_actionId]
          exact take_cons_take _ _ _
      | finalize request =>
          cases result : w.store.exec (.finalize request) with
          | mk answer store' =>
              have after : w.afterCall (.finalize request) = { w with store := store' } := by
                rw [MemoryWorld.afterCall_finalize, result]
              rw [after]
              -- a finalization keeps the identifiers in their places
              have same : store'.maxActions = w.store.maxActions ∧
                  store'.actions.map RecoveryAction.actionId =
                    w.store.actions.map RecoveryAction.actionId := by
                rw [InMemoryRecoveryActionStore.exec] at result
                cases finalized : w.store.finalize request with
                | error e =>
                    rw [finalized] at result
                    cases result
                    exact ⟨rfl, rfl⟩
                | ok r =>
                    obtain ⟨action, store''⟩ := r
                    rw [finalized] at result
                    cases result
                    obtain ⟨actions, capacity⟩ :=
                      InMemoryRecoveryActionStore.finalize_eq_ok finalized
                    obtain ⟨old, mem, state, named, -, -, rfl, replaced⟩ :=
                      InMemoryRecoveryActionStore.finalizeIn_eq_ok run.sound.distinct actions
                    refine ⟨capacity, ?_⟩
                    rw [replaced]
                    exact replaceRow_actionIds
                      ((RecoveryAction.finalized_actionId _ _ _).trans named) _
              exact ⟨same.1.trans capacity, same.2.trans held⟩
      | get actionId => exact ⟨capacity, held⟩
      | listRecent limit after => exact ⟨capacity, held⟩

end MemoryJournalRun

/-- The laws of the in-memory journal. -/
structure MemoryJournalLaws (maxActions : ℕ) (pos : 0 < maxActions) : Prop where
  entries : KeepsEntries (fun w : MemoryWorld => w.store.actions)
    (fun w => ∃ log, MemoryJournalRun maxActions pos log w) MemoryWorld.Calls
  /-- A call that returns an entry has written it. -/
  writes : ∀ log w c action, MemoryJournalRun maxActions pos log w →
    (w.store.exec c).1 = .ok (.action action) →
      ∃ rows, c.Does w.store.actions rows ∧ (w.store.exec c).2.actions = rows.take maxActions
  /-- A call that raises, and one that reads, writes nothing. -/
  quiet : ∀ w : MemoryWorld, ∀ c, (∀ action, (w.store.exec c).1 ≠ .ok (.action action)) →
    (w.store.exec c).2 = w.store
  /-- No entry is finalized twice. -/
  once : ∀ log w, MemoryJournalRun maxActions pos log w → (finalizedIds log).Nodup
  /-- The journal holds the last entries created, newest first. -/
  held : ∀ log w, MemoryJournalRun maxActions pos log w →
    w.store.actions.map RecoveryAction.actionId = (createdIds log).take maxActions

theorem memoryJournalLaws (maxActions : ℕ) (pos : 0 < maxActions) :
    MemoryJournalLaws maxActions pos where
  entries := by
    refine @keepsEntries_of_book _ MemoryWorld.book _ _ ?_ ?_
    · rintro w ⟨log, run⟩
      exact run.sound
    · rintro w w' ⟨log, run⟩ step
      cases step with
      | call fresh => exact ⟨⟨_, run.call fresh⟩, _, MemoryWorld.step_book run.sound fresh⟩
  writes := by
    intro log w c action run returned
    obtain ⟨capacity, -⟩ := run.holds_last
    cases c with
    | create actionId request =>
        exact ⟨_, rfl, congrArg (fun n => List.take n _) capacity⟩
    | finalize request =>
        obtain ⟨old, mem, state, named, initiated, terminal, -, actions⟩ :=
          InMemoryRecoveryActionStore.exec_finalize_ok run.sound.distinct (Prod.ext returned rfl)
        refine ⟨_, ⟨old, mem, state, named, isInitiated_of_state run.sound mem initiated, terminal,
          rfl⟩, ?_⟩
        rw [actions, List.take_of_length_le]
        · rfl
        · rw [Records.replace, List.length_map, ← capacity]
          exact w.store.bounded
    | get | listRecent => cases returned
  quiet _ _ unwritten := InMemoryRecoveryActionStore.exec_unchanged unwritten
  once log w run := by
    have nodup := run.run_book.nodup MemoryJournalRun.sound_start
    exact List.nodup_reverse.mp nodup
  held log w run := run.holds_last.2

/-! ## The PostgreSQL journal -/

/-- The laws of the PostgreSQL journal, for calls that run side by side. -/
structure PostgresJournalLaws (driver : Driver) : Prop where
  entries : KeepsEntries (fun cfg : JournalConfig => cfg.world.actions.committed)
    (JournalReachable driver) (fun cfg cfg' => ∃ l, (journalSystem driver).Step cfg l cfg')
  /-- A call that returns an entry has written it with its last statement. -/
  writes : ∀ cfg i e cfg' t action, JournalReachable driver cfg →
    (journalSystem driver).Step cfg (.answer i e) cfg' → cfg'.threads i = some t →
      t.rest = .ret (.action action) →
        t.request.Does cfg.world.actions.committed cfg'.world.actions.committed
  /-- Nothing else writes: not a call that raises, nor one that reads or has not ended. -/
  quiet : ∀ cfg l cfg', JournalReachable driver cfg → (journalSystem driver).Step cfg l cfg' →
    (∀ i e t action, l = .answer i e → cfg'.threads i = some t →
      t.rest ≠ .ret (.action action)) →
        cfg'.world.actions.committed = cfg.world.actions.committed
  /-- Of the calls that finalize one entry at most one returns. -/
  once : ∀ cfg i j t t' request request' action action', JournalReachable driver cfg →
    cfg.threads i = some t → cfg.threads j = some t' → t.request = .finalize request →
      t'.request = .finalize request' → request.actionId = request'.actionId →
        t.rest = .ret (.action action) → t'.rest = .ret (.action action') → i = j

theorem postgresJournalLaws (driver : Driver) : PostgresJournalLaws driver where
  entries := by
    refine @keepsEntries_of_book _ journalBook _ _ ?_ ?_
    · intro cfg reachable
      exact reachable.consistent.sound.book
    · rintro cfg cfg' reachable ⟨l, step⟩
      exact reachable.step step
  writes _ _ _ _ _ _ reachable step running returned := reachable.does step running returned
  quiet _ _ _ reachable step unfinished := reachable.quiet step unfinished
  once := by
    intro cfg i j t t' request request' action action' reachable running running' asked asked'
      same returned returned'
    have finalized : ∀ (i : ℕ) t request action, cfg.threads i = some t →
        t.request = .finalize request → t.rest = .ret (.action action) →
          (progress t.history).HasFinalized request.actionId := by
      intro i t request action running asked returned
      have meets := reachable.meets running
      rw [asked, returned] at meets
      obtain ⟨state, -, one⟩ := meets
      exact ⟨_, one ▸ List.mem_singleton_self _, rfl⟩
    exact reachable.consistent.once i j t t' _ running running'
      (finalized i t request action running asked returned)
      (same ▸ finalized j t' request' action' running' asked' returned')

/-! ## Both -/

/-- Both journals are one-way state machines. -/
theorem recovery_journal_one_way (driver : Driver) :
    (∀ (maxActions : ℕ) (pos : 0 < maxActions), MemoryJournalLaws maxActions pos) ∧
      PostgresJournalLaws driver :=
  ⟨memoryJournalLaws, postgresJournalLaws driver⟩

theorem recovery_journal_one_way_sample :
    MemoryJournalLaws 1 Nat.one_pos ∧ PostgresJournalLaws sampleDriver :=
  ⟨(recovery_journal_one_way sampleDriver).1 1 Nat.one_pos,
    (recovery_journal_one_way sampleDriver).2⟩

end WebhookMonitor
