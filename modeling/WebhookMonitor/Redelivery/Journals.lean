import WebhookMonitor.Config
import Mathlib.Data.Finset.Insert
import Mathlib.Data.List.Nodup
import WebhookMonitor.Persistence.Postgres

/-!
# The two journals as shared worlds

When requests run side by side the journal is the state they share, and the
clock, GitHub and the database may answer anything.  `MemoryWorld.Answers` and
`PostgresWorld.Answers` say what each journal answers to each call and how it
changes; every call is one atomic step.

Both refine the abstract journal of `JournalStep`, which speaks only of what an
answered call shows:

* an identifier is issued once;
* a stored entry joins the rows, and rows may be dropped for it;
* a finalized row was initiated, and only its outcome changes;
* everything else leaves the rows alone.

`SharedJournal` packs a store with its world and that refinement.
-/

namespace WebhookMonitor

open Python Interaction

/-! ## Rows -/

/-- A row as the database gives it back: a timestamp may come in another time
zone. -/
def RecoveryAction.Denotes (row entry : RecoveryAction) : Prop :=
  ∃ requestedAt completedAt,
    row = { entry with requestedAt := requestedAt, completedAt := completedAt } ∧
      requestedAt.instant = entry.requestedAt.instant ∧
      completedAt.map AwareDatetime.instant = entry.completedAt.map AwareDatetime.instant

theorem RecoveryAction.Denotes.refl (entry : RecoveryAction) : entry.Denotes entry :=
  ⟨entry.requestedAt, entry.completedAt, rfl, rfl, rfl⟩

namespace RecoveryAction.Denotes

variable {row entry : RecoveryAction}

theorem actionId (denotes : row.Denotes entry) : row.actionId = entry.actionId := by
  obtain ⟨_, _, rfl, -, -⟩ := denotes
  rfl

theorem state (denotes : row.Denotes entry) : row.state = entry.state := by
  obtain ⟨_, _, rfl, -, -⟩ := denotes
  rfl

theorem upstreamStatusCode (denotes : row.Denotes entry) :
    row.upstreamStatusCode = entry.upstreamStatusCode := by
  obtain ⟨_, _, rfl, -, -⟩ := denotes
  rfl

theorem failureCategory (denotes : row.Denotes entry) :
    row.failureCategory = entry.failureCategory := by
  obtain ⟨_, _, rfl, -, -⟩ := denotes
  rfl

end RecoveryAction.Denotes

/-- The rows with `new` in the place of those under the identifier. -/
def replaceRow (actionId : UUID) (new : RecoveryAction) (rows : List RecoveryAction) :
    List RecoveryAction :=
  rows.map fun row => if row.actionId = actionId then new else row

theorem mem_replaceRow {actionId : UUID} {new row : RecoveryAction} {rows : List RecoveryAction}
    (mem : row ∈ replaceRow actionId new rows) :
    row = new ∨ (row ∈ rows ∧ row.actionId ≠ actionId) := by
  obtain ⟨old, hold, heq⟩ := List.mem_map.mp mem
  by_cases hid : old.actionId = actionId
  · rw [if_pos hid] at heq
    exact .inl heq.symm
  · rw [if_neg hid] at heq
    exact .inr ⟨heq ▸ hold, heq ▸ hid⟩

theorem mem_replaceRow_of_ne {actionId : UUID} {new row : RecoveryAction}
    {rows : List RecoveryAction} (mem : row ∈ rows) (other : row.actionId ≠ actionId) :
    row ∈ replaceRow actionId new rows :=
  List.mem_map.mpr ⟨row, mem, if_neg other⟩

theorem replaceRow_actionIds {actionId : UUID} {new : RecoveryAction}
    (hid : new.actionId = actionId) (rows : List RecoveryAction) :
    (replaceRow actionId new rows).map (·.actionId) = rows.map (·.actionId) := by
  rw [replaceRow, List.map_map]
  refine List.map_congr_left fun row _ => ?_
  by_cases h : row.actionId = actionId
  · simp [h, hid]
  · simp [h]

/-! ## The abstract journal -/

/-- What one answered call does to the rows and to the issued identifiers. -/
inductive JournalStep (rows : List RecoveryAction) (issued : Finset UUID) :
    Event Effects → List RecoveryAction → Finset UUID → Prop where
  | issue {id : UUID} (fresh : id ∉ issued) :
      JournalStep rows issued ⟨.uuid4, id⟩ rows (insert id issued)
  | store {e : Event Effects} {s : Stored} {rows' : List RecoveryAction}
      (shows : storedOf e = some s) (denotes : s.returned.Denotes s.entry)
      (kept : rows'.Sublist (s.returned :: rows)) : JournalStep rows issued e rows' issued
  | finalize {e : Event Effects} {r : FinalizeRequest} {old new : RecoveryAction}
      {state : RecoveryActionState} (shows : finalizationOf e = some r) (present : old ∈ rows)
      (named : old.actionId = r.actionId) (initiated : old.state = .initiated)
      (terminal : RecoveryActionState.terminalOfText r.state = some state)
      (denotes : new.Denotes (old.finalized r state)) :
      JournalStep rows issued e (replaceRow r.actionId new rows) issued
  | idle {e : Event Effects} (not_issued : issuedOf e = none) (not_stored : storedOf e = none)
      (not_finalized : finalizationOf e = none) : JournalStep rows issued e rows issued

/-- A store, and the world it shares with the other requests. -/
structure SharedJournal where
  store : RecoveryActionStore
  World : Type
  rows : World → List RecoveryAction
  issued : World → Finset UUID
  answers : World → (c : Call) → c.Answer → World → Prop
  steps : ∀ {w w' : World} {c : Call} {a : c.Answer},
    ((rows w).map (·.actionId)).Nodup → answers w c a w' →
      JournalStep (rows w) (issued w) ⟨c, a⟩ (rows w') (issued w')

/-! ## In memory -/

namespace InMemoryRecoveryActionStore

/-- What `finalize` does, where the identifiers are distinct. -/
theorem finalizeIn_eq_ok {r : FinalizeRequest} {actions actions' : List RecoveryAction}
    {action : RecoveryAction} (distinct : (actions.map (·.actionId)).Nodup)
    (h : finalizeIn r actions = .ok (action, actions')) :
    ∃ old ∈ actions, ∃ state, old.actionId = r.actionId ∧ old.state = .initiated ∧
      RecoveryActionState.terminalOfText r.state = some state ∧ action = old.finalized r state ∧
      actions' = replaceRow r.actionId action actions := by
  induction actions generalizing actions' with
  | nil => cases h
  | cons head rest ih =>
      rw [List.map_cons, List.nodup_cons] at distinct
      rw [finalizeIn] at h
      -- the first entry with the identifier is the one that is replaced
      by_cases hid : head.actionId = r.actionId
      · rw [if_neg (not_not.mpr hid)] at h
        cases hterminal : head.state.isTerminal with
        | true => rw [hterminal] at h; cases h
        | false =>
            cases hstate : RecoveryActionState.terminalOfText r.state with
            | none => rw [hterminal, hstate] at h; cases h
            | some state =>
                rw [hterminal, hstate] at h
                cases h
                refine ⟨head, List.mem_cons_self, state, hid, ?_, rfl, rfl, ?_⟩
                · cases hs : head.state with
                  | initiated => rfl
                  | accepted | failed | outcomeUnknown => rw [hs] at hterminal; cases hterminal
                · -- no other entry has the identifier
                  have others : replaceRow r.actionId (head.finalized r state) rest = rest := by
                    refine (List.map_congr_left fun row hrow => ?_).trans (List.map_id rest)
                    rw [if_neg, id]
                    intro heq
                    exact distinct.1 (hid ▸ heq ▸ List.mem_map_of_mem hrow)
                  rw [replaceRow, List.map_cons, if_pos hid, ← replaceRow, others]
      · rw [if_pos hid] at h
        cases hrest : finalizeIn r rest with
        | error e => rw [hrest] at h; cases h
        | ok result =>
            rw [hrest] at h
            cases h
            obtain ⟨old, hold, state, named, initiated, hstate, haction, hactions⟩ :=
              ih distinct.2 hrest
            refine ⟨old, List.mem_cons_of_mem _ hold, state, named, initiated, hstate, haction, ?_⟩
            rw [replaceRow, List.map_cons, if_neg hid, ← replaceRow, ← hactions]

/-- An initiated entry can be finalized, where the identifiers are distinct. -/
theorem finalizeIn_ne_error {r : FinalizeRequest} {actions : List RecoveryAction}
    {row : RecoveryAction} {state : RecoveryActionState}
    (distinct : (actions.map (·.actionId)).Nodup) (mem : row ∈ actions)
    (named : row.actionId = r.actionId) (initiated : row.state = .initiated)
    (terminal : RecoveryActionState.terminalOfText r.state = some state) (e : AppError) :
    finalizeIn r actions ≠ .error e := by
  induction actions with
  | nil => cases mem
  | cons head rest ih =>
      rw [List.map_cons, List.nodup_cons] at distinct
      rw [finalizeIn]
      rcases List.mem_cons.mp mem with rfl | mem
      · rw [if_neg (not_not.mpr named), initiated, terminal]
        intro h
        cases h
      · have hid : head.actionId ≠ r.actionId := by
          intro heq
          exact distinct.1 (heq.trans named.symm ▸ List.mem_map_of_mem mem)
        rw [if_pos hid]
        have := ih distinct.2 mem
        intro h
        cases hrest : finalizeIn r rest with
        | error e' =>
            rw [hrest] at h
            cases h
            exact this hrest
        | ok result =>
            rw [hrest] at h
            cases h

end InMemoryRecoveryActionStore

/-- The in-memory journal, and the identifiers `uuid4` has given out. -/
structure MemoryWorld where
  store : InMemoryRecoveryActionStore
  issued : Finset UUID

/-- An empty journal. -/
def MemoryWorld.empty (maxActions : ℕ) (pos : 0 < maxActions) : MemoryWorld :=
  ⟨.empty maxActions pos, ∅⟩

/-- The answers in a process with the in-memory journal.  `uuid4` does not repeat
itself; no statement is sent. -/
def MemoryWorld.Answers (w : MemoryWorld) : (c : Call) → c.Answer → MemoryWorld → Prop
  | .now, _, w' | .httpGet .., _, w' | .httpPost _, _, w' => w' = w
  | .uuid4, id, w' => id ∉ w.issued ∧ w' = { w with issued := insert id w.issued }
  | .appendLeft entry, _, w' => w' = { w with store := w.store.appendLeft entry }
  | .finalizeEntry r, result, w' =>
      match w.store.finalize r with
      | .ok (action, store) => result = .ok action ∧ w' = { w with store := store }
      | .error e => result = .error e ∧ w' = w
  | .insert _, _, _ | .updateInitiated .., _, _ | .selectState _, _, _ => False

/-- The in-memory journal refines the abstract one. -/
theorem MemoryWorld.journalStep {w w' : MemoryWorld} {c : Call} {a : c.Answer}
    (distinct : (w.store.actions.map (·.actionId)).Nodup) (answered : w.Answers c a w') :
    JournalStep w.store.actions w.issued ⟨c, a⟩ w'.store.actions w'.issued := by
  cases c with
  | now | httpGet | httpPost =>
      obtain rfl : w' = w := answered
      exact .idle rfl rfl rfl
  | uuid4 =>
      obtain ⟨fresh, rfl⟩ := answered
      exact .issue fresh
  | appendLeft entry =>
      obtain rfl : w' = { w with store := w.store.appendLeft entry } := answered
      exact .store rfl (.refl entry) (List.take_sublist _ _)
  | finalizeEntry r =>
      rw [Answers] at answered
      cases hfinalize : w.store.finalize r with
      | ok result =>
          obtain ⟨action, store⟩ := result
          rw [hfinalize] at answered
          obtain ⟨rfl, rfl⟩ := answered
          obtain ⟨old, hold, state, named, initiated, hstate, haction, hactions⟩ :=
            InMemoryRecoveryActionStore.finalizeIn_eq_ok distinct
              (InMemoryRecoveryActionStore.finalize_eq_ok hfinalize).1
          rw [hactions]
          exact .finalize rfl hold named initiated hstate (haction ▸ .refl _)
      | error e =>
          rw [hfinalize] at answered
          obtain ⟨rfl, rfl⟩ := answered
          exact .idle rfl rfl rfl
  | insert | updateInitiated | selectState => exact answered.elim

/-! ## In PostgreSQL -/

/-- The table `recovery_actions`, and the identifiers `uuid4` has given out. -/
structure PostgresWorld where
  rows : List RecoveryAction
  issued : Finset UUID

/-- The answers in a process with the PostgreSQL journal.  A failed statement
changes nothing.  An inserted row has a new `action_id`, by the unique
constraint; an updated one is in a terminal state, by the check constraints. -/
def PostgresWorld.Answers (w : PostgresWorld) : (c : Call) → c.Answer → PostgresWorld → Prop
  | .now, _, w' | .httpGet .., _, w' | .httpPost _, _, w' => w' = w
  | .uuid4, id, w' => id ∉ w.issued ∧ w' = { w with issued := insert id w.issued }
  | .insert entry, .ok row, w' =>
      (∀ other ∈ w.rows, other.actionId ≠ entry.actionId) ∧ row.Denotes entry ∧
        w' = { w with rows := row :: w.rows }
  | .insert _, .error _, w' => w' = w
  | .updateInitiated r state, .ok (some row), w' =>
      RecoveryActionState.terminalOfText r.state = some state ∧
        ∃ old ∈ w.rows, old.actionId = r.actionId ∧ old.state = .initiated ∧
          row.Denotes (old.finalized r state) ∧
          w' = { w with rows := replaceRow r.actionId row w.rows }
  | .updateInitiated r _, .ok none, w' =>
      (∀ row ∈ w.rows, row.actionId = r.actionId → row.state ≠ .initiated) ∧ w' = w
  | .updateInitiated _ _, .error _, w' => w' = w
  | .selectState actionId, .ok found, w' =>
      found = (w.rows.find? fun row => row.actionId = actionId).map
        (fun row => (row.actionId, row.state)) ∧ w' = w
  | .selectState _, .error _, w' => w' = w
  | .appendLeft _, _, _ | .finalizeEntry _, _, _ => False

/-- The PostgreSQL journal refines the abstract one. -/
theorem PostgresWorld.journalStep {w w' : PostgresWorld} {c : Call} {a : c.Answer}
    (answered : w.Answers c a w') :
    JournalStep w.rows w.issued ⟨c, a⟩ w'.rows w'.issued := by
  cases c with
  | now | httpGet | httpPost =>
      obtain rfl : w' = w := answered
      exact .idle rfl rfl rfl
  | uuid4 =>
      obtain ⟨fresh, rfl⟩ := answered
      exact .issue fresh
  | insert entry =>
      cases a with
      | ok row =>
          obtain ⟨_, denotes, rfl⟩ := answered
          exact .store rfl denotes (List.Sublist.refl _)
      | error e =>
          obtain rfl : w' = w := answered
          exact .idle rfl rfl rfl
  | updateInitiated r state =>
      cases a with
      | ok updated =>
          cases updated with
          | some row =>
              obtain ⟨terminal, old, hold, named, initiated, denotes, rfl⟩ := answered
              exact .finalize rfl hold named initiated terminal denotes
          | none =>
              obtain ⟨_, rfl⟩ := answered
              exact .idle rfl rfl rfl
      | error e =>
          obtain rfl : w' = w := answered
          exact .idle rfl rfl rfl
  | selectState actionId =>
      cases a with
      | ok found =>
          obtain ⟨_, rfl⟩ := answered
          exact .idle rfl rfl rfl
      | error e =>
          obtain rfl : w' = w := answered
          exact .idle rfl rfl rfl
  | appendLeft | finalizeEntry => exact answered.elim

/-! ## The backends -/

def memoryJournal : SharedJournal where
  store := inMemoryRecoveryActionStore
  World := MemoryWorld
  rows w := w.store.actions
  issued := MemoryWorld.issued
  answers := MemoryWorld.Answers
  steps distinct answered := MemoryWorld.journalStep distinct answered

def postgresJournal : SharedJournal where
  store := postgresRecoveryActionStore
  World := PostgresWorld
  rows := PostgresWorld.rows
  issued := PostgresWorld.issued
  answers := PostgresWorld.Answers
  steps _ answered := PostgresWorld.journalStep answered

/-- The journal `build_runtime_resources` picks. -/
def DeliveryStoreBackend.journal : DeliveryStoreBackend → SharedJournal
  | .memory => memoryJournal
  | .postgresql => postgresJournal

end WebhookMonitor
