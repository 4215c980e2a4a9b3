import WebhookMonitor.Application.Calls
import WebhookMonitor.Deliveries.Readback
import WebhookMonitor.Persistence.RecoveryActions
import WebhookMonitor.Redelivery.Journals
import WebhookMonitor.Redelivery.Outcomes

/-!
# The stores as shared worlds

When requests run side by side the two stores are what they share.  `DeliveryBackend`
packs `DeliveryStore.add` of a backend with the world behind it and with where its
attempts come from:

* a row is in the store because an event wrote it;
* the event was one of an `add`, and the row is the one of its attempt;
* what a query returns is read from a row.

`memoryDeliveries` and `postgresDeliveries` are the two backends.  In PostgreSQL the
identity of an attempt is in another table than the attempt, under a key the `add` was
told before; `Identifies` says that such a key keeps its meaning.

`SameDelivery` is what an attempt and what is read of it have in common in both.
`JournalBackend` adds the queries to a `SharedJournal`, and the errors of `finalize`.
-/

namespace WebhookMonitor

open Python Interaction Database

/-! ## Deliveries -/

/-- What no column changes of an attempt. -/
structure SameDelivery (added attempt : DeliveryAttempt) : Prop where
  attemptId : attempt.attemptId = added.attemptId
  deliveryIdentity : attempt.deliveryIdentity = added.deliveryIdentity
  receivedAt : attempt.receivedAt.instant = added.receivedAt.instant
  payloadSha256 : attempt.payloadSha256 = added.payloadSha256
  eventType : attempt.eventType = added.eventType
  installationTargetType : attempt.installationTargetType = added.installationTargetType

/-- A delivery store with its world, and where its rows come from. -/
structure DeliveryBackend where
  add : AddAttempt
  World : Type
  initial : World
  answers : World → (c : StoreCall) → c.Answer → World → Prop
  Row : Type
  Holds : World → Row → Prop
  /-- What the world keeps. -/
  Sound : World → Prop
  /-- The event puts the row into the store. -/
  Wrote : Event StoreEffects → Row → Prop
  /-- What an event has told stays true. -/
  Told : Event StoreEffects → World → Prop
  /-- An `add` of the attempt may make the call after these events. -/
  MayAdd : DeliveryAttempt → List (Event StoreEffects) → StoreCall → Prop
  /-- An added attempt, and what a query returns for it. -/
  ReadsAs : DeliveryAttempt → DeliveryAttempt → Prop
  /-- What an `add` may take. -/
  addBudget : Multiset CallKind
  sound_initial : Sound initial
  empty_initial : ∀ row, ¬ Holds initial row
  step : ∀ {w w' : World} {c : StoreCall} {a : c.Answer}, Sound w → answers w c a w' →
    Sound w' ∧ Told ⟨c, a⟩ w' ∧ (∀ e, Told e w → Told e w') ∧
      ∀ row, Holds w' row → Holds w row ∨ Wrote ⟨c, a⟩ row
  query_writes_nothing : ∀ {c : StoreCall} {a : c.Answer} {row : Row}, c.isQuery = true →
    ¬ Wrote ⟨c, a⟩ row
  adds_only : ∀ {attempt : DeliveryAttempt} {h : List (Event StoreEffects)} {c : StoreCall},
    MayAdd attempt h c → c.isQuery = false
  add_meets : ∀ attempt, Meets (MayAdd attempt) (fun _ _ => True) (add attempt) []
  add_within : ∀ attempt, CallsWithin StoreCall.kind addBudget (add attempt)
  reads : ∀ {w w' : World} {c : StoreCall} {a : c.Answer} {attempt : DeliveryAttempt}, Sound w →
    answers w c a w' → attempt ∈ returnedAttempts ⟨c, a⟩ →
      ∃ row, Holds w row ∧ ∀ {added : DeliveryAttempt} {before : List (Event StoreEffects)}
        {e : Event StoreEffects}, MayAdd added before e.call → Wrote e row →
          (∀ e' ∈ before, Told e' w) → ReadsAs added attempt
  same : ∀ {added attempt : DeliveryAttempt}, ReadsAs added attempt → SameDelivery added attempt

/-! ### In memory -/

/-- The answers of the in-memory store.  A query may also fail: a loop over the deque is
cut short when another thread adds to it. -/
def InMemoryDeliveryStore.Answers (store : InMemoryDeliveryStore) :
    (c : StoreCall) → c.Answer → InMemoryDeliveryStore → Prop
  | .appendLeft attempt, _, store' => store' = store.add attempt
  | .statement _, _, _ => False
  | .getAttempt attemptId, .ok found, store' => found = store.getAttempt attemptId ∧ store' = store
  | .listRecent, .ok found, store' => found = store.listRecent ∧ store' = store
  | .listAttemptsPage limit after, .ok found, store' =>
      found = store.listAttemptsPage limit after ∧ store' = store
  | .getAttempt _, .error _, store' | .listRecent, .error _, store'
  | .listAttemptsPage .., .error _, store' => store' = store

/-- What a query returns is in the store. -/
theorem InMemoryDeliveryStore.mem_of_returned {store store' : InMemoryDeliveryStore}
    {c : StoreCall} {a : c.Answer} {attempt : DeliveryAttempt} (answered : store.Answers c a store')
    (returned : attempt ∈ returnedAttempts ⟨c, a⟩) : attempt ∈ store.attempts := by
  cases c with
  | appendLeft _ => cases returned
  | statement _ => exact answered.elim
  | getAttempt attemptId =>
      cases a with
      | error e => cases returned
      | ok found =>
          obtain ⟨rfl, -⟩ := answered
          cases there : store.getAttempt attemptId with
          | none =>
              rw [there] at returned
              cases returned
          | some found =>
              rw [there] at returned
              obtain rfl := List.mem_singleton.mp returned
              exact List.mem_of_find?_eq_some there
  | listRecent =>
      cases a with
      | error e => cases returned
      | ok found =>
          obtain ⟨rfl, -⟩ := answered
          exact returned
  | listAttemptsPage limit after =>
      cases a with
      | error e => cases returned
      | ok found =>
          obtain ⟨rfl, -⟩ := answered
          exact InMemoryDeliveryStore.mem_of_mem_listAttemptsPage returned

/-- `InMemoryDeliveryStore`: what is returned is what was added. -/
def memoryDeliveries (maxEvents : ℕ) (pos : 0 < maxEvents) : DeliveryBackend where
  add := memoryAdd
  World := InMemoryDeliveryStore
  initial := .empty maxEvents pos
  answers := InMemoryDeliveryStore.Answers
  Row := DeliveryAttempt
  Holds store attempt := attempt ∈ store.attempts
  Sound _ := True
  Wrote e attempt := e.call = .appendLeft attempt
  Told _ _ := True
  MayAdd attempt _ c := c = .appendLeft attempt
  ReadsAs added attempt := attempt = added
  addBudget := {.deliveryOperation}
  sound_initial := trivial
  empty_initial _ := List.not_mem_nil
  step := by
    intro store store' c a _ answered
    refine ⟨trivial, trivial, fun _ => id, fun attempt mem => ?_⟩
    cases c with
    | appendLeft added =>
        obtain rfl : store' = store.add added := answered
        rcases InMemoryDeliveryStore.mem_add mem with rfl | mem
        · exact .inr rfl
        · exact .inl mem
    | statement _ => exact answered.elim
    | getAttempt _ | listAttemptsPage _ _ =>
        cases a with
        | error e => exact .inl (answered ▸ mem)
        | ok found => exact .inl (answered.2 ▸ mem)
    | listRecent =>
        cases a with
        | error e => exact .inl (answered ▸ mem)
        | ok found => exact .inl (answered.2 ▸ mem)
  query_writes_nothing := by
    rintro c a attempt query rfl
    cases query
  adds_only := by
    rintro attempt h c rfl
    rfl
  add_meets attempt := ⟨rfl, fun _ => trivial⟩
  add_within _ := ⟨0, le_of_eq (add_zero _), fun _ => trivial⟩
  reads := by
    intro store store' c a attempt _ answered returned
    refine ⟨attempt, InMemoryDeliveryStore.mem_of_returned answered returned, ?_⟩
    intro added before e may wrote _
    rw [may] at wrote
    exact (StoreCall.appendLeft.inj wrote).symm
  same := by
    rintro added attempt rfl
    exact ⟨rfl, rfl, rfl, rfl, rfl, rfl⟩

/-! ### In PostgreSQL -/

namespace DeliveryDatabase

/-- The rows of a table, committed or not. -/
def rowsOf {ρ : Type} (t : Table ρ) : List (Row ρ) := t.committed ++ t.pending

/-- Generated keys are not above the last one, and say which identity is meant. -/
structure Keyed (db : DeliveryDatabase) : Prop where
  generated : ∀ row ∈ rowsOf db.deliveries, row.id ≤ db.deliveries.lastId
  meaning : ∀ row ∈ rowsOf db.deliveries, ∀ other ∈ rowsOf db.deliveries, row.id = other.id →
    row.values = other.values

/-- The key has been given out, and to no other identity. -/
def Identifies (db : DeliveryDatabase) (id : ℕ) (values : DeliveryColumns) : Prop :=
  id ≤ db.deliveries.lastId ∧ ∀ row ∈ rowsOf db.deliveries, row.id = id → row.values = values

/-- No row of the table is new, and no generated key is taken back. -/
structure OnlyOld {ρ : Type} (t t' : Table ρ) : Prop where
  old : ∀ row ∈ rowsOf t', row ∈ rowsOf t
  later : t.lastId ≤ t'.lastId

theorem OnlyOld.refl {ρ : Type} (t : Table ρ) : OnlyOld t t := ⟨fun _ => id, Nat.le_refl _⟩

theorem OnlyOld.generate {ρ : Type} (t : Table ρ) : OnlyOld t t.generate :=
  ⟨fun _ => id, Nat.le_succ _⟩

theorem OnlyOld.commit {ρ : Type} (t : Table ρ) (tx : ℕ) : OnlyOld t (t.commit tx) := by
  refine ⟨fun row mem => ?_, Nat.le_refl _⟩
  rcases List.mem_append.mp mem with mem | mem
  · rcases List.mem_append.mp mem with mem | mem
    · exact List.mem_append_left _ mem
    · exact List.mem_append_right _ (Table.mem_pendingOf.mp mem).1
  · exact List.mem_append_right _ (List.mem_filter.mp mem).1

theorem OnlyOld.rollback {ρ : Type} (t : Table ρ) (tx : ℕ) : OnlyOld t (t.rollback tx) := by
  refine ⟨fun row mem => ?_, Nat.le_refl _⟩
  rcases List.mem_append.mp mem with mem | mem
  · exact List.mem_append_left _ mem
  · exact List.mem_append_right _ (List.mem_filter.mp mem).1

theorem mem_rowsOf_insert {ρ : Type} {t : Table ρ} {tx : ℕ} {values : ρ} {row : Row ρ}
    (mem : row ∈ rowsOf (t.insert tx values)) :
    row ∈ rowsOf t ∨ row = ⟨t.lastId + 1, tx, values⟩ := by
  rcases List.mem_append.mp mem with mem | mem
  · exact .inl (List.mem_append_left _ mem)
  · rcases List.mem_append.mp mem with mem | mem
    · exact .inl (List.mem_append_right _ mem)
    · exact .inr (List.mem_singleton.mp mem)

variable {driver : Driver} {lost : Prop} {db db' : DeliveryDatabase} {c : SqlCall} {a : c.Answer}

/-- What a statement does to the identities: at most one is inserted, under a new key. -/
theorem Effect.deliveries_cases (effect : Effect driver lost db c a db') :
    OnlyOld db.deliveries db'.deliveries ∨
      ∃ tx values, db'.deliveries = db.deliveries.insert tx values := by
  cases effect with
  | begun | selected | attemptInserted | beginFailed | insertFailed | selectFailed
  | attemptFailed => exact .inl (.refl _)
  | present => exact .inl (.generate _)
  | inserted => exact .inr ⟨_, _, rfl⟩
  | committed | commitLost => exact .inl (.commit _ _)
  | rolledBack | commitFailed => exact .inl (.rollback _ _)

theorem Keyed.step (keyed : db.Keyed) (effect : Effect driver lost db c a db') : db'.Keyed := by
  rcases effect.deliveries_cases with ⟨old, later⟩ | ⟨tx, values, inserted⟩
  · exact ⟨fun row mem => (keyed.generated row (old row mem)).trans later,
      fun row mem other mem' => keyed.meaning row (old row mem) other (old other mem')⟩
  · refine ⟨fun row mem => ?_, fun row mem other mem' same => ?_⟩
    · rw [inserted] at mem ⊢
      rcases mem_rowsOf_insert mem with mem | rfl
      · exact (keyed.generated row mem).trans (Nat.le_succ _)
      · exact Nat.le_refl _
    · rw [inserted] at mem mem'
      -- a row that was there has an older key than the new one
      rcases mem_rowsOf_insert mem with mem | rfl
      · rcases mem_rowsOf_insert mem' with mem' | rfl
        · exact keyed.meaning row mem other mem' same
        · exact absurd (same ▸ keyed.generated row mem) (Nat.not_succ_le_self _)
      · rcases mem_rowsOf_insert mem' with mem' | rfl
        · exact absurd (same ▸ keyed.generated other mem') (Nat.not_succ_le_self _)
        · rfl

theorem Identifies.step {id : ℕ} {values : DeliveryColumns} (identifies : db.Identifies id values)
    (effect : Effect driver lost db c a db') : db'.Identifies id values := by
  rcases effect.deliveries_cases with ⟨old, later⟩ | ⟨tx, values', inserted⟩
  · exact ⟨identifies.1.trans later, fun row mem => identifies.2 row (old row mem)⟩
  · refine ⟨?_, fun row mem named => ?_⟩
    · rw [inserted]
      exact identifies.1.trans (Nat.le_succ _)
    · rw [inserted] at mem
      rcases mem_rowsOf_insert mem with mem | rfl
      · exact identifies.2 row mem named
      · exact absurd (named.symm ▸ identifies.1) (Nat.not_succ_le_self _)

/-- The attempt rows a statement leaves: those that were there, and the one it inserts. -/
theorem Effect.attempts_cases (effect : Effect driver lost db c a db') {row : StoredAttempt}
    (mem : ∃ r ∈ rowsOf db'.attempts, r.values = row) :
    (∃ r ∈ rowsOf db.attempts, r.values = row) ∨
      ∃ tx values, (⟨c, a⟩ : Event Sql) = ⟨.insertAttempt tx values, .ok ()⟩ ∧
        driver.bindAttempt values = .ok row := by
  have old : OnlyOld db.attempts db'.attempts → ∃ r ∈ rowsOf db.attempts, r.values = row := by
    intro only
    obtain ⟨r, mem, rfl⟩ := mem
    exact ⟨r, only.old r mem, rfl⟩
  cases effect with
  | begun | selected | inserted | present | beginFailed | insertFailed | selectFailed =>
      exact .inl (old (.refl _))
  | attemptInserted bound =>
      obtain ⟨r, mem, rfl⟩ := mem
      rcases mem_rowsOf_insert mem with mem | rfl
      · exact .inl ⟨r, mem, rfl⟩
      · exact .inr ⟨_, _, rfl, bound⟩
  | attemptFailed unused =>
      rcases unused with rfl | rfl
      · exact .inl (old (.refl _))
      · exact .inl (old (.generate _))
  | committed | commitLost => exact .inl (old (.commit _ _))
  | rolledBack | commitFailed => exact .inl (old (.rollback _ _))

/-- The keys an answer tells, with the identity they stand for. -/
def ToldKeys : Event Sql → ℕ → DeliveryColumns → Prop
  | ⟨.insertDelivery _ values, .ok (some id)⟩, id', values' => id' = id ∧ values' = values
  | ⟨.selectDelivery _ values, .ok ids⟩, id', values' => id' ∈ ids ∧ values' = values
  | _, _, _ => False

theorem Effect.identifies (effect : Effect driver lost db c a db') (keyed : db.Keyed) {id : ℕ}
    {values : DeliveryColumns} (told : ToldKeys ⟨c, a⟩ id values) : db'.Identifies id values := by
  cases effect with
  | inserted =>
      obtain ⟨rfl, rfl⟩ := told
      refine ⟨Nat.le_refl _, fun row mem named => ?_⟩
      rcases mem_rowsOf_insert mem with mem | rfl
      · exact absurd (named ▸ keyed.generated row mem) (Nat.not_succ_le_self _)
      · rfl
  | selected =>
      obtain ⟨mem, rfl⟩ := told
      obtain ⟨row, there, rfl⟩ := List.mem_map.mp mem
      obtain ⟨visible, same⟩ := List.mem_filter.mp there
      obtain rfl := of_decide_eq_true same
      have stored : row ∈ rowsOf db.deliveries := by
        rcases List.mem_append.mp visible with committed | pending
        · exact List.mem_append_left _ committed
        · exact List.mem_append_right _ (Table.mem_pendingOf.mp pending).1
      exact ⟨keyed.generated row stored, fun other mem named =>
        keyed.meaning other mem row stored named⟩
  | _ => exact told.elim

end DeliveryDatabase

namespace PostgresDeliveryStore

/-- A statement an `add` may send: the attempt goes in under a key it was told for its
identity. -/
def MayAdd (attempt : DeliveryAttempt) (h : List (Event Sql)) : SqlCall → Prop
  | .insertAttempt _ values => ∃ id, deliveryAttemptValues attempt id = .ok values ∧
      ∃ e ∈ h, DeliveryDatabase.ToldKeys e id (deliveryIdentityValues attempt)
  | _ => True

variable {attempt : DeliveryAttempt} {h : List (Event Sql)}

theorem insertAttempt_meets {tx id : ℕ}
    (told : ∃ e ∈ h, DeliveryDatabase.ToldKeys e id (deliveryIdentityValues attempt)) :
    Meets (MayAdd attempt) (fun _ _ => True) (insertAttempt tx attempt id) h := by
  rw [insertAttempt]
  cases values : deliveryAttemptValues attempt id with
  | error e => trivial
  | ok parameters =>
      refine ⟨⟨id, values, told⟩, fun inserted => ?_⟩
      cases inserted with
      | error e => trivial
      | ok u =>
          refine ⟨trivial, fun committed => ?_⟩
          cases committed with
          | ok u => trivial
          | error e => trivial

theorem insertRows_meets (tx : ℕ) :
    Meets (MayAdd attempt) (fun _ _ => True) (insertRows tx attempt) h := by
  rw [insertRows]
  refine ⟨trivial, fun inserted => ?_⟩
  cases inserted with
  | error e => trivial
  | ok key =>
      cases key with
      | some id =>
          exact insertAttempt_meets
            ⟨_, List.mem_append_right _ (List.mem_singleton_self _), rfl, rfl⟩
      | none =>
          refine ⟨trivial, fun found => ?_⟩
          cases found with
          | error e => trivial
          | ok ids =>
              -- `scalar_one`: one row, or the store error
              match ids with
              | [id] =>
                  exact insertAttempt_meets ⟨_, List.mem_append_right _ (List.mem_singleton_self _),
                    List.mem_singleton_self _, rfl⟩
              | [] | _ :: _ :: _ => trivial

theorem add_meets (attempt : DeliveryAttempt) :
    Meets (MayAdd attempt) (fun _ _ => True) (add attempt) [] := by
  rw [add]
  refine ⟨trivial, fun begun => ?_⟩
  cases begun with
  | error e => trivial
  | ok tx =>
      refine meets_tryCatch.mpr (meets_mono (fun _ _ => id) ?_ (insertRows_meets tx))
      intro h' r _
      cases r with
      | ok u => trivial
      | error e => exact ⟨trivial, fun _ => trivial⟩

/-- The last statement of an `add` and its commit. -/
theorem insertAttempt_within (tx : ℕ) (attempt : DeliveryAttempt) (githubDeliveryId : ℕ) :
    CallsWithin (fun _ => .deliveryStatement) {.deliveryStatement, .deliveryStatement}
      (insertAttempt tx attempt githubDeliveryId) := by
  rw [insertAttempt]
  cases deliveryAttemptValues attempt githubDeliveryId with
  | error e => trivial
  | ok values =>
      refine ⟨_, singleton_add_le _ _, fun inserted => ?_⟩
      cases inserted with
      | error e => trivial
      | ok u => exact ⟨0, le_rfl, fun committed => by cases committed <;> trivial⟩

/-- An `add` sends six statements at most: one of each kind. -/
theorem add_within (attempt : DeliveryAttempt) :
    CallsWithin (fun _ => .deliveryStatement) (Multiset.replicate 6 .deliveryStatement)
      (add attempt) := by
  have key : ∀ tx inserted, CallsWithin (fun _ => .deliveryStatement) {.deliveryStatement}
      (deliveryIdOf tx attempt inserted) := by
    intro tx inserted
    cases inserted with
    | some id => trivial
    | none =>
        refine ⟨0, le_rfl, fun found => ?_⟩
        cases found with
        | error e => trivial
        | ok ids =>
            rcases ids with _ | ⟨id, _ | ⟨other, rest⟩⟩ <;> trivial
  have rows : ∀ tx, CallsWithin (fun _ => .deliveryStatement)
      (.deliveryStatement ::ₘ ({.deliveryStatement} + {.deliveryStatement, .deliveryStatement}))
      (insertRows tx attempt) := by
    intro tx
    refine ⟨_, singleton_add_le _ _, fun inserted => ?_⟩
    cases inserted with
    | error e => trivial
    | ok inserted =>
        show CallsWithin _ _ (deliveryIdOf tx attempt inserted >>= insertAttempt tx attempt)
        exact costsAtMost_bind (key tx inserted) (insertAttempt_within tx attempt)
  have all : CallsWithin (fun _ => .deliveryStatement)
      (.deliveryStatement ::ₘ ((.deliveryStatement ::ₘ ({.deliveryStatement} +
        {.deliveryStatement, .deliveryStatement})) + {.deliveryStatement})) (add attempt) := by
    refine ⟨_, singleton_add_le _ _, fun begun => ?_⟩
    cases begun with
    | error e => trivial
    | ok tx =>
        exact costsAtMost_tryCatch (rows tx) fun e => ⟨0, le_rfl, fun _ => trivial⟩
  exact all

/-- The answers of the PostgreSQL store.  The one to a `COMMIT` may be lost, and a query may
fail. -/
def Answers (driver : Driver) (listLimit : ℕ) (db : DeliveryDatabase) :
    (c : StoreCall) → c.Answer → DeliveryDatabase → Prop
  | .appendLeft _, _, _ => False
  | .statement c, a, db' => db.LossyAnswers driver c a db'
  | .getAttempt attemptId, a, db' =>
      (a = getAttempt driver attemptId db ∨ ∃ e, a = .error e) ∧ db' = db
  | .listRecent, a, db' => (a = listRecent driver listLimit db ∨ ∃ e, a = .error e) ∧ db' = db
  | .listAttemptsPage limit after, a, db' =>
      (a = listAttemptsPage driver limit after db ∨ ∃ e, a = .error e) ∧ db' = db

/-- A joined row is one of the attempts, with the identity its key stands for. -/
theorem of_mem_baseAttempts {db : DeliveryDatabase} {row : JoinedRow}
    (mem : row ∈ baseAttempts db) :
    (∃ r ∈ DeliveryDatabase.rowsOf db.attempts, r.values = row.attempt) ∧
      ∃ d ∈ DeliveryDatabase.rowsOf db.deliveries, d.id = row.attempt.githubDeliveryId ∧
        d.values = ⟨row.deliveryGuid, row.hookId⟩ := by
  obtain ⟨r, committed, mem⟩ := List.mem_flatMap.mp mem
  obtain ⟨d, there, rfl⟩ := List.mem_map.mp mem
  obtain ⟨there, key⟩ := List.mem_filter.mp there
  exact ⟨⟨r, List.mem_append_left _ committed, rfl⟩, d, List.mem_append_left _ there,
    of_decide_eq_true key, rfl⟩

/-- Listed rows are read one by one. -/
theorem exists_of_mem_fetchAll {driver : Driver} {limit : ℕ} {ordered : List JoinedRow}
    {attempts : List DeliveryAttempt} {attempt : DeliveryAttempt}
    (fetched : fetchAll driver limit ordered = .ok attempts) (mem : attempt ∈ attempts) :
    ∃ row ∈ ordered, rowToDeliveryAttempt driver row = .ok attempt := by
  rw [fetchAll] at fetched
  split_ifs at fetched
  obtain ⟨row, there, read⟩ := mem_of_mapM_eq_ok fetched mem
  exact ⟨row, List.mem_of_mem_take there, read⟩

/-- What a query returns is read from a joined row. -/
theorem exists_joined {driver : Driver} {listLimit : ℕ} {db db' : DeliveryDatabase} {c : StoreCall}
    {a : c.Answer} {attempt : DeliveryAttempt} (answered : Answers driver listLimit db c a db')
    (returned : attempt ∈ returnedAttempts ⟨c, a⟩) :
    ∃ row ∈ baseAttempts db, rowToDeliveryAttempt driver row = .ok attempt := by
  cases c with
  | appendLeft _ | statement _ => cases returned
  | getAttempt attemptId =>
      obtain ⟨rfl | ⟨e, rfl⟩, -⟩ := answered
      · cases found : getAttempt driver attemptId db with
        | error e => rw [found] at returned; cases returned
        | ok found' =>
            cases found' with
            | none => rw [found] at returned; cases returned
            | some attempt' =>
                rw [found] at returned
                obtain rfl := List.mem_singleton.mp returned
                -- the one row with the identifier
                rw [getAttempt] at found
                split at found
                · cases found
                · next row one =>
                    obtain ⟨attempt', read, same⟩ := map_eq_ok.mp found
                    cases same
                    have mem : row ∈ baseAttempts db :=
                      (List.mem_filter.mp (one ▸ List.mem_singleton_self row)).1
                    exact ⟨row, mem, read⟩
                · cases found
      · cases returned
  | listRecent =>
      obtain ⟨rfl | ⟨e, rfl⟩, -⟩ := answered
      · cases found : listRecent driver listLimit db with
        | error e => rw [found] at returned; cases returned
        | ok attempts =>
            rw [found] at returned
            obtain ⟨row, mem, read⟩ := exists_of_mem_fetchAll found returned
            exact ⟨row, Pagination.mem_newestFirst.mp mem, read⟩
      · cases returned
  | listAttemptsPage limit after =>
      obtain ⟨rfl | ⟨e, rfl⟩, -⟩ := answered
      · cases found : listAttemptsPage driver limit after db with
        | error e => rw [found] at returned; cases returned
        | ok attempts =>
            rw [found] at returned
            obtain ⟨row, mem, read⟩ := exists_of_mem_fetchAll found returned
            refine ⟨row, ?_, read⟩
            have listed := Pagination.mem_newestFirst.mp mem
            cases after with
            | none => exact listed
            | some bound => exact (List.mem_filter.mp listed).1
      · cases returned

/-- What a query returns for an added attempt: its row, read back. -/
def ReadsAs (driver : Driver) (added attempt : DeliveryAttempt) : Prop :=
  ∃ row receivedAt, added.HasRow driver row ∧
    driver.shown added.receivedAt.instant = some receivedAt ∧
    attempt = added.readBack row receivedAt

/-- The row of an added attempt, joined with its identity, reads as the attempt. -/
theorem readsAs_of_joined {driver : Driver} {added attempt : DeliveryAttempt} {row : JoinedRow}
    (hasRow : added.HasRow driver row.attempt)
    (identity : deliveryIdentityValues added = ⟨row.deliveryGuid, row.hookId⟩)
    (read : rowToDeliveryAttempt driver row = .ok attempt) : ReadsAs driver added attempt := by
  obtain ⟨id, guid, hookId, values⟩ := row
  obtain ⟨rfl, rfl⟩ : added.deliveryIdentity.deliveryGuid = guid ∧
      added.deliveryIdentity.hookId = hookId := by
    injection identity with sameGuid sameHook
    exact ⟨sameGuid, sameHook⟩
  rw [rowToDeliveryAttempt_of_bound hasRow.bound] at read
  cases shown : driver.shown added.receivedAt.instant with
  | none =>
      rw [shown] at read
      cases read
  | some receivedAt =>
      rw [shown] at read
      exact ⟨values, receivedAt, hasRow, shown, (Except.ok.inj read).symm⟩

end PostgresDeliveryStore

/-- The statements among the events of a store. -/
def statementEvent : Event StoreEffects → Option (Event Sql)
  | ⟨.statement c, a⟩ => some ⟨c, a⟩
  | _ => none

/-- `PostgresDeliveryStore`: what is returned is the row of an added attempt. -/
def postgresDeliveries (driver : Driver) (listLimit : ℕ) : DeliveryBackend where
  add := postgresAdd
  World := DeliveryDatabase
  initial := .empty
  answers := PostgresDeliveryStore.Answers driver listLimit
  Row := StoredAttempt
  Holds db row := ∃ r ∈ DeliveryDatabase.rowsOf db.attempts, r.values = row
  Sound db := db.Keyed
  Wrote e row := ∃ tx values, e = ⟨.statement (.insertAttempt tx values), .ok ()⟩ ∧
    driver.bindAttempt values = .ok row
  Told e db := ∀ e' id values, statementEvent e = some e' →
    DeliveryDatabase.ToldKeys e' id values → db.Identifies id values
  MayAdd attempt h c := ∃ c', c = .statement c' ∧
    PostgresDeliveryStore.MayAdd attempt (h.filterMap statementEvent) c'
  ReadsAs := PostgresDeliveryStore.ReadsAs driver
  addBudget := Multiset.replicate 6 .deliveryStatement
  sound_initial :=
    ⟨fun _ mem => absurd mem List.not_mem_nil, fun _ mem => absurd mem List.not_mem_nil⟩
  empty_initial := by
    rintro row ⟨r, mem, -⟩
    cases mem
  step := by
    intro db db' c a keyed answered
    cases c with
    | appendLeft _ => exact answered.elim
    | statement c =>
        have effect := DeliveryDatabase.effect_of_lossyAnswers answered
        refine ⟨keyed.step effect, ?_, ?_, ?_⟩
        · rintro e' id values ⟨⟩ told
          exact effect.identifies keyed told
        · intro e told e' id values shown key
          exact (told e' id values shown key).step effect
        · intro row mem
          exact (effect.attempts_cases mem).imp_right fun ⟨tx, values, sent, bound⟩ =>
            ⟨tx, values, congrArg statements.event sent, bound⟩
    | getAttempt _ | listRecent | listAttemptsPage _ _ =>
        obtain ⟨-, rfl⟩ := answered
        exact ⟨keyed, fun _ _ _ shown => (by cases shown), fun _ => id, fun _ => .inl⟩
  query_writes_nothing := by
    rintro c a row query ⟨tx, values, sent, -⟩
    cases sent
    cases query
  adds_only := by
    rintro attempt h c ⟨c', rfl, -⟩
    rfl
  add_within attempt := costsAtMost_lift statements (PostgresDeliveryStore.add_within attempt)
  add_meets attempt := by
    refine (statements.meets_lift _ []).mpr ?_
    refine meets_mono (fun h c may => ⟨c, rfl, ?_⟩) (fun _ _ => id)
      (PostgresDeliveryStore.add_meets attempt)
    rw [List.nil_append, Embedding.filterMap_event _ (fun _ => rfl)]
    exact may
  reads := by
    intro db db' c a attempt keyed answered returned
    obtain ⟨row, mem, read⟩ := PostgresDeliveryStore.exists_joined answered returned
    obtain ⟨stored, d, there, key, identity⟩ := PostgresDeliveryStore.of_mem_baseAttempts mem
    refine ⟨row.attempt, stored, ?_⟩
    rintro added before e ⟨c', sent, may⟩ ⟨tx, values, rfl, bound⟩ told
    obtain rfl := StoreCall.statement.inj sent
    obtain ⟨id, parameters, e', mem', toldKey⟩ := may
    obtain ⟨e'', mem'', shown⟩ := List.mem_filterMap.mp mem'
    -- the key of the row is the one the `add` was told, and still means its identity
    have same : row.attempt.githubDeliveryId = id := by
      rw [(Driver.bindAttempt_eq_ok bound).2]
      obtain ⟨_, -, built⟩ := bind_eq_ok.mp parameters
      cases built
      rfl
    have identifies := told e'' mem'' e' id _ shown toldKey
    have means := identifies.2 d there (key.trans same)
    exact PostgresDeliveryStore.readsAs_of_joined ⟨values, same ▸ parameters, bound⟩
      (means.symm.trans identity) read
  same := by
    rintro added attempt ⟨row, receivedAt, -, shown, rfl⟩
    exact ⟨rfl, rfl, Driver.instant_of_shown shown, rfl, rfl, rfl⟩

/-! ## The journal -/

/-- What the services call but the journal. -/
abbrev outsideKinds : Multiset CallKind := {.clock, .identifier, .githubGet, .githubPost}

/-- A journal with its queries; what they return denotes rows. -/
structure JournalBackend extends SharedJournal where
  initial : World
  queries : World → (c : JournalQuery) → c.Answer → Prop
  empty_initial : rows initial = []
  issued_initial : issued initial = ∅
  /-- What creating an entry may take, and finalizing one. -/
  createBudget : Multiset CallKind
  finalizeBudget : Multiset CallKind
  one_identifier : (createBudget + finalizeBudget).count .identifier ≤ 1
  /-- The calls of the services are answered, as long as an identifier is left. -/
  responds : ∀ (w : World) (c : Call), c.kind ∈ outsideKinds + (createBudget + finalizeBudget) →
    (c = .uuid4 → ∃ id, id ∉ issued w) → ∃ a w', answers w c a w'
  queries_respond : ∀ (w : World) (c : JournalQuery), ∃ a, queries w c a
  raises : store.Raises
  create_within : ∀ request, CallsWithin Call.kind createBudget
    (store.createInitiatedGithubRedelivery request)
  finalize_within : ∀ request, CallsWithin Call.kind finalizeBudget (store.finalize request)
  refuses : ∀ {w w' : World} {r : FinalizeRequest} {e : AppError},
    answers w (.finalizeEntry r) (.error e) w' → Refusal e
  denotes : ∀ {w : World} {c : JournalQuery} {a : c.Answer} {action : RecoveryAction},
    queries w c a → action ∈ returnedActions ⟨c, a⟩ → ∃ row ∈ rows w, action.Denotes row

/-- The queries of the in-memory journal.  A loop over the deque is cut short when an
entry is created meanwhile. -/
def MemoryWorld.Queries (w : MemoryWorld) : (c : JournalQuery) → c.Answer → Prop
  | .get actionId, .ok found => found = w.store.get actionId
  | .listRecent limit after, .ok found => found = w.store.listRecent limit after
  | .get _, .error _ | .listRecent .., .error _ => True

/-- The queries of the PostgreSQL journal, over the committed rows. -/
def PostgresWorld.Queries (w : PostgresWorld) : (c : JournalQuery) → c.Answer → Prop
  | .get actionId, .ok (some action) => ∃ row ∈ w.rows, row.actionId = actionId ∧ action.Denotes row
  | .get actionId, .ok none => ∀ row ∈ w.rows, row.actionId ≠ actionId
  | .listRecent limit after, .ok found =>
      List.Forall₂ RecoveryAction.Denotes found (JournalDatabase.pageRows w.rows limit after)
  | .get _, .error _ | .listRecent .., .error _ => True

theorem InMemoryRecoveryActionStore.mem_of_mem_listRecent {store : InMemoryRecoveryActionStore}
    {limit : ℕ} {after : Option RecoveryActionKeyset} {action : RecoveryAction}
    (mem : action ∈ store.listRecent limit after) : action ∈ store.actions := by
  have ordered := List.mem_of_mem_take mem
  cases after with
  | none => exact List.mem_mergeSort.mp ordered
  | some k => exact List.mem_mergeSort.mp (List.mem_filter.mp ordered).1

theorem JournalDatabase.mem_of_mem_pageRows {rows : List RecoveryAction} {limit : ℕ}
    {after : Option RecoveryActionKeyset} {row : RecoveryAction}
    (mem : row ∈ JournalDatabase.pageRows rows limit after) : row ∈ rows := by
  have listed := Pagination.mem_newestFirst.mp (List.mem_of_mem_take mem)
  cases after with
  | none => exact listed
  | some k => exact (List.mem_filter.mp listed).1

/-- The in-memory journal raises nothing but a refusal. -/
theorem InMemoryRecoveryActionStore.refusal_of_finalizeIn {r : FinalizeRequest}
    {actions : List RecoveryAction} {e : AppError} (raised : finalizeIn r actions = .error e) :
    Refusal e := by
  induction actions generalizing e with
  | nil =>
      cases raised
      exact .notFound _
  | cons head rest ih =>
      rw [finalizeIn] at raised
      by_cases other : head.actionId ≠ r.actionId
      · rw [if_pos other] at raised
        cases there : finalizeIn r rest with
        | ok result =>
            rw [there] at raised
            cases raised
        | error e' =>
            rw [there] at raised
            cases raised
            exact ih there
      · rw [if_neg other] at raised
        split at raised
        · cases raised
        · cases raised
          exact .transition _

theorem MemoryWorld.refusal_of_answers {w w' : MemoryWorld} {r : FinalizeRequest} {e : AppError}
    (answered : w.Answers (.finalizeEntry r) (.error e) w') : Refusal e := by
  rw [Answers] at answered
  cases finalized : w.store.finalize r with
  | ok result =>
      rw [finalized] at answered
      cases answered.1
  | error e' =>
      rw [finalized] at answered
      cases answered.1
      exact InMemoryRecoveryActionStore.refusal_of_finalizeIn
        (InMemoryRecoveryActionStore.finalize_eq_error finalized)

theorem MemoryWorld.responds (w : MemoryWorld) (c : Call)
    (may : c.kind ∈ outsideKinds + ({.identifier, .journalOperation} + {.journalOperation}))
    (left : c = .uuid4 → ∃ id, id ∉ w.issued) : ∃ a w', w.Answers c a w' := by
  cases c with
  | now => exact ⟨⟨0, by decide⟩, w, rfl⟩
  | httpGet | httpPost => exact ⟨.error .other, w, rfl⟩
  | uuid4 =>
      obtain ⟨id, fresh⟩ := left rfl
      exact ⟨id, _, fresh, rfl⟩
  | appendLeft entry => exact ⟨(), _, rfl⟩
  | finalizeEntry r =>
      cases finalized : w.store.finalize r with
      | ok result =>
          refine ⟨.ok result.1, { w with store := result.2 }, ?_⟩
          rw [Answers, finalized]
          exact ⟨rfl, rfl⟩
      | error e =>
          refine ⟨.error e, w, ?_⟩
          rw [Answers, finalized]
          exact ⟨rfl, rfl⟩
  | insert | updateInitiated | selectState => simp [Call.kind] at may

theorem PostgresWorld.responds (w : PostgresWorld) (c : Call)
    (may : c.kind ∈ outsideKinds + ({.identifier, .journalStatement} +
      {.journalStatement, .journalStatement})) (left : c = .uuid4 → ∃ id, id ∉ w.issued) :
    ∃ a w', w.Answers c a w' := by
  cases c with
  | now => exact ⟨⟨0, by decide⟩, w, rfl⟩
  | httpGet | httpPost => exact ⟨.error .other, w, rfl⟩
  | uuid4 =>
      obtain ⟨id, fresh⟩ := left rfl
      exact ⟨id, _, fresh, rfl⟩
  | insert | updateInitiated | selectState => exact ⟨.error .sqlAlchemyError, w, rfl⟩
  | appendLeft | finalizeEntry => simp [Call.kind] at may

def memoryJournalBackend (maxActions : ℕ) (pos : 0 < maxActions) : JournalBackend where
  toSharedJournal := memoryJournal
  initial := MemoryWorld.empty maxActions pos
  queries := MemoryWorld.Queries
  createBudget := {.identifier, .journalOperation}
  finalizeBudget := {.journalOperation}
  empty_initial := rfl
  issued_initial := rfl
  one_identifier := by decide
  responds w c may left := MemoryWorld.responds w c may left
  queries_respond w c := by
    cases c with
    | get actionId => exact ⟨.ok (w.store.get actionId), rfl⟩
    | listRecent limit after => exact ⟨.ok (w.store.listRecent limit after), rfl⟩
  raises := inMemoryRecoveryActionStore_raises
  create_within _ := ⟨_, singleton_add_le _ _, fun _ => ⟨0, le_rfl, fun _ => trivial⟩⟩
  finalize_within _ := ⟨0, le_rfl, fun finalized => costsAtMost_ofExcept finalized⟩
  refuses answered := MemoryWorld.refusal_of_answers answered
  denotes := by
    intro w c a action answered returned
    cases c with
    | get actionId =>
        cases a with
        | error e => cases returned
        | ok found =>
            obtain rfl : found = w.store.get actionId := answered
            cases there : w.store.get actionId with
            | none => rw [there] at returned; cases returned
            | some found =>
                rw [there] at returned
                obtain rfl := List.mem_singleton.mp returned
                exact ⟨action, List.mem_of_find?_eq_some there, .refl action⟩
    | listRecent limit after =>
        cases a with
        | error e => cases returned
        | ok found =>
            obtain rfl : found = w.store.listRecent limit after := answered
            exact ⟨action, InMemoryRecoveryActionStore.mem_of_mem_listRecent returned, .refl action⟩

/-- An `UPDATE`, and a `SELECT` after one that has found nothing. -/
theorem postgresRecoveryActionStore_finalize_within (request : FinalizeRequest) :
    CallsWithin Call.kind {.journalStatement, .journalStatement}
      (postgresRecoveryActionStore.finalize request) := by
  dsimp only [postgresRecoveryActionStore]
  cases RecoveryActionState.terminalOfText request.state with
  | none => trivial
  | some state =>
      refine ⟨_, singleton_add_le _ _, fun updated => ?_⟩
      rcases updated with _ | _ | row
      · trivial
      · refine ⟨0, le_rfl, fun existing => ?_⟩
        rcases existing with _ | _ | state' <;> trivial
      · trivial

def postgresJournalBackend : JournalBackend where
  toSharedJournal := postgresJournal
  initial := ⟨[], ∅⟩
  queries := PostgresWorld.Queries
  createBudget := {.identifier, .journalStatement}
  finalizeBudget := {.journalStatement, .journalStatement}
  empty_initial := rfl
  issued_initial := rfl
  one_identifier := by decide
  responds w c may left := PostgresWorld.responds w c may left
  queries_respond w c := by
    cases c with
    | get actionId => exact ⟨.error .httpClient, trivial⟩
    | listRecent limit after => exact ⟨.error .httpClient, trivial⟩
  raises := postgresRecoveryActionStore_raises
  create_within _ := ⟨_, singleton_add_le _ _, fun _ =>
    ⟨0, le_rfl, fun row => by cases row <;> trivial⟩⟩
  finalize_within := postgresRecoveryActionStore_finalize_within
  refuses answered := answered.elim
  denotes := by
    intro w c a action answered returned
    cases c with
    | get actionId =>
        match a with
        | .error e => cases returned
        | .ok none => cases returned
        | .ok (some found) =>
            obtain rfl := List.mem_singleton.mp returned
            obtain ⟨row, mem, -, denotes⟩ := answered
            exact ⟨row, mem, denotes⟩
    | listRecent limit after =>
        cases a with
        | error e => cases returned
        | ok found =>
            obtain ⟨n, bound, rfl⟩ := List.mem_iff_getElem.mp returned
            have related : List.Forall₂ RecoveryAction.Denotes found
              (JournalDatabase.pageRows w.rows limit after) := answered
            have length := related.length_eq
            exact ⟨_, JournalDatabase.mem_of_mem_pageRows (List.getElem_mem (length ▸ bound)),
              related.get bound (length ▸ bound)⟩

end WebhookMonitor
