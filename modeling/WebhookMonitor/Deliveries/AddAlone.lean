import WebhookMonitor.Deliveries.ConcurrentAdds

/-!
# One add after the other

`add` with no other transaction under way, as a case of the concurrent one: its
run goes through the same stages.

* `Quiet` — the tables between two calls;
* `Stage.runWith_spec` — a run from any stage to the end;
* `addAlone_ok` — what a successful call leaves: one more row, with a later key.
-/

namespace WebhookMonitor

open Python Interaction Database

namespace DeliveryDatabase

theorem Frame.trans {tx : ℕ} {db db' db'' : DeliveryDatabase} (first : Frame tx db db')
    (second : Frame tx db' db'') : Frame tx db db'' :=
  ⟨first.deliveries.trans second.deliveries, first.attempts.trans second.attempts,
    Nat.le_trans first.started second.started⟩

/-- Every pending row is of the transaction. -/
structure Alone (tx : ℕ) (db : DeliveryDatabase) : Prop where
  deliveries : ∀ row ∈ db.deliveries.pending, row.xmin = tx
  attempts : ∀ row ∈ db.attempts.pending, row.xmin = tx

/-- A transaction that is alone does not wait. -/
theorem Alone.not_waits {tx : ℕ} {db : DeliveryDatabase} (alone : Alone tx db) {c : SqlCall}
    (own : c.tx? = some tx) : ¬ db.Waits c := by
  cases c with
  | insertDelivery tx' values =>
      cases own
      rintro ⟨row, mem, other, -⟩
      exact other (alone.deliveries row mem)
  | insertAttempt tx' values =>
      cases own
      rintro ⟨row, mem, other, -⟩
      exact other (alone.attempts row mem)
  | begin | selectDelivery | commit | rollback => exact id

/-- It stays alone. -/
theorem Alone.frame {tx : ℕ} {db db' : DeliveryDatabase} (alone : Alone tx db)
    (frame : Frame tx db db') : Alone tx db' := by
  constructor
  · intro row mem
    by_contra other
    have kept := frame.deliveries.pendingOf row.xmin other
    have : row ∈ db.deliveries.pendingOf row.xmin := by
      rw [← kept]
      exact Table.mem_pendingOf.mpr ⟨mem, rfl⟩
    exact other (alone.deliveries row (Table.mem_pendingOf.mp this).1)
  · intro row mem
    by_contra other
    have kept := frame.attempts.pendingOf row.xmin other
    have : row ∈ db.attempts.pendingOf row.xmin := by
      rw [← kept]
      exact Table.mem_pendingOf.mpr ⟨mem, rfl⟩
    exact other (alone.attempts row (Table.mem_pendingOf.mp this).1)

/-- The tables when no transaction is under way. -/
structure Quiet (db : DeliveryDatabase) : Prop where
  sound : db.Sound
  deliveries : db.deliveries.pending = []
  attempts : db.attempts.pending = []
  references : ∀ row ∈ db.attempts.committed,
    ∃ delivery ∈ db.deliveries.committed, delivery.id = row.values.githubDeliveryId

/-- The transaction that begins then is alone. -/
theorem Quiet.alone {db : DeliveryDatabase} (quiet : Quiet db) :
    Alone (db.started + 1) { db with started := db.started + 1 } := by
  constructor
  · intro row mem
    rw [quiet.deliveries] at mem
    cases mem
  · intro row mem
    rw [quiet.attempts] at mem
    cases mem

/-- It has no permanent rows yet. -/
theorem Quiet.committedOf_eq_nil {db : DeliveryDatabase} (quiet : Quiet db) :
    db.attempts.committedOf (db.started + 1) = [] := by
  refine List.eq_nil_iff_forall_not_mem.mpr fun row mem => ?_
  obtain ⟨mem, own⟩ := Table.mem_committedOf.mp mem
  have := quiet.sound.attempt_started row (List.mem_append_left _ mem)
  omega

theorem quiet_empty : Quiet empty :=
  ⟨(@Consistent.initial sampleDriver False).sound, rfl, rfl,
    fun _ mem => absurd mem List.not_mem_nil⟩

end DeliveryDatabase

/-- How a run of a call ends: in the stage that fits its outcome. -/
def Stage.Ends (driver : Driver) (attempt : DeliveryAttempt) (tx : ℕ) :
    Except AppError Unit × DeliveryDatabase → Prop
  | (.ok (), db) => (Stage.returned tx).Holds driver False attempt db
  | (.error e, db) => (Stage.raised (some tx) e).Holds driver False attempt db

/-- The run of a call that is alone, from any stage. -/
theorem Stage.runWith_spec {driver : Driver} {attempt : DeliveryAttempt} {tx : ℕ}
    {p : PostgresDeliveryStore.Transaction Unit} {db : DeliveryDatabase} (sound : db.Sound)
    (begun : tx ≤ db.started) (alone : db.Alone tx)
    {told : Option (Except StatementError Unit)}
    (reaches : Stage.Reaches driver False attempt db (some tx) told p) :
    (p.runWith (DeliveryDatabase.respond driver) db).2.Sound ∧
      db.Frame tx (p.runWith (DeliveryDatabase.respond driver) db).2 ∧
      Stage.Ends driver attempt tx (p.runWith (DeliveryDatabase.respond driver) db) := by
  -- along the program; the database changes with every statement
  induction p generalizing db told with
  | ret u =>
      obtain ⟨stage, rest, own, -, holds⟩ := reaches
      obtain ⟨tx', rfl⟩ := Stage.eq_returned_of_program rest.symm
      cases own
      exact ⟨sound, .refl _ _, holds⟩
  | raise e =>
      obtain ⟨stage, rest, own, -, holds⟩ := reaches
      rcases Stage.eq_raised_of_program rest.symm with ⟨tx', rfl⟩ | ⟨tx', rfl⟩
      · cases own
        exact ⟨sound, .refl _ _, holds⟩
      · exact holds.1.elim
  | call c k ih =>
      obtain ⟨stage, rest, own, heard, holds⟩ := reaches
      -- the first statement, then the rest of the run
      have named : c.tx? = some tx := by
        cases stage with
        | start | raised => cases rest <;> cases own
        | returned | doubtful => cases rest
        | begun | selecting | inserting | committing | rollingBack | unanswered =>
            cases rest
            exact own
      have effect : db.Effect driver False c (db.respond driver c).1 (db.respond driver c).2 :=
        DeliveryDatabase.effect_of_answers (.inl ⟨alone.not_waits named, rfl⟩)
      have frame := effect.frame named
      obtain ⟨-, tx', reaches, moved⟩ := Stage.next sound heard holds rest.symm effect
      obtain rfl : tx' = some tx := by
        rcases moved with ⟨fresh, -, -⟩ | ⟨same, -, -⟩
        · cases own.symm.trans fresh
        · exact same.symm.trans own
      obtain ⟨sound', frame', ends⟩ := ih _
        (effect.sound sound fun m own => by cases named.symm.trans own; exact begun)
        (Nat.le_trans begun frame.started) (alone.frame frame) reaches
      exact ⟨sound', frame.trans frame', ends⟩

/-- What a successful `add` leaves. -/
theorem addAlone_ok {driver : Driver} {attempt : DeliveryAttempt} {db db' : DeliveryDatabase}
    (quiet : db.Quiet)
    (added : PostgresDeliveryStore.addAlone driver attempt db = (.ok (), db')) :
    db'.Quiet ∧ (∀ delivery ∈ db.deliveries.committed, delivery ∈ db'.deliveries.committed) ∧
      ∃ row, db'.attempts.committed = db.attempts.committed ++ [row] ∧
        (∀ other ∈ db.attempts.committed, other.id < row.id) ∧
        attempt.HasRow driver row.values ∧
        Stage.Identified attempt row.values.githubDeliveryId db'.deliveries.committed := by
  -- `BEGIN` first, and the run from there
  have begins := @Stage.start_next driver False attempt _ _ _ quiet.sound
    (.begun : db.Effect driver False .begin (.ok (db.started + 1))
      { db with started := db.started + 1 })
  have sound : DeliveryDatabase.Sound { db with started := db.started + 1 } :=
    (.begun : db.Effect driver False .begin _ _).sound quiet.sound
      fun _ own => by cases own
  obtain ⟨sound', frame, ends⟩ := Stage.runWith_spec sound (Nat.le_refl _) quiet.alone begins
  have run : PostgresDeliveryStore.addAlone driver attempt db =
      (PostgresDeliveryStore.orStoreFailure (.ok (db.started + 1)) >>= fun tx =>
        tryCatch (PostgresDeliveryStore.insertRows tx attempt)
          (PostgresDeliveryStore.rollback tx)).runWith
        (DeliveryDatabase.respond driver) { db with started := db.started + 1 } := rfl
  rw [← run, added] at sound' frame ends
  obtain ⟨deliveries, attempts, row, committed, hasRow, identified⟩ := ends
  have alone' := quiet.alone.frame frame
  -- what is new in the table is the row of the call
  have grown : db'.attempts.committed = db.attempts.committed ++ [row] := by
    rw [← committed]
    exact frame.attempts.committed_eq_append quiet.committedOf_eq_nil
  have grows : ∀ delivery ∈ db.deliveries.committed, delivery ∈ db'.deliveries.committed :=
    fun _ mem => frame.deliveries.mem_committed mem
  refine ⟨⟨sound', Table.pending_eq_nil alone'.deliveries deliveries,
    Table.pending_eq_nil alone'.attempts attempts, ?_⟩, grows, row, grown, ?_, hasRow, identified⟩
  · -- every attempt still has its delivery
    intro stored mem
    rw [grown] at mem
    rcases List.mem_append.mp mem with mem | mem
    · obtain ⟨delivery, there, named⟩ := quiet.references stored mem
      exact ⟨delivery, grows delivery there, named⟩
    · obtain rfl := List.mem_singleton.mp mem
      obtain ⟨delivery, there, named, -⟩ := identified
      exact ⟨delivery, there, named⟩
  · -- the new row has the last generated key
    intro other mem
    have present : row ∈ db'.attempts.committed ++ db'.attempts.pending := by
      rw [grown]
      exact List.mem_append_left _ (List.mem_append_right _ (List.mem_singleton_self row))
    have bound := quiet.sound.attempts.generated other (List.mem_append_left _ mem)
    rcases frame.attempts.later row present with old | late
    · have before : row.xmin ≤ db.started := quiet.sound.attempt_started row old
      have own : row ∈ db'.attempts.committedOf (db.started + 1) := by
        rw [committed]
        exact List.mem_singleton_self row
      have := (Table.mem_committedOf.mp own).2
      omega
    · exact Nat.lt_of_le_of_lt bound late

end WebhookMonitor
