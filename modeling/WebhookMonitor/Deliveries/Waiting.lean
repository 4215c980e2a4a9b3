import WebhookMonitor.Deliveries.ConcurrentAdds

/-!
# Who waits for whom

An insert of `PostgresDeliveryStore.add` waits for another transaction that has inserted a row
with the same unique key.  Concurrent adds do not wait in a circle:

* the insert of an identity comes first, so nobody waits for a call that waits there;
* a call that waits to insert its attempt waits for one that has inserted its own, and such a
  call only ends its transaction.

`Consistent.exists_free` says so: behind every call that waits there is one that does not.
When it is answered, and no statement fails of itself, it fails at most for its values
(`Stage.refuses`).
-/

namespace WebhookMonitor

open Python Interaction Database

variable {driver : Driver} {lost : Prop} {cfg : AddConfig}

/-! ## Whose rows they are -/

/-- The transaction of a call after an answer: a new one, or the one of the statement. -/
theorem Consistent.transactionOf_answer (consistent : Consistent driver lost cfg) {i : ℕ}
    {attempt : DeliveryAttempt} {h : List (Event Sql)} {c : SqlCall}
    {k : c.Answer → PostgresDeliveryStore.Transaction Unit} {a : c.Answer}
    {db' : DeliveryDatabase} (pending : cfg.threads i = some ⟨attempt, h, .call c k⟩)
    (effect : cfg.world.Effect driver lost c a db') :
    (transactionOf h = none ∧ c = .begin) ∨
      ∃ tx, transactionOf h = some tx ∧ c.tx? = some tx ∧
        transactionOf (h ++ [(⟨c, a⟩ : Event Sql)]) = some tx := by
  obtain ⟨stage, rest, own, heard, holds⟩ := consistent.stage i _ pending
  obtain ⟨-, tx, -, ⟨none_yet, -, begins⟩ | ⟨same, named, begun⟩⟩ :=
    Stage.next consistent.sound heard holds rest.symm effect
  · exact .inl ⟨own ▸ none_yet, begins⟩
  · obtain ⟨n, rfl⟩ := Option.ne_none_iff_exists'.mp begun
    have mine : transactionOf h = some n := own ▸ same
    refine .inr ⟨n, mine, named, ?_⟩
    rw [transactionOf_snoc, mine]
    rfl

/-- Every identity was inserted by a call under way, or one that has ended. -/
def DeliveriesOwned (cfg : AddConfig) : Prop :=
  ∀ row ∈ cfg.world.deliveries.committed ++ cfg.world.deliveries.pending, ∃ i t,
    cfg.threads i = some t ∧ transactionOf t.history = some row.xmin

theorem DeliveriesOwned.answer (owned : DeliveriesOwned cfg)
    (consistent : Consistent driver lost cfg) {i : ℕ} {attempt : DeliveryAttempt}
    {h : List (Event Sql)} {c : SqlCall}
    {k : c.Answer → PostgresDeliveryStore.Transaction Unit} {a : c.Answer}
    {db' : DeliveryDatabase} (pending : cfg.threads i = some ⟨attempt, h, .call c k⟩)
    (effect : cfg.world.Effect driver lost c a db') :
    DeliveriesOwned (cfg.set db' i ⟨attempt, h ++ [⟨c, a⟩], k a⟩) := by
  -- a row that was there keeps its owner
  have kept : ∀ row ∈ cfg.world.deliveries.committed ++ cfg.world.deliveries.pending, ∃ j t,
      (cfg.set db' i ⟨attempt, h ++ [⟨c, a⟩], k a⟩).threads j = some t ∧
        transactionOf t.history = some row.xmin := by
    intro row mem
    obtain ⟨j, t, running, named⟩ := owned row mem
    by_cases same : j = i
    · subst same
      cases pending.symm.trans running
      refine ⟨j, _, Config.set_self .., ?_⟩
      rw [transactionOf_snoc, named]
      rfl
    · exact ⟨j, t, (Config.set_of_ne _ _ _ same).trans running, named⟩
  intro row mem
  rcases consistent.transactionOf_answer pending effect with ⟨-, rfl⟩ | ⟨tx, -, named, mine⟩
  · obtain ⟨-, rfl⟩ | ⟨-, rfl⟩ := effect.begin
    · exact kept row mem
    · exact kept row mem
  · rcases (effect.frame named).deliveries.of_mem mem with mem | new
    · exact kept row mem
    · exact ⟨i, _, Config.set_self .., mine.trans (congrArg some new.symm)⟩

theorem deliveriesOwned_of_reachable {S : System Sql AppError Unit DeliveryAttempt DeliveryDatabase}
    (adds : Adds driver lost S) {ok : AddConfig → Label Sql DeliveryAttempt → Prop}
    (reachable : S.Reachable ok .empty cfg) : DeliveriesOwned cfg := by
  refine System.Reachable.invariant (P := DeliveriesOwned) ?_ ?_ reachable
  · intro row mem
    cases mem
  · intro cfg l cfg' before owned step _
    cases step with
    | @spawn i attempt free =>
        intro row mem
        obtain ⟨j, t, running, named⟩ := owned row mem
        have other : j ≠ i := by
          rintro rfl
          rw [free] at running
          cases running
        exact ⟨j, t, (Config.set_of_ne _ _ _ other).trans running, named⟩
    | answer pending answered =>
        exact owned.answer (Consistent.of_reachable adds before) pending (adds.effect answered)

/-! ## What the others do meanwhile -/

/-- A call that only ends its transaction. -/
def Stage.IsEnding : Stage → Prop
  | .committing _ | .rollingBack .. => True
  | _ => False

/-- With a row of its own in `delivery_attempts`, a call only ends its transaction. -/
theorem Stage.isEnding_of_attempt {stage : Stage} {attempt : DeliveryAttempt}
    {db : DeliveryDatabase} (holds : stage.Holds driver lost attempt db) {row : Row StoredAttempt}
    (mem : row ∈ db.attempts.pending) (own : stage.tx? = some row.xmin) : stage.IsEnding := by
  have mine : row ∈ db.attempts.pendingOf row.xmin := Table.mem_pendingOf.mpr ⟨mem, rfl⟩
  have absurd_of_nil : db.attempts.pendingOf row.xmin = [] → False := by
    intro none
    rw [none] at mine
    cases mine
  cases stage with
  | start => cases own
  | committing tx => trivial
  | rollingBack tx e => trivial
  | begun tx =>
      cases own
      exact (absurd_of_nil holds.2.2).elim
  | selecting tx =>
      cases own
      exact (absurd_of_nil holds.2.1.2).elim
  | inserting tx values =>
      cases own
      exact (absurd_of_nil holds.2.1.2).elim
  | returned tx =>
      cases own
      exact (absurd_of_nil holds.2.1).elim
  | unanswered tx e | doubtful tx e =>
      cases own
      exact (absurd_of_nil holds.2.2.1).elim
  | raised tx e =>
      obtain rfl : tx = some row.xmin := own
      exact (absurd_of_nil holds.2.2).elim

/-- With a row of its own in `github_deliveries`, a call inserts its attempt or ends. -/
theorem Stage.of_delivery {stage : Stage} {attempt : DeliveryAttempt} {db : DeliveryDatabase}
    (holds : stage.Holds driver lost attempt db) {row : Row DeliveryColumns}
    (mem : row ∈ db.deliveries.pending) (own : stage.tx? = some row.xmin) :
    stage.IsEnding ∨ ∃ values, stage = .inserting row.xmin values := by
  have mine : row ∈ db.deliveries.pendingOf row.xmin := Table.mem_pendingOf.mpr ⟨mem, rfl⟩
  have absurd_of_nil : db.deliveries.pendingOf row.xmin = [] → False := by
    intro none
    rw [none] at mine
    cases mine
  cases stage with
  | start => cases own
  | committing tx => exact .inl trivial
  | rollingBack tx e => exact .inl trivial
  | inserting tx values =>
      cases own
      exact .inr ⟨values, rfl⟩
  | begun tx =>
      cases own
      exact (absurd_of_nil holds.1.2).elim
  | selecting tx =>
      cases own
      exact (absurd_of_nil holds.1.2).elim
  | returned tx =>
      cases own
      exact (absurd_of_nil holds.1).elim
  | unanswered tx e | doubtful tx e =>
      cases own
      exact (absurd_of_nil holds.2.1).elim
  | raised tx e =>
      obtain rfl : tx = some row.xmin := own
      exact (absurd_of_nil holds.1.2).elim

/-- A call that has a statement to send. -/
def AddConfig.Sends (cfg : AddConfig) (i : ℕ) (c : SqlCall) : Prop :=
  ∃ t k, cfg.threads i = some t ∧ t.rest = .call c k

/-- A call that only ends its transaction waits for nobody. -/
theorem Stage.IsEnding.sends {stage : Stage} (ending : stage.IsEnding) {i : ℕ}
    {t : Thread Sql AppError Unit DeliveryAttempt} (running : cfg.threads i = some t)
    (rest : t.rest = stage.program t.request) :
    ∃ c, cfg.Sends i c ∧ ¬ cfg.world.Waits c := by
  cases stage with
  | committing tx => exact ⟨.commit tx, ⟨t, _, running, rest⟩, id⟩
  | rollingBack tx e => exact ⟨.rollback tx, ⟨t, _, running, rest⟩, id⟩
  | start | begun | selecting | inserting | returned | raised | unanswered | doubtful =>
      exact ending.elim

/-- **No deadlock.**  Behind every call that waits there is one that does not. -/
theorem Consistent.exists_free (consistent : Consistent driver lost cfg)
    (owned : DeliveriesOwned cfg) {c : SqlCall} (waits : cfg.world.Waits c) :
    ∃ i c', cfg.Sends i c' ∧ ¬ cfg.world.Waits c' := by
  -- a call with a pending attempt only ends its transaction
  have of_attempt : ∀ row ∈ cfg.world.attempts.pending, ∃ i c',
      cfg.Sends i c' ∧ ¬ cfg.world.Waits c' := by
    intro row mem
    obtain ⟨i, t, running, named⟩ := consistent.owned row (List.mem_append_right _ mem)
    obtain ⟨stage, rest, own, -, holds⟩ := consistent.stage i t running
    exact ⟨i, (Stage.isEnding_of_attempt holds mem (own.trans named)).sends running rest⟩
  cases c with
  | insertAttempt tx values =>
      obtain ⟨row, mem, -, -⟩ := waits
      exact of_attempt row mem
  | insertDelivery tx values =>
      obtain ⟨row, mem, -, -⟩ := waits
      obtain ⟨i, t, running, named⟩ := owned row (List.mem_append_right _ mem)
      obtain ⟨stage, rest, own, -, holds⟩ := consistent.stage i t running
      rcases Stage.of_delivery holds mem (own.trans named) with ending | ⟨values, rfl⟩
      · exact ⟨i, ending.sends running rest⟩
      · -- the other one has its attempt yet to insert, and may wait in turn
        by_cases blocked : cfg.world.Waits (.insertAttempt row.xmin values)
        · obtain ⟨row', mem', -, -⟩ := blocked
          exact of_attempt row' mem'
        · exact ⟨i, _, ⟨t, _, running, rest⟩, blocked⟩
  | begin | selectDelivery | commit | rollback => exact waits.elim

/-! ## What fails without a failure -/

/-- The database refuses the values of the statement: they cannot be bound or violate a check,
or the identifier of the attempt is taken. -/
def DeliveryDatabase.Refuses (driver : Driver) (db : DeliveryDatabase) : SqlCall → Prop
  | .insertDelivery _ values | .selectDelivery _ values => ∃ e, bindDelivery values = .error e
  | .insertAttempt tx values => (∃ e, driver.bindAttempt values = .error e) ∨
      ∃ row ∈ db.attempts.visible tx, row.values.attemptId = values.attemptId
  | .begin | .commit _ | .rollback _ => False

/-- The statement has failed. -/
def statementFailed : Event Sql → Bool
  | ⟨.begin, .error _⟩ | ⟨.insertDelivery .., .error _⟩ | ⟨.selectDelivery .., .error _⟩
  | ⟨.insertAttempt .., .error _⟩ | ⟨.commit _, .error _⟩ => true
  | _ => false

/-- A statement of a call that is answered fails for its values alone: the delivery it points
to is there. -/
theorem Stage.refuses {stage : Stage} {attempt : DeliveryAttempt} {db : DeliveryDatabase}
    {c : SqlCall} {k : c.Answer → PostgresDeliveryStore.Transaction Unit}
    (holds : stage.Holds driver lost attempt db) (pending : stage.program attempt = .call c k)
    (failed : statementFailed ⟨c, (db.respond driver c).1⟩ = true) : db.Refuses driver c := by
  cases stage with
  | returned | raised | doubtful => cases pending
  | start | committing | rollingBack | unanswered =>
      cases pending
      cases failed
  | begun tx =>
      cases pending
      cases bound : bindDelivery (deliveryIdentityValues attempt) with
      | error e => exact ⟨e, bound⟩
      | ok values =>
          rw [DeliveryDatabase.respond, bound] at failed
          dsimp only at failed
          split_ifs at failed <;> cases failed
  | selecting tx =>
      cases pending
      cases bound : bindDelivery (deliveryIdentityValues attempt) with
      | error e => exact ⟨e, bound⟩
      | ok values =>
          rw [DeliveryDatabase.respond, bound] at failed
          cases failed
  | inserting tx values =>
      cases pending
      obtain ⟨-, -, -, delivery, visible, key, -⟩ := holds
      cases bound : driver.bindAttempt values with
      | error e => exact .inl ⟨e, bound⟩
      | ok row =>
          obtain ⟨sameId, sameKey⟩ := Driver.bindAttempt_eq_ok bound
          have points : ((db.deliveries.visible tx).any fun delivery =>
              delivery.id = row.githubDeliveryId) = true :=
            List.any_eq_true.mpr ⟨delivery, visible, decide_eq_true (key.trans sameKey.symm)⟩
          rw [DeliveryDatabase.respond, bound] at failed
          dsimp only at failed
          split_ifs at failed with violated
          · rw [points, Bool.not_true, Bool.or_false] at violated
            obtain ⟨other, mem, same⟩ := List.any_eq_true.mp violated
            exact .inr ⟨other, mem, (of_decide_eq_true same).trans sameId⟩
          · cases failed

end WebhookMonitor
