import WebhookMonitor.Deliveries.AddAlone
import WebhookMonitor.Deliveries.Readback

/-!
# What the tables take

When `add` succeeds on a database that is otherwise unused, in terms of the
attempt alone.

* `DeliveryColumns.Fits`, `AttemptColumns.Fits` — the check constraints and the ranges
  of the columns;
* `DeliveryAttempt.RowsFit` — the rows of an attempt are within them;
* `DeliveryAttempt.KeepsText` — its texts are ones the text columns keep;
* `addAlone_ok_iff` — an attempt is added exactly when both hold;
* `rowsFit_iff` — the rows of an attempt with a positive, non-blank target fit exactly
  when its two numbers are within `BIGINT`.

The dataclass asks for a GUID that is more than white space, the constraint for one
that is more than blanks, so every GUID of an attempt meets it.
-/

namespace WebhookMonitor

open Python Interaction Database PostgresDeliveryStore

/-! ## The constraints -/

/-- The check constraints of `github_deliveries`, and the range of `hook_id`. -/
structure DeliveryColumns.Fits (values : DeliveryColumns) : Prop where
  guid : notBlank values.deliveryGuid = true
  positive : 0 < values.hookId
  range : isBigint values.hookId = true

/-- The check constraints of `delivery_attempts`, and the range of
`installation_target_id`. -/
structure AttemptColumns.Fits (values : AttemptParameters) : Prop where
  digest : values.payloadSha256.length = 64
  pair : isTargetPair values.installationTargetId values.installationTargetType = true
  range : values.installationTargetId.all isBigint = true

namespace DeliveryAttempt

/-- The rows of the attempt are within the constraints and ranges of the tables. -/
structure RowsFit (attempt : DeliveryAttempt) : Prop where
  delivery : (deliveryIdentityValues attempt).Fits
  attempt : ∀ githubDeliveryId, ∃ values,
    deliveryAttemptValues attempt githubDeliveryId = .ok values ∧ values.Fits

/-- The text columns keep the texts of the attempt. -/
structure KeepsText (driver : Driver) (attempt : DeliveryAttempt) : Prop where
  guid : bindText attempt.deliveryIdentity.deliveryGuid = .ok attempt.deliveryIdentity.deliveryGuid
  event : bindText attempt.eventType = .ok attempt.eventType
  action : ∃ s, driver.bindNullableText attempt.action = .ok s
  repository : ∃ s, driver.bindNullableText attempt.repository = .ok s
  sender : ∃ s, driver.bindNullableText attempt.sender = .ok s
  targetType : ∀ s, attempt.installationTargetType = some s → bindText s = .ok s

end DeliveryAttempt

/-! ## Binding the rows -/

theorem isOk_bindText_iff {s : Str} : (∃ s', bindText s = .ok s') ↔ bindText s = .ok s := by
  constructor
  · rintro ⟨s', bound⟩
    obtain rfl := bindText_eq_ok bound
    exact bound
  · exact fun bound => ⟨s, bound⟩

/-- A hexadecimal digest is one a text column keeps. -/
theorem bindText_digest {s : Str} (digest : isSha256Hex s = true) : bindText s = .ok s := by
  rw [isSha256Hex, Bool.and_eq_true, List.all_eq_true] at digest
  have ascii : ∀ c ∈ s, 0 < c.val ∧ c.val < 128 := by
    intro c mem
    have hex := digest.2 c mem
    simp only [isDigit, Bool.or_eq_true, Bool.and_eq_true, decide_eq_true_eq] at hex
    omega
  have scalar : isScalar s = true :=
    isScalar_of_isAscii (isAscii_iff.mpr fun c mem => (ascii c mem).2)
  have nonzero : s.any (fun c => c.val = 0) = false := by
    rw [List.any_eq_false]
    intro c mem
    rw [decide_eq_true_eq]
    exact (ascii c mem).1.ne'
  rw [bindText, scalar, nonzero]
  rfl

/-- The identity is bound exactly when its row fits and its text is kept. -/
theorem bindDelivery_iff {values : DeliveryColumns} :
    (∃ row, bindDelivery values = .ok row) ↔
      values.Fits ∧ bindText values.deliveryGuid = .ok values.deliveryGuid := by
  constructor
  · rintro ⟨row, bound⟩
    rw [bindDelivery] at bound
    obtain ⟨guid, hguid, bound⟩ := bind_eq_ok.mp bound
    obtain rfl := bindText_eq_ok hguid
    split_ifs at bound with fits
    simp only [Bool.and_eq_true, decide_eq_true_eq] at fits
    exact ⟨⟨fits.1.2, fits.2, fits.1.1⟩, hguid⟩
  · rintro ⟨fits, kept⟩
    refine ⟨{ values with deliveryGuid := values.deliveryGuid }, ?_⟩
    rw [bindDelivery, kept, ok_bind, if_pos]
    · rfl
    · simp only [fits.guid, fits.range, fits.positive, decide_true, Bool.and_self]

/-- The surrogate key plays no part in the binding. -/
theorem Driver.bindAttempt_withId (driver : Driver) (values : AttemptParameters) (id : ℕ) :
    driver.bindAttempt { values with githubDeliveryId := id } =
      (driver.bindAttempt values).map fun row => { row with githubDeliveryId := id } := by
  simp only [bindAttempt]
  cases bindText values.payloadSha256 with
  | error e => rfl
  | ok payloadSha256 =>
  cases bindText values.eventType with
  | error e => rfl
  | ok eventType =>
  cases driver.bindNullableText values.action with
  | error e => rfl
  | ok action =>
  cases driver.bindNullableText values.repository with
  | error e => rfl
  | ok repository =>
  cases driver.bindNullableText values.sender with
  | error e => rfl
  | ok sender =>
  cases values.installationTargetType.mapM bindText with
  | error e => rfl
  | ok installationTargetType =>
  simp only [ok_bind]
  split_ifs
  · rfl
  · rfl

theorem deliveryAttemptValues_withId (attempt : DeliveryAttempt) (id id' : ℕ) :
    deliveryAttemptValues attempt id' =
      (deliveryAttemptValues attempt id).map fun values =>
        { values with githubDeliveryId := id' } := by
  simp only [deliveryAttemptValues]
  cases installationTargetIdToDb attempt.installationTargetId with
  | error e => rfl
  | ok targetId => rfl

/-- The optional text is bound exactly when its column keeps it. -/
theorem mapM_bindText_iff {text : Option Str} :
    (∃ column, text.mapM bindText = .ok column) ↔ ∀ s, text = some s → bindText s = .ok s := by
  cases text with
  | none => exact iff_of_true ⟨none, rfl⟩ fun s given => by cases given
  | some s =>
      rw [Option.mapM_some]
      constructor
      · rintro ⟨column, bound⟩ s' given
        cases given
        obtain ⟨s', kept, -⟩ := map_eq_ok.mp bound
        exact isOk_bindText_iff.mp ⟨s', kept⟩
      · intro kept
        exact ⟨some s, map_eq_ok.mpr ⟨s, kept s rfl, rfl⟩⟩

theorem mapM_bindText_eq_ok {text column : Option Str} (bound : text.mapM bindText = .ok column) :
    column = text := by
  cases text with
  | none =>
      cases bound
      rfl
  | some s =>
      obtain ⟨s', kept, rfl⟩ := map_eq_ok.mp bound
      rw [bindText_eq_ok kept]

/-- The row of an attempt is bound exactly when it fits and its texts are kept. -/
theorem bindAttempt_iff {driver : Driver} {attempt : DeliveryAttempt} {id : ℕ}
    {values : AttemptParameters} (built : deliveryAttemptValues attempt id = .ok values) :
    (∃ row, driver.bindAttempt values = .ok row) ↔
      values.Fits ∧ bindText attempt.eventType = .ok attempt.eventType ∧
        (∃ s, driver.bindNullableText attempt.action = .ok s) ∧
        (∃ s, driver.bindNullableText attempt.repository = .ok s) ∧
        (∃ s, driver.bindNullableText attempt.sender = .ok s) ∧
        ∀ s, attempt.installationTargetType = some s → bindText s = .ok s := by
  obtain ⟨targetId, -, built⟩ := bind_eq_ok.mp built
  cases built
  constructor
  · rintro ⟨row, bound⟩
    rw [Driver.bindAttempt] at bound
    obtain ⟨payloadSha256, hpayload, bound⟩ := bind_eq_ok.mp bound
    obtain ⟨eventType, hevent, bound⟩ := bind_eq_ok.mp bound
    obtain ⟨action, haction, bound⟩ := bind_eq_ok.mp bound
    obtain ⟨repository, hrepository, bound⟩ := bind_eq_ok.mp bound
    obtain ⟨sender, hsender, bound⟩ := bind_eq_ok.mp bound
    obtain ⟨targetType, htype, bound⟩ := bind_eq_ok.mp bound
    obtain rfl := bindText_eq_ok hpayload
    obtain rfl := mapM_bindText_eq_ok htype
    split_ifs at bound with fits
    simp only [Bool.and_eq_true, decide_eq_true_eq] at fits
    exact ⟨⟨fits.1.1, fits.2, fits.1.2⟩, isOk_bindText_iff.mp ⟨_, hevent⟩, ⟨_, haction⟩,
      ⟨_, hrepository⟩, ⟨_, hsender⟩, mapM_bindText_iff.mp ⟨_, htype⟩⟩
  · rintro ⟨fits, event, ⟨action, haction⟩, ⟨repository, hrepository⟩, ⟨sender, hsender⟩, type⟩
    obtain ⟨targetType, htype⟩ := mapM_bindText_iff.mpr type
    obtain rfl := mapM_bindText_eq_ok htype
    simp only [Driver.bindAttempt, bindText_digest attempt.digest_wellFormed, event, haction,
      hrepository, hsender, htype, ok_bind]
    rw [if_pos]
    · exact ⟨_, rfl⟩
    · simp only [fits.digest, fits.range, fits.pair, decide_true, Bool.and_self]

/-- An attempt has a row under every surrogate key or under none. -/
theorem DeliveryAttempt.HasRow.withId {driver : Driver} {attempt : DeliveryAttempt}
    {row : StoredAttempt} (hasRow : attempt.HasRow driver row) (id : ℕ) :
    attempt.HasRow driver { row with githubDeliveryId := id } := by
  obtain ⟨values, built, bound⟩ := hasRow
  refine ⟨{ values with githubDeliveryId := id }, ?_, ?_⟩
  · rw [deliveryAttemptValues_withId attempt row.githubDeliveryId, built]
    rfl
  · rw [Driver.bindAttempt_withId, bound]
    rfl

/-! ## The run of an add that is alone -/

section Run

variable {driver : Driver} {attempt : DeliveryAttempt} {db : DeliveryDatabase}

/-- An identifier no stored attempt has. -/
def DeliveryDatabase.IsNew (db : DeliveryDatabase) (attemptId : UUID) : Prop :=
  ∀ row ∈ db.attempts.committed, row.values.attemptId ≠ attemptId

/-- The last statement of the block succeeds when the row is bound, its identifier is
new and its delivery is there. -/
theorem insertAttempt_ok {tx id : ℕ} {row : StoredAttempt} (hasRow : attempt.HasRow driver row)
    (fresh : ∀ other ∈ db.attempts.visible tx, other.values.attemptId ≠ attempt.attemptId)
    (there : ∃ delivery ∈ db.deliveries.visible tx, delivery.id = id) :
    ((insertAttempt tx attempt id).runWith (DeliveryDatabase.respond driver) db).1 = .ok () := by
  obtain ⟨values, built, bound⟩ := hasRow.withId id
  obtain ⟨delivery, mem, named⟩ := there
  have unused : (db.attempts.visible tx).any
      (fun other => other.values.attemptId = row.attemptId) = false := by
    rw [List.any_eq_false]
    intro other mem
    rw [decide_eq_true_eq, hasRow.bound.attemptId]
    exact fresh other mem
  have present : (db.deliveries.visible tx).any (fun delivery => delivery.id = id) = true :=
    List.any_eq_true.mpr ⟨delivery, mem, decide_eq_true named⟩
  have answer : (DeliveryDatabase.respond driver db (.insertAttempt tx values)).1 = .ok () := by
    simp only [DeliveryDatabase.respond, bound, unused, present, Bool.not_true, Bool.or_self,
      Bool.false_eq_true, if_false]
  rw [insertAttempt, built, uncaught_ok, Program.ofExcept_ok, Program.ret_bind, send,
    Program.perform_bind, Program.runWith_call, answer]
  rfl

/-- The block succeeds on tables without pending rows. -/
theorem insertRows_ok {tx : ℕ} {identity : DeliveryColumns} {row : StoredAttempt}
    (sound : Table.Sound id db.deliveries) (deliveries : db.deliveries.pending = [])
    (attempts : db.attempts.pending = []) (fresh : db.IsNew attempt.attemptId)
    (bound : bindDelivery (deliveryIdentityValues attempt) = .ok identity)
    (hasRow : attempt.HasRow driver row) :
    ((insertRows tx attempt).runWith (DeliveryDatabase.respond driver) db).1 = .ok () := by
  obtain rfl := bindDelivery_eq_ok bound
  have seen : db.deliveries.visible tx = db.deliveries.committed := by
    rw [Table.visible, Table.pendingOf, deliveries, List.filter_nil, List.append_nil]
  have new : ∀ other ∈ db.attempts.visible tx, other.values.attemptId ≠ attempt.attemptId := by
    rw [Table.visible, Table.pendingOf, attempts, List.filter_nil, List.append_nil]
    exact fresh
  rw [insertRows, send, Program.perform_bind, Program.runWith_call]
  by_cases known : ∃ delivery ∈ db.deliveries.committed,
      delivery.values = deliveryIdentityValues attempt
  · -- the identity is there: its key is selected
    obtain ⟨delivery, mem, same⟩ := known
    have conflict : (db.deliveries.visible tx).any
        (fun row => row.values = deliveryIdentityValues attempt) = true := by
      rw [seen]
      exact List.any_eq_true.mpr ⟨delivery, mem, decide_eq_true same⟩
    have distinct : (db.deliveries.committed.map Row.values).Nodup :=
      sound.unique.sublist ((List.sublist_append_left _ _).map _)
    have selected : (db.deliveries.visible tx).filter
        (fun row => row.values = deliveryIdentityValues attempt) = [delivery] := by
      rw [seen]
      exact filter_eq_singleton distinct mem same
    have answer : DeliveryDatabase.respond driver db
        (.insertDelivery tx (deliveryIdentityValues attempt)) =
          (.ok none, { db with deliveries := db.deliveries.generate }) := by
      simp only [DeliveryDatabase.respond, bound, conflict, if_true]
    have found : DeliveryDatabase.respond driver { db with deliveries := db.deliveries.generate }
        (.selectDelivery tx (deliveryIdentityValues attempt)) =
          (.ok [delivery.id], { db with deliveries := db.deliveries.generate }) := by
      rw [DeliveryDatabase.respond, bound]
      change (Except.ok (((db.deliveries.visible tx).filter _).map Row.id), _) = _
      rw [selected]
      rfl
    rw [answer]
    change (Program.runWith _ ((send (.selectDelivery tx (deliveryIdentityValues attempt)) >>=
      fun found => orStoreFailure found >>= scalarOne) >>= insertAttempt tx attempt) _).1 = _
    rw [send, Program.perform_bind, Program.call_bind, Program.runWith_call, found]
    refine insertAttempt_ok hasRow new ⟨delivery, ?_, rfl⟩
    exact List.mem_append_left _ mem
  · -- the identity is new: it is inserted and its key returned
    have free : (db.deliveries.visible tx).any
        (fun row => row.values = deliveryIdentityValues attempt) = false := by
      rw [seen, List.any_eq_false]
      intro delivery mem
      rw [decide_eq_true_eq]
      exact fun same => known ⟨delivery, mem, same⟩
    have answer : DeliveryDatabase.respond driver db
        (.insertDelivery tx (deliveryIdentityValues attempt)) =
          (.ok (some (db.deliveries.lastId + 1)),
            { db with
              deliveries := db.deliveries.insert tx (deliveryIdentityValues attempt) }) := by
      simp only [DeliveryDatabase.respond, bound, free, Bool.false_eq_true, if_false]
    rw [answer]
    refine insertAttempt_ok hasRow new ⟨⟨_, tx, deliveryIdentityValues attempt⟩, ?_, rfl⟩
    exact Table.mem_visible.mpr (.inr ⟨List.mem_append_right _ (List.mem_singleton_self _), rfl⟩)

/-- A call that is alone is its block, and the rollback when that raises. -/
theorem addAlone_eq : addAlone driver attempt db =
    (Program.tryCatch (insertRows (db.started + 1) attempt) (rollback (db.started + 1))).runWith
      (DeliveryDatabase.respond driver) { db with started := db.started + 1 } := rfl

/-- An identity that is not bound is a failure of the call, whatever the tables hold. -/
theorem addAlone_of_unbound {e : StatementError}
    (unbound : bindDelivery (deliveryIdentityValues attempt) = .error e) :
    (addAlone driver attempt db).1 = .error (storeFailure e) := by
  have answer : ∀ db : DeliveryDatabase, ∀ tx, DeliveryDatabase.respond driver db
      (.insertDelivery tx (deliveryIdentityValues attempt)) = (.error e, db) := by
    intro db tx
    rw [DeliveryDatabase.respond, unbound]
  rw [addAlone_eq, Program.runWith_tryCatch, insertRows, send, Program.perform_bind,
    Program.runWith_call, answer]
  rfl

/-- **What the tables take.**  An attempt under a new identifier is added, with no
other transaction under way, exactly when its identity and its row are bound. -/
theorem addAlone_ok_iff_bound (quiet : db.Quiet) (fresh : db.IsNew attempt.attemptId) :
    (addAlone driver attempt db).1 = .ok () ↔
      (∃ identity, bindDelivery (deliveryIdentityValues attempt) = .ok identity) ∧
        ∃ row, attempt.HasRow driver row := by
  constructor
  · intro added
    constructor
    · cases bound : bindDelivery (deliveryIdentityValues attempt) with
      | ok identity => exact ⟨identity, rfl⟩
      | error e =>
          rw [addAlone_of_unbound bound] at added
          cases added
    · obtain ⟨-, -, row, -, -, hasRow, -⟩ := addAlone_ok quiet (Prod.ext added rfl)
      exact ⟨row.values, hasRow⟩
  · rintro ⟨⟨identity, bound⟩, row, hasRow⟩
    have inserted : ((insertRows (db.started + 1) attempt).runWith (DeliveryDatabase.respond driver)
        { db with started := db.started + 1 }).1 = .ok () :=
      insertRows_ok quiet.sound.deliveries quiet.deliveries quiet.attempts fresh bound hasRow
    rw [addAlone_eq, Program.runWith_tryCatch]
    cases run : (insertRows (db.started + 1) attempt).runWith (DeliveryDatabase.respond driver)
        { db with started := db.started + 1 } with
    | mk outcome db' =>
        rw [run] at inserted
        obtain rfl : outcome = .ok () := inserted
        rfl

/-- **What the tables take.**  With no other transaction under way, an attempt under a
new identifier is added exactly when its rows fit and its texts are kept. -/
theorem addAlone_ok_iff (quiet : db.Quiet) (fresh : db.IsNew attempt.attemptId) :
    (addAlone driver attempt db).1 = .ok () ↔ attempt.RowsFit ∧ attempt.KeepsText driver := by
  rw [addAlone_ok_iff_bound quiet fresh, bindDelivery_iff]
  constructor
  · rintro ⟨⟨delivery, guid⟩, row, values, built, bound⟩
    obtain ⟨fits, event, action, repository, sender, targetType⟩ :=
      (bindAttempt_iff built).mp ⟨row, bound⟩
    refine ⟨⟨delivery, fun id => ?_⟩, ⟨guid, event, action, repository, sender, targetType⟩⟩
    refine ⟨{ values with githubDeliveryId := id }, ?_, ⟨fits.digest, fits.pair, fits.range⟩⟩
    rw [deliveryAttemptValues_withId attempt row.githubDeliveryId, built]
    rfl
  · rintro ⟨fit, kept⟩
    refine ⟨⟨fit.delivery, kept.guid⟩, ?_⟩
    obtain ⟨values, built, fits⟩ := fit.attempt 0
    obtain ⟨row, bound⟩ := (bindAttempt_iff built).mpr
      ⟨fits, kept.event, kept.action, kept.repository, kept.sender, kept.targetType⟩
    refine ⟨row, values, ?_, bound⟩
    have same : values.githubDeliveryId = 0 := by
      obtain ⟨targetId, -, built⟩ := bind_eq_ok.mp built
      cases built
      rfl
    rw [(Driver.bindAttempt_eq_ok bound).2, same, built]

end Run

/-! ## The numbers of an attempt -/

/-- What is more than white space is more than blanks. -/
theorem notBlank_of_strip {s : Str} (given : strip s ≠ []) : notBlank s = true := by
  rw [notBlank, decide_eq_true_eq]
  intro blank
  refine given (stripOf_eq_nil_iff.mpr fun c mem => ?_)
  have := stripOf_eq_nil_iff.mp blank c mem
  rw [decide_eq_true_eq] at this
  rw [isSpace, this]
  rfl

/-- The target of an attempt: none, or a positive integer with a type. -/
def DeliveryAttempt.HasTarget (attempt : DeliveryAttempt) : Prop :=
  (attempt.installationTargetId = none ∧ attempt.installationTargetType = none) ∨
    ∃ targetId targetType n, attempt.installationTargetId = some targetId ∧
      attempt.installationTargetType = some targetType ∧ readInt targetId = some n ∧ 0 < n ∧
      strip targetType ≠ []

/-- The two numbers of the attempt are within `BIGINT`. -/
structure DeliveryAttempt.HasBigints (attempt : DeliveryAttempt) : Prop where
  hookId : attempt.deliveryIdentity.hookId < 2 ^ 63
  targetId : ∀ s n, attempt.installationTargetId = some s → readInt s = some n → n < 2 ^ 63

theorem isBigint_iff_of_pos {n : ℤ} (pos : 0 < n) : isBigint n = true ↔ n < 2 ^ 63 := by
  rw [isBigint, Bool.and_eq_true, decide_eq_true_eq, decide_eq_true_eq]
  omega

/-- **The constraints that are left.**  Of the constraints and ranges only those of the
two numbers can fail for an attempt with such a target. -/
theorem rowsFit_iff {attempt : DeliveryAttempt} (target : attempt.HasTarget) :
    attempt.RowsFit ↔ attempt.HasBigints := by
  have guid := notBlank_of_strip attempt.deliveryIdentity.guid_nonblank
  have positive := attempt.deliveryIdentity.hookId_pos
  have digest : attempt.payloadSha256.length = 64 := by
    have := attempt.digest_wellFormed
    rw [isSha256Hex, Bool.and_eq_true, decide_eq_true_eq] at this
    exact this.1
  have delivery : (deliveryIdentityValues attempt).Fits ↔
      attempt.deliveryIdentity.hookId < 2 ^ 63 := by
    rw [← isBigint_iff_of_pos positive]
    exact ⟨fun fits => fits.range, fun range => ⟨guid, positive, range⟩⟩
  rcases target with ⟨noId, noType⟩ | ⟨targetId, targetType, n, isId, isType, read, pos, nonblank⟩
  · have built : ∀ id, ∃ values, deliveryAttemptValues attempt id = .ok values ∧ values.Fits := by
      intro id
      rw [deliveryAttemptValues, noId]
      refine ⟨_, rfl, digest, ?_, rfl⟩
      rw [noType]
      rfl
    constructor
    · rintro ⟨fits, -⟩
      refine ⟨delivery.mp fits, fun s n given => ?_⟩
      rw [noId] at given
      cases given
    · rintro ⟨hook, -⟩
      exact ⟨delivery.mpr hook, built⟩
  · have columns : ∀ id, deliveryAttemptValues attempt id = .ok
        { attemptId := attempt.attemptId, githubDeliveryId := id
          receivedAt := attempt.receivedAt, payloadSha256 := attempt.payloadSha256
          eventType := attempt.eventType, action := attempt.action
          repository := attempt.repository, sender := attempt.sender
          installationTargetId := some n
          installationTargetType := attempt.installationTargetType } := by
      intro id
      rw [deliveryAttemptValues, isId, installationTargetIdToDb, read]
      rfl
    constructor
    · rintro ⟨fits, rows⟩
      obtain ⟨values, built, fits'⟩ := rows 0
      rw [columns 0] at built
      cases built
      refine ⟨delivery.mp fits, fun s m given readsAs => ?_⟩
      rw [isId] at given
      cases given
      cases read.symm.trans readsAs
      exact (isBigint_iff_of_pos pos).mp fits'.range
    · rintro ⟨hook, within⟩
      refine ⟨delivery.mpr hook, fun id => ⟨_, columns id, digest, ?_, ?_⟩⟩
      · change isTargetPair (some n) attempt.installationTargetType = true
        rw [isType, isTargetPair, notBlank_of_strip nonblank, decide_eq_true pos]
        rfl
      · exact (isBigint_iff_of_pos pos).mpr (within _ _ isId read)

end WebhookMonitor
