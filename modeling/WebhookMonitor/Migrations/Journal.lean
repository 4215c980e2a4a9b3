import WebhookMonitor.Journal.KeptRows
import WebhookMonitor.Migrations.RoundTrip

/-!
# The journal of the service, migrated

The entries that the service stores, as rows of `recovery_actions` at the head.

* `entryRow` — the columns of an entry;
* `fits_entryRow` — an entry that the table takes is a row of the head;
* `StoredEntries` — the entries of a journal, under their generated keys;
* `storedEntries_of_reachable` — the journals that any calls leave are such;
* `journalTable_roundTrips_iff` — the journal of the service makes the round trip exactly
  when nobody has asked for a recovery with an OIDC token.
-/

namespace WebhookMonitor

open Python Sql

namespace Migrations

/-! ## Values of columns -/

/-- A text in a column. -/
def textValue (s : Str) : Value := .text (.ofList (s.map fun c => Char.ofNat c.val))

/-- A time in a column; there are 730119 days from 0001-01-01 to 2000-01-01. -/
def timeValue (t : AwareDatetime) : Value := .timestamptz (t.instant - 730119 * 86400000000)

/-- A value in a nullable column. -/
def nullable {α : Type} (value : α → Value) (o : Option α) : Value := o.elim .null value

/-- The text of an authentication method. -/
def methodText : AuthenticationMethod → String
  | .managementBearer => "management_bearer"
  | .oidcJwt => "oidc_jwt"

/-- The text of a capability. -/
def capabilityText : ManagementCapability → String
  | .diagnosticsRead => "diagnostics.read"
  | .recoveryRead => "recovery.read"
  | .recoveryExecute => "recovery.execute"

/-- The text of a state. -/
def stateText : RecoveryActionState → String
  | .initiated => "initiated"
  | .accepted => "accepted"
  | .failed => "failed"
  | .outcomeUnknown => "outcome_unknown"

/-- The columns of an entry, with its generated key. -/
def entryRow (id : ℤ) (action : RecoveryAction) : Row String where
  entries :=
    [⟨"id", .bigint id⟩,
     ⟨"action_id", .uuid action.actionId⟩,
     ⟨"action_type", .text "github_repository_webhook_redelivery"⟩,
     ⟨"requested_at", timeValue action.requestedAt⟩,
     ⟨"completed_at", nullable timeValue action.completedAt⟩,
     ⟨"attempt_id", .uuid action.attemptId⟩,
     ⟨"delivery_guid", textValue action.deliveryGuid⟩,
     ⟨"hook_id", .bigint action.hookId⟩,
     ⟨"repository", textValue action.repository⟩,
     ⟨"github_delivery_id", .bigint action.githubDeliveryId⟩,
     ⟨"authentication_method", .text (methodText action.authenticationMethod)⟩,
     ⟨"state", textValue action.state.text⟩,
     ⟨"upstream_status_code", nullable .bigint action.upstreamStatusCode⟩,
     ⟨"failure_category", nullable textValue action.failureCategory⟩,
     ⟨"principal_issuer", nullable textValue action.principalIssuer⟩,
     ⟨"principal_subject", nullable textValue action.principalSubject⟩,
     ⟨"principal_client_id", nullable textValue action.principalClientId⟩,
     ⟨"authorization_capability",
      nullable (fun c => .text (capabilityText c)) action.authorizationCapability⟩,
     ⟨"authorization_scope", nullable textValue action.authorizationScope⟩]
  nodupKeys := by
    show headSchema.names.Nodup
    exact headSchema.columns_nodup

/-- The keys of an entry are the columns of the head. -/
theorem keys_entryRow (id : ℤ) (action : RecoveryAction) :
    (entryRow id action).keys = headSchema.names := rfl

/-! ### Ranges -/

section Ranges

variable {s : Str} {name : String} {type : DataType}

theorem toNat_ofNat_codePoint {c : CodePoint} (scalar : isSurrogate c = false) :
    (Char.ofNat c.val).toNat = c.val := by
  have valid : c.val.isValidChar := by
    have := c.isLt
    simp only [isSurrogate, Bool.and_eq_false_iff, decide_eq_false_iff_not] at scalar
    rw [Nat.isValidChar]
    omega
  rw [Char.ofNat, dif_pos valid]
  rfl

theorem contains_time (t : AwareDatetime) :
    DataType.timestamptz.contains (timeValue t) = true := by
  have wall := t.wall.isLt
  have offset := t.offset.property
  have range : isTimestamp (t.instant - 730119 * 86400000000) = true := by
    rw [AwareDatetime.instant]
    exact isTimestamp_of_range (by omega) (by omega)
  rw [DataType.contains, timeValue, Value.inRange]
  exact range

/-- The driver binds texts of scalar values, none of them zero. -/
theorem codePoints_of_bindText (bound : bindText s = .ok s) :
    ∀ c ∈ s, isSurrogate c = false ∧ c.val ≠ 0 := by
  rw [bindText] at bound
  split at bound
  next => cases bound
  next scalar =>
    split at bound
    next => cases bound
    next zero =>
      rw [Bool.not_eq_true', Bool.not_eq_false, isScalar_iff] at scalar
      intro c mem
      exact ⟨scalar c mem, fun none => zero (List.any_eq_true.mpr ⟨c, mem, decide_eq_true none⟩)⟩

/-- A text that the driver binds is one of a text column. -/
theorem contains_text (bound : bindText s = .ok s) :
    DataType.text.contains (textValue s) = true := by
  have each : ∀ c ∈ s, (Char.ofNat c.val).toNat ≠ 0 := by
    intro c mem
    obtain ⟨scalar, positive⟩ := codePoints_of_bindText bound c mem
    rwa [toNat_ofNat_codePoint scalar]
  simpa [DataType.contains, textValue, Value.type?, Value.inRange] using each

theorem contains_bigint {n : ℤ} (range : isBigint n = true) :
    DataType.bigint.contains (.bigint n) = true := by
  rw [DataType.contains, Value.inRange]
  exact range

/-- A column that is not nullable takes the values of its type, apart from `NULL`. -/
theorem takes_value {v : Value} (contains : type.contains v = true)
    (known : v.type?.isSome = true) : Column.takes ⟨name, type, false⟩ v = true := by
  have notNull : v ≠ .null := by
    rintro rfl
    cases known
  rw [Column.takes, contains, decide_eq_true notNull]
  rfl

/-- A nullable column takes a value of its type, and none. -/
theorem takes_nullable {α : Type} {value : α → Value} {o : Option α}
    (contains : ∀ a, o = some a → type.contains (value a) = true) :
    Column.takes ⟨name, type, true⟩ (nullable value o) = true := by
  cases o with
  | none => rfl
  | some a =>
      rw [Column.takes, nullable, Option.elim_some, contains a rfl]
      rfl

end Ranges

/-! ## Entries -/

section Entries

variable {action : RecoveryAction} {id : ℤ}

theorem contains_methodText (method : AuthenticationMethod) :
    DataType.text.contains (.text (methodText method)) = true := by
  cases method <;> decide

theorem contains_capabilityText (capability : ManagementCapability) :
    DataType.text.contains (.text (capabilityText capability)) = true := by
  cases capability <;> decide

/-- The text of a state, as the service has it. -/
theorem textValue_state (state : RecoveryActionState) :
    textValue state.text = .text (stateText state) := by
  cases state <;> decide +kernel

theorem contains_stateText (state : RecoveryActionState) :
    DataType.text.contains (textValue state.text) = true := by
  rw [textValue_state]
  cases state <;> decide

/-- The state of an entry is one of those the constraint lists. -/
theorem text_stateText (state : RecoveryActionState) :
    textValue state.text ∈
      ["initiated", "accepted", "failed", "outcome_unknown"].map Value.text := by
  rw [textValue_state]
  cases state <;> decide

theorem text_initiated {state : RecoveryActionState} (initiated : state.isTerminal = false) :
    textValue state.text = .text "initiated" := by
  rw [textValue_state]
  cases state with
  | initiated => rfl
  | accepted | failed | outcomeUnknown => cases initiated

theorem text_terminal {state : RecoveryActionState} (terminal : state.isTerminal = true) :
    textValue state.text ∈ ["accepted", "failed", "outcome_unknown"].map Value.text := by
  rw [textValue_state]
  cases state with
  | initiated => cases terminal
  | accepted | failed | outcomeUnknown => decide

theorem text_methodText (method : AuthenticationMethod) :
    Value.text (methodText method) ∈ ["management_bearer", "oidc_jwt"].map Value.text := by
  cases method <;> decide

/-- A text that is not blank for the driver is not blank for the database. -/
theorem passes_notBlankText {row : Row String} {column : String} {s : Str}
    (found : row.lookup column = some (textValue s)) (bound : bindText s = .ok s)
    (visible : notBlank s = true) : (notBlankText column).Passes row := by
  obtain ⟨c, mem, other⟩ : ∃ c ∈ s, ¬ c.val = 0x20 := by
    rw [notBlank, decide_eq_true_eq, ne_eq, stripOf_eq_nil_iff] at visible
    simpa using visible
  have letter : Char.ofNat c.val ≠ ' ' := by
    intro blank
    have code := toNat_ofNat_codePoint (codePoints_of_bindText bound c mem).1
    rw [blank] at code
    exact other code.symm
  have inside : Char.ofNat c.val ∈ (String.ofList (s.map fun c => Char.ofNat c.val)).toList := by
    rw [String.toList_ofList]
    exact List.mem_map_of_mem mem
  have value : (Expression.length (.btrim (.column column))).eval row =
      .bigint (btrim (.ofList (s.map fun c => Char.ofNat c.val))).length := by
    rw [Expression.eval, Expression.eval, Expression.eval_column found]
    rfl
  rw [notBlankText, Condition.passes_gt value]
  exact Int.natCast_pos.mpr (length_btrim_pos inside letter)

/-- The columns take the values of an entry that the driver binds. -/
theorem typed_entryRow (bound : BoundEntry action) (range : isBigint id = true) :
    ∀ column ∈ headSchema.columns,
      ((entryRow id action).lookup column.name).any column.takes = true := by
  simp only [headSchema, createdSchema, addedColumns, nullableText, List.map_cons, List.map_nil,
    List.cons_append, List.nil_append, List.forall_mem_cons, List.not_mem_nil, false_implies,
    implies_true, and_true]
  exact ⟨takes_value (contains_bigint range) rfl, takes_value rfl rfl,
    takes_value rfl rfl, takes_value (contains_time _) rfl,
    takes_nullable fun t _ => contains_time t, takes_value rfl rfl,
    takes_value (contains_text bound.guid) rfl,
    takes_value (contains_bigint bound.hookId) rfl,
    takes_value (contains_text bound.repository) rfl,
    takes_value (contains_bigint bound.deliveryId) rfl,
    takes_value (contains_methodText _) rfl, takes_value (contains_stateText _) rfl,
    takes_nullable fun n given => contains_bigint (bound.status n given),
    takes_nullable fun s given => contains_text (bound.category s given),
    takes_nullable fun s given => contains_text (bound.issuer s given),
    takes_nullable fun s given => contains_text (bound.subject s given),
    takes_nullable fun s given => contains_text (bound.clientId s given),
    takes_nullable fun c _ => contains_capabilityText c,
    takes_nullable fun s given => contains_text (bound.scope s given)⟩

/-- The constraint on the status of an entry. -/
theorem passes_status {status : Option ℤ}
    (found : (entryRow id action).lookup "upstream_status_code" = some (nullable .bigint status))
    (within : status.all (fun n => 100 ≤ n && n ≤ 599) = true) :
    statusInRange.Passes (entryRow id action) := by
  have value := Expression.eval_column found
  rw [statusInRange, Condition.passes_or, Condition.passes_and, isNull,
    Condition.passes_isNull, value]
  cases status with
  | none => exact .inl rfl
  | some n =>
      rw [Option.all_some, Bool.and_eq_true, decide_eq_true_eq, decide_eq_true_eq] at within
      exact .inr ⟨(Condition.passes_ge value).mpr within.1,
        (Condition.passes_le value).mpr within.2⟩

/-- The constraint on the state of an entry and its completion. -/
theorem passes_stateCompletion (complete : isStateCompletion action = true) :
    stateCompletion.Passes (entryRow id action) := by
  have state : (entryRow id action).lookup "state" = some (textValue action.state.text) := rfl
  rw [stateCompletion, Condition.passes_or]
  rw [isStateCompletion] at complete
  cases terminal : action.state.isTerminal with
  | true =>
      rw [if_pos terminal, Option.isSome_iff_exists] at complete
      obtain ⟨t, completed⟩ := complete
      have time : (entryRow id action).lookup "completed_at" = some (timeValue t) := by
        show some (nullable timeValue action.completedAt) = some (timeValue t)
        rw [completed]
        rfl
      refine .inr (Condition.passes_and.mpr ⟨passes_inTexts state ?_, ?_⟩)
      · exact text_terminal terminal
      · rw [Condition.passes_isNotNull, Expression.eval_column time]
        exact Value.noConfusion
  | false =>
      rw [terminal, if_neg Bool.false_ne_true] at complete
      simp only [Bool.and_eq_true, Option.isNone_iff_eq_none] at complete
      obtain ⟨⟨completed, status⟩, category⟩ := complete
      have initiated : (entryRow id action).lookup "state" = some (.text "initiated") := by
        rw [state, text_initiated terminal]
      have none_completed : (entryRow id action).lookup "completed_at" = some .null :=
        congrArg (fun o => some (nullable timeValue o)) completed
      have none_status : (entryRow id action).lookup "upstream_status_code" = some .null :=
        congrArg (fun o => some (nullable .bigint o)) status
      have none_category : (entryRow id action).lookup "failure_category" = some .null :=
        congrArg (fun o => some (nullable textValue o)) category
      simp only [Condition.passes_and]
      exact .inl ⟨passes_equalsText initiated, passes_isNull none_completed,
        passes_isNull none_status, passes_isNull none_category⟩

/-- The constraints of the head take an entry that the store takes. -/
theorem checks_entryRow (kept : KeptEntry action) :
    ∀ check ∈ headSchema.checks, check.condition.Passes (entryRow id action) := by
  have storable := kept.storable
  simp only [isStorable, Bool.and_eq_true, decide_eq_true_eq] at storable
  obtain ⟨⟨⟨⟨⟨guid, hook⟩, repository⟩, delivery⟩, status⟩, complete⟩ := storable
  have created : ∀ check ∈ createdSchema.checks,
      check.name ≠ "ck_recovery_actions_authentication_method" →
        check.condition.Passes (entryRow id action) := by
    simp only [createdSchema, List.forall_mem_cons, List.not_mem_nil, false_implies,
      implies_true, and_true]
    refine ⟨fun _ => ?_, fun _ => ?_, fun other => absurd rfl other,
      fun _ => passes_notBlankText rfl kept.bound.guid guid, fun _ => ?_,
      fun _ => passes_notBlankText rfl kept.bound.repository repository, fun _ => ?_,
      fun _ => passes_status rfl status, fun _ => passes_stateCompletion complete⟩
    · exact passes_equalsText rfl
    · exact passes_inTexts rfl (text_stateText _)
    · exact (Condition.passes_gt (Expression.eval_column rfl)).mpr hook
    · exact (Condition.passes_gt (Expression.eval_column rfl)).mpr delivery
  intro check mem
  rcases List.mem_append.mp mem with mem | mem
  · obtain ⟨mem, other⟩ := List.mem_filter.mp mem
    exact created check mem (of_decide_eq_true other)
  · rw [List.mem_singleton.mp mem]
    exact passes_inTexts rfl (text_methodText _)

/-- An entry that the table takes is a row of the head. -/
theorem fits_entryRow (kept : KeptEntry action) (range : isBigint id = true) :
    headSchema.Fits (entryRow id action) where
  known name mem := by rwa [keys_entryRow] at mem
  typed := typed_entryRow kept.bound range
  checks := checks_entryRow kept

end Entries

/-! ## Journals -/

/-- The entries of a journal under their generated keys. -/
structure StoredEntries (entries : List (ℤ × RecoveryAction)) : Prop where
  kept : ∀ entry ∈ entries, KeptEntry entry.2
  range : ∀ entry ∈ entries, isBigint entry.1 = true
  keys : (entries.map Prod.fst).Nodup
  distinct : (entries.map fun entry => entry.2.actionId).Nodup

/-- The rows of the entries. -/
def entryRows (entries : List (ℤ × RecoveryAction)) : List (Row String) :=
  entries.map fun entry => entryRow entry.1 entry.2

section Journals

variable {entries : List (ℤ × RecoveryAction)} {db : Database String}

/-- The head admits the entries of a journal. -/
theorem StoredEntries.admits (stored : StoredEntries entries) :
    headSchema.Admits (entryRows entries) where
  fits row mem := by
    obtain ⟨entry, inside, rfl⟩ := List.mem_map.mp mem
    exact fits_entryRow (stored.kept entry inside) (stored.range entry inside)
  unique key mem := by
    have uniques : headSchema.uniques = [⟨"recovery_actions_pkey", ["id"]⟩,
        ⟨"uq_recovery_actions_action_id", ["action_id"]⟩] := rfl
    rw [uniques, List.mem_cons, List.mem_singleton] at mem
    rw [entryRows, List.pairwise_map]
    rcases mem with rfl | rfl
    · refine (List.pairwise_map.mp stored.keys).imp fun ne collide => ne ?_
      exact Value.bigint.inj (Option.some.inj (collide "id" (List.mem_singleton_self _)).1)
    · refine (List.pairwise_map.mp stored.distinct).imp fun ne collide => ne ?_
      exact Value.uuid.inj (Option.some.inj (collide "action_id" (List.mem_singleton_self _)).1)

/-- `recovery_actions` with the entries. -/
def journalTable (entries : List (ℤ × RecoveryAction)) (stored : StoredEntries entries) :
    Table String :=
  ⟨headSchema, entryRows entries, stored.admits⟩

/-- The method of an entry, in its row. -/
theorem isByManagementBearer_entryRow {id : ℤ} {action : RecoveryAction} :
    IsByManagementBearer (entryRow id action) ↔
      action.authenticationMethod = .managementBearer := by
  have row : IsByManagementBearer (entryRow id action) ↔
      some (Value.text (methodText action.authenticationMethod)) =
        some (.text "management_bearer") := Iff.rfl
  rw [row]
  cases action.authenticationMethod <;> decide

/-- The journal of the service makes the round trip exactly when nobody has asked for a
recovery with an OIDC token. -/
theorem journalTable_roundTrips_iff (stored : StoredEntries entries)
    (version : db.version = some "20260824_0005")
    (found : db.tables.lookup "recovery_actions" = some (journalTable entries stored)) :
    RoundTrips db (journalTable entries stored) ↔
      ∀ entry ∈ entries, entry.2.authenticationMethod = .managementBearer := by
  have atHead : AtHead db (journalTable entries stored) := ⟨version, found, rfl⟩
  have rows : (∀ row ∈ (journalTable entries stored).rows, IsByManagementBearer row) ↔
      ∀ entry ∈ entries, entry.2.authenticationMethod = .managementBearer := by
    show (∀ row ∈ entries.map fun entry => entryRow entry.1 entry.2, IsByManagementBearer row) ↔ _
    rw [List.forall_mem_map]
    exact forall₂_congr fun entry _ => isByManagementBearer_entryRow
  rw [← rows]
  exact ⟨bearer_of_roundTrips atHead, roundTrips_of_bearer atHead⟩

/-- The journal that any calls leave, however they were interleaved, is one of the head. -/
theorem storedEntries_of_reachable {driver : Driver} {cfg : JournalConfig}
    (reachable : JournalReachable driver cfg)
    (rows : entries.map Prod.snd = cfg.world.actions.committed)
    (range : ∀ entry ∈ entries, isBigint entry.1 = true) (keys : (entries.map Prod.fst).Nodup) :
    StoredEntries entries where
  kept entry mem := by
    refine reachable.kept.committed entry.2 ?_
    rw [← rows]
    exact List.mem_map_of_mem mem
  range := range
  keys := keys
  distinct := by
    have distinct : (cfg.world.actions.committed.map RecoveryAction.actionId).Nodup :=
      reachable.consistent.sound.book.distinct
    rw [← rows, List.map_map] at distinct
    exact distinct

end Journals

end Migrations

end WebhookMonitor
