import WebhookMonitor.Migrations.Versions

/-!
# Down and up again

The downgrade of a journal from the head to `20260824_0003`, and its upgrade back.

* `RoundTrips` — both commands succeed, the rows keep the columns of `20260824_0003`, and the
  later columns are `NULL`;
* `downgradeTo_spec` — the downgrade ends in the schema with the constraint of
  `20260824_0003`, or fails at that constraint;
* `roundTrips_iff` — a journal makes the round trip exactly when each of its entries is by
  `management_bearer`.

The downgrade creates the constraint of `20260824_0003` again without a look at the rows
that came under the wider one of `20260824_0004`.
-/

namespace WebhookMonitor

open Sql

namespace Migrations

/-! ## The statements of the commands -/

/-- The statements of the downgrade from the head to `20260824_0003`. -/
def downgradeStatements : List (Alteration String) := authorizationDowngrade ++ principalDowngrade

/-- The statements of the upgrade from `20260824_0003` to the head. -/
def upgradeStatements : List (Alteration String) := principalUpgrade ++ authorizationUpgrade

/-- What the downgrade leaves of the schema: that of `20260824_0003`, with the constraint on
the authentication method last, and with the index. -/
def restoredSchema : Schema String where
  columns := createdSchema.columns
  checks :=
    createdSchema.checks.filter
        (fun check => check.name ≠ "ck_recovery_actions_authentication_method") ++
      [⟨"ck_recovery_actions_authentication_method",
        equalsText "authentication_method" "management_bearer"⟩]
  uniques := createdSchema.uniques
  indexes := headSchema.indexes
  columns_nodup := createdSchema.columns_nodup
  checks_typed := by decide
  uniques_known := createdSchema.uniques_known

theorem onSchemas_downgrade :
    Alteration.onSchemas downgradeStatements headSchema = .ok restoredSchema := by
  rfl

theorem onSchemas_upgrade :
    Alteration.onSchemas upgradeStatements restoredSchema = .ok headSchema := by
  rfl

/-- The steps of that downgrade. -/
def downgradeSteps : List (Step String) :=
  [addRecoveryActionAuthorizationContext.down, addRecoveryActionPrincipalIdentity.down]

/-- The steps of that upgrade. -/
def upgradeSteps : List (Step String) :=
  [addRecoveryActionPrincipalIdentity.up, addRecoveryActionAuthorizationContext.up]

theorem downgradeSteps_statements :
    downgradeSteps.flatMap Step.statements =
      downgradeStatements.map (.alter "recovery_actions") := by
  rfl

theorem upgradeSteps_statements :
    upgradeSteps.flatMap Step.statements = upgradeStatements.map (.alter "recovery_actions") := by
  rfl

/-! ## What the statements make of a row -/

section Rows

variable {s : Schema String} {row : Row String}

/-- The column of `20260824_0003` for the authentication method. -/
def authenticationMethod : Column String := ⟨"authentication_method", .text, false⟩

/-- The entry is by the shared token. -/
def IsByManagementBearer (row : Row String) : Prop :=
  row.lookup "authentication_method" = some (.text "management_bearer")

instance (row : Row String) : Decidable (IsByManagementBearer row) :=
  inferInstanceAs (Decidable (_ = _))

/-- An equation takes a row with a value in the column when it is this value. -/
theorem passes_equalsText_iff (fits : s.Fits row) (mem : authenticationMethod ∈ s.columns)
    (text : String) :
    (equalsText "authentication_method" text).Passes row ↔
      row.lookup "authentication_method" = some (.text text) := by
  obtain ⟨v, found, takes⟩ : ∃ v, row.lookup "authentication_method" = some v ∧
      authenticationMethod.takes v = true := fits.exists_value mem
  have notNull : v ≠ .null := by
    rintro rfl
    cases takes
  rw [equalsText, Condition.passes_equals (by simp), Expression.eval_column found]
  constructor
  · rintro (null | same)
    · exact absurd null notNull
    · exact found.trans (congrArg some same)
  · intro same
    exact .inr (Option.some.inj (found.symm.trans same))

/-- The downgrade changes the five columns only. -/
theorem lookup_downgrade {name : String} (kept : name ∉ addedColumns) :
    (Alteration.onRows downgradeStatements row).lookup name = row.lookup name := by
  refine Alteration.lookup_onRows ?_
  simp only [addedColumns, List.mem_cons, List.not_mem_nil, or_false, not_or] at kept
  simp [downgradeStatements, authorizationDowngrade, principalDowngrade, Alteration.touched, kept]

theorem lookup_upgrade {name : String} (kept : name ∉ addedColumns) :
    (Alteration.onRows upgradeStatements row).lookup name = row.lookup name := by
  refine Alteration.lookup_onRows ?_
  simp only [addedColumns, List.mem_cons, List.not_mem_nil, or_false, not_or] at kept
  simp [upgradeStatements, authorizationUpgrade, principalUpgrade, Alteration.touched,
    nullableText, kept]

/-- The upgrade leaves nothing in the five columns. -/
theorem lookup_upgrade_added {name : String} (added : name ∈ addedColumns) :
    (Alteration.onRows upgradeStatements row).lookup name = some .null := by
  have statements : ∀ name ∈ addedColumns, .addColumn (nullableText name) ∈ upgradeStatements ∧
      .dropColumn name ∉ upgradeStatements := by decide
  obtain ⟨new, kept⟩ := statements name added
  exact Alteration.lookup_onRows_added new kept

/-- Of the downgrade, only the new constraint looks at rows. -/
theorem rejectsAny_downgrade (row : Row String) :
    Alteration.rejectsAny downgradeStatements row =
      (Alteration.createCheck ⟨"ck_recovery_actions_authentication_method",
        equalsText "authentication_method" "management_bearer"⟩).rejects
        (Alteration.onRows (authorizationDowngrade ++ principalDowngrade.dropLast) row) :=
  Alteration.rejectsAny_createCheck (authorizationDowngrade ++ principalDowngrade.dropLast) []
    (by decide) (by decide)

/-- The downgrade rejects the rows that are not by the shared token. -/
theorem rejectsAny_downgrade_eq_none (fits : headSchema.Fits row) :
    Alteration.rejectsAny downgradeStatements row = none ↔ IsByManagementBearer row := by
  rw [rejectsAny_downgrade, Alteration.rejects_createCheck, IsByManagementBearer,
    ← passes_equalsText_iff fits (by decide)]
  refine Condition.passes_congr fun name named => Alteration.lookup_onRows ?_
  rw [List.mem_singleton.mp named]
  decide

/-- The upgrade rejects no row by the shared token. -/
theorem rejectsAny_upgrade (bearer : IsByManagementBearer row) :
    Alteration.rejectsAny upgradeStatements row = none := by
  have wide : Alteration.rejectsAny upgradeStatements row =
      (Alteration.createCheck ⟨"ck_recovery_actions_authentication_method",
        inTexts "authentication_method" ["management_bearer", "oidc_jwt"]⟩).rejects
        (Alteration.onRows principalUpgrade.dropLast row) :=
    Alteration.rejectsAny_createCheck principalUpgrade.dropLast authorizationUpgrade (by decide)
      (by decide)
  have passes : (inTexts "authentication_method" ["management_bearer", "oidc_jwt"]).Passes row :=
    passes_inTexts bearer (by decide)
  rw [wide, Alteration.rejects_createCheck]
  refine (Condition.passes_congr fun name named => ?_).mp passes
  rw [List.mem_singleton.mp named]
  exact (Alteration.lookup_onRows (by decide)).symm

end Rows

/-! ## Round trips -/

/-- An entry that has kept the columns of `20260824_0003`, and has nothing in the later ones. -/
structure Preserved (before after : Row String) : Prop where
  kept : ∀ column ∈ createdSchema.columns, after.lookup column.name = before.lookup column.name
  cleared : ∀ name ∈ addedColumns, after.lookup name = some .null

/-- The downgrade to `20260824_0003` and the upgrade to the head succeed, and every entry is
preserved. -/
def RoundTrips (db : Database String) (journal : Table String) : Prop :=
  ∃ low up journal', downgradeTo versions "20260824_0003" db = .ok low ∧
    upgradeToHead versions low = .ok up ∧ AtHead up journal' ∧
      List.Forall₂ Preserved journal.rows journal'.rows

/-- What the statements of both commands make of a row preserves it. -/
theorem preserved_onRows (row : Row String) :
    Preserved row
      (Alteration.onRows upgradeStatements (Alteration.onRows downgradeStatements row)) where
  kept column mem := by
    have apart : column.name ∉ addedColumns := by
      revert column
      decide
    rw [lookup_upgrade apart, lookup_downgrade apart]
  cleared _ added := lookup_upgrade_added added

/-! ## The commands -/

/-- What a command makes of a database whose journal it alters. -/
structure Altered (db : Database String) (journal : Table String)
    (statements : List (Alteration String)) (db' : Database String) (journal' : Table String) :
    Prop where
  altered : journal.alterAll statements = .ok journal'
  found : db'.tables.lookup "recovery_actions" = some journal'
  others : ∀ other, other ≠ "recovery_actions" → db'.tables.lookup other = db.tables.lookup other

section Commands

variable {db : Database String} {journal : Table String}

/-- The downgrade from the head runs its statements on the journal. -/
theorem downgradeTo_eq (atHead : AtHead db journal) :
    (∃ e, journal.alterAll downgradeStatements = .error e ∧
      downgradeTo versions "20260824_0003" db = .error (.ddl e)) ∨
    ∃ low journal', downgradeTo versions "20260824_0003" db = .ok low ∧
      low.version = some "20260824_0003" ∧ Altered db journal downgradeStatements low journal' := by
  have run : downgradeTo versions "20260824_0003" db =
      db.steps downgradeSteps := by
    rw [downgradeTo, atHead.version]
    rfl
  rw [run]
  rcases Database.steps_alter downgradeSteps_statements atHead.found (by decide) with
    failed | ⟨journal', low, altered, ran, version, found, others⟩
  · exact .inl failed
  · exact .inr ⟨low, journal', ran, version, altered, found, others⟩

theorem upgradeToHead_eq_steps (version : db.version = some "20260824_0003") :
    upgradeToHead versions db = db.steps upgradeSteps := by
  rw [upgradeToHead, version]
  rfl

/-- The upgrade from `20260824_0003` runs its statements on the journal. -/
theorem upgradeToHead_eq (version : db.version = some "20260824_0003")
    (found : db.tables.lookup "recovery_actions" = some journal) :
    (∃ e, journal.alterAll upgradeStatements = .error e ∧
      upgradeToHead versions db = .error (.ddl e)) ∨
    ∃ up journal', upgradeToHead versions db = .ok up ∧
      up.version = some "20260824_0005" ∧ Altered db journal upgradeStatements up journal' := by
  rw [upgradeToHead_eq_steps version]
  rcases Database.steps_alter upgradeSteps_statements found (by decide) with
    failed | ⟨journal', up, altered, ran, version, found, others⟩
  · exact .inl failed
  · exact .inr ⟨up, journal', ran, version, altered, found, others⟩

/-- The upgrade that creates the journal ends at the head, with an empty journal, and leaves
the other tables alone. -/
theorem upgradeToHead_created (version : db.version = some "20260824_0002")
    (free : ∀ relation ∈ createdTable.schema.relationNames ++ ["recovery_actions"],
      relation ∉ Catalog.relationNames db.tables) :
    ∃ up journal', upgradeToHead versions db = .ok up ∧ AtHead up journal' ∧
      journal'.rows = [] ∧
      ∀ other, other ≠ "recovery_actions" →
        up.tables.lookup other = db.tables.lookup other := by
  obtain ⟨low, created, version', found, others⟩ := step_createRecoveryActions free
  have run : upgradeToHead versions db = upgradeToHead versions low := by
    have first : upgradeToHead versions db =
        db.steps (createRecoveryActions.up :: upgradeSteps) := by
      rw [upgradeToHead, version]
      rfl
    rw [first, upgradeToHead_eq_steps version', Database.steps, List.foldlM_cons, created]
    rfl
  have empty : ∃ journal', createdTable.alterAll upgradeStatements = .ok journal' ∧
      journal'.schema = headSchema ∧ journal'.rows = [] :=
    ⟨⟨headSchema, [], headSchema.admits_nil⟩,
      Table.alterAll_eq_ok_iff.mpr ⟨rfl, fun _ mem => absurd mem List.not_mem_nil, rfl⟩, rfl, rfl⟩
  obtain ⟨journal', altered, schema, rows⟩ := empty
  rcases upgradeToHead_eq version' found with
    ⟨e, failed, -⟩ | ⟨up, after, upgraded, version'', done⟩
  · rw [altered] at failed
    cases failed
  · obtain rfl := Except.ok.inj (altered.symm.trans done.altered)
    refine ⟨up, journal', run.trans upgraded, ⟨version'', done.found, schema⟩, rows, ?_⟩
    intro other ne
    rw [done.others other ne, others other ne]

/-- The journal of a head is downgraded when every entry is by the shared token. -/
theorem exists_downgradeTo (atHead : AtHead db journal)
    (bearer : ∀ row ∈ journal.rows, IsByManagementBearer row) :
    ∃ low journal', downgradeTo versions "20260824_0003" db = .ok low ∧
      low.version = some "20260824_0003" ∧ Altered db journal downgradeStatements low journal' := by
  rcases downgradeTo_eq atHead with ⟨e, failed, -⟩ | downgraded
  · have schemas : Alteration.onSchemas downgradeStatements journal.schema = .ok restoredSchema :=
      atHead.schema ▸ onSchemas_downgrade
    obtain ⟨row, mem, rejected⟩ := Table.exists_rejected schemas failed
    have fits : headSchema.Fits row := atHead.schema ▸ journal.admitted.fits row mem
    rw [(rejectsAny_downgrade_eq_none fits).mpr (bearer row mem)] at rejected
    cases rejected
  · exact downgraded

/-- One entry by an OIDC token stops the downgrade, at the constraint of `20260824_0003`. -/
theorem downgradeTo_eq_error (atHead : AtHead db journal) {row : Row String}
    (mem : row ∈ journal.rows) (other : ¬ IsByManagementBearer row) :
    downgradeTo versions "20260824_0003" db =
      .error (.ddl (.checkViolation "ck_recovery_actions_authentication_method")) := by
  rcases downgradeTo_eq atHead with ⟨e, failed, ran⟩ | ⟨low, journal', -, -, altered, -, -⟩
  · have schemas : Alteration.onSchemas downgradeStatements journal.schema = .ok restoredSchema :=
      atHead.schema ▸ onSchemas_downgrade
    obtain ⟨row, mem, rejected⟩ := Table.exists_rejected schemas failed
    rw [rejectsAny_downgrade] at rejected
    rw [ran, Alteration.eq_checkViolation rejected]
  · have taken := (Table.alterAll_eq_ok_iff.mp altered).2.1 row mem
    have fits : headSchema.Fits row := atHead.schema ▸ journal.admitted.fits row mem
    exact absurd ((rejectsAny_downgrade_eq_none fits).mp taken) other

/-- A journal that has been downgraded is upgraded, and comes back with every entry
preserved. -/
theorem roundTrips_of_bearer (atHead : AtHead db journal)
    (bearer : ∀ row ∈ journal.rows, IsByManagementBearer row) : RoundTrips db journal := by
  obtain ⟨low, lowered, downgraded, version, down⟩ := exists_downgradeTo atHead bearer
  obtain ⟨schema, -, rows⟩ := Table.alterAll_eq_ok_iff.mp down.altered
  have restored : lowered.schema = restoredSchema := by
    rw [atHead.schema, onSchemas_downgrade] at schema
    exact (Except.ok.inj schema).symm
  have schemas : Alteration.onSchemas upgradeStatements lowered.schema = .ok headSchema :=
    restored ▸ onSchemas_upgrade
  rcases upgradeToHead_eq version down.found with
    ⟨e, failed, -⟩ | ⟨up, journal', upgraded, version', altered⟩
  · -- an upgrade that failed would have met an entry that is not by the shared token
    obtain ⟨row, mem, rejected⟩ := Table.exists_rejected schemas failed
    rw [rows] at mem
    obtain ⟨before, old, rfl⟩ := List.mem_map.mp mem
    have still : IsByManagementBearer (Alteration.onRows downgradeStatements before) :=
      (lookup_downgrade (by decide)).trans (bearer before old)
    rw [rejectsAny_upgrade still] at rejected
    cases rejected
  · obtain ⟨schema', -, rows'⟩ := Table.alterAll_eq_ok_iff.mp altered.altered
    rw [schemas] at schema'
    refine ⟨low, up, journal', downgraded, upgraded,
      ⟨version', altered.found, (Except.ok.inj schema').symm⟩, ?_⟩
    rw [rows', rows, List.map_map, List.forall₂_map_right_iff, List.forall₂_same]
    exact fun row _ => preserved_onRows row

/-- The entries of a journal that makes the round trip are by the shared token. -/
theorem bearer_of_roundTrips (atHead : AtHead db journal) (roundTrips : RoundTrips db journal) :
    ∀ row ∈ journal.rows, IsByManagementBearer row := by
  obtain ⟨low, -, -, downgraded, -⟩ := roundTrips
  intro row mem
  by_contra other
  rw [downgradeTo_eq_error atHead mem other] at downgraded
  cases downgraded

/-- A journal makes the round trip exactly when every entry is by the shared token. -/
theorem roundTrips_iff (atHead : AtHead db journal) :
    RoundTrips db journal ↔ ∀ row ∈ journal.rows, IsByManagementBearer row :=
  ⟨bearer_of_roundTrips atHead, roundTrips_of_bearer atHead⟩

end Commands

/-! ## Two journals -/

/-- The values of an accepted entry in the columns of `20260824_0003`, apart from the
authentication method. -/
def sampleValues : List (Sigma fun _ : String => Value) :=
  [⟨"id", .bigint 1⟩,
   ⟨"action_id", .uuid 101⟩,
   ⟨"action_type", .text "github_repository_webhook_redelivery"⟩,
   ⟨"requested_at", .timestamptz 0⟩,
   ⟨"completed_at", .timestamptz 1⟩,
   ⟨"attempt_id", .uuid 201⟩,
   ⟨"delivery_guid", .text "historical-delivery"⟩,
   ⟨"hook_id", .bigint 12345⟩,
   ⟨"repository", .text "octo/example"⟩,
   ⟨"github_delivery_id", .bigint 100⟩,
   ⟨"state", .text "accepted"⟩,
   ⟨"upstream_status_code", .bigint 202⟩,
   ⟨"failure_category", .null⟩]

/-- The journal with one entry by the shared token. -/
def bearerJournal : Table String where
  schema := headSchema
  rows := [List.toAList (sampleValues ++
    [⟨"authentication_method", .text "management_bearer"⟩, ⟨"principal_issuer", .null⟩,
     ⟨"principal_subject", .null⟩, ⟨"principal_client_id", .null⟩,
     ⟨"authorization_capability", .text "recovery.execute"⟩, ⟨"authorization_scope", .null⟩])]
  admitted := by decide +kernel

/-- The journal with one entry by an OIDC token. -/
def oidcJournal : Table String where
  schema := headSchema
  rows := [List.toAList (sampleValues ++
    [⟨"authentication_method", .text "oidc_jwt"⟩, ⟨"principal_issuer", .text "https://issuer"⟩,
     ⟨"principal_subject", .text "subject"⟩, ⟨"principal_client_id", .text "client"⟩,
     ⟨"authorization_capability", .text "recovery.execute"⟩,
     ⟨"authorization_scope", .text "manage"⟩])]
  admitted := by decide +kernel

/-- A database at the head with the journal, and no other table. -/
def headDatabase (journal : Table String) : Database String :=
  ⟨some "20260824_0005", AList.singleton "recovery_actions" journal⟩

theorem atHead_headDatabase {journal : Table String} (schema : journal.schema = headSchema) :
    AtHead (headDatabase journal) journal :=
  ⟨rfl, rfl, schema⟩

/-- The entry by the shared token makes the round trip. -/
theorem bearerJournal_roundTrips : RoundTrips (headDatabase bearerJournal) bearerJournal :=
  (roundTrips_iff (atHead_headDatabase rfl)).mpr (by decide)

/-- The entry by an OIDC token does not: the downgrade fails. -/
theorem oidcJournal_not_roundTrips :
    AtHead (headDatabase oidcJournal) oidcJournal ∧
      ¬ RoundTrips (headDatabase oidcJournal) oidcJournal := by
  have atHead : AtHead (headDatabase oidcJournal) oidcJournal := atHead_headDatabase rfl
  refine ⟨atHead, fun roundTrips => ?_⟩
  have := bearer_of_roundTrips atHead roundTrips _ List.mem_cons_self
  revert this
  decide

end Migrations

end WebhookMonitor
