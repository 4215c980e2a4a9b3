import WebhookMonitor.Sql.Migration

/-!
# The revisions of the journal

The migrations from the one that creates `recovery_actions` on, statement by statement.
Those before it are about other tables.

* `createRecoveryActions` — `20260824_0003`;
* `addRecoveryActionPrincipalIdentity` — `20260824_0004`, which widens the constraint on
  the authentication method to `oidc_jwt` and adds three columns;
* `addRecoveryActionAuthorizationContext` — `20260824_0005`, which adds two more;
* `headSchema`, `AtHead` — the journal after all of them;
* `headSchema_perm` — it is the table that the program declares;
* `step_createRecoveryActions` — what the first migration leaves.
-/

namespace WebhookMonitor

open Sql

namespace Migrations

/-! ## Conditions -/

/-- `column = 'text'`. -/
def equalsText (column text : String) : Condition String :=
  .compare (.column column) .eq (.literal (.text text))

/-- `column IN ('text', …)`. -/
def inTexts (column : String) (texts : List String) : Condition String :=
  .isIn (.column column) (texts.map Value.text)

/-- `column <op> n`. -/
def compareNumber (column : String) (op : Comparison) (n : ℤ) : Condition String :=
  .compare (.column column) op (.literal (.bigint n))

/-- `length(btrim(column)) > 0`. -/
def notBlankText (column : String) : Condition String :=
  .compare (.length (.btrim (.column column))) .gt (.literal (.bigint 0))

/-- `column IS NULL`. -/
def isNull (column : String) : Condition String := .isNull (.column column)

section Conditions

variable {row : Row String} {column text : String}

theorem passes_equalsText (found : row.lookup column = some (.text text)) :
    (equalsText column text).Passes row := by
  rw [equalsText, Condition.passes_equals (by simp)]
  exact .inr (Expression.eval_column found)

theorem passes_inTexts {texts : List String} {v : Value} (found : row.lookup column = some v)
    (mem : v ∈ texts.map Value.text) : (inTexts column texts).Passes row := by
  rw [inTexts, Condition.passes_isIn (by simp), Expression.eval_column found]
  exact .inr mem

theorem passes_isNull (found : row.lookup column = some .null) : (isNull column).Passes row :=
  Condition.passes_isNull.mpr (Expression.eval_column found)

end Conditions

/-- The condition of `ck_recovery_actions_upstream_status_code`. -/
def statusInRange : Condition String :=
  .or (isNull "upstream_status_code")
    (.and (compareNumber "upstream_status_code" .ge 100)
      (compareNumber "upstream_status_code" .le 599))

/-- The condition of `ck_recovery_actions_state_completion`. -/
def stateCompletion : Condition String :=
  .or
    (.and (equalsText "state" "initiated")
      (.and (isNull "completed_at")
        (.and (isNull "upstream_status_code") (isNull "failure_category"))))
    (.and (inTexts "state" ["accepted", "failed", "outcome_unknown"])
      (.isNotNull (.column "completed_at")))

/-! ## 20260824_0003 -/

/-- `recovery_actions` as it is created. -/
def createdSchema : Schema String where
  columns :=
    [⟨"id", .bigint, false⟩,
     ⟨"action_id", .uuid, false⟩,
     ⟨"action_type", .text, false⟩,
     ⟨"requested_at", .timestamptz, false⟩,
     ⟨"completed_at", .timestamptz, true⟩,
     ⟨"attempt_id", .uuid, false⟩,
     ⟨"delivery_guid", .text, false⟩,
     ⟨"hook_id", .bigint, false⟩,
     ⟨"repository", .text, false⟩,
     ⟨"github_delivery_id", .bigint, false⟩,
     ⟨"authentication_method", .text, false⟩,
     ⟨"state", .text, false⟩,
     ⟨"upstream_status_code", .bigint, true⟩,
     ⟨"failure_category", .text, true⟩]
  checks :=
    [⟨"ck_recovery_actions_action_type",
      equalsText "action_type" "github_repository_webhook_redelivery"⟩,
     ⟨"ck_recovery_actions_state",
      inTexts "state" ["initiated", "accepted", "failed", "outcome_unknown"]⟩,
     ⟨"ck_recovery_actions_authentication_method",
      equalsText "authentication_method" "management_bearer"⟩,
     ⟨"ck_recovery_actions_delivery_guid_not_blank", notBlankText "delivery_guid"⟩,
     ⟨"ck_recovery_actions_hook_id_positive", compareNumber "hook_id" .gt 0⟩,
     ⟨"ck_recovery_actions_repository_not_blank", notBlankText "repository"⟩,
     ⟨"ck_recovery_actions_github_delivery_id_positive",
      compareNumber "github_delivery_id" .gt 0⟩,
     ⟨"ck_recovery_actions_upstream_status_code", statusInRange⟩,
     ⟨"ck_recovery_actions_state_completion", stateCompletion⟩]
  uniques :=
    [⟨"recovery_actions_pkey", ["id"]⟩,
     ⟨"uq_recovery_actions_action_id", ["action_id"]⟩]
  indexes := []
  columns_nodup := by decide
  checks_typed := by decide
  uniques_known := by decide

/-- A statement about `recovery_actions`. -/
def onRecoveryActions (alteration : Alteration String) : Operation String :=
  .alter "recovery_actions" alteration

/-- The index of the listing. -/
def recentIndex : Index String :=
  ⟨"ix_recovery_actions_recent", [("requested_at", .desc), ("action_id", .desc)]⟩

/-- Revision `20260824_0003`. -/
def createRecoveryActions : Revision String where
  revision := "20260824_0003"
  downRevision := some "20260824_0002"
  upgrade :=
    [.createTable "recovery_actions" createdSchema,
     onRecoveryActions (.createIndex recentIndex)]
  downgrade :=
    [onRecoveryActions (.dropIndex "ix_recovery_actions_recent"),
     .dropTable "recovery_actions"]

/-! ## 20260824_0004 -/

/-- `sa.Column(name, sa.Text(), nullable=True)`. -/
def nullableText (name : String) : Column String := ⟨name, .text, true⟩

def principalUpgrade : List (Alteration String) :=
  [.dropConstraint "ck_recovery_actions_authentication_method",
   .addColumn (nullableText "principal_issuer"),
   .addColumn (nullableText "principal_subject"),
   .addColumn (nullableText "principal_client_id"),
   .createCheck ⟨"ck_recovery_actions_authentication_method",
    inTexts "authentication_method" ["management_bearer", "oidc_jwt"]⟩]

def principalDowngrade : List (Alteration String) :=
  [.dropConstraint "ck_recovery_actions_authentication_method",
   .dropColumn "principal_client_id",
   .dropColumn "principal_subject",
   .dropColumn "principal_issuer",
   .createCheck ⟨"ck_recovery_actions_authentication_method",
    equalsText "authentication_method" "management_bearer"⟩]

/-- Revision `20260824_0004`. -/
def addRecoveryActionPrincipalIdentity : Revision String where
  revision := "20260824_0004"
  downRevision := some "20260824_0003"
  upgrade := principalUpgrade.map onRecoveryActions
  downgrade := principalDowngrade.map onRecoveryActions

/-! ## 20260824_0005 -/

def authorizationUpgrade : List (Alteration String) :=
  [.addColumn (nullableText "authorization_capability"),
   .addColumn (nullableText "authorization_scope")]

def authorizationDowngrade : List (Alteration String) :=
  [.dropColumn "authorization_scope",
   .dropColumn "authorization_capability"]

/-- Revision `20260824_0005`. -/
def addRecoveryActionAuthorizationContext : Revision String where
  revision := "20260824_0005"
  downRevision := some "20260824_0004"
  upgrade := authorizationUpgrade.map onRecoveryActions
  downgrade := authorizationDowngrade.map onRecoveryActions

/-! ## The head -/

/-- The revisions, in order. -/
def versions : List (Revision String) :=
  [createRecoveryActions, addRecoveryActionPrincipalIdentity,
   addRecoveryActionAuthorizationContext]

/-- The columns that come after `20260824_0003`. -/
def addedColumns : List String :=
  ["principal_issuer", "principal_subject", "principal_client_id",
   "authorization_capability", "authorization_scope"]

/-- `recovery_actions` at the head. -/
def headSchema : Schema String where
  columns := createdSchema.columns ++ addedColumns.map nullableText
  checks :=
    createdSchema.checks.filter
        (fun check => check.name ≠ "ck_recovery_actions_authentication_method") ++
      [⟨"ck_recovery_actions_authentication_method",
        inTexts "authentication_method" ["management_bearer", "oidc_jwt"]⟩]
  uniques := createdSchema.uniques
  indexes := [recentIndex]
  columns_nodup := by decide
  checks_typed := by decide
  uniques_known := by decide

/-- `recovery_actions` as the program declares it, with its columns in another order. -/
def recoveryActions : Schema String where
  columns :=
    [⟨"id", .bigint, false⟩,
     ⟨"action_id", .uuid, false⟩,
     ⟨"action_type", .text, false⟩,
     ⟨"requested_at", .timestamptz, false⟩,
     ⟨"completed_at", .timestamptz, true⟩,
     ⟨"attempt_id", .uuid, false⟩,
     ⟨"delivery_guid", .text, false⟩,
     ⟨"hook_id", .bigint, false⟩,
     ⟨"repository", .text, false⟩,
     ⟨"github_delivery_id", .bigint, false⟩,
     ⟨"authentication_method", .text, false⟩,
     ⟨"principal_issuer", .text, true⟩,
     ⟨"principal_subject", .text, true⟩,
     ⟨"principal_client_id", .text, true⟩,
     ⟨"authorization_capability", .text, true⟩,
     ⟨"authorization_scope", .text, true⟩,
     ⟨"state", .text, false⟩,
     ⟨"upstream_status_code", .bigint, true⟩,
     ⟨"failure_category", .text, true⟩]
  checks :=
    [⟨"ck_recovery_actions_action_type",
      equalsText "action_type" "github_repository_webhook_redelivery"⟩,
     ⟨"ck_recovery_actions_state",
      inTexts "state" ["initiated", "accepted", "failed", "outcome_unknown"]⟩,
     ⟨"ck_recovery_actions_authentication_method",
      inTexts "authentication_method" ["management_bearer", "oidc_jwt"]⟩,
     ⟨"ck_recovery_actions_delivery_guid_not_blank", notBlankText "delivery_guid"⟩,
     ⟨"ck_recovery_actions_hook_id_positive", compareNumber "hook_id" .gt 0⟩,
     ⟨"ck_recovery_actions_repository_not_blank", notBlankText "repository"⟩,
     ⟨"ck_recovery_actions_github_delivery_id_positive",
      compareNumber "github_delivery_id" .gt 0⟩,
     ⟨"ck_recovery_actions_upstream_status_code", statusInRange⟩,
     ⟨"ck_recovery_actions_state_completion", stateCompletion⟩]
  uniques :=
    [⟨"recovery_actions_pkey", ["id"]⟩,
     ⟨"uq_recovery_actions_action_id", ["action_id"]⟩]
  indexes := [recentIndex]
  columns_nodup := by decide
  checks_typed := by decide
  uniques_known := by decide

/-- The migrations lead to the table that the program declares. -/
theorem headSchema_perm :
    headSchema.columns.Perm recoveryActions.columns ∧
      headSchema.checks.Perm recoveryActions.checks ∧
      headSchema.uniques = recoveryActions.uniques ∧
      headSchema.indexes = recoveryActions.indexes := by
  decide

/-- A database at the head, with its journal. -/
structure AtHead (db : Database String) (journal : Table String) : Prop where
  version : db.version = some "20260824_0005"
  found : db.tables.lookup "recovery_actions" = some journal
  schema : journal.schema = headSchema

/-- The journal as it is created, with its index. -/
def createdTable : Table String :=
  ⟨createdSchema.addIndex recentIndex, [], Schema.admits_nil _⟩

/-- The migration that creates the journal, on a database where its names are free. -/
theorem step_createRecoveryActions {db : Database String}
    (free : ∀ relation ∈ createdTable.schema.relationNames ++ ["recovery_actions"],
      relation ∉ Catalog.relationNames db.tables) :
    ∃ low, db.step createRecoveryActions.up = .ok low ∧ low.version = some "20260824_0003" ∧
      low.tables.lookup "recovery_actions" = some createdTable ∧
      ∀ other, other ≠ "recovery_actions" →
        low.tables.lookup other = db.tables.lookup other := by
  have fresh : "recovery_actions" ∉ db.tables := fun mem =>
    free "recovery_actions" (by decide) (Catalog.mem_relationNames mem)
  -- the table first, then its index
  let empty : Table String := ⟨createdSchema, [], createdSchema.admits_nil⟩
  let created := db.tables.insert "recovery_actions" empty
  have table : Operation.run db.tables (.createTable "recovery_actions" createdSchema) =
      .ok created := by
    refine Operation.run_createTable fun relation mem => free relation ?_
    revert relation
    decide
  -- the name of the index is free once the table is there
  have unused : "ix_recovery_actions_recent" ∉ Catalog.relationNames created := by
    rw [Catalog.relationNames_insert fresh, List.mem_append, not_or]
    exact ⟨by decide, free _ (by decide)⟩
  have index : Operation.run created (onRecoveryActions (.createIndex recentIndex)) =
      .ok (created.insert "recovery_actions" createdTable) := by
    have altered : empty.alter (.createIndex recentIndex) = .ok createdTable :=
      Table.alter_eq_ok_iff.mpr ⟨rfl, fun _ mem => absurd mem List.not_mem_nil, rfl⟩
    rw [onRecoveryActions, Operation.run_alter (AList.lookup_insert db.tables), altered]
    · rfl
    · intro relation mem
      rw [List.mem_singleton.mp mem]
      exact unused
  refine ⟨⟨some "20260824_0003", created.insert "recovery_actions" createdTable⟩, ?_, rfl,
    AList.lookup_insert created, fun other ne => ?_⟩
  · have ran : Operation.runAll createRecoveryActions.upgrade db.tables =
        .ok (created.insert "recovery_actions" createdTable) := by
      rw [createRecoveryActions, Operation.runAll, List.foldlM_cons, table]
      show [onRecoveryActions (.createIndex recentIndex)].foldlM Operation.run created = _
      rw [List.foldlM_cons, index]
      rfl
    rw [Database.step]
    show ((Operation.runAll createRecoveryActions.upgrade db.tables).map _).mapError _ = _
    rw [ran]
    rfl
  · rw [AList.lookup_insert_ne ne, AList.lookup_insert_ne ne]

end Migrations

end WebhookMonitor
