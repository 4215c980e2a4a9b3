import WebhookMonitor.Sql.Table

/-!
# Migrations

A database with the revision of its schema, and the commands that move it along a line of
revisions.

* `Operation` — the statements of a migration, `Operation.run` what they do to the tables;
* `Revision` — a migration: its statements in both directions, and the revision before it;
* `applied`, `pending` — a history, split at a revision;
* `upgradeToHead`, `downgradeTo` — the commands.  A command is one transaction: when a
  statement fails, the command does, and the database is left as it was;
* `Database.steps_alter` — steps that alter one table have the effect they have on that
  table, and leave the others alone.
-/

namespace Sql

variable {ι : Type} [DecidableEq ι]

/-! ## Statements -/

/-- The tables of a database. -/
abbrev Catalog (ι : Type) [DecidableEq ι] := AList fun _ : ι => Table ι

/-- The indexes of a table share their names with the tables. -/
def Schema.relationNames (s : Schema ι) : List ι :=
  s.uniques.map Unique.name ++ s.indexes.map Index.name

/-- The names of tables and indexes. -/
def Catalog.relationNames (db : Catalog ι) : List ι :=
  db.entries.flatMap fun entry => entry.1 :: entry.2.schema.relationNames

theorem Catalog.relationNames_insert {db : Catalog ι} {name : ι} {t : Table ι}
    (fresh : name ∉ db) :
    Catalog.relationNames (db.insert name t) =
      name :: t.schema.relationNames ++ Catalog.relationNames db := by
  rw [Catalog.relationNames, AList.entries_insert_of_notMem fresh, List.flatMap_cons]
  rfl

/-- The name of a table is one of the names of relations. -/
theorem Catalog.mem_relationNames {db : Catalog ι} {name : ι} (mem : name ∈ db) :
    name ∈ Catalog.relationNames db := by
  obtain ⟨entry, inside, rfl⟩ := List.mem_map.mp (AList.mem_keys.mp mem)
  exact List.mem_flatMap.mpr ⟨entry, inside, List.mem_cons_self⟩

/-- The statements of a migration. -/
inductive Operation (ι : Type) [DecidableEq ι] where
  | createTable (name : ι) (schema : Schema ι)
  | dropTable (name : ι)
  | alter (table : ι) (alteration : Alteration ι)

/-- The name of the relation that an alteration creates. -/
def Alteration.creates : Alteration ι → List ι
  | .createIndex index => [index.name]
  | .dropConstraint _ | .addColumn _ | .dropColumn _ | .createCheck _ | .dropIndex _ => []

namespace Operation

/-- What a statement does to the tables. -/
def run (db : Catalog ι) : Operation ι → Except (DdlError ι) (Catalog ι)
  | .createTable name schema =>
      match (name :: schema.relationNames).find? (· ∈ Catalog.relationNames db) with
      | some relation => .error (.duplicateRelation relation)
      | none => .ok (db.insert name ⟨schema, [], schema.admits_nil⟩)
  | .dropTable name =>
      if name ∈ db then .ok (db.erase name) else .error (.undefinedTable name)
  | .alter name alteration =>
      match db.lookup name with
      | none => .error (.undefinedTable name)
      | some table =>
          match alteration.creates.find? (· ∈ Catalog.relationNames db) with
          | some relation => .error (.duplicateRelation relation)
          | none => (table.alter alteration).map (db.insert name)

/-- Statements, one after another. -/
def runAll (operations : List (Operation ι)) (db : Catalog ι) :
    Except (DdlError ι) (Catalog ι) :=
  operations.foldlM run db

theorem runAll_append (first second : List (Operation ι)) (db : Catalog ι) :
    runAll (first ++ second) db = (runAll first db).bind (runAll second) :=
  List.foldlM_append

variable {name : ι} {db : Catalog ι} {t : Table ι} {as : List (Alteration ι)}

/-- A table whose names are free is created. -/
theorem run_createTable {schema : Schema ι}
    (free : ∀ relation ∈ name :: schema.relationNames, relation ∉ Catalog.relationNames db) :
    run db (.createTable name schema) = .ok (db.insert name ⟨schema, [], schema.admits_nil⟩) := by
  have none : (name :: schema.relationNames).find? (· ∈ Catalog.relationNames db) = none := by
    rw [List.find?_eq_none]
    intro relation mem taken
    exact free relation mem (of_decide_eq_true taken)
  rw [run, none]

/-- A statement that alters a table creates relations with free names only. -/
theorem run_alter (found : db.lookup name = some t) {a : Alteration ι}
    (free : ∀ relation ∈ a.creates, relation ∉ Catalog.relationNames db) :
    run db (.alter name a) = (t.alter a).map (db.insert name) := by
  have none : a.creates.find? (· ∈ Catalog.relationNames db) = none := by
    rw [List.find?_eq_none]
    intro relation mem taken
    exact free relation mem (of_decide_eq_true taken)
  rw [run, found]
  dsimp only
  rw [none]

/-- Statements that alter a table, and create no index, have the effect they have on it. -/
theorem runAll_alter (found : db.lookup name = some t) (silent : ∀ a ∈ as, a.creates = []) :
    (∃ e, t.alterAll as = .error e ∧ runAll (as.map (.alter name)) db = .error e) ∨
      ∃ t' db', t.alterAll as = .ok t' ∧ runAll (as.map (.alter name)) db = .ok db' ∧
        db'.lookup name = some t' ∧ ∀ other, other ≠ name → db'.lookup other = db.lookup other := by
  induction as generalizing db t with
  | nil => exact .inr ⟨t, db, rfl, rfl, found, fun _ _ => rfl⟩
  | cons a as ih =>
      rw [List.forall_mem_cons] at silent
      have first : run db (.alter name a) = (t.alter a).map (db.insert name) := by
        refine run_alter found fun relation mem => ?_
        rw [silent.1] at mem
        cases mem
      rw [List.map_cons, runAll, List.foldlM_cons, first, Table.alterAll, List.foldlM_cons]
      cases t.alter a with
      | error e => exact .inl ⟨e, rfl, rfl⟩
      | ok u =>
          rcases ih (AList.lookup_insert (a := name) (b := u) db) silent.2 with
            failed | ⟨t', db', altered, ran, here, elsewhere⟩
          · exact .inl failed
          · refine .inr ⟨t', db', altered, ran, here, fun other ne => ?_⟩
            rw [elsewhere other ne, AList.lookup_insert_ne ne]

end Operation

/-! ## Revisions -/

/-- A migration. -/
structure Revision (ι : Type) [DecidableEq ι] where
  revision : ι
  downRevision : Option ι
  upgrade : List (Operation ι)
  downgrade : List (Operation ι)

/-- A database, with the revision it is at. -/
structure Database (ι : Type) [DecidableEq ι] where
  version : Option ι
  tables : Catalog ι

/-- What a command fails with. -/
inductive CommandError (ι : Type) where
  | unknownRevision
  | ddl (e : DdlError ι)
  deriving DecidableEq

/-- What a command does with one revision: its statements, and the version after them. -/
structure Step (ι : Type) [DecidableEq ι] where
  statements : List (Operation ι)
  version : Option ι

def Revision.up (r : Revision ι) : Step ι := ⟨r.upgrade, some r.revision⟩

def Revision.down (r : Revision ι) : Step ι := ⟨r.downgrade, r.downRevision⟩

namespace Database

/-- One step of a command. -/
def step (db : Database ι) (s : Step ι) : Except (CommandError ι) (Database ι) :=
  ((Operation.runAll s.statements db.tables).map (mk s.version)).mapError .ddl

/-- The steps of a command. -/
def steps (db : Database ι) (ss : List (Step ι)) : Except (CommandError ι) (Database ι) :=
  ss.foldlM step db

end Database

/-- The revisions of a history up to a version. -/
def applied (history : List (Revision ι)) (version : Option ι) : List (Revision ι) :=
  history.takeWhile fun r => r.downRevision ≠ version

/-- The revisions of a history after a version. -/
def pending (history : List (Revision ι)) (version : Option ι) : List (Revision ι) :=
  history.dropWhile fun r => r.downRevision ≠ version

/-- The versions along a history. -/
def versionsOf (history : List (Revision ι)) : List (Option ι) :=
  history.flatMap fun r => [r.downRevision, some r.revision]

/-- `upgrade(config, "head")`. -/
def upgradeToHead (history : List (Revision ι)) (db : Database ι) :
    Except (CommandError ι) (Database ι) :=
  if db.version ∈ versionsOf history then
    db.steps ((pending history db.version).map Revision.up)
  else .error .unknownRevision

/-- `downgrade(config, target)`. -/
def downgradeTo (history : List (Revision ι)) (target : ι) (db : Database ι) :
    Except (CommandError ι) (Database ι) :=
  if db.version ∈ versionsOf history ∧ some target ∈ versionsOf (applied history db.version) then
    db.steps ((pending (applied history db.version) (some target)).reverse.map Revision.down)
  else .error .unknownRevision

namespace Database

variable {name : ι} {db : Database ι} {t : Table ι} {as : List (Alteration ι)}

/-- The steps of a command run their statements in order. -/
theorem steps_eq (db : Database ι) (ss : List (Step ι)) :
    db.steps ss =
      ((Operation.runAll (ss.flatMap Step.statements) db.tables).map
        (mk (ss.foldl (fun _ s => s.version) db.version))).mapError .ddl := by
  induction ss generalizing db with
  | nil => rfl
  | cons s ss ih =>
      rw [steps, List.foldlM_cons, List.flatMap_cons, Operation.runAll_append, step]
      cases Operation.runAll s.statements db.tables with
      | error e => rfl
      | ok tables => exact ih ⟨s.version, tables⟩

/-- Steps that alter a table, and create no index, have the effect they have on it. -/
theorem steps_alter {ss : List (Step ι)}
    (statements : ss.flatMap Step.statements = as.map (.alter name))
    (found : db.tables.lookup name = some t) (silent : ∀ a ∈ as, a.creates = []) :
    (∃ e, t.alterAll as = .error e ∧ db.steps ss = .error (.ddl e)) ∨
      ∃ t' db', t.alterAll as = .ok t' ∧ db.steps ss = .ok db' ∧
        db'.version = ss.foldl (fun _ s => s.version) db.version ∧
        db'.tables.lookup name = some t' ∧
        ∀ other, other ≠ name → db'.tables.lookup other = db.tables.lookup other := by
  rw [steps_eq, statements]
  rcases Operation.runAll_alter found silent with
    ⟨e, failed, ran⟩ | ⟨t', tables, altered, ran, here, elsewhere⟩
  · exact .inl ⟨e, failed, by rw [ran]; rfl⟩
  · exact .inr ⟨t', _, altered, by rw [ran]; rfl, rfl, here, elsewhere⟩

end Database

end Sql
