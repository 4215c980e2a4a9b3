import WebhookMonitor.Sql.Condition

/-!
# Tables and their alterations

A table is a schema together with rows that the schema admits, so that there is no table
whose rows break a constraint.

* `Schema` — columns, check and unique constraints, indexes; conditions are well typed and
  keys name columns;
* `Schema.Admits` — the rows a table with the schema can have;
* `Alteration` — the forms of `ALTER TABLE`, by what each makes of the schema (`onSchema`),
  of a row (`onRow`), and what it asks of the rows that are there (`Takes`);
* `Alteration.admits` — an alteration that is taken leaves rows that the new schema admits;
* `Table.alter` — the statement: it fails, or gives a table again.

A new column is `NULL` in every row.  A column goes with the constraints and indexes that
name it.  A new check constraint is checked against every row.
-/

namespace Sql

/-! ## Schemas -/

/-- A column of a table. -/
structure Column (ι : Type) where
  name : ι
  type : DataType
  nullable : Bool
  deriving DecidableEq

/-- `CHECK (condition)`. -/
structure Check (ι : Type) where
  name : ι
  condition : Condition ι
  deriving DecidableEq

/-- `UNIQUE (columns)`; a primary key is one whose columns are `NOT NULL`. -/
structure Unique (ι : Type) where
  name : ι
  columns : List ι
  deriving DecidableEq

inductive Direction where
  | asc
  | desc
  deriving DecidableEq

/-- An index that is not the index of a constraint. -/
structure Index (ι : Type) where
  name : ι
  columns : List (ι × Direction)
  deriving DecidableEq

variable {ι : Type}

/-- A value the column takes. -/
def Column.takes (column : Column ι) (v : Value) : Bool :=
  column.type.contains v && (column.nullable || v ≠ .null)

theorem Column.takes_null {column : Column ι} (nullable : column.nullable = true) :
    column.takes .null = true := by
  rw [Column.takes, nullable, DataType.contains_null]
  rfl

variable [DecidableEq ι]

/-- The type of a column. -/
def typeIn (columns : List (Column ι)) (name : ι) : Option DataType :=
  (columns.find? fun column => column.name = name).map Column.type

theorem isSome_typeIn {columns : List (Column ι)} {name : ι} :
    (typeIn columns name).isSome = true ↔ name ∈ columns.map Column.name := by
  simp [typeIn]

/-- A column at the end hides no other. -/
theorem typeIn_append {columns more : List (Column ι)} {name : ι}
    (known : name ∈ columns.map Column.name) :
    typeIn (columns ++ more) name = typeIn columns name := by
  rw [← isSome_typeIn, typeIn, Option.isSome_map] at known
  rw [typeIn, typeIn, List.find?_append, Option.or_of_isSome known]

theorem typeIn_filter {columns : List (Column ι)} {name other : ι} (ne : other ≠ name) :
    typeIn (columns.filter fun column => column.name ≠ name) other = typeIn columns other := by
  rw [typeIn, typeIn, List.find?_filter]
  congr 2
  funext column
  by_cases same : column.name = other
  · simp [same, ne]
  · simp [same]

/-- The definition of a table. -/
structure Schema (ι : Type) [DecidableEq ι] where
  columns : List (Column ι)
  checks : List (Check ι)
  uniques : List (Unique ι)
  indexes : List (Index ι)
  columns_nodup : (columns.map Column.name).Nodup
  checks_typed : ∀ check ∈ checks, check.condition.wellTyped (typeIn columns) = true
  uniques_known : ∀ key ∈ uniques, ∀ name ∈ key.columns, name ∈ columns.map Column.name

namespace Schema

/-- The names of the columns. -/
def names (s : Schema ι) : List ι := s.columns.map Column.name

/-- The names of the constraints. -/
def constraintNames (s : Schema ι) : List ι := s.checks.map Check.name ++ s.uniques.map Unique.name

variable {s : Schema ι}

/-- The condition of a check constraint names columns of the table. -/
theorem mem_names_of_check {check : Check ι} (mem : check ∈ s.checks) {name : ι}
    (named : name ∈ check.condition.columns) : name ∈ s.names :=
  isSome_typeIn.mp (Condition.isSome_typeOf (s.checks_typed check mem) named)

/-! ### Changes of a schema -/

/-- Without the constraint. -/
def dropConstraint (s : Schema ι) (name : ι) : Schema ι where
  columns := s.columns
  checks := s.checks.filter fun check => check.name ≠ name
  uniques := s.uniques.filter fun key => key.name ≠ name
  indexes := s.indexes
  columns_nodup := s.columns_nodup
  checks_typed check mem := s.checks_typed check (List.mem_of_mem_filter mem)
  uniques_known key mem := s.uniques_known key (List.mem_of_mem_filter mem)

/-- With a column at the end. -/
def addColumn (s : Schema ι) (column : Column ι) (fresh : column.name ∉ s.names) : Schema ι where
  columns := s.columns ++ [column]
  checks := s.checks
  uniques := s.uniques
  indexes := s.indexes
  columns_nodup := by
    rw [List.map_append, List.nodup_append]
    refine ⟨s.columns_nodup, List.nodup_singleton _, ?_⟩
    rintro name known _ new rfl
    exact fresh (List.mem_singleton.mp new ▸ known)
  checks_typed check mem := by
    rw [Condition.wellTyped_congr fun name named => typeIn_append (mem_names_of_check mem named)]
    exact s.checks_typed check mem
  uniques_known key mem name named := by
    rw [List.map_append]
    exact List.mem_append_left _ (s.uniques_known key mem name named)

/-- Without the column, and without what names it. -/
def dropColumn (s : Schema ι) (name : ι) : Schema ι where
  columns := s.columns.filter fun column => column.name ≠ name
  checks := s.checks.filter fun check => name ∉ check.condition.columns
  uniques := s.uniques.filter fun key => name ∉ key.columns
  indexes := s.indexes.filter fun index => name ∉ index.columns.map Prod.fst
  columns_nodup := s.columns_nodup.sublist (List.filter_sublist.map _)
  checks_typed check mem := by
    obtain ⟨mem, apart⟩ := List.mem_filter.mp mem
    have other (known : ι) (named : known ∈ check.condition.columns) : known ≠ name := by
      rintro rfl
      exact of_decide_eq_true apart named
    rw [Condition.wellTyped_congr fun known named => typeIn_filter (other known named)]
    exact s.checks_typed check mem
  uniques_known key mem known named := by
    obtain ⟨mem, apart⟩ := List.mem_filter.mp mem
    obtain ⟨column, columns, rfl⟩ := List.mem_map.mp (s.uniques_known key mem known named)
    refine List.mem_map_of_mem (List.mem_filter.mpr ⟨columns, decide_eq_true ?_⟩)
    intro same
    exact of_decide_eq_true apart (same ▸ named)

/-- With a check constraint. -/
def addCheck (s : Schema ι) (check : Check ι)
    (typed : check.condition.wellTyped (typeIn s.columns) = true) : Schema ι where
  columns := s.columns
  checks := s.checks ++ [check]
  uniques := s.uniques
  indexes := s.indexes
  columns_nodup := s.columns_nodup
  checks_typed other mem := by
    rcases List.mem_append.mp mem with mem | mem
    · exact s.checks_typed other mem
    · rw [List.mem_singleton.mp mem]
      exact typed
  uniques_known := s.uniques_known

/-- With an index. -/
def addIndex (s : Schema ι) (index : Index ι) : Schema ι :=
  { s with indexes := s.indexes ++ [index] }

/-- Without the index. -/
def dropIndex (s : Schema ι) (name : ι) : Schema ι :=
  { s with indexes := s.indexes.filter fun index => index.name ≠ name }

end Schema

/-! ## Rows of a table -/

/-- Two rows have the same key, without a `NULL`. -/
def Unique.Collide (key : Unique ι) (row row' : Row ι) : Prop :=
  ∀ name ∈ key.columns, row.lookup name = row'.lookup name ∧ row.lookup name ≠ some .null

instance (key : Unique ι) (row row' : Row ι) : Decidable (key.Collide row row') :=
  inferInstanceAs (Decidable (∀ name ∈ key.columns, _))

namespace Schema

/-- A row a table can have. -/
structure Fits (s : Schema ι) (row : Row ι) : Prop where
  known : ∀ name ∈ row.keys, name ∈ s.names
  typed : ∀ column ∈ s.columns, (row.lookup column.name).any column.takes = true
  checks : ∀ check ∈ s.checks, check.condition.Passes row

/-- The rows a table can have. -/
structure Admits (s : Schema ι) (rows : List (Row ι)) : Prop where
  fits : ∀ row ∈ rows, s.Fits row
  unique : ∀ key ∈ s.uniques, rows.Pairwise fun row row' => ¬ key.Collide row row'

instance (s : Schema ι) (row : Row ι) : Decidable (s.Fits row) :=
  decidable_of_iff ((∀ name ∈ row.keys, name ∈ s.names) ∧
      (∀ column ∈ s.columns, (row.lookup column.name).any column.takes = true) ∧
      ∀ check ∈ s.checks, check.condition.Passes row)
    ⟨fun h => ⟨h.1, h.2.1, h.2.2⟩, fun fits => ⟨fits.known, fits.typed, fits.checks⟩⟩

instance (s : Schema ι) (rows : List (Row ι)) : Decidable (s.Admits rows) :=
  decidable_of_iff ((∀ row ∈ rows, s.Fits row) ∧
      ∀ key ∈ s.uniques, rows.Pairwise fun row row' => ¬ key.Collide row row')
    ⟨fun h => ⟨h.1, h.2⟩, fun admits => ⟨admits.fits, admits.unique⟩⟩

theorem admits_nil (s : Schema ι) : s.Admits [] := ⟨by simp, by simp⟩

variable {s s' : Schema ι} {row : Row ι} {rows : List (Row ι)}

/-- A column of a row that fits has a value that the column takes. -/
theorem Fits.exists_value (fits : s.Fits row) {column : Column ι} (mem : column ∈ s.columns) :
    ∃ v, row.lookup column.name = some v ∧ column.takes v = true :=
  Option.any_eq_true _ _ |>.mp (fits.typed column mem)

theorem Fits.dropConstraint (fits : s.Fits row) (name : ι) : (s.dropConstraint name).Fits row where
  known := fits.known
  typed := fits.typed
  checks check mem := fits.checks check (List.mem_of_mem_filter mem)

theorem Fits.addColumn (fits : s.Fits row) {column : Column ι} (fresh : column.name ∉ s.names)
    (nullable : column.nullable = true) :
    (s.addColumn column fresh).Fits (row.insert column.name .null) where
  known name mem := by
    rw [names, Schema.addColumn, List.map_append, List.mem_append]
    rw [AList.keys_insert, List.mem_cons] at mem
    rcases mem with rfl | mem
    · exact .inr (List.mem_singleton_self _)
    · exact .inl (fits.known name (List.mem_of_mem_erase mem))
  typed other mem := by
    rcases List.mem_append.mp mem with mem | mem
    · have ne : other.name ≠ column.name := by
        intro same
        exact fresh (same ▸ List.mem_map_of_mem mem)
      rw [AList.lookup_insert_ne ne]
      exact fits.typed other mem
    · rw [List.mem_singleton.mp mem, AList.lookup_insert]
      exact Column.takes_null nullable
  checks check mem := by
    have same (name : ι) (named : name ∈ check.condition.columns) :
        row.lookup name = (row.insert column.name .null).lookup name := by
      refine (AList.lookup_insert_ne ?_).symm
      rintro rfl
      exact fresh (mem_names_of_check (s := s) mem named)
    exact (Condition.passes_congr same).mp (fits.checks check mem)

theorem Fits.dropColumn (fits : s.Fits row) (name : ι) :
    (s.dropColumn name).Fits (row.erase name) where
  known other mem := by
    rw [← AList.mem_keys, AList.mem_erase] at mem
    obtain ⟨column, columns, rfl⟩ := List.mem_map.mp (fits.known other mem.2)
    exact List.mem_map_of_mem (List.mem_filter.mpr ⟨columns, decide_eq_true mem.1⟩)
  typed column mem := by
    obtain ⟨mem, ne⟩ := List.mem_filter.mp mem
    rw [AList.lookup_erase_ne (of_decide_eq_true ne)]
    exact fits.typed column mem
  checks check mem := by
    obtain ⟨mem, apart⟩ := List.mem_filter.mp mem
    have same (other : ι) (named : other ∈ check.condition.columns) :
        row.lookup other = (row.erase name).lookup other := by
      refine (AList.lookup_erase_ne ?_).symm
      rintro rfl
      exact of_decide_eq_true apart named
    exact (Condition.passes_congr same).mp (fits.checks check mem)

theorem Fits.addCheck (fits : s.Fits row) {check : Check ι}
    (typed : check.condition.wellTyped (typeIn s.columns) = true)
    (passes : check.condition.Passes row) : (s.addCheck check typed).Fits row where
  known := fits.known
  typed := fits.typed
  checks other mem := by
    rcases List.mem_append.mp mem with mem | mem
    · exact fits.checks other mem
    · rw [List.mem_singleton.mp mem]
      exact passes

/-- Rows that are changed away from the keys stay distinct. -/
theorem Admits.map (admitted : s.Admits rows) {f : Row ι → Row ι}
    (fits : ∀ row ∈ rows, s.Fits row → s'.Fits (f row))
    (kept : ∀ key ∈ s'.uniques, key ∈ s.uniques)
    (same : ∀ key ∈ s'.uniques, ∀ name ∈ key.columns, ∀ row,
      (f row).lookup name = row.lookup name) :
    s'.Admits (rows.map f) where
  fits row mem := by
    obtain ⟨before, old, rfl⟩ := List.mem_map.mp mem
    exact fits before old (admitted.fits before old)
  unique key mem := by
    rw [List.pairwise_map]
    refine (admitted.unique key (kept key mem)).imp ?_
    intro row row' distinct collide
    refine distinct fun name named => ?_
    have := collide name named
    rwa [same key mem name named, same key mem name named] at this

end Schema

/-- A table. -/
@[ext]
structure Table (ι : Type) [DecidableEq ι] where
  schema : Schema ι
  rows : List (Row ι)
  admitted : schema.Admits rows

/-! ## Alterations -/

/-- The statements that change one table. -/
inductive Alteration (ι : Type) where
  | dropConstraint (name : ι)
  | addColumn (column : Column ι)
  | dropColumn (name : ι)
  | createCheck (check : Check ι)
  | createIndex (index : Index ι)
  | dropIndex (name : ι)
  deriving DecidableEq

/-- What a statement fails with. -/
inductive DdlError (ι : Type) where
  | undefinedTable (name : ι)
  | undefinedColumn (name : ι)
  | undefinedConstraint (name : ι)
  | undefinedIndex (name : ι)
  | duplicateRelation (name : ι)
  | duplicateColumn (name : ι)
  | duplicateConstraint (name : ι)
  | invalidCondition (name : ι)
  | checkViolation (name : ι)
  | notNullViolation (name : ι)
  deriving DecidableEq

namespace Alteration

/-- What an alteration makes of the schema. -/
def onSchema : Alteration ι → Schema ι → Except (DdlError ι) (Schema ι)
  | .dropConstraint name, s =>
      if name ∈ s.constraintNames then .ok (s.dropConstraint name)
      else .error (.undefinedConstraint name)
  | .addColumn column, s =>
      if fresh : column.name ∉ s.names then .ok (s.addColumn column fresh)
      else .error (.duplicateColumn column.name)
  | .dropColumn name, s =>
      if name ∈ s.names then .ok (s.dropColumn name) else .error (.undefinedColumn name)
  | .createCheck check, s =>
      if check.name ∈ s.constraintNames then .error (.duplicateConstraint check.name)
      else if typed : check.condition.wellTyped (typeIn s.columns) = true then
        .ok (s.addCheck check typed)
      else .error (.invalidCondition check.name)
  | .createIndex index, s =>
      match index.columns.find? fun column => column.1 ∉ s.names with
      | some column => .error (.undefinedColumn column.1)
      | none => .ok (s.addIndex index)
  | .dropIndex name, s =>
      if name ∈ s.indexes.map Index.name then .ok (s.dropIndex name)
      else .error (.undefinedIndex name)

/-- What an alteration makes of a row. -/
def onRow : Alteration ι → Row ι → Row ι
  | .addColumn column, row => row.insert column.name .null
  | .dropColumn name, row => row.erase name
  | .dropConstraint _, row | .createCheck _, row | .createIndex _, row | .dropIndex _, row => row

/-- What an alteration fails with at a row, if it does. -/
def rejects : Alteration ι → Row ι → Option (DdlError ι)
  | .addColumn column, _ =>
      if column.nullable then none else some (.notNullViolation column.name)
  | .createCheck check, row =>
      if check.condition.Passes row then none else some (.checkViolation check.name)
  | .dropConstraint _, _ | .dropColumn _, _ | .createIndex _, _ | .dropIndex _, _ => none

@[simp]
theorem rejects_addColumn {column : Column ι} {row : Row ι} :
    (addColumn column).rejects row = none ↔ column.nullable = true := by
  simp [rejects]

@[simp]
theorem rejects_createCheck {check : Check ι} {row : Row ι} :
    (createCheck check).rejects row = none ↔ check.condition.Passes row := by
  simp [rejects]

/-- A new check constraint fails with its own name. -/
theorem eq_checkViolation {check : Check ι} {row : Row ι} {e : DdlError ι}
    (rejected : (createCheck check).rejects row = some e) : e = .checkViolation check.name := by
  rw [rejects] at rejected
  split at rejected
  next => cases rejected
  next => exact (Option.some.inj rejected).symm

variable {a : Alteration ι} {s s' : Schema ι} {rows : List (Row ι)}

/-- Rows that an alteration does not reject are rows of the new schema. -/
theorem admits (changed : a.onSchema s = .ok s') (taken : ∀ row ∈ rows, a.rejects row = none)
    (admitted : s.Admits rows) : s'.Admits (rows.map a.onRow) := by
  cases a with
  | dropConstraint name =>
      rw [onSchema] at changed
      split at changed
      next =>
        obtain rfl := Except.ok.inj changed
        exact admitted.map (fun row _ fits => fits.dropConstraint name)
          (fun key mem => List.mem_of_mem_filter mem) fun _ _ _ _ _ => rfl
      next => cases changed
  | addColumn column =>
      rw [onSchema] at changed
      split at changed
      next fresh =>
        obtain rfl := Except.ok.inj changed
        refine admitted.map
          (fun row mem fits => fits.addColumn fresh (rejects_addColumn.mp (taken row mem)))
          (fun key mem => mem) ?_
        intro key mem name named row
        refine AList.lookup_insert_ne ?_
        -- a key names columns that were there before, so the new one is in none
        rintro rfl
        exact fresh (s.uniques_known key mem _ named)
      next => cases changed
  | dropColumn name =>
      rw [onSchema] at changed
      split at changed
      next =>
        obtain rfl := Except.ok.inj changed
        refine admitted.map (fun row _ fits => fits.dropColumn name)
          (fun key mem => List.mem_of_mem_filter mem) ?_
        intro key mem other named row
        refine AList.lookup_erase_ne ?_
        -- the keys with the dropped column go with it
        rintro rfl
        exact of_decide_eq_true (List.mem_filter.mp mem).2 named
      next => cases changed
  | createCheck check =>
      rw [onSchema] at changed
      split at changed
      next => cases changed
      next =>
        split at changed
        next typed =>
          obtain rfl := Except.ok.inj changed
          exact admitted.map
            (fun row mem fits => fits.addCheck typed (rejects_createCheck.mp (taken row mem)))
            (fun key mem => mem) fun _ _ _ _ _ => rfl
        next => cases changed
  | createIndex index =>
      rw [onSchema] at changed
      split at changed
      next => cases changed
      next =>
        obtain rfl := Except.ok.inj changed
        exact admitted.map (fun row _ fits => ⟨fits.known, fits.typed, fits.checks⟩)
          (fun key mem => mem) fun _ _ _ _ _ => rfl
  | dropIndex name =>
      rw [onSchema] at changed
      split at changed
      next =>
        obtain rfl := Except.ok.inj changed
        exact admitted.map (fun row _ fits => ⟨fits.known, fits.typed, fits.checks⟩)
          (fun key mem => mem) fun _ _ _ _ _ => rfl
      next => cases changed

end Alteration

namespace Table

/-- One statement. -/
def alter (t : Table ι) (a : Alteration ι) : Except (DdlError ι) (Table ι) :=
  match changed : a.onSchema t.schema with
  | .error e => .error e
  | .ok s =>
      match taken : t.rows.findSome? a.rejects with
      | some e => .error e
      | none =>
          .ok ⟨s, t.rows.map a.onRow,
            a.admits changed (List.findSome?_eq_none_iff.mp taken) t.admitted⟩

variable {t t' : Table ι} {a : Alteration ι}

/-- A statement succeeds when it fits the schema and no row is in its way; then every row
is changed by itself. -/
theorem alter_eq_ok_iff :
    t.alter a = .ok t' ↔
      a.onSchema t.schema = .ok t'.schema ∧ (∀ row ∈ t.rows, a.rejects row = none) ∧
        t'.rows = t.rows.map a.onRow := by
  rw [← List.findSome?_eq_none_iff, alter]
  split
  next e failed => simp [failed]
  next s changed =>
    split
    next e rejected => simp [rejected]
    next taken =>
      constructor
      · intro altered
        obtain rfl := Except.ok.inj altered
        exact ⟨changed, taken, rfl⟩
      · rintro ⟨schema, -, rows⟩
        exact congrArg _ (Table.ext (Except.ok.inj (changed.symm.trans schema)) rows.symm)

/-- A statement that fits the schema fails at the first row that is in its way. -/
theorem alter_eq_error {s : Schema ι} {e : DdlError ι} (schema : a.onSchema t.schema = .ok s)
    (rejected : t.rows.findSome? a.rejects = some e) : t.alter a = .error e := by
  rw [alter]
  split
  next failed => rw [schema] at failed; cases failed
  next =>
    split
    next e' found => rw [Option.some.inj (rejected.symm.trans found)]
    next taken => rw [rejected] at taken; cases taken

end Table

/-! ## Several statements -/

namespace Alteration

/-- What the alterations make of the schema. -/
def onSchemas (as : List (Alteration ι)) (s : Schema ι) : Except (DdlError ι) (Schema ι) :=
  as.foldlM (fun s a => a.onSchema s) s

/-- What the alterations make of a row. -/
def onRows (as : List (Alteration ι)) (row : Row ι) : Row ι :=
  as.foldl (fun row a => a.onRow row) row

/-- The first failure of the alterations at a row. -/
def rejectsAny : List (Alteration ι) → Row ι → Option (DdlError ι)
  | [], _ => none
  | a :: as, row => (a.rejects row).or (rejectsAny as (a.onRow row))

/-- The alteration takes every row. -/
def takesAll : Alteration ι → Bool
  | .addColumn column => column.nullable
  | .createCheck _ => false
  | .dropConstraint _ | .dropColumn _ | .createIndex _ | .dropIndex _ => true

theorem rejects_of_takesAll {a : Alteration ι} (takes : a.takesAll = true) (row : Row ι) :
    a.rejects row = none := by
  cases a with
  | addColumn column => exact rejects_addColumn.mpr takes
  | createCheck check => cases takes
  | _ => rfl

theorem rejectsAny_of_takesAll {as : List (Alteration ι)} (take : ∀ a ∈ as, a.takesAll = true)
    (row : Row ι) : rejectsAny as row = none := by
  induction as generalizing row with
  | nil => rfl
  | cons a as ih =>
      rw [List.forall_mem_cons] at take
      rw [rejectsAny, rejects_of_takesAll take.1, Option.none_or, ih take.2]

theorem rejectsAny_append {as bs : List (Alteration ι)} {row : Row ι} :
    rejectsAny (as ++ bs) row = (rejectsAny as row).or (rejectsAny bs (onRows as row)) := by
  induction as generalizing row with
  | nil => rfl
  | cons a as ih =>
      rw [List.cons_append, rejectsAny, rejectsAny, ih, Option.or_assoc]
      rfl

/-- Among statements that take every row, a new check constraint decides. -/
theorem rejectsAny_createCheck (as bs : List (Alteration ι)) {check : Check ι} {row : Row ι}
    (before : ∀ a ∈ as, a.takesAll = true) (after : ∀ a ∈ bs, a.takesAll = true) :
    rejectsAny (as ++ .createCheck check :: bs) row =
      (createCheck check).rejects (onRows as row) := by
  rw [rejectsAny_append, rejectsAny_of_takesAll before, Option.none_or, rejectsAny,
    rejectsAny_of_takesAll after, Option.or_none]

/-- The column an alteration adds or drops. -/
def touched : Alteration ι → List ι
  | .addColumn column => [column.name]
  | .dropColumn name => [name]
  | .dropConstraint _ | .createCheck _ | .createIndex _ | .dropIndex _ => []

theorem onSchemas_cons {a : Alteration ι} {as : List (Alteration ι)} {s s' : Schema ι} :
    onSchemas (a :: as) s = .ok s' ↔ ∃ u, a.onSchema s = .ok u ∧ onSchemas as u = .ok s' := by
  rw [onSchemas, List.foldlM_cons]
  cases a.onSchema s with
  | error e => simp [bind, Except.bind]
  | ok u => simp [bind, Except.bind, onSchemas]

theorem lookup_onRow {a : Alteration ι} {row : Row ι} {name : ι} (apart : name ∉ a.touched) :
    (a.onRow row).lookup name = row.lookup name := by
  cases a with
  | addColumn column => exact AList.lookup_insert_ne (List.ne_of_not_mem_cons apart)
  | dropColumn other => exact AList.lookup_erase_ne (List.ne_of_not_mem_cons apart)
  | _ => rfl

/-- A column that is neither added nor dropped keeps its value. -/
theorem lookup_onRows {as : List (Alteration ι)} {row : Row ι} {name : ι}
    (apart : ∀ a ∈ as, name ∉ a.touched) : (onRows as row).lookup name = row.lookup name := by
  induction as generalizing row with
  | nil => rfl
  | cons a as ih =>
      rw [List.forall_mem_cons] at apart
      calc (onRows (a :: as) row).lookup name
          = (onRows as (a.onRow row)).lookup name := rfl
        _ = (a.onRow row).lookup name := ih apart.2
        _ = row.lookup name := lookup_onRow apart.1

/-- A column without a value keeps none until it is dropped. -/
theorem lookup_onRow_null {a : Alteration ι} {row : Row ι} {name : ι}
    (null : row.lookup name = some .null) (kept : a ≠ .dropColumn name) :
    (a.onRow row).lookup name = some .null := by
  cases a with
  | addColumn column =>
      by_cases same : name = column.name
      · rw [onRow, same, AList.lookup_insert]
      · rw [onRow, AList.lookup_insert_ne same, null]
  | dropColumn other =>
      have ne : name ≠ other := by
        rintro rfl
        exact kept rfl
      rw [onRow, AList.lookup_erase_ne ne, null]
  | _ => exact null

theorem lookup_onRows_null {as : List (Alteration ι)} {row : Row ι} {name : ι}
    (null : row.lookup name = some .null) (kept : .dropColumn name ∉ as) :
    (onRows as row).lookup name = some .null := by
  induction as generalizing row with
  | nil => exact null
  | cons a as ih =>
      rw [List.mem_cons, not_or] at kept
      exact ih (lookup_onRow_null null (Ne.symm kept.1)) kept.2

/-- A new column has no value in any row. -/
theorem lookup_onRows_added {as : List (Alteration ι)} {row : Row ι} {column : Column ι}
    (added : .addColumn column ∈ as) (kept : .dropColumn column.name ∉ as) :
    (onRows as row).lookup column.name = some .null := by
  induction as generalizing row with
  | nil => cases added
  | cons a as ih =>
      rw [List.mem_cons, not_or] at kept
      rcases List.mem_cons.mp added with rfl | added
      · show (onRows as (row.insert column.name .null)).lookup column.name = some .null
        exact lookup_onRows_null (AList.lookup_insert row) kept.2
      · exact ih added kept.2

end Alteration

namespace Table

/-- The statements, one after another; a failure ends them. -/
def alterAll (t : Table ι) (as : List (Alteration ι)) : Except (DdlError ι) (Table ι) :=
  as.foldlM alter t

theorem alterAll_cons {a : Alteration ι} {as : List (Alteration ι)} {t t' : Table ι} :
    t.alterAll (a :: as) = .ok t' ↔ ∃ u, t.alter a = .ok u ∧ u.alterAll as = .ok t' := by
  rw [alterAll, List.foldlM_cons]
  cases t.alter a with
  | error e => simp [bind, Except.bind]
  | ok u => simp [bind, Except.bind, alterAll]

/-- Statements succeed when they fit the schemas they meet and no row is in their way. -/
theorem alterAll_eq_ok_iff {as : List (Alteration ι)} {t t' : Table ι} :
    t.alterAll as = .ok t' ↔
      Alteration.onSchemas as t.schema = .ok t'.schema ∧
        (∀ row ∈ t.rows, Alteration.rejectsAny as row = none) ∧
          t'.rows = t.rows.map (Alteration.onRows as) := by
  -- along the alterations; the rows change with each
  induction as generalizing t with
  | nil =>
      constructor
      · intro same
        obtain rfl := Except.ok.inj same
        exact ⟨rfl, fun _ _ => rfl, (List.map_id t.rows).symm⟩
      · rintro ⟨schema, -, rows⟩
        exact congrArg _ (Table.ext (Except.ok.inj schema) (rows.trans (List.map_id t.rows)).symm)
  | cons a as ih =>
      rw [alterAll_cons]
      constructor
      · rintro ⟨u, first, rest⟩
        obtain ⟨schema, taken, rows⟩ := alter_eq_ok_iff.mp first
        obtain ⟨schemas, taken', rows'⟩ := ih.mp rest
        refine ⟨Alteration.onSchemas_cons.mpr ⟨_, schema, schemas⟩, fun row mem => ?_, ?_⟩
        · rw [Alteration.rejectsAny, taken row mem]
          exact taken' _ (rows ▸ List.mem_map_of_mem mem)
        · rw [rows', rows, List.map_map]
          rfl
      · rintro ⟨schemas, taken, rows⟩
        obtain ⟨s, schema, rest⟩ := Alteration.onSchemas_cons.mp schemas
        have first (row : Row ι) (mem : row ∈ t.rows) : a.rejects row = none :=
          (Option.or_eq_none_iff.mp (taken row mem)).1
        -- the table after the first alteration
        let u : Table ι := ⟨s, t.rows.map a.onRow, a.admits schema first t.admitted⟩
        refine ⟨u, alter_eq_ok_iff.mpr ⟨schema, first, rfl⟩, ih.mpr ⟨rest, ?_, ?_⟩⟩
        · intro row mem
          obtain ⟨before, old, rfl⟩ := List.mem_map.mp mem
          exact (Option.or_eq_none_iff.mp (taken before old)).2
        · rw [rows, List.map_map]
          rfl

/-- Statements that fit the schemas they meet fail at a row, with what it is rejected with. -/
theorem exists_rejected {as : List (Alteration ι)} {t : Table ι} {s : Schema ι} {e : DdlError ι}
    (schemas : Alteration.onSchemas as t.schema = .ok s) (failed : t.alterAll as = .error e) :
    ∃ row ∈ t.rows, Alteration.rejectsAny as row = some e := by
  induction as generalizing t with
  | nil => cases failed
  | cons a as ih =>
      obtain ⟨u, schema, rest⟩ := Alteration.onSchemas_cons.mp schemas
      cases taken : t.rows.findSome? a.rejects with
      | some e' =>
          have stopped : t.alter a = .error e' := alter_eq_error schema taken
          rw [alterAll, List.foldlM_cons, stopped] at failed
          obtain rfl := Except.error.inj failed
          obtain ⟨row, mem, rejected⟩ := List.exists_of_findSome?_eq_some taken
          exact ⟨row, mem, by rw [Alteration.rejectsAny, rejected]; rfl⟩
      | none =>
          have first (row : Row ι) (mem : row ∈ t.rows) : a.rejects row = none :=
            List.findSome?_eq_none_iff.mp taken row mem
          let t' : Table ι := ⟨u, t.rows.map a.onRow, a.admits schema first t.admitted⟩
          have altered : t.alter a = .ok t' := alter_eq_ok_iff.mpr ⟨schema, first, rfl⟩
          rw [alterAll, List.foldlM_cons, altered] at failed
          obtain ⟨after, mem, rejected⟩ := ih (t := t') rest failed
          obtain ⟨row, old, rfl⟩ := List.mem_map.mp mem
          exact ⟨row, old, by rw [Alteration.rejectsAny, first row old]; exact rejected⟩

end Table

end Sql
