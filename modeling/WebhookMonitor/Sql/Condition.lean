import Mathlib.Algebra.Ring.Int.Defs
import Mathlib.Algebra.Ring.Nat
import Mathlib.Data.List.AList
import Mathlib.Data.List.TakeWhile

/-!
# Conditions on rows

Values of SQL, rows, and the conditions of check constraints.

* `DataType.contains` — the values a column of a type can hold;
* `Condition.eval` — the value of a condition in a row: true, false or unknown, as a
  comparison with `NULL` is unknown;
* `Condition.Passes` — what a check constraint asks: the condition is not false;
* `Condition.wellTyped` — what the database asks of the condition of a constraint: its
  columns exist, and its operators apply to their types.

A condition depends on the columns it names alone (`Condition.passes_congr`).  There is no
negation here, so `Passes` goes through `AND` and `OR` (`passes_and`, `passes_or`).

Columns are named by any type with decidable equality.
-/

namespace Sql

/-! ## Values -/

/-- The types of columns. -/
inductive DataType where
  | bigint
  | text
  | uuid
  | timestamptz
  deriving DecidableEq, Repr

/-- A value of a column.  A time is the number of microseconds from 2000-01-01T00:00 UTC. -/
inductive Value where
  | null
  | bigint (n : ℤ)
  | text (s : String)
  | uuid (n : Fin (2 ^ 128))
  | timestamptz (microseconds : ℤ)
  deriving DecidableEq, Repr

/-- The type of a value; `NULL` has any. -/
def Value.type? : Value → Option DataType
  | .null => none
  | .bigint _ => some .bigint
  | .text _ => some .text
  | .uuid _ => some .uuid
  | .timestamptz _ => some .timestamptz

/-- The times from 4713 BC to 294276 AD, and the two infinite ones, which are the extremes
of 64 bits. -/
def isTimestamp (t : ℤ) : Bool :=
  (-211813488000000000 ≤ t && t < 9223371331200000000) || t = -2 ^ 63 || t = 2 ^ 63 - 1

theorem isTimestamp_of_range {t : ℤ} (lower : -211813488000000000 ≤ t)
    (upper : t < 9223371331200000000) : isTimestamp t = true := by
  rw [isTimestamp, decide_eq_true lower, decide_eq_true upper]
  rfl

/-- The range of each type. -/
def Value.inRange : Value → Bool
  | .null | .uuid _ => true
  | .bigint n => -2 ^ 63 ≤ n && n < 2 ^ 63
  | .text s => s.toList.all fun c => c.toNat ≠ 0
  | .timestamptz t => isTimestamp t

/-- The value is one a nullable column of the type can hold. -/
def DataType.contains (type : DataType) (v : Value) : Bool :=
  (v = .null || v.type? = some type) && v.inRange

theorem DataType.contains_null (type : DataType) : type.contains .null = true := rfl

/-- A row: the values of its columns. -/
abbrev Row (ι : Type) [DecidableEq ι] := AList fun _ : ι => Value

/-! ## Truth values -/

/-- `TRUE`, `FALSE`, or unknown. -/
abbrev Truth := Option Bool

namespace Truth

/-- `AND`. -/
def and : Truth → Truth → Truth
  | some false, _ | _, some false => some false
  | some true, some true => some true
  | _, _ => none

/-- `OR`. -/
def or : Truth → Truth → Truth
  | some true, _ | _, some true => some true
  | some false, some false => some false
  | _, _ => none

theorem and_eq_false_iff {p q : Truth} :
    and p q = some false ↔ p = some false ∨ q = some false := by
  rcases p with _ | _ | _ <;> rcases q with _ | _ | _ <;> decide

theorem or_eq_false_iff {p q : Truth} :
    or p q = some false ↔ p = some false ∧ q = some false := by
  rcases p with _ | _ | _ <;> rcases q with _ | _ | _ <;> decide

end Truth

/-! ## Expressions -/

/-- `btrim(s)`: blanks go at both ends. -/
def btrim (s : String) : String :=
  .ofList (((s.toList.dropWhile (· = ' ')).reverse.dropWhile (· = ' ')).reverse)

theorem mem_dropWhile {α : Type} {p : α → Bool} {l : List α} {a : α} (mem : a ∈ l)
    (kept : ¬ p a = true) : a ∈ l.dropWhile p := by
  rw [← List.takeWhile_append_dropWhile (p := p) (l := l)] at mem
  rcases List.mem_append.mp mem with mem | mem
  · exact absurd (List.mem_takeWhile_imp mem) kept
  · exact mem

/-- Something is left of a text that is not blank. -/
theorem length_btrim_pos {s : String} {c : Char} (mem : c ∈ s.toList) (visible : c ≠ ' ') :
    0 < (btrim s).length := by
  have kept : ¬ decide (c = ' ') = true := by simp [visible]
  have front : c ∈ (s.toList.dropWhile (· = ' ')).reverse :=
    List.mem_reverse.mpr (mem_dropWhile mem kept)
  rw [btrim, String.length_ofList, List.length_reverse]
  exact List.length_pos_of_mem (mem_dropWhile front kept)

/-- `length(v)` of a text. -/
def Value.length : Value → Value
  | .text s => .bigint s.length
  | _ => .null

/-- `btrim(v)` of a text. -/
def Value.trimmed : Value → Value
  | .text s => .text (btrim s)
  | _ => .null

/-- Expressions over the columns of a row. -/
inductive Expression (ι : Type) where
  | column (name : ι)
  | literal (value : Value)
  | length (e : Expression ι)
  | btrim (e : Expression ι)
  deriving DecidableEq

namespace Expression

variable {ι : Type}

/-- The columns of an expression. -/
def columns : Expression ι → List ι
  | .column name => [name]
  | .literal _ => []
  | .length e | .btrim e => e.columns

/-- The type of an expression, by those of the columns. -/
def type? (typeOf : ι → Option DataType) : Expression ι → Option DataType
  | .column name => typeOf name
  | .literal value => value.type?
  | .length e => if e.type? typeOf = some .text then some .bigint else none
  | .btrim e => if e.type? typeOf = some .text then some .text else none

/-- The value of an expression in a row. -/
def eval [DecidableEq ι] (row : Row ι) : Expression ι → Value
  | .column name => (row.lookup name).getD .null
  | .literal value => value
  | .length e => (e.eval row).length
  | .btrim e => (e.eval row).trimmed

variable {e : Expression ι} {typeOf : ι → Option DataType}

theorem type?_length :
    (length e).type? typeOf = if e.type? typeOf = some .text then some .bigint else none := rfl

theorem type?_btrim :
    (Expression.btrim e).type? typeOf =
      if e.type? typeOf = some .text then some .text else none := rfl

theorem type?_congr {f g : ι → Option DataType} (same : ∀ name ∈ e.columns, f name = g name) :
    e.type? f = e.type? g := by
  induction e with
  | column name => exact same name (List.mem_singleton_self name)
  | literal => rfl
  | length e ih => rw [type?_length, type?_length, ih same]
  | btrim e ih => rw [type?_btrim, type?_btrim, ih same]

/-- The columns of an expression that has a type have one. -/
theorem isSome_typeOf (typed : (e.type? typeOf).isSome = true) {name : ι}
    (mem : name ∈ e.columns) : (typeOf name).isSome = true := by
  induction e with
  | column =>
      rw [List.mem_singleton.mp mem]
      exact typed
  | literal => cases mem
  | length e ih =>
      rw [type?_length] at typed
      by_cases text : e.type? typeOf = some .text
      · exact ih (by rw [text]; rfl) mem
      · rw [if_neg text] at typed
        cases typed
  | btrim e ih =>
      rw [type?_btrim] at typed
      by_cases text : e.type? typeOf = some .text
      · exact ih (by rw [text]; rfl) mem
      · rw [if_neg text] at typed
        cases typed

variable [DecidableEq ι] {row row' : Row ι}

theorem eval_column {name : ι} {v : Value} (found : row.lookup name = some v) :
    (column name).eval row = v :=
  congrArg (fun v : Option Value => v.getD .null) found

theorem eval_congr (same : ∀ name ∈ e.columns, row.lookup name = row'.lookup name) :
    e.eval row = e.eval row' := by
  induction e with
  | column name =>
      exact congrArg (fun v : Option Value => v.getD .null)
        (same name (List.mem_singleton_self name))
  | literal => rfl
  | length e ih => exact congrArg Value.length (ih same)
  | btrim e ih => exact congrArg Value.trimmed (ih same)

end Expression

/-! ## Conditions -/

/-- The comparisons, equality apart for numbers only. -/
inductive Comparison where
  | eq
  | gt
  | ge
  | le
  deriving DecidableEq

/-- The types a comparison is for. -/
def Comparison.isFor (op : Comparison) (type : DataType) : Bool := op = .eq || type = .bigint

/-- The truth of a comparison. -/
def Comparison.eval : Comparison → Value → Value → Truth
  | _, .null, _ | _, _, .null => none
  | .eq, v, w => some (v = w)
  | .gt, .bigint m, .bigint n => some (n < m)
  | .ge, .bigint m, .bigint n => some (n ≤ m)
  | .le, .bigint m, .bigint n => some (m ≤ n)
  | _, _, _ => none

theorem Comparison.eval_null (op : Comparison) (w : Value) : op.eval .null w = none := by
  cases op <;> rfl

theorem Comparison.eval_eq {v w : Value} (left : v ≠ .null) (right : w ≠ .null) :
    Comparison.eq.eval v w = some (decide (v = w)) := by
  cases v <;> cases w <;> first | rfl | contradiction

theorem Comparison.eval_gt (m n : ℤ) :
    gt.eval (.bigint m) (.bigint n) = some (decide (n < m)) := rfl

theorem Comparison.eval_ge (m n : ℤ) :
    ge.eval (.bigint m) (.bigint n) = some (decide (n ≤ m)) := rfl

theorem Comparison.eval_le (m n : ℤ) :
    le.eval (.bigint m) (.bigint n) = some (decide (m ≤ n)) := rfl

/-- The conditions of check constraints. -/
inductive Condition (ι : Type) where
  | compare (left : Expression ι) (op : Comparison) (right : Expression ι)
  | isIn (e : Expression ι) (values : List Value)
  | isNull (e : Expression ι)
  | isNotNull (e : Expression ι)
  | and (p q : Condition ι)
  | or (p q : Condition ι)
  deriving DecidableEq

namespace Condition

variable {ι : Type}

/-- The columns of a condition. -/
def columns : Condition ι → List ι
  | .compare left _ right => left.columns ++ right.columns
  | .isIn e _ | .isNull e | .isNotNull e => e.columns
  | .and p q | .or p q => p.columns ++ q.columns

/-- The expressions of the condition have types, and its comparisons are for these. -/
def wellTyped (typeOf : ι → Option DataType) : Condition ι → Bool
  | .compare left op right =>
      (left.type? typeOf).any op.isFor && right.type? typeOf = left.type? typeOf
  | .isIn e values =>
      (e.type? typeOf).isSome && values.all fun v => v.type? = e.type? typeOf
  | .isNull e | .isNotNull e => (e.type? typeOf).isSome
  | .and p q | .or p q => p.wellTyped typeOf && q.wellTyped typeOf

/-- The truth of a condition in a row.  `e IN (v, …)` is `e = v OR …`. -/
def eval [DecidableEq ι] (row : Row ι) : Condition ι → Truth
  | .compare left op right => op.eval (left.eval row) (right.eval row)
  | .isIn e values =>
      values.foldr (fun v rest => Truth.or (Comparison.eq.eval (e.eval row) v) rest) (some false)
  | .isNull e => some (e.eval row = .null)
  | .isNotNull e => some (e.eval row ≠ .null)
  | .and p q => Truth.and (p.eval row) (q.eval row)
  | .or p q => Truth.or (p.eval row) (q.eval row)

/-- A check constraint takes the row: only a condition that is false rejects it. -/
def Passes [DecidableEq ι] (row : Row ι) (c : Condition ι) : Prop := c.eval row ≠ some false

instance [DecidableEq ι] (row : Row ι) (c : Condition ι) : Decidable (c.Passes row) :=
  inferInstanceAs (Decidable (c.eval row ≠ some false))

section Types

variable {f g : ι → Option DataType} {c p q : Condition ι} {left right e : Expression ι}
  {op : Comparison} {values : List Value}

theorem wellTyped_compare :
    (compare left op right).wellTyped f =
      ((left.type? f).any op.isFor && decide (right.type? f = left.type? f)) := rfl

theorem wellTyped_isIn :
    (isIn e values).wellTyped f =
      ((e.type? f).isSome && values.all fun v => v.type? = e.type? f) := rfl

theorem wellTyped_congr (same : ∀ name ∈ c.columns, f name = g name) :
    c.wellTyped f = c.wellTyped g := by
  induction c with
  | compare left op right =>
      rw [wellTyped_compare, wellTyped_compare,
        Expression.type?_congr fun name mem => same name (List.mem_append_left _ mem),
        Expression.type?_congr fun name mem => same name (List.mem_append_right _ mem)]
  | isIn e => rw [wellTyped_isIn, wellTyped_isIn, Expression.type?_congr same]
  | isNull e | isNotNull e => exact congrArg Option.isSome (Expression.type?_congr same)
  | and p q ihp ihq | or p q ihp ihq =>
      exact congrArg₂ Bool.and (ihp fun name mem => same name (List.mem_append_left _ mem))
        (ihq fun name mem => same name (List.mem_append_right _ mem))

/-- The columns of a well typed condition exist. -/
theorem isSome_typeOf (typed : c.wellTyped f = true) {name : ι} (mem : name ∈ c.columns) :
    (f name).isSome = true := by
  induction c with
  | compare left op right =>
      rw [wellTyped_compare, Bool.and_eq_true, decide_eq_true_eq, Option.any_eq_true] at typed
      obtain ⟨⟨type, left_type, -⟩, right_type⟩ := typed
      rcases List.mem_append.mp mem with mem | mem
      · exact Expression.isSome_typeOf (by rw [left_type]; rfl) mem
      · exact Expression.isSome_typeOf (by rw [right_type, left_type]; rfl) mem
  | isIn e values =>
      rw [wellTyped_isIn, Bool.and_eq_true] at typed
      exact Expression.isSome_typeOf typed.1 mem
  | isNull e | isNotNull e => exact Expression.isSome_typeOf typed mem
  | and p q ihp ihq | or p q ihp ihq =>
      have both := Bool.and_eq_true_iff.mp typed
      rcases List.mem_append.mp mem with mem | mem
      · exact ihp both.1 mem
      · exact ihq both.2 mem

end Types

section Rows

variable [DecidableEq ι] {row row' : Row ι} {c p q : Condition ι} {e left right : Expression ι}
  {op : Comparison} {values : List Value}

theorem eval_compare :
    (compare left op right).eval row = op.eval (left.eval row) (right.eval row) := rfl

theorem eval_isIn_cons {v : Value} :
    (isIn e (v :: values)).eval row =
      Truth.or (Comparison.eq.eval (e.eval row) v) ((isIn e values).eval row) := rfl

theorem eval_congr (same : ∀ name ∈ c.columns, row.lookup name = row'.lookup name) :
    c.eval row = c.eval row' := by
  induction c with
  | compare left op right =>
      rw [eval_compare, eval_compare,
        Expression.eval_congr fun name mem => same name (List.mem_append_left _ mem),
        Expression.eval_congr fun name mem => same name (List.mem_append_right _ mem)]
  | isIn e values =>
      induction values with
      | nil => rfl
      | cons v values ih => rw [eval_isIn_cons, eval_isIn_cons, Expression.eval_congr same, ih same]
  | isNull e =>
      exact congrArg (fun v => some (decide (v = Value.null))) (Expression.eval_congr same)
  | isNotNull e =>
      exact congrArg (fun v => some (decide (v ≠ Value.null))) (Expression.eval_congr same)
  | and p q ihp ihq =>
      exact congrArg₂ Truth.and (ihp fun name mem => same name (List.mem_append_left _ mem))
        (ihq fun name mem => same name (List.mem_append_right _ mem))
  | or p q ihp ihq =>
      exact congrArg₂ Truth.or (ihp fun name mem => same name (List.mem_append_left _ mem))
        (ihq fun name mem => same name (List.mem_append_right _ mem))

/-- A check constraint looks at the columns of its condition only. -/
theorem passes_congr (same : ∀ name ∈ c.columns, row.lookup name = row'.lookup name) :
    c.Passes row ↔ c.Passes row' := by
  rw [Passes, Passes, eval_congr same]

/-! ### What the conditions take -/

/-- A condition that is true or false passes when it is true. -/
theorem passes_of_eval {b : Prop} [Decidable b] (value : c.eval row = some (decide b)) :
    c.Passes row ↔ b := by
  rw [Passes, value]
  by_cases h : b <;> simp [h]

@[simp]
theorem passes_and : (and p q).Passes row ↔ p.Passes row ∧ q.Passes row := by
  show Truth.and (p.eval row) (q.eval row) ≠ some false ↔ _
  rw [ne_eq, Truth.and_eq_false_iff, not_or]
  rfl

@[simp]
theorem passes_or : (or p q).Passes row ↔ p.Passes row ∨ q.Passes row := by
  show Truth.or (p.eval row) (q.eval row) ≠ some false ↔ _
  rw [ne_eq, Truth.or_eq_false_iff, not_and_or]
  rfl

@[simp]
theorem passes_isNull : (isNull e).Passes row ↔ e.eval row = .null := passes_of_eval rfl

@[simp]
theorem passes_isNotNull : (isNotNull e).Passes row ↔ e.eval row ≠ .null := passes_of_eval rfl

/-- An equation with a literal takes `NULL` and the literal. -/
theorem passes_equals {value : Value} (known : value ≠ .null) :
    (compare e .eq (.literal value)).Passes row ↔ e.eval row = .null ∨ e.eval row = value := by
  by_cases none : e.eval row = .null
  · have unknown : (compare e .eq (.literal value)).eval row = Option.none := by
      rw [eval_compare, none, Comparison.eval_null]
    rw [Passes, unknown]
    exact iff_of_true (Option.some_ne_none false).symm (.inl none)
  · have decided : (compare e .eq (.literal value)).eval row =
        some (decide (e.eval row = value)) :=
      Comparison.eval_eq none known
    rw [passes_of_eval decided, or_iff_right none]

/-- A list of literals takes `NULL` and each of them. -/
theorem passes_isIn (known : .null ∉ values) :
    (isIn e values).Passes row ↔ e.eval row = .null ∧ values ≠ [] ∨ e.eval row ∈ values := by
  induction values with
  | nil =>
      refine iff_of_false (fun passes => passes rfl) ?_
      rintro (⟨-, nonempty⟩ | mem)
      · exact nonempty rfl
      · exact List.not_mem_nil mem
  | cons v rest ih =>
      have split : (isIn e (v :: rest)).Passes row ↔
          (compare e .eq (.literal v)).Passes row ∨ (isIn e rest).Passes row :=
        passes_or (p := compare e .eq (.literal v)) (q := isIn e rest)
      rw [List.mem_cons, not_or] at known
      have nonempty : v :: rest ≠ [] := List.cons_ne_nil v rest
      rw [split, passes_equals (Ne.symm known.1), ih known.2, List.mem_cons]
      constructor
      · rintro ((null | same) | ⟨null, -⟩ | mem)
        · exact .inl ⟨null, nonempty⟩
        · exact .inr (.inl same)
        · exact .inl ⟨null, nonempty⟩
        · exact .inr (.inr mem)
      · rintro (⟨null, -⟩ | same | mem)
        · exact .inl (.inl null)
        · exact .inl (.inr same)
        · exact .inr (.inr mem)

/-- Comparisons of numbers. -/
theorem passes_gt {m n : ℤ} (value : e.eval row = .bigint m) :
    (compare e .gt (.literal (.bigint n))).Passes row ↔ n < m := by
  refine passes_of_eval ?_
  rw [eval_compare, value]
  exact Comparison.eval_gt m n

theorem passes_ge {m n : ℤ} (value : e.eval row = .bigint m) :
    (compare e .ge (.literal (.bigint n))).Passes row ↔ n ≤ m := by
  refine passes_of_eval ?_
  rw [eval_compare, value]
  exact Comparison.eval_ge m n

theorem passes_le {m n : ℤ} (value : e.eval row = .bigint m) :
    (compare e .le (.literal (.bigint n))).Passes row ↔ m ≤ n := by
  refine passes_of_eval ?_
  rw [eval_compare, value]
  exact Comparison.eval_le m n

end Rows

end Condition

end Sql
