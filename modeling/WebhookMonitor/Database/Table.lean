import Mathlib.Data.List.Nodup

/-!
# A table under READ COMMITTED

The rows of a database table as concurrent transactions see them.  A row carries
the key the table generated for it and the transaction that inserted it; it is
`pending` until that transaction ends.  Rows are inserted, never changed.

* `visible` — the rows a statement of a transaction sees: the committed ones and
  its own;
* `Blocked` — another transaction has a pending row with the same unique key, so
  an insert waits for its end;
* `Sound` — generated keys are distinct, and so are the unique keys, of committed
  and pending rows alike;
* `Sound.insert`, `Sound.commit`, `Sound.rollback` — every operation keeps it, an
  insert because it waits for pending rows and checks visible ones;
* `Frame` — what an operation of one transaction leaves alone.
-/

namespace Database

/-- Where a key is unique, looking for it finds the one element that has it. -/
theorem filter_eq_singleton {α κ : Type} [DecidableEq κ] {f : α → κ} {l : List α} {a : α} {k : κ}
    (distinct : (l.map f).Nodup) (mem : a ∈ l) (key : f a = k) :
    l.filter (fun b => f b = k) = [a] := by
  induction l with
  | nil => cases mem
  | cons b rest ih =>
      rw [List.map_cons, List.nodup_cons] at distinct
      rcases List.mem_cons.mp mem with rfl | mem
      · have others : rest.filter (fun b => decide (f b = k)) = [] := by
          rw [List.filter_eq_nil_iff]
          intro c hc same
          have : f c = f a := (of_decide_eq_true same).trans key.symm
          exact distinct.1 (this ▸ List.mem_map_of_mem hc)
        rw [List.filter_cons, if_pos (decide_eq_true key), others]
      · have other : ¬ f b = k := by
          intro same
          exact distinct.1 ((same.trans key.symm) ▸ List.mem_map_of_mem mem)
        rw [List.filter_cons, if_neg (by simpa using other), ih distinct.2 mem]

/-- A row, with its generated key and the transaction that inserted it. -/
structure Row (ρ : Type) where
  id : ℕ
  xmin : ℕ
  values : ρ

/-- A table: `lastId` is the last key it has generated. -/
structure Table (ρ : Type) where
  committed : List (Row ρ)
  pending : List (Row ρ)
  lastId : ℕ

namespace Table

variable {ρ κ : Type}

/-- A new table. -/
def empty : Table ρ := ⟨[], [], 0⟩

/-- The pending rows of a transaction. -/
def pendingOf (t : Table ρ) (tx : ℕ) : List (Row ρ) := t.pending.filter fun row => row.xmin = tx

/-- The permanent rows of a transaction. -/
def committedOf (t : Table ρ) (tx : ℕ) : List (Row ρ) :=
  t.committed.filter fun row => row.xmin = tx

/-- The rows a statement of a transaction sees. -/
def visible (t : Table ρ) (tx : ℕ) : List (Row ρ) := t.committed ++ t.pendingOf tx

/-- Generate a key. -/
def generate (t : Table ρ) : Table ρ := { t with lastId := t.lastId + 1 }

/-- Insert a row under a new key. -/
def insert (t : Table ρ) (tx : ℕ) (values : ρ) : Table ρ :=
  { t with pending := t.pending ++ [⟨t.lastId + 1, tx, values⟩], lastId := t.lastId + 1 }

/-- The rows of the transaction become permanent. -/
def commit (t : Table ρ) (tx : ℕ) : Table ρ :=
  { t with
    committed := t.committed ++ t.pendingOf tx
    pending := t.pending.filter fun row => row.xmin ≠ tx }

/-- The rows of the transaction disappear. -/
def rollback (t : Table ρ) (tx : ℕ) : Table ρ :=
  { t with pending := t.pending.filter fun row => row.xmin ≠ tx }

/-- Another transaction has a pending row with the unique key `k`. -/
def Blocked (unique : ρ → κ) (t : Table ρ) (tx : ℕ) (k : κ) : Prop :=
  ∃ row ∈ t.pending, row.xmin ≠ tx ∧ unique row.values = k

@[simp] theorem generate_committed (t : Table ρ) : t.generate.committed = t.committed := rfl
@[simp] theorem generate_pending (t : Table ρ) : t.generate.pending = t.pending := rfl
@[simp] theorem insert_committed (t : Table ρ) (tx : ℕ) (values : ρ) :
    (t.insert tx values).committed = t.committed := rfl
@[simp] theorem insert_pending (t : Table ρ) (tx : ℕ) (values : ρ) :
    (t.insert tx values).pending = t.pending ++ [⟨t.lastId + 1, tx, values⟩] := rfl
@[simp] theorem commit_committed (t : Table ρ) (tx : ℕ) :
    (t.commit tx).committed = t.committed ++ t.pendingOf tx := rfl
@[simp] theorem rollback_committed (t : Table ρ) (tx : ℕ) :
    (t.rollback tx).committed = t.committed := rfl

theorem mem_pendingOf {t : Table ρ} {tx : ℕ} {row : Row ρ} :
    row ∈ t.pendingOf tx ↔ row ∈ t.pending ∧ row.xmin = tx := by
  simp [pendingOf]

theorem mem_committedOf {t : Table ρ} {tx : ℕ} {row : Row ρ} :
    row ∈ t.committedOf tx ↔ row ∈ t.committed ∧ row.xmin = tx := by
  simp [committedOf]

/-- Where one transaction has all pending rows, and has none, there is none. -/
theorem pending_eq_nil {t : Table ρ} {tx : ℕ} (own : ∀ row ∈ t.pending, row.xmin = tx)
    (none : t.pendingOf tx = []) : t.pending = [] := by
  refine List.eq_nil_iff_forall_not_mem.mpr fun row mem => ?_
  have pending := mem_pendingOf.mpr ⟨mem, own row mem⟩
  rw [none] at pending
  cases pending

@[simp] theorem mem_commit_pending {t : Table ρ} {tx : ℕ} {row : Row ρ} :
    row ∈ (t.commit tx).pending ↔ row ∈ t.pending ∧ row.xmin ≠ tx := by
  simp [commit]

@[simp] theorem mem_rollback_pending {t : Table ρ} {tx : ℕ} {row : Row ρ} :
    row ∈ (t.rollback tx).pending ↔ row ∈ t.pending ∧ row.xmin ≠ tx := by
  simp [rollback]

theorem mem_visible {t : Table ρ} {tx : ℕ} {row : Row ρ} :
    row ∈ t.visible tx ↔ row ∈ t.committed ∨ (row ∈ t.pending ∧ row.xmin = tx) := by
  rw [visible, List.mem_append, mem_pendingOf]

/-- Keys are generated once, and no two rows have the same unique key. -/
structure Sound (unique : ρ → κ) (t : Table ρ) : Prop where
  ids : ((t.committed ++ t.pending).map Row.id).Nodup
  generated : ∀ row ∈ t.committed ++ t.pending, row.id ≤ t.lastId
  unique : ((t.committed ++ t.pending).map fun row => unique row.values).Nodup

variable {unique : ρ → κ} {t : Table ρ} {tx : ℕ}

theorem sound_empty : Sound unique (empty : Table ρ) :=
  ⟨List.nodup_nil, fun _ mem => absurd mem List.not_mem_nil, List.nodup_nil⟩

namespace Sound

theorem generate (sound : Sound unique t) : Sound unique t.generate :=
  ⟨sound.ids, fun row mem => Nat.le_succ_of_le (sound.generated row mem), sound.unique⟩

/-- An insert that does not wait and finds no visible row with its key. -/
theorem insert (sound : Sound unique t) {values : ρ} (free : ¬ Blocked unique t tx (unique values))
    (new : ∀ row ∈ t.visible tx, unique row.values ≠ unique values) :
    Sound unique (t.insert tx values) := by
  have all : (t.insert tx values).committed ++ (t.insert tx values).pending =
      (t.committed ++ t.pending) ++ [⟨t.lastId + 1, tx, values⟩] := by
    rw [insert_committed, insert_pending, List.append_assoc]
  -- an equal row is visible, or pending elsewhere and then blocks the insert
  have others : ∀ row ∈ t.committed ++ t.pending, unique row.values ≠ unique values := by
    intro row mem same
    rcases List.mem_append.mp mem with mem | mem
    · exact new row (mem_visible.mpr (.inl mem)) same
    · by_cases own : row.xmin = tx
      · exact new row (mem_visible.mpr (.inr ⟨mem, own⟩)) same
      · exact free ⟨row, mem, own, same⟩
  refine ⟨?_, ?_, ?_⟩
  · rw [all, List.map_append, List.nodup_append]
    refine ⟨sound.ids, List.nodup_singleton _, ?_⟩
    intro id mem new newMem same
    obtain ⟨row, hrow, rfl⟩ := List.mem_map.mp mem
    obtain rfl := List.mem_singleton.mp newMem
    have bound := sound.generated row hrow
    have last : row.id = t.lastId + 1 := same
    omega
  · rw [all]
    intro row mem
    rcases List.mem_append.mp mem with mem | mem
    · exact Nat.le_succ_of_le (sound.generated row mem)
    · obtain rfl := List.mem_singleton.mp mem
      exact Nat.le_refl _
  · rw [all, List.map_append, List.nodup_append]
    refine ⟨sound.unique, List.nodup_singleton _, ?_⟩
    intro k mem new newMem same
    obtain ⟨row, hrow, rfl⟩ := List.mem_map.mp mem
    obtain rfl := List.mem_singleton.mp newMem
    exact others row hrow same

/-- A commit only moves rows. -/
theorem commit_perm (t : Table ρ) (tx : ℕ) :
    ((t.commit tx).committed ++ (t.commit tx).pending).Perm (t.committed ++ t.pending) := by
  have parts : (t.pendingOf tx ++ (t.commit tx).pending).Perm t.pending := by
    have := List.filter_append_perm (fun row : Row ρ => decide (row.xmin = tx)) t.pending
    simpa only [pendingOf, commit, decide_not, ne_eq] using this
  rw [commit_committed, List.append_assoc]
  exact parts.append_left _

theorem commit (sound : Sound unique t) : Sound unique (t.commit tx) :=
  ⟨((commit_perm t tx).map _).symm.nodup sound.ids,
    fun row mem => sound.generated row ((commit_perm t tx).subset mem),
    ((commit_perm t tx).map _).symm.nodup sound.unique⟩

/-- A rollback only drops rows. -/
theorem rollback (sound : Sound unique t) : Sound unique (t.rollback tx) := by
  have fewer : ((t.rollback tx).committed ++ (t.rollback tx).pending).Sublist
      (t.committed ++ t.pending) := List.Sublist.append_left List.filter_sublist _
  exact ⟨sound.ids.sublist (fewer.map _), fun row mem => sound.generated row (fewer.subset mem),
    sound.unique.sublist (fewer.map _)⟩

end Sound

/-! ## What one transaction leaves alone -/

/-- The pending rows of the other transactions stay, what became permanent is the
transaction's own, and new rows have later keys. -/
structure Frame (tx : ℕ) (t t' : Table ρ) : Prop where
  pendingOf : ∀ other, other ≠ tx → t'.pendingOf other = t.pendingOf other
  committed : ∃ new, t'.committed = t.committed ++ new ∧ ∀ row ∈ new, row.xmin = tx
  lastId : t.lastId ≤ t'.lastId
  later : ∀ row ∈ t'.committed ++ t'.pending,
    row ∈ t.committed ++ t.pending ∨ t.lastId < row.id

namespace Frame

variable {t' : Table ρ}

theorem refl (tx : ℕ) (t : Table ρ) : Frame tx t t :=
  ⟨fun _ _ => rfl, ⟨[], (List.append_nil _).symm, fun _ mem => absurd mem List.not_mem_nil⟩,
    Nat.le_refl _, fun _ mem => .inl mem⟩

theorem trans {t'' : Table ρ} (first : Frame tx t t') (second : Frame tx t' t'') :
    Frame tx t t'' := by
  refine ⟨fun other different => (second.pendingOf other different).trans
    (first.pendingOf other different), ?_, Nat.le_trans first.lastId second.lastId, ?_⟩
  · obtain ⟨new, heq, own⟩ := first.committed
    obtain ⟨new', heq', own'⟩ := second.committed
    refine ⟨new ++ new', by rw [heq', heq, List.append_assoc], fun row mem => ?_⟩
    rcases List.mem_append.mp mem with mem | mem
    · exact own row mem
    · exact own' row mem
  · intro row mem
    rcases second.later row mem with mem | late
    · exact first.later row mem
    · exact .inr (Nat.lt_of_le_of_lt first.lastId late)

theorem generate (tx : ℕ) (t : Table ρ) : Frame tx t t.generate :=
  ⟨fun _ _ => rfl, (refl tx t).committed, Nat.le_succ _, fun _ mem => .inl mem⟩

theorem insert (tx : ℕ) (t : Table ρ) (values : ρ) : Frame tx t (t.insert tx values) := by
  refine ⟨fun other different => ?_, (refl tx t).committed, Nat.le_succ _, fun row mem => ?_⟩
  · rw [Table.pendingOf, insert_pending, List.filter_append, ← Table.pendingOf]
    simp [different.symm]
  · rw [insert_committed, insert_pending, ← List.append_assoc] at mem
    rcases List.mem_append.mp mem with mem | mem
    · exact .inl mem
    · obtain rfl := List.mem_singleton.mp mem
      exact .inr (Nat.lt_succ_self _)

/-- The end of a transaction keeps the pending rows of the others. -/
theorem pendingOf_ended {other : ℕ} (different : other ≠ tx) :
    (t.pending.filter fun row => row.xmin ≠ tx).filter (fun row => row.xmin = other) =
      t.pendingOf other := by
  rw [List.filter_filter, Table.pendingOf]
  refine List.filter_congr fun row _ => ?_
  by_cases own : row.xmin = other
  · simp [own, different]
  · simp [own]

theorem commit (tx : ℕ) (t : Table ρ) : Frame tx t (t.commit tx) :=
  ⟨fun _ different => pendingOf_ended different,
    ⟨t.pendingOf tx, rfl, fun _ mem => (mem_pendingOf.mp mem).2⟩, Nat.le_refl _,
    fun _ mem => .inl ((Sound.commit_perm t tx).subset mem)⟩

theorem rollback (tx : ℕ) (t : Table ρ) : Frame tx t (t.rollback tx) := by
  refine ⟨fun _ different => pendingOf_ended different, (refl tx t).committed, Nat.le_refl _,
    fun row mem => .inl ?_⟩
  rcases List.mem_append.mp mem with mem | mem
  · exact List.mem_append_left _ mem
  · exact List.mem_append_right _ (mem_rollback_pending.mp mem).1

/-- Permanent rows stay. -/
theorem mem_committed (frame : Frame tx t t') {row : Row ρ} (mem : row ∈ t.committed) :
    row ∈ t'.committed := by
  obtain ⟨new, heq, -⟩ := frame.committed
  rw [heq]
  exact List.mem_append_left _ mem

/-- A permanent row of another transaction was there. -/
theorem of_mem_committed (frame : Frame tx t t') {row : Row ρ} (mem : row ∈ t'.committed) :
    row ∈ t.committed ∨ row.xmin = tx := by
  obtain ⟨new, heq, own⟩ := frame.committed
  rw [heq] at mem
  rcases List.mem_append.mp mem with mem | mem
  · exact .inl mem
  · exact .inr (own row mem)

/-- A row of another transaction was there. -/
theorem of_mem (frame : Frame tx t t') {row : Row ρ}
    (mem : row ∈ t'.committed ++ t'.pending) :
    row ∈ t.committed ++ t.pending ∨ row.xmin = tx := by
  rcases List.mem_append.mp mem with mem | mem
  · exact (frame.of_mem_committed mem).imp_left (List.mem_append_left _)
  · by_cases own : row.xmin = tx
    · exact .inr own
    · have kept : row ∈ t.pendingOf row.xmin := by
        rw [← frame.pendingOf row.xmin own]
        exact mem_pendingOf.mpr ⟨mem, rfl⟩
      exact .inl (List.mem_append_right _ (mem_pendingOf.mp kept).1)

/-- A transaction that had no permanent rows has all the new ones. -/
theorem committed_eq_append (frame : Frame tx t t') (nothing : t.committedOf tx = []) :
    t'.committed = t.committed ++ t'.committedOf tx := by
  obtain ⟨new, grown, own⟩ := frame.committed
  have all : new.filter (fun row => row.xmin = tx) = new :=
    List.filter_eq_self.mpr fun row mem => decide_eq_true (own row mem)
  rw [Table.committedOf, grown, List.filter_append, all, ← Table.committedOf, nothing,
    List.nil_append]

/-- The permanent rows of another transaction are the same. -/
theorem committedOf (frame : Frame tx t t') {other : ℕ} (different : other ≠ tx) :
    t'.committedOf other = t.committedOf other := by
  obtain ⟨new, heq, own⟩ := frame.committed
  have none_new : new.filter (fun row => decide (row.xmin = other)) = [] := by
    rw [List.filter_eq_nil_iff]
    intro row mem
    rw [own row mem, decide_eq_true_eq]
    exact different.symm
  rw [Table.committedOf, heq, List.filter_append, none_new, List.append_nil, Table.committedOf]

end Frame

/-- A commit makes the pending rows of the transaction permanent. -/
theorem committedOf_commit (t : Table ρ) (tx : ℕ) :
    (t.commit tx).committedOf tx = t.committedOf tx ++ t.pendingOf tx := by
  rw [committedOf, commit_committed, List.filter_append, ← committedOf]
  congr 1
  refine List.filter_eq_self.mpr fun row mem => ?_
  exact decide_eq_true (mem_pendingOf.mp mem).2

/-- A transaction that has ended has no pending rows. -/
theorem pendingOf_commit (t : Table ρ) (tx : ℕ) : (t.commit tx).pendingOf tx = [] := by
  rw [List.eq_nil_iff_forall_not_mem]
  intro row mem
  obtain ⟨kept, own⟩ := mem_pendingOf.mp mem
  exact (mem_commit_pending.mp kept).2 own

theorem pendingOf_rollback (t : Table ρ) (tx : ℕ) : (t.rollback tx).pendingOf tx = [] := by
  rw [List.eq_nil_iff_forall_not_mem]
  intro row mem
  obtain ⟨kept, own⟩ := mem_pendingOf.mp mem
  exact (mem_rollback_pending.mp kept).2 own

theorem pendingOf_insert (t : Table ρ) (tx : ℕ) (values : ρ) :
    (t.insert tx values).pendingOf tx = t.pendingOf tx ++ [⟨t.lastId + 1, tx, values⟩] := by
  rw [pendingOf, insert_pending, List.filter_append, ← pendingOf]
  simp

end Table

end Database
