import WebhookMonitor.Records.Lifecycle

/-!
# A table whose rows are locked

The rows of a table that transactions insert and update under READ COMMITTED.  What
a transaction has written is pending until it ends; a pending version locks its row,
so that another transaction that wants to write the row waits.  A statement that has
waited looks at the row as it is then.

* `visible` — the rows a statement of a transaction sees;
* `Locked` — another transaction has a pending version under the key;
* `Sound` — for the rows of a `Lifecycle`: the committed ones are a sound book, a
  pending version opens a new row or closes a committed one, and no two pending
  versions have the same key;
* `Sound.write`, `Sound.rollback`, `Sound.commit` — every operation keeps it, a write
  because it waits for locks;
* `Sound.commit_step` — a commit is one change of the book of committed rows;
* `All` — a property of every row, which every operation keeps when it holds of what is
  written.
-/

namespace Database

open Records

variable {α κ : Type}

/-- What a transaction has written under a key. -/
inductive Version (α : Type) where
  | inserted (row : α)
  | updated (row : α)

def Version.row : Version α → α
  | .inserted row | .updated row => row

/-- The committed rows, and the versions of the transactions under way. -/
structure LockedTable (α : Type) where
  committed : List α
  pending : List (ℕ × Version α)

namespace LockedTable

/-- A new table. -/
def empty : LockedTable α := ⟨[], []⟩

/-- The pending versions of a transaction. -/
def versionsOf (t : LockedTable α) (tx : ℕ) : List (Version α) :=
  (t.pending.filter fun v => v.1 = tx).map Prod.snd

/-- A write that does not wait. -/
def write (t : LockedTable α) (tx : ℕ) (v : Version α) : LockedTable α :=
  { t with pending := t.pending ++ [(tx, v)] }

/-- The versions of the transaction disappear. -/
def rollback (t : LockedTable α) (tx : ℕ) : LockedTable α :=
  { t with pending := t.pending.filter fun v => v.1 ≠ tx }

/-- Another transaction has a pending version under the key. -/
def Locked (key : α → κ) (t : LockedTable α) (tx : ℕ) (k : κ) : Prop :=
  ∃ v ∈ t.pending, v.1 ≠ tx ∧ key v.2.row = k

instance [DecidableEq κ] (key : α → κ) (t : LockedTable α) (tx : ℕ) (k : κ) :
    Decidable (Locked key t tx k) := by
  unfold Locked
  infer_instance

section Keyed

variable [DecidableEq κ] (key : α → κ)

/-- The rows after a write. -/
def apply (rows : List α) : Version α → List α
  | .inserted row => row :: rows
  | .updated row => replace key (key row) row rows

/-- The rows a statement of a transaction sees. -/
def visible (t : LockedTable α) (tx : ℕ) : List α := (t.versionsOf tx).foldl (apply key) t.committed

/-- What the transaction has written becomes permanent. -/
def commit (t : LockedTable α) (tx : ℕ) : LockedTable α :=
  { committed := t.visible key tx, pending := t.pending.filter fun v => v.1 ≠ tx }

end Keyed

variable {t : LockedTable α} {tx tx' : ℕ} {v : Version α}

/-! ## The versions of each transaction -/

theorem mem_versionsOf : v ∈ t.versionsOf tx ↔ (tx, v) ∈ t.pending := by
  unfold versionsOf
  constructor
  · intro mem
    obtain ⟨⟨tx', v'⟩, hv, rfl⟩ := List.mem_map.mp mem
    obtain ⟨there, own⟩ := List.mem_filter.mp hv
    obtain rfl : tx' = tx := of_decide_eq_true own
    exact there
  · intro mem
    exact List.mem_map.mpr ⟨(tx, v), List.mem_filter.mpr ⟨mem, decide_eq_true rfl⟩, rfl⟩

theorem versionsOf_write_self : (t.write tx v).versionsOf tx = t.versionsOf tx ++ [v] := by
  simp [versionsOf, write]

theorem versionsOf_write_of_ne (other : tx' ≠ tx) :
    (t.write tx v).versionsOf tx' = t.versionsOf tx' := by
  simp [versionsOf, write, Ne.symm other]

theorem versionsOf_filter_self :
    ((t.pending.filter fun v => v.1 ≠ tx).filter fun v => v.1 = tx) = [] := by
  rw [List.filter_filter, List.filter_eq_nil_iff]
  intro v _
  simp

theorem versionsOf_filter_of_ne (other : tx' ≠ tx) :
    ((t.pending.filter fun v => v.1 ≠ tx).filter fun v => v.1 = tx') =
      t.pending.filter fun v => v.1 = tx' := by
  rw [List.filter_filter]
  refine List.filter_congr fun v _ => ?_
  by_cases own : v.1 = tx'
  · simp [own, other]
  · simp [own]

@[simp] theorem versionsOf_rollback_self : (t.rollback tx).versionsOf tx = [] := by
  rw [versionsOf, rollback, versionsOf_filter_self, List.map_nil]

theorem versionsOf_rollback_of_ne (other : tx' ≠ tx) :
    (t.rollback tx).versionsOf tx' = t.versionsOf tx' := by
  rw [versionsOf, rollback, versionsOf_filter_of_ne other, versionsOf]

/-- A row that nobody has locked, and the transaction itself has not written. -/
theorem key_free {key : α → κ} (nothing : t.versionsOf tx = []) {k : κ}
    (free : ¬ Locked key t tx k) :
    k ∉ t.pending.map fun v => key v.2.row := by
  intro mem
  obtain ⟨⟨tx', v⟩, hv, named⟩ := List.mem_map.mp mem
  by_cases own : tx' = tx
  · subst own
    have := mem_versionsOf.mpr hv
    rw [nothing] at this
    cases this
  · exact free ⟨(tx', v), hv, own, named⟩

section Keyed

variable [DecidableEq κ] {key : α → κ}

@[simp] theorem versionsOf_commit_self : (t.commit key tx).versionsOf tx = [] := by
  rw [versionsOf, commit, versionsOf_filter_self, List.map_nil]

theorem versionsOf_commit_of_ne (other : tx' ≠ tx) :
    (t.commit key tx).versionsOf tx' = t.versionsOf tx' := by
  rw [versionsOf, commit, versionsOf_filter_of_ne other, versionsOf]

/-- A transaction that has written nothing sees the committed rows. -/
theorem visible_of_none (nothing : t.versionsOf tx = []) : t.visible key tx = t.committed := by
  rw [visible, nothing, List.foldl_nil]

/-- A transaction that is alone, with one write. -/
theorem commit_write_alone {rows : List α} :
    ((⟨rows, []⟩ : LockedTable α).write tx v).commit key tx = ⟨apply key rows v, []⟩ := by
  have own : ((⟨rows, []⟩ : LockedTable α).write tx v).versionsOf tx = [v] := versionsOf_write_self
  have none :
      ((⟨rows, []⟩ : LockedTable α).write tx v).pending.filter (fun w => w.1 ≠ tx) = [] := by
    simp [write]
  rw [commit, visible, own, none]
  rfl

theorem visible_of_one (one : t.versionsOf tx = [v]) :
    t.visible key tx = apply key t.committed v := by
  rw [visible, one, List.foldl_cons, List.foldl_nil]

end Keyed

/-! ## Sound tables -/

variable {L : Lifecycle α κ}

/-- The committed rows as a book. -/
def book (L : Lifecycle α κ) (t : LockedTable α) : Book α κ :=
  ⟨t.committed, {k | k ∈ t.committed.map L.key}⟩

/-- A version that opens a new row or closes a committed one. -/
def IsChange (L : Lifecycle α κ) (rows : List α) : Version α → Prop
  | .inserted row => L.Opens row ∧ L.key row ∉ rows.map L.key
  | .updated row => ∃ old ∈ rows, L.Closes old row

structure Sound (L : Lifecycle α κ) (t : LockedTable α) : Prop where
  book : Records.Sound L (t.book L)
  changes : ∀ v ∈ t.pending, IsChange L t.committed v.2
  locks : (t.pending.map fun v => L.key v.2.row).Nodup

theorem sound_empty : Sound L (empty : LockedTable α) where
  book := ⟨List.nodup_nil, fun _ mem => absurd mem List.not_mem_nil,
    fun _ mem => absurd mem List.not_mem_nil⟩
  changes _ mem := absurd mem List.not_mem_nil
  locks := List.nodup_nil

namespace Sound

theorem write (sound : Sound L t) (change : IsChange L t.committed v)
    (free : L.key v.row ∉ t.pending.map fun v => L.key v.2.row) (tx : ℕ) :
    Sound L (t.write tx v) := by
  refine ⟨sound.book, ?_, ?_⟩
  · intro v' mem
    rcases List.mem_append.mp mem with mem | mem
    · exact sound.changes v' mem
    · obtain rfl := List.mem_singleton.mp mem
      exact change
  · unfold LockedTable.write
    rw [List.map_append]
    refine List.nodup_append.mpr ⟨sound.locks, List.nodup_singleton _, fun k mem k' mem' => ?_⟩
    obtain rfl := List.mem_singleton.mp mem'
    rintro rfl
    exact free mem

theorem rollback (sound : Sound L t) (tx : ℕ) : Sound L (t.rollback tx) :=
  ⟨sound.book, fun v mem => sound.changes v (List.mem_filter.mp mem).1,
    sound.locks.sublist (List.filter_sublist.map _)⟩

/-- Versions of different transactions have different keys. -/
theorem key_ne (sound : Sound L t) {v' : Version α} (mem : (tx, v) ∈ t.pending)
    (mem' : (tx', v') ∈ t.pending) (other : tx' ≠ tx) : L.key v'.row ≠ L.key v.row := by
  intro same
  have := List.inj_on_of_nodup_map sound.locks mem' mem same
  exact other (congrArg Prod.fst this)

variable [DecidableEq κ]

/-- What a commit does to the committed rows. -/
theorem commit_step (sound : Sound L t) (versions : t.versionsOf tx = [v]) :
    Step L (t.book L) (match v with
      | .inserted _ => none
      | .updated row => some (L.key row)) ((t.commit L.key tx).book L) := by
  have mem : (tx, v) ∈ t.pending := by
    rw [← mem_versionsOf, versions]
    exact List.mem_singleton_self v
  have change := sound.changes _ mem
  have after : (t.commit L.key tx).committed = apply L.key t.committed v :=
    visible_of_one versions
  cases v with
  | inserted row =>
      obtain ⟨opens, fresh⟩ := change
      have opened := Step.opened (b := t.book L) opens fresh (List.Sublist.refl _)
      have used :
          insert (L.key row) (t.book L).used = {k | k ∈ (row :: t.committed).map L.key} := by
        ext k
        exact List.mem_cons.symm
      unfold LockedTable.book
      rw [after]
      exact used ▸ opened
  | updated row =>
      obtain ⟨old, present, closes⟩ := change
      have named := L.key_of_closes closes
      have closed := Step.closed (b := t.book L) present closes
      rw [← named] at closed
      unfold LockedTable.book
      rw [after]
      unfold apply
      rw [map_key_replace rfl]
      exact closed

theorem committed_of_none (nothing : t.versionsOf tx = []) :
    (t.commit L.key tx).committed = t.committed := visible_of_none nothing

theorem commit (sound : Sound L t) (versions : (t.versionsOf tx).length ≤ 1) :
    Sound L (t.commit L.key tx) := by
  have locks : ((t.commit L.key tx).pending.map fun v => L.key v.2.row).Nodup :=
    sound.locks.sublist (List.filter_sublist.map _)
  cases hversions : t.versionsOf tx with
  | nil =>
      -- a transaction that wrote nothing leaves the committed rows as they are
      have same : (t.commit L.key tx).committed = t.committed := committed_of_none hversions
      refine ⟨?_, fun v mem => ?_, locks⟩
      · unfold LockedTable.book
        rw [same]
        exact sound.book
      · rw [same]
        exact sound.changes v (List.mem_filter.mp mem).1
  | cons w rest =>
      rw [hversions, List.length_cons] at versions
      obtain rfl : rest = [] := List.length_eq_zero_iff.mp (by omega)
      refine ⟨sound.book.step (sound.commit_step hversions), ?_, locks⟩
      rintro ⟨tx', v'⟩ mem
      obtain ⟨mem, other⟩ := List.mem_filter.mp mem
      have other : tx' ≠ tx := of_decide_eq_true other
      have own : (tx, w) ∈ t.pending := by
        rw [← mem_versionsOf, hversions]
        exact List.mem_singleton_self w
      have differs := sound.key_ne own mem other
      have change := sound.changes _ mem
      have after : (t.commit L.key tx).committed = apply L.key t.committed w :=
        visible_of_one hversions
      rw [after]
      -- what another transaction has pending still applies: its key is another
      cases w with
      | inserted row =>
          cases v' with
          | inserted row' =>
              refine ⟨change.1, ?_⟩
              rw [apply, List.map_cons, List.mem_cons]
              rintro (same | old)
              · exact differs same
              · exact change.2 old
          | updated row' =>
              obtain ⟨old, present, closes⟩ := change
              exact ⟨old, List.mem_cons_of_mem _ present, closes⟩
      | updated row =>
          cases v' with
          | inserted row' =>
              refine ⟨change.1, ?_⟩
              rw [apply, map_key_replace rfl]
              exact change.2
          | updated row' =>
              obtain ⟨old, present, closes⟩ := change
              refine ⟨old, mem_replace_of_ne present ?_, closes⟩
              rw [← L.key_of_closes closes]
              exact differs

end Sound

/-! ## What holds of every row -/

/-- Every row has the property, the committed ones and the pending ones. -/
structure All (P : α → Prop) (t : LockedTable α) : Prop where
  committed : ∀ row ∈ t.committed, P row
  pending : ∀ v ∈ t.pending, P v.2.row

namespace All

variable {P : α → Prop}

theorem empty : All P (.empty : LockedTable α) :=
  ⟨fun _ mem => absurd mem List.not_mem_nil, fun _ mem => absurd mem List.not_mem_nil⟩

theorem write (all : All P t) (holds : P v.row) (tx : ℕ) : All P (t.write tx v) := by
  refine ⟨all.committed, fun w mem => ?_⟩
  rcases List.mem_append.mp mem with mem | mem
  · exact all.pending w mem
  · rw [List.mem_singleton.mp mem]
    exact holds

theorem rollback (all : All P t) (tx : ℕ) : All P (t.rollback tx) :=
  ⟨all.committed, fun v mem => all.pending v (List.mem_filter.mp mem).1⟩

variable [DecidableEq κ] {key : α → κ}

theorem apply {rows : List α} (holds : ∀ row ∈ rows, P row) (new : P v.row) :
    ∀ row ∈ LockedTable.apply key rows v, P row := by
  intro row mem
  cases v with
  | inserted first =>
      rcases List.mem_cons.mp mem with rfl | mem
      · exact new
      · exact holds row mem
  | updated changed =>
      rcases mem_replace mem with rfl | ⟨mem, -⟩
      · exact new
      · exact holds row mem

/-- What a statement sees has the property. -/
theorem visible (all : All P t) (tx : ℕ) : ∀ row ∈ t.visible key tx, P row := by
  have versions : ∀ v ∈ t.versionsOf tx, P v.row := fun v mem =>
    all.pending (tx, v) (mem_versionsOf.mp mem)
  have folded (vs : List (Version α)) (rows : List α) (each : ∀ v ∈ vs, P v.row)
      (holds : ∀ row ∈ rows, P row) : ∀ row ∈ vs.foldl (LockedTable.apply key) rows, P row := by
    induction vs generalizing rows with
    | nil => exact holds
    | cons v vs ih =>
        rw [List.forall_mem_cons] at each
        exact ih _ each.2 (apply holds each.1)
  exact folded _ _ versions all.committed

theorem commit (all : All P t) (tx : ℕ) : All P (t.commit key tx) :=
  ⟨all.visible tx, fun v mem => all.pending v (List.mem_filter.mp mem).1⟩

end All

end LockedTable

end Database
