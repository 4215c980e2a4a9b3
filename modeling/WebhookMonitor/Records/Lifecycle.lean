import Mathlib.Data.List.Nodup
import Mathlib.Data.Set.Insert

/-!
# Records that are opened once and closed once

A book of records under keys.  A record is entered open, under a key that was never
used before, and may be closed once; records may be dropped when one is entered.

* `Lifecycle` — what an open record is, and what closes one;
* `Step` — one change of a book, labelled with the key it closes;
* `Sound` — the keys are distinct and used, and every record was once opened;
* `Step.row` — where a record comes from;
* `Run.row` — over any number of changes a record stays as it was, or was closed;
* `Run.nodup` — no key is closed twice.
-/

namespace Records

variable {α κ : Type}

/-- The records with `new` in the place of those under the key. -/
def replace [DecidableEq κ] (key : α → κ) (k : κ) (new : α) (rows : List α) : List α :=
  rows.map fun a => if key a = k then new else a

section Replace

variable [DecidableEq κ] {key : α → κ} {k : κ} {new a : α} {rows : List α}

theorem mem_replace (mem : a ∈ replace key k new rows) : a = new ∨ (a ∈ rows ∧ key a ≠ k) := by
  obtain ⟨old, hold, heq⟩ := List.mem_map.mp mem
  by_cases named : key old = k
  · rw [if_pos named] at heq
    exact .inl heq.symm
  · rw [if_neg named] at heq
    exact .inr ⟨heq ▸ hold, heq ▸ named⟩

theorem mem_replace_of_ne (mem : a ∈ rows) (other : key a ≠ k) : a ∈ replace key k new rows :=
  List.mem_map.mpr ⟨a, mem, if_neg other⟩

theorem mem_replace_self (mem : a ∈ rows) (named : key a = k) : new ∈ replace key k new rows :=
  List.mem_map.mpr ⟨a, mem, if_pos named⟩

theorem map_key_replace (named : key new = k) :
    (replace key k new rows).map key = rows.map key := by
  rw [replace, List.map_map]
  refine List.map_congr_left fun a _ => ?_
  rw [Function.comp_apply]
  split_ifs with h
  · rw [named, h]
  · rfl

end Replace

/-- What an open record is, and which record closes which. -/
structure Lifecycle (α κ : Type) where
  key : α → κ
  Opens : α → Prop
  Closes : α → α → Prop
  key_of_closes : ∀ {a b}, Closes a b → key b = key a
  opens_of_closes : ∀ {a b}, Closes a b → Opens a
  not_opens_of_closes : ∀ {a b}, Closes a b → ¬ Opens b

/-- The records, and the keys that were ever used. -/
structure Book (α κ : Type) where
  rows : List α
  used : Set κ

variable [DecidableEq κ] (L : Lifecycle α κ)

/-- One change, with the key it closes. -/
inductive Step : Book α κ → Option κ → Book α κ → Prop where
  | opened {b : Book α κ} {a : α} {rows' : List α} (opens : L.Opens a) (fresh : L.key a ∉ b.used)
      (kept : rows'.Sublist (a :: b.rows)) : Step b none ⟨rows', insert (L.key a) b.used⟩
  | closed {b : Book α κ} {old new : α} (present : old ∈ b.rows) (closes : L.Closes old new) :
      Step b (some (L.key old)) ⟨replace L.key (L.key old) new b.rows, b.used⟩
  | skipped {b : Book α κ} : Step b none b

/-- Any number of changes, with the keys they close. -/
inductive Run : Book α κ → List κ → Book α κ → Prop where
  | refl (b : Book α κ) : Run b [] b
  | snoc {b b' b'' : Book α κ} {keys : List κ} {k : Option κ} (run : Run b keys b')
      (step : Step L b' k b'') : Run b (keys ++ k.toList) b''

/-- The keys are distinct and used; every record was once opened. -/
structure Sound (b : Book α κ) : Prop where
  distinct : (b.rows.map L.key).Nodup
  used : ∀ a ∈ b.rows, L.key a ∈ b.used
  born : ∀ a ∈ b.rows, L.Opens a ∨ ∃ old, L.Closes old a

variable {L} {b b' b'' : Book α κ} {k : Option κ} {keys : List κ}

/-- Where a record comes from: it was opened, it was there, or it closes one that was
there. -/
theorem Step.row (step : Step L b k b') {a' : α} (mem : a' ∈ b'.rows) :
    (L.Opens a' ∧ L.key a' ∉ b.used) ∨ a' ∈ b.rows ∨
      ∃ a ∈ b.rows, L.Closes a a' ∧ k = some (L.key a) := by
  cases step with
  | opened opens fresh kept =>
      rcases List.mem_cons.mp (kept.subset mem) with rfl | mem
      · exact .inl ⟨opens, fresh⟩
      · exact .inr (.inl mem)
  | closed present closes =>
      rcases mem_replace mem with rfl | ⟨mem, -⟩
      · exact .inr (.inr ⟨_, present, closes, rfl⟩)
      · exact .inr (.inl mem)
  | skipped => exact .inr (.inl mem)

theorem Step.used_subset (step : Step L b k b') : b.used ⊆ b'.used := by
  cases step with
  | opened => exact Set.subset_insert _ _
  | closed | skipped => exact subset_rfl

theorem Sound.step (sound : Sound L b) (step : Step L b k b') : Sound L b' := by
  cases step with
  | @opened a rows' opens fresh kept =>
      have distinct : ((a :: b.rows).map L.key).Nodup := by
        rw [List.map_cons, List.nodup_cons]
        refine ⟨fun mem => ?_, sound.distinct⟩
        obtain ⟨other, hother, same⟩ := List.mem_map.mp mem
        exact fresh (same ▸ sound.used other hother)
      refine ⟨distinct.sublist (kept.map _), fun other mem => ?_, fun other mem => ?_⟩
      · rcases List.mem_cons.mp (kept.subset mem) with rfl | mem
        · exact Set.mem_insert _ _
        · exact Set.mem_insert_of_mem _ (sound.used other mem)
      · rcases List.mem_cons.mp (kept.subset mem) with rfl | mem
        · exact .inl opens
        · exact sound.born other mem
  | @closed old new present closes =>
      have named := L.key_of_closes closes
      refine ⟨?_, fun other mem => ?_, fun other mem => ?_⟩
      · rw [map_key_replace named]
        exact sound.distinct
      · rcases mem_replace mem with rfl | ⟨mem, -⟩
        · exact named ▸ sound.used old present
        · exact sound.used other mem
      · rcases mem_replace mem with rfl | ⟨mem, -⟩
        · exact .inr ⟨old, closes⟩
        · exact sound.born other mem
  | skipped => exact sound

/-- A record that is not as it was is the one that was closed. -/
theorem Step.changed (sound : Sound L b) (step : Step L b k b') {a a' : α} (mem : a ∈ b.rows)
    (mem' : a' ∈ b'.rows) (same : L.key a' = L.key a) (changed : a' ≠ a) : k = some (L.key a) := by
  rcases step.row mem' with ⟨-, fresh⟩ | old | ⟨old, hold, closes, closed⟩
  · exact absurd (same ▸ sound.used a mem) fresh
  · exact absurd (List.inj_on_of_nodup_map sound.distinct old mem same) changed
  · rw [closed, ← L.key_of_closes closes, same]

/-- A key that is closed had an open record, and has none any more. -/
theorem Step.closes_key (sound : Sound L b) {key : κ} (step : Step L b (some key) b') :
    (∃ a ∈ b.rows, L.key a = key ∧ L.Opens a) ∧ key ∈ b.used ∧
      ∀ a' ∈ b'.rows, L.key a' = key → ¬ L.Opens a' := by
  cases step with
  | closed present closes =>
      refine ⟨⟨_, present, rfl, L.opens_of_closes closes⟩, sound.used _ present, ?_⟩
      intro a' mem named
      rcases mem_replace mem with rfl | ⟨-, other⟩
      · exact L.not_opens_of_closes closes
      · exact absurd named other

/-- A used key without an open record never has one again. -/
theorem Step.stays_closed (step : Step L b k b') {key : κ}
    (used : key ∈ b.used) (closed : ∀ a ∈ b.rows, L.key a = key → ¬ L.Opens a) :
    ∀ a' ∈ b'.rows, L.key a' = key → ¬ L.Opens a' := by
  rintro a' mem rfl
  rcases step.row mem with ⟨-, fresh⟩ | mem | ⟨a, mem, closes, -⟩
  · exact absurd used fresh
  · exact closed a' mem rfl
  · exact L.not_opens_of_closes closes

namespace Run

theorem used_subset (run : Run L b keys b') : b.used ⊆ b'.used := by
  induction run with
  | refl => exact subset_rfl
  | snoc _ step ih => exact ih.trans step.used_subset

theorem sound (run : Run L b keys b') (sound : Sound L b) : Sound L b' := by
  induction run with
  | refl => exact sound
  | snoc _ step ih => exact ih.step step

theorem trans {keys' : List κ} (first : Run L b keys b') (second : Run L b' keys' b'') :
    Run L b (keys ++ keys') b'' := by
  induction second with
  | refl =>
      rw [List.append_nil]
      exact first
  | snoc _ step ih =>
      rw [← List.append_assoc]
      exact ih.snoc step

/-- Over a run a record under an old key stays as it was, or was closed. -/
theorem row (run : Run L b keys b') {a' : α} (mem : a' ∈ b'.rows) :
    L.key a' ∉ b.used ∨ a' ∈ b.rows ∨ ∃ a ∈ b.rows, L.Closes a a' := by
  induction run generalizing a' with
  | refl => exact .inr (.inl mem)
  | snoc run step ih =>
      rcases step.row mem with ⟨-, fresh⟩ | mem | ⟨a, mem, closes, -⟩
      · exact .inl fun old => fresh (run.used_subset old)
      · exact ih mem
      · rcases ih mem with fresh | mem | ⟨a₀, mem₀, closes₀⟩
        · exact .inl (L.key_of_closes closes ▸ fresh)
        · exact .inr (.inr ⟨a, mem, closes⟩)
        -- what is closed is not open, so it is not closed again
        · exact absurd (L.opens_of_closes closes) (L.not_opens_of_closes closes₀)

/-- The same, for two records under one key. -/
theorem follows (run : Run L b keys b') (sound : Sound L b) {a a' : α} (mem : a ∈ b.rows)
    (mem' : a' ∈ b'.rows) (same : L.key a' = L.key a) : a' = a ∨ L.Closes a a' := by
  have unique : ∀ other ∈ b.rows, L.key other = L.key a → other = a := fun other hother named =>
    List.inj_on_of_nodup_map sound.distinct hother mem named
  rcases run.row mem' with fresh | old | ⟨old, hold, closes⟩
  · exact absurd (same ▸ sound.used a mem) fresh
  · exact .inl (unique a' old same)
  · obtain rfl := unique old hold ((L.key_of_closes closes).symm.trans same)
    exact .inr closes

/-- What was closed in a run is closed after it. -/
theorem closed_after (run : Run L b keys b') (sound : Sound L b) {key : κ} (mem : key ∈ keys) :
    key ∈ b'.used ∧ ∀ a' ∈ b'.rows, L.key a' = key → ¬ L.Opens a' := by
  induction run with
  | refl => cases mem
  | @snoc b₁ b₂ keys k run step ih =>
      have sound₁ := run.sound sound
      rcases List.mem_append.mp mem with mem | mem
      · obtain ⟨used, closed⟩ := ih mem
        exact ⟨step.used_subset used, step.stays_closed used closed⟩
      · obtain rfl := Option.mem_toList.mp mem
        obtain ⟨-, used, closed⟩ := step.closes_key sound₁
        exact ⟨step.used_subset used, closed⟩

/-- No key is closed twice. -/
theorem nodup (run : Run L b keys b') (sound : Sound L b) : keys.Nodup := by
  induction run with
  | refl => exact List.nodup_nil
  | @snoc b₁ b₂ keys k run step ih =>
      cases k with
      | none =>
          rw [Option.toList_none, List.append_nil]
          exact ih
      | some key =>
          rw [Option.toList_some]
          refine List.nodup_append.mpr ⟨ih, List.nodup_singleton _, fun k' mem k'' mem' => ?_⟩
          obtain rfl := List.mem_singleton.mp mem'
          rintro rfl
          obtain ⟨⟨a, present, named, opens⟩, -⟩ := step.closes_key (run.sound sound)
          exact (run.closed_after sound mem).2 a present named opens

end Run

end Records
