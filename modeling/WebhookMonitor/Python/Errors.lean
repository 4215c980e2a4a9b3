import Mathlib.Tactic.Basic

/-!
# Built-in exceptions

The exception classes of the language that library calls raise here, without
their messages.  The class hierarchy matters only through `except ValueError`,
which also catches the Unicode, JSON and base64 errors.
-/

namespace Python

/-- A built-in (or standard-library) exception class. -/
inductive BuiltinError where
  | typeError
  | valueError
  | unicodeDecodeError
  | unicodeEncodeError
  | jsonDecodeError
  | binasciiError
  | keyError
  | attributeError
  | overflowError
  | recursionError
  deriving DecidableEq, Repr

/-- `ValueError` and its subclasses. -/
def BuiltinError.isValueError : BuiltinError → Bool
  | .valueError | .unicodeDecodeError | .unicodeEncodeError | .jsonDecodeError
  | .binasciiError => true
  | _ => false

/-- A fallible library call seen as `Option` elsewhere, with its exception. -/
def orRaise {α : Type} (e : BuiltinError) : Option α → Except BuiltinError α
  | some a => .ok a
  | none => .error e

@[simp] theorem orRaise_some {α : Type} (e : BuiltinError) (a : α) :
    orRaise e (some a) = .ok a := rfl

@[simp] theorem orRaise_none {α : Type} (e : BuiltinError) :
    orRaise e (none : Option α) = .error e := rfl

theorem orRaise_eq_ok {α : Type} {e : BuiltinError} {o : Option α} {a : α} :
    orRaise e o = .ok a ↔ o = some a := by
  cases o with
  | none => exact ⟨nofun, nofun⟩
  | some b => exact ⟨fun h => (by cases h; rfl), fun h => (by cases h; rfl)⟩

/-! ## Sequences of fallible steps -/

section Sequence

variable {ε α β : Type} {x : Except ε α} {f : α → Except ε β}

theorem ok_bind {a : α} : ((.ok a : Except ε α) >>= f) = f a := rfl

/-- A sequence succeeds when its first step does and the rest after it. -/
theorem bind_eq_ok {b : β} : (x >>= f) = .ok b ↔ ∃ a, x = .ok a ∧ f a = .ok b := by
  cases x with
  | error e => exact ⟨fun h => (by cases h), fun ⟨_, h, _⟩ => (by cases h)⟩
  | ok a => exact ⟨fun h => ⟨a, rfl, h⟩, fun ⟨_, h, rest⟩ => (by cases h; exact rest)⟩

theorem map_eq_ok {g : α → β} {b : β} : x.map g = .ok b ↔ ∃ a, x = .ok a ∧ g a = b := by
  cases x with
  | error e => exact ⟨fun h => (by cases h), fun ⟨_, h, _⟩ => (by cases h)⟩
  | ok a =>
      exact ⟨fun h => ⟨a, rfl, Except.ok.inj h⟩, fun ⟨_, h, rest⟩ => (by cases h; rw [← rest]; rfl)⟩

theorem mapError_eq_ok {ε' : Type} {g : ε → ε'} {a : α} : x.mapError g = .ok a ↔ x = .ok a := by
  cases x with
  | error e => exact ⟨fun h => (by cases h), fun h => (by cases h)⟩
  | ok b => exact ⟨fun h => Except.ok.inj h ▸ rfl, fun h => Except.ok.inj h ▸ rfl⟩

/-- A sequence raises what its first step raises, or the rest after it. -/
theorem bind_eq_error {e : ε} :
    (x >>= f) = .error e ↔ x = .error e ∨ ∃ a, x = .ok a ∧ f a = .error e := by
  cases x with
  | error e' =>
      constructor
      · intro h
        cases h
        exact .inl rfl
      · rintro (h | ⟨_, h, -⟩)
        · cases h
          rfl
        · cases h
  | ok a =>
      constructor
      · intro h
        exact .inr ⟨a, rfl, h⟩
      · rintro (h | ⟨_, h, rest⟩)
        · cases h
        · cases h
          exact rest

theorem map_eq_error {g : α → β} {e : ε} : x.map g = .error e ↔ x = .error e := by
  cases x with
  | error e' => exact ⟨fun h => (by cases h; rfl), fun h => (by cases h; rfl)⟩
  | ok a => exact ⟨nofun, nofun⟩

/-- What the steps of a list return is returned by one of them. -/
theorem mem_of_mapM_eq_ok {xs : List α} {ys : List β} {b : β} (returned : xs.mapM f = .ok ys)
    (mem : b ∈ ys) : ∃ a ∈ xs, f a = .ok b := by
  induction xs generalizing ys with
  | nil =>
      cases returned
      cases mem
  | cons a rest ih =>
      rw [List.mapM_cons] at returned
      obtain ⟨b', first, returned⟩ := bind_eq_ok.mp returned
      obtain ⟨ys', others, returned⟩ := bind_eq_ok.mp returned
      cases returned
      rcases List.mem_cons.mp mem with rfl | mem
      · exact ⟨a, List.mem_cons_self, first⟩
      · obtain ⟨a', there, read⟩ := ih others mem
        exact ⟨a', List.mem_cons_of_mem a there, read⟩

/-- The steps of a list raise what the first failing one raises. -/
theorem mapM_eq_error {xs : List α} {e : ε} :
    xs.mapM f = .error e ↔
      ∃ before a after, xs = before ++ a :: after ∧ (∀ a' ∈ before, ∃ b, f a' = .ok b) ∧
        f a = .error e := by
  induction xs with
  | nil => exact ⟨nofun, fun ⟨before, a, after, split, _⟩ => (by cases before <;> cases split)⟩
  | cons a rest ih =>
      rw [List.mapM_cons, bind_eq_error]
      constructor
      · rintro (raised | ⟨b, returned, raised⟩)
        · exact ⟨[], a, rest, rfl, fun _ mem => (by cases mem), raised⟩
        · rcases bind_eq_error.mp raised with raised | ⟨_, _, raised⟩
          · obtain ⟨before, a', after, rfl, passed, raised⟩ := ih.mp raised
            refine ⟨a :: before, a', after, rfl, ?_, raised⟩
            intro a'' mem
            rcases List.mem_cons.mp mem with rfl | mem
            · exact ⟨b, returned⟩
            · exact passed a'' mem
          · cases raised
      · rintro ⟨before, a', after, split, passed, raised⟩
        cases before with
        | nil =>
            cases split
            exact .inl raised
        | cons a'' before =>
            cases split
            obtain ⟨b, returned⟩ := passed a List.mem_cons_self
            have later := ih.mpr ⟨before, a', after, rfl,
              fun a' mem => passed a' (List.mem_cons_of_mem _ mem), raised⟩
            exact .inr ⟨b, returned, bind_eq_error.mpr (.inl later)⟩

end Sequence

/-! ## The exceptions of a step -/

/-- Whatever the step raises satisfies `P`. -/
def RaisesOnly {ε α : Type} (P : ε → Prop) (x : Except ε α) : Prop := ∀ e, x = .error e → P e

namespace RaisesOnly

variable {ε α β : Type} {P Q : ε → Prop} {x : Except ε α} {f : α → Except ε β}

theorem ok {a : α} : RaisesOnly P (.ok a : Except ε α) := nofun

theorem error {e : ε} (h : P e) : RaisesOnly P (.error e : Except ε α) := by
  intro e' same
  cases same
  exact h

theorem bind (first : RaisesOnly P x) (rest : ∀ a, x = .ok a → RaisesOnly P (f a)) :
    RaisesOnly P (x >>= f) := by
  intro e raised
  rcases bind_eq_error.mp raised with raised | ⟨a, returned, raised⟩
  · exact first e raised
  · exact rest a returned e raised

theorem map {g : α → β} (first : RaisesOnly P x) : RaisesOnly P (x.map g) := by
  intro e raised
  cases x with
  | ok a => cases raised
  | error e' =>
      cases raised
      exact first _ rfl

theorem ite {c : Prop} [Decidable c] {y : Except ε α} (yes : c → RaisesOnly P x)
    (no : ¬c → RaisesOnly P y) : RaisesOnly P (if c then x else y) := by
  by_cases h : c
  · rw [if_pos h]
    exact yes h
  · rw [if_neg h]
    exact no h

theorem mono (first : RaisesOnly P x) (weaker : ∀ e, P e → Q e) : RaisesOnly Q x :=
  fun e raised => weaker e (first e raised)

theorem orRaise {P : BuiltinError → Prop} {e : BuiltinError} {o : Option α} (h : P e) :
    RaisesOnly P (orRaise e o) := by
  cases o with
  | none => exact error h
  | some a => exact ok

/-- The steps of a list, one after another. -/
theorem mapM {xs : List α} (each : ∀ a ∈ xs, RaisesOnly P (f a)) : RaisesOnly P (xs.mapM f) := by
  induction xs with
  | nil => exact ok
  | cons a rest ih =>
      rw [List.mapM_cons]
      refine (each a List.mem_cons_self).bind fun b _ => ?_
      refine (ih fun a mem => each a (List.mem_cons_of_mem _ mem)).bind fun bs _ => ?_
      exact ok

end RaisesOnly

end Python
