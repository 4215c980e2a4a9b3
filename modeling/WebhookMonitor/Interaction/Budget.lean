import Mathlib.Algebra.BigOperators.Group.List.Basic
import Mathlib.Algebra.Order.Monoid.Canonical.Defs
import WebhookMonitor.Interaction.Embedding

/-!
# What a program may spend

Every call has a cost, an element of an ordered commutative monoid: a number, or the
multiset of what the call uses up.  `CostsAtMost cost n p` says that no run of `p` costs more
than `n`, whatever the answers.

* `costsAtMost_bind`, `costsAtMost_tryCatch`, `costsAtMost_lift` — one rule for each way a
  program is put together;
* `costsAtMost_tryCatch_bind` — of a handler that always raises and of what comes after the
  program only one runs;
* `CostsAtMost.spent_le` — a run spends no more than its program may.
-/

namespace Interaction

variable {I J : Interface} {ε α β γ : Type}

/-! ## Programs that never return -/

/-- The program never returns. -/
def Raises : Program I ε α → Prop
  | .ret _ => False
  | .raise _ => True
  | .call _ k => ∀ a, Raises (k a)

/-- A sequence whose second part never returns. -/
theorem raises_bind (p : Program I ε α) {f : α → Program I ε β} (raises : ∀ a, Raises (f a)) :
    Raises (p >>= f) := by
  induction p with
  | ret a => exact raises a
  | raise e => trivial
  | call c k ih => exact fun a => ih a

/-! ## Costs -/

section Spent

variable [AddCommMonoid γ]

/-- The cost of the events of a run. -/
def spent (cost : I.Call → γ) (es : List (Event I)) : γ := (es.map fun e => cost e.call).sum

@[simp] theorem spent_nil (cost : I.Call → γ) : spent cost [] = 0 := rfl

@[simp] theorem spent_cons (cost : I.Call → γ) (e : Event I) (es : List (Event I)) :
    spent cost (e :: es) = cost e.call + spent cost es := by
  simp [spent]

end Spent

section Bounds

variable [AddCommMonoid γ] [PartialOrder γ]

/-- No run of the program costs more than `n`. -/
def CostsAtMost (cost : I.Call → γ) : γ → Program I ε α → Prop
  | _, .ret _ => True
  | _, .raise _ => True
  | n, .call c k => ∃ m, cost c + m ≤ n ∧ ∀ a, CostsAtMost cost m (k a)

variable {cost : I.Call → γ} {n m : γ}

theorem CostsAtMost.mono {p : Program I ε α} (costs : CostsAtMost cost n p) (le : n ≤ m) :
    CostsAtMost cost m p := by
  cases p with
  | ret a => trivial
  | raise e => trivial
  | call c k =>
      obtain ⟨rest, first, later⟩ := costs
      exact ⟨rest, first.trans le, later⟩

/-- In a coarser measure. -/
theorem CostsAtMost.map {δ : Type} [AddCommMonoid δ] [PartialOrder δ] {p : Program I ε α}
    (costs : CostsAtMost cost n p) {f : γ → δ} (adds : ∀ a b, f (a + b) = f a + f b)
    (monotone : Monotone f) : CostsAtMost (fun c => f (cost c)) (f n) p := by
  induction p generalizing n with
  | ret a => trivial
  | raise e => trivial
  | call c k ih =>
      obtain ⟨rest, first, later⟩ := costs
      refine ⟨f rest, ?_, fun a => ih a (later a)⟩
      rw [← adds]
      exact monotone first

theorem costsAtMost_ofExcept (r : Except ε α) :
    CostsAtMost cost n (Program.ofExcept r : Program I ε α) := by
  cases r <;> trivial

/-- What comes after a computation without calls. -/
theorem costsAtMost_ofExcept_bind (r : Except ε α) {f : α → Program I ε β}
    (rest : ∀ a, CostsAtMost cost n (f a)) : CostsAtMost cost n (Program.ofExcept r >>= f) := by
  cases r with
  | ok a => exact rest a
  | error e => trivial

/-- What never returns costs the same with anything after it. -/
theorem CostsAtMost.bind_of_raises {p : Program I ε α} (costs : CostsAtMost cost n p)
    (raises : Raises p) (f : α → Program I ε β) : CostsAtMost cost n (p >>= f) := by
  induction p generalizing n with
  | ret a => exact raises.elim
  | raise e => trivial
  | call c k ih =>
      obtain ⟨rest, first, later⟩ := costs
      exact ⟨rest, first, fun a => ih a (later a) (raises a)⟩

/-- The rule of a lifted program. -/
theorem costsAtMost_lift (f : Embedding I J) {cost : J.Call → γ} {p : Program I ε α}
    (costs : CostsAtMost (fun c => cost (f.call c)) n p) : CostsAtMost cost n (f.lift p) := by
  induction p generalizing n with
  | ret a => trivial
  | raise e => trivial
  | call c k ih =>
      obtain ⟨rest, first, later⟩ := costs
      exact ⟨rest, first, fun a => ih _ (later _)⟩

end Bounds

section Rules

variable [AddCommMonoid γ] [PartialOrder γ] [IsOrderedAddMonoid γ] {cost : I.Call → γ} {n m : γ}

/-- A call within a sum of budgets. -/
theorem add_le_of_call {call rest n : γ} (first : call + rest ≤ n) (m : γ) :
    call + (rest + m) ≤ n + m := by
  rw [← add_assoc]
  gcongr

/-- What a run has spent, and what is left of it may spend, is within the budget. -/
theorem CostsAtMost.of_trace {p q : Program I ε α} {es : List (Event I)}
    (costs : CostsAtMost cost n p) (trace : Trace p es q) :
    ∃ rest, spent cost es + rest ≤ n ∧ CostsAtMost cost rest q := by
  induction trace generalizing n with
  | refl p => exact ⟨n, by rw [spent_nil, zero_add], costs⟩
  | call a _ ih =>
      obtain ⟨m, first, later⟩ := costs
      obtain ⟨rest, within, left⟩ := ih (later a)
      refine ⟨rest, ?_, left⟩
      rw [spent_cons, add_assoc]
      refine le_trans ?_ first
      gcongr

variable [CanonicallyOrderedAdd γ]

/-- The rule of sequencing. -/
theorem costsAtMost_bind {p : Program I ε α} {f : α → Program I ε β}
    (first : CostsAtMost cost n p) (second : ∀ a, CostsAtMost cost m (f a)) :
    CostsAtMost cost (n + m) (p >>= f) := by
  induction p generalizing n with
  | ret a => exact (second a).mono le_add_self
  | raise e => trivial
  | call c k ih =>
      obtain ⟨rest, call, later⟩ := first
      exact ⟨rest + m, add_le_of_call call m, fun a => ih a (later a)⟩

/-- The rule of exception handling. -/
theorem costsAtMost_tryCatch {p : Program I ε α} {handler : ε → Program I ε α}
    (body : CostsAtMost cost n p) (handles : ∀ e, CostsAtMost cost m (handler e)) :
    CostsAtMost cost (n + m) (tryCatch p handler) := by
  induction p generalizing n with
  | ret a => trivial
  | raise e => exact (handles e).mono le_add_self
  | call c k ih =>
      obtain ⟨rest, call, later⟩ := body
      exact ⟨rest + m, add_le_of_call call m, fun a => ih a (later a)⟩

/-- What comes without a call. -/
theorem CostsAtMost.bind_free {p : Program I ε α} {f : α → Program I ε β}
    (first : CostsAtMost cost n p) (free : ∀ a, CostsAtMost cost 0 (f a)) :
    CostsAtMost cost n (p >>= f) := by
  have costs : CostsAtMost cost (n + 0) (p >>= f) := costsAtMost_bind first free
  rwa [add_zero] at costs

/-- A handler that only turns one exception into another costs nothing. -/
theorem CostsAtMost.mapError {p : Program I ε α} (body : CostsAtMost cost n p) (f : ε → ε) :
    CostsAtMost cost n (tryCatch p fun e => throw (f e)) := by
  have costs : CostsAtMost cost (n + 0) (tryCatch p fun e => throw (f e)) :=
    costsAtMost_tryCatch body fun _ => trivial
  rwa [add_zero] at costs

/-- After a program whose handler always raises, either the handler runs or what comes next. -/
theorem costsAtMost_tryCatch_bind {p : Program I ε α} {handler : ε → Program I ε α}
    {f : α → Program I ε β} (body : CostsAtMost cost n p) (raises : ∀ e, Raises (handler e))
    (handles : ∀ e, CostsAtMost cost m (handler e)) (next : ∀ a, CostsAtMost cost m (f a)) :
    CostsAtMost cost (n + m) (tryCatch p handler >>= f) := by
  induction p generalizing n with
  | ret a => exact (next a).mono le_add_self
  | raise e => exact ((handles e).bind_of_raises (raises e) f).mono le_add_self
  | call c k ih =>
      obtain ⟨rest, call, later⟩ := body
      exact ⟨rest + m, add_le_of_call call m, fun a => ih a (later a)⟩

/-- A run spends no more than its program may. -/
theorem CostsAtMost.spent_le {p q : Program I ε α} {es : List (Event I)}
    (costs : CostsAtMost cost n p) (trace : Trace p es q) : spent cost es ≤ n := by
  obtain ⟨rest, within, -⟩ := costs.of_trace trace
  exact le_self_add.trans within

/-- The next call of a run is within what is left. -/
theorem CostsAtMost.call_le {p : Program I ε α} {c : I.Call} {k : I.Answer c → Program I ε α}
    {es : List (Event I)} (costs : CostsAtMost cost n p) (trace : Trace p es (.call c k)) :
    spent cost es + cost c ≤ n := by
  obtain ⟨rest, within, m, first, -⟩ := costs.of_trace trace
  refine le_trans ?_ within
  gcongr
  exact le_self_add.trans first

end Rules

end Interaction
