import Mathlib.Logic.Basic

/-!
# Programs that call out

A program that does its work through calls to the outside (a clock, a store, an
HTTP client) and may raise an exception, as a free monad: the program says which
call comes next, the outside picks the answer.  Nothing is assumed about the
answers here, so a statement about a program holds for every behaviour of the
outside.

* `Program` — the programs over an interface, with `>>=` and `tryCatch`;
* `Trace p es q` — `p` has seen the events `es` and `q` is left of it;
* `Meets allowed post p h` — started after the history `h`, every call of `p` is
  allowed by the history before it, and every outcome satisfies `post`;
* `Program.run` — the run against outside answers that depend on the call alone;
* `Program.runWith` — the run in a world that answers each call and changes with it;
* `Program.runRaising` — the run in a world that may also raise instead.

`Meets` is proved by its rules (`meets_bind`, `meets_tryCatch`, `meets_mono`),
one for each way a program is put together; `Meets.of_trace` carries it along a
run, and `Meets.allowed_of_trace` and `Meets.post_of_trace` read it back.
-/

namespace Interaction

/-- An interface: the calls, and the type of the answers to each. -/
structure Interface where
  Call : Type
  Answer : Call → Type

/-- A program over the interface `I` that raises `ε` or returns `α`. -/
inductive Program (I : Interface) (ε α : Type) : Type where
  | ret (a : α)
  | raise (e : ε)
  | call (c : I.Call) (k : I.Answer c → Program I ε α)

/-- A call with the answer it got. -/
structure Event (I : Interface) where
  call : I.Call
  answer : I.Answer call

namespace Program

variable {I : Interface} {ε α β : Type}

/-- Run `p`, then `f` on what it returns. -/
def bind : Program I ε α → (α → Program I ε β) → Program I ε β
  | .ret a, f => f a
  | .raise e, _ => .raise e
  | .call c k, f => .call c fun answer => (k answer).bind f

/-- Run `p`, and `handler` on the exception it raises. -/
def tryCatch : Program I ε α → (ε → Program I ε α) → Program I ε α
  | .ret a, _ => .ret a
  | .raise e, handler => handler e
  | .call c k, handler => .call c fun answer => (k answer).tryCatch handler

instance : Monad (Program I ε) where
  pure := .ret
  bind := bind

instance : MonadExcept ε (Program I ε) where
  throw := .raise
  tryCatch := tryCatch

/-- Make one call and return its answer. -/
def perform (c : I.Call) : Program I ε (I.Answer c) := .call c .ret

/-- A computation without calls. -/
def ofExcept : Except ε α → Program I ε α
  | .ok a => .ret a
  | .error e => .raise e

@[simp] theorem pure_eq (a : α) : (pure a : Program I ε α) = .ret a := rfl
@[simp] theorem throw_eq (e : ε) : (throw e : Program I ε α) = .raise e := rfl
@[simp] theorem ret_bind (a : α) (f : α → Program I ε β) : (.ret a >>= f) = f a := rfl
@[simp] theorem raise_bind (e : ε) (f : α → Program I ε β) :
    (.raise e >>= f) = (.raise e : Program I ε β) := rfl
@[simp] theorem call_bind (c : I.Call) (k : I.Answer c → Program I ε α)
    (f : α → Program I ε β) : (.call c k >>= f) = .call c fun answer => k answer >>= f := rfl
@[simp] theorem perform_bind (c : I.Call) (f : I.Answer c → Program I ε β) :
    (perform c >>= f) = .call c f := rfl
/-- Sequences are associative. -/
theorem bind_bind {γ : Type} (p : Program I ε α) (f : α → Program I ε β) (g : β → Program I ε γ) :
    (p >>= f) >>= g = p >>= fun a => f a >>= g := by
  induction p with
  | ret a => rfl
  | raise e => rfl
  | call c k ih =>
      rw [call_bind, call_bind, call_bind]
      congr 1
      funext answer
      exact ih answer

@[simp] theorem ofExcept_ok (a : α) : (ofExcept (.ok a) : Program I ε α) = .ret a := rfl
@[simp] theorem ofExcept_error (e : ε) :
    (ofExcept (.error e) : Program I ε α) = .raise e := rfl

/-- How a program that makes no further call ended. -/
def outcome : Program I ε α → Option (Except ε α)
  | .ret a => some (.ok a)
  | .raise e => some (.error e)
  | .call _ _ => none

theorem eq_ret_of_outcome {p : Program I ε α} {a : α} (ended : p.outcome = some (.ok a)) :
    p = .ret a := by
  cases p with
  | ret b => cases ended; rfl
  | raise e => cases ended
  | call c k => cases ended

end Program

/-! ## Traces -/

variable {I : Interface} {ε α β : Type}

/-- `p` has seen the events `es`, and `q` is what is left of it.  The run need
not have ended. -/
inductive Trace : Program I ε α → List (Event I) → Program I ε α → Prop where
  | refl (p : Program I ε α) : Trace p [] p
  | call {c : I.Call} {k : I.Answer c → Program I ε α} {es : List (Event I)}
      {q : Program I ε α} (answer : I.Answer c) (rest : Trace (k answer) es q) :
      Trace (.call c k) (⟨c, answer⟩ :: es) q

namespace Trace

theorem append {p q r : Program I ε α} {es es' : List (Event I)} (first : Trace p es q)
    (second : Trace q es' r) : Trace p (es ++ es') r := by
  induction first with
  | refl p => exact second
  | call answer _ ih => exact .call answer (ih second)

/-- One more answer at the end of a run. -/
theorem snoc {p : Program I ε α} {c : I.Call} {k : I.Answer c → Program I ε α}
    {es : List (Event I)} (first : Trace p es (.call c k)) (answer : I.Answer c) :
    Trace p (es ++ [⟨c, answer⟩]) (k answer) :=
  first.append (.call answer (.refl _))

/-- A run can be cut at any of its events. -/
theorem split {p q : Program I ε α} {es es' : List (Event I)} (h : Trace p (es ++ es') q) :
    ∃ m, Trace p es m ∧ Trace m es' q := by
  induction es generalizing p with
  | nil => exact ⟨p, .refl p, h⟩
  | cons e es ih =>
      rw [List.cons_append] at h
      cases h with
      | call answer rest =>
          obtain ⟨m, hfirst, hsecond⟩ := ih rest
          exact ⟨m, .call answer hfirst, hsecond⟩

end Trace

/-! ## Calls and outcomes under a history -/

/-- Started after the history `h`, every call is `allowed` by the history before
it, and every outcome satisfies `post`, whatever the answers. -/
def Meets (allowed : List (Event I) → I.Call → Prop)
    (post : List (Event I) → Except ε α → Prop) : Program I ε α → List (Event I) → Prop
  | .ret a, h => post h (.ok a)
  | .raise e, h => post h (.error e)
  | .call c k, h => allowed h c ∧ ∀ answer, Meets allowed post (k answer) (h ++ [⟨c, answer⟩])

section Rules

variable {allowed allowed' : List (Event I) → I.Call → Prop}
  {post post' : List (Event I) → Except ε α → Prop} {h : List (Event I)}

@[simp] theorem meets_ret {a : α} :
    Meets allowed post (.ret a) h ↔ post h (.ok a) := Iff.rfl

@[simp] theorem meets_raise {e : ε} :
    Meets allowed post (.raise e) h ↔ post h (.error e) := Iff.rfl

@[simp] theorem meets_call {c : I.Call} {k : I.Answer c → Program I ε α} :
    Meets allowed post (.call c k) h ↔
      allowed h c ∧ ∀ answer, Meets allowed post (k answer) (h ++ [⟨c, answer⟩]) := Iff.rfl

@[simp] theorem meets_perform {c : I.Call}
    {post : List (Event I) → Except ε (I.Answer c) → Prop} :
    Meets allowed post (Program.perform c) h ↔
      allowed h c ∧ ∀ answer, post (h ++ [⟨c, answer⟩]) (.ok answer) := Iff.rfl

theorem meets_ofExcept {r : Except ε α} :
    Meets allowed post (Program.ofExcept r) h ↔ post h r := by
  cases r <;> rfl

/-- The rule of sequencing: what `p` returns is handed to `f`, what it raises is
the outcome of the whole. -/
theorem meets_bind {p : Program I ε α} {f : α → Program I ε β}
    {post : List (Event I) → Except ε β → Prop} :
    Meets allowed post (p >>= f) h ↔
      Meets allowed (fun h r => match r with
        | .ok a => Meets allowed post (f a) h
        | .error e => post h (.error e)) p h := by
  induction p generalizing h with
  | ret a => rfl
  | raise e => rfl
  | call c k ih => simp only [Program.call_bind, meets_call, ih]

/-- The rule of exception handling. -/
theorem meets_tryCatch {p : Program I ε α} {handler : ε → Program I ε α} :
    Meets allowed post (tryCatch p handler) h ↔
      Meets allowed (fun h r => match r with
        | .ok a => post h (.ok a)
        | .error e => Meets allowed post (handler e) h) p h := by
  induction p generalizing h with
  | ret a => rfl
  | raise e => rfl
  | call c k ih => exact and_congr_right fun _ => forall_congr' fun answer => ih answer

/-- The rule of consequence. -/
theorem meets_mono {p : Program I ε α} (hallowed : ∀ h c, allowed h c → allowed' h c)
    (hpost : ∀ h r, post h r → post' h r) (meets : Meets allowed post p h) :
    Meets allowed' post' p h := by
  induction p generalizing h with
  | ret a => exact hpost _ _ meets
  | raise e => exact hpost _ _ meets
  | call c k ih =>
      exact ⟨hallowed _ _ meets.1, fun answer => ih answer (meets.2 answer)⟩

/-- What two proofs say of a program, together. -/
theorem meets_and {p : Program I ε α} (first : Meets allowed post p h)
    (second : Meets allowed' post' p h) :
    Meets (fun h c => allowed h c ∧ allowed' h c) (fun h r => post h r ∧ post' h r) p h := by
  induction p generalizing h with
  | ret a => exact ⟨first, second⟩
  | raise e => exact ⟨first, second⟩
  | call c k ih =>
      exact ⟨⟨first.1, second.1⟩, fun answer => ih answer (first.2 answer) (second.2 answer)⟩

namespace Meets

/-- Along a run the same holds of what is left, after the longer history. -/
theorem of_trace {p q : Program I ε α} {es : List (Event I)} (meets : Meets allowed post p h)
    (trace : Trace p es q) : Meets allowed post q (h ++ es) := by
  induction trace generalizing h with
  | refl p => simpa using meets
  | call answer _ ih => simpa using ih (meets.2 answer)

/-- Every call of a run was allowed when it was made. -/
theorem allowed_of_trace {p q : Program I ε α} {es es' : List (Event I)} {e : Event I}
    (meets : Meets allowed post p h) (trace : Trace p (es ++ e :: es') q) :
    allowed (h ++ es) e.call := by
  obtain ⟨m, hfirst, hsecond⟩ := trace.split
  have := meets.of_trace hfirst
  cases hsecond with
  | call answer _ => exact this.1

/-- What every allowed call keeps of a history holds along a run. -/
theorem history_invariant {P : List (Event I) → Prop} {p q : Program I ε α} {es : List (Event I)}
    (kept : ∀ {h c} (answer : I.Answer c), allowed h c → P h → P (h ++ [⟨c, answer⟩]))
    (meets : Meets allowed post p h) (trace : Trace p es q) (initial : P h) : P (h ++ es) := by
  induction trace generalizing h with
  | refl p => simpa using initial
  | call answer _ ih => simpa using ih (meets.2 answer) (kept answer meets.1 initial)

/-- The outcome of a finished run satisfies the postcondition. -/
theorem post_of_trace {p q : Program I ε α} {es : List (Event I)} {r : Except ε α}
    (meets : Meets allowed post p h) (trace : Trace p es q) (ended : q.outcome = some r) :
    post (h ++ es) r := by
  have := meets.of_trace trace
  cases q with
  | ret a => cases ended; exact this
  | raise e => cases ended; exact this
  | call c k => cases ended

end Meets

end Rules

/-! ## Runs against fixed answers -/

namespace Program

/-- The events and the outcome of the run in which each call gets the answer
`outside` has for it. -/
def run (outside : (c : I.Call) → I.Answer c) :
    Program I ε α → List (Event I) × Except ε α
  | .ret a => ([], .ok a)
  | .raise e => ([], .error e)
  | .call c k =>
      let r := run outside (k (outside c))
      (⟨c, outside c⟩ :: r.1, r.2)

variable {outside : (c : I.Call) → I.Answer c}

@[simp] theorem run_ret (a : α) :
    run outside (.ret a : Program I ε α) = ([], .ok a) := rfl

@[simp] theorem run_raise (e : ε) :
    run outside (.raise e : Program I ε α) = ([], .error e) := rfl

@[simp] theorem run_call (c : I.Call) (k : I.Answer c → Program I ε α) :
    run outside (.call c k) =
      (⟨c, outside c⟩ :: (run outside (k (outside c))).1, (run outside (k (outside c))).2) := rfl

/-- The run of a sequence, when the first part returns. -/
theorem run_bind {p : Program I ε α} {a : α} (returned : (run outside p).2 = .ok a)
    (f : α → Program I ε β) :
    run outside (p >>= f) =
      ((run outside p).1 ++ (run outside (f a)).1, (run outside (f a)).2) := by
  induction p with
  | ret b => cases returned; rfl
  | raise e => cases returned
  | call c k ih =>
      have := ih (outside c) returned
      rw [call_bind, run_call, run_call, this]
      rfl

/-- A run against fixed answers is one of the traces. -/
theorem trace_run (outside : (c : I.Call) → I.Answer c) (p : Program I ε α) :
    ∃ q, Trace p (p.run outside).1 q ∧ q.outcome = some (p.run outside).2 := by
  induction p with
  | ret a => exact ⟨.ret a, .refl _, rfl⟩
  | raise e => exact ⟨.raise e, .refl _, rfl⟩
  | call c k ih =>
      obtain ⟨q, trace, ended⟩ := ih (outside c)
      exact ⟨q, .call _ trace, ended⟩

/-! ## Runs against a world that answers at once -/

section Worlds

variable {σ : Type} (respond : σ → (c : I.Call) → I.Answer c × σ)

/-- The outcome of a run by itself in a world that answers each call, and the world
after it. -/
def runWith : Program I ε α → σ → Except ε α × σ
  | .ret a, w => (.ok a, w)
  | .raise e, w => (.error e, w)
  | .call c k, w => runWith (k (respond w c).1) (respond w c).2

@[simp] theorem runWith_ret (a : α) (w : σ) :
    runWith respond (.ret a : Program I ε α) w = (.ok a, w) := rfl

@[simp] theorem runWith_raise (e : ε) (w : σ) :
    runWith respond (.raise e : Program I ε α) w = (.error e, w) := rfl

@[simp] theorem runWith_call (c : I.Call) (k : I.Answer c → Program I ε α) (w : σ) :
    runWith respond (.call c k) w = runWith respond (k (respond w c).1) (respond w c).2 := rfl

/-- The run of a sequence is the run of its second part after that of the first. -/
theorem runWith_bind (p : Program I ε α) (f : α → Program I ε β) (w : σ) :
    runWith respond (p >>= f) w =
      match runWith respond p w with
      | (.ok a, w') => runWith respond (f a) w'
      | (.error e, w') => (.error e, w') := by
  induction p generalizing w with
  | ret a => rfl
  | raise e => rfl
  | call c k ih => exact ih _ _

theorem runWith_tryCatch (p : Program I ε α) (handler : ε → Program I ε α) (w : σ) :
    runWith respond (tryCatch p handler) w =
      match runWith respond p w with
      | (.ok a, w') => (.ok a, w')
      | (.error e, w') => runWith respond (handler e) w' := by
  induction p generalizing w with
  | ret a => rfl
  | raise e => rfl
  | call c k ih => exact ih _ _

/-- A run in a world is one of the traces. -/
theorem trace_runWith (p : Program I ε α) (w : σ) :
    ∃ es q, Trace p es q ∧ q.outcome = some (runWith respond p w).1 := by
  induction p generalizing w with
  | ret a => exact ⟨[], .ret a, .refl _, rfl⟩
  | raise e => exact ⟨[], .raise e, .refl _, rfl⟩
  | call c k ih =>
      obtain ⟨es, q, trace, ended⟩ := ih (respond w c).1 (respond w c).2
      exact ⟨_, q, .call _ trace, ended⟩

/-- A computation without calls leaves the world as it was. -/
@[simp] theorem runWith_ofExcept (r : Except ε α) (w : σ) :
    runWith respond (ofExcept r : Program I ε α) w = (r, w) := by
  cases r with
  | ok a => rfl
  | error e => rfl

end Worlds

/-! ## Runs in a world that may raise -/

section Raising

variable {σ : Type} (respond : σ → (c : I.Call) → Except ε (I.Answer c) × σ)

/-- The outcome of a run by itself in a world that answers a call or raises, and the
world after it.  What the world raises ends the run: no handler looks at it. -/
def runRaising : Program I ε α → σ → Except ε α × σ
  | .ret a, w => (.ok a, w)
  | .raise e, w => (.error e, w)
  | .call c k, w =>
      match respond w c with
      | (.ok a, w') => runRaising (k a) w'
      | (.error e, w') => (.error e, w')

@[simp] theorem runRaising_ret (a : α) (w : σ) :
    runRaising respond (.ret a : Program I ε α) w = (.ok a, w) := rfl

@[simp] theorem runRaising_raise (e : ε) (w : σ) :
    runRaising respond (.raise e : Program I ε α) w = (.error e, w) := rfl

@[simp] theorem runRaising_ofExcept (r : Except ε α) (w : σ) :
    runRaising respond (ofExcept r : Program I ε α) w = (r, w) := by
  cases r with
  | ok a => rfl
  | error e => rfl

theorem runRaising_call {c : I.Call} {k : I.Answer c → Program I ε α} {w w' : σ} {a : I.Answer c}
    (answered : respond w c = (.ok a, w')) :
    runRaising respond (.call c k) w = runRaising respond (k a) w' := by
  rw [runRaising, answered]

theorem runRaising_call_raised {c : I.Call} {k : I.Answer c → Program I ε α} {w w' : σ} {e : ε}
    (raised : respond w c = (.error e, w')) :
    runRaising respond (.call c k) w = (.error e, w') := by
  rw [runRaising, raised]

/-- The run of a sequence whose first part returns. -/
theorem runRaising_bind {p : Program I ε α} {a : α} {w w' : σ}
    (returned : runRaising respond p w = (.ok a, w')) (f : α → Program I ε β) :
    runRaising respond (p >>= f) w = runRaising respond (f a) w' := by
  induction p generalizing w with
  | ret b =>
      cases returned
      rfl
  | raise e => cases returned
  | call c k ih =>
      rw [runRaising] at returned
      change runRaising respond (.call c fun b => k b >>= f) w = _
      cases answered : respond w c with
      | mk r w₁ =>
          rw [answered] at returned
          cases r with
          | error e => cases returned
          | ok b =>
              rw [runRaising_call respond answered]
              exact ih b returned

end Raising

end Program

end Interaction
