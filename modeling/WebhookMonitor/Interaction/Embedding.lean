import Mathlib.Logic.Equiv.Defs
import WebhookMonitor.Interaction.Schedule

/-!
# Programs put together from several interfaces

A program that works through several interfaces makes its calls over one that has
the calls of each.  `Embedding I J` says how the calls of `I` are among those of `J`,
and `Embedding.lift` runs a program of `I` there.

* `Embedding.meets_lift` — a lifted program meets what the program meets of the calls
  it makes itself;
* `Embedding.trace_lift` — a run of a lifted program is a run of the program;
* `Trace.bind_ret`, `Trace.tryCatch_ret` — a run that has returned, of a sequence and of a
  program with a handler, in its parts;
* `Embedding.filterMap_event` — what a view of an interface shows of a stretch of its own.

The second half is about the world the calls share.  `System.Reachable.written` finds
the event that put a thing into the world, and `System.Reachable.remembered` keeps what
an event has established.
-/

namespace Interaction

/-- The calls of `I` among those of `J`, with the same answers. -/
structure Embedding (I J : Interface) where
  call : I.Call → J.Call
  answer : ∀ c, I.Answer c ≃ J.Answer (call c)

namespace Embedding

variable {I J : Interface} {ε α β : Type} (f : Embedding I J)

/-- An event of `I` as one of `J`. -/
def event (e : Event I) : Event J := ⟨f.call e.call, f.answer e.call e.answer⟩

/-- A program of `I` as one of `J`. -/
def lift : Program I ε α → Program J ε α
  | .ret a => .ret a
  | .raise e => .raise e
  | .call c k => .call (f.call c) fun a => lift (k ((f.answer c).symm a))

@[simp] theorem lift_ret (a : α) : f.lift (.ret a : Program I ε α) = .ret a := rfl

@[simp] theorem lift_raise (e : ε) : f.lift (.raise e : Program I ε α) = .raise e := rfl

@[simp] theorem lift_call (c : I.Call) (k : I.Answer c → Program I ε α) :
    f.lift (.call c k) = .call (f.call c) fun a => f.lift (k ((f.answer c).symm a)) := rfl

/-! ## What a lifted program meets -/

section Meets

variable {allowed : List (Event J) → J.Call → Prop} {post : List (Event J) → Except ε α → Prop}

/-- After the events `es` of its own. -/
theorem meets_lift_after (p : Program I ε α) (h : List (Event J)) (es : List (Event I)) :
    Meets allowed post (f.lift p) (h ++ es.map f.event) ↔
      Meets (fun es c => allowed (h ++ es.map f.event) (f.call c))
        (fun es r => post (h ++ es.map f.event) r) p es := by
  induction p generalizing es with
  | ret a => exact Iff.rfl
  | raise e => exact Iff.rfl
  | call c k ih =>
      -- one more event of the program is one more event of the lifted program
      have longer : ∀ a : I.Answer c, h ++ (es ++ [(⟨c, a⟩ : Event I)]).map f.event =
          (h ++ es.map f.event) ++ [(⟨f.call c, f.answer c a⟩ : Event J)] := by
        intro a
        rw [List.map_append, ← List.append_assoc]
        rfl
      rw [lift_call, meets_call, meets_call]
      refine and_congr_right fun _ => ?_
      constructor
      · intro meets a
        have step := meets (f.answer c a)
        rw [Equiv.symm_apply_apply, ← longer] at step
        exact (ih a _).mp step
      · intro meets a
        have step := (ih ((f.answer c).symm a) _).mpr (meets _)
        rw [longer, Equiv.apply_symm_apply] at step
        exact step

/-- A lifted program meets what the program meets of its own calls. -/
theorem meets_lift (p : Program I ε α) (h : List (Event J)) :
    Meets allowed post (f.lift p) h ↔
      Meets (fun es c => allowed (h ++ es.map f.event) (f.call c))
        (fun es r => post (h ++ es.map f.event) r) p [] := by
  have after : Meets allowed post (f.lift p) (h ++ [].map f.event) ↔ _ := f.meets_lift_after p h []
  rwa [List.map_nil, List.append_nil] at after

end Meets

/-! ## Runs of a lifted program -/

/-- A run of a lifted program is a run of the program. -/
theorem trace_lift {p : Program I ε α} {es : List (Event J)} {q : Program J ε α}
    (trace : Trace (f.lift p) es q) :
    ∃ es' q', es = es'.map f.event ∧ q = f.lift q' ∧ Trace p es' q' := by
  generalize lifted : f.lift p = p' at trace
  induction trace generalizing p with
  | refl p' => exact ⟨[], p, rfl, lifted.symm, .refl p⟩
  | @call c k es q a _ ih =>
      cases p with
      | ret b => cases lifted
      | raise e => cases lifted
      | call c' k' =>
          rw [lift_call] at lifted
          injection lifted with hc hk
          subst hc
          rw [heq_eq_eq] at hk
          subst hk
          obtain ⟨es', q', rfl, rfl, rest⟩ := ih rfl
          refine ⟨⟨c', (f.answer c').symm a⟩ :: es', q', ?_, rfl, .call _ rest⟩
          rw [List.map_cons, event, Equiv.apply_symm_apply]

/-- A lifted program that has returned is one whose program has. -/
theorem eq_ret_of_lift {q : Program I ε α} {a : α} (returned : f.lift q = .ret a) :
    q = .ret a := by
  cases q with
  | ret b =>
      cases returned
      rfl
  | raise e => cases returned
  | call c k => cases returned

/-! ## What a history shows of an interface -/

/-- A view of the events of an interface shows all of a stretch of its own. -/
theorem filterMap_event {view : Event J → Option (Event I)} (own : ∀ e, view (f.event e) = some e)
    (es : List (Event I)) : (es.map f.event).filterMap view = es := by
  have same : view ∘ f.event = some := by
    funext e
    exact own e
  rw [List.filterMap_map, same, List.filterMap_some]

/-- A view of other events shows nothing of it. -/
theorem filterMap_event_of_none {γ : Type} {view : Event J → Option γ}
    (other : ∀ e, view (f.event e) = none) (es : List (Event I)) :
    (es.map f.event).filterMap view = [] := by
  rw [List.filterMap_map, List.filterMap_eq_nil_iff]
  intro e _
  exact other e

end Embedding

/-! ## Runs in their parts -/

namespace Trace

variable {I : Interface} {ε α β : Type}

/-- A run of a sequence is still in its first part, or has got through it. -/
theorem bind_cases {p : Program I ε α} {g : α → Program I ε β} {es : List (Event I)}
    {q : Program I ε β} (trace : Trace (p >>= g) es q) :
    (∃ p', q = p' >>= g ∧ Trace p es p') ∨
      ∃ a first rest, es = first ++ rest ∧ Trace p first (.ret a) ∧ Trace (g a) rest q := by
  induction p generalizing es with
  | ret a => exact .inr ⟨a, [], es, rfl, .refl _, trace⟩
  | raise e =>
      cases trace with
      | refl => exact .inl ⟨_, rfl, .refl _⟩
  | call c k ih =>
      cases trace with
      | refl => exact .inl ⟨_, rfl, .refl _⟩
      | call a rest =>
          rcases ih a rest with ⟨p', rfl, first⟩ | ⟨b, first, last, rfl, run, rest⟩
          · exact .inl ⟨p', rfl, .call a first⟩
          · exact .inr ⟨b, _ :: first, last, rfl, .call a run, rest⟩

/-- A sequence that has returned has got through both parts. -/
theorem bind_ret {p : Program I ε α} {g : α → Program I ε β} {es : List (Event I)} {b : β}
    (trace : Trace (p >>= g) es (.ret b)) :
    ∃ a first rest, es = first ++ rest ∧ Trace p first (.ret a) ∧ Trace (g a) rest (.ret b) := by
  rcases bind_cases trace with ⟨p', ended, first⟩ | through
  · cases p' with
    | ret a => exact ⟨a, es, [], (List.append_nil es).symm, first, ended ▸ .refl _⟩
    | raise e => cases ended
    | call c k => cases ended
  · exact through

/-- A program with a handler that has returned has returned by itself, or its handler
has. -/
theorem tryCatch_ret {p : Program I ε α} {handler : ε → Program I ε α} {es : List (Event I)}
    {a : α} (trace : Trace (tryCatch p handler) es (.ret a)) :
    Trace p es (.ret a) ∨
      ∃ e first rest, es = first ++ rest ∧ Trace p first (.raise e) ∧
        Trace (handler e) rest (.ret a) := by
  induction p generalizing es with
  | ret b => exact .inl trace
  | raise e => exact .inr ⟨e, [], es, rfl, .refl _, trace⟩
  | call c k ih =>
      cases trace with
      | call answer rest =>
          rcases ih answer rest with run | ⟨e, first, last, rfl, run, rest⟩
          · exact .inl (.call answer run)
          · exact .inr ⟨e, _ :: first, last, rfl, .call answer run, rest⟩

/-- A computation without calls that has returned. -/
theorem ofExcept_ret {r : Except ε α} {es : List (Event I)} {a : α}
    (trace : Trace (Program.ofExcept r) es (.ret a)) : es = [] ∧ r = .ok a := by
  cases r with
  | ok b =>
      cases trace
      exact ⟨rfl, rfl⟩
  | error e => cases trace

end Trace

/-- A program meets what holds of every history and outcome. -/
theorem meets_trivial {I : Interface} {ε α : Type} {post : List (Event I) → Except ε α → Prop}
    (holds : ∀ h r, post h r) (p : Program I ε α) (h : List (Event I)) :
    Meets (fun _ _ => True) post p h := by
  induction p generalizing h with
  | ret a => exact holds h _
  | raise e => exact holds h _
  | call c k ih => exact ⟨trivial, fun a => ih a _⟩

/-- What all runs of a program meet, the program meets. -/
theorem meets_of_trace {I : Interface} {ε α : Type} {allowed : List (Event I) → I.Call → Prop}
    {post : List (Event I) → Except ε α → Prop} {p : Program I ε α} {h : List (Event I)}
    (calls : ∀ {es c k}, Trace p es (.call c k) → allowed (h ++ es) c)
    (returns : ∀ {es a}, Trace p es (.ret a) → post (h ++ es) (.ok a))
    (raises : ∀ {es e}, Trace p es (.raise e) → post (h ++ es) (.error e)) :
    Meets allowed post p h := by
  induction p generalizing h with
  | ret a => simpa using returns (.refl _)
  | raise e => simpa using raises (.refl _)
  | call c k ih =>
      refine ⟨by simpa using calls (.refl _), fun a => ih a ?_ ?_ ?_⟩
      · intro es c' k' trace
        simpa using calls (.call a trace)
      · intro es b trace
        simpa using returns (.call a trace)
      · intro es e trace
        simpa using raises (.call a trace)

/-! ## Where the things in the world come from -/

section World

variable {I : Interface} {ε α ι σ : Type} {S : System I ε α ι σ}
  {ok : Config I ε α ι σ → Label I ι → Prop} {world : σ} {cfg : Config I ε α ι σ}

/-- In some call the event `e` came after `before`, and `P` holds of these. -/
def Config.Happened (cfg : Config I ε α ι σ) (P : ι → List (Event I) → Event I → Prop) : Prop :=
  ∃ i t before e after, cfg.threads i = some t ∧ t.history = before ++ e :: after ∧
    P t.request before e

/-- What has happened stays so. -/
theorem Config.Happened.step {cfg' : Config I ε α ι σ} {l : Label I ι}
    {P : ι → List (Event I) → Event I → Prop} (happened : cfg.Happened P)
    (step : S.Step cfg l cfg') : cfg'.Happened P := by
  obtain ⟨j, t, before, e, after, running, split, holds⟩ := happened
  cases step with
  | @spawn i request free =>
      have other : j ≠ i := by
        rintro rfl
        rw [free] at running
        cases running
      exact ⟨j, t, before, e, after, (Config.set_of_ne _ _ _ other).trans running, split, holds⟩
  | @answer i request history c k a w pending answered =>
      by_cases same : j = i
      · subst same
        rw [pending] at running
        cases running
        refine ⟨j, _, before, e, after ++ [⟨c, a⟩], Config.set_self .., ?_, holds⟩
        change history ++ [_] = _
        rw [show history = before ++ e :: after from split, List.append_assoc, List.cons_append]
      · exact ⟨j, t, before, e, after, (Config.set_of_ne _ _ _ same).trans running, split, holds⟩

/-- **Provenance.**  When only the events that write a thing put it into the world, then
every thing in the world was there at the start or some call has written it. -/
theorem System.Reachable.written {X : Type} {H : σ → X → Prop}
    {W : X → ι → List (Event I) → Event I → Prop}
    (writes : ∀ {cfg i request history c k a w x}, S.Reachable ok world cfg →
      cfg.threads i = some ⟨request, history, .call c k⟩ → S.answers cfg.world c a w →
      H w x → H cfg.world x ∨ W x request history ⟨c, a⟩)
    (reachable : S.Reachable ok world cfg) {x : X} (there : H cfg.world x) :
    H world x ∨ cfg.Happened (W x) := by
  induction reachable with
  | initial => exact .inl there
  | step before step _ ih =>
      cases step with
      | spawn request free =>
          exact (ih there).imp_right fun happened => happened.step (S := S) (.spawn request free)
      | @answer i request history c k a w pending answered =>
          rcases writes before pending answered there with old | wrote
          · exact (ih old).imp_right fun happened =>
              happened.step (S := S) (.answer pending answered)
          · refine .inr ⟨i, _, history, ⟨c, a⟩, [], Config.set_self .., rfl, wrote⟩

/-- What an event establishes, and no step undoes, holds of every event of every call. -/
theorem System.Reachable.remembered {Q : Event I → Config I ε α ι σ → Prop}
    (established : ∀ {cfg i request history c k a w}, S.Reachable ok world cfg →
      cfg.threads i = some ⟨request, history, .call c k⟩ → S.answers cfg.world c a w →
      Q ⟨c, a⟩ (cfg.set w i ⟨request, history ++ [⟨c, a⟩], k a⟩))
    (kept : ∀ {cfg l cfg' e}, S.Reachable ok world cfg → S.Step cfg l cfg' → Q e cfg → Q e cfg')
    (reachable : S.Reachable ok world cfg) {i : ℕ} {t : Thread I ε α ι}
    (running : cfg.threads i = some t) : ∀ e ∈ t.history, Q e cfg := by
  induction reachable generalizing i t with
  | initial => cases running
  | step before step _ ih =>
      cases step with
      | spawn request free =>
          obtain ⟨-, rfl⟩ | ⟨-, running⟩ := Config.set_cases running
          · exact fun e mem => absurd mem List.not_mem_nil
          · exact fun e mem => kept before (.spawn request free) (ih running e mem)
      | answer pending answered =>
          obtain ⟨-, rfl⟩ | ⟨-, running⟩ := Config.set_cases running
          · intro e mem
            rcases List.mem_append.mp mem with mem | mem
            · exact kept before (.answer pending answered) (ih pending e mem)
            · obtain rfl := List.mem_singleton.mp mem
              exact established before pending answered
          · exact fun e mem => kept before (.answer pending answered) (ih running e mem)

end World

end Interaction
