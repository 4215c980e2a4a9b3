import Mathlib.Data.Nat.Notation
import Mathlib.Logic.Function.Basic
import WebhookMonitor.Interaction.Program

/-!
# Concurrent calls over one shared world

Any number of calls, each a `Program`, run against one shared state, the world.
A step starts a new call or answers the pending call of one of the calls under
way; the world says which answers it may give and how it changes.  Between two
steps of one call the others may take any number of steps.

* `System` — the program of each request and the behaviour of the world;
* `Config` — the world, and what each call has seen and has left to do;
* `System.Step` — one step, labelled with what happens in it;
* `System.Reachable ok` — the configurations reached from an initial world by
  steps that meet `ok`;
* `Reachable.invariant` — the induction over runs;
* `Reachable.trace` and `Reachable.meets` — each call by itself runs its own
  program, so what holds of the program under all answers holds of the call;
* `Config.shown` — what the histories of the calls show, call by call, and how
  one step changes it;
* `System.Shows` — a run with what its answers show, in their order;
* `System.play` — a run along a given schedule against a world that picks its
  answers.
-/

namespace Interaction

/-- The program of each request, and the answers a world may give to a call,
with the world they lead to. -/
structure System (I : Interface) (ε α ι σ : Type) where
  program : ι → Program I ε α
  answers : σ → (c : I.Call) → I.Answer c → σ → Prop

/-- A call under way: its request, what it has seen, and what is left of it. -/
structure Thread (I : Interface) (ε α ι : Type) where
  request : ι
  history : List (Event I)
  rest : Program I ε α

/-- The world and the calls, by number; a number not yet in use has no call. -/
structure Config (I : Interface) (ε α ι σ : Type) where
  world : σ
  threads : ℕ → Option (Thread I ε α ι)

/-- What happens in a step. -/
inductive Label (I : Interface) (ι : Type) where
  | spawn (i : ℕ) (request : ι)
  | answer (i : ℕ) (event : Event I)

variable {I : Interface} {ε α ι σ : Type}

/-- The configuration before any call. -/
def Config.initial (world : σ) : Config I ε α ι σ := ⟨world, fun _ => none⟩

/-- The world becomes `world` and call `i` becomes `t`. -/
def Config.set (cfg : Config I ε α ι σ) (world : σ) (i : ℕ) (t : Thread I ε α ι) :
    Config I ε α ι σ :=
  ⟨world, Function.update cfg.threads i (some t)⟩

@[simp] theorem Config.set_world (cfg : Config I ε α ι σ) (world : σ) (i : ℕ)
    (t : Thread I ε α ι) : (cfg.set world i t).world = world := rfl

@[simp] theorem Config.set_self (cfg : Config I ε α ι σ) (world : σ) (i : ℕ)
    (t : Thread I ε α ι) : (cfg.set world i t).threads i = some t :=
  Function.update_self ..

theorem Config.set_of_ne (cfg : Config I ε α ι σ) (world : σ) {i j : ℕ}
    (t : Thread I ε α ι) (h : j ≠ i) : (cfg.set world i t).threads j = cfg.threads j :=
  Function.update_of_ne h ..

/-- After a step of call `i`, a call is the one that moved or one that was there. -/
theorem Config.set_cases {cfg : Config I ε α ι σ} {world : σ} {i j : ℕ}
    {t t' : Thread I ε α ι} (running : (cfg.set world i t).threads j = some t') :
    (j = i ∧ t' = t) ∨ (j ≠ i ∧ cfg.threads j = some t') := by
  by_cases hij : j = i
  · subst hij
    rw [set_self, Option.some.injEq] at running
    exact .inl ⟨rfl, running.symm⟩
  · rw [set_of_ne _ _ _ hij] at running
    exact .inr ⟨hij, running⟩

namespace System

variable (S : System I ε α ι σ)

/-- One step. -/
inductive Step : Config I ε α ι σ → Label I ι → Config I ε α ι σ → Prop where
  | spawn {cfg : Config I ε α ι σ} {i : ℕ} (request : ι) (free : cfg.threads i = none) :
      Step cfg (.spawn i request) (cfg.set cfg.world i ⟨request, [], S.program request⟩)
  | answer {cfg : Config I ε α ι σ} {i : ℕ} {request : ι} {history : List (Event I)}
      {c : I.Call} {k : I.Answer c → Program I ε α} {a : I.Answer c} {world : σ}
      (pending : cfg.threads i = some ⟨request, history, .call c k⟩)
      (answered : S.answers cfg.world c a world) :
      Step cfg (.answer i ⟨c, a⟩)
        (cfg.set world i ⟨request, history ++ [⟨c, a⟩], k a⟩)

/-- The configurations reached from `world` by steps that meet `ok`. -/
inductive Reachable (ok : Config I ε α ι σ → Label I ι → Prop) (world : σ) :
    Config I ε α ι σ → Prop where
  | initial : Reachable ok world (Config.initial world)
  | step {cfg cfg' : Config I ε α ι σ} {l : Label I ι} (before : Reachable ok world cfg)
      (step : S.Step cfg l cfg') (meets : ok cfg l) : Reachable ok world cfg'

end System

variable {S : System I ε α ι σ} {ok : Config I ε α ι σ → Label I ι → Prop} {world : σ}
  {cfg : Config I ε α ι σ}

/-- What holds at the start and is kept by every step holds throughout. -/
theorem System.Reachable.invariant {P : Config I ε α ι σ → Prop}
    (initial : P (Config.initial world))
    (kept : ∀ {cfg l cfg'}, S.Reachable ok world cfg → P cfg → S.Step cfg l cfg' → ok cfg l →
      P cfg')
    (reachable : S.Reachable ok world cfg) : P cfg := by
  induction reachable with
  | initial => exact initial
  | step before step meets ih => exact kept before ih step meets

/-- A property of single calls that holds when a call starts and is kept when it
is answered holds of every call. -/
theorem System.Reachable.thread_invariant {P : Thread I ε α ι → Prop}
    (start : ∀ request, P ⟨request, [], S.program request⟩)
    (kept : ∀ {request history c k} (a : I.Answer c), P ⟨request, history, .call c k⟩ →
      P ⟨request, history ++ [⟨c, a⟩], k a⟩)
    (reachable : S.Reachable ok world cfg) {i : ℕ} {t : Thread I ε α ι}
    (running : cfg.threads i = some t) : P t := by
  induction reachable generalizing i t with
  | initial => cases running
  | step before step _ ih =>
      cases step with
      | spawn request free =>
          obtain ⟨-, rfl⟩ | ⟨-, running⟩ := Config.set_cases running
          · exact start request
          · exact ih running
      | answer pending answered =>
          obtain ⟨-, rfl⟩ | ⟨-, running⟩ := Config.set_cases running
          · exact kept _ (ih pending)
          · exact ih running

/-- Every request was one a step could start. -/
theorem System.Reachable.request {Q : ι → Prop}
    (start : ∀ {cfg i request}, ok cfg (.spawn i request) → Q request)
    (reachable : S.Reachable ok world cfg) {i : ℕ} {t : Thread I ε α ι}
    (running : cfg.threads i = some t) : Q t.request := by
  induction reachable generalizing i t with
  | initial => cases running
  | step before step meets ih =>
      cases step with
      | spawn request free =>
          obtain ⟨-, rfl⟩ | ⟨-, running⟩ := Config.set_cases running
          · exact start meets
          · exact ih running
      | answer pending answered =>
          obtain ⟨-, rfl⟩ | ⟨-, running⟩ := Config.set_cases running
          · have := ih pending
            exact this
          · exact ih running

/-- Every event of a history happened in a step of the run. -/
theorem System.Reachable.event {Q : Event I → Prop}
    (happens : ∀ {cfg i request history c k a world'}, S.Reachable ok world cfg →
      cfg.threads i = some ⟨request, history, .call c k⟩ → ok cfg (.answer i ⟨c, a⟩) →
      S.answers cfg.world c a world' → Q ⟨c, a⟩)
    (reachable : S.Reachable ok world cfg) {i : ℕ} {t : Thread I ε α ι}
    (running : cfg.threads i = some t) : ∀ e ∈ t.history, Q e := by
  induction reachable generalizing i t with
  | initial => cases running
  | step before step meets ih =>
      cases step with
      | spawn request free =>
          obtain ⟨-, rfl⟩ | ⟨-, running⟩ := Config.set_cases running
          · exact fun e mem => absurd mem List.not_mem_nil
          · exact ih running
      | answer pending answered =>
          obtain ⟨-, rfl⟩ | ⟨-, running⟩ := Config.set_cases running
          · intro e mem
            rcases List.mem_append.mp mem with mem | mem
            · exact ih pending e mem
            · obtain rfl := List.mem_singleton.mp mem
              exact happens before pending meets answered
          · exact ih running

/-- Each call by itself is a run of its own program. -/
theorem System.Reachable.trace (reachable : S.Reachable ok world cfg) {i : ℕ} {t : Thread I ε α ι}
    (running : cfg.threads i = some t) : Trace (S.program t.request) t.history t.rest :=
  System.Reachable.thread_invariant (P := fun t => Trace (S.program t.request) t.history t.rest)
    (fun _ => .refl _) (fun a trace => trace.snoc a) reachable running

/-- What a program meets under all answers, every call of it meets. -/
theorem System.Reachable.meets {allowed : ι → List (Event I) → I.Call → Prop}
    {post : ι → List (Event I) → Except ε α → Prop}
    (meets : ∀ request, Meets (allowed request) (post request) (S.program request) [])
    (reachable : S.Reachable ok world cfg) {i : ℕ} {t : Thread I ε α ι}
    (running : cfg.threads i = some t) :
    Meets (allowed t.request) (post t.request) t.rest t.history := by
  simpa using (meets t.request).of_trace (reachable.trace running)

/-! ## What the calls have seen -/

section Shown

variable {β : Type} (view : Event I → Option β)

/-- What the history of each call shows; nothing, where there is no call. -/
def Config.shown (cfg : Config I ε α ι σ) (i : ℕ) : List β :=
  match cfg.threads i with
  | some t => t.history.filterMap view
  | none => []

variable {view}

theorem Config.shown_initial (world : σ) (i : ℕ) :
    (Config.initial world : Config I ε α ι σ).shown view i = [] := rfl

theorem Config.shown_of_running {i : ℕ} {t : Thread I ε α ι} (running : cfg.threads i = some t) :
    cfg.shown view i = t.history.filterMap view := by
  rw [shown, running]

/-- A new call has seen nothing. -/
theorem Config.shown_spawn {i : ℕ} {request : ι} {p : Program I ε α}
    (free : cfg.threads i = none) :
    (cfg.set cfg.world i ⟨request, [], p⟩).shown view = cfg.shown view := by
  funext j
  by_cases hij : j = i
  · subst hij
    rw [shown, set_self, shown, free]
    rfl
  · rw [shown, set_of_ne _ _ _ hij, shown]

/-- An answer that shows nothing changes nothing. -/
theorem Config.shown_answer_none {i : ℕ} {request : ι} {history : List (Event I)}
    {p q : Program I ε α} {e : Event I} {world : σ}
    (pending : cfg.threads i = some ⟨request, history, p⟩) (nothing : view e = none) :
    (cfg.set world i ⟨request, history ++ [e], q⟩).shown view = cfg.shown view := by
  funext j
  by_cases hij : j = i
  · subst hij
    rw [Config.shown_of_running (set_self ..), Config.shown_of_running pending]
    simp [nothing]
  · rw [shown, set_of_ne _ _ _ hij, shown]

/-- An answer that shows something adds it to what its call has seen. -/
theorem Config.shown_answer_some {i : ℕ} {request : ι} {history : List (Event I)}
    {p q : Program I ε α} {e : Event I} {b : β} {world : σ}
    (pending : cfg.threads i = some ⟨request, history, p⟩) (something : view e = some b) :
    (cfg.set world i ⟨request, history ++ [e], q⟩).shown view =
      Function.update (cfg.shown view) i (cfg.shown view i ++ [b]) := by
  funext j
  by_cases hij : j = i
  · subst hij
    rw [Config.shown_of_running (set_self ..), Function.update_self,
      Config.shown_of_running pending]
    simp [something]
  · rw [Function.update_of_ne hij, shown, set_of_ne _ _ _ hij, shown]

end Shown

/-! ## What a run shows -/

section Shows

variable {β : Type} (view : Event I → Option β)

/-- What a step shows, and of which call. -/
def Label.shown : Label I ι → Option (ℕ × β)
  | .spawn .. => none
  | .answer i e => (view e).map fun b => (i, b)

/-- A run to a configuration, with what its answers have shown, in their order. -/
inductive System.Shows (S : System I ε α ι σ) (ok : Config I ε α ι σ → Label I ι → Prop)
    (world : σ) : List (ℕ × β) → Config I ε α ι σ → Prop where
  | initial : Shows S ok world [] (Config.initial world)
  | step {shown : List (ℕ × β)} {cfg cfg' : Config I ε α ι σ} {l : Label I ι}
      (before : Shows S ok world shown cfg) (step : S.Step cfg l cfg') (meets : ok cfg l) :
      Shows S ok world (shown ++ (l.shown view).toList) cfg'

variable {view} {shown : List (ℕ × β)}

theorem Label.shown_answer (i : ℕ) (e : Event I) :
    ((Label.answer i e : Label I ι).shown view).toList.map Prod.snd = (view e).toList := by
  cases shows : view e <;> simp [Label.shown, shows]

theorem System.Shows.reachable (run : S.Shows view ok world shown cfg) :
    S.Reachable ok world cfg := by
  induction run with
  | initial => exact .initial
  | step _ step meets ih => exact .step ih step meets

variable (view) in
/-- Every configuration is one such a run reaches. -/
theorem System.Reachable.exists_shows (reachable : S.Reachable ok world cfg) :
    ∃ shown, S.Shows view ok world shown cfg := by
  induction reachable with
  | initial => exact ⟨[], .initial⟩
  | step _ step meets ih =>
      obtain ⟨shown, run⟩ := ih
      exact ⟨_, .step run step meets⟩

/-- What the run has shown of a call is what the history of the call shows. -/
theorem System.Shows.of_call (run : S.Shows view ok world shown cfg) (i : ℕ) :
    (shown.filter fun e => e.1 = i).map Prod.snd = cfg.shown view i := by
  induction run with
  | initial => rfl
  | @step shown cfg cfg' l before step _ ih =>
      rw [List.filter_append, List.map_append, ih]
      cases step with
      | spawn request free =>
          rw [Config.shown_spawn free]
          exact List.append_nil _
      | @answer j request history c k a world' pending answered =>
          cases shows : view ⟨c, a⟩ with
          | none =>
              rw [Config.shown_answer_none pending shows, Label.shown, shows]
              exact List.append_nil _
          | some b =>
              rw [Config.shown_answer_some pending shows, Label.shown, shows]
              by_cases same : j = i
              · subst same
                simp
              · rw [Function.update_of_ne (Ne.symm same)]
                simp [same]

theorem System.Shows.mem_iff (run : S.Shows view ok world shown cfg) {i : ℕ} {b : β} :
    (i, b) ∈ shown ↔ b ∈ cfg.shown view i := by
  rw [← run.of_call i]
  simp

/-- If each call shows one thing at most, none comes twice. -/
theorem System.Shows.nodup (run : S.Shows view ok world shown cfg)
    (one : ∀ i, (cfg.shown view i).length ≤ 1) : (shown.map Prod.fst).Nodup := by
  rw [List.nodup_iff_count]
  intro i
  have count : (shown.map Prod.fst).count i = (cfg.shown view i).length := by
    rw [← run.of_call i, List.length_map, List.count_eq_countP, List.countP_map,
      List.countP_eq_length_filter]
    rfl
  exact count ▸ one i

end Shows

/-! ## Playing a schedule -/

/-- What comes next in a schedule: a new call, or an answer to a pending one. -/
inductive Move (ι : Type) where
  | start (i : ℕ) (request : ι)
  | go (i : ℕ)

namespace System

variable (S : System I ε α ι σ) (choose : σ → (c : I.Call) → Option (I.Answer c × σ))
  (check : Config I ε α ι σ → Label I ι → Bool)

/-- One move, against a world that picks its answers with `choose`. -/
def move (cfg : Config I ε α ι σ) : Move ι → Option (Label I ι × Config I ε α ι σ)
  | .start i request =>
      match cfg.threads i with
      | none => some (.spawn i request, cfg.set cfg.world i ⟨request, [], S.program request⟩)
      | some _ => none
  | .go i =>
      match cfg.threads i with
      | some ⟨request, history, .call c k⟩ =>
          (choose cfg.world c).map fun r => (.answer i ⟨c, r.1⟩,
            cfg.set r.2 i ⟨request, history ++ [⟨c, r.1⟩], k r.1⟩)
      | _ => none

/-- A whole schedule, as long as its steps pass the check. -/
def play : Config I ε α ι σ → List (Move ι) → Option (Config I ε α ι σ)
  | cfg, [] => some cfg
  | cfg, m :: rest =>
      match S.move choose cfg m with
      | some (l, cfg') => if check cfg l then play cfg' rest else none
      | none => none

variable {S choose check}

theorem step_of_move {cfg cfg' : Config I ε α ι σ} {m : Move ι} {l : Label I ι}
    (sound : ∀ {w c a w'}, choose w c = some (a, w') → S.answers w c a w')
    (moved : S.move choose cfg m = some (l, cfg')) : S.Step cfg l cfg' := by
  cases m with
  | start i request =>
      rw [move] at moved
      cases hi : cfg.threads i with
      | none =>
          rw [hi] at moved
          cases moved
          exact .spawn request hi
      | some t => rw [hi] at moved; cases moved
  | go i =>
      rw [move] at moved
      cases hi : cfg.threads i with
      | none => rw [hi] at moved; cases moved
      | some t =>
          obtain ⟨request, history, rest⟩ := t
          rw [hi] at moved
          cases rest with
          | ret a => cases moved
          | raise e => cases moved
          | call c k =>
              cases hchoose : choose cfg.world c with
              | none => simp [hchoose] at moved
              | some r =>
                  simp only [hchoose, Option.map_some, Option.some.injEq, Prod.mk.injEq] at moved
                  obtain ⟨rfl, rfl⟩ := moved
                  exact .answer hi (sound hchoose)

/-- The configurations along a schedule are reachable. -/
theorem reachable_of_play {cfg cfg' : Config I ε α ι σ} {moves : List (Move ι)}
    (sound : ∀ {w c a w'}, choose w c = some (a, w') → S.answers w c a w')
    (checked : ∀ {cfg l}, check cfg l = true → ok cfg l)
    (reachable : S.Reachable ok world cfg) (played : S.play choose check cfg moves = some cfg') :
    S.Reachable ok world cfg' := by
  induction moves generalizing cfg with
  | nil => cases played; exact reachable
  | cons m rest ih =>
      rw [play] at played
      cases hmove : S.move choose cfg m with
      | none => rw [hmove] at played; cases played
      | some next =>
          obtain ⟨l, next⟩ := next
          rw [hmove] at played
          by_cases hcheck : check cfg l = true
          · simp only [hcheck, if_true] at played
            exact ih (.step reachable (step_of_move sound hmove) (checked hcheck)) played
          · simp [hcheck] at played

end System

end Interaction
