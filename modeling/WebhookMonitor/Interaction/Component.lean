import WebhookMonitor.Interaction.Embedding

/-!
# A component inside a system

Some calls of a system go through a component with an interface and a world of its own.
Each call of the whole makes other calls first, then runs one program of the component,
if it comes to that, and then ends as the component did.  What is known about the
component on its own then holds inside the whole, whatever happens around it.

* `Context` — a program of the whole around one of the component;
* `Component` — the calls and the world of the component, the calls that leave both
  alone, and how a call of the whole ends;
* `Approaches` — a program that comes to the component at most once;
* `Hosts` — a call of the whole with its part in the component;
* `Component.Tracks` — the parts of all calls; by `Tracks.step` a step of the whole is one
  of the component or leaves it alone;
* `Component.project` — a run of the whole is a run of the component;
* `Hosts.ended` — and a call that has ended has done so as its part says.
-/

namespace Interaction

variable {I J : Interface} {ε ε' α β ι κ σ τ : Type}

/-! ## Contexts -/

/-- A program of the whole around one of the component, whose calls it makes. -/
structure Context (f : Embedding J I) (ε' β ε α : Type) where
  fill : Program J ε' β → Program I ε α
  fill_call : ∀ (c : J.Call) (k : J.Answer c → Program J ε' β),
    fill (.call c k) = .call (f.call c) fun a => fill (k ((f.answer c).symm a))

/-- Every call is `quiet`, and every outcome satisfies `post`. -/
def Quiet (quiet : I.Call → Prop) (post : Except ε α → Prop) : Program I ε α → Prop
  | .ret a => post (.ok a)
  | .raise e => post (.error e)
  | .call c k => quiet c ∧ ∀ a, Quiet quiet post (k a)

/-- A program that keeps to quiet calls after some history. -/
theorem Quiet.of_meets {quiet : I.Call → Prop} {post : Except ε α → Prop} {p : Program I ε α}
    {allowed : List (Event I) → I.Call → Prop} {post' : List (Event I) → Except ε α → Prop}
    {h : List (Event I)} (calls : ∀ h c, allowed h c → quiet c) (ends : ∀ h r, post' h r → post r)
    (meets : Meets allowed post' p h) : Quiet quiet post p := by
  induction p generalizing h with
  | ret a => exact ends _ _ meets
  | raise e => exact ends _ _ meets
  | call c k ih => exact ⟨calls _ _ meets.1, fun a => ih a (meets.2 a)⟩

/-- A run of such a program makes quiet calls, and what is left of it does. -/
theorem Quiet.of_trace {quiet : I.Call → Prop} {post : Except ε α → Prop} {p q : Program I ε α}
    {es : List (Event I)} (keeps : Quiet quiet post p) (trace : Trace p es q) :
    (∀ e ∈ es, quiet e.call) ∧ Quiet quiet post q := by
  induction trace with
  | refl p => exact ⟨fun _ mem => absurd mem List.not_mem_nil, keeps⟩
  | call answer rest ih =>
      obtain ⟨calls, left⟩ := ih (keeps.2 answer)
      refine ⟨fun e mem => ?_, left⟩
      rcases List.mem_cons.mp mem with rfl | mem
      · exact keeps.1
      · exact calls e mem

/-! ## Components -/

/-- The system `T` as a component of `S`. -/
structure Component (S : System I ε α ι σ) (T : System J ε' β κ τ) where
  calls : Embedding J I
  view : Event I → Option (Event J)
  world : σ → τ
  /-- The request of the whole may come to the component with this one. -/
  asks : ι → κ → Prop
  /-- The call has nothing to do with the component. -/
  quiet : I.Call → Prop
  /-- How a call ends that has not come to the component. -/
  apart : Except ε α → Prop
  /-- How a call ends after its part in the component. -/
  ends : κ → Except ε' β → Except ε α → Prop
  own : ∀ e, view (calls.event e) = some e
  silent : ∀ {c : I.Call} {a : I.Answer c}, quiet c → view ⟨c, a⟩ = none
  same : ∀ {w w' : σ} {c : I.Call} {a : I.Answer c}, quiet c → S.answers w c a w' →
    world w' = world w
  answers : ∀ {w w' : σ} {c : J.Call} {a : I.Answer (calls.call c)},
    S.answers w (calls.call c) a w' → T.answers (world w) c ((calls.answer c).symm a) (world w')

namespace Component

variable {S : System I ε α ι σ} {T : System J ε' β κ τ} (C : Component S T)

/-- What is around the part of a call is quiet, and ends as it may. -/
def Finishes (K : Context C.calls ε' β ε α) (request : κ) : Prop :=
  ∀ r, Quiet C.quiet (C.ends request r) (K.fill (Program.ofExcept r))

/-- The program of a request comes to the component at most once. -/
inductive Approaches (asked : ι) : Program I ε α → Prop where
  | apart {p : Program I ε α} (quiet : Quiet C.quiet C.apart p) : Approaches asked p
  | call {c : I.Call} {k : I.Answer c → Program I ε α} (quiet : C.quiet c)
      (rest : ∀ a, Approaches asked (k a)) : Approaches asked (.call c k)
  | enters (K : Context C.calls ε' β ε α) {request : κ} (asks : C.asks asked request)
      (finishes : C.Finishes K request) : Approaches asked (K.fill (T.program request))

/-- What is left of a request, with its part in the component. -/
inductive Hosts (asked : ι) : Program I ε α → Option (Thread J ε' β κ) → Prop where
  | apart {p : Program I ε α} (quiet : Quiet C.quiet C.apart p) : Hosts asked p none
  | approaching {c : I.Call} {k : I.Answer c → Program I ε α} (quiet : C.quiet c)
      (rest : ∀ a, C.Approaches asked (k a)) : Hosts asked (.call c k) none
  | inside (K : Context C.calls ε' β ε α) {request : κ} (asks : C.asks asked request)
      (finishes : C.Finishes K request) (es : List (Event J)) (q : Program J ε' β) :
      Hosts asked (K.fill q) (some ⟨request, es, q⟩)
  | beyond {p : Program I ε α} {request : κ} {r : Except ε' β} (asks : C.asks asked request)
      (quiet : Quiet C.quiet (C.ends request r) p) (es : List (Event J)) :
      Hosts asked p (some ⟨request, es, Program.ofExcept r⟩)

/-- What the part of a call has seen. -/
def seen (t : Option (Thread J ε' β κ)) : List (Event J) := t.elim [] (·.history)

/-- A call with its part: what the part has seen is what the view shows. -/
structure Hosted (t : Thread I ε α ι) (part : Option (Thread J ε' β κ)) : Prop where
  hosts : C.Hosts t.request t.rest part
  shows : seen part = t.history.filterMap C.view

variable {C} {asked : ι}

/-- A program that approaches the component is there, or is not yet. -/
theorem Approaches.settle {p : Program I ε α} (approaches : C.Approaches asked p) :
    C.Hosts asked p none ∨ ∃ request, C.Hosts asked p (some ⟨request, [], T.program request⟩) := by
  cases approaches with
  | apart quiet => exact .inl (.apart quiet)
  | call quiet rest => exact .inl (.approaching quiet rest)
  | enters K asks finishes => exact .inr ⟨_, .inside K asks finishes [] _⟩

/-- The part of a request is one it asks for. -/
theorem Hosts.asks {p : Program I ε α} {part : Thread J ε' β κ}
    (hosts : C.Hosts asked p (some part)) : C.asks asked part.request := by
  cases hosts with
  | inside K asks finishes es q => exact asks
  | beyond asks quiet es => exact asks

/-- A request whose part makes a call makes that call. -/
theorem Hosts.call {p : Program I ε α} {request : κ} {es : List (Event J)} {c : J.Call}
    {k : J.Answer c → Program J ε' β} (hosts : C.Hosts asked p (some ⟨request, es, .call c k⟩)) :
    ∃ k', p = .call (C.calls.call c) k' := by
  generalize part : (Program.call c k : Program J ε' β) = q at hosts
  cases hosts with
  | inside K asks finishes es q =>
      rw [← part, K.fill_call]
      exact ⟨_, rfl⟩
  | @beyond p request r asks quiet es => cases r <;> cases part

/-- And one that makes such a call has a part that makes it. -/
theorem Hosts.of_call {c : J.Call} {k : I.Answer (C.calls.call c) → Program I ε α}
    {part : Option (Thread J ε' β κ)} (hosts : C.Hosts asked (.call (C.calls.call c) k) part)
    (loud : ¬ C.quiet (C.calls.call c))
    (only : ∀ c', C.calls.call c' = C.calls.call c → c' = c) :
    ∃ request es k', part = some ⟨request, es, .call c k'⟩ := by
  generalize asks : (Program.call (C.calls.call c) k : Program I ε α) = p at hosts
  cases hosts with
  | apart quiet =>
      subst asks
      exact absurd quiet.1 loud
  | approaching quiet rest =>
      cases asks
      exact absurd quiet loud
  | beyond _ quiet es =>
      subst asks
      exact absurd quiet.1 loud
  | inside K _ finishes es q =>
      cases q with
      | ret b =>
          have quiet := finishes (.ok b)
          rw [Program.ofExcept, ← asks] at quiet
          exact absurd quiet.1 loud
      | raise e =>
          have quiet := finishes (.error e)
          rw [Program.ofExcept, ← asks] at quiet
          exact absurd quiet.1 loud
      | call c' k' =>
          rw [K.fill_call] at asks
          injection asks with same
          obtain rfl := only c' same.symm
          exact ⟨_, es, k', rfl⟩

/-- A request that has ended did so as its part says. -/
theorem Hosts.ended {r : Except ε α} {part : Option (Thread J ε' β κ)}
    (hosts : C.Hosts asked (Program.ofExcept r) part) :
    (part = none ∧ C.apart r) ∨
      ∃ request es r', part = some ⟨request, es, Program.ofExcept r'⟩ ∧ C.ends request r' r := by
  have post : ∀ {P : Except ε α → Prop}, Quiet C.quiet P (Program.ofExcept r) → P r := by
    intro P quiet
    cases r <;> exact quiet
  generalize ended : Program.ofExcept r = p at hosts
  cases hosts with
  | apart quiet => exact .inl ⟨rfl, post (ended ▸ quiet)⟩
  | approaching quiet rest => cases r <;> cases ended
  | beyond asks quiet es => exact .inr ⟨_, es, _, rfl, post (ended ▸ quiet)⟩
  | inside K asks finishes es q =>
      cases q with
      | ret b => exact .inr ⟨_, es, .ok b, rfl, post (ended ▸ finishes (.ok b))⟩
      | raise e => exact .inr ⟨_, es, .error e, rfl, post (ended ▸ finishes (.error e))⟩
      | call c k =>
          rw [K.fill_call] at ended
          cases r <;> cases ended

/-! ## Runs -/

/-- What becomes of the part of a call in a step of the whole: nothing, its start, or an
answer. -/
inductive Moves (T : System J ε' β κ τ) (w w' : τ) :
    Option (Thread J ε' β κ) → Option (Thread J ε' β κ) → Prop where
  | stays (same : w' = w) (part : Option (Thread J ε' β κ)) : Moves T w w' part part
  | enters (same : w' = w) (request : κ) :
      Moves T w w' none (some ⟨request, [], T.program request⟩)
  | answered {request : κ} {es : List (Event J)} {c : J.Call} {k : J.Answer c → Program J ε' β}
      {a : J.Answer c} (answered : T.answers w c a w') :
      Moves T w w' (some ⟨request, es, .call c k⟩) (some ⟨request, es ++ [⟨c, a⟩], k a⟩)

/-- One answer, with what becomes of the part. -/
theorem Hosted.answer {request : ι} {h : List (Event I)} {c : I.Call}
    {k : I.Answer c → Program I ε α} {a : I.Answer c} {w w' : σ} {part : Option (Thread J ε' β κ)}
    (hosted : C.Hosted ⟨request, h, .call c k⟩ part) (answered : S.answers w c a w') :
    ∃ part', Moves T (C.world w) (C.world w') part part' ∧
      C.Hosted ⟨request, h ++ [⟨c, a⟩], k a⟩ part' := by
  have silent : C.quiet c → seen part = (h ++ [(⟨c, a⟩ : Event I)]).filterMap C.view := by
    intro quiet
    rw [List.filterMap_append, hosted.shows, List.filterMap_cons_none (C.silent quiet),
      List.filterMap_nil, List.append_nil]
  obtain ⟨hosts, shows⟩ := hosted
  generalize pending : (Program.call c k : Program I ε α) = p at hosts
  cases hosts with
  | apart quiet =>
      subst pending
      exact ⟨none, .stays (C.same quiet.1 answered) _, .apart (quiet.2 a), silent quiet.1⟩
  | approaching quiet rest =>
      cases pending
      rcases (rest a).settle with hosts | ⟨request, hosts⟩
      · exact ⟨none, .stays (C.same quiet answered) _, hosts, silent quiet⟩
      · exact ⟨_, .enters (C.same quiet answered) request, hosts, silent quiet⟩
  | beyond asks quiet es =>
      subst pending
      exact ⟨_, .stays (C.same quiet.1 answered) _, .beyond asks (quiet.2 a) es, silent quiet.1⟩
  | @inside K mine asks finishes es q =>
      replace pending : Program.call c k = K.fill q := pending
      -- the part has ended and the call goes on, or the call is one of the part
      have after : ∀ r, Program.ofExcept r = q → ∃ part',
          Moves T (C.world w) (C.world w') (some ⟨mine, es, q⟩) part' ∧
            C.Hosted ⟨request, h ++ [(⟨c, a⟩ : Event I)], k a⟩ part' := by
        intro r ended
        subst ended
        have quiet := finishes r
        rw [← pending] at quiet
        exact ⟨_, .stays (C.same quiet.1 answered) _, .beyond asks (quiet.2 a) es, silent quiet.1⟩
      cases q with
      | ret b => exact after (.ok b) rfl
      | raise e => exact after (.error e) rfl
      | call c' k' =>
          rw [K.fill_call] at pending
          injection pending with hc hk
          subst hc
          rw [heq_eq_eq] at hk
          subst hk
          refine ⟨_, .answered (C.answers answered), .inside K asks finishes _ _, ?_⟩
          have shown : C.view ⟨C.calls.call c', a⟩ = some ⟨c', (C.calls.answer c').symm a⟩ := by
            rw [← C.own ⟨c', (C.calls.answer c').symm a⟩, Embedding.event, Equiv.apply_symm_apply]
          rw [List.filterMap_append, ← shows, List.filterMap_cons_some shown]
          rfl

variable (C) in
/-- The parts of all calls, in the world of the component. -/
structure Tracks (cfg : Config I ε α ι σ) (parts : Config J ε' β κ τ) : Prop where
  world : parts.world = C.world cfg.world
  absent : ∀ i, cfg.threads i = none → parts.threads i = none
  hosted : ∀ i t, cfg.threads i = some t → C.Hosted t (parts.threads i)

/-- The part of one call moves, those of the others stay. -/
theorem Tracks.set {cfg : Config I ε α ι σ} {parts parts' : Config J ε' β κ τ}
    (tracks : C.Tracks cfg parts) {i : ℕ} {w' : σ} {t' : Thread I ε α ι}
    (world : parts'.world = C.world w') (hosts : C.Hosted t' (parts'.threads i))
    (others : ∀ j, j ≠ i → parts'.threads j = parts.threads j) :
    C.Tracks (cfg.set w' i t') parts' := by
  refine ⟨world, fun j free => ?_, fun j t running => ?_⟩
  · have other : j ≠ i := by
      rintro rfl
      rw [Config.set_self] at free
      cases free
    rw [Config.set_of_ne _ _ _ other] at free
    rw [others j other, tracks.absent j free]
  · obtain ⟨rfl, rfl⟩ | ⟨other, running⟩ := Config.set_cases running
    · exact hosts
    · rw [others j other]
      exact tracks.hosted j t running

/-- With the move of its part a call takes its step, which is one of the component or none. -/
theorem Tracks.moved {cfg : Config I ε α ι σ} {parts : Config J ε' β κ τ}
    (tracks : C.Tracks cfg parts) {i : ℕ} {w' : σ} {t' : Thread I ε α ι}
    {part' : Option (Thread J ε' β κ)}
    (moves : Moves T parts.world (C.world w') (parts.threads i) part')
    (hosts : C.Hosted t' part') :
    ∃ parts', C.Tracks (cfg.set w' i t') parts' ∧
      (parts' = parts ∨ ∃ l, T.Step parts l parts') := by
  generalize before : parts.threads i = part at moves
  cases moves with
  | stays same =>
      exact ⟨parts, tracks.set same.symm (before ▸ hosts) fun _ _ => rfl, .inl rfl⟩
  | enters same request =>
      refine ⟨parts.set parts.world i ⟨request, [], T.program request⟩,
        tracks.set same.symm ?_ fun j other => Config.set_of_ne _ _ _ other,
        .inr ⟨_, .spawn request before⟩⟩
      rw [Config.set_self]
      exact hosts
  | @answered request es c k a answered =>
      refine ⟨parts.set (C.world w') i ⟨request, es ++ [⟨c, a⟩], k a⟩,
        tracks.set rfl ?_ fun j other => Config.set_of_ne _ _ _ other,
        .inr ⟨_, .answer before answered⟩⟩
      rw [Config.set_self]
      exact hosts

/-- The step lemma. -/
theorem Tracks.step (approaches : ∀ request, C.Approaches request (S.program request))
    {cfg cfg' : Config I ε α ι σ} {parts : Config J ε' β κ τ} {l : Label I ι}
    (tracks : C.Tracks cfg parts) (step : S.Step cfg l cfg') :
    ∃ parts', C.Tracks cfg' parts' ∧ (parts' = parts ∨ ∃ l, T.Step parts l parts') := by
  cases step with
  | @spawn i request free =>
      have absent := tracks.absent i free
      rcases (approaches request).settle with hosts | ⟨part, hosts⟩
      · have moves : Moves T parts.world (C.world cfg.world) (parts.threads i) none := by
          rw [absent]
          exact .stays tracks.world.symm none
        exact tracks.moved moves ⟨hosts, rfl⟩
      · have moves : Moves T parts.world (C.world cfg.world) (parts.threads i)
            (some ⟨part, [], T.program part⟩) := by
          rw [absent]
          exact .enters tracks.world.symm part
        exact tracks.moved moves ⟨hosts, rfl⟩
  | @answer i request h c k a w' pending answered =>
      obtain ⟨part', moves, hosts⟩ := (tracks.hosted i _ pending).answer answered
      exact tracks.moved (tracks.world ▸ moves) hosts

variable (C) in
/-- At the start there are no parts. -/
theorem tracks_initial (world : σ) :
    C.Tracks (Config.initial world) (Config.initial (C.world world)) :=
  ⟨rfl, fun _ _ => rfl, fun i t running => by cases running⟩

/-- **Projection.**  A run of the whole is a run of the component: same world, and each
call has its part. -/
theorem project (approaches : ∀ request, C.Approaches request (S.program request))
    {ok : Config I ε α ι σ → Label I ι → Prop} {world : σ} {cfg : Config I ε α ι σ}
    (reachable : S.Reachable ok world cfg) :
    ∃ parts, T.Reachable (fun _ _ => True) (C.world world) parts ∧ C.Tracks cfg parts := by
  induction reachable with
  | initial => exact ⟨_, .initial, C.tracks_initial world⟩
  | step _ step _ ih =>
      obtain ⟨parts, run, tracks⟩ := ih
      obtain ⟨parts', tracks', rfl | ⟨l, step'⟩⟩ := tracks.step approaches step
      · exact ⟨parts', run, tracks'⟩
      · exact ⟨parts', .step run step' trivial, tracks'⟩

end Component

end Interaction
