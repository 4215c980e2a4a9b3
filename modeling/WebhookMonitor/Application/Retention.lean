import WebhookMonitor.Application.Durability

/-!
# What the memory keeps

The in-memory store keeps the newest attempts and drops the oldest ones.  `addedBy` says
which attempt an event adds, so a run shows the attempts it has added, in their order.

* `WebhooksKept` — the store against that order: it has the newest attempts, the latest
  first, and every one of them is the one of a signed webhook;
* `memory_webhooks_kept` — in every run from an empty store.

An acknowledged attempt is dropped for newer ones alone: it is in the store as long as
fewer than `maxEvents` attempts have been added after it.
-/

namespace WebhookMonitor

open Python Interaction ApplicationCall

variable {κ : Type}

/-- The attempt an event adds. -/
def addedBy : Event (ApplicationEffects κ) → Option DeliveryAttempt
  | ⟨.store (.appendLeft attempt), _⟩ => some attempt
  | _ => none

/-- An event that adds an attempt is one of an addition. -/
theorem addedBy_eq_none {e : Event (ApplicationEffects κ)} (quiet : e.call.isAddition = false) :
    addedBy e = none := by
  obtain ⟨c, a⟩ := e
  cases c with
  | store c =>
      cases c with
      | appendLeft attempt => cases quiet
      | statement | getAttempt | listRecent | listAttemptsPage => rfl
  | authenticator | service | journal | readinessCheck => rfl

/-- The store against the attempts that requests have `added`, each with the number of its
request. -/
structure WebhooksKept (self : Application κ) {maxEvents : ℕ} {pos : 0 < maxEvents}
    {journal : JournalBackend} (added : List (ℕ × DeliveryAttempt))
    (cfg : Requests κ (memoryDeliveries maxEvents pos) journal) : Prop where
  /-- The store has the newest attempts, the latest first. -/
  newest : InMemoryDeliveryStore.attempts cfg.world.deliveries =
    (added.map Prod.snd).reverse.take maxEvents
  /-- No request adds twice. -/
  once : (added.map Prod.fst).Nodup
  /-- An added attempt is the one of a signed webhook, which has ended: acknowledged, or with
  the error of rendering the answer. -/
  signed : ∀ i attempt, (i, attempt) ∈ added → ∃ t, cfg.threads i = some t ∧
    RequestThread.Signed self t attempt ∧
      (t.rest = .ret (.webhookReceived attempt) ∨
        ∃ e, self.renderJson (webhookReceivedBody attempt) = .error e ∧ t.rest = .raise (.python e))
  /-- An acknowledged attempt has been added, and is in the store until `maxEvents` others
  have been added after it. -/
  acknowledged : ∀ i t attempt, cfg.threads i = some t → t.rest = .ret (.webhookReceived attempt) →
    ∃ before after, added = before ++ (i, attempt) :: after ∧
      (after.length < maxEvents →
        (InMemoryDeliveryStore.attempts cfg.world.deliveries)[after.length]? = some attempt)

section Memory

variable {self : Application κ} {maxEvents : ℕ} {pos : 0 < maxEvents} {journal : JournalBackend}
  {ok : Requests κ (memoryDeliveries maxEvents pos) journal →
    Label (ApplicationEffects κ) Request → Prop}
  {now : Monotonic} {cfg : Requests κ (memoryDeliveries maxEvents pos) journal}
  {added : List (ℕ × DeliveryAttempt)}

/-! ## One request -/

/-- A program that has ended does nothing more. -/
theorem eq_of_trace_ofExcept {I : Interface} {ε α : Type} {r : Except ε α} {es : List (Event I)}
    {p : Program I ε α} (trace : Trace (Program.ofExcept r) es p) :
    es = [] ∧ p = Program.ofExcept r := by
  generalize ended : (Program.ofExcept r : Program I ε α) = q at trace
  cases trace with
  | refl => exact ⟨rfl, rfl⟩
  | call answer rest => cases r <;> cases ended

/-- A webhook has added nothing and is not acknowledged, or has added its attempt and ended. -/
theorem webhook_trace {headers : WebhookHeaders} {chunks : List Bytes} {h : ApplicationHistory κ}
    {p : Handler κ Answer}
    (trace : Trace ((self.over (memoryDeliveries maxEvents pos) journal).handle
      (.githubWebhook headers chunks)) h p) :
    (h.filterMap addedBy = [] ∧ ∀ answer, p ≠ .ret answer) ∨
      ∃ attemptId now attempt, self.FromWebhook headers chunks attemptId now attempt ∧
        h.filterMap addedBy = [attempt] ∧
        p = Program.ofExcept (self.recorded attempt (.ok ())) := by
  rcases (self.over (memoryDeliveries maxEvents pos) journal).handle_githubWebhook headers chunks
    with ⟨e, same⟩ | ⟨attempt, from_, same⟩
  · rw [same] at trace
    cases trace with
    | refl => exact .inl ⟨rfl, fun answer ended => by cases ended⟩
  · rw [same] at trace
    cases trace with
    | refl => exact .inl ⟨rfl, fun answer ended => by cases ended⟩
    | call attemptId trace =>
        cases trace with
        | refl => exact .inl ⟨rfl, fun answer ended => by cases ended⟩
        | call now trace =>
            -- the identifier and the time are drawn, and the attempt is built
            have added :
                self.recording (attempt attemptId now) (memoryAdd (attempt attemptId now)) =
                .call (.store (.appendLeft (attempt attemptId now))) fun _ =>
                  self.recording (attempt attemptId now) (Program.ofExcept (.ok ())) := rfl
            change Trace (self.recording _ (memoryAdd _)) _ _ at trace
            rw [added, self.recording_ofExcept] at trace
            cases trace with
            | refl => exact .inl ⟨rfl, fun answer ended => by cases ended⟩
            | call u trace =>
                obtain ⟨rfl, rfl⟩ := eq_of_trace_ofExcept trace
                exact .inr ⟨attemptId, now, _, from_ attemptId now, rfl, rfl⟩

/-- A request has added nothing and acknowledges nothing, or it is a signed webhook that has
added its attempt and ended. -/
theorem reachable_added
    (reachable : (applicationSystem self (memoryDeliveries maxEvents pos) journal).Reachable ok
      (SharedWorld.start (memoryDeliveries maxEvents pos) journal now) cfg)
    {i : ℕ} {t : RequestThread κ} (running : cfg.threads i = some t) :
    (t.history.filterMap addedBy = [] ∧ ∀ attempt, t.rest ≠ .ret (.webhookReceived attempt)) ∨
      ∃ attempt, RequestThread.Signed self t attempt ∧ t.history.filterMap addedBy = [attempt] ∧
        t.rest = Program.ofExcept (self.recorded attempt (.ok ())) := by
  have trace := reachable.trace running
  by_cases webhook : ∃ headers chunks, t.request = .githubWebhook headers chunks
  · obtain ⟨headers, chunks, webhook⟩ := webhook
    rw [webhook] at trace
    rcases webhook_trace trace with
      ⟨nothing, unanswered⟩ | ⟨attemptId, now, attempt, from_, one, ended⟩
    · exact .inl ⟨nothing, fun attempt => unanswered _⟩
    · exact .inr ⟨attempt, ⟨headers, chunks, attemptId, now, webhook, from_⟩, one, ended⟩
  · have quiet := quiet_of_route self (memoryDeliveries maxEvents pos) journal
      fun headers chunks same => webhook ⟨headers, chunks, same⟩
    obtain ⟨calls, rest⟩ := quiet.of_trace trace
    refine .inl ⟨List.filterMap_eq_nil_iff.mpr fun e mem => addedBy_eq_none (calls e mem), ?_⟩
    intro attempt ended
    rw [ended] at rest
    exact rest attempt rfl

/-! ## The store -/

/-- The store has the newest of the attempts that were `added`, the latest first. -/
def InMemoryDeliveryStore.HasNewest (store : InMemoryDeliveryStore)
    (added : List DeliveryAttempt) : Prop :=
  store.attempts = added.reverse.take store.maxEvents

/-- An `add` drops the oldest attempt, if anything. -/
theorem InMemoryDeliveryStore.HasNewest.add {store : InMemoryDeliveryStore}
    {added : List DeliveryAttempt} (newest : store.HasNewest added) (attempt : DeliveryAttempt) :
    (store.add attempt).HasNewest (added ++ [attempt]) := by
  unfold HasNewest at newest ⊢
  rw [add_attempts, newest, take_cons_take, add_maxEvents, List.reverse_append]
  rfl

/-- A call adds what its event says. -/
theorem InMemoryDeliveryStore.HasNewest.answers {store store' : InMemoryDeliveryStore}
    {added : List DeliveryAttempt} {c : StoreCall} {a : c.Answer} (newest : store.HasNewest added)
    (answered : store.Answers c a store') :
    store'.HasNewest (added ++ (addedBy (κ := κ) ⟨.store c, a⟩).toList) ∧
      store'.maxEvents = store.maxEvents := by
  cases c with
  | statement c => exact answered.elim
  | appendLeft attempt =>
      obtain rfl : store' = store.add attempt := answered
      exact ⟨newest.add attempt, rfl⟩
  | getAttempt | listRecent | listAttemptsPage =>
      have same : store' = store := by
        cases a with
        | error e => exact answered
        | ok found => exact answered.2
      rw [same]
      exact ⟨(List.append_nil added).symm ▸ newest, rfl⟩

/-- After every run the store has the newest attempts. -/
theorem hasNewest
    (run : (applicationSystem self (memoryDeliveries maxEvents pos) journal).Shows addedBy ok
      (SharedWorld.start (memoryDeliveries maxEvents pos) journal now) added cfg) :
    InMemoryDeliveryStore.HasNewest cfg.world.deliveries (added.map Prod.snd) ∧
      InMemoryDeliveryStore.maxEvents cfg.world.deliveries = maxEvents := by
  induction run with
  | initial => exact ⟨List.take_nil.symm, rfl⟩
  | @step added cfg cfg' l before step _ ih =>
      obtain ⟨newest, bound⟩ := ih
      cases step with
      | spawn request free =>
          rw [show Label.shown addedBy (.spawn _ request) = none from rfl, Option.toList_none,
            List.append_nil]
          exact ⟨newest, bound⟩
      | @answer i request h c k a w pending answered =>
          rw [List.map_append, Label.shown_answer]
          cases answered with
          | store answered =>
              obtain ⟨newest, same⟩ := newest.answers answered
              exact ⟨newest, same.trans bound⟩
          | authenticator | service | journal | readinessCheck =>
              exact ⟨(List.append_nil (added.map Prod.snd)).symm ▸ newest, bound⟩

/-! ## What the run has added -/

/-- Of each request it shows one attempt at most. -/
theorem length_added_le
    (run : (applicationSystem self (memoryDeliveries maxEvents pos) journal).Shows addedBy ok
      (SharedWorld.start (memoryDeliveries maxEvents pos) journal now) added cfg) (i : ℕ) :
    (cfg.shown addedBy i).length ≤ 1 := by
  cases running : cfg.threads i with
  | none => simp [Config.shown, running]
  | some t =>
      rw [Config.shown_of_running running]
      rcases reachable_added run.reachable running with ⟨nothing, -⟩ | ⟨attempt, -, one, -⟩
      · simp [nothing]
      · simp [one]

/-- An added attempt is the one of a request that is signed and has ended. -/
theorem ended_of_added
    (run : (applicationSystem self (memoryDeliveries maxEvents pos) journal).Shows addedBy ok
      (SharedWorld.start (memoryDeliveries maxEvents pos) journal now) added cfg)
    {i : ℕ} {attempt : DeliveryAttempt} (mem : (i, attempt) ∈ added) :
    ∃ t, cfg.threads i = some t ∧ RequestThread.Signed self t attempt ∧
      t.rest = Program.ofExcept (self.recorded attempt (.ok ())) := by
  have shown := run.mem_iff.mp mem
  cases running : cfg.threads i with
  | none => simp [Config.shown, running] at shown
  | some t =>
      rw [Config.shown_of_running running] at shown
      rcases reachable_added run.reachable running with ⟨nothing, -⟩ | ⟨own, signed, one, ended⟩
      · simp [nothing] at shown
      · rw [one] at shown
        obtain rfl := List.mem_singleton.mp shown
        exact ⟨t, rfl, signed, ended⟩

/-- An acknowledged attempt has been added. -/
theorem added_of_acknowledged
    (run : (applicationSystem self (memoryDeliveries maxEvents pos) journal).Shows addedBy ok
      (SharedWorld.start (memoryDeliveries maxEvents pos) journal now) added cfg)
    {i : ℕ} {t : RequestThread κ} {attempt : DeliveryAttempt} (running : cfg.threads i = some t)
    (acknowledged : t.rest = .ret (.webhookReceived attempt)) : (i, attempt) ∈ added := by
  rw [run.mem_iff, Config.shown_of_running running]
  rcases reachable_added run.reachable running with ⟨-, unanswered⟩ | ⟨own, -, one, ended⟩
  · exact absurd acknowledged (unanswered attempt)
  · have same : self.recorded own (.ok ()) = .ok (.webhookReceived attempt) := by
      cases outcome : self.recorded own (.ok ()) with
      | ok answer =>
          rw [acknowledged, outcome] at ended
          cases ended
          rfl
      | error e =>
          rw [acknowledged, outcome] at ended
          cases ended
    obtain ⟨-, same⟩ := Application.recorded_eq_ok same
    obtain rfl : attempt = own := Answer.webhookReceived.inj same
    rw [one]
    exact List.mem_singleton_self attempt

end Memory

/-- The element with `after.length` others behind it, from the back. -/
theorem getElem?_newest {α : Type} (before : List α) (a : α) {after : List α} {n : ℕ}
    (room : after.length < n) :
    ((before ++ a :: after).reverse.take n)[after.length]? = some a := by
  rw [List.getElem?_take_of_lt room, List.reverse_append, List.reverse_cons, List.append_assoc]
  rw [List.getElem?_append_right (by simp)]
  simp

/-- **Retention.**  In every run of requests of all routes over the in-memory store, from an
empty one: the store has the newest of the attempts that were added, the latest first; every one
of them is the one of a signed webhook, which has been acknowledged unless its answer could not
be rendered; and an acknowledged attempt has been added and is in the store until `maxEvents`
newer ones have been. -/
theorem memory_webhooks_kept (self : Application κ) {maxEvents : ℕ} (pos : 0 < maxEvents)
    (journal : JournalBackend) {now : Monotonic} {added : List (ℕ × DeliveryAttempt)}
    {cfg : Requests κ (memoryDeliveries maxEvents pos) journal}
    (run : (applicationSystem self (memoryDeliveries maxEvents pos) journal).Shows addedBy
      (fun _ _ => True) (SharedWorld.start (memoryDeliveries maxEvents pos) journal now)
      added cfg) :
    WebhooksKept self added cfg := by
  obtain ⟨newest, bound⟩ := hasNewest run
  unfold InMemoryDeliveryStore.HasNewest at newest
  rw [bound] at newest
  refine ⟨newest, run.nodup (length_added_le run), ?_, ?_⟩
  · intro i attempt mem
    obtain ⟨t, running, signed, ended⟩ := ended_of_added run mem
    refine ⟨t, running, signed, ?_⟩
    rw [ended]
    cases outcome : self.recorded attempt (.ok ()) with
    | ok answer =>
        obtain ⟨-, rfl⟩ := Application.recorded_eq_ok outcome
        exact .inl rfl
    | error e =>
        obtain ⟨e', raised, rfl⟩ := Application.recorded_eq_error outcome
        exact .inr ⟨e', raised, rfl⟩
  · intro i t attempt running acknowledged
    obtain ⟨before, after, split⟩ :=
      List.append_of_mem (added_of_acknowledged run running acknowledged)
    refine ⟨before, after, split, fun room => ?_⟩
    rw [newest, split, List.map_append, List.map_cons, ← List.length_map Prod.snd]
    exact getElem?_newest _ _ (by rwa [List.length_map])

/-- The request is an acknowledged webhook. -/
def Requests.acknowledged {deliveries : DeliveryBackend} {journal : JournalBackend}
    (cfg : Requests κ deliveries journal) (i : ℕ) : Bool :=
  match cfg.threads i with
  | some ⟨_, _, .ret (.webhookReceived _)⟩ => true
  | _ => false

theorem Requests.exists_of_acknowledged {deliveries : DeliveryBackend} {journal : JournalBackend}
    {cfg : Requests κ deliveries journal} {i : ℕ} (acknowledged : cfg.acknowledged i = true) :
    ∃ t attempt, cfg.threads i = some t ∧ t.rest = .ret (.webhookReceived attempt) := by
  rw [Requests.acknowledged] at acknowledged
  split at acknowledged
  · next request h attempt running => exact ⟨_, attempt, running, rfl⟩
  · cases acknowledged

/-- The application over an in-memory store of three attempts. -/
abbrev retentionSystem :=
  applicationSystem sampleApplication (memoryDeliveries 3 (Nat.succ_pos 2))
    (memoryJournalBackend 1 Nat.one_pos)

/-- Requests to it. -/
abbrev RetentionRequests :=
  Requests Members (memoryDeliveries 3 (Nat.succ_pos 2)) (memoryJournalBackend 1 Nat.one_pos)

/-- Two webhooks, the second under way when the first adds its attempt. -/
def overlappingWebhooks : List (Move Request) :=
  [.start 0 sampleWebhook, .go 0, .start 1 sampleWebhook, .go 1, .go 0, .go 1, .go 0, .go 1]

/-- A run in which both are acknowledged. -/
theorem exists_retentionRun :
    ∃ cfg : RetentionRequests, retentionSystem.Reachable (fun _ _ => True)
        (SharedWorld.start _ _ 0) cfg ∧
      cfg.acknowledged 0 = true ∧ cfg.acknowledged 1 = true ∧
      (InMemoryDeliveryStore.attempts cfg.world.deliveries).length = 2 := by
  have played : (retentionSystem.play
      (SharedWorld.choose InMemoryDeliveryStore.choose (MemoryWorld.choose sampleOutside)
        MemoryWorld.chooseQuery) (fun _ _ => true) (Config.initial (SharedWorld.start _ _ 0))
      overlappingWebhooks).map (fun cfg : RetentionRequests => (cfg.acknowledged 0,
        cfg.acknowledged 1, (InMemoryDeliveryStore.attempts cfg.world.deliveries).length)) =
          some (true, true, 2) := by decide +kernel
  obtain ⟨cfg, reached, shows⟩ := Option.map_eq_some_iff.mp played
  obtain ⟨first, shows⟩ := Prod.mk.inj shows
  exact ⟨cfg, System.reachable_of_play (SharedWorld.choose_sound InMemoryDeliveryStore.choose_sound
    MemoryWorld.choose_sound MemoryWorld.chooseQuery_sound) (fun _ => trivial) .initial reached,
    first, Prod.mk.inj shows⟩

theorem memory_webhooks_kept_sample :
    ∃ (cfg : RetentionRequests) (t t' : RequestThread Members) (attempt attempt' : DeliveryAttempt),
      cfg.threads 0 = some t ∧ t.rest = .ret (.webhookReceived attempt) ∧
      cfg.threads 1 = some t' ∧ t'.rest = .ret (.webhookReceived attempt') ∧
      attempt ∈ InMemoryDeliveryStore.attempts cfg.world.deliveries ∧
      attempt' ∈ InMemoryDeliveryStore.attempts cfg.world.deliveries := by
  obtain ⟨cfg, reachable, first, second, length⟩ := exists_retentionRun
  obtain ⟨added, run⟩ := reachable.exists_shows addedBy
  obtain ⟨t, attempt, running, acknowledged⟩ := Requests.exists_of_acknowledged first
  obtain ⟨t', attempt', running', acknowledged'⟩ := Requests.exists_of_acknowledged second
  obtain ⟨newest, -, -, kept⟩ := memory_webhooks_kept sampleApplication (Nat.succ_pos 2)
    (memoryJournalBackend 1 Nat.one_pos) run
  -- two attempts have been added, and there is room for three
  have two : added.length = 2 := by
    rw [newest, List.length_take, List.length_reverse, List.length_map] at length
    omega
  have stored : ∀ i t attempt, cfg.threads i = some t → t.rest = .ret (.webhookReceived attempt) →
      attempt ∈ InMemoryDeliveryStore.attempts cfg.world.deliveries := by
    intro i t attempt running acknowledged
    obtain ⟨before, after, split, there⟩ := kept i t attempt running acknowledged
    rw [split, List.length_append, List.length_cons] at two
    exact List.mem_of_getElem? (there (by omega))
  exact ⟨cfg, t, t', attempt, attempt', running, acknowledged, running', acknowledged',
    stored 0 t attempt running acknowledged, stored 1 t' attempt' running' acknowledged'⟩

end WebhookMonitor
