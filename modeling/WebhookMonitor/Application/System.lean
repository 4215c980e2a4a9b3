import WebhookMonitor.Application.Backends
import WebhookMonitor.Application.Specification
import WebhookMonitor.Redelivery.Agreement
import WebhookMonitor.Security.SharedCaches
import WebhookMonitor.Webhooks.Acceptance

/-!
# The application under concurrent requests

Requests of all routes side by side, in any number and order.  They share the authenticator,
the delivery store and the journal; GitHub, the identity provider, the clock and the
databases answer what they like.  All runs start from empty stores and caches.

* `ApplicationWorld`, `applicationSystem` — the system;
* `reachable_handle_meets` — each request keeps to what it may do and ends as it may end;
* `Received` — an attempt that a signed webhook of the run has added;
* `received_of_shown` — the delivery store returns no other attempt, to any request;
* `SharedWorld.choose` — a world that picks its answers, for runs along a schedule.
-/

namespace WebhookMonitor

open Python Interaction ApplicationCall

variable {κ : Type}

/-! ## The system -/

/-- What the requests share. -/
structure ApplicationWorld (D J : Type) where
  provider : AuthenticatorWorld
  deliveries : D
  journal : J

section Answers

variable (deliveries : DeliveryBackend) (journal : JournalBackend)

/-- The world of the application over two backends. -/
abbrev SharedWorld := ApplicationWorld deliveries.World journal.World

/-- The start of a run: the stores are empty, and so are the caches.  What is said of the
runs of the application is said of runs from here, so "a webhook of the run" is any webhook
that an attempt can come from. -/
def SharedWorld.start (now : Monotonic) : SharedWorld deliveries journal where
  provider := .start now
  deliveries := deliveries.initial
  journal := journal.initial

/-- The world answers a call and changes. -/
inductive ApplicationWorld.Answers (w : SharedWorld deliveries journal) :
    (c : ApplicationCall κ) → c.Answer → SharedWorld deliveries journal → Prop where
  | authenticator {c : AuthenticatorCall κ} {a : c.Answer} {provider : AuthenticatorWorld}
      (answered : w.provider.Answers c a provider) :
      Answers w (.authenticator c) a { w with provider }
  | service {c : Call} {a : c.Answer} {world : journal.World}
      (answered : journal.answers w.journal c a world) :
      Answers w (.service c) a { w with journal := world }
  | store {c : StoreCall} {a : c.Answer} {world : deliveries.World}
      (answered : deliveries.answers w.deliveries c a world) :
      Answers w (.store c) a { w with deliveries := world }
  | journal {c : JournalQuery} {a : c.Answer} (answered : journal.queries w.journal c a) :
      Answers w (.journal c) a w
  | readinessCheck (a : Except ReadinessFailure Unit) : Answers w .readinessCheck a w

end Answers

/-- The application over two backends. -/
def Application.over (self : Application κ) (deliveries : DeliveryBackend)
    (journal : JournalBackend) : Application κ :=
  { self with
    addAttempt := deliveries.add
    redeliveryService := self.redeliveryService.over journal.toSharedJournal }

/-- Requests to the application. -/
def applicationSystem (self : Application κ) (deliveries : DeliveryBackend)
    (journal : JournalBackend) :
    System (ApplicationEffects κ) AppError Answer Request (SharedWorld deliveries journal) where
  program := (self.over deliveries journal).handle
  answers := ApplicationWorld.Answers deliveries journal

/-- The requests under way, with the world they share. -/
abbrev Requests (κ : Type) (deliveries : DeliveryBackend) (journal : JournalBackend) :=
  Config (ApplicationEffects κ) AppError Answer Request (SharedWorld deliveries journal)

/-- A request under way. -/
abbrev RequestThread (κ : Type) := Thread (ApplicationEffects κ) AppError Answer Request

/-! ## Single requests -/

section Reachable

variable {self : Application κ} {deliveries : DeliveryBackend} {journal : JournalBackend}
  {ok : Requests κ deliveries journal → Label (ApplicationEffects κ) Request → Prop}
  {now : Monotonic} {cfg : Requests κ deliveries journal}

/-- Every request keeps to what it may do. -/
theorem reachable_handle_meets
    (reachable : (applicationSystem self deliveries journal).Reachable ok
      (SharedWorld.start deliveries journal now) cfg)
    {i : ℕ} {t : RequestThread κ} (running : cfg.threads i = some t) :
    Meets ((self.over deliveries journal).MayAsk deliveries.MayAdd t.request)
      ((self.over deliveries journal).MayAnswer t.request) t.rest t.history :=
  reachable.meets (fun request => (self.over deliveries journal).handle_meets deliveries.add_meets
    journal.raises request) running

/-- A call that was made was one the request could make. -/
theorem mayAsk_of_split
    (reachable : (applicationSystem self deliveries journal).Reachable ok
      (SharedWorld.start deliveries journal now) cfg)
    {i : ℕ} {t : RequestThread κ} (running : cfg.threads i = some t)
    {before after : ApplicationHistory κ} {e : Event (ApplicationEffects κ)}
    (split : t.history = before ++ e :: after) :
    (self.over deliveries journal).MayAsk deliveries.MayAdd t.request before e.call := by
  have trace := reachable.trace running
  rw [split] at trace
  have allowed := ((self.over deliveries journal).handle_meets deliveries.add_meets
    journal.raises t.request).allowed_of_trace trace
  rwa [List.nil_append] at allowed

/-- What every call a request may make keeps of a history, the histories of all requests
have. -/
theorem reachable_history {P : ApplicationHistory κ → Prop} (initial : P [])
    (kept : ∀ {request h c} (a : c.Answer),
      (self.over deliveries journal).MayAsk deliveries.MayAdd request h c → P h →
        P (h ++ [⟨c, a⟩]))
    (reachable : (applicationSystem self deliveries journal).Reachable ok
      (SharedWorld.start deliveries journal now) cfg)
    {i : ℕ} {t : RequestThread κ} (running : cfg.threads i = some t) : P t.history := by
  have holds := ((self.over deliveries journal).handle_meets deliveries.add_meets
    journal.raises t.request).history_invariant (P := P) (fun a may holds => kept a may holds)
    (reachable.trace running) initial
  rwa [List.nil_append] at holds

/-! ## The delivery store -/

/-- The store keeps what it keeps. -/
theorem reachable_sound
    (reachable : (applicationSystem self deliveries journal).Reachable ok
      (SharedWorld.start deliveries journal now) cfg) : deliveries.Sound cfg.world.deliveries := by
  refine System.Reachable.invariant (P := fun cfg => deliveries.Sound cfg.world.deliveries)
    deliveries.sound_initial ?_ reachable
  intro cfg l cfg' _ sound step _
  cases step with
  | spawn request free => exact sound
  | answer pending answered =>
      cases answered with
      | store answered => exact (deliveries.step sound answered).1
      | authenticator | service | journal | readinessCheck => exact sound

/-- What the store has told a request stays true. -/
theorem reachable_told
    (reachable : (applicationSystem self deliveries journal).Reachable ok
      (SharedWorld.start deliveries journal now) cfg)
    {i : ℕ} {t : RequestThread κ} (running : cfg.threads i = some t) {e : Event StoreEffects}
    (mem : e ∈ storeHistory t.history) : deliveries.Told e cfg.world.deliveries := by
  obtain ⟨e', there, shown⟩ := List.mem_filterMap.mp mem
  refine System.Reachable.remembered (Q := fun e' cfg => ∀ e, storeEvent e' = some e →
    deliveries.Told e cfg.world.deliveries) ?_ ?_ reachable running e' there e shown
  · rintro cfg i request history c k a w before pending answered e shown
    cases answered with
    | store answered =>
        cases shown
        exact (deliveries.step (reachable_sound before) answered).2.1
    | authenticator | service | journal | readinessCheck => cases shown
  · intro cfg l cfg' e' before step told e shown
    cases step with
    | spawn request free => exact told e shown
    | answer pending answered =>
        cases answered with
        | store answered =>
            exact (deliveries.step (reachable_sound before) answered).2.2.1 e (told e shown)
        | authenticator | service | journal | readinessCheck => exact told e shown

/-- The event is the one of a signed webhook that has written the row of its attempt. -/
def Writes (self : Application κ) (deliveries : DeliveryBackend) (added : DeliveryAttempt)
    (row : deliveries.Row) (request : Request) (before : ApplicationHistory κ)
    (e : Event (ApplicationEffects κ)) : Prop :=
  ∃ headers chunks attemptId now es c, ∃ a : c.Answer,
    request = .githubWebhook headers chunks ∧ Application.Stamped attemptId now es before ∧
    self.FromWebhook headers chunks attemptId now added ∧ e = ⟨.store c, a⟩ ∧
    deliveries.MayAdd added es c ∧ deliveries.Wrote ⟨c, a⟩ row

/-- The attempt is read from the row that a signed webhook has written. -/
def Received (self : Application κ) (cfg : Requests κ deliveries journal)
    (attempt : DeliveryAttempt) : Prop :=
  ∃ added row, cfg.Happened (Writes self deliveries added row) ∧ deliveries.ReadsAs added attempt

/-- Only webhooks do more than ask the store. -/
theorem isQuery_of_mayAsk {MayAdd : DeliveryAttempt → List (Event StoreEffects) → StoreCall → Prop}
    {request : Request} {h : ApplicationHistory κ} {c : StoreCall}
    (may : self.MayAsk MayAdd request h (.store c)) :
    c.isQuery = true ∨ ∃ headers chunks attemptId now attempt es,
      request = .githubWebhook headers chunks ∧ Application.Stamped attemptId now es h ∧
      self.FromWebhook headers chunks attemptId now attempt ∧ MayAdd attempt es c := by
  cases request with
  | githubWebhook headers chunks =>
      obtain ⟨-, ⟨-, ask⟩ | ⟨attemptId, -, ask⟩ | ⟨attemptId, now, attempt, es, c', stamped, from_,
        ask, may⟩⟩ := may
      · cases ask
      · cases ask
      · cases ask
        exact .inr ⟨headers, chunks, attemptId, now, attempt, es, rfl, stamped, from_, may⟩
  | listDeliveryAttempts credentials limit cursor =>
      obtain ⟨-, c', ask⟩ | ⟨authorization, n, after, -, ask⟩ := may
      · cases ask
      · cases ask
        exact .inl rfl
  | getDeliveryAttempt credentials attemptId =>
      obtain ⟨-, c', ask⟩ | ⟨authorization, id, -, -, ask⟩ := may
      · cases ask
      · cases ask
        exact .inl rfl
  | reconcileGithubDeliveries credentials attemptId cursor =>
      obtain ⟨-, c', ask⟩ | ⟨authorization, id, -, -, ask⟩ |
        ⟨authorization, attempt, es, c', owner, repository, start, -, ask, -⟩ := may
      · cases ask
      · cases ask
        exact .inl rfl
      · cases ask
  | requestGithubRedelivery credentials attemptId githubDeliveryId =>
      obtain ⟨-, c', ask⟩ | ⟨authorization, id, -, -, ask⟩ | ⟨request, es, c', -, -, ask, -⟩ := may
      · cases ask
      · cases ask
        exact .inl rfl
      · cases ask
  | listRecoveryActions credentials limit cursor =>
      obtain ⟨-, c', ask⟩ | ⟨authorization, n, after, -, ask⟩ := may
      · cases ask
      · cases ask
  | getRecoveryAction credentials actionId =>
      obtain ⟨-, c', ask⟩ | ⟨authorization, id, -, -, ask⟩ := may
      · cases ask
      · cases ask
  | getEvents credentials =>
      obtain ⟨-, c', ask⟩ | ⟨authorization, -, ask⟩ := may
      · cases ask
      · cases ask
        exact .inl rfl
  | health => exact may.elim
  | ready => cases may.2

/-- Every row was written by a signed webhook. -/
theorem reachable_row
    (reachable : (applicationSystem self deliveries journal).Reachable ok
      (SharedWorld.start deliveries journal now) cfg) {row : deliveries.Row}
    (there : deliveries.Holds cfg.world.deliveries row) :
    ∃ added, cfg.Happened (Writes self deliveries added row) := by
  have wrote := System.Reachable.written
    (H := fun w row => deliveries.Holds w.deliveries row)
    (W := fun row request before e => ∃ added, Writes self deliveries added row request before e)
    ?_ reachable there
  · rcases wrote with old | ⟨i, t, before, e, after, running, split, added, wrote⟩
    · exact absurd old (deliveries.empty_initial row)
    · exact ⟨added, i, t, before, e, after, running, split, wrote⟩
  · intro cfg i request h c k a w row before pending answered there
    cases answered with
    | @store c a world answered =>
        rcases (deliveries.step (reachable_sound before) answered).2.2.2 row there with old | wrote
        · exact .inl old
        · refine .inr ?_
          rcases isQuery_of_mayAsk (reachable_handle_meets before pending).1 with query |
            ⟨headers, chunks, attemptId, now, attempt, es, rfl, stamped, from_, may⟩
          · exact absurd wrote (deliveries.query_writes_nothing query)
          · exact ⟨attempt, headers, chunks, attemptId, now, es, c, a, rfl, stamped, from_, rfl,
              may, wrote⟩
    | authenticator | service | journal | readinessCheck => exact .inl there

/-- What the store returns to a request, a signed webhook has added. -/
theorem received_of_shown
    (reachable : (applicationSystem self deliveries journal).Reachable ok
      (SharedWorld.start deliveries journal now) cfg)
    {i : ℕ} {t : RequestThread κ} (running : cfg.threads i = some t) {attempt : DeliveryAttempt}
    (shown : attempt ∈ shownAttempts t.history) : Received self cfg attempt := by
  obtain ⟨e', there, returned⟩ := List.mem_flatMap.mp shown
  obtain ⟨e, mem, isStore⟩ := List.mem_filterMap.mp there
  refine System.Reachable.remembered (Q := fun e cfg => ∀ e', storeEvent e = some e' →
    attempt ∈ returnedAttempts e' → Received self cfg attempt) ?_ ?_ reachable running e mem e'
    isStore returned
  · intro cfg i request h c k a w before pending answered e' isStore returned
    cases answered with
    | store answered =>
        cases isStore
        obtain ⟨row, held, reads⟩ := deliveries.reads (reachable_sound before) answered returned
        obtain ⟨added, happened⟩ := reachable_row before held
        refine ⟨added, row, happened.step (S := applicationSystem self deliveries journal)
          (.answer pending (.store answered)), ?_⟩
        -- the events of its `add` are events of the webhook that wrote the row
        obtain ⟨j, t', first, e, last, running, split, wrote⟩ := happened
        obtain ⟨headers, chunks, attemptId, now, es, c', a', -, stamped, -, rfl, may, wrote⟩ :=
          wrote
        refine reads may wrote fun e' mem => reachable_told before running ?_
        rw [split, stamped, storeHistory_append, storeHistory_append, storeHistory_storage]
        exact List.mem_append_left _ (List.mem_append_right _ mem)
    | authenticator | service | journal | readinessCheck => cases isStore
  · intro cfg l cfg' e before step received e' isStore returned
    obtain ⟨added, row, happened, reads⟩ := received e' isStore returned
    exact ⟨added, row, happened.step step, reads⟩

end Reachable

/-! ## A run -/

section Play

variable {κ : Type} {deliveries : DeliveryBackend} {journal : JournalBackend}

/-- A world that picks its answers, those of the stores as it is told. -/
def SharedWorld.choose
    (store : deliveries.World → (c : StoreCall) → Option (c.Answer × deliveries.World))
    (service : journal.World → (c : Call) → Option (c.Answer × journal.World))
    (query : journal.World → (c : JournalQuery) → Option c.Answer)
    (w : SharedWorld deliveries journal) :
    (c : ApplicationCall κ) → Option (c.Answer × SharedWorld deliveries journal)
  | .authenticator _ => none
  | .service c => (service w.journal c).map fun r => (r.1, { w with journal := r.2 })
  | .store c => (store w.deliveries c).map fun r => (r.1, { w with deliveries := r.2 })
  | .journal c => (query w.journal c).map fun a => (a, w)
  | .readinessCheck => some (.ok (), w)

theorem SharedWorld.choose_sound
    {store : deliveries.World → (c : StoreCall) → Option (c.Answer × deliveries.World)}
    {service : journal.World → (c : Call) → Option (c.Answer × journal.World)}
    {query : journal.World → (c : JournalQuery) → Option c.Answer}
    (stores : ∀ {w c a w'}, store w c = some (a, w') → deliveries.answers w c a w')
    (services : ∀ {w c a w'}, service w c = some (a, w') → journal.answers w c a w')
    (queries : ∀ {w c a}, query w c = some a → journal.queries w c a)
    {w w' : SharedWorld deliveries journal} {c : ApplicationCall κ} {a : c.Answer}
    (chosen : SharedWorld.choose store service query w c = some (a, w')) :
    ApplicationWorld.Answers deliveries journal w c a w' := by
  cases c with
  | authenticator c => cases chosen
  | service c =>
      obtain ⟨⟨a', world⟩, picked, same⟩ := Option.map_eq_some_iff.mp chosen
      cases same
      exact .service (services picked)
  | store c =>
      obtain ⟨⟨a', world⟩, picked, same⟩ := Option.map_eq_some_iff.mp chosen
      cases same
      exact .store (stores picked)
  | journal c =>
      obtain ⟨a', picked, same⟩ := Option.map_eq_some_iff.mp chosen
      cases same
      exact .journal (queries picked)
  | readinessCheck =>
      cases chosen
      exact .readinessCheck _

end Play

/-- The in-memory store picks the answers that succeed. -/
def InMemoryDeliveryStore.choose (store : InMemoryDeliveryStore) :
    (c : StoreCall) → Option (c.Answer × InMemoryDeliveryStore)
  | .appendLeft attempt => some ((), store.add attempt)
  | .statement _ => none
  | .getAttempt attemptId => some (.ok (store.getAttempt attemptId), store)
  | .listRecent => some (.ok store.listRecent, store)
  | .listAttemptsPage limit after => some (.ok (store.listAttemptsPage limit after), store)

theorem InMemoryDeliveryStore.choose_sound {store store' : InMemoryDeliveryStore} {c : StoreCall}
    {a : c.Answer} (chosen : store.choose c = some (a, store')) : store.Answers c a store' := by
  cases c with
  | statement c => cases chosen
  | appendLeft attempt =>
      cases chosen
      rfl
  | getAttempt | listRecent | listAttemptsPage =>
      cases chosen
      exact ⟨rfl, rfl⟩

/-- So does the in-memory journal. -/
def MemoryWorld.chooseQuery (w : MemoryWorld) : (c : JournalQuery) → Option c.Answer
  | .get actionId => some (.ok (w.store.get actionId))
  | .listRecent limit after => some (.ok (w.store.listRecent limit after))

theorem MemoryWorld.chooseQuery_sound {w : MemoryWorld} {c : JournalQuery} {a : c.Answer}
    (chosen : w.chooseQuery c = some a) : w.Queries c a := by
  cases c with
  | get | listRecent =>
      cases chosen
      rfl

/-- In PostgreSQL statements are answered as the database does, and queries succeed. -/
def DeliveryDatabase.chooseCall (db : DeliveryDatabase) :
    (c : StoreCall) → Option (c.Answer × DeliveryDatabase)
  | .appendLeft _ => none
  | .statement c => db.choose sampleDriver c
  | .getAttempt attemptId => some (PostgresDeliveryStore.getAttempt sampleDriver attemptId db, db)
  | .listRecent => some (PostgresDeliveryStore.listRecent sampleDriver 10 db, db)
  | .listAttemptsPage limit after =>
      some (PostgresDeliveryStore.listAttemptsPage sampleDriver limit after db, db)

theorem DeliveryDatabase.chooseCall_sound {db db' : DeliveryDatabase} {c : StoreCall} {a : c.Answer}
    (chosen : db.chooseCall c = some (a, db')) :
    PostgresDeliveryStore.Answers sampleDriver 10 db c a db' := by
  cases c with
  | appendLeft attempt => cases chosen
  | statement c => exact .inl (DeliveryDatabase.choose_sound chosen)
  | getAttempt | listRecent | listAttemptsPage =>
      cases chosen
      exact ⟨.inl rfl, rfl⟩

/-- The PostgreSQL journal carries out every statement; a row is read as it was written. -/
def PostgresWorld.choose (outside : (c : Call) → c.Answer) (w : PostgresWorld) :
    (c : Call) → Option (c.Answer × PostgresWorld)
  | .now => some (outside .now, w)
  | .httpGet path perPage cursor => some (outside (.httpGet path perPage cursor), w)
  | .httpPost path => some (outside (.httpPost path), w)
  | .uuid4 =>
      let id : UUID := ⟨w.issued.card % 2 ^ 128, Nat.mod_lt _ (by decide)⟩
      if id ∈ w.issued then none else some (id, { w with issued := insert id w.issued })
  | .insert entry =>
      if ∃ other ∈ w.rows, other.actionId = entry.actionId then none
      else some (.ok entry, { w with rows := entry :: w.rows })
  | .updateInitiated r state =>
      if RecoveryActionState.terminalOfText r.state = some state then
        match w.rows.find? fun row => row.actionId = r.actionId ∧ row.state = .initiated with
        | some old => some (.ok (some (old.finalized r state)),
            { w with rows := replaceRow r.actionId (old.finalized r state) w.rows })
        | none => some (.ok none, w)
      else none
  | .selectState actionId =>
      some (.ok ((w.rows.find? fun row => row.actionId = actionId).map fun row =>
        (row.actionId, row.state)), w)
  | .appendLeft _ | .finalizeEntry _ => none

theorem PostgresWorld.choose_sound {outside : (c : Call) → c.Answer} {w w' : PostgresWorld}
    {c : Call} {a : c.Answer} (chosen : w.choose outside c = some (a, w')) : w.Answers c a w' := by
  cases c with
  | now | httpGet | httpPost =>
      cases chosen
      rfl
  | uuid4 =>
      rw [choose] at chosen
      split_ifs at chosen with fresh
      cases chosen
      exact ⟨fresh, rfl⟩
  | insert entry =>
      rw [choose] at chosen
      split_ifs at chosen with taken
      cases chosen
      exact ⟨fun other mem same => taken ⟨other, mem, same⟩, .refl entry, rfl⟩
  | updateInitiated r state =>
      rw [choose] at chosen
      split_ifs at chosen with terminal
      cases found : w.rows.find? fun row => row.actionId = r.actionId ∧ row.state = .initiated with
      | some old =>
          rw [found] at chosen
          cases chosen
          have opened := List.find?_some found
          rw [decide_eq_true_iff] at opened
          exact ⟨terminal, old, List.mem_of_find?_eq_some found, opened.1, opened.2, .refl _, rfl⟩
      | none =>
          rw [found] at chosen
          cases chosen
          refine ⟨fun row mem named initiated => ?_, rfl⟩
          exact absurd (decide_eq_true ⟨named, initiated⟩) (List.find?_eq_none.mp found row mem)
  | selectState actionId =>
      cases chosen
      exact ⟨rfl, rfl⟩
  | appendLeft | finalizeEntry => cases chosen

/-- So does it every query. -/
def PostgresWorld.chooseQuery (w : PostgresWorld) : (c : JournalQuery) → Option c.Answer
  | .get actionId => some (.ok (w.rows.find? fun row => row.actionId = actionId))
  | .listRecent limit after => some (.ok (JournalDatabase.pageRows w.rows limit after))

theorem PostgresWorld.chooseQuery_sound {w : PostgresWorld} {c : JournalQuery} {a : c.Answer}
    (chosen : w.chooseQuery c = some a) : w.Queries c a := by
  cases c with
  | get actionId =>
      cases chosen
      cases found : w.rows.find? fun row => row.actionId = actionId with
      | some row =>
          have named := List.find?_some found
          rw [decide_eq_true_iff] at named
          exact ⟨row, List.mem_of_find?_eq_some found, named, .refl row⟩
      | none =>
          intro row mem named
          exact List.find?_eq_none.mp found row mem (decide_eq_true named)
  | listRecent limit after =>
      cases chosen
      exact List.forall₂_same.mpr fun row _ => .refl row

/-- An application with a shared token. -/
def sampleApplication : Application Members where
  gate :=
    { managementApiEnabled := true
      managementApiToken := some (Str.lit "t")
      managementAuthMode := .sharedToken
      managementScopePolicy := ⟨Str.lit "f", Str.lit "d", Str.lit "r", Str.lit "x"⟩
      oidcManagementAuthenticator := none }
  webhookService := sampleWebhookService
  maxWebhookBodyBytes := 100
  addAttempt := memoryAdd
  reconciliationService := onePageService
  redeliveryService := sampleService
  recursionLimit := sampleLimit
  renderJson _ := .ok ()

/-- A webhook of the repository `o/r`. -/
def sampleWebhook : Request :=
  let body : Bytes := (Str.lit "\x7b\"repository\":\x7b\"full_name\":\"o/r\"\x7d\x7d").map
    fun c => UInt8.ofNat c.val
  .githubWebhook (sampleHeaders body) [body]

/-- The token. -/
def sampleToken : RequestCredentials := ⟨⟨Str.lit "Bearer", Str.lit "t"⟩, by decide⟩

/-- The redelivery of its record. -/
def sampleRedelivery : Request :=
  .requestGithubRedelivery (some sampleToken)
    (Str.lit "00000000-0000-0000-0000-000000000000") (Str.lit "7")

/-- Both, and a look into the journal. -/
def sampleMoves : List (Move Request) :=
  .start 0 sampleWebhook :: List.replicate 3 (.go 0) ++
    .start 1 sampleRedelivery :: List.replicate 8 (.go 1) ++
    [.start 2 (.listRecoveryActions (some sampleToken) none none), .go 2]

/-- The application over the in-memory stores. -/
abbrev sampleSystem :=
  applicationSystem sampleApplication (memoryDeliveries 1 Nat.one_pos)
    (memoryJournalBackend 1 Nat.one_pos)

/-- Requests to it. -/
abbrev MemoryRequests :=
  Requests Members (memoryDeliveries 1 Nat.one_pos) (memoryJournalBackend 1 Nat.one_pos)

/-- The request has returned. -/
def Requests.returned {κ : Type} {deliveries : DeliveryBackend} {journal : JournalBackend}
    (cfg : Requests κ deliveries journal) (i : ℕ) : Bool :=
  match cfg.threads i with
  | some ⟨_, _, .ret _⟩ => true
  | _ => false

theorem Requests.exists_of_returned {κ : Type} {deliveries : DeliveryBackend}
    {journal : JournalBackend} {cfg : Requests κ deliveries journal} {i : ℕ}
    (returned : cfg.returned i = true) :
    ∃ t answer, cfg.threads i = some t ∧ t.rest = .ret answer := by
  rw [Requests.returned] at returned
  split at returned
  · next request h answer running => exact ⟨_, answer, running, rfl⟩
  · cases returned

/-- The request asks for a redelivery. -/
def Request.redelivers : Request → Bool
  | .requestGithubRedelivery .. => true
  | _ => false

/-- What a request has submitted, and the rows of the journal. -/
def MemoryRequests.counts (cfg : MemoryRequests) (i : ℕ) : ℕ × ℕ :=
  (match cfg.threads i with
    | some t => (submissions (serviceHistory t.history)).length
    | none => 0, cfg.world.journal.store.actions.length)

/-- A run in which all three requests return, and the second submits. -/
theorem exists_sampleRun :
    ∃ cfg : MemoryRequests, sampleSystem.Reachable (fun _ _ => True) (SharedWorld.start _ _ 0) cfg ∧
      [0, 1, 2].map cfg.returned = [true, true, true] ∧ cfg.counts 1 = (1, 1) ∧
      (cfg.threads 1).any (·.request.redelivers) = true := by
  have played : (sampleSystem.play
      (SharedWorld.choose InMemoryDeliveryStore.choose (MemoryWorld.choose sampleOutside)
        MemoryWorld.chooseQuery) (fun _ _ => true) (Config.initial (SharedWorld.start _ _ 0))
      sampleMoves).map (fun cfg : MemoryRequests => ([0, 1, 2].map cfg.returned, cfg.counts 1,
        (cfg.threads 1).any (·.request.redelivers))) =
          some ([true, true, true], (1, 1), true) := by decide +kernel
  obtain ⟨cfg, reached, shows⟩ := Option.map_eq_some_iff.mp played
  obtain ⟨returned, shows⟩ := Prod.mk.inj shows
  exact ⟨cfg, System.reachable_of_play (SharedWorld.choose_sound InMemoryDeliveryStore.choose_sound
    MemoryWorld.choose_sound MemoryWorld.chooseQuery_sound) (fun _ => trivial) .initial reached,
    returned, Prod.mk.inj shows⟩

end WebhookMonitor
