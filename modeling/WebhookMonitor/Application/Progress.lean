import Mathlib.Data.Fintype.Card
import WebhookMonitor.Application.Budget
import WebhookMonitor.Application.Durability
import WebhookMonitor.Application.Journal
import WebhookMonitor.Deliveries.Waiting
import WebhookMonitor.Interaction.Progress

/-!
# Every request comes to an end

Over PostgreSQL a statement may wait for the transaction of another webhook, so a request may
be unable to go on.  Some request always is able to:

* an awaited GET has been issued, and is answered once (`Awaiting`);
* an identifier is left, for `2 ^ 128` requests (`exists_unused`);
* behind every webhook that waits there is one that does not (`exists_served`).

As the calls of every request are bounded, `requests_drain` follows: whatever has happened,
the requests under way can all be brought to an end, and on the way a statement of a webhook
fails only if the database refuses its values (`Served`).
-/

namespace WebhookMonitor

open Python Interaction Database ApplicationCall

variable {κ : Type}

/-! ## The identity provider -/

section Provider

variable {self : Application κ} {deliveries : DeliveryBackend} {journal : JournalBackend}
  {ok : Requests κ deliveries journal → Label (ApplicationEffects κ) Request → Prop}
  {now : Monotonic} {cfg : Requests κ deliveries journal}

/-- Only the dependency asks the authenticator. -/
theorem mayAuthenticate_of_mayAsk
    {MayAdd : DeliveryAttempt → List (Event StoreEffects) → StoreCall → Prop} {request : Request}
    {h : ApplicationHistory κ} {c : AuthenticatorCall κ}
    (may : self.MayAsk MayAdd request h (.authenticator c)) :
    self.MayAuthenticate h (.authenticator c) := by
  cases request with
  | githubWebhook headers chunks =>
      obtain ⟨-, ⟨-, ask⟩ | ⟨attemptId, -, ask⟩ |
        ⟨attemptId, now, attempt, es, c', -, -, ask, -⟩⟩ := may
      · cases ask
      · cases ask
      · cases ask
  | listDeliveryAttempts credentials limit cursor =>
      obtain authenticates | ⟨authorization, n, after, -, ask⟩ := may
      · exact authenticates
      · cases ask
  | getDeliveryAttempt credentials attemptId =>
      obtain authenticates | ⟨authorization, id, -, -, ask⟩ := may
      · exact authenticates
      · cases ask
  | reconcileGithubDeliveries credentials attemptId cursor =>
      obtain authenticates | ⟨authorization, id, -, -, ask⟩ |
        ⟨authorization, attempt, es, c', owner, repository, start, -, ask, -⟩ := may
      · exact authenticates
      · cases ask
      · cases ask
  | requestGithubRedelivery credentials attemptId githubDeliveryId =>
      obtain authenticates | ⟨authorization, id, -, -, ask⟩ | ⟨request, es, c', -, -, ask, -⟩ := may
      · exact authenticates
      · cases ask
      · cases ask
  | listRecoveryActions credentials limit cursor =>
      obtain authenticates | ⟨authorization, n, after, -, ask⟩ := may
      · exact authenticates
      · cases ask
  | getRecoveryAction credentials actionId =>
      obtain authenticates | ⟨authorization, id, -, -, ask⟩ := may
      · exact authenticates
      · cases ask
  | getEvents credentials =>
      obtain authenticates | ⟨authorization, -, ask⟩ := may
      · exact authenticates
      · cases ask
  | health => exact may.elim
  | ready => cases may.2

/-- The GET was issued last, and is awaited. -/
def Awaits (h : ApplicationHistory κ) (asked : ProviderRequest) (number : ℕ) : Prop :=
  ∃ before, h = before ++ [⟨.authenticator (.send asked), number⟩]

/-- What was asked last is what is awaited. -/
theorem awaits_of_receive
    (reachable : (applicationSystem self deliveries journal).Reachable ok
      (SharedWorld.start deliveries journal now) cfg)
    {i : ℕ} {request : Request} {h : ApplicationHistory κ} {asked : ProviderRequest} {number : ℕ}
    {k : ProviderAnswer → Handler κ Answer}
    (pending : cfg.threads i =
      some ⟨request, h, .call (.authenticator (.receive asked number)) k⟩) :
    Awaits h asked number := by
  obtain ⟨⟨es, authenticator, rfl, -, allowed⟩, -⟩ :=
    mayAuthenticate_of_mayAsk (reachable_handle_meets reachable pending).1
  obtain ⟨es', rfl⟩ := allowed _ rfl
  refine ⟨es'.map (authentication κ).event, ?_⟩
  rw [List.map_append]
  rfl

/-- The awaited GETs have been issued and not answered, and no two requests await the same. -/
structure Awaiting (cfg : Requests κ deliveries journal) : Prop where
  unanswered : ∀ {i t request number}, cfg.threads i = some t → Awaits t.history request number →
    ∃ issuedAt, cfg.world.provider.requests[number]? = some ⟨request, issuedAt, none⟩
  apart : ∀ {i j t t' request request' number}, cfg.threads i = some t →
    cfg.threads j = some t' → Awaits t.history request number →
    Awaits t'.history request' number → i = j

/-- What an answer does to the GETs: those that other requests await stay open, and a new one
is open. -/
theorem provider_cases
    (reachable : (applicationSystem self deliveries journal).Reachable ok
      (SharedWorld.start deliveries journal now) cfg) (awaiting : Awaiting cfg) {i : ℕ}
    {request : Request} {h : ApplicationHistory κ} {c : ApplicationCall κ}
    {k : c.Answer → Handler κ Answer} {a : c.Answer} {w : SharedWorld deliveries journal}
    (pending : cfg.threads i = some ⟨request, h, .call c k⟩)
    (answered : ApplicationWorld.Answers deliveries journal cfg.world c a w) :
    (∀ {j t asked number}, j ≠ i → cfg.threads j = some t → Awaits t.history asked number →
      w.provider.requests[number]? = cfg.world.provider.requests[number]?) ∧
    ∀ {asked number},
      (⟨c, a⟩ : Event (ApplicationEffects κ)) = ⟨.authenticator (.send asked), number⟩ →
      number = cfg.world.provider.requests.length ∧
        ∃ issuedAt, w.provider.requests[number]? = some ⟨asked, issuedAt, none⟩ := by
  cases answered with
  | service | store | journal | readinessCheck =>
      exact ⟨fun _ _ _ => rfl, fun same => by cases same⟩
  | authenticator answered =>
      cases answered with
      | monotonic | loadMetadata | storeMetadata | loadJwks | storeJwks | decode =>
          exact ⟨fun _ _ _ => rfl, fun same => by cases same⟩
      | send asked later =>
          refine ⟨fun _ running awaits => ?_, fun same => ?_⟩
          · obtain ⟨issuedAt, issued⟩ := awaiting.unanswered running awaits
            exact List.getElem?_append_left (List.getElem?_eq_some_iff.mp issued).1
          · cases same
            exact ⟨rfl, _, List.getElem?_concat_length⟩
      | @receive asked number issuedAt answer unanswered' =>
          refine ⟨fun {j t asked' number'} other running awaits => ?_, fun same => by cases same⟩
          have mine : Awaits h asked number := awaits_of_receive reachable pending
          refine List.getElem?_set_ne fun same => other ?_
          subst same
          exact awaiting.apart running pending awaits mine

theorem reachable_awaiting
    (reachable : (applicationSystem self deliveries journal).Reachable ok
      (SharedWorld.start deliveries journal now) cfg) : Awaiting cfg := by
  refine System.Reachable.invariant (P := Awaiting) ?_ ?_ reachable
  · exact ⟨fun running => (by cases running), fun running => (by cases running)⟩
  · intro cfg l cfg' before awaiting step _
    cases step with
    | @spawn i request free =>
        have old : ∀ {j t asked number}, (cfg.set cfg.world i
            ⟨request, [], (applicationSystem self deliveries journal).program request⟩).threads j =
              some t → Awaits t.history asked number → cfg.threads j = some t := by
          intro j t asked number running awaits
          rcases Config.set_cases running with ⟨-, rfl⟩ | ⟨-, running⟩
          · obtain ⟨before, nothing⟩ := awaits
            exact absurd nothing.symm (List.append_ne_nil_of_right_ne_nil _ (List.cons_ne_nil _ _))
          · exact running
        exact ⟨fun running awaits => awaiting.unanswered (old running awaits) awaits,
          fun running running' awaits awaits' =>
            awaiting.apart (old running awaits) (old running' awaits') awaits awaits'⟩
    | @answer i request h c k a w pending answered =>
        obtain ⟨kept, new⟩ := provider_cases before awaiting pending answered
        -- the request that was answered awaits a GET it has just issued
        have mine : ∀ {asked number}, Awaits (h ++ [⟨c, a⟩]) asked number →
            (⟨c, a⟩ : Event (ApplicationEffects κ)) = ⟨.authenticator (.send asked), number⟩ := by
          rintro asked number ⟨before, same⟩
          exact (List.append_inj' same rfl).2 |> List.head_eq_of_cons_eq
        have below : ∀ {j t asked number}, cfg.threads j = some t → Awaits t.history asked number →
            number < cfg.world.provider.requests.length := by
          intro j t asked number running awaits
          obtain ⟨issuedAt, issued⟩ := awaiting.unanswered running awaits
          exact (List.getElem?_eq_some_iff.mp issued).1
        refine ⟨fun {j t asked number} running awaits => ?_,
          fun {j j' t t' asked asked' number} running running' awaits awaits' => ?_⟩
        · rcases Config.set_cases running with ⟨rfl, rfl⟩ | ⟨other, there⟩
          · exact (new (mine awaits)).2
          · obtain ⟨issuedAt, issued⟩ := awaiting.unanswered there awaits
            exact ⟨issuedAt, (kept other there awaits).trans issued⟩
        · rcases Config.set_cases running with ⟨rfl, rfl⟩ | ⟨other, there⟩
          · rcases Config.set_cases running' with ⟨rfl, rfl⟩ | ⟨other', there'⟩
            · rfl
            · exact absurd (new (mine awaits)).1 (below there' awaits').ne
          · rcases Config.set_cases running' with ⟨rfl, rfl⟩ | ⟨other', there'⟩
            · exact absurd (new (mine awaits')).1 (below there awaits).ne
            · exact awaiting.apart there there' awaits awaits'

/-- The authenticator is always answered. -/
theorem authenticator_answered
    (reachable : (applicationSystem self deliveries journal).Reachable ok
      (SharedWorld.start deliveries journal now) cfg)
    {i : ℕ} {request : Request} {h : ApplicationHistory κ} {c : AuthenticatorCall κ}
    {k : c.Answer → Handler κ Answer}
    (pending : cfg.threads i = some ⟨request, h, .call (.authenticator c) k⟩) :
    ∃ a w, cfg.world.provider.Answers c a w := by
  cases c with
  | monotonic => exact ⟨_, _, .monotonic le_rfl⟩
  | loadMetadata => exact ⟨_, _, .loadMetadata _⟩
  | storeMetadata => exact ⟨_, _, .storeMetadata _ _⟩
  | loadJwks => exact ⟨_, _, .loadJwks _⟩
  | storeJwks => exact ⟨_, _, .storeJwks _ _⟩
  | send => exact ⟨_, _, .send _ le_rfl⟩
  | receive asked number =>
      have awaits : Awaits h asked number := awaits_of_receive reachable pending
      obtain ⟨issuedAt, issued⟩ := (reachable_awaiting reachable).unanswered pending awaits
      exact ⟨_, _, .receive (.error .other) issued⟩
  | decode => exact ⟨_, _, .decode _ (.error .pyJwtError)⟩

end Provider

/-! ## Identifiers -/

/-- The identifiers a history shows are its calls of `uuid4`. -/
theorem length_issued (h : ApplicationHistory κ) : (h.filterMap (shownBy issuedOf)).length =
    Multiset.count CallKind.identifier (h.map fun e => e.call.kind : List CallKind) := by
  rw [Multiset.coe_count]
  induction h with
  | nil => rfl
  | cons e h ih =>
      obtain ⟨c, a⟩ := e
      by_cases draws : (c.kind = .identifier)
      · have shows : ∃ id, shownBy issuedOf (⟨c, a⟩ : Event (ApplicationEffects κ)) = some id := by
          cases c with
          | service c =>
              cases c with
              | uuid4 => exact ⟨a, rfl⟩
              | _ => cases draws
          | authenticator c => cases c <;> cases draws
          | store c => cases c <;> cases draws
          | journal | readinessCheck => cases draws
        obtain ⟨id, shows⟩ := shows
        rw [List.filterMap_cons_some shows, List.length_cons, ih, List.map_cons, draws,
          List.count_cons_self]
      · have silent : shownBy issuedOf (⟨c, a⟩ : Event (ApplicationEffects κ)) = none := by
          cases c with
          | service c =>
              cases c with
              | uuid4 => exact absurd rfl draws
              | _ => rfl
          | authenticator | store | journal | readinessCheck => rfl
        rw [List.filterMap_cons_none silent, ih, List.map_cons, List.count_cons_of_ne draws]

/-- An identifier is issued by a call. -/
theorem JournalStep.issued {rows rows' : List RecoveryAction} {issued issued' : Finset UUID}
    {e : Event Effects} (step : JournalStep rows issued e rows' issued') {id : UUID}
    (mem : id ∈ issued') : id ∈ issued ∨ issuedOf e = some id := by
  cases step with
  | issue fresh =>
      rcases Finset.mem_insert.mp mem with rfl | old
      · exact .inr rfl
      · exact .inl old
  | store | finalize | idle => exact .inl mem

section Postgres

variable {self : Application κ} {driver : Driver} {listLimit : ℕ} {journal : JournalBackend}
  {ok : Requests κ (postgresDeliveries driver listLimit) journal →
    Label (ApplicationEffects κ) Request → Prop} {now : Monotonic}
  {cfg : Requests κ (postgresDeliveries driver listLimit) journal} {N : ℕ}

/-- No request draws two identifiers. -/
theorem count_identifier_le (self : Application κ) (driver : Driver) (listLimit : ℕ)
    (journal : JournalBackend) (request : Request) :
    (self.budget (postgresDeliveries driver listLimit) journal request).count .identifier ≤ 1 := by
  have one := journal.one_identifier
  rw [Multiset.count_add] at one
  cases request <;>
    simp [Application.budget, guardBudget, postgresDeliveries, Multiset.count_replicate]
  omega

/-- What the services may take of a budget. -/
theorem service_kind (self : Application κ) {request : Request} {c : Call}
    (mem : c.kind ∈ self.budget (postgresDeliveries driver listLimit) journal request) :
    c.kind ∈ outsideKinds + (journal.createBudget + journal.finalizeBudget) := by
  cases c with
  | now | uuid4 | httpGet | httpPost => exact Multiset.mem_add.mpr (.inl (by simp [Call.kind]))
  | appendLeft | finalizeEntry | insert | updateInitiated | selectState =>
      refine Multiset.mem_add.mpr (.inr ?_)
      cases request with
      | requestGithubRedelivery =>
          simpa [Application.budget, guardBudget, Call.kind, Multiset.mem_replicate] using mem
      | _ =>
          simp [Application.budget, guardBudget, postgresDeliveries, Call.kind,
            Multiset.mem_replicate] at mem

/-- The identifiers that were issued, requests have drawn. -/
theorem shown_of_issued
    (reachable : (applicationSystem self (postgresDeliveries driver listLimit) journal).Reachable ok
      (SharedWorld.start (postgresDeliveries driver listLimit) journal now) cfg) {id : UUID}
    (issued : id ∈ journal.issued cfg.world.journal) :
    ∃ i, id ∈ cfg.shown (shownBy issuedOf) i := by
  have drawn := System.Reachable.written
    (H := fun w id => id ∈ journal.issued w.journal)
    (W := fun id _ _ e => shownBy issuedOf e = some id) ?_ reachable issued
  · rcases drawn with old | ⟨i, t, before, e, after, running, split, shows⟩
    · change id ∈ journal.issued journal.initial at old
      rw [journal.issued_initial] at old
      cases old
    · refine ⟨i, ?_⟩
      rw [Config.shown_of_running running, split, List.filterMap_append,
        List.filterMap_cons_some shows]
      exact List.mem_append_right _ List.mem_cons_self
  · intro cfg i request h c k a w id before pending answered there
    cases answered with
    | service answered =>
        exact (journal.steps (reachable_applicationCoherent before).distinct answered).issued there
    | authenticator | store | journal | readinessCheck => exact .inl there

/-- What a request has drawn. -/
theorem length_shown_le
    (reachable : (applicationSystem self (postgresDeliveries driver listLimit) journal).Reachable ok
      (SharedWorld.start (postgresDeliveries driver listLimit) journal now) cfg) (i : ℕ) :
    (cfg.shown (shownBy issuedOf) i).length ≤ 1 := by
  cases running : cfg.threads i with
  | none =>
      rw [Config.shown, running]
      exact Nat.zero_le 1
  | some t =>
      have within := (self.handle_within (postgresDeliveries driver listLimit) journal
        t.request).spent_le (reachable.trace running)
      rw [spent_kind] at within
      rw [Config.shown_of_running running, length_issued]
      exact (Multiset.count_le_of_le _ within).trans
        (count_identifier_le self driver listLimit journal t.request)

/-- An identifier is left for a request that draws one. -/
theorem exists_unused
    (reachable : (applicationSystem self (postgresDeliveries driver listLimit) journal).Reachable ok
      (SharedWorld.start (postgresDeliveries driver listLimit) journal now) cfg)
    (below : cfg.Below N) (few : N ≤ 2 ^ 128) {i : ℕ} {request : Request} {h : ApplicationHistory κ}
    {k : UUID → Handler κ Answer}
    (pending : cfg.threads i = some ⟨request, h, .call (.service .uuid4) k⟩) :
    ∃ id, id ∉ journal.issued cfg.world.journal := by
  have low : i < N := by
    refine Nat.lt_of_not_le fun high => ?_
    rw [below i high] at pending
    cases pending
  -- the request has drawn none yet, and may draw one
  have nothing : cfg.shown (shownBy issuedOf) i = [] := by
    have within := (self.handle_within (postgresDeliveries driver listLimit) journal
      request).call_le (reachable.trace pending)
    have count := (Multiset.count_le_of_le .identifier within).trans
      (count_identifier_le self driver listLimit journal request)
    rw [Multiset.count_add, spent_kind, ← length_issued] at count
    change _ + Multiset.count CallKind.identifier {CallKind.identifier} ≤ 1 at count
    rw [Multiset.count_singleton_self] at count
    rw [Config.shown_of_running pending]
    exact List.eq_nil_of_length_eq_zero (by omega)
  have fewer : (journal.issued cfg.world.journal).card < (Finset.univ : Finset UUID).card := by
    rw [Finset.card_univ, Fintype.card_fin]
    exact (below.card_lt (length_shown_le reachable)
      (fun id issued => shown_of_issued reachable issued) low nothing).trans_le few
  obtain ⟨id, -, fresh⟩ := Finset.exists_mem_notMem_of_card_lt_card fewer
  exact ⟨id, fresh⟩

/-- The services are always answered. -/
theorem service_answered
    (reachable : (applicationSystem self (postgresDeliveries driver listLimit) journal).Reachable ok
      (SharedWorld.start (postgresDeliveries driver listLimit) journal now) cfg)
    (below : cfg.Below N) (few : N ≤ 2 ^ 128) {i : ℕ} {request : Request} {h : ApplicationHistory κ}
    {c : Call} {k : c.Answer → Handler κ Answer}
    (pending : cfg.threads i = some ⟨request, h, .call (.service c) k⟩) :
    ∃ a w, journal.answers cfg.world.journal c a w := by
  have within := (self.handle_within (postgresDeliveries driver listLimit) journal
    request).call_le (reachable.trace pending)
  refine journal.responds cfg.world.journal c ?_ ?_
  · exact service_kind self (Multiset.mem_of_le within (Multiset.mem_add.mpr
      (.inr (Multiset.mem_singleton_self _))))
  · rintro rfl
    exact exists_unused reachable below few pending

/-! ## Statements -/

/-- A statement of a webhook is answered once it need not wait, and fails only if the database
refuses its values. -/
def Served (driver : Driver) {listLimit : ℕ} {journal : JournalBackend}
    (cfg : Requests κ (postgresDeliveries driver listLimit) journal)
    (e : Event (ApplicationEffects κ)) : Prop :=
  ∀ e', (storeEvent e).bind statementEvent = some e' →
    ¬ cfg.world.deliveries.Waits e'.call ∧
      e'.answer = (cfg.world.deliveries.respond driver e'.call).1 ∧
      (statementFailed e' = true → cfg.world.deliveries.Refuses driver e'.call)

/-- Behind every webhook that waits there is one that does not. -/
theorem exists_served
    (reachable : (applicationSystem self (postgresDeliveries driver listLimit) journal).Reachable ok
      (SharedWorld.start (postgresDeliveries driver listLimit) journal now) cfg) {i : ℕ}
    {t : RequestThread κ} {c : SqlCall} {k : c.Answer → Handler κ Answer}
    (running : cfg.threads i = some t) (pending : t.rest = .call (.store (.statement c)) k) :
    ∃ i e cfg', (applicationSystem self (postgresDeliveries driver listLimit) journal).Step cfg
      (.answer i e) cfg' ∧ Served driver cfg e := by
  obtain ⟨parts, run, sameWorld, absent, hosted⟩ := Component.project
    (C := additionComponent self driver listLimit journal) addition_approaches reachable
  change parts.world = cfg.world.deliveries at sameWorld
  have adds := lossyAddSystem_adds driver
  have consistent := Consistent.of_reachable adds run
  -- the statement is one of the part of the request
  have mine : AddConfig.Sends parts i c := by
    have hosts := (hosted i t running).hosts
    rw [pending] at hosts
    obtain ⟨attempt, es, k', part⟩ := Component.Hosts.of_call
      (C := additionComponent self driver listLimit journal) (c := c) hosts
      (fun quiet => by cases quiet)
      fun c' same => StoreCall.statement.inj (ApplicationCall.store.inj same)
    exact ⟨_, k', part, rfl⟩
  obtain ⟨j, c', ⟨part, k', there, sends⟩, free⟩ :
      ∃ j c', AddConfig.Sends parts j c' ∧ ¬ parts.world.Waits c' := by
    by_cases waits : parts.world.Waits c
    · exact consistent.exists_free (deliveriesOwned_of_reachable adds run) waits
    · exact ⟨i, c, mine, waits⟩
  -- the one that need not wait is the part of a request, which sends its statement
  cases running : cfg.threads j with
  | none =>
      rw [absent j running] at there
      cases there
  | some t' =>
      obtain ⟨stage, rest, -, -, holds⟩ := consistent.stage j part there
      obtain ⟨hosts, -⟩ := hosted j t' running
      obtain ⟨attempt, es, partRest⟩ := part
      obtain rfl : partRest = .call c' k' := sends
      rw [there] at hosts
      obtain ⟨k'', pending⟩ := hosts.call
      obtain ⟨request, h, rest'⟩ := t'
      obtain rfl : rest' = .call (.store (.statement c')) k'' := pending
      rw [sameWorld] at free holds
      have answered : cfg.world.deliveries.LossyAnswers driver c'
          (cfg.world.deliveries.respond driver c').1 (cfg.world.deliveries.respond driver c').2 :=
        .inl (.inl ⟨free, rfl⟩)
      refine ⟨j, _, _, .answer running (.store answered), ?_⟩
      rintro e' ⟨⟩
      exact ⟨free, rfl, fun failed => Stage.refuses holds rest.symm failed⟩

/-- A query is always answered. -/
theorem PostgresDeliveryStore.query_answered (driver : Driver) (listLimit : ℕ)
    (db : DeliveryDatabase) {c : StoreCall} (query : c.isQuery = true) :
    ∃ a, PostgresDeliveryStore.Answers driver listLimit db c a db := by
  cases c with
  | appendLeft | statement => cases query
  | getAttempt | listRecent | listAttemptsPage => exact ⟨_, .inl rfl, rfl⟩

/-- Some request can go on. -/
theorem exists_step
    (reachable : (applicationSystem self (postgresDeliveries driver listLimit) journal).Reachable ok
      (SharedWorld.start (postgresDeliveries driver listLimit) journal now) cfg)
    (below : cfg.Below N) (few : N ≤ 2 ^ 128) (unfinished : ¬ cfg.Ended) :
    ∃ i e cfg', (applicationSystem self (postgresDeliveries driver listLimit) journal).Step cfg
      (.answer i e) cfg' ∧ Served driver cfg e := by
  rw [Config.Ended] at unfinished
  push Not at unfinished
  obtain ⟨i, ⟨request, h, rest⟩, running, unfinished⟩ := unfinished
  have other : ∀ {c : ApplicationCall κ} {k : c.Answer → Handler κ Answer} {a : c.Answer}
      {w : SharedWorld (postgresDeliveries driver listLimit) journal},
      cfg.threads i = some ⟨request, h, .call c k⟩ → c.isAddition = false →
      ApplicationWorld.Answers (postgresDeliveries driver listLimit) journal cfg.world c a w →
        ∃ i e cfg', (applicationSystem self (postgresDeliveries driver listLimit) journal).Step cfg
          (.answer i e) cfg' ∧ Served driver cfg e := by
    intro c k a w pending quiet answered
    refine ⟨i, _, _, .answer pending answered, fun e' shows => ?_⟩
    have silent := (additionComponent self driver listLimit journal).silent (a := a) quiet
    change (storeEvent ⟨c, a⟩).bind statementEvent = none at silent
    rw [silent] at shows
    cases shows
  cases rest with
  | ret a => exact absurd rfl (unfinished (.ok a))
  | raise e => exact absurd rfl (unfinished (.error e))
  | call c k =>
      cases c with
      | authenticator c =>
          obtain ⟨a, w, answered⟩ := authenticator_answered reachable running
          exact other running rfl (.authenticator answered)
      | service c =>
          obtain ⟨a, w, answered⟩ := service_answered reachable below few running
          exact other running rfl (.service answered)
      | journal c =>
          obtain ⟨a, answered⟩ := journal.queries_respond cfg.world.journal c
          exact other running rfl (.journal answered)
      | readinessCheck => exact other running rfl (.readinessCheck (.ok ()))
      | store c =>
          rcases isQuery_of_mayAsk (reachable_handle_meets reachable running).1 with query |
            ⟨-, -, -, -, -, -, -, -, -, c', rfl, -⟩
          · obtain ⟨a, answered⟩ := PostgresDeliveryStore.query_answered driver listLimit
              cfg.world.deliveries query
            refine other running ?_ (.store answered)
            rw [ApplicationCall.isAddition, query]
            rfl
          · exact exists_served reachable running rfl

end Postgres

/-- **Draining.** From every configuration that requests of all routes reach over PostgreSQL
from empty tables, with overlapping transactions and whatever has failed: no run without new
requests goes on for longer than the budgets of the requests allow, and wherever it has come
to, all requests can be brought to an end, with no statement of a webhook failing but for
values that the database refuses. No webhook waits for ever. -/
theorem requests_drain (self : Application κ) (driver : Driver) (listLimit : ℕ)
    (journal : JournalBackend) {now : Monotonic}
    {cfg cfg' : Requests κ (postgresDeliveries driver listLimit) journal} {n N : ℕ}
    (reachable : (applicationSystem self (postgresDeliveries driver listLimit) journal).Reachable
      (fun _ _ => True) (SharedWorld.start (postgresDeliveries driver listLimit) journal now) cfg)
    (below : cfg.Below N) (few : N ≤ 2 ^ 128)
    (run : (applicationSystem self (postgresDeliveries driver listLimit) journal).Run
      (fun _ _ => True) cfg n cfg') :
    n ≤ cfg.left (fun request =>
        (self.budget (postgresDeliveries driver listLimit) journal request).card) N ∧
      ∃ m last, (applicationSystem self (postgresDeliveries driver listLimit) journal).Run
        (Served driver) cfg' m last ∧ last.Ended := by
  refine reachable.drains (fun request => ?_)
    (fun reachable below unfinished => exists_step reachable below few unfinished) below run
  have costs := (self.handle_within (postgresDeliveries driver listLimit) journal request).map
    Multiset.card_add Multiset.card_mono
  simp only [Multiset.card_singleton] at costs
  exact costs

def DeliveryDatabase.waits (db : DeliveryDatabase) (c : SqlCall) : Bool := decide (db.Waits c)

/-- The request waits for another transaction. -/
def PostgresRequests.waits (cfg : PostgresRequests) (i : ℕ) : Bool :=
  match cfg.threads i with
  | some ⟨_, _, .call (.store (.statement c)) _⟩ => DeliveryDatabase.waits cfg.world.deliveries c
  | _ => false

/-- Two webhooks of one delivery, the second waiting for the first. -/
theorem requests_drain_sample :
    ∃ cfg : PostgresRequests, cfg.waits 1 = true ∧
      ∃ m last, (applicationSystem sampleApplication (postgresDeliveries sampleDriver 10)
        (memoryJournalBackend 1 Nat.one_pos)).Run (Served sampleDriver) cfg m last ∧
        last.Ended := by
  have played : ((applicationSystem sampleApplication (postgresDeliveries sampleDriver 10)
      (memoryJournalBackend 1 Nat.one_pos)).play
      (SharedWorld.choose DeliveryDatabase.chooseCall (MemoryWorld.choose sampleOutside)
        MemoryWorld.chooseQuery) (fun _ _ => true) (Config.initial (SharedWorld.start _ _ 0))
      (.start 0 sampleWebhook :: List.replicate 4 (.go 0) ++
        .start 1 sampleWebhook :: List.replicate 3 (.go 1))).map
          (fun cfg : PostgresRequests => cfg.waits 1) = some true := by decide +kernel
  obtain ⟨cfg, reached, waits⟩ := Option.map_eq_some_iff.mp played
  have below : cfg.Below 2 :=
    Config.Below.play (SharedWorld.choose_sound DeliveryDatabase.chooseCall_sound
      MemoryWorld.choose_sound MemoryWorld.chooseQuery_sound) (fun _ _ => rfl) (by decide) reached
  exact ⟨cfg, waits, (requests_drain sampleApplication sampleDriver 10
    (memoryJournalBackend 1 Nat.one_pos) (System.reachable_of_play
      (SharedWorld.choose_sound DeliveryDatabase.chooseCall_sound MemoryWorld.choose_sound
        MemoryWorld.chooseQuery_sound) (fun _ => trivial) .initial reached) below
    (by decide) (.refl cfg)).2⟩

end WebhookMonitor
