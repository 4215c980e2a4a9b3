import WebhookMonitor.Application.Journal

/-!
# What the answers rest on

A management answer repeats what a store has returned to its request, and a store returns
nothing that a request of the run has not put there.

* `Attested` — an action a request was shown: which request has stored it, who was behind
  that, and, once it is terminal, what became of its POST;
* `Backed` — what an answer rests on;
* `answers_backed` — every answer of every run rests on it.
-/

namespace WebhookMonitor

open Python Interaction ApplicationCall

variable {κ : Type}

section Reachable

variable {self : Application κ} {deliveries : DeliveryBackend} {journal : JournalBackend}
  {ok : Requests κ deliveries journal → Label (ApplicationEffects κ) Request → Prop}
  {now : Monotonic} {cfg : Requests κ deliveries journal}

/-! ## Actions -/

/-- A request has stored the entry of the action; a terminal action agrees with its POST. -/
def IsEntryOf (action : RecoveryAction) (t : RequestThread κ) (s : Stored) : Prop :=
  s ∈ stored (serviceHistory t.history) ∧ s.returned.actionId = action.actionId ∧
    action.intent = s.entry.intent ∧
    (action.state ≠ .initiated → RowAgrees action (serviceHistory t.history))

/-- What a terminal action agrees with is the POST. -/
theorem RowAgrees.of_submissions {action : RecoveryAction} {h h' : History}
    (agrees : RowAgrees action h) (terminal : action.state ≠ .initiated)
    (same : submissions h' = submissions h) : RowAgrees action h' := by
  rw [RowAgrees] at agrees ⊢
  rw [same]
  cases state : action.state with
  | initiated => exact absurd state terminal
  | accepted | failed | outcomeUnknown =>
      rw [state] at agrees
      exact agrees

/-- What a terminal action agrees with is there. -/
theorem RowAgrees.submitted {action : RecoveryAction} {h : History} (agrees : RowAgrees action h)
    (terminal : action.state ≠ .initiated) : ∃ submission, submissions h = [submission] := by
  rw [RowAgrees] at agrees
  cases state : action.state with
  | initiated => exact absurd state terminal
  | accepted =>
      rw [state] at agrees
      obtain ⟨path, response, sent, -⟩ := agrees
      exact ⟨_, sent⟩
  | failed =>
      rw [state] at agrees
      obtain ⟨path, response, sent, -⟩ | ⟨path, e, sent, -⟩ := agrees
      · exact ⟨_, sent⟩
      · exact ⟨_, sent⟩
  | outcomeUnknown =>
      rw [state] at agrees
      obtain ⟨path, e, sent, -⟩ := agrees
      exact ⟨_, sent⟩

/-- Another event of the request changes nothing of it. -/
theorem IsEntryOf.snoc {action : RecoveryAction} {request : Request} {h : ApplicationHistory κ}
    {p q : Handler κ Answer} {s : Stored} {e : Event (ApplicationEffects κ)}
    (entry : IsEntryOf action ⟨request, h, p⟩ s)
    (single : (submissions (serviceHistory (h ++ [e]))).length ≤ 1) :
    IsEntryOf action ⟨request, h ++ [e], q⟩ s := by
  obtain ⟨mem, named, intent, agrees⟩ := entry
  refine ⟨?_, named, intent, fun terminal => ?_⟩
  · change s ∈ stored (serviceHistory (h ++ [e]))
    rw [serviceHistory_append, stored_append]
    exact List.mem_append_left _ mem
  · -- the POST is the only one
    refine (agrees terminal).of_submissions terminal ?_
    obtain ⟨submission, sent⟩ := (agrees terminal).submitted terminal
    change submissions (serviceHistory (h ++ [e])) = submissions (serviceHistory h)
    change submissions (serviceHistory h) = [submission] at sent
    rw [serviceHistory_append, submissions_append, sent] at single ⊢
    have later : submissions (serviceHistory [e]) = [] :=
      List.eq_nil_of_length_eq_zero (Nat.le_zero.mp (Nat.le_of_succ_le_succ single))
    rw [later, List.append_nil]

/-- A request of the run has stored the entry of the action. -/
def HasEntry (cfg : Requests κ deliveries journal) (action : RecoveryAction) : Prop :=
  ∃ i t s, cfg.threads i = some t ∧ IsEntryOf action t s

/-- No step undoes it. -/
theorem HasEntry.step {cfg' : Requests κ deliveries journal}
    {l : Label (ApplicationEffects κ) Request} {action : RecoveryAction}
    (after : (applicationSystem self deliveries journal).Reachable ok
      (SharedWorld.start deliveries journal now) cfg')
    (step : (applicationSystem self deliveries journal).Step cfg l cfg')
    (there : HasEntry cfg action) : HasEntry cfg' action := by
  obtain ⟨j, t, s, running, entry⟩ := there
  cases step with
  | @spawn i request free =>
      have other : j ≠ i := by
        rintro rfl
        rw [free] at running
        cases running
      exact ⟨j, t, s, (Config.set_of_ne _ _ _ other).trans running, entry⟩
  | @answer i request h c k a w pending answered =>
      by_cases same : j = i
      · subst same
        rw [pending] at running
        cases running
        exact ⟨j, _, s, Config.set_self .., entry.snoc
          (reachable_submissions after (Config.set_self ..))⟩
      · exact ⟨j, t, s, (Config.set_of_ne _ _ _ same).trans running, entry⟩

end Reachable

/-- What a row agrees with, its copies agree with. -/
theorem RowAgrees.denotes {row action : RecoveryAction} {h : History} (agrees : RowAgrees row h)
    (denotes : action.Denotes row) : RowAgrees action h := by
  rw [RowAgrees] at agrees ⊢
  rw [denotes.state, denotes.upstreamStatusCode, denotes.failureCategory]
  exact agrees

section Everything

variable {self : Application κ} {deliveries : DeliveryBackend} {journal : JournalBackend}
  {now : Monotonic} {cfg : Requests κ deliveries journal}

/-- The journal returns no action that a request has not stored. -/
theorem hasEntry_of_shown
    (reachable : (applicationSystem self deliveries journal).Reachable (fun _ _ => True)
      (SharedWorld.start deliveries journal now) cfg)
    {i : ℕ} {t : RequestThread κ} (running : cfg.threads i = some t) {action : RecoveryAction}
    (shown : action ∈ shownActions t.history) : HasEntry cfg action := by
  obtain ⟨e', there, returned⟩ := List.mem_flatMap.mp shown
  obtain ⟨e, mem, isJournal⟩ := List.mem_filterMap.mp there
  refine System.Reachable.remembered (Q := fun e cfg => ∀ e', journalEvent e = some e' →
    action ∈ returnedActions e' → HasEntry cfg action) ?_ ?_ reachable running e mem e' isJournal
    returned
  · intro cfg i request h c k a w before pending answered e' isJournal returned
    have step : (applicationSystem self deliveries journal).Step cfg _ _ :=
      .answer pending answered
    cases answered with
    | journal answered =>
        cases isJournal
        -- it denotes a row, which is one of the entries
        obtain ⟨row, mem, denotes⟩ := journal.denotes answered returned
        obtain ⟨j, t', s, running, one, named, intent, agrees⟩ := reachable_owner before mem
        refine HasEntry.step (.step before step trivial) step ⟨j, t', s, running, ?_⟩
        exact ⟨one ▸ List.mem_singleton_self s, named.trans denotes.actionId.symm,
          denotes.intent.trans intent, fun _ => agrees.denotes denotes⟩
    | authenticator | store | service | readinessCheck => cases isJournal
  · intro cfg l cfg' e before step there e' isJournal returned
    exact (there e' isJournal returned).step (.step before step trivial) step

/-- The action is the entry of a redelivery that a request of the run has stored, whatever has
become of it since; and if it is terminal, it says what became of the POST. -/
def Attested (self : Application κ) (cfg : Requests κ deliveries journal)
    (action : RecoveryAction) : Prop :=
  ∃ i t s redelivery, cfg.threads i = some t ∧ IsEntryOf action t s ∧
    Sanctioned self cfg.world.provider t redelivery ∧ Received self cfg redelivery.attempt ∧
    EntryFor redelivery s.entry

theorem HasEntry.attested {action : RecoveryAction}
    (reachable : (applicationSystem self deliveries journal).Reachable (fun _ _ => True)
      (SharedWorld.start deliveries journal now) cfg) (there : HasEntry cfg action) :
    Attested self cfg action := by
  obtain ⟨i, t, s, running, entry⟩ := there
  obtain ⟨redelivery, authorized, received, entryFor⟩ :=
    redelivery_of_stored reachable running entry.1
  exact ⟨i, t, s, redelivery, running, entry, authorized, received, entryFor⟩

/-! ## Answers -/

/-- What an answer rests on. -/
def Backed (self : Application κ) (cfg : Requests κ deliveries journal) : Answer → Prop
  | .deliveryAttempts response => ∀ item ∈ response.items, ∃ attempt, Received self cfg attempt ∧
      deliveryAttemptToResponse attempt = .ok item
  | .deliveryAttempt response => ∃ attempt, Received self cfg attempt ∧
      deliveryAttemptToResponse attempt = .ok response
  | .githubDeliveries response => ∃ attempt, Received self cfg attempt ∧
      response.attemptId = attempt.attemptId ∧
      response.deliveryGuid = attempt.deliveryIdentity.deliveryGuid ∧
      response.hookId = attempt.deliveryIdentity.hookId
  | .githubRedelivery response => ∃ attempt, Received self cfg attempt ∧
      response.attemptId = attempt.attemptId ∧
      response.deliveryGuid = attempt.deliveryIdentity.deliveryGuid ∧
      response.hookId = attempt.deliveryIdentity.hookId
  | .recoveryActions response => ∀ action ∈ response.items, Attested self cfg action
  | .recoveryAction response => Attested self cfg response
  | .events recentEvents => ∀ attempt ∈ recentEvents, Received self cfg attempt
  | .webhookReceived attempt => ∃ headers chunks attemptId now,
      self.FromWebhook headers chunks attemptId now attempt
  | .health | .ready => True

/-- What a redelivery route sends is what its service has returned. -/
theorem answeredAs_eq_ok {r : Except AppError GitHubRedeliveryResult} {answer : Answer}
    (answered : Application.answeredAs r = .ok answer) :
    ∃ result, r = .ok result ∧
      answer = .githubRedelivery (Application.redeliveryResponse result) := by
  obtain ⟨result, returned, answered⟩ := bind_eq_ok.mp answered
  obtain ⟨response, rendered, built⟩ := bind_eq_ok.mp answered
  obtain rfl := Application.eq_of_render rendered
  cases built
  exact ⟨result, mapError_eq_ok.mp returned, rfl⟩

/-- The lookup of a found attempt has shown it. -/
theorem shown_of_found {capability : ManagementCapability} {credentials : Option RequestCredentials}
    {attemptId : Str} {authorization : ManagementAuthorization} {attempt : DeliveryAttempt}
    {es : History} {h : ApplicationHistory κ}
    (found : self.Found capability credentials attemptId authorization attempt es h) :
    attempt ∈ shownAttempts h := by
  obtain ⟨id, -, es', -, rfl⟩ := found
  rw [shownAttempts_append]
  exact List.mem_append_right _ List.mem_cons_self

/-- **Answers rest on what was received and recorded.** In every run of requests of all routes
from empty stores, in any number and order, over any two backends: an attempt in an answer is
one that a signed webhook of the run has added, and an action in an answer is the entry of an
authorized redelivery of the run, in a state that its POST bears out. -/
theorem answers_backed (self : Application κ) (deliveries : DeliveryBackend)
    (journal : JournalBackend) {now : Monotonic} {cfg : Requests κ deliveries journal}
    (reachable : (applicationSystem self deliveries journal).Reachable (fun _ _ => True)
      (SharedWorld.start deliveries journal now) cfg)
    {i : ℕ} {t : RequestThread κ} (running : cfg.threads i = some t) {answer : Answer}
    (answered : t.rest = .ret answer) : Backed self cfg answer := by
  have received : ∀ {attempt}, attempt ∈ shownAttempts t.history → Received self cfg attempt :=
    fun shown => received_of_shown reachable running shown
  have attested : ∀ {action}, action ∈ shownActions t.history → Attested self cfg action :=
    fun shown => (hasEntry_of_shown reachable running shown).attested reachable
  -- what is shown is backed
  have backed : Application.IsShown t.history answer → Backed self cfg answer := by
    intro shown
    cases answer with
    | deliveryAttempts response =>
        intro item mem
        obtain ⟨attempt, seen, presented⟩ := shown item mem
        exact ⟨attempt, received seen, presented⟩
    | deliveryAttempt response =>
        obtain ⟨attempt, seen, presented⟩ := shown
        exact ⟨attempt, received seen, presented⟩
    | githubDeliveries response =>
        obtain ⟨attempt, seen, same⟩ := shown
        exact ⟨attempt, received seen, same⟩
    | recoveryActions response => exact fun action mem => attested (shown action mem)
    | recoveryAction response => exact attested shown
    | events recentEvents => exact fun attempt mem => received (shown attempt mem)
    | health | ready => trivial
    | webhookReceived attempt | githubRedelivery response => exact shown.elim
  have ended := reachable_handle_meets reachable running
  rw [answered] at ended
  change (self.over deliveries journal).MayAnswer t.request t.history (.ok answer) at ended
  cases asked : t.request with
  | githubWebhook headers chunks =>
      rw [asked] at ended
      obtain ⟨attemptId, now, attempt, es, rfl, -, fromWebhook, -⟩ := ended answer rfl
      exact ⟨headers, chunks, attemptId, now, fromWebhook⟩
  | requestGithubRedelivery credentials attemptId githubDeliveryId =>
      rw [asked] at ended
      generalize outcome : (Except.ok answer : Except AppError Answer) = r at ended
      cases ended with
      | refused nothing => cases outcome
      | requested found parsed ended tells =>
          obtain ⟨result, rfl, rfl⟩ := answeredAs_eq_ok outcome.symm
          obtain ⟨entry, -, -, same, -⟩ := ended
          refine ⟨_, received (shown_of_found found), ?_⟩
          rw [← same]
          exact ⟨rfl, rfl, rfl⟩
  | listDeliveryAttempts | getDeliveryAttempt | reconcileGithubDeliveries | listRecoveryActions
  | getRecoveryAction | getEvents | health | ready =>
      rw [asked] at ended
      exact backed (ended answer rfl)

end Everything

/-- Requests over PostgreSQL, with its journal. -/
abbrev JournalledRequests :=
  Requests Members (postgresDeliveries sampleDriver 10) postgresJournalBackend

/-- The actions in the answer of a request. -/
def JournalledRequests.listed (cfg : JournalledRequests) (i : ℕ) : ℕ :=
  match cfg.threads i with
  | some ⟨_, _, .ret (.recoveryActions response)⟩ => response.items.length
  | _ => 0

/-- A webhook and a redelivery of it over PostgreSQL, and a page of the journal, with the entry
of the redelivery. -/
theorem answers_backed_sample :
    ∃ (cfg : JournalledRequests) (t : RequestThread Members)
      (response : RecoveryActionsListResponse),
      cfg.threads 2 = some t ∧ t.rest = .ret (.recoveryActions response) ∧
      response.items.length = 1 ∧ ∀ action ∈ response.items,
        Attested sampleApplication cfg action := by
  have played : ((applicationSystem sampleApplication (postgresDeliveries sampleDriver 10)
      postgresJournalBackend).play
      (SharedWorld.choose DeliveryDatabase.chooseCall (PostgresWorld.choose sampleOutside)
        PostgresWorld.chooseQuery) (fun _ _ => true) (Config.initial (SharedWorld.start _ _ 0))
      (.start 0 sampleWebhook :: List.replicate 6 (.go 0) ++
        .start 1 sampleRedelivery :: List.replicate 8 (.go 1) ++
        [.start 2 (.listRecoveryActions (some sampleToken) none none), .go 2])).map
          (fun cfg : JournalledRequests => cfg.listed 2) = some 1 := by decide +kernel
  obtain ⟨cfg, reached, one⟩ := Option.map_eq_some_iff.mp played
  have reachable : (applicationSystem sampleApplication (postgresDeliveries sampleDriver 10)
      postgresJournalBackend).Reachable (fun _ _ => True) (SharedWorld.start _ _ 0) cfg :=
    System.reachable_of_play
      (SharedWorld.choose_sound DeliveryDatabase.chooseCall_sound PostgresWorld.choose_sound
        PostgresWorld.chooseQuery_sound)
      (fun _ => trivial) .initial reached
  unfold JournalledRequests.listed at one
  split at one
  · next request h response running =>
      exact ⟨cfg, _, response, running, rfl, one, answers_backed sampleApplication
        (postgresDeliveries sampleDriver 10) postgresJournalBackend reachable running rfl⟩
  · cases one

end WebhookMonitor
