import WebhookMonitor.Application.Authority

/-!
# Redeliveries inside the application

Every redelivery that is submitted to GitHub goes back to a request that the dependency has
let through with `recovery:execute`, and to an attempt that a signed webhook has added.

* `service_cases` — which request makes which call of the services;
* `reachable_serviceHistory` — what redeliveries keep, all requests keep;
* `authorized_of_split` — what stands behind a call that only redeliveries make;
* `redelivery_authorized` — what stands behind a POST.
-/

namespace WebhookMonitor

open Python Interaction ApplicationCall

variable {κ : Type}

/-! ## The calls of the services -/

/-- A call of the services: a webhook draws its identifier and its time, a reconciliation
asks for a page, and the rest is done by redeliveries. -/
theorem service_cases {self : Application κ}
    {MayAdd : DeliveryAttempt → List (Event StoreEffects) → StoreCall → Prop} {request : Request}
    {h : ApplicationHistory κ} {c : Call} (may : self.MayAsk MayAdd request h (.service c)) :
    (∃ headers chunks, request = .githubWebhook headers chunks ∧ (c = .uuid4 ∨ c = .now)) ∨
    (∃ credentials attemptId cursor,
      request = .reconcileGithubDeliveries credentials attemptId cursor ∧
        ∃ path perPage page, c = .httpGet path perPage page) ∨
    ∃ credentials attemptId githubDeliveryId,
      request = .requestGithubRedelivery credentials attemptId githubDeliveryId ∧
        self.MayRedeliver credentials attemptId githubDeliveryId h (.service c) := by
  cases request with
  | githubWebhook headers chunks =>
      obtain ⟨-, ⟨-, ask⟩ | ⟨attemptId, -, ask⟩ |
        ⟨attemptId, now, attempt, es, c', -, -, ask, -⟩⟩ := may
      · exact .inl ⟨headers, chunks, rfl, .inl (service.inj ask)⟩
      · exact .inl ⟨headers, chunks, rfl, .inr (service.inj ask)⟩
      · cases ask
  | reconcileGithubDeliveries credentials attemptId cursor =>
      obtain ⟨-, c', ask⟩ | ⟨authorization, id, -, -, ask⟩ |
        ⟨authorization, attempt, es, c', owner, repository, start, -, ask, -, -, may⟩ := may
      · cases ask
      · cases ask
      · obtain rfl := service.inj ask
        obtain ⟨-, -, -, path, page, rfl⟩ := may
        exact .inr (.inl ⟨credentials, attemptId, cursor, rfl, path, _, page, rfl⟩)
  | requestGithubRedelivery credentials attemptId githubDeliveryId =>
      obtain ⟨-, c', ask⟩ | ⟨authorization, id, -, -, ask⟩ | may := may
      · cases ask
      · cases ask
      · exact .inr (.inr ⟨credentials, attemptId, githubDeliveryId, rfl, may⟩)
  | listDeliveryAttempts credentials limit cursor | listRecoveryActions credentials limit cursor =>
      obtain ⟨-, c', ask⟩ | ⟨authorization, n, after, -, ask⟩ := may
      · cases ask
      · cases ask
  | getDeliveryAttempt credentials attemptId | getRecoveryAction credentials attemptId =>
      obtain ⟨-, c', ask⟩ | ⟨authorization, id, -, -, ask⟩ := may
      · cases ask
      · cases ask
  | getEvents credentials =>
      obtain ⟨-, c', ask⟩ | ⟨authorization, -, ask⟩ := may
      · cases ask
      · cases ask
  | health => exact may.elim
  | ready => cases may.2

/-- What the services have seen once the attempt is found. -/
theorem serviceHistory_of_found {self : Application κ} {capability : ManagementCapability}
    {credentials : Option RequestCredentials} {attemptId : Str}
    {authorization : ManagementAuthorization} {attempt : DeliveryAttempt} {es : History}
    {h : ApplicationHistory κ}
    (found : self.Found capability credentials attemptId authorization attempt es h) :
    serviceHistory h = es := by
  obtain ⟨id, -, es', -, rfl⟩ := found
  have split : (⟨.store (.getAttempt id), .ok (some attempt)⟩ : Event (ApplicationEffects κ)) ::
      es.map (services κ).event = [⟨.store (.getAttempt id), .ok (some attempt)⟩] ++
        es.map (services κ).event := rfl
  rw [split, serviceHistory_append, serviceHistory_append, serviceHistory_authentication,
    serviceHistory_services]
  rfl

/-- The call is one that only a redelivery makes. -/
def Call.isRedelivery : Call → Bool
  | .now | .uuid4 | .httpGet .. => false
  | _ => true

theorem mayCall_of_mayAsk {self : Application κ}
    {MayAdd : DeliveryAttempt → List (Event StoreEffects) → StoreCall → Prop} {request : Request}
    {h : ApplicationHistory κ} {c : Call} (may : self.MayAsk MayAdd request h (.service c))
    (redelivers : c.isRedelivery = true) :
    ∃ credentials attemptId githubDeliveryId redelivery,
      request = .requestGithubRedelivery credentials attemptId githubDeliveryId ∧
      self.Found .recoveryExecute credentials attemptId redelivery.authorization
        redelivery.attempt (serviceHistory h) h ∧
      Application.parseGithubDeliveryId githubDeliveryId = .ok redelivery.githubDeliveryId ∧
      MayCall self.redeliveryService redelivery (serviceHistory h) c := by
  rcases service_cases may with ⟨-, -, -, rfl | rfl⟩ | ⟨-, -, -, -, path, perPage, page, rfl⟩ |
    ⟨credentials, attemptId, githubDeliveryId, rfl, redelivery, es, c', found, parsed, ask, may⟩
  · cases redelivers
  · cases redelivers
  · cases redelivers
  · obtain rfl := service.inj ask
    obtain rfl := serviceHistory_of_found found
    exact ⟨credentials, attemptId, githubDeliveryId, redelivery, rfl, found, parsed, may⟩

/-! ## What stands behind a redelivery -/

/-- The request asks for this redelivery, and the dependency has let it through. -/
def Sanctioned (self : Application κ) (w : AuthenticatorWorld) (t : RequestThread κ)
    (redelivery : RedeliveryRequest) : Prop :=
  ∃ credentials attemptId githubDeliveryId es,
    t.request = .requestGithubRedelivery credentials attemptId githubDeliveryId ∧
    Application.parseGithubDeliveryId githubDeliveryId = .ok redelivery.githubDeliveryId ∧
    es ⊆ authenticatorHistory t.history ∧ self.gate.managementApiEnabled = true ∧
    Granted self.gate w .recoveryExecute credentials es redelivery.authorization

section Reachable

variable {self : Application κ} {deliveries : DeliveryBackend} {journal : JournalBackend}
  {ok : Requests κ deliveries journal → Label (ApplicationEffects κ) Request → Prop}
  {now : Monotonic} {cfg : Requests κ deliveries journal}

/-- A request that only redeliveries make: it is authorized, and its attempt was received. -/
theorem authorized_of_split
    (reachable : (applicationSystem self deliveries journal).Reachable ok
      (SharedWorld.start deliveries journal now) cfg)
    {i : ℕ} {t : RequestThread κ} (running : cfg.threads i = some t)
    {before after : ApplicationHistory κ} {c : Call} {a : c.Answer}
    (split : t.history = before ++ ⟨.service c, a⟩ :: after) (redelivers : c.isRedelivery = true) :
    ∃ redelivery, Sanctioned self cfg.world.provider t redelivery ∧
      Received self cfg redelivery.attempt ∧
      MayCall (self.redeliveryService.over journal.toSharedJournal) redelivery
        (serviceHistory before) c := by
  obtain ⟨credentials, attemptId, githubDeliveryId, redelivery, asked, found, parsed, may⟩ :=
    mayCall_of_mayAsk (mayAsk_of_split reachable running split) redelivers
  obtain ⟨id, -, es, grants, begins⟩ := found
  have seen : es ⊆ authenticatorHistory t.history := by
    rw [split, begins, authenticatorHistory_append, authenticatorHistory_append,
      authenticatorHistory_authentication, List.append_assoc]
    exact List.subset_append_left _ _
  obtain ⟨enabled, granted⟩ := granted_of_grants reachable running grants seen
  refine ⟨redelivery, ⟨credentials, attemptId, githubDeliveryId, es, asked, parsed, seen, enabled,
    granted⟩, received_of_shown reachable running ?_, may⟩
  -- the attempt is what the lookup returned
  rw [split, begins, shownAttempts_append, shownAttempts_append]
  exact List.mem_append_left _ (List.mem_append_right _ List.mem_cons_self)

/-- What the services show after one more event. -/
theorem serviceHistory_snoc (h : ApplicationHistory κ) (c : Call) (a : c.Answer) :
    serviceHistory (h ++ [(⟨.service c, a⟩ : Event (ApplicationEffects κ))]) =
      serviceHistory h ++ [⟨c, a⟩] := by
  rw [serviceHistory_append]
  rfl

/-- An event of another interface is none of the services. -/
theorem serviceHistory_snoc_of_none (h : ApplicationHistory κ) {e : Event (ApplicationEffects κ)}
    (other : serviceEvent e = none) : serviceHistory (h ++ [e]) = serviceHistory h := by
  rw [serviceHistory_append]
  simp [serviceHistory, other]

/-- What redeliveries keep of what the services show, and no other call concerns, the
histories of all requests have. -/
theorem reachable_serviceHistory {P : History → Prop} (initial : P [])
    (plain : ∀ {h : History} {c : Call} (a : c.Answer), c.isRedelivery = false → P h →
      P (h ++ [⟨c, a⟩]))
    (kept : ∀ {redelivery h c} (a : c.Answer),
      MayCall (self.redeliveryService.over journal.toSharedJournal) redelivery h c → P h →
        P (h ++ [⟨c, a⟩]))
    (reachable : (applicationSystem self deliveries journal).Reachable ok
      (SharedWorld.start deliveries journal now) cfg)
    {i : ℕ} {t : RequestThread κ} (running : cfg.threads i = some t) :
    P (serviceHistory t.history) := by
  refine reachable_history (P := fun h => P (serviceHistory h)) initial ?_ reachable running
  intro request h c a may holds
  cases c with
  | service c =>
      rw [serviceHistory_snoc]
      cases redelivers : c.isRedelivery with
      | false => exact plain a redelivers holds
      | true =>
          obtain ⟨-, -, -, redelivery, -, -, -, may⟩ := mayCall_of_mayAsk may redelivers
          exact kept a may holds
  | authenticator | store | journal | readinessCheck =>
      rw [serviceHistory_snoc_of_none _ rfl]
      exact holds

/-- A request submits at most once. -/
theorem reachable_submissions
    (reachable : (applicationSystem self deliveries journal).Reachable ok
      (SharedWorld.start deliveries journal now) cfg)
    {i : ℕ} {t : RequestThread κ} (running : cfg.threads i = some t) :
    (submissions (serviceHistory t.history)).length ≤ 1 := by
  refine reachable_serviceHistory (P := fun h => (submissions h).length ≤ 1) (Nat.zero_le _) ?_ ?_
    reachable running
  · intro h c a plain single
    have other : submissionOf ⟨c, a⟩ = none := by
      cases c with
      | now | uuid4 | httpGet => rfl
      | httpPost | appendLeft | finalizeEntry | insert | updateInitiated | selectState =>
          cases plain
    rw [submissions, shown_of_none submissionOf other]
    exact single
  · intro redelivery h c a may single
    cases c with
    | httpPost path =>
        obtain ⟨-, owner, repository, returned, -, -, none_sent, -⟩ := may
        rw [submissions_append, none_sent]
        exact le_rfl
    | now | uuid4 | httpGet | appendLeft | finalizeEntry | insert | updateInitiated
    | selectState =>
        rw [submissions, shown_of_none submissionOf rfl]
        exact single

/-- **Redeliveries are authorized.** Behind every redelivery that any request of a run from
empty stores submits to GitHub stand a token that the dependency has accepted for
`recovery:execute`, an attempt that a signed webhook has added, and the journal entry of the
request, stored before it; and it is the only one of its request. -/
theorem redelivery_authorized (self : Application κ) (deliveries : DeliveryBackend)
    (journal : JournalBackend) {now : Monotonic} {cfg : Requests κ deliveries journal}
    (reachable : (applicationSystem self deliveries journal).Reachable (fun _ _ => True)
      (SharedWorld.start deliveries journal now) cfg)
    {i : ℕ} {t : RequestThread κ} (running : cfg.threads i = some t)
    {before after : ApplicationHistory κ} {path : Str}
    {answer : Except HttpClientError HttpResponse}
    (split : t.history = before ++ ⟨.service (.httpPost path), answer⟩ :: after) :
    ∃ redelivery owner repository, Sanctioned self cfg.world.provider t redelivery ∧
      Received self cfg redelivery.attempt ∧
      redelivery.attempt.repository = .str (owner ++ Str.lit "/" ++ repository) ∧
      repositoryRedeliveryPath owner repository redelivery.attempt.deliveryIdentity.hookId
        redelivery.githubDeliveryId = .ok path ∧
      (∃ journalled, stored (serviceHistory before) = [journalled] ∧
        EntryFor redelivery journalled.entry) ∧
      submissions (serviceHistory t.history) = [⟨path, answer⟩] := by
  obtain ⟨redelivery, authorized, received, -, owner, repository, returned, verified,
    ⟨id, -, requestedAt, one⟩, none_sent, -, hpath⟩ :=
      authorized_of_split reachable running split rfl
  refine ⟨redelivery, owner, repository, authorized, received,
    eq_of_repositoryCoordinates verified.coordinates, hpath,
    ⟨_, one, entryFor_initiatedAction id requestedAt verified.coordinates⟩, ?_⟩
  -- and there is no other
  have single := reachable_submissions reachable running
  rw [split, serviceHistory_append, submissions_append, none_sent] at single ⊢
  change (_ :: submissions (serviceHistory after)).length ≤ 1 at single
  have later : submissions (serviceHistory after) = [] :=
    List.eq_nil_of_length_eq_zero (Nat.le_zero.mp (Nat.le_of_succ_le_succ single))
  change _ :: submissions (serviceHistory after) = _
  rw [later]

end Reachable

theorem redelivery_authorized_sample :
    ∃ (cfg : MemoryRequests) (t : RequestThread Members) (redelivery : RedeliveryRequest),
      cfg.threads 1 = some t ∧ (submissions (serviceHistory t.history)).length = 1 ∧
      Sanctioned sampleApplication cfg.world.provider t redelivery ∧
      Received sampleApplication cfg redelivery.attempt := by
  obtain ⟨cfg, reachable, returned, counts, -⟩ := exists_sampleRun
  obtain ⟨-, returned⟩ := List.cons.inj returned
  obtain ⟨t, answer, running, -⟩ := Requests.exists_of_returned (List.cons.inj returned).1
  have sent : (submissions (serviceHistory t.history)).length = 1 := by
    have counted := (Prod.mk.inj counts).1
    rw [running] at counted
    exact counted
  rcases submissions_cases (serviceHistory t.history) with
    none | ⟨before, path, answer, after, seen⟩
  · rw [none] at sent
    cases sent
  · have mem : (⟨.httpPost path, answer⟩ : Event Effects) ∈ serviceHistory t.history := by
      rw [seen]
      exact List.mem_append_right _ List.mem_cons_self
    obtain ⟨before, after, split⟩ := split_of_mem_serviceHistory mem
    obtain ⟨redelivery, -, -, authorized, received, -⟩ := redelivery_authorized sampleApplication
      (memoryDeliveries 1 Nat.one_pos) (memoryJournalBackend 1 Nat.one_pos) reachable running split
    exact ⟨cfg, t, redelivery, running, sent, authorized, received⟩

end WebhookMonitor
