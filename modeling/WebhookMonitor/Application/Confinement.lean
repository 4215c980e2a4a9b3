import WebhookMonitor.Application.Authority

/-!
# What a request can reach

A request of a route touches what the route is for, and nothing else; and it touches that
only after its guard: the dependency of a management route, the signature of a webhook.

* `Request.guard` — the dependency of a route;
* `Request.mayTouch` — the calls a route is for;
* `requests_confined` — no request, in any run, makes another call, or one before its guard.
-/

namespace WebhookMonitor

open Python Interaction ApplicationCall

variable {κ : Type}

/-- The dependency of a route, with the credentials it looks at. -/
def Request.guard : Request → Option (ManagementCapability × Option RequestCredentials)
  | .listDeliveryAttempts credentials _ _ | .getDeliveryAttempt credentials _
  | .reconcileGithubDeliveries credentials _ _ | .getEvents credentials =>
      some (.diagnosticsRead, credentials)
  | .requestGithubRedelivery credentials _ _ => some (.recoveryExecute, credentials)
  | .listRecoveryActions credentials _ _ | .getRecoveryAction credentials _ =>
      some (.recoveryRead, credentials)
  | .githubWebhook .. | .health | .ready => none

/-- What a route is for. -/
def Request.mayTouch : Request → ApplicationCall κ → Bool
  | .githubWebhook .., .service .uuid4 | .githubWebhook .., .service .now => true
  | .githubWebhook .., .store c => !c.isQuery
  | .listDeliveryAttempts .., .store (.listAttemptsPage ..) => true
  | .getDeliveryAttempt .., .store (.getAttempt _) => true
  | .reconcileGithubDeliveries .., .store (.getAttempt _) => true
  | .reconcileGithubDeliveries .., .service (.httpGet ..) => true
  | .requestGithubRedelivery .., .store (.getAttempt _) => true
  | .requestGithubRedelivery .., .service _ => true
  | .listRecoveryActions .., .journal (.listRecent ..) => true
  | .getRecoveryAction .., .journal (.get _) => true
  | .getEvents _, .store .listRecent => true
  | .ready, .readinessCheck => true
  | request, .authenticator _ => request.guard.isSome
  | _, _ => false

section Guard

variable {self : Application κ} {capability : ManagementCapability}
  {credentials : Option RequestCredentials} {request : Request}

variable (self) in
/-- A guarded route starts with its dependency. -/
theorem handle_of_guard (guarded : request.guard = some (capability, credentials)) :
    ∃ rest, self.handle request = self.authorize capability credentials >>= rest := by
  cases request with
  | githubWebhook | health | ready => cases guarded
  | listDeliveryAttempts | getDeliveryAttempt | reconcileGithubDeliveries | getEvents
  | requestGithubRedelivery | listRecoveryActions | getRecoveryAction =>
      cases guarded
      exact ⟨_, Program.bind_bind _ _ _⟩

/-- The dependency has let the request through, and then came the rest of `h`. -/
def LetThrough (self : Application κ) (w : AuthenticatorWorld) (capability : ManagementCapability)
    (credentials : Option RequestCredentials) (h : ApplicationHistory κ) : Prop :=
  self.gate.managementApiEnabled = true ∧
    ∃ es authorization, es.map (authentication κ).event <+: h ∧
      Granted self.gate w capability credentials es authorization

/-- A run of the dependency that has yielded something. -/
theorem grants_of_trace {es : ApplicationHistory κ} {authorization : ManagementAuthorization}
    (trace : Trace (self.authorize capability credentials) es (.ret authorization)) :
    ∃ es', es = es'.map (authentication κ).event ∧
      self.Grants capability credentials es' authorization := by
  obtain ⟨es', q, rfl, returned, run⟩ := Embedding.trace_lift (authentication κ) trace
  rw [Embedding.eq_ret_of_lift _ returned.symm] at run
  exact ⟨es', rfl, run⟩

/-- What a guarded request does besides authenticating, it does after its guard. -/
theorem grants_of_split (guarded : request.guard = some (capability, credentials))
    {before after : ApplicationHistory κ} {e : Event (ApplicationEffects κ)}
    {q : Handler κ Answer} (trace : Trace (self.handle request) (before ++ e :: after) q)
    (other : e.call.isAuthentication = false) :
    ∃ es authorization, es.map (authentication κ).event <+: before ∧
      self.Grants capability credentials es authorization := by
  obtain ⟨rest, handles⟩ := handle_of_guard self guarded
  rw [handles] at trace
  -- the events of the dependency are those of the authenticator
  have own : ∀ es : List (Event (AuthenticatorEffects κ)), e ∉ es.map (authentication κ).event := by
    intro es mem
    obtain ⟨e', -, rfl⟩ := List.mem_map.mp mem
    cases other
  rcases Trace.bind_cases trace with ⟨p', -, first⟩ | ⟨authorization, first, last, split, run, -⟩
  · obtain ⟨es, -, lifted, -, -⟩ := Embedding.trace_lift (authentication κ) first
    exact absurd (lifted ▸ List.mem_append_right _ List.mem_cons_self) (own es)
  · obtain ⟨es, rfl, grants⟩ := grants_of_trace run
    refine ⟨es, authorization, ?_, grants⟩
    -- so they are all in front of this one
    rcases List.append_eq_append_iff.mp split with ⟨between, same, there⟩ | ⟨between, same, -⟩
    · cases between with
      | nil => rw [same, List.append_nil]
      | cons e' between =>
          obtain rfl : e = e' := (List.cons.inj there).1
          exact absurd (same ▸ List.mem_append_right _ List.mem_cons_self) (own es)
    · exact ⟨between, same.symm⟩

/-- And so it answers. -/
theorem grants_of_answer (guarded : request.guard = some (capability, credentials))
    {h : ApplicationHistory κ} {answer : Answer}
    (trace : Trace (self.handle request) h (.ret answer)) :
    ∃ es authorization, es.map (authentication κ).event <+: h ∧
      self.Grants capability credentials es authorization := by
  obtain ⟨rest, handles⟩ := handle_of_guard self guarded
  rw [handles] at trace
  obtain ⟨authorization, first, last, rfl, run, -⟩ := Trace.bind_ret trace
  obtain ⟨es, rfl, grants⟩ := grants_of_trace run
  exact ⟨es, authorization, List.prefix_append _ _, grants⟩

end Guard

/-- A request makes no call that its route is not for. -/
theorem mayTouch_of_mayAsk {self : Application κ}
    {MayAdd : DeliveryAttempt → List (Event StoreEffects) → StoreCall → Prop}
    (adds : ∀ {attempt es c}, MayAdd attempt es c → c.isQuery = false) {request : Request}
    {h : ApplicationHistory κ} {c : ApplicationCall κ} (may : self.MayAsk MayAdd request h c) :
    request.mayTouch c = true := by
  cases request with
  | githubWebhook headers chunks =>
      obtain ⟨-, ⟨-, rfl⟩ | ⟨attemptId, -, rfl⟩ |
        ⟨attemptId, now, attempt, es, c', -, -, rfl, may⟩⟩ := may
      · rfl
      · rfl
      · change (!c'.isQuery) = true
        rw [adds may]
        rfl
  | listDeliveryAttempts | listRecoveryActions =>
      obtain ⟨-, c', rfl⟩ | ⟨authorization, n, after, -, rfl⟩ := may
      · rfl
      · rfl
  | getDeliveryAttempt | getRecoveryAction =>
      obtain ⟨-, c', rfl⟩ | ⟨authorization, id, -, -, rfl⟩ := may
      · rfl
      · rfl
  | reconcileGithubDeliveries =>
      obtain ⟨-, c', rfl⟩ | ⟨authorization, id, -, -, rfl⟩ |
        ⟨authorization, attempt, es, c', owner, repository, start, -, rfl, -, -, may⟩ := may
      · rfl
      · rfl
      · obtain ⟨-, -, -, path, page, rfl⟩ := may
        rfl
  | requestGithubRedelivery =>
      obtain ⟨-, c', rfl⟩ | ⟨authorization, id, -, -, rfl⟩ |
        ⟨redelivery, es, c', -, -, rfl, -⟩ := may
      · rfl
      · rfl
      · rfl
  | getEvents =>
      obtain ⟨-, c', rfl⟩ | ⟨authorization, -, rfl⟩ := may
      · rfl
      · rfl
  | health => exact may.elim
  | ready =>
      obtain ⟨-, rfl⟩ := may
      rfl

/-- What a request can reach. -/
structure Confined (self : Application κ) (w : AuthenticatorWorld) (t : RequestThread κ) :
    Prop where
  /-- It makes the calls of its route. -/
  touches : ∀ e ∈ t.history, t.request.mayTouch e.call = true
  /-- Behind the dependency, if there is one. -/
  guarded : ∀ capability credentials, t.request.guard = some (capability, credentials) →
    ∀ before e after, t.history = before ++ e :: after → e.call.isAuthentication = false →
      LetThrough self w capability credentials before
  /-- A success is behind it, too. -/
  answered : ∀ capability credentials, t.request.guard = some (capability, credentials) →
    ∀ answer, t.rest = .ret answer → LetThrough self w capability credentials t.history
  /-- A webhook makes no call at all before it is accepted. -/
  accepted : ∀ headers chunks, t.request = .githubWebhook headers chunks → t.history ≠ [] →
    ∃ request payload, self.Accepts headers chunks request payload

/-- **Confinement.** Every request, in every run of requests of all routes over any two
backends, from empty stores and caches, makes the calls of its route alone, none of them but
those of the authenticator before the dependency has let it through, and none at all for a
webhook that is not signed. -/
theorem requests_confined (self : Application κ) (deliveries : DeliveryBackend)
    (journal : JournalBackend) {now : Monotonic} {cfg : Requests κ deliveries journal}
    (reachable : (applicationSystem self deliveries journal).Reachable (fun _ _ => True)
      (SharedWorld.start deliveries journal now) cfg)
    {i : ℕ} {t : RequestThread κ} (running : cfg.threads i = some t) :
    Confined self cfg.world.provider t := by
  have let_through : ∀ {capability credentials} {h : ApplicationHistory κ}, h <+: t.history →
      (∃ es authorization, es.map (authentication κ).event <+: h ∧
        self.Grants capability credentials es authorization) →
      LetThrough self cfg.world.provider capability credentials h := by
    rintro capability credentials h early ⟨es, authorization, first, grants⟩
    have seen : es ⊆ authenticatorHistory t.history := by
      obtain ⟨rest, whole⟩ := first.trans early
      rw [← whole, authenticatorHistory_append, authenticatorHistory_authentication]
      exact List.subset_append_left _ _
    obtain ⟨enabled, granted⟩ := granted_of_grants reachable running grants seen
    exact ⟨enabled, es, authorization, first, granted⟩
  have trace : Trace ((self.over deliveries journal).handle t.request) t.history t.rest :=
    reachable.trace running
  refine ⟨?_, ?_, ?_, ?_⟩
  · intro e mem
    obtain ⟨before, after, split⟩ := List.append_of_mem mem
    exact mayTouch_of_mayAsk deliveries.adds_only (mayAsk_of_split reachable running split)
  · intro capability credentials guarded before e after split other
    rw [split] at trace
    obtain ⟨es, authorization, first, grants⟩ := grants_of_split guarded trace other
    exact let_through ⟨e :: after, split.symm⟩ ⟨es, authorization, first, grants⟩
  · intro capability credentials guarded answer ended
    rw [ended] at trace
    obtain ⟨es, authorization, first, grants⟩ := grants_of_answer guarded trace
    exact let_through (List.prefix_refl _) ⟨es, authorization, first, grants⟩
  · intro headers chunks webhook nonempty
    obtain ⟨e, rest, split⟩ : ∃ e rest, t.history = [] ++ e :: rest :=
      List.exists_cons_of_ne_nil nonempty
    have may := mayAsk_of_split reachable running split
    rw [webhook] at may
    exact may.1

theorem requests_confined_sample :
    ∃ (cfg : MemoryRequests) (t : RequestThread Members), cfg.threads 1 = some t ∧
      Confined sampleApplication cfg.world.provider t := by
  obtain ⟨cfg, reachable, returned, -⟩ := exists_sampleRun
  obtain ⟨-, returned⟩ := List.cons.inj returned
  obtain ⟨t, answer, running, -⟩ := Requests.exists_of_returned (List.cons.inj returned).1
  exact ⟨cfg, t, running, requests_confined sampleApplication (memoryDeliveries 1 Nat.one_pos)
    (memoryJournalBackend 1 Nat.one_pos) reachable running⟩

end WebhookMonitor
