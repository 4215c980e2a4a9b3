import WebhookMonitor.Application.System

/-!
# What a request may take

The calls of every route are bounded by a budget, whatever the answers: no answer of GitHub,
of the identity provider or of a store makes a request go on for longer, or ask for more.

* `guardBudget` — the dependency of a management route.  It looks for a key twice at most,
  and each time asks for the two documents of the identity provider;
* `Application.budget` — each route;
* `requests_within_budget` — in every run.
-/

namespace WebhookMonitor

open Python Interaction ApplicationCall CallKind

variable {κ : Type}

/-! ## The authenticator -/

/-- A GET of the identity provider, and the caching of what it yields. -/
abbrev documentBudget : Multiset CallKind := {providerRequest, providerAnswer, documentCache}

/-- `_metadata_document`. -/
abbrev metadataBudget : Multiset CallKind := monotonic ::ₘ documentCache ::ₘ documentBudget

/-- `_signing_key_for`. -/
abbrev signingKeyBudget : Bool → Multiset CallKind
  | true => monotonic ::ₘ (metadataBudget + documentBudget)
  | false => monotonic ::ₘ documentCache ::ₘ (metadataBudget + documentBudget)

/-- The dependency of a management route. -/
def guardBudget : Multiset CallKind :=
  Multiset.replicate 4 monotonic + Multiset.replicate 7 documentCache +
    Multiset.replicate 4 providerRequest + Multiset.replicate 4 providerAnswer + {tokenDecoding}

namespace OidcJwtManagementAuthenticator

variable (self : OidcJwtManagementAuthenticator κ)

theorem fetchMetadata_within (now : Monotonic) :
    CallsWithin AuthenticatorCall.kind documentBudget (self.fetchMetadata now) := by
  cases derived : metadataUrl self.config.issuer with
  | none =>
      rw [self.fetchMetadata_of_none derived]
      trivial
  | some url =>
      rw [self.fetchMetadata_eq derived]
      refine callsWithin_call (singleton_add_le _ _) fun number =>
        callsWithin_call (singleton_add_le _ _) fun answer => ?_
      cases self.metadataOfAnswer answer with
      | error e => trivial
      | ok metadata => exact ⟨0, le_rfl, fun _ => trivial⟩

theorem metadataDocument_within :
    CallsWithin AuthenticatorCall.kind metadataBudget self.metadataDocument := by
  rw [metadataDocument_eq]
  refine callsWithin_call (singleton_add_le _ _) fun now =>
    callsWithin_call (singleton_add_le _ _) fun cached => ?_
  cases cached.fresh now with
  | some metadata => trivial
  | none => exact self.fetchMetadata_within now

theorem requestJwks_within (now : Monotonic) (metadata : OidcMetadata) :
    CallsWithin AuthenticatorCall.kind documentBudget (self.requestJwks now metadata) := by
  refine callsWithin_call (singleton_add_le _ _) fun number =>
    callsWithin_call (singleton_add_le _ _) fun answer => ?_
  cases self.jwksOfAnswer answer with
  | error e => trivial
  | ok jwks => exact ⟨0, le_rfl, fun _ => trivial⟩

theorem jwksDocument_within (refresh : Bool) :
    CallsWithin AuthenticatorCall.kind (signingKeyBudget refresh) (self.jwksDocument refresh) := by
  have fetches : ∀ now, CallsWithin AuthenticatorCall.kind (metadataBudget + documentBudget)
      (self.fetchJwks now) := by
    intro now
    rw [fetchJwks_eq]
    exact costsAtMost_bind self.metadataDocument_within (self.requestJwks_within now)
  rw [jwksDocument_eq]
  cases refresh with
  | true => exact callsWithin_call (singleton_add_le _ _) fun now => fetches now
  | false =>
      refine callsWithin_call (singleton_add_le _ _) fun now =>
        callsWithin_call (singleton_add_le _ _) fun cached => ?_
      cases cached.fresh now with
      | some jwks => trivial
      | none => exact fetches now

/-- A token is checked with two lookups of a key at most, and is decoded once. -/
theorem authenticate_within (credentials : Option HTTPAuthorizationCredentials) :
    CallsWithin AuthenticatorCall.kind guardBudget (self.authenticate credentials) := by
  have verifies : ∀ token key, CallsWithin AuthenticatorCall.kind {tokenDecoding}
      (self.verify token key) := by
    intro token key
    cases key with
    | none => trivial
    | some key =>
        rw [verify_some]
        exact ⟨0, le_rfl, fun answer => costsAtMost_ofExcept _⟩
  have looks : ∀ kid alg refresh, CallsWithin AuthenticatorCall.kind (signingKeyBudget refresh)
      (self.signingKeyFor kid alg refresh) := fun kid alg refresh =>
    (self.jwksDocument_within refresh).bind_free fun jwks => costsAtMost_ofExcept _
  rw [authenticate]
  refine costsAtMost_ofExcept_bind _ fun token => ?_
  have costs : CallsWithin AuthenticatorCall.kind
      (signingKeyBudget false + (signingKeyBudget true + {tokenDecoding}))
      (self.authenticateToken token) := by
    rw [authenticateToken]
    refine costsAtMost_bind (looks token.kid token.alg false) fun key => ?_
    split
    · exact costsAtMost_bind (looks token.kid token.alg true) (verifies token)
    · exact (verifies token key).mono (by decide)
  exact costs.mono (by decide)

end OidcJwtManagementAuthenticator

theorem ManagementGate.requireManagementCapability_within (self : ManagementGate κ)
    (capability : ManagementCapability) (credentials : Option HTTPAuthorizationCredentials) :
    CallsWithin AuthenticatorCall.kind guardBudget
      (self.requireManagementCapability capability credentials) := by
  have access : CallsWithin AuthenticatorCall.kind guardBudget
      (self.requireConfiguredManagementAccess credentials) := by
    rw [requireConfiguredManagementAccess]
    split
    · trivial
    · split
      · exact costsAtMost_ofExcept _
      · split
        · trivial
        · next authenticator _ =>
            exact (authenticator.authenticate_within credentials).mapError managementAccessError
  exact access.bind_free fun principal => costsAtMost_ofExcept _

/-! ## The services -/

namespace GitHubReconciliationService

variable (service : GitHubReconciliationService)

/-- Every page is one GET. -/
theorem fetchPages_within (attempt : DeliveryAttempt) (owner repository : Str) (remaining : ℕ)
    (upstreamCursor : Option Str) (matching : List GitHubDeliverySummary) :
    CallsWithin Call.kind (Multiset.replicate remaining githubGet)
      (service.fetchPages attempt owner repository remaining upstreamCursor matching) := by
  induction remaining generalizing upstreamCursor matching with
  | zero =>
      rw [fetchPages]
      cases uncaught (encodeReconciliationCursor attempt.attemptId upstreamCursor) with
      | ok nextCursor => trivial
      | error e => trivial
  | succ remaining ih =>
      have page : CallsWithin Call.kind {githubGet}
          (listRepositoryWebhookDeliveries service.limit owner repository
            attempt.deliveryIdentity.hookId upstreamCursor) := by
        refine costsAtMost_ofExcept_bind _ fun path => ?_
        rw [invoke_bind]
        exact callsWithin_call (singleton_add_le _ _) fun answer => costsAtMost_ofExcept _
      rw [fetchPages, Multiset.replicate_succ, ← Multiset.singleton_add]
      refine costsAtMost_bind page fun page => ?_
      split
      · trivial
      · exact ih _ _

theorem reconcile_within (attempt : DeliveryAttempt) (cursor : Option Str) :
    CallsWithin Call.kind (Multiset.replicate service.maxPages githubGet)
      (service.reconcile attempt cursor) := by
  rw [reconcile]
  split
  · trivial
  · exact costsAtMost_ofExcept_bind _ fun target =>
      costsAtMost_ofExcept_bind _ fun upstreamCursor =>
      service.fetchPages_within attempt _ _ _ _ _

end GitHubReconciliationService

namespace GitHubRedeliveryService

variable (service : GitHubRedeliveryService) {finalizeBudget createBudget : Multiset CallKind}

/-- `_finalize_action` reads the clock and finalizes. -/
theorem finalizeAction_within
    (finalizes : ∀ request, CallsWithin Call.kind finalizeBudget
      (service.recoveryActionStore.finalize request))
    (actionId : UUID) (state : RecoveryActionState) (status : Option ℤ) (category : Option Str) :
    CallsWithin Call.kind (clock ::ₘ finalizeBudget)
      (service.finalizeAction actionId state status category) := by
  refine CostsAtMost.mapError ?_ asUnavailable
  rw [nowUtc_bind]
  exact callsWithin_call (singleton_add_le _ _) fun wall => (finalizes _).bind_free fun _ => trivial

/-- A failed submission is finalized once, and raised again. -/
theorem finalizeFailure_within
    (finalizes : ∀ request, CallsWithin Call.kind finalizeBudget
      (service.recoveryActionStore.finalize request)) (actionId : UUID) (e : AppError) :
    CallsWithin Call.kind (clock ::ₘ finalizeBudget) (service.finalizeFailure actionId e) ∧
      Raises (service.finalizeFailure actionId e) := by
  have once := service.finalizeAction_within finalizes actionId
  rw [finalizeFailure.eq_def]
  split
  · exact ⟨(once _ _ _).bind_free fun _ => trivial, raises_bind _ fun _ => trivial⟩
  · exact ⟨(once _ _ _).bind_free fun _ => trivial, raises_bind _ fun _ => trivial⟩
  · exact ⟨(once _ _ _).bind_free fun _ => trivial, raises_bind _ fun _ => trivial⟩
  · exact ⟨trivial, trivial⟩

/-- Journal, submit, finalize: once each. -/
theorem submitVerified_within
    (creates : ∀ request, CallsWithin Call.kind createBudget
      (service.recoveryActionStore.createInitiatedGithubRedelivery request))
    (finalizes : ∀ request, CallsWithin Call.kind finalizeBudget
      (service.recoveryActionStore.finalize request))
    (request : RedeliveryRequest) (owner repository : Str) :
    CallsWithin Call.kind
      ((clock ::ₘ createBudget) + ({githubPost} + (clock ::ₘ finalizeBudget)))
      (service.submitVerified request owner repository) := by
  rw [submitVerified]
  refine costsAtMost_bind (CostsAtMost.mapError ?_ asUnavailable) fun recoveryAction => ?_
  · rw [nowUtc_bind]
    exact callsWithin_call (singleton_add_le _ _) fun wall => creates _
  · have posts : CallsWithin Call.kind {githubPost}
        (requestRepositoryWebhookRedelivery owner repository
          request.attempt.deliveryIdentity.hookId request.githubDeliveryId) := by
      rw [requestRepositoryWebhookRedelivery]
      refine costsAtMost_ofExcept_bind _ fun path => ?_
      rw [invoke_bind]
      exact callsWithin_call (singleton_add_le _ _) fun answer => costsAtMost_ofExcept _
    refine costsAtMost_tryCatch_bind posts
      (fun e => (service.finalizeFailure_within finalizes recoveryAction.actionId e).2)
      (fun e => (service.finalizeFailure_within finalizes recoveryAction.actionId e).1) fun u => ?_
    exact (service.finalizeAction_within finalizes _ _ _ _).bind_free fun _ => trivial

theorem requestRedelivery_within
    (creates : ∀ request, CallsWithin Call.kind createBudget
      (service.recoveryActionStore.createInitiatedGithubRedelivery request))
    (finalizes : ∀ request, CallsWithin Call.kind finalizeBudget
      (service.recoveryActionStore.finalize request)) (request : RedeliveryRequest) :
    CallsWithin Call.kind
      (Multiset.replicate service.reconciliationService.maxPages githubGet +
        ((clock ::ₘ createBudget) + ({githubPost} + (clock ::ₘ finalizeBudget))))
      (service.requestRedelivery request) := by
  rw [requestRedelivery]
  split
  · trivial
  · split
    · trivial
    · refine costsAtMost_ofExcept_bind _ fun target => ?_
      refine costsAtMost_bind (service.reconciliationService.reconcile_within _ _) fun result => ?_
      split
      · exact service.submitVerified_within creates finalizes request _ _
      · trivial

end GitHubRedeliveryService

/-! ## The routes -/

namespace Application

/-- What each route may take, over two backends. -/
def budget (self : Application κ) (deliveries : DeliveryBackend) (journal : JournalBackend) :
    Request → Multiset CallKind
  | .githubWebhook .. => {identifier, clock} + deliveries.addBudget
  | .listDeliveryAttempts .. | .getDeliveryAttempt .. | .getEvents _ =>
      guardBudget + {deliveryQuery}
  | .reconcileGithubDeliveries .. =>
      guardBudget +
        ({deliveryQuery} + Multiset.replicate self.reconciliationService.maxPages githubGet)
  | .requestGithubRedelivery .. =>
      guardBudget + ({deliveryQuery} +
        (Multiset.replicate self.redeliveryService.reconciliationService.maxPages githubGet +
          ((clock ::ₘ journal.createBudget) + ({githubPost} + (clock ::ₘ journal.finalizeBudget)))))
  | .listRecoveryActions .. | .getRecoveryAction .. => guardBudget + {journalQuery}
  | .health => 0
  | .ready => {CallKind.readinessCheck}

variable (self : Application κ)

theorem authorize_within (capability : ManagementCapability)
    (credentials : Option RequestCredentials) :
    CallsWithin ApplicationCall.kind guardBudget (self.authorize capability credentials) :=
  costsAtMost_lift (authentication κ) (self.gate.requireManagementCapability_within capability _)

theorem ingest_within {addBudget : Multiset CallKind}
    (adds : ∀ attempt, CallsWithin StoreCall.kind addBudget (self.addAttempt attempt))
    (request : IngestRequest) :
    CallsWithin ApplicationCall.kind ({identifier, clock} + addBudget) (self.ingest request) := by
  have stamps : ∀ rest : UUID → Wall → Handler κ DeliveryAttempt,
      (∀ attemptId now, CallsWithin ApplicationCall.kind addBudget (rest attemptId now)) →
        CallsWithin ApplicationCall.kind ({identifier, clock} + addBudget)
          (ask (.service .uuid4) >>= fun attemptId =>
            ask (.service .now) >>= fun now => rest attemptId now) := by
    intro rest within
    have takes : ({identifier, clock} : Multiset CallKind) + addBudget =
        identifier ::ₘ clock ::ₘ addBudget := by
      simp
    rw [takes]
    exact callsWithin_call (singleton_add_le _ _) fun attemptId =>
      callsWithin_call (singleton_add_le _ _) fun now => within attemptId now
  rw [ingest]
  refine costsAtMost_ofExcept_bind _ fun verified => ?_
  refine stamps _ fun attemptId now => ?_
  refine costsAtMost_ofExcept_bind _ fun attempt => ?_
  exact (costsAtMost_lift (storage κ) (adds attempt)).bind_free fun _ => trivial

/-- A query is one call. -/
theorem query_within {α : Type} (c : ApplicationCall κ) (result : c.Answer → Except AppError α) :
    CallsWithin ApplicationCall.kind {c.kind} (query c result) :=
  callsWithin_call (singleton_add_le _ _) fun _ => costsAtMost_ofExcept _

theorem localAttempt_within (attemptId : UUID) :
    CallsWithin ApplicationCall.kind {deliveryQuery} (localAttempt attemptId : Handler κ _) := by
  refine ((query_within (.store (.getAttempt attemptId)) id).mapError storeAnswer).bind_free ?_
  intro found
  cases found with
  | none => trivial
  | some attempt => trivial

/-- A page is one query. -/
theorem listPage_within {α : Type} {budget : Multiset CallKind} (listing : KeysetListing α)
    {fetch : ℕ → Option (AwareDatetime × UUID) → Handler κ (List α)}
    (fetches : ∀ n after, CallsWithin ApplicationCall.kind budget (fetch n after)) (limit : ℕ)
    (cursor : Option Str) :
    CallsWithin ApplicationCall.kind budget (self.listPage listing fetch limit cursor) := by
  rw [listPage]
  refine costsAtMost_ofExcept_bind _ fun after => ?_
  refine (fetches _ _).bind_free fun found => ?_
  exact costsAtMost_ofExcept_bind _ fun nextCursor => trivial

/-- Parsing an identifier takes nothing. -/
theorem parseUuid_bind_within {α : Type} {budget : Multiset CallKind} (value : Str)
    (detail : String) {rest : UUID → Handler κ α}
    (within : ∀ id, CallsWithin ApplicationCall.kind budget (rest id)) :
    CallsWithin ApplicationCall.kind budget (parseUuid value detail >>= rest) := by
  rw [parseUuid]
  split
  · trivial
  · exact within _

/-- What a management route takes: its dependency, and the rest. -/
theorem guarded_within {α : Type} {budget : Multiset CallKind} (capability : ManagementCapability)
    (credentials : Option RequestCredentials) {rest : ManagementAuthorization → Handler κ α}
    (within : ∀ authorization, CallsWithin ApplicationCall.kind budget (rest authorization))
    (answer : α → Answer) :
    CallsWithin ApplicationCall.kind (guardBudget + budget)
      ((self.authorize capability credentials >>= rest) >>= fun response =>
        .ret (answer response)) :=
  (costsAtMost_bind (self.authorize_within capability credentials) within).bind_free
    fun _ => trivial

/-- Every route keeps to its budget. -/
theorem handle_within (deliveries : DeliveryBackend) (journal : JournalBackend)
    (request : Request) :
    CallsWithin ApplicationCall.kind (self.budget deliveries journal request)
      ((self.over deliveries journal).handle request) := by
  cases request with
  | githubWebhook headers chunks =>
      refine CostsAtMost.bind_free (costsAtMost_ofExcept_bind _ fun request => ?_) fun _ => trivial
      exact (((self.over deliveries journal).ingest_within deliveries.add_within request).mapError
        webhookAnswer).bind_free fun event => costsAtMost_ofExcept _
  | listDeliveryAttempts credentials limit cursor =>
      refine (self.over deliveries journal).guarded_within .diagnosticsRead credentials
        (fun authorization => ?_) .deliveryAttempts
      refine (CostsAtMost.mapError ?_ deliveryAttemptsAnswer).bind_free fun page =>
        costsAtMost_ofExcept _
      refine costsAtMost_ofExcept_bind _ fun parsedLimit => ?_
      refine listPage_within _ deliveryAttemptsListing (fun n after => ?_) _ _
      exact query_within _ _
  | getDeliveryAttempt credentials attemptId =>
      refine (self.over deliveries journal).guarded_within .diagnosticsRead credentials
        (fun authorization => ?_) .deliveryAttempt
      refine parseUuid_bind_within attemptId "Invalid attempt_id" fun parsedAttemptId => ?_
      exact (localAttempt_within parsedAttemptId).bind_free fun attempt => costsAtMost_ofExcept _
  | reconcileGithubDeliveries credentials attemptId cursor =>
      refine (self.over deliveries journal).guarded_within .diagnosticsRead credentials
        (fun authorization => ?_) .githubDeliveries
      split
      · trivial
      · refine parseUuid_bind_within attemptId "Invalid attempt_id" fun parsedAttemptId => ?_
        refine costsAtMost_bind (localAttempt_within parsedAttemptId) fun attempt => ?_
        refine (CostsAtMost.mapError ?_ reconciliationAnswer).bind_free fun result =>
          costsAtMost_ofExcept _
        exact costsAtMost_lift (services κ) (self.reconciliationService.reconcile_within _ _)
  | requestGithubRedelivery credentials attemptId githubDeliveryId =>
      refine (self.over deliveries journal).guarded_within .recoveryExecute credentials
        (fun authorization => ?_) .githubRedelivery
      split
      · trivial
      · refine parseUuid_bind_within attemptId "Invalid attempt_id" fun parsedAttemptId => ?_
        refine costsAtMost_ofExcept_bind _ fun parsedDeliveryId => ?_
        refine costsAtMost_bind (localAttempt_within parsedAttemptId) fun attempt => ?_
        refine (CostsAtMost.mapError ?_ redeliveryAnswer).bind_free fun result =>
          costsAtMost_ofExcept _
        exact costsAtMost_lift (services κ)
          ((self.redeliveryService.over journal.toSharedJournal).requestRedelivery_within
            journal.create_within journal.finalize_within _)
  | listRecoveryActions credentials limit cursor =>
      refine (self.over deliveries journal).guarded_within .recoveryRead credentials
        (fun authorization => ?_) .recoveryActions
      refine (CostsAtMost.mapError ?_ recoveryActionsAnswer).bind_free fun page =>
        costsAtMost_ofExcept _
      refine costsAtMost_ofExcept_bind _ fun parsedLimit => ?_
      refine listPage_within _ recoveryActionsListing (fun n after => ?_) _ _
      exact query_within _ _
  | getRecoveryAction credentials actionId =>
      refine (self.over deliveries journal).guarded_within .recoveryRead credentials
        (fun authorization => ?_) .recoveryAction
      refine parseUuid_bind_within actionId "Invalid action_id" fun parsedActionId => ?_
      refine ((query_within _ _).mapError journalAnswer).bind_free fun found => ?_
      cases found with
      | none => trivial
      | some action => exact costsAtMost_ofExcept _
  | getEvents credentials =>
      refine (self.over deliveries journal).guarded_within .diagnosticsRead credentials
        (fun authorization => ?_) .events
      exact ((query_within _ _).mapError storeAnswer).bind_free fun recentEvents =>
        costsAtMost_ofExcept _
  | health => trivial
  | ready => exact (query_within _ _).bind_free fun _ => trivial

end Application

/-- **Requests are bounded.** In every run of requests of all routes, in any number and order,
over any two backends and from empty stores: no request makes more calls of a kind than the
budget of its route has. A redelivery asks GitHub for `max_pages` pages at most and submits
once; a token is checked with four requests to the identity provider at most. -/
theorem requests_within_budget (self : Application κ) (deliveries : DeliveryBackend)
    (journal : JournalBackend) {now : Monotonic} {cfg : Requests κ deliveries journal}
    (reachable : (applicationSystem self deliveries journal).Reachable (fun _ _ => True)
      (SharedWorld.start deliveries journal now) cfg)
    {i : ℕ} {t : RequestThread κ} (running : cfg.threads i = some t) :
    (t.history.map fun e => e.call.kind : List CallKind) ≤
      self.budget deliveries journal t.request := by
  have within := (self.handle_within deliveries journal t.request).spent_le
    (reachable.trace running)
  rwa [spent_kind] at within

theorem requests_within_budget_sample :
    ∃ (cfg : MemoryRequests) (t : RequestThread Members), cfg.threads 1 = some t ∧
      (submissions (serviceHistory t.history)).length = 1 ∧
      (t.history.map fun e => e.call.kind : List CallKind) ≤
        sampleApplication.budget (memoryDeliveries 1 Nat.one_pos)
          (memoryJournalBackend 1 Nat.one_pos) t.request := by
  obtain ⟨cfg, reachable, returned, counts, -⟩ := exists_sampleRun
  obtain ⟨-, returned⟩ := List.cons.inj returned
  obtain ⟨t, answer, running, -⟩ := Requests.exists_of_returned (List.cons.inj returned).1
  have sent := (Prod.mk.inj counts).1
  rw [running] at sent
  exact ⟨cfg, t, running, sent, requests_within_budget sampleApplication
    (memoryDeliveries 1 Nat.one_pos) (memoryJournalBackend 1 Nat.one_pos) reachable running⟩

end WebhookMonitor
