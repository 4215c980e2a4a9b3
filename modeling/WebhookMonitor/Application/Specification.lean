import WebhookMonitor.Application.Routes
import WebhookMonitor.Redelivery.Outcomes
import WebhookMonitor.Security.SharedCaches
import WebhookMonitor.Webhooks.Specification

/-!
# What a request may do

Every route goes through the same stages: its dependency, the lookup of a local attempt
if it is about one, its service, the answer.  `MayAsk` says at which point of its history
a request may make each call, and `MayAnswer` what its history shows when it ends;
`handle_meets` is that every request keeps to both, whatever the world answers.

* `Grants`, `After` — the dependency has yielded an authorization, and what came after it;
* `FromWebhook` — the attempt is the one of a signed webhook;
* `Found` — the local attempt a request is about, and what its service has done since;
* `handle_meets` — the one lemma about the routes that the theorems about the application
  use.
-/

namespace WebhookMonitor

open Python Interaction ApplicationCall

variable {κ : Type}

/-- The dependency makes no call but those its authenticator may make. -/
theorem ManagementGate.requireManagementCapability_allowed (self : ManagementGate κ)
    (capability : ManagementCapability) (credentials : Option HTTPAuthorizationCredentials) :
    Meets (fun es c => ∃ authenticator, self.oidcManagementAuthenticator = some authenticator ∧
      authenticator.Allowed es c) (fun _ _ => True)
      (self.requireManagementCapability capability credentials) [] := by
  have access : Meets (fun es c => ∃ authenticator,
      self.oidcManagementAuthenticator = some authenticator ∧ authenticator.Allowed es c)
      (fun _ _ => True) (self.requireConfiguredManagementAccess credentials) [] := by
    rw [requireConfiguredManagementAccess]
    split
    · trivial
    · split
      · exact meets_ofExcept.mpr trivial
      · cases there : self.oidcManagementAuthenticator with
        | none => trivial
        | some authenticator =>
            refine meets_tryCatch.mpr (meets_mono (fun es c allowed => ⟨_, rfl, allowed⟩) ?_
              (authenticator.authenticate_allowed credentials))
            intro es r _
            cases r <;> trivial
  refine meets_bind.mpr (meets_mono (fun _ _ => id) ?_ access)
  intro es r _
  cases r with
  | ok principal => exact meets_ofExcept.mpr trivial
  | error e => trivial

namespace Application

/-! ## The stages -/

section Stages

variable (self : Application κ)

/-- A run of the dependency that has yielded `authorization`. -/
def Grants (capability : ManagementCapability) (credentials : Option RequestCredentials)
    (es : List (Event (AuthenticatorEffects κ))) (authorization : ManagementAuthorization) : Prop :=
  Trace (self.gate.requireManagementCapability capability (credentials.map (·.val))) es
    (.ret authorization)

/-- The history starts with the dependency, which has yielded `authorization`, and goes on
with `rest`. -/
def After (capability : ManagementCapability) (credentials : Option RequestCredentials)
    (authorization : ManagementAuthorization) (rest h : ApplicationHistory κ) : Prop :=
  ∃ es, self.Grants capability credentials es authorization ∧
    h = es.map (authentication κ).event ++ rest

/-- The dependency is under way, and its authenticator does what it may. -/
def MayAuthenticate (h : ApplicationHistory κ) (c : ApplicationCall κ) : Prop :=
  (∃ es authenticator, h = es.map (authentication κ).event ∧
    self.gate.oidcManagementAuthenticator = some authenticator ∧
    ∀ c', c = .authenticator c' → authenticator.Allowed es c') ∧ ∃ c', c = .authenticator c'

/-- The lookup of a local attempt. -/
def MayLookUp (capability : ManagementCapability) (credentials : Option RequestCredentials)
    (attemptId : Str) (h : ApplicationHistory κ) (c : ApplicationCall κ) : Prop :=
  ∃ authorization id, self.After capability credentials authorization [] h ∧
    UUID.parse attemptId = some id ∧ c = .store (.getAttempt id)

/-- The local attempt a request is about, and what its service has done since. -/
def Found (capability : ManagementCapability) (credentials : Option RequestCredentials)
    (attemptId : Str) (authorization : ManagementAuthorization) (attempt : DeliveryAttempt)
    (es : History) (h : ApplicationHistory κ) : Prop :=
  ∃ id, UUID.parse attemptId = some id ∧
    self.After capability credentials authorization
      (⟨.store (.getAttempt id), .ok (some attempt)⟩ :: es.map (services κ).event) h

/-- The webhook is admissible and signed, and has this payload. -/
def Accepts (headers : WebhookHeaders) (chunks : List Bytes) (request : IngestRequest)
    (payload : Members) : Prop :=
  Admissible self.maxWebhookBodyBytes headers chunks.flatten ∧
    IsRequestOf headers chunks.flatten request ∧
    self.webhookService.Authentic request.rawBody request.signature ∧
    parsePayload self.webhookService.limit request.rawBody = .ok payload

/-- The attempt is the one of a signed webhook. -/
def FromWebhook (headers : WebhookHeaders) (chunks : List Bytes) (attemptId : UUID) (now : Wall)
    (attempt : DeliveryAttempt) : Prop :=
  ∃ request payload, self.Accepts headers chunks request payload ∧
    IsAttemptOf request payload attemptId now attempt

/-- The identifier and the time of an attempt have been drawn, and `es` has been done to
add it. -/
def Stamped (attemptId : UUID) (now : Wall) (es : List (Event StoreEffects))
    (h : ApplicationHistory κ) : Prop :=
  h = [⟨.service .uuid4, attemptId⟩, ⟨.service .now, now⟩] ++ es.map (storage κ).event

/-- What a webhook does, once it is accepted. -/
def MayIngest (MayAdd : DeliveryAttempt → List (Event StoreEffects) → StoreCall → Prop)
    (headers : WebhookHeaders) (chunks : List Bytes) (h : ApplicationHistory κ)
    (c : ApplicationCall κ) : Prop :=
  (∃ request payload, self.Accepts headers chunks request payload) ∧
    ((h = [] ∧ c = .service .uuid4) ∨
      (∃ attemptId : UUID, h = [⟨.service .uuid4, attemptId⟩] ∧ c = .service .now) ∨
      ∃ attemptId now attempt es c', Stamped attemptId now es h ∧
        self.FromWebhook headers chunks attemptId now attempt ∧ c = .store c' ∧
        MayAdd attempt es c')

/-- What a reconciliation does, once its attempt is found. -/
def MayReconcile (credentials : Option RequestCredentials) (attemptId : Str) (cursor : Option Str)
    (h : ApplicationHistory κ) (c : ApplicationCall κ) : Prop :=
  ∃ authorization attempt es c' owner repository start,
    self.Found .diagnosticsRead credentials attemptId authorization attempt es h ∧
    c = .service c' ∧ repositoryCoordinates attempt = .ok (owner, repository) ∧
    self.reconciliationService.resumeAt attempt cursor = .ok start ∧
    MayList self.reconciliationService attempt owner repository start es c'

/-- What a redelivery does, once its attempt is found. -/
def MayRedeliver (credentials : Option RequestCredentials) (attemptId githubDeliveryId : Str)
    (h : ApplicationHistory κ) (c : ApplicationCall κ) : Prop :=
  ∃ request es c',
    self.Found .recoveryExecute credentials attemptId request.authorization request.attempt es h ∧
    parseGithubDeliveryId githubDeliveryId = .ok request.githubDeliveryId ∧ c = .service c' ∧
    MayCall self.redeliveryService request es c'

/-- The calls a request may make, and when. -/
def MayAsk (MayAdd : DeliveryAttempt → List (Event StoreEffects) → StoreCall → Prop) :
    Request → ApplicationHistory κ → ApplicationCall κ → Prop
  | .githubWebhook headers chunks, h, c => self.MayIngest MayAdd headers chunks h c
  | .listDeliveryAttempts credentials _ _, h, c => self.MayAuthenticate h c ∨
      ∃ authorization n after, self.After .diagnosticsRead credentials authorization [] h ∧
        c = .store (.listAttemptsPage n after)
  | .getDeliveryAttempt credentials attemptId, h, c => self.MayAuthenticate h c ∨
      self.MayLookUp .diagnosticsRead credentials attemptId h c
  | .reconcileGithubDeliveries credentials attemptId cursor, h, c => self.MayAuthenticate h c ∨
      self.MayLookUp .diagnosticsRead credentials attemptId h c ∨
      self.MayReconcile credentials attemptId cursor h c
  | .requestGithubRedelivery credentials attemptId githubDeliveryId, h, c =>
      self.MayAuthenticate h c ∨
      self.MayLookUp .recoveryExecute credentials attemptId h c ∨
      self.MayRedeliver credentials attemptId githubDeliveryId h c
  | .listRecoveryActions credentials _ _, h, c => self.MayAuthenticate h c ∨
      ∃ authorization n after, self.After .recoveryRead credentials authorization [] h ∧
        c = .journal (.listRecent n after)
  | .getRecoveryAction credentials actionId, h, c => self.MayAuthenticate h c ∨
      ∃ authorization id, self.After .recoveryRead credentials authorization [] h ∧
        UUID.parse actionId = some id ∧ c = .journal (.get id)
  | .getEvents credentials, h, c => self.MayAuthenticate h c ∨
      ∃ authorization, self.After .diagnosticsRead credentials authorization [] h ∧
        c = .store .listRecent
  | .health, _, _ => False
  | .ready, h, c => h = [] ∧ c = .readinessCheck

/-! ## Endings -/

/-- The answer of the redelivery route, from the outcome of the service. -/
def answeredAs (r : Except AppError GitHubRedeliveryResult) : Except AppError Answer := do
  let result ← r.mapError redeliveryAnswer
  let response ← render GitHubRedeliveryResponse.texts (redeliveryResponse result)
  return .githubRedelivery response

/-- How a redelivery ends: before its service was asked, or as the service did. -/
inductive RedeliveryEnds (credentials : Option RequestCredentials)
    (attemptId githubDeliveryId : Str) (h : ApplicationHistory κ) : Except AppError Answer → Prop
  where
  | refused {e : AppError} (nothing : serviceHistory h = []) :
      RedeliveryEnds credentials attemptId githubDeliveryId h (.error e)
  | requested {request : RedeliveryRequest} {es : History}
      {r : Except AppError GitHubRedeliveryResult}
      (found : self.Found .recoveryExecute credentials attemptId request.authorization
        request.attempt es h)
      (parsed : parseGithubDeliveryId githubDeliveryId = .ok request.githubDeliveryId)
      (ended : Ended self.redeliveryService request es r) (tells : RedeliveryOutcome es r) :
      RedeliveryEnds credentials attemptId githubDeliveryId h (answeredAs r)

/-- What an answer reports has been shown to its request; the routes of the two others say
themselves how they end. -/
def IsShown (h : ApplicationHistory κ) : Answer → Prop
  | .deliveryAttempts response => ∀ item ∈ response.items, ∃ attempt ∈ shownAttempts h,
      deliveryAttemptToResponse attempt = .ok item
  | .deliveryAttempt response => ∃ attempt ∈ shownAttempts h,
      deliveryAttemptToResponse attempt = .ok response
  | .githubDeliveries response => ∃ attempt ∈ shownAttempts h,
      response.attemptId = attempt.attemptId ∧
      response.deliveryGuid = attempt.deliveryIdentity.deliveryGuid ∧
      response.hookId = attempt.deliveryIdentity.hookId
  | .recoveryActions response => ∀ action ∈ response.items, action ∈ shownActions h
  | .recoveryAction response => response ∈ shownActions h
  | .events recentEvents => ∀ attempt ∈ recentEvents, attempt ∈ shownAttempts h
  | .health | .ready => True
  | .webhookReceived _ | .githubRedelivery _ => False

/-- How a webhook ends: with its attempt added, if it is accepted. -/
def WebhookEnds (headers : WebhookHeaders) (chunks : List Bytes) (h : ApplicationHistory κ)
    (r : Except AppError Answer) : Prop :=
  ∀ answer, r = .ok answer → ∃ attemptId now attempt es, answer = .webhookReceived attempt ∧
    Stamped attemptId now es h ∧ self.FromWebhook headers chunks attemptId now attempt ∧
    Trace (self.addAttempt attempt) es (.ret ())

/-- How a request ends. -/
def MayAnswer : Request → ApplicationHistory κ → Except AppError Answer → Prop
  | .githubWebhook headers chunks, h, r => self.WebhookEnds headers chunks h r
  | .requestGithubRedelivery credentials attemptId githubDeliveryId, h, r =>
      self.RedeliveryEnds credentials attemptId githubDeliveryId h r
  | _, h, r => ∀ answer, r = .ok answer → IsShown h answer

end Stages

/-! ## The parts of a route -/

section Parts

variable {self : Application κ} {α : Type}
  {allowed : ApplicationHistory κ → ApplicationCall κ → Prop}
  {post : ApplicationHistory κ → Except AppError α → Prop} {h : ApplicationHistory κ}

/-- The rule of `except` clauses that turn errors into answers. -/
theorem meets_answering {answer : AppError → AppError} {p : Handler κ α} :
    Meets allowed post (answering answer p) h ↔
      Meets allowed (fun h r => post h (r.mapError answer)) p h := by
  rw [answering, meets_tryCatch]
  constructor
  · refine meets_mono (fun _ _ => id) fun h r => ?_
    cases r <;> exact id
  · refine meets_mono (fun _ _ => id) fun h r => ?_
    cases r <;> exact id

/-- The rule of a query. -/
theorem meets_query {c : ApplicationCall κ} {result : c.Answer → Except AppError α} :
    Meets allowed post (query c result) h ↔
      allowed h c ∧ ∀ a, post (h ++ [⟨c, a⟩]) (result a) := by
  rw [query, ask_bind, meets_call]
  refine and_congr_right fun _ => forall_congr' fun a => ?_
  exact meets_ofExcept

/-- The rule of `Depends(require_management_capability(…))`: what comes after it has its
authorization. -/
theorem meets_authorize {capability : ManagementCapability}
    {credentials : Option RequestCredentials} {f : ManagementAuthorization → Handler κ α}
    (may : ∀ h c, self.MayAuthenticate h c → allowed h c)
    (raises : ∀ (es : List (Event (AuthenticatorEffects κ))) e,
      post (es.map (authentication κ).event) (.error e))
    (rest : ∀ es authorization, self.Grants capability credentials es authorization →
      Meets allowed post (f authorization) (es.map (authentication κ).event)) :
    Meets allowed post (self.authorize capability credentials >>= f) [] := by
  rw [meets_bind, authorize, Embedding.meets_lift]
  refine meets_of_trace ?_ ?_ ?_
  · intro es c k asks
    obtain ⟨authenticator, there, allowed⟩ :=
      ((self.gate.requireManagementCapability_allowed capability _).of_trace asks).1
    refine may _ _ ⟨⟨es, authenticator, rfl, there, ?_⟩, c, rfl⟩
    rintro c' ⟨⟩
    exact allowed
  · intro es authorization granted
    exact rest es authorization granted
  · intro es e _
    exact raises es e

/-- The rule of `UUID(…)` with its answer. -/
theorem meets_parseUuid {value : Str} {detail : String} {f : UUID → Handler κ α}
    (raises : post h (.error (.httpException 422 detail)))
    (rest : ∀ id, UUID.parse value = some id → Meets allowed post (f id) h) :
    Meets allowed post (parseUuid value detail >>= f) h := by
  rw [parseUuid]
  cases parsed : UUID.parse value with
  | none => exact raises
  | some id => exact rest id parsed

/-- The rule of the lookup of a local attempt. -/
theorem meets_localAttempt {attemptId : UUID} {f : DeliveryAttempt → Handler κ α}
    (may : allowed h (.store (.getAttempt attemptId)))
    (raises : ∀ a e, post (h ++ [⟨.store (.getAttempt attemptId), a⟩]) (.error e))
    (rest : ∀ attempt, Meets allowed post (f attempt)
      (h ++ [⟨.store (.getAttempt attemptId), .ok (some attempt)⟩])) :
    Meets allowed post (localAttempt attemptId >>= f) h := by
  rw [localAttempt, getAttempt, Program.bind_bind, meets_bind, meets_answering, meets_query]
  refine ⟨may, fun found => ?_⟩
  match found with
  | .error e => exact raises _ _
  | .ok none => exact raises _ _
  | .ok (some attempt) => exact rest attempt

/-- The rule of a listing over a query of its store. -/
theorem meets_listPage {β : Type} {listing : KeysetListing β}
    {c : ℕ → Option (AwareDatetime × UUID) → ApplicationCall κ}
    {result : ∀ n after, (c n after).Answer → Except AppError (List β)} {limit : ℕ}
    {cursor : Option Str} {post : ApplicationHistory κ → Except AppError (KeysetPage β) → Prop}
    (may : ∀ n after, allowed h (c n after)) (early : ∀ e, post h (.error e))
    (raises : ∀ n after a e, post (h ++ [⟨c n after, a⟩]) (.error e))
    (page : ∀ n after a found nextCursor, result n after a = .ok found →
      post (h ++ [⟨c n after, a⟩]) (.ok ⟨found.take limit, nextCursor⟩)) :
    Meets allowed post (self.listPage listing (fun n after => query (c n after) (result n after))
      limit cursor) h := by
  rw [listPage]
  cases listing.decodeOptional self.recursionLimit cursor with
  | error e => exact early e
  | ok after =>
      change Meets allowed post (query _ _ >>= _) h
      rw [meets_bind, meets_query]
      refine ⟨may _ _, fun a => ?_⟩
      cases answered : result (limit + 1) after a with
      | error e => exact raises _ _ a e
      | ok found =>
          change Meets allowed post (Program.ofExcept (listing.nextCursor limit found) >>= _) _
          cases listing.nextCursor limit found with
          | error e => exact raises _ _ a e
          | ok nextCursor => exact page _ _ a found nextCursor answered

end Parts

/-! ## The webhook -/

section Webhook

variable {self : Application κ}
  {MayAdd : DeliveryAttempt → List (Event StoreEffects) → StoreCall → Prop}

/-- A signature that verifies is the one of the body. -/
theorem authentic_of_verified {body : Bytes} {signature : Option Str}
    (verified : uncaught (verifyGithubSignature body signature
      self.webhookService.webhookSecret) = .ok true) :
    self.webhookService.Authentic body signature := by
  have compared := uncaught_eq_ok.mp verified
  rw [verifyGithubSignature_eq self.webhookService.secret_nonempty
    self.webhookService.encodeUtf8_webhookSecret] at compared
  split_ifs at compared
  have same : signature = some (expectedSignature self.webhookService.key body) :=
    of_decide_eq_true (Except.ok.inj compared)
  exact same

/-- What `ingest` checks before it draws the identifier, and what it builds with it. -/
theorem verifyWebhook_ok {request : IngestRequest} {payload : Members}
    {deliveryIdentity : GitHubDeliveryIdentity}
    (verified : self.verifyWebhook request = .ok (payload, deliveryIdentity)) :
    self.webhookService.Authentic request.rawBody request.signature ∧
      parsePayload self.webhookService.limit request.rawBody = .ok payload ∧
      ∀ attemptId now, attemptOf request payload attemptId now =
        DeliveryAttempt.new attemptId deliveryIdentity ⟨now, some Offset.utc⟩
          (hexdigest (sha256 request.rawBody)) request.githubEvent
          (Members.get payload "action")
          (memberOf (Members.get payload "repository") "full_name")
          (memberOf (Members.get payload "sender") "login")
          request.installationTargetId request.installationTargetType := by
  rw [verifyWebhook] at verified
  obtain ⟨signed, hsigned, verified⟩ := bind_eq_ok.mp verified
  cases signed with
  | false => cases verified
  | true =>
      obtain ⟨payload', read, verified⟩ := bind_eq_ok.mp verified
      obtain ⟨hookId, hhookId, verified⟩ := bind_eq_ok.mp verified
      obtain ⟨identity, hidentity, verified⟩ := bind_eq_ok.mp verified
      cases verified
      refine ⟨authentic_of_verified hsigned, read, fun attemptId now => ?_⟩
      rw [attemptOf, hhookId, ok_bind, hidentity, ok_bind]

variable (self) in
/-- What is left of a webhook once its attempt is built. -/
def recording (attempt : DeliveryAttempt) (add : Program StoreEffects AppError Unit) :
    Handler κ Answer :=
  (answering webhookAnswer ((storage κ).lift add >>= fun _ => .ret attempt) >>= fun event =>
    Program.ofExcept (self.acknowledgement event)) >>= fun event => .ret (.webhookReceived event)

variable (self) in
/-- How a webhook ends, by the outcome of its `add`. -/
def recorded (attempt : DeliveryAttempt) (added : Except AppError Unit) : Except AppError Answer :=
  (added.mapError webhookAnswer >>= fun _ => self.acknowledgement attempt).map .webhookReceived

theorem recording_ofExcept (attempt : DeliveryAttempt) (added : Except AppError Unit) :
    self.recording attempt (Program.ofExcept added) =
      Program.ofExcept (self.recorded attempt added) := by
  cases added with
  | error e => rfl
  | ok u =>
      change (Program.ofExcept (self.acknowledgement attempt) >>= fun event =>
        (.ret (.webhookReceived event) : Handler κ Answer)) =
          Program.ofExcept ((self.acknowledgement attempt).map .webhookReceived)
      cases self.acknowledgement attempt <;> rfl

/-- A webhook whose `add` has returned is acknowledged, unless that cannot be rendered. -/
theorem recorded_eq_ok {attempt : DeliveryAttempt} {added : Except AppError Unit} {answer : Answer}
    (ended : self.recorded attempt added = .ok answer) :
    added = .ok () ∧ answer = .webhookReceived attempt := by
  obtain ⟨event, acknowledged, rfl⟩ := map_eq_ok.mp ended
  obtain ⟨u, returned, acknowledged⟩ := bind_eq_ok.mp acknowledged
  obtain ⟨_, -, rfl⟩ := map_eq_ok.mp acknowledged
  cases added with
  | error e => cases returned
  | ok u => exact ⟨rfl, rfl⟩

theorem recorded_eq_error {attempt : DeliveryAttempt} {e : AppError}
    (ended : self.recorded attempt (.ok ()) = .error e) :
    ∃ e', self.renderJson (webhookReceivedBody attempt) = .error e' ∧ e = .python e' := by
  change ((uncaught (self.renderJson (webhookReceivedBody attempt))).map fun _ => attempt).map
    Answer.webhookReceived = .error e at ended
  cases rendered : self.renderJson (webhookReceivedBody attempt) with
  | ok u =>
      rw [rendered] at ended
      cases ended
  | error e' =>
      rw [rendered] at ended
      cases ended
      exact ⟨e', rfl, rfl⟩

variable (self) in
/-- A webhook is turned down without a call, or draws an identifier and a time and adds the
attempt it then builds. -/
theorem handle_githubWebhook (headers : WebhookHeaders) (chunks : List Bytes) :
    (∃ e, self.handle (.githubWebhook headers chunks) = .raise e) ∨
      ∃ attempt : UUID → Wall → DeliveryAttempt,
        (∀ attemptId now,
          self.FromWebhook headers chunks attemptId now (attempt attemptId now)) ∧
        self.handle (.githubWebhook headers chunks) = .call (.service .uuid4) fun attemptId =>
          .call (.service .now) fun now =>
            self.recording (attempt attemptId now) (self.addAttempt (attempt attemptId now)) := by
  change (∃ e, (self.githubWebhook headers chunks >>= fun event =>
    (.ret (.webhookReceived event) : Handler κ Answer)) = .raise e) ∨ _
  rw [handle, githubWebhook]
  cases admitted : admission self.maxWebhookBodyBytes headers chunks with
  | error e => exact .inl ⟨_, rfl⟩
  | ok request =>
      rw [Program.ofExcept_ok, Program.ret_bind, ingest]
      cases verified : self.verifyWebhook request with
      | error e => exact .inl ⟨_, rfl⟩
      | ok checked =>
          obtain ⟨payload, deliveryIdentity⟩ := checked
          obtain ⟨admissible, isRequest⟩ := admission_eq_ok.mp admitted
          obtain ⟨authentic, read, new⟩ := verifyWebhook_ok verified
          choose attempt built isAttempt using
            exists_attemptOf (isRequest.wellFormed admissible) payload
          refine .inr ⟨attempt, fun attemptId now => ⟨request, payload,
            ⟨admissible, isRequest, authentic, read⟩, isAttempt attemptId now⟩, ?_⟩
          rw [Program.ofExcept_ok, Program.ret_bind]
          refine congrArg (Program.call _) (funext fun attemptId =>
            congrArg (Program.call _) (funext fun now => ?_))
          -- the constructor accepts what it is given
          have accepted := (new attemptId now).symm.trans (built attemptId now)
          change ((answering webhookAnswer (Program.ofExcept
            (DeliveryAttempt.new _ _ _ _ _ _ _ _ _ _) >>= fun attempt =>
              (storage κ).lift (self.addAttempt attempt) >>= fun _ =>
                (.ret attempt : Handler κ DeliveryAttempt))) >>= _) >>= _ = _
          rw [accepted, Program.ofExcept_ok, Program.ret_bind]
          rfl

theorem githubWebhook_meets
    (adds : ∀ attempt, Meets (MayAdd attempt) (fun _ _ => True) (self.addAttempt attempt) [])
    (headers : WebhookHeaders) (chunks : List Bytes) :
    Meets (self.MayIngest MayAdd headers chunks) (self.WebhookEnds headers chunks)
      (self.handle (.githubWebhook headers chunks)) [] := by
  rcases handle_githubWebhook self headers chunks with ⟨e, same⟩ | ⟨attempt, from_, same⟩
  · rw [same]
    exact fun _ ended => by cases ended
  · rw [same]
    have accepted : ∃ request payload, self.Accepts headers chunks request payload := by
      obtain ⟨request, payload, accepts, -⟩ := from_ ⟨0, by decide⟩ 0
      exact ⟨request, payload, accepts⟩
    refine ⟨⟨accepted, .inl ⟨rfl, rfl⟩⟩,
      fun attemptId => ⟨⟨accepted, .inr (.inl ⟨attemptId, rfl, rfl⟩)⟩, fun now => ?_⟩⟩
    change Meets _ _ ((answering webhookAnswer _ >>= _) >>= _) _
    rw [meets_bind, meets_bind, meets_answering, meets_bind, Embedding.meets_lift]
    -- the calls of `add`, and its run when it returns
    have runs : Meets (fun _ _ => True)
        (fun es r => ∀ u, r = .ok u → Trace (self.addAttempt (attempt attemptId now)) es (.ret u))
        (self.addAttempt (attempt attemptId now)) [] :=
      meets_of_trace (fun _ => trivial) (fun trace u same => by cases same; simpa using trace)
        (fun _ u same => by cases same)
    refine meets_mono (fun es c may => ?_) (fun es r run => ?_)
      (meets_and (adds (attempt attemptId now)) runs)
    · exact ⟨accepted, .inr (.inr ⟨attemptId, now, _, es, c, rfl, from_ attemptId now, rfl, may.1⟩)⟩
    · cases r with
      | error e => exact fun _ ended => by cases ended
      | ok u =>
          show Meets _ _ (Program.ofExcept (self.acknowledgement _)) _
          rw [meets_ofExcept, acknowledgement]
          cases uncaught (self.renderJson (webhookReceivedBody (attempt attemptId now))) with
          | error e => exact fun _ ended => by cases ended
          | ok u =>
              rintro _ ⟨⟩
              exact ⟨attemptId, now, _, es, rfl, rfl, from_ attemptId now, run.2 () rfl⟩

end Webhook

/-! ## The management routes -/

section Management

variable {self : Application κ}
  {MayAdd : DeliveryAttempt → List (Event StoreEffects) → StoreCall → Prop}

/-- What is sent is what was built. -/
theorem eq_of_render {α : Type} {texts : α → List Str} {response sent : α}
    (rendered : render texts response = .ok sent) : sent = response := by
  rw [render] at rendered
  split_ifs at rendered
  exact (Except.ok.inj rendered).symm

/-- The rule of an answer built from what a route returns. -/
theorem meets_answer {α : Type} {allowed : ApplicationHistory κ → ApplicationCall κ → Prop}
    {post : ApplicationHistory κ → Except AppError Answer → Prop} {h : ApplicationHistory κ}
    {p : Handler κ α} {answer : α → Answer} :
    Meets allowed post (p >>= fun a => .ret (answer a)) h ↔
      Meets allowed (fun h r => post h (r.map answer)) p h := by
  rw [meets_bind]
  constructor
  · refine meets_mono (fun _ _ => id) fun h r => ?_
    cases r <;> exact id
  · refine meets_mono (fun _ _ => id) fun h r => ?_
    cases r <;> exact id

/-- What a query has returned is shown by the history that ends with it. -/
theorem mem_shownAttempts_snoc {h : ApplicationHistory κ} {c : StoreCall} {a : c.Answer}
    {attempt : DeliveryAttempt} (returned : attempt ∈ returnedAttempts ⟨c, a⟩) :
    attempt ∈ shownAttempts (h ++ [(⟨.store c, a⟩ : Event (ApplicationEffects κ))]) := by
  rw [shownAttempts_append]
  exact List.mem_append_right _ (List.mem_append_left _ returned)

theorem mem_shownActions_snoc {h : ApplicationHistory κ} {c : JournalQuery} {a : c.Answer}
    {action : RecoveryAction} (returned : action ∈ returnedActions ⟨c, a⟩) :
    action ∈ shownActions (h ++ [(⟨.journal c, a⟩ : Event (ApplicationEffects κ))]) := by
  rw [shownActions_append]
  exact List.mem_append_right _ (List.mem_append_left _ returned)

theorem listDeliveryAttempts_meets (credentials : Option RequestCredentials)
    (limit cursor : Option Str) :
    Meets (self.MayAsk MayAdd (.listDeliveryAttempts credentials limit cursor))
      (self.MayAnswer (.listDeliveryAttempts credentials limit cursor))
      (self.handle (.listDeliveryAttempts credentials limit cursor)) [] := by
  change Meets _ _ (self.listDeliveryAttempts credentials limit cursor >>= fun response =>
    (.ret (.deliveryAttempts response) : Handler κ Answer)) []
  rw [meets_answer, listDeliveryAttempts]
  refine meets_authorize (fun h c => .inl) (fun es e answer ended => by cases ended) ?_
  intro es authorization granted
  have after : self.After .diagnosticsRead credentials authorization []
      (es.map (authentication κ).event) := ⟨es, granted, (List.append_nil _).symm⟩
  rw [meets_bind, meets_answering]
  cases parseDeliveryAttemptsLimit limit with
  | error e => exact fun answer ended => by cases ended
  | ok parsedLimit =>
      rw [Program.ofExcept_ok, Program.ret_bind]
      refine meets_listPage (fun n keyset => .inr ⟨_, _, _, after, rfl⟩)
        (fun e answer ended => by cases ended) (fun n keyset a e answer ended => by cases ended) ?_
      intro n keyset a found nextCursor returned
      dsimp only [Except.mapError]
      rw [meets_ofExcept]
      intro answer ended
      obtain ⟨response, built, rfl⟩ := map_eq_ok.mp ended
      obtain ⟨items, mapped, rendered⟩ := bind_eq_ok.mp built
      obtain rfl := eq_of_render rendered
      intro item mem
      obtain ⟨attempt, listed, presented⟩ := mem_of_mapM_eq_ok mapped mem
      obtain rfl : a = .ok found := returned
      exact ⟨attempt, mem_shownAttempts_snoc (List.mem_of_mem_take listed), presented⟩

theorem getDeliveryAttempt_meets (credentials : Option RequestCredentials) (attemptId : Str) :
    Meets (self.MayAsk MayAdd (.getDeliveryAttempt credentials attemptId))
      (self.MayAnswer (.getDeliveryAttempt credentials attemptId))
      (self.handle (.getDeliveryAttempt credentials attemptId)) [] := by
  change Meets _ _ (self.getDeliveryAttempt credentials attemptId >>= fun response =>
    (.ret (.deliveryAttempt response) : Handler κ Answer)) []
  rw [meets_answer, getDeliveryAttempt]
  refine meets_authorize (fun h c => .inl) (fun es e answer ended => by cases ended) ?_
  intro es authorization granted
  refine meets_parseUuid (fun answer ended => by cases ended) fun id parsed => ?_
  refine meets_localAttempt (.inr ⟨_, _, ⟨es, granted, (List.append_nil _).symm⟩, parsed, rfl⟩)
    (fun a e answer ended => by cases ended) fun attempt => ?_
  rw [meets_ofExcept]
  intro answer ended
  obtain ⟨response, built, rfl⟩ := map_eq_ok.mp ended
  obtain ⟨presented, hpresented, rendered⟩ := bind_eq_ok.mp built
  obtain rfl := eq_of_render rendered
  exact ⟨attempt, mem_shownAttempts_snoc (List.mem_singleton_self _), hpresented⟩

theorem getEvents_meets (credentials : Option RequestCredentials) :
    Meets (self.MayAsk MayAdd (.getEvents credentials)) (self.MayAnswer (.getEvents credentials))
      (self.handle (.getEvents credentials)) [] := by
  change Meets _ _ (self.getEvents credentials >>= fun recentEvents =>
    (.ret (.events recentEvents) : Handler κ Answer)) []
  rw [meets_answer, getEvents]
  refine meets_authorize (fun h c => .inl) (fun es e answer ended => by cases ended) ?_
  intro es authorization granted
  rw [meets_bind, meets_answering, meets_query]
  refine ⟨.inr ⟨_, ⟨es, granted, (List.append_nil _).symm⟩, rfl⟩, fun a => ?_⟩
  cases a with
  | error e => exact fun answer ended => by cases ended
  | ok found =>
      show Meets _ _ (Program.ofExcept (Except.map _ (uncaught (self.renderJson _)))) _
      rw [meets_ofExcept]
      cases uncaught (self.renderJson (eventsBody found)) with
      | error e => exact fun answer ended => by cases ended
      | ok u =>
          rintro _ ⟨⟩ attempt mem
          exact mem_shownAttempts_snoc mem

theorem listRecoveryActions_meets (credentials : Option RequestCredentials)
    (limit cursor : Option Str) :
    Meets (self.MayAsk MayAdd (.listRecoveryActions credentials limit cursor))
      (self.MayAnswer (.listRecoveryActions credentials limit cursor))
      (self.handle (.listRecoveryActions credentials limit cursor)) [] := by
  change Meets _ _ (self.listRecoveryActions credentials limit cursor >>= fun response =>
    (.ret (.recoveryActions response) : Handler κ Answer)) []
  rw [meets_answer, listRecoveryActions]
  refine meets_authorize (fun h c => .inl) (fun es e answer ended => by cases ended) ?_
  intro es authorization granted
  have after : self.After .recoveryRead credentials authorization []
      (es.map (authentication κ).event) := ⟨es, granted, (List.append_nil _).symm⟩
  rw [meets_bind, meets_answering]
  cases parseRecoveryActionsLimit limit with
  | error e => exact fun answer ended => by cases ended
  | ok parsedLimit =>
      rw [Program.ofExcept_ok, Program.ret_bind]
      refine meets_listPage (fun n keyset => .inr ⟨_, _, _, after, rfl⟩)
        (fun e answer ended => by cases ended) (fun n keyset a e answer ended => by cases ended) ?_
      intro n keyset a found nextCursor returned
      dsimp only [Except.mapError]
      rw [meets_ofExcept]
      intro answer ended
      obtain ⟨response, rendered, rfl⟩ := map_eq_ok.mp ended
      obtain rfl := eq_of_render rendered
      intro action listed
      obtain rfl : a = .ok found := returned
      exact mem_shownActions_snoc (List.mem_of_mem_take listed)

theorem getRecoveryAction_meets (credentials : Option RequestCredentials) (actionId : Str) :
    Meets (self.MayAsk MayAdd (.getRecoveryAction credentials actionId))
      (self.MayAnswer (.getRecoveryAction credentials actionId))
      (self.handle (.getRecoveryAction credentials actionId)) [] := by
  change Meets _ _ (self.getRecoveryAction credentials actionId >>= fun response =>
    (.ret (.recoveryAction response) : Handler κ Answer)) []
  rw [meets_answer, getRecoveryAction]
  refine meets_authorize (fun h c => .inl) (fun es e answer ended => by cases ended) ?_
  intro es authorization granted
  refine meets_parseUuid (fun answer ended => by cases ended) fun id parsed => ?_
  rw [meets_bind, meets_answering, meets_query]
  refine ⟨.inr ⟨_, _, ⟨es, granted, (List.append_nil _).symm⟩, parsed, rfl⟩, fun a => ?_⟩
  match a with
  | .error e => exact fun answer ended => by cases ended
  | .ok none => exact fun answer ended => by cases ended
  | .ok (some action) =>
      change Meets _ _ (Program.ofExcept (render RecoveryAction.texts action)) _
      rw [meets_ofExcept]
      intro answer ended
      obtain ⟨response, rendered, rfl⟩ := map_eq_ok.mp ended
      obtain rfl := eq_of_render rendered
      exact mem_shownActions_snoc (List.mem_singleton_self _)

theorem reconcileGithubDeliveries_meets (credentials : Option RequestCredentials) (attemptId : Str)
    (cursor : Option Str) :
    Meets (self.MayAsk MayAdd (.reconcileGithubDeliveries credentials attemptId cursor))
      (self.MayAnswer (.reconcileGithubDeliveries credentials attemptId cursor))
      (self.handle (.reconcileGithubDeliveries credentials attemptId cursor)) [] := by
  change Meets _ _ (self.reconcileGithubDeliveries credentials attemptId cursor >>= fun response =>
    (.ret (.githubDeliveries response) : Handler κ Answer)) []
  rw [meets_answer, reconcileGithubDeliveries]
  refine meets_authorize (fun h c => .inl) (fun es e answer ended => by cases ended) ?_
  intro es authorization granted
  by_cases off : (!self.reconciliationService.enabled) = true
  · rw [if_pos off]
    exact fun answer ended => by cases ended
  rw [if_neg off]
  refine meets_parseUuid (fun answer ended => by cases ended) fun id parsed => ?_
  refine meets_localAttempt
    (.inr (.inl ⟨_, _, ⟨es, granted, (List.append_nil _).symm⟩, parsed, rfl⟩))
    (fun a e answer ended => by cases ended) fun attempt => ?_
  rw [meets_bind, meets_answering, Embedding.meets_lift]
  refine meets_mono (fun es' c may => ?_) (fun es' r searched => ?_)
    (reconcile_meets self.reconciliationService attempt cursor)
  · obtain ⟨owner, repository, start, coordinates, resumed, may⟩ := may
    refine .inr (.inr ⟨authorization, attempt, es', c, owner, repository, start,
      ⟨id, parsed, es, granted, ?_⟩, rfl, coordinates, resumed, may⟩)
    exact List.append_assoc _ _ _
  · cases r with
    | error e => exact fun answer ended => by cases ended
    | ok result =>
        obtain ⟨-, -, owner, repository, start, pages, -, -, -, concludes⟩ := searched
        dsimp only [Except.mapError]
        rw [meets_ofExcept]
        intro answer ended
        obtain ⟨response, built, rfl⟩ := map_eq_ok.mp ended
        obtain ⟨name, -, built⟩ := bind_eq_ok.mp built
        obtain rfl := Except.ok.inj built
        refine ⟨attempt, ?_, ?_⟩
        · rw [shownAttempts_append]
          exact List.mem_append_left _ (mem_shownAttempts_snoc (List.mem_singleton_self _))
        · rw [concludes.sameAttempt]
          exact ⟨rfl, rfl, rfl⟩

theorem requestGithubRedelivery_meets
    (raises : self.redeliveryService.recoveryActionStore.Raises)
    (credentials : Option RequestCredentials) (attemptId githubDeliveryId : Str) :
    Meets (self.MayAsk MayAdd (.requestGithubRedelivery credentials attemptId githubDeliveryId))
      (self.MayAnswer (.requestGithubRedelivery credentials attemptId githubDeliveryId))
      (self.handle (.requestGithubRedelivery credentials attemptId githubDeliveryId)) [] := by
  change Meets _ _ (self.requestGithubRedelivery credentials attemptId githubDeliveryId >>=
    fun response => (.ret (.githubRedelivery response) : Handler κ Answer)) []
  rw [meets_answer, requestGithubRedelivery]
  refine meets_authorize (fun h c => .inl) (fun es e => .refused (by simp)) ?_
  intro es authorization granted
  by_cases off : (!self.redeliveryService.enabled) = true
  · rw [if_pos off]
    exact .refused (by simp)
  rw [if_neg off]
  refine meets_parseUuid (.refused (by simp)) fun id parsed => ?_
  cases recordId : parseGithubDeliveryId githubDeliveryId with
  | error e => exact .refused (by simp)
  | ok record =>
      rw [Program.ofExcept_ok, Program.ret_bind]
      refine meets_localAttempt
        (.inr (.inl ⟨_, _, ⟨es, granted, (List.append_nil _).symm⟩, parsed, rfl⟩))
        (fun a e => .refused (by rw [serviceHistory_append, serviceHistory_authentication]; rfl))
        fun attempt => ?_
      have found : ∀ es' : History, self.Found .recoveryExecute credentials attemptId authorization
          attempt es' (es.map (authentication κ).event ++
            [⟨.store (.getAttempt id), .ok (some attempt)⟩] ++ es'.map (services κ).event) :=
        fun es' => ⟨id, parsed, es, granted, List.append_assoc _ _ _⟩
      rw [submitRedelivery, meets_bind, meets_answering, Embedding.meets_lift]
      refine meets_mono (fun es' c may => ?_) (fun es' r ended => ?_)
        (meets_and (requestRedelivery_meets self.redeliveryService
          { attempt, githubDeliveryId := record, authorization })
          (requestRedelivery_tells raises { attempt, githubDeliveryId := record, authorization }))
      · exact .inr (.inr ⟨_, es', c, found es', recordId, rfl, may.1⟩)
      · have ends : self.RedeliveryEnds credentials attemptId githubDeliveryId _
          (answeredAs r) := .requested (found es') recordId ended.1 ended.2
        cases r with
        | error e => exact ends
        | ok result =>
            dsimp only [Except.mapError]
            rw [meets_ofExcept]
            exact ends

end Management

/-! ## Every request -/

/-- A request makes only calls it may make, and ends as it may end. -/
theorem handle_meets (self : Application κ)
    {MayAdd : DeliveryAttempt → List (Event StoreEffects) → StoreCall → Prop}
    (adds : ∀ attempt, Meets (MayAdd attempt) (fun _ _ => True) (self.addAttempt attempt) [])
    (raises : self.redeliveryService.recoveryActionStore.Raises) (request : Request) :
    Meets (self.MayAsk MayAdd request) (self.MayAnswer request) (self.handle request) [] := by
  cases request with
  | githubWebhook headers chunks => exact githubWebhook_meets adds headers chunks
  | listDeliveryAttempts credentials limit cursor =>
      exact listDeliveryAttempts_meets credentials limit cursor
  | getDeliveryAttempt credentials attemptId => exact getDeliveryAttempt_meets credentials attemptId
  | reconcileGithubDeliveries credentials attemptId cursor =>
      exact reconcileGithubDeliveries_meets credentials attemptId cursor
  | requestGithubRedelivery credentials attemptId githubDeliveryId =>
      exact requestGithubRedelivery_meets raises credentials attemptId githubDeliveryId
  | listRecoveryActions credentials limit cursor =>
      exact listRecoveryActions_meets credentials limit cursor
  | getRecoveryAction credentials actionId => exact getRecoveryAction_meets credentials actionId
  | getEvents credentials => exact getEvents_meets credentials
  | health => exact fun answer ended => by cases ended; trivial
  | ready =>
      change Meets _ _ (ready >>= fun _ => (.ret .ready : Handler κ Answer)) []
      rw [meets_answer, ready, meets_query]
      refine ⟨⟨rfl, rfl⟩, fun a answer ended => ?_⟩
      obtain ⟨u, -, rfl⟩ := map_eq_ok.mp ended
      trivial

end Application

end WebhookMonitor
