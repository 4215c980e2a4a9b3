import WebhookMonitor.Api.Routes

/-!
# What the webhook route does

Each check of the route and of the ingestion by what it lets pass and what it
raises.  `receiveWebhook_cases` puts them together; it is the one lemma about
`receiveWebhook` that the theorems about webhooks use.

* `Admissible` — what the route asks before it calls `ingest`;
* `IsRequestOf` — the arguments of the call;
* `Authentic` — the signature is the one of the body;
* `IsAttemptOf` — what the attempt says of the arguments and the payload;
* `Rejects` — why `ingest` builds no attempt.
-/

namespace WebhookMonitor

open Python

/-! ## The header checks -/

/-- A header with more than white space in it. -/
def NonBlank (value : Option HeaderValue) : Prop := ∃ v, value = some v ∧ strip v.val ≠ []

/-- A header that reads as a positive integer. -/
def PositiveInteger (value : Option HeaderValue) : Prop :=
  ∃ v n, value = some v ∧ strip v.val ≠ [] ∧ readInt v.val = some n ∧ 0 < n

/-- What the route asks of a request before it calls `ingest`. -/
structure Admissible (maxBodyBytes : ℕ) (headers : WebhookHeaders) (body : Bytes) : Prop where
  json : isJsonContentType headers.contentType = true
  event : NonBlank headers.xGithubEvent
  delivery : NonBlank headers.xGithubDelivery
  hookId : PositiveInteger headers.xGithubHookId
  target : (headers.xGithubHookInstallationTargetId = none ∧
      headers.xGithubHookInstallationTargetType = none) ∨
    (PositiveInteger headers.xGithubHookInstallationTargetId ∧
      NonBlank headers.xGithubHookInstallationTargetType)
  contentLength : ∀ v, headers.contentLength = some v →
    ∃ n, readInt v.val = some n ∧ 0 ≤ n ∧ n ≤ maxBodyBytes
  size : body.length ≤ maxBodyBytes

/-- The arguments `ingest` is called with. -/
structure IsRequestOf (headers : WebhookHeaders) (body : Bytes) (request : IngestRequest) :
    Prop where
  rawBody : request.rawBody = body
  signature : request.signature = headers.xHubSignature256.map (·.val)
  event : headers.xGithubEvent.map (·.val) = some request.githubEvent
  delivery : headers.xGithubDelivery.map (·.val) = some request.githubDelivery
  hookId : headers.xGithubHookId.map (·.val) = some request.githubHookId
  targetId : headers.xGithubHookInstallationTargetId.map (·.val) = request.installationTargetId
  targetType :
    headers.xGithubHookInstallationTargetType.map (·.val) = request.installationTargetType

/-- An answer of the HTTP framework. -/
def IsHttpException (e : AppError) : Prop := ∃ status detail, e = .httpException status detail

section Checks

variable {value : Option HeaderValue} {v : HeaderValue} {detail : String} {e : AppError}

theorem requireNonEmptyHeader_eq_ok :
    requireNonEmptyHeader value detail = .ok v ↔ value = some v ∧ strip v.val ≠ [] := by
  cases value with
  | none => exact ⟨fun h => (by cases h), fun h => (by cases h.1)⟩
  | some w =>
      rw [requireNonEmptyHeader]
      split_ifs with hblank
      · constructor
        · intro h
          cases h
        · rintro ⟨h, hv⟩
          cases h
          exact absurd hblank hv
      · constructor
        · intro h
          cases h
          exact ⟨rfl, hblank⟩
        · rintro ⟨h, -⟩
          cases h
          rfl

theorem requireNonEmptyHeader_raises (h : requireNonEmptyHeader value detail = .error e) :
    IsHttpException e := by
  unfold requireNonEmptyHeader at h
  split at h
  · cases h
    exact ⟨_, _, rfl⟩
  · split_ifs at h
    cases h
    exact ⟨_, _, rfl⟩

theorem requirePositiveIntegerHeader_eq_ok :
    requirePositiveIntegerHeader value detail = .ok v ↔
      value = some v ∧ strip v.val ≠ [] ∧ ∃ n, readInt v.val = some n ∧ 0 < n := by
  rw [requirePositiveIntegerHeader, bind_eq_ok]
  constructor
  · rintro ⟨w, hw, h⟩
    obtain ⟨rfl, hblank⟩ := requireNonEmptyHeader_eq_ok.mp hw
    cases hread : readInt w.val with
    | none => simp [hread] at h
    | some n =>
        simp only [hread] at h
        split_ifs at h with hpos
        cases h
        exact ⟨rfl, hblank, n, hread, Int.not_le.mp hpos⟩
  · rintro ⟨hvalue, hblank, n, hread, hpos⟩
    refine ⟨v, requireNonEmptyHeader_eq_ok.mpr ⟨hvalue, hblank⟩, ?_⟩
    simp only [hread]
    rw [if_neg (Int.not_le.mpr hpos)]

theorem requirePositiveIntegerHeader_raises
    (h : requirePositiveIntegerHeader value detail = .error e) : IsHttpException e := by
  rw [requirePositiveIntegerHeader, bind_eq_error] at h
  rcases h with h | ⟨w, -, h⟩
  · exact requireNonEmptyHeader_raises h
  · split at h
    · cases h
      exact ⟨_, _, rfl⟩
    · split_ifs at h
      cases h
      exact ⟨_, _, rfl⟩

theorem validateContentLength_eq_ok {maxBodyBytes : ℕ} :
    validateContentLength value maxBodyBytes = .ok () ↔
      ∀ v, value = some v → ∃ n, readInt v.val = some n ∧ 0 ≤ n ∧ n ≤ maxBodyBytes := by
  cases value with
  | none => exact ⟨fun _ _ h => (by cases h), fun _ => rfl⟩
  | some w =>
      simp only [validateContentLength, Option.some.injEq, forall_eq']
      cases hread : readInt w.val with
      | none => simp
      | some n =>
          dsimp only
          split_ifs with hneg hlarge
          · simp only [Option.some.injEq, false_iff]
            rintro ⟨m, rfl, h, -⟩
            omega
          · simp only [Option.some.injEq, false_iff]
            rintro ⟨m, rfl, -, h⟩
            omega
          · simp only [true_iff]
            exact ⟨n, rfl, by omega, by omega⟩

theorem validateContentLength_raises {maxBodyBytes : ℕ}
    (h : validateContentLength value maxBodyBytes = .error e) : IsHttpException e := by
  unfold validateContentLength at h
  split at h
  · cases h
  · split at h
    · cases h
      exact ⟨_, _, rfl⟩
    · split_ifs at h
      · cases h
        exact ⟨_, _, rfl⟩
      · cases h
        exact ⟨_, _, rfl⟩

theorem validateInstallationTarget_eq_ok {targetId targetType : Option HeaderValue}
    {target : Option HeaderValue × Option HeaderValue} :
    validateInstallationTarget targetId targetType = .ok target ↔
      ((targetId = none ∧ targetType = none) ∨ (PositiveInteger targetId ∧ NonBlank targetType)) ∧
        target = (targetId, targetType) := by
  rw [validateInstallationTarget]
  split_ifs with hnone hone
  · obtain ⟨rfl, rfl⟩ := hnone
    simp [eq_comm]
  · constructor
    · intro h
      cases h
    · rintro ⟨hboth | ⟨⟨v, n, rfl, -⟩, ⟨w, rfl, -⟩⟩, -⟩
      · exact absurd hboth hnone
      · simp at hone
  · simp only [bind_eq_ok, requirePositiveIntegerHeader_eq_ok, requireNonEmptyHeader_eq_ok]
    constructor
    · rintro ⟨v, ⟨rfl, hv, n, hn⟩, w, ⟨rfl, hw⟩, h⟩
      cases h
      exact ⟨.inr ⟨⟨v, n, rfl, hv, hn⟩, w, rfl, hw⟩, rfl⟩
    · rintro ⟨hboth | ⟨⟨v, n, rfl, hv, hn⟩, w, rfl, hw⟩, rfl⟩
      · exact absurd hboth hnone
      · exact ⟨v, ⟨rfl, hv, n, hn⟩, w, ⟨rfl, hw⟩, rfl⟩

theorem validateInstallationTarget_raises {targetId targetType : Option HeaderValue}
    (h : validateInstallationTarget targetId targetType = .error e) : IsHttpException e := by
  rw [validateInstallationTarget] at h
  split_ifs at h
  · cases h
    exact ⟨_, _, rfl⟩
  · rcases bind_eq_error.mp h with h | ⟨v, -, h⟩
    · exact requirePositiveIntegerHeader_raises h
    · rcases bind_eq_error.mp h with h | ⟨w, -, h⟩
      · exact requireNonEmptyHeader_raises h
      · cases h

theorem readBoundedBody_eq_ok {maxBodyBytes : ℕ} {chunks : List Bytes} {body : Bytes} :
    readBoundedBody maxBodyBytes chunks = .ok body ↔
      body = chunks.flatten ∧ chunks.flatten.length ≤ maxBodyBytes := by
  rw [readBoundedBody_eq]
  split_ifs with hsize
  · constructor
    · intro h
      cases h
      exact ⟨rfl, hsize⟩
    · rintro ⟨rfl, -⟩
      rfl
  · constructor
    · intro h
      cases h
    · rintro ⟨-, h⟩
      exact absurd h hsize

theorem readBoundedBody_raises {maxBodyBytes : ℕ} {chunks : List Bytes}
    (h : readBoundedBody maxBodyBytes chunks = .error e) : IsHttpException e := by
  rw [readBoundedBody_eq] at h
  split_ifs at h
  cases h
  exact ⟨_, _, rfl⟩

end Checks

section Admission

variable {maxBodyBytes : ℕ} {headers : WebhookHeaders} {chunks : List Bytes}
  {request : IngestRequest} {e : AppError}

/-- The route calls `ingest` exactly with the arguments of an admissible request. -/
theorem admission_eq_ok :
    admission maxBodyBytes headers chunks = .ok request ↔
      Admissible maxBodyBytes headers chunks.flatten ∧
        IsRequestOf headers chunks.flatten request := by
  rw [admission]
  cases hjson : isJsonContentType headers.contentType with
  | false =>
      constructor
      · intro h
        cases h
      · rintro ⟨admissible, -⟩
        rw [admissible.json] at hjson
        cases hjson
  | true =>
      simp only [Bool.not_true, Bool.false_eq_true, if_false, bind_eq_ok]
      constructor
      · rintro ⟨event, hevent, delivery, hdelivery, hookId, hhookId, target, htarget, _, hlength,
          body, hbody, h⟩
        cases h
        obtain ⟨hevent, event_ne⟩ := requireNonEmptyHeader_eq_ok.mp hevent
        obtain ⟨hdelivery, delivery_ne⟩ := requireNonEmptyHeader_eq_ok.mp hdelivery
        obtain ⟨hhookId, hookId_ne, n, hn⟩ := requirePositiveIntegerHeader_eq_ok.mp hhookId
        obtain ⟨targetOk, rfl⟩ := validateInstallationTarget_eq_ok.mp htarget
        obtain ⟨rfl, size⟩ := readBoundedBody_eq_ok.mp hbody
        exact ⟨⟨hjson, ⟨event, hevent, event_ne⟩, ⟨delivery, hdelivery, delivery_ne⟩,
            ⟨hookId, n, hhookId, hookId_ne, hn⟩, targetOk, validateContentLength_eq_ok.mp hlength,
            size⟩,
          ⟨rfl, rfl, by rw [hevent]; rfl, by rw [hdelivery]; rfl, by rw [hhookId]; rfl, rfl, rfl⟩⟩
      · rintro ⟨⟨-, ⟨event, hevent, event_ne⟩, ⟨delivery, hdelivery, delivery_ne⟩,
          ⟨hookId, n, hhookId, hookId_ne, hn⟩, target, length, size⟩, request_of⟩
        refine ⟨event, requireNonEmptyHeader_eq_ok.mpr ⟨hevent, event_ne⟩, delivery,
          requireNonEmptyHeader_eq_ok.mpr ⟨hdelivery, delivery_ne⟩, hookId,
          requirePositiveIntegerHeader_eq_ok.mpr ⟨hhookId, hookId_ne, n, hn⟩, _,
          validateInstallationTarget_eq_ok.mpr ⟨target, rfl⟩, (),
          validateContentLength_eq_ok.mpr length, _, readBoundedBody_eq_ok.mpr ⟨rfl, size⟩, ?_⟩
        obtain ⟨rawBody, signature, event_eq, delivery_eq, hookId_eq, targetId, targetType⟩ :=
          request_of
        rw [hevent, Option.map_some, Option.some.injEq] at event_eq
        rw [hdelivery, Option.map_some, Option.some.injEq] at delivery_eq
        rw [hhookId, Option.map_some, Option.some.injEq] at hookId_eq
        cases request
        cases rawBody
        cases signature
        cases event_eq
        cases delivery_eq
        cases hookId_eq
        cases targetId
        cases targetType
        rfl

/-- Whatever else the route raises before it calls `ingest` is an HTTP answer. -/
theorem admission_raises (h : admission maxBodyBytes headers chunks = .error e) :
    IsHttpException e := by
  rw [admission] at h
  cases hjson : isJsonContentType headers.contentType with
  | false =>
      rw [hjson] at h
      cases h
      exact ⟨_, _, rfl⟩
  | true =>
      simp only [hjson, Bool.not_true, Bool.false_eq_true, if_false] at h
      rcases bind_eq_error.mp h with h | ⟨_, -, h⟩
      · exact requireNonEmptyHeader_raises h
      rcases bind_eq_error.mp h with h | ⟨_, -, h⟩
      · exact requireNonEmptyHeader_raises h
      rcases bind_eq_error.mp h with h | ⟨_, -, h⟩
      · exact requirePositiveIntegerHeader_raises h
      rcases bind_eq_error.mp h with h | ⟨_, -, h⟩
      · exact validateInstallationTarget_raises h
      rcases bind_eq_error.mp h with h | ⟨_, -, h⟩
      · exact validateContentLength_raises h
      rcases bind_eq_error.mp h with h | ⟨_, -, h⟩
      · exact readBoundedBody_raises h
      cases h

end Admission

/-! ## The ingestion -/

/-- The arguments the route calls `ingest` with. -/
structure IngestRequest.WellFormed (request : IngestRequest) : Prop where
  delivery : strip request.githubDelivery ≠ []
  hookId : ∃ n, readInt request.githubHookId = some n ∧ 0 < n

/-- The attempt is the one of these arguments, with the payload's members. -/
structure IsAttemptOf (request : IngestRequest) (payload : Members) (attemptId : UUID) (now : Wall)
    (attempt : DeliveryAttempt) : Prop where
  attemptId : attempt.attemptId = attemptId
  receivedAt : attempt.receivedAt = AwareDatetime.utc now
  guid : attempt.deliveryIdentity.deliveryGuid = request.githubDelivery
  hookId : readInt request.githubHookId = some attempt.deliveryIdentity.hookId
  digest : attempt.payloadSha256 = hexdigest (sha256 request.rawBody)
  event : attempt.eventType = request.githubEvent
  targetId : attempt.installationTargetId = request.installationTargetId
  targetType : attempt.installationTargetType = request.installationTargetType
  action : attempt.action = Members.get payload "action"
  repository : attempt.repository = memberOf (Members.get payload "repository") "full_name"
  sender : attempt.sender = memberOf (Members.get payload "sender") "login"

theorem isSha256Hex_hexdigest {digest : Bytes} (length : digest.length = 32) :
    isSha256Hex (hexdigest digest) = true := by
  have lowercase : ∀ d < 16, (isDigit (hexDigit d) ||
      (decide (0x61 ≤ (hexDigit d).val) && decide ((hexDigit d).val ≤ 0x66))) = true := by decide
  rw [isSha256Hex, length_hexdigest, length, Bool.and_eq_true, List.all_eq_true]
  refine ⟨rfl, fun c hc => ?_⟩
  obtain ⟨d, hd, rfl⟩ := mem_hexdigest hc
  exact lowercase d hd

/-- The attempt of well-formed arguments is built, whatever the payload. -/
theorem exists_attemptOf {request : IngestRequest} (wellFormed : request.WellFormed)
    (payload : Members) (attemptId : UUID) (now : Wall) :
    ∃ attempt, attemptOf request payload attemptId now = .ok attempt ∧
      IsAttemptOf request payload attemptId now attempt := by
  obtain ⟨n, hn, pos⟩ := wellFormed.hookId
  let attempt : DeliveryAttempt :=
    { attemptId := attemptId
      deliveryIdentity := ⟨request.githubDelivery, n, wellFormed.delivery, pos⟩
      receivedAt := AwareDatetime.utc now
      payloadSha256 := hexdigest (sha256 request.rawBody)
      eventType := request.githubEvent
      action := Members.get payload "action"
      repository := memberOf (Members.get payload "repository") "full_name"
      sender := memberOf (Members.get payload "sender") "login"
      installationTargetId := request.installationTargetId
      installationTargetType := request.installationTargetType
      digest_wellFormed := isSha256Hex_hexdigest (length_sha256 request.rawBody) }
  refine ⟨attempt, ?_, ⟨rfl, rfl, rfl, hn, rfl, rfl, rfl, rfl, rfl, rfl, rfl⟩⟩
  have identity : GitHubDeliveryIdentity.new request.githubDelivery n =
      .ok attempt.deliveryIdentity := by
    rw [GitHubDeliveryIdentity.new, dif_neg wellFormed.delivery, dif_neg (Int.not_le.mpr pos)]
  have built : DeliveryAttempt.new attemptId attempt.deliveryIdentity ⟨now, some Offset.utc⟩
      attempt.payloadSha256 attempt.eventType attempt.action attempt.repository attempt.sender
      attempt.installationTargetId attempt.installationTargetType = .ok attempt := by
    rw [DeliveryAttempt.new]
    exact dif_pos attempt.digest_wellFormed
  rw [attemptOf, hn, orRaise_some, uncaught_ok, bind_eq_ok]
  refine ⟨n, rfl, bind_eq_ok.mpr ⟨attempt.deliveryIdentity, identity, built⟩⟩

/-- An admissible request has arguments to call `ingest` with. -/
theorem Admissible.exists_request {maxBodyBytes : ℕ} {headers : WebhookHeaders} {body : Bytes}
    (admissible : Admissible maxBodyBytes headers body) :
    ∃ request, IsRequestOf headers body request := by
  obtain ⟨event, hevent, -⟩ := admissible.event
  obtain ⟨delivery, hdelivery, -⟩ := admissible.delivery
  obtain ⟨hookId, n, hhookId, -⟩ := admissible.hookId
  refine ⟨⟨body, headers.xHubSignature256.map (·.val), event.val, delivery.val, hookId.val,
    headers.xGithubHookInstallationTargetId.map (·.val),
    headers.xGithubHookInstallationTargetType.map (·.val)⟩, ⟨rfl, rfl, ?_, ?_, ?_, rfl, rfl⟩⟩
  · rw [hevent, Option.map_some]
  · rw [hdelivery, Option.map_some]
  · rw [hhookId, Option.map_some]

/-- The arguments of an admissible request are well-formed. -/
theorem IsRequestOf.wellFormed {maxBodyBytes : ℕ} {headers : WebhookHeaders} {body : Bytes}
    {request : IngestRequest} (isRequest : IsRequestOf headers body request)
    (admissible : Admissible maxBodyBytes headers body) : request.WellFormed := by
  obtain ⟨delivery, hdelivery, delivery_ne⟩ := admissible.delivery
  obtain ⟨hookId, n, hhookId, -, hn⟩ := admissible.hookId
  have delivery_eq := isRequest.delivery
  have hookId_eq := isRequest.hookId
  rw [hdelivery, Option.map_some, Option.some.injEq] at delivery_eq
  rw [hhookId, Option.map_some, Option.some.injEq] at hookId_eq
  exact ⟨delivery_eq ▸ delivery_ne, n, hookId_eq ▸ hn⟩

namespace WebhookIngestionService

variable (service : WebhookIngestionService)

/-- The secret in UTF-8. -/
def key : Bytes := service.webhookSecret.flatMap utf8Char

theorem encodeUtf8_webhookSecret : encodeUtf8 service.webhookSecret = some service.key := by
  rw [encodeUtf8, if_pos service.secret_scalar]
  rfl

/-- The signature is the one of the body. -/
def Authentic (body : Bytes) (signature : Option Str) : Prop :=
  signature = some (expectedSignature service.key body)

variable {service} {request : IngestRequest} {attemptId : UUID} {now : Wall}

/-- Why no attempt is built: the signature cannot be compared, it is another one, or
the payload cannot be read. -/
inductive Rejects (service : WebhookIngestionService) (request : IngestRequest) :
    AppError → Prop where
  | incomparable {signature : Str} (present : request.signature = some signature)
      (foreign : isAscii signature = false) : Rejects service request (.python .typeError)
  | unauthentic (comparable : ∀ signature, request.signature = some signature →
        isAscii signature = true)
      (other : ¬ service.Authentic request.rawBody request.signature) :
      Rejects service request .invalidWebhookSignature
  | unreadable {e : AppError} (authentic : service.Authentic request.rawBody request.signature)
      (unread : parsePayload service.limit request.rawBody = .error e) :
      Rejects service request e

/-- What `ingest` does before it touches the store: the attempt is built exactly for
an authentic body with a payload, and otherwise rejected. -/
theorem newAttempt_cases (wellFormed : request.WellFormed) (attemptId : UUID) (now : Wall) :
    (∃ payload attempt, service.Authentic request.rawBody request.signature ∧
        parsePayload service.limit request.rawBody = .ok payload ∧
        IsAttemptOf request payload attemptId now attempt ∧
        service.newAttempt request attemptId now = .ok attempt) ∨
      ∃ e, Rejects service request e ∧ service.newAttempt request attemptId now = .error e := by
  rw [newAttempt, verifyGithubSignature_eq service.secret_nonempty
    service.encodeUtf8_webhookSecret]
  by_cases comparable : ∀ signature, request.signature = some signature → isAscii signature = true
  · have compared : request.signature.any (fun s => !isAscii s) = false := by
      cases present : request.signature with
      | none => rfl
      | some signature => simp [comparable signature present]
    rw [compared, if_neg Bool.false_ne_true, uncaught_ok]
    by_cases authentic : service.Authentic request.rawBody request.signature
    · have verified : decide (request.signature =
          some (expectedSignature service.key request.rawBody)) = true := decide_eq_true authentic
      rw [verified]
      change _ ∨ ∃ e, _ ∧ (parsePayload _ _ >>= _) = _
      cases unread : parsePayload service.limit request.rawBody with
      | ok payload =>
          obtain ⟨attempt, built, isAttempt⟩ := exists_attemptOf wellFormed payload attemptId now
          exact .inl ⟨payload, attempt, authentic, rfl, isAttempt, built⟩
      | error e => exact .inr ⟨e, .unreadable authentic unread, rfl⟩
    · have refuted : decide (request.signature =
          some (expectedSignature service.key request.rawBody)) = false :=
        decide_eq_false authentic
      rw [refuted]
      exact .inr ⟨_, .unauthentic comparable authentic, rfl⟩
  · obtain ⟨signature, hsignature⟩ := not_forall.mp comparable
    obtain ⟨present, foreign⟩ := Classical.not_imp.mp hsignature
    rw [Bool.not_eq_true] at foreign
    have compared : request.signature.any (fun s => !isAscii s) = true := by
      rw [present, Option.any_some, foreign, Bool.not_false]
    rw [compared, if_pos rfl]
    exact .inr ⟨_, .incomparable present foreign, rfl⟩

end WebhookIngestionService

/-! ## The route -/

/-- A request is not admitted, is rejected, or has its attempt added. -/
theorem receiveWebhook_cases {σ : Type} (store : DeliveryStore σ)
    (service : WebhookIngestionService) (maxBodyBytes : ℕ) (headers : WebhookHeaders)
    (chunks : List Bytes) (attemptId : UUID) (now : Wall) (s : σ) :
    (¬ Admissible maxBodyBytes headers chunks.flatten ∧ ∃ e, IsHttpException e ∧
      receiveWebhook store service maxBodyBytes headers chunks attemptId now s = (.error e, s)) ∨
    ∃ request, Admissible maxBodyBytes headers chunks.flatten ∧
      IsRequestOf headers chunks.flatten request ∧
      ((∃ e, service.Rejects request e ∧
          receiveWebhook store service maxBodyBytes headers chunks attemptId now s =
            (.error e, s)) ∨
        ∃ payload attempt, service.Authentic request.rawBody request.signature ∧
          parsePayload service.limit request.rawBody = .ok payload ∧
          IsAttemptOf request payload attemptId now attempt ∧
          receiveWebhook store service maxBodyBytes headers chunks attemptId now s =
            ((store.add attempt s).1.map fun _ => attempt, (store.add attempt s).2)) := by
  rw [receiveWebhook]
  cases admitted : admission maxBodyBytes headers chunks with
  | error e =>
      refine .inl ⟨fun admissible => ?_, e, admission_raises admitted, rfl⟩
      obtain ⟨request, isRequest⟩ := admissible.exists_request
      rw [admission_eq_ok.mpr ⟨admissible, isRequest⟩] at admitted
      cases admitted
  | ok request =>
      obtain ⟨admissible, isRequest⟩ := admission_eq_ok.mp admitted
      refine .inr ⟨request, admissible, isRequest, ?_⟩
      dsimp only [WebhookIngestionService.ingest]
      rcases @WebhookIngestionService.newAttempt_cases service _
        (isRequest.wellFormed admissible) attemptId now with
        ⟨payload, attempt, authentic, read, isAttempt, built⟩ | ⟨e, rejects, raised⟩
      · refine .inr ⟨payload, attempt, authentic, read, isAttempt, ?_⟩
        rw [built]
        dsimp only
        cases added : store.add attempt s with
        | mk r s' =>
            cases r with
            | ok _ => rfl
            | error e => rfl
      · exact .inl ⟨e, rejects, by rw [raised]⟩

end WebhookMonitor
