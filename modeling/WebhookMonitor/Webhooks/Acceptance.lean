import WebhookMonitor.Webhooks.Specification

/-!
# Which webhooks are recorded

A webhook is recorded when its headers pass, its body is within the bound, the
signature is the one of the body, and the body is JSON; what is recorded is the
attempt of exactly those headers and bytes.

* `Recordable` — the condition on the headers and the bytes;
* `Records` — what the stored attempt says of them;
* `githubWebhook_records` — the store changes exactly for recordable webhooks, by
  that attempt, and the cutting of the body into chunks does not matter.
-/

namespace WebhookMonitor

open Python

/-- The body decodes as UTF-8, and the text as JSON. -/
def IsJson (limit : RecursionLimit) (body : Bytes) : Prop :=
  ∃ text value, decodeUtf8 .strict body = some text ∧ loads limit text = .ok value

/-- What makes a webhook one that is recorded. -/
structure Recordable (service : WebhookIngestionService) (maxBodyBytes : ℕ)
    (headers : WebhookHeaders) (body : Bytes) : Prop where
  admissible : Admissible maxBodyBytes headers body
  authentic : service.Authentic body (headers.xHubSignature256.map (·.val))
  json : IsJson service.limit body

/-- What the stored attempt says of the webhook. -/
structure Records (headers : WebhookHeaders) (body : Bytes) (attemptId : UUID) (now : Wall)
    (attempt : DeliveryAttempt) : Prop where
  attemptId : attempt.attemptId = attemptId
  receivedAt : attempt.receivedAt = AwareDatetime.utc now
  digest : attempt.payloadSha256 = hexdigest (sha256 body)
  guid : headers.xGithubDelivery.map (·.val) = some attempt.deliveryIdentity.deliveryGuid
  hookId : ∃ v, headers.xGithubHookId = some v ∧
    readInt v.val = some attempt.deliveryIdentity.hookId
  event : headers.xGithubEvent.map (·.val) = some attempt.eventType
  targetId :
    headers.xGithubHookInstallationTargetId.map (·.val) = attempt.installationTargetId
  targetType :
    headers.xGithubHookInstallationTargetType.map (·.val) = attempt.installationTargetType

section Facts

variable {service : WebhookIngestionService} {maxBodyBytes : ℕ} {headers : WebhookHeaders}
  {body : Bytes}

/-- The payload is read exactly from a body that is JSON. -/
theorem isJson_iff {limit : RecursionLimit} :
    IsJson limit body ↔ ∃ payload, parsePayload limit body = .ok payload := by
  constructor
  · rintro ⟨text, value, decoded, loaded⟩
    refine ⟨value.dict?.getD [], ?_⟩
    simp only [parsePayload, decoded, loaded]
  · rintro ⟨payload, read⟩
    unfold parsePayload at read
    split at read
    · cases read
    · next text decoded =>
        cases loaded : loads limit text with
        | ok value => exact ⟨text, value, decoded, loaded⟩
        | error e =>
            rw [loaded] at read
            cases e <;> cases read

/-- The attempt of the arguments is the attempt of the webhook. -/
theorem Records.of_isAttemptOf {request : IngestRequest} {payload : Members} {attemptId : UUID}
    {now : Wall} {attempt : DeliveryAttempt} (isRequest : IsRequestOf headers body request)
    (isAttempt : IsAttemptOf request payload attemptId now attempt) :
    Records headers body attemptId now attempt where
  attemptId := isAttempt.attemptId
  receivedAt := isAttempt.receivedAt
  digest := by rw [isAttempt.digest, isRequest.rawBody]
  guid := by rw [isRequest.delivery, isAttempt.guid]
  hookId := by
    obtain ⟨v, present, hv⟩ := Option.map_eq_some_iff.mp isRequest.hookId
    exact ⟨v, present, by rw [hv, isAttempt.hookId]⟩
  event := by rw [isRequest.event, isAttempt.event]
  targetId := by rw [isRequest.targetId, isAttempt.targetId]
  targetType := by rw [isRequest.targetType, isAttempt.targetType]

/-- A webhook that is rejected is not recordable. -/
theorem not_recordable_of_rejects {request : IngestRequest} {e : AppError}
    (isRequest : IsRequestOf headers body request) (rejects : service.Rejects request e) :
    ¬ Recordable service maxBodyBytes headers body := by
  intro recordable
  have authentic : service.Authentic request.rawBody request.signature := by
    rw [isRequest.rawBody, isRequest.signature]
    exact recordable.authentic
  cases rejects with
  | incomparable present foreign =>
      rw [WebhookIngestionService.Authentic, present, Option.some.injEq] at authentic
      rw [authentic, isAscii_expectedSignature] at foreign
      cases foreign
  | unauthentic comparable other => exact other authentic
  | unreadable authentic unread =>
      obtain ⟨payload, read⟩ := isJson_iff.mp recordable.json
      rw [isRequest.rawBody, read] at unread
      cases unread

end Facts

section Route

variable (service : WebhookIngestionService) (maxWebhookBodyBytes : ℕ) (headers : WebhookHeaders)
  (chunks : List Bytes) (attemptId : UUID) (now : Wall) (store : InMemoryDeliveryStore)

/-- The route over the in-memory store: the attempt is added for a recordable
webhook, and nothing happens for any other. -/
theorem githubWebhook_inMemory :
    (Recordable service maxWebhookBodyBytes headers chunks.flatten ∧
        ∃ attempt, Records headers chunks.flatten attemptId now attempt ∧
          githubWebhook inMemoryDeliveryStore service maxWebhookBodyBytes headers chunks attemptId
            now store = (.ok attempt, store.add attempt)) ∨
      ¬ Recordable service maxWebhookBodyBytes headers chunks.flatten ∧
        ∃ e, githubWebhook inMemoryDeliveryStore service maxWebhookBodyBytes headers chunks
          attemptId now store = (.error e, store) := by
  unfold githubWebhook
  rcases receiveWebhook_cases inMemoryDeliveryStore service maxWebhookBodyBytes headers chunks
    attemptId now store with
    ⟨inadmissible, e, -, received⟩ | ⟨request, admissible, isRequest, ⟨e, rejects, received⟩ |
      ⟨payload, attempt, authentic, read, isAttempt, received⟩⟩
  · refine .inr ⟨fun recordable => inadmissible recordable.admissible, webhookAnswer e, ?_⟩
    rw [received]
    rfl
  · refine .inr ⟨not_recordable_of_rejects isRequest rejects, webhookAnswer e, ?_⟩
    rw [received]
    rfl
  · rw [isRequest.rawBody, isRequest.signature] at authentic
    rw [isRequest.rawBody] at read
    refine .inl ⟨⟨admissible, authentic, isJson_iff.mpr ⟨payload, read⟩⟩, attempt,
      .of_isAttemptOf isRequest isAttempt, ?_⟩
    rw [received]
    rfl

/-- Adding an attempt under a new identifier changes the store. -/
theorem add_ne_self {attempt : DeliveryAttempt}
    (fresh : ∀ stored ∈ store.attempts, stored.attemptId ≠ attempt.attemptId) :
    store.add attempt ≠ store := by
  intro same
  have newest := store.head?_add attempt
  rw [same] at newest
  exact fresh attempt (List.mem_of_mem_head? newest) rfl

/-- **Only authenticated, bounded bodies are recorded, exactly once.**  A recordable
webhook adds its attempt and nothing else; any other is answered with an error and
leaves the store as it was.  So with an identifier that is new to the store, the
store changes exactly for recordable webhooks.  The outcome depends on the bytes of
the body, not on how they arrive. -/
theorem githubWebhook_records :
    (Recordable service maxWebhookBodyBytes headers chunks.flatten →
      ∃ attempt, Records headers chunks.flatten attemptId now attempt ∧
        githubWebhook inMemoryDeliveryStore service maxWebhookBodyBytes headers chunks attemptId
          now store = (.ok attempt, store.add attempt)) ∧
    (¬ Recordable service maxWebhookBodyBytes headers chunks.flatten →
      ∃ e, githubWebhook inMemoryDeliveryStore service maxWebhookBodyBytes headers chunks
        attemptId now store = (.error e, store)) ∧
    ((∀ stored ∈ store.attempts, stored.attemptId ≠ attemptId) →
      ((githubWebhook inMemoryDeliveryStore service maxWebhookBodyBytes headers chunks attemptId
        now store).2 ≠ store ↔ Recordable service maxWebhookBodyBytes headers chunks.flatten)) ∧
    ∀ chunks', chunks'.flatten = chunks.flatten →
      githubWebhook inMemoryDeliveryStore service maxWebhookBodyBytes headers chunks' attemptId
        now store =
      githubWebhook inMemoryDeliveryStore service maxWebhookBodyBytes headers chunks attemptId
        now store := by
  have outcome := githubWebhook_inMemory service maxWebhookBodyBytes headers chunks attemptId now
    store
  refine ⟨?_, ?_, ?_, ?_⟩
  · intro recordable
    rcases outcome with ⟨-, added⟩ | ⟨other, -⟩
    · exact added
    · exact absurd recordable other
  · intro other
    rcases outcome with ⟨recordable, -⟩ | ⟨-, refused⟩
    · exact absurd recordable other
    · exact refused
  · intro fresh
    rcases outcome with ⟨recordable, attempt, records, added⟩ | ⟨other, e, refused⟩
    · rw [added]
      refine iff_of_true (add_ne_self store fun stored mem => ?_) recordable
      rw [records.attemptId]
      exact fresh stored mem
    · rw [refused]
      exact iff_of_false (fun changed => changed rfl) other
  · intro chunks' same
    unfold githubWebhook receiveWebhook
    rw [admission_of_flatten_eq _ _ same]

end Route

/-! ## A webhook that is recorded -/

/-- A service with a secret of one letter. -/
def sampleWebhookService : WebhookIngestionService where
  webhookSecret := "s"
  limit := sampleLimit
  secret_nonempty := by decide
  secret_scalar := by decide

/-- The headers of a push with this body, signed. -/
def sampleHeaders (body : Bytes) : WebhookHeaders where
  contentType := some ⟨"application/json", by decide⟩
  contentLength := none
  xGithubEvent := some ⟨"push", by decide⟩
  xGithubDelivery := some ⟨"g", by decide⟩
  xGithubHookId := some ⟨"3", by decide⟩
  xGithubHookInstallationTargetId := none
  xGithubHookInstallationTargetType := none
  xHubSignature256 := some ⟨expectedSignature sampleWebhookService.key body,
    isLatin1_of_isAscii (isAscii_expectedSignature _ _)⟩

theorem admissible_sampleHeaders {maxBodyBytes : ℕ} {body : Bytes}
    (size : body.length ≤ maxBodyBytes) : Admissible maxBodyBytes (sampleHeaders body) body where
  json := by rfl
  event := ⟨_, rfl, by decide⟩
  delivery := ⟨_, rfl, by decide⟩
  hookId := ⟨_, 3, rfl, by decide, by decide, by decide⟩
  target := .inl ⟨rfl, rfl⟩
  contentLength := fun v h => by cases h
  size := size

/-- Any JSON body within the bound, with its signature, is recordable. -/
theorem recordable_sample {maxBodyBytes : ℕ} {body : Bytes} (size : body.length ≤ maxBodyBytes)
    (json : IsJson sampleLimit body) :
    Recordable sampleWebhookService maxBodyBytes (sampleHeaders body) body :=
  ⟨admissible_sampleHeaders size, rfl, json⟩

theorem githubWebhook_records_sample :
    ∃ attempt, Records (sampleHeaders [0x7B, 0x7D]) [0x7B, 0x7D] sampleActionId sampleNow attempt ∧
      githubWebhook inMemoryDeliveryStore sampleWebhookService 2 (sampleHeaders [0x7B, 0x7D])
        [[0x7B], [], [0x7D]] sampleActionId sampleNow (.empty 1 Nat.one_pos) =
      (.ok attempt, InMemoryDeliveryStore.add (.empty 1 Nat.one_pos) attempt) :=
  (githubWebhook_records sampleWebhookService 2 (sampleHeaders [0x7B, 0x7D]) [[0x7B], [], [0x7D]]
    sampleActionId sampleNow (.empty 1 Nat.one_pos)).1
    (recordable_sample (by decide) (isJson_iff.mpr ⟨[], by rfl⟩))

end WebhookMonitor
