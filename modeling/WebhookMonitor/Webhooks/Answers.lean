import WebhookMonitor.Webhooks.Acceptance

/-!
# Which webhooks get an answer

The route maps three errors of the ingestion to HTTP answers; the header checks
raise HTTP answers themselves.  Any other exception leaves the route.

* `IsAnswered` — the errors the route has an answer for;
* `Answerable` — the condition on the headers and the bytes: the signature is
  ASCII, and an authentic body is UTF-8 that `json.loads` reads or refuses with
  `JSONDecodeError`;
* `answered_iff` — over any store, the webhook gets an answer exactly then;
* `foreign_signature_escapes` — the `TypeError` of `hmac.compare_digest`.
-/

namespace WebhookMonitor

open Python

/-- An error the route answers: an HTTP exception, or one of its `except` clauses. -/
def IsAnswered (e : AppError) : Prop :=
  IsHttpException e ∨ e = .invalidWebhookSignature ∨ e = .malformedWebhookPayload ∨
    ∃ message, e = .deliveryStore message

/-- A built-in exception has no answer. -/
theorem not_isAnswered_python (e : BuiltinError) : ¬ IsAnswered (.python e) := by
  rintro (⟨_, _, h⟩ | h | h | ⟨_, h⟩) <;> cases h

/-- `json.loads(raw_body.decode("utf-8"))` succeeds or raises `JSONDecodeError`. -/
def IsUtf8Text (limit : RecursionLimit) (body : Bytes) : Prop :=
  ∃ text, decodeUtf8 .strict body = some text ∧
    ∀ e, loads limit text = .error e → e = .jsonDecodeError

/-- What makes a webhook one that gets an answer. -/
structure Answerable (service : WebhookIngestionService) (headers : WebhookHeaders)
    (body : Bytes) : Prop where
  comparable : ∀ signature, headers.xHubSignature256 = some signature →
    isAscii signature.val = true
  payload : service.Authentic body (headers.xHubSignature256.map (·.val)) →
    IsUtf8Text service.limit body

section Rejections

variable {service : WebhookIngestionService} {request : IngestRequest} {e e' : AppError}

theorem comparable_of_authentic {body : Bytes} {signature : Option Str}
    (authentic : service.Authentic body signature) :
    ∀ s, signature = some s → isAscii s = true := by
  intro s present
  rw [WebhookIngestionService.Authentic, present, Option.some.injEq] at authentic
  rw [authentic, isAscii_expectedSignature]

/-- There is one reason to reject a request. -/
theorem WebhookIngestionService.Rejects.unique (first : service.Rejects request e)
    (second : service.Rejects request e') : e = e' := by
  cases first with
  | incomparable present foreign =>
      cases second with
      | incomparable => rfl
      | unauthentic comparable =>
          rw [comparable _ present] at foreign
          cases foreign
      | unreadable authentic =>
          rw [comparable_of_authentic authentic _ present] at foreign
          cases foreign
  | unauthentic comparable other =>
      cases second with
      | incomparable present foreign =>
          rw [comparable _ present] at foreign
          cases foreign
      | unauthentic => rfl
      | unreadable authentic => exact absurd authentic other
  | unreadable authentic unread =>
      cases second with
      | incomparable present foreign =>
          rw [comparable_of_authentic authentic _ present] at foreign
          cases foreign
      | unauthentic comparable other => exact absurd authentic other
      | unreadable _ unread' =>
          rw [unread, Except.error.injEq] at unread'
          exact unread'

/-- A payload is refused with an answer exactly when it is text. -/
theorem isAnswered_of_parsePayload {limit : RecursionLimit} {body : Bytes}
    (unread : parsePayload limit body = .error e) : IsAnswered e ↔ IsUtf8Text limit body := by
  unfold IsUtf8Text
  unfold parsePayload at unread
  split at unread
  · next undecoded =>
      cases unread
      refine iff_of_false (not_isAnswered_python _) ?_
      rintro ⟨text, decoded, -⟩
      rw [undecoded] at decoded
      cases decoded
  · next text decoded =>
      split at unread
      · cases unread
      · next malformed =>
          cases unread
          refine iff_of_true (.inr (.inr (.inl rfl))) ⟨text, decoded, fun e h => ?_⟩
          rw [malformed, Except.error.injEq] at h
          exact h.symm
      · next fault other hload =>
          cases unread
          refine iff_of_false (not_isAnswered_python _) ?_
          rintro ⟨text', decoded', only⟩
          rw [decoded, Option.some.injEq] at decoded'
          subst decoded'
          exact other (only _ hload)

end Rejections

section Route

variable {σ : Type} (store : DeliveryStore σ) (service : WebhookIngestionService)
  (maxWebhookBodyBytes : ℕ) (headers : WebhookHeaders) (chunks : List Bytes) (attemptId : UUID)
  (now : Wall) (s : σ)

/-- A request `ingest` rejects gets that error, and the store is not touched. -/
theorem receiveWebhook_of_rejects {request : IngestRequest} {e : AppError}
    (admissible : Admissible maxWebhookBodyBytes headers chunks.flatten)
    (isRequest : IsRequestOf headers chunks.flatten request) (rejects : service.Rejects request e) :
    receiveWebhook store service maxWebhookBodyBytes headers chunks attemptId now s =
      (.error e, s) := by
  have admitted := admission_eq_ok.mpr ⟨admissible, isRequest⟩
  rw [receiveWebhook, admitted]
  dsimp only [WebhookIngestionService.ingest]
  rcases @WebhookIngestionService.newAttempt_cases service _
    (isRequest.wellFormed admissible) attemptId now with
    ⟨payload, attempt, authentic, read, -, -⟩ | ⟨e', rejects', raised⟩
  · exfalso
    cases rejects with
    | incomparable present foreign =>
        rw [comparable_of_authentic authentic _ present] at foreign
        cases foreign
    | unauthentic comparable other => exact other authentic
    | unreadable authentic unread =>
        rw [read] at unread
        cases unread
  · rw [raised, rejects.unique rejects']

/-- A signature header with a character outside ASCII raises the `TypeError` of
`hmac.compare_digest`, whatever the body. -/
theorem foreign_signature_escapes {signature : HeaderValue}
    (admissible : Admissible maxWebhookBodyBytes headers chunks.flatten)
    (present : headers.xHubSignature256 = some signature)
    (foreign : isAscii signature.val = false) :
    receiveWebhook store service maxWebhookBodyBytes headers chunks attemptId now s =
      (.error (.python .typeError), s) := by
  obtain ⟨request, isRequest⟩ := admissible.exists_request
  have compared : request.signature = some signature.val := by
    rw [isRequest.signature, present]
    rfl
  exact receiveWebhook_of_rejects store service maxWebhookBodyBytes headers chunks attemptId now s
    admissible isRequest (.incomparable compared foreign)

/-- **When a webhook gets an answer.**  Over any store, the header checks and the
ingestion return the stored attempt or raise an error the route answers, if and
only if a webhook whose headers and size pass has an ASCII signature header and,
when that is the signature of the body, a body that is UTF-8 text which
`json.loads` reads or refuses with `JSONDecodeError`. -/
theorem answered_iff :
    (∀ e, (receiveWebhook store service maxWebhookBodyBytes headers chunks attemptId now s).1 =
        .error e → IsAnswered e) ↔
      (Admissible maxWebhookBodyBytes headers chunks.flatten →
        Answerable service headers chunks.flatten) := by
  rcases receiveWebhook_cases store service maxWebhookBodyBytes headers chunks attemptId now s with
    ⟨inadmissible, e, http, received⟩ | ⟨request, admissible, isRequest, ⟨e, rejects, received⟩ |
      ⟨payload, attempt, authentic, read, isAttempt, received⟩⟩
  · -- an HTTP answer before `ingest`
    rw [received]
    refine iff_of_true (fun e' raised => ?_) fun admissible => absurd admissible inadmissible
    cases raised
    exact .inl http
  · -- rejected by `ingest`
    rw [received]
    have raises : (∀ e', (Except.error e : Except AppError DeliveryAttempt) = .error e' →
        IsAnswered e') ↔ IsAnswered e := by
      constructor
      · intro h
        exact h e rfl
      · rintro h e' raised
        cases raised
        exact h
    rw [raises]
    have signature := isRequest.signature
    cases rejects with
    | @incomparable value present foreign =>
        refine iff_of_false (not_isAnswered_python _) fun answerable => ?_
        rw [present] at signature
        obtain ⟨header, hheader, rfl⟩ := Option.map_eq_some_iff.mp signature.symm
        rw [(answerable admissible).comparable header hheader] at foreign
        cases foreign
    | unauthentic comparable other =>
        refine iff_of_true (.inr (.inl rfl)) fun _ =>
          ⟨fun header hheader => ?_, fun authentic => ?_⟩
        · refine comparable header.val ?_
          rw [signature, hheader]
          rfl
        · rw [isRequest.rawBody, signature] at other
          exact absurd authentic other
    | unreadable authentic unread =>
        rw [isRequest.rawBody] at authentic unread
        rw [isAnswered_of_parsePayload unread]
        constructor
        · refine fun text _ => ⟨fun header hheader => ?_, fun _ => text⟩
          refine comparable_of_authentic authentic header.val ?_
          rw [signature, hheader]
          rfl
        · intro answerable
          exact (answerable admissible).payload (signature ▸ authentic)
  · -- added, or refused by the store
    rw [received]
    refine iff_of_true (fun e raised => ?_) fun _ => ⟨fun header hheader => ?_, fun _ => ?_⟩
    · cases added : (store.add attempt s).1 with
      | ok _ =>
          rw [added] at raised
          cases raised
      | error e' =>
          rw [added] at raised
          cases raised
          exact .inr (.inr (.inr (store.raises attempt s e added)))
    · refine comparable_of_authentic authentic header.val ?_
      rw [isRequest.signature, hheader]
      rfl
    · rw [isRequest.rawBody] at read
      obtain ⟨text, value, decoded, loaded⟩ := isJson_iff.mpr ⟨payload, read⟩
      refine ⟨text, decoded, fun e h => ?_⟩
      rw [loaded] at h
      cases h

end Route

/-- The header `é` is enough: the `TypeError` of the comparison leaves the route. -/
theorem foreign_signature_unanswered :
    ∃ headers e, (receiveWebhook inMemoryDeliveryStore sampleWebhookService 2 headers []
      sampleActionId sampleNow (.empty 1 Nat.one_pos)).1 = .error e ∧ ¬ IsAnswered e := by
  let headers : WebhookHeaders :=
    { sampleHeaders [] with xHubSignature256 := some ⟨[codePoint 0xE9], by decide⟩ }
  have admissible : Admissible 2 headers ([] : List Bytes).flatten := by
    have sample : Admissible 2 (sampleHeaders []) [] := admissible_sampleHeaders (by decide)
    exact ⟨sample.json, sample.event, sample.delivery, sample.hookId, sample.target,
      sample.contentLength, sample.size⟩
  refine ⟨headers, .python .typeError, ?_, not_isAnswered_python _⟩
  rw [foreign_signature_escapes inMemoryDeliveryStore sampleWebhookService 2 headers []
    sampleActionId sampleNow _ admissible rfl (by decide)]

end WebhookMonitor
