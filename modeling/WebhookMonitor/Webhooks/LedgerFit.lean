import WebhookMonitor.Deliveries.SchemaFit

/-!
# Webhooks and the schema of the ledger

Which validated webhooks the database takes.

* `githubWebhookAlone` — the route over the database, with no other transaction under
  way;
* `FitsLedger` — the rows of a webhook are within the schema, the database takes the
  webhook when the memory does, and it never answers that the service is unavailable;
* `WebhookHeaders.HasBigints` — the two numbers among the headers are below 2^63;
* `KeepsText` — the texts of the webhook are ones a text column keeps;
* `fitsLedger_iff` — a validated webhook fits exactly when its numbers are below 2^63
  and, if it is recorded at all, its texts are kept.

The route checks that a number is positive, not that it is within 64 bits.
-/

namespace WebhookMonitor

open Python Interaction Database PostgresDeliveryStore

/-! ## The route over the database -/

/-- `github_webhook` over the database, with no other transaction under way. -/
def githubWebhookAlone (driver : Driver) (service : WebhookIngestionService)
    (maxWebhookBodyBytes : ℕ) (headers : WebhookHeaders) (chunks : List Bytes) (attemptId : UUID)
    (now : Wall) (db : DeliveryDatabase) : Except AppError DeliveryAttempt :=
  Except.mapError webhookAnswer do
    let request ← admission maxWebhookBodyBytes headers chunks
    let attempt ← service.newAttempt request attemptId now
    (addAlone driver attempt db).1
    return attempt

/-- The answer of the route to an error of the store. -/
def serviceUnavailable : AppError := .httpException 503 "Service unavailable"

/-- What is asked of a webhook. -/
structure FitsLedger (driver : Driver) (service : WebhookIngestionService)
    (maxWebhookBodyBytes : ℕ) (headers : WebhookHeaders) (chunks : List Bytes) : Prop where
  rows : ∀ request payload attemptId now,
    admission maxWebhookBodyBytes headers chunks = .ok request →
      ∃ attempt, attemptOf request payload attemptId now = .ok attempt ∧ attempt.RowsFit
  accepted : ∀ attemptId now db store attempt, DeliveryDatabase.Quiet db → db.IsNew attemptId →
    (githubWebhook inMemoryDeliveryStore service maxWebhookBodyBytes headers chunks attemptId now
      store).1 = .ok attempt →
    githubWebhookAlone driver service maxWebhookBodyBytes headers chunks attemptId now db =
      .ok attempt
  available : ∀ attemptId now db, DeliveryDatabase.Quiet db → db.IsNew attemptId →
    githubWebhookAlone driver service maxWebhookBodyBytes headers chunks attemptId now db ≠
      .error serviceUnavailable

/-! ## Webhooks within the schema -/

/-- The number in a header, if it has one, is below 2^63. -/
def IsBelowBigint (value : Option HeaderValue) : Prop :=
  ∀ v n, value = some v → readInt v.val = some n → n < 2 ^ 63

/-- The numbers that become columns are within their range. -/
structure WebhookHeaders.HasBigints (headers : WebhookHeaders) : Prop where
  hookId : IsBelowBigint headers.xGithubHookId
  targetId : IsBelowBigint headers.xGithubHookInstallationTargetId

/-- A header without a zero character. -/
def HasNoZero (value : Option HeaderValue) : Prop := ∀ v, value = some v → ∀ c ∈ v.val, c.val ≠ 0

/-- A value that a nullable text column takes. -/
def Driver.Takes (driver : Driver) (value : Json) : Prop :=
  ∃ column, driver.bindNullableText value = .ok column

/-- The text columns keep the texts of the webhook. -/
structure KeepsText (driver : Driver) (headers : WebhookHeaders) (payload : Members) : Prop where
  delivery : HasNoZero headers.xGithubDelivery
  event : HasNoZero headers.xGithubEvent
  targetType : HasNoZero headers.xGithubHookInstallationTargetType
  action : driver.Takes (Members.get payload "action")
  repository : driver.Takes (memberOf (Members.get payload "repository") "full_name")
  sender : driver.Takes (memberOf (Members.get payload "sender") "login")

section Attempts

variable {driver : Driver} {maxBodyBytes : ℕ} {headers : WebhookHeaders} {body : Bytes}
  {request : IngestRequest} {payload : Members} {attemptId : UUID} {now : Wall}
  {attempt : DeliveryAttempt}

/-- The text of a header is kept when it has no zero character. -/
theorem bindText_header_iff {v : HeaderValue} :
    bindText v.val = .ok v.val ↔ ∀ c ∈ v.val, c.val ≠ 0 := by
  rw [bindText, isScalar_of_isLatin1 v.property, Bool.not_true, if_neg Bool.false_ne_true]
  by_cases zero : v.val.any (fun c => c.val = 0) = true
  · rw [if_pos zero]
    refine iff_of_false (fun bound => by cases bound) fun kept => ?_
    obtain ⟨c, mem, hc⟩ := List.any_eq_true.mp zero
    exact kept c mem (of_decide_eq_true hc)
  · rw [if_neg zero]
    refine iff_of_true rfl fun c mem hc => ?_
    exact zero (List.any_eq_true.mpr ⟨c, mem, decide_eq_true hc⟩)

/-- A header that became a text column is kept when it has no zero character. -/
theorem bindText_iff_hasNoZero {value : Option HeaderValue} {s : Str}
    (given : value.map (·.val) = some s) : bindText s = .ok s ↔ HasNoZero value := by
  obtain ⟨v, rfl, rfl⟩ := Option.map_eq_some_iff.mp given
  rw [bindText_header_iff]
  constructor
  · rintro kept v' present
    cases present
    exact kept
  · exact fun kept => kept v rfl

theorem hasTarget_of_admissible (admissible : Admissible maxBodyBytes headers body)
    (records : Records headers body attemptId now attempt) : attempt.HasTarget := by
  rw [DeliveryAttempt.HasTarget, ← records.targetId, ← records.targetType]
  rcases admissible.target with ⟨noId, noType⟩ |
    ⟨⟨v, n, isId, -, read, pos⟩, targetType, isType, nonblank⟩
  · rw [noId, noType]
    exact .inl ⟨rfl, rfl⟩
  · rw [isId, isType]
    exact .inr ⟨v.val, targetType.val, n, rfl, rfl, read, pos, nonblank⟩

/-- The numbers of the attempt are those of the headers. -/
theorem hasBigints_iff (records : Records headers body attemptId now attempt) :
    attempt.HasBigints ↔ headers.HasBigints := by
  obtain ⟨v, isHook, readHook⟩ := records.hookId
  have hookId : attempt.deliveryIdentity.hookId < 2 ^ 63 ↔ IsBelowBigint headers.xGithubHookId := by
    constructor
    · intro within v' n present read
      cases isHook.symm.trans present
      cases readHook.symm.trans read
      exact within
    · exact fun within => within v _ isHook readHook
  have targetId : (∀ s n, attempt.installationTargetId = some s → readInt s = some n →
      n < 2 ^ 63) ↔ IsBelowBigint headers.xGithubHookInstallationTargetId := by
    rw [← records.targetId]
    constructor
    · intro within v n present read
      exact within v.val n (by rw [present, Option.map_some]) read
    · intro within s n present read
      obtain ⟨v, given, rfl⟩ := Option.map_eq_some_iff.mp present
      exact within v n given read
  constructor
  · rintro ⟨hook, target⟩
    exact ⟨hookId.mp hook, targetId.mp target⟩
  · rintro ⟨hook, target⟩
    exact ⟨hookId.mpr hook, targetId.mpr target⟩

/-- The texts of the attempt are those of the headers and of the payload. -/
theorem keepsText_iff (isRequest : IsRequestOf headers body request)
    (isAttempt : IsAttemptOf request payload attemptId now attempt) :
    attempt.KeepsText driver ↔ KeepsText driver headers payload := by
  have records := Records.of_isAttemptOf isRequest isAttempt
  have guid := bindText_iff_hasNoZero records.guid
  have event := bindText_iff_hasNoZero records.event
  have targetType : (∀ s, attempt.installationTargetType = some s → bindText s = .ok s) ↔
      HasNoZero headers.xGithubHookInstallationTargetType := by
    rw [← records.targetType]
    constructor
    · intro kept v present
      exact bindText_header_iff.mp (kept v.val (by rw [present, Option.map_some]))
    · intro kept s given
      exact (bindText_iff_hasNoZero given).mpr kept
  constructor
  · rintro ⟨hguid, hevent, action, repository, sender, htype⟩
    rw [isAttempt.action] at action
    rw [isAttempt.repository] at repository
    rw [isAttempt.sender] at sender
    exact ⟨guid.mp hguid, event.mp hevent, targetType.mp htype, action, repository, sender⟩
  · rintro ⟨hguid, hevent, htype, action, repository, sender⟩
    rw [Driver.Takes, ← isAttempt.action] at action
    rw [Driver.Takes, ← isAttempt.repository] at repository
    rw [Driver.Takes, ← isAttempt.sender] at sender
    exact ⟨guid.mpr hguid, event.mpr hevent, action, repository, sender, targetType.mpr htype⟩

end Attempts

/-! ## The route -/

section Route

variable {driver : Driver} {service : WebhookIngestionService} {maxWebhookBodyBytes : ℕ}
  {headers : WebhookHeaders} {chunks : List Bytes}

/-- The memory takes every attempt that is built. -/
theorem githubWebhook_inMemory_fst (attemptId : UUID) (now : Wall) (store : InMemoryDeliveryStore) :
    (githubWebhook inMemoryDeliveryStore service maxWebhookBodyBytes headers chunks attemptId now
      store).1 = Except.mapError webhookAnswer (do
        let request ← admission maxWebhookBodyBytes headers chunks
        service.newAttempt request attemptId now) := by
  rw [githubWebhook, receiveWebhook]
  cases admission maxWebhookBodyBytes headers chunks with
  | error e => rfl
  | ok request =>
      rw [ok_bind]
      dsimp only [WebhookIngestionService.ingest]
      cases service.newAttempt request attemptId now with
      | error e => rfl
      | ok attempt => rfl

/-- A validated webhook is rejected alike by both routes, or it is recordable, the memory
takes it and the database has the last word. -/
theorem githubWebhookAlone_cases (driver : Driver) (service : WebhookIngestionService)
    (admissible : Admissible maxWebhookBodyBytes headers chunks.flatten) (attemptId : UUID)
    (now : Wall) :
    (∃ request e, service.Rejects request e ∧ IsRequestOf headers chunks.flatten request ∧
      (∀ store, (githubWebhook inMemoryDeliveryStore service maxWebhookBodyBytes headers chunks
        attemptId now store).1 = .error (webhookAnswer e)) ∧
      ∀ db, githubWebhookAlone driver service maxWebhookBodyBytes headers chunks attemptId now db =
        .error (webhookAnswer e)) ∨
    ∃ request payload attempt, Recordable service maxWebhookBodyBytes headers chunks.flatten ∧
      IsRequestOf headers chunks.flatten request ∧
      parsePayload service.limit chunks.flatten = .ok payload ∧
      IsAttemptOf request payload attemptId now attempt ∧
      (∀ store, (githubWebhook inMemoryDeliveryStore service maxWebhookBodyBytes headers chunks
        attemptId now store).1 = .ok attempt) ∧
      ∀ db, githubWebhookAlone driver service maxWebhookBodyBytes headers chunks attemptId now db =
        ((addAlone driver attempt db).1.map fun _ => attempt).mapError webhookAnswer := by
  obtain ⟨request, isRequest⟩ := admissible.exists_request
  have admitted : admission maxWebhookBodyBytes headers chunks = .ok request :=
    admission_eq_ok.mpr ⟨admissible, isRequest⟩
  rcases @WebhookIngestionService.newAttempt_cases service _ (isRequest.wellFormed admissible)
    attemptId now with ⟨payload, attempt, authentic, read, isAttempt, built⟩ | ⟨e, rejects, raised⟩
  · rw [isRequest.rawBody, isRequest.signature] at authentic
    rw [isRequest.rawBody] at read
    refine .inr ⟨request, payload, attempt, ⟨admissible, authentic,
      isJson_iff.mpr ⟨payload, read⟩⟩, isRequest, read, isAttempt, fun store => ?_, fun db => ?_⟩
    · rw [githubWebhook_inMemory_fst, admitted, ok_bind, built]
      rfl
    · rw [githubWebhookAlone, admitted, ok_bind, built, ok_bind]
      cases (addAlone driver attempt db).1 with
      | ok _ => rfl
      | error e => rfl
  · refine .inl ⟨request, e, rejects, isRequest, fun store => ?_, fun db => ?_⟩
    · rw [githubWebhook_inMemory_fst, admitted, ok_bind, raised]
      rfl
    · rw [githubWebhookAlone, admitted, ok_bind, raised]
      rfl

/-- A rejection is no failure of the service. -/
theorem webhookAnswer_ne_of_rejects {request : IngestRequest} {e : AppError}
    (rejects : service.Rejects request e) : webhookAnswer e ≠ serviceUnavailable := by
  cases rejects with
  | incomparable => exact fun same => by cases same
  | unauthentic => exact fun same => by cases same
  | unreadable authentic unread =>
      unfold parsePayload at unread
      split at unread
      · cases unread
        exact fun same => by cases same
      · split at unread
        · cases unread
        · cases unread
          exact fun same => by cases same
        · cases unread
          exact fun same => by cases same

/-- The route answers with the attempt exactly when it is added. -/
theorem mapError_added {attempt : DeliveryAttempt} {outcome : Except AppError Unit} :
    ((outcome.map fun _ => attempt).mapError webhookAnswer) = .ok attempt ↔ outcome = .ok () := by
  cases outcome with
  | ok u => exact iff_of_true rfl rfl
  | error e => exact iff_of_false (fun h => by cases h) (fun h => by cases h)

/-- The rows of a validated webhook, with whatever payload, fit exactly when the numbers
of its headers are within their range. -/
theorem rows_iff (admissible : Admissible maxWebhookBodyBytes headers chunks.flatten) :
    (∀ request payload attemptId now,
      admission maxWebhookBodyBytes headers chunks = .ok request →
        ∃ attempt, attemptOf request payload attemptId now = .ok attempt ∧ attempt.RowsFit) ↔
      headers.HasBigints := by
  have fits : ∀ {request payload attemptId now attempt},
      IsRequestOf headers chunks.flatten request →
      IsAttemptOf request payload attemptId now attempt →
      (attempt.RowsFit ↔ headers.HasBigints) := by
    intro request payload attemptId now attempt isRequest isAttempt
    have records := Records.of_isAttemptOf isRequest isAttempt
    rw [rowsFit_iff (hasTarget_of_admissible admissible records), hasBigints_iff records]
  constructor
  · intro rows
    obtain ⟨request, isRequest⟩ := admissible.exists_request
    obtain ⟨attempt, built, fit⟩ := rows request [] sampleActionId sampleNow
      (admission_eq_ok.mpr ⟨admissible, isRequest⟩)
    obtain ⟨attempt', built', isAttempt⟩ :=
      exists_attemptOf (isRequest.wellFormed admissible) [] sampleActionId sampleNow
    cases built.symm.trans built'
    exact (fits isRequest isAttempt).mp fit
  · intro within request payload attemptId now admitted
    obtain ⟨-, isRequest⟩ := admission_eq_ok.mp admitted
    obtain ⟨attempt, built, isAttempt⟩ :=
      exists_attemptOf (isRequest.wellFormed admissible) payload attemptId now
    exact ⟨attempt, built, (fits isRequest isAttempt).mpr within⟩

/-- **Webhooks and the schema.**  A validated webhook fits the ledger exactly when the
numbers of its headers are below 2^63 and, if it is one that is recorded, the text columns
keep its texts. -/
theorem fitsLedger_iff (driver : Driver) (service : WebhookIngestionService)
    (admissible : Admissible maxWebhookBodyBytes headers chunks.flatten) :
    FitsLedger driver service maxWebhookBodyBytes headers chunks ↔
      headers.HasBigints ∧
        (Recordable service maxWebhookBodyBytes headers chunks.flatten →
          ∀ payload, parsePayload service.limit chunks.flatten = .ok payload →
            KeepsText driver headers payload) := by
  constructor
  · intro fits
    have within := (rows_iff admissible).mp fits.rows
    refine ⟨within, fun recordable payload read => ?_⟩
    rcases githubWebhookAlone_cases driver service admissible sampleActionId sampleNow with
      ⟨request, e, rejects, isRequest, -, -⟩ |
      ⟨request, payload', attempt, -, isRequest, read', isAttempt, memory, database⟩
    · exact absurd recordable (not_recordable_of_rejects isRequest rejects)
    · cases read.symm.trans read'
      -- a run over empty stores tells whether the text is kept
      have fresh : DeliveryDatabase.empty.IsNew attempt.attemptId := fun _ mem => by cases mem
      have answered := fits.accepted sampleActionId sampleNow .empty (.empty 1 Nat.one_pos) attempt
        DeliveryDatabase.quiet_empty (fun _ mem => by cases mem) (memory _)
      rw [database, mapError_added,
        addAlone_ok_iff DeliveryDatabase.quiet_empty fresh] at answered
      exact (keepsText_iff isRequest isAttempt).mp answered.2
  · rintro ⟨within, kept⟩
    -- what reaches the database is added
    have added : ∀ {request payload attemptId now attempt db},
        IsRequestOf headers chunks.flatten request →
        Recordable service maxWebhookBodyBytes headers chunks.flatten →
        parsePayload service.limit chunks.flatten = .ok payload →
        IsAttemptOf request payload attemptId now attempt →
        DeliveryDatabase.Quiet db → db.IsNew attemptId →
        (addAlone driver attempt db).1 = .ok () := by
      intro request payload attemptId now attempt db isRequest recordable read isAttempt quiet fresh
      have records := Records.of_isAttemptOf isRequest isAttempt
      rw [← isAttempt.attemptId] at fresh
      refine (addAlone_ok_iff quiet fresh).mpr ⟨?_, ?_⟩
      · rw [rowsFit_iff (hasTarget_of_admissible admissible records), hasBigints_iff records]
        exact within
      · exact (keepsText_iff isRequest isAttempt).mpr (kept recordable payload read)
    refine ⟨(rows_iff admissible).mpr within, ?_, ?_⟩
    · intro attemptId now db store attempt quiet fresh taken
      rcases githubWebhookAlone_cases driver service admissible attemptId now with
        ⟨request, e, rejects, isRequest, memory, database⟩ |
        ⟨request, payload, attempt', recordable, isRequest, read, isAttempt, memory, database⟩
      · rw [memory] at taken
        cases taken
      · rw [memory] at taken
        cases taken
        rw [database, mapError_added]
        exact added isRequest recordable read isAttempt quiet fresh
    · intro attemptId now db quiet fresh
      rcases githubWebhookAlone_cases driver service admissible attemptId now with
        ⟨request, e, rejects, isRequest, memory, database⟩ |
        ⟨request, payload, attempt, recordable, isRequest, read, isAttempt, memory, database⟩
      · rw [database]
        intro refused
        exact webhookAnswer_ne_of_rejects rejects (Except.error.inj refused)
      · rw [database, added isRequest recordable read isAttempt quiet fresh]
        intro refused
        cases refused

end Route

theorem fitsLedger_iff_sample :
    FitsLedger sampleDriver sampleWebhookService 2 (sampleHeaders [0x7B, 0x7D])
        [[0x7B], [0x7D]] ↔
      (sampleHeaders [0x7B, 0x7D]).HasBigints ∧
        (Recordable sampleWebhookService 2 (sampleHeaders [0x7B, 0x7D])
            [[0x7B], [0x7D]].flatten →
          ∀ payload, parsePayload sampleLimit [[0x7B], [0x7D]].flatten = .ok payload →
            KeepsText sampleDriver (sampleHeaders [0x7B, 0x7D]) payload) :=
  fitsLedger_iff sampleDriver sampleWebhookService (admissible_sampleHeaders (by decide))

/-! ## A hook identifier of 64 bits -/

/-- The headers of a signed push of webhook 9223372036854775808. -/
def oversizedHeaders (body : Bytes) : WebhookHeaders :=
  { sampleHeaders body with xGithubHookId := some ⟨"9223372036854775808", by decide⟩ }

theorem admissible_oversizedHeaders :
    Admissible 2 (oversizedHeaders [0x7B, 0x7D]) [[0x7B, 0x7D]].flatten where
  json := by rfl
  event := ⟨_, rfl, by decide⟩
  delivery := ⟨_, rfl, by decide⟩
  hookId := ⟨_, 2 ^ 63, rfl, by decide, by decide +kernel, by decide⟩
  target := .inl ⟨rfl, rfl⟩
  contentLength := fun v h => by cases h
  size := by decide

/-- The memory takes the webhook 2^63; its row is outside the schema, and the database
reports that the service is unavailable. -/
theorem oversizedHookId_unavailable :
    (∃ request attempt, admission 2 (oversizedHeaders [0x7B, 0x7D]) [[0x7B, 0x7D]] = .ok request ∧
      (githubWebhook inMemoryDeliveryStore sampleWebhookService 2 (oversizedHeaders [0x7B, 0x7D])
        [[0x7B, 0x7D]] sampleActionId sampleNow (.empty 1 Nat.one_pos)).1 = .ok attempt ∧
      ¬ attempt.RowsFit ∧
      githubWebhookAlone sampleDriver sampleWebhookService 2 (oversizedHeaders [0x7B, 0x7D])
        [[0x7B, 0x7D]] sampleActionId sampleNow .empty = .error serviceUnavailable) ∧
    ¬ FitsLedger sampleDriver sampleWebhookService 2 (oversizedHeaders [0x7B, 0x7D])
      [[0x7B, 0x7D]] := by
  have hookId : readInt (Str.lit "9223372036854775808") = some (2 ^ 63) := by decide +kernel
  have recordable : Recordable sampleWebhookService 2 (oversizedHeaders [0x7B, 0x7D])
      [[0x7B, 0x7D]].flatten :=
    ⟨admissible_oversizedHeaders, rfl, isJson_iff.mpr ⟨[], by rfl⟩⟩
  rcases githubWebhookAlone_cases sampleDriver sampleWebhookService admissible_oversizedHeaders
    sampleActionId sampleNow with
    ⟨request, e, rejects, isRequest, -, -⟩ |
    ⟨request, payload, attempt, -, isRequest, read, isAttempt, memory, database⟩
  · exact absurd recordable (not_recordable_of_rejects isRequest rejects)
  · have records := Records.of_isAttemptOf isRequest isAttempt
    have identity : deliveryIdentityValues attempt = ⟨"g", 2 ^ 63⟩ := by
      obtain ⟨v, present, read⟩ := records.hookId
      cases present
      have guid : Str.lit "g" = attempt.deliveryIdentity.deliveryGuid :=
        Option.some.inj records.guid
      rw [deliveryIdentityValues, ← guid, Option.some.inj (read.symm.trans hookId)]
    have outside : ¬ attempt.RowsFit := by
      intro fits
      have range := fits.delivery.range
      rw [identity] at range
      exact absurd range (by decide)
    have unbound : bindDelivery (deliveryIdentityValues attempt) = .error .sqlAlchemyError := by
      rw [identity]
      rfl
    have unavailable : githubWebhookAlone sampleDriver sampleWebhookService 2
        (oversizedHeaders [0x7B, 0x7D]) [[0x7B, 0x7D]] sampleActionId sampleNow .empty =
          .error serviceUnavailable := by
      rw [database, addAlone_of_unbound unbound]
      rfl
    refine ⟨⟨request, attempt, admission_eq_ok.mpr ⟨admissible_oversizedHeaders, isRequest⟩,
      memory _, outside, unavailable⟩, fun fits => ?_⟩
    exact fits.available sampleActionId sampleNow .empty DeliveryDatabase.quiet_empty
      (fun _ mem => by cases mem) unavailable

end WebhookMonitor
