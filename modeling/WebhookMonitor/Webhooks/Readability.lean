import WebhookMonitor.Api.DeliveryAttempts
import WebhookMonitor.Reconciliation.Search
import WebhookMonitor.Redelivery.Capacity
import WebhookMonitor.Webhooks.Acceptance

/-!
# Which stored attempts can be read

The action, the repository and the sender of an attempt are taken from the payload as
they are.  What reads an attempt expects text or null.

* `DeliveryAttempt.Readable` — the fields are text or null, and every reader of the
  attempt succeeds or raises its own error;
* `InMemoryDeliveryStore.Readable` — the same of all its attempts, and of the pages,
  lookups and reconciliations over the store;
* `IsPlainBody` — the three fields of the payload are null or text without lone
  surrogates;
* `WebhookRun` — a store and the webhooks it has accepted;
* `attempts_readable_iff` — an attempt is readable exactly when its body is plain, and
  a store exactly when the bodies of the attempts it retains are.
-/

namespace WebhookMonitor

open Python Interaction

/-! ## Fields -/

def isNullOrStr : Json → Bool
  | .null | .str _ => true
  | _ => false

/-- Null, or text without lone surrogates. -/
def isPlainText : Json → Bool
  | .null => true
  | .str s => isScalar s
  | _ => false

/-- The three fields an attempt takes from a payload. -/
def IsPlainPayload (payload : Members) : Bool :=
  isPlainText (Members.get payload "action") &&
    isPlainText (memberOf (Members.get payload "repository") "full_name") &&
    isPlainText (memberOf (Members.get payload "sender") "login")

def IsPlainBody (limit : RecursionLimit) (body : Bytes) : Bool :=
  match parsePayload limit body with
  | .ok payload => IsPlainPayload payload
  | .error _ => true

def DeliveryAttempt.HasPlainFields (attempt : DeliveryAttempt) : Bool :=
  isPlainText attempt.action && isPlainText attempt.repository && isPlainText attempt.sender

/-! ## Readers of an attempt -/

/-- Every reader of the attempt succeeds, or raises its own error. -/
structure DeliveryAttempt.Readable (attempt : DeliveryAttempt) : Prop where
  typed : isNullOrStr attempt.action = true ∧ isNullOrStr attempt.repository = true ∧
    isNullOrStr attempt.sender = true
  coordinates : ∀ e, repositoryCoordinates attempt = .error e →
    e = .unsupportedGitHubReconciliationTarget
  path : ∀ owner repository, repositoryCoordinates attempt = .ok (owner, repository) →
    ∃ path, repositoryDeliveriesPath owner repository attempt.deliveryIdentity.hookId = .ok path
  response : ∃ response, deliveryAttemptToResponse attempt = .ok response ∧
    response.texts.all isScalar = true

/-- What the ingestion makes sure of: a time of the UTC clock, and text without lone
surrogates in the fields that are not from the payload. -/
structure DeliveryAttempt.IsStamped (attempt : DeliveryAttempt) : Prop where
  receivedAt : ∃ now, attempt.receivedAt = AwareDatetime.utc now
  guid : isScalar attempt.deliveryIdentity.deliveryGuid = true
  digest : isScalar attempt.payloadSha256 = true
  event : isScalar attempt.eventType = true
  targetId : attempt.installationTargetId.toList.all isScalar = true
  targetType : attempt.installationTargetType.toList.all isScalar = true

theorem validateNullableStr_eq_ok {value : Json} (typed : isNullOrStr value = true) :
    ∃ text, validateNullableStr value = .ok text ∧
      (text.toList.all isScalar = true ↔ isPlainText value = true) := by
  cases value with
  | null => exact ⟨none, rfl, Iff.rfl⟩
  | str s =>
      refine ⟨some s, rfl, ?_⟩
      rw [Option.toList_some, List.all_cons, List.all_nil, Bool.and_true]
      exact Iff.rfl
  | _ => cases typed

theorem isNullOrStr_of_isPlainText {value : Json} (plain : isPlainText value = true) :
    isNullOrStr value = true := by
  cases value with
  | null | str s => rfl
  | _ => cases plain

/-- The answer of an attempt whose fields are text or null. -/
theorem response_of_typed {attempt : DeliveryAttempt} (stamped : attempt.IsStamped)
    (action : isNullOrStr attempt.action = true)
    (repository : isNullOrStr attempt.repository = true)
    (sender : isNullOrStr attempt.sender = true) :
    ∃ response, deliveryAttemptToResponse attempt = .ok response ∧
      (response.texts.all isScalar = true ↔ attempt.HasPlainFields = true) := by
  obtain ⟨action', haction, actionPlain⟩ := validateNullableStr_eq_ok action
  obtain ⟨repository', hrepository, repositoryPlain⟩ := validateNullableStr_eq_ok repository
  obtain ⟨sender', hsender, senderPlain⟩ := validateNullableStr_eq_ok sender
  let response : DeliveryAttemptResponse :=
    { attemptId := attempt.attemptId
      deliveryGuid := attempt.deliveryIdentity.deliveryGuid
      hookId := attempt.deliveryIdentity.hookId
      receivedAt := attempt.receivedAt
      payloadSha256 := attempt.payloadSha256
      eventType := attempt.eventType
      action := action'
      repository := repository'
      sender := sender'
      installationTargetId := attempt.installationTargetId
      installationTargetType := attempt.installationTargetType }
  have answered : deliveryAttemptToResponse attempt = .ok response := by
    rw [deliveryAttemptToResponse, haction, hrepository, hsender]
    rfl
  have texts : response.texts.all isScalar = (action'.toList.all isScalar &&
      repository'.toList.all isScalar && sender'.toList.all isScalar) := by
    simp only [response, DeliveryAttemptResponse.texts, List.all_append, List.all_cons,
      List.all_nil, stamped.guid, stamped.digest, stamped.event, stamped.targetId,
      stamped.targetType, Bool.and_true, Bool.true_and]
  refine ⟨response, answered, ?_⟩
  rw [texts, DeliveryAttempt.HasPlainFields, Bool.and_eq_true, Bool.and_eq_true, actionPlain,
    repositoryPlain, senderPlain, Bool.and_eq_true, Bool.and_eq_true]

/-- The parts of a repository's name are text without lone surrogates when it is. -/
theorem coordinates_of_plain {attempt : DeliveryAttempt}
    (plain : isPlainText attempt.repository = true) :
    (∀ e, repositoryCoordinates attempt = .error e → e = .unsupportedGitHubReconciliationTarget) ∧
      ∀ owner repository, repositoryCoordinates attempt = .ok (owner, repository) →
        isScalar owner = true ∧ isScalar repository = true := by
  unfold repositoryCoordinates
  cases name : attempt.repository with
  | null =>
      refine ⟨fun e refused => ?_, fun owner repository coordinates => ?_⟩
      · split at refused <;> cases refused <;> rfl
      · split at coordinates <;> cases coordinates
  | str s =>
      rw [name] at plain
      refine ⟨fun e refused => ?_, fun owner repository coordinates => ?_⟩
      · dsimp only at refused
        split_ifs at refused <;> cases refused <;> rfl
      · dsimp only at coordinates
        split_ifs at coordinates
        cases coordinates
        exact ⟨isScalar_of_subset (splitAt_fst_subset _ s) plain,
          isScalar_of_subset (splitAt_snd_subset _ s) plain⟩
  | _ =>
      rw [name] at plain
      cases plain

/-- An attempt can be read exactly when its fields are plain. -/
theorem DeliveryAttempt.readable_iff {attempt : DeliveryAttempt} (stamped : attempt.IsStamped) :
    attempt.Readable ↔ attempt.HasPlainFields = true := by
  constructor
  · rintro ⟨⟨action, repository, sender⟩, -, -, response, answered, scalar⟩
    obtain ⟨response', answered', plain⟩ := response_of_typed stamped action repository sender
    obtain rfl := Except.ok.inj (answered.symm.trans answered')
    exact plain.mp scalar
  · intro plain
    have fields := plain
    rw [HasPlainFields, Bool.and_eq_true, Bool.and_eq_true] at fields
    obtain ⟨⟨action, repository⟩, sender⟩ := fields
    have typed := And.intro (isNullOrStr_of_isPlainText action)
      (And.intro (isNullOrStr_of_isPlainText repository) (isNullOrStr_of_isPlainText sender))
    obtain ⟨refused, parts⟩ := coordinates_of_plain repository
    refine ⟨typed, refused, fun owner name coordinates => ?_, ?_⟩
    · obtain ⟨howner, hname⟩ := parts owner name coordinates
      cases built : repositoryDeliveriesPath owner name attempt.deliveryIdentity.hookId with
      | ok path => exact ⟨path, rfl⟩
      | error e => exact absurd built (quotable howner hname _ 0 e).1
    · obtain ⟨response, answered, scalar⟩ := response_of_typed stamped typed.1 typed.2.1 typed.2.2
      exact ⟨response, answered, scalar.mpr plain⟩

/-! ## Readers of a store -/

/-- Why a reconciliation of an attempt that can be read fails: it is switched off, the
target is no repository, the cursor is not one of the attempt, or an answer of GitHub. -/
def ReconciliationFault (service : GitHubReconciliationService) (attempt : DeliveryAttempt)
    (cursor : Option Str) (ls : List Listing) (e : AppError) : Prop :=
  e = .gitHubReconciliationDisabled ∨ e = .unsupportedGitHubReconciliationTarget ∨
    service.resumeAt attempt cursor = .error e ∨
      ∃ l ∈ ls, listingOutcome service.limit l.path l.answer = .error e

/-- No stored attempt makes a request fail: a page fails only as it would over an empty
store, and a lookup only for its identifier. -/
structure InMemoryDeliveryStore.Readable (store : InMemoryDeliveryStore) : Prop where
  attempts : ∀ attempt ∈ store.attempts, attempt.Readable
  pages : ∀ recursionLimit limit cursor e,
    listDeliveryAttempts recursionLimit store limit cursor = .error e →
      ∀ maxEvents pos, listDeliveryAttempts recursionLimit (.empty maxEvents pos) limit cursor =
        .error e
  lookups : ∀ attemptId e, getDeliveryAttempt store attemptId = .error e →
    e = .httpException 422 "Invalid attempt_id" ∨
      e = .httpException 404 "Delivery attempt not found"
  reconciles : ∀ attempt ∈ store.attempts, ∀ service cursor h rest e,
    Trace (GitHubReconciliationService.reconcile service attempt cursor) h rest →
      rest = .raise e → ReconciliationFault service attempt cursor (listings h) e

/-- A cursor is ASCII. -/
theorem isAscii_of_encodeCursor {members : List (Str × Scalar)} {cursor : Str}
    (encoded : encodeCursor members = .ok cursor) : isAscii cursor = true := by
  obtain ⟨bytes, -, rest⟩ := bind_eq_ok.mp encoded
  cases rest
  rw [isAscii_iff]
  intro c mem
  have ascii := isAscii_iff.mp (isAscii_urlsafeB64encode bytes)
  exact ascii c (List.rdropWhile_prefix _ _ |>.subset mem)

theorem reconcile_fault {attempt : DeliveryAttempt} (readable : attempt.Readable)
    {service : GitHubReconciliationService} {cursor : Option Str} {h : History}
    {rest : Action GitHubReconciliationResult} {e : AppError}
    (trace : Trace (service.reconcile attempt cursor) h rest) (raised : rest = .raise e) :
    ReconciliationFault service attempt cursor (listings h) e := by
  subst raised
  have failure := ((reconcile_meets service attempt cursor).post_of_trace trace rfl).2.2
  rw [List.nil_append] at failure
  cases failure with
  | disabled => exact .inl rfl
  | target refused => exact .inr (.inl (readable.coordinates e refused))
  | cursor refused => exact .inr (.inr (.inl refused))
  | path coordinates unquotable =>
      obtain ⟨path, built⟩ := readable.path _ _ coordinates
      rw [unquotable] at built
      cases built
  | listing asked failed => exact .inr (.inr (.inr ⟨_, asked, failed⟩))

section Stores

variable {store : InMemoryDeliveryStore} (stamped : ∀ attempt ∈ store.attempts, attempt.IsStamped)
  (readable : ∀ attempt ∈ store.attempts, attempt.Readable)

/-- The answers of attempts that can be read. -/
theorem mapM_response {attempts : List DeliveryAttempt}
    (readable : ∀ attempt ∈ attempts, attempt.Readable) :
    ∃ items, attempts.mapM deliveryAttemptToResponse = .ok items ∧
      (items.flatMap DeliveryAttemptResponse.texts).all isScalar = true := by
  induction attempts with
  | nil => exact ⟨[], rfl, rfl⟩
  | cons attempt rest ih =>
      obtain ⟨response, answered, scalar⟩ := (readable attempt List.mem_cons_self).response
      obtain ⟨items, hitems, all⟩ := ih fun a mem => readable a (List.mem_cons_of_mem _ mem)
      refine ⟨response :: items, ?_, ?_⟩
      · rw [List.mapM_cons, answered, hitems]
        rfl
      · rw [List.flatMap_cons, List.all_append, scalar, all]
        rfl

/-- Making the cursor of a page does not fail. -/
theorem nextCursor_isOk {found : List DeliveryAttempt} (n : ℕ)
    (stamped : ∀ attempt ∈ found, attempt.IsStamped) :
    ∃ next, deliveryAttemptsListing.nextCursor n found = .ok next ∧
      next.toList.all isScalar = true := by
  unfold KeysetListing.nextCursor
  cases last : (found.take n).getLast? with
  | none => exact ⟨none, rfl, rfl⟩
  | some attempt =>
      dsimp only
      split_ifs with more
      · have mem := List.mem_of_mem_take (List.mem_of_mem_getLast? last)
        obtain ⟨now, received⟩ := (stamped attempt mem).receivedAt
        have utc : (deliveryAttemptsListing.timestamp attempt).astimezoneUtc.isSome = true := by
          change attempt.receivedAt.astimezoneUtc.isSome = true
          rw [received, CursorFormat.astimezoneUtc_utc]
          rfl
        obtain ⟨cursor, encoded⟩ := KeysetListing.encodeCursor_isOk utc
        have scalar : isScalar cursor = true := by
          unfold KeysetListing.encodeCursor at encoded
          cases written : deliveryAttemptsListing.format.encodeKeysetCursor
              (deliveryAttemptsListing.timestamp attempt) (deliveryAttemptsListing.id attempt) with
          | error e =>
              rw [written] at encoded
              cases encoded
          | ok cursor' =>
              rw [written] at encoded
              cases encoded
              obtain ⟨utc, -, encoded⟩ := bind_eq_ok.mp written
              exact isScalar_of_isAscii (isAscii_of_encodeCursor encoded)
        refine ⟨some cursor, ?_, ?_⟩
        · rw [encoded]
          rfl
        · rw [Option.toList_some, List.all_cons, scalar]
          rfl
      · exact ⟨none, rfl, rfl⟩

theorem queryDeliveryAttempts_eq {recursionLimit : RecursionLimit} {limit cursor : Option Str}
    {n : ℕ} (parsed : parseDeliveryAttemptsLimit limit = .ok n) (store : InMemoryDeliveryStore) :
    queryDeliveryAttempts recursionLimit store limit cursor =
      listAttempts recursionLimit (fun n after => .ok (store.listAttemptsPage n after))
        n cursor := by
  unfold queryDeliveryAttempts
  rw [parsed]
  rfl

/-- The query looks at the store only after it has read the limit and the cursor. -/
theorem queryDeliveryAttempts_cases (recursionLimit : RecursionLimit) (limit cursor : Option Str)
    (stamped : ∀ attempt ∈ store.attempts, attempt.IsStamped) :
    (∃ e, ∀ store' : InMemoryDeliveryStore,
        queryDeliveryAttempts recursionLimit store' limit cursor = .error e) ∨
      ∃ page, queryDeliveryAttempts recursionLimit store limit cursor = .ok page ∧
        (∀ attempt ∈ page.items, attempt ∈ store.attempts) ∧
        page.nextCursor.toList.all isScalar = true := by
  cases parsed : parseDeliveryAttemptsLimit limit with
  | error e =>
      refine .inl ⟨e, fun store' => ?_⟩
      unfold queryDeliveryAttempts
      rw [parsed]
      rfl
  | ok n =>
      cases decoded : deliveryAttemptsListing.decodeOptional recursionLimit cursor with
      | error e =>
          refine .inl ⟨e, fun store' => ?_⟩
          rw [queryDeliveryAttempts_eq parsed, listAttempts, KeysetListing.listPage, decoded]
          rfl
      | ok after =>
          have within : ∀ attempt ∈ store.listAttemptsPage (n + 1) (after.map fun k => ⟨k.1, k.2⟩),
              attempt ∈ store.attempts := fun attempt mem =>
            InMemoryDeliveryStore.mem_of_mem_listAttemptsPage mem
          obtain ⟨next, encoded, scalar⟩ :=
            nextCursor_isOk n fun attempt mem => stamped attempt (within attempt mem)
          refine .inr ⟨⟨List.take n _, next⟩, ?_,
            fun attempt mem => within attempt (List.mem_of_mem_take mem), scalar⟩
          rw [queryDeliveryAttempts_eq parsed, listAttempts, KeysetListing.listPage, decoded]
          change (deliveryAttemptsListing.nextCursor n _ >>= _) = _
          rw [encoded]
          rfl

/-- A page over attempts that can be read. -/
theorem listDeliveryAttempts_fault (stamped : ∀ attempt ∈ store.attempts, attempt.IsStamped)
    (readable : ∀ attempt ∈ store.attempts, attempt.Readable) {recursionLimit : RecursionLimit}
    {limit cursor : Option Str} {e : AppError}
    (failed : listDeliveryAttempts recursionLimit store limit cursor = .error e)
    (store' : InMemoryDeliveryStore) :
    listDeliveryAttempts recursionLimit store' limit cursor = .error e := by
  rcases queryDeliveryAttempts_cases recursionLimit limit cursor stamped with
    ⟨e', every⟩ | ⟨page, queried, within, scalar⟩
  · rw [listDeliveryAttempts, every] at failed ⊢
    exact failed
  · obtain ⟨items, answered, all⟩ :=
      mapM_response fun attempt mem => readable attempt (within attempt mem)
    have sent : listDeliveryAttempts recursionLimit store limit cursor =
        .ok { items, nextCursor := page.nextCursor } := by
      rw [listDeliveryAttempts, queried]
      change (page.items.mapM deliveryAttemptToResponse >>= _) = _
      rw [answered]
      refine if_pos ?_
      rw [DeliveryAttemptsListResponse.texts, List.all_append, all, scalar]
      rfl
    rw [sent] at failed
    cases failed

/-- A lookup among attempts that can be read. -/
theorem getDeliveryAttempt_fault (readable : ∀ attempt ∈ store.attempts, attempt.Readable)
    {attemptId : Str} {e : AppError} (failed : getDeliveryAttempt store attemptId = .error e) :
    e = .httpException 422 "Invalid attempt_id" ∨
      e = .httpException 404 "Delivery attempt not found" := by
  unfold getDeliveryAttempt at failed
  cases parsed : UUID.parse attemptId with
  | none =>
      rw [parsed] at failed
      cases failed
      exact .inl rfl
  | some id =>
      rw [parsed] at failed
      dsimp only at failed
      cases found : store.getAttempt id with
      | none =>
          rw [found] at failed
          cases failed
          exact .inr rfl
      | some attempt =>
          obtain ⟨response, answered, scalar⟩ :=
            (readable attempt (List.mem_of_find?_eq_some found)).response
          have sent : render DeliveryAttemptResponse.texts response = .ok response := if_pos scalar
          rw [found] at failed
          dsimp only at failed
          rw [answered] at failed
          change render DeliveryAttemptResponse.texts response = .error e at failed
          rw [sent] at failed
          cases failed

/-- A store can be read exactly when its attempts can. -/
theorem store_readable_iff (stamped : ∀ attempt ∈ store.attempts, attempt.IsStamped) :
    store.Readable ↔ ∀ attempt ∈ store.attempts, attempt.HasPlainFields = true := by
  constructor
  · intro readable attempt mem
    exact (DeliveryAttempt.readable_iff (stamped attempt mem)).mp (readable.attempts attempt mem)
  · intro plain
    have readable : ∀ attempt ∈ store.attempts, attempt.Readable := fun attempt mem =>
      (DeliveryAttempt.readable_iff (stamped attempt mem)).mpr (plain attempt mem)
    refine ⟨readable, ?_, ?_, ?_⟩
    · intro recursionLimit limit cursor e failed maxEvents pos
      exact listDeliveryAttempts_fault stamped readable failed _
    · intro attemptId e failed
      exact getDeliveryAttempt_fault readable failed
    · intro attempt mem service cursor h rest e trace raised
      exact reconcile_fault (readable attempt mem) trace raised

end Stores

/-! ## Runs -/

/-- A store that starts empty, and the webhooks it has accepted with their attempts,
last first. -/
inductive WebhookRun (service : WebhookIngestionService) (maxWebhookBodyBytes maxEvents : ℕ)
    (pos : 0 < maxEvents) : List (Bytes × DeliveryAttempt) → InMemoryDeliveryStore → Prop where
  | start : WebhookRun service maxWebhookBodyBytes maxEvents pos [] (.empty maxEvents pos)
  | accepted {log : List (Bytes × DeliveryAttempt)} {store store' : InMemoryDeliveryStore}
      {headers : WebhookHeaders} {chunks : List Bytes} {attemptId : UUID} {now : Wall}
      {attempt : DeliveryAttempt}
      (run : WebhookRun service maxWebhookBodyBytes maxEvents pos log store)
      (received : githubWebhook inMemoryDeliveryStore service maxWebhookBodyBytes headers chunks
        attemptId now store = (.ok attempt, store')) :
      WebhookRun service maxWebhookBodyBytes maxEvents pos ((chunks.flatten, attempt) :: log) store'
  | refused {log : List (Bytes × DeliveryAttempt)} {store store' : InMemoryDeliveryStore}
      {headers : WebhookHeaders} {chunks : List Bytes} {attemptId : UUID} {now : Wall}
      {e : AppError} (run : WebhookRun service maxWebhookBodyBytes maxEvents pos log store)
      (received : githubWebhook inMemoryDeliveryStore service maxWebhookBodyBytes headers chunks
        attemptId now store = (.error e, store')) :
      WebhookRun service maxWebhookBodyBytes maxEvents pos log store'

section Runs

variable {service : WebhookIngestionService} {maxWebhookBodyBytes maxEvents : ℕ}
  {pos : 0 < maxEvents} {log : List (Bytes × DeliveryAttempt)} {store : InMemoryDeliveryStore}

/-- An accepted webhook and its attempt. -/
structure Accepted (service : WebhookIngestionService) (body : Bytes) (attempt : DeliveryAttempt) :
    Prop where
  stamped : attempt.IsStamped
  payload : ∃ payload, parsePayload service.limit body = .ok payload ∧
    attempt.action = Members.get payload "action" ∧
    attempt.repository = memberOf (Members.get payload "repository") "full_name" ∧
    attempt.sender = memberOf (Members.get payload "sender") "login"

theorem Accepted.fields {body : Bytes} {attempt : DeliveryAttempt}
    (accepted : Accepted service body attempt) :
    attempt.HasPlainFields = IsPlainBody service.limit body := by
  obtain ⟨payload, read, action, repository, sender⟩ := accepted.payload
  rw [IsPlainBody, read, DeliveryAttempt.HasPlainFields, action, repository, sender]
  rfl

theorem accepted_of_isAttemptOf {headers : WebhookHeaders} {body : Bytes} {request : IngestRequest}
    {payload : Members} {attemptId : UUID} {now : Wall} {attempt : DeliveryAttempt}
    (isRequest : IsRequestOf headers body request)
    (read : parsePayload service.limit body = .ok payload)
    (isAttempt : IsAttemptOf request payload attemptId now attempt) :
    Accepted service body attempt := by
  have records := Records.of_isAttemptOf isRequest isAttempt
  -- text of a header
  have header : ∀ {value : Option HeaderValue} {s : Str}, value.map (·.val) = some s →
      isScalar s = true := by
    intro value s named
    obtain ⟨v, -, rfl⟩ := Option.map_eq_some_iff.mp named
    exact isScalar_of_isLatin1 v.property
  have optional : ∀ {value : Option HeaderValue} {s : Option Str}, value.map (·.val) = s →
      s.toList.all isScalar = true := by
    rintro value s rfl
    cases value with
    | none => rfl
    | some v =>
        rw [Option.map_some, Option.toList_some, List.all_cons, isScalar_of_isLatin1 v.property]
        rfl
  refine ⟨⟨⟨now, records.receivedAt⟩, header records.guid, ?_, header records.event,
    optional records.targetId, optional records.targetType⟩, payload, read, isAttempt.action,
    isAttempt.repository, isAttempt.sender⟩
  rw [records.digest]
  exact isScalar_of_isAscii (isAscii_hexdigest _)

/-- One webhook: it is refused, or its attempt is added. -/
theorem githubWebhook_accepted (headers : WebhookHeaders) (chunks : List Bytes) (attemptId : UUID)
    (now : Wall) (store : InMemoryDeliveryStore) :
    (∃ attempt, Accepted service chunks.flatten attempt ∧
        githubWebhook inMemoryDeliveryStore service maxWebhookBodyBytes headers chunks attemptId
          now store = (.ok attempt, store.add attempt)) ∨
      ∃ e, githubWebhook inMemoryDeliveryStore service maxWebhookBodyBytes headers chunks attemptId
        now store = (.error e, store) := by
  unfold githubWebhook
  rcases receiveWebhook_cases inMemoryDeliveryStore service maxWebhookBodyBytes headers chunks
    attemptId now store with
    ⟨-, e, -, received⟩ | ⟨request, -, isRequest, ⟨e, -, received⟩ |
      ⟨payload, attempt, -, read, isAttempt, received⟩⟩
  · refine .inr ⟨webhookAnswer e, ?_⟩
    rw [received]
    rfl
  · refine .inr ⟨webhookAnswer e, ?_⟩
    rw [received]
    rfl
  · rw [isRequest.rawBody] at read
    refine .inl ⟨attempt, accepted_of_isAttemptOf isRequest read isAttempt, ?_⟩
    rw [received]
    rfl

/-- The store retains the last attempts accepted. -/
theorem WebhookRun.accepts (run : WebhookRun service maxWebhookBodyBytes maxEvents pos log store) :
    (∀ entry ∈ log, Accepted service entry.1 entry.2) ∧ store.maxEvents = maxEvents ∧
      store.attempts = (log.map Prod.snd).take maxEvents := by
  induction run with
  | start => exact ⟨fun _ mem => absurd mem List.not_mem_nil, rfl, List.take_nil.symm⟩
  | @accepted log store store' headers chunks attemptId now attempt run received ih =>
      obtain ⟨accepted, capacity, retained⟩ := ih
      rcases @githubWebhook_accepted service _ headers chunks attemptId now store with
        ⟨attempt', isAccepted, added⟩ | ⟨e, refused⟩
      · rw [added] at received
        cases received
        refine ⟨List.forall_mem_cons.mpr ⟨isAccepted, accepted⟩, capacity, ?_⟩
        rw [InMemoryDeliveryStore.add_attempts, retained, capacity, List.map_cons]
        exact take_cons_take _ _ _
      · rw [refused] at received
        cases received
  | @refused log store store' headers chunks attemptId now e run received ih =>
      rcases @githubWebhook_accepted service _ headers chunks attemptId now store with
        ⟨attempt', isAccepted, added⟩ | ⟨e', refused⟩
      · rw [added] at received
        cases received
      · rw [refused] at received
        cases received
        exact ih

/-- **An attempt can be read exactly when its body is plain.**  So a store can be read
exactly when the attempts it retains are of plain bodies. -/
theorem attempts_readable_iff
    (run : WebhookRun service maxWebhookBodyBytes maxEvents pos log store) :
    (∀ entry ∈ log, entry.2.Readable ↔ IsPlainBody service.limit entry.1 = true) ∧
      (store.Readable ↔
        ∀ entry ∈ log.take maxEvents, IsPlainBody service.limit entry.1 = true) := by
  obtain ⟨accepted, -, retained⟩ := run.accepts
  constructor
  · intro entry mem
    rw [DeliveryAttempt.readable_iff (accepted entry mem).stamped, (accepted entry mem).fields]
  · have kept : store.attempts = (log.take maxEvents).map Prod.snd := by
      rw [retained, List.map_take]
    have stamped : ∀ attempt ∈ store.attempts, attempt.IsStamped := by
      rw [kept, List.forall_mem_map]
      intro entry mem
      exact (accepted entry (List.mem_of_mem_take mem)).stamped
    rw [store_readable_iff stamped, kept, List.forall_mem_map]
    refine forall₂_congr fun entry mem => ?_
    rw [(accepted entry (List.mem_of_mem_take mem)).fields]

end Runs

/-- A signed JSON body is accepted, and retained. -/
theorem accepted_sample {body : Bytes} (json : IsJson sampleLimit body) :
    ∃ attempt, WebhookRun sampleWebhookService body.length 1 Nat.one_pos [(body, attempt)]
      (InMemoryDeliveryStore.add (.empty 1 Nat.one_pos) attempt) := by
  have size : ([body] : List Bytes).flatten.length ≤ body.length := by simp
  have recordable : Recordable sampleWebhookService body.length (sampleHeaders body)
      ([body] : List Bytes).flatten := by
    rw [List.flatten_singleton]
    exact recordable_sample (Nat.le_refl _) json
  rcases githubWebhook_inMemory sampleWebhookService body.length (sampleHeaders body) [body]
    sampleActionId sampleNow (.empty 1 Nat.one_pos) with ⟨-, attempt, -, received⟩ | ⟨other, -⟩
  · refine ⟨attempt, ?_⟩
    have run := WebhookRun.start.accepted received
    rw [List.flatten_singleton] at run
    exact run
  · exact absurd recordable other

/-- A body with an action, a repository and a sender. -/
def openedBody : Bytes :=
  (Str.lit ("\x7b\"action\":\"opened\",\"repository\":\x7b\"full_name\":\"o/r\"\x7d," ++
    "\"sender\":\x7b\"login\":\"s\"\x7d\x7d")).map fun c => UInt8.ofNat c.val

theorem attempts_readable_iff_sample :
    ∃ attempt store, WebhookRun sampleWebhookService openedBody.length 1 Nat.one_pos
        [(openedBody, attempt)] store ∧ store.attempts = [attempt] ∧
      (attempt.action.str?, attempt.repository.str?, attempt.sender.str?) =
        (some (Str.lit "opened"), some (Str.lit "o/r"), some (Str.lit "s")) ∧
      attempt.Readable ∧ store.Readable := by
  have opened : (parsePayload sampleLimit openedBody).toOption.map (fun payload =>
      ((payload.get "action").str?, (memberOf (payload.get "repository") "full_name").str?,
        (memberOf (payload.get "sender") "login").str?, IsPlainPayload payload)) =
          some (some (Str.lit "opened"), some (Str.lit "o/r"), some (Str.lit "s"), true) := by
    decide +kernel
  cases read : parsePayload sampleLimit openedBody with
  | error e =>
      rw [read] at opened
      cases opened
  | ok payload =>
      obtain ⟨attempt, run⟩ := accepted_sample (isJson_iff.mpr ⟨_, read⟩)
      obtain ⟨payload', read', action, repository, sender⟩ :=
        (run.accepts.1 _ List.mem_cons_self).payload
      obtain rfl : payload = payload' := Except.ok.inj (read.symm.trans read')
      rw [read] at opened
      simp only [Except.toOption, Option.map_some, Option.some.injEq, Prod.mk.injEq] at opened
      obtain ⟨isAction, isRepository, isSender, isPlain⟩ := opened
      have plain : IsPlainBody sampleLimit openedBody = true := by
        rw [IsPlainBody, read]
        exact isPlain
      obtain ⟨each, whole⟩ := attempts_readable_iff run
      refine ⟨attempt, _, run, rfl, ?_, (each _ List.mem_cons_self).mpr plain, whole.mpr ?_⟩
      · rw [action, repository, sender, isAction, isRepository, isSender]
      · intro entry mem
        obtain rfl := List.mem_singleton.mp (List.mem_of_mem_take mem)
        exact plain

/-- The body `{"action":5}`. -/
def numericActionBody : Bytes :=
  [0x7B, 0x22, 0x61, 0x63, 0x74, 0x69, 0x6F, 0x6E, 0x22, 0x3A, 0x35, 0x7D]

/-- A signed body whose action is a number is accepted, and its attempt has no answer. -/
theorem numeric_action_unreadable :
    ∃ attempt store, WebhookRun sampleWebhookService numericActionBody.length 1 Nat.one_pos
        [(numericActionBody, attempt)] store ∧ attempt ∈ store.attempts ∧
      isNullOrStr attempt.action = false ∧
      deliveryAttemptToResponse attempt = .error .responseValidation ∧ ¬ store.Readable := by
  have read : parsePayload sampleLimit numericActionBody = .ok [("action", .int 5)] := by rfl
  obtain ⟨attempt, run⟩ := accepted_sample (isJson_iff.mpr ⟨_, read⟩)
  obtain ⟨payload, read', action, -⟩ := (run.accepts.1 _ List.mem_cons_self).payload
  have five : attempt.action = .int 5 := by
    rw [action, ← Except.ok.inj (read.symm.trans read')]
    rfl
  have answered : deliveryAttemptToResponse attempt = .error .responseValidation := by
    rw [deliveryAttemptToResponse, five]
    rfl
  refine ⟨attempt, _, run, List.mem_cons_self, ?_, answered, fun readable => ?_⟩
  · rw [five]
    rfl
  · have typed := (readable.attempts attempt List.mem_cons_self).typed.1
    rw [five] at typed
    cases typed

end WebhookMonitor
