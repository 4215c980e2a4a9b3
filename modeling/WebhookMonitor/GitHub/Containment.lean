import WebhookMonitor.Api.Answers
import WebhookMonitor.GitHub.DeliveryRecords
import WebhookMonitor.GitHub.LinkHeader
import WebhookMonitor.Python.UrlPath

/-!
# What the listing client lets through

`list_repository_webhook_deliveries` turns what goes wrong upstream into one of two
errors, which the routes answer with 503 and 502.  Five other exceptions leave it:

* `UnicodeEncodeError` — a coordinate with a lone surrogate has no path;
* an exception of the HTTP client outside its `RequestError` family;
* `RecursionError` — the body is JSON nested beyond the limit;
* `OverflowError` — a record whose duration is an integer too large for a float;
* `ValueError` — the target of the `next` link is no URL that `urlparse` reads; the
  header is parsed outside the `try` block.

`ListingContained` says that none of them is met, and `listing_answers_iff` that
nothing else escapes.
-/

namespace WebhookMonitor

open Python Interaction

/-! ## The exceptions of a record -/

section Fields

variable {members : Members} {key : Str} {value : Json}

theorem requireKey_raises :
    RaisesOnly (fun e => isMalformed e = true) (requireKey members key) := .orRaise rfl

theorem requireInt_raises : RaisesOnly (fun e => isMalformed e = true) (requireInt members key) :=
  requireKey_raises.bind fun _ _ => .orRaise rfl

theorem requireStr_raises : RaisesOnly (fun e => isMalformed e = true) (requireStr members key) :=
  requireKey_raises.bind fun _ _ => .orRaise rfl

theorem requireBool_raises : RaisesOnly (fun e => isMalformed e = true) (requireBool members key) :=
  requireKey_raises.bind fun _ _ => .orRaise rfl

theorem parseDatetime_raises : RaisesOnly (fun e => isMalformed e = true) (parseDatetime value) :=
  RaisesOnly.bind (.orRaise rfl) fun _ _ => RaisesOnly.bind (.orRaise rfl) fun _ _ => .orRaise rfl

theorem parseRequiredDatetime_raises :
    RaisesOnly (fun e => isMalformed e = true) (parseRequiredDatetime members key) :=
  requireKey_raises.bind fun _ _ => parseDatetime_raises

theorem optional_raises {α : Type} {parse : Json → Except BuiltinError α}
    (raises : RaisesOnly (fun e => isMalformed e = true) (parse value)) :
    RaisesOnly (fun e => isMalformed e = true) (optional parse value) :=
  .ite (fun _ => .ok) fun _ => raises.map

theorem optionalInt_raises : RaisesOnly (fun e => isMalformed e = true) (optionalInt value) :=
  optional_raises (.orRaise rfl)

theorem optionalStr_raises : RaisesOnly (fun e => isMalformed e = true) (optionalStr value) :=
  optional_raises (.orRaise rfl)

theorem parseOptionalDatetime_raises :
    RaisesOnly (fun e => isMalformed e = true) (parseOptionalDatetime value) :=
  optional_raises parseDatetime_raises

theorem optionalNumber_of_tooLarge (large : TooLargeForFloat value) :
    optionalNumber value = .error .overflowError := by
  obtain ⟨n, rfl, unrepresentable⟩ := large
  refine map_eq_error.mpr (bind_eq_error.mpr (.inr ⟨n, rfl, ?_⟩))
  rw [unrepresentable]
  rfl

theorem optionalNumber_raises (fits : ¬TooLargeForFloat value) :
    RaisesOnly (fun e => isMalformed e = true) (optionalNumber value) := by
  refine optional_raises ?_
  cases value with
  | int n =>
      cases converted : floatOfInt n with
      | none => exact absurd ⟨n, rfl, converted⟩ fits
      | some x =>
          refine RaisesOnly.bind .ok fun m same => ?_
          cases same
          rw [converted]
          exact .ok
  | bool b =>
      obtain ⟨x, converted⟩ := Option.isSome_iff_exists.mp (floatOfInt_bool b)
      refine RaisesOnly.bind .ok fun m same => ?_
      cases same
      rw [converted]
      exact .ok
  | float x => exact .ok
  | _ => exact .error rfl

end Fields

/-- A record whose first four members are right and whose duration is too large. -/
structure OverflowsRecord (value : Json) (members : Members) : Prop where
  isDict : value = .dict members
  id : IsIntegerOrBool (Members.get members "id")
  guid : ∃ s, Members.get members "guid" = .str s
  deliveredAt : IsReadableTimestamp (Members.get members "delivered_at")
  redelivery : ∃ b, Members.get members "redelivery" = .bool b
  duration : TooLargeForFloat (Members.get members "duration")

theorem OverflowsRecord.parse {value : Json} {members : Members}
    (overflows : OverflowsRecord value members) :
    parseDeliverySummary value = .error .overflowError := by
  obtain ⟨rfl, ⟨n, id⟩, ⟨s, guid⟩, ⟨t, deliveredAt⟩, ⟨b, redelivery⟩, duration⟩ := overflows
  rw [parseDeliverySummary, requireInt_eq_ok.mpr id, ok_bind, requireStr_eq_ok.mpr guid, ok_bind,
    parseRequiredDatetime_eq_ok.mpr deliveredAt, ok_bind, requireBool_eq_ok.mpr redelivery, ok_bind,
    optionalNumber_of_tooLarge duration]
  rfl

/-- Any other record raises what the client handles, if anything. -/
theorem parseDeliverySummary_raises {value : Json}
    (fits : ∀ members, ¬OverflowsRecord value members) :
    RaisesOnly (fun e => isMalformed e = true) (parseDeliverySummary value) := by
  cases value with
  | dict members =>
      refine requireInt_raises.bind fun n id => ?_
      refine requireStr_raises.bind fun s guid => ?_
      refine parseRequiredDatetime_raises.bind fun t deliveredAt => ?_
      refine requireBool_raises.bind fun b redelivery => ?_
      have small : ¬TooLargeForFloat (Members.get members "duration") := fun large =>
        fits members ⟨rfl, ⟨n, requireInt_eq_ok.mp id⟩, ⟨s, requireStr_eq_ok.mp guid⟩,
          ⟨t, parseRequiredDatetime_eq_ok.mp deliveredAt⟩, ⟨b, requireBool_eq_ok.mp redelivery⟩,
          large⟩
      refine (optionalNumber_raises small).bind fun _ _ => ?_
      refine optionalStr_raises.bind fun _ _ => optionalInt_raises.bind fun _ _ => ?_
      refine optionalStr_raises.bind fun _ _ => optionalStr_raises.bind fun _ _ => ?_
      refine optionalInt_raises.bind fun _ _ => optionalInt_raises.bind fun _ _ => ?_
      exact parseOptionalDatetime_raises.bind fun _ _ => .ok
  | _ => exact .error rfl

/-! ## The exceptions of a response -/

/-- Nothing in the body or in the link header of an answer passes the client by. -/
structure ResponseContained (limit : RecursionLimit) (response : HttpResponse) : Prop where
  shallow : loadsBytes limit response.content ≠ .error .recursionError
  fits : ∀ items before value after members,
    loadsBytes limit response.content = .ok (.list items) → items = before ++ value :: after →
    (∀ earlier ∈ before, ∃ summary, parseDeliverySummary earlier = .ok summary) →
    ¬OverflowsRecord value members
  target : (∃ deliveries, deliveriesOfContent limit response.content = .ok deliveries) →
    ¬RefusedTarget response.link

section Response

variable {limit : RecursionLimit}

/-- The body raises what the client handles exactly when it is neither too deep nor
reaches a duration that is too large. -/
theorem deliveriesOfContent_raises_iff {content : Bytes} :
    RaisesOnly (fun e => isMalformed e = true) (deliveriesOfContent limit content) ↔
      loadsBytes limit content ≠ .error .recursionError ∧
        ∀ items before value after members, loadsBytes limit content = .ok (.list items) →
          items = before ++ value :: after →
          (∀ earlier ∈ before, ∃ summary, parseDeliverySummary earlier = .ok summary) →
          ¬OverflowsRecord value members := by
  constructor
  · intro raises
    refine ⟨fun deep => ?_, ?_⟩
    · exact absurd (raises _ (bind_eq_error.mpr (.inl deep))) (by decide)
    · intro items before value after members loaded split passed overflows
      -- the first record that overflows ends the parsing with `OverflowError`
      have raised : items.mapM parseDeliverySummary = .error .overflowError :=
        mapM_eq_error.mpr ⟨before, value, after, split, passed, overflows.parse⟩
      have escaped : deliveriesOfContent limit content = .error .overflowError :=
        bind_eq_error.mpr (.inr ⟨_, loaded, bind_eq_error.mpr (.inr ⟨items, rfl, raised⟩)⟩)
      exact absurd (raises _ escaped) (by decide)
  · rintro ⟨shallow, fits⟩
    rw [deliveriesOfContent]
    refine RaisesOnly.bind ?_ fun payload loaded => RaisesOnly.bind (.orRaise rfl) ?_
    · intro e raised
      rcases loadsBytes_raises limit content e raised with value | rfl
      · simp [isMalformed, value]
      · exact absurd raised shallow
    · intro items listed e raised
      obtain ⟨before, value, after, split, passed, raised⟩ := mapM_eq_error.mp raised
      have isList : payload = .list items := by
        cases payload with
        | list items' => exact congrArg Json.list (Option.some.inj (orRaise_eq_ok.mp listed))
        | _ => cases listed
      rw [isList] at loaded
      exact parseDeliverySummary_raises
        (fun members => fits items before value after members loaded split passed) e raised

/-- The two errors of the client, with what the routes make of them. -/
def IsUpstreamError (e : AppError) : Prop :=
  (∃ error, e = .gitHubUpstreamUnavailable error ∧
      reconciliationAnswer e = .httpException 503 "Service unavailable" ∧
      redeliveryAnswer e = .httpException 503 "Service unavailable") ∨
    ∃ error, e = .gitHubUpstreamProtocol error ∧
      reconciliationAnswer e = .httpException 502 "Upstream service unavailable" ∧
      redeliveryAnswer e = .httpException 502 "Upstream service unavailable"

theorem isUpstreamError_unavailable (error : GitHubUpstreamError) :
    IsUpstreamError (.gitHubUpstreamUnavailable error) := .inl ⟨error, rfl, rfl, rfl⟩

theorem isUpstreamError_protocol (error : GitHubUpstreamError) :
    IsUpstreamError (.gitHubUpstreamProtocol error) := .inr ⟨error, rfl, rfl, rfl⟩

theorem not_isUpstreamError_python (e : BuiltinError) : ¬IsUpstreamError (.python e) := by
  rintro (⟨_, same, -⟩ | ⟨_, same, -⟩) <;> cases same

/-- An error of the body is contained when the `except` clause is for it. -/
theorem bodyError_raises_iff {e : BuiltinError} :
    RaisesOnly IsUpstreamError (if isMalformed e = true then
      (.error (.gitHubUpstreamProtocol (upstreamError "GitHub upstream response was invalid")) :
        Except AppError GitHubDeliveryPage)
      else .error (.python e)) ↔ isMalformed e = true := by
  by_cases malformed : isMalformed e = true
  · rw [if_pos malformed]
    exact ⟨fun _ => malformed, fun _ => .error (isUpstreamError_protocol _)⟩
  · rw [if_neg malformed]
    exact ⟨fun raises => absurd (raises _ rfl) (not_isUpstreamError_python e),
      fun h => absurd h malformed⟩

/-- The header is parsed outside the `try` block, so an error of it is never contained. -/
theorem nextCursor_raises_iff {linkHeader : Option HeaderText} {path : Str}
    {deliveries : List GitHubDeliverySummary} :
    RaisesOnly IsUpstreamError (do
        let nextCursor ← uncaught (extractNextCursor linkHeader path)
        return ({ deliveries, nextCursor } : GitHubDeliveryPage)) ↔ ¬RefusedTarget linkHeader := by
  constructor
  · intro contained refused
    have raised := (@extractNextCursor_eq_error linkHeader path _).mpr ⟨rfl, refused⟩
    refine not_isUpstreamError_python .valueError (contained _ ?_)
    rw [raised]
    rfl
  · intro accepted
    refine RaisesOnly.bind ?_ fun _ _ => .ok
    cases extracted : extractNextCursor linkHeader path with
    | ok cursor => exact .ok
    | error e => exact absurd (extractNextCursor_eq_error.mp extracted).2 accepted

theorem pageOfResponse_raises_iff {path : Str} {response : HttpResponse} :
    RaisesOnly IsUpstreamError (pageOfResponse limit path response) ↔
      (response.statusCode = 200 → ResponseContained limit response) := by
  rw [pageOfResponse]
  -- 429, a server error or a rate limit: unavailable, whatever the body
  by_cases unavailable : response.statusCode = 429 ∨ response.statusCode ≥ 500 ∨
      isRateLimited response = true
  · rw [if_pos unavailable]
    refine ⟨fun _ ok => ?_, fun _ => .error (isUpstreamError_unavailable _)⟩
    have notLimited : isRateLimited response = false := by
      rw [isRateLimited, ok]
      rfl
    rw [ok, notLimited] at unavailable
    exact absurd unavailable (by decide)
  rw [if_neg unavailable]
  by_cases ok : response.statusCode = 200
  · rw [if_neg (not_not.mpr ok)]
    -- the body is read, then the `Link` header
    have body := @deliveriesOfContent_raises_iff limit response.content
    cases read : deliveriesOfContent limit response.content with
    | error e =>
        refine bodyError_raises_iff.trans ⟨fun malformed _ => ?_, fun contained => ?_⟩
        · have raises : RaisesOnly (fun e => isMalformed e = true)
              (deliveriesOfContent limit response.content) := by
            rw [read]
            exact .error malformed
          obtain ⟨shallow, fits⟩ := body.mp raises
          refine ⟨shallow, fits, ?_⟩
          rintro ⟨deliveries, returned⟩
          rw [read] at returned
          cases returned
        · exact body.mpr ⟨(contained ok).shallow, (contained ok).fits⟩ e read
    | ok deliveries =>
        have raises : RaisesOnly (fun e => isMalformed e = true)
            (deliveriesOfContent limit response.content) := by
          rw [read]
          exact .ok
        obtain ⟨shallow, fits⟩ := body.mp raises
        refine nextCursor_raises_iff.trans
          ⟨fun accepted _ => ⟨shallow, fits, fun _ => accepted⟩, ?_⟩
        exact fun contained => (contained ok).target ⟨deliveries, read⟩
  · -- every other status is a protocol error
    rw [if_pos ok]
    exact ⟨fun _ same => absurd same ok, fun _ => .error (isUpstreamError_protocol _)⟩

end Response

/-! ## The client -/

/-- The answer to the GET is one the client contains. -/
structure AnswerContained (limit : RecursionLimit) (answer : Except HttpClientError HttpResponse) :
    Prop where
  transport : ∀ e, answer = .error e → e.isRequestError = true
  response : ∀ response, answer = .ok response → response.statusCode = 200 →
    ResponseContained limit response

theorem listingOutcome_raises_iff {limit : RecursionLimit} {path : Str}
    {answer : Except HttpClientError HttpResponse} :
    RaisesOnly IsUpstreamError (listingOutcome limit path answer) ↔
      AnswerContained limit answer := by
  cases answer with
  | error e =>
      rw [listingOutcome]
      by_cases request : e.isRequestError = true
      · rw [if_pos request]
        refine ⟨fun _ => ⟨?_, nofun⟩, fun _ => .error (isUpstreamError_unavailable _)⟩
        intro e' same
        cases same
        exact request
      · rw [if_neg request]
        constructor
        · intro raises
          rcases raises _ rfl with ⟨_, same, -⟩ | ⟨_, same, -⟩ <;> cases same
        · exact fun contained => absurd (contained.transport e rfl) request
  | ok response =>
      refine pageOfResponse_raises_iff.trans ⟨fun contained => ⟨nofun, ?_⟩, fun contained =>
        contained.response response rfl⟩
      intro response' same
      cases same
      exact contained

theorem repositoryDeliveriesPath_isOk {owner repository : Str} {hookId : ℤ} :
    (∃ path, repositoryDeliveriesPath owner repository hookId = .ok path) ↔
      isScalar owner = true ∧ isScalar repository = true := by
  rw [← quote_eq_some_iff, ← quote_eq_some_iff]
  constructor
  · rintro ⟨path, written⟩
    obtain ⟨quoted, first, written⟩ := bind_eq_ok.mp written
    obtain ⟨quoted', second, -⟩ := bind_eq_ok.mp written
    exact ⟨⟨quoted, orRaise_eq_ok.mp first⟩, quoted', orRaise_eq_ok.mp second⟩
  · rintro ⟨⟨quoted, first⟩, quoted', second⟩
    exact ⟨_, bind_eq_ok.mpr ⟨quoted, orRaise_eq_ok.mpr first, bind_eq_ok.mpr
      ⟨quoted', orRaise_eq_ok.mpr second, rfl⟩⟩⟩

/-- The outcome is a page, or an error that the routes answer with 503 or 502. -/
def AnswersUpstream (outcome : Except AppError GitHubDeliveryPage) : Prop :=
  (∃ page, outcome = .ok page) ∨ ∃ e, outcome = .error e ∧ IsUpstreamError e

theorem answersUpstream_iff {outcome : Except AppError GitHubDeliveryPage} :
    AnswersUpstream outcome ↔ RaisesOnly IsUpstreamError outcome := by
  cases outcome with
  | ok page => exact ⟨fun _ => .ok, fun _ => .inl ⟨page, rfl⟩⟩
  | error e =>
      constructor
      · rintro (⟨page, returned⟩ | ⟨e', same, upstream⟩)
        · cases returned
        · cases same
          exact .error upstream
      · exact fun raises => .inr ⟨e, rfl, raises e rfl⟩

/-- Whatever the transport answers, the client answers it, exactly when the
coordinates have a path and the answer is contained. -/
theorem listing_answers_iff (limit : RecursionLimit) (owner repository : Str) (hookId : ℤ)
    (cursor : Option Str) (respond : (c : Call) → c.Answer) :
    AnswersUpstream ((listRepositoryWebhookDeliveries limit owner repository hookId cursor).run
        respond).2 ↔
      isScalar owner = true ∧ isScalar repository = true ∧
        ∀ path, repositoryDeliveriesPath owner repository hookId = .ok path →
          AnswerContained limit (respond (.httpGet path repositoryDeliveriesPerPage cursor)) := by
  rw [← and_assoc, ← @repositoryDeliveriesPath_isOk owner repository hookId, answersUpstream_iff]
  cases written : repositoryDeliveriesPath owner repository hookId with
  | error e =>
      rw [listRepositoryWebhookDeliveries, written]
      constructor
      · exact fun raises => absurd (raises _ rfl) (not_isUpstreamError_python e)
      · rintro ⟨⟨_, same⟩, -⟩
        cases same
  | ok path =>
      rw [listRepositoryWebhookDeliveries, written, uncaught_ok, Program.ofExcept_ok,
        Program.ret_bind, invoke_bind, Program.run_call]
      have run : ∀ answer, ((Program.ofExcept (listingOutcome limit path answer) :
          Action GitHubDeliveryPage).run respond).2 = listingOutcome limit path answer := by
        intro answer
        cases listingOutcome limit path answer <;> rfl
      dsimp only
      rw [run, listingOutcome_raises_iff]
      constructor
      · rintro contained
        refine ⟨⟨path, rfl⟩, ?_⟩
        intro path' same
        cases same
        exact contained
      · rintro ⟨-, contained⟩
        exact contained path rfl

/-- A 200 with an empty list and a link header. -/
def emptyPageWith (link : HeaderText) : HttpResponse where
  statusCode := 200
  link := some link
  retryAfter := none
  xRatelimitRemaining := none
  content := [0x5B, 0x5D]

/-- A next link whose host has an unbalanced bracket. -/
def unbalancedLink : HeaderText := ⟨"<https://[api.github.com/>; rel=\"next\"", by decide⟩

/-- `ValueError` leaves the client. -/
theorem unbalancedLink_escapes :
    ¬∀ respond : (c : Call) → c.Answer, AnswersUpstream
      ((listRepositoryWebhookDeliveries sampleLimit "o" "r" 1 none).run respond).2 := by
  intro answers
  have escaped : listingOutcome sampleLimit "/repos/o/r/hooks/1/deliveries"
      (.ok (emptyPageWith unbalancedLink)) = .error (.python .valueError) := by decide +kernel
  have answered := answers fun
    | .httpGet .. => .ok (emptyPageWith unbalancedLink)
    | .now => 0
    | .uuid4 => 0
    | .httpPost _ => .error .other
    | .appendLeft _ => ()
    | .finalizeEntry _ => .error .httpClient
    | .insert _ => .error .sqlAlchemyError
    | .updateInitiated .. => .error .sqlAlchemyError
    | .selectState _ => .error .sqlAlchemyError
  rcases answered with ⟨page, returned⟩ | ⟨e, raised, upstream⟩
  · cases escaped.symm.trans returned
  · cases escaped.symm.trans raised
    exact not_isUpstreamError_python _ upstream

end WebhookMonitor
