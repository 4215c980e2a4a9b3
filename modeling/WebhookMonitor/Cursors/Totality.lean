import WebhookMonitor.Api.Answers
import WebhookMonitor.Api.DeliveryAttempts
import WebhookMonitor.Services.GitHubReconciliation

/-!
# What a cursor can raise

A cursor is a query parameter, so any text can arrive as one.  The three decoders
turn six exception classes into their own error; three others are raised inside
the `try` block and pass through it:

* `RecursionError` — the cursor is base64 of JSON nested beyond the limit;
* `AttributeError` — the identifier is neither text nor null;
* `OverflowError` — the instant of the timestamp is outside the years 1 to 9999.

`KeysetCursorContained` and `ReconciliationCursorContained` say that a cursor meets
none of them, and `decoders_answer_iff` that nothing else escapes.
-/

namespace WebhookMonitor

open Python

/-! ## What a cursor carries -/

/-- The bytes a text is URL-safe base64 of, without its padding. -/
def CursorBytes (cursor : Str) (bytes : Bytes) : Prop :=
  ∃ padded, encodeAscii (restorePadding cursor) = some padded ∧
    urlsafeB64decode padded = some bytes

/-- The JSON in a cursor is nested beyond the recursion limit. -/
def TooDeep (limit : RecursionLimit) (cursor : Str) : Prop :=
  ∃ bytes, CursorBytes cursor bytes ∧ loadsBytes limit bytes = .error .recursionError

/-- The JSON in a cursor is an object of the expected version. -/
def HasPayload (limit : RecursionLimit) (version : ℤ) (cursor : Str) (payload : Members) : Prop :=
  ∃ bytes, CursorBytes cursor bytes ∧ loadsBytes limit bytes = .ok (.dict payload) ∧
    (Members.get payload "v").eqInt version = true

section Payload

variable {limit : RecursionLimit} {version : ℤ} {cursor : Str}

theorem cursorPayload_eq_ok {payload : Members} :
    cursorPayload limit version cursor = .ok payload ↔ HasPayload limit version cursor payload := by
  constructor
  · intro read
    obtain ⟨padded, encoded, read⟩ := bind_eq_ok.mp read
    obtain ⟨bytes, decoded, read⟩ := bind_eq_ok.mp read
    obtain ⟨value, loaded, read⟩ := bind_eq_ok.mp read
    refine ⟨bytes, ⟨padded, orRaise_eq_ok.mp encoded, orRaise_eq_ok.mp decoded⟩, ?_⟩
    cases value with
    | dict members =>
        dsimp only at read
        split_ifs at read with versioned
        cases read
        exact ⟨loaded, versioned⟩
    | _ => cases read
  · rintro ⟨bytes, ⟨padded, encoded, decoded⟩, loaded, versioned⟩
    refine bind_eq_ok.mpr ⟨padded, orRaise_eq_ok.mpr encoded, bind_eq_ok.mpr ⟨bytes,
      orRaise_eq_ok.mpr decoded, bind_eq_ok.mpr ⟨_, loaded, ?_⟩⟩⟩
    exact if_pos versioned

theorem cursorPayload_of_tooDeep (deep : TooDeep limit cursor) :
    cursorPayload limit version cursor = .error .recursionError := by
  obtain ⟨bytes, ⟨padded, encoded, decoded⟩, loaded⟩ := deep
  refine bind_eq_error.mpr (.inr ⟨padded, orRaise_eq_ok.mpr encoded, bind_eq_error.mpr (.inr
    ⟨bytes, orRaise_eq_ok.mpr decoded, bind_eq_error.mpr (.inl loaded)⟩)⟩)

/-- Apart from the recursion limit, reading the payload raises what the decoders handle. -/
theorem cursorPayload_raises (shallow : ¬TooDeep limit cursor) :
    RaisesOnly (fun e => isCursorFault e = true) (cursorPayload limit version cursor) := by
  rw [cursorPayload]
  refine RaisesOnly.bind (.orRaise rfl) fun padded encoded => ?_
  refine RaisesOnly.bind (.orRaise rfl) fun bytes decoded => ?_
  have carried : CursorBytes cursor bytes :=
    ⟨padded, orRaise_eq_ok.mp encoded, orRaise_eq_ok.mp decoded⟩
  refine RaisesOnly.bind ?_ fun value _ => ?_
  · intro e raised
    rcases loadsBytes_raises limit bytes e raised with value | rfl
    · simp [isCursorFault, value]
    · exact absurd ⟨bytes, carried, raised⟩ shallow
  · cases value with
    | dict payload => exact .ite (fun _ => .ok) fun _ => .error rfl
    | _ => exact .error rfl

end Payload

theorem requireMember_eq_ok {payload : Members} {key : Str} {value : Json} :
    requireMember payload key = .ok value ↔ Members.lookup payload key = some value :=
  orRaise_eq_ok

theorem UUID.ofJson_raises {value : Json} (readable : IsTextOrNull value) :
    RaisesOnly (fun e => isCursorFault e = true) (UUID.ofJson value) := by
  rcases readable with rfl | ⟨s, rfl⟩
  · exact .error rfl
  · rw [UUID.ofJson]
    exact .orRaise rfl

theorem UUID.ofJson_of_not_readable {value : Json} (unreadable : ¬IsTextOrNull value) :
    UUID.ofJson value = .error .attributeError := by
  cases value with
  | null => exact absurd (.inl rfl) unreadable
  | str s => exact absurd (.inr ⟨s, rfl⟩) unreadable
  | _ => rfl

/-! ## Cursors of the listings -/

/-- The timestamp in a payload. -/
def CursorFormat.Timestamped (format : CursorFormat) (payload : Members) (timestamp : Datetime) :
    Prop :=
  ∃ text, Members.lookup payload format.timeKey = some (.str text) ∧
    fromisoformat text = some timestamp

/-- No exception of the `try` block passes it by. -/
structure KeysetCursorContained (format : CursorFormat) (limit : RecursionLimit) (cursor : Str) :
    Prop where
  shallow : ¬TooDeep limit cursor
  identifier : ∀ payload timestamp value, HasPayload limit format.version cursor payload →
    format.Timestamped payload timestamp → Members.lookup payload format.idKey = some value →
    IsTextOrNull value
  inRange : ∀ payload timestamp text id aware, HasPayload limit format.version cursor payload →
    format.Timestamped payload timestamp →
    Members.lookup payload format.idKey = some (.str text) → UUID.parse text = some id →
    timestamp.aware? = some aware → aware.astimezoneUtc.isSome = true

namespace CursorFormat

variable {format : CursorFormat} {limit : RecursionLimit} {cursor : Str}

theorem timestamped_iff {payload : Members} {timestamp : Datetime} :
    format.Timestamped payload timestamp ↔
      ∃ value, requireMember payload format.timeKey = .ok value ∧
        datetimeOfJson value = .ok timestamp := by
  constructor
  · rintro ⟨text, found, parsed⟩
    exact ⟨.str text, requireMember_eq_ok.mpr found, orRaise_eq_ok.mpr parsed⟩
  · rintro ⟨value, found, parsed⟩
    cases value with
    | str text => exact ⟨text, requireMember_eq_ok.mp found, orRaise_eq_ok.mp parsed⟩
    | _ => cases parsed

theorem datetimeOfJson_raises (value : Json) :
    RaisesOnly (fun e => isCursorFault e = true) (datetimeOfJson value) := by
  cases value with
  | str s =>
      rw [datetimeOfJson]
      exact .orRaise rfl
  | _ => exact .error rfl

/-- What follows the timestamp, when there is one. -/
theorem readKeysetCursor_of_timestamped {payload : Members} {timestamp : Datetime}
    (payloaded : HasPayload limit format.version cursor payload)
    (timestamped : format.Timestamped payload timestamp) :
    format.readKeysetCursor limit cursor = (do
      let member ← requireMember payload format.idKey
      let id ← UUID.ofJson member
      let aware ← orRaise .valueError timestamp.aware?
      let utc ← orRaise .overflowError aware.astimezoneUtc
      return (utc, id)) := by
  obtain ⟨value, found, parsed⟩ := timestamped_iff.mp timestamped
  rw [readKeysetCursor, cursorPayload_eq_ok.mpr payloaded, ok_bind, found, ok_bind, parsed, ok_bind]

theorem readKeysetCursor_raises (contained : KeysetCursorContained format limit cursor) :
    RaisesOnly (fun e => isCursorFault e = true) (format.readKeysetCursor limit cursor) := by
  rw [readKeysetCursor]
  refine (cursorPayload_raises contained.shallow).bind fun payload payloaded => ?_
  rw [cursorPayload_eq_ok] at payloaded
  refine RaisesOnly.bind (.orRaise rfl) fun value found => ?_
  refine (datetimeOfJson_raises value).bind fun timestamp parsed => ?_
  have timestamped := timestamped_iff.mpr ⟨value, found, parsed⟩
  refine RaisesOnly.bind (.orRaise rfl) fun member identified => ?_
  rw [requireMember_eq_ok] at identified
  have readable := contained.identifier payload timestamp member payloaded timestamped identified
  refine (UUID.ofJson_raises readable).bind fun id read => ?_
  refine RaisesOnly.bind (.orRaise rfl) fun aware zoned => ?_
  rw [orRaise_eq_ok] at zoned
  rcases readable with rfl | ⟨text, rfl⟩
  · cases read
  · obtain ⟨utc, converted⟩ := Option.isSome_iff_exists.mp (contained.inRange payload timestamp text
      id aware payloaded timestamped identified (orRaise_eq_ok.mp read) zoned)
    rw [converted]
    exact .ok

theorem contained_of_raises (raises : RaisesOnly (fun e => isCursorFault e = true)
    (format.readKeysetCursor limit cursor)) : KeysetCursorContained format limit cursor where
  shallow := by
    intro deep
    have escaped : format.readKeysetCursor limit cursor = .error .recursionError :=
      bind_eq_error.mpr (.inl (cursorPayload_of_tooDeep deep))
    exact absurd (raises _ escaped) (by decide)
  identifier := by
    intro payload timestamp value payloaded timestamped identified
    by_contra unreadable
    have escaped : format.readKeysetCursor limit cursor = .error .attributeError := by
      rw [readKeysetCursor_of_timestamped payloaded timestamped, requireMember_eq_ok.mpr identified,
        ok_bind, UUID.ofJson_of_not_readable unreadable]
      rfl
    exact absurd (raises _ escaped) (by decide)
  inRange := by
    intro payload timestamp text id aware payloaded timestamped identified read zoned
    by_contra outside
    have escaped : format.readKeysetCursor limit cursor = .error .overflowError := by
      rw [readKeysetCursor_of_timestamped payloaded timestamped, requireMember_eq_ok.mpr identified,
        ok_bind, UUID.ofJson, read, orRaise_some, ok_bind, zoned, orRaise_some, ok_bind,
        Option.not_isSome_iff_eq_none.mp outside]
      rfl
    exact absurd (raises _ escaped) (by decide)

/-- A decoded timestamp is in UTC. -/
theorem offset_of_readKeysetCursor {keyset : AwareDatetime × UUID}
    (read : format.readKeysetCursor limit cursor = .ok keyset) : keyset.1.offset = Offset.utc := by
  obtain ⟨_, _, read⟩ := bind_eq_ok.mp read
  obtain ⟨_, _, read⟩ := bind_eq_ok.mp read
  obtain ⟨_, _, read⟩ := bind_eq_ok.mp read
  obtain ⟨_, _, read⟩ := bind_eq_ok.mp read
  obtain ⟨_, _, read⟩ := bind_eq_ok.mp read
  obtain ⟨_, _, read⟩ := bind_eq_ok.mp read
  obtain ⟨utc, converted, read⟩ := bind_eq_ok.mp read
  cases read
  rw [(eq_utc_of_astimezoneUtc (orRaise_eq_ok.mp converted)).1]
  rfl

end CursorFormat

/-! ## Cursors of the reconciliation -/

/-- No exception of the `try` block passes it by. -/
structure ReconciliationCursorContained (limit : RecursionLimit) (cursor : Str) : Prop where
  shallow : ¬TooDeep limit cursor
  identifier : ∀ payload value, HasPayload limit reconciliationCursorVersion cursor payload →
    Members.lookup payload "attempt_id" = some value → IsTextOrNull value

section Reconciliation

variable {limit : RecursionLimit} {cursor : Str} {attemptId : UUID}

theorem readReconciliationCursor_raises (contained : ReconciliationCursorContained limit cursor) :
    RaisesOnly (fun e => isCursorFault e = true)
      (readReconciliationCursor limit cursor attemptId) := by
  rw [readReconciliationCursor]
  refine (cursorPayload_raises contained.shallow).bind fun payload payloaded => ?_
  rw [cursorPayload_eq_ok] at payloaded
  refine RaisesOnly.bind (.orRaise rfl) fun member identified => ?_
  rw [requireMember_eq_ok] at identified
  have readable := contained.identifier payload member payloaded identified
  refine (UUID.ofJson_raises readable).bind fun id _ => ?_
  refine RaisesOnly.bind (.orRaise rfl) fun upstream _ => ?_
  cases upstream.str? with
  | none => exact .error rfl
  | some upstreamCursor => exact .ite (fun _ => .error rfl) fun _ => .ok

theorem reconciliationCursorContained_of_raises (raises : RaisesOnly
    (fun e => isCursorFault e = true) (readReconciliationCursor limit cursor attemptId)) :
    ReconciliationCursorContained limit cursor where
  shallow := by
    intro deep
    have escaped : readReconciliationCursor limit cursor attemptId = .error .recursionError :=
      bind_eq_error.mpr (.inl (cursorPayload_of_tooDeep deep))
    exact absurd (raises _ escaped) (by decide)
  identifier := by
    intro payload value payloaded identified
    by_contra unreadable
    have escaped : readReconciliationCursor limit cursor attemptId = .error .attributeError := by
      rw [readReconciliationCursor, cursorPayload_eq_ok.mpr payloaded, ok_bind,
        requireMember_eq_ok.mpr identified, ok_bind, UUID.ofJson_of_not_readable unreadable]
      rfl
    exact absurd (raises _ escaped) (by decide)

/-- A decoded upstream cursor is not empty. -/
theorem ne_nil_of_readReconciliationCursor {upstream : Str}
    (read : readReconciliationCursor limit cursor attemptId = .ok upstream) : upstream ≠ [] := by
  obtain ⟨_, _, read⟩ := bind_eq_ok.mp read
  obtain ⟨_, _, read⟩ := bind_eq_ok.mp read
  obtain ⟨_, _, read⟩ := bind_eq_ok.mp read
  obtain ⟨value, _, read⟩ := bind_eq_ok.mp read
  cases text : value.str? with
  | none =>
      rw [text] at read
      cases read
  | some found =>
      rw [text] at read
      dsimp only at read
      split_ifs at read with refused
      cases read
      exact fun empty => refused (.inr empty)

end Reconciliation

/-! ## The answers -/

/-- The decoder returns a well-formed result, or raises its own error, which the
route answers with 400. -/
def AnswersCursor {α : Type} (answer : AppError → AppError) (own : AppError)
    (WellFormed : α → Prop) (outcome : Except AppError α) : Prop :=
  (∃ a, outcome = .ok a ∧ WellFormed a) ∨
    (outcome = .error own ∧ ∃ detail, answer own = .httpException 400 detail)

/-- The `except` clause around a `try` block, seen from outside: the decoder answers
when the block raises what the clause names. -/
theorem answersCursor_iff {α β : Type} {answer : AppError → AppError} {own : AppError}
    {WellFormed : β → Prop} {outcome : Except AppError β} (read : Except BuiltinError α)
    (answered : ∃ detail, answer own = .httpException 400 detail)
    (foreign : ∀ e, own ≠ .python e)
    (returns : ∀ a, read = .ok a → ∃ b, outcome = .ok b ∧ WellFormed b)
    (handles : ∀ e, read = .error e → isCursorFault e = true → outcome = .error own)
    (escapes : ∀ e, read = .error e → isCursorFault e = false → outcome = .error (.python e)) :
    AnswersCursor answer own WellFormed outcome ↔
      RaisesOnly (fun e => isCursorFault e = true) read := by
  cases hread : read with
  | ok a => exact ⟨fun _ => .ok, fun _ => .inl (returns a hread)⟩
  | error e =>
      cases fault : isCursorFault e with
      | true => exact ⟨fun _ => .error fault, fun _ => .inr ⟨handles e hread fault, answered⟩⟩
      | false =>
          have escaped := escapes e hread fault
          constructor
          · rintro (⟨b, returned, -⟩ | ⟨raised, -⟩)
            · rw [escaped] at returned
              cases returned
            · rw [escaped] at raised
              exact absurd (Except.error.inj raised).symm (foreign e)
          · intro raises
            rw [raises e rfl] at fault
            cases fault

theorem CursorFormat.raises_iff {format : CursorFormat} {limit : RecursionLimit} {cursor : Str} :
    RaisesOnly (fun e => isCursorFault e = true) (format.readKeysetCursor limit cursor) ↔
      KeysetCursorContained format limit cursor :=
  ⟨contained_of_raises, readKeysetCursor_raises⟩

/-- A listing's decoder, with its result put into a record. -/
theorem KeysetListing.answersCursor_iff {α β : Type} {listing : KeysetListing α}
    {limit : RecursionLimit} {cursor : Str} {answer : AppError → AppError}
    {wrap : AwareDatetime × UUID → β} {timestamp : β → AwareDatetime}
    (answered : ∃ detail, answer listing.invalidCursor = .httpException 400 detail)
    (foreign : ∀ e, listing.invalidCursor ≠ .python e)
    (wrapped : ∀ k, timestamp (wrap k) = k.1) :
    AnswersCursor answer listing.invalidCursor (fun b => (timestamp b).offset = Offset.utc)
        ((listing.decodeCursor limit cursor).map wrap) ↔
      KeysetCursorContained listing.format limit cursor := by
  refine Iff.trans (WebhookMonitor.answersCursor_iff _ answered foreign ?_ ?_ ?_)
    CursorFormat.raises_iff
  · intro keyset read
    refine ⟨wrap keyset, ?_, ?_⟩
    · rw [decodeCursor, read]
      rfl
    · rw [wrapped]
      exact CursorFormat.offset_of_readKeysetCursor read
  · intro e read fault
    rw [decodeCursor, read]
    dsimp only
    rw [if_pos fault]
    rfl
  · intro e read fault
    rw [decodeCursor, read]
    dsimp only
    rw [if_neg (by simp [fault])]
    rfl

/-- Each decoder answers every text that stays clear of the three exceptions its
`except` clause does not name, and no other. -/
theorem decoders_answer_iff (limit : RecursionLimit) (cursor : Str) (attemptId : UUID) :
    (AnswersCursor deliveryAttemptsAnswer
        (.invalidDeliveryAttemptsCursor "Invalid or expired cursor")
        (fun keyset => keyset.receivedAt.offset = Offset.utc)
        (decodeDeliveryAttemptsCursor limit cursor) ↔
      KeysetCursorContained deliveryAttemptsCursorFormat limit cursor) ∧
    (AnswersCursor recoveryActionsAnswer
        (.invalidRecoveryActionsCursor "Invalid or expired cursor")
        (fun keyset => keyset.requestedAt.offset = Offset.utc)
        (decodeRecoveryActionsCursor limit cursor) ↔
      KeysetCursorContained recoveryActionsCursorFormat limit cursor) ∧
    (AnswersCursor reconciliationAnswer
        (.invalidGitHubReconciliationCursor "Invalid or expired reconciliation cursor")
        (fun upstreamCursor => upstreamCursor ≠ [])
        (decodeReconciliationCursor limit cursor attemptId) ↔
      ReconciliationCursorContained limit cursor) := by
  refine ⟨?_, ?_, ?_⟩
  · exact deliveryAttemptsListing.answersCursor_iff ⟨_, rfl⟩ nofun fun _ => rfl
  · exact recoveryActionsListing.answersCursor_iff ⟨_, rfl⟩ nofun fun _ => rfl
  · refine Iff.trans (answersCursor_iff (readReconciliationCursor limit cursor attemptId)
      ⟨_, rfl⟩ nofun ?_ ?_ ?_)
      ⟨reconciliationCursorContained_of_raises, readReconciliationCursor_raises⟩
    · intro upstream read
      refine ⟨upstream, ?_, ne_nil_of_readReconciliationCursor read⟩
      rw [decodeReconciliationCursor, read]
    · intro e read fault
      rw [decodeReconciliationCursor, read]
      exact if_pos fault
    · intro e read fault
      rw [decodeReconciliationCursor, read]
      exact if_neg (by simp [fault])

theorem not_answersCursor {α : Type} {answer : AppError → AppError} {own : AppError}
    {WellFormed : α → Prop} {outcome : Except AppError α} {e : BuiltinError}
    (escaped : outcome = .error (.python e)) (foreign : own ≠ .python e) :
    ¬AnswersCursor answer own WellFormed outcome := by
  rintro (⟨a, returned, -⟩ | ⟨raised, -⟩)
  · rw [escaped] at returned
    cases returned
  · rw [escaped] at raised
    exact foreign (Except.error.inj raised).symm

/-- A delivery-attempts cursor whose `attempt_id` is the number 7. -/
def numericIdCursor : Str :=
  "eyJhdHRlbXB0X2lkIjo3LCJyZWNlaXZlZF9hdCI6IjIwMjYtMDEtMDFUMDA6MDA6MDArMDA6MDAiLCJ2IjoxfQ"

/-- A delivery-attempts cursor whose timestamp is `0001-01-01T00:00:00+01:00`. -/
def earlyCursor : Str :=
  "eyJhdHRlbXB0X2lkIjoiMDAwMDAwMDAtMDAwMC0wMDAwLTAwMDAtMDAwMDAwMDAwMDA3IiwicmVjZWl2ZWRfYXQiOiIw" ++
    "MDAxLTAxLTAxVDAwOjAwOjAwKzAxOjAwIiwidiI6MX0"

/-- `AttributeError` and `OverflowError` leave the decoder. -/
theorem escaping_cursors :
    ¬AnswersCursor deliveryAttemptsAnswer
        (.invalidDeliveryAttemptsCursor "Invalid or expired cursor")
        (fun keyset => keyset.receivedAt.offset = Offset.utc)
        (decodeDeliveryAttemptsCursor sampleLimit numericIdCursor) ∧
      ¬AnswersCursor deliveryAttemptsAnswer
        (.invalidDeliveryAttemptsCursor "Invalid or expired cursor")
        (fun keyset => keyset.receivedAt.offset = Offset.utc)
        (decodeDeliveryAttemptsCursor sampleLimit earlyCursor) := by
  have numeric : deliveryAttemptsListing.decodeCursor sampleLimit numericIdCursor =
      .error (.python .attributeError) := by decide +kernel
  have early : deliveryAttemptsListing.decodeCursor sampleLimit earlyCursor =
      .error (.python .overflowError) := by decide +kernel
  constructor
  · rw [decodeDeliveryAttemptsCursor, numeric]
    exact not_answersCursor rfl nofun
  · rw [decodeDeliveryAttemptsCursor, early]
    exact not_answersCursor rfl nofun

end WebhookMonitor
