import WebhookMonitor.Services.GitHubReconciliation
import WebhookMonitor.Services.Queries

/-!
# What a cursor says

The cursor of an entry decodes to the entry's place in its listing: the instant of
its timestamp, read on the UTC clock, and its identifier.  So the cursor says that
place and nothing else (`pageCursors_faithful`).

A continuation cursor decodes to the upstream cursor it was made from, and only
under the identifier it carries, whoever wrote it (`continuationCursors_bound`).
-/

namespace WebhookMonitor

open Python Interaction

/-! ## Cursors of the listings -/

/-- The form in UTC is the reading of the UTC clock at the same instant. -/
theorem astimezoneUtc_of_instant {timestamp : AwareDatetime} {wall : Wall}
    (instant : timestamp.instant = wall.val) :
    timestamp.astimezoneUtc = some (AwareDatetime.utc wall) := by
  rw [← CursorFormat.astimezoneUtc_utc wall]
  apply AwareDatetime.astimezoneUtc_congr
  rw [instant, CursorFormat.instant_utc]

namespace KeysetListing

variable {α : Type} {listing : KeysetListing α}

/-- The cursor of an entry can be written, and decodes to its place. -/
theorem decodeCursor_encodeCursor (limit : RecursionLimit) {a : α} {wall : Wall}
    (instant : (listing.timestamp a).instant = wall.val) :
    ∃ cursor, listing.encodeCursor a = .ok cursor ∧
      listing.decodeCursor limit cursor = .ok (AwareDatetime.utc wall, listing.id a) := by
  have converted := astimezoneUtc_of_instant instant
  obtain ⟨cursor, encoded, -⟩ :=
    @CursorFormat.encodeKeysetCursor_isOk listing.format _ _ (listing.id a) converted
  obtain ⟨utc, converted', read⟩ :=
    @CursorFormat.readKeysetCursor_encode listing.format limit _ _ _ encoded
  obtain rfl : AwareDatetime.utc wall = utc := by
    rw [converted] at converted'
    exact Option.some.inj converted'
  refine ⟨cursor, ?_, ?_⟩
  · rw [encodeCursor, encoded]
    rfl
  · rw [decodeCursor, read]

/-- Two entries have the same cursor exactly when they have the same place. -/
theorem encodeCursor_eq_iff {a b : α} {wall wall' : Wall}
    (instant : (listing.timestamp a).instant = wall.val)
    (instant' : (listing.timestamp b).instant = wall'.val) :
    listing.encodeCursor a = listing.encodeCursor b ↔
      (listing.timestamp a).instant = (listing.timestamp b).instant ∧
        listing.id a = listing.id b := by
  constructor
  · intro same
    obtain ⟨cursor, encoded, decoded⟩ := listing.decodeCursor_encodeCursor sampleLimit instant
    obtain ⟨cursor', encoded', decoded'⟩ := listing.decodeCursor_encodeCursor sampleLimit instant'
    obtain rfl : cursor = cursor' := by
      rw [same, encoded'] at encoded
      exact (Except.ok.inj encoded).symm
    rw [decoded] at decoded'
    obtain ⟨place, id⟩ := Prod.mk.inj (Except.ok.inj decoded')
    refine ⟨?_, id⟩
    rw [instant, instant', ← CursorFormat.instant_utc wall, place, CursorFormat.instant_utc]
  · rintro ⟨place, id⟩
    apply encodeCursor_congr
    rw [key, key, place, id]

end KeysetListing

/-- The two decoders undo the two encoders, on every entry whose timestamp has a
reading on the UTC clock; so a cursor identifies an instant and an identifier. -/
theorem pageCursors_faithful (limit : RecursionLimit) :
    (∀ (attempt : DeliveryAttempt) (wall : Wall), attempt.receivedAt.instant = wall.val →
      ∃ cursor, encodeDeliveryAttemptsCursor attempt = .ok cursor ∧
        decodeDeliveryAttemptsCursor limit cursor =
          .ok ⟨AwareDatetime.utc wall, attempt.attemptId⟩) ∧
    (∀ (action : RecoveryAction) (wall : Wall), action.requestedAt.instant = wall.val →
      ∃ cursor, encodeRecoveryActionsCursor action = .ok cursor ∧
        decodeRecoveryActionsCursor limit cursor =
          .ok ⟨AwareDatetime.utc wall, action.actionId⟩) ∧
    (∀ (a b : DeliveryAttempt) (wall wall' : Wall), a.receivedAt.instant = wall.val →
      b.receivedAt.instant = wall'.val →
      (encodeDeliveryAttemptsCursor a = encodeDeliveryAttemptsCursor b ↔
        a.receivedAt.instant = b.receivedAt.instant ∧ a.attemptId = b.attemptId)) ∧
    (∀ (a b : RecoveryAction) (wall wall' : Wall), a.requestedAt.instant = wall.val →
      b.requestedAt.instant = wall'.val →
      (encodeRecoveryActionsCursor a = encodeRecoveryActionsCursor b ↔
        a.requestedAt.instant = b.requestedAt.instant ∧ a.actionId = b.actionId)) ∧
    ∀ bytes : Bytes, restorePadding (stripPadding (urlsafeB64encode bytes)) =
      urlsafeB64encode bytes := by
  refine ⟨?_, ?_, ?_, ?_, restorePadding_stripPadding⟩
  · intro attempt wall instant
    obtain ⟨cursor, encoded, decoded⟩ :=
      deliveryAttemptsListing.decodeCursor_encodeCursor limit instant
    refine ⟨cursor, encoded, ?_⟩
    rw [decodeDeliveryAttemptsCursor, decoded]
    rfl
  · intro action wall instant
    obtain ⟨cursor, encoded, decoded⟩ :=
      recoveryActionsListing.decodeCursor_encodeCursor limit instant
    refine ⟨cursor, encoded, ?_⟩
    rw [decodeRecoveryActionsCursor, decoded]
    rfl
  · intro a b wall wall' instant instant'
    exact deliveryAttemptsListing.encodeCursor_eq_iff instant instant'
  · intro a b wall wall' instant instant'
    exact recoveryActionsListing.encodeCursor_eq_iff instant instant'

/-- The cursor of the sample attempt. -/
theorem pageCursors_faithful_sample :
    sampleAttempt.receivedAt.instant = sampleAttempt.receivedAt.wall.val ∧
      ∃ cursor, encodeDeliveryAttemptsCursor sampleAttempt = .ok cursor ∧
        decodeDeliveryAttemptsCursor sampleLimit cursor =
          .ok ⟨AwareDatetime.utc sampleAttempt.receivedAt.wall, sampleAttempt.attemptId⟩ :=
  ⟨by decide, (pageCursors_faithful sampleLimit).1 sampleAttempt _ (by decide)⟩

/-! ## Continuation cursors -/

/-- What a continuation cursor must carry to decode. -/
theorem readReconciliationCursor_eq_ok {limit : RecursionLimit} {cursor upstream : Str}
    {attemptId : UUID} :
    readReconciliationCursor limit cursor attemptId = .ok upstream ↔
      ∃ payload member value, cursorPayload limit reconciliationCursorVersion cursor = .ok payload ∧
        requireMember payload "attempt_id" = .ok member ∧ UUID.ofJson member = .ok attemptId ∧
        requireMember payload "github_cursor" = .ok value ∧ value.str? = some upstream ∧
        upstream ≠ [] := by
  constructor
  · intro read
    obtain ⟨payload, payloaded, read⟩ := bind_eq_ok.mp read
    obtain ⟨member, identified, read⟩ := bind_eq_ok.mp read
    obtain ⟨id, parsed, read⟩ := bind_eq_ok.mp read
    obtain ⟨value, carried, read⟩ := bind_eq_ok.mp read
    cases text : value.str? with
    | none =>
        rw [text] at read
        cases read
    | some found =>
        rw [text] at read
        dsimp only at read
        split_ifs at read with refused
        cases read
        obtain ⟨same, nonempty⟩ := not_or.mp refused
        rw [not_not.mp same] at parsed
        exact ⟨payload, member, value, payloaded, identified, parsed, carried, text, nonempty⟩
  · rintro ⟨payload, member, value, payloaded, identified, parsed, carried, text, nonempty⟩
    rw [readReconciliationCursor, payloaded, ok_bind, identified, ok_bind, parsed, ok_bind, carried,
      ok_bind, text]
    exact if_neg (not_or.mpr ⟨not_not.mpr rfl, nonempty⟩)

section Binding

variable {limit : RecursionLimit} {cursor upstream upstream' : Str} {attemptId attemptId' : UUID}

theorem decodeReconciliationCursor_eq_ok :
    decodeReconciliationCursor limit cursor attemptId = .ok upstream ↔
      readReconciliationCursor limit cursor attemptId = .ok upstream := by
  rw [decodeReconciliationCursor]
  cases readReconciliationCursor limit cursor attemptId with
  | ok found =>
      dsimp only
      rw [Except.ok.injEq, Except.ok.injEq]
  | error e =>
      dsimp only
      split_ifs
      · constructor <;> intro returned <;> cases returned
      · constructor <;> intro returned <;> cases returned

/-- A text decodes under one identifier at most, and to one upstream cursor. -/
theorem decodeReconciliationCursor_unique
    (decoded : decodeReconciliationCursor limit cursor attemptId = .ok upstream)
    (decoded' : decodeReconciliationCursor limit cursor attemptId' = .ok upstream') :
    attemptId = attemptId' ∧ upstream = upstream' := by
  obtain ⟨payload, member, value, payloaded, identified, parsed, carried, text, -⟩ :=
    readReconciliationCursor_eq_ok.mp (decodeReconciliationCursor_eq_ok.mp decoded)
  obtain ⟨payload', member', value', payloaded', identified', parsed', carried', text', -⟩ :=
    readReconciliationCursor_eq_ok.mp (decodeReconciliationCursor_eq_ok.mp decoded')
  obtain rfl : payload = payload' := Except.ok.inj (payloaded.symm.trans payloaded')
  obtain rfl : member = member' := Except.ok.inj (identified.symm.trans identified')
  obtain rfl : value = value' := Except.ok.inj (carried.symm.trans carried')
  exact ⟨Except.ok.inj (parsed.symm.trans parsed'), Option.some.inj (text.symm.trans text')⟩

/-- Under any other identifier it is refused. -/
theorem decodeReconciliationCursor_of_other
    (decoded : decodeReconciliationCursor limit cursor attemptId = .ok upstream)
    (other : attemptId' ≠ attemptId) :
    decodeReconciliationCursor limit cursor attemptId' =
      .error (.invalidGitHubReconciliationCursor "Invalid or expired reconciliation cursor") := by
  obtain ⟨payload, member, value, payloaded, identified, parsed, carried, text, -⟩ :=
    readReconciliationCursor_eq_ok.mp (decodeReconciliationCursor_eq_ok.mp decoded)
  have refused : readReconciliationCursor limit cursor attemptId' = .error .valueError := by
    rw [readReconciliationCursor, payloaded, ok_bind, identified, ok_bind, parsed, ok_bind, carried,
      ok_bind, text]
    exact if_pos (.inl (Ne.symm other))
  rw [decodeReconciliationCursor, refused]
  rfl

end Binding

/-- A reconciliation with the cursor of another attempt raises before its first call:
the cursor error, unless the service is off or the attempt has no target. -/
theorem GitHubReconciliationService.reconcile_of_other (service : GitHubReconciliationService)
    {attempt : DeliveryAttempt} {cursor upstream : Str} {attemptId : UUID}
    (decoded : decodeReconciliationCursor service.limit cursor attemptId = .ok upstream)
    (other : attempt.attemptId ≠ attemptId) :
    ∃ e, service.reconcile attempt (some cursor) = .raise e ∧
      (e = .invalidGitHubReconciliationCursor "Invalid or expired reconciliation cursor" ∨
        (e = .gitHubReconciliationDisabled ∧
          (service.enabled = false ∨ service.hasGithubClient = false)) ∨
        repositoryCoordinates attempt = .error e) := by
  unfold reconcile
  by_cases off : (!service.enabled || !service.hasGithubClient) = true
  · refine ⟨.gitHubReconciliationDisabled, if_pos off, .inr (.inl ⟨rfl, ?_⟩)⟩
    simpa using off
  · rw [if_neg off]
    cases target : repositoryCoordinates attempt with
    | error e => exact ⟨e, rfl, .inr (.inr rfl)⟩
    | ok coordinates =>
        have refused := decodeReconciliationCursor_of_other decoded other
        refine ⟨_, ?_, .inl rfl⟩
        rw [Program.ofExcept_ok, Program.ret_bind, resumeAt, refused]
        rfl

/-- A continuation cursor decodes to the upstream cursor it was made from; whatever
the text, it decodes under one attempt at most, and the service refuses it for every
other attempt before any call. -/
theorem continuationCursors_bound (limit : RecursionLimit) :
    (∀ (attemptId : UUID) (upstream : Str), isScalar upstream = true → upstream ≠ [] →
      ∃ cursor, encodeReconciliationCursor attemptId (some upstream) = .ok cursor ∧
        decodeReconciliationCursor limit cursor attemptId = .ok upstream) ∧
    (∀ (cursor upstream upstream' : Str) (attemptId attemptId' : UUID),
      decodeReconciliationCursor limit cursor attemptId = .ok upstream →
      decodeReconciliationCursor limit cursor attemptId' = .ok upstream' →
      attemptId = attemptId' ∧ upstream = upstream') ∧
    ∀ (service : GitHubReconciliationService) (attempt : DeliveryAttempt) (cursor upstream : Str)
      (attemptId : UUID), service.limit = limit →
      decodeReconciliationCursor limit cursor attemptId = .ok upstream →
      attempt.attemptId ≠ attemptId →
      ∃ e, service.reconcile attempt (some cursor) = .raise e ∧
        (e = .invalidGitHubReconciliationCursor "Invalid or expired reconciliation cursor" ∨
          (e = .gitHubReconciliationDisabled ∧
            (service.enabled = false ∨ service.hasGithubClient = false)) ∨
          repositoryCoordinates attempt = .error e) := by
  refine ⟨?_, ?_, ?_⟩
  · intro attemptId upstream scalar nonempty
    cases encoded : encodeReconciliationCursor attemptId (some upstream) with
    | error e => exact absurd encoded (encodeReconciliationCursor_ne_error _ _ e)
    | ok cursor =>
        exact ⟨cursor, rfl, decodeReconciliationCursor_encode scalar nonempty encoded⟩
  · intro cursor upstream upstream' attemptId attemptId' decoded decoded'
    exact decodeReconciliationCursor_unique decoded decoded'
  · rintro service attempt cursor upstream attemptId rfl decoded other
    exact service.reconcile_of_other decoded other

/-- A continuation cursor of attempt 1. -/
theorem continuationCursors_bound_sample :
    isScalar (Str.lit "v1_42") = true ∧
      ∃ cursor, encodeReconciliationCursor 1 (some "v1_42") = .ok cursor ∧
        decodeReconciliationCursor sampleLimit cursor 1 = .ok "v1_42" :=
  ⟨by decide, (continuationCursors_bound sampleLimit).1 1 "v1_42" (by decide) (by decide)⟩

end WebhookMonitor
