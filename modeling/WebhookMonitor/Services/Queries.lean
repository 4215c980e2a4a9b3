import WebhookMonitor.Services.KeysetCursor
import WebhookMonitor.Storage.RecoveryActions
import WebhookMonitor.Storage.Deliveries

/-!
# The two listings

`DeliveryQueryService.list_attempts` and `RecoveryActionQueryService.list_actions`:
ask the store for one entry more than the limit, hand out the limit, and make the
cursor of the last one handed out when there was more.  They are one definition,
`KeysetListing.listPage`, over the store's method, the names in the cursor and the
error of a bad one.
-/

namespace WebhookMonitor

open Python

/-- `DeliveryAttemptsPage` and `RecoveryActionsPage`. -/
structure KeysetPage (α : Type) where
  items : List α
  nextCursor : Option Str

/-- What tells the two services apart. -/
structure KeysetListing (α : Type) where
  format : CursorFormat
  invalidCursor : AppError
  timestamp : α → AwareDatetime
  id : α → UUID

namespace KeysetListing

variable {α : Type} (listing : KeysetListing α)

/-- The place of an entry in the listing. -/
def key (a : α) : ℤ ×ₗ UUID := toLex ((listing.timestamp a).instant, listing.id a)

def encodeCursor (a : α) : Except AppError Str :=
  uncaught (listing.format.encodeKeysetCursor (listing.timestamp a) (listing.id a))

def decodeCursor (limit : RecursionLimit) (cursor : Str) : Except AppError (AwareDatetime × UUID) :=
  match listing.format.readKeysetCursor limit cursor with
  | .ok keyset => .ok keyset
  | .error e => if isCursorFault e then .error listing.invalidCursor else .error (.python e)

/-- `decode(cursor) if cursor else None`. -/
def decodeOptional (limit : RecursionLimit) :
    Option Str → Except AppError (Option (AwareDatetime × UUID))
  | none | some [] => .ok none
  | some cursor => (listing.decodeCursor limit cursor).map some

/-- `encode(items[-1]) if len(found) > limit and items else None`. -/
def nextCursor (n : ℕ) (found : List α) : Except AppError (Option Str) :=
  match (found.take n).getLast? with
  | some last => if n < found.length then (listing.encodeCursor last).map some else .ok none
  | none => .ok none

/-- `list_attempts` and `list_actions`, over the method of the store. -/
def listPage (limit : RecursionLimit)
    (fetch : ℕ → Option (AwareDatetime × UUID) → Except AppError (List α)) (n : ℕ)
    (cursor : Option Str) : Except AppError (KeysetPage α) := do
  let after ← listing.decodeOptional limit cursor
  let found ← fetch (n + 1) after
  let nextCursor ← listing.nextCursor n found
  return ⟨found.take n, nextCursor⟩

end KeysetListing

/-! ## Delivery attempts -/

def deliveryAttemptsCursorFormat : CursorFormat where
  version := 1
  timeKey := "received_at"
  idKey := "attempt_id"
  distinct := by decide
  scalar := by decide
  readable := readable_one

def deliveryAttemptsListing : KeysetListing DeliveryAttempt where
  format := deliveryAttemptsCursorFormat
  invalidCursor := .invalidDeliveryAttemptsCursor "Invalid or expired cursor"
  timestamp := DeliveryAttempt.receivedAt
  id := DeliveryAttempt.attemptId

/-- `encode_delivery_attempts_cursor`. -/
def encodeDeliveryAttemptsCursor (attempt : DeliveryAttempt) : Except AppError Str :=
  deliveryAttemptsListing.encodeCursor attempt

/-- `decode_delivery_attempts_cursor`. -/
def decodeDeliveryAttemptsCursor (limit : RecursionLimit) (cursor : Str) :
    Except AppError DeliveryAttemptKeyset :=
  (deliveryAttemptsListing.decodeCursor limit cursor).map fun k => ⟨k.1, k.2⟩

/-- `DeliveryQueryService.list_attempts` over any store. -/
def listAttempts (limit : RecursionLimit)
    (listAttemptsPage : ℕ → Option DeliveryAttemptKeyset → Except AppError (List DeliveryAttempt))
    (n : ℕ) (cursor : Option Str) : Except AppError (KeysetPage DeliveryAttempt) :=
  deliveryAttemptsListing.listPage limit
    (fun n after => listAttemptsPage n (after.map fun k => ⟨k.1, k.2⟩)) n cursor

/-! ## Recovery actions -/

def recoveryActionsCursorFormat : CursorFormat where
  version := 1
  timeKey := "requested_at"
  idKey := "action_id"
  distinct := by decide
  scalar := by decide
  readable := readable_one

def recoveryActionsListing : KeysetListing RecoveryAction where
  format := recoveryActionsCursorFormat
  invalidCursor := .invalidRecoveryActionsCursor "Invalid or expired cursor"
  timestamp := RecoveryAction.requestedAt
  id := RecoveryAction.actionId

/-- `encode_recovery_actions_cursor`. -/
def encodeRecoveryActionsCursor (action : RecoveryAction) : Except AppError Str :=
  recoveryActionsListing.encodeCursor action

/-- `decode_recovery_actions_cursor`. -/
def decodeRecoveryActionsCursor (limit : RecursionLimit) (cursor : Str) :
    Except AppError RecoveryActionKeyset :=
  (recoveryActionsListing.decodeCursor limit cursor).map fun k => ⟨k.1, k.2⟩

/-- `RecoveryActionQueryService.list_actions` over any journal. -/
def listActions (limit : RecursionLimit)
    (listRecent : ℕ → Option RecoveryActionKeyset → Except AppError (List RecoveryAction))
    (n : ℕ) (cursor : Option Str) : Except AppError (KeysetPage RecoveryAction) :=
  recoveryActionsListing.listPage limit
    (fun n after => listRecent n (after.map fun k => ⟨k.1, k.2⟩)) n cursor

/-! ## Cursors and keys -/

namespace KeysetListing

variable {α : Type} {listing : KeysetListing α} {limit : RecursionLimit}

/-- The key a decoded cursor stands for. -/
def keyOf (keyset : AwareDatetime × UUID) : ℤ ×ₗ UUID := toLex (keyset.1.instant, keyset.2)

/-- The cursor of an entry decodes to its key. -/
theorem decodeOptional_encode {a : α} {cursor : Str}
    (encoded : listing.encodeCursor a = .ok cursor) :
    ∃ keyset, listing.decodeOptional limit (some cursor) = .ok (some keyset) ∧
      keyOf keyset = listing.key a := by
  cases h : listing.format.encodeKeysetCursor (listing.timestamp a) (listing.id a) with
  | error e =>
      rw [KeysetListing.encodeCursor, h] at encoded
      cases encoded
  | ok cursor' =>
      rw [KeysetListing.encodeCursor, h] at encoded
      cases encoded
      obtain ⟨utc, converted, read⟩ := @CursorFormat.readKeysetCursor_encode _ limit _ _ _ h
      obtain ⟨other, encoded, nonempty⟩ :=
        @CursorFormat.encodeKeysetCursor_isOk listing.format _ _ (listing.id a) converted
      obtain rfl : cursor = other := by
        rw [h] at encoded
        exact Except.ok.inj encoded
      refine ⟨(utc, listing.id a), ?_, ?_⟩
      · cases cursor with
        | nil => exact absurd rfl nonempty
        | cons c rest =>
            change (listing.decodeCursor limit (c :: rest)).map some = _
            rw [decodeCursor, read]
            rfl
      · rw [keyOf, key, (CursorFormat.eq_utc_of_astimezoneUtc converted).2]

/-- The cursor of an entry can be written when its timestamp has a form in UTC. -/
theorem encodeCursor_isOk {a : α} (utc : (listing.timestamp a).astimezoneUtc.isSome = true) :
    ∃ cursor, listing.encodeCursor a = .ok cursor := by
  obtain ⟨converted, h⟩ := Option.isSome_iff_exists.mp utc
  obtain ⟨cursor, encoded, -⟩ :=
    @CursorFormat.encodeKeysetCursor_isOk listing.format _ _ (listing.id a) h
  refine ⟨cursor, ?_⟩
  rw [KeysetListing.encodeCursor, encoded]
  rfl

/-- A cursor says nothing but the key of its entry. -/
theorem encodeCursor_congr {a b : α} (same : listing.key a = listing.key b) :
    listing.encodeCursor a = listing.encodeCursor b := by
  obtain ⟨instant, id⟩ := Prod.mk.inj (toLex_inj.mp same)
  unfold encodeCursor CursorFormat.encodeKeysetCursor
  rw [AwareDatetime.astimezoneUtc_congr instant, id]

/-- So entries of the same keys get the same cursor. -/
theorem nextCursor_congr {n : ℕ} {found found' : List α}
    (same : found.map listing.key = found'.map listing.key) :
    listing.nextCursor n found = listing.nextCursor n found' := by
  have length : found.length = found'.length := by
    simpa only [List.length_map] using congrArg List.length same
  have last : (found.take n).getLast?.map listing.key =
      (found'.take n).getLast?.map listing.key := by
    rw [← List.getLast?_map, ← List.getLast?_map, List.map_take, List.map_take, same]
  unfold nextCursor
  rw [length]
  cases hlast : (found.take n).getLast? with
  | none =>
      rw [hlast, Option.map_none] at last
      rw [Option.map_eq_none_iff.mp last.symm]
  | some a =>
      rw [hlast, Option.map_some] at last
      obtain ⟨b, hlast', key⟩ := Option.map_eq_some_iff.mp last.symm
      rw [hlast']
      dsimp only
      rw [encodeCursor_congr key.symm]

end KeysetListing

end WebhookMonitor
