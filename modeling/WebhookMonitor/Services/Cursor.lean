import WebhookMonitor.Python.Base64
import WebhookMonitor.Python.JsonText

/-!
# Opaque cursors

The delivery listing, the journal listing and the reconciliation each hand out a
cursor: a small JSON object with a version, in URL-safe base64 without padding.
The three encoders and the three decoders share everything but the members of
the object.

* `encodeCursor` — from the members to the text;
* `cursorPayload` — from the text to the members, checking the version;
* `isCursorFault` — the exceptions the three decoders turn into their own error;
* `cursorPayload_encodeCursor` — the two are inverse.
-/

namespace WebhookMonitor

open Python

/-- Write a cursor: `json.dumps`, base64, and `rstrip(b"=")`. -/
def encodeCursor (members : List (Str × Scalar)) : Except BuiltinError Str := do
  let bytes ← orRaise .unicodeEncodeError (encodeUtf8 (dumps members))
  return stripPadding (urlsafeB64encode bytes)

/-- Read a cursor: restore the padding, decode, and check the version. -/
def cursorPayload (limit : RecursionLimit) (version : ℤ) (cursor : Str) :
    Except BuiltinError Members := do
  let padded ← orRaise .unicodeEncodeError (encodeAscii (restorePadding cursor))
  let decoded ← orRaise .binasciiError (urlsafeB64decode padded)
  match ← loadsBytes limit decoded with
  | .dict payload =>
      if (Members.get payload "v").eqInt version then .ok payload else .error .valueError
  | _ => .error .valueError

/-- `except (binascii.Error, KeyError, TypeError, UnicodeEncodeError, ValueError,
json.JSONDecodeError)`. -/
def isCursorFault (e : BuiltinError) : Bool := e = .keyError || e = .typeError || e.isValueError

/-- `payload[key]`. -/
def requireMember (payload : Members) (key : Str) : Except BuiltinError Json :=
  orRaise .keyError (Members.lookup payload key)

/-- What the members read back as. -/
def payloadOf (members : List (Str × Scalar)) : Members :=
  (sortKeys members).foldl (fun d m => Members.set d m.1 m.2.toJson) []

section RoundTrip

variable {limit : RecursionLimit} {version : ℤ} {members : List (Str × Scalar)}

/-- Writing a cursor does not fail: the JSON text is ASCII. -/
theorem encodeCursor_eq (ascii : ∀ m ∈ members, isAscii m.2.dumps = true) :
    encodeCursor members =
      .ok (stripPadding (urlsafeB64encode ((dumps members).map fun c => UInt8.ofNat c.val))) := by
  rw [encodeCursor, encodeUtf8_of_isAscii (isAscii_dumps ascii)]
  rfl

/-- A cursor reads back as the members it was written from. -/
theorem cursorPayload_encodeCursor {cursor : Str} (nonempty : members ≠ [])
    (keys : ∀ m ∈ members, isScalar m.1 = true) (values : ∀ m ∈ members, m.2.Readable)
    (versioned : (Members.get (payloadOf members) "v").eqInt version = true)
    (encoded : encodeCursor members = .ok cursor) :
    cursorPayload limit version cursor = .ok (payloadOf members) := by
  rw [encodeCursor_eq fun m hm => (values m hm).ascii] at encoded
  cases encoded
  have hascii := isAscii_urlsafeB64encode ((dumps members).map fun c => UInt8.ofNat c.val)
  have hpad : encodeAscii (restorePadding (stripPadding
      (urlsafeB64encode ((dumps members).map fun c => UInt8.ofNat c.val)))) =
      some ((urlsafeB64encode ((dumps members).map fun c => UInt8.ofNat c.val)).map
        fun c => UInt8.ofNat c.val) := by
    rw [restorePadding_stripPadding, encodeAscii, if_pos hascii]
  have hload := loadsBytes_dumps limit.property nonempty keys values
  rw [cursorPayload, hpad, orRaise_some]
  simp only [bind, Except.bind, urlsafeB64decode, urlsafeB64decode_encode, orRaise_some, hload]
  rw [← payloadOf, if_pos versioned]

/-- A cursor is never the empty text. -/
theorem encodeCursor_ne_nil {cursor : Str} (ascii : ∀ m ∈ members, isAscii m.2.dumps = true)
    (encoded : encodeCursor members = .ok cursor) : cursor ≠ [] := by
  rw [encodeCursor_eq ascii] at encoded
  cases encoded
  intro hnil
  have hrestore := restorePadding_stripPadding ((dumps members).map fun c => UInt8.ofNat c.val)
  rw [hnil] at hrestore
  cases h : (dumps members).map fun c => UInt8.ofNat c.val with
  | nil =>
      rw [dumps] at h
      simp [Str.lit] at h
  | cons b bs =>
      rw [h] at hrestore
      rcases bs with _ | ⟨_, _ | ⟨_, _⟩⟩ <;> simp [restorePadding, urlsafeB64encode] at hrestore

end RoundTrip

end WebhookMonitor
