import WebhookMonitor.Python.Errors
import WebhookMonitor.Python.Sha256

/-!
# The signature of a webhook

`verify_github_signature`: the `X-Hub-Signature-256` header against the HMAC of
the body.  `hmac.compare_digest` compares two texts only when both are ASCII, and
raises `TypeError` otherwise.
-/

namespace WebhookMonitor

open Python

/-- `hmac.compare_digest(a, b)` of two texts. -/
def compareDigest (a b : Str) : Except BuiltinError Bool :=
  if isAscii a && isAscii b then .ok (a = b) else .error .typeError

/-- The header GitHub sends with a body. -/
def expectedSignature (key payloadBody : Bytes) : Str :=
  Str.lit "sha256=" ++ hexdigest (hmacSha256 key payloadBody)

def verifyGithubSignature (payloadBody : Bytes) (signatureHeader : Option Str) (secret : Str) :
    Except BuiltinError Bool :=
  match signatureHeader with
  | none => .ok false
  | some signatureHeader =>
      if signatureHeader = [] ∨ secret = [] then .ok false
      else do
        let key ← orRaise .unicodeEncodeError (encodeUtf8 secret)
        compareDigest (expectedSignature key payloadBody) signatureHeader

theorem isAscii_expectedSignature (key payloadBody : Bytes) :
    isAscii (expectedSignature key payloadBody) = true := by
  rw [expectedSignature, isAscii_append, isAscii_hexdigest]
  rfl

theorem expectedSignature_ne_nil (key payloadBody : Bytes) :
    expectedSignature key payloadBody ≠ [] := by
  intro h
  cases h

/-- The check of one header, when the secret has a UTF-8 form: it raises on a
header that is not ASCII, and accepts exactly the expected one. -/
theorem verifyGithubSignature_eq {secret : Str} {key : Bytes} (nonempty : secret ≠ [])
    (encoded : encodeUtf8 secret = some key) (payloadBody : Bytes) (signatureHeader : Option Str) :
    verifyGithubSignature payloadBody signatureHeader secret =
      if signatureHeader.any (fun s => !isAscii s) then .error .typeError
      else .ok (decide (signatureHeader = some (expectedSignature key payloadBody))) := by
  cases signatureHeader with
  | none => rfl
  | some header =>
      rw [verifyGithubSignature, Option.any_some]
      by_cases hempty : header = []
      · subst hempty
        have other : ¬ ((some [] : Option Str) = some (expectedSignature key payloadBody)) := by
          intro h
          rw [Option.some.injEq] at h
          exact expectedSignature_ne_nil key payloadBody h.symm
        rw [if_pos (.inl rfl), decide_eq_false other]
        rfl
      · have checked : ¬ (header = [] ∨ secret = []) := by
          rintro (h | h)
          · exact hempty h
          · exact nonempty h
        rw [if_neg checked, encoded, orRaise_some]
        change compareDigest _ _ = _
        rw [compareDigest, isAscii_expectedSignature, Bool.true_and]
        cases isAscii header with
        | true => simp [eq_comm]
        | false => rfl

end WebhookMonitor
