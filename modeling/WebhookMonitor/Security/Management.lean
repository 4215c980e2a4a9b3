import Mathlib.Data.Finset.Empty
import WebhookMonitor.Python.Utf8
import WebhookMonitor.Security.Authenticator

/-!
# Management authentication and authorization

What decides who may use the management routes, apart from the OIDC authenticator:
the shared token, the capabilities with the scopes that stand for them, and the
HTTP answers to a refusal.

* `verifyManagementToken`, `authenticateSharedManagementToken` — the shared token;
* `ManagementScopePolicy`, `authorizeManagementCapability` — the capabilities;
* `parseAllowedJwtAlgorithms` — the allowlist of the settings.
-/

namespace WebhookMonitor

open Python

/-! ## Refusals -/

def managementUnauthorizedDetail : String := "Unauthorized"

def managementForbiddenDetail : String := "Forbidden"

def managementUnauthorized : AppError :=
  .httpChallenge 401 managementUnauthorizedDetail "Bearer"

/-- The value of `WWW-Authenticate` that names the scope a route requires. -/
def insufficientScopeChallenge (requiredScope : Str) : Str :=
  Str.lit "Bearer error=\"insufficient_scope\", scope=\"" ++ requiredScope ++ Str.lit "\""

def managementForbidden : Option Str → AppError
  | none => .httpException 403 managementForbiddenDetail
  | some requiredScope =>
      .httpChallenge 403 managementForbiddenDetail (insufficientScopeChallenge requiredScope)

def managementIdentityUnavailable : AppError := .httpException 503 "Service unavailable"

/-! ## The shared token -/

def minManagementApiTokenLength : ℕ := 32

/-- `verify_management_token`: `compare_digest` compares the UTF-8 forms. -/
def verifyManagementToken (providedToken expectedToken : Str) : Except BuiltinError Bool :=
  if providedToken = [] ∨ expectedToken = [] then .ok false
  else do
    let provided ← orRaise .unicodeEncodeError (encodeUtf8 providedToken)
    let expected ← orRaise .unicodeEncodeError (encodeUtf8 expectedToken)
    return decide (provided = expected)

/-- `SHARED_TOKEN_PRINCIPAL`. -/
def sharedTokenPrincipal : ManagementPrincipal where
  authenticationMethod := .managementBearer
  issuer := none
  subject := none
  clientId := none
  scopes := ∅

def authenticateSharedManagementToken (expectedToken : Option Str)
    (credentials : Option HTTPAuthorizationCredentials) : Except AppError ManagementPrincipal :=
  match credentials, expectedToken with
  | some credentials, some expectedToken =>
      if lower credentials.scheme ≠ Str.lit "bearer" then .error managementUnauthorized
      else do
        let verified ← uncaught (verifyManagementToken credentials.credentials expectedToken)
        if verified then return sharedTokenPrincipal else throw managementUnauthorized
  | _, _ => .error managementUnauthorized

/-! ## Capabilities -/

/-- `ManagementScopePolicy`. -/
structure ManagementScopePolicy where
  fullManagementScope : Str
  diagnosticsReadScope : Str
  recoveryReadScope : Str
  recoveryExecuteScope : Str
  deriving DecidableEq

namespace ManagementScopePolicy

def scopeFor (self : ManagementScopePolicy) : ManagementCapability → Str
  | .diagnosticsRead => self.diagnosticsReadScope
  | .recoveryRead => self.recoveryReadScope
  | .recoveryExecute => self.recoveryExecuteScope

/-- The four scopes, in the order the validation names them. -/
def scopes (self : ManagementScopePolicy) : List Str :=
  [self.fullManagementScope, self.diagnosticsReadScope, self.recoveryReadScope,
    self.recoveryExecuteScope]

end ManagementScopePolicy

/-- `authorize_management_capability`.  There are no other capabilities and no other
authentication methods to refuse. -/
def authorizeManagementCapability (principal : ManagementPrincipal)
    (capability : ManagementCapability) (scopePolicy : ManagementScopePolicy) :
    Except AppError ManagementAuthorization :=
  match principal.authenticationMethod with
  | .managementBearer =>
      .ok { principal, capability, authorizationMethod := .sharedManagementToken,
            matchedScope := none }
  | .oidcJwt =>
      let requiredScope := scopePolicy.scopeFor capability
      if requiredScope ∈ principal.scopes then
        .ok { principal, capability, authorizationMethod := .oidcScope,
              matchedScope := some requiredScope }
      else if scopePolicy.fullManagementScope ∈ principal.scopes then
        .ok { principal, capability, authorizationMethod := .oidcScope,
              matchedScope := some scopePolicy.fullManagementScope }
      else .error (.insufficientManagementScope "Missing required management capability scope")

/-! ## Algorithms -/

/-- `parse_allowed_jwt_algorithms` of a string; an error is the message of the
`ValueError`. -/
def parseAllowedJwtAlgorithms (value : Str) : Except String (List Str) :=
  let algorithms := ((value.splitOn (CodePoint.ofChar ',')).map strip).filter (· ≠ [])
  if algorithms = [] then .error "MANAGEMENT_OIDC_ALLOWED_ALGORITHMS must not be empty"
  else if algorithms.any isRefusedAlgorithm then
    .error "MANAGEMENT_OIDC_ALLOWED_ALGORITHMS must contain only asymmetric algorithms"
  else .ok algorithms

/-! ## What is granted -/

section Grants

variable {principal : ManagementPrincipal} {capability : ManagementCapability}
  {scopePolicy : ManagementScopePolicy}

/-- The token verifies when it is the expected one. -/
theorem verifyManagementToken_eq_true {provided expected : Str} :
    verifyManagementToken provided expected = .ok true ↔
      provided = expected ∧ provided ≠ [] ∧ isScalar provided = true := by
  rw [verifyManagementToken]
  split_ifs with blank
  · constructor
    · intro verified
      cases verified
    · rintro ⟨rfl, nonempty, -⟩
      exact absurd (blank.elim id id) nonempty
  · rw [not_or] at blank
    simp only [bind_eq_ok, orRaise_eq_ok]
    constructor
    · rintro ⟨bs, hprovided, cs, hexpected, same⟩
      have same : bs = cs := by simpa using Except.ok.inj same
      refine ⟨encodeUtf8_injective hprovided (same ▸ hexpected), blank.1, ?_⟩
      by_contra surrogates
      rw [encodeUtf8, if_neg surrogates] at hprovided
      cases hprovided
    · rintro ⟨rfl, -, scalar⟩
      exact ⟨_, if_pos scalar, _, if_pos scalar, by simp [pure, Except.pure]⟩

/-- The shared token is granted to the credentials that repeat it, with the scheme
`Bearer` in any case. -/
theorem authenticateSharedManagementToken_eq_ok {expectedToken : Option Str}
    {credentials : Option HTTPAuthorizationCredentials} :
    authenticateSharedManagementToken expectedToken credentials = .ok principal ↔
      principal = sharedTokenPrincipal ∧ ∃ c, credentials = some c ∧
        lower c.scheme = Str.lit "bearer" ∧ expectedToken = some c.credentials ∧
        c.credentials ≠ [] ∧ isScalar c.credentials = true := by
  constructor
  · intro granted
    cases credentials with
    | none => cases granted
    | some c =>
        cases expectedToken with
        | none => cases granted
        | some token =>
            rw [authenticateSharedManagementToken] at granted
            split_ifs at granted with scheme
            obtain ⟨verified, hverified, granted⟩ := bind_eq_ok.mp granted
            cases verified with
            | false => cases granted
            | true =>
                cases granted
                obtain ⟨rfl, nonempty, scalar⟩ :=
                  verifyManagementToken_eq_true.mp (uncaught_eq_ok.mp hverified)
                exact ⟨rfl, c, rfl, not_not.mp scheme, rfl, nonempty, scalar⟩
  · rintro ⟨rfl, c, rfl, scheme, rfl, nonempty, scalar⟩
    rw [authenticateSharedManagementToken, if_neg (not_not.mpr scheme),
      verifyManagementToken_eq_true.mpr ⟨rfl, nonempty, scalar⟩]
    rfl

/-- Authorization by scope: the capability's own, or the umbrella. -/
theorem authorizeManagementCapability_oidc (oidc : principal.authenticationMethod = .oidcJwt) :
    (∃ authorization,
        authorizeManagementCapability principal capability scopePolicy = .ok authorization) ↔
      scopePolicy.scopeFor capability ∈ principal.scopes ∨
        scopePolicy.fullManagementScope ∈ principal.scopes := by
  rw [authorizeManagementCapability, oidc]
  dsimp only
  split_ifs with required full
  · exact ⟨fun _ => .inl required, fun _ => ⟨_, rfl⟩⟩
  · exact ⟨fun _ => .inr full, fun _ => ⟨_, rfl⟩⟩
  · constructor
    · rintro ⟨authorization, granted⟩
      cases granted
    · rintro (mem | mem)
      · exact absurd mem required
      · exact absurd mem full

end Grants

end WebhookMonitor
