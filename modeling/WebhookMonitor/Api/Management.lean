import WebhookMonitor.Config

/-!
# The management gate

The dependency of the management routes: `require_management_capability` over
`require_configured_management_access`, with the arguments of `create_router` it
reads, and what `create_app` builds these from.

A dependency that raises ends the request.  Most of its errors are HTTP answers; what
the authenticator lets through besides stays as it is.
-/

namespace WebhookMonitor

open Python Interaction

variable {κ : Type}

/-- The credentials of a request.  They are read from a header, which the server
decodes as Latin-1. -/
abbrev RequestCredentials := {c : HTTPAuthorizationCredentials // isLatin1 c.credentials = true}

/-- The arguments of `create_router` that the gate reads. -/
structure ManagementGate (κ : Type) where
  managementApiEnabled : Bool
  managementApiToken : Option Str
  managementAuthMode : ManagementAuthMode
  managementScopePolicy : ManagementScopePolicy
  oidcManagementAuthenticator : Option (OidcJwtManagementAuthenticator κ)

/-! ## The dependency -/

/-- What the `except` clauses of `require_configured_management_access` make of an error. -/
def managementAccessError : AppError → AppError
  | .invalidManagementToken _ => managementUnauthorized
  | .insufficientManagementScope _ => managementForbidden none
  | .managementIdentityProviderUnavailable _ => managementIdentityUnavailable
  | e => e

/-- What the `except` clause of `require_management_capability` makes of an error. -/
def managementCapabilityError (requiredScope : Str) : AppError → AppError
  | .insufficientManagementScope _ => managementForbidden (some requiredScope)
  | e => e

namespace ManagementGate

variable (self : ManagementGate κ)

def requireConfiguredManagementAccess (credentials : Option HTTPAuthorizationCredentials) :
    Authentication κ ManagementPrincipal :=
  if !self.managementApiEnabled then throw (.httpException 404 "Not found")
  else
    match self.managementAuthMode with
    | .sharedToken =>
        Program.ofExcept (authenticateSharedManagementToken self.managementApiToken credentials)
    | .oidcJwt =>
        match self.oidcManagementAuthenticator with
        | none => throw managementIdentityUnavailable
        | some authenticator =>
            tryCatch (authenticator.authenticate credentials) fun e =>
              throw (managementAccessError e)

def requireManagementCapability (capability : ManagementCapability)
    (credentials : Option HTTPAuthorizationCredentials) :
    Authentication κ ManagementAuthorization := do
  let principal ← self.requireConfiguredManagementAccess credentials
  let scopePolicy := self.managementScopePolicy
  Program.ofExcept <|
    (authorizeManagementCapability principal capability scopePolicy).mapError <|
      managementCapabilityError (scopePolicy.scopeFor capability)

end ManagementGate

/-! ## The application -/

def cacheTtlSeconds : ℤ := 300

namespace Settings

variable (self : Settings) (jwt : PyJwt κ) (recursionLimit : RecursionLimit)

/-- The authenticator of `create_app`. -/
def oidcManagementAuthenticator :
    Except SettingsError (Option (OidcJwtManagementAuthenticator κ)) :=
  if self.managementApiEnabled ∧ self.managementAuthMode = .oidcJwt then do
    let issuer ← present self.managementOidcIssuer
      "OIDC management settings are required when MANAGEMENT_AUTH_MODE=oidc_jwt"
    let audience ← present self.managementOidcAudience
      "OIDC management settings are required when MANAGEMENT_AUTH_MODE=oidc_jwt"
    let allowedAlgorithms ←
      (parseAllowedJwtAlgorithms self.managementOidcAllowedAlgorithms).mapError .message
    return some { config := { issuer, audience, allowedAlgorithms }, cacheTtlSeconds, jwt,
                  recursionLimit }
  else .ok none

/-- The part of `create_app` that the gate depends on. -/
def managementGate : Except SettingsError (ManagementGate κ) := do
  let oidcManagementAuthenticator ← self.oidcManagementAuthenticator jwt recursionLimit
  return { managementApiEnabled := self.managementApiEnabled
           managementApiToken := self.managementApiToken
           managementAuthMode := self.managementAuthMode
           managementScopePolicy := self.managementScopePolicy
           oidcManagementAuthenticator }

end Settings

end WebhookMonitor
