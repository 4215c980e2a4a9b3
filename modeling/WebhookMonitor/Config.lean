import WebhookMonitor.Security.Management

/-!
# Settings

`Settings`, as far as `validate_runtime_configuration` reads it, and the checks the
validator makes.  Of the other fields the library checks the types alone.

A `ValueError` of the validator is its message.  One that `urlparse` raises has the
library's own.

* `validateOidcIssuer`, `validateManagementScopeMapping` — the checks of a value;
* `Settings.validateRuntimeConfiguration` — the settings the application starts with,
  where the deprecated scope has replaced the full-management scope.
-/

namespace WebhookMonitor

open Python

/-- `DeliveryStoreBackend`. -/
inductive DeliveryStoreBackend where
  | memory
  | postgresql
  deriving DecidableEq, Repr

/-- `ManagementAuthMode`. -/
inductive ManagementAuthMode where
  | sharedToken
  | oidcJwt
  deriving DecidableEq, Repr

/-- The fields of `Settings` the validator reads, with their defaults.  The two GitHub
tokens count by their presence. -/
structure Settings where
  deliveryStoreBackend : DeliveryStoreBackend := .memory
  databaseUrl : Option Str := none
  managementApiEnabled : Bool := false
  managementAuthMode : ManagementAuthMode := .sharedToken
  managementApiToken : Option Str := none
  managementOidcIssuer : Option Str := none
  managementOidcAudience : Option Str := none
  managementOidcRequiredScope : Option Str := none
  managementOidcFullManagementScope : Str := "webhook-monitor.manage"
  managementOidcDiagnosticsReadScope : Str := "webhook-monitor.diagnostics.read"
  managementOidcRecoveryReadScope : Str := "webhook-monitor.recovery.read"
  managementOidcRecoveryExecuteScope : Str := "webhook-monitor.recovery.execute"
  managementOidcAllowedAlgorithms : Str := "RS256"
  githubReconciliationEnabled : Bool := false
  githubRepositoryWebhookToken : Option Str := none
  githubRedeliveryEnabled : Bool := false
  githubRepositoryWebhookWriteToken : Option Str := none

/-- The `ValueError` that refuses the settings. -/
inductive SettingsError where
  | message (text : String)
  | urlparse
  deriving DecidableEq

/-- A check: `message` is raised unless the condition holds. -/
def check (condition : Prop) [Decidable condition] (message : String) : Except SettingsError Unit :=
  if condition then .ok () else .error (.message message)

/-- A value that must be there. -/
def present {α : Type} (value : Option α) (message : String) : Except SettingsError α :=
  match value with
  | none => .error (.message message)
  | some value => .ok value

/-! ## Values -/

def postgresqlPsycopgScheme : Str := "postgresql+psycopg://"

def validateOidcIssuer (value : Str) : Except SettingsError Unit :=
  match urlparse value with
  | none => .error .urlparse
  | some parsed =>
      check (parsed.scheme = Str.lit "https" ∧ parsed.netloc ≠ [] ∧ parsed.query = [] ∧
          urlFragment value = [])
        "MANAGEMENT_OIDC_ISSUER must be an HTTPS issuer URI without query or fragment"

/-- The checks of one named scope. -/
def validateNamedScope (name : String) (value : Str) : Except SettingsError Unit := do
  check (strip value ≠ []) (name ++ " must not be blank")
  check (strip value = value) (name ++ " must not contain surrounding whitespace")

def validateManagementScopeMapping (scopePolicy : ManagementScopePolicy) :
    Except SettingsError Unit := do
  validateNamedScope "MANAGEMENT_OIDC_FULL_MANAGEMENT_SCOPE" scopePolicy.fullManagementScope
  validateNamedScope "MANAGEMENT_OIDC_DIAGNOSTICS_READ_SCOPE" scopePolicy.diagnosticsReadScope
  validateNamedScope "MANAGEMENT_OIDC_RECOVERY_READ_SCOPE" scopePolicy.recoveryReadScope
  validateNamedScope "MANAGEMENT_OIDC_RECOVERY_EXECUTE_SCOPE" scopePolicy.recoveryExecuteScope
  check scopePolicy.scopes.Nodup "Management OIDC capability scopes must be distinct"

/-! ## The validator -/

namespace Settings

variable (self : Settings)

/-- The `ManagementScopePolicy` of the settings. -/
def managementScopePolicy : ManagementScopePolicy where
  fullManagementScope := self.managementOidcFullManagementScope
  diagnosticsReadScope := self.managementOidcDiagnosticsReadScope
  recoveryReadScope := self.managementOidcRecoveryReadScope
  recoveryExecuteScope := self.managementOidcRecoveryExecuteScope

/-- The checks of the database settings. -/
def validateDatabase : Except SettingsError Unit :=
  if self.deliveryStoreBackend = .postgresql then do
    let databaseUrl ← present self.databaseUrl
      "DATABASE_URL is required when DELIVERY_STORE_BACKEND=postgresql"
    check (startsWith databaseUrl postgresqlPsycopgScheme)
      "DATABASE_URL must use postgresql+psycopg when DELIVERY_STORE_BACKEND=postgresql"
  else .ok ()

/-- The checks of the shared token, which are made in either mode when there is one. -/
def validateManagementToken : Except SettingsError Unit := do
  check (¬ (self.managementApiEnabled ∧ self.managementAuthMode = .sharedToken ∧
      self.managementApiToken = none))
    "MANAGEMENT_API_TOKEN is required when MANAGEMENT_API_ENABLED=true"
  match self.managementApiToken with
  | none => return
  | some managementToken =>
      check (minManagementApiTokenLength ≤ managementToken.length)
        "MANAGEMENT_API_TOKEN must be at least 32 characters"

/-- The full-management scope, which the deprecated setting replaces. -/
def validateFullManagementScope : Except SettingsError Str :=
  match self.managementOidcRequiredScope with
  | none => .ok self.managementOidcFullManagementScope
  | some deprecatedRequiredScope => do
      check (strip deprecatedRequiredScope ≠ []) "MANAGEMENT_OIDC_REQUIRED_SCOPE must not be blank"
      check (self.managementOidcFullManagementScope = Str.lit "webhook-monitor.manage" ∨
          deprecatedRequiredScope = self.managementOidcFullManagementScope)
        ("MANAGEMENT_OIDC_REQUIRED_SCOPE must match MANAGEMENT_OIDC_FULL_MANAGEMENT_SCOPE" ++
          " when both are set")
      return deprecatedRequiredScope

/-- The checks of the OIDC settings, and the settings with their full-management scope. -/
def validateOidc : Except SettingsError Settings := do
  let issuer ← present self.managementOidcIssuer
    "MANAGEMENT_OIDC_ISSUER is required when MANAGEMENT_AUTH_MODE=oidc_jwt"
  let audience ← present self.managementOidcAudience
    "MANAGEMENT_OIDC_AUDIENCE is required when MANAGEMENT_AUTH_MODE=oidc_jwt"
  validateOidcIssuer issuer
  check (strip audience ≠ []) "MANAGEMENT_OIDC_AUDIENCE must not be blank"
  let fullManagementScope ← self.validateFullManagementScope
  let self := { self with managementOidcFullManagementScope := fullManagementScope }
  validateManagementScopeMapping self.managementScopePolicy
  let _ ← (parseAllowedJwtAlgorithms self.managementOidcAllowedAlgorithms).mapError .message
  return self

/-- The settings with what OIDC mode makes of them. -/
def validateManagementIdentity : Except SettingsError Settings :=
  if self.managementApiEnabled ∧ self.managementAuthMode = .oidcJwt then self.validateOidc
  else .ok self

/-- The checks of the GitHub settings. -/
def validateGitHub : Except SettingsError Unit := do
  if self.githubReconciliationEnabled then
    check self.managementApiEnabled
      "MANAGEMENT_API_ENABLED=true is required when GITHUB_RECONCILIATION_ENABLED=true"
    let _ ← present self.githubRepositoryWebhookToken
      "GITHUB_REPOSITORY_WEBHOOK_TOKEN is required when GITHUB_RECONCILIATION_ENABLED=true"
  if self.githubRedeliveryEnabled then
    check self.managementApiEnabled
      "MANAGEMENT_API_ENABLED=true is required when GITHUB_REDELIVERY_ENABLED=true"
    check self.githubReconciliationEnabled
      "GITHUB_RECONCILIATION_ENABLED=true is required when GITHUB_REDELIVERY_ENABLED=true"
    let _ ← present self.githubRepositoryWebhookWriteToken
      "GITHUB_REPOSITORY_WEBHOOK_WRITE_TOKEN is required when GITHUB_REDELIVERY_ENABLED=true"

/-- `validate_runtime_configuration`. -/
def validateRuntimeConfiguration : Except SettingsError Settings := do
  self.validateDatabase
  self.validateManagementToken
  let self ← self.validateManagementIdentity
  self.validateGitHub
  return self

end Settings

/-! ## What is accepted -/

theorem check_eq_ok {condition : Prop} [Decidable condition] {message : String} {u : Unit} :
    check condition message = .ok u ↔ condition := by
  rw [check]
  split_ifs with holds
  · exact ⟨fun _ => holds, fun _ => rfl⟩
  · constructor
    · intro h
      cases h
    · intro h
      exact absurd h holds

theorem present_eq_ok {α : Type} {value : Option α} {message : String} {a : α} :
    present value message = .ok a ↔ value = some a := by
  cases value with
  | none =>
      constructor
      · intro h
        cases h
      · intro h
        cases h
  | some b => rw [present, Except.ok.injEq, Option.some.injEq]

/-- A mapping of scopes that passes the checks. -/
structure ManagementScopePolicy.Valid (scopePolicy : ManagementScopePolicy) : Prop where
  nonblank : ∀ scope ∈ scopePolicy.scopes, strip scope ≠ []
  trimmed : ∀ scope ∈ scopePolicy.scopes, strip scope = scope
  distinct : scopePolicy.scopes.Nodup

theorem validateNamedScope_ok {name : String} {value : Str} {u : Unit}
    (accepted : validateNamedScope name value = .ok u) :
    strip value ≠ [] ∧ strip value = value := by
  obtain ⟨_, nonblank, trimmed⟩ := bind_eq_ok.mp accepted
  exact ⟨check_eq_ok.mp nonblank, check_eq_ok.mp trimmed⟩

theorem validateManagementScopeMapping_ok {scopePolicy : ManagementScopePolicy} {u : Unit}
    (accepted : validateManagementScopeMapping scopePolicy = .ok u) : scopePolicy.Valid := by
  simp only [validateManagementScopeMapping, bind_eq_ok] at accepted
  obtain ⟨_, full, _, diagnostics, _, recoveryRead, _, recoveryExecute, distinct⟩ := accepted
  have named : ∀ scope ∈ scopePolicy.scopes, strip scope ≠ [] ∧ strip scope = scope := by
    intro scope mem
    simp only [ManagementScopePolicy.scopes, List.mem_cons, List.not_mem_nil, or_false] at mem
    rcases mem with rfl | rfl | rfl | rfl
    · exact validateNamedScope_ok full
    · exact validateNamedScope_ok diagnostics
    · exact validateNamedScope_ok recoveryRead
    · exact validateNamedScope_ok recoveryExecute
  exact ⟨fun scope mem => (named scope mem).1, fun scope mem => (named scope mem).2,
    check_eq_ok.mp distinct⟩

namespace Settings

/-- OIDC settings that pass the checks, and the settings they become. -/
structure OidcAccepted (raw settings : Settings) : Prop where
  replaced : settings = { raw with
    managementOidcFullManagementScope :=
      raw.managementOidcRequiredScope.getD raw.managementOidcFullManagementScope }
  issuer : ∃ issuer, raw.managementOidcIssuer = some issuer
  audience : ∃ audience, raw.managementOidcAudience = some audience
  mapping : settings.managementScopePolicy.Valid
  algorithms : ∃ algorithms, parseAllowedJwtAlgorithms raw.managementOidcAllowedAlgorithms =
    .ok algorithms

theorem validateFullManagementScope_ok {raw : Settings} {scope : Str}
    (accepted : raw.validateFullManagementScope = .ok scope) :
    scope = raw.managementOidcRequiredScope.getD raw.managementOidcFullManagementScope := by
  rw [validateFullManagementScope] at accepted
  cases deprecated : raw.managementOidcRequiredScope with
  | none =>
      rw [deprecated] at accepted
      cases accepted
      rfl
  | some deprecatedRequiredScope =>
      simp only [deprecated, bind_eq_ok] at accepted
      obtain ⟨_, -, _, -, accepted⟩ := accepted
      cases accepted
      rfl

theorem validateOidc_ok {raw settings : Settings} (accepted : raw.validateOidc = .ok settings) :
    OidcAccepted raw settings := by
  simp only [validateOidc, bind_eq_ok] at accepted
  obtain ⟨issuer, hissuer, audience, haudience, _, -, _, -, scope, hscope, _, mapping, algorithms,
    halgorithms, accepted⟩ := accepted
  cases accepted
  rw [validateFullManagementScope_ok hscope] at mapping ⊢
  refine ⟨rfl, ⟨issuer, present_eq_ok.mp hissuer⟩, ⟨audience, present_eq_ok.mp haudience⟩,
    validateManagementScopeMapping_ok mapping, algorithms, ?_⟩
  cases parsed : parseAllowedJwtAlgorithms raw.managementOidcAllowedAlgorithms with
  | ok allowed =>
      rw [parsed] at halgorithms
      cases halgorithms
      rfl
  | error message =>
      rw [parsed] at halgorithms
      cases halgorithms

/-- Settings that pass the checks, and the settings they become. -/
structure Accepted (raw settings : Settings) : Prop where
  token : ∀ token, raw.managementApiToken = some token →
    minManagementApiTokenLength ≤ token.length
  oidc : raw.managementApiEnabled = true → raw.managementAuthMode = .oidcJwt →
    OidcAccepted raw settings
  otherwise : ¬ (raw.managementApiEnabled = true ∧ raw.managementAuthMode = .oidcJwt) →
    settings = raw

theorem validateManagementToken_ok {raw : Settings} {u : Unit}
    (accepted : raw.validateManagementToken = .ok u) {token : Str}
    (given : raw.managementApiToken = some token) :
    minManagementApiTokenLength ≤ token.length := by
  simp only [validateManagementToken, bind_eq_ok] at accepted
  obtain ⟨_, -, accepted⟩ := accepted
  rw [given] at accepted
  exact check_eq_ok.mp accepted

theorem validateRuntimeConfiguration_ok {raw settings : Settings}
    (accepted : raw.validateRuntimeConfiguration = .ok settings) : Accepted raw settings := by
  simp only [validateRuntimeConfiguration, bind_eq_ok] at accepted
  obtain ⟨_, -, _, token, become, hbecome, _, -, accepted⟩ := accepted
  cases accepted
  refine ⟨fun _ given => validateManagementToken_ok token given, ?_, ?_⟩
  · intro enabled mode
    rw [validateManagementIdentity, if_pos ⟨enabled, mode⟩] at hbecome
    exact validateOidc_ok hbecome
  · intro other
    rw [validateManagementIdentity, if_neg other] at hbecome
    cases hbecome
    rfl

/-- The checks leave everything but the full-management scope as it was. -/
theorem Accepted.unchanged {raw settings : Settings} (accepted : Accepted raw settings) :
    ∃ scope, settings = { raw with managementOidcFullManagementScope := scope } := by
  by_cases oidc : raw.managementApiEnabled = true ∧ raw.managementAuthMode = .oidcJwt
  · exact ⟨_, (accepted.oidc oidc.1 oidc.2).replaced⟩
  · rw [accepted.otherwise oidc]
    exact ⟨_, rfl⟩

end Settings

end WebhookMonitor
