import WebhookMonitor.Api.Management
import WebhookMonitor.Security.Acceptance

/-!
# Who passes the management gate

With settings the validation accepts, one credential passes in `shared_token` mode,
the configured token, and in `oidc_jwt` mode one whose principal holds the scope of
the capability or the full-management scope.  Neither mode looks at what the other
one grants.

* `PresentsToken`, `HoldsScope` — the two ways to pass;
* `managementGate_of_accepted` — the gate that accepted settings build;
* `runWith_requireManagementCapability` — the dependency in either mode;
* `Exclusive` — what holds of the gate, and `managementGate_exclusive`.
-/

namespace WebhookMonitor

open Python Interaction

variable {κ σ : Type}

/-- A bearer credential that is the configured token, of the least length or more. -/
def PresentsToken (settings : Settings) (credentials : Option RequestCredentials) : Prop :=
  ∃ c token, credentials = some c ∧ lower c.val.scheme = Str.lit "bearer" ∧
    settings.managementApiToken = some token ∧ c.val.credentials = token ∧
    minManagementApiTokenLength ≤ token.length

/-- The scopes of the principal stand for the capability. -/
def HoldsScope (scopePolicy : ManagementScopePolicy) (capability : ManagementCapability)
    (principal : ManagementPrincipal) : Prop :=
  scopePolicy.scopeFor capability ∈ principal.scopes ∨
    scopePolicy.fullManagementScope ∈ principal.scopes

/-! ## The gate of the settings -/

/-- The gate has the settings it is built from. -/
structure ManagementGate.BuiltFrom (gate : ManagementGate κ) (settings : Settings) : Prop where
  enabled : gate.managementApiEnabled = settings.managementApiEnabled
  token : gate.managementApiToken = settings.managementApiToken
  mode : gate.managementAuthMode = settings.managementAuthMode
  policy : gate.managementScopePolicy = settings.managementScopePolicy
  authenticator : settings.managementApiEnabled = true → settings.managementAuthMode = .oidcJwt →
    ∃ authenticator, gate.oidcManagementAuthenticator = some authenticator

/-- The application starts with settings that are accepted. -/
theorem managementGate_of_accepted (jwt : PyJwt κ) (recursionLimit : RecursionLimit)
    {raw settings : Settings} (accepted : Settings.Accepted raw settings) :
    ∃ gate, settings.managementGate jwt recursionLimit = .ok gate ∧ gate.BuiltFrom settings := by
  obtain ⟨scope, unchanged⟩ := accepted.unchanged
  by_cases oidc : settings.managementApiEnabled = true ∧ settings.managementAuthMode = .oidcJwt
  · have passed := accepted.oidc (by rw [unchanged] at oidc; exact oidc.1)
      (by rw [unchanged] at oidc; exact oidc.2)
    obtain ⟨issuer, hissuer⟩ := passed.issuer
    obtain ⟨audience, haudience⟩ := passed.audience
    obtain ⟨algorithms, halgorithms⟩ := passed.algorithms
    have built : settings.oidcManagementAuthenticator jwt recursionLimit =
        .ok (some ⟨⟨issuer, audience, algorithms⟩, cacheTtlSeconds, jwt, recursionLimit⟩) := by
      rw [Settings.oidcManagementAuthenticator, if_pos oidc]
      simp only [passed.replaced, hissuer, haudience, halgorithms]
      rfl
    rw [Settings.managementGate, built]
    exact ⟨_, rfl, rfl, rfl, rfl, rfl, fun _ _ => ⟨_, rfl⟩⟩
  · rw [Settings.managementGate, Settings.oidcManagementAuthenticator, if_neg oidc]
    exact ⟨_, rfl, rfl, rfl, rfl, rfl, fun enabled mode => absurd ⟨enabled, mode⟩ oidc⟩

/-! ## The dependency in either mode -/

section Modes

variable {gate : ManagementGate κ} {capability : ManagementCapability}
  {credentials : Option HTTPAuthorizationCredentials}
  (respond : σ → (c : AuthenticatorCall κ) → c.Answer × σ) (w : σ)

/-- With management disabled nothing is called, and the answer is 404. -/
theorem requireManagementCapability_disabled (disabled : gate.managementApiEnabled = false) :
    gate.requireManagementCapability capability credentials =
      .raise (.httpException 404 "Not found") := by
  rw [ManagementGate.requireManagementCapability,
    ManagementGate.requireConfiguredManagementAccess, disabled]
  rfl

theorem requireConfiguredManagementAccess_shared (enabled : gate.managementApiEnabled = true)
    (mode : gate.managementAuthMode = .sharedToken) :
    gate.requireConfiguredManagementAccess credentials =
      Program.ofExcept (authenticateSharedManagementToken gate.managementApiToken credentials) := by
  rw [ManagementGate.requireConfiguredManagementAccess, enabled, mode]
  rfl

/-- The grant of the shared token. -/
def sharedTokenAuthorization (capability : ManagementCapability) : ManagementAuthorization where
  principal := sharedTokenPrincipal
  capability
  authorizationMethod := .sharedManagementToken
  matchedScope := none

/-- In `shared_token` mode nothing is called, and the shared token alone decides. -/
theorem requireManagementCapability_shared (enabled : gate.managementApiEnabled = true)
    (mode : gate.managementAuthMode = .sharedToken) :
    gate.requireManagementCapability capability credentials =
      Program.ofExcept ((authenticateSharedManagementToken gate.managementApiToken credentials).map
        fun _ => sharedTokenAuthorization capability) := by
  rw [ManagementGate.requireManagementCapability,
    requireConfiguredManagementAccess_shared enabled mode]
  cases authenticated : authenticateSharedManagementToken gate.managementApiToken credentials with
  | error e => rfl
  | ok principal =>
      obtain ⟨rfl, -⟩ := authenticateSharedManagementToken_eq_ok.mp authenticated
      rfl

theorem requireConfiguredManagementAccess_oidc (enabled : gate.managementApiEnabled = true)
    (mode : gate.managementAuthMode = .oidcJwt) {authenticator : OidcJwtManagementAuthenticator κ}
    (has : gate.oidcManagementAuthenticator = some authenticator) :
    gate.requireConfiguredManagementAccess credentials =
      (authenticator.authenticate credentials).tryCatch fun e =>
        .raise (managementAccessError e) := by
  rw [ManagementGate.requireConfiguredManagementAccess, enabled, mode, has]
  rfl

/-- A principal the authenticator returns is one of a token. -/
theorem authenticationMethod_of_authenticate {authenticator : OidcJwtManagementAuthenticator κ}
    {principal : ManagementPrincipal}
    (returned : ((authenticator.authenticate credentials).runWith respond w).1 = .ok principal) :
    principal.authenticationMethod = .oidcJwt := by
  obtain ⟨es, q, trace, ended⟩ :=
    Program.trace_runWith respond (authenticator.authenticate credentials) w
  have ends := OidcJwtManagementAuthenticator.ending_of_trace trace (ended.trans (by rw [returned]))
  generalize authenticator.observed es = seen at ends
  generalize hr : Except.ok principal = r at ends
  cases ends with
  | refused | cutOff | badKey | unknownKey => cases hr
  | @decoded token documents source jwks key answer =>
      cases answer with
      | error e => cases e <;> cases hr
      | ok claims => exact (principalOfClaims_ok hr.symm).method

/-- What the dependency makes of the principal. -/
def capabilityOf (gate : ManagementGate κ) (capability : ManagementCapability)
    (principal : ManagementPrincipal) : Except AppError ManagementAuthorization :=
  (authorizeManagementCapability principal capability gate.managementScopePolicy).mapError <|
    managementCapabilityError (gate.managementScopePolicy.scopeFor capability)

theorem capabilityOf_eq_ok {principal : ManagementPrincipal}
    {authorization : ManagementAuthorization} :
    capabilityOf gate capability principal = .ok authorization ↔
      authorizeManagementCapability principal capability gate.managementScopePolicy =
        .ok authorization := by
  rw [capabilityOf]
  cases authorizeManagementCapability principal capability gate.managementScopePolicy with
  | ok a => rfl
  | error e =>
      constructor
      · intro h
        cases h
      · intro h
        cases h

/-- The dependency yields an authorization when it has a principal that it authorizes. -/
theorem requireManagementCapability_eq_ok {authorization : ManagementAuthorization} :
    ((gate.requireManagementCapability capability credentials).runWith respond w).1 =
        .ok authorization ↔
      ∃ principal,
        ((gate.requireConfiguredManagementAccess credentials).runWith respond w).1 =
          .ok principal ∧
        authorizeManagementCapability principal capability gate.managementScopePolicy =
          .ok authorization := by
  have sequence : gate.requireManagementCapability capability credentials =
      gate.requireConfiguredManagementAccess credentials >>= fun principal =>
        Program.ofExcept (capabilityOf gate capability principal) := rfl
  rw [sequence, Program.runWith_bind]
  cases ran : (gate.requireConfiguredManagementAccess credentials).runWith respond w with
  | mk r w' =>
      cases r with
      | error e =>
          constructor
          · intro h
            cases h
          · rintro ⟨principal, h, -⟩
            cases h
      | ok principal =>
          dsimp only
          rw [Program.runWith_ofExcept, capabilityOf_eq_ok]
          constructor
          · intro granted
            exact ⟨principal, rfl, granted⟩
          · rintro ⟨other, same, granted⟩
            cases same
            exact granted

/-- In `oidc_jwt` mode a principal is one the authenticator has returned. -/
theorem requireConfiguredManagementAccess_oidc_eq_ok (enabled : gate.managementApiEnabled = true)
    (mode : gate.managementAuthMode = .oidcJwt) {authenticator : OidcJwtManagementAuthenticator κ}
    (has : gate.oidcManagementAuthenticator = some authenticator)
    {principal : ManagementPrincipal} :
    ((gate.requireConfiguredManagementAccess credentials).runWith respond w).1 = .ok principal ↔
      ((authenticator.authenticate credentials).runWith respond w).1 = .ok principal := by
  rw [requireConfiguredManagementAccess_oidc enabled mode has, Program.runWith_tryCatch]
  cases ran : (authenticator.authenticate credentials).runWith respond w with
  | mk r w' =>
      cases r with
      | ok principal => rfl
      | error e =>
          constructor
          · intro h
            cases h
          · intro h
            cases h

/-- In `oidc_jwt` mode the dependency authorizes by scope. -/
theorem requireManagementCapability_oidc_eq_ok (enabled : gate.managementApiEnabled = true)
    (mode : gate.managementAuthMode = .oidcJwt) {authenticator : OidcJwtManagementAuthenticator κ}
    (has : gate.oidcManagementAuthenticator = some authenticator) :
    (∃ authorization,
        ((gate.requireManagementCapability capability credentials).runWith respond w).1 =
          .ok authorization) ↔
      ∃ principal,
        ((authenticator.authenticate credentials).runWith respond w).1 = .ok principal ∧
        HoldsScope gate.managementScopePolicy capability principal := by
  constructor
  · rintro ⟨authorization, yields⟩
    obtain ⟨principal, access, granted⟩ := (requireManagementCapability_eq_ok respond w).mp yields
    have returned :=
      (requireConfiguredManagementAccess_oidc_eq_ok respond w enabled mode has).mp access
    have oidc := authenticationMethod_of_authenticate respond w returned
    exact ⟨principal, returned, (authorizeManagementCapability_oidc oidc).mp ⟨_, granted⟩⟩
  · rintro ⟨principal, returned, held⟩
    have oidc := authenticationMethod_of_authenticate respond w returned
    obtain ⟨authorization, granted⟩ := (authorizeManagementCapability_oidc oidc).mpr held
    exact ⟨authorization, (requireManagementCapability_eq_ok respond w).mpr ⟨principal,
      (requireConfiguredManagementAccess_oidc_eq_ok respond w enabled mode has).mpr returned,
      granted⟩⟩

end Modes

/-! ## Both modes together -/

/-- What holds of the gate for any credentials and capability, whatever the clock, the
caches, the provider and the JWT library answer. -/
structure Exclusive (settings : Settings) (gate : ManagementGate κ)
    (credentials : Option RequestCredentials) (capability : ManagementCapability)
    (respond : σ → (c : AuthenticatorCall κ) → c.Answer × σ) (w : σ) : Prop where
  /-- Who passes. -/
  yields_iff :
    (∃ authorization,
        ((gate.requireManagementCapability capability (credentials.map (·.val))).runWith
          respond w).1 = .ok authorization) ↔
      settings.managementApiEnabled = true ∧
        (settings.managementAuthMode = .sharedToken ∧ PresentsToken settings credentials ∨
          settings.managementAuthMode = .oidcJwt ∧
            ∃ authenticator principal, gate.oidcManagementAuthenticator = some authenticator ∧
              ((authenticator.authenticate (credentials.map (·.val))).runWith respond w).1 =
                .ok principal ∧
              HoldsScope settings.managementScopePolicy capability principal)
  /-- In `oidc_jwt` mode no principal takes the full-access branch. -/
  oidc_principal : settings.managementAuthMode = .oidcJwt → ∀ principal,
    ((gate.requireConfiguredManagementAccess (credentials.map (·.val))).runWith respond w).1 =
      .ok principal → principal.authenticationMethod = .oidcJwt
  /-- In `shared_token` mode the authenticator is not called. -/
  shared_calls_nothing : settings.managementAuthMode = .sharedToken →
    ∃ r, gate.requireManagementCapability capability (credentials.map (·.val)) =
      Program.ofExcept r
  /-- In `shared_token` mode what is granted is the grant of the shared token. -/
  shared_grant : settings.managementAuthMode = .sharedToken → ∀ authorization,
    ((gate.requireManagementCapability capability (credentials.map (·.val))).runWith
      respond w).1 = .ok authorization →
      PresentsToken settings credentials ∧ authorization = sharedTokenAuthorization capability
  /-- With management disabled the answer is 404, and nothing is called. -/
  disabled : settings.managementApiEnabled = false →
    gate.requireManagementCapability capability (credentials.map (·.val)) =
      .raise (.httpException 404 "Not found")
  /-- The recorded scope is held, and is the capability's own when that is held. -/
  matched_scope : settings.managementAuthMode = .oidcJwt → ∀ authorization,
    ((gate.requireManagementCapability capability (credentials.map (·.val))).runWith
      respond w).1 = .ok authorization →
      ∃ scope ∈ authorization.principal.scopes, authorization.matchedScope = some scope ∧
        (settings.managementScopePolicy.scopeFor capability ∈ authorization.principal.scopes →
          scope = settings.managementScopePolicy.scopeFor capability)

section Exclusive

variable {settings : Settings} {gate : ManagementGate κ}
  {credentials : Option RequestCredentials} {capability : ManagementCapability}
  {respond : σ → (c : AuthenticatorCall κ) → c.Answer × σ} {w : σ}

/-- The configured token is granted to the credentials that present it. -/
theorem authenticateShared_iff_presentsToken
    (long : ∀ token, settings.managementApiToken = some token →
      minManagementApiTokenLength ≤ token.length) {principal : ManagementPrincipal} :
    authenticateSharedManagementToken settings.managementApiToken (credentials.map (·.val)) =
        .ok principal ↔
      principal = sharedTokenPrincipal ∧ PresentsToken settings credentials := by
  rw [authenticateSharedManagementToken_eq_ok]
  refine and_congr_right fun _ => ?_
  constructor
  · rintro ⟨c, given, bearer, expected, -⟩
    obtain ⟨c', rfl, rfl⟩ := Option.map_eq_some_iff.mp given
    exact ⟨c', _, rfl, bearer, expected, rfl, long _ expected⟩
  · rintro ⟨c, token, rfl, bearer, expected, rfl, length⟩
    refine ⟨c.val, rfl, bearer, expected, ?_, isScalar_of_isLatin1 c.property⟩
    rintro empty
    rw [empty] at length
    exact absurd length (by decide)

/-- In `shared_token` mode what is granted is the grant of the shared token. -/
theorem shared_eq_ok (built : gate.BuiltFrom settings)
    (long : ∀ token, settings.managementApiToken = some token →
      minManagementApiTokenLength ≤ token.length)
    (enabled : settings.managementApiEnabled = true)
    (mode : settings.managementAuthMode = .sharedToken) {authorization : ManagementAuthorization} :
    ((gate.requireManagementCapability capability (credentials.map (·.val))).runWith
        respond w).1 = .ok authorization ↔
      PresentsToken settings credentials ∧ authorization = sharedTokenAuthorization capability := by
  rw [requireManagementCapability_shared (built.enabled.trans enabled) (built.mode.trans mode),
    Program.runWith_ofExcept, built.token, map_eq_ok]
  constructor
  · rintro ⟨principal, authenticated, rfl⟩
    exact ⟨((authenticateShared_iff_presentsToken long).mp authenticated).2, rfl⟩
  · rintro ⟨presented, rfl⟩
    exact ⟨_, (authenticateShared_iff_presentsToken long).mpr ⟨rfl, presented⟩, rfl⟩

/-- A disabled gate yields nothing. -/
theorem enabled_of_yields (built : gate.BuiltFrom settings)
    {authorization : ManagementAuthorization}
    (yields : ((gate.requireManagementCapability capability (credentials.map (·.val))).runWith
      respond w).1 = .ok authorization) : settings.managementApiEnabled = true := by
  rw [← Bool.not_eq_false]
  intro disabled
  rw [requireManagementCapability_disabled (built.enabled.trans disabled)] at yields
  cases yields

theorem yields_iff (built : gate.BuiltFrom settings)
    (long : ∀ token, settings.managementApiToken = some token →
      minManagementApiTokenLength ≤ token.length) :
    (∃ authorization,
        ((gate.requireManagementCapability capability (credentials.map (·.val))).runWith
          respond w).1 = .ok authorization) ↔
      settings.managementApiEnabled = true ∧
        (settings.managementAuthMode = .sharedToken ∧ PresentsToken settings credentials ∨
          settings.managementAuthMode = .oidcJwt ∧
            ∃ authenticator principal, gate.oidcManagementAuthenticator = some authenticator ∧
              ((authenticator.authenticate (credentials.map (·.val))).runWith respond w).1 =
                .ok principal ∧
              HoldsScope settings.managementScopePolicy capability principal) := by
  constructor
  · rintro ⟨authorization, yields⟩
    have enabled := enabled_of_yields built yields
    refine ⟨enabled, ?_⟩
    cases mode : settings.managementAuthMode with
    | sharedToken =>
        exact .inl ⟨rfl, ((shared_eq_ok built long enabled mode).mp yields).1⟩
    | oidcJwt =>
        obtain ⟨authenticator, has⟩ := built.authenticator enabled mode
        obtain ⟨principal, returned, held⟩ := (requireManagementCapability_oidc_eq_ok respond w
          (built.enabled.trans enabled) (built.mode.trans mode) has).mp ⟨_, yields⟩
        exact .inr ⟨rfl, authenticator, principal, has, returned, built.policy ▸ held⟩
  · rintro ⟨enabled, ⟨mode, presented⟩ | ⟨mode, authenticator, principal, has, returned, held⟩⟩
    · exact ⟨_, (shared_eq_ok built long enabled mode).mpr ⟨presented, rfl⟩⟩
    · exact (requireManagementCapability_oidc_eq_ok respond w (built.enabled.trans enabled)
        (built.mode.trans mode) has).mpr ⟨principal, returned, built.policy ▸ held⟩

/-- In `oidc_jwt` mode a principal comes from the authenticator. -/
theorem oidc_principal (built : gate.BuiltFrom settings)
    (mode : settings.managementAuthMode = .oidcJwt) {principal : ManagementPrincipal}
    (access : ((gate.requireConfiguredManagementAccess (credentials.map (·.val))).runWith
      respond w).1 = .ok principal) : principal.authenticationMethod = .oidcJwt := by
  cases enabled : settings.managementApiEnabled with
  | false =>
      rw [ManagementGate.requireConfiguredManagementAccess, built.enabled, enabled] at access
      cases access
  | true =>
      obtain ⟨authenticator, has⟩ := built.authenticator enabled mode
      exact authenticationMethod_of_authenticate respond w
        ((requireConfiguredManagementAccess_oidc_eq_ok respond w (built.enabled.trans enabled)
          (built.mode.trans mode) has).mp access)

/-- The scope an authorization records. -/
theorem matchedScope_spec {scopePolicy : ManagementScopePolicy} {principal : ManagementPrincipal}
    {authorization : ManagementAuthorization} (oidc : principal.authenticationMethod = .oidcJwt)
    (granted : authorizeManagementCapability principal capability scopePolicy =
      .ok authorization) :
    ∃ scope ∈ authorization.principal.scopes, authorization.matchedScope = some scope ∧
      (scopePolicy.scopeFor capability ∈ authorization.principal.scopes →
        scope = scopePolicy.scopeFor capability) := by
  rw [authorizeManagementCapability, oidc] at granted
  dsimp only at granted
  split_ifs at granted with required full
  · cases granted
    exact ⟨_, required, rfl, fun _ => rfl⟩
  · cases granted
    exact ⟨_, full, rfl, fun held => absurd held required⟩

end Exclusive

theorem managementGate_exclusive (jwt : PyJwt κ) (recursionLimit : RecursionLimit)
    {raw settings : Settings} (accepted : raw.validateRuntimeConfiguration = .ok settings) :
    ∃ gate, settings.managementGate jwt recursionLimit = .ok gate ∧
      ∀ (credentials : Option RequestCredentials) (capability : ManagementCapability) (σ : Type)
        (respond : σ → (c : AuthenticatorCall κ) → c.Answer × σ) (w : σ),
        Exclusive settings gate credentials capability respond w := by
  have passed := Settings.validateRuntimeConfiguration_ok accepted
  obtain ⟨gate, made, built⟩ := managementGate_of_accepted jwt recursionLimit passed
  have long : ∀ token, settings.managementApiToken = some token →
      minManagementApiTokenLength ≤ token.length := by
    intro token given
    obtain ⟨scope, unchanged⟩ := passed.unchanged
    rw [unchanged] at given
    exact passed.token token given
  refine ⟨gate, made, fun credentials capability σ respond w => ?_⟩
  refine ⟨yields_iff built long, fun mode _ => oidc_principal built mode, ?_, ?_, ?_, ?_⟩
  · intro mode
    cases enabled : settings.managementApiEnabled with
    | false =>
        exact ⟨.error _, requireManagementCapability_disabled (built.enabled.trans enabled)⟩
    | true =>
        exact ⟨_, requireManagementCapability_shared (built.enabled.trans enabled)
          (built.mode.trans mode)⟩
  · intro mode authorization yields
    exact (shared_eq_ok built long (enabled_of_yields built yields) mode).mp yields
  · intro disabled
    exact requireManagementCapability_disabled (built.enabled.trans disabled)
  · intro mode authorization yields
    obtain ⟨principal, access, granted⟩ := (requireManagementCapability_eq_ok respond w).mp yields
    rw [built.policy] at granted
    exact matchedScope_spec (oidc_principal built mode access) granted

/-! ### A gate -/

/-- Settings for the issuer of the sample token. -/
def sampleSettings : Settings :=
  { managementApiEnabled := true
    managementAuthMode := .oidcJwt
    managementOidcIssuer := some (Str.lit "https://i")
    managementOidcAudience := some (Str.lit "a")
    managementOidcDiagnosticsReadScope := "r"
    managementOidcAllowedAlgorithms := "ES256" }

theorem managementGate_exclusive_sample :
    ∃ gate, sampleSettings.managementGate sampleAuthenticator.jwt sampleLimit = .ok gate ∧
      ∀ (credentials : Option RequestCredentials) (capability : ManagementCapability) (σ : Type)
        (respond : σ → (c : AuthenticatorCall Members) → c.Answer × σ) (w : σ),
        Exclusive sampleSettings gate credentials capability respond w :=
  managementGate_exclusive sampleAuthenticator.jwt sampleLimit
    (show sampleSettings.validateRuntimeConfiguration = .ok sampleSettings by rfl)

end WebhookMonitor
