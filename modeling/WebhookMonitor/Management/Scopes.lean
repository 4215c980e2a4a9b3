import WebhookMonitor.Config
import WebhookMonitor.Security.Acceptance

/-!
# Mappings of scopes that can be used

The validation of a mapping compares each scope with itself stripped, and the scope
claim of a token is split at all white space.  A scope with white space inside passes
the one and is never a word of the other: the mapping is usable exactly when no scope
has any.

* `authorizeClaims` — the claims of a token to an authorization;
* `authorizeClaims_iff` — by the words of the scope claim;
* `Usable` — what a mapping is for, and `usable_iff`.
-/

namespace WebhookMonitor

open Python

/-- The claims of a token to an authorization: the end of `authenticate`, and
`authorize_management_capability`. -/
def authorizeClaims (config : OidcJwtConfig) (scopePolicy : ManagementScopePolicy)
    (claims : Members) (capability : ManagementCapability) :
    Except AppError ManagementAuthorization := do
  let principal ← principalOfClaims config claims
  authorizeManagementCapability principal capability scopePolicy

/-- Claims that name a subject, a client and a token, with a scope claim. -/
structure ClaimScope (claims : Members) (scope : Str) : Prop where
  subject : ∃ subject, Members.get claims "sub" = .str subject ∧ strip subject ≠ []
  clientId : ∃ clientId, Members.get claims "client_id" = .str clientId ∧ strip clientId ≠ []
  jwtId : ∃ jwtId, Members.get claims "jti" = .str jwtId ∧ strip jwtId ≠ []
  scope : Members.get claims "scope" = .str scope

/-- The claims are authorized for the capability. -/
def Authorized (config : OidcJwtConfig) (scopePolicy : ManagementScopePolicy) (claims : Members)
    (capability : ManagementCapability) : Prop :=
  ∃ authorization, authorizeClaims config scopePolicy claims capability = .ok authorization

section Claims

variable {config : OidcJwtConfig} {scopePolicy : ManagementScopePolicy} {claims : Members}
  {scope : Str} {capability : ManagementCapability}

theorem requireClaim_of_str {name value : Str} {message : String}
    (claim : Members.get claims name = .str value) (nonblank : strip value ≠ []) :
    requireClaim claims name message = .ok value := by
  rw [requireClaim, claim]
  exact if_neg nonblank

/-- The principal of claims with a scope claim. -/
theorem principalOfClaims_of_scope (given : ClaimScope claims scope) :
    ∃ principal, principalOfClaims config claims = .ok principal ∧
      principal.authenticationMethod = .oidcJwt ∧ principal.scopes = (words scope).toFinset := by
  obtain ⟨subject, hsubject, subjectGiven⟩ := given.subject
  obtain ⟨clientId, hclientId, clientIdGiven⟩ := given.clientId
  obtain ⟨jwtId, hjwtId, jwtIdGiven⟩ := given.jwtId
  rw [principalOfClaims, requireClaim_of_str hsubject subjectGiven,
    requireClaim_of_str hclientId clientIdGiven, requireClaim_of_str hjwtId jwtIdGiven, given.scope]
  exact ⟨_, rfl, rfl, rfl⟩

/-- A token is authorized when the words of its scope claim include the capability's scope
or the full-management scope. -/
theorem authorized_iff (given : ClaimScope claims scope) :
    Authorized config scopePolicy claims capability ↔
      scopePolicy.scopeFor capability ∈ words scope ∨
        scopePolicy.fullManagementScope ∈ words scope := by
  obtain ⟨principal, principalOf, oidc, scopes⟩ := @principalOfClaims_of_scope config _ _ given
  rw [Authorized, authorizeClaims, principalOf]
  rw [ok_bind, authorizeManagementCapability_oidc oidc, scopes, List.mem_toFinset,
    List.mem_toFinset]

end Claims

/-! ## What a mapping is for -/

/-- A mapping that tells the capabilities apart, and whose scopes tokens can have. -/
structure ManagementScopePolicy.Usable (scopePolicy : ManagementScopePolicy) : Prop where
  /-- The scope of a capability, alone, authorizes this capability and no other. -/
  separates : ∀ config claims capability,
    ClaimScope claims (scopePolicy.scopeFor capability) → ∀ other,
      Authorized config scopePolicy claims other ↔ other = capability
  /-- The full-management scope, alone, authorizes all. -/
  umbrella : ∀ config claims, ClaimScope claims scopePolicy.fullManagementScope → ∀ capability,
    Authorized config scopePolicy claims capability
  /-- The words of the claim decide. -/
  by_words : ∀ config claims scope capability, ClaimScope claims scope →
    (Authorized config scopePolicy claims capability ↔
      scopePolicy.scopeFor capability ∈ words scope ∨
        scopePolicy.fullManagementScope ∈ words scope)
  /-- Other words make no difference. -/
  other_words : ∀ config claims claims' scope scope' capability, ClaimScope claims scope →
    ClaimScope claims' scope' →
    (∀ word ∈ [scopePolicy.scopeFor capability, scopePolicy.fullManagementScope],
      word ∈ words scope' ↔ word ∈ words scope) →
    (Authorized config scopePolicy claims' capability ↔
      Authorized config scopePolicy claims capability)
  /-- Some claim has the scope. -/
  matchable : ∀ scope ∈ scopePolicy.scopes, ∃ claim scopes,
    parseScopeClaim claim = .ok scopes ∧ scope ∈ scopes

section Usable

variable {scopePolicy : ManagementScopePolicy}

theorem mem_scopes_scopeFor (capability : ManagementCapability) :
    scopePolicy.scopeFor capability ∈ scopePolicy.scopes := by
  cases capability <;> simp [ManagementScopePolicy.scopes, ManagementScopePolicy.scopeFor]

theorem full_mem_scopes : scopePolicy.fullManagementScope ∈ scopePolicy.scopes :=
  List.mem_cons_self

/-- Distinct scopes name distinct capabilities, none of them all. -/
theorem ManagementScopePolicy.Valid.separates (valid : scopePolicy.Valid)
    (capability other : ManagementCapability) :
    (scopePolicy.scopeFor other = scopePolicy.scopeFor capability ↔ other = capability) ∧
      scopePolicy.fullManagementScope ≠ scopePolicy.scopeFor capability := by
  have distinct := valid.distinct
  simp only [ManagementScopePolicy.scopes, List.nodup_cons, List.mem_cons, List.not_mem_nil,
    or_false, not_or, not_false_eq_true, List.nodup_nil, and_true] at distinct
  obtain ⟨⟨hd, hr, he⟩, ⟨hdr, hde⟩, hre⟩ := distinct
  cases capability <;> cases other <;>
    simp [ManagementScopePolicy.scopeFor, *, Ne.symm hdr, Ne.symm hde, Ne.symm hre]

/-- No scope has white space. -/
def ManagementScopePolicy.Solid (scopePolicy : ManagementScopePolicy) : Prop :=
  ∀ scope ∈ scopePolicy.scopes, ∀ c ∈ scope, isSpace c = false

/-- A scope without white space is the one word of its claim. -/
theorem words_of_solid (valid : scopePolicy.Valid) (solid : scopePolicy.Solid) {scope : Str}
    (mem : scope ∈ scopePolicy.scopes) : words scope = [scope] := by
  refine words_eq_singleton ?_ (solid scope mem)
  rintro rfl
  exact valid.nonblank [] mem rfl

theorem usable_of_solid (valid : scopePolicy.Valid) (solid : scopePolicy.Solid) :
    scopePolicy.Usable where
  separates config claims capability given other := by
    obtain ⟨same, full⟩ := valid.separates capability other
    rw [authorized_iff given, words_of_solid valid solid (mem_scopes_scopeFor capability),
      List.mem_singleton, List.mem_singleton, same]
    exact or_iff_left full
  umbrella config claims given capability := by
    rw [authorized_iff given, words_of_solid valid solid full_mem_scopes]
    exact .inr (List.mem_singleton_self _)
  by_words config claims scope capability given := authorized_iff given
  other_words config claims claims' scope scope' capability given given' same := by
    rw [authorized_iff given, authorized_iff given', same _ List.mem_cons_self,
      same _ (List.mem_cons_of_mem _ (List.mem_singleton_self _))]
  matchable scope mem := by
    refine ⟨.str scope, _, rfl, ?_⟩
    rw [List.mem_toFinset, words_of_solid valid solid mem]
    exact List.mem_singleton_self scope

/-- A scope with white space is in no claim. -/
theorem solid_of_usable (usable : scopePolicy.Usable) : scopePolicy.Solid := by
  intro scope mem
  obtain ⟨claim, scopes, parsed, held⟩ := usable.matchable scope mem
  cases claim with
  | str text =>
      cases parsed
      exact (forall_not_isSpace_of_mem_words (List.mem_toFinset.mp held)).2
  | null | bool | int | float | list | dict => cases parsed

end Usable

/-! ## Accepted mappings -/

/-- The four scopes of the settings, where the deprecated setting replaces the first. -/
def Settings.effectiveScopes (raw : Settings) : List Str :=
  [raw.managementOidcRequiredScope.getD raw.managementOidcFullManagementScope,
    raw.managementOidcDiagnosticsReadScope, raw.managementOidcRecoveryReadScope,
    raw.managementOidcRecoveryExecuteScope]

/-- An accepted mapping can be used exactly when none of its scopes has white space. -/
theorem usable_iff {raw settings : Settings}
    (accepted : raw.validateRuntimeConfiguration = .ok settings)
    (enabled : raw.managementApiEnabled = true) (oidc : raw.managementAuthMode = .oidcJwt) :
    settings.managementScopePolicy.Usable ↔
      ∀ scope ∈ raw.effectiveScopes, ∀ c ∈ scope, isSpace c = false := by
  have passed := (Settings.validateRuntimeConfiguration_ok accepted).oidc enabled oidc
  have scopes : settings.managementScopePolicy.scopes = raw.effectiveScopes := by
    rw [passed.replaced]
    rfl
  rw [← scopes]
  exact ⟨solid_of_usable, usable_of_solid passed.mapping⟩

/-- Settings whose scope for diagnostics has a blank inside. -/
def blankInsideSettings : Settings :=
  { managementApiEnabled := true
    managementAuthMode := .oidcJwt
    managementOidcIssuer := some (Str.lit "https://i")
    managementOidcAudience := some (Str.lit "a")
    managementOidcDiagnosticsReadScope := "read diagnostics" }

/-- The mapping is accepted, and a token with its scope for diagnostics is authorized for
nothing. -/
theorem blankInside_unusable :
    blankInsideSettings.validateRuntimeConfiguration = .ok blankInsideSettings ∧
      ¬ blankInsideSettings.managementScopePolicy.Usable ∧
      ∀ config claims, ClaimScope claims "read diagnostics" → ∀ capability,
        ¬ Authorized config blankInsideSettings.managementScopePolicy claims capability := by
  refine ⟨by rfl, fun usable => ?_, fun config claims given capability authorized => ?_⟩
  · have solid := solid_of_usable usable (Str.lit "read diagnostics")
      (List.mem_cons_of_mem _ List.mem_cons_self) (CodePoint.ofChar ' ') (by decide)
    exact absurd solid (by decide)
  · have unmatched : blankInsideSettings.managementScopePolicy.scopeFor capability ∉
          words "read diagnostics" ∧
        blankInsideSettings.managementScopePolicy.fullManagementScope ∉
          words "read diagnostics" := by
      cases capability <;> decide +kernel
    rcases (authorized_iff given).mp authorized with held | held
    · exact unmatched.1 held
    · exact unmatched.2 held

/-- Settings with the scopes of the documentation. -/
def documentedSettings : Settings :=
  { managementApiEnabled := true
    managementAuthMode := .oidcJwt
    managementOidcIssuer := some (Str.lit "https://i")
    managementOidcAudience := some (Str.lit "a")
    managementOidcRequiredScope := some (Str.lit "full.manage") }

/-- What the validation makes of them. -/
def documentedAccepted : Settings :=
  { documentedSettings with managementOidcFullManagementScope := Str.lit "full.manage" }

theorem usable_iff_sample :
    documentedAccepted.managementScopePolicy.Usable ↔
      ∀ scope ∈ documentedSettings.effectiveScopes, ∀ c ∈ scope, isSpace c = false :=
  usable_iff (show documentedSettings.validateRuntimeConfiguration = .ok documentedAccepted by rfl)
    rfl rfl

end WebhookMonitor
